import RemoteDevice.Can.Reader

/-!
# Proofs.Can.LastValue — what a cache gives is the last value

A history is everything that happened to a reader of frames, the newest first. Whatever it is, the
cache gives for each id in its range the frame that was the last one: it was delivered before the
reader was stopped, passed the filter in force at that time, and neither another such frame nor a
failure came after it.
-/

namespace RemoteDevice.Can

/-! ## Histories -/

/-- What happens to a reader and its cache. -/
inductive Operation where
  | event (e : Event)
  | setFilter (filter : Option FilterSet)
  | wake
  | get (id : UInt32)
  | lookup (id : UInt32) (policy : RetryPolicy)
  | stop

/-- The operation brings nothing and makes nothing stale. -/
def Operation.isQuiet : Operation → Bool
  | .event .idle => true
  | .event _ => false
  | .stop => false
  | _ => true

/-- The filter in force after a history. -/
def inForce (filter : Option FilterSet) : List Operation → Option FilterSet
  | [] => filter
  | .setFilter filter' :: _ => filter'
  | _ :: older => inForce filter older

/-- The event takes the place of whatever the cache had for the id: it is a frame of this id that
passes, or it makes everything stale. -/
def Event.displaces (filter : Option FilterSet) (id : UInt32) : Event → Prop
  | .frame f => f.id = id ∧ passes filter f.id = true
  | .idle => False
  | .closed => True
  | .failed _ => True

/-- In a history the frame is the last one of the id: it came before a stop and passed, and no event
that came later, but before a stop as well, took its place. -/
def Latest (filter : Option FilterSet) (id : UInt32) (f : Frame) (history : List Operation) : Prop :=
  ∃ older, .event (.frame f) :: older <:+ history ∧ .stop ∉ older ∧ f.id = id ∧
    passes (inForce filter older) f.id = true ∧
    ∀ e since, .event e :: (since ++ .event (.frame f) :: older) <:+ history → .stop ∉ since →
      ¬ e.displaces (inForce filter (since ++ .event (.frame f) :: older)) id

/-- What one operation more does to the last frame: it is the new one, or the old one if that was
not displaced. -/
theorem latest_cons {filter : Option FilterSet} {id : UInt32} {f : Frame} {op : Operation}
    {history : List Operation} : Latest filter id f (op :: history) ↔
      (op = .event (.frame f) ∧ .stop ∉ history ∧ f.id = id ∧
        passes (inForce filter history) f.id = true) ∨
      (Latest filter id f history ∧
        ¬ ∃ e, op = .event e ∧ .stop ∉ history ∧ e.displaces (inForce filter history) id) := by
  constructor
  -- the last frame was brought by the newest operation, or was the last one before it
  · rintro ⟨older, hsuffix, hstop, hid, hpasses, hlater⟩
    rcases List.suffix_cons_iff.1 hsuffix with heq | hbefore
    · rcases List.cons.inj heq with ⟨rfl, rfl⟩
      exact Or.inl ⟨rfl, hstop, hid, hpasses⟩
    · refine Or.inr ⟨⟨older, hbefore, hstop, hid, hpasses, ?_⟩, ?_⟩
      · intro e since hsince
        exact hlater e since (List.suffix_cons_iff.2 (Or.inr hsince))
      · rintro ⟨e, rfl, hrunning, hdisplaces⟩
        rcases hbefore with ⟨since, rfl⟩
        have hsince : Operation.stop ∉ since := fun h => hrunning (List.mem_append_left _ h)
        exact hlater e since List.suffix_rfl hsince hdisplaces
  · rintro (⟨rfl, hstop, hid, hpasses⟩ | ⟨⟨older, hsuffix, hstop, hid, hpasses, hlater⟩, hkept⟩)
    · refine ⟨history, List.suffix_rfl, hstop, hid, hpasses, ?_⟩
      -- nothing came after the newest operation
      intro e since hsince
      have hlength := hsince.length_le
      rw [List.length_cons, List.length_append, List.length_cons] at hlength
      omega
    · refine ⟨older, List.suffix_cons_iff.2 (Or.inr hsuffix), hstop, hid, hpasses, ?_⟩
      intro e since hsince hrunning hdisplaces
      rcases List.suffix_cons_iff.1 hsince with heq | hsince
      · rcases List.cons.inj heq with ⟨rfl, rfl⟩
        refine hkept ⟨e, rfl, ?_, hdisplaces⟩
        simp [hrunning, hstop]
      · exact hlater e since hsince hrunning hdisplaces

/-- Only events that reach the reader concern the last frame. -/
theorem latest_cons_of_unheard {filter : Option FilterSet} {id : UInt32} {f : Frame}
    {op : Operation} {history : List Operation} (h : ∀ e, op = .event e → .stop ∈ history) :
    Latest filter id f (op :: history) ↔ Latest filter id f history := by
  rw [latest_cons]
  constructor
  · rintro (⟨heq, hstop, -⟩ | ⟨hlatest, -⟩)
    · exact absurd (h _ heq) hstop
    · exact hlatest
  · intro hlatest
    refine Or.inr ⟨hlatest, ?_⟩
    rintro ⟨e, heq, hstop, -⟩
    exact hstop (h e heq)

/-! ## Caches of a range -/

namespace FrameCache

/-- The cache has a slot and a bit for each id from `first` up to `stop`. -/
structure Covers (first stop : UInt32) (c : FrameCache) : Prop where
  start : c.start = first
  lt : first < stop
  size : c.slots.size = (stop - first).toNat
  words : c.fresh.words.size = (c.slots.size + 31) / 32

variable {first stop id : UInt32} {c : FrameCache}

/-- A cache is made of a range that is not empty and not too wide. -/
theorem make_eq_ok_iff : make first stop = .ok c ↔
    first < stop ∧ (stop - first).toNat ≤ Transport.maxIds ∧
      c = ⟨first, Array.replicate (stop - first).toNat none, .none (stop - first).toNat⟩ := by
  unfold make
  split
  · next hempty => simp [UInt32.not_lt.2 hempty]
  · next hlt =>
    dsimp only
    split
    · next hwide => simp [Nat.not_le.2 hwide]
    · next hfits =>
      rw [Except.ok.injEq, eq_comm]
      simp only [UInt32.not_le.1 hlt, Nat.not_lt.1 hfits, true_and]

/-- A cache that is made covers its range. -/
theorem covers_of_make (h : make first stop = .ok c) : c.Covers first stop := by
  obtain ⟨hlt, -, rfl⟩ := make_eq_ok_iff.1 h
  exact ⟨rfl, hlt, by simp, by simp [Freshness.none]⟩

/-- A new cache has no frames. -/
theorem frameAt_of_make (h : make first stop = .ok c) (i : Nat) : c.frameAt i = none := by
  obtain ⟨-, -, rfl⟩ := make_eq_ok_iff.1 h
  simp [frameAt, Freshness.test_none]

/-- The slots of a range. -/
theorem Covers.slot?_eq (h : c.Covers first stop) (id : UInt32) :
    c.slot? id = if first ≤ id ∧ id < stop then some (id.toNat - first.toNat) else none := by
  have hlt : first.toNat < stop.toNat := UInt32.lt_iff_toNat_lt.1 h.lt
  have hwidth : (stop - first).toNat = stop.toNat - first.toNat :=
    UInt32.toNat_sub_of_le _ _ (UInt32.le_of_lt h.lt)
  unfold slot?
  rw [h.start, h.size, hwidth]
  by_cases hle : first ≤ id
  · have hplace : (id - first).toNat = id.toNat - first.toNat := UInt32.toNat_sub_of_le _ _ hle
    have hle' : first.toNat ≤ id.toNat := UInt32.le_iff_toNat_le.1 hle
    have hiff : id.toNat - first.toNat < stop.toNat - first.toNat ↔ id < stop := by
      rw [UInt32.lt_iff_toNat_lt]
      omega
    simp only [hle, hplace, hiff, true_and]
  · simp [hle]

/-- Ids outside of the range have no slot. -/
theorem Covers.get_outside (h : c.Covers first stop) (hid : ¬(first ≤ id ∧ id < stop)) :
    c.get id = .error (.notBuffered id) := by
  unfold get
  rw [h.slot?_eq, if_neg hid]

/-- For an id of the range the cache gives what is in its place. -/
theorem Covers.get_inside (h : c.Covers first stop) (hid : first ≤ id ∧ id < stop) :
    c.get id = .ok (c.frameAt (id.toNat - first.toNat)) := by
  unfold get
  rw [h.slot?_eq, if_pos hid]

/-! ### Storing and invalidating -/

/-- Storing a frame leaves the range covered. -/
theorem Covers.store (h : c.Covers first stop) (f : Frame) : (c.store f).2.Covers first stop := by
  unfold FrameCache.store
  split
  · exact ⟨h.start, h.lt, by simp [h.size], by simp [Freshness.mark, h.words]⟩
  · exact h

theorem Covers.invalidate (h : c.Covers first stop) : c.invalidate.Covers first stop :=
  ⟨h.start, h.lt, h.size, by simp [FrameCache.invalidate, Freshness.clear, h.words]⟩

/-- A slot that is written and marked shows what was written, and the others what they did. -/
theorem frameAt_store {i : Nat} (f : Frame) (hi : i < c.slots.size)
    (hwords : c.fresh.words.size = (c.slots.size + 31) / 32) (j : Nat) :
    frameAt { c with slots := c.slots.setIfInBounds i (some f), fresh := c.fresh.mark i } j =
      if i = j then some f else c.frameAt j := by
  have hword : i / 32 < c.fresh.words.size := by omega
  unfold frameAt
  rw [Freshness.test_mark hword]
  by_cases hij : i = j
  · subst hij
    simp [hi]
  · simp [hij]

/-- Storing a frame shows under its own id and no other. -/
theorem Covers.get_store (h : c.Covers first stop) (f : Frame) (hid : first ≤ id ∧ id < stop) :
    (c.store f).2.get id = if f.id = id then .ok (some f) else c.get id := by
  rw [(h.store f).get_inside hid, h.get_inside hid]
  unfold FrameCache.store
  rw [h.slot?_eq f.id]
  by_cases hin : first ≤ f.id ∧ f.id < stop
  · rw [if_pos hin]
    dsimp only
    have hfirst := UInt32.le_iff_toNat_le.1 hin.1
    have hlt := UInt32.lt_iff_toNat_lt.1 hin.2
    have hfirst' := UInt32.le_iff_toNat_le.1 hid.1
    -- ids of the range are apart by as much as their slots are, as none is below `first`
    have hslot : f.id.toNat - first.toNat < c.slots.size := by
      rw [h.size, UInt32.toNat_sub_of_le _ _ (UInt32.le_of_lt h.lt)]
      omega
    have hsame : f.id.toNat - first.toNat = id.toNat - first.toNat ↔ f.id = id := by
      rw [← UInt32.toNat_inj]
      omega
    rw [frameAt_store f hslot h.words]
    simp only [hsame]
    split <;> rfl
  · -- a frame from outside of the range is not stored at all
    have hne : f.id ≠ id := fun heq => hin (heq ▸ hid)
    rw [if_neg hin, if_neg hne]

/-- After an invalidation no frame is given, wherever it may still stand. -/
theorem Covers.get_invalidate (h : c.Covers first stop) (hid : first ≤ id ∧ id < stop) :
    c.invalidate.get id = .ok none := by
  rw [h.invalidate.get_inside hid]
  simp [frameAt, FrameCache.invalidate, Freshness.test_clear]

/-! ### Looking up -/

/-- However often a reader looks, it finds what is there the first time if nothing happens
meanwhile. -/
theorem lookupDuring_eq (c : FrameCache) (id : UInt32) (attempts : Nat) :
    lookupDuring id (attempts + 1) [] c = (match c.get id with
      | .error e => .error e
      | .ok (some f) => .ok f
      | .ok none => .error (.timeout id), c) := by
  induction attempts with
  | zero =>
    unfold lookupDuring
    cases c.get id with
    | error e => rfl
    | ok found => cases found <;> rfl
  | succ attempts ih =>
    unfold lookupDuring
    cases h : c.get id with
    | error e => rfl
    | ok found =>
      cases found with
      | none => simp only [ih, h]
      | some f => rfl

/-- A look-up gives what the cache has for the id, and fails if it has nothing. -/
theorem lookup_eq (c : FrameCache) (id : UInt32) (policy : RetryPolicy) :
    c.lookup id policy = match c.get id with
      | .error e => .error e
      | .ok (some f) => .ok f
      | .ok none => .error (.timeout id) := by
  -- a reader looks once at least
  obtain ⟨attempts, h⟩ : ∃ attempts, policy.probes = attempts + 1 :=
    Nat.exists_eq_add_one.2 (Nat.le_max_right _ _)
  unfold lookup
  rw [h, lookupDuring_eq]

/-- With nothing happening meanwhile, a look-up finds exactly what a look gives. -/
theorem lookup_eq_ok_iff {policy : RetryPolicy} {f : Frame} :
    c.lookup id policy = .ok f ↔ c.get id = .ok (some f) := by
  rw [lookup_eq]
  cases c.get id with
  | error e => simp
  | ok found => cases found <;> simp

/-! ### Events -/

/-- An event leaves the range covered, whatever filter is in force. -/
theorem Covers.take (h : c.Covers first stop) (filter : Option FilterSet) (e : Event) :
    (c.take filter e).Covers first stop := by
  cases e with
  | frame f =>
    unfold FrameCache.take
    dsimp only
    split
    · exact h.store f
    · exact h
  | idle => exact h
  | closed => exact h.invalidate
  | failed e => exact h.invalidate

/-- A frame that comes in is given from then on for its own id, if the filter lets it pass, and
changes nothing for the others. -/
theorem Covers.get_take_frame (h : c.Covers first stop) (hid : first ≤ id ∧ id < stop)
    (filter : Option FilterSet) (g : Frame) : (c.take filter (.frame g)).get id =
      if g.id = id ∧ passes filter g.id = true then .ok (some g) else c.get id := by
  unfold FrameCache.take
  dsimp only
  by_cases hpass : passes filter g.id = true
  · rw [if_pos hpass, h.get_store g hid]
    simp only [hpass, and_true]
  · rw [if_neg hpass, if_neg fun hboth => hpass hboth.2]

/-- What an event leaves for an id: the frame it brought, or what was there unless it took its
place. -/
theorem Covers.get_take (h : c.Covers first stop) {found : Option Frame}
    (hid : first ≤ id ∧ id < stop) (hfound : c.get id = .ok found) (filter : Option FilterSet)
    (e : Event) : ∃ found', (c.take filter e).get id = .ok found' ∧
      ∀ f, found' = some f ↔
        (e = .frame f ∧ f.id = id ∧ passes filter f.id = true) ∨
        (found = some f ∧ ¬ e.displaces filter id) := by
  cases e with
  | frame g =>
    rw [h.get_take_frame hid]
    -- a frame takes the place of what was there exactly if it is given from now on
    by_cases hdisplaces : g.id = id ∧ passes filter g.id = true
    · refine ⟨some g, if_pos hdisplaces, ?_⟩
      intro f
      constructor
      · rintro ⟨⟩
        exact Or.inl ⟨rfl, hdisplaces⟩
      · rintro (⟨⟨⟩, -, -⟩ | ⟨-, hkept⟩)
        · rfl
        · exact absurd hdisplaces hkept
    · refine ⟨found, by rw [if_neg hdisplaces, hfound], ?_⟩
      intro f
      constructor
      · intro hf
        exact Or.inr ⟨hf, hdisplaces⟩
      · rintro (⟨⟨⟩, hnew⟩ | ⟨hf, -⟩)
        · exact absurd hnew hdisplaces
        · exact hf
  | idle => exact ⟨found, hfound, by simp [Event.displaces]⟩
  | closed => exact ⟨none, h.get_invalidate hid, by simp [Event.displaces]⟩
  | failed e => exact ⟨none, h.get_invalidate hid, by simp [Event.displaces]⟩

end FrameCache

/-! ## Readers -/

namespace BufferReader

/-- The reader after one operation. Waking it and reading the cache leave it as it is. -/
def after (r : BufferReader) : Operation → BufferReader
  | .event e => r.deliver e
  | .setFilter filter => r.setFilter filter
  | .wake => r
  | .get _ => r
  | .lookup _ _ => r
  | .stop => r.stop.2

/-- The reader after a history. -/
def run (r : BufferReader) : List Operation → BufferReader
  | [] => r
  | op :: older => (r.run older).after op

variable {first stop id : UInt32} {c : FrameCache}

/-- A reader that began with an empty cache, after a history. -/
structure Follows (first stop : UInt32) (filter : Option FilterSet) (history : List Operation)
    (r : BufferReader) : Prop where
  covers : r.cache.Covers first stop
  filter_eq : r.filter = inForce filter history
  running : r.running = true ↔ .stop ∉ history
  latest : ∀ id, first ≤ id ∧ id < stop → ∃ found, r.cache.get id = .ok found ∧
    ∀ f, found = some f ↔ Latest filter id f history

/-- A reader that began with an empty cache. -/
theorem follows_nil (hmake : FrameCache.make first stop = .ok c) (filter : Option FilterSet) :
    Follows first stop filter [] ⟨c, filter, true⟩ := by
  have hcovers := FrameCache.covers_of_make hmake
  refine ⟨hcovers, rfl, by simp, ?_⟩
  intro id hid
  refine ⟨none, ?_, by simp [Latest]⟩
  rw [hcovers.get_inside hid, FrameCache.frameAt_of_make hmake]

/-- A running reader takes an event. -/
theorem Follows.event {filter : Option FilterSet} {history : List Operation} {r : BufferReader}
    (h : Follows first stop filter history r) (hrunning : r.running = true) (e : Event) :
    Follows first stop filter (.event e :: history)
      { r with cache := r.cache.take r.filter e } := by
  have hstop := h.running.1 hrunning
  refine ⟨h.covers.take r.filter e, h.filter_eq, by simp [h.running], ?_⟩
  intro id hid
  rcases h.latest id hid with ⟨found, hfound, hlatest⟩
  rcases h.covers.get_take hid hfound r.filter e with ⟨found', hfound', htake⟩
  refine ⟨found', hfound', ?_⟩
  intro f
  rw [htake, latest_cons, hlatest, ← h.filter_eq]
  simp [hstop]

/-- Any other operation, or an event that does not reach the reader. -/
theorem Follows.unheard {filter : Option FilterSet} {history : List Operation}
    {r r' : BufferReader} {op : Operation} (h : Follows first stop filter history r)
    (hcache : r'.cache = r.cache) (hfilter : r'.filter = inForce filter (op :: history))
    (hrunning : r'.running = true ↔ .stop ∉ op :: history)
    (hop : ∀ e, op = .event e → .stop ∈ history) : Follows first stop filter (op :: history) r' := by
  refine ⟨hcache ▸ h.covers, hfilter, hrunning, ?_⟩
  intro id hid
  rcases h.latest id hid with ⟨found, hfound, hlatest⟩
  refine ⟨found, hcache ▸ hfound, ?_⟩
  intro f
  rw [latest_cons_of_unheard hop]
  exact hlatest f

/-- One operation more is one more in the history. -/
theorem Follows.step {filter : Option FilterSet} {history : List Operation} {r : BufferReader}
    (h : Follows first stop filter history r) (op : Operation) :
    Follows first stop filter (op :: history) (r.after op) := by
  cases op with
  | event e =>
    show Follows first stop filter (.event e :: history) (r.deliver e)
    unfold deliver
    by_cases hrunning : r.running = true
    · rw [if_pos hrunning]
      exact h.event hrunning e
    · -- a reader that was stopped hears nothing any more
      have hstopped : Operation.stop ∈ history := by simpa [h.running] using hrunning
      rw [if_neg hrunning]
      exact h.unheard rfl h.filter_eq (by simp [h.running]) fun _ _ => hstopped
  | setFilter filter' => exact h.unheard rfl rfl (by simp [after, setFilter, h.running]) (by simp)
  | wake => exact h.unheard rfl h.filter_eq (by simp [after, h.running]) (by simp)
  | get id => exact h.unheard rfl h.filter_eq (by simp [after, h.running]) (by simp)
  | lookup id policy => exact h.unheard rfl h.filter_eq (by simp [after, h.running]) (by simp)
  | stop => exact h.unheard rfl h.filter_eq (by simp [after, BufferReader.stop]) (by simp)

/-- A reader on a new cache follows whatever happens to it. -/
theorem follows_run (hmake : FrameCache.make first stop = .ok c) (filter : Option FilterSet)
    (history : List Operation) :
    Follows first stop filter history (run ⟨c, filter, true⟩ history) := by
  -- the newest operation is the first of the history, and the last one that is done
  induction history with
  | nil => exact follows_nil hmake filter
  | cons op older ih => exact ih.step op

/-- What brings nothing changes nothing in the cache. -/
theorem cache_after_of_isQuiet {op : Operation} (h : op.isQuiet = true) (r : BufferReader) :
    (r.after op).cache = r.cache := by
  cases op with
  | event e =>
    cases e with
    | idle =>
      show (r.deliver .idle).cache = r.cache
      unfold deliver
      split <;> rfl
    | _ => simp [Operation.isQuiet] at h
  | stop => simp [Operation.isQuiet] at h
  | _ => rfl

/-- Whatever happens to a reader, its cache gives for every id of its range the last frame of that
id, or none if there is none; ids outside of the range are not buffered; and neither a look into the
cache, nor waking the reader, nor another filter, nor an event that brings nothing changes what the
cache gives. -/
theorem get_eq_latest (hmake : FrameCache.make first stop = .ok c) (filter : Option FilterSet)
    (history : List Operation) (id : UInt32) :
    let r := run ⟨c, filter, true⟩ history
    (first ≤ id ∧ id < stop → ∃ found, r.cache.get id = .ok found ∧
      ∀ f, found = some f ↔ Latest filter id f history) ∧
    (¬(first ≤ id ∧ id < stop) → r.cache.get id = .error (.notBuffered id)) ∧
    ∀ op, op.isQuiet = true → (r.after op).cache.get id = r.cache.get id := by
  have h := follows_run hmake filter history
  refine ⟨h.latest id, h.covers.get_outside, ?_⟩
  intro op hop
  rw [cache_after_of_isQuiet hop]

/-- A frame, a closed socket, and another frame of the same id: the second one is given. -/
theorem get_eq_latest_of_two : ∃ c f, FrameCache.make 0x100 0x102 = .ok c ∧ f.data = [2] ∧
    (run ⟨c, none, true⟩ [.event (.frame f), .event .closed,
      .event (.frame ⟨0x100, [1], by decide⟩)]).cache.get 0x100 = .ok (some f) := by
  let f : Frame := ⟨0x100, [2], by decide⟩
  have hmake : FrameCache.make 0x100 0x102 = .ok ⟨0x100, Array.replicate 2 none, .none 2⟩ := rfl
  refine ⟨_, f, hmake, rfl, ?_⟩
  obtain ⟨hinside, -, -⟩ := get_eq_latest hmake none
    [.event (.frame f), .event .closed, .event (.frame ⟨0x100, [1], by decide⟩)] 0x100
  rcases hinside (by decide) with ⟨found, hfound, hlatest⟩
  have hf : found = some f := (hlatest f).2 (latest_cons.2 (Or.inl ⟨rfl, by simp, rfl, rfl⟩))
  rw [hfound, hf]

end BufferReader

end RemoteDevice.Can
