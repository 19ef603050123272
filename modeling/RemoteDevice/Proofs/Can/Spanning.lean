import RemoteDevice.Proofs.Can.Coverage
import RemoteDevice.Proofs.Can.Denotation

/-!
# Proofs.Can.Spanning — a buffer that is made for a filter

A bus whose options name a filter and set the flag for buffering begins to buffer at once, from the
lowest id of the filter to the highest. All ids of a filter are canonical, so that the range has a
slot for each of them: whatever becomes of the bus while it buffers, a frame of such an id finds its
slot, and so does everyone who looks for one.
-/

namespace RemoteDevice.Can

open Options
open Transport (Error)

/-! ## The bounds of a filter -/

namespace FilterSet

/-- A filter contains an id if it holds the canonical form of it. -/
theorem contains_iff {f : FilterSet} {id : UInt32} :
    f.contains id = true ↔ canonicalId id ∈ f.ids := by
  unfold contains
  rw [List.contains_iff_mem]

/-- A filter that accepts something has a lowest and a highest id, and all others lie between. -/
theorem exists_bounds {f : FilterSet} (hne : f.ids ≠ []) : ∃ low high, f.min? = some low ∧
    f.max? = some high ∧ high ∈ f.ids ∧ ∀ id ∈ f.ids, low ≤ id ∧ id ≤ high := by
  obtain ⟨low, rest, hlow⟩ := List.exists_cons_of_ne_nil hne
  obtain ⟨before, high, hhigh⟩ : ∃ before high, f.ids = before ++ [high] :=
    ⟨_, _, (List.dropLast_append_getLast hne).symm⟩
  have hmin : f.min? = some low := by rw [min?, hlow, List.head?_cons]
  have hmax : f.max? = some high := by rw [max?, hhigh, List.getLast?_concat]
  have habove := hlow ▸ f.ascending
  have hbelow := hhigh ▸ f.ascending
  refine ⟨low, high, hmin, hmax, by simp [hhigh], fun id hid => ⟨?_, ?_⟩⟩
  · rcases List.mem_cons.1 (hlow ▸ hid) with rfl | hid
    · exact UInt32.le_refl _
    · exact UInt32.le_of_lt ((List.pairwise_cons.1 habove).1 id hid)
  · rcases List.mem_append.1 (hhigh ▸ hid) with hid | hid
    · exact UInt32.le_of_lt ((List.pairwise_append.1 hbelow).2.2 id hid high (by simp))
    · rw [List.mem_singleton.1 hid]
      exact UInt32.le_refl _

/-- The ids of a filter that was read are canonical, so that the next number after each is an id as
well. -/
theorem toNat_add_one_of_parse {spec : String} {f : FilterSet} (hparse : parse spec = .ok f)
    {id : UInt32} (hid : id ∈ f.ids) : (id + 1).toNat = id.toNat + 1 := by
  obtain ⟨_, -, _, _, -, x, -, -, rfl⟩ := (mem_of_parse hparse id).1 hid
  have hlt := toNat_canonicalId_lt x
  rw [UInt32.toNat_add]
  exact Nat.mod_eq_of_lt (by show _ + 1 < 0x100000000; omega)

end FilterSet

/-- Whether a frame passes is a matter of the canonical form of its id. -/
theorem passes_canonicalId (filter : Option FilterSet) (id : UInt32) :
    passes filter (canonicalId id) = passes filter id := by
  cases filter with
  | none => rfl
  | some set => exact set.contains_canonicalId id

/-! ## Looking up while frames come in -/

namespace FrameCache

variable {first stop id : UInt32} {c : FrameCache}

/-- What becomes of a cache while events come in, each under the filter that is in force then. -/
def takeAll (events : List (Option FilterSet × Event)) (c : FrameCache) : FrameCache :=
  events.foldl (fun c e => c.take e.1 e.2) c

/-- Whatever comes in, the range stays covered. -/
theorem Covers.takeAll (h : c.Covers first stop) (events : List (Option FilterSet × Event)) :
    (c.takeAll events).Covers first stop := by
  induction events generalizing c with
  | nil => exact h
  | cons e events ih => exact ih (h.take e.1 e.2)

theorem Covers.range_eq (h : c.Covers first stop) : c.range = (first, stop) := by
  unfold FrameCache.range
  rw [h.start, h.size, UInt32.ofNat_toNat, UInt32.add_comm, UInt32.sub_add_cancel]

/-- Whoever looks for an id of the range finds a frame or waits in vain, but is never told that the
id is not buffered. -/
theorem Covers.lookupDuring_ne (h : c.Covers first stop) (hid : first ≤ id ∧ id < stop)
    (attempts : Nat) (waits : List (List (Option FilterSet × Event))) (x : UInt32) :
    (lookupDuring id attempts (waits.map FrameCache.takeAll) c).1 ≠ .error (.notBuffered x) := by
  induction attempts generalizing waits c with
  | zero => simp [lookupDuring]
  | succ attempts ih =>
    unfold lookupDuring
    rw [h.get_inside hid]
    cases c.frameAt (id.toNat - first.toNat) with
    | some f => simp
    | none =>
      cases waits with
      | nil => exact ih h []
      | cons events waits => exact ih (h.takeAll events) waits

end FrameCache

/-! ## Buses made with a buffer -/

namespace Bus

variable {target options : String} {b : Bus} {f : FilterSet}

/-- A bus whose options set the flag begins with a filter and a buffer from its lowest id to its
highest. -/
theorem startBuffer_of_make (hmake : make target options = .ok b)
    (hset : isSet (field options 2) = true) (hparse : FilterSet.parse (field options 1) = .ok f)
    {low high : UInt32} (hmin : f.min? = some low) (hmax : f.max? = some high) :
    ∃ b₀ : Bus, b₀.filter = some f ∧ b₀.startBuffer low (high + 1) = .ok b := by
  have hne : f.ids ≠ [] := by
    intro hnil
    simp [FilterSet.min?, hnil] at hmin
  unfold make at hmake
  simp only [bind, Except.bind, hparse, hmin, hmax, hset, setFilter, Option.isSome_none, hne,
    Bool.false_eq_true, if_false, if_true] at hmake
  split at hmake
  · simp at hmake
  · split at hmake
    · simp at hmake
    · exact ⟨_, rfl, hmake⟩

/-- A read from a buffer is told that the id is not buffered only by the look-up. -/
theorem read_ne_notBuffered {c : FrameCache} (hbuffer : b.buffer = some c) {id x : UInt32}
    (h : ∀ policy, c.lookup (canonicalId id) policy ≠ .error (.notBuffered x)) (length : Nat) :
    (b.read id length).1 ≠ .error (.notBuffered x) := by
  unfold Bus.read
  split
  · simp
  · cases b.socket with
    | none => simp
    | some socket =>
      rw [hbuffer]
      dsimp only
      have hlookup := h b.retry
      cases hfound : c.lookup (canonicalId id) b.retry with
      | ok f => simp [Except.map]
      | error e =>
        rw [hfound] at hlookup
        simpa [Except.map] using hlookup

/-- Starting a buffer leaves the filter as it was. -/
theorem filter_startBuffer {first stop : UInt32} {b' : Bus} (h : b.startBuffer first stop = .ok b') :
    b'.filter = b.filter := by
  unfold startBuffer at h
  split at h
  · simp at h
  · cases hcache : FrameCache.make first stop with
    | error e => simp [hcache, Except.map] at h
    | ok c =>
      rw [hcache] at h
      obtain rfl := Except.ok.inj h
      rfl

/-- The cache has a place for the id, in whatever form it is given: whoever looks for it, in however
many attempts and whatever comes in meanwhile, and whoever reads it from the bus is never told that
an id is not buffered; and a frame of it that passes the filter in force is kept and found. -/
structure Serves (c : FrameCache) (id : UInt32) (b : Bus) : Prop where
  slot : ∃ i < c.slots.size, c.slot? (canonicalId id) = some i
  lookup : ∀ (attempts : Nat) (waits : List (List (Option FilterSet × Event))) (x : UInt32),
    (FrameCache.lookupDuring (canonicalId id) attempts (waits.map FrameCache.takeAll) c).1 ≠
      .error (.notBuffered x)
  read : ∀ length x, (b.read id length).1 ≠ .error (.notBuffered x)
  store : ∀ data fr, Frame.make id data = .ok fr → passes b.filter id = true →
    (c.store fr).1 = true ∧ (b.deliver (.frame fr)).buffer = some (c.store fr).2 ∧
      (c.store fr).2.get (canonicalId id) = .ok (some fr)

/-- A bus serves the ids whose canonical forms are in the range of its cache. -/
theorem serves_of_covers {first stop id : UInt32} {c : FrameCache} (hbuffer : b.buffer = some c)
    (hcovers : c.Covers first stop) (hin : first ≤ canonicalId id ∧ canonicalId id < stop) :
    b.Serves c id where
  slot := by
    have hfirst := UInt32.le_iff_toNat_le.1 hin.1
    have hlast := UInt32.lt_iff_toNat_lt.1 hin.2
    refine ⟨_, ?_, (hcovers.slot?_eq _).trans (if_pos hin)⟩
    rw [hcovers.size, UInt32.toNat_sub_of_le _ _ (UInt32.le_of_lt hcovers.lt)]
    omega
  lookup := hcovers.lookupDuring_ne hin
  read length x := read_ne_notBuffered hbuffer
    (fun policy => hcovers.lookupDuring_ne hin policy.probes [] x) length
  store data fr hframe hpasses := by
    have hid : fr.id = canonicalId id := Frame.id_of_make hframe
    rw [← hid] at hin ⊢
    have hpasses' : passes b.filter fr.id = true := by rwa [hid, passes_canonicalId]
    refine ⟨(hcovers.store_fst fr).2 hin, ?_, (hcovers.get_store_self fr).trans (if_pos hin)⟩
    simp [Bus.deliver, hbuffer, FrameCache.take, hpasses']

/-- A bus that is made with a filter and with the flag for buffering has this filter in force and
buffers from its lowest id to its highest, and there is a number behind the highest. As long as it
buffers, and whatever happens to it meanwhile, it serves every id that the filter contains. -/
theorem make_buffers_filter (hmake : make target options = .ok b)
    (hset : isSet (field options 2) = true) (hparse : FilterSet.parse (field options 1) = .ok f)
    (hne : f.ids ≠ []) :
    b.filter = some f ∧ ∃ low high, f.min? = some low ∧ f.max? = some high ∧
      (high + 1).toNat = high.toNat + 1 ∧ Buffering low (high + 1) b ∧
      ∀ b', Buffering low (high + 1) b' → ∃ c, b'.buffer = some c ∧ c.range = (low, high + 1) ∧
        ∀ id, f.contains id = true → b'.Serves c id := by
  obtain ⟨low, high, hmin, hmax, hhigh, hbounds⟩ := FilterSet.exists_bounds hne
  obtain ⟨b₀, hforce, hstart⟩ := startBuffer_of_make hmake hset hparse hmin hmax
  have hnext := FilterSet.toNat_add_one_of_parse hparse hhigh
  refine ⟨(filter_startBuffer hstart).trans hforce, low, high, hmin, hmax, hnext, .start hstart, ?_⟩
  intro b' hb'
  obtain ⟨c, hbuffer, hcovers, -⟩ := hb'.covers
  refine ⟨c, hbuffer, hcovers.range_eq, fun id hid => serves_of_covers hbuffer hcovers ?_⟩
  obtain ⟨hlow, hle⟩ := hbounds _ (FilterSet.contains_iff.1 hid)
  refine ⟨hlow, ?_⟩
  rw [UInt32.le_iff_toNat_le] at hle
  rw [UInt32.lt_iff_toNat_lt, hnext]
  exact Nat.lt_succ_of_le hle

/-- A filter of extended ids, given without their flag: the highest of them is kept and found. -/
theorem make_buffers_filter_of_extended : ∃ b c fr,
    make "can0" "500000,1000-100f,yes" = .ok b ∧ b.buffer = some c ∧
    Frame.make 0x100f [1] = .ok fr ∧ (c.store fr).1 = true ∧
    (c.store fr).2.get 0x8000100f = .ok (some fr) := by
  have hparse : FilterSet.parse (field "500000,1000-100f,yes" 1) =
      .ok (FilterSet.ofList (FilterSet.idsFrom 0x1000 16)) := rfl
  obtain ⟨b, hmake⟩ : ∃ b, make "can0" "500000,1000-100f,yes" = .ok b := ⟨_, rfl⟩
  obtain ⟨hfilter, low, high, -, -, -, hbuffering, hserves⟩ :=
    make_buffers_filter hmake (by decide) hparse (by decide)
  obtain ⟨c, hbuffer, -, hids⟩ := hserves b hbuffering
  have hid : passes b.filter 0x100f = true := by
    rw [hfilter]
    decide
  obtain ⟨hkept, -, hfound⟩ := (hids 0x100f (by decide)).store [1] _ rfl hid
  exact ⟨b, c, _, hmake, hbuffer, rfl, hkept, hfound⟩

end Bus

end RemoteDevice.Can
