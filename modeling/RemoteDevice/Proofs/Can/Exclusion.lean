import RemoteDevice.Proofs.Can.LastValue

/-!
# Proofs.Can.Exclusion — what a filter keeps out of a cache

A filter is asked about a frame when the frame comes in, and never again. So the cache gives no
frame of an id as long as all filters that were in force since it was last empty exclude the id. A
filter that is set later takes nothing back: what the cache gives for an id that it excludes was let
in before it was set.
-/

namespace RemoteDevice.Can

/-! ## The filter in force -/

/-- What is in force after a history depends on its older part only by what was in force then. -/
theorem inForce_append (filter : Option FilterSet) (since older : List Operation) :
    inForce filter (since ++ older) = inForce (inForce filter older) since := by
  induction since with
  | nil => rfl
  | cons op since ih =>
    cases op with
    | setFilter filter' => rfl
    | _ => exact ih

/-- A filter is in force because it was from the beginning, or because it was set. -/
theorem eq_or_mem_of_inForce {filter filter' : Option FilterSet} {history : List Operation}
    (h : inForce filter history = filter') : filter = filter' ∨ .setFilter filter' ∈ history := by
  induction history with
  | nil => exact Or.inl h
  | cons op older ih =>
    cases op with
    | setFilter set =>
      have hset : set = filter' := h
      rw [hset]
      exact Or.inr List.mem_cons_self
    | _ => exact (ih h).imp id (List.mem_cons_of_mem _)

/-! ## Barred ids -/

/-- The event leaves nothing in the cache that counts. -/
def Event.empties : Event → Bool
  | .frame _ => false
  | .idle => false
  | .closed => true
  | .failed _ => true

/-- What empties the cache takes the place of the last frame of every id. -/
theorem Event.displaces_of_empties {e : Event} (h : e.empties = true) (filter : Option FilterSet)
    (id : UInt32) : e.displaces filter id := by
  cases e with
  | frame f => simp [empties] at h
  | idle => simp [empties] at h
  | closed => trivial
  | failed e => trivial

/-- Since the cache was last empty, no filter in force has let the id pass. -/
inductive Barred (filter : Option FilterSet) (id : UInt32) : List Operation → Prop
  | start : passes filter id = false → Barred filter id []
  | emptied {e : Event} {older : List Operation} : e.empties = true → .stop ∉ older →
      passes (inForce filter older) id = false → Barred filter id (.event e :: older)
  | still {op : Operation} {older : List Operation} : Barred filter id older →
      passes (inForce filter (op :: older)) id = false → Barred filter id (op :: older)

variable {filter : Option FilterSet} {id : UInt32} {f : Frame} {history : List Operation}

/-- The filter in force does not let a barred id pass. -/
theorem Barred.passes_eq_false (h : Barred filter id history) :
    passes (inForce filter history) id = false := by
  cases h with
  | start hpasses => exact hpasses
  | emptied _ _ hpasses => exact hpasses
  | still _ hpasses => exact hpasses

/-- A barred id has no last frame. -/
theorem Barred.not_latest (h : Barred filter id history) (f : Frame) :
    ¬ Latest filter id f history := by
  induction h with
  | start hpasses => simp [Latest]
  | emptied hempties hstop _ =>
    rw [latest_cons]
    rintro (⟨⟨⟩, -⟩ | ⟨-, hkept⟩)
    · simp [Event.empties] at hempties
    · exact hkept ⟨_, rfl, hstop, Event.displaces_of_empties hempties _ _⟩
  | still hbarred _ ih =>
    rw [latest_cons]
    rintro (⟨-, -, hid, hpasses⟩ | ⟨hlatest, -⟩)
    · -- a frame that came just now was asked about under the filter in force before it
      rw [hid, hbarred.passes_eq_false] at hpasses
      simp at hpasses
    · exact ih hlatest

/-! ## What is left over -/

/-- The frame came in under a filter that let it pass, and the filter `set` was set only then. -/
def LetInBefore (filter : Option FilterSet) (set : FilterSet) (f : Frame)
    (history : List Operation) : Prop :=
  ∃ since older, history = since ++ .event (.frame f) :: older ∧
    passes (inForce filter older) f.id = true ∧ .setFilter (some set) ∈ since

/-- The last frame of an id that is excluded by now was let in before. -/
theorem Latest.letInBefore {set : FilterSet} (h : Latest filter id f history)
    (hset : inForce filter history = some set) (hid : set.contains id = false) :
    LetInBefore filter set f history := by
  rcases h with ⟨older, ⟨since, rfl⟩, -, hfid, hpasses, -⟩
  refine ⟨since, older, rfl, hpasses, ?_⟩
  rw [inForce_append] at hset
  rcases eq_or_mem_of_inForce hset with hsame | hmem
  · -- the filter that let the frame pass is not the one that excludes it
    have hexcluded : passes (inForce filter older) f.id = false := by
      have hthen : inForce filter older = some set := hsame
      rw [hthen, hfid]
      exact hid
    rw [hexcluded] at hpasses
    simp at hpasses
  · exact hmem

namespace BufferReader

variable {first stop : UInt32} {c : FrameCache}

/-- The cache gives only last frames. -/
theorem latest_of_get (hmake : FrameCache.make first stop = .ok c)
    (hget : (run ⟨c, filter, true⟩ history).cache.get id = .ok (some f)) :
    Latest filter id f history := by
  have h := follows_run hmake filter history
  by_cases hin : first ≤ id ∧ id < stop
  · rcases h.latest id hin with ⟨found, hfound, hlatest⟩
    rw [hfound] at hget
    exact (hlatest f).1 (Except.ok.inj hget)
  · rw [h.covers.get_outside hin] at hget
    simp at hget

/-- While a filter is in force, neither a look into the cache nor a look-up gives a frame that it
excludes, provided that no filter since the cache was last empty let it pass; and where one did, a
frame that is given was let in before the filter was set. -/
theorem get_excluded (hmake : FrameCache.make first stop = .ok c) (filter : Option FilterSet)
    (history : List Operation) (id : UInt32) {set : FilterSet}
    (hset : (run ⟨c, filter, true⟩ history).filter = some set) (hid : set.contains id = false) :
    let r := run ⟨c, filter, true⟩ history
    (Barred filter id history →
      ∀ f, r.cache.get id ≠ .ok (some f) ∧ ∀ policy, r.cache.lookup id policy ≠ .ok f) ∧
    ∀ f, (r.cache.get id = .ok (some f) ∨ ∃ policy, r.cache.lookup id policy = .ok f) →
      f.id = id ∧ LetInBefore filter set f history := by
  have hget : ∀ f, ((run ⟨c, filter, true⟩ history).cache.get id = .ok (some f) ∨
      ∃ policy, (run ⟨c, filter, true⟩ history).cache.lookup id policy = .ok f) →
      Latest filter id f history := by
    rintro f (hget | ⟨policy, hlookup⟩)
    · exact latest_of_get hmake hget
    · exact latest_of_get hmake (FrameCache.lookup_eq_ok_iff.1 hlookup)
  constructor
  · intro hbarred f
    have hnone := hbarred.not_latest f
    exact ⟨fun h => hnone (hget f (Or.inl h)), fun policy h => hnone (hget f (Or.inr ⟨policy, h⟩))⟩
  · intro f hf
    have hlatest := hget f hf
    have hinForce : inForce filter history = some set :=
      (follows_run hmake filter history).filter_eq ▸ hset
    refine ⟨?_, hlatest.letInBefore hinForce hid⟩
    rcases hlatest with ⟨-, -, -, hfid, -⟩
    exact hfid

/-- After the socket was closed, a filter excludes also what came in before it was set. -/
theorem get_excluded_after_closing : ∃ c f, FrameCache.make 0x300 0x310 = .ok c ∧ f.id = 0x305 ∧
    (run ⟨c, none, true⟩ [.event .closed, .setFilter (some (.ofList [0x301])),
      .event (.frame f)]).cache.get 0x305 ≠ .ok (some f) := by
  let f : Frame := ⟨0x305, [1], by decide⟩
  have hmake : FrameCache.make 0x300 0x310 = .ok ⟨0x300, Array.replicate 16 none, .none 16⟩ := rfl
  have hbarred : Barred none 0x305 [.event .closed, .setFilter (some (.ofList [0x301])),
      .event (.frame f)] := .emptied rfl (by simp) (by decide)
  obtain ⟨hnever, -⟩ := get_excluded hmake none [.event .closed,
    .setFilter (some (.ofList [0x301])), .event (.frame f)] 0x305 rfl (by decide)
  exact ⟨_, f, hmake, rfl, (hnever hbarred f).1⟩

/-- A frame that came in while there was no filter is still given when a filter that excludes its id
is in force. -/
theorem get_frame_let_in_before : ∃ c f, FrameCache.make 0x300 0x310 = .ok c ∧ f.id = 0x305 ∧
    let set := FilterSet.ofList [0x301]
    let r := run ⟨c, none, true⟩ [.setFilter (some set), .event (.frame f)]
    r.filter = some set ∧ set.contains 0x305 = false ∧ r.cache.get 0x305 = .ok (some f) ∧
      r.cache.lookup 0x305 {} = .ok f :=
  ⟨_, ⟨0x305, [1], by decide⟩, rfl, rfl, rfl, by decide, rfl, rfl⟩

end BufferReader

end RemoteDevice.Can
