import Mathlib.Logic.Function.Basic
import RemoteDevice.Proofs.Can.Coverage

/-!
# Proofs.Can.Bindings — a cache is a map of ids to frames

A cache keeps frames in slots and marks the fresh ones by bits in words of 32, and old frames stay
in their slots when the bits are cleared. None of this shows: whatever is asked of a cache, it
answers as a map does that binds the ids of the range to frames. No slot and no word is looked for
where there is none.
-/

namespace RemoteDevice.Can

open Transport (Error)

namespace FrameCache

/-! ## Calls -/

/-- What may be asked of a cache. -/
inductive Call where
  | store (f : Frame)
  | get (id : UInt32)
  | lookup (id : UInt32) (policy : RetryPolicy)
  | invalidate

/-- What a cache answers. -/
inductive Answer where
  | kept (isKept : Bool)
  | found (result : Except Error (Option Frame))
  | obtained (result : Except Error Frame)
  | done

/-- The answer to a call, and the cache after it. -/
def perform (c : FrameCache) : Call → Answer × FrameCache
  | .store f =>
    let (isKept, c') := c.store f
    (.kept isKept, c')
  | .get id => (.found (c.get id), c)
  | .lookup id policy =>
    let (result, c') := lookupDuring id policy.probes [] c
    (.obtained result, c')
  | .invalidate => (.done, c.invalidate)

/-- The answers to calls made one after another, and the cache after the last one. -/
def performAll (c : FrameCache) : List Call → List Answer × FrameCache
  | [] => ([], c)
  | call :: calls =>
    let (answer, c') := c.perform call
    let (answers, c'') := c'.performAll calls
    (answer :: answers, c'')

end FrameCache

/-! ## Maps -/

/-- A map that binds some of the ids to frames. -/
abbrev Bindings := UInt32 → Option Frame

namespace Bindings

open FrameCache (Call Answer)

/-- The map that binds nothing. -/
def empty : Bindings := fun _ => none

variable (first stop : UInt32)

/-- What a map of the ids from `first` up to `stop` itself not included has for an id. -/
def find (m : Bindings) (id : UInt32) : Except Error (Option Frame) :=
  if first ≤ id ∧ id < stop then .ok (m id) else .error (.notBuffered id)

/-- What such a map answers. -/
def answer (m : Bindings) : Call → Answer
  | .store f => .kept (decide (first ≤ f.id ∧ f.id < stop))
  | .get id => .found (m.find first stop id)
  | .lookup id _ => .obtained <|
    match m.find first stop id with
    | .error e => .error e
    | .ok (some f) => .ok f
    | .ok none => .error (.timeout id)
  | .invalidate => .done

/-- What a call makes of such a map. A frame whose id is in the range is bound to it, and an
invalidation removes all bindings. -/
def after (m : Bindings) : Call → Bindings
  | .store f => if first ≤ f.id ∧ f.id < stop then Function.update m f.id (some f) else m
  | .get _ => m
  | .lookup _ _ => m
  | .invalidate => empty

/-- The answers to calls made one after another, and the map after the last one. -/
def performAll (m : Bindings) : List Call → List Answer × Bindings
  | [] => ([], m)
  | call :: calls =>
    let (answers, m') := (m.after first stop call).performAll calls
    (m.answer first stop call :: answers, m')

/-- Ids are bound to frames of their own. -/
def IsOwn (m : Bindings) : Prop :=
  ∀ id f, m id = some f → f.id = id

/-- With nothing bound, whatever is bound is a frame of its own id. -/
theorem isOwn_empty : empty.IsOwn := by
  intro id f h
  simp [empty] at h

variable {first stop}

/-- Every call binds a frame to its own id only. -/
theorem IsOwn.after {m : Bindings} (h : m.IsOwn) (call : Call) :
    (m.after first stop call).IsOwn := by
  cases call with
  | store f =>
    unfold Bindings.after
    dsimp only
    split
    · intro id g hg
      by_cases hid : id = f.id
      · subst hid
        rw [Function.update_self] at hg
        rw [Option.some.inj hg]
      · rw [Function.update_of_ne hid] at hg
        exact h id g hg
    · exact h
  | get id => exact h
  | lookup id policy => exact h
  | invalidate => exact isOwn_empty

end Bindings

/-! ## Places -/

namespace FrameCache

/-- The place of an id in the cache is slot `i`. There is such a slot, and a word that has its bit;
to look for the id is to read these two, and to store a frame of it is to write them. -/
structure IsPlace (c : FrameCache) (id : UInt32) (i : Nat) : Prop where
  slot : i < c.slots.size
  word : i / 32 < c.fresh.words.size
  get_eq : c.get id = .ok (if c.fresh.words[i / 32].getLsbD (i % 32) then c.slots[i] else none)
  store_eq : ∀ f, f.id = id → c.store f = (true,
    { c with
      slots := c.slots.set i (some f)
      fresh := ⟨c.fresh.words.set (i / 32) (c.fresh.words[i / 32] ||| 1#32 <<< (i % 32))⟩ })

variable {first stop id : UInt32} {c : FrameCache}

/-- An index that is given for an id is one of a slot. -/
theorem slot_lt_size {i : Nat} (hi : c.slot? id = some i) : i < c.slots.size := by
  unfold slot? at hi
  split at hi
  · next hin =>
    obtain rfl := Option.some.inj hi
    exact hin.2
  · simp at hi

/-- All places that a cache of a range looks for are there. -/
theorem Covers.isPlace (h : c.Covers first stop) {i : Nat} (hi : c.slot? id = some i) :
    c.IsPlace id i := by
  have hslot := slot_lt_size hi
  have hword : i / 32 < c.fresh.words.size := by
    rw [h.words]
    omega
  refine ⟨hslot, hword, ?_, ?_⟩
  · unfold get
    rw [hi]
    simp [frameAt, Freshness.test, hslot, hword]
  · intro f hid
    unfold FrameCache.store
    rw [hid, hi]
    simp [Array.setIfInBounds, hslot, Freshness.mark, Array.modify, Array.modifyM, hword]

/-! ## Caches as maps -/

/-- The cache gives what the map does. -/
structure Refines (first stop : UInt32) (c : FrameCache) (m : Bindings) : Prop where
  covers : c.Covers first stop
  get_eq : ∀ id, c.get id = m.find first stop id
  isOwn : m.IsOwn

/-- Where a cache and a map agree on the range, a look gives what the map has. -/
theorem Covers.get_eq_find (h : c.Covers first stop) {m : Bindings}
    (hin : ∀ id, first ≤ id ∧ id < stop → c.get id = .ok (m id)) (id : UInt32) :
    c.get id = m.find first stop id := by
  unfold Bindings.find
  split
  · next hid => exact hin id hid
  · next hid => exact h.get_outside hid

/-- A new cache refines the map that has nothing bound. -/
theorem refines_empty (hmake : make first stop = .ok c) : c.Refines first stop Bindings.empty := by
  have hcovers := covers_of_make hmake
  constructor
  · exact hcovers
  · apply hcovers.get_eq_find
    intro id hid
    rw [hcovers.get_inside hid, frameAt_of_make hmake]
    rfl
  · exact Bindings.isOwn_empty

variable {m : Bindings}

/-- For an id of the range a look gives what is bound to it. -/
theorem Refines.get_inside (h : c.Refines first stop m) (hid : first ≤ id ∧ id < stop) :
    c.get id = .ok (m id) := by
  rw [h.get_eq, Bindings.find, if_pos hid]

/-- A frame is kept if its id is in the range, and is then what is bound to it. -/
theorem Refines.store (h : c.Refines first stop m) (f : Frame) :
    (c.store f).1 = decide (first ≤ f.id ∧ f.id < stop) ∧
      (c.store f).2.Refines first stop (m.after first stop (.store f)) := by
  refine ⟨Bool.eq_iff_iff.2 ?_, h.covers.store f, ?_, h.isOwn.after _⟩
  · rw [h.covers.store_fst, decide_eq_true_iff]
  · apply (h.covers.store f).get_eq_find
    intro id hid
    rw [h.covers.get_store f hid, h.get_inside hid]
    unfold Bindings.after
    dsimp only
    by_cases hsame : id = f.id
    · subst hsame
      rw [if_pos rfl, if_pos hid, Function.update_self]
    · rw [if_neg (Ne.symm hsame)]
      -- another id is bound to what it was, whether the frame is kept or not
      split
      · rw [Function.update_of_ne hsame]
      · rfl

/-- Making the cache stale unbinds everything. -/
theorem Refines.invalidate (h : c.Refines first stop m) :
    c.invalidate.Refines first stop Bindings.empty := by
  refine ⟨h.covers.invalidate, ?_, Bindings.isOwn_empty⟩
  apply h.covers.invalidate.get_eq_find
  intro id hid
  exact h.covers.get_invalidate hid

/-- A look-up gives what the map has, and leaves the cache as it is. -/
theorem Refines.lookup (h : c.Refines first stop m) (id : UInt32) (policy : RetryPolicy) :
    c.perform (.lookup id policy) = (m.answer first stop (.lookup id policy), c) := by
  -- a reader looks once at least
  obtain ⟨attempts, hprobes⟩ : ∃ attempts, policy.probes = attempts + 1 :=
    Nat.exists_eq_add_one.2 (Nat.le_max_right _ _)
  have hlookup := lookupDuring_eq c id attempts
  rw [← hprobes, h.get_eq] at hlookup
  exact congrArg (fun found => (Answer.obtained found.1, found.2)) hlookup

/-- One call. -/
theorem Refines.perform (h : c.Refines first stop m) (call : Call) :
    (c.perform call).1 = m.answer first stop call ∧
      (c.perform call).2.Refines first stop (m.after first stop call) := by
  cases call with
  | store f =>
    obtain ⟨hkept, hafter⟩ := h.store f
    exact ⟨congrArg Answer.kept hkept, hafter⟩
  | get id => exact ⟨congrArg Answer.found (h.get_eq id), h⟩
  | lookup id policy =>
    rw [h.lookup id policy]
    exact ⟨rfl, h⟩
  | invalidate => exact ⟨rfl, h.invalidate⟩

/-- Any number of calls. -/
theorem Refines.performAll (h : c.Refines first stop m) (calls : List Call) :
    (c.performAll calls).1 = (m.performAll first stop calls).1 ∧
      (c.performAll calls).2.Refines first stop (m.performAll first stop calls).2 := by
  induction calls generalizing c m with
  | nil => exact ⟨rfl, h⟩
  | cons call calls ih =>
    obtain ⟨hanswer, hafter⟩ := h.perform call
    obtain ⟨hanswers, hlast⟩ := ih hafter
    exact ⟨congrArg₂ List.cons hanswer hanswers, hlast⟩

/-- Whatever is asked of a new cache, its answers are those of a map that binds nothing at first,
and after it the cache gives for every id of the range what the map binds it to, which is a frame
of this id, and for no other id anything. A frame whose id is not in the range leaves the cache as
it is, and the place of each id that has one is within the slots and the words. -/
theorem performAll_refines_bindings (hmake : make first stop = .ok c) (calls : List Call) :
    let after := (c.performAll calls).2
    let m := (Bindings.empty.performAll first stop calls).2
    (c.performAll calls).1 = (Bindings.empty.performAll first stop calls).1 ∧
    (∀ id, after.get id =
      if first ≤ id ∧ id < stop then .ok (m id) else .error (.notBuffered id)) ∧
    (∀ id f, after.get id = .ok (some f) → f.id = id) ∧
    (∀ f, ¬(first ≤ f.id ∧ f.id < stop) → after.store f = (false, after)) ∧
    ∀ id i, after.slot? id = some i → after.IsPlace id i := by
  obtain ⟨hanswers, hlast⟩ := (refines_empty hmake).performAll calls
  refine ⟨hanswers, hlast.get_eq, ?_, ?_, ?_⟩
  · intro id f hget
    rw [hlast.get_eq, Bindings.find] at hget
    split at hget
    · exact hlast.isOwn id f (Except.ok.inj hget)
    · simp at hget
  · intro f hf
    exact hlast.covers.store_outside hf
  · intro id i hi
    exact hlast.covers.isPlace hi

/-- A range of 33 ids that ends with the highest number of 32 bits. The frame of its last id has
the only bit of the second word, and is still there when a frame of the first id was replaced. -/
theorem performAll_refines_bindings_of_last_word : ∃ c f g,
    make 0xffffffde 0xffffffff = .ok c ∧ f.id = 0xfffffffe ∧ g.id = 0xffffffde ∧
    (c.performAll [.store g, .invalidate, .store f, .get 0xffffffde, .store g,
      .lookup 0xfffffffe {}, .get 0xffffffff]).1 =
      [.kept true, .done, .kept true, .found (.ok none), .kept true, .obtained (.ok f),
        .found (.error (.notBuffered 0xffffffff))] := by
  let f : Frame := ⟨0xfffffffe, [1], by decide⟩
  let g : Frame := ⟨0xffffffde, [2], by decide⟩
  have hmake : make 0xffffffde 0xffffffff = .ok ⟨0xffffffde, Array.replicate 33 none, .none 33⟩ :=
    rfl
  obtain ⟨hanswers, -⟩ := performAll_refines_bindings hmake [.store g, .invalidate, .store f,
    .get 0xffffffde, .store g, .lookup 0xfffffffe {}, .get 0xffffffff]
  exact ⟨_, f, g, hmake, rfl, rfl, hanswers.trans rfl⟩

end FrameCache

end RemoteDevice.Can
