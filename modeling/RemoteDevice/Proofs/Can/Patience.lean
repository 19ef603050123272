import Mathlib.Data.List.Induction
import RemoteDevice.Proofs.Can.LastValue

/-!
# Proofs.Can.Patience — how long a look-up waits for a frame

A look-up looks at the cache, and after every wait but the last it looks again. Whatever is stored
and made stale during the waits, it gives the frame that it sees when it sees one for the first time,
and gives up if it sees none. What comes in the last wait it does not see: when it gives up, a frame
may be there that was stored while it waited for the last time.
-/

namespace RemoteDevice.Can.FrameCache

open Transport (Error)

/-! ## Changes during the waits -/

/-- What the writer of a cache does to it. -/
inductive Change where
  | store (f : Frame)
  | invalidate

/-- The cache after a change. -/
def Change.apply : Change → FrameCache → FrameCache
  | .store f, c => (c.store f).2
  | .invalidate, c => c.invalidate

/-- The change takes the place of whatever the cache had for the id. -/
def Change.Displaces (id : UInt32) : Change → Prop
  | .store f => f.id = id
  | .invalidate => True

/-- The cache after some changes. -/
def after (c : FrameCache) (changes : List Change) : FrameCache :=
  changes.foldl (fun c change => change.apply c) c

/-- The cache after the first `n` waits, with what was changed during each of them. Where no changes
are given there are none. -/
def afterWaits (c : FrameCache) (waits : List (List Change)) (n : Nat) : FrameCache :=
  c.after (waits.take n).flatten

/-- What the waits do to the cache. -/
def effects (waits : List (List Change)) : List (FrameCache → FrameCache) :=
  waits.map fun changes c => c.after changes

theorem after_append (c : FrameCache) (first second : List Change) :
    c.after (first ++ second) = (c.after first).after second :=
  List.foldl_append

@[simp] theorem afterWaits_zero (c : FrameCache) (waits : List (List Change)) :
    c.afterWaits waits 0 = c :=
  rfl

/-- The first of the waits goes first. -/
theorem afterWaits_succ (c : FrameCache) (waits : List (List Change)) (n : Nat) :
    c.afterWaits waits (n + 1) = (c.after (waits.headD [])).afterWaits waits.tail n := by
  cases waits with
  | nil => rw [afterWaits, afterWaits, List.take_nil, List.tail_nil, List.take_nil]; rfl
  | cons changes waits =>
    rw [afterWaits, List.take_succ_cons, List.flatten_cons, after_append]
    rfl

/-- The last of the waits goes last. -/
theorem afterWaits_succ_last (c : FrameCache) (waits : List (List Change)) (n : Nat) :
    c.afterWaits waits (n + 1) = (c.afterWaits waits n).after (waits.getD n []) := by
  rw [afterWaits, afterWaits, ← after_append, List.take_add_one, List.flatten_append,
    List.getD_eq_getElem?_getD]
  cases waits[n]? with
  | none => rfl
  | some changes => simp

section Covered

variable {first stop id : UInt32} {c : FrameCache}

/-- A change leaves the range covered. -/
theorem Covers.apply (h : c.Covers first stop) (change : Change) :
    (change.apply c).Covers first stop := by
  cases change with
  | store f => exact h.store f
  | invalidate => exact h.invalidate

theorem Covers.after (h : c.Covers first stop) (changes : List Change) :
    (c.after changes).Covers first stop := by
  induction changes generalizing c with
  | nil => exact h
  | cons change changes ih => exact ih (h.apply change)

/-- A frame that was not there before the changes was stored by one of them, and no later one took
its place. -/
theorem Covers.exists_store (h : c.Covers first stop) (hid : first ≤ id ∧ id < stop)
    (hbefore : c.get id = .ok none) {changes : List Change} {f : Frame}
    (hafter : (c.after changes).get id = .ok (some f)) :
    ∃ before since, changes = before ++ .store f :: since ∧ f.id = id ∧
      ∀ change ∈ since, ¬ change.Displaces id := by
  -- induction from the end: the last change stored the frame or left it where it was
  induction changes using List.reverseRecOn with
  | nil =>
    rw [show c.after [] = c from rfl, hbefore] at hafter
    cases hafter
  | append_singleton changes last ih =>
    rw [after_append] at hafter
    have hcovers := h.after changes
    cases last with
    | invalidate =>
      have hnone : ((c.after changes).after [.invalidate]).get id = .ok none :=
        hcovers.get_invalidate hid
      rw [hnone] at hafter
      cases hafter
    | store g =>
      have hget : ((c.after changes).after [.store g]).get id =
          if g.id = id then .ok (some g) else (c.after changes).get id :=
        hcovers.get_store g hid
      rw [hget] at hafter
      by_cases hsame : g.id = id
      · rw [if_pos hsame] at hafter
        obtain rfl := Option.some.inj (Except.ok.inj hafter)
        refine ⟨changes, [], rfl, hsame, ?_⟩
        simp
      · rw [if_neg hsame] at hafter
        obtain ⟨before, since, rfl, hf, hsince⟩ := ih hafter
        refine ⟨before, since ++ [.store g], by simp, hf, ?_⟩
        intro change hchange
        rcases List.mem_append.1 hchange with hold | hnew
        · exact hsince change hold
        · rw [List.mem_singleton.1 hnew]
          exact hsame

end Covered

/-! ## Looking up -/

/-- A look-up that also tells at which states of the cache it looked. -/
def lookupTraced (id : UInt32) : (attempts : Nat) → (waits : List (FrameCache → FrameCache)) →
    FrameCache → (Except Error Frame × FrameCache) × List FrameCache
  | 0, _, c => ((.error (.timeout id), c), [])
  | n + 1, waits, c =>
    match c.get id with
    | .error e => ((.error e, c), [c])
    | .ok (some f) => ((.ok f, c), [c])
    | .ok none =>
      let (outcome, looked) := match waits with
        | [] => lookupTraced id n [] c
        | wait :: waits => lookupTraced id n waits (wait c)
      (outcome, c :: looked)

/-- Telling it changes nothing. -/
theorem lookupTraced_fst (id : UInt32) (attempts : Nat) (waits : List (FrameCache → FrameCache))
    (c : FrameCache) : (lookupTraced id attempts waits c).1 = lookupDuring id attempts waits c := by
  induction attempts generalizing waits c with
  | zero => rfl
  | succ n ih =>
    unfold lookupTraced lookupDuring
    cases c.get id with
    | error e => rfl
    | ok found =>
      cases found with
      | some f => rfl
      | none =>
        cases waits with
        | nil => exact ih [] c
        | cons wait waits => exact ih waits (wait c)

/-- What a look-up for an id comes to while the cache is changed during its waits. -/
inductive LooksUp (c : FrameCache) (id : UInt32) (waits : List (List Change)) (probes : Nat) :
    Except Error Frame × FrameCache → List FrameCache → Prop where
  /-- It saw none before, and then one after `n` waits. -/
  | found {n : Nat} {f : Frame} (lt : n < probes)
      (before : ∀ m < n, (c.afterWaits waits m).get id = .ok none)
      (now : (c.afterWaits waits n).get id = .ok (some f)) :
      LooksUp c id waits probes (.ok f, c.afterWaits waits n)
        ((List.range (n + 1)).map (c.afterWaits waits))
  /-- It saw none as often as it looked, and waited after every time. -/
  | timeout (never : ∀ m < probes, (c.afterWaits waits m).get id = .ok none) :
      LooksUp c id waits probes (.error (.timeout id), c.afterWaits waits probes)
        ((List.range probes).map (c.afterWaits waits))

/-- The states after the waits: the first is the cache itself, and the others are those after the
waits that are left, begun from where the first wait has brought it. -/
theorem map_range_succ (c : FrameCache) (waits : List (List Change)) (n : Nat) :
    (List.range (n + 1)).map (c.afterWaits waits) =
      c :: (List.range n).map ((c.after (waits.headD [])).afterWaits waits.tail) := by
  rw [List.range_succ_eq_map, List.map_cons, List.map_map, afterWaits_zero]
  congr 1
  apply List.map_congr_left
  intro m _
  exact c.afterWaits_succ waits m

/-- A look that sees nothing is followed by a wait and by the looks that are left. -/
theorem LooksUp.cons {c : FrameCache} {id : UInt32} {waits : List (List Change)} {probes : Nat}
    {outcome : Except Error Frame × FrameCache} {looked : List FrameCache}
    (hnone : c.get id = .ok none)
    (h : LooksUp (c.after (waits.headD [])) id waits.tail probes outcome looked) :
    LooksUp c id waits (probes + 1) outcome (c :: looked) := by
  have hshift : ∀ n, (∀ m < n, ((c.after (waits.headD [])).afterWaits waits.tail m).get id =
      .ok none) → ∀ m < n + 1, (c.afterWaits waits m).get id = .ok none := by
    intro n hall m hm
    cases m with
    | zero => exact hnone
    | succ m =>
      rw [afterWaits_succ]
      exact hall m (by omega)
  cases h with
  | found hlt hbefore hnow =>
    rw [← map_range_succ, ← afterWaits_succ]
    rw [← afterWaits_succ] at hnow
    exact .found (by omega) (hshift _ hbefore) hnow
  | timeout hnever =>
    rw [← map_range_succ, ← afterWaits_succ]
    exact .timeout (hshift _ hnever)

/-- Whatever happens during the waits, the look-up comes to what its looks saw. -/
theorem Covers.looksUp {first stop id : UInt32} {c : FrameCache} (h : c.Covers first stop)
    (hid : first ≤ id ∧ id < stop) (waits : List (List Change)) (probes : Nat) :
    LooksUp c id waits probes (lookupTraced id probes (effects waits) c).1
      (lookupTraced id probes (effects waits) c).2 := by
  -- induction on how often it may look, from any cache of the range
  induction probes generalizing c waits with
  | zero => exact .timeout (by simp)
  | succ probes ih =>
    unfold lookupTraced
    cases hget : c.get id with
    | error e =>
      rw [h.get_inside hid] at hget
      cases hget
    | ok found =>
      cases found with
      | some f => exact .found (n := 0) (Nat.succ_pos _) (by simp) hget
      | none =>
        have hrest := LooksUp.cons hget (ih (h.after (waits.headD [])) waits.tail)
        cases waits with
        | nil => exact hrest
        | cons changes waits => exact hrest

/-- A reader looks once at least. -/
theorem probes_pos (policy : RetryPolicy) : 0 < policy.probes :=
  Nat.lt_of_lt_of_le Nat.zero_lt_one (Nat.le_max_right _ _)

/-- A look-up in a cache that anything was done to before gives the frame that it sees first, if it
looks once and once more after every wait but the last. If it gives up although a frame is there then,
this frame was stored during the last wait. -/
theorem looks_up_while_waiting {first stop id : UInt32} {c₀ : FrameCache}
    (hmake : make first stop = .ok c₀) (hid : first ≤ id ∧ id < stop) (earlier : List Change)
    (policy : RetryPolicy) (waits : List (List Change)) :
    let c := c₀.after earlier
    let (result, last) := lookupDuring id policy.probes (effects waits) c
    let traced := lookupTraced id policy.probes (effects waits) c
    traced.1 = (result, last) ∧ LooksUp c id waits policy.probes (result, last) traced.2 ∧
      (result = .error (.timeout id) → ∀ f, last.get id = .ok (some f) →
        ∃ before since, waits.getD (policy.probes - 1) [] = before ++ .store f :: since ∧
          f.id = id ∧ ∀ change ∈ since, ¬ change.Displaces id) := by
  intro c
  have hcovers : c.Covers first stop := (covers_of_make hmake).after earlier
  have hlooks := hcovers.looksUp hid waits policy.probes
  have hsame := lookupTraced_fst id policy.probes (effects waits) c
  rw [hsame] at hlooks
  cases hduring : lookupDuring id policy.probes (effects waits) c with | mk result last =>
  rw [hduring] at hsame hlooks
  refine ⟨hsame, hlooks, ?_⟩
  intro hgave f hf
  subst hgave
  generalize (lookupTraced id policy.probes (effects waits) c).2 = looked at hlooks
  cases hlooks with
  | timeout hnever =>
    have hlast : policy.probes - 1 + 1 = policy.probes := Nat.sub_add_cancel (probes_pos policy)
    have hbefore := hnever (policy.probes - 1) (Nat.sub_lt (probes_pos policy) Nat.zero_lt_one)
    rw [← hlast, afterWaits_succ_last] at hf
    exact (hcovers.after _).exists_store hid hbefore hf

/-- A frame that comes in the first of two waits is seen. -/
theorem looks_up_late_frame : ∃ c f, make 0x300 0x310 = .ok c ∧ f.id = 0x301 ∧
    LooksUp c 0x301 [[.store f]] 2 (lookupDuring 0x301 2 (effects [[.store f]]) c)
      (lookupTraced 0x301 2 (effects [[.store f]]) c).2 ∧
    (lookupDuring 0x301 2 (effects [[.store f]]) c).1 = .ok f := by
  have hmake : make 0x300 0x310 = .ok ⟨0x300, Array.replicate 16 none, .none 16⟩ := rfl
  have hid : (0x300 : UInt32) ≤ 0x301 ∧ (0x301 : UInt32) < 0x310 := by decide
  have hlooks := looks_up_while_waiting hmake hid [] ⟨2, 10⟩
    [[.store ⟨0x301, [1, 2, 3], by decide⟩]]
  exact ⟨_, _, hmake, rfl, hlooks.2.1, rfl⟩

/-- A frame that comes in the last wait is not seen: the look-up gives up, and the frame is there. -/
theorem timeout_of_last_wait : ∃ c f, make 0x300 0x310 = .ok c ∧ f.id = 0x301 ∧
    let policy : RetryPolicy := { attempts := 1, backoffMs := 10 }
    let (result, after) := lookupDuring 0x301 policy.probes (effects [[.store f]]) c
    result = .error (.timeout 0x301) ∧ after.get 0x301 = .ok (some f) :=
  ⟨⟨0x300, Array.replicate 16 none, .none 16⟩, ⟨0x301, [1, 2, 3], by decide⟩, rfl, rfl, rfl, rfl⟩

end RemoteDevice.Can.FrameCache
