import RemoteDevice.Proofs.Server.Stakes

/-!
# Proofs.Server.Ledger — stakes and devices agree

The stakes of all sessions are a ledger of the devices: whoever holds a claim is entered once, and
so is every opening a device counts. The ledger may start from devices that others have claimed or
opened before; what these hold is carried along and never touched.
-/

namespace RemoteDevice.Server

open List

variable {τ : Type}

/-! ## Units over all sessions -/

/-- The entry is an open unit on the device of this name. -/
def Entry.isOpenOn (name : String) (e : Entry) : Bool :=
  e.isOpen && e.device == name

/-- The device that is being opened, closed or left. -/
def Task.device? : Task → Option String
  | .opening o _ => some o.device
  | .closing _ e _ => some e.device
  | .leaving e _ => some e.device
  | _ => none

namespace System

/-- The units all sessions together have open on the device of this name. -/
def openUnits (name : String) (s : System τ) : Nat :=
  (s.workers.flatMap (·.session.entries)).countP (Entry.isOpenOn name)

/-- How many openings, closings and ends of units of the device of this name are under way. -/
def underWay (name : String) (s : System τ) : Nat :=
  s.workers.countP (·.task.device? == some name)

/-- Counting session by session, where the place of a session does not matter. -/
theorem countP_flatten_mapIdx {workers : List Worker} {f : Nat → Worker → List Stake}
    {p : Stake → Bool} {u : Entry → Bool} {q : Worker → Bool}
    (h : ∀ i w, (f i w).countP p = w.session.entries.countP u + if q w then 1 else 0) :
    (workers.mapIdx f).flatten.countP p =
      (workers.flatMap (·.session.entries)).countP u + workers.countP q := by
  -- the places of the sessions behind the first are shifted by one, so for any `f`
  induction workers generalizing f with
  | nil => rfl
  | cons w ws ih =>
    have hrest := ih (fun i w => h (i + 1) w)
    have hw := h 0 w
    rw [List.mapIdx_cons, List.flatten_cons, List.countP_append, hrest, hw, List.flatMap_cons,
      List.countP_append, List.countP_cons]
    omega

/-- A property that open units on a device have, and tasks of some kind: as many stakes have it as
there are such units and tasks. -/
theorem countP_stakes (s : System τ) (name : String) {p : Stake → Bool} {q : Task → Bool}
    (hunit : ∀ i (e : Entry), p (e.stake i) = (e.device == name))
    (htask : ∀ i (t : Task), (t.stake? i).any p = q t) :
    s.stakes.countP p = s.openUnits name + s.workers.countP (q ·.task) := by
  apply countP_flatten_mapIdx
  intro i w
  have hunits : (w.session.stakes i).countP p =
      w.session.entries.countP (Entry.isOpenOn name) := by
    unfold Session.stakes
    rw [List.countP_map, List.countP_filter]
    congr 1
    funext e
    simp [Entry.isOpenOn, hunit, Bool.and_comm]
  have hrest : ((w.task.stake? i).toList).countP p = if q w.task then 1 else 0 := by
    rw [← htask i]
    cases w.task.stake? i <;> simp
  rw [Worker.stakes, List.countP_append, hunits, hrest]

/-- The stakes in a device are the units open on it and what is under way on it. -/
theorem countP_isIn (name : String) (s : System τ) :
    s.stakes.countP (Stake.isIn name) = s.openUnits name + s.underWay name := by
  have hunit : ∀ i (e : Entry), (e.stake i).isIn name = (e.device == name) := fun _ _ => rfl
  have htask : ∀ i (t : Task), (t.stake? i).any (Stake.isIn name) = (t.device? == some name) := by
    intro i t
    cases t <;> simp [Task.stake?, Task.device?, Stake.isIn]
  exact s.countP_stakes name hunit htask

end System

/-! ## The ledger -/

/-- The claim on the device of this name is held with the stake. -/
def Stake.claims (name : String) (st : Stake) : Bool :=
  st.isIn name && st.claim

/-- The stakes account for every device, on top of what others hold of it. -/
structure Ledger (claims opens : String → Nat) (r : Registry τ) (stakes : List Stake) : Prop where
  claimed : ∀ name d, r.get? name = some d →
    claims name + stakes.countP (Stake.claims name) = if d.claimed then 1 else 0
  opens : ∀ name d, r.get? name = some d → d.opens = opens name + stakes.countP (Stake.counts name)

/-- How many claims there are on the device of this name. -/
def Registry.claimsOf (r : Registry τ) (name : String) : Nat :=
  if (r.get? name).any (·.claimed) then 1 else 0

/-- How often the device of this name is open. -/
def Registry.opensOf (r : Registry τ) (name : String) : Nat :=
  ((r.get? name).map (·.opens)).getD 0

theorem Registry.claimsOf_make (configs : List DeviceConfig) (catalog : Catalog τ)
    (name : String) : (Registry.make configs catalog).claimsOf name = 0 := by
  unfold claimsOf
  cases hd : (Registry.make configs catalog).get? name with
  | none => rfl
  | some d => rw [Registry.get?_make hd]; rfl

theorem Registry.opensOf_make (configs : List DeviceConfig) (catalog : Catalog τ)
    (name : String) : (Registry.make configs catalog).opensOf name = 0 := by
  unfold opensOf
  cases hd : (Registry.make configs catalog).get? name with
  | none => rfl
  | some d => rw [Registry.get?_make hd]; rfl

namespace Ledger

variable {claims opens : String → Nat} {r r' : Registry τ} {stakes stakes' : List Stake}

theorem start (r : Registry τ) : Ledger r.claimsOf r.opensOf r [] := by
  constructor
  · intro name d hd
    simp [Registry.claimsOf, hd]
  · intro name d hd
    simp [Registry.opensOf, hd]

theorem perm (hp : stakes ~ stakes') (h : Ledger claims opens r stakes) :
    Ledger claims opens r stakes' := by
  constructor
  · intro name d hd
    rw [← hp.countP_eq]
    exact h.claimed name d hd
  · intro name d hd
    rw [← hp.countP_eq]
    exact h.opens name d hd

/-- Nothing happened to any device. -/
theorem aside (ha : r.Aside r') (h : Ledger claims opens r stakes) :
    Ledger claims opens r' stakes := by
  constructor
  · intro name d hd
    exact h.claimed name d (ha.get? name ▸ hd)
  · intro name d hd
    exact h.opens name d (ha.get? name ▸ hd)

/-- One stake stands otherwise than before, and so may its device: its count goes as the count of
the stake goes. -/
theorem phase {i : Nat} {name : String} {claim : Bool} {ph ph' : Phase} {rest : List Stake}
    (h : Ledger claims opens r (⟨i, name, claim, ph⟩ :: rest))
    (hothers : ∀ x, x ≠ name → r'.get? x = r.get? x)
    (hself : ∀ d', r'.get? name = some d' → ∃ d, r.get? name = some d ∧
      d'.claimed = d.claimed ∧ ∀ k, d.opens = k + (if ph.transport?.isSome then 1 else 0) →
        d'.opens = k + (if ph'.transport?.isSome then 1 else 0)) :
    Ledger claims opens r' (⟨i, name, claim, ph'⟩ :: rest) := by
  constructor
  · intro x e he
    by_cases hx : x = name
    · subst hx
      rcases hself e he with ⟨d, hd, hclaimed, -⟩
      rw [hclaimed, ← h.claimed _ d hd]
      simp [List.countP_cons, Stake.claims, Stake.isIn]
    · rw [← h.claimed x e (hothers x hx ▸ he)]
      simp [List.countP_cons, Stake.claims, Stake.isIn]
  · intro x e he
    by_cases hx : x = name
    · subst hx
      rcases hself e he with ⟨d, hd, -, hopens⟩
      have hold := h.opens _ d hd
      -- `k` is what the device counts besides this stake
      simp only [List.countP_cons, Stake.counts, Stake.isIn, beq_self_eq_true, Bool.true_and,
        ← Nat.add_assoc] at hold ⊢
      exact hopens _ hold
    · rw [h.opens x e (hothers x hx ▸ he)]
      have hne : (name == x) = false := by simpa using fun h => hx h.symm
      simp [Stake.counts, Stake.isIn, hne]

/-- Claiming enters a new stake, which holds the claim if the device needs one. -/
theorem claim {i : Nat} {name : String} {claim : Bool}
    (hc : r.claim? name = some (claim, r')) (h : Ledger claims opens r stakes) :
    Ledger claims opens r' (⟨i, name, claim, .outside⟩ :: stakes) := by
  rcases Registry.claim?_eq_some hc with ⟨d, hd, -, hfree, -, hget⟩
  constructor
  · intro x e he
    rw [hget] at he
    split at he
    · next hx =>
      subst hx
      rcases Option.some.inj he with rfl
      have hold := h.claimed _ d hd
      cases claim with
      | false => simpa [List.countP_cons, Stake.claims, Stake.isIn] using hold
      | true =>
        -- nobody held the claim, and now this stake alone does
        simp only [hfree rfl, Bool.false_eq_true, if_false] at hold
        simp only [List.countP_cons, Stake.claims, Stake.isIn, beq_self_eq_true, Bool.true_and,
          Bool.or_true, if_true] at hold ⊢
        omega
    · next hx =>
      have hne : (name == x) = false := by simpa using fun h => hx h.symm
      rw [← h.claimed x e he]
      simp [Stake.claims, Stake.isIn, hne]
  · intro x e he
    rw [hget] at he
    have hcount : (⟨i, name, claim, .outside⟩ : Stake).counts x = false := by
      simp [Stake.counts, Phase.transport?]
    rw [List.countP_cons_of_neg (by simp [hcount])]
    split at he
    · next hx =>
      subst hx
      rcases Option.some.inj he with rfl
      exact h.opens _ d hd
    · exact h.opens x e he

/-- A stake goes with the claim it holds. -/
theorem unclaim {i : Nat} {name : String} {claim : Bool}
    (h : Ledger claims opens r (⟨i, name, claim, .outside⟩ :: stakes)) :
    Ledger claims opens (r.unclaim name claim) stakes := by
  constructor
  · intro x e he
    rw [Registry.get?_unclaim] at he
    rcases Option.map_eq_some_iff.1 he with ⟨d, hd, rfl⟩
    have hold := h.claimed x d hd
    by_cases hx : x = name ∧ claim = true
    · -- this stake held the one claim there is, and nobody does any more
      rcases hx with ⟨rfl, rfl⟩
      simp only [List.countP_cons, Stake.claims, Stake.isIn, beq_self_eq_true, Bool.true_and,
        if_true, Device.unclaim] at hold ⊢
      have hle : (if d.claimed = true then 1 else 0) ≤ 1 := by split <;> omega
      simp only [and_self, if_true, Bool.false_eq_true, if_false]
      omega
    · -- another device, or a shared one: no claim goes with the stake
      have hno : (⟨i, name, claim, .outside⟩ : Stake).claims x = false := by
        cases claim with
        | false => simp [Stake.claims]
        | true =>
          have hne : name ≠ x := fun hn => hx ⟨hn.symm, rfl⟩
          simp [Stake.claims, Stake.isIn, hne]
      rw [List.countP_cons_of_neg (by simp [hno])] at hold
      simpa [hx] using hold
  · intro x e he
    rw [Registry.get?_unclaim] at he
    rcases Option.map_eq_some_iff.1 he with ⟨d, hd, rfl⟩
    have hold := h.opens x d hd
    have hcount : (⟨i, name, claim, .outside⟩ : Stake).counts x = false := by
      simp [Stake.counts, Phase.transport?]
    rw [List.countP_cons_of_neg (by simp [hcount])] at hold
    rw [← hold]
    split <;> rfl

/-- Every move keeps the ledger. -/
theorem move [Transport τ] {i : Nat} {before after : Option Stake} {notes : List Note}
    {rest : List Stake} (he : Effect i r before notes r' after)
    (h : Ledger claims opens r (before.toList ++ rest)) :
    Ledger claims opens r' (after.toList ++ rest) := by
  -- a claim is taken with a new stake and given back with it; in between the phase changes
  cases he with
  | claim hc => exact h.claim hc
  | acquireStarts => exact h.phase (fun _ _ => rfl) fun d hd => ⟨d, hd, rfl, fun _ hk => hk⟩
  | acquireEnds hacq =>
    rcases Registry.acquire_cases hacq with ⟨-, rfl, rfl⟩ | ⟨d, d', hd, hacquired, hget⟩
    · exact h.phase (fun _ _ => rfl) fun d hd => ⟨d, hd, rfl, fun _ hk => hk⟩
    · refine h.phase (fun x hx => by rw [hget, if_neg hx]) ?_
      intro e he
      rw [hget, if_pos rfl] at he
      rcases Option.some.inj he with rfl
      refine ⟨d, hd, hacquired.claimed, ?_⟩
      intro k hk
      rw [hacquired.opens, hk, Stage.isSome_taking_done]
      rfl
  | releaseStarts => exact h.phase (fun _ _ => rfl) fun d hd => ⟨d, hd, rfl, fun _ hk => hk⟩
  | releaseEnds hrel =>
    rcases Registry.release_cases hrel with ⟨hnone, rfl⟩ | ⟨d, d', hd, hreleased, hget⟩
    · exact h.phase (fun _ _ => rfl) fun d hd => by simp [hnone] at hd
    · refine h.phase (fun x hx => by rw [hget, if_neg hx]) ?_
      intro e he
      rw [hget, if_pos rfl] at he
      rcases Option.some.inj he with rfl
      refine ⟨d, hd, hreleased.claimed, ?_⟩
      intro k hk
      rw [hreleased.opens, hk]
      simp [Phase.transport?]
  | unclaim ha _ => exact h.unclaim.aside ha
  | aside ha _ => exact h.aside ha

/-- In every run the stakes account for every device. -/
theorem of_run [Transport τ] {trace : Trace} {s : System τ}
    (h : System.Run (System.start r) trace s) :
    Ledger r.claimsOf r.opensOf s.registry s.stakes :=
  (h.induct (fun r' stakes _ => Ledger r.claimsOf r.opensOf r' stakes)
    (fun _ _ _ _ hp => perm hp) (start r) (fun _ _ _ _ _ _ _ _ he hl => hl.move he)).2

end Ledger

end RemoteDevice.Server
