import RemoteDevice.Proofs.Server.Ledger

/-!
# Proofs.Server.Arbitration — devices that are not shared

An opening of a device that is not shared takes the claim on it first, and the claim goes with the
last thing that is left of that opening. So there is never more than one stake in such a device, and
the calls of it come in turns: nobody acquires it before its last holder has released it.
-/

namespace RemoteDevice.Server

open Wire List

/-! ## Turns -/

/-- The device a note is about. -/
def Note.device? : Note → Option String
  | .acquireStarts device => some device
  | .acquireEnds device _ => some device
  | .releaseStarts device => some device
  | .releaseEnds device => some device
  | .replied _ => none

/-- What was seen of the device of this name. -/
def callsOf (name : String) (trace : Trace) : Trace :=
  trace.filter (·.2.device? == some name)

theorem callsOf_append (name : String) (newer older : Trace) :
    callsOf name (newer ++ older) = callsOf name newer ++ callsOf name older :=
  List.filter_append newer older

/-- Whose turn it is with a device. -/
inductive Turn where
  | free
  | acquiring (i : Nat)
  | held (i : Nat)
  | releasing (i : Nat)

/-- Who has acquired the device and not released it yet. -/
def Turn.holder? : Turn → Option Nat
  | .held i => some i
  | .releasing i => some i
  | _ => none

/-- The calls of a device are made in turns, and this is the turn they have come to. -/
inductive Turns (name : String) : Trace → Turn → Prop
  | nothing : Turns name [] .free
  | acquireStarts {calls : Trace} {i : Nat} :
    Turns name calls .free → Turns name ((i, .acquireStarts name) :: calls) (.acquiring i)
  | acquired {calls : Trace} {i : Nat} :
    Turns name calls (.acquiring i) → Turns name ((i, .acquireEnds name true) :: calls) (.held i)
  | refused {calls : Trace} {i : Nat} :
    Turns name calls (.acquiring i) → Turns name ((i, .acquireEnds name false) :: calls) .free
  | releaseStarts {calls : Trace} {i : Nat} :
    Turns name calls (.held i) → Turns name ((i, .releaseStarts name) :: calls) (.releasing i)
  | released {calls : Trace} {i : Nat} :
    Turns name calls (.releasing i) → Turns name ((i, .releaseEnds name) :: calls) .free

namespace Turns

variable {name : String} {turn : Turn}

/-- What came before was in turns as well. -/
theorem of_append {newer older : Trace} (h : Turns name (newer ++ older) turn) :
    ∃ turn, Turns name older turn := by
  -- every call is made in the turn the calls before it came to
  induction newer generalizing turn with
  | nil => exact ⟨turn, h⟩
  | cons call newer ih =>
    cases h with
    | acquireStarts h => exact ih h
    | acquired h => exact ih h
    | refused h => exact ih h
    | releaseStarts h => exact ih h
    | released h => exact ih h

/-- Whoever acquired the device still has it, or has released it since. -/
theorem of_acquired {i : Nat} {since older : Trace}
    (h : Turns name (since ++ (i, .acquireEnds name true) :: older) turn) :
    turn.holder? = some i ∨ (i, .releaseEnds name) ∈ since := by
  -- induction on the calls since the acquisition, the newest first
  induction since generalizing turn with
  | nil =>
    cases h with
    | acquired h => exact Or.inl rfl
  | cons call since ih =>
    have later (h : (i, Note.releaseEnds name) ∈ since) :
        (i, Note.releaseEnds name) ∈ call :: since := List.mem_cons_of_mem _ h
    -- nobody has the device when an acquisition begins or ends
    cases h with
    | acquireStarts h => exact Or.inr (later ((ih h).resolve_left (by simp [Turn.holder?])))
    | acquired h => exact Or.inr (later ((ih h).resolve_left (by simp [Turn.holder?])))
    | refused h => exact Or.inr (later ((ih h).resolve_left (by simp [Turn.holder?])))
    | releaseStarts h => exact (ih h).imp_right later
    | released h =>
      rcases ih h with hholder | hsince
      · rcases Option.some.inj hholder with rfl
        exact Or.inr List.mem_cons_self
      · exact Or.inr (later hsince)

/-- Between an acquisition that succeeded and the next one stands the end of a release. -/
theorem released_between {i j : Nat} {newer between older : Trace}
    (h : Turns name (callsOf name
      (newer ++ (j, .acquireStarts name) :: between ++ (i, .acquireEnds name true) :: older)) turn) :
    (i, .releaseEnds name) ∈ between := by
  have hj : callsOf name ((j, .acquireStarts name) :: between) =
      (j, .acquireStarts name) :: callsOf name between := by simp [callsOf, Note.device?]
  have hi : callsOf name ((i, .acquireEnds name true) :: older) =
      (i, .acquireEnds name true) :: callsOf name older := by simp [callsOf, Note.device?]
  rw [callsOf_append, callsOf_append, hj, hi, List.append_assoc] at h
  -- the next acquisition begins when the device is free, which excludes that `i` has it still
  rcases of_append h with ⟨turn', h'⟩
  cases h' with
  | acquireStarts hfree =>
    have hmem := (of_acquired hfree).resolve_left (by simp [Turn.holder?])
    exact (List.mem_filter.1 hmem).1

end Turns

/-! ## One stake at a time -/

variable {τ : Type}

/-- The devices are configured as at the start, and whoever has a stake in a device holds the claim
on it exactly if the device is not shared. -/
structure Marked (r₀ r : Registry τ) (stakes : List Stake) : Prop where
  config : ∀ x, (r.get? x).map (·.config) = (r₀.get? x).map (·.config)
  claim : ∀ st ∈ stakes, ∀ d, r.get? st.device = some d → st.claim = !d.config.shared

/-- The device of this name is there and is not shared. -/
def Registry.Exclusive (name : String) (r : Registry τ) : Prop :=
  ∃ d, r.get? name = some d ∧ d.config.shared = false

/-- What is exclusive stays exclusive, whoever acts. -/
theorem Marked.exclusive_iff {r₀ r : Registry τ} {stakes : List Stake} {name : String}
    (h : Marked r₀ r stakes) : r.Exclusive name ↔ r₀.Exclusive name := by
  have hconfig := h.config name
  unfold Registry.Exclusive
  cases hr : r.get? name <;> cases hr₀ : r₀.get? name <;> simp_all

/-- A device that is not shared is claimed exactly if there is a stake in it, and then it is the
only one. -/
theorem Ledger.countP_isIn_of_exclusive {claims opens : String → Nat} {r₀ r : Registry τ}
    {stakes : List Stake} {name : String} {d : Device} (hl : Ledger claims opens r stakes)
    (hm : Marked r₀ r stakes) (hbefore : claims name = 0) (hd : r.get? name = some d)
    (hexclusive : d.config.shared = false) :
    stakes.countP (Stake.isIn name) = if d.claimed then 1 else 0 := by
  -- every stake in the device holds the claim, and the ledger counts claims
  have hclaims : stakes.countP (Stake.isIn name) = stakes.countP (Stake.claims name) := by
    refine List.countP_congr ?_
    intro st hst
    unfold Stake.claims
    by_cases hin : st.isIn name = true
    · have hdevice : st.device = name := by simpa [Stake.isIn] using hin
      have hclaim := hm.claim st hst d (hdevice ▸ hd)
      simp [hin, hclaim, hexclusive]
    · simp [hin]
  rw [hclaims, ← hl.claimed name d hd, hbefore, Nat.zero_add]

theorem Marked.perm {r₀ r : Registry τ} {stakes stakes' : List Stake} (hp : stakes ~ stakes')
    (h : Marked r₀ r stakes) : Marked r₀ r stakes' := by
  refine ⟨h.config, ?_⟩
  intro st hst
  exact h.claim st (hp.mem_iff.2 hst)

section Moves

variable [Transport τ] {i : Nat} {r r' : Registry τ} {before after : Option Stake}
  {notes : List Note}

/-- A stake a move leaves is the one it found in another phase, or one made by claiming. -/
theorem Effect.after_cases {st' : Stake} (he : Effect i r before notes r' (some st')) :
    (∃ st, before = some st ∧ st'.device = st.device ∧ st'.claim = st.claim) ∨
      ∃ d, r.get? st'.device = some d ∧ st'.claim = !d.config.shared := by
  cases he with
  | claim hc =>
    rcases Registry.claim?_eq_some hc with ⟨d, hd, hclaim, -⟩
    exact Or.inr ⟨d, hd, hclaim⟩
  | acquireStarts => exact Or.inl ⟨_, rfl, rfl, rfl⟩
  | acquireEnds _ => exact Or.inl ⟨_, rfl, rfl, rfl⟩
  | releaseStarts => exact Or.inl ⟨_, rfl, rfl, rfl⟩
  | releaseEnds _ => exact Or.inl ⟨_, rfl, rfl, rfl⟩

/-- A stake that a step makes has the claim exactly if the device is not shared, and the others keep
theirs. -/
theorem Marked.move {r₀ : Registry τ} {rest : List Stake} (he : Effect i r before notes r' after)
    (h : Marked r₀ r (before.toList ++ rest)) : Marked r₀ r' (after.toList ++ rest) := by
  constructor
  · intro x
    rw [he.config, h.config]
  · intro st hst d hd
    obtain ⟨e, hget, hconfig⟩ : ∃ e, r.get? st.device = some e ∧ e.config = d.config := by
      have hx := he.config st.device
      rw [hd] at hx
      exact Option.map_eq_some_iff.1 hx.symm
    rw [← hconfig]
    rcases List.mem_append.1 hst with hafter | hrest
    · -- the stake that moved: it has the claim it had, or the one the device gave it
      rcases Option.mem_toList.1 hafter with rfl
      rcases he.after_cases with ⟨old, rfl, hdevice, hclaim⟩ | ⟨d', hd', hclaim⟩
      · rw [hclaim]
        exact h.claim old (by simp) e (hdevice ▸ hget)
      · rcases Option.some.inj (hget.symm.trans hd') with rfl
        exact hclaim
    · exact h.claim st (List.mem_append_right _ hrest) e hget

/-- The turn that a stake in a device means, or that there is none. -/
def Stake.turn (st : Stake) : Turn :=
  match st.phase with
  | .outside => .free
  | .acquiring => .acquiring st.owner
  | .holding _ => .held st.owner
  | .releasing _ => .releasing st.owner

/-- The calls of the device are made in turns, which the stakes in it agree with. -/
structure Turning (name : String) (stakes : List Stake) (trace : Trace) : Prop where
  free : (∀ st ∈ stakes, st.isIn name = false) → Turns name (callsOf name trace) .free
  stake : ∀ st ∈ stakes, st.isIn name = true → Turns name (callsOf name trace) st.turn

theorem Turning.perm {name : String} {stakes stakes' : List Stake} {trace : Trace}
    (hp : stakes ~ stakes') (h : Turning name stakes trace) : Turning name stakes' trace := by
  constructor
  · intro hnone
    exact h.free fun st hst => hnone st (hp.mem_iff.1 hst)
  · intro st hst
    exact h.stake st (hp.mem_iff.2 hst)

/-- A move is about one device at most. -/
theorem Effect.device_eq (he : Effect i r before notes r' after) :
    ∃ device, ∀ st ∈ before.toList ++ after.toList, st.device = device := by
  cases he with
  | claim _ => exact ⟨_, by simp; rfl⟩
  | acquireStarts => exact ⟨_, by simp; rfl⟩
  | acquireEnds _ => exact ⟨_, by simp; rfl⟩
  | releaseStarts => exact ⟨_, by simp; rfl⟩
  | releaseEnds _ => exact ⟨_, by simp; rfl⟩
  | unclaim _ _ => exact ⟨_, by simp; rfl⟩
  | aside _ _ => exact ⟨"", by simp⟩

theorem callsOf_replies {name : String} (h : notes.all Note.isReply = true) :
    callsOf name (notes.map ((i, ·))) = [] := by
  refine List.filter_eq_nil_iff.2 ?_
  intro seen hseen
  rcases List.mem_map.1 hseen with ⟨note, hnote, rfl⟩
  have hreply := List.all_eq_true.1 h note hnote
  cases note <;> simp_all [Note.isReply, Note.device?]

/-- What is seen of a move is about the device of the stake. -/
theorem Effect.callsOf_eq_nil {name : String} (he : Effect i r before notes r' after)
    (hother : ∀ st ∈ before.toList ++ after.toList, st.device ≠ name) :
    callsOf name (notes.map ((i, ·))) = [] := by
  cases he with
  | claim _ => rfl
  | acquireStarts => simpa [callsOf, Note.device?] using hother
  | acquireEnds _ => simpa [callsOf, Note.device?] using hother
  | releaseStarts => simpa [callsOf, Note.device?] using hother
  | releaseEnds _ => simpa [callsOf, Note.device?] using hother
  | unclaim _ hnotes => exact callsOf_replies hnotes
  | aside _ hnotes => exact callsOf_replies hnotes

/-- A move of the only stake in a device takes its turn. -/
theorem Effect.turn {name : String} {calls : Trace} (he : Effect i r before notes r' after)
    (hself : ∀ st ∈ before.toList ++ after.toList, st.device = name)
    (h : Turns name calls (before.elim .free Stake.turn)) :
    Turns name (callsOf name (notes.map ((i, ·))) ++ calls) (after.elim .free Stake.turn) := by
  cases he with
  | claim _ => exact h
  | acquireStarts =>
    obtain rfl := by simpa using hself
    simpa [callsOf, Note.device?, Stake.turn] using h.acquireStarts
  | @acquireEnds _ device _ result _ =>
    obtain rfl : device = name := by simpa using hself
    cases result with
    | ok t =>
      simpa [callsOf, Note.device?, Stake.turn, Stage.taking, Except.isOk, Except.toBool] using
        h.acquired
    | error f =>
      simpa [callsOf, Note.device?, Stake.turn, Stage.taking, Except.isOk, Except.toBool] using
        h.refused
  | releaseStarts =>
    obtain rfl := by simpa using hself
    simpa [callsOf, Note.device?, Stake.turn] using h.releaseStarts
  | releaseEnds _ =>
    obtain rfl := by simpa using hself
    simpa [callsOf, Note.device?, Stake.turn] using h.released
  | unclaim _ hnotes => simpa [callsOf_replies hnotes, Stake.turn] using h
  | aside _ hnotes => simpa [callsOf_replies hnotes, Stake.turn] using h

/-- A move of another device: neither the calls of this one nor the stakes in it are touched. -/
theorem Turning.move_other {name : String} {rest : List Stake} {trace : Trace}
    (he : Effect i r before notes r' after)
    (hother : ∀ st ∈ before.toList ++ after.toList, st.device ≠ name)
    (h : Turning name (before.toList ++ rest) trace) :
    Turning name (after.toList ++ rest) (notes.map ((i, ·)) ++ trace) := by
  have hcalls : callsOf name (notes.map ((i, ·)) ++ trace) = callsOf name trace := by
    rw [callsOf_append, he.callsOf_eq_nil hother, List.nil_append]
  constructor
  · intro hnone
    rw [hcalls]
    apply h.free
    intro st hst
    rcases List.mem_append.1 hst with hst | hst
    · simpa [Stake.isIn] using hother st (List.mem_append_left _ hst)
    · exact hnone st (List.mem_append_right _ hst)
  · intro st hst hin
    rw [hcalls]
    rcases List.mem_append.1 hst with hst | hst
    · exact absurd (by simpa [Stake.isIn] using hin) (hother st (List.mem_append_right _ hst))
    · exact h.stake st (List.mem_append_right _ hst) hin

/-- A move of the only stake in the device, before or after it. -/
theorem Turning.move_self {name : String} {rest : List Stake} {trace : Trace}
    (he : Effect i r before notes r' after)
    (hself : ∀ st ∈ before.toList ++ after.toList, st.device = name)
    (halone : ∀ st ∈ rest, st.isIn name = false)
    (h : Turning name (before.toList ++ rest) trace) :
    Turning name (after.toList ++ rest) (notes.map ((i, ·)) ++ trace) := by
  have hturn : Turns name (callsOf name trace) (before.elim .free Stake.turn) := by
    cases before with
    | none => exact h.free halone
    | some st => exact h.stake st (by simp) (by simpa [Stake.isIn] using hself st)
  have hturn' := he.turn hself hturn
  rw [← callsOf_append] at hturn'
  constructor
  · intro hnone
    cases after with
    | none => exact hturn'
    | some st =>
      have hin := hnone st (by simp)
      simp [Stake.isIn, hself st (by simp)] at hin
  · intro st hst hin
    rcases List.mem_append.1 hst with hst | hst
    · rcases Option.mem_toList.1 hst with rfl
      exact hturn'
    · simp [halone st hst] at hin

/-- As long as there is one stake in the device at most, every move keeps the turns. -/
theorem Turning.move {name : String} {rest : List Stake} {trace : Trace}
    (he : Effect i r before notes r' after)
    (hbefore : (before.toList ++ rest).countP (Stake.isIn name) ≤ 1)
    (hafter : (after.toList ++ rest).countP (Stake.isIn name) ≤ 1)
    (h : Turning name (before.toList ++ rest) trace) :
    Turning name (after.toList ++ rest) (notes.map ((i, ·)) ++ trace) := by
  rcases he.device_eq with ⟨device, hdevice⟩
  by_cases hname : device = name ∧ before.toList ++ after.toList ≠ []
  · rcases hname with ⟨rfl, hsome⟩
    refine Turning.move_self he hdevice ?_ h
    -- the stake that moves is the only one in the device
    rcases List.exists_mem_of_ne_nil _ hsome with ⟨st, hst⟩
    have hin : st.isIn device = true := by simpa [Stake.isIn] using hdevice st hst
    rw [List.countP_append] at hbefore hafter
    have hzero : rest.countP (Stake.isIn device) = 0 := by
      rcases List.mem_append.1 hst with hst | hst
      · have hpos := List.countP_pos_iff.2 ⟨st, hst, hin⟩
        omega
      · have hpos := List.countP_pos_iff.2 ⟨st, hst, hin⟩
        omega
    intro st' hst'
    simpa using List.countP_eq_zero.1 hzero st' hst'
  · refine Turning.move_other he ?_ h
    intro st hst heq
    exact hname ⟨(hdevice st hst).symm.trans heq, List.ne_nil_of_mem hst⟩

end Moves

/-! ## Every run -/

/-- What is known of the device of this name at every point of a run. -/
structure Arbitrated (r₀ : Registry τ) (name : String) (r : Registry τ) (stakes : List Stake)
    (trace : Trace) : Prop where
  ledger : Ledger r₀.claimsOf r₀.opensOf r stakes
  marked : Marked r₀ r stakes
  turning : r₀.Exclusive name → Turning name stakes trace

namespace Arbitrated

variable {r₀ r r' : Registry τ} {name : String} {stakes stakes' : List Stake} {trace : Trace}

theorem start : Arbitrated r₀ name r₀ [] [] :=
  ⟨.start r₀, ⟨fun _ => rfl, by simp⟩, fun _ => ⟨fun _ => .nothing, by simp⟩⟩

theorem perm (hp : stakes ~ stakes') (h : Arbitrated r₀ name r stakes trace) :
    Arbitrated r₀ name r stakes' trace :=
  ⟨h.ledger.perm hp, h.marked.perm hp, fun hx => (h.turning hx).perm hp⟩

/-- There is never more than one stake in a device that is not shared. -/
theorem countP_le_one (hmade : r₀.claimsOf name = 0) (hx : r₀.Exclusive name)
    (hl : Ledger r₀.claimsOf r₀.opensOf r stakes) (hm : Marked r₀ r stakes) :
    stakes.countP (Stake.isIn name) ≤ 1 := by
  rcases hm.exclusive_iff.2 hx with ⟨d, hd, hshared⟩
  rw [hl.countP_isIn_of_exclusive hm hmade hd hshared]
  split <;> omega

/-- The calls of a device that is not shared are made in turns. -/
theorem turns (hx : r₀.Exclusive name) (h : Arbitrated r₀ name r stakes trace) :
    ∃ turn, Turns name (callsOf name trace) turn := by
  have hturning := h.turning hx
  by_cases hnone : ∀ st ∈ stakes, st.isIn name = false
  · exact ⟨_, hturning.free hnone⟩
  · rcases Classical.not_forall.1 hnone with ⟨st, hst⟩
    rcases Classical.not_imp.1 hst with ⟨hmem, hin⟩
    exact ⟨_, hturning.stake st hmem (by simpa using hin)⟩

variable [Transport τ]

theorem move {i : Nat} {before after : Option Stake} {notes : List Note} {rest : List Stake}
    (hmade : r₀.claimsOf name = 0) (he : Effect i r before notes r' after)
    (h : Arbitrated r₀ name r (before.toList ++ rest) trace) :
    Arbitrated r₀ name r' (after.toList ++ rest) (notes.map ((i, ·)) ++ trace) := by
  have hledger := h.ledger.move he
  have hmarked := h.marked.move he
  refine ⟨hledger, hmarked, ?_⟩
  intro hx
  exact (h.turning hx).move he (countP_le_one hmade hx h.ledger h.marked)
    (countP_le_one hmade hx hledger hmarked)

/-- Every run is arbitrated, device by device. -/
theorem of_run {s : System τ} (hmade : r₀.claimsOf name = 0)
    (hrun : System.Run (System.start r₀) trace s) :
    Arbitrated r₀ name s.registry s.stakes trace :=
  (hrun.induct (Arbitrated r₀ name) (fun _ _ _ _ hp => perm hp) start
    (fun _ _ _ _ _ _ _ _ he h => h.move hmade he)).2

end Arbitrated

/-- Nobody claims a device that is shared. -/
theorem System.Run.claimsOf_of_shared [Transport τ] {configs : List DeviceConfig}
    {catalog : Catalog τ} {trace : Trace} {s : System τ} {x : String} {d : Device}
    (hrun : System.Run (System.start (.make configs catalog)) trace s)
    (hd : s.registry.get? x = some d) (hshared : d.config.shared = true) :
    s.registry.claimsOf x = 0 := by
  have hmade := Registry.claimsOf_make configs catalog x
  have h := Arbitrated.of_run hmade hrun
  have hnone : s.stakes.countP (Stake.claims x) = 0 := by
    apply List.countP_eq_zero.2
    intro st hst hclaims
    rcases Bool.and_eq_true_iff.1 hclaims with ⟨hin, hclaim⟩
    obtain rfl : st.device = x := by simpa [Stake.isIn] using hin
    have hmarked := h.marked.claim st hst d hd
    simp [hshared, hclaim] at hmarked
  have hledger := h.ledger.claimed x d hd
  rw [hmade, hnone] at hledger
  simpa [Registry.claimsOf, hd] using hledger.symm

/-! ## What an opening is answered -/

/-- A reply that reports success is not one that reports the device as busy. -/
theorem reply_ne_busy (unit : UInt8) (control : UInt32) (payload : Bytes) :
    Message.reply unit control payload ≠ .failure .busy := by
  intro heq
  -- the status is the first byte of every reply
  have hcode : Status.success.code = Status.busy.code := congrArg Message.opcode heq
  exact absurd hcode (by decide)

namespace Session

theorem finishOpen_ne_busy [Transport τ] (o : Opening) (result : Outcome Nat) (s : Session) (r : Registry τ) :
    (s.finishOpen o result r).1 ≠ .failure .busy := by
  unfold finishOpen
  split
  · show Message.failure .io ≠ .failure .busy
    decide
  · unfold enter
    dsimp only
    split <;> exact reply_ne_busy _ _ _

theorem finishClose_ne_busy (unit : UInt8) (e : Entry) (result : Outcome Unit) (r : Registry τ) :
    (finishClose unit e result r).1 ≠ .failure .busy := by
  unfold finishClose
  split
  · exact reply_ne_busy _ _ _
  · show Message.failure .io ≠ .failure .busy
    decide

end Session

/-- Whatever a session goes on with, it never answers that a device is busy. -/
theorem Worker.not_busy_of_advance [Transport τ] {w w' : Worker} {r r' : Registry τ}
    {notes : List Note} (h : w.advance r = some (notes, w', r')) :
    .replied (.failure .busy) ∉ notes := by
  cases advances_of_advance h with
  | @opened session _ o result _ _ hfin =>
    have hreply := Session.finishOpen_ne_busy o result session r
    rw [hfin] at hreply
    simpa using hreply.symm
  | @closed _ unit e result _ _ hfin =>
    have hreply := Session.finishClose_ne_busy unit e result r
    rw [hfin] at hreply
    simpa using hreply.symm
  | _ => simp

namespace System

variable [Transport τ] {s : System τ} {i : Nat} {w : Worker} {m : Message}

/-- A request to open a device that is there, while a number is free: it is refused as busy or it is
under way, and that depends on the claim alone. -/
theorem step_open {number : Nat} {d : Device} (hw : s.workers[i]? = some w) (hidle : w.task = .idle)
    (hop : m.op = .ok .openUnit) (hd : s.registry.get? (deviceName m.payload) = some d)
    (hfree : w.session.free? = some number) :
    s.step (.request i m) = some (match s.registry.claim? (deviceName m.payload) with
      | none => ([(i, .replied (.failure .busy))], s)
      | some (claim, r) => ([], ⟨r, s.workers.set i
          ⟨w.session, .opening ⟨deviceName m.payload, number, claim⟩ .waiting⟩⟩)) := by
  rcases w with ⟨session, task⟩
  obtain rfl : task = .idle := hidle
  have hset : s.workers.set i ⟨session, .idle⟩ = s.workers := set_self_of_getElem? hw
  simp only [step, onWorker, hw, Worker.request, hop, Session.beginOpen, hd, hfree]
  cases s.registry.claim? (deviceName m.payload) with
  | none => simp [hset]
  | some found => simp

/-- A device that was there when an opening began is not busy to it any more. -/
theorem not_busy_of_advance {notes : Trace} {s' : System τ}
    (h : s.step (.advance i) = some (notes, s')) : (i, .replied (.failure .busy)) ∉ notes := by
  simp only [step, onWorker] at h
  split at h
  · simp at h
  · next w hw =>
    rcases Option.map_eq_some_iff.1 h with ⟨⟨said, w', r'⟩, hp, heq⟩
    rcases Prod.mk.inj heq with ⟨rfl, rfl⟩
    intro hmem
    rcases List.mem_map.1 hmem with ⟨note, hnote, heq⟩
    exact Worker.not_busy_of_advance hp ((Prod.mk.inj heq).2 ▸ hnote)

/-- Arbitration of a device that is not shared, whatever the sessions do and in whatever order: at
most one unit is open on it; it is claimed exactly while one unit is open or one opening, closing
or end of a unit is under way; an opening that passed the other checks is refused as busy exactly if
it is claimed; and nobody begins to acquire it before whoever acquired it last has released it. -/
theorem exclusive_arbitration {configs : List DeviceConfig} {catalog : Catalog τ} {trace : Trace}
    {name : String} {d : Device} (hrun : Run (start (.make configs catalog)) trace s)
    (hd : s.registry.get? name = some d) (hexclusive : d.config.shared = false) :
    s.openUnits name ≤ 1 ∧
    s.openUnits name + s.underWay name = (if d.claimed then 1 else 0) ∧
    (∀ i w m number, s.workers[i]? = some w → w.task = .idle → m.op = .ok .openUnit →
      deviceName m.payload = name → w.session.free? = some number →
      ∃ notes s', s.step (.request i m) = some (notes, s') ∧
        ((i, .replied (.failure .busy)) ∈ notes ↔ d.claimed = true)) ∧
    (∀ i notes s', s.step (.advance i) = some (notes, s') →
      (i, .replied (.failure .busy)) ∉ notes) ∧
    ∀ newer j between i older,
      trace = newer ++ (j, .acquireStarts name) :: between ++ (i, .acquireEnds name true) :: older →
      (i, .releaseEnds name) ∈ between := by
  have hmade := Registry.claimsOf_make configs catalog name
  have h := Arbitrated.of_run hmade hrun
  have hcount := h.ledger.countP_isIn_of_exclusive h.marked hmade hd hexclusive
  rw [s.countP_isIn] at hcount
  refine ⟨?_, hcount, ?_, ?_, ?_⟩
  · have hle : (if d.claimed then 1 else 0) ≤ 1 := by split <;> omega
    omega
  · intro i w m number hw hidle hop hname hfree
    subst hname
    refine ⟨_, _, step_open hw hidle hop hd hfree, ?_⟩
    -- claiming fails exactly if the device is claimed, as it is not shared
    have hbusy := Registry.claim?_eq_none_iff hd
    cases hc : s.registry.claim? (deviceName m.payload) with
    | none => simp [(hbusy.1 hc).2]
    | some found =>
      have hfree : d.claimed ≠ true := fun hclaimed => by
        simp [hbusy.2 ⟨hexclusive, hclaimed⟩] at hc
      simp [hfree]
  · intro i notes s' hstep
    exact not_busy_of_advance hstep
  · -- the trace is made of turns, whatever stands before and behind these two calls
    intro newer j between i older htrace
    rcases h.turns (h.marked.exclusive_iff.1 ⟨d, hd, hexclusive⟩) with ⟨turn, hturn⟩
    exact Turns.released_between (htrace ▸ hturn)

/-- One session has the device open, and the other one asks for it. -/
theorem exclusive_arbitration_of_two : ∃ trace, Run (start lone) trace occupied ∧
    occupied.openUnits "d" + occupied.underWay "d" = 1 ∧
    ∃ notes s, occupied.step (.request 1 (.request .openUnit 0 0 [100])) = some (notes, s) ∧
      (1, .replied (.failure .busy)) ∈ notes := by
  rcases run_occupied with ⟨trace, hrun⟩
  have hd : occupied.registry.get? "d" = some ⟨loneConfig, true, some 0, 1⟩ := rfl
  rcases exclusive_arbitration hrun hd rfl with ⟨-, hclaimed, hopen, -, -⟩
  have hname : deviceName (Message.request .openUnit 0 0 [100]).payload = "d" := deviceName_lone
  obtain ⟨notes, s, hstep, hbusy⟩ :=
    hopen 1 {} (.request .openUnit 0 0 [100]) 0 rfl rfl rfl hname rfl
  exact ⟨trace, hrun, hclaimed, notes, s, hstep, hbusy.2 rfl⟩

end System

end RemoteDevice.Server
