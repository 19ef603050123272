import RemoteDevice.Proofs.Server.Holding

/-!
# Proofs.Server.OpenCounting — how often a device is open

A device counts one opening for every unit that is open on it. While it is open it is connected, and
the transport it has is the one all of these units refer to; it is disconnected when the last
opening is given back, and only then.
-/

namespace RemoteDevice.Server

open Wire List

variable {τ : Type}

/-! ## Every move -/

/-- The device of this name has an open unit in the stake, which nobody closes yet. -/
def Stake.holds (name : String) (st : Stake) : Bool :=
  st.isIn name && match st.phase with
    | .holding _ => true
    | _ => false

theorem Stake.counts_of_holds {name : String} {st : Stake} (h : st.holds name = true) :
    st.counts name = true := by
  rcases st with ⟨i, device, claim, phase⟩
  cases phase <;> simp_all [holds, counts, isIn, Phase.transport?]

theorem count_replies {notes : List Note} (note : Note) (hnotes : notes.all Note.isReply = true)
    (hnote : note.isReply = false) : notes.count note = 0 := by
  apply List.count_eq_zero.2
  intro hmem
  have hreply := List.all_eq_true.1 hnotes note hmem
  simp [hnote] at hreply

namespace Effect

variable [Transport τ] {i : Nat} {r r' : Registry τ} {before after : Option Stake}
  {notes : List Note}

/-- Where the end of a release was seen, a release of that device was the move. -/
theorem of_releaseEnds {name : String} (he : Effect i r before notes r' after)
    (hmem : .releaseEnds name ∈ notes) : ∃ claim t destroy result,
      before = some ⟨i, name, claim, .releasing t⟩ ∧ after = some ⟨i, name, claim, .outside⟩ ∧
      notes = [.releaseEnds name] ∧ r.release name destroy = (result, r') := by
  cases he with
  | claim _ => simp at hmem
  | acquireStarts => simp at hmem
  | acquireEnds _ => simp at hmem
  | releaseStarts => simp at hmem
  | releaseEnds hrel =>
    obtain rfl := by simpa using hmem
    exact ⟨_, _, _, _, rfl, rfl, rfl, hrel⟩
  | unclaim _ hnotes => simpa [Note.isReply] using List.all_eq_true.1 hnotes _ hmem
  | aside _ hnotes => simpa [Note.isReply] using List.all_eq_true.1 hnotes _ hmem

theorem of_acquireEnds {name : String} (he : Effect i r before notes r' after)
    (hmem : .acquireEnds name true ∈ notes) : notes = [.acquireEnds name true] := by
  cases he with
  | claim _ => simp at hmem
  | acquireStarts => simp at hmem
  | acquireEnds _ => rw [List.mem_singleton.1 hmem]
  | releaseStarts => simp at hmem
  | releaseEnds _ => simp at hmem
  | unclaim _ hnotes => simpa [Note.isReply] using List.all_eq_true.1 hnotes _ hmem
  | aside _ hnotes => simpa [Note.isReply] using List.all_eq_true.1 hnotes _ hmem

/-- Nothing but the end of a release disconnects a transport. -/
theorem quiet (he : Effect i r before notes r' after) (hno : ∀ name, .releaseEnds name ∉ notes) :
    r.pool.Quiet r'.pool := by
  cases he with
  | claim hc =>
    rcases Registry.claim?_eq_some hc with ⟨d, -, -, -, hpool, -⟩
    exact hpool ▸ Pool.Quiet.refl _
  | acquireStarts => exact Pool.Quiet.refl _
  | acquireEnds hacq =>
    rcases Registry.acquire_cases hacq with ⟨-, -, rfl⟩ | ⟨d, d', -, hacquired, -⟩
    · exact Pool.Quiet.refl _
    · exact hacquired.quiet
  | releaseStarts => exact Pool.Quiet.refl _
  | releaseEnds _ => exact absurd List.mem_cons_self (hno _)
  | unclaim ha _ => exact Registry.pool_unclaim r _ _ ▸ ha.quiet
  | aside ha _ => exact ha.quiet

/-- What a device counts goes up with an acquisition that succeeded and down with a release. -/
theorem countP_counts (name : String) (he : Effect i r before notes r' after) :
    after.toList.countP (Stake.counts name) + notes.count (.releaseEnds name) =
      before.toList.countP (Stake.counts name) + notes.count (.acquireEnds name true) := by
  cases he with
  | claim _ => simp [Stake.counts, Phase.transport?]
  | acquireStarts => simp [Stake.counts, Phase.transport?]
  | @acquireEnds _ device _ result _ =>
    by_cases hname : device = name
    · cases result <;>
        simp [Stake.counts, Stake.isIn, Phase.transport?, Stage.taking, hname, Except.isOk,
          Except.toBool]
    · simp [Stake.counts, Stake.isIn, hname]
  | releaseStarts => simp [Stake.counts, Stake.isIn, Phase.transport?]
  | @releaseEnds _ device _ _ _ _ _ =>
    by_cases hname : device = name <;>
      simp [Stake.counts, Stake.isIn, Phase.transport?, hname]
  | unclaim _ hnotes =>
    rw [count_replies _ hnotes rfl, count_replies _ hnotes rfl]
    simp [Stake.counts, Phase.transport?]
  | aside _ hnotes => rw [count_replies _ hnotes rfl, count_replies _ hnotes rfl]

end Effect

/-- What a device counts are the stakes, and these agree about its transport. -/
structure Counted (r₀ r : Registry τ) (stakes : List Stake) : Prop where
  ledger : Ledger r₀.claimsOf r₀.opensOf r stakes
  wired : Wired r stakes

namespace Counted

variable {r₀ r r' : Registry τ} {stakes stakes' : List Stake}

theorem perm (hp : stakes ~ stakes') (h : Counted r₀ r stakes) : Counted r₀ r stakes' :=
  ⟨h.ledger.perm hp, h.wired.perm hp⟩

/-- A device is open as often as there are stakes it counts. -/
theorem opensOf_eq {name : String} (hmade : r₀.opensOf name = 0) (h : Counted r₀ r stakes) :
    r.opensOf name = stakes.countP (Stake.counts name) := by
  cases hd : r.get? name with
  | some d =>
    rw [Registry.opensOf, hd]
    have hopens := h.ledger.opens name d hd
    simpa [hmade] using hopens
  | none =>
    -- no stake counts: it would refer to the transport of a device
    have hzero : stakes.countP (Stake.counts name) = 0 := by
      apply List.countP_eq_zero.2
      intro st hst hcounts
      rcases h.wired.of_counts hst hcounts with ⟨t, -, ht⟩
      simp [Registry.transportOf, hd] at ht
    simp [Registry.opensOf, hd, hzero]

/-- A device that is open has a transport. -/
theorem transportOf_of_open {name : String} (hmade : ∀ name, r₀.opensOf name = 0)
    (hopen : 0 < r.opensOf name) (h : Counted r₀ r stakes) :
    ∃ t, r.transportOf name = some t := by
  rw [h.opensOf_eq (hmade name)] at hopen
  rcases List.countP_pos_iff.1 hopen with ⟨st, hst, hcounts⟩
  rcases h.wired.of_counts hst hcounts with ⟨t, -, ht⟩
  exact ⟨t, ht⟩

variable [Transport τ] {i : Nat} {before after : Option Stake} {notes : List Note}
  {rest : List Stake}

theorem move (hmade : ∀ name, r₀.opensOf name = 0) (he : Effect i r before notes r' after)
    (h : Counted r₀ r (before.toList ++ rest)) : Counted r₀ r' (after.toList ++ rest) := by
  refine ⟨h.ledger.move he, ?_⟩
  have hw := h.wired
  cases he with
  | claim hc =>
    rcases Registry.claim?_eq_some hc with ⟨d, -, -, -, hpool, -⟩
    have hsize := Nat.le_of_eq (congrArg (·.members.length) hpool).symm
    exact (hw.keep hsize (Registry.transportOf_claim hc)).cons (by simp [Phase.transport?])
  | acquireStarts => exact hw.tail.cons (by simp [Phase.transport?])
  | acquireEnds hacq => exact hw.acquire hacq
  | releaseStarts => exact hw.tail.cons fun t ht => hw.same _ List.mem_cons_self t ht
  | releaseEnds hrel =>
    -- the ledger says that the device counts this opening and those of the other stakes
    refine hw.release hrel ?_
    rw [h.opensOf_eq (hmade _)]
    simp [Stake.counts, Stake.isIn, Phase.transport?]
  | unclaim ha _ =>
    apply hw.tail.keep (by simpa [Registry.pool_unclaim] using ha.quiet.size_le)
    intro x
    rw [Registry.transportOf_congr (ha.get? x), Registry.transportOf_unclaim]
  | aside ha _ =>
    exact hw.keep ha.quiet.size_le fun x => Registry.transportOf_congr (ha.get? x)

/-- How often a device is open changes by the acquisitions and releases that are seen. -/
theorem opensOf_move (name : String) (hmade : ∀ name, r₀.opensOf name = 0)
    (he : Effect i r before notes r' after) (h : Counted r₀ r (before.toList ++ rest)) :
    r'.opensOf name + notes.count (.releaseEnds name) =
      r.opensOf name + notes.count (.acquireEnds name true) := by
  have hcounts := he.countP_counts name
  rw [(h.move hmade he).opensOf_eq (hmade name), h.opensOf_eq (hmade name), List.countP_append,
    List.countP_append]
  omega

/-- A device that is open before and after a move keeps its transport. -/
theorem transportOf_move {name : String} (hmade : ∀ name, r₀.opensOf name = 0)
    (he : Effect i r before notes r' after) (h : Counted r₀ r (before.toList ++ rest))
    (hbefore : 0 < r.opensOf name) (hafter : 0 < r'.opensOf name) :
    r'.transportOf name = r.transportOf name := by
  cases he with
  | claim hc => exact Registry.transportOf_claim hc name
  | acquireStarts => rfl
  | acquireEnds hacq =>
    rcases Registry.transportOf_acquire hacq name with hkept | ⟨-, hnone⟩
    · exact hkept
    · rcases h.transportOf_of_open hmade hbefore with ⟨t, ht⟩
      simp [hnone] at ht
  | releaseStarts => rfl
  | releaseEnds hrel =>
    rcases Registry.transportOf_release hrel name with hkept | ⟨rfl, hlast⟩
    · exact hkept
    · -- the last opening was given back, and yet the device is open
      have hopens := h.opensOf_move name hmade (.releaseEnds hrel)
      simp at hopens
      omega
  | unclaim ha _ =>
    rw [Registry.transportOf_congr (ha.get? name), Registry.transportOf_unclaim]
  | aside ha _ => exact Registry.transportOf_congr (ha.get? name)

/-- What a release does to transports: nothing as long as others have the device open, and the one
that gives back the last opening disconnects the transport, after which nothing is called. -/
theorem records_release {name : String} {claim destroy : Bool} {t : Nat} {result : Outcome Unit}
    (hrel : r.release name destroy = (result, r'))
    (h : Counted r₀ r (⟨i, name, claim, .releasing t⟩ :: rest)) :
    (r'.opensOf name ≠ 0 ∧ r'.pool = r.pool) ∨
      (r'.opensOf name = 0 ∧ ∃ later, r.pool.Records (later ++ [.called t .disconnect]) r'.pool ∧
        Pool.Silent later) := by
  have ht : r.transportOf name = some t := h.wired.same _ List.mem_cons_self t rfl
  rcases Registry.release_cases hrel with ⟨hnone, -⟩ | ⟨d, d', hd, hreleased, hget⟩
  · -- the device has a transport, so it is there
    simp [Registry.transportOf, hnone] at ht
  · have hopens : r'.opensOf name = d.opens - 1 := by
      simp [Registry.opensOf, hget, hreleased.opens]
    have htransport : d.transport = some t := Registry.transportOf_eq hd ▸ ht
    by_cases hlt : 1 < d.opens
    · exact .inl ⟨by omega, (hreleased.kept hlt).2⟩
    · have hlast := hreleased.last (by omega) t htransport (h.wired.bound name t ht)
      exact .inr ⟨by omega, hlast⟩

/-- What is noted of a release: nothing as long as others have the device open, and with the last
opening that its transport is disconnected, once. -/
theorem journal_release {name : String} {claim destroy : Bool} {t : Nat} {result : Outcome Unit}
    (hrel : r.release name destroy = (result, r'))
    (h : Counted r₀ r (⟨i, name, claim, .releasing t⟩ :: rest)) :
    ∃ added, r'.pool.journal = added ++ r.pool.journal ∧
      (∀ x n, r.transportOf x = some n → added.count (.called n .disconnect) =
        if x = name ∧ r'.opensOf x = 0 then 1 else 0) ∧
      ∀ n, .called n .disconnect ∈ added → r.transportOf name = some n := by
  have ht : r.transportOf name = some t := h.wired.same _ List.mem_cons_self t rfl
  rcases h.records_release hrel with ⟨hmore, hpool⟩ | ⟨hzero, later, hrecords, hsilent⟩
  · refine ⟨[], by rw [hpool]; rfl, ?_, by simp⟩
    intro x n _
    rw [if_neg]
    · rfl
    · rintro ⟨rfl, hzero⟩
      exact hmore hzero
  · refine ⟨later ++ [.called t .disconnect], hrecords.journal, ?_, ?_⟩
    · intro x n hx
      rw [List.count_append, List.count_eq_zero.2 (hsilent n .disconnect), Nat.zero_add]
      by_cases hname : x = name
      · subst hname
        rcases Option.some.inj (hx.symm.trans ht) with rfl
        simp [hzero]
      · -- another device has another transport
        have hn : n ≠ t := fun heq => hname (h.wired.apart x name n hx (heq ▸ ht))
        simp [hname, Ne.symm hn]
    · intro n hn
      rcases List.mem_append.1 hn with hn | hn
      · exact absurd hn (hsilent n .disconnect)
      · rcases (Event.called.inj (List.mem_singleton.1 hn)).1 with rfl
        exact ht

/-- Giving back the last opening leaves the transport of the device as disconnecting leaves it. -/
theorem state_release {name : String} {claim destroy : Bool} {t : Nat} {result : Outcome Unit}
    (hrel : r.release name destroy = (result, r')) (hzero : r'.opensOf name = 0)
    (h : Counted r₀ r (⟨i, name, claim, .releasing t⟩ :: rest)) :
    ∃ n state, r.transportOf name = some n ∧ r.pool.get? n = some state ∧
      r'.pool.get? n = some (Transport.disconnect state).2 := by
  have ht : r.transportOf name = some t := h.wired.same _ List.mem_cons_self t rfl
  obtain ⟨state, hstate⟩ := Pool.exists_get? (h.wired.bound name t ht)
  refine ⟨t, state, ht, hstate, ?_⟩
  rcases h.records_release hrel with ⟨hmore, -⟩ | ⟨-, later, hrecords, hsilent⟩
  · exact absurd hzero hmore
  · rw [hrecords.states t state hstate, Pool.replay_append, Pool.replay_of_silent hsilent]
    simp [Pool.replay, Call.after]

/-- A transport is disconnected exactly if the last opening of its device is given back, and then
once; nothing disconnects a transport that is no device's. -/
theorem journal_move (he : Effect i r before notes r' after) (h : Counted r₀ r (before.toList ++ rest)) :
    ∃ added, r'.pool.journal = added ++ r.pool.journal ∧
      (∀ name n, r.transportOf name = some n → added.count (.called n .disconnect) =
        if .releaseEnds name ∈ notes ∧ r'.opensOf name = 0 then 1 else 0) ∧
      ∀ n, .called n .disconnect ∈ added → ∃ name, r.transportOf name = some n := by
  by_cases hrelease : ∃ name, .releaseEnds name ∈ notes
  · rcases hrelease with ⟨name, hmem⟩
    rcases he.of_releaseEnds hmem with ⟨claim, t, destroy, result, rfl, rfl, rfl, hrel⟩
    rcases h.journal_release hrel with ⟨added, hjournal, hcount, howner⟩
    refine ⟨added, hjournal, ?_, ?_⟩
    · intro x n hx
      rw [hcount x n hx]
      simp
    · intro n hn
      exact ⟨name, howner n hn⟩
  · -- no other move disconnects anything
    have hno : ∀ name, .releaseEnds name ∉ notes := fun name hmem => hrelease ⟨name, hmem⟩
    rcases (he.quiet hno).journal with ⟨added, hjournal, hquiet⟩
    refine ⟨added, hjournal, ?_, ?_⟩
    · intro name n _
      rw [if_neg fun hboth => hno name hboth.1]
      exact List.count_eq_zero.2 (hquiet n)
    · intro n hn
      exact absurd hn (hquiet n)

end Counted

/-! ## Every run -/

/-- The device of this name counts an opening for what is under way. -/
def Task.counts (name : String) : Task → Bool
  | .opening o (.done (.ok _)) => o.device == name
  | .closing _ e .waiting => e.device == name
  | .closing _ e .running => e.device == name
  | .leaving e .waiting => e.device == name
  | .leaving e .running => e.device == name
  | _ => false

namespace System

/-- The openings a device of this name counts for what is under way. -/
def unsettled (name : String) (s : System τ) : Nat :=
  s.workers.countP (·.task.counts name)

/-- No session is in the middle of a request or of its end. -/
def AtRest (s : System τ) : Prop :=
  ∀ w ∈ s.workers, w.task = .idle ∨ w.task = .gone

/-- At rest nothing is unsettled. -/
theorem unsettled_eq_zero {s : System τ} (name : String) (h : s.AtRest) :
    s.unsettled name = 0 := by
  apply List.countP_eq_zero.2
  intro w hw
  rcases h w hw with htask | htask <;> simp [htask, Task.counts]

/-- An open unit is a stake. -/
theorem stake_mem {s : System τ} {w : Worker} {e : Entry} (hw : w ∈ s.workers)
    (he : e ∈ w.session.entries) (hopen : e.isOpen = true) : ∃ i, e.stake i ∈ s.stakes := by
  rcases List.mem_iff_getElem?.1 hw with ⟨i, hi⟩
  rcases stakes_set hi with ⟨others, hs, -⟩
  refine ⟨i, hs.mem_iff.2 (List.mem_append_left _ (List.mem_append_left _ ?_))⟩
  exact List.mem_map_of_mem (List.mem_filter.2 ⟨he, hopen⟩)

/-- The stakes that count are the open units and what is unsettled. -/
theorem countP_counts (name : String) (s : System τ) :
    s.stakes.countP (Stake.counts name) = s.openUnits name + s.unsettled name := by
  have hunit : ∀ i (e : Entry), (e.stake i).counts name = (e.device == name) := by
    intro i e
    simp [Entry.stake, Stake.counts, Stake.isIn, Phase.transport?]
  have htask : ∀ i (t : Task), (t.stake? i).any (Stake.counts name) = t.counts name := by
    intro i t
    cases t with
    | idle => rfl
    | ending => rfl
    | gone => rfl
    | opening o stage =>
      rcases stage with _ | _ | ⟨_ | _⟩ <;>
        simp [Task.stake?, Task.counts, Stake.counts, Stake.isIn, Stage.taking, Phase.transport?]
    | closing unit e stage =>
      cases stage <;>
        simp [Task.stake?, Task.counts, Stake.counts, Stake.isIn, Stage.giving, Phase.transport?]
    | leaving e stage =>
      cases stage <;>
        simp [Task.stake?, Task.counts, Stake.counts, Stake.isIn, Stage.giving, Phase.transport?]
  exact s.countP_stakes name hunit htask

/-- Open units are stakes that nobody closes yet. -/
theorem openUnits_le_countP_holds (name : String) (s : System τ) :
    s.openUnits name ≤ s.stakes.countP (Stake.holds name) := by
  have hunit : ∀ i (e : Entry), (e.stake i).holds name = (e.device == name) := by
    intro i e
    simp [Entry.stake, Stake.holds, Stake.isIn]
  have htask : ∀ i (t : Task), (t.stake? i).any (Stake.holds name) =
      (t.stake? 0).any (Stake.holds name) := by
    intro i t
    cases t <;> rfl
  rw [s.countP_stakes name hunit htask]
  exact Nat.le_add_right _ _

variable [Transport τ]

/-- Any number of steps between systems that all have a property. -/
inductive RunWhile (P : System τ → Prop) (s₀ : System τ) : Trace → System τ → Prop
  | rest : P s₀ → RunWhile P s₀ [] s₀
  | step {trace : Trace} {s : System τ} {a : Act τ} {notes : Trace} {s' : System τ} :
    RunWhile P s₀ trace s → s.step a = some (notes, s') → P s' →
    RunWhile P s₀ (notes ++ trace) s'

/-- In a run, the device of this name has been open since a step that acquired it, and the transport
`n` has not been disconnected since that step. -/
def OpenSince (s₀ : System τ) (name : String) (n : Nat) (trace : Trace) (s : System τ) : Prop :=
  ∃ older s₁ a i s₂ later, Run s₀ older s₁ ∧ s₁.registry.opensOf name = 0 ∧
    s₁.step a = some ([(i, .acquireEnds name true)], s₂) ∧ s₂.registry.opensOf name = 1 ∧
    RunWhile (0 < ·.registry.opensOf name) s₂ later s ∧
    trace = later ++ (i, .acquireEnds name true) :: older ∧
    ∃ added, s.registry.pool.journal = added ++ s₂.registry.pool.journal ∧
      .called n .disconnect ∉ added

/-- A step from a state to another in both of which the device is open, where the transport is not
disconnected. -/
theorem OpenSince.step {s₀ s s' : System τ} {name : String} {n : Nat} {trace notes : Trace}
    {a : Act τ} {new : List Event} (hstep : s.step a = some (notes, s'))
    (hopen : 0 < s'.registry.opensOf name)
    (hnew : s'.registry.pool.journal = new ++ s.registry.pool.journal)
    (hconnected : .called n .disconnect ∉ new) (h : OpenSince s₀ name n trace s) :
    OpenSince s₀ name n (notes ++ trace) s' := by
  rcases h with ⟨older, s₁, b, i, s₂, later, hrun, hclosed, hacquire, hone, hwhile, htrace, hadded⟩
  rcases hadded with ⟨added, hjournal, hbefore⟩
  refine ⟨older, s₁, b, i, s₂, notes ++ later, hrun, hclosed, hacquire, hone,
    hwhile.step hstep hopen, ?_, new ++ added, ?_, ?_⟩
  · rw [htrace, List.append_assoc]
  · rw [hnew, hjournal, List.append_assoc]
  · intro hmem
    rcases List.mem_append.1 hmem with hmem | hmem
    · exact hconnected hmem
    · exact hbefore hmem

section FromTheStart

variable {configs : List DeviceConfig} {catalog : Catalog τ} {trace notes : Trace}
  {s s' : System τ} {a : Act τ}

/-- The counts of the devices are those of the stakes, in every run. -/
theorem Run.counted (hrun : Run (start (.make configs catalog)) trace s) :
    s.Tidy ∧ Counted (.make configs catalog) s.registry s.stakes := by
  have hmade := Registry.opensOf_make configs catalog
  refine hrun.induct (fun r stakes _ => Counted (.make configs catalog) r stakes)
    (fun _ _ _ _ hp => .perm hp) ⟨.start _, .make configs catalog⟩ ?_
  intro i r r' before after notes rest trace he h
  exact h.move hmade he

/-- The move that a step of a run is. -/
theorem Run.counted_step (hrun : Run (start (.make configs catalog)) trace s)
    (hstep : s.step a = some (notes, s')) : ∃ i said before after rest,
    notes = said.map ((i, ·)) ∧ s.stakes ~ before.toList ++ rest ∧
      Effect i s.registry before said s'.registry after ∧
      Counted (.make configs catalog) s.registry (before.toList ++ rest) := by
  rcases hrun.counted with ⟨htidy, hcounted⟩
  obtain ⟨⟨i, said, before, after, rest, hnotes, hbefore, -, heffect⟩, -⟩ := step_effect htidy hstep
  exact ⟨i, said, before, after, rest, hnotes, hbefore, heffect, hcounted.perm hbefore⟩

/-- In a run, how often a device is open changes by what is seen of the next step. -/
theorem Run.opensOf_step (name : String) (hrun : Run (start (.make configs catalog)) trace s)
    (hstep : s.step a = some (notes, s')) :
    s'.registry.opensOf name + (notes.map (·.2)).count (.releaseEnds name) =
      s.registry.opensOf name + (notes.map (·.2)).count (.acquireEnds name true) := by
  rcases hrun.counted_step hstep with ⟨i, said, before, after, rest, rfl, -, he, hc⟩
  have hsaid : (said.map ((i, ·))).map (·.2) = said := by simp [Function.comp_def]
  rw [hsaid]
  exact hc.opensOf_move name (Registry.opensOf_make configs catalog) he

/-- An open unit is a stake, and every stake refers to the transport of its device. -/
theorem Run.transportOf_of_mem {w : Worker} {e : Entry}
    (hrun : Run (start (.make configs catalog)) trace s) (hw : w ∈ s.workers)
    (he : e ∈ w.session.entries) (hopen : e.isOpen = true) :
    s.registry.transportOf e.device = some e.transport := by
  rcases stake_mem hw he hopen with ⟨i, hst⟩
  exact hrun.counted.2.wired.same _ hst e.transport rfl

/-- The step that opens a device. -/
theorem Run.openSince_of_closed {name : String} {n : Nat}
    (hrun : Run (start (.make configs catalog)) trace s) (hstep : s.step a = some (notes, s'))
    (hclosed : s.registry.opensOf name = 0) (hopen : 0 < s'.registry.opensOf name) :
    OpenSince (start (.make configs catalog)) name n (notes ++ trace) s' := by
  have hmade := Registry.opensOf_make configs catalog
  rcases hrun.counted_step hstep with ⟨i, said, before, after, rest, rfl, -, he, hcounted⟩
  have hopens := hcounted.opensOf_move name hmade he
  -- only an acquisition that succeeded makes the count greater
  have hmem : Note.acquireEnds name true ∈ said := List.count_pos_iff.1 (by omega)
  rcases he.of_acquireEnds hmem with rfl
  have hone : s'.registry.opensOf name = 1 := by simpa [hclosed] using hopens
  exact ⟨trace, s, a, i, s', [], hrun, hclosed, hstep, hone, .rest hopen, rfl, [], rfl, by simp⟩

/-- While a device is open it has been open since some acquisition, and is still connected. -/
theorem Run.openSince {name : String} (hrun : Run (start (.make configs catalog)) trace s)
    (hopen : 0 < s.registry.opensOf name) : ∃ n, s.registry.transportOf name = some n ∧
      OpenSince (start (.make configs catalog)) name n trace s := by
  have hmade := Registry.opensOf_make configs catalog
  -- induction on the run: the last step opened the device, or it was open before that step
  induction hrun with
  | rest =>
    rw [start, hmade] at hopen
    omega
  | @step trace s a notes s' hrun hstep ih =>
    rcases (hrun.step hstep).counted.2.transportOf_of_open hmade hopen with ⟨n', hn'⟩
    refine ⟨n', hn', ?_⟩
    by_cases hbefore : 0 < s.registry.opensOf name
    · rcases ih hbefore with ⟨n, hn, hsince⟩
      rcases hrun.counted_step hstep with ⟨j, said, before, after, rest, rfl, -, he, hcounted⟩
      rcases hcounted.journal_move he with ⟨new, hnew, hlast, -⟩
      -- the device was open before and after this step, so it is the same transport still
      have hkept := hcounted.transportOf_move hmade he hbefore hopen
      rcases Option.some.inj (hn'.symm.trans (hkept.trans hn)) with rfl
      have hconnected : Event.called n' .disconnect ∉ new := by
        have hcount := hlast name n' hn
        rw [if_neg (by omega)] at hcount
        exact List.count_eq_zero.1 hcount
      exact hsince.step hstep hopen hnew hconnected
    · exact hrun.openSince_of_closed hstep (by omega) hopen

/-- When the last opening of a device is given back, no unit is open on it. -/
theorem openUnits_eq_zero {r₀ r' : Registry τ} {name : String} {i : Nat}
    {before after : Option Stake} {said : List Note} {rest : List Stake}
    (hmade : ∀ name, r₀.opensOf name = 0) (hc : Counted r₀ s.registry (before.toList ++ rest))
    (hbefore : s.stakes ~ before.toList ++ rest) (he : Effect i s.registry before said r' after)
    (hmem : .releaseEnds name ∈ said) (hzero : r'.opensOf name = 0) : s.openUnits name = 0 := by
  have hafter := (hc.move hmade he).opensOf_eq (hmade name)
  rcases he.of_releaseEnds hmem with ⟨claim, t, destroy, result, rfl, rfl, rfl, -⟩
  have hunits := s.openUnits_le_countP_holds name
  rw [hbefore.countP_eq] at hunits
  -- the unit that is given back is marked closed already, so every open one is among the rest
  have hholds : ((some (⟨i, name, claim, .releasing t⟩ : Stake)).toList ++ rest).countP
      (Stake.holds name) = rest.countP (Stake.holds name) := by
    simp [Stake.holds]
  have hnone : rest.countP (Stake.counts name) = 0 := by
    simpa [Stake.counts, Phase.transport?, hzero] using hafter.symm
  have hmono : rest.countP (Stake.holds name) ≤ rest.countP (Stake.counts name) :=
    List.countP_mono_left fun st _ => Stake.counts_of_holds
  omega

/-- When the last opening of a device is given back, its transport is disconnected. -/
theorem disconnected_of_releaseEnds {r₀ r' : Registry τ} {name : String} {i : Nat}
    {before after : Option Stake} {said : List Note} {rest : List Stake}
    (hc : Counted r₀ s.registry (before.toList ++ rest))
    (he : Effect i s.registry before said r' after) (hmem : .releaseEnds name ∈ said)
    (hzero : r'.opensOf name = 0) :
    ∃ n t, s.registry.transportOf name = some n ∧ s.registry.pool.get? n = some t ∧
      r'.pool.get? n = some (Transport.disconnect t).2 := by
  rcases he.of_releaseEnds hmem with ⟨claim, t, destroy, result, rfl, -, -, hrel⟩
  exact hc.state_release hrel hzero

/-- The count of a device and its transport, whatever the sessions do and in whatever order: the
device counts the units that are open on it, besides what is under way; while it counts any, they
all refer to the transport it has, which has not been disconnected since the acquisition that opened
the device; every release takes one from the count, and exactly the one that takes the last
disconnects the transport, while no unit is open on the device. What the journal says of a step are
the calls that made the transports what they are after it. -/
theorem open_counting {name : String} {d : Device}
    (hrun : Run (start (.make configs catalog)) trace s) (hd : s.registry.get? name = some d) :
    d.opens = s.openUnits name + s.unsettled name ∧
    (s.AtRest → d.opens = s.openUnits name) ∧
    (0 < d.opens → ∃ n, d.transport = some n ∧
      (∀ w ∈ s.workers, ∀ e ∈ w.session.entries, e.isOpen = true → e.device = name →
        e.transport = n) ∧
      OpenSince (start (.make configs catalog)) name n trace s) ∧
    ∀ a notes s', s.step a = some (notes, s') →
      s'.registry.opensOf name + (notes.map (·.2)).count (.releaseEnds name) =
        d.opens + (notes.map (·.2)).count (.acquireEnds name true) ∧
      ∃ added, s'.registry.pool.journal = added ++ s.registry.pool.journal ∧
        (∀ n t, s.registry.pool.get? n = some t →
          s'.registry.pool.get? n = some (a.change n (Pool.replay n t added))) ∧
        (∀ n, d.transport = some n → added.count (.called n .disconnect) =
          if .releaseEnds name ∈ notes.map (·.2) ∧ s'.registry.opensOf name = 0 then 1 else 0) ∧
        (∀ n, .called n .disconnect ∈ added →
          ∃ owner, s.registry.transportOf owner = some n) ∧
        (.releaseEnds name ∈ notes.map (·.2) → s'.registry.opensOf name = 0 →
          s.openUnits name = 0 ∧
          ∃ n t, d.transport = some n ∧ s.registry.pool.get? n = some t ∧
            s'.registry.pool.get? n = some (Transport.disconnect t).2) := by
  have hmade := Registry.opensOf_make configs catalog
  have hcounted := hrun.counted.2
  have hopens : s.registry.opensOf name = d.opens := by simp [Registry.opensOf, hd]
  have htransport : s.registry.transportOf name = d.transport := Registry.transportOf_eq hd
  have hcount : d.opens = s.openUnits name + s.unsettled name := by
    rw [← hopens, hcounted.opensOf_eq (hmade name), s.countP_counts]
  refine ⟨hcount, ?_, ?_, ?_⟩
  · intro hrest
    rw [hcount, unsettled_eq_zero name hrest, Nat.add_zero]
  · intro hpos
    rcases hrun.openSince (hopens ▸ hpos) with ⟨n, hn, hsince⟩
    refine ⟨n, htransport ▸ hn, ?_, hsince⟩
    intro w hw e he hopen hdevice
    have hsame := hrun.transportOf_of_mem hw he hopen
    rw [hdevice, hn] at hsame
    exact (Option.some.inj hsame).symm
  · intro a notes s' hstep
    rcases step_records hstep with ⟨added, hjournal, hstates⟩
    rcases hrun.counted_step hstep with ⟨i, said, before, after, rest, rfl, hbefore, he, hc⟩
    rcases hc.journal_move he with ⟨added', hjournal', hlast, howner⟩
    obtain rfl : added = added' := List.append_cancel_right (hjournal.symm.trans hjournal')
    have hsaid : (said.map ((i, ·))).map (·.2) = said := by simp [Function.comp_def]
    rw [hsaid, ← hopens]
    have hmoves := hrun.opensOf_step name hstep
    rw [hsaid] at hmoves
    refine ⟨hmoves, added, hjournal, hstates, ?_, howner, ?_⟩
    · intro n hn
      exact hlast name n (htransport.trans hn)
    · intro hmem hzero
      rw [← htransport]
      exact ⟨openUnits_eq_zero hmade hc hbefore he hmem hzero,
        disconnected_of_releaseEnds hc he hmem hzero⟩

/-- One session has the device open: it is open once, and has been since it was acquired. -/
theorem open_counting_of_two : ∃ trace, Run (start lone) trace occupied ∧ occupied.AtRest ∧
    occupied.openUnits "d" = 1 ∧ OpenSince (start lone) "d" 0 trace occupied := by
  have hrest : occupied.AtRest := by
    intro w hw
    rcases List.mem_cons.1 hw with rfl | hw
    · exact Or.inl rfl
    · rcases List.mem_singleton.1 hw with rfl
      exact Or.inl rfl
  rcases run_occupied with ⟨trace, hrun⟩
  have hd : occupied.registry.get? "d" = some ⟨loneConfig, true, some 0, 1⟩ := rfl
  rcases open_counting hrun hd with ⟨-, hopens, hopen, -⟩
  rcases hopen (by decide) with ⟨n, hn, -, hsince⟩
  rcases Option.some.inj hn with rfl
  exact ⟨trace, hrun, hrest, (hopens hrest).symm, hsince⟩

end FromTheStart

end System

end RemoteDevice.Server
