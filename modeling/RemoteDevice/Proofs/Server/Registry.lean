import RemoteDevice.Server.Session

/-!
# Proofs.Server.Registry — what each operation leaves of a registry

One lemma per operation of pools, devices and registries says everything about its outcome that a
later proof needs: which device it changes and how, what becomes of the transports' numbers, and
which events are noted. These events are what happened to the transports: the state of each is what
the calls among them make of it (`Records`).
-/

namespace RemoteDevice.Server

variable {τ : Type}

/-! ## Pools -/

/-- The state of a transport after a call. -/
def Call.after [Transport τ] (t : τ) : Call → τ
  | .connect => (Transport.connect t).2
  | .disconnect => (Transport.disconnect t).2
  | .read control length => (Transport.read control length t).2
  | .write control data => (Transport.write control data t).2

namespace Pool

/-- How many references there are to a transport. -/
def references (n : Nat) (p : Pool τ) : Nat :=
  (p.members[n]?.map (·.references)).getD 0

/-- From one pool to another no transport was disconnected, and none lost its number. -/
structure Quiet (p p' : Pool τ) : Prop where
  size_le : p.members.length ≤ p'.members.length
  journal : ∃ added, p'.journal = added ++ p.journal ∧ ∀ n, Event.called n .disconnect ∉ added

theorem Quiet.refl (p : Pool τ) : p.Quiet p :=
  ⟨Nat.le_refl _, [], rfl, by simp⟩

/-- What two operations disconnect is what either of them disconnects. -/
theorem Quiet.trans {p q r : Pool τ} (hpq : p.Quiet q) (hqr : q.Quiet r) : p.Quiet r := by
  rcases hpq.journal with ⟨first, hq, hfirst⟩
  rcases hqr.journal with ⟨second, hr, hsecond⟩
  refine ⟨Nat.le_trans hpq.size_le hqr.size_le, second ++ first, ?_, ?_⟩
  · rw [hr, hq, List.append_assoc]
  · intro n hn
    rcases List.mem_append.1 hn with hn | hn
    · exact hsecond n hn
    · exact hfirst n hn

/-- The shape in which every operation that disconnects nothing shows it: at most one event more. -/
theorem Quiet.of_journal {p p' : Pool τ} (hsize : p.members.length ≤ p'.members.length)
    (hjournal : p'.journal = p.journal ∨
      ∃ e, p'.journal = e :: p.journal ∧ ∀ n, e ≠ .called n .disconnect) :
    p.Quiet p' := by
  refine ⟨hsize, ?_⟩
  rcases hjournal with h | ⟨e, h, hne⟩
  · exact ⟨[], h, by simp⟩
  · refine ⟨[e], h, ?_⟩
    intro n hn
    exact hne n (List.mem_singleton.1 hn).symm

/-! ### What happens to a transport -/

/-- A number that was given out is that of a transport. -/
theorem exists_get? {n : Nat} {p : Pool τ} (hn : n < p.members.length) :
    ∃ t, p.get? n = some t :=
  ⟨_, by rw [get?, List.getElem?_eq_getElem hn, Option.map_some]⟩

/-- The numbers of transports are those below the next one. -/
theorem lt_of_get? {n : Nat} {p : Pool τ} {t : τ} (h : p.get? n = some t) :
    n < p.members.length := by
  obtain ⟨m, hm, -⟩ := Option.map_eq_some_iff.1 h
  exact (List.getElem?_eq_some_iff.1 hm).1

/-- Counting a reference does not touch the transport. -/
theorem get?_share (n k : Nat) (p : Pool τ) : (p.share n).get? k = p.get? k := by
  unfold get? share
  rw [List.getElem?_modify]
  cases p.members[k]? with
  | none => rfl
  | some m =>
    simp only [Option.map_some]
    split <;> rfl

/-- A transport that is dropped is not disconnected: it stays in its last state. -/
theorem get?_letGo (n k : Nat) (p : Pool τ) : (p.letGo n).get? k = p.get? k := by
  unfold letGo
  cases hm : p.members[n]? with
  | none => rfl
  | some m =>
    rcases List.getElem?_eq_some_iff.1 hm with ⟨hlt, rfl⟩
    -- only the count of references changes, whether the transport is dropped or not
    have hset : ∀ journal, get? ⟨p.members.set n
        { p.members[n] with references := p.members[n].references - 1 }, journal⟩ k = p.get? k := by
      intro journal
      by_cases hk : n = k
      · subst hk
        simp [get?, hlt]
      · simp [get?, List.getElem?_set_ne hk]
    dsimp only
    split
    · exact hset _
    · exact hset _

/-- Letting a reference go may be noted, as the end of the transport. -/
theorem journal_letGo (n : Nat) (p : Pool τ) :
    (p.letGo n).journal = (if p.references n = 1 then [.dropped n] else []) ++ p.journal := by
  unfold letGo references
  cases hm : p.members[n]? with
  | none => rfl
  | some m =>
    dsimp only [Option.map_some, Option.getD_some]
    split <;> rfl

/-- Numbers are not given a second time, even if the transport is gone. -/
theorem length_letGo (n : Nat) (p : Pool τ) :
    (p.letGo n).members.length = p.members.length := by
  unfold letGo
  cases p.members[n]? with
  | none => rfl
  | some m =>
    dsimp only
    split <;> simp [note]

theorem quiet_share (n : Nat) (p : Pool τ) : p.Quiet (p.share n) :=
  Quiet.of_journal (by simp [share]) (Or.inl rfl)

theorem quiet_letGo (n : Nat) (p : Pool τ) : p.Quiet (p.letGo n) := by
  refine Quiet.of_journal (Nat.le_of_eq (length_letGo n p).symm) ?_
  rw [journal_letGo]
  split
  · exact Or.inr ⟨.dropped n, rfl, by simp⟩
  · exact Or.inl rfl

/-- Every call but the one that disconnects. -/
theorem quiet_use {α : Type} {n : Nat} {call : Call} (run : τ → Outcome α × τ) (p : Pool τ)
    (hcall : call ≠ .disconnect) : p.Quiet (p.use n call run).2 := by
  unfold use
  split
  · exact Quiet.refl p
  · refine Quiet.of_journal (by simp) (Or.inr ⟨.called n call, rfl, ?_⟩)
    intro k hk
    exact hcall (Event.called.inj hk).2

/-- Making a transport gives it the next number, if it succeeds. -/
theorem enlist_cases {kind target : String} {made : Except Transport.Error τ} {p p' : Pool τ}
    {result : Except Transport.Error Nat} (h : p.enlist kind target made = (result, p')) :
    p.Quiet p' ∧ ((∃ e, result = .error e) ∨
      result = .ok p.members.length ∧ p.members.length < p'.members.length) := by
  cases made with
  | error e =>
    rcases Prod.mk.inj h with ⟨rfl, rfl⟩
    exact ⟨Quiet.of_journal (Nat.le_refl _) (Or.inr ⟨_, rfl, by simp⟩), Or.inl ⟨e, rfl⟩⟩
  | ok t =>
    rcases Prod.mk.inj h with ⟨rfl, rfl⟩
    exact ⟨Quiet.of_journal (by simp) (Or.inr ⟨_, rfl, by simp⟩), Or.inr ⟨rfl, by simp⟩⟩

variable [Transport τ]

/-- Disconnecting takes no number away. -/
theorem length_disconnect (n : Nat) (p : Pool τ) :
    (p.disconnect n).2.members.length = p.members.length := by
  unfold disconnect use
  split
  · rfl
  · simp

/-! ### What the journal says -/

/-- What the events make of transport `n`, the newest of them first: nothing but calls of it changes
its state. -/
def replay (n : Nat) (t : τ) : List Event → τ
  | [] => t
  | .called k call :: older => if k = n then call.after (replay n t older) else replay n t older
  | _ :: older => replay n t older

/-- Events of which none is a call. -/
def Silent (events : List Event) : Prop :=
  ∀ k call, .called k call ∉ events

/-- From one pool to another these events were noted, the newest first, and they are what happened to
the transports that there were. -/
structure Records (p : Pool τ) (added : List Event) (p' : Pool τ) : Prop where
  journal : p'.journal = added ++ p.journal
  states : ∀ n t, p.get? n = some t → p'.get? n = some (replay n t added)

/-- Events are replayed in the order in which they happened. -/
theorem replay_append (n : Nat) (t : τ) (newer older : List Event) :
    replay n t (newer ++ older) = replay n (replay n t older) newer := by
  induction newer with
  | nil => rfl
  | cons e newer ih =>
    cases e with
    | called k call => simp only [List.cons_append, replay, ih]
    | _ => exact ih

/-- What is no call leaves every transport as it was. -/
theorem replay_of_silent {events : List Event} (h : Silent events) (n : Nat) (t : τ) :
    replay n t events = t := by
  induction events with
  | nil => rfl
  | cons e events ih =>
    have hrest : Silent events := fun k call hmem => h k call (List.mem_cons_of_mem _ hmem)
    cases e with
    | called k call => exact absurd List.mem_cons_self (h k call)
    | _ => exact ih hrest

namespace Records

variable {p q p' : Pool τ} {older newer added : List Event}

theorem refl (p : Pool τ) : p.Records [] p :=
  ⟨rfl, fun _ _ h => h⟩

/-- Two pieces of the journal, one after the other. -/
theorem trans (h : p.Records older q) (h' : q.Records newer p') : p.Records (newer ++ older) p' := by
  constructor
  · rw [h'.journal, h.journal, List.append_assoc]
  · intro n t ht
    rw [h'.states n _ (h.states n t ht), replay_append]

/-- Events that are no calls leave all transports as they are. -/
theorem of_silent (hjournal : p'.journal = added ++ p.journal) (hsilent : Silent added)
    (hget : ∀ n t, p.get? n = some t → p'.get? n = some t) : p.Records added p' := by
  refine ⟨hjournal, fun n t ht => ?_⟩
  rw [replay_of_silent hsilent, hget n t ht]

end Records

theorem records_share (n : Nat) (p : Pool τ) : p.Records [] (p.share n) :=
  ⟨rfl, fun k t ht => by rw [get?_share, ht, replay]⟩

/-- All that is noted of a reference let go is that the transport is dropped. -/
theorem records_letGo (n : Nat) (p : Pool τ) :
    ∃ added, p.Records added (p.letGo n) ∧ Silent added := by
  refine ⟨_, .of_silent (journal_letGo n p) ?_ fun k t ht => by rw [get?_letGo, ht], ?_⟩ <;>
  · intro k call
    split <;> simp

omit [Transport τ] in
/-- A call of a transport of the pool: the others stay as they are. -/
theorem use_of_get? {α : Type} {n : Nat} {p : Pool τ} {t : τ} (call : Call)
    (run : τ → Outcome α × τ) (ht : p.get? n = some t) :
    ∃ p', p.use n call run = ((run t).1, p') ∧ p'.get? n = some (run t).2 ∧
      p'.journal = .called n call :: p.journal ∧ p'.members.length = p.members.length ∧
      ∀ k, k ≠ n → p'.get? k = p.get? k := by
  have hlt := lt_of_get? ht
  obtain ⟨m, hm, rfl⟩ := Option.map_eq_some_iff.1 ht
  refine ⟨{ p.note (.called n call) with
    members := p.members.set n { m with transport := (run m.transport).2 } }, ?_, ?_, rfl, ?_, ?_⟩
  · simp only [use, hm]
  · simp [get?, hlt]
  · simp
  · intro k hk
    simp [get?, List.getElem?_set_ne hk.symm]

/-- A call is noted, and the transport is in the state after it. -/
theorem records_use {α : Type} {call : Call} {run : τ → Outcome α × τ} {n : Nat} {p : Pool τ}
    (hrun : ∀ t, (run t).2 = call.after t) (hn : n < p.members.length) :
    p.Records [.called n call] (p.use n call run).2 := by
  obtain ⟨t, ht⟩ := exists_get? hn
  obtain ⟨p', huse, hstate, hjournal, -, hothers⟩ := use_of_get? call run ht
  rw [huse]
  refine ⟨hjournal, fun k t' ht' => ?_⟩
  by_cases hk : n = k
  · subst hk
    obtain rfl := Option.some.inj (ht.symm.trans ht')
    simp [hstate, hrun, replay]
  · simp [hothers k (Ne.symm hk), ht', replay, hk]

omit [Transport τ] in
/-- A number that no transport has brings no call about. -/
theorem use_of_le {α : Type} {call : Call} {run : τ → Outcome α × τ} {n : Nat} {p : Pool τ}
    (hn : p.members.length ≤ n) : p.use n call run = (.error .crash, p) := by
  unfold use
  rw [List.getElem?_eq_none hn]

/-- A call notes itself, or nothing if there is no such transport. -/
theorem exists_records_use {α : Type} {call : Call} {run : τ → Outcome α × τ} (n : Nat) (p : Pool τ)
    (hrun : ∀ t, (run t).2 = call.after t) : ∃ added, p.Records added (p.use n call run).2 := by
  by_cases hn : n < p.members.length
  · exact ⟨_, records_use hrun hn⟩
  · rw [use_of_le (Nat.le_of_not_lt hn)]
    exact ⟨[], .refl p⟩

/-- A transport that is made changes none of those before it. -/
theorem records_enlist {kind target : String} {made : Except Transport.Error τ} {p p' : Pool τ}
    {result : Except Transport.Error Nat} (h : p.enlist kind target made = (result, p')) :
    ∃ added, p.Records added p' := by
  cases made with
  | error e =>
    rcases Prod.mk.inj h with ⟨rfl, rfl⟩
    exact ⟨[.made kind target none], .of_silent rfl (by simp [Silent]) fun _ _ ht => ht⟩
  | ok t =>
    rcases Prod.mk.inj h with ⟨rfl, rfl⟩
    refine ⟨[.made kind target (some p.members.length)], .of_silent rfl (by simp [Silent]) ?_⟩
    intro n t' ht
    obtain ⟨m, hm, rfl⟩ := Option.map_eq_some_iff.1 ht
    have hlt := (List.getElem?_eq_some_iff.1 hm).1
    simp [get?, List.getElem?_append_left hlt, hm]

end Pool

/-! ## Devices -/

/-- The call did not return. -/
def crashed {α : Type} : Outcome α → Bool
  | .error .crash => true
  | _ => false

/-- Every other failure is one that the call returned with. -/
theorem crashed_eq_false {α : Type} {result : Outcome α} (h : result ≠ .error .crash) :
    crashed result = false := by
  rcases result with ⟨_ | _⟩ | _
  · rfl
  · exact absurd rfl h
  · rfl

namespace Device

variable [Transport τ]

/-- What acquiring leaves: only the count and the transport of the device change, the count exactly
if it succeeded, and the transport only if there was none. -/
structure Acquired (d : Device) (p : Pool τ) (result : Outcome Nat) (d' : Device) (p' : Pool τ) :
    Prop where
  config : d'.config = d.config
  claimed : d'.claimed = d.claimed
  opens : d'.opens = d.opens + if result.isOk then 1 else 0
  transport : d'.transport = d.transport ∨ d.transport = none ∧
    d'.transport = some p.members.length ∧ p.members.length < p'.members.length
  result : ∀ n, result = .ok n → d'.transport = some n
  quiet : p.Quiet p'
  records : ∃ added, p.Records added p'

/-- A device that has its transport, new or not, before it is connected. -/
theorem provide_cases {catalog : Catalog τ} {d d' : Device} {p p' : Pool τ}
    {result : Except Transport.Error Nat} (h : d.provide catalog p = (result, d', p')) :
    d'.config = d.config ∧ d'.claimed = d.claimed ∧ d'.opens = d.opens ∧ p.Quiet p' ∧
      (∃ added, p.Records added p') ∧
      (∀ n, result = .ok n → d'.transport = some n) ∧
      (d'.transport = d.transport ∨ d.transport = none ∧
        d'.transport = some p.members.length ∧ p.members.length < p'.members.length) := by
  unfold provide at h
  split at h
  · next n hn =>
    obtain ⟨rfl, rfl, rfl⟩ := by simpa using h
    exact ⟨rfl, rfl, rfl, Pool.Quiet.refl _, ⟨[], .refl _⟩, by simp [hn], Or.inl rfl⟩
  · next hn =>
    dsimp only at h
    split at h
    · next n q he =>
      obtain ⟨rfl, rfl, rfl⟩ := by simpa using h
      rcases Pool.enlist_cases he with ⟨hq, ⟨e, he⟩ | ⟨hnum, hlt⟩⟩
      · simp at he
      · cases hnum
        exact ⟨rfl, rfl, rfl, hq, Pool.records_enlist he, by simp, Or.inr ⟨hn, rfl, hlt⟩⟩
    · next e q he =>
      obtain ⟨rfl, rfl, rfl⟩ := by simpa using h
      exact ⟨rfl, rfl, rfl, (Pool.enlist_cases he).1, Pool.records_enlist he, by simp, Or.inl rfl⟩

omit [Transport τ] in
/-- A device drops whatever transport it has. -/
theorem transport_discard (d : Device) (p : Pool τ) :
    (d.discard p).1 = { d with transport := none } := by
  unfold discard
  split
  · next h =>
    cases d
    simp_all
  · rfl

/-- Dropping the transport of a device calls nobody. -/
theorem records_discard (d : Device) (p : Pool τ) :
    p.members.length ≤ (d.discard p).2.members.length ∧
      ∃ added, p.Records added (d.discard p).2 ∧ Pool.Silent added := by
  unfold discard
  split
  · exact ⟨Nat.le_refl _, [], .refl p, by simp [Pool.Silent]⟩
  · next n _ => exact ⟨Nat.le_of_eq (Pool.length_letGo n p).symm, Pool.records_letGo n p⟩

/-- What releasing leaves: one opening less; as long as others remain nothing else happens, and the
last one disconnects the transport once. -/
structure Released (d : Device) (p : Pool τ) (d' : Device) (p' : Pool τ) : Prop where
  config : d'.config = d.config
  claimed : d'.claimed = d.claimed
  opens : d'.opens = d.opens - 1
  size_le : p.members.length ≤ p'.members.length
  kept : 1 < d.opens → d'.transport = d.transport ∧ p' = p
  transport : d'.transport = d.transport ∨ d'.transport = none
  records : ∃ added, p.Records added p'
  last : d.opens ≤ 1 → ∀ n, d.transport = some n → n < p.members.length →
    ∃ later, p.Records (later ++ [.called n .disconnect]) p' ∧ Pool.Silent later

/-- The cases of an acquisition: no transport could be made, it did not connect, or it did. -/
theorem acquired_of_acquire {catalog : Catalog τ} {d d' : Device} {p p' : Pool τ}
    {result : Outcome Nat} (h : d.acquire catalog p = (result, d', p')) :
    d.Acquired p result d' p' := by
  unfold acquire at h
  split at h
  · -- no transport could be made
    next e d₁ p₁ hp =>
    obtain ⟨rfl, rfl, rfl⟩ := by simpa using h
    rcases provide_cases hp with ⟨hconfig, hclaimed, hopens, hquiet, hrecords, -, htransport⟩
    exact ⟨hconfig, hclaimed, by simp [hopens, Except.isOk, Except.toBool], htransport, by simp,
      hquiet, hrecords⟩
  · next n d₁ p₁ hp =>
    rcases provide_cases hp with
      ⟨hconfig, hclaimed, hopens, hquiet, ⟨added, hrecords⟩, hresult, htransport⟩
    have hc : p₁.Quiet (p₁.connect n).2 := Pool.quiet_use _ p₁ (by simp)
    obtain ⟨called, hcalled⟩ : ∃ added, p₁.Records added (p₁.connect n).2 :=
      Pool.exists_records_use n p₁ fun _ => rfl
    split at h
    · -- the transport does not connect: it stays with the device, which counts nothing
      next f p₂ hf =>
      obtain ⟨rfl, rfl, rfl⟩ := by simpa using h
      rw [hf] at hc hcalled
      refine ⟨hconfig, hclaimed, by simp [hopens, Except.isOk, Except.toBool], ?_, by simp,
        hquiet.trans hc, _, hrecords.trans hcalled⟩
      exact htransport.imp_right fun ⟨h₁, h₂, h₃⟩ => ⟨h₁, h₂, Nat.lt_of_lt_of_le h₃ hc.size_le⟩
    · -- it connects: the opening is counted, and refers to the transport
      next u p₂ hf =>
      obtain ⟨rfl, rfl, rfl⟩ := by simpa using h
      rw [hf] at hc hcalled
      have hs := hc.trans (Pool.quiet_share n p₂)
      refine ⟨hconfig, hclaimed, by simp [hopens, Except.isOk, Except.toBool], ?_, ?_,
        hquiet.trans hs, _, (hrecords.trans hcalled).trans (Pool.records_share n p₂)⟩
      · exact htransport.imp_right fun ⟨h₁, h₂, h₃⟩ =>
          ⟨h₁, h₂, Nat.lt_of_lt_of_le h₃ hs.size_le⟩
      · intro k hk
        rcases Except.ok.inj hk with rfl
        exact hresult n rfl

/-- The pool once a device has been disconnected. -/
theorem disconnect_cases {d : Device} {p p' : Pool τ} {result : Outcome Unit}
    (h : d.disconnect p = (result, p')) :
    p'.members.length = p.members.length ∧ (∃ added, p.Records added p') ∧
      ∀ n, d.transport = some n → n < p.members.length →
        p.Records [.called n .disconnect] p' := by
  unfold disconnect at h
  split at h
  · next hn =>
    rcases Prod.mk.inj h with ⟨rfl, rfl⟩
    exact ⟨rfl, ⟨[], .refl p⟩, by simp [hn]⟩
  · next n hn =>
    obtain rfl : (p.disconnect n).2 = p' := by rw [h]
    refine ⟨Pool.length_disconnect n p, Pool.exists_records_use n p fun _ => rfl, ?_⟩
    intro k hk hlt
    rcases Option.some.inj (hn.symm.trans hk) with rfl
    exact Pool.records_use (fun _ => rfl) hlt

/-- The last opening given back: the device is disconnected, and nothing after that calls anybody. -/
theorem Released.of_disconnect {d d' : Device} {p q p' : Pool τ} {result : Outcome Unit}
    (hopens : d.opens ≤ 1)
    (hx : disconnect { d with opens := d.opens - 1 } p = (result, q))
    (hd : d' = { d with opens := d.opens - 1, transport := d'.transport })
    (htransport : d'.transport = d.transport ∨ d'.transport = none)
    (hsize : q.members.length ≤ p'.members.length)
    (hlater : ∃ later, q.Records later p' ∧ Pool.Silent later) : d.Released p d' p' := by
  rcases disconnect_cases hx with ⟨hlength, ⟨added, hadded⟩, hcalled⟩
  rcases hlater with ⟨later, hlater, hsilent⟩
  refine ⟨by rw [hd], by rw [hd], by rw [hd], hlength ▸ hsize, ?_, htransport,
    ⟨_, hadded.trans hlater⟩, ?_⟩
  · intro hlt
    omega
  · intro _ n hn hlt
    exact ⟨later, (hcalled n hn hlt).trans hlater, hsilent⟩

/-- The cases of a release: others have the device open, or this was the last opening, whose
transport crashes, is dropped, or stays. -/
theorem released_of_release {destroy : Bool} {d d' : Device} {p p' : Pool τ}
    {result : Outcome Unit} (h : d.release destroy p = (result, d', p')) :
    d.Released p d' p' := by
  have hnothing : ∀ q : Pool τ, ∃ later, q.Records later q ∧ Pool.Silent later :=
    fun q => ⟨[], .refl q, by simp [Pool.Silent]⟩
  unfold release at h
  dsimp only at h
  split at h
  · -- others have it open
    next hopens =>
    obtain ⟨rfl, rfl, rfl⟩ := by simpa using h
    refine ⟨rfl, rfl, rfl, Nat.le_refl _, fun _ => ⟨rfl, rfl⟩, Or.inl rfl, ⟨[], .refl p⟩, ?_⟩
    intro hle
    omega
  · next hopens =>
    have hle : d.opens ≤ 1 := by omega
    split at h
    · next q hx =>
      obtain ⟨rfl, rfl, rfl⟩ := by simpa using h
      exact .of_disconnect hle hx rfl (Or.inl rfl) (Nat.le_refl _) (hnothing q)
    · -- a session at its end takes the transport away from the device, in whatever state
      next x q _ hx =>
      rcases Prod.mk.inj h with ⟨rfl, hrest⟩
      rcases Prod.mk.inj hrest with ⟨rfl, rfl⟩
      have hd := transport_discard { d with opens := d.opens - 1 } q
      rcases records_discard { d with opens := d.opens - 1 } q with ⟨hsize, hlater⟩
      exact .of_disconnect hle hx (by rw [hd]) (Or.inr (by rw [hd])) hsize hlater
    · next x q _ hx =>
      obtain ⟨rfl, rfl, rfl⟩ := by simpa using h
      exact .of_disconnect hle hx rfl (Or.inl rfl) (Nat.le_refl _) (hnothing q)

/-- What giving back an opening makes of a device: it counts one less, and it drops its transport if
that was the last one and the transport is to be dropped, unless disconnecting crashed. -/
theorem eq_of_release {destroy : Bool} {d d' : Device} {p p' : Pool τ} {result : Outcome Unit}
    (h : d.release destroy p = (result, d', p')) : d' = { d with
      opens := d.opens - 1
      transport := if d.opens ≤ 1 ∧ destroy = true ∧ crashed result = false then none
        else d.transport } := by
  unfold release at h
  dsimp only at h
  split at h
  · next hmore =>
    obtain ⟨-, rfl, -⟩ := by simpa using h
    rw [if_neg (by omega)]
  · next hlast =>
    have hle : d.opens ≤ 1 := by omega
    split at h
    · obtain ⟨rfl, rfl, -⟩ := by simpa using h
      rw [if_neg (by simp [crashed])]
    · next q hresult _ =>
      obtain ⟨rfl, hd⟩ := Prod.mk.inj h
      obtain ⟨rfl, -⟩ := Prod.mk.inj hd
      rw [transport_discard _ q, if_pos ⟨hle, rfl, crashed_eq_false hresult⟩]
    · obtain ⟨-, rfl, -⟩ := by simpa using h
      rw [if_neg (by simp)]

end Device

/-! ## Registries -/

namespace Registry

/-- Devices are found under their own names. -/
theorem name_of_get? {r : Registry τ} {name : String} {d : Device} (h : r.get? name = some d) :
    d.name = name := by
  simpa using List.find?_some h

/-- Devices begin unclaimed and not open, and have no transport yet. -/
theorem eq_of_mem_make {configs : List DeviceConfig} {catalog : Catalog τ} {d : Device}
    (h : d ∈ (make configs catalog).devices) : d = { config := d.config } := by
  -- putting devices into a list of new ones leaves new ones only, whatever they replace
  have fresh : ∀ ds : List Device, (∀ e ∈ ds, e = { config := e.config }) →
      ∀ e ∈ configs.foldl (fun ds config => put { config } ds) ds, e = { config := e.config } := by
    clear h
    induction configs with
    | nil => exact fun ds hds => hds
    | cons c configs ih =>
      intro ds hds
      refine ih _ ?_
      intro e he
      rcases List.mem_append.1 he with he | he
      · -- a device that stayed because its name is another one
        exact hds e (List.mem_filter.1 he).1
      · rcases List.mem_singleton.1 he with rfl
        rfl
  exact fresh [] (by simp) d h

/-- What is found at the start is new. -/
theorem get?_make {configs : List DeviceConfig} {catalog : Catalog τ} {name : String} {d : Device}
    (h : (make configs catalog).get? name = some d) : d = { config := d.config } :=
  eq_of_mem_make (List.mem_of_find?_eq_some h)

/-- Updating a device is seen under its own name, and only if there is one of that name. -/
theorem get?_update (r : Registry τ) (d : Device) (x : String) :
    (r.update d).get? x = (r.get? x).map fun old => if x = d.name then d else old := by
  -- no update changes a name, so it is the same device that is found
  have hname : ((fun e : Device => decide (e.name = x)) ∘ fun old =>
      if old.name = d.name then d else old) = fun e => decide (e.name = x) := by
    funext old
    by_cases h : old.name = d.name <;> simp [h]
  unfold update get?
  rw [List.find?_map, hname]
  cases hf : r.devices.find? fun e => decide (e.name = x) with
  | none => rfl
  | some old =>
    have hold : old.name = x := by simpa using List.find?_some hf
    simp [hold]

/-- A device in a new state under its own name. -/
theorem get?_update_of_get? {r : Registry τ} {name : String} {d : Device} (d' : Device)
    (h : r.get? name = some d) (hconfig : d'.config = d.config) (x : String) :
    (r.update d').get? x = if x = name then some d' else r.get? x := by
  have hname : d'.name = name := by
    rw [← name_of_get? h, Device.name, hconfig, Device.name]
  rw [get?_update, hname]
  by_cases hx : x = name
  · simp [hx, h]
  · simp [hx]

/-- Claiming succeeds unless the device is exclusive and claimed, and marks the device only if it is
exclusive. -/
theorem claim?_eq_some {r r' : Registry τ} {name : String} {needed : Bool}
    (h : r.claim? name = some (needed, r')) :
    ∃ d, r.get? name = some d ∧ needed = !d.config.shared ∧ (needed = true → d.claimed = false) ∧
      r'.pool = r.pool ∧ ∀ x, r'.get? x =
        if x = name then some { d with claimed := d.claimed || needed } else r.get? x := by
  rcases Option.map_eq_some_iff.1 h with ⟨⟨b, d'⟩, hd', hr⟩
  rcases Option.bind_eq_some_iff.1 hd' with ⟨d, hd, hclaim⟩
  rcases Prod.mk.inj hr with ⟨rfl, rfl⟩
  refine ⟨d, hd, ?_⟩
  unfold Device.claim? at hclaim
  split at hclaim
  · next hs =>
    rcases Prod.mk.inj (Option.some.inj hclaim) with ⟨rfl, rfl⟩
    refine ⟨by simp [hs], by simp, rfl, ?_⟩
    intro x
    simpa using get?_update_of_get? d hd rfl x
  · next hs =>
    split at hclaim
    · simp at hclaim
    · next hc =>
      rcases Prod.mk.inj (Option.some.inj hclaim) with ⟨rfl, rfl⟩
      refine ⟨by simp [hs], by simpa using hc, rfl, ?_⟩
      intro x
      simpa using get?_update_of_get? { d with claimed := true } hd rfl x

/-- Claims do not touch what transports are made from. -/
theorem catalog_of_claim {r r' : Registry τ} {name : String} {needed : Bool}
    (h : r.claim? name = some (needed, r')) : r'.catalog = r.catalog := by
  rcases Option.map_eq_some_iff.1 h with ⟨⟨b, d⟩, -, heq⟩
  obtain ⟨-, rfl⟩ := Prod.mk.inj heq
  rfl

/-- A device is busy exactly if it is exclusive and claimed. -/
theorem claim?_eq_none_iff {r : Registry τ} {name : String} {d : Device}
    (h : r.get? name = some d) :
    r.claim? name = none ↔ d.config.shared = false ∧ d.claimed = true := by
  simp only [claim?, h, Option.bind_some, Option.map_eq_none_iff, Device.claim?]
  cases d.config.shared <;> cases d.claimed <;> simp

/-- Giving a claim back frees the one device, if a claim was held. -/
theorem get?_unclaim (r : Registry τ) (name : String) (held : Bool) (x : String) :
    (r.unclaim name held).get? x =
      (r.get? x).map fun d => if x = name ∧ held = true then d.unclaim else d := by
  unfold unclaim
  cases held with
  | false => simp
  | true =>
    cases hd : r.get? name with
    | none =>
      by_cases hx : x = name
      · simp [hx, hd]
      · simp [hx]
    | some d =>
      simp only [if_true]
      rw [get?_update_of_get? d.unclaim hd rfl]
      by_cases hx : x = name
      · simp [hx, hd]
      · simp [hx]

/-- Giving a claim back concerns no transport. -/
theorem pool_unclaim (r : Registry τ) (name : String) (held : Bool) :
    (r.unclaim name held).pool = r.pool := by
  unfold unclaim
  split <;> rfl

variable [Transport τ]

/-- Acquiring changes the one device as its own operation says. -/
theorem acquire_cases {r r' : Registry τ} {name : String} {result : Outcome Nat}
    (h : r.acquire name = (result, r')) :
    (r.get? name = none ∧ result = .error .crash ∧ r' = r) ∨
      ∃ d d', r.get? name = some d ∧ d.Acquired r.pool result d' r'.pool ∧
        ∀ x, r'.get? x = if x = name then some d' else r.get? x := by
  unfold acquire at h
  split at h
  · next hn =>
    rcases Prod.mk.inj h with ⟨rfl, rfl⟩
    exact Or.inl ⟨hn, rfl, rfl⟩
  · next d hd =>
    rcases Prod.mk.inj h with ⟨rfl, rfl⟩
    have hacq := Device.acquired_of_acquire (rfl : d.acquire r.catalog r.pool = _)
    refine Or.inr ⟨d, _, hd, hacq, ?_⟩
    intro x
    exact get?_update_of_get? (r := { r with pool := _ }) _ hd hacq.config x

/-- Releasing changes the one device as its own operation says. -/
theorem release_cases {r r' : Registry τ} {name : String} {destroy : Bool}
    {result : Outcome Unit} (h : r.release name destroy = (result, r')) :
    (r.get? name = none ∧ r' = r) ∨
      ∃ d d', r.get? name = some d ∧ d.Released r.pool d' r'.pool ∧
        ∀ x, r'.get? x = if x = name then some d' else r.get? x := by
  unfold release at h
  split at h
  · next hn =>
    rcases Prod.mk.inj h with ⟨rfl, rfl⟩
    exact Or.inl ⟨hn, rfl⟩
  · next d hd =>
    rcases Prod.mk.inj h with ⟨rfl, rfl⟩
    have hrel := Device.released_of_release (rfl : d.release destroy r.pool = _)
    refine Or.inr ⟨d, _, hd, hrel, ?_⟩
    intro x
    exact get?_update_of_get? (r := { r with pool := _ }) _ hd hrel.config x

end Registry

end RemoteDevice.Server
