import RemoteDevice.Proofs.Server.Sparing
import RemoteDevice.Proofs.Server.Arbitration

/-!
# Proofs.Server.Failures — requests that fail

A request can be refused, or what it asks a transport for can fail. A refusal leaves the whole
server as it was and calls no transport. Where a transport fails, nothing changes but the state of
that transport, and the device of a failed opening keeps the transport that was made for it
(`failed_requests`).
-/

namespace RemoteDevice.Server

open Wire

variable {τ : Type}

/-! ## One transport of a pool -/

namespace Pool

variable {p q p' : Pool τ} {changed : Option Nat} {n : Nat}

/-- From one pool to another, nothing happened to any transport but this one, if there is one. -/
def OnlyAt (changed : Option Nat) (p p' : Pool τ) : Prop :=
  ∀ k, changed ≠ some k → p'.members[k]? = p.members[k]? ∧ p'.calls k = p.calls k

theorem OnlyAt.refl (changed : Option Nat) (p : Pool τ) : p.OnlyAt changed p :=
  fun _ _ => ⟨rfl, rfl⟩

theorem OnlyAt.trans (h : p.OnlyAt changed q) (h' : q.OnlyAt changed p') :
    p.OnlyAt changed p' := by
  intro k hk
  rw [(h' k hk).1, (h' k hk).2]
  exact h k hk

/-- A call changes the state of one transport, to which there are as many references as before. -/
theorem onlyAt_use {α : Type} {m : Pooled τ} (call : Call) (run : τ → Outcome α × τ)
    (hm : p.members[n]? = some m) : ∃ p', p.use n call run = ((run m.transport).1, p') ∧
      p'.members[n]? = some { m with transport := (run m.transport).2 } ∧
      p'.calls n = call :: p.calls n ∧ p.OnlyAt (some n) p' := by
  have hlt : n < p.members.length := (List.getElem?_eq_some_iff.1 hm).1
  have huse : p.use n call run = ((run m.transport).1, { p.note (.called n call) with
      members := p.members.set n { m with transport := (run m.transport).2 } }) := by
    simp only [use, hm]
  refine ⟨_, huse, ?_, ?_, ?_⟩
  · simp [hlt]
  · simp [calls, note]
  · intro k hk
    have hne : n ≠ k := fun heq => hk (congrArg some heq)
    constructor
    · simp [List.getElem?_set_ne hne]
    · simp [calls, note, hne]

/-- A transport that is made is the next one. -/
theorem onlyAt_enlist (kind target : String) (t : τ) (p : Pool τ) : ∃ p',
    p.enlist kind target (.ok t) = (.ok p.members.length, p') ∧
      p'.members[p.members.length]? = some ⟨t, 1⟩ ∧
      p'.calls p.members.length = p.calls p.members.length ∧
      p.OnlyAt (some p.members.length) p' := by
  refine ⟨_, rfl, by simp, by simp [calls, note], ?_⟩
  intro k hk
  have hne : p.members.length ≠ k := fun heq => hk (congrArg some heq)
  refine ⟨?_, by simp [calls, note]⟩
  by_cases hlt : k < p.members.length
  · exact List.getElem?_append_left hlt
  · -- behind the new one there is nothing, before and after
    have hpast : p.members.length + 1 ≤ k := by omega
    rw [List.getElem?_eq_none (Nat.le_of_not_lt hlt), List.getElem?_eq_none (by simpa using hpast)]

end Pool

/-! ## Openings that fail -/

namespace Registry

/-- The transport an opening of the device of this name is about: the one the device has, or the one
that is made for it. -/
def Provides (x : String) (n : Nat) (m : Pooled τ) (r : Registry τ) : Prop :=
  (r.transportOf x = some n ∧ r.pool.members[n]? = some m) ∨
    r.transportOf x = none ∧ n = r.pool.members.length ∧ m.references = 1 ∧
      ∃ d, r.get? x = some d ∧
        r.catalog.create d.config.kind d.config.target d.config.options = .ok m.transport

variable [Transport τ]

/-- From one registry to another, nothing happened but that an opening of the device of this name
failed: either no transport could be made for it, or its transport was connected once, failed, and
is the device's from then on. -/
structure FailedOpen (x : String) (r r' : Registry τ) : Prop where
  catalog : r'.catalog = r.catalog
  others : ∀ y, y ≠ x → r'.get? y = r.get? y
  device : ∃ d transport, r.get? x = some d ∧ r'.get? x = some { d with transport }
  pool : r.pool.OnlyAt (r'.transportOf x) r'.pool
  unmade : r'.transportOf x = none → r.transportOf x = none
  connected : ∀ n, r'.transportOf x = some n → ∃ m, r.Provides x n m ∧
    (Transport.connect m.transport).1.isOk = false ∧
    r'.pool.members[n]? = some { m with transport := (Transport.connect m.transport).2 } ∧
    r'.pool.calls n = .connect :: r.pool.calls n

variable {x : String} {r r₁ r₂ r' : Registry τ} {d : Device}

/-- An acquisition that fails although there is a transport: this did not connect. -/
theorem failed_of_acquire {d' : Device} {n : Nat} {p : Pool τ} {f : Fault}
    (hd : r.get? x = some d) (hprovide : d.provide r.catalog r.pool = (.ok n, d', p))
    (h : r.acquire x = (.error f, r')) :
    ∃ p', p.connect n = (.error f, p') ∧ r' = { r with pool := p' }.update d' := by
  cases hp : p.connect n with | mk result p' =>
  simp only [acquire, hd, Device.acquire, hprovide, hp] at h
  cases result with
  | ok u => simp at h
  | error g =>
    obtain ⟨rfl, rfl⟩ : g = f ∧ { r with pool := p' }.update d' = r' := by simpa using h
    exact ⟨p', rfl, rfl⟩

/-- What connecting a transport that fails leaves, when it is the device's then. -/
theorem FailedOpen.of_connect {n : Nat} {m : Pooled τ} {p p' : Pool τ} {f : Fault}
    (hd : r.get? x = some d) (hprovides : r.Provides x n m)
    (hm : p.members[n]? = some m) (hcalls : p.calls n = r.pool.calls n)
    (honly : r.pool.OnlyAt (some n) p) (hp : p.connect n = (.error f, p')) :
    r.FailedOpen x ({ r with pool := p' }.update { d with transport := some n }) := by
  obtain ⟨q, hq, hmember, hnoted, hrest⟩ := Pool.onlyAt_use .connect Transport.connect hm
  obtain ⟨hresult, rfl⟩ := Prod.mk.inj (hq.symm.trans hp)
  have hget := get?_update_of_get? (r := { r with pool := q }) { d with transport := some n } hd rfl
  have hself := (hget x).trans (if_pos rfl)
  constructor
  · rfl
  · intro y hy
    rw [hget, if_neg hy]
    rfl
  · exact ⟨d, some n, hd, hself⟩
  · rw [transportOf_eq hself]
    exact honly.trans hrest
  · intro hnone
    rw [transportOf_eq hself] at hnone
    simp at hnone
  · intro k hk
    obtain rfl : n = k := Option.some.inj ((transportOf_eq hself).symm.trans hk)
    exact ⟨m, hprovides, by rw [hresult]; rfl, hmember, hnoted.trans (congrArg _ hcalls)⟩

/-- What is left when no transport could be made: only the attempt is noted. -/
theorem FailedOpen.of_unmade {kind target : String} (hd : r.get? x = some d)
    (hn : d.transport = none) :
    r.FailedOpen x ({ r with pool := r.pool.note (.made kind target none) }.update d) := by
  have hkept : ∀ y, ({ r with pool := r.pool.note (.made kind target none) }.update d).get? y =
      r.get? y := by
    intro y
    rw [get?_update_of_get? (r := { r with pool := r.pool.note (.made kind target none) }) d hd rfl]
    split
    · next hy => rw [hy, hd]
    · rfl
  have hnone : r.transportOf x = none := (transportOf_eq hd).trans hn
  constructor
  · rfl
  · exact fun y _ => hkept y
  · exact ⟨d, d.transport, hd, (hkept x).trans hd⟩
  · intro k _
    exact ⟨rfl, rfl⟩
  · exact fun _ => hnone
  · intro k hk
    rw [transportOf_congr (hkept x), hnone] at hk
    simp at hk

/-- An acquisition that fails. -/
theorem failedOpen_of_acquire {f : Fault} (hw : Wired r []) (hd : r.get? x = some d)
    (h : r.acquire x = (.error f, r')) : r.FailedOpen x r' := by
  have hx : r.transportOf x = d.transport := transportOf_eq hd
  -- its transport is there already, can be made, or cannot
  cases hn : d.transport with
  | some n =>
    have hlt : n < r.pool.members.length := hw.bound x n (hx.trans hn)
    have hm : r.pool.members[n]? = some r.pool.members[n] := List.getElem?_eq_getElem hlt
    have hsame : ({ d with transport := some n } : Device) = d := by rw [← hn]
    have hprovide : d.provide r.catalog r.pool = (.ok n, d, r.pool) := by
      simp [Device.provide, hn]
    rcases failed_of_acquire hd hprovide h with ⟨p', hp, rfl⟩
    have hfailed := FailedOpen.of_connect hd (.inl ⟨hx.trans hn, hm⟩) hm rfl (.refl _ _) hp
    rwa [hsame] at hfailed
  | none =>
    cases hmade : r.catalog.create d.config.kind d.config.target d.config.options with
    | error e =>
      obtain rfl : { r with
          pool := r.pool.note (.made d.config.kind d.config.target none) }.update d = r' := by
        have hacq : r.acquire x = (.error (.error e), { r with
            pool := r.pool.note (.made d.config.kind d.config.target none) }.update d) := by
          simp [acquire, hd, Device.acquire, Device.provide, hn, hmade, Pool.enlist]
        exact (Prod.mk.inj (hacq.symm.trans h)).2
      exact .of_unmade hd hn
    | ok t =>
      obtain ⟨p, hp, hm, hcalls, honly⟩ :=
        Pool.onlyAt_enlist d.config.kind d.config.target t r.pool
      have hprovide : d.provide r.catalog r.pool =
          (.ok r.pool.members.length, { d with transport := some r.pool.members.length }, p) := by
        simp [Device.provide, hn, hmade, hp]
      rcases failed_of_acquire hd hprovide h with ⟨p', hp', rfl⟩
      exact .of_connect hd (.inr ⟨hx.trans hn, rfl, rfl, d, hd, hmade⟩) hm hcalls honly hp'

omit [Transport τ] in
theorem catalog_unclaim (r : Registry τ) (name : String) (held : Bool) :
    (r.unclaim name held).catalog = r.catalog := by
  unfold unclaim
  split <;> rfl

omit [Transport τ] in
/-- Claiming the device changes nothing about its transport. -/
theorem Provides.of_claim {n : Nat} {m : Pooled τ} {needed : Bool}
    (hc : r.claim? x = some (needed, r₁)) (h : r₁.Provides x n m) : r.Provides x n m := by
  have htransport := transportOf_claim hc x
  have hcatalog := catalog_of_claim hc
  rcases claim?_eq_some hc with ⟨d, hd, -, -, hpool, hget⟩
  rcases h with ⟨hx, hm⟩ | ⟨hx, hn, hone, d', hd', hmade⟩
  · exact .inl ⟨htransport ▸ hx, hpool ▸ hm⟩
  · rw [hget, if_pos rfl] at hd'
    obtain rfl := Option.some.inj hd'
    exact .inr ⟨htransport ▸ hx, hpool ▸ hn, hone, d, hd, hcatalog ▸ hmade⟩

/-- An acquisition that fails after the device was claimed. -/
theorem failedOpen_of_claim {needed : Bool} {f : Fault} (hw : Wired r [])
    (hc : r.claim? x = some (needed, r₁)) (h : r₁.acquire x = (.error f, r₂)) :
    r₁.FailedOpen x r₂ := by
  rcases claim?_eq_some hc with ⟨d, -, -, -, hpool, hget⟩
  have hw₁ : Wired r₁ [] :=
    hw.keep (Nat.le_of_eq (congrArg (·.members.length) hpool.symm)) (transportOf_claim hc)
  exact failedOpen_of_acquire hw₁ ((hget x).trans (if_pos rfl)) h

/-- An opening that failed gives back the claim that it took. -/
theorem FailedOpen.claimed {needed : Bool} (hc : r.claim? x = some (needed, r₁))
    (h : r₁.FailedOpen x r₂) : r.FailedOpen x (r₂.unclaim x needed) := by
  have hcatalog := catalog_of_claim hc
  have hpool₂ := pool_unclaim r₂ x needed
  have hkept : (r₂.unclaim x needed).transportOf x = r₂.transportOf x :=
    transportOf_unclaim r₂ x needed x
  have hbefore := transportOf_claim hc x
  rcases claim?_eq_some hc with ⟨d, hd, -, hfree, hpool, hget⟩
  constructor
  · rw [catalog_unclaim, h.catalog, hcatalog]
  · intro y hy
    have hsame : r₂.get? y = r.get? y := by rw [h.others y hy, hget, if_neg hy]
    rw [get?_unclaim, hsame]
    cases r.get? y with
    | none => rfl
    | some e => simp [hy]
  · rcases h.device with ⟨d₁, transport, hd₁, hd₂⟩
    rw [hget, if_pos rfl] at hd₁
    obtain rfl := Option.some.inj hd₁
    refine ⟨d, transport, hd, ?_⟩
    rw [get?_unclaim, hd₂]
    cases needed with
    | false => simp
    | true => simp [Device.unclaim, hfree rfl]
  · rw [hkept, hpool₂, ← hpool]
    exact h.pool
  · rw [hkept, ← hbefore]
    exact h.unmade
  · rw [hkept, hpool₂, ← hpool]
    intro n hn
    rcases h.connected n hn with ⟨m, hprovides, hfailed, hmember, hcalls⟩
    exact ⟨m, hprovides.of_claim hc, hfailed, hmember, hcalls⟩

/-! ## Readings and writings that fail -/

omit [Transport τ] in
/-- From one registry to another, nothing happened but this call of this transport. -/
structure CalledOnce (n : Nat) (call : Call) (r r' : Registry τ) : Prop where
  devices : r'.devices = r.devices
  catalog : r'.catalog = r.catalog
  pool : r.pool.OnlyAt (some n) r'.pool
  member : ∃ m transport, r.pool.members[n]? = some m ∧
    r'.pool.members[n]? = some { m with transport }
  calls : r'.pool.calls n = call :: r.pool.calls n

omit [Transport τ] in
theorem calledOnce_use {α : Type} {n : Nat} {call : Call} {run : τ → Outcome α × τ}
    {result : Outcome α} (hn : n < r.pool.members.length)
    (h : r.use (·.use n call run) = (result, r')) : r.CalledOnce n call r' := by
  have hm : r.pool.members[n]? = some r.pool.members[n] := List.getElem?_eq_getElem hn
  obtain ⟨p', hp, hmember, hcalls, honly⟩ := Pool.onlyAt_use call run hm
  simp only [Registry.use, hp] at h
  obtain ⟨-, rfl⟩ := Prod.mk.inj h
  exact ⟨rfl, rfl, honly, ⟨_, _, hm, hmember⟩, hcalls⟩

end Registry

/-! ## Requests -/

namespace Session

variable [Transport τ]

/-- How a request can fail, and what it leaves of the session and the registry then: it is refused,
or a transport fails it. -/
inductive Fails (m : Message) (s : Session) (r : Registry τ) :
    Status → Session → Registry τ → Prop
  | refused {status : Status} :
    status = .noEntry ∨ status = .badUnit ∨ status = .busy ∨ status = .tooManyUnits →
    Fails m s r status s r
  | opening {r' : Registry τ} : m.op = .ok .openUnit →
    r.FailedOpen (deviceName m.payload) r' → Fails m s r .io s r'
  | closing {s' : Session} {r' : Registry τ} : m.op = .ok .closeUnit → Fails m s r .io s' r'
  | access {e : Entry} {call : Call} {r' : Registry τ} :
    m.op = .ok .readUnit ∨ m.op = .ok .writeUnit → s.unit? m.unit = some e →
    r.CalledOnce e.transport call r' → Fails m s r .io s r'

variable {m reply : Message} {s s' : Session} {r r' : Registry τ}

/-- An opening whose device was acquired succeeds. -/
theorem status_finishOpen_ok {o : Opening} {n : Nat}
    (h : s.finishOpen o (.ok n) r = (reply, s', r')) : reply.status = .success := by
  unfold finishOpen enter at h
  dsimp only at h
  split at h <;>
  · obtain ⟨rfl, -, -⟩ := by simpa using h
    rfl

/-- A transport that fails to open is reported as an I/O error, and the claim is given up. -/
theorem finishOpen_error {o : Opening} {f : Fault}
    (h : s.finishOpen o (.error f) r = (reply, s', r')) :
    reply = .failure .io ∧ s' = s ∧ r' = r.unclaim o.device o.claim := by
  obtain ⟨rfl, rfl, rfl⟩ := by simpa [finishOpen] using h
  exact ⟨rfl, rfl, rfl⟩

/-- An opening that is not answered with success fails as a whole. -/
theorem fails_openUnit (hw : Wired r []) (hop : m.op = .ok .openUnit)
    (h : s.openUnit m.payload r = (reply, s', r')) (hreply : reply.status ≠ .success) :
    ∃ status, reply = .failure status ∧ Fails m s r status s' r' := by
  unfold openUnit at h
  cases hb : s.beginOpen m.payload r with
  | error status =>
    obtain ⟨rfl, rfl, rfl⟩ := by simpa [hb] using h
    exact ⟨status, rfl, .refused (refuses_of_beginOpen hop hb).status_cases⟩
  | ok found =>
    rcases found with ⟨o, r₁⟩
    have hdevice : o.device = deviceName m.payload := device_of_beginOpen hb
    have hclaim := (beginOpen_eq_ok hb).1
    rw [hdevice] at hclaim
    cases hacq : r₁.acquire o.device with | mk result r₂ =>
    simp only [hb, hacq] at h
    cases result with
    | ok n => exact absurd (status_finishOpen_ok h) hreply
    | error f =>
      rcases finishOpen_error h with ⟨rfl, rfl, rfl⟩
      rw [hdevice] at hacq ⊢
      have hfailed := Registry.failedOpen_of_claim hw hclaim hacq
      exact ⟨.io, rfl, .opening hop (hfailed.claimed hclaim)⟩

/-- So does a closing. -/
theorem fails_closeUnit {unit : UInt8} (hop : m.op = .ok .closeUnit)
    (h : s.closeUnit unit r = (reply, s', r')) (hreply : reply.status ≠ .success) :
    ∃ status, reply = .failure status ∧ Fails m s r status s' r' := by
  unfold closeUnit at h
  cases hb : s.beginClose unit with
  | error status =>
    obtain ⟨rfl, rfl, rfl⟩ := by simpa [hb] using h
    obtain ⟨-, rfl⟩ := beginClose_eq_error hb
    exact ⟨.badUnit, rfl, .refused (by simp)⟩
  | ok found =>
    rcases found with ⟨e, s₁⟩
    cases hrel : r.release e.device false with | mk result r₁ =>
    cases hfin : finishClose unit e result r₁ with | mk answer r₂ =>
    simp only [hb, hrel, hfin] at h
    obtain ⟨rfl, rfl, rfl⟩ := by simpa using h
    rcases finishClose_cases hfin with rfl | rfl
    · exact absurd rfl hreply
    · exact ⟨.io, rfl, .closing hop⟩

/-- A reading or a writing that is not answered with success was one call of the transport. -/
theorem fails_calls (hunits : ∀ e, s.unit? m.unit = some e → e.transport < r.pool.members.length)
    (h : s.Calls m r reply r') (hreply : reply.status ≠ .success) :
    reply = .failure .io ∧ (m.op = .ok .readUnit ∨ m.op = .ok .writeUnit) ∧
      ∃ e call, s.unit? m.unit = some e ∧ r.CalledOnce e.transport call r' := by
  cases h with
  | @called _ e _ _ result _ _ hop hunit _ _ huse =>
    cases result with
    | ok a => exact absurd rfl hreply
    | error f => exact ⟨rfl, hop, e, _, hunit, Registry.calledOnce_use (hunits e hunit) huse⟩

/-- Every request that is not answered with success fails in one of these ways. -/
theorem fails_handle (hw : Wired r [])
    (hunits : ∀ e, s.unit? m.unit = some e → e.transport < r.pool.members.length)
    (h : s.handle m r = (reply, s', r')) (hreply : reply.status ≠ .success) :
    ∃ status, reply = .failure status ∧ Fails m s r status s' r' := by
  by_cases hopen : m.op = .ok .openUnit
  · simp only [handle, hopen] at h
    exact fails_openUnit hw hopen h hreply
  by_cases hclose : m.op = .ok .closeUnit
  · simp only [handle, hclose] at h
    exact fails_closeUnit hclose h hreply
  obtain ⟨rfl, ⟨status, rfl, rfl, hrefuses⟩ | hcalls⟩ := refuses_or_calls hopen hclose h
  · exact ⟨status, rfl, .refused hrefuses.status_cases⟩
  · rcases fails_calls hunits hcalls hreply with ⟨rfl, hop, e, call, hunit, honce⟩
    exact ⟨.io, rfl, .access hop hunit honce⟩

end Session

/-! ## Every run -/

namespace System

variable [Transport τ] {s₀ s s' s₁ : System τ} {i : Nat} {session session' : Session}
  {m reply : Message} {reply? : Option Message} {own : List (System τ × System τ)}

/-- What session `i` has done about a request, while everybody else went on: `own` are its steps,
the newest first, each from one system to the next. There is a reply once one of them gave it. -/
inductive Answering (s₀ : System τ) (i : Nat) (m : Message) :
    List (System τ × System τ) → Option Message → System τ → Prop
  | request {s : System τ} (notes : List Note) :
    s₀.step (.request i m) = some (notes.map ((i, ·)), s) →
    Answering s₀ i m [(s₀, s)] (notes.findSome? Note.reply?) s
  | elsewhere {own : List (System τ × System τ)} {reply? : Option Message} {s s' : System τ}
      {a : Act τ} {trace : Trace} :
    Answering s₀ i m own reply? s → ¬ a.isOf i → s.step a = some (trace, s') →
    Answering s₀ i m own reply? s'
  | advance {own : List (System τ × System τ)} {s s' : System τ} (notes : List Note) :
    Answering s₀ i m own none s → s.step (.advance i) = some (notes.map ((i, ·)), s') →
    Answering s₀ i m ((s, s') :: own) (notes.findSome? Note.reply?) s'

theorem Answering.run (h : Answering s₀ i m own reply? s) : ∃ trace, Run s₀ trace s := by
  induction h with
  | request _ hstep => exact ⟨_, .single hstep⟩
  | elsewhere _ _ hstep ih =>
    rcases ih with ⟨trace, hrun⟩
    exact ⟨_, hrun.step hstep⟩
  | advance _ _ hstep ih =>
    rcases ih with ⟨trace, hrun⟩
    exact ⟨_, hrun.step hstep⟩

/-- The step changed no unit of any session. -/
def KeepsUnits (p : System τ × System τ) : Prop :=
  p.2.workers.map (·.session) = p.1.workers.map (·.session)

/-- The steps about opening the device of this name, when acquiring it has come to this stage and
has not succeeded. -/
inductive Trying (s₀ : System τ) (x : String) (claim : Bool) :
    Stage Nat → List (System τ × System τ) → Prop
  | claims {s : System τ} : s₀.registry.claim? x = some (claim, s.registry) →
    Trying s₀ x claim .waiting [(s₀, s)]
  | starts {s s' : System τ} {own : List (System τ × System τ)} :
    Trying s₀ x claim .waiting own → s'.registry = s.registry →
    Trying s₀ x claim .running ((s, s') :: own)
  | fails {s s' : System τ} {f : Fault} {own : List (System τ × System τ)} :
    Trying s₀ x claim .running own → s.registry.FailedOpen x s'.registry →
    Trying s₀ x claim (.done (.error f)) ((s, s') :: own)

/-- How a request fails while everybody else goes on, and what the steps of the session were: it is
refused at once, and that is all that happens; a transport fails it in one step; or an opening takes
the claim, fails to acquire the device, and gives the claim back. -/
inductive Failed (s₀ : System τ) (session : Session) (m : Message) :
    Status → List (System τ × System τ) → Prop
  | refused {status : Status} :
    status = .noEntry ∨ status = .badUnit ∨ status = .busy ∨ status = .tooManyUnits →
    Failed s₀ session m status [(s₀, s₀)]
  | access {s : System τ} {e : Entry} {call : Call} :
    m.op = .ok .readUnit ∨ m.op = .ok .writeUnit → session.unit? m.unit = some e →
    s.workers = s₀.workers → s₀.registry.CalledOnce e.transport call s.registry →
    Failed s₀ session m .io [(s₀, s)]
  | opening {claim : Bool} {f : Fault} {own : List (System τ × System τ)} {s s' : System τ} :
    m.op = .ok .openUnit → Trying s₀ (deviceName m.payload) claim (.done (.error f)) own →
    s'.registry = s.registry.unclaim (deviceName m.payload) claim →
    s'.registry.claimsOf (deviceName m.payload) = s₀.registry.claimsOf (deviceName m.payload) →
    (∀ p ∈ (s, s') :: own, KeepsUnits p) → Failed s₀ session m .io ((s, s') :: own)
  | closing {own : List (System τ × System τ)} :
    m.op = .ok .closeUnit → Failed s₀ session m .io own

/-- What session `i` is in the middle of about a request. -/
inductive Busy (s₀ : System τ) (session : Session) (m : Message) :
    List (System τ × System τ) → Worker → Prop
  | trying {o : Session.Opening} {stage : Stage Nat} {own : List (System τ × System τ)} :
    m.op = .ok .openUnit → o.device = deviceName m.payload →
    Trying s₀ o.device o.claim stage own → (∀ p ∈ own, KeepsUnits p) →
    Busy s₀ session m own ⟨session, .opening o stage⟩
  | opened {o : Session.Opening} {n : Nat} {own : List (System τ × System τ)} :
    Busy s₀ session m own ⟨session, .opening o (.done (.ok n))⟩
  | closing {session' : Session} {unit : UInt8} {e : Entry} {stage : Stage Unit}
      {own : List (System τ × System τ)} :
    m.op = .ok .closeUnit → Busy s₀ session m own ⟨session', .closing unit e stage⟩

/-- What has come of a request: the session is busy with it as long as there is no reply, and if there
is one that is not success, the request failed as it may. -/
def Settles (s₀ : System τ) (session : Session) (m : Message) (own : List (System τ × System τ))
    (w : Worker) : Option Message → Prop
  | none => Busy s₀ session m own w
  | some reply => reply.status ≠ .success →
    ∃ status, reply = .failure status ∧ Failed s₀ session m status own

omit [Transport τ] in
theorem keepsUnits_set {w w' : Worker} {r : Registry τ} (hw : s.workers[i]? = some w)
    (hsame : w'.session = w.session) : KeepsUnits (s, ⟨r, s.workers.set i w'⟩) := by
  have hsession : (s.workers.map (·.session))[i]? = some w'.session := by simp [hw, hsame]
  simp only [KeepsUnits, List.map_set, set_self_of_getElem? hsession]

section FromTheStart

variable {configs : List DeviceConfig} {catalog : Catalog τ} {trace : Trace}

/-- A device that can be claimed is not claimed yet. -/
theorem Run.claimsOf_of_claim {x : String} {claim : Bool} {r : Registry τ}
    (hrun : Run (start (.make configs catalog)) trace s)
    (hc : s.registry.claim? x = some (claim, r)) : s.registry.claimsOf x = 0 := by
  rcases Registry.claim?_eq_some hc with ⟨d, hd, hclaim, hfree, -, -⟩
  cases hshared : d.config.shared with
  | true => exact hrun.claimsOf_of_shared hd hshared
  | false =>
    have hfree := hfree (by simp [hclaim, hshared])
    simp [Registry.claimsOf, hd, hfree]

/-- Once a claim that was taken is given back, the device is not claimed any more. -/
theorem Run.claimsOf_of_unclaim {x : String} {claim : Bool} {r r' : Registry τ} {later : Trace}
    (hrun : Run (start (.make configs catalog)) trace s)
    (hc : s.registry.claim? x = some (claim, r)) (hlater : Run s later s')
    (hback : s'.registry = r'.unclaim x claim) : s'.registry.claimsOf x = 0 := by
  rcases Registry.claim?_eq_some hc with ⟨d, hd, hclaim, -, -, -⟩
  have hrun' := hrun.trans hlater
  have hconfig := (hrun'.config x).trans (hrun.config x).symm
  cases hd' : s'.registry.get? x with
  | none => simp [Registry.claimsOf, hd']
  | some d' =>
    obtain heq : d'.config = d.config := by simpa [hd, hd'] using hconfig
    cases hshared : d.config.shared with
    | true => exact hrun'.claimsOf_of_shared hd' (heq ▸ hshared)
    | false =>
      -- the claim was needed, so giving it back has cleared the mark
      have hget := Registry.get?_unclaim r' x claim x
      rw [← hback, hd'] at hget
      rcases Option.map_eq_some_iff.1 hget.symm with ⟨old, -, hold⟩
      have hfree : d'.claimed = false := by simp [← hold, hclaim, hshared, Device.unclaim]
      simp [Registry.claimsOf, hd', hfree]

/-- The transports of units are there. -/
theorem Run.bound_of_unit? {w : Worker} {unit : UInt8} {e : Entry}
    (hrun : Run (start (.make configs catalog)) trace s) (hw : s.workers[i]? = some w)
    (hunit : w.session.unit? unit = some e) : e.transport < s.registry.pool.members.length :=
  hrun.counted.2.wired.bound _ _ (hrun.transportOf_of_unit? hw hunit)

/-- How a request that is handled without interruption fails. -/
theorem Run.fails_handle {r' : Registry τ} (hrun : Run (start (.make configs catalog)) trace s)
    (hw : s.workers[i]? = some ⟨session, .idle⟩)
    (h : session.handle m s.registry = (reply, session', r')) (hreply : reply.status ≠ .success) :
    ∃ status, reply = .failure status ∧
      Session.Fails m session s.registry status session' r' :=
  Session.fails_handle hrun.counted.2.wired.alone (fun _ => hrun.bound_of_unit? hw) h hreply

/-- Whatever a session is trying began with the claim. -/
theorem Trying.claim {x : String} {claim : Bool} {stage : Stage Nat}
    (h : Trying s₀ x claim stage own) :
    ∃ r, s₀.registry.claim? x = some (claim, r) := by
  induction h with
  | claims hc => exact ⟨_, hc⟩
  | starts _ _ ih => exact ih
  | fails _ _ ih => exact ih

/-- The device that a session is trying to open is there, as it was when it was claimed, so that an
acquisition that fails is an opening that fails. -/
theorem Trying.failedOpen {x : String} {claim : Bool} {stage : Stage Nat} {r : Registry τ}
    {f : Fault} {later : Trace} (hrun : Run (start (.make configs catalog)) trace s₀)
    (hlater : Run s₀ later s) (h : Trying s₀ x claim stage own)
    (hacq : s.registry.acquire x = (.error f, r)) : s.registry.FailedOpen x r := by
  have hwired : Wired s.registry [] := (hrun.trans hlater).counted.2.wired.alone
  rcases h.claim with ⟨r₀, hc⟩
  rcases Registry.claim?_eq_some hc with ⟨d, hd, -⟩
  have hconfig := ((hrun.trans hlater).config x).trans (hrun.config x).symm
  rw [hd] at hconfig
  obtain ⟨d', hd', -⟩ := Option.map_eq_some_iff.1 hconfig
  exact Registry.failedOpen_of_acquire hwired hd' hacq

/-- An opening that failed has given its claim back. -/
theorem Trying.failed {claim : Bool} {f : Fault} {later : Trace}
    (hrun : Run (start (.make configs catalog)) trace s₀) (hlater : Run s₀ later s')
    (hop : m.op = .ok .openUnit)
    (h : Trying s₀ (deviceName m.payload) claim (.done (.error f)) own)
    (hback : s'.registry = s.registry.unclaim (deviceName m.payload) claim)
    (hkeeps : ∀ p ∈ (s, s') :: own, KeepsUnits p) :
    Failed s₀ session m .io ((s, s') :: own) := by
  rcases h.claim with ⟨r₀, hc⟩
  have hafter := hrun.claimsOf_of_unclaim hc hlater hback
  exact .opening hop h hback (hafter.trans (hrun.claimsOf_of_claim hc).symm) hkeeps

/-- What an idle session does at once about a request. -/
theorem Run.settles_request {w' : Worker} {r' : Registry τ} {notes : List Note}
    (hrun : Run (start (.make configs catalog)) trace s₀)
    (hw : s₀.workers[i]? = some ⟨session, .idle⟩)
    (hp : Worker.request m ⟨session, .idle⟩ s₀.registry = some (notes, w', r')) :
    Settles s₀ session m [(s₀, ⟨r', s₀.workers.set i w'⟩)] w' (notes.findSome? Note.reply?) := by
  have hset : s₀.workers.set i ⟨session, .idle⟩ = s₀.workers := set_self_of_getElem? hw
  cases (Worker.takes_of_request hp).2 with
  | refused hrefuses =>
    intro _
    rw [hset]
    exact ⟨_, rfl, .refused hrefuses.status_cases⟩
  | access hcalls =>
    intro hstatus
    rcases Session.fails_calls (fun e => hrun.bound_of_unit? hw) hcalls hstatus with
      ⟨rfl, hop, e, call, hunit, honce⟩
    rw [hset]
    exact ⟨.io, rfl, .access hop hunit rfl honce⟩
  | opening hop hdevice _ hc =>
    refine .trying hop hdevice (.claims hc) ?_
    intro p hp
    obtain rfl := List.mem_singleton.1 hp
    exact keepsUnits_set hw rfl
  | closing hop _ => exact .closing hop

/-- A session that is trying to open a device and goes on. -/
theorem Trying.advance {o : Session.Opening} {stage : Stage Nat} {w' : Worker} {r' : Registry τ}
    {notes : List Note} {later : Trace} (hrun : Run (start (.make configs catalog)) trace s₀)
    (hlater : Run s₀ later s) (hw : s.workers[i]? = some ⟨session, .opening o stage⟩)
    (hop : m.op = .ok .openUnit) (hdevice : o.device = deviceName m.payload)
    (h : Trying s₀ o.device o.claim stage own) (hkeeps : ∀ p ∈ own, KeepsUnits p)
    (hp : Worker.advance ⟨session, .opening o stage⟩ s.registry = some (notes, w', r')) :
    Settles s₀ session m ((s, ⟨r', s.workers.set i w'⟩) :: own) w'
      (notes.findSome? Note.reply?) := by
  have hafter : Run s₀ (notes.map ((i, ·)) ++ later) ⟨r', s.workers.set i w'⟩ := by
    apply hlater.step (a := .advance i)
    simp [step, onWorker, hw, hp]
  have hkeep : ∀ p ∈ (s, (⟨r', s.workers.set i w'⟩ : System τ)) :: own,
      w'.session = session → KeepsUnits p := by
    intro p hp hsame
    rcases List.mem_cons.1 hp with rfl | hp
    · exact keepsUnits_set hw hsame
    · exact hkeeps p hp
  -- the claim is taken; then the device is acquired; then the claim goes, or the unit is entered
  cases Worker.advances_of_advance hp with
  | acquireStarts => exact .trying hop hdevice (.starts h rfl) fun p hp => hkeep p hp rfl
  | @acquireEnds _ _ result _ hacq =>
    cases result with
    | ok n => exact .opened
    | error f =>
      have hfailed := h.failedOpen hrun hlater hacq
      exact .trying hop hdevice (.fails h hfailed) fun p hp => hkeep p hp rfl
  | @opened _ _ _ result _ _ hfin =>
    intro hstatus
    cases result with
    | ok n => exact absurd (Session.status_finishOpen_ok hfin) hstatus
    | error f =>
      rcases Session.finishOpen_error hfin with ⟨rfl, rfl, hback⟩
      rw [hdevice] at h hback
      exact ⟨.io, rfl, h.failed hrun hafter hop hback fun p hp => hkeep p hp rfl⟩

/-- A session that is busy with a request and goes on. -/
theorem Busy.advance {w w' : Worker} {r' : Registry τ} {notes : List Note} {later : Trace}
    (hrun : Run (start (.make configs catalog)) trace s₀) (hlater : Run s₀ later s)
    (hw : s.workers[i]? = some w) (h : Busy s₀ session m own w)
    (hp : w.advance s.registry = some (notes, w', r')) :
    Settles s₀ session m ((s, ⟨r', s.workers.set i w'⟩) :: own) w'
      (notes.findSome? Note.reply?) := by
  cases h with
  | trying hop hdevice htrying hkeeps =>
    exact htrying.advance hrun hlater hw hop hdevice hkeeps hp
  | opened =>
    cases Worker.advances_of_advance hp with
    | opened hfin => exact fun hstatus => absurd (Session.status_finishOpen_ok hfin) hstatus
  | @closing session' unit e stage _ hop =>
    cases Worker.advances_of_advance hp with
    | closeStarts => exact .closing hop
    | closeEnds _ => exact .closing hop
    | closed hfin =>
      intro hstatus
      rcases Session.finishClose_cases hfin with rfl | rfl
      · exact absurd rfl hstatus
      · exact ⟨.io, rfl, .closing hop⟩

/-- While a request is answered the session is busy with it, and if the answer is not success, the
request failed as it may. -/
theorem Answering.settles (hrun : Run (start (.make configs catalog)) trace s₀)
    (hw : s₀.workers[i]? = some ⟨session, .idle⟩) (h : Answering s₀ i m own reply? s) :
    ∃ w, s.workers[i]? = some w ∧ Settles s₀ session m own w reply? := by
  -- induction on what has happened since the request: only steps of the session matter
  induction h with
  | @request s notes hstep =>
    rcases of_onWorker hstep with ⟨w, notes', w', r', hw', hp, hnotes, rfl⟩
    obtain rfl : (⟨session, .idle⟩ : Worker) = w := Option.some.inj (hw.symm.trans hw')
    obtain rfl := notes_inj hnotes
    refine ⟨w', ?_, hrun.settles_request hw hp⟩
    simp [(List.getElem?_eq_some_iff.1 hw).1]
  | elsewhere _ hother hstep ih =>
    rcases ih with ⟨w, hw, hsettles⟩
    exact ⟨w, worker_of_step hother hw hstep, hsettles⟩
  | @advance own s s' notes hbefore hstep ih =>
    rcases ih with ⟨w, hw, hbusy⟩
    rcases hbefore.run with ⟨later, hlater⟩
    rcases of_onWorker hstep with ⟨w₁, notes', w', r', hw₁, hp, hnotes, rfl⟩
    obtain rfl : w = w₁ := Option.some.inj (hw.symm.trans hw₁)
    obtain rfl := notes_inj hnotes
    refine ⟨w', ?_, Busy.advance hrun hlater hw hbusy hp⟩
    simp [(List.getElem?_eq_some_iff.1 hw).1]

/-- A request that fails leaves the server as it was, whatever sessions there are and whatever they
did before. The reply carries nothing but its status. A refusal changes nothing at all. An opening
that fails leaves the device connecting its transport once, without success, and if this transport
is a new one the device keeps it. A reading or writing that fails is one call of the transport of
the unit. This holds of a request that is handled without interruption, and of one while other
sessions take any steps between those of its own. -/
theorem failed_requests (hrun : Run (start (.make configs catalog)) trace s)
    (hw : s.workers[i]? = some ⟨session, .idle⟩) (m : Message) :
    (∀ reply session' r', session.handle m s.registry = (reply, session', r') →
      reply.status ≠ .success →
      reply.unit = 0 ∧ reply.control = 0 ∧ reply.payload = [] ∧
      (reply.status = .noEntry ∨ reply.status = .badUnit ∨ reply.status = .busy ∨
          reply.status = .tooManyUnits → session' = session ∧ r' = s.registry) ∧
      (m.op = .ok .openUnit → reply.status = .io →
        session' = session ∧ s.registry.FailedOpen (deviceName m.payload) r') ∧
      (m.op = .ok .readUnit ∨ m.op = .ok .writeUnit → reply.status = .io →
        session' = session ∧ ∃ e call, session.unit? m.unit = some e ∧
          s.registry.CalledOnce e.transport call r')) ∧
    ∀ own reply s', Answering s i m own (some reply) s' → reply.status ≠ .success →
      ∃ status, reply = .failure status ∧ Failed s session m status own := by
  constructor
  · intro reply session' r' h hreply
    rcases hrun.fails_handle hw h hreply with ⟨status, rfl, hfails⟩
    have hio : (Message.failure .io).status = .io := rfl
    refine ⟨rfl, rfl, rfl, ?_⟩
    cases hfails with
    | refused hrefused =>
      refine ⟨fun _ => ⟨rfl, rfl⟩, ?_, ?_⟩ <;>
      · intro _ hstatus
        rcases hrefused with rfl | rfl | rfl | rfl <;> exact absurd hstatus (by decide)
    | opening hop hfailed =>
      refine ⟨by simp [hio], fun _ _ => ⟨rfl, hfailed⟩, ?_⟩
      simp [hop]
    | closing hop =>
      refine ⟨by simp [hio], ?_, ?_⟩ <;> simp [hop]
    | @access e call _ hop hunit hcalled =>
      refine ⟨by simp [hio], ?_, fun _ _ => ⟨rfl, e, call, hunit, hcalled⟩⟩
      rcases hop with hop | hop <;> simp [hop]
  · intro own reply s' h
    rcases h.settles hrun hw with ⟨w, -, hsettles⟩
    exact hsettles

/-- The one device is taken: the session that asks for it gets a refusal, and that is all. -/
theorem failed_requests_of_busy : ∃ trace, Run (start lone) trace occupied ∧
    ∃ reply session r, Session.handle (.request .openUnit 0 0 [100]) {} occupied.registry =
      (reply, session, r) ∧ reply.status = .busy ∧ session = {} ∧ r = occupied.registry := by
  rcases run_occupied with ⟨trace, hrun⟩
  have hbusy : Session.handle (.request .openUnit 0 0 [100]) {} occupied.registry =
      (.failure .busy, {}, occupied.registry) := by
    simp only [Session.handle, Session.openUnit, Session.beginOpen, Message.request,
      deviceName_lone]
    rfl
  obtain ⟨-, -, -, hrefused, -, -⟩ :=
    (failed_requests hrun (i := 1) rfl (.request .openUnit 0 0 [100])).1 _ _ _ hbusy (by decide)
  rcases hrefused (.inr (.inr (.inl rfl))) with ⟨hsession, hregistry⟩
  exact ⟨trace, hrun, _, _, _, hbusy, rfl, hsession, hregistry⟩

end FromTheStart

end System

end RemoteDevice.Server
