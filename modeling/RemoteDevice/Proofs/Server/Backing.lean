import RemoteDevice.Proofs.Server.Sparing

/-!
# Proofs.Server.Backing — the transport behind a device

A device stands for one transport, which is made when the device is first opened. What a session
does with a device that nobody else has open comes to calls of this transport, one for one: an
opening connects it, reading and writing read and write it, and a closing disconnects it. Whatever
has nothing to do with the device leaves this as it is.
-/

namespace RemoteDevice.Server

open Wire

variable {τ : Type}

/-- The device of this name and what backs it: a transport in this state of which these calls were
made, the newest first. A transport that is not made yet is in the state in which it will be. -/
structure Registry.Backed (x : String) (d : Device) (t : τ) (calls : List Call)
    (r : Registry τ) : Prop where
  device : r.get? x = some d
  wired : Wired r []
  fresh : r.pool.Fresh
  transport : match d.transport with
    | some n => r.pool.get? n = some t ∧ r.pool.calls n = calls
    | none =>
      r.catalog.create d.config.kind d.config.target d.config.options = .ok t ∧ calls = []

/-- The registry has lost no transport, and a transport that the device of this name has now is the
one it had or a new one. -/
structure Registry.Grows (x : String) (r r' : Registry τ) : Prop where
  size_le : r.pool.members.length ≤ r'.pool.members.length
  transport : ∀ n, r'.transportOf x = some n →
    r.transportOf x = some n ∨ r.pool.members.length ≤ n

/-- Units of other devices stay apart from a device that gets a new transport. -/
theorem Entry.Apart.grows {x : String} {r r' : Registry τ} {e : Entry} (h : e.Apart x r)
    (hg : r.Grows x r') : e.Apart x r' := by
  constructor
  · exact h.device
  · exact Nat.lt_of_lt_of_le h.made hg.size_le
  · intro hx
    rcases hg.transport _ hx with hold | hnew
    · exact h.transport hold
    · exact absurd h.made (Nat.not_lt.2 hnew)

theorem Session.Apart.grows {x : String} {r r' : Registry τ} {s : Session} (h : s.Apart x r)
    (hg : r.Grows x r') : s.Apart x r' := by
  intro e he hopen
  exact (h e he hopen).grows hg

namespace Registry

variable {x : String} {d : Device} {t : τ} {calls : List Call} {r r' r₁ : Registry τ}

theorem Grows.trans (h : r.Grows x r₁) (h' : r₁.Grows x r') : r.Grows x r' := by
  constructor
  · exact Nat.le_trans h.size_le h'.size_le
  · intro n hn
    rcases h'.transport n hn with hold | hnew
    · exact h.transport n hold
    · exact Or.inr (Nat.le_trans h.size_le hnew)

theorem Grows.of_transportOf (hsize : r.pool.members.length ≤ r'.pool.members.length)
    (htransport : r'.transportOf x = r.transportOf x) : r.Grows x r' := by
  constructor
  · exact hsize
  · intro n hn
    exact Or.inl (htransport ▸ hn)

theorem Leaves.grows (h : r.Leaves x r') : r.Grows x r' :=
  .of_transportOf h.pool.size_le (transportOf_congr h.device)

/-- What is relied on in a device once it has its transport. -/
theorem Backed.of_some {n : Nat} (hdevice : r.get? x = some d) (hwired : Wired r [])
    (hfresh : r.pool.Fresh) (hn : d.transport = some n) (ht : r.pool.get? n = some t)
    (hcalls : r.pool.calls n = calls) : r.Backed x d t calls := by
  constructor
  · exact hdevice
  · exact hwired
  · exact hfresh
  · rw [hn]
    exact ⟨ht, hcalls⟩

namespace Backed

theorem leaves (h : r.Backed x d t calls) (hl : r.Leaves x r') : r'.Backed x d t calls := by
  constructor
  · rw [hl.device, h.device]
  · exact hl.wired
  · exact hl.pool.fresh h.fresh
  · have htransport := h.transport
    cases hn : d.transport with
    | none =>
      rw [hn] at htransport
      rw [hl.catalog]
      exact htransport
    | some n =>
      rw [hn] at htransport
      rcases hl.pool.kept n ((transportOf_eq h.device).trans hn) with ⟨hget, hcalls⟩
      dsimp only
      rw [hget, hcalls]
      exact htransport

theorem of_some_inv {n : Nat} (h : r.Backed x d t calls) (hn : d.transport = some n) :
    r.pool.get? n = some t ∧ r.pool.calls n = calls := by
  have htransport := h.transport
  rw [hn] at htransport
  exact htransport

/-- A change of the device itself, which has the transport it had. -/
theorem update {d' : Device} (h : r.Backed x d t calls) (hconfig : d'.config = d.config)
    (htransport : d'.transport = d.transport) :
    (r.update d').Backed x d' t calls ∧ r.Grows x (r.update d') := by
  have hget := get?_update_of_get? d' h.device hconfig
  have hkept : ∀ y, (r.update d').transportOf y = r.transportOf y := by
    intro y
    unfold transportOf
    rw [hget]
    split
    · next hy =>
      subst hy
      rw [h.device]
      exact htransport
    · rfl
  have hsame : (r.update d').pool = r.pool := rfl
  constructor
  · constructor
    · rw [hget, if_pos rfl]
    · exact h.wired.keep (Nat.le_of_eq (congrArg (·.members.length) hsame).symm) hkept
    · exact h.fresh
    · have hbacked := h.transport
      rw [htransport, hconfig]
      exact hbacked
  · exact .of_transportOf (Nat.le_refl _) (hkept x)

/-- A device that is not claimed can be claimed. -/
theorem claim (h : r.Backed x d t calls) (hfree : d.claimed = false) : ∃ r',
    r.claim? x = some (!d.config.shared, r') ∧
      r'.Backed x { d with claimed := !d.config.shared } t calls ∧ r.Grows x r' := by
  have hclaim : d.claim? = some (!d.config.shared, { d with claimed := !d.config.shared }) := by
    unfold Device.claim?
    rw [hfree]
    cases hs : d.config.shared with
    | false => rfl
    | true =>
      rcases d with ⟨config, claimed, transport, opens⟩
      simp_all
  have hupdate : (r.update { d with claimed := !d.config.shared }).Backed x
      { d with claimed := !d.config.shared } t calls ∧
      r.Grows x (r.update { d with claimed := !d.config.shared }) := h.update rfl rfl
  refine ⟨_, ?_, hupdate⟩
  simp [claim?, h.device, hclaim]

theorem unclaim (h : r.Backed x d t calls) (held : Bool) :
    (r.unclaim x held).Backed x { d with claimed := d.claimed && !held } t calls ∧
      r.Grows x (r.unclaim x held) := by
  unfold Registry.unclaim
  cases held with
  | false =>
    have hsame : ({ d with claimed := d.claimed && !false } : Device) = d := by simp
    rw [hsame]
    exact ⟨h, .of_transportOf (Nat.le_refl _) rfl⟩
  | true =>
    simp only [if_true, h.device]
    have hsame : ({ d with claimed := d.claimed && !true } : Device) = d.unclaim := by
      simp [Device.unclaim]
    rw [hsame]
    exact h.update rfl rfl

/-- A call of the transport. -/
theorem use {α : Type} {n : Nat} (h : r.Backed x d t calls) (hn : d.transport = some n)
    (call : Call) (run : τ → Outcome α × τ) : ∃ r',
      r.use (·.use n call run) = ((run t).1, r') ∧
        r'.Backed x d (run t).2 (call :: calls) ∧ r.Grows x r' := by
  rcases h.of_some_inv hn with ⟨hget, hcalls⟩
  rcases Pool.use_eq call run hget with ⟨p, hp, hp', hnoted, hsize, hfresh, -⟩
  refine ⟨{ r with pool := p }, ?_, ?_, ?_⟩
  · simp [Registry.use, hp]
  · apply of_some
    · exact h.device
    · exact h.wired.keep (Nat.le_of_eq hsize.symm) fun _ => rfl
    · exact hfresh h.fresh
    · exact hn
    · exact hp'
    · rw [hnoted, hcalls]
  · exact .of_transportOf (Nat.le_of_eq hsize.symm) rfl

/-- The transports change by themselves, among them that of the device. -/
theorem drift {n : Nat} (h : r.Backed x d t calls) (hn : d.transport = some n)
    (change : Nat → τ → τ) :
    Backed x d (change n t) calls { r with pool := r.pool.drift change } ∧
      r.Grows x { r with pool := r.pool.drift change } := by
  rcases h.of_some_inv hn with ⟨hget, hcalls⟩
  have hsize := Pool.length_drift change r.pool
  constructor
  · apply of_some
    · exact h.device
    · exact h.wired.keep (Nat.le_of_eq hsize.symm) fun _ => rfl
    · intro k hk
      exact h.fresh k (hsize ▸ hk)
    · exact hn
    · rw [Pool.get?_drift, hget]
      rfl
    · exact hcalls
  · exact .of_transportOf (Nat.le_of_eq hsize.symm) rfl

/-- The transport of the device, which is made now if it was not before. -/
theorem provide (h : r.Backed x d t calls) : ∃ n p,
    d.provide r.catalog r.pool = (.ok n, { d with transport := some n }, p) ∧
      p.get? n = some t ∧ p.calls n = calls ∧ p.Fresh ∧
      r.pool.members.length ≤ p.members.length ∧
      (d.transport = some n ∨ r.pool.members.length ≤ n) := by
  have htransport := h.transport
  rcases d with ⟨config, claimed, transport, opens⟩
  cases transport with
  | some n =>
    exact ⟨n, r.pool, rfl, htransport.1, htransport.2, h.fresh, Nat.le_refl _, Or.inl rfl⟩
  | none =>
    rcases htransport with ⟨hcreate, rfl⟩
    rcases Pool.enlist_of_ok config.kind config.target t h.fresh with
      ⟨p, henlist, hget, hcalls, hfresh, hsize⟩
    refine ⟨r.pool.members.length, p, ?_, hget, hcalls, hfresh, hsize, Or.inr (Nat.le_refl _)⟩
    simp only [Device.provide]
    rw [hcreate, henlist]

/-- The device in a new state, and a pool in which its transport is as the device says. -/
theorem replace {d' : Device} {n : Nat} {p : Pool τ} {t' : τ} {calls' : List Call}
    (h : r.Backed x d t calls) (hconfig : d'.config = d.config) (hn : d'.transport = some n)
    (hwired : Wired ({ r with pool := p }.update d') []) (hfresh : p.Fresh)
    (hsize : r.pool.members.length ≤ p.members.length)
    (hnumber : d.transport = some n ∨ r.pool.members.length ≤ n)
    (hget : p.get? n = some t') (hcalls : p.calls n = calls') :
    ({ r with pool := p }.update d').Backed x d' t' calls' ∧
      r.Grows x ({ r with pool := p }.update d') := by
  have hself : ({ r with pool := p }.update d').get? x = some d' := by
    have hupdated := get?_update_of_get? (r := { r with pool := p }) d' h.device hconfig x
    rwa [if_pos rfl] at hupdated
  constructor
  · exact of_some hself hwired hfresh hn hget hcalls
  · constructor
    · exact hsize
    · intro k hk
      rw [transportOf_eq hself, hn] at hk
      rw [transportOf_eq h.device]
      exact Option.some.inj hk ▸ hnumber

variable [Transport τ]

/-- Acquiring the device connects its transport, and counts an opening if that succeeds. -/
theorem acquire (h : r.Backed x d t calls) : ∃ n r',
    r.acquire x = ((Transport.connect t).1.map fun _ => n, r') ∧
      r'.Backed x { d with
        transport := some n
        opens := d.opens + if (Transport.connect t).1.isOk then 1 else 0 }
        (Transport.connect t).2 (.connect :: calls) ∧ r.Grows x r' := by
  rcases h.provide with ⟨n, p, hprovide, hget, hcalls, hfresh, hsize, hnumber⟩
  obtain ⟨p', hp, hp', hnoted, hkept, hfresh', -⟩ :=
    Pool.use_eq .connect Transport.connect hget
  rw [hcalls] at hnoted
  have hwired : ∀ result r', r.acquire x = (result, r') → Wired r' [] :=
    fun _ _ hacq => wired_acquire h.wired hacq
  cases hc : Transport.connect t with | mk result t' =>
  rw [hc] at hp hp'
  dsimp only at hp hp'
  cases result with
  | error f =>
    have hacq : r.acquire x = (.error f, { r with pool := p' }.update
        { d with transport := some n }) := by
      simp only [Registry.acquire, h.device, Device.acquire, hprovide, Pool.connect, hp]
    refine ⟨n, _, hacq, ?_⟩
    exact h.replace rfl rfl (hwired _ _ hacq) (hfresh' hfresh) (hkept ▸ hsize) hnumber hp' hnoted
  | ok u =>
    have hshare := Pool.spares_share (some n) n p'
    have hacq : r.acquire x = (.ok n, { r with pool := p'.share n }.update
        { d with transport := some n, opens := d.opens + 1 }) := by
      simp only [Registry.acquire, h.device, Device.acquire, hprovide, Pool.connect, hp]
    rcases hshare.kept n rfl with ⟨hsame, hnone⟩
    refine ⟨n, _, hacq, ?_⟩
    exact h.replace rfl rfl (hwired _ _ hacq) (hshare.fresh (hfresh' hfresh))
      (Nat.le_trans (hkept ▸ hsize) hshare.size_le) hnumber (hsame.trans hp') (hnone.trans hnoted)

/-- Releasing the only opening of the device disconnects its transport. -/
theorem release {n : Nat} (h : r.Backed x d t calls) (hn : d.transport = some n)
    (hopens : d.opens ≤ 1) : ∃ r',
    r.release x false = ((Transport.disconnect t).1, r') ∧
      r'.Backed x { d with opens := 0 } (Transport.disconnect t).2 (.disconnect :: calls) ∧
      r.Grows x r' := by
  rcases h.of_some_inv hn with ⟨hget, hcalls⟩
  obtain ⟨p, hp, hp', hnoted, hkept, hfresh, -⟩ :=
    Pool.use_eq .disconnect Transport.disconnect hget
  rw [hcalls] at hnoted
  have hzero : d.opens - 1 = 0 := by omega
  have hrel : r.release x false = ((Transport.disconnect t).1,
      { r with pool := p }.update { d with opens := 0 }) := by
    simp only [Registry.release, h.device, Device.release, hzero, Device.disconnect, hn,
      Pool.disconnect, hp]
    rcases Transport.disconnect t with ⟨⟨_ | _⟩ | _, t'⟩ <;> rfl
  refine ⟨_, hrel, ?_⟩
  exact h.replace rfl hn (h.wired.release_unused hrel fun _ => rfl) (hfresh h.fresh)
    (Nat.le_of_eq hkept.symm) (Or.inl hn) hp' hnoted

end Backed

end Registry

/-! ## The only unit of a device -/

/-- The device as it is while nobody has it open, or one unit. -/
def Device.held (config : DeviceConfig) (transport : Option Nat) (isOpen : Bool) : Device :=
  ⟨config, isOpen && !config.shared, transport, if isOpen then 1 else 0⟩

/-- A session with nothing but this device open, as its first unit. -/
def Session.sole (x : String) (config : DeviceConfig) (n : Nat) : Session :=
  ⟨[⟨x, n, !config.shared, true⟩]⟩

namespace Session

variable [Transport τ] {x : String} {config : DeviceConfig} {t : τ} {calls : List Call}
  {r : Registry τ} {m : Message}

/-- Opening a device that nobody has open connects its transport. -/
theorem openUnit_sole {payload : Bytes} {transport : Option Nat} (hx : deviceName payload = x)
    (h : r.Backed x (.held config transport false) t calls) : ∃ n r' reply session,
      openUnit payload {} r = (reply, session, r') ∧
      (match (Transport.connect t).1 with
        | .ok _ => (∃ kind, reply = .reply 0 0 kind) ∧ session = sole x config n
        | .error _ => reply = .failure .io ∧ session = {}) ∧
      r'.Backed x (.held config (some n) (Transport.connect t).1.isOk) (Transport.connect t).2
        (.connect :: calls) ∧ r.Grows x r' := by
  rcases h.claim rfl with ⟨r₁, hclaim, hclaimed, hgrows⟩
  rcases hclaimed.acquire with ⟨n, r₂, hacq, hacquired, hgrows'⟩
  have hbegin : beginOpen payload {} r = .ok (⟨x, 0, !config.shared⟩, r₁) := by
    have hfree : free? {} = some 0 := rfl
    simp only [beginOpen, hx, h.device, hfree, hclaim]
    rfl
  cases hc : Transport.connect t with | mk result t' =>
  rw [hc] at hacq hacquired
  cases result with
  | ok u =>
    refine ⟨n, r₂, .reply 0 0 (Text.encode (r₂.pool.kind n) ++ [0]), sole x config n, ?_,
      ⟨⟨_, rfl⟩, rfl⟩, ?_, hgrows.trans hgrows'⟩
    · simp only [openUnit, hbegin, hacq]
      rfl
    · simpa [Device.held, Except.isOk, Except.toBool] using hacquired
  | error f =>
    rcases hacquired.unclaim (!config.shared) with ⟨hunclaimed, hgrows''⟩
    refine ⟨n, r₂.unclaim x (!config.shared), .failure .io, {}, ?_, ⟨rfl, rfl⟩, ?_,
      (hgrows.trans hgrows').trans hgrows''⟩
    · simp only [openUnit, hbegin, hacq]
      rfl
    · simpa [Device.held, Except.isOk, Except.toBool] using hunclaimed

/-- Reading from the unit reads from the transport of the device. -/
theorem readUnit_sole {n length : Nat} (hunit : m.unit = 0)
    (hlength : requestedLength m.payload = length)
    (h : r.Backed x (.held config (some n) true) t calls) : ∃ r',
      (sole x config n).readUnit m r =
        (match (Transport.read m.control length t).1 with
          | .ok reading => .reply 0 m.control reading.data
          | .error _ => .failure .io, sole x config n, r') ∧
      r'.Backed x (.held config (some n) true) (Transport.read m.control length t).2
        (.read m.control length :: calls) ∧ r.Grows x r' := by
  obtain ⟨r', huse, hbacked, hgrows⟩ :=
    h.use (n := n) rfl (.read m.control length) (Transport.read m.control length)
  refine ⟨r', ?_, hbacked, hgrows⟩
  have hentry : (sole x config n).unit? 0 = some ⟨x, n, !config.shared, true⟩ := rfl
  have hpool : r.use (·.read n m.control length) = _ := huse
  simp only [readUnit, hunit, hentry, hlength, hpool]
  cases (Transport.read m.control length t).1 <;> rfl

/-- The reply to a writing says whether the transport took it, and nothing else. -/
theorem writeUnit_eq {s : Session} {r' : Registry τ} {e : Entry} {result : Outcome Nat}
    (hentry : s.unit? m.unit = some e) :
    r.use (·.write e.transport m.control m.payload) = (result, r') →
    s.writeUnit m r = (match result with
      | .ok _ => .reply m.unit m.control []
      | .error _ => .failure .io, s, r') := by
  intro huse
  simp only [writeUnit, hentry, huse]
  cases result <;> rfl

/-- Writing to the unit writes to the transport of the device. -/
theorem writeUnit_sole {n : Nat} (hunit : m.unit = 0)
    (h : r.Backed x (.held config (some n) true) t calls) : ∃ r',
      (sole x config n).writeUnit m r =
        (match (Transport.write m.control m.payload t).1 with
          | .ok _ => .reply 0 m.control []
          | .error _ => .failure .io, sole x config n, r') ∧
      r'.Backed x (.held config (some n) true) (Transport.write m.control m.payload t).2
        (.write m.control m.payload :: calls) ∧ r.Grows x r' := by
  obtain ⟨r', huse, hbacked, hgrows⟩ :=
    h.use (n := n) rfl (.write m.control m.payload) (Transport.write m.control m.payload)
  refine ⟨r', ?_, hbacked, hgrows⟩
  have hentry : (sole x config n).unit? m.unit = some ⟨x, n, !config.shared, true⟩ := by
    rw [hunit]
    rfl
  rw [← hunit]
  exact writeUnit_eq hentry huse

/-- Closing the unit disconnects the transport of the device, and the session has no open unit
then. -/
theorem closeUnit_sole {n : Nat} (h : r.Backed x (.held config (some n) true) t calls) :
    ∃ r' reply, (sole x config n).closeUnit 0 r = (reply, (sole x config n).markClosed 0, r') ∧
      r'.Backed x (.held config (some n) false) (Transport.disconnect t).2
        (.disconnect :: calls) ∧ r.Grows x r' := by
  rcases h.release (n := n) rfl (Nat.le_refl 1) with ⟨r₁, hrel, hreleased, hgrows⟩
  rcases hreleased.unclaim (!config.shared) with ⟨hunclaimed, hgrows'⟩
  have hbegin : (sole x config n).beginClose 0 =
      .ok (⟨x, n, !config.shared, true⟩, (sole x config n).markClosed 0) := rfl
  refine ⟨r₁.unclaim x (!config.shared), (finishClose 0 ⟨x, n, !config.shared, true⟩
    (Transport.disconnect t).1 r₁).1, ?_, ?_, hgrows.trans hgrows'⟩
  · simp only [closeUnit, hbegin, hrel]
    cases (Transport.disconnect t).1 <;> rfl
  · simpa [Device.held] using hunclaimed

/-- When such a session ends after its unit was closed, nothing happens to the device. -/
theorem leaves_shutdown_sole {n : Nat} (hw : Wired r []) :
    r.Leaves x (((sole x config n).markClosed 0).shutdown r).2 := by
  apply leaves_shutdown hw
  intro e he hopen
  obtain rfl : e = ⟨x, n, false, false⟩ := List.mem_singleton.1 he
  simp at hopen

end Session

end RemoteDevice.Server
