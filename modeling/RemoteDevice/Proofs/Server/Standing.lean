import RemoteDevice.Proofs.Server.Sparing

/-!
# Proofs.Server.Standing — a device and a transport side by side

How a device stands, and how a transport that is, or was, its own: each operation on the device has
a lemma that says how they stand afterwards. Giving back an opening is the one with two sides to it:
while others remain nothing happens to the transport, and the last one disconnects it.
-/

namespace RemoteDevice.Server

variable {τ : Type}

/-- The device of this name is in this state, and so is transport `n`, of which these calls were
made, the newest first. -/
structure Registry.Stands (x : String) (d : Device) (n : Nat) (t : τ) (calls : List Call)
    (r : Registry τ) : Prop where
  device : r.get? x = some d
  state : r.pool.get? n = some t
  calls : r.pool.calls n = calls

namespace Registry.Stands

variable {x : String} {d : Device} {n : Nat} {t : τ} {calls : List Call} {r r' : Registry τ}

/-- Nothing happened to the device or to the transport. -/
theorem spared (h : r.Stands x d n t calls) (hget : r'.get? x = r.get? x)
    (hpool : r.pool.Spares (some n) r'.pool) : r'.Stands x d n t calls := by
  have hkept := hpool.kept n rfl
  exact ⟨hget.trans h.device, hkept.1.trans h.state, hkept.2.trans h.calls⟩

/-- What leaves the device alone leaves its transport alone. -/
theorem leaves (h : r.Stands x d n t calls) (hn : d.transport = some n) (hl : r.Leaves x r') :
    r'.Stands x d n t calls := by
  have hpool := hl.pool
  rw [(transportOf_eq h.device).trans hn] at hpool
  exact h.spared hl.device hpool

/-- Transports change by themselves, but not this one. -/
theorem drift {change : Nat → τ → τ} (catalog : Catalog τ) (h : r.Stands x d n t calls)
    (hchange : change n t = t) :
    Registry.Stands x d n t calls { r with pool := r.pool.drift change, catalog } := by
  refine ⟨h.device, ?_, h.calls⟩
  rw [Pool.get?_drift, h.state, Option.map_some, hchange]

/-- A reference let go, to this transport or another. -/
theorem letGo (k : Nat) (h : r.Stands x d n t calls) : (r.letGo k).Stands x d n t calls :=
  h.spared rfl (Pool.spares_letGo _ k r.pool)

/-- Giving the claim back changes nothing else. -/
theorem unclaim (held : Bool) (h : r.Stands x d n t calls) :
    (r.unclaim x held).Stands x { d with claimed := d.claimed && !held } n t calls := by
  refine ⟨?_, by rw [pool_unclaim, h.state], by rw [pool_unclaim, h.calls]⟩
  rw [get?_unclaim, h.device]
  cases held <;> simp [Device.unclaim]

/-- A call of the transport. -/
theorem use {α : Type} (h : r.Stands x d n t calls) (call : Call) (run : τ → Outcome α × τ) :
    ∃ r', r.use (·.use n call run) = ((run t).1, r') ∧
      r'.Stands x d n (run t).2 (call :: calls) := by
  obtain ⟨p, hp, hstate, hcalls, -⟩ := Pool.use_eq call run h.state
  refine ⟨{ r with pool := p }, by simp only [Registry.use, hp], h.device, hstate, ?_⟩
  rw [hcalls, h.calls]

variable [Transport τ]

/-- Giving back an opening while others remain. -/
theorem release_more (destroy : Bool) (h : r.Stands x d n t calls) (hopens : 1 < d.opens) :
    ∃ r', r.release x destroy = (.ok (), r') ∧
      r'.Stands x { d with opens := d.opens - 1 } n t calls := by
  have hmore : d.opens - 1 ≠ 0 := by omega
  refine ⟨r.update { d with opens := d.opens - 1 }, ?_, ?_, h.state, h.calls⟩
  · simp only [Registry.release, h.device, Device.release, if_pos hmore]
  · rw [get?_update_of_get? { d with opens := d.opens - 1 } h.device rfl, if_pos rfl]

/-- Giving back the last opening, which disconnects the transport of the device. With `destroy` the
device has none then, unless disconnecting it crashed. -/
theorem release_last (destroy : Bool) (h : r.Stands x d n t calls) (hn : d.transport = some n)
    (hopens : d.opens ≤ 1) : ∃ r',
    r.release x destroy = ((Transport.disconnect t).1, r') ∧
      r'.Stands x { d with
        opens := 0
        transport := if destroy && !crashed (Transport.disconnect t).1 then none else some n }
        n (Transport.disconnect t).2 (.disconnect :: calls) := by
  obtain ⟨p, hp, hstate, hcalls, -⟩ := Pool.use_eq .disconnect Transport.disconnect h.state
  have hzero : d.opens - 1 = 0 := by omega
  rw [h.calls] at hcalls
  cases hdisconnect : Transport.disconnect t with | mk result t' =>
  rw [hdisconnect] at hp hstate
  have hrel : r.release x destroy = (result, if destroy && !crashed result
      then { r with pool := p.letGo n }.update { d with opens := 0, transport := none }
      else { r with pool := p }.update { d with opens := 0, transport := some n }) := by
    simp only [Registry.release, h.device, Device.release, hzero, Device.disconnect, hn,
      Pool.disconnect, hp]
    rcases result with ⟨_ | _⟩ | _ <;> cases destroy <;> rfl
  have hget : ∀ (q : Pool τ) (d' : Device), d'.config = d.config →
      ({ r with pool := q }.update d').get? x = some d' := by
    intro q d' hconfig
    rw [get?_update_of_get? (r := { r with pool := q }) d' h.device hconfig, if_pos rfl]
  refine ⟨_, hrel, ?_⟩
  cases destroy && !crashed result with
  | false => exact ⟨hget _ _ rfl, hstate, hcalls⟩
  | true =>
    have hkept := (Pool.spares_letGo (some n) n p).kept n rfl
    exact ⟨hget _ _ rfl, hkept.1.trans hstate, hkept.2.trans hcalls⟩

end Registry.Stands

end RemoteDevice.Server
