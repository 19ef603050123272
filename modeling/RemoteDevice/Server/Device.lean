import RemoteDevice.Server.Configuration
import RemoteDevice.Server.Pool

/-!
# Server.Device — an exported device

A device makes its transport when it is first opened, and keeps it from then on. It counts how often
it is open: the transport is disconnected when the last opening is given back. A device that is not
shared can be claimed by one unit at a time.
-/

namespace RemoteDevice.Server

/-- A device: its configuration, whether it is claimed, the number of its transport, and how often
it is open. -/
structure Device where
  config : DeviceConfig
  claimed : Bool := false
  transport : Option Nat := none
  opens : Nat := 0
deriving DecidableEq, Repr

namespace Device

/-- The name of the device. -/
def name (d : Device) : String :=
  d.config.name

/-- Claims the device, unless it is busy, and says whether a claim was needed: a shared device is
never busy and needs none. -/
def claim? (d : Device) : Option (Bool × Device) :=
  if d.config.shared then some (false, d)
  else if d.claimed then none
  else some (true, { d with claimed := true })

/-- Gives a claim back. -/
def unclaim (d : Device) : Device :=
  { d with claimed := false }

variable {τ : Type}

/-- The transport of the device, which is made if there is none. -/
def provide (catalog : Catalog τ) (d : Device) (p : Pool τ) :
    Except Transport.Error Nat × Device × Pool τ :=
  match d.transport with
  | some n => (.ok n, d, p)
  | none =>
    let c := d.config
    match p.enlist c.kind c.target (catalog.create c.kind c.target c.options) with
    | (.ok n, p) => (.ok n, { d with transport := some n }, p)
    | (.error e, p) => (.error e, d, p)

variable [Transport τ]

/-- Opens the device once more: gives its transport, connected. If that fails the device keeps the
transport but is not opened. -/
def acquire (catalog : Catalog τ) (d : Device) (p : Pool τ) : Outcome Nat × Device × Pool τ :=
  match d.provide catalog p with
  | (.error e, d, p) => (.error (.error e), d, p)
  | (.ok n, d, p) =>
    match p.connect n with
    | (.error f, p) => (.error f, d, p)
    | (.ok _, p) => (.ok n, { d with opens := d.opens + 1 }, p.share n)

/-- Drops the transport of the device, if it has one. -/
def discard (d : Device) (p : Pool τ) : Device × Pool τ :=
  match d.transport with
  | none => (d, p)
  | some n => ({ d with transport := none }, p.letGo n)

/-- Disconnects the transport of the device, if it has one. -/
def disconnect (d : Device) (p : Pool τ) : Outcome Unit × Pool τ :=
  match d.transport with
  | none => (.ok (), p)
  | some n => p.disconnect n

/-- Gives one opening back. The last one disconnects the transport, and with `destroy` drops it,
unless disconnecting crashed. -/
def release (destroy : Bool) (d : Device) (p : Pool τ) : Outcome Unit × Device × Pool τ :=
  let d := { d with opens := d.opens - 1 }
  if d.opens ≠ 0 then (.ok (), d, p)
  else
    match d.disconnect p, destroy with
    | (.error .crash, p), _ => (.error .crash, d, p)
    | (result, p), true =>
      let (d, p) := d.discard p
      (result, d, p)
    | (result, p), false => (result, d, p)

end Device

end RemoteDevice.Server
