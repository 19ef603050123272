import RemoteDevice.Bluetooth.Address
import RemoteDevice.Transport.Basic
import RemoteDevice.Transport.Options

/-!
# Bluetooth.Peripheral — the Bluetooth transport

A peripheral is talked to through one characteristic. What it notifies is collected, up to a limit,
until a read takes it or a write drops it.
-/

namespace RemoteDevice.Bluetooth

open Options

/-- The settings of a peripheral. -/
structure Settings where
  address : Address
  characteristic : Option Uuid
deriving DecidableEq

/-- The characteristic a text names. -/
def parseUuid (s : String) : Except Transport.Error Uuid :=
  match Uuid.parse? s with
  | some uuid => .ok uuid
  | none => .error (.malformed (.characteristic s.toList))

/-- The settings a target and an option text denote. -/
def Settings.parse (target options : String) : Except Transport.Error Settings := do
  let address := field target 0
  if address = "" then .error (.malformed .address)
  match Address.parse? address with
  | none => .error (.malformed (.addressText address.toList))
  | some address =>
    let name := field options 0
    if name = "" then .ok ⟨address, none⟩
    else (parseUuid name).map fun uuid => ⟨address, some uuid⟩

/-- The most notified bytes that wait for a read. -/
def maxPending : Nat := 4096

/-- A peripheral; while it is connected, the bytes that wait for a read. -/
structure Peripheral where
  settings : Settings
  received : Option Bytes := none

namespace Peripheral

/-- The name of the kind. -/
def kind : String := "bt"

/-- A peripheral from its target and options. -/
def make (target options : String) : Except Transport.Error Peripheral :=
  (Settings.parse target options).map fun settings => { settings }

/-- Connects, given what that comes to. -/
def connect (found : Except Transport.Error Unit) (p : Peripheral) :
    Except Transport.Error Unit × Peripheral :=
  match p.received, found with
  | some _, _ => (.ok (), p)
  | none, .ok _ => (.ok (), { p with received := some [] })
  | none, .error e => (.error e, p)

/-- Disconnects. -/
def disconnect (p : Peripheral) : Peripheral :=
  { p with received := none }

/-- The peripheral notifies bytes; those beyond the limit are lost. -/
def notify (data : Bytes) (p : Peripheral) : Peripheral :=
  { p with received := p.received.map fun old => old ++ data.take (maxPending - old.length) }

/-- Takes what waits, as far as the buffer has room. -/
def read (length : Nat) (p : Peripheral) : Except Transport.Error Bytes × Peripheral :=
  match p.received with
  | none => (.error .notOpen, p)
  | some data => (.ok (data.take length), { p with received := some (data.drop length) })

/-- Writes, and drops what waits. -/
def write (data : Bytes) (p : Peripheral) : Except Transport.Error Nat × Peripheral :=
  match p.received with
  | none => (.error .notOpen, p)
  | some _ => (.ok data.length, { p with received := some [] })

end Peripheral

end RemoteDevice.Bluetooth
