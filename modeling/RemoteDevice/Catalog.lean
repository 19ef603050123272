import RemoteDevice.Bluetooth.Peripheral
import RemoteDevice.Can.Bus
import RemoteDevice.Client
import RemoteDevice.Net.TcpLine
import RemoteDevice.Serial.Port

/-!
# Catalog — kinds of transports by name

A catalog makes a transport from the name of its kind, a target and options. Making one only reads
the texts; nothing is touched before the transport is connected. The default catalog has six kinds,
all of them on one machine.
-/

namespace RemoteDevice

open Net

/-- Makes a transport from a target and options. -/
abbrev Maker (τ : Type) := (target options : String) → Except Transport.Error τ

/-- The known kinds. A name stands in the list once. -/
structure Catalog (τ : Type) where
  makers : List (String × Maker τ) := []

namespace Catalog

variable {τ : Type}

/-- The catalog without kinds. -/
def empty : Catalog τ := {}

/-- The maker of a kind. -/
def find? (c : Catalog τ) (kind : String) : Option (Maker τ) :=
  (c.makers.find? (·.1 == kind)).map (·.2)

/-- Whether the kind is known. -/
def contains (c : Catalog τ) (kind : String) : Bool :=
  (c.find? kind).isSome

/-- The catalog with a kind added, or made in another way than before. -/
def register (kind : String) (maker : Maker τ) (c : Catalog τ) : Catalog τ :=
  ⟨(kind, maker) :: c.makers.filter (·.1 != kind)⟩

/-- How many kinds are known. -/
def size (c : Catalog τ) : Nat :=
  c.makers.length

/-- Makes a transport of a kind. -/
def create (c : Catalog τ) (kind target options : String) : Except Transport.Error τ :=
  match c.find? kind with
  | some maker => maker target options
  | none => .error (.unknownKind kind)

/-- The catalog with every transport put into another type. -/
def map {σ : Type} (f : τ → σ) (c : Catalog τ) : Catalog σ :=
  ⟨c.makers.map fun (kind, maker) => (kind, fun target options => (maker target options).map f)⟩

end Catalog

/-! ## The kinds of the default catalog -/

/-- A transport that takes everything and moves no data. -/
structure NullDevice where
deriving DecidableEq, Repr

/-- The name of its kind. -/
def NullDevice.kind : String := "null"

/-- A transport of one of the kinds of the default catalog. -/
inductive BuiltIn where
  | can (bus : Can.Bus)
  | serial (port : Serial.Port)
  | ip (line : TcpLine)
  | bt (peripheral : Bluetooth.Peripheral)
  | null (device : NullDevice)
  | rdev (client : Client)

/-- A transport on the machine it was made on. -/
structure OnHost where
  host : Host
  transport : BuiltIn

namespace OnHost

/-- The name of the kind. -/
def kind (t : OnHost) : String :=
  match t.transport with
  | .can _ => Can.Bus.kind
  | .serial _ => Serial.Port.kind
  | .ip _ => TcpLine.kind
  | .bt _ => Bluetooth.Peripheral.kind
  | .null _ => NullDevice.kind
  | .rdev _ => Client.kind

/-- The transport after a call, which goes on with the result. -/
def after {α : Type} (t : OnHost) (transport : BuiltIn) (result : Except Transport.Error α) :
    Outcome α × OnHost :=
  (.ofResult result, { t with transport })

/-- Opens the device of a serial port. -/
def openDevice (t : OnHost) (p : Serial.Port) : Except Transport.Error Line :=
  let files := t.host.files
  match files.openTerminal (p.devicePath (files.contains ·)) with
  | .ok line => .ok line
  | .error e => .error (.serial e.reason)

/-- Acquires the device. The machine has no network of either kind. -/
def connect (t : OnHost) : Outcome Unit × OnHost :=
  match t.transport with
  | .can b =>
    let (result, b) := b.connect (.error (.link b.interface "no such interface"))
    t.after (.can b) result
  | .serial p =>
    let (result, p) := p.connect (t.openDevice p)
    t.after (.serial p) result
  | .ip l =>
    let (result, l) := l.connect (.error (t.host.dialError l.endpoint.host l.endpoint.port))
    t.after (.ip l) result
  | .bt p =>
    let (result, p) := p.connect (.error (.bluetooth "no adapter"))
    t.after (.bt p) result
  | .null d => t.after (.null d) (.ok ())
  | .rdev c =>
    let (result, c, host) := c.connect t.host
    OnHost.after { t with host } (.rdev c) result

/-- Gives the device back. -/
def disconnect (t : OnHost) : Outcome Unit × OnHost :=
  match t.transport with
  | .can b => t.after (.can b.disconnect) (.ok ())
  | .serial p => t.after (.serial p.disconnect) (.ok ())
  | .ip l => t.after (.ip l.disconnect) (.ok ())
  | .bt p => t.after (.bt p.disconnect) (.ok ())
  | .null d => t.after (.null d) (.ok ())
  | .rdev c =>
    let (c, host) := c.disconnect t.host
    OnHost.after { t with host } (.rdev c) (.ok ())

/-- Reads into a buffer of the given length. -/
def read (control : UInt32) (length : Nat) (t : OnHost) : Outcome Reading × OnHost :=
  match t.transport with
  | .can b =>
    let (result, b) := b.read control length
    t.after (.can b) result
  | .serial p =>
    let (result, p) := p.read length []
    (result.map .ofData, { t with transport := .serial p })
  | .ip l =>
    let (result, l) := l.read length []
    t.after (.ip l) (result.map .ofData)
  | .bt p =>
    let (result, p) := p.read length
    t.after (.bt p) (result.map .ofData)
  | .null d => t.after (.null d) (.ok (.ofData []))
  | .rdev c =>
    let (result, c, host) := c.read control (Client.emptyBuffer length) t.host
    OnHost.after { t with host } (.rdev c) (result.map .ofData)

/-- Writes bytes. -/
def write (control : UInt32) (data : Bytes) (t : OnHost) : Outcome Nat × OnHost :=
  match t.transport with
  | .can b =>
    let (result, b) := b.write data
    t.after (.can b) result
  | .serial p =>
    let (result, p) := p.write data []
    t.after (.serial p) result
  | .ip l =>
    let (result, l) := l.write data []
    t.after (.ip l) result
  | .bt p =>
    let (result, p) := p.write data
    t.after (.bt p) result
  | .null d => t.after (.null d) (.ok 0)
  | .rdev c =>
    let (result, c, host) := c.write control data t.host
    OnHost.after { t with host } (.rdev c) result

/-- The side channel. -/
def config (op : Config) (t : OnHost) : Outcome ConfigReply × OnHost :=
  match t.transport with
  | .can b =>
    let (result, b) := b.config op
    t.after (.can b) result
  | .ip l =>
    let (result, l) := l.config op
    t.after (.ip l) result
  | _ => Transport.noConfig t.kind t

instance : Transport OnHost := ⟨kind, connect, disconnect, read, write, config⟩

end OnHost

/-- Makes a transport that takes everything and moves no data, whatever the texts. -/
def OnHost.nullMaker (host : Host) : Maker OnHost :=
  fun _ _ => .ok ⟨host, .null {}⟩

/-- The six kinds, on one machine. -/
def Catalog.default (host : Host) : Catalog OnHost :=
  let on := fun (t : BuiltIn) => OnHost.mk host t
  ⟨[(Can.Bus.kind, fun target options => (Can.Bus.make target options).map (on <| .can ·)),
    (Serial.Port.kind, fun target options =>
      (Serial.Port.make target options).map (on <| .serial ·)),
    (TcpLine.kind, fun target _ => (TcpLine.make target).map (on <| .ip ·)),
    (Bluetooth.Peripheral.kind,
      fun target options => (Bluetooth.Peripheral.make target options).map (on <| .bt ·)),
    (NullDevice.kind, OnHost.nullMaker host),
    (Client.kind, fun target options => (Client.make target options).map (on <| .rdev ·))]⟩

end RemoteDevice
