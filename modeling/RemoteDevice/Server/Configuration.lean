import RemoteDevice.Catalog
import RemoteDevice.Net.Address

/-!
# Server.Configuration — what a server is told to export

A configuration is an address to listen on and a list of devices. It is valid for a catalog when
every device has a name of its own, a kind the catalog knows, and a target, which only the null kind
can do without. An invalid one is refused for the first device that breaks a rule, by the first rule
it breaks.
-/

namespace RemoteDevice.Server

/-- A device to export: its name, and what its transport is made from. Shared devices may be open in
several units at once. -/
structure DeviceConfig where
  name : String
  kind : String
  target : String := ""
  options : String := ""
  shared : Bool := false
deriving DecidableEq, Repr

/-- The address a server listens on unless told otherwise: its port on every interface. -/
def defaultListen : Net.SocketAddress where
  ip := .v4 [0, 0, 0, 0]
  port := Wire.defaultPort.toNat

/-- The configuration of a server. -/
structure Configuration where
  listen : Net.SocketAddress := defaultListen
  devices : List DeviceConfig := []
deriving DecidableEq, Repr

namespace Configuration

/-- Why there is no valid configuration. -/
inductive Error where
  | unreadable (path : String) (e : IoError)
  | malformed
  | missingName (index : Nat)
  | duplicate (device : String)
  | unknownKind (device kind : String)
  | missingTarget (device : String)
deriving DecidableEq, Repr

/-- The text of the failure. -/
def Error.message : Error → String
  | unreadable path e => s!"Could not read {path}: {e.message}"
  | malformed => "Invalid configuration"
  | missingName index => s!"Device #{index} has no name"
  | duplicate device => s!"Device {device} is configured twice"
  | unknownKind device kind => s!"Device {device} uses unknown transport {kind}"
  | missingTarget device => s!"Device {device} has no target"

/-- The texts of the failures this one stems from. -/
def Error.causes : Error → List String
  | unreadable _ e => [e.message]
  | _ => []

variable {τ : Type}

/-- The first rule that a device breaks, given its place in the list and the names before it. -/
def fault? (catalog : Catalog τ) (index : Nat) (before : List String) (d : DeviceConfig) :
    Option Error :=
  if d.name = "" then some (.missingName index)
  else if d.name ∈ before then some (.duplicate d.name)
  else if ¬ catalog.contains d.kind then some (.unknownKind d.name d.kind)
  else if d.target = "" ∧ d.kind ≠ NullDevice.kind then some (.missingTarget d.name)
  else none

/-- Checks devices from the given place on. -/
def validateFrom (catalog : Catalog τ) :
    (index : Nat) → (before : List String) → List DeviceConfig → Except Error Unit
  | _, _, [] => .ok ()
  | index, before, d :: ds =>
    match fault? catalog index before d with
    | some e => .error e
    | none => validateFrom catalog (index + 1) (d.name :: before) ds

/-- Checks that every device can be exported. -/
def validate (c : Configuration) (catalog : Catalog τ) : Except Error Unit :=
  validateFrom catalog 0 [] c.devices

end Configuration

end RemoteDevice.Server
