import RemoteDevice.Server.Configuration
import RemoteDevice.Text.Utf8
import RemoteDevice.Toml.Document

/-!
# Server.ConfigurationFile — configurations in TOML

The key `listen` holds a socket address and `device` a list of devices; both may be missing. A
device is a table, of which the name and the kind of transport must be there, or a list of the same
values in a fixed order. Keys without a meaning are passed over.
-/

namespace RemoteDevice.Server

open Toml

/-- A value that may be missing but not of another type. -/
def optional {α : Type} (read : Value → Option α) (default : α) : Option Value → Option α
  | some v => read v
  | none => some default

namespace DeviceConfig

/-- The device of the values for name, kind, target, options and flag. -/
def ofValues (name kind target options shared : Option Value) : Option DeviceConfig := do
  some {
    name := ← (← name).text?
    kind := ← (← kind).text?
    target := ← optional Value.text? "" target
    options := ← optional Value.text? "" options
    shared := ← optional Value.truth? false shared }

/-- The device a value describes. -/
def ofValue : Value → Option DeviceConfig
  | .table entries =>
    ofValues (entries.lookup "name") (entries.lookup "transport") (entries.lookup "target")
      (entries.lookup "options") (entries.lookup "shared")
  | .list items => ofValues items[0]? items[1]? items[2]? items[3]? items[4]?
  | _ => none

end DeviceConfig

namespace Configuration

/-- The socket address a value holds. -/
def addressOf (v : Value) : Option Net.SocketAddress :=
  v.text?.bind Net.SocketAddress.parse?

/-- The devices a value describes. -/
def devicesOf (v : Value) : Option (List DeviceConfig) :=
  v.list?.bind (·.mapM DeviceConfig.ofValue)

/-- The configuration a value describes. -/
def ofValue (v : Value) : Option Configuration := do
  some {
    listen := ← optional addressOf defaultListen (v.get? "listen")
    devices := ← optional devicesOf [] (v.get? "device") }

/-- The configuration a text describes. -/
def parse (text : String) : Except Error Configuration :=
  match (Toml.parse? text).bind ofValue with
  | some c => .ok c
  | none => .error .malformed

/-- The configuration in a file, given what reading the file comes to. -/
def load (path : String) (contents : Except IoError Bytes) : Except Error Configuration :=
  match contents with
  | .error e => .error (.unreadable path e)
  | .ok bytes =>
    match Text.decode? bytes with
    | some text => parse text
    | none => .error (.unreadable path .notText)

end Configuration

end RemoteDevice.Server
