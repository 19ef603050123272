import RemoteDevice.Server.Device

/-!
# Server.Registry — the devices of a server, by name

A registry holds the devices a server exports, the transports made for them, and the catalog these
are made from. No two of its devices have the same name.
-/

namespace RemoteDevice.Server

/-- The devices of a server. -/
structure Registry (τ : Type) where
  catalog : Catalog τ
  devices : List Device := []
  pool : Pool τ := {}

namespace Registry

/-- The devices with one more; one of the same name gives way to it. -/
def put (d : Device) (ds : List Device) : List Device :=
  ds.filter (·.name ≠ d.name) ++ [d]

variable {τ : Type}

/-- The registry of the configured devices. -/
def make (configs : List DeviceConfig) (catalog : Catalog τ) : Registry τ where
  catalog := catalog
  devices := configs.foldl (fun ds config => put { config } ds) []

/-- The device with a name. -/
def get? (r : Registry τ) (name : String) : Option Device :=
  r.devices.find? (·.name = name)

/-- How many devices there are. -/
def size (r : Registry τ) : Nat :=
  r.devices.length

/-- The registry with a device in a new state. -/
def update (d : Device) (r : Registry τ) : Registry τ :=
  { r with devices := r.devices.map fun old => if old.name = d.name then d else old }

/-- Claims a device, unless it is busy, and says whether a claim was needed. -/
def claim? (name : String) (r : Registry τ) : Option (Bool × Registry τ) :=
  ((r.get? name).bind Device.claim?).map fun (needed, d) => (needed, r.update d)

/-- Gives the claim on a device back, if one is held. -/
def unclaim (name : String) (held : Bool) (r : Registry τ) : Registry τ :=
  match if held then r.get? name else none with
  | some d => r.update d.unclaim
  | none => r

/-- One reference to a transport less. -/
def letGo (n : Nat) (r : Registry τ) : Registry τ :=
  { r with pool := r.pool.letGo n }

variable [Transport τ]

/-- Opens a device once more and gives its transport. -/
def acquire (name : String) (r : Registry τ) : Outcome Nat × Registry τ :=
  match r.get? name with
  | none => (.error .crash, r)
  | some d =>
    let (result, d, pool) := d.acquire r.catalog r.pool
    (result, { r with pool }.update d)

/-- Gives one opening of a device back. -/
def release (name : String) (destroy : Bool) (r : Registry τ) : Outcome Unit × Registry τ :=
  match r.get? name with
  | none => (.error .crash, r)
  | some d =>
    let (result, d, pool) := d.release destroy r.pool
    (result, { r with pool }.update d)

/-- Makes a call of a transport. -/
def use {α : Type} (call : Pool τ → Outcome α × Pool τ) (r : Registry τ) :
    Outcome α × Registry τ :=
  let (result, pool) := call r.pool
  (result, { r with pool })

end Registry

end RemoteDevice.Server
