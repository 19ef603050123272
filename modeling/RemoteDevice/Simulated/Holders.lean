import RemoteDevice.Server.Registry

/-!
# Simulated.Holders — claims and transports held by name

Someone who uses the devices of a registry directly, outside of any session: claims and transports
are kept under names, and one that replaces another frees it after it was taken itself.
-/

namespace RemoteDevice.Simulated

open Server

/-- A claim that is held: on which device, and whether that needed one. -/
structure Held where
  device : String
  needed : Bool
deriving DecidableEq, Repr

/-- A registry, and what is held of it. -/
structure Holders (τ : Type) where
  registry : Registry τ
  claims : List (String × Held) := []
  transports : List (String × Nat) := []

namespace Holders

variable {τ : Type}

/-- Frees the claim held under a name, and says whether there was one. -/
def unclaim (as : String) (h : Holders τ) : Bool × Holders τ :=
  match h.claims.lookup as with
  | none => (false, h)
  | some held =>
    (true, { h with
      registry := h.registry.unclaim held.device held.needed
      claims := h.claims.filter (·.1 != as) })

/-- Claims a device, unless it is busy, and says whether a claim was needed. -/
def claim (device as : String) (h : Holders τ) : Option Bool × Holders τ :=
  match h.registry.claim? device with
  | none => (none, h)
  | some (needed, registry) =>
    let h := (unclaim as { h with registry }).2
    (some needed, { h with claims := (as, ⟨device, needed⟩) :: h.claims })

/-- Lets the transport held under a name go, and says whether there was one. -/
def forget (as : String) (h : Holders τ) : Bool × Holders τ :=
  match h.transports.lookup as with
  | none => (false, h)
  | some n =>
    (true, { h with
      registry := h.registry.letGo n
      transports := h.transports.filter (·.1 != as) })

/-- Whether a transport is held under any name. -/
def holds (n : Nat) (h : Holders τ) : Bool :=
  h.transports.any (·.2 == n)

variable [Transport τ]

/-- Opens a device and holds its transport. -/
def acquire (device as : String) (h : Holders τ) : Outcome Nat × Holders τ :=
  match h.registry.acquire device with
  | (.error f, registry) => (.error f, { h with registry })
  | (.ok n, registry) =>
    let h := (forget as { h with registry }).2
    (.ok n, { h with transports := (as, n) :: h.transports })

end Holders

end RemoteDevice.Simulated
