import RemoteDevice.Server.Connection

/-!
# Server — many clients, one registry

A server is the network its clients see: every connection has a session of its own, and all of them
share the registry. What one connection is sent is dealt with before anything else happens.
-/

namespace RemoteDevice

open Net Server

/-- A server: its devices, and its connections in the order in which they were made. -/
structure Server (τ : Type) where
  registry : Registry τ
  connections : List Connection := []

namespace Server

variable {τ : Type} [Transport τ]

/-- Takes a client in. -/
def accept (s : Server τ) : Nat × Server τ :=
  (s.connections.length, { s with connections := s.connections ++ [{}] })

/-- A client sends bytes. -/
def receive (n : Nat) (data : Bytes) (s : Server τ) : Reaction × Server τ :=
  match s.connections[n]? with
  | none => ({ hangsUp := true }, s)
  | some c =>
    let (reaction, c, registry) := c.receive data s.registry
    (reaction, { registry, connections := s.connections.set n c })

/-- A client sends no more. -/
def finish (n : Nat) (s : Server τ) : Server τ :=
  match s.connections[n]? with
  | none => s
  | some c =>
    let (c, registry) := c.finish s.registry
    { registry, connections := s.connections.set n c }

/-- Whatever name a client dials, it gets to this server. -/
instance : Network (Server τ) where
  dial _ _ s := let (n, s) := s.accept; (.ok n, s)
  deliver := receive
  hangUp := finish

end Server

end RemoteDevice
