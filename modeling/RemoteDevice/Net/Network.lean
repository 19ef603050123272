import RemoteDevice.Net.Host
import RemoteDevice.Wire.Stream

/-!
# Net.Network — connections as one end sees them

A network is whatever lies at the far ends of connections. It is called for three things: to make a
connection, to deliver bytes on one, upon which the far end may answer with bytes and hang up, and
to hang up from this end. A connection may break, and then fails with a cause of its own. What comes
from a far end unasked counts to the last delivery before it. A link is this end of a connection,
with the bytes that wait there.
-/

namespace RemoteDevice.Net

/-- What a far end does when bytes reach it. -/
structure Reaction where
  bytes : Bytes := []
  hangsUp : Bool := false
deriving DecidableEq, Repr

/-- Networks with states of type `ν`. Connections have numbers. -/
class Network (ν : Type) where
  dial : (host : String) → (port : UInt16) → ν → Except IoError Nat × ν
  deliver : (connection : Nat) → Bytes → ν → Reaction × ν
  hangUp : (connection : Nat) → ν → ν
  /-- What has broken a connection, if anything has. -/
  failure : (connection : Nat) → ν → Option IoError := fun _ _ => none

/-- A machine without peers is a network on which no connection comes about. -/
instance : Network Host where
  dial name port h := (.error (h.dialError name port), h)
  deliver _ _ h := ({ hangsUp := true }, h)
  hangUp _ h := h

/-- This end of a connection. -/
structure Link where
  connection : Nat
  incoming : Bytes := []
  ended : Bool := false
deriving DecidableEq, Repr

namespace Link

/-- Reads what waits. A link that is neither ended nor has anything waiting would make its reader
wait, and tells it so. -/
def read (n : Nat) (l : Link) : Except IoError Bytes × Link :=
  match l.incoming with
  | [] => (if l.ended then .ok [] else .error .wouldBlock, l)
  | data => (.ok (data.take n), { l with incoming := data.drop n })

instance : Wire.ByteSource Link := ⟨read⟩

/-- The link after the far end has reacted. -/
def react (r : Reaction) (l : Link) : Link :=
  { l with incoming := l.incoming ++ r.bytes, ended := l.ended || r.hangsUp }

/-- Sends bytes on the link. -/
def send {ν : Type} [Network ν] (data : Bytes) (l : Link) (net : ν) : Link × ν :=
  let (reaction, net) := Network.deliver l.connection data net
  (l.react reaction, net)

open Wire in
/-- Receives a message into the buffer, unless none begins within the time allowed; zero allows any
time. -/
def receive (timeoutMs : Nat) (buffer : Bytes) (l : Link) : Except Wire.Error Received × Link :=
  if timeoutMs ≠ 0 ∧ l.incoming = [] then
    (.error (if l.ended then .disconnected else .timeout), l)
  else Wire.receive buffer l

/-- How receiving fails on a link whose connection is broken: a wait for the first byte may have
been given up, and anything else is the connection's failure. -/
def brokenBy (e : IoError) (timeoutMs : Nat) (l : Link) : Wire.Error :=
  if timeoutMs ≠ 0 ∧ l.incoming = [] then .ofWait e else .io e

open Wire in
/-- Sends a request and receives the reply to it. On a connection that was broken before, nothing is
received; on one that breaks now, as much as still came. -/
def request {ν : Type} [Network ν] (m : Message) (timeoutMs : Nat) (buffer : Bytes) (l : Link)
    (net : ν) : Except Wire.Error Received × Link × ν :=
  match m.encode with
  | .error e => (.error e, l, net)
  | .ok data =>
    let before := Network.failure l.connection net
    let (l, net) := l.send data net
    match before with
    | some e => (.error (.io e), l, net)
    | none =>
      match l.receive timeoutMs buffer, Network.failure l.connection net with
      | (.error _, rest), some e => (.error (l.brokenBy e timeoutMs), rest, net)
      | (result, rest), _ => (result, rest, net)

end Link

end RemoteDevice.Net
