import RemoteDevice.Net.Network
import RemoteDevice.Text.Utf8
import RemoteDevice.Transport.Basic
import RemoteDevice.Transport.Options

/-!
# Client — a device on a server, used as if it were local

A client knows a server and the name of a device there. Connecting opens the device as a unit of a
new connection; reads and writes go to that unit; disconnecting closes it. When an exchange breaks,
the connection is given up, since what still comes on it might answer an earlier request. An
exchange that ends with a status other than success keeps the connection.
-/

namespace RemoteDevice

open Net Wire Options

namespace Client

/-- A connection with a device open on it. -/
structure Session where
  link : Link
  unit : UInt8
  remoteKind : String
deriving DecidableEq, Repr

/-- How long a client waits for a reply unless told otherwise. -/
def defaultTimeoutMs : Nat := 10000

/-- The longest name of a kind that is taken from a reply. -/
def kindLength : Nat := 32

/-- The name of the kind of transport that clients are. -/
def kind : String := "rdev"

end Client

/-- A client; while its device is open, the session it is open in. -/
structure Client where
  endpoint : Endpoint
  device : String
  timeoutMs : Nat := Client.defaultTimeoutMs
  session : Option Client.Session := none
deriving DecidableEq, Repr

namespace Client

/-- A client from its target and options: a server, and a device on it. -/
def make (target options : String) : Except Transport.Error Client := do
  let endpoint ← parseEndpoint target Wire.defaultPort
  let device := field options 0
  if device = "" then .error (.malformed .deviceName) else .ok { endpoint, device }

/-- The text up to the first zero byte. -/
def zeroTerminated (raw : Bytes) : String :=
  Text.decodeLossy (raw.takeWhile (· ≠ 0))

/-- The unit of the open session. -/
def unit? (c : Client) : Option UInt8 :=
  c.session.map (·.unit)

/-- The kind of the device on the server, while it is open. -/
def remoteKind? (c : Client) : Option String :=
  c.session.map (·.remoteKind)

/-! ## Requests -/

/-- Opens a device: its name and a zero byte. -/
def openRequest (device : String) : Message :=
  .request .openUnit 0 0 (Text.encode device ++ [0])

/-- Closes a unit. -/
def closeRequest (unit : UInt8) : Message :=
  .request .closeUnit unit 0 []

/-- Reads at most `length` bytes from a unit; a header can announce no more than fit in
two bytes. -/
def readRequest (unit : UInt8) (control : UInt32) (length : Nat) : Message :=
  .request .readUnit unit control (le16 (UInt16.ofNat (min length maxPayload)) ++ [0, 0])

/-- Writes bytes to a unit. -/
def writeRequest (unit : UInt8) (control : UInt32) (data : Bytes) : Message :=
  .request .writeUnit unit control data

/-! ## Calls -/

variable {ν : Type} [Network ν]

/-- One exchange in the open session. -/
def exchange (request : UInt8 → Message) (buffer : Bytes) (c : Client) (net : ν) :
    Except Transport.Error Received × Client × ν :=
  match c.session with
  | none => (.error .notOpen, c, net)
  | some s =>
    match s.link.request (request s.unit) c.timeoutMs buffer net with
    | (.error e, link, net) =>
      (.error (.protocol e), { c with session := none }, Network.hangUp link.connection net)
    | (.ok reply, link, net) =>
      let c := { c with session := some { s with link } }
      match reply.header.status with
      | .success => (.ok reply, c, net)
      | status => (.error (.remote status), c, net)

/-- Opens the device on a new connection, unless it is open. -/
def connect (c : Client) (net : ν) : Except Transport.Error Unit × Client × ν :=
  match c.session with
  | some _ => (.ok (), c, net)
  | none =>
    match Network.dial c.endpoint.host c.endpoint.port net with
    | (.error e, net) => (.error (.io e), c, net)
    | (.ok connection, net) =>
      let link : Link := { connection }
      let buffer := List.replicate kindLength 0
      match link.request (openRequest c.device) c.timeoutMs buffer net with
      | (.error e, link, net) => (.error (.protocol e), c, Network.hangUp link.connection net)
      | (.ok reply, link, net) =>
        match reply.header.status with
        | .success =>
          let session := ⟨link, reply.header.unit, zeroTerminated reply.kept⟩
          (.ok (), { c with session := some session }, net)
        | status => (.error (.remote status), c, Network.hangUp link.connection net)

/-- Closes the device, if it is open, whatever the server says to that. -/
def disconnect (c : Client) (net : ν) : Client × ν :=
  match c.session with
  | none => (c, net)
  | some s =>
    let (_, link, net) := s.link.request (closeRequest s.unit) c.timeoutMs [] net
    ({ c with session := none }, Network.hangUp link.connection net)

/-- A client that is no longer used closes its device. -/
def drop (c : Client) (net : ν) : ν :=
  (c.disconnect net).2

/-- An empty buffer of the given length, as far as a message can fill it. -/
def emptyBuffer (length : Nat) : Bytes :=
  List.replicate (min length maxPayload) 0

/-- Reads into the buffer; gives the bytes read. -/
def read (control : UInt32) (buffer : Bytes) (c : Client) (net : ν) :
    Except Transport.Error Bytes × Client × ν :=
  let (result, c, net) := c.exchange (readRequest · control buffer.length) buffer net
  (result.map (·.kept), c, net)

/-- Writes bytes; gives how many. -/
def write (control : UInt32) (data : Bytes) (c : Client) (net : ν) :
    Except Transport.Error Nat × Client × ν :=
  if maxPayload < data.length then (.error (.protocol (.payloadTooLarge data.length)), c, net)
  else
    let (result, c, net) := c.exchange (writeRequest · control data) [] net
    (result.map fun _ => data.length, c, net)

end Client

/-- A client and the network it is on: together they are a transport. -/
structure OnNetwork (ν : Type) where
  client : Client
  net : ν

namespace OnNetwork

variable {ν : Type} [Network ν]

/-- Opens the device. -/
def connect (t : OnNetwork ν) : Outcome Unit × OnNetwork ν :=
  let (result, client, net) := t.client.connect t.net
  (.ofResult result, ⟨client, net⟩)

/-- Closes the device. -/
def disconnect (t : OnNetwork ν) : Outcome Unit × OnNetwork ν :=
  let (client, net) := t.client.disconnect t.net
  (.ok (), ⟨client, net⟩)

/-- Reads into an empty buffer of the given length. -/
def read (control : UInt32) (length : Nat) (t : OnNetwork ν) : Outcome Reading × OnNetwork ν :=
  let (result, client, net) := t.client.read control (Client.emptyBuffer length) t.net
  (.ofResult (result.map .ofData), ⟨client, net⟩)

/-- Writes bytes. -/
def write (control : UInt32) (data : Bytes) (t : OnNetwork ν) : Outcome Nat × OnNetwork ν :=
  let (result, client, net) := t.client.write control data t.net
  (.ofResult result, ⟨client, net⟩)

instance : Transport (OnNetwork ν) :=
  ⟨fun _ => Client.kind, connect, disconnect, read, write, fun _ => Transport.noConfig Client.kind⟩

end OnNetwork

end RemoteDevice
