import RemoteDevice.Line
import RemoteDevice.Transport.Basic
import RemoteDevice.Transport.Options

/-!
# Net.TcpLine — the TCP transport

A connection to a host, for instance to a bridge that puts a serial line on the network. A read
gathers bytes until its buffer is full, the far end has ended, or the line falls silent. Bytes of
one connection are never read from the next.
-/

namespace RemoteDevice.Net

open Options

/-- The TCP transport. -/
structure TcpLine where
  endpoint : Endpoint
  line : Option Line := none
deriving DecidableEq, Repr

namespace TcpLine

/-- The name of the kind. -/
def kind : String := "ip"

/-- The port of a target that names none. -/
def defaultPort : UInt16 := 23

/-- A connection yet to be made, from its target. -/
def make (target : String) : Except Transport.Error TcpLine :=
  (parseEndpoint target defaultPort).map fun endpoint => { endpoint }

/-- Connects, given what dialling comes to. -/
def connect (dialled : Except IoError Line) (t : TcpLine) : Except Transport.Error Unit × TcpLine :=
  match t.line, dialled with
  | some _, _ => (.ok (), t)
  | none, .ok line => (.ok (), { t with line := some line })
  | none, .error e => (.error (.io e), t)

/-- Closes the connection. -/
def disconnect (t : TcpLine) : TcpLine :=
  { t with line := none }

/-- Reads into a buffer of `length` bytes while something happens on the line. -/
def read (length : Nat) (moments : List Moment) (t : TcpLine) :
    Except Transport.Error Bytes × TcpLine :=
  match t.line with
  | none => (.error .notOpen, t)
  | some line =>
    let progress := (Filling.start (List.replicate length 0)).fill length (line.arrivals moments)
    (progress.result.mapError .io, { t with line := some (line.afterRead moments progress) })

/-- Writes all the bytes while something happens on the line. -/
def write (data : Bytes) (moments : List Moment) (t : TcpLine) :
    Except Transport.Error Nat × TcpLine :=
  match t.line with
  | none => (.error .notOpen, t)
  | some line => (.ok data.length, { t with line := some (line.write data moments) })

/-- The side channel. -/
def config (op : Config) (t : TcpLine) : Except Transport.Error ConfigReply × TcpLine :=
  match op with
  | .getDescriptor => (.ok (.descriptor t.line.isSome), t)
  | _ => (.error (.unsupported kind), t)

end TcpLine

end RemoteDevice.Net
