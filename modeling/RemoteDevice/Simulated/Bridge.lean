import RemoteDevice.Net.TcpLine

/-!
# Simulated.Bridge — a TCP line whose far end is at hand

A bridge is a TCP line together with whoever answers at the other end. Every connection is a new
one: nothing that was sent on the last is read from the next.
-/

namespace RemoteDevice.Simulated

open Net

/-- A line, and what its far end has not received yet of the last connection that was closed. -/
structure Bridge where
  tcp : TcpLine
  left : Bytes := []
deriving DecidableEq, Repr

namespace Bridge

/-- The bridge with the line changed, if there is a connection. -/
def onLine (f : Line → Line) (b : Bridge) : Bridge :=
  { b with tcp := { b.tcp with line := b.tcp.line.map f } }

/-- The far end sends bytes. -/
def send (data : Bytes) (b : Bridge) : Bridge :=
  b.onLine (·.feed data)

/-- The far end sends no more. -/
def finish (b : Bridge) : Bridge :=
  b.onLine Line.finish

/-- The far end takes at most `n` bytes. -/
def receive (n : Nat) (b : Bridge) : Bytes × Bridge :=
  match b.tcp.line with
  | none => (b.left.take n, { b with left := b.left.drop n })
  | some line =>
    let (data, line) := line.receive n
    (data, { b with tcp := { b.tcp with line := some line } })

/-- Connects, if the far end lets it. -/
def dial (answer : Except IoError Unit) (b : Bridge) : Outcome Unit × Bridge :=
  let (result, tcp) := b.tcp.connect (answer.map fun _ => {})
  (.ofResult result, { b with tcp })

/-- Connects. -/
def connect (b : Bridge) : Outcome Unit × Bridge :=
  b.dial (.ok ())

/-- Closes the connection. -/
def disconnect (b : Bridge) : Outcome Unit × Bridge :=
  let left := match b.tcp.line with
    | some line => line.outgoing
    | none => b.left
  (.ok (), ⟨b.tcp.disconnect, left⟩)

/-- Reads while something happens on the line. -/
def readDuring (moments : List Moment) (length : Nat) (b : Bridge) : Outcome Reading × Bridge :=
  let (result, tcp) := b.tcp.read length moments
  (.ofResult (result.map .ofData), { b with tcp })

/-- Reads, where what waits comes in one piece. -/
def read (_ : UInt32) (length : Nat) (b : Bridge) : Outcome Reading × Bridge :=
  b.readDuring [] length

/-- Writes while something happens on the line. -/
def writeDuring (moments : List Moment) (data : Bytes) (b : Bridge) : Outcome Nat × Bridge :=
  let (result, tcp) := b.tcp.write data moments
  (.ofResult result, { b with tcp })

/-- Writes, where the line takes all the bytes at once. -/
def write (_ : UInt32) (data : Bytes) (b : Bridge) : Outcome Nat × Bridge :=
  b.writeDuring [] data

/-- The side channel. -/
def config (op : Config) (b : Bridge) : Outcome ConfigReply × Bridge :=
  let (result, tcp) := b.tcp.config op
  (.ofResult result, { b with tcp })

instance : Transport Bridge :=
  ⟨fun _ => TcpLine.kind, connect, disconnect, read, write, config⟩

end Bridge

end RemoteDevice.Simulated
