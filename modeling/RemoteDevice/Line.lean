import RemoteDevice.Bytes
import RemoteDevice.IoError

/-!
# Line — a byte stream in both directions

A line is a pair of queues: bytes that arrived and wait to be read, and bytes that were written and
wait for the far end. A reader asks it again and again for bytes and puts them into a buffer, until
there are enough or the line falls silent. The line gives and takes bytes in pieces of any size, and
while that goes on requests are interrupted and the far end sends more.
-/

namespace RemoteDevice

/-! ## Filling a buffer -/

/-- One answer to a request for bytes. -/
inductive Arrival where
  /-- Some bytes. There are none if the far end sends no more. -/
  | bytes (data : Bytes)
  /-- The request was interrupted and may be made again. -/
  | interrupted
  /-- Nothing came in time. -/
  | quiet
  | failed (e : IoError)
deriving DecidableEq, Repr

/-- A buffer of which some bytes at the front are filled in. -/
structure Filling where
  buffer : Bytes
  filled : Nat
  within : filled ≤ buffer.length
deriving DecidableEq, Repr

namespace Filling

/-- A buffer that is to be filled, whatever stands in it. -/
def start (buffer : Bytes) : Filling :=
  ⟨buffer, 0, Nat.zero_le _⟩

/-- What has been filled in. -/
def data (f : Filling) : Bytes :=
  f.buffer.take f.filled

/-- How many bytes there is still room for. -/
def room (f : Filling) : Nat :=
  f.buffer.length - f.filled

/-- Bytes are put behind those that are there, as many as there is room for. -/
def add (piece : Bytes) (f : Filling) : Filling where
  buffer := f.data ++ piece.take f.room ++ f.buffer.drop (f.filled + (piece.take f.room).length)
  filled := f.filled + (piece.take f.room).length
  within := by
    have hle := f.within
    simp only [data, List.length_append, List.length_take]
    omega

end Filling

/-- How it stands with the asking for bytes. -/
inductive Asking where
  /-- There are enough bytes, and no more are asked for. -/
  | enough
  /-- A request brought no bytes, and no other one is made. -/
  | silent
  | failed (e : IoError)
  /-- There are not enough bytes yet, and the last request is still to be answered. -/
  | waiting
deriving DecidableEq, Repr

/-- How far the filling of a buffer has come, and the answers that were not asked for. -/
structure Progress where
  asking : Asking
  filling : Filling
  unasked : List Arrival
deriving DecidableEq, Repr

/-- What a read comes to, which got this far. -/
def Progress.result (p : Progress) : Except IoError Bytes :=
  match p.asking with
  | .failed e => .error e
  | _ => .ok p.filling.data

/-- Asks for bytes until `enough` of them are in the buffer, or until none come. -/
def Filling.fill (enough : Nat) (f : Filling) : List Arrival → Progress
  | [] => ⟨if enough ≤ f.filled then .enough else .waiting, f, []⟩
  | answer :: rest =>
    if enough ≤ f.filled then ⟨.enough, f, answer :: rest⟩
    else
      match answer with
      | .bytes [] | .quiet => ⟨.silent, f, rest⟩
      | .bytes piece => (f.add piece).fill enough rest
      | .interrupted => f.fill enough rest
      | .failed e => ⟨.failed e, f, rest⟩

/-! ## Lines -/

/-- A line as seen from this end. -/
structure Line where
  incoming : Bytes := []
  ended : Bool := false
  outgoing : Bytes := []
deriving DecidableEq, Repr

/-- What happens on a line while it is read or written. -/
inductive Moment where
  /-- A request is interrupted. -/
  | interrupt
  /-- The line gives or takes at least one and at most `n` bytes. -/
  | piece (n : Nat)
  /-- The far end sends bytes. -/
  | feed (data : Bytes)
  /-- The far end sends no more. -/
  | finish
deriving DecidableEq, Repr

namespace Line

/-- The far end sends bytes. -/
def feed (data : Bytes) (l : Line) : Line :=
  if l.ended then l else { l with incoming := l.incoming ++ data }

/-- The far end sends no more. -/
def finish (l : Line) : Line :=
  { l with ended := true }

/-- Some bytes have been read. -/
def consume (n : Nat) (l : Line) : Line :=
  { l with incoming := l.incoming.drop n }

/-- Bytes are on their way to the far end. -/
def put (data : Bytes) (l : Line) : Line :=
  { l with outgoing := l.outgoing ++ data }

/-- The far end takes at most `n` bytes of those that were written. -/
def receive (n : Nat) (l : Line) : Bytes × Line :=
  (l.outgoing.take n, { l with outgoing := l.outgoing.drop n })

/-- The line after what the far end does in a moment. -/
def pass (l : Line) : Moment → Line
  | .interrupt | .piece _ => l
  | .feed data => l.feed data
  | .finish => l.finish

/-- The line after what the far end does meanwhile. -/
def meanwhile (l : Line) (moments : List Moment) : Line :=
  moments.foldl pass l

/-- What comes from the line while this happens. Behind the last moment the bytes that still wait
come in one piece, and then the end of the line or silence. -/
def arrivals (l : Line) : List Moment → List Arrival
  | [] =>
    let last := [if l.ended then Arrival.bytes [] else .quiet]
    if l.incoming = [] then last else .bytes l.incoming :: last
  | .interrupt :: moments => .interrupted :: l.arrivals moments
  | .piece n :: moments =>
    let piece := l.incoming.take (max n 1)
    -- a line on which nothing waits gives no piece
    if piece = [] then l.arrivals moments
    else .bytes piece :: (l.consume piece.length).arrivals moments
  | moment :: moments => (l.pass moment).arrivals moments

/-- The line after a read that came this far while this happened. -/
def afterRead (moments : List Moment) (p : Progress) (l : Line) : Line :=
  (l.meanwhile moments).consume p.filling.filled

/-- Writes all the bytes, in the pieces that the line takes. -/
def write (data : Bytes) (l : Line) : List Moment → Line
  | [] => l.put data
  | .piece n :: moments => (l.put (data.take (max n 1))).write (data.drop (max n 1)) moments
  | moment :: moments => (l.pass moment).write data moments

end Line

end RemoteDevice
