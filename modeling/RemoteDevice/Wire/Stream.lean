import RemoteDevice.Wire.Message

/-!
# Wire.Stream — messages over blocking streams

A sender writes the header and then the payload, however few bytes the stream takes at a time. A
receiver reads one message into a buffer; what the buffer has no room for is read and thrown away,
so that the stream stands at the next header afterwards.
-/

namespace RemoteDevice.Wire

/-! ## Reading -/

/-- A stream that is read in pieces: asked for at most `n` bytes it gives some, or none
at its end. -/
class ByteSource (σ : Type) where
  read : (n : Nat) → σ → Except IoError Bytes × σ

/-- Reads on until `n` bytes more have come; those that came before stand reversed in `got`. -/
def readOn {σ : Type} [ByteSource σ] (got : Bytes) (n : Nat) (s : σ) : Except IoError Bytes × σ :=
  if _h : n = 0 then (.ok got.reverse, s)
  else
    match ByteSource.read n s with
    | (.error e, s) => (.error e, s)
    | (.ok [], s) => (.error .unexpectedEnd, s)
    | (.ok (b :: bs), s) =>
      let piece := (b :: bs).take n
      readOn (piece.reverse ++ got) (n - piece.length) s
termination_by n
decreasing_by simp only [List.length_take, List.length_cons]; omega

/-- Reads exactly `n` bytes. -/
def readExact {σ : Type} [ByteSource σ] (n : Nat) (s : σ) : Except IoError Bytes × σ :=
  readOn [] n s

/-- A received message: its header, the payload bytes kept, and the buffer they were put in. -/
structure Received where
  header : Header
  count : Nat
  buffer : Bytes
deriving DecidableEq, Repr

/-- The payload bytes that were kept. -/
def Received.kept (r : Received) : Bytes :=
  r.buffer.take r.count

/-- Receives one message into the buffer. -/
def receive {σ : Type} [ByteSource σ] (buffer : Bytes) (s : σ) : Except Error Received × σ :=
  match readExact headerLength s with
  | (.error e, s) => (.error (.ofRead e), s)
  | (.ok raw, s) =>
    match Header.decode? raw with
    | none => (.error .disconnected, s)
    | some (header, _) =>
      let length := header.length.toNat
      let count := min length buffer.length
      match readExact count s with
      | (.error e, s) => (.error (.ofRead e), s)
      | (.ok kept, s) =>
        match readExact (length - count) s with
        | (.error e, s) => (.error (.ofRead e), s)
        | (.ok _, s) => (.ok ⟨header, count, overwrite kept buffer⟩, s)

/-- A stream of given bytes that hands out at most `chunk` of them at a time; behind them it ends,
or breaks. -/
structure Reader where
  unread : Bytes
  chunk : Nat
  failure : Option IoError := none

/-- A piece of at most `n` bytes from the front of the stream. -/
def Reader.read (n : Nat) (r : Reader) : Except IoError Bytes × Reader :=
  match r.unread.take (min n r.chunk), r.failure with
  | [], some e => (.error e, r)
  | [], none => (.ok [], r)
  | piece, _ => (.ok piece, { r with unread := r.unread.drop (min n r.chunk) })

instance : ByteSource Reader := ⟨Reader.read⟩

/-! ## Writing -/

/-- A stream that is written in pieces: of the bytes it is offered it takes the first few, and says
how many. -/
class ByteSink (σ : Type) where
  write : Bytes → σ → Except IoError Nat × σ

/-- Writes all the bytes, unless the stream takes no more. -/
def writeAll {σ : Type} [ByteSink σ] (bytes : Bytes) (s : σ) : Except IoError Unit × σ :=
  if _h : bytes = [] then (.ok (), s)
  else
    match ByteSink.write bytes s with
    | (.error e, s) => (.error e, s)
    | (.ok 0, s) => (.error .writeZero, s)
    | (.ok (n + 1), s) => writeAll (bytes.drop (n + 1)) s
termination_by bytes.length
decreasing_by
  have := List.length_pos_iff.2 _h
  simp only [List.length_drop]
  omega

/-- Writes the header, then the payload, and says how many bytes that were. -/
def Message.send {σ : Type} [ByteSink σ] (m : Message) (s : σ) : Except Error Nat × σ :=
  match m.header with
  | .error e => (.error e, s)
  | .ok h =>
    match writeAll h.encode s with
    | (.error e, s) => (.error (.io e), s)
    | (.ok _, s) =>
      match writeAll m.payload s with
      | (.error e, s) => (.error (.io e), s)
      | (.ok _, s) => (.ok (headerLength + m.payload.length), s)

/-- A stream that takes at most `chunk` bytes at a time and `room` bytes in all. What arrived stands
in `pieces`, the newest first. -/
structure Writer where
  chunk : Nat
  room : Nat
  pieces : List Bytes := []

namespace Writer

/-- The bytes that arrived. -/
def arrived (w : Writer) : Bytes :=
  w.pieces.reverse.flatten

/-- The most bytes the next call takes. -/
def takes (w : Writer) : Nat :=
  min w.chunk w.room

/-- The stream after it took a piece. -/
def push (piece : Bytes) (w : Writer) : Writer :=
  { w with room := w.room - piece.length, pieces := piece :: w.pieces }

/-- Takes a piece from the front of the bytes. -/
def write (bytes : Bytes) (w : Writer) : Except IoError Nat × Writer :=
  let piece := bytes.take w.takes
  (.ok piece.length, w.push piece)

end Writer

instance : ByteSink Writer := ⟨Writer.write⟩

/-- Sends a message on a stream of limited room. -/
def send (m : Message) (w : Writer) : Except Error Nat × Writer :=
  m.send w

end RemoteDevice.Wire
