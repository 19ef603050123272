import RemoteDevice.Bytes
import RemoteDevice.Transport.Error

/-!
# Can.Frame — CAN frames, their ids and their two outer forms

A standard id has 11 bits, an extended one 29; a flag in the highest bit tells them apart. Frames,
filters and buffers keep ids in one canonical form, in which ids of the two kinds never coincide.

A frame is an id and at most eight bytes. On the wire it takes sixteen:

    id : 4 bytes | length : 1 byte | padding : 3 bytes | data : 8 bytes

On a socket a frame is of one of three kinds. Frames with data keep their id and data there and
back; remote frames come in without data, error frames not at all.
-/

namespace RemoteDevice.Can

open Transport (Error)

/-! ## Ids -/

/-- The highest standard id. -/
def maxStandard : UInt32 := 0x7ff

/-- The highest extended id. -/
def maxExtended : UInt32 := 0x1fffffff

/-- The flag of an extended id. -/
def extendedFlag : UInt32 := 0x80000000

/-- A direct read that asks for this id takes the next frame, whatever its id. -/
def anyId : UInt32 := 0xffff

/-- Whether the id carries the flag of an extended one. -/
def isExtended (id : UInt32) : Bool :=
  extendedFlag ≤ id

/-- The 29 bits of an id without its flags. -/
def rawId (id : UInt32) : UInt32 :=
  id % (maxExtended + 1)

/-- The form in which ids are compared: an id with the flag, or too high for a standard one, is
extended and has the flag; flags of other kinds are dropped. -/
def canonicalId (id : UInt32) : UInt32 :=
  if isExtended id || maxStandard < rawId id then extendedFlag + rawId id else rawId id

/-! ## Frames -/

/-- The most data a frame carries. -/
def maxData : Nat := 8

/-- Bytes of a frame on the wire. -/
def frameLength : Nat := 16

/-- A frame. -/
structure Frame where
  id : UInt32
  data : Bytes
  length_le : data.length ≤ maxData
deriving DecidableEq

namespace Frame

/-- A frame with the id in canonical form. -/
def make (id : UInt32) (data : Bytes) : Except Error Frame :=
  if h : data.length ≤ maxData then .ok ⟨canonicalId id, data, h⟩
  else .error (.length maxData data.length)

/-! ## The wire form -/

/-- The sixteen bytes of a frame. -/
def wire (f : Frame) : Bytes :=
  le32 f.id ++ UInt8.ofNat f.data.length :: 0 :: 0 :: 0 ::
    (f.data ++ List.replicate (maxData - f.data.length) 0)

/-- Writes the frame over the beginning of a buffer, and says how many bytes it takes there. A
buffer that is too short stays as it is. -/
def encode (f : Frame) (buffer : Bytes) : Except Error Nat × Bytes :=
  if buffer.length < frameLength then (.error (.length frameLength buffer.length), buffer)
  else (.ok frameLength, overwrite f.wire buffer)

/-- The frame at the beginning of the bytes. -/
def decode (raw : Bytes) : Except Error Frame :=
  match raw with
  | i₀ :: i₁ :: i₂ :: i₃ :: n :: _ :: _ :: _ :: data =>
    if data.length < maxData then .error (.length frameLength raw.length)
    else if maxData < n.toNat then .error (.malformed (.frameLength n.toNat))
    else make (ofLe32 i₀ i₁ i₂ i₃) (data.take n.toNat)
  | _ => .error (.length frameLength raw.length)

/-- A frame takes as many bytes whatever its data. -/
theorem length_wire (f : Frame) : f.wire.length = frameLength := by
  have := f.length_le
  simp [wire, le32, frameLength, maxData] at *
  omega

end Frame

/-! ## Frames on a socket -/

/-- The id of a frame on a socket. -/
inductive SocketId where
  | standard (n : UInt32)
  | extended (n : UInt32)
deriving DecidableEq, Repr

namespace SocketId

/-- A standard id, if the number has 11 bits at most. -/
def standard? (n : UInt32) : Option SocketId :=
  if n ≤ maxStandard then some (standard n) else none

/-- An extended id, if the number has 29 bits at most. -/
def extended? (n : UInt32) : Option SocketId :=
  if n ≤ maxExtended then some (extended n) else none

/-- Whether the id is an extended one. -/
def isExtended : SocketId → Bool
  | standard _ => false
  | extended _ => true

/-- The id without flags. -/
def raw : SocketId → UInt32
  | standard n => n
  | extended n => n

end SocketId

/-- A frame on a socket. -/
inductive SocketFrame where
  | data (id : SocketId) (bytes : Bytes)
  | remote (id : SocketId) (length : Nat)
  | fault (code : UInt32) (bytes : Bytes)
deriving DecidableEq, Repr

/-- A frame with data, if these are few enough. -/
def SocketFrame.data? (id : SocketId) (bytes : Bytes) : Option SocketFrame :=
  if bytes.length ≤ maxData then some (.data id bytes) else none

/-- The id in the form of a socket, if it is in range. Of an id without the flag only 16 bits are
looked at. -/
def socketId? (id : UInt32) : Option SocketId :=
  if isExtended id then SocketId.extended? (rawId id) else SocketId.standard? (id % 0x10000)

namespace Frame

/-- The frame in the form of a socket. -/
def toSocket (f : Frame) : Except Error SocketFrame :=
  match (socketId? f.id).bind fun id => SocketFrame.data? id f.data with
  | some s => .ok s
  | none => .error (.malformed (.frameId f.id))

/-- The id that a frame gets which comes in with this one. -/
def idOfSocket : SocketId → UInt32
  | .standard n => n
  | .extended n => extendedFlag + n

/-- What comes in from a socket. -/
def ofSocket? : SocketFrame → Option Frame
  | .data id bytes => (make (idOfSocket id) bytes).toOption
  | .remote id _ => (make (idOfSocket id) []).toOption
  | .fault _ _ => none

end Frame

end RemoteDevice.Can
