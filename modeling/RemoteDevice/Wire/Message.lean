import RemoteDevice.Bytes
import RemoteDevice.Wire.Status

/-!
# Wire.Message — headers and messages

A message is a header of eight bytes and as many payload bytes as the header says. Requests name an
operation in the first byte, replies a status.

    opcode : 1 byte | unit : 1 byte | control : 4 bytes | length : 2 bytes | payload

Reading a header back gives the header that was written, and every eight bytes are some header.
-/

namespace RemoteDevice.Wire

/-- Bytes of a header. -/
def headerLength : Nat := 8

/-- The longest payload a header can announce. -/
def maxPayload : Nat := 65535

/-- The port servers listen on unless told otherwise. -/
def defaultPort : UInt16 := 3930

/-- What a request asks for. -/
inductive Opcode where
  | openUnit
  | closeUnit
  | readUnit
  | writeUnit
deriving DecidableEq, Repr

/-- The code on the wire. -/
def Opcode.code : Opcode → UInt8
  | openUnit => 1
  | closeUnit => 2
  | readUnit => 3
  | writeUnit => 4

/-- The operation a code stands for, if any. -/
def Opcode.ofCode (c : UInt8) : Except Error Opcode :=
  if c = 1 then .ok openUnit
  else if c = 2 then .ok closeUnit
  else if c = 3 then .ok readUnit
  else if c = 4 then .ok writeUnit
  else .error (.invalidOpcode c)

/-! ## Headers -/

/-- What stands before the payload. -/
structure Header where
  opcode : UInt8
  unit : UInt8
  control : UInt32
  length : UInt16
deriving DecidableEq, Repr

namespace Header

/-- The status, in a reply. -/
def status (h : Header) : Status :=
  .ofCode h.opcode

/-- The eight bytes of a header. -/
def encode (h : Header) : Bytes :=
  h.opcode :: h.unit :: (le32 h.control ++ le16 h.length)

/-- The header at the front of the bytes, and what follows it. -/
def decode? : Bytes → Option (Header × Bytes)
  | op :: unit :: c₀ :: c₁ :: c₂ :: c₃ :: n₀ :: n₁ :: rest =>
    some (⟨op, unit, ofLe32 c₀ c₁ c₂ c₃, ofLe16 n₀ n₁⟩, rest)
  | _ => none

@[simp] theorem length_encode (h : Header) : h.encode.length = headerLength := rfl

theorem decode?_encode_append (h : Header) (rest : Bytes) :
    decode? (h.encode ++ rest) = some (h, rest) := by
  simp [encode, decode?, le32, le16, ofLe32_le32, ofLe16_le16]

theorem eq_encode_append_of_decode? {bytes rest : Bytes} {h : Header}
    (hd : decode? bytes = some (h, rest)) : bytes = h.encode ++ rest := by
  unfold decode? at hd
  split at hd
  · rcases Prod.mk.inj (Option.some.inj hd) with ⟨rfl, rfl⟩
    simp [encode, le32_ofLe32, le16_ofLe16]
  · simp at hd

theorem decode?_eq_none_iff {bytes : Bytes} :
    decode? bytes = none ↔ bytes.length < headerLength := by
  unfold decode?
  split
  · simp [headerLength]
  · next h =>
    simp only [headerLength, true_iff]
    match bytes, h with
    | [], _ | [_], _ | [_, _], _ | [_, _, _], _ | [_, _, _, _], _ => simp
    | [_, _, _, _, _], _ | [_, _, _, _, _, _], _ | [_, _, _, _, _, _, _], _ => simp
    | _ :: _ :: _ :: _ :: _ :: _ :: _ :: _ :: _, h => exact (h _ _ _ _ _ _ _ _ _ rfl).elim

end Header

/-! ## Messages -/

/-- A whole message. -/
structure Message where
  opcode : UInt8
  unit : UInt8
  control : UInt32
  payload : Bytes
deriving DecidableEq, Repr

namespace Message

/-- A request. -/
def request (op : Opcode) (unit : UInt8) (control : UInt32) (payload : Bytes) : Message :=
  ⟨op.code, unit, control, payload⟩

/-- The reply to a request that succeeded. -/
def reply (unit : UInt8) (control : UInt32) (payload : Bytes) : Message :=
  ⟨Status.success.code, unit, control, payload⟩

/-- The reply to a request that failed: it carries nothing but the status. -/
def failure (status : Status) : Message :=
  ⟨status.code, 0, 0, []⟩

/-- The operation, in a request. -/
def op (m : Message) : Except Error Opcode :=
  Opcode.ofCode m.opcode

/-- The status, in a reply. -/
def status (m : Message) : Status :=
  .ofCode m.opcode

/-- The header of a message; a payload that it cannot announce is refused. -/
def header (m : Message) : Except Error Header :=
  if m.payload.length ≤ maxPayload then
    .ok ⟨m.opcode, m.unit, m.control, UInt16.ofNat m.payload.length⟩
  else .error (.payloadTooLarge m.payload.length)

/-- The message a header and a payload make. -/
def ofParts (h : Header) (payload : Bytes) : Message :=
  ⟨h.opcode, h.unit, h.control, payload⟩

/-- The bytes of a message. -/
def encode (m : Message) : Except Error Bytes :=
  m.header.map (·.encode ++ m.payload)

end Message

end RemoteDevice.Wire
