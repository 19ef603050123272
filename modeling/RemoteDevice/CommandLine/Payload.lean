import RemoteDevice.Bytes
import RemoteDevice.CommandLine.Report
import RemoteDevice.Text.Numeral
import RemoteDevice.Text.Quoted
import RemoteDevice.Text.Split

/-!
# CommandLine.Payload — bytes on the command line

Payloads are given and shown as pairs of hexadecimal digits. Blanks and colons may stand anywhere in
one that is given; one that is shown has a space between its bytes.
-/

namespace RemoteDevice.CommandLine

open Text

/-- Why a text is no payload. -/
inductive PayloadError where
  | oddDigits (text : List Char)
  | byte (pair : List Char)
deriving DecidableEq, Repr

/-- The failure in words. -/
def PayloadError.failure : PayloadError → Failure
  | oddDigits text => ⟨s!"odd number of hex digits in {quote text}", []⟩
  | byte pair => ⟨s!"invalid hex byte {quote pair}", ["invalid digit found in string"]⟩

/-- The bytes of digits two by two; with an odd number of digits the last one stands alone. -/
def pairBytes : List Char → Except PayloadError Bytes
  | a :: b :: rest =>
    match numeral? 16 256 [a, b] with
    | some n => (pairBytes rest).map (UInt8.ofNat n :: ·)
    | none => .error (.byte [a, b])
  | [] => .ok []
  | [a] => .error (.byte [a])

/-- The digits of a payload. -/
def payloadDigits (cs : List Char) : List Char :=
  cs.filter fun c => !isBlank c && c != ':'

/-- The bytes a text denotes. -/
def parsePayload (s : String) : Except PayloadError Bytes :=
  let digits := payloadDigits s.toList
  if digits.length % 2 ≠ 0 then .error (.oddDigits s.toList) else pairBytes digits

/-- Bytes as they are shown. -/
def formatPayload (bytes : Bytes) : String :=
  " ".intercalate (bytes.map fun b => String.ofList (hexByte b))

end RemoteDevice.CommandLine
