import RemoteDevice.Text.Split
import RemoteDevice.Transport.Error

/-!
# Transport.Options — the fields of target and option texts

Transports are specified by texts of fields between commas. A field is trimmed, and a field that is
not there is empty. Numbers are written in decimal, in octal after a zero or in hexadecimal after
`0x`; an address is a host, with or without a port.
-/

namespace RemoteDevice.Options

open Text

/-- A trimmed field of a text, by its number. -/
def field (spec : String) (index : Nat) : String :=
  match (pieces (· == ',') spec.toList)[index]? with
  | some piece => String.ofList (trim piece)
  | none => ""

/-- A number of 32 bits. -/
def parseNumber (s : String) : Except Transport.Error UInt32 :=
  let text := trim s.toList
  let (digits, radix) := numberParts text
  match numeral? radix UInt32.size digits with
  | some n => .ok (UInt32.ofNat n)
  | none => .error (.malformed (.number text))

/-- A number of 32 bits that is `default` where it is left out or zero. -/
def numberOr (s : String) (default : UInt32) : Except Transport.Error UInt32 :=
  if trim s.toList = [] then .ok default
  else (parseNumber s).map fun n => if n = 0 then default else n

/-- A host and a port. -/
structure Endpoint where
  host : String
  port : UInt16
deriving DecidableEq, Repr

/-- The port a text names; none and zero mean the default one. -/
def parsePort (text : List Char) (default : UInt16) : Except Transport.Error UInt16 :=
  if text = [] then .ok default
  else
    match numeral? 10 UInt16.size text with
    | some n => .ok (if n = 0 then default else UInt16.ofNat n)
    | none => .error (.malformed (.port text))

/-- The address in the first field of a target: what stands behind its last colon is the port. -/
def parseEndpoint (target : String) (defaultPort : UInt16) : Except Transport.Error Endpoint :=
  let address := field target 0
  if address = "" then .error (.malformed .host)
  else
    match cutLast? ':' address.toList with
    | some (host, port) =>
      (parsePort port defaultPort).map fun port => ⟨String.ofList host, port⟩
    | none => .ok ⟨address, defaultPort⟩

/-- The words that switch something on, in letters of either case. -/
def isSet (s : String) : Bool :=
  s.toList.map Char.toLower == "yes".toList || s.toList.map Char.toLower == "true".toList

end RemoteDevice.Options
