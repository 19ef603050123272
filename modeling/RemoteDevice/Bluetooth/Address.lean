import RemoteDevice.Text.Numeral
import RemoteDevice.Text.Split
import RemoteDevice.Text.Utf8

/-!
# Bluetooth.Address — addresses of peripherals and names of characteristics

An address is six bytes in hexadecimal, apart by colons or run together. A characteristic is named
by 128 bits; those with a short name of 16 bits share all the others. Each has one printed form.
-/

namespace RemoteDevice.Bluetooth

open Text

/-! ## Addresses -/

/-- The address of a peripheral. -/
structure Address where
  bytes : List UInt8
  length_eq : bytes.length = 6
deriving DecidableEq

namespace Address

/-- A byte written as a hexadecimal numeral. -/
def parseByte (cs : List Char) : Option UInt8 :=
  (numeral? 16 256 cs).map UInt8.ofNat

/-- A list cut in twos. -/
def pairs {α : Type} : List α → List (List α)
  | a :: b :: rest => [a, b] :: pairs rest
  | [a] => [[a]]
  | [] => []

/-- The bytes of an address as texts. -/
def parts (cs : List Char) : List (List Char) :=
  if cs.contains ':' then pieces (· == ':') cs
  else if (String.ofList cs).utf8ByteSize = 12 then pairs cs
  else []

/-- The address a text denotes. -/
def parse? (s : String) : Option Address :=
  match (parts s.toList).mapM parseByte with
  | some bytes => if h : bytes.length = 6 then some ⟨bytes, h⟩ else none
  | none => none

/-- The bytes in capitals, apart by colons. -/
def format (a : Address) : String :=
  ":".intercalate (a.bytes.map fun b => String.ofList ((hexByte b).map Char.toUpper))

end Address

/-! ## Characteristics -/

/-- The name of a characteristic. -/
structure Uuid where
  value : Nat
deriving DecidableEq, Repr

namespace Uuid

/-- The name with the given short form. -/
def ofShort (n : Nat) : Uuid :=
  ⟨n <<< 96 + 0x00001000800000805f9b34fb⟩

/-- Thirty-two digits. -/
def parseDigits? (cs : List Char) : Option Uuid :=
  if cs.length = 32 then (digitsValue? 16 0 cs).map Uuid.mk else none

/-- The places of the hyphens in a full name. -/
def hyphens : List Nat := [8, 13, 18, 23]

/-- Thirty-two digits in five groups with hyphens between them. -/
def parseGroups? (cs : List Char) : Option Uuid :=
  if cs.length = 36 ∧ hyphens.all (fun i => cs[i]? == some '-') then
    parseDigits? (cs.zipIdx.filterMap fun (c, i) => if i ∈ hyphens then none else some c)
  else none

/-- A full name: digits alone, in groups, in groups and braces, or in groups after a mark. -/
def parseFull? (cs : List Char) : Option Uuid :=
  if cs.length = 32 then parseDigits? cs
  else if cs.length = 38 ∧ cs.head? = some '{' ∧ cs.getLast? = some '}' then
    parseGroups? (cs.drop 1).dropLast
  else if (cs.take 9).map Char.toLower = "urn:uuid:".toList then parseGroups? (cs.drop 9)
  else parseGroups? cs

/-- The text without the mark of a hexadecimal number. -/
def dropMark : List Char → List Char
  | '0' :: 'x' :: digits => digits
  | '0' :: 'X' :: digits => digits
  | digits => digits

/-- The name a text denotes: up to four bytes are a short name. -/
def parse? (s : String) : Option Uuid :=
  let digits := dropMark s.toList
  if (String.ofList digits).utf8ByteSize ≤ 4 then (numeral? 16 65536 digits).map ofShort
  else parseFull? digits

/-- `n` digits from the end of a number. -/
def lastDigits (value : Nat) : Nat → List Char
  | 0 => []
  | n + 1 => lastDigits (value / 16) n ++ [hexDigit (value % 16)]

/-- The full name in five groups. -/
def format (u : Uuid) : String :=
  let ds := lastDigits u.value 32
  "-".intercalate <| [ds.take 8, (ds.drop 8).take 4, (ds.drop 12).take 4, (ds.drop 16).take 4,
    ds.drop 20].map String.ofList

end Uuid

end RemoteDevice.Bluetooth
