import RemoteDevice.IoError
import RemoteDevice.Net.Address
import RemoteDevice.Text.Split

/-!
# Net.HostName — what the name of a machine stands for

An address is a name of its own. There is a looser form of an address of four bytes: one to four
numbers with points between them, each in decimal, in octal or in hexadecimal, where the last fills
all the bytes the others leave. An address of eight groups may have a scope, a number or the name of
an interface. Any other name is a host name of labels with points between them, and the only one
that stands for an address without asking anybody is the machine's own.
-/

namespace RemoteDevice.Net

open Text

namespace HostName

/-! ## Numbers with points between them -/

/-- A number below `2 ^ 32`. -/
def number? (cs : List Char) : Option Nat :=
  let (digits, radix) := numberParts cs
  if digits = [] then none else digitsBelow? radix 0x100000000 0 digits

/-- The last `n` bytes of a number, the highest first. -/
def lastBytes : (n : Nat) → Nat → List Nat
  | 0, _ => []
  | n + 1, value => value / 256 ^ n % 256 :: lastBytes n value

/-- The four bytes of one to four numbers. -/
def bytesOf? : (room : Nat) → List Nat → Option (List Nat)
  | 0, _ => none
  | _, [] => none
  | room, [last] => if last < 256 ^ room then some (lastBytes room last) else none
  | room + 1, n :: ns => if n < 256 then (bytesOf? room ns).map (n :: ·) else none

/-- An address of four bytes in its looser form. -/
def looseV4? (cs : List Char) : Option (List Nat) :=
  ((pieces (· == '.') cs).mapM number?).bind (bytesOf? 4)

/-! ## Scopes -/

/-- Whether the scope of an address may be the name of an interface. -/
def takesInterface (groups : List Nat) : Bool :=
  isLinkLocal groups || isMulticast groups && (groups.headD 0 % 16 == 1 || groups.headD 0 % 16 == 2)

/-- The name of the interface that leads back to the machine; it has number one. -/
def loopbackName : List Char := ['l', 'o']

/-- The scope a text denotes. -/
def scopeOf? (groups : List Nat) (cs : List Char) : Option Nat :=
  if takesInterface groups && cs == loopbackName then some 1
  else if cs = [] then none
  else digitsBelow? 10 0x100000000 0 cs

/-- The address of eight groups and its scope that a text denotes. -/
def scoped? (cs : List Char) : Option (List Nat × Nat) := do
  let (address, scope) ← cutFirst? '%' cs
  let groups ← whole (readV6 address)
  some (groups, ← scopeOf? groups scope)

/-! ## Labels with points between them -/

/-- Whether a character may stand in a host name. -/
def isNameChar (c : Char) : Bool :=
  c.isAlphanum || c == '-' || c == '_'

/-- Whether a text is a label. -/
def isLabel (cs : List Char) : Bool :=
  cs != [] && cs.length ≤ 63 && cs.all isNameChar

/-- The text without one point at its end. -/
def dropFinalPoint (cs : List Char) : List Char :=
  if cs.getLast? == some '.' then cs.dropLast else cs

/-- Whether a text is a host name; a point alone is the name of the root. -/
def isHostName (cs : List Char) : Bool :=
  let name := dropFinalPoint cs
  cs == ['.'] || name.length ≤ 253 && name.head? != some '-' && (pieces (· == '.') name).all isLabel

/-! ## Resolving -/

/-- The name every machine has for itself, in letters of either case. -/
def isOwn (name : String) : Bool :=
  name.toList.map Char.toLower == "localhost".toList

/-- The address of a port on the machine that a name stands for. -/
def resolve (name : String) (port : Nat) : Except IoError SocketAddress :=
  let cs := name.toList
  match IpAddress.parse? name with
  | some ip => .ok { ip, port }
  | none =>
    if cs.contains '\x00' then .error .zeroInName
    else
      match looseV4? cs, scoped? cs with
      | some bytes, _ => .ok { ip := .v4 bytes, port }
      | none, some (groups, scope) => .ok { ip := .v6 groups, scope, port }
      | none, none =>
        if isOwn name then .ok { ip := .v4 [127, 0, 0, 1], port }
        else .error (if isHostName cs then .unresolved else .unknownName)

end HostName

end RemoteDevice.Net
