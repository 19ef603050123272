import RemoteDevice.Text.Numeral

/-!
# Net.Address — internet addresses and their texts

An address of four bytes is written with points between the bytes; one of eight groups of sixteen
bits in hexadecimal with colons between them, where two colons together stand for a run of zero
groups, and the last two groups may be written like an address of four bytes. A socket address adds
a port. Printing shortens the longest run of at least two zero groups.
-/

namespace RemoteDevice.Net

open Text

/-- The address of a machine. -/
inductive IpAddress where
  | v4 (bytes : List Nat)
  | v6 (groups : List Nat)
deriving DecidableEq, Repr

/-- The address of a port on a machine; the scope of a local address is a number of its own. -/
structure SocketAddress where
  ip : IpAddress
  scope : Nat := 0
  port : Nat
deriving DecidableEq, Repr

/-! ## Kinds of addresses -/

/-- The groups of an address that has eight of them. -/
def IpAddress.groups : IpAddress → List Nat
  | .v4 _ => []
  | .v6 groups => groups

/-- Whether eight groups are good on one link only, and need a scope that says on which. -/
def isLinkLocal (groups : List Nat) : Bool :=
  0xfe80 ≤ groups.headD 0 && groups.headD 0 < 0xfec0

/-- Whether eight groups stand for many machines at once. -/
def isMulticast (groups : List Nat) : Bool :=
  0xff00 ≤ groups.headD 0

/-- Whether eight groups hold an address of four bytes. -/
def isMapped (groups : List Nat) : Bool :=
  groups.take 6 == [0, 0, 0, 0, 0, 0xffff]

/-- Whether an address stands for all addresses of the machine. -/
def IpAddress.isUnspecified : IpAddress → Bool
  | .v4 bytes => bytes.all (· == 0)
  | .v6 groups => groups.all (· == 0)

/-- Whether an address stands for the machine itself. -/
def IpAddress.isLoopback : IpAddress → Bool
  | .v4 bytes => bytes.head? == some 127
  | .v6 groups => groups == [0, 0, 0, 0, 0, 0, 0, 1]

/-! ## Reading

A reader takes what it can from the front of a text and gives the rest. -/

/-- The digits at the front, and the rest. -/
def spanDigits (radix : Nat) (cs : List Char) : List Char × List Char :=
  cs.span fun c => (digitValue? radix c).isSome

/-- A number below `limit` of at most `most` digits; without `padded`, zeros in front are
refused. -/
def readNumber (radix limit most : Nat) (padded : Bool) (cs : List Char) :
    Option (Nat × List Char) :=
  let (digits, rest) := spanDigits radix cs
  if digits = [] ∨ most < digits.length then none
  else if !padded && digits.head? == some '0' && digits.length ≠ 1 then none
  else (digitsBelow? radix limit 0 digits).map (·, rest)

/-- A given character. -/
def readMark (mark : Char) : List Char → Option (List Char)
  | c :: cs => if c = mark then some cs else none
  | [] => none

/-- An address of four bytes. -/
def readV4 (cs : List Char) : Option (List Nat × List Char) := do
  let (a, cs) ← readNumber 10 256 3 false cs
  let (b, cs) ← readNumber 10 256 3 false (← readMark '.' cs)
  let (c, cs) ← readNumber 10 256 3 false (← readMark '.' cs)
  let (d, cs) ← readNumber 10 256 3 false (← readMark '.' cs)
  some ([a, b, c, d], cs)

/-- The two groups that four bytes make. -/
def groupsOfV4 : List Nat → List Nat
  | [a, b, c, d] => [a * 256 + b, c * 256 + d]
  | _ => []

/-- Up to `room` groups. The first has no colon before it. Says whether the last two were written as
an address of four bytes, after which there are no more. -/
def readGroups (first : Bool) : (room : Nat) → List Char → List Nat × Bool × List Char
  | 0, cs => ([], false, cs)
  | room + 1, cs =>
    match if first then some cs else readMark ':' cs with
    | none => ([], false, cs)
    | some after =>
      match if room = 0 then none else readV4 after with
      | some (bytes, rest) => (groupsOfV4 bytes, true, rest)
      | none =>
        match readNumber 16 0x10000 4 true after with
        | none => ([], false, cs)
        | some (g, rest) =>
          let (gs, v4, rest) := readGroups false room rest
          (g :: gs, v4, rest)

/-- An address of eight groups. -/
def readV6 (cs : List Char) : Option (List Nat × List Char) :=
  let (front, v4, rest) := readGroups true 8 cs
  if front.length = 8 then some (front, rest)
  else if v4 then none
  else
    match rest with
    | ':' :: ':' :: rest =>
      let (back, _, rest) := readGroups true (7 - front.length) rest
      some (front ++ List.replicate (8 - front.length - back.length) 0 ++ back, rest)
    | _ => none

/-- The port behind a colon. -/
def readPort (cs : List Char) : Option (Nat × List Char) := do
  readNumber 10 0x10000 cs.length true (← readMark ':' cs)

/-- The scope behind a percent sign, zero if none stands there. -/
def readScope (cs : List Char) : Nat × List Char :=
  match readMark '%' cs with
  | none => (0, cs)
  | some rest => (readNumber 10 0x100000000 rest.length true rest).getD (0, cs)

/-- A socket address of either kind. -/
def readSocketAddress (cs : List Char) : Option (SocketAddress × List Char) :=
  match cs with
  | '[' :: cs => do
    let (groups, cs) ← readV6 cs
    let (scope, cs) := readScope cs
    let (port, cs) ← readPort (← readMark ']' cs)
    some (⟨.v6 groups, scope, port⟩, cs)
  | cs => do
    let (bytes, cs) ← readV4 cs
    let (port, cs) ← readPort cs
    some (⟨.v4 bytes, 0, port⟩, cs)

/-- The value of a reader that takes the whole text. -/
def whole {α : Type} : Option (α × List Char) → Option α
  | some (a, []) => some a
  | _ => none

/-- The socket address a text denotes. -/
def SocketAddress.parse? (s : String) : Option SocketAddress :=
  whole (readSocketAddress s.toList)

/-- The address a text denotes. -/
def IpAddress.parse? (s : String) : Option IpAddress :=
  match whole (readV4 s.toList) with
  | some bytes => some (.v4 bytes)
  | none => (whole (readV6 s.toList)).map .v6

/-! ## Printing -/

/-- Four bytes with points between them. -/
def formatV4 (bytes : List Nat) : String :=
  ".".intercalate (bytes.map toString)

/-- Groups in hexadecimal with colons between them. -/
def formatGroups (groups : List Nat) : String :=
  ":".intercalate (groups.map fun g => String.ofList (hexDigits g))

/-- How many zero groups stand at the front. -/
def zerosAtFront (groups : List Nat) : Nat :=
  (groups.takeWhile (· == 0)).length

/-- The place and the length of the first of the longest runs of zero groups. -/
def longestZeros (groups : List Nat) : Nat × Nat :=
  (List.range groups.length).foldl
    (fun best i =>
      let n := zerosAtFront (groups.drop i)
      if best.2 < n then (i, n) else best)
    (0, 0)

/-- Eight groups. -/
def formatV6 (groups : List Nat) : String :=
  match groups with
  | [0, 0, 0, 0, 0, 0xffff, a, b] =>
    "::ffff:" ++ formatV4 [a / 256, a % 256, b / 256, b % 256]
  | _ =>
    let (place, n) := longestZeros groups
    if n < 2 then formatGroups groups
    else formatGroups (groups.take place) ++ "::" ++ formatGroups (groups.drop (place + n))

/-- The text of a socket address. -/
def SocketAddress.format (a : SocketAddress) : String :=
  match a.ip with
  | .v4 bytes => s!"{formatV4 bytes}:{a.port}"
  | .v6 groups =>
    let scope := if a.scope = 0 then "" else s!"%{a.scope}"
    s!"[{formatV6 groups}{scope}]:{a.port}"

end RemoteDevice.Net
