import RemoteDevice.Transport.Basic
import RemoteDevice.Transport.Options

/-!
# Simulated.Scripted — a device that fails when told to

A script is a list of words between commas. A word may be followed by a colon and the number of
times it takes effect; otherwise it always does. The name of a call makes that call fail, with
`panic-` before it crash; `half` and `big` make a read report less or more than was asked for.
Where the word `nocreate` stands, whatever number follows it, the device itself is impossible.
-/

namespace RemoteDevice.Simulated

open Text

/-- A word of a script, and how often it still takes effect, if that is limited. -/
structure Word where
  text : List Char
  left : Option Nat := none
deriving DecidableEq, Repr

/-- The device. -/
structure Scripted where
  script : List Word
deriving DecidableEq, Repr

namespace Scripted

/-- The name of the kind. -/
def kind : String := "scripted"

/-- A word as it is written. -/
def parseWord (text : List Char) : Word :=
  match cutFirst? ':' text with
  | some (word, times) =>
    match numeral? 10 UInt32.size times with
    | some n => ⟨word, some n⟩
    | none => ⟨text, none⟩
  | none => ⟨text, none⟩

/-- Uses a word up once, if it takes effect. -/
def use (text : String) : List Word → Option (List Word)
  | [] => none
  | w :: ws =>
    if w.text = text.toList ∧ w.left ≠ some 0 then
      some ({ w with left := w.left.map (· - 1) } :: ws)
    else (use text ws).map (w :: ·)

/-- A device from its script. -/
def make (options : String) : Except Transport.Error Scripted :=
  let script := (pieces (· == ',') options.toList).map parseWord
  if script.any (·.text = "nocreate".toList) then .error (.malformed (.custom kind))
  else .ok ⟨script⟩

/-- What the script makes of a call. -/
def perform (call : String) (s : Scripted) : Outcome Unit × Scripted :=
  match use ("panic-" ++ call) s.script with
  | some script => (.error .crash, ⟨script⟩)
  | none =>
    match use call s.script with
    | some script => (.error (.error (.unsupported kind)), ⟨script⟩)
    | none => (.ok (), s)

/-- How many bytes a read reports that was asked for `length`. -/
def reported (length : Nat) (s : Scripted) : Nat × Scripted :=
  match use "half" s.script with
  | some script => (length / 2, ⟨script⟩)
  | none =>
    match use "big" s.script with
    | some script => (length + 3, ⟨script⟩)
    | none => (length, s)

/-- The bytes that stand in a buffer after a read: they count up from the control word. -/
def pattern (control : UInt32) (length : Nat) : Bytes :=
  (List.range length).map fun i => UInt8.ofNat (control.toNat + i)

/-- Reads as the script says. -/
def read (control : UInt32) (length : Nat) (s : Scripted) : Outcome Reading × Scripted :=
  match s.perform "read" with
  | (.error f, s) => (.error f, s)
  | (.ok _, s) =>
    let (count, s) := s.reported length
    (.ok ⟨count, (pattern control length).take count⟩, s)

/-- Writes as the script says. -/
def write (data : Bytes) (s : Scripted) : Outcome Nat × Scripted :=
  let (result, s) := s.perform "write"
  (result.map fun _ => data.length, s)

end Scripted

end RemoteDevice.Simulated
