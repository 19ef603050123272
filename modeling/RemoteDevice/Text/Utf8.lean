/-!
# Text.Utf8 — reading bytes as text

Any byte string reads as a text: valid sequences give their characters, and each longest prefix of a
sequence that can no longer become valid gives one replacement character.
-/

namespace RemoteDevice.Text

/-- The character that stands for unreadable bytes. -/
def replacement : Char := Char.ofNat 0xfffd

/-- The bytes a sequence beginning with `b` goes on for, and the range its second byte lies in. -/
def sequence? (b : UInt8) : Option (Nat × Nat × Nat) :=
  let n := b.toNat
  if 0xc2 ≤ n ∧ n ≤ 0xdf then some (1, 0x80, 0xbf)
  else if n = 0xe0 then some (2, 0xa0, 0xbf)
  else if n = 0xed then some (2, 0x80, 0x9f)
  else if 0xe1 ≤ n ∧ n ≤ 0xef then some (2, 0x80, 0xbf)
  else if n = 0xf0 then some (3, 0x90, 0xbf)
  else if 0xf1 ≤ n ∧ n ≤ 0xf3 then some (3, 0x80, 0xbf)
  else if n = 0xf4 then some (3, 0x80, 0x8f)
  else none

/-- How many of the next `n` bytes continue a sequence; the first of them lies in `lo … hi`. -/
def continuing (lo hi : Nat) : Nat → List UInt8 → Nat
  | 0, _ => 0
  | _, [] => 0
  | n + 1, b :: bytes =>
    if lo ≤ b.toNat ∧ b.toNat ≤ hi then 1 + continuing 0x80 0xbf n bytes else 0

/-- The bits of a sequence put together, six from each byte after the first. -/
def codePoint (lead : Nat) (bytes : List UInt8) : Nat :=
  bytes.foldl (fun value b => value * 64 + b.toNat % 64) lead

/-- The bits the first byte of a sequence of `n` more bytes carries. -/
def leadBits (b : UInt8) : Nat → Nat
  | 1 => b.toNat % 32
  | 2 => b.toNat % 16
  | _ => b.toNat % 8

/-- Reads bytes as text; `none` marks a run of unreadable bytes. -/
def decode (bytes : List UInt8) : List (Option Char) :=
  match bytes with
  | [] => []
  | b :: rest =>
    if b.toNat < 0x80 then some (Char.ofNat b.toNat) :: decode rest
    else
      match sequence? b with
      | none => none :: decode rest
      | some (n, lo, hi) =>
        let found := continuing lo hi n rest
        let item :=
          if found = n then some (Char.ofNat (codePoint (leadBits b n) (rest.take n))) else none
        item :: decode (rest.drop found)
termination_by bytes.length
decreasing_by all_goals simp only [List.length_cons, List.length_drop]; omega

/-- The text of any byte string, with a replacement character for each unreadable run. -/
def decodeLossy (bytes : List UInt8) : String :=
  String.ofList ((decode bytes).map (·.getD replacement))

/-- The text of a byte string that holds nothing unreadable. -/
def decode? (bytes : List UInt8) : Option String :=
  ((decode bytes).mapM id).map String.ofList

/-- The bytes of a text. -/
def encode (s : String) : List UInt8 :=
  s.toUTF8.toList

end RemoteDevice.Text
