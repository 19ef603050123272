/-!
# Text.Numeral — unsigned numerals in a radix

A numeral is an optional plus sign and at least one digit of the radix, letters in either case; its
value lies below a limit. Printing is in lower case without padding, or in two hexadecimal digits
for a byte.
-/

namespace RemoteDevice.Text

/-- The value of a digit of the radix, which is at most 36. -/
def digitValue? (radix : Nat) (c : Char) : Option Nat :=
  let n := c.toNat
  let value :=
    if 48 ≤ n ∧ n ≤ 57 then n - 48
    else if 97 ≤ n ∧ n ≤ 122 then n - 87
    else if 65 ≤ n ∧ n ≤ 90 then n - 55
    else radix
  if value < radix then some value else none

/-- Reads on from `value` to the end of the digits. -/
def digitsValue? (radix : Nat) (value : Nat) : List Char → Option Nat
  | [] => some value
  | c :: cs =>
    match digitValue? radix c with
    | some d => digitsValue? radix (value * radix + d) cs
    | none => none

/-- Reads on from `value` to the end of the digits while the value stays below the limit. -/
def digitsBelow? (radix limit : Nat) (value : Nat) : List Char → Option Nat
  | [] => if value < limit then some value else none
  | c :: cs =>
    if value < limit then
      match digitValue? radix c with
      | some d => digitsBelow? radix limit (value * radix + d) cs
      | none => none
    else none

theorem digitValue?_lt {radix d : Nat} {c : Char} (h : digitValue? radix c = some d) :
    d < radix := by
  simp only [digitValue?, Option.ite_none_right_eq_some, Option.some.injEq] at h
  rcases h with ⟨hlt, rfl⟩
  exact hlt

theorem le_of_digitsValue? {radix value n : Nat} {cs : List Char}
    (h : digitsValue? radix value cs = some n) : value ≤ n := by
  induction cs generalizing value with
  | nil => exact Nat.le_of_eq (Option.some.inj h)
  | cons c cs ih =>
    rw [digitsValue?] at h
    split at h
    · next d hd =>
      have hpos : 1 ≤ radix := Nat.lt_of_le_of_lt (Nat.zero_le d) (digitValue?_lt hd)
      have hmul : value ≤ value * radix := Nat.le_mul_of_pos_right value hpos
      have := ih h
      omega
    · simp at h

/-- The early end changes nothing: digits only ever add to the value. -/
theorem digitsBelow?_eq (radix limit value : Nat) (cs : List Char) :
    digitsBelow? radix limit value cs =
      (digitsValue? radix value cs).filter (· < limit) := by
  induction cs generalizing value with
  | nil => simp [digitsBelow?, digitsValue?, Option.filter]
  | cons c cs ih =>
    rw [digitsBelow?]
    by_cases hv : value < limit
    · rw [if_pos hv, digitsValue?]
      split
      · exact ih _
      · rfl
    · rw [if_neg hv]
      cases h : digitsValue? radix value (c :: cs) with
      | none => rfl
      | some n =>
        have := le_of_digitsValue? h
        simp only [Option.filter, decide_eq_true_eq]
        rw [if_neg (by omega)]

/-- The text without one leading plus sign. -/
def dropPlus : List Char → List Char
  | '+' :: cs => cs
  | cs => cs

/-- The value of a numeral, if it is one and its value is below the limit. -/
def numeral? (radix limit : Nat) (cs : List Char) : Option Nat :=
  match dropPlus cs with
  | [] => none
  | digits => digitsBelow? radix limit 0 digits

/-- The digits of a number and their radix: 16 after `0x`, 8 after another zero, 10 otherwise. -/
def numberParts : List Char → List Char × Nat
  | '0' :: 'x' :: digits => (digits, 16)
  | '0' :: 'X' :: digits => (digits, 16)
  | '0' :: c :: digits => (c :: digits, 8)
  | digits => (digits, 10)

/-- A digit below 16 in lower case. -/
def hexDigit (n : Nat) : Char :=
  if n < 10 then Char.ofNat (48 + n) else Char.ofNat (87 + n)

/-- The digits of a number in hexadecimal. -/
def hexDigits (n : Nat) : List Char :=
  Nat.toDigits 16 n

/-- A number in hexadecimal with its mark, as in `0x7ff`. -/
def hexMarked (n : Nat) : String :=
  "0x" ++ String.ofList (hexDigits n)

/-- A byte in two digits. -/
def hexByte (b : UInt8) : List Char :=
  [hexDigit (b.toNat / 16), hexDigit (b.toNat % 16)]

/-- Bytes in two digits each, with nothing between them. -/
def hexBytes (bytes : List UInt8) : String :=
  String.ofList (bytes.flatMap hexByte)

end RemoteDevice.Text
