import RemoteDevice.Text.Numeral
import RemoteDevice.Toml.Blank
import RemoteDevice.Toml.Value

/-!
# Toml.Number — numbers, dates and times

Whole numbers have 64 bits with a sign; those in decimal may carry a sign and have no leading zero,
those in hexadecimal, octal and binary carry a mark instead. Underscores may stand between digits. A
fraction has a fractional part, an exponent or both, and is refused where it exceeds the largest one
of double precision. Dates and times are those of the calendar; seconds go up to sixty.
-/

namespace RemoteDevice.Toml

open Text

/-! ## Digits -/

/-- Digits of a radix with single underscores between them, and what follows. -/
def readDigits (radix : Nat) : List Char → List Char × List Char
  | '_' :: c :: cs =>
    if (digitValue? radix c).isSome then
      let (digits, rest) := readDigits radix cs
      (c :: digits, rest)
    else ([], '_' :: c :: cs)
  | c :: cs =>
    if (digitValue? radix c).isSome then
      let (digits, rest) := readDigits radix cs
      (c :: digits, rest)
    else ([], c :: cs)
  | [] => ([], [])

/-- A digit, and those behind it. -/
def readGroup (radix : Nat) : Reader (List Char)
  | c :: cs =>
    if (digitValue? radix c).isSome then
      let (digits, rest) := readDigits radix cs
      some (c :: digits, rest)
    else none
  | [] => none

/-- A sign, if one is there: whether it is a minus. -/
def readSign : List Char → Bool × List Char
  | '+' :: cs => (false, cs)
  | '-' :: cs => (true, cs)
  | cs => (false, cs)

/-- Digits in decimal without leading zeros. -/
def readWhole : Reader (List Char)
  | '0' :: cs => some (['0'], cs)
  | cs => readGroup 10 cs

/-! ## Whole numbers -/

/-- One more than the largest whole number. -/
def integerLimit : Nat := 1 <<< 63

/-- A whole number behind its mark. -/
def readMarked (radix : Nat) (cs : List Char) : Option (Value × List Char) := do
  let (digits, rest) ← readGroup radix cs
  let n ← digitsBelow? radix integerLimit 0 digits
  some (.integer n, rest)

/-- A whole number. -/
def readInteger : Reader Value
  | '0' :: 'x' :: cs => readMarked 16 cs
  | '0' :: 'o' :: cs => readMarked 8 cs
  | '0' :: 'b' :: cs => readMarked 2 cs
  | cs => do
    let (negative, cs) := readSign cs
    let (digits, rest) ← readWhole cs
    if negative then
      let n ← digitsBelow? 10 (integerLimit + 1) 0 digits
      some (.integer (-n), rest)
    else
      let n ← digitsBelow? 10 integerLimit 0 digits
      some (.integer n, rest)

/-! ## Fractions -/

/-- The least magnitude that rounds to no number of double precision. -/
def fractionLimit : Nat := 1 <<< 1024 - 1 <<< 970

/-- How many digits the limit has in decimal. -/
def limitPlaces : Nat := 309

/-- Whether digits, shifted by a power of ten, reach the limit. As that is a whole number, only the
digits before the point matter. -/
def exceeds (digits : List Char) (shift : Int) : Bool :=
  let digits := digits.dropWhile (· == '0')
  let places := digits.length + shift
  if digits.isEmpty || places < limitPlaces then false
  else if limitPlaces < places then true
  else
    let whole := digits.take limitPlaces
    let padded := whole ++ List.replicate (limitPlaces - whole.length) '0'
    (digitsBelow? 10 fractionLimit 0 padded).isNone

/-- The digits behind a point. -/
def readPoint : Reader (List Char)
  | '.' :: cs => readGroup 10 cs
  | _ => none

/-- An exponent. A magnitude beyond the bound counts as the bound. -/
def readExponent (bound : Nat) : Reader Int
  | c :: cs =>
    if c = 'e' ∨ c = 'E' then do
      let (negative, cs) := readSign cs
      let (digits, rest) ← readGroup 10 cs
      let n : Int := (digitsBelow? 10 bound 0 digits).getD bound
      some (if negative then -n else n, rest)
    else none
  | [] => none

/-- The bound for the exponent behind some digits: no more is needed to carry them past the limit,
and no less to carry them below one. -/
def exponentBound (digits : List Char) : Nat :=
  digits.length + limitPlaces + 1

/-- The text behind a fraction in digits. -/
def skipFinite (cs : List Char) : Option (List Char) := do
  let (negative, cs) := readSign cs
  let (whole, cs) ← readWhole cs
  let (digits, exponent, rest) ←
    match readPoint cs with
    | some (digits, cs) =>
      match readExponent (exponentBound (whole ++ digits)) cs with
      | some (exponent, rest) => some (digits, exponent, rest)
      | none => some (digits, 0, cs)
    | none =>
      (readExponent (exponentBound whole) cs).map fun (exponent, rest) => ([], exponent, rest)
  if !negative && exceeds (whole ++ digits) (exponent - digits.length) then none else some rest

/-- The text behind infinity, or behind what is no number. -/
def skipSpecial (cs : List Char) : Option (List Char) :=
  match (readSign cs).2 with
  | 'i' :: 'n' :: 'f' :: rest => some rest
  | 'n' :: 'a' :: 'n' :: rest => some rest
  | _ => none

/-! ## Dates and times -/

/-- A number of exactly `count` digits that lies between two bounds. -/
def readFixed (count low high : Nat) (cs : List Char) : Option (Nat × List Char) :=
  match numeralOf (cs.take count) with
  | some n =>
    if (cs.take count).length = count ∧ low ≤ n ∧ n ≤ high then some (n, cs.drop count) else none
  | none => none
where
  numeralOf (digits : List Char) : Option Nat := digitsValue? 10 0 digits

/-- The text behind a given character. -/
def readMark (mark : Char) : List Char → Option (List Char)
  | c :: cs => if c = mark then some cs else none
  | [] => none

/-- The last day of a month. -/
def lastDay (year month : Nat) : Nat :=
  let leap := year % 4 = 0 ∧ (year % 100 ≠ 0 ∨ year % 400 = 0)
  if month = 2 then (if leap then 29 else 28)
  else if month ∈ [4, 6, 9, 11] then 30
  else 31

/-- The text behind a date. -/
def skipDate (cs : List Char) : Option (List Char) := do
  let (year, cs) ← readFixed 4 0 9999 cs
  let (month, cs) ← readFixed 2 1 12 (← readMark '-' cs)
  let (_, cs) ← readFixed 2 1 (lastDay year month) (← readMark '-' cs)
  some cs

/-- The text behind the fraction of a second, if one is there. -/
def skipFraction (cs : List Char) : Option (List Char) :=
  match cs with
  | '.' :: rest =>
    let digits := rest.takeWhile Char.isDigit
    if digits = [] then none else some (rest.drop digits.length)
  | cs => some cs

/-- The text behind a time of day. -/
def skipTime (cs : List Char) : Option (List Char) := do
  let (_, cs) ← readFixed 2 0 23 cs
  let (_, cs) ← readFixed 2 0 59 (← readMark ':' cs)
  let (_, cs) ← readFixed 2 0 60 (← readMark ':' cs)
  skipFraction cs

/-- The text behind the distance from universal time, if one is there. -/
def skipOffset (cs : List Char) : Option (List Char) :=
  match cs with
  | 'Z' :: rest | 'z' :: rest => some rest
  | '+' :: rest | '-' :: rest => do
    let (_, rest) ← readFixed 2 0 23 rest
    let (_, rest) ← readFixed 2 0 59 (← readMark ':' rest)
    some rest
  | cs => some cs

/-- The text behind a date with or without a time, or behind a time. -/
def skipMoment (cs : List Char) : Option (List Char) :=
  match skipDate cs with
  | none => skipTime cs
  | some rest =>
    match rest with
    | c :: after =>
      if c = 'T' ∨ c = 't' ∨ c = ' ' then
        match skipTime after with
        | some rest => skipOffset rest
        | none => some rest
      else some rest
    | [] => some []

/-! ## Values -/

/-- What numbers, dates and times are made of. -/
def isMark (c : Char) : Bool :=
  c.isAlphanum || c == '+' || c == '-' || c == '.' || c == '_' || c == ':'

/-- What may be a number, a date or a time at the front of a text, and what follows. A space may
stand between a date and a time. -/
def spanNumber (cs : List Char) : List Char × List Char :=
  let (written, rest) := cs.span isMark
  match rest with
  | ' ' :: c :: more =>
    if skipDate written == some [] && c.isDigit then
      let (time, rest) := (c :: more).span isMark
      (written ++ ' ' :: time, rest)
    else (written, rest)
  | _ => (written, rest)

/-- The number, date or time that is written there. -/
def number? (written : List Char) : Option Value :=
  if skipMoment written == some [] then some (.moment written)
  else if skipFinite written == some [] || skipSpecial written == some [] then
    some (.fraction written)
  else
    match readInteger written with
    | some (v, []) => some v
    | _ => none

/-- A number, a date or a time. -/
def readNumber (cs : List Char) : Option (Value × List Char) :=
  let (written, rest) := spanNumber cs
  (number? written).map (·, rest)

end RemoteDevice.Toml
