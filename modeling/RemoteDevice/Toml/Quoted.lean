import RemoteDevice.Text.Numeral
import RemoteDevice.Toml.Blank

/-!
# Toml.Quoted — texts in quotes

A basic text stands in double quotes and knows escapes, a literal one stands in single quotes and
knows none. Either may run over several lines between three quotes; then an end of line at its front
does not count, every other one is a line feed, and up to two quotes may stand anywhere, also before
the closing three. In a basic text a backslash at the end of a line joins it with the next one that
is not blank.
-/

namespace RemoteDevice.Toml

open Text

/-- How a text is written. -/
structure Style where
  quote : Char
  escapes : Bool
  multiline : Bool
deriving DecidableEq, Repr

/-- The character whose number stands in hexadecimal. -/
def numbered? (digits : List Char) : Option Char :=
  match digitsValue? 16 0 digits with
  | some n => if n.isValidChar then some (Char.ofNat n) else none
  | none => none

/-- The character that a letter stands for behind a backslash. -/
def escaped? : Char → Option Char
  | 'b' => some '\x08'
  | 't' => some '\t'
  | 'n' => some '\n'
  | 'f' => some '\x0c'
  | 'r' => some '\r'
  | '"' => some '"'
  | '\\' => some '\\'
  | _ => none

/-- What stands behind a backslash, if it is a character. -/
def readEscape : Reader Char
  | 'u' :: a :: b :: c :: d :: cs => (numbered? [a, b, c, d]).map (·, cs)
  | 'U' :: a :: b :: c :: d :: e :: f :: g :: h :: cs =>
    (numbered? [a, b, c, d, e, f, g, h]).map (·, cs)
  | c :: cs => (escaped? c).map (·, cs)
  | [] => none

theorem length_readEscape {cs rest : List Char} {c : Char} (h : readEscape cs = some (c, rest)) :
    rest.length < cs.length := by
  unfold readEscape at h
  split at h
  · rcases Option.map_eq_some_iff.1 h with ⟨_, _, heq⟩
    rcases Prod.mk.inj heq with ⟨_, rfl⟩
    simp only [List.length_cons]
    omega
  · rcases Option.map_eq_some_iff.1 h with ⟨_, _, heq⟩
    rcases Prod.mk.inj heq with ⟨_, rfl⟩
    simp only [List.length_cons]
    omega
  · rcases Option.map_eq_some_iff.1 h with ⟨_, _, heq⟩
    rcases Prod.mk.inj heq with ⟨_, rfl⟩
    simp
  · simp at h

/-- The next line that is not blank, behind a backslash that is the last character of its line. -/
def joinLines? (cs : List Char) : Option (List Char) :=
  (newline? (skipBlanks cs)).map skipBlankLines

theorem length_joinLines? {cs rest : List Char} (h : joinLines? cs = some rest) :
    rest.length < cs.length := by
  rcases Option.map_eq_some_iff.1 h with ⟨line, hl, rfl⟩
  have h₁ := length_newline? hl
  have h₂ := length_skipBlanks cs
  have h₃ := length_skipBlankLines line
  omega

/-- The text between the quotes that have been opened, and what follows the closing ones. -/
def readQuoted (style : Style) (cs : List Char) : Option (List Char × List Char) :=
  match cs with
  | [] => none
  | c :: rest =>
    if c = style.quote then
      let count := (rest.takeWhile (· == style.quote)).length + 1
      if !style.multiline then some ([], rest)
      else if 5 < count then none
      else if 3 ≤ count then
        some (List.replicate (count - 3) c, rest.drop (count - 1))
      else (readQuoted style rest).map fun (text, rest) => (c :: text, rest)
    else if c = '\\' ∧ style.escapes then
      match _h : readEscape rest with
      | some (c, rest) => (readQuoted style rest).map fun (text, rest) => (c :: text, rest)
      | none =>
        match _h' : if style.multiline then joinLines? rest else none with
        | some rest => readQuoted style rest
        | none => none
    else
      match _h : if style.multiline then newline? (c :: rest) else none with
      | some rest => (readQuoted style rest).map fun (text, rest) => ('\n' :: text, rest)
      | none =>
        if isPlain c then (readQuoted style rest).map fun (text, rest) => (c :: text, rest)
        else none
termination_by cs.length
decreasing_by
  · simp
  · have := length_readEscape _h
    simp only [List.length_cons]
    omega
  · split at _h'
    · have := length_joinLines? _h'
      simp only [List.length_cons]
      omega
    · simp at _h'
  · split at _h
    · exact length_newline? _h
    · simp at _h
  · simp

/-- A text in quotes on one line. -/
def readLine : Reader String
  | '"' :: cs => (readQuoted ⟨'"', true, false⟩ cs).map fun (text, rest) => (.ofList text, rest)
  | '\'' :: cs => (readQuoted ⟨'\'', false, false⟩ cs).map fun (text, rest) => (.ofList text, rest)
  | _ => none

/-- The text behind an end of line, if one is there. -/
def skipNewline (cs : List Char) : List Char :=
  (newline? cs).getD cs

/-- A text in quotes of any style. -/
def readText : Reader String
  | '"' :: '"' :: '"' :: cs =>
    (readQuoted ⟨'"', true, true⟩ (skipNewline cs)).map fun (text, rest) => (.ofList text, rest)
  | '\'' :: '\'' :: '\'' :: cs =>
    (readQuoted ⟨'\'', false, true⟩ (skipNewline cs)).map fun (text, rest) => (.ofList text, rest)
  | cs => readLine cs

end RemoteDevice.Toml
