/-!
# Toml.Blank — what stands between the parts of a TOML text

Blanks, ends of lines and comments. A reader of a part takes it from the front of a text and gives
the rest; where the part is not there it gives nothing.
-/

namespace RemoteDevice.Toml

/-- A reader of a part of a text. -/
abbrev Reader (α : Type) := List Char → Option (α × List Char)

/-- Spaces and tabs. -/
def isBlank (c : Char) : Bool :=
  c == ' ' || c == '\t'

/-- The text behind the blanks at its front. -/
def skipBlanks (cs : List Char) : List Char :=
  cs.dropWhile isBlank

/-- What may stand in a comment: tabs, and all that is no control character. -/
def isPlain (c : Char) : Bool :=
  c == '\t' || (0x20 ≤ c.toNat && c.toNat ≤ 0x7e) || 0x80 ≤ c.toNat

/-- The text behind the end of a line. -/
def newline? : List Char → Option (List Char)
  | '\n' :: cs => some cs
  | '\r' :: '\n' :: cs => some cs
  | _ => none

/-- The text behind a comment, if one is there. -/
def skipComment : List Char → List Char
  | '#' :: cs => cs.dropWhile isPlain
  | cs => cs

/-- The text behind the rest of a line that holds nothing more; the last line may lack its end. -/
def lineEnd? (cs : List Char) : Option (List Char) :=
  match skipComment (skipBlanks cs) with
  | [] => some []
  | cs => newline? cs

theorem length_newline? {cs rest : List Char} (h : newline? cs = some rest) :
    rest.length < cs.length := by
  unfold newline? at h
  split at h
  · rcases Option.some.inj h with rfl
    simp
  · rcases Option.some.inj h with rfl
    simp only [List.length_cons]
    omega
  · simp at h

theorem length_skipBlanks (cs : List Char) : (skipBlanks cs).length ≤ cs.length :=
  (List.dropWhile_sublist _).length_le

theorem length_skipComment (cs : List Char) : (skipComment cs).length ≤ cs.length := by
  unfold skipComment
  split
  · have := (List.dropWhile_sublist isPlain (l := ‹List Char›)).length_le
    simp only [List.length_cons]
    omega
  · exact Nat.le_refl _

/-- The text behind blanks and ends of lines. -/
def skipBlankLines (cs : List Char) : List Char :=
  match _h : newline? (skipBlanks cs) with
  | some rest => skipBlankLines rest
  | none => skipBlanks cs
termination_by cs.length
decreasing_by
  have h₁ := length_newline? _h
  have h₂ := length_skipBlanks cs
  omega

theorem length_skipBlankLines (cs : List Char) : (skipBlankLines cs).length ≤ cs.length := by
  fun_induction skipBlankLines cs with
  | case1 cs rest h ih =>
    have h₁ := length_newline? h
    have h₂ := length_skipBlanks cs
    omega
  | case2 cs _ => exact length_skipBlanks cs

/-- The text behind blanks, ends of lines, and comments that end with their line. -/
def skipLines (cs : List Char) : List Char :=
  match _h : newline? (skipComment (skipBlanks cs)) with
  | some rest => skipLines rest
  | none => skipBlanks cs
termination_by cs.length
decreasing_by
  have h₁ := length_newline? _h
  have h₂ := length_skipComment (skipBlanks cs)
  have h₃ := length_skipBlanks cs
  omega

end RemoteDevice.Toml
