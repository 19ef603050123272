import RemoteDevice.Toml.Number
import RemoteDevice.Toml.Quoted
import RemoteDevice.Toml.Tree

/-!
# Toml.Document — reading a TOML text

A text is a sequence of lines: keys with values, headers of tables and of lists of tables, and lines
with nothing on them. Lists run over lines as they like, tables in braces stay on theirs. Lists and
tables nest less than eighty deep, and a key has fewer than eighty parts.
-/

namespace RemoteDevice.Toml

/-- The bound on nesting. -/
def maxDepth : Nat := 80

/-! ## Keys -/

/-- What a key without quotes is made of. -/
def isBare (c : Char) : Bool :=
  c.isAlphanum || c == '_' || c == '-'

/-- One part of a key. -/
def readPart (cs : List Char) : Option (String × List Char) :=
  match cs with
  | '"' :: _ | '\'' :: _ => readLine cs
  | cs =>
    let part := cs.takeWhile isBare
    if part = [] then none else some (.ofList part, cs.drop part.length)

/-- At most `room` parts of a key with points between them. -/
def readParts : (room : Nat) → List Char → Option (List String × List Char)
  | 0, _ => none
  | room + 1, cs => do
    let (part, cs) ← readPart (skipBlanks cs)
    match skipBlanks cs with
    | '.' :: cs =>
      let (parts, cs) ← readParts room cs
      some (part :: parts, cs)
    | cs => some ([part], cs)

/-- A key. -/
def readKey (cs : List Char) : Option (List String × List Char) :=
  readParts (maxDepth - 1) cs

/-! ## Values -/

/-- The items up to the closing bracket, behind one that is read already or at the beginning. There
are at most `room` of them. -/
def readItems (item : Reader Value) : (room : Nat) → List Char → Option (List Value × List Char)
  | 0, _ => none
  | room + 1, cs =>
    match skipLines cs with
    | ']' :: rest => some ([], rest)
    | cs => do
      let (v, cs) ← item cs
      match skipLines cs with
      | ',' :: rest =>
        let (vs, rest) ← readItems item room rest
        some (v :: vs, rest)
      | ']' :: rest => some ([v], rest)
      | _ => none

/-- A key and its value. -/
def readPair (item : Reader Value) (cs : List Char) :
    Option ((List String × Value) × List Char) := do
  let (keys, cs) ← readKey cs
  match cs with
  | '=' :: cs =>
    let (v, cs) ← item (skipBlanks cs)
    some ((keys, v), cs)
  | _ => none

/-- The entries of a table in braces, up to the closing one; `entries` are those read before. There
are at most `room` of them. -/
def readEntries (item : Reader Value) : (room : Nat) → Entries → List Char →
    Option (Entries × List Char)
  | 0, _, _ => none
  | room + 1, entries, cs => do
    let ((keys, v), cs) ← readPair item cs
    let entries ← assign keys v entries
    match skipBlanks cs with
    | ',' :: rest => readEntries item room entries rest
    | '}' :: rest => some (entries, rest)
    | _ => none

/-- A table in braces with at most `room` entries, behind the opening one. -/
def readBraces (item : Reader Value) (room : Nat) (cs : List Char) : Option (Value × List Char) :=
  match skipBlanks cs with
  | '}' :: rest => some (.table [], rest)
  | cs => (readEntries item room [] cs).map fun (entries, rest) => (.table (valuesOf entries), rest)

/-- A value in which lists and tables nest at most `depth` deep, each with at most `room` items. -/
def readValue (room depth : Nat) (cs : List Char) : Option (Value × List Char) :=
  match depth, cs with
  | _, '"' :: _ | _, '\'' :: _ => (readText cs).map fun (s, rest) => (.text s, rest)
  | _, 't' :: 'r' :: 'u' :: 'e' :: rest => some (.truth true, rest)
  | _, 'f' :: 'a' :: 'l' :: 's' :: 'e' :: rest => some (.truth false, rest)
  | depth + 1, '[' :: rest =>
    (readItems (readValue room depth) room rest).map fun (vs, rest) => (.list vs, rest)
  | depth + 1, '{' :: rest => readBraces (readValue room depth) room rest
  | _, cs => readNumber cs

/-! ## Lines -/

/-- What has been read: the tree, and the header of the table that values go to. -/
structure Draft where
  header : List String := []
  entries : Entries := []

/-- A header behind its opening brackets. -/
def readHeader (closing : List Char) (cs : List Char) : Option (List String × List Char) := do
  let (keys, cs) ← readKey cs
  if closing.isPrefixOf cs then some (keys, ← lineEnd? (cs.drop closing.length)) else none

/-- A line, without blanks at its front, of a text of `size` characters. -/
def readDraft (size : Nat) (d : Draft) (cs : List Char) : Option (Draft × List Char) :=
  match cs with
  | '[' :: '[' :: rest => do
    let (keys, rest) ← readHeader [']', ']'] rest
    some (⟨keys, ← beginItem keys d.entries⟩, rest)
  | '[' :: rest => do
    let (keys, rest) ← readHeader [']'] rest
    some (⟨keys, ← beginTable keys d.entries⟩, rest)
  | cs =>
    match lineEnd? cs with
    | some rest => some (d, rest)
    | none => do
      let ((keys, v), rest) ← readPair (readValue size (maxDepth - 1)) cs
      let rest ← lineEnd? rest
      some ({ d with entries := ← assignIn d.header keys v d.entries }, rest)

/-- At most `room` lines of a text of `size` characters. -/
def readLines (size : Nat) : (room : Nat) → Draft → List Char → Option Draft
  | _, d, [] => some d
  | 0, _, _ => none
  | room + 1, d, cs =>
    match skipBlanks cs with
    | [] => some d
    | cs => do
      let (d, rest) ← readDraft size d cs
      readLines size room d rest

/-- The text without the mark that may stand at the beginning of a file. -/
def skipMark : List Char → List Char
  | c :: cs => if c = Char.ofNat 0xfeff then cs else c :: cs
  | [] => []

/-- The table that a text denotes. -/
def parse? (s : String) : Option Value :=
  let cs := skipMark s.toList
  (readLines cs.length cs.length {} cs).map fun d => .table (valuesOf d.entries)

end RemoteDevice.Toml
