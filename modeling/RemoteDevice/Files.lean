import RemoteDevice.Line
import RemoteDevice.Text.Split

/-!
# Files — the files of a machine

A path is a text of names with slashes between them. It starts at the root if a slash stands first,
and at the current directory if not; two points lead one directory up, and one point or nothing
stays. Every name but the last has to be one of a directory.
-/

namespace RemoteDevice

/-- What a path can lead to. -/
inductive File where
  | directory
  | data (contents : Bytes)
  | terminal
  /-- A file that cannot be opened. -/
  | closed (e : IoError)
deriving DecidableEq, Repr

/-- Files under the names that lead to them from the root, and the current directory. -/
structure Files where
  entries : List (List String × File) := []
  current : List String := []
deriving DecidableEq, Repr

namespace Files

/-- The most bytes of a name. -/
def maxName : Nat := 255

/-- The most bytes of a path. -/
def maxPath : Nat := 4095

/-- Goes on from a directory along names. -/
def walk (f : Files) (place : List String) : List String → Except IoError File
  | [] => .ok .directory
  | name :: rest =>
    if name = "" ∨ name = "." then f.walk place rest
    else if name = ".." then f.walk place.dropLast rest
    else if maxName < name.utf8ByteSize then .error .nameTooLong
    else
      match f.entries.lookup (place ++ [name]) with
      | none => .error .notFound
      | some .directory => f.walk (place ++ [name]) rest
      | some file => if rest = [] then .ok file else .error .notDirectory

/-- The names of a path. -/
def namesOf (path : String) : List String :=
  (Text.pieces (· == '/') path.toList).map String.ofList

/-- Where a path leads. -/
def find (path : String) (f : Files) : Except IoError File :=
  if path = "" then .error .notFound
  else if path.toList.contains '\x00' then .error .invalidArgument
  else if maxPath < path.utf8ByteSize then .error .nameTooLong
  else f.walk (if path.startsWith "/" then [] else f.current) (namesOf path)

/-- Whether a path leads anywhere. -/
def contains (path : String) (f : Files) : Bool :=
  (f.find path).isOk

/-- Reads a file. -/
def read (path : String) (f : Files) : Except IoError Bytes :=
  match f.find path with
  | .ok .directory => .error .isDirectory
  | .ok (.data contents) => .ok contents
  | .ok .terminal => .error .wouldBlock
  | .ok (.closed e) => .error e
  | .error e => .error e

/-- Opens a terminal, on which nothing waits. -/
def openTerminal (path : String) (f : Files) : Except IoError Line :=
  match f.find path with
  | .ok .directory => .error .isDirectory
  | .ok (.data _) => .error .notTerminal
  | .ok .terminal => .ok {}
  | .ok (.closed e) => .error e
  | .error e => .error e

end Files

end RemoteDevice
