import RemoteDevice.CommandLine.Arguments

/-!
# CommandLine.Report — what a failed program says

A failure has a text, and stems from other failures, the nearest first. A single cause stands on a
line of its own, several are numbered.
-/

namespace RemoteDevice.CommandLine

/-- A failure and the failures it stems from. -/
structure Failure where
  message : String
  causes : List String := []
deriving DecidableEq, Repr

namespace Failure

/-- The failure as the cause of another one. -/
def within (message : String) (f : Failure) : Failure :=
  ⟨message, f.message :: f.causes⟩

/-- All the texts, with colons between them. -/
def chain (f : Failure) : String :=
  ": ".intercalate (f.message :: f.causes)

/-- A text whose first line stands behind `first` and whose others stand behind `rest`. -/
def indent (first rest text : String) : String :=
  first ++ ("\n" ++ rest).intercalate (text.splitOn "\n")

/-- A cause with its number. -/
def numbered (cause : String) (i : Nat) : String :=
  let label := toString i
  indent (String.ofList (List.replicate (5 - label.length) ' ') ++ label ++ ": ") "       " cause

/-- What the program says. -/
def report (f : Failure) : String :=
  let head := "Error: " ++ f.message
  match f.causes with
  | [] => head ++ "\n"
  | [cause] => head ++ "\n\nCaused by:\n" ++ indent "    " "    " cause ++ "\n"
  | causes =>
    head ++ "\n\nCaused by:\n" ++
      "\n".intercalate (causes.zipIdx.map fun (c, i) => numbered c i)
      ++ "\n"

end Failure

/-- What a program comes to: its exit code and what it writes. -/
structure Exit where
  code : Nat := 0
  output : String := ""
  errors : String := ""
deriving DecidableEq, Repr

/-- A program that was not run because of its arguments. -/
def Exit.unused (u : Usage) (manual version : String) : Exit :=
  match u with
  | .help => { output := manual }
  | .version => { output := version }
  | u => { code := 2, errors := s!"error: {u.message}\n\n{manual}" }

/-- A program that failed. -/
def Exit.failed (f : Failure) : Exit :=
  { code := 1, errors := f.report }

end RemoteDevice.CommandLine
