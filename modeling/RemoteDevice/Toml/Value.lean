/-!
# Toml.Value — what a TOML text says

A value is a text, a number, a truth value, a date or time, a list of values, or a table of values
under keys. Fractions, dates and times are kept as they are written.
-/

namespace RemoteDevice.Toml

/-- A value. -/
inductive Value where
  | text (s : String)
  | integer (n : Int)
  | fraction (written : List Char)
  | truth (b : Bool)
  | moment (written : List Char)
  | list (items : List Value)
  | table (entries : List (String × Value))
deriving Repr

namespace Value

/-- The value under a key of a table. -/
def get? (key : String) : Value → Option Value
  | table entries => entries.lookup key
  | _ => none

/-- The text, if the value is one. -/
def text? : Value → Option String
  | text s => some s
  | _ => none

/-- The truth value, if the value is one. -/
def truth? : Value → Option Bool
  | truth b => some b
  | _ => none

/-- The items, if the value is a list. -/
def list? : Value → Option (List Value)
  | list items => some items
  | _ => none

end Value

end RemoteDevice.Toml
