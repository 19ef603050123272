import RemoteDevice.Toml.Value

/-!
# Toml.Tree — tables while they are being written down

Keys with points in them and headers name places in a tree of tables. Where they lead through tables
that are not there yet, these are made on the way; how a table came about decides who may add to it
later. No place is ever given two values.
-/

namespace RemoteDevice.Toml

/-- How a table came about. -/
inductive Origin where
  /-- It has a header of its own. -/
  | header
  /-- The header of a table inside it led through it. -/
  | passed
  /-- A key with points in it led through it. -/
  | dotted
deriving DecidableEq, Repr

/-- What stands at a place: a whole value, a table that may be added to, or a list of tables, the
latest of which may be; those before it are in reverse order. -/
inductive Node where
  | whole (v : Value)
  | table (origin : Origin) (entries : List (String × Node))
  | tables (latest : List (String × Node)) (earlier : List (List (String × Node)))

/-- The entries of a table. -/
abbrev Entries := List (String × Node)

/-- What a path does that leads through a table that is not there yet, and whether it may lead
through one with a header. -/
def Origin.admits (path : Origin) (table : Origin) : Bool :=
  path != .dotted || table != .header

/-- The entries with a node at a key. -/
def put (key : String) (node : Node) : Entries → Entries
  | [] => [(key, node)]
  | (k, old) :: rest => if k = key then (key, node) :: rest else (k, old) :: put key node rest

/-- Changes the table at the end of a path; `origin` is that of the table at its beginning, `made`
that of the tables the path makes. The change may depend on how the table came about. -/
def change (made : Origin) (f : Origin → Entries → Option Entries) :
    (path : List String) → (origin : Origin) → Entries → Option Entries
  | [], origin, entries => f origin entries
  | key :: path, _, entries =>
    match entries.lookup key with
    | none =>
      (change made f path made []).map fun inner => put key (.table made inner) entries
    | some (.whole _) => none
    | some (.table origin inner) =>
      if made.admits origin then
        (change made f path origin inner).map fun inner => put key (.table origin inner) entries
      else none
    | some (.tables latest earlier) =>
      (change made f path .header latest).map fun latest =>
        put key (.tables latest earlier) entries

/-- A path and the key at its end. -/
def splitPath (keys : List String) : List String × String :=
  (keys.dropLast, keys.getLast?.getD "")

/-- Gives a value to a key of a table. A key with points in it ends in a table that such
keys made. -/
def assign (keys : List String) (v : Value) (entries : Entries) : Option Entries :=
  let (path, key) := splitPath keys
  change .dotted
    (fun origin entries =>
      if (origin = .dotted) ≠ (path ≠ []) ∨ (entries.lookup key).isSome then none
      else some (put key (.whole v) entries))
    path .header entries

/-- Begins the table of a header. It may have been passed before, but not begun. -/
def beginTable (keys : List String) (entries : Entries) : Option Entries :=
  let (path, key) := splitPath keys
  change .passed
    (fun _ entries =>
      match entries.lookup key with
      | none => some (put key (.table .header []) entries)
      | some (.table .passed inner) => some (put key (.table .header inner) entries)
      | some _ => none)
    path .header entries

/-- Begins one more table of a list of them. -/
def beginItem (keys : List String) (entries : Entries) : Option Entries :=
  let (path, key) := splitPath keys
  change .passed
    (fun _ entries =>
      match entries.lookup key with
      | none => some (put key (.tables [] []) entries)
      | some (.tables latest earlier) => some (put key (.tables [] (latest :: earlier)) entries)
      | some _ => none)
    path .header entries

/-- Gives a value to a key of the table a header has begun. -/
def assignIn (header keys : List String) (v : Value) (entries : Entries) : Option Entries :=
  change .passed (fun _ inner => assign keys v inner) header .header entries

/-! ## The finished tree -/

mutual

/-- The value at a place. -/
def Node.value : Node → Value
  | .whole v => v
  | .table _ entries => .table (valuesOf entries)
  | .tables latest earlier => .list (.table (valuesOf latest) :: tablesOf earlier).reverse

/-- The values of a table. -/
def valuesOf : List (String × Node) → List (String × Value)
  | [] => []
  | (key, node) :: rest => (key, node.value) :: valuesOf rest

/-- The tables of a list. -/
def tablesOf : List (List (String × Node)) → List Value
  | [] => []
  | entries :: rest => .table (valuesOf entries) :: tablesOf rest

end

end RemoteDevice.Toml
