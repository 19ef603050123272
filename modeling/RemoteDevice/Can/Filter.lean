import RemoteDevice.Can.Frame
import RemoteDevice.Text.Lowercase
import RemoteDevice.Text.Split
import RemoteDevice.Transport.Error

/-!
# Can.Filter — sets of accepted ids

A filter is written as ids and inclusive ranges of ids between plus signs or commas, in hexadecimal
with or without `0x`. Blanks and the case of letters do not matter. It holds canonical ids in
ascending order, at most 4096 of them.
-/

namespace RemoteDevice.Can

open Text
open Transport (Error maxIds)

/-! ## Ascending lists -/

/-- An ascending list with `x` in its place, behind which `rest` says what becomes of the larger
members; an `x` that is there already stays single. -/
def insertBefore (x : UInt32) (rest : List UInt32 → List UInt32) : List UInt32 → List UInt32
  | [] => x :: rest []
  | y :: ys =>
    if x < y then x :: rest (y :: ys)
    else if x = y then x :: rest ys
    else y :: insertBefore x rest ys

/-- Two ascending lists in one; what stands in both stays single. -/
def union : List UInt32 → List UInt32 → List UInt32
  | [], ys => ys
  | x :: xs, ys => insertBefore x (union xs) ys

/-- Merging adds nothing and loses nothing. -/
theorem mem_union {z : UInt32} {xs ys : List UInt32} : z ∈ union xs ys ↔ z ∈ xs ∨ z ∈ ys := by
  induction xs generalizing ys with
  | nil => simp [union]
  | cons x xs ih =>
    rw [union]
    induction ys with
    | nil => simp [insertBefore, ih]
    | cons y ys ihy =>
      rw [insertBefore]
      split
      · simp only [List.mem_cons, ih]
        exact or_assoc.symm
      · split
        · next h =>
          simp only [List.mem_cons, ih, h]
          constructor
          · rintro (h | h | h) <;> simp [h]
          · rintro ((h | h) | h | h) <;> simp [h]
        · simp only [List.mem_cons, ihy]
          constructor
          · rintro (h | (h | h) | h) <;> simp [h]
          · rintro ((h | h) | h | h) <;> simp [h]

/-- Merging keeps the ids ascending and free of repetitions. -/
theorem pairwise_union {xs ys : List UInt32} (hx : xs.Pairwise (· < ·)) (hy : ys.Pairwise (· < ·)) :
    (union xs ys).Pairwise (· < ·) := by
  induction xs generalizing ys with
  | nil => exact hy
  | cons x xs ih =>
    rcases List.pairwise_cons.1 hx with ⟨hlt, hxs⟩
    induction ys with
    | nil =>
      refine List.pairwise_cons.2 ⟨fun z hz => ?_, ih hxs hy⟩
      rcases mem_union.1 hz with hz | hz
      · exact hlt z hz
      · simp at hz
    | cons y ys ihy =>
      rcases List.pairwise_cons.1 hy with ⟨hys, hyt⟩
      rw [union, insertBefore]
      split
      · next hxy =>
        refine List.pairwise_cons.2 ⟨fun z hz => ?_, ih hxs hy⟩
        rcases mem_union.1 hz with hz | hz
        · exact hlt z hz
        · rcases List.mem_cons.1 hz with rfl | hz
          · exact hxy
          · exact UInt32.lt_trans hxy (hys z hz)
      · next hxy =>
        split
        · next heq =>
          refine List.pairwise_cons.2 ⟨fun z hz => ?_, ih hxs hyt⟩
          rcases mem_union.1 hz with hz | hz
          · exact hlt z hz
          · exact heq ▸ hys z hz
        · next hne =>
          have hyx : y < x := UInt32.lt_of_le_of_ne (UInt32.not_lt.1 hxy) (Ne.symm hne)
          refine List.pairwise_cons.2 ⟨fun z hz => ?_, ihy hyt⟩
          rcases (@mem_union z (x :: xs) ys).1 hz with hz | hz
          · rcases List.mem_cons.1 hz with rfl | hz
            · exact hyx
            · exact UInt32.lt_trans hyx (hlt z hz)
          · exact hys z hz

/-- Ascending lists with one more among them. A place that is taken is joined with and left for the
next one, so that each place holds about twice as much as the one before. -/
def addRun (xs : List UInt32) : List (List UInt32) → List (List UInt32)
  | [] => [xs]
  | [] :: runs => xs :: runs
  | run :: runs => [] :: addRun (union xs run) runs

/-- A number put before others. Those stand in ascending lists, of which the first one grows for as
long as the numbers get smaller. -/
def prepend (id : UInt32) : List UInt32 × List (List UInt32) → List UInt32 × List (List UInt32)
  | ([], runs) => ([id], runs)
  | (x :: run, runs) => if id < x then (id :: x :: run, runs) else ([id], addRun (x :: run) runs)

/-- The members of a list in ascending order, each of them once. -/
def ascend (ids : List UInt32) : List UInt32 :=
  let (run, runs) := ids.foldr prepend ([], [])
  union run (runs.foldr union [])

/-- Adding a run to others adds its ids. -/
theorem mem_addRun {z : UInt32} {xs : List UInt32} {runs : List (List UInt32)} :
    z ∈ (addRun xs runs).flatten ↔ z ∈ xs ∨ z ∈ runs.flatten := by
  induction runs generalizing xs with
  | nil => simp [addRun]
  | cons run runs ih =>
    cases run with
    | nil => simp [addRun]
    | cons y ys =>
      simp only [addRun, List.flatten_cons, List.nil_append, ih, mem_union, List.mem_append]
      exact or_assoc

theorem pairwise_addRun {xs : List UInt32} {runs : List (List UInt32)}
    (hx : xs.Pairwise (· < ·)) (hr : ∀ run ∈ runs, run.Pairwise (· < ·)) :
    ∀ run ∈ addRun xs runs, run.Pairwise (· < ·) := by
  induction runs generalizing xs with
  | nil => simpa [addRun] using hx
  | cons run runs ih =>
    have htail := fun r hr' => hr r (List.mem_cons_of_mem _ hr')
    cases run with
    | nil =>
      intro r hmem
      rcases List.mem_cons.1 hmem with rfl | hmem
      · exact hx
      · exact htail r hmem
    | cons y ys =>
      intro r hmem
      rcases List.mem_cons.1 hmem with rfl | hmem
      · exact .nil
      · exact ih (pairwise_union hx (hr _ List.mem_cons_self)) htail r hmem

theorem mem_prepend {z id : UInt32} {run : List UInt32} {runs : List (List UInt32)} :
    z ∈ (prepend id (run, runs)).1 ∨ z ∈ (prepend id (run, runs)).2.flatten ↔
      z = id ∨ z ∈ run ∨ z ∈ runs.flatten := by
  cases run with
  | nil => simp [prepend]
  | cons x run =>
    rw [prepend]
    split
    · simp only [List.mem_cons, or_assoc]
    · simp only [mem_addRun, List.mem_singleton]

theorem mem_foldr_union {z : UInt32} {runs : List (List UInt32)} :
    z ∈ runs.foldr union [] ↔ z ∈ runs.flatten := by
  induction runs with
  | nil => simp
  | cons run runs ih =>
    rw [List.foldr_cons, mem_union, ih, List.flatten_cons, List.mem_append]

/-- Sorting keeps the same ids. -/
theorem mem_ascend {z : UInt32} {ids : List UInt32} : z ∈ ascend ids ↔ z ∈ ids := by
  rw [ascend, mem_union, mem_foldr_union]
  induction ids with
  | nil => simp
  | cons id ids ih => exact (mem_prepend.trans (or_congr_right ih)).trans List.mem_cons.symm

theorem pairwise_prepend {id : UInt32} {run : List UInt32} {runs : List (List UInt32)}
    (h : run.Pairwise (· < ·)) (hr : ∀ r ∈ runs, r.Pairwise (· < ·)) :
    (prepend id (run, runs)).1.Pairwise (· < ·) ∧
      ∀ r ∈ (prepend id (run, runs)).2, r.Pairwise (· < ·) := by
  cases run with
  | nil => exact ⟨List.pairwise_singleton _ _, hr⟩
  | cons x run =>
    rw [prepend]
    split
    · next hlt =>
      refine ⟨List.pairwise_cons.2 ⟨fun z hz => ?_, h⟩, hr⟩
      rcases List.mem_cons.1 hz with rfl | hz
      · exact hlt
      · exact UInt32.lt_trans hlt ((List.pairwise_cons.1 h).1 z hz)
    · exact ⟨List.pairwise_singleton _ _, pairwise_addRun h hr⟩

theorem pairwise_foldr_union {runs : List (List UInt32)} (h : ∀ r ∈ runs, r.Pairwise (· < ·)) :
    (runs.foldr union []).Pairwise (· < ·) := by
  induction runs with
  | nil => exact .nil
  | cons run runs ih =>
    exact pairwise_union (h _ List.mem_cons_self)
      (ih fun r hr => h r (List.mem_cons_of_mem _ hr))

/-- Sorted ids ascend, each one once. -/
theorem pairwise_ascend (ids : List UInt32) : (ascend ids).Pairwise (· < ·) := by
  have h : (ids.foldr prepend ([], [])).1.Pairwise (· < ·) ∧
      ∀ r ∈ (ids.foldr prepend ([], [])).2, r.Pairwise (· < ·) := by
    induction ids with
    | nil => simp
    | cons id ids ih => exact pairwise_prepend ih.1 ih.2
  exact pairwise_union h.1 (pairwise_foldr_union h.2)

/-! ## Filters -/

/-- A set of ids. -/
structure FilterSet where
  ids : List UInt32
  ascending : ids.Pairwise (· < ·)
deriving DecidableEq

namespace FilterSet

/-- The filter that accepts nothing. -/
def empty : FilterSet := ⟨[], .nil⟩

/-- The filter that accepts some ids more. -/
def insertAll (ids : List UInt32) (f : FilterSet) : FilterSet :=
  ⟨union (ascend (ids.map canonicalId)) f.ids, pairwise_union (pairwise_ascend _) f.ascending⟩

/-- Inserting ids adds their canonical forms. -/
theorem mem_insertAll {id : UInt32} {ids : List UInt32} {f : FilterSet} :
    id ∈ (f.insertAll ids).ids ↔ id ∈ ids.map canonicalId ∨ id ∈ f.ids := by
  rw [insertAll, mem_union, mem_ascend]

/-- The filter that accepts the given ids. -/
def ofList (ids : List UInt32) : FilterSet :=
  empty.insertAll ids

/-- Whether frames with this id pass. -/
def contains (f : FilterSet) (id : UInt32) : Bool :=
  f.ids.contains (canonicalId id)

/-- How many ids the filter accepts. -/
def size (f : FilterSet) : Nat :=
  f.ids.length

/-- The lowest id. -/
def min? (f : FilterSet) : Option UInt32 :=
  f.ids.head?

/-- The highest id. -/
def max? (f : FilterSet) : Option UInt32 :=
  f.ids.getLast?

/-- Ascending ids as runs of consecutive numbers, each by its first and its last. -/
def runsOf : List UInt32 → List (UInt32 × UInt32)
  | [] => []
  | x :: xs =>
    match runsOf xs with
    | [] => [(x, x)]
    | (first, last) :: rest =>
      if first = x + 1 then (x, last) :: rest else (x, x) :: (first, last) :: rest

/-- The ids as runs of consecutive numbers. -/
def runs (f : FilterSet) : List (UInt32 × UInt32) :=
  runsOf f.ids

/-- `count` ids from `first` on. -/
def idsFrom (first : UInt32) (count : Nat) : List UInt32 :=
  (List.range count).map fun i => first + UInt32.ofNat i

/-- The ids from `first` to `last`, if they are few enough. -/
def span (first last : UInt32) : Except Error (List UInt32) :=
  if maxIds ≤ (last - first).toNat then .error (.malformed (.wideRange first last))
  else .ok (idsFrom first ((last - first).toNat + 1))

/-- The ids from `first` up to `stop` itself not included. -/
def range (first stop : UInt32) : Except Error FilterSet :=
  if stop ≤ first then .error (.malformed (.emptyRange first stop))
  else (span first (stop - 1)).map ofList

/-! ## The written form -/

/-- The text without the mark of a hexadecimal number. -/
def dropMark : List Char → List Char
  | '0' :: 'x' :: digits => digits
  | digits => digits

/-- The id a text denotes. -/
def parseId (token : List Char) : Except Error UInt32 :=
  match numeral? 16 UInt32.size (dropMark token) with
  | none => .error (.malformed (.canId token))
  | some n =>
    let id := UInt32.ofNat n
    if maxExtended < id % extendedFlag then .error (.malformed (.canIdRange token)) else .ok id

/-- The ids of a token: one id, or a range of them. -/
def parseToken (token : List Char) : Except Error (List UInt32) :=
  match cutFirst? '-' token with
  | none => (parseId token).map ([·])
  | some (first, last) => do
    let a ← parseId first
    let b ← parseId last
    if b < a then .error (.malformed (.descending token)) else span a b

/-- The ids of all the tokens; `spec` is the text they are from. -/
def parseTokens (spec : List Char) : List (List Char) → FilterSet → Except Error FilterSet
  | [], f => .ok f
  | token :: tokens, f => do
    let f := f.insertAll (← parseToken token)
    if maxIds < f.size then .error (.malformed (.manyIds spec)) else parseTokens spec tokens f

/-- The tokens of a text. -/
def tokens (spec : List Char) : List (List Char) :=
  (pieces (fun c => c == '+' || c == ',') spec).filter (· ≠ [])

/-- The text in the form in which it is read: without blanks and in lower case. -/
def normalise (spec : String) : List Char :=
  lowercase (dropBlanks spec.toList)

/-- The filter a text denotes. -/
def parse (spec : String) : Except Error FilterSet :=
  parseTokens (normalise spec) (tokens (normalise spec)) empty

end FilterSet

end RemoteDevice.Can
