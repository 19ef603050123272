import Mathlib.Data.Nat.Digits.Lemmas
import RemoteDevice.Proofs.Text.Numeral

/-!
# Proofs.Text.Conversion — numbers as C reads them

The function `strtoul` of C takes a number from the beginning of a text: an integer constant, in
hexadecimal after `0x`, in octal after another zero and in decimal otherwise, behind white space and a
sign. What it does not take is left over. Here it is written down for the base that the text itself
gives; a text that begins with a digit is taken whole exactly if it is an integer constant.
-/

namespace RemoteDevice.Text

/-! ## The conversion -/

/-- The value of a digit. -/
def digitOf? (radix : Nat) (c : Char) : Option Nat :=
  (List.range radix).find? fun d => IsDigit radix c d

/-- Reads on from `value` for as long as there are digits. Gives the value and what is left over. -/
def readDigits (radix value : Nat) : List Char → Nat × List Char
  | [] => (value, [])
  | c :: cs =>
    match digitOf? radix c with
    | some d => readDigits radix (value * radix + d) cs
    | none => (value, c :: cs)

/-- The radix of a number and its digits. The mark of a hexadecimal number counts as one only if
there is a digit behind it. -/
def based : List Char → Nat × List Char
  | '0' :: x :: c :: cs =>
    if (x = 'x' ∨ x = 'X') ∧ (digitOf? 16 c).isSome then (16, c :: cs)
    else (8, '0' :: x :: c :: cs)
  | '0' :: cs => (8, '0' :: cs)
  | cs => (10, cs)

/-- The white space that is skipped before a number. -/
def isSpace (c : Char) : Bool :=
  c == ' ' || (9 ≤ c.toNat && c.toNat ≤ 13)

/-- Whether there is a minus sign, and what stands behind the sign. -/
def cutSign : List Char → Bool × List Char
  | '-' :: cs => (true, cs)
  | '+' :: cs => (false, cs)
  | cs => (false, cs)

/-- The number at the beginning of a text, and what is left over, as `strtoul` with base zero gives
them where an `unsigned long` has `size` values. A number that is too large becomes the largest one,
and without a number everything is left over. -/
def strtoul (size : Nat) (text : List Char) : Nat × List Char :=
  let (negative, unsigned) := cutSign (text.dropWhile isSpace)
  let (radix, digits) := based unsigned
  let (value, rest) := readDigits radix 0 digits
  if rest = digits then (0, text)
  else if size ≤ value then (size - 1, rest)
  else if negative then ((size - value) % size, rest)
  else (value, rest)

example : strtoul (2 ^ 64) " -0x1fg".toList = (2 ^ 64 - 31, ['g']) := by decide

example : strtoul (2 ^ 32) "08".toList = (0, ['8']) := by decide

/-- An integer constant of C, without a suffix. -/
inductive IsConstant : List Char → Nat → Prop
  | decimal {cs : List Char} {n : Nat} : cs.head? ≠ some '0' → IsNumeral 10 cs n → IsConstant cs n
  | octal {cs : List Char} {n : Nat} : IsNumeral 8 ('0' :: cs) n → IsConstant ('0' :: cs) n
  | hexadecimal {x : Char} {cs : List Char} {n : Nat} :
    x = 'x' ∨ x = 'X' → IsNumeral 16 cs n → IsConstant ('0' :: x :: cs) n

variable {radix : Nat} {cs : List Char} {m n : Nat}

/-! ## Digits -/

theorem digitOf?_eq_some_iff (hradix : radix ≤ 16) {c : Char} {d : Nat} :
    digitOf? radix c = some d ↔ IsDigit radix c d := by
  unfold digitOf?
  rw [List.find?_range_eq_some]
  simp only [decide_eq_true_iff, List.mem_range, Bool.not_eq_true', decide_eq_false_iff_not]
  constructor
  · intro h
    exact h.1
  · intro h
    refine ⟨h, h.1, fun e he hother => ?_⟩
    exact Nat.ne_of_lt he (hother.unique hradix hradix h)

/-- Digits are read to their end exactly if they have a value. -/
theorem readDigits_eq_iff (hradix : radix ≤ 16) {v : Nat} :
    readDigits radix v cs = (n, []) ↔ digitsValue? radix v cs = some n := by
  induction cs generalizing v with
  | nil => simp [readDigits, digitsValue?]
  | cons c cs ih =>
    have hsame : digitOf? radix c = digitValue? radix c := Option.ext fun d =>
      (digitOf?_eq_some_iff hradix).trans (digitValue?_eq_some_iff hradix).symm
    rw [readDigits, digitsValue?, hsame]
    cases digitValue? radix c with
    | none => simp
    | some d => exact ih

/-- A text that is not empty is read to its end exactly if it is a numeral. -/
theorem readDigits_eq_nil_iff (hradix : radix ≤ 16) (hne : cs ≠ []) :
    readDigits radix 0 cs = (n, []) ↔ IsNumeral radix cs n := by
  unfold IsNumeral
  rw [readDigits_eq_iff hradix, digitsValue?_eq_some_iff hradix, and_iff_right hne]
  simp only [ofDigits_reverse]

/-! ## Constants -/

/-- A zero in front that does not begin the mark of hexadecimal digits makes the number octal. -/
theorem based_octal (h : ∀ x ∈ cs.head?, x ≠ 'x' ∧ x ≠ 'X') :
    based ('0' :: cs) = (8, '0' :: cs) := by
  unfold based
  split
  · next x c cs heq =>
    obtain ⟨-, rfl⟩ := List.cons.inj heq
    rw [if_neg]
    rintro ⟨hx, -⟩
    exact hx.elim (h x rfl).1 (h x rfl).2
  · next heq => rw [heq]
  · next hzero => exact absurd rfl (hzero cs)

/-- A number without a zero in front is decimal. -/
theorem based_decimal (h : cs.head? ≠ some '0') : based cs = (10, cs) := by
  unfold based
  split
  · simp at h
  · simp at h
  · rfl

/-- The radix and the digits of a text say whether it is a constant. -/
theorem isConstant_iff_based :
    IsConstant cs n ↔ IsNumeral (based cs).1 (based cs).2 n := by
  constructor
  · intro h
    cases h with
    | decimal hhead hnumeral => rwa [based_decimal hhead]
    | @octal cs _ hnumeral =>
      have hmark : ∀ x ∈ cs.head?, x ≠ 'x' ∧ x ≠ 'X' := by
        intro x hx
        have hmem := List.mem_cons_of_mem '0' (List.mem_of_mem_head? hx)
        constructor
        · rintro rfl
          exact hnumeral.not_mem (by decide) (by decide) hmem
        · rintro rfl
          exact hnumeral.not_mem (by decide) (by decide) hmem
      rwa [based_octal hmark]
    | @hexadecimal x cs _ hx hnumeral =>
      cases cs with
      | nil => exact absurd rfl hnumeral.1
      | cons c cs =>
        obtain ⟨d, hd⟩ := hnumeral.exists_isDigit List.mem_cons_self
        have hdigit : (digitOf? 16 c).isSome := by
          rw [(digitOf?_eq_some_iff (by decide)).2 hd]
          rfl
        rwa [based, if_pos ⟨hx, hdigit⟩]
  · unfold based
    split
    · split
      · next hmark => exact .hexadecimal hmark.1
      · exact .octal
    · exact .octal
    · next hzero =>
      intro hnumeral
      refine .decimal (fun hhead => ?_) hnumeral
      obtain ⟨rest, rfl⟩ := List.head?_eq_some_iff.1 hhead
      exact hzero rest rfl

theorem radix_based_le (cs : List Char) : (based cs).1 ≤ 16 := by
  unfold based
  split
  · split <;> simp
  · simp
  · simp

theorem digits_based_ne_nil (hne : cs ≠ []) : (based cs).2 ≠ [] := by
  unfold based
  split
  · split <;> simp
  · simp
  · exact hne

/-- A constant has one value. -/
theorem IsConstant.unique (h : IsConstant cs m) (h' : IsConstant cs n) : m = n :=
  (isConstant_iff_based.1 h).unique (radix_based_le cs) (isConstant_iff_based.1 h')

/-- A constant has no sign in it. -/
theorem IsConstant.plus_notMem (h : IsConstant cs n) : '+' ∉ cs := by
  cases h with
  | decimal _ hnumeral => exact hnumeral.not_mem (by decide) (by decide)
  | octal hnumeral => exact hnumeral.not_mem (by decide) (by decide)
  | hexadecimal hx hnumeral =>
    have hplus := hnumeral.not_mem (by decide) (by decide : digitValue? 16 '+' = none)
    rcases hx with rfl | rfl <;> simp [hplus]

theorem IsNumeral.exists_head_isDigit (h : IsNumeral radix cs n) :
    ∃ c ∈ cs.head?, ∃ d, IsDigit radix c d := by
  obtain ⟨c, rest, rfl⟩ := List.exists_cons_of_ne_nil h.1
  exact ⟨c, rfl, h.exists_isDigit List.mem_cons_self⟩

theorem IsConstant.exists_head_isDigit (h : IsConstant cs n) :
    ∃ c ∈ cs.head?, ∃ d, IsDigit 10 c d := by
  cases h with
  | decimal _ hnumeral => exact hnumeral.exists_head_isDigit
  | octal _ => exact ⟨'0', rfl, 0, by decide⟩
  | hexadecimal _ _ => exact ⟨'0', rfl, 0, by decide⟩

/-- White space and signs do not begin with a digit. -/
theorem cutSign_of_isDigit {c : Char} {d : Nat} (hc : IsDigit 10 c d) (cs : List Char) :
    cutSign ((c :: cs).dropWhile isSpace) = (false, c :: cs) := by
  have hcode := (isDigit_iff (by decide)).1 hc
  have hspace : isSpace c = false := by
    unfold isSpace
    rw [Bool.or_eq_false_iff, beq_eq_false_iff_ne, ne_eq, ← Char.toNat_inj, Bool.and_eq_false_iff,
      decide_eq_false_iff_not, decide_eq_false_iff_not]
    show ¬ c.toNat = 32 ∧ _
    omega
  rw [List.dropWhile_cons_of_neg (by simp [hspace])]
  unfold cutSign
  split
  · next heq =>
    obtain ⟨rfl, -⟩ := List.cons.inj heq
    simp at hcode
  · next heq =>
    obtain ⟨rfl, -⟩ := List.cons.inj heq
    simp at hcode
  · rfl

/-- A text that begins with a digit, or with a plus sign before it, is taken whole if it is a
constant that is not too large, and not otherwise. -/
theorem strtoul_eq_nil_iff {size : Nat} {text unsigned : List Char}
    (htext : text = unsigned ∨ text = '+' :: unsigned)
    (hfirst : ∃ c ∈ unsigned.head?, ∃ d, IsDigit 10 c d)
    (hsize : ∀ n, IsConstant unsigned n → n < size) :
    strtoul size text = (n, []) ↔ IsConstant unsigned n := by
  obtain ⟨c, hc, d, hd⟩ := hfirst
  obtain ⟨cs, rfl⟩ := List.head?_eq_some_iff.1 hc
  have hcut : cutSign (text.dropWhile isSpace) = (false, c :: cs) := by
    rcases htext with rfl | rfl
    · exact cutSign_of_isDigit hd cs
    · rfl
  have hne : text ≠ [] := by
    rcases htext with rfl | rfl <;> simp
  have hdigits : (based (c :: cs)).2 ≠ [] := digits_based_ne_nil (List.cons_ne_nil c cs)
  simp only [isConstant_iff_based, ← readDigits_eq_nil_iff (radix_based_le _) hdigits] at hsize ⊢
  unfold strtoul
  simp only [hcut]
  cases hread : readDigits (based (c :: cs)).1 0 (based (c :: cs)).2 with
  | mk value rest =>
    cases rest with
    | nil =>
      have hlt : ¬ size ≤ value := Nat.not_le.2 (hsize value hread)
      simp [hdigits.symm, hlt]
    | cons r rest =>
      -- something is left over, whatever the value is
      refine iff_of_false ?_ (by simp)
      split
      · simp [hne]
      · split <;> simp

/-! ## Octal and decimal digits -/

theorem lt_of_forall₂_isDigit {radix : Nat} {ds : List Nat}
    (h : List.Forall₂ (IsDigit radix) cs ds) : ∀ d ∈ ds, d < radix := by
  induction h with
  | nil => simp
  | cons hd _ ih => exact List.forall_mem_cons.2 ⟨hd.1, ih⟩

/-- Digits are digits in every radix that is above them. -/
theorem forall₂_isDigit_of_lt {radix radix' : Nat} {ds : List Nat}
    (h : List.Forall₂ (IsDigit radix) cs ds) (hlt : ∀ d ∈ ds, d < radix') :
    List.Forall₂ (IsDigit radix') cs ds := by
  induction h with
  | nil => exact .nil
  | cons hd _ ih =>
    rw [List.forall_mem_cons] at hlt
    exact .cons (hd.mono hlt.1) (ih hlt.2)

/-- A text that is a numeral in octal and in decimal has the same digits in both, the last one
first here. -/
theorem exists_octal_digits (h : IsNumeral 8 cs m) (h' : IsNumeral 10 cs n) :
    ∃ ds, m = Nat.ofDigits 8 ds ∧ n = Nat.ofDigits 10 ds ∧ ∀ d ∈ ds, d < 8 := by
  obtain ⟨-, ds, hds, rfl⟩ := h
  obtain ⟨-, ds', hds', rfl⟩ := h'
  have hlt := lt_of_forall₂_isDigit hds
  have hdecimal : List.Forall₂ (IsDigit 10) cs ds :=
    forall₂_isDigit_of_lt hds fun d hd => Nat.lt_trans (hlt d hd) (by decide)
  obtain rfl := digits_unique (by decide) hdecimal hds'
  exact ⟨ds.reverse, rfl, rfl, by simpa using hlt⟩

/-- The same digits make no more as an octal number than as a decimal one. -/
theorem octal_le_decimal (h : IsNumeral 8 cs m) (h' : IsNumeral 10 cs n) : m ≤ n := by
  obtain ⟨ds, rfl, rfl, -⟩ := exists_octal_digits h h'
  exact Nat.ofDigits_monotone ds (by decide)

/-- A numeral has the same value in octal and in decimal exactly if the value is a single digit. -/
theorem octal_eq_decimal_iff (h : IsNumeral 10 cs n) : IsNumeral 8 cs n ↔ n < 8 := by
  constructor
  · intro h'
    obtain ⟨ds, hoctal, hdecimal, hlt⟩ := exists_octal_digits h' h
    cases ds with
    | nil => simp at hdecimal; omega
    | cons d ds =>
      -- what stands before the last digit counts more in decimal, unless it is nothing
      have hmono := Nat.ofDigits_monotone ds (by decide : 8 ≤ 10)
      have hd := hlt d List.mem_cons_self
      rw [Nat.ofDigits_cons] at hoctal hdecimal
      omega
  · intro hlt
    obtain ⟨hne, ds, hds, hvalue⟩ := h
    have hsmall : Nat.ofDigits 8 ds.reverse = n ∧ ∀ d ∈ ds.reverse, d < 8 := by
      cases hrev : ds.reverse with
      | nil =>
        rw [hrev] at hvalue
        simp [hvalue]
      | cons d rest =>
        rw [hrev, Nat.ofDigits_cons] at hvalue
        have hrest : Nat.ofDigits 10 rest = 0 := by omega
        have hzero := Nat.digits_zero_of_eq_zero (by decide) hrest
        have hmono := Nat.ofDigits_monotone rest (by decide : 8 ≤ 10)
        refine ⟨by rw [Nat.ofDigits_cons]; omega, List.forall_mem_cons.2 ⟨by omega, ?_⟩⟩
        intro e he
        rw [hzero e he]
        decide
    refine ⟨hne, ds, forall₂_isDigit_of_lt hds (by simpa using hsmall.2), hsmall.1.symm⟩

end RemoteDevice.Text
