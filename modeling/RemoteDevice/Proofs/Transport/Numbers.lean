import RemoteDevice.Proofs.Text.Conversion
import RemoteDevice.Transport.Options

/-!
# Proofs.Transport.Numbers — numbers in options and in C

A number in an option is meant to be read as `strtoul` reads it in C. Every unsigned integer constant
of 32 bits is, and so is a decimal one behind a plus sign. But the sign is looked for last, in the
digits: there may be one behind the mark of the radix, where C finds no number any more, and behind a
sign at the beginning a zero is no mark, so that what is octal in C is decimal here.
-/

namespace RemoteDevice.Options

open Text

/-! ## The numbers that are read -/

/-- The numbers that are read, and their values: integer constants, and numerals of the three radices
with a plus sign before their digits. -/
inductive IsNumber : List Char → Nat → Prop
  | constant {cs : List Char} {n : Nat} : IsConstant cs n → IsNumber cs n
  | decimal {cs : List Char} {n : Nat} : IsNumeral 10 cs n → IsNumber ('+' :: cs) n
  | octal {cs : List Char} {n : Nat} : IsNumeral 8 cs n → IsNumber ('0' :: '+' :: cs) n
  | hexadecimal {x : Char} {cs : List Char} {n : Nat} :
    x = 'x' ∨ x = 'X' → IsNumeral 16 cs n → IsNumber ('0' :: x :: '+' :: cs) n

/-- The numbers that are read in another way than in C: those with a sign behind the mark of the
radix, and those with a sign before an octal number of more than one digit. -/
inductive IsMisread : List Char → Nat → Prop
  | octal (cs : List Char) (n : Nat) : IsMisread ('0' :: '+' :: cs) n
  | hexadecimal {x : Char} (cs : List Char) (n : Nat) :
    x = 'x' ∨ x = 'X' → IsMisread ('0' :: x :: '+' :: cs) n
  | signed (cs : List Char) {n : Nat} : 8 ≤ n → IsMisread ('+' :: '0' :: cs) n

variable {cs : List Char} {n m : Nat}

theorem dropPlus_cases (cs : List Char) :
    (∃ rest, cs = '+' :: rest ∧ dropPlus cs = rest) ∨ cs.head? ≠ some '+' ∧ dropPlus cs = cs := by
  unfold dropPlus
  split
  · exact Or.inl ⟨_, rfl, rfl⟩
  · next hplus =>
    refine Or.inr ⟨fun hhead => ?_, rfl⟩
    obtain ⟨rest, rfl⟩ := List.head?_eq_some_iff.1 hhead
    exact hplus rest rfl

/-- What is misread has a plus in it. -/
theorem IsMisread.plus_mem (h : IsMisread cs n) : '+' ∈ cs := by
  cases h <;> simp

theorem isNumeral_zero_iff {radix : Nat} (hpos : 0 < radix) (hradix : radix ≤ 16) :
    IsNumeral radix ['0'] n ↔ n = 0 := by
  have hzero : IsDigit radix '0' 0 := ⟨hpos, Or.inl rfl⟩
  rw [isNumeral_singleton_iff]
  constructor
  · intro h
    exact h.unique hradix hradix hzero
  · rintro rfl
    exact hzero

/-! ## Reading -/

/-- Without a zero in front a number is read as decimal. -/
theorem numberParts_decimal (h : cs.head? ≠ some '0') : numberParts cs = (cs, 10) := by
  unfold numberParts
  split
  · simp at h
  · simp at h
  · simp at h
  · rfl

/-- With a zero in front, and no mark of hexadecimal digits behind it, a number is read as octal. -/
theorem numberParts_octal {c : Char} (hx : c ≠ 'x') (hX : c ≠ 'X') (cs : List Char) :
    numberParts ('0' :: c :: cs) = (c :: cs, 8) := by
  rw [numberParts]
  · rintro rfl
    exact hx rfl
  · rintro rfl
    exact hX rfl

/-- Behind the mark of hexadecimal digits a number is read as such. -/
theorem numberParts_hexadecimal {x : Char} (hx : x = 'x' ∨ x = 'X') (cs : List Char) :
    numberParts ('0' :: x :: cs) = (cs, 16) := by
  rcases hx with rfl | rfl <;> rfl

/-- Digits that are read behind the prefix make a number. -/
theorem isNumber_of_numberParts
    (h : IsNumeral (numberParts cs).2 (dropPlus (numberParts cs).1) n) : IsNumber cs n := by
  have hhex : ∀ {x ds}, x = 'x' ∨ x = 'X' → IsNumeral 16 (dropPlus ds) n →
      IsNumber ('0' :: x :: ds) n := by
    intro x ds hx h
    rcases dropPlus_cases ds with ⟨rest, rfl, hdrop⟩ | ⟨-, hdrop⟩
    · exact .hexadecimal hx (hdrop ▸ h)
    · exact .constant (.hexadecimal hx (hdrop ▸ h))
  unfold numberParts at h
  split at h
  · exact hhex (Or.inl rfl) h
  · exact hhex (Or.inr rfl) h
  · next c ds hx hX =>
    rcases dropPlus_cases (c :: ds) with ⟨rest, heq, hdrop⟩ | ⟨-, hdrop⟩
    · obtain ⟨rfl, rfl⟩ := List.cons.inj heq
      exact .octal h
    · dsimp only at h
      rw [hdrop] at h
      exact .constant (.octal ((isNumeral_zero_cons_iff (by decide) (by decide) (by simp)).2 h))
  · next hx hX hzero =>
    dsimp only at h
    rcases dropPlus_cases cs with ⟨rest, rfl, hdrop⟩ | ⟨-, hdrop⟩
    · exact .decimal (hdrop ▸ h)
    · rw [hdrop] at h
      by_cases hhead : cs.head? = some '0'
      · -- a zero alone
        obtain ⟨rest, rfl⟩ := List.head?_eq_some_iff.1 hhead
        cases rest with
        | nil => exact .constant (.octal ((isNumeral_zero_iff (by decide) (by decide)).2
            ((isNumeral_zero_iff (by decide) (by decide)).1 h)))
        | cons c ds => exact absurd rfl (hzero c ds)
      · exact .constant (.decimal hhead h)

/-- The digits of a number are read behind its prefix. -/
theorem numberParts_of_isNumber (h : IsNumber cs n) :
    IsNumeral (numberParts cs).2 (dropPlus (numberParts cs).1) n := by
  cases h with
  | decimal hnumeral => exact hnumeral
  | octal hnumeral => exact hnumeral
  | hexadecimal hx hnumeral =>
    rw [numberParts_hexadecimal hx]
    exact hnumeral
  | constant h =>
    cases h with
    | decimal hhead hnumeral =>
      rw [numberParts_decimal hhead]
      exact (hnumeral.dropPlus_eq (by decide)).symm ▸ hnumeral
    | hexadecimal hx hnumeral =>
      rw [numberParts_hexadecimal hx]
      exact (hnumeral.dropPlus_eq (by decide)).symm ▸ hnumeral
    | @octal ds _ hnumeral =>
      cases ds with
      | nil =>
        obtain rfl := (isNumeral_zero_iff (by decide) (by decide)).1 hnumeral
        exact (isNumeral_zero_iff (by decide) (by decide)).2 rfl
      | cons c ds =>
        have hrest := (isNumeral_zero_cons_iff (by decide) (by decide) (by simp)).1 hnumeral
        have hx : 'x' ∉ c :: ds := hrest.not_mem (by decide) (by decide)
        have hX : 'X' ∉ c :: ds := hrest.not_mem (by decide) (by decide)
        rw [numberParts_octal (fun h => hx (h ▸ List.mem_cons_self))
          (fun h => hX (h ▸ List.mem_cons_self))]
        exact (hrest.dropPlus_eq (by decide)).symm ▸ hrest

theorem numberParts_radix_le (cs : List Char) : (numberParts cs).2 ≤ 16 := by
  unfold numberParts
  split <;> simp

/-- What is read are the numbers of 32 bits. -/
theorem parseNumber_eq_ok_iff {s : String} {n : UInt32} :
    parseNumber s = .ok n ↔ IsNumber (trim s.toList) n.toNat := by
  have hparts : IsNumber (trim s.toList) n.toNat ↔
      numeral? (numberParts (trim s.toList)).2 UInt32.size (numberParts (trim s.toList)).1 =
        some n.toNat := by
    rw [numeral?_eq_some_iff (numberParts_radix_le _), and_iff_left n.toNat_lt]
    exact ⟨numberParts_of_isNumber, isNumber_of_numberParts⟩
  rw [hparts]
  unfold parseNumber
  dsimp only
  split
  · next m hm =>
    have hlt := ((numeral?_eq_some_iff (numberParts_radix_le _)).1 hm).2
    rw [hm, Except.ok.injEq, Option.some.injEq, ← UInt32.toNat_inj, UInt32.toNat_ofNat_of_lt' hlt]
  · next hm => simp [hm]

/-- A number of 32 bits is read as this number. -/
theorem parseNumber_of_isNumber {s : String} (h : IsNumber (trim s.toList) n)
    (hlt : n < UInt32.size) : parseNumber s = .ok (UInt32.ofNat n) := by
  rw [parseNumber_eq_ok_iff, UInt32.toNat_ofNat_of_lt' hlt]
  exact h

/-! ## Agreement -/

variable {size : Nat}

/-- A decimal numeral that begins with a zero is a constant if it is one in octal: there is no mark
of a hexadecimal number behind the zero. -/
theorem isConstant_zero_cons_iff (h : IsNumeral 10 ('0' :: cs) n) :
    IsConstant ('0' :: cs) m ↔ IsNumeral 8 ('0' :: cs) m := by
  constructor
  · intro hm
    cases hm with
    | decimal hhead _ => exact absurd rfl hhead
    | octal hnumeral => exact hnumeral
    | hexadecimal hx _ =>
      have hlow := h.not_mem (by decide) (by decide : digitValue? 10 'x' = none)
      have hup := h.not_mem (by decide) (by decide : digitValue? 10 'X' = none)
      rcases hx with rfl | rfl
      · simp at hlow
      · simp at hup
  · exact .octal

/-- Behind a sign at the beginning C takes a decimal numeral for octal if it begins with a zero. -/
theorem strtoul_of_decimal (h : IsNumeral 10 cs n) (hlt : n < size) :
    strtoul size ('+' :: cs) = (n, []) ↔ ¬ IsMisread ('+' :: cs) n := by
  by_cases hhead : cs.head? = some '0'
  · obtain ⟨ds, rfl⟩ := List.head?_eq_some_iff.1 hhead
    have hbound : ∀ m, IsConstant ('0' :: ds) m → m < size := fun m hm =>
      Nat.lt_of_le_of_lt (octal_le_decimal ((isConstant_zero_cons_iff h).1 hm) h) hlt
    have hmisread : IsMisread ('+' :: '0' :: ds) n ↔ 8 ≤ n := by
      constructor
      · intro hm
        cases hm
        assumption
      · exact .signed ds
    rw [strtoul_eq_nil_iff (Or.inr rfl) h.exists_head_isDigit hbound, isConstant_zero_cons_iff h,
      octal_eq_decimal_iff h, hmisread, Nat.not_le]
  · have hconstant : IsConstant cs n := .decimal hhead h
    refine iff_of_true ?_ fun hm => ?_
    · rw [strtoul_eq_nil_iff (Or.inr rfl) h.exists_head_isDigit fun m hm =>
        hm.unique hconstant ▸ hlt]
      exact hconstant
    · cases hm
      exact hhead rfl

/-- A number is taken whole by C, with the value that is read, unless it is one of those that are
read in another way. -/
theorem IsNumber.strtoul_iff (h : IsNumber cs n) (hlt : n < size) :
    strtoul size cs = (n, []) ↔ ¬ IsMisread cs n := by
  -- with a sign behind the mark of the radix the text is no constant
  have hinside : ∀ {cs}, '+' ∈ cs → cs.head? = some '0' → strtoul size cs ≠ (n, []) := by
    intro cs hplus hhead hwhole
    have hnone : ∀ m, ¬ IsConstant cs m := fun m hm => hm.plus_notMem hplus
    rw [strtoul_eq_nil_iff (Or.inl rfl) ⟨'0', hhead, 0, by decide⟩ fun m hm =>
      absurd hm (hnone m)] at hwhole
    exact hnone n hwhole
  cases h with
  | constant h =>
    refine iff_of_true ?_ fun hm => h.plus_notMem hm.plus_mem
    rw [strtoul_eq_nil_iff (Or.inl rfl) h.exists_head_isDigit fun m hm => hm.unique h ▸ hlt]
    exact h
  | decimal h => exact strtoul_of_decimal h hlt
  | octal _ => exact iff_of_false (hinside (by simp) rfl) (not_not.2 (.octal _ _))
  | hexadecimal hx _ => exact iff_of_false (hinside (by simp) rfl) (not_not.2 (.hexadecimal _ _ hx))

/-- The numbers that are read are the integer constants of 32 bits, and numerals of 32 bits with a
plus sign before their digits. In C each of them is taken whole and has the same value, except for
those with the sign behind the mark of the radix, and those with a sign before an octal number of more
than one digit. Every integer constant of 32 bits is read, and has the value that it has in C. -/
theorem number_read_as_in_c (size : Nat) (hsize : 2 ^ 32 ≤ size) :
    (∀ s n, parseNumber s = .ok n ↔ IsNumber (trim s.toList) n.toNat) ∧
    (∀ s n, parseNumber s = .ok n →
      (strtoul size (trim s.toList) = (n.toNat, []) ↔ ¬ IsMisread (trim s.toList) n.toNat)) ∧
    (∀ s n, IsConstant (trim s.toList) n → n < 2 ^ 32 →
      parseNumber s = .ok (UInt32.ofNat n) ∧ strtoul size (trim s.toList) = (n, [])) := by
  refine ⟨fun s n => parseNumber_eq_ok_iff, ?_, ?_⟩
  · intro s n h
    exact (parseNumber_eq_ok_iff.1 h).strtoul_iff (Nat.lt_of_lt_of_le n.toNat_lt hsize)
  · intro s n h hlt
    have hnumber : IsNumber (trim s.toList) n := .constant h
    refine ⟨parseNumber_of_isNumber hnumber hlt, ?_⟩
    rw [hnumber.strtoul_iff (Nat.lt_of_lt_of_le hlt hsize)]
    exact fun hm => h.plus_notMem hm.plus_mem

/-- A hexadecimal number, and an octal one behind a sign that is a single digit. -/
theorem number_read_as_in_c_of_two :
    parseNumber " 0x1F\n" = .ok 31 ∧ strtoul (2 ^ 64) "0x1F".toList = (31, []) ∧
    parseNumber "+007" = .ok 7 ∧ strtoul (2 ^ 64) "+007".toList = (7, []) := by
  have hnumeral : IsNumeral 16 ['1', 'F'] 31 :=
    isNumeral_pair_iff.2 ⟨1, 15, by decide, by decide, rfl⟩
  obtain ⟨-, hsame, hconstants⟩ := number_read_as_in_c (2 ^ 64) (by decide)
  obtain ⟨hread, hwhole⟩ := hconstants " 0x1F\n" 31 (.hexadecimal (Or.inl rfl) hnumeral) (by decide)
  have hsigned : parseNumber "+007" = .ok 7 := rfl
  refine ⟨hread, hwhole, hsigned, (hsame "+007" 7 hsigned).2 fun hm => ?_⟩
  have htext : trim "+007".toList = ['+', '0', '0', '7'] := rfl
  rw [htext] at hm
  cases hm with
  | signed _ hlarge => exact absurd hlarge (by decide)

/-- A number with a sign behind the mark of its radix, of which C takes the zero only, and an octal
number behind a sign, which has another value in C. -/
theorem number_misread :
    parseNumber "0x+5" = .ok 5 ∧ strtoul (2 ^ 64) "0x+5".toList = (0, "x+5".toList) ∧
    parseNumber "+010" = .ok 10 ∧ strtoul (2 ^ 64) "+010".toList = (8, []) := by
  refine ⟨rfl, by decide, rfl, by decide⟩

end RemoteDevice.Options
