import Mathlib.Data.List.Forall2
import Mathlib.Data.Nat.Digits.Defs
import RemoteDevice.Text.Numeral
import RemoteDevice.Text.Split

/-!
# Proofs.Text.Numeral — what numerals denote

A text of digits has the value that its digits have in positional notation. Reading gives this value
where it is below the limit, and nothing for any other text; the digits that are printed of a number
have the number as their value.
-/

namespace RemoteDevice.Text

/-- The character is the digit of this value in a radix up to 16, letters in either case. -/
def IsDigit (radix : Nat) (c : Char) (d : Nat) : Prop :=
  d < radix ∧ (c = Nat.digitChar d ∨ c = (Nat.digitChar d).toUpper)

instance (radix : Nat) (c : Char) (d : Nat) : Decidable (IsDigit radix c d) :=
  inferInstanceAs (Decidable (_ ∧ _))

/-- The text is some digits of the radix, at least one, and this is their value. -/
def IsNumeral (radix : Nat) (cs : List Char) (n : Nat) : Prop :=
  cs ≠ [] ∧ ∃ ds, List.Forall₂ (IsDigit radix) cs ds ∧ n = Nat.ofDigits radix ds.reverse

variable {radix : Nat}

/-! ## Digits -/

/-- The digits as they are written: from `0` on for the first ten, and letters for the others. -/
theorem toNat_digitChar {d : Nat} (hd : d < 16) :
    d < 10 ∧ (Nat.digitChar d).toNat = d + 48 ∧ (Nat.digitChar d).toUpper.toNat = d + 48 ∨
      10 ≤ d ∧ (Nat.digitChar d).toNat = d + 87 ∧ (Nat.digitChar d).toUpper.toNat = d + 55 := by
  revert d
  decide

/-- The digits by their numbers: first the decimal ones, then the letters in both cases. -/
theorem isDigit_iff (hradix : radix ≤ 16) {c : Char} {d : Nat} : IsDigit radix c d ↔ d < radix ∧
    (d < 10 ∧ c.toNat = d + 48 ∨ 10 ≤ d ∧ (c.toNat = d + 87 ∨ c.toNat = d + 55)) := by
  refine and_congr_right fun hd => ?_
  rw [← Char.toNat_inj, ← Char.toNat_inj]
  rcases toNat_digitChar (Nat.lt_of_lt_of_le hd hradix) with ⟨hlt, hlow, hup⟩ | ⟨hge, hlow, hup⟩
  · rw [hlow, hup]
    omega
  · rw [hlow, hup]
    omega

/-- A character is a digit of one value only, whatever the radix is. -/
theorem IsDigit.unique {radix' : Nat} (hradix : radix ≤ 16) (hradix' : radix' ≤ 16) {c : Char}
    {d d' : Nat} (h : IsDigit radix c d) (h' : IsDigit radix' c d') : d = d' := by
  have hcode := (isDigit_iff hradix).1 h
  have hcode' := (isDigit_iff hradix').1 h'
  omega

theorem IsDigit.mono {radix' : Nat} {c : Char} {d : Nat} (h : IsDigit radix c d) (hd : d < radix') :
    IsDigit radix' c d :=
  ⟨hd, h.2⟩

/-- A digit is no blank. -/
theorem IsDigit.isBlank_eq_false (hradix : radix ≤ 16) {c : Char} {d : Nat} (h : IsDigit radix c d) :
    isBlank c = false := by
  have hdigits : ∀ d < 16, isBlank (Nat.digitChar d) = false ∧
      isBlank (Nat.digitChar d).toUpper = false := by decide
  obtain ⟨hd, hc⟩ := h
  obtain ⟨hlow, hup⟩ := hdigits d (Nat.lt_of_lt_of_le hd hradix)
  rcases hc with rfl | rfl
  · exact hlow
  · exact hup

/-- A character is given a value exactly if it is a digit of this value. -/
theorem digitValue?_eq_some_iff (hradix : radix ≤ 16) {c : Char} {d : Nat} :
    digitValue? radix c = some d ↔ IsDigit radix c d := by
  rw [isDigit_iff hradix]
  unfold digitValue?
  constructor
  · intro h
    grind
  · rintro ⟨hd, hc⟩
    grind

/-! ## Numerals -/

/-- Characters are given a value exactly if all are digits: the one that their digits make by
Horner. -/
theorem digitsValue?_eq_some_iff (hradix : radix ≤ 16) {cs : List Char} {v n : Nat} :
    digitsValue? radix v cs = some n ↔
      ∃ ds, List.Forall₂ (IsDigit radix) cs ds ∧ n = ds.foldl (fun v d => v * radix + d) v := by
  induction cs generalizing v with
  | nil =>
    constructor
    · intro h
      exact ⟨[], .nil, (Option.some.inj h).symm⟩
    · rintro ⟨ds, hds, rfl⟩
      obtain rfl := List.forall₂_nil_left_iff.1 hds
      rfl
  | cons c cs ih =>
    rw [digitsValue?]
    constructor
    · intro h
      cases hc : digitValue? radix c with
      | none => simp [hc] at h
      | some d =>
        rw [hc] at h
        obtain ⟨ds, hds, rfl⟩ := ih.1 h
        exact ⟨d :: ds, .cons ((digitValue?_eq_some_iff hradix).1 hc) hds, rfl⟩
    · rintro ⟨_, hds, rfl⟩
      cases hds with
      | cons hc hds =>
        rw [(digitValue?_eq_some_iff hradix).2 hc]
        exact ih.2 ⟨_, hds, rfl⟩

theorem ofDigits_reverse (radix : Nat) (ds : List Nat) :
    Nat.ofDigits radix ds.reverse = ds.foldl (fun v d => v * radix + d) 0 := by
  rw [Nat.ofDigits_eq_foldr, List.foldr_reverse]
  congr 1
  funext v d
  rw [Nat.cast_id, Nat.add_comm, Nat.mul_comm]

/-- The first digit of a numeral counts as many times as there are places behind it. -/
theorem isNumeral_cons_iff {c : Char} {cs : List Char} {n : Nat} :
    IsNumeral radix (c :: cs) n ↔ ∃ d ds, IsDigit radix c d ∧
      List.Forall₂ (IsDigit radix) cs ds ∧ n = d * radix ^ cs.length + Nat.ofDigits radix ds.reverse := by
  have hvalue : ∀ {d ds}, List.Forall₂ (IsDigit radix) cs ds →
      Nat.ofDigits radix (d :: ds).reverse =
        d * radix ^ cs.length + Nat.ofDigits radix ds.reverse := by
    intro d ds hds
    rw [List.reverse_cons, Nat.ofDigits_append, Nat.ofDigits_singleton, List.length_reverse,
      ← hds.length_eq, Nat.add_comm, Nat.mul_comm]
  constructor
  · rintro ⟨-, _, hds, rfl⟩
    cases hds with
    | cons hd hds => exact ⟨_, _, hd, hds, hvalue hds⟩
  · rintro ⟨d, ds, hd, hds, rfl⟩
    exact ⟨List.cons_ne_nil _ _, d :: ds, .cons hd hds, (hvalue hds).symm⟩

theorem isNumeral_singleton_iff {c : Char} {n : Nat} : IsNumeral radix [c] n ↔ IsDigit radix c n := by
  rw [isNumeral_cons_iff]
  constructor
  · rintro ⟨d, ds, hd, hds, rfl⟩
    obtain rfl := List.forall₂_nil_left_iff.1 hds
    simpa using hd
  · intro hn
    exact ⟨n, [], hn, .nil, by simp⟩

/-- A numeral of two digits is worth the first one times the radix and the second one. -/
theorem isNumeral_pair_iff {a b : Char} {n : Nat} : IsNumeral radix [a, b] n ↔
    ∃ high low, IsDigit radix a high ∧ IsDigit radix b low ∧ n = high * radix + low := by
  rw [isNumeral_cons_iff]
  constructor
  · rintro ⟨high, ds, hhigh, hds, rfl⟩
    obtain ⟨low, _, hlow, hnil, rfl⟩ := List.forall₂_cons_left_iff.1 hds
    obtain rfl := List.forall₂_nil_left_iff.1 hnil
    exact ⟨high, low, hhigh, hlow, by simp⟩
  · rintro ⟨high, low, hhigh, hlow, rfl⟩
    exact ⟨high, [low], hhigh, .cons hlow .nil, by simp⟩

/-- A text has the digits of one numeral only. -/
theorem digits_unique (hradix : radix ≤ 16) {cs : List Char} {ds ds' : List Nat}
    (h : List.Forall₂ (IsDigit radix) cs ds) (h' : List.Forall₂ (IsDigit radix) cs ds') : ds = ds' :=
  List.right_unique_forall₂' (fun _ _ _ hd hd' => hd.unique hradix hradix hd') h h'

/-- A numeral has one value. -/
theorem IsNumeral.unique (hradix : radix ≤ 16) {cs : List Char} {n n' : Nat}
    (h : IsNumeral radix cs n) (h' : IsNumeral radix cs n') : n = n' := by
  obtain ⟨-, ds, hds, rfl⟩ := h
  obtain ⟨-, ds', hds', rfl⟩ := h'
  rw [digits_unique hradix hds hds']

/-- A zero before a numeral changes nothing. -/
theorem isNumeral_zero_cons_iff (hpos : 0 < radix) (hradix : radix ≤ 16) {cs : List Char}
    (hne : cs ≠ []) {n : Nat} : IsNumeral radix ('0' :: cs) n ↔ IsNumeral radix cs n := by
  have hzero : IsDigit radix '0' 0 := ⟨hpos, Or.inl rfl⟩
  rw [isNumeral_cons_iff]
  constructor
  · rintro ⟨d, ds, hd, hds, rfl⟩
    obtain rfl := hd.unique hradix hradix hzero
    exact ⟨hne, ds, hds, by simp⟩
  · rintro ⟨-, ds, hds, rfl⟩
    exact ⟨0, ds, hzero, hds, by simp⟩

/-- Reading gives the value of a numeral, behind one plus sign or none, if it is below the limit. -/
theorem numeral?_eq_some_iff (hradix : radix ≤ 16) {limit n : Nat} {cs : List Char} :
    numeral? radix limit cs = some n ↔ IsNumeral radix (dropPlus cs) n ∧ n < limit := by
  unfold numeral? IsNumeral
  split
  · next h => simp [h]
  · next h =>
    rw [digitsBelow?_eq, Option.filter_eq_some_iff, digitsValue?_eq_some_iff hradix]
    simp only [ofDigits_reverse, decide_eq_true_eq]
    exact and_congr_left fun _ => ⟨fun hds => ⟨h, hds⟩, fun hds => hds.2⟩

theorem IsNumeral.exists_isDigit {cs : List Char} {n : Nat} (h : IsNumeral radix cs n) {c : Char}
    (hc : c ∈ cs) : ∃ d, IsDigit radix c d := by
  obtain ⟨-, ds, hds, -⟩ := h
  induction hds with
  | nil => simp at hc
  | cons hd _ ih =>
    rcases List.mem_cons.1 hc with rfl | hc
    · exact ⟨_, hd⟩
    · exact ih hc

theorem not_isDigit (hradix : radix ≤ 16) {c : Char} (h : digitValue? radix c = none) (d : Nat) :
    ¬ IsDigit radix c d := by
  rw [← digitValue?_eq_some_iff hradix, h]
  simp

/-- A numeral has nothing but digits in it. -/
theorem IsNumeral.not_mem (hradix : radix ≤ 16) {cs : List Char} {n : Nat}
    (h : IsNumeral radix cs n) {c : Char} (hc : digitValue? radix c = none) : c ∉ cs := by
  intro hmem
  obtain ⟨d, hd⟩ := h.exists_isDigit hmem
  exact not_isDigit hradix hc d hd

theorem dropPlus_of_not_mem {cs : List Char} (h : '+' ∉ cs) : dropPlus cs = cs := by
  unfold dropPlus
  split
  · simp at h
  · rfl

/-- A plus sign is no digit in any radix. -/
theorem IsNumeral.dropPlus_eq (hradix : radix ≤ 16) {cs : List Char} {n : Nat}
    (h : IsNumeral radix cs n) : dropPlus cs = cs :=
  dropPlus_of_not_mem (h.not_mem hradix (by simp [digitValue?]))

/-- What is printed of a number are digits below the radix, at least one, that have its value. -/
theorem exists_toDigits (hradix : 1 < radix) (n : Nat) : ∃ ds : List Nat,
    Nat.toDigits radix n = ds.map Nat.digitChar ∧ ds ≠ [] ∧ (∀ d ∈ ds, d < radix) ∧
      n = ds.foldl (fun v d => v * radix + d) 0 := by
  induction n using Nat.strongRecOn with
  | _ n ih =>
    rw [Nat.toDigits_eq_if hradix]
    split
    · next hlt => exact ⟨[n], rfl, by simp, by simpa using hlt, by simp⟩
    · next hle =>
      -- the last digit is the remainder, and the others are those of the quotient
      obtain ⟨ds, hds, -, hlt, hvalue⟩ := ih (n / radix) (Nat.div_lt_self (by omega) hradix)
      refine ⟨ds ++ [n % radix], by simp [hds], by simp, ?_, ?_⟩
      · intro d hd
        rcases List.mem_append.1 hd with hd | hd
        · exact hlt d hd
        · rw [List.mem_singleton.1 hd]
          exact Nat.mod_lt n (Nat.zero_lt_of_lt hradix)
      · rw [List.foldl_append, ← hvalue, List.foldl_cons, List.foldl_nil, Nat.div_add_mod']

/-- The digits that are printed of a number are a numeral of it. -/
theorem isNumeral_toDigits (hradix : 1 < radix) (n : Nat) :
    IsNumeral radix (Nat.toDigits radix n) n := by
  obtain ⟨ds, hds, hne, hlt, hvalue⟩ := exists_toDigits hradix n
  refine ⟨by simpa [hds] using hne, ds, ?_, by rwa [ofDigits_reverse]⟩
  rw [hds, List.forall₂_map_left_iff, List.forall₂_same]
  exact fun d hd => ⟨hlt d hd, Or.inl rfl⟩

end RemoteDevice.Text
