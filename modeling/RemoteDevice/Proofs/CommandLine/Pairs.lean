import Mathlib.Data.List.Induction
import RemoteDevice.CommandLine.Payload
import RemoteDevice.Proofs.Text.Numeral

/-!
# Proofs.CommandLine.Pairs — which texts are payloads

A payload is given in pairs of hexadecimal digits, with blanks and colons between any of them. Every
text of this form is read as the bytes that its pairs denote, and so are bytes as they are shown. But
a pair is read as a numeral, which may have a plus sign before it: a sign and one digit are taken for
a pair, too. The texts that are read are those of pairs of both kinds, and no others.
-/

namespace RemoteDevice.CommandLine

open Text

/-! ## Pairs -/

/-- The two characters are hexadecimal digits, and this is the byte that they denote. -/
def IsPair (a b : Char) (byte : UInt8) : Prop :=
  IsNumeral 16 [a, b] byte.toNat

/-- The two characters are a plus sign and a hexadecimal digit, and this is the digit's value. -/
def IsSignedPair (a b : Char) (byte : UInt8) : Prop :=
  a = '+' ∧ IsNumeral 16 [b] byte.toNat

/-- The text is pairs of characters, and each pair stands for its byte. -/
inductive Pairs (R : Char → Char → UInt8 → Prop) : List Char → Bytes → Prop
  | nil : Pairs R [] []
  | cons {a b : Char} {byte : UInt8} {cs : List Char} {bytes : Bytes} :
    R a b byte → Pairs R cs bytes → Pairs R (a :: b :: cs) (byte :: bytes)

/-- The pairs that are read. -/
def IsRead (a b : Char) (byte : UInt8) : Prop :=
  IsPair a b byte ∨ IsSignedPair a b byte

variable {a b : Char} {byte : UInt8} {cs : List Char} {bytes : Bytes}

theorem Pairs.imp {R S : Char → Char → UInt8 → Prop} (h : Pairs R cs bytes)
    (himp : ∀ a b byte, R a b byte → S a b byte) : Pairs S cs bytes := by
  induction h with
  | nil => exact .nil
  | cons hpair _ ih => exact .cons (himp _ _ _ hpair) ih

theorem Pairs.length_eq {R : Char → Char → UInt8 → Prop} (h : Pairs R cs bytes) :
    cs.length = 2 * bytes.length := by
  induction h with
  | nil => rfl
  | cons _ _ ih => simp only [List.length_cons, ih]; omega

/-! ## Reading -/

/-- A pair of characters is read as a byte if both are digits, and also if the first is a plus. -/
theorem numeral?_pair_iff {n : Nat} :
    numeral? 16 256 [a, b] = some n ↔ n < 256 ∧ (IsNumeral 16 [a, b] n ∨ a = '+' ∧ IsNumeral 16 [b] n) := by
  rw [numeral?_eq_some_iff (Nat.le_refl 16), and_comm]
  refine and_congr_right fun _ => ?_
  by_cases ha : a = '+'
  · subst ha
    have hsign : ¬ IsNumeral 16 ['+', b] n := fun h =>
      h.not_mem (Nat.le_refl 16) (by decide) List.mem_cons_self
    simp [dropPlus, hsign]
  · have hdrop : dropPlus [a, b] = [a, b] := by
      unfold dropPlus
      split
      · next heq => exact absurd (List.cons.inj heq).1 ha
      · rfl
    simp [hdrop, ha]

/-- A pair that is read stands for the byte of its numeral. -/
theorem isRead_iff : IsRead a b byte ↔ numeral? 16 256 [a, b] = some byte.toNat :=
  (numeral?_pair_iff.trans (and_iff_right byte.toNat_lt)).symm

/-- Characters are read as bytes exactly if they are pairs that can be read. -/
theorem pairBytes_eq_ok_iff : pairBytes cs = .ok bytes ↔ Pairs IsRead cs bytes := by
  induction cs using pairBytes.induct generalizing bytes with
  | case1 a b rest n hn ih =>
    have hlt : n < 256 := (numeral?_pair_iff.1 hn).1
    have hbyte : (UInt8.ofNat n).toNat = n := UInt8.toNat_ofNat_of_lt' hlt
    rw [pairBytes, hn]
    constructor
    · intro h
      cases hrest : pairBytes rest with
      | error e => simp [hrest, Except.map] at h
      | ok tail =>
        rw [hrest] at h
        obtain rfl := Except.ok.inj h
        exact .cons (isRead_iff.2 (hbyte.symm ▸ hn)) (ih.1 hrest)
    · intro h
      cases h with
      | cons hpair hpairs =>
        rw [isRead_iff, hn, Option.some.injEq] at hpair
        simp [ih.2 hpairs, Except.map, hpair]
  | case2 a b rest hn =>
    rw [pairBytes, hn]
    refine iff_of_false (by simp) fun h => ?_
    cases h with
    | cons hpair _ => simp [isRead_iff.1 hpair] at hn
  | case3 =>
    constructor
    · intro h
      obtain rfl := Except.ok.inj h
      exact .nil
    · intro h
      cases h
      rfl
  | case4 a =>
    refine iff_of_false (by simp [pairBytes]) fun h => ?_
    cases h

/-- A text is read as the bytes of its pairs. -/
theorem parsePayload_eq_ok_iff {s : String} :
    parsePayload s = .ok bytes ↔ Pairs IsRead (payloadDigits s.toList) bytes := by
  rw [← pairBytes_eq_ok_iff]
  unfold parsePayload
  dsimp only
  split
  · next hodd =>
    refine iff_of_false (by simp) fun h => hodd ?_
    rw [(pairBytes_eq_ok_iff.1 h).length_eq]
    omega
  · exact Iff.rfl

/-! ## Pairs of digits -/

theorem plus_mem_payloadDigits_iff : '+' ∈ payloadDigits cs ↔ '+' ∈ cs := by
  unfold payloadDigits
  rw [List.mem_filter]
  exact and_iff_left (by decide)

theorem Pairs.plus_notMem (h : Pairs IsPair cs bytes) : '+' ∉ cs := by
  induction h with
  | nil => simp
  | cons hpair _ ih =>
    have hplus := hpair.not_mem (Nat.le_refl 16) (by decide : digitValue? 16 '+' = none)
    simp only [List.mem_cons, List.not_mem_nil, or_false, not_or] at hplus ⊢
    exact ⟨hplus.1, hplus.2, ih⟩

/-- Without a plus sign all pairs that are read are pairs of digits. -/
theorem Pairs.of_plus_notMem (h : Pairs IsRead cs bytes) (hplus : '+' ∉ cs) :
    Pairs IsPair cs bytes := by
  induction h with
  | nil => exact .nil
  | cons hpair _ ih =>
    simp only [List.mem_cons, not_or] at hplus
    refine .cons ?_ (ih hplus.2.2)
    rcases hpair with hdigits | ⟨rfl, -⟩
    · exact hdigits
    · exact absurd rfl hplus.1

/-- Digits can be taken in pairs if their number is even. -/
theorem exists_pairs_iff : (∃ bytes, Pairs IsPair cs bytes) ↔
    cs.length % 2 = 0 ∧ ∀ c ∈ cs, ∃ d, IsDigit 16 c d := by
  constructor
  · rintro ⟨bytes, h⟩
    refine ⟨by rw [h.length_eq]; omega, ?_⟩
    induction h with
    | nil => simp
    | cons hpair _ ih =>
      obtain ⟨high, low, hhigh, hlow, -⟩ := isNumeral_pair_iff.1 hpair
      exact List.forall_mem_cons.2 ⟨⟨high, hhigh⟩, List.forall_mem_cons.2 ⟨⟨low, hlow⟩, ih⟩⟩
  · rintro ⟨heven, hdigits⟩
    induction cs using List.twoStepInduction with
    | nil => exact ⟨[], .nil⟩
    | singleton a => simp at heven
    | cons_cons a b rest ih _ =>
      obtain ⟨⟨high, hhigh⟩, ⟨low, hlow⟩, hrest⟩ := by simpa using hdigits
      have heven' : rest.length % 2 = 0 := by
        simp only [List.length_cons] at heven
        omega
      obtain ⟨bytes, hbytes⟩ := ih heven' hrest
      have hlt : high * 16 + low < 256 := by
        have := hhigh.1
        have := hlow.1
        omega
      refine ⟨UInt8.ofNat (high * 16 + low) :: bytes, .cons ?_ hbytes⟩
      exact isNumeral_pair_iff.2 ⟨high, low, hhigh, hlow, UInt8.toNat_ofNat_of_lt' hlt⟩

/-! ## Bytes as they are shown -/

/-- A byte is shown as a pair of digits. -/
theorem isNumeral_hexByte (byte : UInt8) : IsNumeral 16 (hexByte byte) byte.toNat := by
  have hdigit : ∀ d < 16, IsDigit 16 (hexDigit d) d := by decide
  have hlt := byte.toNat_lt
  refine isNumeral_pair_iff.2 ⟨byte.toNat / 16, byte.toNat % 16, ?_, ?_, ?_⟩
  · exact hdigit _ (by omega)
  · exact hdigit _ (by omega)
  · omega

theorem pairs_hexBytes (bytes : Bytes) : Pairs IsPair (bytes.flatMap hexByte) bytes := by
  induction bytes with
  | nil => exact .nil
  | cons byte bytes ih => exact .cons (isNumeral_hexByte byte) ih

/-- No digit of a shown byte is dropped. -/
theorem payloadDigits_hexByte (byte : UInt8) : payloadDigits (hexByte byte) = hexByte byte := by
  have hnumeral := isNumeral_hexByte byte
  refine List.filter_eq_self.2 fun c hc => ?_
  obtain ⟨d, hd⟩ := hnumeral.exists_isDigit hc
  have hcolon : c ≠ ':' := by
    rintro rfl
    exact hnumeral.not_mem (Nat.le_refl 16) (by decide) hc
  simp [hd.isBlank_eq_false (Nat.le_refl 16), hcolon]

/-- The digits of bytes as they are shown are those of the bytes one after another. -/
theorem payloadDigits_formatPayload (bytes : Bytes) :
    payloadDigits (formatPayload bytes).toList = bytes.flatMap hexByte := by
  have hshown : ∀ byte, payloadDigits (String.ofList (hexByte byte)).toList = hexByte byte :=
    fun byte => by rw [String.toList_ofList, payloadDigits_hexByte]
  unfold formatPayload
  rw [String.toList_intercalate, List.map_map]
  induction bytes with
  | nil => rfl
  | cons byte bytes ih =>
    unfold payloadDigits at ih hshown ⊢
    cases bytes with
    | nil => simpa [List.intercalate] using hshown byte
    | cons next bytes =>
      -- the space between the bytes is dropped
      have hspace : (" ".toList.filter fun c => !isBlank c && c != ':') = [] := by decide
      rw [List.map_cons, List.map_cons, List.intercalate_cons_cons, ← List.map_cons,
        List.filter_append, List.filter_append, ih, hspace, List.append_nil, List.flatMap_cons]
      exact congrArg (· ++ _) (hshown byte)

/-- The texts that are read as payloads are, without blanks and colons, those of pairs of which each
is two hexadecimal digits, or a plus sign and one. Those of pairs of digits only are the ones without
a plus sign among them, and they are all the texts with an even number of digits and nothing else.
Bytes as they are shown are read as these bytes. -/
theorem payload_pairs (s : String) (bytes : Bytes) :
    (parsePayload s = .ok bytes ↔ Pairs IsRead (payloadDigits s.toList) bytes) ∧
    (Pairs IsPair (payloadDigits s.toList) bytes ↔ parsePayload s = .ok bytes ∧ '+' ∉ s.toList) ∧
    ((∃ bytes, Pairs IsPair (payloadDigits s.toList) bytes) ↔
      (payloadDigits s.toList).length % 2 = 0 ∧
        ∀ c ∈ payloadDigits s.toList, ∃ d, IsDigit 16 c d) ∧
    parsePayload (formatPayload bytes) = .ok bytes := by
  refine ⟨parsePayload_eq_ok_iff, ?_, exists_pairs_iff, ?_⟩
  · rw [parsePayload_eq_ok_iff, ← plus_mem_payloadDigits_iff]
    constructor
    · intro h
      exact ⟨h.imp fun _ _ _ => Or.inl, h.plus_notMem⟩
    · rintro ⟨h, hplus⟩
      exact h.of_plus_notMem hplus
  · rw [parsePayload_eq_ok_iff, payloadDigits_formatPayload]
    exact (pairs_hexBytes bytes).imp fun _ _ _ => Or.inl

/-- Bytes in letters of both cases, with a blank and a colon between their digits, and as they are
shown. -/
theorem payload_pairs_of_two :
    '+' ∉ "d:eA D".toList ∧ Pairs IsPair (payloadDigits "d:eA D".toList) [0xde, 0xad] ∧
    formatPayload [0xde, 0xad] = "de ad" ∧
    parsePayload (formatPayload [0xde, 0xad]) = .ok [0xde, 0xad] := by
  obtain ⟨-, hdigits, -, hshown⟩ := payload_pairs "d:eA D" [0xde, 0xad]
  have hread : parsePayload "d:eA D" = .ok [0xde, 0xad] := rfl
  have hplus : '+' ∉ "d:eA D".toList := by decide
  exact ⟨hplus, hdigits.2 ⟨hread, hplus⟩, rfl, hshown⟩

/-- A sign and a digit are read as the digit alone, although a sign is no digit. -/
theorem payload_of_sign :
    parsePayload "+5" = .ok [5] ∧ ¬ ∀ c ∈ payloadDigits "+5".toList, ∃ d, IsDigit 16 c d := by
  refine ⟨rfl, fun h => ?_⟩
  obtain ⟨d, hd⟩ := h '+' (by decide)
  exact not_isDigit (Nat.le_refl 16) (by decide) d hd

end RemoteDevice.CommandLine
