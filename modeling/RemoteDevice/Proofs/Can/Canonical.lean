import RemoteDevice.Can.Frame

/-!
# Proofs.Can.Canonical — the canonical form of ids

The canonical form of an id has at most 11 bits, or the flag and at most 29 bits more. Bringing an id
into this form a second time changes nothing. A proper id is its own canonical form if it is a
standard one or has the flag, and otherwise lacks the flag and nothing else.
-/

namespace RemoteDevice.Can

/-- Without its flag the id has 29 bits at most. -/
def IsProper (id : UInt32) : Prop :=
  id % extendedFlag ≤ maxExtended

instance (id : UInt32) : Decidable (IsProper id) :=
  inferInstanceAs (Decidable (_ ≤ _))

/-- The id is a standard one, or an extended one with its flag. -/
def IsPlain (id : UInt32) : Prop :=
  id ≤ maxStandard ∨ extendedFlag ≤ id

instance (id : UInt32) : Decidable (IsPlain id) :=
  inferInstanceAs (Decidable (_ ∨ _))

/-- The proper ids are those that have at most 29 bits below the flag. -/
theorem isProper_iff {id : UInt32} : IsProper id ↔ id.toNat % 0x80000000 < 0x20000000 := by
  have hflag : (id % extendedFlag).toNat = id.toNat % 0x80000000 := UInt32.toNat_mod _ _
  unfold IsProper
  rw [UInt32.le_iff_toNat_le, hflag]
  exact Nat.lt_succ_iff.symm

/-- The plain ids are the standard ones, and all that have the flag. -/
theorem isPlain_iff {id : UInt32} : IsPlain id ↔ id.toNat < 0x800 ∨ 0x80000000 ≤ id.toNat := by
  unfold IsPlain
  rw [UInt32.le_iff_toNat_le, UInt32.le_iff_toNat_le]
  exact or_congr_left Nat.lt_succ_iff.symm

/-- An id is extended if it has the flag, which is the highest bit. -/
theorem isExtended_iff {id : UInt32} : isExtended id = true ↔ 0x80000000 ≤ id.toNat := by
  unfold isExtended
  rw [decide_eq_true_iff, UInt32.le_iff_toNat_le]
  rfl

theorem toNat_rawId (id : UInt32) : (rawId id).toNat = id.toNat % 0x20000000 :=
  UInt32.toNat_mod _ _

theorem toNat_flag_add {n : UInt32} (h : n.toNat < 0x20000000) :
    (extendedFlag + n).toNat = 0x80000000 + n.toNat := by
  rw [UInt32.toNat_add]
  exact Nat.mod_eq_of_lt (by show 0x80000000 + n.toNat < 0x100000000; omega)

/-- The canonical form keeps the lower 29 bits, and has the flag if the id had it or these bits are
more than a standard id has. -/
theorem toNat_canonicalId (id : UInt32) : (canonicalId id).toNat =
    if 0x80000000 ≤ id.toNat ∨ 0x800 ≤ id.toNat % 0x20000000 then
      0x80000000 + id.toNat % 0x20000000
    else id.toNat % 0x20000000 := by
  have hraw := toNat_rawId id
  have hhigh : maxStandard < rawId id ↔ 0x800 ≤ id.toNat % 0x20000000 := by
    rw [UInt32.lt_iff_toNat_lt, hraw]
    rfl
  have hsum : (extendedFlag + rawId id).toNat = 0x80000000 + id.toNat % 0x20000000 := by
    rw [toNat_flag_add (by omega), hraw]
  unfold canonicalId
  simp only [Bool.or_eq_true, decide_eq_true_iff, isExtended_iff, hhigh]
  split
  · exact hsum
  · exact hraw

/-- The ids that are canonical already: the standard ones, and those of 29 bits with the flag. -/
theorem canonicalId_eq_self_iff {id : UInt32} :
    canonicalId id = id ↔ id.toNat < 0x800 ∨ 0x80000000 ≤ id.toNat ∧ id.toNat < 0xa0000000 := by
  rw [← UInt32.toNat_inj, toNat_canonicalId]
  split <;> omega

/-- No canonical form has more than 29 bits and the flag. -/
theorem toNat_canonicalId_lt (id : UInt32) : (canonicalId id).toNat < 0xa0000000 := by
  rw [toNat_canonicalId]
  split <;> omega

/-- The canonical form is its own. -/
theorem canonicalId_canonicalId (id : UInt32) : canonicalId (canonicalId id) = canonicalId id := by
  apply UInt32.toNat_inj.1
  rw [toNat_canonicalId (canonicalId id), toNat_canonicalId id]
  -- the flag shows in the canonical form, and without it the form has 11 bits
  split <;> split <;> omega

/-- The canonical form of a proper id is the id itself, or the id with the flag. -/
theorem toNat_canonicalId_of_isProper {id : UInt32} (h : IsProper id) : (canonicalId id).toNat =
    if IsPlain id then id.toNat else 0x80000000 + id.toNat := by
  have hlt := id.toNat_lt
  have hlow := isProper_iff.1 h
  rw [toNat_canonicalId]
  simp only [isPlain_iff]
  split <;> split <;> omega

end RemoteDevice.Can
