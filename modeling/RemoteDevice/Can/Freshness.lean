/-!
# Can.Freshness — one bit per slot

Bits packed into words of 32. Marking a slot turns its bit on and leaves the others; clearing turns
all of them off. Every slot has its bit in some word, also where their number is no multiple of 32.
-/

namespace RemoteDevice.Can

/-- The bits. -/
structure Freshness where
  words : Array (BitVec 32)

namespace Freshness

/-- No slot of `n` is fresh. -/
def none (n : Nat) : Freshness :=
  ⟨Array.replicate ((n + 31) / 32) 0⟩

/-- Whether slot `i` is fresh. -/
def test (f : Freshness) (i : Nat) : Bool :=
  match f.words[i / 32]? with
  | some word => word.getLsbD (i % 32)
  | .none => false

/-- Slot `i` becomes fresh. -/
def mark (f : Freshness) (i : Nat) : Freshness :=
  ⟨f.words.modify (i / 32) (· ||| 1#32 <<< (i % 32))⟩

/-- Every slot becomes stale. -/
def clear (f : Freshness) : Freshness :=
  ⟨f.words.map fun _ => 0⟩

theorem test_none (n i : Nat) : (none n).test i = false := by
  simp only [test, none, Array.getElem?_replicate]
  split
  · next h =>
    split at h
    · rcases Option.some.inj h with rfl
      simp
    · simp at h
  · rfl

theorem test_clear (f : Freshness) (i : Nat) : f.clear.test i = false := by
  simp only [test, clear, Array.getElem?_map]
  cases f.words[i / 32]? <;> simp

/-- Marking a place makes it fresh, and no other. -/
theorem test_mark {f : Freshness} {i : Nat} (h : i / 32 < f.words.size) (j : Nat) :
    (f.mark i).test j = (decide (i = j) || f.test j) := by
  simp only [test, mark, Array.getElem?_modify]
  by_cases hw : i / 32 = j / 32
  · rw [if_pos hw, ← hw, Array.getElem?_eq_getElem h]
    have hj : j % 32 < 32 := Nat.mod_lt _ (by decide)
    simp only [Option.map_some, BitVec.getLsbD_or, BitVec.getLsbD_shiftLeft, BitVec.getLsbD_one]
    by_cases hij : i = j
    · subst hij
      simp [hj]
    · have hne : i % 32 ≠ j % 32 := by omega
      simp only [hij, decide_false, Bool.false_or]
      by_cases hlt : j % 32 < i % 32
      · simp [hlt]
      · have : j % 32 - i % 32 ≠ 0 := by omega
        simp [this]
  · have hij : i ≠ j := by rintro rfl; exact hw rfl
    simp [hw, hij]

end Freshness

end RemoteDevice.Can
