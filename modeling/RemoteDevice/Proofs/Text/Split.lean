import Mathlib.Data.List.DropRight
import Mathlib.Data.List.TakeWhile
import RemoteDevice.Text.Split

/-!
# Proofs.Text.Split — where the pieces of a text stand

A piece of a text holds no separator and stands between two of them, or between a separator and an
end of the text. The pieces that a text is cut into are all those that stand so somewhere in it. A
text that is cut in two has none of its marks before the first one, or behind the last one.

Trimming takes the blanks from both ends of a text and nothing else. What is left does not begin with
a blank, and a text that has none at its ends stays as it is.
-/

namespace RemoteDevice.Text

/-- Somewhere in the text the piece stands between separators or ends of the text, and no separator
is in it. -/
def IsPiece (isSeparator : Char → Bool) (cs piece : List Char) : Prop :=
  (∀ c ∈ piece, isSeparator c = false) ∧ ∃ before after, cs = before ++ piece ++ after ∧
    (∀ c ∈ before.getLast?, isSeparator c = true) ∧ ∀ c ∈ after.head?, isSeparator c = true

variable {p : Char → Bool}

/-- A character that is no separator belongs to the first piece. -/
theorem pieces_cons_of_not {c : Char} (hc : p c = false) (cs : List Char) :
    ∃ piece rest, pieces p cs = piece :: rest ∧ pieces p (c :: cs) = (c :: piece) :: rest := by
  cases h : pieces p cs with
  | nil => exact absurd h (pieces_ne_nil p cs)
  | cons piece rest =>
    refine ⟨piece, rest, rfl, ?_⟩
    rw [pieces, h]
    simp [hc]

/-- A text without separators is one piece. -/
theorem pieces_of_forall {cs : List Char} (h : ∀ c ∈ cs, p c = false) : pieces p cs = [cs] := by
  induction cs with
  | nil => rfl
  | cons c cs ih =>
    have hcs := ih fun c hc => h c (List.mem_cons_of_mem _ hc)
    obtain ⟨piece, rest, hpieces, hcons⟩ := pieces_cons_of_not (h c List.mem_cons_self) cs
    rw [hcs] at hpieces
    rcases List.cons.inj hpieces with ⟨rfl, rfl⟩
    exact hcons

/-- A separator ends one piece and begins another. -/
theorem pieces_append_cons {c : Char} (hc : p c = true) (xs ys : List Char) :
    pieces p (xs ++ c :: ys) = pieces p xs ++ pieces p ys := by
  induction xs with
  | nil => simp [pieces, hc]
  | cons x xs ih =>
    by_cases hx : p x = true
    · simp [pieces, hx, ih]
    · have hx : p x = false := Bool.not_eq_true _ ▸ hx
      obtain ⟨piece, rest, hxs, hcons⟩ := pieces_cons_of_not hx xs
      rw [List.cons_append, pieces, ih, hxs, hcons]
      simp [hx]

/-- The first piece is what stands before the first separator. -/
theorem head?_pieces (p : Char → Bool) (cs : List Char) :
    (pieces p cs).head? = some (cs.takeWhile (!p ·)) := by
  induction cs with
  | nil => rfl
  | cons c cs ih =>
    by_cases hc : p c = true
    · simp [pieces, hc]
    · have hc : p c = false := Bool.not_eq_true _ ▸ hc
      obtain ⟨piece, rest, hcs, hcons⟩ := pieces_cons_of_not hc cs
      rw [hcs] at ih
      rw [hcons, List.head?_cons, List.takeWhile_cons_of_pos (by simp [hc]), ← Option.some.inj ih]

theorem IsPiece.append_right {xs piece : List Char} {c : Char} (h : IsPiece p xs piece)
    (hc : p c = true) (ys : List Char) : IsPiece p (xs ++ c :: ys) piece := by
  obtain ⟨hpiece, before, after, rfl, hbefore, hafter⟩ := h
  refine ⟨hpiece, before, after ++ c :: ys, by simp, hbefore, ?_⟩
  cases after with
  | nil => simpa using hc
  | cons a after => simpa using hafter

theorem IsPiece.append_left {ys piece : List Char} {c : Char} (h : IsPiece p ys piece)
    (hc : p c = true) (xs : List Char) : IsPiece p (xs ++ c :: ys) piece := by
  obtain ⟨hpiece, before, after, rfl, hbefore, hafter⟩ := h
  refine ⟨hpiece, xs ++ c :: before, after, by simp, ?_, hafter⟩
  intro b hb
  -- the last character before the piece is the separator, unless the piece had others before it
  rw [List.getLast?_append, List.getLast?_cons, Option.some_or, Option.mem_some_iff] at hb
  cases hlast : before.getLast? with
  | none => simpa [hlast, ← hb] using hc
  | some a => simpa [hlast, ← hb] using hbefore a hlast

/-- What a text is split into stands in it between separators. -/
theorem isPiece_of_mem_pieces {cs piece : List Char} (h : piece ∈ pieces p cs) :
    IsPiece p cs piece := by
  -- induction on the length: the pieces on either side of a separator are those of a shorter text
  induction hlength : cs.length using Nat.strongRecOn generalizing cs with
  | _ n ih =>
    by_cases hcs : ∃ c ∈ cs, p c = true
    · obtain ⟨c, hmem, hc⟩ := hcs
      obtain ⟨xs, ys, rfl⟩ := List.append_of_mem hmem
      simp only [List.length_append, List.length_cons] at hlength
      rw [pieces_append_cons hc, List.mem_append] at h
      rcases h with h | h
      · exact (ih xs.length (by omega) h rfl).append_right hc ys
      · exact (ih ys.length (by omega) h rfl).append_left hc xs
    · have hcs : ∀ c ∈ cs, p c = false := fun c hmem => by
        simpa using fun hc => hcs ⟨c, hmem, hc⟩
      rw [pieces_of_forall hcs, List.mem_singleton] at h
      subst h
      exact ⟨hcs, [], [], by simp, by simp, by simp⟩

/-- A text is split into exactly what stands in it between separators. -/
theorem mem_pieces {cs piece : List Char} : piece ∈ pieces p cs ↔ IsPiece p cs piece := by
  refine ⟨isPiece_of_mem_pieces, ?_⟩
  rintro ⟨hpiece, before, after, rfl, hbefore, hafter⟩
  have hright : piece ∈ pieces p (piece ++ after) := by
    cases after with
    | nil =>
      rw [List.append_nil, pieces_of_forall hpiece]
      exact List.mem_singleton_self _
    | cons c after =>
      rw [pieces_append_cons (hafter c rfl), pieces_of_forall hpiece]
      exact List.mem_cons_self
  rcases List.eq_nil_or_concat before with rfl | ⟨before, c, rfl⟩
  · exact hright
  · have hc : p c = true := hbefore c (by simp)
    rw [List.concat_eq_append, List.append_assoc, List.append_assoc, List.singleton_append,
      pieces_append_cons hc]
    exact List.mem_append_right _ hright

/-! ## The first mark -/

/-- Nothing is cut off at a mark exactly if there is none. -/
theorem takeWhile_bne_eq_self_iff {mark : Char} {cs : List Char} :
    cs.takeWhile (· != mark) = cs ↔ mark ∉ cs := by
  rw [List.takeWhile_eq_self_iff]
  constructor
  · intro hall hmark
    simpa using hall mark hmark
  · intro hmark c hc
    rw [bne_iff_ne]
    rintro rfl
    exact hmark hc

/-- A text can be cut at a mark exactly if the mark is in it. -/
theorem cutFirst?_eq_none_iff {mark : Char} {cs : List Char} :
    cutFirst? mark cs = none ↔ mark ∉ cs := by
  induction cs with
  | nil => simp [cutFirst?]
  | cons c cs ih =>
    rw [cutFirst?]
    by_cases hc : c = mark
    · simp [hc]
    · simp [hc, ih, Ne.symm hc]

/-- A text is cut at a mark with no other one before it. -/
theorem cutFirst?_append {mark : Char} {before : List Char} (h : mark ∉ before)
    (after : List Char) : cutFirst? mark (before ++ mark :: after) = some (before, after) := by
  induction before with
  | nil => simp [cutFirst?]
  | cons c before ih =>
    rw [List.mem_cons, not_or] at h
    rw [List.cons_append, cutFirst?, if_neg (Ne.symm h.1), ih h.2]
    rfl

/-! ## The last mark -/

theorem cutLast?_eq_none_iff {mark : Char} {cs : List Char} :
    cutLast? mark cs = none ↔ mark ∉ cs := by
  induction cs with
  | nil => simp [cutLast?]
  | cons c cs ih =>
    rw [cutLast?, List.mem_cons, not_or, ← ih]
    cases cutLast? mark cs with
    | none => simp [eq_comm]
    | some parts => simp

/-- A text is cut at a mark with no other one behind it. -/
theorem cutLast?_append {mark : Char} {after : List Char} (h : mark ∉ after)
    (before : List Char) : cutLast? mark (before ++ mark :: after) = some (before, after) := by
  induction before with
  | nil => simp [cutLast?, cutLast?_eq_none_iff.2 h]
  | cons c before ih => rw [List.cons_append, cutLast?, ih]

/-- There is only one place in a text where its last mark stands. -/
theorem last_mark_unique {mark : Char} {before before' after after' : List Char}
    (h : before ++ mark :: after = before' ++ mark :: after') (hafter : mark ∉ after)
    (hafter' : mark ∉ after') : before = before' ∧ after = after' := by
  have hcut := cutLast?_append hafter before
  rw [h, cutLast?_append hafter', Option.some.injEq, Prod.mk.injEq] at hcut
  exact ⟨hcut.1.symm, hcut.2.symm⟩

/-- A text is cut at its last mark: there is none behind it. -/
theorem cutLast?_eq_some_iff {mark : Char} {cs before after : List Char} :
    cutLast? mark cs = some (before, after) ↔ cs = before ++ mark :: after ∧ mark ∉ after := by
  constructor
  · intro h
    refine ⟨eq_append_of_cutLast? h, ?_⟩
    -- behind the first mark there would be another one to cut at
    induction cs generalizing before with
    | nil => simp [cutLast?] at h
    | cons c cs ih =>
      rw [cutLast?] at h
      cases hcs : cutLast? mark cs with
      | some parts =>
        rw [hcs] at h
        obtain ⟨rfl, rfl⟩ := Prod.mk.inj (Option.some.inj h)
        exact ih hcs
      | none =>
        rw [hcs] at h
        by_cases hc : c = mark
        · simp only [if_pos hc, Option.some.injEq, Prod.mk.injEq] at h
          obtain ⟨-, rfl⟩ := h
          exact cutLast?_eq_none_iff.1 hcs
        · simp [hc] at h
  · rintro ⟨rfl, h⟩
    exact cutLast?_append h before

/-! ## Trimming -/

section Trimming

variable {cs : List Char}

theorem trim_eq_rdropWhile (cs : List Char) :
    trim cs = (cs.dropWhile isBlank).rdropWhile isBlank :=
  rfl

/-- Trimming leaves characters out and changes none. -/
theorem trim_sublist (cs : List Char) : (trim cs).Sublist cs := by
  rw [trim_eq_rdropWhile]
  exact (List.rdropWhile_prefix _ _).sublist.trans (List.dropWhile_sublist _)

theorem isBlank_of_trim_eq_cons {c : Char} {rest : List Char} (h : trim cs = c :: rest) :
    isBlank c = false := by
  obtain ⟨behind, hbehind⟩ := List.rdropWhile_prefix isBlank (cs.dropWhile isBlank)
  rw [← trim_eq_rdropWhile, h] at hbehind
  have hfirst := List.head?_dropWhile_not isBlank cs
  rwa [← hbehind] at hfirst

/-- A text with no blank at its two ends stays as it is. -/
theorem trim_eq_self (hfirst : ∀ c ∈ cs.head?, isBlank c = false)
    (hlast : ∀ c ∈ cs.getLast?, isBlank c = false) : trim cs = cs := by
  have hfront : cs.dropWhile isBlank = cs := by
    cases cs with
    | nil => rfl
    | cons c rest => exact List.dropWhile_cons_of_neg (by simp [hfirst c rfl])
  rw [trim_eq_rdropWhile, hfront, List.rdropWhile_eq_self_iff]
  intro hne
  have hend := hlast _ (List.getLast?_eq_some_getLast hne)
  simp [hend]

end Trimming

end RemoteDevice.Text
