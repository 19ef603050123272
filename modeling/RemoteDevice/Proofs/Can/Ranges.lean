import RemoteDevice.Proofs.Can.Denotation

/-!
# Proofs.Can.Ranges — ranges as numbers and as texts

A filter of a range is made of two numbers, or read from a text with the same ends. Where the ends
are proper ids the two agree, whether they give a filter or refuse the range. Only reading asks
whether the ends are proper, though: of other numbers no range is read, while the range itself is
made, from the canonical forms of numbers that are no ids.
-/

namespace RemoteDevice.Can.FilterSet

open Text
open Transport (Error maxIds)

/-! ## The written form of a range -/

/-- The characters of a range: its ends in hexadecimal, and a dash between them. -/
def writtenChars (first last : UInt32) : List Char :=
  hexDigits first.toNat ++ '-' :: hexDigits last.toNat

/-- A range as it is written. -/
def written (first last : UInt32) : String :=
  String.ofList (writtenChars first last)

variable {first last stop id : UInt32}

/-- The characters of a range are digits and a dash, which stay as they are when it is read. -/
theorem eq_dash_or_digitChar {c : Char} (h : c ∈ writtenChars first last) :
    c = '-' ∨ ∃ d < 16, c = Nat.digitChar d := by
  have hdigits : ∀ n, c ∈ hexDigits n → ∃ d < 16, c = Nat.digitChar d := by
    intro n hc
    obtain ⟨ds, hds, -, hlt, -⟩ := exists_toDigits (by decide : 1 < 16) n
    rw [hexDigits, hds] at hc
    obtain ⟨d, hd, rfl⟩ := List.mem_map.1 hc
    exact ⟨d, hlt d hd, rfl⟩
  rcases List.mem_append.1 h with hc | hc
  · exact Or.inr (hdigits _ hc)
  · rcases List.mem_cons.1 hc with rfl | hc
    · exact Or.inl rfl
    · exact Or.inr (hdigits _ hc)

/-- The characters that a range is written with are lower-case ASCII, and none of them is a blank or
a separator. -/
theorem plain_of_mem_writtenChars {c : Char} (h : c ∈ writtenChars first last) :
    c.toNat < 0x80 ∧ c.toLower = c ∧ isBlank c = false ∧ isSeparator c = false := by
  have hdigits : ∀ d < 16, (Nat.digitChar d).toNat < 0x80 ∧
      (Nat.digitChar d).toLower = Nat.digitChar d ∧ isBlank (Nat.digitChar d) = false ∧
      isSeparator (Nat.digitChar d) = false := by decide
  rcases eq_dash_or_digitChar h with rfl | ⟨d, hd, rfl⟩
  · decide
  · exact hdigits d hd

/-- A range that is written has no blanks to be dropped and no letters to be made lower-case. -/
theorem normalise_written (first last : UInt32) :
    normalise (written first last) = writtenChars first last := by
  have hblank : dropBlanks (writtenChars first last) = writtenChars first last :=
    List.filter_eq_self.2 fun c hc => by simp [(plain_of_mem_writtenChars hc).2.2.1]
  unfold normalise written lowercase
  rw [String.toList_ofList, hblank,
    lowercaseAfter_of_ascii fun c hc => (plain_of_mem_writtenChars hc).1]
  exact (List.map_congr_left fun c hc => (plain_of_mem_writtenChars hc).2.1).trans (List.map_id _)

/-- A range that is written is a single token. -/
theorem tokens_writtenChars (first last : UInt32) :
    tokens (writtenChars first last) = [writtenChars first last] := by
  have hpieces : pieces isSeparator (writtenChars first last) = [writtenChars first last] :=
    pieces_of_forall fun c hc => (plain_of_mem_writtenChars hc).2.2.2
  unfold tokens
  show (pieces isSeparator _).filter _ = _
  rw [hpieces]
  simp [writtenChars]

/-! ## Reading a range -/

/-- The digits of an id are read back as this id if it is proper, and refused otherwise. -/
theorem parseId_hexDigits (id : UInt32) : parseId (hexDigits id.toNat) =
    if IsProper id then .ok id else .error (.malformed (.canIdRange (hexDigits id.toNat))) := by
  have hnumeral : IsNumeral 16 (hexDigits id.toNat) id.toNat := isNumeral_toDigits (by decide) _
  exact parseId_of_isNumeral ((dropMark_of_isNumeral hnumeral).symm ▸ hnumeral)

/-- A range that is written is read by its two ends and refused if they are out of order. -/
theorem parseToken_writtenChars (first last : UInt32) : parseToken (writtenChars first last) =
    (parseId (hexDigits first.toNat)).bind fun a => (parseId (hexDigits last.toNat)).bind fun b =>
      if b < a then .error (.malformed (.descending (writtenChars first last))) else span a b := by
  have hnumeral := isNumeral_toDigits (by decide : 1 < 16) first.toNat
  exact parseToken_append (hnumeral.not_mem (Nat.le_refl 16) (by decide))

/-- A range between proper ids is read as it is made of numbers. -/
theorem parseToken_of_isProper (hfirst : IsProper first) (hlast : IsProper last)
    (hle : first ≤ last) : parseToken (writtenChars first last) = span first last := by
  simp only [parseToken_writtenChars, parseId_hexDigits, if_pos hfirst, if_pos hlast, Except.bind,
    if_neg (UInt32.not_lt.2 hle)]

/-- A range with an end that is no proper id is refused on account of this end. -/
theorem parseToken_of_not_isProper (h : ¬(IsProper first ∧ IsProper last)) :
    ∃ id, (id = first ∨ id = last) ∧ ¬ IsProper id ∧ parseToken (writtenChars first last) =
      .error (.malformed (.canIdRange (hexDigits id.toNat))) := by
  by_cases hfirst : IsProper first
  · have hlast : ¬ IsProper last := fun hlast => h ⟨hfirst, hlast⟩
    refine ⟨last, Or.inr rfl, hlast, ?_⟩
    simp only [parseToken_writtenChars, parseId_hexDigits, if_pos hfirst, if_neg hlast, Except.bind]
  · refine ⟨first, Or.inl rfl, hfirst, ?_⟩
    simp only [parseToken_writtenChars, parseId_hexDigits, if_neg hfirst, Except.bind]

theorem parse_written_of_error {e : Error}
    (h : parseToken (writtenChars first last) = .error e) :
    parse (written first last) = .error e := by
  unfold parse
  rw [normalise_written, tokens_writtenChars, parseTokens_cons_of_error h]

/-- A single token that is read gives a filter of its ids. -/
theorem parse_written_of_ok {ids : List UInt32}
    (h : parseToken (writtenChars first last) = .ok ids) (hlength : ids.length ≤ maxIds) :
    parse (written first last) = .ok (ofList ids) := by
  have hsize : ¬ maxIds < (empty.insertAll ids).size :=
    Nat.not_lt.2 ((size_ofList_le ids).trans hlength)
  unfold parse
  rw [normalise_written, tokens_writtenChars, parseTokens_cons_of_ok h, if_neg hsize]
  rfl

/-! ## Ranges of numbers -/

/-- The last id of a range that is not empty is the one before its stop. -/
theorem le_pred_of_lt (h : first < stop) : first ≤ stop - 1 ∧
    (stop - 1).toNat = stop.toNat - 1 := by
  have hlt := UInt32.lt_iff_toNat_lt.1 h
  have hone : (1 : UInt32) ≤ stop := UInt32.le_iff_toNat_le.2 (by show 1 ≤ stop.toNat; omega)
  have hpred : (stop - 1).toNat = stop.toNat - 1 := UInt32.toNat_sub_of_le _ _ hone
  refine ⟨UInt32.le_iff_toNat_le.2 ?_, hpred⟩
  omega

/-- A range of numbers that is not too wide is the canonical forms of these numbers. -/
theorem range_eq_ok_iff (h : first < stop) {f : FilterSet} : range first stop = .ok f ↔
    stop.toNat - first.toNat ≤ maxIds ∧
      f = ofList (idsFrom first ((stop - 1).toNat - first.toNat + 1)) := by
  obtain ⟨hle, hpred⟩ := le_pred_of_lt h
  have hlt := UInt32.lt_iff_toNat_lt.1 h
  have hwidth : (stop - 1).toNat - first.toNat + 1 = stop.toNat - first.toNat := by omega
  unfold range
  rw [if_neg (UInt32.not_le.2 h)]
  cases hspan : span first (stop - 1) with
  | error e =>
    have hwide : ¬ stop.toNat - first.toNat ≤ maxIds := fun hnarrow => by
      rw [(span_eq_ok_iff hle).2 ⟨hwidth ▸ hnarrow, rfl⟩] at hspan
      simp at hspan
    simp [Except.map, hwide]
  | ok ids =>
    obtain ⟨hnarrow, rfl⟩ := (span_eq_ok_iff hle).1 hspan
    rw [hwidth] at hnarrow
    simp [Except.map, hnarrow, eq_comm]

/-- What a range of numbers holds. -/
theorem mem_of_range (h : first < stop) {f : FilterSet} (hf : range first stop = .ok f) :
    id ∈ f.ids ↔ ∃ x, first ≤ x ∧ x < stop ∧ canonicalId x = id := by
  obtain ⟨hle, hpred⟩ := le_pred_of_lt h
  have hlt := UInt32.lt_iff_toNat_lt.1 h
  obtain ⟨-, rfl⟩ := (range_eq_ok_iff h).1 hf
  have hlast : ∀ x : UInt32, x ≤ stop - 1 ↔ x < stop := by
    intro x
    rw [UInt32.le_iff_toNat_le, UInt32.lt_iff_toNat_lt, hpred]
    omega
  rw [mem_ofList, List.mem_map]
  simp only [mem_idsFrom hle, hlast, and_assoc]

/-! ## Agreement -/

/-- Between proper ids the two are both what the span of these ids is. -/
theorem range_eq_parse_of_isProper (h : first < stop) (hfirst : IsProper first)
    (hlast : IsProper (stop - 1)) : range first stop = parse (written first (stop - 1)) := by
  obtain ⟨hle, -⟩ := le_pred_of_lt h
  have htoken := parseToken_of_isProper hfirst hlast hle
  unfold range
  rw [if_neg (UInt32.not_le.2 h)]
  cases hspan : span first (stop - 1) with
  | error e =>
    rw [parse_written_of_error (htoken.trans hspan)]
    rfl
  | ok ids =>
    obtain ⟨hnarrow, hids⟩ := (span_eq_ok_iff hle).1 hspan
    have hlength : ids.length ≤ maxIds := by simpa [hids, idsFrom] using hnarrow
    rw [parse_written_of_ok (htoken.trans hspan) hlength]
    rfl

/-- A range of numbers and the range that is written with the same ends are the same filter, or are
refused for the same reason, if these ends are proper ids. If one of them is not, the written range
is refused for it; the range of numbers is made nevertheless, unless it is too wide, and holds the
canonical forms of all the numbers. -/
theorem range_eq_parse_written (h : first < stop) :
    (IsProper first ∧ IsProper (stop - 1) →
      range first stop = parse (written first (stop - 1))) ∧
    (¬(IsProper first ∧ IsProper (stop - 1)) →
      (∃ id, (id = first ∨ id = stop - 1) ∧ ¬ IsProper id ∧
        parse (written first (stop - 1)) =
          .error (.malformed (.canIdRange (hexDigits id.toNat)))) ∧
      ((∃ f, range first stop = .ok f) ↔ stop.toNat - first.toNat ≤ maxIds)) ∧
    ∀ f, range first stop = .ok f →
      ∀ id, id ∈ f.ids ↔ ∃ x, first ≤ x ∧ x < stop ∧ canonicalId x = id := by
  refine ⟨?_, ?_, fun f hf id => mem_of_range h hf⟩
  · rintro ⟨hfirst, hlast⟩
    exact range_eq_parse_of_isProper h hfirst hlast
  · intro himproper
    obtain ⟨id, hid, hproper, htoken⟩ := parseToken_of_not_isProper himproper
    refine ⟨⟨id, hid, hproper, parse_written_of_error htoken⟩, ?_⟩
    simp only [range_eq_ok_iff h, exists_and_left, exists_eq, and_true]

/-- A range across the last standard id, as wide as a range may be. -/
theorem range_eq_parse_written_across_standard : ∃ f,
    range 0 0x1000 = .ok f ∧ parse (written 0 0xfff) = .ok f ∧ 0x80000fff ∈ f.ids := by
  have hlt : (0 : UInt32) < 0x1000 := by decide
  obtain ⟨hagree, -, hmem⟩ := range_eq_parse_written hlt
  obtain ⟨f, hf⟩ : ∃ f, range 0 0x1000 = .ok f :=
    ⟨_, (range_eq_ok_iff hlt).2 ⟨by decide, rfl⟩⟩
  have hread := hagree (by decide)
  exact ⟨f, hf, hread.symm.trans hf, (hmem f hf _).2 ⟨0xfff, by decide, by decide, by decide⟩⟩

/-- Two numbers within the ids and two beyond them: as a range they are made into a filter, that
holds the ids 0 and 1, while the written range is refused. -/
theorem range_beyond_proper_ids :
    (∃ f, range 0x1ffffffe 0x20000002 = .ok f ∧ f.ids = [0, 1, 0x9ffffffe, 0x9fffffff]) ∧
    parse (written 0x1ffffffe 0x20000001) =
      .error (.malformed (.canIdRange (hexDigits 0x20000001))) := by
  refine ⟨⟨_, rfl, rfl⟩, parse_written_of_error ?_⟩
  rfl

end RemoteDevice.Can.FilterSet
