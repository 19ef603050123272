import RemoteDevice.Proofs.Can.Spanning

/-!
# Proofs.Can.Width — how wide the buffer for a range is

A buffer for a filter reaches from the lowest id of the filter to the highest. The canonical forms
of a range of ids are as far apart as these ids, so that a buffer for them is as wide as the range
and can be made. It is different where a range goes on from the standard ids to the extended ones:
the forms of the latter have the flag, and no buffer reaches from one side to the other. So a bus
that is to buffer a range is made exactly if the range stays on one side.
-/

namespace RemoteDevice.Can

open Options
open Transport (Error maxIds)

/-! ## Ranges of ids -/

/-- The range begins among the standard ids and goes on beyond them. -/
def Straddles (first last : UInt32) : Prop :=
  first ≤ maxStandard ∧ maxStandard < last

instance (first last : UInt32) : Decidable (Straddles first last) :=
  inferInstanceAs (Decidable (_ ∧ _))

/-- A range straddles if its first number is a standard id and its last one is not. -/
theorem straddles_iff {first last : UInt32} :
    Straddles first last ↔ first.toNat < 0x800 ∧ 0x800 ≤ last.toNat := by
  unfold Straddles
  rw [UInt32.le_iff_toNat_le, UInt32.lt_iff_toNat_lt]
  exact and_congr Nat.lt_succ_iff.symm Iff.rfl

/-- A range between proper ids that has no more of them than a filter may hold. -/
structure IsRange (first last : UInt32) : Prop where
  proper_first : IsProper first
  proper_last : IsProper last
  le : first ≤ last
  narrow : last.toNat - first.toNat + 1 ≤ maxIds

variable {first last x : UInt32}

/-- What a token denotes is a range. -/
theorem FilterSet.Denotes.isRange {token : List Char} (h : Denotes token first last) :
    IsRange first last := by
  cases h with
  | id hid =>
    constructor
    · exact hid.1
    · exact hid.1
    · exact UInt32.le_refl _
    · rw [Nat.sub_self]
      decide
  | range hfirst hlast hle hnarrow =>
    constructor
    · exact hfirst.1
    · exact hlast.1
    · exact hle
    · exact hnarrow

namespace IsRange

/-- What lies between two proper ids that are near to each other is a proper id. -/
theorem isProper (h : IsRange first last) (hfirst : first ≤ x) (hlast : x ≤ last) :
    IsProper x := by
  have hlow := isProper_iff.1 h.proper_first
  have hhigh := isProper_iff.1 h.proper_last
  have hnarrow := h.narrow
  unfold maxIds at hnarrow
  rw [UInt32.le_iff_toNat_le] at hfirst hlast
  rw [isProper_iff]
  omega

/-- A range up to one of its ids is a range. -/
theorem left (h : IsRange first last) (hfirst : first ≤ x) (hlast : x ≤ last) :
    IsRange first x := by
  constructor
  · exact h.proper_first
  · exact h.isProper hfirst hlast
  · exact hfirst
  · have hle := UInt32.le_iff_toNat_le.1 hlast
    have hnarrow := h.narrow
    omega

/-- A range from one of its ids on is a range. -/
theorem right (h : IsRange first last) (hfirst : first ≤ x) (hlast : x ≤ last) :
    IsRange x last := by
  constructor
  · exact h.isProper hfirst hlast
  · exact h.proper_last
  · exact hlast
  · have hle := UInt32.le_iff_toNat_le.1 hfirst
    have hnarrow := h.narrow
    omega

/-- The canonical forms of the ends are as far apart as the ends, and by the flag more where the
range straddles. -/
theorem toNat_canonicalId_last (h : IsRange first last) : (canonicalId last).toNat =
    (canonicalId first).toNat + (last.toNat - first.toNat) +
      if Straddles first last then 0x80000000 else 0 := by
  have hlow := isProper_iff.1 h.proper_first
  have hhigh := isProper_iff.1 h.proper_last
  have hle := UInt32.le_iff_toNat_le.1 h.le
  have hnarrow := h.narrow
  unfold maxIds at hnarrow
  rw [toNat_canonicalId_of_isProper h.proper_first, toNat_canonicalId_of_isProper h.proper_last]
  simp only [isPlain_iff, straddles_iff]
  -- both ends have the flag, or lack it, or only the last one is given it
  split <;> split <;> split <;> omega

/-- The canonical forms of the ends of a range are in order. -/
theorem canonicalId_le (h : IsRange first last) : canonicalId first ≤ canonicalId last := by
  rw [UInt32.le_iff_toNat_le, h.toNat_canonicalId_last]
  omega

end IsRange

/-! ## The filter of a range -/

namespace FilterSet

theorem isToken_iff_of_tokens {text token : List Char} (h : tokens text = [token])
    (t : List Char) : IsToken text t ↔ t = token := by
  rw [← mem_tokens, h, List.mem_singleton]

/-- The lowest and the highest id of a filter are those between which all others lie. -/
theorem bounds_eq {f : FilterSet} {low high : UInt32} (hlow : low ∈ f.ids) (hhigh : high ∈ f.ids)
    (h : ∀ id ∈ f.ids, low ≤ id ∧ id ≤ high) : f.min? = some low ∧ f.max? = some high := by
  obtain ⟨low', high', hmin, hmax, hhigh', hbounds⟩ := exists_bounds (List.ne_nil_of_mem hlow)
  have hlow' : low' ∈ f.ids := List.mem_of_mem_head? hmin
  constructor
  · rw [hmin, UInt32.le_antisymm (hbounds low hlow).1 (h low' hlow').1]
  · rw [hmax, UInt32.le_antisymm (h high' hhigh').2 (hbounds high hhigh).2]

variable {spec : String} {token : List Char} {f : FilterSet}

theorem mem_of_max? {f : FilterSet} {high : UInt32} (h : f.max? = some high) : high ∈ f.ids :=
  List.mem_of_getLast? h

/-- The filter of a single range holds the canonical forms of its ids. -/
theorem mem_of_parse_single (hparse : parse spec = .ok f)
    (htoken : ∀ t, IsToken (normalise spec) t ↔ t = token) (hdenotes : Denotes token first last)
    {id : UInt32} : id ∈ f.ids ↔ ∃ x, first ≤ x ∧ x ≤ last ∧ canonicalId x = id := by
  have hread : parseToken token = .ok (idsFrom first (last.toNat - first.toNat + 1)) :=
    (parseToken_eq_ok_iff ((htoken token).2 rfl).plus_not_mem).2 ⟨first, last, hdenotes, rfl⟩
  rw [mem_of_parse hparse, mem_denotedIds]
  simp only [mem_tokens, htoken, exists_eq_left, hread, Except.ok.injEq, exists_eq_left',
    List.mem_map, mem_idsFrom hdenotes.le, and_assoc]

/-- The filter of a single range goes from the canonical form of its first id to that of its last. -/
theorem bounds_of_parse_single (hparse : parse spec = .ok f)
    (htoken : ∀ t, IsToken (normalise spec) t ↔ t = token) (hdenotes : Denotes token first last) :
    f.min? = some (canonicalId first) ∧ f.max? = some (canonicalId last) := by
  have hrange := hdenotes.isRange
  apply bounds_eq
  · rw [mem_of_parse_single hparse htoken hdenotes]
    exact ⟨first, UInt32.le_refl _, hrange.le, rfl⟩
  · rw [mem_of_parse_single hparse htoken hdenotes]
    exact ⟨last, hrange.le, UInt32.le_refl _, rfl⟩
  · intro id hid
    rw [mem_of_parse_single hparse htoken hdenotes] at hid
    rcases hid with ⟨x, hfirst, hlast, rfl⟩
    constructor
    · exact (hrange.left hfirst hlast).canonicalId_le
    · exact (hrange.right hfirst hlast).canonicalId_le

end FilterSet

/-! ## The buffer of a range -/

namespace FrameCache

variable {stop : UInt32}

/-- A range that is not empty and not too wide has a cache. -/
theorem exists_make (h : first < stop) (hwidth : stop.toNat - first.toNat ≤ maxIds) :
    ∃ c, make first stop = .ok c := by
  rw [← UInt32.toNat_sub_of_le _ _ (UInt32.le_of_lt h)] at hwidth
  exact ⟨_, make_eq_ok_iff.2 ⟨h, hwidth, rfl⟩⟩

/-- A range that is too wide for a buffer is refused. -/
theorem make_of_wide (h : first < stop) (hwidth : maxIds < stop.toNat - first.toNat) :
    make first stop = .error (.malformed (.wideBuffer first stop)) := by
  rw [← UInt32.toNat_sub_of_le _ _ (UInt32.le_of_lt h)] at hwidth
  unfold make
  rw [if_neg (UInt32.not_le.2 h)]
  dsimp only
  rw [if_pos hwidth]

end FrameCache

namespace Bus

variable {target options : String} {bitrate : UInt32} {f : FilterSet}

/-- Options that ask for a buffer give a bus with a cache from the lowest id of the filter to the
highest, if there is such a cache. -/
theorem make_eq_map (htarget : field target 0 ≠ "")
    (hrate : numberOr (field options 0) defaultBitrate = .ok bitrate)
    (hset : isSet (field options 2) = true) (hparse : FilterSet.parse (field options 1) = .ok f)
    {low high : UInt32} (hmin : f.min? = some low) (hmax : f.max? = some high) :
    make target options = (FrameCache.make low (high + 1)).map fun cache =>
      { interface := field target 0, bitrate := bitrate, filter := some f, buffer := some cache } := by
  have hne : f.ids ≠ [] := by
    intro hnil
    simp [FilterSet.min?, hnil] at hmin
  unfold make
  simp only [bind, Except.bind, htarget, hrate, hparse, hmin, hmax, hset, setFilter, hne,
    Option.isSome_none, Bool.false_eq_true, if_false, if_true]
  rfl

/-- A bus whose options set the flag for buffering, and whose filter is a single range, is made with
this filter and buffers the range from end to end, unless the range begins among the standard ids
and goes on beyond them. Such a range is refused as too wide for a buffer. -/
theorem make_buffers_range {a b : List Char} (htarget : field target 0 ≠ "")
    (hrate : numberOr (field options 0) defaultBitrate = .ok bitrate)
    (hset : isSet (field options 2) = true) (hparse : FilterSet.parse (field options 1) = .ok f)
    (hsingle : ∀ token, FilterSet.IsToken (FilterSet.normalise (field options 1)) token ↔
      token = a ++ '-' :: b) :
    ∃ first last, FilterSet.Denotes (a ++ '-' :: b) first last ∧
      (¬ Straddles first last → ∃ bus, make target options = .ok bus ∧ bus.isBuffered = true ∧
        bus.interface = field target 0 ∧ bus.bitrate = bitrate ∧ bus.filter = some f ∧
        ∃ c, bus.buffer = some c ∧ c.range = (canonicalId first, canonicalId last + 1)) ∧
      (Straddles first last → make target options =
        .error (.malformed (.wideBuffer (canonicalId first) (canonicalId last + 1)))) := by
  obtain ⟨hdenote, -⟩ := FilterSet.exists_parse_iff.1 ⟨f, hparse⟩
  obtain ⟨first, last, hdenotes⟩ := hdenote _ ((hsingle _).2 rfl)
  have hrange := hdenotes.isRange
  obtain ⟨hmin, hmax⟩ := FilterSet.bounds_of_parse_single hparse hsingle hdenotes
  have hmem := FilterSet.mem_of_max? hmax
  have hnext := FilterSet.toNat_add_one_of_parse hparse hmem
  have hfar := hrange.toNat_canonicalId_last
  have hnarrow := hrange.narrow
  have hlt : canonicalId first < canonicalId last + 1 := by
    rw [UInt32.lt_iff_toNat_lt, hnext]
    omega
  refine ⟨first, last, hdenotes, ?_, ?_⟩
  · intro hside
    rw [if_neg hside] at hfar
    have hfits : (canonicalId last + 1).toNat - (canonicalId first).toNat ≤ maxIds := by
      rw [hnext]
      omega
    obtain ⟨c, hcache⟩ := FrameCache.exists_make hlt hfits
    rw [make_eq_map htarget hrate hset hparse hmin hmax, hcache]
    exact ⟨_, rfl, rfl, rfl, rfl, rfl, c, rfl, (FrameCache.covers_of_make hcache).range_eq⟩
  · intro hstraddles
    rw [if_pos hstraddles] at hfar
    -- the flag is worth far more than a buffer is wide
    have hwide : maxIds < (canonicalId last + 1).toNat - (canonicalId first).toNat := by
      rw [hnext]
      unfold maxIds
      omega
    rw [make_eq_map htarget hrate hset hparse hmin hmax, FrameCache.make_of_wide hlt hwide]
    rfl

/-- A range that ends with the last standard id, in capitals and with blanks in it. -/
theorem make_buffers_range_of_standard : ∃ bus c,
    make "can0" "0x7d0, 0X7F8 - 7ff ,yes" = .ok bus ∧ bus.isBuffered = true ∧
    bus.bitrate = 2000 ∧ bus.buffer = some c ∧ c.range = (0x7f8, 0x800) := by
  have htarget : field "can0" 0 ≠ "" := by decide
  have hrate : numberOr (field "0x7d0, 0X7F8 - 7ff ,yes" 0) defaultBitrate = .ok 2000 := rfl
  have hset : isSet (field "0x7d0, 0X7F8 - 7ff ,yes" 2) = true := by decide
  have hparse : FilterSet.parse (field "0x7d0, 0X7F8 - 7ff ,yes" 1) =
      .ok (FilterSet.ofList (FilterSet.idsFrom 0x7f8 8)) := rfl
  have hsingle : ∀ token, FilterSet.IsToken
      (FilterSet.normalise (field "0x7d0, 0X7F8 - 7ff ,yes" 1)) token ↔
      token = "0x7f8".toList ++ '-' :: "7ff".toList := FilterSet.isToken_iff_of_tokens rfl
  obtain ⟨first, last, hdenotes, hmade, -⟩ :=
    make_buffers_range htarget hrate hset hparse hsingle
  -- the ends of the range are what their texts are read as
  obtain ⟨hfirst, hlast, -, -⟩ := (FilterSet.denotes_append_iff (by decide)).1 hdenotes
  obtain rfl : 0x7f8 = first :=
    Except.ok.inj ((FilterSet.parseId_eq_ok_iff (by decide)).2 hfirst)
  obtain rfl : 0x7ff = last := Except.ok.inj ((FilterSet.parseId_eq_ok_iff (by decide)).2 hlast)
  obtain ⟨bus, hbus, hbuffered, -, hbitrate, -, c, hbuffer, hcovers⟩ := hmade (by decide)
  exact ⟨bus, c, hbus, hbuffered, hbitrate, hbuffer, hcovers⟩

/-- Four ids in a range across the last standard id: the range is accepted as a filter, and refused
as too wide for a buffer. -/
theorem make_refuses_range_across_standard :
    field "vcan0" 0 ≠ "" ∧
    numberOr (field "500000,7fe-801,yes" 0) defaultBitrate = .ok 500000 ∧
    isSet (field "500000,7fe-801,yes" 2) = true ∧
    (∃ f, FilterSet.parse (field "500000,7fe-801,yes" 1) = .ok f ∧
      f.ids = [0x7fe, 0x7ff, 0x80000800, 0x80000801]) ∧
    (∀ token, FilterSet.IsToken (FilterSet.normalise (field "500000,7fe-801,yes" 1)) token ↔
      token = "7fe".toList ++ '-' :: "801".toList) ∧
    make "vcan0" "500000,7fe-801,yes" =
      .error (.malformed (.wideBuffer 0x7fe 0x80000802)) := by
  refine ⟨by decide, rfl, by decide, ⟨_, rfl, rfl⟩, FilterSet.isToken_iff_of_tokens rfl, ?_⟩
  rfl

end Bus

end RemoteDevice.Can
