import Mathlib.Data.Nat.Bitwise
import RemoteDevice.Proofs.Can.Ranges
import RemoteDevice.Proofs.Can.SocketForm

/-!
# Proofs.Can.Uniform — one form of ids in all filters and frames

Filters are made in three ways and frames in three, and each of them brings the ids that it is given
into canonical form. So wherever an id comes from, a filter may be asked for it in any of its forms.
Nothing is lost when a range of ids is made into a filter: the canonical form keeps the lower 29 bits
of an id, and numbers of one range differ in these, for a range is much too narrow for them to recur.
-/

namespace RemoteDevice.Can

/-! ## Canonical ids -/

/-- The canonical ids, by their bits: the standard ids, and the extended ones with the flag. -/
def IsCanonical (id : UInt32) : Prop :=
  id ≤ maxStandard ∨ id &&& extendedFlag ≠ 0 ∧ id &&& ~~~extendedFlag ≤ maxExtended

instance (id : UInt32) : Decidable (IsCanonical id) :=
  inferInstanceAs (Decidable (_ ∨ _))

variable {id : UInt32}

/-- The flag is the highest bit. -/
theorem and_extendedFlag_ne_zero_iff : id &&& extendedFlag ≠ 0 ↔ 0x80000000 ≤ id.toNat := by
  have hlt := id.toNat_lt
  have hbit : (id &&& extendedFlag).toNat = (id.toNat.testBit 31).toNat * 2 ^ 31 := by
    rw [UInt32.toNat_and]
    exact Nat.and_two_pow id.toNat 31
  rw [ne_eq, ← UInt32.toNat_inj, hbit, Nat.testBit_eq_decide_div_mod_eq]
  by_cases hhigh : 0x80000000 ≤ id.toNat
  · have hone : id.toNat / 2 ^ 31 % 2 = 1 := by omega
    rw [decide_eq_true hone]
    simp [hhigh]
  · have hzero : ¬ id.toNat / 2 ^ 31 % 2 = 1 := by omega
    rw [decide_eq_false hzero]
    simp [hhigh]

/-- The other bits are the remainder. -/
theorem toNat_and_not_extendedFlag (id : UInt32) :
    (id &&& ~~~extendedFlag).toNat = id.toNat % 0x80000000 := by
  rw [UInt32.toNat_and]
  exact Nat.and_two_pow_sub_one_eq_mod id.toNat 31

/-- The canonical ids as numbers. -/
theorem isCanonical_iff : IsCanonical id ↔
    id.toNat < 0x800 ∨ 0x80000000 ≤ id.toNat ∧ id.toNat < 0xa0000000 := by
  have hlt := id.toNat_lt
  have hlow : id ≤ maxStandard ↔ id.toNat < 0x800 := Nat.lt_succ_iff.symm
  have hother : id &&& ~~~extendedFlag ≤ maxExtended ↔ id.toNat % 0x80000000 < 0x20000000 := by
    rw [UInt32.le_iff_toNat_le, toNat_and_not_extendedFlag]
    exact Nat.lt_succ_iff.symm
  unfold IsCanonical
  rw [and_extendedFlag_ne_zero_iff, hlow, hother]
  omega

/-- The canonical ids are those that are their own canonical form. -/
theorem isCanonical_iff_canonicalId_eq : IsCanonical id ↔ canonicalId id = id :=
  isCanonical_iff.trans canonicalId_eq_self_iff.symm

/-- The canonical form of every id is canonical. -/
theorem isCanonical_canonicalId (id : UInt32) : IsCanonical (canonicalId id) :=
  isCanonical_iff_canonicalId_eq.2 (canonicalId_canonicalId id)

/-- The canonical ids are all the canonical forms there are. -/
theorem exists_canonicalId_eq_iff : (∃ x, canonicalId x = id) ↔ IsCanonical id := by
  constructor
  · rintro ⟨x, rfl⟩
    exact isCanonical_canonicalId x
  · intro h
    exact ⟨id, isCanonical_iff_canonicalId_eq.1 h⟩

/-- The canonical form of an id has the lower 29 bits of the id. -/
theorem toNat_canonicalId_mod (id : UInt32) :
    (canonicalId id).toNat % 0x20000000 = id.toNat % 0x20000000 := by
  rw [toNat_canonicalId]
  split <;> omega

/-- Among as many numbers in a row as there are extended ids no two have the same canonical form. -/
theorem eq_of_canonicalId_eq {first x y : UInt32}
    (hx : first.toNat ≤ x.toNat ∧ x.toNat < first.toNat + 0x20000000)
    (hy : first.toNat ≤ y.toNat ∧ y.toNat < first.toNat + 0x20000000)
    (h : canonicalId x = canonicalId y) : x = y := by
  have hmod : x.toNat % 0x20000000 = y.toNat % 0x20000000 := by
    rw [← toNat_canonicalId_mod x, ← toNat_canonicalId_mod y, h]
  apply UInt32.toNat_inj.1
  omega

/-! ## Filters -/

namespace FilterSet

/-- The filters there are: of a range, read from a text, or of ids that were collected. -/
inductive Obtained (f : FilterSet) : Prop where
  | spanned (first stop : UInt32) (h : range first stop = .ok f)
  | read (spec : String) (h : parse spec = .ok f)
  | collected (ids : List UInt32) (h : ofList ids = f)

variable {f : FilterSet} {first stop : UInt32}

/-- A filter is made only of a range that is not empty. -/
theorem lt_of_range (h : range first stop = .ok f) : first < stop := by
  unfold range at h
  split at h
  · simp at h
  · next hlt => exact UInt32.not_le.1 hlt

/-- A filter holds canonical ids only, however it was obtained. -/
theorem Obtained.isCanonical (h : f.Obtained) (hid : id ∈ f.ids) : IsCanonical id := by
  cases h with
  | spanned first stop h =>
    obtain ⟨x, -, -, rfl⟩ := (mem_of_range (lt_of_range h) h).1 hid
    exact isCanonical_canonicalId x
  | read spec h =>
    obtain ⟨_, -, _, _, -, x, -, -, rfl⟩ := (mem_of_parse h id).1 hid
    exact isCanonical_canonicalId x
  | collected ids h =>
    subst h
    obtain ⟨x, -, rfl⟩ := List.mem_map.1 (mem_ofList.1 hid)
    exact isCanonical_canonicalId x

/-- A filter lets a frame pass exactly if it contains the id that the frame was made with. -/
theorem contains_of_make {data : Bytes} {frame : Frame} (h : Frame.make id data = .ok frame) :
    f.contains frame.id = f.contains id := by
  rw [Frame.id_of_make h, contains_canonicalId]

/-! ## The size of a range -/

/-- No two numbers of a range have the same canonical form. -/
theorem eq_of_canonicalId_eq_of_range (h : range first stop = .ok f) {x y : UInt32}
    (hx : first ≤ x ∧ x < stop) (hy : first ≤ y ∧ y < stop)
    (hsame : canonicalId x = canonicalId y) : x = y := by
  have hwidth : stop.toNat - first.toNat ≤ 4096 := ((range_eq_ok_iff (lt_of_range h)).1 h).1
  have hnear : ∀ z : UInt32, first ≤ z ∧ z < stop →
      first.toNat ≤ z.toNat ∧ z.toNat < first.toNat + 0x20000000 := by
    rintro z ⟨hfirst, hstop⟩
    rw [UInt32.le_iff_toNat_le] at hfirst
    rw [UInt32.lt_iff_toNat_lt] at hstop
    omega
  exact eq_of_canonicalId_eq (hnear x hx) (hnear y hy) hsame

theorem nodup_idsFrom {last : UInt32} (hle : first ≤ last) :
    (idsFrom first (last.toNat - first.toNat + 1)).Nodup := by
  have hle := UInt32.le_iff_toNat_le.1 hle
  have hlast := last.toNat_lt
  refine List.Nodup.map_on ?_ List.nodup_range
  intro i hi j hj h
  rw [List.mem_range] at hi hj
  have hsame : UInt32.ofNat i = UInt32.ofNat j := (UInt32.add_right_inj first).1 h
  rw [← UInt32.toNat_inj, UInt32.toNat_ofNat_of_lt' (by show i < 2 ^ 32; omega),
    UInt32.toNat_ofNat_of_lt' (by show j < 2 ^ 32; omega)] at hsame
  exact hsame

/-- A filter has as many ids as there were numbers, if their canonical forms are different. -/
theorem size_ofList {ids : List UInt32} (h : (ids.map canonicalId).Nodup) :
    (ofList ids).size = ids.length := by
  have hperm : (ofList ids).ids.Perm (ids.map canonicalId) :=
    (List.perm_ext_iff_of_nodup ((ofList ids).ascending.imp UInt32.ne_of_lt) h).2
      fun _ => mem_ofList
  calc (ofList ids).size = (ids.map canonicalId).length := hperm.length_eq
    _ = ids.length := List.length_map _

/-- A filter of a range has as many ids as there are numbers in the range. -/
theorem size_of_range (h : range first stop = .ok f) : f.size = stop.toNat - first.toNat := by
  have hlt := lt_of_range h
  obtain ⟨hle, hpred⟩ := le_pred_of_lt hlt
  obtain ⟨-, hf⟩ := (range_eq_ok_iff hlt).1 h
  rw [UInt32.lt_iff_toNat_lt] at hlt
  have hin : ∀ z ∈ idsFrom first ((stop - 1).toNat - first.toNat + 1), first ≤ z ∧ z < stop := by
    intro z hz
    obtain ⟨hfirst, hlast⟩ := (mem_idsFrom hle).1 hz
    rw [UInt32.le_iff_toNat_le, hpred] at hlast
    exact ⟨hfirst, UInt32.lt_iff_toNat_lt.2 (by omega)⟩
  have hforms : ((idsFrom first ((stop - 1).toNat - first.toNat + 1)).map canonicalId).Nodup :=
    (nodup_idsFrom hle).map_on fun x hx y hy => eq_of_canonicalId_eq_of_range h (hin x hx) (hin y hy)
  rw [hf, size_ofList hforms, idsFrom, List.length_map, List.length_range, hpred]
  omega

end FilterSet

/-! ## Frames -/

namespace Frame

/-- The id of a frame is canonical, however the frame was obtained. -/
theorem Obtained.isCanonical {f : Frame} (h : f.Obtained) : IsCanonical f.id :=
  isCanonical_iff_canonicalId_eq.2 (obtained_iff.1 h)

/-- What comes in from a socket is a frame that is made. -/
theorem obtained_of_ofSocket? {s : SocketFrame} {f : Frame} (h : ofSocket? s = some f) :
    f.Obtained := by
  have hmade : ∀ id data, (make id data).toOption = some f → f.Obtained := by
    intro id data h
    cases hmake : make id data with
    | error e => simp [hmake, Except.toOption] at h
    | ok g =>
      rw [hmake] at h
      obtain rfl := Option.some.inj h
      exact .made id data hmake
  cases s with
  | data id bytes => exact hmade _ _ h
  | remote id length => exact hmade (idOfSocket id) [] h
  | fault code bytes => simp [ofSocket?] at h

end Frame

/-- The canonical form of an id is its own canonical form, and the canonical forms are exactly the
standard ids and the extended ids with their flag. No other ids are in a filter, however it was
obtained, or in a frame that was made, read, or came in from a socket. A filter says the same of an
id, of its canonical form and of the id of a frame that is made with it. A filter of a range has as
many ids as the range has numbers, no two of which have the same canonical form. -/
theorem ids_in_one_form :
    (∀ id, canonicalId (canonicalId id) = canonicalId id) ∧
    (∀ id, (∃ x, canonicalId x = id) ↔ IsCanonical id) ∧
    (∀ f : FilterSet, f.Obtained → ∀ id ∈ f.ids, IsCanonical id) ∧
    (∀ f : Frame, f.Obtained → IsCanonical f.id) ∧
    (∀ (s : SocketFrame) (f : Frame), Frame.ofSocket? s = some f → IsCanonical f.id) ∧
    (∀ (f : FilterSet) (id : UInt32), f.contains (canonicalId id) = f.contains id ∧
      ∀ data : Bytes, data.length ≤ maxData →
        ∃ frame, Frame.make id data = .ok frame ∧ f.contains frame.id = f.contains id) ∧
    (∀ (first stop : UInt32) (f : FilterSet), FilterSet.range first stop = .ok f →
      first < stop ∧ f.size = stop.toNat - first.toNat ∧
      ∀ x y, first ≤ x ∧ x < stop → first ≤ y ∧ y < stop → canonicalId x = canonicalId y → x = y) := by
  refine ⟨canonicalId_canonicalId, fun _ => exists_canonicalId_eq_iff, ?_, ?_, ?_, ?_, ?_⟩
  · intro f hf id hid
    exact hf.isCanonical hid
  · intro f hf
    exact hf.isCanonical
  · intro s f hf
    exact (Frame.obtained_of_ofSocket? hf).isCanonical
  · intro f id
    refine ⟨f.contains_canonicalId id, fun data hdata => ?_⟩
    obtain ⟨frame, hframe⟩ := Frame.exists_make id hdata
    exact ⟨frame, hframe, FilterSet.contains_of_make hframe⟩
  · intro first stop f hf
    exact ⟨FilterSet.lt_of_range hf, FilterSet.size_of_range hf,
      fun x y hx hy => FilterSet.eq_of_canonicalId_eq_of_range hf hx hy⟩

/-- A range across the highest extended id, four numbers whose canonical forms are standard ids and
extended ones, and a frame with the number of one of them. -/
theorem ids_in_one_form_of_range : ∃ f frame,
    FilterSet.range 0x1ffffffe 0x20000002 = .ok f ∧ f.size = 4 ∧ (∀ id ∈ f.ids, IsCanonical id) ∧
    Frame.make 0x20000001 [1] = .ok frame ∧ IsCanonical frame.id ∧
    f.contains frame.id = f.contains 0x20000001 := by
  obtain ⟨-, -, hfilter, hframe, -, hcontains, hrange⟩ := ids_in_one_form
  have hf : FilterSet.range 0x1ffffffe 0x20000002 =
      .ok (FilterSet.ofList (FilterSet.idsFrom 0x1ffffffe 4)) := rfl
  obtain ⟨-, hsize, -⟩ := hrange _ _ _ hf
  obtain ⟨frame, hmake, hsame⟩ :=
    (hcontains (FilterSet.ofList (FilterSet.idsFrom 0x1ffffffe 4)) 0x20000001).2 [1] (by decide)
  exact ⟨_, frame, hf, hsize, hfilter _ (.spanned _ _ hf), hmake, hframe _ (.made _ _ hmake), hsame⟩

end RemoteDevice.Can
