import Mathlib.Data.List.GetD
import RemoteDevice.Proofs.Can.Coverage

/-!
# Proofs.Can.WireForm — frames as sixteen bytes

A frame that is written over the beginning of a buffer is read from it again, whatever was in the
buffer before. Bytes are read as a frame if there are sixteen of them and their length is one that a
frame may have. Written again, the frame gives these bytes in normal form: the id is canonical, and
what is neither id nor length nor data is zero.
-/

namespace RemoteDevice.Can.Frame

open Transport (Error)

/-! ## Fields -/

/-- The id that stands in the bytes. -/
def idAt (raw : Bytes) : UInt32 :=
  ofLe32 (raw.getD 0 0) (raw.getD 1 0) (raw.getD 2 0) (raw.getD 3 0)

/-- The length that stands in the bytes. -/
def lengthAt (raw : Bytes) : Nat :=
  (raw.getD 4 0).toNat

/-- Byte `i` is padding, or stands behind the data. -/
def IsUnused (raw : Bytes) (i : Nat) : Prop :=
  (5 ≤ i ∧ i < 8) ∨ 8 + lengthAt raw ≤ i

instance (raw : Bytes) (i : Nat) : Decidable (IsUnused raw i) :=
  inferInstanceAs (Decidable (_ ∨ _))

/-- Byte `i` in normal form. -/
def normalByte (raw : Bytes) (i : Nat) : UInt8 :=
  if i < 4 then byteAt (canonicalId (idAt raw)).toNat i
  else if IsUnused raw i then 0
  else raw.getD i 0

/-- The sixteen bytes of a frame in normal form. -/
def normalise (raw : Bytes) : Bytes :=
  (List.range frameLength).map (normalByte raw)

/-- The id is canonical, and what is unused is zero. -/
structure IsNormal (raw : Bytes) : Prop where
  id : canonicalId (idAt raw) = idAt raw
  unused : ∀ i < frameLength, IsUnused raw i → raw.getD i 0 = 0

variable {raw buffer data : Bytes} {id : UInt32} {f : Frame} {i : Nat}

/-- Byte strings of one length are equal if they agree byte by byte. -/
theorem eq_of_getD {xs ys : Bytes} (hlength : xs.length = ys.length)
    (h : ∀ i < xs.length, xs.getD i 0 = ys.getD i 0) : xs = ys := by
  apply List.ext_getElem hlength
  intro i hx hy
  rw [← List.getD_eq_getElem xs 0 hx, ← List.getD_eq_getElem ys 0 hy]
  exact h i hx

/-- The first four bytes are those of the id. -/
theorem byteAt_idAt (hi : i < 4) : byteAt (idAt raw).toNat i = raw.getD i 0 := by
  have h := le32_ofLe32 (raw.getD 0 0) (raw.getD 1 0) (raw.getD 2 0) (raw.getD 3 0)
  simp only [le32, List.cons.injEq, and_true] at h
  obtain ⟨h₀, h₁, h₂, h₃⟩ := h
  obtain rfl | rfl | rfl | rfl : i = 0 ∨ i = 1 ∨ i = 2 ∨ i = 3 := by omega
  · exact h₀
  · exact h₁
  · exact h₂
  · exact h₃

/-- The id that stands in the bytes is the number whose bytes they are. -/
theorem idAt_eq {n : UInt32} (h : ∀ i < 4, raw.getD i 0 = byteAt n.toNat i) : idAt raw = n := by
  unfold idAt
  rw [h 0 (by decide), h 1 (by decide), h 2 (by decide), h 3 (by decide)]
  exact ofLe32_le32 n

/-! ## The normal form -/

/-- The id and the length are in use. -/
theorem not_isUnused_of_lt (hi : i < 5) : ¬ IsUnused raw i := by
  unfold IsUnused
  omega

/-- The first four bytes in normal form are those of the canonical id. -/
theorem normalByte_of_lt (hi : i < 4) :
    normalByte raw i = byteAt (canonicalId (idAt raw)).toNat i :=
  if_pos hi

theorem normalByte_of_isUnused (h : IsUnused raw i) : normalByte raw i = 0 := by
  have hi : ¬ i < 4 := fun hi => not_isUnused_of_lt (Nat.lt_succ_of_lt hi) h
  unfold normalByte
  rw [if_neg hi, if_pos h]

/-- A byte in use that is not one of the id is in normal form already. -/
theorem normalByte_of_used (hi : 4 ≤ i) (h : ¬ IsUnused raw i) : normalByte raw i = raw.getD i 0 := by
  unfold normalByte
  rw [if_neg (Nat.not_lt.2 hi), if_neg h]

theorem length_normalise (raw : Bytes) : (normalise raw).length = frameLength := by
  unfold normalise
  rw [List.length_map, List.length_range]

theorem getD_normalise (hi : i < frameLength) : (normalise raw).getD i 0 = normalByte raw i := by
  simp [normalise, hi]

/-- The length is among the bytes that stay. -/
theorem lengthAt_normalise (raw : Bytes) : lengthAt (normalise raw) = lengthAt raw := by
  unfold lengthAt
  rw [getD_normalise (by decide), normalByte_of_used (by decide) (not_isUnused_of_lt (by decide))]

/-- The normal form is normal. -/
theorem isNormal_normalise (raw : Bytes) : IsNormal (normalise raw) := by
  constructor
  · have hid : idAt (normalise raw) = canonicalId (idAt raw) := by
      apply idAt_eq
      intro i hi
      rw [getD_normalise (Nat.lt_trans hi (by decide)), normalByte_of_lt hi]
    rw [hid, canonicalId_canonicalId]
  · intro i hi hunused
    unfold IsUnused at hunused
    rw [lengthAt_normalise] at hunused
    rw [getD_normalise hi, normalByte_of_isUnused hunused]

/-- The bytes of a frame are their own normal form exactly if they are normal. -/
theorem normalise_eq_take_iff (h : frameLength ≤ raw.length) :
    normalise raw = raw.take frameLength ↔ IsNormal raw := by
  have htake : ∀ i < frameLength, (raw.take frameLength).getD i 0 = raw.getD i 0 := by
    intro i hi
    simp [hi]
  constructor
  · intro heq
    have hbytes : ∀ i < frameLength, raw.getD i 0 = normalByte raw i := by
      intro i hi
      rw [← htake i hi, ← heq, getD_normalise hi]
    constructor
    · symm
      apply idAt_eq
      intro i hi
      rw [hbytes i (Nat.lt_trans hi (by decide)), normalByte_of_lt hi]
    · intro i hi hunused
      rw [hbytes i hi, normalByte_of_isUnused hunused]
  · intro hnormal
    apply eq_of_getD
    · rw [length_normalise, List.length_take, Nat.min_eq_left h]
    · intro i hi
      rw [length_normalise] at hi
      rw [getD_normalise hi, htake i hi]
      by_cases hid : i < 4
      · rw [normalByte_of_lt hid, hnormal.id, byteAt_idAt hid]
      · by_cases hunused : IsUnused raw i
        · rw [normalByte_of_isUnused hunused, hnormal.unused i hi hunused]
        · rw [normalByte_of_used (Nat.not_lt.1 hid) hunused]

/-- The normal form is its own. -/
theorem normalise_normalise (raw : Bytes) : normalise (normalise raw) = normalise raw := by
  have hlength := length_normalise raw
  have hself := (normalise_eq_take_iff (Nat.le_of_eq hlength.symm)).2 (isNormal_normalise raw)
  rw [hself, ← hlength, List.take_length]

/-! ## Reading -/

/-- A frame is made of any id and of data that are few enough. -/
theorem exists_make (id : UInt32) (h : data.length ≤ maxData) : ∃ f, make id data = .ok f :=
  ⟨_, dif_pos h⟩

/-- What bytes are read as: the frame of the id, the length and the data that stand there. -/
theorem decode_eq (raw : Bytes) : decode raw =
    if raw.length < frameLength then .error (.length frameLength raw.length)
    else if maxData < lengthAt raw then .error (.malformed (.frameLength (lengthAt raw)))
    else make (idAt raw) ((raw.drop 8).take (lengthAt raw)) := by
  unfold decode
  split
  · next data =>
    have hlength : data.length < maxData ↔ data.length + 8 < frameLength := by
      unfold maxData frameLength
      omega
    simp [hlength, lengthAt, idAt]
  · next hfields =>
    have hshort : raw.length < frameLength := by
      match raw, hfields with
      | [], _ | [_], _ | [_, _], _ | [_, _, _], _ | [_, _, _, _], _ => simp [frameLength]
      | [_, _, _, _, _], _ | [_, _, _, _, _, _], _ => simp [frameLength]
      | [_, _, _, _, _, _, _], _ => simp [frameLength]
      | _ :: _ :: _ :: _ :: _ :: _ :: _ :: _ :: _, h => exact (h _ _ _ _ _ _ _ _ _ rfl).elim
    rw [if_pos hshort]

/-- The frames that bytes are read as: there is one if the bytes are enough and the length in them
is no more than a frame may have. -/
theorem decode_eq_ok_iff : decode raw = .ok f ↔
    (frameLength ≤ raw.length ∧ lengthAt raw ≤ maxData) ∧ f.id = canonicalId (idAt raw) ∧
      f.data = (raw.drop 8).take (lengthAt raw) := by
  rw [decode_eq]
  split
  · next hshort => simp [Nat.not_le.2 hshort]
  · next hlong =>
    split
    · next hlength => simp [Nat.not_le.2 hlength]
    · next hlength =>
      rw [make_eq_ok_iff]
      simp only [Nat.not_lt.1 hlong, Nat.not_lt.1 hlength, and_self, true_and]

/-- Bytes are read as a frame exactly if they are enough and name a length that a frame may have. -/
theorem exists_decode_iff :
    (∃ f, decode raw = .ok f) ↔ frameLength ≤ raw.length ∧ lengthAt raw ≤ maxData := by
  constructor
  · rintro ⟨f, hf⟩
    exact (decode_eq_ok_iff.1 hf).1
  · rintro ⟨hlong, hlength⟩
    rw [decode_eq, if_neg (Nat.not_lt.2 hlong), if_neg (Nat.not_lt.2 hlength)]
    apply exists_make
    rw [List.length_take]
    exact Nat.le_trans (Nat.min_le_left _ _) hlength

/-! ## Writing -/

/-- The bytes of a frame one by one. Behind the data they are zero. -/
theorem getD_wire (f : Frame) (i : Nat) : f.wire.getD i 0 =
    if i < 4 then byteAt f.id.toNat i
    else if i = 4 then UInt8.ofNat f.data.length
    else if i < 8 then 0
    else f.data.getD (i - 8) 0 := by
  match i with
  | 0 | 1 | 2 | 3 | 4 | 5 | 6 | 7 => rfl
  | i + 8 =>
    rw [if_neg (by omega), if_neg (by omega), if_neg (by omega), Nat.add_sub_cancel]
    show (f.data ++ List.replicate (maxData - f.data.length) 0).getD i 0 = f.data.getD i 0
    rcases Nat.lt_or_ge i f.data.length with hi | hi
    · exact List.getD_append _ _ _ _ hi
    · rw [List.getD_append_right _ _ _ _ hi, List.getD_eq_default _ _ hi,
        List.getD_eq_getElem?_getD, List.getElem?_getD_replicate_default_eq]

/-- A frame that was read gives the normal form of the bytes that it was read from. -/
theorem wire_eq_normalise (h : decode raw = .ok f) : f.wire = normalise raw := by
  obtain ⟨⟨hlong, hlength⟩, hid, hdata⟩ := decode_eq_ok_iff.1 h
  have hcount : f.data.length = lengthAt raw := by
    rw [hdata, List.length_take, List.length_drop]
    unfold frameLength at hlong
    unfold maxData at hlength
    omega
  apply eq_of_getD
  · rw [length_wire, length_normalise]
  · intro i hi
    rw [length_wire] at hi
    rw [getD_wire, getD_normalise hi, hid, hcount]
    split
    · next hfirst => rw [normalByte_of_lt hfirst]
    · next hfirst =>
      split
      · next hfour =>
        subst hfour
        rw [normalByte_of_used (by decide) (not_isUnused_of_lt (by decide))]
        exact UInt8.ofNat_toNat
      · split
        · next hpadding => rw [normalByte_of_isUnused (Or.inl ⟨by omega, hpadding⟩)]
        · next hbehind =>
          rw [hdata, List.getD_eq_getElem?_getD, List.getElem?_take, List.getElem?_drop,
            Nat.add_sub_cancel' (Nat.not_lt.1 hbehind)]
          -- the byte belongs to the data if the length says so
          split
          · next hin =>
            have hused : ¬ IsUnused raw i := by
              unfold IsUnused
              omega
            rw [normalByte_of_used (by omega) hused, List.getD_eq_getElem?_getD]
          · next hout => rw [normalByte_of_isUnused (Or.inr (by omega)), Option.getD_none]

/-- A frame with a canonical id is read from all bytes that begin with it. -/
theorem decode_wire_append (h : canonicalId f.id = f.id) (rest : Bytes) :
    decode (f.wire ++ rest) = .ok f := by
  have hid : idAt (f.wire ++ rest) = f.id := ofLe32_le32 f.id
  have hlength : lengthAt (f.wire ++ rest) = f.data.length := by
    have hle := f.length_le
    unfold maxData at hle
    exact UInt8.toNat_ofNat_of_lt' (by show f.data.length < 2 ^ 8; omega)
  rw [decode_eq_ok_iff, hid, hlength]
  refine ⟨⟨?_, f.length_le⟩, h.symm, ?_⟩
  · rw [List.length_append, length_wire]
    exact Nat.le_add_right _ _
  · show f.data = ((f.data ++ List.replicate (maxData - f.data.length) 0) ++ rest).take f.data.length
    rw [List.append_assoc, List.take_left]

/-- A frame is written over the beginning of a buffer that has room for it, and nothing behind it
changes. -/
theorem encode_of_le (f : Frame) (h : frameLength ≤ buffer.length) :
    f.encode buffer = (.ok frameLength, f.wire ++ buffer.drop frameLength) := by
  unfold encode overwrite
  rw [if_neg (Nat.not_lt.2 h), length_wire]

/-- A buffer that is too short is refused and left as it was. -/
theorem encode_of_lt (f : Frame) (h : buffer.length < frameLength) :
    f.encode buffer = (.error (.length frameLength buffer.length), buffer) :=
  if_pos h

/-- A frame of any id and of data that are few enough is written over the beginning of every buffer
that has room for it, as sixteen bytes that depend on id and data alone, and read from it again with
the canonical form of the id; a buffer that is too short stays as it is. Bytes are read as a frame
exactly if there are sixteen of them and the length is not more than eight. The frame that is read
is written as the normal form of these bytes. A normal form is its own normal form, and apart from
normal bytes no bytes are. -/
theorem wire_round_trip :
    (∀ id data, data.length ≤ maxData → ∃ f, make id data = .ok f ∧
      f.id = canonicalId id ∧ f.data = data ∧ ∀ buffer,
        (frameLength ≤ buffer.length →
          f.encode buffer = (.ok frameLength, le32 (canonicalId id) ++
            UInt8.ofNat data.length :: 0 :: 0 :: 0 ::
              (data ++ List.replicate (maxData - data.length) 0) ++ buffer.drop frameLength) ∧
          decode (f.encode buffer).2 = .ok f) ∧
        (buffer.length < frameLength →
          f.encode buffer = (.error (.length frameLength buffer.length), buffer))) ∧
    ∀ raw,
      ((∃ f, decode raw = .ok f) ↔ frameLength ≤ raw.length ∧ lengthAt raw ≤ maxData) ∧
      (∀ f, decode raw = .ok f → ∀ buffer, frameLength ≤ buffer.length →
        f.encode buffer = (.ok frameLength, normalise raw ++ buffer.drop frameLength)) ∧
      normalise (normalise raw) = normalise raw ∧
      (frameLength ≤ raw.length → (normalise raw = raw.take frameLength ↔ IsNormal raw)) := by
  constructor
  · intro id data hdata
    obtain ⟨f, hf⟩ := exists_make id hdata
    obtain ⟨hid, rfl⟩ := make_eq_ok_iff.1 hf
    refine ⟨f, hf, hid, rfl, ?_⟩
    intro buffer
    constructor
    · intro hroom
      have hcanonical : canonicalId f.id = f.id := by rw [hid, canonicalId_canonicalId]
      rw [encode_of_le f hroom, ← hid]
      exact ⟨rfl, decode_wire_append hcanonical _⟩
    · intro hshort
      exact encode_of_lt f hshort
  · intro raw
    refine ⟨exists_decode_iff, ?_, normalise_normalise raw, normalise_eq_take_iff⟩
    intro f hf buffer hroom
    rw [encode_of_le f hroom, wire_eq_normalise hf]

/-- A frame over stale bytes, and bytes that are read as a frame without being normal: the id lacks
its flag, and neither the padding nor what is behind the data is zero. -/
theorem wire_round_trip_of_stale : ∃ f g,
    make 0x40000123 [1, 2, 3] = .ok f ∧
    f.encode (List.replicate 18 0xff) = (.ok 16,
      [0x23, 1, 0, 0, 3, 0, 0, 0, 1, 2, 3, 0, 0, 0, 0, 0, 0xff, 0xff]) ∧
    decode (f.encode (List.replicate 18 0xff)).2 = .ok f ∧
    decode [0, 0x10, 0, 0, 1, 9, 9, 9, 7, 8, 8, 8, 8, 8, 8, 8, 5] = .ok g ∧
    g.encode (List.replicate 16 0xff) =
      (.ok 16, [0, 0x10, 0, 0x80, 1, 0, 0, 0, 7, 0, 0, 0, 0, 0, 0, 0]) := by
  obtain ⟨hmake, hread⟩ := wire_round_trip
  obtain ⟨f, hf, -, -, hbuffers⟩ := hmake 0x40000123 [1, 2, 3] (by decide)
  obtain ⟨hencode, hdecode⟩ := (hbuffers (List.replicate 18 0xff)).1 (by decide)
  obtain ⟨haccepted, hagain, -, -⟩ := hread [0, 0x10, 0, 0, 1, 9, 9, 9, 7, 8, 8, 8, 8, 8, 8, 8, 5]
  obtain ⟨g, hg⟩ := haccepted.2 (by decide)
  exact ⟨f, g, hf, hencode.trans rfl, hdecode, hg,
    (hagain g hg (List.replicate 16 0xff) (by decide)).trans rfl⟩

end RemoteDevice.Can.Frame
