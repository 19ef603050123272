import RemoteDevice.Proofs.Can.WireForm

/-!
# Proofs.Can.SocketForm — frames on a socket

A canonical id is that of a standard or an extended socket id, and only of one. So each frame has a
form on a socket, different frames have different ones, and a frame with data that comes in goes out
again as it was. The id of a frame is looked at in 16 bits if it has no flag; this loses nothing, as a
canonical id without the flag has no more than 11.
-/

namespace RemoteDevice.Can

namespace SocketId

/-- The number is one of an id of this kind. -/
def IsValid : SocketId → Prop
  | standard n => n ≤ maxStandard
  | extended n => n ≤ maxExtended

instance : DecidablePred IsValid
  | standard n => inferInstanceAs (Decidable (n ≤ maxStandard))
  | extended n => inferInstanceAs (Decidable (n ≤ maxExtended))

variable {n : UInt32}

theorem isValid_standard_iff : (standard n).IsValid ↔ n.toNat < 0x800 :=
  Nat.lt_succ_iff.symm

theorem isValid_extended_iff : (extended n).IsValid ↔ n.toNat < 0x20000000 :=
  Nat.lt_succ_iff.symm

end SocketId

namespace Frame

variable {s : SocketId} {id n : UInt32} {f g : Frame} {bytes : Bytes}

/-! ## Ids -/

/-- The id of a valid socket id is canonical, and kind and number show in it. -/
theorem idOfSocket_spec (h : s.IsValid) : canonicalId (idOfSocket s) = idOfSocket s ∧
    isExtended (idOfSocket s) = s.isExtended ∧ rawId (idOfSocket s) = s.raw := by
  rw [canonicalId_eq_self_iff, Bool.eq_iff_iff, isExtended_iff, ← UInt32.toNat_inj, toNat_rawId]
  cases s with
  | standard n =>
    have hn := SocketId.isValid_standard_iff.1 h
    refine ⟨Or.inl hn, iff_of_false ?_ Bool.false_ne_true, Nat.mod_eq_of_lt ?_⟩
    · exact Nat.not_le.2 (Nat.lt_trans hn (by decide))
    · exact Nat.lt_trans hn (by decide)
  | extended n =>
    have hn := SocketId.isValid_extended_iff.1 h
    have hsum : (idOfSocket (.extended n)).toNat = 0x80000000 + n.toNat := toNat_flag_add hn
    rw [hsum]
    refine ⟨Or.inr ⟨by omega, by omega⟩, iff_of_true (by omega) rfl, ?_⟩
    show (0x80000000 + n.toNat) % 0x20000000 = n.toNat
    omega

/-- Every canonical id is the one of a valid socket id. -/
theorem exists_idOfSocket (h : canonicalId id = id) : ∃ s, s.IsValid ∧ idOfSocket s = id := by
  rcases canonicalId_eq_self_iff.1 h with hlow | ⟨hflag, hlow⟩
  · exact ⟨.standard id, SocketId.isValid_standard_iff.2 hlow, rfl⟩
  · have hraw := toNat_rawId id
    have hlt : (rawId id).toNat < 0x20000000 := by omega
    refine ⟨.extended (rawId id), SocketId.isValid_extended_iff.2 hlt, UInt32.toNat_inj.1 ?_⟩
    show (extendedFlag + rawId id).toNat = id.toNat
    rw [toNat_flag_add hlt]
    omega

/-- The id of a valid socket id is brought back to that socket id. -/
theorem socketId?_idOfSocket (h : s.IsValid) : socketId? (idOfSocket s) = some s := by
  obtain ⟨-, hext, hraw⟩ := idOfSocket_spec h
  unfold socketId?
  rw [hext, hraw]
  cases s with
  | standard n =>
    have hn := SocketId.isValid_standard_iff.1 h
    have hcut : n % 0x10000 = n := by
      rw [← UInt32.toNat_inj, UInt32.toNat_mod]
      exact Nat.mod_eq_of_lt (Nat.lt_trans hn (by decide))
    show SocketId.standard? (n % 0x10000) = some (.standard n)
    rw [hcut]
    exact if_pos h
  | extended n => exact if_pos h

/-! ## Frames -/

/-- The frames there are: made of an id and data, or read from bytes. -/
inductive Obtained (f : Frame) : Prop where
  | made (id : UInt32) (data : Bytes) (h : make id data = .ok f)
  | read (raw : Bytes) (h : decode raw = .ok f)

/-- The frames there are have canonical ids, and every frame with one can be obtained. -/
theorem obtained_iff : f.Obtained ↔ canonicalId f.id = f.id := by
  constructor
  · intro h
    cases h with
    | made id data h => rw [(make_eq_ok_iff.1 h).1, canonicalId_canonicalId]
    | read raw h => rw [(decode_eq_ok_iff.1 h).2.1, canonicalId_canonicalId]
  · intro h
    exact .made f.id f.data (make_eq_ok_iff.2 ⟨h.symm, rfl⟩)

/-- A data frame of a socket comes in with the id of its socket id and with its data. -/
theorem ofSocket?_data_eq_some_iff (h : s.IsValid) :
    ofSocket? (.data s bytes) = some f ↔ f.id = idOfSocket s ∧ f.data = bytes := by
  have hmake : ofSocket? (.data s bytes) = some f ↔ make (idOfSocket s) bytes = .ok f := by
    show (make (idOfSocket s) bytes).toOption = some f ↔ _
    cases make (idOfSocket s) bytes with
    | error e => simp [Except.toOption]
    | ok g => simp [Except.toOption]
  rw [hmake, make_eq_ok_iff, (idOfSocket_spec h).1]

/-- A frame with the id of a valid socket id goes out under this one. -/
theorem toSocket_of_id (h : s.IsValid) (hid : f.id = idOfSocket s) :
    f.toSocket = .ok (.data s f.data) := by
  have hdata : SocketFrame.data? s f.data = some (.data s f.data) := if_pos f.length_le
  unfold toSocket
  rw [hid, socketId?_idOfSocket h, Option.bind_some, hdata]

/-- Every frame that was obtained can go out, as a data frame of a valid socket id. -/
theorem exists_toSocket (h : f.Obtained) :
    ∃ s, s.IsValid ∧ f.id = idOfSocket s ∧ f.toSocket = .ok (.data s f.data) := by
  obtain ⟨s, hvalid, hid⟩ := exists_idOfSocket (obtained_iff.1 h)
  exact ⟨s, hvalid, hid.symm, toSocket_of_id hvalid hid.symm⟩

/-- Frames that go out alike are the same in id and data. -/
theorem toSocket_injective (hf : f.Obtained) (hg : g.Obtained) (h : f.toSocket = g.toSocket) :
    f.id = g.id ∧ f.data = g.data := by
  obtain ⟨s, -, hfid, hfs⟩ := exists_toSocket hf
  obtain ⟨t, -, hgid, hgt⟩ := exists_toSocket hg
  rw [hfs, hgt, Except.ok.injEq, SocketFrame.data.injEq] at h
  exact ⟨by rw [hfid, hgid, h.1], h.2⟩

/-- Every data frame of a socket that is valid comes in. -/
theorem exists_ofSocket? (hs : s.IsValid) (hbytes : bytes.length ≤ maxData) :
    ∃ f, f.Obtained ∧ ofSocket? (.data s bytes) = some f ∧ f.id = idOfSocket s ∧ f.data = bytes := by
  obtain ⟨f, hf⟩ := exists_make (idOfSocket s) hbytes
  obtain ⟨hid, hdata⟩ := make_eq_ok_iff.1 hf
  rw [(idOfSocket_spec hs).1] at hid
  exact ⟨f, .made _ _ hf, (ofSocket?_data_eq_some_iff hs).2 ⟨hid, hdata⟩, hid, hdata⟩

/-- Every frame that was made or read has a form on a socket. It is extended exactly if the id has
the flag, its number is the id without flags, and the frame is got back from it. Frames with the
same form have the same id and the same data, and no standard frame has the form of an extended one.
What comes in with data, as a socket may carry it, goes out again as it was; without data it is the
empty frame of the same id. -/
theorem socket_round_trip :
    (∀ f : Frame, f.Obtained → ∃ s, f.toSocket = .ok (.data s f.data) ∧ s.IsValid ∧
      s.isExtended = isExtended f.id ∧ s.raw = rawId f.id ∧
      ofSocket? (.data s f.data) = some f) ∧
    (∀ f g : Frame, f.Obtained → g.Obtained →
      (f.toSocket = g.toSocket → f.id = g.id ∧ f.data = g.data) ∧
      (isExtended f.id ≠ isExtended g.id → f.toSocket ≠ g.toSocket)) ∧
    (∀ (s : SocketId) (bytes : Bytes), s.IsValid → bytes.length ≤ maxData → ∃ f : Frame,
      f.Obtained ∧ ofSocket? (.data s bytes) = some f ∧ f.toSocket = .ok (.data s bytes)) ∧
    (∀ (s : SocketId) (n : Nat), s.IsValid → ∃ f : Frame,
      f.Obtained ∧ ofSocket? (.remote s n) = some f ∧ isExtended f.id = s.isExtended ∧
      rawId f.id = s.raw ∧ f.data = [] ∧ f.toSocket = .ok (.data s [])) := by
  refine ⟨?_, ?_, ?_, ?_⟩
  · intro f hf
    obtain ⟨s, hvalid, hid, hto⟩ := exists_toSocket hf
    obtain ⟨-, hext, hraw⟩ := idOfSocket_spec hvalid
    rw [← hid] at hext hraw
    exact ⟨s, hto, hvalid, hext.symm, hraw.symm, (ofSocket?_data_eq_some_iff hvalid).2 ⟨hid, rfl⟩⟩
  · intro f g hf hg
    constructor
    · exact toSocket_injective hf hg
    · intro hkind hsame
      exact hkind (by rw [(toSocket_injective hf hg hsame).1])
  · intro s bytes hvalid hbytes
    obtain ⟨f, hf, hof, hid, rfl⟩ := exists_ofSocket? hvalid hbytes
    exact ⟨f, hf, hof, toSocket_of_id hvalid hid⟩
  · intro s n hvalid
    obtain ⟨-, hext, hraw⟩ := idOfSocket_spec hvalid
    -- what comes in without data is taken as what comes in with no bytes of data
    have hempty : ([] : Bytes).length ≤ maxData := Nat.zero_le maxData
    obtain ⟨f, hf, hof, hid, hdata⟩ := exists_ofSocket? hvalid hempty
    rw [← hid] at hext hraw
    have hto := toSocket_of_id hvalid hid
    rw [hdata] at hto
    exact ⟨f, hf, hof, hext, hraw, hdata, hto⟩

/-- A standard frame and an extended one of the same number and data, and what comes in without data
under the highest extended id. -/
theorem socket_round_trip_of_same_number : ∃ f g h : Frame,
    make 0x123 [1, 2] = .ok f ∧
    decode [0x23, 1, 0, 0x80, 2, 0, 0, 0, 1, 2, 9, 9, 9, 9, 9, 9] = .ok g ∧
    (∃ s, f.toSocket = .ok (.data s f.data) ∧ s.isExtended = false ∧ s.raw = 0x123 ∧
      ofSocket? (.data s f.data) = some f) ∧
    (∃ s, g.toSocket = .ok (.data s g.data) ∧ s.isExtended = true ∧ s.raw = 0x123 ∧
      ofSocket? (.data s g.data) = some g) ∧
    f.toSocket ≠ g.toSocket ∧
    ofSocket? (.remote (.extended 0x1fffffff) 8) = some h ∧
    h.toSocket = .ok (.data (.extended 0x1fffffff) []) := by
  obtain ⟨hform, hapart, -, hremote⟩ := socket_round_trip
  have hf : make 0x123 [1, 2] = .ok ⟨0x123, [1, 2], by decide⟩ := rfl
  have hg : decode [0x23, 1, 0, 0x80, 2, 0, 0, 0, 1, 2, 9, 9, 9, 9, 9, 9] =
      .ok ⟨0x80000123, [1, 2], by decide⟩ := rfl
  obtain ⟨s, hfs, -, hfext, hfraw, hfback⟩ := hform _ (.made _ _ hf)
  obtain ⟨t, hgt, -, hgext, hgraw, hgback⟩ := hform _ (.read _ hg)
  obtain ⟨h, -, hof, -, -, -, hto⟩ := hremote (.extended 0x1fffffff) 8 (by decide)
  have hkinds := (hapart _ _ (.made _ _ hf) (.read _ hg)).2 (by decide)
  exact ⟨_, _, h, hf, hg, ⟨s, hfs, hfext.trans rfl, hfraw.trans rfl, hfback⟩,
    ⟨t, hgt, hgext.trans rfl, hgraw.trans rfl, hgback⟩, hkinds, hof, hto⟩

end Frame

end RemoteDevice.Can
