import Mathlib.Data.List.TakeWhile
import RemoteDevice.Text.Utf8

/-!
# Proofs.Text.Utf8 — texts come back from their bytes

The bytes of a text read as this text again, and only a zero character has a zero byte among its
bytes. A name with a zero byte behind it can therefore be told from whatever follows.
-/

namespace RemoteDevice.Text

/-! ## Bytes -/

theorem toList_eq_data (bytes : ByteArray) : bytes.toList = bytes.data.toList := by
  -- from any place on, the loop adds the bytes that are left
  have hloop : ∀ i got, ByteArray.toList.loop bytes i got =
      got.reverse ++ bytes.data.toList.drop i := by
    intro i got
    fun_induction ByteArray.toList.loop bytes i got with
    | case1 i got hlt ih =>
      have hlength : i < bytes.data.toList.length := by simpa using hlt
      have hget : bytes.get! i = bytes.data.toList[i] := by
        rw [Array.getElem_toList]
        exact getElem!_pos bytes.data i hlt
      rw [ih, List.drop_eq_getElem_cons hlength, hget]
      simp
    | case2 i got hle =>
      have hend : bytes.data.toList.length ≤ i := by simpa using hle
      rw [List.drop_eq_nil_of_le hend, List.append_nil]
  rw [ByteArray.toList, hloop]
  rfl

theorem length_encode (s : String) : (encode s).length = s.utf8ByteSize := by
  rw [encode, toList_eq_data, Array.length_toList]
  rfl

/-- The bytes of a text are those of its characters. -/
theorem encode_eq_flatMap (s : String) : encode s = s.toList.flatMap String.utf8EncodeChar := by
  have hs : (String.ofList s.toList).toByteArray = s.toList.utf8Encode := String.toByteArray_ofList
  rw [String.ofList_toList] at hs
  rw [encode, toList_eq_data, String.toUTF8, hs, List.utf8Encode, List.data_toByteArray]

/-! ## Characters -/

/-- A sequence is read whole. -/
theorem decode_of_sequence {b : UInt8} {n lo hi : Nat} {bytes rest : List UInt8}
    (hb : 0x80 ≤ b.toNat) (hsequence : sequence? b = some (n, lo, hi)) (hn : bytes.length = n)
    (hfound : continuing lo hi n (bytes ++ rest) = n) :
    decode (b :: bytes ++ rest) =
      some (Char.ofNat (codePoint (leadBits b n) bytes)) :: decode rest := by
  have htake : (bytes ++ rest).take n = bytes := by rw [← hn, List.take_left]
  have hdrop : (bytes ++ rest).drop n = rest := by rw [← hn, List.drop_left]
  rw [List.cons_append, decode, if_neg (Nat.not_lt.2 hb), hsequence]
  simp only [hfound, htake, hdrop, if_true]

theorem toNat_ofNat_of_lt {n : Nat} (h : n < 256) : (UInt8.ofNat n).toNat = n :=
  UInt8.toNat_ofNat_of_lt' h

/-- The byte that carries the last six bits of a number, as it stands behind others. -/
theorem toNat_trailing (v : Nat) : (UInt8.ofNat (v % 64 + 128)).toNat = v % 64 + 128 := by
  apply toNat_ofNat_of_lt
  omega

/-- A character of two bytes. -/
theorem decode_two {v : Nat} (hlo : 0x7f < v) (hhi : v ≤ 0x7ff) (rest : List UInt8) :
    decode ([UInt8.ofNat (v / 64 % 32 + 192), UInt8.ofNat (v % 64 + 128)] ++ rest) =
      some (Char.ofNat v) :: decode rest := by
  have hb : (UInt8.ofNat (v / 64 % 32 + 192)).toNat = v / 64 + 192 := by
    rw [toNat_ofNat_of_lt] <;> omega
  have hlast := toNat_trailing v
  have hsequence : sequence? (UInt8.ofNat (v / 64 % 32 + 192)) = some (1, 0x80, 0xbf) := by
    unfold sequence?
    rw [hb]
    exact if_pos (by omega)
  have hfound : continuing 0x80 0xbf 1 ([UInt8.ofNat (v % 64 + 128)] ++ rest) = 1 := by
    simp only [List.singleton_append, continuing, hlast]
    rw [if_pos (by omega)]
  rw [List.cons_append, ← List.cons_append, decode_of_sequence (by omega) hsequence rfl hfound]
  have hpoint : codePoint (leadBits (UInt8.ofNat (v / 64 % 32 + 192)) 1)
      [UInt8.ofNat (v % 64 + 128)] = v := by
    simp only [codePoint, leadBits, List.foldl, hb, hlast]
    omega
  rw [hpoint]

/-- A character of three bytes; half a surrogate pair is none. -/
theorem decode_three {v : Nat} (hlo : 0x7ff < v) (hhi : v ≤ 0xffff)
    (hvalid : v < 0xd800 ∨ 0xdfff < v) (rest : List UInt8) :
    decode ([UInt8.ofNat (v / 4096 % 16 + 224), UInt8.ofNat (v / 64 % 64 + 128),
      UInt8.ofNat (v % 64 + 128)] ++ rest) = some (Char.ofNat v) :: decode rest := by
  have hb : (UInt8.ofNat (v / 4096 % 16 + 224)).toNat = v / 4096 + 224 := by
    rw [toNat_ofNat_of_lt] <;> omega
  have hmiddle := toNat_trailing (v / 64)
  have hlast := toNat_trailing v
  -- the range of the second byte keeps out what is too small or a surrogate
  obtain ⟨lo, hi, hsequence, hrange⟩ : ∃ lo hi,
      sequence? (UInt8.ofNat (v / 4096 % 16 + 224)) = some (2, lo, hi) ∧
        lo ≤ v / 64 % 64 + 128 ∧ v / 64 % 64 + 128 ≤ hi := by
    unfold sequence?
    rw [hb]
    dsimp only
    rw [if_neg (by omega)]
    split
    · exact ⟨_, _, rfl, by omega, by omega⟩
    · split
      · exact ⟨_, _, rfl, by omega, by omega⟩
      · rw [if_pos (by omega)]
        exact ⟨_, _, rfl, by omega, by omega⟩
  have hfound : continuing lo hi 2 ([UInt8.ofNat (v / 64 % 64 + 128),
      UInt8.ofNat (v % 64 + 128)] ++ rest) = 2 := by
    simp only [List.cons_append, List.nil_append, continuing, hmiddle, hlast]
    rw [if_pos hrange, if_pos (by omega)]
  rw [List.cons_append, ← List.cons_append, decode_of_sequence (by omega) hsequence rfl hfound]
  have hpoint : codePoint (leadBits (UInt8.ofNat (v / 4096 % 16 + 224)) 2)
      [UInt8.ofNat (v / 64 % 64 + 128), UInt8.ofNat (v % 64 + 128)] = v := by
    simp only [codePoint, leadBits, List.foldl, hb, hmiddle, hlast]
    omega
  rw [hpoint]

/-- A character of four bytes. -/
theorem decode_four {v : Nat} (hlo : 0xffff < v) (hhi : v < 0x110000) (rest : List UInt8) :
    decode ([UInt8.ofNat (v / 262144 % 8 + 240), UInt8.ofNat (v / 4096 % 64 + 128),
      UInt8.ofNat (v / 64 % 64 + 128), UInt8.ofNat (v % 64 + 128)] ++ rest) =
      some (Char.ofNat v) :: decode rest := by
  have hb : (UInt8.ofNat (v / 262144 % 8 + 240)).toNat = v / 262144 + 240 := by
    rw [toNat_ofNat_of_lt] <;> omega
  have hsecond := toNat_trailing (v / 4096)
  have hthird := toNat_trailing (v / 64)
  have hlast := toNat_trailing v
  obtain ⟨lo, hi, hsequence, hrange⟩ : ∃ lo hi,
      sequence? (UInt8.ofNat (v / 262144 % 8 + 240)) = some (3, lo, hi) ∧
        lo ≤ v / 4096 % 64 + 128 ∧ v / 4096 % 64 + 128 ≤ hi := by
    unfold sequence?
    rw [hb]
    dsimp only
    rw [if_neg (by omega), if_neg (by omega), if_neg (by omega), if_neg (by omega)]
    split
    · exact ⟨_, _, rfl, by omega, by omega⟩
    · split
      · exact ⟨_, _, rfl, by omega, by omega⟩
      · rw [if_pos (by omega)]
        exact ⟨_, _, rfl, by omega, by omega⟩
  have hfound : continuing lo hi 3 ([UInt8.ofNat (v / 4096 % 64 + 128),
      UInt8.ofNat (v / 64 % 64 + 128), UInt8.ofNat (v % 64 + 128)] ++ rest) = 3 := by
    simp only [List.cons_append, List.nil_append, continuing, hsecond, hthird, hlast]
    rw [if_pos hrange, if_pos (by omega), if_pos (by omega)]
  rw [List.cons_append, ← List.cons_append, decode_of_sequence (by omega) hsequence rfl hfound]
  have hpoint : codePoint (leadBits (UInt8.ofNat (v / 262144 % 8 + 240)) 3)
      [UInt8.ofNat (v / 4096 % 64 + 128), UInt8.ofNat (v / 64 % 64 + 128),
        UInt8.ofNat (v % 64 + 128)] = v := by
    simp only [codePoint, leadBits, List.foldl, hb, hsecond, hthird, hlast]
    omega
  rw [hpoint]

/-- The bytes of a character read as this character. -/
theorem decode_utf8EncodeChar (c : Char) (rest : List UInt8) :
    decode (String.utf8EncodeChar c ++ rest) = some c :: decode rest := by
  have hc : Char.ofNat c.val.toNat = c := Char.ofNat_toNat c
  have hvalid : c.val.toNat < 0xd800 ∨ 0xdfff < c.val.toNat ∧ c.val.toNat < 0x110000 := c.valid
  have hsome : some c :: decode rest = some (Char.ofNat c.val.toNat) :: decode rest := by rw [hc]
  rw [hsome]
  unfold String.utf8EncodeChar
  dsimp only
  generalize c.val.toNat = v at hvalid
  by_cases hone : v ≤ 0x7f
  · have hb : (UInt8.ofNat v).toNat = v := toNat_ofNat_of_lt (by omega)
    rw [if_pos hone, List.singleton_append, decode, hb, if_pos (by omega)]
  · rw [if_neg hone]
    by_cases htwo : v ≤ 0x7ff
    · rw [if_pos htwo]
      exact decode_two (by omega) htwo rest
    · rw [if_neg htwo]
      by_cases hthree : v ≤ 0xffff
      · rw [if_pos hthree]
        exact decode_three (by omega) hthree (by omega) rest
      · rw [if_neg hthree]
        exact decode_four (by omega) (by omega) rest

/-! ## Texts -/

/-- Characters that are encoded one by one are read back one by one. -/
theorem decode_flatMap (chars : List Char) :
    decode (chars.flatMap String.utf8EncodeChar) = chars.map some := by
  induction chars with
  | nil => rw [List.flatMap_nil, decode, List.map_nil]
  | cons c chars ih => rw [List.flatMap_cons, decode_utf8EncodeChar, ih, List.map_cons]

/-- The bytes of a text read as this text. -/
theorem decodeLossy_encode (s : String) : decodeLossy (encode s) = s := by
  have hsame : (s.toList.map some).map (·.getD replacement) = s.toList := by
    rw [List.map_map]
    exact List.map_id _
  rw [decodeLossy, encode_eq_flatMap, decode_flatMap, hsame, String.ofList_toList]

/-- Only a zero character has a zero byte. -/
theorem zero_notMem_utf8EncodeChar {c : Char} (hc : c ≠ Char.ofNat 0) :
    0 ∉ String.utf8EncodeChar c := by
  have hne : ∀ n, 0 < n → n < 256 → (0 : UInt8) ≠ UInt8.ofNat n := by
    intro n hpos hlt heq
    have hzero : (0 : UInt8).toNat = (UInt8.ofNat n).toNat := congrArg _ heq
    rw [toNat_ofNat_of_lt hlt] at hzero
    exact absurd hzero (Nat.ne_of_lt hpos)
  have hpos : 0 < c.val.toNat := by
    apply Nat.pos_of_ne_zero
    intro hzero
    have hsame : Char.ofNat c.val.toNat = c := Char.ofNat_toNat c
    rw [hzero] at hsame
    exact hc hsame.symm
  unfold String.utf8EncodeChar
  dsimp only
  intro hmem
  split at hmem
  · next h => exact hne _ hpos (by omega) (List.mem_singleton.1 hmem)
  · -- every byte of a longer sequence has its highest bit set
    split at hmem
    · rcases List.mem_cons.1 hmem with h | hmem
      · exact hne _ (by omega) (by omega) h
      · exact hne _ (by omega) (by omega) (List.mem_singleton.1 hmem)
    · split at hmem
      · simp only [List.mem_cons, List.not_mem_nil, or_false] at hmem
        rcases hmem with h | h | h <;> exact hne _ (by omega) (by omega) h
      · simp only [List.mem_cons, List.not_mem_nil, or_false] at hmem
        rcases hmem with h | h | h | h <;> exact hne _ (by omega) (by omega) h

/-- A text without a zero character is what stands before the first zero byte. -/
theorem takeWhile_encode_append {s : String} (hs : Char.ofNat 0 ∉ s.toList) (rest : List UInt8) :
    (encode s ++ 0 :: rest).takeWhile (· ≠ 0) = encode s := by
  have hzero : ∀ b ∈ encode s, b ≠ 0 := by
    intro b hb heq
    rw [encode_eq_flatMap] at hb
    rcases List.mem_flatMap.1 hb with ⟨c, hmem, hbyte⟩
    have hc : c ≠ Char.ofNat 0 := fun h => hs (h ▸ hmem)
    exact zero_notMem_utf8EncodeChar hc (heq ▸ hbyte)
  rw [List.takeWhile_append_of_pos (by simpa using hzero)]
  simp

/-- The bytes of a text are those of its parts, one after another. -/
theorem encode_ofList_append (before after : List Char) :
    encode (String.ofList (before ++ after)) =
      encode (String.ofList before) ++ encode (String.ofList after) := by
  simp only [encode_eq_flatMap, String.toList_ofList, List.flatMap_append]

/-- The text before the first zero character. -/
def beforeZero (s : String) : String :=
  String.ofList (s.toList.takeWhile (· != Char.ofNat 0))

/-- Before the first zero character there is none. -/
theorem zero_notMem_beforeZero (s : String) : Char.ofNat 0 ∉ (beforeZero s).toList := by
  rw [beforeZero, String.toList_ofList]
  intro hmem
  have hne := List.mem_takeWhile_imp hmem
  simp at hne

/-- Behind what stands before the first zero character there is a zero byte, if only the one that
ends the text. -/
theorem encode_concat_eq (s : String) :
    ∃ rest, encode s ++ [0] = encode (beforeZero s) ++ 0 :: rest := by
  have hall := s.toList.takeWhile_append_dropWhile (p := (· != Char.ofNat 0))
  cases hrest : s.toList.dropWhile (· != Char.ofNat 0) with
  | nil =>
    rw [hrest, List.append_nil] at hall
    exact ⟨[], by rw [beforeZero, hall, String.ofList_toList]⟩
  | cons c rest =>
    have hstop := List.head?_dropWhile_not (· != Char.ofNat 0) s.toList
    rw [hrest] at hstop
    obtain rfl : c = Char.ofNat 0 := by simpa using hstop
    have hzero : encode (String.ofList (Char.ofNat 0 :: rest)) = 0 :: encode (String.ofList rest) := by
      simp only [encode_eq_flatMap, String.toList_ofList, List.flatMap_cons]
      rfl
    have hs : encode s = encode (beforeZero s) ++ 0 :: encode (String.ofList rest) := by
      rw [← hzero, beforeZero, ← encode_ofList_append, ← hrest, hall, String.ofList_toList]
    exact ⟨encode (String.ofList rest) ++ [0], by rw [hs, List.append_assoc, List.cons_append]⟩

end RemoteDevice.Text
