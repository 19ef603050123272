/-!
# Bytes — byte strings and little-endian numbers

A byte string is a list. Numbers of two and four bytes stand in it with the lowest byte first, and
reading one back gives the number that was written.
-/

namespace RemoteDevice

/-- A byte string. -/
abbrev Bytes := List UInt8

/-- The `i`-th lowest byte of a number. -/
def byteAt (n i : Nat) : UInt8 :=
  UInt8.ofNat (n >>> (8 * i))

/-- Two bytes, the lower one first. -/
def le16 (n : UInt16) : Bytes :=
  [byteAt n.toNat 0, byteAt n.toNat 1]

/-- Four bytes, the lowest one first. -/
def le32 (n : UInt32) : Bytes :=
  [byteAt n.toNat 0, byteAt n.toNat 1, byteAt n.toNat 2, byteAt n.toNat 3]

/-- The number two bytes stand for. -/
def ofLe16 (a b : UInt8) : UInt16 :=
  UInt16.ofNat (a.toNat + 256 * b.toNat)

/-- The number four bytes stand for. -/
def ofLe32 (a b c d : UInt8) : UInt32 :=
  UInt32.ofNat (a.toNat + 256 * b.toNat + 65536 * c.toNat + 16777216 * d.toNat)

/-- The bytes with `front` put over their beginning. -/
def overwrite (front bytes : Bytes) : Bytes :=
  front ++ bytes.drop front.length

theorem toNat_byteAt (n i : Nat) : (byteAt n i).toNat = n >>> (8 * i) % 256 := by
  simp [byteAt]

theorem le16_ofLe16 (a b : UInt8) : le16 (ofLe16 a b) = [a, b] := by
  have ha := a.toNat_lt
  have hb := b.toNat_lt
  simp only [le16, ofLe16, List.cons.injEq, and_true]
  constructor <;>
  · apply UInt8.toNat_inj.1
    rw [toNat_byteAt]
    simp only [UInt16.toNat_ofNat']
    omega

theorem ofLe16_le16 (n : UInt16) : ofLe16 (byteAt n.toNat 0) (byteAt n.toNat 1) = n := by
  have hn := n.toNat_lt
  apply UInt16.toNat_inj.1
  simp only [ofLe16, toNat_byteAt, UInt16.toNat_ofNat']
  omega

theorem le32_ofLe32 (a b c d : UInt8) : le32 (ofLe32 a b c d) = [a, b, c, d] := by
  have ha := a.toNat_lt
  have hb := b.toNat_lt
  have hc := c.toNat_lt
  have hd := d.toNat_lt
  simp only [le32, ofLe32, List.cons.injEq, and_true]
  refine ⟨?_, ?_, ?_, ?_⟩ <;>
  · apply UInt8.toNat_inj.1
    rw [toNat_byteAt]
    simp only [UInt32.toNat_ofNat']
    omega

theorem ofLe32_le32 (n : UInt32) :
    ofLe32 (byteAt n.toNat 0) (byteAt n.toNat 1) (byteAt n.toNat 2) (byteAt n.toNat 3) = n := by
  have hn := n.toNat_lt
  apply UInt32.toNat_inj.1
  simp only [ofLe32, toNat_byteAt, UInt32.toNat_ofNat']
  omega

end RemoteDevice
