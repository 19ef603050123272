import RemoteDevice.Proofs.Wire.Framing
import RemoteDevice.Wire.Stream

/-!
# Proofs.Wire.Delivery — a message that is sent arrives, or its sender is told

A stream takes as few of the bytes it is offered as it likes, and at some point it may be full. What
arrives of a message is then its beginning, as far as there was room, whatever the pieces were. The
sender is told of a success exactly if there was room for the whole message. A message whose payload
is too long for its header is refused before anything is written.
-/

namespace RemoteDevice.Wire

variable {σ : Type} [ByteSink σ]

/-- A stream has taken some bytes and has room for a number of others. Of those that it is offered it
takes at least one, and no more than there is room for; if it is full it takes none. -/
structure Accepts (has : σ → Bytes → Nat → Prop) : Prop where
  piece {s : σ} {taken bytes : Bytes} {room : Nat} : has s taken room → bytes ≠ [] → 0 < room →
    ∃ n s', ByteSink.write bytes s = (.ok n, s') ∧ 0 < n ∧ n ≤ bytes.length ∧ n ≤ room ∧
      has s' (taken ++ bytes.take n) (room - n)
  full {s : σ} {taken bytes : Bytes} : has s taken 0 → bytes ≠ [] →
    ∃ s', ByteSink.write bytes s = (.ok 0, s') ∧ has s' taken 0

/-- A stream that takes `chunk` bytes at a time is one of these. -/
theorem Writer.accepts {chunk : Nat} (hchunk : 0 < chunk) :
    Accepts fun (w : Writer) taken room => w.chunk = chunk ∧ w.arrived = taken ∧ w.room = room := by
  have harrived : ∀ (w : Writer) (piece : Bytes), (w.push piece).arrived = w.arrived ++ piece := by
    intro w piece
    simp [push, arrived]
  constructor
  · intro w taken bytes room ⟨hw, htaken, hroom⟩ hbytes hpos
    have hlength := List.length_pos_iff.2 hbytes
    have htakes : w.takes = min chunk room := by rw [takes, hw, hroom]
    have hpiece : (bytes.take w.takes).length = min (min chunk room) bytes.length := by
      rw [List.length_take, htakes]
    refine ⟨(bytes.take w.takes).length, w.push (bytes.take w.takes), rfl, ?_, ?_, ?_, hw, ?_, ?_⟩
    · omega
    · omega
    · omega
    · rw [harrived, htaken, List.length_take, ← List.take_eq_take_min]
    · rw [← hroom]
      rfl
  · intro w taken bytes ⟨hw, htaken, hroom⟩ hbytes
    have htakes : w.takes = 0 := by rw [takes, hroom, Nat.min_zero]
    have hpiece : bytes.take w.takes = [] := by rw [htakes, List.take_zero]
    refine ⟨w.push (bytes.take w.takes), ?_, hw, ?_, ?_⟩
    · show w.write bytes = _
      rw [write, hpiece]
      rfl
    · rw [harrived, hpiece, List.append_nil, htaken]
    · rw [hpiece]
      exact hroom

section Streams

variable {has : σ → Bytes → Nat → Prop}

theorem writeAll_nil (s : σ) : writeAll [] s = (.ok (), s) := by
  rw [writeAll, dif_pos rfl]

/-- A sink that takes nothing more makes the writing fail. -/
theorem writeAll_of_full {s s' : σ} {bytes : Bytes} (hne : bytes ≠ [])
    (h : ByteSink.write bytes s = (.ok 0, s')) : writeAll bytes s = (.error .writeZero, s') := by
  rw [writeAll, dif_neg hne, h]

/-- One round of writing: a piece is taken, and what is left is written behind it. -/
theorem writeAll_of_piece {s s' : σ} {bytes : Bytes} {n : Nat} (hne : bytes ≠ []) (hn : 0 < n)
    (h : ByteSink.write bytes s = (.ok n, s')) : writeAll bytes s = writeAll (bytes.drop n) s' := by
  obtain ⟨k, rfl⟩ := Nat.exists_eq_add_one_of_ne_zero (Nat.pos_iff_ne_zero.1 hn)
  rw [writeAll, dif_neg hne, h]

/-- What arrives of some bytes are the first of them, as many as there is room for; writing succeeds
if these are all. -/
theorem Accepts.writeAll_eq (hs : Accepts has) {s : σ} {taken : Bytes} {room : Nat}
    (h : has s taken room) (bytes : Bytes) :
    ∃ s', writeAll bytes s = (if bytes.length ≤ room then .ok () else .error .writeZero, s') ∧
      has s' (taken ++ bytes.take room) (room - bytes.length) := by
  -- induction on what is still to be written: every piece is some of it
  induction hlength : bytes.length using Nat.strongRecOn generalizing bytes s taken room with
  | _ k ih =>
    by_cases hne : bytes = []
    · subst hne
      refine ⟨s, ?_, ?_⟩
      · rw [writeAll_nil, if_pos (hlength ▸ Nat.zero_le _)]
      · rwa [List.take_nil, List.append_nil, ← hlength]
    · have hpos := List.length_pos_iff.2 hne
      rcases Nat.eq_zero_or_pos room with rfl | hroom
      · obtain ⟨s', hwrite, h'⟩ := hs.full h hne
        refine ⟨s', ?_, ?_⟩
        · rw [writeAll_of_full hne hwrite, if_neg (by omega)]
        · rwa [List.take_zero, List.append_nil, Nat.zero_sub]
      · obtain ⟨n, s₁, hwrite, hn, hle, hfits, h₁⟩ := hs.piece h hne hroom
        have hleft : (bytes.drop n).length = k - n := by rw [List.length_drop, hlength]
        obtain ⟨s', hrest, h'⟩ := ih (k - n) (by omega) h₁ (bytes.drop n) hleft
        refine ⟨s', ?_, ?_⟩
        · rw [writeAll_of_piece hne hn hwrite, hrest]
          have hsame : k - n ≤ room - n ↔ k ≤ room := by omega
          simp only [hsame]
        · -- the first `n` bytes and then the first `room - n` of the others
          have htake : bytes.take room = bytes.take n ++ (bytes.drop n).take (room - n) := by
            rw [← List.take_add, Nat.add_sub_cancel' hfits]
          rw [htake, ← List.append_assoc]
          have hsame : room - n - (k - n) = room - k := by omega
          rwa [← hsame]

/-- A message whose payload is too long is refused, and nothing is written. -/
theorem Message.send_of_lt {m : Message} (h : maxPayload < m.payload.length) (s : σ) :
    m.send s = (.error (.payloadTooLarge m.payload.length), s) := by
  have hheader : m.header = .error (.payloadTooLarge m.payload.length) := if_neg (Nat.not_le.2 h)
  rw [Message.send, hheader]

/-- The bytes of a message are its header and its payload; they arrive as far as there is room. -/
theorem Accepts.send_eq (hs : Accepts has) {m : Message} (hm : m.payload.length ≤ maxPayload)
    {s : σ} {taken : Bytes} {room : Nat} (h : has s taken room) :
    let header : Header := ⟨m.opcode, m.unit, m.control, UInt16.ofNat m.payload.length⟩
    let total := headerLength + m.payload.length
    ∃ s', m.send s = (if total ≤ room then .ok total else .error (.io .writeZero), s') ∧
      has s' (taken ++ (header.encode ++ m.payload).take room) (room - total) := by
  intro header total
  have hheader : m.header = .ok header := if_pos hm
  have hlength := Header.length_encode header
  obtain ⟨s₁, hfirst, h₁⟩ := hs.writeAll_eq h header.encode
  rw [hlength] at hfirst h₁
  unfold Message.send
  rw [hheader]
  dsimp only
  by_cases hinside : headerLength ≤ room
  · obtain ⟨s₂, hsecond, h₂⟩ := hs.writeAll_eq h₁ m.payload
    rw [hfirst, if_pos hinside]
    dsimp only
    rw [hsecond]
    refine ⟨s₂, ?_, ?_⟩
    · by_cases hall : m.payload.length ≤ room - headerLength
      · rw [if_pos hall, if_pos (by omega)]
      · rw [if_neg hall, if_neg (by omega)]
    · rw [List.take_append, hlength, ← List.append_assoc, ← Nat.sub_sub]
      exact h₂
  · -- the stream is full inside of the header
    rw [hfirst, if_neg hinside]
    refine ⟨s₁, ?_, ?_⟩
    · rw [if_neg (by omega)]
    · rw [List.take_append_of_le_length (by omega)]
      have hnone : room - total = room - headerLength := by omega
      rwa [hnone]

/-- A message is refused if its payload is too long for the header. Of any other one its bytes, the
header and then the payload, arrive as far as there is room; the sender is told their number exactly
if there is room for all of them, and of a failed output otherwise. -/
theorem send_delivers (hs : Accepts has) (m : Message) {s : σ} {taken : Bytes} {room : Nat}
    (h : has s taken room) :
    if maxPayload < m.payload.length then
      m.send s = (.error (.payloadTooLarge m.payload.length), s)
    else
      let header : Header := ⟨m.opcode, m.unit, m.control, UInt16.ofNat m.payload.length⟩
      let total := headerLength + m.payload.length
      ∃ s', m.send s = (if total ≤ room then .ok total else .error (.io .writeZero), s') ∧
        has s' (taken ++ (header.encode ++ m.payload).take (min room total)) (room - total) := by
  by_cases hlong : maxPayload < m.payload.length
  · rw [if_pos hlong]
    exact Message.send_of_lt hlong s
  · rw [if_neg hlong]
    intro header total
    have hlength : (header.encode ++ m.payload).length = total := by
      rw [List.length_append, Header.length_encode]
    obtain ⟨s', hsend, h'⟩ := hs.send_eq (Nat.not_lt.1 hlong) h
    refine ⟨s', hsend, ?_⟩
    rw [← hlength, ← List.take_eq_take_min]
    rwa [hlength]

end Streams

/-- Of a message with four bytes of payload, ten bytes arrive on a stream that has room for no more,
three at a time. -/
theorem send_delivers_in_part :
    let m := Message.request .writeUnit 3 0x12345678 [7, 8, 9, 10]
    let w : Writer := ⟨3, 10, []⟩
    w.chunk = 3 ∧ w.room = 10 ∧ (send m w).1 = .error (.io .writeZero) ∧
      (send m w).2.arrived = [4, 3, 0x78, 0x56, 0x34, 0x12, 4, 0, 7, 8] := by
  intro m w
  have hchunk : 0 < 3 := by decide
  have hsend := send_delivers (Writer.accepts hchunk) m (s := w) ⟨rfl, rfl, rfl⟩
  rw [if_neg (by decide)] at hsend
  obtain ⟨w', hresult, -, harrived, -⟩ := hsend
  rw [if_neg (by decide)] at hresult
  have hsent : send m w = (.error (.io .writeZero), w') := hresult
  rw [hsent]
  refine ⟨rfl, rfl, rfl, ?_⟩
  rw [harrived]
  decide

end RemoteDevice.Wire
