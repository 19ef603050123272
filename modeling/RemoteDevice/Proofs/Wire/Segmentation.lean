import RemoteDevice.Proofs.Wire.Framing

/-!
# Proofs.Wire.Segmentation — messages through a buffer that grows by pieces

Messages are put into one buffer after another, their bytes arrive in another one in pieces, and
after each piece that one gives up all messages that are complete. However the bytes were cut, the
messages come out as they were put in: after some of the bytes, those that are complete by then, and
the buffer holds what follows them. The other way round, the messages that came out and what the
buffer holds are all the bytes that arrived.
-/

namespace RemoteDevice.Wire

namespace Framing

/-! ## Putting messages in -/

/-- Puts messages at the end of the buffer one after another, up to the first that is refused. -/
def putAll : List Message → Bytes → Except Error Unit × Bytes
  | [], buffer => (.ok (), buffer)
  | m :: ms, buffer =>
    match put m buffer with
    | (.error e, buffer) => (.error e, buffer)
    | (.ok _, buffer) => putAll ms buffer

/-- A message that can be encoded goes behind what is in the buffer. -/
theorem put_of_encode {m : Message} {front : Bytes} (h : m.encode = .ok front) (buffer : Bytes) :
    put m buffer = (.ok (), buffer ++ front) := by
  rcases Message.encode_eq_ok_iff.1 h with ⟨hlength, rfl⟩
  simp [put, Message.header, hlength]

/-- A message whose payload is too long is refused, and the buffer stays as it was. -/
theorem put_of_lt {m : Message} (h : maxPayload < m.payload.length) (buffer : Bytes) :
    put m buffer = (.error (.payloadTooLarge m.payload.length), buffer) := by
  simp [put, Message.header, Nat.not_le.2 h]

/-- Messages that can be encoded go there one behind another. -/
theorem putAll_of_framed {ms : List Message} {bytes : Bytes} (h : Framed [] ms bytes)
    (buffer : Bytes) : putAll ms buffer = (.ok (), buffer ++ bytes) := by
  induction h generalizing buffer with
  | done => rw [List.append_nil, putAll]
  | message hm _ ih =>
    rw [putAll, put_of_encode hm]
    dsimp only
    rw [ih, List.append_assoc]

/-! ## Taking messages out -/

/-- Pieces arrive in the buffer one after another, and after each of them all messages are taken out
that are complete. -/
def feed : List Bytes → Bytes → List Message × Bytes
  | [], buffer => ([], buffer)
  | data :: pieces, buffer =>
    let (ms, rest) := drain (buffer ++ data)
    let (later, left) := feed pieces rest
    (ms ++ later, left)

/-- It does not matter how bytes are cut: pieces give the messages of all of them together. -/
theorem feed_eq_drain (pieces : List Bytes) {buffer : Bytes} (h : Incomplete buffer) :
    feed pieces buffer = drain (buffer ++ pieces.flatten) := by
  -- induction on the pieces, with what any earlier pieces left in the buffer
  induction pieces generalizing buffer with
  | nil =>
    rw [List.flatten_nil, List.append_nil, drain_of_none (decode?_eq_none_iff.2 h)]
    rfl
  | cons data pieces ih =>
    cases hd : drain (buffer ++ data) with | mk ms rest =>
    have hrest : Incomplete rest := by
      have hincomplete := (framed_drain (buffer ++ data)).2
      rwa [hd] at hincomplete
    rw [List.flatten_cons, ← List.append_assoc, drain_append _ _ hd, ← ih hrest, feed, hd]

/-- Messages and a rest come out of bytes that are these messages and this rest. -/
theorem feed_of_framed {pieces : List Bytes} {ms : List Message} {rest : Bytes}
    (h : Framed rest ms pieces.flatten) (hrest : Incomplete rest) :
    feed pieces [] = (ms, rest) := by
  rw [feed_eq_drain pieces .nil, List.nil_append]
  exact drain_of_framed hrest h

/-- Of the messages whose bytes have arrived in part, as many come out as are complete. -/
theorem feed_of_prefix {ms : List Message} {bytes : Bytes} {pieces : List Bytes}
    (h : Framed [] ms bytes) (hpart : pieces.flatten <+: bytes) : ∃ k whole rest,
      k ≤ ms.length ∧ feed pieces [] = (ms.take k, rest) ∧
      putAll (ms.take k) [] = (.ok (), whole) ∧ pieces.flatten = whole ++ rest ∧
      ∀ j ≤ ms.length, ∀ front, putAll (ms.take j) [] = (.ok (), front) →
        (front <+: pieces.flatten ↔ j ≤ k) := by
  rcases h.of_prefix hpart with ⟨k, rest, hk, hframed, hrest, hfits⟩
  rcases hframed.split with ⟨whole, hwhole, hsplit⟩
  refine ⟨k, whole, rest, hk, feed_of_framed hframed hrest, putAll_of_framed hwhole [], hsplit, ?_⟩
  intro j hj front hput
  rcases h.take j with ⟨front', hframed', hle⟩
  rw [putAll_of_framed hframed'] at hput
  obtain rfl := (Prod.mk.inj hput).2
  -- of two beginnings of the same bytes the shorter one begins the other
  have hlength := hframed'.length_eq
  rw [List.length_nil, Nat.add_zero] at hlength
  rw [List.nil_append, ← hfits j hj, ← hlength]
  exact ⟨fun hle' => hle'.length_le, fun hshort => List.prefix_of_prefix_length_le hle hpart hshort⟩

/-- Everything about messages on their way through buffers. Messages with short payloads are put in
one behind the other; whatever pieces their bytes arrive in, exactly these messages come out and
nothing is left; and after a part of the bytes, the messages have come out whose bytes are all in
this part, and what follows them is left. Any bytes at all are the messages that come out of them,
put in again, and what is left. And a message with a longer payload is refused, which leaves the
buffer as it was. -/
theorem feed_putAll :
    (∀ ms : List Message, (∀ m ∈ ms, m.payload.length ≤ maxPayload) →
      ∃ bytes, putAll ms [] = (.ok (), bytes) ∧
        (∀ pieces : List Bytes, pieces.flatten = bytes → feed pieces [] = (ms, [])) ∧
        ∀ pieces : List Bytes, pieces.flatten <+: bytes → ∃ k whole rest,
          k ≤ ms.length ∧ feed pieces [] = (ms.take k, rest) ∧
          putAll (ms.take k) [] = (.ok (), whole) ∧ pieces.flatten = whole ++ rest ∧
          ∀ j ≤ ms.length, ∀ front, putAll (ms.take j) [] = (.ok (), front) →
            (front <+: pieces.flatten ↔ j ≤ k)) ∧
    (∀ pieces : List Bytes, ∃ whole, putAll (feed pieces []).1 [] = (.ok (), whole) ∧
      whole ++ (feed pieces []).2 = pieces.flatten) ∧
    ∀ (m : Message) (buffer : Bytes), maxPayload < m.payload.length →
      put m buffer = (.error (.payloadTooLarge m.payload.length), buffer) := by
  refine ⟨?_, ?_, fun m buffer hm => put_of_lt hm buffer⟩
  · intro ms hms
    rcases exists_framed hms with ⟨bytes, hframed⟩
    refine ⟨bytes, putAll_of_framed hframed [], ?_, ?_⟩
    · rintro pieces rfl
      exact feed_of_framed hframed .nil
    · intro pieces hpart
      exact feed_of_prefix hframed hpart
  · intro pieces
    rcases framed_drain pieces.flatten with ⟨hframed, -⟩
    rcases hframed.split with ⟨whole, hwhole, hsplit⟩
    rw [feed_eq_drain pieces .nil, List.nil_append]
    exact ⟨whole, putAll_of_framed hwhole [], hsplit.symm⟩

/-- Two messages, cut inside the header of each. -/
theorem feed_putAll_of_two :
    let ms := [Message.request .writeUnit 3 0x12345678 [7, 8], Message.reply 1 2 []]
    (∀ m ∈ ms, m.payload.length ≤ maxPayload) ∧
      feed [[4, 3, 0x78], [0x56, 0x34, 0x12, 2, 0, 7, 8, 0, 1, 2], [0, 0, 0, 0, 0]] [] =
        (ms, []) := by
  intro ms
  have hms : ∀ m ∈ ms, m.payload.length ≤ maxPayload := by decide
  rcases feed_putAll.1 ms hms with ⟨bytes, hput, hfeed, -⟩
  exact ⟨hms, hfeed _ (Prod.mk.inj hput).2⟩

end Framing

end RemoteDevice.Wire
