import RemoteDevice.Proofs.Wire.Delivery

/-!
# Proofs.Wire.Alignment — messages over streams that give and take little at a time

Messages are sent one after another, however few bytes the stream takes at a time, and received one
after another, however few bytes it gives at a time. Each is received into a buffer of its own, that
may be too short for it or empty, and takes exactly its bytes from the stream, so that the next one
begins where it should. If the stream ends before a message does, receiving that one fails.
-/

namespace RemoteDevice.Wire

variable {σ : Type} [ByteSource σ]

/-! ## Reading -/

/-- A stream holds some bytes and ends behind them. Of these it gives a piece when asked: at least
one byte, and no more than it was asked for. -/
structure Supplies (holds : σ → Bytes → Prop) : Prop where
  piece {s : σ} {bytes : Bytes} {n : Nat} : holds s bytes → bytes ≠ [] → 0 < n →
    ∃ front rest s', ByteSource.read n s = (.ok front, s') ∧ front ≠ [] ∧ front.length ≤ n ∧
      bytes = front ++ rest ∧ holds s' rest
  ended {s : σ} {n : Nat} : holds s [] → ∃ s', ByteSource.read n s = (.ok [], s') ∧ holds s' []

/-- A stream that gives `chunk` bytes at a time is one of these. -/
theorem Reader.supplies :
    Supplies fun (r : Reader) bytes => r.unread = bytes ∧ 0 < r.chunk ∧ r.failure = none where
  piece {r bytes n} := by
    rintro ⟨rfl, hchunk, hfailure⟩ hne hn
    have hfront : r.unread.take (min n r.chunk) ≠ [] := by
      rw [Ne, List.take_eq_nil_iff, not_or]
      exact ⟨by omega, hne⟩
    refine ⟨r.unread.take (min n r.chunk), r.unread.drop (min n r.chunk),
      { r with unread := r.unread.drop (min n r.chunk) }, ?_, hfront, ?_, ?_, rfl, hchunk, hfailure⟩
    · show Reader.read n r = _
      unfold Reader.read
      split
      · next h _ => exact absurd h hfront
      · next h _ => exact absurd h hfront
      · rfl
    · rw [List.length_take]
      omega
    · exact (List.take_append_drop _ _).symm
  ended {r n} := by
    rintro ⟨hunread, hchunk, hfailure⟩
    refine ⟨r, ?_, hunread, hchunk, hfailure⟩
    show Reader.read n r = _
    simp [Reader.read, hunread, hfailure]

theorem readOn_zero (got : Bytes) (s : σ) : readOn got 0 s = (.ok got.reverse, s) := by
  rw [readOn]
  rfl

theorem readOn_of_ended {s s' : σ} {n : Nat} (hn : 0 < n)
    (h : ByteSource.read n s = (.ok [], s')) (got : Bytes) :
    readOn got n s = (.error .unexpectedEnd, s') := by
  rw [readOn, dif_neg (Nat.pos_iff_ne_zero.1 hn), h]

/-- A header is read back from its bytes. -/
theorem Header.decode?_encode (h : Header) : decode? h.encode = some (h, []) := by
  simpa using decode?_encode_append h []

section Streams

variable {holds : σ → Bytes → Prop}

/-- One round of reading: a piece comes, and what is left to read comes behind it. -/
theorem Supplies.readOn_piece (hs : Supplies holds) {s : σ} {bytes : Bytes} {n : Nat}
    (h : holds s bytes) (hne : bytes ≠ []) (hn : 0 < n) : ∃ front rest s',
      front ≠ [] ∧ front.length ≤ n ∧ bytes = front ++ rest ∧ holds s' rest ∧
      ∀ got, readOn got n s = readOn (front.reverse ++ got) (n - front.length) s' := by
  obtain ⟨front, rest, s', hread, hfront, hle, hbytes, hholds⟩ := hs.piece h hne hn
  refine ⟨front, rest, s', hfront, hle, hbytes, hholds, fun got => ?_⟩
  obtain ⟨b, bs, rfl⟩ := List.exists_cons_of_ne_nil hfront
  rw [readOn, dif_neg (Nat.pos_iff_ne_zero.1 hn), hread]
  dsimp only
  rw [List.take_of_length_le hle]

/-- As many bytes as the source holds can be read from it, in their order. -/
theorem Supplies.readOn_eq (hs : Supplies holds) {s : σ} {bytes rest : Bytes}
    (h : holds s (bytes ++ rest)) (got : Bytes) :
    ∃ s', readOn got bytes.length s = (.ok (got.reverse ++ bytes), s') ∧ holds s' rest := by
  -- induction on what is still to come: every piece is some of it
  induction hlength : bytes.length using Nat.strongRecOn generalizing bytes s got with
  | _ n ih =>
    rcases Nat.eq_zero_or_pos n with rfl | hn
    · obtain rfl := List.length_eq_zero_iff.1 hlength
      exact ⟨s, by rw [readOn_zero, List.append_nil], h⟩
    · have hne : bytes ++ rest ≠ [] :=
        List.append_ne_nil_of_left_ne_nil (List.ne_nil_of_length_pos (hlength ▸ hn)) rest
      obtain ⟨front, behind, s₁, hfront, hle, hbytes, hholds, hread⟩ := hs.readOn_piece h hne hn
      -- the piece is no longer than what was asked for, so it ends inside of that
      have hprefix : front <+: bytes :=
        List.prefix_of_prefix_length_le (hbytes ▸ List.prefix_append _ _)
          (List.prefix_append _ rest) (hlength ▸ hle)
      obtain ⟨later, rfl⟩ := hprefix
      rw [List.append_assoc] at hbytes
      obtain rfl := List.append_cancel_left hbytes
      rw [List.length_append] at hlength
      have hsome := List.length_pos_iff.2 hfront
      obtain ⟨s', hlater, hholds'⟩ := ih later.length (by omega) hholds (front.reverse ++ got) rfl
      refine ⟨s', ?_, hholds'⟩
      rw [hread, ← hlength, Nat.add_sub_cancel_left, hlater]
      simp

/-- To ask for more bytes than the source holds is to find its end. -/
theorem Supplies.readOn_of_lt (hs : Supplies holds) {s : σ} {bytes : Bytes} {n : Nat}
    (h : holds s bytes) (hlt : bytes.length < n) (got : Bytes) :
    ∃ s', readOn got n s = (.error .unexpectedEnd, s') := by
  induction hlength : bytes.length using Nat.strongRecOn generalizing bytes n s got with
  | _ k ih =>
    have hn : 0 < n := Nat.zero_lt_of_lt hlt
    by_cases hne : bytes = []
    · subst hne
      obtain ⟨s', hread, -⟩ := hs.ended h
      exact ⟨s', readOn_of_ended hn hread got⟩
    · obtain ⟨front, behind, s₁, hfront, hle, rfl, hholds, hread⟩ := hs.readOn_piece h hne hn
      have hsome := List.length_pos_iff.2 hfront
      rw [List.length_append] at hlength hlt
      obtain ⟨s', hbehind⟩ := ih behind.length (by omega) hholds
        (Nat.lt_sub_of_add_lt (Nat.add_comm _ _ ▸ hlt)) (front.reverse ++ got) rfl
      exact ⟨s', by rw [hread, hbehind]⟩

/-- Reading as many bytes as are there gives them. -/
theorem Supplies.readExact_eq (hs : Supplies holds) {s : σ} {bytes rest : Bytes}
    (h : holds s (bytes ++ rest)) :
    ∃ s', readExact bytes.length s = (.ok bytes, s') ∧ holds s' rest :=
  hs.readOn_eq h []

/-- Reading more bytes than are there fails. -/
theorem Supplies.readExact_of_lt (hs : Supplies holds) {s : σ} {bytes : Bytes} {n : Nat}
    (h : holds s bytes) (hlt : bytes.length < n) :
    ∃ s', readExact n s = (.error .unexpectedEnd, s') :=
  hs.readOn_of_lt h hlt []

/-! ## Receiving -/

/-- What is received of a message: its header, and at the beginning of the buffer as much of its
payload as there is room for. -/
def Message.receivedIn (buffer : Bytes) (m : Message) : Received :=
  let count := min m.payload.length buffer.length
  ⟨⟨m.opcode, m.unit, m.control, UInt16.ofNat m.payload.length⟩, count,
    m.payload.take count ++ buffer.drop count⟩

/-- What is kept of a message is the beginning of its payload, as much as the buffer has room for. -/
theorem Message.kept_receivedIn (m : Message) (buffer : Bytes) :
    (m.receivedIn buffer).kept = m.payload.take buffer.length := by
  have hlength : (m.payload.take (min m.payload.length buffer.length)).length =
      min m.payload.length buffer.length := by
    rw [List.length_take]
    omega
  unfold Received.kept receivedIn
  dsimp only
  rw [List.take_left' hlength]
  -- taking more than there is takes all there is
  by_cases hle : m.payload.length ≤ buffer.length
  · rw [Nat.min_eq_left hle, List.take_of_length_le (Nat.le_refl _), List.take_of_length_le hle]
  · rw [Nat.min_eq_right (Nat.le_of_not_le hle)]

/-- A message at the front of the stream is received, and its bytes are taken from the stream. -/
theorem Supplies.receive_eq (hs : Supplies holds) {s : σ} {m : Message} {front rest : Bytes}
    (hm : m.encode = .ok front) (h : holds s (front ++ rest)) (buffer : Bytes) :
    ∃ s', receive buffer s = (.ok (m.receivedIn buffer), s') ∧ holds s' rest := by
  obtain ⟨hlength, rfl⟩ := Message.encode_eq_ok_iff.1 hm
  have hannounced : (UInt16.ofNat m.payload.length).toNat = m.payload.length :=
    UInt16.toNat_ofNat_of_lt' (Nat.lt_succ_of_le hlength)
  rw [List.append_assoc] at h
  obtain ⟨s₁, hheader, h₁⟩ := hs.readExact_eq h
  rw [Header.length_encode] at hheader
  -- the payload is what is kept of it, and what is thrown away
  rw [← List.take_append_drop (min m.payload.length buffer.length) m.payload,
    List.append_assoc] at h₁
  obtain ⟨s₂, hkept, h₂⟩ := hs.readExact_eq h₁
  rw [List.length_take, Nat.min_eq_left (Nat.min_le_left _ _)] at hkept
  obtain ⟨s₃, hthrown, h₃⟩ := hs.readExact_eq h₂
  rw [List.length_drop] at hthrown
  refine ⟨s₃, ?_, h₃⟩
  simp [receive, hheader, Header.decode?_encode, hannounced, hkept, hthrown, overwrite,
    Message.receivedIn]

/-- Receiving fails if the stream ends before a message does, wherever that is. -/
theorem Supplies.receive_of_incomplete (hs : Supplies holds) {s : σ} {bytes : Bytes}
    (h : holds s bytes) (hbytes : Incomplete bytes) (buffer : Bytes) :
    ∃ s', receive buffer s = (.error .disconnected, s') := by
  have hnone := Framing.decode?_eq_none_iff.2 hbytes
  unfold Framing.decode? at hnone
  split at hnone
  · next hshort =>
    -- the end is inside of the header
    obtain ⟨s', hheader⟩ := hs.readExact_of_lt h (Header.decode?_eq_none_iff.1 hshort)
    exact ⟨s', by simp [receive, hheader, Error.ofRead]⟩
  · next header payload hd =>
    dsimp only at hnone
    split at hnone
    · next hshort =>
      obtain rfl := Header.eq_encode_append_of_decode? hd
      obtain ⟨s₁, hheader, h₁⟩ := hs.readExact_eq h
      rw [Header.length_encode] at hheader
      by_cases hlt : payload.length < min header.length.toNat buffer.length
      · -- the end is inside of what is kept
        obtain ⟨s', hkept⟩ := hs.readExact_of_lt h₁ hlt
        exact ⟨s', by simp [receive, hheader, Header.decode?_encode, hkept, Error.ofRead]⟩
      · -- the end is inside of what is thrown away
        rw [← List.take_append_drop (min header.length.toNat buffer.length) payload] at h₁
        obtain ⟨s₂, hkept, h₂⟩ := hs.readExact_eq h₁
        rw [List.length_take, Nat.min_eq_left (Nat.le_of_not_lt hlt)] at hkept
        obtain ⟨s', hthrown⟩ := hs.readExact_of_lt h₂
          (n := header.length.toNat - min header.length.toNat buffer.length)
          (by rw [List.length_drop]; omega)
        exact ⟨s', by simp [receive, hheader, Header.decode?_encode, hkept, hthrown, Error.ofRead]⟩
    · simp at hnone

/-- Receives messages one after another, each into a buffer of its own. -/
def receiveAll : List Bytes → σ → List (Except Error Received) × σ
  | [], s => ([], s)
  | buffer :: buffers, s =>
    let (result, s) := receive buffer s
    let (results, s) := receiveAll buffers s
    (result :: results, s)

/-- Messages are received one after another. -/
theorem receiveAll_append (first second : List Bytes) (s : σ) :
    receiveAll (first ++ second) s =
      ((receiveAll first s).1 ++ (receiveAll second (receiveAll first s).2).1,
        (receiveAll second (receiveAll first s).2).2) := by
  induction first generalizing s with
  | nil => rfl
  | cons buffer first ih => simp only [List.cons_append, receiveAll, ih]

/-- What is received of messages: one by one what is received of each. -/
def receivedInEach (ms : List Message) (buffers : List Bytes) : List (Except Error Received) :=
  List.zipWith (fun m buffer => .ok (m.receivedIn buffer)) ms buffers

/-- Messages at the front of the stream are received, and the stream stands behind them. -/
theorem Supplies.receiveAll_eq (hs : Supplies holds) {s : σ} {ms : List Message}
    {bytes rest : Bytes} (hms : Framed rest ms bytes) (h : holds s bytes) {buffers : List Bytes}
    (hbuffers : buffers.length = ms.length) :
    ∃ s', receiveAll buffers s = (receivedInEach ms buffers, s') ∧ holds s' rest := by
  induction hms generalizing s buffers with
  | done =>
    obtain rfl := List.length_eq_zero_iff.1 hbuffers
    exact ⟨s, rfl, h⟩
  | message hm _ ih =>
    obtain ⟨buffer, buffers, rfl⟩ := List.exists_cons_of_length_eq_add_one hbuffers
    obtain ⟨s₁, hfirst, h₁⟩ := hs.receive_eq hm h buffer
    obtain ⟨s', hothers, h'⟩ := ih h₁ (Nat.succ.inj hbuffers)
    refine ⟨s', ?_, h'⟩
    rw [receiveAll, hfirst]
    dsimp only
    rw [hothers]
    rfl

/-- If the stream ends inside of the next message or in front of it, receiving that one fails. -/
theorem Supplies.receiveAll_of_incomplete (hs : Supplies holds) {s : σ} {ms : List Message}
    {bytes rest : Bytes} (hms : Framed rest ms bytes) (hrest : Incomplete rest) (h : holds s bytes)
    {buffers : List Bytes} (hbuffers : buffers.length = ms.length) (buffer : Bytes) :
    (receiveAll (buffers ++ [buffer]) s).1 =
      receivedInEach ms buffers ++ [.error .disconnected] := by
  obtain ⟨s₁, hall, h₁⟩ := hs.receiveAll_eq hms h hbuffers
  obtain ⟨s₂, hlast⟩ := hs.receive_of_incomplete h₁ hrest buffer
  rw [receiveAll_append, hall]
  dsimp only
  rw [receiveAll, hlast]
  rfl

end Streams

/-! ## Sending -/

/-- A stream took some bytes and is otherwise as it was. -/
structure Writer.Took (bytes : Bytes) (w w' : Writer) : Prop where
  arrived : w'.arrived = w.arrived ++ bytes
  chunk : w'.chunk = w.chunk
  room : w'.room = w.room - bytes.length

namespace Writer

theorem Took.nil (w : Writer) : Took [] w w :=
  ⟨(List.append_nil _).symm, rfl, rfl⟩

theorem Took.append {first second : Bytes} {w w₁ w₂ : Writer} (h₁ : Took first w w₁)
    (h₂ : Took second w₁ w₂) : Took (first ++ second) w w₂ where
  arrived := by rw [h₂.arrived, h₁.arrived, List.append_assoc]
  chunk := h₂.chunk.trans h₁.chunk
  room := by rw [h₂.room, h₁.room, List.length_append, Nat.sub_sub]

end Writer

/-- A stream that has room for a message takes it, however few bytes at a time. -/
theorem send_took {m : Message} {front : Bytes} (hm : m.encode = .ok front) {w : Writer}
    (hchunk : 0 < w.chunk) (hroom : front.length ≤ w.room) :
    ∃ w', send m w = (.ok (headerLength + m.payload.length), w') ∧ w.Took front w' := by
  have hfront := Message.length_of_encode hm
  obtain ⟨hlength, rfl⟩ := Message.encode_eq_ok_iff.1 hm
  obtain ⟨w', hsend, hsame, harrived, hleft⟩ :=
    (Writer.accepts hchunk).send_eq hlength (s := w) ⟨rfl, rfl, rfl⟩
  rw [if_pos (hfront ▸ hroom)] at hsend
  rw [List.take_of_length_le hroom] at harrived
  exact ⟨w', hsend, harrived, hsame, hfront ▸ hleft⟩

/-- Sends messages one after another. -/
def sendAll : List Message → Writer → List (Except Error Nat) × Writer
  | [], w => ([], w)
  | m :: ms, w =>
    let (result, w) := send m w
    let (results, w) := sendAll ms w
    (result :: results, w)

/-- Messages are sent one behind the other, if there is room for them. -/
theorem sendAll_took {ms : List Message} {bytes : Bytes} (hms : Framed [] ms bytes) {w : Writer}
    (hchunk : 0 < w.chunk) (hroom : bytes.length ≤ w.room) : ∃ w',
      sendAll ms w = (ms.map fun m => .ok (headerLength + m.payload.length), w') ∧
      w.Took bytes w' := by
  induction hms generalizing w with
  | done => exact ⟨w, rfl, .nil w⟩
  | message hm _ ih =>
    rw [List.length_append] at hroom
    obtain ⟨w₁, hfirst, h₁⟩ := send_took hm hchunk (Nat.le_of_add_right_le hroom)
    obtain ⟨w₂, hothers, h₂⟩ := ih (h₁.chunk ▸ hchunk) (h₁.room ▸ Nat.le_sub_of_add_le' hroom)
    refine ⟨w₂, ?_, h₁.append h₂⟩
    rw [sendAll, hfirst]
    dsimp only
    rw [hothers]
    rfl

/-! ## Sending and receiving -/

/-- Messages that were sent are received, each in its own buffer, and each takes its header and
payload from the stream, be the buffer long enough or not. Of messages whose bytes are there in part
only, those are received that are complete, and receiving the next one fails. -/
theorem receiveAll_sendAll {holds : σ → Bytes → Prop} (hs : Supplies holds) {ms : List Message}
    (hms : ∀ m ∈ ms, m.payload.length ≤ maxPayload) {chunk room : Nat} (hchunk : 0 < chunk)
    (hroom : wireLength ms ≤ room) :
    let (results, w) := sendAll ms ⟨chunk, room, []⟩
    results = ms.map (fun m => .ok (headerLength + m.payload.length)) ∧
    (∀ s tail, holds s (w.arrived ++ tail) → ∀ buffers, buffers.length = ms.length →
      (receiveAll buffers s).1 = receivedInEach ms buffers ∧
      ∀ k ≤ ms.length, holds (receiveAll (buffers.take k) s).2
        ((w.arrived ++ tail).drop (wireLength (ms.take k)))) ∧
    ∀ n ≤ wireLength ms, ∀ s, holds s (w.arrived.take n) → ∃ k ≤ ms.length,
      (∀ j ≤ ms.length, wireLength (ms.take j) ≤ n ↔ j ≤ k) ∧
      ∀ buffers buffer, buffers.length = k → (receiveAll (buffers ++ [buffer]) s).1 =
        receivedInEach (ms.take k) buffers ++ [.error .disconnected] := by
  obtain ⟨bytes, hframed⟩ := exists_framed hms
  have hlength : bytes.length = wireLength ms := hframed.length_eq
  obtain ⟨w, hsend, htook⟩ := sendAll_took hframed (w := ⟨chunk, room, []⟩) hchunk
    (hlength ▸ hroom)
  have harrived : w.arrived = bytes := htook.arrived
  rw [hsend]
  dsimp only
  rw [harrived]
  refine ⟨rfl, ?_, ?_⟩
  · intro s tail h buffers hbuffers
    have hstream : Framed tail ms (bytes ++ tail) := by
      simpa using hframed.append (.done : Framed tail [] tail)
    constructor
    · obtain ⟨s', hall, -⟩ := hs.receiveAll_eq hstream h hbuffers
      rw [hall]
    · intro k hk
      have htake : (buffers.take k).length = (ms.take k).length := by
        rw [List.length_take, List.length_take, hbuffers]
      obtain ⟨s', hall, h'⟩ := hs.receiveAll_eq (hstream.drop k) h htake
      rwa [hall]
  · intro n hn s h
    obtain ⟨k, rest, hk, hpart, hrest, hfits⟩ := hframed.of_prefix (List.take_prefix n bytes)
    refine ⟨k, hk, ?_, fun buffers buffer hbuffers => ?_⟩
    · rwa [List.length_take, hlength, Nat.min_eq_left hn] at hfits
    · have htake : buffers.length = (ms.take k).length := by
        rw [hbuffers, List.length_take, Nat.min_eq_left hk]
      exact hs.receiveAll_of_incomplete hpart hrest h htake buffer

/-- Two messages, sent five bytes at a time and received three at a time: of the first there is room
for two bytes, of the second for none. -/
theorem receiveAll_sendAll_of_two :
    let ms := [Message.reply 0 7 [1, 2, 3, 4, 5], Message.reply 1 8 [0xaa]]
    let r : Reader := ⟨(sendAll ms ⟨5, 100, []⟩).2.arrived, 3, none⟩
    (∀ m ∈ ms, m.payload.length ≤ maxPayload) ∧ wireLength ms ≤ 100 ∧
      (receiveAll [[9, 9], []] r).1 =
        [.ok ⟨⟨0, 0, 7, 5⟩, 2, [1, 2]⟩, .ok ⟨⟨0, 1, 8, 1⟩, 0, []⟩] := by
  intro ms r
  have hms : ∀ m ∈ ms, m.payload.length ≤ maxPayload := by decide
  have hroom : wireLength ms ≤ 100 := by decide
  have hreceived := receiveAll_sendAll Reader.supplies hms (by decide : 0 < 5) hroom
  rcases hsend : sendAll ms ⟨5, 100, []⟩ with ⟨results, w⟩
  rw [hsend] at hreceived
  have hr : r = ⟨w.arrived ++ [], 3, none⟩ := by
    simp [r, hsend]
  rw [hr]
  exact ⟨hms, hroom, (hreceived.2.1 _ [] ⟨rfl, Nat.zero_lt_succ 2, rfl⟩ [[9, 9], []] rfl).1⟩

end RemoteDevice.Wire
