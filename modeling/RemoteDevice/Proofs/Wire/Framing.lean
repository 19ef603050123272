import RemoteDevice.Wire.Framing

/-!
# Proofs.Wire.Framing — a byte string is messages and a rest

Every byte string is the encodings of some messages and then a rest in which no message is complete,
and that in one way only. Draining a buffer finds these messages and this rest, wherever the bytes
were cut when they arrived.
-/

namespace RemoteDevice.Wire

/-- The bytes are messages, one after another, and then the rest. -/
inductive Framed (rest : Bytes) : List Message → Bytes → Prop
  | done : Framed rest [] rest
  | message {m : Message} {front tail : Bytes} {ms : List Message} :
    m.encode = .ok front → Framed rest ms tail → Framed rest (m :: ms) (front ++ tail)

/-- Messages behind messages are messages. -/
theorem Framed.append {rest first second : Bytes} {ms ms' : List Message}
    (h : Framed [] ms first) (h' : Framed rest ms' second) :
    Framed rest (ms ++ ms') (first ++ second) := by
  -- the first messages leave no rest, so the second ones begin where these end
  induction h with
  | done => exact h'
  | message hm _ ih =>
    rw [List.append_assoc]
    exact .message hm ih

/-- Bytes with messages in front are these messages and what is left over. -/
theorem Framed.split {rest bytes : Bytes} {ms : List Message} (h : Framed rest ms bytes) :
    ∃ whole, Framed [] ms whole ∧ bytes = whole ++ rest := by
  induction h with
  | done => exact ⟨[], .done, rfl⟩
  | message hm _ ih =>
    rcases ih with ⟨whole, hwhole, rfl⟩
    exact ⟨_, .message hm hwhole, (List.append_assoc _ _ _).symm⟩

/-- No message is complete in the bytes. -/
def Incomplete (rest : Bytes) : Prop :=
  ∀ m front tail, Message.encode m = .ok front → rest ≠ front ++ tail

/-- Exactly the messages with a short payload have a form on the wire. -/
theorem Message.encode_eq_ok_iff {m : Message} {bytes : Bytes} :
    m.encode = .ok bytes ↔ m.payload.length ≤ maxPayload ∧
      bytes = Header.encode ⟨m.opcode, m.unit, m.control, UInt16.ofNat m.payload.length⟩ ++
        m.payload := by
  unfold encode header
  by_cases h : m.payload.length ≤ maxPayload
  · simp [h, Except.map, eq_comm]
  · simp [h, Except.map]

/-- Messages with short payloads have a form on the wire, one behind the other. -/
theorem exists_framed {ms : List Message} (h : ∀ m ∈ ms, m.payload.length ≤ maxPayload) :
    ∃ bytes, Framed [] ms bytes := by
  induction ms with
  | nil => exact ⟨[], .done⟩
  | cons m ms ih =>
    rcases ih fun m' hm' => h m' (List.mem_cons_of_mem _ hm') with ⟨tail, htail⟩
    exact ⟨_, .message (Message.encode_eq_ok_iff.2 ⟨h m List.mem_cons_self, rfl⟩) htail⟩

/-! ## Lengths -/

/-- How many bytes messages take on the wire. -/
def wireLength : List Message → Nat
  | [] => 0
  | m :: ms => headerLength + m.payload.length + wireLength ms

@[simp] theorem wireLength_nil : wireLength [] = 0 := rfl

@[simp] theorem wireLength_cons (m : Message) (ms : List Message) :
    wireLength (m :: ms) = headerLength + m.payload.length + wireLength ms := rfl

/-- A message takes its header and its payload. -/
theorem Message.length_of_encode {m : Message} {front : Bytes} (h : m.encode = .ok front) :
    front.length = headerLength + m.payload.length := by
  rcases encode_eq_ok_iff.1 h with ⟨-, rfl⟩
  simp

/-- Bytes with messages in front are as long as these and what is left over. -/
theorem Framed.length_eq {rest bytes : Bytes} {ms : List Message} (h : Framed rest ms bytes) :
    bytes.length = wireLength ms + rest.length := by
  induction h with
  | done => simp
  | message hm _ ih =>
    rw [List.length_append, ih, Message.length_of_encode hm, wireLength_cons]
    omega

namespace Framing

/-! ## One message -/

/-- The first message is taken off, and what stands behind it stays. -/
theorem decode?_encode_append {m : Message} {front : Bytes} (h : m.encode = .ok front)
    (tail : Bytes) : decode? (front ++ tail) = some (m, tail) := by
  rcases Message.encode_eq_ok_iff.1 h with ⟨hlength, rfl⟩
  -- a payload that may be encoded has a length that two bytes can say
  have hmod : m.payload.length % 65536 = m.payload.length :=
    Nat.mod_eq_of_lt (Nat.lt_succ_of_le hlength)
  unfold decode?
  rw [List.append_assoc, Header.decode?_encode_append]
  simp [hmod, Message.ofParts]

/-- What was decoded is the encoding of the message, and what follows it. -/
theorem eq_append_of_decode? {buffer rest : Bytes} {m : Message}
    (h : decode? buffer = some (m, rest)) :
    ∃ front, m.encode = .ok front ∧ buffer = front ++ rest := by
  unfold decode? at h
  split at h
  · simp at h
  · next hdr after hd =>
    dsimp only at h
    split at h
    · simp at h
    · next hle =>
      rcases Prod.mk.inj (Option.some.inj h) with ⟨rfl, rfl⟩
      have hlength : (after.take hdr.length.toNat).length = hdr.length.toNat := by
        rw [List.length_take]
        omega
      -- and what two bytes say is the length of a payload that may be encoded
      have hshort : hdr.length.toNat ≤ maxPayload := Nat.le_of_lt_succ hdr.length.toNat_lt
      refine ⟨_, Message.encode_eq_ok_iff.2 ⟨?_, rfl⟩, ?_⟩
      · simpa [Message.ofParts, hlength] using hshort
      · have hheader := Header.eq_encode_append_of_decode? hd
        simp [Message.ofParts, hlength, hheader]

/-- No message is taken off exactly if the first one is incomplete. -/
theorem decode?_eq_none_iff {buffer : Bytes} : decode? buffer = none ↔ Incomplete buffer := by
  constructor
  · intro h m front tail hm heq
    rw [heq, decode?_encode_append hm] at h
    simp at h
  · intro h
    cases hd : decode? buffer with
    | none => rfl
    | some found =>
      rcases found with ⟨m, rest⟩
      rcases eq_append_of_decode? hd with ⟨front, hm, heq⟩
      exact absurd heq (h m front rest hm)

/-- What ends inside of a message has no complete message in it. -/
theorem incomplete_of_lt {m : Message} {front part behind : Bytes} (hm : m.encode = .ok front)
    (hfront : front = part ++ behind) (hbehind : behind ≠ []) : Incomplete part := by
  rintro m' front' tail hm' rfl
  -- otherwise the message would be this one, with bytes behind it
  have hwhole : decode? front = some (m, []) := by
    simpa using decode?_encode_append hm []
  have hother : decode? front = some (m', tail ++ behind) := by
    rw [hfront, List.append_assoc]
    exact decode?_encode_append hm' _
  have hnone : tail ++ behind = [] :=
    (Prod.mk.inj (Option.some.inj (hother.symm.trans hwhole))).2
  exact hbehind (List.append_eq_nil_iff.1 hnone).2

/-! ## All messages -/

theorem drain_of_none {buffer : Bytes} (h : decode? buffer = none) :
    drain buffer = ([], buffer) := by
  rw [drain]
  split
  · rfl
  · next heq => simp [h] at heq

theorem drain_of_some {buffer rest : Bytes} {m : Message} (h : decode? buffer = some (m, rest)) :
    drain buffer = (m :: (drain rest).1, (drain rest).2) := by
  rw [drain]
  split
  · next heq => simp [h] at heq
  · next m' rest' heq =>
    rcases Prod.mk.inj (Option.some.inj (heq.symm.trans h)) with ⟨rfl, rfl⟩
    rfl

/-- Draining finds the messages of a byte string. -/
theorem drain_of_framed {rest bytes : Bytes} {ms : List Message} (hrest : Incomplete rest)
    (h : Framed rest ms bytes) : drain bytes = (ms, rest) := by
  induction h with
  | done =>
    -- draining stops here and no later, because nothing in the rest is complete
    exact drain_of_none (decode?_eq_none_iff.2 hrest)
  | message hm _ ih =>
    rw [drain_of_some (decode?_encode_append hm _), ih]

/-- Every byte string is messages and a rest. -/
theorem framed_drain (bytes : Bytes) :
    Framed (drain bytes).2 (drain bytes).1 bytes ∧ Incomplete (drain bytes).2 := by
  -- induction on the length: what is left behind a message is shorter
  induction h : bytes.length using Nat.strongRecOn generalizing bytes with
  | _ n ih =>
    cases hd : decode? bytes with
    | none =>
      rw [drain_of_none hd]
      exact ⟨.done, decode?_eq_none_iff.1 hd⟩
    | some found =>
      rcases found with ⟨m, rest⟩
      rcases eq_append_of_decode? hd with ⟨front, hm, heq⟩
      rcases ih rest.length (h ▸ length_lt_of_decode? hd) rest rfl with ⟨hframed, hrest⟩
      rw [drain_of_some hd]
      exact ⟨heq ▸ .message hm hframed, hrest⟩

/-- Bytes that arrive later go on where draining stopped. -/
theorem drain_append {ms : List Message} {rest : Bytes} (first second : Bytes)
    (h : drain first = (ms, rest)) :
    drain (first ++ second) = (ms ++ (drain (rest ++ second)).1, (drain (rest ++ second)).2) := by
  have hframed := (framed_drain first).1
  rw [h] at hframed
  dsimp only at hframed
  clear h
  -- induction on the messages of the first bytes, as draining all of them finds these first
  induction hframed with
  | done => rfl
  | message hm _ ih =>
    rw [List.append_assoc, drain_of_some (decode?_encode_append hm _), ih]
    rfl

end Framing

/-! ## Beginnings of messages -/

/-- The first few of some messages are a front of their bytes. -/
theorem Framed.take {ms : List Message} {bytes : Bytes} (h : Framed [] ms bytes) (j : Nat) :
    ∃ front, Framed [] (ms.take j) front ∧ front <+: bytes := by
  induction h generalizing j with
  | done => exact ⟨[], by rw [List.take_nil]; exact .done, List.nil_prefix⟩
  | @message m front tail ms hm _ ih =>
    cases j with
    | zero => exact ⟨[], .done, List.nil_prefix⟩
    | succ j =>
      rcases ih j with ⟨part, hpart, hle⟩
      exact ⟨front ++ part, .message hm hpart, (List.prefix_append_right_inj _).2 hle⟩

/-- Behind the first of the messages the others follow. -/
theorem Framed.drop {rest bytes : Bytes} {ms : List Message} (h : Framed rest ms bytes) (j : Nat) :
    Framed (bytes.drop (wireLength (ms.take j))) (ms.take j) bytes := by
  induction h generalizing j with
  | done =>
    rw [List.take_nil]
    exact .done
  | @message m front tail ms hm _ ih =>
    cases j with
    | zero => exact .done
    | succ j =>
      rw [List.take_succ_cons, wireLength_cons, ← Message.length_of_encode hm,
        List.drop_length_add_append]
      exact .message hm (ih j)

theorem Incomplete.nil : Incomplete [] :=
  Framing.decode?_eq_none_iff.1 rfl

/-- The beginning of some messages is as many of them as fit into it, and then a rest in which no
message is complete. -/
theorem Framed.of_prefix {ms : List Message} {bytes part : Bytes} (h : Framed [] ms bytes)
    (hpart : part <+: bytes) : ∃ k rest, k ≤ ms.length ∧ Framed rest (ms.take k) part ∧
      Incomplete rest ∧ ∀ j ≤ ms.length, wireLength (ms.take j) ≤ part.length ↔ j ≤ k := by
  induction h generalizing part with
  | done =>
    obtain rfl := List.prefix_nil.1 hpart
    exact ⟨0, [], Nat.le_refl _, .done, .nil, by simp⟩
  | @message m front tail ms hm hms ih =>
    have hlength := Message.length_of_encode hm
    by_cases hlt : part.length < front.length
    · -- the first message does not fit, so that the whole beginning is the rest
      have hfront : part <+: front :=
        List.prefix_of_prefix_length_le hpart (List.prefix_append _ _) (Nat.le_of_lt hlt)
      rcases hfront with ⟨behind, hbehind⟩
      have hne : behind ≠ [] := by
        rintro rfl
        rw [← hbehind, List.append_nil] at hlt
        exact Nat.lt_irrefl _ hlt
      refine ⟨0, part, Nat.zero_le _, .done, Framing.incomplete_of_lt hm hbehind.symm hne, ?_⟩
      intro j _
      cases j with
      | zero => simp
      | succ j =>
        rw [List.take_succ_cons, wireLength_cons]
        omega
    · -- the first message fits, and the others begin in what is left
      have hfront : front <+: part :=
        List.prefix_of_prefix_length_le (List.prefix_append _ _) hpart (Nat.le_of_not_lt hlt)
      rcases hfront with ⟨part', rfl⟩
      rcases ih ((List.prefix_append_right_inj _).1 hpart) with ⟨k, rest, hk, hframed, hrest, hfits⟩
      refine ⟨k + 1, rest, Nat.succ_le_succ hk, .message hm hframed, hrest, ?_⟩
      intro j hj
      cases j with
      | zero => simp
      | succ j =>
        have hfit := hfits j (Nat.le_of_succ_le_succ hj)
        rw [List.take_succ_cons, wireLength_cons, List.length_append, hlength]
        omega

end RemoteDevice.Wire
