import RemoteDevice.Wire.Message

/-!
# Wire.Framing — messages out of a growing buffer

Bytes arrive in pieces cut anywhere. A buffer gives up one message at a time from its front, once
the whole of it is there, and nothing before that.
-/

namespace RemoteDevice.Wire.Framing

/-- The message at the front of the buffer and what follows it, if the message is all there. -/
def decode? (buffer : Bytes) : Option (Message × Bytes) :=
  match Header.decode? buffer with
  | none => none
  | some (h, rest) =>
    let n := h.length.toNat
    if rest.length < n then none else some (.ofParts h (rest.take n), rest.drop n)

/-- Decoding shortens the buffer. -/
theorem length_lt_of_decode? {buffer rest : Bytes} {m : Message}
    (h : decode? buffer = some (m, rest)) : rest.length < buffer.length := by
  unfold decode? at h
  split at h
  · simp at h
  · next hdr after hd =>
    simp only at h
    split at h
    · simp at h
    · rcases Prod.mk.inj (Option.some.inj h) with ⟨_, rfl⟩
      have := Header.eq_encode_append_of_decode? hd
      simp [this, headerLength]
      omega

/-- The same at the end of a stream, where bytes left over are a failure. -/
def decodeEnd? (buffer : Bytes) : Except Error (Option (Message × Bytes)) :=
  match decode? buffer with
  | some found => .ok (some found)
  | none => if buffer = [] then .ok none else .error (.io .bytesRemaining)

/-- Puts a message at the end of the buffer. Of a message whose payload is too long, nothing is put
there. -/
def put (m : Message) (buffer : Bytes) : Except Error Unit × Bytes :=
  match m.header with
  | .error e => (.error e, buffer)
  | .ok h => (.ok (), buffer ++ h.encode ++ m.payload)

/-- The buffer with a message put at its end. -/
def append (m : Message) (buffer : Bytes) : Except Error Bytes :=
  match put m buffer with
  | (.error e, _) => .error e
  | (.ok _, buffer) => .ok buffer

/-- All the messages that are there, and what is left of the buffer. -/
def drain (buffer : Bytes) : List Message × Bytes :=
  match _h : decode? buffer with
  | none => ([], buffer)
  | some (m, rest) =>
    let (ms, left) := drain rest
    (m :: ms, left)
termination_by buffer.length
decreasing_by exact length_lt_of_decode? _h

end RemoteDevice.Wire.Framing
