import RemoteDevice.Catalog
import RemoteDevice.Proofs.Text.Utf8
import RemoteDevice.Proofs.Transport.Filling

/-!
# Proofs.Transport.Bounds — reads fit into their buffers

A read of a transport brings no more bytes than fit into the buffer it was given, and a transport is
of a kind with a short name. A server relies on both, and every kind of the default catalog keeps to
them.
-/

namespace RemoteDevice

/-- What is relied on in transports: what a read brings fits into the buffer, and with a zero byte
behind it the name of a kind fits into a message. -/
structure Transport.Bounded (τ : Type) [Transport τ] : Prop where
  read : ∀ {control : UInt32} {length : Nat} {t t' : τ} {reading : Reading},
    Transport.read control length t = (.ok reading, t') → reading.data.length ≤ length
  kind : ∀ t : τ, (Text.encode (Transport.kind t)).length < Wire.maxPayload

/-- What is relied on in transports whose readings are passed on: they fit into the buffer, and count
the bytes that stand in it. -/
structure Transport.Faithful (τ : Type) [Transport τ] : Prop where
  bounded : Transport.Bounded τ
  counts : ∀ {control : UInt32} {length : Nat} {t t' : τ} {reading : Reading},
    Transport.read control length t = (.ok reading, t') → reading.count = reading.data.length

/-- An outcome that is no fault is a result. -/
theorem Outcome.eq_ok_of_ofResult {α : Type} {result : Except Transport.Error α} {a : α}
    (h : Outcome.ofResult result = .ok a) : result = .ok a := by
  cases result with
  | error e => cases h
  | ok b =>
    obtain rfl := Except.ok.inj h
    rfl

/-! ## Lines -/

/-- Bytes that a read of a line comes to are the result of the filling. -/
theorem Progress.result_of_mapError {p : Progress} {data : Bytes}
    (h : p.result.mapError Transport.Error.io = .ok data) : p.result = .ok data := by
  cases hresult : p.result with
  | error e =>
    rw [hresult] at h
    cases h
  | ok got =>
    rw [hresult] at h
    exact congrArg Except.ok (Except.ok.inj h)

/-- A TCP line reads no more than it was asked for. -/
theorem Net.TcpLine.length_read {length : Nat} {moments : List Moment} {t t' : TcpLine}
    {data : Bytes} (h : t.read length moments = (.ok data, t')) : data.length ≤ length := by
  unfold read at h
  split at h
  · simp at h
  · have hlength := Filling.length_result (Progress.result_of_mapError (Prod.mk.inj h).1)
    rwa [Filling.start, List.length_replicate] at hlength

/-- Every filling of a buffer keeps to its length. -/
theorem Serial.Port.length_fill {p : Port} {buffer data : Bytes} {answers : List Arrival}
    {progress : Progress} (h : p.fill? buffer answers = some progress)
    (hdata : progress.result = .ok data) : data.length ≤ buffer.length := by
  unfold fill? at h
  split at h
  · next hnil =>
    obtain rfl := Option.some.inj h
    obtain rfl := Except.ok.inj hdata
    rw [hnil]
    exact Nat.le_refl _
  · obtain ⟨wanted, -, rfl⟩ := Option.map_eq_some_iff.1 h
    exact Filling.length_result hdata

/-- A serial port reads no more than it was asked for. -/
theorem Serial.Port.length_read {length : Nat} {moments : List Moment} {p p' : Port} {data : Bytes}
    (h : p.read length moments = (.ok data, p')) : data.length ≤ length := by
  unfold read at h
  split at h
  · simp at h
  · split at h
    · simp at h
    · next hfill =>
      have hresult : Outcome.ofResult (Except.mapError Transport.Error.io _) = .ok data :=
        (Prod.mk.inj h).1
      have hlength := length_fill hfill (Progress.result_of_mapError (Outcome.eq_ok_of_ofResult hresult))
      rwa [List.length_replicate] at hlength

/-! ## The other kinds -/

/-- A peripheral reads no more than it was asked for. -/
theorem Bluetooth.Peripheral.length_read {length : Nat} {p p' : Peripheral} {data : Bytes}
    (h : p.read length = (.ok data, p')) : data.length ≤ length := by
  unfold read at h
  split at h
  · simp at h
  · obtain ⟨rfl, -⟩ := by simpa using h
    exact List.length_take_le _ _

/-- A frame is read only into a buffer that has room for it. -/
theorem Can.Bus.length_read {control : UInt32} {length : Nat} {b b' : Bus} {reading : Reading}
    (h : b.read control length = (.ok reading, b')) : reading.data.length ≤ length := by
  unfold read at h
  split at h
  · simp at h
  · next hlength =>
    -- all frames are equally long on the wire, and a shorter buffer was refused
    have hframe : ∀ f : Frame, f.wire.length ≤ length := by
      intro f
      rw [f.length_wire]
      omega
    split at h
    · simp at h
    · next cache _ _ =>
      cases hf : cache.lookup (canonicalId control) b.retry with
      | error e => simp [hf, Except.map] at h
      | ok f =>
        obtain ⟨rfl, -⟩ := by simpa [hf, Except.map] using h
        exact hframe f
    · next socket _ _ =>
      cases hf : (readDirect control socket.incoming).1 with
      | none =>
        -- no frame came in time, which a socket answers with no bytes
        obtain ⟨rfl, -⟩ := by simpa [hf] using h
        exact Nat.zero_le _
      | some f =>
        obtain ⟨rfl, -⟩ := by simpa [hf] using h
        exact hframe f

/-- A bus counts the bytes that it read. -/
theorem Can.Bus.count_read {control : UInt32} {length : Nat} {b b' : Bus} {reading : Reading}
    (h : b.read control length = (.ok reading, b')) : reading.count = reading.data.length := by
  unfold read at h
  split at h
  · simp at h
  · split at h
    · simp at h
    · next cache _ _ =>
      cases hf : cache.lookup (canonicalId control) b.retry with
      | error e => simp [hf, Except.map] at h
      | ok f =>
        obtain ⟨rfl, -⟩ := by simpa [hf, Except.map] using h
        rfl
    · obtain ⟨rfl, -⟩ := by simpa using h
      rfl

namespace Wire

/-- What is kept of a message fits into the buffer it was received in. -/
theorem length_kept {σ : Type} [ByteSource σ] {buffer : Bytes} {s s' : σ} {received : Received}
    (h : receive buffer s = (.ok received, s')) : received.kept.length ≤ buffer.length := by
  unfold receive at h
  split at h
  · simp at h
  · dsimp only at h
    split at h
    · simp at h
    · split at h
      · simp at h
      · split at h
        · simp at h
        · obtain ⟨rfl, -⟩ := by simpa using h
          rw [Received.kept, List.length_take]
          exact Nat.le_trans (Nat.min_le_left _ _) (Nat.min_le_right _ _)

end Wire

section Client

open Net Wire

variable {ν : Type} [Network ν]

/-- Of a reply no more is kept than the buffer has room for. -/
theorem Net.Link.length_kept {timeoutMs : Nat} {buffer : Bytes} {l l' : Link} {received : Received}
    (h : l.receive timeoutMs buffer = (.ok received, l')) :
    received.kept.length ≤ buffer.length := by
  unfold Link.receive at h
  split at h
  · simp at h
  · exact Wire.length_kept h

theorem Net.Link.length_kept_request {m : Message} {timeoutMs : Nat} {buffer : Bytes}
    {l l' : Link} {net net' : ν} {received : Received}
    (h : l.request m timeoutMs buffer net = (.ok received, l', net')) :
    received.kept.length ≤ buffer.length := by
  unfold Link.request at h
  split at h
  · simp at h
  · next data _ =>
    cases hs : l.send data net with | mk l₁ net₁ =>
    simp only [hs] at h
    split at h
    · simp at h
    · -- whatever is broken, what was received came out of the link
      split at h
      · simp at h
      · next hr _ =>
        obtain ⟨rfl, -, -⟩ := by simpa using h
        exact Link.length_kept hr

/-- A client keeps no more of a reply than its buffer has room for. -/
theorem Client.length_kept_exchange {request : UInt8 → Message} {buffer : Bytes} {c c' : Client}
    {net net' : ν} {received : Received}
    (h : c.exchange request buffer net = (.ok received, c', net')) :
    received.kept.length ≤ buffer.length := by
  unfold exchange at h
  split at h
  · simp at h
  · split at h
    · simp at h
    · next hr =>
      dsimp only at h
      split at h
      · obtain ⟨rfl, -, -⟩ := by simpa using h
        exact Net.Link.length_kept_request hr
      · simp at h

/-- A remote device reads no more than it was asked for. -/
theorem Client.length_read {control : UInt32} {buffer data : Bytes} {c c' : Client} {net net' : ν}
    (h : c.read control buffer net = (.ok data, c', net')) : data.length ≤ buffer.length := by
  unfold Client.read at h
  cases he : c.exchange (readRequest · control buffer.length) buffer net with | mk result found =>
  rcases found with ⟨c₁, net₁⟩
  cases result with
  | error e => simp [he, Except.map] at h
  | ok received =>
    obtain ⟨rfl, -, -⟩ := by simpa [he, Except.map] using h
    exact length_kept_exchange he

end Client

/-! ## The default catalog -/

namespace OnHost

/-- A call that went through had a result. -/
theorem eq_ok_of_after {α : Type} {t t' : OnHost} {transport : BuiltIn}
    {result : Except Transport.Error α} {a : α} (h : t.after transport result = (.ok a, t')) :
    result = .ok a :=
  Outcome.eq_ok_of_ofResult (Prod.mk.inj h).1

/-- A reading made from bytes was made from some. -/
theorem eq_ok_of_map {ε : Type} {result : Except ε Bytes} {reading : Reading}
    (h : result.map .ofData = .ok reading) : result = .ok reading.data := by
  cases result with
  | error e => simp [Except.map] at h
  | ok data =>
    obtain rfl := by simpa [Except.map] using h
    rfl

/-- No transport of the host reads more than it was asked for. -/
theorem length_read {control : UInt32} {length : Nat} {t t' : OnHost} {reading : Reading}
    (h : t.read control length = (.ok reading, t')) : reading.data.length ≤ length := by
  unfold read at h
  split at h
  · exact Can.Bus.length_read (Prod.ext (eq_ok_of_after h) rfl)
  · exact Serial.Port.length_read (Prod.ext (eq_ok_of_map (Prod.mk.inj h).1) rfl)
  · exact Net.TcpLine.length_read (Prod.ext (eq_ok_of_map (eq_ok_of_after h)) rfl)
  · exact Bluetooth.Peripheral.length_read (Prod.ext (eq_ok_of_map (eq_ok_of_after h)) rfl)
  · -- the null device has nothing to read
    rcases Except.ok.inj (eq_ok_of_after h) with rfl
    exact Nat.zero_le _
  · -- a remote unit is read into a buffer of its own, which is no longer than the one given
    have hlength := Client.length_read (Prod.ext (eq_ok_of_map (eq_ok_of_after h)) rfl)
    rw [Client.emptyBuffer, List.length_replicate] at hlength
    exact Nat.le_trans hlength (Nat.min_le_left _ _)

/-- A reading made from bytes counts them. -/
theorem count_of_map {ε : Type} {result : Except ε Bytes} {reading : Reading}
    (h : result.map .ofData = .ok reading) : reading.count = reading.data.length := by
  cases result with
  | error e => simp [Except.map] at h
  | ok data =>
    obtain rfl := by simpa [Except.map] using h
    rfl

/-- Every transport of the host counts the bytes that it read. -/
theorem count_read {control : UInt32} {length : Nat} {t t' : OnHost} {reading : Reading}
    (h : t.read control length = (.ok reading, t')) : reading.count = reading.data.length := by
  unfold read at h
  split at h
  · exact Can.Bus.count_read (Prod.ext (eq_ok_of_after h) rfl)
  · exact count_of_map (Prod.mk.inj h).1
  · exact count_of_map (eq_ok_of_after h)
  · exact count_of_map (eq_ok_of_after h)
  · rcases Except.ok.inj (eq_ok_of_after h) with rfl
    rfl
  · exact count_of_map (eq_ok_of_after h)

theorem bounded : Transport.Bounded OnHost := by
  constructor
  · intro control length t t' reading h
    exact length_read h
  · intro t
    show (Text.encode t.kind).length < Wire.maxPayload
    rw [Text.length_encode]
    unfold kind
    split <;> decide

theorem faithful : Transport.Faithful OnHost := by
  constructor
  · exact bounded
  · intro control length t t' reading h
    exact count_read h

end OnHost

end RemoteDevice
