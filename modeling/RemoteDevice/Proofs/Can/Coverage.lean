import RemoteDevice.Can.Bus
import RemoteDevice.Proofs.Can.Canonical
import RemoteDevice.Proofs.Can.LastValue

/-!
# Proofs.Can.Coverage — the ids that a buffer serves

Frames and reads name an id by its canonical form, while the range of a buffer is kept as it was
given. A buffer serves those ids of its range that are canonical already: a frame of such an id is
kept, and the next read gives it. An extended id that is given without its flag is in the range, but
its canonical form is not, so that its frames are dropped and reads of it are refused.
-/

namespace RemoteDevice.Can

/-- In a range that is no wider than a buffer may be, an id that is not plain has its canonical form
outside. -/
theorem canonicalId_mem_range_iff {first stop id : UInt32} (hwidth : (stop - first).toNat ≤
    Transport.maxIds) (hid : IsProper id) (hin : first ≤ id ∧ id < stop) :
    first ≤ canonicalId id ∧ canonicalId id < stop ↔ IsPlain id := by
  have hlow := isProper_iff.1 hid
  have hfirst := UInt32.le_iff_toNat_le.1 hin.1
  have hstop := UInt32.lt_iff_toNat_lt.1 hin.2
  have hlt : first ≤ stop := UInt32.le_trans hin.1 (UInt32.le_of_lt hin.2)
  rw [UInt32.toNat_sub_of_le _ _ hlt] at hwidth
  rw [UInt32.le_iff_toNat_le, UInt32.lt_iff_toNat_lt, toNat_canonicalId_of_isProper hid]
  unfold Transport.maxIds at hwidth
  by_cases hplain : IsPlain id
  · rw [if_pos hplain]
    exact ⟨fun _ => hplain, fun _ => ⟨hfirst, hstop⟩⟩
  · -- the flag is worth far more than a buffer is wide
    rw [if_neg hplain]
    rw [isPlain_iff] at hplain
    constructor
    · rintro ⟨-, h⟩
      omega
    · intro h
      exact absurd (isPlain_iff.1 h) hplain

namespace Frame

variable {id : UInt32} {data : Bytes} {f : Frame}

/-- A frame that is made has the canonical form of its id, and the data as it was given. -/
theorem make_eq_ok_iff : make id data = .ok f ↔ f.id = canonicalId id ∧ f.data = data := by
  unfold make
  split
  · next h =>
    rw [Except.ok.injEq]
    constructor
    · rintro rfl
      exact ⟨rfl, rfl⟩
    · rintro ⟨hid, hdata⟩
      cases f
      cases hid
      cases hdata
      rfl
  · next h =>
    simp only [reduceCtorEq, false_iff, not_and]
    rintro - rfl
    exact h f.length_le

/-- A frame has the canonical form of the id that it is made with. -/
theorem id_of_make (h : make id data = .ok f) : f.id = canonicalId id :=
  (make_eq_ok_iff.1 h).1

end Frame

namespace FrameCache

variable {first stop : UInt32} {c : FrameCache}

/-- The range of a cache is no wider than a buffer may be. -/
theorem width_of_make (h : make first stop = .ok c) :
    (stop - first).toNat ≤ Transport.maxIds :=
  (make_eq_ok_iff.1 h).2.1

/-- A cache keeps the frames whose ids are in its range, and no others. -/
theorem Covers.store_fst (h : c.Covers first stop) (f : Frame) :
    (c.store f).1 = true ↔ first ≤ f.id ∧ f.id < stop := by
  unfold FrameCache.store
  rw [h.slot?_eq]
  by_cases hin : first ≤ f.id ∧ f.id < stop <;> simp [hin]

/-- A frame from outside the range is refused and changes nothing. -/
theorem Covers.store_outside (h : c.Covers first stop) {f : Frame}
    (hf : ¬(first ≤ f.id ∧ f.id < stop)) : c.store f = (false, c) := by
  unfold FrameCache.store
  rw [h.slot?_eq, if_neg hf]

/-- What the cache gives for an id after it was asked to store a frame of it. -/
theorem Covers.get_store_self (h : c.Covers first stop) (f : Frame) :
    (c.store f).2.get f.id =
      if first ≤ f.id ∧ f.id < stop then .ok (some f) else .error (.notBuffered f.id) := by
  by_cases hin : first ≤ f.id ∧ f.id < stop
  · rw [h.get_store f hin, if_pos rfl, if_pos hin]
  · rw [(h.store f).get_outside hin, if_neg hin]

end FrameCache

/-! ## Buses that buffer -/

namespace Bus

open BufferReader (run follows_run)
open Transport (Error)

/-- The states of a bus from the start of a buffer until its stop. -/
inductive Buffering (first stop : UInt32) : Bus → Prop
  | start {b b' : Bus} : b.startBuffer first stop = .ok b' → Buffering first stop b'
  | deliver {b : Bus} (e : Event) : Buffering first stop b → Buffering first stop (b.deliver e)
  | config {b : Bus} {op : Config} : op ≠ .stopBuffer → Buffering first stop b →
      Buffering first stop (b.config op).2
  | connect {b : Bus} (link : Except Error Socket) : Buffering first stop b →
      Buffering first stop (b.connect link).2
  | disconnect {b : Bus} : Buffering first stop b → Buffering first stop b.disconnect
  | read {b : Bus} (control : UInt32) (length : Nat) : Buffering first stop b →
      Buffering first stop (b.read control length).2
  | write {b : Bus} (data : Bytes) : Buffering first stop b → Buffering first stop (b.write data).2

/-- The buffer of the bus is the cache of a running reader that has the history. -/
structure FedBy (first stop : UInt32) (history : List Operation) (b : Bus) : Prop where
  running : .stop ∉ history
  fed : ∃ c filter, FrameCache.make first stop = .ok c ∧
    b.buffer = some (run ⟨c, filter, true⟩ history).cache ∧
    b.filter = (run ⟨c, filter, true⟩ history).filter

variable {first stop : UInt32} {history : List Operation} {b b' : Bus}

/-- Buffer and filter are as they were. -/
structure Aside (b b' : Bus) : Prop where
  buffer : b'.buffer = b.buffer
  filter : b'.filter = b.filter

/-- An opening does not concern the buffer, whether it succeeds or not. -/
theorem aside_connect (b : Bus) (link : Except Error Socket) : Aside b (b.connect link).2 := by
  unfold Bus.connect
  split
  · exact ⟨rfl, rfl⟩
  · cases link with
    | error e => exact ⟨rfl, rfl⟩
    | ok socket => exact ⟨rfl, rfl⟩

theorem aside_disconnect (b : Bus) : Aside b b.disconnect :=
  ⟨rfl, rfl⟩

/-- A reading takes nothing out of the buffer. -/
theorem aside_read (b : Bus) (control : UInt32) (length : Nat) :
    Aside b (b.read control length).2 := by
  unfold Bus.read
  split
  · exact ⟨rfl, rfl⟩
  · split <;> exact ⟨rfl, rfl⟩

theorem aside_write (b : Bus) (data : Bytes) : Aside b (b.write data).2 := by
  unfold Bus.write
  split
  · exact ⟨rfl, rfl⟩
  · split <;> exact ⟨rfl, rfl⟩

/-- What changes neither buffer nor filter does not concern the reader. -/
theorem FedBy.aside (h : FedBy first stop history b) (hb : Aside b b') :
    FedBy first stop history b' := by
  rcases h.fed with ⟨c, filter, hmake, hcache, hforce⟩
  exact ⟨h.running, c, filter, hmake, hb.buffer.trans hcache, hb.filter.trans hforce⟩

/-- A buffer begins with a reader to which nothing has happened. -/
theorem FedBy.start (h : b.startBuffer first stop = .ok b') : FedBy first stop [] b' := by
  unfold startBuffer at h
  split at h
  · simp at h
  · cases hmake : FrameCache.make first stop with
    | error e => simp [hmake, Except.map] at h
    | ok c =>
      obtain rfl := by simpa [hmake, Except.map] using h
      exact ⟨by simp, c, b.filter, hmake, rfl, rfl⟩

/-- An event that is delivered is the newest part of the history. -/
theorem FedBy.deliver (h : FedBy first stop history b) (e : Event) :
    FedBy first stop (.event e :: history) (b.deliver e) := by
  rcases h.fed with ⟨c, filter, hmake, hcache, hforce⟩
  have hrunning : (run ⟨c, filter, true⟩ history).running = true :=
    (follows_run hmake filter history).running.2 h.running
  -- the reader has not been stopped, so it deals with the event as the bus does
  have hafter : run ⟨c, filter, true⟩ (.event e :: history) =
      { run ⟨c, filter, true⟩ history with
        cache := (run ⟨c, filter, true⟩ history).cache.take
          (run ⟨c, filter, true⟩ history).filter e } := if_pos hrunning
  refine ⟨by simp [h.running], c, filter, hmake, ?_, ?_⟩
  · rw [hafter, ← hforce]
    simp [Bus.deliver, hcache]
  · rw [hafter]
    exact hforce

/-- Another filter takes the place of the one in force. -/
theorem FedBy.setFilter (h : FedBy first stop history b) (hbuffer : b'.buffer = b.buffer) :
    FedBy first stop (.setFilter b'.filter :: history) b' := by
  rcases h.fed with ⟨c, filter, hmake, hcache, -⟩
  exact ⟨by simp [h.running], c, filter, hmake, hbuffer.trans hcache, rfl⟩

/-- Setting a filter leaves the buffer as it was. -/
theorem buffer_setFilter {set : FilterSet} (h : b.setFilter set = .ok b') :
    b'.buffer = b.buffer := by
  unfold Bus.setFilter at h
  split at h
  · simp at h
  · split at h <;> obtain rfl := Except.ok.inj h <;> rfl

/-- What may become of the buffer of a bus that has one, and is not told to stop it. -/
theorem buffer_config {op : Config} (hop : op ≠ .stopBuffer) (hb : b.buffer.isSome = true) :
    (b.config op).2.buffer = b.buffer := by
  have hset : ∀ result : Except Error FilterSet,
      (b.configured (result.bind b.setFilter)).2.buffer = b.buffer := by
    intro result
    cases result with
    | error e => rfl
    | ok set =>
      show (b.configured (b.setFilter set)).2.buffer = b.buffer
      cases h : b.setFilter set with
      | error e => rfl
      | ok b' => exact buffer_setFilter h
  cases op with
  | setFilter set => exact hset (.ok set)
  | setRange first stop => exact hset (FilterSet.range first stop)
  | parseFilter spec => exact hset (FilterSet.parse spec)
  | startBuffer first stop =>
    -- there is a buffer already, so that no other one is begun
    have hactive : b.startBuffer first stop = .error .bufferActive := if_pos hb
    show (b.configured (b.startBuffer first stop)).2.buffer = b.buffer
    rw [hactive]
    rfl
  | stopBuffer => exact absurd rfl hop
  | clearFilter => rfl
  | setRetry policy => rfl
  | getDescriptor => rfl

/-- A bus that buffers is a reader with a history. -/
theorem Buffering.fedBy (h : Buffering first stop b) : ∃ history, FedBy first stop history b := by
  induction h with
  | start hstart => exact ⟨[], .start hstart⟩
  | deliver e _ ih =>
    rcases ih with ⟨history, hfed⟩
    exact ⟨_, hfed.deliver e⟩
  | @config b op hop _ ih =>
    rcases ih with ⟨history, hfed⟩
    rcases hfed.fed with ⟨c, filter, -, hcache, -⟩
    exact ⟨_, hfed.setFilter (buffer_config hop (by rw [hcache]; rfl))⟩
  | connect link _ ih =>
    rcases ih with ⟨history, hfed⟩
    exact ⟨history, hfed.aside (aside_connect _ link)⟩
  | disconnect _ ih =>
    rcases ih with ⟨history, hfed⟩
    exact ⟨history, hfed.aside (aside_disconnect _)⟩
  | read control length _ ih =>
    rcases ih with ⟨history, hfed⟩
    exact ⟨history, hfed.aside (aside_read _ control length)⟩
  | write data _ ih =>
    rcases ih with ⟨history, hfed⟩
    exact ⟨history, hfed.aside (aside_write _ data)⟩

/-- The buffer of a bus covers the range it was begun with, which is no wider than one may be. -/
theorem Buffering.covers (h : Buffering first stop b) : ∃ c, b.buffer = some c ∧
    c.Covers first stop ∧ (stop - first).toNat ≤ Transport.maxIds := by
  rcases h.fedBy with ⟨history, hfed⟩
  rcases hfed.fed with ⟨c, filter, hmake, hcache, -⟩
  exact ⟨_, hcache, (follows_run hmake filter history).covers, FrameCache.width_of_make hmake⟩

/-- What a bus reads that buffers: what the cache has for the canonical form of the id. -/
theorem read_of_buffer {c : FrameCache} {length : Nat} (hopen : b.socket.isSome = true)
    (hbuffer : b.buffer = some c) (hlength : frameLength ≤ length) (id : UInt32) :
    (b.read id length).1 = (c.lookup (canonicalId id) b.retry).map fun f => .ofData f.wire := by
  rcases Option.isSome_iff_exists.1 hopen with ⟨socket, hsocket⟩
  unfold Bus.read
  rw [if_neg (Nat.not_lt.2 hlength), hsocket, hbuffer]

/-- Without a filter every frame goes to the cache. -/
theorem buffer_deliver_frame {c : FrameCache} (hbuffer : b.buffer = some c)
    (hfilter : b.filter = none) (f : Frame) :
    (b.deliver (.frame f)).buffer = some (c.store f).2 := by
  simp [Bus.deliver, hbuffer, hfilter, FrameCache.take, passes]

/-- While a bus buffers and has no filter, a frame that is delivered is kept and given to the next
read of its id, if the id is in the range and either standard or extended with its flag. Of the
other ids in the range no frame is kept, and a read of them is refused. -/
theorem read_delivered (hb : Buffering first stop b) (hfilter : b.filter = none)
    (hopen : b.socket.isSome = true) {length : Nat} (hlength : frameLength ≤ length) {id : UInt32}
    (hid : IsProper id) (hin : first ≤ id ∧ id < stop) {data : Bytes} {f : Frame}
    (hf : Frame.make id data = .ok f) :
    ∃ c, b.buffer = some c ∧ (b.deliver (.frame f)).buffer = some (c.store f).2 ∧
      if IsPlain id then
        (c.store f).1 = true ∧ ((b.deliver (.frame f)).read id length).1 = .ok (.ofData f.wire)
      else
        c.store f = (false, c) ∧ ((b.deliver (.frame f)).read id length).1 =
          .error (.notBuffered (canonicalId id)) := by
  rcases hb.covers with ⟨c, hbuffer, hcovers, hwidth⟩
  have hstored := buffer_deliver_frame hbuffer hfilter f
  have hcanonical : f.id = canonicalId id := Frame.id_of_make hf
  have hrange := canonicalId_mem_range_iff hwidth hid hin
  have hget := hcovers.get_store_self f
  have hread := read_of_buffer (b := b.deliver (.frame f)) hopen hstored hlength id
  rw [← hcanonical] at hrange hread
  rw [FrameCache.lookup_eq, hget] at hread
  simp only [hrange] at hread
  refine ⟨c, hbuffer, hstored, ?_⟩
  by_cases hplain : IsPlain id
  · simp only [if_pos hplain] at hread ⊢
    exact ⟨(hcovers.store_fst f).2 (hrange.2 hplain), hread⟩
  · simp only [if_neg hplain] at hread ⊢
    exact ⟨hcovers.store_outside fun h => hplain (hrange.1 h), hcanonical ▸ hread⟩

/-- The last standard id in a range that goes on beyond the standard ids. -/
theorem read_delivered_last_standard : ∃ b f, Buffering 0x7f0 0x810 b ∧
    Frame.make 0x7ff [1] = .ok f ∧
    ((b.deliver (.frame f)).read 0x7ff 16).1 = .ok (.ofData f.wire) := by
  let closed : Bus := { interface := "can0", bitrate := defaultBitrate }
  let opened := (closed.connect (.ok {})).2
  let c : FrameCache := ⟨0x7f0, Array.replicate 32 none, .none 32⟩
  have hstart : opened.startBuffer 0x7f0 0x810 = .ok { opened with buffer := some c } := rfl
  have hbuffering : Buffering 0x7f0 0x810 { opened with buffer := some c } := .start hstart
  have hlength : frameLength ≤ 16 := Nat.le_refl _
  have hproper : IsProper 0x7ff := by decide
  have hframe : Frame.make 0x7ff [1] = .ok ⟨0x7ff, [1], by decide⟩ := rfl
  have hin : (0x7f0 : UInt32) ≤ 0x7ff ∧ (0x7ff : UInt32) < 0x810 := by decide
  obtain ⟨_, -, -, hread⟩ := read_delivered hbuffering rfl rfl hlength hproper hin hframe
  have hplain : IsPlain 0x7ff := by decide
  rw [if_pos hplain] at hread
  exact ⟨_, _, hbuffering, hframe, hread.2⟩

/-- An id of the range beyond the standard ids: its frame is dropped, and a read of it refused. -/
theorem not_read_delivered_beyond_standard : ∃ b c f, Buffering 0x800 0x810 b ∧
    b.filter = none ∧ b.buffer = some c ∧ IsProper 0x805 ∧
    Frame.make 0x805 [1] = .ok f ∧ c.store f = (false, c) ∧
    ((b.deliver (.frame f)).read 0x805 16).1 = .error (.notBuffered 0x80000805) := by
  let closed : Bus := { interface := "can0", bitrate := defaultBitrate }
  let opened := (closed.connect (.ok {})).2
  let c : FrameCache := ⟨0x800, Array.replicate 16 none, .none 16⟩
  let b : Bus := { opened with buffer := some c }
  let f : Frame := ⟨0x80000805, [1], by decide⟩
  have hstart : opened.startBuffer 0x800 0x810 = .ok b := rfl
  have hslot : c.slot? 0x80000805 = none := by simp [FrameCache.slot?, c]
  have hdropped : c.store f = (false, c) := by simp [FrameCache.store, hslot, f]
  have hkept : (b.deliver (.frame f)).buffer = some c := by
    rw [buffer_deliver_frame rfl rfl, hdropped]
  have hlength : frameLength ≤ 16 := Nat.le_refl _
  have hread := read_of_buffer rfl hkept hlength 0x805
  have hcanonical : canonicalId 0x805 = 0x80000805 := by decide
  rw [hcanonical, FrameCache.lookup_eq, FrameCache.get, hslot] at hread
  exact ⟨b, c, f, .start hstart, rfl, rfl, by decide, rfl, hdropped, hread⟩

end Bus

end RemoteDevice.Can
