import RemoteDevice.Proofs.Server.Ledger
import RemoteDevice.Proofs.Transport.Bounds
import RemoteDevice.Proofs.Wire.Framing
import RemoteDevice.Server.Connection

/-!
# Proofs.Server.Stream — a connection from its first byte to its end

Whatever bytes a client sends, and however they are cut on their way, the messages in them are
answered in order, each by one reply that has a form on the wire. What is left when the client is
gone is answered by nothing, and the session gives back all it had.
-/

namespace RemoteDevice.Server

open Wire

variable {τ : Type} [Transport τ]

/-! ## Replies -/

/-- A reading is one of the transport that was asked. -/
theorem Pool.length_read (hb : Transport.Bounded τ) {n : Nat} {control : UInt32} {length : Nat}
    {p p' : Pool τ} {reading : Reading} (h : p.read n control length = (.ok reading, p')) :
    reading.data.length ≤ length := by
  unfold Pool.read use at h
  split at h
  · simp at h
  · next m _ =>
    cases hr : Transport.read control length m.transport with | mk result t =>
    obtain ⟨rfl, -⟩ := by simpa [hr] using h
    exact hb.read hr

/-- The name of a kind fits into the reply to an opening, with the byte that ends it. -/
theorem Pool.length_kind (hb : Transport.Bounded τ) (n : Nat) (p : Pool τ) :
    (Text.encode (p.kind n)).length < maxPayload := by
  unfold kind
  split
  · next t _ => exact hb.kind t
  · rw [Text.length_encode]
    decide

/-- A request cannot ask for more than a reply holds. -/
theorem requestedLength_le (payload : Bytes) : requestedLength payload ≤ maxPayload := by
  unfold requestedLength
  split
  · exact Nat.le_of_lt_succ (UInt16.toNat_lt _)
  · exact Nat.zero_le _

namespace Session

/-- The reply to an opening carries the name of a kind, or nothing. -/
theorem length_payload_finishOpen (hb : Transport.Bounded τ) (o : Opening)
    (result : Outcome Nat) (s : Session) (r : Registry τ) :
    (s.finishOpen o result r).1.payload.length ≤ maxPayload := by
  unfold finishOpen
  split
  · exact Nat.zero_le _
  · next t =>
    -- the reply to an opening is the name of the kind, and it ends with a zero byte
    have hlength : (Text.encode (r.pool.kind t) ++ [0]).length ≤ maxPayload := by
      rw [List.length_append]
      exact Pool.length_kind hb t r.pool
    unfold enter
    dsimp only
    split <;> exact hlength

theorem length_payload_openUnit (hb : Transport.Bounded τ) (payload : Bytes) (s : Session)
    (r : Registry τ) : (s.openUnit payload r).1.payload.length ≤ maxPayload := by
  unfold openUnit
  split
  · exact Nat.zero_le _
  · exact length_payload_finishOpen hb _ _ _ _

/-- The reply to a closing carries nothing. -/
theorem length_payload_closeUnit (unit : UInt8) (s : Session) (r : Registry τ) :
    (s.closeUnit unit r).1.payload.length ≤ maxPayload := by
  unfold closeUnit
  split
  · exact Nat.zero_le _
  · dsimp only
    unfold finishClose
    dsimp only
    split <;> exact Nat.zero_le _

/-- The reply to a reading carries no more than was asked for. -/
theorem length_payload_readUnit (hb : Transport.Bounded τ) (m : Message) (s : Session)
    (r : Registry τ) : (s.readUnit m r).1.payload.length ≤ maxPayload := by
  unfold readUnit
  split
  · exact Nat.zero_le _
  · next e _ =>
    split
    · next reading r' hr =>
      -- what was asked for stands in two bytes, and no more than that is read
      have hread : (r.pool.read e.transport m.control (requestedLength m.payload)).1 =
          .ok reading := congrArg Prod.fst hr
      have hlength := Pool.length_read hb (Prod.ext hread rfl)
      exact Nat.le_trans hlength (requestedLength_le m.payload)
    · exact Nat.zero_le _

/-- The reply to a writing carries nothing. -/
theorem length_payload_writeUnit (m : Message) (s : Session) (r : Registry τ) :
    (s.writeUnit m r).1.payload.length ≤ maxPayload := by
  unfold writeUnit
  split
  · exact Nat.zero_le _
  · split <;> exact Nat.zero_le _

/-- Every reply can be announced by a header. -/
theorem length_payload_handle (hb : Transport.Bounded τ) (m : Message) (s : Session)
    (r : Registry τ) : (s.handle m r).1.payload.length ≤ maxPayload := by
  unfold handle
  split
  · exact length_payload_openUnit hb m.payload s r
  · exact length_payload_closeUnit m.unit s r
  · exact length_payload_readUnit hb m s r
  · exact length_payload_writeUnit m s r
  · exact Nat.zero_le _

/-- Handles messages one after another. -/
def handleAll (s : Session) : List Message → Registry τ → List Message × Session × Registry τ
  | [], r => ([], s, r)
  | m :: ms, r =>
    let (reply, s, r) := s.handle m r
    let (replies, s, r) := s.handleAll ms r
    (reply :: replies, s, r)

/-- Every request has one reply. -/
theorem length_handleAll (ms : List Message) (s : Session) (r : Registry τ) :
    (s.handleAll ms r).1.length = ms.length := by
  induction ms generalizing s r with
  | nil => rfl
  | cons m ms ih => simp [handleAll, ih]

/-- Requests that follow others find the session and the registry as those left them. -/
theorem handleAll_append (ms ms' : List Message) (s : Session) (r : Registry τ) :
    s.handleAll (ms ++ ms') r =
      let (replies, s, r) := s.handleAll ms r
      let (replies', s, r) := s.handleAll ms' r
      (replies ++ replies', s, r) := by
  -- the session and the registry are those the first messages left
  induction ms generalizing s r with
  | nil => rfl
  | cons m ms ih => simp [handleAll, ih]

/-- No reply is too long for its frame. -/
theorem length_payload_handleAll (hb : Transport.Bounded τ) (ms : List Message) (s : Session)
    (r : Registry τ) : ∀ reply ∈ (s.handleAll ms r).1, reply.payload.length ≤ maxPayload := by
  induction ms generalizing s r with
  | nil => simp [handleAll]
  | cons m ms ih =>
    intro reply hreply
    rcases List.mem_cons.1 hreply with rfl | hreply
    · exact length_payload_handle hb m s r
    · exact ih _ _ reply hreply

end Session

/-- Answering messages writes the replies to them, all of them. -/
theorem answerAll_eq (hb : Transport.Bounded τ) (ms : List Message) (s : Session)
    (r : Registry τ) : ∃ bytes, answerAll ms s r = (⟨bytes, true⟩, (s.handleAll ms r).2) ∧
      Framed [] (s.handleAll ms r).1 bytes := by
  -- induction on the messages: no reply fails to encode, so none stops the answering
  induction ms generalizing s r with
  | nil => exact ⟨[], rfl, .done⟩
  | cons m ms ih =>
    cases hh : s.handle m r with | mk reply found =>
    rcases found with ⟨s', r'⟩
    have hlength : reply.payload.length ≤ maxPayload := by
      have h := Session.length_payload_handle hb m s r
      rwa [hh] at h
    obtain ⟨front, hencode⟩ : ∃ front, reply.encode = .ok front :=
      ⟨_, Message.encode_eq_ok_iff.2 ⟨hlength, rfl⟩⟩
    rcases ih s' r' with ⟨bytes, hanswer, hframed⟩
    refine ⟨front ++ bytes, ?_, ?_⟩
    · simp only [answerAll, Session.handleAll, hh, hencode, hanswer]
    · simp only [Session.handleAll, hh]
      exact .message hencode hframed

/-! ## Pieces of a stream -/

namespace Connection

/-- Pieces of a stream arrive one after another, and then it ends. Gives what is written upon them,
and what is left. -/
def serve : List Bytes → Connection → Registry τ → Bytes × Connection × Registry τ
  | [], c, r => ([], c.finish r)
  | data :: pieces, c, r =>
    let (reaction, c, r) := c.receive data r
    let (later, c, r) := serve pieces c r
    (reaction.bytes ++ later, c, r)

/-- A piece makes some messages complete. These are answered, and what is left waits. -/
theorem receive_eq (hb : Transport.Bounded τ) {data buffer rest : Bytes} {ms : List Message}
    (hdrain : Framing.drain (buffer ++ data) = (ms, rest)) (session : Session) (r : Registry τ) :
    ∃ bytes, receive data ⟨session, buffer, false⟩ r = (⟨bytes, false⟩,
        ⟨(session.handleAll ms r).2.1, rest, false⟩, (session.handleAll ms r).2.2) ∧
      Framed [] (session.handleAll ms r).1 bytes := by
  rcases answerAll_eq hb ms session r with ⟨bytes, hanswer, hframed⟩
  refine ⟨bytes, ?_, hframed⟩
  simp [receive, hdrain, hanswer]

/-- However a stream is cut, its messages are answered in order, and then the session ends. -/
theorem serve_eq (hb : Transport.Bounded τ) {pieces : List Bytes} {buffer rest : Bytes}
    {ms : List Message} (hbuffer : Incomplete buffer)
    (hdrain : Framing.drain (buffer ++ pieces.flatten) = (ms, rest)) (session : Session)
    (r : Registry τ) : ∃ written,
      serve pieces ⟨session, buffer, false⟩ r = (written, ⟨{}, rest, true⟩,
        ((session.handleAll ms r).2.1.shutdown (session.handleAll ms r).2.2).2) ∧
      Framed [] (session.handleAll ms r).1 written := by
  -- induction on the pieces, with any incomplete rest of the earlier ones in the buffer
  induction pieces generalizing session buffer ms r with
  | nil =>
    -- the stream has ended, and the buffer holds nothing that could be answered
    have hnone := Framing.drain_of_none (Framing.decode?_eq_none_iff.2 hbuffer)
    rw [List.flatten_nil, List.append_nil, hnone] at hdrain
    rcases Prod.mk.inj hdrain with ⟨rfl, rfl⟩
    exact ⟨[], rfl, .done⟩
  | cons data pieces ih =>
    cases hd : Framing.drain (buffer ++ data) with | mk ms₁ rest₁ =>
    have hrest : Incomplete rest₁ := by
      have h := (Framing.framed_drain (buffer ++ data)).2
      rwa [hd] at h
    -- the messages of the whole stream are those of the first piece, and then the others
    rw [List.flatten_cons, ← List.append_assoc, Framing.drain_append _ _ hd] at hdrain
    rcases Prod.mk.inj hdrain with ⟨rfl, hleft⟩
    rcases receive_eq hb hd session r with ⟨bytes, hreceive, hframed⟩
    obtain ⟨later, hserve, hframed'⟩ := ih hrest (Prod.ext rfl hleft)
      (session.handleAll ms₁ r).2.1 (session.handleAll ms₁ r).2.2
    rw [Session.handleAll_append]
    refine ⟨bytes ++ later, ?_, hframed.append hframed'⟩
    simp only [serve, hreceive, hserve]

end Connection

/-! ## What is given back -/

namespace System

/-- A session that is not interrupted handles messages as `Session.handleAll` does. -/
theorem run_handleAll {s : System τ} {i : Nat} {session : Session} (ms : List Message)
    (hi : s.workers[i]? = some ⟨session, .idle⟩) : ∃ trace,
      Run s trace ⟨(session.handleAll ms s.registry).2.2,
        s.workers.set i ⟨(session.handleAll ms s.registry).2.1, .idle⟩⟩ := by
  have hlt : i < s.workers.length := (List.getElem?_eq_some_iff.1 hi).1
  -- induction on the messages: each begins with the session idle again
  induction ms generalizing s session with
  | nil =>
    have hset : s.workers.set i ⟨session, .idle⟩ = s.workers := set_self_of_getElem? hi
    simp only [Session.handleAll, hset]
    exact ⟨[], .rest⟩
  | cons m ms ih =>
    cases hh : session.handle m s.registry with | mk reply found =>
    rcases found with ⟨session', r'⟩
    rcases run_handle hi hh with ⟨older, hfirst⟩
    have hi' : (s.workers.set i ⟨session', .idle⟩)[i]? = some ⟨session', .idle⟩ := by simp [hlt]
    obtain ⟨trace, hrest⟩ :=
      ih (s := ⟨r', s.workers.set i ⟨session', .idle⟩⟩) hi' (by simpa using hlt)
    rw [List.set_set] at hrest
    simp only [Session.handleAll, hh]
    exact ⟨_, hfirst.trans hrest⟩

/-- The whole life of a session that is not interrupted. -/
theorem run_session (ms : List Message) (r : Registry τ) : ∃ trace, Run (start r) trace
    ⟨((Session.handleAll {} ms r).2.1.shutdown (Session.handleAll {} ms r).2.2).2,
      [⟨{}, .gone⟩]⟩ := by
  have hconnect : Run (start r) [] ⟨r, [{}]⟩ := Run.single (a := .connect) rfl
  rcases run_handleAll (s := ⟨r, [{}]⟩) (i := 0) ms rfl with ⟨trace, hhandle⟩
  obtain ⟨trace', hend⟩ := run_shutdown (i := 0) (s := (⟨(Session.handleAll {} ms r).2.2,
    [⟨(Session.handleAll {} ms r).2.1, .idle⟩]⟩ : System τ)) rfl
  exact ⟨_, (hconnect.trans hhandle).trans hend⟩

end System

/-- What a session that has ended leaves of the devices is what it found. -/
theorem Session.shutdown_handleAll (ms : List Message) {r : Registry τ} {name : String}
    {d : Device} (hd : r.get? name = some d) : ∃ d',
      ((handleAll {} ms r).2.1.shutdown (handleAll {} ms r).2.2).2.get? name = some d' ∧
        d'.config = d.config ∧ d'.opens = d.opens ∧ d'.claimed = d.claimed := by
  rcases System.run_session ms r with ⟨trace, hrun⟩
  have hconfig := hrun.config name
  rw [hd] at hconfig
  rcases Option.map_eq_some_iff.1 hconfig with ⟨d', hd', hd'config⟩
  -- no stake is left when the session is gone
  have hledger := Ledger.of_run hrun
  have hnone : ∀ r' : Registry τ, System.stakes ⟨r', [⟨{}, .gone⟩]⟩ = [] := fun _ => rfl
  rw [hnone] at hledger
  refine ⟨d', hd', hd'config, ?_, ?_⟩
  · have hopens := hledger.opens name d' hd'
    simpa [Registry.opensOf, hd] using hopens
  · -- the ledger counts claims, and a device is claimed once or not at all
    have hclaimed := hledger.claimed name d' hd'
    simp only [Registry.claimsOf, hd, Option.any_some, List.countP_nil, Nat.add_zero] at hclaimed
    cases hc : d.claimed <;> cases hc' : d'.claimed <;> simp [hc, hc'] at hclaimed ⊢

/-- Everything about one connection: whatever bytes a client sends, and however they are cut into
pieces, they are messages and a rest in one way; what the server writes is the replies to these
messages, each in its place and each with a form on the wire, and nothing for the rest; and when the
stream has ended, no device is open or claimed other than before. -/
theorem serve_stream (hb : Transport.Bounded τ) (pieces : List Bytes) (r : Registry τ) :
    (∃ ms rest, Framed rest ms pieces.flatten ∧ Incomplete rest) ∧
    ∀ ms rest, Framed rest ms pieces.flatten → Incomplete rest →
      let answered := Session.handleAll {} ms r
      let served := Connection.serve pieces {} r
      Framed [] answered.1 served.1 ∧
      answered.1.length = ms.length ∧
      (∀ reply ∈ answered.1, reply.payload.length ≤ maxPayload) ∧
      Framing.decodeEnd? rest = (if rest = [] then .ok none else .error (.io .bytesRemaining)) ∧
      served.2 = (⟨{}, rest, true⟩, (answered.2.1.shutdown answered.2.2).2) ∧
      ∀ name d, r.get? name = some d → ∃ d', served.2.2.get? name = some d' ∧
        d'.config = d.config ∧ d'.opens = d.opens ∧ d'.claimed = d.claimed := by
  have hempty : Incomplete [] := Framing.decode?_eq_none_iff.1 rfl
  refine ⟨⟨_, _, Framing.framed_drain pieces.flatten⟩, ?_⟩
  intro ms rest hframed hrest
  -- a new connection has nothing in its buffer
  obtain ⟨written, hserve, hwritten⟩ :=
    Connection.serve_eq hb hempty (Framing.drain_of_framed hrest hframed) {} r
  have hserved : Connection.serve pieces {} r = _ := hserve
  have hend : Framing.decode? rest = none := Framing.decode?_eq_none_iff.2 hrest
  dsimp only
  rw [hserved]
  refine ⟨hwritten, Session.length_handleAll ms {} r, Session.length_payload_handleAll hb ms {} r,
    ?_, rfl, fun name d hd => Session.shutdown_handleAll ms hd⟩
  simp [Framing.decodeEnd?, hend]

/-- A request to open a device that comes in two pieces, and the beginning of another one. -/
theorem serve_stream_of_two_pieces :
    let requests := [Message.request .openUnit 0 0 [100]]
    let answered := Session.handleAll {} requests lone
    Framed [] answered.1 (Connection.serve [[1, 0, 0, 0, 0, 0], [1, 0, 100, 7]] {} lone).1 ∧
      answered.1.length = 1 := by
  have hframed : Framed [7] [Message.request .openUnit 0 0 [100]]
      ([1, 0, 0, 0, 0, 0, 1, 0, 100] ++ [7]) := .message rfl .done
  have hrest : Incomplete [7] := Framing.decode?_eq_none_iff.1 rfl
  rcases serve_stream OnHost.bounded [[1, 0, 0, 0, 0, 0], [1, 0, 100, 7]] lone with ⟨-, hserved⟩
  rcases hserved _ [7] hframed hrest with ⟨hwritten, hlength, -⟩
  exact ⟨hwritten, hlength⟩

end RemoteDevice.Server
