import RemoteDevice.Proofs.Client.Conversation
import RemoteDevice.Proofs.Transport.Bounds

/-!
# Proofs.Client.Answers — which answer a client takes for which request

Peers that are orderly answer each request with one whole message, or hang up, or stay silent. Then
nothing waits on the connection of an open session between operations: an exchange that leaves
something behind loses the session. So what an exchange comes to is decided by the answer to its own
request, and by no other.
-/

namespace RemoteDevice

open Net Wire

/-! ## Answers -/

namespace Net

/-- The answer of a peer to a request. -/
inductive Response where
  | reply (m : Message)
  | hangUp
  | silence
deriving DecidableEq, Repr

/-- The answer that a turn brought after earlier ones on its connection. A far end that has hung up
has done so for good. -/
inductive Answered (earlier : List Turn) (t : Turn) : Response → Prop
  | reply {m : Message} : m.encode = .ok t.reaction.bytes → Answered earlier t (.reply m)
  | hangUp : t.reaction.bytes = [] → (earlier ++ [t]).any (·.reaction.hangsUp) = true →
    Answered earlier t .hangUp
  | silence : t.reaction.bytes = [] → (earlier ++ [t]).any (·.reaction.hangsUp) = false →
    Answered earlier t .silence

/-- The far end answered with one whole message or without any, and the connection was not broken. -/
structure Turn.Orderly (t : Turn) : Prop where
  whole : t.reaction.bytes = [] ∨ ∃ m, Message.encode m = .ok t.reaction.bytes
  before : t.before = none
  after : t.after = none

/-- Peers that answer every request in an orderly way. -/
def Orderly (ν : Type) [Network ν] : Prop :=
  ∀ (k : Nat) (m : Message) (data : Bytes) (net : ν), m.encode = .ok data →
    (turn k data net).1.Orderly

/-- An orderly turn has one of the three answers. -/
theorem exists_answered {t : Turn} (earlier : List Turn) (ht : t.Orderly) :
    ∃ a, Answered earlier t a := by
  rcases ht.whole with hempty | ⟨m, hm⟩
  · cases hhung : (earlier ++ [t]).any (·.reaction.hangsUp) with
    | true => exact ⟨.hangUp, .hangUp hempty hhung⟩
    | false => exact ⟨.silence, .silence hempty hhung⟩
  · exact ⟨.reply m, .reply hm⟩

/-- What an exchange comes to if nothing waited on the link before. -/
theorem Link.Follows.conclude_of_answered {l : Link} {turns : List Turn} {t : Turn} {a : Response}
    (h : l.Follows turns) (hclear : l.incoming = []) (ht : t.Orderly) (ha : Answered turns t a)
    (timeoutMs : Nat) (buffer : Bytes) : (l.conclude timeoutMs buffer t).1 =
      match a with
      | .reply m => .ok (m.receivedIn buffer)
      | .hangUp => .error .disconnected
      | .silence => .error (if timeoutMs ≠ 0 then .timeout else .io .wouldBlock) := by
  have hended : (l.react t.reaction).ended = (turns ++ [t]).any (·.reaction.hangsUp) := by
    simp [react, h.ended]
  have hincoming : (l.react t.reaction).incoming = t.reaction.bytes := by
    simp [react, hclear]
  unfold Link.conclude
  dsimp only
  rw [ht.before, ht.after, hincoming]
  cases ha with
  | reply hm =>
    have hd := Framing.decode?_encode_append hm []
    rw [List.append_nil] at hd
    rw [hd]
  | hangUp hempty hhung =>
    rw [hempty, show Framing.decode? [] = none from rfl]
    simp [unanswered, starved, hended, hhung]
  | silence hempty hhung =>
    rw [hempty, show Framing.decode? [] = none from rfl]
    simp [unanswered, starved, hended, hhung, hincoming, hempty]

/-- A message that is received leaves nothing behind if nothing waited before. -/
theorem Link.incoming_conclude {l : Link} {t : Turn} (hclear : l.incoming = []) (ht : t.Orderly)
    (timeoutMs : Nat) (buffer : Bytes) : (l.conclude timeoutMs buffer t).2.incoming = [] := by
  have hincoming : (l.react t.reaction).incoming = t.reaction.bytes := by
    simp [react, hclear]
  unfold Link.conclude
  dsimp only
  rw [ht.before, hincoming]
  rcases ht.whole with hempty | ⟨m, hm⟩
  · rw [hempty, show Framing.decode? [] = none from rfl]
  · have hd := Framing.decode?_encode_append hm []
    rw [List.append_nil] at hd
    rw [hd]

end Net

namespace Client

/-- What an answer means to a client that waits for it. -/
def outcome : Response → Except Transport.Error Message
  | .reply m => if m.status = .success then .ok m else .error (.remote m.status)
  | .hangUp => .error (.protocol .disconnected)
  | .silence => .error (.protocol .timeout)

/-- The results after which a session goes on: success, the refusal of the server, and the refusal
to send too much. -/
def Survives {α : Type} : Except Transport.Error α → Prop
  | .ok _ => True
  | .error (.remote _) => True
  | .error (.protocol (.payloadTooLarge _)) => True
  | .error _ => False

/-- What a call returns when it succeeds does not matter to the session. -/
theorem survives_map {α β : Type} (f : α → β) (result : Except Transport.Error α) :
    Survives (result.map f) ↔ Survives result := by
  cases result with
  | ok a => exact Iff.rfl
  | error e =>
    cases e with
    | protocol e => cases e <;> exact Iff.rfl
    | _ => exact Iff.rfl

section Run

variable {ν : Type} [Network ν] {c : Client} {w : Watched ν}

/-- One exchange on the connection of a session, and the answer it got. -/
def Exchanged (s : Session) (m : Message) (a : Response) (w w' : Watched ν) : Prop :=
  ∃ r t, w.records[s.link.connection]? = some r ∧ t.Sends m ∧ Answered r.turns t a ∧
    w'.records = w.records.set s.link.connection (r.add t)

/-- Nothing waits on the connection of the session. -/
def Clear (c : Client) : Prop :=
  ∀ s, c.session = some s → s.link.incoming = []

/-- Nothing waits for a client that has no session. -/
theorem Clear.of_none (hs : c.session = none) : Clear c := by
  intro s hs'
  simp [hs] at hs'

/-! ## Exchanges -/

/-- Everything about an exchange with an orderly peer: it is decided by the answer to its own
request, the session goes on exactly after a reply, and then nothing waits on its connection. -/
theorem exchange_answered (hν : Orderly ν) {s : Session} (request : UInt8 → Message)
    (buffer : Bytes) (hm : ∀ unit, ∃ data, (request unit).encode = .ok data)
    (hs : c.session = some s) (hkept : Kept c.device c.session w.records) (hclear : Clear c) :
    Clear (c.exchange request buffer w).2.1 ∧
    ((c.exchange request buffer w).2.1.session.isSome ↔
      Survives (c.exchange request buffer w).1) ∧
    ∃ a, Exchanged s (request s.unit) a w (c.exchange request buffer w).2.2 ∧
      ((a = .silence → c.timeoutMs ≠ 0) →
        (c.exchange request buffer w).1 = (outcome a).map (·.receivedIn buffer)) := by
  obtain ⟨data, hdata⟩ := hm s.unit
  obtain ⟨r, hr, -, hfollows⟩ := hkept.live s hs
  have horderly := hν r.number (request s.unit) data w.net hdata
  have hempty := hclear s hs
  obtain ⟨a, ha⟩ := exists_answered r.turns horderly
  have hsends : Turn.Sends (request s.unit) (turn r.number data w.net).1 := hdata
  have hresult := hfollows.conclude_of_answered hempty horderly ha c.timeoutMs buffer
  have hleft := Link.incoming_conclude hempty horderly c.timeoutMs buffer
  rw [exchange_eq hs hdata, Watched.turn_eq hr]
  dsimp only
  generalize (turn r.number data w.net).1 = t at hsends ha hresult hleft ⊢
  cases hc : s.link.conclude c.timeoutMs buffer t with | mk result link =>
  rw [hc] at hresult hleft
  dsimp only at hresult hleft
  subst hresult
  have hexchanged : ∀ w' : Watched ν, w'.records = w.records.set s.link.connection (r.add t) →
      Exchanged s (request s.unit) a w w' := fun w' hw' => ⟨r, t, hr, hsends, ha, hw'⟩
  cases a with
  | reply m =>
    refine ⟨?_, ?_, .reply m, hexchanged _ rfl, fun _ => ?_⟩
    · intro s' hs'
      rcases Option.some.inj hs' with rfl
      exact hleft
    · dsimp only
      rw [verdict_receivedIn]
      by_cases hstatus : m.status = .success
      · simp [hstatus, Survives]
      · simp [hstatus, Survives]
    · dsimp only [outcome]
      rw [verdict_receivedIn]
      by_cases hstatus : m.status = .success
      · rw [if_pos hstatus, if_pos hstatus]
        rfl
      · rw [if_neg hstatus, if_neg hstatus]
        rfl
  | hangUp =>
    refine ⟨.of_none rfl, ?_, .hangUp, hexchanged _ (Watched.records_hangUp _ _), fun _ => rfl⟩
    simp [Survives]
  | silence =>
    refine ⟨.of_none rfl, ?_, .silence, hexchanged _ (Watched.records_hangUp _ _), ?_⟩
    · by_cases htimeout : c.timeoutMs ≠ 0
      · simp [htimeout, Survives]
      · simp [htimeout, Survives]
    · intro htimeout
      rw [if_pos (htimeout rfl)]
      rfl

/-! ## Operations -/

/-- A session starts with nothing that waits: the reply to the opening was read whole. -/
theorem clear_connect (hν : Orderly ν) (hclear : Clear c) : Clear (c.connect w).2.1 := by
  cases hs : c.session with
  | some s =>
    rw [connect_of_open hs]
    exact hclear
  | none =>
    cases hdial : Network.dial c.endpoint.host c.endpoint.port w.net with | mk dialed net =>
    cases dialed with
    | error e =>
      rw [connect_of_unreached hs (Watched.dial_of_error hdial)]
      exact hclear
    | ok number =>
      have hwatched := Watched.dial_of_ok hdial
      cases hencode : (openRequest c.device).encode with
      | error e =>
        rw [connect_of_unencodable hs hwatched hencode]
        exact hclear
      | ok data =>
        have hnew : (w.records ++ [⟨number, []⟩])[w.records.length]? = some ⟨number, []⟩ := by simp
        have horderly := hν number (openRequest c.device) data net hencode
        have hleft := Link.incoming_conclude (l := ⟨w.records.length, [], false⟩) rfl horderly
          c.timeoutMs (List.replicate kindLength 0)
        rw [connect_eq hs hwatched hencode, Watched.turn_eq (w := ⟨net, _⟩) hnew]
        dsimp only
        cases hc : Link.conclude c.timeoutMs (List.replicate kindLength 0)
          (turn number data net).1 ⟨w.records.length, [], false⟩ with | mk result link =>
        rw [hc] at hleft
        cases result with
        | error e => exact hclear
        | ok reply =>
          dsimp only
          cases verdict reply with
          | error e => exact hclear
          | ok _ =>
            -- the new session has read the one message that came
            intro s hs
            rcases Option.some.inj hs with rfl
            exact hleft

/-- A reading gets its answer, which decides its result and whether the session survives it. -/
theorem read_answered (hν : Orderly ν) {s : Session} (hs : c.session = some s)
    (hkept : Kept c.device c.session w.records) (hclear : Clear c) (control : UInt32)
    (buffer : Bytes) : Clear (c.read control buffer w).2.1 ∧
    ((c.read control buffer w).2.1.session.isSome ↔ Survives (c.read control buffer w).1) ∧
    ∃ a, Exchanged s (readRequest s.unit control buffer.length) a w (c.read control buffer w).2.2 ∧
      ((a = .silence → c.timeoutMs ≠ 0) → (c.read control buffer w).1 =
        (outcome a).map fun m => m.payload.take buffer.length) := by
  obtain ⟨hleft, hsurvives, a, hexchanged, hresult⟩ := exchange_answered hν
    (readRequest · control buffer.length) buffer (encode_readRequest · control buffer.length)
    hs hkept hclear
  rw [read_eq]
  refine ⟨hleft, ?_, a, hexchanged, ?_⟩
  · exact hsurvives.trans (survives_map Received.kept _).symm
  · intro htimeout
    dsimp only
    rw [hresult htimeout]
    cases outcome a with
    | error e => rfl
    | ok m => exact congrArg Except.ok (m.kept_receivedIn buffer)

/-- A writing that is sent gets its answer, which decides its result and whether the session
survives it. -/
theorem write_answered (hν : Orderly ν) {s : Session} (hs : c.session = some s)
    (hkept : Kept c.device c.session w.records) (hclear : Clear c) (control : UInt32)
    {data : Bytes} (hlong : ¬ maxPayload < data.length) : Clear (c.write control data w).2.1 ∧
    ((c.write control data w).2.1.session.isSome ↔ Survives (c.write control data w).1) ∧
    ∃ a, Exchanged s (writeRequest s.unit control data) a w (c.write control data w).2.2 ∧
      ((a = .silence → c.timeoutMs ≠ 0) → (c.write control data w).1 =
        (outcome a).map fun _ => data.length) := by
  obtain ⟨hleft, hsurvives, a, hexchanged, hresult⟩ := exchange_answered hν
    (writeRequest · control data) [] (encode_writeRequest · control hlong) hs hkept hclear
  rw [write_of_le hlong]
  refine ⟨hleft, ?_, a, hexchanged, ?_⟩
  · exact hsurvives.trans (survives_map (fun _ => data.length) _).symm
  · intro htimeout
    dsimp only
    rw [hresult htimeout]
    cases outcome a <;> rfl

/-- A new session is on a connection of its own, on which its opening was answered. -/
theorem connect_fresh {s : Session} (hs : c.session = none)
    (hs' : (c.connect w).2.1.session = some s) : s.link.connection = w.records.length ∧
    ∃ number t reply, (c.connect w).2.2.records = w.records ++ [⟨number, [t]⟩] ∧
      t.Sends (openRequest c.device) ∧ reply? [t] 0 = some reply ∧ reply.status = .success ∧
      reply.unit = s.unit := by
  have hmove := (moves_connect (c := c) (w := w)).move
  rw [hs, hs'] at hmove
  exact hmove.fresh

/-- A client has a session after connecting if and only if connecting succeeded. -/
theorem session_connect_isSome_iff :
    (c.connect w).2.1.session.isSome ↔ (c.connect w).1 = .ok () := by
  have hnone := session_connect_eq_none_iff (c := c) (w := w)
  rw [← Option.ne_none_iff_isSome, ne_eq, hnone]
  cases (c.connect w).1 <;> simp [failure?]

/-- Among orderly peers every operation leaves nothing that waits for the next one. -/
theorem clear_perform (hν : Orderly ν) (op : Operation)
    (hkept : Kept c.device c.session w.records) (hclear : Clear c) :
    Clear (c.perform op w).2.1 := by
  cases op with
  | connect => exact clear_connect hν hclear
  | disconnect => exact .of_none (session_disconnect c w)
  | read control buffer =>
    cases hs : c.session with
    | none =>
      show Clear (c.read control buffer w).2.1
      rw [read_of_closed hs]
      exact hclear
    | some s => exact (read_answered hν hs hkept hclear control buffer).1
  | write control data =>
    show Clear (c.write control data w).2.1
    by_cases hlong : maxPayload < data.length
    · rw [write_of_lt hlong]
      exact hclear
    · cases hs : c.session with
      | none =>
        rw [write_of_closed hs hlong]
        exact hclear
      | some s => exact (write_answered hν hs hkept hclear control hlong).1

/-- Among orderly peers nothing waits on the connection of the session, however long the client is
in use. -/
theorem clear_performAll (hν : Orderly ν) (ops : List Operation)
    (hkept : Kept c.device c.session w.records) (hclear : Clear c) :
    Clear (c.performAll ops w).2.1 := by
  induction ops generalizing c w with
  | nil => exact hclear
  | cons op ops ih =>
    have hop := perform_moves op hkept
    have hdevice : (c.perform op w).2.1.device = c.device := by rw [hop.same]
    exact ih (hdevice ▸ hkept.move hop.move) (clear_perform hν op hkept hclear)

/-- No reply answers another request. With orderly peers, a read or a write on an open session is
decided by the answer to its own request alone: a message that says success gives the beginning of
its payload, or the length of what was written; another status is reported as it is; silence is a
timeout, if there is a time limit, and a far end that hangs up is a lost connection. The session
outlives exactly the first two, and a write of too much. Without it reads and writes send nothing,
until an opening succeeds on a connection of its own. A connection that was given up is never used
again. -/
theorem own_answers (hν : Orderly ν) (endpoint : Options.Endpoint) (device : String)
    (timeoutMs : Nat) (ops : List Operation) (net : ν) :
    let fresh : Client := { endpoint, device, timeoutMs }
    let (results, c, w) := fresh.performAll ops (Watched.start net)
    (∃ c₀, fresh.performAll ops net = (results, c₀, w.net)) ∧
    (∀ s, c.session = some s →
      (∀ control buffer,
        let (result, c', w') := c.read control buffer w
        (c'.session.isSome ↔ Survives result) ∧
        ∃ a, Exchanged s (readRequest s.unit control buffer.length) a w w' ∧
          ((a = .silence → timeoutMs ≠ 0) →
            result = (outcome a).map fun m => m.payload.take buffer.length)) ∧
      (∀ control data, ¬ maxPayload < data.length →
        let (result, c', w') := c.write control data w
        (c'.session.isSome ↔ Survives result) ∧
        ∃ a, Exchanged s (writeRequest s.unit control data) a w w' ∧
          ((a = .silence → timeoutMs ≠ 0) → result = (outcome a).map fun _ => data.length)) ∧
      (∀ control data, maxPayload < data.length →
        c.write control data w = (.error (.protocol (.payloadTooLarge data.length)), c, w)) ∧
      c.connect w = (.ok (), c, w) ∧ (c.disconnect w).1.session = none) ∧
    (c.session = none →
      (∀ control buffer, c.read control buffer w = (.error .notOpen, c, w)) ∧
      (∀ control data, c.write control data w =
        (.error (if maxPayload < data.length then .protocol (.payloadTooLarge data.length)
          else .notOpen), c, w)) ∧
      c.disconnect w = (c, w) ∧
      let (result, c', w') := c.connect w
      (c'.session.isSome ↔ result = .ok ()) ∧
      ∀ s, c'.session = some s → s.link.connection = w.records.length ∧ ∃ number t reply,
        w'.records = w.records ++ [⟨number, [t]⟩] ∧ t.Sends (openRequest device) ∧
        reply? [t] 0 = some reply ∧ reply.status = .success ∧ reply.unit = s.unit) ∧
    ∀ k < w.records.length, connection? c.session ≠ some k → ∀ later,
      let (_, c', w') := c.performAll later w
      w'.records[k]? = w.records[k]? ∧ connection? c'.session ≠ some k := by
  intro fresh
  have hfresh := performAll_start fresh rfl net
  have halike := performAll_alike ops (w := Watched.start net) (Mirrors.closed (c := fresh) rfl)
  obtain ⟨hsame, hkept⟩ := performAll_keeps ops hfresh
  have hclear := clear_performAll hν ops hfresh (.of_none rfl)
  cases hrun : fresh.performAll ops (Watched.start net) with | mk results found =>
  rcases found with ⟨c, w⟩
  rw [hrun] at halike hsame hkept hclear
  dsimp only at hsame hkept hclear
  have hdevice : c.device = device := by rw [hsame]
  have htimeout : c.timeoutMs = timeoutMs := by rw [hsame]
  have hlive : Kept c.device c.session w.records := hdevice ▸ hkept
  refine ⟨⟨_, Prod.ext halike.result (Prod.ext rfl halike.net)⟩, ?_, ?_, ?_⟩
  · intro s hs
    refine ⟨?_, ?_, fun control data hlong => write_of_lt hlong control, connect_of_open hs,
      session_disconnect c w⟩
    · intro control buffer
      have hread := read_answered hν hs hlive hclear control buffer
      rw [htimeout] at hread
      exact hread.2
    · intro control data hlong
      have hwrite := write_answered hν hs hlive hclear control hlong
      rw [htimeout] at hwrite
      exact hwrite.2
  · intro hs
    refine ⟨read_of_closed hs, ?_, disconnect_of_closed hs, session_connect_isSome_iff, ?_⟩
    · intro control data
      by_cases hlong : maxPayload < data.length
      · rw [write_of_lt hlong, if_pos hlong]
      · rw [write_of_closed hs hlong, if_neg hlong]
    · intro s hs'
      have hnew := connect_fresh hs hs'
      rw [hdevice] at hnew
      exact hnew
  · intro k hk hne later
    exact performAll_abandoned later hk hne hlive

end Run

/-- Peers that answer every request with the same message. -/
structure Uniform where
  bytes : Bytes
  whole : ∃ m, Message.encode m = .ok bytes

instance : Network Uniform where
  dial _ _ u := (.ok 0, u)
  deliver _ _ u := ({ bytes := u.bytes }, u)
  hangUp _ u := u

theorem Uniform.orderly : Orderly Uniform := by
  intro k m data u hm
  exact ⟨Or.inr u.whole, rfl, rfl⟩

/-- Peers that answer with three bytes. -/
def Uniform.three : Uniform :=
  ⟨_, .reply 0 0 [1, 2, 3], rfl⟩

/-- A client that has connected to such peers and reads into a buffer of two bytes. -/
theorem own_answers_of_three : Orderly Uniform ∧
    let fresh : Client := { endpoint := ⟨"h", 1⟩, device := "d", timeoutMs := 5 }
    let (_, c, w) := fresh.performAll [.connect] (Watched.start Uniform.three)
    ∃ s a, c.session = some s ∧ Exchanged s (readRequest s.unit 7 2) a w (c.read 7 [9, 9] w).2.2 ∧
      (c.read 7 [9, 9] w).1 = (outcome a).map fun m => m.payload.take 2 := by
  refine ⟨Uniform.orderly, ?_⟩
  intro fresh
  have hall := own_answers Uniform.orderly ⟨"h", 1⟩ "d" 5 [.connect] Uniform.three
  have hname : (Text.encode fresh.device).length < maxPayload := by
    rw [Text.length_encode]
    decide
  obtain ⟨data, hdata⟩ := encode_openRequest hname
  have hsome : (fresh.connect (Watched.start Uniform.three)).2.1.session.isSome := by
    rw [connect_eq rfl (Watched.dial_of_ok rfl) hdata]
    rfl
  obtain ⟨s, hs⟩ := Option.isSome_iff_exists.1 hsome
  obtain ⟨-, hlive, -⟩ := hall
  obtain ⟨-, a, hexchanged, hresult⟩ := (hlive s hs).1 7 [9, 9]
  exact ⟨s, a, hs, hexchanged, hresult fun _ => by decide⟩

end Client

end RemoteDevice
