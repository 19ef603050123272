import RemoteDevice.Proofs.Client.Operations

/-!
# Proofs.Client.Conversation — what a client says on its connections

On each of its connections a client opens its device, reads and writes the unit it was given, and
closes that unit; at any point it may stop. It stops where a request was not answered, and never
takes the connection up again. An operation is one of a few moves of the session and of the records
of all connections (`perform_move`), and what holds of every run is proved for these moves.
-/

namespace RemoteDevice

open Net Wire

/-! ## Conversations -/

namespace Net

/-- The turn sent this message. -/
def Turn.Sends (m : Message) (t : Turn) : Prop :=
  m.encode = .ok t.sent

/-- The turn asked to read from the unit or to write to it. -/
def Turn.Uses (unit : UInt8) (t : Turn) : Prop :=
  (∃ control length, t.Sends (Client.readRequest unit control length)) ∨
    ∃ control data, t.Sends (Client.writeRequest unit control data)

end Net

namespace Client

/-- What comes after the opening: readings and writings of the unit, and at the end perhaps its
closing. -/
def InUse (unit : UInt8) (later : List Turn) : Prop :=
  ∃ uses last, later = uses ++ last ∧ (∀ t ∈ uses, t.Uses unit) ∧
    (last = [] ∨ ∃ t, last = [t] ∧ t.Sends (closeRequest unit))

/-- The opening succeeded, and gave the unit. -/
def Granted (unit : UInt8) (turns : List Turn) : Prop :=
  ∃ reply, reply? turns 0 = some reply ∧ reply.status = .success ∧ reply.unit = unit

/-- What a client says on a connection: it opens the device; if that succeeded, it goes on with the
unit it was given; and every request but the last has its reply. -/
def Conversation (device : String) (turns : List Turn) : Prop :=
  turns = [] ∨ ∃ first later, turns = first :: later ∧ first.Sends (openRequest device) ∧
    (later ≠ [] → ∃ unit, Granted unit turns ∧ InUse unit later) ∧
    ∀ i, i + 1 < turns.length → (reply? turns i).isSome

/-- A conversation that can go on: the unit is open, and every request has its reply. -/
structure Ongoing (device : String) (unit : UInt8) (turns : List Turn) : Prop where
  said : ∃ first uses, turns = first :: uses ∧ first.Sends (openRequest device) ∧
    ∀ t ∈ uses, t.Uses unit
  granted : Granted unit turns
  replied : ∀ i < turns.length, (reply? turns i).isSome

/-- What was granted at the opening stays granted while the conversation goes on. -/
theorem Granted.append {unit : UInt8} {turns : List Turn} (later : List Turn)
    (h : Granted unit turns) : Granted unit (turns ++ later) := by
  rcases h with ⟨reply, hreply, hgranted⟩
  have hpos : 0 < turns.length := by
    cases turns with
    | nil => simp [reply?] at hreply
    | cons => exact Nat.zero_lt_succ _
  exact ⟨reply, (reply?_append later hpos).trans hreply, hgranted⟩

namespace Ongoing

variable {device : String} {unit : UInt8} {turns : List Turn} {t : Turn}

/-- Whatever comes of one more request, it was due. -/
theorem conversation_concat (h : Ongoing device unit turns)
    (ht : t.Uses unit ∨ t.Sends (closeRequest unit)) : Conversation device (turns ++ [t]) := by
  rcases h.said with ⟨first, uses, rfl, hopen, huses⟩
  refine Or.inr ⟨first, uses ++ [t], rfl, hopen, ?_, ?_⟩
  · intro _
    refine ⟨unit, h.granted.append [t], ?_⟩
    rcases ht with ht | ht
    · refine ⟨uses ++ [t], [], (List.append_nil _).symm, ?_, Or.inl rfl⟩
      intro t' ht'
      rcases List.mem_append.1 ht' with ht' | ht'
      · exact huses t' ht'
      · rcases List.mem_singleton.1 ht' with rfl
        exact ht
    · exact ⟨uses, [t], rfl, huses, Or.inr ⟨t, rfl, ht⟩⟩
  · -- the new request is the last one, and those before it have their replies
    intro i hi
    have hlt : i < (first :: uses).length := by
      rw [List.length_append, List.length_singleton] at hi
      exact Nat.lt_of_succ_lt_succ hi
    rw [reply?_append [t] hlt]
    exact h.replied i hlt

/-- With its reply, a request lets the conversation go on. -/
theorem concat (h : Ongoing device unit turns) (ht : t.Uses unit)
    (hreply : (reply? (turns ++ [t]) turns.length).isSome) : Ongoing device unit (turns ++ [t]) := by
  rcases h.said with ⟨first, uses, rfl, hopen, huses⟩
  refine ⟨⟨first, uses ++ [t], rfl, hopen, ?_⟩, h.granted.append [t], ?_⟩
  · intro t' ht'
    rcases List.mem_append.1 ht' with ht' | ht'
    · exact huses t' ht'
    · rcases List.mem_singleton.1 ht' with rfl
      exact ht
  · intro i hi
    by_cases hlt : i < (first :: uses).length
    · rw [reply?_append [t] hlt]
      exact h.replied i hlt
    · have hlast : i = (first :: uses).length := by
        rw [List.length_append, List.length_singleton] at hi
        omega
      rw [hlast]
      exact hreply

end Ongoing

theorem conversation_nil (device : String) : Conversation device [] :=
  Or.inl rfl

/-- The opening alone. -/
theorem conversation_singleton {device : String} {t : Turn} (ht : t.Sends (openRequest device)) :
    Conversation device [t] := by
  refine Or.inr ⟨t, [], rfl, ht, fun hne => absurd rfl hne, ?_⟩
  intro i hi
  simp at hi

/-- An opening that succeeded is a conversation that can go on. -/
theorem ongoing_singleton {device : String} {t : Turn} {reply : Message}
    (ht : t.Sends (openRequest device)) (hreply : reply? [t] 0 = some reply)
    (hstatus : reply.status = .success) : Ongoing device reply.unit [t] := by
  refine ⟨⟨t, [], rfl, ht, by simp⟩, ⟨reply, hreply, hstatus, rfl⟩, ?_⟩
  intro i hi
  obtain rfl : i = 0 := by simpa using hi
  rw [hreply]
  rfl

/-! ## Moves -/

/-- What an operation does to the session and to the records of all connections. -/
inductive Move (device : String) :
    Option Session → List Record → Option Session → List Record → Prop
  /-- Nothing is sent. -/
  | aside {session : Option Session} {records : List Record} :
    Move device session records session records
  /-- A connection is made, and given up before anything is sent. -/
  | untold {records : List Record} {number : Nat} :
    Move device none records none (records ++ [⟨number, []⟩])
  | refused {records : List Record} {number : Nat} {t : Turn} :
    t.Sends (openRequest device) → Move device none records none (records ++ [⟨number, [t]⟩])
  | opened {records : List Record} {number : Nat} {t : Turn} {s : Session} {reply : Message} :
    t.Sends (openRequest device) → reply? [t] 0 = some reply → reply.status = .success →
    s.unit = reply.unit → s.link.connection = records.length → s.link.Follows [t] →
    Move device none records (some s) (records ++ [⟨number, [t]⟩])
  | used {records : List Record} {s s' : Session} {r : Record} {t : Turn} :
    records[s.link.connection]? = some r → t.Uses s.unit →
    (reply? (r.turns ++ [t]) r.turns.length).isSome → s'.unit = s.unit →
    s'.link.connection = s.link.connection → s'.link.Follows (r.turns ++ [t]) →
    Move device (some s) records (some s') (records.set s.link.connection (r.add t))
  /-- The session ends with a request that was not answered, or with the closing of its unit. -/
  | ended {records : List Record} {s : Session} {r : Record} {t : Turn} :
    records[s.link.connection]? = some r →
    (t.Uses s.unit ∧ reply? (r.turns ++ [t]) r.turns.length = none ∨
      t.Sends (closeRequest s.unit)) →
    Move device (some s) records none (records.set s.link.connection (r.add t))

/-- The number by which a session knows its connection. -/
def connection? (session : Option Session) : Option Nat :=
  session.map (·.link.connection)

namespace Move

variable {device : String} {session session' : Option Session} {records records' : List Record}

/-- Only one connection is made at a time, and only without a session. -/
theorem length_le (h : Move device session records session' records') :
    records'.length = records.length ∨
      session = none ∧ records'.length = records.length + 1 := by
  cases h with
  | aside => exact Or.inl rfl
  | untold => exact Or.inr ⟨rfl, by simp⟩
  | refused _ => exact Or.inr ⟨rfl, by simp⟩
  | opened _ _ _ _ _ _ => exact Or.inr ⟨rfl, by simp⟩
  | used _ _ _ _ _ _ => exact Or.inl (by simp)
  | ended _ _ => exact Or.inl (by simp)

/-- A connection that is not the session's stays as it is and is not taken up again. -/
theorem abandoned (h : Move device session records session' records') {k : Nat}
    (hk : k < records.length) (hne : connection? session ≠ some k) :
    records'[k]? = records[k]? ∧ connection? session' ≠ some k := by
  cases h with
  | aside => exact ⟨rfl, hne⟩
  | untold => exact ⟨List.getElem?_append_left hk, by simp [connection?]⟩
  | refused _ => exact ⟨List.getElem?_append_left hk, by simp [connection?]⟩
  | opened _ _ _ _ hnew _ =>
    -- a new session has the number behind all others
    refine ⟨List.getElem?_append_left hk, ?_⟩
    simp only [connection?, Option.map_some, hnew, ne_eq, Option.some.injEq]
    omega
  | used _ _ _ _ hsame _ =>
    have hother : _ ≠ k := fun heq => hne (congrArg some heq)
    refine ⟨List.getElem?_set_ne hother, ?_⟩
    simp only [connection?, Option.map_some, hsame, ne_eq, Option.some.injEq]
    exact hother
  | ended _ _ =>
    have hother : _ ≠ k := fun heq => hne (congrArg some heq)
    exact ⟨List.getElem?_set_ne hother, by simp [connection?]⟩

/-- A session begins on a connection of its own, with the reply to its opening. -/
theorem fresh {s : Session} (h : Move device none records (some s) records') :
    s.link.connection = records.length ∧ ∃ number t reply,
      records' = records ++ [⟨number, [t]⟩] ∧ t.Sends (openRequest device) ∧
      reply? [t] 0 = some reply ∧ reply.status = .success ∧ reply.unit = s.unit := by
  cases h with
  | opened hopen hreply hstatus hunit hnew _ =>
    exact ⟨hnew, _, _, _, rfl, hopen, hreply, hstatus, hunit.symm⟩

end Move

/-- What holds of the session and the records of a client in use. -/
structure Kept (device : String) (session : Option Session) (records : List Record) : Prop where
  said : ∀ r ∈ records, Conversation device r.turns
  live : ∀ s, session = some s → ∃ r, records[s.link.connection]? = some r ∧
    Ongoing device s.unit r.turns ∧ s.link.Follows r.turns

namespace Kept

variable {device : String} {session session' : Option Session} {records records' : List Record}

/-- It holds of a client that has said nothing. -/
theorem start (device : String) : Kept device none [] :=
  ⟨by simp, by simp⟩

/-- A record more. -/
theorem said_concat {r : Record} (hr : Conversation device r.turns) (h : Kept device session records) :
    ∀ r' ∈ records ++ [r], Conversation device r'.turns := by
  intro r' hr'
  rcases List.mem_append.1 hr' with hr' | hr'
  · exact h.said r' hr'
  · rcases List.mem_singleton.1 hr' with rfl
    exact hr

/-- A record with one turn more. -/
theorem said_set {k : Nat} {r : Record} (hr : Conversation device r.turns)
    (h : Kept device session records) : ∀ r' ∈ records.set k r, Conversation device r'.turns := by
  intro r' hr'
  rcases List.mem_or_eq_of_mem_set hr' with hr' | rfl
  · exact h.said r' hr'
  · exact hr

/-- Every move keeps it. -/
theorem move (hmove : Move device session records session' records')
    (h : Kept device session records) : Kept device session' records' := by
  cases hmove with
  | aside => exact h
  | untold => exact ⟨h.said_concat (conversation_nil device), by simp⟩
  | refused hopen => exact ⟨h.said_concat (conversation_singleton hopen), by simp⟩
  | @opened _ number t s reply hopen hreply hstatus hunit hnew hfollows =>
    refine ⟨h.said_concat (conversation_singleton hopen), ?_⟩
    intro s' hs'
    rcases Option.some.inj hs' with rfl
    refine ⟨⟨number, [t]⟩, by simp [hnew], ?_, hfollows⟩
    rw [hunit]
    exact ongoing_singleton hopen hreply hstatus
  | @used _ s s' r t hr huses hreply hunit hsame hfollows =>
    obtain ⟨r', hr', hongoing, -⟩ := h.live s rfl
    obtain rfl := Option.some.inj (hr.symm.trans hr')
    have hk : s.link.connection < records.length := (List.getElem?_eq_some_iff.1 hr).1
    refine ⟨h.said_set (hongoing.conversation_concat (Or.inl huses)), ?_⟩
    intro s'' hs''
    rcases Option.some.inj hs'' with rfl
    refine ⟨r.add t, by simp [hsame, hk], ?_, hfollows⟩
    rw [hunit]
    exact hongoing.concat huses hreply
  | @ended _ s r t hr hlast =>
    obtain ⟨r', hr', hongoing, -⟩ := h.live s rfl
    obtain rfl := Option.some.inj (hr.symm.trans hr')
    refine ⟨h.said_set (hongoing.conversation_concat ?_), by simp⟩
    rcases hlast with ⟨huses, -⟩ | hclose
    · exact Or.inl huses
    · exact Or.inr hclose

end Kept

/-! ## Operations are moves -/

section Run

variable {ν : Type} [Network ν] {c : Client} {w : Watched ν}

/-- What a client has done on a watched network: a move, that changes nothing of the client but its
session. -/
structure Moves {α : Type} (c : Client) (w : Watched ν) (done : α × Client × Watched ν) : Prop where
  move : Move c.device c.session w.records done.2.1.session done.2.2.records
  same : done.2.1 = { c with session := done.2.1.session }

omit [Network ν] in
theorem Moves.of_aside {α : Type} (result : α) (c : Client) (w : Watched ν) :
    Moves c w (result, c, w) :=
  ⟨.aside, rfl⟩

/-- An exchange of the session is a move: the session goes on with the reply, or it ends. -/
theorem moves_exchange {request : UInt8 → Message} (buffer : Bytes)
    (hm : ∀ unit, ∃ data, (request unit).encode = .ok data)
    (huses : ∀ unit t, Turn.Sends (request unit) t → t.Uses unit)
    (h : Kept c.device c.session w.records) : Moves c w (c.exchange request buffer w) := by
  cases hs : c.session with
  | none =>
    rw [exchange_of_closed hs]
    exact .of_aside _ c w
  | some s =>
    obtain ⟨data, hdata⟩ := hm s.unit
    obtain ⟨r, hr, -, hfollows⟩ := h.live s hs
    rw [exchange_eq hs hdata, Watched.turn_eq hr]
    have hsends : Turn.Sends (request s.unit) (turn r.number data w.net).1 := hdata
    have hconnection := Link.connection_conclude c.timeoutMs buffer
      (turn r.number data w.net).1 s.link
    have hconclude := hfollows.conclude c.timeoutMs buffer (turn r.number data w.net).1
    dsimp only
    generalize (turn r.number data w.net).1 = t at hsends hconnection hconclude ⊢
    cases hc : s.link.conclude c.timeoutMs buffer t with | mk result link =>
    rw [hc] at hconnection hconclude
    cases hreply : reply? (r.turns ++ [t]) r.turns.length with
    | none =>
      -- the exchange broke, and the session is over
      rw [hreply] at hconclude
      obtain ⟨e, rfl⟩ : ∃ e, result = .error e := hconclude
      refine ⟨?_, rfl⟩
      rw [hs]
      simp only [Watched.records_hangUp]
      exact .ended hr (Or.inl ⟨huses _ _ hsends, hreply⟩)
    | some reply =>
      rw [hreply] at hconclude
      obtain ⟨rfl, hnext⟩ : result = .ok (reply.receivedIn buffer) ∧
        link.Follows (r.turns ++ [t]) := hconclude
      refine ⟨?_, rfl⟩
      rw [hs]
      exact .used hr (huses _ _ hsends) (by rw [hreply]; rfl) rfl hconnection hnext

theorem moves_read (control : UInt32) (buffer : Bytes)
    (h : Kept c.device c.session w.records) : Moves c w (c.read control buffer w) := by
  have hexchange := moves_exchange buffer (encode_readRequest · control buffer.length)
    (fun unit t ht => Or.inl ⟨control, buffer.length, ht⟩) h
  exact ⟨hexchange.move, hexchange.same⟩

theorem moves_write (control : UInt32) (data : Bytes)
    (h : Kept c.device c.session w.records) : Moves c w (c.write control data w) := by
  by_cases hlong : maxPayload < data.length
  · rw [write_of_lt hlong]
    exact .of_aside _ c w
  · rw [write_of_le hlong]
    have hexchange := moves_exchange [] (encode_writeRequest · control hlong)
      (fun unit t ht => Or.inr ⟨control, data, ht⟩) h
    exact ⟨hexchange.move, hexchange.same⟩

/-- Disconnecting sends one request on the connection. -/
theorem records_disconnect {s : Session} {r : Record} (hs : c.session = some s)
    (hr : w.records[s.link.connection]? = some r) : ∃ t, t.Sends (closeRequest s.unit) ∧
      (c.disconnect w).1 = { c with session := none } ∧
      (c.disconnect w).2.records = w.records.set s.link.connection (r.add t) := by
  obtain ⟨data, hdata⟩ := encode_closeRequest s.unit
  rw [disconnect_eq hs hdata, Watched.turn_eq hr]
  exact ⟨(turn r.number data w.net).1, hdata, rfl, Watched.records_hangUp _ _⟩

theorem moves_disconnect (h : Kept c.device c.session w.records) :
    Moves c w ((), c.disconnect w) := by
  cases hs : c.session with
  | none =>
    rw [disconnect_of_closed hs]
    exact .of_aside _ c w
  | some s =>
    obtain ⟨r, hr, -, -⟩ := h.live s hs
    obtain ⟨t, hsends, hclient, hrecords⟩ := records_disconnect hs hr
    constructor
    · simp only [hs, hclient, hrecords]
      exact .ended hr (Or.inr hsends)
    · simp only [hclient]

/-- Connecting without a session, once a connection is made and the name can be sent. -/
theorem moves_connect_of_dialed {number : Nat} {net : ν} {data : Bytes} (hs : c.session = none)
    (hdial : Network.dial c.endpoint.host c.endpoint.port w.net = (.ok number, net))
    (hdata : (openRequest c.device).encode = .ok data) : Moves c w (c.connect w) := by
  have hnew : (w.records ++ [⟨number, []⟩])[w.records.length]? = some ⟨number, []⟩ := by simp
  rw [connect_eq hs (Watched.dial_of_ok hdial) hdata, Watched.turn_eq (w := ⟨net, _⟩) hnew]
  have hsends : Turn.Sends (openRequest c.device) (turn number data net).1 := hdata
  have hconnection := Link.connection_conclude c.timeoutMs (List.replicate kindLength 0)
    (turn number data net).1 ⟨w.records.length, [], false⟩
  have hconclude := (Link.Follows.new w.records.length).conclude c.timeoutMs
    (List.replicate kindLength 0) (turn number data net).1
  dsimp only
  generalize (turn number data net).1 = t at hsends hconnection hconclude ⊢
  have hset : (w.records ++ [(⟨number, []⟩ : Record)]).set w.records.length ⟨number, [t]⟩ =
      w.records ++ [⟨number, [t]⟩] := by
    simp
  cases hc : Link.conclude c.timeoutMs (List.replicate kindLength 0) t
    ⟨w.records.length, [], false⟩ with | mk result link =>
  rw [hc] at hconnection hconclude
  simp only [List.nil_append, List.length_nil] at hconclude
  cases hreply : reply? [t] 0 with
  | none =>
    rw [hreply] at hconclude
    obtain ⟨e, rfl⟩ : ∃ e, result = .error e := hconclude
    refine ⟨?_, rfl⟩
    simp only [Watched.records_hangUp, hs, Record.add, List.nil_append, hset]
    exact .refused hsends
  | some reply =>
    rw [hreply] at hconclude
    obtain ⟨rfl, hnext⟩ : result = .ok (reply.receivedIn (List.replicate kindLength 0)) ∧
      link.Follows [t] := hconclude
    dsimp only
    rw [verdict_receivedIn]
    by_cases hstatus : reply.status = .success
    · rw [if_pos hstatus]
      refine ⟨?_, rfl⟩
      simp only [hs, Record.add, List.nil_append, hset]
      exact .opened hsends hreply hstatus rfl hconnection hnext
    · rw [if_neg hstatus]
      refine ⟨?_, rfl⟩
      simp only [Watched.records_hangUp, hs, Record.add, List.nil_append, hset]
      exact .refused hsends

/-- Connecting is a move: a session that is there stays, and otherwise a connection is dialled and
the opening said on it. -/
theorem moves_connect : Moves c w (c.connect w) := by
  cases hs : c.session with
  | some s =>
    rw [connect_of_open hs]
    exact .of_aside _ c w
  | none =>
    cases hdial : Network.dial c.endpoint.host c.endpoint.port w.net with | mk dialed net =>
    cases dialed with
    | error e =>
      rw [connect_of_unreached hs (Watched.dial_of_error hdial)]
      exact ⟨.aside, rfl⟩
    | ok number =>
      cases hencode : (openRequest c.device).encode with
      | ok data => exact moves_connect_of_dialed hs hdial hencode
      | error e =>
        rw [connect_of_unencodable hs (Watched.dial_of_ok hdial) hencode]
        refine ⟨?_, rfl⟩
        rw [hs]
        simp only [Watched.records_hangUp]
        exact .untold

/-- Every operation is a move. -/
theorem perform_moves (op : Operation) (h : Kept c.device c.session w.records) :
    Moves c w (c.perform op w) := by
  cases op with
  | connect => exact ⟨moves_connect.move, moves_connect.same⟩
  | disconnect => exact ⟨(moves_disconnect h).move, (moves_disconnect h).same⟩
  | read control buffer => exact ⟨(moves_read control buffer h).move, (moves_read control buffer h).same⟩
  | write control data => exact ⟨(moves_write control data h).move, (moves_write control data h).same⟩

/-! ## Runs -/

/-- A client in use keeps its grammar on every connection, and changes nothing of itself but its
session. -/
theorem performAll_keeps (ops : List Operation) (h : Kept c.device c.session w.records) :
    (c.performAll ops w).2.1 = { c with session := (c.performAll ops w).2.1.session } ∧
      Kept c.device (c.performAll ops w).2.1.session (c.performAll ops w).2.2.records := by
  induction ops generalizing c w with
  | nil => exact ⟨rfl, h⟩
  | cons op ops ih =>
    have hop := perform_moves op h
    have hkept := h.move hop.move
    have hdevice : (c.perform op w).2.1.device = c.device := by rw [hop.same]
    obtain ⟨hsame, hrest⟩ := ih (hdevice ▸ hkept)
    rw [hdevice] at hrest
    -- the client after the first operation is the same but for the session
    have hfields : ∀ session, { (c.perform op w).2.1 with session } = { c with session } := by
      intro session
      rw [hop.same]
    exact ⟨hsame.trans (hfields _), hrest⟩

/-- A connection that is not the session's stays as it is for ever. -/
theorem performAll_abandoned (ops : List Operation) {k : Nat} (hk : k < w.records.length)
    (hne : connection? c.session ≠ some k) (h : Kept c.device c.session w.records) :
    (c.performAll ops w).2.2.records[k]? = w.records[k]? ∧
      connection? (c.performAll ops w).2.1.session ≠ some k := by
  induction ops generalizing c w with
  | nil => exact ⟨rfl, hne⟩
  | cons op ops ih =>
    have hop := perform_moves op h
    have hkept := h.move hop.move
    have hdevice : (c.perform op w).2.1.device = c.device := by rw [hop.same]
    obtain ⟨hsame, hother⟩ := hop.move.abandoned hk hne
    have hk' : k < (c.perform op w).2.2.records.length := by
      have hlength := hop.move.length_le
      omega
    obtain ⟨hrest, hend⟩ := ih hk' hother (hdevice ▸ hkept)
    exact ⟨hrest.trans hsame, hend⟩

omit [Network ν] in
/-- Before its first session a client has said nothing, so everything holds of what it has said. -/
theorem performAll_start (c : Client) (hs : c.session = none) (net : ν) :
    Kept c.device c.session (Watched.start net).records := by
  rw [hs]
  exact .start c.device

/-- Without a session, only connecting does anything. -/
theorem perform_of_closed {op : Operation} (hs : c.session = none) (hop : op ≠ .connect) :
    (c.perform op w).2 = (c, w) := by
  cases op with
  | connect => exact absurd rfl hop
  | disconnect => exact disconnect_of_closed hs
  | read control buffer => exact congrArg Prod.snd (read_of_closed hs control buffer)
  | write control data =>
    by_cases hlong : maxPayload < data.length
    · exact congrArg Prod.snd (write_of_lt hlong control)
    · exact congrArg Prod.snd (write_of_closed hs hlong control)

/-- An operation dials at most one connection, and only an opening without a session does. -/
theorem length_perform (op : Operation) (h : Kept c.device c.session w.records) :
    (c.perform op w).2.2.records.length = w.records.length ∨ op = .connect ∧ c.session = none ∧
      (c.perform op w).2.2.records.length = w.records.length + 1 := by
  rcases (perform_moves op h).move.length_le with hlength | ⟨hs, hlength⟩
  · exact Or.inl hlength
  · by_cases hconnect : op = .connect
    · exact Or.inr ⟨hconnect, hs, hlength⟩
    · rw [perform_of_closed hs hconnect]
      exact Or.inl rfl

/-! ## The end of a session -/

/-- What an operation came to ends the session: a closing, an opening that failed, or an exchange
that broke. -/
def Over (op : Operation) (result : Result) : Prop :=
  match op with
  | .connect => result.error?.isSome
  | .disconnect => True
  | _ => result.error?.any breaks

/-- An exchange that broke, and no other, loses the session. -/
theorem session_exchange_eq_none_iff {request : UInt8 → Message} (buffer : Bytes)
    (hs : c.session.isSome) (hm : ∀ unit, ∃ data, (request unit).encode = .ok data) :
    (c.exchange request buffer w).2.1.session = none ↔
      (failure? (c.exchange request buffer w).1).any breaks := by
  obtain ⟨s, hs⟩ := Option.isSome_iff_exists.1 hs
  obtain ⟨data, hdata⟩ := hm s.unit
  rw [exchange_eq hs hdata]
  have hsize := fun e => Link.conclude_ne_payloadTooLarge c.timeoutMs buffer
    (turn s.link.connection data w).1 s.link (e := e)
  cases hc : s.link.conclude c.timeoutMs buffer (turn s.link.connection data w).1 with
  | mk result link =>
  rw [hc] at hsize
  cases result with
  | error e =>
    have hbreaks : breaks (.protocol e) = true := by
      have hne := hsize e rfl
      cases e with
      | payloadTooLarge n => exact absurd rfl (hne n)
      | _ => rfl
    simp [failure?, hbreaks]
  | ok reply =>
    dsimp only
    unfold verdict
    split <;> simp [failure?, breaks]

/-- An opening fails exactly if there is no session then. -/
theorem session_connect_eq_none_iff :
    (c.connect w).2.1.session = none ↔ (failure? (c.connect w).1).isSome := by
  cases hs : c.session with
  | some s =>
    rw [connect_of_open hs]
    simp [hs, failure?]
  | none =>
    cases hdial : Network.dial c.endpoint.host c.endpoint.port w with | mk dialed w₁ =>
    cases dialed with
    | error e =>
      rw [connect_of_unreached hs hdial]
      simp [hs, failure?]
    | ok k =>
      cases hencode : (openRequest c.device).encode with
      | error e =>
        rw [connect_of_unencodable hs hdial hencode]
        simp [hs, failure?]
      | ok data =>
        rw [connect_eq hs hdial hencode]
        cases Link.conclude c.timeoutMs (List.replicate kindLength 0) (turn k data w₁).1
          ⟨k, [], false⟩ with | mk result link =>
        cases result with
        | error e => simp [hs, failure?]
        | ok reply =>
          dsimp only
          cases verdict reply <;> simp [hs, failure?]

/-- An operation loses the session exactly if it is over then. -/
theorem perform_over (op : Operation) (hs : op = .connect ∨ c.session.isSome) :
    (c.perform op w).2.1.session = none ↔ Over op (c.perform op w).1 := by
  cases op with
  | connect => exact session_connect_eq_none_iff
  | disconnect => exact ⟨fun _ => trivial, fun _ => session_disconnect c w⟩
  | read control buffer =>
    have hlost := session_exchange_eq_none_iff (w := w) buffer (hs.resolve_left (by simp))
      (encode_readRequest · control buffer.length)
    rw [← failure?_map (·.kept)] at hlost
    exact hlost
  | write control data =>
    have hsome : c.session.isSome := hs.resolve_left (by simp)
    have hperform : c.perform (.write control data) w =
        (.wrote (c.write control data w).1, (c.write control data w).2) := rfl
    rw [hperform]
    by_cases hlong : maxPayload < data.length
    · -- nothing was sent, and the session goes on
      rw [write_of_lt hlong]
      obtain ⟨s, hs⟩ := Option.isSome_iff_exists.1 hsome
      simp [hs, Over, Result.error?, failure?, breaks]
    · have hlost := session_exchange_eq_none_iff (w := w) [] hsome
        (encode_writeRequest · control hlong)
      rw [← failure?_map fun _ => data.length] at hlost
      rw [write_of_le hlong]
      exact hlost

/-- What a client says, whatever it is used for and whatever its peers do. Watching the network
changes nothing for it. On each connection, before and after the client is dropped, it has a
conversation: it opens the device, and having been given a unit it reads and writes that unit, and
at last perhaps closes it, each time after the reply to the request before. A connection is made by
connecting without a session only; a session is lost as soon as it is over, and then nothing is sent
on its connection any more. A client that is dropped closes its unit with one last request, and
sends nothing if it has none open. -/
theorem conversations (endpoint : Options.Endpoint) (device : String) (timeoutMs : Nat)
    (ops : List Operation) (net : ν) :
    let fresh : Client := { endpoint, device, timeoutMs }
    let (results, c, w) := fresh.performAll ops (Watched.start net)
    (∃ c₀, fresh.performAll ops net = (results, c₀, w.net) ∧ c₀.drop w.net = (c.drop w).net) ∧
    (∀ r ∈ w.records, Conversation device r.turns) ∧
    (∀ r ∈ (c.drop w).records, Conversation device r.turns) ∧
    (∀ op,
      let (result, c', w') := c.perform op w
      (w'.records.length = w.records.length ∨ op = .connect ∧ c.session = none ∧
        w'.records.length = w.records.length + 1) ∧
      (op = .connect ∨ c.session.isSome → (c'.session = none ↔ Over op result))) ∧
    (∀ k < w.records.length, connection? c.session ≠ some k → ∀ later,
      let (_, c', w') := c.performAll later w
      w'.records[k]? = w.records[k]? ∧ (c'.drop w').records[k]? = w.records[k]?) ∧
    match c.session with
    | none => c.drop w = w
    | some s => ∃ r t, w.records[s.link.connection]? = some r ∧ t.Sends (closeRequest s.unit) ∧
      (c.drop w).records = w.records.set s.link.connection (r.add t) := by
  intro fresh
  have hfresh := performAll_start fresh rfl net
  have halike := performAll_alike ops (w := Watched.start net) (Mirrors.closed (c := fresh) rfl)
  obtain ⟨hsame, hkept⟩ := performAll_keeps ops hfresh
  cases hrun : fresh.performAll ops (Watched.start net) with | mk results found =>
  rcases found with ⟨c, w⟩
  rw [hrun] at halike hsame hkept
  dsimp only at hsame hkept
  have hdevice : c.device = device := by rw [hsame]
  have hlive : Kept c.device c.session w.records := hdevice ▸ hkept
  have hdrop := moves_disconnect hlive
  refine ⟨?_, hkept.said, ?_, ?_, ?_, ?_⟩
  · refine ⟨(fresh.performAll ops net).2.1, Prod.ext halike.result (Prod.ext rfl halike.net), ?_⟩
    have hdropped := (disconnect_alike halike.client).net
    exact hdropped
  · have hdropped := hlive.move hdrop.move
    rw [hdevice] at hdropped
    exact hdropped.said
  · intro op
    exact ⟨length_perform op hlive, perform_over op⟩
  · intro k hk hne later
    obtain ⟨hsame', hne'⟩ := performAll_abandoned later hk hne hlive
    obtain ⟨hlater, hkept'⟩ := performAll_keeps later hlive
    have hdevice' : (c.performAll later w).2.1.device = c.device := by rw [hlater]
    rw [← hdevice'] at hkept'
    have hk' : k < (c.performAll later w).2.2.records.length := by
      rw [List.getElem?_eq_getElem hk] at hsame'
      exact (List.getElem?_eq_some_iff.1 hsame').1
    obtain ⟨hdropped, -⟩ := (moves_disconnect hkept').move.abandoned hk' hne'
    exact ⟨hsame', hdropped.trans hsame'⟩
  · cases hs : c.session with
    | none => exact congrArg Prod.snd (disconnect_of_closed hs)
    | some s =>
      obtain ⟨r, hr, -, -⟩ := hlive.live s hs
      obtain ⟨t, hsends, -, hrecords⟩ := records_disconnect hs hr
      exact ⟨r, t, hr, hsends, hrecords⟩

end Run

end Client

end RemoteDevice
