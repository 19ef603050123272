import RemoteDevice.Client
import RemoteDevice.Proofs.Net.Record

/-!
# Proofs.Client.Operations — a client in use

A client is used by any sequence of the four operations. What an operation that sends something
comes to depends on the one turn that it takes on its connection; and a client whose network is
watched does the same as without that.
-/

namespace RemoteDevice

open Net Wire

namespace Client

/-! ## Operations -/

/-- What is asked of a client. -/
inductive Operation where
  | connect
  | disconnect
  | read (control : UInt32) (buffer : Bytes)
  | write (control : UInt32) (data : Bytes)
deriving DecidableEq, Repr

/-- What an operation comes to. -/
inductive Result where
  | connected (result : Except Transport.Error Unit)
  | disconnected
  | read (result : Except Transport.Error Bytes)
  | wrote (result : Except Transport.Error Nat)

/-- The error of a call that failed. -/
def failure? {α : Type} : Except Transport.Error α → Option Transport.Error
  | .error e => some e
  | .ok _ => none

theorem failure?_map {α β : Type} (f : α → β) (result : Except Transport.Error α) :
    failure? (result.map f) = failure? result := by
  cases result <;> rfl

/-- The error that is reported. -/
def Result.error? : Result → Option Transport.Error
  | .connected result => failure? result
  | .disconnected => none
  | .read result => failure? result
  | .wrote result => failure? result

/-- The error of an exchange that broke, so that no whole reply came. -/
def breaks : Transport.Error → Bool
  | .protocol (.payloadTooLarge _) => false
  | .protocol _ => true
  | _ => false

section Perform

variable {ν : Type} [Network ν]

/-- Performs an operation. -/
def perform (op : Operation) (c : Client) (net : ν) : Result × Client × ν :=
  match op with
  | .connect =>
    let (result, c, net) := c.connect net
    (.connected result, c, net)
  | .disconnect => (.disconnected, c.disconnect net)
  | .read control buffer =>
    let (result, c, net) := c.read control buffer net
    (.read result, c, net)
  | .write control data =>
    let (result, c, net) := c.write control data net
    (.wrote result, c, net)

/-- Performs operations one after another. -/
def performAll : List Operation → Client → ν → List Result × Client × ν
  | [], c, net => ([], c, net)
  | op :: ops, c, net =>
    let (result, c, net) := c.perform op net
    let (results, c, net) := performAll ops c net
    (result :: results, c, net)

end Perform

/-! ## The forms of requests -/

/-- An opening fits into a message if the name leaves room for the byte that ends it. -/
theorem encode_openRequest {device : String} (h : (Text.encode device).length < maxPayload) :
    ∃ data, (openRequest device).encode = .ok data := by
  refine ⟨_, Message.encode_eq_ok_iff.2 ⟨?_, rfl⟩⟩
  simp only [openRequest, Message.request, List.length_append, List.length_singleton]
  omega

/-- A closing always fits into a message. -/
theorem encode_closeRequest (unit : UInt8) : ∃ data, (closeRequest unit).encode = .ok data :=
  ⟨_, Message.encode_eq_ok_iff.2 ⟨Nat.zero_le _, rfl⟩⟩

/-- A reading always fits into a message, whatever it asks for: it sends the length alone. -/
theorem encode_readRequest (unit : UInt8) (control : UInt32) (length : Nat) :
    ∃ data, (readRequest unit control length).encode = .ok data := by
  refine ⟨_, Message.encode_eq_ok_iff.2 ⟨?_, rfl⟩⟩
  have hlength : (readRequest unit control length).payload.length = 4 := rfl
  rw [hlength]
  decide

/-- A writing fits into a message as long as its data is no longer than a payload may be. -/
theorem encode_writeRequest (unit : UInt8) (control : UInt32) {data : Bytes}
    (h : ¬ maxPayload < data.length) : ∃ bytes, (writeRequest unit control data).encode = .ok bytes :=
  ⟨_, Message.encode_eq_ok_iff.2 ⟨Nat.le_of_not_lt h, rfl⟩⟩

/-! ## Exchanges -/

section Exchange

variable {ν : Type} [Network ν] {c : Client} {net : ν}

/-- What a reply says to the client. -/
def verdict (reply : Received) : Except Transport.Error Received :=
  match reply.header.status with
  | .success => .ok reply
  | status => .error (.remote status)

/-- A reply that was received is judged by its status. -/
theorem verdict_receivedIn (m : Message) (buffer : Bytes) : verdict (m.receivedIn buffer) =
    if m.status = .success then .ok (m.receivedIn buffer) else .error (.remote m.status) := by
  have hstatus : (m.receivedIn buffer).header.status = m.status := rfl
  unfold verdict
  rw [hstatus]
  cases m.status <;> simp

/-- An exchange of an open session is one turn on its connection. -/
theorem exchange_eq {s : Session} {request : UInt8 → Message} {data : Bytes}
    (hs : c.session = some s) (hm : (request s.unit).encode = .ok data) (buffer : Bytes) :
    c.exchange request buffer net =
      match s.link.conclude c.timeoutMs buffer (turn s.link.connection data net).1 with
      | (.error e, _) => (.error (.protocol e), { c with session := none },
          Network.hangUp s.link.connection (turn s.link.connection data net).2)
      | (.ok reply, link) => (verdict reply, { c with session := some { s with link } },
          (turn s.link.connection data net).2) := by
  have hconnection := Link.connection_conclude c.timeoutMs buffer
    (turn s.link.connection data net).1 s.link
  unfold exchange verdict
  rw [hs]
  dsimp only
  rw [Link.request_eq hm]
  cases hc : s.link.conclude c.timeoutMs buffer (turn s.link.connection data net).1 with
  | mk result link =>
  rw [hc] at hconnection
  dsimp only at hconnection
  cases result with
  | error e =>
    dsimp only
    rw [hconnection]
  | ok reply =>
    dsimp only
    cases reply.header.status <;> rfl

/-- Without a session nothing is sent and the client stays as it is. -/
theorem exchange_of_closed (hs : c.session = none) (request : UInt8 → Message) (buffer : Bytes) :
    c.exchange request buffer net = (.error .notOpen, c, net) := by
  unfold exchange
  rw [hs]

/-- A reading is one exchange, of which the client keeps what was received. -/
theorem read_eq (control : UInt32) (buffer : Bytes) : c.read control buffer net =
    ((c.exchange (readRequest · control buffer.length) buffer net).1.map Received.kept,
      (c.exchange (readRequest · control buffer.length) buffer net).2) :=
  rfl

theorem read_of_closed (hs : c.session = none) (control : UInt32) (buffer : Bytes) :
    c.read control buffer net = (.error .notOpen, c, net) := by
  rw [read_eq, exchange_of_closed hs]
  rfl

/-- Too many bytes are refused before anything else. -/
theorem write_of_lt {data : Bytes} (hlong : maxPayload < data.length) (control : UInt32) :
    c.write control data net = (.error (.protocol (.payloadTooLarge data.length)), c, net) := by
  unfold write
  rw [if_pos hlong]

/-- A writing that fits is one exchange, and counts all of its data as written. -/
theorem write_of_le {data : Bytes} (hlong : ¬ maxPayload < data.length) (control : UInt32) :
    c.write control data net =
      ((c.exchange (writeRequest · control data) [] net).1.map fun _ => data.length,
        (c.exchange (writeRequest · control data) [] net).2) := by
  unfold write
  rw [if_neg hlong]

theorem write_of_closed {data : Bytes} (hs : c.session = none)
    (hlong : ¬ maxPayload < data.length) (control : UInt32) :
    c.write control data net = (.error .notOpen, c, net) := by
  rw [write_of_le hlong, exchange_of_closed hs]
  rfl

/-- A client without a session has nothing to close. -/
theorem disconnect_of_closed (hs : c.session = none) : c.disconnect net = (c, net) := by
  unfold disconnect
  rw [hs]

/-- Connecting is one turn on a new connection. -/
theorem connect_eq {k : Nat} {dialed : ν} {data : Bytes} (hs : c.session = none)
    (hdial : Network.dial c.endpoint.host c.endpoint.port net = (.ok k, dialed))
    (hm : (openRequest c.device).encode = .ok data) : c.connect net =
      match Link.conclude c.timeoutMs (List.replicate kindLength 0) (turn k data dialed).1
        { connection := k } with
      | (.error e, _) => (.error (.protocol e), c, Network.hangUp k (turn k data dialed).2)
      | (.ok reply, link) =>
        match verdict reply with
        | .ok _ =>
          let session : Session := ⟨link, reply.header.unit, zeroTerminated reply.kept⟩
          (.ok (), { c with session := some session }, (turn k data dialed).2)
        | .error e => (.error e, c, Network.hangUp k (turn k data dialed).2) := by
  have hconnection := Link.connection_conclude c.timeoutMs (List.replicate kindLength 0)
    (turn k data dialed).1 { connection := k }
  unfold connect verdict
  rw [hs, hdial]
  dsimp only
  rw [Link.request_eq hm]
  cases hc : Link.conclude c.timeoutMs (List.replicate kindLength 0) (turn k data dialed).1
    { connection := k } with | mk result link =>
  rw [hc] at hconnection
  dsimp only at hconnection
  cases result with
  | error e =>
    dsimp only
    rw [hconnection]
  | ok reply =>
    dsimp only
    rw [hconnection]
    cases reply.header.status <;> rfl

/-- A name that does not fit into a message is not sent. -/
theorem connect_of_unencodable {k : Nat} {dialed : ν} {e : Wire.Error} (hs : c.session = none)
    (hdial : Network.dial c.endpoint.host c.endpoint.port net = (.ok k, dialed))
    (hm : (openRequest c.device).encode = .error e) :
    c.connect net = (.error (.protocol e), c, Network.hangUp k dialed) := by
  unfold connect
  rw [hs, hdial]
  dsimp only
  rw [Link.request_of_error hm]

/-- An endpoint that cannot be reached leaves the client without a session. -/
theorem connect_of_unreached {e : IoError} {dialed : ν} (hs : c.session = none)
    (hdial : Network.dial c.endpoint.host c.endpoint.port net = (.error e, dialed)) :
    c.connect net = (.error (.io e), c, dialed) := by
  unfold connect
  rw [hs, hdial]

/-- A client that has a session keeps it, and does not dial again. -/
theorem connect_of_open {s : Session} (hs : c.session = some s) :
    c.connect net = (.ok (), c, net) := by
  unfold connect
  rw [hs]

/-- Disconnecting is one turn on the connection, whatever it comes to. -/
theorem disconnect_eq {s : Session} {data : Bytes} (hs : c.session = some s)
    (hm : (closeRequest s.unit).encode = .ok data) : c.disconnect net =
      ({ c with session := none },
        Network.hangUp s.link.connection (turn s.link.connection data net).2) := by
  have hconnection := Link.connection_conclude c.timeoutMs []
    (turn s.link.connection data net).1 s.link
  unfold disconnect
  rw [hs]
  dsimp only
  rw [Link.request_eq hm]
  dsimp only
  rw [hconnection]

/-- After disconnecting there is no session, whatever the closing came to. -/
theorem session_disconnect (c : Client) (net : ν) : (c.disconnect net).1.session = none := by
  cases hs : c.session with
  | none => rw [disconnect_of_closed hs, hs]
  | some s =>
    obtain ⟨data, hdata⟩ := encode_closeRequest s.unit
    rw [disconnect_eq hs hdata]

end Exchange

/-! ## What lasts -/

section Lasting

variable {ν : Type} [Network ν] {P : ν → Prop} {net : ν} (hP : Lasting P) (h : P net) (c : Client)
include hP h

/-- What lasts on a network lasts through an exchange. -/
theorem lasting_exchange (request : UInt8 → Message) (buffer : Bytes) :
    P (c.exchange request buffer net).2.2 := by
  unfold exchange
  cases c.session with
  | none => exact h
  | some s =>
    have hrequest := hP.request h (request s.unit) c.timeoutMs buffer s.link
    dsimp only
    split
    · next hr =>
      rw [hr] at hrequest
      exact hP.hangUp _ hrequest
    · next hr =>
      rw [hr] at hrequest
      split <;> exact hrequest

/-- What lasts on a network lasts through an opening, failed or not. -/
theorem lasting_connect : P (c.connect net).2.2 := by
  unfold connect
  cases c.session with
  | some s => exact h
  | none =>
    have hdial := hP.dial c.endpoint.host c.endpoint.port h
    dsimp only
    split
    · next hd =>
      rw [hd] at hdial
      exact hdial
    · next connection dialed hd =>
      rw [hd] at hdial
      have hrequest := hP.request hdial (openRequest c.device) c.timeoutMs
        (List.replicate kindLength 0) { connection }
      split
      · next hr =>
        rw [hr] at hrequest
        exact hP.hangUp _ hrequest
      · next hr =>
        rw [hr] at hrequest
        split
        · exact hrequest
        · exact hP.hangUp _ hrequest

/-- What lasts on a network lasts through a closing. -/
theorem lasting_disconnect : P (c.disconnect net).2 := by
  unfold disconnect
  cases c.session with
  | none => exact h
  | some s => exact hP.hangUp _ (hP.request h (closeRequest s.unit) c.timeoutMs [] s.link)

theorem lasting_read (control : UInt32) (buffer : Bytes) : P (c.read control buffer net).2.2 := by
  rw [read_eq]
  exact lasting_exchange hP h c _ buffer

theorem lasting_write (control : UInt32) (data : Bytes) : P (c.write control data net).2.2 := by
  by_cases hlong : maxPayload < data.length
  · rw [write_of_lt hlong]
    exact h
  · rw [write_of_le hlong]
    exact lasting_exchange hP h c _ []

end Lasting

/-! ## Clients on a watched network -/

section Watched

variable {ν : Type} [Network ν] {w : Watched ν} {c c₀ : Client}

/-- The session over a connection of another number. -/
def Session.over (k : Nat) (s : Session) : Session :=
  { s with link := { s.link with connection := k } }

/-- A client on a watched network, and the same client on the network itself: they differ in the
number by which they know their connection. -/
inductive Mirrors (w : Watched ν) : Client → Client → Prop
  | closed {c : Client} : c.session = none → Mirrors w c c
  | live {c : Client} {s : Session} {r : Record} :
    c.session = some s → w.records[s.link.connection]? = some r →
    Mirrors w c { c with session := some (s.over r.number) }

/-- What was done on a watched network, and the same on the network itself. -/
structure Alike {α : Type} (watched : α × Client × Watched ν) (plain : α × Client × ν) : Prop where
  result : plain.1 = watched.1
  net : plain.2.2 = watched.2.2.net
  client : Mirrors watched.2.2 watched.2.1 plain.2.1

omit [Network ν] in
theorem Alike.map {α β : Type} {watched : α × Client × Watched ν} {plain : α × Client × ν}
    (f : α → β) (h : Alike watched plain) : Alike (f watched.1, watched.2) (f plain.1, plain.2) :=
  ⟨congrArg f h.result, h.net, h.client⟩

/-- An exchange comes to the same on a network that is watched and on that network itself. -/
theorem exchange_alike (request : UInt8 → Message) (hm : ∀ unit, ∃ data,
    (request unit).encode = .ok data) (buffer : Bytes) (h : Mirrors w c c₀) :
    Alike (c.exchange request buffer w) (c₀.exchange request buffer w.net) := by
  cases h with
  | closed hs =>
    rw [exchange_of_closed hs, exchange_of_closed hs]
    exact ⟨rfl, rfl, .closed hs⟩
  | @live s r hs hr =>
    obtain ⟨data, hdata⟩ := hm s.unit
    have hk : s.link.connection < w.records.length := (List.getElem?_eq_some_iff.1 hr).1
    have hrenamed : Link.conclude c.timeoutMs buffer (turn r.number data w.net).1
        (s.over r.number).link = _ := Link.conclude_renamed _ _ _ s.link r.number
    rw [exchange_eq hs hdata, exchange_eq (s := s.over r.number) rfl hdata, Watched.turn_eq hr]
    dsimp only
    rw [show (s.over r.number).link.connection = r.number from rfl, hrenamed]
    have hconnection := Link.connection_conclude c.timeoutMs buffer
      (turn r.number data w.net).1 s.link
    cases hc : s.link.conclude c.timeoutMs buffer (turn r.number data w.net).1 with
    | mk result link =>
    rw [hc] at hconnection
    dsimp only at hconnection
    -- the record of the connection has one turn more and its old number
    have hadded : (w.records.set s.link.connection (r.add (turn r.number data w.net).1))[
        s.link.connection]? = some (r.add (turn r.number data w.net).1) := by
      simp [hk]
    cases result with
    | error e =>
      have hhung := Watched.net_hangUp (w := ⟨(turn r.number data w.net).2, _⟩) hadded
      exact ⟨rfl, hhung.symm, .closed rfl⟩
    | ok reply =>
      refine ⟨rfl, rfl, .live (s := { s with link }) (r := r.add (turn r.number data w.net).1) rfl ?_⟩
      rw [← hconnection] at hadded ⊢
      exact hadded

theorem read_alike (control : UInt32) (buffer : Bytes) (h : Mirrors w c c₀) :
    Alike (c.read control buffer w) (c₀.read control buffer w.net) := by
  have hexchange := exchange_alike (readRequest · control buffer.length)
    (encode_readRequest · control buffer.length) buffer h
  rw [read_eq, read_eq]
  exact hexchange.map fun result => result.map Received.kept

theorem write_alike (control : UInt32) (data : Bytes) (h : Mirrors w c c₀) :
    Alike (c.write control data w) (c₀.write control data w.net) := by
  by_cases hlong : maxPayload < data.length
  · rw [write_of_lt hlong, write_of_lt hlong]
    exact ⟨rfl, rfl, h⟩
  · rw [write_of_le hlong, write_of_le hlong]
    have hexchange := exchange_alike (writeRequest · control data)
      (encode_writeRequest · control hlong) [] h
    exact hexchange.map fun result => result.map fun _ => data.length

/-- A closing comes to the same whether or not the network is watched. -/
theorem disconnect_alike (h : Mirrors w c c₀) :
    Alike ((), c.disconnect w) ((), c₀.disconnect w.net) := by
  cases h with
  | closed hs =>
    rw [disconnect_of_closed hs, disconnect_of_closed hs]
    exact ⟨rfl, rfl, .closed hs⟩
  | @live s r hs hr =>
    obtain ⟨data, hdata⟩ := encode_closeRequest s.unit
    have hk : s.link.connection < w.records.length := (List.getElem?_eq_some_iff.1 hr).1
    rw [disconnect_eq hs hdata, disconnect_eq (s := s.over r.number) rfl hdata, Watched.turn_eq hr]
    have hadded : (w.records.set s.link.connection (r.add (turn r.number data w.net).1))[
        s.link.connection]? = some (r.add (turn r.number data w.net).1) := by
      simp [hk]
    have hhung := Watched.net_hangUp (w := ⟨(turn r.number data w.net).2, _⟩) hadded
    exact ⟨rfl, hhung.symm, .closed rfl⟩

/-- An opening comes to the same whether or not the network is watched. -/
theorem connect_alike (h : Mirrors w c c₀) : Alike (c.connect w) (c₀.connect w.net) := by
  cases h with
  | @live s r hs hr =>
    rw [connect_of_open hs, connect_of_open (s := s.over r.number) rfl]
    exact ⟨rfl, rfl, .live hs hr⟩
  | closed hs =>
    cases hdial : Network.dial c.endpoint.host c.endpoint.port w.net with | mk dialed net =>
    cases dialed with
    | error e =>
      rw [connect_of_unreached hs hdial, connect_of_unreached hs (Watched.dial_of_error hdial)]
      exact ⟨rfl, rfl, .closed hs⟩
    | ok number =>
      have hwatched := Watched.dial_of_ok hdial
      have hnew : (w.records ++ [⟨number, []⟩])[w.records.length]? = some ⟨number, []⟩ := by simp
      cases hencode : (openRequest c.device).encode with
      | error e =>
        rw [connect_of_unencodable hs hdial hencode, connect_of_unencodable hs hwatched hencode]
        exact ⟨rfl, (Watched.net_hangUp (w := ⟨net, _⟩) hnew).symm, .closed hs⟩
      | ok data =>
        rw [connect_eq hs hdial hencode, connect_eq hs hwatched hencode,
          Watched.turn_eq (w := ⟨net, _⟩) hnew]
        -- both links begin alike but for the number of the connection
        have hrenamed : Link.conclude c.timeoutMs (List.replicate kindLength 0)
            (turn number data net).1 ⟨number, [], false⟩ = _ :=
          Link.conclude_renamed _ _ _ ⟨w.records.length, [], false⟩ number
        have hconnection := Link.connection_conclude c.timeoutMs (List.replicate kindLength 0)
          (turn number data net).1 { connection := w.records.length }
        rw [hrenamed]
        dsimp only
        cases hc : Link.conclude c.timeoutMs (List.replicate kindLength 0)
          (turn number data net).1 { connection := w.records.length } with | mk result link =>
        rw [hc] at hconnection
        dsimp only at hconnection
        have hadded : ((w.records ++ [(⟨number, []⟩ : Record)]).set w.records.length
            (Record.add (turn number data net).1 ⟨number, []⟩))[w.records.length]? =
            some (Record.add (turn number data net).1 ⟨number, []⟩) := by
          simp
        have hhung := Watched.net_hangUp (w := ⟨(turn number data net).2, _⟩) hadded
        cases result with
        | error e => exact ⟨rfl, hhung.symm, .closed hs⟩
        | ok reply =>
          dsimp only
          cases verdict reply with
          | error e => exact ⟨rfl, hhung.symm, .closed hs⟩
          | ok _ =>
            refine ⟨rfl, rfl, .live (s := ⟨link, reply.header.unit, zeroTerminated reply.kept⟩)
              (r := Record.add (turn number data net).1 ⟨number, []⟩) rfl ?_⟩
            rw [← hconnection] at hadded ⊢
            exact hadded

/-- Watching a network changes nothing for the client. -/
theorem perform_alike (op : Operation) (h : Mirrors w c c₀) :
    Alike (c.perform op w) (c₀.perform op w.net) := by
  cases op with
  | connect => exact (connect_alike h).map Result.connected
  | disconnect => exact (disconnect_alike h).map fun _ => Result.disconnected
  | read control buffer => exact (read_alike control buffer h).map Result.read
  | write control data => exact (write_alike control data h).map Result.wrote

/-- A client in use cannot tell a watched network from the network itself. -/
theorem performAll_alike (ops : List Operation) (h : Mirrors w c c₀) :
    Alike (c.performAll ops w) (c₀.performAll ops w.net) := by
  induction ops generalizing c c₀ w with
  | nil => exact ⟨rfl, rfl, h⟩
  | cons op ops ih =>
    have hfirst := perform_alike op h
    have hothers := ih hfirst.client
    rw [← hfirst.net] at hothers
    refine ⟨?_, hothers.net, hothers.client⟩
    have hresult := hothers.result
    simp only [performAll, hfirst.result, hresult]

end Watched

end Client

end RemoteDevice
