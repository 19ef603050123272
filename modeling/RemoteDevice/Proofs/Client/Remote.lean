import RemoteDevice.Proofs.Client.Answers
import RemoteDevice.Proofs.Server.Elsewhere
import RemoteDevice.Proofs.Server.Stream

/-!
# Proofs.Client.Remote — a device on a server, and the same device at hand

A client of a server is a transport. As long as nobody else opens the device, calls of this transport
do to the device what they would do to it directly, behind a latch that connects what is not
connected and disconnects what is: the device receives the same calls in the same order, and what
they come to is what the client is told.
-/

namespace RemoteDevice

open Net Wire Server

/-! ## Calls -/

/-- What a call comes to. -/
inductive Returned where
  | connected (result : Outcome Unit)
  | disconnected (result : Outcome Unit)
  | read (result : Outcome Reading)
  | wrote (result : Outcome Nat)

/-- Makes a call. -/
def Transport.perform {τ : Type} [Transport τ] (call : Call) (t : τ) : Returned × τ :=
  match call with
  | .connect => let (result, t) := Transport.connect t; (.connected result, t)
  | .disconnect => let (result, t) := Transport.disconnect t; (.disconnected result, t)
  | .read control length => let (result, t) := Transport.read control length t; (.read result, t)
  | .write control data => let (result, t) := Transport.write control data t; (.wrote result, t)

/-- The call is of a size that fits into a message. -/
def Server.Call.Fits : Call → Prop
  | .read _ length => length ≤ maxPayload
  | .write _ data => data.length ≤ maxPayload
  | _ => True

namespace OnNetwork

variable {ν : Type} [Network ν] {c c' : Client} {net net' : ν}

theorem connect_of {result : Except Transport.Error Unit} (h : c.connect net = (result, c', net')) :
    Transport.connect (OnNetwork.mk c net) = (.ofResult result, ⟨c', net'⟩) := by
  show OnNetwork.connect ⟨c, net⟩ = _
  simp only [OnNetwork.connect, h]

theorem disconnect_of (h : c.disconnect net = (c', net')) :
    Transport.disconnect (OnNetwork.mk c net) = (.ok (), ⟨c', net'⟩) := by
  show OnNetwork.disconnect ⟨c, net⟩ = _
  simp only [OnNetwork.disconnect, h]

theorem read_of {control : UInt32} {length : Nat} {result : Except Transport.Error Bytes}
    (h : c.read control (Client.emptyBuffer length) net = (result, c', net')) :
    Transport.read control length (OnNetwork.mk c net) =
      (.ofResult (result.map .ofData), ⟨c', net'⟩) := by
  show OnNetwork.read control length ⟨c, net⟩ = _
  simp only [OnNetwork.read, h]

theorem write_of {control : UInt32} {data : Bytes} {result : Except Transport.Error Nat}
    (h : c.write control data net = (result, c', net')) :
    Transport.write control data (OnNetwork.mk c net) = (.ofResult result, ⟨c', net'⟩) := by
  show OnNetwork.write control data ⟨c, net⟩ = _
  simp only [OnNetwork.write, h]

end OnNetwork

/-! ## Behind a latch -/

/-- What happens to a transport: it is called, or changes by itself. -/
inductive Happening (τ : Type) where
  | call (call : Call)
  | drift (change : τ → τ)

/-- A transport behind a latch, and the calls it has received, the newest first. -/
structure Latched (τ : Type) where
  transport : τ
  isOpen : Bool := false
  calls : List Call := []

namespace Latched

variable {τ : Type} [Transport τ]

/-- Connects the transport, unless it is connected. -/
def connect (l : Latched τ) : Outcome Unit × Latched τ :=
  if l.isOpen then (.ok (), l)
  else
    let (result, transport) := Transport.connect l.transport
    (result, ⟨transport, result.isOk, .connect :: l.calls⟩)

/-- Disconnects the transport, if it is connected. -/
def disconnect (l : Latched τ) : Outcome Unit × Latched τ :=
  if l.isOpen then
    let (result, transport) := Transport.disconnect l.transport
    (result, ⟨transport, false, .disconnect :: l.calls⟩)
  else (.ok (), l)

/-- Reads from the transport, if it is connected. -/
def read (control : UInt32) (length : Nat) (l : Latched τ) :
    Option (Outcome Reading) × Latched τ :=
  if l.isOpen then
    let (result, transport) := Transport.read control length l.transport
    (some result, ⟨transport, true, .read control length :: l.calls⟩)
  else (none, l)

/-- Writes to the transport, if it is connected. -/
def write (control : UInt32) (data : Bytes) (l : Latched τ) :
    Option (Outcome Nat) × Latched τ :=
  if l.isOpen then
    let (result, transport) := Transport.write control data l.transport
    (some result, ⟨transport, true, .write control data :: l.calls⟩)
  else (none, l)

section

variable {l : Latched τ} (control : UInt32)

/-- A latch that is open answers for itself: the transport is not called. -/
theorem connect_of_open (h : l.isOpen = true) : l.connect = (.ok (), l) := by
  rw [connect, if_pos h]

/-- Connecting a closed latch calls the transport, and opens the latch if that succeeds. -/
theorem connect_of_closed (h : l.isOpen = false) : l.connect =
    ((Transport.connect l.transport).1, ⟨(Transport.connect l.transport).2,
      (Transport.connect l.transport).1.isOk, .connect :: l.calls⟩) := by
  rw [connect, if_neg (ne_true_of_eq_false h)]

/-- Disconnecting an open latch calls the transport and closes the latch, whatever the transport
says. -/
theorem disconnect_of_open (h : l.isOpen = true) : l.disconnect =
    ((Transport.disconnect l.transport).1,
      ⟨(Transport.disconnect l.transport).2, false, .disconnect :: l.calls⟩) := by
  rw [disconnect, if_pos h]

theorem disconnect_of_closed (h : l.isOpen = false) : l.disconnect = (.ok (), l) := by
  rw [disconnect, if_neg (ne_true_of_eq_false h)]

/-- A reading through an open latch is the reading of the transport. -/
theorem read_of_open (length : Nat) (h : l.isOpen = true) : l.read control length =
    (some (Transport.read control length l.transport).1,
      ⟨(Transport.read control length l.transport).2, true, .read control length :: l.calls⟩) := by
  rw [read, if_pos h]

theorem read_of_closed (length : Nat) (h : l.isOpen = false) :
    l.read control length = (none, l) := by
  rw [read, if_neg (ne_true_of_eq_false h)]

/-- A writing through an open latch is the writing of the transport. -/
theorem write_of_open (data : Bytes) (h : l.isOpen = true) : l.write control data =
    (some (Transport.write control data l.transport).1,
      ⟨(Transport.write control data l.transport).2, true, .write control data :: l.calls⟩) := by
  rw [write, if_pos h]

theorem write_of_closed (data : Bytes) (h : l.isOpen = false) :
    l.write control data = (none, l) := by
  rw [write, if_neg (ne_true_of_eq_false h)]

end

end Latched

/-- An outcome as it is seen from afar: whatever went wrong, it is an I/O error of the server. -/
def Outcome.fromAfar {α : Type} : Outcome α → Outcome α
  | .ok a => .ok a
  | .error _ => .error (.error (.remote .io))

/-- What a client of the server is told when it uses what is not open, or else the outcome. -/
def Outcome.unlessClosed {α : Type} : Option (Outcome α) → Outcome α
  | some result => result.fromAfar
  | none => .error (.error .notOpen)

namespace Latched

variable {τ : Type} [Transport τ]

/-- A call of the latched transport, and what a client has to be told of it: disconnecting always
succeeds, and a writing that succeeded has taken everything. -/
def answer (call : Call) (l : Latched τ) : Returned × Latched τ :=
  match call with
  | .connect => let (result, l) := l.connect; (.connected result.fromAfar, l)
  | .disconnect => (.disconnected (.ok ()), l.disconnect.2)
  | .read control length =>
    let (result, l) := l.read control length
    (.read (.unlessClosed result), l)
  | .write control data =>
    let (result, l) := l.write control data
    (.wrote ((Outcome.unlessClosed result).map fun _ => data.length), l)

/-- One thing after another, and what the calls come to. -/
def follow : List (Happening τ) → Latched τ → List Returned × Latched τ
  | [], l => ([], l)
  | .call call :: rest, l =>
    let (result, l) := l.answer call
    let (results, l) := follow rest l
    (result :: results, l)
  | .drift change :: rest, l => follow rest { l with transport := change l.transport }

/-- A call at the end adds one answer, that of the latch as it was left. -/
theorem follow_concat_call (happenings : List (Happening τ)) (call : Call) (l : Latched τ) :
    follow (happenings ++ [.call call]) l =
      ((follow happenings l).1 ++ [((follow happenings l).2.answer call).1],
        ((follow happenings l).2.answer call).2) := by
  induction happenings generalizing l with
  | nil => rfl
  | cons first rest ih =>
    cases first with
    | call earlier => simp only [List.cons_append, follow, ih]
    | drift change => simp only [List.cons_append, follow, ih]

/-- A change at the end reaches the transport behind the latch, and answers nothing. -/
theorem follow_concat_drift (happenings : List (Happening τ)) (change : τ → τ) (l : Latched τ) :
    follow (happenings ++ [.drift change]) l =
      ((follow happenings l).1, { (follow happenings l).2 with
        transport := change (follow happenings l).2.transport }) := by
  induction happenings generalizing l with
  | nil => rfl
  | cons first rest ih =>
    cases first with
    | call earlier => simp only [List.cons_append, follow, ih]
    | drift earlier => simp only [List.cons_append, follow, ih]

end Latched

/-! ## Exchanges with the server -/

namespace Server

variable {τ : Type} [Transport τ] {s : Server τ}

/-- Transports that keep to their bounds have no reply that is too long for a message. -/
theorem Session.length_reply (hb : Transport.Bounded τ) {session session' : Session}
    {m reply : Message} {r r' : Registry τ} (hh : session.handle m r = (reply, session', r')) :
    reply.payload.length ≤ maxPayload := by
  have h := Session.length_payload_handle hb m session r
  rwa [hh] at h

/-- The bytes of one message are taken as this message. -/
theorem drain_of_encode {m : Message} {data : Bytes} (hm : m.encode = .ok data) :
    Framing.drain data = ([m], []) := by
  have hframed : Framed [] [m] (data ++ []) := .message hm .done
  rw [List.append_nil] at hframed
  exact Framing.drain_of_framed (Framing.decode?_eq_none_iff.1 rfl) hframed

/-- A request that reaches the server is handled by the session of its connection, and the reply is
all that comes back. -/
theorem turn_of_handle {k : Nat} {session session' : Session} {m reply : Message} {data : Bytes}
    {r : Registry τ} (hk : s.connections[k]? = some ⟨session, [], false⟩)
    (hm : m.encode = .ok data) (hh : session.handle m s.registry = (reply, session', r))
    (hlength : reply.payload.length ≤ maxPayload) : ∃ bytes,
      reply.encode = .ok bytes ∧ turn k data s =
        (⟨data, ⟨bytes, false⟩, none, none⟩, ⟨r, s.connections.set k ⟨session', [], false⟩⟩) := by
  obtain ⟨bytes, hbytes⟩ : ∃ bytes, reply.encode = .ok bytes :=
    ⟨_, Message.encode_eq_ok_iff.2 ⟨hlength, rfl⟩⟩
  have hdrain := drain_of_encode hm
  have hanswer : answerAll [m] session s.registry = (⟨bytes, true⟩, session', r) := by
    simp [answerAll, hh, hbytes]
  have hreceive : Network.deliver k data s =
      (⟨bytes, false⟩, (⟨r, s.connections.set k ⟨session', [], false⟩⟩ : Server τ)) := by
    show Server.receive k data s = _
    simp [Server.receive, hk, Connection.receive, hdrain, hanswer]
  refine ⟨bytes, hbytes, ?_⟩
  unfold turn
  rw [hreceive]
  rfl

/-- Such a reply is received by the link that waits for it, and nothing is left there. -/
theorem conclude_of_reply {k : Nat} {reply : Message} {data bytes : Bytes}
    (hbytes : reply.encode = .ok bytes) (timeoutMs : Nat) (buffer : Bytes) :
    Link.conclude timeoutMs buffer ⟨data, ⟨bytes, false⟩, none, none⟩ ⟨k, [], false⟩ =
      (.ok (reply.receivedIn buffer), ⟨k, [], false⟩) := by
  have hdecode := Framing.decode?_encode_append hbytes []
  rw [List.append_nil] at hdecode
  unfold Link.conclude Link.react
  dsimp only
  rw [List.nil_append, hdecode]
  rfl

end Server

namespace Client

variable {τ : Type} [Transport τ] {s : Server τ} {c : Client} {k : Nat}
  {session session' : Server.Session} {m reply : Message} {r : Registry τ}

/-- An exchange of a client whose session is at the server. -/
theorem exchange_of_handle {unit : UInt8} {kind : String} (request : UInt8 → Message) {data : Bytes}
    (hs : c.session = some ⟨⟨k, [], false⟩, unit, kind⟩)
    (hk : s.connections[k]? = some ⟨session, [], false⟩)
    (hm : (request unit).encode = .ok data)
    (hh : session.handle (request unit) s.registry = (reply, session', r))
    (hlength : reply.payload.length ≤ maxPayload) (buffer : Bytes) :
    c.exchange request buffer s = (verdict (reply.receivedIn buffer), c,
      (⟨r, s.connections.set k ⟨session', [], false⟩⟩ : Server τ)) := by
  obtain ⟨bytes, hbytes, hturn⟩ := turn_of_handle hk hm hh hlength
  have hsame : { c with session := some ⟨⟨k, [], false⟩, unit, kind⟩ } = c := by
    rw [← hs]
  rw [exchange_eq hs hm]
  dsimp only
  rw [hturn, conclude_of_reply hbytes]
  dsimp only
  rw [hsame]

/-- A client that connects is taken in by the server, and hangs up again if it is refused. -/
theorem connect_of_handle {data : Bytes} (hs : c.session = none)
    (hm : (openRequest c.device).encode = .ok data)
    (hh : Server.Session.handle (openRequest c.device) {} s.registry = (reply, session', r))
    (hlength : reply.payload.length ≤ maxPayload) :
    c.connect s =
      if reply.status = .success then
        (.ok (), { c with session := some ⟨⟨s.connections.length, [], false⟩, reply.unit,
          zeroTerminated (reply.receivedIn (List.replicate kindLength 0)).kept⟩ },
          (⟨r, s.connections ++ [⟨session', [], false⟩]⟩ : Server τ))
      else (.error (.remote reply.status), c, Server.finish s.connections.length
        ⟨r, s.connections ++ [⟨session', [], false⟩]⟩) := by
  have hdial : Network.dial c.endpoint.host c.endpoint.port s =
      (.ok s.connections.length,
        (⟨s.registry, s.connections ++ [({} : Connection)]⟩ : Server τ)) := rfl
  have hnew : (s.connections ++ [({} : Connection)])[s.connections.length]? =
      some ⟨{}, [], false⟩ := by simp
  have hset : (s.connections ++ [({} : Connection)]).set s.connections.length
      ⟨session', [], false⟩ = s.connections ++ [⟨session', [], false⟩] := by simp
  obtain ⟨bytes, hbytes, hturn⟩ :=
    turn_of_handle (s := ⟨s.registry, s.connections ++ [({} : Connection)]⟩) hnew hm hh hlength
  rw [hset] at hturn
  rw [connect_eq hs hdial hm, hturn, conclude_of_reply hbytes]
  dsimp only
  rw [verdict_receivedIn]
  by_cases hstatus : reply.status = .success
  · rw [if_pos hstatus, if_pos hstatus]
    rfl
  · rw [if_neg hstatus, if_neg hstatus]
    rfl

/-- A client that disconnects hangs up, whatever it is told. -/
theorem disconnect_of_handle (hb : Transport.Bounded τ) {unit : UInt8} {kind : String}
    (hs : c.session = some ⟨⟨k, [], false⟩, unit, kind⟩)
    (hk : s.connections[k]? = some ⟨session, [], false⟩)
    (hh : session.handle (closeRequest unit) s.registry = (reply, session', r)) :
    c.disconnect s = ({ c with session := none }, (⟨(session'.shutdown r).2,
      s.connections.set k ⟨{}, [], true⟩⟩ : Server τ)) := by
  obtain ⟨data, hdata⟩ := encode_closeRequest unit
  obtain ⟨bytes, hbytes, hturn⟩ := turn_of_handle hk hdata hh (Session.length_reply hb hh)
  have hlt : k < s.connections.length := (List.getElem?_eq_some_iff.1 hk).1
  have hfinish : Network.hangUp k (⟨r, s.connections.set k ⟨session', [], false⟩⟩ : Server τ) =
      ⟨(session'.shutdown r).2, s.connections.set k ⟨{}, [], true⟩⟩ := by
    show Server.finish k _ = _
    simp [Server.finish, hlt, Connection.finish, Server.Session.shutdown]
  rw [disconnect_eq hs hdata]
  dsimp only
  rw [hturn]
  dsimp only
  rw [hfinish]

end Client

/-! ## From afar and at hand -/

section Mirrored

variable {τ : Type} {x device : String} {config : DeviceConfig}

/-- A client on the server and a latched transport that stand alike: the transport of the device is
in the same state and has received the same calls, and the client has a session exactly while the
latch is open, with the only unit there is of the device. -/
inductive Mirrored (x device : String) (config : DeviceConfig) :
    Latched τ → OnNetwork (Server τ) → Prop
  | closed {l : Latched τ} {c : Client} {s : Server τ} {transport : Option Nat} :
    c.device = device → c.session = none → l.isOpen = false →
    s.registry.Backed x (.held config transport false) l.transport l.calls →
    s.Undisturbed x none → Mirrored x device config l ⟨c, s⟩
  | live {l : Latched τ} {c : Client} {s : Server τ} {k n : Nat} {kind : String} :
    c.device = device → c.session = some ⟨⟨k, [], false⟩, 0, kind⟩ → l.isOpen = true →
    s.connections[k]? = some ⟨.sole x config n, [], false⟩ →
    s.registry.Backed x (.held config (some n) true) l.transport l.calls →
    s.Undisturbed x (some k) → Mirrored x device config l ⟨c, s⟩

variable {l : Latched τ} {t : OnNetwork (Server τ)}

/-- A server whose sessions have not begun, and a client that has not connected to it. -/
theorem Mirrored.start {configs : List DeviceConfig} {catalog : Catalog τ} {d : Device} {t₀ : τ}
    {c : Client} (hs : c.session = none) (hd : (Registry.make configs catalog).get? x = some d)
    (hmade : catalog.create d.config.kind d.config.target d.config.options = .ok t₀) :
    Mirrored x c.device d.config ⟨t₀, false, []⟩ ⟨c, ⟨.make configs catalog, []⟩⟩ := by
  have hnew := Registry.get?_make hd
  have hbacked : (Registry.make configs catalog).Backed x (.held d.config none false) t₀ [] := by
    constructor
    · rw [hd, hnew]
      rfl
    · exact .make configs catalog
    · intro k _
      rfl
    · exact ⟨hmade, rfl⟩
  apply Mirrored.closed rfl hs rfl hbacked
  intro k other hk
  simp at hk

/-- What the server knows of the transport that stands alike. -/
theorem Mirrored.counterpart (h : Mirrored x device config l t) :
    t.client.session.isSome = l.isOpen ∧ match t.net.registry.transportOf x with
      | some n => t.net.registry.pool.calls n = l.calls ∧
        t.net.registry.pool.get? n = some l.transport
      | none => l.calls = [] := by
  cases h with
  | @closed c s transport hdevice hs hl hbacked hothers =>
    constructor
    · rw [hs, hl]
      rfl
    · have htransport := hbacked.transport
      rw [Registry.transportOf_eq hbacked.device]
      cases transport with
      | none => exact htransport.2
      | some n => exact ⟨htransport.2, htransport.1⟩
  | @live c s k n kind hdevice hs hl hk hbacked hothers =>
    constructor
    · rw [hs, hl]
      rfl
    · rcases hbacked.of_some_inv rfl with ⟨hget, hcalls⟩
      rw [Registry.transportOf_eq hbacked.device]
      exact ⟨hcalls, hget⟩

/-- The transports of the server change by themselves, and that at hand as the one of the device. -/
theorem Mirrored.drift {n : Nat} (h : Mirrored x device config l t)
    (hn : t.net.registry.transportOf x = some n) (change : Nat → τ → τ) :
    Mirrored x device config { l with transport := change n l.transport }
      ⟨t.client, { t.net with registry :=
        { t.net.registry with pool := t.net.registry.pool.drift change } }⟩ := by
  cases h with
  | @closed c s transport hdevice hs hl hbacked hothers =>
    have htransport : transport = some n := (Registry.transportOf_eq hbacked.device).symm.trans hn
    subst htransport
    rcases hbacked.drift rfl change with ⟨hbacked', hgrows⟩
    exact .closed hdevice hs hl hbacked' (hothers.grows hgrows)
  | @live c s k number kind hdevice hs hl hk hbacked hothers =>
    obtain rfl : number = n := Option.some.inj ((Registry.transportOf_eq hbacked.device).symm.trans hn)
    rcases hbacked.drift rfl change with ⟨hbacked', hgrows⟩
    exact .live hdevice hs hl hk hbacked' (hothers.grows hgrows)

variable [Transport τ]

/-- What others do does not come between them. -/
theorem Mirrored.elsewhere {net : Server τ} (h : Mirrored x device config l t)
    (he : t.net.Elsewhere x (t.client.session.map (·.link.connection)) net) :
    Mirrored x device config l ⟨t.client, net⟩ := by
  cases h with
  | closed hdevice hs hl hbacked hothers =>
    rw [hs] at he
    rcases he.leaves hbacked.wired hothers with ⟨hleaves, hothers', -⟩
    exact .closed hdevice hs hl (hbacked.leaves hleaves) hothers'
  | @live c s k n kind hdevice hs hl hk hbacked hothers =>
    rw [hs] at he
    rcases he.leaves hbacked.wired hothers with ⟨hleaves, hothers', hmine⟩
    exact .live hdevice hs hl (hmine k _ rfl hk) (hbacked.leaves hleaves) hothers'

/-- Connecting from afar connects the transport at hand, unless it is connected. -/
theorem Mirrored.connect (hb : Transport.Bounded τ) {data : Bytes}
    (hm : (Client.openRequest device).encode = .ok data)
    (hx : deviceName (Client.openRequest device).payload = x)
    (h : Mirrored x device config l t) :
    (Transport.connect t).1 = l.connect.1.fromAfar ∧
      Mirrored x device config l.connect.2 (Transport.connect t).2 := by
  cases h with
  | @live c s k n kind hdevice hs hl hk hbacked hothers =>
    rw [Latched.connect_of_open hl, OnNetwork.connect_of (Client.connect_of_open hs)]
    exact ⟨rfl, .live hdevice hs hl hk hbacked hothers⟩
  | @closed c s transport hdevice hs hl hbacked hothers =>
    subst hdevice
    obtain ⟨n, r, reply, session, hopen, hreply, hbacked', hgrows⟩ :=
      Session.openUnit_sole hx hbacked
    have hh : Server.Session.handle (Client.openRequest c.device) {} s.registry =
        (reply, session, r) := hopen
    have hconnect := Client.connect_of_handle hs hm hh (Session.length_reply hb hh)
    have hnew := (hothers.append_mine ⟨session, [], false⟩).grows hgrows
    have hlast : (s.connections ++ [(⟨session, [], false⟩ : Connection)])[s.connections.length]? =
        some ⟨session, [], false⟩ := by simp
    rw [Latched.connect_of_closed hl]
    cases hc : Transport.connect l.transport with | mk result t' =>
    rw [hc] at hreply hbacked'
    cases result with
    | ok u =>
      rcases hreply with ⟨⟨kind, rfl⟩, rfl⟩
      have hstatus : (Message.reply 0 0 kind).status = .success := rfl
      rw [if_pos hstatus] at hconnect
      rw [OnNetwork.connect_of hconnect]
      exact ⟨rfl, .live rfl rfl rfl hlast hbacked' hnew⟩
    | error f =>
      -- refused: the client hangs up, and the session that ends has nothing
      rcases hreply with ⟨rfl, rfl⟩
      have hstatus : (Message.failure .io).status ≠ .success := by decide
      have hfinish : Server.finish s.connections.length
          ⟨r, s.connections ++ [(⟨{}, [], false⟩ : Connection)]⟩ =
          (⟨r, s.connections ++ [(⟨{}, [], true⟩ : Connection)]⟩ : Server τ) := by
        simp [Server.finish, Connection.finish, Server.Session.shutdown]
      rw [if_neg hstatus, hfinish] at hconnect
      rw [OnNetwork.connect_of hconnect]
      refine ⟨rfl, .closed rfl hs rfl hbacked' ?_⟩
      have hended := (hothers.append_mine ⟨{}, [], true⟩).grows hgrows
      exact hended.release (c := ⟨{}, [], true⟩) (by simp) (Session.apart_empty x r)

/-- Disconnecting from afar always succeeds, and disconnects the transport at hand if it is
connected, whatever comes of that. -/
theorem Mirrored.disconnect (hb : Transport.Bounded τ) (h : Mirrored x device config l t) :
    (Transport.disconnect t).1 = .ok () ∧
      Mirrored x device config l.disconnect.2 (Transport.disconnect t).2 := by
  cases h with
  | @closed c s transport hdevice hs hl hbacked hothers =>
    rw [Latched.disconnect_of_closed hl, OnNetwork.disconnect_of (Client.disconnect_of_closed hs)]
    exact ⟨rfl, .closed hdevice hs hl hbacked hothers⟩
  | @live c s k n kind hdevice hs hl hk hbacked hothers =>
    rcases Session.closeUnit_sole hbacked with ⟨r, reply, hclose, hbacked', hgrows⟩
    have hh : (Server.Session.sole x config n).handle (Client.closeRequest 0) s.registry =
        (reply, (Server.Session.sole x config n).markClosed 0, r) := hclose
    have hleaves : r.Leaves x (((Server.Session.sole x config n).markClosed 0).shutdown r).2 :=
      Session.leaves_shutdown_sole hbacked'.wired
    have hlt : k < s.connections.length := (List.getElem?_eq_some_iff.1 hk).1
    rw [Latched.disconnect_of_open hl,
      OnNetwork.disconnect_of (Client.disconnect_of_handle hb hs hk hh)]
    -- the connection that had the unit has ended with an empty session
    have hended := (hothers.set_mine ⟨{}, [], true⟩).grows (hgrows.trans hleaves.grows)
    refine ⟨rfl, .closed hdevice rfl rfl (hbacked'.leaves hleaves) ?_⟩
    exact hended.release (c := ⟨{}, [], true⟩) (by simp [hlt]) (Session.apart_empty x _)

/-- The server reads back the length that a reading asked for. -/
theorem requestedLength_readRequest (unit : UInt8) (control : UInt32) {length : Nat}
    (h : length ≤ maxPayload) :
    requestedLength (Client.readRequest unit control length).payload = length := by
  have hfits : length < 2 ^ 16 := Nat.lt_of_le_of_lt h (by decide)
  show (ofLe16 (byteAt (UInt16.ofNat (min length maxPayload)).toNat 0)
    (byteAt (UInt16.ofNat (min length maxPayload)).toNat 1)).toNat = length
  rw [ofLe16_le16, Nat.min_eq_left h, UInt16.toNat_ofNat_of_lt' hfits]

/-- An exchange after which the session has what it had before. -/
theorem exchange_of_sole (hb : Transport.Bounded τ) {s : Server τ} {c : Client} {k n : Nat}
    {kind : String} (request : UInt8 → Message) {reply : Message} {data : Bytes} {r : Registry τ}
    (hs : c.session = some ⟨⟨k, [], false⟩, 0, kind⟩)
    (hk : s.connections[k]? = some ⟨.sole x config n, [], false⟩)
    (hm : (request 0).encode = .ok data)
    (hh : (Server.Session.sole x config n).handle (request 0) s.registry =
      (reply, .sole x config n, r)) (buffer : Bytes) :
    c.exchange request buffer s = (if reply.status = .success then .ok (reply.receivedIn buffer)
      else .error (.remote reply.status), c, (⟨r, s.connections⟩ : Server τ)) := by
  have hset : s.connections.set k ⟨.sole x config n, [], false⟩ = s.connections :=
    set_self_of_getElem? hk
  rw [Client.exchange_of_handle request hs hk hm hh (Session.length_reply hb hh), hset,
    Client.verdict_receivedIn]

theorem length_emptyBuffer {length : Nat} (h : length ≤ maxPayload) :
    (Client.emptyBuffer length).length = length := by
  rw [Client.emptyBuffer, List.length_replicate, Nat.min_eq_left h]

/-- A reading fits into the buffer, and is all that is kept of the reply that brings it. -/
theorem ofData_kept_reply (hT : Transport.Faithful τ) {control : UInt32} {length : Nat} {t t' : τ}
    {reading : Reading} (hlength : length ≤ maxPayload)
    (h : Transport.read control length t = (.ok reading, t')) :
    Reading.ofData ((Message.reply 0 control reading.data).receivedIn
      (Client.emptyBuffer length)).kept = reading := by
  have hfits : reading.data.length ≤ length := hT.bounded.read h
  have hcount := hT.counts h
  have hkept : ((Message.reply 0 control reading.data).receivedIn
      (Client.emptyBuffer length)).kept = reading.data := by
    rw [Message.kept_receivedIn, length_emptyBuffer hlength]
    exact List.take_of_length_le hfits
  rw [hkept]
  rcases reading with ⟨count, data⟩
  exact congrArg (Reading.mk · data) hcount.symm

/-- Reading from afar reads from the transport at hand. -/
theorem Mirrored.read (hT : Transport.Faithful τ) (control : UInt32) {length : Nat}
    (hlength : length ≤ maxPayload) (h : Mirrored x device config l t) :
    (Transport.read control length t).1 = .unlessClosed (l.read control length).1 ∧
      Mirrored x device config (l.read control length).2 (Transport.read control length t).2 := by
  cases h with
  | @closed c s transport hdevice hs hl hbacked hothers =>
    have hremote : c.read control (Client.emptyBuffer length) s = (.error .notOpen, c, s) :=
      Client.read_of_closed hs control _
    rw [Latched.read_of_closed control length hl, OnNetwork.read_of hremote]
    exact ⟨rfl, .closed hdevice hs hl hbacked hothers⟩
  | @live c s k n kind hdevice hs hl hk hbacked hothers =>
    have hbuffer := length_emptyBuffer hlength
    have hrequested := requestedLength_readRequest 0 control hlength
    obtain ⟨data, hdata⟩ := Client.encode_readRequest 0 control length
    obtain ⟨r, hread, hbacked', hgrows⟩ :=
      Session.readUnit_sole (m := Client.readRequest 0 control length) rfl hrequested hbacked
    have hexchange := exchange_of_sole hT.bounded (Client.readRequest · control length)
      hs hk hdata hread (Client.emptyBuffer length)
    have hremote : c.read control (Client.emptyBuffer length) s = _ := Client.read_eq control _
    rw [hbuffer, hexchange] at hremote
    rw [Latched.read_of_open control length hl, OnNetwork.read_of hremote]
    refine ⟨?_, .live hdevice hs rfl hk hbacked' (hothers.grows hgrows)⟩
    have hcontrol : (Client.readRequest 0 control length).control = control := rfl
    rw [hcontrol]
    cases hr : Transport.read control length l.transport with | mk result t' =>
    cases result with
    | error f => rfl
    | ok reading =>
      have hstatus : (Message.reply 0 control reading.data).status = .success := rfl
      dsimp only
      rw [if_pos hstatus]
      exact congrArg Except.ok (ofData_kept_reply hT hlength hr)

/-- Writing from afar writes to the transport at hand, and says that everything was taken if that
succeeds. -/
theorem Mirrored.write (hb : Transport.Bounded τ) (control : UInt32) {bytes : Bytes}
    (hlength : bytes.length ≤ maxPayload) (h : Mirrored x device config l t) :
    (Transport.write control bytes t).1 =
        (Outcome.unlessClosed (l.write control bytes).1).map (fun _ => bytes.length) ∧
      Mirrored x device config (l.write control bytes).2 (Transport.write control bytes t).2 := by
  have hshort : ¬ maxPayload < bytes.length := Nat.not_lt.2 hlength
  cases h with
  | @closed c s transport hdevice hs hl hbacked hothers =>
    have hremote : c.write control bytes s = (.error .notOpen, c, s) :=
      Client.write_of_closed hs hshort control
    rw [Latched.write_of_closed control bytes hl, OnNetwork.write_of hremote]
    exact ⟨rfl, .closed hdevice hs hl hbacked hothers⟩
  | @live c s k n kind hdevice hs hl hk hbacked hothers =>
    obtain ⟨data, hdata⟩ := Client.encode_writeRequest 0 control hshort
    obtain ⟨r, hwrite, hbacked', hgrows⟩ :=
      Session.writeUnit_sole (m := Client.writeRequest 0 control bytes) rfl hbacked
    have hexchange := exchange_of_sole hb (Client.writeRequest · control bytes)
      hs hk hdata hwrite []
    have hremote : c.write control bytes s = _ := Client.write_of_le hshort control
    rw [hexchange] at hremote
    rw [Latched.write_of_open control bytes hl, OnNetwork.write_of hremote]
    refine ⟨?_, .live hdevice hs rfl hk hbacked' (hothers.grows hgrows)⟩
    have hrequest : (Client.writeRequest 0 control bytes).control = control ∧
        (Client.writeRequest 0 control bytes).payload = bytes := ⟨rfl, rfl⟩
    rw [hrequest.1, hrequest.2]
    cases (Transport.write control bytes l.transport).1 <;> rfl

/-- A call made from afar and at hand comes to the same, and leaves both alike. -/
theorem Mirrored.perform (hT : Transport.Faithful τ) {data : Bytes}
    (hm : (Client.openRequest device).encode = .ok data)
    (hx : deviceName (Client.openRequest device).payload = x) {call : Call} (hfits : call.Fits)
    (h : Mirrored x device config l t) :
    (Transport.perform call t).1 = (l.answer call).1 ∧
      Mirrored x device config (l.answer call).2 (Transport.perform call t).2 := by
  cases call with
  | connect =>
    rcases h.connect hT.bounded hm hx with ⟨hresult, hafter⟩
    exact ⟨congrArg Returned.connected hresult, hafter⟩
  | disconnect =>
    rcases h.disconnect hT.bounded with ⟨hresult, hafter⟩
    exact ⟨congrArg Returned.disconnected hresult, hafter⟩
  | read control length =>
    rcases h.read hT control hfits with ⟨hresult, hafter⟩
    exact ⟨congrArg Returned.read hresult, hafter⟩
  | write control bytes =>
    rcases h.write hT.bounded control hfits with ⟨hresult, hafter⟩
    exact ⟨congrArg Returned.wrote hresult, hafter⟩

end Mirrored

/-! ## Runs -/

section Runs

variable {τ : Type} [Transport τ] {x : String}

/-- A run of calls made from afar, and what they come to. Between them the transport of the device
may change, and others may use the server for anything but this device. -/
inductive Visits (x : String) (t₀ : OnNetwork (Server τ)) :
    List (Happening τ) → List Returned → OnNetwork (Server τ) → Prop
  | rest : Visits x t₀ [] [] t₀
  | elsewhere {happenings : List (Happening τ)} {results : List Returned}
    {t : OnNetwork (Server τ)} {net : Server τ} : Visits x t₀ happenings results t →
    t.net.Elsewhere x (t.client.session.map (·.link.connection)) net →
    Visits x t₀ happenings results ⟨t.client, net⟩
  | drift {happenings : List (Happening τ)} {results : List Returned}
    {t : OnNetwork (Server τ)} {n : Nat} {change : Nat → τ → τ} :
    Visits x t₀ happenings results t → t.net.registry.transportOf x = some n →
    Visits x t₀ (happenings ++ [.drift (change n)]) results
      ⟨t.client, { t.net with registry :=
        { t.net.registry with pool := t.net.registry.pool.drift change } }⟩
  | call {happenings : List (Happening τ)} {results : List Returned}
    {t t' : OnNetwork (Server τ)} {call : Call} {result : Returned} :
    Visits x t₀ happenings results t → Transport.perform call t = (result, t') →
    Visits x t₀ (happenings ++ [.call call]) (results ++ [result]) t'

/-- Whatever calls are to be made next, there is a run that makes them. -/
theorem Visits.calls {t₀ t : OnNetwork (Server τ)} {happenings : List (Happening τ)}
    {results : List Returned} (hrun : Visits x t₀ happenings results t) (calls : List Call) :
    ∃ results' t', Visits x t₀ (happenings ++ calls.map .call) results' t' := by
  induction calls generalizing happenings results t with
  | nil =>
    rw [List.map_nil, List.append_nil]
    exact ⟨results, t, hrun⟩
  | cons call calls ih =>
    have hmade : Visits x t₀ (happenings ++ [.call call])
        (results ++ [(Transport.perform call t).1]) (Transport.perform call t).2 := hrun.call rfl
    have hnext := ih hmade
    rwa [List.append_assoc] at hnext

/-- What stands alike before a run of calls stands alike after it, and the results are the same. -/
theorem Visits.mirrored (hT : Transport.Faithful τ) {device : String} {config : DeviceConfig}
    {data : Bytes} (hm : (Client.openRequest device).encode = .ok data)
    (hx : deviceName (Client.openRequest device).payload = x) {l : Latched τ}
    {t₀ t : OnNetwork (Server τ)} {happenings : List (Happening τ)} {results : List Returned}
    (hstart : Mirrored x device config l t₀)
    (hfits : ∀ call, .call call ∈ happenings → call.Fits)
    (hrun : Visits x t₀ happenings results t) :
    results = (l.follow happenings).1 ∧ Mirrored x device config (l.follow happenings).2 t := by
  induction hrun with
  | rest => exact ⟨rfl, hstart⟩
  | elsewhere _ he ih =>
    rcases ih hfits with ⟨hresults, hmirrored⟩
    exact ⟨hresults, hmirrored.elsewhere he⟩
  | drift _ hn ih =>
    rcases ih fun call hmem => hfits call (List.mem_append_left _ hmem) with ⟨hresults, hmirrored⟩
    rw [Latched.follow_concat_drift]
    exact ⟨hresults, hmirrored.drift hn _⟩
  | @call happenings results t t' call result _ hcall ih =>
    have hlast : call.Fits := hfits call (by simp)
    rcases ih fun call hmem => hfits call (List.mem_append_left _ hmem) with ⟨hresults, hmirrored⟩
    rcases hmirrored.perform hT hm hx hlast with ⟨hresult, hafter⟩
    rw [hcall] at hresult hafter
    rw [Latched.follow_concat_call, hresults]
    constructor
    · exact congrArg (_ ++ [·]) hresult
    · exact hafter

/-- A device on a server is used as it would be at hand. As long as nobody else opens it, calls of a
client come to what they would come to on the transport itself behind a latch, and the transport has
received the same calls and is in the same state: connecting and disconnecting reach it only when
they change something, what goes wrong on it is told as an I/O error of the server, and disconnecting
never fails. The device is the one the server finds by the name that the client sends. -/
theorem remote_equals_local (hT : Transport.Faithful τ) {configs : List DeviceConfig}
    {catalog : Catalog τ} {c : Client} {d : Device} {t₀ : τ} {happenings : List (Happening τ)}
    {results : List Returned} {t : OnNetwork (Server τ)}
    (hname : (Text.encode c.device).length < maxPayload)
    (hx : deviceName (Client.openRequest c.device).payload = x)
    (hd : (Registry.make configs catalog).get? x = some d)
    (hmade : catalog.create d.config.kind d.config.target d.config.options = .ok t₀)
    (hs : c.session = none) (hfits : ∀ call, .call call ∈ happenings → call.Fits)
    (hrun : Visits x ⟨c, ⟨.make configs catalog, []⟩⟩ happenings results t) :
    let hand := Latched.follow happenings ⟨t₀, false, []⟩
    results = hand.1 ∧ t.client.session.isSome = hand.2.isOpen ∧
      match t.net.registry.transportOf x with
      | some n => t.net.registry.pool.calls n = hand.2.calls ∧
        t.net.registry.pool.get? n = some hand.2.transport
      | none => hand.2.calls = [] := by
  intro hand
  obtain ⟨data, hdata⟩ := Client.encode_openRequest hname
  rcases hrun.mirrored hT hdata hx (.start hs hd hmade) hfits with ⟨hresults, hmirrored⟩
  exact ⟨hresults, hmirrored.counterpart⟩

/-- A name without a zero character is the name that the server reads. -/
theorem Client.deviceName_openRequest {device : String} (h : Char.ofNat 0 ∉ device.toList) :
    deviceName (openRequest device).payload = device := by
  show Text.decodeLossy ((Text.encode device ++ [0]).takeWhile (· ≠ 0)) = device
  rw [Text.takeWhile_encode_append h, Text.decodeLossy_encode]

end Runs

/-- The null device is exported as `d`, and a client connects to it, writes and reads, and
disconnects. -/
theorem remote_equals_local_of_null :
    let c : Client := { endpoint := ⟨"h", 1⟩, device := "d", timeoutMs := 5 }
    ∃ t : OnNetwork (Server OnHost), Visits "d" ⟨c, ⟨lone, []⟩⟩
      ([.connect, .write 7 [1, 2], .read 7 4, .disconnect].map .call)
      [.connected (.ok ()), .wrote (.ok 2), .read (.ok ⟨0, []⟩), .disconnected (.ok ())] t ∧
      t.client.session.isSome = false := by
  intro c
  let calls : List Call := [.connect, .write 7 [1, 2], .read 7 4, .disconnect]
  have hname : (Text.encode c.device).length < maxPayload := by
    rw [Text.length_encode]
    decide
  have hx : deviceName (Client.openRequest c.device).payload = "d" :=
    Client.deviceName_openRequest (by decide)
  have hall : ∀ call ∈ calls, call.Fits := by simp [calls, Call.Fits, maxPayload]
  have hfits : ∀ call, Happening.call call ∈ calls.map (@Happening.call OnHost) → call.Fits := by
    intro call hmem
    rcases List.mem_map.1 hmem with ⟨same, hcall, heq⟩
    exact Happening.call.inj heq ▸ hall same hcall
  have hstart : Visits "d" (⟨c, ⟨lone, []⟩⟩ : OnNetwork (Server OnHost)) [] [] ⟨c, ⟨lone, []⟩⟩ :=
    .rest
  have hd : lone.get? "d" = some { config := loneConfig } := rfl
  have hmade : lone.catalog.create loneConfig.kind loneConfig.target loneConfig.options =
      .ok ⟨⟨false, {}⟩, .null {}⟩ := rfl
  obtain ⟨results, t, hrun⟩ := hstart.calls calls
  have hequal := remote_equals_local OnHost.faithful hname hx hd hmade rfl hfits hrun
  obtain ⟨rfl, hclosed, -⟩ := hequal
  exact ⟨t, hrun, hclosed⟩

end RemoteDevice
