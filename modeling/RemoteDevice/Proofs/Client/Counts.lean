import RemoteDevice.Proofs.Client.Remote
import RemoteDevice.Proofs.Server.Simulation
import RemoteDevice.Proofs.Server.UnitTable

/-!
# Proofs.Client.Counts — what a client is told that it wrote

A client writes to a unit on the server, and the server writes to the transport behind the unit.
Others use the server at the same time, and the same device as well. The writing of the client
succeeds exactly if that of the transport does. The reply says no more than that: the client counts
the bytes that it sent, whatever the transport counted.
-/

namespace RemoteDevice

open Net Wire Server

/-! ## Beside the client -/

/-- A step of the server that is none of the connection `mine`: other clients come, send whatever
bytes they like, and go; and transports change by themselves. -/
inductive Server.Beside {τ : Type} [Transport τ] (mine : Option Nat) (s : Server τ) :
    Server τ → Prop
  | accept : Beside mine s s.accept.2
  | receive {k : Nat} {data : Bytes} : mine ≠ some k → Beside mine s (s.receive k data).2
  | finish {k : Nat} : mine ≠ some k → Beside mine s (s.finish k)
  | drift {change : Nat → τ → τ} : Beside mine s { s with registry :=
      { s.registry with pool := s.registry.pool.drift change } }

/-- A client on a server, after calls of its own and steps beside it. -/
inductive Attends {τ : Type} [Transport τ] (t₀ : OnNetwork (Server τ)) :
    OnNetwork (Server τ) → Prop
  | start : Attends t₀ t₀
  | beside {t : OnNetwork (Server τ)} {net : Server τ} : Attends t₀ t →
    t.net.Beside (t.client.session.map (·.link.connection)) net → Attends t₀ ⟨t.client, net⟩
  | call {t t' : OnNetwork (Server τ)} {call : Call} {result : Returned} : Attends t₀ t →
    Transport.perform call t = (result, t') → Attends t₀ t'

/-- A session with one unit, which was opened on this device and refers to this transport. -/
def Server.Session.single (x : String) (n : Nat) (claim : Bool) : Session :=
  ⟨[⟨x, n, claim, true⟩]⟩

/-- The name by which the server looks up the device of a client. -/
def Client.heardName (c : Client) : String :=
  deviceName (openRequest c.device).payload

variable {τ : Type}

/-- The client is away, or it has its device open as the only unit of its connection. -/
def Attached (t : OnNetwork (Server τ)) : Prop :=
  t.client.session = none ∨ ∃ k kind n claim,
    t.client.session = some ⟨⟨k, [], false⟩, 0, kind⟩ ∧
      t.net.connections[k]? = some ⟨.single t.client.heardName n claim, [], false⟩

variable [Transport τ] {s s' : Server τ} {t t' : OnNetwork (Server τ)}

/-- What happens beside a connection leaves it as it is. -/
theorem Server.Beside.connection {mine : Option Nat} (h : s.Beside mine s') {k : Nat}
    {c : Connection} (hmine : mine = some k) (hk : s.connections[k]? = some c) :
    s'.connections[k]? = some c := by
  subst hmine
  cases h with
  | accept =>
    have hlt : k < s.connections.length := (List.getElem?_eq_some_iff.1 hk).1
    show (s.connections ++ [({} : Connection)])[k]? = some c
    rw [List.getElem?_append_left hlt, hk]
  | @receive j data hne =>
    have hjk : j ≠ k := fun heq => hne (congrArg some heq.symm)
    unfold Server.receive
    cases s.connections[j]? with
    | none => exact hk
    | some other =>
      show (s.connections.set j _)[k]? = some c
      rw [List.getElem?_set_ne hjk, hk]
  | @finish j hne =>
    have hjk : j ≠ k := fun heq => hne (congrArg some heq.symm)
    unfold Server.finish
    cases s.connections[j]? with
    | none => exact hk
    | some other =>
      show (s.connections.set j _)[k]? = some c
      rw [List.getElem?_set_ne hjk, hk]
  | drift => exact hk

/-- What others do on the server leaves a client attached. -/
theorem Attached.beside {net : Server τ} (h : Attached t)
    (hb : t.net.Beside (t.client.session.map (·.link.connection)) net) :
    Attached (⟨t.client, net⟩ : OnNetwork (Server τ)) := by
  rcases h with hs | ⟨k, kind, n, claim, hs, hk⟩
  · exact .inl hs
  · refine .inr ⟨k, kind, n, claim, hs, ?_⟩
    exact hb.connection (by rw [hs]; rfl) hk

/-! ## Replies that are too long -/

/-- A reply that does not fit into a message is not sent: the server hangs up. -/
theorem Server.turn_of_overlong {k : Nat} {session session' : Server.Session} {m reply : Message}
    {data : Bytes} {r : Registry τ} (hk : s.connections[k]? = some ⟨session, [], false⟩)
    (hm : m.encode = .ok data) (hh : session.handle m s.registry = (reply, session', r))
    (hlong : maxPayload < reply.payload.length) :
    ∃ next, turn k data s = (⟨data, ⟨[], true⟩, none, none⟩, next) := by
  have hanswer : answerAll [m] session s.registry = (⟨[], false⟩, session', r) := by
    cases hreply : reply.encode with
    | error e => simp [answerAll, hh, hreply]
    | ok bytes => exact absurd (Message.encode_eq_ok_iff.1 hreply).1 (Nat.not_le.2 hlong)
  have hreceive : ∃ next, Network.deliver k data s = (⟨[], true⟩, next) := by
    show ∃ next, Server.receive k data s = (⟨[], true⟩, next)
    simp [Server.receive, hk, Connection.receive, drain_of_encode hm, hanswer]
  obtain ⟨next, hnext⟩ := hreceive
  refine ⟨next, ?_⟩
  unfold turn
  rw [hnext]
  rfl

/-- Nothing comes any more on a link whose far end has hung up without a word. -/
theorem Server.conclude_of_hangUp (k : Nat) (data buffer : Bytes) (timeoutMs : Nat) :
    ∃ e, (Link.conclude timeoutMs buffer ⟨data, ⟨[], true⟩, none, none⟩ ⟨k, [], false⟩).1 =
      .error e :=
  ⟨_, rfl⟩

namespace Client

variable {c : Client} {k : Nat} {session session' : Server.Session} {reply : Message}
  {r : Registry τ}

/-- An exchange either goes through or ends the session of the client. -/
theorem exchange_cases {unit : UInt8} {kind : String} (request : UInt8 → Message) {data : Bytes}
    (hs : c.session = some ⟨⟨k, [], false⟩, unit, kind⟩)
    (hk : s.connections[k]? = some ⟨session, [], false⟩) (hm : (request unit).encode = .ok data)
    (hh : session.handle (request unit) s.registry = (reply, session', r)) (buffer : Bytes) :
    c.exchange request buffer s = (verdict (reply.receivedIn buffer), c,
      (⟨r, s.connections.set k ⟨session', [], false⟩⟩ : Server τ)) ∨
    ∃ e net, c.exchange request buffer s = (.error e, { c with session := none }, net) := by
  rcases Nat.lt_or_ge maxPayload reply.payload.length with hlong | hshort
  · obtain ⟨next, hturn⟩ := Server.turn_of_overlong hk hm hh hlong
    obtain ⟨e, hconclude⟩ := Server.conclude_of_hangUp k data buffer c.timeoutMs
    refine .inr ⟨.protocol e, Network.hangUp k next, ?_⟩
    rw [exchange_eq hs hm]
    dsimp only
    rw [hturn]
    generalize hg : Link.conclude c.timeoutMs buffer ⟨data, ⟨[], true⟩, none, none⟩
      ⟨k, [], false⟩ = concluded at hconclude ⊢
    rcases concluded with ⟨result, link⟩
    obtain rfl : result = .error e := hconclude
    rfl
  · exact .inl (exchange_of_handle request hs hk hm hh hshort buffer)

/-- A session with nothing in it that answers with success has opened its first unit. -/
theorem single_of_open {m : Message} {r r' : Registry τ} (hop : m.op = .ok .openUnit)
    (hh : Server.Session.handle m {} r = (reply, session', r')) (hreply : reply.status = .success) :
    reply.unit = 0 ∧ ∃ n claim, session' = .single (deviceName m.payload) n claim := by
  have hfailed : (Message.failure .io).status ≠ .success := by decide
  simp only [Server.Session.handle, hop, Server.Session.openUnit] at hh
  cases hb : Server.Session.beginOpen m.payload {} r with
  | error status =>
    rw [hb] at hh
    obtain rfl := (Prod.mk.inj hh).1.symm
    exact absurd hreply (Server.Session.refuses_of_beginOpen hop hb).status_ne
  | ok begun =>
    rcases begun with ⟨⟨device, number, claim⟩, r₁⟩
    have hdevice : device = deviceName m.payload := Server.Session.device_of_beginOpen hb
    have hnumber : some 0 = some number := (Server.Session.beginOpen_eq_ok hb).2
    obtain rfl := Option.some.inj hnumber
    rw [hb] at hh
    dsimp only at hh
    cases hacquire : r₁.acquire device with | mk result r₂ =>
    rw [hacquire] at hh
    dsimp only at hh
    cases result with
    | error f =>
      obtain rfl := (Prod.mk.inj hh).1.symm
      exact absurd hreply hfailed
    | ok n =>
      rcases Prod.mk.inj hh with ⟨rfl, hrest⟩
      rcases Prod.mk.inj hrest with ⟨rfl, -⟩
      refine ⟨rfl, n, claim, ?_⟩
      rw [← hdevice]
      rfl

/-- A request that opens nothing and closes nothing leaves the client with the unit that it had. -/
theorem attached_exchange (h : Attached (⟨c, s⟩ : OnNetwork (Server τ)))
    (request : UInt8 → Message) (hm : ∀ unit, ∃ data, (request unit).encode = .ok data)
    (hop : ∀ unit, (request unit).op = .ok .readUnit ∨ (request unit).op = .ok .writeUnit)
    (buffer : Bytes) : Attached (⟨(c.exchange request buffer s).2.1,
      (c.exchange request buffer s).2.2⟩ : OnNetwork (Server τ)) := by
  rcases h with hs | ⟨k, kind, n, claim, hs, hk⟩
  · rw [exchange_of_closed hs]
    exact .inl hs
  · obtain ⟨data, hdata⟩ := hm 0
    cases hh : Server.Session.handle (request 0) (.single c.heardName n claim) s.registry with
    | mk reply rest =>
    rcases rest with ⟨session', r⟩
    have hopen : (request 0).op ≠ .ok .openUnit := by rcases hop 0 with hop | hop <;> simp [hop]
    have hclose : (request 0).op ≠ .ok .closeUnit := by rcases hop 0 with hop | hop <;> simp [hop]
    obtain ⟨rfl, -⟩ := Server.Session.refuses_or_calls hopen hclose hh
    rcases exchange_cases request hs hk hdata hh buffer with hthrough | ⟨e, net, hbroken⟩
    · rw [hthrough]
      refine .inr ⟨k, kind, n, claim, hs, ?_⟩
      rw [set_self_of_getElem? hk]
      exact hk
    · rw [hbroken]
      exact .inl rfl

/-- A client that connects has its device open, or it is as before. -/
theorem attached_connect (h : Attached (⟨c, s⟩ : OnNetwork (Server τ))) :
    Attached (⟨(c.connect s).2.1, (c.connect s).2.2⟩ : OnNetwork (Server τ)) := by
  rcases h with hs | ⟨k, kind, n, claim, hs, hk⟩
  · have hdial : Network.dial c.endpoint.host c.endpoint.port s =
        (.ok s.connections.length,
          (⟨s.registry, s.connections ++ [({} : Connection)]⟩ : Server τ)) := rfl
    cases hm : (openRequest c.device).encode with
    | error e =>
      rw [connect_of_unencodable hs hdial hm]
      exact .inl hs
    | ok data =>
      cases hh : Server.Session.handle (openRequest c.device) {} s.registry with | mk reply rest =>
      rcases rest with ⟨session', r⟩
      rcases Nat.lt_or_ge maxPayload reply.payload.length with hlong | hshort
      · have hnew : (s.connections ++ [({} : Connection)])[s.connections.length]? =
            some ⟨{}, [], false⟩ := by simp
        obtain ⟨next, hturn⟩ := Server.turn_of_overlong
          (s := ⟨s.registry, s.connections ++ [({} : Connection)]⟩) hnew hm hh hlong
        rw [connect_eq hs hdial hm, hturn]
        exact .inl hs
      · rw [connect_of_handle hs hm hh hshort]
        by_cases hstatus : reply.status = .success
        · rw [if_pos hstatus]
          obtain ⟨hunit, n, claim, hsession⟩ := single_of_open rfl hh hstatus
          rw [hunit, hsession]
          exact .inr ⟨s.connections.length, _, n, claim, rfl, by simp [heardName]⟩
        · rw [if_neg hstatus]
          exact .inl hs
  · rw [connect_of_open hs]
    exact .inr ⟨k, kind, n, claim, hs, hk⟩

end Client

/-- Calls of the client leave it away or with one unit. -/
theorem Attached.perform {call : Call} {result : Returned} (h : Attached t)
    (hcall : Transport.perform call t = (result, t')) : Attached t' := by
  rcases t with ⟨c, s⟩
  cases call with
  | connect =>
    rw [← (Prod.mk.inj hcall).2]
    exact Client.attached_connect h
  | disconnect =>
    rw [← (Prod.mk.inj hcall).2]
    exact .inl (Client.session_disconnect c s)
  | read control length =>
    rw [← (Prod.mk.inj hcall).2]
    exact Client.attached_exchange h _ (Client.encode_readRequest · control _)
      (fun _ => .inl rfl) _
  | write control data =>
    have hafter : t' = ⟨(c.write control data s).2.1, (c.write control data s).2.2⟩ :=
      (Prod.mk.inj hcall).2.symm
    rw [hafter]
    by_cases hlong : maxPayload < data.length
    · rw [Client.write_of_lt hlong]
      exact h
    · rw [Client.write_of_le hlong]
      exact Client.attached_exchange h _ (Client.encode_writeRequest · control hlong)
        (fun _ => .inr rfl) _

/-- A client that was away at first is away or has one unit, whatever it and others have done. -/
theorem Attends.attached {t₀ : OnNetwork (Server τ)} (hs : t₀.client.session = none)
    (h : Attends t₀ t) : Attached t := by
  induction h with
  | start => exact .inl hs
  | beside _ hbeside ih => exact ih.beside hbeside
  | call _ hcall ih => exact ih.perform hcall

/-! ## The transport behind the unit -/

/-- Whatever clients do, the server goes on as sessions that are not interrupted. -/
theorem Server.lasting_follows (r : Registry τ) :
    Lasting (Server.Follows r : Server τ → Prop) := by
  constructor
  · intro host port s h
    exact h.accept
  · intro connection data s h
    exact h.receive connection data
  · intro connection s h
    exact h.finish connection

/-- A step beside a connection is one of the server, so the server still follows its start. -/
theorem Server.Beside.follows {mine : Option Nat} {r : Registry τ} (h : s.Beside mine s')
    (hs : s.Follows r) : s'.Follows r := by
  cases h with
  | accept => exact hs.accept
  | @receive k data _ => exact hs.receive k data
  | @finish k _ => exact hs.finish k
  | @drift change => exact hs.drift change

/-- However a client uses it and whatever happens beside, the server still follows its start. -/
theorem Attends.follows {t₀ : OnNetwork (Server τ)} {r : Registry τ} (hs : t₀.net.Follows r)
    (h : Attends t₀ t) : t.net.Follows r := by
  have hlasting := Server.lasting_follows r
  induction h with
  | start => exact hs
  | beside _ hbeside ih => exact hbeside.follows ih
  | @call t t' call result _ hcall ih =>
    rw [← (Prod.mk.inj hcall).2]
    cases call with
    | connect => exact Client.lasting_connect hlasting ih t.client
    | disconnect => exact Client.lasting_disconnect hlasting ih t.client
    | read control length => exact Client.lasting_read hlasting ih t.client control _
    | write control data => exact Client.lasting_write hlasting ih t.client control data

/-- The unit of the client refers to the transport that its device has. -/
theorem Server.Follows.backs {configs : List DeviceConfig} {catalog : Catalog τ} {k n : Nat}
    {x : String} {claim : Bool} (h : s.Follows (.make configs catalog))
    (hk : s.connections[k]? = some ⟨.single x n claim, [], false⟩) :
    s.registry.transportOf x = some n ∧ ∃ transport, s.registry.pool.get? n = some transport := by
  obtain ⟨trace, hrun⟩ := h
  have hunit : (Server.Session.single x n claim).unit? 0 = some ⟨x, n, claim, true⟩ := rfl
  have htransport : s.registry.transportOf x = some n :=
    hrun.transportOf_of_unit? (worker_of_connection hk) hunit
  have hlt : n < s.registry.pool.members.length := hrun.counted.2.wired.bound x n htransport
  refine ⟨htransport, s.registry.pool.members[n].transport, ?_⟩
  rw [Pool.get?, List.getElem?_eq_getElem hlt]
  rfl

/-! ## A client of the null device -/

omit [Transport τ] in
/-- A client that has its device open stands alike to the transport that the device has. -/
theorem Mirrored.backs {x device : String} {config : DeviceConfig} {l : Latched τ}
    (hx : deviceName (Client.openRequest device).payload = x) (hopen : l.isOpen = true)
    (h : Mirrored x device config l t) : t.client.session.isSome = true ∧
      ∃ n, t.net.registry.transportOf t.client.heardName = some n ∧
        t.net.registry.pool.get? n = some l.transport := by
  cases h with
  | closed _ _ hl => simp [hl] at hopen
  | @live c s k n kind hdevice hs _ _ hbacked _ =>
    have hheard : c.heardName = x := by rw [Client.heardName, hdevice, hx]
    refine ⟨by simp [hs], n, ?_, (hbacked.of_some_inv rfl).1⟩
    rw [hheard]
    exact Registry.transportOf_eq hbacked.device

/-- A client whose device is the null device, which moves no data, on a server that exports nothing
else. -/
def toNull : OnNetwork (Server OnHost) :=
  ⟨{ endpoint := ⟨"h", 1⟩, device := "d" }, ⟨lone, []⟩⟩

/-- It connects. -/
theorem connect_toNull : ∃ t l, Attends toNull t ∧ Mirrored "d" "d" loneConfig l t ∧
    deviceName (Client.openRequest "d").payload = "d" ∧
    l = ⟨⟨⟨false, {}⟩, .null {}⟩, true, [.connect]⟩ := by
  have hname : (Text.encode "d").length < maxPayload := by
    rw [Text.length_encode]
    decide
  have hx : deviceName (Client.openRequest "d").payload = "d" :=
    Client.deviceName_openRequest (by decide)
  have hd : lone.get? "d" = some { config := loneConfig } := rfl
  have hmade : lone.catalog.create loneConfig.kind loneConfig.target loneConfig.options =
      .ok ⟨⟨false, {}⟩, .null {}⟩ := rfl
  obtain ⟨data, hdata⟩ := Client.encode_openRequest hname
  have hstart : Mirrored "d" "d" loneConfig ⟨⟨⟨false, {}⟩, .null {}⟩, false, []⟩ toNull :=
    .start (c := toNull.client) rfl hd hmade
  have hcalled : Transport.perform .connect toNull =
      (.connected (Transport.connect toNull).1, (Transport.connect toNull).2) := rfl
  have hconnect := (hstart.connect OnHost.faithful.bounded hdata hx).2
  exact ⟨_, _, .call .start hcalled, hconnect, hx, rfl⟩

/-! ## Writing -/

/-- Writing to the unit writes to the transport behind it, and says only whether that succeeded. -/
theorem Server.Session.handle_write (x : String) {n : Nat} (claim : Bool) {r : Registry τ}
    {transport : τ} (control : UInt32) (data : Bytes) (hn : r.pool.get? n = some transport) :
    ∃ r', (single x n claim).handle (Client.writeRequest 0 control data) r =
        (match (Transport.write control data transport).1 with
          | .ok _ => .reply 0 control []
          | .error _ => .failure .io, .single x n claim, r') ∧
      r'.pool.get? n = some (Transport.write control data transport).2 ∧
      r'.pool.calls n = .write control data :: r.pool.calls n := by
  obtain ⟨p, huse, hget, hcalls, -⟩ :=
    Pool.use_eq (.write control data) (Transport.write control data) hn
  refine ⟨{ r with pool := p }, ?_, hget, hcalls⟩
  have hentry : (single x n claim).unit? 0 = some ⟨x, n, claim, true⟩ := rfl
  have hwrite : r.use (·.write n control data) =
      ((Transport.write control data transport).1, { r with pool := p }) := by
    have hpool : r.pool.write n control data = _ := huse
    simp only [Registry.use, hpool]
  exact writeUnit_eq (m := Client.writeRequest 0 control data) hentry hwrite

/-- A client that has its device open and writes, writes to the transport behind its unit. -/
theorem Client.write_single {c : Client} {k n : Nat} {kind : String} {x : String} {claim : Bool}
    {transport : τ} (hs : c.session = some ⟨⟨k, [], false⟩, 0, kind⟩)
    (hk : s.connections[k]? = some ⟨.single x n claim, [], false⟩)
    (hn : s.registry.pool.get? n = some transport) (control : UInt32) {data : Bytes}
    (hlength : data.length ≤ maxPayload) : ∃ r,
      Transport.write control data (OnNetwork.mk c s) =
        ((Transport.write control data transport).1.fromAfar.map fun _ => data.length,
          ⟨c, ⟨r, s.connections⟩⟩) ∧
      r.pool.get? n = some (Transport.write control data transport).2 ∧
      r.pool.calls n = .write control data :: s.registry.pool.calls n := by
  have hshort : ¬ maxPayload < data.length := Nat.not_lt.2 hlength
  obtain ⟨bytes, hbytes⟩ := encode_writeRequest 0 control hshort
  obtain ⟨r, hh, hget, hcalls⟩ :=
    Server.Session.handle_write x claim control data hn
  refine ⟨r, ?_, hget, hcalls⟩
  have hset : s.connections.set k ⟨.single x n claim, [], false⟩ = s.connections :=
    set_self_of_getElem? hk
  cases hown : Transport.write control data transport with | mk own transport' =>
  rw [hown] at hh
  -- whatever came of it, the reply carries nothing
  have hempty : (match own with
      | .ok _ => Message.reply 0 control []
      | .error _ => .failure .io).payload.length ≤ maxPayload := by
    cases own <;> exact Nat.zero_le _
  have hexchange := exchange_of_handle (writeRequest · control data) hs hk hbytes hh hempty []
  have hwrite : c.write control data s = _ := write_of_le hshort control
  rw [hexchange, hset] at hwrite
  rw [OnNetwork.write_of hwrite]
  cases own <;> rfl

/-- A client on a server that others use as well, and whose transports may change at any time,
writes to its device exactly if it has it open: the transport that the device has receives the same
bytes with the same control. If this succeeds, so does the writing of the client, and the client
counts the bytes it gave, whatever the transport counted; otherwise the client is told of an I/O
error of the server. -/
theorem write_counts_given {configs : List DeviceConfig} {catalog : Catalog τ} {c : Client}
    (hs : c.session = none) (h : Attends ⟨c, ⟨.make configs catalog, []⟩⟩ t) (control : UInt32)
    {data : Bytes} (hlength : data.length ≤ maxPayload) :
    let (result, after) := Transport.write control data t
    match t.client.session with
    | none => result = .error (.error .notOpen) ∧ after = t
    | some _ => ∃ n transport, t.net.registry.transportOf t.client.heardName = some n ∧
        t.net.registry.pool.get? n = some transport ∧
        let (own, transport') := Transport.write control data transport
        result = own.fromAfar.map (fun _ => data.length) ∧
        after.net.registry.pool.get? n = some transport' ∧
        after.net.registry.pool.calls n = .write control data :: t.net.registry.pool.calls n := by
  have hattached := h.attached hs
  have hfollows := h.follows (.start _)
  rcases t with ⟨client, net⟩
  rcases hattached with hnone | ⟨k, kind, n, claim, hsome, hk⟩
  · have hwrite : client.write control data net = _ :=
      Client.write_of_closed hnone (Nat.not_lt.2 hlength) control
    dsimp only at hnone
    rw [OnNetwork.write_of hwrite, hnone]
    exact ⟨rfl, rfl⟩
  · obtain ⟨htransport, transport, hn⟩ := hfollows.backs hk
    obtain ⟨r, hwrite, hget, hcalls⟩ := Client.write_single hsome hk hn control hlength
    dsimp only at hsome
    rw [hwrite, hsome]
    exact ⟨n, transport, htransport, hn, rfl, hget, hcalls⟩

/-- Writing two bytes to the null device succeeds, and two bytes are counted. -/
theorem write_counts_given_to_null : ∃ t, Attends toNull t ∧ t.client.session.isSome = true ∧
    (Transport.write 7 [1, 2] t).1 = .ok 2 := by
  obtain ⟨t, l, hattends, hmirrored, hx, rfl⟩ := connect_toNull
  obtain ⟨hopen, n, htransport, hn⟩ := hmirrored.backs hx rfl
  refine ⟨t, hattends, hopen, ?_⟩
  have haway : toNull.client.session = none := rfl
  have hshort : ([1, 2] : Bytes).length ≤ maxPayload := by decide
  have hwrite := write_counts_given haway hattends 7 hshort
  obtain ⟨session, hsession⟩ := Option.isSome_iff_exists.1 hopen
  rw [hsession] at hwrite
  obtain ⟨n', transport, htransport', hn', hresult, -⟩ := hwrite
  obtain rfl := Option.some.inj (htransport.symm.trans htransport')
  obtain rfl := Option.some.inj (hn.symm.trans hn')
  exact hresult

/-- The null device itself counts none of these bytes. -/
theorem counts_differ_of_null : ∃ t n transport, Attends toNull t ∧
    t.net.registry.transportOf t.client.heardName = some n ∧
    t.net.registry.pool.get? n = some transport ∧
    (Transport.write 7 [1, 2] t).1 = .ok 2 ∧ (Transport.write 7 [1, 2] transport).1 = .ok 0 := by
  obtain ⟨t, l, hattends, hmirrored, hx, rfl⟩ := connect_toNull
  obtain ⟨-, n, htransport, hn⟩ := hmirrored.backs hx rfl
  have hshort : ([1, 2] : Bytes).length ≤ maxPayload := by decide
  have hwrite := (hmirrored.write OnHost.faithful.bounded 7 hshort).1
  exact ⟨t, n, _, hattends, htransport, hn, hwrite, rfl⟩

end RemoteDevice
