import RemoteDevice.Transport.Basic

/-!
# Server.Pool — the transports a server has made

Transports have numbers, in the order in which they were made. One lives as long as something refers
to it: a device, a unit, whoever was handed it. The pool counts these references, and keeps a
journal of what happened to its transports.
-/

namespace RemoteDevice.Server

/-- A call of a transport. -/
inductive Call where
  | connect
  | disconnect
  | read (control : UInt32) (length : Nat)
  | write (control : UInt32) (data : Bytes)
deriving DecidableEq, Repr

/-- What happened to a transport. -/
inductive Event where
  /-- One of the given kind was to be made, and got a number if that succeeded. -/
  | made (kind target : String) (number : Option Nat)
  | called (number : Nat) (call : Call)
  | dropped (number : Nat)
deriving DecidableEq, Repr

/-- A transport, and how many references to it there are. -/
structure Pooled (τ : Type) where
  transport : τ
  references : Nat

/-- The transports, by number, and what happened to them, the newest first. -/
structure Pool (τ : Type) where
  members : List (Pooled τ) := []
  journal : List Event := []

namespace Pool

variable {τ : Type}

/-- The transport with a number. -/
def get? (p : Pool τ) (n : Nat) : Option τ :=
  p.members[n]?.map (·.transport)

/-- The pool with an event noted. -/
def note (e : Event) (p : Pool τ) : Pool τ :=
  { p with journal := e :: p.journal }

/-- Takes in what making a transport came to; one that was made gets a number, and is referred to
once. -/
def enlist (kind target : String) (made : Except Transport.Error τ) (p : Pool τ) :
    Except Transport.Error Nat × Pool τ :=
  match made with
  | .error e => (.error e, p.note (.made kind target none))
  | .ok t =>
    let n := p.members.length
    (.ok n, { p.note (.made kind target (some n)) with members := p.members ++ [⟨t, 1⟩] })

/-- One more reference to a transport. -/
def share (n : Nat) (p : Pool τ) : Pool τ :=
  { p with members := p.members.modify n fun m => { m with references := m.references + 1 } }

/-- One reference less; with the last one the transport is dropped. -/
def letGo (n : Nat) (p : Pool τ) : Pool τ :=
  match p.members[n]? with
  | none => p
  | some m =>
    let p := { p with members := p.members.set n { m with references := m.references - 1 } }
    if m.references = 1 then p.note (.dropped n) else p

/-- Makes a call of a transport and notes it. -/
def use {α : Type} (n : Nat) (call : Call) (run : τ → Outcome α × τ) (p : Pool τ) :
    Outcome α × Pool τ :=
  match p.members[n]? with
  | none => (.error .crash, p)
  | some m =>
    let (result, transport) := run m.transport
    (result, { p.note (.called n call) with members := p.members.set n { m with transport } })

variable [Transport τ]

/-- Connects a transport. -/
def connect (n : Nat) (p : Pool τ) : Outcome Unit × Pool τ :=
  p.use n .connect Transport.connect

/-- Disconnects a transport. -/
def disconnect (n : Nat) (p : Pool τ) : Outcome Unit × Pool τ :=
  p.use n .disconnect Transport.disconnect

/-- Reads from a transport. -/
def read (n : Nat) (control : UInt32) (length : Nat) (p : Pool τ) : Outcome Reading × Pool τ :=
  p.use n (.read control length) (Transport.read control length)

/-- Writes to a transport. -/
def write (n : Nat) (control : UInt32) (data : Bytes) (p : Pool τ) : Outcome Nat × Pool τ :=
  p.use n (.write control data) (Transport.write control data)

/-- The name of the kind of a transport. -/
def kind (n : Nat) (p : Pool τ) : String :=
  match p.get? n with
  | some t => Transport.kind t
  | none => ""

end Pool

/-- A transport of a pool, in the hand of whoever refers to it. -/
structure Handle (τ : Type) where
  number : Nat
  pool : Pool τ

namespace Handle

variable {τ : Type}

/-- The handle after a call, which goes on with the result. -/
def after {α : Type} (h : Handle τ) (result : Outcome α × Pool τ) : Outcome α × Handle τ :=
  (result.1, { h with pool := result.2 })

variable [Transport τ]

/-- The side channel, which the journal does not note. -/
def config (op : Config) (h : Handle τ) : Outcome ConfigReply × Handle τ :=
  match h.pool.members[h.number]? with
  | none => (.error .crash, h)
  | some m =>
    let (result, transport) := Transport.config op m.transport
    let members := h.pool.members.set h.number { m with transport }
    (result, { h with pool := { h.pool with members } })

instance : Transport (Handle τ) where
  kind h := h.pool.kind h.number
  connect h := h.after (h.pool.connect h.number)
  disconnect h := h.after (h.pool.disconnect h.number)
  read control length h := h.after (h.pool.read h.number control length)
  write control data h := h.after (h.pool.write h.number control data)
  config := config

end Handle

end RemoteDevice.Server
