import RemoteDevice.Net.Network
import RemoteDevice.Wire.Framing

/-!
# Simulated.Peers — far ends that follow a script

Each connection that is made gets the next script: a list of actions, of which every request that is
received takes one. A peer without an action left hangs up. All requests are remembered.
-/

namespace RemoteDevice.Simulated

open Net Wire

/-- What a peer does upon a request. -/
inductive Action where
  | answer (data : Bytes) (hangsUp : Bool)
  | hangUp
  | silent
deriving DecidableEq, Repr

/-- The far end of a connection: the actions that are left, and the bytes that are no complete
request yet. -/
structure Peer where
  actions : List Action
  buffer : Bytes := []
  gone : Bool := false
deriving DecidableEq, Repr

namespace Peer

/-- The next action upon a request, as the near end sees it. -/
def act (p : Peer) : Reaction × Peer :=
  match p.actions with
  | [] => (⟨[], true⟩, { p with gone := true })
  | a :: actions =>
    let p := { p with actions }
    match a with
    | .answer data false => (⟨data, false⟩, p)
    | .answer data true => (⟨data, true⟩, { p with gone := true })
    | .hangUp => (⟨[], true⟩, { p with gone := true })
    | .silent => ({}, p)

/-- Takes requests one after another until the peer is gone. Gives those that were taken. -/
def takeAll (p : Peer) : List Message → Reaction × List Message × Peer
  | [] => ({}, [], p)
  | m :: ms =>
    if p.gone then ({}, [], p)
    else
      let (first, p) := p.act
      let (rest, taken, p) := p.takeAll ms
      (⟨first.bytes ++ rest.bytes, first.hangsUp || rest.hangsUp⟩, m :: taken, p)

end Peer

/-- The peers of the connections made so far, the scripts of those to come, and the requests
received, the newest first. -/
structure Peers where
  scripts : List (List Action)
  peers : List Peer := []
  requests : List Message := []

namespace Peers

/-- A connection is made. -/
def accept (net : Peers) : Nat × Peers :=
  let actions := net.scripts.head?.getD []
  (net.peers.length,
    { net with scripts := net.scripts.tail, peers := net.peers ++ [⟨actions, [], false⟩] })

/-- Bytes reach the peer of a connection. -/
def deliver (n : Nat) (data : Bytes) (net : Peers) : Reaction × Peers :=
  match net.peers[n]? with
  | none => ({ hangsUp := true }, net)
  | some p =>
    let (requests, buffer) := Framing.drain (p.buffer ++ data)
    let (reaction, taken, p) := { p with buffer }.takeAll requests
    (reaction, { net with peers := net.peers.set n p, requests := taken.reverse ++ net.requests })

instance : Network Peers where
  dial _ _ net := let (n, net) := net.accept; (.ok n, net)
  deliver := deliver
  hangUp _ net := net

end Peers

end RemoteDevice.Simulated
