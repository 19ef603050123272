import RemoteDevice.Net.Network
import RemoteDevice.Server.Session
import RemoteDevice.Wire.Framing

/-!
# Server.Connection — a client's byte stream

Bytes come in pieces cut anywhere. The requests that are complete are answered in order, each by one
reply; what is left waits for more bytes. When the client sends no more, the session is shut down,
whether or not a request was cut short.
-/

namespace RemoteDevice.Server

open Wire

variable {τ : Type} [Transport τ]

/-- What answering requests comes to: the bytes of the replies, and whether all of them had a form
on the wire. -/
structure Answers where
  bytes : Bytes := []
  complete : Bool := true
deriving DecidableEq, Repr

/-- Answers requests in order, up to the first reply without a form on the wire. -/
def answerAll : List Message → Session → Registry τ → Answers × Session × Registry τ
  | [], s, r => ({}, s, r)
  | m :: ms, s, r =>
    let (reply, s, r) := s.handle m r
    match reply.encode with
    | .error _ => (⟨[], false⟩, s, r)
    | .ok data =>
      let (rest, s, r) := answerAll ms s r
      ({ rest with bytes := data ++ rest.bytes }, s, r)

/-- A connection: its session, and the bytes that are no complete request yet. -/
structure Connection where
  session : Session := {}
  buffer : Bytes := []
  ended : Bool := false
deriving DecidableEq, Repr

namespace Connection

/-- The client sends no more, or is no longer listened to. -/
def finish (c : Connection) (r : Registry τ) : Connection × Registry τ :=
  if c.ended then (c, r)
  else
    let (session, r) := c.session.shutdown r
    ({ session, buffer := c.buffer, ended := true }, r)

/-- Bytes arrive. Gives what the server does upon that. -/
def receive (data : Bytes) (c : Connection) (r : Registry τ) :
    Net.Reaction × Connection × Registry τ :=
  if c.ended then ({}, c, r)
  else
    let (requests, buffer) := Framing.drain (c.buffer ++ data)
    let (answers, session, r) := answerAll requests c.session r
    let c := { session, buffer, ended := false }
    if answers.complete then (⟨answers.bytes, false⟩, c, r)
    else
      let (c, r) := c.finish r
      (⟨answers.bytes, true⟩, c, r)

end Connection

end RemoteDevice.Server
