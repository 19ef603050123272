import RemoteDevice.Server.Registry
import RemoteDevice.Text.Utf8
import RemoteDevice.Wire.Message

/-!
# Server.Session — one client's open devices

A session numbers the devices its client has open. A number stays with its device until the unit is
closed; then requests on it are refused until a later opening takes the lowest number that is free.
At most eight units are open at a time. Every request has one reply, which carries nothing but a
status if the request failed. When the client is gone, all of its units are closed.
-/

namespace RemoteDevice.Server

open Wire

/-- The most units of a session. -/
def maxUnits : Nat := 8

/-- A unit: the device it was opened on, the transport the device had, whether it holds the claim on
the device, and whether it is still open. -/
structure Entry where
  device : String
  transport : Nat
  claim : Bool
  isOpen : Bool
deriving DecidableEq, Repr

/-- The units of a client, by number. -/
structure Session where
  entries : List Entry := []
deriving DecidableEq, Repr

/-- The name of a device in the payload of a request: the text up to the first zero byte. -/
def deviceName (payload : Bytes) : String :=
  Text.decodeLossy (payload.takeWhile (· ≠ 0))

/-- The number of bytes a request asks for. -/
def requestedLength : Bytes → Nat
  | a :: b :: _ => (ofLe16 a b).toNat
  | _ => 0

namespace Session

/-! ## The table -/

/-- The unit with a number, if it is open. -/
def unit? (s : Session) (unit : UInt8) : Option Entry :=
  s.entries[unit.toNat]?.filter (·.isOpen)

/-- How many units are open. -/
def openUnits (s : Session) : Nat :=
  s.entries.countP (·.isOpen)

/-- The lowest number that is free. -/
def free? (s : Session) : Option Nat :=
  let n := s.entries.findIdx (!·.isOpen)
  if n < maxUnits then some n else none

/-- The table with a unit at a free number, and the transport that was referred to there before. -/
def bind (n : Nat) (e : Entry) (s : Session) : Option Nat × Session :=
  match s.entries[n]? with
  | some old => (some old.transport, ⟨s.entries.set n e⟩)
  | none => (none, ⟨s.entries ++ [e]⟩)

/-- The table with a unit closed: its claim is no longer its own. -/
def markClosed (unit : UInt8) (s : Session) : Session :=
  ⟨s.entries.modify unit.toNat fun e => { e with isOpen := false, claim := false }⟩

/-! ## Requests -/

variable {τ : Type} [Transport τ]

/-- Puts a device that was opened into the table, and answers with its kind. -/
def enter (n : Nat) (e : Entry) (s : Session) (r : Registry τ) : Message × Session × Registry τ :=
  let (old, s) := s.bind n e
  let reply := .reply (UInt8.ofNat n) 0 (Text.encode (r.pool.kind e.transport) ++ [0])
  match old with
  | some t => (reply, s, r.letGo t)
  | none => (reply, s, r)

/-- An opening under way: the device, the number its unit will have, and whether the claim on the
device is held. -/
structure Opening where
  device : String
  number : Nat
  claim : Bool
deriving DecidableEq, Repr

/-- Looks the device up, takes a free number for it and claims it. -/
def beginOpen (payload : Bytes) (s : Session) (r : Registry τ) :
    Except Status (Opening × Registry τ) :=
  let name := deviceName payload
  match r.get? name with
  | none => .error .noEntry
  | some _ =>
    match s.free? with
    | none => .error .tooManyUnits
    | some n =>
      match r.claim? name with
      | none => .error .busy
      | some (claim, r) => .ok (⟨name, n, claim⟩, r)

/-- Ends an opening: what came of it is a unit of the table, or the claim is given back. -/
def finishOpen (o : Opening) (result : Outcome Nat) (s : Session) (r : Registry τ) :
    Message × Session × Registry τ :=
  match result with
  | .error _ => (.failure .io, s, r.unclaim o.device o.claim)
  | .ok transport => s.enter o.number ⟨o.device, transport, o.claim, true⟩ r

/-- Opens a device. -/
def openUnit (payload : Bytes) (s : Session) (r : Registry τ) : Message × Session × Registry τ :=
  match s.beginOpen payload r with
  | .error status => (.failure status, s, r)
  | .ok (o, r) =>
    let (result, r) := r.acquire o.device
    s.finishOpen o result r

/-- Marks a unit closed, and gives what it was. -/
def beginClose (unit : UInt8) (s : Session) : Except Status (Entry × Session) :=
  match s.unit? unit with
  | none => .error .badUnit
  | some e => .ok (e, s.markClosed unit)

/-- Ends a closing: the device has been released, and the claim on it is given back. -/
def finishClose (unit : UInt8) (e : Entry) (result : Outcome Unit) (r : Registry τ) :
    Message × Registry τ :=
  let r := r.unclaim e.device e.claim
  match result with
  | .ok _ => (.reply unit 0 [], r)
  | .error _ => (.failure .io, r)

/-- Closes a unit. The claim on its device is held until the device has been released. -/
def closeUnit (unit : UInt8) (s : Session) (r : Registry τ) : Message × Session × Registry τ :=
  match s.beginClose unit with
  | .error status => (.failure status, s, r)
  | .ok (e, s) =>
    let (result, r) := r.release e.device false
    let (reply, r) := finishClose unit e result r
    (reply, s, r)

/-- Reads from a unit. -/
def readUnit (m : Message) (s : Session) (r : Registry τ) : Message × Session × Registry τ :=
  match s.unit? m.unit with
  | none => (.failure .badUnit, s, r)
  | some e =>
    match r.use (·.read e.transport m.control (requestedLength m.payload)) with
    | (.ok reading, r) => (.reply m.unit m.control reading.data, s, r)
    | (.error _, r) => (.failure .io, s, r)

/-- Writes to a unit. -/
def writeUnit (m : Message) (s : Session) (r : Registry τ) : Message × Session × Registry τ :=
  match s.unit? m.unit with
  | none => (.failure .badUnit, s, r)
  | some e =>
    match r.use (·.write e.transport m.control m.payload) with
    | (.ok _, r) => (.reply m.unit m.control [], s, r)
    | (.error _, r) => (.failure .io, s, r)

/-- Answers a request. -/
def handle (m : Message) (s : Session) (r : Registry τ) : Message × Session × Registry τ :=
  match m.op with
  | .ok .openUnit => s.openUnit m.payload r
  | .ok .closeUnit => s.closeUnit m.unit r
  | .ok .readUnit => s.readUnit m r
  | .ok .writeUnit => s.writeUnit m r
  | .error _ => (.failure .noEntry, s, r)

/-! ## The end of a session -/

/-- Gives the claim of a unit and its transport back. -/
def giveBack (e : Entry) (r : Registry τ) : Registry τ :=
  (r.unclaim e.device e.claim).letGo e.transport

/-- Releases the device of a unit for good, whatever comes of it, then gives the claim on
it back. -/
def endEntry (e : Entry) (r : Registry τ) : Registry τ :=
  if e.isOpen then giveBack e (r.release e.device true).2 else r.letGo e.transport

/-- Closes every unit that is open and forgets them all. -/
def shutdown (s : Session) (r : Registry τ) : Session × Registry τ :=
  ({}, s.entries.foldl (fun r e => endEntry e r) r)

/-- Forgets all units without closing them: claims and transports are let go, and the devices stay
open. -/
def abandon (s : Session) (r : Registry τ) : Registry τ :=
  s.entries.foldl (fun r e => giveBack e r) r

end Session

end RemoteDevice.Server
