import RemoteDevice.Can.Cache
import RemoteDevice.Can.Filter

/-!
# Transport.Basic — what every transport can be told to do

A transport gives access to one device. It is connected and disconnected, read and written; a
control word carries addressing of its own, such as the CAN id to wait for. Operations beyond these
go through one side channel, of which a transport supports what fits it. What a call comes to
depends on the state of the transport alone, and so on the calls made on it before.
-/

namespace RemoteDevice

/-- Why a call brings no result: it reports an error, or it crashes. -/
inductive Fault where
  | error (e : Transport.Error)
  | crash
deriving DecidableEq, Repr

/-- What a call comes to. -/
abbrev Outcome := Except Fault

/-- The outcome of a call that may report an error but never crashes. -/
def Outcome.ofResult {α : Type} : Except Transport.Error α → Outcome α
  | .ok a => .ok a
  | .error e => .error (.error e)

/-- What a read brings: the count it reports, and the bytes that stand at the front of the caller's
buffer within that count. -/
structure Reading where
  count : Nat
  data : Bytes
deriving DecidableEq, Repr

/-- A reading that counts its bytes. -/
def Reading.ofData (data : Bytes) : Reading :=
  ⟨data.length, data⟩

/-- Operations of the side channel. -/
inductive Config where
  | setFilter (filter : Can.FilterSet)
  | clearFilter
  | setRange (first stop : UInt32)
  | parseFilter (spec : String)
  | startBuffer (first stop : UInt32)
  | stopBuffer
  | setRetry (policy : Can.RetryPolicy)
  | getDescriptor

/-- What an operation of the side channel answers. -/
inductive ConfigReply where
  | done
  | descriptor (present : Bool)
deriving DecidableEq, Repr

/-- The calls of a transport whose states are of type `τ`. -/
class Transport (τ : Type) where
  /-- The name of its kind. -/
  kind : τ → String
  /-- Acquires the device; when it is acquired already, nothing happens. -/
  connect : τ → Outcome Unit × τ
  /-- Gives the device back; when it is not acquired, nothing happens. -/
  disconnect : τ → Outcome Unit × τ
  /-- Reads into a buffer of the given length. -/
  read : (control : UInt32) → (length : Nat) → τ → Outcome Reading × τ
  /-- Writes bytes and says how many were taken. -/
  write : (control : UInt32) → (data : Bytes) → τ → Outcome Nat × τ
  /-- An operation of the side channel. -/
  config : Config → τ → Outcome ConfigReply × τ

/-- The side channel of a transport that supports no operation of it. -/
def Transport.noConfig {τ : Type} (kind : String) (t : τ) : Outcome ConfigReply × τ :=
  (.error (.error (.unsupported kind)), t)

end RemoteDevice
