import RemoteDevice.Can.Cache
import RemoteDevice.Transport.Basic
import RemoteDevice.Transport.Options

/-!
# Simulated.Stores — devices that give back what they were given

A loopback shows the bytes of the last write to every read and takes nothing away. Reading needs it
to be open, writing does not. A cached device is nothing but a frame cache: frames that are written
come into the cache, reads look them up there, and closing the device makes all of them stale.
-/

namespace RemoteDevice.Simulated

open Can Options

/-- The device: whether it is open, and what was written last. -/
structure Loopback where
  isOpen : Bool := false
  stored : Bytes := []
deriving DecidableEq, Repr

namespace Loopback

/-- The name of the kind. -/
def kind : String := "loopback"

/-- Reads the beginning of what is stored. -/
def read (length : Nat) (l : Loopback) : Except Transport.Error Bytes :=
  if l.isOpen then .ok (l.stored.take length) else .error .notOpen

/-- Stores bytes and gives how many. -/
def write (data : Bytes) (l : Loopback) : Nat × Loopback :=
  (data.length, { l with stored := data })

end Loopback

/-- The device. -/
structure Cached where
  cache : FrameCache

namespace Cached

/-- The name of the kind. -/
def kind : String := "cached"

/-- How long a read looks. -/
def policy : RetryPolicy := ⟨2, 0⟩

/-- A cache over the range in the options. -/
def make (options : String) : Except Transport.Error Cached := do
  let first ← numberOr (field options 0) 0x300
  let stop ← numberOr (field options 1) 0x310
  .ok ⟨← FrameCache.make first stop⟩

/-- The frame of an id in its wire form, if the buffer has room for that. -/
def read (control : UInt32) (length : Nat) (c : Cached) : Except Transport.Error Bytes := do
  let f ← c.cache.lookup control policy
  if length < frameLength then .error (.length frameLength length) else .ok f.wire

/-- Stores a frame if its id is in the range, and gives the length of its wire form either way. -/
def write (data : Bytes) (c : Cached) : Except Transport.Error Nat × Cached :=
  match Frame.decode data with
  | .error e => (.error e, c)
  | .ok f => (.ok frameLength, ⟨(c.cache.store f).2⟩)

/-- Makes all frames stale. -/
def disconnect (c : Cached) : Cached :=
  ⟨c.cache.invalidate⟩

end Cached

end RemoteDevice.Simulated
