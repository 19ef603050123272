import RemoteDevice.Can.Cache
import RemoteDevice.Can.Filter

/-!
# Can.Reader — filling a cache in the background

A reader takes one event after another from a socket. Frames that pass the filter in force go into
the cache; when the socket is closed or fails, everything cached counts as stale. The filter may be
replaced at any time. A reader that was stopped takes nothing more.
-/

namespace RemoteDevice.Can

/-- What one receive from the socket came to. -/
inductive Event where
  | frame (f : Frame)
  | idle
  | closed
  | failed (e : IoError)

/-- Whether an id passes; without a filter every id does. -/
def passes (filter : Option FilterSet) (id : UInt32) : Bool :=
  match filter with
  | some set => set.contains id
  | none => true

/-- What an event does to the cache under a filter. -/
def FrameCache.take (filter : Option FilterSet) (c : FrameCache) : Event → FrameCache
  | .frame f => if passes filter f.id then (c.store f).2 else c
  | .idle => c
  | .closed => c.invalidate
  | .failed _ => c.invalidate

/-- A reader, the cache it fills and the filter it consults. -/
structure BufferReader where
  cache : FrameCache
  filter : Option FilterSet
  running : Bool := true

namespace BufferReader

/-- The reader deals with an event, if it has not been stopped. -/
def deliver (r : BufferReader) (e : Event) : BufferReader :=
  if r.running then { r with cache := r.cache.take r.filter e } else r

/-- Another filter is in force from now on, or none. -/
def setFilter (r : BufferReader) (filter : Option FilterSet) : BufferReader :=
  { r with filter }

/-- Stops the reader, and says whether it was running. -/
def stop (r : BufferReader) : Bool × BufferReader :=
  (r.running, { r with running := false })

end BufferReader

end RemoteDevice.Can
