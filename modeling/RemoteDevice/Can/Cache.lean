import RemoteDevice.Can.Frame
import RemoteDevice.Can.Freshness

/-!
# Can.Cache — the latest frame of every id in a range

A cache has a slot for each of up to 4096 consecutive ids. Only fresh slots count: storing a frame
makes its slot fresh, and invalidating the cache makes all of them stale. Reading takes nothing
away. A reader may wait for a frame to come, for a number of attempts.
-/

namespace RemoteDevice.Can

open Transport (Error maxIds)

/-- How long a reader waits for a frame that has not come yet. -/
structure RetryPolicy where
  attempts : Nat := 5
  backoffMs : Nat := 1000
deriving DecidableEq, Repr

/-- How often a reader looks. -/
def RetryPolicy.probes (p : RetryPolicy) : Nat :=
  max p.attempts 1

/-- The frames of the ids from `start` on. -/
structure FrameCache where
  start : UInt32
  slots : Array (Option Frame)
  fresh : Freshness

namespace FrameCache

/-- An empty cache for the ids from `first` up to `stop` itself not included. -/
def make (first stop : UInt32) : Except Error FrameCache :=
  if stop ≤ first then .error (.malformed (.emptyBuffer first stop))
  else
    let n := (stop - first).toNat
    if maxIds < n then .error (.malformed (.wideBuffer first stop))
    else .ok ⟨first, Array.replicate n none, .none n⟩

/-- The first id of the range, and the one behind its last. -/
def range (c : FrameCache) : UInt32 × UInt32 :=
  (c.start, c.start + UInt32.ofNat c.slots.size)

/-- The slot of an id in the range. -/
def slot? (c : FrameCache) (id : UInt32) : Option Nat :=
  if c.start ≤ id ∧ (id - c.start).toNat < c.slots.size then some (id - c.start).toNat else none

/-- What a slot holds, if it is fresh. -/
def frameAt (c : FrameCache) (i : Nat) : Option Frame :=
  if c.fresh.test i then c.slots[i]?.join else none

/-- Keeps a frame whose id is in the range, and says whether it is. -/
def store (c : FrameCache) (f : Frame) : Bool × FrameCache :=
  match c.slot? f.id with
  | some i => (true, { c with slots := c.slots.setIfInBounds i (some f), fresh := c.fresh.mark i })
  | none => (false, c)

/-- The latest frame of an id, if one came since the cache was last invalidated. -/
def get (c : FrameCache) (id : UInt32) : Except Error (Option Frame) :=
  match c.slot? id with
  | some i => .ok (c.frameAt i)
  | none => .error (.notBuffered id)

/-- Makes every slot stale. The frames stay where they are until newer ones come. -/
def invalidate (c : FrameCache) : FrameCache :=
  { c with fresh := c.fresh.clear }

/-- The frames of all fresh slots, by ascending id. -/
def frames (c : FrameCache) : List Frame :=
  (List.range c.slots.size).filterMap c.frameAt

/-- Looks for a frame at most `attempts` times and waits after each time it is not there. The list
says what happens to the cache during each wait. -/
def lookupDuring (id : UInt32) : (attempts : Nat) → (waits : List (FrameCache → FrameCache)) →
    FrameCache → Except Error Frame × FrameCache
  | 0, _, c => (.error (.timeout id), c)
  | n + 1, waits, c =>
    match c.get id with
    | .error e => (.error e, c)
    | .ok (some f) => (.ok f, c)
    | .ok none =>
      match waits with
      | [] => lookupDuring id n [] c
      | wait :: waits => lookupDuring id n waits (wait c)

/-- Looks for a frame in a cache to which nothing happens meanwhile. -/
def lookup (c : FrameCache) (id : UInt32) (policy : RetryPolicy) : Except Error Frame :=
  (lookupDuring id policy.probes [] c).1

end FrameCache

end RemoteDevice.Can
