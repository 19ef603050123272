import RemoteDevice.Can.Reader
import RemoteDevice.Transport.Basic
import RemoteDevice.Transport.Options

/-!
# Can.Bus — the CAN transport

A bus is an interface with a bit rate, at most one filter and at most one running buffer. Reads and
writes exchange whole frames in their wire form. Without a buffer a read takes frames off the socket
until one has the id asked for; with a buffer it looks the id up among the latest frames.
-/

namespace RemoteDevice.Can

open Options
open Transport (Error)

/-- The bit rate of a bus that specifies none. -/
def defaultBitrate : UInt32 := 250000

/-- A socket on an interface: frames that arrived, and frames that were sent, the newest first. -/
structure Socket where
  incoming : List SocketFrame := []
  sent : List SocketFrame := []

/-- Takes frames off the socket until one has the id asked for. -/
def readDirect (id : UInt32) : List SocketFrame → Option Frame × List SocketFrame
  | [] => (none, [])
  | s :: rest =>
    match Frame.ofSocket? s with
    | some f => if id = anyId ∨ f.id = canonicalId id then (some f, rest) else readDirect id rest
    | none => readDirect id rest

/-- The CAN transport. -/
structure Bus where
  interface : String
  bitrate : UInt32
  socket : Option Socket := none
  filter : Option FilterSet := none
  buffer : Option FrameCache := none
  retry : RetryPolicy := {}

namespace Bus

/-- The name of the kind. -/
def kind : String := "can"

/-! ## Filter and buffer -/

/-- Installs a filter where none is; one that accepts nothing counts as none. -/
def setFilter (set : FilterSet) (b : Bus) : Except Error Bus :=
  if b.filter.isSome then .error .filterActive
  else if set.ids = [] then .ok b
  else .ok { b with filter := some set }

/-- Removes the filter. -/
def clearFilter (b : Bus) : Bus :=
  { b with filter := none }

/-- Begins to buffer the ids from `first` up to `stop` itself not included. -/
def startBuffer (first stop : UInt32) (b : Bus) : Except Error Bus :=
  if b.buffer.isSome then .error .bufferActive
  else (FrameCache.make first stop).map fun cache => { b with buffer := some cache }

/-- Ends buffering. -/
def stopBuffer (b : Bus) : Except Error Bus :=
  if b.buffer.isSome then .ok { b with buffer := none } else .error .bufferInactive

/-- Whether the bus buffers frames. -/
def isBuffered (b : Bus) : Bool :=
  b.buffer.isSome

/-- The reader of the buffer takes an event. -/
def deliver (e : Event) (b : Bus) : Bus :=
  { b with buffer := b.buffer.map fun cache => cache.take b.filter e }

/-- A bus from its target and options: interface, and bit rate, filter, flag for buffering. -/
def make (target options : String) : Except Error Bus := do
  let interface := field target 0
  if interface = "" then .error (.malformed .canInterface)
  let bitrate ← numberOr (field options 0) defaultBitrate
  let filter ← FilterSet.parse (field options 1)
  let b : Bus := { interface, bitrate }
  match filter.min?, filter.max? with
  | some low, some high =>
    let b ← b.setFilter filter
    if isSet (field options 2) then b.startBuffer low (high + 1) else .ok b
  | _, _ => .ok b

/-! ## Calls -/

/-- Opens the bus, given what bringing up the interface comes to. -/
def connect (link : Except Error Socket) (b : Bus) : Except Error Unit × Bus :=
  if b.socket.isSome then (.ok (), b)
  else
    match link with
    | .ok socket => (.ok (), { b with socket := some socket })
    | .error e => (.error e, b)

/-- Closes the socket. Filter and buffer stay. -/
def disconnect (b : Bus) : Bus :=
  { b with socket := none }

/-- Reads one frame into a buffer of `length` bytes. -/
def read (control : UInt32) (length : Nat) (b : Bus) : Except Error Reading × Bus :=
  if length < frameLength then (.error (.length frameLength length), b)
  else
    match b.socket, b.buffer with
    | none, _ => (.error .notOpen, b)
    | some _, some cache =>
      ((cache.lookup (canonicalId control) b.retry).map fun f => .ofData f.wire, b)
    | some socket, none =>
      let (found, incoming) := readDirect control socket.incoming
      let data := match found with
        | some f => f.wire
        | none => []
      (.ok (.ofData data), { b with socket := some { socket with incoming } })

/-- Sends the frame at the beginning of the bytes. -/
def write (data : Bytes) (b : Bus) : Except Error Nat × Bus :=
  match b.socket with
  | none => (.error .notOpen, b)
  | some socket =>
    match (Frame.decode data).bind Frame.toSocket with
    | .error e => (.error e, b)
    | .ok s => (.ok frameLength, { b with socket := some { socket with sent := s :: socket.sent } })

/-- The bus after an operation that may fail, in which case it stays as it was. -/
def configured (b : Bus) : Except Error Bus → Except Error ConfigReply × Bus
  | .ok b' => (.ok .done, b')
  | .error e => (.error e, b)

/-- The side channel. -/
def config (op : Config) (b : Bus) : Except Error ConfigReply × Bus :=
  match op with
  | .setFilter set => b.configured (b.setFilter set)
  | .clearFilter => b.configured (.ok b.clearFilter)
  | .setRange first stop => b.configured ((FilterSet.range first stop).bind b.setFilter)
  | .parseFilter spec => b.configured ((FilterSet.parse spec).bind b.setFilter)
  | .startBuffer first stop => b.configured (b.startBuffer first stop)
  | .stopBuffer => b.configured b.stopBuffer
  | .setRetry policy => b.configured (.ok { b with retry := policy })
  | .getDescriptor => (.ok (.descriptor b.socket.isSome), b)

end Bus

end RemoteDevice.Can
