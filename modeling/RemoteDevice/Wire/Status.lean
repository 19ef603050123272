import RemoteDevice.IoError

/-!
# Wire.Status — how a request ended, and why an exchange fails

A reply carries its status in the byte that names the operation in a request. The codes are the
usual numbers of system errors; a code without a name of its own is kept as it came. An exchange of
messages that has no reply fails for one of the causes of `Error`.
-/

namespace RemoteDevice.Wire

/-- The status of a reply. -/
inductive Status where
  | success
  | noEntry
  | io
  | badUnit
  | busy
  | tooManyUnits
  | other (code : UInt8)
deriving DecidableEq, Repr

namespace Status

/-- The code on the wire. -/
def code : Status → UInt8
  | success => 0
  | noEntry => 2
  | io => 5
  | badUnit => 9
  | busy => 16
  | tooManyUnits => 24
  | other c => c

/-- The status a code stands for. -/
def ofCode (c : UInt8) : Status :=
  if c = 0 then success
  else if c = 2 then noEntry
  else if c = 5 then io
  else if c = 9 then badUnit
  else if c = 16 then busy
  else if c = 24 then tooManyUnits
  else other c

/-- The text of a status. -/
def message : Status → String
  | success => "success"
  | noEntry => "no such device (ENOENT)"
  | io => "I/O error (EIO)"
  | badUnit => "bad unit (EBADF)"
  | busy => "device busy (EBUSY)"
  | tooManyUnits => "too many open units (EMFILE)"
  | other c => s!"error code {c}"

@[simp] theorem code_ofCode (c : UInt8) : (ofCode c).code = c := by
  simp only [ofCode]
  repeat' split
  all_goals simp_all [code]

end Status

/-! ## Failed exchanges -/

/-- The causes for which sending or receiving a message fails. -/
inductive Error where
  | io (e : IoError)
  | disconnected
  | timeout
  | payloadTooLarge (length : Nat)
  | invalidOpcode (code : UInt8)
  | status (s : Status)
deriving DecidableEq, Repr

namespace Error

/-- The text of the failure. -/
def message : Error → String
  | io e => s!"IO Error: {e.message}"
  | disconnected => "Connection closed by peer"
  | timeout => "Timeout while waiting for message"
  | payloadTooLarge n => s!"Payload of {n} bytes too large for protocol"
  | invalidOpcode code => s!"Invalid opcode {code} in protocol"
  | status s => s!"Remote error: {s.message}"

/-- A stream that ends inside a message has lost its far end; any other failure is the stream's. -/
def ofRead : IoError → Error
  | .unexpectedEnd => disconnected
  | e => io e

/-- A wait that was too long is given up; any other failure is the stream's. -/
def ofWait (e : IoError) : Error :=
  if e.isTimeout then timeout else io e

end Error

end RemoteDevice.Wire
