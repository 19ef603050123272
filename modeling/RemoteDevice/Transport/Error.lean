import RemoteDevice.Text.Quoted
import RemoteDevice.Wire.Status

/-!
# Transport.Error — why a transport refuses or fails

A text that does not specify what it should is refused for one of the causes of `Malformed`, and
every call of a transport that fails does so for one of the causes of `Error`. Each has one wording;
a failure that stems from another one names it as its cause.
-/

namespace RemoteDevice

/-- What is wrong with a text that should specify a transport or a part of one. -/
inductive Malformed where
  | number (text : List Char)
  | host
  | port (text : List Char)
  | dataBits (n : Nat)
  | parity (c : Char)
  | serialDevice
  | canInterface
  | canId (text : List Char)
  | canIdRange (text : List Char)
  | descending (text : List Char)
  | wideRange (first last : UInt32)
  | manyIds (text : List Char)
  | emptyRange (first stop : UInt32)
  | emptyBuffer (first stop : UInt32)
  | wideBuffer (first stop : UInt32)
  | frameLength (n : Nat)
  | frameId (id : UInt32)
  | address
  | addressText (text : List Char)
  | characteristic (text : List Char)
  | deviceName
  | custom (text : String)
deriving DecidableEq, Repr

namespace Transport

/-- The most ids a filter, a range of one or a buffer may hold. -/
def maxIds : Nat := 4096

/-- The causes for which a transport cannot be made or a call of it fails. -/
inductive Error where
  | io (e : IoError)
  | protocol (e : Wire.Error)
  | malformed (m : Malformed)
  | unknownKind (kind : String)
  | notOpen
  | link (interface detail : String)
  | filterActive
  | bufferActive
  | bufferInactive
  | notBuffered (id : UInt32)
  | timeout (id : UInt32)
  | length (expected got : Nat)
  | unsupported (kind : String)
  | serial (detail : String)
  | bluetooth (detail : String)
  | noCharacteristic (uuid : String)
  | remote (s : Wire.Status)
deriving DecidableEq, Repr

end Transport

open Text in
/-- The text that says what is wrong. -/
def Malformed.message : Malformed → String
  | .number t => s!"invalid number {quote t}"
  | .host => "empty host"
  | .port t => s!"invalid port {quote t}"
  | .dataBits n => s!"invalid data bits {n}"
  | .parity c => s!"invalid parity {quoteChar c}"
  | .serialDevice => "missing serial device"
  | .canInterface => "missing CAN interface"
  | .canId t => s!"invalid CAN id {quote t}"
  | .canIdRange t => s!"CAN id {quote t} out of range"
  | .descending t => s!"descending range {quote t}"
  | .wideRange a b =>
    s!"range {hexMarked a.toNat}-{hexMarked b.toNat} has more than {Transport.maxIds} ids"
  | .manyIds t => s!"filter {quote t} has too many ids"
  | .emptyRange a b => s!"empty range {hexMarked a.toNat}-{hexMarked b.toNat}"
  | .emptyBuffer a b => s!"empty buffer range {hexMarked a.toNat}-{hexMarked b.toNat}"
  | .wideBuffer a b =>
    s!"buffer range {hexMarked a.toNat}-{hexMarked b.toNat} spans more than {Transport.maxIds} ids"
  | .frameLength n => s!"invalid dlc {n}"
  | .frameId id => s!"cannot build CAN frame for id {hexMarked id.toNat}"
  | .address => "missing bluetooth address"
  | .addressText t => s!"invalid bluetooth address {quote t}"
  | .characteristic t => s!"invalid characteristic {quote t}"
  | .deviceName => "rdev needs a device name in the options"
  | .custom t => t

namespace Transport.Error

/-- The text of the failure. -/
def message : Error → String
  | io e => s!"IO Error: {e.message}"
  | protocol e => s!"Protocol Error: {e.message}"
  | malformed m => s!"Invalid transport specification: {m.message}"
  | unknownKind kind => s!"Unknown transport {kind}"
  | notOpen => "Transport is not open"
  | link interface detail => s!"Link configuration of {interface} failed: {detail}"
  | filterActive => "A filter is already installed, clear it first"
  | bufferActive => "Buffering is already running"
  | bufferInactive => "Buffering is not running"
  | notBuffered id => s!"CAN id {Text.hexMarked id.toNat} is outside the buffered range"
  | timeout id => s!"No frame for CAN id {Text.hexMarked id.toNat} arrived in time"
  | length expected got => s!"Buffer of {got} bytes where {expected} are required"
  | unsupported kind => s!"Operation not supported by the {kind} transport"
  | serial detail => s!"Serial Error: {detail}"
  | bluetooth detail => s!"Bluetooth Error: {detail}"
  | noCharacteristic uuid => s!"Peripheral has no characteristic {uuid}"
  | remote s => s!"Server Error: {s.message}"

/-- The texts of the failures this one stems from, the nearest first. -/
def causes : Error → List String
  | io e => [e.message]
  | protocol (.io e) => [(Wire.Error.io e).message, e.message]
  | protocol e => [e.message]
  | serial detail => [detail]
  | bluetooth detail => [detail]
  | _ => []

end Transport.Error

end RemoteDevice
