import RemoteDevice.Line
import RemoteDevice.Serial.Settings
import RemoteDevice.Transport.Basic

/-!
# Serial.Port — the serial transport

A read of a serial line waits for the least number of bytes its settings ask for, as far as the
buffer has room, and gives what came when the line falls silent before. Opening a closed port
discards what arrived before.
-/

namespace RemoteDevice.Serial

open Options

/-- The number between two bounds that is closest to `n`. There is none if the bounds cross. -/
def clamp? (low high n : Nat) : Option Nat :=
  if high < low then none
  else some (if n < low then low else if high < n then high else n)

/-- A serial port. -/
structure Port where
  path : String
  settings : Settings
  line : Option Line := none
deriving DecidableEq, Repr

namespace Port

/-- The name of the kind. -/
def kind : String := "serial"

/-- A port from its target and options. -/
def make (target options : String) : Except Transport.Error Port :=
  let path := field target 0
  if path = "" then .error (.malformed .serialDevice)
  else (Settings.parse options).map fun settings => { path, settings }

/-- Where the device is: a name that is no path of its own stands for a device of the system. -/
def devicePath (exists? : String → Bool) (p : Port) : String :=
  if exists? p.path || p.path.startsWith "/dev" then p.path else "/dev/" ++ p.path

/-- The port with its line changed, if it is open. -/
def onLine (f : Line → Line) (p : Port) : Port :=
  { p with line := p.line.map f }

/-- Opens the port, given what opening its device comes to. -/
def connect (opened : Except Transport.Error Line) (p : Port) :
    Except Transport.Error Unit × Port :=
  match p.line with
  | some _ => (.ok (), p)
  | none =>
    match opened with
    | .ok line => (.ok (), { p with line := some { line with incoming := [] } })
    | .error e => (.error e, p)

/-- Closes the port. -/
def disconnect (p : Port) : Port :=
  { p with line := none }

/-- How many bytes a read into a buffer of `length` bytes waits for. -/
def wanted? (length : Nat) (p : Port) : Option Nat :=
  clamp? 1 length p.settings.vmin

/-- Fills a buffer with what the device answers. For an empty one nothing is asked. There is no result
if the number of bytes to wait for cannot be told. -/
def fill? (buffer : Bytes) (answers : List Arrival) (p : Port) : Option Progress :=
  if buffer = [] then some ⟨.enough, .start buffer, answers⟩
  else
    (p.wanted? buffer.length).map fun wanted => (Filling.start buffer).fill wanted answers

/-- Reads into a buffer of `length` bytes while something happens on the line. -/
def read (length : Nat) (moments : List Moment) (p : Port) : Outcome Bytes × Port :=
  match p.line with
  | none => (.error (.error .notOpen), p)
  | some line =>
    match p.fill? (List.replicate length 0) (line.arrivals moments) with
    | none => (.error .crash, p)
    | some progress =>
      (.ofResult (progress.result.mapError .io),
        { p with line := some (line.afterRead moments progress) })

/-- Writes all the bytes while something happens on the line. -/
def write (data : Bytes) (moments : List Moment) (p : Port) : Except Transport.Error Nat × Port :=
  match p.line with
  | none => (.error .notOpen, p)
  | some line => (.ok data.length, { p with line := some (line.write data moments) })

end Port

end RemoteDevice.Serial
