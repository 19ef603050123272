import RemoteDevice.Serial.Port

/-!
# Serial.Terminal — a serial port whose far end is at hand

A terminal is a serial port together with whoever sits at the other end of its line: bytes can be
fed to the port, and what the port has written can be drained, also after it was closed.
-/

namespace RemoteDevice.Serial

/-- A port, and what it wrote before it was last closed. -/
structure Terminal where
  port : Port
  written : Bytes := []

namespace Terminal

/-- Bytes arrive at the port. A closed port has no use for them: opening it discards them. -/
def feed (data : Bytes) (t : Terminal) : Terminal :=
  { t with port := t.port.onLine (·.feed data) }

/-- What the port has written since this was last asked. -/
def drain (t : Terminal) : Bytes × Terminal :=
  match t.port.line with
  | none => (t.written, { t with written := [] })
  | some line =>
    (t.written ++ line.outgoing,
      ⟨{ t.port with line := some { line with outgoing := [] } }, []⟩)

/-- Opens the port, whose device is there. -/
def connect (t : Terminal) : Outcome Unit × Terminal :=
  let (result, port) := t.port.connect (.ok {})
  (.ofResult result, { t with port })

/-- Closes the port. -/
def disconnect (t : Terminal) : Outcome Unit × Terminal :=
  let (written, t) := t.drain
  (.ok (), ⟨t.port.disconnect, written⟩)

/-- Reads from the port, where what waits comes in one piece. -/
def read (_ : UInt32) (length : Nat) (t : Terminal) : Outcome Reading × Terminal :=
  let (result, port) := t.port.read length []
  (result.map .ofData, { t with port })

/-- Writes to the port. -/
def write (_ : UInt32) (data : Bytes) (t : Terminal) : Outcome Nat × Terminal :=
  let (result, port) := t.port.write data []
  (.ofResult result, { t with port })

instance : Transport Terminal :=
  ⟨fun _ => Port.kind, connect, disconnect, read, write, fun _ => Transport.noConfig Port.kind⟩

end Terminal

end RemoteDevice.Serial
