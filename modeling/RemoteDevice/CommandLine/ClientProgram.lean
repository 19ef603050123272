import RemoteDevice.Client
import RemoteDevice.CommandLine.Arguments
import RemoteDevice.CommandLine.Payload

/-!
# CommandLine.ClientProgram — the client at the command line

The program opens a device on a server and does one thing with it: shows what it is, reads from it
once, or writes to it once. Whatever happens, the device is closed in the end.
-/

namespace RemoteDevice.CommandLine

open Net

/-- What is to be done with a device. -/
inductive ClientCommand where
  | info
  | read (control : String) (length : Nat)
  | write (control payload : String)
deriving DecidableEq, Repr

/-- The arguments of the client. -/
structure ClientArguments where
  server : String
  device : String
  command : ClientCommand
deriving DecidableEq, Repr

namespace ClientArguments

/-! ## Reading the arguments -/

/-- A whole number with an optional sign. -/
def wholeNumber? (cs : List Char) : Option Int :=
  match cs with
  | '-' :: digits =>
    match digits with
    | [] => none
    | digits => (Text.digitsValue? 10 0 digits).map fun n => -(n : Int)
  | cs =>
    match Text.dropPlus cs with
    | [] => none
    | digits => (Text.digitsValue? 10 0 digits).map fun n => (n : Int)

/-- A length that a read can ask for. -/
def length? (s : String) : Option Nat :=
  match wholeNumber? s.toList with
  | some n => if 0 ≤ n ∧ n ≤ Wire.maxPayload then some n.toNat else none
  | none => none

/-- The option for the length of a read. -/
def lengthOption : Setting where
  name := "length"
  letter := 'n'
  complaint s := if (length? s).isSome then none else some .refusedValue
  default := some "16"

/-- The client. -/
def program : Program where
  form := {
    options := [{ name := "server", letter := 's', default := some "localhost:3930" }]
    versioned := true }
  commands := [
    ("info", { operands := ["device"] }),
    ("read", { options := [lengthOption], operands := ["device", "control"] }),
    ("write", { operands := ["device", "control", "payload"] })]

/-- The value with a name. -/
def valueOf (values : Values) (name : String) : String :=
  (values.lookup name).getD ""

/-- The command that was given. -/
def commandOf (name : String) (values : Values) : ClientCommand :=
  let value := valueOf values
  if name = "info" then .info
  else if name = "read" then .read (value "control") ((length? (value "length")).getD 0)
  else .write (value "control") (value "payload")

/-- Reads the arguments. -/
def read (args : List String) : Except Usage ClientArguments :=
  (program.read args {}).map fun (outer, name, inner) =>
    ⟨valueOf outer "server", valueOf inner "device", commandOf name inner⟩

/-- The manual of the client. -/
def manual : String :=
  "Usage: rdev [-s SERVER] COMMAND\n\n" ++
  "Commands:\n" ++
  "  info DEVICE                     Open a device and show what it is\n" ++
  "  read DEVICE CONTROL [-n LENGTH] Read once from a device\n" ++
  "  write DEVICE CONTROL PAYLOAD    Write a hex encoded payload to a device\n" ++
  "  help [COMMAND]                  Show this\n"

end ClientArguments

/-! ## Running the client -/

/-- The failure of a transport in words. -/
def transportFailure (e : Transport.Error) : Failure :=
  ⟨e.message, e.causes⟩

/-- What is to be done, with all its texts read. -/
inductive ClientTask where
  | info
  | read (control : UInt32) (length : Nat)
  | write (control : UInt32) (payload : Bytes)

/-- Reads the texts of a command. -/
def ClientCommand.task : ClientCommand → Except Failure ClientTask
  | .info => .ok .info
  | .read control length =>
    match Options.parseNumber control with
    | .error e => .error (transportFailure e)
    | .ok control => .ok (.read control length)
  | .write control payload =>
    match Options.parseNumber control, parsePayload payload with
    | .error e, _ => .error (transportFailure e)
    | .ok _, .error e => .error e.failure
    | .ok control, .ok payload => .ok (.write control payload)

variable {ν : Type} [Network ν]

/-- Does the task with an open client, and gives what to show. -/
def ClientTask.perform (t : ClientTask) (device : String) (c : Client) (net : ν) :
    Except Failure String × Client × ν :=
  match t with
  | .info =>
    let unit := (c.unit?.getD 0).toNat
    let kind := c.remoteKind?.getD ""
    (.ok s!"{device}: unit {unit} ({kind})\n", c, net)
  | .read control length =>
    match c.read control (Client.emptyBuffer length) net with
    | (.ok data, c, net) => (.ok (formatPayload data ++ "\n"), c, net)
    | (.error e, c, net) => (.error (transportFailure e), c, net)
  | .write control payload =>
    match c.write control payload net with
    | (.ok _, c, net) => (.ok "", c, net)
    | (.error e, c, net) => (.error (transportFailure e), c, net)

namespace ClientArguments

/-- Opens the device, does the task and closes the device. -/
def converse (a : ClientArguments) (t : ClientTask) (net : ν) : Except Failure String × ν :=
  match Client.make a.server a.device with
  | .error e => (.error (transportFailure e), net)
  | .ok c =>
    match c.connect net with
    | (.error e, _, net) =>
      (.error ((transportFailure e).within s!"could not open {a.device} on {a.server}"), net)
    | (.ok _, c, net) =>
      let (shown, c, net) := t.perform a.device c net
      (shown, (c.disconnect net).2)

/-- Runs the client with arguments that have been read. -/
def run (a : ClientArguments) (net : ν) : Exit × ν :=
  match a.command.task with
  | .error f => (.failed f, net)
  | .ok t =>
    match a.converse t net with
    | (.error f, net) => (.failed f, net)
    | (.ok output, net) => ({ output }, net)

end ClientArguments

end RemoteDevice.CommandLine
