import RemoteDevice.CommandLine.ClientProgram
import RemoteDevice.CommandLine.ServerProgram
import RemoteDevice.Net.Transcript
import RemoteDevice.Server
import Std.Async.DNS
import Std.Async.Select
import Std.Async.TCP
import Std.Async.Timer

/-!
# Main — the programs

The client, and behind the word `serve` the server. All that is here is moving bytes: sockets are
read and written, and what is to be done with the bytes is decided elsewhere.
-/

namespace RemoteDevice.Main

open Net CommandLine Std.Async

/-- The most bytes taken from a socket at a time. -/
def pieceSize : UInt64 := 65536

/-- A failure of the machine. -/
def failureOf (e : IO.Error) : IoError :=
  .other (toString e)

/-- An address in the form of the sockets. -/
def socketAddress (a : SocketAddress) : Std.Net.SocketAddress :=
  let byte (bytes : List Nat) (i : Nat) : UInt8 := UInt8.ofNat (bytes.getD i 0)
  let group (groups : List Nat) (i : Nat) : UInt16 := UInt16.ofNat (groups.getD i 0)
  match a.ip with
  | .v4 b => .v4 ⟨.ofParts (byte b 0) (byte b 1) (byte b 2) (byte b 3), UInt16.ofNat a.port⟩
  | .v6 g =>
    .v6 ⟨.ofParts (group g 0) (group g 1) (group g 2) (group g 3) (group g 4) (group g 5)
      (group g 6) (group g 7), UInt16.ofNat a.port⟩

/-! ## The client -/

/-- A connected socket, or why there is none. -/
def dial (host : String) (port : UInt16) : IO (Except IoError TCP.Socket.Client) := do
  try
    let addresses ← (DNS.getAddrInfo host (toString port)).block
    match addresses[0]? with
    | none => return .error .unresolved
    | some ip =>
      let socket ← TCP.Socket.Client.mk
      (socket.connect (match ip with
        | .v4 addr => .v4 ⟨addr, port⟩
        | .v6 addr => .v6 ⟨addr, port⟩)).block
      return .ok socket
  catch e => return .error (failureOf e)

/-- What comes from a socket in time: some bytes, its end, or nothing. -/
def receive (socket : TCP.Socket.Client) : IO (Option (Option ByteArray)) :=
  Async.block do
    let clock ← Selector.sleep (Std.Time.Millisecond.Offset.ofNat Client.defaultTimeoutMs)
    Selectable.one #[
      .case (socket.recvSelector pieceSize) fun data => return some data,
      .case clock fun _ => return none]

/-- Delivers bytes and gathers what comes until a message is complete. -/
def deliver (socket : TCP.Socket.Client) (data : Bytes) : IO Reaction := do
  try
    (socket.send ⟨data.toArray⟩).block
    let mut gathered : Bytes := []
    repeat
      match ← receive socket with
      | none => return ⟨gathered, false⟩
      | some none => return ⟨gathered, true⟩
      | some (some piece) =>
        gathered := gathered ++ piece.toList
        if (Wire.Framing.decode? gathered).isSome then return ⟨gathered, false⟩
    return ⟨gathered, true⟩
  catch _ => return ⟨[], true⟩

/-- Runs the client, meeting its demands one after another. -/
def runClient (a : ClientArguments) : IO Exit := do
  let mut answers : Array Answer := #[]
  let mut sockets : Array TCP.Socket.Client := #[]
  repeat
    let (exit, transcript) := a.run (Transcript.mk answers.toList none)
    match transcript.demand with
    | none => return exit
    | some (.dial host port) =>
      match ← dial host port with
      | .error e => answers := answers.push (.dialled (.error e))
      | .ok socket =>
        answers := answers.push (.dialled (.ok sockets.size))
        sockets := sockets.push socket
    | some (.deliver connection data) =>
      match sockets[connection]? with
      | none => answers := answers.push (.reacted { hangsUp := true })
      | some socket => answers := answers.push (.reacted (← deliver socket data))
  return {}

/-- The client with its arguments. -/
def client (args : List String) : IO Exit :=
  match ClientArguments.read args with
  | .error u => return .unused u ClientArguments.manual "rdev 0.1.0\n"
  | .ok a => runClient a

/-! ## The server -/

/-- The machine that devices are on. -/
def host : Host := { loopback := true }

/-- Serves one connection to its end. -/
def serveConnection (state : IO.Ref (Server OnHost)) (socket : TCP.Socket.Client) : Async Unit := do
  let n ← state.modifyGet (·.accept)
  try
    repeat
      match ← socket.recv? pieceSize with
      | none => break
      | some data =>
        let reaction ← state.modifyGet (·.receive n data.toList)
        socket.send ⟨reaction.bytes.toArray⟩
        if reaction.hangsUp then break
  catch _ => pure ()
  state.modify (·.finish n)

/-- Accepts connections for as long as the program runs. -/
def serve (c : Server.Configuration) : IO Exit := do
  try
    let listener ← TCP.Socket.Server.mk
    listener.bind (socketAddress c.listen)
    listener.listen 128
    let state ← IO.mkRef ({ registry := .make c.devices (Catalog.default host) } : Server OnHost)
    Async.block do
      repeat
        let socket ← listener.accept
        background (serveConnection state socket)
    return {}
  catch e => return .failed ⟨(failureOf e).message, []⟩

/-- The contents of a file. -/
def contents (path : String) : IO (Except IoError Bytes) := do
  try
    return .ok (← IO.FS.readBinFile path).toList
  catch
    | .noFileOrDirectory .. => return .error .notFound
    | e => return .error (failureOf e)

/-- The server with its arguments. -/
def server (args : List String) : IO Exit := do
  match ServerArguments.read args with
  | .error u => return .unused u ServerArguments.manual "rdevd 0.1.0\n"
  | .ok a =>
    match a.prepare (Catalog.default host) (← contents a.config) with
    | .error e => return .failed (ServerArguments.configurationFailure e)
    | .ok c => serve c

end RemoteDevice.Main

/-- Runs the program that the arguments name. -/
def main (args : List String) : IO UInt32 := do
  let exit ← match args with
    | "serve" :: rest => RemoteDevice.Main.server rest
    | args => RemoteDevice.Main.client args
  IO.print exit.output
  IO.eprint exit.errors
  return UInt32.ofNat exit.code
