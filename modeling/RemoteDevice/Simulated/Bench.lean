import RemoteDevice.Catalog
import RemoteDevice.Server.Pool
import RemoteDevice.Simulated.Scripted
import RemoteDevice.Simulated.Stores

/-!
# Simulated.Bench — a catalog with simulated devices

The kinds of the default catalog and the simulated ones together, and the log of all that happened
to scripted devices.
-/

namespace RemoteDevice.Simulated

open Server (Call Event)

/-- A transport on a machine, or a simulated one. -/
inductive Benched where
  | onHost (t : OnHost)
  | loopback (l : Loopback)
  | cached (c : Cached)
  | scripted (s : Scripted)

namespace Benched

/-- The name of the kind. -/
def kind : Benched → String
  | onHost t => t.kind
  | loopback _ => Loopback.kind
  | cached _ => Cached.kind
  | scripted _ => Scripted.kind

/-- Acquires the device. -/
def connect : Benched → Outcome Unit × Benched
  | onHost t => t.connect.map id onHost
  | loopback l => (.ok (), loopback { l with isOpen := true })
  | cached c => (.ok (), cached c)
  | scripted s => (s.perform "open").map id scripted

/-- Gives the device back. -/
def disconnect : Benched → Outcome Unit × Benched
  | onHost t => t.disconnect.map id onHost
  | loopback l => (.ok (), loopback { l with isOpen := false })
  | cached c => (.ok (), cached c.disconnect)
  | scripted s => (s.perform "close").map id scripted

/-- Reads into a buffer of the given length. -/
def read (control : UInt32) (length : Nat) : Benched → Outcome Reading × Benched
  | onHost t => (t.read control length).map id onHost
  | loopback l => (.ofResult ((l.read length).map .ofData), loopback l)
  | cached c => (.ofResult ((c.read control length).map .ofData), cached c)
  | scripted s => (s.read control length).map id scripted

/-- Writes bytes. -/
def write (control : UInt32) (data : Bytes) : Benched → Outcome Nat × Benched
  | onHost t => (t.write control data).map id onHost
  | loopback l => (l.write data).map .ok loopback
  | cached c => (c.write data).map .ofResult cached
  | scripted s => (s.write data).map id scripted

/-- The side channel, which simulated devices do not have. -/
def config (op : Config) : Benched → Outcome ConfigReply × Benched
  | onHost t => (t.config op).map id onHost
  | t => Transport.noConfig t.kind t

instance : Transport Benched := ⟨kind, connect, disconnect, read, write, config⟩

end Benched

/-- The catalog with the simulated kinds added. -/
def catalog (host : Net.Host) : Catalog Benched :=
  (Catalog.default host).map .onHost
    |>.register Loopback.kind (fun _ _ => .ok (.loopback {}))
    |>.register Cached.kind (fun _ options => (Cached.make options).map .cached)
    |>.register Scripted.kind (fun _ options => (Scripted.make options).map .scripted)

/-! ## The log of scripted devices -/

/-- The beginning of the data that a log shows. -/
def shownBytes : Nat := 16

/-- A call as the log shows it. -/
def describe : Call → String
  | .connect => "open"
  | .disconnect => "close"
  | .read control length => s!"read {control} {length}"
  | .write control data =>
    s!"write {control} {data.length} {Text.hexBytes (data.take shownBytes)}"

/-- The log of events, the oldest first. Scripted devices have numbers of their own, in the order of
the attempts to make one; `known` holds those of the transports met so far. -/
def logFrom (count : Nat) (known : List (Nat × Nat)) : List Event → List String
  | [] => []
  | .made kind target number :: rest =>
    if kind = Scripted.kind then
      let known := match number with
        | some n => (n, count) :: known
        | none => known
      s!"#{count} create {target}" :: logFrom (count + 1) known rest
    else logFrom count known rest
  | .called number call :: rest =>
    match known.lookup number with
    | some k => s!"#{k} {describe call}" :: logFrom count known rest
    | none => logFrom count known rest
  | .dropped number :: rest =>
    match known.lookup number with
    | some k => s!"#{k} drop" :: logFrom count known rest
    | none => logFrom count known rest

/-- The log of a journal, which has the newest event first. -/
def log (journal : List Event) : List String :=
  logFrom 0 [] journal.reverse

end RemoteDevice.Simulated
