import RemoteDevice.Files
import RemoteDevice.Net.HostName

/-!
# Net.Host — the machine a program runs on

A machine where no server is to be found: every attempt to reach one fails, for a reason that
depends on whether the machine has a loopback interface. Without one no address can be reached, not
even its own, and nothing can listen on it. The devices of the machine are among its files.
-/

namespace RemoteDevice.Net

/-- The machine. -/
structure Host where
  loopback : Bool
  files : Files := {}
deriving DecidableEq, Repr

namespace Host

/-- Why a connection to an address fails when no interface leads anywhere. -/
def routeError (a : SocketAddress) : IoError :=
  match a.ip with
  | .v4 _ => .unreachable
  | .v6 groups =>
    if isMapped groups || isMulticast groups then .unreachable
    else if isLinkLocal groups && a.scope == 0 then .invalidArgument
    else .notLocal

/-- Why a connection to a port of the named machine fails. -/
def dialError (h : Host) (name : String) (port : UInt16) : IoError :=
  match HostName.resolve name port.toNat with
  | .error e => e
  | .ok address => if h.loopback then .refused else routeError address

/-- Whether a port is one that only the system may listen on. -/
def isReserved (port : Nat) : Bool :=
  0 < port && port < 1024

/-- Why listening on an address fails, if it does. The port has to be free for all and the address
one of the machine's own; one that is good on one link only needs the number of an interface, of
which there is one. -/
def listenError? (h : Host) (a : SocketAddress) : Option IoError :=
  if isMulticast a.ip.groups then some .invalidArgument
  else if isReserved a.port then some .forbidden
  else if isLinkLocal a.ip.groups then
    some (if a.scope = 0 then .invalidArgument else if a.scope = 1 then .notLocal else .noInterface)
  else if a.ip.isUnspecified || h.loopback && a.ip.isLoopback then none
  else some .notLocal

end Host

end RemoteDevice.Net
