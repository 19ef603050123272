import RemoteDevice.CommandLine.Arguments
import RemoteDevice.CommandLine.Report
import RemoteDevice.Server.ConfigurationFile

/-!
# CommandLine.ServerProgram — the server at the command line

The program reads its configuration from a file, checks it, and serves on the address it is given
or, failing that, on the one in the file.
-/

namespace RemoteDevice.CommandLine

open Server

/-- The arguments of the server. -/
structure ServerArguments where
  config : String
  listen : Option Net.SocketAddress
deriving DecidableEq, Repr

namespace ServerArguments

/-- The server. -/
def form : Form where
  options := [
    { name := "config", letter := 'c', required := true
      complaint := fun s => if s = "" then some .missingValue else none },
    { name := "listen", letter := 'l'
      complaint := fun s =>
        if (Net.SocketAddress.parse? s).isSome then none else some .refusedValue }]
  versioned := true

/-- Reads the arguments. -/
def read (args : List String) : Except Usage ServerArguments :=
  (form.read args {}).map fun values =>
    ⟨(values.lookup "config").getD "", (values.lookup "listen").bind Net.SocketAddress.parse?⟩

/-- The manual of the server. -/
def manual : String :=
  "Usage: rdevd -c FILE [-l ADDRESS]\n\n" ++
  "Options:\n" ++
  "  -c, --config FILE     Device configuration file\n" ++
  "  -l, --listen ADDRESS  Address to listen on, overrides the configuration\n"

/-- The failure of a configuration in words. -/
def configurationFailure (e : Configuration.Error) : Failure :=
  ⟨e.message, e.causes⟩

/-- What the server is going to serve, and where, given what reading its file comes to. -/
def prepare {τ : Type} (a : ServerArguments) (catalog : Catalog τ)
    (contents : Except IoError Bytes) : Except Configuration.Error Configuration := do
  let c ← Configuration.load a.config contents
  c.validate catalog
  .ok { c with listen := a.listen.getD c.listen }

/-- What the server comes to on a machine, if it cannot serve there. -/
def refusal? (c : Configuration) (host : Net.Host) : Option Failure :=
  (host.listenError? c.listen).map fun e => ⟨e.message, []⟩

end ServerArguments

end RemoteDevice.CommandLine
