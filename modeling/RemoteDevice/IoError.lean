/-!
# IoError — what the machine under the program reports

Failures of the operating system carry their number; the others come from the reading and writing of
byte streams. Each has one text.
-/

namespace RemoteDevice

/-- A failed input or output. -/
inductive IoError where
  /-- A failure the operating system reports by number. -/
  | os (number : Nat) (text : String)
  /-- The stream ended inside what was asked for. -/
  | unexpectedEnd
  /-- A writer took no more bytes. -/
  | writeZero
  /-- A stream ended inside a message. -/
  | bytesRemaining
  /-- The bytes of a file are not a text. -/
  | notText
  /-- Any other failure. -/
  | other (text : String)
deriving DecidableEq, Repr

namespace IoError

/-- Nothing listens at the address. -/
def refused : IoError := .os 111 "Connection refused"

/-- No interface leads to the address. -/
def unreachable : IoError := .os 101 "Network is unreachable"

/-- The address belongs to another machine. -/
def notLocal : IoError := .os 99 "Cannot assign requested address"

/-- There is no such file. -/
def notFound : IoError := .os 2 "No such file or directory"

/-- The file is a directory. -/
def isDirectory : IoError := .os 21 "Is a directory"

/-- What should be a directory is none. -/
def notDirectory : IoError := .os 20 "Not a directory"

/-- A name or a path is longer than any file's. -/
def nameTooLong : IoError := .os 36 "File name too long"

/-- The file is no terminal. -/
def notTerminal : IoError := .os 25 "Not a typewriter"

/-- What is asked for is reserved for the system. -/
def forbidden : IoError := .os 13 "Permission denied"

/-- The interface that an address names is not there. -/
def noInterface : IoError := .os 19 "No such device"

/-- What is asked for makes no sense. -/
def invalidArgument : IoError := .os 22 "Invalid argument"

/-- Nothing is there, and the line is not asked to wait for more. -/
def wouldBlock : IoError := .os 11 "Resource temporarily unavailable"

/-- Nobody can be asked what address the name of a machine stands for. -/
def unresolved : IoError :=
  .other "failed to lookup address information: Temporary failure in name resolution"

/-- The text is not the name of a machine. -/
def unknownName : IoError :=
  .other "failed to lookup address information: Name or service not known"

/-- A name has a zero character in it. -/
def zeroInName : IoError :=
  .other "file name contained an unexpected NUL byte"

/-- Whether something did not come in time: now, or within the time a connection is given. -/
def isTimeout : IoError → Bool
  | .os number _ => number == 11 || number == 110
  | _ => false

/-- What failed, without the number. -/
def reason : IoError → String
  | .os _ text => text
  | .unexpectedEnd => "failed to fill whole buffer"
  | .writeZero => "failed to write whole buffer"
  | .bytesRemaining => "bytes remaining on stream"
  | .notText => "stream did not contain valid UTF-8"
  | .other text => text

/-- The text of the failure. -/
def message (e : IoError) : String :=
  match e with
  | .os number text => s!"{text} (os error {number})"
  | e => e.reason

end IoError

end RemoteDevice
