import RemoteDevice.Transport.Options

/-!
# Serial.Settings — how a serial line is driven

The options of a serial line are baud rate, data bits, parity, stop bits, the least number of bytes
a read waits for, and how long it waits, in tenths of a second. Each may be left out or zero.
-/

namespace RemoteDevice.Serial

open Options

/-- Bits that carry data. -/
inductive DataBits where
  | five
  | six
  | seven
  | eight
deriving DecidableEq, Repr

/-- Their number. -/
def DataBits.count : DataBits → Nat
  | five => 5
  | six => 6
  | seven => 7
  | eight => 8

/-- The bit that checks the others. -/
inductive Parity where
  | none
  | even
  | odd
deriving DecidableEq, Repr

/-- Bits that end a character. -/
inductive StopBits where
  | one
  | two
deriving DecidableEq, Repr

/-- Their number. -/
def StopBits.count : StopBits → Nat
  | one => 1
  | two => 2

/-- The settings of a serial line; the defaults are those of a line without options. -/
structure Settings where
  baud : UInt32 := 9600
  dataBits : DataBits := .eight
  parity : Parity := .none
  stopBits : StopBits := .one
  vmin : Nat := 0
  timeoutMs : Nat := 500
deriving DecidableEq, Repr

/-- The data bits a number stands for. -/
def DataBits.ofNumber (n : UInt32) : Except Transport.Error DataBits :=
  if n = 5 then .ok five
  else if n = 6 then .ok six
  else if n = 7 then .ok seven
  else if n = 8 then .ok eight
  else .error (.malformed (.dataBits n.toNat))

/-- The parity whose first letter a text begins with. -/
def Parity.ofText (s : String) : Except Transport.Error Parity :=
  match s.toList.head?.map Char.toUpper with
  | Option.none => .ok none
  | some 'N' => .ok none
  | some 'E' => .ok even
  | some 'O' => .ok odd
  | some c => .error (.malformed (.parity c))

/-- The settings an option text denotes. -/
def Settings.parse (options : String) : Except Transport.Error Settings := do
  let dataBits ← DataBits.ofNumber (← numberOr (field options 1) 8)
  let parity ← Parity.ofText (field options 2)
  let stopBits : StopBits := if (← numberOr (field options 3) 1) = 2 then .two else .one
  let vtime ← numberOr (field options 5) 5
  let baud ← numberOr (field options 0) 9600
  let vmin ← numberOr (field options 4) 0
  .ok { baud, dataBits, parity, stopBits, vmin := vmin.toNat, timeoutMs := vtime.toNat * 100 }

end RemoteDevice.Serial
