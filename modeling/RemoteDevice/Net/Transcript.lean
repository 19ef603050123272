import RemoteDevice.Net.Network

/-!
# Net.Transcript — a network that remembers

A transcript holds what a network did so far, in order. A program that runs on it gets the same
answers again, up to the first thing it asks for that the transcript does not know: that is its
demand. Whoever meets the demand, adds the answer and runs the program again carries it on to its
end.
-/

namespace RemoteDevice.Net

/-- What a program asks of a network. -/
inductive Demand where
  | dial (host : String) (port : UInt16)
  | deliver (connection : Nat) (data : Bytes)
deriving DecidableEq, Repr

/-- What came of it. -/
inductive Answer where
  | dialled (result : Except IoError Nat)
  | reacted (reaction : Reaction)

/-- The answers that are still to come, and the first demand beyond them. -/
structure Transcript where
  answers : List Answer
  demand : Option Demand := none

namespace Transcript

/-- Demands something, unless something else is demanded already. -/
def ask (d : Demand) (t : Transcript) : Transcript :=
  { t with demand := t.demand <|> some d }

instance : Network Transcript where
  dial host port t :=
    match t.answers with
    | .dialled result :: answers => (result, { t with answers })
    | _ => (.error .wouldBlock, t.ask (.dial host port))
  deliver connection data t :=
    match t.answers with
    | .reacted reaction :: answers => (reaction, { t with answers })
    | _ => ({ hangsUp := true }, t.ask (.deliver connection data))
  hangUp _ t := t

end Transcript

end RemoteDevice.Net
