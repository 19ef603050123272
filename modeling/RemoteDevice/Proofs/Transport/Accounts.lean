import RemoteDevice.Proofs.Transport.Filling

/-!
# Proofs.Transport.Accounts — what was sent and read on a line

The account of a line says what its far end sent and received, and what was read and written at this
end. It balances: what was read and what still waits is what was sent, and what was received and
what is still on its way is what was written. Whatever happens on the line, the account keeps doing
so if it takes note of it.
-/

namespace RemoteDevice

/-- What the far end of a line has sent and received, and what was read and written at this end. -/
structure Account where
  sent : Bytes := []
  read : Bytes := []
  written : Bytes := []
  received : Bytes := []
  /-- The far end sends no more. -/
  finished : Bool := false

namespace Account

/-- The account after what the far end does in a moment. -/
def pass (a : Account) : Moment → Account
  | .interrupt | .piece _ => a
  | .feed data => if a.finished then a else { a with sent := a.sent ++ data }
  | .finish => { a with finished := true }

/-- The account after what the far end does meanwhile. -/
def meanwhile (a : Account) (moments : List Moment) : Account :=
  moments.foldl pass a

/-- The account agrees with the line. -/
structure Balances (a : Account) (l : Line) : Prop where
  incoming : a.read ++ l.incoming = a.sent
  outgoing : a.received ++ l.outgoing = a.written
  finished : a.finished = l.ended

namespace Balances

variable {a : Account} {l : Line}

/-- What was read is a front of what the far end sent: in its order, and nothing of it left out. -/
theorem read_front (h : a.Balances l) : a.read <+: a.sent := by
  rw [← h.incoming]
  exact List.prefix_append _ _

/-- What the far end received is a front of what was written. -/
theorem received_front (h : a.Balances l) : a.received <+: a.written := by
  rw [← h.outgoing]
  exact List.prefix_append _ _

/-- On a line on which nothing waits nothing was sent so far. -/
theorem fresh (hincoming : l.incoming = []) :
    Balances { written := l.outgoing, finished := l.ended } l := by
  constructor
  · rw [hincoming]
    rfl
  · rfl
  · rfl

/-- What happens at the far end in a moment keeps the balance. -/
theorem pass (h : a.Balances l) (moment : Moment) : (a.pass moment).Balances (l.pass moment) := by
  cases moment with
  | interrupt => exact h
  | piece n => exact h
  | feed data =>
    show Balances (if a.finished then a else { a with sent := a.sent ++ data }) (l.feed data)
    by_cases hended : l.ended = true
    · rw [if_pos (h.finished.trans hended), Line.feed_of_ended hended]
      exact h
    · rw [if_neg (h.finished ▸ hended), Line.feed_of_not_ended hended]
      constructor
      · show a.read ++ (l.incoming ++ data) = a.sent ++ data
        rw [← List.append_assoc, h.incoming]
      · exact h.outgoing
      · exact h.finished
  | finish =>
    constructor
    · exact h.incoming
    · exact h.outgoing
    · rfl

/-- So does what happens there in any number of moments. -/
theorem meanwhile (h : a.Balances l) (moments : List Moment) :
    (a.meanwhile moments).Balances (l.meanwhile moments) := by
  induction moments generalizing a l with
  | nil => exact h
  | cons moment moments ih => exact ih (h.pass moment)

/-- Bytes that were taken from the front of those that wait have been read. -/
theorem read (h : a.Balances l) (n : Nat) :
    Balances { a with read := a.read ++ l.incoming.take n } (l.consume n) := by
  constructor
  · show (a.read ++ l.incoming.take n) ++ l.incoming.drop n = a.sent
    rw [List.append_assoc, List.take_append_drop, h.incoming]
  · exact h.outgoing
  · exact h.finished

/-- Writing keeps the balance: all of the data is on the line. -/
theorem put (h : a.Balances l) (data : Bytes) :
    Balances { a with written := a.written ++ data } (l.put data) := by
  constructor
  · exact h.incoming
  · show a.received ++ (l.outgoing ++ data) = a.written ++ data
    rw [← List.append_assoc, h.outgoing]
  · exact h.finished

/-- Receiving keeps the balance: the far end takes from the front of what is on the line. -/
theorem receive (h : a.Balances l) (n : Nat) :
    Balances { a with received := a.received ++ (l.receive n).1 } (l.receive n).2 := by
  constructor
  · exact h.incoming
  · show (a.received ++ l.outgoing.take n) ++ l.outgoing.drop n = a.written
    rw [List.append_assoc, List.take_append_drop, h.outgoing]
  · exact h.finished

end Balances

end Account

/-! ## Writing in pieces -/

namespace Line

/-- It does not matter for a writing whether the far end did something before or after it. -/
theorem pass_put (l : Line) (data : Bytes) (moment : Moment) :
    (l.put data).pass moment = (l.pass moment).put data := by
  cases moment with
  | interrupt => rfl
  | piece n => rfl
  | feed piece =>
    show (l.put data).feed piece = (l.feed piece).put data
    by_cases hended : l.ended = true
    · rw [feed_of_ended hended, feed_of_ended (l := l.put data) hended]
    · rw [feed_of_not_ended hended, feed_of_not_ended (l := l.put data) hended]
      rfl
  | finish => rfl

theorem meanwhile_put (l : Line) (data : Bytes) (moments : List Moment) :
    (l.put data).meanwhile moments = (l.meanwhile moments).put data := by
  induction moments generalizing l with
  | nil => rfl
  | cons moment moments ih => rw [meanwhile_cons, meanwhile_cons, pass_put, ih]

/-- In whatever pieces the line takes the bytes, all of them are on their way in the end. -/
theorem write_eq (l : Line) (data : Bytes) (moments : List Moment) :
    l.write data moments = (l.meanwhile moments).put data := by
  induction moments generalizing l data with
  | nil => rfl
  | cons moment moments ih =>
    cases moment with
    | interrupt => exact ih l data
    | piece n =>
      rw [write, ih, meanwhile_put]
      show Line.mk _ _ ((_ ++ data.take (max n 1)) ++ data.drop (max n 1)) = Line.mk _ _ (_ ++ data)
      rw [List.append_assoc, List.take_append_drop]
      rfl
    | feed piece => exact ih (l.feed piece) data
    | finish => exact ih l.finish data

end Line

end RemoteDevice
