import RemoteDevice.Proofs.Transport.Accounts
import RemoteDevice.Simulated.Bridge

/-!
# Proofs.Net.Lossless — a TCP line loses nothing

A TCP line is connected, read, written and disconnected, while its far end sends, receives and at
some time sends no more, before, between and during the reads. Every connection has an account of
its own. The account balances as long as the connection is open: what was read and what waits is
what was sent, whatever the pieces and the interruptions were.
-/

namespace RemoteDevice.Simulated

open Net

/-- What happens to a bridge. -/
inductive Happening where
  | dial (answer : Except IoError Unit)
  | disconnect
  | read (length : Nat) (moments : List Moment)
  | write (data : Bytes) (moments : List Moment)
  | send (data : Bytes)
  | finish
  | receive (n : Nat)

/-- A bridge, and the accounts of its connections, the last of them first. -/
structure Watched where
  bridge : Bridge
  accounts : List Account := []

namespace Watched

/-- The accounts after something happened on the open connection, if there is one. -/
def onOpen (f : Account → Account) (w : Watched) : List Account :=
  if w.bridge.tcp.line.isSome then w.accounts.modifyHead f else w.accounts

/-- What happens is noted in the accounts: what a read gave, what a write took, and what the far end
sent and received. A new connection has a new account. -/
def step (w : Watched) : Happening → Watched
  | .dial answer =>
    let bridge := (w.bridge.dial answer).2
    if w.bridge.tcp.line.isNone ∧ bridge.tcp.line.isSome then ⟨bridge, {} :: w.accounts⟩
    else ⟨bridge, w.accounts⟩
  | .disconnect => ⟨w.bridge.disconnect.2, w.accounts⟩
  | .read length moments =>
    let (result, bridge) := w.bridge.readDuring moments length
    ⟨bridge, w.onOpen fun a =>
      let a := a.meanwhile moments
      match result with
      | .ok reading => { a with read := a.read ++ reading.data }
      | .error _ => a⟩
  | .write data moments =>
    let (result, bridge) := w.bridge.writeDuring moments data
    ⟨bridge, w.onOpen fun a =>
      let a := a.meanwhile moments
      match result with
      | .ok n => { a with written := a.written ++ data.take n }
      | .error _ => a⟩
  | .send data => ⟨w.bridge.send data, w.onOpen (·.pass (.feed data))⟩
  | .finish => ⟨w.bridge.finish, w.onOpen (·.pass .finish)⟩
  | .receive n =>
    let (data, bridge) := w.bridge.receive n
    ⟨bridge, w.accounts.modifyHead fun a => { a with received := a.received ++ data }⟩

/-- A bridge without a connection yet, after some things happened one after another. -/
def run (endpoint : Options.Endpoint) (happenings : List Happening) : Watched :=
  happenings.foldl step { bridge := { tcp := { endpoint } } }

/-- The accounts agree with the bridge, whose state is that of the last connection. -/
structure Balanced (w : Watched) : Prop where
  /-- The account of an open connection agrees with its line. -/
  open_line : ∀ line, w.bridge.tcp.line = some line →
    ∃ a older, w.accounts = a :: older ∧ a.Balances line
  /-- Of the last connection that was closed, the far end may still receive what was written. -/
  closed_line : w.bridge.tcp.line = none →
    (w.accounts = [] ∧ w.bridge.left = []) ∨
      ∃ a older, w.accounts = a :: older ∧ a.received ++ w.bridge.left = a.written
  /-- On no connection was anything read that was not sent on it, nor received that was not
  written. -/
  connections : ∀ a ∈ w.accounts, a.read <+: a.sent ∧ a.received <+: a.written

end Watched

/-- What the calls on a bridge come to. -/
structure Calls (b : Bridge) : Prop where
  /-- A read gives of the bytes that wait, with those that arrive meanwhile, as many as fit into the
  buffer, and leaves the others. -/
  read_open : ∀ line length moments, b.tcp.line = some line →
    b.readDuring moments length =
      (.ok (.ofData ((line.meanwhile moments).incoming.take length)),
        b.onLine fun line => (line.meanwhile moments).consume length)
  /-- If nothing more arrives, these are the bytes that wait. -/
  read_still : ∀ line length moments, b.tcp.line = some line → (∀ data, .feed data ∉ moments) →
    (b.readDuring moments length).1 = .ok (.ofData (line.incoming.take length))
  /-- A write takes all the bytes, and they are on their way to the far end. -/
  write_open : ∀ line data moments, b.tcp.line = some line →
    b.writeDuring moments data =
      (.ok data.length, b.onLine fun line => (line.meanwhile moments).put data)
  read_closed : ∀ length moments, b.tcp.line = none →
    b.readDuring moments length = (.error (.error .notOpen), b)
  write_closed : ∀ data moments, b.tcp.line = none →
    b.writeDuring moments data = (.error (.error .notOpen), b)
  /-- A new connection begins with nothing on its line. -/
  dial_closed : b.tcp.line = none →
    b.connect = (.ok (), { b with tcp := { b.tcp with line := some {} } })
  /-- Closing leaves no line. -/
  disconnect : (b.disconnect.2).tcp.line = none

/-! ## Calls -/

/-- Bytes that do not arrive change nothing of what waits. -/
theorem incoming_meanwhile {moments : List Moment} (h : ∀ data, .feed data ∉ moments)
    (line : Line) : (line.meanwhile moments).incoming = line.incoming := by
  induction moments generalizing line with
  | nil => rfl
  | cons moment moments ih =>
    have hrest : ∀ data, .feed data ∉ moments := by
      intro data hmem
      exact h data (List.mem_cons_of_mem _ hmem)
    rw [Line.meanwhile_cons, ih hrest]
    cases moment with
    | interrupt => rfl
    | piece n => rfl
    | feed data => exact absurd List.mem_cons_self (h data)
    | finish => rfl

namespace Bridge

/-- Everything that waits is read, up to the length of the buffer. -/
theorem readDuring_of_open {b : Bridge} {line : Line} (hline : b.tcp.line = some line)
    (moments : List Moment) (length : Nat) :
    b.readDuring moments length =
      (.ok (.ofData ((line.meanwhile moments).incoming.take length)),
        b.onLine fun line => (line.meanwhile moments).consume length) := by
  have hread := line.fill_arrivals moments length (List.replicate length 0)
  dsimp only at hread
  rw [List.length_replicate, Nat.min_self] at hread
  obtain ⟨n, hresult, hafter, hleast, hmost, hfits⟩ := hread
  -- the buffer is full, or nothing waits any more
  have hsame : (line.meanwhile moments).incoming.take n =
        (line.meanwhile moments).incoming.take length ∧
      (line.meanwhile moments).consume n = (line.meanwhile moments).consume length := by
    rcases Nat.le_total length (line.meanwhile moments).incoming.length with hle | hle
    · obtain rfl : n = length := by omega
      exact ⟨rfl, rfl⟩
    · obtain rfl : n = (line.meanwhile moments).incoming.length := by omega
      constructor
      · rw [List.take_length, List.take_of_length_le hle]
      · rw [Line.consume, Line.consume, List.drop_length, List.drop_eq_nil_of_le hle]
  rw [hsame.1] at hresult
  rw [hsame.2] at hafter
  have hmapped := congrArg (Except.mapError Transport.Error.io) hresult
  unfold readDuring TcpLine.read onLine
  simp only [hline, hmapped, hafter, Option.map_some]
  rfl

/-- An open bridge puts all of the data on the line, once what happens meanwhile is over. -/
theorem writeDuring_of_open {b : Bridge} {line : Line} (hline : b.tcp.line = some line)
    (moments : List Moment) (data : Bytes) :
    b.writeDuring moments data =
      (.ok data.length, b.onLine fun line => (line.meanwhile moments).put data) := by
  unfold writeDuring TcpLine.write onLine
  simp only [hline, Line.write_eq, Outcome.ofResult, Option.map_some]

/-- Without a connection nothing happens to a line. -/
theorem onLine_of_closed {b : Bridge} (hline : b.tcp.line = none) (f : Line → Line) :
    b.onLine f = b := by
  unfold onLine
  rw [hline, Option.map_none, ← hline]

/-- A bridge that is closed reads nothing. -/
theorem readDuring_of_closed {b : Bridge} (hline : b.tcp.line = none) (moments : List Moment)
    (length : Nat) : b.readDuring moments length = (.error (.error .notOpen), b) := by
  unfold readDuring TcpLine.read
  simp only [hline, Outcome.ofResult, Except.map]

theorem writeDuring_of_closed {b : Bridge} (hline : b.tcp.line = none) (moments : List Moment)
    (data : Bytes) : b.writeDuring moments data = (.error (.error .notOpen), b) := by
  unfold writeDuring TcpLine.write
  simp only [hline, Outcome.ofResult]

/-- A connection that stands is kept. -/
theorem dial_of_open {b : Bridge} {line : Line} (hline : b.tcp.line = some line)
    (answer : Except IoError Unit) : b.dial answer = (.ok (), b) := by
  unfold dial TcpLine.connect
  simp only [hline, Outcome.ofResult]

/-- Dialling opens a new line, on which there is nothing yet. -/
theorem dial_of_closed {b : Bridge} (hline : b.tcp.line = none) :
    b.dial (.ok ()) = (.ok (), { b with tcp := { b.tcp with line := some {} } }) := by
  unfold dial TcpLine.connect
  simp only [hline, Outcome.ofResult, Except.map]

/-- A bridge that is refused stays closed. -/
theorem dial_of_refused {b : Bridge} (hline : b.tcp.line = none) (e : IoError) :
    b.dial (.error e) = (.error (.error (.io e)), b) := by
  unfold dial TcpLine.connect
  simp only [hline, Outcome.ofResult, Except.map]

theorem calls (b : Bridge) : Calls b := by
  constructor
  · intro line length moments hline
    exact readDuring_of_open hline moments length
  · intro line length moments hline hstill
    rw [readDuring_of_open hline, incoming_meanwhile hstill]
  · intro line data moments hline
    exact writeDuring_of_open hline moments data
  · intro length moments hline
    exact readDuring_of_closed hline moments length
  · intro data moments hline
    exact writeDuring_of_closed hline moments data
  · intro hline
    exact dial_of_closed hline
  · rfl

end Bridge

/-! ## Runs -/

namespace Watched

variable {w : Watched}

/-- What happens on the open connection happens to its account. -/
theorem Balanced.on_open (h : w.Balanced) {f : Account → Account} {g : Line → Line}
    (hfg : ∀ a line, w.bridge.tcp.line = some line → a.Balances line → (f a).Balances (g line)) :
    Balanced ⟨w.bridge.onLine g, w.onOpen f⟩ := by
  cases hline : w.bridge.tcp.line with
  | none =>
    rw [Bridge.onLine_of_closed hline, onOpen, hline]
    exact h
  | some line =>
    obtain ⟨a, older, haccounts, ha⟩ := h.open_line line hline
    have hafter := hfg a line hline ha
    have honLine : (w.bridge.onLine g).tcp.line = some (g line) := by
      unfold Bridge.onLine
      rw [hline, Option.map_some]
    have honOpen : w.onOpen f = f a :: older := by
      rw [onOpen, hline, haccounts]
      rfl
    constructor
    · intro line' hline'
      obtain rfl := Option.some.inj (honLine.symm.trans hline')
      exact ⟨f a, older, honOpen, hafter⟩
    · intro hnone
      rw [honLine] at hnone
      cases hnone
    · show ∀ b ∈ w.onOpen f, _
      rw [honOpen]
      intro b hb
      rcases List.mem_cons.1 hb with rfl | hb
      · exact ⟨hafter.read_front, hafter.received_front⟩
      · exact h.connections b (by simp [haccounts, hb])

/-- A call that fails for want of a connection changes nothing. -/
theorem onOpen_of_closed (hline : w.bridge.tcp.line = none) (f : Account → Account) :
    w.onOpen f = w.accounts := by
  rw [onOpen, hline]
  rfl

/-- An opening keeps the accounts: the new connection starts with an account of its own. -/
theorem Balanced.dial (h : w.Balanced) (answer : Except IoError Unit) :
    (w.step (.dial answer)).Balanced := by
  cases hline : w.bridge.tcp.line with
  | some line =>
    have hstep : w.step (.dial answer) = w := by
      simp [step, Bridge.dial_of_open hline, hline]
    rw [hstep]
    exact h
  | none =>
    cases answer with
    | error e =>
      have hstep : w.step (.dial (.error e)) = w := by
        simp [step, Bridge.dial_of_refused hline, hline]
      rw [hstep]
      exact h
    | ok =>
      have hstep : w.step (.dial (.ok ())) =
          ⟨{ w.bridge with tcp := { w.bridge.tcp with line := some {} } }, {} :: w.accounts⟩ := by
        simp [step, Bridge.dial_of_closed hline, hline]
      rw [hstep]
      constructor
      · intro line hnew
        obtain rfl := Option.some.inj hnew
        exact ⟨{}, w.accounts, rfl, .fresh (l := {}) rfl⟩
      · intro hnone
        cases hnone
      · intro a ha
        rcases List.mem_cons.1 ha with rfl | ha
        · exact ⟨List.prefix_refl _, List.prefix_refl _⟩
        · exact h.connections a ha

/-- A closing keeps the accounts: what was on its way to the far end is left for it there. -/
theorem Balanced.disconnect (h : w.Balanced) : (w.step .disconnect).Balanced := by
  constructor
  · intro line hline
    cases hline
  · intro _
    show _ ∨ ∃ a older, w.accounts = a :: older ∧ a.received ++ w.bridge.disconnect.2.left = a.written
    cases hline : w.bridge.tcp.line with
    | none =>
      have hleft : w.bridge.disconnect.2.left = w.bridge.left := by
        unfold Bridge.disconnect
        rw [hline]
      have hclosed := h.closed_line hline
      rw [← hleft] at hclosed
      exact hclosed
    | some line =>
      have hleft : w.bridge.disconnect.2.left = line.outgoing := by
        unfold Bridge.disconnect
        rw [hline]
      obtain ⟨a, older, haccounts, ha⟩ := h.open_line line hline
      rw [hleft]
      exact .inr ⟨a, older, haccounts, ha.outgoing⟩
  · exact h.connections

/-- A reading keeps the accounts. -/
theorem Balanced.read (h : w.Balanced) (length : Nat) (moments : List Moment) :
    (w.step (.read length moments)).Balanced := by
  cases hline : w.bridge.tcp.line with
  | none =>
    have hstep : w.step (.read length moments) = w := by
      simp [step, Bridge.readDuring_of_closed hline, onOpen_of_closed hline]
    rw [hstep]
    exact h
  | some line =>
    have hread := Bridge.readDuring_of_open hline moments length
    simp only [step, hread]
    apply h.on_open
    intro a line' hline' ha
    obtain rfl := Option.some.inj (hline.symm.trans hline')
    exact (ha.meanwhile moments).read length

/-- A writing keeps the accounts. -/
theorem Balanced.write (h : w.Balanced) (data : Bytes) (moments : List Moment) :
    (w.step (.write data moments)).Balanced := by
  cases hline : w.bridge.tcp.line with
  | none =>
    have hstep : w.step (.write data moments) = w := by
      simp [step, Bridge.writeDuring_of_closed hline, onOpen_of_closed hline]
    rw [hstep]
    exact h
  | some line =>
    have hwrite := Bridge.writeDuring_of_open hline moments data
    simp only [step, hwrite, List.take_length]
    apply h.on_open
    intro a line' hline' ha
    exact (ha.meanwhile moments).put data

theorem Balanced.receive (h : w.Balanced) (n : Nat) : (w.step (.receive n)).Balanced := by
  cases hline : w.bridge.tcp.line with
  | some line =>
    have hstep : w.step (.receive n) = ⟨w.bridge.onLine fun line => (line.receive n).2,
        w.onOpen fun a => { a with received := a.received ++ (line.receive n).1 }⟩ := by
      simp [step, Bridge.receive, Bridge.onLine, onOpen, hline]
    rw [hstep]
    apply h.on_open
    intro a line' hline' ha
    obtain rfl := Option.some.inj (hline.symm.trans hline')
    exact ha.receive n
  | none =>
    -- what is received then was left by the connection that was closed last
    have hstep : w.step (.receive n) = ⟨{ w.bridge with left := w.bridge.left.drop n },
        w.accounts.modifyHead fun a => { a with received := a.received ++ w.bridge.left.take n }⟩ := by
      simp [step, Bridge.receive, hline]
    rw [hstep]
    rcases h.closed_line hline with ⟨haccounts, hleft⟩ | ⟨a, older, haccounts, hleft⟩
    · rw [haccounts, hleft, List.drop_nil]
      constructor
      · intro line hopen
        rw [hline] at hopen
        cases hopen
      · intro _
        exact .inl ⟨rfl, rfl⟩
      · intro a ha
        cases ha
    · rw [haccounts]
      constructor
      · intro line hopen
        rw [hline] at hopen
        cases hopen
      · intro _
        refine .inr ⟨_, older, rfl, ?_⟩
        rw [List.append_assoc, List.take_append_drop, hleft]
      · intro b hb
        rcases List.mem_cons.1 hb with rfl | hb
        · constructor
          · exact (h.connections a (by simp [haccounts])).1
          · rw [← hleft]
            exact (List.prefix_append_right_inj _).2 (List.take_prefix _ _)
        · exact h.connections b (by simp [haccounts, hb])

/-- Whatever happens keeps the accounts. -/
theorem Balanced.step (h : w.Balanced) (happening : Happening) : (w.step happening).Balanced := by
  cases happening with
  | dial answer => exact h.dial answer
  | disconnect => exact h.disconnect
  | read length moments => exact h.read length moments
  | write data moments => exact h.write data moments
  | send data =>
    apply h.on_open
    intro a line _ ha
    exact ha.pass (.feed data)
  | finish =>
    apply h.on_open
    intro a line _ ha
    exact ha.pass .finish
  | receive n => exact h.receive n

/-- Before the first connection there is nothing to account for. -/
theorem balanced_start (endpoint : Options.Endpoint) :
    Balanced { bridge := { tcp := { endpoint } } } := by
  constructor
  · intro line hline
    cases hline
  · intro _
    exact .inl ⟨rfl, rfl⟩
  · intro a ha
    cases ha

/-- Whatever happens, the accounts of all connections balance, and the calls on the bridge come to
what its state says. -/
theorem balanced_run (endpoint : Options.Endpoint) (happenings : List Happening) :
    (run endpoint happenings).Balanced ∧ Calls (run endpoint happenings).bridge := by
  constructor
  · -- whatever happens next keeps the balance
    refine List.foldlRecOn happenings step (balanced_start endpoint) ?_
    intro w h happening _
    exact h.step happening
  · exact Bridge.calls _

end Watched

end RemoteDevice.Simulated
