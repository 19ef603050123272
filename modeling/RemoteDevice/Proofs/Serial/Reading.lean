import Mathlib.Data.List.Induction
import RemoteDevice.Proofs.Transport.Accounts
import RemoteDevice.Serial.Port

/-!
# Proofs.Serial.Reading — a serial port waits for as much as it was told to, and loses nothing

A read of a serial port makes requests until it has as many bytes as the settings ask for and the
buffer has room for. Whatever the device answers, the bytes that it gave stand at the front of the
buffer, in their order, and no others do. What a read does not take waits for the next one, so that
from the opening of the port on, what was read and what waits is what was fed.
-/

namespace RemoteDevice.Serial

/-! ## One read -/

/-- A number between bounds that do not cross. -/
theorem clamp?_eq {low high : Nat} (h : low ≤ high) (n : Nat) :
    clamp? low high n = some (min (max n low) high) := by
  unfold clamp?
  rw [if_neg (Nat.not_lt.2 h)]
  congr 1
  split
  · omega
  · split
    · omega
    · omega

namespace Port

/-- How many bytes a read waits for: as many as the settings say, but at least one, and no more than
the buffer has room for. -/
def wanted (length : Nat) (p : Port) : Nat :=
  min (max p.settings.vmin 1) length

/-- This came of a read into a buffer, which got these answers of the device and asked for some of
them. -/
structure Reads (p : Port) (buffer : Bytes) (answers asked : List Arrival) (progress : Progress) :
    Prop where
  in_order : answers = asked ++ progress.unasked
  /-- The bytes stand at the front of the buffer, as many as there is room for, and behind them it is
  as it was. -/
  buffer_eq : progress.filling.buffer =
    (bytesOf asked).take buffer.length ++ buffer.drop (bytesOf asked).length
  filled_eq : progress.filling.filled = min buffer.length (bytesOf asked).length
  /-- If the device gave no more at a time than there was room for, these are all its bytes. -/
  stored : (∀ before piece, before ++ [.bytes piece] <+: asked →
      (bytesOf before).length + piece.length ≤ buffer.length) →
    progress.filling.buffer = bytesOf asked ++ buffer.drop (bytesOf asked).length ∧
      progress.filling.filled = (bytesOf asked).length
  /-- For an empty buffer nothing is asked of the device. -/
  untouched : buffer = [] → asked = [] ∧ progress.result = .ok []
  /-- A request is made only if there are too few bytes and no answer before ended the read. -/
  needed : ∀ before answer, before ++ [answer] <+: asked →
    (bytesOf before).length < p.wanted buffer.length ∧ ∀ a ∈ before, a.GoesOn
  /-- The read ends with enough bytes, or with an answer that nothing came, or with a failure. -/
  ending : match progress.asking with
    | .enough => p.wanted buffer.length ≤ progress.filling.filled
    | .silent => ∃ before answer, asked = before ++ [answer] ∧ answer.IsSilence
    | .failed e => ∃ before, asked = before ++ [.failed e]
    | .waiting => progress.unasked = [] ∧ ∀ a ∈ asked, a.GoesOn
  /-- Whatever came of it that is no failure is the front of the buffer. -/
  result_eq : (∀ e, progress.asking ≠ .failed e) →
    progress.result = .ok (progress.filling.buffer.take progress.filling.filled)

theorem wanted_le (length : Nat) (p : Port) : p.wanted length ≤ length :=
  Nat.min_le_right _ _

/-- The number of bytes to wait for can be told whenever there is room for one. -/
theorem wanted?_eq {length : Nat} (h : 0 < length) (p : Port) :
    p.wanted? length = some (p.wanted length) :=
  clamp?_eq h _

/-- For an empty buffer nothing is asked. -/
theorem fill?_nil (p : Port) (answers : List Arrival) :
    p.fill? [] answers = some ⟨.enough, .start [], answers⟩ :=
  if_pos rfl

theorem fill?_of_ne_nil {buffer : Bytes} (h : buffer ≠ []) (p : Port) (answers : List Arrival) :
    p.fill? buffer answers =
      some ((Filling.start buffer).fill (p.wanted buffer.length) answers) := by
  rw [fill?, if_neg h, wanted?_eq (List.length_pos_iff.2 h), Option.map_some]

/-- Pieces that each fit fit together. -/
theorem length_bytesOf_le {asked : List Arrival} {room : Nat}
    (h : ∀ before piece, before ++ [.bytes piece] <+: asked →
      (bytesOf before).length + piece.length ≤ room) : (bytesOf asked).length ≤ room := by
  -- induction from the end: the last answer fits behind those before it
  induction asked using List.reverseRecOn with
  | nil => exact Nat.zero_le _
  | append_singleton asked last ih =>
    have hbefore := ih fun before piece hfront =>
      h before piece (hfront.trans (List.prefix_append _ _))
    rw [bytesOf_append, List.length_append]
    cases last with
    | bytes piece => simpa [Arrival.taken] using h asked piece (List.prefix_refl _)
    | interrupted => simpa [Arrival.taken] using hbefore
    | quiet => simpa [Arrival.taken] using hbefore
    | failed e => simpa [Arrival.taken] using hbefore

/-- The bytes of the answers asked for are those that stand in the buffer. -/
theorem Reads.of_asked {p : Port} {buffer : Bytes} (h : buffer ≠ []) {answers asked : List Arrival}
    {progress : Progress} (hanswers : answers = asked ++ progress.unasked)
    (hasked : Asked (p.wanted buffer.length) (.start buffer) asked progress) :
    p.Reads buffer answers asked progress := by
  have hbuffer : progress.filling.buffer =
      (bytesOf asked).take buffer.length ++ buffer.drop (bytesOf asked).length := by
    rw [hasked.filling, Filling.buffer_start_add]
  have hfilled : progress.filling.filled = min buffer.length (bytesOf asked).length := by
    rw [hasked.filling, Filling.filled_start_add]
  have hwanted := p.wanted_le buffer.length
  constructor
  · exact hanswers
  · exact hbuffer
  · exact hfilled
  · intro hfits
    have hle := length_bytesOf_le hfits
    constructor
    · rw [hbuffer, List.take_of_length_le hle]
    · rw [hfilled, Nat.min_eq_right hle]
  · intro hnil
    exact absurd hnil h
  · intro before answer hfront
    obtain ⟨hfew, hall⟩ := hasked.needed before answer hfront
    rw [Filling.filled_start_add] at hfew
    constructor
    · omega
    · exact hall
  · have hending := hasked.ending
    cases hasking : progress.asking with
    | enough =>
      rw [hasking] at hending
      exact hending.1
    | silent =>
      rw [hasking] at hending
      exact hending
    | failed e =>
      rw [hasking] at hending
      exact hending
    | waiting =>
      rw [hasking] at hending
      exact ⟨hending.2.2, hending.2.1⟩
  · intro hno
    cases hasking : progress.asking with
    | enough => rw [Progress.result, hasking, Filling.data]
    | silent => rw [Progress.result, hasking, Filling.data]
    | failed e => exact absurd hasking (hno e)
    | waiting => rw [Progress.result, hasking, Filling.data]

theorem Reads.nil (p : Port) (answers : List Arrival) :
    p.Reads [] answers [] ⟨.enough, .start [], answers⟩ := by
  have hwanted : p.wanted 0 = 0 := Nat.min_zero _
  constructor
  · rfl
  · rfl
  · rfl
  · intro _
    exact ⟨rfl, rfl⟩
  · intro _
    exact ⟨rfl, rfl⟩
  · intro before answer hfront
    simp at hfront
  · exact Nat.le_of_eq hwanted
  · intro _
    rfl

/-- Every read of every port comes to something, for the number of bytes to wait for can always be
told. -/
theorem fill?_spec (p : Port) (buffer : Bytes) (answers : List Arrival) :
    ∃ progress asked, p.fill? buffer answers = some progress ∧
      p.Reads buffer answers asked progress := by
  by_cases h : buffer = []
  · subst h
    exact ⟨_, [], p.fill?_nil answers, .nil p answers⟩
  · obtain ⟨asked, hanswers, hasked⟩ :=
      (Filling.start buffer).fill_spec (p.wanted buffer.length) answers
    exact ⟨_, asked, p.fill?_of_ne_nil h answers, .of_asked h hanswers hasked⟩

/-! ## Runs -/

/-- A read of an open port gives the first of the bytes that wait and of those that arrive meanwhile,
as many as it waits for if there are so many, and leaves the others. -/
theorem read_of_open {p : Port} {line : Line} (hline : p.line = some line) (length : Nat)
    (moments : List Moment) :
    ∃ n, p.read length moments =
        (.ok ((line.meanwhile moments).incoming.take n),
          p.onLine fun line => (line.meanwhile moments).consume n) ∧
      min (p.wanted length) (line.meanwhile moments).incoming.length ≤ n ∧ n ≤ length := by
  by_cases h : length = 0
  · subst h
    refine ⟨0, ?_, ?_, Nat.le_refl _⟩
    · unfold read onLine
      simp only [hline, List.replicate_zero, fill?_nil]
      rfl
    · have hwanted : p.wanted 0 = 0 := Nat.min_zero _
      exact Nat.le_of_eq (by rw [hwanted, Nat.zero_min])
  · have hbuffer : List.replicate length (0 : UInt8) ≠ [] := by
      simpa using h
    obtain ⟨n, hresult, hafter, hleast, -, hmost⟩ :=
      line.fill_arrivals moments (p.wanted length) (List.replicate length 0)
    rw [List.length_replicate] at hleast hmost
    rw [Nat.min_eq_left (p.wanted_le length)] at hleast
    refine ⟨n, ?_, hleast, hmost⟩
    have hmapped := congrArg (Except.mapError Transport.Error.io) hresult
    unfold read onLine
    simp only [hline, fill?_of_ne_nil hbuffer, List.length_replicate, hmapped, hafter,
      Option.map_some]
    rfl

/-- What happens to an open port. -/
inductive Happening where
  | connect (opened : Except Transport.Error Line)
  | read (length : Nat) (moments : List Moment)
  | write (data : Bytes) (moments : List Moment)
  | feed (data : Bytes)

/-- An open port and the account of its line. -/
structure Watched where
  port : Port
  account : Account

namespace Watched

/-- What happens is noted in the account: what a read gave, what a write took, and what was fed. -/
def step (w : Watched) : Happening → Watched
  | .connect opened => { w with port := (w.port.connect opened).2 }
  | .read length moments =>
    let (result, port) := w.port.read length moments
    let a := w.account.meanwhile moments
    match result with
    | .ok data => ⟨port, { a with read := a.read ++ data }⟩
    | .error _ => ⟨port, a⟩
  | .write data moments =>
    let (result, port) := w.port.write data moments
    let a := w.account.meanwhile moments
    match result with
    | .ok n => ⟨port, { a with written := a.written ++ data.take n }⟩
    | .error _ => ⟨port, a⟩
  | .feed data => ⟨w.port.onLine (·.feed data), w.account.pass (.feed data)⟩

/-- A port that is opened on a device, after some things happened one after another. -/
def run (path : String) (settings : Settings) (device : Line) (happenings : List Happening) :
    Watched :=
  let opened := (Port.connect (.ok device) { path, settings }).2
  happenings.foldl step ⟨opened, { written := device.outgoing, finished := device.ended }⟩

/-- The port is open, and the account agrees with its line. -/
def Balanced (w : Watched) : Prop :=
  ∃ line, w.port.line = some line ∧ w.account.Balances line

/-- Whatever happens to a port keeps its accounts. -/
theorem Balanced.step {w : Watched} (h : w.Balanced) (happening : Happening) :
    (w.step happening).Balanced := by
  obtain ⟨line, hline, ha⟩ := h
  cases happening with
  | connect opened =>
    have hsame : (w.port.connect opened).2 = w.port := by
      unfold Port.connect
      rw [hline]
    refine ⟨line, ?_, ha⟩
    show (w.port.connect opened).2.line = some line
    rw [hsame, hline]
  | read length moments =>
    obtain ⟨n, hread, -⟩ := read_of_open hline length moments
    refine ⟨(line.meanwhile moments).consume n, ?_, ?_⟩
    · simp [Watched.step, hread, onLine, hline]
    · simp only [Watched.step, hread]
      exact (ha.meanwhile moments).read n
  | write data moments =>
    refine ⟨(line.meanwhile moments).put data, ?_, ?_⟩
    · simp [Watched.step, Port.write, hline, Line.write_eq]
    · simp only [Watched.step, Port.write, hline, List.take_length]
      exact (ha.meanwhile moments).put data
  | feed data =>
    refine ⟨line.feed data, ?_, ha.pass (.feed data)⟩
    simp [Watched.step, onLine, hline]

/-- The accounts of a port balance after whatever has happened to it. -/
theorem balanced_after (path : String) (settings : Settings) (device : Line)
    (happenings : List Happening) : (run path settings device happenings).Balanced := by
  have hopened : Balanced ⟨(Port.connect (.ok device) { path, settings }).2,
      { written := device.outgoing, finished := device.ended }⟩ := by
    refine ⟨{ device with incoming := [] }, rfl, ?_⟩
    exact Account.Balances.fresh (l := { device with incoming := [] }) rfl
  -- whatever happens next keeps the balance
  refine List.foldlRecOn happenings Watched.step hopened ?_
  intro w h happening _
  exact h.step happening

end Watched

/-- Whatever a device answers, a read stores what it gave, waits for as much as the settings say and
asks for no more. From its opening on, what was read of an open port and what waits on it is what was
fed to it, and every read gives the first bytes of what waits. -/
theorem reads_and_balances (path : String) (settings : Settings) :
    (∀ (p : Port) (buffer : Bytes) (answers : List Arrival), ∃ progress asked,
      p.fill? buffer answers = some progress ∧ p.Reads buffer answers asked progress) ∧
    ∀ (device : Line) (happenings : List Happening),
      let w := Watched.run path settings device happenings
      ∃ line, w.port.line = some line ∧ w.account.read ++ line.incoming = w.account.sent ∧
        ∀ length moments, ∃ n,
          w.port.read length moments =
            (.ok ((line.meanwhile moments).incoming.take n),
              w.port.onLine fun line => (line.meanwhile moments).consume n) ∧
          min (w.port.wanted length) (line.meanwhile moments).incoming.length ≤ n ∧ n ≤ length := by
  constructor
  · intro p buffer answers
    exact p.fill?_spec buffer answers
  · intro device happenings w
    obtain ⟨line, hline, ha⟩ := Watched.balanced_after path settings device happenings
    refine ⟨line, hline, ha.incoming, ?_⟩
    intro length moments
    exact read_of_open hline length moments

end Port

end RemoteDevice.Serial
