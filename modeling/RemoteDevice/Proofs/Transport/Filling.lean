import RemoteDevice.Line

/-!
# Proofs.Transport.Filling — a buffer holds what was given, in order

However a device cuts up its bytes, they are put into the buffer one behind the other, as many as
there is room for, and the rest of the buffer stays as it was. No request is made once there are
enough bytes, nor after an answer that ends the filling. A line answers with the bytes that wait on
it and those that arrive meanwhile, and what is not taken of them waits for the next read.
-/

namespace RemoteDevice

/-! ## The buffer -/

namespace Filling

/-- The part of the buffer that is still to be filled. -/
def rest (f : Filling) : Bytes :=
  f.buffer.drop f.filled

theorem length_data (f : Filling) : f.data.length = f.filled := by
  rw [data, List.length_take, Nat.min_eq_left f.within]

theorem length_rest (f : Filling) : f.rest.length = f.room := by
  rw [rest, List.length_drop, room]

/-- A buffer is what was filled of it and what was not. -/
theorem data_append_rest (f : Filling) : f.data ++ f.rest = f.buffer :=
  List.take_append_drop _ _

/-- A filling is told by what was filled in and what stands behind it. -/
theorem eq_of_data {f g : Filling} (hdata : f.data = g.data) (hrest : f.rest = g.rest) : f = g := by
  have hbuffer : f.buffer = g.buffer := by
    rw [← f.data_append_rest, ← g.data_append_rest, hdata, hrest]
  have hfilled : f.filled = g.filled := by
    rw [← f.length_data, ← g.length_data, hdata]
  cases f
  cases g
  simp_all

/-- A piece fills as much as there is room for. -/
theorem filled_add (f : Filling) (piece : Bytes) :
    (f.add piece).filled = f.filled + min f.room piece.length := by
  show f.filled + (piece.take f.room).length = _
  rw [List.length_take]

/-- Of a piece that is too long the front is taken. -/
theorem data_add (f : Filling) (piece : Bytes) :
    (f.add piece).data = f.data ++ piece.take f.room := by
  have hlength : (f.data ++ piece.take f.room).length = (f.add piece).filled := by
    rw [List.length_append, length_data]
    rfl
  show ((f.data ++ piece.take f.room) ++ _).take (f.add piece).filled = _
  rw [← hlength, List.take_left]

/-- A piece is written over the front of the rest. -/
theorem rest_add (f : Filling) (piece : Bytes) : (f.add piece).rest = f.rest.drop piece.length := by
  have hlength : (f.data ++ piece.take f.room).length = (f.add piece).filled := by
    rw [List.length_append, length_data]
    rfl
  show ((f.data ++ piece.take f.room) ++ f.buffer.drop (f.add piece).filled).drop
    (f.add piece).filled = _
  rw [← hlength, List.drop_left, hlength, filled_add, ← List.drop_drop, ← rest, ← f.length_rest]
  -- behind the end of the buffer there is nothing, however much is dropped
  rcases Nat.le_total f.rest.length piece.length with h | h
  · rw [Nat.min_eq_left h, List.drop_length, List.drop_eq_nil_of_le h]
  · rw [Nat.min_eq_right h]

theorem room_add (f : Filling) (piece : Bytes) : (f.add piece).room = f.room - piece.length := by
  rw [← length_rest, rest_add, List.length_drop, length_rest]

theorem add_nil (f : Filling) : f.add [] = f := by
  apply eq_of_data
  · rw [data_add, List.take_nil, List.append_nil]
  · rw [rest_add, List.length_nil, List.drop_zero]

/-- Two pieces are put into the buffer like one. -/
theorem add_add (f : Filling) (first second : Bytes) :
    (f.add first).add second = f.add (first ++ second) := by
  apply eq_of_data
  · rw [data_add, data_add, data_add, room_add, List.take_append, List.append_assoc]
  · rw [rest_add, rest_add, rest_add, List.drop_drop, List.length_append]

/-- Filling a buffer does not change its length. -/
theorem length_buffer_add (f : Filling) (piece : Bytes) :
    (f.add piece).buffer.length = f.buffer.length := by
  have hle := f.within
  rw [← data_append_rest, List.length_append, length_data, length_rest, filled_add, room_add, room]
  omega

theorem data_start_add (buffer bytes : Bytes) :
    ((start buffer).add bytes).data = bytes.take buffer.length := by
  rw [data_add]
  rfl

theorem filled_start_add (buffer bytes : Bytes) :
    ((start buffer).add bytes).filled = min buffer.length bytes.length := by
  rw [filled_add, room]
  simp [start]

/-- The bytes stand at the front of the buffer, and behind them it is as it was. -/
theorem buffer_start_add (buffer bytes : Bytes) :
    ((start buffer).add bytes).buffer = bytes.take buffer.length ++ buffer.drop bytes.length := by
  rw [← data_append_rest, data_start_add, rest_add]
  rfl

end Filling

/-! ## The answers -/

/-- After such an answer another request is made, if there are too few bytes still. -/
def Arrival.GoesOn : Arrival → Prop
  | .bytes piece => piece ≠ []
  | .interrupted => True
  | .quiet | .failed _ => False

/-- The answer is that nothing came in time, or that nothing comes any more. -/
def Arrival.IsSilence (answer : Arrival) : Prop :=
  answer = .quiet ∨ answer = .bytes []

/-- The bytes that an answer brings. -/
def Arrival.taken : Arrival → Bytes
  | .bytes piece => piece
  | _ => []

/-- Silence ends the filling. -/
theorem Arrival.IsSilence.not_goesOn {answer : Arrival} (h : answer.IsSilence) :
    ¬ answer.GoesOn := by
  rcases h with rfl | rfl
  · exact id
  · intro hon
    exact hon rfl

/-- Silence brings no bytes. -/
theorem Arrival.IsSilence.taken_eq {answer : Arrival} (h : answer.IsSilence) :
    answer.taken = [] := by
  rcases h with rfl | rfl
  · rfl
  · rfl

/-- The bytes that some answers bring, one behind the other. -/
def bytesOf (answers : List Arrival) : Bytes :=
  answers.flatMap Arrival.taken

@[simp] theorem bytesOf_nil : bytesOf [] = [] :=
  rfl

@[simp] theorem bytesOf_cons (answer : Arrival) (answers : List Arrival) :
    bytesOf (answer :: answers) = answer.taken ++ bytesOf answers :=
  rfl

@[simp] theorem bytesOf_append (first second : List Arrival) :
    bytesOf (first ++ second) = bytesOf first ++ bytesOf second :=
  List.flatMap_append

/-- These answers were asked for, in this order, and this is what came of it. -/
structure Asked (enough : Nat) (f : Filling) (asked : List Arrival) (p : Progress) : Prop where
  /-- The buffer holds the bytes of the answers. -/
  filling : p.filling = f.add (bytesOf asked)
  /-- A request is made only if there are too few bytes and no answer before ended the filling. -/
  needed : ∀ before answer, before ++ [answer] <+: asked →
    (f.add (bytesOf before)).filled < enough ∧ ∀ a ∈ before, a.GoesOn
  /-- The filling ends when there are enough bytes or by the last answer. -/
  ending : match p.asking with
    | .enough => enough ≤ p.filling.filled ∧ ∀ a ∈ asked, a.GoesOn
    | .silent => ∃ before answer, asked = before ++ [answer] ∧ answer.IsSilence
    | .failed e => ∃ before, asked = before ++ [.failed e]
    | .waiting => p.filling.filled < enough ∧ (∀ a ∈ asked, a.GoesOn) ∧ p.unasked = []

namespace Asked

variable {enough : Nat} {f : Filling} {p : Progress}

/-- Nothing was asked for. -/
theorem none (hfilling : p.filling = f)
    (hending : p.asking = .enough ∧ enough ≤ f.filled ∨
      p.asking = .waiting ∧ f.filled < enough ∧ p.unasked = []) : Asked enough f [] p := by
  constructor
  · rw [hfilling, bytesOf_nil, f.add_nil]
  · intro before answer hfront
    simp at hfront
  · rcases hending with ⟨hasking, hle⟩ | ⟨hasking, hlt, hunasked⟩
    · simp [hasking, hfilling, hle]
    · simp [hasking, hfilling, hlt, hunasked]

/-- One answer ended the filling. -/
theorem last {answer : Arrival} (hlt : f.filled < enough) (hfilling : p.filling = f)
    (htaken : answer.taken = [])
    (hending : p.asking = .silent ∧ answer.IsSilence ∨
      ∃ e, p.asking = .failed e ∧ answer = .failed e) : Asked enough f [answer] p := by
  constructor
  · rw [hfilling, bytesOf_cons, htaken, bytesOf_nil, List.append_nil, f.add_nil]
  · intro before a hfront
    have hnil : before = [] := by
      have hlength := hfront.length_le
      simpa using hlength
    subst hnil
    rw [bytesOf_nil, f.add_nil]
    constructor
    · exact hlt
    · simp
  · rcases hending with ⟨hasking, hsilence⟩ | ⟨e, hasking, rfl⟩
    · rw [hasking]
      exact ⟨[], answer, rfl, hsilence⟩
    · rw [hasking]
      exact ⟨[], rfl⟩

/-- One answer more came first, and the filling went on behind it. -/
theorem cons {answer : Arrival} {asked : List Arrival} (hlt : f.filled < enough)
    (hon : answer.GoesOn) (h : Asked enough (f.add answer.taken) asked p) :
    Asked enough f (answer :: asked) p := by
  constructor
  · rw [h.filling, Filling.add_add, bytesOf_cons]
  · intro before a hfront
    cases before with
    | nil =>
      rw [bytesOf_nil, f.add_nil]
      constructor
      · exact hlt
      · simp
    | cons b before =>
      rw [List.cons_append, List.cons_prefix_cons] at hfront
      obtain ⟨rfl, hfront⟩ := hfront
      obtain ⟨hfew, hall⟩ := h.needed before a hfront
      rw [bytesOf_cons, ← Filling.add_add]
      constructor
      · exact hfew
      · intro c hc
        rcases List.mem_cons.1 hc with rfl | hc
        · exact hon
        · exact hall c hc
  · have hending := h.ending
    cases hasking : p.asking with
    | enough =>
      simp only [hasking] at hending ⊢
      exact ⟨hending.1, List.forall_mem_cons.2 ⟨hon, hending.2⟩⟩
    | silent =>
      simp only [hasking] at hending ⊢
      obtain ⟨before, a, rfl, hsilence⟩ := hending
      exact ⟨answer :: before, a, rfl, hsilence⟩
    | failed e =>
      simp only [hasking] at hending ⊢
      obtain ⟨before, rfl⟩ := hending
      exact ⟨answer :: before, rfl⟩
    | waiting =>
      simp only [hasking] at hending ⊢
      exact ⟨hending.1, List.forall_mem_cons.2 ⟨hon, hending.2.1⟩, hending.2.2⟩

end Asked

/-- Nothing is asked for if there are enough bytes. -/
theorem Filling.fill_of_le {enough : Nat} {f : Filling} (h : enough ≤ f.filled)
    (answers : List Arrival) : f.fill enough answers = ⟨.enough, f, answers⟩ := by
  cases answers with
  | nil => rw [fill, if_pos h]
  | cons answer answers => simp [fill, h]

/-- The answers are those that were asked for and those that were not. -/
theorem Filling.fill_spec (enough : Nat) (f : Filling) (answers : List Arrival) :
    ∃ asked, answers = asked ++ (f.fill enough answers).unasked ∧
      Asked enough f asked (f.fill enough answers) := by
  -- induction on the answers: each of them either ends the filling or lets it go on
  induction answers generalizing f with
  | nil =>
    refine ⟨[], rfl, .none rfl ?_⟩
    rcases Nat.lt_or_ge f.filled enough with hlt | hge
    · exact .inr ⟨if_neg (Nat.not_le.2 hlt), hlt, rfl⟩
    · exact .inl ⟨if_pos hge, hge⟩
  | cons answer answers ih =>
    rcases Nat.lt_or_ge f.filled enough with hlt | hge
    · have hfew := Nat.not_le.2 hlt
      have hgoes : ∀ g, answer.GoesOn → g = f.add answer.taken →
          f.fill enough (answer :: answers) = g.fill enough answers →
          ∃ asked, answer :: answers = asked ++ (f.fill enough (answer :: answers)).unasked ∧
            Asked enough f asked (f.fill enough (answer :: answers)) := by
        intro g hon hg hfill
        obtain ⟨asked, hanswers, hasked⟩ := ih g
        rw [hfill]
        refine ⟨answer :: asked, congrArg (answer :: ·) hanswers, .cons hlt hon ?_⟩
        rwa [← hg]
      cases answer with
      | bytes piece =>
        cases piece with
        | nil =>
          have hfill : f.fill enough (.bytes [] :: answers) = ⟨.silent, f, answers⟩ := by
            simp [fill, hfew]
          rw [hfill]
          exact ⟨[.bytes []], rfl, .last hlt rfl rfl (.inl ⟨rfl, .inr rfl⟩)⟩
        | cons b bs =>
          exact hgoes (f.add (b :: bs)) (List.cons_ne_nil b bs) rfl (by simp [fill, hfew])
      | interrupted => exact hgoes f trivial f.add_nil.symm (by rw [fill, if_neg hfew])
      | quiet =>
        have hfill : f.fill enough (.quiet :: answers) = ⟨.silent, f, answers⟩ := by
          simp [fill, hfew]
        rw [hfill]
        exact ⟨[.quiet], rfl, .last hlt rfl rfl (.inl ⟨rfl, .inl rfl⟩)⟩
      | failed e =>
        have hfill : f.fill enough (.failed e :: answers) = ⟨.failed e, f, answers⟩ := by
          simp [fill, hfew]
        rw [hfill]
        exact ⟨[.failed e], rfl, .last hlt rfl rfl (.inr ⟨e, rfl, rfl⟩)⟩
    · rw [fill_of_le hge]
      exact ⟨[], rfl, .none rfl (.inl ⟨rfl, hge⟩)⟩

/-- What is read fits into the buffer. -/
theorem Filling.length_result {enough : Nat} {f : Filling} {answers : List Arrival} {data : Bytes}
    (h : (f.fill enough answers).result = .ok data) : data.length ≤ f.buffer.length := by
  obtain ⟨asked, -, hasked⟩ := fill_spec enough f answers
  have hdata : data = (f.fill enough answers).filling.data := by
    unfold Progress.result at h
    split at h
    · cases h
    · exact (Except.ok.inj h).symm
  have hlength := (f.fill enough answers).filling.within
  rwa [hasked.filling, length_buffer_add, ← hasked.filling, ← length_data, ← hdata] at hlength

/-! ## Lines -/

namespace Line

@[simp] theorem meanwhile_nil (l : Line) : l.meanwhile [] = l :=
  rfl

@[simp] theorem meanwhile_cons (l : Line) (moment : Moment) (moments : List Moment) :
    l.meanwhile (moment :: moments) = (l.pass moment).meanwhile moments :=
  rfl

/-- Behind the end of a line nothing arrives. -/
theorem feed_of_ended {l : Line} (h : l.ended = true) (data : Bytes) : l.feed data = l :=
  if_pos h

/-- Bytes come in as long as the far end has not ended the line. -/
theorem feed_of_not_ended {l : Line} (h : ¬ l.ended = true) (data : Bytes) :
    l.feed data = { l with incoming := l.incoming ++ data } :=
  if_neg h

/-- What the far end does next does not depend on bytes that have been read already. -/
theorem pass_consume {n : Nat} {l : Line} (h : n ≤ l.incoming.length) (moment : Moment) :
    (l.consume n).pass moment = (l.pass moment).consume n := by
  cases moment with
  | interrupt => rfl
  | piece k => rfl
  | feed data =>
    show (l.consume n).feed data = (l.feed data).consume n
    by_cases hended : l.ended = true
    · rw [feed_of_ended hended, feed_of_ended (l := l.consume n) hended]
    · rw [feed_of_not_ended hended, feed_of_not_ended (l := l.consume n) hended]
      simp only [consume, List.drop_append_of_le_length h]
  | finish => rfl

/-- What waits is never taken away by the far end. -/
theorem incoming_prefix_pass (l : Line) (moment : Moment) :
    l.incoming <+: (l.pass moment).incoming := by
  cases moment with
  | interrupt => exact List.prefix_refl _
  | piece k => exact List.prefix_refl _
  | feed data =>
    show l.incoming <+: (l.feed data).incoming
    by_cases hended : l.ended = true
    · have hsame : l.feed data = l := feed_of_ended hended data
      exact hsame.symm ▸ List.prefix_refl l.incoming
    · rw [feed_of_not_ended hended]
      exact List.prefix_append _ _
  | finish => exact List.prefix_refl _

/-- What waits on a line stays there while the far end goes on. -/
theorem incoming_prefix_meanwhile (l : Line) (moments : List Moment) :
    l.incoming <+: (l.meanwhile moments).incoming := by
  induction moments generalizing l with
  | nil => exact List.prefix_refl _
  | cons moment moments ih => exact (l.incoming_prefix_pass moment).trans (ih _)

/-- What waits can be read before or after the far end goes on: the line is the same in the end. -/
theorem meanwhile_consume {n : Nat} {l : Line} (h : n ≤ l.incoming.length)
    (moments : List Moment) : (l.consume n).meanwhile moments = (l.meanwhile moments).consume n := by
  induction moments generalizing l with
  | nil => rfl
  | cons moment moments ih =>
    rw [meanwhile_cons, pass_consume h]
    exact ih (Nat.le_trans h (l.incoming_prefix_pass moment).length_le)

/-- The answers of a line bring what waits on it and what arrives meanwhile, and then a last one says
that there is no more. -/
theorem arrivals_eq (l : Line) (moments : List Moment) :
    ∃ before last, l.arrivals moments = before ++ [last] ∧ (∀ a ∈ before, a.GoesOn) ∧
      last.IsSilence ∧ bytesOf before = (l.meanwhile moments).incoming := by
  -- induction on the moments, for any line they begin with
  induction moments generalizing l with
  | nil =>
    have hlast : (if l.ended then Arrival.bytes [] else .quiet).IsSilence := by
      split
      · exact .inr rfl
      · exact .inl rfl
    by_cases hnil : l.incoming = []
    · exact ⟨[], _, by simp [arrivals, hnil], by simp, hlast, by simp [hnil]⟩
    · refine ⟨[.bytes l.incoming], _, by simp [arrivals, hnil], ?_, hlast, ?_⟩
      · simpa [Arrival.GoesOn] using hnil
      · simp [Arrival.taken]
  | cons moment moments ih =>
    cases moment with
    | interrupt =>
      obtain ⟨before, last, heq, hall, hlast, hbytes⟩ := ih l
      refine ⟨.interrupted :: before, last, ?_, ?_, hlast, hbytes⟩
      · rw [arrivals, heq, List.cons_append]
      · exact List.forall_mem_cons.2 ⟨trivial, hall⟩
    | piece n =>
      by_cases hnil : l.incoming.take (max n 1) = []
      · obtain ⟨before, last, heq, hrest⟩ := ih l
        refine ⟨before, last, ?_, hrest⟩
        rw [arrivals, if_pos hnil, heq]
      · obtain ⟨before, last, heq, hall, hlast, hbytes⟩ :=
          ih (l.consume (l.incoming.take (max n 1)).length)
        refine ⟨.bytes (l.incoming.take (max n 1)) :: before, last, ?_, ?_, hlast, ?_⟩
        · rw [arrivals, if_neg hnil, heq, List.cons_append]
        · exact List.forall_mem_cons.2 ⟨hnil, hall⟩
        · -- the piece is the beginning of what waits, and what waits is never taken away
          have hfront : l.incoming.take (max n 1) <+: (l.meanwhile moments).incoming :=
            (List.take_prefix _ _).trans (l.incoming_prefix_meanwhile moments)
          have hle := (List.take_prefix (max n 1) l.incoming).length_le
          obtain ⟨behind, hbehind⟩ := hfront
          rw [bytesOf_cons, hbytes, meanwhile_consume hle]
          show _ ++ (l.meanwhile moments).incoming.drop _ = (l.meanwhile moments).incoming
          rw [← hbehind, List.drop_left]
          rfl
    | feed data => exact ih (l.feed data)
    | finish => exact ih l.finish

/-- A read of a line ends, gives a beginning of what waits on it and of what arrives meanwhile, and
leaves the rest. It gives fewer bytes than were to be waited for only if there are no more. -/
theorem fill_arrivals (l : Line) (moments : List Moment) (enough : Nat) (buffer : Bytes) :
    let p := (Filling.start buffer).fill enough (l.arrivals moments)
    let incoming := (l.meanwhile moments).incoming
    ∃ n, p.result = .ok (incoming.take n) ∧ l.afterRead moments p = (l.meanwhile moments).consume n ∧
      min (min enough buffer.length) incoming.length ≤ n ∧ n ≤ incoming.length ∧
      n ≤ buffer.length := by
  intro p incoming
  obtain ⟨asked, hanswers, hasked⟩ := (Filling.start buffer).fill_spec enough (l.arrivals moments)
  obtain ⟨before, last, harrivals, hall, hlast, hbytes⟩ := l.arrivals_eq moments
  have hstops : ¬ last.GoesOn := hlast.not_goesOn
  have hincoming : bytesOf (before ++ [last]) = incoming := by
    rw [bytesOf_append, hbytes, bytesOf_cons, hlast.taken_eq, bytesOf_nil, List.append_nil,
      List.append_nil]
  have hasked_front : asked <+: before ++ [last] := by
    rw [← harrivals, hanswers]
    exact List.prefix_append _ _
  have hfront : bytesOf asked <+: incoming := by
    obtain ⟨rest, hrest⟩ := hasked_front
    rw [← hincoming, ← hrest, bytesOf_append]
    exact List.prefix_append _ _
  -- the last answer of the line is the only one that ends a filling
  have hwhole : ∀ answer ∈ asked, ¬ answer.GoesOn → asked = before ++ [last] := by
    intro answer hmem hstop
    rcases List.prefix_concat_iff.1 hasked_front with hall_asked | hshort
    · exact hall_asked
    · exact absurd (hall answer (hshort.subset hmem)) hstop
  have hfilled : p.filling.filled = min buffer.length (bytesOf asked).length := by
    rw [hasked.filling, Filling.filled_start_add]
  have hdata : p.filling.data = incoming.take p.filling.filled := by
    have hdata_front : p.filling.data <+: incoming := by
      rw [hasked.filling, Filling.data_start_add]
      exact (List.take_prefix _ _).trans hfront
    rw [← p.filling.length_data]
    exact List.prefix_iff_eq_take.1 hdata_front
  have hle := hfront.length_le
  have hending := hasked.ending
  have hresult : p.result = .ok (incoming.take p.filling.filled) ∧
      min (min enough buffer.length) incoming.length ≤ p.filling.filled := by
    cases hasking : p.asking with
    | enough =>
      rw [hasking] at hending
      constructor
      · rw [← hdata, Progress.result, hasking]
      · have henough : enough ≤ p.filling.filled := hending.1
        omega
    | silent =>
      rw [hasking] at hending
      obtain ⟨first, answer, rfl, hsilence⟩ := hending
      have hends := hwhole answer (by simp) hsilence.not_goesOn
      constructor
      · rw [← hdata, Progress.result, hasking]
      · rw [hends, hincoming] at hfilled
        omega
    | failed e =>
      rw [hasking] at hending
      obtain ⟨first, rfl⟩ := hending
      have hends := hwhole (.failed e) (by simp) id
      have hsame := List.cons.inj (List.append_inj' hends rfl).2
      rw [← hsame.1] at hlast
      rcases hlast with hquiet | hnone
      · cases hquiet
      · cases hnone
    | waiting =>
      rw [hasking] at hending
      obtain ⟨-, hon, hunasked⟩ := hending
      have hends : asked = before ++ [last] := by
        rw [← harrivals, hanswers, hunasked, List.append_nil]
      exact absurd (hon last (by simp [hends])) hstops
  refine ⟨p.filling.filled, hresult.1, rfl, hresult.2, ?_, ?_⟩
  · omega
  · omega

end Line

end RemoteDevice
