import RemoteDevice.Proofs.Server.Interleaving

/-!
# Proofs.Server.Pieces — what a session does at a time

A request is refused, it reads or writes, or it begins an opening or a closing (`takes_of_request`).
Reading and writing are one call of the transport of a unit, and an answer that says what the call
came to (`Session.Calls`). A session that goes on makes the next call of the device, or ends what it
is in the middle of (`advances_of_advance`). What is known about pieces is proved for these cases.
-/

namespace RemoteDevice.Server

open Wire

/-! ## Openings and closings -/

namespace Session

section

variable {τ : Type} {s s' : Session} {r r' : Registry τ}

/-- What an opening that passed its checks has. -/
theorem beginOpen_eq_ok {payload : Bytes} {o : Opening} (h : s.beginOpen payload r = .ok (o, r')) :
    r.claim? o.device = some (o.claim, r') ∧ s.free? = some o.number := by
  unfold beginOpen at h
  dsimp only at h
  split at h
  · simp at h
  · split at h
    · simp at h
    · next n hn =>
      split at h
      · simp at h
      · next hc =>
        rcases Prod.mk.inj (Except.ok.inj h) with ⟨rfl, rfl⟩
        exact ⟨hc, hn⟩

/-- Why an opening is refused at once. -/
theorem beginOpen_eq_error {payload : Bytes} {status : Status}
    (h : s.beginOpen payload r = .error status) :
    (r.get? (deviceName payload) = none ∧ status = .noEntry) ∨
      (s.free? = none ∧ status = .tooManyUnits) ∨
      s.free? ≠ none ∧ r.claim? (deviceName payload) = none ∧ status = .busy := by
  unfold beginOpen at h
  dsimp only at h
  split at h
  · next hnone => exact Or.inl ⟨hnone, (Except.error.inj h).symm⟩
  · split at h
    · next hfull => exact Or.inr (Or.inl ⟨hfull, (Except.error.inj h).symm⟩)
    · next n hn =>
      split at h
      · next hc => exact Or.inr (Or.inr ⟨by simp [hn], hc, (Except.error.inj h).symm⟩)
      · simp at h

/-- An opening is one of the device that the request names. -/
theorem device_of_beginOpen {payload : Bytes} {o : Opening}
    (h : s.beginOpen payload r = .ok (o, r')) : o.device = deviceName payload := by
  unfold beginOpen at h
  dsimp only at h
  split at h
  · simp at h
  · split at h
    · simp at h
    · split at h
      · simp at h
      · rcases Prod.mk.inj (Except.ok.inj h) with ⟨rfl, -⟩
        rfl

/-- What a closing that passed its check has. -/
theorem beginClose_eq_ok {unit : UInt8} {e : Entry}
    (h : s.beginClose unit = .ok (e, s')) : s.unit? unit = some e ∧ s' = s.markClosed unit := by
  unfold beginClose at h
  split at h
  · simp at h
  · next e' he =>
    rcases Prod.mk.inj (Except.ok.inj h) with ⟨rfl, rfl⟩
    exact ⟨he, rfl⟩

/-- A closing is refused only because the number is not bound. -/
theorem beginClose_eq_error {unit : UInt8} {status : Status}
    (h : s.beginClose unit = .error status) : s.unit? unit = none ∧ status = .badUnit := by
  unfold beginClose at h
  split at h
  · next hnone => exact ⟨hnone, (Except.error.inj h).symm⟩
  · simp at h

/-- The end of a closing does nothing but give the claim back. -/
theorem finishClose_snd (unit : UInt8) (e : Entry) (result : Outcome Unit) (r : Registry τ) :
    (finishClose unit e result r).2 = r.unclaim e.device e.claim := by
  cases result <;> rfl

end

/-! ## Refusals -/

section

variable {τ : Type} {s : Session} {r : Registry τ} {m : Message} {status : Status}

/-- Why a session refuses a request at once: there is no such operation, the opening cannot begin, or
the unit is not open. -/
inductive Refuses (m : Message) (s : Session) (r : Registry τ) : Status → Prop
  | unknown : (∀ op, m.op ≠ .ok op) → Refuses m s r .noEntry
  | missing : m.op = .ok .openUnit → r.get? (deviceName m.payload) = none →
    Refuses m s r .noEntry
  | full : m.op = .ok .openUnit → s.free? = none → Refuses m s r .tooManyUnits
  | busy : m.op = .ok .openUnit → s.free? ≠ none → r.claim? (deviceName m.payload) = none →
    Refuses m s r .busy
  | unopened : m.op = .ok .closeUnit ∨ m.op = .ok .readUnit ∨ m.op = .ok .writeUnit →
    s.unit? m.unit = none → Refuses m s r .badUnit

/-- The statuses of refusals. -/
theorem Refuses.status_cases (h : s.Refuses m r status) :
    status = .noEntry ∨ status = .badUnit ∨ status = .busy ∨ status = .tooManyUnits := by
  cases h <;> simp

/-- No refusal is a success. -/
theorem Refuses.status_ne (h : s.Refuses m r status) :
    (Message.failure status).status ≠ .success := by
  cases h <;> decide

theorem refuses_of_beginOpen (hop : m.op = .ok .openUnit)
    (h : s.beginOpen m.payload r = .error status) : s.Refuses m r status := by
  rcases beginOpen_eq_error h with ⟨hnone, rfl⟩ | ⟨hfull, rfl⟩ | ⟨hfree, hclaim, rfl⟩
  · exact .missing hop hnone
  · exact .full hop hfull
  · exact .busy hop hfree hclaim

theorem refuses_of_beginClose (hop : m.op = .ok .closeUnit)
    (h : s.beginClose m.unit = .error status) : s.Refuses m r status := by
  rcases beginClose_eq_error h with ⟨hunit, rfl⟩
  exact .unopened (.inl hop) hunit

end

/-! ## Readings and writings -/

/-- What the call of a unit's transport is answered with. -/
def answerTo {α : Type} (m : Message) (data : α → Bytes) : Outcome α → Message
  | .ok a => .reply m.unit m.control (data a)
  | .error _ => .failure .io

variable {τ : Type} [Transport τ] {s s' : Session} {r r' : Registry τ} {m reply : Message}

/-- To read from a unit or to write to it, a session makes one call of the transport of the unit and
answers with what this comes to. -/
inductive Calls (m : Message) (s : Session) (r : Registry τ) : Message → Registry τ → Prop
  | called {α : Type} {e : Entry} {call : Call} {run : τ → Outcome α × τ} {result : Outcome α}
      {r' : Registry τ} (data : α → Bytes) : m.op = .ok .readUnit ∨ m.op = .ok .writeUnit →
    s.unit? m.unit = some e → call ≠ .disconnect → (∀ t, (run t).2 = call.after t) →
    r.use (·.use e.transport call run) = (result, r') → Calls m s r (answerTo m data result) r'

/-- A request that neither opens nor closes leaves the table alone: it is refused, or it is a call. -/
theorem refuses_or_calls (hopen : m.op ≠ .ok .openUnit) (hclose : m.op ≠ .ok .closeUnit)
    (h : s.handle m r = (reply, s', r')) : s' = s ∧
      ((∃ status, reply = .failure status ∧ r' = r ∧ s.Refuses m r status) ∨
        s.Calls m r reply r') := by
  cases hop : m.op with
  | error e =>
    obtain ⟨rfl, rfl, rfl⟩ := by simpa [handle, hop] using h
    exact ⟨rfl, .inl ⟨_, rfl, rfl, .unknown (by simp [hop])⟩⟩
  | ok op =>
    cases op with
    | openUnit => exact absurd hop hopen
    | closeUnit => exact absurd hop hclose
    | readUnit =>
      simp only [handle, hop, readUnit] at h
      split at h
      · next hunit =>
        obtain ⟨rfl, rfl, rfl⟩ := by simpa using h
        exact ⟨rfl, .inl ⟨_, rfl, rfl, .unopened (.inr (.inl hop)) hunit⟩⟩
      · next e hunit =>
        split at h <;>
        · next huse =>
          obtain ⟨rfl, rfl, rfl⟩ := by simpa using h
          exact ⟨rfl, .inr (.called Reading.data (.inl hop) hunit Call.noConfusion (fun _ => rfl)
            huse)⟩
    | writeUnit =>
      simp only [handle, hop, writeUnit] at h
      split at h
      · next hunit =>
        obtain ⟨rfl, rfl, rfl⟩ := by simpa using h
        exact ⟨rfl, .inl ⟨_, rfl, rfl, .unopened (.inr (.inr hop)) hunit⟩⟩
      · next e hunit =>
        split at h <;>
        · next huse =>
          obtain ⟨rfl, rfl, rfl⟩ := by simpa using h
          exact ⟨rfl, .inr (.called (fun _ => []) (.inr hop) hunit Call.noConfusion (fun _ => rfl)
            huse)⟩

end Session

/-! ## Pieces of work -/

namespace Worker

variable {τ : Type} [Transport τ]

/-- What an idle session does at once about a request: it refuses it, it reads or writes, or it
begins to open or to close. -/
inductive Takes (m : Message) (session : Session) (r : Registry τ) :
    List Note → Worker → Registry τ → Prop
  | refused {status : Status} : session.Refuses m r status →
    Takes m session r [.replied (.failure status)] ⟨session, .idle⟩ r
  | access {reply : Message} {r' : Registry τ} : session.Calls m r reply r' →
    Takes m session r [.replied reply] ⟨session, .idle⟩ r'
  | opening {o : Session.Opening} {r' : Registry τ} : m.op = .ok .openUnit →
    o.device = deviceName m.payload → session.free? = some o.number →
    r.claim? o.device = some (o.claim, r') →
    Takes m session r [] ⟨session, .opening o .waiting⟩ r'
  | closing {e : Entry} : m.op = .ok .closeUnit → session.unit? m.unit = some e →
    Takes m session r [] ⟨session.markClosed m.unit, .closing m.unit e .waiting⟩ r

/-- Only an idle session takes a request. -/
theorem takes_of_request {m : Message} {w w' : Worker} {r r' : Registry τ} {notes : List Note}
    (h : w.request m r = some (notes, w', r')) :
    w.task = .idle ∧ Takes m w.session r notes w' r' := by
  rcases w with ⟨session, task⟩
  unfold request at h
  split at h
  · next htask =>
    refine ⟨htask, ?_⟩
    obtain rfl : task = .idle := htask
    split at h
    · next hop =>
      split at h
      · next status hb =>
        obtain ⟨rfl, rfl, rfl⟩ := by simpa using h
        exact .refused (Session.refuses_of_beginOpen hop hb)
      · next o r₁ hb =>
        obtain ⟨rfl, rfl, rfl⟩ := by simpa using h
        rcases Session.beginOpen_eq_ok hb with ⟨hclaim, hfree⟩
        exact .opening hop (Session.device_of_beginOpen hb) hfree hclaim
    · next hop =>
      split at h
      · next status hb =>
        obtain ⟨rfl, rfl, rfl⟩ := by simpa using h
        exact .refused (Session.refuses_of_beginClose hop hb)
      · next e session' hb =>
        obtain ⟨rfl, rfl, rfl⟩ := by simpa using h
        rcases Session.beginClose_eq_ok hb with ⟨hunit, rfl⟩
        exact .closing hop hunit
    · next hopen hclose =>
      cases hh : session.handle m r with | mk reply found =>
      rcases found with ⟨session', r₁⟩
      obtain ⟨rfl, rfl, rfl⟩ := by simpa [hh] using h
      obtain ⟨rfl, ⟨status, rfl, rfl, hrefuses⟩ | hcalls⟩ :=
        Session.refuses_or_calls hopen hclose hh
      · exact .refused hrefuses
      · exact .access hcalls
  · simp at h

/-- What a session goes on with, by what it is in the middle of. -/
inductive Advances (r : Registry τ) : Worker → List Note → Worker → Registry τ → Prop
  | acquireStarts {session : Session} {o : Session.Opening} :
    Advances r ⟨session, .opening o .waiting⟩ [.acquireStarts o.device]
      ⟨session, .opening o .running⟩ r
  | acquireEnds {session : Session} {o : Session.Opening} {result : Outcome Nat}
      {r' : Registry τ} : r.acquire o.device = (result, r') →
    Advances r ⟨session, .opening o .running⟩ [.acquireEnds o.device result.isOk]
      ⟨session, .opening o (.done result)⟩ r'
  | opened {session session' : Session} {o : Session.Opening} {result : Outcome Nat}
      {reply : Message} {r' : Registry τ} : session.finishOpen o result r = (reply, session', r') →
    Advances r ⟨session, .opening o (.done result)⟩ [.replied reply] ⟨session', .idle⟩ r'
  | closeStarts {session : Session} {unit : UInt8} {e : Entry} :
    Advances r ⟨session, .closing unit e .waiting⟩ [.releaseStarts e.device]
      ⟨session, .closing unit e .running⟩ r
  | closeEnds {session : Session} {unit : UInt8} {e : Entry} {result : Outcome Unit}
      {r' : Registry τ} : r.release e.device false = (result, r') →
    Advances r ⟨session, .closing unit e .running⟩ [.releaseEnds e.device]
      ⟨session, .closing unit e (.done result)⟩ r'
  | closed {session : Session} {unit : UInt8} {e : Entry} {result : Outcome Unit}
      {reply : Message} {r' : Registry τ} :
    Session.finishClose unit e result r = (reply, r') →
    Advances r ⟨session, .closing unit e (.done result)⟩ [.replied reply] ⟨session, .idle⟩ r'
  | ended : Advances r ⟨⟨[]⟩, .ending⟩ [] ⟨⟨[]⟩, .gone⟩ r
  | leaves {e : Entry} {entries : List Entry} : e.isOpen = true →
    Advances r ⟨⟨e :: entries⟩, .ending⟩ [] ⟨⟨entries⟩, .leaving e .waiting⟩ r
  | forgets {e : Entry} {entries : List Entry} : ¬ e.isOpen = true →
    Advances r ⟨⟨e :: entries⟩, .ending⟩ [] ⟨⟨entries⟩, .ending⟩ (r.letGo e.transport)
  | leaveStarts {session : Session} {e : Entry} :
    Advances r ⟨session, .leaving e .waiting⟩ [.releaseStarts e.device]
      ⟨session, .leaving e .running⟩ r
  | leaveEnds {session : Session} {e : Entry} {result : Outcome Unit} {r' : Registry τ} :
    r.release e.device true = (result, r') →
    Advances r ⟨session, .leaving e .running⟩ [.releaseEnds e.device]
      ⟨session, .leaving e (.done result)⟩ r'
  | left {session : Session} {e : Entry} {result : Outcome Unit} :
    Advances r ⟨session, .leaving e (.done result)⟩ [] ⟨session, .ending⟩ (Session.giveBack e r)

/-- There is nothing else that a session goes on with. -/
theorem advances_of_advance {w w' : Worker} {r r' : Registry τ} {notes : List Note}
    (h : w.advance r = some (notes, w', r')) : Advances r w notes w' r' := by
  rcases w with ⟨session, task⟩
  cases task with
  | idle => simp [advance] at h
  | gone => simp [advance] at h
  | opening o stage =>
    cases stage with
    | waiting =>
      obtain ⟨rfl, rfl, rfl⟩ := by simpa [advance] using h
      exact .acquireStarts
    | running =>
      cases hacq : r.acquire o.device with | mk result r₁ =>
      obtain ⟨rfl, rfl, rfl⟩ := by simpa [advance, hacq] using h
      exact .acquireEnds hacq
    | done result =>
      cases hfin : session.finishOpen o result r with | mk reply found =>
      rcases found with ⟨session', r₁⟩
      obtain ⟨rfl, rfl, rfl⟩ := by simpa [advance, hfin] using h
      exact .opened hfin
  | closing unit e stage =>
    cases stage with
    | waiting =>
      obtain ⟨rfl, rfl, rfl⟩ := by simpa [advance] using h
      exact .closeStarts
    | running =>
      cases hrel : r.release e.device false with | mk result r₁ =>
      obtain ⟨rfl, rfl, rfl⟩ := by simpa [advance, hrel] using h
      exact .closeEnds hrel
    | done result =>
      cases hfin : Session.finishClose unit e result r with | mk reply r₁ =>
      obtain ⟨rfl, rfl, rfl⟩ := by simpa [advance, hfin] using h
      exact .closed hfin
  | ending =>
    rcases session with ⟨entries⟩
    cases entries with
    | nil =>
      obtain ⟨rfl, rfl, rfl⟩ := by simpa [advance] using h
      exact .ended
    | cons e entries =>
      by_cases hopen : e.isOpen = true
      · obtain ⟨rfl, rfl, rfl⟩ := by simpa [advance, hopen] using h
        exact .leaves hopen
      · obtain ⟨rfl, rfl, rfl⟩ := by simpa [advance, hopen] using h
        exact .forgets hopen
  | leaving e stage =>
    cases stage with
    | waiting =>
      obtain ⟨rfl, rfl, rfl⟩ := by simpa [advance] using h
      exact .leaveStarts
    | running =>
      cases hrel : r.release e.device true with | mk result r₁ =>
      obtain ⟨rfl, rfl, rfl⟩ := by simpa [advance, hrel] using h
      exact .leaveEnds hrel
    | done result =>
      obtain ⟨rfl, rfl, rfl⟩ := by simpa [advance] using h
      exact .left

end Worker

end RemoteDevice.Server
