import RemoteDevice.Proofs.Server.Registry

/-!
# Proofs.Server.Interleaving — sessions cut where they wait

Opening, closing and ending a session wait for calls of a device that may block, and while one
session waits the others go on. Here a system of any number of sessions over one registry takes
steps in any order: each step is a piece of the work of one session between two such waits. A
piece is one of the functions a session is made of, so that a session that is never interrupted
does what `Session.handle` and `Session.shutdown` say (`run_handle`, `run_shutdown`).
-/

namespace RemoteDevice.Server

open Wire

/-! ## One session at work -/

/-- How far a call of a device has come that a session waits for. -/
inductive Stage (α : Type) where
  | waiting
  | running
  | done (result : Outcome α)

/-- What a session is in the middle of. -/
inductive Task where
  | idle
  | opening (o : Session.Opening) (stage : Stage Nat)
  | closing (unit : UInt8) (e : Entry) (stage : Stage Unit)
  /-- The session is at its end, and takes one unit after another from its table. -/
  | ending
  | leaving (e : Entry) (stage : Stage Unit)
  | gone

/-- What can be seen of a step. -/
inductive Note where
  | acquireStarts (device : String)
  | acquireEnds (device : String) (succeeded : Bool)
  | releaseStarts (device : String)
  | releaseEnds (device : String)
  | replied (reply : Message)
deriving DecidableEq

/-- A session and what it is in the middle of. -/
structure Worker where
  session : Session := {}
  task : Task := .idle

namespace Worker

variable {τ : Type} [Transport τ]

/-- A request reaches a session that is idle. Reading and writing wait for nothing that concerns
another session, and are one piece. -/
def request (m : Message) (w : Worker) (r : Registry τ) :
    Option (List Note × Worker × Registry τ) :=
  match w.task with
  | .idle =>
    match m.op with
    | .ok .openUnit =>
      match w.session.beginOpen m.payload r with
      | .error status => some ([.replied (.failure status)], w, r)
      | .ok (o, r) => some ([], ⟨w.session, .opening o .waiting⟩, r)
    | .ok .closeUnit =>
      match w.session.beginClose m.unit with
      | .error status => some ([.replied (.failure status)], w, r)
      | .ok (e, session) => some ([], ⟨session, .closing m.unit e .waiting⟩, r)
    | _ =>
      let (reply, session, r) := w.session.handle m r
      some ([.replied reply], ⟨session, .idle⟩, r)
  | _ => none

/-- The client of an idle session is gone. -/
def disconnect (w : Worker) (r : Registry τ) : Option (List Note × Worker × Registry τ) :=
  match w.task with
  | .idle => some ([], { w with task := .ending }, r)
  | _ => none

/-- The next piece of what a session is in the middle of. -/
def advance (w : Worker) (r : Registry τ) : Option (List Note × Worker × Registry τ) :=
  match w.task with
  | .idle => none
  | .opening o .waiting =>
    some ([.acquireStarts o.device], { w with task := .opening o .running }, r)
  | .opening o .running =>
    let (result, r) := r.acquire o.device
    some ([.acquireEnds o.device result.isOk], { w with task := .opening o (.done result) }, r)
  | .opening o (.done result) =>
    let (reply, session, r) := w.session.finishOpen o result r
    some ([.replied reply], ⟨session, .idle⟩, r)
  | .closing unit e .waiting =>
    some ([.releaseStarts e.device], { w with task := .closing unit e .running }, r)
  | .closing unit e .running =>
    let (result, r) := r.release e.device false
    some ([.releaseEnds e.device], { w with task := .closing unit e (.done result) }, r)
  | .closing unit e (.done result) =>
    let (reply, r) := Session.finishClose unit e result r
    some ([.replied reply], { w with task := .idle }, r)
  | .ending =>
    match w.session.entries with
    | [] => some ([], { w with task := .gone }, r)
    | e :: entries =>
      if e.isOpen then some ([], ⟨⟨entries⟩, .leaving e .waiting⟩, r)
      else some ([], ⟨⟨entries⟩, .ending⟩, r.letGo e.transport)
  | .leaving e .waiting =>
    some ([.releaseStarts e.device], { w with task := .leaving e .running }, r)
  | .leaving e .running =>
    let (result, r) := r.release e.device true
    some ([.releaseEnds e.device], { w with task := .leaving e (.done result) }, r)
  | .leaving e (.done _) => some ([], { w with task := .ending }, Session.giveBack e r)
  | .gone => none

end Worker

/-! ## All sessions -/

/-- A registry and the sessions over it, in the order in which they began. -/
structure System (τ : Type) where
  registry : Registry τ
  workers : List Worker := []

/-- What happens next. -/
inductive Act (τ : Type) where
  | connect
  | request (i : Nat) (m : Message)
  | disconnect (i : Nat)
  | advance (i : Nat)
  /-- Transports change by themselves, and so may what making one comes to. -/
  | outside (change : Nat → τ → τ) (catalog : Catalog τ)

/-- What was seen of the steps so far, the newest first, each with the session it is of. -/
abbrev Trace := List (Nat × Note)

/-- The pool with every transport in a state of its own choice. -/
def Pool.drift {τ : Type} (change : Nat → τ → τ) (p : Pool τ) : Pool τ :=
  { p with members := p.members.mapIdx fun n m => { m with transport := change n m.transport } }

theorem Pool.quiet_drift {τ : Type} (change : Nat → τ → τ) (p : Pool τ) :
    p.Quiet (p.drift change) :=
  Quiet.of_journal (by simp [drift]) (Or.inl rfl)

namespace System

variable {τ : Type}

/-- A registry that no session uses yet. -/
def start (registry : Registry τ) : System τ := { registry }

/-- A piece of the work of one session. -/
def onWorker (i : Nat)
    (piece : Worker → Registry τ → Option (List Note × Worker × Registry τ)) (s : System τ) :
    Option (Trace × System τ) :=
  match s.workers[i]? with
  | none => none
  | some w =>
    (piece w s.registry).map fun (notes, w, registry) =>
      (notes.map ((i, ·)), { registry, workers := s.workers.set i w })

variable [Transport τ]

/-- One step, if it is possible. -/
def step (s : System τ) : Act τ → Option (Trace × System τ)
  | .connect => some ([], { s with workers := s.workers ++ [{}] })
  | .request i m => s.onWorker i (·.request m)
  | .disconnect i => s.onWorker i Worker.disconnect
  | .advance i => s.onWorker i Worker.advance
  | .outside change catalog =>
    some ([], { s with registry :=
      { s.registry with pool := s.registry.pool.drift change, catalog } })

/-- Any number of steps, and what was seen of them. -/
inductive Run (s₀ : System τ) : Trace → System τ → Prop
  | rest : Run s₀ [] s₀
  | step {trace : Trace} {s : System τ} {a : Act τ} {notes : Trace} {s' : System τ} :
    Run s₀ trace s → s.step a = some (notes, s') → Run s₀ (notes ++ trace) s'

theorem Run.single {s s' : System τ} {a : Act τ} {notes : Trace}
    (h : s.step a = some (notes, s')) : Run s notes s' := by
  simpa using Run.step .rest h

theorem Run.trans {s₁ s₂ s₃ : System τ} {first second : Trace} (h₁ : Run s₁ first s₂)
    (h₂ : Run s₂ second s₃) : Run s₁ (second ++ first) s₃ := by
  -- induction on the second run, which goes on where the first one stopped
  induction h₂ with
  | rest => exact h₁
  | step _ hstep ih =>
    rw [List.append_assoc]
    exact ih.step hstep

/-! ## Sessions that are not interrupted -/

/-- A run goes on with the next piece of one session. -/
theorem Run.advance {s₀ : System τ} {trace : Trace} {r r' : Registry τ} {ws : List Worker}
    {i : Nat} {w w' : Worker} {notes : List Note} (hi : i < ws.length)
    (h : Run s₀ trace ⟨r, ws.set i w⟩) (hp : w.advance r = some (notes, w', r')) :
    Run s₀ (notes.map ((i, ·)) ++ trace) ⟨r', ws.set i w'⟩ := by
  have hw : (ws.set i w)[i]? = some w := by simp [hi]
  have hstep : System.step ⟨r, ws.set i w⟩ (.advance i) =
      some (notes.map ((i, ·)), ⟨r', ws.set i w'⟩) := by
    simp [System.step, onWorker, hw, hp]
  exact h.step hstep

theorem run_request {s : System τ} {i : Nat} {w w' : Worker} {m : Message} {notes : List Note}
    {r' : Registry τ} (hi : s.workers[i]? = some w)
    (hp : w.request m s.registry = some (notes, w', r')) :
    Run s (notes.map ((i, ·))) ⟨r', s.workers.set i w'⟩ := by
  have hstep : s.step (.request i m) =
      some (notes.map ((i, ·)), ⟨r', s.workers.set i w'⟩) := by
    simp [System.step, onWorker, hi, hp]
  exact Run.single hstep

section Requests

variable {s : System τ} {i : Nat} {session session' : Session} {m reply : Message}
  {r' : Registry τ}

/-- An opening is three pieces: the claim, the acquisition, then the table. -/
theorem run_openUnit (hop : m.op = .ok .openUnit) (hi : s.workers[i]? = some ⟨session, .idle⟩)
    (hh : session.openUnit m.payload s.registry = (reply, session', r')) :
    ∃ older, Run s ((i, .replied reply) :: older) ⟨r', s.workers.set i ⟨session', .idle⟩⟩ := by
  have hlt : i < s.workers.length := (List.getElem?_eq_some_iff.1 hi).1
  unfold Session.openUnit at hh
  cases hb : session.beginOpen m.payload s.registry with
  | error status =>
    -- refused before the claim: nothing is under way
    obtain ⟨rfl, rfl, rfl⟩ := by simpa [hb] using hh
    have hreq : Worker.request m ⟨session, .idle⟩ s.registry =
        some ([.replied (.failure status)], ⟨session, .idle⟩, s.registry) := by
      simp [Worker.request, hop, hb]
    exact ⟨[], run_request hi hreq⟩
  | ok found =>
    rcases found with ⟨o, r₁⟩
    cases hacq : r₁.acquire o.device with | mk result r₂ =>
    simp only [hb, hacq] at hh
    have hreq : Worker.request m ⟨session, .idle⟩ s.registry =
        some ([], ⟨session, .opening o .waiting⟩, r₁) := by
      simp [Worker.request, hop, hb]
    have h₁ := run_request hi hreq
    have hacquire : Worker.advance ⟨session, .opening o .running⟩ r₁ = some
        ([.acquireEnds o.device result.isOk], ⟨session, .opening o (.done result)⟩, r₂) := by
      simp [Worker.advance, hacq]
    have hfinish : Worker.advance ⟨session, .opening o (.done result)⟩ r₂ =
        some ([.replied reply], ⟨session', .idle⟩, r') := by
      simp [Worker.advance, hh]
    exact ⟨_, ((h₁.advance hlt rfl).advance hlt hacquire).advance hlt hfinish⟩

/-- A closing is three pieces: the mark, the release, then the claim. -/
theorem run_closeUnit (hop : m.op = .ok .closeUnit) (hi : s.workers[i]? = some ⟨session, .idle⟩)
    (hh : session.closeUnit m.unit s.registry = (reply, session', r')) :
    ∃ older, Run s ((i, .replied reply) :: older) ⟨r', s.workers.set i ⟨session', .idle⟩⟩ := by
  have hlt : i < s.workers.length := (List.getElem?_eq_some_iff.1 hi).1
  unfold Session.closeUnit at hh
  cases hb : session.beginClose m.unit with
  | error status =>
    obtain ⟨rfl, rfl, rfl⟩ := by simpa [hb] using hh
    have hreq : Worker.request m ⟨session, .idle⟩ s.registry =
        some ([.replied (.failure status)], ⟨session, .idle⟩, s.registry) := by
      simp [Worker.request, hop, hb]
    exact ⟨[], run_request hi hreq⟩
  | ok found =>
    rcases found with ⟨e, session₁⟩
    cases hrel : s.registry.release e.device false with | mk result r₁ =>
    cases hfin : Session.finishClose m.unit e result r₁ with | mk answer r₂ =>
    simp only [hb, hrel, hfin] at hh
    obtain ⟨rfl, rfl, rfl⟩ := by simpa using hh
    have hreq : Worker.request m ⟨session, .idle⟩ s.registry =
        some ([], ⟨session₁, .closing m.unit e .waiting⟩, s.registry) := by
      simp [Worker.request, hop, hb]
    have h₁ := run_request hi hreq
    have hrelease : Worker.advance ⟨session₁, .closing m.unit e .running⟩ s.registry = some
        ([.releaseEnds e.device], ⟨session₁, .closing m.unit e (.done result)⟩, r₁) := by
      simp [Worker.advance, hrel]
    have hfinish : Worker.advance ⟨session₁, .closing m.unit e (.done result)⟩ r₁ =
        some ([.replied answer], ⟨session₁, .idle⟩, r₂) := by
      simp [Worker.advance, hfin]
    exact ⟨_, ((h₁.advance hlt rfl).advance hlt hrelease).advance hlt hfinish⟩

/-- A session that is not interrupted answers a request as `Session.handle` does. -/
theorem run_handle (hi : s.workers[i]? = some ⟨session, .idle⟩)
    (hh : session.handle m s.registry = (reply, session', r')) :
    ∃ older, Run s ((i, .replied reply) :: older) ⟨r', s.workers.set i ⟨session', .idle⟩⟩ := by
  unfold Session.handle at hh
  split at hh
  · next hop => exact run_openUnit hop hi hh
  · next hop => exact run_closeUnit hop hi hh
  -- everything else is one piece
  all_goals
    next hop =>
    have hreq : Worker.request m ⟨session, .idle⟩ s.registry =
        some ([.replied reply], ⟨session', .idle⟩, r') := by
      simp [Worker.request, Session.handle, hop, hh]
    exact ⟨[], run_request hi hreq⟩

end Requests

/-- A session that is not interrupted ends as `Session.shutdown` does. -/
theorem run_shutdown {s : System τ} {i : Nat} {session : Session}
    (hi : s.workers[i]? = some ⟨session, .idle⟩) :
    ∃ trace, Run s trace
      ⟨(session.shutdown s.registry).2, s.workers.set i ⟨{}, .gone⟩⟩ := by
  have hlt : i < s.workers.length := (List.getElem?_eq_some_iff.1 hi).1
  have hstep : s.step (.disconnect i) =
      some ([], ⟨s.registry, s.workers.set i ⟨session, .ending⟩⟩) := by
    simp [System.step, onWorker, hi, Worker.disconnect]
  -- induction on the table: one unit after another, from whatever the registry has become
  have units : ∀ (entries : List Entry) (r : Registry τ) (trace : Trace),
      Run s trace ⟨r, s.workers.set i ⟨⟨entries⟩, .ending⟩⟩ →
      ∃ trace', Run s trace' ⟨entries.foldl (fun r e => Session.endEntry e r) r,
        s.workers.set i ⟨{}, .gone⟩⟩ := by
    intro entries
    induction entries with
    | nil =>
      intro r trace h
      exact ⟨_, h.advance hlt rfl⟩
    | cons e entries ih =>
      intro r trace h
      by_cases he : e.isOpen = true
      · -- an open unit is released first, and the last piece gives back its claim
        cases hrel : r.release e.device true with | mk result r₁ =>
        have htake : Worker.advance ⟨⟨e :: entries⟩, .ending⟩ r =
            some ([], ⟨⟨entries⟩, .leaving e .waiting⟩, r) := by
          simp [Worker.advance, he]
        have hrelease : Worker.advance ⟨⟨entries⟩, .leaving e .running⟩ r = some
            ([.releaseEnds e.device], ⟨⟨entries⟩, .leaving e (.done result)⟩, r₁) := by
          simp [Worker.advance, hrel]
        have h₁ := (((h.advance hlt htake).advance hlt rfl).advance hlt hrelease).advance hlt rfl
        simpa [Session.endEntry, he, hrel] using ih _ _ h₁
      · -- a unit that was closed before only refers to its transport
        have htake : Worker.advance ⟨⟨e :: entries⟩, .ending⟩ r =
            some ([], ⟨⟨entries⟩, .ending⟩, r.letGo e.transport) := by
          simp [Worker.advance, he]
        simpa [Session.endEntry, he] using ih _ _ (h.advance hlt htake)
  exact units session.entries s.registry [] (Run.single hstep)

end System

/-! ## Two sessions over one device -/

/-- A device that is not shared, of the kind that takes everything. -/
def loneConfig : DeviceConfig where
  name := "d"
  kind := NullDevice.kind

/-- The registry of this one device. -/
def lone : Registry OnHost :=
  .make [loneConfig] (.default ⟨false, {}⟩)

theorem deviceName_lone : deviceName [100] = "d" := by
  simp [deviceName, Text.decodeLossy, Text.decode]

namespace System

/-- Two sessions over one device, which the first has opened. -/
def occupied : System OnHost where
  registry := {
    catalog := .default ⟨false, {}⟩
    devices := [⟨loneConfig, true, some 0, 1⟩]
    pool := {
      members := [⟨⟨⟨false, {}⟩, .null {}⟩, 2⟩]
      journal := [.called 0 .connect, .made NullDevice.kind "" (some 0)] } }
  workers := [{ session := ⟨[⟨"d", 0, true, true⟩]⟩ }, {}]

theorem run_occupied : ∃ trace, Run (start lone) trace occupied := by
  have hconnect : Run (start lone) [] ⟨lone, [{}, {}]⟩ :=
    (Run.single (a := .connect) rfl).trans (Run.single (a := .connect) rfl)
  have hbegin : Worker.request (.request .openUnit 0 0 [100]) {} lone =
      some ([], ⟨{}, .opening ⟨"d", 0, true⟩ .waiting⟩, lone.update ⟨loneConfig, true, none, 0⟩) := by
    -- the name of the device is decoded first: after that the request evaluates
    simp only [Worker.request, Session.beginOpen, Message.request, deviceName_lone]
    rfl
  have hrequest := hconnect.trans (run_request (s := ⟨lone, [{}, {}]⟩) (i := 0) rfl hbegin)
  have hacquire := (hrequest.advance Nat.zero_lt_two rfl).advance Nat.zero_lt_two rfl
  exact ⟨_, hacquire.advance Nat.zero_lt_two rfl⟩

end System

end RemoteDevice.Server
