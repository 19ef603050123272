import RemoteDevice.Proofs.Server.Cleanup
import RemoteDevice.Proofs.Server.Backing

/-!
# Proofs.Server.Quiescence — when all sessions have ended

Once every session has ended no device is open or claimed. A device may have a transport still: a
closing keeps it for the next opening, and so does an opening that fails, while the end of a session
drops it. Which of these it was is the history of the device since it was last open (`quiescence`).
-/

namespace RemoteDevice.Server

open Wire

variable {τ : Type}

/-! ## Calls that return -/

/-- The note says that a call of the device of this name has returned. -/
def Note.ends (x : String) : Note → Bool
  | .acquireEnds device _ => device == x
  | .releaseEnds device => device == x
  | _ => false

section Returning

variable [Transport τ] {r r' : Registry τ} {x : String} {notes : List Note}

/-- A call of the device of this name returns to a session: what the session was in the middle of
before, and what it is in the middle of then. -/
inductive Returns (x : String) (r r' : Registry τ) : Task → Task → Prop
  | acquired {o : Session.Opening} {result : Outcome Nat} : o.device = x →
    r.acquire x = (result, r') → Returns x r r' (.opening o .running) (.opening o (.done result))
  | closed {unit : UInt8} {e : Entry} {result : Outcome Unit} : e.device = x →
    r.release x false = (result, r') →
    Returns x r r' (.closing unit e .running) (.closing unit e (.done result))
  | ended {e : Entry} {result : Outcome Unit} : e.device = x →
    r.release x true = (result, r') →
    Returns x r r' (.leaving e .running) (.leaving e (.done result))

/-- A move in which no call of the device returns changes neither its transport nor its count. -/
theorem Effect.still {i : Nat} {before after : Option Stake}
    (he : Effect i r before notes r' after) (hno : ∀ note ∈ notes, note.ends x = false) :
    r'.transportOf x = r.transportOf x ∧ notes.count (.acquireEnds x true) = 0 ∧
      notes.count (.releaseEnds x) = 0 := by
  have hcount : ∀ note : Note, note.ends x = true → notes.count note = 0 := by
    intro note hends
    apply List.count_eq_zero.2
    intro hmem
    simp [hno note hmem] at hends
  refine ⟨?_, hcount _ (by simp [Note.ends]), hcount _ (by simp [Note.ends])⟩
  cases he with
  | claim hc => exact Registry.transportOf_claim hc x
  | acquireStarts => rfl
  | @acquireEnds _ name _ result hacq =>
    have hname : x ≠ name := by
      rintro rfl
      simp [Note.ends] at hno
    exact (Registry.transportOf_acquire hacq x).resolve_right fun h => hname h.1
  | releaseStarts => rfl
  | @releaseEnds _ name _ _ _ _ hrel =>
    have hname : x ≠ name := by
      rintro rfl
      simp [Note.ends] at hno
    exact (Registry.transportOf_release hrel x).resolve_right fun h => hname h.1
  | unclaim ha _ => rw [Registry.transportOf_congr (ha.get? x), Registry.transportOf_unclaim]
  | aside ha _ => exact Registry.transportOf_congr (ha.get? x)

/-- Where it was seen that a call returned, it returned to this session. -/
theorem Worker.returns_of_advance {w w' : Worker} {note : Note}
    (h : w.advance r = some (notes, w', r')) (hmem : note ∈ notes) (hends : note.ends x = true) :
    w'.session = w.session ∧ Returns x r r' w.task w'.task := by
  cases advances_of_advance h with
  | @acquireEnds _ o _ _ hacq =>
    obtain rfl := List.mem_singleton.1 hmem
    obtain rfl : o.device = x := by simpa [Note.ends] using hends
    exact ⟨rfl, .acquired rfl hacq⟩
  | @closeEnds _ _ e _ _ hrel =>
    obtain rfl := List.mem_singleton.1 hmem
    obtain rfl : e.device = x := by simpa [Note.ends] using hends
    exact ⟨rfl, .closed rfl hrel⟩
  | @leaveEnds _ e _ _ hrel =>
    obtain rfl := List.mem_singleton.1 hmem
    obtain rfl : e.device = x := by simpa [Note.ends] using hends
    exact ⟨rfl, .ended rfl hrel⟩
  | ended => simp at hmem
  | leaves _ => simp at hmem
  | forgets _ => simp at hmem
  | left => simp at hmem
  | _ =>
    -- a call that starts, or a reply
    obtain rfl := List.mem_singleton.1 hmem
    simp [Note.ends] at hends

end Returning

/-! ## Devices that nobody has open -/

namespace System

variable [Transport τ]

/-- The session keeps the transport of the device of this name: it closes its unit, or it fails to
open the device, which has a transport all the same. -/
inductive Keeps (x : String) (s : System τ) (i : Nat) (s' : System τ) : Prop
  | closed {session : Session} {unit : UInt8} {e : Entry} :
    s.workers[i]? = some ⟨session, .closing unit e .running⟩ → e.device = x → Keeps x s i s'
  | failed {session : Session} {o : Session.Opening} :
    s.workers[i]? = some ⟨session, .opening o .running⟩ → o.device = x →
    s'.registry.transportOf x ≠ none → Keeps x s i s'

/-- The session is at its end, and disconnecting the transport of this device crashes. -/
inductive Crashes (x : String) (s : System τ) (i : Nat) (s' : System τ) : Prop
  | ended {session : Session} {e : Entry} :
    s.workers[i]? = some ⟨session, .leaving e .running⟩ → e.device = x →
    s'.workers[i]? = some ⟨session, .leaving e (.done (.error .crash))⟩ → Crashes x s i s'

/-- In a run, nobody has had the device of this name open since a session took such a step. -/
def IdleSince (s₀ : System τ) (x : String) (such : System τ → Nat → System τ → Prop)
    (trace : Trace) (s : System τ) : Prop :=
  ∃ older s₁ i notes s₂ later, Run s₀ older s₁ ∧ s₁.step (.advance i) = some (notes, s₂) ∧
    such s₁ i s₂ ∧ RunWhile (·.registry.opensOf x = 0) s₂ later s ∧
    trace = later ++ notes ++ older

variable {s₀ s s' : System τ} {x : String} {such : System τ → Nat → System τ → Prop}
  {trace notes : Trace} {a : Act τ} {i : Nat} {n : Nat}

theorem IdleSince.step (h : IdleSince s₀ x such trace s) (hstep : s.step a = some (notes, s'))
    (hidle : s'.registry.opensOf x = 0) : IdleSince s₀ x such (notes ++ trace) s' := by
  rcases h with ⟨older, s₁, i, first, s₂, later, hrun, hfirst, hsuch, hwhile, rfl⟩
  exact ⟨older, s₁, i, first, s₂, notes ++ later, hrun, hfirst, hsuch, hwhile.step hstep hidle,
    by simp only [List.append_assoc]⟩

theorem IdleSince.now (hrun : Run s₀ trace s) (hstep : s.step (.advance i) = some (notes, s'))
    (hsuch : such s i s') (hidle : s'.registry.opensOf x = 0) :
    IdleSince s₀ x such (notes ++ trace) s' :=
  ⟨trace, s, i, notes, s', [], hrun, hstep, hsuch, .rest hidle, by simp⟩

/-- A step of which it was seen that a call of the device returned. -/
theorem returns_of_step {j : Nat} {note : Note} (hstep : s.step a = some (notes, s'))
    (hmem : (j, note) ∈ notes) (hends : note.ends x = true) : ∃ i session task task',
      a = .advance i ∧ s.workers[i]? = some ⟨session, task⟩ ∧
      s'.workers[i]? = some ⟨session, task'⟩ ∧ Returns x s.registry s'.registry task task' := by
  have hsaid : ∀ {i : Nat} {said : List Note}, notes = said.map ((i, ·)) → note ∈ said := by
    rintro i said rfl
    rcases List.mem_map.1 hmem with ⟨note', hnote', heq⟩
    exact (Prod.mk.inj heq).2 ▸ hnote'
  cases a with
  | connect =>
    obtain ⟨rfl, -⟩ := by simpa [System.step] using hstep
    simp at hmem
  | outside change catalog =>
    obtain ⟨rfl, -⟩ := by simpa [System.step] using hstep
    simp at hmem
  | disconnect i =>
    rcases of_onWorker hstep with ⟨⟨session, task⟩, said, w', r', -, hp, hnotes, -⟩
    cases task with
    | idle =>
      obtain ⟨rfl, -⟩ := by simpa [Worker.disconnect] using hp
      simpa using hsaid hnotes
    | _ => simp [Worker.disconnect] at hp
  | request i m =>
    -- nothing is seen of a request but a reply
    rcases of_onWorker hstep with ⟨w, said, w', r', -, hp, hnotes, -⟩
    have hreply := hsaid hnotes
    cases (Worker.takes_of_request hp).2 with
    | refused _ =>
      obtain rfl := List.mem_singleton.1 hreply
      simp [Note.ends] at hends
    | access _ =>
      obtain rfl := List.mem_singleton.1 hreply
      simp [Note.ends] at hends
    | opening _ _ _ _ => simp at hreply
    | closing _ _ => simp at hreply
  | advance i =>
    rcases of_onWorker hstep with
      ⟨⟨session, task⟩, said, ⟨session', task'⟩, r', hw, hp, hnotes, rfl⟩
    have hlt : i < s.workers.length := (List.getElem?_eq_some_iff.1 hw).1
    obtain ⟨hsession, hreturns⟩ := Worker.returns_of_advance hp (hsaid hnotes) hends
    obtain rfl : session' = session := hsession
    exact ⟨i, session', task, task', rfl, hw, by simp [hlt], hreturns⟩

section FromTheStart

variable {configs : List DeviceConfig} {catalog : Catalog τ}

/-- A step leaves the transport and the count of a device alone, unless a call of the device returns
to a session. -/
theorem Run.returns_or_still (hrun : Run (start (.make configs catalog)) trace s)
    (hstep : s.step a = some (notes, s')) (x : String) :
    (s'.registry.transportOf x = s.registry.transportOf x ∧
      s'.registry.opensOf x = s.registry.opensOf x) ∨
    ∃ i session task task', a = .advance i ∧ s.workers[i]? = some ⟨session, task⟩ ∧
      s'.workers[i]? = some ⟨session, task'⟩ ∧ Returns x s.registry s'.registry task task' := by
  rcases hrun.counted_step hstep with ⟨i, said, before, after, rest, rfl, -, he, hcounted⟩
  by_cases hno : ∀ note ∈ said, note.ends x = false
  · rcases he.still hno with ⟨htransport, hacquired, hreleased⟩
    have hopens := hcounted.opensOf_move x (Registry.opensOf_make configs catalog) he
    rw [hacquired, hreleased] at hopens
    exact .inl ⟨htransport, hopens⟩
  · obtain ⟨note, hmem, hends⟩ : ∃ note ∈ said, note.ends x = true := by simpa using hno
    exact .inr (returns_of_step hstep (List.mem_map_of_mem hmem) hends)

/-- A device counts an opening for what is under way. -/
theorem Run.opensOf_pos {w : Worker} (hrun : Run (start (.make configs catalog)) trace s)
    (hw : s.workers[i]? = some w) (hcounts : w.task.counts x = true) :
    0 < s.registry.opensOf x := by
  rw [hrun.counted.2.opensOf_eq (Registry.opensOf_make configs catalog x), s.countP_counts]
  have hpos : 0 < s.unsettled x := List.countP_pos_iff.2 ⟨w, List.mem_of_getElem? hw, hcounts⟩
  omega

/-- While nobody has a device open it keeps the transport it has. -/
theorem Run.transportOf_of_idle (hrun : Run (start (.make configs catalog)) trace s)
    (hstep : s.step a = some (notes, s')) (hidle : s.registry.opensOf x = 0)
    (hn : s.registry.transportOf x = some n) : s'.registry.transportOf x = some n := by
  rcases hrun.returns_or_still hstep x with
    ⟨hkept, -⟩ | ⟨i, session, task, task', -, hw, -, hreturns⟩
  · exact hkept.trans hn
  · cases hreturns with
    | acquired _ hacq =>
      rcases Registry.transportOf_acquire hacq x with hkept | ⟨-, hnone⟩
      · exact hkept.trans hn
      · simp [hnone] at hn
    -- nobody can be giving an opening back
    | closed hdevice _ =>
      have hpos := hrun.opensOf_pos (x := x) hw (by simp [Task.counts, hdevice])
      omega
    | ended hdevice _ =>
      have hpos := hrun.opensOf_pos (x := x) hw (by simp [Task.counts, hdevice])
      omega

/-- A device that has a transport although nobody has it open: that was so before the step, or the
step left the transport there. -/
theorem Run.left_of_step (hrun : Run (start (.make configs catalog)) trace s)
    (hstep : s.step a = some (notes, s')) (hidle : s'.registry.opensOf x = 0)
    (hn : s'.registry.transportOf x ≠ none) :
    (s.registry.opensOf x = 0 ∧ s.registry.transportOf x ≠ none) ∨
      ∃ i, a = .advance i ∧ (Keeps x s i s' ∨ Crashes x s i s') := by
  rcases hrun.returns_or_still hstep x with
    ⟨htransport, hopens⟩ | ⟨i, session, task, task', rfl, hw, hw', hreturns⟩
  · exact .inl ⟨hopens ▸ hidle, htransport ▸ hn⟩
  · refine .inr ⟨i, rfl, ?_⟩
    cases hreturns with
    | acquired hdevice _ => exact .inl (.failed hw hdevice hn)
    | closed hdevice _ => exact .inl (.closed hw hdevice)
    | @ended e result hdevice hrel =>
      by_cases hcrash : result = .error .crash
      · subst hcrash
        exact .inr (.ended hw hdevice hw')
      · have hopens := Registry.opensOf_release hrel x
        rw [if_pos rfl, hidle] at hopens
        rw [Registry.transportOf_release_eq hrel, if_pos] at hn
        · exact absurd rfl hn
        · exact ⟨rfl, by omega, rfl, crashed_eq_false hcrash⟩

/-- A session that keeps the transport of a device. -/
theorem Run.transportOf_of_keeps (hrun : Run (start (.make configs catalog)) trace s)
    (hstep : s.step (.advance i) = some (notes, s')) (hkeeps : Keeps x s i s') :
    s'.registry.transportOf x ≠ none := by
  cases hkeeps with
  | failed _ _ hn => exact hn
  | @closed session unit e hw hdevice =>
    have hpos := hrun.opensOf_pos (x := x) hw (by simp [Task.counts, hdevice])
    have hmade := Registry.opensOf_make configs catalog
    obtain ⟨t, ht⟩ := hrun.counted.2.transportOf_of_open hmade hpos
    cases hrel : s.registry.release e.device false with | mk result r =>
    obtain ⟨-, rfl⟩ := by simpa [System.step, onWorker, hw, Worker.advance, hrel] using hstep
    rw [Registry.transportOf_release_eq hrel, if_neg (by simp), ht]
    exact Option.some_ne_none t

/-- A transport that was kept is there as long as nobody opens the device. -/
theorem IdleSince.transportOf_ne_none
    (h : IdleSince (start (.make configs catalog)) x (Keeps x) trace s) :
    s.registry.transportOf x ≠ none := by
  rcases h with ⟨older, s₁, i, notes, s₂, later, hrun, hstep, hkeeps, hwhile, -⟩
  have hfirst := hrun.transportOf_of_keeps hstep hkeeps
  -- induction on what happened since, which changes nothing about the transport
  have hlater : Run (start (.make configs catalog)) (later ++ (notes ++ older)) s ∧
      s.registry.opensOf x = 0 ∧ s.registry.transportOf x ≠ none := by
    induction hwhile with
    | rest hidle => exact ⟨hrun.step hstep, hidle, hfirst⟩
    | step _ hnext hidle ih =>
      rcases ih with ⟨hrun', hbefore, hn⟩
      rcases Option.ne_none_iff_exists'.1 hn with ⟨n, hn⟩
      rw [List.append_assoc]
      refine ⟨hrun'.step hnext, hidle, ?_⟩
      rw [hrun'.transportOf_of_idle hnext hbefore hn]
      exact Option.some_ne_none n
  exact hlater.2.2

/-- Where a transport is left on a device that nobody has open, something left it there, and nobody
has opened the device since. -/
theorem Run.idleSince (hrun : Run (start (.make configs catalog)) trace s)
    (hidle : s.registry.opensOf x = 0) (hn : s.registry.transportOf x ≠ none) :
    IdleSince (start (.make configs catalog)) x (Keeps x) trace s ∨
      IdleSince (start (.make configs catalog)) x (Crashes x) trace s := by
  -- induction on the run: the last step left the transport there, or it was there before that step
  induction hrun with
  | rest => exact absurd (Registry.transportOf_make configs catalog x) hn
  | step hrun hstep ih =>
    rcases hrun.left_of_step hstep hidle hn with ⟨hbefore, hleft⟩ | ⟨i, rfl, hkeeps | hcrashes⟩
    · exact (ih hbefore hleft).imp (·.step hstep hidle) (·.step hstep hidle)
    · exact .inl (.now hrun hstep hkeeps hidle)
    · exact .inr (.now hrun hstep hcrashes hidle)

end FromTheStart

end System

/-! ## Sessions that have ended -/

namespace Worker

variable [Transport τ] {w w' : Worker} {r r' : Registry τ} {notes : List Note}

/-- A session is not gone after a request. -/
theorem entries_of_request {m : Message} (h : w.request m r = some (notes, w', r'))
    (hgone : w'.task = .gone) : w'.session.entries = [] := by
  cases (takes_of_request h).2 <;> simp at hgone

omit [Transport τ] in
/-- A session that is gone has no units. -/
theorem entries_of_disconnect (h : w.disconnect r = some (notes, w', r'))
    (hgone : w'.task = .gone) : w'.session.entries = [] := by
  unfold disconnect at h
  split at h
  · obtain ⟨-, rfl, -⟩ := by simpa using h
    simp at hgone
  · simp at h

/-- A session that goes on is gone only when there is nothing left in its table. -/
theorem entries_of_advance (h : w.advance r = some (notes, w', r')) (hgone : w'.task = .gone) :
    w'.session.entries = [] := by
  cases advances_of_advance h with
  | ended => rfl
  | _ => simp at hgone

end Worker

namespace System

variable [Transport τ] {configs : List DeviceConfig} {catalog : Catalog τ} {trace notes : Trace}
  {s : System τ} {x : String} {d : Device}

/-- Every session has ended. -/
def Over (s : System τ) : Prop :=
  ∀ w ∈ s.workers, w.task = .gone

/-- A session that is gone has taken every unit from its table. -/
theorem Run.entries_of_gone {r : Registry τ} {w : Worker} (hrun : Run (start r) trace s)
    (hw : w ∈ s.workers) (hgone : w.task = .gone) : w.session.entries = [] := by
  induction hrun generalizing w with
  | rest => simp [start] at hw
  | @step trace s a notes s' hrun hstep ih =>
    have hpiece : ∀ i piece, s.onWorker i piece = some (notes, s') →
        (∀ v notes v' r', piece v s.registry = some (notes, v', r') → v'.task = .gone →
          v'.session.entries = []) → w.session.entries = [] := by
      intro i piece hp hall
      rcases of_onWorker hp with ⟨v, said, v', r', -, hv, -, rfl⟩
      rcases List.mem_or_eq_of_mem_set hw with hw | rfl
      · exact ih hw hgone
      · exact hall v said w r' hv hgone
    cases a with
    | connect =>
      obtain ⟨-, rfl⟩ := by simpa [System.step] using hstep
      rcases List.mem_append.1 hw with hw | hw
      · exact ih hw hgone
      · obtain rfl := List.mem_singleton.1 hw
        rfl
    | outside change catalog =>
      obtain ⟨-, rfl⟩ := by simpa [System.step] using hstep
      exact ih hw hgone
    | request i m => exact hpiece i _ hstep fun _ _ _ _ => Worker.entries_of_request
    | disconnect i => exact hpiece i _ hstep fun _ _ _ _ => Worker.entries_of_disconnect
    | advance i => exact hpiece i _ hstep fun _ _ _ _ => Worker.entries_of_advance

/-- Sessions that have ended have no stake in any device. -/
theorem Run.stakes_of_over {r : Registry τ} (hrun : Run (start r) trace s) (hover : s.Over) :
    s.stakes = [] := by
  apply List.flatten_eq_nil_iff.2
  intro stakes hstakes
  rcases List.mem_mapIdx.1 hstakes with ⟨i, hi, rfl⟩
  have hw : s.workers[i] ∈ s.workers := List.getElem_mem hi
  have hgone := hover _ hw
  simp [Worker.stakes, Session.stakes, hrun.entries_of_gone hw hgone, hgone, Task.stake?]

/-- No device is open or claimed then. -/
theorem Run.free_of_over (hrun : Run (start (.make configs catalog)) trace s)
    (hover : s.Over) (hd : s.registry.get? x = some d) : d.opens = 0 ∧ d.claimed = false := by
  have hledger := Ledger.of_run hrun
  rw [hrun.stakes_of_over hover] at hledger
  constructor
  · have hopens := hledger.opens x d hd
    rwa [Registry.opensOf_make] at hopens
  · have hclaimed := hledger.claimed x d hd
    rw [Registry.claimsOf_make] at hclaimed
    cases hc : d.claimed with
    | false => rfl
    | true => simp [hc] at hclaimed

end System

/-! ## The next opening -/

/-- The event is that a transport was to be made. -/
def Event.isMaking : Event → Bool
  | .made _ _ _ => true
  | _ => false

/-- The transports that were to be made, the newest first. -/
def Pool.makings (p : Pool τ) : List Event :=
  p.journal.filter Event.isMaking

/-- What acquiring the device has to make: its transport, with the next number if that succeeds,
unless there is one. -/
def Device.making (catalog : Catalog τ) (p : Pool τ) (d : Device) : List Event :=
  match d.transport with
  | some _ => []
  | none => [.made d.config.kind d.config.target
      (match catalog.create d.config.kind d.config.target d.config.options with
        | .ok _ => some p.members.length
        | .error _ => none)]

section NextOpening

variable {catalog : Catalog τ} {d d' : Device} {p p' : Pool τ} {r r' : Registry τ} {x : String}

/-- To use a transport is not to make one. -/
theorem Pool.makings_use {α : Type} (n : Nat) (call : Call) (run : τ → Outcome α × τ)
    (p : Pool τ) : (p.use n call run).2.makings = p.makings := by
  unfold use
  split <;> rfl

/-- A device makes a transport only if it has none. -/
theorem Device.makings_provide {result : Except Transport.Error Nat}
    (h : d.provide catalog p = (result, d', p')) :
    p'.makings = d.making catalog p ++ p.makings := by
  unfold provide Pool.enlist at h
  unfold making
  cases hn : d.transport with
  | some n =>
    obtain ⟨-, -, rfl⟩ := by simpa [hn] using h
    rfl
  | none =>
    cases hmade : catalog.create d.config.kind d.config.target d.config.options <;>
    · obtain ⟨-, -, rfl⟩ := by simpa [hn, hmade] using h
      rfl

variable [Transport τ]

theorem Device.makings_acquire {result : Outcome Nat}
    (h : d.acquire catalog p = (result, d', p')) :
    p'.makings = d.making catalog p ++ p.makings := by
  unfold acquire at h
  split at h
  · next hprovide =>
    obtain ⟨-, -, rfl⟩ := by simpa using h
    exact makings_provide hprovide
  · next n d₁ p₁ hprovide =>
    have hconnect : (p₁.connect n).2.makings = p₁.makings := Pool.makings_use _ _ _ _
    rw [makings_provide hprovide] at hconnect
    split at h <;>
    · next hp =>
      obtain ⟨-, -, rfl⟩ := by simpa using h
      rw [hp] at hconnect
      exact hconnect

theorem Registry.makings_acquire {result : Outcome Nat} (hd : r.get? x = some d)
    (h : r.acquire x = (result, r')) :
    r'.pool.makings = d.making r.catalog r.pool ++ r.pool.makings := by
  cases hacq : d.acquire r.catalog r.pool with | mk acquired found =>
  rcases found with ⟨d', p⟩
  obtain ⟨-, rfl⟩ := by simpa [acquire, hd, hacq] using h
  exact Device.makings_acquire hacq

/-- The transport that acquiring gives: the one the device has, or the next one. -/
theorem Registry.number_of_acquire {n : Nat} (hd : r.get? x = some d)
    (h : r.acquire x = (.ok n, r')) : n = d.transport.getD r.pool.members.length := by
  rcases acquire_cases h with ⟨hnone, -, -⟩ | ⟨d₁, d', hd₁, hacquired, -⟩
  · simp [hd] at hnone
  · obtain rfl := Option.some.inj (hd.symm.trans hd₁)
    have hn := hacquired.result n rfl
    rcases hacquired.transport with hkept | ⟨hnone, hnew, -⟩
    · rw [← hkept, hn, Option.getD_some]
    · rw [hnone, Option.getD_none]
      exact Option.some.inj (hn.symm.trans hnew)

/-- What acquiring the device connects: its transport of this number and in this state, which it has
or which is made now. -/
inductive Device.Finds (catalog : Catalog τ) (p : Pool τ) (d : Device) : Nat → τ → Prop
  | kept {n : Nat} {t : τ} : d.transport = some n → p.get? n = some t → Finds catalog p d n t
  | made {t : τ} : d.transport = none →
    catalog.create d.config.kind d.config.target d.config.options = .ok t →
    Finds catalog p d p.members.length t

omit [Transport τ] in
/-- A device is provided with the transport that it finds. -/
theorem Device.provide_of_finds {n : Nat} {t : τ} (h : d.Finds catalog p n t) :
    ∃ d₁ p₁, d.provide catalog p = (.ok n, d₁, p₁) ∧ p₁.get? n = some t := by
  cases h with
  | kept hn ht => exact ⟨d, p, by simp [provide, hn], ht⟩
  | made hnone hcreate =>
    refine ⟨{ d with transport := some p.members.length },
      (p.enlist d.config.kind d.config.target (.ok t)).2, ?_, ?_⟩
    · simp only [provide, hnone, hcreate]
      rfl
    · simp [Pool.enlist, Pool.get?]

/-- Acquiring connects the transport of the device, and succeeds if that does. -/
theorem Device.acquire_of_finds {n : Nat} {t : τ} (h : d.Finds catalog p n t) : ∃ d' p',
    d.acquire catalog p = ((Transport.connect t).1.map fun _ => n, d', p') ∧
      p'.get? n = some (Transport.connect t).2 := by
  obtain ⟨d₁, p₁, hprovide, ht⟩ := provide_of_finds h
  obtain ⟨p₂, hconnect, hstate, -⟩ := Pool.use_of_get? .connect Transport.connect ht
  have hp : p₁.connect n = _ := hconnect
  simp only [acquire, hprovide, hp]
  cases (Transport.connect t).1 with
  | error f => exact ⟨d₁, p₂, rfl, hstate⟩
  | ok u => exact ⟨_, _, rfl, by rw [Pool.get?_share, hstate]⟩

theorem Registry.acquire_of_finds {n : Nat} {t : τ} (hd : r.get? x = some d)
    (h : d.Finds r.catalog r.pool n t) :
    (r.acquire x).1 = ((Transport.connect t).1.map fun _ => n) ∧
      (r.acquire x).2.pool.get? n = some (Transport.connect t).2 := by
  obtain ⟨d', p', hacq, hstate⟩ := Device.acquire_of_finds h
  simp only [acquire, hd, hacq]
  exact ⟨trivial, hstate⟩

/-- No device is acquired whose transport cannot be made. -/
theorem Registry.acquire_of_unmade {e : Transport.Error} (hd : r.get? x = some d)
    (hnone : d.transport = none)
    (hcreate : r.catalog.create d.config.kind d.config.target d.config.options = .error e) :
    (r.acquire x).1 = .error (.error e) := by
  simp [acquire, hd, Device.acquire, Device.provide, hnone, hcreate, Pool.enlist]

/-- What becomes of the next opening of a device: the transport that it finds is connected, and the
opening succeeds exactly if that does; without one it fails. -/
structure Device.OpensBy (catalog : Catalog τ) (p : Pool τ) (d : Device) (reply : Message)
    (p' : Pool τ) : Prop where
  connects : ∀ n t, d.Finds catalog p n t → p'.get? n = some (Transport.connect t).2 ∧
    (reply.status = .success ↔ (Transport.connect t).1.isOk = true)
  fails : ∀ e, d.transport = none →
    catalog.create d.config.kind d.config.target d.config.options = .error e →
    reply = .failure .io

/-- The reply says what came of acquiring the device, whoever claimed it. -/
theorem Registry.opensBy_of_acquire {claimed : Bool} {result : Outcome Nat} {reply : Message}
    (hd : r.get? x = some { d with claimed }) (h : r.acquire x = (result, r'))
    (hok : ∀ n, result = .ok n → reply.status = .success)
    (herror : ∀ f, result = .error f → reply = .failure .io) :
    d.OpensBy r.catalog r.pool reply r'.pool := by
  constructor
  · intro n t hfinds
    have hsame : Device.Finds r.catalog r.pool { d with claimed } n t := by
      cases hfinds with
      | kept hn ht => exact .kept hn ht
      | made hnone hcreate => exact .made hnone hcreate
    obtain ⟨hresult, hstate⟩ := acquire_of_finds hd hsame
    rw [h] at hresult hstate
    refine ⟨hstate, ?_⟩
    cases hconnect : (Transport.connect t).1 with
    | ok u =>
      rw [hconnect] at hresult
      exact iff_of_true (hok n hresult) rfl
    | error f =>
      rw [hconnect] at hresult
      rw [herror f hresult]
      exact iff_of_false (by decide) Bool.false_ne_true
  · intro e hnone hcreate
    have hresult := acquire_of_unmade hd hnone hcreate
    rw [h] at hresult
    exact herror _ hresult

/-- Opening a device that nobody has claimed, as the first unit of a session: it is not busy, and
the unit refers to the transport the device had, or to the next one, which is made now; that is what
is connected. -/
theorem Session.openUnit_of_free {payload : Bytes} (hx : deviceName payload = x)
    (hd : r.get? x = some d) (hfree : d.claimed = false) : ∃ reply session r',
      openUnit payload {} r = (reply, session, r') ∧
      (reply.status = .success ∧
          session = .sole x d.config (d.transport.getD r.pool.members.length) ∨
        reply = .failure .io ∧ session = {}) ∧
      r'.pool.makings = d.making r.catalog r.pool ++ r.pool.makings ∧
      d.OpensBy r.catalog r.pool reply r'.pool := by
  cases hc : r.claim? x with
  | none =>
    rw [Registry.claim?_eq_none_iff hd, hfree] at hc
    simp at hc
  | some found =>
    rcases found with ⟨needed, r₁⟩
    have hcatalog := Registry.catalog_of_claim hc
    rcases Registry.claim?_eq_some hc with ⟨d₀, hd₀, rfl, -, hpool, hget⟩
    obtain rfl := Option.some.inj (hd.symm.trans hd₀)
    have hd₁ := (hget x).trans (if_pos rfl)
    have hbegin : beginOpen payload {} r = .ok (⟨x, 0, !d.config.shared⟩, r₁) := by
      have hzero : free? {} = some 0 := rfl
      simp only [beginOpen, hx, hd, hzero, hc]
    cases hacq : r₁.acquire x with | mk result r₂ =>
    have hmakings := Registry.makings_acquire hd₁ hacq
    rw [hcatalog, hpool] at hmakings
    cases result with
    | error f =>
      have hopens : d.OpensBy r₁.catalog r₁.pool (.failure .io) r₂.pool :=
        Registry.opensBy_of_acquire hd₁ hacq (by simp) fun _ _ => rfl
      rw [hcatalog, hpool] at hopens
      refine ⟨.failure .io, {}, r₂.unclaim x !d.config.shared, ?_, .inr ⟨rfl, rfl⟩, ?_, ?_⟩
      · simp only [openUnit, hbegin, hacq, finishOpen]
      · rw [Registry.pool_unclaim]
        exact hmakings
      · rw [Registry.pool_unclaim]
        exact hopens
    | ok n =>
      have hn := Registry.number_of_acquire hd₁ hacq
      rw [hpool] at hn
      have hopens : d.OpensBy r₁.catalog r₁.pool
          (.reply 0 0 (Text.encode (r₂.pool.kind n) ++ [0])) r₂.pool :=
        Registry.opensBy_of_acquire hd₁ hacq (fun _ _ => rfl) (by simp)
      rw [hcatalog, hpool] at hopens
      refine ⟨.reply 0 0 (Text.encode (r₂.pool.kind n) ++ [0]), .sole x d.config n, r₂, ?_,
        .inl ⟨rfl, congrArg _ hn⟩, hmakings, hopens⟩
      simp only [openUnit, hbegin, hacq]
      rfl

end NextOpening

/-! ## Every run -/

namespace System

variable [Transport τ] {configs : List DeviceConfig} {catalog : Catalog τ} {trace : Trace}
  {s : System τ} {x : String} {d : Device}

/-- What is left once all sessions have ended, whatever they did and in whatever order. No device is
open or claimed: every device is as it was at the start, but for its transport. It has one if
nobody has opened it since its last unit was closed, or since an opening failed after a transport
was made; and it has one for no other reason, unless disconnecting crashed when a session ended.
Whoever opens the device next finds it free, and gets that transport without making any; if there
is none, one is made, with a number that no transport had before. This transport is connected then,
and the opening succeeds exactly if that does. -/
theorem quiescence (hrun : Run (start (.make configs catalog)) trace s) (hover : s.Over)
    (hd : s.registry.get? x = some d) :
    d.opens = 0 ∧ d.claimed = false ∧
    (Registry.make configs catalog).get? x = some { d with transport := none } ∧
    (IdleSince (start (.make configs catalog)) x (Keeps x) trace s → d.transport ≠ none) ∧
    (d.transport ≠ none → IdleSince (start (.make configs catalog)) x (Keeps x) trace s ∨
      IdleSince (start (.make configs catalog)) x (Crashes x) trace s) ∧
    (∀ n, d.transport = some n → ∃ t, s.registry.pool.get? n = some t) ∧
    ∀ payload, deviceName payload = x → ∃ reply session r',
      Session.openUnit payload {} s.registry = (reply, session, r') ∧
      (reply.status = .success ∧
          session = .sole x d.config (d.transport.getD s.registry.pool.members.length) ∨
        reply = .failure .io ∧ session = {}) ∧
      r'.pool.makings =
        d.making s.registry.catalog s.registry.pool ++ s.registry.pool.makings ∧
      d.OpensBy s.registry.catalog s.registry.pool reply r'.pool := by
  rcases hrun.free_of_over hover hd with ⟨hopens, hclaimed⟩
  have htransport : s.registry.transportOf x = d.transport := Registry.transportOf_eq hd
  have hidle : s.registry.opensOf x = 0 := by simp [Registry.opensOf, hd, hopens]
  refine ⟨hopens, hclaimed, ?_, ?_, ?_, ?_, ?_⟩
  · -- nothing but the transport can differ from a device that was just made
    have hconfig := hrun.config x
    rw [hd] at hconfig
    obtain ⟨d₀, hd₀, hsame⟩ := Option.map_eq_some_iff.1 hconfig.symm
    rw [hd₀, Registry.get?_make hd₀, hsame]
    rcases d with ⟨config, claimed, transport, opens⟩
    simp_all
  · intro hsince
    exact htransport ▸ hsince.transportOf_ne_none
  · intro hn
    exact hrun.idleSince hidle (htransport ▸ hn)
  · intro n hn
    exact Pool.exists_get? (hrun.counted.2.wired.bound x n (htransport.trans hn))
  · intro payload hx
    exact Session.openUnit_of_free hx hd hclaimed

/-- The two sessions, after the first one has closed its unit and both have ended. -/
def vacated : System OnHost where
  registry := {
    catalog := .default ⟨false, {}⟩
    devices := [⟨loneConfig, false, some 0, 0⟩]
    pool := {
      members := [⟨⟨⟨false, {}⟩, .null {}⟩, 1⟩]
      journal := [.called 0 .disconnect, .called 0 .connect,
        .made NullDevice.kind "" (some 0)] } }
  workers := [{ task := .gone }, { task := .gone }]

theorem run_vacated : ∃ trace, Run (start lone) trace vacated := by
  rcases run_occupied with ⟨trace, hrun⟩
  -- the first session refers to the transport until it ends
  have hclosed : ∃ older reply, Run occupied ((0, .replied reply) :: older)
      ⟨{ vacated.registry with pool := vacated.registry.pool.share 0 },
        [{ session := ⟨[⟨"d", 0, false, false⟩]⟩ }, {}]⟩ := by
    obtain ⟨older, hclosed⟩ :=
      run_closeUnit (s := occupied) (i := 0) (m := .request .closeUnit 0 0 []) rfl rfl rfl
    exact ⟨older, _, hclosed⟩
  rcases hclosed with ⟨older, reply, hclosed⟩
  have hfirst : ∃ trace', Run _ trace' ⟨vacated.registry, [{ task := .gone }, {}]⟩ :=
    run_shutdown (s := ⟨{ vacated.registry with pool := vacated.registry.pool.share 0 },
      [{ session := ⟨[⟨"d", 0, false, false⟩]⟩ }, {}]⟩) (i := 0) rfl
  rcases hfirst with ⟨first, hfirst⟩
  have hsecond : ∃ trace', Run _ trace' vacated :=
    run_shutdown (s := ⟨vacated.registry, [{ task := .gone }, {}]⟩) (i := 1) rfl
  rcases hsecond with ⟨second, hsecond⟩
  exact ⟨_, ((hrun.trans hclosed).trans hfirst).trans hsecond⟩

/-- The device has the transport still that it was opened with, and the next opening gets it. -/
theorem transport_left_by_closing : ∃ trace, Run (start lone) trace vacated ∧ vacated.Over ∧
    vacated.registry.transportOf "d" = some 0 ∧ (vacated.registry.acquire "d").1 = .ok 0 := by
  rcases run_vacated with ⟨trace, hrun⟩
  refine ⟨trace, hrun, ?_, rfl, rfl⟩
  simp [Over, vacated]

/-- Both sessions have ended: the device is free, and its next opening makes no transport. -/
theorem quiescence_of_two : ∃ trace, Run (start lone) trace vacated ∧ vacated.Over ∧
    ∃ d, vacated.registry.get? "d" = some d ∧ d.opens = 0 ∧ d.claimed = false ∧
      (IdleSince (start lone) "d" (Keeps "d") trace vacated ∨
        IdleSince (start lone) "d" (Crashes "d") trace vacated) ∧
      ∃ reply session r, Session.openUnit [100] {} vacated.registry = (reply, session, r) ∧
        r.pool.makings = vacated.registry.pool.makings := by
  rcases run_vacated with ⟨trace, hrun⟩
  have hover : vacated.Over := by simp [Over, vacated]
  have hd : vacated.registry.get? "d" = some ⟨loneConfig, false, some 0, 0⟩ := rfl
  obtain ⟨hopens, hclaimed, -, -, hsince, -, hnext⟩ := quiescence hrun hover hd
  rcases hnext [100] deviceName_lone with ⟨reply, session, r, hopen, -, hmakings, -⟩
  exact ⟨trace, hrun, hover, _, hd, hopens, hclaimed, hsince (by simp), reply, session, r, hopen,
    hmakings⟩

end System

end RemoteDevice.Server
