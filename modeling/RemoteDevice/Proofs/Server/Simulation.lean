import RemoteDevice.Proofs.Server.Interleaving
import RemoteDevice.Proofs.Server.Stakes
import RemoteDevice.Server

/-!
# Proofs.Server.Simulation — the server as sessions that are not interrupted

A server deals with what a connection is sent before anything else happens. So its connections are
sessions none of which is interrupted by another, and wherever it comes to, a system of sessions
comes to as well. What holds in all runs of such systems holds of the server.
-/

namespace RemoteDevice.Server

open Net

variable {τ : Type} [Transport τ]

/-- The session of a connection, which is idle between requests. -/
def Connection.worker (c : Connection) : Worker :=
  ⟨c.session, if c.ended then .gone else .idle⟩

/-- The server as sessions over its registry. -/
def system (s : Server τ) : System τ :=
  ⟨s.registry, s.connections.map Connection.worker⟩

/-- A system that begins with this registry comes to where the server is. -/
def Follows (r : Registry τ) (s : Server τ) : Prop :=
  ∃ trace, System.Run (System.start r) trace s.system

/-! ## One connection -/

section

variable {s : System τ} {i : Nat}

/-- Requests are answered one after another, up to a reply that cannot be sent. -/
theorem run_answerAll (ms : List Wire.Message) {session : Session}
    (hi : s.workers[i]? = some ⟨session, .idle⟩) : ∃ trace,
      System.Run s trace ⟨(answerAll ms session s.registry).2.2,
        s.workers.set i ⟨(answerAll ms session s.registry).2.1, .idle⟩⟩ := by
  have hlt : i < s.workers.length := (List.getElem?_eq_some_iff.1 hi).1
  -- induction on the requests: each begins with the session idle again
  induction ms generalizing s session with
  | nil =>
    have hset : s.workers.set i ⟨session, .idle⟩ = s.workers := set_self_of_getElem? hi
    simp only [answerAll, hset]
    exact ⟨[], .rest⟩
  | cons m ms ih =>
    cases hh : session.handle m s.registry with | mk reply found =>
    rcases found with ⟨session', r'⟩
    rcases System.run_handle hi hh with ⟨older, hfirst⟩
    cases hreply : reply.encode with
    | error e =>
      simp only [answerAll, hh, hreply]
      exact ⟨_, hfirst⟩
    | ok data =>
      have hi' : (s.workers.set i ⟨session', .idle⟩)[i]? = some ⟨session', .idle⟩ := by simp [hlt]
      obtain ⟨trace, hrest⟩ :=
        ih (s := ⟨r', s.workers.set i ⟨session', .idle⟩⟩) hi' (by simpa using hlt)
      rw [List.set_set] at hrest
      simp only [answerAll, hh, hreply]
      exact ⟨_, hfirst.trans hrest⟩

/-- The end of a connection is a run of the system. -/
theorem Connection.run_finish {c : Connection} (hi : s.workers[i]? = some c.worker) : ∃ trace,
    System.Run s trace ⟨(c.finish s.registry).2, s.workers.set i (c.finish s.registry).1.worker⟩ := by
  rcases c with ⟨session, buffer, ended⟩
  cases ended with
  | true =>
    have hset : s.workers.set i (worker ⟨session, buffer, true⟩) = s.workers :=
      set_self_of_getElem? hi
    refine ⟨[], ?_⟩
    simp only [finish, if_true, hset]
    exact .rest
  | false => exact System.run_shutdown hi

/-- To take in bytes is a run of the system: that of the requests in them. -/
theorem Connection.run_receive (data : Bytes) {c : Connection}
    (hi : s.workers[i]? = some c.worker) : ∃ trace,
      System.Run s trace ⟨(c.receive data s.registry).2.2,
        s.workers.set i (c.receive data s.registry).2.1.worker⟩ := by
  have hlt : i < s.workers.length := (List.getElem?_eq_some_iff.1 hi).1
  rcases c with ⟨session, buffer, ended⟩
  cases ended with
  | true =>
    have hset : s.workers.set i (worker ⟨session, buffer, true⟩) = s.workers :=
      set_self_of_getElem? hi
    refine ⟨[], ?_⟩
    simp only [receive, if_true, hset]
    exact .rest
  | false =>
    cases hdrain : Wire.Framing.drain (buffer ++ data) with | mk requests rest =>
    obtain ⟨trace, hanswers⟩ := run_answerAll requests hi
    cases hanswer : answerAll requests session s.registry with | mk answers found =>
    rcases found with ⟨session', r'⟩
    rw [hanswer] at hanswers
    by_cases hcomplete : answers.complete = true
    · simp only [receive, Bool.false_eq_true, if_false, hdrain, hanswer, hcomplete, if_true]
      exact ⟨trace, hanswers⟩
    · -- the connection is given up, and its session ends
      have hi' : (s.workers.set i ⟨session', .idle⟩)[i]? =
          some (worker ⟨session', rest, false⟩) := by simp [hlt, worker]
      obtain ⟨trace', hfinish⟩ :=
        run_finish (s := ⟨r', s.workers.set i ⟨session', .idle⟩⟩) hi'
      rw [List.set_set] at hfinish
      simp only [receive, Bool.false_eq_true, if_false, hdrain, hanswer, hcomplete]
      exact ⟨_, hanswers.trans hfinish⟩

end

/-! ## All connections -/

variable {r : Registry τ} {s : Server τ}

omit [Transport τ] in
theorem worker_of_connection {k : Nat} {c : Connection} (hk : s.connections[k]? = some c) :
    s.system.workers[k]? = some c.worker := by
  simp [system, hk]

namespace Follows

theorem start (r : Registry τ) : Follows r (⟨r, []⟩ : Server τ) :=
  ⟨[], .rest⟩

theorem accept (h : Follows r s) : Follows r s.accept.2 := by
  obtain ⟨trace, hrun⟩ := h
  have hstep : s.system.step .connect = some ([], s.accept.2.system) := by
    simp [System.step, system, Server.accept, Connection.worker]
  exact ⟨_, hrun.step hstep⟩

theorem receive (k : Nat) (data : Bytes) (h : Follows r s) : Follows r (s.receive k data).2 := by
  obtain ⟨trace, hrun⟩ := h
  unfold Server.receive
  cases hk : s.connections[k]? with
  | none => exact ⟨trace, hrun⟩
  | some c =>
    obtain ⟨trace', hreceive⟩ := Connection.run_receive data (worker_of_connection hk)
    refine ⟨_, hrun.trans (?_ : System.Run s.system trace' _)⟩
    simpa [system, List.map_set] using hreceive

theorem finish (k : Nat) (h : Follows r s) : Follows r (s.finish k) := by
  obtain ⟨trace, hrun⟩ := h
  unfold Server.finish
  cases hk : s.connections[k]? with
  | none => exact ⟨trace, hrun⟩
  | some c =>
    obtain ⟨trace', hfinish⟩ := Connection.run_finish (worker_of_connection hk)
    refine ⟨_, hrun.trans (?_ : System.Run s.system trace' _)⟩
    simpa [system, List.map_set] using hfinish

theorem drift (change : Nat → τ → τ) (h : Follows r s) : Follows r { s with registry :=
    { s.registry with pool := s.registry.pool.drift change } } := by
  obtain ⟨trace, hrun⟩ := h
  exact ⟨_, hrun.step (a := .outside change s.registry.catalog) rfl⟩

end Follows

end RemoteDevice.Server
