import RemoteDevice.Proofs.Server.Standing
import RemoteDevice.Proofs.Server.Arbitration

/-!
# Proofs.Server.Isolation — a device that one session has for itself

An open unit of a device that is not shared is all that anybody has of the device. So whatever the
other sessions do, and whatever else its own session does, leaves the device and its transport
alone, and what is answered to the requests on the unit is decided by these requests and by the
transport as it was (`exclusive_isolation`).
-/

namespace RemoteDevice.Server

open Wire List

variable {τ : Type}

/-! ## A transport and the requests on a unit -/

/-- The message is a request on the unit of this number. -/
def IsOn (unit : UInt8) (m : Message) : Prop :=
  m.unit = unit ∧ (m.op = .ok .readUnit ∨ m.op = .ok .writeUnit ∨ m.op = .ok .closeUnit)

/-- The call that a request on a unit is of the transport: a closing disconnects it. -/
def callOf (m : Message) : Call :=
  match m.op with
  | .ok .readUnit => .read m.control (requestedLength m.payload)
  | .ok .writeUnit => .write m.control m.payload
  | _ => .disconnect

section Transports

variable [Transport τ]

/-- What is answered to a request on a unit if there is nothing but the transport, and the state the
transport has then. -/
def respond (m : Message) (t : τ) : Message × τ :=
  match m.op with
  | .ok .readUnit =>
    let (result, t) := Transport.read m.control (requestedLength m.payload) t
    (match result with
      | .ok reading => .reply m.unit m.control reading.data
      | .error _ => .failure .io, t)
  | .ok .writeUnit =>
    let (result, t) := Transport.write m.control m.payload t
    (match result with
      | .ok _ => .reply m.unit m.control []
      | .error _ => .failure .io, t)
  | _ =>
    let (result, t) := Transport.disconnect t
    (match result with
      | .ok _ => .reply m.unit 0 []
      | .error _ => .failure .io, t)

/-- The state of the transport after requests, the newest first. -/
def afterAll (t : τ) : List Message → τ
  | [] => t
  | m :: older => (respond m (afterAll t older)).2

/-- Requests, the newest first, each with what is answered to it. -/
def answersOf (t : τ) : List Message → List (Message × Message)
  | [] => []
  | m :: older => (m, (respond m (afterAll t older)).1) :: answersOf t older

theorem map_fst_answersOf (t : τ) (ms : List Message) : (answersOf t ms).map (·.1) = ms := by
  induction ms with
  | nil => rfl
  | cons m older ih => exact congrArg (m :: ·) ih

/-- The first answers do not depend on what is asked later. -/
theorem answersOf_suffix (t : τ) {ms ms' : List Message} (h : ms <:+ ms') :
    answersOf t ms <:+ answersOf t ms' := by
  rcases h with ⟨later, rfl⟩
  induction later with
  | nil => exact List.suffix_rfl
  | cons m later ih => exact ih.trans (List.suffix_cons _ _)

end Transports

/-! ## The only stake -/

theorem Task.device?_eq (i : Nat) (task : Task) :
    task.device? = (task.stake? i).map (·.device) := by
  cases task <;> rfl

/-- What stands in a table and what is under way, as stakes, are in other devices. -/
theorem Worker.ne_of_stakes {x : String} {j : Nat} {v : Worker}
    (h : ∀ st ∈ v.stakes j, st.isIn x = false) :
    v.task.device? ≠ some x ∧ ∀ unit e, v.session.unit? unit = some e → e.device ≠ x := by
  constructor
  · intro htask
    rw [Task.device?_eq j] at htask
    rcases Option.map_eq_some_iff.1 htask with ⟨st, hst, rfl⟩
    have hin := h st (List.mem_append_right _ (by simp [hst]))
    simp [Stake.isIn] at hin
  · rintro unit e hunit rfl
    rcases Session.unit?_eq_some_iff.1 hunit with ⟨hget, hopen⟩
    have hmem : e.stake j ∈ v.session.stakes j :=
      List.mem_map_of_mem (List.mem_filter.2 ⟨List.mem_of_getElem? hget, hopen⟩)
    have hin := h _ (List.mem_append_left _ hmem)
    simp [Stake.isIn, Entry.stake] at hin

namespace System

/-- The stakes of a worker are among those of the system. -/
theorem stakes_subset {s : System τ} {j : Nat} {v : Worker} (hv : s.workers[j]? = some v) :
    ∀ st ∈ v.stakes j, st ∈ s.stakes := by
  intro st hst
  rcases stakes_set hv with ⟨others, hs, -⟩
  exact hs.mem_iff.2 (List.mem_append_left _ hst)

variable [Transport τ] {configs : List DeviceConfig} {catalog : Catalog τ} {trace : Trace}
  {s s' : System τ} {i : Nat} {w : Worker} {x : String} {d : Device}

/-- A stake in a device that is not shared is the only one: the device is claimed, and neither the
same session nor another one has a second stake in it. -/
theorem Run.sole {st : Stake} {rest : List Stake}
    (hrun : Run (start (.make configs catalog)) trace s) (hd : s.registry.get? x = some d)
    (hexclusive : d.config.shared = false) (hw : s.workers[i]? = some w)
    (hstakes : w.stakes i ~ st :: rest) (hin : st.isIn x = true) :
    d.claimed = true ∧ (∀ st' ∈ rest, st'.isIn x = false) ∧
      ∀ j v, j ≠ i → s.workers[j]? = some v → ∀ st' ∈ v.stakes j, st'.isIn x = false := by
  have hmade := Registry.claimsOf_make configs catalog x
  have h := Arbitrated.of_run hmade hrun
  have hcount := h.ledger.countP_isIn_of_exclusive h.marked hmade hd hexclusive
  rcases stakes_set hw with ⟨others, hs, hset⟩
  rw [hs.countP_eq, List.countP_append, hstakes.countP_eq, List.countP_cons, if_pos hin] at hcount
  have hle : (if d.claimed then 1 else 0) ≤ 1 := by split <;> omega
  have hrest : rest.countP (Stake.isIn x) = 0 := by omega
  have hothers : others.countP (Stake.isIn x) = 0 := by omega
  refine ⟨?_, ?_, ?_⟩
  · cases hclaimed : d.claimed with
    | true => rfl
    | false =>
      simp only [hclaimed, Bool.false_eq_true, if_false] at hcount
      omega
  · intro st' hst'
    simpa using List.countP_eq_zero.1 hrest st' hst'
  · intro j v hj hv st' hst'
    -- without this session the other one still has its stakes
    have hv' : (s.workers.set i {})[j]? = some v := by
      rw [List.getElem?_set_ne (Ne.symm hj), hv]
    have hmem := stakes_subset (s := ⟨s.registry, s.workers.set i {}⟩) hv' st' hst'
    have hnone : Worker.stakes i {} = [] := rfl
    have hmem' := (hset s.registry {}).mem_iff.1 hmem
    rw [hnone, List.nil_append] at hmem'
    simpa using List.countP_eq_zero.1 hothers st' hmem'

/-- Nobody but session `i` has anything of the device of this name. -/
def AloneOn (x : String) (i : Nat) (s : System τ) : Prop :=
  s.registry.claim? x = none ∧ ∀ j v, j ≠ i → s.workers[j]? = some v →
    v.task.device? ≠ some x ∧ ∀ unit e, v.session.unit? unit = some e → e.device ≠ x

/-- An open unit of a device that is not shared is all that there is of the device. -/
theorem Run.alone_of_unit? {unit : UInt8} {e : Entry}
    (hrun : Run (start (.make configs catalog)) trace s) (hd : s.registry.get? e.device = some d)
    (hexclusive : d.config.shared = false) (hw : s.workers[i]? = some w)
    (hunit : w.session.unit? unit = some e) :
    s.AloneOn e.device i ∧ w.task.device? ≠ some e.device ∧
      ∀ v e', v ≠ unit → w.session.unit? v = some e' → e'.device ≠ e.device := by
  -- apart from the unit there are the stakes of the session as it is without the unit
  have hstakes : w.stakes i ~ e.stake i :: Worker.stakes i ⟨w.session.markClosed unit, w.task⟩ :=
    (Session.stakes_markClosed i hunit).append_right _
  rcases hrun.sole hd hexclusive hw hstakes (by simp [Stake.isIn, Entry.stake]) with
    ⟨hclaimed, hrest, hothers⟩
  rcases Worker.ne_of_stakes hrest with ⟨htask, hunits⟩
  refine ⟨⟨(Registry.claim?_eq_none_iff hd).2 ⟨hexclusive, hclaimed⟩, ?_⟩, htask, ?_⟩
  · intro j v hj hv
    exact Worker.ne_of_stakes (hothers j v hj hv)
  · intro v e' hv he'
    apply hunits v
    rw [Session.unit?_markClosed, if_neg hv, he']

/-- So is a closing of such a unit that is under way. -/
theorem Run.alone_of_closing {session : Session} {unit : UInt8} {e : Entry} {stage : Stage Unit}
    (hrun : Run (start (.make configs catalog)) trace s) (hd : s.registry.get? e.device = some d)
    (hexclusive : d.config.shared = false)
    (hw : s.workers[i]? = some ⟨session, .closing unit e stage⟩) : s.AloneOn e.device i := by
  have hstakes : Worker.stakes i ⟨session, .closing unit e stage⟩ ~
      ⟨i, e.device, e.claim, stage.giving e.transport⟩ :: session.stakes i :=
    List.perm_append_singleton _ _
  rcases hrun.sole hd hexclusive hw hstakes (by simp [Stake.isIn]) with ⟨hclaimed, -, hothers⟩
  refine ⟨(Registry.claim?_eq_none_iff hd).2 ⟨hexclusive, hclaimed⟩, ?_⟩
  intro j v hj hv
  exact Worker.ne_of_stakes (hothers j v hj hv)

end System

/-! ## Pieces of work that leave the device alone -/

/-- The client of the session is there still. -/
def Task.Attentive : Task → Prop
  | .ending => False
  | .leaving _ _ => False
  | .gone => False
  | _ => True

namespace Worker

variable [Transport τ] {r r' : Registry τ} {w w' : Worker} {notes : List Note} {m : Message}
  {x : String} {unit : UInt8} {e : Entry}

/-- A request leaves a device alone that cannot be claimed, unless it is a reading or a writing of a
unit of the device. -/
theorem leaves_request (hwired : Wired r []) (htaken : r.claim? x = none)
    (hunit : ∀ e, w.session.unit? m.unit = some e →
      m.op = .ok .readUnit ∨ m.op = .ok .writeUnit → e.Apart x r)
    (h : w.request m r = some (notes, w', r')) : r.Leaves x r' := by
  cases (takes_of_request h).2 with
  | refused _ => exact .refl hwired
  | access hcalls =>
    refine Session.leaves_calls hwired ?_ hcalls
    cases hcalls with
    | called _ hop _ _ _ _ => exact fun e he => hunit e he hop
  | opening _ _ _ hclaim =>
    refine Registry.leaves_claim hwired ?_ hclaim
    rintro rfl
    simp [htaken] at hclaim
  | closing _ _ => exact .refl hwired

/-- A session in the middle of something that is about another device. -/
theorem leaves_advance (hwired : Wired r []) (htask : w.task.device? ≠ some x)
    (h : w.advance r = some (notes, w', r')) : r.Leaves x r' := by
  have hname : ∀ name, w.task.device? = some name → name ≠ x := fun name hdevice heq =>
    htask (hdevice.trans (congrArg some heq))
  cases advances_of_advance h with
  | acquireStarts => exact .refl hwired
  | acquireEnds hacq => exact (Registry.leaves_acquire hwired (hname _ rfl) hacq).1
  | opened hfin => exact Session.leaves_finishOpen hwired (hname _ rfl) hfin
  | closeStarts => exact .refl hwired
  | closeEnds hrel => exact Registry.leaves_release hwired (hname _ rfl) hrel
  | @closed _ unit e result _ _ hfin =>
    obtain rfl : r.unclaim e.device e.claim = r' := by
      rw [← Session.finishClose_snd unit e result, hfin]
    exact Registry.leaves_unclaim e.claim hwired (hname _ rfl)
  | ended => exact .refl hwired
  | leaves _ => exact .refl hwired
  | @forgets e _ _ => exact Registry.leaves_letGo e.transport hwired
  | leaveStarts => exact .refl hwired
  | leaveEnds hrel => exact Registry.leaves_release hwired (hname _ rfl) hrel
  | @left _ e _ =>
    have hunclaim := Registry.leaves_unclaim e.claim hwired (hname _ rfl)
    exact hunclaim.trans (Registry.leaves_letGo e.transport hunclaim.wired)

/-- A request that is not on the unit leaves it in the table. -/
theorem unit?_of_request (hon : ¬ IsOn unit m) (hunit : w.session.unit? unit = some e)
    (h : w.request m r = some (notes, w', r')) :
    w'.session.unit? unit = some e ∧ w'.task.Attentive := by
  cases (takes_of_request h).2 with
  | refused _ => exact ⟨hunit, trivial⟩
  | access _ => exact ⟨hunit, trivial⟩
  | opening _ _ _ _ => exact ⟨hunit, trivial⟩
  | closing hop _ =>
    have hne : unit ≠ m.unit := fun heq => hon ⟨heq.symm, .inr (.inr hop)⟩
    refine ⟨?_, trivial⟩
    dsimp only
    rw [Session.unit?_markClosed, if_neg hne, hunit]

/-- Whatever a session is in the middle of, while its client is there the units that are open stay
in the table. -/
theorem unit?_of_advance (htidy : w.Tidy) (hthere : w.task.Attentive)
    (hunit : w.session.unit? unit = some e) (h : w.advance r = some (notes, w', r')) :
    w'.session.unit? unit = some e ∧ w'.task.Attentive := by
  cases advances_of_advance h with
  | acquireStarts => exact ⟨hunit, trivial⟩
  | acquireEnds _ => exact ⟨hunit, trivial⟩
  | @opened _ _ o _ _ _ hfin =>
    refine ⟨?_, trivial⟩
    rcases Session.finishOpen_cases hfin with ⟨-, rfl⟩ | ⟨t, kind, -, rfl⟩
    · exact hunit
    · -- the number that is bound was free, so it is not this one
      have hfree := htidy o _ rfl
      have hne : unit ≠ .ofNat o.number := by
        rintro rfl
        simp [(Session.lowest_of_free? hfree).2.1] at hunit
      dsimp only
      rw [Session.unit?_bind hfree rfl, if_neg hne, hunit]
  | closeStarts => exact ⟨hunit, trivial⟩
  | closeEnds _ => exact ⟨hunit, trivial⟩
  | closed _ => exact ⟨hunit, trivial⟩
  | _ => exact absurd hthere id

end Worker

/-! ## The device meanwhile -/

/-- The device of this name is not shared and has transport `n`, which is in this state and of which
these calls were made, the newest first. -/
def Registry.Keeps (x : String) (n : Nat) (t : τ) (calls : List Call) (r : Registry τ) : Prop :=
  ∃ d, d.config.shared = false ∧ d.transport = some n ∧ r.Stands x d n t calls

namespace Registry.Keeps

variable {x : String} {n : Nat} {t : τ} {calls : List Call} {r r' : Registry τ}

theorem exclusive (h : r.Keeps x n t calls) :
    ∃ d, r.get? x = some d ∧ d.config.shared = false ∧ d.transport = some n := by
  rcases h with ⟨d, hexclusive, hn, hs⟩
  exact ⟨d, hs.device, hexclusive, hn⟩

theorem state_eq (h : r.Keeps x n t calls) : r.pool.get? n = some t := by
  rcases h with ⟨d, -, -, hs⟩
  exact hs.state

theorem calls_eq (h : r.Keeps x n t calls) : r.pool.calls n = calls := by
  rcases h with ⟨d, -, -, hs⟩
  exact hs.calls

/-- What happens to other devices does not concern the kept one. -/
theorem leaves (h : r.Keeps x n t calls) (hl : r.Leaves x r') : r'.Keeps x n t calls := by
  rcases h with ⟨d, hexclusive, hn, hs⟩
  exact ⟨d, hexclusive, hn, hs.leaves hn hl⟩

theorem drift {change : Nat → τ → τ} (catalog : Catalog τ) (h : r.Keeps x n t calls)
    (hchange : change n t = t) :
    Registry.Keeps x n t calls { r with pool := r.pool.drift change, catalog } := by
  rcases h with ⟨d, hexclusive, hn, hs⟩
  exact ⟨d, hexclusive, hn, hs.drift catalog hchange⟩

theorem unclaim (held : Bool) (h : r.Keeps x n t calls) : (r.unclaim x held).Keeps x n t calls := by
  rcases h with ⟨d, hexclusive, hn, hs⟩
  exact ⟨{ d with claimed := d.claimed && !held }, hexclusive, hn, hs.unclaim held⟩

/-- A call of the kept transport finds it as the calls before have left it. -/
theorem use {α : Type} (h : r.Keeps x n t calls) (call : Call) (run : τ → Outcome α × τ) :
    ∃ r', r.use (·.use n call run) = ((run t).1, r') ∧
      r'.Keeps x n (run t).2 (call :: calls) := by
  rcases h with ⟨d, hexclusive, hn, hs⟩
  rcases hs.use call run with ⟨r', huse, hs'⟩
  exact ⟨r', huse, d, hexclusive, hn, hs'⟩

/-- Closing the only unit of the device. -/
theorem release [Transport τ] (h : r.Keeps x n t calls) (hopens : r.opensOf x ≤ 1) : ∃ r',
    r.release x false = ((Transport.disconnect t).1, r') ∧
      r'.Keeps x n (Transport.disconnect t).2 (.disconnect :: calls) := by
  rcases h with ⟨d, hexclusive, hn, hs⟩
  have hle : d.opens ≤ 1 := by simpa [opensOf, hs.device] using hopens
  rcases hs.release_last false hn hle with ⟨r', hrel, hs'⟩
  exact ⟨r', hrel, { d with opens := 0, transport := some n }, hexclusive, rfl, hs'⟩

end Registry.Keeps

/-! ## One unit in use -/

/-- A step that is no request on unit `unit` of session `i`, nor part of answering one, if one is
waiting for its answer: other sessions do whatever they like, and session `i` does whatever it likes
with its other units but stays; transport `n` does not change by itself. -/
inductive Act.Besides (i : Nat) (unit : UInt8) (n : Nat) (pending : Option Message) : Act τ → Prop
  | connect : Besides i unit n pending .connect
  | request {j : Nat} {m : Message} : j ≠ i ∨ ¬ IsOn unit m →
    Besides i unit n pending (.request j m)
  | disconnect {j : Nat} : j ≠ i → Besides i unit n pending (.disconnect j)
  | advance {j : Nat} : j ≠ i ∨ pending = none → Besides i unit n pending (.advance j)
  | outside {change : Nat → τ → τ} {catalog : Catalog τ} : (∀ t, change n t = t) →
    Besides i unit n pending (.outside change catalog)

namespace System

variable [Transport τ]

/-- Runs in which the client of session `i` uses its unit `unit` up to the answer to its first
closing, with the account of the requests on this unit; transport `n` depends on nothing but its
calls, and everything else is arbitrary. -/
inductive Uses (s₀ : System τ) (i : Nat) (unit : UInt8) (n : Nat) : Account → System τ → Prop
  | begins : Uses s₀ i unit n {} s₀
  | elsewhere {account : Account} {s s' : System τ} {a : Act τ} {trace : Trace} :
    Uses s₀ i unit n account s → (∀ p ∈ account.answered, p.1.op ≠ .ok .closeUnit) →
    a.Besides i unit n account.pending → s.step a = some (trace, s') →
    Uses s₀ i unit n account s'
  | request {account : Account} {s s' : System τ} {m : Message} (notes : List Note) :
    Uses s₀ i unit n account s → (∀ p ∈ account.answered, p.1.op ≠ .ok .closeUnit) →
    IsOn unit m → s.step (.request i m) = some (notes.map ((i, ·)), s') →
    Uses s₀ i unit n (account.hear m notes) s'
  | advance {account : Account} {s s' : System τ} {m : Message} (notes : List Note) :
    Uses s₀ i unit n account s → account.pending = some m →
    s.step (.advance i) = some (notes.map ((i, ·)), s') →
    Uses s₀ i unit n (account.hear m notes) s'

variable {s₀ s s' : System τ} {i n : Nat} {unit : UInt8} {account : Account}

theorem Uses.run (h : Uses s₀ i unit n account s) : ∃ trace, Run s₀ trace s := by
  induction h with
  | begins => exact ⟨[], .rest⟩
  | elsewhere _ _ _ hstep ih =>
    rcases ih with ⟨trace, hrun⟩
    exact ⟨_, hrun.step hstep⟩
  | request _ _ _ _ hstep ih =>
    rcases ih with ⟨trace, hrun⟩
    exact ⟨_, hrun.step hstep⟩
  | advance _ _ _ hstep ih =>
    rcases ih with ⟨trace, hrun⟩
    exact ⟨_, hrun.step hstep⟩

/-- How it stands with the unit of the device of this name while it is used: what was answered is
what the transport answers, and the calls of the transport are those of the requests. A closing
under way has the result of disconnecting the transport when that is done. -/
inductive Converses (x : String) (n : Nat) (unit : UInt8) (t : τ) (calls : List Call) :
    Account → Worker → Registry τ → Prop
  | uses {ms : List Message} {e : Entry} {w : Worker} {r : Registry τ} :
    w.session.unit? unit = some e → e.device = x → w.task.Attentive →
    (∀ m ∈ ms, m.op ≠ .ok .closeUnit) → r.Keeps x n (afterAll t ms) (ms.map callOf ++ calls) →
    Converses x n unit t calls ⟨answersOf t ms, none⟩ w r
  | closes {ms : List Message} {m : Message} {e : Entry} {session : Session} {stage : Stage Unit}
      {r : Registry τ} :
    m.op = .ok .closeUnit → m.unit = unit → e.device = x → (∀ result, stage ≠ .done result) →
    (∀ m ∈ ms, m.op ≠ .ok .closeUnit) → r.Keeps x n (afterAll t ms) (ms.map callOf ++ calls) →
    Converses x n unit t calls ⟨answersOf t ms, some m⟩ ⟨session, .closing unit e stage⟩ r
  | closed {ms : List Message} {m : Message} {e : Entry} {session : Session} {r : Registry τ} :
    m.op = .ok .closeUnit → m.unit = unit → e.device = x →
    (∀ m ∈ ms, m.op ≠ .ok .closeUnit) →
    r.Keeps x n (afterAll t (m :: ms)) ((m :: ms).map callOf ++ calls) →
    Converses x n unit t calls ⟨answersOf t ms, some m⟩
      ⟨session, .closing unit e (.done (Transport.disconnect (afterAll t ms)).1)⟩ r
  | finished {ms : List Message} {m : Message} {w : Worker} {r : Registry τ} :
    m.op = .ok .closeUnit → r.Keeps x n (afterAll t (m :: ms)) ((m :: ms).map callOf ++ calls) →
    Converses x n unit t calls ⟨answersOf t (m :: ms), none⟩ w r

section FromTheStart

variable {configs : List DeviceConfig} {catalog : Catalog τ} {trace notes : Trace} {j : Nat}
  {v w : Worker} {x : String} {t : τ} {calls : List Call} {m : Message}

/-- A session takes a request that is none on a unit of the device, which nobody can claim. -/
theorem Run.keeps_request (hrun : Run (start (.make configs catalog)) trace s)
    (hs : s.registry.Keeps x n t calls) (htaken : s.registry.claim? x = none)
    (hv : s.workers[j]? = some v)
    (hunit : ∀ e, v.session.unit? m.unit = some e →
      m.op = .ok .readUnit ∨ m.op = .ok .writeUnit → e.device ≠ x)
    (hstep : s.step (.request j m) = some (notes, s')) : s'.registry.Keeps x n t calls := by
  have hwired : Wired s.registry [] := hrun.counted.2.wired.alone
  rcases of_onWorker hstep with ⟨v', said, w', r', hv', hp, -, rfl⟩
  obtain rfl : v = v' := Option.some.inj (hv.symm.trans hv')
  refine hs.leaves (Worker.leaves_request hwired htaken ?_ hp)
  intro e he hop
  exact .of_transportOf hwired (hunit e he hop) (hrun.transportOf_of_unit? hv he)

/-- A session goes on with something that is about another device. -/
theorem Run.keeps_advance (hrun : Run (start (.make configs catalog)) trace s)
    (hs : s.registry.Keeps x n t calls) (hv : s.workers[j]? = some v)
    (htask : v.task.device? ≠ some x) (hstep : s.step (.advance j) = some (notes, s')) :
    s'.registry.Keeps x n t calls := by
  have hwired : Wired s.registry [] := hrun.counted.2.wired.alone
  rcases of_onWorker hstep with ⟨v', said, w', r', hv', hp, -, rfl⟩
  obtain rfl : v = v' := Option.some.inj (hv.symm.trans hv')
  exact hs.leaves (Worker.leaves_advance hwired htask hp)

/-- A step of anybody else. -/
theorem Run.keeps_of_other {a : Act τ} {pending : Option Message}
    (hrun : Run (start (.make configs catalog)) trace s) (hs : s.registry.Keeps x n t calls)
    (halone : s.AloneOn x i) (hb : a.Besides i unit n pending) (hother : ¬ a.isOf i)
    (hstep : s.step a = some (notes, s')) : s'.registry.Keeps x n t calls := by
  cases hb with
  | connect =>
    obtain ⟨-, rfl⟩ := by simpa [step] using hstep
    exact hs
  | @request j m _ =>
    rcases of_onWorker hstep with ⟨v, _, _, _, hv, -⟩
    exact hrun.keeps_request hs halone.1 hv
      (fun e he _ => (halone.2 j v hother hv).2 _ e he) hstep
  | disconnect _ =>
    rcases of_onWorker hstep with ⟨v, said, w', r', hv, hp, -, rfl⟩
    unfold Worker.disconnect at hp
    split at hp
    · obtain ⟨-, -, rfl⟩ := by simpa using hp
      exact hs
    · simp at hp
  | @advance j _ =>
    rcases of_onWorker hstep with ⟨v, _, _, _, hv, -⟩
    exact hrun.keeps_advance hs hv (halone.2 j v hother hv).1 hstep
  | outside hchange =>
    obtain ⟨-, rfl⟩ := by simpa [step] using hstep
    exact hs.drift _ (hchange t)

/-- A device that is not shared is open once at most. -/
theorem Run.opensOf_le_one {d : Device} (hrun : Run (start (.make configs catalog)) trace s)
    (hd : s.registry.get? x = some d) (hexclusive : d.config.shared = false) :
    s.registry.opensOf x ≤ 1 := by
  have hmade := Registry.claimsOf_make configs catalog x
  have h := Arbitrated.of_run hmade hrun
  have hone := Arbitrated.countP_le_one hmade (h.marked.exclusive_iff.1 ⟨d, hd, hexclusive⟩)
    h.ledger h.marked
  have hle : s.stakes.countP (Stake.counts x) ≤ s.stakes.countP (Stake.isIn x) :=
    List.countP_mono_left fun st _ hst => (Bool.and_eq_true_iff.1 hst).1
  rw [hrun.counted.2.opensOf_eq (Registry.opensOf_make configs catalog x)]
  omega

/-- While session `i` is in the middle of closing the unit, none of its steps is beside it. -/
theorem not_isOf_of_besides {session : Session} {unit' : UInt8} {e : Entry} {stage : Stage Unit}
    {a : Act τ} (hw : s.workers[i]? = some ⟨session, .closing unit' e stage⟩)
    (hb : a.Besides i unit n (some m)) (hstep : s.step a = some (notes, s')) : ¬ a.isOf i := by
  intro hof
  cases hb with
  | connect => exact hof
  | request _ =>
    obtain rfl := hof
    rcases of_onWorker hstep with ⟨v, _, _, _, hv, hp, -⟩
    obtain rfl : _ = v := Option.some.inj (hw.symm.trans hv)
    simpa using (Worker.takes_of_request hp).1
  | disconnect hj => exact hj hof
  | advance hj => exact hj.elim (fun hj => hj hof) (by simp)
  | outside _ => exact hof

/-- Whatever happens besides. -/
theorem Converses.besides {a : Act τ} (hrun : Run (start (.make configs catalog)) trace s)
    (hw : s.workers[i]? = some w) (h : Converses x n unit t calls account w s.registry)
    (hopen : ∀ p ∈ account.answered, p.1.op ≠ .ok .closeUnit)
    (hb : a.Besides i unit n account.pending) (hstep : s.step a = some (notes, s')) :
    ∃ w', s'.workers[i]? = some w' ∧ Converses x n unit t calls account w' s'.registry := by
  cases h with
  | @uses ms e _ _ hunit hdevice hthere hms hs =>
    subst hdevice
    rcases hs.exclusive with ⟨d, hd, hexclusive, -⟩
    rcases hrun.alone_of_unit? hd hexclusive hw hunit with ⟨halone, htask, hothers⟩
    by_cases hof : a.isOf i
    · -- the session does something else, which leaves its unit in the table
      cases hb with
      | connect => exact absurd hof id
      | @request j m hj =>
        obtain rfl : j = i := hof
        have hon : ¬ IsOn unit m := hj.resolve_left fun hne => hne rfl
        have hs' := hrun.keeps_request hs halone.1 hw (fun e' he' hop => hothers _ e'
          (fun heq => hon ⟨heq, by rcases hop with hop | hop <;> simp [hop]⟩) he') hstep
        rcases of_onWorker hstep with ⟨w₁, said, w', r', hw₁, hp, -, rfl⟩
        obtain rfl : w = w₁ := Option.some.inj (hw.symm.trans hw₁)
        rcases Worker.unit?_of_request hon hunit hp with ⟨hunit', hthere'⟩
        refine ⟨w', ?_, .uses hunit' rfl hthere' hms hs'⟩
        simp [(List.getElem?_eq_some_iff.1 hw).1]
      | disconnect hj => exact absurd hof hj
      | @advance j _ =>
        obtain rfl : j = i := hof
        have hs' := hrun.keeps_advance hs hw htask hstep
        have htidy : w.Tidy := hrun.counted.1 w (List.mem_of_getElem? hw)
        rcases of_onWorker hstep with ⟨w₁, said, w', r', hw₁, hp, -, rfl⟩
        obtain rfl : w = w₁ := Option.some.inj (hw.symm.trans hw₁)
        rcases Worker.unit?_of_advance htidy hthere hunit hp with ⟨hunit', hthere'⟩
        refine ⟨w', ?_, .uses hunit' rfl hthere' hms hs'⟩
        simp [(List.getElem?_eq_some_iff.1 hw).1]
      | outside _ => exact absurd hof id
    · exact ⟨w, worker_of_step hof hw hstep,
        .uses hunit rfl hthere hms (hrun.keeps_of_other hs halone hb hof hstep)⟩
  | closes hop hunit hdevice hstage hms hs =>
    subst hdevice
    rcases hs.exclusive with ⟨d, hd, hexclusive, -⟩
    have halone := hrun.alone_of_closing hd hexclusive hw
    have hother := not_isOf_of_besides hw hb hstep
    exact ⟨_, worker_of_step hother hw hstep,
      .closes hop hunit rfl hstage hms (hrun.keeps_of_other hs halone hb hother hstep)⟩
  | closed hop hunit hdevice hms hs =>
    subst hdevice
    rcases hs.exclusive with ⟨d, hd, hexclusive, -⟩
    have halone := hrun.alone_of_closing hd hexclusive hw
    have hother := not_isOf_of_besides hw hb hstep
    exact ⟨_, worker_of_step hother hw hstep,
      .closed hop hunit rfl hms (hrun.keeps_of_other hs halone hb hother hstep)⟩
  | finished hop _ => exact absurd hop (hopen _ List.mem_cons_self)

/-- A reading or writing of the unit is one call of the transport, and is answered as the transport
answers it. -/
theorem step_access {e : Entry} (hon : IsOn unit m)
    (hclose : m.op ≠ .ok .closeUnit) (hact : s.ActsOn i unit e.device n t)
    (hs : s.registry.Keeps x n t calls) : ∃ r', s.step (.request i m) =
      some ([(i, .replied (respond m t).1)], { s with registry := r' }) ∧
      r'.Keeps x n (respond m t).2 (callOf m :: calls) := by
  rcases hon with ⟨rfl, hop | hop | hop⟩
  · obtain ⟨r', huse, hs'⟩ := hs.use (.read m.control (requestedLength m.payload))
      (Transport.read m.control (requestedLength m.payload))
    obtain ⟨p, hp, -, -, hstep⟩ := hact.read m hop rfl
    have hread : s.registry.use (·.read n m.control (requestedLength m.payload)) = _ := huse
    simp only [Registry.use, hp] at hread
    obtain ⟨-, rfl⟩ := Prod.mk.inj hread
    refine ⟨_, ?_, by simpa [respond, callOf, hop] using hs'⟩
    rw [hstep]
    cases hresult : (Transport.read m.control (requestedLength m.payload) t).1 <;>
      simp [respond, hop, hresult]
  · obtain ⟨r', huse, hs'⟩ := hs.use (.write m.control m.payload)
      (Transport.write m.control m.payload)
    obtain ⟨p, hp, -, -, hstep⟩ := hact.write m hop rfl
    have hwrite : s.registry.use (·.write n m.control m.payload) = _ := huse
    simp only [Registry.use, hp] at hwrite
    obtain ⟨-, rfl⟩ := Prod.mk.inj hwrite
    refine ⟨_, ?_, by simpa [respond, callOf, hop] using hs'⟩
    rw [hstep]
    cases hresult : (Transport.write m.control m.payload t).1 <;> simp [respond, hop, hresult]
  · exact absurd hop hclose

/-- A request on the unit. -/
theorem Converses.request {said : List Note} (hrun : Run (start (.make configs catalog)) trace s)
    (hw : s.workers[i]? = some w) (h : Converses x n unit t calls account w s.registry)
    (hopen : ∀ p ∈ account.answered, p.1.op ≠ .ok .closeUnit) (hon : IsOn unit m)
    (hstep : s.step (.request i m) = some (said.map ((i, ·)), s')) :
    ∃ w', s'.workers[i]? = some w' ∧
      Converses x n unit t calls (account.hear m said) w' s'.registry := by
  have hidle : w.task = .idle := by
    rcases of_onWorker hstep with ⟨w₁, _, _, _, hw₁, hp, -⟩
    obtain rfl : w = w₁ := Option.some.inj (hw.symm.trans hw₁)
    exact (Worker.takes_of_request hp).1
  rcases w with ⟨session, task⟩
  obtain rfl : task = .idle := hidle
  cases h with
  | @uses ms e _ _ hunit hdevice _ hms hs =>
    subst hdevice
    have htransport := hrun.transportOf_of_unit? hw hunit
    obtain rfl : e.transport = n := by
      rcases hs.exclusive with ⟨d, hd, -, hn⟩
      exact Option.some.inj (htransport.symm.trans ((Registry.transportOf_eq hd).trans hn))
    have hact := actsOn_of_unit? hw hunit htransport hs.state_eq
    by_cases hclose : m.op = .ok .closeUnit
    · rcases hact.close m hclose hon.1 with ⟨session', e', hdevice, -, hclosing⟩
      obtain ⟨hnotes, rfl⟩ := Prod.mk.inj (Option.some.inj (hclosing.symm.trans hstep))
      obtain rfl : [] = said := notes_inj hnotes
      refine ⟨⟨session', .closing unit e' .waiting⟩, ?_,
        .closes hclose hon.1 hdevice (by simp) hms hs⟩
      simp [(List.getElem?_eq_some_iff.1 hw).1]
    · rcases step_access hon hclose hact hs with ⟨r', hanswer, hs'⟩
      obtain ⟨hnotes, rfl⟩ := Prod.mk.inj (Option.some.inj (hanswer.symm.trans hstep))
      obtain rfl : [.replied (respond m (afterAll t ms)).1] = said := notes_inj hnotes
      have hms' : ∀ m' ∈ m :: ms, m'.op ≠ .ok .closeUnit := by
        intro m' hm'
        rcases List.mem_cons.1 hm' with rfl | hm'
        · exact hclose
        · exact hms m' hm'
      exact ⟨_, hw, .uses hunit rfl trivial hms' hs'⟩
  | finished hop _ => exact absurd hop (hopen _ List.mem_cons_self)

/-- The next step of closing the unit. -/
theorem Converses.advance {said : List Note} (hrun : Run (start (.make configs catalog)) trace s)
    (hw : s.workers[i]? = some w) (h : Converses x n unit t calls account w s.registry)
    (hpending : account.pending = some m)
    (hstep : s.step (.advance i) = some (said.map ((i, ·)), s')) :
    ∃ w', s'.workers[i]? = some w' ∧
      Converses x n unit t calls (account.hear m said) w' s'.registry := by
  rcases of_onWorker hstep with ⟨w₁, said', w', r', hw₁, hp, hnotes, rfl⟩
  obtain rfl : w = w₁ := Option.some.inj (hw.symm.trans hw₁)
  obtain rfl := notes_inj hnotes
  refine ⟨w', by simp [(List.getElem?_eq_some_iff.1 hw).1], ?_⟩
  cases h with
  | uses _ _ _ _ _ => simp at hpending
  | finished _ _ => simp at hpending
  | @closes ms m' e session stage _ hop hunit hdevice hstage hms hs =>
    obtain rfl : m' = m := Option.some.inj hpending
    subst hdevice
    cases Worker.advances_of_advance hp with
    | closeStarts => exact .closes hop hunit rfl (by simp) hms hs
    | closeEnds hrel =>
      rcases hs.exclusive with ⟨d, hd, hexclusive, -⟩
      rcases hs.release (hrun.opensOf_le_one hd hexclusive) with ⟨r₁, hrel₁, hs'⟩
      obtain ⟨rfl, rfl⟩ := Prod.mk.inj (hrel₁.symm.trans hrel)
      refine .closed hop hunit rfl hms ?_
      simpa [afterAll, respond, callOf, hop] using hs'
    | @closed _ _ _ result _ _ _ => exact absurd rfl (hstage result)
  | @closed ms m' e session _ hop hunit hdevice hms hs =>
    obtain rfl : m' = m := Option.some.inj hpending
    subst hdevice hunit
    cases Worker.advances_of_advance hp with
    | @closed _ _ _ _ reply _ hfin =>
      have hanswer : (Session.finishClose m'.unit e (Transport.disconnect (afterAll t ms)).1
          s.registry).1 = (respond m' (afterAll t ms)).1 := by
        simp only [respond, hop]
        cases (Transport.disconnect (afterAll t ms)).1 <;> rfl
      have hback := Session.finishClose_snd m'.unit e (Transport.disconnect (afterAll t ms)).1
        s.registry
      rw [hfin] at hanswer hback
      obtain rfl : reply = (respond m' (afterAll t ms)).1 := hanswer
      obtain rfl : r' = s.registry.unclaim e.device e.claim := hback
      exact .finished hop (hs.unclaim e.claim)

/-- From a state in which the unit is open on a device that is not shared. -/
theorem Uses.converses {e : Entry}
    (hrun : Run (start (.make configs catalog)) trace s₀) (hw : s₀.workers[i]? = some w)
    (hthere : w.task.Attentive) (hunit : w.session.unit? unit = some e)
    (hs₀ : s₀.registry.Keeps e.device n t calls) (h : Uses s₀ i unit n account s) :
    ∃ w', s.workers[i]? = some w' ∧
      Converses e.device n unit t calls account w' s.registry := by
  -- induction on the run: steps besides keep how it stands, the others are parts of an answer
  induction h with
  | begins =>
    have hnone : ∀ m ∈ ([] : List Message), m.op ≠ .ok .closeUnit := by simp
    exact ⟨w, hw, .uses hunit rfl hthere hnone hs₀⟩
  | elsewhere hbefore hopen hb hstep ih =>
    rcases ih with ⟨v, hv, hconverses⟩
    rcases hbefore.run with ⟨later, hlater⟩
    exact hconverses.besides (hrun.trans hlater) hv hopen hb hstep
  | request notes hbefore hopen hon hstep ih =>
    rcases ih with ⟨v, hv, hconverses⟩
    rcases hbefore.run with ⟨later, hlater⟩
    exact hconverses.request (hrun.trans hlater) hv hopen hon hstep
  | advance notes hbefore hpending hstep ih =>
    rcases ih with ⟨v, hv, hconverses⟩
    rcases hbefore.run with ⟨later, hlater⟩
    exact hconverses.advance (hrun.trans hlater) hv hpending hstep

/-- What the client of the unit has of it: answers of the transport, and calls for its requests. -/
theorem Converses.account_eq (h : Converses x n unit t calls account w s.registry) :
    ∃ ms, account.answered = answersOf t ms ∧ s.registry.transportOf x = some n ∧
      (s.registry.pool.calls n = ms.map callOf ++ calls ∨ ∃ m, account.pending = some m ∧
        s.registry.pool.calls n = callOf m :: ms.map callOf ++ calls) := by
  have htransport : ∀ {t' : τ} {cs : List Call}, s.registry.Keeps x n t' cs →
      s.registry.transportOf x = some n := by
    intro t' cs hs
    rcases hs.exclusive with ⟨d, hd, -, hn⟩
    exact (Registry.transportOf_eq hd).trans hn
  cases h with
  | uses _ _ _ _ hs => exact ⟨_, rfl, htransport hs, .inl hs.calls_eq⟩
  | closes _ _ _ _ _ hs => exact ⟨_, rfl, htransport hs, .inl hs.calls_eq⟩
  | closed _ _ _ _ hs => exact ⟨_, rfl, htransport hs, .inr ⟨_, rfl, hs.calls_eq⟩⟩
  | finished _ hs => exact ⟨_, rfl, htransport hs, .inl hs.calls_eq⟩

/-- Isolation of a unit on a device that is not shared, if the transport of the device depends on
nothing but its calls. In any two runs from a state in which the unit is open, up to the answer to
its first closing, the same requests on the unit have the same answers, whatever else the session
and all others do. And until then the transport stays that of the device and gets no calls but those
of the requests on the unit. -/
theorem exclusive_isolation {e : Entry} {d : Device} {account₁ account₂ : Account}
    {s₁ s₂ : System τ} (hrun : Run (start (.make configs catalog)) trace s)
    (hw : s.workers[i]? = some w) (hthere : w.task.Attentive)
    (hunit : w.session.unit? unit = some e) (hd : s.registry.get? e.device = some d)
    (hexclusive : d.config.shared = false)
    (h₁ : Uses s i unit e.transport account₁ s₁) (h₂ : Uses s i unit e.transport account₂ s₂) :
    (account₁.answered.map (·.1) <:+ account₂.answered.map (·.1) →
      account₁.answered <:+ account₂.answered) ∧
    s₁.registry.transportOf e.device = some e.transport ∧
    (s₁.registry.pool.calls e.transport =
        account₁.answered.map (callOf ·.1) ++ s.registry.pool.calls e.transport ∨
      ∃ m, account₁.pending = some m ∧ s₁.registry.pool.calls e.transport =
        callOf m :: account₁.answered.map (callOf ·.1) ++ s.registry.pool.calls e.transport) := by
  have htransport := hrun.transportOf_of_unit? hw hunit
  have hlt := hrun.counted.2.wired.bound _ _ htransport
  -- the transport as it is at first, on which everything depends from then on
  obtain ⟨t, hstate⟩ := Pool.exists_get? hlt
  have hs : s.registry.Keeps e.device e.transport t (s.registry.pool.calls e.transport) :=
    ⟨d, hexclusive, (Registry.transportOf_eq hd).symm.trans htransport, hd, hstate, rfl⟩
  rcases h₁.converses hrun hw hthere hunit hs with ⟨w₁, -, hconverses₁⟩
  rcases h₂.converses hrun hw hthere hunit hs with ⟨w₂, -, hconverses₂⟩
  rcases hconverses₁.account_eq with ⟨ms₁, hanswers₁, hkept, hcalls⟩
  rcases hconverses₂.account_eq with ⟨ms₂, hanswers₂, -, -⟩
  have hasked : account₁.answered.map (callOf ·.1) = ms₁.map callOf := by
    rw [hanswers₁, ← Function.comp_def callOf, ← List.map_map, map_fst_answersOf]
  rw [hasked]
  refine ⟨?_, hkept, hcalls⟩
  rw [hanswers₁, hanswers₂, map_fst_answersOf, map_fst_answersOf]
  exact answersOf_suffix _

/-- The session that has the one device open writes to it, and in another run does so after a second
session has asked for the device in vain: both are answered the same. -/
theorem exclusive_isolation_of_two : ∃ trace account₁ s₁ account₂ s₂,
    Run (start lone) trace occupied ∧ Uses occupied 0 0 0 account₁ s₁ ∧
    Uses occupied 0 0 0 account₂ s₂ ∧
    account₁.answered.map (·.1) = [.request .writeUnit 0 0 [1]] ∧
    account₁.answered <:+ account₂.answered ∧
    s₁.registry.pool.calls 0 = [.write 0 [1], .connect] := by
  rcases run_occupied with ⟨trace, hrun⟩
  have hon : IsOn 0 (.request .writeUnit 0 0 [1]) := ⟨rfl, .inr (.inl rfl)⟩
  have hwrite : occupied.step (.request 0 (.request .writeUnit 0 0 [1])) =
      some ([.replied (.reply 0 0 [])].map ((0, ·)), _) := rfl
  have hrefused : occupied.step (.request 1 (.request .openUnit 0 0 [100])) =
      some ([(1, .replied (.failure .busy))], occupied) := by
    have hname : deviceName [100] = "d" := deviceName_lone
    simp only [step, onWorker, occupied, List.getElem?_cons_succ, List.getElem?_cons_zero,
      Worker.request, Session.beginOpen, Message.request, hname]
    rfl
  have hempty : ∀ p ∈ (⟨[], none⟩ : Account).answered, p.1.op ≠ .ok .closeUnit := by simp
  have h₁ := Uses.request (n := 0) _ .begins hempty hon hwrite
  have hasked : Uses occupied 0 0 0 {} occupied :=
    .elsewhere .begins hempty (.request (.inl (by decide))) hrefused
  have h₂ := Uses.request _ hasked hempty hon hwrite
  have hw : occupied.workers[0]? = some { session := ⟨[⟨"d", 0, true, true⟩]⟩ } := rfl
  have hunit : Session.unit? ⟨[⟨"d", 0, true, true⟩]⟩ 0 = some ⟨"d", 0, true, true⟩ := rfl
  obtain ⟨hsame, -, hcalls⟩ := exclusive_isolation hrun hw trivial hunit rfl rfl h₁ h₂
  refine ⟨trace, _, _, _, _, hrun, h₁, h₂, rfl, hsame List.suffix_rfl, hcalls.resolve_right ?_⟩
  rintro ⟨m, hm, -⟩
  simp [Account.hear, Note.reply?] at hm

end FromTheStart

end System

end RemoteDevice.Server
