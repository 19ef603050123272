import RemoteDevice.Proofs.Server.Pieces

/-!
# Proofs.Server.Stakes — what sessions have of devices

A session has a stake in a device for every unit it has open on it, and for an opening, a closing or
the end of a unit that is under way. Whatever the sessions do, a step is one of a few moves of a
single stake together with what the same move does to the registry (`step_effect`). Everything that
is known about all runs is proved for these moves, and never by going through the steps again.
-/

namespace RemoteDevice.Server

open Wire List

/-! ## Stakes -/

/-- How a stake stands with the device: `holding` and `releasing` are counted by the device as an
opening of the transport of that number, the others are not. -/
inductive Phase where
  | outside
  | acquiring
  | holding (transport : Nat)
  | releasing (transport : Nat)
deriving DecidableEq

/-- The transport for which the device counts an opening. -/
def Phase.transport? : Phase → Option Nat
  | .holding t => some t
  | .releasing t => some t
  | _ => none

/-- What a session has of a device, and whether it holds the claim. -/
structure Stake where
  owner : Nat
  device : String
  claim : Bool
  phase : Phase
deriving DecidableEq

/-- The stake is one in the device of this name. -/
def Stake.isIn (name : String) (st : Stake) : Bool :=
  st.device == name

/-- The device of this name counts an opening for the stake. -/
def Stake.counts (name : String) (st : Stake) : Bool :=
  st.isIn name && st.phase.transport?.isSome

/-- An open unit, as a stake of session `i`. -/
def Entry.stake (i : Nat) (e : Entry) : Stake :=
  ⟨i, e.device, e.claim, .holding e.transport⟩

/-- How an opening stands with the device. -/
def Stage.taking : Stage Nat → Phase
  | .waiting => .outside
  | .running => .acquiring
  | .done (.ok t) => .holding t
  | .done (.error _) => .outside

/-- An acquisition that succeeded counts. -/
theorem Stage.isSome_taking_done (result : Outcome Nat) :
    (Stage.done result).taking.transport?.isSome = result.isOk := by
  cases result <;> rfl

/-- How a closing stands with the device. -/
def Stage.giving (transport : Nat) : Stage Unit → Phase
  | .waiting => .holding transport
  | .running => .releasing transport
  | .done _ => .outside

/-- What is under way, as a stake of session `i`. -/
def Task.stake? (i : Nat) : Task → Option Stake
  | .opening o stage => some ⟨i, o.device, o.claim, stage.taking⟩
  | .closing _ e stage => some ⟨i, e.device, e.claim, stage.giving e.transport⟩
  | .leaving e stage => some ⟨i, e.device, e.claim, stage.giving e.transport⟩
  | _ => none

/-- The open units of a session. -/
def Session.stakes (i : Nat) (s : Session) : List Stake :=
  (s.entries.filter (·.isOpen)).map (Entry.stake i)

/-- All stakes of a session. -/
def Worker.stakes (i : Nat) (w : Worker) : List Stake :=
  w.session.stakes i ++ (w.task.stake? i).toList

/-- The stakes of all sessions. -/
def System.stakes {τ : Type} (s : System τ) : List Stake :=
  (s.workers.mapIdx Worker.stakes).flatten

/-! ## Lists with one place changed -/

/-- Around a place of a list, whatever stands there. -/
theorem exists_set_eq_append {α : Type} {l : List α} {n : Nat} {a : α} (h : l[n]? = some a) :
    ∃ front back, l = front ++ a :: back ∧ ∀ b, l.set n b = front ++ b :: back := by
  rcases List.getElem?_eq_some_iff.1 h with ⟨hn, rfl⟩
  refine ⟨l.take n, l.drop (n + 1), ?_, ?_⟩
  · rw [List.getElem_cons_drop, List.take_append_drop]
  · intro b
    rw [List.set_eq_take_append_cons_drop, if_pos hn]

/-- What stands at a place may be put there again. -/
theorem set_self_of_getElem? {α : Type} {l : List α} {n : Nat} {a : α} (h : l[n]? = some a) :
    l.set n a = l := by
  rcases List.getElem?_eq_some_iff.1 h with ⟨hn, rfl⟩
  exact List.set_getElem_self hn

/-- The stakes of all sessions are those of one, whatever it does, and of the others. -/
theorem System.stakes_set {τ : Type} {s : System τ} {i : Nat} {w : Worker}
    (h : s.workers[i]? = some w) : ∃ others, s.stakes ~ w.stakes i ++ others ∧
      ∀ r w', System.stakes (τ := τ) ⟨r, s.workers.set i w'⟩ ~ w'.stakes i ++ others := by
  have hi : (s.workers.mapIdx Worker.stakes)[i]? = some (w.stakes i) := by simp [h]
  rcases exists_set_eq_append hi with ⟨front, back, heq, hset⟩
  refine ⟨front.flatten ++ back.flatten, ?_, ?_⟩
  · unfold System.stakes
    rw [heq, List.flatten_append, List.flatten_cons]
    exact List.perm_append_comm_assoc _ _ _
  · intro r w'
    unfold System.stakes
    rw [List.mapIdx_set, hset, List.flatten_append, List.flatten_cons]
    exact List.perm_append_comm_assoc _ _ _

/-- A unit put at a free number is one more stake: what stood there was closed. -/
theorem Session.stakes_bind {s : Session} {n : Nat} {e : Entry} (i : Nat)
    (hfree : s.free? = some n) (he : e.isOpen = true) :
    (s.bind n e).2.stakes i ~ e.stake i :: s.stakes i := by
  unfold free? at hfree
  dsimp only at hfree
  split at hfree
  · rcases Option.some.inj hfree with rfl
    unfold bind
    split
    · next old hold =>
      rcases List.getElem?_eq_some_iff.1 hold with ⟨hn, hget⟩
      -- the number was found because the unit there is closed, and a closed unit is no stake
      have hclosed : old.isOpen = false := by
        have h := List.findIdx_getElem (p := fun e : Entry => !e.isOpen) (w := hn)
        rw [hget] at h
        simpa using h
      rcases exists_set_eq_append hold with ⟨front, back, heq, hset⟩
      unfold stakes
      rw [hset e, heq]
      simp only [List.filter_append, List.filter_cons, he, hclosed, if_true, Bool.false_eq_true,
        if_false, List.map_append, List.map_cons]
      exact List.perm_middle
    · -- the number is that behind the table
      simp only [stakes, List.filter_append, List.map_append]
      exact (List.perm_append_comm).trans (by simp [he])
  · simp at hfree

/-- Marking a unit closed takes its stake out of the table. -/
theorem Session.stakes_markClosed {s : Session} {unit : UInt8} {e : Entry} (i : Nat)
    (hunit : s.unit? unit = some e) : s.stakes i ~ e.stake i :: (s.markClosed unit).stakes i := by
  rcases Option.filter_eq_some_iff.1 hunit with ⟨hget, hopen⟩
  rcases exists_set_eq_append hget with ⟨front, back, heq, hset⟩
  -- modifying the table is putting the closed unit where the open one stood
  have hmod : s.entries.modify unit.toNat (fun e => { e with isOpen := false, claim := false }) =
      front ++ { e with isOpen := false, claim := false } :: back := by
    rw [← hset]
    apply List.ext_getElem?
    intro k
    rw [List.getElem?_modify, List.getElem?_set]
    by_cases hk : unit.toNat = k
    · subst hk
      rcases List.getElem?_eq_some_iff.1 hget with ⟨hlt, he⟩
      simp [hlt, he]
    · simp [hk]
  unfold stakes markClosed
  rw [hmod, heq]
  simp only [List.filter_append, List.filter_cons, hopen, if_true, Bool.false_eq_true, if_false,
    List.map_append, List.map_cons]
  exact List.perm_middle

/-! ## Moves -/

/-- From one registry to another no device changed, and no transport was disconnected. -/
structure Registry.Aside {τ : Type} (r r' : Registry τ) : Prop where
  get? : ∀ x, r'.get? x = r.get? x
  quiet : r.pool.Quiet r'.pool

theorem Registry.Aside.refl {τ : Type} (r : Registry τ) : r.Aside r :=
  ⟨fun _ => rfl, Pool.Quiet.refl _⟩

theorem Registry.aside_letGo {τ : Type} (n : Nat) (r : Registry τ) : r.Aside (r.letGo n) :=
  ⟨fun _ => rfl, Pool.quiet_letGo n r.pool⟩

/-- A call that disconnects nothing changes no device. -/
theorem Registry.aside_use {τ α : Type} {call : Pool τ → Outcome α × Pool τ} {r : Registry τ}
    (h : r.pool.Quiet (call r.pool).2) : r.Aside (r.use call).2 :=
  ⟨fun _ => rfl, h⟩

/-- The note says nothing of a device. -/
def Note.isReply : Note → Bool
  | .replied _ => true
  | _ => false

variable {τ : Type} [Transport τ]

/-- What a step of session `i` does to one stake and to the registry. A claim is taken with a new
stake and given back with the last of it; in between stand the calls of the device. -/
inductive Effect (i : Nat) :
    Registry τ → Option Stake → List Note → Registry τ → Option Stake → Prop
  | claim {r r' : Registry τ} {name : String} {claim : Bool} :
    r.claim? name = some (claim, r') →
    Effect i r none [] r' (some ⟨i, name, claim, .outside⟩)
  | acquireStarts {r : Registry τ} {name : String} {claim : Bool} :
    Effect i r (some ⟨i, name, claim, .outside⟩) [.acquireStarts name]
      r (some ⟨i, name, claim, .acquiring⟩)
  | acquireEnds {r r' : Registry τ} {name : String} {claim : Bool} {result : Outcome Nat} :
    r.acquire name = (result, r') →
    Effect i r (some ⟨i, name, claim, .acquiring⟩) [.acquireEnds name result.isOk]
      r' (some ⟨i, name, claim, (Stage.done result).taking⟩)
  | releaseStarts {r : Registry τ} {name : String} {claim : Bool} {t : Nat} :
    Effect i r (some ⟨i, name, claim, .holding t⟩) [.releaseStarts name]
      r (some ⟨i, name, claim, .releasing t⟩)
  | releaseEnds {r r' : Registry τ} {name : String} {claim destroy : Bool} {t : Nat}
      {result : Outcome Unit} :
    r.release name destroy = (result, r') →
    Effect i r (some ⟨i, name, claim, .releasing t⟩) [.releaseEnds name]
      r' (some ⟨i, name, claim, .outside⟩)
  | unclaim {r r' : Registry τ} {name : String} {claim : Bool} {notes : List Note} :
    (r.unclaim name claim).Aside r' → notes.all Note.isReply = true →
    Effect i r (some ⟨i, name, claim, .outside⟩) notes r' none
  | aside {r r' : Registry τ} {notes : List Note} :
    r.Aside r' → notes.all Note.isReply = true → Effect i r none notes r' none

/-- No move changes how a device is configured. -/
theorem Effect.config {i : Nat} {r r' : Registry τ} {before after : Option Stake}
    {notes : List Note} (he : Effect i r before notes r' after) (x : String) :
    (r'.get? x).map (·.config) = (r.get? x).map (·.config) := by
  -- a move changes one device at most, and of that device its claim, its count or its transport
  cases he with
  | claim hc =>
    rcases Registry.claim?_eq_some hc with ⟨d, hd, -, -, -, hget⟩
    rw [hget]
    split
    · next hx => simp [hx, hd]
    · rfl
  | acquireStarts => rfl
  | acquireEnds hacq =>
    rcases Registry.acquire_cases hacq with ⟨-, -, rfl⟩ | ⟨d, d', hd, hacquired, hget⟩
    · rfl
    · rw [hget]
      split
      · next hx => simp [hx, hd, hacquired.config]
      · rfl
  | releaseStarts => rfl
  | releaseEnds hrel =>
    rcases Registry.release_cases hrel with ⟨-, rfl⟩ | ⟨d, d', hd, hreleased, hget⟩
    · rfl
    · rw [hget]
      split
      · next hx => simp [hx, hd, hreleased.config]
      · rfl
  | unclaim ha _ =>
    rw [ha.get?, Registry.get?_unclaim, Option.map_map]
    congr 1
    funext d
    simp only [Function.comp_apply]
    split <;> rfl
  | aside ha _ => rw [ha.get?]

/-- The move of a session, up to the order of its stakes: what it did not touch is `rest`. -/
def Worker.Moves (i : Nat) (w : Worker) (r : Registry τ) (notes : List Note) (w' : Worker)
    (r' : Registry τ) : Prop :=
  ∃ before after rest, w.stakes i ~ before.toList ++ rest ∧ w'.stakes i ~ after.toList ++ rest ∧
    Effect i r before notes r' after

/-- An opening under way still has the number it found. -/
def Worker.Tidy (w : Worker) : Prop :=
  ∀ o stage, w.task = .opening o stage → w.session.free? = some o.number

namespace Worker

variable {i : Nat} {w w' : Worker} {r r' : Registry τ} {notes : List Note}

/-- A move that leaves all stakes as they are. -/
theorem Moves.of_aside (hstakes : w'.stakes i ~ w.stakes i) (haside : r.Aside r')
    (hnotes : notes.all Note.isReply = true) : w.Moves i r notes w' r' :=
  ⟨none, none, w.stakes i, .refl _, hstakes, .aside haside hnotes⟩

/-- A move of what is under way, next to the table. -/
theorem Moves.of_task {before after : Option Stake} {session : Session} {task task' : Task}
    (hbefore : task.stake? i = before) (hafter : task'.stake? i = after)
    (heffect : Effect i r before notes r' after) :
    Moves i ⟨session, task⟩ r notes ⟨session, task'⟩ r' := by
  subst hbefore hafter
  exact ⟨_, _, session.stakes i, List.perm_append_comm, List.perm_append_comm, heffect⟩

/-- Reading and writing leave the devices alone. -/
theorem aside_of_calls {s : Session} {m reply : Message} (h : s.Calls m r reply r') :
    r.Aside r' := by
  cases h with
  | @called _ e _ run _ _ _ _ _ hcall _ huse =>
    have ha := Registry.aside_use (Pool.quiet_use (n := e.transport) run r.pool hcall)
    rwa [huse] at ha

/-- What an idle session does with a request is one move: it takes a claim, it reads or writes, or
its unit becomes one that is being closed. -/
theorem moves_of_request {m : Message} (h : w.request m r = some (notes, w', r')) :
    w.Moves i r notes w' r' ∧ w'.Tidy := by
  obtain ⟨htask, htakes⟩ := takes_of_request h
  rcases w with ⟨session, task⟩
  obtain rfl : task = .idle := htask
  cases htakes with
  | refused _ => exact ⟨.of_aside (.refl _) (.refl _) rfl, by simp [Tidy]⟩
  | access hcalls => exact ⟨.of_aside (.refl _) (aside_of_calls hcalls) rfl, by simp [Tidy]⟩
  | opening _ _ hfree hclaim =>
    refine ⟨.of_task rfl rfl (.claim hclaim), ?_⟩
    intro o' stage ho
    cases ho
    exact hfree
  | closing _ hunit =>
    -- the stake goes from the table to what is under way, and is the same one
    refine ⟨.of_aside ?_ (.refl _) rfl, by simp [Tidy]⟩
    have hp := (Session.stakes_markClosed i hunit).symm
    simp only [stakes, Task.stake?, Option.toList_none, List.append_nil]
    exact List.perm_append_comm.trans hp

/-- The end of an opening: the stake goes into the table, or away with the claim. -/
theorem moves_of_finishOpen {session session' : Session} {o : Session.Opening}
    {result : Outcome Nat} {reply : Message} (hfree : session.free? = some o.number)
    (h : session.finishOpen o result r = (reply, session', r')) :
    Moves i ⟨session, .opening o (.done result)⟩ r [.replied reply] ⟨session', .idle⟩ r' := by
  unfold Session.finishOpen at h
  split at h
  · obtain ⟨-, rfl, rfl⟩ := by simpa using h
    exact .of_task rfl rfl (.unclaim (.refl _) rfl)
  · next t =>
    -- the unit takes the number found at the beginning, which is free still
    have hbind := Session.stakes_bind (e := ⟨o.device, t, o.claim, true⟩) i hfree rfl
    have hstakes : session' = (session.bind o.number ⟨o.device, t, o.claim, true⟩).2 ∧
        r.Aside r' := by
      unfold Session.enter at h
      cases hb : session.bind o.number ⟨o.device, t, o.claim, true⟩ with | mk old s₁ =>
      cases old with
      | none =>
        obtain ⟨-, rfl, rfl⟩ := by simpa [hb] using h
        exact ⟨rfl, .refl _⟩
      | some k =>
        obtain ⟨-, rfl, rfl⟩ := by simpa [hb] using h
        exact ⟨rfl, Registry.aside_letGo k r⟩
    -- what was under way is in the table now
    rcases hstakes with ⟨rfl, haside⟩
    refine .of_aside ?_ haside rfl
    simp only [stakes, Task.stake?, Option.toList_none, List.append_nil]
    exact hbind.trans (List.perm_append_singleton _ _).symm

/-- The end of a closing: the claim is given back, and with it goes the stake. -/
theorem moves_of_finishClose {session : Session} {unit : UInt8} {e : Entry}
    {result : Outcome Unit} {reply : Message}
    (h : Session.finishClose unit e result r = (reply, r')) :
    Moves i ⟨session, .closing unit e (.done result)⟩ r [.replied reply] ⟨session, .idle⟩ r' := by
  unfold Session.finishClose at h
  split at h <;>
  · obtain ⟨-, rfl⟩ := by simpa using h
    exact .of_task rfl rfl (.unclaim (.refl _) rfl)

/-- The next unit of a session at its end is under way now, if it is open. -/
theorem moves_of_leaves {e : Entry} {entries : List Entry} (hopen : e.isOpen = true)
    (r : Registry τ) : Moves i ⟨⟨e :: entries⟩, .ending⟩ r [] ⟨⟨entries⟩, .leaving e .waiting⟩ r := by
  refine .of_aside ?_ (.refl _) rfl
  simp only [stakes, Session.stakes, Task.stake?, Stage.giving, List.filter_cons, hopen, if_true,
    List.map_cons, Option.toList_some, Option.toList_none, List.append_nil]
  exact List.perm_append_comm

/-- What a session does next is one move, and an opening under way keeps the number it found. -/
theorem moves_of_advance (ht : w.Tidy) (h : w.advance r = some (notes, w', r')) :
    w.Moves i r notes w' r' ∧ w'.Tidy := by
  -- every stage of a task is one move, as `Stage.taking` and `Stage.giving` follow the calls
  cases advances_of_advance h with
  | @acquireStarts _ o => exact ⟨.of_task rfl rfl .acquireStarts, by simpa [Tidy] using ht o _ rfl⟩
  | @acquireEnds _ o _ _ hacq =>
    exact ⟨.of_task rfl rfl (.acquireEnds hacq), by simpa [Tidy] using ht o _ rfl⟩
  | opened hfin => exact ⟨moves_of_finishOpen (ht _ _ rfl) hfin, by simp [Tidy]⟩
  | closeStarts => exact ⟨.of_task rfl rfl .releaseStarts, by simp [Tidy]⟩
  | closeEnds hrel => exact ⟨.of_task rfl rfl (.releaseEnds hrel), by simp [Tidy]⟩
  | closed hfin => exact ⟨moves_of_finishClose hfin, by simp [Tidy]⟩
  | ended => exact ⟨.of_aside (.refl _) (.refl _) rfl, by simp [Tidy]⟩
  | leaves hopen => exact ⟨moves_of_leaves hopen r, by simp [Tidy]⟩
  | @forgets e _ hclosed =>
    refine ⟨.of_aside ?_ (Registry.aside_letGo e.transport r) rfl, by simp [Tidy]⟩
    simp [stakes, Session.stakes, hclosed]
  | leaveStarts => exact ⟨.of_task rfl rfl .releaseStarts, by simp [Tidy]⟩
  | leaveEnds hrel => exact ⟨.of_task rfl rfl (.releaseEnds hrel), by simp [Tidy]⟩
  | left => exact ⟨.of_task rfl rfl (.unclaim (Registry.aside_letGo _ _) rfl), by simp [Tidy]⟩

end Worker

/-! ## Steps -/

namespace System

/-- Every opening under way still has the number it found. -/
def Tidy (s : System τ) : Prop :=
  ∀ w ∈ s.workers, w.Tidy

/-- What one step of the system does: one move of one stake, and the rest stays. -/
def Effects (s : System τ) (trace : Trace) (s' : System τ) : Prop :=
  ∃ i notes before after rest, trace = notes.map ((i, ·)) ∧
    s.stakes ~ before.toList ++ rest ∧ s'.stakes ~ after.toList ++ rest ∧
    Effect i s.registry before notes s'.registry after

/-- A step that concerns no stake. -/
theorem Effects.of_aside {s s' : System τ} (hstakes : s'.stakes ~ s.stakes)
    (haside : s.registry.Aside s'.registry) : s.Effects [] s' :=
  ⟨0, [], none, none, s.stakes, rfl, .refl _, hstakes, .aside haside rfl⟩

/-- A move of one session is a move of the system. -/
theorem effects_of_onWorker {s s' : System τ} {i : Nat} {trace : Trace}
    {piece : Worker → Registry τ → Option (List Note × Worker × Registry τ)} (ht : s.Tidy)
    (hpiece : ∀ w w' notes r', w.Tidy → piece w s.registry = some (notes, w', r') →
      w.Moves i s.registry notes w' r' ∧ w'.Tidy)
    (h : s.onWorker i piece = some (trace, s')) : s.Effects trace s' ∧ s'.Tidy := by
  unfold onWorker at h
  split at h
  · simp at h
  · next w hw =>
    rcases Option.map_eq_some_iff.1 h with ⟨⟨notes, w', r'⟩, hp, heq⟩
    rcases Prod.mk.inj heq with ⟨rfl, rfl⟩
    have hmem : w ∈ s.workers := List.mem_of_getElem? hw
    obtain ⟨⟨before, after, rest, hbefore, hafter, heffect⟩, htidy⟩ :=
      hpiece w w' notes r' (ht w hmem) hp
    rcases stakes_set hw with ⟨others, hs, hset⟩
    -- the stakes of the other sessions are part of what was not touched
    constructor
    · refine ⟨i, notes, before, after, rest ++ others, rfl, ?_, ?_, heffect⟩
      · rw [← List.append_assoc]
        exact hs.trans (hbefore.append_right others)
      · rw [← List.append_assoc]
        exact (hset r' w').trans (hafter.append_right others)
    · intro v hv
      rcases List.mem_or_eq_of_mem_set hv with hv | rfl
      · exact ht v hv
      · exact htidy

/-- What every step does. -/
theorem step_effect {s s' : System τ} {a : Act τ} {trace : Trace} (ht : s.Tidy)
    (h : s.step a = some (trace, s')) : s.Effects trace s' ∧ s'.Tidy := by
  cases a with
  | connect =>
    obtain ⟨rfl, rfl⟩ := by simpa [step] using h
    refine ⟨.of_aside ?_ (.refl _), ?_⟩
    · simp [stakes, Worker.stakes, Session.stakes, Task.stake?, List.mapIdx_append]
    · intro w hw
      rcases List.mem_append.1 hw with hw | hw
      · exact ht w hw
      · rcases List.mem_singleton.1 hw with rfl
        simp [Worker.Tidy]
  | request i m =>
    exact effects_of_onWorker ht (fun _ _ _ _ _ hp => Worker.moves_of_request hp) h
  | disconnect i =>
    refine effects_of_onWorker ht ?_ h
    intro w w' notes r' _ hp
    rcases w with ⟨session, task⟩
    cases task with
    | idle =>
      obtain ⟨rfl, rfl, rfl⟩ := by simpa [Worker.disconnect] using hp
      exact ⟨.of_aside (.refl _) (.refl _) rfl, by simp [Worker.Tidy]⟩
    | _ => simp [Worker.disconnect] at hp
  | advance i =>
    exact effects_of_onWorker ht (fun _ _ _ _ hw hp => Worker.moves_of_advance hw hp) h
  | outside change catalog =>
    -- transports and the catalog may become anything: devices and numbers stay
    obtain ⟨rfl, rfl⟩ := by simpa [step] using h
    exact ⟨.of_aside (.refl _) ⟨fun _ => rfl, Pool.quiet_drift change _⟩, ht⟩

/-- An invariant of registries and stakes that every move keeps holds in all runs. -/
theorem Run.induct {r : Registry τ} {trace : Trace} {s : System τ}
    (h : Run (start r) trace s) (P : Registry τ → List Stake → Trace → Prop)
    (hperm : ∀ r stakes stakes' trace, stakes ~ stakes' → P r stakes trace → P r stakes' trace)
    (hstart : P r [] [])
    (hmove : ∀ i r r' before after notes rest trace, Effect i r before notes r' after →
      P r (before.toList ++ rest) trace →
      P r' (after.toList ++ rest) (notes.map ((i, ·)) ++ trace)) :
    s.Tidy ∧ P s.registry s.stakes trace := by
  -- induction on the run, one move for each step of it, up to the order of the stakes
  induction h with
  | rest => exact ⟨by simp [Tidy, start], hstart⟩
  | step _ hstep ih =>
    obtain ⟨⟨i, notes, before, after, rest, rfl, hbefore, hafter, heffect⟩, htidy⟩ :=
      step_effect ih.1 hstep
    refine ⟨htidy, hperm _ _ _ _ hafter.symm ?_⟩
    exact hmove _ _ _ _ _ _ _ _ heffect (hperm _ _ _ _ hbefore ih.2)

/-- No run changes which devices there are and how they are configured. -/
theorem Run.config {r : Registry τ} {trace : Trace} {s : System τ} (h : Run (start r) trace s)
    (x : String) : (s.registry.get? x).map (·.config) = (r.get? x).map (·.config) := by
  refine (h.induct (fun r' _ _ => (r'.get? x).map (·.config) = (r.get? x).map (·.config))
    (fun _ _ _ _ _ hx => hx) rfl ?_).2
  intro i r₁ r₂ before after notes rest trace he hx
  rw [he.config, hx]

end System

end RemoteDevice.Server
