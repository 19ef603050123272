import RemoteDevice.Proofs.Server.UnitTable
import RemoteDevice.Server

/-!
# Proofs.Server.Sparing — what one device has to do with another

A session that never opens a device has nothing to do with it: whatever the session is asked, the
device stays as it is, its transport stays in its state, and nobody calls it. Each operation of
pools, devices and registries has a lemma that says whom it spares, and a whole connection follows
from these.
-/

namespace RemoteDevice.Server

open Wire

variable {τ : Type}

/-! ## Pools -/

namespace Pool

/-- The calls that were made of a transport, the newest first. -/
def calls (n : Nat) (p : Pool τ) : List Call :=
  p.journal.filterMap fun
    | .called k call => if k = n then some call else none
    | _ => none

/-- Nobody has called a transport that is not made yet. -/
def Fresh (p : Pool τ) : Prop :=
  ∀ k, p.members.length ≤ k → p.calls k = []

/-- From one pool to another nothing happened to a transport, if there is one to be spared. -/
structure Spares (spared : Option Nat) (p p' : Pool τ) : Prop where
  size_le : p.members.length ≤ p'.members.length
  kept : ∀ k, spared = some k → p'.get? k = p.get? k ∧ p'.calls k = p.calls k
  fresh : p.Fresh → p'.Fresh

variable {spared : Option Nat} {p q p' : Pool τ} {n : Nat}

theorem Spares.refl (spared : Option Nat) (p : Pool τ) : p.Spares spared p :=
  ⟨Nat.le_refl _, fun _ _ => ⟨rfl, rfl⟩, id⟩

/-- What neither of two operations does to a transport, both together do not do. -/
theorem Spares.trans (hpq : p.Spares spared q) (hq : q.Spares spared p') :
    p.Spares spared p' := by
  constructor
  · exact Nat.le_trans hpq.size_le hq.size_le
  · intro k hk
    constructor
    · rw [(hq.kept k hk).1, (hpq.kept k hk).1]
    · rw [(hq.kept k hk).2, (hpq.kept k hk).2]
  · intro hfresh
    exact hq.fresh (hpq.fresh hfresh)

/-- The shape of an operation that calls nobody. -/
theorem Spares.of_calls (hsize : p.members.length ≤ p'.members.length)
    (htransport : ∀ k, spared = some k → p'.get? k = p.get? k)
    (hcalls : ∀ k, p'.calls k = p.calls k) : p.Spares spared p' := by
  constructor
  · exact hsize
  · intro k hk
    exact ⟨htransport k hk, hcalls k⟩
  · intro hfresh k hk
    rw [hcalls]
    exact hfresh k (Nat.le_trans hsize hk)

/-- The calls of a transport are read off the journal. -/
theorem calls_append {added : List Event} (h : p'.journal = added ++ p.journal) (k : Nat) :
    p'.calls k = calls k ({ journal := added } : Pool τ) ++ p.calls k := by
  unfold calls
  rw [h, List.filterMap_append]

/-- A reference more is no event for any transport. -/
theorem spares_share (spared : Option Nat) (n : Nat) (p : Pool τ) :
    p.Spares spared (p.share n) :=
  .of_calls (by simp [share]) (fun k _ => get?_share n k p) fun _ => rfl

/-- A reference less calls nobody, even if it was the last one and the transport is dropped. -/
theorem spares_letGo (spared : Option Nat) (n : Nat) (p : Pool τ) :
    p.Spares spared (p.letGo n) := by
  refine .of_calls (Nat.le_of_eq (length_letGo n p).symm) (fun k _ => get?_letGo n k p) fun k => ?_
  -- an event that is no call may be noted
  rw [calls_append (journal_letGo n p)]
  split <;> rfl

/-- Transports that change by themselves keep their numbers. -/
theorem length_drift (change : Nat → τ → τ) (p : Pool τ) :
    (p.drift change).members.length = p.members.length := by
  simp [drift]

/-- Every transport is as the change leaves it. -/
theorem get?_drift (change : Nat → τ → τ) (n : Nat) (p : Pool τ) :
    (p.drift change).get? n = (p.get? n).map (change n) := by
  simp only [drift, get?, List.getElem?_mapIdx]
  cases p.members[n]? <;> rfl

/-- Transports that change by themselves leave one alone that does not. -/
theorem spares_drift {change : Nat → τ → τ} (h : ∀ n t, spared = some n → change n t = t) :
    p.Spares spared (p.drift change) := by
  apply Spares.of_calls
  · exact Nat.le_of_eq (length_drift change p).symm
  · intro k hk
    rw [get?_drift]
    cases p.get? k with
    | none => rfl
    | some t => exact congrArg some (h k t hk)
  · intro k
    rfl

/-- Making a transport, or failing to make it, calls none of those that there are. -/
theorem spares_enlist (p : Pool τ) (kind target : String) (made : Except Transport.Error τ)
    (spared : Option Nat) (hbound : ∀ k, spared = some k → k < p.members.length) :
    p.Spares spared (p.enlist kind target made).2 := by
  cases made with
  | error e => exact Spares.of_calls (Nat.le_refl _) (fun _ _ => rfl) (fun _ => rfl)
  | ok t =>
    apply Spares.of_calls
    · simp [enlist]
    · intro k hk
      simp [enlist, get?, List.getElem?_append_left (hbound k hk)]
    · intro k
      simp [enlist, calls, note]

/-- A transport that is made gets the next number, and nobody has called it. -/
theorem enlist_of_ok (kind target : String) (t : τ) (hfresh : p.Fresh) : ∃ p',
    p.enlist kind target (.ok t) = (.ok p.members.length, p') ∧
      p'.get? p.members.length = some t ∧ p'.calls p.members.length = [] ∧ p'.Fresh ∧
      p.members.length ≤ p'.members.length := by
  have hspares := p.spares_enlist kind target (.ok t) none (by simp)
  refine ⟨_, rfl, ?_, ?_, hspares.fresh hfresh, hspares.size_le⟩
  · simp [get?]
  · have hnone := hfresh p.members.length (Nat.le_refl _)
    simpa [calls, note] using hnone

/-- A call of a transport of the pool: its state is that after the call, which is noted. -/
theorem use_eq {α : Type} {t : τ} (call : Call) (run : τ → Outcome α × τ)
    (h : p.get? n = some t) : ∃ p', p.use n call run = ((run t).1, p') ∧
      p'.get? n = some (run t).2 ∧ p'.calls n = call :: p.calls n ∧
      p'.members.length = p.members.length ∧ (p.Fresh → p'.Fresh) ∧
      ∀ spared, spared ≠ some n → p.Spares spared p' := by
  obtain ⟨p', huse, hstate, hjournal, hsize, hothers⟩ := use_of_get? call run h
  have hlt : n < p.members.length := lt_of_get? h
  have hcalls : ∀ k, p'.calls k = if n = k then call :: p.calls k else p.calls k := by
    intro k
    have happend : p'.journal = [.called n call] ++ p.journal := hjournal
    rw [calls_append happend]
    by_cases hk : n = k <;> simp [calls, hk]
  have hfresh : p.Fresh → p'.Fresh := by
    intro hfresh k hk
    rw [hcalls, if_neg (by omega)]
    exact hfresh k (hsize ▸ hk)
  refine ⟨p', huse, hstate, by rw [hcalls, if_pos rfl], hsize, hfresh, ?_⟩
  intro spared hspared
  refine ⟨Nat.le_of_eq hsize.symm, ?_, hfresh⟩
  intro k hk
  have hne : n ≠ k := by
    rintro rfl
    exact hspared hk
  exact ⟨hothers k hne.symm, by rw [hcalls, if_neg hne]⟩

/-- A call is one of its own transport only. -/
theorem spares_use {α : Type} {call : Call} {run : τ → Outcome α × τ} (hn : spared ≠ some n) :
    p.Spares spared (p.use n call run).2 := by
  cases ht : p.get? n with
  | none =>
    have hm : p.members[n]? = none := by simpa [get?] using ht
    simp only [use, hm]
    exact Spares.refl spared p
  | some t =>
    rcases use_eq call run ht with ⟨p', hp, -, -, -, -, hspares⟩
    rw [hp]
    exact hspares spared hn

end Pool

/-! ## Devices -/

namespace Device

variable {spared : Option Nat} {p p' : Pool τ} {d d' : Device}

/-- A device that comes by its transport calls nobody, and what it comes by is not a transport that
another device has. -/
theorem spares_provide {catalog : Catalog τ} {result : Except Transport.Error Nat}
    (hbound : ∀ k, spared = some k → k < p.members.length)
    (hd : ∀ n, d.transport = some n → spared ≠ some n)
    (h : d.provide catalog p = (result, d', p')) :
    p.Spares spared p' ∧ ∀ n, result = .ok n → spared ≠ some n := by
  unfold provide at h
  split at h
  · next n hn =>
    obtain ⟨rfl, rfl, rfl⟩ := by simpa using h
    refine ⟨Pool.Spares.refl spared p, ?_⟩
    intro k hk
    rcases Except.ok.inj hk with rfl
    exact hd n hn
  · dsimp only at h
    have henlist := p.spares_enlist d.config.kind d.config.target
      (catalog.create d.config.kind d.config.target d.config.options) spared hbound
    split at h
    · next n q he =>
      obtain ⟨rfl, rfl, rfl⟩ := by simpa using h
      rw [he] at henlist
      refine ⟨henlist, ?_⟩
      intro k hk hspared
      rcases Except.ok.inj hk with rfl
      -- the new number is behind all that there were
      rcases (Pool.enlist_cases he).2 with ⟨e, he⟩ | ⟨hnumber, -⟩
      · simp at he
      · have hlt := hbound n hspared
        rw [Except.ok.inj hnumber] at hlt
        omega
    · next e q he =>
      obtain ⟨rfl, rfl, rfl⟩ := by simpa using h
      rw [he] at henlist
      exact ⟨henlist, by simp⟩

variable [Transport τ]

/-- Acquiring a device calls at most the transport of that device. -/
theorem spares_acquire (catalog : Catalog τ)
    (hbound : ∀ k, spared = some k → k < p.members.length)
    (hd : ∀ n, d.transport = some n → spared ≠ some n) :
    p.Spares spared (d.acquire catalog p).2.2 := by
  unfold acquire
  cases hp : d.provide catalog p with | mk result found =>
  rcases found with ⟨d₁, p₁⟩
  rcases spares_provide hbound hd hp with ⟨hprovide, hnumber⟩
  cases result with
  | error e => exact hprovide
  | ok n =>
    have hconnect : p₁.Spares spared (p₁.connect n).2 := Pool.spares_use (hnumber n rfl)
    dsimp only
    cases hc : p₁.connect n with | mk connected p₂ =>
    rw [hc] at hconnect
    cases connected with
    | error f => exact hprovide.trans hconnect
    | ok u => exact (hprovide.trans hconnect).trans (Pool.spares_share spared n p₂)

/-- Releasing a device calls at most the transport of that device. -/
theorem spares_release (destroy : Bool) (hd : ∀ n, d.transport = some n → spared ≠ some n) :
    p.Spares spared (d.release destroy p).2.2 := by
  have hdisconnect : p.Spares spared
      (disconnect { d with opens := d.opens - 1 } p).2 := by
    unfold disconnect
    split
    · exact Pool.Spares.refl spared p
    · next n hn => exact Pool.spares_use (hd n hn)
  have hdiscard : ∀ (e : Device) (q : Pool τ), q.Spares spared (e.discard q).2 := by
    intro e q
    unfold discard
    split
    · exact Pool.Spares.refl spared q
    · exact Pool.spares_letGo spared _ q
  unfold release
  dsimp only
  split
  · exact Pool.Spares.refl spared p
  · split
    · next q hx =>
      rw [hx] at hdisconnect
      exact hdisconnect
    · next x q _ hx =>
      rw [hx] at hdisconnect
      exact hdisconnect.trans (hdiscard _ q)
    · next x q _ hx =>
      rw [hx] at hdisconnect
      exact hdisconnect

end Device

/-! ## Registries -/

namespace Registry

/-- From one registry to another nothing happened to the device of this name, nor to its
transport. -/
structure Leaves (x : String) (r r' : Registry τ) : Prop where
  device : r'.get? x = r.get? x
  catalog : r'.catalog = r.catalog
  pool : r.pool.Spares (r.transportOf x) r'.pool
  wired : Wired r' []

variable {x : String} {r r₁ r' : Registry τ} {name : String}

theorem Leaves.refl (hw : Wired r []) : r.Leaves x r :=
  ⟨rfl, rfl, Pool.Spares.refl _ _, hw⟩

/-- What leaves the device alone at first and then again leaves it alone altogether: it is the same
transport that is spared both times. -/
theorem Leaves.trans (h : r.Leaves x r₁) (h' : r₁.Leaves x r') : r.Leaves x r' := by
  constructor
  · rw [h'.device, h.device]
  · rw [h'.catalog, h.catalog]
  · have hpool := h'.pool
    rw [transportOf_congr h.device] at hpool
    exact h.pool.trans hpool
  · exact h'.wired

/-- A claim on another device. -/
theorem leaves_claim {claim : Bool} (hw : Wired r []) (hname : name ≠ x)
    (h : r.claim? name = some (claim, r')) : r.Leaves x r' := by
  have htransport := transportOf_claim h
  rcases claim?_eq_some h with ⟨d, -, -, -, hpool, hget⟩
  rcases Option.map_eq_some_iff.1 h with ⟨⟨needed, d'⟩, -, heq⟩
  rcases Prod.mk.inj heq with ⟨-, rfl⟩
  constructor
  · rw [hget, if_neg (Ne.symm hname)]
  · rfl
  · rw [hpool]
    exact Pool.Spares.refl _ _
  · apply hw.keep
    · exact Nat.le_of_eq (congrArg (·.members.length) hpool.symm)
    · exact htransport

/-- A claim on another device that is given back. -/
theorem leaves_unclaim (held : Bool) (hw : Wired r []) (hname : name ≠ x) :
    r.Leaves x (r.unclaim name held) := by
  constructor
  · rw [get?_unclaim]
    cases r.get? x with
    | none => rfl
    | some d => simp [Ne.symm hname]
  · unfold unclaim
    split <;> rfl
  · rw [pool_unclaim]
    exact Pool.Spares.refl _ _
  · apply hw.keep
    · exact Nat.le_of_eq (congrArg (·.members.length) (pool_unclaim r name held).symm)
    · exact transportOf_unclaim r name held

/-- A reference to any transport, that of the device included, can be let go. -/
theorem leaves_letGo (n : Nat) (hw : Wired r []) : r.Leaves x (r.letGo n) := by
  have hspares := Pool.spares_letGo (r.transportOf x) n r.pool
  exact ⟨rfl, rfl, hspares, hw.keep hspares.size_le fun _ => rfl⟩

/-- A call that spares the transport of the device. -/
theorem leaves_use {α : Type} (call : Pool τ → Outcome α × Pool τ) (hw : Wired r [])
    (h : r.pool.Spares (r.transportOf x) (call r.pool).2) : r.Leaves x (r.use call).2 :=
  ⟨rfl, rfl, h, hw.keep h.size_le fun _ => rfl⟩

/-- Transports that change by themselves, but not that of the device. -/
theorem leaves_drift {change : Nat → τ → τ} (hw : Wired r [])
    (h : ∀ n t, r.transportOf x = some n → change n t = t) :
    r.Leaves x { r with pool := r.pool.drift change } := by
  have hspares : r.pool.Spares (r.transportOf x) (r.pool.drift change) := Pool.spares_drift h
  exact ⟨rfl, rfl, hspares, hw.keep hspares.size_le fun _ => rfl⟩

/-- The transport of one device is not that of another. -/
theorem transportOf_ne {d : Device} {n : Nat} (hw : Wired r []) (hname : name ≠ x)
    (hd : r.get? name = some d) (hn : d.transport = some n) : r.transportOf x ≠ some n := by
  intro hx
  have hself : r.transportOf name = some n := (transportOf_eq hd).trans hn
  exact hname (hw.apart name x n hself hx)

variable [Transport τ]

/-- Devices have transports of their own also when one of them has been acquired. -/
theorem wired_acquire {result : Outcome Nat} (hw : Wired r [])
    (h : r.acquire name = (result, r')) : Wired r' [] := by
  have hstake : Wired r [⟨0, name, false, .acquiring⟩] := hw.cons (by simp [Phase.transport?])
  exact (hstake.acquire h).tail

/-- Acquiring another device; what is acquired is the transport that device has then. -/
theorem leaves_acquire {result : Outcome Nat} (hw : Wired r []) (hname : name ≠ x)
    (h : r.acquire name = (result, r')) :
    r.Leaves x r' ∧ ∀ n, result = .ok n → r'.transportOf name = some n := by
  have hacquired := wired_acquire hw h
  rcases acquire_cases h with ⟨-, rfl, rfl⟩ | ⟨d, d', hd, hcases, hget⟩
  · exact ⟨.refl hw, by simp⟩
  · have hspares := Device.spares_acquire r.catalog (fun k hk => hw.bound x k hk)
      fun n hn => transportOf_ne hw hname hd hn
    cases ha : d.acquire r.catalog r.pool with | mk acquired found =>
    rcases found with ⟨e, p⟩
    rw [ha] at hspares
    simp only [acquire, hd, ha] at h
    rcases Prod.mk.inj h with ⟨-, rfl⟩
    refine ⟨⟨?_, rfl, hspares, hacquired⟩, ?_⟩
    · rw [hget, if_neg (Ne.symm hname)]
    · intro n hn
      rw [transportOf_eq ((hget name).trans (if_pos rfl))]
      exact hcases.result n hn

/-- Releasing a device calls no transport but that of the device. -/
theorem spares_release {spared : Option Nat} {destroy : Bool} {result : Outcome Unit}
    (h : r.release name destroy = (result, r'))
    (hn : ∀ n, r.transportOf name = some n → spared ≠ some n) :
    r.pool.Spares spared r'.pool := by
  cases hd : r.get? name with
  | none =>
    obtain ⟨-, rfl⟩ := by simpa [release, hd] using h
    exact Pool.Spares.refl spared _
  | some d =>
    rw [transportOf_eq hd] at hn
    have hspares := Device.spares_release (p := r.pool) (d := d) destroy hn
    cases ha : d.release destroy r.pool with | mk released found =>
    rcases found with ⟨e, p⟩
    rw [ha] at hspares
    simp only [release, hd, ha] at h
    rcases Prod.mk.inj h with ⟨-, rfl⟩
    exact hspares

/-- No release changes what transports are made from. -/
theorem catalog_release {destroy : Bool} {result : Outcome Unit}
    (h : r.release name destroy = (result, r')) : r'.catalog = r.catalog := by
  unfold release at h
  split at h <;>
  · obtain ⟨-, rfl⟩ := Prod.mk.inj h
    rfl

/-- Releasing another device. -/
theorem leaves_release {destroy : Bool} {result : Outcome Unit} (hw : Wired r [])
    (hname : name ≠ x) (h : r.release name destroy = (result, r')) : r.Leaves x r' := by
  have hreleased : Wired r' [] := hw.release_unused h fun _ => rfl
  have hspares : r.pool.Spares (r.transportOf x) r'.pool :=
    spares_release h fun n hn hx => hname (hw.apart _ _ n hn hx)
  refine ⟨?_, catalog_release h, hspares, hreleased⟩
  rcases release_cases h with ⟨-, rfl⟩ | ⟨d, d', -, -, hget⟩
  · rfl
  · rw [hget, if_neg (Ne.symm hname)]

end Registry

/-! ## Sessions that never open the device -/

/-- The unit is of another device, and of a transport that is made and not that of this one. -/
structure Entry.Apart (x : String) (r : Registry τ) (e : Entry) : Prop where
  device : e.device ≠ x
  made : e.transport < r.pool.members.length
  transport : r.transportOf x ≠ some e.transport

/-- All open units of the session are of other devices. -/
def Session.Apart (x : String) (r : Registry τ) (s : Session) : Prop :=
  ∀ e ∈ s.entries, e.isOpen = true → e.Apart x r

/-- The message is a request to open the device of this name. -/
def Opens (x : String) (m : Message) : Prop :=
  m.op = .ok .openUnit ∧ deviceName m.payload = x

/-- A unit of another device that refers to the transport of that device. -/
theorem Entry.Apart.of_transportOf {x : String} {r : Registry τ} {e : Entry} (hw : Wired r [])
    (hdevice : e.device ≠ x) (ht : r.transportOf e.device = some e.transport) : e.Apart x r := by
  constructor
  · exact hdevice
  · exact hw.bound _ _ ht
  · intro hx
    exact hdevice (hw.apart _ _ _ ht hx)

/-- What leaves the device alone gives it no transport that a unit of another device refers to. -/
theorem Entry.Apart.leaves {x : String} {r r' : Registry τ} {e : Entry} (h : e.Apart x r)
    (hl : r.Leaves x r') : e.Apart x r' := by
  constructor
  · exact h.device
  · exact Nat.lt_of_lt_of_le h.made hl.pool.size_le
  · rw [Registry.transportOf_congr hl.device]
    exact h.transport

namespace Session

variable {x : String} {r r' : Registry τ} {s s' : Session}

/-- The units of a session stay apart from a device that is left alone. -/
theorem Apart.leaves (h : s.Apart x r) (hl : r.Leaves x r') : s.Apart x r' := by
  intro e he hopen
  exact (h e he hopen).leaves hl

theorem apart_empty (x : String) (r : Registry τ) : Session.Apart x r {} := by
  intro e he
  simp at he

/-- A table with one unit more of another device. -/
theorem Apart.bind {n : Nat} {e : Entry} (h : s.Apart x r) (he : e.Apart x r) :
    (s.bind n e).2.Apart x r := by
  intro e' he' hopen
  have hmem : e' ∈ s.entries ∨ e' = e := by
    unfold Session.bind at he'
    split at he'
    · exact List.mem_or_eq_of_mem_set he'
    · simpa using he'
  rcases hmem with hmem | rfl
  · exact h e' hmem hopen
  · exact he

/-- Closing a unit gives the session no unit of the device. -/
theorem Apart.markClosed (h : s.Apart x r) (unit : UInt8) : (s.markClosed unit).Apart x r := by
  intro e he hopen
  -- what is still open stood there before
  rcases List.mem_iff_getElem?.1 he with ⟨k, hk⟩
  unfold Session.markClosed at hk
  rw [List.getElem?_modify] at hk
  rcases Option.map_eq_some_iff.1 hk with ⟨old, hold, rfl⟩
  split at hopen
  · simp at hopen
  · next hne =>
    simp only [hne, if_false]
    exact h old (List.mem_of_getElem? hold) hopen

theorem Apart.of_unit? {unit : UInt8} {e : Entry} (h : s.Apart x r)
    (he : s.unit? unit = some e) : e.Apart x r := by
  rcases unit?_eq_some_iff.1 he with ⟨hget, hopen⟩
  exact h e (List.mem_of_getElem? hget) hopen

variable [Transport τ] {m reply : Message}

/-- The end of an opening of another device, whether it succeeded or not. -/
theorem leaves_finishOpen {o : Opening} {result : Outcome Nat} (hw : Wired r [])
    (hname : o.device ≠ x) (h : s.finishOpen o result r = (reply, s', r')) : r.Leaves x r' := by
  unfold finishOpen at h
  cases result with
  | error f =>
    obtain ⟨-, -, rfl⟩ := by simpa using h
    exact Registry.leaves_unclaim o.claim hw hname
  | ok n =>
    unfold enter at h
    cases hb : s.bind o.number ⟨o.device, n, o.claim, true⟩ with | mk old bound =>
    simp only [hb] at h
    cases old with
    | none =>
      obtain ⟨-, -, rfl⟩ := by simpa using h
      exact .refl hw
    | some t =>
      obtain ⟨-, -, rfl⟩ := by simpa using h
      exact Registry.leaves_letGo t hw

/-- The unit that an opening of another device ends with is apart from this one. -/
theorem Apart.finishOpen {o : Opening} {result : Outcome Nat} (hw : Wired r [])
    (ha : s.Apart x r) (hname : o.device ≠ x)
    (hresult : ∀ n, result = .ok n → r.transportOf o.device = some n)
    (h : s.finishOpen o result r = (reply, s', r')) : s'.Apart x r' := by
  have hleaves := leaves_finishOpen hw hname h
  unfold Session.finishOpen at h
  cases result with
  | error f =>
    obtain ⟨-, rfl, -⟩ := by simpa using h
    exact ha.leaves hleaves
  | ok n =>
    have hentry : Entry.Apart x r ⟨o.device, n, o.claim, true⟩ :=
      .of_transportOf hw hname (hresult n rfl)
    have hbind := ha.bind (n := o.number) hentry
    unfold enter at h
    dsimp only at h
    split at h <;>
    · obtain ⟨-, rfl, -⟩ := by simpa using h
      exact hbind.leaves hleaves

/-- Opening another device, from the request to the reply. -/
theorem leaves_openUnit {payload : Bytes} (hw : Wired r []) (ha : s.Apart x r)
    (hname : deviceName payload ≠ x) (h : s.openUnit payload r = (reply, s', r')) :
    r.Leaves x r' ∧ s'.Apart x r' := by
  unfold openUnit at h
  cases hb : s.beginOpen payload r with
  | error status =>
    obtain ⟨-, rfl, rfl⟩ := by simpa [hb] using h
    exact ⟨.refl hw, ha⟩
  | ok found =>
    rcases found with ⟨o, r₁⟩
    have hdevice : o.device ≠ x := by
      rw [device_of_beginOpen hb]
      exact hname
    have hclaim := Registry.leaves_claim hw hdevice (beginOpen_eq_ok hb).1
    cases hacq : r₁.acquire o.device with | mk result r₂ =>
    rcases Registry.leaves_acquire hclaim.wired hdevice hacq with ⟨hacquire, hresult⟩
    have hbefore := hclaim.trans hacquire
    simp only [hb, hacq] at h
    have hfinish := leaves_finishOpen hacquire.wired hdevice h
    exact ⟨hbefore.trans hfinish,
      (ha.leaves hbefore).finishOpen hacquire.wired hdevice hresult h⟩

/-- Closing a unit of another device, from the request to the reply. -/
theorem leaves_closeUnit {unit : UInt8} (hw : Wired r []) (ha : s.Apart x r)
    (h : s.closeUnit unit r = (reply, s', r')) : r.Leaves x r' ∧ s'.Apart x r' := by
  unfold closeUnit at h
  cases hb : s.beginClose unit with
  | error status =>
    obtain ⟨-, rfl, rfl⟩ := by simpa [hb] using h
    exact ⟨.refl hw, ha⟩
  | ok found =>
    rcases found with ⟨e, s₁⟩
    rcases beginClose_eq_ok hb with ⟨hunit, rfl⟩
    have hdevice := (ha.of_unit? hunit).device
    cases hrel : r.release e.device false with | mk result r₁ =>
    have hrelease := Registry.leaves_release hw hdevice hrel
    have hunclaim := Registry.leaves_unclaim e.claim hrelease.wired hdevice
    have hall := hrelease.trans hunclaim
    have hr' : r' = r₁.unclaim e.device e.claim ∧ s' = s.markClosed unit := by
      simp only [hb, hrel, finishClose] at h
      cases result <;> simp_all
    rcases hr' with ⟨rfl, rfl⟩
    exact ⟨hall, (ha.markClosed unit).leaves hall⟩

/-- Reading from or writing to a unit of another device is a call of another transport. -/
theorem leaves_calls (hw : Wired r []) (ha : ∀ e, s.unit? m.unit = some e → e.Apart x r)
    (h : s.Calls m r reply r') : r.Leaves x r' := by
  cases h with
  | @called _ e call run _ _ _ _ hunit _ _ huse =>
    have hleaves := Registry.leaves_use (·.use e.transport call run) hw
      (Pool.spares_use (ha e hunit).transport)
    rwa [huse] at hleaves

/-- A session without a unit of the device leaves it alone, unless it is asked to open it. -/
theorem leaves_handle (hw : Wired r []) (ha : s.Apart x r) (hm : ¬ Opens x m)
    (h : s.handle m r = (reply, s', r')) : r.Leaves x r' ∧ s'.Apart x r' := by
  by_cases hopen : m.op = .ok .openUnit
  · simp only [handle, hopen] at h
    exact leaves_openUnit hw ha (fun hname => hm ⟨hopen, hname⟩) h
  by_cases hclose : m.op = .ok .closeUnit
  · simp only [handle, hclose] at h
    exact leaves_closeUnit hw ha h
  obtain ⟨rfl, ⟨-, -, rfl, -⟩ | hcalls⟩ := refuses_or_calls hopen hclose h
  · exact ⟨.refl hw, ha⟩
  · have hleaves := leaves_calls hw (fun _ => ha.of_unit?) hcalls
    exact ⟨hleaves, ha.leaves hleaves⟩

/-- The end of a unit of another device, or of one that was closed before. -/
theorem leaves_endEntry {e : Entry} (hw : Wired r []) (he : e.isOpen = true → e.Apart x r) :
    r.Leaves x (endEntry e r) := by
  unfold endEntry
  split
  · next hopen =>
    have hdevice := (he hopen).device
    cases hrel : r.release e.device true with | mk result r₁ =>
    have hrelease := Registry.leaves_release hw hdevice hrel
    have hunclaim := Registry.leaves_unclaim e.claim hrelease.wired hdevice
    exact (hrelease.trans hunclaim).trans (Registry.leaves_letGo e.transport hunclaim.wired)
  · exact Registry.leaves_letGo e.transport hw

/-- The end of a session that has no open unit of the device. -/
theorem leaves_shutdown (hw : Wired r []) (ha : s.Apart x r) :
    r.Leaves x (s.shutdown r).2 := by
  rcases s with ⟨entries⟩
  unfold shutdown
  dsimp only
  -- induction on the table: the entries behind are still apart when the first one has ended
  induction entries generalizing r with
  | nil => exact .refl hw
  | cons e entries ih =>
    have hfirst := leaves_endEntry hw (ha e List.mem_cons_self)
    have hothers : Session.Apart x r ⟨entries⟩ := by
      intro e' he'
      exact ha e' (List.mem_cons_of_mem _ he')
    exact hfirst.trans (ih hfirst.wired (hothers.leaves hfirst))

end Session

/-! ## Connections -/

section Connections

variable [Transport τ] {x : String} {r r' : Registry τ}

/-- A session that is never asked to open the device leaves it alone, however many requests it
answers. -/
theorem leaves_answerAll {ms : List Message} {s s' : Session} {answers : Answers}
    (hw : Wired r []) (ha : s.Apart x r) (hms : ∀ m ∈ ms, ¬ Opens x m)
    (h : answerAll ms s r = (answers, s', r')) : r.Leaves x r' ∧ s'.Apart x r' := by
  -- induction on the requests, of which the first reply without a form may be the last
  induction ms generalizing s r answers with
  | nil =>
    obtain ⟨-, rfl, rfl⟩ := by simpa [answerAll] using h
    exact ⟨.refl hw, ha⟩
  | cons m ms ih =>
    unfold answerAll at h
    cases hh : s.handle m r with | mk reply found =>
    rcases found with ⟨s₁, r₁⟩
    rcases Session.leaves_handle hw ha (hms m List.mem_cons_self) hh with ⟨hfirst, hapart⟩
    simp only [hh] at h
    split at h
    · obtain ⟨-, rfl, rfl⟩ := by simpa using h
      exact ⟨hfirst, hapart⟩
    · cases hrest : answerAll ms s₁ r₁ with | mk rest found =>
      rcases found with ⟨s₂, r₂⟩
      obtain ⟨-, rfl, rfl⟩ := by simpa [hrest] using h
      rcases ih hfirst.wired hapart (fun m' hm' => hms m' (List.mem_cons_of_mem _ hm')) hrest with
        ⟨hothers, hapart'⟩
      exact ⟨hfirst.trans hothers, hapart'⟩

namespace Connection

variable {c c' : Connection}

/-- The end of a connection whose session has no unit of the device. -/
theorem leaves_finish (hw : Wired r []) (ha : c.session.Apart x r)
    (h : c.finish r = (c', r')) : r.Leaves x r' ∧ c'.session.Apart x r' := by
  unfold finish at h
  split at h
  · rcases Prod.mk.inj h with ⟨rfl, rfl⟩
    exact ⟨.refl hw, ha⟩
  · rcases Prod.mk.inj h with ⟨rfl, rfl⟩
    exact ⟨Session.leaves_shutdown hw ha, Session.apart_empty x _⟩

/-- Whatever bytes arrive on a connection without a unit of the device, unless they complete a
request to open it. -/
theorem leaves_receive {data : Bytes} {reaction : Net.Reaction} (hw : Wired r [])
    (ha : c.session.Apart x r)
    (hms : ∀ m ∈ (Framing.drain (c.buffer ++ data)).1, ¬ Opens x m)
    (h : c.receive data r = (reaction, c', r')) :
    r.Leaves x r' ∧ c'.session.Apart x r' := by
  unfold receive at h
  split at h
  · obtain ⟨-, rfl, rfl⟩ := by simpa using h
    exact ⟨.refl hw, ha⟩
  · cases hd : Framing.drain (c.buffer ++ data) with | mk ms rest =>
    rw [hd] at hms
    cases hall : answerAll ms c.session r with | mk answers found =>
    rcases found with ⟨s₁, r₁⟩
    rcases leaves_answerAll hw ha hms hall with ⟨hleaves, hapart⟩
    simp only [hd, hall] at h
    split at h
    · obtain ⟨-, rfl, rfl⟩ := by simpa using h
      exact ⟨hleaves, hapart⟩
    · cases hf : finish ⟨s₁, rest, false⟩ r₁ with | mk c₂ r₂ =>
      rcases leaves_finish hleaves.wired hapart hf with ⟨hfinish, hapart'⟩
      obtain ⟨-, rfl, rfl⟩ := by simpa [hf] using h
      exact ⟨hleaves.trans hfinish, hapart'⟩

end Connection

end Connections

end RemoteDevice.Server
