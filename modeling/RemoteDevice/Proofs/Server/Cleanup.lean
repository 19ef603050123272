import RemoteDevice.Proofs.Server.Standing
import RemoteDevice.Proofs.Server.Arbitration
import RemoteDevice.Simulated.Bench

/-!
# Proofs.Server.Cleanup — the end of a session

A session at its end gives back what it has of every device, one unit after another, whatever comes
of it: the openings, the claim and every reference to a transport. A device whose openings are all
given back is disconnected once and loses its transport, unless disconnecting crashes: then the
device keeps it. The transport is dropped with that, unless another session refers to it still. No
other device notices anything (`disconnect_cleanup`).
-/

namespace RemoteDevice.Server

open Wire List

variable {τ : Type}

/-! ## Units that a registry accounts for -/

/-- The registry accounts for these units: those that are open refer to the transport of their
device, which counts them all, and whoever has a unit of a claimed device holds the claim. -/
structure Registry.Accounts (entries : List Entry) (r : Registry τ) : Prop where
  wired : Wired r []
  transport : ∀ e ∈ entries, e.isOpen = true → r.transportOf e.device = some e.transport
  claim : ∀ e ∈ entries, e.isOpen = true → ∀ d, r.get? e.device = some d → d.claimed = true →
    e.claim = true
  opens : ∀ x, entries.countP (Entry.isOpenOn x) ≤ r.opensOf x

namespace Registry

variable {r r' : Registry τ} {x : String} {n : Nat} {e : Entry} {entries : List Entry}

theorem opensOf_unclaim (r : Registry τ) (name : String) (held : Bool) (x : String) :
    (r.unclaim name held).opensOf x = r.opensOf x := by
  unfold opensOf
  rw [get?_unclaim]
  cases r.get? x with
  | none => rfl
  | some d =>
    simp only [Option.map_some]
    split <;> rfl

variable [Transport τ]

/-- Releasing takes transports away from devices, and gives none to any. -/
theorem transportOf_of_release {name : String} {destroy : Bool} {result : Outcome Unit}
    (h : r.release name destroy = (result, r')) (hx : r'.transportOf x = some n) :
    r.transportOf x = some n := by
  rw [transportOf_release_eq h] at hx
  split at hx
  · simp at hx
  · exact hx

/-- Releasing takes one opening from the device. -/
theorem opensOf_release {name : String} {destroy : Bool} {result : Outcome Unit}
    (h : r.release name destroy = (result, r')) (x : String) :
    r'.opensOf x = r.opensOf x - if x = name then 1 else 0 := by
  rcases release_cases h with ⟨hnone, rfl⟩ | ⟨d, d', hd, hreleased, hget⟩
  · split
    · next hx => simp [hx, opensOf, hnone]
    · rfl
  · unfold opensOf
    rw [hget]
    split
    · next hx => simp [hx, hd, hreleased.opens]
    · rfl

end Registry

namespace Session

variable [Transport τ] {r : Registry τ} {x : String} {n : Nat} {d : Device} {t : τ}
  {calls : List Call} {e : Entry} {entries : List Entry}

/-! ## One unit -/

/-- The end of a unit takes transports away from devices, and gives none to any. -/
theorem transportOf_of_endEntry (h : (endEntry e r).transportOf x = some n) :
    r.transportOf x = some n := by
  unfold endEntry giveBack at h
  split at h
  · cases hrel : r.release e.device true with | mk result r₁ =>
    rw [hrel] at h
    apply Registry.transportOf_of_release hrel
    exact (Registry.transportOf_unclaim r₁ e.device e.claim x).symm.trans h
  · exact h

/-- It takes a transport away from a device only with the last opening. -/
theorem transportOf_endEntry (e : Entry) (r : Registry τ) (x : String) :
    (endEntry e r).transportOf x = r.transportOf x ∨
      e.isOpenOn x = true ∧ r.opensOf x ≤ 1 := by
  unfold endEntry giveBack
  split
  · next hopen =>
    cases hrel : r.release e.device true with | mk result r₁ =>
    have hunclaim := Registry.transportOf_unclaim r₁ e.device e.claim x
    rcases Registry.transportOf_release hrel x with hkept | ⟨rfl, hopens⟩
    · exact .inl (hunclaim.trans hkept)
    · exact .inr ⟨by simp [Entry.isOpenOn, hopen], hopens⟩
  · exact .inl rfl

/-- It claims no device. -/
theorem claimed_of_endEntry {d' : Device} (h : (endEntry e r).get? x = some d')
    (hclaimed : d'.claimed = true) : ∃ d, r.get? x = some d ∧ d.claimed = true := by
  unfold endEntry giveBack at h
  split at h
  · cases hrel : r.release e.device true with | mk result r₁ =>
    rw [hrel] at h
    have hget : (r₁.unclaim e.device e.claim).get? x = some d' := h
    rw [Registry.get?_unclaim] at hget
    rcases Option.map_eq_some_iff.1 hget with ⟨d₁, hd₁, rfl⟩
    have hclaimed₁ : d₁.claimed = true := by
      split at hclaimed
      · simp [Device.unclaim] at hclaimed
      · exact hclaimed
    rcases Registry.release_cases hrel with ⟨-, rfl⟩ | ⟨d, d₂, hd, hreleased, hget⟩
    · exact ⟨d₁, hd₁, hclaimed₁⟩
    · rw [hget] at hd₁
      split at hd₁
      · next hx =>
        obtain rfl := Option.some.inj hd₁
        exact ⟨d, hx ▸ hd, hreleased.claimed ▸ hclaimed₁⟩
      · exact ⟨d₁, hd₁, hclaimed₁⟩
  · exact ⟨d', h, hclaimed⟩

theorem wired_endEntry (e : Entry) (hw : Wired r []) : Wired (endEntry e r) [] := by
  unfold endEntry giveBack
  split
  · cases hrel : r.release e.device true with | mk result r₁ =>
    have hreleased : Wired r₁ [] := hw.release_unused hrel fun _ => rfl
    have hunclaimed : Wired (r₁.unclaim e.device e.claim) [] :=
      hreleased.keep
        (Nat.le_of_eq (congrArg (·.members.length) (Registry.pool_unclaim r₁ _ _).symm))
        (Registry.transportOf_unclaim r₁ _ _)
    exact hunclaimed.keep (Pool.quiet_letGo e.transport _).size_le fun _ => rfl
  · exact hw.keep (Pool.quiet_letGo e.transport r.pool).size_le fun _ => rfl

/-- The end of an open unit is one opening less for its device. -/
theorem opensOf_endEntry (e : Entry) (r : Registry τ) (x : String) :
    (endEntry e r).opensOf x = r.opensOf x - if e.isOpenOn x then 1 else 0 := by
  unfold endEntry giveBack
  by_cases hopen : e.isOpen = true
  · rw [if_pos hopen]
    cases hrel : r.release e.device true with | mk result r₁ =>
    have hunclaim := Registry.opensOf_unclaim r₁ e.device e.claim x
    have hrelease := Registry.opensOf_release hrel x
    have hgoal : ((r₁.unclaim e.device e.claim).letGo e.transport).opensOf x =
        (r₁.unclaim e.device e.claim).opensOf x := rfl
    rw [hgoal, hunclaim, hrelease]
    by_cases hx : x = e.device
    · simp [Entry.isOpenOn, hopen, hx]
    · simp [Entry.isOpenOn, hopen, hx, Ne.symm hx]
  · have hsame : (r.letGo e.transport).opensOf x = r.opensOf x := rfl
    simp [Entry.isOpenOn, hopen, hsame]

/-- A unit that was closed, or is of another transport, calls nothing of this one when it ends. -/
theorem spares_endEntry
    (hn : e.isOpen = true → ∀ k, r.transportOf e.device = some k → some n ≠ some k) :
    r.pool.Spares (some n) (endEntry e r).pool := by
  unfold endEntry giveBack
  split
  · next hopen =>
    cases hrel : r.release e.device true with | mk result r₁ =>
    have hrelease := Registry.spares_release hrel (hn hopen)
    have hletGo := Pool.spares_letGo (some n) e.transport (r₁.unclaim e.device e.claim).pool
    rw [Registry.pool_unclaim] at hletGo
    exact hrelease.trans (Registry.pool_unclaim r₁ e.device e.claim ▸ hletGo)
  · exact Pool.spares_letGo (some n) e.transport r.pool

/-- A unit of a device whose openings do not end with it. -/
theorem stands_endEntry_more (hopen : e.isOpen = true) (hdevice : e.device = x)
    (hclaim : d.claimed = true → e.claim = true) (hs : r.Stands x d n t calls)
    (hopens : 1 < d.opens) :
    (endEntry e r).Stands x { d with claimed := false, opens := d.opens - 1 } n t calls := by
  subst hdevice
  rcases hs.release_more true hopens with ⟨r₁, hrel, hreleased⟩
  have hall := (hreleased.unclaim e.claim).letGo e.transport
  have hfree : (d.claimed && !e.claim) = false := by
    cases hclaimed : d.claimed with
    | false => rfl
    | true => simp [hclaim hclaimed]
  simpa [endEntry, giveBack, hopen, hrel, hfree] using hall

/-- The last unit of a device. -/
theorem stands_endEntry_last (hopen : e.isOpen = true) (hdevice : e.device = x)
    (hclaim : d.claimed = true → e.claim = true) (hs : r.Stands x d n t calls)
    (hn : d.transport = some n) (hopens : d.opens ≤ 1) :
    (endEntry e r).Stands x { d with
      claimed := false
      opens := 0
      transport := if crashed (Transport.disconnect t).1 then some n else none }
      n (Transport.disconnect t).2 (.disconnect :: calls) := by
  subst hdevice
  rcases hs.release_last true hn hopens with ⟨r₁, hrel, hreleased⟩
  have hall := (hreleased.unclaim e.claim).letGo e.transport
  have hfree : (d.claimed && !e.claim) = false := by
    cases hclaimed : d.claimed with
    | false => rfl
    | true => simp [hclaim hclaimed]
  cases hcrash : crashed (Transport.disconnect t).1 <;>
    simpa [endEntry, giveBack, hopen, hrel, hfree, hcrash] using hall

end Session

/-! ## All units -/

namespace Registry.Accounts

variable [Transport τ] {r : Registry τ} {x : String} {n : Nat} {d : Device} {t : τ}
  {calls : List Call} {e : Entry} {entries : List Entry}

omit [Transport τ] in
theorem apart (h : r.Accounts (e :: entries)) (hopen : e.isOpen = true) (hne : e.device ≠ x) :
    e.Apart x r :=
  .of_transportOf h.wired hne (h.transport e List.mem_cons_self hopen)

/-- When the first unit has ended, the registry accounts for the others. -/
theorem endEntry (h : r.Accounts (e :: entries)) :
    (Session.endEntry e r).Accounts entries := by
  constructor
  · exact Session.wired_endEntry e h.wired
  · intro e' he' hopen'
    rw [← h.transport e' (List.mem_cons_of_mem _ he') hopen']
    refine (Session.transportOf_endEntry e r e'.device).resolve_right ?_
    -- it cannot have been the last opening of the device, which counts this unit too
    rintro ⟨hopen, hlast⟩
    have hcount := h.opens e'.device
    have hpos : 0 < entries.countP (Entry.isOpenOn e'.device) :=
      List.countP_pos_iff.2 ⟨e', he', by simp [Entry.isOpenOn, hopen']⟩
    rw [List.countP_cons, if_pos hopen] at hcount
    omega
  · intro e' he' hopen' d' hd' hclaimed
    rcases Session.claimed_of_endEntry hd' hclaimed with ⟨d, hd, hclaimed⟩
    exact h.claim e' (List.mem_cons_of_mem _ he') hopen' d hd hclaimed
  · intro x
    have hcount := h.opens x
    rw [List.countP_cons] at hcount
    rw [Session.opensOf_endEntry]
    omega

/-- The end of a unit that is closed already or of another device, where the transport is no other
device's. -/
theorem stands_endEntry (h : r.Accounts (e :: entries)) (hs : r.Stands x d n t calls)
    (hx : e.isOpenOn x = false) (hn : ∀ y, r.transportOf y = some n → y = x) :
    (Session.endEntry e r).Stands x d n t calls := by
  have hnot : e.isOpen = true → e.device ≠ x := by
    intro hopen hdevice
    simp [Entry.isOpenOn, hopen, hdevice] at hx
  have hleaves := Session.leaves_endEntry h.wired fun hopen => h.apart hopen (hnot hopen)
  refine hs.spared hleaves.device (Session.spares_endEntry ?_)
  intro hopen k hk heq
  exact hnot hopen (hn _ (heq ▸ hk))

/-- A device of which no unit ends. -/
theorem stands_none (h : r.Accounts entries) (hs : r.Stands x d n t calls)
    (hn : ∀ y, r.transportOf y = some n → y = x)
    (hnone : entries.countP (Entry.isOpenOn x) = 0) :
    Registry.Stands x d n t calls (entries.foldl (fun r e => Session.endEntry e r) r) := by
  induction entries generalizing r with
  | nil => exact hs
  | cons e entries ih =>
    rw [List.countP_cons] at hnone
    have hx : e.isOpenOn x = false := by
      cases hopen : e.isOpenOn x with
      | false => rfl
      | true => simp [hopen] at hnone
    exact ih h.endEntry (h.stands_endEntry hs hx hn)
      (fun y hy => hn y (Session.transportOf_of_endEntry hy)) (by omega)

/-- A device of which some units end, but which stays open. -/
theorem stands_some (h : r.Accounts entries) (hs : r.Stands x d n t calls)
    (hn : ∀ y, r.transportOf y = some n → y = x)
    (hopens : entries.countP (Entry.isOpenOn x) < d.opens) :
    Registry.Stands x { d with
      claimed := d.claimed && entries.countP (Entry.isOpenOn x) == 0
      opens := d.opens - entries.countP (Entry.isOpenOn x) }
      n t calls (entries.foldl (fun r e => Session.endEntry e r) r) := by
  -- induction on the table: with a unit of the device the count goes down, and something remains
  induction entries generalizing r d with
  | nil => simpa using hs
  | cons e entries ih =>
    have hn' := fun y hy => hn y (Session.transportOf_of_endEntry (e := e) hy)
    rw [List.countP_cons] at hopens ⊢
    by_cases hx : e.isOpenOn x = true
    · rw [if_pos hx] at hopens ⊢
      obtain ⟨hopen, hdevice⟩ : e.isOpen = true ∧ e.device = x := by
        simpa [Entry.isOpenOn] using hx
      have hclaim := h.claim e List.mem_cons_self hopen d (hdevice ▸ hs.device)
      have hfirst := Session.stands_endEntry_more hopen hdevice hclaim hs (by omega)
      have hrest := ih h.endEntry hfirst hn' (by dsimp only; omega)
      have hopens : d.opens - 1 - entries.countP (Entry.isOpenOn x) =
          d.opens - (entries.countP (Entry.isOpenOn x) + 1) := by omega
      simpa [hopens] using hrest
    · rw [if_neg hx] at hopens ⊢
      exact ih h.endEntry (h.stands_endEntry hs (by simpa using hx) hn) hn' hopens

/-- A device of which all units end. -/
theorem stands_all (h : r.Accounts entries) (hs : r.Stands x d n t calls)
    (hx : d.transport = some n) (hn : ∀ y, r.transportOf y = some n → y = x)
    (hopens : d.opens = entries.countP (Entry.isOpenOn x)) (hpos : 0 < d.opens) :
    Registry.Stands x { d with
      claimed := false
      opens := 0
      transport := if crashed (Transport.disconnect t).1 then some n else none }
      n (Transport.disconnect t).2 (.disconnect :: calls)
      (entries.foldl (fun r e => Session.endEntry e r) r) := by
  -- induction on the table: the last unit of the device disconnects it, and no other one does
  induction entries generalizing r d with
  | nil => simp [hopens] at hpos
  | cons e entries ih =>
    have hn' := fun y hy => hn y (Session.transportOf_of_endEntry (e := e) hy)
    rw [List.countP_cons] at hopens
    by_cases hopenOn : e.isOpenOn x = true
    · rw [if_pos hopenOn] at hopens
      obtain ⟨hopen, hdevice⟩ : e.isOpen = true ∧ e.device = x := by
        simpa [Entry.isOpenOn] using hopenOn
      have hclaim := h.claim e List.mem_cons_self hopen d (hdevice ▸ hs.device)
      by_cases hlast : d.opens ≤ 1
      · have hfirst := Session.stands_endEntry_last hopen hdevice hclaim hs hx hlast
        exact h.endEntry.stands_none hfirst hn' (by omega)
      · have hfirst := Session.stands_endEntry_more hopen hdevice hclaim hs (by omega)
        exact ih (d := { d with claimed := false, opens := d.opens - 1 }) h.endEntry hfirst hx hn'
          (by dsimp only; omega) (by dsimp only; omega)
    · rw [if_neg hopenOn] at hopens
      exact ih h.endEntry (h.stands_endEntry hs (by simpa using hopenOn) hn) hx hn' hopens hpos

end Registry.Accounts

/-! ## The end of a session -/

/-- How many units the session has open on the device of this name. -/
def Session.unitsOn (x : String) (s : Session) : Nat :=
  s.entries.countP (Entry.isOpenOn x)

namespace Session

variable [Transport τ] {r : Registry τ} {s : Session} {x : String} {n : Nat} {d : Device}

omit [Transport τ] in
/-- A session has no more units open on a device than the device counts. -/
theorem unitsOn_le (h : r.Accounts s.entries) (hd : r.get? x = some d) :
    s.unitsOn x ≤ d.opens := by
  have hopens := h.opens x
  rwa [Registry.opensOf, hd] at hopens

/-- A device of which the session has no unit. -/
theorem leaves_shutdown_of_unitsOn (h : r.Accounts s.entries) (hnone : s.unitsOn x = 0) :
    r.Leaves x (s.shutdown r).2 := by
  apply leaves_shutdown h.wired
  intro e he hopen
  refine .of_transportOf h.wired ?_ (h.transport e he hopen)
  intro hdevice
  have hnot := List.countP_eq_zero.1 hnone e he
  simp [Entry.isOpenOn, hopen, hdevice] at hnot

/-- A device of which the session has units: it stays open for others, or it is disconnected. -/
theorem stands_shutdown (h : r.Accounts s.entries) (hd : r.get? x = some d)
    (hpos : 0 < s.unitsOn x) : ∃ n t, d.transport = some n ∧ r.pool.get? n = some t ∧
      if s.unitsOn x < d.opens then
        (s.shutdown r).2.Stands x { d with claimed := false, opens := d.opens - s.unitsOn x }
          n t (r.pool.calls n)
      else
        (s.shutdown r).2.Stands x { d with
          claimed := false
          opens := 0
          transport := if crashed (Transport.disconnect t).1 then some n else none }
          n (Transport.disconnect t).2 (.disconnect :: r.pool.calls n) := by
  rcases List.countP_pos_iff.1 hpos with ⟨e, he, hon⟩
  obtain ⟨hopen, hdevice⟩ : e.isOpen = true ∧ e.device = x := by
    simpa [Entry.isOpenOn] using hon
  have htransport : r.transportOf x = some e.transport := hdevice ▸ h.transport e he hopen
  have hlt := h.wired.bound _ _ htransport
  obtain ⟨t, hstate⟩ := Pool.exists_get? hlt
  have hx : d.transport = some e.transport := (Registry.transportOf_eq hd).symm.trans htransport
  have hs : r.Stands x d e.transport t (r.pool.calls e.transport) := ⟨hd, hstate, rfl⟩
  have hn : ∀ y, r.transportOf y = some e.transport → y = x :=
    fun y hy => h.wired.apart _ _ _ hy htransport
  refine ⟨e.transport, t, hx, hstate, ?_⟩
  split
  · next hmore =>
    have hsome := h.stands_some hs hn hmore
    have hzero : (d.claimed && s.unitsOn x == 0) = false := by
      have hne : s.unitsOn x ≠ 0 := by omega
      simp [hne]
    unfold unitsOn at hzero
    rwa [hzero] at hsome
  · next hall =>
    have hle := unitsOn_le h hd
    unfold unitsOn at hall hle hpos
    exact h.stands_all hs hx hn (by omega) (by omega)

/-- No device gets a transport when a session ends. -/
theorem transportOf_of_shutdown (h : (s.shutdown r).2.transportOf x = some n) :
    r.transportOf x = some n := by
  rcases s with ⟨entries⟩
  unfold shutdown at h
  induction entries generalizing r with
  | nil => exact h
  | cons e entries ih => exact transportOf_of_endEntry (ih h)

/-- A transport that no device has. -/
theorem spares_shutdown (s : Session) (hn : ∀ y, r.transportOf y ≠ some n) :
    r.pool.Spares (some n) (s.shutdown r).2.pool := by
  rcases s with ⟨entries⟩
  unfold shutdown
  dsimp only
  induction entries generalizing r with
  | nil => exact Pool.Spares.refl _ _
  | cons e entries ih =>
    have hfirst : r.pool.Spares (some n) (endEntry e r).pool := by
      apply spares_endEntry
      intro _ k hk heq
      exact hn _ (heq ▸ hk)
    exact hfirst.trans (ih fun y hy => hn y (transportOf_of_endEntry hy))

/-- A transport whose device stays open, or has no unit of the session. -/
theorem kept_shutdown (h : r.Accounts s.entries)
    (hothers : ∀ x d, r.get? x = some d → d.transport = some n →
      s.unitsOn x = 0 ∨ s.unitsOn x < d.opens) :
    (s.shutdown r).2.pool.get? n = r.pool.get? n ∧
      (s.shutdown r).2.pool.calls n = r.pool.calls n := by
  by_cases howned : ∃ x, r.transportOf x = some n
  · rcases howned with ⟨x, hx⟩
    rcases Option.bind_eq_some_iff.1 hx with ⟨d, hd, hn⟩
    by_cases hnone : s.unitsOn x = 0
    · exact (leaves_shutdown_of_unitsOn h hnone).pool.kept n hx
    · have hmore := (hothers x d hd hn).resolve_left hnone
      rcases stands_shutdown h hd (Nat.pos_of_ne_zero hnone) with ⟨n', t, hn', hstate, hstands⟩
      obtain rfl : n = n' := Option.some.inj (hn.symm.trans hn')
      rw [if_pos hmore] at hstands
      exact ⟨hstands.state.trans hstate.symm, hstands.calls⟩
  · have hnobody : ∀ y, r.transportOf y ≠ some n := fun y hy => howned ⟨y, hy⟩
    exact (spares_shutdown s hnobody).kept n rfl

end Session

namespace System

variable [Transport τ] {configs : List DeviceConfig} {catalog : Catalog τ} {trace : Trace}
  {s : System τ} {i : Nat} {w : Worker} {session : Session}

/-- In every run the registry accounts for the units of every session. -/
theorem Run.accounts (hrun : Run (start (.make configs catalog)) trace s)
    (hw : s.workers[i]? = some w) : s.registry.Accounts w.session.entries := by
  have hmem := List.mem_of_getElem? hw
  have hcounted := hrun.counted.2
  constructor
  · exact hcounted.wired.alone
  · intro e he hopen
    rcases stake_mem hmem he hopen with ⟨j, hst⟩
    exact hcounted.wired.same _ hst e.transport rfl
  · intro e he hopen d hd hclaimed
    rcases stake_mem hmem he hopen with ⟨j, hst⟩
    have hmade := Registry.claimsOf_make configs catalog e.device
    have hclaim := (Arbitrated.of_run hmade hrun).marked.claim _ hst d hd
    -- a device that is claimed is not shared
    cases hshared : d.config.shared with
    | false => simpa [Entry.stake, hshared] using hclaim
    | true =>
      have hzero := hrun.claimsOf_of_shared hd hshared
      simp [Registry.claimsOf, hd, hclaimed] at hzero
  · intro x
    have hunits : w.session.entries.countP (Entry.isOpenOn x) ≤ s.openUnits x := by
      apply List.Sublist.countP_le
      exact List.sublist_flatten_of_mem (List.mem_map_of_mem hmem)
    rw [hcounted.opensOf_eq (Registry.opensOf_make configs catalog x), s.countP_counts]
    omega

/-- When a session has ended, all references are those of devices and of the other sessions. -/
theorem Run.lends_shutdown (hrun : Run (start (.make configs catalog)) trace s)
    (hw : s.workers[i]? = some ⟨session, .idle⟩) :
    (session.shutdown s.registry).2.Lends (s.heldBesides i) := by
  rcases run_shutdown hw with ⟨later, hlater⟩
  exact (hrun.trans hlater).lends.perm (held_set_perm (List.getElem?_eq_some_iff.1 hw).1 _ _)

/-- What becomes of the transport of a device when a session ends: it is dropped, once, unless the
device has it still or another session refers to it. -/
theorem Run.drops_shutdown {x : String} {n : Nat}
    (hrun : Run (start (.make configs catalog)) trace s)
    (hw : s.workers[i]? = some ⟨session, .idle⟩) (hn : s.registry.transportOf x = some n) :
    (session.shutdown s.registry).2.pool.drops n =
      if (session.shutdown s.registry).2.transportOf x = some n ∨ n ∈ s.heldBesides i then 0
      else 1 := by
  have hlends := hrun.lends_shutdown hw
  have hwired := hrun.counted.2.wired
  have hlt : n < (session.shutdown s.registry).2.pool.members.length := by
    rcases run_shutdown hw with ⟨later, hlater⟩
    exact hlater.lt_of_lt (hwired.bound x n hn)
  -- no other device can have it
  have hkept : n ∈ (session.shutdown s.registry).2.kept ↔
      (session.shutdown s.registry).2.transportOf x = some n := by
    rw [hlends.mem_kept_iff]
    constructor
    · rintro ⟨y, hy⟩
      obtain rfl : y = x := hwired.apart y x n (Session.transportOf_of_shutdown hy) hn
      exact hy
    · exact fun hx => ⟨x, hx⟩
  simp only [hlends.counts.drops, List.mem_append, hkept, hlt, true_and]
  by_cases hrefers : (session.shutdown s.registry).2.transportOf x = some n ∨ n ∈ s.heldBesides i
  · rw [if_pos hrefers, if_neg (not_not_intro hrefers)]
  · rw [if_neg hrefers, if_pos hrefers]

/-- What the end of a session does, whatever other sessions there are and whatever they did before.
Every device counts as many openings less as the session had units on it, and if it had any, the
device is free. If they were all that was open, the transport of the device is disconnected once,
and the device has none then; only if disconnecting crashes does the device keep it. Nothing happens
to other devices and to any other transport. After that the session has nothing that could end.

The session lets go of everything that its units refer to, open or closed, while the references of
the other sessions stay; and what nobody refers to any more is dropped, once. So the transport that a
device has lost is dropped with it, unless another session refers to it still: by a unit that it
closed before, or by one that it is about to give back. -/
theorem disconnect_cleanup (hrun : Run (start (.make configs catalog)) trace s)
    (hw : s.workers[i]? = some ⟨session, .idle⟩) :
    (∃ later, Run s later
      ⟨(session.shutdown s.registry).2, s.workers.set i ⟨(session.shutdown s.registry).1, .gone⟩⟩) ∧
    (∀ r : Registry τ, ((session.shutdown s.registry).1.shutdown r) = ({}, r)) ∧
    (∀ x d, s.registry.get? x = some d → session.unitsOn x ≤ d.opens ∧
      ∃ d', (session.shutdown s.registry).2.get? x = some d' ∧ d'.config = d.config ∧
        d'.opens = d.opens - session.unitsOn x ∧
        (session.unitsOn x = 0 → d' = d) ∧
        (0 < session.unitsOn x → d'.claimed = false) ∧
        (0 < d'.opens → d'.transport = d.transport) ∧
        (0 < session.unitsOn x → d'.opens = 0 → ∃ n t, d.transport = some n ∧
          s.registry.pool.get? n = some t ∧
          (session.shutdown s.registry).2.pool.get? n = some (Transport.disconnect t).2 ∧
          (session.shutdown s.registry).2.pool.calls n =
            .disconnect :: s.registry.pool.calls n ∧
          d'.transport = (if crashed (Transport.disconnect t).1 then some n else none) ∧
          (session.shutdown s.registry).2.pool.drops n =
            if crashed (Transport.disconnect t).1 = true ∨ n ∈ s.heldBesides i then 0 else 1) ∧
        (∀ n, d.transport = some n → s.registry.pool.drops n = 0) ∧
        ∀ n, d'.transport = some n → (session.shutdown s.registry).2.pool.drops n = 0) ∧
    (∀ n, (∀ x d, s.registry.get? x = some d → d.transport = some n →
        session.unitsOn x = 0 ∨ session.unitsOn x < d.opens) →
      (session.shutdown s.registry).2.pool.get? n = s.registry.pool.get? n ∧
      (session.shutdown s.registry).2.pool.calls n = s.registry.pool.calls n) ∧
    s.registry.pool.Counts (s.registry.kept ++ (session.transports ++ s.heldBesides i)) ∧
    (session.shutdown s.registry).2.pool.Counts
      ((session.shutdown s.registry).2.kept ++ s.heldBesides i) := by
  have haccounts : s.registry.Accounts session.entries := hrun.accounts hw
  have hlends := hrun.lends_shutdown hw
  have hheld : s.held ~ session.transports ++ s.heldBesides i := by
    simpa [Worker.held, Task.held] using held_perm hw
  refine ⟨run_shutdown hw, fun _ => rfl, ?_, ?_, (hrun.lends.perm hheld).counts, hlends.counts⟩
  · intro x d hd
    refine ⟨Session.unitsOn_le haccounts hd, ?_⟩
    have hbefore : ∀ n, d.transport = some n → s.registry.pool.drops n = 0 := fun n hn =>
      hrun.lends.drops_of_transportOf ((Registry.transportOf_eq hd).trans hn)
    have hafter : ∀ d', (session.shutdown s.registry).2.get? x = some d' →
        ∀ n, d'.transport = some n → (session.shutdown s.registry).2.pool.drops n = 0 :=
      fun d' hd' n hn => hlends.drops_of_transportOf ((Registry.transportOf_eq hd').trans hn)
    by_cases hnone : session.unitsOn x = 0
    · have hleaves := Session.leaves_shutdown_of_unitsOn haccounts hnone
      have hd' := hleaves.device.trans hd
      refine ⟨d, hd', rfl, by simp [hnone], fun _ => rfl, ?_, fun _ => rfl, ?_, hbefore,
        hafter d hd'⟩
      · exact fun hpos => absurd hnone (Nat.ne_of_gt hpos)
      · exact fun hpos => absurd hnone (Nat.ne_of_gt hpos)
    · rcases Session.stands_shutdown haccounts hd (Nat.pos_of_ne_zero hnone) with
        ⟨n, t, hn, hstate, hstands⟩
      split at hstands
      · next hmore =>
        refine ⟨_, hstands.device, rfl, rfl, ?_, fun _ => rfl, fun _ => rfl, ?_, hbefore,
          hafter _ hstands.device⟩
        · exact fun hzero => absurd hzero hnone
        · intro _ hzero
          dsimp only at hzero
          omega
      · next hall =>
        have hdrops := hrun.drops_shutdown hw ((Registry.transportOf_eq hd).trans hn)
        rw [Registry.transportOf_eq hstands.device] at hdrops
        refine ⟨_, hstands.device, rfl, ?_, ?_, fun _ => rfl, ?_, ?_, hbefore,
          hafter _ hstands.device⟩
        · dsimp only
          omega
        · exact fun hzero => absurd hzero hnone
        · exact fun hpos => absurd hpos (Nat.lt_irrefl 0)
        · intro _ _
          refine ⟨n, t, hn, hstate, hstands.state, hstands.calls, rfl, ?_⟩
          simpa using hdrops
  · exact fun n => Session.kept_shutdown haccounts

/-- The session that has the one device open ends: the device is free, and has no transport, which is
dropped. -/
theorem disconnect_cleanup_of_one : ∃ trace session d, Run (start lone) trace occupied ∧
    occupied.workers[0]? = some ⟨session, .idle⟩ ∧ session.unitsOn "d" = 1 ∧
    (session.shutdown occupied.registry).2.get? "d" = some d ∧
    d.opens = 0 ∧ d.claimed = false ∧ d.transport = none ∧
    (session.shutdown occupied.registry).2.pool.drops 0 = 1 := by
  rcases run_occupied with ⟨trace, hrun⟩
  have hw : occupied.workers[0]? = some ⟨⟨[⟨"d", 0, true, true⟩]⟩, .idle⟩ := rfl
  have hone : Session.unitsOn "d" ⟨[⟨"d", 0, true, true⟩]⟩ = 1 := rfl
  have hd : occupied.registry.get? "d" = some ⟨loneConfig, true, some 0, 1⟩ := rfl
  obtain ⟨-, -, hdevices, -⟩ := disconnect_cleanup hrun hw
  obtain ⟨-, d, hd', -, hopens, -, hfree, -, hlast, -⟩ := hdevices "d" _ hd
  have hzero : d.opens = 0 := by simpa [hone] using hopens
  obtain ⟨n, t, hn, ht, -, -, htransport, hdrops⟩ := hlast (by simp [hone]) hzero
  obtain rfl : 0 = n := Option.some.inj hn
  obtain rfl : (⟨⟨false, {}⟩, .null {}⟩ : OnHost) = t := Option.some.inj ht
  exact ⟨trace, _, d, hrun, hw, hone, hd', hzero, hfree (by simp [hone]), htransport, hdrops⟩

/-- A device of the kind that does what it is told in its options. -/
def scriptedConfig (shared : Bool) (options : String) : DeviceConfig where
  name := "x"
  kind := Simulated.Scripted.kind
  target := "t"
  options := options
  shared := shared

/-- The registry of one such device. -/
def scripted (shared : Bool) (options : String) : Registry Simulated.Benched :=
  .make [scriptedConfig shared options] (Simulated.catalog ⟨false, {}⟩)

/-- A session without units that asks for the device claims it. -/
theorem request_scripted {r r' : Registry Simulated.Benched} {d : Device} {claim : Bool}
    (hd : r.get? "x" = some d) (hclaim : r.claim? "x" = some (claim, r')) :
    Worker.request (.request .openUnit 0 0 [120]) {} r =
      some ([], ⟨{}, .opening ⟨"x", 0, claim⟩ .waiting⟩, r') := by
  have hname : deviceName [120] = "x" := by simp [deviceName, Text.decodeLossy, Text.decode]
  have hfree : Session.free? {} = some 0 := rfl
  simp only [Worker.request, Session.beginOpen, Message.request, hname, hd, hfree, hclaim]
  rfl

/-- A session opens a device whose transport crashes when it is disconnected for the first time, and
ends: nobody has the device open, and its transport is still there, is not dropped, and is the one
that the next opening gets. -/
theorem transport_left_by_crash : ∃ trace s session,
    Run (start (scripted false "panic-close:1")) trace s ∧
    s.workers[0]? = some ⟨session, .idle⟩ ∧ session.unitsOn "x" = 1 ∧
    s.registry.opensOf "x" = 1 ∧ s.registry.transportOf "x" = some 0 ∧
    (session.shutdown s.registry).2.opensOf "x" = 0 ∧
    (session.shutdown s.registry).2.transportOf "x" = some 0 ∧
    (session.shutdown s.registry).2.pool.references 0 = 1 ∧
    (session.shutdown s.registry).2.pool.drops 0 = 0 ∧
    ((session.shutdown s.registry).2.acquire "x").1 = .ok 0 := by
  have hconnect : Run (start (scripted false "panic-close:1")) []
      ⟨scripted false "panic-close:1", [{}]⟩ := Run.single (a := .connect) rfl
  have hrequest := hconnect.trans (run_request (i := 0) rfl (request_scripted rfl rfl))
  have hacquire := (hrequest.advance Nat.zero_lt_one rfl).advance Nat.zero_lt_one rfl
  have hopened := hacquire.advance Nat.zero_lt_one rfl
  exact ⟨_, _, ⟨[⟨"x", 0, true, true⟩]⟩, hopened, rfl, rfl, rfl, rfl, rfl, rfl, rfl, rfl, rfl⟩

/-- A session opens a shared device and closes it again, a second one opens the device and ends:
nobody has the device open and it has no transport, and yet this is not dropped, because the unit that
the first session closed refers to it still. -/
theorem transport_kept_by_closed_unit : ∃ trace s session,
    Run (start (scripted true "")) trace s ∧
    s.workers[1]? = some ⟨session, .idle⟩ ∧ session.unitsOn "x" = 1 ∧ s.heldBesides 1 = [0] ∧
    s.registry.opensOf "x" = 1 ∧ s.registry.transportOf "x" = some 0 ∧
    (session.shutdown s.registry).2.opensOf "x" = 0 ∧
    (session.shutdown s.registry).2.transportOf "x" = none ∧
    (session.shutdown s.registry).2.pool.references 0 = 1 ∧
    (session.shutdown s.registry).2.pool.drops 0 = 0 := by
  have hconnect : Run (start (scripted true "")) [] ⟨scripted true "", [{}, {}]⟩ :=
    (Run.single (a := .connect) rfl).trans (Run.single (a := .connect) rfl)
  have hfirst := hconnect.trans (run_request (i := 0) rfl (request_scripted rfl rfl))
  have hopened := ((hfirst.advance Nat.zero_lt_two rfl).advance Nat.zero_lt_two rfl).advance
    Nat.zero_lt_two rfl
  have hclosing := hopened.trans
    (run_request (i := 0) (m := .request .closeUnit 0 0 []) rfl rfl)
  have hclosed := ((hclosing.advance Nat.zero_lt_two rfl).advance Nat.zero_lt_two rfl).advance
    Nat.zero_lt_two rfl
  have hsecond := hclosed.trans (run_request (i := 1) rfl (request_scripted rfl rfl))
  have hreopened := ((hsecond.advance Nat.one_lt_two rfl).advance Nat.one_lt_two rfl).advance
    Nat.one_lt_two rfl
  exact ⟨_, _, ⟨[⟨"x", 0, false, true⟩]⟩, hreopened, rfl, rfl, rfl, rfl, rfl, rfl, rfl, rfl, rfl⟩

end System

end RemoteDevice.Server
