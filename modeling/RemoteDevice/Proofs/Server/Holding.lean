import Mathlib.Data.List.Perm.Basic
import RemoteDevice.Proofs.Server.Wiring

/-!
# Proofs.Server.Holding — who refers to a transport

A transport lives as long as something refers to it: the device that made it, every unit that was
opened on it until its place in the table is taken or its session ends, and what is under way. The
pool counts these references and drops a transport with the last of them (`Run.lends`). Whatever a
session does at a time comes to a few operations on the registry, with references taken or let go
(`Exchange`); so what holds for each of these operations holds for all steps of all sessions.
-/

namespace RemoteDevice.Server

open Wire List

variable {τ : Type}

/-! ## References that are counted -/

namespace Pool

/-- How often a transport was dropped. -/
def drops (n : Nat) (p : Pool τ) : Nat :=
  p.journal.count (.dropped n)

/-- These are all references, by the number of the transport: the pool counts them, and it has
dropped a transport, once, if it is made and has none. -/
structure Counts (refs : List Nat) (p : Pool τ) : Prop where
  references : ∀ n, p.references n = refs.count n
  drops : ∀ n, p.drops n = if n < p.members.length ∧ n ∉ refs then 1 else 0

/-- A transport that is not made has no references. -/
theorem references_of_le {n : Nat} {p : Pool τ} (h : p.members.length ≤ n) :
    p.references n = 0 := by
  simp [references, List.getElem?_eq_none h]

/-- A reference more of a transport that is made. -/
theorem references_share {n : Nat} {p : Pool τ} (hn : n < p.members.length) (k : Nat) :
    (p.share n).references k = p.references k + if n = k then 1 else 0 := by
  unfold references share
  rw [List.getElem?_modify]
  by_cases hk : n = k
  · subst hk
    simp [List.getElem?_eq_getElem hn]
  · simp [hk]

/-- A reference less, of a transport that has one. -/
theorem references_letGo (n k : Nat) (p : Pool τ) :
    (p.letGo n).references k = p.references k - if n = k then 1 else 0 := by
  cases hm : p.members[n]? with
  | none =>
    by_cases hk : n = k
    · subst hk
      simp [letGo, references, hm]
    · simp [letGo, hm, hk]
  | some m =>
    rcases List.getElem?_eq_some_iff.1 hm with ⟨hlt, rfl⟩
    have hmembers : (p.letGo n).members =
        p.members.set n { p.members[n] with references := p.members[n].references - 1 } := by
      simp only [letGo, hm]
      split <;> rfl
    unfold references
    rw [hmembers]
    by_cases hk : n = k
    · subst hk
      simp [hlt]
    · simp [List.getElem?_set_ne hk, hk]

/-- A transport is dropped when the reference that is let go was the only one. -/
theorem drops_letGo (n k : Nat) (p : Pool τ) :
    (p.letGo n).drops k = p.drops k + if n = k ∧ p.references n = 1 then 1 else 0 := by
  unfold drops
  rw [journal_letGo, List.count_append, Nat.add_comm]
  congr 1
  by_cases hone : p.references n = 1
  · rw [if_pos hone]
    by_cases hk : n = k
    · subst hk
      simp [hone]
    · simp [hk]
  · simp [hone]

/-- A transport that is made has one reference, and the others keep theirs. -/
theorem references_enlist (kind target : String) (t : τ) (p : Pool τ) (k : Nat) :
    (p.enlist kind target (.ok t)).2.references k =
      p.references k + if p.members.length = k then 1 else 0 := by
  have hmembers : (p.enlist kind target (.ok t)).2.members = p.members ++ [⟨t, 1⟩] := rfl
  unfold references
  rw [hmembers]
  rcases Nat.lt_trichotomy k p.members.length with hlt | rfl | hgt
  · simp [List.getElem?_append_left hlt, Nat.ne_of_gt hlt]
  · simp
  · have hpast : (p.members ++ [(⟨t, 1⟩ : Pooled τ)]).length ≤ k := by
      rw [List.length_append]
      exact hgt
    rw [List.getElem?_eq_none hpast, List.getElem?_eq_none (Nat.le_of_lt hgt)]
    simp [Nat.ne_of_lt hgt]

/-- Making a transport drops none, whatever it comes to. -/
theorem drops_enlist (kind target : String) (made : Except Transport.Error τ) (p : Pool τ)
    (k : Nat) : (p.enlist kind target made).2.drops k = p.drops k := by
  cases made <;> simp [drops, enlist, note]

namespace Counts

variable {refs refs' : List Nat} {p p' : Pool τ} {n : Nat}

theorem perm (hp : refs ~ refs') (h : p.Counts refs) : p.Counts refs' := by
  constructor
  · intro n
    rw [h.references, hp.count_eq]
  · intro n
    simp only [h.drops, hp.mem_iff]

/-- What is referred to has been made. -/
theorem lt_of_mem (h : p.Counts refs) (hn : n ∈ refs) : n < p.members.length := by
  apply Nat.lt_of_not_le
  intro hle
  have hcount := h.references n
  rw [references_of_le hle] at hcount
  exact List.count_eq_zero.1 hcount.symm hn

/-- A pool in which neither references nor drops have changed. -/
theorem keep (hsize : p'.members.length = p.members.length)
    (hreferences : ∀ n, p'.references n = p.references n) (hdrops : ∀ n, p'.drops n = p.drops n)
    (h : p.Counts refs) : p'.Counts refs := by
  constructor
  · intro n
    rw [hreferences, h.references]
  · intro n
    rw [hdrops, h.drops, hsize]

/-- Whoever is handed a transport that something refers to refers to it as well. -/
theorem share (hn : n ∈ refs) (h : p.Counts refs) : (p.share n).Counts (n :: refs) := by
  have hlt := h.lt_of_mem hn
  constructor
  · intro k
    rw [references_share hlt, h.references, List.count_cons]
    simp
  · intro k
    have hdrops : (p.share n).drops k = p.drops k := rfl
    have hsize : (p.share n).members.length = p.members.length := List.length_modify ..
    have hmem : k ∉ n :: refs ↔ k ∉ refs := by
      rw [List.mem_cons, not_or, and_iff_right_iff_imp]
      rintro hk rfl
      exact hk hn
    simp only [hdrops, h.drops, hsize, hmem]

/-- A reference that is no longer held; the transport is dropped if it was the last one. -/
theorem letGo (h : p.Counts (n :: refs)) : (p.letGo n).Counts refs := by
  have hlt : n < p.members.length := h.lt_of_mem List.mem_cons_self
  have hreferences : ∀ k, (p.letGo n).references k = refs.count k := by
    intro k
    rw [references_letGo, h.references, List.count_cons]
    simp
  refine ⟨hreferences, fun k => ?_⟩
  rw [drops_letGo, h.drops, h.references, length_letGo]
  by_cases hk : n = k
  · -- it is dropped now exactly if this was the last reference
    subst hk
    by_cases hmem : n ∈ refs
    · have hpos := List.count_pos_iff.2 hmem
      have hmore : List.count n refs ≠ 0 := by omega
      simp [hmem, hmore]
    · simp [hmem, hlt, List.count_eq_zero.2 hmem]
  · simp [hk, Ne.symm hk]

/-- Calls are no references. -/
theorem use {α : Type} (call : Call) (run : τ → Outcome α × τ) (h : p.Counts refs) :
    (p.use n call run).2.Counts refs := by
  unfold Pool.use
  split
  · exact h
  · next m hm =>
    rcases List.getElem?_eq_some_iff.1 hm with ⟨hlt, rfl⟩
    apply h.keep
    · simp
    · intro k
      by_cases hk : n = k
      · subst hk
        simp [Pool.references, hlt]
      · simp [Pool.references, List.getElem?_set_ne hk]
    · intro k
      simp [Pool.drops, note]

theorem drift (change : Nat → τ → τ) (h : p.Counts refs) : (p.drift change).Counts refs := by
  apply h.keep
  · simp [Pool.drift]
  · intro k
    simp only [Pool.references, Pool.drift, List.getElem?_mapIdx, Option.map_map]
    rfl
  · intro k
    rfl

/-- A transport that is made is referred to once. -/
theorem enlist {kind target : String} {made : Except Transport.Error τ}
    {result : Except Transport.Error Nat} (h : p.Counts refs)
    (he : p.enlist kind target made = (result, p')) :
    p'.Counts (result.toOption.toList ++ refs) := by
  obtain rfl : (p.enlist kind target made).2 = p' := congrArg Prod.snd he
  cases made with
  | error e =>
    obtain rfl : .error e = result := congrArg Prod.fst he
    apply Counts.keep (p := p)
    · rfl
    · exact fun _ => rfl
    · exact drops_enlist kind target (.error e) p
    · exact h
  | ok t =>
    obtain rfl : .ok p.members.length = result := congrArg Prod.fst he
    constructor
    · intro k
      rw [references_enlist, h.references]
      simp [Except.toOption, List.count_cons]
    · intro k
      have hnew : p.members.length ∉ refs := fun hmem => Nat.lt_irrefl _ (h.lt_of_mem hmem)
      have hsize : (p.enlist kind target (.ok t)).2.members.length = p.members.length + 1 :=
        List.length_append
      rw [drops_enlist, h.drops, hsize]
      rcases Nat.lt_trichotomy k p.members.length with hlt | rfl | hgt
      · simp [Except.toOption, hlt, Nat.ne_of_lt hlt, Nat.lt_succ_of_lt hlt]
      · simp [Except.toOption, hnew]
      · have hout : ¬ k < p.members.length + 1 := by omega
        simp [hout, Nat.not_lt_of_gt hgt]

end Counts

end Pool

/-! ## Devices -/

namespace Device

variable {catalog : Catalog τ} {d d' : Device} {p p' : Pool τ} {refs : List Nat}

/-- A device refers to the transport it has, also to one that was just made for it. -/
theorem counts_provide {result : Except Transport.Error Nat}
    (h : p.Counts (d.transport.toList ++ refs)) (hp : d.provide catalog p = (result, d', p')) :
    p'.Counts (d'.transport.toList ++ refs) := by
  unfold provide at hp
  split at hp
  · obtain ⟨-, rfl, rfl⟩ := by simpa using hp
    exact h
  · next hn =>
    rw [hn] at h
    dsimp only at hp
    split at hp
    · next he =>
      obtain ⟨-, rfl, rfl⟩ := by simpa using hp
      exact h.enlist he
    · next he =>
      obtain ⟨-, rfl, rfl⟩ := by simpa using hp
      rw [hn]
      exact h.enlist he

variable [Transport τ]

/-- Acquiring hands out one more reference if it succeeds. -/
theorem counts_acquire {result : Outcome Nat} (h : p.Counts (d.transport.toList ++ refs))
    (ha : d.acquire catalog p = (result, d', p')) :
    p'.Counts (result.toOption.toList ++ (d'.transport.toList ++ refs)) := by
  unfold acquire at ha
  split at ha
  · next hp =>
    obtain ⟨rfl, rfl, rfl⟩ := by simpa using ha
    exact counts_provide h hp
  · next n d₁ p₁ hp =>
    have hconnected : (p₁.connect n).2.Counts (d₁.transport.toList ++ refs) :=
      (counts_provide h hp).use .connect Transport.connect
    obtain ⟨-, -, -, -, -, hn, -⟩ := provide_cases hp
    split at ha
    · next hc =>
      obtain ⟨rfl, rfl, rfl⟩ := by simpa using ha
      rw [hc] at hconnected
      exact hconnected
    · next hc =>
      obtain ⟨rfl, rfl, rfl⟩ := by simpa using ha
      rw [hc] at hconnected
      exact hconnected.share (by simp [hn n rfl])

/-- Releasing lets go of the reference of the device if the device loses its transport. -/
theorem counts_release {destroy : Bool} {result : Outcome Unit}
    (h : p.Counts (d.transport.toList ++ refs)) (hr : d.release destroy p = (result, d', p')) :
    p'.Counts (d'.transport.toList ++ refs) := by
  have hdisconnect : ∀ result q, disconnect { d with opens := d.opens - 1 } p = (result, q) →
      q.Counts (d.transport.toList ++ refs) := by
    intro result q hx
    unfold disconnect at hx
    split at hx
    · obtain ⟨-, rfl⟩ := Prod.mk.inj hx
      exact h
    · next n _ =>
      obtain rfl : (p.disconnect n).2 = q := by rw [hx]
      exact h.use .disconnect Transport.disconnect
  unfold release at hr
  dsimp only at hr
  split at hr
  · obtain ⟨-, rfl, rfl⟩ := by simpa using hr
    exact h
  · split at hr
    · next hx =>
      obtain ⟨-, rfl, rfl⟩ := by simpa using hr
      exact hdisconnect _ _ hx
    · next x q _ hx =>
      obtain ⟨-, hd⟩ := Prod.mk.inj hr
      obtain ⟨rfl, rfl⟩ := Prod.mk.inj hd
      have hq := hdisconnect _ _ hx
      unfold discard
      cases hn : d.transport with
      | none => simpa [hn] using hq
      | some n =>
        rw [hn] at hq
        simpa [hn] using hq.letGo
    · next hx =>
      obtain ⟨-, rfl, rfl⟩ := by simpa using hr
      exact hdisconnect _ _ hx

end Device

/-! ## Registries -/

namespace Registry

/-- The transports that devices have. -/
def kept (r : Registry τ) : List Nat :=
  r.devices.flatMap (·.transport.toList)

/-- No two devices have the same name, and all references to transports are those of the devices and
those that are held elsewhere. -/
structure Lends (held : List Nat) (r : Registry τ) : Prop where
  distinct : (r.devices.map (·.name)).Nodup
  counts : r.pool.Counts (r.kept ++ held)

/-- A device among the others, none of which has its name, and one in its place. -/
theorem exists_kept {r : Registry τ} {name : String} {d : Device}
    (hdistinct : (r.devices.map (·.name)).Nodup) (hd : r.get? name = some d) :
    ∃ others, r.kept ~ d.transport.toList ++ others ∧ ∀ (p : Pool τ) (d' : Device),
      d'.config = d.config →
      ({ r with pool := p }.update d').kept ~ d'.transport.toList ++ others ∧
        ({ r with pool := p }.update d').devices.map Device.name = r.devices.map Device.name := by
  obtain ⟨front, back, hdevices⟩ := List.append_of_mem (List.mem_of_find?_eq_some hd)
  refine ⟨front.flatMap (·.transport.toList) ++ back.flatMap (·.transport.toList), ?_, ?_⟩
  · rw [kept, hdevices, List.flatMap_append, List.flatMap_cons]
    exact List.perm_append_comm_assoc _ _ _
  · intro p d' hconfig
    have hname : d'.name = d.name := by rw [Device.name, hconfig, Device.name]
    rw [hdevices, List.map_append, List.map_cons, List.perm_middle.nodup_iff, List.nodup_cons,
      List.mem_append, not_or] at hdistinct
    have hothers : ∀ ds : List Device, d.name ∉ ds.map (·.name) →
        ds.map (fun old => if old.name = d'.name then d' else old) = ds := by
      intro ds hds
      refine (List.map_congr_left ?_).trans (List.map_id ds)
      intro e he
      refine if_neg fun heq => ?_
      exact hds (hname ▸ heq ▸ List.mem_map_of_mem he)
    have hupdate : ({ r with pool := p }.update d').devices = front ++ d' :: back := by
      unfold update
      rw [hdevices, List.map_append, List.map_cons, hothers front hdistinct.1.1,
        hothers back hdistinct.1.2, if_pos hname.symm]
    constructor
    · rw [kept, hupdate, List.flatMap_append, List.flatMap_cons]
      exact List.perm_append_comm_assoc _ _ _
    · rw [hupdate, hdevices, List.map_append, List.map_append, List.map_cons, List.map_cons, hname]

namespace Lends

variable {r r' : Registry τ} {held held' : List Nat} {name : String} {n : Nat}

theorem perm (hp : held ~ held') (h : r.Lends held) : r.Lends held' :=
  ⟨h.distinct, h.counts.perm (hp.append_left _)⟩

/-- Since names are distinct, each transport of a device is found under the name of that device. -/
theorem mem_kept_iff (h : r.Lends held) : n ∈ r.kept ↔ ∃ x, r.transportOf x = some n := by
  unfold kept transportOf
  simp only [List.mem_flatMap, Option.mem_toList, Option.bind_eq_some_iff]
  constructor
  · rintro ⟨d, hd, hn⟩
    refine ⟨d.name, d, ?_, hn⟩
    -- no device before it has its name, so it is the one that is found
    obtain ⟨front, back, hdevices⟩ := List.append_of_mem hd
    have hdistinct := h.distinct
    rw [hdevices, List.map_append, List.map_cons, List.nodup_append] at hdistinct
    have hfront : front.find? (·.name = d.name) = none := by
      rw [List.find?_eq_none]
      intro e he heq
      exact hdistinct.2.2 _ (List.mem_map_of_mem he) _ List.mem_cons_self (of_decide_eq_true heq)
    rw [get?, hdevices, List.find?_append, hfront, Option.none_or]
    exact List.find?_cons_of_pos (decide_eq_true rfl)
  · rintro ⟨x, d, hd, hn⟩
    exact ⟨d, List.mem_of_find?_eq_some hd, hn⟩

/-- What a device has is not dropped. -/
theorem drops_of_transportOf {x : String} (h : r.Lends held) (hn : r.transportOf x = some n) :
    r.pool.drops n = 0 := by
  have hmem : n ∈ r.kept ++ held := List.mem_append_left _ (h.mem_kept_iff.2 ⟨x, hn⟩)
  rw [h.counts.drops, if_neg fun hout => hout.2 hmem]

/-- An operation on one device and on the pool, which takes care of the references of the device and
of those that are held elsewhere. -/
theorem change {d d' : Device} {p : Pool τ} (h : r.Lends held) (hd : r.get? name = some d)
    (hconfig : d'.config = d.config)
    (hp : ∀ others, r.pool.Counts (d.transport.toList ++ (others ++ held)) →
      p.Counts (d'.transport.toList ++ (others ++ held'))) :
    ({ r with pool := p }.update d').Lends held' := by
  obtain ⟨others, hkept, hafter⟩ := exists_kept h.distinct hd
  obtain ⟨hkept', hnames⟩ := hafter p d' hconfig
  constructor
  · rw [hnames]
    exact h.distinct
  · have hbefore := h.counts.perm (hkept.append_right held)
    rw [List.append_assoc] at hbefore
    refine (hp others hbefore).perm ?_
    rw [← List.append_assoc]
    exact (hkept'.append_right held').symm

/-- A claim changes nothing that a device refers to. -/
theorem claim {needed : Bool} (hc : r.claim? name = some (needed, r')) (h : r.Lends held) :
    r'.Lends held := by
  rcases Option.map_eq_some_iff.1 hc with ⟨⟨b, d'⟩, hd', heq⟩
  rcases Option.bind_eq_some_iff.1 hd' with ⟨d, hd, hclaim⟩
  obtain ⟨-, rfl⟩ := Prod.mk.inj heq
  have hsame : d'.config = d.config ∧ d'.transport = d.transport := by
    unfold Device.claim? at hclaim
    split at hclaim
    · obtain ⟨-, rfl⟩ := Prod.mk.inj (Option.some.inj hclaim)
      exact ⟨rfl, rfl⟩
    · split at hclaim
      · simp at hclaim
      · obtain ⟨-, rfl⟩ := Prod.mk.inj (Option.some.inj hclaim)
        exact ⟨rfl, rfl⟩
  exact h.change (p := r.pool) hd hsame.1 fun others hcounts => hsame.2.symm ▸ hcounts

theorem unclaim (claim : Bool) (h : r.Lends held) : (r.unclaim name claim).Lends held := by
  unfold Registry.unclaim
  cases claim with
  | false => exact h
  | true =>
    cases hd : r.get? name with
    | none => simpa [hd] using h
    | some d =>
      simp only [if_true]
      exact h.change (p := r.pool) hd rfl fun _ hcounts => hcounts

/-- A reference that was held elsewhere is let go. -/
theorem letGo (h : r.Lends (n :: held)) : (r.letGo n).Lends held :=
  ⟨h.distinct, (h.counts.perm List.perm_middle).letGo⟩

theorem use {α : Type} (call : Call) (run : τ → Outcome α × τ) (h : r.Lends held) :
    (r.use (·.use n call run)).2.Lends held :=
  ⟨h.distinct, h.counts.use call run⟩

variable [Transport τ]

/-- An acquisition that succeeds hands out one reference, which is held elsewhere from then on. -/
theorem acquire {result : Outcome Nat} (ha : r.acquire name = (result, r')) (h : r.Lends held) :
    r'.Lends (result.toOption.toList ++ held) := by
  cases hd : r.get? name with
  | none =>
    obtain ⟨rfl, rfl⟩ := by simpa [Registry.acquire, hd] using ha
    exact h
  | some d =>
    cases hacq : d.acquire r.catalog r.pool with | mk acquired found =>
    rcases found with ⟨d', p⟩
    obtain ⟨rfl, rfl⟩ := by simpa [Registry.acquire, hd, hacq] using ha
    refine h.change hd (Device.acquired_of_acquire hacq).config fun others hcounts => ?_
    refine (Device.counts_acquire hcounts hacq).perm ?_
    -- the new reference is held elsewhere, not by the device
    have hfront : acquired.toOption.toList ++ (d'.transport.toList ++ others) ~
        d'.transport.toList ++ others ++ acquired.toOption.toList := List.perm_append_comm
    simpa [List.append_assoc] using hfront.append_right held

/-- A release takes away no reference but that of the device itself. -/
theorem release {destroy : Bool} {result : Outcome Unit}
    (hr : r.release name destroy = (result, r')) (h : r.Lends held) : r'.Lends held := by
  cases hd : r.get? name with
  | none =>
    obtain ⟨-, rfl⟩ := by simpa [Registry.release, hd] using hr
    exact h
  | some d =>
    cases hrel : d.release destroy r.pool with | mk released found =>
    rcases found with ⟨d', p⟩
    obtain ⟨-, rfl⟩ := by simpa [Registry.release, hd, hrel] using hr
    exact h.change hd (Device.released_of_release hrel).config fun others hcounts =>
      Device.counts_release hcounts hrel

end Lends

/-- A device that is put takes the place of the one of its name, so names stay distinct. -/
theorem nodup_put (d : Device) {ds : List Device} (h : (ds.map (·.name)).Nodup) :
    ((put d ds).map (·.name)).Nodup := by
  unfold put
  rw [List.map_append, List.nodup_append]
  refine ⟨h.sublist (List.filter_sublist.map _), by simp, ?_⟩
  intro x hx y hy heq
  obtain ⟨e, he, rfl⟩ := List.mem_map.1 hx
  obtain rfl := List.mem_singleton.1 hy
  simpa [heq] using (List.mem_filter.1 he).2

/-- The devices of a registry have distinct names, whatever was configured. -/
theorem nodup_make (configs : List DeviceConfig) (catalog : Catalog τ) :
    ((make configs catalog).devices.map (·.name)).Nodup := by
  have hfold : ∀ ds : List Device, (ds.map (·.name)).Nodup →
      ((configs.foldl (fun ds config => put { config } ds) ds).map (·.name)).Nodup := by
    induction configs with
    | nil => exact fun _ hds => hds
    | cons c configs ih => exact fun _ hds => ih _ (nodup_put _ hds)
  exact hfold [] List.nodup_nil

/-- At the start nothing is made, and nothing is referred to. -/
theorem lends_make (configs : List DeviceConfig) (catalog : Catalog τ) :
    (make configs catalog).Lends [] := by
  refine ⟨nodup_make configs catalog, ?_⟩
  have hkept : (make configs catalog).kept = [] := by
    apply List.flatMap_eq_nil_iff.2
    intro d hd
    rw [eq_of_mem_make hd]
    rfl
  rw [hkept]
  constructor
  · intro n
    rfl
  · intro n
    simp [Pool.drops, make]

end Registry

/-! ## What a session does at a time -/

/-- The transport that an opening has come by. -/
def Stage.held : Stage Nat → List Nat
  | .done result => result.toOption.toList
  | _ => []

/-- The transports that what is under way refers to, besides the table. -/
def Task.held : Task → List Nat
  | .opening _ stage => stage.held
  | .leaving e _ => [e.transport]
  | _ => []

/-- The transports that the units of a session refer to, whether they are open or not. -/
def Session.transports (s : Session) : List Nat :=
  s.entries.map (·.transport)

/-- The transports that a session refers to, once for each reference. -/
def Worker.held (w : Worker) : List Nat :=
  w.session.transports ++ w.task.held

variable [Transport τ]

/-- What can become of a registry and of the references that are held, step by step. -/
inductive Exchange : Registry τ → List Nat → Registry τ → List Nat → Prop
  | rest {r : Registry τ} {held held' : List Nat} : held ~ held' → Exchange r held r held'
  | claim {r r' : Registry τ} {name : String} {needed : Bool} (held : List Nat) :
    r.claim? name = some (needed, r') → Exchange r held r' held
  | unclaim (r : Registry τ) (name : String) (claim : Bool) (held : List Nat) :
    Exchange r held (r.unclaim name claim) held
  | use {α : Type} (r : Registry τ) (n : Nat) (call : Call) {run : τ → Outcome α × τ}
      (held : List Nat) :
    (∀ t, (run t).2 = call.after t) → Exchange r held (r.use (·.use n call run)).2 held
  | acquire {r r' : Registry τ} {name : String} {result : Outcome Nat} (held : List Nat) :
    r.acquire name = (result, r') → Exchange r held r' (result.toOption.toList ++ held)
  | release {r r' : Registry τ} {name : String} {destroy : Bool} {result : Outcome Unit}
      (held : List Nat) :
    r.release name destroy = (result, r') → Exchange r held r' held
  | letGo (r : Registry τ) (n : Nat) (held : List Nat) : Exchange r (n :: held) (r.letGo n) held
  | trans {r r₁ r' : Registry τ} {held held₁ held' : List Nat} :
    Exchange r held r₁ held₁ → Exchange r₁ held₁ r' held' → Exchange r held r' held'

namespace Exchange

variable {r r' : Registry τ} {held held' : List Nat}

/-- Whatever sessions do, all references stay accounted for. -/
theorem lends (he : Exchange r held r' held') (h : r.Lends held) : r'.Lends held' := by
  induction he with
  | rest hp => exact h.perm hp
  | claim held hc => exact h.claim hc
  | unclaim r name claim held => exact h.unclaim claim
  | use r n call held _ => exact h.use call _
  | acquire held ha => exact h.acquire ha
  | release held hr => exact h.release hr
  | letGo r n held => exact h.letGo
  | trans _ _ ih ih' => exact ih' (ih h)

/-- The journal says what happened to the transports. -/
theorem records (he : Exchange r held r' held') : ∃ added, r.pool.Records added r'.pool := by
  induction he with
  | @rest r => exact ⟨[], .refl r.pool⟩
  | @claim r r' name needed held hc =>
    rcases Registry.claim?_eq_some hc with ⟨-, -, -, -, hpool, -⟩
    exact ⟨[], hpool.symm ▸ .refl r.pool⟩
  | unclaim r name claim held => exact ⟨[], (r.pool_unclaim name claim).symm ▸ .refl r.pool⟩
  | use r n call held hrun => exact Pool.exists_records_use n r.pool hrun
  | @acquire r r' name result held ha =>
    rcases Registry.acquire_cases ha with ⟨-, -, rfl⟩ | ⟨d, d', -, hacquired, -⟩
    · exact ⟨[], .refl r'.pool⟩
    · exact hacquired.records
  | @release r r' name destroy result held hr =>
    rcases Registry.release_cases hr with ⟨-, rfl⟩ | ⟨d, d', -, hreleased, -⟩
    · exact ⟨[], .refl r'.pool⟩
    · exact hreleased.records
  | letGo r n held =>
    obtain ⟨added, hadded, -⟩ := Pool.records_letGo n r.pool
    exact ⟨added, hadded⟩
  | trans _ _ ih ih' =>
    obtain ⟨older, holder⟩ := ih
    obtain ⟨newer, hnewer⟩ := ih'
    exact ⟨newer ++ older, holder.trans hnewer⟩

end Exchange

/-- A unit put into the table: the table refers to its transport, and what stood there is handed
out. -/
theorem Session.transports_bind (s : Session) (n : Nat) (e : Entry) :
    s.transports ++ [e.transport] ~ (s.bind n e).1.toList ++ (s.bind n e).2.transports := by
  unfold bind
  split
  · next old hold =>
    rcases exists_set_eq_append hold with ⟨front, back, heq, hset⟩
    dsimp only [transports]
    rw [hset e, heq, List.map_append, List.map_cons, List.map_append, List.map_cons,
      List.append_assoc, List.cons_append]
    refine List.perm_middle.trans (.cons _ (.append_left _ ?_))
    exact List.perm_append_singleton _ _
  · simp [transports]

/-- A unit that is marked closed refers to its transport still. -/
theorem Session.transports_markClosed (s : Session) (unit : UInt8) :
    (s.markClosed unit).transports = s.transports := by
  apply List.ext_getElem?
  intro k
  simp only [transports, markClosed, List.getElem?_map, List.getElem?_modify]
  cases s.entries[k]? with
  | none => rfl
  | some e =>
    by_cases hk : unit.toNat = k <;> simp [hk]

namespace Worker

variable {w w' : Worker} {r r' : Registry τ} {notes : List Note}

/-- What an idle session does at once about a request. -/
theorem exchange_of_request {m : Message} (rest : List Nat)
    (h : w.request m r = some (notes, w', r')) :
    Exchange r (w.held ++ rest) r' (w'.held ++ rest) := by
  obtain ⟨htask, htakes⟩ := takes_of_request h
  rcases w with ⟨session, task⟩
  obtain rfl : task = .idle := htask
  cases htakes with
  | refused _ => exact .rest (.refl _)
  | access hcalls =>
    cases hcalls with
    | @called _ e call _ _ _ _ _ _ _ hrun huse =>
      have hcalled := Exchange.use r e.transport call (held ⟨session, .idle⟩ ++ rest) hrun
      rwa [huse] at hcalled
  | opening _ _ _ hclaim => exact .claim _ hclaim
  | closing _ _ =>
    refine .rest (.of_eq ?_)
    simp only [held, Task.held, Session.transports_markClosed]

/-- The end of an opening: the reference goes into the table, and what stood there is let go. -/
theorem exchange_of_finishOpen {session session' : Session} {o : Session.Opening}
    {result : Outcome Nat} {reply : Message} (rest : List Nat)
    (h : session.finishOpen o result r = (reply, session', r')) :
    Exchange r (held ⟨session, .opening o (.done result)⟩ ++ rest) r'
      (held ⟨session', .idle⟩ ++ rest) := by
  unfold Session.finishOpen at h
  split at h
  · obtain ⟨-, rfl, rfl⟩ := by simpa using h
    exact .unclaim r o.device o.claim _
  · next t =>
    have hbind := session.transports_bind o.number ⟨o.device, t, o.claim, true⟩
    unfold Session.enter at h
    cases hb : session.bind o.number ⟨o.device, t, o.claim, true⟩ with | mk old session₁ =>
    rw [hb] at h hbind
    have hheld : held ⟨session, .opening o (.done (.ok t))⟩ ++ rest ~
        old.toList ++ (held ⟨session₁, .idle⟩ ++ rest) := by
      simpa [held, Task.held, Stage.held, Except.toOption] using hbind.append_right rest
    cases old with
    | none =>
      obtain ⟨-, rfl, rfl⟩ := by simpa using h
      exact .rest hheld
    | some k =>
      obtain ⟨-, rfl, rfl⟩ := by simpa using h
      exact (Exchange.rest hheld).trans (.letGo r k _)

/-- The end of a unit: its claim is given back, and its transport is let go. -/
theorem exchange_of_giveBack (e : Entry) (r : Registry τ) (held : List Nat) :
    Exchange r (e.transport :: held) (Session.giveBack e r) held :=
  (Exchange.unclaim r e.device e.claim _).trans (.letGo _ e.transport held)

/-- What a session does next. -/
theorem exchange_of_advance (rest : List Nat) (h : w.advance r = some (notes, w', r')) :
    Exchange r (w.held ++ rest) r' (w'.held ++ rest) := by
  cases advances_of_advance h with
  | acquireStarts => exact .rest (.refl _)
  | @acquireEnds session _ result _ hacq =>
    refine (Exchange.acquire _ hacq).trans (.rest ?_)
    -- what was acquired is under way, beside the table
    have hfront : result.toOption.toList ++ session.transports ~
        session.transports ++ result.toOption.toList := List.perm_append_comm
    simpa [held, Task.held, Stage.held] using hfront.append_right rest
  | opened hfin => exact exchange_of_finishOpen rest hfin
  | closeStarts => exact .rest (.refl _)
  | closeEnds hrel => exact .release _ hrel
  | @closed _ unit e result _ _ hfin =>
    obtain rfl : r.unclaim e.device e.claim = r' := by
      rw [← Session.finishClose_snd unit e result, hfin]
    exact .unclaim r e.device e.claim _
  | ended => exact .rest (.refl _)
  | @leaves e entries _ =>
    refine .rest ?_
    have hlast : e.transport :: Session.transports ⟨entries⟩ ~
        Session.transports ⟨entries⟩ ++ [e.transport] :=
      (List.perm_append_singleton _ _).symm
    simpa [held, Task.held, Session.transports] using hlast.append_right rest
  | @forgets e _ _ => exact .letGo r e.transport _
  | leaveStarts => exact .rest (.refl _)
  | leaveEnds hrel => exact .release _ hrel
  | @left session e result =>
    have hfront : held ⟨session, .leaving e (.done result)⟩ ++ rest ~
        e.transport :: (held ⟨session, .ending⟩ ++ rest) := by simp [held, Task.held]
    exact (Exchange.rest hfront).trans (exchange_of_giveBack e r _)

end Worker

/-! ## All steps -/

/-- What a step does to the transports besides calling them. -/
def Act.change : Act τ → Nat → τ → τ
  | .outside change _ => change
  | _ => fun _ t => t

namespace System

variable {s s' : System τ} {i : Nat} {w : Worker} {a : Act τ} {trace notes : Trace}

omit [Transport τ] in
/-- The transports that all sessions refer to. -/
def held (s : System τ) : List Nat :=
  s.workers.flatMap Worker.held

omit [Transport τ] in
/-- The transports that the sessions other than one refer to. -/
def heldBesides (i : Nat) (s : System τ) : List Nat :=
  (s.workers.eraseIdx i).flatMap Worker.held

omit [Transport τ] in
/-- One session may be in any state, next to the others. -/
theorem held_set_perm (hi : i < s.workers.length) (r : Registry τ) (w' : Worker) :
    held ⟨r, s.workers.set i w'⟩ ~ w'.held ++ s.heldBesides i :=
  (List.set_perm_cons_eraseIdx hi w').flatMap_right Worker.held

omit [Transport τ] in
/-- The references of all sessions are those of one and of the others. -/
theorem held_perm (hw : s.workers[i]? = some w) : s.held ~ w.held ++ s.heldBesides i := by
  have hset := held_set_perm (List.getElem?_eq_some_iff.1 hw).1 s.registry w
  rwa [set_self_of_getElem? hw] at hset

/-- A piece of the work of one session is an exchange of the whole system. -/
theorem exchange_of_onWorker
    {piece : Worker → Registry τ → Option (List Note × Worker × Registry τ)}
    (hpiece : ∀ w w' notes r' rest, piece w s.registry = some (notes, w', r') →
      Exchange s.registry (w.held ++ rest) r' (w'.held ++ rest))
    (h : s.onWorker i piece = some (trace, s')) :
    Exchange s.registry s.held s'.registry s'.held := by
  unfold onWorker at h
  split at h
  · simp at h
  · next w hw =>
    rcases Option.map_eq_some_iff.1 h with ⟨⟨notes, w', r'⟩, hp, heq⟩
    rcases Prod.mk.inj heq with ⟨rfl, rfl⟩
    have hi : i < s.workers.length := (List.getElem?_eq_some_iff.1 hw).1
    have hmove := hpiece w w' notes r' (s.heldBesides i) hp
    exact ((Exchange.rest (held_perm hw)).trans hmove).trans (.rest (held_set_perm hi r' w').symm)

/-- Every step is an exchange, unless it comes from outside. -/
theorem step_exchange (ha : ∀ change catalog, a ≠ .outside change catalog)
    (h : s.step a = some (notes, s')) : Exchange s.registry s.held s'.registry s'.held := by
  cases a with
  | connect =>
    obtain ⟨-, rfl⟩ := by simpa [step] using h
    refine .rest (.of_eq ?_)
    simp [held, Worker.held, Session.transports, Task.held]
  | request i m =>
    exact exchange_of_onWorker (fun _ _ _ _ rest hp => Worker.exchange_of_request rest hp) h
  | disconnect i =>
    refine exchange_of_onWorker (fun w w' notes r' rest hp => ?_) h
    rcases w with ⟨session, task⟩
    cases task with
    | idle =>
      obtain ⟨-, rfl, rfl⟩ := by simpa [Worker.disconnect] using hp
      exact .rest (.refl _)
    | _ => simp [Worker.disconnect] at hp
  | advance i =>
    exact exchange_of_onWorker (fun _ _ _ _ rest hp => Worker.exchange_of_advance rest hp) h
  | outside change catalog => exact absurd rfl (ha change catalog)

/-- What is noted in a step is what happens to the transports in it, besides what they do by
themselves. -/
theorem step_records (h : s.step a = some (notes, s')) :
    ∃ added, s'.registry.pool.journal = added ++ s.registry.pool.journal ∧
      ∀ n t, s.registry.pool.get? n = some t →
        s'.registry.pool.get? n = some (a.change n (Pool.replay n t added)) := by
  cases a with
  | outside change catalog =>
    obtain ⟨-, rfl⟩ := by simpa [step] using h
    refine ⟨[], rfl, fun n t ht => ?_⟩
    obtain ⟨m, hm, rfl⟩ := Option.map_eq_some_iff.1 ht
    simp [Pool.get?, Pool.drift, hm, Pool.replay, Act.change]
  | _ =>
    obtain ⟨added, hadded⟩ := (step_exchange (by simp) h).records
    exact ⟨added, hadded.journal, hadded.states⟩

/-- No transport loses its number in a run. -/
theorem Run.lt_of_lt {s₀ : System τ} {n : Nat} (hrun : Run s₀ trace s)
    (hn : n < s₀.registry.pool.members.length) : n < s.registry.pool.members.length := by
  induction hrun with
  | rest => exact hn
  | step _ hstep ih =>
    obtain ⟨t, ht⟩ := Pool.exists_get? ih
    obtain ⟨added, -, hstates⟩ := step_records hstep
    exact Pool.lt_of_get? (hstates n t ht)

/-- In every run the references to transports are those of the devices and of the sessions, and a
transport is dropped once there are none. -/
theorem Run.lends {configs : List DeviceConfig} {catalog : Catalog τ}
    (hrun : Run (start (.make configs catalog)) trace s) : s.registry.Lends s.held := by
  induction hrun with
  | rest => exact Registry.lends_make configs catalog
  | @step trace s a notes s' _ hstep ih =>
    cases a with
    | outside change catalog =>
      obtain ⟨-, rfl⟩ := by simpa [step] using hstep
      exact ⟨ih.distinct, ih.counts.drift change⟩
    | _ => exact (step_exchange (by simp) hstep).lends ih

end System

end RemoteDevice.Server
