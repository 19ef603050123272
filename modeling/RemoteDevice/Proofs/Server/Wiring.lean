import RemoteDevice.Proofs.Server.Ledger

/-!
# Proofs.Server.Wiring — the transports of devices

Every device has a transport of its own or none, and whoever counts as an opening of a device refers
to the transport the device has. Acquiring gives a device a transport only if it has none, and
releasing takes it away only from the last opening.
-/

namespace RemoteDevice.Server

open List

variable {τ : Type}

/-! ## The transport of a device -/

/-- The number of the transport of the device of this name. -/
def Registry.transportOf (r : Registry τ) (name : String) : Option Nat :=
  (r.get? name).bind (·.transport)

theorem Registry.transportOf_eq {r : Registry τ} {name : String} {d : Device}
    (h : r.get? name = some d) : r.transportOf name = d.transport := by
  simp [transportOf, h]

theorem Registry.transportOf_congr {r r' : Registry τ} {name : String}
    (h : r'.get? name = r.get? name) : r'.transportOf name = r.transportOf name := by
  rw [transportOf, transportOf, h]

/-- At first no device has a transport. -/
theorem Registry.transportOf_make (configs : List DeviceConfig) (catalog : Catalog τ)
    (name : String) : (Registry.make configs catalog).transportOf name = none := by
  cases hd : (Registry.make configs catalog).get? name with
  | none => simp [transportOf, hd]
  | some d => rw [transportOf_eq hd, Registry.get?_make hd]

/-- A claim concerns no transport. -/
theorem Registry.transportOf_claim {r r' : Registry τ} {name : String} {claim : Bool}
    (h : r.claim? name = some (claim, r')) (x : String) : r'.transportOf x = r.transportOf x := by
  rcases Registry.claim?_eq_some h with ⟨d, hd, -, -, -, hget⟩
  unfold transportOf
  rw [hget]
  split
  · next hx => simp [hx, hd]
  · rfl

/-- Nor does giving it back. -/
theorem Registry.transportOf_unclaim (r : Registry τ) (name : String) (held : Bool) (x : String) :
    (r.unclaim name held).transportOf x = r.transportOf x := by
  unfold transportOf
  rw [get?_unclaim]
  cases r.get? x with
  | none => rfl
  | some d =>
    simp only [Option.map_some, Option.bind_some]
    split <;> rfl

/-- Acquiring changes the transport of the device only if there was none. -/
theorem Registry.transportOf_acquire [Transport τ] {r r' : Registry τ} {name : String}
    {result : Outcome Nat} (h : r.acquire name = (result, r')) (x : String) :
    r'.transportOf x = r.transportOf x ∨ x = name ∧ r.transportOf x = none := by
  rcases acquire_cases h with ⟨-, -, rfl⟩ | ⟨d, d', hd, hacquired, hget⟩
  · exact Or.inl rfl
  · by_cases hx : x = name
    · subst hx
      rw [transportOf_eq hd, transportOf_eq (by rw [hget, if_pos rfl])]
      exact hacquired.transport.imp_right fun hnew => ⟨rfl, hnew.1⟩
    · exact Or.inl (transportOf_congr (by rw [hget, if_neg hx]))

/-- Releasing takes its transport away from the device only with the last opening, if the transport
is to be dropped and disconnecting did not crash. -/
theorem Registry.transportOf_release_eq [Transport τ] {r r' : Registry τ} {name : String}
    {destroy : Bool} {result : Outcome Unit} (h : r.release name destroy = (result, r'))
    (x : String) : r'.transportOf x =
      if x = name ∧ r.opensOf x ≤ 1 ∧ destroy = true ∧ crashed result = false then none
      else r.transportOf x := by
  unfold release at h
  split at h
  · -- there is no such device
    obtain ⟨rfl, rfl⟩ := Prod.mk.inj h
    rw [if_neg (by simp [crashed])]
  · next d hd =>
    cases hrel : d.release destroy r.pool with | mk released found =>
    rcases found with ⟨d', p⟩
    rw [hrel] at h
    obtain ⟨rfl, rfl⟩ := Prod.mk.inj h
    have hd' := Device.eq_of_release hrel
    have hconfig : d'.config = d.config := by rw [hd']
    have hget := get?_update_of_get? (r := { r with pool := p }) d' hd hconfig x
    by_cases hx : x = name
    · subst hx
      rw [transportOf_eq (hget.trans (if_pos rfl)), transportOf_eq hd, hd']
      simp [opensOf, hd]
    · have hnot : ¬ (x = name ∧ r.opensOf x ≤ 1 ∧ destroy = true ∧ crashed released = false) :=
        fun hall => hx hall.1
      rw [if_neg hnot]
      exact transportOf_congr (hget.trans (if_neg hx))

/-- Releasing changes the transport of the device only if it was the last opening. -/
theorem Registry.transportOf_release [Transport τ] {r r' : Registry τ} {name : String}
    {destroy : Bool} {result : Outcome Unit} (h : r.release name destroy = (result, r'))
    (x : String) : r'.transportOf x = r.transportOf x ∨ x = name ∧ r.opensOf x ≤ 1 := by
  rw [transportOf_release_eq h]
  split
  · next hlast => exact Or.inr ⟨hlast.1, hlast.2.1⟩
  · exact Or.inl rfl

/-- Devices have transports of their own, and who counts as an opening of a device refers to the
transport it has. -/
structure Wired (r : Registry τ) (stakes : List Stake) : Prop where
  bound : ∀ x n, r.transportOf x = some n → n < r.pool.members.length
  apart : ∀ x y n, r.transportOf x = some n → r.transportOf y = some n → x = y
  same : ∀ st ∈ stakes, ∀ t, st.phase.transport? = some t → r.transportOf st.device = some t

namespace Wired

variable {r r' : Registry τ} {stakes stakes' : List Stake}

/-- Nothing is wired at first. -/
theorem make (configs : List DeviceConfig) (catalog : Catalog τ) :
    Wired (Registry.make configs catalog) [] := by
  constructor
  · intro x n hx
    simp [Registry.transportOf_make] at hx
  · intro x y n hx
    simp [Registry.transportOf_make] at hx
  · simp

theorem perm (hp : stakes ~ stakes') (h : Wired r stakes) : Wired r stakes' := by
  refine ⟨h.bound, h.apart, ?_⟩
  intro st hst
  exact h.same st (hp.mem_iff.2 hst)

/-- A stake more, which refers to the transport of its device if it counts as an opening. -/
theorem cons {i : Nat} {name : String} {claim : Bool} {phase : Phase}
    (hphase : ∀ t, phase.transport? = some t → r.transportOf name = some t) (h : Wired r stakes) :
    Wired r (⟨i, name, claim, phase⟩ :: stakes) := by
  refine ⟨h.bound, h.apart, ?_⟩
  intro st hst t ht
  rcases List.mem_cons.1 hst with rfl | hst
  · exact hphase t ht
  · exact h.same st hst t ht

theorem tail {st : Stake} (h : Wired r (st :: stakes)) : Wired r stakes :=
  ⟨h.bound, h.apart, fun st hst => h.same st (List.mem_cons_of_mem _ hst)⟩

/-- The devices alone, whoever has a stake in them. -/
theorem alone (h : Wired r stakes) : Wired r [] :=
  ⟨h.bound, h.apart, by simp⟩

/-- A stake that a device counts refers to the transport of that device. -/
theorem of_counts {name : String} {st : Stake} (hst : st ∈ stakes)
    (hcounts : st.counts name = true) (h : Wired r stakes) :
    ∃ t, st.phase.transport? = some t ∧ r.transportOf name = some t := by
  rcases Bool.and_eq_true_iff.1 hcounts with ⟨hin, hphase⟩
  rcases Option.isSome_iff_exists.1 hphase with ⟨t, ht⟩
  have hdevice : st.device = name := by simpa [Stake.isIn] using hin
  exact ⟨t, ht, hdevice ▸ h.same st hst t ht⟩

/-- The devices keep their transports. -/
theorem keep (hsize : r.pool.members.length ≤ r'.pool.members.length)
    (htransport : ∀ x, r'.transportOf x = r.transportOf x) (h : Wired r stakes) :
    Wired r' stakes := by
  constructor
  · intro x n hx
    exact Nat.lt_of_lt_of_le (h.bound x n (htransport x ▸ hx)) hsize
  · intro x y n hx hy
    exact h.apart x y n (htransport x ▸ hx) (htransport y ▸ hy)
  · intro st hst t ht
    rw [htransport]
    exact h.same st hst t ht

/-- A device without a transport gets a new one. -/
theorem equip {name : String} (hnone : r.transportOf name = none)
    (hself : r'.transportOf name = some r.pool.members.length)
    (hsize : r.pool.members.length < r'.pool.members.length)
    (hothers : ∀ x, x ≠ name → r'.transportOf x = r.transportOf x) (h : Wired r stakes) :
    Wired r' stakes := by
  -- no other device can have the new number, which was out of bounds
  have hnew : ∀ x, x ≠ name → r'.transportOf x ≠ some r.pool.members.length := by
    intro x hx hsome
    have hlt := h.bound x _ (hothers x hx ▸ hsome)
    omega
  constructor
  · intro x n hx
    by_cases hname : x = name
    · rw [hname, hself] at hx
      exact Option.some.inj hx ▸ hsize
    · exact Nat.lt_trans (h.bound x n (hothers x hname ▸ hx)) hsize
  · intro x y n hx hy
    by_cases hxn : x = name
    · by_cases hyn : y = name
      · rw [hxn, hyn]
      · rw [hxn, hself] at hx
        exact absurd (hy.trans hx.symm) (hnew y hyn)
    · by_cases hyn : y = name
      · rw [hyn, hself] at hy
        exact absurd (hx.trans hy.symm) (hnew x hxn)
      · exact h.apart x y n (hothers x hxn ▸ hx) (hothers y hyn ▸ hy)
  · -- nobody counts as an opening of the device, as it had no transport to refer to
    intro st hst t ht
    have hold := h.same st hst t ht
    have hname : st.device ≠ name := by
      intro heq
      simp [heq, hnone] at hold
    rw [hothers _ hname]
    exact hold

/-- A device that nobody has open may lose its transport. -/
theorem discard {name : String} (hself : r'.transportOf name = none)
    (hsize : r.pool.members.length ≤ r'.pool.members.length)
    (hothers : ∀ x, x ≠ name → r'.transportOf x = r.transportOf x)
    (hunused : stakes.countP (Stake.counts name) = 0) (h : Wired r stakes) : Wired r' stakes := by
  have hsome : ∀ x n, r'.transportOf x = some n → r.transportOf x = some n := by
    intro x n hx
    by_cases hname : x = name
    · simp [hname, hself] at hx
    · exact hothers x hname ▸ hx
  constructor
  · intro x n hx
    exact Nat.lt_of_lt_of_le (h.bound x n (hsome x n hx)) hsize
  · intro x y n hx hy
    exact h.apart x y n (hsome x n hx) (hsome y n hy)
  · -- whoever refers to a transport is counted, and so is in another device
    intro st hst t ht
    have hname : st.device ≠ name := by
      intro heq
      have hcounts := List.countP_eq_zero.1 hunused st hst
      simp [Stake.counts, Stake.isIn, heq, ht] at hcounts
    rw [hothers _ hname]
    exact h.same st hst t ht

variable [Transport τ] {i : Nat} {name : String} {claim : Bool} {rest : List Stake}

/-- The stake of an acquisition that succeeded refers to the transport the device has now. -/
theorem acquire {result : Outcome Nat} (hacq : r.acquire name = (result, r'))
    (h : Wired r (⟨i, name, claim, .acquiring⟩ :: rest)) :
    Wired r' (⟨i, name, claim, (Stage.done result).taking⟩ :: rest) := by
  rcases Registry.acquire_cases hacq with ⟨hnone, rfl, rfl⟩ | ⟨d, d', hd, hacquired, hget⟩
  · -- there is no such device, which nothing can have come to hold
    exact h.tail.cons (by simp [Stage.taking, Phase.transport?])
  · have hold : r.transportOf name = d.transport := Registry.transportOf_eq hd
    have hself : r'.transportOf name = d'.transport :=
      Registry.transportOf_eq (by rw [hget, if_pos rfl])
    have hothers : ∀ x, x ≠ name → r'.transportOf x = r.transportOf x :=
      fun x hx => Registry.transportOf_congr (by rw [hget, if_neg hx])
    have hrest : Wired r' rest := by
      rcases hacquired.transport with hkept | ⟨hwas, hnew, hsize⟩
      · apply h.tail.keep hacquired.quiet.size_le
        intro x
        by_cases hx : x = name
        · rw [hx, hself, hold, hkept]
        · exact hothers x hx
      · exact h.tail.equip (hold.trans hwas) (hself.trans hnew) hsize hothers
    -- the stake refers to the transport that was acquired, if any was
    apply hrest.cons
    intro t ht
    cases result with
    | error f => simp [Stage.taking, Phase.transport?] at ht
    | ok n =>
      rcases Option.some.inj ht with rfl
      rw [hself]
      exact hacquired.result n rfl

/-- Releasing a device takes its transport away only with the last opening, when nobody else counts
as one. -/
theorem release_unused {destroy : Bool} {result : Outcome Unit} {stakes : List Stake}
    (hrel : r.release name destroy = (result, r'))
    (hlast : r.opensOf name ≤ 1 → stakes.countP (Stake.counts name) = 0) (h : Wired r stakes) :
    Wired r' stakes := by
  rcases Registry.release_cases hrel with ⟨hnone, rfl⟩ | ⟨d, d', hd, hreleased, hget⟩
  · exact h
  · have hold : r.transportOf name = d.transport := Registry.transportOf_eq hd
    have hself : r'.transportOf name = d'.transport :=
      Registry.transportOf_eq (by rw [hget, if_pos rfl])
    have hothers : ∀ x, x ≠ name → r'.transportOf x = r.transportOf x :=
      fun x hx => Registry.transportOf_congr (by rw [hget, if_neg hx])
    by_cases hkept : d'.transport = d.transport
    · apply h.keep hreleased.size_le
      intro x
      by_cases hx : x = name
      · rw [hx, hself, hold, hkept]
      · exact hothers x hx
    · -- it lost its transport, so this was the last opening and no stake counts any more
      have hnone := hreleased.transport.resolve_left hkept
      have hopens : r.opensOf name ≤ 1 := by
        have hlt : ¬ 1 < d.opens := fun hlt => hkept (hreleased.kept hlt).1
        simpa [Registry.opensOf, hd] using hlt
      exact h.discard (hself.trans hnone) hreleased.size_le hothers (hlast hopens)

/-- Releasing a device that counts the openings there are: it loses its transport only with the last
of them. -/
theorem release {destroy : Bool} {t : Nat} {result : Outcome Unit}
    (hrel : r.release name destroy = (result, r'))
    (hopens : r.opensOf name = rest.countP (Stake.counts name) + 1)
    (h : Wired r (⟨i, name, claim, .releasing t⟩ :: rest)) :
    Wired r' (⟨i, name, claim, .outside⟩ :: rest) := by
  have hrest : Wired r' rest := by
    apply h.tail.release_unused hrel
    intro hle
    omega
  exact hrest.cons (by simp [Phase.transport?])

end Wired

end RemoteDevice.Server
