import RemoteDevice.Proofs.Server.Backing
import RemoteDevice.Server

/-!
# Proofs.Server.Elsewhere — what others do on a server

While one connection uses a device, others come and go and use whatever else there is. What they do
leaves the device alone, and the connection that uses it.
-/

namespace RemoteDevice.Server

open Wire

variable {τ : Type} {x : String} {mine : Option Nat}

/-- A step of the server that is none of the connection `mine`: other clients come, send whatever
bytes they like, as long as these do not complete a request to open the device of this name, and go;
and other transports change by themselves. -/
inductive Elsewhere [Transport τ] (x : String) (mine : Option Nat) (s : Server τ) :
    Server τ → Prop
  | accept : Elsewhere x mine s s.accept.2
  | receive {k : Nat} {data : Bytes} : mine ≠ some k →
    (∀ c, s.connections[k]? = some c →
      ∀ m ∈ (Framing.drain (c.buffer ++ data)).1, ¬ Opens x m) →
    Elsewhere x mine s (s.receive k data).2
  | finish {k : Nat} : mine ≠ some k → Elsewhere x mine s (s.finish k)
  | drift {change : Nat → τ → τ} :
    (∀ n t, s.registry.transportOf x = some n → change n t = t) →
    Elsewhere x mine s { s with registry :=
      { s.registry with pool := s.registry.pool.drift change } }

/-- Apart from connection `mine`, no connection has a unit of the device. -/
def Undisturbed (x : String) (mine : Option Nat) (s : Server τ) : Prop :=
  ∀ k c, s.connections[k]? = some c → mine ≠ some k → c.session.Apart x s.registry

variable {s s' : Server τ}

/-- One connection has changed, and left the device alone. -/
theorem Undisturbed.set {r : Registry τ} {k : Nat} {c : Connection}
    (h : s.Undisturbed x mine) (hl : s.registry.Leaves x r) (hc : c.session.Apart x r) :
    Server.Undisturbed x mine ⟨r, s.connections.set k c⟩ := by
  intro j c' hj hmine
  by_cases hk : k = j
  · subst hk
    obtain rfl : c' = c := by
      have hlt : k < s.connections.length := by
        simpa using (List.getElem?_eq_some_iff.1 hj).1
      simpa [hlt] using hj.symm
    exact hc
  · have hold : s.connections[j]? = some c' := by
      simpa [List.getElem?_set_ne hk] using hj
    exact (h j c' hold hmine).leaves hl

theorem Undisturbed.grows {r : Registry τ} (h : s.Undisturbed x mine)
    (hg : s.registry.Grows x r) : Server.Undisturbed x mine ⟨r, s.connections⟩ := by
  intro k c hk hmine
  exact (h k c hk hmine).grows hg

/-- The connection that has the device may change. -/
theorem Undisturbed.set_mine {k : Nat} (h : s.Undisturbed x (some k)) (c : Connection) :
    Server.Undisturbed x (some k) ⟨s.registry, s.connections.set k c⟩ := by
  intro j c' hj hmine
  have hne : k ≠ j := fun heq => hmine (congrArg some heq)
  have hold : s.connections[j]? = some c' := by
    simpa [List.getElem?_set_ne hne] using hj
  exact h j c' hold hmine

/-- One more connection, which has nothing of the device. -/
theorem Undisturbed.append {c : Connection} (h : s.Undisturbed x mine)
    (hc : c.session.Apart x s.registry) :
    Server.Undisturbed x mine ⟨s.registry, s.connections ++ [c]⟩ := by
  intro k c' hk hmine
  have hk' : (s.connections ++ [c])[k]? = some c' := hk
  by_cases hlt : k < s.connections.length
  · rw [List.getElem?_append_left hlt] at hk'
    exact h k c' hk' hmine
  · rw [List.getElem?_append_right (Nat.le_of_not_lt hlt)] at hk'
    rcases List.mem_singleton.1 (List.mem_of_getElem? hk') with rfl
    exact hc

/-- One more connection, which is to have the device. -/
theorem Undisturbed.append_mine (h : s.Undisturbed x none) (c : Connection) :
    Server.Undisturbed x (some s.connections.length) ⟨s.registry, s.connections ++ [c]⟩ := by
  intro j c' hj hmine
  have hne : s.connections.length ≠ j := fun heq => hmine (congrArg some heq)
  have hlt : j < s.connections.length := by
    have hle := (List.getElem?_eq_some_iff.1 hj).1
    simp at hle
    omega
  have hold : s.connections[j]? = some c' := by
    simpa [List.getElem?_append_left hlt] using hj
  exact h j c' hold (by simp)

/-- The connection that had the device has nothing of it any more. -/
theorem Undisturbed.release {k : Nat} {c : Connection} (h : s.Undisturbed x (some k))
    (hk : s.connections[k]? = some c) (hc : c.session.Apart x s.registry) :
    s.Undisturbed x none := by
  intro j c' hj _
  by_cases hjk : k = j
  · subst hjk
    rw [hk] at hj
    exact Option.some.inj hj ▸ hc
  · exact h j c' hj fun heq => hjk (Option.some.inj heq)

variable [Transport τ]

/-- What happens elsewhere leaves the device alone. -/
theorem Elsewhere.leaves (h : s.Elsewhere x mine s') (hw : Wired s.registry [])
    (hs : s.Undisturbed x mine) :
    s.registry.Leaves x s'.registry ∧ s'.Undisturbed x mine ∧
      ∀ k c, mine = some k → s.connections[k]? = some c → s'.connections[k]? = some c := by
  cases h with
  | accept =>
    refine ⟨.refl hw, ?_, ?_⟩
    · exact hs.append (c := {}) (Session.apart_empty x _)
    · intro k c _ hk
      have hlt := (List.getElem?_eq_some_iff.1 hk).1
      show (s.connections ++ [({} : Connection)])[k]? = some c
      rw [List.getElem?_append_left hlt, hk]
  | @receive k data hmine hms =>
    unfold Server.receive
    cases hk : s.connections[k]? with
    | none => exact ⟨.refl hw, hs, fun _ _ _ hj => hj⟩
    | some c =>
      cases hr : c.receive data s.registry with | mk reaction found =>
      rcases found with ⟨c', r⟩
      rcases Connection.leaves_receive hw (hs k c hk hmine) (hms c hk) hr with ⟨hleaves, hapart⟩
      simp only [hr]
      refine ⟨hleaves, hs.set hleaves hapart, ?_⟩
      intro j e hj hget
      have hne : k ≠ j := fun heq => hmine (heq ▸ hj)
      rw [List.getElem?_set_ne hne, hget]
  | @finish k hmine =>
    unfold Server.finish
    cases hk : s.connections[k]? with
    | none => exact ⟨.refl hw, hs, fun _ _ _ hj => hj⟩
    | some c =>
      cases hf : c.finish s.registry with | mk c' r =>
      rcases Connection.leaves_finish hw (hs k c hk hmine) hf with ⟨hleaves, hapart⟩
      simp only [hf]
      refine ⟨hleaves, hs.set hleaves hapart, ?_⟩
      intro j e hj hget
      have hne : k ≠ j := fun heq => hmine (heq ▸ hj)
      rw [List.getElem?_set_ne hne, hget]
  | drift hchange =>
    have hdrift := Registry.leaves_drift hw hchange
    refine ⟨hdrift, ?_, fun k c _ hk => hk⟩
    intro k c hk hmine
    exact (hs k c hk hmine).leaves hdrift

end RemoteDevice.Server
