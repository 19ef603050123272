import RemoteDevice.Proofs.Net.Link

/-!
# Proofs.Net.Record — what was said on every connection

A network can be watched: it does what it did before, and a record is kept of every connection that
was ever made, with all that was sent on it and what came back. The messages that came back on a
connection answer what was sent on it one by one. As long as whoever uses the connection has
received one message for each of its requests, what waits there is what follows these.
-/

namespace RemoteDevice

open Net Wire

/-! ## Replies -/

namespace Wire

/-- Draining finds the messages that were found before, and then those of the rest. -/
theorem Framed.drain_eq {rest bytes : Bytes} {ms : List Message} (h : Framed rest ms bytes) :
    Framing.drain bytes = (ms ++ (Framing.drain rest).1, (Framing.drain rest).2) := by
  induction h with
  | done => rfl
  | message hm _ ih =>
    rw [Framing.drain_of_some (Framing.decode?_encode_append hm _), ih]
    rfl

/-- Bytes behind messages are left over. -/
theorem Framed.append_right {rest bytes : Bytes} {ms : List Message} (h : Framed rest ms bytes)
    (later : Bytes) : Framed (rest ++ later) ms (bytes ++ later) := by
  induction h with
  | done => exact .done
  | message hm _ ih =>
    rw [List.append_assoc]
    exact .message hm ih

/-- The first message of the rest is one message more. -/
theorem Framed.snoc {rest bytes behind : Bytes} {ms : List Message} {m : Message}
    (h : Framed rest ms bytes) (hm : Framing.decode? rest = some (m, behind)) :
    Framed behind (ms ++ [m]) bytes := by
  induction h with
  | done =>
    obtain ⟨front, hfront, rfl⟩ := Framing.eq_append_of_decode? hm
    exact .message hfront .done
  | message hm' _ ih => exact .message hm' ih

end Wire

namespace Net

/-- All bytes that came in the turns. -/
def received (turns : List Turn) : Bytes :=
  turns.flatMap (·.reaction.bytes)

/-- What was received in one turn more comes last. -/
theorem received_concat (turns : List Turn) (t : Turn) :
    received (turns ++ [t]) = received turns ++ t.reaction.bytes := by
  simp [received]

/-- The reply to what was sent at a place: the message at this place of all that have come by then.
There is none if it has not come as a whole, or if the connection was broken before. -/
def reply? (turns : List Turn) (i : Nat) : Option Message :=
  match turns[i]? with
  | none => none
  | some t =>
    match t.before with
    | some _ => none
    | none => (Framing.drain (received (turns.take (i + 1)))).1[i]?

/-- What is sent later has no part in the reply. -/
theorem reply?_append {turns : List Turn} {i : Nat} (later : List Turn) (hi : i < turns.length) :
    reply? (turns ++ later) i = reply? turns i := by
  unfold reply?
  rw [List.getElem?_append_left hi, List.take_append_of_le_length hi]

/-- For every turn one message was received, and what waits is what follows these. -/
def Aligned (waiting : Bytes) (turns : List Turn) : Prop :=
  ∃ ms, Framed waiting ms (received turns) ∧ ms.length = turns.length

theorem Aligned.nil : Aligned [] [] :=
  ⟨[], .done, rfl⟩

/-- The reply in the last turn is the first message that waits then. -/
theorem Aligned.reply?_concat {waiting : Bytes} {turns : List Turn} (h : Aligned waiting turns)
    (t : Turn) : reply? (turns ++ [t]) turns.length =
      match t.before with
      | some _ => none
      | none => (Framing.decode? (waiting ++ t.reaction.bytes)).map (·.1) := by
  rcases h with ⟨ms, hframed, hlength⟩
  have hall := (hframed.append_right t.reaction.bytes).drain_eq
  unfold reply?
  rw [List.getElem?_concat_length, List.take_of_length_le (by simp), received_concat, hall]
  dsimp only
  cases t.before with
  | some e => rfl
  | none =>
    dsimp only
    rw [← hlength, List.getElem?_append_right (Nat.le_refl _), Nat.sub_self]
    cases hd : Framing.decode? (waiting ++ t.reaction.bytes) with
    | none => rw [Framing.drain_of_none hd]; rfl
    | some found =>
      rcases found with ⟨m, rest⟩
      rw [Framing.drain_of_some hd]
      rfl

/-- The link stands where the turns have brought it: behind one message for each of them, and ended
if the far end has hung up in one of them. -/
structure Link.Follows (turns : List Turn) (l : Link) : Prop where
  aligned : Aligned l.incoming turns
  ended : l.ended = turns.any (·.reaction.hangsUp)

theorem Link.Follows.new (k : Nat) : Follows [] ⟨k, [], false⟩ :=
  ⟨.nil, rfl⟩

/-- An exchange is answered by the reply of its turn, and fails if there is none. -/
theorem Link.Follows.conclude {l : Link} {turns : List Turn} (h : l.Follows turns)
    (timeoutMs : Nat) (buffer : Bytes) (t : Turn) :
    match reply? (turns ++ [t]) turns.length with
    | some reply => (l.conclude timeoutMs buffer t).1 = .ok (reply.receivedIn buffer) ∧
        (l.conclude timeoutMs buffer t).2.Follows (turns ++ [t])
    | none => ∃ e, (l.conclude timeoutMs buffer t).1 = .error e := by
  rw [h.aligned.reply?_concat t]
  have hincoming : (l.react t.reaction).incoming = l.incoming ++ t.reaction.bytes := rfl
  unfold Link.conclude
  dsimp only
  rw [hincoming]
  cases t.before with
  | some e => exact ⟨_, rfl⟩
  | none =>
    cases hd : Framing.decode? (l.incoming ++ t.reaction.bytes) with
    | none => exact ⟨_, rfl⟩
    | some found =>
      rcases found with ⟨m, rest⟩
      rcases h.aligned with ⟨ms, hframed, hlength⟩
      have hmore := (hframed.append_right t.reaction.bytes).snoc hd
      rw [← received_concat] at hmore
      refine ⟨rfl, ⟨ms ++ [m], hmore, by simp [hlength]⟩, ?_⟩
      simp [Link.react, h.ended]

/-! ## Watching -/

/-- A connection that was made: the number it has in the network, and the turns on it. -/
structure Record where
  number : Nat
  turns : List Turn := []
deriving DecidableEq, Repr

/-- The record with one turn more. -/
def Record.add (t : Turn) (r : Record) : Record :=
  { r with turns := r.turns ++ [t] }

/-- A network, and a record of each of its connections. Whoever uses the watched network knows a
connection by the place of its record, so that no two connections have one number. -/
structure Watched (ν : Type) where
  net : ν
  records : List Record := []

namespace Watched

/-- A network that is watched from now on. -/
def start {ν : Type} (net : ν) : Watched ν := { net }

variable {ν : Type} [Network ν]

/-- Makes a connection, which gets a record. -/
def dial (host : String) (port : UInt16) (w : Watched ν) : Except IoError Nat × Watched ν :=
  match Network.dial host port w.net with
  | (.error e, net) => (.error e, { w with net })
  | (.ok number, net) => (.ok w.records.length, ⟨net, w.records ++ [⟨number, []⟩]⟩)

/-- Delivers bytes, and records the turn. -/
def deliver (k : Nat) (data : Bytes) (w : Watched ν) : Reaction × Watched ν :=
  match w.records[k]? with
  | none => ({ hangsUp := true }, w)
  | some r =>
    let (t, net) := turn r.number data w.net
    (t.reaction, ⟨net, w.records.set k (r.add t)⟩)

/-- Hangs up. -/
def hangUp (k : Nat) (w : Watched ν) : Watched ν :=
  match w.records[k]? with
  | none => w
  | some r => { w with net := Network.hangUp r.number w.net }

/-- What has broken a connection. -/
def failure (k : Nat) (w : Watched ν) : Option IoError :=
  w.records[k]?.bind fun r => Network.failure r.number w.net

instance : Network (Watched ν) :=
  ⟨dial, deliver, hangUp, failure⟩

/-- A connection that is dialled on a watched network is given the next record. -/
theorem dial_of_ok {host : String} {port : UInt16} {w : Watched ν} {number : Nat} {net : ν}
    (h : Network.dial host port w.net = (.ok number, net)) : Network.dial host port w =
      (.ok w.records.length, (⟨net, w.records ++ [⟨number, []⟩]⟩ : Watched ν)) := by
  show w.dial host port = _
  unfold dial
  rw [h]

/-- A dialling that fails leaves no record. -/
theorem dial_of_error {host : String} {port : UInt16} {w : Watched ν} {e : IoError} {net : ν}
    (h : Network.dial host port w.net = (.error e, net)) : Network.dial host port w =
      (.error e, ({ w with net } : Watched ν)) := by
  show w.dial host port = _
  unfold dial
  rw [h]

@[simp] theorem records_hangUp (k : Nat) (w : Watched ν) :
    (Network.hangUp k w).records = w.records := by
  show (hangUp k w).records = w.records
  unfold hangUp
  split <;> rfl

/-- To hang up on a watched network is to hang up the connection that the record is of. -/
theorem net_hangUp {w : Watched ν} {k : Nat} {r : Record} (hr : w.records[k]? = some r) :
    (Network.hangUp k w).net = Network.hangUp r.number w.net := by
  show (hangUp k w).net = _
  unfold hangUp
  rw [hr]

/-- A turn on a recorded connection is the turn of the network, and is recorded. -/
theorem turn_eq {w : Watched ν} {k : Nat} {r : Record} (hr : w.records[k]? = some r)
    (data : Bytes) : turn k data w = ((turn r.number data w.net).1,
      ⟨(turn r.number data w.net).2, w.records.set k (r.add (turn r.number data w.net).1)⟩) := by
  have hk : k < w.records.length := (List.getElem?_eq_some_iff.1 hr).1
  have hdeliver : Network.deliver k data w = ((turn r.number data w.net).1.reaction,
      (⟨(turn r.number data w.net).2,
        w.records.set k (r.add (turn r.number data w.net).1)⟩ : Watched ν)) := by
    show deliver k data w = _
    unfold deliver
    rw [hr]
  have hbefore : Network.failure k w = Network.failure r.number w.net := by
    show failure k w = _
    simp [failure, hr]
  have hafter : Network.failure k (⟨(turn r.number data w.net).2,
      w.records.set k (r.add (turn r.number data w.net).1)⟩ : Watched ν) =
      Network.failure r.number (turn r.number data w.net).2 := by
    show failure k _ = _
    simp [failure, hk, Record.add]
  unfold turn at hdeliver hafter ⊢
  rw [hdeliver]
  dsimp only
  rw [hbefore, hafter]

end Watched

end Net

end RemoteDevice
