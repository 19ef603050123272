import RemoteDevice.Net.Network
import RemoteDevice.Proofs.Wire.Alignment

/-!
# Proofs.Net.Link — what a link gives up

What waits on a link is a byte string, and receiving takes the first message off it if the whole of
it is there. So a request comes to one of three things: it finds the connection broken, it is
answered by the first message that waits after the far end has reacted, or no message is complete
then and it fails.
-/

namespace RemoteDevice.Net

open Wire

namespace Link

/-! ## Receiving -/

/-- How reading more than what waits fails. -/
def exhausted (l : Link) : IoError :=
  if l.ended then .unexpectedEnd else .wouldBlock

/-- Reading takes its bytes off the front; if there are too few, it takes them all and fails. -/
theorem readExact_eq (n : Nat) (l : Link) : readExact n l =
    if n ≤ l.incoming.length then
      (.ok (l.incoming.take n), { l with incoming := l.incoming.drop n })
    else (.error l.exhausted, { l with incoming := [] }) := by
  rcases l with ⟨connection, incoming, ended⟩
  -- of a link on which nothing waits, nothing is read
  have hempty : ∀ (got : Bytes) (k : Nat), 0 < k →
      readOn got k (⟨connection, [], ended⟩ : Link) =
        (.error (exhausted ⟨connection, [], ended⟩), ⟨connection, [], ended⟩) := by
    intro got k hk
    have hread : ByteSource.read k (⟨connection, [], ended⟩ : Link) =
        (if ended then .ok [] else .error .wouldBlock, ⟨connection, [], ended⟩) := rfl
    rw [readOn, dif_neg (Nat.pos_iff_ne_zero.1 hk), hread]
    cases ended <;> rfl
  by_cases hn : n = 0
  · subst hn
    rw [readExact, readOn_zero]
    simp
  · have hpos : 0 < n := Nat.pos_of_ne_zero hn
    cases incoming with
    | nil =>
      rw [readExact, hempty [] n hpos]
      simp [hn]
    | cons b bs =>
      -- all there is comes in one piece, up to what was asked for
      have hread : ByteSource.read n (⟨connection, b :: bs, ended⟩ : Link) =
          (.ok ((b :: bs).take n), ⟨connection, (b :: bs).drop n, ended⟩) := rfl
      have hpiece : (b :: bs).take n = b :: bs.take (n - 1) := by
        rw [← Nat.succ_pred_eq_of_pos hpos]
        rfl
      have hfit : ((b :: bs.take (n - 1)).take n) = (b :: bs).take n := by
        rw [← hpiece, List.take_take, Nat.min_self]
      rw [readExact, readOn, dif_neg hn, hread, hpiece]
      dsimp only
      rw [hfit]
      by_cases hle : n ≤ (b :: bs).length
      · have hlength : ((b :: bs).take n).length = n := List.length_take_of_le hle
        rw [hlength, Nat.sub_self, readOn_zero, if_pos hle, ← hpiece, List.append_nil,
          List.reverse_reverse]
      · have htake : (b :: bs).take n = b :: bs := List.take_of_length_le (by omega)
        have hdrop : (b :: bs).drop n = [] := List.drop_of_length_le (by omega)
        rw [htake, hdrop, hempty _ _ (by omega), if_neg hle]
        rfl

theorem ofRead_exhausted (l : Link) :
    Error.ofRead l.exhausted = if l.ended then .disconnected else .io .wouldBlock := by
  unfold exhausted
  cases l.ended <;> rfl

/-- A header that waits is read whole. -/
theorem readExact_header {l : Link} {header : Header} {payload : Bytes}
    (h : Header.decode? l.incoming = some (header, payload)) :
    readExact headerLength l = (.ok header.encode, { l with incoming := payload }) := by
  have hbytes := Header.eq_encode_append_of_decode? h
  have hsize : headerLength ≤ l.incoming.length := by
    rw [hbytes, List.length_append, Header.length_encode]
    omega
  have htake : l.incoming.take headerLength = header.encode := by
    rw [hbytes, ← Header.length_encode header, List.take_left]
  have hdrop : l.incoming.drop headerLength = payload := by
    rw [hbytes, ← Header.length_encode header, List.drop_left]
  rw [readExact_eq, if_pos hsize, htake, hdrop]

/-- The first message that waits is received, and what stands behind it waits on; if none is
complete, all that waits is taken and receiving fails. -/
theorem wire_receive_eq (buffer : Bytes) (l : Link) : Wire.receive buffer l =
    match Framing.decode? l.incoming with
    | some (m, rest) => (.ok (m.receivedIn buffer), { l with incoming := rest })
    | none =>
      (.error (if l.ended then .disconnected else .io .wouldBlock), { l with incoming := [] }) := by
  unfold Wire.receive Framing.decode?
  cases hheader : Header.decode? l.incoming with
  | none =>
    have hshort := Header.decode?_eq_none_iff.1 hheader
    rw [readExact_eq, if_neg (by omega)]
    dsimp only
    rw [ofRead_exhausted]
  | some found =>
    rcases found with ⟨header, payload⟩
    rw [readExact_header hheader]
    dsimp only
    rw [Header.decode?_encode]
    dsimp only
    rw [readExact_eq]
    -- what is kept and what is thrown away are read one behind the other
    by_cases hkept : min header.length.toNat buffer.length ≤ payload.length
    · rw [if_pos hkept]
      dsimp only
      rw [readExact_eq]
      by_cases hthrown : header.length.toNat ≤ payload.length
      · have hrest : header.length.toNat - min header.length.toNat buffer.length ≤
            (payload.drop (min header.length.toNat buffer.length)).length := by
          rw [List.length_drop]
          omega
        have hlength : (payload.take header.length.toNat).length = header.length.toNat :=
          List.length_take_of_le hthrown
        have hback : min header.length.toNat buffer.length +
            (header.length.toNat - min header.length.toNat buffer.length) =
            header.length.toNat := by omega
        rw [if_pos hrest, if_neg (by omega)]
        simp only [List.drop_drop, hback, Message.receivedIn, Message.ofParts, hlength,
          List.take_take, overwrite, List.length_take, Nat.min_eq_left hkept,
          UInt16.ofNat_toNat, Nat.min_eq_left (Nat.min_le_left header.length.toNat buffer.length)]
      · have hrest : ¬ header.length.toNat - min header.length.toNat buffer.length ≤
            (payload.drop (min header.length.toNat buffer.length)).length := by
          rw [List.length_drop]
          omega
        rw [if_neg hrest, if_pos (by omega)]
        dsimp only
        rw [ofRead_exhausted]
    · rw [if_neg hkept, if_pos (by omega)]
      dsimp only
      rw [ofRead_exhausted]

/-- Why nothing can be received of a link on which no message is complete. -/
def starved (timeoutMs : Nat) (l : Link) : Wire.Error :=
  if l.ended then .disconnected
  else if timeoutMs ≠ 0 ∧ l.incoming = [] then .timeout
  else .io .wouldBlock

/-- What receiving leaves on the link. -/
theorem receive_eq (timeoutMs : Nat) (buffer : Bytes) (l : Link) : l.receive timeoutMs buffer =
    match Framing.decode? l.incoming with
    | some (m, rest) => (.ok (m.receivedIn buffer), { l with incoming := rest })
    | none => (.error (l.starved timeoutMs), { l with incoming := [] }) := by
  unfold receive starved
  by_cases hwait : timeoutMs ≠ 0 ∧ l.incoming = []
  · rw [if_pos hwait, hwait.2]
    have hnone : Framing.decode? [] = none := rfl
    rw [hnone]
    rcases l with ⟨connection, incoming, ended⟩
    obtain rfl : incoming = [] := hwait.2
    cases ended <;> simp [hwait.1]
  · rw [if_neg hwait, if_neg hwait, wire_receive_eq]

/-- Why a request is not answered: the connection has failed, or no message is complete. -/
def unanswered (timeoutMs : Nat) (failure : Option IoError) (l : Link) : Wire.Error :=
  match failure with
  | some e => l.brokenBy e timeoutMs
  | none => l.starved timeoutMs

end Link

/-! ## Exchanges -/

/-- One delivery on a connection: what was sent, how the far end reacted, and what had broken the
connection before that, and what by then. -/
structure Turn where
  sent : Bytes
  reaction : Reaction
  before : Option IoError := none
  after : Option IoError := none
deriving DecidableEq, Repr

section Network

variable {ν : Type} [Network ν]

/-- Delivers bytes on a connection. -/
def turn (connection : Nat) (data : Bytes) (net : ν) : Turn × ν :=
  let (reaction, next) := Network.deliver connection data net
  (⟨data, reaction, Network.failure connection net, Network.failure connection next⟩, next)

namespace Link

/-- What an exchange comes to, by the turn that it was. -/
def conclude (timeoutMs : Nat) (buffer : Bytes) (t : Turn) (l : Link) :
    Except Wire.Error Received × Link :=
  let l := l.react t.reaction
  match t.before, Framing.decode? l.incoming with
  | some e, _ => (.error (.io e), l)
  | none, some (reply, rest) => (.ok (reply.receivedIn buffer), { l with incoming := rest })
  | none, none => (.error (l.unanswered timeoutMs t.after), { l with incoming := [] })

@[simp] theorem connection_conclude (timeoutMs : Nat) (buffer : Bytes) (t : Turn) (l : Link) :
    (l.conclude timeoutMs buffer t).2.connection = l.connection := by
  unfold conclude
  dsimp only
  split <;> rfl

/-- An exchange does not fail for the size of the request. -/
theorem conclude_ne_payloadTooLarge (timeoutMs : Nat) (buffer : Bytes) (t : Turn) (l : Link)
    {e : Wire.Error} (h : (l.conclude timeoutMs buffer t).1 = .error e) (n : Nat) :
    e ≠ .payloadTooLarge n := by
  rintro rfl
  unfold conclude at h
  dsimp only at h
  split at h
  · simp at h
  · simp at h
  · -- it fails for want of a message, or for what has broken the connection
    have he : (l.react t.reaction).unanswered timeoutMs t.after = .payloadTooLarge n :=
      Except.error.inj h
    unfold unanswered brokenBy starved Wire.Error.ofWait at he
    repeat' split at he
    all_goals simp at he

/-- What an exchange comes to does not depend on the number of the connection. -/
theorem conclude_renamed (timeoutMs : Nat) (buffer : Bytes) (t : Turn) (l : Link) (k : Nat) :
    conclude timeoutMs buffer t { l with connection := k } =
      ((l.conclude timeoutMs buffer t).1,
        { (l.conclude timeoutMs buffer t).2 with connection := k }) := by
  have hreact : react t.reaction { l with connection := k } =
      { l.react t.reaction with connection := k } := rfl
  unfold conclude
  dsimp only
  rw [hreact]
  cases t.before with
  | some e => rfl
  | none =>
    dsimp only
    cases Framing.decode? (l.react t.reaction).incoming <;> rfl

/-- A request is one turn on its connection, and comes to what that turn says. -/
theorem request_eq {m : Message} {data : Bytes} (hm : m.encode = .ok data) (timeoutMs : Nat)
    (buffer : Bytes) (l : Link) (net : ν) : l.request m timeoutMs buffer net =
      ((l.conclude timeoutMs buffer (turn l.connection data net).1).1,
        (l.conclude timeoutMs buffer (turn l.connection data net).1).2,
        (turn l.connection data net).2) := by
  unfold request conclude turn send
  rw [hm]
  dsimp only
  cases hd : Network.deliver l.connection data net with | mk reaction next =>
  have hconnection : (l.react reaction).connection = l.connection := rfl
  cases Network.failure l.connection net with
  | some e => rfl
  | none =>
    dsimp only
    rw [receive_eq, hconnection]
    cases Framing.decode? (l.react reaction).incoming with
    | some found => rfl
    | none => cases Network.failure l.connection next <;> rfl

/-- A message that has no form on the wire is not sent. -/
theorem request_of_error {m : Message} {e : Wire.Error} (hm : m.encode = .error e)
    (timeoutMs : Nat) (buffer : Bytes) (l : Link) (net : ν) :
    l.request m timeoutMs buffer net = (.error e, l, net) := by
  unfold request
  rw [hm]

end Link

/-! ## What networks keep -/

/-- A property of networks that lasts, whatever one end of their connections does. -/
structure Lasting (P : ν → Prop) : Prop where
  dial (host : String) (port : UInt16) {net : ν} : P net → P (Network.dial host port net).2
  deliver (connection : Nat) (data : Bytes) {net : ν} :
    P net → P (Network.deliver connection data net).2
  hangUp (connection : Nat) {net : ν} : P net → P (Network.hangUp connection net)

/-- What lasts on a network lasts through a request and its reply. -/
theorem Lasting.request {P : ν → Prop} (hP : Lasting P) {net : ν} (h : P net) (m : Message)
    (timeoutMs : Nat) (buffer : Bytes) (l : Link) : P (l.request m timeoutMs buffer net).2.2 := by
  cases hm : m.encode with
  | error e =>
    rw [Link.request_of_error hm]
    exact h
  | ok data =>
    rw [Link.request_eq hm]
    exact hP.deliver l.connection data h

end Network

end RemoteDevice.Net
