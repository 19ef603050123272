import RemoteDevice.Proofs.Wire.Alignment
import RemoteDevice.Proofs.Wire.Segmentation

/-!
# Proofs.Wire.Agreement — streams and buffers speak the same format

Messages go through streams, that block, or through buffers, that grow by pieces. Both ways put the
same bytes on the wire or refuse the same messages, and both find the same messages in any bytes:
whoever receives until that fails gets what comes out of the buffer, and fails where the buffer is
left with no complete message.
-/

namespace RemoteDevice.Wire

variable {σ : Type} [ByteSource σ]

/-! ## Receiving until it fails -/

/-- The message that was received, as far as it was kept. -/
def Received.message (r : Received) : Message :=
  .ofParts r.header r.kept

/-- Messages are received one after another into the same buffer until receiving fails: the messages,
the stream in front of the one that fails, and why it does. -/
inductive ReceivesUntil : Bytes → σ → List Message → σ → Error → Prop
  | fails {buffer : Bytes} {s s' : σ} {e : Error} : receive buffer s = (.error e, s') →
    ReceivesUntil buffer s [] s e
  | message {buffer : Bytes} {s s₁ s' : σ} {r : Received} {ms : List Message} {e : Error} :
    receive buffer s = (.ok r, s₁) → ReceivesUntil r.buffer s₁ ms s' e →
    ReceivesUntil buffer s (r.message :: ms) s' e

/-- There is one way only to receive until it fails. -/
theorem ReceivesUntil.unique {buffer : Bytes} {s s₁ s₂ : σ} {ms₁ ms₂ : List Message} {e₁ e₂ : Error}
    (h₁ : ReceivesUntil buffer s ms₁ s₁ e₁) (h₂ : ReceivesUntil buffer s ms₂ s₂ e₂) :
    ms₂ = ms₁ ∧ s₂ = s₁ ∧ e₂ = e₁ := by
  induction h₁ generalizing ms₂ with
  | fails hfails =>
    cases h₂ with
    | fails hfails' =>
      rw [hfails] at hfails'
      exact ⟨rfl, rfl, (Except.error.inj (Prod.mk.inj hfails').1).symm⟩
    | message hreceived _ => simp [hfails] at hreceived
  | message hreceived _ ih =>
    cases h₂ with
    | fails hfails => simp [hreceived] at hfails
    | message hreceived' hlater =>
      rw [hreceived] at hreceived'
      rcases Prod.mk.inj hreceived' with ⟨hr, rfl⟩
      obtain rfl := Except.ok.inj hr
      rcases ih hlater with ⟨rfl, rfl, rfl⟩
      exact ⟨rfl, rfl, rfl⟩

/-- A buffer as long as a payload may be keeps the whole of every message. -/
theorem Message.message_receivedIn {m : Message} {front buffer : Bytes} (hm : m.encode = .ok front)
    (hbuffer : buffer.length = maxPayload) : (m.receivedIn buffer).message = m := by
  have hle : m.payload.length ≤ buffer.length := hbuffer ▸ (encode_eq_ok_iff.1 hm).1
  unfold Received.message
  rw [kept_receivedIn, List.take_of_length_le hle]
  rfl

theorem Message.length_buffer_receivedIn (m : Message) (buffer : Bytes) :
    (m.receivedIn buffer).buffer.length = buffer.length := by
  simp only [receivedIn, List.length_append, List.length_take, List.length_drop]
  omega

/-- From messages and a rest in which none is complete, these messages are received, and receiving
fails in front of the rest. -/
theorem Supplies.receivesUntil {holds : σ → Bytes → Prop} (hs : Supplies holds) {s : σ}
    {ms : List Message} {bytes rest buffer : Bytes} (hms : Framed rest ms bytes)
    (hrest : Incomplete rest) (h : holds s bytes) (hbuffer : buffer.length = maxPayload) :
    ∃ s', ReceivesUntil buffer s ms s' .disconnected ∧ holds s' rest := by
  induction hms generalizing s buffer with
  | done =>
    obtain ⟨s', hfails⟩ := hs.receive_of_incomplete h hrest buffer
    exact ⟨s, .fails hfails, h⟩
  | @message m front tail ms hm _ ih =>
    obtain ⟨s₁, hreceived, h₁⟩ := hs.receive_eq hm h buffer
    obtain ⟨s', hlater, h'⟩ := ih h₁ ((m.length_buffer_receivedIn buffer).trans hbuffer)
    have hmessage := ReceivesUntil.message hreceived hlater
    rw [Message.message_receivedIn hm hbuffer] at hmessage
    exact ⟨s', hmessage, h'⟩

/-! ## Agreement -/

open Framing

/-- A message is sent as the bytes that are put at the end of a buffer, or refused by both. -/
theorem send_eq_put (m : Message) (buffer : Bytes) {w : Writer} (hchunk : 0 < w.chunk)
    (hroom : headerLength + m.payload.length ≤ w.room) :
    if m.payload.length ≤ maxPayload then
      ∃ front w', put m buffer = (.ok (), buffer ++ front) ∧
        send m w = (.ok front.length, w') ∧ w'.arrived = w.arrived ++ front
    else
      put m buffer = (.error (.payloadTooLarge m.payload.length), buffer) ∧
        send m w = (.error (.payloadTooLarge m.payload.length), w) := by
  by_cases hlength : m.payload.length ≤ maxPayload
  · rw [if_pos hlength]
    obtain ⟨front, hm⟩ : ∃ front, m.encode = .ok front :=
      ⟨_, Message.encode_eq_ok_iff.2 ⟨hlength, rfl⟩⟩
    have hfront := Message.length_of_encode hm
    obtain ⟨w', hsend, htook⟩ := send_took hm hchunk (hfront ▸ hroom)
    exact ⟨front, w', put_of_encode hm buffer, hfront ▸ hsend, htook.arrived⟩
  · rw [if_neg hlength]
    have hlong : maxPayload < m.payload.length := Nat.lt_of_not_le hlength
    exact ⟨put_of_lt hlong buffer, Message.send_of_lt hlong w⟩

/-- Streams and buffers agree. A message is sent on a stream that has room for it as the same bytes
that are put at the end of a buffer, or it is too long and both refuse it and leave everything as it
was. And of any bytes, in whatever pieces they come, the messages that are received until that fails
are those that come out of the buffer; it fails because the stream ends, and it fails where the
buffer has no message any more: the stream has then in front of it what is left in the buffer. -/
theorem send_receive_eq_put_feed {holds : σ → Bytes → Prop} (hs : Supplies holds) :
    (∀ (m : Message) (buffer : Bytes) (w : Writer), 0 < w.chunk →
      headerLength + m.payload.length ≤ w.room →
      if m.payload.length ≤ maxPayload then
        ∃ front w', put m buffer = (.ok (), buffer ++ front) ∧
          send m w = (.ok front.length, w') ∧ w'.arrived = w.arrived ++ front
      else
        put m buffer = (.error (.payloadTooLarge m.payload.length), buffer) ∧
          send m w = (.error (.payloadTooLarge m.payload.length), w)) ∧
    ∀ (pieces : List Bytes) (s : σ) (buffer : Bytes), holds s pieces.flatten →
      buffer.length = maxPayload → ∃ s',
        ReceivesUntil buffer s (feed pieces []).1 s' .disconnected ∧
        holds s' (feed pieces []).2 ∧ decode? (feed pieces []).2 = none ∧
        ∀ ms s'' e, ReceivesUntil buffer s ms s'' e →
          ms = (feed pieces []).1 ∧ s'' = s' ∧ e = .disconnected := by
  refine ⟨fun m buffer w hchunk hroom => send_eq_put m buffer hchunk hroom, ?_⟩
  intro pieces s buffer h hbuffer
  obtain ⟨hframed, hrest⟩ := framed_drain pieces.flatten
  rw [feed_eq_drain pieces .nil, List.nil_append]
  obtain ⟨s', hreceives, h'⟩ := hs.receivesUntil hframed hrest h hbuffer
  exact ⟨s', hreceives, h', decode?_eq_none_iff.2 hrest, fun _ _ _ hother => hreceives.unique hother⟩

/-- A message with two bytes, and the first three bytes of a header, in two pieces and from a stream
that gives two bytes at a time. -/
theorem send_receive_eq_put_feed_of_partial :
    let m := Message.request .writeUnit 3 0x12345678 [7, 8]
    let pieces : List Bytes := [[4, 3, 0x78, 0x56], [0x34, 0x12, 2, 0, 7, 8, 0, 1, 2]]
    (send m ⟨4, 10, []⟩).2.arrived = (put m []).2 ∧
    ∃ s' : Reader, ReceivesUntil (List.replicate maxPayload 0) (⟨pieces.flatten, 2, none⟩ : Reader)
      [m] s' .disconnected ∧ s'.unread = [0, 1, 2] := by
  intro m pieces
  have hagree := send_receive_eq_put_feed Reader.supplies
  have hm : m.encode = .ok [4, 3, 0x78, 0x56, 0x34, 0x12, 2, 0, 7, 8] :=
    Message.encode_eq_ok_iff.2 ⟨by decide, by decide⟩
  have hframed : Framed [0, 1, 2] [m] ([4, 3, 0x78, 0x56, 0x34, 0x12, 2, 0, 7, 8] ++ [0, 1, 2]) :=
    .message hm .done
  have hfeed : feed pieces [] = ([m], [0, 1, 2]) :=
    feed_of_framed hframed (decode?_eq_none_iff.1 rfl)
  constructor
  · have hsend := hagree.1 m [] ⟨4, 10, []⟩ (by decide) (by decide)
    rw [if_pos (by decide)] at hsend
    obtain ⟨front, w', hput, hsend, harrived⟩ := hsend
    rw [hsend, hput, harrived]
    rfl
  · obtain ⟨s', hreceives, hholds, -⟩ := hagree.2 pieces ⟨pieces.flatten, 2, none⟩
      (List.replicate maxPayload 0) ⟨rfl, by decide, rfl⟩ List.length_replicate
    rw [hfeed] at hreceives hholds
    exact ⟨s', hreceives, hholds.1⟩

end RemoteDevice.Wire
