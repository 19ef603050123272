import RemoteDevice.Proofs.Server.OpenCounting

/-!
# Proofs.Server.UnitTable — the units of a session as a map

The table of a session keeps what was closed until its number is taken again. To the client it is a
map from numbers to the names of devices, and what this map is follows from the requests that were
answered: an opening that succeeds binds the lowest number that is free, a closing unbinds its
number whatever comes of it, and nothing else binds or unbinds anything (`unit_table`).
-/

namespace RemoteDevice.Server

open Wire

/-! ## The table -/

namespace Session

variable {s : Session} {n : Nat} {u : UInt8}

/-- A number is bound to the entry at its place, if that is still open. -/
theorem unit?_eq_some_iff {e : Entry} :
    s.unit? u = some e ↔ s.entries[u.toNat]? = some e ∧ e.isOpen = true := by
  simp [unit?, Option.filter_eq_some_iff]

/-- Below the first closed unit everything is open. -/
theorem unit?_ne_none_of_lt_findIdx (h : u.toNat < s.entries.findIdx (!·.isOpen)) :
    s.unit? u ≠ none := by
  have hlt : u.toNat < s.entries.length := Nat.lt_of_lt_of_le h List.findIdx_le_length
  have hopen : s.entries[u.toNat].isOpen = true := by
    simpa using List.not_of_lt_findIdx h
  intro hnone
  have hsome : s.unit? u = some s.entries[u.toNat] :=
    unit?_eq_some_iff.2 ⟨List.getElem?_eq_getElem hlt, hopen⟩
  simp [hnone] at hsome

/-- The number of the first closed unit is not open, and nor is the one behind the table. -/
theorem unit?_eq_none_of_eq_findIdx (h : u.toNat = s.entries.findIdx (!·.isOpen)) :
    s.unit? u = none := by
  apply Option.eq_none_iff_forall_ne_some.2
  intro e he
  rcases unit?_eq_some_iff.1 he with ⟨hget, hopen⟩
  rw [h] at hget
  rcases List.getElem?_eq_some_iff.1 hget with ⟨hlt, rfl⟩
  have hclosed := List.findIdx_getElem (p := fun e : Entry => !e.isOpen) (w := hlt)
  simp [hopen] at hclosed

/-- The number that is found is the first place whose entry is not open. -/
theorem free?_eq_some (h : s.free? = some n) :
    n = s.entries.findIdx (!·.isOpen) ∧ n < maxUnits := by
  unfold free? at h
  dsimp only at h
  split at h
  · next hlt =>
    rcases Option.some.inj h with rfl
    exact ⟨rfl, hlt⟩
  · simp at h

/-- The number that an opening takes is free, and the lowest such. -/
theorem lowest_of_free? (h : s.free? = some n) :
    (UInt8.ofNat n).toNat = n ∧ s.unit? (.ofNat n) = none ∧
      ∀ v < UInt8.ofNat n, s.unit? v ≠ none := by
  rcases free?_eq_some h with ⟨hn, hlt⟩
  have htoNat : (UInt8.ofNat n).toNat = n := by
    apply UInt8.toNat_ofNat_of_lt
    exact Nat.lt_trans hlt (by decide)
  refine ⟨htoNat, unit?_eq_none_of_eq_findIdx (htoNat.trans hn), ?_⟩
  intro v hv
  apply unit?_ne_none_of_lt_findIdx
  have hlt := UInt8.lt_iff_toNat_lt.1 hv
  omega

/-- No number is free exactly if all of them are open. -/
theorem free?_eq_none_iff :
    s.free? = none ↔ ∀ u : UInt8, u.toNat < maxUnits → s.unit? u ≠ none := by
  constructor
  · intro h u hu
    have hfull : ¬ s.entries.findIdx (!·.isOpen) < maxUnits := by
      intro hlt
      simp [free?, hlt] at h
    apply unit?_ne_none_of_lt_findIdx
    omega
  · intro hall
    apply Option.eq_none_iff_forall_ne_some.2
    intro n hn
    rcases lowest_of_free? hn with ⟨htoNat, hnone, -⟩
    have hlt : (UInt8.ofNat n).toNat < maxUnits := htoNat.symm ▸ (free?_eq_some hn).2
    exact hall _ hlt hnone

/-- No number beyond the table is ever bound. -/
theorem unit?_eq_none_of_le (hfew : s.entries.length ≤ maxUnits) (hu : maxUnits ≤ u.toNat) :
    s.unit? u = none := by
  have hget : s.entries[u.toNat]? = none := List.getElem?_eq_none (Nat.le_trans hfew hu)
  simp [unit?, hget]

/-- Open units have places of their own. -/
theorem openUnits_le_length (s : Session) : s.openUnits ≤ s.entries.length :=
  List.countP_le_length

/-- A unit put at the free number is there, and the others stay where they are. -/
theorem unit?_bind {e : Entry} (hfree : s.free? = some n) (he : e.isOpen = true) (u : UInt8) :
    (s.bind n e).2.unit? u = if u = .ofNat n then some e else s.unit? u := by
  have hnumber : u = .ofNat n ↔ n = u.toNat := by
    rw [← UInt8.toNat_inj, (lowest_of_free? hfree).1]
    exact eq_comm
  simp only [hnumber]
  have hle : n ≤ s.entries.length := (free?_eq_some hfree).1 ▸ List.findIdx_le_length
  unfold bind
  split
  · next old hold =>
    have hlt : n < s.entries.length := (List.getElem?_eq_some_iff.1 hold).1
    by_cases hu : n = u.toNat
    · simp [unit?, ← hu, hlt, he]
    · simp [unit?, List.getElem?_set_ne hu, hu]
  · next hnone =>
    -- there is no such place yet: it is the next one
    have hn : n = s.entries.length := Nat.le_antisymm hle (List.getElem?_eq_none_iff.1 hnone)
    subst hn
    by_cases hu : s.entries.length = u.toNat
    · simp [unit?, ← hu, he]
    · rw [if_neg hu]
      by_cases hlt : u.toNat < s.entries.length
      · simp [unit?, List.getElem?_append_left hlt]
      · have hout : s.entries.length ≤ u.toNat := Nat.le_of_not_lt hlt
        have hpast : (s.entries ++ [e]).length ≤ u.toNat := by
          simp
          omega
        simp [unit?, List.getElem?_eq_none hout, List.getElem?_eq_none hpast]

/-- The table does not grow beyond the units that can be open: places are taken again. -/
theorem length_bind (hfree : s.free? = some n) (hfew : s.entries.length ≤ maxUnits) (e : Entry) :
    (s.bind n e).2.entries.length ≤ maxUnits := by
  have hlt := (free?_eq_some hfree).2
  unfold bind
  split
  · simpa using hfew
  · next hnone =>
    have hle := List.getElem?_eq_none_iff.1 hnone
    simp
    omega

/-- Closing unbinds the one number. -/
theorem unit?_markClosed (s : Session) (unit u : UInt8) :
    (s.markClosed unit).unit? u = if u = unit then none else s.unit? u := by
  unfold markClosed unit?
  rw [List.getElem?_modify]
  by_cases hu : u = unit
  · subst hu
    cases s.entries[u.toNat]? <;> simp
  · have hne : unit.toNat ≠ u.toNat := fun heq => hu (UInt8.toNat_inj.1 heq).symm
    simp [hu, hne]

/-- The units of a session as a map: the names of the devices. -/
def units (s : Session) (u : UInt8) : Option String :=
  (s.unit? u).map (·.device)

theorem units_eq_none_iff : s.units u = none ↔ s.unit? u = none := by
  simp [units]

/-- Binding a free number changes the map at this number only. -/
theorem units_bind {e : Entry} (hfree : s.free? = some n) (he : e.isOpen = true) :
    (s.bind n e).2.units = fun u => if u = .ofNat n then some e.device else s.units u := by
  funext u
  unfold units
  rw [unit?_bind hfree he]
  split <;> rfl

/-- Closing takes the one number out of the map. -/
theorem units_markClosed (s : Session) (unit : UInt8) :
    (s.markClosed unit).units = fun u => if u = unit then none else s.units u := by
  funext u
  unfold units
  rw [unit?_markClosed]
  split <;> rfl

end Session

/-! ## What was asked and answered -/

/-- What the client of a session has had of it: the requests that were answered, each with its
reply and the newest first, and the request that waits for an answer. -/
structure Account where
  answered : List (Message × Message) := []
  pending : Option Message := none

/-- The reply that a note is about. -/
def Note.reply? : Note → Option Message
  | .replied reply => some reply
  | _ => none

/-- The account after a step of the session that works on a request. -/
def Account.hear (m : Message) (notes : List Note) (a : Account) : Account :=
  match notes.findSome? Note.reply? with
  | some reply => ⟨(m, reply) :: a.answered, none⟩
  | none => ⟨a.answered, some m⟩

/-- The map that the answers describe: an opening that succeeded binds the number in its reply, and
a closing unbinds its number whatever the reply is. -/
def bound : List (Message × Message) → UInt8 → Option String
  | [], _ => none
  | (m, reply) :: older, u =>
    match m.op with
    | .ok .openUnit =>
      if reply.status = .success ∧ reply.unit = u then some (deviceName m.payload)
      else bound older u
    | .ok .closeUnit => if m.unit = u then none else bound older u
    | _ => bound older u

/-- The answers as they are if the request that still waits fails. -/
def Account.settled (a : Account) : List (Message × Message) :=
  a.pending.toList.map ((·, .failure .io)) ++ a.answered

/-- The replies that a request may have while these units are open, where `known` says which devices
there are. -/
def Lawful (known : String → Prop) (units : UInt8 → Option String) (m reply : Message) : Prop :=
  match m.op with
  | .ok .openUnit =>
    (reply.status = .success → reply.unit.toNat < maxUnits ∧ units reply.unit = none ∧
      ∀ v < reply.unit, units v ≠ none) ∧
    (known (deviceName m.payload) →
      (reply.status = .tooManyUnits ↔ ∀ u : UInt8, u.toNat < maxUnits → units u ≠ none))
  | .ok .closeUnit =>
    (reply.status = .badUnit ↔ units m.unit = none) ∧
    (units m.unit ≠ none → reply = .reply m.unit 0 [] ∨ reply = .failure .io)
  | .ok _ => reply.status = .badUnit ↔ units m.unit = none
  | .error _ => reply = .failure .noEntry

/-- What a session is in the middle of for the sake of a request, while these units are open: the
opening of the device of that name, or the closing of the device that the number is bound to. -/
def Task.Serves (units : UInt8 → Option String) (m : Message) : Task → Prop
  | .opening o _ => m.op = .ok .openUnit ∧ o.device = deviceName m.payload
  | .closing unit e _ => m.op = .ok .closeUnit ∧ unit = m.unit ∧ units m.unit = some e.device
  | _ => False

section Bound

variable {m reply : Message} {older : List (Message × Message)}

/-- An opening that was refused binds nothing. -/
theorem bound_of_refused (hop : m.op = .ok .openUnit) (hreply : reply.status ≠ .success) :
    bound ((m, reply) :: older) = bound older := by
  funext u
  simp [bound, hop, hreply]

/-- An opening that succeeded binds the number in its reply to the device in its request. -/
theorem bound_of_opened (hop : m.op = .ok .openUnit) (hreply : reply.status = .success) :
    bound ((m, reply) :: older) =
      fun u => if u = reply.unit then some (deviceName m.payload) else bound older u := by
  funext u
  simp [bound, hop, hreply, eq_comm]

/-- A closing unbinds its number, whatever the reply is. -/
theorem bound_of_closeUnit (hop : m.op = .ok .closeUnit) :
    bound ((m, reply) :: older) = fun u => if u = m.unit then none else bound older u := by
  funext u
  simp [bound, hop, eq_comm]

/-- No other request changes what is bound. -/
theorem bound_of_other (hopen : m.op ≠ .ok .openUnit) (hclose : m.op ≠ .ok .closeUnit) :
    bound ((m, reply) :: older) = bound older := by
  funext u
  rw [bound]
  split
  · next hop => exact absurd hop hopen
  · next hop => exact absurd hop hclose
  · rfl

end Bound

/-! ## Replies -/

namespace Session

variable {τ : Type} {s : Session} {r r' : Registry τ} {m : Message}

/-- What is refused leaves the units as they are bound: an opening that is refused binds nothing, and
a closing that is refused unbinds what was not bound. -/
theorem bound_of_refuses {older : List (Message × Message)} {status : Status}
    (hunits : s.units = bound older) (h : s.Refuses m r status) :
    bound ((m, .failure status) :: older) = bound older := by
  cases h with
  | unknown hunknown => exact bound_of_other (hunknown _) (hunknown _)
  | missing hop _ => exact bound_of_refused hop (by decide)
  | full hop _ => exact bound_of_refused hop (by decide)
  | busy hop _ _ => exact bound_of_refused hop (by decide)
  | unopened hop hunit =>
    rcases hop with hop | hop | hop
    · rw [bound_of_closeUnit hop]
      funext u
      split
      · next hu => rw [hu, ← hunits, units_eq_none_iff.2 hunit]
      · rfl
    · exact bound_of_other (by simp [hop]) (by simp [hop])
    · exact bound_of_other (by simp [hop]) (by simp [hop])

/-- Refusals are lawful: only a full table is too many units, and only a number that is not open is
a bad unit. -/
theorem lawful_of_refuses {known : String → Prop} {status : Status}
    (hknown : ∀ x, known x → r.get? x ≠ none) (h : s.Refuses m r status) :
    Lawful known s.units m (.failure status) := by
  have hfull := s.free?_eq_none_iff
  simp only [← units_eq_none_iff, ne_eq] at hfull
  cases h with
  | unknown hunknown =>
    cases hop : m.op with
    | error e => simp [Lawful, hop]
    | ok op => exact absurd hop (hunknown op)
  | missing hop hnone =>
    have hstatus : (Message.failure .noEntry).status = .noEntry := rfl
    simp only [Lawful, hop, hstatus]
    exact ⟨by simp, fun hk => absurd hnone (hknown _ hk)⟩
  | full hop hnone =>
    have hstatus : (Message.failure .tooManyUnits).status = .tooManyUnits := rfl
    simp only [Lawful, hop, hstatus]
    exact ⟨by simp, fun _ => by simpa using hfull.1 hnone⟩
  | busy hop hsome _ =>
    have hstatus : (Message.failure .busy).status = .busy := rfl
    simp only [Lawful, hop, hstatus]
    exact ⟨by simp, fun _ => by simpa using fun hall => hsome (hfull.2 hall)⟩
  | unopened hop hunit =>
    have hnone := units_eq_none_iff.2 hunit
    have hstatus : (Message.failure .badUnit).status = .badUnit := rfl
    rcases hop with hop | hop | hop <;> simp [Lawful, hop, hnone, hstatus]

/-- The two replies to a closing. -/
theorem finishClose_cases {unit : UInt8} {e : Entry} {result : Outcome Unit} {reply : Message}
    (h : finishClose unit e result r = (reply, r')) :
    reply = .reply unit 0 [] ∨ reply = .failure .io := by
  unfold finishClose at h
  dsimp only at h
  split at h
  · exact Or.inl (Prod.mk.inj h).1.symm
  · exact Or.inr (Prod.mk.inj h).1.symm

variable [Transport τ]

/-- An opening that ends has failed, or its unit is in the table. -/
theorem finishOpen_cases {o : Opening} {result : Outcome Nat} {reply : Message} {s' : Session}
    (h : s.finishOpen o result r = (reply, s', r')) :
    (reply = .failure .io ∧ s' = s) ∨
      ∃ t kind, reply = .reply (.ofNat o.number) 0 kind ∧
        s' = (s.bind o.number ⟨o.device, t, o.claim, true⟩).2 := by
  unfold finishOpen at h
  split at h
  · rcases Prod.mk.inj h with ⟨rfl, hrest⟩
    exact Or.inl ⟨rfl, (Prod.mk.inj hrest).1.symm⟩
  · next t =>
    unfold enter at h
    dsimp only at h
    split at h
    all_goals
      rcases Prod.mk.inj h with ⟨rfl, hrest⟩
      exact Or.inr ⟨t, _, rfl, (Prod.mk.inj hrest).1.symm⟩

/-- An opening that ends is answered with the lowest number that is free, which it binds, or it has
failed and binds nothing. -/
theorem lawful_of_finishOpen (known : String → Prop) {o : Opening} {result : Outcome Nat}
    {reply : Message} {s' : Session} (hop : m.op = .ok .openUnit)
    (hdevice : o.device = deviceName m.payload) (hfree : s.free? = some o.number)
    (hfew : s.entries.length ≤ maxUnits) (h : s.finishOpen o result r = (reply, s', r')) :
    s'.entries.length ≤ maxUnits ∧
      (∀ older, s.units = bound older → s'.units = bound ((m, reply) :: older)) ∧
      Lawful known s.units m reply := by
  rcases lowest_of_free? hfree with ⟨htoNat, hnone, hbelow⟩
  have hlt : (UInt8.ofNat o.number).toNat < maxUnits := htoNat.symm ▸ (free?_eq_some hfree).2
  -- not all numbers are open, so this is never one unit too many
  have hroom : ¬ ∀ u : UInt8, u.toNat < maxUnits → s.units u ≠ none := by
    intro hall
    exact hall _ hlt (units_eq_none_iff.2 hnone)
  rcases finishOpen_cases h with ⟨rfl, rfl⟩ | ⟨t, kind, rfl, rfl⟩
  · have hstatus : (Message.failure .io).status = .io := rfl
    refine ⟨hfew, ?_, ?_⟩
    · intro older hunits
      rw [hunits, bound_of_refused hop (by decide)]
    · simp only [Lawful, hop, hstatus]
      exact ⟨by simp, fun _ => by simpa using hroom⟩
  · have hstatus : (Message.reply (.ofNat o.number) 0 kind).status = .success := rfl
    refine ⟨length_bind hfree hfew _, ?_, ?_⟩
    · intro older hunits
      rw [units_bind hfree rfl, hunits, bound_of_opened hop hstatus, hdevice]
      rfl
    · simp only [Lawful, hop, hstatus]
      refine ⟨fun _ => ⟨hlt, units_eq_none_iff.2 hnone, ?_⟩, fun _ => by simpa using hroom⟩
      intro v hv
      exact fun hv' => hbelow v hv (units_eq_none_iff.1 hv')

/-- Reading and writing leave the units as they are bound. -/
theorem bound_of_calls {older : List (Message × Message)} {reply : Message}
    (h : s.Calls m r reply r') : bound ((m, reply) :: older) = bound older := by
  cases h with
  | called _ hop _ _ _ _ =>
    rcases hop with hop | hop <;> exact bound_of_other (by simp [hop]) (by simp [hop])

/-- What is answered to a reading or a writing is lawful: the number is open, and no transport answers
that it is not. -/
theorem lawful_of_calls (known : String → Prop) {reply : Message} (h : s.Calls m r reply r') :
    Lawful known s.units m reply := by
  cases h with
  | @called _ e _ _ result _ data hop hunit _ _ _ =>
    have hstatus : (answerTo m data result).status ≠ .badUnit := by
      cases result with
      | ok a => exact (by decide : Status.success ≠ .badUnit)
      | error f => exact (by decide : Status.io ≠ .badUnit)
    have hsome : s.units m.unit ≠ none := by simp [units_eq_none_iff, hunit]
    rcases hop with hop | hop <;>
    · simp only [Lawful, hop]
      exact iff_of_false hstatus hsome

end Session

/-! ## One session -/

/-- A session whose client has this account of it: its table is the map that the account describes,
and it works on the request that waits for an answer. -/
structure Worker.Attends (known : String → Prop) (w : Worker) (a : Account) : Prop where
  few : w.session.entries.length ≤ maxUnits
  units : w.session.units = bound a.settled
  idle : a.pending = none → w.task = .idle
  serves : ∀ m, a.pending = some m → w.task.Serves (bound a.answered) m
  tidy : w.Tidy
  lawful : ∀ newer m reply older, a.answered = newer ++ (m, reply) :: older →
    Lawful known (bound older) m reply

namespace Worker.Attends

variable {known : String → Prop} {w w' : Worker} {a : Account} {m reply : Message}
  {session : Session} {task : Task}

/-- A session begins with an empty table and nothing to answer. -/
theorem begins (known : String → Prop) : Worker.Attends known {} {} := by
  constructor
  · simp
  · funext u
    simp [Session.units, Session.unit?, Account.settled, bound]
  · simp
  · simp
  · simp [Worker.Tidy]
  · simp

/-- The request that a session works on is answered. -/
theorem answer (h : w.Attends known a) (hfew : session.entries.length ≤ maxUnits)
    (hunits : session.units = bound ((m, reply) :: a.answered))
    (hlawful : Lawful known (bound a.answered) m reply) :
    Worker.Attends known ⟨session, .idle⟩ (a.hear m [.replied reply]) := by
  constructor
  · exact hfew
  · exact hunits
  · intro _
    rfl
  · intro m' hm'
    simp [Account.hear, Note.reply?] at hm'
  · simp [Worker.Tidy]
  · -- the new answer, or one of the earlier ones
    intro newer m' reply' older heq
    cases newer with
    | nil =>
      obtain ⟨⟨rfl, rfl⟩, rfl⟩ : (m = m' ∧ reply = reply') ∧ a.answered = older := by
        simpa [Account.hear, Note.reply?] using heq
      exact hlawful
    | cons first newer =>
      have hold : a.answered = newer ++ (m', reply') :: older := by
        simpa [Account.hear, Note.reply?] using (List.cons.inj heq).2
      exact h.lawful newer m' reply' older hold

/-- The session goes on with the request without an answer. -/
theorem goesOn {notes : List Note} (h : w.Attends known a)
    (hnotes : notes.findSome? Note.reply? = none) (hfew : session.entries.length ≤ maxUnits)
    (hunits : session.units = bound ((m, .failure .io) :: a.answered))
    (hserves : task.Serves (bound a.answered) m) (htidy : Worker.Tidy ⟨session, task⟩) :
    Worker.Attends known ⟨session, task⟩ (a.hear m notes) := by
  have hhear : a.hear m notes = ⟨a.answered, some m⟩ := by simp [Account.hear, hnotes]
  rw [hhear]
  constructor
  · exact hfew
  · exact hunits
  · simp
  · intro m' hm'
    rcases Option.some.inj hm' with rfl
    exact hserves
  · exact htidy
  · exact h.lawful

/-- An idle session owes no answer. -/
theorem pending_of_idle (h : w.Attends known a) (hidle : w.task = .idle) : a.pending = none := by
  apply Option.eq_none_iff_forall_ne_some.2
  intro m hm
  have hserves := h.serves m hm
  rw [hidle] at hserves
  exact hserves

variable {τ : Type} [Transport τ] {r r' : Registry τ} {notes : List Note}

/-- A request that reaches the session. -/
theorem request (hknown : ∀ x, known x → r.get? x ≠ none) (h : w.Attends known a)
    (hp : w.request m r = some (notes, w', r')) : w'.Attends known (a.hear m notes) := by
  have htidy := (Worker.moves_of_request (i := 0) hp).2
  obtain ⟨hidle, htakes⟩ := takes_of_request hp
  have hunits : w.session.units = bound a.answered := by
    simpa [Account.settled, h.pending_of_idle hidle] using h.units
  cases htakes with
  | refused hrefuses =>
    apply h.answer h.few
    · rw [hunits, Session.bound_of_refuses hunits hrefuses]
    · exact hunits ▸ Session.lawful_of_refuses hknown hrefuses
  | access hcalls =>
    apply h.answer h.few
    · rw [hunits, Session.bound_of_calls hcalls]
    · exact hunits ▸ Session.lawful_of_calls known hcalls
  | opening hop hdevice _ _ =>
    apply h.goesOn rfl h.few
    · rw [hunits, bound_of_refused hop (by decide)]
    · exact ⟨hop, hdevice⟩
    · exact htidy
  | @closing e hop hunit =>
    have hbound : bound a.answered m.unit = some e.device := by
      rw [← hunits, Session.units, hunit]
      rfl
    apply h.goesOn rfl
    · simpa [Session.markClosed] using h.few
    · rw [Session.units_markClosed, bound_of_closeUnit hop, hunits]
    · exact ⟨hop, rfl, hbound⟩
    · exact htidy

/-- The session goes on with the request it works on. -/
theorem advance (h : w.Attends known a) (hm : a.pending = some m)
    (hp : w.advance r = some (notes, w', r')) : w'.Attends known (a.hear m notes) := by
  have htidy := (Worker.moves_of_advance (i := 0) h.tidy hp).2
  have hserves := h.serves m hm
  have hunits : w.session.units = bound ((m, .failure .io) :: a.answered) := by
    simpa [Account.settled, hm] using h.units
  cases advances_of_advance hp with
  | acquireStarts => exact h.goesOn rfl h.few hunits hserves htidy
  | acquireEnds _ => exact h.goesOn rfl h.few hunits hserves htidy
  | @opened session _ o _ _ _ hfin =>
    rcases hserves with ⟨hop, hdevice⟩
    have hnow : session.units = bound a.answered := by
      rw [hunits, bound_of_refused hop (by decide)]
    rcases Session.lawful_of_finishOpen known hop hdevice (h.tidy o _ rfl) h.few hfin with
      ⟨hfew, hafter, hlawful⟩
    apply h.answer hfew
    · exact hafter a.answered hnow
    · exact hnow ▸ hlawful
  | closeStarts => exact h.goesOn rfl h.few hunits hserves htidy
  | closeEnds _ => exact h.goesOn rfl h.few hunits hserves htidy
  | @closed _ unit e result reply _ hfin =>
    rcases hserves with ⟨hop, rfl, hbound⟩
    have hreply := Session.finishClose_cases hfin
    have hstatus : reply.status ≠ .badUnit := by
      rcases hreply with rfl | rfl
      · show Status.success ≠ .badUnit
        decide
      · decide
    apply h.answer h.few
    · -- the closing unbinds the number, whatever the reply is
      rw [hunits, bound_of_closeUnit hop, bound_of_closeUnit hop]
    · simp only [Lawful, hop]
      exact ⟨by simp [hstatus, hbound], fun _ => hreply⟩
  | _ => exact absurd hserves id

end Worker.Attends

/-! ## One session among others -/

/-- The step is one of session `i`. -/
def Act.isOf {τ : Type} (i : Nat) : Act τ → Prop
  | .request j _ => j = i
  | .disconnect j => j = i
  | .advance j => j = i
  | _ => False

namespace System

variable {τ : Type} [Transport τ] {s₀ s s' : System τ} {i : Nat} {w : Worker} {a : Act τ}
  {trace : Trace} {account : Account}

omit [Transport τ] in
/-- A step of one session is a piece of its work, and leaves all others alone. -/
theorem of_onWorker {piece : Worker → Registry τ → Option (List Note × Worker × Registry τ)}
    (h : s.onWorker i piece = some (trace, s')) : ∃ w notes w' r', s.workers[i]? = some w ∧
      piece w s.registry = some (notes, w', r') ∧ trace = notes.map ((i, ·)) ∧
      s' = ⟨r', s.workers.set i w'⟩ := by
  unfold onWorker at h
  split at h
  · simp at h
  · next w hw =>
    rcases Option.map_eq_some_iff.1 h with ⟨⟨notes, w', r'⟩, hp, heq⟩
    rcases Prod.mk.inj heq with ⟨rfl, rfl⟩
    exact ⟨w, notes, w', r', hw, hp, rfl, rfl⟩

/-- What is not a step of a session leaves it alone. -/
theorem worker_of_step (hother : ¬ a.isOf i) (hw : s.workers[i]? = some w)
    (h : s.step a = some (trace, s')) : s'.workers[i]? = some w := by
  have hset : ∀ j piece, j ≠ i → s.onWorker j piece = some (trace, s') →
      s'.workers[i]? = some w := by
    intro j piece hj hp
    rcases of_onWorker hp with ⟨_, _, w', r', -, -, -, rfl⟩
    simpa [List.getElem?_set_ne hj] using hw
  cases a with
  | connect =>
    obtain ⟨-, rfl⟩ := by simpa [step] using h
    have hlt : i < s.workers.length := (List.getElem?_eq_some_iff.1 hw).1
    simpa [List.getElem?_append_left hlt] using hw
  | request j m => exact hset j _ hother h
  | disconnect j => exact hset j _ hother h
  | advance j => exact hset j _ hother h
  | outside change catalog =>
    obtain ⟨-, rfl⟩ := by simpa [step] using h
    exact hw

/-- Runs in which session `i` has begun and its client is still there, with the account that the
client has of the session. The other sessions and the transports do what they like. -/
inductive Attended (s₀ : System τ) (i : Nat) : Account → System τ → Prop
  | begins {trace : Trace} {s s' : System τ} :
    Run s₀ trace s → s.workers.length = i → s.step .connect = some ([], s') →
    Attended s₀ i {} s'
  | elsewhere {account : Account} {s s' : System τ} {a : Act τ} {trace : Trace} :
    Attended s₀ i account s → ¬ a.isOf i → s.step a = some (trace, s') →
    Attended s₀ i account s'
  | request {account : Account} {s s' : System τ} {m : Message} (notes : List Note) :
    Attended s₀ i account s → s.step (.request i m) = some (notes.map ((i, ·)), s') →
    Attended s₀ i (account.hear m notes) s'
  | advance {account : Account} {s s' : System τ} {m : Message} (notes : List Note) :
    Attended s₀ i account s → account.pending = some m →
    s.step (.advance i) = some (notes.map ((i, ·)), s') →
    Attended s₀ i (account.hear m notes) s'

/-- The client of a session sees a part of a run. -/
theorem Attended.run (h : Attended s₀ i account s) : ∃ trace, Run s₀ trace s := by
  induction h with
  | begins hrun _ hstep => exact ⟨_, hrun.step hstep⟩
  | elsewhere _ _ hstep ih =>
    rcases ih with ⟨trace, hrun⟩
    exact ⟨_, hrun.step hstep⟩
  | request _ _ hstep ih =>
    rcases ih with ⟨trace, hrun⟩
    exact ⟨_, hrun.step hstep⟩
  | advance _ _ _ hstep ih =>
    rcases ih with ⟨trace, hrun⟩
    exact ⟨_, hrun.step hstep⟩

/-- The notes of a step of one session are those of its piece of work. -/
theorem notes_inj {notes notes' : List Note}
    (h : notes.map ((i, ·)) = notes'.map ((i, ·))) : notes = notes' :=
  (List.map_inj_right fun _ _ heq => (Prod.mk.inj heq).2).1 h

/-- The session is as its account says, in every run. -/
theorem Attended.attends {r : Registry τ} (h : Attended (start r) i account s) :
    ∃ w, s.workers[i]? = some w ∧ w.Attends (fun x => r.get? x ≠ none) account := by
  -- induction on the run: the steps of the session are pieces of its work, the others are not
  induction h with
  | begins hrun hlength hstep =>
    obtain ⟨-, rfl⟩ := by simpa [step] using hstep
    refine ⟨{}, ?_, .begins _⟩
    simp [← hlength]
  | elsewhere _ hother hstep ih =>
    rcases ih with ⟨w, hw, hattends⟩
    exact ⟨w, worker_of_step hother hw hstep, hattends⟩
  | @request account s s' m notes hbefore hstep ih =>
    rcases ih with ⟨w, hw, hattends⟩
    rcases hbefore.run with ⟨trace, hrun⟩
    have hknown : ∀ x, r.get? x ≠ none → s.registry.get? x ≠ none := by
      intro x hx hnone
      have hconfig := hrun.config x
      rw [hnone] at hconfig
      exact hx (by simpa using hconfig.symm)
    rcases of_onWorker hstep with ⟨w₁, notes', w', r', hw₁, hp, hnotes, rfl⟩
    obtain rfl : w = w₁ := Option.some.inj (hw.symm.trans hw₁)
    obtain rfl := notes_inj hnotes
    refine ⟨w', ?_, hattends.request hknown hp⟩
    simp [(List.getElem?_eq_some_iff.1 hw).1]
  | @advance account s s' m notes hbefore hpending hstep ih =>
    rcases ih with ⟨w, hw, hattends⟩
    rcases of_onWorker hstep with ⟨w₁, notes', w', r', hw₁, hp, hnotes, rfl⟩
    obtain rfl : w = w₁ := Option.some.inj (hw.symm.trans hw₁)
    obtain rfl := notes_inj hnotes
    refine ⟨w', ?_, hattends.advance hpending hp⟩
    simp [(List.getElem?_eq_some_iff.1 hw).1]

/-- An open unit refers to the transport that its device has. -/
theorem Run.transportOf_of_unit? {configs : List DeviceConfig} {catalog : Catalog τ}
    {unit : UInt8} {e : Entry} (hrun : Run (start (.make configs catalog)) trace s)
    (hw : s.workers[i]? = some w) (hunit : w.session.unit? unit = some e) :
    s.registry.transportOf e.device = some e.transport := by
  rcases Session.unit?_eq_some_iff.1 hunit with ⟨hget, hopen⟩
  exact hrun.transportOf_of_mem (List.mem_of_getElem? hw) (List.mem_of_getElem? hget) hopen

/-- Requests of session `i` on the unit act on the device of this name through its transport `n`,
which is in state `t`: a reading and a writing are answered as the transport answers them, leave it
as it is after that, and leave all other transports alone; a closing begins to give the device
back. -/
structure ActsOn (s : System τ) (i : Nat) (unit : UInt8) (name : String) (n : Nat) (t : τ) :
    Prop where
  transport : s.registry.transportOf name = some n
  state : s.registry.pool.get? n = some t
  read : ∀ m, m.op = .ok .readUnit → m.unit = unit → ∃ p,
    s.registry.pool.read n m.control (requestedLength m.payload) =
      ((Transport.read m.control (requestedLength m.payload) t).1, p) ∧
    p.get? n = some (Transport.read m.control (requestedLength m.payload) t).2 ∧
    (∀ k, k ≠ n → p.get? k = s.registry.pool.get? k) ∧
    s.step (.request i m) = some
      ([(i, .replied (match (Transport.read m.control (requestedLength m.payload) t).1 with
        | .ok reading => .reply unit m.control reading.data
        | .error _ => .failure .io))], { s with registry := { s.registry with pool := p } })
  write : ∀ m, m.op = .ok .writeUnit → m.unit = unit → ∃ p,
    s.registry.pool.write n m.control m.payload =
      ((Transport.write m.control m.payload t).1, p) ∧
    p.get? n = some (Transport.write m.control m.payload t).2 ∧
    (∀ k, k ≠ n → p.get? k = s.registry.pool.get? k) ∧
    s.step (.request i m) = some
      ([(i, .replied (match (Transport.write m.control m.payload t).1 with
        | .ok _ => .reply unit m.control []
        | .error _ => .failure .io))], { s with registry := { s.registry with pool := p } })
  close : ∀ m, m.op = .ok .closeUnit → m.unit = unit → ∃ session e, e.device = name ∧
    e.transport = n ∧ s.step (.request i m) =
      some ([], { s with workers := s.workers.set i ⟨session, .closing unit e .waiting⟩ })

/-- A unit of an idle session acts on its device, if its transport is that of the device. -/
theorem actsOn_of_unit? {session : Session} {e : Entry} {unit : UInt8} {t : τ}
    (hw : s.workers[i]? = some ⟨session, .idle⟩) (hunit : session.unit? unit = some e)
    (htransport : s.registry.transportOf e.device = some e.transport)
    (ht : s.registry.pool.get? e.transport = some t) :
    s.ActsOn i unit e.device e.transport t := by
  have hset : s.workers.set i ⟨session, .idle⟩ = s.workers := set_self_of_getElem? hw
  constructor
  · exact htransport
  · exact ht
  · rintro m hop rfl
    obtain ⟨p, hp, hstate, -, -, hothers⟩ :=
      Pool.use_of_get? (.read m.control (requestedLength m.payload))
        (Transport.read m.control (requestedLength m.payload)) ht
    have hread : s.registry.pool.read e.transport m.control (requestedLength m.payload) = _ := hp
    refine ⟨p, hread, hstate, hothers, ?_⟩
    simp only [step, onWorker, hw, Worker.request, hop, Session.handle, Session.readUnit, hunit,
      Registry.use, hread]
    cases (Transport.read m.control (requestedLength m.payload) t).1 <;> simp [hset]
  · rintro m hop rfl
    obtain ⟨p, hp, hstate, -, -, hothers⟩ :=
      Pool.use_of_get? (.write m.control m.payload) (Transport.write m.control m.payload) ht
    have hwrite : s.registry.pool.write e.transport m.control m.payload = _ := hp
    refine ⟨p, hwrite, hstate, hothers, ?_⟩
    simp only [step, onWorker, hw, Worker.request, hop, Session.handle, Session.writeUnit, hunit,
      Registry.use, hwrite]
    cases (Transport.write m.control m.payload t).1 <;> simp [hset]
  · rintro m hop rfl
    refine ⟨session.markClosed m.unit, e, rfl, rfl, ?_⟩
    simp [step, onWorker, hw, Worker.request, hop, Session.beginClose, hunit]

/-- An idle session takes any request. -/
theorem exists_request {session : Session} (hw : s.workers[i]? = some ⟨session, .idle⟩)
    (m : Message) : ∃ notes s', s.step (.request i m) = some (notes, s') := by
  simp only [step, onWorker, hw, Worker.request]
  split
  · split <;> exact ⟨_, _, rfl⟩
  · split <;> exact ⟨_, _, rfl⟩
  · exact ⟨_, _, rfl⟩

/-- What the next step of a closing is: it comes to the release of the device, and the answer is that
it failed if the release failed. -/
structure Closes (s : System τ) (i : Nat) (session : Session) (task : Task) (notes : Trace)
    (s' : System τ) : Prop where
  starts : ∀ unit e, task = .closing unit e .waiting → notes = [(i, .releaseStarts e.device)] ∧
    s' = { s with workers := s.workers.set i ⟨session, .closing unit e .running⟩ }
  releases : ∀ unit e, task = .closing unit e .running → notes = [(i, .releaseEnds e.device)] ∧
    s' = ⟨(s.registry.release e.device false).2, s.workers.set i
      ⟨session, .closing unit e (.done (s.registry.release e.device false).1)⟩⟩
  fails : ∀ unit e f, task = .closing unit e (.done (.error f)) →
    notes = [(i, .replied (.failure .io))]

/-- A session that works on a request can go on with it. -/
theorem exists_advance {units : UInt8 → Option String} {m : Message}
    (hw : s.workers[i]? = some w) (hserves : w.task.Serves units m) :
    ∃ notes s', s.step (.advance i) = some (notes, s') ∧
      s.Closes i w.session w.task notes s' := by
  rcases w with ⟨session, task⟩
  simp only [step, onWorker, hw]
  cases task with
  | opening o stage => cases stage <;> exact ⟨_, _, rfl, by simp, by simp, by simp⟩
  | closing unit e stage =>
    cases stage with
    | waiting => exact ⟨_, _, rfl, by simp, by simp, by simp⟩
    | running =>
      refine ⟨_, _, rfl, by simp, ?_, by simp⟩
      rintro unit e htask
      obtain ⟨rfl, rfl⟩ := by simpa using htask
      exact ⟨rfl, rfl⟩
    | done result =>
      refine ⟨_, _, rfl, by simp, by simp, ?_⟩
      rintro unit e f hdone
      obtain ⟨rfl, rfl, rfl⟩ := by simpa using hdone
      rfl
  | _ => exact absurd hserves id

/-- The table of a session is a partial map from numbers below eight to devices, whatever the session
is asked, whatever the transports do and whatever other sessions do meanwhile. The answers alone say
what the map is, and every answer is lawful for the map as it was; a request on a unit acts on the
device the map has for it, and a closing gives one opening of it back; if that fails it is answered
so and unbinds the unit all the same. -/
theorem unit_table {configs : List DeviceConfig} {catalog : Catalog τ}
    (h : Attended (start (.make configs catalog)) i account s) :
    ∃ w, s.workers[i]? = some w ∧
      w.session.openUnits ≤ maxUnits ∧
      (∀ u, w.session.units u = bound account.settled u) ∧
      (∀ u, maxUnits ≤ u.toNat → bound account.settled u = none) ∧
      (∀ newer m reply older, account.answered = newer ++ (m, reply) :: older →
        Lawful (fun x => (Registry.make configs catalog).get? x ≠ none) (bound older) m reply) ∧
      (account.pending = none →
        (∀ m, ∃ notes s', s.step (.request i m) = some (notes, s')) ∧
        ∀ u x, bound account.answered u = some x → ∃ n t, s.ActsOn i u x n t) ∧
      ∀ m, account.pending = some m → w.task.Serves (bound account.answered) m ∧
        ∃ notes s', s.step (.advance i) = some (notes, s') ∧
          s.Closes i w.session w.task notes s' ∧
          ∀ unit e, w.task = .closing unit e .running →
            s'.registry.opensOf e.device + 1 = s.registry.opensOf e.device := by
  rcases h.attends with ⟨w, hw, hattends⟩
  rcases h.run with ⟨trace, hrun⟩
  refine ⟨w, hw, ?_, ?_, ?_, hattends.lawful, ?_, ?_⟩
  · exact Nat.le_trans w.session.openUnits_le_length hattends.few
  · exact fun u => congrFun hattends.units u
  · intro u hu
    rw [← hattends.units]
    exact Session.units_eq_none_iff.2 (Session.unit?_eq_none_of_le hattends.few hu)
  · intro hpending
    have hidle := hattends.idle hpending
    rcases w with ⟨session, task⟩
    obtain rfl : task = .idle := hidle
    refine ⟨exists_request hw, ?_⟩
    intro u x hbound
    have hunits : session.units u = some x := by
      rw [← hbound, hattends.units]
      simp [Account.settled, hpending]
    rcases Option.map_eq_some_iff.1 hunits with ⟨e, hunit, rfl⟩
    have htransport := hrun.transportOf_of_unit? hw hunit
    obtain ⟨t, ht⟩ := Pool.exists_get? (hrun.counted.2.wired.bound _ _ htransport)
    exact ⟨e.transport, t, actsOn_of_unit? hw hunit htransport ht⟩
  · intro m hm
    have hserves := hattends.serves m hm
    rcases exists_advance hw hserves with ⟨notes, s', hstep, hcloses⟩
    refine ⟨hserves, notes, s', hstep, hcloses, ?_⟩
    intro unit e htask
    have hopens := hrun.opensOf_step e.device hstep
    simpa [(hcloses.releases unit e htask).1] using hopens

/-- The session that has opened the one device has it as unit 0. -/
theorem unit_table_of_one : ∃ account, Attended (start lone) 0 account occupied ∧
    account.pending = none ∧ bound account.answered 0 = some "d" ∧
    ∃ n t, occupied.ActsOn 0 0 "d" n t := by
  have hfirst : Attended (start lone) 0 {} ⟨lone, [{}]⟩ := .begins .rest rfl rfl
  have hsecond : Attended (start lone) 0 {} ⟨lone, [{}, {}]⟩ :=
    .elsewhere (a := .connect) hfirst id rfl
  have hbegin : System.step ⟨lone, [{}, {}]⟩ (.request 0 (.request .openUnit 0 0 [100])) =
      some ([], ⟨lone.update ⟨loneConfig, true, none, 0⟩,
        [⟨{}, .opening ⟨"d", 0, true⟩ .waiting⟩, {}]⟩) := by
    simp only [step, onWorker, List.getElem?_cons_zero, Worker.request, Session.beginOpen,
      Message.request, deviceName_lone]
    rfl
  have hasked := hsecond.request [] hbegin
  have hstarts := hasked.advance [.acquireStarts "d"] rfl rfl
  have hacquired := hstarts.advance [.acquireEnds "d" true] rfl rfl
  have hopened : Attended (start lone) 0 ⟨[(.request .openUnit 0 0 [100],
      .reply 0 0 (Text.encode NullDevice.kind ++ [0]))], none⟩ occupied :=
    hacquired.advance [.replied (.reply 0 0 (Text.encode NullDevice.kind ++ [0]))] rfl rfl
  rcases unit_table hopened with ⟨w, -, -, -, -, -, hidle, -⟩
  have hbound : bound [(.request .openUnit 0 0 [100],
      .reply 0 0 (Text.encode NullDevice.kind ++ [0]))] 0 = some "d" :=
    congrArg some deviceName_lone
  exact ⟨_, hopened, rfl, hbound, (hidle rfl).2 0 "d" hbound⟩

end System

end RemoteDevice.Server
