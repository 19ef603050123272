import RemoteDevice.Proofs.Can.Spanning

/-!
# Proofs.Can.Settings — what a bus that is not open is set to

A bus that is not open is set to a filter, to a range that it buffers, and to a retry policy, through
its side channel. Whatever happens to it, what fails leaves it as it was. A filter is in force from an
operation that names it, done while none is, to the next operation that clears it, and the range of a
buffer likewise from its start to its stop. What concerns one of the three leaves the others alone.
-/

namespace RemoteDevice

open Can

/-- What a bus is set to. -/
inductive Can.Setting where
  | filter
  | buffer
  | retry
deriving DecidableEq, Repr

/-- The filter that an operation is to install, or what is wrong with it. -/
def Config.filter? : Config → Option (Except Transport.Error FilterSet)
  | .setFilter set => some (.ok set)
  | .setRange first stop => some (FilterSet.range first stop)
  | .parseFilter spec => some (FilterSet.parse spec)
  | _ => none

/-- The setting that an operation concerns. -/
def Config.setting? : Config → Option Setting
  | .setFilter _ => some .filter
  | .clearFilter => some .filter
  | .setRange _ _ => some .filter
  | .parseFilter _ => some .filter
  | .startBuffer _ _ => some .buffer
  | .stopBuffer => some .buffer
  | .setRetry _ => some .retry
  | .getDescriptor => none

namespace Can

open Transport (Error)

/-! ## Arguments that are refused -/

/-- If the result is a failure, it is that of an argument that specifies nothing. -/
def OrMalformed {α : Type} (result : Except Error α) : Prop :=
  ∀ e, result = .error e → ∃ m, e = .malformed m

namespace OrMalformed

variable {α β : Type}

theorem ok (a : α) : OrMalformed (.ok a) := by
  intro e h
  cases h

theorem error (m : Malformed) : OrMalformed (.error (.malformed m) : Except Error α) := by
  intro e h
  exact ⟨m, (Except.error.inj h).symm⟩

/-- A step that refuses only arguments may be followed by another of that sort. -/
theorem bind {result : Except Error α} {f : α → Except Error β} (h : OrMalformed result)
    (hf : ∀ a, OrMalformed (f a)) : OrMalformed (result.bind f) := by
  cases result with
  | ok a => exact hf a
  | error e =>
    intro e' h'
    exact h e' (congrArg _ (Except.error.inj h'))

/-- What is made of a result does not change how it fails. -/
theorem map {result : Except Error α} (h : OrMalformed result) (f : α → β) :
    OrMalformed (result.map f) := by
  cases result with
  | ok a => exact ok (f a)
  | error e =>
    intro e' h'
    exact h e' (congrArg _ (Except.error.inj h'))

end OrMalformed

namespace FilterSet

/-- An id is read, or the text of it is refused. -/
theorem parseId_orMalformed (text : List Char) : OrMalformed (parseId text) := by
  unfold parseId
  split
  · exact .error _
  · dsimp only
    split
    · exact .error _
    · exact .ok _

/-- A span of ids is made, or refused as one of too many. -/
theorem span_orMalformed (first last : UInt32) : OrMalformed (span first last) := by
  unfold span
  split
  · exact .error _
  · exact .ok _

/-- A token is read, or something in it is refused. -/
theorem parseToken_orMalformed (token : List Char) : OrMalformed (parseToken token) := by
  unfold parseToken
  split
  · exact (parseId_orMalformed token).map _
  · next a b _ =>
    refine (parseId_orMalformed a).bind fun first => (parseId_orMalformed b).bind fun last => ?_
    split
    · exact .error _
    · exact span_orMalformed first last

theorem parseTokens_orMalformed (spec : List Char) (tokens : List (List Char)) (f : FilterSet) :
    OrMalformed (parseTokens spec tokens f) := by
  induction tokens generalizing f with
  | nil => exact .ok f
  | cons token tokens ih =>
    refine (parseToken_orMalformed token).bind fun ids => ?_
    dsimp only
    split
    · exact .error _
    · exact ih _

/-- A filter is read from its text, or the text is refused. -/
theorem parse_orMalformed (spec : String) : OrMalformed (parse spec) :=
  parseTokens_orMalformed _ _ _

/-- A filter is made of a range, or the range is refused. -/
theorem range_orMalformed (first stop : UInt32) : OrMalformed (range first stop) := by
  unfold range
  split
  · exact .error _
  · exact (span_orMalformed _ _).map _

end FilterSet

/-- A cache is made of a range, or the range is refused. -/
theorem FrameCache.make_orMalformed (first stop : UInt32) : OrMalformed (make first stop) := by
  unfold make
  split
  · exact .error _
  · dsimp only
    split
    · exact .error _
    · exact .ok _

/-- What an operation names is a filter, or its argument is refused. -/
theorem orMalformed_of_filter? {op : Config} {named : Except Error FilterSet}
    (h : op.filter? = some named) : OrMalformed named := by
  cases op with
  | setFilter set => exact Option.some.inj h ▸ .ok set
  | setRange first stop => exact Option.some.inj h ▸ FilterSet.range_orMalformed first stop
  | parseFilter spec => exact Option.some.inj h ▸ FilterSet.parse_orMalformed spec
  | _ => cases h

namespace Bus

/-! ## Acts -/

/-- What may happen to a bus that cannot be opened: an operation of the side channel, an opening that
fails, a closing. Meanwhile the reader of its buffer takes events. -/
inductive Act where
  | config (op : Config)
  | connect (e : Error)
  | disconnect
  | deliver (e : Event)

/-- What an act comes to. -/
def act : Act → Bus → Except Error ConfigReply × Bus
  | .config op, b => b.config op
  | .connect e, b =>
    let (result, b) := b.connect (.error e)
    (result.map fun _ => .done, b)
  | .disconnect, b => (.ok .done, b.disconnect)
  | .deliver e, b => (.ok .done, b.deliver e)

/-- The bus after a history, the newest act first. -/
def after (b : Bus) : List Act → Bus
  | [] => b
  | a :: older => ((b.after older).act a).2

/-- The setting that an act concerns. -/
def Act.setting? : Act → Option Setting
  | .config op => op.setting?
  | .connect _ => none
  | .disconnect => none
  | .deliver _ => some .buffer

/-- A setting is as it was. -/
def Keeps (b b' : Bus) : Setting → Prop
  | .filter => b'.filter = b.filter
  | .buffer => b'.buffer = b.buffer
  | .retry => b'.retry = b.retry

/-- The range that is buffered. -/
def range? (b : Bus) : Option (UInt32 × UInt32) :=
  b.buffer.map FrameCache.range

/-- The act is to install the set, and the set accepts something. -/
def Act.Installs : Act → FilterSet → Prop
  | .config op, set => op.filter? = some (.ok set) ∧ set.ids ≠ []
  | _, _ => False

/-- The act is to begin a buffer of a range that may have one. -/
def Act.Begins : Act → UInt32 × UInt32 → Prop
  | .config (.startBuffer first stop), range =>
    range = (first, stop) ∧ first < stop ∧ (stop - first).toNat ≤ Transport.maxIds
  | _, _ => False

variable {b b' : Bus} {a : Act} {op : Config}

/-! ## Single acts -/

/-- However an operation names a filter, the filter it names is set. -/
theorem config_of_filter? {named : Except Error FilterSet} (h : op.filter? = some named) :
    b.config op = b.configured (named.bind b.setFilter) := by
  cases op with
  | setFilter set => exact Option.some.inj h ▸ rfl
  | setRange first stop => exact Option.some.inj h ▸ rfl
  | parseFilter spec => exact Option.some.inj h ▸ rfl
  | _ => cases h

/-- No filter takes the place of another. -/
theorem setFilter_of_active {set : FilterSet} (h : b.filter ≠ none) :
    b.setFilter set = .error .filterActive := by
  unfold setFilter
  rw [if_pos (Option.isSome_iff_ne_none.2 h)]

/-- A bus without a filter takes any; one that accepts nothing leaves the bus without a filter. -/
theorem setFilter_of_none {set : FilterSet} (h : b.filter = none) : b.setFilter set =
    .ok (if set.ids = [] then b else { b with filter := some set }) := by
  unfold setFilter
  rw [if_neg (by rw [h]; exact Bool.false_ne_true)]
  split <;> rfl

/-- No buffer takes the place of another. -/
theorem startBuffer_of_active (h : b.buffer ≠ none) (first stop : UInt32) :
    b.startBuffer first stop = .error .bufferActive := by
  unfold startBuffer
  rw [if_pos (Option.isSome_iff_ne_none.2 h)]

/-- A bus that does not buffer begins to as soon as a cache can be made of the range. -/
theorem startBuffer_of_none (h : b.buffer = none) (first stop : UInt32) :
    b.startBuffer first stop =
      (FrameCache.make first stop).map fun cache => { b with buffer := some cache } := by
  unfold startBuffer
  rw [if_neg (by rw [h]; exact Bool.false_ne_true)]

/-- An operation gives the setting that it concerns a value, and does nothing else to the bus. -/
theorem config_cases (b : Bus) (op : Config) :
    (op.setting? = some .filter ∧ ∃ filter, (b.config op).2 = { b with filter }) ∨
    (op.setting? = some .buffer ∧ ∃ buffer, (b.config op).2 = { b with buffer }) ∨
    (op.setting? = some .retry ∧ ∃ retry, (b.config op).2 = { b with retry }) ∨
    (op.setting? = none ∧ (b.config op).2 = b) := by
  have hset : ∀ named : Except Error FilterSet,
      ∃ filter, (b.configured (named.bind b.setFilter)).2 = { b with filter } := by
    intro named
    cases named with
    | error e => exact ⟨b.filter, rfl⟩
    | ok set =>
      show ∃ filter, (b.configured (b.setFilter set)).2 = { b with filter }
      by_cases hfilter : b.filter = none
      · rw [setFilter_of_none hfilter]
        split
        · exact ⟨b.filter, rfl⟩
        · exact ⟨some set, rfl⟩
      · rw [setFilter_of_active hfilter]
        exact ⟨b.filter, rfl⟩
  cases op with
  | setFilter set => exact Or.inl ⟨rfl, hset (.ok set)⟩
  | setRange first stop => exact Or.inl ⟨rfl, hset (FilterSet.range first stop)⟩
  | parseFilter spec => exact Or.inl ⟨rfl, hset (FilterSet.parse spec)⟩
  | clearFilter => exact Or.inl ⟨rfl, none, rfl⟩
  | startBuffer first stop =>
    refine Or.inr (Or.inl ⟨rfl, ?_⟩)
    show ∃ buffer, (b.configured (b.startBuffer first stop)).2 = { b with buffer }
    by_cases hbuffer : b.buffer = none
    · rw [startBuffer_of_none hbuffer]
      cases FrameCache.make first stop with
      | error e => exact ⟨b.buffer, rfl⟩
      | ok cache => exact ⟨some cache, rfl⟩
    · rw [startBuffer_of_active hbuffer]
      exact ⟨b.buffer, rfl⟩
  | stopBuffer =>
    refine Or.inr (Or.inl ⟨rfl, ?_⟩)
    show ∃ buffer, (b.configured b.stopBuffer).2 = { b with buffer }
    unfold stopBuffer
    split
    · exact ⟨none, rfl⟩
    · exact ⟨b.buffer, rfl⟩
  | setRetry policy => exact Or.inr (Or.inr (Or.inl ⟨rfl, policy, rfl⟩))
  | getDescriptor => exact Or.inr (Or.inr (Or.inr ⟨rfl, rfl⟩))

/-- A bus that fails to open is left as it was. -/
theorem connect_error_snd (b : Bus) (e : Error) : (b.connect (.error e)).2 = b := by
  unfold connect
  split <;> rfl

/-- An act leaves the settings alone that it does not concern. -/
theorem keeps_act {part : Setting} (h : a.setting? ≠ some part) :
    Keeps b (b.act a).2 part := by
  have hsame : ∀ b' : Bus, b' = b → Keeps b b' part := by
    intro b' heq
    cases part <;> exact heq ▸ rfl
  cases a with
  | config op =>
    show Keeps b (b.config op).2 part
    rcases b.config_cases op with
      ⟨hop, filter, hb⟩ | ⟨hop, buffer, hb⟩ | ⟨hop, retry, hb⟩ | ⟨-, hb⟩
    · rw [hb]
      cases part with
      | filter => exact absurd hop h
      | buffer => rfl
      | retry => rfl
    · rw [hb]
      cases part with
      | filter => rfl
      | buffer => exact absurd hop h
      | retry => rfl
    · rw [hb]
      cases part with
      | filter => rfl
      | buffer => rfl
      | retry => exact absurd hop h
    · exact hsame _ hb
  | connect e => exact hsame _ (b.connect_error_snd e)
  | disconnect => cases part <;> rfl
  | deliver e =>
    cases part with
    | filter => rfl
    | buffer => exact absurd rfl h
    | retry => rfl

/-- An act does not open the bus. -/
theorem socket_act (h : b.socket = none) : (b.act a).2.socket = none := by
  cases a with
  | config op =>
    show (b.config op).2.socket = none
    rcases b.config_cases op with ⟨-, _, hb⟩ | ⟨-, _, hb⟩ | ⟨-, _, hb⟩ | ⟨-, hb⟩ <;> rw [hb] <;> exact h
  | connect e =>
    show (b.connect (.error e)).2.socket = none
    rwa [connect_error_snd]
  | disconnect => rfl
  | deliver e => exact h

/-- What fails leaves the bus as it was. -/
theorem act_of_error {e : Error} (h : (b.act a).1 = .error e) : (b.act a).2 = b := by
  have hconfigured : ∀ result : Except Error Bus,
      (b.configured result).1 = .error e → (b.configured result).2 = b := by
    intro result hresult
    cases result with
    | error _ => rfl
    | ok _ => cases hresult
  cases a with
  | config op =>
    cases op with
    | getDescriptor => cases h
    | _ => exact hconfigured _ h
  | connect e' => exact b.connect_error_snd e'
  | disconnect => cases h
  | deliver _ => cases h

/-! ## Errors -/

/-- A filter that is in force keeps out every other one, be it empty; what specifies no filter is
refused as such. -/
theorem config_eq_filterActive_iff {named : Except Error FilterSet} (h : op.filter? = some named) :
    (b.config op).1 = .error .filterActive ↔ (∃ set, named = .ok set) ∧ b.filter ≠ none := by
  rw [config_of_filter? h]
  cases named with
  | error e =>
    constructor
    · intro hactive
      obtain ⟨m, hm⟩ := orMalformed_of_filter? h e rfl
      rw [hm] at hactive
      cases hactive
    · rintro ⟨⟨set, hset⟩, -⟩
      cases hset
  | ok set =>
    show (b.configured (b.setFilter set)).1 = _ ↔ _
    by_cases hfilter : b.filter = none
    · rw [setFilter_of_none hfilter]
      constructor
      · intro hactive
        cases hactive
      · intro hactive
        exact absurd hfilter hactive.2
    · rw [setFilter_of_active hfilter]
      exact ⟨fun _ => ⟨⟨set, rfl⟩, hfilter⟩, fun _ => rfl⟩

/-- An operation whose filter is refused fails with that refusal, whether or not one is in force. -/
theorem config_of_malformed {e : Error} (h : op.filter? = some (.error e)) :
    (b.config op).1 = .error e := by
  rw [config_of_filter? h]
  rfl

/-- A buffer that is running keeps out every other one, whatever its range. -/
theorem startBuffer_eq_bufferActive_iff (first stop : UInt32) :
    (b.config (.startBuffer first stop)).1 = .error .bufferActive ↔ b.buffer ≠ none := by
  show (b.configured (b.startBuffer first stop)).1 = _ ↔ _
  by_cases hbuffer : b.buffer = none
  · rw [startBuffer_of_none hbuffer]
    constructor
    · intro hactive
      cases hmake : FrameCache.make first stop with
      | ok cache =>
        rw [hmake] at hactive
        cases hactive
      | error e =>
        obtain ⟨m, hm⟩ := FrameCache.make_orMalformed first stop e hmake
        rw [hmake, hm] at hactive
        cases hactive
    · intro hactive
      exact absurd hbuffer hactive
  · rw [startBuffer_of_active hbuffer]
    exact ⟨fun _ => hbuffer, fun _ => rfl⟩

/-- A stop is refused exactly when there is no buffer to stop. -/
theorem stopBuffer_eq_bufferInactive_iff :
    (b.config .stopBuffer).1 = .error .bufferInactive ↔ b.buffer = none := by
  show (b.configured b.stopBuffer).1 = _ ↔ _
  unfold stopBuffer
  cases b.buffer with
  | none => exact ⟨fun _ => rfl, fun _ => rfl⟩
  | some cache =>
    constructor
    · intro hinactive
      cases hinactive
    · intro hnone
      cases hnone

/-! ## From being set to being cleared -/

section Held

variable {α : Type} {slot : Bus → Option α} {puts : Act → α → Prop} {clears : Act → Prop}

/-- The value has been in the slot since the beginning, or since an act put it there while the slot
was empty; since then nothing cleared it. -/
def Held (slot : Bus → Option α) (puts : Act → α → Prop) (clears : Act → Prop) (b : Bus) (v : α)
    (history : List Act) : Prop :=
  (slot b = some v ∧ ∀ a ∈ history, ¬ clears a) ∨
  ∃ since a older, history = since ++ a :: older ∧ slot (b.after older) = none ∧ puts a v ∧
    ∀ a' ∈ since, ¬ clears a'

/-- What an act may do to a slot: clear it, or fill it if it is empty. -/
def Latches (slot : Bus → Option α) (puts : Act → α → Prop) (clears : Act → Prop) : Prop :=
  ∀ b a v, slot (b.act a).2 = some v ↔
    (slot b = some v ∧ ¬ clears a) ∨ (slot b = none ∧ puts a v)

/-- After one act more a value is held if it was held and is not cleared, or if nothing was held and
the act puts it there. -/
theorem held_cons_iff {v : α} {older : List Act} : Held slot puts clears b v (a :: older) ↔
    (Held slot puts clears b v older ∧ ¬ clears a) ∨ (slot (b.after older) = none ∧ puts a v) := by
  constructor
  · rintro (⟨hslot, hkept⟩ | ⟨since, a', older', heq, hslot, hputs, hkept⟩)
    · have holder : ∀ a' ∈ older, ¬ clears a' := fun a' ha' => hkept a' (List.mem_cons_of_mem _ ha')
      exact Or.inl ⟨Or.inl ⟨hslot, holder⟩, hkept a List.mem_cons_self⟩
    · cases since with
      | nil =>
        obtain ⟨rfl, rfl⟩ := List.cons.inj heq
        exact Or.inr ⟨hslot, hputs⟩
      | cons c since =>
        obtain ⟨rfl, rfl⟩ := List.cons.inj heq
        have hsince : ∀ a' ∈ since, ¬ clears a' :=
          fun a' ha' => hkept a' (List.mem_cons_of_mem _ ha')
        exact Or.inl ⟨Or.inr ⟨since, a', older', rfl, hslot, hputs, hsince⟩,
          hkept a List.mem_cons_self⟩
  · rintro (⟨⟨hslot, hkept⟩ | ⟨since, a', older', rfl, hslot, hputs, hkept⟩, hclears⟩ |
      ⟨hslot, hputs⟩)
    · exact Or.inl ⟨hslot, List.forall_mem_cons.2 ⟨hclears, hkept⟩⟩
    · exact Or.inr ⟨a :: since, a', older', rfl, hslot, hputs,
        List.forall_mem_cons.2 ⟨hclears, hkept⟩⟩
    · exact Or.inr ⟨[], a, older, rfl, hslot, hputs, by simp⟩

/-- Whatever the history, a slot holds what was last put into it and has not been cleared since. -/
theorem Latches.held_iff (h : Latches slot puts clears) (b : Bus) (history : List Act) (v : α) :
    slot (b.after history) = some v ↔ Held slot puts clears b v history := by
  induction history with
  | nil =>
    constructor
    · intro hslot
      exact Or.inl ⟨hslot, by simp⟩
    · rintro (⟨hslot, -⟩ | ⟨since, a, older, heq, -⟩)
      · exact hslot
      · simp at heq
  | cons a older ih =>
    rw [after, h, held_cons_iff, ih]

end Held

/-- What an operation makes of the filter. -/
theorem filter_config_eq_some_iff {set : FilterSet} : (b.config op).2.filter = some set ↔
    (b.filter = some set ∧ op ≠ .clearFilter) ∨
    (b.filter = none ∧ op.filter? = some (.ok set) ∧ set.ids ≠ []) := by
  cases hop : op.filter? with
  | none =>
    by_cases hclear : op = .clearFilter
    · subst hclear
      simp [config, configured, clearFilter]
    · have hsetting : (Act.config op).setting? ≠ some .filter := by
        cases op <;> simp_all [Act.setting?, Config.setting?, Config.filter?]
      have hkept : (b.config op).2.filter = b.filter := keeps_act hsetting
      simp [hkept, hclear]
  | some named =>
    have hclear : op ≠ .clearFilter := by
      rintro rfl
      cases hop
    rw [config_of_filter? hop]
    cases named with
    | error e => simp [configured, Except.bind, hclear]
    | ok given =>
      show (b.configured (b.setFilter given)).2.filter = some set ↔ _
      by_cases hfilter : b.filter = none
      · rw [setFilter_of_none hfilter]
        by_cases hempty : given.ids = []
        · rw [if_pos hempty]
          simp only [configured, hfilter, reduceCtorEq, false_and, true_and, false_or, false_iff,
            Option.some.injEq, Except.ok.injEq]
          rintro ⟨rfl, hset⟩
          exact hset hempty
        · rw [if_neg hempty]
          simp only [configured, hfilter, reduceCtorEq, false_and, true_and, false_or,
            Option.some.injEq, Except.ok.injEq]
          constructor
          · rintro rfl
            exact ⟨rfl, hempty⟩
          · exact And.left
      · rw [setFilter_of_active hfilter]
        simp [configured, hfilter, hclear]

/-- A filter is put in force while none is, and cleared. -/
theorem latches_filter : Latches Bus.filter Act.Installs (· = .config .clearFilter) := by
  intro b a set
  cases a with
  | config op =>
    show (b.config op).2.filter = some set ↔ _
    rw [filter_config_eq_some_iff]
    simp [Act.Installs]
  | connect e =>
    have hkept : (b.act (.connect e)).2.filter = b.filter := congrArg _ (b.connect_error_snd e)
    simp [hkept, Act.Installs]
  | disconnect => simp [act, disconnect, Act.Installs]
  | deliver e => simp [act, deliver, Act.Installs]

/-- Events fill a cache without changing its range. -/
theorem range_take (filter : Option FilterSet) (c : FrameCache) (e : Event) :
    (c.take filter e).range = c.range := by
  cases e with
  | frame f =>
    have hstore : (c.store f).2.range = c.range := by
      unfold FrameCache.store
      split
      · simp [FrameCache.range]
      · rfl
    simp only [FrameCache.take]
    split
    · exact hstore
    · rfl
  | idle => rfl
  | closed => rfl
  | failed _ => rfl

/-- A buffer of a range can be made exactly if the range may have one. -/
theorem begins_startBuffer_iff {first stop : UInt32} {range : UInt32 × UInt32} :
    Act.Begins (.config (.startBuffer first stop)) range ↔
      ∃ cache, FrameCache.make first stop = .ok cache ∧ cache.range = range := by
  constructor
  · rintro ⟨rfl, hlt, hfits⟩
    have hmake := FrameCache.make_eq_ok_iff.2 ⟨hlt, hfits, rfl⟩
    exact ⟨_, hmake, (FrameCache.covers_of_make hmake).range_eq⟩
  · rintro ⟨cache, hmake, hrange⟩
    obtain ⟨hlt, hfits, -⟩ := FrameCache.make_eq_ok_iff.1 hmake
    exact ⟨hrange ▸ (FrameCache.covers_of_make hmake).range_eq, hlt, hfits⟩

/-- The range of a buffer is put in place while there is none, and taken away. -/
theorem latches_range? : Latches range? Act.Begins (· = .config .stopBuffer) := by
  intro b a range
  have hkept : ∀ op, (Act.config op).setting? ≠ some .buffer →
      (b.act (.config op)).2.range? = b.range? := by
    intro op hop
    have hbuffer : (b.config op).2.buffer = b.buffer := keeps_act hop
    show (b.config op).2.range? = b.range?
    rw [range?, hbuffer, range?]
  cases a with
  | config op =>
    cases op with
    | startBuffer first stop =>
      show (b.configured (b.startBuffer first stop)).2.range? = some range ↔ _
      rw [begins_startBuffer_iff]
      by_cases hbuffer : b.buffer = none
      · have hrange : b.range? = none := by rw [range?, hbuffer, Option.map_none]
        rw [startBuffer_of_none hbuffer]
        cases FrameCache.make first stop with
        | error e => simp [configured, Except.map, hrange]
        | ok cache => simp [configured, Except.map, hbuffer, range?]
      · have hrange : b.range? ≠ none := by simpa [range?] using hbuffer
        rw [startBuffer_of_active hbuffer]
        simp [configured, hrange]
    | stopBuffer =>
      show (b.configured b.stopBuffer).2.range? = some range ↔ _
      have hnone : (b.configured b.stopBuffer).2.range? = none := by
        unfold stopBuffer
        cases hbuffer : b.buffer with
        | none => simp [configured, range?, hbuffer]
        | some cache => simp [configured, range?]
      simp [hnone, Act.Begins]
    | _ =>
      rw [hkept _ (by simp [Act.setting?, Config.setting?])]
      simp [Act.Begins]
  | connect e =>
    have hsame : (b.act (.connect e)).2 = b := b.connect_error_snd e
    simp [hsame, Act.Begins]
  | disconnect => simp [act, disconnect, Act.Begins, range?]
  | deliver e =>
    have hsame : (b.act (.deliver e)).2.range? = b.range? := by
      simp only [act, deliver, range?, Option.map_map]
      congr 1
      funext cache
      exact range_take _ cache e
    simp [hsame, Act.Begins]

/-! ## Every history -/

/-- A bus that is not open stays so, since no act opens it. -/
theorem socket_after (h : b.socket = none) (history : List Act) :
    (b.after history).socket = none := by
  induction history with
  | nil => exact h
  | cons a older ih => exact socket_act ih

/-- What a bus that is not open answers to the next act, and what the act leaves as it was. -/
structure Atomic (b : Bus) : Prop where
  closed : b.socket = none
  /-- The act itself fails if the interface does. -/
  connect : ∀ e, (b.act (.connect e)).1 = .error e
  unchanged : ∀ a e, (b.act a).1 = .error e → (b.act a).2 = b
  apart : ∀ (a : Act) part, a.setting? ≠ some part → Keeps b (b.act a).2 part
  /-- What is wrong with the argument is found before it matters whether a filter is in force. -/
  malformed : ∀ (op : Config) e, op.filter? = some (.error e) → (b.config op).1 = .error e
  filterActive : ∀ (op : Config) named, op.filter? = some named →
    ((b.config op).1 = .error .filterActive ↔ (∃ set, named = .ok set) ∧ b.filter ≠ none)
  bufferActive : ∀ first stop,
    (b.config (.startBuffer first stop)).1 = .error .bufferActive ↔ b.buffer ≠ none
  bufferInactive : (b.config .stopBuffer).1 = .error .bufferInactive ↔ b.buffer = none

theorem atomic_of_closed (h : b.socket = none) : b.Atomic where
  closed := h
  connect e := by simp [act, Bus.connect, h, Except.map]
  unchanged _ _ := act_of_error
  apart _ _ := keeps_act
  malformed _ _ := config_of_malformed
  filterActive _ _ := config_eq_filterActive_iff
  bufferActive := startBuffer_eq_bufferActive_iff
  bufferInactive := stopBuffer_eq_bufferInactive_iff

/-- Whatever was tried with a bus that is not open, and in whatever order: the next act changes one
setting or none, and none if it fails. The filter in force is the one that was installed while there
was none, until it is cleared, and so is the range of the buffer. -/
theorem settings_after (hclosed : b.socket = none) (history : List Act) :
    (b.after history).Atomic ∧
    (∀ set, (b.after history).filter = some set ↔
      Held Bus.filter Act.Installs (· = .config .clearFilter) b set history) ∧
    ∀ range, (b.after history).range? = some range ↔
      Held range? Act.Begins (· = .config .stopBuffer) b range history := by
  refine ⟨atomic_of_closed (socket_after hclosed history), fun set => ?_, fun range => ?_⟩
  · exact latches_filter.held_iff b history set
  · exact latches_range?.held_iff b history range

/-- A bus whose options name a filter and have it buffered. A second filter, an opening and a closing
later, the first filter is in force: not even the empty one gets in, and an empty range is not looked
at. -/
theorem settings_after_of_options : ∃ b set now, make "can0" "500000,100-103,yes" = .ok b ∧
    now = b.after [.disconnect, .connect .notOpen, .config (.setRange 0x200 0x300)] ∧
    b.filter = some set ∧ now.filter = some set ∧ now.range? = some (0x100, 0x104) ∧
    (now.config (.setFilter (.ofList []))).1 = .error .filterActive ∧
    (now.config (.startBuffer 5 5)).1 = .error .bufferActive := by
  obtain ⟨b, hmake⟩ : ∃ b, make "can0" "500000,100-103,yes" = .ok b := ⟨_, rfl⟩
  have hclosed : b.socket = none := by
    cases hmake
    rfl
  have hset : b.filter = some (.ofList (FilterSet.idsFrom 0x100 4)) := by
    cases hmake
    rfl
  have hbuffered : b.range? = some (0x100, 0x104) := by
    cases hmake
    rfl
  obtain ⟨hatomic, hfilter, hrange⟩ := settings_after hclosed
    [.disconnect, .connect .notOpen, .config (.setRange 0x200 0x300)]
  have hfilter' := (hfilter _).2 (Or.inl ⟨hset, by simp⟩)
  have hrange' := (hrange _).2 (Or.inl ⟨hbuffered, by simp⟩)
  refine ⟨b, _, _, hmake, rfl, hset, hfilter', hrange', ?_, ?_⟩
  · refine (hatomic.filterActive _ _ rfl).2 ⟨⟨_, rfl⟩, ?_⟩
    rw [hfilter']
    simp
  · refine (hatomic.bufferActive 5 5).2 ?_
    intro hnone
    rw [range?, hnone] at hrange'
    cases hrange'

end Bus

end Can

end RemoteDevice
