import Mathlib.Data.FinEnum
import Mathlib.Data.List.Sort
import Mathlib.Data.Set.Card
import RemoteDevice.Can.Filter
import RemoteDevice.Proofs.Can.Canonical
import RemoteDevice.Proofs.Text.Numeral
import RemoteDevice.Proofs.Text.Split

/-!
# Proofs.Can.Denotation — which ids a written filter denotes

The tokens of a text are its pieces between plus signs and commas that are not empty. Each should be
an id in hexadecimal or a range of ids. A text is read as a filter exactly if all of its tokens are
such, and if they denote no more than 4096 ids together; the filter then accepts these ids. Nothing
else about the text matters: not the order of the tokens, nor how often one stands there, nor what
stands between them.
-/

namespace RemoteDevice.Can.FilterSet

open Text
open Transport (Error maxIds)

/-! ## The form of a filter -/

/-- The marks between tokens. -/
def isSeparator (c : Char) : Bool :=
  c == '+' || c == ','

/-- The token is a piece of the text between separators, and not empty. -/
def IsToken (text token : List Char) : Prop :=
  token ≠ [] ∧ IsPiece isSeparator text token

/-- The text is an id: a proper id of 32 bits in hexadecimal digits, with `0x` before them or not. -/
def IsId (text : List Char) (id : UInt32) : Prop :=
  IsProper id ∧ ∃ digits, (text = digits ∨ text = '0' :: 'x' :: digits) ∧
    IsNumeral 16 digits id.toNat

/-- What a token denotes: the ids from the first to the last, these two included. -/
inductive Denotes : List Char → UInt32 → UInt32 → Prop
  | id {text : List Char} {id : UInt32} : IsId text id → Denotes text id id
  | range {a b : List Char} {first last : UInt32} : IsId a first → IsId b last → first ≤ last →
    last.toNat - first.toNat + 1 ≤ maxIds → Denotes (a ++ '-' :: b) first last

/-- The canonical forms of all ids that the tokens of the text denote. -/
def denotedIds (text : List Char) : Set UInt32 :=
  {id | ∃ token, IsToken text token ∧ ∃ first last, Denotes token first last ∧
    ∃ x, first ≤ x ∧ x ≤ last ∧ canonicalId x = id}

/-! ## Tokens -/

/-- The tokens of a text are its pieces between separators that are not empty. -/
theorem mem_tokens {text token : List Char} : token ∈ tokens text ↔ IsToken text token := by
  unfold tokens IsToken
  rw [List.mem_filter, decide_eq_true_iff, and_comm]
  exact and_congr_right fun _ => mem_pieces

variable {text token : List Char} {id first last : UInt32}

theorem IsToken.plus_not_mem (h : IsToken text token) : '+' ∉ token :=
  fun hplus => absurd (h.2.1 _ hplus) (by decide)

/-! ## Ids -/

/-- A text is what follows the mark of hexadecimal digits, with or without this mark before it. -/
theorem eq_of_dropMark (text : List Char) :
    text = dropMark text ∨ text = '0' :: 'x' :: dropMark text := by
  unfold dropMark
  split
  · exact Or.inr rfl
  · exact Or.inl rfl

/-- Digits do not begin with the mark. -/
theorem dropMark_of_isNumeral {digits : List Char} {n : Nat} (h : IsNumeral 16 digits n) :
    dropMark digits = digits := by
  have hmark : 'x' ∉ digits := h.not_mem (Nat.le_refl 16) (by decide)
  unfold dropMark
  split
  · simp at hmark
  · rfl

/-- A number in digits is read as an id if it is a proper one. -/
theorem parseId_of_isNumeral (h : IsNumeral 16 (dropMark text) id.toNat) : parseId text =
    if IsProper id then .ok id else .error (.malformed (.canIdRange text)) := by
  have hread : numeral? 16 UInt32.size (dropMark text) = some id.toNat :=
    (numeral?_eq_some_iff (Nat.le_refl 16)).2
      ⟨(h.dropPlus_eq (Nat.le_refl 16)).symm ▸ h, id.toNat_lt⟩
  unfold parseId
  rw [hread]
  dsimp only
  rw [UInt32.ofNat_toNat]
  by_cases hproper : IsProper id
  · rw [if_neg (UInt32.not_lt.2 hproper), if_pos hproper]
  · rw [if_pos (UInt32.not_le.1 hproper), if_neg hproper]

/-- A text without a plus is read as an id exactly if it is one. -/
theorem parseId_eq_ok_iff (h : '+' ∉ text) : parseId text = .ok id ↔ IsId text id := by
  have hplus : '+' ∉ dropMark text := by
    intro hmem
    apply h
    rcases eq_of_dropMark text with heq | heq
    · rw [heq]
      exact hmem
    · rw [heq]
      simp [hmem]
  constructor
  · intro hid
    cases hn : numeral? 16 UInt32.size (dropMark text) with
    | none => simp [parseId, hn] at hid
    | some n =>
      obtain ⟨hnumeral, hlt⟩ := (numeral?_eq_some_iff (Nat.le_refl 16)).1 hn
      rw [dropPlus_of_not_mem hplus, ← UInt32.toNat_ofNat_of_lt' hlt] at hnumeral
      rw [parseId_of_isNumeral hnumeral] at hid
      split at hid
      · next hproper =>
        obtain rfl := Except.ok.inj hid
        exact ⟨hproper, dropMark text, eq_of_dropMark text, hnumeral⟩
      · simp at hid
  · rintro ⟨hproper, digits, htext, hnumeral⟩
    have hdigits : dropMark text = digits := by
      rcases htext with rfl | rfl
      · exact dropMark_of_isNumeral hnumeral
      · rfl
    rw [parseId_of_isNumeral (hdigits.symm ▸ hnumeral), if_pos hproper]

/-- There is no dash in an id, so that the first dash of a range is the one between its ends. -/
theorem IsId.dash_not_mem (h : IsId text id) : '-' ∉ text := by
  intro hdash
  obtain ⟨-, digits, htext, hnumeral⟩ := h
  have hmem : '-' ∈ digits := by
    rcases htext with rfl | rfl <;> simpa using hdash
  exact hnumeral.not_mem (Nat.le_refl 16) (by decide) hmem

/-! ## Ranges -/

/-- The ids of a span are those from its first to its last. -/
theorem mem_idsFrom (hle : first ≤ last) {x : UInt32} :
    x ∈ idsFrom first (last.toNat - first.toNat + 1) ↔ first ≤ x ∧ x ≤ last := by
  have hle := UInt32.le_iff_toNat_le.1 hle
  have hlast := last.toNat_lt
  rw [UInt32.le_iff_toNat_le, UInt32.le_iff_toNat_le]
  unfold idsFrom
  rw [List.mem_map]
  -- no sum leaves the range, so that it does not wrap around
  have hsum : ∀ i ≤ last.toNat - first.toNat, (first + UInt32.ofNat i).toNat = first.toNat + i := by
    intro i hi
    rw [UInt32.toNat_add, UInt32.toNat_ofNat_of_lt' (by show i < 2 ^ 32; omega)]
    exact Nat.mod_eq_of_lt (by omega)
  constructor
  · rintro ⟨i, hi, rfl⟩
    have hi : i ≤ last.toNat - first.toNat := Nat.lt_succ_iff.1 (List.mem_range.1 hi)
    rw [hsum i hi]
    omega
  · rintro ⟨hfirst, hlast⟩
    refine ⟨x.toNat - first.toNat, List.mem_range.2 (by omega), UInt32.toNat_inj.1 ?_⟩
    rw [hsum _ (by omega)]
    omega

/-- A span is made exactly if it has no more ids than a filter may hold. -/
theorem span_eq_ok_iff (hle : first ≤ last) {ids : List UInt32} : span first last = .ok ids ↔
    last.toNat - first.toNat + 1 ≤ maxIds ∧
      ids = idsFrom first (last.toNat - first.toNat + 1) := by
  unfold span
  rw [UInt32.toNat_sub_of_le _ _ hle]
  split
  · next hwide =>
    simp only [reduceCtorEq, false_iff, not_and]
    intro hnarrow
    omega
  · next hnarrow =>
    rw [Except.ok.injEq]
    exact ⟨fun h => ⟨Nat.not_le.1 hnarrow, h.symm⟩, fun h => h.2.symm⟩

/-- What a token denotes is in order. -/
theorem Denotes.le (h : Denotes token first last) : first ≤ last := by
  cases h with
  | id _ => exact UInt32.le_refl _
  | range _ _ hle _ => exact hle

/-- A token without a dash is read as an id. -/
theorem parseToken_of_dash_not_mem (h : '-' ∉ token) :
    parseToken token = (parseId token).map ([·]) := by
  unfold parseToken
  rw [cutFirst?_eq_none_iff.2 h]

/-- A token with a dash is read as a range, from what is before its first dash to all that is
behind it. -/
theorem parseToken_append {a b : List Char} (ha : '-' ∉ a) : parseToken (a ++ '-' :: b) =
    (parseId a).bind fun first => (parseId b).bind fun last =>
      if last < first then .error (.malformed (.descending (a ++ '-' :: b)))
      else span first last := by
  unfold parseToken
  rw [cutFirst?_append ha]
  rfl

/-- A token without a dash denotes one id at most. -/
theorem denotes_iff_of_dash_not_mem (h : '-' ∉ token) :
    Denotes token first last ↔ IsId token first ∧ last = first := by
  constructor
  · intro hdenotes
    cases hdenotes with
    | id hid => exact ⟨hid, rfl⟩
    | range _ _ _ _ => simp at h
  · rintro ⟨hid, rfl⟩
    exact .id hid

/-- A token with a dash denotes what lies between the ids around its first dash. -/
theorem denotes_append_iff {a b : List Char} (ha : '-' ∉ a) : Denotes (a ++ '-' :: b) first last ↔
    IsId a first ∧ IsId b last ∧ first ≤ last ∧ last.toNat - first.toNat + 1 ≤ maxIds := by
  constructor
  · intro hdenotes
    generalize htoken : a ++ '-' :: b = token at hdenotes
    cases hdenotes with
    | id hid =>
      -- there is no dash in an id
      refine absurd ?_ hid.dash_not_mem
      simp [← htoken]
    | @range a' b' _ _ hfirst hlast hle hnarrow =>
      have hcut := congrArg (cutFirst? '-') htoken
      rw [cutFirst?_append ha, cutFirst?_append hfirst.dash_not_mem, Option.some.injEq,
        Prod.mk.injEq] at hcut
      obtain ⟨rfl, rfl⟩ := hcut
      exact ⟨hfirst, hlast, hle, hnarrow⟩
  · rintro ⟨hfirst, hlast, hle, hnarrow⟩
    exact .range hfirst hlast hle hnarrow

/-- A range is read if its ends are ids, in order and near enough to each other. -/
theorem parseToken_append_eq_ok_iff {a b : List Char} (ha : '-' ∉ a) (hplus : '+' ∉ a ++ '-' :: b)
    {ids : List UInt32} : parseToken (a ++ '-' :: b) = .ok ids ↔
      ∃ first last, Denotes (a ++ '-' :: b) first last ∧
        ids = idsFrom first (last.toNat - first.toNat + 1) := by
  have hplusa : '+' ∉ a := fun hmem => hplus (List.mem_append_left _ hmem)
  have hplusb : '+' ∉ b := fun hmem =>
    hplus (List.mem_append_right _ (List.mem_cons_of_mem _ hmem))
  rw [parseToken_append ha]
  simp only [denotes_append_iff ha]
  constructor
  · intro hids
    cases hfirst : parseId a with
    | error e => simp [hfirst, Except.bind] at hids
    | ok first =>
      cases hlast : parseId b with
      | error e => simp [hfirst, hlast, Except.bind] at hids
      | ok last =>
        simp only [hfirst, hlast, Except.bind] at hids
        split at hids
        · simp at hids
        · next hle =>
          have hle := UInt32.not_lt.1 hle
          obtain ⟨hnarrow, hids⟩ := (span_eq_ok_iff hle).1 hids
          exact ⟨first, last, ⟨(parseId_eq_ok_iff hplusa).1 hfirst,
            (parseId_eq_ok_iff hplusb).1 hlast, hle, hnarrow⟩, hids⟩
  · rintro ⟨first, last, ⟨hfirst, hlast, hle, hnarrow⟩, rfl⟩
    rw [(parseId_eq_ok_iff hplusa).2 hfirst, (parseId_eq_ok_iff hplusb).2 hlast]
    simp only [Except.bind, if_neg (UInt32.not_lt.2 hle)]
    exact (span_eq_ok_iff hle).2 ⟨hnarrow, rfl⟩

/-- A token without a plus is read exactly if it denotes something, as the ids that it denotes. -/
theorem parseToken_eq_ok_iff (h : '+' ∉ token) {ids : List UInt32} : parseToken token = .ok ids ↔
    ∃ first last, Denotes token first last ∧
      ids = idsFrom first (last.toNat - first.toNat + 1) := by
  by_cases hdash : '-' ∈ token
  · obtain ⟨a, b, rfl, ha⟩ := List.eq_append_cons_of_mem hdash
    exact parseToken_append_eq_ok_iff ha h
  · rw [parseToken_of_dash_not_mem hdash]
    simp only [denotes_iff_of_dash_not_mem hdash, ← parseId_eq_ok_iff h]
    cases parseId token with
    | error e => simp [Except.map]
    | ok id => simp [Except.map, idsFrom, eq_comm]

/-- The denoted ids are those that the tokens are read as. -/
theorem mem_denotedIds : id ∈ denotedIds text ↔ ∃ token ∈ tokens text, ∃ ids,
    parseToken token = .ok ids ∧ id ∈ ids.map canonicalId := by
  constructor
  · rintro ⟨token, htoken, first, last, hdenotes, x, hfirst, hlast, rfl⟩
    refine ⟨token, mem_tokens.2 htoken, _,
      (parseToken_eq_ok_iff htoken.plus_not_mem).2 ⟨first, last, hdenotes, rfl⟩, ?_⟩
    exact List.mem_map_of_mem ((mem_idsFrom hdenotes.le).2 ⟨hfirst, hlast⟩)
  · rintro ⟨token, htoken, ids, hids, hid⟩
    have htoken := mem_tokens.1 htoken
    obtain ⟨first, last, hdenotes, rfl⟩ := (parseToken_eq_ok_iff htoken.plus_not_mem).1 hids
    obtain ⟨x, hx, rfl⟩ := List.mem_map.1 hid
    obtain ⟨hfirst, hlast⟩ := (mem_idsFrom hdenotes.le).1 hx
    exact ⟨token, htoken, first, last, hdenotes, x, hfirst, hlast, rfl⟩

/-! ## Sets of ids -/

/-- A filter is determined by the ids that it holds. -/
theorem eq_of_mem_iff {f g : FilterSet} (h : ∀ id, id ∈ f.ids ↔ id ∈ g.ids) : f = g := by
  have hids : f.ids = g.ids := f.ascending.eq_of_mem_iff g.ascending h
  cases f
  cases g
  cases hids
  rfl

/-- A filter holds as many ids as there are in the set of them. -/
theorem size_eq_ncard {f : FilterSet} {s : Set UInt32} (h : ∀ id, id ∈ f.ids ↔ id ∈ s) :
    f.size = s.ncard := by
  have hs : s = ↑f.ids.toFinset := by
    ext id
    simp [h]
  rw [hs, Set.ncard_coe_finset, List.toFinset_card_of_nodup (f.ascending.imp UInt32.ne_of_lt)]
  rfl

/-- A filter whose ids lie in a set holds no more than the set. -/
theorem size_le_ncard {f : FilterSet} {s : Set UInt32} (h : ∀ id ∈ f.ids, id ∈ s) :
    f.size ≤ s.ncard := by
  rw [size_eq_ncard (s := {id | id ∈ f.ids}) fun _ => Iff.rfl]
  exact Set.ncard_le_ncard h s.toFinite

/-- A filter made of numbers holds their canonical forms. -/
theorem mem_ofList {ids : List UInt32} : id ∈ (ofList ids).ids ↔ id ∈ ids.map canonicalId := by
  rw [ofList, mem_insertAll]
  simp [empty]

/-- Whether a filter contains an id is a matter of the canonical form of the id. -/
theorem contains_canonicalId (f : FilterSet) (id : UInt32) :
    f.contains (canonicalId id) = f.contains id := by
  rw [contains, canonicalId_canonicalId, contains]

/-- A filter made of numbers holds no more ids than there were numbers. -/
theorem size_ofList_le (ids : List UInt32) : (ofList ids).size ≤ ids.length := by
  have hmem : ∀ id ∈ (ofList ids).ids, id ∈ (↑(ids.map canonicalId).toFinset : Set UInt32) := by
    intro id hid
    simpa using mem_ofList.1 hid
  have hsize := size_le_ncard hmem
  rw [Set.ncard_coe_finset] at hsize
  exact hsize.trans ((List.toFinset_card_le _).trans (by rw [List.length_map]))

/-! ## Filters -/

variable {spec : List Char} {ts : List (List Char)} {f g : FilterSet}

/-- The ids of a token go into the filter, unless it would hold too many then. -/
theorem parseTokens_cons_of_ok {ids : List UInt32} (h : parseToken token = .ok ids) :
    parseTokens spec (token :: ts) f =
      if maxIds < (f.insertAll ids).size then .error (.malformed (.manyIds spec))
      else parseTokens spec ts (f.insertAll ids) := by
  rw [parseTokens, h]
  rfl

theorem parseTokens_cons_of_error {e : Error} (h : parseToken token = .error e) :
    parseTokens spec (token :: ts) f = .error e := by
  rw [parseTokens, h]
  rfl

/-- What can be said of tokens that were read: each of them was, their ids are those that came in,
and they are no more than a filter may hold. -/
theorem of_parseTokens (h : parseTokens spec ts f = .ok g) (hf : f.size ≤ maxIds) :
    (∀ token ∈ ts, ∃ ids, parseToken token = .ok ids) ∧ g.size ≤ maxIds ∧
    ∀ id, id ∈ g.ids ↔ id ∈ f.ids ∨
      ∃ token ∈ ts, ∃ ids, parseToken token = .ok ids ∧ id ∈ ids.map canonicalId := by
  induction ts generalizing f with
  | nil =>
    obtain rfl := Except.ok.inj h
    simp [hf]
  | cons token ts ih =>
    cases hids : parseToken token with
    | error e => simp [parseTokens_cons_of_error hids] at h
    | ok ids =>
      rw [parseTokens_cons_of_ok hids] at h
      split at h
      · simp at h
      · next hsize =>
        obtain ⟨hread, hg, hmem⟩ := ih h (Nat.le_of_not_lt hsize)
        refine ⟨List.forall_mem_cons.2 ⟨⟨ids, hids⟩, hread⟩, hg, fun id => ?_⟩
        rw [hmem, mem_insertAll]
        simp only [List.mem_cons, exists_eq_or_imp, hids, Except.ok.injEq, exists_eq_left']
        tauto

/-- Tokens that can be read, and whose ids lie in a set that is small enough, give a filter. -/
theorem exists_parseTokens {s : Set UInt32} (hs : s.ncard ≤ maxIds) (hf : ∀ id ∈ f.ids, id ∈ s)
    (hread : ∀ token ∈ ts, ∃ ids, parseToken token = .ok ids ∧
      ∀ id ∈ ids.map canonicalId, id ∈ s) : ∃ g, parseTokens spec ts f = .ok g := by
  induction ts generalizing f with
  | nil => exact ⟨f, rfl⟩
  | cons token ts ih =>
    obtain ⟨⟨ids, hids, hin⟩, hrest⟩ := List.forall_mem_cons.1 hread
    have hinsert : ∀ id ∈ (f.insertAll ids).ids, id ∈ s := fun id hid =>
      (mem_insertAll.1 hid).elim (hin id) (hf id)
    rw [parseTokens_cons_of_ok hids, if_neg (Nat.not_lt.2 ((size_le_ncard hinsert).trans hs))]
    exact ih hinsert hrest

/-- A text that is read gives a filter of the ids that its tokens denote. -/
theorem mem_of_parse {spec : String} (h : parse spec = .ok f) (id : UInt32) :
    id ∈ f.ids ↔ id ∈ denotedIds (normalise spec) := by
  rw [(of_parseTokens h (Nat.zero_le _)).2.2 id, mem_denotedIds]
  simp [empty]

/-- A text is read exactly if each of its tokens denotes something and all of them together not too
much. -/
theorem exists_parse_iff {spec : String} : (∃ f, parse spec = .ok f) ↔
    (∀ token, IsToken (normalise spec) token → ∃ first last, Denotes token first last) ∧
      (denotedIds (normalise spec)).ncard ≤ maxIds := by
  constructor
  · rintro ⟨f, h⟩
    obtain ⟨hread, hsize, -⟩ := of_parseTokens h (Nat.zero_le _)
    refine ⟨fun token htoken => ?_, size_eq_ncard (mem_of_parse h) ▸ hsize⟩
    obtain ⟨ids, hids⟩ := hread token (mem_tokens.2 htoken)
    obtain ⟨first, last, hdenotes, -⟩ := (parseToken_eq_ok_iff htoken.plus_not_mem).1 hids
    exact ⟨first, last, hdenotes⟩
  · rintro ⟨hdenote, hsize⟩
    refine exists_parseTokens hsize (by simp [empty]) fun token hmem => ?_
    have htoken := mem_tokens.1 hmem
    obtain ⟨first, last, hdenotes⟩ := hdenote token htoken
    have hids := (parseToken_eq_ok_iff htoken.plus_not_mem).2 ⟨first, last, hdenotes, rfl⟩
    exact ⟨_, hids, fun id hid => mem_denotedIds.2 ⟨token, hmem, _, hids, hid⟩⟩

/-- Of two texts with the same tokens the second is read as the same filter as the first. -/
theorem parse_of_tokens {spec other : String} (h : parse spec = .ok f)
    (htokens : ∀ token, IsToken (normalise other) token ↔ IsToken (normalise spec) token) :
    parse other = .ok f := by
  have hdenoted : denotedIds (normalise other) = denotedIds (normalise spec) := by
    ext id
    exact exists_congr fun token => and_congr_left fun _ => htokens token
  obtain ⟨hdenote, hsize⟩ := exists_parse_iff.1 ⟨f, h⟩
  obtain ⟨g, hg⟩ := exists_parse_iff.2 ⟨fun token htoken => hdenote token ((htokens token).1 htoken),
    hdenoted ▸ hsize⟩
  have hsame : g = f := eq_of_mem_iff fun id => by
    rw [mem_of_parse hg, mem_of_parse h, hdenoted]
  rw [hg, hsame]

/-- A text is read as a filter exactly if each token is an id or a range of ids, and they denote no
more ids than a filter may hold. The filter then holds these ids. Texts with the same tokens, in any
order, number and between any separators, are read as the same filter or not at all. -/
theorem parse_eq_ok_iff_denotes (spec : String) :
    ((∃ f, parse spec = .ok f) ↔
      (∀ token, IsToken (normalise spec) token → ∃ first last, Denotes token first last) ∧
        (denotedIds (normalise spec)).ncard ≤ maxIds) ∧
    (∀ f, parse spec = .ok f → ∀ id, id ∈ f.ids ↔ id ∈ denotedIds (normalise spec)) ∧
    ∀ other, (∀ token, IsToken (normalise other) token ↔ IsToken (normalise spec) token) →
      ∀ f, parse other = .ok f ↔ parse spec = .ok f :=
  ⟨exists_parse_iff, fun _ h => mem_of_parse h, fun _ htokens _ =>
    ⟨fun h => parse_of_tokens h fun token => (htokens token).symm,
      fun h => parse_of_tokens h htokens⟩⟩

/-- An id and a range across the last standard id, and the same tokens in another order, one of them
twice and in capitals. -/
theorem parse_eq_ok_iff_denotes_of_two : ∃ f,
    parse "0x35a+7ff-800" = .ok f ∧ f.ids = [0x35a, 0x7ff, 0x80000800] ∧
    (∀ id, id ∈ f.ids ↔ id ∈ denotedIds (normalise "0x35a+7ff-800")) ∧
    parse " 7FF-800,,0x35A, 0X35a" = .ok f := by
  have hparse : parse "0x35a+7ff-800" = .ok (ofList [0x35a, 0x7ff, 0x800]) := rfl
  have htokens : ∀ token, IsToken (normalise " 7FF-800,,0x35A, 0X35a") token ↔
      IsToken (normalise "0x35a+7ff-800") token := by
    have hother : tokens (normalise " 7FF-800,,0x35A, 0X35a") =
        ["7ff-800".toList, "0x35a".toList, "0x35a".toList] := rfl
    have hspec : tokens (normalise "0x35a+7ff-800") = ["0x35a".toList, "7ff-800".toList] := rfl
    intro token
    rw [← mem_tokens, ← mem_tokens, hother, hspec]
    simp only [List.mem_cons, List.not_mem_nil, or_false, or_self]
    exact or_comm
  obtain ⟨-, hids, hsame⟩ := parse_eq_ok_iff_denotes "0x35a+7ff-800"
  exact ⟨_, hparse, rfl, hids _ hparse, (hsame _ htokens _).2 hparse⟩

end RemoteDevice.Can.FilterSet
