import RemoteDevice.Proofs.Text.Numeral
import RemoteDevice.Proofs.Text.Split
import RemoteDevice.Transport.Options

/-!
# Proofs.Transport.Endpoint — the address in a target

The first field of a target is an address. What stands behind its last colon has to be nothing or a
numeral of sixteen bits; an address that is read always has a port, and written with it and read again
it is the same, whatever the default port is then. Its host is what stands before the last colon. That
an address is not empty is asked of the whole field only: of a colon with a port behind it the host
that is read is empty.
-/

namespace RemoteDevice.Options

open Text

/-! ## The first field -/

/-- The first field is what stands before the first comma, without the blanks around it. -/
theorem field_zero (spec : String) :
    field spec 0 = String.ofList (trim (spec.toList.takeWhile (· != ','))) := by
  unfold field
  rw [← List.head?_eq_getElem?, head?_pieces]
  rfl

theorem comma_notMem_field_zero (spec : String) : ',' ∉ (field spec 0).toList := by
  rw [field_zero, String.toList_ofList]
  intro hmem
  have hne := List.mem_takeWhile_imp ((trim_sublist _).mem hmem)
  simp at hne

theorem isBlank_head_field_zero {spec : String} {c : Char} {rest : List Char}
    (h : (field spec 0).toList = c :: rest) : isBlank c = false := by
  rw [field_zero, String.toList_ofList] at h
  exact isBlank_of_trim_eq_cons h

/-- A text without commas and without blanks at its ends is its own first field. -/
theorem field_zero_of_toList {spec : String} (hcomma : ',' ∉ spec.toList)
    (htrim : trim spec.toList = spec.toList) : field spec 0 = spec := by
  rw [field_zero, takeWhile_bne_eq_self_iff.2 hcomma, htrim, String.ofList_toList]

/-! ## Ports -/

/-- The text is a numeral of sixteen bits, behind one plus sign or none. -/
def IsPort (text : List Char) (n : Nat) : Prop :=
  IsNumeral 10 (dropPlus text) n ∧ n < UInt16.size

/-- A port is read as the default if there is none or if it is zero, and as itself otherwise. -/
theorem parsePort_eq_ok_iff {text : List Char} {default port : UInt16} :
    parsePort text default = .ok port ↔ text = [] ∧ port = default ∨
      ∃ n, IsPort text n ∧ port = if n = 0 then default else UInt16.ofNat n := by
  unfold parsePort IsPort
  simp only [← numeral?_eq_some_iff (by decide : 10 ≤ 16)]
  by_cases hnil : text = []
  · subst hnil
    simp [numeral?, dropPlus, eq_comm]
  · rw [if_neg hnil]
    cases numeral? 10 UInt16.size text with
    | none => simp [hnil]
    | some n => simp [hnil, eq_comm]

/-- A port can be left out; one that is given has to be a numeral. -/
theorem exists_parsePort_iff {text : List Char} {default : UInt16} :
    (∃ port, parsePort text default = .ok port) ↔ text = [] ∨ ∃ n, IsPort text n := by
  simp only [parsePort_eq_ok_iff, exists_or, exists_and_left, exists_eq, and_true]
  rw [exists_comm]
  simp

/-- Zero is not read as a port unless it is the default. -/
theorem parsePort_ne_zero {text : List Char} {default port : UInt16} (hdefault : default ≠ 0)
    (h : parsePort text default = .ok port) : port ≠ 0 := by
  rcases parsePort_eq_ok_iff.1 h with ⟨-, rfl⟩ | ⟨n, ⟨-, hlt⟩, rfl⟩
  · exact hdefault
  · split
    · exact hdefault
    · next hn =>
      intro hzero
      rw [← UInt16.toNat_inj, UInt16.toNat_ofNat_of_lt' hlt] at hzero
      exact hn hzero

/-- A port that is written in decimal is read whatever the default is, unless it is zero. -/
theorem parsePort_toDigits {port : UInt16} (h : port ≠ 0) (default : UInt16) :
    parsePort (Nat.toDigits 10 port.toNat) default = .ok port := by
  have hnumeral := isNumeral_toDigits (by decide : 1 < 10) port.toNat
  have hplus := hnumeral.dropPlus_eq (by decide)
  refine parsePort_eq_ok_iff.2 (Or.inr ⟨port.toNat, ⟨hplus.symm ▸ hnumeral, port.toNat_lt⟩, ?_⟩)
  have hne : port.toNat ≠ 0 := fun hzero => h (UInt16.toNat_inj.1 hzero)
  rw [if_neg hne, UInt16.ofNat_toNat]

/-! ## Addresses -/

variable {target : String} {default : UInt16} {e : Endpoint}

/-- An address without a colon is a host. -/
theorem parseEndpoint_of_notMem (hne : field target 0 ≠ "") (hcolon : ':' ∉ (field target 0).toList) :
    parseEndpoint target default = .ok ⟨field target 0, default⟩ := by
  unfold parseEndpoint
  dsimp only
  rw [if_neg hne, cutLast?_eq_none_iff.2 hcolon]

/-- An address with a colon is a host and a port, with the last colon between them. -/
theorem parseEndpoint_eq_ok_iff {host text : List Char}
    (haddress : (field target 0).toList = host ++ ':' :: text) (hcolon : ':' ∉ text) :
    parseEndpoint target default = .ok e ↔
      e.host = String.ofList host ∧ parsePort text default = .ok e.port := by
  have hne : field target 0 ≠ "" := by
    intro hempty
    simp [hempty] at haddress
  have hread : parseEndpoint target default =
      (parsePort text default).map fun port => ⟨String.ofList host, port⟩ := by
    unfold parseEndpoint
    dsimp only
    rw [if_neg hne, haddress, cutLast?_append hcolon]
  rw [hread]
  cases parsePort text default with
  | error err => simp [Except.map]
  | ok port =>
    cases e
    simp [Except.map, eq_comm]

/-- An endpoint is not read from an empty field. -/
theorem field_ne_of_parseEndpoint (h : parseEndpoint target default = .ok e) :
    field target 0 ≠ "" := by
  intro hempty
  simp [parseEndpoint, hempty] at h

/-- An address that is read has no colon, or its last colon between its host and its port. -/
theorem parseEndpoint_cases (h : parseEndpoint target default = .ok e) :
    ':' ∉ (field target 0).toList ∧ e = ⟨field target 0, default⟩ ∨
      ∃ text, (field target 0).toList = e.host.toList ++ ':' :: text ∧ ':' ∉ text ∧
        parsePort text default = .ok e.port := by
  cases hcut : cutLast? ':' (field target 0).toList with
  | none =>
    have hcolon := cutLast?_eq_none_iff.1 hcut
    rw [parseEndpoint_of_notMem (field_ne_of_parseEndpoint h) hcolon] at h
    exact Or.inl ⟨hcolon, (Except.ok.inj h).symm⟩
  | some parts =>
    obtain ⟨haddress, hcolon⟩ := cutLast?_eq_some_iff.1 hcut
    obtain ⟨hhost, hport⟩ := (parseEndpoint_eq_ok_iff haddress hcolon).1 h
    exact Or.inr ⟨parts.2, by rw [haddress, hhost, String.toList_ofList], hcolon, hport⟩

/-- The address is not empty, and what stands behind its last colon is nothing or a port. -/
theorem exists_parseEndpoint_iff : (∃ e, parseEndpoint target default = .ok e) ↔
    field target 0 ≠ "" ∧ ∀ host text, (field target 0).toList = host ++ ':' :: text → ':' ∉ text →
      text = [] ∨ ∃ n, IsPort text n := by
  constructor
  · rintro ⟨e, h⟩
    refine ⟨field_ne_of_parseEndpoint h, fun host text haddress hcolon => ?_⟩
    obtain ⟨-, hport⟩ := (parseEndpoint_eq_ok_iff haddress hcolon).1 h
    exact exists_parsePort_iff.1 ⟨e.port, hport⟩
  · rintro ⟨hne, hport⟩
    cases hcut : cutLast? ':' (field target 0).toList with
    | none => exact ⟨_, parseEndpoint_of_notMem hne (cutLast?_eq_none_iff.1 hcut)⟩
    | some parts =>
      obtain ⟨haddress, hcolon⟩ := cutLast?_eq_some_iff.1 hcut
      obtain ⟨port, hport⟩ := exists_parsePort_iff.2 (hport _ _ haddress hcolon)
      exact ⟨⟨_, port⟩, (parseEndpoint_eq_ok_iff haddress hcolon).2 ⟨rfl, hport⟩⟩

/-- The host is empty if the last colon is the first character of the address. -/
theorem host_eq_empty_iff (h : parseEndpoint target default = .ok e) :
    e.host = "" ↔ ∃ text, (field target 0).toList = ':' :: text ∧ ':' ∉ text := by
  rcases parseEndpoint_cases h with ⟨hcolon, rfl⟩ | ⟨text, haddress, hcolon, -⟩
  · refine iff_of_false (field_ne_of_parseEndpoint h) ?_
    rintro ⟨text, haddress, -⟩
    simp [haddress] at hcolon
  · rw [← String.toList_eq_nil_iff]
    constructor
    · intro hhost
      exact ⟨text, by rw [haddress, hhost, List.nil_append], hcolon⟩
    · rintro ⟨other, hother, hnone⟩
      rw [haddress] at hother
      exact (last_mark_unique hother.symm hnone hcolon).1.symm

/-! ## Addresses that are written again -/

/-- An address as it is written with its port. -/
def Endpoint.written (e : Endpoint) : String :=
  e.host ++ ":" ++ toString e.port.toNat

theorem Endpoint.toList_written (e : Endpoint) :
    e.written.toList = e.host.toList ++ ':' :: Nat.toDigits 10 e.port.toNat := by
  simp [written, Nat.toString_eq_repr, Nat.toList_repr]

/-- What is true of every address that is read: it has a port, and its host is no more than one field
and does not begin with a blank. -/
structure Endpoint.Settled (e : Endpoint) : Prop where
  port : e.port ≠ 0
  noComma : ',' ∉ e.host.toList
  noBlank : ∀ c ∈ e.host.toList.head?, isBlank c = false

/-- An address that is read has a port and a host of one field. -/
theorem settled_of_parseEndpoint (hdefault : default ≠ 0)
    (h : parseEndpoint target default = .ok e) : e.Settled := by
  have hcomma := comma_notMem_field_zero target
  have hblank : ∀ c rest, (field target 0).toList = c :: rest → isBlank c = false :=
    fun _ _ => isBlank_head_field_zero
  rcases parseEndpoint_cases h with ⟨-, rfl⟩ | ⟨text, haddress, -, hport⟩
  · refine ⟨hdefault, hcomma, fun c hc => ?_⟩
    obtain ⟨rest, hrest⟩ := List.head?_eq_some_iff.1 hc
    exact hblank c rest hrest
  · rw [haddress] at hcomma hblank
    refine ⟨parsePort_ne_zero hdefault hport, ?_, fun c hc => ?_⟩
    · exact fun hmem => hcomma (List.mem_append_left _ hmem)
    · obtain ⟨rest, hrest⟩ := List.head?_eq_some_iff.1 hc
      exact hblank c _ (by rw [hrest, List.cons_append])

/-- An address that was read is written as one field. -/
theorem Endpoint.Settled.field_written (h : e.Settled) : field e.written 0 = e.written := by
  have hnumeral := isNumeral_toDigits (by decide : 1 < 10) e.port.toNat
  apply field_zero_of_toList
  · rw [toList_written]
    intro hmem
    rcases List.mem_append.1 hmem with hmem | hmem
    · exact h.noComma hmem
    · rcases List.mem_cons.1 hmem with heq | hmem
      · simp at heq
      · exact hnumeral.not_mem (by decide) (by decide) hmem
  · rw [toList_written]
    apply trim_eq_self
    · cases hhost : e.host.toList with
      | nil =>
        intro c hc
        obtain rfl := Option.some.inj hc
        decide
      | cons first rest =>
        intro c hc
        exact h.noBlank c (hhost ▸ hc)
    · intro c hc
      rw [List.getLast?_append_of_ne_nil _ (List.cons_ne_nil _ _)] at hc
      rcases List.mem_cons.1 (List.mem_of_getLast? hc) with rfl | hmem
      · decide
      · obtain ⟨d, hd⟩ := hnumeral.exists_isDigit hmem
        exact hd.isBlank_eq_false (by decide)

/-- An address with a port is read as it is written, whatever the default port is. -/
theorem Endpoint.Settled.parseEndpoint_written (h : e.Settled) (default : UInt16) :
    parseEndpoint e.written default = .ok e := by
  have haddress : (field e.written 0).toList = e.host.toList ++ ':' :: Nat.toDigits 10 e.port.toNat := by
    rw [h.field_written, toList_written]
  have hcolon : ':' ∉ Nat.toDigits 10 e.port.toNat :=
    (isNumeral_toDigits (by decide) _).not_mem (by decide) (by decide)
  exact (parseEndpoint_eq_ok_iff haddress hcolon).2
    ⟨String.ofList_toList.symm, parsePort_toDigits h.port default⟩

/-- An address is read exactly if it is not empty and what stands behind its last colon, if it has
one, is empty or a port. With a default port that is not zero, the port that is read is not zero, and
the address is read again as it is written with it, whatever the default is then. Its host is what
stands before the last colon, which is nothing if the address begins with it. -/
theorem endpoint_read_again (target : String) (default : UInt16) (hdefault : default ≠ 0) :
    ((∃ e, parseEndpoint target default = .ok e) ↔ field target 0 ≠ "" ∧
      ∀ host text, (field target 0).toList = host ++ ':' :: text → ':' ∉ text →
        text = [] ∨ ∃ n, IsPort text n) ∧
    ∀ e, parseEndpoint target default = .ok e → e.port ≠ 0 ∧
      (e.host = "" ↔ ∃ text, (field target 0).toList = ':' :: text ∧ ':' ∉ text) ∧
      ∀ other, parseEndpoint e.written other = .ok e := by
  refine ⟨exists_parseEndpoint_iff, fun e h => ?_⟩
  have hsettled := settled_of_parseEndpoint hdefault h
  exact ⟨hsettled.port, host_eq_empty_iff h, hsettled.parseEndpoint_written⟩

/-- An address with several colons and a sign before its port, in a target with a second field. -/
theorem endpoint_read_again_of_colons : ∃ e : Endpoint,
    parseEndpoint " [::1]:+80 ,x" 23 = .ok e ∧ e.port ≠ 0 ∧ e.host ≠ "" ∧
    e.written = "[::1]:80" ∧ parseEndpoint e.written 7 = .ok e := by
  have hread : parseEndpoint " [::1]:+80 ,x" 23 = .ok ⟨"[::1]", 80⟩ := rfl
  obtain ⟨hport, -, hagain⟩ :=
    (endpoint_read_again " [::1]:+80 ,x" 23 (by decide)).2 _ hread
  exact ⟨_, hread, hport, by decide, rfl, hagain 7⟩

/-- An address of nothing but a colon and a port is read, and its host is empty. -/
theorem endpoint_without_host : parseEndpoint ":4000" 3930 = .ok ⟨"", 4000⟩ :=
  rfl

end RemoteDevice.Options
