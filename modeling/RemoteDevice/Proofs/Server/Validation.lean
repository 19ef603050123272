import RemoteDevice.Proofs.Server.Registry

/-!
# Proofs.Server.Validation — which configurations are accepted

A configuration is accepted if and only if all of its devices keep the rules: each has a name, no two
the same one, a kind that is known, and a target unless it is of the null kind. Otherwise it is
refused for the first device that breaks a rule, by the first rule it breaks. The registry of an
accepted configuration has one device for each that is configured, found by its name, and no others.
-/

namespace RemoteDevice.Server

variable {τ : Type}

namespace Configuration

/-! ## The rules -/

/-- The devices keep the rules. -/
structure Valid (catalog : Catalog τ) (ds : List DeviceConfig) : Prop where
  named : ∀ d ∈ ds, d.name ≠ ""
  distinct : (ds.map (·.name)).Nodup
  known : ∀ d ∈ ds, catalog.contains d.kind = true
  targeted : ∀ d ∈ ds, d.kind ≠ NullDevice.kind → d.target ≠ ""

/-- A device breaks a rule behind others; the error is that of the first rule it breaks. -/
inductive Breaks (catalog : Catalog τ) (before : List DeviceConfig) (d : DeviceConfig) :
    Error → Prop
  | name : d.name = "" → Breaks catalog before d (.missingName before.length)
  | duplicate : d.name ≠ "" → d.name ∈ before.map (·.name) →
      Breaks catalog before d (.duplicate d.name)
  | kind : d.name ≠ "" → d.name ∉ before.map (·.name) → catalog.contains d.kind = false →
      Breaks catalog before d (.unknownKind d.name d.kind)
  | target : d.name ≠ "" → d.name ∉ before.map (·.name) → catalog.contains d.kind = true →
      d.kind ≠ NullDevice.kind → d.target = "" → Breaks catalog before d (.missingTarget d.name)

/-- The first of the devices that breaks a rule does so with the error. -/
def FirstBreak (catalog : Catalog τ) (ds : List DeviceConfig) (e : Error) : Prop :=
  ∃ before d after, ds = before ++ d :: after ∧ Valid catalog before ∧ Breaks catalog before d e

variable {catalog : Catalog τ} {before after ds : List DeviceConfig} {d : DeviceConfig}
  {e e' : Error}

theorem Valid.nil : Valid catalog [] := by
  constructor <;> simp

/-- One device more keeps the rules unless it breaks one of them. -/
theorem Valid.concat (h : Valid catalog before) (hname : d.name ≠ "")
    (hnew : d.name ∉ before.map (·.name)) (hkind : catalog.contains d.kind = true)
    (htarget : d.kind ≠ NullDevice.kind → d.target ≠ "") : Valid catalog (before ++ [d]) := by
  have hmem : ∀ f ∈ before ++ [d], f ∈ before ∨ f = d := by simp
  constructor
  · intro f hf
    rcases hmem f hf with hf | rfl
    · exact h.named f hf
    · exact hname
  · rw [List.map_append, List.nodup_append]
    refine ⟨h.distinct, List.pairwise_singleton _ _, ?_⟩
    intro x hx y hy heq
    rw [heq, List.mem_singleton.1 hy] at hx
    exact hnew hx
  · intro f hf
    rcases hmem f hf with hf | rfl
    · exact h.known f hf
    · exact hkind
  · intro f hf
    rcases hmem f hf with hf | rfl
    · exact h.targeted f hf
    · exact htarget

/-- A device that breaks a rule is one too many, whatever comes behind it. -/
theorem Breaks.not_valid (h : Breaks catalog before d e) :
    ¬ Valid catalog (before ++ d :: after) := by
  intro hvalid
  have hd : d ∈ before ++ d :: after := List.mem_append_right _ List.mem_cons_self
  cases h with
  | name hname => exact hvalid.named d hd hname
  | duplicate _ hold =>
    have hnames := hvalid.distinct
    rw [List.map_append, List.map_cons, List.nodup_append] at hnames
    exact hnames.2.2 _ hold _ List.mem_cons_self rfl
  | kind _ _ hunknown =>
    have hknown := hvalid.known d hd
    rw [hunknown] at hknown
    cases hknown
  | target _ _ _ hkind htarget => exact hvalid.targeted d hd hkind htarget

/-- A device breaks one rule at a time: the first in the order in which they are checked. -/
theorem Breaks.unique (h : Breaks catalog before d e) (h' : Breaks catalog before d e') :
    e' = e := by
  cases h <;> cases h' <;> simp_all

/-- Devices of which one breaks a rule are not valid. -/
theorem FirstBreak.not_valid (h : FirstBreak catalog ds e) : ¬ Valid catalog ds := by
  obtain ⟨before, d, after, rfl, -, hbreaks⟩ := h
  exact hbreaks.not_valid

/-- Only one device is the first to break a rule, since those before it keep them all. -/
theorem FirstBreak.unique (h : FirstBreak catalog ds e) (h' : FirstBreak catalog ds e') :
    e' = e := by
  obtain ⟨before, d, after, rfl, hbefore, hbreaks⟩ := h
  obtain ⟨before', d', after', heq, hbefore', hbreaks'⟩ := h'
  rcases List.append_eq_append_iff.1 heq with ⟨between, rfl, hrest⟩ | ⟨between, rfl, hrest⟩
  · cases between with
    | nil =>
      obtain rfl := (List.cons.inj hrest).1
      rw [List.append_nil] at hbreaks'
      exact hbreaks.unique hbreaks'
    | cons f between =>
      obtain rfl := (List.cons.inj hrest).1
      exact absurd hbefore' hbreaks.not_valid
  · cases between with
    | nil =>
      obtain rfl := (List.cons.inj hrest).1
      rw [List.append_nil] at hbreaks
      exact hbreaks.unique hbreaks'
    | cons f between =>
      obtain rfl := (List.cons.inj hrest).1
      exact absurd hbefore hbreaks'.not_valid

/-! ## Checking -/

/-- The check of one device finds the first rule that it breaks, and nothing if it breaks none. -/
theorem fault?_spec {names : List String} (hnames : ∀ x, x ∈ names ↔ x ∈ before.map (·.name))
    (h : Valid catalog before) (d : DeviceConfig) :
    match fault? catalog before.length names d with
    | some e => Breaks catalog before d e
    | none => Valid catalog (before ++ [d]) := by
  unfold fault?
  by_cases hname : d.name = ""
  · rw [if_pos hname]
    exact .name hname
  rw [if_neg hname]
  by_cases hold : d.name ∈ names
  · rw [if_pos hold]
    exact .duplicate hname ((hnames _).1 hold)
  rw [if_neg hold]
  have hnew : d.name ∉ before.map (·.name) := fun hmem => hold ((hnames _).2 hmem)
  by_cases hkind : catalog.contains d.kind = true
  · rw [if_neg (not_not_intro hkind)]
    by_cases htarget : d.target = "" ∧ d.kind ≠ NullDevice.kind
    · rw [if_pos htarget]
      exact .target hname hnew hkind htarget.2 htarget.1
    · rw [if_neg htarget]
      exact h.concat hname hnew hkind fun hother hnone => htarget ⟨hnone, hother⟩
  · rw [if_pos hkind]
    exact .kind hname hnew (Bool.not_eq_true _ ▸ hkind)

/-- Behind devices that keep the rules, the others are checked one after another. -/
theorem validateFrom_spec {names : List String} (hnames : ∀ x, x ∈ names ↔ x ∈ before.map (·.name))
    (h : Valid catalog before) (ds : List DeviceConfig) :
    match validateFrom catalog before.length names ds with
    | .ok _ => Valid catalog (before ++ ds)
    | .error e => FirstBreak catalog (before ++ ds) e := by
  induction ds generalizing before names with
  | nil => rwa [validateFrom, List.append_nil]
  | cons d ds ih =>
    have hd := fault?_spec hnames h d
    rw [validateFrom]
    cases hfault : fault? catalog before.length names d with
    | some e =>
      rw [hfault] at hd
      exact ⟨before, d, ds, rfl, h, hd⟩
    | none =>
      rw [hfault] at hd
      have hnames' : ∀ x, x ∈ d.name :: names ↔ x ∈ (before ++ [d]).map (·.name) := by
        intro x
        rw [List.mem_cons, hnames, List.map_append, List.mem_append, or_comm, List.map_singleton,
          List.mem_singleton]
      have hrest := ih hnames' hd
      rwa [List.length_append, List.length_singleton, ← List.append_cons] at hrest

/-- The check says whether the devices keep the rules, and else which one breaks which. -/
theorem validate_spec (c : Configuration) (catalog : Catalog τ) :
    match c.validate catalog with
    | .ok _ => Valid catalog c.devices
    | .error e => FirstBreak catalog c.devices e := by
  have hnames : ∀ x, x ∈ ([] : List String) ↔ x ∈ ([] : List DeviceConfig).map (·.name) := by simp
  exact validateFrom_spec hnames .nil c.devices

/-- Exactly the valid devices pass. -/
theorem validate_eq_ok_iff {c : Configuration} :
    c.validate catalog = .ok () ↔ Valid catalog c.devices := by
  have hspec := validate_spec c catalog
  cases hresult : c.validate catalog with
  | ok u =>
    rw [hresult] at hspec
    exact ⟨fun _ => hspec, fun _ => rfl⟩
  | error e =>
    rw [hresult] at hspec
    constructor
    · intro h
      cases h
    · intro h
      exact absurd h hspec.not_valid

/-- An error is that of the first device that breaks a rule. -/
theorem validate_eq_error_iff {c : Configuration} :
    c.validate catalog = .error e ↔ FirstBreak catalog c.devices e := by
  have hspec := validate_spec c catalog
  cases hresult : c.validate catalog with
  | ok u =>
    rw [hresult] at hspec
    constructor
    · intro h
      cases h
    · intro h
      exact absurd hspec h.not_valid
  | error e' =>
    rw [hresult] at hspec
    constructor
    · intro h
      rwa [Except.error.inj h] at hspec
    · intro h
      rw [h.unique hspec]

end Configuration

/-! ## The registry of a configuration -/

namespace Registry

/-- A device of a new name is put behind the others. -/
theorem put_of_new {d : Device} {ds : List Device} (h : d.name ∉ ds.map (·.name)) :
    put d ds = ds ++ [d] := by
  have hother : ∀ e ∈ ds, e.name ≠ d.name := by
    intro e he heq
    exact h (heq ▸ List.mem_map_of_mem he)
  rw [put, List.filter_eq_self.2]
  intro e he
  exact decide_eq_true (hother e he)

/-- Of devices with distinct names the registry has each one, new, in the order in which they are
configured. -/
theorem devices_make {configs : List DeviceConfig} (catalog : Catalog τ)
    (h : (configs.map (·.name)).Nodup) :
    (make configs catalog).devices = configs.map fun c => { config := c } := by
  have hput : ∀ ds : List Device, (ds.map (·.name) ++ configs.map (·.name)).Nodup →
      configs.foldl (fun ds config => put { config } ds) ds =
        ds ++ configs.map fun c => { config := c } := by
    clear h
    induction configs with
    | nil => simp
    | cons c configs ih =>
      intro ds hds
      rw [List.map_cons, List.append_cons] at hds
      have hnew : ({ config := c } : Device).name ∉ ds.map (·.name) := by
        intro hmem
        have hfront := (List.nodup_append.1 hds).1
        exact (List.nodup_append.1 hfront).2.2 _ hmem _ List.mem_cons_self rfl
      rw [List.foldl_cons, put_of_new hnew, ih, List.map_cons, ← List.append_cons]
      rwa [List.map_append]
  have hall := hput [] h
  rwa [List.nil_append] at hall

/-- Where names are distinct, every device is the one that is found under its name. -/
theorem find?_of_distinct {configs : List DeviceConfig} {c : DeviceConfig}
    (h : (configs.map (·.name)).Nodup) (hc : c ∈ configs) :
    configs.find? (·.name = c.name) = some c := by
  obtain ⟨before, after, rfl⟩ := List.append_of_mem hc
  rw [List.map_append, List.map_cons, List.nodup_append] at h
  have hbefore : before.find? (·.name = c.name) = none := by
    rw [List.find?_eq_none]
    intro e he heq
    exact h.2.2 _ (List.mem_map_of_mem he) _ List.mem_cons_self (of_decide_eq_true heq)
  rw [List.find?_append, hbefore, Option.none_or]
  exact List.find?_cons_of_pos (decide_eq_true rfl)

/-- Where names are distinct, none of the configured devices replaces another. -/
theorem get?_make_eq {configs : List DeviceConfig} (catalog : Catalog τ)
    (h : (configs.map (·.name)).Nodup) (name : String) :
    (make configs catalog).get? name =
      (configs.find? (·.name = name)).map fun c => { config := c } := by
  rw [get?, devices_make catalog h, List.find?_map]
  rfl

/-- A configured device is found by its name. -/
theorem get?_make_of_mem {configs : List DeviceConfig} {c : DeviceConfig} (catalog : Catalog τ)
    (h : (configs.map (·.name)).Nodup) (hc : c ∈ configs) :
    (make configs catalog).get? c.name = some { config := c } := by
  rw [get?_make_eq catalog h, find?_of_distinct h hc]
  rfl

/-- No device is found by a name that is not configured. -/
theorem get?_make_of_notMem {configs : List DeviceConfig} {name : String} (catalog : Catalog τ)
    (h : (configs.map (·.name)).Nodup) (hname : name ∉ configs.map (·.name)) :
    (make configs catalog).get? name = none := by
  rw [get?_make_eq catalog h, Option.map_eq_none_iff, List.find?_eq_none]
  intro c hc heq
  exact hname (of_decide_eq_true heq ▸ List.mem_map_of_mem hc)

end Registry

/-! ## Configurations and registries -/

/-- A configuration is accepted exactly if its devices keep the rules, and refused with the error of
the first rule that the first offending device breaks. The registry of an accepted one holds exactly
one device for each that is configured: a name gives the device configured under it, and any other
name gives none. -/
theorem validation_exact (c : Configuration) (catalog : Catalog τ) :
    (c.validate catalog = .ok () ↔ Configuration.Valid catalog c.devices) ∧
    (∀ e, c.validate catalog = .error e ↔ ∃ before d after, c.devices = before ++ d :: after ∧
      Configuration.Valid catalog before ∧ Configuration.Breaks catalog before d e) ∧
    (c.validate catalog = .ok () → ∀ making : Catalog τ,
      (Registry.make c.devices making).devices = c.devices.map (fun d => { config := d }) ∧
      (∀ d ∈ c.devices, (Registry.make c.devices making).get? d.name = some { config := d }) ∧
      ∀ name, name ∉ c.devices.map (·.name) →
        (Registry.make c.devices making).get? name = none) := by
  refine ⟨Configuration.validate_eq_ok_iff, fun e => Configuration.validate_eq_error_iff, ?_⟩
  intro hvalid making
  have hdistinct := (Configuration.validate_eq_ok_iff.1 hvalid).distinct
  refine ⟨Registry.devices_make making hdistinct, ?_, ?_⟩
  · intro d hd
    exact Registry.get?_make_of_mem making hdistinct hd
  · intro name hname
    exact Registry.get?_make_of_notMem making hdistinct hname

/-- A shared line and a device of the null kind, which needs no target. -/
theorem validation_exact_of_two :
    let line : DeviceConfig := { name := "meter", kind := "ip", target := "gw:23", shared := true }
    let null : DeviceConfig := { name := "sink", kind := "null" }
    let c : Configuration := { devices := [line, null] }
    let catalog : Catalog NullDevice :=
      ⟨[("ip", fun _ _ => .ok {}), ("null", fun _ _ => .ok {})]⟩
    c.validate catalog = .ok () ∧
      (Registry.make c.devices catalog).get? "sink" = some { config := null } ∧
      (Registry.make c.devices catalog).get? "ip" = none := by
  intro line null c catalog
  have hvalid : c.validate catalog = .ok () := rfl
  obtain ⟨-, -, hregistry⟩ := validation_exact c catalog
  obtain ⟨-, hfound, hnone⟩ := hregistry hvalid catalog
  exact ⟨hvalid, hfound null (by simp [c]), hnone "ip" (by decide)⟩

end RemoteDevice.Server
