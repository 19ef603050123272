import Mathlib.Data.List.Basic
import RemoteDevice.Proofs.Client.Remote
import RemoteDevice.Proofs.Server.Validation
import RemoteDevice.Proofs.Transport.Endpoint

/-!
# Proofs.Client.Naming — the device that a name opens

A client takes the name of its device from the first field of its options, without the blanks around
it, and sends it with a zero byte behind it; the server reads what stands before the first zero byte.
A configuration may give a device any name that is not empty. A name comes through whole if it has
neither a comma nor a zero character in it and no blank at its ends: a client made with such a name
opens the device of this name, whatever has become of the server. A client made with any other name is
refused, or asks for a device of another name, which the server may have as well.
-/

namespace RemoteDevice

open Options Server Wire

/-! ## The name that arrives -/

namespace Client

/-- The name that the server reads when a client made with these options opens its device. -/
def heard (options : String) : String :=
  Text.beforeZero (field options 0)

/-- A name that comes through whole: a single field, trimmed already, without a zero character. -/
structure Carried (name : String) : Prop where
  noComma : ',' ∉ name.toList
  trimmed : Text.trim name.toList = name.toList
  noZero : Char.ofNat 0 ∉ name.toList

/-- A name that is carried is its own first field. -/
theorem Carried.field_zero {name : String} (h : Carried name) : field name 0 = name :=
  field_zero_of_toList h.noComma h.trimmed

/-- The name that the server reads is the one that was given exactly if that one comes through
whole: every step only shortens it. -/
theorem heard_eq_self_iff {name : String} : heard name = name ↔ Carried name := by
  constructor
  · intro hsame
    have hheard : (heard name).toList =
        (Text.trim (name.toList.takeWhile (· != ','))).takeWhile (· != Char.ofNat 0) := by
      rw [heard, Text.beforeZero, String.toList_ofList, field_zero, String.toList_ofList]
    have hread : (heard name).toList.Sublist (Text.trim (name.toList.takeWhile (· != ','))) := by
      rw [hheard]
      exact List.takeWhile_sublist _
    rw [hsame] at hheard hread
    have hcut : name.toList.takeWhile (· != ',') = name.toList :=
      (List.takeWhile_sublist _).antisymm (hread.trans (Text.trim_sublist _))
    have htrim : Text.trim name.toList = name.toList := by
      rw [hcut] at hread
      exact (Text.trim_sublist _).antisymm hread
    rw [hcut, htrim] at hheard
    constructor
    · exact Text.takeWhile_bne_eq_self_iff.1 hcut
    · exact htrim
    · exact Text.takeWhile_bne_eq_self_iff.1 hheard.symm
  · intro h
    rw [heard, h.field_zero, Text.beforeZero, Text.takeWhile_bne_eq_self_iff.2 h.noZero,
      String.ofList_toList]

/-- A client is made of whatever field there is. -/
theorem make_eq {target : String} {endpoint : Endpoint}
    (htarget : parseEndpoint target Wire.defaultPort = .ok endpoint) (options : String) :
    make target options =
      if field options 0 = "" then .error (.malformed .deviceName)
      else .ok { endpoint, device := field options 0 } := by
  unfold make
  simp only [htarget, bind, Except.bind]

/-- The server reads the name of an opening up to the first zero byte. -/
theorem deviceName_openRequest_eq (device : String) :
    deviceName (openRequest device).payload = Text.beforeZero device := by
  obtain ⟨rest, hrest⟩ := Text.encode_concat_eq device
  show Text.decodeLossy ((Text.encode device ++ [0]).takeWhile (· ≠ 0)) = _
  rw [hrest, Text.takeWhile_encode_append (Text.zero_notMem_beforeZero device),
    Text.decodeLossy_encode]

/-- The server reads of a client's opening the name that is heard of the client's options. -/
theorem deviceName_of_make {target options : String} {client : Client}
    (h : make target options = .ok client) :
    deviceName (openRequest client.device).payload = heard options := by
  have hdevice : client.device = field options 0 := by
    cases hendpoint : parseEndpoint target Wire.defaultPort with
    | error e => simp [make, hendpoint, bind, Except.bind] at h
    | ok endpoint =>
      rw [make_eq hendpoint] at h
      split at h
      · cases h
      · cases h
        rfl
  rw [deviceName_openRequest_eq, hdevice, heard]

end Client

/-! ## The device that is found -/

namespace Server

variable {τ : Type}

/-- Who asks to open a device with this payload is told about this one. -/
structure Registry.Finds (r : Registry τ) (payload : Bytes) (d : DeviceConfig) : Prop where
  device : ∃ device, r.get? (deviceName payload) = some device ∧ device.config = d
  known : ∀ session : Session, session.beginOpen payload r ≠ .error .noEntry
  opens : ∀ (session : Session) o r', session.beginOpen payload r = .ok (o, r') → o.device = d.name

/-- The server finds the device that is configured under the name it read. -/
theorem Registry.finds_iff {r : Registry τ} {payload : Bytes} {d : DeviceConfig} :
    r.Finds payload d ↔ (r.get? (deviceName payload)).map (·.config) = some d := by
  rw [Option.map_eq_some_iff]
  constructor
  · exact Finds.device
  · rintro ⟨device, hget, rfl⟩
    constructor
    · exact ⟨device, hget, rfl⟩
    · intro session hnone
      rcases Session.beginOpen_eq_error hnone with ⟨hget', -⟩ | ⟨-, hstatus⟩ | ⟨-, -, hstatus⟩
      · rw [hget] at hget'
        cases hget'
      · cases hstatus
      · cases hstatus
    · intro session o r' hopen
      rw [Session.device_of_beginOpen hopen, ← Registry.name_of_get? hget]
      rfl

/-- Whatever has happened on a server, a name stands for the device that is configured under it. -/
theorem System.Run.config_make [Transport τ] {configs : List DeviceConfig} {catalog : Catalog τ}
    {trace : Trace} {s : System τ} (hrun : System.Run (System.start (.make configs catalog)) trace s)
    (hdistinct : (configs.map (·.name)).Nodup) (name : String) :
    (s.registry.get? name).map (·.config) = configs.find? (·.name = name) := by
  rw [hrun.config name, Registry.get?_make_eq catalog hdistinct, Option.map_map]
  exact Option.map_id'

end Server

open Client in
/-- Which of the devices of a valid configuration a client made with one of their names opens,
whatever has happened on the server. If the name comes through whole, the client is made and opens
the device of this name. Otherwise the client is refused for want of a name, or the server reads
another name and finds the device of that name, if there is one. -/
theorem opens_named {σ τ : Type} [Transport τ] {c : Configuration} {catalog : Catalog σ}
    {making : Catalog τ} {trace : Trace} {s : System τ} {d : DeviceConfig} {target : String}
    {endpoint : Endpoint} (hvalid : c.validate catalog = .ok ()) (hd : d ∈ c.devices)
    (hlength : (Text.encode d.name).length < maxPayload)
    (htarget : parseEndpoint target Wire.defaultPort = .ok endpoint)
    (hrun : System.Run (System.start (.make c.devices making)) trace s) :
    (Carried d.name → ∃ client, Client.make target d.name = .ok client ∧
      (∃ data, (openRequest client.device).encode = .ok data) ∧
      s.registry.Finds (openRequest client.device).payload d) ∧
    (¬ Carried d.name → Client.make target d.name = .error (.malformed .deviceName) ∨
      ∃ client, Client.make target d.name = .ok client ∧ heard d.name ≠ d.name ∧
        deviceName (openRequest client.device).payload = heard d.name ∧
        (s.registry.get? (heard d.name)).map (·.config) =
          c.devices.find? (·.name = heard d.name)) := by
  have hrules := Configuration.validate_eq_ok_iff.1 hvalid
  have hfound := hrun.config_make hrules.distinct
  constructor
  · intro hcarried
    have hmade : Client.make target d.name = .ok { endpoint, device := d.name } := by
      rw [make_eq htarget, hcarried.field_zero, if_neg (hrules.named d hd)]
    refine ⟨_, hmade, encode_openRequest hlength, Registry.finds_iff.2 ?_⟩
    rw [deviceName_of_make hmade, heard_eq_self_iff.2 hcarried, hfound]
    exact Registry.find?_of_distinct hrules.distinct hd
  · intro hcarried
    by_cases hfield : field d.name 0 = ""
    · left
      rw [make_eq htarget, if_pos hfield]
    · right
      have hmade := make_eq htarget d.name
      rw [if_neg hfield] at hmade
      exact ⟨_, hmade, fun hsame => hcarried (heard_eq_self_iff.1 hsame),
        deviceName_of_make hmade, hfound _⟩

/-- A name with a blank within it comes through whole. -/
theorem opens_named_of_two_words :
    let meter : DeviceConfig := { name := "power meter", kind := "ip", target := "gw:23" }
    let sink : DeviceConfig := { name := "power", kind := "null" }
    let catalog : Catalog OnHost := .default ⟨false, {}⟩
    ∃ client, Client.make "host" "power meter" = .ok client ∧
      (Registry.make [meter, sink] catalog).Finds (Client.openRequest client.device).payload
        meter := by
  intro meter sink catalog
  have hlength : (Text.encode meter.name).length < maxPayload := by
    rw [Text.length_encode]
    decide
  have hcarried : Client.Carried meter.name := by
    constructor <;> decide
  let c : Configuration := { devices := [meter, sink] }
  have hvalid : c.validate catalog = .ok () := rfl
  have htarget : parseEndpoint "host" Wire.defaultPort = .ok ⟨"host", 3930⟩ := rfl
  have hrun : System.Run (System.start (.make c.devices catalog)) []
      (System.start (.make c.devices catalog)) := .rest
  obtain ⟨hwhole, -⟩ := opens_named hvalid List.mem_cons_self hlength htarget hrun
  obtain ⟨client, hmade, -, hfinds⟩ := hwhole hcarried
  exact ⟨client, hmade, hfinds⟩

/-- Four names that are configured and do not come through: whoever gives the second, the third or
the fourth opens the device `a`, and whoever gives the last is told that there is no name. -/
theorem opens_another :
    let device (name : String) : DeviceConfig := { name, kind := "null" }
    let c : Configuration := { devices := ["a", "a,b", " a", "a\x00b", ","].map device }
    let catalog : Catalog OnHost := .default ⟨false, {}⟩
    c.validate catalog = .ok () ∧
    (∀ d ∈ c.devices, (Text.encode d.name).length < maxPayload) ∧
    (∀ name ∈ ["a,b", " a", "a\x00b"], ∃ client, Client.make "host" name = .ok client ∧
      (Registry.make c.devices catalog).get? (deviceName (Client.openRequest client.device).payload) =
        some { config := device "a" }) ∧
    Client.make "host" "," = .error (.malformed .deviceName) := by
  intro device c catalog
  have hvalid : c.validate catalog = .ok () := rfl
  have hlength : ∀ d ∈ c.devices, (Text.encode d.name).length < maxPayload := by
    simp only [Text.length_encode]
    decide
  have hheard : ∀ name ∈ ["a,b", " a", "a\x00b"], Client.heard name = "a" ∧
      ∃ client, Client.make "host" name = .ok client := by
    intro name hname
    simp only [List.mem_cons, List.not_mem_nil, or_false] at hname
    rcases hname with rfl | rfl | rfl <;> exact ⟨rfl, _, rfl⟩
  refine ⟨hvalid, hlength, ?_, rfl⟩
  intro name hname
  obtain ⟨hname, client, hmade⟩ := hheard name hname
  refine ⟨client, hmade, ?_⟩
  rw [Client.deviceName_of_make hmade, hname]
  rfl

end RemoteDevice
