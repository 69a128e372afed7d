import NexusN3.Lib.Dict
import NexusN3.Lib.SerialChoice
import NexusN3.Lib.Text
import Mathlib.Data.List.Find
import Mathlib.Data.List.Perm.Subperm
import Mathlib.Algebra.GroupWithZero.Nat

/-!
# The devices that a discovery gives to its sensors

The sensors take the discovered devices one after another, each the first one left that shows its
identity. The matches are then counted by name, and paired with the sensors by position.

* **`matchDevices`**, **`validateMatchedDevices`** — the functions of the source.
* **`valid_iff`** — the matches are valid exactly when every sensor has got one.
* **`Sound`**, **`Complete`** — what a discovery is for.
* **`sound_complete_iff`** — when it is that.
-/

namespace NexusN3.Sensors.Matching

open Lib

structure TextEnv where
  /-- `str.casefold` -/
  casefold : String → String
  /-- `str.lower` -/
  lower : String → String

structure BLEDevice where
  name : Option String
deriving DecidableEq

structure AdvertisementData where
  localName : Option String
  serviceUuids : List String
deriving DecidableEq

/-- What the matching reads of a sensor; the lists are those of its discovery specification. -/
structure Sensor where
  name : String
  localNamePrefixes : List String
  serviceUuids : List String

inductive Requested where
  | ofName (name : String)
  | ofSensor (sensor : Sensor)

def Requested.label : Requested → String
  | .ofName name => name
  | .ofSensor sensor => sensor.name

/-- `{address: (device, advertisement_data)}`. -/
abbrev Devices := Dict String (BLEDevice × AdvertisementData)

/-! ## Matching -/

/-- `a or b` -/
def orElse (a : Option String) (b : String) : String :=
  match a with
  | none => b
  | some text => if text = "" then b else text

def localName (device : BLEDevice) (advData : AdvertisementData) : String :=
  orElse advData.localName (orElse device.name "")

def startsWith (text start : String) : Bool := start.toList.isPrefixOf text.toList

def normalizedUuids (env : TextEnv) (values : List String) : List String :=
  (values.filter fun value => value ≠ "").map fun value => env.lower (strip value)

/-- `_matches_discovery_identity`. -/
def matchesDiscoveryIdentity (env : TextEnv) (requested : Requested) (device : BLEDevice)
    (advData : AdvertisementData) : Bool :=
  let localName := localName device advData
  match requested with
  | .ofName requested => decide (localName = requested) || startsWith localName requested
  | .ofSensor requested =>
    let serviceUuids := normalizedUuids env requested.serviceUuids
    let advertisedServices := normalizedUuids env advData.serviceUuids
    let normalizedName := env.casefold (strip localName)
    (advertisedServices.any fun uuid => decide (uuid ∈ serviceUuids)) ||
      (requested.localNamePrefixes.any fun p =>
        decide (strip p ≠ "") && startsWith normalizedName (env.casefold (strip p))) ||
      decide (localName = requested.name) || startsWith localName requested.name

/-- An entry with no `matchedName` is a pair. -/
structure MatchedDevice where
  device : BLEDevice
  advData : AdvertisementData
  matchedName : Option String
deriving DecidableEq

def matchFrom (env : TextEnv) (devices : Devices) :
    List String → List Requested → List MatchedDevice
  | _, [] => []
  | usedAddresses, requested :: rest =>
    match devices.entries.find? fun e =>
        decide (e.1 ∉ usedAddresses) && matchesDiscoveryIdentity env requested e.2.1 e.2.2 with
    | some (address, device, advData) =>
      ⟨device, advData, some requested.label⟩ ::
        matchFrom env devices (address :: usedAddresses) rest
    | none => matchFrom env devices usedAddresses rest

/-- `match_devices`. -/
def matchDevices (env : TextEnv) (requestedSensors : List Requested) (devices : Devices) :
    List MatchedDevice :=
  matchFrom env devices [] requestedSensors

/-! ## Validation -/

structure DevicesValid where
  valid : Bool
  missing : List String
  found : Nat

/-- `counts[name] = counts.get(name, 0) + 1`, for one name after another. -/
def countNames {κ : Type} [DecidableEq κ] (names : List κ) : Dict κ Nat :=
  names.foldl (fun counts name => counts.set name ((counts.get? name).getD 0 + 1)) Dict.empty

/-- The name that an entry counts for; a pair may have none. -/
def MatchedDevice.countedName (entry : MatchedDevice) : Option String :=
  match entry.matchedName with
  | some matchedName => some matchedName
  | none => entry.advData.localName

/-- `validate_matched_devices`. -/
def validateMatchedDevices (sensors : List Sensor) (matchedDevices : List MatchedDevice) :
    DevicesValid :=
  let requiredCounts := countNames (sensors.map Sensor.name)
  let foundCounts := countNames (matchedDevices.map MatchedDevice.countedName)
  let missing := requiredCounts.entries.filterMap fun required =>
    let found := (foundCounts.get? (some required.1)).getD 0
    if found < required.2 then some s!"{required.1} missing {required.2 - found}" else none
  { valid := decide (missing.length = 0)
    missing := missing
    found := (requiredCounts.keys.map fun name =>
      min ((requiredCounts.get? name).getD 0) ((foundCounts.get? (some name)).getD 0)).sum }

section Counts

variable {κ : Type} [DecidableEq κ]

theorem get?_countNames_from [BEq κ] [LawfulBEq κ] (names : List κ) (counts : Dict κ Nat) (k : κ) :
    ((names.foldl (fun counts name => counts.set name ((counts.get? name).getD 0 + 1)) counts).get?
      k).getD 0 = (counts.get? k).getD 0 + names.count k := by
  induction names generalizing counts with
  | nil => rfl
  | cons name names ih =>
    rw [List.foldl_cons, ih, Dict.get?_set, List.count_cons]
    by_cases hname : name = k
    · subst hname
      rw [if_pos rfl, if_pos (beq_self_eq_true name), Option.getD_some]
      omega
    · rw [if_neg hname, if_neg (by simpa using hname)]
      omega

@[simp] theorem get?_countNames [BEq κ] [LawfulBEq κ] (names : List κ) (k : κ) :
    ((countNames names).get? k).getD 0 = names.count k := by
  rw [countNames, get?_countNames_from]
  simp

theorem mem_keys_countNames_from (names : List κ) (counts : Dict κ Nat) (k : κ) :
    k ∈ (names.foldl (fun counts name => counts.set name ((counts.get? name).getD 0 + 1))
      counts).keys ↔ k ∈ counts.keys ∨ k ∈ names := by
  induction names generalizing counts with
  | nil => simp
  | cons name names ih =>
    rw [List.foldl_cons, ih, Dict.mem_keys_set, List.mem_cons]
    tauto

@[simp] theorem mem_keys_countNames {names : List κ} {k : κ} :
    k ∈ (countNames names).keys ↔ k ∈ names := by
  rw [countNames, mem_keys_countNames_from]
  simp

end Counts

section Validation

variable {sensors : List Sensor} {matched : List MatchedDevice}

/-- No name is counted less often among the matches than among the sensors. -/
theorem valid_iff_counts : (validateMatchedDevices sensors matched).valid = true ↔
    ∀ name ∈ sensors.map Sensor.name, (sensors.map Sensor.name).count name
      ≤ (matched.map MatchedDevice.countedName).count (some name) := by
  unfold validateMatchedDevices
  simp only [decide_eq_true_eq, List.length_eq_zero_iff, List.filterMap_eq_nil_iff]
  constructor
  · intro hnone name hname
    obtain ⟨required, hrequired⟩ :=
      Option.isSome_iff_exists.mp (Dict.get?_isSome_iff.mpr (mem_keys_countNames.mpr hname))
    have hcount := get?_countNames (sensors.map Sensor.name) name
    rw [hrequired, Option.getD_some] at hcount
    have henough := hnone (name, required) (Dict.get?_eq_some_iff.mp hrequired)
    rw [get?_countNames] at henough
    dsimp only at henough
    by_contra hless
    rw [if_pos (by omega)] at henough
    cases henough
  · intro hcounts required hrequired
    have hget := Dict.get?_eq_some_iff.mpr hrequired
    have hname := mem_keys_countNames.mp (Dict.mem_keys_of_get? hget)
    have hcount := get?_countNames (sensors.map Sensor.name) required.1
    rw [hget, Option.getD_some] at hcount
    rw [get?_countNames, if_neg]
    have := hcounts required.1 hname
    omega

end Validation

/-! ## The devices chosen -/

/-- Whether the device at an address shows the identity. -/
def satisfies (env : TextEnv) (devices : Devices) (requested : Requested) (address : String) :
    Bool :=
  (devices.get? address).any fun e => matchesDiscoveryIdentity env requested e.1 e.2

/-- The addresses that the scan takes. -/
def chosen (env : TextEnv) (devices : Devices) (requestedSensors : List Requested) :
    List (Option String) :=
  serialChoice (satisfies env devices) devices.keys [] requestedSensors

section Chosen

variable {env : TextEnv} {devices : Devices}

theorem pick_eq_find? (usedAddresses : List String) (requested : Requested) :
    pick (satisfies env devices) devices.keys usedAddresses requested
      = (devices.entries.find? fun e =>
          decide (e.1 ∉ usedAddresses) && matchesDiscoveryIdentity env requested e.2.1 e.2.2).map
            Prod.fst := by
  unfold pick Dict.keys
  rw [List.find?_map]
  congr 1
  apply List.find?_congr
  intro e he
  have hget : devices.get? e.1 = some e.2 := Dict.get?_eq_some_iff.mpr he
  simp [satisfies, hget]

/-- The matches are the devices at the addresses taken, in their order. -/
theorem matchFrom_at_chosen (usedAddresses : List String) (requested : List Requested) :
    List.Forall₂ (fun address m => devices.get? address = some (m.device, m.advData))
      (serialChoice (satisfies env devices) devices.keys usedAddresses requested).reduceOption
      (matchFrom env devices usedAddresses requested) := by
  induction requested generalizing usedAddresses with
  | nil => exact .nil
  | cons requested rest ih =>
    rw [serialChoice, matchFrom, pick_eq_find?]
    cases hfind : devices.entries.find? fun e =>
        decide (e.1 ∉ usedAddresses) && matchesDiscoveryIdentity env requested e.2.1 e.2.2 with
    | none =>
      rw [Option.map_none]
      show List.Forall₂ _ (none :: _).reduceOption _
      rw [List.reduceOption_cons_of_none]
      exact ih usedAddresses
    | some e =>
      obtain ⟨address, device, advData⟩ := e
      rw [Option.map_some]
      show List.Forall₂ _ (some address :: _).reduceOption _
      rw [List.reduceOption_cons_of_some]
      exact .cons (Dict.get?_eq_some_iff.mpr (List.mem_of_find?_eq_some hfind)) (ih _)

theorem matchFrom_names (usedAddresses : List String) (requested : List Requested) :
    ((matchFrom env devices usedAddresses requested).map MatchedDevice.countedName).Sublist
      (requested.map fun r => some r.label) := by
  induction requested generalizing usedAddresses with
  | nil => exact List.Sublist.slnil
  | cons requested rest ih =>
    rw [matchFrom]
    split
    · exact (ih _).cons_cons _
    · exact (ih _).cons _

theorem length_matchDevices (requested : List Requested) :
    (matchDevices env requested devices).length
      = (chosen env devices requested).reduceOption.length :=
  (matchFrom_at_chosen [] requested).length_eq.symm

/-- The matches are as many as the requests exactly when every request has chosen. -/
theorem length_matchDevices_eq_iff {requested : List Requested} :
    (matchDevices env requested devices).length = requested.length ↔
      ∃ own : List String, chosen env devices requested = own.map some := by
  rw [length_matchDevices]
  exact length_reduceOption_serialChoice_iff

/-- The matches of a list of sensors are valid exactly when every sensor has chosen. The names are
those of some of the sensors in their order, so that enough of each name are all. -/
theorem valid_iff {sensors : List Sensor} :
    (validateMatchedDevices sensors
      (matchDevices env (sensors.map .ofSensor) devices)).valid = true ↔
      ∃ own : List String, chosen env devices (sensors.map .ofSensor) = own.map some := by
  rw [← length_matchDevices_eq_iff, valid_iff_counts, List.length_map]
  have hnames := @matchFrom_names env devices [] (sensors.map .ofSensor)
  have hlabels : (sensors.map Requested.ofSensor).map (fun r => some r.label)
      = (sensors.map Sensor.name).map some := by
    rw [List.map_map, List.map_map]
    rfl
  rw [hlabels] at hnames
  constructor
  · intro hcounts
    have hsub : List.Subperm ((sensors.map Sensor.name).map some)
        ((matchDevices env (sensors.map .ofSensor) devices).map MatchedDevice.countedName) := by
      rw [List.subperm_ext_iff]
      intro counted hcounted
      obtain ⟨name, hname, rfl⟩ := List.mem_map.mp hcounted
      rw [List.count_map_of_injective _ _ (Option.some_injective _)]
      exact hcounts name hname
    have heq := hnames.eq_of_length_le hsub.length_le
    have hlen := congrArg List.length heq
    rwa [List.length_map, List.length_map, List.length_map] at hlen
  · intro hlen name hname
    have heq := hnames.eq_of_length_le (by
      rw [List.length_map, List.length_map, List.length_map]
      exact hlen.ge)
    show _ ≤ ((matchFrom env devices [] _).map MatchedDevice.countedName).count (some name)
    rw [heq, List.count_map_of_injective _ _ (Option.some_injective _)]

end Chosen

/-! ## What a discovery is for -/

/-- Paired by position, every sensor has a discovered device that shows its identity, and no two
have the same. The devices are those at the addresses `own`. -/
structure Paired (env : TextEnv) (devices : Devices) (sensors : List Sensor)
    (matched : List MatchedDevice) (own : List String) : Prop where
  satisfied : List.Forall₂ (fun sensor m =>
    matchesDiscoveryIdentity env (.ofSensor sensor) m.device m.advData = true) sensors matched
  discovered : List.Forall₂ (fun address m =>
    devices.get? address = some (m.device, m.advData)) own matched
  distinct : own.Nodup

/-- Some assignment of distinct devices gives each sensor one that shows its identity. -/
def Assignable (env : TextEnv) (devices : Devices) (sensors : List Sensor) (own : List String) :
    Prop :=
  Assignment (fun sensor => satisfies env devices (.ofSensor sensor)) devices.keys sensors own

def validated (env : TextEnv) (devices : Devices) (sensors : List Sensor) : Bool :=
  (validateMatchedDevices sensors (matchDevices env (sensors.map .ofSensor) devices)).valid

def Sound (env : TextEnv) (devices : Devices) (sensors : List Sensor) : Prop :=
  validated env devices sensors = true →
    ∃ own, Paired env devices sensors (matchDevices env (sensors.map .ofSensor) devices) own

def Complete (env : TextEnv) (devices : Devices) (sensors : List Sensor) : Prop :=
  (∃ own, Assignable env devices sensors own) → validated env devices sensors = true

/-- A device that a sensor accepts and that was discovered before its own belongs to a sensor
before it. -/
def InOrder (env : TextEnv) (devices : Devices) (sensors : List Sensor) (own : List String) :
    Prop :=
  Unenvied (fun sensor => satisfies env devices (.ofSensor sensor)) devices.keys sensors own

section Discovery

variable {env : TextEnv} {devices : Devices} {sensors : List Sensor}

theorem validated_iff : validated env devices sensors = true ↔
    ∃ own, Assignable env devices sensors own ∧ InOrder env devices sensors own := by
  rw [validated, valid_iff]
  apply exists_congr
  intro own
  rw [chosen, serialChoice_map]
  exact serialChoice_eq_iff

/-- The device at an address that a sensor accepts shows its identity. -/
theorem satisfied_of_accepted {own : List String} {matched : List MatchedDevice}
    (haccepted : List.Forall₂ (fun sensor address =>
      satisfies env devices (.ofSensor sensor) address = true) sensors own)
    (hdevices : List.Forall₂ (fun address m =>
      devices.get? address = some (m.device, m.advData)) own matched) :
    List.Forall₂ (fun sensor m =>
      matchesDiscoveryIdentity env (.ofSensor sensor) m.device m.advData = true)
      sensors matched := by
  induction haccepted generalizing matched with
  | nil =>
    cases hdevices
    exact .nil
  | cons haccepts _ ih =>
    cases hdevices with
    | cons hdevice hrest =>
      refine .cons ?_ (ih hrest)
      rwa [satisfies, hdevice, Option.any_some] at haccepts

theorem paired_of_chosen {own : List String}
    (hown : chosen env devices (sensors.map .ofSensor) = own.map some) :
    Paired env devices sensors (matchDevices env (sensors.map .ofSensor) devices) own := by
  have hsome : (own.map some).reduceOption = own := by simp [List.reduceOption]
  have hdevices := @matchFrom_at_chosen env devices [] (sensors.map .ofSensor)
  rw [chosen] at hown
  rw [hown, hsome] at hdevices
  rw [serialChoice_map] at hown
  obtain ⟨hassigned, -⟩ := serialChoice_eq_iff.mp hown
  exact ⟨satisfied_of_accepted hassigned.accepted hdevices, hdevices, hassigned.distinct⟩

/-- **Soundness.** -/
theorem sound : Sound env devices sensors := by
  intro hvalid
  obtain ⟨own, hown⟩ := valid_iff.mp hvalid
  exact ⟨own, paired_of_chosen hown⟩

/-- **A discovery is sound and complete** exactly when an assignment that is in order exists
wherever one exists at all. -/
theorem sound_complete_iff (env : TextEnv) (devices : Devices) (sensors : List Sensor) :
    Sound env devices sensors ∧ Complete env devices sensors ↔
      ((∃ own, Assignable env devices sensors own) →
        ∃ own, Assignable env devices sensors own ∧ InOrder env devices sensors own) := by
  rw [and_iff_right sound, Complete, validated_iff]

/-- The first sensor takes the only device of the second, though another one would do for it. -/
theorem not_sound_complete : ¬ ∀ (env : TextEnv) (devices : Devices) (sensors : List Sensor),
    Sound env devices sensors ∧ Complete env devices sensors := by
  intro h
  let env : TextEnv := ⟨id, id⟩
  let devices : Devices := Dict.ofList [("AA:01", ⟨some "Movesense 17"⟩, ⟨some "Movesense 17", []⟩),
    ("AA:02", ⟨some "Movesense 23"⟩, ⟨some "Movesense 23", []⟩)]
  let sensors : List Sensor := [⟨"Movesense", [], []⟩, ⟨"Movesense 17", [], []⟩]
  have hassignable : Assignable env devices sensors ["AA:02", "AA:01"] :=
    ⟨.cons (by decide) (.cons (by decide) .nil), by decide, by decide⟩
  have hvalid := (h env devices sensors).2 ⟨_, hassignable⟩
  revert hvalid
  decide

end Discovery

end NexusN3.Sensors.Matching
