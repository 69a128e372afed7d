import NexusN3.Lib.Unwinding
import NexusN3.Wifi.Identities

/-!
# Each Wi-Fi sensor and its own plugin instance

The discovery service matches sensors with discovered devices by name and position, and gives each a
handle with the driver that the adapter has recorded for the device.

* **`discoverPending`** — one attempt of the service.
* **`Served`** — what the adapter records are distinct drivers of the call's members, and a handle
  has its sensor's own driver.
* **`KeepsDrivers`**, **`KeepsHandles`** — the condition on a discovery and on an attempt.
* **`served_iff`** — `Served` holds all along a sequence exactly when each discovery meets the
  condition.
-/

namespace NexusN3.Wifi.Assignment

open Lib

structure TextEnv where
  /-- `str.casefold` -/
  casefold : String → String
  /-- `str.upper` -/
  upper : String → String

/-! ## The service -/

/-- `_matches_discovery_identity`, for an advertisement that has a local name only. -/
def matchesDiscoveryIdentity (env : TextEnv) (requested : Sensor) (localName : String) : Bool :=
  (requested.localNamePrefixes.any fun p =>
    decide (strip p ≠ "") &&
      (env.casefold (strip p)).toList.isPrefixOf (env.casefold (strip localName)).toList) ||
    decide (localName = requested.name) || requested.name.toList.isPrefixOf localName.toList

/-- `match_devices`: the matched addresses with the names they were matched for. The devices are
given by address and local name. -/
def matchDevices (env : TextEnv) (devices : List (String × String)) :
    List String → List Sensor → List (String × String)
  | _, [] => []
  | usedAddresses, requested :: rest =>
    match devices.find? fun d =>
        decide (d.1 ∉ usedAddresses) && matchesDiscoveryIdentity env requested d.2 with
    | some d => (d.1, requested.name) :: matchDevices env devices (d.1 :: usedAddresses) rest
    | none => matchDevices env devices usedAddresses rest

/-- `validate_matched_devices`. -/
def validateMatchedDevices (sensors : List Sensor) (matched : List (String × String)) : Bool :=
  sensors.all fun s =>
    decide (sensors.countP (fun t => t.name = s.name) ≤ matched.countP fun m => m.2 = s.name)

def upperAddress (env : TextEnv) (address : String) : String := env.upper (strip address)

def Sensor.give (handle : TransportHandle) (sensor : Sensor) : Sensor :=
  { sensor with address := some handle.address, transportClient := some handle }

/-- The loop that assigns the matched devices. It ends at an address that is excluded. -/
def giveHandles (env : TextEnv) (discovered : Dict String DiscoveredRecord) (promised : Bool) :
    List Sensor → List String → List (Nat × String) → List Sensor
  | sensors, _, [] => sensors
  | sensors, excludedAddresses, (i, address) :: rest =>
    if upperAddress env address ∈ excludedAddresses then sensors
    else
      match discovered.get? address with
      -- `create_transport_client` raises
      | none => sensors.modify i fun s => { s with address := some address }
      | some record =>
        giveHandles env discovered promised
          (sensors.modify i (Sensor.give ⟨address, record.driver, promised⟩))
          (upperAddress env address :: excludedAddresses) rest

/-- The claim's own condition on a discovery. -/
def PromisedGroups (groups : List RequestGroup) (devices : RequestGroup → List String) : Prop :=
  ∀ group ∈ groups, group.drivers.Nodup ∧ (devices group).length ≤ group.members.length

def Promised (recorded : Recorded) : Prop :=
  ∀ r ∈ recorded, r.1.drivers.Nodup ∧ r.2.length ≤ r.1.members.length

instance (recorded : Recorded) : Decidable (Promised recorded) :=
  inferInstanceAs (Decidable (∀ r ∈ recorded, _))

structure System where
  adapter : WifiAdapter
  sensors : List Sensor
  /-- what the last discovery has recorded -/
  recorded : Recorded

/-- The sensors that an attempt is for; `none` is all. -/
abbrev Scope := Option (List Nat)

def Scope.has (scope : Scope) (i : Nat) : Bool :=
  match scope with
  | none => true
  | some requested => decide (i ∈ requested)

def pendingSensors (sensors : List Sensor) (scope : Scope) : List Nat :=
  (List.range sensors.length).filter fun i =>
    scope.has i && (sensors[i]?.elim false fun s => !s.connected)

/-- The addresses of the sensors that are connected or not asked for, and the `others` that the
caller excludes. -/
def excludedAddresses (env : TextEnv) (sensors : List Sensor) (scope : Scope)
    (others : List String) : List String :=
  (sensors.zipIdx.filterMap fun s =>
    match s.1.address with
    | some address =>
      if address ≠ "" ∧ (s.1.connected = true ∨ scope.has s.2 = false) then
        some (env.upper address)
      else none
    | none => none) ++ others.map (upperAddress env)

/-- The discovered devices that may be assigned, by address and local name. -/
def candidates (env : TextEnv) (excluded : List String) (devices : List (String × String)) :
    List (String × String) :=
  devices.filter fun d => upperAddress env d.1 ∉ excluded

/-- The matched addresses, if each sensor has one. -/
def matchedAddresses (env : TextEnv) (sensors : List Sensor) (devices : List (String × String)) :
    Option (List String) :=
  let matched := matchDevices env devices [] sensors
  if validateMatchedDevices sensors matched then some (matched.map Prod.fst) else none

/-- One attempt of `_discover_pending`, for the sensors of the Wi-Fi adapter. -/
def System.discoverPending (env : TextEnv) (s : System) (scope : Scope) (others : List String)
    (poll : Poll) : System :=
  let pending := pendingSensors s.sensors scope
  if pending = [] then s
  else
    let sensors := pending.filterMap fun i => s.sensors[i]?
    match s.adapter.discoverDevices (sensors.map .sensor) poll with
    | (adapter, none) => { s with adapter := adapter }
    | (adapter, some recorded) =>
      let excluded := excludedAddresses env s.sensors scope others
      let devices := adapter.discovered.entries.map fun e => (e.1, e.2.groupKey.2)
      match matchedAddresses env sensors (candidates env excluded devices) with
      | none => { s with adapter := adapter, recorded := recorded }
      | some addresses =>
        { adapter := adapter
          recorded := recorded
          sensors := giveHandles env adapter.discovered (decide (Promised recorded)) s.sensors
            excluded (pending.zip addresses) }

/-- A sensor of a new configuration. -/
structure NewSensor where
  name : String
  pluginId : String
  localNamePrefixes : List String
  driver : Nat

def NewSensor.build (new : NewSensor) : Sensor where
  name := new.name
  pluginId := new.pluginId
  localNamePrefixes := new.localNamePrefixes
  driver := new.driver
  address := none
  connected := false
  transportClient := none

inductive Item where
  | name (name : String)
  | sensor (i : Nat)

inductive Action where
  /-- `discover_devices`, called by itself -/
  | discoverDevices (items : List Item) (poll : Poll)
  | discoverPending (scope : Scope) (others : List String) (poll : Poll)
  /-- a sensor connects, disconnects or loses its link -/
  | setConnected (i : Nat) (connected : Bool)
  | configure (sensors : List NewSensor)

def System.requested (s : System) (items : List Item) : List Requested :=
  items.filterMap fun
    | .name name => some (.name name)
    | .sensor i => s.sensors[i]?.map .sensor

namespace System

def step (env : TextEnv) : Machine System Action
  | s, .discoverDevices items poll =>
    match s.adapter.discoverDevices (s.requested items) poll with
    | (adapter, none) => some { s with adapter := adapter }
    | (adapter, some recorded) => some { s with adapter := adapter, recorded := recorded }
  | s, .discoverPending scope others poll => some (s.discoverPending env scope others poll)
  | s, .setConnected i connected =>
    some { s with
      sensors := s.sensors.modify i fun sensor => { sensor with connected := connected } }
  | s, .configure sensors => some { s with sensors := sensors.map NewSensor.build }

/-- An adapter with no driver registered, and no sensor. -/
def init : System where
  adapter := ⟨fun _ => none, Dict.empty, fun _ _ => none⟩
  sensors := []
  recorded := []

end System

/-! ## What is promised -/

/-- What was recorded for the devices of a group are distinct drivers of its members. -/
def OwnDrivers (recorded : Recorded) : Prop :=
  Promised recorded → ∀ r ∈ recorded,
    (r.2.map Prod.snd).Nodup ∧ ∀ d ∈ r.2.map Prod.snd, d ∈ r.1.drivers

/-- A handle has the driver of the sensor that holds it. -/
def OwnHandles (sensors : List Sensor) : Prop :=
  ∀ sensor ∈ sensors, ∀ handle, sensor.transportClient = some handle →
    handle.promised = true → handle.driver = sensor.driver

instance (recorded : Recorded) : Decidable (OwnDrivers recorded) :=
  inferInstanceAs (Decidable (Promised recorded → ∀ r ∈ recorded, _))

structure System.Served (s : System) : Prop where
  drivers : OwnDrivers s.recorded
  handles : OwnHandles s.sensors

/-- The condition on a discovery: the claims of each group are orderly. -/
def KeepsDrivers (a : WifiAdapter) (requested : List Requested) (poll : Poll) : Prop :=
  ∀ groups reported, a.Discovers requested poll groups reported →
    PromisedGroups groups (devicesOf reported) →
    ∀ group ∈ groups,
      Orderly group.drivers (claims a.identityDrivers group (devicesOf reported group))

/-- The pairs that are assigned before an address is excluded. -/
def assignable (env : TextEnv) : List String → List (Nat × String) → List (Nat × String)
  | _, [] => []
  | excluded, (i, address) :: rest =>
    if upperAddress env address ∈ excluded then []
    else (i, address) :: assignable env (upperAddress env address :: excluded) rest

/-- The driver is the one that claims the device or, for the `r`-th unclaimed device of its group,
the `r`-th unclaimed member's. -/
def Owns (identityDrivers : GroupKey → String → Option Nat) (devices : RequestGroup → List String)
    (groups : List RequestGroup) (address : String) (driver : Nat) : Prop :=
  ∃ group ∈ groups, (address, driver) ∈ (devices group).zip
    (fill (unclaimed group.drivers (claims identityDrivers group (devices group)))
      (claims identityDrivers group (devices group)))

/-- The devices of a discovery by address and local name. -/
def localNames (devices : RequestGroup → List String) (groups : List RequestGroup) :
    List (String × String) :=
  groups.flatMap fun group => (devices group).map fun address => (address, group.key.2)

/-- The condition on an attempt: a sensor is matched with a device of its own driver. -/
def KeepsHandles (env : TextEnv) (s : System) (scope : Scope) (others : List String) (poll : Poll) :
    Prop :=
  let pending := pendingSensors s.sensors scope
  let sensors := pending.filterMap fun i => s.sensors[i]?
  let excluded := excludedAddresses env s.sensors scope others
  ∀ groups reported, s.adapter.Discovers (sensors.map .sensor) poll groups reported →
    PromisedGroups groups (devicesOf reported) →
    ∀ addresses, matchedAddresses env sensors
        (candidates env excluded (localNames (devicesOf reported) groups)) = some addresses →
      ∀ p ∈ assignable env excluded (pending.zip addresses),
        ∀ sensor, s.sensors[p.1]? = some sensor →
          Owns s.adapter.identityDrivers (devicesOf reported) groups p.2 sensor.driver

/-- The condition on one step. -/
def keepsServed (env : TextEnv) (s : System) : Action → Prop
  | .discoverDevices items poll => KeepsDrivers s.adapter (s.requested items) poll
  | .discoverPending scope others poll => pendingSensors s.sensors scope ≠ [] →
      KeepsDrivers s.adapter
        (((pendingSensors s.sensors scope).filterMap fun i => s.sensors[i]?).map .sensor) poll ∧
      KeepsHandles env s scope others poll
  | _ => True

/-! ## What is recorded -/

section Recorded

variable {identityDrivers : GroupKey → String → Option Nat} {devices : RequestGroup → List String}
  {groups : List RequestGroup}

theorem promised_recordedOf :
    Promised (recordedOf identityDrivers devices groups) ↔ PromisedGroups groups devices := by
  unfold Promised PromisedGroups recordedOf
  rw [List.forall_mem_map]
  simp only [List.length_zip, length_choices, Nat.min_self]

/-- What is recorded are own drivers exactly when the claims are orderly. -/
theorem ownDrivers_recordedOf :
    OwnDrivers (recordedOf identityDrivers devices groups) ↔
      (PromisedGroups groups devices →
        ∀ group ∈ groups,
          Orderly group.drivers (claims identityDrivers group (devices group))) := by
  unfold OwnDrivers
  rw [promised_recordedOf, recordedOf, List.forall_mem_map]
  refine imp_congr_right fun hpromised => forall₂_congr fun group hgroup => ?_
  obtain ⟨hnodup, hroom⟩ := hpromised group hgroup
  have hclaims : (claims identityDrivers group (devices group)).length ≤ group.drivers.length := by
    simpa [claims, RequestGroup.drivers] using hroom
  rw [List.map_snd_zip (le_of_eq (length_choices _ _ _ _))]
  exact firstFit_sound_iff hnodup hclaims

/-- The discovered devices by address and local name. -/
theorem localNames_eq :
    ((recordedOf identityDrivers devices groups).flatMap fun r => entriesOf r.1 r.2).map
        (fun e => (e.1, e.2.groupKey.2)) = localNames devices groups := by
  unfold recordedOf localNames entriesOf
  rw [List.flatMap_map, List.map_flatMap]
  congr 1
  funext group
  rw [List.map_map]
  conv_rhs => rw [← map_fst_zip_choices identityDrivers group (devices group), List.map_map]
  rfl

end Recorded

/-! ## What is given -/

/-- The driver that a discovery has recorded for an address. -/
def driverOf (discovered : Dict String DiscoveredRecord) (address : String) : Nat :=
  (discovered.get? address).elim 0 fun record => record.driver

theorem mem_assignable {env : TextEnv} {excluded : List String} {pairs : List (Nat × String)}
    {p : Nat × String} (h : p ∈ assignable env excluded pairs) : p ∈ pairs := by
  induction pairs generalizing excluded with
  | nil => exact h
  | cons pair rest ih =>
    unfold assignable at h
    split at h
    · cases h
    · rcases List.mem_cons.mp h with rfl | hrest
      · exact List.mem_cons_self
      · exact List.mem_cons_of_mem _ (ih hrest)

/-- A sensor that is not assigned stays as it is. -/
theorem giveHandles_of_notMem {env : TextEnv} {discovered : Dict String DiscoveredRecord}
    {promised : Bool} {sensors : List Sensor} {excluded : List String}
    {pairs : List (Nat × String)} (hdiscovered : ∀ p ∈ pairs, p.2 ∈ discovered.keys) {j : Nat}
    (hj : ∀ p ∈ assignable env excluded pairs, p.1 ≠ j) :
    (giveHandles env discovered promised sensors excluded pairs)[j]? = sensors[j]? := by
  induction pairs generalizing sensors excluded with
  | nil => rfl
  | cons pair rest ih =>
    obtain ⟨i, address⟩ := pair
    unfold giveHandles
    split
    · rfl
    · rename_i hfree
      rw [assignable, if_neg hfree] at hj
      obtain ⟨record, hrecord⟩ := Option.isSome_iff_exists.mp
        (Dict.get?_isSome_iff.mpr (hdiscovered _ List.mem_cons_self))
      have hne : i ≠ j := hj (i, address) List.mem_cons_self
      simp only [hrecord]
      rw [ih (fun p hp => hdiscovered p (List.mem_cons_of_mem _ hp))
        (fun p hp => hj p (List.mem_cons_of_mem _ hp)), List.getElem?_modify_ne _ _ hne]

/-- A sensor that is assigned has a handle with the recorded driver. -/
theorem giveHandles_of_mem {env : TextEnv} {discovered : Dict String DiscoveredRecord}
    {promised : Bool} {sensors : List Sensor} {excluded : List String}
    {pairs : List (Nat × String)} (hdiscovered : ∀ p ∈ pairs, p.2 ∈ discovered.keys)
    (hnodup : (pairs.map Prod.fst).Nodup) {p : Nat × String}
    (hp : p ∈ assignable env excluded pairs) :
    (giveHandles env discovered promised sensors excluded pairs)[p.1]?
      = sensors[p.1]?.map (Sensor.give ⟨p.2, driverOf discovered p.2, promised⟩) := by
  induction pairs generalizing sensors excluded with
  | nil => cases hp
  | cons pair rest ih =>
    obtain ⟨i, address⟩ := pair
    obtain ⟨hnotin, hrest⟩ := List.nodup_cons.mp hnodup
    unfold assignable at hp
    split at hp
    · cases hp
    · rename_i hfree
      rw [giveHandles, if_neg hfree]
      obtain ⟨record, hrecord⟩ := Option.isSome_iff_exists.mp
        (Dict.get?_isSome_iff.mpr (hdiscovered _ List.mem_cons_self))
      have hlater : ∀ p ∈ rest, p.2 ∈ discovered.keys :=
        fun p hp => hdiscovered p (List.mem_cons_of_mem _ hp)
      simp only [hrecord]
      rcases List.mem_cons.mp hp with rfl | hin
      · have hout : ∀ q ∈ assignable env (upperAddress env address :: excluded) rest, q.1 ≠ i :=
          fun q hq heq => hnotin (List.mem_map.mpr ⟨q, mem_assignable hq, heq⟩)
        rw [giveHandles_of_notMem hlater hout, List.getElem?_modify_eq]
        unfold driverOf
        rw [hrecord]
        rfl
      · have hne : i ≠ p.1 := by
          rintro rfl
          exact hnotin (List.mem_map.mpr ⟨p, mem_assignable hin, rfl⟩)
        rw [ih hlater hrest hin, List.getElem?_modify_ne _ _ hne]

/-- The handles are the sensors' own exactly when each assigned device was recorded with the
driver of its sensor. -/
theorem ownHandles_giveHandles {env : TextEnv} {discovered : Dict String DiscoveredRecord}
    {promised : Bool} {sensors : List Sensor} {excluded : List String}
    {pairs : List (Nat × String)} (hdiscovered : ∀ p ∈ pairs, p.2 ∈ discovered.keys)
    (hnodup : (pairs.map Prod.fst).Nodup) (hsensors : OwnHandles sensors) :
    OwnHandles (giveHandles env discovered promised sensors excluded pairs) ↔
      (promised = true → ∀ p ∈ assignable env excluded pairs, ∀ sensor,
        sensors[p.1]? = some sensor → driverOf discovered p.2 = sensor.driver) := by
  constructor
  · intro hown hpromised p hp sensor hsensor
    have hgiven : (giveHandles env discovered promised sensors excluded pairs)[p.1]?
        = sensors[p.1]?.map (Sensor.give ⟨p.2, driverOf discovered p.2, promised⟩) :=
      giveHandles_of_mem hdiscovered hnodup hp
    rw [hsensor] at hgiven
    exact hown _ (List.mem_of_getElem? hgiven) _ rfl hpromised
  · intro hgiven sensor hmem handle hhandle hpromised
    obtain ⟨j, hj⟩ := List.getElem?_of_mem hmem
    by_cases hassigned : ∃ p ∈ assignable env excluded pairs, p.1 = j
    · obtain ⟨p, hp, rfl⟩ := hassigned
      rw [giveHandles_of_mem hdiscovered hnodup hp] at hj
      obtain ⟨old, hold, rfl⟩ := Option.map_eq_some_iff.mp hj
      cases hhandle
      exact hgiven hpromised p hp old hold
    · have hout : ∀ p ∈ assignable env excluded pairs, p.1 ≠ j :=
        fun p hp heq => hassigned ⟨p, hp, heq⟩
      rw [giveHandles_of_notMem hdiscovered hout] at hj
      exact hsensors sensor (List.mem_of_getElem? hj) handle hhandle hpromised

/-! ## One step -/

theorem pendingSensors_nodup (sensors : List Sensor) (scope : Scope) :
    (pendingSensors sensors scope).Nodup :=
  List.nodup_range.filter _

theorem map_fst_zip_sublist {α β : Type} (l : List α) (m : List β) :
    ((l.zip m).map Prod.fst).Sublist l := by
  induction l generalizing m with
  | nil => exact List.Sublist.refl _
  | cons a l ih =>
    cases m with
    | nil => exact List.nil_sublist _
    | cons b m => exact (ih m).cons_cons a

/-- Only candidates are matched. -/
theorem mem_matchDevices {env : TextEnv} {devices : List (String × String)}
    {usedAddresses : List String} {sensors : List Sensor} {m : String × String}
    (h : m ∈ matchDevices env devices usedAddresses sensors) : m.1 ∈ devices.map Prod.fst := by
  induction sensors generalizing usedAddresses with
  | nil => cases h
  | cons sensor sensors ih =>
    unfold matchDevices at h
    split at h
    · rename_i d hd
      rcases List.mem_cons.mp h with rfl | hrest
      · exact List.mem_map.mpr ⟨d, List.mem_of_find?_eq_some hd, rfl⟩
      · exact ih hrest
    · exact ih h

theorem mem_matchedAddresses {env : TextEnv} {sensors : List Sensor} {excluded : List String}
    {devices : List (String × String)} {addresses : List String}
    (h : matchedAddresses env sensors (candidates env excluded devices) = some addresses)
    {address : String} (haddress : address ∈ addresses) : address ∈ devices.map Prod.fst := by
  unfold matchedAddresses at h
  dsimp only at h
  split at h
  · cases h
    obtain ⟨m, hm, rfl⟩ := List.mem_map.mp haddress
    obtain ⟨d, hd, heq⟩ := List.mem_map.mp (mem_matchDevices hm)
    exact List.mem_map.mpr ⟨d, (List.mem_filter.mp hd).1, heq⟩
  · cases h

theorem matchDevices_nil (env : TextEnv) (usedAddresses : List String) (sensors : List Sensor) :
    matchDevices env [] usedAddresses sensors = [] := by
  induction sensors with
  | nil => rfl
  | cons sensor sensors ih => exact ih

/-- For orderly claims, the driver that a discovery has recorded for a device is the one that owns
it. -/
theorem owns_iff_driverOf {a : WifiAdapter} {requested : List Requested} {poll : Poll}
    {groups : List RequestGroup} {reported : GroupKey → List String}
    (h : a.Discovers requested poll groups reported)
    (hpromised : PromisedGroups groups (devicesOf reported))
    (horderly : ∀ group ∈ groups,
      Orderly group.drivers (claims a.identityDrivers group (devicesOf reported group)))
    {address : String} (haddress : address ∈ groups.flatMap (devicesOf reported)) (driver : Nat) :
    driverOf (a.discoverDevices requested poll).1.discovered address = driver ↔
      Owns a.identityDrivers (devicesOf reported) groups address driver := by
  have hfill (group : RequestGroup) (hgroup : group ∈ groups) :
      choices a.identityDrivers group [] (devicesOf reported group)
        = fill (unclaimed group.drivers
            (claims a.identityDrivers group (devicesOf reported group)))
          (claims a.identityDrivers group (devicesOf reported group)) := by
    obtain ⟨hnodup, hroom⟩ := hpromised group hgroup
    apply firstFit_eq_fill (horderly group hgroup) hnodup
    simpa [claims, RequestGroup.drivers] using hroom
  have hget {group : RequestGroup} (hgroup : group ∈ groups) {d : Nat}
      (hd : (address, d) ∈ (devicesOf reported group).zip
        (choices a.identityDrivers group [] (devicesOf reported group))) :
      driverOf (a.discoverDevices requested poll).1.discovered address = d := by
    have hentry : (address, ⟨d, group.key⟩)
        ∈ (a.discoverDevices requested poll).1.discovered.entries := by
      rw [h.eq.2]
      exact List.mem_flatMap.mpr ⟨_, List.mem_map_of_mem hgroup, List.mem_map.mpr ⟨_, hd, rfl⟩⟩
    unfold driverOf
    rw [Dict.get?_eq_some_iff.mpr hentry]
    rfl
  constructor
  · rintro rfl
    obtain ⟨group, hgroup, hdevice⟩ := List.mem_flatMap.mp haddress
    rw [← map_fst_zip_choices a.identityDrivers group (devicesOf reported group)] at hdevice
    obtain ⟨e, he, rfl⟩ := List.mem_map.mp hdevice
    refine ⟨group, hgroup, ?_⟩
    rw [← hfill group hgroup, hget hgroup he]
    exact he
  · rintro ⟨group, hgroup, howned⟩
    rw [← hfill group hgroup] at howned
    exact hget hgroup howned

/-- A discovery keeps what is promised of its records exactly when its claims are orderly. -/
theorem ownDrivers_discover_iff {a : WifiAdapter} {requested : List Requested} {poll : Poll}
    {groups : List RequestGroup} {reported : GroupKey → List String}
    (h : a.Discovers requested poll groups reported) :
    OwnDrivers (recordedOf a.identityDrivers (devicesOf reported) groups) ↔
      KeepsDrivers a requested poll := by
  rw [ownDrivers_recordedOf]
  constructor
  · intro horderly groups' reported' h' hpromised
    obtain ⟨rfl, rfl⟩ := h.unique h'
    exact horderly hpromised
  · exact fun hkeeps => hkeeps groups reported h

namespace System

/-- A discovery by itself. -/
theorem served_discoverDevices_iff {env : TextEnv} {s s' : System} {items : List Item} {poll : Poll}
    (hstep : step env s (.discoverDevices items poll) = some s') (hserved : s.Served) :
    s'.Served ↔ KeepsDrivers s.adapter (s.requested items) poll := by
  simp only [step] at hstep
  by_cases hdiscovers : ∃ groups reported,
      s.adapter.Discovers (s.requested items) poll groups reported
  · obtain ⟨groups, reported, h⟩ := hdiscovers
    rw [← ownDrivers_discover_iff h]
    split at hstep
    · rename_i adapter hrun
      have hrecorded := h.eq.1
      rw [hrun] at hrecorded
      cases hrecorded
    · rename_i adapter recorded hrun
      have hrecorded := h.eq.1
      rw [hrun] at hrecorded
      cases hrecorded
      cases hstep
      exact ⟨fun hs => hs.drivers, fun hdrivers => ⟨hdrivers, hserved.handles⟩⟩
  · have hnone : ∀ groups reported,
        ¬ s.adapter.Discovers (s.requested items) poll groups reported :=
      fun groups reported h => hdiscovers ⟨groups, reported, h⟩
    refine iff_of_true ?_ fun groups reported h => absurd h (hnone groups reported)
    rcases WifiAdapter.discoverDevices_of_not hnone with hraised | ⟨hempty, _⟩
    · split at hstep
      · cases hstep
        exact ⟨hserved.drivers, hserved.handles⟩
      · rename_i adapter recorded hrun
        rw [hrun] at hraised
        cases hraised
    · split at hstep
      · rename_i adapter hrun
        rw [hrun] at hempty
        cases hempty
      · rename_i adapter recorded hrun
        rw [hrun] at hempty
        cases hempty
        cases hstep
        exact ⟨fun _ _ hin => absurd hin List.not_mem_nil, hserved.handles⟩

/-- An attempt that has a discovery going through gives handles exactly by the condition. -/
theorem served_assign_iff {env : TextEnv} {s : System} {scope : Scope} {others : List String}
    {poll : Poll} {groups : List RequestGroup} {reported : GroupKey → List String}
    {requested : List Requested} (hserved : s.Served)
    (h : s.adapter.Discovers requested poll groups reported)
    (hdrivers : PromisedGroups groups (devicesOf reported) → ∀ group ∈ groups,
      Orderly group.drivers (claims s.adapter.identityDrivers group (devicesOf reported group)))
    {sensors : List Sensor} {addresses : List String}
    (hmatched : matchedAddresses env sensors
      (candidates env (excludedAddresses env s.sensors scope others)
        (localNames (devicesOf reported) groups)) = some addresses) :
    OwnHandles (giveHandles env (s.adapter.discoverDevices requested poll).1.discovered
        (decide (Promised (recordedOf s.adapter.identityDrivers (devicesOf reported) groups)))
        s.sensors (excludedAddresses env s.sensors scope others)
        ((pendingSensors s.sensors scope).zip addresses)) ↔
      (PromisedGroups groups (devicesOf reported) →
        ∀ p ∈ assignable env (excludedAddresses env s.sensors scope others)
            ((pendingSensors s.sensors scope).zip addresses),
          ∀ sensor, s.sensors[p.1]? = some sensor →
            Owns s.adapter.identityDrivers (devicesOf reported) groups p.2 sensor.driver) := by
  have hfound (p : Nat × String) (hp : p ∈ (pendingSensors s.sensors scope).zip addresses) :
      p.2 ∈ groups.flatMap (devicesOf reported) := by
    have hlocal := mem_matchedAddresses hmatched (List.of_mem_zip hp).2
    unfold localNames at hlocal
    rw [List.map_flatMap] at hlocal
    obtain ⟨group, hgroup, hin⟩ := List.mem_flatMap.mp hlocal
    rw [List.map_map] at hin
    obtain ⟨address, haddress, heq⟩ := List.mem_map.mp hin
    exact List.mem_flatMap.mpr ⟨group, hgroup, heq ▸ haddress⟩
  have hdiscovered (p : Nat × String)
      (hp : p ∈ (pendingSensors s.sensors scope).zip addresses) :
      p.2 ∈ (s.adapter.discoverDevices requested poll).1.discovered.keys := by
    obtain ⟨group, hgroup, hdevice⟩ := List.mem_flatMap.mp (hfound p hp)
    rw [← map_fst_zip_choices s.adapter.identityDrivers group (devicesOf reported group)] at hdevice
    obtain ⟨e, he, heq⟩ := List.mem_map.mp hdevice
    unfold Dict.keys
    rw [h.eq.2]
    refine List.mem_map.mpr ⟨(e.1, ⟨e.2, group.key⟩), ?_, heq⟩
    exact List.mem_flatMap.mpr ⟨_, List.mem_map_of_mem hgroup, List.mem_map.mpr ⟨e, he, rfl⟩⟩
  have hnodup : (((pendingSensors s.sensors scope).zip addresses).map Prod.fst).Nodup :=
    (pendingSensors_nodup s.sensors scope).sublist (map_fst_zip_sublist _ _)
  rw [ownHandles_giveHandles hdiscovered hnodup hserved.handles, decide_eq_true_iff,
    promised_recordedOf]
  refine imp_congr_right fun hpromised => forall₂_congr fun p hp => ?_
  refine forall₂_congr fun sensor _ => ?_
  exact owns_iff_driverOf h hpromised (hdrivers hpromised) (hfound p (mem_assignable hp)) _

/-- An attempt keeps what is promised exactly when its claims are orderly and its matches own
their devices. -/
theorem served_discoverPending_iff {env : TextEnv} {s : System} {scope : Scope}
    {others : List String} {poll : Poll} (hserved : s.Served) :
    (s.discoverPending env scope others poll).Served ↔
      keepsServed env s (.discoverPending scope others poll) := by
  by_cases hpending : pendingSensors s.sensors scope = []
  · have hidle : s.discoverPending env scope others poll = s := by
      unfold discoverPending
      rw [if_pos hpending]
    rw [hidle]
    exact iff_of_true hserved fun hsome => absurd hpending hsome
  · have hcond : keepsServed env s (.discoverPending scope others poll) ↔
        KeepsDrivers s.adapter
          (((pendingSensors s.sensors scope).filterMap fun i => s.sensors[i]?).map .sensor) poll ∧
        KeepsHandles env s scope others poll := ⟨fun h => h hpending, fun h _ => h⟩
    rw [hcond]
    unfold discoverPending
    rw [if_neg hpending]
    unfold KeepsHandles
    dsimp only
    generalize hsensors : ((pendingSensors s.sensors scope).filterMap fun i => s.sensors[i]?)
      = sensors
    by_cases hdiscovers : ∃ groups reported,
        s.adapter.Discovers (sensors.map .sensor) poll groups reported
    · obtain ⟨groups, reported, h⟩ := hdiscovers
      have hrun : s.adapter.discoverDevices (sensors.map .sensor) poll
          = ((s.adapter.discoverDevices (sensors.map .sensor) poll).1,
            some (recordedOf s.adapter.identityDrivers (devicesOf reported) groups)) :=
        Prod.ext rfl h.eq.1
      rw [hrun]
      dsimp only
      rw [h.eq.2, localNames_eq]
      have hdrivers := ownDrivers_discover_iff h
      cases hmatched : matchedAddresses env sensors
          (candidates env (excludedAddresses env s.sensors scope others)
            (localNames (devicesOf reported) groups)) with
      | none =>
        dsimp only
        constructor
        · intro hs
          refine ⟨hdrivers.mp hs.drivers, ?_⟩
          intro groups' reported' h' hpromised addresses hfound
          obtain ⟨rfl, rfl⟩ := h.unique h'
          rw [hmatched] at hfound
          cases hfound
        · exact fun hkeeps => ⟨hdrivers.mpr hkeeps.1, hserved.handles⟩
      | some addresses =>
        dsimp only
        constructor
        · intro hs
          have hkeeps := hdrivers.mp hs.drivers
          refine ⟨hkeeps, ?_⟩
          intro groups' reported' h' hpromised addresses' hfound
          obtain ⟨rfl, rfl⟩ := h.unique h'
          rw [hmatched] at hfound
          cases hfound
          exact (served_assign_iff hserved h (hkeeps groups' reported' h) hmatched).mp hs.handles
            hpromised
        · rintro ⟨hkeeps, howns⟩
          refine ⟨hdrivers.mpr hkeeps, ?_⟩
          exact (served_assign_iff hserved h (hkeeps groups reported h) hmatched).mpr
            fun hpromised => howns groups reported h hpromised addresses hmatched
    · have hnone : ∀ groups reported,
          ¬ s.adapter.Discovers (sensors.map .sensor) poll groups reported :=
        fun groups reported h => hdiscovers ⟨groups, reported, h⟩
      refine iff_of_true ?_ ⟨fun groups reported h => absurd h (hnone groups reported),
        fun groups reported h => absurd h (hnone groups reported)⟩
      rcases WifiAdapter.discoverDevices_of_not hnone with hraised | ⟨hempty, hdiscovered⟩
      · split
        · exact ⟨hserved.drivers, hserved.handles⟩
        · rename_i adapter recorded hrun
          rw [hrun] at hraised
          cases hraised
      · split
        · exact ⟨hserved.drivers, hserved.handles⟩
        · rename_i adapter recorded hrun
          rw [hrun] at hempty hdiscovered
          cases hempty
          dsimp only at hdiscovered ⊢
          rw [hdiscovered, matchedAddresses]
          simp only [Dict.empty, candidates, List.map_nil, List.filter_nil, matchDevices_nil]
          split
          · exact ⟨fun _ _ hin => absurd hin List.not_mem_nil, hserved.handles⟩
          · rename_i addresses hmatched
            obtain rfl : [] = addresses := by
              split at hmatched
              · exact Option.some.inj hmatched
              · cases hmatched
            rw [List.zip_nil_right]
            exact ⟨fun _ _ hin => absurd hin List.not_mem_nil, hserved.handles⟩

/-- A sensor's connection says nothing about its handle. -/
theorem ownHandles_setConnected {sensors : List Sensor} (h : OwnHandles sensors) (i : Nat)
    (connected : Bool) :
    OwnHandles (sensors.modify i fun sensor => { sensor with connected := connected }) := by
  intro sensor hsensor handle hhandle hpromised
  obtain ⟨j, hj⟩ := List.getElem?_of_mem hsensor
  rw [List.getElem?_modify] at hj
  obtain ⟨old, hold, heq⟩ := Option.map_eq_some_iff.mp hj
  have hown := h old (List.mem_of_getElem? hold) handle
  split at heq
  · subst heq
    exact hown hhandle hpromised
  · subst heq
    exact hown hhandle hpromised

theorem ownHandles_build (sensors : List NewSensor) :
    OwnHandles (sensors.map NewSensor.build) := by
  intro sensor hsensor handle hhandle
  obtain ⟨new, -, rfl⟩ := List.mem_map.mp hsensor
  cases hhandle

/-- Every action can be taken in every state. -/
theorem step_ne_none (env : TextEnv) (s : System) (action : Action) : step env s action ≠ none := by
  cases action with
  | discoverDevices items poll =>
    simp only [step]
    split
    · exact Option.some_ne_none _
    · exact Option.some_ne_none _
  | discoverPending scope others poll => exact Option.some_ne_none _
  | setConnected i connected => exact Option.some_ne_none _
  | configure sensors => exact Option.some_ne_none _

/-- Exactly the steps that meet the condition keep what is promised. -/
theorem served_step_iff {env : TextEnv} {s s' : System} {action : Action}
    (hstep : step env s action = some s') (hserved : s.Served) :
    s'.Served ↔ keepsServed env s action := by
  cases action with
  | discoverDevices items poll => exact served_discoverDevices_iff hstep hserved
  | discoverPending scope others poll =>
    cases hstep
    exact served_discoverPending_iff hserved
  | setConnected i connected =>
    cases hstep
    exact iff_of_true ⟨hserved.drivers, ownHandles_setConnected hserved.handles i connected⟩ trivial
  | configure sensors =>
    cases hstep
    exact iff_of_true ⟨hserved.drivers, ownHandles_build sensors⟩ trivial

theorem served_init : init.Served :=
  ⟨fun _ => nofun, fun _ => nofun⟩

/-- Each sensor is served by its own plugin instance all along a sequence exactly when each
discovery meets the condition. -/
theorem served_iff (env : TextEnv) (actions : List Action) :
    (∀ k s, Machine.exec (step env) init (actions.take k) = some s → s.Served) ↔
      Machine.Along (step env) (keepsServed env) init actions := by
  apply Machine.always_iff_along_of_step (J := fun _ => True) trivial
  · exact fun _ _ _ _ _ => trivial
  · exact fun s action hnone => absurd hnone (step_ne_none env s action)
  · exact fun s action s' _ hserved hstep => served_step_iff hstep hserved
  · exact served_init

/-- A sensor that is configured again and found at the same address is recorded with the driver of
the sensor before it. -/
theorem reconfigured_sensor_keeps_driver :
    ∃ s, Machine.exec (step ⟨id, id⟩) init
        [.configure [⟨"S", "p", [], 1⟩], .discoverPending none [] (some fun _ => ["A1"]),
          .configure [⟨"S", "p", [], 2⟩], .discoverPending none [] (some fun _ => ["A1"])]
        = some s ∧
      ¬ s.Served := by
  have hrun : (Machine.exec (step ⟨id, id⟩) init
      [.configure [⟨"S", "p", [], 1⟩], .discoverPending none [] (some fun _ => ["A1"]),
        .configure [⟨"S", "p", [], 2⟩], .discoverPending none [] (some fun _ => ["A1"])]).map
      (fun s => decide (OwnDrivers s.recorded)) = some false := by decide +kernel
  obtain ⟨s, hs, hnot⟩ := Option.map_eq_some_iff.mp hrun
  exact ⟨s, hs, fun hserved => of_decide_eq_false hnot hserved.drivers⟩

end System

end NexusN3.Wifi.Assignment
