import Mathlib.Data.List.Dedup
import Mathlib.Data.List.Sort
import NexusN3.Lib.Dict
import NexusN3.Lib.FirstFit
import NexusN3.Lib.Text

/-!
# Which plugin instance a Wi-Fi identity is recorded with

A discovery groups the requested sensors by plugin and name. Each discovered device of a group is
recorded with the driver of the member that has its address, else with the driver that the identity
was recorded with before, else with the first member's driver that no device before it has.

* **`resolveGroups`**, **`cacheDevices`**, **`discoverDevices`** — the adapter.
* **`claim`** — the driver that an identity is given whatever the others get.
* **`cacheDevices_eq`** — the drivers of a group are the first fit of its claims.
* **`Discovers`** — when a discovery goes through; `Discovers.eq` is what it records.
-/

namespace NexusN3.Wifi

open Lib

/-- The host-side handle of a sensor. `promised` says that each group of the discovery it comes from
had distinct drivers and no more devices than members. -/
structure TransportHandle where
  address : String
  driver : Nat
  promised : Bool

/-- A sensor object, and the driver it exposes. -/
structure Sensor where
  name : String
  pluginId : String
  localNamePrefixes : List String
  driver : Nat
  address : Option String
  connected : Bool
  transportClient : Option TransportHandle

/-- The plugin's id and the sensor's name. -/
abbrev GroupKey := String × String

structure RequestMember where
  sensor : Option Sensor
  driver : Nat

structure RequestGroup where
  key : GroupKey
  members : List RequestMember

def RequestGroup.drivers (group : RequestGroup) : List Nat := group.members.map fun m => m.driver

def RequestGroup.primaryDriver (group : RequestGroup) : Nat := group.drivers.headD 0

/-- What a discovery is asked for. -/
inductive Requested where
  | name (name : String)
  | sensor (sensor : Sensor)

structure DiscoveredRecord where
  driver : Nat
  groupKey : GroupKey
  deriving DecidableEq

structure WifiAdapter where
  /-- `_drivers`, by sensor name -/
  drivers : String → Option Nat
  discovered : Dict String DiscoveredRecord
  /-- `_identity_drivers` -/
  identityDrivers : GroupKey → String → Option Nat

/-- What the last poll of each group's drivers reported; `none`: a poll, a provisioning or the
requested count failed. -/
abbrev Poll := Option (GroupKey → List String)

/-- What a discovery records for each group. -/
abbrev Recorded := List (RequestGroup × List (String × Nat))

/-! ## The adapter -/

def addMember (key : GroupKey) (member : RequestMember) : List RequestGroup → List RequestGroup
  | [] => [⟨key, [member]⟩]
  | group :: groups =>
    if group.key = key then { group with members := group.members ++ [member] } :: groups
    else group :: addMember key member groups

/-- `_resolve_groups`, with `_drivers` after it; no groups when it raises. -/
def resolveGroups : (String → Option Nat) → List RequestGroup → List Requested →
    (String → Option Nat) × Option (List RequestGroup)
  | drivers, groups, [] => (drivers, some groups)
  | drivers, groups, .name name :: rest =>
    let name := strip name
    match drivers name with
    | none => (drivers, none)
    | some driver =>
      if name = "" then (drivers, none)
      else
        resolveGroups drivers (addMember ("registered:" ++ name, name) ⟨none, driver⟩ groups) rest
  | drivers, groups, .sensor sensor :: rest =>
    let name := strip sensor.name
    if name = "" then (drivers, none)
    else
      -- `_drivers.setdefault`
      let drivers := Function.update drivers name (some ((drivers name).getD sensor.driver))
      resolveGroups drivers (addMember (sensor.pluginId, name) ⟨some sensor, sensor.driver⟩ groups)
        rest

/-- The devices of a group: merged by address, and sorted. -/
def devicesOf (reported : GroupKey → List String) (group : RequestGroup) : List String :=
  (reported group.key).dedup.mergeSort fun a b => decide (a ≤ b)

def RequestMember.hasAddress (address : String) (member : RequestMember) : Bool :=
  match member.sensor with
  | none => false
  | some sensor => decide (sensor.address.getD "" = address)

/-- `_driver_for_identity`. -/
def driverForIdentity (identityDrivers : GroupKey → String → Option Nat) (group : RequestGroup)
    (address : String) (assignedDriverIds : List Nat) : Nat :=
  match group.members.find? (RequestMember.hasAddress address) with
  | some member => member.driver
  | none =>
    match identityDrivers group.key address with
    | some cached => cached
    | none =>
      match group.members.find? fun m => m.driver ∉ assignedDriverIds with
      | some member => member.driver
      | none => group.primaryDriver

/-- The `records` of `_cache_discovered`, and `_identity_drivers`. -/
structure Caching where
  records : Dict String DiscoveredRecord
  identityDrivers : GroupKey → String → Option Nat

/-- `existing is not None and existing.group_key != group.key`. -/
def Caching.claimedElsewhere (c : Caching) (key : GroupKey) (address : String) : Bool :=
  match c.records.get? address with
  | none => false
  | some existing => decide (existing.groupKey ≠ key)

def Caching.store (c : Caching) (key : GroupKey) (address : String) (driver : Nat) : Caching where
  records := c.records.set address ⟨driver, key⟩
  identityDrivers :=
    Function.update c.identityDrivers key
      (Function.update (c.identityDrivers key) address (some driver))

/-- The loop over the devices of a group; nothing is recorded when it raises. -/
def cacheDevices (group : RequestGroup) : Caching → List Nat → List String →
    Caching × Option (List (String × Nat))
  | c, _, [] => (c, some [])
  | c, assignedDriverIds, address :: devices =>
    let driver := driverForIdentity c.identityDrivers group address assignedDriverIds
    if c.claimedElsewhere group.key address then (c, none)
    else
      let (c, recorded) :=
        cacheDevices group (c.store group.key address driver) (driver :: assignedDriverIds) devices
      (c, recorded.map ((address, driver) :: ·))

/-- The loop of `_cache_discovered` over the groups. -/
def cacheGroups (devices : RequestGroup → List String) : Caching → List RequestGroup →
    Caching × Option Recorded
  | c, [] => (c, some [])
  | c, group :: groups =>
    match cacheDevices group c [] (devices group) with
    | (c, none) => (c, none)
    | (c, some recorded) =>
      let (c, rest) := cacheGroups devices c groups
      (c, rest.map ((group, recorded) :: ·))

/-- `discover_devices`; nothing is recorded when it raises. -/
def WifiAdapter.discoverDevices (a : WifiAdapter) (requested : List Requested) (poll : Poll) :
    WifiAdapter × Option Recorded :=
  match resolveGroups a.drivers [] requested with
  | (drivers, none) => ({ a with drivers := drivers }, none)
  | (drivers, some []) => ({ a with drivers := drivers, discovered := Dict.empty }, some [])
  | (drivers, some groups) =>
    match poll with
    | none => ({ a with drivers := drivers }, none)
    | some reported =>
      if groups.any fun group => "" ∈ reported group.key then ({ a with drivers := drivers }, none)
      else
        match cacheGroups (devicesOf reported) ⟨Dict.empty, a.identityDrivers⟩ groups with
        | (c, none) => ({ a with drivers := drivers, identityDrivers := c.identityDrivers }, none)
        | (c, some recorded) => (⟨drivers, c.records, c.identityDrivers⟩, some recorded)

/-! ## The claims of a group -/

/-- The driver that an identity is given whatever the others get: that of the first member with its
address, else the one it was recorded with before. -/
def claim (identityDrivers : GroupKey → String → Option Nat) (group : RequestGroup)
    (address : String) : Option Nat :=
  ((group.members.find? (RequestMember.hasAddress address)).map fun m => m.driver).or
    (identityDrivers group.key address)

def claims (identityDrivers : GroupKey → String → Option Nat) (group : RequestGroup)
    (devices : List String) : List (Option Nat) :=
  devices.map (claim identityDrivers group)

theorem driverForIdentity_of_claim {identityDrivers : GroupKey → String → Option Nat}
    {group : RequestGroup} {address : String} {d : Nat}
    (h : claim identityDrivers group address = some d) (assigned : List Nat) :
    driverForIdentity identityDrivers group address assigned = d := by
  unfold claim at h
  unfold driverForIdentity
  cases hmember : group.members.find? (RequestMember.hasAddress address) with
  | some member =>
    rw [hmember] at h
    exact Option.some.inj h
  | none =>
    rw [hmember] at h
    simp only [Option.map_none, Option.none_or] at h
    dsimp only
    rw [h]

theorem driverForIdentity_of_no_claim {identityDrivers : GroupKey → String → Option Nat}
    {group : RequestGroup} {address : String} (h : claim identityDrivers group address = none)
    (assigned : List Nat) :
    driverForIdentity identityDrivers group address assigned
      = (group.drivers.find? fun d => d ∉ assigned).getD group.primaryDriver := by
  obtain ⟨hmember, hcached⟩ := Option.or_eq_none_iff.mp h
  rw [Option.map_eq_none_iff] at hmember
  have hfind : (group.drivers.find? fun d => d ∉ assigned)
      = (group.members.find? fun m => m.driver ∉ assigned).map fun m => m.driver :=
    List.find?_map
  unfold driverForIdentity
  rw [hmember, hcached, hfind]
  cases group.members.find? fun m => m.driver ∉ assigned with
  | none => rfl
  | some member => rfl

/-! ## What is recorded -/

/-- The drivers of a group's devices. -/
def choices (identityDrivers : GroupKey → String → Option Nat) (group : RequestGroup)
    (assigned : List Nat) (devices : List String) : List Nat :=
  firstFit group.drivers group.primaryDriver assigned (claims identityDrivers group devices)

theorem choices_cons (identityDrivers : GroupKey → String → Option Nat) (group : RequestGroup)
    (assigned : List Nat) (address : String) (devices : List String) :
    choices identityDrivers group assigned (address :: devices)
      = driverForIdentity identityDrivers group address assigned ::
          choices identityDrivers group
            (driverForIdentity identityDrivers group address assigned :: assigned) devices := by
  unfold choices claims
  rw [List.map_cons]
  cases hclaim : claim identityDrivers group address with
  | some d =>
    rw [driverForIdentity_of_claim hclaim]
    rfl
  | none =>
    rw [driverForIdentity_of_no_claim hclaim]
    rfl

theorem length_choices (identityDrivers : GroupKey → String → Option Nat) (group : RequestGroup)
    (assigned : List Nat) (devices : List String) :
    (choices identityDrivers group assigned devices).length = devices.length := by
  induction devices generalizing assigned with
  | nil => rfl
  | cons address devices ih => rw [choices_cons, List.length_cons, List.length_cons, ih]

/-- The claims of the devices to come do not see what has just been stored. -/
theorem claims_store (c : Caching) (group : RequestGroup) {address : String} (driver : Nat)
    {devices : List String} (h : address ∉ devices) :
    claims (c.store group.key address driver).identityDrivers group devices
      = claims c.identityDrivers group devices := by
  apply List.map_congr_left
  intro other hother
  have hne : other ≠ address := fun heq => h (heq ▸ hother)
  simp only [claim, Caching.store, Function.update_self, Function.update_of_ne hne]

theorem get?_store (c : Caching) (key : GroupKey) (address other : String) (driver : Nat) :
    (c.store key address driver).records.get? other
      = if address = other then some ⟨driver, key⟩ else c.records.get? other :=
  Dict.get?_set _ _ _ _

/-- The entries that a group's devices make. -/
def entriesOf (group : RequestGroup) (recorded : List (String × Nat)) :
    List (String × DiscoveredRecord) :=
  recorded.map fun e => (e.1, ⟨e.2, group.key⟩)

/-- Devices that no other group has are recorded in order with the choices of the group. -/
theorem cacheDevices_eq {group : RequestGroup} {c : Caching} (assigned : List Nat)
    {devices : List String} (hnodup : devices.Nodup) (hnew : ∀ a ∈ devices, a ∉ c.records.keys) :
    (cacheDevices group c assigned devices).2
        = some (devices.zip (choices c.identityDrivers group assigned devices)) ∧
      (cacheDevices group c assigned devices).1.records.entries = c.records.entries
        ++ entriesOf group (devices.zip (choices c.identityDrivers group assigned devices)) ∧
      ∀ key, key ≠ group.key →
        (cacheDevices group c assigned devices).1.identityDrivers key = c.identityDrivers key := by
  induction devices generalizing c assigned with
  | nil => exact ⟨rfl, (List.append_nil _).symm, fun _ _ => rfl⟩
  | cons address devices ih =>
    obtain ⟨hnotin, hrest⟩ := List.nodup_cons.mp hnodup
    have hfresh : address ∉ c.records.keys := hnew address List.mem_cons_self
    have hfree : c.claimedElsewhere group.key address = false := by
      unfold Caching.claimedElsewhere
      rw [Dict.get?_eq_none_iff.mpr hfresh]
    generalize hdriver : driverForIdentity c.identityDrivers group address assigned = driver
    have hentries : (c.store group.key address driver).records.entries
        = c.records.entries ++ [(address, ⟨driver, group.key⟩)] := Dict.setEntries_of_notMem hfresh
    have hkeys : (c.store group.key address driver).records.keys = c.records.keys ++ [address] :=
      Dict.keys_set_of_notMem _ hfresh
    have hchoices : choices c.identityDrivers group assigned (address :: devices) = driver ::
        choices (c.store group.key address driver).identityDrivers group (driver :: assigned)
          devices := by
      rw [choices_cons, hdriver, choices, choices, claims_store c group driver hnotin]
    have hnew' : ∀ a ∈ devices, a ∉ (c.store group.key address driver).records.keys := by
      intro a ha
      rw [hkeys, List.mem_append, List.mem_singleton]
      rintro (hold | rfl)
      · exact hnew a (List.mem_cons_of_mem _ ha) hold
      · exact hnotin ha
    obtain ⟨hrecorded, hafter, hothers⟩ := ih (driver :: assigned) hrest hnew'
    unfold cacheDevices
    simp only [hfree, Bool.false_eq_true, if_false, hdriver, hrecorded, hchoices,
      List.zip_cons_cons]
    refine ⟨rfl, ?_, ?_⟩
    · rw [hafter, hentries, List.append_assoc]
      rfl
    · intro key hkey
      rw [hothers key hkey]
      exact Function.update_of_ne hkey _ _

/-- A device that another group has ends the loop. -/
theorem cacheDevices_none {group : RequestGroup} {c : Caching} (assigned : List Nat)
    {devices : List String} {a : String} (ha : a ∈ devices) {r : DiscoveredRecord}
    (hr : c.records.get? a = some r) (hkey : r.groupKey ≠ group.key) :
    (cacheDevices group c assigned devices).2 = none := by
  induction devices generalizing c assigned with
  | nil => cases ha
  | cons address devices ih =>
    unfold cacheDevices
    dsimp only
    split
    · rfl
    · rename_i hfree
      have hne : address ≠ a := by
        rintro rfl
        apply hfree
        unfold Caching.claimedElsewhere
        rw [hr]
        exact decide_eq_true hkey
      have hlater : a ∈ devices := (List.mem_cons.mp ha).resolve_left (Ne.symm hne)
      rw [ih _ hlater (by rw [get?_store, if_neg hne, hr])]
      rfl

theorem choices_congr {identityDrivers identityDrivers' : GroupKey → String → Option Nat}
    {group : RequestGroup} (h : identityDrivers group.key = identityDrivers' group.key)
    (assigned : List Nat) (devices : List String) :
    choices identityDrivers group assigned devices
      = choices identityDrivers' group assigned devices := by
  unfold choices claims claim
  rw [h]

/-- What a discovery records, where it records. -/
def recordedOf (identityDrivers : GroupKey → String → Option Nat)
    (devices : RequestGroup → List String) (groups : List RequestGroup) : Recorded :=
  groups.map fun group =>
    (group, (devices group).zip (choices identityDrivers group [] (devices group)))

theorem map_fst_zip_choices (identityDrivers : GroupKey → String → Option Nat)
    (group : RequestGroup) (devices : List String) :
    (devices.zip (choices identityDrivers group [] devices)).map Prod.fst = devices :=
  List.map_fst_zip (le_of_eq (length_choices identityDrivers group [] devices).symm)

theorem map_fst_entriesOf (group : RequestGroup) (recorded : List (String × Nat)) :
    (entriesOf group recorded).map Prod.fst = recorded.map Prod.fst := by
  unfold entriesOf
  rw [List.map_map]
  rfl

section Groups

variable {devices : RequestGroup → List String} {groups : List RequestGroup} {c : Caching}

/-- The keys after a group. -/
theorem cacheDevices_keys {group : RequestGroup} (hnodup : (devices group).Nodup)
    (hnew : ∀ a ∈ devices group, a ∉ c.records.keys) :
    (cacheDevices group c [] (devices group)).1.records.keys
      = c.records.keys ++ devices group := by
  unfold Dict.keys
  rw [(cacheDevices_eq [] hnodup hnew).2.1, List.map_append, map_fst_entriesOf,
    map_fst_zip_choices]

/-- Where no two groups have a device in common, each group records its own choices. -/
theorem cacheGroups_eq (hkeys : (groups.map RequestGroup.key).Nodup)
    (hnodup : (c.records.keys ++ groups.flatMap devices).Nodup) :
    (cacheGroups devices c groups).2 = some (recordedOf c.identityDrivers devices groups) ∧
      (cacheGroups devices c groups).1.records.entries = c.records.entries ++
        (recordedOf c.identityDrivers devices groups).flatMap fun r => entriesOf r.1 r.2 := by
  induction groups generalizing c with
  | nil => exact ⟨rfl, (List.append_nil _).symm⟩
  | cons group groups ih =>
    obtain ⟨hkey, hrestkeys⟩ := List.nodup_cons.mp hkeys
    rw [List.flatMap_cons, ← List.append_assoc] at hnodup
    obtain ⟨hhead, -, -⟩ := List.nodup_append.mp hnodup
    obtain ⟨-, hdevices, hdisjoint⟩ := List.nodup_append.mp hhead
    have hnew (a : String) (ha : a ∈ devices group) : a ∉ c.records.keys :=
      fun hold => hdisjoint a hold a ha rfl
    obtain ⟨hrecorded, hafter, hothers⟩ := cacheDevices_eq [] hdevices hnew
    have hafterkeys := cacheDevices_keys hdevices hnew
    have hsame : recordedOf (cacheDevices group c [] (devices group)).1.identityDrivers devices
        groups = recordedOf c.identityDrivers devices groups := by
      apply List.map_congr_left
      intro other hother
      have hne : other.key ≠ group.key := by
        rintro heq
        exact hkey (heq ▸ List.mem_map_of_mem hother)
      rw [choices_congr (hothers other.key hne)]
    generalize hc : (cacheDevices group c [] (devices group)).1 = c' at *
    obtain ⟨hrest, hlast⟩ := ih (c := c') hrestkeys (by rw [hafterkeys]; exact hnodup)
    have hrun : cacheDevices group c [] (devices group) = (c', some _) := Prod.ext hc hrecorded
    unfold cacheGroups
    simp only [hrun, hrest, hsame]
    refine ⟨rfl, ?_⟩
    rw [hlast, hafter, hsame, List.append_assoc]
    rfl

/-- Where two groups have a device in common, nothing is recorded. -/
theorem cacheGroups_none (hkeys : (groups.map RequestGroup.key).Nodup)
    (hdevices : ∀ group ∈ groups, (devices group).Nodup)
    (hothers : ∀ a r, c.records.get? a = some r → ∀ group ∈ groups, r.groupKey ≠ group.key)
    (hnot : ¬ (c.records.keys ++ groups.flatMap devices).Nodup) :
    (cacheGroups devices c groups).2 = none := by
  induction groups generalizing c with
  | nil =>
    rw [List.flatMap_nil, List.append_nil] at hnot
    exact absurd c.records.nodup hnot
  | cons group groups ih =>
    obtain ⟨hkey, hrestkeys⟩ := List.nodup_cons.mp hkeys
    have hown := hdevices group List.mem_cons_self
    unfold cacheGroups
    by_cases hnew : ∀ a ∈ devices group, a ∉ c.records.keys
    · have hafter := cacheDevices_keys hown hnew
      have hrest : (cacheGroups devices (cacheDevices group c [] (devices group)).1 groups).2
          = none := by
        apply ih hrestkeys fun other hother => hdevices other (List.mem_cons_of_mem _ hother)
        · intro a r hr other hother
          rw [Dict.get?_eq_some_iff, (cacheDevices_eq [] hown hnew).2.1, List.mem_append] at hr
          rcases hr with hold | hgroup
          · exact hothers a r (Dict.get?_eq_some_iff.mpr hold) other
              (List.mem_cons_of_mem _ hother)
          · obtain ⟨e, -, heq⟩ := List.mem_map.mp hgroup
            cases heq
            exact fun hsame => hkey (List.mem_map.mpr ⟨other, hother, hsame.symm⟩)
        · rw [hafter, List.append_assoc, ← List.flatMap_cons]
          exact hnot
      split
      · rfl
      · rename_i c' recorded hrun
        rw [hrun] at hrest
        simp only [hrest, Option.map_none]
    · push Not at hnew
      obtain ⟨a, ha, hin⟩ := hnew
      obtain ⟨r, hr⟩ := Option.isSome_iff_exists.mp (Dict.get?_isSome_iff.mpr hin)
      have hnone := cacheDevices_none [] ha hr
        (hothers a r hr group List.mem_cons_self)
      split
      · rfl
      · rename_i c' recorded hrun
        rw [hrun] at hnone
        cases hnone

end Groups

/-! ## A discovery -/

theorem devicesOf_nodup (reported : GroupKey → List String) (group : RequestGroup) :
    (devicesOf reported group).Nodup :=
  (List.mergeSort_perm _ _).nodup_iff.mpr (List.nodup_dedup _)

theorem addMember_keys (key : GroupKey) (member : RequestMember) (groups : List RequestGroup) :
    (addMember key member groups).map RequestGroup.key =
      if key ∈ groups.map RequestGroup.key then groups.map RequestGroup.key
      else groups.map RequestGroup.key ++ [key] := by
  induction groups with
  | nil => rfl
  | cons group groups ih =>
    unfold addMember
    by_cases hkey : group.key = key
    · simp [hkey]
    · have hne : key ≠ group.key := fun heq => hkey heq.symm
      rw [if_neg hkey, List.map_cons, ih, List.map_cons]
      simp only [List.mem_cons, hne, false_or]
      split <;> rfl

theorem addMember_nodup {key : GroupKey} {member : RequestMember} {groups : List RequestGroup}
    (h : (groups.map RequestGroup.key).Nodup) :
    ((addMember key member groups).map RequestGroup.key).Nodup := by
  rw [addMember_keys]
  split
  · exact h
  · rename_i hnotin
    refine List.nodup_append.mpr ⟨h, List.nodup_singleton _, ?_⟩
    rintro a ha b hb rfl
    exact hnotin (List.mem_singleton.mp hb ▸ ha)

/-- The groups of a request have distinct keys. -/
theorem resolveGroups_nodup {drivers : String → Option Nat} {groups : List RequestGroup}
    {requested : List Requested} {resolved : List RequestGroup}
    (hgroups : (groups.map RequestGroup.key).Nodup)
    (h : (resolveGroups drivers groups requested).2 = some resolved) :
    (resolved.map RequestGroup.key).Nodup := by
  induction requested generalizing drivers groups with
  | nil =>
    cases h
    exact hgroups
  | cons item rest ih =>
    cases item with
    | name name =>
      unfold resolveGroups at h
      dsimp only at h
      split at h
      · cases h
      · split at h
        · cases h
        · exact ih (addMember_nodup hgroups) h
    | sensor sensor =>
      unfold resolveGroups at h
      dsimp only at h
      split at h
      · cases h
      · exact ih (addMember_nodup hgroups) h

/-- The request resolves to groups, the poll reports valid devices, and no two groups have one in
common. -/
structure WifiAdapter.Discovers (a : WifiAdapter) (requested : List Requested) (poll : Poll)
    (groups : List RequestGroup) (reported : GroupKey → List String) : Prop where
  resolved : (resolveGroups a.drivers [] requested).2 = some groups
  polled : poll = some reported
  valid : ∀ group ∈ groups, "" ∉ reported group.key
  disjoint : (groups.flatMap (devicesOf reported)).Nodup

theorem WifiAdapter.Discovers.unique {a : WifiAdapter} {requested : List Requested} {poll : Poll}
    {groups groups' : List RequestGroup} {reported reported' : GroupKey → List String}
    (h : a.Discovers requested poll groups reported)
    (h' : a.Discovers requested poll groups' reported') :
    groups' = groups ∧ reported' = reported := by
  constructor
  · exact Option.some.inj (h'.resolved.symm.trans h.resolved)
  · exact Option.some.inj (h'.polled.symm.trans h.polled)

/-- A discovery that goes through records its groups' choices, and these are what is discovered. -/
theorem WifiAdapter.Discovers.eq {a : WifiAdapter} {requested : List Requested} {poll : Poll}
    {groups : List RequestGroup} {reported : GroupKey → List String}
    (h : a.Discovers requested poll groups reported) :
    (a.discoverDevices requested poll).2
        = some (recordedOf a.identityDrivers (devicesOf reported) groups) ∧
      (a.discoverDevices requested poll).1.discovered.entries
        = (recordedOf a.identityDrivers (devicesOf reported) groups).flatMap
            fun r => entriesOf r.1 r.2 := by
  obtain ⟨hresolved, rfl, hvalid, hdisjoint⟩ := h
  have hkeys := resolveGroups_nodup (by simp) hresolved
  unfold discoverDevices
  generalize resolveGroups a.drivers [] requested = resolution at hresolved
  obtain ⟨drivers, _⟩ := resolution
  cases hresolved
  cases groups with
  | nil => exact ⟨rfl, rfl⟩
  | cons group groups =>
    obtain ⟨hrecorded, hafter⟩ :=
      cacheGroups_eq (c := ⟨Dict.empty, a.identityDrivers⟩) hkeys hdisjoint
    have hany : ¬ ((group :: groups).any fun group => "" ∈ reported group.key) = true := by
      intro hany
      obtain ⟨g, hg, hin⟩ := List.any_eq_true.mp hany
      exact hvalid g hg (of_decide_eq_true hin)
    dsimp only
    rw [if_neg hany]
    generalize cacheGroups (devicesOf reported) ⟨Dict.empty, a.identityDrivers⟩ (group :: groups)
      = run at *
    obtain ⟨c, _⟩ := run
    cases hrecorded
    exact ⟨rfl, hafter⟩

/-- Any other discovery records nothing. -/
theorem WifiAdapter.discoverDevices_of_not {a : WifiAdapter} {requested : List Requested}
    {poll : Poll} (h : ∀ groups reported, ¬ a.Discovers requested poll groups reported) :
    (a.discoverDevices requested poll).2 = none ∨
      (a.discoverDevices requested poll).2 = some [] ∧
        (a.discoverDevices requested poll).1.discovered = Dict.empty := by
  unfold discoverDevices
  cases hresolution : resolveGroups a.drivers [] requested with
  | mk drivers resolved =>
    cases resolved with
    | none => exact .inl rfl
    | some groups =>
      have hresolved : (resolveGroups a.drivers [] requested).2 = some groups := by
        rw [hresolution]
      cases groups with
      | nil => exact .inr ⟨rfl, rfl⟩
      | cons group groups =>
        refine .inl ?_
        cases poll with
        | none => rfl
        | some reported =>
          dsimp only
          split
          · rfl
          · rename_i hany
            have hvalid : ∀ g ∈ group :: groups, "" ∉ reported g.key := by
              intro g hg hin
              exact hany (List.any_eq_true.mpr ⟨g, hg, decide_eq_true hin⟩)
            have hnone : (cacheGroups (devicesOf reported) ⟨Dict.empty, a.identityDrivers⟩
                (group :: groups)).2 = none :=
              cacheGroups_none (resolveGroups_nodup (by simp) hresolved)
                (fun group _ => devicesOf_nodup reported group) nofun
                (fun hdisjoint => h _ reported ⟨hresolved, rfl, hvalid, hdisjoint⟩)
            split
            · rfl
            · rename_i c recorded hrun
              rw [hrun] at hnone
              cases hnone

end NexusN3.Wifi
