import NexusN3.Lib.Jobs
import NexusN3.Sensors.Matching

/-!
# Discovery of all sensors, or of those of a subject

The sensors that are not connected are grouped by their adapter. One adapter after another scans for
its sensors, twice if need be, and gives each of them the address of its device and a client for it.
An address that has been given, or that is excluded, is not given again.

* **`assign`** — one sensor gets its address and its client.
* **`discoverAdapter`**, **`discoverPending`** — one adapter, and all of them.
* **`Request`** — `discover_all` or `discover_for_subject`: who is asked for, what is excluded.
* **`Orderly`** — what a discovery leaves, however it ends.
-/

namespace NexusN3.Sensors.Discovery

open Lib Matching

/-- A logical sensor; what the matching reads of it, and what a discovery changes. -/
structure Slot where
  requested : Matching.Sensor
  /-- `str(adapter).upper()` -/
  adapter : String
  connected : Bool
  address : Option String
  transportClient : Option Nat
  connectionSetupComplete : Bool

/-- What a scan brings: the devices by address, and the attributes of the device objects. -/
structure Scan where
  devices : Devices
  address : String → Option String
  path : String → Option String

/-- `getattr(device, "address", None) or getattr(device, "path", None)`. -/
def Scan.deviceAddress (scan : Scan) (key : String) : Option String :=
  match scan.address key with
  | some address => if address = "" then scan.path key else some address
  | none => scan.path key

structure Adapter where
  /-- What the two calls of `discover_devices` bring, if there is one; `none` where it raises. -/
  scans : Option (Option Scan × Option Scan)
  /-- `create_transport_client`, or else `create_ble_client`; the inner `none` where it raises. -/
  create : Option (Nat → Option Nat)

/-- What a call meets. -/
structure Surroundings where
  text : TextEnv
  upper : String → String
  /-- `for_sensor` gets an adapter -/
  available : String → Bool
  adapters : String → Adapter
  /-- `register_listeners_with_sensor` goes through -/
  registers : Nat → Bool

inductive Outcome where
  | discovered (slots : List Nat)
  /-- `on_discover` without success, and no sensors -/
  | incomplete (missing : List String)
  /-- `group_sensors` raises -/
  | unavailable
  /-- `discover_devices` raises -/
  | scanRaised
  /-- an excluded address is chosen, a client cannot be made, or listeners cannot be registered -/
  | assignRaised
  deriving DecidableEq

structure State where
  slots : List Slot
  excludedAddresses : List String
  discoveredSensors : List Nat

/-- A pending sensor and its place. -/
abbrev Pending := Slot × Nat

section Discovery

variable (w : Surroundings)

/-- `str(address).strip().upper()`. -/
def normalize (address : Option String) : String := w.upper (strip (address.getD "None"))

/-! ## One sensor -/

/-- The end of the loop's body. -/
def register (state : State) (slot : Nat) : State × Bool :=
  if w.registers slot then
    ({ state with discoveredSensors := state.discoveredSensors ++ [slot] }, true)
  else (state, false)

def takeAddress (state : State) (slot : Nat) (address : Option String) : State :=
  { state with
    excludedAddresses := normalize w address :: state.excludedAddresses
    slots := state.slots.modify slot fun s =>
      { s with address := address, connectionSetupComplete := false } }

def setTransportClient (state : State) (slot : Nat) (client : Nat) : State :=
  { state with
    slots := state.slots.modify slot fun s => { s with transportClient := some client } }

/-- The body of the loop over the sensors of an adapter; without success it raises. -/
def assign (create : Option (Nat → Option Nat)) (state : State) (slot : Nat)
    (address : Option String) : State × Bool :=
  if normalize w address ∈ state.excludedAddresses then (state, false)
  else
    match create with
    | none => register w (takeAddress w state slot address) slot
    | some create =>
      match create slot with
      | none => (takeAddress w state slot address, false)
      | some client =>
        register w (setTransportClient (takeAddress w state slot address) slot client) slot

def assignAll (create : Option (Nat → Option Nat)) :
    State → List (Nat × Option String) → State × Bool
  | state, [] => (state, true)
  | state, (slot, address) :: rest =>
    match assign w create state slot address with
    | (state, true) => assignAll create state rest
    | (state, false) => (state, false)

/-! ## One adapter -/

/-- One attempt: what is given to whom, or what is missing. -/
def attempt (excludedAddresses : List String) (group : List Pending) (scan : Scan) :
    Except (List String) (List (Nat × Option String)) :=
  let devices := scan.devices.restrict fun key =>
    decide (w.upper (strip key) ∉ excludedAddresses)
  let sensors := group.map fun p => p.1.requested
  let requested := sensors.map Requested.ofSensor
  let validation := validateMatchedDevices sensors (matchDevices w.text requested devices)
  -- the entries that match stand at the keys that have been chosen
  let keys := (chosen w.text devices requested).reduceOption
  if validation.valid then .ok ((group.map Prod.snd).zip (keys.map scan.deviceAddress))
  else .error validation.missing

/-- The loop over the sensors that have a device each. -/
def giveOut (adapter : Adapter) (state : State) (pairs : List (Nat × Option String)) :
    State × Option Outcome :=
  match assignAll w adapter.create state pairs with
  | (state, true) => (state, none)
  | (state, false) => (state, some .assignRaised)

/-- The loop's body for one adapter; without an outcome the next one has its turn. -/
def discoverAdapter (state : State) (adapter : Adapter) (group : List Pending) :
    State × Option Outcome :=
  match adapter.scans with
  | none => (state, none)
  | some (none, _) => (state, some .scanRaised)
  | some (some first, second) =>
    match attempt w state.excludedAddresses group first with
    | .ok pairs => giveOut w adapter state pairs
    | .error _ =>
      match second with
      | none => (state, some .scanRaised)
      | some second =>
        match attempt w state.excludedAddresses group second with
        | .ok pairs => giveOut w adapter state pairs
        | .error missing => (state, some (.incomplete missing))

def discoverGroups : State → List (String × List Pending) → State × Outcome
  | state, [] => (state, .discovered state.discoveredSensors)
  | state, (key, group) :: rest =>
    match discoverAdapter w state (w.adapters key) group with
    | (state, none) => discoverGroups state rest
    | (state, some outcome) => (state, outcome)

/-- `_discover_pending`. -/
def discoverPending (slots : List Slot) (pending : List Pending) (excludedAddresses : List String) :
    List Slot × Outcome :=
  if pending = [] then (slots, .discovered [])
  else if pending.any fun p => !w.available p.1.adapter then (slots, .unavailable)
  else
    let result := discoverGroups w ⟨slots, excludedAddresses, []⟩
      (Jobs.groupBy (fun p : Pending => p.1.adapter) pending).entries
    (result.1.slots, result.2)

end Discovery

/-! ## The two calls -/

inductive Request where
  | all
  | forSubject (requestedSensors : List Nat) (excludedAddresses : List String)

namespace Request

def pending (request : Request) (p : Pending) : Bool :=
  match request with
  | all => !p.1.connected
  | forSubject requestedSensors _ => decide (p.2 ∈ requestedSensors) && !p.1.connected

/-- The sensor's address is another sensor's, and in use. -/
def settled (request : Request) (p : Pending) : Bool :=
  match request with
  | all => p.1.connected
  | forSubject requestedSensors _ => p.1.connected || decide (p.2 ∉ requestedSensors)

def excluded : Request → List String
  | all => []
  | forSubject _ excludedAddresses => excludedAddresses

end Request

/-- `if sensor.address`. -/
def Slot.givenAddress (s : Slot) : Option String := s.address.filter fun address => address ≠ ""

/-- `connected_addresses`. -/
def connectedAddresses (w : Surroundings) (request : Request) (slots : List Slot) : List String :=
  ((slots.zipIdx.filter request.settled).filterMap fun p => p.1.givenAddress.map w.upper) ++
    request.excluded.map fun address => w.upper (strip address)

/-- `discover_all`, `discover_for_subject`. -/
def discover (w : Surroundings) (request : Request) (slots : List Slot) : List Slot × Outcome :=
  discoverPending w slots (slots.zipIdx.filter request.pending)
    (connectedAddresses w request slots)

/-! ## What a discovery leaves -/

/-- A sensor that is asked for, with an adapter that discovers. -/
def Asked (w : Surroundings) (request : Request) (slots : List Slot) (i : Nat) : Prop :=
  ∃ s, slots[i]? = some s ∧ request.pending (s, i) = true ∧
    (w.adapters s.adapter).scans.isSome = true

/-- What a sensor has been given; `client` where a new one has been made. -/
structure Assigned where
  slot : Nat
  address : Option String
  client : Option Nat

/-- The client is the one that is made for the sensor, if any are made. -/
def Assigned.madeBy (a : Assigned) (create : Option (Nat → Option Nat)) : Prop :=
  match create with
  | none => a.client = none
  | some create => ∃ client, create a.slot = some client ∧ a.client = some client

/-- The sensor has the client that its adapter makes. -/
def Assigned.furnished (w : Surroundings) (slots : List Slot) (a : Assigned) : Prop :=
  ∃ s, slots[a.slot]? = some s ∧ a.madeBy (w.adapters s.adapter).create

def Assigned.give (a : Assigned) (s : Slot) : Slot :=
  { s with
    address := a.address
    connectionSetupComplete := false
    transportClient := a.client <|> s.transportClient }

structure Orderly (w : Surroundings) (request : Request) (before after : List Slot)
    (outcome : Outcome) (assigned : List Assigned) : Prop where
  /-- Only who is asked for is given anything, and only once. -/
  asked : ∀ a ∈ assigned, Asked w request before a.slot
  once : (assigned.map Assigned.slot).Nodup
  given : ∀ a ∈ assigned, after[a.slot]? = (before[a.slot]?).map a.give
  unchanged : ∀ i ∉ assigned.map Assigned.slot, after[i]? = before[i]?
  /-- The addresses are distinct, from those excluded, and from those of other sensors that are
  connected or that the request is not about. -/
  distinct : (assigned.map fun a => normalize w a.address).Nodup
  notExcluded : ∀ a ∈ assigned, ∀ x ∈ request.excluded, normalize w a.address ≠ w.upper (strip x)
  notSettled : ∀ a ∈ assigned, ∀ i s x, before[i]? = some s → request.settled (s, i) = true →
    s.givenAddress = some x → normalize w a.address ≠ w.upper x
  /-- With success everybody has an address, and a client. -/
  complete : ∀ slots, outcome = .discovered slots →
    slots = assigned.map Assigned.slot ∧ ∀ i, Asked w request before i → i ∈ slots
  furnished : outcome ≠ .assignRaised → ∀ a ∈ assigned, a.furnished w before
  /-- Without, all sensors of an adapter are given something or none of them is, unless that fails
  while they are. -/
  whole : outcome ≠ .assignRaised → ∀ i j s t, before[i]? = some s → before[j]? = some t →
    s.adapter = t.adapter → Asked w request before i → Asked w request before j →
      i ∈ assigned.map Assigned.slot → j ∈ assigned.map Assigned.slot
  /-- Where that fails, only the last sensor may be left without its client. -/
  last : ∀ a ∈ assigned.dropLast, a.furnished w before

end NexusN3.Sensors.Discovery
