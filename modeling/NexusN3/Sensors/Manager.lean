import NexusN3.Lib.Fence
import NexusN3.Lib.Machine
import NexusN3.Sensors.Reconcile

/-!
# The manager loop

`SensorManager._manager_loop` takes one command after another and hands it to the services. A
sensor whose measurement a stop or a cleanup could not end gets an entry in
`recovery_obligations`, under `str(address).upper()`: connects and starts look there, and only a
recovery takes it out again.

* **`Manager`** — the handles, the installed configuration, the obligations, and a log of what
  was done to which address.
* **`stopSensors`**, **`cleanupSensors`**, **`discover`**, **`connectSensors`**,
  **`startSensors`**, **`reinitializeSensors`**, **`recover`** — the commands.
* **`step`** — one turn of the loop, or a callback between two of them.
-/

namespace NexusN3.Sensors

open Lib Lib.Jobs Lib.Fence

/-! ## The manager -/

/-- What was done to the sensor of an address. -/
inductive Deed where
  /-- a stop or a cleanup ended in another outcome than `stopped`, `cleaned`, `already_clean` -/
  | unresolved (key : String)
  | connected (key : String)
  | started (key : String)
  /-- a recovery found it eligible for acquisition, or the operator confirmed its STOP -/
  | released (key : String)
  deriving DecidableEq, Repr

/-- A sensor left unresolved is fenced until it is released. -/
def Deed.role : Deed → Role × String
  | .unresolved key => (.raises, key)
  | .connected key => (.crosses, key)
  | .started key => (.crosses, key)
  | .released key => (.lowers, key)

structure Manager where
  heap : Heap
  /-- the installed configuration -/
  sensors : List SensorId
  /-- an address known from a gateway's inventory only has no handle -/
  recoveryObligations : Dict String (Option SensorId) := Dict.empty
  /-- the loop has not ended and does not hang -/
  running : Bool := true
  log : List Deed := []

abbrev Handler (α : Type) := Program Manager Raised α

namespace Manager

/-- Change one handle. -/
def update (m : Manager) (i : SensorId) (f : Sensor → Sensor) : Manager :=
  { m with heap := Function.update m.heap i (f (m.heap i)) }

variable (upper : String → String)

/-- `str(sensor.address).upper()`. -/
def keyOf (m : Manager) (i : SensorId) : String := addressKey upper (m.heap i).address

def obliged (m : Manager) (i : SensorId) : Bool :=
  decide (m.keyOf upper i ∈ m.recoveryObligations.keys)

/-- Enter the first installed sensor with the address among the obligations. -/
def oblige (m : Manager) (address : Option String) : Manager :=
  match m.sensors.find? fun i => decide ((m.heap i).address = address) with
  | some i =>
    { m with recoveryObligations := m.recoveryObligations.set (m.keyOf upper i) (some i) }
  | none => m

/-- `get_connected_sensors`. -/
def connectedSensors (m : Manager) : List SensorId :=
  m.sensors.filter fun i =>
    (m.heap i).connectionStatus.connected && !(m.heap i).physicalStopQuarantined &&
      !m.obliged upper i

/-- The installed sensors, or those of them with one of the addresses. -/
def addressed (m : Manager) (ids : List SensorId) (addresses : Option (List String)) :
    List SensorId :=
  match addresses with
  | none => ids
  | some addresses => ids.filter fun i => decide ((m.heap i).address ∈ addresses.map some)

end Manager

/-- Give the `n`-th sensor of a list the `n`-th outcomes. -/
def withAwaits {τ : Type} (ids : List SensorId) (awaits : Nat → τ) : List (SensorId × τ) :=
  ids.zipIdx.map fun p => (p.1, awaits p.2)

namespace Handler

variable {α : Type}

/-- A plain call, by what it raises. -/
def call (e : Option Raised) : Handler Unit :=
  match e with
  | some e => throw e
  | none => pure ()

/-- An operation without a deadline: where it does not end, neither does the turn of the loop. -/
def settle (ending : Ending α) : Handler α :=
  match ending with
  | .returned value => pure value
  | .raised e => throw e
  | .expired => do
    modify fun m => { m with running := false }
    throw (timeoutError "")

/-- Await an operation on one handle. -/
def awaitOn (i : SensorId) (a : Awaited α) : Handler α := do
  modify fun m => m.update i a.touch.apply
  settle a.ending

end Handler

open Handler

variable (upper : String → String)

/-- Something is done to the sensor, under the address it has. -/
def note (deed : String → Deed) (i : SensorId) : Handler Unit :=
  modify fun m => { m with log := m.log ++ [deed (m.keyOf upper i)] }

/-! ## Stop and cleanup -/

/-- The addresses a stop leaves unresolved. -/
def unresolvedStops (results : List (SensorId × StopResult)) : List (Option String) :=
  results.filterMap fun r => if r.2.status = .stopped then none else some r.2.address

/-- The addresses a cleanup leaves unresolved. -/
def unresolvedCleanups (results : List (SensorId × CleanupResult)) : List (Option String) :=
  results.filterMap fun r =>
    if r.2.status = .unconfirmed ∨ r.2.status = .failed then some r.2.address else none

namespace Manager

/-- The results are there. -/
def produced (m : Manager) (unresolved : List (Option String)) : Manager :=
  { m with log := m.log ++ unresolved.map fun a => .unresolved (addressKey upper a) }

/-- Enter the unresolved sensors among the obligations. -/
def obligeAll (m : Manager) (unresolved : List (Option String)) : Manager :=
  unresolved.foldl (oblige upper) m

end Manager

structure StopCall where
  pool : AdapterPool
  /-- `none` for `stop_all` -/
  addresses : Option (List String) := none
  /-- the text of a timeout in `_wait_for_routing_to_drain` -/
  routingError : Option String := none
  awaits : Nat → StopAwaits := fun _ => {}
  /-- what the client raises on `on_stream_stopped` -/
  client : Option Raised := none

/-- The targets of a stop. -/
def StopCall.targets (c : StopCall) (m : Manager) : List (SensorId × StopAwaits) :=
  withAwaits (m.addressed m.sensors c.addresses) c.awaits

/-- The addresses that the service leaves unresolved, whether or not its client returns. -/
def StopCall.unresolved (c : StopCall) (m : Manager) : List (Option String) :=
  unresolvedStops ((stopTargets c.pool (c.targets m) m.heap).1.toOption.getD [])

/-- `streaming_service.stop`. -/
def StopCall.dispatch (c : StopCall) : Handler (List (SensorId × StopResult)) :=
  .of fun m =>
    let (results, heap) := stop c.pool c.client (c.targets m) m.heap
    (results, { (m.produced upper (c.unresolved m)) with heap := heap })

/-- The targets are isolated when the routing of their samples did not drain. -/
def StopCall.isolate (c : StopCall) (error : String) : Handler (List (SensorId × StopResult)) :=
  .of fun m =>
    let targets := m.addressed m.sensors c.addresses
    let results := targets.map fun i =>
      (i, ({ address := (m.heap i).address, status := .notAttempted, error := some error } :
        StopResult))
    (.ok results,
      (targets.foldl (fun m i => m.update i Sensor.quarantined) m).produced upper
        (unresolvedStops results))

/-- The results of a stop. -/
def StopCall.results (c : StopCall) : Handler (List (SensorId × StopResult)) :=
  match c.routingError with
  | some error => c.isolate upper error
  | none => c.dispatch upper

/-- `stop_all` and `stop_specific_sensors`. The obligations are entered after the command has
returned its results. -/
def stopSensors (c : StopCall) : Handler Unit := do
  let results ← c.results upper
  modify fun m => m.obligeAll upper (unresolvedStops results)

structure CleanupCall where
  /-- `none` for `disconnect_all` -/
  addresses : Option (List String) := none
  awaits : Nat → CleanupAwaits := fun _ => {}
  /-- what the client raises on `on_disconnected` and on `on_cleanup_complete` -/
  onDisconnected : Option Raised := none
  onCleanupComplete : Option Raised := none

/-- `if sensor.address`. -/
def hasAddress (s : Sensor) : Bool :=
  match s.address with
  | some address => decide (address ≠ "")
  | none => false

/-- The targets of a cleanup. -/
def CleanupCall.targets (c : CleanupCall) (m : Manager) : List (SensorId × CleanupAwaits) :=
  let ids := m.sensors.filter fun i =>
    hasAddress (m.heap i) &&
      match c.addresses with
      | none => true
      | some addresses => decide (m.keyOf upper i ∈ addresses.map upper)
  withAwaits ids c.awaits

/-- The addresses that the service leaves unresolved. -/
def CleanupCall.unresolved (c : CleanupCall) (m : Manager) : List (Option String) :=
  unresolvedCleanups (cleanup (c.targets upper m) m.heap).1

/-- `cleanup_service.cleanup`. -/
def CleanupCall.dispatch (c : CleanupCall) : Handler (List (SensorId × CleanupResult)) :=
  .of fun m =>
    let (results, heap) := cleanup (c.targets upper m) m.heap
    (.ok results, { (m.produced upper (c.unresolved upper m)) with heap := heap })

/-- `disconnect_all` and `disconnect_addresses`. The obligations are entered in
`_emit_to_client("on_cleanup_complete")`, before the client hears of it. -/
def cleanupSensors (c : CleanupCall) : Handler Unit := do
  let results ← c.dispatch upper
  call c.onDisconnected
  modify fun m => m.obligeAll upper (unresolvedCleanups results)
  call c.onCleanupComplete

/-! ## Discovery -/

structure DiscoverCall where
  pool : AdapterPool
  /-- `discover_for_subject`: the requested sensors and the excluded addresses -/
  subject : Option (List SensorId × List String) := none
  /-- `has_method(adapter, "discover_devices")` -/
  canDiscover : String → Bool := fun _ => true
  /-- the addresses matched to the sensors of an adapter; `none` where some are missing -/
  scan : String → Ending (Option (List String))
  /-- what the client raises on `on_discover` -/
  client : Option Raised := none

/-- The sensors that need an address. The comparison is with the member of one enumeration. -/
def DiscoverCall.pending (d : DiscoverCall) (m : Manager) : List SensorId :=
  m.sensors.filter fun i =>
    decide ((m.heap i).connectionStatus ≠ .CONNECTED) &&
      match d.subject with
      | none => true
      | some (requested, _) => decide (i ∈ requested)

/-- The addresses that discovery leaves alone. `norm` is `str(address).strip().upper()`. -/
def DiscoverCall.excluded (norm : String → String) (d : DiscoverCall) (m : Manager) :
    List String :=
  let taken := m.sensors.filter fun i =>
    hasAddress (m.heap i) &&
      (decide ((m.heap i).connectionStatus = .CONNECTED) ||
        match d.subject with
        | none => false
        | some (requested, _) => decide (i ∉ requested))
  taken.map (m.keyOf upper) ++ ((d.subject.map Prod.snd).getD []).map norm

/-- The sensor gets the address and a new transport client. -/
def setAddress (i : SensorId) (address : String) : Handler Unit :=
  modify fun m => m.update i fun s => { s with
    address := some address
    hasClient := true }

/-- `zip(sensors_for_adapter, matched)`. -/
def assign (norm : String → String) :
    List SensorId → List String → List String → Handler (List String)
  | i :: ids, address :: addresses, excluded =>
    if norm address ∈ excluded then
      throw ⟨"ValueError", "Discovery selected an excluded sensor address"⟩
    else do
      setAddress i address
      assign norm ids addresses (norm address :: excluded)
  | _, _, excluded => pure excluded

/-- The loop of `_discover_pending` over the adapters. -/
def discoverGroups (norm : String → String) (d : DiscoverCall) :
    List (String × List (SensorId × Unit)) → List String → List SensorId →
      Handler (List SensorId)
  | [], _, discovered => do
    call d.client
    pure discovered
  | (key, targets) :: groups, excluded, discovered =>
    if !d.canDiscover key then discoverGroups norm d groups excluded discovered
    else do
      let matched ← settle (d.scan key)
      match matched with
      | none => do
        call d.client
        pure []
      | some addresses => do
        let ids := targets.map Prod.fst
        let excluded ← assign norm ids addresses excluded
        discoverGroups norm d groups excluded (discovered ++ ids.take addresses.length)

/-- The targets of a command, by their adapters. -/
def grouped {τ : Type} (pool : AdapterPool) (targets : List (SensorId × τ)) :
    Handler (List (String × List (SensorId × τ))) :=
  .of fun m => ((pool.groupSensors m.heap targets).map Dict.entries, m)

/-- `discover` and `discover_for_subject`. -/
def discover (norm : String → String) (d : DiscoverCall) : Handler (List SensorId) := do
  let m ← get
  let pending := d.pending m
  if pending = [] then pure []
  else do
    let groups ← grouped d.pool (withAwaits pending fun _ => ())
    discoverGroups norm d groups (d.excluded upper norm m) []

/-! ## Connections -/

structure ConnectAwaits where
  /-- `adapter.connect_to_device`; of a connect of all sensors, only what it does to this one -/
  connect : Awaited Bool := ⟨.returned true, { status := some .CONNECTED }⟩
  setUp : Awaited Unit := ⟨.returned (), {}⟩

structure ConnectCall where
  pool : AdapterPool
  awaits : Nat → ConnectAwaits := fun _ => {}
  /-- `has_method(adapter, "connect_all")` -/
  canConnect : String → Bool := fun _ => true
  /-- on Linux, for an adapter with `connect_to_device` -/
  sequential : String → Bool := fun _ => false
  /-- `adapter.connect_all` -/
  connectAll : String → Ending Unit := fun _ => .returned ()
  /-- what the client raises on `on_connected` -/
  client : Option Raised := none

/-- `_ensure_reconciled`. -/
def ensureReconciled (ids : List SensorId) : Handler Unit := do
  let m ← get
  match ids.find? (m.obliged upper) with
  | some i =>
    let address := (m.heap i).address.getD "None"
    throw (runtimeError
      s!"Sensor {address} has unresolved physical STOP; use Reset to reconcile it")
  | none => pure ()

/-- `set_up_sensor`, on a sensor that is connected now. -/
def setUpConnected (target : SensorId × ConnectAwaits) : Handler Unit := do
  let m ← get
  if (m.heap target.1).connectionStatus.connected then awaitOn target.1 target.2.setUp
  else pure ()

/-- One sensor of `_connect_and_setup_sequentially`. -/
def connectOne (target : SensorId × ConnectAwaits) : Handler Unit := do
  note upper .connected target.1
  let ok ← awaitOn target.1 target.2.connect
  if ok then setUpConnected target else pure ()

/-- What a connect of all sensors does to one. -/
def connectWithAll (target : SensorId × ConnectAwaits) : Handler Unit := do
  note upper .connected target.1
  modify fun m => m.update target.1 target.2.connect.touch.apply

def connectGroup (c : ConnectCall) (group : String × List (SensorId × ConnectAwaits)) :
    Handler Unit :=
  if !c.canConnect group.1 then pure ()
  else if c.sequential group.1 then group.2.forM (connectOne upper)
  else do
    group.2.forM (connectWithAll upper)
    settle (c.connectAll group.1)
    group.2.forM setUpConnected

/-- `connection_service.connect_all`, and `connect_specific` where there are sensors. -/
def connectSensors (c : ConnectCall) (ids : List SensorId) : Handler Unit := do
  ensureReconciled upper ids
  let groups ← grouped c.pool (withAwaits ids c.awaits)
  groups.forM (connectGroup upper c)
  call c.client

/-- `connect_all` and `connect_specific_sensors`. -/
def connect (c : ConnectCall) (addresses : Option (List String)) : Handler Unit := do
  let m ← get
  let ids := m.addressed m.sensors addresses
  if addresses.isSome && ids.isEmpty then pure () else connectSensors upper c ids

/-- `discover_and_connect`. -/
def discoverAndConnect (norm : String → String) (d : DiscoverCall) (c : ConnectCall) :
    Handler Unit := do
  let discovered ← discover upper norm d
  if discovered.isEmpty then pure () else connectSensors upper c discovered

/-! ## Starts -/

structure StartCall where
  pool : AdapterPool
  /-- `none` for `start_all` -/
  addresses : Option (List String) := none
  /-- `sensor.start_stream` -/
  awaits : Nat → Awaited Unit := fun _ => ⟨.returned (), {}⟩
  /-- what `set_acquisition_scope` of an adapter's gateway raises -/
  scope : String → Option Raised := fun _ => none
  /-- what the client raises on `on_stream_started` -/
  client : Option Raised := none

/-- `_start_sensor_stream`. -/
def startOne (target : SensorId × Awaited Unit) : Handler Unit := do
  let m ← get
  let s := m.heap target.1
  if s.physicalStopQuarantined then
    throw (runtimeError "Sensor requires physical STOP reconciliation before reuse")
  else do
    modify fun m => m.update target.1 fun s => { s with measurementCleanupPending := true }
    if s.startStream = .callable then do
      note upper .started target.1
      awaitOn target.1 target.2
    else if s.requestSample = .callable then note upper .started target.1
    else pure ()

def startGroup (c : StartCall) (group : String × List (SensorId × Awaited Unit)) :
    Handler Unit := do
  call (c.scope group.1)
  group.2.forM (startOne upper)

/-- `start_all` and `start_specific_sensors`. -/
def startSensors (c : StartCall) : Handler Unit := do
  let m ← get
  let ids := m.addressed (m.connectedSensors upper) c.addresses
  let groups ← grouped c.pool (withAwaits ids c.awaits)
  groups.forM (startGroup upper c)
  call c.client

/-! ## Reconfiguration -/

structure ReinitializeCall where
  /-- the new configuration -/
  sensors : List SensorId
  /-- waiting until the routing has drained -/
  drain : Ending Unit := .returned ()
  /-- `adapter.disconnect`, where the adapter of a connected sensor has it -/
  disconnect : Nat → Option (Awaited Bool) := fun _ => none
  /-- the new adapters are created and initialized -/
  install : Ending Unit := .returned ()

namespace Manager

/-- `setdefault` on the obligations. -/
def retain (m : Manager) (key : String) (sensor : Option SensorId) : Manager :=
  if key ∈ m.recoveryObligations.keys then m
  else { m with recoveryObligations := m.recoveryObligations.set key sensor }

/-- Sensors of the old configuration that may still be measuring are retained. -/
def retainPending (m : Manager) : Manager :=
  m.sensors.foldl (fun m i =>
    if hasAddress (m.heap i) && ((m.heap i).measurementCleanupPending ||
        (m.heap i).physicalStopQuarantined) then m.retain (m.keyOf upper i) (some i)
    else m) m

/-- The hosts of the other sensors are closed. -/
def retire (m : Manager) : Manager :=
  m.sensors.foldl (fun m i =>
    if m.obliged upper i then m else m.update i fun s => { s with hasClient := false }) m

end Manager

/-- An operation under the deadline of the reconfiguration. -/
def boundedSettle {α : Type} (ending : Ending α) : Handler α :=
  match ending with
  | .returned value => pure value
  | .raised e => throw e
  | .expired => throw (timeoutError "Recovery operation deadline reached")

/-- The disconnect of one sensor of the old configuration. -/
def disconnectOld (target : SensorId × Option (Awaited Bool)) : Handler Unit :=
  match target.2 with
  | none => pure ()
  | some a => do
    modify fun m => m.update target.1 a.touch.apply
    let disconnected ← boundedSettle a.ending
    if disconnected then
      modify fun m => m.update target.1 fun s => { s with connectionStatus := .DISCONNECTED }
    else pure ()

/-- The `try` body of `_reinitialize_sensor_manager`. -/
def replaceConfiguration (c : ReinitializeCall) : Handler Unit := do
  boundedSettle c.drain
  let m ← get
  let connected := m.sensors.filter fun i =>
    (m.heap i).connectionStatus.connected && !m.obliged upper i
  (withAwaits connected c.disconnect).forM disconnectOld
  modify fun m => m.retire upper
  modify fun m => { m with sensors := c.sensors }
  boundedSettle c.install

/-- `__reinitialize_sensors__`. A failure brings the old configuration back. -/
def reinitializeSensors (c : ReinitializeCall) : Handler Unit := do
  let previous ← get
  modify (Manager.retainPending upper)
  tryCatch (replaceConfiguration upper c) fun e => do
    modify fun m => { m with sensors := previous.sensors }
    throw e

/-! ## Recovery -/

structure RecoverCall where
  pool : AdapterPool
  /-- `none` for a recovery of all sensors -/
  addresses : Option (List String) := none
  /-- the active acquisitions of the gateways -/
  active : List String := []
  allowBleReset : Bool := false
  confirmedStoppedAddresses : List String := []
  gateways : String → GatewayAwaits := fun _ => {}
  awaits : Nat → ReconcileAwaits := fun _ => {}

/-- The address is among the requested ones. -/
def RecoverCall.requested (c : RecoverCall) (key : String) : Bool :=
  match c.addresses with
  | none => true
  | some addresses => decide (key ∈ addresses.map upper)

/-- The sensors to recover: the installed ones, and in their place the retained ones. -/
def RecoverCall.targets (c : RecoverCall) (m : Manager) : Dict String (Option SensorId) :=
  let installed := m.sensors.foldl (fun targets i =>
    if hasAddress (m.heap i) && c.requested upper (m.keyOf upper i) then
      targets.set (m.keyOf upper i) (some i)
    else targets) Dict.empty
  m.recoveryObligations.entries.foldl (fun targets e =>
    if c.requested upper e.1 then targets.set e.1 e.2 else targets) installed

/-- What the recovery service is asked. -/
def RecoverCall.recovery (c : RecoverCall) : Recovery where
  upper := upper
  activeAddresses := c.active
  confirmedStoppedAddresses := c.confirmedStoppedAddresses
  allowBleReset := c.allowBleReset

/-- `cleanup_service.reconcile`. -/
def RecoverCall.dispatch (c : RecoverCall) :
    Handler (List (SensorId × RecoveryReport) × List GatewayReport) :=
  .of fun m =>
    let ids := (c.targets upper m).values.filterMap id
    let (payload, heap) :=
      reconcile c.pool (c.recovery upper) c.gateways (withAwaits ids c.awaits) m.heap
    (payload, { m with heap := heap })

/-- Take an address out of the obligations. -/
def release (key : String) : Handler Unit :=
  modify fun m => { m with
    recoveryObligations := m.recoveryObligations.erase key
    log := m.log ++ [.released key] }

/-- `targets[address]`. -/
def targetAt (targets : Dict String (Option SensorId)) (key : String) :
    Handler (Option SensorId) :=
  match targets.get? key with
  | some sensor => pure sensor
  | none => throw ⟨"KeyError", key⟩

/-- One result of a recovery. -/
def settleResult (targets : Dict String (Option SensorId))
    (report : SensorId × RecoveryReport) : Handler Unit := do
  let key := addressKey upper report.2.result.address
  if report.2.result.eligibleForAcquisition then do
    release key
    let _ ← targetAt targets key
    pure ()
  else do
    let sensor ← targetAt targets key
    modify fun m => { m with recoveryObligations := m.recoveryObligations.set key sensor }

/-- Links in a gateway's inventory without a retained handle. -/
def retainLinks (c : RecoverCall) (targets : Dict String (Option SensorId))
    (gateway : GatewayReport) : Handler Unit :=
  modify fun m =>
    ((gateway.inventory.bind Inventory.connectedAddresses).getD []).foldl (fun m address =>
      if address ∉ targets.keys ∧ address ∉ c.active.map upper then m.retain address none
      else m) m

/-- A gateway came out of a reset with no link left. -/
def GatewayReport.verifiedReset (g : GatewayReport) : Bool :=
  g.available &&
    match g.inventory with
    | some inventory =>
      decide (inventory.resetConfirmed = some true) &&
        ((inventory.connectedAddresses).getD []).isEmpty
    | none => false

/-- A retained address without a handle is released on the operator's word after such a reset. -/
def releaseConfirmed (c : RecoverCall) (gateways : List GatewayReport)
    (entry : String × Option SensorId) : Handler Unit :=
  if entry.2 = none ∧ c.requested upper entry.1 = true ∧
      entry.1 ∈ c.confirmedStoppedAddresses.map upper ∧ c.allowBleReset = true ∧
      gateways.any GatewayReport.verifiedReset = true then release entry.1
  else pure ()

/-- `_recover_sensors`. -/
def recover (c : RecoverCall) : Handler Unit := do
  let m ← get
  let targets := c.targets upper m
  let payload ← c.dispatch upper
  payload.1.forM (settleResult upper targets)
  payload.2.forM (retainLinks upper c targets)
  let m ← get
  m.recoveryObligations.entries.forM (releaseConfirmed upper c payload.2)

/-! ## The loop -/

inductive Command where
  | stop (c : StopCall)
  | cleanup (c : CleanupCall)
  | discover (d : DiscoverCall)
  | connect (c : ConnectCall) (addresses : Option (List String))
  | discoverAndConnect (d : DiscoverCall) (c : ConnectCall)
  | start (c : StartCall)
  | reinitializeSensors (c : ReinitializeCall)
  | recover (c : RecoverCall)
  /-- `identify`, the initialization of adapters, a reset of diagnostics, an unknown message -/
  | other (ending : Ending Unit)

structure Message where
  command : Command
  /-- the sender waits for a completion -/
  completion : Bool := false
  /-- what the client raises on `on_error` -/
  onError : Option Raised := none

/-- The loop takes a message, or a callback or a worker touches a handle. -/
inductive Turn where
  | message (msg : Message)
  | touch (i : SensorId) (t : Touch)

variable (norm : String → String)

def handle : Command → Handler Unit
  | .stop c => stopSensors upper c
  | .cleanup c => cleanupSensors upper c
  | .discover d => do
    let _ ← discover upper norm d
    pure ()
  | .connect c addresses => connect upper c addresses
  | .discoverAndConnect d c => discoverAndConnect upper norm d c
  | .start c => startSensors upper c
  | .reinitializeSensors c => reinitializeSensors upper c
  | .recover c => recover upper c
  | .other ending => settle ending

/-- One turn. An exception goes to the completion, or else to the `on_error` client: one that
raises ends the loop. -/
def step : Machine Manager Turn
  | m, .message msg =>
    if !m.running then none
    else
      match (handle upper norm msg.command).exec m with
      | (.ok _, m') => some m'
      | (.error _, m') =>
        if msg.completion then some m'
        else some { m' with running := m'.running && msg.onError.isNone }
  | m, .touch i t => some (m.update i t.apply)

end NexusN3.Sensors
