import NexusN3.Sensors.Cleanup

/-!
# Recovery

`CleanupService.reconcile` recovers the gateways and then the targets of each: it retires their
worker, stops what is still pending, takes down the link and lifts the quarantine. A sensor whose
recovery fails is put back into quarantine.

* **`recoverGateway`** — one gateway: the error its targets are refused with, and its report.
* **`reconcileTarget`** — one target.
* **`reconcile_truthful_iff`** — one result for each target, true of the handle it is on, as long
  as the adapters of the targets can be had.
-/

namespace NexusN3.Sensors

open Lib Lib.Jobs Lib.Program Coroutine

/-! ## Gateways -/

structure Inventory where
  resetConfirmed : Option Bool := none
  bleReady : Option Bool := none
  /-- the key may be missing -/
  connectedAddresses : Option (List String) := some []
  deriving DecidableEq, Repr

/-- What the recovery of one adapter meets. -/
structure GatewayAwaits where
  /-- `recover_connections` within its time, where the adapter has it -/
  recover : Option (Except Raised Inventory) := none
  /-- `reset_session` and `recover_connections` within theirs -/
  reset : Except Raised Inventory := .ok {}

/-- What the targets of an adapter find. -/
structure GatewayState where
  error : Option String := none
  /-- `none` for an adapter that recovers nothing -/
  inventory : Option Inventory := none

structure GatewayReport where
  available : Bool
  error : Option String := none
  inventory : Option Inventory := none
  deriving DecidableEq, Repr

/-- What a recovery is asked. -/
structure Recovery where
  /-- `str.upper` -/
  upper : String → String
  activeAddresses : List String := []
  confirmedStoppedAddresses : List String := []
  allowBleReset : Bool := false

/-- `str(address).upper()`. -/
def addressKey (upper : String → String) (address : Option String) : String :=
  upper (address.getD "None")

namespace Recovery

def active (r : Recovery) (s : Sensor) : Bool :=
  decide (addressKey r.upper s.address ∈ r.activeAddresses.map r.upper)

def confirmed (r : Recovery) (s : Sensor) : Bool :=
  decide (addressKey r.upper s.address ∈ r.confirmedStoppedAddresses.map r.upper)

end Recovery

/-- The controlled reset, where it is needed. -/
def resetGateway (r : Recovery) (g : GatewayAwaits) (inventory : Inventory) : GatewayState :=
  if !inventory.resetConfirmed.getD true || !r.confirmedStoppedAddresses.isEmpty then
    if r.allowBleReset then
      match g.reset with
      | .ok inventory => { inventory := some inventory }
      | .error e =>
        { error := some s!"Gateway BLE reset remains unconfirmed: {e.text}"
          inventory := some inventory }
    else
      { error := some
          "Previous BLE reset outcome remains uncertain; explicit controlled reset required"
        inventory := some inventory }
  else { inventory := some inventory }

def recoverGateway (r : Recovery) (g : GatewayAwaits) : GatewayState × Option GatewayReport :=
  match g.recover with
  | none => ({}, none)
  | some (.error e) =>
    ({ error := some
        s!"Gateway communication unavailable: {e.text}; restore UART and retry Reset" },
      some { available := false, error := some e.text })
  | some (.ok inventory) =>
    let state := resetGateway r g inventory
    let unready := (state.inventory.bind Inventory.bleReady) = some false
    ({ state with
        error := if unready then some "Gateway UART responds, but BLE is not ready; retry recovery"
          else state.error },
      some { available := true, inventory := state.inventory })

/-! ## One target -/

structure ReconcileResult where
  address : Option String
  name : String
  location : String
  status : CleanupStatus := .unconfirmed
  measurementStopConfirmed : Bool
  eligibleForAcquisition : Bool := false
  linkConnected : Bool
  confirmationSource : Option String := none
  error : Option String := none
  deriving DecidableEq, Repr

/-- A result, and whether it comes from an attempt at the sensor (the last branch). -/
structure RecoveryReport where
  result : ReconcileResult
  attempted : Bool

/-- What the recovery of one target meets. -/
structure ReconcileAwaits where
  deadlineReached : Bool := false
  /-- `release_after_verified_stop`, or else `close_host` -/
  retire : Option (Awaited Unit) := none
  retireInTime : Bool := true
  /-- what `release_transport_client` raises -/
  release : Option Raised := none
  /-- `sensor.prepare_recovery` -/
  prepare : Option (Awaited Unit) := none
  /-- `_stop_worker` is there and not done -/
  workerRunning : Bool := false
  pollingStop : Awaited Unit := ⟨.returned (), {}⟩
  /-- `client.is_connected` before the STOP -/
  connected : Bool := true
  reconnectForRecovery : Option (Awaited Bool) := none
  connectForCleanup : Option (Awaited Bool) := none
  /-- `stop_stream` within its 15 seconds -/
  stopStream : Awaited Bool := ⟨.returned true, {}⟩
  stopInTime : Bool := true
  /-- `client.is_connected` after the STOP -/
  stillConnected : Bool := true
  disconnect : Awaited Bool := ⟨.returned true, {}⟩
  disconnectInTime : Bool := true
  /-- `operation.check()` of the bounded attempt -/
  inTime : Bool := true
  /-- `client.is_connected` at last -/
  linkConnected : Bool := false

namespace Sensor

/-- Disconnected and out of quarantine. -/
def idle (s : Sensor) : Sensor :=
  { s with
    connectionStatus := .DISCONNECTED
    physicalStopQuarantined := false }

def inCleanup (s : Sensor) (running : Bool) : Sensor := { s with cleanupInProgress := running }

end Sensor

/-- `_retire_after_external_stop`. -/
def retireAfterExternalStop (w : ReconcileAwaits) : Coroutine Unit := do
  optional w.retire
  check w.retireInTime
  modify fun s => s.clearPending.idle
  let s ← get
  call (if s.hasClient then w.release else none)

/-- The handle is made ready: by the plugin proxy's own hook, or here. -/
def prepareRecovery (w : ReconcileAwaits) : Coroutine Unit :=
  match w.prepare with
  | some a => await a
  | none =>
    if w.workerRunning then
      raise (runtimeError "Previous STOP is still executing; retry Reset later")
    else modify fun s => { s with physicalStopQuarantined := false }

/-- The link that a pending STOP needs. -/
def reconnect (w : ReconcileAwaits) (s : Sensor) : Coroutine Bool :=
  if s.hasClient && w.connected then pure true
  else
    match w.reconnectForRecovery with
    | some a => await a
    | none =>
      match if s.hasClient then w.connectForCleanup else none with
      | some a => await a
      | none => pure false

/-- The STOP of a pending measurement. -/
def stopPending (w : ReconcileAwaits) : Coroutine Unit := do
  let s ← get
  let connected ← reconnect w s
  if connected then do
    modify fun s => { s with connectionStatus := .CONNECTED }
    let stopped ← callStopStream w.stopStream
    check w.stopInTime
    if stopped then modify Sensor.clearPending
    else raise (runtimeError "Plugin reported unsuccessful STOP")
  else raise (runtimeError "Sensor unreachable or safe reconnection unavailable")

def disconnectLink (w : ReconcileAwaits) : Coroutine Unit := do
  let s ← get
  if s.hasClient && w.stillConnected then do
    let disconnected ← await w.disconnect
    check w.disconnectInTime
    if disconnected then pure ()
    else raise (runtimeError "Physical disconnection unconfirmed")
  else pure ()

/-- `_reconcile_sensor`. -/
def reconcileSensor (w : ReconcileAwaits) : Coroutine Unit := do
  prepareRecovery w
  modify (Sensor.inCleanup · true)
  tryFinally
    (do
      await w.pollingStop
      let s ← get
      (if s.measurementCleanupPending then stopPending w else pure ())
      disconnectLink w
      modify Sensor.idle)
    (Sensor.inCleanup · false)

/-- The `try` body of a target. -/
def attempt (r : Recovery) (g : GatewayState) (w : ReconcileAwaits) (s : Sensor) :
    Except Raised Unit × Sensor :=
  if r.confirmed s then
    match g.inventory with
    | none =>
      (.error (runtimeError "External STOP confirmation requires a confirmed controlled BLE reset"),
        s)
    | some inventory =>
      if !r.allowBleReset then
        (.error (runtimeError
          "External STOP confirmation requires a confirmed controlled BLE reset"), s)
      else
        match inventory.connectedAddresses with
        | none => (.error ⟨"KeyError", "connected_addresses"⟩, s)
        | some connected =>
          if addressKey r.upper s.address ∈ connected then
            (.error (runtimeError
              "External STOP confirmation requires a confirmed controlled BLE reset"), s)
          else bounded (retireAfterExternalStop w) w.inTime s
  else bounded (reconcileSensor w) w.inTime s

/-- The result before anything is tried. -/
def recoveryResult (w : ReconcileAwaits) (s : Sensor) : ReconcileResult where
  address := s.address
  name := s.name
  location := s.location
  measurementStopConfirmed := !s.measurementCleanupPending
  linkConnected := s.hasClient && w.linkConnected

/-- Who confirmed the STOP of a sensor that is released. -/
def Recovery.source (r : Recovery) (s : Sensor) : Option String :=
  if r.confirmed s then some "operator" else none

/-- One target of `CleanupService.reconcile`, with what its gateway left. -/
def reconcileTarget (r : Recovery) (job : GatewayState × ReconcileAwaits) (s : Sensor) :
    RecoveryReport × Sensor :=
  if r.active s then
    (⟨{ recoveryResult job.2 s with
        status := .failed
        error := some "Sensor is actively acquiring; stop its subject before recovery" }, false⟩, s)
  else
    match job.1.error with
    | some error => (⟨{ recoveryResult job.2 s with error := some error }, false⟩, s)
    | none =>
      if job.2.deadlineReached then
        (⟨{ recoveryResult job.2 s with error := some "Recovery deadline reached; retry Reset" },
          false⟩, s)
      else
        match attempt r job.1 job.2 s with
        | (.ok (), s') =>
          (⟨{ recoveryResult job.2 s with
              status := .cleaned
              measurementStopConfirmed := true
              eligibleForAcquisition := true
              linkConnected := false
              confirmationSource := r.source s }, true⟩, s')
        | (.error e, s') =>
          (⟨{ recoveryResult job.2 s with
              measurementStopConfirmed := !s'.measurementCleanupPending
              linkConnected := s'.hasClient && job.2.linkConnected
              error := some (described e ++ ". Retry Reset with the sensor in range; " ++
                "if STOP remains unconfirmed, power cycle the sensor.") }, true⟩, s'.quarantined)

/-! ## The service -/

/-- The targets of the groups, each with what the gateway of its group left. -/
def recoveryJobs (r : Recovery) (gateways : String → GatewayAwaits)
    (groups : Dict String (List (SensorId × ReconcileAwaits))) :
    List (SensorId × (GatewayState × ReconcileAwaits)) :=
  groups.entries.flatMap fun group =>
    group.2.map fun target => (target.1, ((recoverGateway r (gateways group.1)).1, target.2))

/-- `CleanupService.reconcile`: the results and the gateways. Adapters without targets are
recovered as well. -/
def reconcile (pool : AdapterPool) (r : Recovery) (gateways : String → GatewayAwaits)
    (targets : List (SensorId × ReconcileAwaits)) (heap : Heap) :
    Except Raised (List (SensorId × RecoveryReport) × List GatewayReport) × Heap :=
  match pool.groupSensors heap targets with
  | .error e => (.error e, heap)
  | .ok groups =>
    let (reports, heap') := each (reconcileTarget r) (recoveryJobs r gateways groups) heap
    let others := pool.adapters.filter fun key => decide (key ∉ groups.keys)
    let states := (groups.keys ++ others).filterMap fun key => (recoverGateway r (gateways key)).2
    (.ok (reports, states), heap')

/-! ## What one target keeps -/

theorem follows_idle (s : Sensor) : Follows s s.idle := ⟨rfl, rfl, rfl, id⟩

theorem follows_inCleanup (s : Sensor) (running : Bool) : Follows s (s.inCleanup running) :=
  ⟨rfl, rfl, rfl, id⟩

theorem keeps_retireAfterExternalStop (w : ReconcileAwaits) :
    Keeps Follows (retireAfterExternalStop w) := by
  refine Keeps.bind (keeps_optional _) fun _ => Keeps.bind (keeps_check _) fun _ => ?_
  refine Keeps.bind (keeps_modify fun s => ?_) fun _ => Keeps.bind keeps_get fun s => keeps_call _
  exact trans_of Follows (follows_clearPending s) (follows_idle _)

theorem keeps_prepareRecovery (w : ReconcileAwaits) : Keeps Follows (prepareRecovery w) := by
  unfold prepareRecovery
  split
  · exact keeps_await _
  · exact Keeps.ite (keeps_raise _) (keeps_modify fun _ => ⟨rfl, rfl, rfl, id⟩)

theorem keeps_reconnect (w : ReconcileAwaits) (s : Sensor) : Keeps Follows (reconnect w s) := by
  refine Keeps.ite (Keeps.pure _) ?_
  split
  · exact keeps_await _
  · split
    · exact keeps_await _
    · exact Keeps.pure _

theorem keeps_stopPending (w : ReconcileAwaits) : Keeps Follows (stopPending w) := by
  refine Keeps.bind keeps_get fun s => Keeps.bind (keeps_reconnect w s) fun _ =>
    Keeps.ite ?_ (keeps_raise _)
  refine Keeps.bind (keeps_modify fun _ => ⟨rfl, rfl, rfl, id⟩) fun _ =>
    Keeps.bind (keeps_callStopStream _) fun _ => Keeps.bind (keeps_check _) fun _ => ?_
  exact Keeps.ite (keeps_modify follows_clearPending) (keeps_raise _)

theorem keeps_disconnectLink (w : ReconcileAwaits) : Keeps Follows (disconnectLink w) := by
  refine Keeps.bind keeps_get fun s => Keeps.ite ?_ (Keeps.pure _)
  exact Keeps.bind (keeps_await _) fun _ => Keeps.bind (keeps_check _) fun _ =>
    Keeps.ite (Keeps.pure _) (keeps_raise _)

theorem keeps_reconcileSensor (w : ReconcileAwaits) : Keeps Follows (reconcileSensor w) := by
  refine Keeps.bind (keeps_prepareRecovery w) fun _ =>
    Keeps.bind (keeps_modify (follows_inCleanup · true)) fun _ =>
      keeps_tryFinally ?_ (follows_inCleanup · false)
  refine Keeps.bind (keeps_await _) fun _ => Keeps.bind keeps_get fun s =>
    Keeps.bind (Keeps.ite (keeps_stopPending w) (Keeps.pure _)) fun _ =>
      Keeps.bind (keeps_disconnectLink w) fun _ => keeps_modify follows_idle

theorem follows_attempt (r : Recovery) (g : GatewayState) (w : ReconcileAwaits) (s : Sensor) :
    Follows s (attempt r g w s).2 := by
  unfold attempt
  split
  · split
    · exact refl_of Follows s
    split
    · exact refl_of Follows s
    split
    · exact refl_of Follows s
    split
    · exact refl_of Follows s
    · exact follows_bounded (keeps_retireAfterExternalStop w) _ s
  · exact follows_bounded (keeps_reconcileSensor w) _ s

theorem follows_reconcileTarget (r : Recovery) (job : GatewayState × ReconcileAwaits)
    (s : Sensor) : Follows s (reconcileTarget r job s).2 := by
  have hkept := follows_attempt r job.1 job.2 s
  unfold reconcileTarget
  split
  · exact refl_of Follows s
  split
  · exact refl_of Follows s
  split
  · exact refl_of Follows s
  split
  · rename_i s' hrun
    rwa [hrun] at hkept
  · rename_i e s' hrun
    rw [hrun] at hkept
    exact trans_of Follows hkept (follows_quarantined s')

theorem reconcileTarget_address (r : Recovery) (job : GatewayState × ReconcileAwaits)
    (s : Sensor) : (reconcileTarget r job s).1.result.address = s.address := by
  unfold reconcileTarget
  split
  · rfl
  split
  · rfl
  split
  · rfl
  split <;> rfl

/-! ## Truth of one result -/

/-- Stopped, disconnected and out of quarantine. -/
structure Released (s : Sensor) : Prop where
  stopped : Stopped s
  disconnected : s.connectionStatus.connected = false
  free : s.physicalStopQuarantined = false

theorem Released.of_idle {s : Sensor} (h : Stopped s) : Released s.idle := ⟨h, rfl, rfl⟩

theorem retireAfterExternalStop_released (w : ReconcileAwaits) (P : Sensor → Prop) :
    Returns P (retireAfterExternalStop w) fun _ => Released := by
  refine Returns.trivial.bind fun _ => Returns.trivial.bind fun _ => ?_
  refine Triple.bind (Q := fun _ => Released) (Triple.modify _ fun s _ => .of_idle rfl) fun _ => ?_
  refine Triple.bind (Triple.get.post fun _ _ h => h.1) fun s => ?_
  exact returns_call _

theorem stopPending_stopped (w : ReconcileAwaits) (P : Sensor → Prop) :
    Returns P (stopPending w) fun _ => Stopped := by
  refine Returns.trivial.bind fun s => Returns.trivial.bind fun _ => Triple.ite (fun _ => ?_)
    fun _ => returns_raise _
  refine Returns.trivial.bind fun _ => Returns.trivial.bind fun _ =>
    Returns.trivial.bind fun _ => ?_
  exact Triple.ite (fun _ => Triple.modify _ fun _ _ => rfl) fun _ => returns_raise _

theorem reconcileSensor_released (w : ReconcileAwaits) (P : Sensor → Prop) :
    Returns P (reconcileSensor w) fun _ => Released := by
  refine Returns.trivial.bind fun _ => Returns.trivial.bind fun _ =>
    returns_tryFinally ?_ fun _ s h => ⟨h.stopped, h.disconnected, h.free⟩
  refine Returns.trivial.bind fun _ => Triple.bind Triple.get fun s => ?_
  refine Triple.bind (Q := fun _ => Stopped) ?_ fun _ => ?_
  · refine Triple.ite (fun _ => stopPending_stopped w _) fun hpending =>
      Triple.pure _ fun s' hs' => ?_
    rw [← hs'.2]
    exact Bool.eq_false_iff.mpr hpending
  · refine ((keeps_disconnectLink w).returns fun _ _ h hs => hs.of_follows h).bind fun _ => ?_
    exact Triple.modify _ fun _ => .of_idle

theorem attempt_released {r : Recovery} {g : GatewayState} {w : ReconcileAwaits} {s s' : Sensor}
    (h : attempt r g w s = (.ok (), s')) : Released s' := by
  have hretired := retireAfterExternalStop_released w (fun _ => True) s trivial
  have hreconciled := reconcileSensor_released w (fun _ => True) s trivial
  unfold attempt at h
  split at h
  · split at h
    · cases h
    split at h
    · cases h
    split at h
    · cases h
    split at h
    · cases h
    · rwa [exec_of_bounded h] at hretired
  · rwa [exec_of_bounded h] at hreconciled

/-- What a report says of the handle it is made on. -/
structure RecoveryReport.Truthful (report : RecoveryReport) (s : Sensor) : Prop where
  eligible : report.result.eligibleForAcquisition = true → Released s
  isolated : report.attempted = true → report.result.eligibleForAcquisition = false →
    s.physicalStopQuarantined = true

theorem reconcileTarget_truthful (r : Recovery) (job : GatewayState × ReconcileAwaits)
    (s : Sensor) : (reconcileTarget r job s).1.Truthful (reconcileTarget r job s).2 := by
  unfold reconcileTarget
  split
  · exact ⟨nofun, nofun⟩
  split
  · exact ⟨nofun, nofun⟩
  split
  · exact ⟨nofun, nofun⟩
  split
  · rename_i s' hrun
    exact ⟨fun _ => attempt_released hrun, nofun⟩
  · exact ⟨nofun, fun _ _ => rfl⟩

/-! ## The whole recovery -/

/-- The call returned one result per target. An eligible one among them is on a sensor whose
measurement is stopped, and the last result on each sensor is true of it. -/
def ReconcileTruthful (heap : Heap) (targets : List (SensorId × ReconcileAwaits))
    (outcome : Except Raised (List (SensorId × RecoveryReport) × List GatewayReport) × Heap) :
    Prop :=
  ∃ reports gateways, outcome.1 = .ok (reports, gateways) ∧
    Complete (fun report : RecoveryReport => report.result.address) heap targets reports ∧
    (∀ e ∈ reports, e.2.result.eligibleForAcquisition = true → Stopped (outcome.2 e.1)) ∧
    ∀ i report, (about i reports).getLast? = some report → report.Truthful (outcome.2 i)

/-- The jobs are the targets, each with a gateway's state. -/
theorem length_about_recoveryJobs (r : Recovery) (gateways : String → GatewayAwaits)
    (groups : Dict String (List (SensorId × ReconcileAwaits))) (i : SensorId) :
    (about i (recoveryJobs r gateways groups)).length = (about i (flat groups)).length := by
  have hgroup : ∀ (state : GatewayState) (ts : List (SensorId × ReconcileAwaits)),
      (about i (ts.map fun t => (t.1, (state, t.2)))).length = (about i ts).length := by
    intro state ts
    induction ts with
    | nil => rfl
    | cons t ts ih => by_cases h : t.1 = i <;> simp [h, ih]
  unfold recoveryJobs flat
  induction groups.entries with
  | nil => rfl
  | cons group es ih => simp [hgroup, ih]

theorem reconcile_truthful_iff (pool : AdapterPool) (r : Recovery)
    (gateways : String → GatewayAwaits) (targets : List (SensorId × ReconcileAwaits))
    (heap : Heap) :
    ReconcileTruthful heap targets (reconcile pool r gateways targets heap) ↔
      pool.Serves heap targets := by
  unfold reconcile
  cases hgroups : pool.groupSensors heap targets with
  | error e =>
    rw [AdapterPool.serves_iff, hgroups]
    simp [ReconcileTruthful]
  | ok groups =>
    have hserves := AdapterPool.serves_of_groupSensors hgroups
    obtain rfl : groupBy (fun target => pool.key (heap target.1)) targets = groups :=
      Except.ok.inj ((AdapterPool.groupSensors_ok hserves).symm.trans hgroups)
    refine iff_of_true ⟨_, _, rfl, ?_, ?_, ?_⟩ hserves
    · refine Complete.each (reconcileTarget_address r) (follows_reconcileTarget r) fun i => ?_
      rw [length_about_recoveryJobs, about_flat_groupBy (fun i => pool.key (heap i))]
    · rintro ⟨i, report⟩ hr heligible
      rw [← mem_about, about_each] at hr
      rw [each_heap]
      have hreports := all_reports (reconcileTarget r)
        (G := fun report s => report.result.eligibleForAcquisition = true → Stopped s)
        (fun job s h => ((reconcileTarget_truthful r job s).eligible h).stopped)
        (fun report job s h heligible => (h heligible).of_follows (follows_reconcileTarget r job s))
      exact hreports _ _ report hr heligible
    · intro i report hlast
      rw [about_each] at hlast
      rw [each_heap]
      exact all_last (reconcileTarget r) (G := RecoveryReport.Truthful)
        (reconcileTarget_truthful r) _ _ hlast

/-! ## The three services -/

/-- **Reports are truthful and complete.** A cleanup always returns one true result per target.
A recovery does when the adapters of its targets can be had; a stop, when besides its client
returns and no target is misreported. -/
theorem reports_truthful_iff (pool : AdapterPool) (heap : Heap) :
    (∀ client targets, StopTruthful heap targets (stop pool client targets heap) ↔
      pool.Serves heap targets ∧ client = none ∧ ∀ i, ¬Misreported (heap i) (about i targets)) ∧
    (∀ targets, CleanupTruthful heap targets (cleanup targets heap)) ∧
    ∀ r gateways targets,
      ReconcileTruthful heap targets (reconcile pool r gateways targets heap) ↔
        pool.Serves heap targets :=
  ⟨fun client targets => stop_truthful_iff pool client targets heap,
    fun targets => cleanup_truthful targets heap,
    fun r gateways targets => reconcile_truthful_iff pool r gateways targets heap⟩

/-- A sensor of the polling kind: its class sets `stop_stream = None`. -/
def polledSensor : Sensor where
  address := some "AA:01"
  name := "thermo"
  connectionStatus := .CONNECTED
  measurementCleanupPending := true
  startStream := .notCallable
  stopStream := .notCallable
  requestSample := .callable

/-- The stop of the polled sensor reports it stopped while its measurement is pending. -/
theorem polled_reported_stopped :
    let outcome := stop { upper := id } none [(0, {})] fun _ => polledSensor
    outcome.1 = .ok [(0, { address := some "AA:01", status := .stopped })] ∧
      (outcome.2 0).measurementCleanupPending = true ∧
      ¬StopTruthful (fun _ => polledSensor) [(0, {})] outcome := by
  refine ⟨rfl, rfl, fun htrue => ?_⟩
  obtain ⟨results, hresults, -, hstopped⟩ := htrue
  cases hresults
  have hcleared : true = false := hstopped _ (.head _) rfl
  cases hcleared

end NexusN3.Sensors
