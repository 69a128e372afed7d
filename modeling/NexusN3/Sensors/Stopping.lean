import NexusN3.Sensors.Handle

/-!
# Stopping streams

`StreamingService.stop` bounds the STOP of each target and keeps an outcome for every one of
them. A sensor whose STOP timed out is isolated and not tried again.

* **`stopSensor`** — one target: its result and the handle it leaves.
* **`stopTargets`** — the results of a stop, before the client hears of them.
* **`stop`** — the service call: a client that raises takes the results with it.
* **`Misreported`** — the sensors a stop reports stopped although nothing stopped them.
-/

namespace NexusN3.Sensors

open Lib Lib.Jobs

/-- The statuses of stop results. -/
inductive StopStatus where
  | stopped
  | unconfirmed
  | notAttempted
  deriving DecidableEq, Repr

/-! ## The adapter pool -/

structure AdapterPool where
  /-- `str.upper` -/
  upper : String → String
  /-- the types that have an adapter -/
  adapters : List String := ["BLE"]
  /-- what creating the adapter of a type raises -/
  creating : String → Option Raised := fun _ => none

namespace AdapterPool

/-- The key of a sensor's adapter. -/
def key (pool : AdapterPool) (s : Sensor) : String := pool.upper s.adapter

/-- What `for_sensor` raises. -/
def forSensor (pool : AdapterPool) (s : Sensor) : Option Raised :=
  if pool.key s ∈ pool.adapters then none else pool.creating (pool.key s)

/-- `group_sensors`: the targets by their adapters. -/
def groupSensors {τ : Type} (pool : AdapterPool) (heap : Heap) (targets : List (SensorId × τ)) :
    Except Raised (Dict String (List (SensorId × τ))) :=
  match targets.findSome? fun target => pool.forSensor (heap target.1) with
  | some e => .error e
  | none => .ok (groupBy (fun target => pool.key (heap target.1)) targets)

/-- Every target has an adapter, or one can be created. -/
def Serves {τ : Type} (pool : AdapterPool) (heap : Heap) (targets : List (SensorId × τ)) : Prop :=
  ∀ target ∈ targets, pool.forSensor (heap target.1) = none

theorem groupSensors_ok {τ : Type} {pool : AdapterPool} {heap : Heap}
    {targets : List (SensorId × τ)} (h : pool.Serves heap targets) :
    pool.groupSensors heap targets =
      .ok (groupBy (fun target => pool.key (heap target.1)) targets) := by
  rw [groupSensors, List.findSome?_eq_none_iff.mpr h]

theorem serves_of_groupSensors {τ : Type} {pool : AdapterPool} {heap : Heap}
    {targets : List (SensorId × τ)} {groups : Dict String (List (SensorId × τ))}
    (h : pool.groupSensors heap targets = .ok groups) : pool.Serves heap targets := by
  unfold groupSensors at h
  split at h
  · cases h
  · rename_i hnone
    exact List.findSome?_eq_none_iff.mp hnone

theorem serves_iff {τ : Type} {pool : AdapterPool} {heap : Heap}
    {targets : List (SensorId × τ)} :
    pool.Serves heap targets ↔ ∃ groups, pool.groupSensors heap targets = .ok groups :=
  ⟨fun h => ⟨_, groupSensors_ok h⟩, fun ⟨_, h⟩ => serves_of_groupSensors h⟩

end AdapterPool

/-! ## One target -/

/-- What the STOP of one target meets. -/
structure StopAwaits where
  /-- the deadline of the whole stop has passed when the target's turn comes -/
  deadlineReached : Bool := false
  /-- `polling_stream_service.stop`, which leaves the handle alone -/
  pollingStop : Ending Unit := .returned ()
  stopStream : Awaited Bool := ⟨.returned true, {}⟩
  /-- what `operation.check()` finds -/
  inTime : Bool := true
  /-- an exception came when the target's own deadline had passed -/
  late : Bool := false
  /-- `_stop_worker` is there and not done after an exception -/
  workerRunning : Bool := false

structure StopResult where
  address : Option String
  status : StopStatus := .unconfirmed
  error : Option String := none
  deriving DecidableEq, Repr

namespace Sensor

def clearPending (s : Sensor) : Sensor := { s with measurementCleanupPending := false }

def quarantined (s : Sensor) : Sensor := { s with physicalStopQuarantined := true }

/-- A `stop_stream` that cannot be called, on a sensor that can be polled. -/
def Mismatched (s : Sensor) : Prop := s.stopStream = .notCallable ∧ s.requestSample = .callable

instance (s : Sensor) : Decidable s.Mismatched := inferInstanceAs (Decidable (_ ∧ _))

theorem Mismatched.of_follows {s s' : Sensor} (h : Follows s s') :
    s'.Mismatched ↔ s.Mismatched := by
  rw [Mismatched, Mismatched, h.stopStream, h.requestSample]

end Sensor

open Coroutine in
/-- The first branch of `_stop_sensor_stream`. -/
def stopWithHook (w : StopAwaits) : Coroutine Unit := do
  let stopped ← callStopStream w.stopStream
  if stopped then
    check w.inTime
    modify Sensor.clearPending
  else raise (runtimeError "Plugin reported unsuccessful STOP")

open Coroutine in
/-- The branches of `_stop_sensor_stream` that call a plugin, or refuse to. -/
def stopHooks (w : StopAwaits) (s : Sensor) : Coroutine Unit :=
  if s.stopStream = .callable then stopWithHook w
  else if s.requestSample = .callable then pure ()
  else raise (runtimeError s!"Sensor {s.name} does not implement stop-stream hooks")

open Coroutine in
/-- What `_stop_sensor_stream` does after them. -/
def finishPolled (w : StopAwaits) (s : Sensor) : Coroutine Unit :=
  -- here the attribute is not asked to be callable
  if s.requestSample ≠ .absent ∧ s.stopStream = .absent then do
    check w.inTime
    modify Sensor.clearPending
  else pure ()

open Coroutine in
/-- `_stop_sensor_stream`. -/
def stopSensorStream (w : StopAwaits) : Coroutine Unit := do
  await ⟨w.pollingStop, {}⟩
  let s ← get
  stopHooks w s
  finishPolled w s

/-- One target of `StreamingService.stop`. -/
def stopSensor (w : StopAwaits) (s : Sensor) : StopResult × Sensor :=
  let result : StopResult := { address := s.address }
  if s.physicalStopQuarantined then
    ({ result with
        status := .notAttempted
        error := some "Previous STOP is isolated; reconciliation required" }, s)
  else if w.deadlineReached then
    ({ result with
        status := .notAttempted
        error := some "Physical STOP operation deadline reached" }, s)
  else if !s.connectionStatus.connected then
    if s.measurementCleanupPending then
      ({ result with
          status := .notAttempted
          error := some "Sensor link unavailable; measurement STOP unconfirmed" }, s)
    else ({ result with status := .stopped }, s)
  else
    match (stopSensorStream w).exec s with
    | (.ok (), s') => ({ result with status := .stopped }, s')
    | (.error .cancelled, s') =>
      ({ result with
          error := some (described (timeoutError "Physical sensor STOP deadline reached")) },
        s'.quarantined)
    | (.error (.raised e), s') =>
      ({ result with error := some (described e) },
        -- a nested timeout can leave a worker running too
        if w.late || isTimeout e || w.workerRunning then s'.quarantined else s')

/-! ## The service -/

/-- The loop of `StreamingService.stop`. -/
def stopTargets (pool : AdapterPool) (targets : List (SensorId × StopAwaits)) (heap : Heap) :
    Except Raised (List (SensorId × StopResult)) × Heap :=
  match pool.groupSensors heap targets with
  | .error e => (.error e, heap)
  | .ok groups =>
    let (results, heap') := each stopSensor (flat groups) heap
    (.ok results, heap')

/-- `StreamingService.stop`. The diagnostics in between are caught whatever they do; `client` is
what `on_stream_stopped` raises. -/
def stop (pool : AdapterPool) (client : Option Raised) (targets : List (SensorId × StopAwaits))
    (heap : Heap) : Except Raised (List (SensorId × StopResult)) × Heap :=
  match stopTargets pool targets heap with
  | (.error e, heap') => (.error e, heap')
  | (.ok results, heap') =>
    match client with
    | some e => (.error e, heap')
    | none => (.ok results, heap')

/-! ## What one target keeps -/

open Program Coroutine

theorem follows_clearPending (s : Sensor) : Follows s s.clearPending :=
  ⟨rfl, rfl, rfl, fun h => Bool.noConfusion h⟩

theorem follows_quarantined (s : Sensor) : Follows s s.quarantined := ⟨rfl, rfl, rfl, id⟩

theorem keeps_stopWithHook (w : StopAwaits) : Keeps Follows (stopWithHook w) := by
  refine Keeps.bind (keeps_callStopStream _) fun stopped => Keeps.ite ?_ (keeps_raise _)
  exact Keeps.bind (keeps_check _) fun _ => keeps_modify follows_clearPending

theorem keeps_stopSensorStream (w : StopAwaits) : Keeps Follows (stopSensorStream w) := by
  refine Keeps.bind (keeps_await _) fun _ => Keeps.bind keeps_get fun s => Keeps.bind ?_ fun _ => ?_
  · exact Keeps.ite (keeps_stopWithHook w) (Keeps.ite (Keeps.pure _) (keeps_raise _))
  · refine Keeps.ite ?_ (Keeps.pure _)
    exact Keeps.bind (keeps_check _) fun _ => keeps_modify follows_clearPending

theorem follows_stopSensor (w : StopAwaits) (s : Sensor) : Follows s (stopSensor w s).2 := by
  have hkept := keeps_stopSensorStream w s
  unfold stopSensor
  split
  · exact refl_of Follows s
  split
  · exact refl_of Follows s
  split
  · split
    · exact refl_of Follows s
    · exact refl_of Follows s
  split
  · rename_i s' hrun
    rwa [hrun] at hkept
  · rename_i s' hrun
    rw [hrun] at hkept
    exact trans_of Follows hkept (follows_quarantined s')
  · rename_i e s' hrun
    rw [hrun] at hkept
    split
    · exact trans_of Follows hkept (follows_quarantined s')
    · exact hkept

theorem follows_all (ws : List StopAwaits) (s : Sensor) : Follows s (all stopSensor ws s).2 :=
  all_keeps follows_stopSensor ws s

@[simp] theorem stopSensor_address (w : StopAwaits) (s : Sensor) :
    (stopSensor w s).1.address = s.address := by
  unfold stopSensor
  split
  · rfl
  split
  · rfl
  split
  · split <;> rfl
  split <;> rfl

/-! ## Truth of one result -/

theorem clears_after_check (inTime : Bool) (P : Sensor → Prop) :
    Returns P (do check inTime; modify Sensor.clearPending : Coroutine Unit) fun _ => Stopped :=
  Returns.trivial.bind fun _ => Triple.modify _ fun _ _ => rfl

theorem stopWithHook_stopped (w : StopAwaits) (P : Sensor → Prop) :
    Returns P (stopWithHook w) fun _ => Stopped :=
  Returns.trivial.bind fun _ =>
    Triple.ite (fun _ => clears_after_check _ _) fun _ => returns_raise _

/-- A `_stop_sensor_stream` that returns has cleared the flag, unless the hooks mismatch. -/
theorem stopSensorStream_stopped (w : StopAwaits) :
    Returns (fun s => ¬s.Mismatched) (stopSensorStream w) fun _ => Stopped := by
  have hpolling := (keeps_await ⟨w.pollingStop, {}⟩).returns (P := fun s => ¬s.Mismatched)
    fun s s' h hs => mt (Sensor.Mismatched.of_follows h).mp hs
  refine hpolling.bind fun _ => Triple.bind Triple.get fun s => ?_
  have hknown : ∀ s', ¬s'.Mismatched ∧ s = s' → ¬s.Mismatched ∧ True :=
    fun s' h => ⟨h.2 ▸ h.1, trivial⟩
  refine Triple.pre (Triple.assume fun hmatched => ?_) hknown
  refine Triple.bind (Q := fun _ s' =>
    if s.stopStream = .callable then Stopped s' else s.requestSample = .callable) ?_ fun _ => ?_
  · refine Triple.ite (fun hcallable => ?_) fun hcallable => Triple.ite (fun hpolled => ?_) fun _ =>
      returns_raise _
    · simp only [if_pos hcallable]
      exact stopWithHook_stopped w _
    · simp only [if_neg hcallable]
      exact Triple.pure _ fun _ _ => hpolled
  · refine Triple.ite (fun _ => clears_after_check _ _) fun hpolled => Triple.pure _ ?_
    intro s' hs'
    split at hs'
    · exact hs'
    · rename_i hcallable
      -- the sensor is polled: its `stop_stream` would have to be the mismatch
      refine absurd ⟨?_, hs'⟩ hmatched
      cases hstop : s.stopStream with
      | absent => exact absurd ⟨by rw [hs']; exact Hook.noConfusion, hstop⟩ hpolled
      | notCallable => rfl
      | callable => exact absurd hstop hcallable

/-- A result `stopped` is true of a sensor whose hooks match. -/
theorem stopSensor_truthful (w : StopAwaits) (s : Sensor) (hs : ¬s.Mismatched)
    (hstopped : (stopSensor w s).1.status = .stopped) : Stopped (stopSensor w s).2 := by
  have hend := stopSensorStream_stopped w s hs
  revert hstopped
  unfold stopSensor
  split
  · exact nofun
  split
  · exact nofun
  split
  · split
    · exact nofun
    · rename_i hpending
      exact fun _ => Bool.eq_false_iff.mpr hpending
  split
  · rename_i s' hrun
    rw [hrun] at hend
    exact fun _ => hend
  · exact nofun
  · exact nofun

/-! ## Sensors that are reported stopped for nothing -/

namespace StopAwaits

/-- A mismatched sensor is tried in time and its `_stop_sensor_stream` returns. -/
def passes (w : StopAwaits) : Bool :=
  !w.deadlineReached &&
    match w.pollingStop with
    | .returned _ => true
    | _ => false

/-- The attempt isolates a mismatched sensor. -/
def isolates (w : StopAwaits) : Bool :=
  !w.deadlineReached &&
    match w.pollingStop with
    | .returned _ => false
    | .raised e => w.late || isTimeout e || w.workerRunning
    | .expired => true

end StopAwaits

/-- The STOP of this sensor can be tried: it is linked and not isolated. -/
def Sensor.Reachable (s : Sensor) : Prop :=
  s.connectionStatus.connected = true ∧ s.physicalStopQuarantined = false

instance (s : Sensor) : Decidable s.Reachable := inferInstanceAs (Decidable (_ ∧ _))

/-- A stop with these attempts at the sensor reports it stopped while its measurement is not:
its hooks mismatch, and an attempt passes before one isolates it. -/
def Misreported (s : Sensor) (ws : List StopAwaits) : Prop :=
  s.Mismatched ∧ s.measurementCleanupPending = true ∧ s.Reachable ∧
    ∃ w ∈ ws.takeWhile (fun w => !w.isolates), w.passes = true

instance (s : Sensor) (ws : List StopAwaits) : Decidable (Misreported s ws) :=
  inferInstanceAs (Decidable (_ ∧ _ ∧ _ ∧ _))

/-- On a mismatched sensor `_stop_sensor_stream` only stops the polling. -/
theorem exec_stopSensorStream_mismatched (w : StopAwaits) {s : Sensor} (hs : s.Mismatched) :
    (stopSensorStream w).exec s =
      match w.pollingStop with
      | .returned _ => (.ok (), s)
      | .raised e => (.error (.raised e), s)
      | .expired => (.error .cancelled, s) := by
  obtain ⟨hstop, hpolled⟩ := hs
  have htouch : Touch.apply {} s = s := by
    simp [Touch.apply]
  have hrest : (stopHooks w s >>= fun _ => finishPolled w s).exec s = (.ok (), s) := by
    simp [stopHooks, finishPolled, hstop, hpolled]
  rw [stopSensorStream, exec_bind, exec_await]
  cases w.pollingStop with
  | returned _ => rwa [htouch]
  | raised _ => rw [htouch]
  | expired => rw [htouch]

theorem stopSensor_unreachable {s : Sensor} (hpending : s.measurementCleanupPending = true)
    (hreach : ¬s.Reachable) (w : StopAwaits) :
    (stopSensor w s).1.status = .notAttempted ∧ (stopSensor w s).2 = s := by
  unfold stopSensor
  split
  · exact ⟨rfl, rfl⟩
  split
  · exact ⟨rfl, rfl⟩
  split
  · exact ⟨rfl, rfl⟩
  · rename_i hquarantined _ hlink
    exact absurd ⟨by simpa using hlink, by simpa using hquarantined⟩ hreach

theorem stopSensor_reachable {s : Sensor} (hs : s.Mismatched) (hreach : s.Reachable)
    (w : StopAwaits) :
    ((stopSensor w s).1.status = .stopped ↔ w.passes = true) ∧
      (stopSensor w s).2 = if w.isolates then s.quarantined else s := by
  obtain ⟨hlink, hquarantined⟩ := hreach
  have hrun := exec_stopSensorStream_mismatched w hs
  unfold stopSensor StopAwaits.passes StopAwaits.isolates
  rw [hrun]
  cases w.deadlineReached with
  | true => simp [hquarantined]
  | false => cases w.pollingStop <;> simp [hquarantined, hlink]

/-- What cannot be tried is not reported stopped while its measurement is pending. -/
theorem all_unreachable {s : Sensor} (hpending : s.measurementCleanupPending = true)
    (hreach : ¬s.Reachable) (ws : List StopAwaits) :
    ∀ r ∈ (all stopSensor ws s).1, r.status ≠ .stopped := by
  induction ws with
  | nil => exact List.forall_mem_nil _
  | cons w ws ih =>
    obtain ⟨hstatus, hsame⟩ := stopSensor_unreachable hpending hreach w
    rw [all_cons, hsame]
    intro r hr
    rcases List.mem_cons.mp hr with rfl | hr
    · rw [hstatus]
      exact nofun
    · exact ih r hr

/-- One of the attempts reports the sensor stopped exactly when one passes first. -/
theorem exists_stopped_iff {s : Sensor} (hs : s.Mismatched) (hreach : s.Reachable)
    (hpending : s.measurementCleanupPending = true) (ws : List StopAwaits) :
    (∃ r ∈ (all stopSensor ws s).1, r.status = .stopped) ↔
      ∃ w ∈ ws.takeWhile (fun w => !w.isolates), w.passes = true := by
  induction ws with
  | nil => simp
  | cons w ws ih =>
    obtain ⟨hstatus, hleft⟩ := stopSensor_reachable hs hreach w
    cases hisolates : w.isolates with
    | true =>
      have hpasses : w.passes = false := by
        unfold StopAwaits.passes StopAwaits.isolates at *
        cases w.deadlineReached <;> cases hend : w.pollingStop <;> simp_all
      have hrest := all_unreachable (s := s.quarantined) hpending (fun h => nomatch h.2) ws
      simp [hstatus, hleft, hisolates, hpasses]
      exact hrest
    | false => simp [hstatus, hleft, hisolates, ih]

/-- A mismatched sensor keeps its pending measurement. -/
theorem pending_of_mismatched {s : Sensor} (hs : s.Mismatched)
    (hpending : s.measurementCleanupPending = true) (ws : List StopAwaits) :
    (all stopSensor ws s).2.measurementCleanupPending = true := by
  induction ws generalizing s with
  | nil => exact hpending
  | cons w ws ih =>
    have hs' := (Sensor.Mismatched.of_follows (follows_stopSensor w s)).mpr hs
    rw [all_cons]
    refine ih hs' ?_
    by_cases hreach : s.Reachable
    · rw [(stopSensor_reachable hs hreach w).2]
      split <;> exact hpending
    · rw [(stopSensor_unreachable hpending hreach w).2]
      exact hpending

/-- **One sensor of a stop.** What is reported of it is true in the end exactly when it is not
misreported. -/
theorem stopped_truthful_iff (ws : List StopAwaits) (s : Sensor) :
    (∀ r ∈ (all stopSensor ws s).1, r.status = .stopped → Stopped (all stopSensor ws s).2) ↔
      ¬Misreported s ws := by
  constructor
  · rintro htrue ⟨hs, hpending, hreach, hpasses⟩
    obtain ⟨r, hr, hstopped⟩ := (exists_stopped_iff hs hreach hpending ws).mpr hpasses
    have hfinal := htrue r hr hstopped
    rw [Stopped, pending_of_mismatched hs hpending] at hfinal
    cases hfinal
  · intro hfine r hr hstopped
    by_cases hs : s.Mismatched
    · cases hpending : s.measurementCleanupPending with
      | false =>
        exact Stopped.of_follows (follows_all ws s) hpending
      | true =>
        by_cases hreach : s.Reachable
        · exact absurd ⟨hs, hpending, hreach, (exists_stopped_iff hs hreach hpending ws).mp
            ⟨r, hr, hstopped⟩⟩ hfine
        · exact absurd hstopped (all_unreachable hpending hreach ws r hr)
    · have hreports := all_reports stopSensor
        (G := fun r s' => ¬s'.Mismatched → r.status = .stopped → Stopped s')
        (fun w s' hs' => stopSensor_truthful w s'
          (mt (Sensor.Mismatched.of_follows (follows_stopSensor w s')).mpr hs'))
        (fun r w s' hr hs' hstatus => Stopped.of_follows (follows_stopSensor w s')
          (hr (mt (Sensor.Mismatched.of_follows (follows_stopSensor w s')).mpr hs') hstatus)) ws s
      exact hreports r hr (mt (Sensor.Mismatched.of_follows (follows_all ws s)).mp hs) hstopped

/-! ## The whole stop -/

/-- The reports of a service on its targets: one for each, under the target's address. -/
structure Complete {τ ρ : Type} (address : ρ → Option String) (heap : Heap)
    (targets : List (SensorId × τ)) (reports : List (SensorId × ρ)) : Prop where
  perm : (reports.map Prod.fst).Perm (targets.map Prod.fst)
  addresses : ∀ e ∈ reports, address e.2 = (heap e.1).address

/-- Working through the jobs reports completely, where each report is on the sensor's address
and no job changes that. -/
theorem Complete.each {τ ρ : Type} {work : τ → Sensor → ρ × Sensor} {address : ρ → Option String}
    (haddress : ∀ t s, address (work t s).1 = s.address)
    (hfollows : ∀ t s, Follows s (work t s).2) {heap : Heap} {τ' : Type}
    {targets : List (SensorId × τ')} {jobs : List (SensorId × τ)}
    (hjobs : ∀ i, (about i jobs).length = (about i targets).length) :
    Complete address heap targets (each work jobs heap).1 where
  perm := by
    refine perm_of_about fun i => ?_
    rw [about_each, length_all, hjobs]
  addresses := by
    rintro ⟨i, r⟩ hr
    rw [← mem_about, about_each] at hr
    generalize about i jobs = ts at hr
    generalize heap i = s at hr ⊢
    induction ts generalizing s with
    | nil => cases hr
    | cons t ts ih =>
      rcases List.mem_cons.mp hr with rfl | hr
      · exact haddress t s
      · exact (ih _ hr).trans (hfollows t s).address

/-- The loop of a stop that gets through works the targets off, in some order of the sensors. -/
theorem stopTargets_ok {pool : AdapterPool} {targets : List (SensorId × StopAwaits)}
    {heap heap' : Heap} {results : List (SensorId × StopResult)}
    (h : stopTargets pool targets heap = (.ok results, heap')) :
    pool.Serves heap targets ∧
      ∃ jobs, (∀ i, about i jobs = about i targets) ∧
        each stopSensor jobs heap = (results, heap') := by
  unfold stopTargets at h
  cases hgroups : pool.groupSensors heap targets with
  | error e =>
    rw [hgroups] at h
    cases h
  | ok groups =>
    have hserves := AdapterPool.serves_of_groupSensors hgroups
    obtain rfl : groupBy (fun target => pool.key (heap target.1)) targets = groups :=
      Except.ok.inj ((AdapterPool.groupSensors_ok hserves).symm.trans hgroups)
    rw [hgroups] at h
    cases h
    exact ⟨hserves, _, about_flat_groupBy (fun i => pool.key (heap i)) targets, rfl⟩

theorem stopTargets_error {pool : AdapterPool} {targets : List (SensorId × StopAwaits)}
    {heap heap' : Heap} {e : Raised} (h : stopTargets pool targets heap = (.error e, heap')) :
    ¬pool.Serves heap targets ∧ heap' = heap := by
  unfold stopTargets at h
  cases hgroups : pool.groupSensors heap targets with
  | error e =>
    rw [hgroups] at h
    cases h
    rw [AdapterPool.serves_iff, hgroups]
    exact ⟨nofun, rfl⟩
  | ok groups =>
    rw [hgroups] at h
    cases h

/-- What a stop that gets through reports, whether or not its client returns. -/
theorem stopTargets_complete {pool : AdapterPool} {targets : List (SensorId × StopAwaits)}
    {heap heap' : Heap} {results : List (SensorId × StopResult)}
    (h : stopTargets pool targets heap = (.ok results, heap')) :
    Complete StopResult.address heap targets results ∧ ∀ i, Follows (heap i) (heap' i) := by
  obtain ⟨-, jobs, hjobs, hrun⟩ := stopTargets_ok h
  have hcomplete : Complete StopResult.address heap targets (each stopSensor jobs heap).1 :=
    Complete.each stopSensor_address follows_stopSensor fun i => by rw [hjobs]
  have hfollows := each_keeps follows_stopSensor jobs heap
  rw [hrun] at hcomplete hfollows
  exact ⟨hcomplete, hfollows⟩

/-- The call returned one result per target, and each `stopped` among them is true. -/
def StopTruthful (heap : Heap) (targets : List (SensorId × StopAwaits))
    (outcome : Except Raised (List (SensorId × StopResult)) × Heap) : Prop :=
  ∃ results, outcome.1 = .ok results ∧ Complete StopResult.address heap targets results ∧
    ∀ e ∈ results, e.2.status = .stopped → Stopped (outcome.2 e.1)

theorem stop_truthful_iff (pool : AdapterPool) (client : Option Raised)
    (targets : List (SensorId × StopAwaits)) (heap : Heap) :
    StopTruthful heap targets (stop pool client targets heap) ↔
      pool.Serves heap targets ∧ client = none ∧ ∀ i, ¬Misreported (heap i) (about i targets) := by
  unfold stop
  match hrun : stopTargets pool targets heap with
  | (.error e, heap') => simp [StopTruthful, (stopTargets_error hrun).1]
  | (.ok results, heap') =>
    obtain ⟨hserves, jobs, hjobs, heach⟩ := stopTargets_ok hrun
    have hcomplete := (stopTargets_complete hrun).1
    cases client with
    | some e => simp [StopTruthful]
    | none =>
      -- the truth of the results, sensor by sensor
      have htruth : ∀ i, (∀ r, (i, r) ∈ results → r.status = .stopped → Stopped (heap' i)) ↔
          ¬Misreported (heap i) (about i targets) := by
        intro i
        have hresults : about i (each stopSensor jobs heap).1 = _ := about_each jobs heap i
        have hleft : (each stopSensor jobs heap).2 i = _ := each_heap jobs heap i
        rw [heach, hjobs] at hresults hleft
        rw [← stopped_truthful_iff, ← hresults, ← hleft]
        exact forall_congr' fun r => by rw [mem_about]
      constructor
      · rintro ⟨_, hresults, -, htrue⟩
        cases hresults
        exact ⟨hserves, rfl, fun i => (htruth i).mp fun r hr => htrue (i, r) hr⟩
      · rintro ⟨-, -, hfine⟩
        exact ⟨_, rfl, hcomplete, fun e he => (htruth e.1).mpr (hfine e.1) e.2 he⟩

end NexusN3.Sensors
