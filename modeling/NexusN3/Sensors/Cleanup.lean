import NexusN3.Sensors.Stopping

/-!
# Operator cleanup

`CleanupService.cleanup` makes one attempt at each target to stop its measurement and to take
down its link. Nothing a target does stops the service: every target gets a result.

* **`cleanupSensor`** — the attempt at one target, as a coroutine on its handle.
* **`cleanupTarget`** — the same under its deadline, with the result kept whatever happened.
* **`cleanup_truthful`** — one result for each target, and a clean one only for a sensor whose
  measurement is not pending.
-/

namespace NexusN3.Sensors

open Lib Lib.Jobs Lib.Program Coroutine

/-! ## One target -/

/-- The statuses of cleanup and recovery results. -/
inductive CleanupStatus where
  | cleaned
  | alreadyClean
  | unconfirmed
  | failed
  deriving DecidableEq, Repr

structure CleanupResult where
  address : Option String
  /-- the name and the location are missing from some error results -/
  name : Option String := none
  location : Option String := none
  status : CleanupStatus
  error : Option String := none
  linkConnected : Option Bool := none
  deriving DecidableEq, Repr

/-- What the cleanup of one target meets. A missing hook is `none`. -/
structure CleanupAwaits where
  /-- nothing is left of the time of the whole cleanup -/
  outOfTime : Bool := false
  /-- what `for_sensor` raises -/
  adapter : Option Raised := none
  /-- `client.is_connected` at first -/
  connected : Bool := false
  pollingStop : Awaited Unit := ⟨.returned (), {}⟩
  /-- `adapter.connect_for_cleanup` -/
  connectForCleanup : Option (Awaited Bool) := none
  setConnected : Awaited Unit := ⟨.returned (), {}⟩
  stopStream : Awaited Bool := ⟨.returned true, {}⟩
  /-- `stop_task.cancelled()` -/
  stopCancelled : Bool := false
  disconnect : Awaited Bool := ⟨.returned true, {}⟩
  setDisconnected : Awaited Unit := ⟨.returned (), {}⟩
  /-- what `adapter.release_transport_client` raises -/
  release : Option Raised := none
  closeHost : Option (Awaited Unit) := none
  /-- `sensor.abort_cleanup`, where it is called -/
  abort : Option (Awaited Unit) := none
  /-- `operation.check()` of the bounded attempt -/
  inTime : Bool := true
  /-- what `abort_cleanup` does after the attempt timed out -/
  lateAbort : Touch := {}
  /-- `client.is_connected` at last -/
  linkConnected : Bool := false

/-- `_abort`, inside the attempt. -/
def abort (w : CleanupAwaits) : Coroutine Unit :=
  tryExcept (optional w.abort) fun _ => pure ()

/-- The attempt to stop a pending measurement over a link. -/
def stopMeasurement (w : CleanupAwaits) (result : CleanupResult) : Coroutine CleanupResult :=
  tryExcept
    (do
      let stopped ← callStopStream w.stopStream
      if stopped then
        modify Sensor.clearPending
        pure result
      else raise (runtimeError "Plugin reported unsuccessful stop"))
    fun e => do
      (if w.stopCancelled then abort w else pure ())
      pure { result with
        status := .unconfirmed
        error := some s!"Measurement stop failed: {described e}" }

/-- The attempt to take down the link. -/
def disconnectSensor (w : CleanupAwaits) (result : CleanupResult) : Coroutine CleanupResult :=
  tryExcept
    (do
      let ok ← await w.disconnect
      if ok then
        setConnectionStatus .DISCONNECTED w.setDisconnected
        pure (if result.status = .unconfirmed then result else { result with status := .cleaned })
      else raise (runtimeError "Sensor disconnect was not confirmed"))
    fun e => pure { result with
      status := .failed
      error := some s!"Disconnect failed: {described e}" }

/-- The host of a sensor that is done with is closed. -/
def releaseHost (w : CleanupAwaits) (result : CleanupResult) : Coroutine CleanupResult := do
  let s ← get
  if !s.measurementCleanupPending && result.status ≠ .failed then
    call (if s.hasClient then w.release else none)
    optional w.closeHost
    modify fun s => { s with hasClient := false }
    pure result
  else pure result

/-- What is done once it is known whether there is a link. -/
def cleanupOver (w : CleanupAwaits) (result : CleanupResult) (pending connected : Bool) :
    Coroutine CleanupResult := do
  let result ← (if pending && connected then stopMeasurement w result else pure result)
  let result ← (if connected then disconnectSensor w result else pure result)
  releaseHost w result

/-- The `try` body of `_cleanup_sensor`; `s` is the handle before it. -/
def cleanupBody (w : CleanupAwaits) (result : CleanupResult) (s : Sensor) :
    Coroutine CleanupResult := do
  let connected := s.hasClient && w.connected
  await w.pollingStop
  if s.measurementCleanupPending && !connected then
    match if s.hasClient then w.connectForCleanup else none with
    | none =>
      pure { result with
        status := .unconfirmed
        error := some "Safe cleanup reconnect unavailable" }
    | some reconnect =>
      let ok ← await reconnect
      if ok then
        setConnectionStatus .CONNECTED w.setConnected
        cleanupOver w result s.measurementCleanupPending true
      else
        pure { result with
          status := .unconfirmed
          error := some "Sensor unreachable" }
  else cleanupOver w result s.measurementCleanupPending connected

/-- What an exception of the body leaves: the flag decides the status. -/
def failedStatus (s : Sensor) : CleanupStatus :=
  if s.measurementCleanupPending then .unconfirmed else .failed

/-- `_cleanup_sensor`. -/
def cleanupSensor (w : CleanupAwaits) : Coroutine CleanupResult := do
  let s ← get
  let result : CleanupResult :=
    { address := s.address
      name := some s.name
      location := some s.location
      status := .alreadyClean }
  if s.physicalStopQuarantined then
    pure { result with
      status := .unconfirmed
      error := some "Physical STOP timed out; sensor isolated pending reconciliation" }
  else
    match w.adapter with
    | some e => raise e
    | none =>
      modify fun s => { s with cleanupInProgress := true }
      tryFinally
        (tryExcept (cleanupBody w result s) fun e => do
          (if isTimeout e then abort w else pure ())
          let s ← get
          pure { result with
            status := failedStatus s
            error := some (described e) })
        fun s => { s with cleanupInProgress := false }

/-- `link_connected` of a result. -/
def linkOf (s : Sensor) (clientConnected : Bool) : Bool :=
  if s.hasClient then clientConnected else s.connectionStatus.connected

/-- One target of `CleanupService.cleanup`. -/
def cleanupTarget (w : CleanupAwaits) (s : Sensor) : CleanupResult × Sensor :=
  if w.outOfTime then
    ({ address := s.address
       name := some s.name
       status := failedStatus s
       error := some "Cleanup operation deadline reached; sensor cleanup unfinished" }, s)
  else
    match bounded (cleanupSensor w) w.inTime s with
    | (.ok result, s') => ({ result with linkConnected := some (linkOf s' w.linkConnected) }, s')
    | (.error e, s') =>
      let s'' := if isTimeout e then w.lateAbort.apply s' else s'
      ({ address := s.address
         status := failedStatus s''
         error := some (described e) }, s'')

/-- `CleanupService.cleanup`. -/
def cleanup (targets : List (SensorId × CleanupAwaits)) (heap : Heap) :
    List (SensorId × CleanupResult) × Heap :=
  each cleanupTarget targets heap

/-! ## What one target keeps -/

theorem keeps_abort (w : CleanupAwaits) : Keeps Follows (abort w) :=
  keeps_tryExcept (keeps_optional _) fun _ => Keeps.pure _

theorem keeps_stopMeasurement (w : CleanupAwaits) (result : CleanupResult) :
    Keeps Follows (stopMeasurement w result) := by
  refine keeps_tryExcept ?_ fun e => ?_
  · refine Keeps.bind (keeps_callStopStream _) fun _ => Keeps.ite ?_ (keeps_raise _)
    exact Keeps.bind (keeps_modify follows_clearPending) fun _ => Keeps.pure _
  · exact Keeps.bind (Keeps.ite (keeps_abort w) (Keeps.pure _)) fun _ => Keeps.pure _

theorem keeps_disconnectSensor (w : CleanupAwaits) (result : CleanupResult) :
    Keeps Follows (disconnectSensor w result) := by
  refine keeps_tryExcept ?_ fun e => Keeps.pure _
  refine Keeps.bind (keeps_await _) fun _ => Keeps.ite ?_ (keeps_raise _)
  exact Keeps.bind (keeps_setConnectionStatus _ _) fun _ => Keeps.pure _

theorem keeps_releaseHost (w : CleanupAwaits) (result : CleanupResult) :
    Keeps Follows (releaseHost w result) := by
  refine Keeps.bind keeps_get fun s => Keeps.ite ?_ (Keeps.pure _)
  refine Keeps.bind (keeps_call _) fun _ => Keeps.bind (keeps_optional _) fun _ => ?_
  exact Keeps.bind (keeps_modify fun _ => ⟨rfl, rfl, rfl, id⟩) fun _ => Keeps.pure _

theorem keeps_cleanupOver (w : CleanupAwaits) (result : CleanupResult) (pending connected : Bool) :
    Keeps Follows (cleanupOver w result pending connected) :=
  Keeps.bind (Keeps.ite (keeps_stopMeasurement w result) (Keeps.pure _)) fun _ =>
    Keeps.bind (Keeps.ite (keeps_disconnectSensor w _) (Keeps.pure _)) fun _ =>
      keeps_releaseHost w _

theorem keeps_cleanupBody (w : CleanupAwaits) (result : CleanupResult) (s : Sensor) :
    Keeps Follows (cleanupBody w result s) := by
  refine Keeps.bind (keeps_await _) fun _ => Keeps.ite ?_ (keeps_cleanupOver _ _ _ _)
  split
  · exact Keeps.pure _
  · refine Keeps.bind (keeps_await _) fun _ => Keeps.ite ?_ (Keeps.pure _)
    exact Keeps.bind (keeps_setConnectionStatus _ _) fun _ => keeps_cleanupOver _ _ _ _

theorem keeps_cleanupSensor (w : CleanupAwaits) : Keeps Follows (cleanupSensor w) := by
  refine Keeps.bind keeps_get fun s => Keeps.ite (Keeps.pure _) ?_
  split
  · exact keeps_raise _
  · refine Keeps.bind (keeps_modify fun _ => ⟨rfl, rfl, rfl, id⟩) fun _ => ?_
    refine keeps_tryFinally (keeps_tryExcept (keeps_cleanupBody w _ s) fun e => ?_)
      fun _ => ⟨rfl, rfl, rfl, id⟩
    exact Keeps.bind (Keeps.ite (keeps_abort w) (Keeps.pure _)) fun _ =>
      Keeps.bind keeps_get fun _ => Keeps.pure _

theorem follows_cleanupTarget (w : CleanupAwaits) (s : Sensor) :
    Follows s (cleanupTarget w s).2 := by
  have hkept := follows_bounded (keeps_cleanupSensor w) w.inTime s
  unfold cleanupTarget
  split
  · exact refl_of Follows s
  split
  · rename_i result s' hrun
    rwa [hrun] at hkept
  · rename_i e s' hrun
    rw [hrun] at hkept
    split
    · exact trans_of Follows hkept (Follows.of_apply _ s')
    · exact hkept

/-! ## Truth of one result -/

namespace CleanupResult

/-- The result says that nothing is left to clean. -/
def Clean (r : CleanupResult) : Prop := r.status = .cleaned ∨ r.status = .alreadyClean

/-- The result is on the sensor at `address`, and clean only if its measurement is stopped. -/
def Truthful (address : Option String) (r : CleanupResult) (s : Sensor) : Prop :=
  r.address = address ∧ (r.Clean → Stopped s)

/-- As long as only the STOP can have gone wrong: a result that is not `unconfirmed` is on a
stopped measurement. -/
def Confirmed (address : Option String) (r : CleanupResult) (s : Sensor) : Prop :=
  r.address = address ∧ (r.status ≠ .unconfirmed → Stopped s)

variable {address : Option String} {r : CleanupResult} {s s' : Sensor}

theorem Truthful.of_unclean (haddress : r.address = address)
    (h : r.status = .unconfirmed ∨ r.status = .failed) : r.Truthful address s := by
  refine ⟨haddress, fun hclean => ?_⟩
  rcases h with h | h <;> rcases hclean with hc | hc <;> rw [h] at hc <;> cases hc

theorem Confirmed.truthful (h : r.Confirmed address s) : r.Truthful address s := by
  refine ⟨h.1, fun hclean => h.2 ?_⟩
  rcases hclean with hc | hc <;> rw [hc] <;> exact nofun

theorem Truthful.of_follows (hs : Follows s s') (h : r.Truthful address s) :
    r.Truthful address s' :=
  ⟨h.1, fun hclean => (h.2 hclean).of_follows hs⟩

theorem Confirmed.of_follows (hs : Follows s s') (h : r.Confirmed address s) :
    r.Confirmed address s' :=
  ⟨h.1, fun hconfirmed => (h.2 hconfirmed).of_follows hs⟩

end CleanupResult

open CleanupResult

theorem stopMeasurement_confirmed (w : CleanupAwaits) (result : CleanupResult)
    (P : Sensor → Prop) :
    Returns P (stopMeasurement w result) (Confirmed result.address) := by
  refine returns_tryExcept ?_ fun e => ?_
  · refine Returns.trivial.bind fun _ => Triple.ite (fun _ => ?_) fun _ => returns_raise _
    refine Triple.bind (Q := fun _ => Stopped) (Triple.modify _ fun _ _ => rfl) fun _ => ?_
    exact Triple.pure _ fun _ hs => ⟨rfl, fun _ => hs⟩
  · exact Returns.trivial.bind fun _ => Triple.pure _ fun _ _ => ⟨rfl, fun h => absurd rfl h⟩

theorem disconnectSensor_truthful (w : CleanupAwaits) (result : CleanupResult)
    (address : Option String) :
    Returns (Confirmed address result) (disconnectSensor w result) (Truthful address) := by
  refine Triple.assume fun haddress => returns_tryExcept ?_ fun e => ?_
  · have hstable : ∀ s s', Follows s s' → (result.status ≠ .unconfirmed → Stopped s) →
        (result.status ≠ .unconfirmed → Stopped s') := fun s s' hs h hne => (h hne).of_follows hs
    refine ((keeps_await w.disconnect).returns hstable).bind fun ok =>
      Triple.ite (fun _ => ?_) fun _ => returns_raise _
    refine ((keeps_setConnectionStatus _ w.setDisconnected).returns hstable).bind fun _ =>
      Triple.pure _ fun s hs => ?_
    by_cases hstatus : result.status = .unconfirmed
    · rw [if_pos hstatus]
      exact Truthful.of_unclean haddress (.inl hstatus)
    · rw [if_neg hstatus]
      exact ⟨haddress, fun _ => hs hstatus⟩
  · exact Triple.pure _ fun _ _ => Truthful.of_unclean haddress (.inr rfl)

theorem releaseHost_truthful (w : CleanupAwaits) (result : CleanupResult)
    (address : Option String) :
    Returns (Truthful address result) (releaseHost w result) (Truthful address) := by
  have hstable : ∀ s s', Follows s s' → result.Truthful address s → result.Truthful address s' :=
    fun _ _ => Truthful.of_follows
  refine Triple.bind (Triple.get.post fun _ _ h => h.1) fun s => Triple.ite (fun _ => ?_) fun _ =>
    Triple.pure _ fun _ h => h
  refine ((keeps_call _).returns hstable).bind fun _ =>
    ((keeps_optional w.closeHost).returns hstable).bind fun _ => ?_
  refine ((keeps_modify fun _ => ⟨rfl, rfl, rfl, id⟩).returns hstable).bind fun _ => ?_
  exact Triple.pure _ fun _ h => h

/-- `pending` and `connected` as `cleanupBody` has them: a measurement that is not pending is
stopped, and a pending one is tried only over a link. -/
theorem cleanupOver_truthful (w : CleanupAwaits) (result : CleanupResult) (pending connected : Bool)
    (hlink : pending = true → connected = true) :
    Returns (fun s => pending = false → Stopped s) (cleanupOver w result pending connected)
      (Truthful result.address) := by
  refine Triple.bind (Q := Confirmed result.address) ?_ fun r => ?_
  · refine Triple.ite (fun _ => stopMeasurement_confirmed w result _) fun hskip =>
      Triple.pure _ fun s hs => ⟨rfl, fun _ => hs ?_⟩
    cases pending with
    | false => rfl
    | true => exact absurd (by rw [hlink rfl]; rfl) hskip
  · refine Triple.bind (Q := Truthful result.address) ?_ fun r => releaseHost_truthful w r _
    exact Triple.ite (fun _ => disconnectSensor_truthful w r _) fun _ =>
      Triple.pure _ fun _ => Confirmed.truthful

theorem cleanupBody_truthful (w : CleanupAwaits) (result : CleanupResult) (s : Sensor) :
    Returns (Follows s) (cleanupBody w result s) (Truthful result.address) := by
  have hstable : ∀ s' s'', Follows s' s'' → Follows s s' → Follows s s'' :=
    fun s' s'' h hs => trans_of Follows hs h
  have hstart : ∀ s', Follows s s' → s.measurementCleanupPending = false → Stopped s' :=
    fun s' hs hpending => Stopped.of_follows hs hpending
  refine ((keeps_await w.pollingStop).returns hstable).bind fun _ => Triple.ite (fun _ => ?_) ?_
  · split
    · exact Triple.pure _ fun _ _ => Truthful.of_unclean rfl (.inl rfl)
    · rename_i reconnect _
      refine ((keeps_await reconnect).returns hstable).bind fun ok => Triple.ite (fun _ => ?_)
        fun _ => Triple.pure _ fun _ _ => Truthful.of_unclean rfl (.inl rfl)
      refine ((keeps_setConnectionStatus _ w.setConnected).returns hstable).bind fun _ => ?_
      exact (cleanupOver_truthful w result _ true fun _ => rfl).pre hstart
  · intro hskip
    refine (cleanupOver_truthful w result _ _ fun hpending => ?_).pre hstart
    simpa [hpending] using hskip

theorem failedStatus_unclean (s : Sensor) :
    failedStatus s = .unconfirmed ∨ failedStatus s = .failed := by
  unfold failedStatus
  split
  · exact .inl rfl
  · exact .inr rfl

theorem cleanupSensor_truthful (w : CleanupAwaits) (address : Option String) :
    Returns (fun s => s.address = address) (cleanupSensor w) (Truthful address) := by
  refine Triple.bind Triple.get fun s => ?_
  have hknown : ∀ s', s'.address = address ∧ s = s' → s.address = address ∧ Follows s s' :=
    fun s' h => ⟨h.2 ▸ h.1, h.2 ▸ refl_of Follows s⟩
  refine Triple.pre (Triple.assume fun haddress => ?_) hknown
  subst haddress
  refine Triple.ite (fun _ => Triple.pure _ fun _ _ => Truthful.of_unclean rfl (.inl rfl))
    fun _ => ?_
  split
  · exact returns_raise _
  · have hstable : ∀ s' s'', Follows s' s'' → Follows s s' → Follows s s'' :=
      fun _ _ h hs => trans_of Follows hs h
    refine ((keeps_modify fun _ => ⟨rfl, rfl, rfl, id⟩).returns hstable).bind fun _ => ?_
    refine returns_tryFinally (returns_tryExcept (cleanupBody_truthful w _ s) fun e => ?_)
      fun r s' h => h.of_follows ⟨rfl, rfl, rfl, id⟩
    exact Returns.trivial.bind fun _ => Triple.bind Triple.get fun s' => Triple.pure _ fun _ _ =>
      Truthful.of_unclean rfl (failedStatus_unclean s')

theorem cleanupTarget_truthful (w : CleanupAwaits) (s : Sensor) :
    (cleanupTarget w s).1.Truthful s.address (cleanupTarget w s).2 := by
  have hend := cleanupSensor_truthful w s.address s rfl
  unfold cleanupTarget
  split
  · exact Truthful.of_unclean rfl (failedStatus_unclean s)
  split
  · rename_i result s' hrun
    rw [exec_of_bounded hrun] at hend
    exact hend
  · exact Truthful.of_unclean rfl (failedStatus_unclean _)

/-! ## The whole cleanup -/

/-- The call returned one result per target, and each clean one among them is true. -/
def CleanupTruthful (heap : Heap) (targets : List (SensorId × CleanupAwaits))
    (outcome : List (SensorId × CleanupResult) × Heap) : Prop :=
  Complete CleanupResult.address heap targets outcome.1 ∧
    ∀ e ∈ outcome.1, e.2.Clean → Stopped (outcome.2 e.1)

theorem cleanup_truthful (targets : List (SensorId × CleanupAwaits)) (heap : Heap) :
    CleanupTruthful heap targets (cleanup targets heap) := by
  refine ⟨Complete.each (fun w s => (cleanupTarget_truthful w s).1) follows_cleanupTarget
    fun _ => rfl, fun ⟨i, r⟩ hr hclean => ?_⟩
  rw [cleanup, ← mem_about, about_each] at hr
  rw [cleanup, each_heap]
  have hreports := all_reports cleanupTarget
    (G := fun r s => r.Clean → Stopped s) (fun w s => (cleanupTarget_truthful w s).2)
    (fun r w s hr hclean => (hr hclean).of_follows (follows_cleanupTarget w s))
  exact hreports (about i targets) (heap i) r hr hclean

end NexusN3.Sensors
