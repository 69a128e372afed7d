import NexusN3.Lib.Unwinding
import NexusN3.Plugins.HostRequest

/-!
# The recovery barrier

`prepare_recovery` makes sure that the workers of the proxy are done and that the host has no
lifecycle handler running, and then lifts the quarantine. A worker is done when its request has
timed out, and a request that no thread of the host has taken up holds no lock.

* **`Proxy.step`** — the proxy, its workers and callers, the host, and the recoveries.
* **`Quiesced`** — when a recovery returns, the requests sent before it was called are quiet.
* **`Action.lifts`** — the steps that may clear `physical_stop_quarantined`.
* **`Kept`** — what the other steps keep.
* **`silent_step_iff`** — a step keeps retired requests quiet exactly when it is quiesced.
-/

namespace NexusN3.Plugins.Runtime

open Lib

/-- The thread of `_lifecycle_worker` or `_stop_worker`. -/
inductive Worker where
  /-- it has not run -/
  | invoked
  /-- it waits for the reply to `bind_sensor` -/
  | binding (request giveUp : Nat)
  | bound
  /-- it waits for the reply to the method itself -/
  | calling (request giveUp : Nat)
  /-- its transport has been closed -/
  | raising
  | done (ok : Bool)
  deriving DecidableEq

def Worker.isDone : Worker → Bool
  | .done _ => true
  | _ => false

/-- The transport is closed. A reply to the method itself may have come before. -/
def Worker.close : Worker → Worker
  | .binding _ _ | .bound => .raising
  | worker => worker

/-- One `_call_lifecycle` or `stop_stream`. -/
structure Call where
  method : Method
  operation : Option Nat
  /-- the call has made the operation itself -/
  owned : Bool
  worker : Worker
  /-- the coroutine of `_call_lifecycle` has not been left -/
  waiting : Bool

/-- Where a `prepare_recovery` is. -/
inductive Barrier where
  | called
  /-- `runtime_barrier` is sent -/
  | sent
  /-- its reply is out -/
  | sampled (idle measurementStopConfirmed : Bool)
  | returned
  | raised
  /-- the reconcile that it began is complete -/
  | reconciled
  deriving DecidableEq

structure Recovery where
  operation : Option Nat
  /-- how many requests had been sent when it was called -/
  sentBefore : Nat
  barrier : Barrier

structure Proxy extends Core where
  calls : List Call
  /-- `_lifecycle_worker` and `_stop_worker`, by their calls -/
  lifecycleWorker : Option Nat
  stopWorker : Option Nat
  /-- there is a `_plugin_client` -/
  client : Bool
  /-- every request that was sent to a host -/
  requests : List Request
  /-- the request that holds the host's `_lifecycle_lock` -/
  lock : Option Nat
  recoveries : List Recovery
  measurementCleanupPending : Bool
  /-- an external STOP has been confirmed and the host retired -/
  retiring : Bool

/-- The steps of a worker. -/
inductive WorkerTurn where
  | begin
  | receive
  | send
  | timeOut
  | raise
  deriving DecidableEq

/-- How the coroutine of `_call_lifecycle` is left. -/
inductive Leaving where
  | workerDone
  | deadline
  | cancelled
  deriving DecidableEq

inductive Action where
  | tick (milliseconds : Nat)
  | newOperation (deadline : Nat)
  | cancelOperation (i : Nat)
  /-- another component sets `physical_stop_quarantined` -/
  | quarantine
  /-- another component writes `measurement_cleanup_pending` -/
  | setMeasurementCleanupPending (pending : Bool)
  | callLifecycle (method : Method) (operation : Option Nat)
  | stopStream (operation : Option Nat)
  | worker (i : Nat) (turn : WorkerTurn)
  | leave (i : Nat) (leaving : Leaving)
  /-- a lifecycle request that no worker sends -/
  | send (method : Method) (operation : Option Nat)
  | request (r : Nat) (turn : Turn)
  | abortCleanup (operation : Option Nat)
  | prepareRecovery (operation : Option Nat)
  | barrierSends (k : Nat)
  | barrierSamples (k : Nat) (measurementStopConfirmed : Bool)
  | recoveryReturns (k : Nat)
  | recoveryRaises (k : Nat)
  | reconcileCompletes (k : Nat)
  | closeHost
  | releaseAfterVerifiedStop
  | externalStopConfirmed
  deriving DecidableEq

/-- The methods that `_call_lifecycle` is called with. -/
def Method.lifecycle : Method → Bool
  | .setup | .startStream | .identify => true
  | _ => false

namespace Proxy

/-- The call behind `_lifecycle_worker` or `_stop_worker` has a worker that is still executing. -/
def executing (s : Proxy) (worker : Option Nat) : Bool :=
  (worker.bind fun i => s.calls[i]?).elim false fun call => !call.worker.isDone

/-- The operation has been made. -/
def knows (s : Proxy) (operation : Option Nat) : Bool :=
  operation.all fun i => decide (i < s.operations.length)

def cancel (s : Proxy) : Option Nat → Proxy
  | none => s
  | some i =>
    { s with operations := s.operations.modify i fun o => { o with cancelled := true } }

/-- `_call_lifecycle`, up to its wait. -/
def callLifecycle (s : Proxy) (method : Method) (operation : Option Nat) : Option Proxy :=
  if s.executing s.lifecycleWorker then none
  else
    let operations :=
      match operation with
      | none => s.operations ++ [⟨s.now + 30000, false⟩]
      | some _ => s.operations
    some { s with
      operations := operations
      calls := s.calls ++
        [⟨method, some (operation.getD s.operations.length), operation.isNone, .invoked, true⟩]
      lifecycleWorker := some s.calls.length }

/-- `stop_stream`, up to its wait. -/
def stopStream (s : Proxy) (operation : Option Nat) : Option Proxy :=
  if s.physicalStopQuarantined || s.executing s.stopWorker then none
  else
    some { s with
      calls := s.calls ++ [⟨.stopStream, operation, false, .invoked, false⟩]
      stopWorker := some s.calls.length }

def setWorker (s : Proxy) (i : Nat) (worker : Worker) : Proxy :=
  { s with calls := s.calls.modify i fun call => { call with worker := worker } }

/-- `JsonRpcConnection.request`, up to its wait. -/
def sendRequest (s : Proxy) (method : Method) (operation : Option Nat) : Proxy :=
  { s with requests := s.requests ++ [.new method operation] }

/-- The reply to a request, where it is out. -/
def reply? (s : Proxy) (r : Nat) : Option Bool :=
  (s.requests[r]?).bind fun req =>
    match req.phase with
    | .finished ok => some ok
    | _ => none

/-- One step of the thread of a worker. -/
def workerTurn (s : Proxy) (i : Nat) (call : Call) : WorkerTurn → Option Proxy
  | .begin =>
    match call.worker with
    | .invoked =>
      -- `operation.check` in `invoke`, `_ensure_client` and `_write_message`
      if s.check call.operation then
        let s' := { s with client := true }.sendRequest .bindSensor call.operation
        some (s'.setWorker i
          (.binding s.requests.length (s.now + s.patience call.operation)))
      else some (s.setWorker i (.done false))
    | _ => none
  | .receive =>
    match call.worker with
    | .binding r _ => (s.reply? r).map fun ok => s.setWorker i (if ok then .bound else .done false)
    | .calling r _ => (s.reply? r).map fun ok => s.setWorker i (.done ok)
    | _ => none
  | .send =>
    match call.worker with
    | .bound =>
      if s.check call.operation then
        some ((s.sendRequest call.method call.operation).setWorker i
          (.calling s.requests.length (s.now + s.patience call.operation)))
      else some (s.setWorker i (.done false))
    | _ => none
  | .timeOut =>
    match call.worker with
    | .binding _ giveUp => if giveUp ≤ s.now then some (s.setWorker i (.done false)) else none
    | .calling _ giveUp => if giveUp ≤ s.now then some (s.setWorker i (.done false)) else none
    | _ => none
  | .raise =>
    match call.worker with
    | .raising => some (s.setWorker i (.done false))
    -- the host does not start
    | .invoked => if s.client then none else some (s.setWorker i (.done false))
    | _ => none

/-- The end of `_call_lifecycle`. -/
def left (s : Proxy) (i : Nat) (call : Call) (failed : Bool) : Proxy :=
  let s' := if call.owned then s.cancel call.operation else s
  { s' with
    calls := s.calls.modify i fun call => { call with waiting := false }
    physicalStopQuarantined :=
      s.physicalStopQuarantined || (failed && decide (call.method ≠ .identify)) }

def leave (s : Proxy) (i : Nat) (call : Call) (leaving : Leaving) : Option Proxy :=
  if call.waiting then
    match leaving with
    | .workerDone =>
      match call.worker with
      | .done ok => some (s.left i call (!(ok && s.check call.operation)))
      | _ => none
    | .deadline =>
      -- `asyncio.wait` has timed out
      if call.worker.isDone || s.aheadOf call.operation then none else some (s.left i call true)
    | .cancelled => some (s.left i call true)
  else none

/-- `_lifecycle_lock` is held from the handler's begin to its end. -/
def lockAfter (s : Proxy) (r : Nat) : Turn → Option Nat
  | .acquire => if s.lock.isNone then some r else s.lock
  | .finish _ => none
  | _ => s.lock

def afterTurn (s : Proxy) (r : Nat) (turn : Turn) (req : Request) : Proxy :=
  { s with requests := s.requests.set r req, lock := s.lockAfter r turn }

/-- A step of a thread that works on a request. -/
def requestTurn (s : Proxy) (r : Nat) (req : Request) (turn : Turn) : Option Proxy :=
  (req.turn s.toCore s.lock.isNone turn).map (s.afterTurn r turn)

/-- The adapter futures are cancelled. -/
def cancelFutures (s : Proxy) : Proxy :=
  { s with requests := s.requests.map Request.cancelWrites }

/-- The host ends, and its transport is closed. -/
def endHost (s : Proxy) : Proxy :=
  { s with
    client := false
    lock := none
    requests := s.requests.map Request.kill
    calls := s.calls.map fun call => { call with worker := call.worker.close }
    recoveries := s.recoveries.map fun recovery =>
      match recovery.barrier with
      | .called | .sent => { recovery with barrier := .raised }
      | _ => recovery }

/-- The end of `prepare_recovery`. -/
def recovered (s : Proxy) (sentBefore : Nat) : Proxy :=
  { s with
    stopWorker := none
    cleanupAborted := false
    physicalStopQuarantined := false
    requests := (s.requests.take sentBefore).map Request.retire ++ s.requests.drop sentBefore }

/-- `prepare_recovery`, up to its barrier. It returns at once where there is no host. -/
def prepareRecovery (s : Proxy) (operation : Option Nat) : Option Proxy :=
  if s.executing s.stopWorker || s.executing s.lifecycleWorker then none
  else
    let recovery : Recovery := ⟨operation, s.requests.length, .called⟩
    if s.client then some { s with recoveries := s.recoveries ++ [recovery] }
    else if s.measurementCleanupPending then none
    else
      some { s.recovered s.requests.length with
        recoveries := s.recoveries ++ [{ recovery with barrier := .returned }] }

def setBarrier (s : Proxy) (k : Nat) (barrier : Barrier) : Proxy :=
  { s with
    recoveries := s.recoveries.modify k fun recovery => { recovery with barrier := barrier } }

/-- The steps of a `prepare_recovery` and of the reconcile behind it. -/
def barrierSends (s : Proxy) (k : Nat) (recovery : Recovery) : Option Proxy :=
  match recovery.barrier with
  | .called =>
    if s.check recovery.operation then some (s.setBarrier k .sent)
    else some (s.setBarrier k .raised)
  | _ => none

/-- `runtime_barrier`, with the `_last_stop_confirmed` of the host. -/
def barrierSamples (s : Proxy) (k : Nat) (measurementStopConfirmed : Bool) (recovery : Recovery) :
    Option Proxy :=
  match recovery.barrier with
  | .sent =>
    if s.aheadOf recovery.operation then
      some (s.setBarrier k (.sampled s.lock.isNone measurementStopConfirmed))
    else some (s.setBarrier k .raised)
  | _ => none

def recoveryReturns (s : Proxy) (k : Nat) (recovery : Recovery) : Option Proxy :=
  match recovery.barrier with
  | .sampled true measurementStopConfirmed =>
    if s.check recovery.operation then
      some { (s.recovered recovery.sentBefore).setBarrier k .returned with
        measurementCleanupPending := s.measurementCleanupPending && !measurementStopConfirmed }
    else none
  | _ => none

/-- It raises, times out or is cancelled. -/
def recoveryRaises (s : Proxy) (k : Nat) (recovery : Recovery) : Option Proxy :=
  match recovery.barrier with
  | .called | .sent | .sampled _ _ => some (s.setBarrier k .raised)
  | _ => none

def reconcileCompletes (s : Proxy) (k : Nat) (recovery : Recovery) : Option Proxy :=
  match recovery.barrier with
  | .returned =>
    some { s.setBarrier k .reconciled with physicalStopQuarantined := false }
  | _ => none

def step : Machine Proxy Action
  | s, .tick milliseconds => some { s with now := s.now + milliseconds }
  | s, .newOperation deadline => some { s with operations := s.operations ++ [⟨deadline, false⟩] }
  | s, .cancelOperation i => some (s.cancel (some i))
  | s, .quarantine => some { s with physicalStopQuarantined := true }
  | s, .setMeasurementCleanupPending pending => some { s with measurementCleanupPending := pending }
  | s, .callLifecycle method operation =>
    if method.lifecycle && s.knows operation then s.callLifecycle method operation else none
  | s, .stopStream operation => if s.knows operation then s.stopStream operation else none
  | s, .worker i turn => (s.calls[i]?).bind fun call => s.workerTurn i call turn
  | s, .leave i leaving => (s.calls[i]?).bind fun call => s.leave i call leaving
  | s, .send method operation =>
    if method.physical || method.lifecycle || !s.client || !s.check operation then none
    else some (s.sendRequest method operation)
  | s, .request r turn => (s.requests[r]?).bind fun req => s.requestTurn r req turn
  | s, .abortCleanup operation =>
    some { (s.cancel operation).cancelFutures with
      cleanupAborted := true, physicalStopQuarantined := true }
  | s, .prepareRecovery operation =>
    if s.knows operation then s.prepareRecovery operation else none
  | s, .barrierSends k => (s.recoveries[k]?).bind (s.barrierSends k)
  | s, .barrierSamples k confirmed => (s.recoveries[k]?).bind (s.barrierSamples k confirmed)
  | s, .recoveryReturns k => (s.recoveries[k]?).bind (s.recoveryReturns k)
  | s, .recoveryRaises k => (s.recoveries[k]?).bind (s.recoveryRaises k)
  | s, .reconcileCompletes k => (s.recoveries[k]?).bind (s.reconcileCompletes k)
  | s, .closeHost => if s.client then some s.endHost else none
  | s, .releaseAfterVerifiedStop =>
    some { s.cancelFutures.endHost with cleanupAborted := true, retiring := true }
  | s, .externalStopConfirmed =>
    if s.retiring then
      some { s with
        retiring := false, measurementCleanupPending := false, physicalStopQuarantined := false }
    else none

/-- No host, and nothing sent. -/
def init : Proxy where
  now := 0
  operations := []
  physicalStopQuarantined := false
  cleanupAborted := false
  calls := []
  lifecycleWorker := none
  stopWorker := none
  client := false
  requests := []
  lock := none
  recoveries := []
  measurementCleanupPending := false
  retiring := false

end Proxy

/-! ## What is promised -/

/-- No request that was sent before a recovery that has returned was called writes after it. -/
def Proxy.Silent (s : Proxy) : Prop := ∀ req ∈ s.requests, req.Silent s.toCore

/-- The requests sent before the recovery was called are quiet. -/
def Proxy.QuietBefore (s : Proxy) (sentBefore : Nat) : Prop :=
  ∀ req ∈ s.requests.take sentBefore, req.method.physical = true → req.Quiet s.toCore

instance (s : Proxy) (sentBefore : Nat) : Decidable (s.QuietBefore sentBefore) :=
  inferInstanceAs (Decidable (∀ req ∈ s.requests.take sentBefore, _))

/-- How many requests a step retires. -/
def Proxy.retires (s : Proxy) : Action → Option Nat
  | .prepareRecovery _ => if s.client then none else some s.requests.length
  | .recoveryReturns k => (s.recoveries[k]?).map fun recovery => recovery.sentBefore
  | _ => none

/-- The condition on one step: a recovery that returns is quiesced. -/
def Quiesced (s : Proxy) (a : Action) : Prop :=
  (Proxy.step s a).isSome = true → ∀ sentBefore ∈ s.retires a, s.QuietBefore sentBefore

instance (s : Proxy) (a : Action) : Decidable (Quiesced s a) :=
  inferInstanceAs (Decidable (_ → ∀ sentBefore ∈ s.retires a, s.QuietBefore sentBefore))

/-- A `prepare_recovery` that returns, a reconcile that completes, and an operator's confirmation.
-/
def Action.lifts : Action → Bool
  | .prepareRecovery _ | .recoveryReturns _ | .reconcileCompletes _ | .externalStopConfirmed => true
  | _ => false

/-! ## One step -/

namespace Proxy

/-- Whoever holds the lock executes, and a request waits only for a write that it has made. -/
structure Sane (s : Proxy) : Prop where
  held : ∀ r, s.lock = some r → ∃ req, s.requests[r]? = some req ∧ req.phase.holds = true
  wellformed : ∀ req ∈ s.requests, req.Wellformed

/-- What every step keeps that is not to lift the quarantine. -/
structure Kept (s s' : Proxy) : Prop where
  silent : s.Silent → s'.Silent
  sane : s.Sane → s'.Sane
  quarantined : s.physicalStopQuarantined = true → s'.physicalStopQuarantined = true

variable {s s' s'' : Proxy}

theorem Kept.trans (h : s.Kept s') (h' : s'.Kept s'') : s.Kept s'' :=
  ⟨fun hs => h'.silent (h.silent hs), fun hs => h'.sane (h.sane hs),
    fun hq => h'.quarantined (h.quarantined hq)⟩

/-- A step that has nothing to do with the requests. -/
theorem kept_of_requests (hlater : s.toCore.Later s'.toCore) (hrequests : s'.requests = s.requests)
    (hlock : s'.lock = s.lock)
    (hquarantined : s.physicalStopQuarantined = true → s'.physicalStopQuarantined = true) :
    s.Kept s' := by
  refine ⟨?_, ?_, hquarantined⟩
  · intro hs req hreq
    rw [hrequests] at hreq
    exact (hs req hreq).later hlater
  · intro hs
    refine ⟨?_, ?_⟩
    · rw [hrequests, hlock]
      exact hs.held
    · rw [hrequests]
      exact hs.wellformed

theorem kept_setWorker (s : Proxy) (i : Nat) (worker : Worker) : s.Kept (s.setWorker i worker) :=
  kept_of_requests (Core.later_of_eq (Nat.le_refl _) rfl) rfl rfl id

theorem kept_setBarrier (s : Proxy) (k : Nat) (barrier : Barrier) :
    s.Kept (s.setBarrier k barrier) :=
  kept_of_requests (Core.later_of_eq (Nat.le_refl _) rfl) rfl rfl id

theorem kept_sendRequest (s : Proxy) (method : Method) (operation : Option Nat) :
    s.Kept (s.sendRequest method operation) := by
  refine ⟨?_, ?_, id⟩
  · intro hs req hreq
    rcases List.mem_append.mp hreq with hold | hnew
    · exact hs req hold
    · cases List.mem_singleton.mp hnew
      exact Request.silent_new _ method operation
  · intro hs
    refine ⟨?_, ?_⟩
    · intro r hr
      obtain ⟨req, hreq, hholds⟩ := hs.held r hr
      obtain ⟨hlt, -⟩ := List.getElem?_eq_some_iff.mp hreq
      exact ⟨req, (List.getElem?_append_left hlt).trans hreq, hholds⟩
    · intro req hreq
      rcases List.mem_append.mp hreq with hold | hnew
      · exact hs.wellformed req hold
      · cases List.mem_singleton.mp hnew
        exact nofun

theorem later_cancel (s : Proxy) (operation : Option Nat) :
    s.toCore.Later (s.cancel operation).toCore := by
  cases operation with
  | none => exact Core.later_of_eq (Nat.le_refl _) rfl
  | some i =>
    refine ⟨Nat.le_refl _, ?_⟩
    intro j o ho
    by_cases hj : i = j
    · subst hj
      refine ⟨{ o with cancelled := true }, ?_, rfl, fun _ => rfl⟩
      show (s.operations.modify i _)[i]? = _
      rw [List.getElem?_modify_eq, ho]
      rfl
    · refine ⟨o, ?_, rfl, id⟩
      show (s.operations.modify i _)[j]? = _
      rw [List.getElem?_modify_ne _ _ hj, ho]

theorem cancel_requests (s : Proxy) (operation : Option Nat) :
    (s.cancel operation).requests = s.requests := by
  cases operation with
  | none => rfl
  | some i => rfl

theorem cancel_lock (s : Proxy) (operation : Option Nat) : (s.cancel operation).lock = s.lock := by
  cases operation with
  | none => rfl
  | some i => rfl

theorem cancel_quarantined (s : Proxy) (operation : Option Nat) :
    (s.cancel operation).physicalStopQuarantined = s.physicalStopQuarantined := by
  cases operation with
  | none => rfl
  | some i => rfl

theorem kept_cancel (s : Proxy) (operation : Option Nat) : s.Kept (s.cancel operation) :=
  kept_of_requests (s.later_cancel operation) (s.cancel_requests operation)
    (s.cancel_lock operation) fun hq => (s.cancel_quarantined operation).trans hq

theorem later_append (s : Proxy) (operation : Operation) :
    s.toCore.Later { s.toCore with operations := s.operations ++ [operation] } := by
  refine ⟨Nat.le_refl _, ?_⟩
  intro i o ho
  obtain ⟨hlt, -⟩ := List.getElem?_eq_some_iff.mp ho
  exact ⟨o, by rw [List.getElem?_append_left hlt, ho], rfl, id⟩

theorem kept_left (s : Proxy) (i : Nat) (call : Call) (failed : Bool) :
    s.Kept (s.left i call failed) := by
  unfold left
  split
  · have hcancel := s.kept_cancel call.operation
    refine hcancel.trans (kept_of_requests (Core.later_of_eq (Nat.le_refl _) rfl) rfl rfl ?_)
    intro hq
    rw [cancel_quarantined] at hq
    simp only [hq, Bool.true_or]
  · refine kept_of_requests (Core.later_of_eq (Nat.le_refl _) rfl) rfl rfl ?_
    intro hq
    simp only [hq, Bool.true_or]

theorem kept_workerTurn {i : Nat} {call : Call} {turn : WorkerTurn}
    (h : s.workerTurn i call turn = some s') : s.Kept s' := by
  cases turn with
  | begin =>
    simp only [workerTurn] at h
    split at h
    · split at h
      · cases h
        have hclient : s.Kept { s with client := true } :=
          kept_of_requests (Core.later_of_eq (Nat.le_refl _) rfl) rfl rfl id
        exact (hclient.trans (kept_sendRequest _ _ _)).trans (kept_setWorker _ _ _)
      · cases h
        exact kept_setWorker _ _ _
    · cases h
  | receive =>
    simp only [workerTurn] at h
    split at h
    · obtain ⟨ok, -, rfl⟩ := Option.map_eq_some_iff.mp h
      exact kept_setWorker _ _ _
    · obtain ⟨ok, -, rfl⟩ := Option.map_eq_some_iff.mp h
      exact kept_setWorker _ _ _
    · cases h
  | send =>
    simp only [workerTurn] at h
    split at h
    · split at h
      · cases h
        exact (kept_sendRequest _ _ _).trans (kept_setWorker _ _ _)
      · cases h
        exact kept_setWorker _ _ _
    · cases h
  | timeOut =>
    simp only [workerTurn] at h
    split at h
    · split at h
      · cases h
        exact kept_setWorker _ _ _
      · cases h
    · split at h
      · cases h
        exact kept_setWorker _ _ _
      · cases h
    · cases h
  | raise =>
    simp only [workerTurn] at h
    split at h
    · cases h
      exact kept_setWorker _ _ _
    · split at h
      · cases h
      · cases h
        exact kept_setWorker _ _ _
    · cases h

theorem kept_afterTurn {r : Nat} {req req' : Request} {turn : Turn}
    (hreq : s.requests[r]? = some req) (hturn : req.turn s.toCore s.lock.isNone turn = some req') :
    s.Kept (s.afterTurn r turn req') := by
  obtain ⟨hlt, -⟩ := List.getElem?_eq_some_iff.mp hreq
  have hself : (s.requests.set r req')[r]? = some req' := List.getElem?_set_self hlt
  refine ⟨?_, ?_, id⟩
  · intro hs other hother
    rcases List.mem_or_eq_of_mem_set hother with hold | rfl
    · exact hs other hold
    · exact (hs req (List.mem_of_getElem? hreq)).turn hturn
  · intro hs
    -- a holder that is not done keeps the lock
    have hheld (hfinish : ∀ ok, turn ≠ .finish ok) (h : Nat) (hlock : s.lock = some h) :
        ∃ other, (s.requests.set r req')[h]? = some other ∧ other.phase.holds = true := by
      obtain ⟨other, hother, hholds⟩ := hs.held h hlock
      by_cases hsame : r = h
      · subst hsame
        cases hreq.symm.trans hother
        exact ⟨req', hself, Request.holds_turn hholds hturn hfinish⟩
      · exact ⟨other, (List.getElem?_set_ne hsame).trans hother, hholds⟩
    refine ⟨?_, ?_⟩
    · intro h hlock
      cases turn with
      | finish ok => cases hlock
      | acquire =>
        cases hfree : s.lock with
        | none =>
          simp only [afterTurn, lockAfter, hfree, Option.isNone_none, if_true] at hlock hturn
          cases hlock
          exact ⟨req', hself, Request.holds_of_acquire hturn⟩
        | some h' =>
          simp only [afterTurn, lockAfter, hfree, Option.isNone_some, Bool.false_eq_true,
            if_false] at hlock
          exact hheld nofun h (hfree.trans hlock)
      | _ => exact hheld nofun h hlock
    · intro other hother
      rcases List.mem_or_eq_of_mem_set hother with hold | rfl
      · exact hs.wellformed other hold
      · exact (hs.wellformed req (List.mem_of_getElem? hreq)).move (Request.move_of_turn hturn)

theorem kept_cancelFutures (s : Proxy) : s.Kept s.cancelFutures := by
  refine ⟨?_, ?_, id⟩
  · intro hs req hreq
    obtain ⟨old, hold, rfl⟩ := List.mem_map.mp hreq
    exact (hs old hold).cancelWrites
  · intro hs
    refine ⟨?_, ?_⟩
    · intro r hr
      obtain ⟨req, hreq, hholds⟩ := hs.held r hr
      exact ⟨req.cancelWrites, by simp [cancelFutures, hreq], hholds⟩
    · intro req hreq
      obtain ⟨old, hold, rfl⟩ := List.mem_map.mp hreq
      intro giveUp hphase hnil
      exact hs.wellformed old hold giveUp hphase (List.map_eq_nil_iff.mp hnil)

theorem kept_endHost (s : Proxy) : s.Kept s.endHost := by
  refine ⟨?_, ?_, id⟩
  · intro hs req hreq
    obtain ⟨old, hold, rfl⟩ := List.mem_map.mp hreq
    exact (hs old hold).kill
  · intro hs
    refine ⟨nofun, ?_⟩
    intro req hreq giveUp hphase
    obtain ⟨old, hold, rfl⟩ := List.mem_map.mp hreq
    unfold Request.kill at hphase
    dsimp only at hphase
    split at hphase
    · exact hs.wellformed old hold giveUp hphase
    · cases hphase

/-- A recovery that returns retires quiet requests only, if it keeps what is silent. -/
theorem silent_recovered_iff {sentBefore : Nat} (hs : s.Silent) :
    (s.recovered sentBefore).Silent ↔ s.QuietBefore sentBefore := by
  have hlater : s.toCore.Later (s.recovered sentBefore).toCore :=
    Core.later_of_eq (Nat.le_refl _) rfl
  have hback : (s.recovered sentBefore).toCore.Later s.toCore :=
    Core.later_of_eq (Nat.le_refl _) rfl
  constructor
  · intro hrecovered req hreq
    have hretired : req.retire ∈ (s.recovered sentBefore).requests :=
      List.mem_append_left _ (List.mem_map_of_mem hreq)
    have hold := hs req (List.mem_of_mem_take hreq)
    exact (Request.silent_retire_iff hold).mp ((hrecovered _ hretired).later hback)
  · intro hquiet req hreq
    rcases List.mem_append.mp hreq with hbefore | hafter
    · obtain ⟨old, hold, rfl⟩ := List.mem_map.mp hbefore
      have hsilent := hs old (List.mem_of_mem_take hold)
      exact ((Request.silent_retire_iff hsilent).mpr (hquiet old hold)).later hlater
    · exact (hs req (List.mem_of_mem_drop hafter)).later hlater

theorem sane_recovered (hs : s.Sane) (sentBefore : Nat) : (s.recovered sentBefore).Sane := by
  have hget (r : Nat) : (s.recovered sentBefore).requests[r]?
      = s.requests[r]?.map fun req => if r < sentBefore then req.retire else req := by
    unfold recovered
    dsimp only
    rcases Nat.lt_or_ge r s.requests.length with hlt | hge
    · by_cases hbefore : r < sentBefore
      · rw [List.getElem?_append_left (by simp; omega), List.getElem?_map,
          List.getElem?_take_of_lt hbefore]
        simp only [hbefore, if_true]
      · rw [List.getElem?_append_right (by simp; omega), List.getElem?_drop, List.length_map,
          List.length_take, show sentBefore + (r - min sentBefore s.requests.length) = r by omega]
        simp only [hbefore, if_false, Option.map_id']
    · rw [List.getElem?_eq_none (by simp; omega), List.getElem?_eq_none hge]
      rfl
  refine ⟨?_, ?_⟩
  · intro r hr
    obtain ⟨req, hreq, hholds⟩ := hs.held r hr
    refine ⟨if r < sentBefore then req.retire else req, by rw [hget, hreq]; rfl, ?_⟩
    split <;> exact hholds
  · intro req hreq
    rcases List.mem_append.mp hreq with hbefore | hafter
    · obtain ⟨old, hold, rfl⟩ := List.mem_map.mp hbefore
      exact hs.wellformed old (List.mem_of_mem_take hold)
    · exact hs.wellformed req (List.mem_of_mem_drop hafter)

theorem kept_leave {i : Nat} {call : Call} {leaving : Leaving}
    (h : s.leave i call leaving = some s') : s.Kept s' := by
  unfold leave at h
  split at h
  · split at h
    · split at h
      · cases h
        exact kept_left _ _ _ _
      · cases h
    · split at h
      · cases h
      · cases h
        exact kept_left _ _ _ _
    · cases h
      exact kept_left _ _ _ _
  · cases h

theorem kept_callLifecycle {method : Method} {operation : Option Nat}
    (h : s.callLifecycle method operation = some s') : s.Kept s' := by
  unfold callLifecycle at h
  split at h
  · cases h
  · cases h
    cases operation with
    | none => exact kept_of_requests (s.later_append _) rfl rfl id
    | some i => exact kept_of_requests (Core.later_of_eq (Nat.le_refl _) rfl) rfl rfl id

theorem kept_stopStream {operation : Option Nat} (h : s.stopStream operation = some s') :
    s.Kept s' := by
  unfold stopStream at h
  split at h
  · cases h
  · cases h
    exact kept_of_requests (Core.later_of_eq (Nat.le_refl _) rfl) rfl rfl id

theorem kept_barrierSends {k : Nat} {recovery : Recovery}
    (h : s.barrierSends k recovery = some s') : s.Kept s' := by
  unfold barrierSends at h
  split at h
  · split at h
    · cases h
      exact kept_setBarrier _ _ _
    · cases h
      exact kept_setBarrier _ _ _
  · cases h

theorem kept_barrierSamples {k : Nat} {confirmed : Bool} {recovery : Recovery}
    (h : s.barrierSamples k confirmed recovery = some s') : s.Kept s' := by
  unfold barrierSamples at h
  split at h
  · split at h
    · cases h
      exact kept_setBarrier _ _ _
    · cases h
      exact kept_setBarrier _ _ _
  · cases h

theorem kept_recoveryRaises {k : Nat} {recovery : Recovery}
    (h : s.recoveryRaises k recovery = some s') : s.Kept s' := by
  unfold recoveryRaises at h
  split at h
  · cases h
    exact kept_setBarrier _ _ _
  · cases h
    exact kept_setBarrier _ _ _
  · cases h
    exact kept_setBarrier _ _ _
  · cases h

/-- A step that does not lift the quarantine keeps it and what is silent. -/
theorem kept_step {a : Action} (h : step s a = some s') (hlifts : a.lifts = false) : s.Kept s' := by
  cases a with
  | tick milliseconds =>
    cases h
    exact kept_of_requests (Core.later_of_eq (Nat.le_add_right _ _) rfl) rfl rfl id
  | newOperation deadline =>
    cases h
    exact kept_of_requests (s.later_append _) rfl rfl id
  | cancelOperation i =>
    cases h
    exact kept_cancel _ _
  | quarantine =>
    cases h
    exact kept_of_requests (Core.later_of_eq (Nat.le_refl _) rfl) rfl rfl fun _ => rfl
  | setMeasurementCleanupPending pending =>
    cases h
    exact kept_of_requests (Core.later_of_eq (Nat.le_refl _) rfl) rfl rfl id
  | callLifecycle method operation =>
    simp only [step] at h
    split at h
    · exact kept_callLifecycle h
    · cases h
  | stopStream operation =>
    simp only [step] at h
    split at h
    · exact kept_stopStream h
    · cases h
  | worker i turn =>
    obtain ⟨call, -, h⟩ := Option.bind_eq_some_iff.mp h
    exact kept_workerTurn h
  | leave i leaving =>
    obtain ⟨call, -, h⟩ := Option.bind_eq_some_iff.mp h
    exact kept_leave h
  | send method operation =>
    simp only [step] at h
    split at h
    · cases h
    · cases h
      exact kept_sendRequest _ _ _
  | request r turn =>
    obtain ⟨req, hreq, h⟩ := Option.bind_eq_some_iff.mp h
    obtain ⟨req', hturn, rfl⟩ := Option.map_eq_some_iff.mp h
    exact kept_afterTurn hreq hturn
  | abortCleanup operation =>
    cases h
    refine ((s.kept_cancel operation).trans (kept_cancelFutures _)).trans ?_
    exact kept_of_requests (Core.later_of_eq (Nat.le_refl _) rfl) rfl rfl fun _ => rfl
  | barrierSends k =>
    obtain ⟨recovery, -, h⟩ := Option.bind_eq_some_iff.mp h
    exact kept_barrierSends h
  | barrierSamples k confirmed =>
    obtain ⟨recovery, -, h⟩ := Option.bind_eq_some_iff.mp h
    exact kept_barrierSamples h
  | recoveryRaises k =>
    obtain ⟨recovery, -, h⟩ := Option.bind_eq_some_iff.mp h
    exact kept_recoveryRaises h
  | closeHost =>
    simp only [step] at h
    split at h
    · cases h
      exact kept_endHost _
    · cases h
  | releaseAfterVerifiedStop =>
    cases h
    refine ((kept_cancelFutures s).trans (kept_endHost _)).trans ?_
    exact kept_of_requests (Core.later_of_eq (Nat.le_refl _) rfl) rfl rfl id
  | prepareRecovery operation => cases hlifts
  | recoveryReturns k => cases hlifts
  | reconcileCompletes k => cases hlifts
  | externalStopConfirmed => cases hlifts

/-- What a step that may lift the quarantine does: it retires requests, or lifts it, or neither. -/
inductive Lift (s : Proxy) (a : Action) : Proxy → Prop where
  | retires (sentBefore : Nat) (s' : Proxy) (hretires : s.retires a = some sentBefore)
    (hcore : s'.toCore = (s.recovered sentBefore).toCore)
    (hrequests : s'.requests = (s.recovered sentBefore).requests)
    (hlock : s'.lock = s.lock) : Lift s a s'
  | other (s' : Proxy) (hretires : s.retires a = none) (hlater : s.toCore.Later s'.toCore)
    (hrequests : s'.requests = s.requests) (hlock : s'.lock = s.lock) : Lift s a s'

theorem lift_step {a : Action} (h : step s a = some s') (hlifts : a.lifts = true) :
    s.Lift a s' := by
  cases a with
  | prepareRecovery operation =>
    simp only [step] at h
    split at h
    · unfold prepareRecovery at h
      split at h
      · cases h
      · dsimp only at h
        split at h
        · rename_i hclient
          cases h
          exact .other _ (if_pos hclient) (Core.later_of_eq (Nat.le_refl _) rfl) rfl rfl
        · rename_i hclient
          split at h
          · cases h
          · cases h
            exact .retires s.requests.length _ (if_neg hclient) rfl rfl rfl
    · cases h
  | recoveryReturns k =>
    obtain ⟨recovery, hrecovery, h⟩ := Option.bind_eq_some_iff.mp h
    unfold recoveryReturns at h
    split at h
    · split at h
      · cases h
        exact .retires recovery.sentBefore _ (by simp [retires, hrecovery]) rfl rfl rfl
      · cases h
    · cases h
  | reconcileCompletes k =>
    obtain ⟨recovery, -, h⟩ := Option.bind_eq_some_iff.mp h
    unfold reconcileCompletes at h
    split at h
    · cases h
      exact .other _ rfl (Core.later_of_eq (Nat.le_refl _) rfl) rfl rfl
    · cases h
  | externalStopConfirmed =>
    simp only [step] at h
    split at h
    · cases h
      exact .other _ rfl (Core.later_of_eq (Nat.le_refl _) rfl) rfl rfl
    · cases h
  | _ => cases hlifts

theorem retires_of_not_lifts {a : Action} (h : a.lifts = false) (s : Proxy) :
    s.retires a = none := by
  cases a <;> first | rfl | cases h

theorem sane_step {a : Action} (h : step s a = some s') (hs : s.Sane) : s'.Sane := by
  cases hlifts : a.lifts with
  | false => exact (kept_step h hlifts).sane hs
  | true =>
    cases lift_step h hlifts with
    | retires sentBefore _ hretires hcore hrequests hlock =>
      obtain ⟨hheld, hwellformed⟩ := sane_recovered hs sentBefore
      refine ⟨?_, ?_⟩
      · rw [hlock, hrequests]
        exact hheld
      · rw [hrequests]
        exact hwellformed
    | other _ hretires hlater hrequests hlock =>
      refine ⟨?_, ?_⟩
      · rw [hlock, hrequests]
        exact hs.held
      · rw [hrequests]
        exact hs.wellformed

/-- A step keeps what is silent exactly when it is quiesced. -/
theorem silent_step_iff {a : Action} (h : step s a = some s') (hs : s.Silent) :
    s'.Silent ↔ Quiesced s a := by
  have henabled : (step s a).isSome = true := by rw [h]; rfl
  unfold Quiesced
  rw [imp_iff_right henabled]
  cases hlifts : a.lifts with
  | false =>
    rw [retires_of_not_lifts hlifts]
    exact iff_of_true ((kept_step h hlifts).silent hs) nofun
  | true =>
    cases lift_step h hlifts with
    | retires sentBefore _ hretires hcore hrequests hlock =>
      have hsame : s'.Silent ↔ (s.recovered sentBefore).Silent := by
        unfold Silent
        rw [hcore, hrequests]
      rw [hsame, silent_recovered_iff hs, hretires]
      simp
    | other _ hretires hlater hrequests hlock =>
      rw [hretires]
      refine iff_of_true ?_ nofun
      intro req hreq
      rw [hrequests] at hreq
      exact (hs req hreq).later hlater

theorem silent_init : init.Silent := nofun

theorem sane_init : init.Sane := ⟨nofun, nofun⟩

end Proxy

end NexusN3.Plugins.Runtime
