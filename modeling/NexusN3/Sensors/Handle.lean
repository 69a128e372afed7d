import NexusN3.Lib.Triple
import NexusN3.Lib.Jobs

/-!
# Sensor handles and the operations awaited on them

The manager holds one handle a sensor. Its services await operations of the plugin behind the
handle and of the adapter: each returns, raises, or is still running when the deadline of the
task that awaits it passes, and may meanwhile change the handle.

* **`Sensor`** — the handle: the link, the two flags about the measurement, the hooks.
* **`Awaited`** — one awaited operation: how it ends and what it does to the handle. It may clear
  `measurement_cleanup_pending`; only a start sets it.
* **`Coroutine`** — a coroutine on one handle.
* **`Follows`** — what every task of the stopping services keeps.
-/

namespace NexusN3.Sensors

open Lib

/-! ## The handle -/

/-- The source has two enumerations of this name: `connection_status` and `types.connections`.
Their members have equal names and compare unequal. -/
inductive StatusEnum where
  | handle
  | types
  deriving DecidableEq, Repr

/-- A connection status: its enumeration, and whether its name is `CONNECTED`. -/
structure ConnectionStatus where
  enum : StatusEnum := .types
  connected : Bool
  deriving DecidableEq, Repr

/-- `ConnectionStatus.CONNECTED` of `types.connections`, which all services use. -/
def ConnectionStatus.CONNECTED : ConnectionStatus := { connected := true }

def ConnectionStatus.DISCONNECTED : ConnectionStatus := { connected := false }

/-- An attribute that should be a method. -/
inductive Hook where
  | absent
  | notCallable
  | callable
  deriving DecidableEq, Repr

structure Sensor where
  /-- set by discovery -/
  address : Option String := none
  name : String
  location : String := ""
  adapter : String := "BLE"
  connectionStatus : ConnectionStatus := { enum := .handle, connected := false }
  /-- `transport_client is not None` -/
  hasClient : Bool := false
  measurementCleanupPending : Bool := false
  physicalStopQuarantined : Bool := false
  cleanupInProgress : Bool := false
  startStream : Hook := .callable
  stopStream : Hook := .callable
  requestSample : Hook := .absent
  deriving DecidableEq, Repr

/-- The identity of a handle. -/
abbrev SensorId := Nat

abbrev Heap := SensorId → Sensor

/-- Exceptions of the class `TimeoutError`, which `asyncio.TimeoutError` is too. -/
def isTimeout (e : Raised) : Bool := decide (e.type = "TimeoutError")

def runtimeError (text : String) : Raised := ⟨"RuntimeError", text⟩

def timeoutError (text : String) : Raised := ⟨"TimeoutError", text⟩

/-- What `operation.check()` raises. -/
def expiredError : Raised := timeoutError "Sensor operation expired or cancelled"

/-- `type(exc).__name__` and the text. -/
def described (e : Raised) : String := s!"{e.type}: {e.text}"

/-! ## Awaited operations -/

/-- How an awaited operation ends. -/
inductive Ending (α : Type) where
  | returned (value : α)
  | raised (e : Raised)
  /-- it still runs when the deadline of the awaiting task passes: that task is cancelled -/
  | expired

/-- What an operation, or a callback that runs meanwhile, does to the handle. -/
structure Touch where
  /-- the plugin reports its measurement stopped -/
  clearsPending : Bool := false
  quarantine : Option Bool := none
  status : Option ConnectionStatus := none

def Touch.apply (t : Touch) (s : Sensor) : Sensor :=
  { s with
    measurementCleanupPending := s.measurementCleanupPending && !t.clearsPending
    physicalStopQuarantined := t.quarantine.getD s.physicalStopQuarantined
    connectionStatus := t.status.getD s.connectionStatus }

structure Awaited (α : Type) where
  ending : Ending α
  touch : Touch := {}

/-- How a coroutine fails. A cancelled one runs its `finally` clauses and nothing else. -/
inductive Fault where
  | raised (e : Raised)
  | cancelled

/-- A coroutine on one handle. -/
abbrev Coroutine (α : Type) := Program Sensor Fault α

namespace Coroutine

variable {α : Type}

def await (a : Awaited α) : Coroutine α := do
  modify a.touch.apply
  match a.ending with
  | .returned value => pure value
  | .raised e => throw (.raised e)
  | .expired => throw .cancelled

def raise (e : Raised) : Coroutine α := throw (.raised e)

/-- `operation.check()`. -/
def check (inTime : Bool) : Coroutine Unit :=
  if inTime then pure () else raise expiredError

/-- `except Exception`: a cancellation is no `Exception`. -/
def handler (handle : Raised → Coroutine α) : Fault → Coroutine α
  | .raised e => handle e
  | .cancelled => throw .cancelled

def tryExcept (body : Coroutine α) (handle : Raised → Coroutine α) : Coroutine α :=
  tryCatch body (handler handle)

/-- `finally`, for a clause that only sets fields of the handle. -/
def tryFinally (body : Coroutine α) (clause : Sensor → Sensor) : Coroutine α :=
  .of fun s => ((body.exec s).1, clause (body.exec s).2)

/-- Await an operation where there is a hook for it. -/
def optional (a : Option (Awaited Unit)) : Coroutine Unit :=
  match a with
  | some a => await a
  | none => pure ()

/-- A plain call, by what it raises. -/
def call (e : Option Raised) : Coroutine Unit :=
  match e with
  | some e => raise e
  | none => pure ()

/-- `set_connection_status` in a worker thread. -/
def setConnectionStatus (status : ConnectionStatus) (a : Awaited Unit) : Coroutine Unit := do
  modify fun s => { s with connectionStatus := status }
  await a

/-- `sensor.stop_stream(adapter)`; the value says that the plugin did not return `False`. -/
def callStopStream (a : Awaited Bool) : Coroutine Bool := do
  match (← get).stopStream with
  | .callable => await a
  | .notCallable => raise ⟨"TypeError", "object is not callable"⟩
  | .absent => raise ⟨"AttributeError", "object has no attribute"⟩

/-- `_bounded`: how the task ends by its deadline, and the handle it leaves. `inTime` is what
`operation.check()` finds once it is done. -/
def bounded (task : Coroutine α) (inTime : Bool) (s : Sensor) : Except Raised α × Sensor :=
  match task.exec s with
  | (.error .cancelled, s') => (.error (timeoutError "Recovery operation deadline reached"), s')
  | (.error (.raised e), s') => (.error (if inTime then e else expiredError), s')
  | (.ok value, s') => (if inTime then .ok value else .error expiredError, s')

end Coroutine

/-! ## What the stopping services keep -/

/-- The later handle is the same sensor, and no start came between. -/
structure Follows (s s' : Sensor) : Prop where
  address : s'.address = s.address
  stopStream : s'.stopStream = s.stopStream
  requestSample : s'.requestSample = s.requestSample
  pending : s'.measurementCleanupPending = true → s.measurementCleanupPending = true

instance : IsPreorder Sensor Follows where
  refl _ := ⟨rfl, rfl, rfl, id⟩
  trans _ _ _ h h' :=
    ⟨h'.address.trans h.address, h'.stopStream.trans h.stopStream,
      h'.requestSample.trans h.requestSample, fun hp => h.pending (h'.pending hp)⟩

theorem Follows.of_apply (t : Touch) (s : Sensor) : Follows s (t.apply s) :=
  ⟨rfl, rfl, rfl, fun h => (Bool.and_eq_true_iff.mp h).1⟩

/-- No start is pending. -/
def Stopped (s : Sensor) : Prop := s.measurementCleanupPending = false

theorem Stopped.of_follows {s s' : Sensor} (h : Follows s s') (hs : Stopped s) : Stopped s' := by
  rw [Stopped, ← Bool.not_eq_true]
  intro hp
  rw [Stopped, h.pending hp] at hs
  cases hs

namespace Coroutine

open Program

variable {α : Type}

theorem exec_await (a : Awaited α) (s : Sensor) :
    (await a).exec s =
      match a.ending with
      | .returned value => (.ok value, a.touch.apply s)
      | .raised e => (.error (.raised e), a.touch.apply s)
      | .expired => (.error .cancelled, a.touch.apply s) := by
  obtain ⟨ending, touch⟩ := a
  cases ending <;> rfl

theorem keeps_modify {R : Sensor → Sensor → Prop} {f : Sensor → Sensor} (h : ∀ s, R s (f s)) :
    Keeps R (modify f : Coroutine PUnit) := h

theorem keeps_get : Keeps Follows (get : Coroutine Sensor) := fun s => refl_of Follows s

theorem keeps_raise (e : Raised) : Keeps Follows (raise e : Coroutine α) := Keeps.throw _

theorem keeps_await (a : Awaited α) : Keeps Follows (await a) := by
  refine Keeps.bind (keeps_modify fun s => Follows.of_apply a.touch s) fun _ => ?_
  split
  · exact Keeps.pure _
  · exact Keeps.throw _
  · exact Keeps.throw _

theorem keeps_optional (a : Option (Awaited Unit)) : Keeps Follows (optional a) := by
  cases a with
  | none => exact Keeps.pure _
  | some a => exact keeps_await a

theorem keeps_call (e : Option Raised) : Keeps Follows (call e) := by
  cases e with
  | none => exact Keeps.pure _
  | some e => exact keeps_raise e

theorem keeps_check (inTime : Bool) : Keeps Follows (check inTime) := by
  unfold check
  split
  · exact Keeps.pure _
  · exact keeps_raise _

theorem keeps_tryExcept {body : Coroutine α} {handle : Raised → Coroutine α}
    (hbody : Keeps Follows body) (hhandle : ∀ e, Keeps Follows (handle e)) :
    Keeps Follows (tryExcept body handle) :=
  Keeps.tryCatch hbody fun
    | .raised e => hhandle e
    | .cancelled => Keeps.throw _

theorem keeps_tryFinally {body : Coroutine α} {clause : Sensor → Sensor}
    (hbody : Keeps Follows body) (hclause : ∀ s, Follows s (clause s)) :
    Keeps Follows (tryFinally body clause) :=
  fun s => trans_of Follows (hbody s) (hclause _)

theorem returns_tryExcept {P : Sensor → Prop} {Q : α → Sensor → Prop} {body : Coroutine α}
    {handle : Raised → Coroutine α} (hbody : Returns P body Q)
    (hhandle : ∀ e, Returns (fun _ => True) (handle e) Q) : Returns P (tryExcept body handle) Q :=
  Triple.tryCatch hbody fun
    | .raised e => hhandle e
    | .cancelled => Triple.throw _ fun _ _ => trivial

theorem returns_tryFinally {P : Sensor → Prop} {Q : α → Sensor → Prop} {body : Coroutine α}
    {clause : Sensor → Sensor} (hbody : Returns P body Q)
    (hclause : ∀ a s, Q a s → Q a (clause s)) : Returns P (tryFinally body clause) Q := by
  intro s hs
  have hend := hbody s hs
  rw [tryFinally, exec_of]
  cases hrun : body.exec s with
  | mk r s' =>
    rw [hrun] at hend
    cases r with
    | ok a => exact hclause a s' hend
    | error e => trivial

theorem returns_call (e : Option Raised) {P : Sensor → Prop} :
    Returns P (call e) fun _ => P := by
  cases e with
  | none => exact Triple.pure _ fun _ h => h
  | some e => exact Triple.throw _ fun _ _ => trivial

theorem returns_raise (e : Raised) {P : Sensor → Prop} {Q : α → Sensor → Prop} :
    Returns P (raise e) Q :=
  Triple.throw _ fun _ _ => trivial

theorem keeps_setConnectionStatus (status : ConnectionStatus) (a : Awaited Unit) :
    Keeps Follows (setConnectionStatus status a) :=
  Keeps.bind (keeps_modify fun _ => ⟨rfl, rfl, rfl, id⟩) fun _ => keeps_await a

theorem keeps_callStopStream (a : Awaited Bool) : Keeps Follows (callStopStream a) := by
  refine Keeps.bind keeps_get fun s => ?_
  split
  · exact keeps_await a
  · exact keeps_raise _
  · exact keeps_raise _

theorem follows_bounded {task : Coroutine α} (h : Keeps Follows task) (inTime : Bool) (s : Sensor) :
    Follows s (bounded task inTime s).2 := by
  have hkept := h s
  unfold bounded
  cases hrun : task.exec s with
  | mk r s' =>
    rw [hrun] at hkept
    match r with
    | .ok _ => exact hkept
    | .error (.raised _) => exact hkept
    | .error .cancelled => exact hkept

/-- A bounded task that gives a value has returned it. -/
theorem exec_of_bounded {task : Coroutine α} {inTime : Bool} {s s' : Sensor} {value : α}
    (h : bounded task inTime s = (.ok value, s')) : task.exec s = (.ok value, s') := by
  unfold bounded at h
  cases hrun : task.exec s with
  | mk r s₁ =>
    rw [hrun] at h
    match r with
    | .ok a =>
      cases inTime with
      | false => cases h
      | true =>
        cases h
        rfl
    | .error (.raised _) => cases h
    | .error .cancelled => cases h

end Coroutine

end NexusN3.Sensors
