import Mathlib.Data.Finset.Basic
import Mathlib.Data.List.Nodup
import NexusN3.Lib.Dict
import NexusN3.Lib.Unwinding

/-!
# Latest-value routing

A route takes a value from one sensor's output to another sensor's input. Its slot in
`_routing_pending` is absent while no job of it is scheduled or running, empty while a job has
taken the value, and else holds the newest value. Producers, jobs and quiescers change the slot
under one lock, a section at a time.

* **`View`** — what the invariant reads of one route. A section changes the view of its own route
  only.
* **`Busy`, `Resting`** — the invariant of a route with a job at a phase, and of one without.
* **`Routed`** — the invariant of the manager. Every section keeps it.
* **`outstanding`** — the value a route still owes its consumer, read off the log.
* **`latest_value_routing`** — what holds in every reachable state, and from it on.
-/

namespace NexusN3.Sensors

open Lib

/-! ## The manager's routing state -/

/-- The arguments of one routed call. Every submission builds a dictionary of its own: `id` is
its identity. -/
structure Call (V : Type) where
  id : Nat
  value : V
  deriving DecidableEq

/-- Where a route job stands in `_run_routed_route`. -/
inductive Phase (V : Type) where
  | scheduled
  /-- the slot is emptied; `none` where there was nothing to consume -/
  | taken (call : Option (Call V))
  | executed

/-- What a job has taken and not yet consumed. -/
def Phase.call {V : Type} : Phase V → Option (Call V)
  | .taken call => call
  | _ => none

@[simp] theorem Phase.call_scheduled {V : Type} : (scheduled : Phase V).call = none := rfl

@[simp] theorem Phase.call_taken {V : Type} (c : Option (Call V)) : (taken c).call = c := rfl

@[simp] theorem Phase.call_executed {V : Type} : (executed : Phase V).call = none := rfl

/-- What has happened, in order. -/
inductive Event (R A V : Type) where
  | submitted (route : R) (call : Call V) (accepted : Bool)
  | consumed (route : R) (call : Call V)
  | rejected (route : R)
  | quiesced (addresses : Option (Finset A))
  | drained (addresses : Option (Finset A))
  | enabled

/-- The sections the threads take. -/
inductive Section (S A V : Type) where
  /-- `_submit_routed_value`; `accepts` says that the executor takes a job -/
  | submit (source target : S) (value : V) (accepts : Bool)
  /-- the `i`-th job takes the slot, executes the call, and finishes. A consumer that raises
  leaves `_execute_routed_call` like one that returns. -/
  | start (i : Nat)
  | consume (i : Nat)
  | finish (i : Nat) (accepts : Bool)
  | quiesce (addresses : Option (Finset A))
  /-- `_wait_for_routing_to_drain` returns -/
  | drain (addresses : Option (Finset A))
  | enable

/-- The sections of a route's job. -/
def Section.isJob {S A V : Type} : Section S A V → Bool
  | .start _ => true
  | .consume _ => true
  | .finish _ _ => true
  | _ => false

/-- A route: its source and its target. -/
abbrev Route (S : Type) := S × S

structure Job (S V : Type) where
  route : Route S
  phase : Phase V

structure Routing (S A V : Type) where
  routingEnabled : Bool := false
  routingBlockedAddresses : Finset A := ∅
  routingPending : Dict (Route S) (Option (Call V)) := Dict.empty
  activeRoutedCalls : Int := 0
  /-- `_routing_operations`; the value says whether the operation is cancelled -/
  routingOperations : Dict (Route S) Bool := Dict.empty
  /-- the jobs given to the executors and not yet ended -/
  jobs : List (Job S V) := []
  nextId : Nat := 0
  log : List (Event (Route S) A V) := []

namespace Routing

variable {S A V : Type}

section Sections

variable [DecidableEq S] [DecidableEq A] (address : S → A)

/-- `any(sensor.address in addresses for sensor in route)`. -/
def touches (addresses : Finset A) (route : Route S) : Bool :=
  decide (address route.1 ∈ addresses ∨ address route.2 ∈ addresses)

/-- The routes a quiesce or a drain is about: `None` is about all. -/
def affects (addresses : Option (Finset A)) (route : Route S) : Bool :=
  match addresses with
  | none => true
  | some addresses => touches address addresses route

/-- A value submitted on the route is let in. -/
def admits (s : Routing S A V) (route : Route S) : Bool :=
  s.routingEnabled && !touches address s.routingBlockedAddresses route

def note (s : Routing S A V) (event : Event (Route S) A V) : Routing S A V :=
  { s with log := s.log ++ [event] }

/-- `_finish_routed_route`. -/
def finishRoutedRoute (s : Routing S A V) (route : Route S) : Routing S A V :=
  { s with
    routingPending := s.routingPending.erase route
    activeRoutedCalls := s.activeRoutedCalls - 1 }

def submitRoutedValue (s : Routing S A V) (route : Route S) (value : V) (accepts : Bool) :
    Routing S A V :=
  let call : Call V := ⟨s.nextId, value⟩
  let s := { s with nextId := s.nextId + 1 }
  if !s.admits address route then s.note (.submitted route call false)
  else
    match s.routingPending.get? route with
    | some _ =>
      { s with routingPending := s.routingPending.set route (some call) }.note
        (.submitted route call true)
    | none =>
      let s := { s with
        routingPending := s.routingPending.set route (some call)
        activeRoutedCalls := s.activeRoutedCalls + 1 }
      if accepts then
        let s : Routing S A V := { s with jobs := s.jobs ++ [⟨route, .scheduled⟩] }
        s.note (.submitted route call true)
      else ((s.finishRoutedRoute route).note (.submitted route call false)).note (.rejected route)

/-- The first section of `_run_routed_route`. A missing key raises, and the job is gone. -/
def startRoute (s : Routing S A V) (i : Nat) (route : Route S) : Routing S A V :=
  match s.routingPending.get? route with
  | none => { s with jobs := s.jobs.eraseIdx i }
  | some slot =>
    let call := if touches address s.routingBlockedAddresses route then none else slot
    { s with
      routingPending := s.routingPending.set route none
      routingOperations :=
        if call.isSome then s.routingOperations.set route false else s.routingOperations
      jobs := s.jobs.set i ⟨route, .taken call⟩ }

/-- `_execute_routed_call`: without an operation the lookup raises, and nothing is consumed. -/
def executeRoutedCall (s : Routing S A V) (i : Nat) (route : Route S) (call : Option (Call V)) :
    Routing S A V :=
  let s := { s with jobs := s.jobs.set i ⟨route, .executed⟩ }
  match call with
  | none => s
  | some call =>
    if route ∈ s.routingOperations.keys then s.note (.consumed route call) else s

/-- The last section of `_run_routed_route`. -/
def finishJob (s : Routing S A V) (i : Nat) (route : Route S) (accepts : Bool) : Routing S A V :=
  let s := { s with
    routingOperations := s.routingOperations.erase route
    jobs := s.jobs.eraseIdx i }
  match s.routingPending.get? route with
  | none => s
  | some (some _) =>
    if accepts then { s with jobs := s.jobs ++ [⟨route, .scheduled⟩] }
    else (s.finishRoutedRoute route).note (.rejected route)
  | some none => s.finishRoutedRoute route

def quiesceRouting (s : Routing S A V) (addresses : Option (Finset A)) : Routing S A V :=
  let s := match addresses with
    | none => { s with routingEnabled := false }
    | some more => { s with routingBlockedAddresses := s.routingBlockedAddresses ∪ more }
  let hit := fun route =>
    addresses.isNone || touches address s.routingBlockedAddresses route
  { s with
    routingPending := s.routingPending.mapEntries fun route slot =>
      if hit route then none else slot
    routingOperations := s.routingOperations.mapEntries fun route cancelled =>
      cancelled || (hit route && decide (route ∈ s.routingPending.keys)) }.note
    (.quiesced addresses)

/-- `drained()` of `_wait_for_routing_to_drain`. -/
def isDrained (s : Routing S A V) (addresses : Option (Finset A)) : Bool :=
  !s.routingPending.keys.any (affects address addresses)

def enableRouting (s : Routing S A V) : Routing S A V :=
  { s with routingEnabled := true, routingBlockedAddresses := ∅ }.note .enabled

def step : Machine (Routing S A V) (Section S A V)
  | s, .submit source target value accepts =>
    some (s.submitRoutedValue address (source, target) value accepts)
  | s, .start i =>
    match s.jobs[i]? with
    | some ⟨route, .scheduled⟩ => some (s.startRoute address i route)
    | _ => none
  | s, .consume i =>
    match s.jobs[i]? with
    | some ⟨route, .taken call⟩ => some (s.executeRoutedCall i route call)
    | _ => none
  | s, .finish i accepts =>
    match s.jobs[i]? with
    | some ⟨route, .executed⟩ => some (s.finishJob i route accepts)
    | _ => none
  | s, .quiesce addresses => some (s.quiesceRouting address addresses)
  | s, .drain addresses =>
    if s.isDrained address addresses then some (s.note (.drained addresses)) else none
  | s, .enable => some s.enableRouting

end Sections

/-! ## Reading the log -/

section Log

variable [DecidableEq S] [DecidableEq A]

/-- The calls submitted on a route, in order. -/
def submittedOn (route : Route S) (log : List (Event (Route S) A V)) : List (Call V) :=
  log.filterMap fun
    | .submitted r call _ => if r = route then some call else none
    | _ => none

/-- The calls consumed on a route, in order. -/
def consumedOn (route : Route S) (log : List (Event (Route S) A V)) : List (Call V) :=
  log.filterMap fun
    | .consumed r call => if r = route then some call else none
    | _ => none

/-- What an event makes of the value a route owes. -/
def owe (address : S → A) (route : Route S) (owed : Option (Call V)) :
    Event (Route S) A V → Option (Call V)
  -- an accepted value supersedes the one before
  | .submitted r call accepted => if r = route ∧ accepted = true then some call else owed
  | .consumed r call => if r = route ∧ owed.map Call.id = some call.id then none else owed
  | .rejected r => if r = route then none else owed
  | .quiesced addresses => if affects address addresses route then none else owed
  | _ => owed

/-- The last value accepted on a route, unless it is consumed, its route quiesced, or a job of
the route rejected. -/
def outstanding (address : S → A) (route : Route S) (log : List (Event (Route S) A V)) :
    Option (Call V) :=
  log.foldl (owe address route) none

/-! ## What the invariant reads of one route -/

structure View (V : Type) where
  slot : Option (Option (Call V))
  operating : Bool
  submitted : List (Call V)
  consumed : List (Call V)
  owed : Option (Call V)

def view (address : S → A) (s : Routing S A V) (route : Route S) : View V where
  slot := s.routingPending.get? route
  operating := decide (route ∈ s.routingOperations.keys)
  submitted := submittedOn route s.log
  consumed := consumedOn route s.log
  owed := outstanding address route s.log

/-- What an event makes of the view of a route. -/
def View.after (address : S → A) (route : Route S) (v : View V) : Event (Route S) A V → View V
  | .submitted r call accepted =>
    if r = route then
      { v with
        submitted := v.submitted ++ [call]
        owed := if accepted = true then some call else v.owed }
    else v
  | .consumed r call =>
    if r = route then
      { v with
        consumed := v.consumed ++ [call]
        owed := if v.owed.map Call.id = some call.id then none else v.owed }
    else v
  | .rejected r => if r = route then { v with owed := none } else v
  | .quiesced addresses => if affects address addresses route then { v with owed := none } else v
  | _ => v

end Log

/-- A job of the route is at `phase`: what is consumed, what the job has taken and what the slot
holds were submitted in this order, and what the route owes is in one of the last two. -/
structure View.Busy (v : View V) (phase : Phase V) : Prop where
  present : v.slot ≠ none
  order : (v.consumed ++ phase.call.toList ++ v.slot.join.toList).Sublist v.submitted
  owed : ∀ call, v.owed = some call →
    v.slot = some (some call) ∨ v.slot = some none ∧ phase.call = some call
  operating : phase.call.isSome = true → v.operating = true

/-- No job of the route is scheduled or running, and it owes nothing. -/
structure View.Resting (v : View V) : Prop where
  absent : v.slot = none
  order : v.consumed.Sublist v.submitted
  owed : v.owed = none

/-- Every route has one job, and is busy with it, or none, and rests. -/
structure Covers (jobs : List (Job S V)) (view : Route S → View V) : Prop where
  nodup : (jobs.map Job.route).Nodup
  busy : ∀ job ∈ jobs, (view job.route).Busy job.phase
  resting : ∀ route, route ∉ jobs.map Job.route → (view route).Resting

section Covers

variable {jobs : List (Job S V)} {view view' : Route S → View V} {route : Route S}
  {phase phase' : Phase V} {i : Nat}

/-- The job list around its `i`-th job. -/
theorem jobs_split {job : Job S V} (hi : jobs[i]? = some job) :
    jobs = jobs.take i ++ job :: jobs.drop (i + 1) := by
  obtain ⟨hlt, rfl⟩ := List.getElem?_eq_some_iff.mp hi
  rw [List.getElem_cons_drop]
  exact (List.take_append_drop i jobs).symm

/-- The other jobs are of other routes. -/
theorem Covers.ne_of_mem (h : Covers jobs view) (hi : jobs[i]? = some ⟨route, phase⟩)
    {job : Job S V} (hjob : job ∈ jobs.take i ++ jobs.drop (i + 1)) : job.route ≠ route := by
  have hnodup := h.nodup
  rw [jobs_split hi, List.map_append, List.map_cons] at hnodup
  have hnotin := (List.nodup_cons.mp (List.nodup_middle.mp hnodup)).1
  intro heq
  apply hnotin
  rw [← List.map_append]
  exact List.mem_map.mpr ⟨job, hjob, heq⟩

theorem Covers.set (h : Covers jobs view) (hi : jobs[i]? = some ⟨route, phase⟩)
    (hother : ∀ r, r ≠ route → view' r = view r) (hnew : (view' route).Busy phase') :
    Covers (jobs.set i ⟨route, phase'⟩) view' := by
  obtain ⟨hlt, -⟩ := List.getElem?_eq_some_iff.mp hi
  have hset : jobs.set i ⟨route, phase'⟩
      = jobs.take i ++ ⟨route, phase'⟩ :: jobs.drop (i + 1) :=
    List.set_eq_take_append_cons_drop.trans (if_pos hlt)
  have hroutes : (jobs.set i ⟨route, phase'⟩).map Job.route = jobs.map Job.route := by
    conv_rhs => rw [jobs_split hi]
    rw [hset]
    simp
  refine ⟨by rw [hroutes]; exact h.nodup, ?_, ?_⟩
  · intro job hjob
    rw [hset] at hjob
    rcases List.mem_append.mp hjob with hbefore | hafter
    · rw [hother _ (h.ne_of_mem hi (List.mem_append_left _ hbefore))]
      exact h.busy job (List.mem_of_mem_take hbefore)
    · rcases List.mem_cons.mp hafter with rfl | hafter
      · exact hnew
      · rw [hother _ (h.ne_of_mem hi (List.mem_append_right _ hafter))]
        exact h.busy job (List.mem_of_mem_drop hafter)
  · intro r hr
    rw [hroutes] at hr
    have hne : r ≠ route := by
      rintro rfl
      exact hr (List.mem_map_of_mem (f := Job.route) (List.mem_of_getElem? hi))
    rw [hother r hne]
    exact h.resting r hr

theorem Covers.eraseIdx (h : Covers jobs view) (hi : jobs[i]? = some ⟨route, phase⟩)
    (hother : ∀ r, r ≠ route → view' r = view r) (hnew : (view' route).Resting) :
    Covers (jobs.eraseIdx i) view' ∧ route ∉ (jobs.eraseIdx i).map Job.route := by
  have herase : jobs.eraseIdx i = jobs.take i ++ jobs.drop (i + 1) :=
    List.eraseIdx_eq_take_drop_succ jobs i
  have hgone : route ∉ (jobs.eraseIdx i).map Job.route := by
    intro hmem
    obtain ⟨job, hjob, heq⟩ := List.mem_map.mp hmem
    exact h.ne_of_mem hi (herase ▸ hjob) heq
  refine ⟨⟨?_, ?_, ?_⟩, hgone⟩
  · exact h.nodup.sublist ((List.eraseIdx_sublist ..).map _)
  · intro job hjob
    have hne := h.ne_of_mem hi (herase ▸ hjob)
    rw [hother _ hne]
    exact h.busy job (List.mem_of_mem_eraseIdx hjob)
  · intro r hr
    by_cases hne : r = route
    · rw [hne]
      exact hnew
    · rw [hother r hne]
      apply h.resting r
      rw [jobs_split hi]
      rw [herase] at hr
      simp only [List.map_append, List.map_cons, List.mem_append, List.mem_cons] at hr ⊢
      rintro (hbefore | rfl | hafter)
      · exact hr (Or.inl hbefore)
      · exact hne rfl
      · exact hr (Or.inr hafter)

theorem Covers.append (h : Covers jobs view) (hroute : route ∉ jobs.map Job.route)
    (hother : ∀ r, r ≠ route → view' r = view r) (hnew : (view' route).Busy phase) :
    Covers (jobs ++ [⟨route, phase⟩]) view' := by
  refine ⟨?_, ?_, ?_⟩
  · rw [List.map_append, List.map_cons, List.map_nil]
    exact List.nodup_append.mpr ⟨h.nodup, List.nodup_singleton _, by
      intro a ha b hb hab
      rw [hab, List.mem_singleton.mp hb] at ha
      exact hroute ha⟩
  · intro job hjob
    rcases List.mem_append.mp hjob with hold | hlast
    · have hne : job.route ≠ route := by
        rintro rfl
        exact hroute (List.mem_map_of_mem hold)
      rw [hother _ hne]
      exact h.busy job hold
    · rw [List.mem_singleton.mp hlast]
      exact hnew
  · intro r hr
    rw [List.map_append, List.mem_append, not_or] at hr
    have hne : r ≠ route := fun heq => hr.2 (by simp [heq])
    rw [hother r hne]
    exact h.resting r hr.1

/-- The jobs stay, the views change. -/
theorem Covers.views (h : Covers jobs view)
    (hbusy : ∀ job ∈ jobs, (view' job.route).Busy job.phase)
    (hresting : ∀ r, r ∉ jobs.map Job.route → (view' r).Resting) : Covers jobs view' :=
  ⟨h.nodup, hbusy, hresting⟩

end Covers

/-! ## The invariant -/

section Invariant

variable [DecidableEq S] [DecidableEq A] {address : S → A} {s s' : Routing S A V}
  {route : Route S} {i : Nat}

/-- The value held in the slot of a route. -/
def held (s : Routing S A V) (route : Route S) : Option (Call V) :=
  (s.routingPending.get? route).join

structure Routed (address : S → A) (s : Routing S A V) : Prop where
  active : s.activeRoutedCalls = s.routingPending.keys.length
  covers : Covers s.jobs (s.view address)
  closed : ∀ route, s.admits address route = false → s.held route = none

/-- The calls submitted on a route are told apart by their ids, which grow. -/
def Numbered (s : Routing S A V) : Prop :=
  ∀ route, (submittedOn route s.log).Pairwise (fun a b => a.id < b.id) ∧
    ∀ call ∈ submittedOn route s.log, call.id < s.nextId

theorem view_note (s : Routing S A V) (event : Event (Route S) A V) (route : Route S) :
    (s.note event).view address route = (s.view address route).after address route event := by
  have hsubmitted : submittedOn route (s.log ++ [event])
      = submittedOn route s.log ++ submittedOn route [event] := List.filterMap_append
  have hconsumed : consumedOn route (s.log ++ [event])
      = consumedOn route s.log ++ consumedOn route [event] := List.filterMap_append
  have howed : outstanding address route (s.log ++ [event])
      = owe address route (outstanding address route s.log) event := by
    rw [outstanding, List.foldl_append]
    rfl
  unfold view note
  simp only [hsubmitted, hconsumed, howed]
  cases event with
  | submitted r call accepted =>
    by_cases hr : r = route <;> simp [View.after, owe, submittedOn, consumedOn, hr]
  | consumed r call =>
    by_cases hr : r = route <;> simp [View.after, owe, submittedOn, consumedOn, hr]
  | rejected r =>
    by_cases hr : r = route <;> simp [View.after, owe, submittedOn, consumedOn, hr]
  | quiesced addresses =>
    cases ha : affects address addresses route <;>
      simp [View.after, owe, submittedOn, consumedOn, ha]
  | drained addresses => simp [View.after, owe, submittedOn, consumedOn]
  | enabled => simp [View.after, owe, submittedOn, consumedOn]

/-- An event of a route does not show on another. -/
theorem after_submitted_ne {r : Route S} (hne : r ≠ route) (v : View V) (call : Call V)
    (accepted : Bool) : v.after address r (.submitted route call accepted) = v :=
  if_neg (Ne.symm hne)

theorem after_consumed_ne {r : Route S} (hne : r ≠ route) (v : View V) (call : Call V) :
    v.after address r (.consumed route call) = v :=
  if_neg (Ne.symm hne)

theorem after_rejected_ne {r : Route S} (hne : r ≠ route) (v : View V) :
    v.after address r (.rejected route) = v :=
  if_neg (Ne.symm hne)

theorem Routed.mem_routes_iff (h : s.Routed address) :
    route ∈ s.jobs.map Job.route ↔ route ∈ s.routingPending.keys := by
  constructor
  · intro hroute
    obtain ⟨job, hjob, rfl⟩ := List.mem_map.mp hroute
    rw [← Dict.get?_isSome_iff, Option.isSome_iff_ne_none]
    exact (h.covers.busy job hjob).present
  · intro hkey
    by_contra hroute
    have habsent : s.routingPending.get? route = none := (h.covers.resting route hroute).absent
    rw [Dict.get?_eq_none_iff] at habsent
    exact habsent hkey

/-- The number of keys after a key is written for the first time, written again, deleted. -/
theorem length_keys_set_new {d : Dict (Route S) (Option (Call V))} (x : Option (Call V))
    (h : route ∉ d.keys) : ((d.set route x).keys.length : Int) = d.keys.length + 1 := by
  rw [Dict.keys_set_of_notMem x h]
  simp

theorem length_keys_set_old {d : Dict (Route S) (Option (Call V))} (x : Option (Call V))
    (h : route ∈ d.keys) : (d.set route x).keys.length = d.keys.length := by
  rw [Dict.keys_set_of_mem x h]

/-! ## Submitting -/

/-- A call submitted while a job of the route is about changes what the slot holds at most. -/
theorem View.Busy.submit {v : View V} {phase : Phase V} (h : v.Busy phase) (call : Call V) :
    ({ v with slot := some (some call), submitted := v.submitted ++ [call], owed := some call } :
      View V).Busy phase := by
  refine ⟨by simp, ?_, ?_, h.operating⟩
  · have hearlier : (v.consumed ++ phase.call.toList).Sublist v.submitted :=
      (List.sublist_append_left _ _).trans h.order
    exact hearlier.append (List.Sublist.refl _)
  · intro c hc
    exact Or.inl (congrArg some hc)

theorem View.Busy.dropped {v : View V} {phase : Phase V} (h : v.Busy phase) (call : Call V) :
    ({ v with submitted := v.submitted ++ [call] } : View V).Busy phase :=
  ⟨h.present, h.order.trans (List.sublist_append_left _ _), h.owed, h.operating⟩

theorem View.Resting.dropped {v : View V} (h : v.Resting) (call : Call V) :
    ({ v with submitted := v.submitted ++ [call] } : View V).Resting :=
  ⟨h.absent, h.order.trans (List.sublist_append_left _ _), h.owed⟩

theorem View.Resting.submit {v : View V} (h : v.Resting) (call : Call V) :
    ({ v with slot := some (some call), submitted := v.submitted ++ [call], owed := some call } :
      View V).Busy .scheduled := by
  refine ⟨by simp, ?_, ?_, by simp⟩
  · rw [Phase.call_scheduled, Option.toList_none, List.append_nil]
    exact h.order.append (List.Sublist.refl _)
  · intro c hc
    exact Or.inl (congrArg some hc)

section Submit

variable (route : Route S) (value : V) (accepts : Bool)

/-- The value is dropped at the source. -/
theorem submit_dropped (hadmits : s.admits address route = false) :
    s.submitRoutedValue address route value accepts
      = note { s with nextId := s.nextId + 1 } (.submitted route ⟨s.nextId, value⟩ false) := by
  have hadmits' : admits address { s with nextId := s.nextId + 1 } route = false := hadmits
  unfold submitRoutedValue
  simp only [hadmits', Bool.not_false, if_true]

/-- The value replaces what the slot holds. -/
theorem submit_coalesced (hadmits : s.admits address route = true)
    (hkey : route ∈ s.routingPending.keys) :
    s.submitRoutedValue address route value accepts
      = note { s with
          nextId := s.nextId + 1
          routingPending := s.routingPending.set route (some ⟨s.nextId, value⟩) }
        (.submitted route ⟨s.nextId, value⟩ true) := by
  have hadmits' : admits address { s with nextId := s.nextId + 1 } route = true := hadmits
  obtain ⟨slot, hslot⟩ := Option.isSome_iff_exists.mp (Dict.get?_isSome_iff.mpr hkey)
  unfold submitRoutedValue
  simp only [hadmits', hslot, Bool.not_true, Bool.false_eq_true, if_false]

/-- The value starts a job. -/
theorem submit_started (hadmits : s.admits address route = true)
    (hkey : route ∉ s.routingPending.keys) :
    s.submitRoutedValue address route value true
      = note { s with
          nextId := s.nextId + 1
          routingPending := s.routingPending.set route (some ⟨s.nextId, value⟩)
          activeRoutedCalls := s.activeRoutedCalls + 1
          jobs := s.jobs ++ [⟨route, .scheduled⟩] }
        (.submitted route ⟨s.nextId, value⟩ true) := by
  have hadmits' : admits address { s with nextId := s.nextId + 1 } route = true := hadmits
  unfold submitRoutedValue
  simp only [hadmits', Dict.get?_eq_none_iff.mpr hkey, Bool.not_true, Bool.false_eq_true, if_false,
    if_true]

/-- The executor takes no job: the route is retired again. -/
theorem submit_rejected (hadmits : s.admits address route = true)
    (hkey : route ∉ s.routingPending.keys) :
    s.submitRoutedValue address route value false
      = note (note { s with
          nextId := s.nextId + 1
          routingPending := (s.routingPending.set route (some ⟨s.nextId, value⟩)).erase route
          activeRoutedCalls := s.activeRoutedCalls + 1 - 1 }
        (.submitted route ⟨s.nextId, value⟩ false)) (.rejected route) := by
  have hadmits' : admits address { s with nextId := s.nextId + 1 } route = true := hadmits
  unfold submitRoutedValue
  simp only [hadmits', Dict.get?_eq_none_iff.mpr hkey, Bool.not_true, Bool.false_eq_true, if_false,
    finishRoutedRoute]

theorem routed_submit (h : s.Routed address) :
    (s.submitRoutedValue address route value accepts).Routed address := by
  cases hadmits : s.admits address route with
  | false =>
    rw [submit_dropped route value accepts hadmits]
    refine ⟨h.active, h.covers.views ?_ ?_, h.closed⟩
    · intro job hjob
      rw [view_note]
      by_cases hr : job.route = route
      · subst hr
        rw [View.after, if_pos rfl]
        exact (h.covers.busy job hjob).dropped _
      · rw [after_submitted_ne hr]
        exact h.covers.busy job hjob
    · intro r hrest
      rw [view_note]
      by_cases hr : r = route
      · subst hr
        rw [View.after, if_pos rfl]
        exact (h.covers.resting r hrest).dropped _
      · rw [after_submitted_ne hr]
        exact h.covers.resting r hrest
  | true =>
    -- the route is open, so nothing is asked of what its slot holds
    have hclosed {pending : Dict (Route S) (Option (Call V))}
        (hother : ∀ r, r ≠ route → pending.get? r = s.routingPending.get? r) :
        ∀ r, s.admits address r = false → (pending.get? r).join = none := by
      intro r hr
      have hne : r ≠ route := by
        rintro rfl
        rw [hadmits] at hr
        cases hr
      rw [hother r hne]
      exact h.closed r hr
    by_cases hkey : route ∈ s.routingPending.keys
    · rw [submit_coalesced route value accepts hadmits hkey]
      refine ⟨?_, h.covers.views ?_ ?_, hclosed fun r hr => Dict.get?_set_ne _ _ (Ne.symm hr)⟩
      · exact h.active.trans (congrArg _ (length_keys_set_old _ hkey).symm)
      · intro job hjob
        rw [view_note]
        by_cases hr : job.route = route
        · subst hr
          rw [View.after, if_pos rfl]
          have hbusy := (h.covers.busy job hjob).submit ⟨s.nextId, value⟩
          simpa [view] using hbusy
        · rw [after_submitted_ne hr]
          have hbusy := h.covers.busy job hjob
          simpa [view, Dict.get?_set_ne _ _ (Ne.symm hr)] using hbusy
      · intro r hrest
        have hne : r ≠ route := by
          rintro rfl
          exact hrest (h.mem_routes_iff.mpr hkey)
        rw [view_note, after_submitted_ne hne]
        have hresting := h.covers.resting r hrest
        simpa [view, Dict.get?_set_ne _ _ (Ne.symm hne)] using hresting
    · have hfree : route ∉ s.jobs.map Job.route := fun hr => hkey (h.mem_routes_iff.mp hr)
      cases accepts with
      | true =>
        rw [submit_started route value hadmits hkey]
        refine ⟨?_, h.covers.append hfree ?_ ?_,
          hclosed fun r hr => Dict.get?_set_ne _ _ (Ne.symm hr)⟩
        · show s.activeRoutedCalls + 1 = _
          rw [h.active]
          exact (length_keys_set_new _ hkey).symm
        · intro r hne
          rw [view_note, after_submitted_ne hne]
          simp [view, Dict.get?_set_ne _ _ (Ne.symm hne)]
        · rw [view_note, View.after, if_pos rfl]
          have hbusy := (h.covers.resting route hfree).submit ⟨s.nextId, value⟩
          simpa [view] using hbusy
      | false =>
        rw [submit_rejected route value hadmits hkey]
        have hpending : ∀ r,
            ((s.routingPending.set route (some ⟨s.nextId, value⟩)).erase route).get? r
              = s.routingPending.get? r := by
          intro r
          by_cases hr : r = route
          · rw [hr, Dict.get?_erase_self, Dict.get?_eq_none_iff.mpr hkey]
          · rw [Dict.get?_erase_ne _ hr, Dict.get?_set_ne _ _ (Ne.symm hr)]
        refine ⟨?_, h.covers.views ?_ ?_, hclosed fun r _ => hpending r⟩
        · show s.activeRoutedCalls + 1 - 1 = _
          have hlength := Dict.length_keys_erase
            (d := s.routingPending.set route (some ⟨s.nextId, value⟩)) (k := route)
            (Dict.mem_keys_set.mpr (Or.inl rfl))
          have hnew := length_keys_set_new (some ⟨s.nextId, value⟩) hkey
          have hactive := h.active
          simp only [note]
          omega
        · intro job hjob
          have hr : job.route ≠ route := by
            rintro rfl
            exact hfree (List.mem_map_of_mem hjob)
          rw [view_note, view_note, after_rejected_ne hr, after_submitted_ne hr]
          have hbusy := h.covers.busy job hjob
          simpa [view, hpending] using hbusy
        · intro r hrest
          rw [view_note, view_note]
          have hresting := h.covers.resting r hrest
          by_cases hr : r = route
          · subst hr
            rw [View.after, if_pos rfl, View.after, if_pos rfl]
            have hdropped := hresting.dropped ⟨s.nextId, value⟩
            refine ⟨(hpending r).trans hdropped.absent, hdropped.order, rfl⟩
          · rw [after_rejected_ne hr, after_submitted_ne hr]
            simpa [view, hpending] using hresting

end Submit

/-! ## A job runs -/

/-- The job takes what the slot holds; a blocked route holds nothing. -/
theorem View.Busy.start {v : View V} (h : v.Busy .scheduled) :
    ({ v with slot := some none, operating := v.operating || v.slot.join.isSome } : View V).Busy
      (.taken v.slot.join) := by
  refine ⟨by simp, ?_, ?_, ?_⟩
  · have horder := h.order
    simp only [Phase.call_scheduled, Option.toList_none, List.append_nil] at horder
    simpa using horder
  · intro call hcall
    rcases h.owed call hcall with hslot | ⟨-, hnone⟩
    · exact Or.inr ⟨rfl, by simp [hslot]⟩
    · cases hnone
  · intro hcall
    exact Bool.or_eq_true_iff.mpr (Or.inr hcall)

theorem routed_start (h : s.Routed address) (hi : s.jobs[i]? = some ⟨route, .scheduled⟩) :
    (s.startRoute address i route).Routed address := by
  have hbusy := h.covers.busy _ (List.mem_of_getElem? hi)
  obtain ⟨slot, hslot⟩ := Option.ne_none_iff_exists'.mp hbusy.present
  have hslot' : s.routingPending.get? route = some slot := hslot
  have hkey : route ∈ s.routingPending.keys := Dict.mem_keys_of_get? hslot'
  -- what the check of the blocked addresses leaves is what the slot held
  have hcall : (if touches address s.routingBlockedAddresses route then none else slot) = slot := by
    split
    · rename_i hblocked
      have hnone := h.closed route (by simp [admits, hblocked])
      rw [held, hslot'] at hnone
      exact hnone.symm
    · rfl
  unfold startRoute
  simp only [hslot', hcall]
  refine ⟨?_, h.covers.set hi ?_ ?_, ?_⟩
  · exact h.active.trans (congrArg _ (length_keys_set_old _ hkey).symm)
  · intro r hne
    have hoperations : decide (r ∈ (if slot.isSome then s.routingOperations.set route false
        else s.routingOperations).keys) = decide (r ∈ s.routingOperations.keys) := by
      split
      · simp [Dict.mem_keys_set, hne]
      · rfl
    simp [view, Dict.get?_set_ne _ _ (Ne.symm hne), hoperations]
  · have hoperating : decide (route ∈ (if slot.isSome then s.routingOperations.set route false
        else s.routingOperations).keys)
        = ((s.view address route).operating || (s.view address route).slot.join.isSome) := by
      simp only [view, hslot', Option.join_some]
      cases slot with
      | none => simp
      | some call => simp [Dict.mem_keys_set]
    have hstart := hbusy.start
    simp only [view, hslot', Option.join_some] at hstart hoperating ⊢
    simpa [hoperating] using hstart
  · intro r hr
    show ((s.routingPending.set route none).get? r).join = none
    by_cases hne : r = route
    · rw [hne, Dict.get?_set_self]
      rfl
    · rw [Dict.get?_set_ne _ _ (Ne.symm hne)]
      exact h.closed r hr

/-- What the job has taken is consumed. -/
theorem View.Busy.consume {v : View V} {call : Call V} (h : v.Busy (.taken (some call))) :
    ({ v with
      consumed := v.consumed ++ [call]
      owed := if v.owed.map Call.id = some call.id then none else v.owed } : View V).Busy
      .executed := by
  refine ⟨h.present, ?_, ?_, by simp⟩
  · have horder := h.order
    simpa using horder
  · intro c hc
    replace hc : (if v.owed.map Call.id = some call.id then none else v.owed) = some c := hc
    split at hc
    · cases hc
    · rename_i hother
      rcases h.owed c hc with hslot | ⟨-, htaken⟩
      · exact Or.inl hslot
      · cases htaken
        simp [hc] at hother

theorem View.Busy.skip {v : View V} (h : v.Busy (.taken none)) : v.Busy .executed := by
  refine ⟨h.present, h.order, ?_, by simp⟩
  intro call hcall
  rcases h.owed call hcall with hslot | ⟨-, hnone⟩
  · exact Or.inl hslot
  · cases hnone

theorem routed_consume (h : s.Routed address) {call : Option (Call V)}
    (hi : s.jobs[i]? = some ⟨route, .taken call⟩) :
    (s.executeRoutedCall i route call).Routed address := by
  have hbusy := h.covers.busy _ (List.mem_of_getElem? hi)
  cases call with
  | none => exact ⟨h.active, h.covers.set hi (fun r _ => rfl) hbusy.skip, h.closed⟩
  | some call =>
    have hoperating : route ∈ s.routingOperations.keys := by
      have := hbusy.operating rfl
      simpa [view] using this
    unfold executeRoutedCall
    simp only [if_pos hoperating]
    refine ⟨h.active, h.covers.set hi ?_ ?_, h.closed⟩
    · intro r hne
      rw [view_note, after_consumed_ne hne]
      rfl
    · rw [view_note, View.after, if_pos rfl]
      exact hbusy.consume

theorem View.Busy.finish {v : View V} (h : v.Busy .executed) (hslot : v.slot = some none) :
    ({ v with slot := none, operating := false } : View V).Resting := by
  refine ⟨rfl, ?_, ?_⟩
  · have horder := h.order
    simpa [hslot] using horder
  · cases howed : v.owed with
    | none => rfl
    | some call =>
      rcases h.owed call howed with hheld | ⟨-, hnone⟩
      · rw [hslot] at hheld
        cases hheld
      · cases hnone

theorem View.Busy.retire {v : View V} (h : v.Busy .executed) :
    ({ v with slot := none, operating := false, owed := none } : View V).Resting :=
  ⟨rfl, (List.sublist_append_left _ _).trans ((List.sublist_append_left _ _).trans h.order), rfl⟩

theorem View.Busy.resubmit {v : View V} (h : v.Busy .executed) :
    ({ v with operating := false } : View V).Busy .scheduled :=
  ⟨h.present, h.order, h.owed, by simp⟩

theorem routed_finish (h : s.Routed address) (hi : s.jobs[i]? = some ⟨route, .executed⟩)
    (accepts : Bool) : (s.finishJob i route accepts).Routed address := by
  have hbusy := h.covers.busy _ (List.mem_of_getElem? hi)
  obtain ⟨slot, hslot⟩ := Option.ne_none_iff_exists'.mp hbusy.present
  have hslot' : s.routingPending.get? route = some slot := hslot
  have hkey : route ∈ s.routingPending.keys := Dict.mem_keys_of_get? hslot'
  have hlength := Dict.length_keys_erase (d := s.routingPending) hkey
  have hclosed : ∀ r, s.admits address r = false →
      ((s.routingPending.erase route).get? r).join = none := by
    intro r hr
    by_cases hne : r = route
    · rw [hne, Dict.get?_erase_self]
      rfl
    · rw [Dict.get?_erase_ne _ hne]
      exact h.closed r hr
  have hactive : s.activeRoutedCalls - 1 = ((s.routingPending.erase route).keys.length : Int) := by
    have := h.active
    omega
  unfold finishJob
  simp only [hslot']
  cases slot with
  | none =>
    refine ⟨hactive, (h.covers.eraseIdx hi ?_ ?_).1, hclosed⟩
    · intro r hne
      simp [view, finishRoutedRoute, Dict.get?_erase_ne _ hne, Dict.mem_keys_erase, hne]
    · have hrest := hbusy.finish hslot
      simpa [view, finishRoutedRoute, Dict.mem_keys_erase] using hrest
  | some call =>
    cases accepts with
    | true =>
      -- the old job goes, the new one comes: in between the route has none
      let emptied : Route S → View V :=
        fun r => if r = route then ⟨none, false, [], [], none⟩ else s.view address r
      have hresting : (emptied route).Resting := by
        simp only [emptied, if_pos]
        exact ⟨rfl, List.Sublist.refl _, rfl⟩
      have hgap := h.covers.eraseIdx hi (fun r hne => if_neg (c := r = route) hne) hresting
      refine ⟨h.active, hgap.1.append hgap.2 ?_ ?_, h.closed⟩
      · intro r hne
        simp [view, hne, Dict.mem_keys_erase]
      · have hagain := hbusy.resubmit
        simpa [view, Dict.mem_keys_erase] using hagain
    | false =>
      rw [if_neg (by simp)]
      refine ⟨hactive, (h.covers.eraseIdx hi ?_ ?_).1, hclosed⟩
      · intro r hne
        rw [view_note, after_rejected_ne hne]
        simp [view, finishRoutedRoute, Dict.get?_erase_ne _ hne, Dict.mem_keys_erase, hne]
      · rw [view_note, View.after, if_pos rfl]
        have hrest := hbusy.retire
        simpa [view, finishRoutedRoute, Dict.mem_keys_erase] using hrest

/-! ## Quiescing -/

/-- A quiesce empties the slots it is about, and owes their routes nothing more. -/
theorem View.Busy.quiesce {v : View V} {phase : Phase V} (h : v.Busy phase) {hit hits : Bool}
    (hsub : hits = true → hit = true) (hclosed : hit = true → hits = false → v.slot.join = none) :
    ({ v with
      slot := v.slot.map fun slot => if hit then none else slot
      owed := if hits then none else v.owed } : View V).Busy phase := by
  refine ⟨?_, ?_, ?_, h.operating⟩
  · intro hnone
    exact h.present (Option.map_eq_none_iff.mp hnone)
  · cases hit with
    | false => simpa using h.order
    | true =>
      have hempty : (v.slot.map fun _ => (none : Option (Call V))).join = none := by
        cases v.slot <;> rfl
      simp only [if_true, hempty, Option.toList_none, List.append_nil]
      exact (List.sublist_append_left _ _).trans h.order
  · intro call hcall
    cases hits with
    | true => cases hcall
    | false =>
      cases hit with
      | false => simpa using h.owed call hcall
      | true =>
        rcases h.owed call hcall with hslot | ⟨hslot, htaken⟩
        · have hnone := hclosed rfl rfl
          rw [hslot] at hnone
          cases hnone
        · exact Or.inr ⟨by simp [hslot], htaken⟩

theorem View.Resting.quiesce {v : View V} (h : v.Resting) {hit hits : Bool} :
    ({ v with
      slot := v.slot.map fun slot => if hit then none else slot
      owed := if hits then none else v.owed } : View V).Resting :=
  ⟨by simp [h.absent], h.order, by simp [h.owed]⟩

/-- The routes whose slots a quiesce empties: those that touch any blocked address. -/
def emptied (address : S → A) (s : Routing S A V) (addresses : Option (Finset A))
    (route : Route S) : Bool :=
  match addresses with
  | none => true
  | some more => touches address (s.routingBlockedAddresses ∪ more) route

omit [DecidableEq S] in
theorem touches_union (blocked more : Finset A) (route : Route S) :
    touches address (blocked ∪ more) route
      = (touches address blocked route || touches address more route) := by
  rw [Bool.eq_iff_iff]
  simp only [touches, Finset.mem_union, decide_eq_true_eq, Bool.or_eq_true]
  tauto

theorem view_quiesceRouting (addresses : Option (Finset A)) (r : Route S) :
    (s.quiesceRouting address addresses).view address r
      = { s.view address r with
          slot := (s.view address r).slot.map fun slot =>
            if s.emptied address addresses r then none else slot
          owed := if affects address addresses r then none else (s.view address r).owed } := by
  have hnoted (t : Routing S A V) : (t.note (.quiesced addresses)).view address r
      = { t.view address r with
          owed := if affects address addresses r then none else (t.view address r).owed } := by
    rw [view_note, View.after]
    cases affects address addresses r <;> rfl
  unfold quiesceRouting
  rw [hnoted]
  cases addresses with
  | none => simp [view, emptied, Dict.get?_mapEntries]
  | some more =>
    simp [view, emptied, Dict.get?_mapEntries]
    rfl

theorem quiesceRouting_admits (addresses : Option (Finset A)) (r : Route S) :
    (s.quiesceRouting address addresses).admits address r
      = (s.admits address r && !affects address addresses r) := by
  cases addresses with
  | none => simp [quiesceRouting, note, admits, affects]
  | some more =>
    simp only [quiesceRouting, note, admits, affects, touches_union, Bool.not_or]
    exact (Bool.and_assoc _ _ _).symm

theorem routed_quiesce (h : s.Routed address) (addresses : Option (Finset A)) :
    (s.quiesceRouting address addresses).Routed address := by
  have hsub (r : Route S) (hr : affects address addresses r = true) :
      s.emptied address addresses r = true := by
    cases addresses with
    | none => rfl
    | some more =>
      rw [emptied, touches_union]
      exact Bool.or_eq_true_iff.mpr (Or.inr hr)
  have hclosed (r : Route S) (hemptied : s.emptied address addresses r = true)
      (hr : affects address addresses r = false) : s.held r = none := by
    apply h.closed
    cases addresses with
    | none => cases hr
    | some more =>
      replace hr : touches address more r = false := hr
      rw [emptied, touches_union, hr, Bool.or_false] at hemptied
      simp [admits, hemptied]
  refine ⟨?_, ⟨?_, ?_, ?_⟩, ?_⟩
  · have hkeys : (s.quiesceRouting address addresses).routingPending.keys
        = s.routingPending.keys := by
      cases addresses <;> simp [quiesceRouting, note]
    have hactive : (s.quiesceRouting address addresses).activeRoutedCalls
        = s.activeRoutedCalls := by cases addresses <;> rfl
    rw [hkeys, hactive]
    exact h.active
  · have hjobs : (s.quiesceRouting address addresses).jobs = s.jobs := by cases addresses <;> rfl
    rw [hjobs]
    exact h.covers.nodup
  · intro job hjob
    have hjob' : job ∈ s.jobs := by cases addresses <;> exact hjob
    rw [view_quiesceRouting]
    exact (h.covers.busy job hjob').quiesce (hsub job.route) (hclosed job.route)
  · intro r hr
    have hr' : r ∉ s.jobs.map Job.route := by cases addresses <;> exact hr
    rw [view_quiesceRouting]
    exact (h.covers.resting r hr').quiesce
  · intro r hr
    have hslot : (s.quiesceRouting address addresses).held r
        = ((s.view address r).slot.map fun slot =>
            if s.emptied address addresses r then none else slot).join :=
      congrArg (fun v => v.slot.join) (view_quiesceRouting (s := s) addresses r)
    rw [hslot]
    rw [quiesceRouting_admits] at hr
    by_cases hemptied : s.emptied address addresses r = true
    · simp only [hemptied, if_true]
      cases (s.view address r).slot <;> rfl
    · -- a route the quiesce is not about was closed before
      have hnot : affects address addresses r = false := by
        by_contra haffects
        exact hemptied (hsub r (by simpa using haffects))
      have hwas : s.admits address r = false := by simpa [hnot] using hr
      simp only [hemptied, Bool.false_eq_true, if_false, Option.map_id']
      exact h.closed r hwas

theorem routed_drained (h : s.Routed address) (addresses : Option (Finset A)) :
    (s.note (.drained addresses)).Routed address := by
  refine ⟨h.active, h.covers.views ?_ ?_, h.closed⟩
  · intro job hjob
    rw [view_note]
    exact h.covers.busy job hjob
  · intro r hr
    rw [view_note]
    exact h.covers.resting r hr

theorem routed_enable (h : s.Routed address) : s.enableRouting.Routed address := by
  refine ⟨h.active, h.covers.views ?_ ?_, ?_⟩
  · intro job hjob
    rw [enableRouting, view_note]
    exact h.covers.busy job hjob
  · intro r hr
    rw [enableRouting, view_note]
    exact h.covers.resting r hr
  · intro r hr
    simp [enableRouting, note, admits, touches] at hr

/-- Every section keeps the invariant. -/
theorem routed_step {a : Section S A V} (h : s.Routed address)
    (hstep : step address s a = some s') : s'.Routed address := by
  cases a with
  | submit source target value accepts =>
    cases hstep
    exact routed_submit (source, target) value accepts h
  | start i =>
    simp only [step] at hstep
    split at hstep <;> cases hstep
    rename_i hi
    exact routed_start h hi
  | consume i =>
    simp only [step] at hstep
    split at hstep <;> cases hstep
    rename_i hi
    exact routed_consume h hi
  | finish i accepts =>
    simp only [step] at hstep
    split at hstep <;> cases hstep
    rename_i hi
    exact routed_finish h hi accepts
  | quiesce addresses =>
    cases hstep
    exact routed_quiesce h addresses
  | drain addresses =>
    simp only [step] at hstep
    split at hstep <;> cases hstep
    exact routed_drained h addresses
  | enable =>
    cases hstep
    exact routed_enable h

theorem routed_boot (address : S → A) : (({} : Routing S A V)).Routed address where
  active := rfl
  covers := ⟨List.nodup_nil, List.forall_mem_nil _, fun _ _ => ⟨rfl, List.Sublist.refl _, rfl⟩⟩
  closed := fun _ _ => rfl

/-! ## What a section logs -/

/-- The events a section adds to the log. -/
def Logs (s : Routing S A V) : Section S A V → List (Event (Route S) A V) → Prop
  | .submit source target value _, added =>
    (∃ accepted, added = [.submitted (source, target) ⟨s.nextId, value⟩ accepted]) ∨
      added = [.submitted (source, target) ⟨s.nextId, value⟩ false, .rejected (source, target)]
  | .start _, added => added = []
  | .consume i, added => added = [] ∨ ∃ route call,
    s.jobs[i]? = some ⟨route, .taken (some call)⟩ ∧ added = [.consumed route call]
  | .finish _ accepts, added => added = [] ∨ accepts = false ∧ ∃ route, added = [.rejected route]
  | .quiesce addresses, added => added = [.quiesced addresses]
  | .drain addresses, added => added = [.drained addresses]
  | .enable, added => added = [.enabled]

theorem logs_submit (route : Route S) (value : V) (accepts : Bool) :
    (s.submitRoutedValue address route value accepts).nextId = s.nextId + 1 ∧ ∃ added,
      (s.submitRoutedValue address route value accepts).log = s.log ++ added ∧
      s.Logs (.submit route.1 route.2 value accepts) added := by
  cases hadmits : s.admits address route with
  | false =>
    rw [submit_dropped route value accepts hadmits]
    exact ⟨rfl, _, rfl, Or.inl ⟨false, rfl⟩⟩
  | true =>
    by_cases hkey : route ∈ s.routingPending.keys
    · rw [submit_coalesced route value accepts hadmits hkey]
      exact ⟨rfl, _, rfl, Or.inl ⟨true, rfl⟩⟩
    · cases accepts with
      | true =>
        rw [submit_started route value hadmits hkey]
        exact ⟨rfl, _, rfl, Or.inl ⟨true, rfl⟩⟩
      | false =>
        rw [submit_rejected route value hadmits hkey]
        refine ⟨rfl, _, ?_, Or.inr rfl⟩
        simp [note]

theorem logs_step {a : Section S A V} (hstep : step address s a = some s') :
    ∃ added, s'.log = s.log ++ added ∧ s.Logs a added := by
  cases a with
  | submit source target value accepts =>
    cases hstep
    exact (logs_submit (source, target) value accepts).2
  | start i =>
    simp only [step] at hstep
    split at hstep <;> cases hstep
    refine ⟨[], ?_, rfl⟩
    rw [List.append_nil, startRoute]
    split <;> rfl
  | consume i =>
    simp only [step] at hstep
    split at hstep <;> cases hstep
    rename_i route call hi
    cases call with
    | none => exact ⟨[], (List.append_nil _).symm, Or.inl rfl⟩
    | some call =>
      simp only [executeRoutedCall]
      split
      · exact ⟨_, rfl, Or.inr ⟨route, call, hi, rfl⟩⟩
      · exact ⟨[], (List.append_nil _).symm, Or.inl rfl⟩
  | finish i accepts =>
    simp only [step] at hstep
    split at hstep <;> cases hstep
    rename_i route hi
    unfold finishJob
    simp only
    split
    · exact ⟨[], (List.append_nil _).symm, Or.inl rfl⟩
    · cases accepts with
      | true => exact ⟨[], (List.append_nil _).symm, Or.inl rfl⟩
      | false => exact ⟨_, rfl, Or.inr ⟨rfl, route, rfl⟩⟩
    · exact ⟨[], (List.append_nil _).symm, Or.inl rfl⟩
  | quiesce addresses =>
    cases hstep
    cases addresses <;> exact ⟨_, rfl, rfl⟩
  | drain addresses =>
    simp only [step] at hstep
    split at hstep <;> cases hstep
    exact ⟨_, rfl, rfl⟩
  | enable =>
    cases hstep
    exact ⟨_, rfl, rfl⟩

/-- The sections of a job leave alone what only the others write. -/
theorem job_fields {a : Section S A V} (ha : a.isJob = true) (hstep : step address s a = some s') :
    s'.nextId = s.nextId ∧ s'.routingEnabled = s.routingEnabled ∧
      s'.routingBlockedAddresses = s.routingBlockedAddresses := by
  cases a with
  | start i =>
    simp only [step] at hstep
    split at hstep <;> cases hstep
    unfold startRoute
    split <;> exact ⟨rfl, rfl, rfl⟩
  | consume i =>
    simp only [step] at hstep
    split at hstep <;> cases hstep
    unfold executeRoutedCall
    simp only
    split
    · exact ⟨rfl, rfl, rfl⟩
    · split <;> exact ⟨rfl, rfl, rfl⟩
  | finish i accepts =>
    simp only [step] at hstep
    split at hstep <;> cases hstep
    unfold finishJob
    simp only
    split
    · exact ⟨rfl, rfl, rfl⟩
    · split <;> exact ⟨rfl, rfl, rfl⟩
    · exact ⟨rfl, rfl, rfl⟩
  | submit source target value accepts => cases ha
  | quiesce addresses => cases ha
  | drain addresses => cases ha
  | enable => cases ha

theorem nextId_step {a : Section S A V} (hstep : step address s a = some s') :
    s.nextId ≤ s'.nextId := by
  by_cases ha : a.isJob = true
  · exact (job_fields ha hstep).1.ge
  · cases a with
    | submit source target value accepts =>
      cases hstep
      rw [(logs_submit (source, target) value accepts).1]
      exact Nat.le_succ _
    | quiesce addresses =>
      cases hstep
      cases addresses <;> exact Nat.le_refl _
    | drain addresses =>
      simp only [step] at hstep
      split at hstep <;> cases hstep
      exact Nat.le_refl _
    | enable =>
      cases hstep
      exact Nat.le_refl _
    | start i => exact absurd rfl ha
    | consume i => exact absurd rfl ha
    | finish i accepts => exact absurd rfl ha

/-- The calls of every route stay numbered. -/
theorem numbered_step {a : Section S A V} (h : s.Numbered) (hstep : step address s a = some s') :
    s'.Numbered := by
  obtain ⟨added, hlog, hadded⟩ := logs_step hstep
  intro route
  obtain ⟨hincreasing, hfresh⟩ := h route
  have hsubmitted : submittedOn route s'.log
      = submittedOn route s.log ++ submittedOn route added := by
    rw [hlog]
    exact List.filterMap_append
  -- whatever is added beside a submission submits nothing
  have hkeeps (hnone : submittedOn route added = []) :
      (submittedOn route s'.log).Pairwise (fun a b => a.id < b.id) ∧
        ∀ call ∈ submittedOn route s'.log, call.id < s'.nextId := by
    rw [hsubmitted, hnone, List.append_nil]
    exact ⟨hincreasing, fun call hcall => (hfresh call hcall).trans_le (nextId_step hstep)⟩
  cases a with
  | submit source target value accepts =>
    by_cases hroute : (source, target) = route
    · have hone : submittedOn route added = [⟨s.nextId, value⟩] := by
        rcases hadded with ⟨accepted, rfl⟩ | rfl <;> simp [submittedOn, hroute]
      have hnext : s'.nextId = s.nextId + 1 := by
        cases hstep
        exact (logs_submit (source, target) value accepts).1
      rw [hsubmitted, hone]
      constructor
      · refine List.pairwise_append.mpr ⟨hincreasing, List.pairwise_singleton _ _, ?_⟩
        intro call hcall new hnew
        rw [List.mem_singleton.mp hnew]
        exact hfresh call hcall
      · intro call hcall
        rw [hnext]
        rcases List.mem_append.mp hcall with hold | hnew
        · exact Nat.lt_succ_of_lt (hfresh call hold)
        · rw [List.mem_singleton.mp hnew]
          exact Nat.lt_succ_self _
    · apply hkeeps
      rcases hadded with ⟨accepted, rfl⟩ | rfl <;> simp [submittedOn, hroute]
  | start i =>
    rw [hadded] at hkeeps
    exact hkeeps rfl
  | consume i =>
    apply hkeeps
    rcases hadded with rfl | ⟨r, call, -, rfl⟩ <;> rfl
  | finish i accepts =>
    apply hkeeps
    rcases hadded with rfl | ⟨-, r, rfl⟩ <;> rfl
  | quiesce addresses =>
    rw [hadded] at hkeeps
    exact hkeeps rfl
  | drain addresses =>
    rw [hadded] at hkeeps
    exact hkeeps rfl
  | enable =>
    rw [hadded] at hkeeps
    exact hkeeps rfl

/-! ## Open and closed routes -/

/-- Whether a route is open after a section: only a quiesce and an enable change it. -/
def admitsAfter (address : S → A) (route : Route S) (admitted : Bool) : Section S A V → Bool
  | .quiesce addresses => admitted && !affects address addresses route
  | .enable => true
  | _ => admitted

theorem admits_step {a : Section S A V} (hstep : step address s a = some s') (route : Route S) :
    s'.admits address route = admitsAfter address route (s.admits address route) a := by
  by_cases ha : a.isJob = true
  · obtain ⟨-, henabled, hblocked⟩ := job_fields ha hstep
    have hsame : s'.admits address route = s.admits address route := by
      rw [admits, henabled, hblocked, admits]
    rw [hsame]
    cases a <;> first | rfl | cases ha
  · cases a with
    | submit source target value accepts =>
      cases hstep
      show _ = s.admits address route
      cases hadmits : s.admits address (source, target) with
      | false =>
        rw [submit_dropped _ value accepts hadmits]
        rfl
      | true =>
        by_cases hkey : (source, target) ∈ s.routingPending.keys
        · rw [submit_coalesced _ value accepts hadmits hkey]
          rfl
        · cases accepts with
          | true =>
            rw [submit_started _ value hadmits hkey]
            rfl
          | false =>
            rw [submit_rejected _ value hadmits hkey]
            rfl
    | quiesce addresses =>
      cases hstep
      exact quiesceRouting_admits addresses route
    | drain addresses =>
      simp only [step] at hstep
      split at hstep <;> cases hstep
      rfl
    | enable =>
      cases hstep
      simp [enableRouting, note, admits, touches, admitsAfter]
    | start i => exact absurd rfl ha
    | consume i => exact absurd rfl ha
    | finish i accepts => exact absurd rfl ha

/-! ## A drained route -/

/-- The routes with a job after a section had one before, or are open and get one. -/
theorem routes_step {a : Section S A V} (hstep : step address s a = some s') {route : Route S}
    (hroute : route ∈ s'.jobs.map Job.route) :
    route ∈ s.jobs.map Job.route ∨ s.admits address route = true := by
  have hset {i : Nat} {r : Route S} {phase phase' : Phase V} (hi : s.jobs[i]? = some ⟨r, phase⟩)
      (hmem : route ∈ (s.jobs.set i ⟨r, phase'⟩).map Job.route) : route ∈ s.jobs.map Job.route := by
    obtain ⟨job, hjob, rfl⟩ := List.mem_map.mp hmem
    rcases List.mem_or_eq_of_mem_set hjob with hold | rfl
    · exact List.mem_map_of_mem hold
    · exact List.mem_map.mpr ⟨_, List.mem_of_getElem? hi, rfl⟩
  have herase {i : Nat} (hmem : route ∈ (s.jobs.eraseIdx i).map Job.route) :
      route ∈ s.jobs.map Job.route :=
    ((List.eraseIdx_sublist ..).map Job.route).subset hmem
  cases a with
  | submit source target value accepts =>
    cases hstep
    cases hadmits : s.admits address (source, target) with
    | false =>
      rw [submit_dropped _ value accepts hadmits] at hroute
      exact Or.inl hroute
    | true =>
      by_cases hkey : (source, target) ∈ s.routingPending.keys
      · rw [submit_coalesced _ value accepts hadmits hkey] at hroute
        exact Or.inl hroute
      · cases accepts with
        | true =>
          rw [submit_started _ value hadmits hkey] at hroute
          simp only [note, List.map_append, List.mem_append, List.map_cons, List.map_nil,
            List.mem_singleton] at hroute
          rcases hroute with hold | rfl
          · exact Or.inl hold
          · exact Or.inr hadmits
        | false =>
          rw [submit_rejected _ value hadmits hkey] at hroute
          exact Or.inl hroute
  | start i =>
    simp only [step] at hstep
    split at hstep <;> cases hstep
    rename_i hi
    unfold startRoute at hroute
    split at hroute
    · exact Or.inl (herase hroute)
    · exact Or.inl (hset hi hroute)
  | consume i =>
    simp only [step] at hstep
    split at hstep <;> cases hstep
    rename_i hi
    unfold executeRoutedCall at hroute
    simp only at hroute
    split at hroute
    · exact Or.inl (hset hi hroute)
    · split at hroute <;> exact Or.inl (hset hi hroute)
  | finish i accepts =>
    simp only [step] at hstep
    split at hstep <;> cases hstep
    rename_i r hi
    unfold finishJob at hroute
    simp only at hroute
    split at hroute
    · exact Or.inl (herase hroute)
    · split at hroute
      · simp only [List.map_append, List.mem_append, List.map_cons, List.map_nil,
          List.mem_singleton] at hroute
        rcases hroute with hold | rfl
        · exact Or.inl (herase hold)
        · exact Or.inl (List.mem_map.mpr ⟨_, List.mem_of_getElem? hi, rfl⟩)
      · exact Or.inl (herase hroute)
    · exact Or.inl (herase hroute)
  | quiesce addresses =>
    cases hstep
    cases addresses <;> exact Or.inl hroute
  | drain addresses =>
    simp only [step] at hstep
    split at hstep <;> cases hstep
    exact Or.inl hroute
  | enable =>
    cases hstep
    exact Or.inl hroute

/-- The route is closed and has no job. -/
structure Shut (address : S → A) (s : Routing S A V) (route : Route S) : Prop where
  closed : s.admits address route = false
  idle : route ∉ s.jobs.map Job.route

/-- Until routing is enabled, a shut route stays shut and consumes nothing. -/
theorem Shut.step {a : Section S A V} (h : s.Shut address route) (ha : a ≠ .enable)
    (hstep : step address s a = some s') :
    s'.Shut address route ∧ consumedOn route s'.log = consumedOn route s.log := by
  refine ⟨⟨?_, ?_⟩, ?_⟩
  · rw [admits_step hstep, h.closed]
    cases a <;> first | rfl | exact absurd rfl ha
  · intro hroute
    rcases routes_step hstep hroute with hold | hopen
    · exact h.idle hold
    · rw [h.closed] at hopen
      cases hopen
  · obtain ⟨added, hlog, hadded⟩ := logs_step hstep
    have hnone : consumedOn route added = [] := by
      cases a with
      | submit source target value accepts =>
        rcases hadded with ⟨accepted, rfl⟩ | rfl <;> rfl
      | consume i =>
        rcases hadded with rfl | ⟨r, call, hi, rfl⟩
        · rfl
        · -- the job is of a route that has one
          have hne : r ≠ route := by
            rintro rfl
            exact h.idle (List.mem_map.mpr ⟨_, List.mem_of_getElem? hi, rfl⟩)
          simp [consumedOn, hne]
      | finish i accepts =>
        rcases hadded with rfl | ⟨-, r, rfl⟩ <;> rfl
      | start i => rw [hadded]; rfl
      | quiesce addresses => rw [hadded]; rfl
      | drain addresses => rw [hadded]; rfl
      | enable => rw [hadded]; rfl
    rw [hlog, consumedOn, List.filterMap_append]
    exact (congrArg _ hnone).trans (List.append_nil _)

theorem Shut.exec {sections : List (Section S A V)} (h : s.Shut address route)
    (hsections : ∀ a ∈ sections, a ≠ .enable)
    (hexec : Machine.exec (Routing.step address) s sections = some s') :
    consumedOn route s'.log = consumedOn route s.log := by
  have hend : s'.Shut address route ∧ consumedOn route s'.log = consumedOn route s.log := by
    refine Machine.exec_invariant
      (I := fun r => r.Shut address route ∧ consumedOn route r.log = consumedOn route s.log)
      ⟨h, rfl⟩ (fun a ha r r' hr hbefore => ?_) hexec
    obtain ⟨hshut, hsame⟩ := hbefore.1.step (hsections a ha) hr
    exact ⟨hshut, hsame.trans hbefore.2⟩
  exact hend.2

/-- A route that is closed stays closed until routing is enabled. -/
theorem closed_exec {sections : List (Section S A V)} (h : s.admits address route = false)
    (hsections : ∀ a ∈ sections, a ≠ .enable)
    (hexec : Machine.exec (step address) s sections = some s') :
    s'.admits address route = false := by
  refine Machine.exec_invariant (I := fun r => r.admits address route = false) h
    (fun a hin r r' hr hbefore => ?_) hexec
  have ha : a ≠ .enable := hsections a hin
  rw [admits_step hr, hbefore]
  cases a <;> first | rfl | exact absurd rfl ha

/-- A route that is open stays open until a quiesce is about it. -/
theorem open_exec {sections : List (Section S A V)} (h : s.admits address route = true)
    (hsections : ∀ addresses, .quiesce addresses ∈ sections →
      affects address addresses route = false)
    (hexec : Machine.exec (step address) s sections = some s') :
    s'.admits address route = true := by
  refine Machine.exec_invariant (I := fun r => r.admits address route = true) h
    (fun a hin r r' hr hbefore => ?_) hexec
  rw [admits_step hr, hbefore]
  cases a with
  | quiesce addresses =>
    have hnot := hsections addresses hin
    rw [admitsAfter, hnot]
    rfl
  | _ => rfl

/-- An open route accepts what is submitted on it. -/
theorem submit_accepted (h : s.admits address route = true) (value : V) :
    (s.submitRoutedValue address route value true).log
      = s.log ++ [.submitted route ⟨s.nextId, value⟩ true] := by
  by_cases hkey : route ∈ s.routingPending.keys
  · rw [submit_coalesced route value true h hkey]
    rfl
  · rw [submit_started route value h hkey]
    rfl

/-! ## The jobs run to their end -/

/-- The value a route owes at some point is owed or consumed. -/
def Owed (address : S → A) (s : Routing S A V) (route : Route S) (call : Call V) : Prop :=
  outstanding address route s.log = some call ∨ call ∈ consumedOn route s.log

/-- An accepted section of a job that is rid of a debt has paid it. -/
theorem owed_step {a : Section S A V} {call : Call V} (h : s.Routed address) (hn : s.Numbered)
    (ha : a.isJob = true) (haccepts : ∀ i, a ≠ .finish i false)
    (hstep : step address s a = some s') (howed : s.Owed address route call) :
    s'.Owed address route call := by
  obtain ⟨added, hlog, hadded⟩ := logs_step hstep
  have hsilent (hnil : added = []) : s'.Owed address route call := by
    rw [Owed, hlog, hnil, List.append_nil]
    exact howed
  cases a with
  | start i => exact hsilent hadded
  | consume i =>
    rcases hadded with hnil | ⟨r, taken, hi, rfl⟩
    · exact hsilent hnil
    · have houtstanding : outstanding address route s'.log
          = owe address route (outstanding address route s.log) (.consumed r taken) := by
        rw [hlog, outstanding, List.foldl_append]
        rfl
      have hconsumed : consumedOn route s'.log
          = consumedOn route s.log
            ++ consumedOn route ([.consumed r taken] : List (Event (Route S) A V)) := by
        rw [hlog]
        exact List.filterMap_append
      rcases howed with howed | hpaid
      · by_cases hmatch : r = route ∧ some call.id = some taken.id
        · obtain ⟨rfl, hid⟩ := hmatch
          -- the call owed and the call taken have one id: they are one
          have hbusy := h.covers.busy _ (List.mem_of_getElem? hi)
          rcases hbusy.owed call howed with hslot | ⟨-, htaken⟩
          · have horder := hbusy.order
            rw [hslot] at horder
            have hpair := (hn r).1.sublist horder
            have hlt : taken.id < call.id :=
              (List.pairwise_append.mp hpair).2.2 taken (by simp) call (by simp)
            exact absurd (Option.some.inj hid) (Nat.ne_of_gt hlt)
          · cases htaken
            right
            rw [hconsumed]
            simp [consumedOn]
        · left
          rw [houtstanding, howed, owe, if_neg]
          simpa using hmatch
      · right
        rw [hconsumed]
        exact List.mem_append_left _ hpaid
  | finish i accepts =>
    rcases hadded with hnil | ⟨rfl, -⟩
    · exact hsilent hnil
    · exact absurd rfl (haccepts i)
  | submit source target value accepts => cases ha
  | quiesce addresses => cases ha
  | drain addresses => cases ha
  | enable => cases ha

/-- What a run of the route's job leads to: the route rests, and a call it owed is consumed. -/
structure RunsOut (address : S → A) (s : Routing S A V) (route : Route S) : Prop where
  exec : ∃ (sections : List (Section S A V)) (t : Routing S A V),
    (∀ a ∈ sections, a.isJob = true) ∧ Machine.exec (step address) s sections = some t ∧
    route ∉ t.routingPending.keys ∧
    ∀ call, s.Owed address route call → call ∈ consumedOn route t.log

/-- One more section in front. -/
theorem RunsOut.cons {a : Section S A V} (h : s.Routed address) (hn : s.Numbered)
    (ha : a.isJob = true) (haccepts : ∀ i, a ≠ .finish i false)
    (hstep : step address s a = some s') (hrun : s'.RunsOut address route) :
    s.RunsOut address route := by
  obtain ⟨sections, t, hjobs, hexec, hgone, hpaid⟩ := hrun
  refine ⟨a :: sections, t, ?_, ?_, hgone, ?_⟩
  · intro b hb
    rcases List.mem_cons.mp hb with rfl | hb
    · exact ha
    · exact hjobs b hb
  · rw [Machine.exec_cons, hstep]
    exact hexec
  · exact fun call howed => hpaid call (owed_step h hn ha haccepts hstep howed)

/-- A job at its end whose slot is empty retires the route. -/
theorem runsOut_of_empty (h : s.Routed address) (hn : s.Numbered)
    (hi : s.jobs[i]? = some ⟨route, .executed⟩) (hslot : s.routingPending.get? route = some none) :
    s.RunsOut address route := by
  have hstep : step address s (.finish i true) = some (s.finishJob i route true) := by
    simp only [step, hi]
  have hgone : route ∉ (s.finishJob i route true).routingPending.keys := by
    unfold finishJob
    simp only [hslot, finishRoutedRoute]
    exact fun hmem => (Dict.mem_keys_erase.mp hmem).1 rfl
  refine ⟨[.finish i true], s.finishJob i route true, by simp [Section.isJob], ?_, hgone, ?_⟩
  · rw [Machine.exec_cons, hstep]
    rfl
  · intro call howed
    have hrouted := routed_step h hstep
    rcases owed_step h hn rfl (fun j => by simp) hstep howed with howed' | hpaid
    · have hfree : route ∉ (s.finishJob i route true).jobs.map Job.route :=
        fun hmem => hgone (hrouted.mem_routes_iff.mp hmem)
      have hnone : outstanding address route (s.finishJob i route true).log = none :=
        (hrouted.covers.resting route hfree).owed
      rw [hnone] at howed'
      cases howed'
    · exact hpaid

omit [DecidableEq A] in
/-- A job that consumes what it has taken leaves the slot as it is. -/
theorem execute_fields {call : Option (Call V)} (hi : s.jobs[i]? = some ⟨route, .taken call⟩) :
    (s.executeRoutedCall i route call).jobs[i]? = some ⟨route, .executed⟩ ∧
      (s.executeRoutedCall i route call).routingPending = s.routingPending := by
  obtain ⟨hlt, -⟩ := List.getElem?_eq_some_iff.mp hi
  have hset : (s.jobs.set i ⟨route, .executed⟩)[i]? = some ⟨route, .executed⟩ := by simp [hlt]
  unfold executeRoutedCall
  simp only
  split
  · exact ⟨hset, rfl⟩
  · split <;> exact ⟨hset, rfl⟩

theorem runsOut_of_scheduled (h : s.Routed address) (hn : s.Numbered)
    (hi : s.jobs[i]? = some ⟨route, .scheduled⟩) : s.RunsOut address route := by
  obtain ⟨hlt, -⟩ := List.getElem?_eq_some_iff.mp hi
  have hstart : step address s (.start i) = some (s.startRoute address i route) := by
    simp only [step, hi]
  have hpresent := (h.covers.busy _ (List.mem_of_getElem? hi)).present
  obtain ⟨slot, hslot⟩ := Option.ne_none_iff_exists'.mp hpresent
  have hslot' : s.routingPending.get? route = some slot := hslot
  obtain ⟨call, htaken, hempty⟩ : ∃ call,
      (s.startRoute address i route).jobs[i]? = some ⟨route, .taken call⟩ ∧
        (s.startRoute address i route).routingPending.get? route = some none := by
    unfold startRoute
    simp only [hslot']
    exact ⟨_, List.getElem?_set_self hlt, Dict.get?_set_self _ _ _⟩
  have hrouted := routed_step h hstart
  have hnumbered := numbered_step hn hstart
  refine RunsOut.cons h hn rfl (fun j => by simp) hstart ?_
  have hconsume : step address (s.startRoute address i route) (.consume i)
      = some ((s.startRoute address i route).executeRoutedCall i route call) := by
    simp only [step, htaken]
  obtain ⟨hexecuted, hpending⟩ := execute_fields htaken
  refine RunsOut.cons hrouted hnumbered rfl (fun j => by simp) hconsume ?_
  exact runsOut_of_empty (routed_step hrouted hconsume) (numbered_step hnumbered hconsume) hexecuted
    (by rw [hpending]; exact hempty)

/-- A job at its end whose slot holds a newer value runs once more. -/
theorem runsOut_of_executed (h : s.Routed address) (hn : s.Numbered)
    (hi : s.jobs[i]? = some ⟨route, .executed⟩) : s.RunsOut address route := by
  have hpresent := (h.covers.busy _ (List.mem_of_getElem? hi)).present
  obtain ⟨slot, hslot⟩ := Option.ne_none_iff_exists'.mp hpresent
  have hslot' : s.routingPending.get? route = some slot := hslot
  cases slot with
  | none => exact runsOut_of_empty h hn hi hslot'
  | some call =>
    have hstep : step address s (.finish i true) = some (s.finishJob i route true) := by
      simp only [step, hi]
    have hagain : (s.finishJob i route true).jobs[(s.jobs.eraseIdx i).length]?
        = some ⟨route, .scheduled⟩ := by
      unfold finishJob
      simp [hslot']
    exact RunsOut.cons h hn rfl (fun j => by simp) hstep
      (runsOut_of_scheduled (routed_step h hstep) (numbered_step hn hstep) hagain)

theorem runsOut (h : s.Routed address) (hn : s.Numbered) (hkey : route ∈ s.routingPending.keys) :
    s.RunsOut address route := by
  obtain ⟨⟨_, phase⟩, hjob, rfl⟩ := List.mem_map.mp (h.mem_routes_iff.mpr hkey)
  obtain ⟨i, hi⟩ := List.mem_iff_getElem?.mp hjob
  cases phase with
  | scheduled => exact runsOut_of_scheduled h hn hi
  | taken call =>
    rename_i route
    have hstep : step address s (.consume i) = some (s.executeRoutedCall i route call) := by
      simp only [step, hi]
    exact RunsOut.cons h hn rfl (fun j => by simp) hstep
      (runsOut_of_executed (routed_step h hstep) (numbered_step hn hstep) (execute_fields hi).1)
  | executed => exact runsOut_of_executed h hn hi

end Invariant

/-! ## Every interleaving -/

section Main

variable [DecidableEq S] [DecidableEq A]

/-- What holds of a reachable state, and from it on. -/
structure LatestValue (address : S → A) (s : Routing S A V) : Prop where
  /-- the counter counts the routes -/
  active : s.activeRoutedCalls = s.routingPending.keys.length
  /-- a route has exactly one scheduled or running job, and no job is of anything else -/
  oneJob : ∀ route, (s.jobs.map Job.route).count route
    = if route ∈ s.routingPending.keys then 1 else 0
  /-- a route consumes a subsequence of what is submitted on it, and nothing twice -/
  inOrder : ∀ route, (consumedOn route s.log).Sublist (submittedOn route s.log) ∧
    (submittedOn route s.log).Pairwise fun a b => a.id < b.id
  /-- a route without a job owes nothing -/
  settled : ∀ route, route ∉ s.routingPending.keys → outstanding address route s.log = none
  /-- the job of a route can run to the end, and then what the route owed is consumed -/
  runsOut : ∀ route ∈ s.routingPending.keys, ∃ sections t,
    (∀ a ∈ sections, Section.isJob a = true) ∧
    Machine.exec (step address) s sections = some t ∧ route ∉ t.routingPending.keys ∧
    ∀ call, outstanding address route s.log = some call → call ∈ consumedOn route t.log
  /-- after a quiesce and a drain an affected route consumes nothing until routing is enabled -/
  drained : ∀ route quiesced waited before during r r' t,
    affects address quiesced route = true → affects address waited route = true →
    (∀ a ∈ before, a ≠ .enable) → (∀ a ∈ during, a ≠ .enable) →
    Machine.exec (step address) s (.quiesce quiesced :: before) = some r →
    step address r (.drain waited) = some r' → Machine.exec (step address) r' during = some t →
    consumedOn route t.log = consumedOn route r'.log
  /-- an open route accepts values until a quiesce is about it -/
  accepts : ∀ route sections t, s.admits address route = true →
    (∀ quiesced, .quiesce quiesced ∈ sections → affects address quiesced route = false) →
    Machine.exec (step address) s sections = some t →
    ∀ value, ∃ t' call, step address t (.submit route.1 route.2 value true) = some t' ∧
      t'.log = t.log ++ [.submitted route call true]

theorem Routed.latestValue {address : S → A} {s : Routing S A V} (h : s.Routed address)
    (hn : s.Numbered) : s.LatestValue address where
  active := h.active
  oneJob := by
    intro route
    split
    · rename_i hkey
      exact List.count_eq_one_of_mem h.covers.nodup (h.mem_routes_iff.mpr hkey)
    · rename_i hkey
      exact List.count_eq_zero.mpr fun hroute => hkey (h.mem_routes_iff.mp hroute)
  inOrder := by
    intro route
    refine ⟨?_, (hn route).1⟩
    by_cases hroute : route ∈ s.jobs.map Job.route
    · obtain ⟨job, hjob, rfl⟩ := List.mem_map.mp hroute
      have horder := (h.covers.busy job hjob).order
      exact (List.sublist_append_left _ _).trans ((List.sublist_append_left _ _).trans horder)
    · exact (h.covers.resting route hroute).order
  settled := by
    intro route hkey
    have hroute : route ∉ s.jobs.map Job.route := fun hmem => hkey (h.mem_routes_iff.mp hmem)
    exact (h.covers.resting route hroute).owed
  runsOut := by
    intro route hkey
    obtain ⟨sections, t, hjobs, hexec, hgone, hpaid⟩ := (Routing.runsOut h hn hkey).exec
    exact ⟨sections, t, hjobs, hexec, hgone, fun call howed => hpaid call (Or.inl howed)⟩
  drained := by
    intro route quiesced waited before during r r' t hquiesced hwaited hbefore hduring hexec hdrain
      hrest
    have hrouted : r.Routed address :=
      (Machine.reach_of_exec _ hexec).invariant h fun _ _ _ _ hstep hr => routed_step hr hstep
    obtain ⟨q, hq, hfrom⟩ := Option.bind_eq_some_iff.mp hexec
    have hclosed : q.admits address route = false := by
      rw [admits_step hq, admitsAfter, hquiesced]
      simp
    -- the drain returns, so no route it waits for has a job
    have hdrained := hdrain
    simp only [step] at hdrained
    split at hdrained <;> cases hdrained
    rename_i hdone
    have hstill : r.admits address route = false := closed_exec hclosed hbefore hfrom
    have hshut : (r.note (.drained waited)).Shut address route := by
      refine ⟨hstill, fun hroute => ?_⟩
      have hkey := hrouted.mem_routes_iff.mp hroute
      have hany : r.routingPending.keys.any (affects address waited) = true :=
        List.any_eq_true.mpr ⟨route, hkey, hwaited⟩
      rw [isDrained, hany] at hdone
      cases hdone
    exact hshut.exec hduring hrest
  accepts := by
    intro route sections t hopen hsections hexec value
    exact ⟨_, _, rfl, submit_accepted (open_exec hopen hsections hexec) value⟩

/-- **Latest-value routing.** Whatever sections the threads take, one after another. -/
theorem latest_value_routing (address : S → A) (sections : List (Section S A V))
    {s : Routing S A V} (hexec : Machine.exec (step address) {} sections = some s) :
    s.LatestValue address := by
  have hboth : s.Routed address ∧ s.Numbered :=
    (Machine.reach_of_exec sections hexec).invariant
      (I := fun r => r.Routed address ∧ r.Numbered)
      ⟨routed_boot address, fun _ => ⟨List.Pairwise.nil, List.forall_mem_nil _⟩⟩
      fun _ _ _ _ hstep hr => ⟨routed_step hr.1 hstep, numbered_step hr.2 hstep⟩
  exact hboth.1.latestValue hboth.2

/-- A value is taken, a newer one replaces a new one, and the job runs again. -/
def coalescing : List (Section Nat Nat String) :=
  [.enable, .submit 1 2 "a" true, .start 0, .submit 1 2 "b" true, .submit 1 2 "c" true,
    .consume 0, .finish 0 true, .start 0, .consume 0, .quiesce (some {3})]

theorem latest_value_routing_coalescing :
    ∃ s, Machine.exec (step id) {} coalescing = some s ∧ s.LatestValue id := by
  obtain ⟨s, hs⟩ : ∃ s, Machine.exec (step id) {} coalescing = some s := ⟨_, rfl⟩
  exact ⟨s, hs, latest_value_routing id coalescing hs⟩

end Main

end Routing

end NexusN3.Sensors
