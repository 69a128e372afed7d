import Mathlib.Data.Finset.Basic
import NexusN3.Lib.Dict
import NexusN3.Lib.Transcript
import NexusN3.Lib.Unwinding

/-!
# The adapters that a sensor manager owns

A pool creates an adapter for each type, retires those of an old configuration, and shuts them down.
What has been initialized or shut down is kept by the identity of the object, which is free again
once the pool has let go of it.

* **`AdapterPool`** — the pool; **`attempt`** is the loop of its cleanups.
* **`World`** — a pool with all that it has created and called.
* **`Cleaned`** — a world after a cleanup.
* **`Tracked`** — what holds in every world; `Tracked.step` is the step.
-/

namespace NexusN3.Sensors.Pool

open Lib

/-- An adapter object: the how-manieth created it is, its `id()`, and the methods that it has. -/
structure Adapter where
  serial : Nat
  address : Nat
  hasInitialize : Bool
  hasShutdown : Bool
  hasClose : Bool
  deriving DecidableEq

/-- There is something to call for its shutdown. -/
def Adapter.needsShutdown (a : Adapter) : Bool := a.hasShutdown || a.hasClose

inductive Event where
  | initialized (adapter : Adapter) (succeeded : Bool)
  /-- `shutdown` or `close`; where there is neither, there is nothing to fail. -/
  | shutdown (adapter : Adapter) (succeeded : Bool)
  deriving DecidableEq

structure AdapterPool where
  adapters : Dict String Adapter
  /-- `_retired_adapters` -/
  retired : List Adapter
  /-- `_initialized_adapter_ids` -/
  initializedIds : Finset Nat
  /-- `_shutdown_adapter_ids` -/
  shutdownIds : Finset Nat

namespace AdapterPool

/-- The active and the retired adapters. -/
def owned (pool : AdapterPool) : List Adapter := pool.retired ++ pool.adapters.values

/-- How a loop over adapters treats each of them. -/
structure Treatment where
  /-- adapters that have been shut down are left out -/
  checked : Bool
  /-- the loop has nothing to call for the adapter -/
  passes : Adapter → Bool
  succeeds : Adapter → Bool
  /-- the adapter counts as shut down afterwards -/
  marks : Adapter → Bool

def Treatment.tries (t : Treatment) (pool : AdapterPool) (a : Adapter) : Bool :=
  !t.passes a && !(t.checked && decide (a.address ∈ pool.shutdownIds))

/-- `_initialized_adapter_ids.discard` and `_shutdown_adapter_ids.add`. -/
def ended (pool : AdapterPool) (a : Adapter) (marked : Bool) : AdapterPool :=
  { pool with
    initializedIds := pool.initializedIds.erase a.address
    shutdownIds := if marked then insert a.address pool.shutdownIds else pool.shutdownIds }

/-- The loop of a cleanup. -/
def attempt (t : Treatment) : AdapterPool → List Adapter → AdapterPool × List Event
  | pool, [] => (pool, [])
  | pool, a :: rest =>
    if t.tries pool a then
      let (pool, events) := attempt t (pool.ended a (t.marks a)) rest
      (pool, .shutdown a (t.succeeds a) :: events)
    else attempt t pool rest

/-- `_shutdown_adapters`: `shutdown`, or else `close`. -/
def shutting (raises : Adapter → Bool) : Treatment where
  checked := true
  passes := fun _ => false
  succeeds := fun a => !(a.needsShutdown && raises a)
  marks := fun a => !(a.needsShutdown && raises a)

/-- The loop of `close_all`. -/
def closing (raises : Adapter → Bool) : Treatment where
  checked := true
  passes := fun a => !a.hasClose
  succeeds := fun a => !raises a
  marks := fun _ => true

/-- The loop of `reset`, for the adapters that have a `close` only. -/
def dropping (raises : Adapter → Bool) : Treatment where
  checked := false
  passes := fun a => a.hasShutdown || !a.hasClose
  succeeds := fun a => !raises a
  marks := fun _ => true

/-- `reset`. -/
def reset (pool : AdapterPool) (preserveTypes : List String) (raises : Adapter → Bool) :
    AdapterPool × List Event :=
  let dropped := (pool.adapters.entries.filter fun e => e.1 ∉ preserveTypes).map Prod.snd
  let (after, events) := attempt (dropping raises) pool dropped
  ({ after with
    adapters := pool.adapters.restrict fun key => decide (key ∈ preserveTypes)
    retired := pool.retired ++ dropped.filter Adapter.hasShutdown }, events)

def Event.failed : Event → Bool
  | .initialized _ succeeded => !succeeded
  | .shutdown _ succeeded => !succeeded

/-- `_shutdown_retired`. -/
def shutdownRetired (pool : AdapterPool) (raises : Adapter → Bool) : AdapterPool × List Event :=
  attempt (shutting raises) { pool with retired := [] } pool.retired.reverse

/-- `shutdown_all`: an error of a retired adapter ends it. -/
def shutdownAll (pool : AdapterPool) (raises : Adapter → Bool) : AdapterPool × List Event :=
  let (pool, retired) := pool.shutdownRetired raises
  if retired.any Event.failed then (pool, retired)
  else
    let (pool, active) := attempt (shutting raises) pool pool.adapters.values.reverse
    (pool, retired ++ active)

/-- The loop of `initialize_all`. -/
def initializeActive (raises : Adapter → Bool) :
    AdapterPool → List Adapter → AdapterPool × List Event
  | pool, [] => (pool, [])
  | pool, a :: rest =>
    if a.address ∈ pool.initializedIds then initializeActive raises pool rest
    else if a.hasInitialize = true ∧ raises a = true then (pool, [.initialized a false])
    else
      let (after, events) := initializeActive raises
        { pool with initializedIds := insert a.address pool.initializedIds } rest
      (after, if a.hasInitialize then .initialized a true :: events else events)

/-- `initialize_all`. -/
def initializeAll (pool : AdapterPool) (raisesShutdown raisesInitialize : Adapter → Bool) :
    AdapterPool × List Event :=
  let (pool, retired) := pool.shutdownRetired raisesShutdown
  if retired.any Event.failed then (pool, retired)
  else
    let (pool, active) := initializeActive raisesInitialize pool pool.adapters.values
    (pool, retired ++ active)

/-- `close_all`. -/
def closeAll (pool : AdapterPool) (raises : Adapter → Bool) : AdapterPool × List Event :=
  attempt (closing raises) { pool with retired := [] } pool.owned

end AdapterPool

/-! ## Worlds -/

inductive Action where
  /-- `get_or_create`; `made` is the new object, `none` where it cannot be made. -/
  | getOrCreate (key : String) (made : Option Adapter)
  | reset (preserveTypes : List String) (raises : Adapter → Bool)
  | initializeAll (raisesShutdown raisesInitialize : Adapter → Bool)
  | shutdownAll (raises : Adapter → Bool)
  | closeAll (raises : Adapter → Bool)

structure World where
  pool : AdapterPool
  /-- every adapter created, the latest last -/
  created : List Adapter
  events : List Event
  /-- Adapters owned when a `shutdown_all` began and not shut down by then that it did not attempt.
  -/
  missed : List Adapter

/-- The shutdown of the adapter has succeeded. -/
def ShutDown (events : List Event) (a : Adapter) : Prop := Event.shutdown a true ∈ events

instance (events : List Event) (a : Adapter) : Decidable (ShutDown events a) :=
  inferInstanceAs (Decidable (_ ∈ _))

def attempted (events : List Event) (a : Adapter) : Bool :=
  decide (Event.shutdown a true ∈ events) || decide (Event.shutdown a false ∈ events)

def World.next (w : World) (result : AdapterPool × List Event) : World :=
  { w with pool := result.1, events := w.events ++ result.2 }

/-- `get_or_create`. Only the identity of an object that the pool does not own is free. -/
def World.getOrCreate (w : World) (key : String) (made : Option Adapter) : Option World :=
  match w.pool.adapters.get? key, made with
  | some _, _ => some w
  | none, none => some w
  | none, some made =>
    if made.address ∈ w.pool.owned.map Adapter.address then none
    else
      let a := { made with serial := w.created.length }
      some { w with
        pool := { w.pool with
          adapters := w.pool.adapters.set key a
          shutdownIds := w.pool.shutdownIds.erase a.address }
        created := w.created ++ [a] }

def step : Machine World Action
  | w, .getOrCreate key made => w.getOrCreate key made
  | w, .reset preserveTypes raises => some (w.next (w.pool.reset preserveTypes raises))
  | w, .initializeAll raisesShutdown raisesInitialize =>
    some (w.next (w.pool.initializeAll raisesShutdown raisesInitialize))
  | w, .shutdownAll raises =>
    let result := w.pool.shutdownAll raises
    some { w.next result with
      missed := w.missed ++ w.pool.owned.filter fun a =>
        !decide (ShutDown w.events a) && !attempted result.2 a }
  | w, .closeAll raises => some (w.next (w.pool.closeAll raises))

def init : World where
  pool := ⟨Dict.empty, [], ∅, ∅⟩
  created := []
  events := []
  missed := []

/-- Whether the adapter has been initialized and not been shut down since, with or without success.
-/
def running (a : Adapter) (events : List Event) : Bool :=
  events.foldl (fun r e =>
    match e with
    | .initialized b succeeded => if b = a ∧ succeeded = true then true else r
    | .shutdown b _ => if b = a then false else r) false

/-! ## The loop of a cleanup -/

/-- The adapters that a loop attempts. -/
def tried (t : AdapterPool.Treatment) (pool : AdapterPool) (as : List Adapter) : List Adapter :=
  as.filter (t.tries pool)

def shutdownEvent (t : AdapterPool.Treatment) (a : Adapter) : Event := .shutdown a (t.succeeds a)

/-- What a loop leaves, over objects with distinct identities. -/
structure Attempted (t : AdapterPool.Treatment) (pool : AdapterPool) (as : List Adapter)
    (result : AdapterPool × List Event) : Prop where
  events : result.2 = (tried t pool as).map (shutdownEvent t)
  adapters : result.1.adapters = pool.adapters
  retired : result.1.retired = pool.retired
  shutdownIds : ∀ x, x ∈ result.1.shutdownIds ↔
    x ∈ pool.shutdownIds ∨ ∃ a ∈ tried t pool as, t.marks a = true ∧ a.address = x
  initializedIds : ∀ x, x ∈ result.1.initializedIds ↔
    x ∈ pool.initializedIds ∧ ∀ a ∈ tried t pool as, a.address ≠ x

theorem Attempted.owned {t : AdapterPool.Treatment} {pool : AdapterPool} {as : List Adapter}
    {result : AdapterPool × List Event} (h : Attempted t pool as result) :
    result.1.owned = pool.owned := by
  unfold AdapterPool.owned
  rw [h.retired, h.adapters]

theorem tries_ended {t : AdapterPool.Treatment} {pool : AdapterPool} {a b : Adapter}
    (hne : a.address ≠ b.address) (marked : Bool) :
    t.tries (pool.ended a marked) b = t.tries pool b := by
  unfold AdapterPool.Treatment.tries AdapterPool.ended
  cases marked with
  | false => rfl
  | true =>
    have hmem : b.address ∈ insert a.address pool.shutdownIds ↔ b.address ∈ pool.shutdownIds := by
      rw [Finset.mem_insert, or_iff_right (Ne.symm hne)]
    simp only [if_true, hmem]

theorem attempted_attempt {t : AdapterPool.Treatment} {pool : AdapterPool} {as : List Adapter}
    (hnodup : (as.map Adapter.address).Nodup) : Attempted t pool as (pool.attempt t as) := by
  induction as generalizing pool with
  | nil => exact ⟨rfl, rfl, rfl, fun x => by simp [tried, AdapterPool.attempt],
      fun x => by simp [tried, AdapterPool.attempt]⟩
  | cons a as ih =>
    rw [List.map_cons, List.nodup_cons] at hnodup
    obtain ⟨hnotin, hrest⟩ := hnodup
    unfold AdapterPool.attempt
    by_cases htries : t.tries pool a = true
    · have hsame : tried t (pool.ended a (t.marks a)) as = tried t pool as := by
        apply List.filter_congr
        intro b hb
        have hne : a.address ≠ b.address := fun heq => hnotin (heq ▸ List.mem_map_of_mem hb)
        exact tries_ended hne _
      have hcons : tried t pool (a :: as) = a :: tried t pool as := List.filter_cons_of_pos htries
      obtain ⟨hevents, hadapters, hretired, hshutdown, hinitialized⟩ :=
        @ih (pool.ended a (t.marks a)) hrest
      rw [if_pos htries]
      rw [hsame] at hevents hshutdown hinitialized
      refine ⟨?_, hadapters, hretired, fun x => ?_, fun x => ?_⟩
      · rw [hcons, List.map_cons, ← hevents]
        rfl
      · rw [hcons, hshutdown, List.exists_mem_cons_iff]
        unfold AdapterPool.ended
        cases t.marks a with
        | false => simp
        | true =>
          simp only [if_true, Finset.mem_insert, true_and]
          tauto
      · rw [hcons, hinitialized, List.forall_mem_cons]
        unfold AdapterPool.ended
        rw [Finset.mem_erase]
        tauto
    · have hcons : tried t pool (a :: as) = tried t pool as := List.filter_cons_of_neg htries
      rw [if_neg htries]
      obtain ⟨hevents, hadapters, hretired, hshutdown, hinitialized⟩ := @ih pool hrest
      exact ⟨hcons ▸ hevents, hadapters, hretired, hcons ▸ hshutdown, hcons ▸ hinitialized⟩

/-! ## What holds in every world -/

def World.marked (w : World) (a : Adapter) : Prop := a.address ∈ w.pool.shutdownIds

structure Tracked (w : World) : Prop where
  created : ∀ a ∈ w.pool.owned, a ∈ w.created
  distinct : (w.pool.owned.map Adapter.address).Nodup
  serials : ∀ a ∈ w.created, a.serial < w.created.length
  known : ∀ a, (∃ succeeded, Event.shutdown a succeeded ∈ w.events) ∨
    (∃ succeeded, Event.initialized a succeeded ∈ w.events) → a ∈ w.created
  marked : ∀ a ∈ w.pool.owned, ShutDown w.events a → w.marked a
  initialized : ∀ a ∈ w.pool.owned, running a w.events = true → a.address ∈ w.pool.initializedIds
  between : Justified (fun before e => ∀ a, e = .initialized a true → running a before = false)
    w.events
  /-- An adapter with nothing to call is marked only when that has been found out. -/
  idle : ∀ a ∈ w.pool.owned, a.needsShutdown = false → w.marked a → ShutDown w.events a
  retired : ∀ a ∈ w.pool.retired, a.hasShutdown = true

section Running

variable {a : Adapter} {events : List Event}

theorem running_append (more : List Event) : running a (events ++ more) =
    more.foldl (fun r e =>
      match e with
      | .initialized b succeeded => if b = a ∧ succeeded = true then true else r
      | .shutdown b _ => if b = a then false else r) (running a events) :=
  List.foldl_append

@[simp] theorem running_snoc_initialized (b : Adapter) (succeeded : Bool) :
    running a (events ++ [.initialized b succeeded]) =
      if b = a ∧ succeeded = true then true else running a events := running_append _

@[simp] theorem running_snoc_shutdown (b : Adapter) (succeeded : Bool) :
    running a (events ++ [.shutdown b succeeded]) = if b = a then false else running a events :=
  running_append _

/-- What the loop of a cleanup has attempted does not run, and nothing else changes. -/
theorem running_append_shutdowns (t : AdapterPool.Treatment) (as : List Adapter) :
    running a (events ++ as.map (shutdownEvent t)) =
      if a ∈ as then false else running a events := by
  induction as using List.reverseRecOn with
  | nil => simp
  | append_singleton as b ih =>
    rw [List.map_append, ← List.append_assoc, List.map_singleton]
    show running a (_ ++ [.shutdown b (t.succeeds b)]) = _
    rw [running_snoc_shutdown, ih]
    simp only [List.mem_append, List.mem_singleton]
    by_cases hb : b = a
    · rw [if_pos hb, if_pos (Or.inr hb.symm)]
    · rw [if_neg hb]
      simp only [or_iff_left (Ne.symm hb)]

theorem between_append_shutdowns (t : AdapterPool.Treatment) (as : List Adapter)
    (h : Justified (fun before e => ∀ a, e = .initialized a true → running a before = false)
      events) :
    Justified (fun before e => ∀ a, e = .initialized a true → running a before = false)
      (events ++ as.map (shutdownEvent t)) := by
  induction as using List.reverseRecOn with
  | nil => simpa using h
  | append_singleton as b ih =>
    rw [List.map_append, ← List.append_assoc]
    exact justified_snoc.mpr ⟨ih, nofun⟩

/-- An adapter that no event is about does not run. -/
theorem not_running (h : ∀ succeeded, Event.initialized a succeeded ∉ events) :
    running a events = false := by
  induction events using List.reverseRecOn with
  | nil => rfl
  | append_singleton events e ih =>
    have hearlier := ih fun succeeded hin => h succeeded (List.mem_append_left _ hin)
    cases e with
    | initialized b succeeded =>
      rw [running_snoc_initialized, if_neg, hearlier]
      rintro ⟨rfl, -⟩
      exact h succeeded (by simp)
    | shutdown b succeeded =>
      rw [running_snoc_shutdown, hearlier]
      split
      · rfl
      · rfl

end Running

theorem shutDown_append_shutdowns {t : AdapterPool.Treatment} {events : List Event}
    {as : List Adapter} {a : Adapter} : ShutDown (events ++ as.map (shutdownEvent t)) a ↔
      ShutDown events a ∨ a ∈ as ∧ t.succeeds a = true := by
  unfold ShutDown
  rw [List.mem_append, List.mem_map]
  apply or_congr_right
  constructor
  · rintro ⟨b, hb, heq⟩
    obtain ⟨rfl, hsucceeds⟩ := Event.shutdown.inj heq
    exact ⟨hb, hsucceeds⟩
  · rintro ⟨ha, hsucceeds⟩
    exact ⟨a, ha, by rw [shutdownEvent, hsucceeds]⟩

theorem Tracked.eq_of_address {w : World} (h : Tracked w) {a b : Adapter} (ha : a ∈ w.pool.owned)
    (hb : b ∈ w.pool.owned) (heq : a.address = b.address) : a = b :=
  List.inj_on_of_nodup_map h.distinct ha hb heq

/-- A world after a cleanup of some of its adapters: nothing is owned that was not. -/
structure Cleaned (t : AdapterPool.Treatment) (as : List Adapter) (w w' : World) : Prop where
  attempts : ∀ a ∈ as, a ∈ w.pool.owned
  owned : ∀ a ∈ w'.pool.owned, a ∈ w.pool.owned
  distinct : (w'.pool.owned.map Adapter.address).Nodup
  retired : ∀ a ∈ w'.pool.retired, a.hasShutdown = true
  created : w'.created = w.created
  events : w'.events = w.events ++ (tried t w.pool as).map (shutdownEvent t)
  shutdownIds : ∀ x, x ∈ w'.pool.shutdownIds ↔
    x ∈ w.pool.shutdownIds ∨ ∃ a ∈ tried t w.pool as, t.marks a = true ∧ a.address = x
  initializedIds : ∀ x, x ∈ w'.pool.initializedIds ↔
    x ∈ w.pool.initializedIds ∧ ∀ a ∈ tried t w.pool as, a.address ≠ x

/-- Success counts as shut down, and so does only what had something to call. -/
structure AdapterPool.Treatment.Plain (t : AdapterPool.Treatment) : Prop where
  success : ∀ a, t.succeeds a = true → t.marks a = true
  failure : ∀ a, t.passes a = false → t.marks a = true → a.needsShutdown = false →
    t.succeeds a = true

theorem plain_shutting (raises : Adapter → Bool) : (AdapterPool.shutting raises).Plain :=
  ⟨fun _ => id, fun _ _ hmarks _ => hmarks⟩

theorem plain_closing (raises : Adapter → Bool) : (AdapterPool.closing raises).Plain := by
  refine ⟨fun _ _ => rfl, fun a hpasses _ hneeds => ?_⟩
  have hclose : a.hasClose = true := by simpa [AdapterPool.closing] using hpasses
  simp [Adapter.needsShutdown, hclose] at hneeds

theorem plain_dropping (raises : Adapter → Bool) : (AdapterPool.dropping raises).Plain := by
  refine ⟨fun _ _ => rfl, fun a hpasses _ hneeds => ?_⟩
  have hclose : a.hasShutdown = false ∧ a.hasClose = true := by
    simpa [AdapterPool.dropping] using hpasses
  simp [Adapter.needsShutdown, hclose.2] at hneeds

section Cleanup

variable {t : AdapterPool.Treatment} {as : List Adapter} {w w' : World}

theorem mem_tried {pool : AdapterPool} {a : Adapter} :
    a ∈ tried t pool as ↔ a ∈ as ∧ t.tries pool a = true := List.mem_filter

theorem Cleaned.tried_owned (hcleaned : Cleaned t as w w') {a : Adapter}
    (ha : a ∈ tried t w.pool as) : a ∈ w.pool.owned :=
  hcleaned.attempts a (mem_tried.mp ha).1

theorem Cleaned.shutDown_iff (hcleaned : Cleaned t as w w') (a : Adapter) :
    ShutDown w'.events a ↔ ShutDown w.events a ∨ a ∈ tried t w.pool as ∧ t.succeeds a = true := by
  rw [hcleaned.events, shutDown_append_shutdowns]

theorem Cleaned.marked_iff (hcleaned : Cleaned t as w w') (h : Tracked w) {a : Adapter}
    (ha : a ∈ w.pool.owned) :
    w'.marked a ↔ w.marked a ∨ a ∈ tried t w.pool as ∧ t.marks a = true := by
  unfold World.marked
  rw [hcleaned.shutdownIds]
  apply or_congr_right
  constructor
  · rintro ⟨b, hb, hmarks, heq⟩
    obtain rfl := h.eq_of_address (hcleaned.tried_owned hb) ha heq
    exact ⟨hb, hmarks⟩
  · rintro ⟨hin, hmarks⟩
    exact ⟨a, hin, hmarks, rfl⟩

/-- The step lemma for the cleanups. -/
theorem Tracked.cleaned (h : Tracked w) (hplain : t.Plain) (hcleaned : Cleaned t as w w') :
    Tracked w' where
  created a ha := hcleaned.created ▸ h.created a (hcleaned.owned a ha)
  distinct := hcleaned.distinct
  serials := hcleaned.created ▸ h.serials
  known a ha := by
    rw [hcleaned.created]
    simp only [hcleaned.events, List.mem_append, List.mem_map] at ha
    rcases ha with ⟨succeeded, hold | ⟨b, hb, heq⟩⟩ | ⟨succeeded, hold | ⟨b, hb, heq⟩⟩
    · exact h.known a (.inl ⟨succeeded, hold⟩)
    · obtain ⟨rfl, -⟩ := Event.shutdown.inj heq
      exact h.created b (hcleaned.tried_owned hb)
    · exact h.known a (.inr ⟨succeeded, hold⟩)
    · cases heq
  marked a ha hshut := by
    rw [hcleaned.marked_iff h (hcleaned.owned a ha)]
    rcases (hcleaned.shutDown_iff a).mp hshut with hold | ⟨hin, hsucceeds⟩
    · exact .inl (h.marked a (hcleaned.owned a ha) hold)
    · exact .inr ⟨hin, hplain.success a hsucceeds⟩
  initialized a ha hrunning := by
    rw [hcleaned.events, running_append_shutdowns] at hrunning
    split at hrunning
    · cases hrunning
    · rename_i hnotin
      rw [hcleaned.initializedIds]
      refine ⟨h.initialized a (hcleaned.owned a ha) hrunning, fun b hb heq => hnotin ?_⟩
      rwa [← h.eq_of_address (hcleaned.tried_owned hb) (hcleaned.owned a ha) heq]
  between := hcleaned.events ▸ between_append_shutdowns t _ h.between
  idle a ha hneeds hmarked := by
    rw [hcleaned.shutDown_iff]
    rcases (hcleaned.marked_iff h (hcleaned.owned a ha)).mp hmarked with hold | ⟨hin, hmarks⟩
    · exact .inl (h.idle a (hcleaned.owned a ha) hneeds hold)
    · refine .inr ⟨hin, hplain.failure a ?_ hmarks hneeds⟩
      have htries := (mem_tried.mp hin).2
      unfold AdapterPool.Treatment.tries at htries
      simpa using (Bool.and_eq_true _ _).mp htries |>.1
  retired := hcleaned.retired

end Cleanup

/-! ## The steps -/

section Steps

variable {w : World}

theorem owned_nodup (h : Tracked w) : w.pool.owned.Nodup := List.Nodup.of_map _ h.distinct

/-- The adapters that a reset lets go of. -/
def droppedBy (pool : AdapterPool) (preserveTypes : List String) : List Adapter :=
  (pool.adapters.entries.filter fun e => e.1 ∉ preserveTypes).map Prod.snd

theorem mem_droppedBy {pool : AdapterPool} {preserveTypes : List String} {a : Adapter} :
    a ∈ droppedBy pool preserveTypes ↔
      ∃ e ∈ pool.adapters.entries, e.1 ∉ preserveTypes ∧ e.2 = a := by
  simp [droppedBy, and_assoc]

theorem droppedBy_owned {pool : AdapterPool} {preserveTypes : List String} {a : Adapter}
    (ha : a ∈ droppedBy pool preserveTypes) : a ∈ pool.owned := by
  obtain ⟨e, he, -, rfl⟩ := mem_droppedBy.mp ha
  exact List.mem_append_right _ (Dict.mem_values_iff.mpr ⟨e.1, he⟩)

/-- Those dropped and those preserved are the active ones. -/
theorem droppedBy_perm (pool : AdapterPool) (preserveTypes : List String) :
    (droppedBy pool preserveTypes ++
      (pool.adapters.restrict fun key => decide (key ∈ preserveTypes)).values).Perm
        pool.adapters.values := by
  unfold droppedBy Dict.values Dict.restrict
  rw [← List.map_append]
  apply List.Perm.map
  have hsplit := List.filter_append_perm (fun e : String × Adapter => decide (e.1 ∈ preserveTypes))
    pool.adapters.entries
  refine List.perm_append_comm.trans (.trans ?_ hsplit)
  apply List.Perm.append_left
  apply List.Perm.of_eq
  apply List.filter_congr
  intro e _
  simp

theorem Tracked.nodup_split (h : Tracked w) : (w.pool.retired.map Adapter.address).Nodup ∧
    (w.pool.adapters.values.map Adapter.address).Nodup := by
  have hdistinct := h.distinct
  unfold AdapterPool.owned at hdistinct
  rw [List.map_append] at hdistinct
  exact ⟨(List.nodup_append.mp hdistinct).1, (List.nodup_append.mp hdistinct).2.1⟩

theorem cleaned_reset (h : Tracked w) (preserveTypes : List String) (raises : Adapter → Bool) :
    Cleaned (AdapterPool.dropping raises) (droppedBy w.pool preserveTypes) w
      (w.next (w.pool.reset preserveTypes raises)) := by
  have hperm := droppedBy_perm w.pool preserveTypes
  have hnodup : ((droppedBy w.pool preserveTypes).map Adapter.address).Nodup := by
    have hvalues := (hperm.map Adapter.address).nodup_iff.mpr h.nodup_split.2
    rw [List.map_append] at hvalues
    exact (List.nodup_append.mp hvalues).1
  have hrun := @attempted_attempt (AdapterPool.dropping raises) w.pool _ hnodup
  have hsub : List.Sublist (w.next (w.pool.reset preserveTypes raises)).pool.owned
      (w.pool.retired ++ (droppedBy w.pool preserveTypes ++
        (w.pool.adapters.restrict fun key => decide (key ∈ preserveTypes)).values)) := by
    show List.Sublist ((w.pool.retired ++ (droppedBy w.pool preserveTypes).filter _) ++ _) _
    rw [List.append_assoc]
    exact (List.filter_sublist.append_right _).append_left _
  have hall := hperm.append_left w.pool.retired
  refine ⟨fun a => droppedBy_owned, fun a ha => hall.mem_iff.mp (hsub.subset ha), ?_, ?_, rfl,
    ?_, hrun.shutdownIds, hrun.initializedIds⟩
  · exact ((hall.map Adapter.address).nodup_iff.mpr h.distinct).sublist (hsub.map _)
  · intro a ha
    rcases List.mem_append.mp ha with hold | hnew
    · exact h.retired a hold
    · exact List.of_mem_filter hnew
  · exact congrArg (w.events ++ ·) hrun.events

/-- A loop over some of the adapters, with those of the retired that are kept. -/
theorem cleaned_attempt (h : Tracked w) (t : AdapterPool.Treatment) {kept as : List Adapter}
    (hkept : List.Sublist kept w.pool.retired) (howned : ∀ a ∈ as, a ∈ w.pool.owned)
    (hnodup : (as.map Adapter.address).Nodup) :
    Cleaned t as w (w.next (AdapterPool.attempt t { w.pool with retired := kept } as)) := by
  have hrun := @attempted_attempt t { w.pool with retired := kept } as hnodup
  have hafter : (w.next (AdapterPool.attempt t { w.pool with retired := kept } as)).pool.owned
      = kept ++ w.pool.adapters.values := hrun.owned
  have hretired : (w.next (AdapterPool.attempt t { w.pool with retired := kept } as)).pool.retired
      = kept := hrun.retired
  have hsub : List.Sublist (kept ++ w.pool.adapters.values) w.pool.owned := hkept.append_right _
  refine ⟨howned, ?_, ?_, fun a ha => h.retired a (hkept.subset (hretired ▸ ha)), rfl,
    congrArg (w.events ++ ·) hrun.events, hrun.shutdownIds, hrun.initializedIds⟩
  · intro a ha
    rw [hafter] at ha
    exact hsub.subset ha
  · rw [hafter]
    exact h.distinct.sublist (hsub.map _)

theorem cleaned_retired (h : Tracked w) (raises : Adapter → Bool) :
    Cleaned (AdapterPool.shutting raises) w.pool.retired.reverse w
      (w.next (w.pool.shutdownRetired raises)) := by
  apply cleaned_attempt h _ (List.nil_sublist _)
  · exact fun a ha => List.mem_append_left _ (List.mem_reverse.mp ha)
  · rw [List.map_reverse, List.nodup_reverse]
    exact h.nodup_split.1

theorem cleaned_active (h : Tracked w) (raises : Adapter → Bool) :
    Cleaned (AdapterPool.shutting raises) w.pool.adapters.values.reverse w
      (w.next (w.pool.attempt (AdapterPool.shutting raises) w.pool.adapters.values.reverse)) := by
  apply cleaned_attempt h _ (List.Sublist.refl _)
  · exact fun a ha => List.mem_append_right _ (List.mem_reverse.mp ha)
  · rw [List.map_reverse, List.nodup_reverse]
    exact h.nodup_split.2

theorem cleaned_closeAll (h : Tracked w) (raises : Adapter → Bool) :
    Cleaned (AdapterPool.closing raises) w.pool.owned w (w.next (w.pool.closeAll raises)) :=
  cleaned_attempt h _ (List.nil_sublist _) (fun _ => id) h.distinct

/-- More adapters may count as initialized. -/
theorem Tracked.widen (h : Tracked w) {ids : Finset Nat} (hids : w.pool.initializedIds ⊆ ids) :
    Tracked { w with pool := { w.pool with initializedIds := ids } } :=
  ⟨h.created, h.distinct, h.serials, h.known, h.marked,
    fun a ha hrunning => hids (h.initialized a ha hrunning), h.between, h.idle, h.retired⟩

/-- An adapter is initialized that did not count as such. -/
theorem Tracked.initializing (h : Tracked w) {a : Adapter} (ha : a ∈ w.pool.owned)
    (hnew : a.address ∉ w.pool.initializedIds) {ids : Finset Nat}
    (hids : w.pool.initializedIds ⊆ ids) {succeeded : Bool}
    (hself : succeeded = true → a.address ∈ ids) :
    Tracked (w.next ({ w.pool with initializedIds := ids }, [.initialized a succeeded])) := by
  have hidle : running a w.events = false := by
    by_contra hrunning
    exact hnew (h.initialized a ha (Bool.eq_true_of_not_eq_false hrunning))
  have hshut {b : Adapter} {result : Bool} :
      Event.shutdown b result ∈ w.events ++ [.initialized a succeeded] ↔
        Event.shutdown b result ∈ w.events := by
    simp
  refine ⟨h.created, h.distinct, h.serials, fun b hb => ?_,
    fun b hb hdown => h.marked b hb (hshut.mp hdown), fun b hb hrunning => ?_,
    justified_snoc.mpr ⟨h.between, fun b heq => ?_⟩,
    fun b hb hneeds hmarked => hshut.mpr (h.idle b hb hneeds hmarked), h.retired⟩
  · rcases hb with ⟨result, hin⟩ | ⟨result, hin⟩
    · exact h.known b (.inl ⟨result, hshut.mp hin⟩)
    · rcases List.mem_append.mp hin with hold | hlast
      · exact h.known b (.inr ⟨result, hold⟩)
      · obtain ⟨rfl, -⟩ := Event.initialized.inj (List.mem_singleton.mp hlast)
        exact h.created b ha
  · have hafter : running b (w.events ++ [.initialized a succeeded]) = true := hrunning
    rw [running_snoc_initialized] at hafter
    split at hafter
    · rename_i hsame
      exact hsame.1 ▸ hself hsame.2
    · exact hids (h.initialized b hb hafter)
  · obtain ⟨rfl, -⟩ := Event.initialized.inj heq
    exact hidle

/-- The loop of `initialize_all`. -/
theorem Tracked.initializeActive (h : Tracked w) (raises : Adapter → Bool) {as : List Adapter}
    (has : ∀ a ∈ as, a ∈ w.pool.owned) :
    Tracked (w.next (AdapterPool.initializeActive raises w.pool as)) := by
  induction as generalizing w with
  | nil =>
    show Tracked { w with events := w.events ++ [] }
    rwa [List.append_nil]
  | cons a as ih =>
    obtain ⟨ha, hrest⟩ := List.forall_mem_cons.mp has
    unfold AdapterPool.initializeActive
    split
    · exact ih h hrest
    · rename_i hnew
      split
      · exact h.initializing ha hnew (Finset.Subset.refl _) nofun
      · have hids : w.pool.initializedIds ⊆ insert a.address w.pool.initializedIds :=
          Finset.subset_insert _ _
        dsimp only
        split
        · have hinitialized := @Tracked.initializing w h a ha hnew _ hids true
            fun _ => Finset.mem_insert_self _ _
          show Tracked { w with pool := _, events := w.events ++ (_ :: _) }
          rw [List.append_cons]
          exact ih hinitialized hrest
        · exact ih (h.widen hids) hrest

/-- A new object has an identity that no owned one has, and no history. -/
theorem Tracked.getOrCreate (h : Tracked w) {key : String} (hkey : w.pool.adapters.get? key = none)
    {a : Adapter} (haddress : a.address ∉ w.pool.owned.map Adapter.address)
    (hserial : a.serial = w.created.length) :
    Tracked { w with
      pool := { w.pool with
        adapters := w.pool.adapters.set key a
        shutdownIds := w.pool.shutdownIds.erase a.address }
      created := w.created ++ [a] } := by
  have hvalues : (w.pool.adapters.set key a).values = w.pool.adapters.values ++ [a] := by
    show (Dict.setEntries key a w.pool.adapters.entries).map Prod.snd = _
    rw [Dict.setEntries_of_notMem (Dict.get?_eq_none_iff.mp hkey), List.map_append]
    rfl
  have hnone : a ∉ w.created := by
    intro hin
    have hless := h.serials a hin
    omega
  have howned {b : Adapter} (hb : b ∈ w.pool.retired ++ (w.pool.adapters.set key a).values) :
      b ∈ w.pool.owned ∨ b = a := by
    rw [hvalues, ← List.append_assoc, List.mem_append, List.mem_singleton] at hb
    exact hb
  have hother {b : Adapter} (hb : b ∈ w.pool.owned) : b.address ≠ a.address :=
    fun heq => haddress (heq ▸ List.mem_map_of_mem hb)
  refine ⟨fun b hb => ?_, ?_, fun b hb => ?_, fun b hb => List.mem_append_left _ (h.known b hb),
    fun b hb hdown => ?_, fun b hb hrunning => ?_, h.between, fun b hb hneeds hmarked => ?_,
    h.retired⟩
  · rcases howned hb with hold | rfl
    · exact List.mem_append_left _ (h.created b hold)
    · exact List.mem_append_right _ (List.mem_singleton_self _)
  · show ((w.pool.retired ++ (w.pool.adapters.set key a).values).map Adapter.address).Nodup
    rw [hvalues, ← List.append_assoc, List.map_append]
    refine List.nodup_append.mpr ⟨h.distinct, List.nodup_singleton _, ?_⟩
    rintro x hx y hy rfl
    exact haddress (List.mem_singleton.mp hy ▸ hx)
  · rw [List.length_append, List.length_singleton]
    rcases List.mem_append.mp hb with hold | hnew
    · exact (h.serials b hold).trans (Nat.lt_succ_self _)
    · rw [List.mem_singleton.mp hnew]
      omega
  · rcases howned hb with hold | rfl
    · exact Finset.mem_erase.mpr ⟨hother hold, h.marked b hold hdown⟩
    · exact absurd (h.known b (.inl ⟨true, hdown⟩)) hnone
  · rcases howned hb with hold | rfl
    · exact h.initialized b hold hrunning
    · have hnot : running b w.events = false :=
        not_running fun succeeded hin => hnone (h.known b (.inr ⟨succeeded, hin⟩))
      cases hnot.symm.trans hrunning
  · rcases howned hb with hold | rfl
    · exact h.idle b hold hneeds (Finset.mem_of_mem_erase hmarked)
    · exact absurd hmarked (Finset.notMem_erase _ _)

/-- The world after the retired adapters have been seen to. -/
def World.retiring (w : World) (raises : Adapter → Bool) : World :=
  w.next (w.pool.shutdownRetired raises)

/-- Whether a retired adapter's shutdown has raised. -/
def retiredFailed (w : World) (raises : Adapter → Bool) : Bool :=
  (w.pool.shutdownRetired raises).2.any AdapterPool.Event.failed

theorem next_shutdownAll (w : World) (raises : Adapter → Bool) :
    w.next (w.pool.shutdownAll raises) =
      if retiredFailed w raises then w.retiring raises
      else (w.retiring raises).next ((w.retiring raises).pool.attempt (AdapterPool.shutting raises)
        (w.retiring raises).pool.adapters.values.reverse) := by
  unfold AdapterPool.shutdownAll retiredFailed World.retiring World.next
  dsimp only
  split
  · rfl
  · rw [List.append_assoc]

theorem next_initializeAll (w : World) (raisesShutdown raisesInitialize : Adapter → Bool) :
    w.next (w.pool.initializeAll raisesShutdown raisesInitialize) =
      if retiredFailed w raisesShutdown then w.retiring raisesShutdown
      else (w.retiring raisesShutdown).next (AdapterPool.initializeActive raisesInitialize
        (w.retiring raisesShutdown).pool
        (w.retiring raisesShutdown).pool.adapters.values) := by
  unfold AdapterPool.initializeAll retiredFailed World.retiring World.next
  dsimp only
  split
  · rfl
  · rw [List.append_assoc]

theorem Tracked.retiring (h : Tracked w) (raises : Adapter → Bool) :
    Tracked (w.retiring raises) := h.cleaned (plain_shutting raises) (cleaned_retired h raises)

/-- What a step makes of a world in which everything is tracked. -/
theorem Tracked.step (h : Tracked w) {action : Action} {w' : World}
    (hstep : step w action = some w') : Tracked w' := by
  cases action with
  | getOrCreate key made =>
    have hmade : w.getOrCreate key made = some w' := hstep
    unfold World.getOrCreate at hmade
    split at hmade
    · cases hmade
      exact h
    · cases hmade
      exact h
    · rename_i hkey
      split at hmade
      · cases hmade
      · rename_i haddress
        cases hmade
        exact h.getOrCreate hkey haddress rfl
  | reset preserveTypes raises =>
    cases hstep
    exact h.cleaned (plain_dropping raises) (cleaned_reset h preserveTypes raises)
  | initializeAll raisesShutdown raisesInitialize =>
    cases hstep
    rw [next_initializeAll]
    split
    · exact h.retiring raisesShutdown
    · exact (h.retiring raisesShutdown).initializeActive raisesInitialize
        fun a ha => List.mem_append_right _ ha
  | shutdownAll raises =>
    cases hstep
    have hnext : Tracked (w.next (w.pool.shutdownAll raises)) := by
      rw [next_shutdownAll]
      split
      · exact h.retiring raises
      · have hretiring := h.retiring raises
        exact hretiring.cleaned (plain_shutting raises) (cleaned_active hretiring raises)
    exact ⟨hnext.created, hnext.distinct, hnext.serials, hnext.known, hnext.marked,
      hnext.initialized, hnext.between, hnext.idle, hnext.retired⟩
  | closeAll raises =>
    cases hstep
    exact h.cleaned (plain_closing raises) (cleaned_closeAll h raises)

theorem tracked_init : Tracked init := by
  refine ⟨nofun, List.nodup_nil, nofun, ?_, nofun, nofun, justified_nil _, nofun, nofun⟩
  rintro a (⟨_, h⟩ | ⟨_, h⟩)
  · cases h
  · cases h

end Steps

end NexusN3.Sensors.Pool
