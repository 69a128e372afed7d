import NexusN3.Lib.Machine
import NexusN3.Lib.Value

/-!
# The system event bus

Any thread emits and any thread subscribes, at the end of the subscribers or before all of them.
One thread dispatches, and it goes over the list of subscribers while the others change it: its
place is an index, and a subscriber put in front moves every other one on.

* **`Bus.step`** — one operation of a thread, or one turn of a loop of `_dispatch_loop`.
* **`Delivers`** — every event reaches everybody who was subscribed when its dispatch began, in the
  order of the subscribers and of the events; nobody twice unless somebody came in front meanwhile.
* **`enrichEvent`** — `_enrich_event`. A worker's event is enriched on the worker's bus and once
  more on the master's; `get_relay` says what any number of relays make of it.
-/

namespace NexusN3.EventBus

open Lib

/-! ## The context of an event -/

/-- `SystemEventBus(deployment_context)`; `none` where the key is absent. -/
structure DeploymentContext where
  customerId : Option String
  siteId : Option String
  siteName : Option String

/-- A value that is not empty. -/
def given (value : Option String) : Option String := value.filter (· ≠ "")

/-- `if value and not fields.get(key): fields[key] = value`. -/
def fillIn (key : String) (value : Option String) (fields : Fields) : Fields :=
  match given value with
  | none => fields
  | some text =>
    if (Value.get fields key).truthy then fields else Value.setField key (.str text) fields

/-- The three keys, in an event or in its payload. -/
def fillContext (context : DeploymentContext) (fields : Fields) : Fields :=
  fillIn "site" context.siteName
    (fillIn "site_id" context.siteId (fillIn "customer_id" context.customerId fields))

def enrichEvent (context : DeploymentContext) (event : Fields) : Fields :=
  match event.lookup "payload" with
  | some (.obj payload) =>
    Value.setField "payload" (.obj (fillContext context payload)) (fillContext context event)
  | _ => fillContext context event

/-- An event that goes over the buses of several nodes. -/
def relay (contexts : List DeploymentContext) (event : Fields) : Fields :=
  contexts.foldl (fun event context => enrichEvent context event) event

/-- What a context has for a key. -/
def DeploymentContext.value (context : DeploymentContext) (key : String) : Option String :=
  if key = "customer_id" then context.customerId
  else if key = "site_id" then context.siteId
  else if key = "site" then context.siteName
  else none

/-- What there is already, or else the first text that is given. -/
def firstGiven (own : Value) (texts : List (Option String)) : Value :=
  if own.truthy then own else ((texts.findSome? given).map Value.str).getD own

theorem firstGiven_cons (own : Value) (text : Option String) (texts : List (Option String)) :
    firstGiven own (text :: texts) = firstGiven (firstGiven own [text]) texts := by
  unfold firstGiven
  by_cases hown : own.truthy = true
  · simp [hown]
  · cases htext : given text with
    | none => simp [hown, htext]
    | some value =>
      have hvalue : (Value.str value).truthy = true := by
        have hne := (Option.filter_eq_some_iff.mp htext).2
        simpa [Value.truthy] using hne
      simp [hown, htext, hvalue]

theorem get_setField (key key' : String) (x : Value) (fields : Fields) :
    Value.get (Value.setField key x fields) key' =
      if key = key' then x else Value.get fields key' := by
  unfold Value.get Value.getD
  rw [Value.lookup_setField]
  split
  · rfl
  · rfl

theorem get_fillIn (key key' : String) (value : Option String) (fields : Fields) :
    Value.get (fillIn key value fields) key' =
      if key = key' then firstGiven (Value.get fields key') [value]
      else Value.get fields key' := by
  unfold fillIn
  cases hvalue : given value with
  | none => simp [firstGiven, hvalue]
  | some text =>
    by_cases hkey : key = key'
    · subst hkey
      by_cases htruthy : (Value.get fields key).truthy = true
      · simp [firstGiven, htruthy]
      · simp [firstGiven, htruthy, hvalue, get_setField]
    · by_cases htruthy : (Value.get fields key).truthy = true
      · simp [htruthy, hkey]
      · simp [htruthy, hkey, get_setField]

/-- **What filling in gives for a key**: what the fields have, or else what the context has. -/
theorem get_fillContext (context : DeploymentContext) (fields : Fields) (key : String) :
    Value.get (fillContext context fields) key =
      firstGiven (Value.get fields key) [context.value key] := by
  have hnone : firstGiven (Value.get fields key) [none] = Value.get fields key := by
    simp [firstGiven, given]
  unfold fillContext DeploymentContext.value
  simp only [get_fillIn]
  by_cases hcustomer : key = "customer_id"
  · subst hcustomer
    rfl
  by_cases hid : key = "site_id"
  · subst hid
    rfl
  by_cases hsite : key = "site"
  · subst hsite
    rfl
  simp only [if_neg hcustomer, if_neg hid, if_neg hsite, if_neg (Ne.symm hcustomer),
    if_neg (Ne.symm hid), if_neg (Ne.symm hsite), hnone]

/-- Filling in leaves the payload's place alone. -/
theorem lookup_fillIn {key key' : String} (hkey : key ≠ key') (value : Option String)
    (fields : Fields) : (fillIn key value fields).lookup key' = fields.lookup key' := by
  unfold fillIn
  split
  · rfl
  · split
    · rfl
    · rw [Value.lookup_setField, if_neg hkey]

theorem lookup_payload_fillContext (context : DeploymentContext) (fields : Fields) :
    (fillContext context fields).lookup "payload" = fields.lookup "payload" := by
  unfold fillContext
  rw [lookup_fillIn (by decide), lookup_fillIn (by decide), lookup_fillIn (by decide)]

/-- One bus: a key of the event, other than its payload. -/
theorem get_enrichEvent (context : DeploymentContext) (event : Fields) {key : String}
    (hkey : key ≠ "payload") :
    Value.get (enrichEvent context event) key =
      firstGiven (Value.get event key) [context.value key] := by
  unfold enrichEvent
  split
  · rw [get_setField, if_neg hkey.symm, get_fillContext]
  · rw [get_fillContext]

/-- The dictionary in an event's payload. -/
def payload (event : Fields) : Option Fields := (event.lookup "payload").bind Value.asDict

/-- One bus: the payload. -/
theorem payload_enrichEvent (context : DeploymentContext) (event : Fields) :
    payload (enrichEvent context event) = (payload event).map (fillContext context) := by
  unfold payload enrichEvent
  cases hpayload : event.lookup "payload" with
  | none =>
    simp [lookup_payload_fillContext, hpayload]
  | some value =>
    cases value with
    | obj fields => simp [Value.lookup_setField, Value.asDict]
    | null | bool b | num n | str s | arr items =>
      simp [lookup_payload_fillContext, hpayload, Value.asDict]

/-- **Any number of buses.** What an event or its payload has for a key is never replaced; a key
that nothing is given for gets the first value on the way. Induction on the way. -/
theorem get_relay (contexts : List DeploymentContext) (event : Fields) (key : String) :
    (key ≠ "payload" → Value.get (relay contexts event) key =
      firstGiven (Value.get event key) (contexts.map fun context => context.value key)) ∧
    (payload (relay contexts event)).map (fun fields => Value.get fields key) =
      (payload event).map fun fields => firstGiven (Value.get fields key)
        (contexts.map fun context => context.value key) := by
  induction contexts generalizing event with
  | nil => simp [relay, firstGiven]
  | cons context contexts ih =>
    obtain ⟨hevent, hpayload⟩ := ih (enrichEvent context event)
    refine ⟨fun hkey => ?_, ?_⟩
    · calc Value.get (relay (context :: contexts) event) key
          = Value.get (relay contexts (enrichEvent context event)) key := rfl
        _ = _ := hevent hkey
        _ = _ := by rw [get_enrichEvent context event hkey, List.map_cons, ← firstGiven_cons]
    · calc (payload (relay (context :: contexts) event)).map (fun fields => Value.get fields key)
          = (payload (relay contexts (enrichEvent context event))).map
              (fun fields => Value.get fields key) := rfl
        _ = _ := hpayload
        _ = _ := by
          rw [payload_enrichEvent]
          cases payload event with
          | none => rfl
          | some fields =>
            simp only [Option.map_some, List.map_cons]
            rw [get_fillContext, ← firstGiven_cons]

/-! ## Dispatch -/

/-- One event's way over the subscribers. -/
structure Dispatch (Sub : Type) where
  event : Fields
  /-- who was subscribed when it began -/
  present : List Sub
  /-- who came in front, and who came last, since then -/
  before : List Sub
  after : List Sub
  /-- whom it was given to -/
  delivered : List Sub

/-- A subscriber that comes in during a dispatch. -/
def Dispatch.joined {Sub : Type} (cb : Sub) (inFront : Bool) (d : Dispatch Sub) :
    Dispatch Sub :=
  if inFront then { d with before := cb :: d.before } else { d with after := d.after ++ [cb] }

/-- `SystemEventBus`. `current` is the dispatch that is under way and the index of the next
subscriber. -/
structure Bus (Sub : Type) where
  context : DeploymentContext
  subs : List Sub
  queue : List Fields
  current : Option (Dispatch Sub × Nat)
  /-- the events emitted, and the dispatches that are over -/
  emitted : List Fields
  done : List (Dispatch Sub)

inductive Action (Sub : Type) where
  | subscribe (cb : Sub) (inFront : Bool)
  | emit (event : Fields)
  /-- `self._queue.get()` -/
  | get
  /-- the next subscriber's callback, which returns or raises -/
  | deliver (raised : Bool)
  /-- the loop over the subscribers ends -/
  | finish

namespace Bus

variable {Sub : Type}

def step : Machine (Bus Sub) (Action Sub)
  | s, .subscribe cb inFront =>
    some
      { s with
        subs := if inFront then cb :: s.subs else s.subs ++ [cb]
        current := s.current.map fun c => (Dispatch.joined cb inFront c.1, c.2) }
  | s, .emit event =>
    let enriched := enrichEvent s.context event
    some { s with queue := s.queue ++ [enriched], emitted := s.emitted ++ [enriched] }
  | s, .get =>
    match s.current, s.queue with
    | none, event :: queue =>
      some { s with queue := queue, current := some (⟨event, s.subs, [], [], []⟩, 0) }
    | _, _ => none
  | s, .deliver _ =>
    match s.current with
    | none => none
    | some (d, i) =>
      match s.subs[i]? with
      | none => none
      | some cb =>
        some { s with current := some ({ d with delivered := d.delivered ++ [cb] }, i + 1) }
  | s, .finish =>
    match s.current with
    | none => none
    | some (d, i) =>
      if s.subs.length ≤ i then some { s with current := none, done := s.done ++ [d] } else none

def init (context : DeploymentContext) : Bus Sub where
  context := context
  subs := []
  queue := []
  current := none
  emitted := []
  done := []

end Bus

/-- What a dispatch that is over has done. -/
structure Dispatch.Complete {Sub : Type} (d : Dispatch Sub) : Prop where
  /-- everybody who was there has got it, in the order of the subscribers -/
  everybody : d.present.Sublist d.delivered
  /-- nobody else than the subscribers -/
  nobodyElse : ∀ cb ∈ d.delivered, cb ∈ d.before ++ d.present ++ d.after
  /-- and each of them once if nobody came in front meanwhile -/
  once : d.before = [] → d.delivered = d.present ++ d.after

namespace Bus

variable {Sub : Type}

/-- What the bus promises. -/
structure Delivers (s : Bus Sub) : Prop where
  /-- the events are dispatched one by one, in the order in which they were emitted -/
  inOrder : s.done.map Dispatch.event ++ (s.current.map fun c => c.1.event).toList ++ s.queue =
    s.emitted
  complete : ∀ d ∈ s.done, d.Complete

/-- A dispatch that has come to the index `i` of the subscribers. -/
structure Under (subs : List Sub) (d : Dispatch Sub) (i : Nat) : Prop where
  split : subs = d.before ++ d.present ++ d.after
  /-- those who came in front have moved the others on by as much -/
  passed : (d.present.take (i - d.before.length)).Sublist d.delivered
  nobodyElse : ∀ cb ∈ d.delivered, cb ∈ subs
  once : d.before = [] → d.delivered = subs.take i

theorem under_begin (subs : List Sub) (event : Fields) :
    Under subs ⟨event, subs, [], [], []⟩ 0 := by
  refine ⟨?_, ?_, ?_, ?_⟩
  · simp
  · simp
  · intro cb hcb
    cases hcb
  · intro _
    rfl

/-- One callback. -/
theorem Under.deliver {subs : List Sub} {d : Dispatch Sub} {i : Nat} {cb : Sub} (h : Under subs d i)
    (hcb : subs[i]? = some cb) :
    Under subs { d with delivered := d.delivered ++ [cb] } (i + 1) := by
  refine ⟨h.split, ?_, ?_, ?_⟩
  · show (d.present.take (i + 1 - d.before.length)).Sublist (d.delivered ++ [cb])
    by_cases hfront : i < d.before.length
    · -- somebody who came in front
      rw [show i + 1 - d.before.length = 0 by omega]
      simp
    · obtain ⟨k, rfl⟩ : ∃ k, i = d.before.length + k := ⟨i - d.before.length, by omega⟩
      have hpassed := h.passed
      rw [show d.before.length + k - d.before.length = k by omega] at hpassed
      rw [show d.before.length + k + 1 - d.before.length = k + 1 by omega]
      by_cases hpresent : k < d.present.length
      · have hnext : d.present[k]? = some cb := by
          rw [h.split, List.append_assoc, List.getElem?_append_right (by omega),
            show d.before.length + k - d.before.length = k by omega,
            List.getElem?_append_left hpresent] at hcb
          exact hcb
        rw [List.take_add_one, hnext]
        exact hpassed.append (List.Sublist.refl [cb])
      · -- somebody who came last
        rw [List.take_of_length_le (by omega)] at hpassed ⊢
        exact hpassed.trans (List.sublist_append_left d.delivered [cb])
  · intro x hx
    rcases List.mem_append.mp hx with hold | hnew
    · exact h.nobodyElse x hold
    · rw [List.mem_singleton.mp hnew]
      exact List.mem_of_getElem? hcb
  · intro hbefore
    rw [List.take_add_one, hcb, h.once hbefore]
    rfl

/-- Somebody subscribes meanwhile. -/
theorem Under.joined {subs : List Sub} {d : Dispatch Sub} {i : Nat} (h : Under subs d i)
    (hi : i ≤ subs.length) (cb : Sub) (inFront : Bool) :
    Under (if inFront then cb :: subs else subs ++ [cb]) (Dispatch.joined cb inFront d) i := by
  cases inFront with
  | true =>
    refine ⟨?_, ?_, ?_, ?_⟩
    · simp [Dispatch.joined, h.split]
    · show (d.present.take (i - (d.before.length + 1))).Sublist d.delivered
      exact (List.take_sublist_take_left (by omega)).trans h.passed
    · intro x hx
      exact List.mem_cons_of_mem cb (h.nobodyElse x hx)
    · intro hbefore
      cases hbefore
  | false =>
    refine ⟨?_, h.passed, ?_, ?_⟩
    · simp [Dispatch.joined, h.split]
    · intro x hx
      exact List.mem_append_left [cb] (h.nobodyElse x hx)
    · intro hbefore
      show d.delivered = (subs ++ [cb]).take i
      rw [List.take_append_of_le_length hi]
      exact h.once hbefore

/-- The end of the loop. -/
theorem Under.complete {subs : List Sub} {d : Dispatch Sub} {i : Nat} (h : Under subs d i)
    (hend : subs.length ≤ i) : d.Complete := by
  have hlength : subs.length = d.before.length + d.present.length + d.after.length := by
    rw [h.split, List.length_append, List.length_append]
  refine ⟨?_, ?_, ?_⟩
  · have hpassed := h.passed
    rw [List.take_of_length_le (by omega)] at hpassed
    exact hpassed
  · intro cb hcb
    rw [← h.split]
    exact h.nobodyElse cb hcb
  · intro hbefore
    rw [h.once hbefore, List.take_of_length_le hend, h.split, hbefore, List.nil_append]

/-- What every step keeps. -/
structure Kept (s : Bus Sub) : Prop extends Delivers s where
  under : ∀ d i, s.current = some (d, i) → Under s.subs d i ∧ i ≤ s.subs.length

theorem kept_init (context : DeploymentContext) : Kept (init context : Bus Sub) := by
  refine ⟨⟨rfl, ?_⟩, ?_⟩
  · intro d hd
    cases hd
  · intro d i hcurrent
    cases hcurrent

theorem kept_step {s s' : Bus Sub} {a : Action Sub} (hstep : step s a = some s') (h : Kept s) :
    Kept s' := by
  cases a with
  | subscribe cb inFront =>
    cases hstep
    refine ⟨⟨?_, h.complete⟩, ?_⟩
    · have hevent (d : Dispatch Sub) : (Dispatch.joined cb inFront d).event = d.event := by
        cases inFront <;> rfl
      rw [← h.inOrder]
      simp [Option.map_map, Function.comp_def, hevent]
    · intro d i hcurrent
      obtain ⟨⟨d', i'⟩, hcurrent', heq⟩ := Option.map_eq_some_iff.mp hcurrent
      cases heq
      obtain ⟨hunder, hi⟩ := h.under d' i' hcurrent'
      refine ⟨hunder.joined hi cb inFront, ?_⟩
      cases inFront <;> simp <;> omega
  | emit event =>
    cases hstep
    refine ⟨⟨?_, h.complete⟩, h.under⟩
    show _ ++ (s.queue ++ [_]) = s.emitted ++ [_]
    rw [← h.inOrder, List.append_assoc]
    simp
  | get =>
    simp only [step] at hstep
    split at hstep <;> cases hstep
    rename_i event queue hcurrent hqueue
    refine ⟨⟨?_, h.complete⟩, ?_⟩
    · rw [← h.inOrder, hcurrent, hqueue]
      simp
    · intro d i hd
      cases hd
      exact ⟨under_begin s.subs event, Nat.zero_le _⟩
  | deliver raised =>
    simp only [step] at hstep
    split at hstep
    · cases hstep
    · rename_i d i hcurrent
      split at hstep <;> cases hstep
      rename_i cb hcb
      obtain ⟨hunder, -⟩ := h.under d i hcurrent
      refine ⟨⟨?_, h.complete⟩, ?_⟩
      · rw [← h.inOrder, hcurrent]
        rfl
      · intro d' i' hd
        cases hd
        have hlt := (List.getElem?_eq_some_iff.mp hcb).1
        exact ⟨hunder.deliver hcb, hlt⟩
  | finish =>
    simp only [step] at hstep
    split at hstep
    · cases hstep
    · rename_i d i hcurrent
      split at hstep <;> cases hstep
      rename_i hend
      obtain ⟨hunder, -⟩ := h.under d i hcurrent
      refine ⟨⟨?_, ?_⟩, ?_⟩
      · rw [← h.inOrder, hcurrent]
        simp
      · intro d' hd'
        rcases List.mem_append.mp hd' with hold | hnew
        · exact h.complete d' hold
        · rw [List.mem_singleton.mp hnew]
          exact hunder.complete hend
      · intro d' i' hd
        cases hd

/-- **Every event reaches every subscriber.** Whatever threads emit and subscribe, and whichever
callbacks raise, events are dispatched in their order, each to everybody who was subscribed when its
dispatch began. -/
theorem bus_delivers {s : Bus Sub} {context : DeploymentContext}
    (hrun : Machine.Reach step (init context) s) : Delivers s :=
  (hrun.invariant (kept_init context) fun _ _ _ _ hstep => kept_step hstep).toDelivers

/-- A subscriber comes in front while the second of two has an event still to come: the first gets
it twice. -/
def prepended : List (Action Nat) :=
  [.subscribe 1 false, .subscribe 2 false, .emit [], .get, .deliver true, .subscribe 0 true,
    .deliver false, .deliver false, .finish]

theorem bus_delivers_prepended : ∃ s : Bus Nat,
    Machine.exec step (init ⟨none, none, none⟩) prepended = some s ∧ Delivers s :=
  ⟨_, rfl, bus_delivers (Machine.reach_of_exec prepended rfl)⟩

end Bus

end NexusN3.EventBus
