import Mathlib.Data.Finset.Basic
import Mathlib.Order.Defs.LinearOrder
import NexusN3.Lib.Transcript
import NexusN3.Lib.Unwinding

/-!
# Operations across a plugin connection

An operation gives what is done for it a deadline, and can be cancelled. A request that is sent
under an operation carries its `wire()`, and a request that comes in with one is handled under the
operation that the connection has under that id, or else under a new one.

* **`Connection`** — a connection with the operation objects and what its threads have still to do.
* **`Allowed`** — what a stopped operation still allows: no request under it, either way.
* **`Tracked.step`** — the step; **`stays_fenced`** is about whole runs.
-/

namespace NexusN3.Plugins.Operations

open Lib

variable {T : Type} [LinearOrder T]

/-- A deadline. From the wire it may be no number of the clock. -/
inductive Deadline (T : Type) where
  | at (time : T)
  | nan
  deriving DecidableEq

/-- `deadline > now`. -/
def Deadline.ahead (now : T) : Deadline T → Bool
  | .at time => decide (now < time)
  | .nan => false

/-- `now >= deadline`. -/
def Deadline.reached (now : T) : Deadline T → Bool
  | .at time => decide (time ≤ now)
  | .nan => false

theorem Deadline.reached_mono {now later : T} (hle : now ≤ later) {d : Deadline T}
    (h : d.reached now = true) : d.reached later = true := by
  cases d with
  | «at» time =>
    simp only [Deadline.reached, decide_eq_true_eq] at h ⊢
    exact h.trans hle
  | nan => cases h

structure SensorOperation (T : Type) where
  operationId : String
  deadline : Deadline T
  deriving DecidableEq

/-- The `operation` of a request; `deadline` is none where `float` raises. -/
structure Metadata (T : Type) where
  id : String
  deadline : Option (Deadline T)
  deriving DecidableEq

def SensorOperation.wire (o : SensorOperation T) : Metadata T := ⟨o.operationId, some o.deadline⟩

/-- What a thread does next on its own. -/
inductive Section (T : Type) where
  /-- `_write_message`, from the purge -/
  | register (object : Nat)
  /-- `_write_message`, under the write lock -/
  | write (object : Nat)
  /-- `_handle_request`, from `operation.check()` -/
  | handle (metadata : Metadata T) (object : Nat)
  deriving DecidableEq

inductive Event (T : Type) where
  | attached (object : Nat) (operation : SensorOperation T)
  | cancelled (object : Nat)
  | sent (object : Nat) (now : T)
  | handled (metadata : Metadata T) (now : T)
  deriving DecidableEq

structure Connection (T : Type) where
  now : T
  /-- the operation objects, those of incoming requests included -/
  objects : List (SensorOperation T)
  /-- the objects whose `cancelled` is set -/
  cancelled : Finset Nat
  /-- `_operations` -/
  operations : String → Option Nat
  sections : List (Section T)
  log : List (Event T)

inductive Action (T : Type) where
  | tick (now : T)
  | create (operation : SensorOperation T)
  | cancel (object : Nat)
  /-- `_write_message` with a method, under an operation -/
  | send (object : Nat)
  | receive (metadata : Metadata T)
  /-- a thread does what it does next -/
  | run (index : Nat)

namespace Connection

/-- `check`: whether it does not raise. -/
def check (c : Connection T) (object : Nat) : Bool :=
  decide (object ∉ c.cancelled) &&
    (c.objects[object]?).any fun o => !o.deadline.reached c.now

/-- The operations whose deadline lies ahead. -/
def purge (c : Connection T) : Connection T :=
  { c with operations := fun key =>
      (c.operations key).filter fun n => (c.objects[n]?).any fun o => o.deadline.ahead c.now }

def register (c : Connection T) (object : Nat) (o : SensorOperation T) : Connection T :=
  { c.purge with
    operations := Function.update c.purge.operations o.operationId (some object)
    sections := c.sections ++ [.write object]
    log := c.log ++ [.attached object o] }

/-- The lookup of `_handle_request`. -/
def receive (c : Connection T) (m : Metadata T) : Connection T :=
  match c.purge.operations m.id, m.deadline with
  | some object, _ => { c.purge with sections := c.sections ++ [.handle m object] }
  | none, none => c.purge
  | none, some deadline =>
    { c.purge with
      objects := c.objects ++ [⟨m.id, deadline⟩]
      operations := Function.update c.purge.operations m.id (some c.objects.length)
      sections := c.sections ++ [.handle m c.objects.length] }

def run (c : Connection T) : Section T → Option (Connection T)
  | .register object => (c.objects[object]?).map (c.register object)
  | .write object =>
    some (if c.check object then { c with log := c.log ++ [.sent object c.now] } else c)
  | .handle m object =>
    some (if c.check object then { c with log := c.log ++ [.handled m c.now] } else c)

end Connection

def step : Machine (Connection T) (Action T)
  | c, .tick now => if c.now ≤ now then some { c with now := now } else none
  | c, .create operation => some { c with objects := c.objects ++ [operation] }
  | c, .cancel object =>
    some { c with
      cancelled := insert object c.cancelled
      log := c.log ++ [.cancelled object] }
  | c, .send object =>
    some (if c.check object then { c with sections := c.sections ++ [.register object] } else c)
  | c, .receive m => some (c.receive m)
  | c, .run index =>
    match c.sections[index]? with
    | none => none
    | some s => { c with sections := c.sections.eraseIdx index }.run s

def init (now : T) : Connection T where
  now := now
  objects := []
  cancelled := ∅
  operations := fun _ => none
  sections := []
  log := []

/-- Once an operation is cancelled or its deadline has passed, no request is sent under it, and none
that carries its identity is handled. -/
def Allowed (before : List (Event T)) : Event T → Prop
  | .sent object now => ∀ o, .attached object o ∈ before →
      .cancelled object ∉ before ∧ o.deadline.reached now = false
  | .handled m now => ∀ object o, .attached object o ∈ before → o.wire = m →
      .cancelled object ∉ before ∧ o.deadline.reached now = false
  | _ => True

def Event.attachedId : Event T → Option String
  | .attached _ o => some o.operationId
  | _ => none

/-- The other objects with the id of an operation. -/
def Connection.rivals (c : Connection T) (object : Nat) (o : SensorOperation T) :
    List (SensorOperation T × Nat) :=
  c.objects.zipIdx.filter fun p => p.2 ≠ object ∧ p.1.operationId = o.operationId

/-- Of the operations with one id only one is attached, and the others have expired by then. -/
def attachesAlone (c : Connection T) : Section T → Prop
  | .register object => ∀ o ∈ c.objects[object]?, ∀ p ∈ c.rivals object o,
      p.1.deadline.reached c.now = true ∧ .attached p.2 p.1 ∉ c.log
  | _ => True

instance (c : Connection T) : ∀ s, Decidable (attachesAlone c s)
  | .register object => inferInstanceAs (Decidable (∀ o ∈ c.objects[object]?,
      ∀ p ∈ c.rivals object o, p.1.deadline.reached c.now = true ∧ .attached p.2 p.1 ∉ c.log))
  | .write _ => isTrue trivial
  | .handle _ _ => isTrue trivial

/-- A request with the id of an attached operation that is no longer in the table brings a deadline
that has passed. -/
def spares (c : Connection T) : Action T → Prop
  | .receive m => m.id ∈ c.log.filterMap Event.attachedId → c.purge.operations m.id = none →
      ∀ d ∈ m.deadline, d.reached c.now = true
  | .run index => ∀ s ∈ c.sections[index]?, attachesAlone c s
  | _ => True

instance (c : Connection T) : ∀ action, Decidable (spares c action)
  | .receive m => inferInstanceAs (Decidable (m.id ∈ c.log.filterMap Event.attachedId →
      c.purge.operations m.id = none → ∀ d ∈ m.deadline, d.reached c.now = true))
  | .run index => inferInstanceAs (Decidable (∀ s ∈ c.sections[index]?, attachesAlone c s))
  | .tick _ => isTrue trivial
  | .create _ => isTrue trivial
  | .cancel _ => isTrue trivial
  | .send _ => isTrue trivial

/-! ## What holds along such runs -/

/-- The object can no longer pass a check. -/
def Connection.expired (c : Connection T) (object : Nat) : Prop :=
  ∃ o, c.objects[object]? = some o ∧ o.deadline.reached c.now = true

structure Tracked (c : Connection T) : Prop where
  attached : ∀ n o, .attached n o ∈ c.log → c.objects[n]? = some o
  cancelled : ∀ n, .cancelled n ∈ c.log → n ∈ c.cancelled
  table : ∀ key n, c.operations key = some n → ∃ o, c.objects[n]? = some o ∧ o.operationId = key
  handled : ∀ m n, .handle m n ∈ c.sections → ∃ o, c.objects[n]? = some o ∧ o.operationId = m.id
  /-- Under the id of an attached operation there is that operation, or an expired one. -/
  owner : ∀ n o, .attached n o ∈ c.log → ∀ n', c.operations o.operationId = some n' →
    n' = n ∨ c.expired n'
  fence : ∀ n o, .attached n o ∈ c.log → ∀ m n', .handle m n' ∈ c.sections →
    m.id = o.operationId → n' = n ∨ c.expired n'
  allowed : Justified Allowed c.log

section Steps

variable {c : Connection T} {n : Nat} {o : SensorOperation T}

theorem check_iff : c.check n = true ↔
    n ∉ c.cancelled ∧ ∃ o, c.objects[n]? = some o ∧ o.deadline.reached c.now = false := by
  unfold Connection.check
  cases hobject : c.objects[n]? with
  | none => simp
  | some o => simp

theorem not_expired_of_check (h : c.check n = true) : ¬ c.expired n := by
  rintro ⟨o, hobject, hreached⟩
  obtain ⟨-, o', hobject', hnot⟩ := check_iff.mp h
  rw [hobject] at hobject'
  cases hobject'
  rw [hreached] at hnot
  cases hnot

theorem purge_operations {key : String} : c.purge.operations key = some n ↔
    c.operations key = some n ∧ ∃ o, c.objects[n]? = some o ∧ o.deadline.ahead c.now = true := by
  show Option.filter _ _ = some n ↔ _
  rw [Option.filter_eq_some_iff]
  cases hobject : c.objects[n]? with
  | none => simp
  | some o => simp

theorem getElem?_append_of_some {α : Type} {xs : List α} {x y : α} {i : Nat} (h : xs[i]? = some x) :
    (xs ++ [y])[i]? = some x := by
  have hlt : i < xs.length := (List.getElem?_eq_some_iff.mp h).1
  rw [List.getElem?_append_left hlt, h]

/-- Nothing is taken away from the objects, and the clock does not go back. -/
structure Connection.Grows (c c' : Connection T) : Prop where
  now : c.now ≤ c'.now
  objects : ∀ (i : Nat) (x : SensorOperation T), c.objects[i]? = some x → c'.objects[i]? = some x

theorem Connection.expired.mono (h : c.expired n) {c' : Connection T} (hgrows : c.Grows c') :
    c'.expired n := by
  obtain ⟨o, hobject, hreached⟩ := h
  exact ⟨o, hgrows.objects n o hobject, Deadline.reached_mono hgrows.now hreached⟩

theorem Connection.Grows.of_eq {c c' : Connection T} (hnow : c'.now = c.now)
    (hobjects : c'.objects = c.objects) : c.Grows c' :=
  ⟨hnow.ge, fun _ _ hx => hobjects ▸ hx⟩

/-- A step that attaches nothing and leads to no new object under an id keeps what holds. -/
theorem Tracked.later (h : Tracked c) {c' : Connection T} (hgrows : c.Grows c')
    (hoperations : ∀ key n, c'.operations key = some n → c.operations key = some n)
    (hsections : ∀ m n, .handle m n ∈ c'.sections → .handle m n ∈ c.sections)
    (hattached : ∀ n o, .attached n o ∈ c'.log → .attached n o ∈ c.log)
    (hcancelled : ∀ n, .cancelled n ∈ c'.log → n ∈ c'.cancelled)
    (hallowed : Justified Allowed c'.log) : Tracked c' where
  attached := fun n o hin => hgrows.objects n o (h.attached n o (hattached n o hin))
  cancelled := hcancelled
  table := fun key n hkey => by
    obtain ⟨o, hobject, hid⟩ := h.table key n (hoperations key n hkey)
    exact ⟨o, hgrows.objects n o hobject, hid⟩
  handled := fun m n hin => by
    obtain ⟨o, hobject, hid⟩ := h.handled m n (hsections m n hin)
    exact ⟨o, hgrows.objects n o hobject, hid⟩
  owner := fun n o hin n' hkey =>
    (h.owner n o (hattached n o hin) n' (hoperations _ n' hkey)).imp id fun hexpired =>
      hexpired.mono hgrows
  fence := fun n o hin m n' hsection hid =>
    (h.fence n o (hattached n o hin) m n' (hsections m n' hsection) hid).imp id fun hexpired =>
      hexpired.mono hgrows
  allowed := hallowed

theorem Tracked.purge (h : Tracked c) : Tracked c.purge :=
  h.later (.of_eq rfl rfl) (fun _ _ hkey => (purge_operations.mp hkey).1) (fun _ _ hin => hin)
    (fun _ _ hin => hin) h.cancelled h.allowed

/-- A section that is new changes nothing unless it handles a request. -/
theorem Tracked.cons_section (h : Tracked c) {s : Section T} (hs : ∀ m n, s ≠ .handle m n) :
    Tracked { c with sections := c.sections ++ [s] } := by
  refine h.later (.of_eq rfl rfl) (fun _ _ hkey => hkey) (fun m n hin => ?_) (fun _ _ hin => hin)
    h.cancelled h.allowed
  rcases List.mem_append.mp hin with hold | hnew
  · exact hold
  · exact absurd (List.mem_singleton.mp hnew).symm (hs m n)

theorem Tracked.erase_section (h : Tracked c) (i : Nat) :
    Tracked { c with sections := c.sections.eraseIdx i } :=
  h.later (.of_eq rfl rfl) (fun _ _ hkey => hkey) (fun _ _ hin => List.mem_of_mem_eraseIdx hin)
    (fun _ _ hin => hin) h.cancelled h.allowed

/-- One more entry of the log, which is allowed and attaches nothing. -/
theorem Tracked.note (h : Tracked c) {e : Event T} (hattached : ∀ n o, e ≠ .attached n o)
    (hcancelled : ∀ n, e ≠ .cancelled n) (hallowed : Allowed c.log e) :
    Tracked { c with log := c.log ++ [e] } := by
  refine h.later (.of_eq rfl rfl) (fun _ _ hkey => hkey) (fun _ _ hin => hin)
    (fun n o hin => ?_) (fun n hin => ?_) (justified_snoc.mpr ⟨h.allowed, hallowed⟩)
  · rcases List.mem_append.mp hin with hold | hnew
    · exact hold
    · exact absurd (List.mem_singleton.mp hnew).symm (hattached n o)
  · rcases List.mem_append.mp hin with hold | hnew
    · exact h.cancelled n hold
    · exact absurd (List.mem_singleton.mp hnew).symm (hcancelled n)

/-- The object of an operation that passes its check has been neither cancelled nor does it have a
deadline that has passed. -/
theorem Tracked.allowed_of_check (h : Tracked c) (hcheck : c.check n = true)
    (hattached : .attached n o ∈ c.log) :
    .cancelled n ∉ c.log ∧ o.deadline.reached c.now = false := by
  obtain ⟨hnot, o', hobject, hreached⟩ := check_iff.mp hcheck
  rw [h.attached n o hattached] at hobject
  cases hobject
  exact ⟨fun hin => hnot (h.cancelled n hin), hreached⟩

theorem Tracked.receive (h : Tracked c) {m : Metadata T} (hspares : spares c (.receive m)) :
    Tracked (c.receive m) := by
  unfold Connection.receive
  split
  · rename_i object hlive
    -- the operation that is known under the id
    obtain ⟨hkey, -⟩ := purge_operations.mp hlive
    have hpurged := h.purge
    refine ⟨hpurged.attached, hpurged.cancelled, hpurged.table, fun m' n hin => ?_, hpurged.owner,
      fun n o hin m' n' hsection hid => ?_, hpurged.allowed⟩
    · rcases List.mem_append.mp hin with hold | hnew
      · exact h.handled m' n hold
      · cases List.mem_singleton.mp hnew
        exact h.table m.id object hkey
    · rcases List.mem_append.mp hsection with hold | hnew
      · exact h.fence n o hin m' n' hold hid
      · cases List.mem_singleton.mp hnew
        exact h.owner n o hin object (hid ▸ hkey)
  · exact h.purge
  · rename_i deadline hnone hdeadline
    -- a new operation under the id of an attached one has expired
    have hgrows : c.Grows { c with objects := c.objects ++ [⟨m.id, deadline⟩] } :=
      ⟨le_rfl, fun _ _ => getElem?_append_of_some⟩
    have hnew : (c.objects ++ [⟨m.id, deadline⟩])[c.objects.length]? = some ⟨m.id, deadline⟩ :=
      List.getElem?_concat_length
    have hexpired : ∀ n o, .attached n o ∈ c.log → m.id = o.operationId →
        deadline.reached c.now = true := by
      intro n o hin hid
      apply hspares (List.mem_filterMap.mpr ⟨_, hin, congrArg some hid.symm⟩) hnone
      rw [hdeadline]
      rfl
    refine ⟨fun n o hin => hgrows.objects n o (h.attached n o hin), h.cancelled,
      fun key n hkey => ?_, fun m' n hin => ?_, fun n o hin n' hkey => ?_,
      fun n o hin m' n' hsection hid => ?_, h.allowed⟩
    · rcases eq_or_ne key m.id with rfl | hne
      · cases (Function.update_self m.id _ _).symm.trans hkey
        exact ⟨_, hnew, rfl⟩
      · have hother := (Function.update_of_ne hne _ _).symm.trans hkey
        obtain ⟨o, hobject, hid⟩ := h.table key n (purge_operations.mp hother).1
        exact ⟨o, hgrows.objects n o hobject, hid⟩
    · rcases List.mem_append.mp hin with hold | hlast
      · obtain ⟨o, hobject, hid⟩ := h.handled m' n hold
        exact ⟨o, hgrows.objects n o hobject, hid⟩
      · cases List.mem_singleton.mp hlast
        exact ⟨_, hnew, rfl⟩
    · rcases eq_or_ne o.operationId m.id with hid | hne
      · rw [hid] at hkey
        cases (Function.update_self m.id _ _).symm.trans hkey
        exact .inr ⟨_, hnew, hexpired n o hin hid.symm⟩
      · have hother := (Function.update_of_ne hne _ _).symm.trans hkey
        exact (h.owner n o hin n' (purge_operations.mp hother).1).imp id fun hgone =>
          hgone.mono ⟨hgrows.now, hgrows.objects⟩
    · rcases List.mem_append.mp hsection with hold | hlast
      · exact (h.fence n o hin m' n' hold hid).imp id fun hgone =>
          hgone.mono ⟨hgrows.now, hgrows.objects⟩
      · cases List.mem_singleton.mp hlast
        exact .inr ⟨_, hnew, hexpired n o hin hid⟩

omit [LinearOrder T] in
theorem mem_rivals {p : SensorOperation T × Nat} : p ∈ c.rivals n o ↔
    c.objects[p.2]? = some p.1 ∧ p.2 ≠ n ∧ p.1.operationId = o.operationId := by
  unfold Connection.rivals
  rw [List.mem_filter, List.mem_zipIdx_iff_getElem?]
  simp

/-- An operation that is attached as the only one with its id. -/
theorem Tracked.register (h : Tracked c) (hobject : c.objects[n]? = some o)
    (halone : ∀ p ∈ c.rivals n o, p.1.deadline.reached c.now = true ∧ .attached p.2 p.1 ∉ c.log) :
    Tracked (c.register n o) := by
  have hexpired : ∀ n' o', c.objects[n']? = some o' → o'.operationId = o.operationId →
      n' = n ∨ c.expired n' := by
    intro n' o' hother hid
    rcases eq_or_ne n' n with heq | hne
    · exact .inl heq
    · exact .inr ⟨o', hother, (halone (o', n') (mem_rivals.mpr ⟨hother, hne, hid⟩)).1⟩
  have hsame : ∀ n' o', .attached n' o' ∈ c.log → o'.operationId = o.operationId → n' = n := by
    intro n' o' hin hid
    by_contra hne
    exact (halone (o', n') (mem_rivals.mpr ⟨h.attached n' o' hin, hne, hid⟩)).2 hin
  have hlog {n' : Nat} {o' : SensorOperation T} (hin : .attached n' o' ∈ (c.register n o).log) :
      .attached n' o' ∈ c.log ∨ n' = n ∧ o' = o := by
    rcases List.mem_append.mp hin with hold | hnew
    · exact .inl hold
    · cases List.mem_singleton.mp hnew
      exact .inr ⟨rfl, rfl⟩
  have hsections {m : Metadata T} {n' : Nat} (hin : .handle m n' ∈ (c.register n o).sections) :
      .handle m n' ∈ c.sections := by
    rcases List.mem_append.mp hin with hold | hnew
    · exact hold
    · cases List.mem_singleton.mp hnew
  refine ⟨fun n' o' hin => ?_, fun n' hin => ?_, fun key n' hkey => ?_,
    fun m n' hin => h.handled m n' (hsections hin), fun n' o' hin x hkey => ?_,
    fun n' o' hin m x hsection hid => ?_, justified_snoc.mpr ⟨h.allowed, trivial⟩⟩
  · rcases hlog hin with hold | ⟨rfl, rfl⟩
    · exact h.attached n' o' hold
    · exact hobject
  · rcases List.mem_append.mp hin with hold | hnew
    · exact h.cancelled n' hold
    · cases List.mem_singleton.mp hnew
  · rcases eq_or_ne key o.operationId with rfl | hne
    · cases (Function.update_self o.operationId _ _).symm.trans hkey
      exact ⟨o, hobject, rfl⟩
    · have hother := (Function.update_of_ne hne _ _).symm.trans hkey
      exact h.table key n' (purge_operations.mp hother).1
  · rcases eq_or_ne o'.operationId o.operationId with hid | hne
    · rw [hid] at hkey
      cases (Function.update_self o.operationId _ _).symm.trans hkey
      rcases hlog hin with hold | ⟨rfl, -⟩
      · exact .inl (hsame n' o' hold hid).symm
      · exact .inl rfl
    · have hother := (Function.update_of_ne hne _ _).symm.trans hkey
      rcases hlog hin with hold | ⟨-, rfl⟩
      · exact h.owner n' o' hold x (purge_operations.mp hother).1
      · exact absurd rfl hne
  · rcases hlog hin with hold | ⟨rfl, rfl⟩
    · exact h.fence n' o' hold m x (hsections hsection) hid
    · obtain ⟨ox, hox, hidx⟩ := h.handled m x (hsections hsection)
      exact hexpired x ox hox (hidx.trans hid)

/-- The step lemma. -/
theorem Tracked.step (h : Tracked c) {action : Action T} {c' : Connection T}
    (hspares : spares c action) (hstep : step c action = some c') : Tracked c' := by
  cases action with
  | tick now =>
    have htick : (if c.now ≤ now then some { c with now := now } else none) = some c' := hstep
    split at htick
    · rename_i hle
      cases htick
      exact h.later ⟨hle, fun _ _ hx => hx⟩ (fun _ _ hkey => hkey) (fun _ _ hin => hin)
        (fun _ _ hin => hin) h.cancelled h.allowed
    · cases htick
  | create operation =>
    cases hstep
    exact h.later ⟨le_rfl, fun _ _ => getElem?_append_of_some⟩ (fun _ _ hkey => hkey)
      (fun _ _ hin => hin) (fun _ _ hin => hin) h.cancelled h.allowed
  | cancel object =>
    cases hstep
    refine h.later (.of_eq rfl rfl) (fun _ _ hkey => hkey) (fun _ _ hin => hin)
      (fun n o hin => ?_) (fun n hin => ?_) (justified_snoc.mpr ⟨h.allowed, trivial⟩)
    · rcases List.mem_append.mp hin with hold | hnew
      · exact hold
      · cases List.mem_singleton.mp hnew
    · rcases List.mem_append.mp hin with hold | hnew
      · exact Finset.mem_insert_of_mem (h.cancelled n hold)
      · cases List.mem_singleton.mp hnew
        exact Finset.mem_insert_self _ _
  | send object =>
    cases hstep
    split
    · exact h.cons_section nofun
    · exact h
  | receive m =>
    cases hstep
    exact h.receive hspares
  | run index =>
    have herased := h.erase_section index
    cases hs : c.sections[index]? with
    | none =>
      simp only [Operations.step, hs] at hstep
      cases hstep
    | some s =>
      simp only [Operations.step, hs] at hstep
      cases s with
      | register object =>
        obtain ⟨o, hobject, rfl⟩ := Option.map_eq_some_iff.mp hstep
        exact herased.register hobject (hspares _ hs o hobject)
      | write object =>
        cases hstep
        split
        · rename_i hcheck
          exact herased.note nofun nofun fun o hin => herased.allowed_of_check hcheck hin
        · exact herased
      | handle m object =>
        cases hstep
        split
        · rename_i hcheck
          refine herased.note nofun nofun fun n o hin hwire => ?_
          have hid : m.id = o.operationId := hwire ▸ rfl
          rcases h.fence n o hin m object (List.mem_of_getElem? hs) hid with rfl | hexpired
          · exact herased.allowed_of_check hcheck hin
          · exact absurd hexpired (not_expired_of_check hcheck)
        · exact herased

theorem tracked_init (now : T) : Tracked (init now) :=
  ⟨nofun, nofun, nofun, nofun, nofun, nofun, justified_nil _⟩

end Steps

/-- **Cancelled operations stay fenced**, in every run whose steps meet the condition. -/
theorem stays_fenced (start : T) (actions : List (Action T))
    (hspares : Machine.Along step spares (init start) actions) (k : Nat) (c : Connection T)
    (hrun : Machine.exec step (init start) (actions.take k) = some c) : Justified Allowed c.log :=
  ((hspares.take k).invariant (tracked_init start)
    (fun _ _ _ hok hstep htracked => htracked.step hok hstep) hrun).allowed

/-- An operation is sent and expires, and its late request is refused. -/
def late : List (Action Nat) :=
  [.create ⟨"stop", .at 5⟩, .send 0, .run 0, .run 0, .tick 5, .receive ⟨"stop", some (.at 5)⟩,
    .run 0]

theorem stays_fenced_late : ∃ c, Machine.exec step (init 0) (late.take 7) = some c ∧
    Justified Allowed c.log := by
  obtain ⟨c, hrun⟩ : ∃ c, Machine.exec step (init 0) (late.take 7) = some c :=
    Option.isSome_iff_exists.mp (by decide)
  exact ⟨c, hrun, stays_fenced 0 late (by decide) 7 c hrun⟩

/-- Before it, another request comes under the same id, with a later deadline. -/
def revived : List (Action Nat) :=
  [.create ⟨"stop", .at 5⟩, .send 0, .run 0, .run 0, .tick 5, .receive ⟨"stop", some (.at 9)⟩,
    .receive ⟨"stop", some (.at 5)⟩, .run 1]

theorem not_always_fenced : ¬ ∀ (actions : List (Action Nat)) k c,
    Machine.exec step (init 0) (actions.take k) = some c → Justified Allowed c.log := by
  intro hall
  have hlog : (Machine.exec step (init 0) revived).map Connection.log =
      some [.attached 0 ⟨"stop", .at 5⟩, .sent 0 0, .handled ⟨"stop", some (.at 5)⟩ 5] := by decide
  obtain ⟨c, hrun, hc⟩ := Option.map_eq_some_iff.mp hlog
  have hallowed := hall revived 8 c hrun
  rw [hc] at hallowed
  have hlate := hallowed [.attached 0 ⟨"stop", .at 5⟩, .sent 0 0] _ [] rfl 0 ⟨"stop", .at 5⟩
    List.mem_cons_self rfl
  exact absurd hlate.2 (by decide)

end NexusN3.Plugins.Operations
