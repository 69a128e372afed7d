import Mathlib.Data.List.Basic

/-!
# A queue with one consumer and a join

Producers put items, one consumer takes them and reports each one done, and a join waits until
nothing is unfinished. The count a join waits on is kept beside the items; that the two agree is
part of the structure.

* **`TaskQueue.inFlight`** — what has been put and is not done: the item taken, then the ones that
  wait.
* **`TaskQueue.joined_iff`** — a join ends exactly when nothing is in flight.
-/

namespace NexusN3.Lib

universe u

structure TaskQueue (α : Type u) where
  items : List α
  /-- the item the consumer has, not yet done -/
  taken : Option α
  /-- the count a join waits on -/
  unfinished : Nat
  counted : unfinished = items.length + taken.toList.length
  deriving DecidableEq

namespace TaskQueue

variable {α : Type u}

def empty : TaskQueue α where
  items := []
  taken := none
  unfinished := 0
  counted := rfl

def put (q : TaskQueue α) (x : α) : TaskQueue α where
  items := q.items ++ [x]
  taken := q.taken
  unfinished := q.unfinished + 1
  counted := by rw [q.counted, List.length_append, List.length_singleton, Nat.add_right_comm]

/-- Put the items of a list one after another. -/
def putAll (q : TaskQueue α) (xs : List α) : TaskQueue α := xs.foldl put q

/-- The consumer takes the first item; it waits while there is none. -/
def get (q : TaskQueue α) : Option (TaskQueue α) :=
  match q with
  | ⟨x :: rest, none, n, hcount⟩ => some ⟨rest, some x, n, by simpa using hcount⟩
  | _ => none

/-- The consumer is done with the item it has. -/
def taskDone (q : TaskQueue α) : TaskQueue α where
  items := q.items
  taken := none
  unfinished := q.unfinished - q.taken.toList.length
  counted := by rw [q.counted, Nat.add_sub_cancel]; rfl

/-- What has been put and is not done. -/
def inFlight (q : TaskQueue α) : List α := q.taken.toList ++ q.items

@[simp] theorem inFlight_empty : (empty : TaskQueue α).inFlight = [] := rfl

@[simp] theorem inFlight_put (q : TaskQueue α) (x : α) :
    (q.put x).inFlight = q.inFlight ++ [x] := by
  simp [inFlight, put]

@[simp] theorem inFlight_putAll (q : TaskQueue α) (xs : List α) :
    (q.putAll xs).inFlight = q.inFlight ++ xs := by
  unfold putAll
  induction xs generalizing q with
  | nil => simp
  | cons x xs ih =>
    rw [List.foldl_cons, ih (q.put x), inFlight_put, List.append_assoc]
    rfl

theorem inFlight_get {q q' : TaskQueue α} (h : q.get = some q') : q'.inFlight = q.inFlight := by
  unfold get at h
  split at h
  · cases h
    rfl
  · cases h

theorem unfinished_get {q q' : TaskQueue α} (h : q.get = some q') :
    q'.unfinished = q.unfinished ∧ q'.taken.isSome = true := by
  unfold get at h
  split at h
  · cases h
    exact ⟨rfl, rfl⟩
  · cases h

/-- An idle consumer takes an item whenever something is unfinished. -/
theorem get_isSome {q : TaskQueue α} (hidle : q.taken = none) (hpos : 0 < q.unfinished) :
    q.get.isSome = true := by
  obtain ⟨items, taken, n, hcount⟩ := q
  cases hidle
  cases items with
  | nil =>
    have hzero : n = 0 := by simpa using hcount
    exact absurd hzero (Nat.ne_of_gt hpos)
  | cons x rest => rfl

theorem mem_inFlight_taken {q : TaskQueue α} {x : α} (h : q.taken = some x) : x ∈ q.inFlight := by
  unfold inFlight
  rw [h]
  exact List.mem_cons_self

theorem mem_inFlight_of_taskDone {q : TaskQueue α} {x : α} (h : x ∈ q.taskDone.inFlight) :
    x ∈ q.inFlight :=
  List.mem_append_right _ h

theorem unfinished_taskDone {q : TaskQueue α} (h : q.taken.isSome = true) :
    q.taskDone.unfinished + 1 = q.unfinished := by
  obtain ⟨x, hx⟩ := Option.isSome_iff_exists.mp h
  have hcount := q.counted
  have hlength : q.taken.toList.length = 1 := by rw [hx]; rfl
  rw [hlength] at hcount
  show q.unfinished - q.taken.toList.length + 1 = q.unfinished
  rw [hlength, hcount, Nat.add_sub_cancel]

/-- A join ends exactly when nothing is in flight. -/
theorem joined_iff {q : TaskQueue α} : q.unfinished = 0 ↔ q.inFlight = [] := by
  rw [q.counted, ← List.length_eq_zero_iff]
  unfold inFlight
  rw [List.length_append, Nat.add_comm]

end TaskQueue

end NexusN3.Lib
