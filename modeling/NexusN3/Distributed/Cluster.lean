import NexusN3.Core.Commit
import NexusN3.Master.Streams

/-!
# The master and its Cores

The whole deployment: one master and a Core on every node, with nothing between them but
messages. A start and a commit are in flight from the moment the master sends them
(`Master.starts`, `Master.commits`), a READY and an OFFICIAL_STARTED from the moment a Core
emits them (`World.emitted`). A message in flight may be delivered at any later time, any
number of times or never, so reordering, duplication and loss need no rule of their own.

* **`Cluster.inFlight`** — what a step that receives a message asks for. Stops, the sensor
  layer, configuration and the sections of calls run freely on each Core, and so does
  everything the master does apart from hearing startup events.
* **`Cluster.snapshots`** — the official-start records as their START created them, kept after
  the master has replaced them. Nothing reads it but the rule that start ids are not reused.
-/

namespace NexusN3

open Lib

structure Cluster where
  master : Master
  cores : NodeId → World
  snapshots : Dict String OfficialRecord := .empty

inductive ClusterAction where
  | master (action : MasterAction)
  | core (node : NodeId) (action : Action)

namespace Cluster

/-- The message a step consumes was sent before. A Core may also be started for itself, but a
coordinated start and a commit come from the master. -/
def inFlight (c : Cluster) : ClusterAction → Bool
  | .master (.officialEvent node ev) => decide (ev ∈ (c.cores node).emitted)
  | .master _ => true
  | .core node (.startStream p) =>
    decide (p.officialStartMode ≠ .coordinated) || decide (⟨node, false, p⟩ ∈ c.master.starts)
  | .core node (.startStreamForSubjects p) =>
    decide (p.officialStartMode ≠ .coordinated) || decide (⟨node, true, p⟩ ∈ c.master.starts)
  | .core node (.startOfficialStream p) => decide (⟨node, p⟩ ∈ c.master.commits)
  | .core _ _ => true

/-- A step of the master. An admitted START brings an id that no earlier one had, and its
record is kept. -/
def masterStep (lower : String → String) (c : Cluster) (a : MasterAction) : Option Cluster :=
  match c.master.startedBy a with
  | none => (c.master.step lower a).map fun w => { c with master := w }
  | some (_, p, env) =>
    let sid := Master.startSessionIdOf p env
    match c.snapshots.get? sid with
    | some _ => none
    | none =>
      (c.master.step lower a).bind fun w =>
        (w.official.tracking.get? sid).map fun record =>
          { c with master := w, snapshots := c.snapshots.set sid record }

def coreStep (c : Cluster) (node : NodeId) (a : Action) : Option Cluster :=
  ((c.cores node).step a).map fun w => { c with cores := Function.update c.cores node w }

def step (lower : String → String) (c : Cluster) (a : ClusterAction) : Option Cluster :=
  if c.inFlight a then
    match a with
    | .master a => c.masterStep lower a
    | .core node a => c.coreStep node a
  else none

/-- Every node as its constructor leaves it. -/
def boot (entry : NodeEntry) (policy : NodeId → StartupPolicy) : Cluster :=
  { master := Master.boot entry, cores := fun node => { core := { policy := policy node } } }

def Reachable (lower : String → String) (entry : NodeEntry) (policy : NodeId → StartupPolicy)
    (c : Cluster) : Prop :=
  Machine.Reach (step lower) (boot entry policy) c

/-! ## The two sides of a step -/

variable {lower : String → String} {c c' : Cluster}

/-- A step of a Core: the Core makes it, and everything else stays. -/
theorem core_of_step {node : NodeId} {a : Action} (h : c.step lower (.core node a) = some c') :
    c.inFlight (.core node a) = true ∧ c'.master = c.master ∧ c'.snapshots = c.snapshots
      ∧ (c.cores node).step a = some (c'.cores node) ∧ ∀ n, n ≠ node → c'.cores n = c.cores n := by
  unfold step at h
  split at h
  · rename_i hflight
    obtain ⟨w, hw, rfl⟩ := Option.map_eq_some_iff.mp h
    refine ⟨hflight, rfl, rfl, ?_, ?_⟩
    · rw [hw]
      simp
    · intro n hn
      exact Function.update_of_ne hn _ _
  · cases h

/-- A step of the master: the Cores stay, and an admitted START keeps the record it made. -/
theorem master_of_step {a : MasterAction} (h : c.step lower (.master a) = some c') :
    c.inFlight (.master a) = true ∧ c'.cores = c.cores ∧ c.master.step lower a = some c'.master
      ∧ ((c.master.startedBy a = none ∧ c'.snapshots = c.snapshots)
        ∨ ∃ specific p env record, c.master.startedBy a = some (specific, p, env)
          ∧ c.snapshots.get? (Master.startSessionIdOf p env) = none
          ∧ c'.master.official.tracking.get? (Master.startSessionIdOf p env) = some record
          ∧ c'.snapshots = c.snapshots.set (Master.startSessionIdOf p env) record) := by
  unfold step at h
  split at h
  · rename_i hflight
    simp only [masterStep] at h
    split at h
    · rename_i hstart
      obtain ⟨w, hw, rfl⟩ := Option.map_eq_some_iff.mp h
      exact ⟨hflight, rfl, hw, .inl ⟨hstart, rfl⟩⟩
    · rename_i specific p env hstart
      split at h
      · cases h
      · rename_i hfresh
        obtain ⟨w, hw, hrecord⟩ := Option.bind_eq_some_iff.mp h
        obtain ⟨record, hget, rfl⟩ := Option.map_eq_some_iff.mp hrecord
        exact ⟨hflight, rfl, hw, .inr ⟨specific, p, env, record, hstart, hfresh, hget, rfl⟩⟩
  · cases h

end Cluster

end NexusN3
