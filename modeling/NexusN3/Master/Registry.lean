import NexusN3.Lib.Dict
import NexusN3.Lib.Text
import NexusN3.Master.Drain
import Mathlib.Algebra.BigOperators.Group.List.Defs
import Mathlib.Algebra.Group.Int.Defs
import Mathlib.Data.Finset.Union
import Mathlib.Algebra.Ring.Int.Defs

/-!
# The node registry and the planning of subjects

`registry.py`, the capability tests of `capabilities.py`, and `_plan_subject_assignments` of
the master: which node hosts which subject, decided subject by subject under a limit on the
sensors of one node. The planning reads the registry and changes nothing.

The case folding of names is a parameter (`lower`): nothing here depends on what it maps a
letter to.
-/

namespace NexusN3

open Lib

def maxTotalSensorsPerNode : Int := 8

/-! ## Nodes -/

inductive NodeRole where
  | master
  | worker
  | ai
  deriving DecidableEq

structure Capabilities where
  supportedSensors : List String := []
  supportedAlgorithms : List String := []
  deriving DecidableEq

structure NodeEntry where
  role : NodeRole := .worker
  identity : Option String := none
  capabilities : Capabilities := {}
  deriving DecidableEq

/-- `NodeRegistry`: the nodes, and the node each subject is assigned to. -/
structure Registry where
  nodes : Dict NodeId NodeEntry := .empty
  subjects : Dict String NodeId := .empty
  deriving DecidableEq

namespace Registry

def registerNode (r : Registry) (node : NodeId) (entry : NodeEntry) : Registry :=
  { r with nodes := r.nodes.set node entry }

def replaceSubjects (r : Registry) (assignments : Dict String NodeId) : Registry :=
  { r with subjects := assignments }

/-- `get_identity`, read for its truth. -/
def hasIdentity (r : Registry) (node : NodeId) : Bool :=
  ((r.nodes.get? node).bind fun entry => truthy entry.identity).isSome

/-- The node a command for a subject is sent to; a subject nobody registered is the master's. -/
def nodeOf (r : Registry) (subjectId : String) : NodeId :=
  (r.subjects.get? subjectId).getD masterId

end Registry

/-! ## Subjects and what they need -/

structure SensorConf where
  localName : Option String := none
  numberOf : Int := 1
  algorithmName : Option String := none
  deriving DecidableEq

/-- A subject of an INIT payload. The id is `none` when it is missing or no text. -/
structure SubjectConf where
  subjectId : Option String
  sensors : List SensorConf := []
  deriving DecidableEq

def SubjectConf.id (s : SubjectConf) : String := s.subjectId.getD ""

def SubjectConf.sensorCount (s : SubjectConf) : Int := (s.sensors.map SensorConf.numberOf).sum

structure Requirements where
  sensors : List String
  algorithms : List String
  deriving DecidableEq

/-- `_subject_requirements`: the names that are left when blanks are stripped. -/
def subjectRequirements (s : SubjectConf) : Requirements :=
  let named (name : SensorConf → Option String) : List String :=
    (s.sensors.map fun conf => strip ((name conf).getD "")).filter (· ≠ "")
  { sensors := named SensorConf.localName, algorithms := named SensorConf.algorithmName }

section Planning

variable (lower : String → String)

/-- `_normalize_name`. -/
def normalizeName (name : String) : String := lower (strip name)

/-- `supports_sensor` and `supports_algorithm`, on the list each of them reads. -/
def supportsName (names : List String) (name : String) : Bool :=
  decide (name ≠ "") && decide (normalizeName lower name ∈ names.map (normalizeName lower))

def supportsSensor (c : Capabilities) (name : String) : Bool :=
  supportsName lower c.supportedSensors name

def supportsAlgorithm (c : Capabilities) (name : String) : Bool :=
  supportsName lower c.supportedAlgorithms name

/-- `_node_supports_subject`. -/
def nodeSupportsSubject (entry : NodeEntry) (s : SubjectConf) : Bool :=
  ((subjectRequirements s).sensors.all fun name => supportsSensor lower entry.capabilities name)
    && (subjectRequirements s).algorithms.all fun name => supportsAlgorithm lower entry.capabilities name

/-! ## The plan -/

/-- The `ValueError`s of the planning, with what their texts name. -/
inductive PlanError where
  -- "Subjects must be a list"
  | notAList
  -- "Subject IDs must be nonempty and unique"
  | badSubjectIds
  -- "No execution-capable nodes are registered"
  | noExecutionNodes
  -- "No execution-capable node can host subject ..."
  | noHost (subjectId : Option String) (requirements : Requirements)
  -- "Node would be assigned ... sensors across subjects ..., which exceeds the maximum allowed"
  | tooManySensors (total : Int) (subjectIds : List (Option String))
  deriving DecidableEq

/-- Subjects per node, in the order they were given. -/
abbrev Plan := Dict NodeId (List SubjectConf)

structure PlanState where
  nodeSubjects : Plan
  sensorCounts : Dict NodeId Int

def PlanState.count (st : PlanState) (node : NodeId) : Int := (st.sensorCounts.get? node).getD 0

/-- The key of the selection: fewest sensors, then the master, then the smaller id. -/
def PlanState.before (st : PlanState) (a b : NodeId) : Bool :=
  decide (st.count a < st.count b)
    || decide (st.count a = st.count b)
      && (decide (a = masterId) && decide (b ≠ masterId)
        || decide (a = masterId ↔ b = masterId) && decide (a < b))

/-- The first node that no other one precedes. -/
def PlanState.select (st : PlanState) : List NodeId → Option NodeId
  | [] => none
  | node :: rest => some (rest.foldl (fun best n => if st.before n best then n else best) node)

/-- The body of the loop over the subjects. -/
def planSubject (executionNodes : List (NodeId × NodeEntry)) (st : PlanState) (s : SubjectConf) :
    Except PlanError PlanState :=
  let eligible := executionNodes.filter fun n =>
    nodeSupportsSubject lower n.2 s && decide (st.count n.1 + s.sensorCount ≤ maxTotalSensorsPerNode)
  match st.select (eligible.map Prod.fst) with
  | none => .error (.noHost s.subjectId (subjectRequirements s))
  | some node => .ok
    { nodeSubjects := st.nodeSubjects.set node (((st.nodeSubjects.get? node).getD []) ++ [s])
      sensorCounts := st.sensorCounts.set node (st.count node + s.sensorCount) }

/-- `_validate_subjects_per_node`. -/
def validateSubjectsPerNode (subjects : List SubjectConf) : Except PlanError Unit :=
  let total := (subjects.map SubjectConf.sensorCount).sum
  if total > maxTotalSensorsPerNode then .error (.tooManySensors total (subjects.map SubjectConf.subjectId))
  else .ok ()

/-- Every id is a nonempty text, and no two are the same. -/
def validSubjectIds (subjects : List SubjectConf) : Bool :=
  subjects.all (fun s => (truthy s.subjectId).isSome)
    && decide ((subjects.map SubjectConf.subjectId).Nodup)

/-- `_plan_subject_assignments`; `none` stands for a payload that is no list. -/
def planSubjectAssignments (r : Registry) (subjects : Option (List SubjectConf)) :
    Except PlanError Plan := do
  let some subjects := subjects | throw .notAList
  if !validSubjectIds subjects then throw .badSubjectIds
  let executionNodes := r.nodes.entries.filter fun n =>
    decide (n.2.role = .master ∨ n.2.role = .worker)
  if executionNodes.isEmpty then throw .noExecutionNodes
  let start : PlanState :=
    { nodeSubjects := Dict.ofList (executionNodes.map fun n => (n.1, []))
      sensorCounts := Dict.ofList (executionNodes.map fun n => (n.1, 0)) }
  let final ← subjects.foldlM (planSubject lower executionNodes) start
  for subs in final.nodeSubjects.values do
    if subs ≠ [] then validateSubjectsPerNode subs
  return final.nodeSubjects

end Planning

/-- The subject-to-node map a plan asks for. -/
def Plan.assignments (plan : Plan) : Dict String NodeId :=
  Dict.ofList (plan.entries.flatMap fun e => e.2.map fun s => (s.id, e.1))

/-- `plan.setdefault(node, [])` for every required node. -/
def Plan.withNodes (plan : Plan) (nodes : List NodeId) : Plan :=
  nodes.foldl (fun p n => if (p.get? n).isSome then p else p.set n []) plan

end NexusN3
