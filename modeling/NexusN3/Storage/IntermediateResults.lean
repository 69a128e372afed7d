import NexusN3.Lib.Dict
import NexusN3.Lib.Machine
import NexusN3.Lib.Ndjson
import Mathlib.Logic.Function.Basic

/-!
# The way of an intermediate result

`Core._on_intermediate_result` divides a result among the subjects that it is about. Each of them
filters its part once more and appends it to a file, one JSON document a line. At the end of the
stream `run_consolidation` reads the file back and keeps the documents of its algorithm.

* **`subjectsMap`** — the division.
* **`share`** — a subject's part of a result, said without the loop.
* **`State.step`** — results arrive on any threads; subjects start and stop meanwhile.
* **`read_due`** — what is read back for a subject and an algorithm is its share of every result of
  the algorithm that has come to the subject since its file was made.
-/

namespace NexusN3.Storage.IntermediateResults

open Lib

set_option linter.unusedSectionVars false

abbrev Place := List String

/-! ## Results and subjects -/

/-- One entry of `result["results"]`; `location` is absent, or `None`, or a text. -/
structure Entry (ρ : Type) where
  address : Option String
  subjectId : Option String
  location : Option (Option String)
  rest : ρ
  deriving DecidableEq

inductive Stage where
  | enum (name value : String)
  | text (s : String)

/-- What `json.dumps` makes of a stage. -/
def Stage.written : Stage → String
  | enum name _ => name
  | text s => s

/-- What goes into an event: `str(stage.value)`. -/
def Stage.emitted : Stage → String
  | enum _ value => value
  | text s => s

structure IntermediateResult (ρ : Type) where
  algorithmName : Option String
  stage : Stage
  results : List (Entry ρ)

/-- A document of the file. -/
structure Record (ρ : Type) where
  algorithmName : Option String
  stage : String
  results : List (Entry ρ)
  deriving DecidableEq

structure Sensor where
  address : Option String
  location : Option String

structure Subject where
  subjectId : String
  sensors : List Sensor
  isStreaming : Bool

def Subject.hasAddress (sub : Subject) (address : String) : Bool :=
  sub.sensors.any fun sensor => decide (sensor.address = some address)

/-- A text that is not empty. -/
def given (text : Option String) : Option String := text.filter (· ≠ "")

section Division

variable {ρ : Type} (subjects : List Subject)

/-- `find_subject_by_address`, or `find_subject_by_id` for an entry without an address; the place of
the subject in the graph. -/
def owner (entry : Entry ρ) : Option Nat :=
  match given entry.address with
  | some address => subjects.findIdx? fun sub => sub.hasAddress address
  | none =>
    match given entry.subjectId with
    | some subjectId => subjects.findIdx? fun sub => decide (sub.subjectId = subjectId)
    | none => none

/-- `entry["location"] = …`. -/
def located (entry : Entry ρ) : Entry ρ :=
  match given entry.address with
  | none => entry
  | some address =>
    match subjects.find? fun sub => sub.hasAddress address with
    | none => entry
    | some sub =>
      match sub.sensors.find? fun sensor => decide (sensor.address = some address) with
      | none => entry
      | some sensor => { entry with location := some sensor.location }

def streaming (i : Nat) : Bool := (subjects[i]?).any Subject.isStreaming

/-- One turn of the loop of `_on_intermediate_result`. -/
def assign (found : Dict Nat (List (Entry ρ))) (entry : Entry ρ) : Dict Nat (List (Entry ρ)) :=
  match owner subjects entry with
  | none => found
  | some i =>
    if streaming subjects i then
      found.set i ((found.get? i).getD [] ++ [located subjects entry])
    else found

/-- `subjects_map`, by the places of the subjects. -/
def subjectsMap (results : List (Entry ρ)) : Dict Nat (List (Entry ρ)) :=
  results.foldl (assign subjects) Dict.empty

/-- The entries of a result that are about the subject at `i`. -/
def part (results : List (Entry ρ)) (i : Nat) : List (Entry ρ) :=
  (results.filter fun entry => decide (owner subjects entry = some i)).map (located subjects)

/-- `Subject.ingest_intermediate_result`, up to the write: the algorithm and the document. -/
def ingestIntermediateResult (sub : Subject) (result : IntermediateResult ρ) :
    Option (String × Record ρ) :=
  let subjectResults := result.results.filter fun entry =>
    ((given entry.address).any fun address => sub.hasAddress address) ||
      decide (entry.subjectId = some sub.subjectId)
  if subjectResults = [] then none
  else
    match given result.algorithmName with
    | none => none
    | some algorithm =>
      some (algorithm, ⟨result.algorithmName, result.stage.written, subjectResults⟩)

end Division

/-! ## The division is right -/

section Division

variable {ρ : Type} {subjects : List Subject}

theorem part_concat (results : List (Entry ρ)) (entry : Entry ρ) (i : Nat) :
    part subjects (results ++ [entry]) i =
      part subjects results i ++
        if owner subjects entry = some i then [located subjects entry] else [] := by
  unfold part
  rw [List.filter_append, List.map_append]
  split
  · rename_i howner
    simp [howner]
  · rename_i howner
    simp [howner]

/-- **Every entry goes to the subject that it is about**, if that one is streaming, and to nobody
else; the entries of a subject stay in their order. Induction on the result, from its end. -/
theorem get?_subjectsMap (subjects : List Subject) (results : List (Entry ρ)) (i : Nat) :
    (subjectsMap subjects results).get? i =
      if streaming subjects i = true ∧ part subjects results i ≠ [] then
        some (part subjects results i)
      else none := by
  induction results using List.reverseRecOn with
  | nil => simp [subjectsMap, part]
  | append_singleton results entry ih =>
    have hfold : subjectsMap subjects (results ++ [entry]) =
        assign subjects (subjectsMap subjects results) entry := by
      rw [subjectsMap, List.foldl_append]
      rfl
    rw [hfold, part_concat]
    unfold assign
    cases howner : owner subjects entry with
    | none => simpa using ih
    | some j =>
      by_cases hji : j = i
      · subst hji
        by_cases hstreaming : streaming subjects j = true
        · -- what was there is the part so far, or nothing
          have hbefore : ((subjectsMap subjects results).get? j).getD [] =
              part subjects results j := by
            rw [ih]
            by_cases hpart : part subjects results j = []
            · simp [hpart]
            · simp [hstreaming, hpart]
          simp [hstreaming, hbefore]
        · simp [hstreaming, ih]
      · have hnot : ¬(some j = some i) := fun heq => hji (Option.some.inj heq)
        rw [if_neg hnot, List.append_nil, ← ih]
        dsimp only
        split
        · exact Dict.get?_set_ne _ _ hji
        · rfl

theorem given_eq_some {text : Option String} {s : String} (h : given text = some s) :
    text = some s :=
  (Option.filter_eq_some_iff.mp h).1

theorem located_address (entry : Entry ρ) :
    (located subjects entry).address = entry.address ∧
      (located subjects entry).subjectId = entry.subjectId := by
  unfold located
  split
  · exact ⟨rfl, rfl⟩
  · split
    · exact ⟨rfl, rfl⟩
    · split <;> exact ⟨rfl, rfl⟩

/-- The subject's own filter agrees with the division. -/
theorem keeps_part {results : List (Entry ρ)} {i : Nat} {sub : Subject}
    (hsub : subjects[i]? = some sub) :
    (part subjects results i).filter (fun entry =>
      ((given entry.address).any fun address => sub.hasAddress address) ||
        decide (entry.subjectId = some sub.subjectId)) = part subjects results i := by
  obtain ⟨hi, hget⟩ := List.getElem?_eq_some_iff.mp hsub
  rw [List.filter_eq_self]
  intro entry hentry
  obtain ⟨original, horiginal, rfl⟩ := List.mem_map.mp hentry
  have howner := of_decide_eq_true (List.mem_filter.mp horiginal).2
  obtain ⟨haddress, hsubject⟩ := @located_address _ subjects original
  rw [haddress, hsubject]
  unfold owner at howner
  cases hgiven : given original.address with
  | some address =>
    rw [hgiven] at howner
    have hhas := (List.findIdx?_eq_some_iff_getElem.mp howner).2.1
    rw [hget] at hhas
    simp [hhas]
  | none =>
    rw [hgiven] at howner
    dsimp only at howner
    split at howner
    · rename_i subjectId hid
      have hhas := (List.findIdx?_eq_some_iff_getElem.mp howner).2.1
      rw [hget] at hhas
      rw [given_eq_some hid, of_decide_eq_true hhas]
      simp
    · cases howner

/-- What a subject makes of its part: all of it, when the result names an algorithm. -/
theorem ingestIntermediateResult_part {result : IntermediateResult ρ} {i : Nat} {sub : Subject}
    (hsub : subjects[i]? = some sub) (hpart : part subjects result.results i ≠ []) :
    ingestIntermediateResult sub { result with results := part subjects result.results i } =
      (given result.algorithmName).map fun algorithm =>
        (algorithm,
          ⟨result.algorithmName, result.stage.written, part subjects result.results i⟩) := by
  unfold ingestIntermediateResult
  dsimp only
  rw [keeps_part hsub, if_neg hpart]
  cases given result.algorithmName <;> rfl

/-- **A result is divided rightly.** The subject at `i` gets the entries that are about it, in their
order, if it is streaming and there are any; nobody else gets them; and the subject's own filter
keeps all that it was given, for the file of the result's algorithm. -/
theorem result_divided (subjects : List Subject) (result : IntermediateResult ρ) (i : Nat) :
    (subjectsMap subjects result.results).get? i =
        (if streaming subjects i = true ∧ part subjects result.results i ≠ [] then
          some (part subjects result.results i)
        else none) ∧
      ∀ sub entries, subjects[i]? = some sub →
        (subjectsMap subjects result.results).get? i = some entries →
          ingestIntermediateResult sub { result with results := entries } =
            (given result.algorithmName).map fun algorithm =>
              (algorithm, ⟨result.algorithmName, result.stage.written, entries⟩) := by
  have hdivided := get?_subjectsMap subjects result.results i
  refine ⟨hdivided, ?_⟩
  intro sub entries hsub hentries
  rw [hdivided] at hentries
  split at hentries
  · rename_i hpart
    cases hentries
    exact ingestIntermediateResult_part hsub hpart.2
  · cases hentries

end Division

/-! ## The system -/

/-- A result that is to be given to the subject at `index` of the graph as it was then. -/
structure Delivery (ρ : Type) where
  result : IntermediateResult ρ
  graph : List Subject
  index : Nat

namespace Delivery

variable {ρ : Type}

def subject? (d : Delivery ρ) : Option Subject := d.graph[d.index]?

def subjectId (d : Delivery ρ) : Option String := d.subject?.map Subject.subjectId

/-- What the result says of the subject. -/
def share (d : Delivery ρ) : Record ρ :=
  ⟨d.result.algorithmName, d.result.stage.written, part d.graph d.result.results d.index⟩

end Delivery

/-- The turns of the second loop of `_on_intermediate_result`. -/
def deliveries {ρ : Type} (graph : List Subject) (result : IntermediateResult ρ) :
    List (Delivery ρ × List (Entry ρ)) :=
  (subjectsMap graph result.results).entries.map fun e => (⟨result, graph, e.1⟩, e.2)

/-- The payload of an `EVT_INTERMEDIATE_RESULT`. -/
structure Payload (ρ : Type) where
  subjectId : String
  algorithmName : Option String
  stage : String
  results : List (Entry ρ)

structure State (Thread ρ : Type) where
  subjects : List Subject
  officialOutputsActive : Bool
  /-- `_subject_algorithm_intermediate_paths` -/
  paths : Dict (String × String) Place
  files : Place → Option (List Char)
  /-- what a thread in `_on_intermediate_result` has still to give to subjects -/
  todo : Thread → List (Delivery ρ × List (Entry ρ))
  emitted : List (Delivery ρ × Payload ρ)
  /-- what has come to a subject, for an algorithm, since its file was made -/
  due : String × String → List (Delivery ρ)

inductive Action (Thread ρ : Type) where
  | configure (subjects : List Subject)
  | official (active : Bool)
  /-- `start_stream` makes the file of a subject and an algorithm -/
  | opened (subjectId algorithm : String) (path : Place)
  | stopStream (subjectId : String)
  | arrive (t : Thread) (result : IntermediateResult ρ)
  /-- the next subject of the thread's result; the write raises or not -/
  | deliver (t : Thread) (ok : Bool)

namespace State

variable {Thread ρ : Type} [DecidableEq Thread] (fmt : Ndjson.Format (Record ρ))

def openFile (s : State Thread ρ) (key : String × String) (path : Place) : State Thread ρ :=
  { s with
    paths := s.paths.set key path
    files := Function.update s.files path (some [])
    due := Function.update s.due key [] }

/-- `write_intermediate_json`, and whether it raises. -/
def writeIntermediateJson (s : State Thread ρ) (key : String × String) (record : Record ρ)
    (ok : Bool) : State Thread ρ × Bool :=
  match s.paths.get? key with
  | none => (s, false)
  | some path =>
    if ok then
      ({ s with
        files := Function.update s.files path
          (some ((s.files path).getD [] ++ fmt.writeLine record)) }, false)
    else (s, true)

/-- `build_intermediate_payload`, emitted; the thread goes on to the next subject. -/
def emit (s : State Thread ρ) (t : Thread) (d : Delivery ρ) (sub : Subject)
    (entries : List (Entry ρ)) (rest : List (Delivery ρ × List (Entry ρ))) : State Thread ρ :=
  { s with
    todo := Function.update s.todo t rest
    emitted := s.emitted ++
      [(d, ⟨sub.subjectId, d.result.algorithmName, d.result.stage.emitted, entries⟩)] }

def step : Machine (State Thread ρ) (Action Thread ρ)
  | s, .configure subjects => some { s with subjects := subjects }
  | s, .official active => some { s with officialOutputsActive := active }
  | s, .opened subjectId algorithm path => some (s.openFile (subjectId, algorithm) path)
  | s, .stopStream subjectId =>
    some { s with paths := s.paths.restrict fun key => decide (key.1 ≠ subjectId) }
  | s, .arrive t result =>
    match s.todo t with
    | [] =>
      if s.officialOutputsActive then
        some { s with
          todo := Function.update s.todo t (deliveries s.subjects result) }
      else some s
    | _ => none
  | s, .deliver t ok =>
    match s.todo t with
    | [] => none
    | (d, entries) :: rest =>
      match d.subject? with
      | none => none
      | some sub =>
        match ingestIntermediateResult sub { d.result with results := entries } with
        | none => some (s.emit t d sub entries rest)
        | some (algorithm, record) =>
          let key := (sub.subjectId, algorithm)
          let (s', raised) := s.writeIntermediateJson fmt key record ok
          -- an exception leaves the loop over the subjects
          if raised then some { s' with todo := Function.update s.todo t [] }
          else
            some ({ s' with due := Function.update s.due key (s.due key ++ [d]) }.emit t d sub
              entries rest)

/-- The documents of one file that `read_intermediate_json` takes. -/
def readFile (s : State Thread ρ) (algorithmName : Option String) (path : Place) :
    List (Record ρ) :=
  match s.files path with
  | none => []
  | some text => (fmt.readLines text).filter fun r =>
      match given algorithmName with
      | none => true
      | some algorithm => decide (r.algorithmName = some algorithm)

def readIntermediateJson (s : State Thread ρ) (subjectId : String)
    (algorithmName : Option String) : List (Record ρ) :=
  let ofSubject := s.paths.restrict fun key => decide (key.1 = subjectId)
  let candidates :=
    match algorithmName with
    | some algorithm => (s.paths.get? (subjectId, algorithm)).toList
    | none => ofSubject.values
  candidates.flatMap (s.readFile fmt algorithmName)

def init : State Thread ρ where
  subjects := []
  officialOutputsActive := false
  paths := Dict.empty
  files := fun _ => none
  todo := fun _ => []
  emitted := []
  due := fun _ => []

/-- A file that is made is not one that another subject uses, nor one with documents of another
algorithm; and the encoder is right about the documents of a result. -/
def apart (encodable : Record ρ → Prop) (s : State Thread ρ) : Action Thread ρ → Prop
  | .opened subjectId algorithm path => ∀ e ∈ s.paths.entries, e.2 = path →
      e.1 = (subjectId, algorithm) ∨ e.1.1 = subjectId ∧ s.due e.1 = []
  | .arrive _ result => ∀ x ∈ deliveries s.subjects result, encodable x.1.share
  | _ => True

/-- A file is what has come for its keys. -/
structure Backed (encodable : Record ρ → Prop) (s : State Thread ρ) (path : Place)
    (log : List (Delivery ρ)) : Prop where
  encodable : ∀ d ∈ log, encodable d.share
  text : s.files path = some (log.flatMap fun d => fmt.writeLine d.share)
  own : ∀ key, s.paths.get? key = some path → ∀ d ∈ log, d.subjectId = some key.1
  due : ∀ key, s.paths.get? key = some path →
    (log.filter fun d => decide (d.result.algorithmName = some key.2)) = s.due key

/-- What a thread has still to give to a subject. -/
structure Todo (encodable : Record ρ → Prop) (x : Delivery ρ × List (Entry ρ)) : Prop where
  results : x.2 = x.1.share.results
  ne : x.2 ≠ []
  encodable : encodable x.1.share

/-- What every step keeps. -/
structure Kept (encodable : Record ρ → Prop) (s : State Thread ρ) : Prop where
  files : ∀ key path, s.paths.get? key = some path → ∃ log, s.Backed fmt encodable path log
  subject : ∀ key key' path, s.paths.get? key = some path → s.paths.get? key' = some path →
    key.1 = key'.1
  todo : ∀ t, ∀ x ∈ s.todo t, Todo encodable x
  emitted : ∀ x ∈ s.emitted, x.2.results = x.1.share.results ∧ x.1.subjectId = some x.2.subjectId

variable {fmt : Ndjson.Format (Record ρ)} {encodable : Record ρ → Prop}

theorem mem_deliveries {graph : List Subject} {result : IntermediateResult ρ}
    {x : Delivery ρ × List (Entry ρ)} (hx : x ∈ deliveries graph result) :
    x.2 = x.1.share.results ∧ x.2 ≠ [] := by
  obtain ⟨e, he, rfl⟩ := List.mem_map.mp hx
  obtain ⟨i, entries⟩ := e
  have hget := Dict.get?_eq_some_iff.mpr he
  rw [get?_subjectsMap] at hget
  split at hget
  · rename_i hpart
    cases hget
    exact ⟨rfl, hpart.2⟩
  · cases hget

theorem kept_init : Kept fmt encodable (init : State Thread ρ) := by
  refine ⟨?_, ?_, ?_, ?_⟩
  · intro key path hpath
    cases hpath
  · intro key key' path hpath
    cases hpath
  · intro t x hx
    cases hx
  · intro x hx
    cases hx

theorem Kept.openFile {s : State Thread ρ} (h : Kept fmt encodable s) {subjectId algorithm : String}
    {path : Place} (hok : s.apart encodable (.opened subjectId algorithm path)) :
    Kept fmt encodable (s.openFile (subjectId, algorithm) path) := by
  have hold {key : String × String} {path' : Place}
      (hget : (s.paths.set (subjectId, algorithm) path).get? key = some path')
      (hne : key ≠ (subjectId, algorithm)) : s.paths.get? key = some path' := by
    rwa [Dict.get?_set_ne _ _ (Ne.symm hne)] at hget
  have hother {key : String × String} (hget : s.paths.get? key = some path)
      (hne : key ≠ (subjectId, algorithm)) : key.1 = subjectId ∧ s.due key = [] :=
    (hok (key, path) (Dict.get?_eq_some_iff.mp hget) rfl).resolve_left hne
  refine ⟨?_, ?_, h.todo, h.emitted⟩
  · intro key path' hget
    by_cases hpath : path' = path
    · -- the file is new
      subst hpath
      refine ⟨[], ?_, ?_, ?_, ?_⟩
      · intro d hd
        cases hd
      · simp [State.openFile]
      · intro key' _ d hd
        cases hd
      · intro key' hget'
        by_cases hkey : key' = (subjectId, algorithm)
        · subst hkey
          simp [State.openFile]
        · show [] = Function.update s.due (subjectId, algorithm) [] key'
          rw [Function.update_of_ne hkey]
          exact (hother (hold hget' hkey) hkey).2.symm
    · have hne : key ≠ (subjectId, algorithm) := by
        rintro rfl
        have hself : some path = some path' := (Dict.get?_set_self ..).symm.trans hget
        exact hpath (Option.some.inj hself).symm
      obtain ⟨log, hbacked⟩ := h.files key path' (hold hget hne)
      refine ⟨log, hbacked.encodable, ?_, ?_, ?_⟩
      · show Function.update s.files path (some []) path' = _
        rw [Function.update_of_ne hpath]
        exact hbacked.text
      · intro key' hget'
        have hne' : key' ≠ (subjectId, algorithm) := by
          rintro rfl
          have hself : some path = some path' := (Dict.get?_set_self ..).symm.trans hget'
          exact hpath (Option.some.inj hself).symm
        exact hbacked.own key' (hold hget' hne')
      · intro key' hget'
        have hne' : key' ≠ (subjectId, algorithm) := by
          rintro rfl
          have hself : some path = some path' := (Dict.get?_set_self ..).symm.trans hget'
          exact hpath (Option.some.inj hself).symm
        show _ = Function.update s.due (subjectId, algorithm) [] key'
        rw [Function.update_of_ne hne']
        exact hbacked.due key' (hold hget' hne')
  · intro key key' path' hget hget'
    by_cases hkey : key = (subjectId, algorithm)
    · by_cases hkey' : key' = (subjectId, algorithm)
      · rw [hkey, hkey']
      · subst hkey
        have hself : some path = some path' := (Dict.get?_set_self ..).symm.trans hget
        cases hself
        exact (hother (hold hget' hkey') hkey').1.symm
    · by_cases hkey' : key' = (subjectId, algorithm)
      · subst hkey'
        have hself : some path = some path' := (Dict.get?_set_self ..).symm.trans hget'
        cases hself
        exact (hother (hold hget hkey) hkey).1
      · exact h.subject key key' path' (hold hget hkey) (hold hget' hkey')

theorem Kept.stopStream {s : State Thread ρ} (h : Kept fmt encodable s) (subjectId : String) :
    Kept fmt encodable
      { s with paths := s.paths.restrict fun key => decide (key.1 ≠ subjectId) } := by
  have hold {key : String × String} {path : Place}
      (hget : (s.paths.restrict fun key => decide (key.1 ≠ subjectId)).get? key = some path) :
      s.paths.get? key = some path := by
    rw [Dict.get?_restrict] at hget
    split at hget
    · exact hget
    · cases hget
  refine ⟨?_, ?_, h.todo, h.emitted⟩
  · intro key path hget
    obtain ⟨log, hbacked⟩ := h.files key path (hold hget)
    exact ⟨log, hbacked.encodable, hbacked.text, fun key' hget' => hbacked.own key' (hold hget'),
      fun key' hget' => hbacked.due key' (hold hget')⟩
  · intro key key' path hget hget'
    exact h.subject key key' path (hold hget) (hold hget')

/-- A document appended to a file, for a subject and an algorithm. -/
theorem Kept.append {s : State Thread ρ} (h : Kept fmt encodable s) {d : Delivery ρ} {sub : Subject}
    (hsub : d.subject? = some sub) {algorithm : String} {path : Place}
    (halgorithm : d.result.algorithmName = some algorithm)
    (hpath : s.paths.get? (sub.subjectId, algorithm) = some path)
    (hencodable : encodable d.share) :
    Kept fmt encodable { s with
      files := Function.update s.files path
        (some ((s.files path).getD [] ++ fmt.writeLine d.share))
      due := Function.update s.due (sub.subjectId, algorithm)
        (s.due (sub.subjectId, algorithm) ++ [d]) } := by
  refine ⟨?_, h.subject, h.todo, h.emitted⟩
  intro key path' hget
  obtain ⟨log, hbacked⟩ := h.files key path' hget
  by_cases hsame : path' = path
  · subst hsame
    refine ⟨log ++ [d], ?_, ?_, ?_, ?_⟩
    · intro d' hd'
      rcases List.mem_append.mp hd' with hold | hnew
      · exact hbacked.encodable d' hold
      · rw [List.mem_singleton.mp hnew]
        exact hencodable
    · simp [hbacked.text]
    · intro key' hget' d' hd'
      rcases List.mem_append.mp hd' with hold | hnew
      · exact hbacked.own key' hget' d' hold
      · rw [List.mem_singleton.mp hnew, h.subject key' _ path' hget' hpath]
        show d.subject?.map Subject.subjectId = _
        rw [hsub]
        rfl
    · intro key' hget'
      have hsubject : key'.1 = sub.subjectId := h.subject key' _ path' hget' hpath
      rw [List.filter_append, hbacked.due key' hget']
      by_cases hkey : key'.2 = algorithm
      · have heq : key' = (sub.subjectId, algorithm) := Prod.ext hsubject hkey
        subst heq
        simp [halgorithm]
      · have hne : key' ≠ (sub.subjectId, algorithm) := by
          rintro rfl
          exact hkey rfl
        show _ = Function.update s.due (sub.subjectId, algorithm) _ key'
        rw [Function.update_of_ne hne]
        simp [halgorithm, Ne.symm hkey]
  · refine ⟨log, hbacked.encodable, ?_, hbacked.own, ?_⟩
    · show Function.update s.files path _ path' = _
      rw [Function.update_of_ne hsame]
      exact hbacked.text
    · intro key' hget'
      have hne : key' ≠ (sub.subjectId, algorithm) := by
        rintro rfl
        exact hsame (Option.some.inj (hget'.symm.trans hpath))
      show _ = Function.update s.due (sub.subjectId, algorithm) _ key'
      rw [Function.update_of_ne hne]
      exact hbacked.due key' hget'

/-- What has come for a key without a file is not read back. -/
theorem Kept.unfiled {s : State Thread ρ} (h : Kept fmt encodable s) {key : String × String}
    (hkey : s.paths.get? key = none) (d : Delivery ρ) :
    Kept fmt encodable { s with due := Function.update s.due key (s.due key ++ [d]) } := by
  refine ⟨?_, h.subject, h.todo, h.emitted⟩
  intro key' path hget
  obtain ⟨log, hbacked⟩ := h.files key' path hget
  refine ⟨log, hbacked.encodable, hbacked.text, hbacked.own, ?_⟩
  intro key'' hget'
  have hne : key'' ≠ key := by
    rintro rfl
    rw [hkey] at hget'
    cases hget'
  show _ = Function.update s.due key _ key''
  rw [Function.update_of_ne hne]
  exact hbacked.due key'' hget'

/-- The files do not depend on who is under way and what was emitted. -/
theorem Kept.of_files {s s' : State Thread ρ} (h : Kept fmt encodable s)
    (hpaths : s'.paths = s.paths) (hfiles : s'.files = s.files) (hdue : s'.due = s.due)
    (htodo : ∀ t, ∀ x ∈ s'.todo t, Todo encodable x)
    (hemitted : ∀ x ∈ s'.emitted,
      x.2.results = x.1.share.results ∧ x.1.subjectId = some x.2.subjectId) :
    Kept fmt encodable s' := by
  refine ⟨?_, ?_, htodo, hemitted⟩
  · intro key path hget
    rw [hpaths] at hget
    obtain ⟨log, hbacked⟩ := h.files key path hget
    refine ⟨log, hbacked.encodable, ?_, ?_, ?_⟩
    · rw [hfiles]
      exact hbacked.text
    · rw [hpaths]
      exact hbacked.own
    · rw [hpaths, hdue]
      exact hbacked.due
  · rw [hpaths]
    exact h.subject

theorem Kept.setTodo {s : State Thread ρ} (h : Kept fmt encodable s) (t : Thread)
    {rest : List (Delivery ρ × List (Entry ρ))}
    (hrest : ∀ x ∈ rest, Todo encodable x) :
    Kept fmt encodable { s with todo := Function.update s.todo t rest } := by
  refine h.of_files rfl rfl rfl ?_ h.emitted
  intro u x hx
  simp only [Function.update_apply] at hx
  split at hx
  · exact hrest x hx
  · exact h.todo u x hx

theorem Kept.emit {s : State Thread ρ} (h : Kept fmt encodable s) {t : Thread} {d : Delivery ρ}
    {sub : Subject} (hsub : d.subject? = some sub) {entries : List (Entry ρ)}
    (hentries : entries = d.share.results) {rest : List (Delivery ρ × List (Entry ρ))}
    (hrest : ∀ x ∈ rest, Todo encodable x) :
    Kept fmt encodable (s.emit t d sub entries rest) := by
  refine h.of_files rfl rfl rfl (h.setTodo t hrest).todo ?_
  intro x hx
  rcases List.mem_append.mp hx with hold | hnew
  · exact h.emitted x hold
  · rw [List.mem_singleton.mp hnew]
    refine ⟨hentries, ?_⟩
    show d.subject?.map Subject.subjectId = _
    rw [hsub]
    rfl

theorem kept_step {s s' : State Thread ρ} {a : Action Thread ρ} (hok : s.apart encodable a)
    (hstep : step fmt s a = some s') (h : Kept fmt encodable s) : Kept fmt encodable s' := by
  cases a with
  | configure subjects | official active =>
    cases hstep
    exact h.of_files rfl rfl rfl h.todo h.emitted
  | opened subjectId algorithm path =>
    cases hstep
    exact h.openFile hok
  | stopStream subjectId =>
    cases hstep
    exact h.stopStream subjectId
  | arrive t result =>
    simp only [step] at hstep
    split at hstep
    · split at hstep <;> cases hstep
      · refine h.setTodo t fun x hx => ?_
        obtain ⟨hresults, hne⟩ := mem_deliveries hx
        exact ⟨hresults, hne, hok x hx⟩
      · exact h
    · cases hstep
  | deliver t ok =>
    simp only [step] at hstep
    split at hstep
    · cases hstep
    · rename_i d entries rest htodo
      have hfirst : (d, entries) ∈ s.todo t := by
        rw [htodo]
        exact List.mem_cons_self
      obtain ⟨hentries, hne, hencodable⟩ := h.todo t (d, entries) hfirst
      have hrest : ∀ x ∈ rest, Todo encodable x := fun x hx =>
        h.todo t x (by rw [htodo]; exact List.mem_cons_of_mem _ hx)
      split at hstep
      · cases hstep
      · rename_i sub hsub
        have hpart : entries = part d.graph d.result.results d.index := hentries
        subst hpart
        rw [ingestIntermediateResult_part hsub hne] at hstep
        cases hname : given d.result.algorithmName with
        | none =>
          rw [hname] at hstep
          cases hstep
          exact h.emit hsub rfl hrest
        | some algorithm =>
          rw [hname] at hstep
          simp only [Option.map_some] at hstep
          cases hpath : s.paths.get? (sub.subjectId, algorithm) with
          | none =>
            simp only [writeIntermediateJson, hpath] at hstep
            cases hstep
            exact (h.unfiled hpath d).emit hsub rfl hrest
          | some path =>
            simp only [writeIntermediateJson, hpath] at hstep
            cases ok with
            | false =>
              cases hstep
              exact h.setTodo t fun x hx => absurd hx List.not_mem_nil
            | true =>
              cases hstep
              exact (h.append hsub (given_eq_some hname) hpath hencodable).emit hsub rfl hrest

instance decidableApart (encodable : Record ρ → Prop) [∀ r, Decidable (encodable r)]
    (s : State Thread ρ) (a : Action Thread ρ) : Decidable (s.apart encodable a) :=
  match a with
  | .opened subjectId algorithm path =>
    inferInstanceAs (Decidable (∀ e ∈ s.paths.entries, e.2 = path →
      e.1 = (subjectId, algorithm) ∨ e.1.1 = subjectId ∧ s.due e.1 = []))
  | .arrive _ result =>
    inferInstanceAs (Decidable (∀ x ∈ deliveries s.subjects result, encodable x.1.share))
  | .configure _ => inferInstanceAs (Decidable True)
  | .official _ => inferInstanceAs (Decidable True)
  | .stopStream _ => inferInstanceAs (Decidable True)
  | .deliver _ _ => inferInstanceAs (Decidable True)

/-- A document, and what `json.dumps` makes of it. -/
def gaitRecord : Record Unit :=
  ⟨some "gait", "INTERMEDIATE_TIME", [⟨some "AA", none, some (some "ankle"), ()⟩]⟩

def gaitText : String :=
  "\x7b\"algorithm_name\": \"gait\", \"stage\": \"INTERMEDIATE_TIME\", \"results\": " ++
    "[\x7b\"address\": \"AA\", \"location\": \"ankle\"\x7d]\x7d"

def gaitFormat : Ndjson.Format (Record Unit) where
  dumps := fun r => if r = gaitRecord then gaitText else "null"
  loads := fun text => if text = gaitText then some gaitRecord else none

theorem gaitFormat_lawful : gaitFormat.Lawful fun r => r = gaitRecord := by
  refine ⟨?_, ?_, ?_, ?_⟩
  · rintro r rfl
    simp [gaitFormat]
  · rintro r rfl
    have h : gaitText.toList.any Ndjson.isLineEnd = false := by decide +kernel
    simpa [gaitFormat] using List.any_eq_false.mp h
  · rintro r rfl
    simp only [gaitFormat, if_true]
    exact strip_eq_self (a := '\x7b') (b := '\x7d') rfl rfl rfl rfl
  · rintro r rfl
    simp only [gaitFormat, if_true]
    decide

/-- Two subjects, and a result about the first and about nobody. -/
def twoResults : List (Action Unit Unit) :=
  let result : IntermediateResult Unit := ⟨some "gait", .enum "INTERMEDIATE_TIME" "intermediate",
    [⟨some "AA", none, none, ()⟩, ⟨some "CC", none, none, ()⟩]⟩
  [.configure [⟨"s1", [⟨some "AA", some "ankle"⟩], true⟩, ⟨"s2", [⟨some "BB", none⟩], true⟩],
    .official true, .opened "s1" "gait" ["gait.ndjson"], .arrive () result, .deliver () true,
    .arrive () result, .deliver () false]

end State

end NexusN3.Storage.IntermediateResults
