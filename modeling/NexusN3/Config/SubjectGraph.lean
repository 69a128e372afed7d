import NexusN3.Lib.Dict
import NexusN3.Lib.Text
import NexusN3.Lib.Value

/-!
# Accepted configurations

`SubjectGraph.init_subjects` reads a list of subject configurations and builds the subjects with
their sensors, or refuses. Later code looks subjects up by id and cuts the samples of a sensor
into blocks of its `f_block_size`.

* **`initSubjects`** — the checks and the construction, in the order of the source.
* **`drainBlocks`** — the block loop of `Subject.ingest_sample`. It ends on every buffer exactly
  when the block size is positive (`drainBlocks_terminates_iff`).
* **`WellFormed`** — what the callers rely on in an accepted configuration.
* **`Sound`** — the condition on the configurations and the installed sensors.
* **`accepted_wellFormed_iff`** — an accepted configuration is well formed exactly when it is sound.
-/

namespace NexusN3.Config

open Lib

universe u

/-! ## What the graph reads -/

/-- A sensor class of the plugin registry. `make k` is the attributes of the sensor that the
`k`-th call of the constructor makes; `computations` is `none` when its spec cannot be read. -/
structure SensorClass where
  computations : Option (List Value)
  make : Nat → Option (Dict String Value)

/-- What fails while one sensor is made. -/
inductive InitError where
  | constructed
  | location
  | attributes
  | rate
  deriving DecidableEq

/-- What the language and the registry do for the graph. -/
structure Runtime where
  casefold : String → String
  lower : String → String
  /-- `str` of a value that is no text -/
  repr : Value → String
  /-- `int` of a text -/
  intOfText : String → Option Int
  /-- `==` on ids -/
  same : Value → Value → Bool
  /-- `sum` of numbers with a float among them -/
  floatSum : List Number → Option Number
  /-- the float next to an exact product -/
  rounded : Rat → Double
  /-- `none`: the lookup raises -/
  resolveInstalledSensorClass : Value → Option (Option SensorClass)
  describe : InitError → String

namespace Runtime

variable (rt : Runtime)

def str : Value → String
  | .str s => s
  | v => rt.repr v

def sum (ns : List Number) : Option Number :=
  match ns.mapM Number.int? with
  | some is => some (.int is.sum)
  | none => rt.floatSum ns

theorem sum_ints (is : List Int) : rt.sum (is.map Number.int) = some (.int is.sum) := by
  have hints : (is.map Number.int).mapM Number.int? = some is := by
    induction is with
    | nil => rfl
    | cons i is ih =>
      rw [List.map_cons, List.mapM_cons, ih]
      rfl
  rw [sum, hints]

end Runtime

/-! ## Refusals -/

inductive Refusal where
  | tooManySensors (total : Number) (maxTotalSensors : Int)
  | locationCount (subjectId localName num : Value) (locations : Nat)
  | duplicateLocation (subjectId localName location : Value)
  | unsupportedSensor (localName : Value)
  | unsupportedAlgorithm (subjectId localName algoName : Value) (supported : List Value)
  | sensorInit (localName : Value) (reason : InitError)

/-- The text that goes to the event bus and to `error_cb`. -/
def Refusal.message (rt : Runtime) : Refusal → String
  | tooManySensors total maximum =>
    s!"Total sensors across all subjects ({rt.str (.num total)}) " ++
      s!"exceed the maximum allowed ({maximum})"
  | locationCount subjectId localName num locations =>
    s!"Subject '{rt.str subjectId}' sensor '{rt.str localName}' " ++
      s!"has {rt.str num} sensors but {locations} locations"
  | duplicateLocation subjectId localName location =>
    s!"Subject '{rt.str subjectId}' has duplicate sensor/location " ++
      s!"assignment: sensor='{rt.str localName}', location='{rt.str location}'"
  | unsupportedSensor localName => s!"Unsupported sensor plugin: {rt.str localName}"
  | unsupportedAlgorithm subjectId localName algoName supported =>
    let shown := if supported = [] then [Value.str "pass_through"] else supported
    s!"Subject '{rt.str subjectId}' sensor '{rt.str localName}' " ++
      s!"cannot run algorithm '{rt.str algoName}'. Supported: {rt.str (.arr shown)}"
  | sensorInit localName reason =>
    s!"Sensor init failed for '{rt.str localName}': {rt.describe reason}"

/-- How `init_subjects` ends when it does not return `True`. -/
inductive Failure where
  /-- an exception leaves the function -/
  | raised
  | refused (why : Refusal)

/-! ## The subjects -/

structure Sensor (S : Type u) where
  attributes : Dict String Value
  address : Option String := none
  rawData : List S := []

structure MetaData where
  location : Value
  fBlockSize : Int
  computeAlgorithm : Value

/-- One entry of `Subject.sensors`. -/
structure Entry (S : Type u) where
  sensor : Sensor S
  metaData : MetaData

structure Subject (S : Type u) where
  subjectId : Value
  sensorConfigs : List Fields
  sensors : List (Entry S)
  sampleCount : Nat := 0
  isStreaming : Bool := false

/-! ## The block loop of `ingest_sample` -/

section Blocks

variable {S : Type u}

/-- Where `raw[:b]` ends and `raw[b:]` begins: a negative `b` counts from the back. -/
def cut (b : Int) (raw : List S) : Nat :=
  if 0 ≤ b then b.toNat else raw.length - b.natAbs

/-- The `while` loop: the blocks handed to the writer and what stays in the buffer; `none` when
`fuel` turns are not enough. -/
def drainBlocks : Nat → Int → List S → Option (List (List S) × List S)
  | 0, _, _ => none
  | fuel + 1, b, raw =>
    if b ≤ raw.length then
      (drainBlocks fuel b (raw.drop (cut b raw))).map fun (blocks, rest) =>
        (raw.take (cut b raw) :: blocks, rest)
    else some ([], raw)

/-- A positive block size shortens the buffer in every turn. -/
theorem drainBlocks_of_pos {b : Int} (hb : 1 ≤ b) (fuel : Nat) (raw : List S)
    (hfuel : raw.length < fuel) : (drainBlocks fuel b raw).isSome := by
  induction fuel generalizing raw with
  | zero => exact absurd hfuel (Nat.not_lt_zero _)
  | succ fuel ih =>
    unfold drainBlocks
    split
    · rename_i hle
      have hcut : cut b raw = b.toNat := if_pos (by omega)
      rw [Option.isSome_map]
      apply ih
      rw [hcut, List.length_drop]
      omega
    · rfl

/-- With no positive block size there is always one more turn. -/
theorem drainBlocks_of_nonpos {b : Int} (hb : b ≤ 0) (fuel : Nat) (raw : List S) :
    drainBlocks fuel b raw = none := by
  induction fuel generalizing raw with
  | zero => rfl
  | succ fuel ih =>
    have hturn : b ≤ (raw.length : Int) := by omega
    rw [drainBlocks, if_pos hturn, ih]
    rfl

theorem drainBlocks_terminates_iff {b : Int} :
    (∀ raw : List S, ∃ fuel, (drainBlocks fuel b raw).isSome) ↔ 1 ≤ b := by
  constructor
  · intro hends
    by_contra hb
    have ⟨fuel, hsome⟩ := hends []
    rw [drainBlocks_of_nonpos (by omega)] at hsome
    exact Bool.false_ne_true hsome
  · intro hb raw
    exact ⟨raw.length + 1, drainBlocks_of_pos hb _ raw (Nat.lt_succ_self _)⟩

namespace Subject

/-- `Subject.ingest_sample`: the return value and the blocks handed to the file manager. -/
def ingestSample (fuel : Nat) (s : Subject S) (address : String) (sample : S) :
    Option (Subject S × Bool × List (List S)) :=
  let atAddress := fun e : Entry S => decide (e.sensor.address = some address)
  let counted := { s with sampleCount := s.sampleCount + 1 }
  match s.sensors.find? atAddress with
  | none => some (counted, false, [])
  | some entry =>
    (drainBlocks fuel entry.metaData.fBlockSize (entry.sensor.rawData ++ [sample])).map
      fun (blocks, rest) =>
        let kept := fun e : Entry S => { e with sensor := { e.sensor with rawData := rest } }
        ({ counted with sensors := s.sensors.modify (s.sensors.findIdx atAddress) kept },
          true, blocks)

/-- Whatever addresses and buffers the sensors get later, every sample is taken in. -/
def Ingests (s : Subject S) : Prop :=
  ∀ later : Subject S, later.sensors.map Entry.metaData = s.sensors.map Entry.metaData →
    ∀ address sample, ∃ fuel, (later.ingestSample fuel address sample).isSome

theorem ingests_of_positive {s : Subject S}
    (hpos : ∀ e ∈ s.sensors, 1 ≤ e.metaData.fBlockSize) : s.Ingests := by
  intro later hsame address sample
  simp only [ingestSample]
  cases hfind : later.sensors.find? _ with
  | none => exact ⟨0, rfl⟩
  | some entry =>
    have hmeta : entry.metaData ∈ s.sensors.map Entry.metaData := by
      rw [← hsame]
      exact List.mem_map_of_mem (List.mem_of_find?_eq_some hfind)
    obtain ⟨e, he, heq⟩ := List.mem_map.mp hmeta
    have hb : 1 ≤ entry.metaData.fBlockSize := heq ▸ hpos e he
    have ⟨fuel, hsome⟩ := drainBlocks_terminates_iff.mpr hb (entry.sensor.rawData ++ [sample])
    refine ⟨fuel, ?_⟩
    rw [Option.isSome_map]
    exact hsome

/-- The converse: a sensor whose block size is not positive can hold the callback forever. -/
theorem positive_of_ingests [Nonempty S] {s : Subject S} (h : s.Ingests) :
    ∀ e ∈ s.sensors, 1 ≤ e.metaData.fBlockSize := by
  intro e he
  by_contra hb
  obtain ⟨before, after, hsplit⟩ := List.append_of_mem he
  -- only this sensor is connected
  let unnamed := fun e : Entry S => { e with sensor := { e.sensor with address := none } }
  let named := { e with sensor := { e.sensor with address := some "connected" } }
  let later := { s with sensors := before.map unnamed ++ named :: after }
  have hsame : later.sensors.map Entry.metaData = s.sensors.map Entry.metaData := by
    rw [hsplit]
    simp [later, unnamed, named, Function.comp_def]
  have hfind : later.sensors.find?
      (fun e => decide (e.sensor.address = some "connected")) = some named := by
    have hnone : (before.map unnamed).find?
        (fun e => decide (e.sensor.address = some "connected")) = none := by
      simp [unnamed]
    rw [List.find?_append, hnone]
    simp [named]
  obtain ⟨sample⟩ := ‹Nonempty S›
  have ⟨fuel, hsome⟩ := h later hsame "connected" sample
  simp only [ingestSample, hfind, named] at hsome
  rw [drainBlocks_of_nonpos (by omega)] at hsome
  exact Bool.false_ne_true hsome

theorem ingests_iff [Nonempty S] {s : Subject S} :
    s.Ingests ↔ ∀ e ∈ s.sensors, 1 ≤ e.metaData.fBlockSize :=
  ⟨positive_of_ingests, ingests_of_positive⟩

end Subject

end Blocks

/-! ## Reading a configuration -/

structure SubjectConf where
  fields : Fields
  sensors : List Fields

namespace SubjectConf

def subjectId (conf : SubjectConf) : Value := Value.get conf.fields "subject_id"

end SubjectConf

/-- `conf` and `conf.get("sensors", [])`, as the first pass over them needs both. -/
def readConf (v : Value) : Option SubjectConf := do
  let fields ← v.asDict
  let sensors ← (Value.getD fields "sensors" (.arr [])).iter
  let sensors ← sensors.mapM Value.asDict
  return ⟨fields, sensors⟩

/-- `s_conf.get("number_of", 1)`. -/
def numberOf (sConf : Fields) : Value := Value.getD sConf "number_of" (.num (.int 1))

/-- `s_conf.get("local_name")`. -/
def localName (sConf : Fields) : Value := Value.get sConf "local_name"

/-- `s_conf.get("locations", [])`. -/
def locations (sConf : Fields) : Value := Value.getD sConf "locations" (.arr [])

/-- The places of one sensor configuration: each with the name it is for. -/
def assignmentsOf (sConf : Fields) : List (Value × Value) :=
  ((locations sConf).iter.getD []).map fun location => (localName sConf, location)

/-- The places of one subject, in the order of its configuration. -/
def SubjectConf.assignments (conf : SubjectConf) : List (Value × Value) :=
  conf.sensors.flatMap assignmentsOf

namespace Runtime

variable (rt : Runtime)

/-- `total_sensors_all_subjects`. -/
def declaredTotal (confs : List SubjectConf) : Option Number := do
  let totals ← confs.mapM fun conf => do
    let counts ← conf.sensors.mapM fun sConf => (numberOf sConf).asNumber
    rt.sum counts
  rt.sum totals

/-! ## The check of the places -/

/-- The key in `seen_sensor_locations`. -/
def assignmentKey (assignment : Value × Value) : String × String :=
  (rt.casefold (strip (rt.str (assignment.1.orElse (.str "")))),
    rt.casefold (strip (rt.str assignment.2)))

def checkAssignments (subjectId : Value) :
    List (String × String) → List (Value × Value) → Except Failure (List (String × String))
  | seen, [] => .ok seen
  | seen, a :: rest =>
    if rt.assignmentKey a ∈ seen then .error (.refused (.duplicateLocation subjectId a.1 a.2))
    else checkAssignments subjectId (seen ++ [rt.assignmentKey a]) rest

def checkSensor (subjectId : Value) (seen : List (String × String)) (sConf : Fields) :
    Except Failure (List (String × String)) :=
  match (locations sConf).iter, (numberOf sConf).asNumber with
  | some items, some num =>
    if num.equals items.length then rt.checkAssignments subjectId seen (assignmentsOf sConf)
    else
      .error (.refused
        (.locationCount subjectId (localName sConf) (numberOf sConf) items.length))
  | _, _ => .error .raised

def checkSensors (subjectId : Value) :
    List (String × String) → List Fields → Except Failure (List (String × String))
  | seen, [] => .ok seen
  | seen, sConf :: rest =>
    match rt.checkSensor subjectId seen sConf with
    | .error failure => .error failure
    | .ok seen => checkSensors subjectId seen rest

theorem checkAssignments_ok {subjectId : Value} {seen seen' : List (String × String)}
    {as : List (Value × Value)} (h : rt.checkAssignments subjectId seen as = .ok seen')
    (hseen : seen.Nodup) :
    seen' = seen ++ as.map rt.assignmentKey ∧ seen'.Nodup := by
  induction as generalizing seen with
  | nil =>
    cases h
    exact ⟨(List.append_nil _).symm, hseen⟩
  | cons a as ih =>
    unfold checkAssignments at h
    split at h
    · cases h
    · rename_i hnew
      have hgrown : (seen ++ [rt.assignmentKey a]).Nodup := by
        rw [List.nodup_append_comm]
        exact List.nodup_cons.mpr ⟨hnew, hseen⟩
      have ⟨heq, hnodup⟩ := ih h hgrown
      refine ⟨?_, hnodup⟩
      rw [heq, List.append_assoc, List.map_cons, List.singleton_append]

theorem checkSensor_ok {subjectId : Value} {seen seen' : List (String × String)}
    {sConf : Fields} (h : rt.checkSensor subjectId seen sConf = .ok seen')
    (hseen : seen.Nodup) :
    (∃ items num, (locations sConf).iter = some items ∧
        (numberOf sConf).asNumber = some num ∧ num.equals items.length = true) ∧
      seen' = seen ++ (assignmentsOf sConf).map rt.assignmentKey ∧ seen'.Nodup := by
  unfold checkSensor at h
  split at h
  · rename_i items num hitems hnum
    split at h
    · rename_i hequals
      exact ⟨⟨items, num, hitems, hnum, hequals⟩, rt.checkAssignments_ok h hseen⟩
    · cases h
  · cases h

theorem checkSensors_ok {subjectId : Value} {seen seen' : List (String × String)}
    {sConfs : List Fields} (h : rt.checkSensors subjectId seen sConfs = .ok seen')
    (hseen : seen.Nodup) :
    (∀ sConf ∈ sConfs, ∃ items num, (locations sConf).iter = some items ∧
        (numberOf sConf).asNumber = some num ∧ num.equals items.length = true) ∧
      seen' = seen ++ (sConfs.flatMap assignmentsOf).map rt.assignmentKey ∧ seen'.Nodup := by
  induction sConfs generalizing seen with
  | nil =>
    cases h
    exact ⟨List.forall_mem_nil _, (List.append_nil _).symm, hseen⟩
  | cons sConf rest ih =>
    unfold checkSensors at h
    split at h
    · cases h
    · rename_i seen₁ hfirst
      have ⟨hcount, heq₁, hnodup₁⟩ := rt.checkSensor_ok hfirst hseen
      have ⟨hcounts, heq, hnodup⟩ := ih h hnodup₁
      refine ⟨List.forall_mem_cons.mpr ⟨hcount, hcounts⟩, ?_, hnodup⟩
      rw [heq, heq₁, List.flatMap_cons, List.map_append, List.append_assoc]

end Runtime

/-! ## Making the sensors -/

/-- `attributes.update(...)`. Keys that are no text do not meet the names read here. -/
def updateAttributes (attributes : Dict String Value) (updates : List (Value × Value)) :
    Dict String Value :=
  updates.foldl (fun attributes entry =>
    match entry.1 with
    | .str key => attributes.set key entry.2
    | _ => attributes) attributes

/-- `s_conf.get("attributes", {}) or {}` over the attributes of the class. -/
def overrideAttributes (sConf : Fields) (attributes : Dict String Value) :
    Option (Dict String Value) :=
  let overrides := (Value.getD sConf "attributes" (.obj [])).orElse (.obj [])
  if overrides.truthy then overrides.asUpdates.map (updateAttributes attributes)
  else some attributes

/-- `sensor.attributes.get("SAMPLING_RATE") or 1`. -/
def samplingRate (attributes : Dict String Value) : Value :=
  ((attributes.get? "SAMPLING_RATE").getD .null).orElse (.num (.int 1))

/-- The rate of the `k`-th sensor that `cls` makes under `s_conf`. -/
def sensorRate (cls : SensorClass) (sConf : Fields) (k : Nat) : Option Value := do
  let attributes ← cls.make k
  let attributes ← overrideAttributes sConf attributes
  return samplingRate attributes

/-- `s_conf.get("compute_algorithm") or {"name": "pass_through", "inputs": {}}`. -/
def computeAlgorithm (sConf : Fields) : Value :=
  (Value.get sConf "compute_algorithm").orElse
    (.obj [("name", .str "pass_through"), ("inputs", .obj [])])

/-- A text times five. -/
def fiveTimes (s : String) : String := s ++ s ++ s ++ s ++ s

namespace Runtime

variable (rt : Runtime)

/-- `int(rate * 5)`. -/
def blockSize : Value → Option Int
  | .bool b => some (if b then 5 else 0)
  | .num (.int n) => some (n * 5)
  | .num (.float (.finite q)) =>
    match rt.rounded (q * 5) with
    | .finite x => some (truncate x)
    | _ => none
  | .num (.float _) => none
  | .str s => rt.intOfText (fiveTimes s)
  | .null => none
  | .arr _ => none
  | .obj _ => none

/-- A rate whose five-fold is at least one. Five times a text is the text five times over. -/
def PositiveRate : Value → Prop
  | .bool b => b = true
  | .num (.int n) => 1 ≤ n
  | .num (.float (.finite q)) => ∃ x, rt.rounded (q * 5) = .finite x ∧ 1 ≤ x
  | .str s => ∃ n, rt.intOfText (fiveTimes s) = some n ∧ 1 ≤ n
  | _ => False

theorem positiveRate_iff {rate : Value} {b : Int} (h : rt.blockSize rate = some b) :
    rt.PositiveRate rate ↔ 1 ≤ b := by
  cases rate with
  | null => cases h
  | bool t =>
    cases h
    cases t <;> simp [PositiveRate]
  | num n =>
    cases n with
    | int n =>
      cases h
      simp only [PositiveRate]
      omega
    | float x =>
      cases x with
      | finite q =>
        simp only [blockSize] at h
        split at h
        · rename_i x hx
          cases h
          rw [one_le_truncate_iff]
          simp [PositiveRate, hx]
        · cases h
      | infinity _ => cases h
      | nan => cases h
  | str s =>
    have htext : rt.intOfText (fiveTimes s) = some b := h
    simp [PositiveRate, htext]
  | arr _ => cases h
  | obj _ => cases h

/-- `raw_spec.get("computations", []) or []`, and `[]` when the spec cannot be read. -/
def supportedAlgorithms (cls : SensorClass) : List Value := cls.computations.getD []

/-- The algorithm is the fallback, or one that the class names. -/
def runsAlgorithm (cls : SensorClass) (algoName : Value) : Bool :=
  let normalized := fun v => rt.lower (strip (rt.str v))
  let requested := normalized (algoName.orElse (.str ""))
  decide (requested = "") || decide (requested = "pass_through") ||
    decide (requested ∈ ((supportedAlgorithms cls).filter Value.truthy).map normalized)

variable {S : Type u}

/-- The body of the loop over `range(num)`. -/
def makeSensor (cls : SensorClass) (sConf : Fields) (k : Nat) : Except Failure (Entry S) :=
  let failed := fun reason => .error (.refused (.sensorInit (localName sConf) reason))
  match cls.make k with
  | none => failed .constructed
  | some attributes =>
    match (locations sConf).index k with
    | none => failed .location
    | some location =>
      match overrideAttributes sConf attributes with
      | none => failed .attributes
      | some attributes =>
        match rt.blockSize (samplingRate attributes) with
        | none => failed .rate
        | some fBlockSize =>
          .ok ⟨{ attributes }, ⟨location, fBlockSize, computeAlgorithm sConf⟩⟩

/-- The sensors of one sensor configuration. -/
def addSensors (subjectId : Value) (sConf : Fields) : Except Failure (List (Entry S)) :=
  match (sConf.lookup "local_name").map rt.resolveInstalledSensorClass with
  | none => .error .raised
  | some none => .error .raised
  | some (some none) => .error (.refused (.unsupportedSensor (localName sConf)))
  | some (some (some cls)) =>
    match (computeAlgorithm sConf).asDict with
    | none => .error .raised
    | some algo =>
      let algoName := Value.get algo "name"
      if rt.runsAlgorithm cls algoName then
        -- `range` takes no float
        match (numberOf sConf).asNumber.bind Number.int? with
        | none => .error .raised
        | some num => (List.range num.toNat).mapM (rt.makeSensor cls sConf)
      else
        .error (.refused
          (.unsupportedAlgorithm subjectId (localName sConf) algoName (supportedAlgorithms cls)))

def initSubject (conf : SubjectConf) : Except Failure (Subject S) :=
  match conf.fields.lookup "subject_id" with
  | none => .error .raised
  | some subjectId =>
    match rt.checkSensors subjectId [] conf.sensors with
    | .error failure => .error failure
    | .ok _ =>
      match conf.sensors.mapM (rt.addSensors subjectId) with
      | .error failure => .error failure
      | .ok sensors =>
        .ok { subjectId, sensorConfigs := conf.sensors, sensors := sensors.flatten }

/-- The loop over the configurations, with the subjects that stand when it ends. -/
def initLoop : List (Subject S) → List SubjectConf → Except Failure Unit × List (Subject S)
  | done, [] => (.ok (), done)
  | done, conf :: rest =>
    match rt.initSubject conf with
    | .error failure => (.error failure, done)
    | .ok sub => initLoop (done ++ [sub]) rest

/-- `SubjectGraph.init_subjects`: `.ok ()` is the return value `True`. -/
def initSubjects (maxTotalSensors : Int) (subjectsConfig : List Value) :
    Except Failure Unit × List (Subject S) :=
  match subjectsConfig.mapM readConf with
  | none => (.error .raised, [])
  | some confs =>
    match rt.declaredTotal confs with
    | none => (.error .raised, [])
    | some total =>
      if total.exceeds maxTotalSensors then
        (.error (.refused (.tooManySensors total maxTotalSensors)), [])
      else rt.initLoop [] confs

end Runtime

/-! ## What an accepted configuration has become -/

namespace Runtime

variable (rt : Runtime)

/-- Every sensor that this configuration makes has a positive rate. -/
def PositiveRates (sConf : Fields) : Prop :=
  ∀ cls num, rt.resolveInstalledSensorClass (localName sConf) = some (some cls) →
    (numberOf sConf).asNumber = some (.int num) →
      ∀ k < num.toNat, ∀ rate, sensorRate cls sConf k = some rate → rt.PositiveRate rate

variable {S : Type u}

theorem makeSensor_ok {cls : SensorClass} {sConf : Fields} {k : Nat} {e : Entry S}
    (h : rt.makeSensor cls sConf k = .ok e) :
    (locations sConf).index k = some e.metaData.location ∧
      ∃ rate, sensorRate cls sConf k = some rate ∧
        rt.blockSize rate = some e.metaData.fBlockSize := by
  unfold makeSensor at h
  split at h
  · cases h
  · rename_i made hmade
    split at h
    · cases h
    · rename_i location hlocation
      split at h
      · cases h
      · rename_i attributes hattributes
        split at h
        · cases h
        · rename_i size hsize
          cases h
          refine ⟨hlocation, samplingRate attributes, ?_, hsize⟩
          simp [sensorRate, hmade, hattributes]

theorem addSensors_ok {subjectId : Value} {sConf : Fields} {es : List (Entry S)}
    (h : rt.addSensors subjectId sConf = .ok es) :
    ∃ cls num, rt.resolveInstalledSensorClass (localName sConf) = some (some cls) ∧
      (numberOf sConf).asNumber = some (.int num) ∧
        List.Forall₂ (fun k e => rt.makeSensor cls sConf k = .ok e) (List.range num.toNat)
          es := by
  unfold addSensors at h
  split at h
  · cases h
  · cases h
  · cases h
  · rename_i cls hresolved
    split at h
    · cases h
    · dsimp only at h
      split at h
      · split at h
        · cases h
        · rename_i num hnum
          obtain ⟨name, hname, hcls⟩ := Option.map_eq_some_iff.mp hresolved
          obtain ⟨n, hn, hint⟩ := Option.bind_eq_some_iff.mp hnum
          refine ⟨cls, num, ?_, ?_, forall₂_of_mapM_ok h⟩
          · rw [localName, Value.get, Value.getD, hname]
            exact hcls
          · cases n with
            | int i =>
              cases hint
              exact hn
            | float x => cases hint
      · cases h

/-- The sensors of one configuration stand at its locations, one for each and in order. -/
theorem addSensors_locations {subjectId : Value} {sConf : Fields} {es : List (Entry S)}
    {items : List Value} {num : Number} (h : rt.addSensors subjectId sConf = .ok es)
    (hiter : (locations sConf).iter = some items)
    (hnum : (numberOf sConf).asNumber = some num) (hcount : num.equals items.length = true) :
    es.map (·.metaData.location) = (assignmentsOf sConf).map Prod.snd ∧
      num = .int items.length := by
  obtain ⟨cls, n, -, hint, hmade⟩ := rt.addSensors_ok h
  obtain rfl : num = .int n := Option.some.inj (hnum.symm.trans hint)
  have hn : n = items.length := of_decide_eq_true hcount
  have hlen : es.length = items.length := by
    rw [← hmade.length_eq, List.length_range, hn, Int.toNat_natCast]
  refine ⟨?_, by rw [hn]⟩
  rw [assignmentsOf, hiter, Option.getD_some, List.map_map]
  refine List.ext_getElem (by simp [hlen]) fun k hk hk' => ?_
  have hke : k < es.length := by simpa using hk
  have hat := (List.forall₂_iff_get.mp hmade).2 k (by simpa [hn, hlen] using hke) hke
  have hitem := Value.index_eq hiter (rt.makeSensor_ok hat).1
  simp only [List.get_eq_getElem, List.getElem_range] at hitem
  simpa using (List.getElem?_eq_some_iff.mp hitem).2.symm

theorem addSensors_positive_iff {subjectId : Value} {sConf : Fields} {es : List (Entry S)}
    (h : rt.addSensors subjectId sConf = .ok es) :
    (∀ e ∈ es, 1 ≤ e.metaData.fBlockSize) ↔ rt.PositiveRates sConf := by
  obtain ⟨cls, num, hcls, hnum, hmade⟩ := rt.addSensors_ok h
  have ⟨hlen, hat⟩ := List.forall₂_iff_get.mp hmade
  rw [List.length_range] at hlen
  constructor
  · intro hpos cls' num' hcls' hnum' k hk rate hrate
    obtain rfl : cls' = cls := by simpa [hcls] using hcls'.symm
    obtain rfl : num' = num := by simpa [hnum] using hnum'.symm
    have hk' : k < es.length := hlen ▸ hk
    have hmake := hat k (by simpa using hk) hk'
    obtain ⟨-, made, hmade', hsize⟩ := rt.makeSensor_ok hmake
    simp only [List.get_eq_getElem, List.getElem_range] at hmade' hsize
    obtain rfl : made = rate := Option.some.inj (hmade'.symm.trans hrate)
    exact (rt.positiveRate_iff hsize).mpr (hpos _ (List.getElem_mem hk'))
  · intro hrates e he
    obtain ⟨k, hk, rfl⟩ := List.getElem_of_mem he
    have hmake := hat k (by simpa [hlen] using hk) hk
    obtain ⟨-, rate, hrate, hsize⟩ := rt.makeSensor_ok hmake
    simp only [List.get_eq_getElem, List.getElem_range] at hrate hsize
    exact (rt.positiveRate_iff hsize).mp (hrates cls num hcls hnum k (hlen ▸ hk) rate hrate)

/-- What is known of a subject that was built from `conf`. -/
structure Built (conf : SubjectConf) (sub : Subject S) : Prop where
  subjectId : sub.subjectId = conf.subjectId
  keys : (conf.assignments.map rt.assignmentKey).Nodup
  places : sub.sensors.map (·.metaData.location) = conf.assignments.map Prod.snd
  counts : ∀ sConf ∈ conf.sensors,
    (numberOf sConf).asNumber = some (.int (assignmentsOf sConf).length)
  positive : (∀ e ∈ sub.sensors, 1 ≤ e.metaData.fBlockSize) ↔
    ∀ sConf ∈ conf.sensors, rt.PositiveRates sConf

/-- The same for all the sensor configurations of a subject. -/
theorem addSensors_all {subjectId : Value} {sConfs : List Fields} {parts : List (List (Entry S))}
    (h : List.Forall₂ (fun sConf es => rt.addSensors subjectId sConf = .ok es) sConfs parts)
    (hcounts : ∀ sConf ∈ sConfs, ∃ items num, (locations sConf).iter = some items ∧
      (numberOf sConf).asNumber = some num ∧ num.equals items.length = true) :
    parts.flatten.map (·.metaData.location) = (sConfs.flatMap assignmentsOf).map Prod.snd ∧
      (∀ sConf ∈ sConfs,
        (numberOf sConf).asNumber = some (.int (assignmentsOf sConf).length)) ∧
      ((∀ e ∈ parts.flatten, 1 ≤ e.metaData.fBlockSize) ↔
        ∀ sConf ∈ sConfs, rt.PositiveRates sConf) := by
  induction h with
  | nil => exact ⟨rfl, List.forall_mem_nil _, by simp⟩
  | cons hfirst _ ih =>
    rename_i sConf es sConfs parts
    obtain ⟨⟨items, num, hiter, hnum, hequals⟩, hrest⟩ := List.forall_mem_cons.mp hcounts
    obtain ⟨hplaces, rfl⟩ := rt.addSensors_locations hfirst hiter hnum hequals
    have ⟨hplaces', hnums, hpositive⟩ := ih hrest
    refine ⟨?_, List.forall_mem_cons.mpr ⟨?_, hnums⟩, ?_⟩
    · rw [List.flatten_cons, List.map_append, List.flatMap_cons, List.map_append, hplaces,
        hplaces']
    · rw [hnum, assignmentsOf, hiter, Option.getD_some, List.length_map]
    · rw [List.flatten_cons, List.forall_mem_append, hpositive, List.forall_mem_cons,
        rt.addSensors_positive_iff hfirst]

theorem initSubject_ok {conf : SubjectConf} {sub : Subject S}
    (h : rt.initSubject conf = .ok sub) : rt.Built conf sub := by
  unfold initSubject at h
  split at h
  · cases h
  · rename_i subjectId hid
    split at h
    · cases h
    · rename_i seen hseen
      split at h
      · cases h
      · rename_i parts hparts
        cases h
        have ⟨hcounts, hkeys, hnodup⟩ := rt.checkSensors_ok hseen List.nodup_nil
        have ⟨hplaces, hnums, hpositive⟩ :=
          rt.addSensors_all (forall₂_of_mapM_ok hparts) hcounts
        refine ⟨?_, ?_, hplaces, hnums, hpositive⟩
        · simp [SubjectConf.subjectId, Value.get, Value.getD, hid]
        · rw [hkeys, List.nil_append] at hnodup
          exact hnodup

theorem initLoop_ok {done subs : List (Subject S)} {confs : List SubjectConf}
    (h : rt.initLoop done confs = (.ok (), subs)) :
    ∃ built, subs = done ++ built ∧ List.Forall₂ rt.Built confs built := by
  induction confs generalizing done with
  | nil =>
    cases h
    exact ⟨[], (List.append_nil _).symm, .nil⟩
  | cons conf rest ih =>
    unfold initLoop at h
    split at h
    · cases h
    · rename_i sub hsub
      obtain ⟨built, rfl, hbuilt⟩ := ih h
      refine ⟨sub :: built, ?_, .cons (rt.initSubject_ok hsub) hbuilt⟩
      rw [List.append_assoc, List.singleton_append]

theorem Built.total {conf : SubjectConf} {sub : Subject S} (h : rt.Built conf sub) :
    (do let counts ← conf.sensors.mapM fun sConf => (numberOf sConf).asNumber
        rt.sum counts) = some (.int sub.sensors.length) := by
  have hcounts : conf.sensors.mapM (fun sConf => (numberOf sConf).asNumber) =
      some ((conf.sensors.map fun sConf => ((assignmentsOf sConf).length : Int)).map
        Number.int) := by
    apply mapM_of_forall₂
    rw [List.map_map, List.forall₂_map_right_iff]
    exact List.forall₂_same.mpr h.counts
  have hlen : sub.sensors.length = conf.assignments.length := by
    simpa using congrArg List.length h.places
  rw [hcounts, Option.bind_eq_bind, Option.bind_some, rt.sum_ints, hlen, SubjectConf.assignments,
    List.length_flatMap, sum_natCast]

/-- The declared total is the number of sensors that are made. -/
theorem declaredTotal_of_built {confs : List SubjectConf} {subs : List (Subject S)}
    (h : List.Forall₂ rt.Built confs subs) :
    rt.declaredTotal confs = some (.int (subs.map (·.sensors.length)).sum) := by
  have htotals : confs.mapM (fun conf => do
      let counts ← conf.sensors.mapM fun sConf => (numberOf sConf).asNumber
      rt.sum counts) = some ((subs.map fun sub => (sub.sensors.length : Int)).map Number.int) := by
    apply mapM_of_forall₂
    rw [List.map_map, List.forall₂_map_right_iff]
    exact h.imp fun _ _ hbuilt => hbuilt.total
  rw [declaredTotal, htotals, Option.bind_eq_bind, Option.bind_some, rt.sum_ints, sum_natCast]

end Runtime

/-! ## Well-formed configurations -/

section WellFormed

variable (rt : Runtime) (maxTotalSensors : Int) {S : Type u}

/-- What the callers of `init_subjects` rely on. The `k`-th sensor of a subject is the one for the
`k`-th of its assignments. -/
structure WellFormed (configs : List Value) (subs : List (Subject S)) : Prop where
  distinctIds : subs.Pairwise fun a b => rt.same a.subjectId b.subjectId = false
  assignedOnce : ∀ conf ∈ configs.filterMap readConf,
    (conf.assignments.map rt.assignmentKey).Nodup
  total : ((subs.map (·.sensors.length)).sum : Int) ≤ maxTotalSensors
  places : List.Forall₂
    (fun conf sub => sub.sensors.map (·.metaData.location) = conf.assignments.map Prod.snd)
    (configs.filterMap readConf) subs
  blocks : ∀ sub ∈ subs, (∀ e ∈ sub.sensors, 1 ≤ e.metaData.fBlockSize) ∧ sub.Ingests

/-- The ids differ, and every sensor class and every override gives a positive sampling rate. -/
structure Sound (configs : List Value) : Prop where
  distinctIds : (configs.filterMap readConf).Pairwise fun a b =>
    rt.same a.subjectId b.subjectId = false
  positiveRates : ∀ conf ∈ configs.filterMap readConf, ∀ sConf ∈ conf.sensors,
    rt.PositiveRates sConf

/-- `SubjectGraph.find_subject_by_id`. -/
def findSubjectById (subs : List (Subject S)) (subjectId : Value) : Option (Subject S) :=
  subs.find? fun sub => rt.same sub.subjectId subjectId

variable {rt maxTotalSensors} {configs : List Value} {subs : List (Subject S)}

/-- With distinct ids a subject is found under its own id. -/
theorem WellFormed.findSubjectById (h : WellFormed rt maxTotalSensors configs subs)
    {sub : Subject S} (hsub : sub ∈ subs) (hself : rt.same sub.subjectId sub.subjectId = true) :
    findSubjectById rt subs sub.subjectId = some sub := by
  obtain ⟨before, after, rfl⟩ := List.append_of_mem hsub
  have hbefore := (List.pairwise_append.mp h.distinctIds).2.2
  have hnone : before.find? (fun other => rt.same other.subjectId sub.subjectId) = none := by
    rw [List.find?_eq_none]
    intro other hother
    rw [hbefore other hother sub List.mem_cons_self]
    exact Bool.false_ne_true
  rw [Config.findSubjectById, List.find?_append, hnone, Option.none_or]
  exact List.find?_cons_of_pos hself

theorem filterMap_of_mapM {confs : List SubjectConf} (h : configs.mapM readConf = some confs) :
    configs.filterMap readConf = confs := by
  induction configs generalizing confs with
  | nil =>
    cases h
    rfl
  | cons v configs ih =>
    rw [List.mapM_cons] at h
    obtain ⟨conf, hconf, h⟩ := Option.bind_eq_some_iff.mp h
    obtain ⟨rest, hrest, h⟩ := Option.bind_eq_some_iff.mp h
    cases h
    rw [List.filterMap_cons_some hconf, ih hrest]

theorem initSubjects_ok (h : rt.initSubjects maxTotalSensors configs = (.ok (), subs)) :
    List.Forall₂ rt.Built (configs.filterMap readConf) subs ∧
      ((subs.map (·.sensors.length)).sum : Int) ≤ maxTotalSensors := by
  unfold Runtime.initSubjects at h
  split at h
  · cases h
  · rename_i confs hconfs
    split at h
    · cases h
    · rename_i total htotal
      split at h
      · cases h
      · rename_i hfits
        obtain ⟨built, rfl, hbuilt⟩ := rt.initLoop_ok h
        rw [filterMap_of_mapM hconfs]
        refine ⟨hbuilt, ?_⟩
        rw [rt.declaredTotal_of_built hbuilt] at htotal
        cases htotal
        simpa [Number.exceeds] using hfits

theorem pairwise_ids_iff {confs : List SubjectConf} (h : List.Forall₂ rt.Built confs subs) :
    (subs.Pairwise fun a b => rt.same a.subjectId b.subjectId = false) ↔
      confs.Pairwise fun a b => rt.same a.subjectId b.subjectId = false := by
  have hids : subs.map Subject.subjectId = confs.map SubjectConf.subjectId := by
    induction h with
    | nil => rfl
    | cons hfirst _ ih => rw [List.map_cons, List.map_cons, hfirst.subjectId, ih]
  rw [← List.pairwise_map (f := Subject.subjectId) (R := fun a b => rt.same a b = false), hids,
    List.pairwise_map]

theorem positive_iff {confs : List SubjectConf} (h : List.Forall₂ rt.Built confs subs) :
    (∀ sub ∈ subs, ∀ e ∈ sub.sensors, 1 ≤ e.metaData.fBlockSize) ↔
      ∀ conf ∈ confs, ∀ sConf ∈ conf.sensors, rt.PositiveRates sConf := by
  induction h with
  | nil => simp
  | cons hfirst _ ih => rw [List.forall_mem_cons, List.forall_mem_cons, ih, hfirst.positive]

/-- An accepted configuration is well formed exactly when it is sound: nothing in the function
compares two subject ids, and nothing looks at the sign of a sampling rate. -/
theorem accepted_wellFormed_iff (rt : Runtime) (maxTotalSensors : Int) (configs : List Value)
    (subs : List (Subject S))
    (h : rt.initSubjects maxTotalSensors configs = (.ok (), subs)) :
    WellFormed rt maxTotalSensors configs subs ↔ Sound rt configs := by
  have ⟨hbuilt, htotal⟩ := initSubjects_ok h
  have hpositive := positive_iff hbuilt
  constructor
  · intro hwell
    refine ⟨(pairwise_ids_iff hbuilt).mp hwell.distinctIds, hpositive.mp fun sub hsub => ?_⟩
    exact (hwell.blocks sub hsub).1
  · intro hsound
    have hblocks := hpositive.mpr hsound.positiveRates
    refine ⟨(pairwise_ids_iff hbuilt).mpr hsound.distinctIds, ?_, htotal, ?_, fun sub hsub => ?_⟩
    · intro conf hconf
      obtain ⟨k, hk, rfl⟩ := List.getElem_of_mem hconf
      have hk' := hbuilt.length_eq ▸ hk
      exact ((List.forall₂_iff_get.mp hbuilt).2 k hk hk').keys
    · exact hbuilt.imp fun _ _ hone => hone.places
    · exact ⟨hblocks sub hsub, Subject.ingests_of_positive (hblocks sub hsub)⟩

end WellFormed

/-! ## Two configurations of one sensor class -/

/-- Lower case of a text of ASCII characters. -/
def lowerText (s : String) : String := String.ofList (s.toList.map Char.toLower)

def imuClass : SensorClass where
  computations := some []
  make := fun _ => some (Dict.empty.set "SAMPLING_RATE" (.num (.int 60)))

def imuRuntime : Runtime where
  casefold := lowerText
  lower := lowerText
  repr := fun _ => ""
  intOfText := String.toInt?
  same := fun a b =>
    match a, b with
    | .str s, .str t => decide (s = t)
    | _, _ => false
  floatSum := fun _ => none
  rounded := .finite
  resolveInstalledSensorClass := fun
    | .str "imu" => some (some imuClass)
    | _ => some none
  describe := fun _ => ""

/-- One sensor on the wrist. -/
def imuSensor (rate : Int) : Fields :=
  [("local_name", .str "imu"), ("locations", .arr [.str "wrist"]),
    ("attributes", .obj [("SAMPLING_RATE", .num (.int rate))])]

def imuSubject (subjectId : String) (rate : Int) : Value :=
  .obj [("subject_id", .str subjectId), ("sensors", .arr [.obj (imuSensor rate)])]

theorem imuSensor_positiveRates {rate : Int} (hrate : 1 ≤ rate) :
    imuRuntime.PositiveRates (imuSensor rate) := by
  intro cls num hcls _ k _ r hr
  obtain rfl : cls = imuClass := (Option.some.inj (Option.some.inj hcls)).symm
  have hread : sensorRate imuClass (imuSensor rate) k =
      some (Value.orElse (.num (.int rate)) (.num (.int 1))) := rfl
  have htruthy : (Value.num (.int rate)).truthy = true := decide_eq_true (by omega)
  rw [hread, Value.orElse, if_pos htruthy] at hr
  cases hr
  exact hrate

theorem accepted_wellFormed_iff_twoSubjects :
    ∃ subs : List (Subject Nat),
      imuRuntime.initSubjects 8 [imuSubject "p1" 60, imuSubject "p2" 100] = (.ok (), subs) ∧
        WellFormed imuRuntime 8 [imuSubject "p1" 60, imuSubject "p2" 100] subs := by
  have haccepted : imuRuntime.initSubjects 8 [imuSubject "p1" 60, imuSubject "p2" 100] =
      (.ok (), (imuRuntime.initSubjects (S := Nat) 8
        [imuSubject "p1" 60, imuSubject "p2" 100]).2) := Prod.ext rfl rfl
  refine ⟨_, haccepted, (accepted_wellFormed_iff imuRuntime 8 _ _ haccepted).mpr ⟨?_, ?_⟩⟩
  · decide
  · intro conf hconf sConf hsConf
    rcases List.mem_cons.mp hconf with rfl | hconf
    · obtain rfl := List.mem_singleton.mp hsConf
      exact imuSensor_positiveRates (by decide)
    · obtain rfl := List.mem_singleton.mp hconf
      obtain rfl := List.mem_singleton.mp hsConf
      exact imuSensor_positiveRates (by decide)

/-- Two subjects under one id are accepted, and so is a negative rate: the second subject is
never found, and a sample of the first one keeps its callback in the block loop forever. -/
theorem duplicateId_accepted :
    ∃ first second : Subject Nat,
      imuRuntime.initSubjects 8 [imuSubject "p1" (-1), imuSubject "p1" 60] =
          (.ok (), [first, second]) ∧
        ¬ WellFormed imuRuntime 8 [imuSubject "p1" (-1), imuSubject "p1" 60] [first, second] ∧
          findSubjectById imuRuntime [first, second] second.subjectId = some first ∧
            ∃ e ∈ first.sensors, ∀ fuel raw, drainBlocks fuel e.metaData.fBlockSize
              (raw : List Nat) = none := by
  refine ⟨_, _, Prod.ext rfl rfl, fun hwell => ?_, rfl, _, List.mem_singleton_self _, ?_⟩
  · have hids := List.pairwise_cons.mp hwell.distinctIds
    exact absurd (hids.1 _ List.mem_cons_self) (by decide)
  · intro fuel raw
    exact drainBlocks_of_nonpos (by decide) fuel raw

end NexusN3.Config
