import NexusN3.Config.SubjectGraph
import NexusN3.Core.State
import NexusN3.Lib.Success
import NexusN3.Messaging.Messages
import NexusN3.Storage.Paths

/-!
# A configuration that is rejected

`Core.init_core` checks the state, lets the subject graph build the subjects, and installs them:
the sensors, the application, the session label, the compute side and the callbacks. An exception
on the way puts back what was there before. Once the installation has begun the devices may be left
half changed, and the Core is not configured again before a Reset has found it ready.

* **`prepare`**, **`install`** — the `try` of `init_core` before and behind
  `installation_started`.
* **`initCore`** — both, with what is put back.
* **`initCore_error`** — a rejected configuration changes nothing but the devices and the flag, and
  these only once the installation has begun.
* **`resetFinished`** — the end of a Reset.
-/

namespace NexusN3.Reconfigure

open Lib Lib.Program

/-! ## The state -/

/-- The fields of `FileManager` that a session label changes, with `session_name` in `manager`. -/
structure Files where
  manager : Storage.FileManager
  sessionLabel : Option String := none
  baseDir : List String

/-- What `init_core` and the end of a Reset read and write. `M` is what the sensor manager, the
compute side and the registered callbacks hold. -/
structure Core (S M : Type) where
  site : String
  nodeId : String
  subjects : List (Config.Subject S) := []
  graphSubjects : List (Config.Subject S) := []
  appId : Option String := none
  appName : Option String := none
  files : Files
  sessionTimestamp : Option String := none
  pendingCorrelationId : Json := .null
  streamPhase : StreamPhase := .idle
  connectionSequence : Connection.Sequence := {}
  recoveryInProgress : Bool := false
  streamStopFinalizationPending : Bool := false
  initializationRequiresRecovery : Bool := false
  /-- the registry given to `compute_orch` -/
  registry : Option String := none
  devices : M

structure Request where
  subjectsConfig : Value
  initLabel : Value := .null
  appId : Value := .null
  appName : Value := .null

/-- The calls out of `init_core`, as they go while it runs. What they did before they raised
stays. -/
structure Env (S M : Type) where
  rt : Config.Runtime
  maxTotalSensors : Int
  /-- an exception that leaves the subject graph -/
  graphException : Raised
  initSensorManager : List (Value × Config.Entry S) → M → Except Raised Unit × M
  resetCompute : M → Except Raised Unit × M
  registerCallbacks : M → Except Raised Unit × M
  mkdir : List String → Except Raised Unit

structure InitializationError where
  message : String
  configurationState : String
  recoveryRequired : Bool
  previousSubjectIds : List Value
  requestedSubjectIds : List Value
  configuredSubjectIds : Option (List Value)

/-- What `init_core` returns, with the event context. -/
structure Installed where
  message : String
  site : String
  sessionTimestamp : Option String
  sessionLabel : Option String
  sessionName : Option String
  appId : Option String
  appName : Option String
  subjectIds : List Value
  configurationState : String := "installed"
  correlationId : Json
  initializationComplete : Bool := true

variable {S M : Type}

/-- A part of `init_core`, which may raise. -/
abbrev Configuring (S M α : Type) := Program (Core S M) Raised α

/-! ## The checks and the subjects -/

def ensureRecoveryIdle (c : Core S M) : Except Raised Unit :=
  if c.recoveryInProgress then
    .error ⟨"RuntimeError", "Core recovery is still in progress; wait for Reset completion"⟩
  else .ok ()

def ensureDisconnectAllowed (c : Core S M) : Except Raised Unit :=
  if c.streamStopFinalizationPending then
    .error ⟨"RuntimeError",
      "Cannot disconnect sensors while stream finalization is still in progress"⟩
  else .ok ()

def ensureNoRecoveryRequired (c : Core S M) : Except Raised Unit :=
  if c.initializationRequiresRecovery then
    .error ⟨"RuntimeError", "Reset is required after failed configuration installation"⟩
  else .ok ()

def ensureNotAcquiring (c : Core S M) : Except Raised Unit :=
  let acquiring := match c.streamPhase with
    | .starting | .warmingUp | .preparingOfficial | .activatingOfficial => true
    | _ => false
  if c.subjects.any Config.Subject.isStreaming || acquiring then
    .error ⟨"RuntimeError", "Cannot reconfigure while a subject is acquiring"⟩
  else .ok ()

/-- `isinstance(subjects_config, list)`. -/
def subjectsList (subjectsConfig : Value) : Except Raised (List Value) :=
  match subjectsConfig with
  | .arr configs => .ok configs
  | _ => .error ⟨"ValueError", "Subjects must be a list"⟩

/-- `_init_subjects`. The subjects of the Core are left alone when the graph raises. -/
def initSubjects (env : Env S M) (configs : List Value) : Configuring S M Unit := of fun c =>
  match env.rt.initSubjects env.maxTotalSensors configs with
  | (.ok (), subs) => (.ok (), { c with subjects := subs, graphSubjects := subs })
  | (.error (.refused why), subs) =>
    (.error ⟨"ValueError", why.message env.rt⟩, { c with subjects := subs, graphSubjects := subs })
  | (.error .raised, subs) => (.error env.graphException, { c with graphSubjects := subs })

/-- The `try` of `init_core` before `installation_started`. -/
def prepare (env : Env S M) (request : Request) : Configuring S M Unit := reading fun c => do
  fromExcept (ensureRecoveryIdle c)
  fromExcept (ensureDisconnectAllowed c)
  fromExcept (ensureNoRecoveryRequired c)
  fromExcept (ensureNotAcquiring c)
  let configs ← fromExcept (subjectsList request.subjectsConfig)
  initSubjects env configs

/-! ## The installation -/

def onDevices (f : M → Except Raised Unit × M) : Configuring S M Unit := of fun c =>
  ((f c.devices).1, { c with devices := (f c.devices).2 })

/-- `_init_sensor_manager`: every entry is given the id of its subject. -/
def initSensorManager (env : Env S M) : Configuring S M Unit := reading fun c =>
  onDevices (env.initSensorManager
    (c.subjects.flatMap fun sub => sub.sensors.map fun entry => (sub.subjectId, entry)))

/-- `str(value).strip() if value else None`. -/
def strippedText (rt : Config.Runtime) (value : Value) : Option String :=
  if value.truthy then some (strip (rt.str value)) else none

def setApplication (env : Env S M) (request : Request) : Configuring S M Unit := of fun c =>
  (.ok (), { c with
    appId := strippedText env.rt request.appId
    appName := strippedText env.rt request.appName })

/-- The text that `FileManager.set_session_label` sanitizes, if it has one: a label that is no text
has no `strip`. -/
def labelText (label : Value) : Except Raised (Option String) :=
  if label.truthy then
    match label with
    | .str text => .ok (some text)
    | _ => .error ⟨"AttributeError", "object has no attribute 'strip'"⟩
  else .ok none

/-- `FileManager.set_session_label`. -/
def setSessionLabel (env : Env S M) (label : Value) : Configuring S M Unit := do
  let text ← fromExcept (labelText label)
  of fun c =>
    let manager := c.files.manager.setSessionLabel text
    let files : Files :=
      { manager, sessionLabel := manager.sessionName, baseDir := manager.resolveBaseDir }
    (env.mkdir files.baseDir, { c with files })

/-- `if init_label is not None`. -/
def labelSession (env : Env S M) (label : Value) : Configuring S M Unit :=
  match label with
  | .null => pure ()
  | label => setSessionLabel env label

/-- The `try` of `init_core` behind `installation_started`. -/
def install (env : Env S M) (request : Request) : Configuring S M Unit := do
  initSensorManager env
  setApplication env request
  labelSession env request.initLabel
  onDevices env.resetCompute
  onDevices env.registerCallbacks

/-! ## `init_core` -/

/-- The handler of `init_core`: `previous` is the state it began in. -/
def putBack (previous c : Core S M) (installationStarted : Bool) : Core S M :=
  { c with
    initializationRequiresRecovery := c.initializationRequiresRecovery || installationStarted
    subjects := previous.subjects
    graphSubjects := previous.graphSubjects
    appId := previous.appId
    appName := previous.appName
    files := { c.files with
      sessionLabel := previous.files.sessionLabel
      manager := { c.files.manager with sessionName := previous.files.manager.sessionName }
      baseDir := previous.files.baseDir } }

def requestedSubjectIds (subjectsConfig : Value) : List Value :=
  match subjectsConfig with
  | .arr configs => configs.filterMap fun sub =>
      sub.asDict.map fun fields => Value.get fields "subject_id"
  | _ => []

def initializationError (previous c : Core S M) (request : Request) (exc : Raised) :
    InitializationError :=
  let recoveryRequired := c.initializationRequiresRecovery
  let previousSubjectIds := previous.subjects.map Config.Subject.subjectId
  { message := exc.text
    configurationState := if recoveryRequired then "recovery_required" else "previous_retained"
    recoveryRequired
    previousSubjectIds
    requestedSubjectIds := requestedSubjectIds request.subjectsConfig
    configuredSubjectIds := if recoveryRequired then none else some previousSubjectIds }

/-- `connection_sequence.configure`. -/
def configureSequence (rt : Config.Runtime) (c : Core S M) : Core S M :=
  let locationText : Value → Option String
    | .null => none
    | location => some (rt.str location)
  { c with
    connectionSequence := c.connectionSequence.configure (c.subjects.map fun sub =>
      { subjectId := rt.str sub.subjectId
        nodeId := c.nodeId
        locations := sub.sensors.map fun entry => locationText entry.metaData.location }) }

def installed (c : Core S M) (correlationId : Json) : Installed where
  message := "System initialised with " ++ toString c.subjects.length ++ " subject(s)"
  site := c.site
  sessionTimestamp := c.sessionTimestamp
  sessionLabel := c.files.sessionLabel
  sessionName := c.files.manager.sessionName
  appId := c.appId
  appName := c.appName
  subjectIds := c.subjects.map Config.Subject.subjectId
  correlationId

/-- `init_core`, without the event for callers that ask for one. -/
def initCore (env : Env S M) (request : Request) :
    Program (Core S M) InitializationError Installed := of fun c =>
  match (prepare env request).exec c with
  | (.error exc, c') =>
    let c' := putBack c c' false
    (.error (initializationError c c' request exc), c')
  | (.ok (), c') =>
    match (install env request).exec c' with
    | (.error exc, c') =>
      let c' := putBack c c' true
      (.error (initializationError c c' request exc), c')
    | (.ok (), c') =>
      let c' := configureSequence env.rt c'
      (.ok (installed c' c.pendingCorrelationId), c')

/-- The checks and the subject graph let the installation begin. -/
def Begins (env : Env S M) (request : Request) (c : Core S M) : Prop :=
  ∃ c', (prepare env request).exec c = (.ok (), c')

/-! ## The end of a Reset -/

/-- The report says that the Core is ready for a configuration. -/
def ReadyReport (report : Except Raised Json) : Bool :=
  match report with
  | .ok (.obj fields) => (Json.get fields "core_ready_for_configuration").isTrue
  | _ => false

/-- The done callback of `reset_session`; the report is what the sensor manager's future holds. -/
def resetFinished (report : Except Raised Json) (c : Core S M) : Core S M :=
  let c := { c with recoveryInProgress := false }
  match report with
  | .error _ => c
  | .ok _ =>
    { c with
      streamPhase := .idle
      graphSubjects := []
      subjects := []
      sessionTimestamp := none
      initializationRequiresRecovery :=
        c.initializationRequiresRecovery && !ReadyReport report }

/-! ## What a rejected configuration changes -/

/-- Nothing but the subjects has changed. -/
def OnlySubjects (c c' : Core S M) : Prop :=
  ∃ subjects graphSubjects, c' = { c with subjects := subjects, graphSubjects := graphSubjects }

instance : IsPreorder (Core S M) OnlySubjects where
  refl c := ⟨c.subjects, c.graphSubjects, rfl⟩
  trans := by
    rintro c _ _ ⟨subjects, graphSubjects, rfl⟩ ⟨subjects', graphSubjects', rfl⟩
    exact ⟨subjects', graphSubjects', rfl⟩

/-- Nothing has changed but what the handler puts back, and the devices. -/
def OnlyConfiguration (c c' : Core S M) : Prop :=
  ∃ subjects graphSubjects appId appName sessionLabel sessionName baseDir devices,
    c' = { c with
      subjects := subjects
      graphSubjects := graphSubjects
      appId := appId
      appName := appName
      files := {
        manager := { c.files.manager with sessionName := sessionName }
        sessionLabel := sessionLabel
        baseDir := baseDir }
      devices := devices }

instance : IsPreorder (Core S M) OnlyConfiguration where
  refl c := ⟨_, _, _, _, _, _, _, _, rfl⟩
  trans := by
    rintro c _ _ ⟨_, _, _, _, _, _, _, _, rfl⟩ ⟨_, _, _, _, _, _, _, _, rfl⟩
    exact ⟨_, _, _, _, _, _, _, _, rfl⟩

section Frames

variable {env : Env S M} {request : Request} {c c' : Core S M}

theorem keeps_initSubjects (configs : List Value) :
    Keeps OnlySubjects (initSubjects env configs) := by
  intro c
  unfold initSubjects
  rw [exec_of]
  split
  · exact ⟨_, _, rfl⟩
  · exact ⟨_, _, rfl⟩
  · exact ⟨c.subjects, _, rfl⟩

theorem keeps_prepare : Keeps OnlySubjects (prepare env request) := by
  intro c
  unfold prepare
  rw [exec_reading]
  refine Keeps.bind (Keeps.fromExcept _) (fun _ => ?_) c
  refine Keeps.bind (Keeps.fromExcept _) fun _ => ?_
  refine Keeps.bind (Keeps.fromExcept _) fun _ => ?_
  refine Keeps.bind (Keeps.fromExcept _) fun _ => ?_
  exact Keeps.bind (Keeps.fromExcept _) fun configs => keeps_initSubjects configs

theorem keeps_onDevices (f : M → Except Raised Unit × M) :
    Keeps OnlyConfiguration (onDevices f : Configuring S M Unit) :=
  fun _ => ⟨_, _, _, _, _, _, _, _, rfl⟩

theorem keeps_initSensorManager :
    Keeps OnlyConfiguration (initSensorManager env : Configuring S M Unit) :=
  fun c => keeps_onDevices _ c

theorem keeps_setApplication : Keeps OnlyConfiguration (setApplication env request) :=
  fun _ => ⟨_, _, _, _, _, _, _, _, rfl⟩

/-- The label is the name, and the root and the site stay. -/
theorem keeps_setSessionLabel (label : Value) :
    Keeps OnlyConfiguration (setSessionLabel env label) := by
  refine Keeps.bind (Keeps.fromExcept _) fun text c => ?_
  have hmanager : ∃ name, c.files.manager.setSessionLabel text =
      { c.files.manager with sessionName := name } := by
    unfold Storage.FileManager.setSessionLabel
    split <;> exact ⟨_, rfl⟩
  obtain ⟨name, hname⟩ := hmanager
  rw [exec_of, hname]
  exact ⟨_, _, _, _, _, _, _, _, rfl⟩

theorem keeps_labelSession (label : Value) : Keeps OnlyConfiguration (labelSession env label) := by
  unfold labelSession
  split
  · exact Keeps.pure ()
  · exact keeps_setSessionLabel _

theorem keeps_install : Keeps OnlyConfiguration (install env request) := by
  refine Keeps.bind keeps_initSensorManager fun _ => ?_
  refine Keeps.bind keeps_setApplication fun _ => ?_
  refine Keeps.bind (keeps_labelSession _) fun _ => ?_
  exact Keeps.bind (keeps_onDevices _) fun _ => keeps_onDevices _

/-- A Core that requires recovery is not configured. -/
theorem prepare_of_requiresRecovery (h : c.initializationRequiresRecovery = true) :
    ∃ exc, (prepare env request).exec c = (.error exc, c) := by
  unfold prepare
  rw [exec_reading]
  have hrequired : ensureNoRecoveryRequired c =
      .error ⟨"RuntimeError", "Reset is required after failed configuration installation"⟩ := by
    rw [ensureNoRecoveryRequired, if_pos h]
  cases hidle : ensureRecoveryIdle c with
  | error exc => exact ⟨exc, by rw [exec_bind, exec_fromExcept]⟩
  | ok _ =>
    cases hallowed : ensureDisconnectAllowed c with
    | error exc =>
      exact ⟨exc, by rw [exec_bind, exec_fromExcept]; dsimp only; rw [exec_bind, exec_fromExcept]⟩
    | ok _ =>
      refine ⟨⟨"RuntimeError", "Reset is required after failed configuration installation"⟩, ?_⟩
      rw [exec_bind, exec_fromExcept]
      dsimp only
      rw [exec_bind, exec_fromExcept]
      dsimp only
      rw [exec_bind, hrequired, exec_fromExcept]

/-- **A rejected configuration.** Before the installation everything is as it was; behind it
everything but the devices, and recovery is required. -/
theorem initCore_error {e : InitializationError}
    (h : (initCore env request).exec c = (.error e, c')) :
    e.recoveryRequired = c'.initializationRequiresRecovery ∧
      (¬ Begins env request c → c' = c) ∧
      (Begins env request c →
        c' = { c with devices := c'.devices, initializationRequiresRecovery := true }) := by
  unfold initCore at h
  rw [exec_of] at h
  have hprepare := @keeps_prepare S M env request c
  cases hrun : (prepare env request).exec c with
  | mk r c₁ =>
    rw [hrun] at h hprepare
    obtain ⟨subjects, graphSubjects, rfl⟩ := hprepare
    cases r with
    | error exc =>
      have hnot : ¬ Begins env request c := by
        rintro ⟨c₂, hbegins⟩
        rw [hrun] at hbegins
        cases hbegins
      cases h
      refine ⟨rfl, fun _ => ?_, fun hbegins => absurd hbegins hnot⟩
      unfold putBack
      rw [Bool.or_false]
    | ok _ =>
      have hbegins : Begins env request c := ⟨_, hrun⟩
      have hinstall := @keeps_install S M env request
        { c with subjects := subjects, graphSubjects := graphSubjects }
      dsimp only at h
      cases hrun' : (install env request).exec
          { c with subjects := subjects, graphSubjects := graphSubjects } with
      | mk r' c₂ =>
        rw [hrun'] at h hinstall
        cases r' with
        | error exc =>
          obtain ⟨_, _, _, _, _, _, _, _, rfl⟩ := hinstall
          cases h
          refine ⟨rfl, fun hnot => absurd hbegins hnot, fun _ => ?_⟩
          unfold putBack
          rw [Bool.or_true]
        | ok _ => cases h

/-- A Core that requires recovery is left alone. -/
theorem initCore_of_requiresRecovery (h : c.initializationRequiresRecovery = true) :
    ∃ e, (initCore env request).exec c = (.error e, c) ∧ e.recoveryRequired = true := by
  obtain ⟨exc, hprepare⟩ := @prepare_of_requiresRecovery S M env request c h
  have hputBack : putBack c c false = c := by
    unfold putBack
    rw [Bool.or_false]
  refine ⟨initializationError c c request exc, ?_, h⟩
  unfold initCore
  rw [exec_of, hprepare]
  dsimp only
  rw [hputBack]

end Frames

/-! ## What the message handler sees -/

/-- The fields of the Core that the message handler reads. -/
def shown (c : Core S M) : Messaging.Core where
  initializationRequiresRecovery := c.initializationRequiresRecovery
  recoveryInProgress := c.recoveryInProgress
  streamStopFinalizationPending := c.streamStopFinalizationPending
  connectionSequence := c.connectionSequence
  subjects := c.subjects.map fun sub => sub.subjectId.asText.getD ""
  pendingCorrelationId := c.pendingCorrelationId
  baseRoot := "/".intercalate c.files.manager.baseRoot
  registry := c.registry

end NexusN3.Reconfigure
