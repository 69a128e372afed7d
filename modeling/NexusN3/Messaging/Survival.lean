import NexusN3.Messaging.MessageHandler
import NexusN3.Lib.Triple

/-!
# Which commands return

The guards send a command along one of six routes, and on each route only some calls are inside
a `try`. This module gives the exact condition under which no exception leaves
`_handle_local`: what it reads must be there, and the calls outside of a `try` must return.

* **`Route`**, **`MessageHandler.route`** — where the guards send a command.
* **`Command.Survives`**, **`Route.Survives`** — the conditions, command by command.
* **`succeeds_handleLocal_iff`** — `_handle_local` returns exactly under them.
-/

namespace NexusN3.Messaging

open Lib Lib.Program

/-! ## Conditions on the calls -/

/-- The call returns. -/
def Answers {α : Type} (x : Except Raised α) : Prop := ∃ a, x = .ok a

/-- The path is none, or a text, and its directories can be made. -/
def Host.TakesPath (host : Host) (path : Json) : Prop :=
  (path.truthy = false ∧ Answers (host.mkdir "nexus_n3_outputs")) ∨
    ∃ root, path = .str root ∧ path.truthy = true ∧ Answers (host.mkdir root)

/-- The device info provider answers with these fields; where none is set there are none. -/
def Host.Provides (host : Host) (s : MessageHandler) (time : Nat) (fields : Fields) : Prop :=
  if s.hooks.deviceInfoProvider then
    ∃ v, host.deviceInfoProvider time = .ok v ∧ v.orElse (.obj []) = .obj fields
  else fields = []

/-- The robot service and the discoveries of a set-up `Core` answer. -/
structure Host.Capable (host : Host) (s : MessageHandler) : Prop where
  robot : s.hooks.robotService = true → Answers host.robotStatus
  sensors : s.si.isSome = true → Answers host.supportedSensors
  algorithms : s.si.isSome = true → Answers host.supportedAlgorithms
  gateways : s.si.isSome = true → Answers host.supportedGateways
  bridges : s.si.isSome = true → Answers host.supportedBridges

/-- A value that `list(.. or [])` takes. -/
def Listable (value : Json) : Prop := value.truthy = true → ∃ items, value.iter = some items

/-- The two answers of the device info provider can be read. -/
def Host.DescribesDevice (host : Host) (s : MessageHandler) : Prop :=
  ∃ runtime inventory, host.Provides s 0 runtime ∧ host.Provides s 1 inventory ∧
    Listable (Json.getD inventory "neia_apps" (.arr [])) ∧
    Listable (Json.getD inventory "neia_workflows" (.arr [])) ∧
    ((Json.get runtime "software_version").truthy = false → Answers host.coreVersion) ∧
    ((Json.get runtime "usb_disk").truthy = true → ∃ disk, Json.get runtime "usb_disk" = .obj disk)

/-- A sequence that is not busy needs a subject, and a discovered one its selected addresses. -/
def CanStart (s : Connection.Sequence) : Prop :=
  s.busy = true ∨ s.subjects ≠ [] ∧
    ∀ subject, s.subjects.find? (fun subject => subject.subjectId ∉ s.completed) = some subject →
      subject.subjectId ∈ s.discovered → s.selected.get? subject.subjectId ≠ none

/-! ## Conditions on the commands -/

/-- No exception leaves the branch of the command. -/
def Command.Survives (host : Host) (s : MessageHandler) (payload : Fields) (prepared : Bool) :
    Command → Prop
  | .isServerReady =>
    s.isReady = true → (∃ runtime, host.Provides s 0 runtime) ∧ host.Capable s
  | .getDeviceInfo => host.DescribesDevice s ∧ host.Capable s
  | .systemSetup =>
    Answers host.newCore ∧ host.TakesPath (Json.get payload "file_path") ∧
      Answers host.pluginInventory
  | .updateFilePath =>
    s.si.isSome = true ∧ ∃ path, payload.lookup "file_path" = some path ∧ host.TakesPath path
  | .usbMount => s.hooks.usbMountHandler = true → Answers host.usbMountHandler.result
  | .usbSafeUnmount => s.hooks.usbUnmountHandler = true → Answers host.usbUnmountHandler.result
  | .getUsbStatus => s.hooks.usbStatusProvider = true → Answers host.usbStatusProvider
  | .checkBattery =>
    ∃ core, s.si = some core ∧
      Answers (host.request (.checkBattery (Json.getD payload "scan_timeout" (.num 5))
        (Json.getD payload "read_timeout" (.num 10))) core).result
  | .startStreamForAll | .startStreamForSubjects =>
    s.si.isSome = true ∧ (prepared = false → s.hooks.beforeStreamStart = true →
      Answers host.beforeStreamStart.result)
  -- these note the correlation id in `Core` before their `try`
  | .discoverSensors | .discoverSensorsForSubjects | .connectToAll | .connectSubjects
  | .disconnectAll | .disconnectSubjects | .identifySensor
  | .stopStreamForAll | .stopStreamForSubjects => s.si.isSome = true
  -- and these do everything inside of it
  | .initSystem | .startOfficialStream | .robotMotion | .robotStop
  | .forwardControlCenterMessage => True

/-! ## Routes -/

inductive Route where
  | refused
  | step
  | sequence
  | waits
  | command (c : Command)
  | unknown

/-- `msg_type in {..}`, for a type with a hash. -/
def OneOf (type : Json) (commands : List Command) : Prop :=
  ∃ c ∈ commands, Command.ofType type = some c

instance (type : Json) (commands : List Command) : Decidable (OneOf type commands) :=
  inferInstanceAs (Decidable (∃ c ∈ commands, Command.ofType type = some c))

/-- Where the guards send a command. -/
def MessageHandler.route (s : MessageHandler) (type : Json) (payload : Fields) : Route :=
  if s.requiresRecovery = true ∧ OneOf type resetFirst then .refused
  else if (Json.get payload "connection_sequence_id").truthy = true ∧ OneOf type stepCommands then
    .step
  else if Command.ofType type = some .connectToAll ∧ s.severalSubjects then .sequence
  else if s.busy = true ∧ OneOf type sequenceFirst then .waits
  else
    match Command.ofType type with
    | some c => .command c
    | none => .unknown

/-- One of the guards looks the type up in a set. -/
def MessageHandler.LooksUp (s : MessageHandler) (payload : Fields) : Prop :=
  s.requiresRecovery = true ∨ (Json.get payload "connection_sequence_id").truthy = true ∨
    s.busy = true

/-- The subject of a failed connection step can be named. -/
def NamesSubject (payload : Fields) : Prop :=
  (Json.get payload "subject_id").truthy = true ∨ (Json.get payload "subject_ids").truthy = false ∨
    ∃ v, (Json.get payload "subject_ids").first = some v

/-- No exception leaves the route. -/
def Route.Survives (host : Host) (s : MessageHandler) (type : Json) (payload : Fields)
    (prepared : Bool) : Route → Prop
  | refused => True
  | step =>
    NamesSubject payload ∨
      ∃ core, s.si = some core ∧
        Answers (host.request (.executeConnectionStep type payload) core).result
  | sequence =>
    ∃ core, s.si = some core ∧ core.recoveryInProgress = false ∧
      core.streamStopFinalizationPending = false ∧ CanStart core.connectionSequence
  | waits => True
  | command c => c.Survives host s payload prepared
  | unknown => True

/-! ## Reads -/

@[simp] theorem answers_ok {α : Type} (a : α) : Answers (.ok a) := ⟨a, rfl⟩

@[simp] theorem answers_pure {α : Type} (a : α) : Answers (pure a) := ⟨a, rfl⟩

@[simp] theorem not_answers_error {α : Type} (e : Raised) :
    ¬ Answers (.error e : Except Raised α) := by
  rintro ⟨a, h⟩
  cases h

theorem answers_bind {α β : Type} {x : Except Raised α} {f : α → Except Raised β} :
    Answers (x >>= f) ↔ ∃ a, x = .ok a ∧ Answers (f a) := by
  cases x with
  | error e =>
    refine iff_of_false (not_answers_error e) ?_
    rintro ⟨a, h, -⟩
    cases h
  | ok a =>
    constructor
    · intro h
      exact ⟨a, rfl, h⟩
    · rintro ⟨b, hb, h⟩
      cases hb
      exact h

theorem fieldsOf_eq_ok {v : Json} {fields : Fields} :
    fieldsOf v = .ok fields ↔ v = .obj fields := by
  cases v <;> simp [fieldsOf]

theorem item_eq_ok {payload : Fields} {key : String} {v : Json} :
    item payload key = .ok v ↔ payload.lookup key = some v := by
  unfold item
  cases payload.lookup key <;> simp

theorem answers_listOf {fields : Fields} {key : String} :
    Answers (listOf fields key) ↔ Listable (Json.getD fields key (.arr [])) := by
  unfold listOf Listable
  dsimp only
  cases (Json.getD fields key (.arr [])).truthy with
  | false => simp
  | true => cases (Json.getD fields key (.arr [])).iter <;> simp

theorem answers_subjectOf {payload : Fields} :
    Answers (subjectOf payload) ↔ NamesSubject payload := by
  unfold subjectOf NamesSubject
  dsimp only
  cases (Json.get payload "subject_id").truthy with
  | true => simp
  | false =>
    cases (Json.get payload "subject_ids").truthy with
    | false => simp
    | true => cases (Json.get payload "subject_ids").first <;> simp

/-! ## Snapshots -/

section Snapshots

variable {host : Host} {s : MessageHandler}

theorem answers_capabilitiesPayload : Answers (capabilitiesPayload host s) ↔ host.Capable s := by
  unfold capabilitiesPayload robotStatus
  rw [answers_bind]
  constructor
  · rintro ⟨robot, hrobot, hrest⟩
    have hanswers : s.hooks.robotService = true → Answers host.robotStatus := by
      intro hset
      rw [if_pos hset] at hrobot
      exact ⟨robot, hrobot⟩
    cases hsi : s.si.isSome with
    | false => exact ⟨hanswers, by simp [hsi], by simp [hsi], by simp [hsi], by simp [hsi]⟩
    | true =>
      simp only [hsi, if_true, answers_bind] at hrest
      obtain ⟨sensors, hsensors, algorithms, halgorithms, gateways, hgateways, bridges, hbridges,
        -⟩ := hrest
      exact ⟨hanswers, fun _ => ⟨_, hsensors⟩, fun _ => ⟨_, halgorithms⟩,
        fun _ => ⟨_, hgateways⟩, fun _ => ⟨_, hbridges⟩⟩
  · intro h
    have hrobot : ∃ robot, (if s.hooks.robotService then host.robotStatus
        else .ok (.obj [("supported", .bool false), ("running", .bool false),
          ("robot_id", .null)])) = .ok robot := by
      split
      · exact h.robot ‹_›
      · exact ⟨_, rfl⟩
    obtain ⟨robot, hrobot⟩ := hrobot
    refine ⟨robot, hrobot, ?_⟩
    cases hsi : s.si.isSome with
    | false => exact ⟨_, rfl⟩
    | true =>
      obtain ⟨sensors, hsensors⟩ := h.sensors hsi
      obtain ⟨algorithms, halgorithms⟩ := h.algorithms hsi
      obtain ⟨gateways, hgateways⟩ := h.gateways hsi
      obtain ⟨bridges, hbridges⟩ := h.bridges hsi
      simp [hsensors, halgorithms, hgateways, hbridges, answers_bind]

/-- The answer of the provider is a dictionary exactly when the provider describes one. -/
theorem runtimeOf_eq_obj {time : Nat} {fields : Fields} :
    runtimeOf host s time = .ok (.obj fields) ↔ host.Provides s time fields := by
  unfold runtimeOf Host.Provides
  cases s.hooks.deviceInfoProvider with
  | false =>
    simp only [Bool.false_eq_true, if_false]
    constructor
    · intro h
      cases h
      rfl
    · rintro rfl
      rfl
  | true =>
    cases host.deviceInfoProvider time with
    | error e => simp [bind, Except.bind]
    | ok v => simp [bind, Except.bind, pure, Except.pure]

theorem answers_serverReadyPayload :
    Answers (serverReadyPayload host s) ↔ (s.isReady = true →
      (∃ runtime, host.Provides s 0 runtime) ∧ host.Capable s) := by
  unfold serverReadyPayload
  cases hready : s.isReady with
  | false => simp
  | true =>
    simp only [if_true, forall_const, answers_bind, fieldsOf_eq_ok]
    constructor
    · rintro ⟨v, hv, capabilities, hcapabilities, runtime, rfl, -⟩
      exact ⟨⟨runtime, runtimeOf_eq_obj.mp hv⟩, answers_capabilitiesPayload.mp ⟨_, hcapabilities⟩⟩
    · rintro ⟨⟨runtime, hruntime⟩, hcapable⟩
      obtain ⟨capabilities, hcapabilities⟩ := answers_capabilitiesPayload.mpr hcapable
      exact ⟨_, runtimeOf_eq_obj.mpr hruntime, capabilities, hcapabilities, runtime, rfl,
        answers_pure _⟩

theorem answers_pluginInventoryPayload (capabilities : Capabilities) :
    Answers (pluginInventoryPayload host s capabilities) ↔ ∃ inventory,
      host.Provides s 1 inventory ∧ Listable (Json.getD inventory "neia_apps" (.arr [])) ∧
        Listable (Json.getD inventory "neia_workflows" (.arr [])) := by
  unfold pluginInventoryPayload
  simp only [answers_bind, fieldsOf_eq_ok, ← answers_listOf, ← runtimeOf_eq_obj]
  constructor
  · rintro ⟨v, hv, inventory, rfl, apps, happs, workflows, hworkflows, -⟩
    exact ⟨inventory, hv, ⟨apps, happs⟩, workflows, hworkflows⟩
  · rintro ⟨inventory, hv, ⟨apps, happs⟩, workflows, hworkflows⟩
    exact ⟨_, hv, inventory, rfl, apps, happs, workflows, hworkflows, answers_pure _⟩

theorem answers_softwareVersion {runtime : Fields} :
    Answers (softwareVersion host runtime) ↔
      ((Json.get runtime "software_version").truthy = false → Answers host.coreVersion) := by
  unfold softwareVersion
  dsimp only
  cases (Json.get runtime "software_version").truthy with
  | true => simp
  | false => cases host.coreVersion <;> simp [Except.map]

/-- `runtime.get("usb_disk") or {..}` is a dictionary, when it is there at all. -/
theorem orElse_noUsbDisk {v : Json} :
    (∃ disk, v.orElse noUsbDisk = .obj disk) ↔ (v.truthy = true → ∃ disk, v = .obj disk) := by
  unfold Json.orElse
  cases v.truthy with
  | true => simp
  | false => simp [noUsbDisk]

theorem answers_deviceInfoPayload (correlationId : Json) :
    Answers (deviceInfoPayload host s correlationId) ↔
      host.DescribesDevice s ∧ host.Capable s := by
  unfold deviceInfoPayload Host.DescribesDevice
  simp only [answers_bind, fieldsOf_eq_ok, ← runtimeOf_eq_obj]
  constructor
  · rintro ⟨v, hv, capabilities, hcapabilities, inventory, hinventory, runtime, rfl, version,
      hversion, disk, hdisk, -⟩
    obtain ⟨items, hitems, happs, hworkflows⟩ :=
      (answers_pluginInventoryPayload _).mp ⟨_, hinventory⟩
    exact ⟨⟨runtime, items, hv, runtimeOf_eq_obj.mpr hitems, happs, hworkflows,
      answers_softwareVersion.mp ⟨_, hversion⟩, orElse_noUsbDisk.mp ⟨disk, hdisk⟩⟩,
      answers_capabilitiesPayload.mp ⟨_, hcapabilities⟩⟩
  · rintro ⟨⟨runtime, items, hv, hitems, happs, hworkflows, hversion, hdisk⟩, hcapable⟩
    obtain ⟨capabilities, hcapabilities⟩ := answers_capabilitiesPayload.mpr hcapable
    obtain ⟨inventory, hinventory⟩ := (answers_pluginInventoryPayload capabilities).mpr
      ⟨items, runtimeOf_eq_obj.mp hitems, happs, hworkflows⟩
    obtain ⟨version, hversion⟩ := answers_softwareVersion.mpr hversion
    obtain ⟨disk, hdisk⟩ := orElse_noUsbDisk.mpr hdisk
    exact ⟨_, hv, capabilities, hcapabilities, inventory, hinventory, runtime, rfl, version,
      hversion, disk, hdisk, answers_pure _⟩

end Snapshots

/-! ## Calls -/

@[simp] theorem succeeds_emit (e : Event) (s : MessageHandler) : Succeeds (emit e) s := ⟨_, _, rfl⟩

@[simp] theorem succeeds_emitError (correlationId : Json) (message : String) (s : MessageHandler) :
    Succeeds (emitError correlationId message) s := succeeds_emit _ s

@[simp] theorem succeeds_call {α : Type} (c : Call α) (s : MessageHandler) :
    Succeeds (call c) s ↔ Answers c.result := succeeds_of _ s

@[simp] theorem succeeds_fromExcept' {α : Type} (x : Except Raised α) (s : MessageHandler) :
    Succeeds (fromExcept x : Handling α) s ↔ Answers x := succeeds_fromExcept x s

theorem succeeds_onCore {α : Type} {c : Core → Call α} {s : MessageHandler} :
    Succeeds (onCore c) s ↔ ∃ core, s.si = some core ∧ Answers (c core).result := by
  unfold onCore
  rw [succeeds_of]
  cases s.si with
  | none => simp
  | some core => simp [call, Answers]

/-- `self.si` is there after a call of its method exactly when it was before. -/
def SameSetup (s s' : MessageHandler) : Prop := s'.si.isSome = s.si.isSome

instance : IsPreorder MessageHandler SameSetup where
  refl _ := rfl
  trans _ _ _ h h' := h'.trans h

theorem keeps_call {α : Type} (c : Call α) : Keeps SameSetup (call c) := by
  intro s
  simp [call, SameSetup]

theorem keeps_onCore {α : Type} (c : Core → Call α) : Keeps SameSetup (onCore c) := by
  intro s
  unfold onCore
  rw [exec_of]
  split
  · exact keeps_call _ s
  · rfl

theorem keeps_ask (host : Host) (r : Request) : Keeps SameSetup (ask host r) := keeps_onCore _

theorem keeps_afterStop (host : Host) : Keeps SameSetup (afterStop host) := by
  intro s
  rw [afterStop, exec_reading]
  split
  · refine Keeps.bind (keeps_onCore _) (fun active => ?_) s
    cases active with
    | true => exact Keeps.pure ()
    | false => exact keeps_call _
  · rfl

theorem keeps_setPending (value : Json) : Keeps SameSetup (setPending value) := keeps_onCore _

/-- The correlation id can be noted exactly when `Core` is set up. -/
theorem succeeds_setPending {value : Json} {s : MessageHandler} :
    Succeeds (setPending value) s ↔ s.si.isSome = true := by
  unfold setPending
  rw [succeeds_onCore, Option.isSome_iff_exists]
  simp

/-- What is in the `try` of a guarded command does not matter. -/
theorem succeeds_guarded {correlationId : Json} {label : String} {body : Handling Unit}
    {s : MessageHandler} (hbody : Keeps SameSetup body) :
    Succeeds (guarded correlationId label body) s ↔ s.si.isSome = true := by
  unfold guarded
  constructor
  · intro h
    obtain ⟨a, s', hrun, -⟩ := succeeds_bind.mp h
    exact succeeds_setPending.mp ⟨a, s', hrun⟩
  · intro hsi
    obtain ⟨a, s', hrun⟩ := succeeds_setPending.mpr hsi
    have hsi' : s'.si.isSome = true := ((keeps_setPending correlationId).of_exec hrun).trans hsi
    refine (succeeds_bind_of_exec hrun).mpr (succeeds_tryCatch_of_keeps hbody ?_)
    intro exc s'' hkept
    have hnote : Succeeds (setPending .null) s'' := succeeds_setPending.mpr (hkept.trans hsi')
    obtain ⟨b, s₃, hnoted⟩ := hnote
    exact (succeeds_bind_of_exec hnoted).mpr (succeeds_emitError ..)

theorem succeeds_setFilePath {host : Host} {path : Json} {s : MessageHandler} :
    Succeeds (setFilePath host path) s ↔ s.si.isSome = true ∧ host.TakesPath path := by
  unfold setFilePath
  rw [succeeds_onCore, Option.isSome_iff_exists]
  simp only [exists_and_right]
  refine and_congr_right fun _ => ?_
  unfold Host.TakesPath
  cases htruthy : path.truthy with
  | false => simp
  | true => cases path <;> simp

/-! ## Commands -/

section Commands

variable {host : Host} {payload : Fields} {correlationId : Json} {prepared : Bool}
  {s : MessageHandler}

theorem succeeds_systemSetup :
    Succeeds (systemSetup host payload) s ↔
      Answers host.newCore ∧ host.TakesPath (Json.get payload "file_path") ∧
        Answers host.pluginInventory := by
  unfold systemSetup
  constructor
  · intro h
    obtain ⟨_, hnew, h⟩ := succeeds_fromExcept_bind.mp h
    obtain ⟨_, s₁, -, h⟩ := succeeds_bind.mp h
    obtain ⟨_, s₂, hpath, h⟩ := succeeds_bind.mp h
    obtain ⟨_, hplugins, -⟩ := succeeds_fromExcept_bind.mp h
    exact ⟨⟨_, hnew⟩, (succeeds_setFilePath.mp ⟨_, _, hpath⟩).2, ⟨_, hplugins⟩⟩
  · rintro ⟨⟨_, hnew⟩, hpath, ⟨_, hplugins⟩⟩
    refine succeeds_fromExcept_bind.mpr ⟨_, hnew, ?_⟩
    refine (succeeds_bind_of_exec (exec_of ..)).mpr ?_
    -- `self.si` is there now
    have hset : Succeeds (setFilePath host (Json.get payload "file_path"))
        { s with si := some { registry := s.registry } } := succeeds_setFilePath.mpr ⟨rfl, hpath⟩
    obtain ⟨_, s₂, hrun⟩ := hset
    refine (succeeds_bind_of_exec hrun).mpr ?_
    exact succeeds_fromExcept_bind.mpr ⟨_, hplugins, by simp⟩

/-- Everything an initialization calls is inside its `try`. -/
theorem succeeds_initSystem : Succeeds (initSystem host payload correlationId) s := by
  unfold initSystem
  rw [succeeds_reading]
  have hcaught : ∀ cid : Json, Succeeds (tryCatch (tryInit host payload cid) fun exc =>
      pure (.error { message := exc.text, configuration := unknownConfiguration })) s :=
    fun cid => succeeds_tryCatch_of_forall s fun _ _ => succeeds_pure ..
  obtain ⟨outcome, s', hrun⟩ := hcaught (correlationId.orElse (.str host.uuid))
  refine (succeeds_bind_of_exec hrun).mpr ?_
  exact (succeeds_bind_of_exec (exec_of ..)).mpr ((succeeds_call ..).mpr (answers_ok _))

theorem succeeds_prepareStreamStart :
    Succeeds (prepareStreamStart host prepared) s ↔
      (prepared = false → s.hooks.beforeStreamStart = true →
        Answers host.beforeStreamStart.result) := by
  unfold prepareStreamStart
  rw [succeeds_reading]
  cases prepared <;> cases hset : s.hooks.beforeStreamStart <;> simp

theorem keeps_prepareStreamStart : Keeps SameSetup (prepareStreamStart host prepared) := by
  intro s
  rw [prepareStreamStart, exec_reading]
  split
  · exact keeps_call _ s
  · rfl

theorem keeps_requestOf (key : String) (request : Json → Request) :
    Keeps SameSetup (do
      let value ← fromExcept (item payload key)
      ask host (request value) : Handling Unit) :=
  (Keeps.fromExcept _).bind fun _ => keeps_ask _ _

theorem succeeds_startStream {label : String} {r : Request} :
    Succeeds (do
      prepareStreamStart host prepared
      guarded correlationId label (ask host r)) s ↔
      s.si.isSome = true ∧ (prepared = false → s.hooks.beforeStreamStart = true →
        Answers host.beforeStreamStart.result) := by
  rw [← succeeds_prepareStreamStart]
  constructor
  · intro h
    obtain ⟨_, s', hrun, h⟩ := succeeds_bind.mp h
    have hsi := (succeeds_guarded (keeps_ask _ _)).mp h
    exact ⟨(keeps_prepareStreamStart.of_exec hrun).symm.trans hsi, _, _, hrun⟩
  · rintro ⟨hsi, _, s', hrun⟩
    refine (succeeds_bind_of_exec hrun).mpr ((succeeds_guarded (keeps_ask _ _)).mpr ?_)
    exact (keeps_prepareStreamStart.of_exec hrun).trans hsi

theorem succeeds_robotCommand {label : String} {message status : Fields} :
    Succeeds (robotCommand host correlationId label message status) s := by
  unfold robotCommand
  rw [succeeds_reading]
  split
  · exact succeeds_tryCatch_of_forall s fun _ _ => succeeds_emitError ..
  · exact succeeds_emitError ..

/-- No exception leaves the branch of a command exactly when it survives. -/
theorem succeeds_runCommand_iff (c : Command) :
    Succeeds (runCommand host payload correlationId prepared c) s ↔
      c.Survives host s payload prepared := by
  cases c with
  | isServerReady =>
    simp only [runCommand, isServerReady, succeeds_reading, Command.Survives,
      ← answers_serverReadyPayload]
    simp [Answers]
  | systemSetup => exact succeeds_systemSetup
  | initSystem => exact iff_of_true succeeds_initSystem True.intro
  | discoverSensors => exact succeeds_guarded (keeps_ask _ _)
  | discoverSensorsForSubjects =>
    exact succeeds_guarded (keeps_requestOf "subject_ids" fun ids =>
      .discoverSensorsForSubjects ids _)
  | connectToAll => exact succeeds_guarded (keeps_ask _ _)
  | connectSubjects => exact succeeds_guarded (keeps_requestOf "subject_ids" .connectSubjects)
  | disconnectAll => exact succeeds_guarded (keeps_ask _ _)
  | disconnectSubjects =>
    exact succeeds_guarded (keeps_requestOf "subject_ids" fun ids =>
      .disconnectSubjects ids payload)
  | identifySensor =>
    exact succeeds_guarded ((Keeps.fromExcept _).bind fun subjectId =>
      keeps_requestOf "location" (.identifySensor subjectId))
  | checkBattery => exact succeeds_onCore
  | startStreamForAll => exact succeeds_startStream
  | startStreamForSubjects => exact succeeds_startStream
  | startOfficialStream =>
    refine iff_of_true ?_ True.intro
    exact succeeds_tryCatch_of_forall s fun _ _ => succeeds_emitError ..
  | stopStreamForAll =>
    exact succeeds_guarded ((keeps_ask _ _).bind fun _ => keeps_afterStop host)
  | stopStreamForSubjects =>
    exact succeeds_guarded ((Keeps.fromExcept _).bind fun _ =>
      (keeps_ask _ _).bind fun _ => keeps_afterStop host)
  | updateFilePath =>
    simp only [runCommand, updateFilePath, succeeds_fromExcept_bind, item_eq_ok,
      succeeds_setFilePath, Command.Survives]
    constructor
    · rintro ⟨path, hlookup, hsi, hpath⟩
      exact ⟨hsi, path, hlookup, hpath⟩
    · rintro ⟨hsi, path, hlookup, hpath⟩
      exact ⟨path, hlookup, hsi, hpath⟩
  | usbMount =>
    simp only [runCommand, usbMount, succeeds_reading, Command.Survives]
    cases s.hooks.usbMountHandler <;> simp [usbUnsupported]
  | usbSafeUnmount =>
    simp only [runCommand, usbSafeUnmount, succeeds_reading, Command.Survives]
    cases s.hooks.usbUnmountHandler <;> simp [usbUnsupported]
  | getUsbStatus =>
    simp only [runCommand, getUsbStatus, succeeds_reading, Command.Survives]
    cases s.hooks.usbStatusProvider <;> simp [usbUnsupported, Answers]
  | getDeviceInfo =>
    simp only [runCommand, getDeviceInfo, succeeds_reading, Command.Survives,
      ← answers_deviceInfoPayload correlationId]
    simp [Answers]
  | forwardControlCenterMessage =>
    refine iff_of_true ?_ True.intro
    simp only [runCommand, forwardControlCenterMessage]
    split <;> exact succeeds_emit ..
  | robotMotion => exact iff_of_true succeeds_robotCommand True.intro
  | robotStop => exact iff_of_true succeeds_robotCommand True.intro

end Commands

/-! ## Routes -/

section Routes

variable {host : Host} {type : Json} {payload : Fields} {prepared : Bool} {s : MessageHandler}

theorem answers_sequenceStart {q : Connection.Sequence} :
    Answers (sequenceStart q) ↔ CanStart q := by
  unfold sequenceStart CanStart
  cases hbusy : q.busy with
  | true => simp
  | false =>
    by_cases hnone : q.subjects = []
    · simp [hnone]
    · cases hfind : q.subjects.find? fun subject => subject.subjectId ∉ q.completed with
      | none => simp [hnone]
      | some subject =>
        by_cases hmissing :
            subject.subjectId ∈ q.discovered ∧ q.selected.get? subject.subjectId = none
        · simp [hnone, hmissing]
        · simp only [Bool.false_eq_true, if_false, if_neg hnone, hmissing, answers_ok, false_or,
            true_iff]
          refine ⟨hnone, ?_⟩
          intro subject' heq hdiscovered hselected
          cases heq
          exact hmissing ⟨hdiscovered, hselected⟩

theorem ensureRecoveryIdle_eq_ok {core : Core} {u : Unit} :
    core.ensureRecoveryIdle = .ok u ↔ core.recoveryInProgress = false := by
  unfold Core.ensureRecoveryIdle
  cases core.recoveryInProgress <;> simp

theorem ensureDisconnectAllowed_eq_ok {core : Core} {u : Unit} :
    core.ensureDisconnectAllowed = .ok u ↔ core.streamStopFinalizationPending = false := by
  unfold Core.ensureDisconnectAllowed
  cases core.streamStopFinalizationPending <;> simp

/-- A call that only checks leaves the handler as it is. -/
theorem exec_onCore_check {core : Core} (check : Core → Except Raised Unit)
    (hsi : s.si = some core) :
    (onCore fun core => { result := check core }).exec s = (check core, s) := by
  cases s
  cases hsi
  simp [onCore, call]

theorem succeeds_startConnectionSequence :
    Succeeds (startConnectionSequence host payload) s ↔
      ∃ core, s.si = some core ∧ core.recoveryInProgress = false ∧
        core.streamStopFinalizationPending = false ∧ CanStart core.connectionSequence := by
  unfold startConnectionSequence
  constructor
  · intro h
    obtain ⟨_, s₁, hidle, h⟩ := succeeds_bind.mp h
    obtain ⟨core, hsi, -⟩ := succeeds_onCore.mp ⟨_, _, hidle⟩
    rw [exec_onCore_check _ hsi] at hidle
    obtain ⟨hnotRecovering, rfl⟩ := Prod.mk.inj hidle
    obtain ⟨_, s₂, hallowed, h⟩ := succeeds_bind.mp h
    rw [exec_onCore_check _ hsi] at hallowed
    obtain ⟨hnotPending, rfl⟩ := Prod.mk.inj hallowed
    obtain ⟨core', hsi', hstart⟩ := succeeds_onCore.mp h
    cases hsi.symm.trans hsi'
    exact ⟨core, hsi, ensureRecoveryIdle_eq_ok.mp hnotRecovering,
      ensureDisconnectAllowed_eq_ok.mp hnotPending, answers_sequenceStart.mp hstart⟩
  · rintro ⟨core, hsi, hidle, hallowed, hstart⟩
    rw [succeeds_bind_of_exec ((exec_onCore_check _ hsi).trans
        (congrArg (·, s) ((ensureRecoveryIdle_eq_ok (u := ())).mpr hidle))),
      succeeds_bind_of_exec ((exec_onCore_check _ hsi).trans
        (congrArg (·, s) ((ensureDisconnectAllowed_eq_ok (u := ())).mpr hallowed)))]
    exact succeeds_onCore.mpr ⟨core, hsi, answers_sequenceStart.mpr hstart⟩

/-- A set is asked when the flag before it is up; without a hash that raises. -/
theorem askedOf_eq (flag : Bool) (commands : List Command)
    (h : flag = true → type.hashable = true) :
    askedOf flag type commands = .ok (decide (flag = true ∧ OneOf type commands)) := by
  cases flag with
  | false => simp [askedOf]
  | true =>
    unfold askedOf memberOf OneOf
    rw [if_pos rfl, if_pos (h rfl)]
    refine congrArg Except.ok (Bool.eq_iff_iff.mpr ?_)
    rw [decide_eq_true_iff]
    cases Command.ofType type <;> simp

/-- What is done on a route. -/
def Route.run (host : Host) (type : Json) (payload : Fields) (prepared : Bool) :
    Route → Handling Unit
  | refused => emitError (Json.get payload "correlation_id")
      "Reset is required after failed configuration installation"
  | step => connectionStep host type payload (Json.get payload "correlation_id")
  | sequence => startConnectionSequence host payload
  | waits => emitError (Json.get payload "correlation_id")
      "Connect All is still in progress; wait for completion or Reset"
  | command c => runCommand host payload (Json.get payload "correlation_id") prepared c
  | unknown => unknownCommand host type

/-- The guards send a command along its route. -/
theorem succeeds_handleFields_of_hashable (h : s.LooksUp payload → type.hashable = true) :
    Succeeds (handleFields host type payload prepared) s ↔
      Succeeds ((s.route type payload).run host type payload prepared) s := by
  unfold handleFields MessageHandler.route
  rw [succeeds_reading, askedOf_eq _ _ fun hflag => h (.inl hflag),
    askedOf_eq _ _ fun hflag => h (.inr (.inl hflag)),
    askedOf_eq _ _ fun hflag => h (.inr (.inr hflag))]
  rw [succeeds_fromExcept_ok_bind]
  by_cases hrefused : s.requiresRecovery = true ∧ OneOf type resetFirst
  · rw [decide_eq_true hrefused, if_pos hrefused]
    rfl
  rw [decide_eq_false hrefused, if_neg hrefused, if_neg Bool.false_ne_true,
    succeeds_fromExcept_ok_bind]
  by_cases hstep :
      (Json.get payload "connection_sequence_id").truthy = true ∧ OneOf type stepCommands
  · rw [decide_eq_true hstep, if_pos hstep]
    rfl
  rw [decide_eq_false hstep, if_neg hstep, if_neg Bool.false_ne_true]
  by_cases hsequence : Command.ofType type = some .connectToAll ∧ s.severalSubjects
  · rw [if_pos hsequence, if_pos hsequence]
    rfl
  rw [if_neg hsequence, if_neg hsequence, succeeds_fromExcept_ok_bind]
  by_cases hwaits : s.busy = true ∧ OneOf type sequenceFirst
  · rw [decide_eq_true hwaits, if_pos hwaits]
    rfl
  rw [decide_eq_false hwaits, if_neg hwaits, if_neg Bool.false_ne_true]
  cases Command.ofType type <;> rfl

/-- A guard that looks up a type without a hash raises. -/
theorem not_succeeds_handleFields (hlooks : s.LooksUp payload) (hhash : type.hashable = false) :
    ¬ Succeeds (handleFields host type payload prepared) s := by
  have hnone : Command.ofType type = none := Command.ofType_eq_none hhash
  have hraises : ∀ commands : List Command, ¬ Answers (askedOf true type commands) := by
    intro commands
    simp [askedOf, memberOf, hhash]
  unfold handleFields
  rw [succeeds_reading]
  intro h
  obtain ⟨refused, hrefused, h⟩ := succeeds_fromExcept_bind.mp h
  cases hrecovery : s.requiresRecovery with
  | true => exact hraises _ ⟨refused, hrecovery ▸ hrefused⟩
  | false =>
    rw [hrecovery] at hrefused
    cases hrefused
    obtain ⟨step, hstep, h⟩ := succeeds_fromExcept_bind.mp h
    cases hid : (Json.get payload "connection_sequence_id").truthy with
    | true => exact hraises _ ⟨step, hid ▸ hstep⟩
    | false =>
      rw [hid] at hstep
      cases hstep
      rw [if_neg Bool.false_ne_true, hnone, if_neg (by simp)] at h
      obtain ⟨waits, hwaits, -⟩ := succeeds_fromExcept_bind.mp h
      have hbusy : s.busy = true := by
        simpa [MessageHandler.LooksUp, hrecovery, hid] using hlooks
      exact hraises _ ⟨waits, hbusy ▸ hwaits⟩

theorem succeeds_connectionStep {correlationId : Json} :
    Succeeds (connectionStep host type payload correlationId) s ↔
      NamesSubject payload ∨ ∃ core, s.si = some core ∧
        Answers (host.request (.executeConnectionStep type payload) core).result := by
  have hask : Succeeds (ask host (.executeConnectionStep type payload)) s ↔ ∃ core,
      s.si = some core ∧ Answers (host.request (.executeConnectionStep type payload) core).result :=
    succeeds_onCore
  unfold connectionStep
  rw [succeeds_tryCatch, ← hask]
  by_cases hdone : Succeeds (ask host (.executeConnectionStep type payload)) s
  · exact iff_of_true (.inl hdone) (.inr hdone)
  · obtain ⟨exc, s', hrun⟩ := not_succeeds_iff.mp hdone
    rw [← answers_subjectOf]
    constructor
    · rintro (hdone' | ⟨exc', s'', -, h⟩)
      · exact absurd hdone' hdone
      · obtain ⟨subjectId, hsubject, -⟩ := succeeds_fromExcept_bind.mp h
        exact .inl ⟨subjectId, hsubject⟩
    · rintro (⟨subjectId, hsubject⟩ | hdone')
      · exact .inr ⟨exc, s', hrun,
          succeeds_fromExcept_bind.mpr ⟨subjectId, hsubject, succeeds_emit ..⟩⟩
      · exact absurd hdone' hdone

/-- No exception leaves a route exactly when it survives. -/
theorem succeeds_run_iff (r : Route) :
    Succeeds (r.run host type payload prepared) s ↔ r.Survives host s type payload prepared := by
  cases r with
  | refused => exact iff_of_true (succeeds_emitError ..) True.intro
  | step => exact succeeds_connectionStep
  | sequence => exact succeeds_startConnectionSequence
  | waits => exact iff_of_true (succeeds_emitError ..) True.intro
  | command c => exact succeeds_runCommand_iff c
  | unknown => exact iff_of_true (succeeds_emit ..) True.intro

end Routes

/-- The payload is a dictionary, the type has a hash where it is looked up, and the route the
guards choose survives. -/
def MessageHandler.Takes (s : MessageHandler) (host : Host) (type payload : Json)
    (prepared : Bool) : Prop :=
  ∃ fields, payload = .obj fields ∧ (s.LooksUp fields → type.hashable = true) ∧
    (s.route type fields).Survives host s type fields prepared

/-- No exception leaves `_handle_local` exactly when the handler takes the command. -/
theorem succeeds_handleLocal_iff {host : Host} {s : MessageHandler} {type payload : Json}
    {prepared : Bool} :
    Succeeds (handleLocal host type payload prepared) s ↔ s.Takes host type payload prepared := by
  unfold handleLocal MessageHandler.Takes
  rw [succeeds_fromExcept_bind]
  refine exists_congr fun fields => and_congr fieldsOf_eq_ok ?_
  by_cases hhash : s.LooksUp fields → type.hashable = true
  · rw [succeeds_handleFields_of_hashable hhash, succeeds_run_iff]
    exact (and_iff_right hhash).symm
  · obtain ⟨hlooks, hunhashable⟩ := Classical.not_imp.mp hhash
    refine iff_of_false (not_succeeds_handleFields hlooks ?_) fun h => hhash h.1
    simpa using hunhashable

end NexusN3.Messaging
