import NexusN3.Messaging.Messages

/-!
# The message handler

`MessageHandler.handle` with everything a frame can reach in it: `_handle_local` tests four
guards in order (recovery, connection step, Connect All, busy) and then goes by the command. An
exception keeps what was done before it. An event is copied and queued by the bus, whose
subscribers run on its own thread.

* **`handleLocal`** — the guards and the commands.
* **`handle`** — the entry, which hands over to the dispatcher when one is set.
-/

namespace NexusN3.Messaging

open Lib Lib.Program

/-! ## Reads that raise -/

/-- `value.get(..)` of something that must be a dictionary. -/
def fieldsOf : Json → Except Raised Fields
  | .obj fields => .ok fields
  | _ => .error ⟨"AttributeError", "object has no attribute 'get'"⟩

/-- `payload[key]`. -/
def item (payload : Fields) (key : String) : Except Raised Json :=
  match payload.lookup key with
  | some v => .ok v
  | none => .error ⟨"KeyError", key⟩

/-- `list(fields.get(key, []) or [])`. -/
def listOf (fields : Fields) (key : String) : Except Raised (List Json) :=
  let value := Json.getD fields key (.arr [])
  if value.truthy then
    match value.iter with
    | some items => .ok items
    | none => .error ⟨"TypeError", "object is not iterable"⟩
  else .ok []

/-- `msg_type in {..}`. -/
def memberOf (type : Json) (commands : List Command) : Except Raised Bool :=
  if type.hashable then
    .ok (match Command.ofType type with
      | some c => decide (c ∈ commands)
      | none => false)
  else .error ⟨"TypeError", "unhashable type"⟩

/-- `payload.get("subject_id") or (payload.get("subject_ids") or [None])[0]`. -/
def subjectOf (payload : Fields) : Except Raised Json :=
  let subjectId := Json.get payload "subject_id"
  let subjectIds := Json.get payload "subject_ids"
  if subjectId.truthy then .ok subjectId
  else if subjectIds.truthy then
    match subjectIds.first with
    | some v => .ok v
    | none => .error ⟨"TypeError", "object is not subscriptable"⟩
  else .ok .null

/-! ## Events and calls -/

def emit (e : Event) : Handling Unit := of fun s => (.ok (), { s with emitted := s.emitted ++ [e] })

/-- A payload with the correlation id, where there is one. -/
def correlated (correlationId : Json) (payload : Fields) : Fields :=
  if correlationId.truthy then Json.setField "correlation_id" correlationId payload else payload

/-- `emit_error`. -/
def emitError (correlationId : Json) (message : String) : Handling Unit :=
  emit { type := evtError, payload := .obj (correlated correlationId [("message", .str message)]) }

/-- A call that does not go through `Core`. -/
def call {α : Type} (c : Call α) : Handling α := of fun s =>
  (c.result, { s with si := s.si.map c.core, emitted := s.emitted ++ c.events })

/-- A call of a method of `self.si`. -/
def onCore {α : Type} (c : Core → Call α) : Handling α := of fun s =>
  match s.si with
  | some core => (call (c core)).exec s
  | none => (.error ⟨"AttributeError", "'NoneType' object has no attribute"⟩, s)

def ask (host : Host) (r : Request) : Handling Unit := onCore (host.request r)

/-- `self.si.pending_correlation_id = value`. -/
def setPending (value : Json) : Handling Unit :=
  onCore fun _ =>
    { result := .ok (), core := fun core => { core with pendingCorrelationId := value } }

/-- The `finally` of `CMD_INIT_SYSTEM`. -/
def clearPending : Handling Unit :=
  call { result := .ok (), core := fun core => { core with pendingCorrelationId := .null } }

/-- `Core.set_file_path`: `Path` takes a text, and the directories are made. -/
def setFilePath (host : Host) (path : Json) : Handling Unit :=
  let setBasePath (root : String) : Call Unit :=
    { result := host.mkdir root, core := fun core => { core with baseRoot := root } }
  onCore fun _ =>
    if path.truthy then
      match path with
      | .str root => setBasePath root
      | _ => { result := .error ⟨"TypeError", "argument should be a str or an os.PathLike object"⟩ }
    else setBasePath "nexus_n3_outputs"

/-! ## Connect All -/

/-- `_ensure_recovery_idle`. -/
def Core.ensureRecoveryIdle (core : Core) : Except Raised Unit :=
  if core.recoveryInProgress then
    .error ⟨"RuntimeError", "Core recovery is still in progress; wait for Reset completion"⟩
  else .ok ()

/-- `_ensure_disconnect_allowed`. -/
def Core.ensureDisconnectAllowed (core : Core) : Except Raised Unit :=
  if core.streamStopFinalizationPending then
    .error ⟨"RuntimeError",
      "Cannot disconnect sensors while stream finalization is still in progress"⟩
  else .ok ()

/-- The exception of `connection_sequence.start`; the state it leaves is `Sequence.start`. -/
def sequenceStart (s : Connection.Sequence) : Except Raised Unit :=
  if s.busy then .ok ()
  else if s.subjects = [] then .error ⟨"ValueError", "No configured subjects for Connect All"⟩
  else
    match s.subjects.find? fun subject => subject.subjectId ∉ s.completed with
    | some subject =>
      -- connecting reads the selected addresses
      if subject.subjectId ∈ s.discovered ∧ s.selected.get? subject.subjectId = none then
        .error ⟨"KeyError", subject.subjectId⟩
      else .ok ()
    | none => .ok ()

/-- `Core.start_connection_sequence`. -/
def startConnectionSequence (host : Host) (payload : Fields) : Handling Unit := do
  onCore fun core => { result := core.ensureRecoveryIdle }
  onCore fun core => { result := core.ensureDisconnectAllowed }
  onCore fun core =>
    { result := sequenceStart core.connectionSequence
      core := fun core => { core with
        connectionSequence :=
          core.connectionSequence.start host.sequence (Json.get payload "correlation_id") } }

/-! ## Snapshots -/

structure Capabilities where
  supportedSensors : List SupportedSensor
  supportedAlgorithms : List Json
  supportedGateways : List String
  supportedBridges : List String
  bleRuntime : Json
  robot : Json

def SupportedSensor.toJson (sensor : SupportedSensor) : Json :=
  .obj [("name", sensor.name), ("locations", .arr sensor.locations),
    ("computations", .arr sensor.computations)]

def texts (l : List String) : Json := .arr (l.map .str)

def Capabilities.toJson (c : Capabilities) : Json :=
  .obj [("supported_sensors", .arr (c.supportedSensors.map SupportedSensor.toJson)),
    ("supported_algorithms", .arr c.supportedAlgorithms),
    ("supported_gateways", texts c.supportedGateways),
    ("supported_bridges", texts c.supportedBridges),
    ("ble_runtime", c.bleRuntime),
    ("robot", c.robot)]

/-- `_robot_service.status()`, or what stands for it. -/
def robotStatus (host : Host) (s : MessageHandler) : Except Raised Json :=
  if s.hooks.robotService then host.robotStatus
  else .ok (.obj [("supported", .bool false), ("running", .bool false), ("robot_id", .null)])

/-- `_capabilities_payload`. -/
def capabilitiesPayload (host : Host) (s : MessageHandler) : Except Raised Capabilities := do
  let robot ← robotStatus host s
  if s.si.isSome then
    let supportedSensors ← host.supportedSensors
    let supportedAlgorithms ← host.supportedAlgorithms
    let supportedGateways ← host.supportedGateways
    let supportedBridges ← host.supportedBridges
    return ⟨supportedSensors, supportedAlgorithms, supportedGateways, supportedBridges,
      s.bleRuntimeConfig, robot⟩
  else return ⟨[], [], [], [], s.bleRuntimeConfig, robot⟩

/-- The answer of `_device_info_provider`, `or {}`. -/
def runtimeOf (host : Host) (s : MessageHandler) (time : Nat) : Except Raised Json := do
  if s.hooks.deviceInfoProvider then
    let runtime ← host.deviceInfoProvider time
    return runtime.orElse (.obj [])
  else return .obj []

/-- `_plugin_inventory_payload`. -/
def pluginInventoryPayload (host : Host) (s : MessageHandler) (capabilities : Capabilities) :
    Except Raised Json := do
  let runtime ← runtimeOf host s 1
  let runtime ← fieldsOf runtime
  let apps ← listOf runtime "neia_apps"
  let workflows ← listOf runtime "neia_workflows"
  return .obj [
    ("snapshot_id", .str (s.site ++ "-" ++ host.snapshotAt)),
    ("synced_at", .str host.snapshotAt),
    ("sensors", .arr (capabilities.supportedSensors.map SupportedSensor.toJson)),
    ("algorithms", .arr (capabilities.supportedAlgorithms.map fun name => .obj [("name", name)])),
    ("apps", .arr apps),
    ("workflows", .arr workflows),
    ("summary", .obj [
      ("sensors", .num capabilities.supportedSensors.length),
      ("algorithms", .num capabilities.supportedAlgorithms.length),
      ("apps", .num apps.length),
      ("workflows", .num workflows.length)])]

/-- `runtime.get("software_version") or f"nexus-n3-core {self._release_version()}"`. -/
def softwareVersion (host : Host) (runtime : Fields) : Except Raised Json :=
  let version := Json.get runtime "software_version"
  if version.truthy then .ok version
  else host.coreVersion.map fun version => .str ("nexus-n3-core " ++ version)

def noUsbDisk : Json := .obj [("present", .bool false), ("path", .null)]

/-- `_device_info_payload`. -/
def deviceInfoPayload (host : Host) (s : MessageHandler) (correlationId : Json) :
    Except Raised Json := do
  let runtime ← runtimeOf host s 0
  let capabilities ← capabilitiesPayload host s
  let pluginInventory ← pluginInventoryPayload host s capabilities
  let runtime ← fieldsOf runtime
  let activeBridge := (Json.get runtime "active_bridge").orElse (.bool false)
  let status :=
    (Json.get runtime "status").orElse (.str (if s.isReady then "online" else "offline"))
  let usbDisk := (Json.get runtime "usb_disk").orElse noUsbDisk
  let softwareVersion ← softwareVersion host runtime
  let disk ← fieldsOf usbDisk
  return .obj (correlated correlationId [
    ("site", .str s.site),
    ("snapshot_at", .str host.snapshotAt),
    ("device", .obj [
      ("display_name", (Json.get runtime "display_name").orElse (.str s.site)),
      ("site", .str s.site),
      ("role", Json.get runtime "role"),
      ("status", status),
      ("gateway_name", Json.get runtime "gateway_name"),
      ("active_bridge", activeBridge),
      ("iot_hub_device_id", Json.get runtime "iot_hub_device_id"),
      ("serial_number", Json.get runtime "serial_number"),
      ("device_type", Json.get runtime "device_type"),
      ("software_version", softwareVersion)]),
    ("admin_summary", .obj [
      ("server_status", Json.getD runtime "server_status" (.str "unknown")),
      ("uptime_seconds", Json.get runtime "uptime_seconds"),
      ("uptime", Json.getD runtime "uptime" (.str "unknown")),
      ("remote_bridge", activeBridge),
      ("remote_control_enabled",
        .bool (Json.getD runtime "remote_control_enabled" (.bool false)).truthy),
      ("usb_storage_mounted", .bool (Json.get disk "present").truthy),
      ("usb_disk", usbDisk),
      ("last_heartbeat_at", Json.get runtime "last_heartbeat_at")]),
    ("ble", .obj [
      ("backend", Json.get runtime "ble_backend"),
      ("backend_label", Json.get runtime "ble_backend_label")]),
    ("capabilities", capabilities.toJson),
    ("plugin_inventory", pluginInventory),
    ("robot", capabilities.robot)])

/-- The payload of `EVT_SERVER_READY`. -/
def serverReadyPayload (host : Host) (s : MessageHandler) : Except Raised Fields := do
  if s.isReady then
    let runtime ← runtimeOf host s 0
    let capabilities ← capabilitiesPayload host s
    let runtime ← fieldsOf runtime
    return [
      ("msg", .str "System Server Ready"),
      ("site", .str s.site),
      ("role", Json.get runtime "role"),
      ("device_type", Json.get runtime "device_type"),
      ("ble", .obj [
        ("backend", Json.get runtime "ble_backend"),
        ("backend_label", Json.get runtime "ble_backend_label")]),
      ("supported_sensors", .arr (capabilities.supportedSensors.map SupportedSensor.toJson)),
      ("supported_algorithms", .arr capabilities.supportedAlgorithms),
      ("supported_gateways", texts capabilities.supportedGateways),
      ("supported_bridges", texts capabilities.supportedBridges),
      ("archive_service", .obj s.archiveService)]
  else
    return [
      ("msg", .str "System Server NOT Ready"),
      ("archive_service", .obj s.archiveService)]

/-! ## The commands -/

/-- The shape of most commands: note the correlation id, ask `Core`, and tell of an exception. -/
def guarded (correlationId : Json) (label : String) (body : Handling Unit) : Handling Unit := do
  setPending correlationId
  tryCatch body fun exc => do
    setPending .null
    emitError correlationId (label ++ " failed: " ++ exc.text)

section Commands

variable (host : Host) (payload : Fields) (correlationId : Json)

/-- `CMD_IS_SERVER_READY`. -/
def isServerReady : Handling Unit := reading fun s => do
  let response ← fromExcept (serverReadyPayload host s)
  emit { type := evtServerReady, payload := .obj (correlated correlationId response) }

/-- `CMD_GET_DEVICE_INFO`. -/
def getDeviceInfo : Handling Unit := reading fun s => do
  let response ← fromExcept (deviceInfoPayload host s correlationId)
  emit { type := evtDeviceInfo, payload := response }

/-- `CMD_FORWARD_CONTROL_CENTER_MESSAGE`. -/
def forwardControlCenterMessage : Handling Unit :=
  match Json.get payload "message" with
  | .obj message => emit { type := evtControlCenterMessage, payload := .obj message }
  | _ => emit
    { type := evtError
      payload := .str "Control Center forward failed: invalid message payload" }

/-- `CMD_SYSTEM_SETUP`: no `try`. The new `Core` stays in place when something behind its
assignment raises. -/
def systemSetup : Handling Unit := do
  fromExcept host.newCore
  of fun s => (.ok (), { s with si := some { registry := s.registry } })
  setFilePath host (Json.get payload "file_path")
  fromExcept host.pluginInventory
  of fun s => (.ok (), { s with isReady := true })

/-- What an exception without a `configuration` is taken to leave. -/
def unknownConfiguration : Configuration :=
  { configurationState := "unknown"
    recoveryRequired := true
    others := [("configured_subject_ids", .null)] }

def Configuration.toFields (c : Configuration) : Fields :=
  [("configuration_state", .str c.configurationState),
    ("recovery_required", .bool c.recoveryRequired)] ++ c.others

/-- The calls inside the `try` of `CMD_INIT_SYSTEM`. -/
def tryInit : Handling (Except InitializationFailure Fields) := do
  let subjects ← fromExcept (item payload "subjects")
  setPending correlationId
  onCore (host.initCore
    { subjects
      initLabel := Json.get payload "init_label"
      appId := Json.get payload "app_id"
      appName := Json.get payload "app_name" })

/-- The event of an initialization that failed. -/
def initFailed (nodeId : String) (initializationId : Json) (failure : InitializationFailure) :
    Event :=
  let recoveryHint :=
    if failure.configuration.recoveryRequired then " Reset is required before retrying."
    else " Previous configuration was retained."
  { type := if initializationId.truthy then evtNodeInitializationFailed else evtError
    nodeId := some nodeId
    payload := .obj (Json.update
      [("message", .str ("System init failed: " ++ failure.message ++ "." ++ recoveryHint)),
        ("correlation_id", correlationId),
        ("initialization_id", initializationId),
        ("initialization_complete", .bool false)]
      failure.configuration.toFields) }

/-- The event of an initialization that is done. -/
def initDone (nodeId : String) (initializationId : Json) (result : Fields) : Event :=
  { type := if initializationId.truthy then evtNodeInitialized else evtSystemInitialized
    nodeId := some nodeId
    payload := .obj (Json.update result
      [("correlation_id", correlationId),
        ("initialization_id", initializationId),
        ("initialization_complete", .bool !initializationId.truthy)]) }

/-- `CMD_INIT_SYSTEM`. -/
def initSystem : Handling Unit := reading fun s => do
  let correlationId := correlationId.orElse (.str host.uuid)
  let initializationId := Json.get payload "initialization_id"
  let outcome ← tryCatch (tryInit host payload correlationId) fun exc =>
    pure (.error { message := exc.text, configuration := unknownConfiguration })
  emit (match outcome with
    | .ok result => initDone correlationId s.nodeId initializationId result
    | .error failure => initFailed correlationId s.nodeId initializationId failure)
  clearPending

/-- `CMD_UPDATE_FILE_PATH`. -/
def updateFilePath : Handling Unit := do
  let filePath ← fromExcept (item payload "file_path")
  setFilePath host filePath

/-- A USB command on a node without the handler for it. -/
def usbUnsupported (action error : String) : Handling Unit :=
  emit
    { type := evtUsbStatus
      payload := .obj [("ok", .bool false), ("action", .str action), ("present", .bool false),
        ("path", .null), ("error", .str error)] }

/-- `CMD_USB_MOUNT`. -/
def usbMount : Handling Unit := reading fun s =>
  if s.hooks.usbMountHandler then call host.usbMountHandler
  else usbUnsupported "mount" "USB mount unsupported on this node"

/-- `CMD_USB_SAFE_UNMOUNT`. -/
def usbSafeUnmount : Handling Unit := reading fun s =>
  if s.hooks.usbUnmountHandler then call host.usbUnmountHandler
  else usbUnsupported "unmount" "USB unmount unsupported on this node"

/-- `CMD_GET_USB_STATUS`. -/
def getUsbStatus : Handling Unit := reading fun s =>
  if s.hooks.usbStatusProvider then do
    let status ← fromExcept host.usbStatusProvider
    emit { type := evtUsbStatus, payload := status }
  else usbUnsupported "status" "USB status unavailable on this node"

/-- `CMD_DISCOVER_SENSORS`. -/
def discoverSensors : Handling Unit :=
  guarded correlationId "Discover sensors" (ask host .discoverSensors)

/-- `CMD_DISCOVER_SENSORS_FOR_SUBJECTS`. -/
def discoverSensorsForSubjects : Handling Unit :=
  guarded correlationId "Discover sensors for subjects" do
    let subjectIds ← fromExcept (item payload "subject_ids")
    ask host (.discoverSensorsForSubjects subjectIds
      (Json.getD payload "excluded_addresses" (.arr [])))

/-- `CMD_CONNECT_TO_ALL`, without a connection sequence. -/
def connectToAll : Handling Unit := guarded correlationId "Connect all" (ask host .connectAll)

/-- `CMD_CONNECT_SUBJECTS`. -/
def connectSubjects : Handling Unit :=
  guarded correlationId "Connect subjects" do
    let subjectIds ← fromExcept (item payload "subject_ids")
    ask host (.connectSubjects subjectIds)

/-- `CMD_DISCONNECT_SUBJECTS`. -/
def disconnectSubjects : Handling Unit :=
  guarded correlationId "Disconnect subjects" do
    let subjectIds ← fromExcept (item payload "subject_ids")
    ask host (.disconnectSubjects subjectIds payload)

/-- `CMD_DISCONNECT_ALL`. -/
def disconnectAll : Handling Unit :=
  guarded correlationId "Disconnect all" (ask host (.disconnectAll payload))

/-- `prepare_stream_start`, unless the caller has run it. -/
def prepareStreamStart (prepared : Bool) : Handling Unit := reading fun s =>
  if !prepared && s.hooks.beforeStreamStart then call host.beforeStreamStart else pure ()

/-- `CMD_START_STREAM_FOR_SUBJECTS`. -/
def startStreamForSubjects (prepared : Bool) : Handling Unit := do
  prepareStreamStart host prepared
  guarded correlationId "Start stream for subjects" (ask host (.startStreamForSubjects payload))

/-- `CMD_START_STREAM_FOR_ALL`. -/
def startStreamForAll (prepared : Bool) : Handling Unit := do
  prepareStreamStart host prepared
  guarded correlationId "Start stream for all" (ask host (.startStream payload))

/-- `CMD_START_OFFICIAL_STREAM`: everything is inside the `try`. -/
def startOfficialStream : Handling Unit :=
  tryCatch (ask host (.startOfficialStream payload)) fun exc =>
    emitError correlationId ("Official stream start failed: " ++ exc.text)

/-- Run the hook behind the last stop. -/
def afterStop : Handling Unit := reading fun s =>
  if s.hooks.afterStreamStop then do
    let active ← onCore host.hasActiveStreams
    if active then pure () else call host.afterStreamStop
  else pure ()

/-- `CMD_STOP_STREAM_FOR_SUBJECTS`. -/
def stopStreamForSubjects : Handling Unit :=
  guarded correlationId "Stop stream for subjects" do
    let subjectIds ← fromExcept (item payload "subject_ids")
    ask host (.stopStreamForSubjects subjectIds payload)
    afterStop host

/-- `CMD_STOP_STREAM_FOR_ALL`. -/
def stopStreamForAll : Handling Unit :=
  guarded correlationId "Stop stream for all" do
    ask host (.stopStream payload)
    afterStop host

/-- `CMD_IDENTIFY_SENSOR`. -/
def identifySensor : Handling Unit :=
  guarded correlationId "Identify sensor" do
    let subjectId ← fromExcept (item payload "subject_id")
    let location ← fromExcept (item payload "location")
    ask host (.identifySensor subjectId location)

/-- `CMD_CHECK_BATTERY`: no `try`. -/
def checkBattery : Handling Unit :=
  ask host (.checkBattery (Json.getD payload "scan_timeout" (.num 5))
    (Json.getD payload "read_timeout" (.num 10)))

/-- The shape of the two robot commands. -/
def robotCommand (label : String) (message status : Fields) : Handling Unit := reading fun s =>
  if s.hooks.robotService then
    tryCatch (do
      call (host.robotOnMessage message)
      emit { type := evtRobotStatus, payload := .obj status }) fun exc =>
        emitError correlationId (label ++ " failed: " ++ exc.text)
  else emitError correlationId (label ++ " failed: no robot service available on this node")

/-- `CMD_ROBOT_MOTION`. -/
def robotMotion : Handling Unit :=
  robotCommand host correlationId "Robot motion command"
    [("type", .str "cmd_motion"),
      ("action", Json.get payload "action"),
      ("speed", Json.getD payload "speed" (.num 0)),
      ("robot_id", Json.get payload "robot_id"),
      ("source", Json.getD payload "source" (.str "gateway"))]
    [("ok", .bool true),
      ("command", .str Command.robotMotion.text),
      ("action", Json.get payload "action"),
      ("robot_id", Json.get payload "robot_id"),
      ("correlation_id", correlationId)]

/-- `CMD_ROBOT_STOP`. -/
def robotStop : Handling Unit :=
  robotCommand host correlationId "Robot stop command"
    [("type", .str "cmd_stop"),
      ("robot_id", Json.get payload "robot_id"),
      ("source", Json.getD payload "source" (.str "gateway"))]
    [("ok", .bool true),
      ("command", .str Command.robotStop.text),
      ("robot_id", Json.get payload "robot_id"),
      ("correlation_id", correlationId)]

/-- The chain of `elif` over the command types. -/
def runCommand (prepared : Bool) : Command → Handling Unit
  | .isServerReady => isServerReady host correlationId
  | .systemSetup => systemSetup host payload
  | .initSystem => initSystem host payload correlationId
  | .discoverSensors => discoverSensors host correlationId
  | .discoverSensorsForSubjects => discoverSensorsForSubjects host payload correlationId
  | .connectToAll => connectToAll host correlationId
  | .connectSubjects => connectSubjects host payload correlationId
  | .disconnectAll => disconnectAll host payload correlationId
  | .disconnectSubjects => disconnectSubjects host payload correlationId
  | .identifySensor => identifySensor host payload correlationId
  | .checkBattery => checkBattery host payload
  | .startStreamForAll => startStreamForAll host payload correlationId prepared
  | .startStreamForSubjects => startStreamForSubjects host payload correlationId prepared
  | .startOfficialStream => startOfficialStream host payload correlationId
  | .stopStreamForAll => stopStreamForAll host payload correlationId
  | .stopStreamForSubjects => stopStreamForSubjects host payload correlationId
  | .updateFilePath => updateFilePath host payload
  | .usbMount => usbMount host
  | .usbSafeUnmount => usbSafeUnmount host
  | .getUsbStatus => getUsbStatus host
  | .getDeviceInfo => getDeviceInfo host correlationId
  | .forwardControlCenterMessage => forwardControlCenterMessage payload
  | .robotMotion => robotMotion host payload correlationId
  | .robotStop => robotStop host payload correlationId

end Commands

/-! ## The guards -/

/-- Refused after a failed configuration installation. -/
def resetFirst : List Command :=
  [.discoverSensors, .discoverSensorsForSubjects, .connectToAll, .connectSubjects,
    .startStreamForAll, .startStreamForSubjects]

/-- Handled as a step of a connection sequence. -/
def stepCommands : List Command :=
  [.discoverSensorsForSubjects, .connectSubjects, .identifySensor]

/-- Refused while a connection sequence is busy. -/
def sequenceFirst : List Command :=
  [.discoverSensors, .discoverSensorsForSubjects, .connectToAll, .connectSubjects,
    .identifySensor, .initSystem]

namespace MessageHandler

def requiresRecovery (s : MessageHandler) : Bool :=
  match s.si with
  | some core => core.initializationRequiresRecovery
  | none => false

def busy (s : MessageHandler) : Bool :=
  match s.si with
  | some core => core.connectionSequence.busy
  | none => false

def severalSubjects (s : MessageHandler) : Bool :=
  match s.si with
  | some core => decide (1 < core.subjects.length)
  | none => false

end MessageHandler

/-- A connection step that raises is told as an error of its subject. -/
def connectionStep (host : Host) (type : Json) (payload : Fields) (correlationId : Json) :
    Handling Unit :=
  tryCatch (ask host (.executeConnectionStep type payload)) fun exc => reading fun s => do
    let identifying := type.isText Command.identifySensor.text
    let subjectId ← fromExcept (subjectOf payload)
    emit
      { type := evtError
        payload := .obj (Json.update payload
          [("node_id", .str s.nodeId),
            ("correlation_id", Json.getD payload "sequence_correlation_id" correlationId),
            ("subject_id", subjectId),
            ("operation", if identifying then .str "identify" else type),
            ("severity", .str (if identifying then "warning" else "error")),
            ("message", .str exc.text)]) }

/-- The last branch of the chain. -/
def unknownCommand (host : Host) (type : Json) : Handling Unit :=
  emit
    { type := evtError
      payload := .obj [("msg", .str ("Unknown command " ++ host.render type))] }

/-- A set is asked only behind the flag before it. -/
def askedOf (flag : Bool) (type : Json) (commands : List Command) : Except Raised Bool :=
  if flag then memberOf type commands else .ok false

/-- `_handle_local`, from the guards on. -/
def handleFields (host : Host) (type : Json) (payload : Fields) (prepared : Bool) :
    Handling Unit := reading fun s => do
  let correlationId := Json.get payload "correlation_id"
  let refused ← fromExcept (askedOf s.requiresRecovery type resetFirst)
  if refused then
    emitError correlationId "Reset is required after failed configuration installation"
  else do
    let step ← fromExcept
      (askedOf (Json.get payload "connection_sequence_id").truthy type stepCommands)
    if step then connectionStep host type payload correlationId
    else if Command.ofType type = some .connectToAll ∧ s.severalSubjects then
      startConnectionSequence host payload
    else do
      let waits ← fromExcept (askedOf s.busy type sequenceFirst)
      if waits then
        emitError correlationId "Connect All is still in progress; wait for completion or Reset"
      else
        match Command.ofType type with
        | some c => runCommand host payload correlationId prepared c
        | none => unknownCommand host type

/-- `_handle_local`. -/
def handleLocal (host : Host) (type payload : Json) (prepared : Bool) : Handling Unit := do
  let payload ← fromExcept (fieldsOf payload)
  handleFields host type payload prepared

/-- `handle`. -/
def handle (host : Host) (msg : Json) : Handling Unit := do
  let msg ← fromExcept (fieldsOf msg)
  reading fun s =>
    if s.hooks.dispatcher then
      of fun s => ((host.dispatcher msg).1, (host.dispatcher msg).2 s)
    else handleLocal host (Json.get msg "type") (Json.getD msg "payload" (.obj [])) false

end NexusN3.Messaging
