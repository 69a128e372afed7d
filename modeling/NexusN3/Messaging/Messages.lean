import NexusN3.Connection.Sequence
import NexusN3.Lib.Success

/-!
# Commands, events and the state of the message handler

The constants of `message_types`, the fields of `MessageHandler` and of `Core` that handling a
command reads or writes, and what is outside the handler while one frame is handled.

* **`Command`** — the command types, with `Command.ofType` for `msg_type == CMD_..`.
* **`MessageHandler`** — the handler, with the events it has put on the bus.
* **`Host`** — how the calls end that leave the handler. Nothing is assumed of them.
-/

namespace NexusN3.Messaging

open Lib

/-- A dictionary. -/
abbrev Fields := List (String × Json)

/-! ## Message types -/

inductive Command where
  | isServerReady
  | systemSetup
  | initSystem
  | discoverSensors
  | discoverSensorsForSubjects
  | connectToAll
  | connectSubjects
  | disconnectAll
  | disconnectSubjects
  | identifySensor
  | checkBattery
  | startStreamForAll
  | startStreamForSubjects
  | startOfficialStream
  | stopStreamForAll
  | stopStreamForSubjects
  | updateFilePath
  | usbMount
  | usbSafeUnmount
  | getUsbStatus
  | getDeviceInfo
  | forwardControlCenterMessage
  | robotMotion
  | robotStop
  deriving DecidableEq

namespace Command

def text : Command → String
  | isServerReady => "is_server_ready"
  | systemSetup => "system_setup"
  | initSystem => "init_system"
  | discoverSensors => "discover_sensors"
  | discoverSensorsForSubjects => "discover_sensors_for_subjects"
  | connectToAll => "connect_all"
  | connectSubjects => "connect_subjects"
  | disconnectAll => "disconnect_all"
  | disconnectSubjects => "disconnect_subjects"
  | identifySensor => "identify_sensor"
  | checkBattery => "check_battery"
  | startStreamForAll => "start_stream_for_all"
  | startStreamForSubjects => "start_stream_for_subjects"
  | startOfficialStream => "start_official_stream"
  | stopStreamForAll => "stop_stream_for_all"
  | stopStreamForSubjects => "stop_stream_for_subjects"
  | updateFilePath => "update_file_path"
  | usbMount => "usb_mount"
  | usbSafeUnmount => "usb_safe_unmount"
  | getUsbStatus => "get_usb_status"
  | getDeviceInfo => "get_device_info"
  | forwardControlCenterMessage => "forward_control_center_message"
  | robotMotion => "robot_motion"
  | robotStop => "robot_stop"

def all : List Command :=
  [isServerReady, systemSetup, initSystem, discoverSensors, discoverSensorsForSubjects,
    connectToAll, connectSubjects, disconnectAll, disconnectSubjects, identifySensor,
    checkBattery, startStreamForAll, startStreamForSubjects, startOfficialStream,
    stopStreamForAll, stopStreamForSubjects, updateFilePath, usbMount, usbSafeUnmount,
    getUsbStatus, getDeviceInfo, forwardControlCenterMessage, robotMotion, robotStop]

/-- The command whose constant `msg_type` equals. -/
def ofType (type : Json) : Option Command := all.find? fun c => type.isText c.text

theorem eq_of_ofType {type : Json} {c : Command} (h : ofType type = some c) :
    type = .str c.text := by
  unfold ofType at h
  have hfound := List.find?_some h
  exact Json.isText_iff.mp hfound

@[simp] theorem ofType_text (c : Command) : ofType (.str c.text) = some c := by
  cases c <;> decide

/-- A type without a hash is no command. -/
theorem ofType_eq_none {type : Json} (h : type.hashable = false) : ofType type = none := by
  cases hof : ofType type with
  | none => rfl
  | some c =>
    rw [eq_of_ofType hof] at h
    cases h

end Command

def evtServerReady : String := "server_ready"
def evtSystemInitialized : String := "system_initialized"
def evtNodeInitialized : String := "node_initialized"
def evtNodeInitializationFailed : String := "node_initialization_failed"
def evtError : String := "error"
def evtUsbStatus : String := "usb_status"
def evtDeviceInfo : String := "device_info"
def evtControlCenterMessage : String := "control_center_message"
def evtRobotStatus : String := "robot_status"

structure Event where
  type : String
  nodeId : Option String := none
  payload : Json

/-! ## The state -/

/-- The fields of `Core` that are read before or outside a guard. -/
structure Core where
  initializationRequiresRecovery : Bool := false
  recoveryInProgress : Bool := false
  streamStopFinalizationPending : Bool := false
  connectionSequence : Connection.Sequence := {}
  /-- the ids of `self.subjects` -/
  subjects : List String := []
  pendingCorrelationId : Json := .null
  /-- `storage.file_manager.base_root` -/
  baseRoot : String := "nexus_n3_outputs"
  /-- the registry given to `compute_orch`, by name -/
  registry : Option String := none

/-- Which of the optional callables are set. -/
structure Hooks where
  dispatcher : Bool := false
  beforeStreamStart : Bool := false
  afterStreamStop : Bool := false
  usbMountHandler : Bool := false
  usbUnmountHandler : Bool := false
  usbStatusProvider : Bool := false
  deviceInfoProvider : Bool := false
  robotService : Bool := false

structure MessageHandler where
  site : String
  nodeId : String
  /-- `ble_runtime_config.as_public_dict()` -/
  bleRuntimeConfig : Json := .obj []
  archiveService : Fields := [("available", .bool false)]
  hooks : Hooks := {}
  si : Option Core := none
  isReady : Bool := false
  registry : Option String := none
  /-- the events on the bus, oldest first -/
  emitted : List Event := []

/-- A part of the handler, which may raise. -/
abbrev Handling (α : Type) := Program MessageHandler Raised α

/-! ## Outside the handler -/

/-- What `Core` is asked for. -/
inductive Request where
  | executeConnectionStep (command : Json) (payload : Fields)
  | discoverSensors
  | discoverSensorsForSubjects (subjectIds excludedAddresses : Json)
  | connectAll
  | connectSubjects (subjectIds : Json)
  | disconnectSubjects (subjectIds : Json) (cleanupContext : Fields)
  | disconnectAll (cleanupContext : Fields)
  | startStreamForSubjects (payload : Fields)
  | startStream (payload : Fields)
  | startOfficialStream (payload : Fields)
  | stopStreamForSubjects (subjectIds : Json) (stopContext : Fields)
  | stopStream (stopContext : Fields)
  | identifySensor (subjectId location : Json)
  | checkBattery (scanTimeout readTimeout : Json)

structure InitRequest where
  subjects : Json
  initLabel : Json
  appId : Json
  appName : Json

/-- `exc.configuration`: the two keys `init_core` always sets, and the others. -/
structure Configuration where
  configurationState : String
  recoveryRequired : Bool
  others : Fields

structure InitializationFailure where
  message : String
  configuration : Configuration

/-- How a call ends, what it leaves of `Core`, and what it puts on the bus. -/
structure Call (α : Type) where
  result : Except Raised α
  core : Core → Core := id
  events : List Event := []

structure SupportedSensor where
  name : Json
  locations : List Json
  computations : List Json

/-- The calls out of the handler, as they go while one frame is handled. -/
structure Host where
  /-- `recv_json` of a frame: UTF-8 and JSON -/
  loads : List UInt8 → Except Raised Json
  /-- the dispatcher of the master, which may handle commands locally on its way -/
  dispatcher : Fields → Except Raised Unit × (MessageHandler → MessageHandler)
  request : Request → Core → Call Unit
  initCore : InitRequest → Core → Call (Except InitializationFailure Fields)
  hasActiveStreams : Core → Call Bool
  beforeStreamStart : Call Unit
  afterStreamStop : Call Unit
  usbMountHandler : Call Unit
  usbUnmountHandler : Call Unit
  usbStatusProvider : Except Raised Json
  /-- the device info provider, called for the first and for the second time -/
  deviceInfoProvider : Nat → Except Raised Json
  robotStatus : Except Raised Json
  robotOnMessage : Fields → Call Unit
  supportedSensors : Except Raised (List SupportedSensor)
  supportedAlgorithms : Except Raised (List Json)
  supportedGateways : Except Raised (List String)
  supportedBridges : Except Raised (List String)
  coreVersion : Except Raised String
  /-- the constructor of `Core`, which makes directories and threads -/
  newCore : Except Raised Unit
  /-- the installed plugins, read to be logged -/
  pluginInventory : Except Raised Unit
  /-- `base_dir.mkdir` below a root -/
  mkdir : String → Except Raised Unit
  sequence : Connection.Env
  /-- `uuid4().hex` -/
  uuid : String
  /-- the time of a snapshot -/
  snapshotAt : String
  /-- the text of a value in a message -/
  render : Json → String

end NexusN3.Messaging
