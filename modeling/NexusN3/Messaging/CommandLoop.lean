import NexusN3.Messaging.Survival

/-!
# The command loop

`ZeroMQGateway._recv_loop` on its thread: a frame is decoded and handed to
`MessageHandler.handle`, and then the next one is received. A timeout of the receive is caught, a
socket error ends the loop, and any other exception ends the thread: nothing receives from then
on, while sensors and streams go on.

* **`Loop.step`** — one turn of the loop, or something another thread does between two turns.
* **`Survives`** — the condition under which a frame leaves the loop alive.
* **`command_loop_serves_iff`** — the loop handles every frame until it is stopped exactly when
  every frame it receives meets the condition.
-/

namespace NexusN3.Messaging

open Lib Lib.Program

/-- The bytes of one message on the command socket. -/
abbrev Frame := List UInt8

/-! ## The loop -/

inductive Phase where
  | receiving
  /-- stopped, or left at a socket error -/
  | ended
  /-- an exception has ended the thread -/
  | escaped (exc : Raised)

structure Loop where
  handler : MessageHandler
  phase : Phase := .receiving
  /-- the frames whose handling has returned, oldest first -/
  handled : List Frame := []

/-- What comes to the loop, in order. -/
inductive Arrival where
  /-- a frame, with the calls as they go while it is handled -/
  | frame (bytes : Frame) (host : Host)
  /-- `zmq.Again` -/
  | timeout
  /-- any other `zmq.ZMQError` -/
  | socketError
  /-- `_running` is found to be false -/
  | stop
  /-- other threads change the handler and its `Core` -/
  | changed (handler : MessageHandler)

/-- Decode a frame and handle the message. -/
def receive (host : Host) (bytes : Frame) : Handling Unit := do
  let msg ← fromExcept (host.loads bytes)
  handle host msg

namespace Loop

/-- The loop, just started. -/
def start (s : MessageHandler) : Loop := { handler := s }

/-- A turn of a loop that receives. -/
def turn (l : Loop) : Arrival → Loop
  | .frame bytes host =>
    match (receive host bytes).exec l.handler with
    | (.ok (), s) => { l with handler := s, handled := l.handled ++ [bytes] }
    | (.error exc, s) => { l with handler := s, phase := .escaped exc }
  | .timeout => l
  | .socketError => { l with phase := .ended }
  | .stop => { l with phase := .ended }
  | .changed s => { l with handler := s }

def step (l : Loop) (a : Arrival) : Loop :=
  match l.phase with
  | .receiving => l.turn a
  | _ => l

def run (l : Loop) (as : List Arrival) : Loop := as.foldl step l

/-! ## What is asked of it -/

/-- The frames that come before the loop is stopped. -/
def due : List Arrival → List Frame
  | [] => []
  | .frame bytes _ :: as => bytes :: due as
  | .timeout :: as => due as
  | .socketError :: _ => []
  | .stop :: _ => []
  | .changed _ :: as => due as

/-- No exception has left the loop, and every frame that was due is handled. -/
def Serves (l : Loop) (as : List Arrival) : Prop :=
  (∀ exc, (l.run as).phase ≠ .escaped exc) ∧ (l.run as).handled = l.handled ++ due as

end Loop

/-- The frame is a JSON object that the dispatcher, or else `_handle_local`, takes. -/
def Survives (host : Host) (s : MessageHandler) (bytes : Frame) : Prop :=
  ∃ msg, host.loads bytes = .ok (.obj msg) ∧
    if s.hooks.dispatcher = true then Answers (host.dispatcher msg).1
    else s.Takes host (Json.get msg "type") (Json.getD msg "payload" (.obj [])) false

namespace Loop

/-- What a frame that is received must meet. -/
def Meets (l : Loop) : Arrival → Prop
  | .frame bytes host => Survives host l.handler bytes
  | _ => True

/-- Every frame meets its condition in the state in which it is received. -/
def EachMeets : Loop → List Arrival → Prop
  | _, [] => True
  | l, a :: as => (l.phase = .receiving → l.Meets a) ∧ EachMeets (l.step a) as

end Loop

/-! ## One turn -/

/-- No exception leaves the handling of a frame exactly when it survives. -/
theorem succeeds_receive_iff {host : Host} {s : MessageHandler} {bytes : Frame} :
    Succeeds (receive host bytes) s ↔ Survives host s bytes := by
  unfold receive handle Survives
  simp only [succeeds_fromExcept_bind, fieldsOf_eq_ok, succeeds_reading]
  constructor
  · rintro ⟨msg, hloads, fields, rfl, h⟩
    refine ⟨fields, hloads, ?_⟩
    split at h
    · rw [if_pos ‹_›]
      exact (succeeds_of ..).mp h
    · rw [if_neg ‹_›]
      exact succeeds_handleLocal_iff.mp h
  · rintro ⟨fields, hloads, h⟩
    refine ⟨.obj fields, hloads, fields, rfl, ?_⟩
    split
    · rw [if_pos ‹_›] at h
      exact (succeeds_of ..).mpr h
    · rw [if_neg ‹_›] at h
      exact succeeds_handleLocal_iff.mpr h

namespace Loop

variable {l : Loop}

/-- A loop that has ended does not come back. -/
theorem run_of_not_receiving (h : l.phase ≠ .receiving) (as : List Arrival) : l.run as = l := by
  induction as with
  | nil => rfl
  | cons a as ih =>
    have hstep : l.step a = l := by
      unfold step
      split
      · exact absurd ‹_› h
      · rfl
    rw [run, List.foldl_cons, hstep]
    exact ih

theorem eachMeets_of_not_receiving (h : l.phase ≠ .receiving) (as : List Arrival) :
    l.EachMeets as := by
  induction as with
  | nil => exact True.intro
  | cons a as ih =>
    have hstep : l.step a = l := run_of_not_receiving h [a]
    refine ⟨fun hphase => absurd hphase h, ?_⟩
    rw [hstep]
    exact ih

theorem step_of_receiving (h : l.phase = .receiving) (a : Arrival) : l.step a = l.turn a := by
  unfold step
  rw [h]

/-- A frame that survives is handled, and the loop receives on. -/
theorem turn_of_survives {bytes : Frame} {host : Host} (h : Survives host l.handler bytes) :
    ∃ s, l.turn (.frame bytes host) =
      { l with handler := s, handled := l.handled ++ [bytes] } := by
  obtain ⟨⟨⟩, s, hrun⟩ := succeeds_receive_iff.mpr h
  exact ⟨s, by simp only [turn, hrun]⟩

/-- A frame that does not ends the thread. -/
theorem turn_of_not_survives {bytes : Frame} {host : Host}
    (h : ¬ Survives host l.handler bytes) :
    ∃ exc s, l.turn (.frame bytes host) = { l with handler := s, phase := .escaped exc } := by
  obtain ⟨exc, s, hrun⟩ := not_succeeds_iff.mp (mt succeeds_receive_iff.mp h)
  exact ⟨exc, s, by simp only [turn, hrun]⟩

/-! ## Runs -/

/-- A loop that ends at `a` serves what is behind it: nothing is due. -/
theorem serves_of_ended {a : Arrival} {as : List Arrival}
    (hstep : l.step a = { l with phase := .ended }) (hdue : due (a :: as) = []) :
    l.Serves (a :: as) := by
  have hrun : l.run (a :: as) = { l with phase := .ended } := by
    rw [run, List.foldl_cons, hstep]
    exact run_of_not_receiving (by simp) as
  unfold Serves
  rw [hrun, hdue]
  exact ⟨by simp, (List.append_nil _).symm⟩

/-- By induction on the arrivals, from any loop that receives. -/
theorem serves_iff_eachMeets (h : l.phase = .receiving) (as : List Arrival) :
    l.Serves as ↔ l.EachMeets as := by
  induction as generalizing l with
  | nil => exact iff_of_true ⟨by simp [run, h], (List.append_nil _).symm⟩ True.intro
  | cons a as ih =>
    have hstep := step_of_receiving h a
    cases a with
    | frame bytes host =>
      by_cases hsurvives : Survives host l.handler bytes
      · obtain ⟨s, hturn⟩ := turn_of_survives hsurvives
        rw [hturn] at hstep
        have hnext := ih (l := { l with handler := s, handled := l.handled ++ [bytes] }) h
        unfold Serves at hnext ⊢
        rw [List.append_assoc, List.singleton_append] at hnext
        rw [EachMeets, run, List.foldl_cons, hstep, ← hnext]
        exact (and_iff_right fun _ => hsurvives).symm
      · obtain ⟨exc, s, hturn⟩ := turn_of_not_survives hsurvives
        rw [hturn] at hstep
        have hrun : (l.run (.frame bytes host :: as)).phase = .escaped exc := by
          rw [run, List.foldl_cons, hstep]
          exact congrArg Loop.phase (run_of_not_receiving (by simp) as)
        exact iff_of_false (fun hserves => hserves.1 exc hrun) fun hmeets => hsurvives (hmeets.1 h)
    | timeout =>
      have hnext := ih h
      unfold Serves at hnext ⊢
      rw [EachMeets, run, List.foldl_cons, hstep]
      exact hnext.trans (and_iff_right fun _ => True.intro).symm
    | socketError =>
      refine iff_of_true (serves_of_ended hstep rfl) ⟨fun _ => True.intro, ?_⟩
      rw [hstep]
      exact eachMeets_of_not_receiving (by simp [turn]) as
    | stop =>
      refine iff_of_true (serves_of_ended hstep rfl) ⟨fun _ => True.intro, ?_⟩
      rw [hstep]
      exact eachMeets_of_not_receiving (by simp [turn]) as
    | changed s =>
      have hnext := ih (l := { l with handler := s }) h
      unfold Serves at hnext ⊢
      rw [EachMeets, run, List.foldl_cons, hstep]
      exact hnext.trans (and_iff_right fun _ => True.intro).symm

end Loop

/-- From every state of the handler, over every order of frames, timeouts, stops and changes by
other threads: no exception leaves the loop, and it handles every frame until it is stopped,
exactly when each frame meets its condition where it is received. -/
theorem command_loop_serves_iff (s : MessageHandler) (as : List Arrival) :
    (Loop.start s).Serves as ↔ (Loop.start s).EachMeets as :=
  Loop.serves_iff_eachMeets rfl as

/-! ## A frame before the setup -/

/-- The gateway receives from before `CMD_SYSTEM_SETUP` on: there is no `Core` yet. -/
def notSetUp : MessageHandler := { site := "lab", nodeId := "standalone" }

/-- The command to discover sensors, without a payload. -/
def discoverFrame : Frame := "\x7b\"type\": \"discover_sensors\"\x7d".toUTF8.toList

/-- Every call returns, and the discover command is decoded. -/
def quietHost : Host where
  loads bytes :=
    if bytes = discoverFrame then .ok (.obj [("type", .str Command.discoverSensors.text)])
    else .error ⟨"JSONDecodeError", "Expecting value"⟩
  dispatcher _ := (.ok (), id)
  request _ _ := { result := .ok () }
  initCore _ _ := { result := .ok (.ok []) }
  hasActiveStreams _ := { result := .ok false }
  beforeStreamStart := { result := .ok () }
  afterStreamStop := { result := .ok () }
  usbMountHandler := { result := .ok () }
  usbUnmountHandler := { result := .ok () }
  usbStatusProvider := .ok (.obj [])
  deviceInfoProvider _ := .ok (.obj [])
  robotStatus := .ok (.obj [])
  robotOnMessage _ := { result := .ok () }
  supportedSensors := .ok []
  supportedAlgorithms := .ok []
  supportedGateways := .ok []
  supportedBridges := .ok []
  coreVersion := .ok "1.0.0"
  newCore := .ok ()
  pluginInventory := .ok ()
  mkdir _ := .ok ()
  sequence :=
    { token := "token", sequenceId := "sequence", correlationId := "correlation"
      identifyId := "identify" }
  uuid := "uuid"
  snapshotAt := "2025-01-01T00:00:00Z"
  render _ := ""

/-- The correlation id is noted in a `Core` that is not there, in front of the `try`. -/
theorem not_survives_discoverFrame : ¬ Survives quietHost notSetUp discoverFrame := by
  rintro ⟨msg, hloads, h⟩
  simp only [quietHost, if_true, Except.ok.injEq, Json.obj.injEq] at hloads
  subst hloads
  have hlocal : notSetUp.hooks.dispatcher ≠ true := Bool.false_ne_true
  rw [if_neg hlocal] at h
  obtain ⟨fields, hpayload, -, hroute⟩ := h
  cases hpayload
  have htype : Json.get [("type", .str Command.discoverSensors.text)] "type" =
      .str Command.discoverSensors.text := rfl
  have hcommand : notSetUp.route (.str Command.discoverSensors.text) [] =
      .command .discoverSensors := by
    simp [MessageHandler.route, notSetUp, MessageHandler.requiresRecovery, MessageHandler.busy,
      Json.get, Json.getD, Json.truthy]
  rw [htype, hcommand] at hroute
  exact Bool.false_ne_true hroute

/-- One discover command in front of the setup, and the loop is gone. -/
theorem deaf_before_setup :
    ¬ (Loop.start notSetUp).Serves [.frame discoverFrame quietHost] := by
  intro h
  obtain ⟨exc, s, hturn⟩ := Loop.turn_of_not_survives (l := Loop.start notSetUp)
    not_survives_discoverFrame
  exact h.1 exc (congrArg Loop.phase hturn)

end NexusN3.Messaging
