import NexusN3.Core.Reconfigure
import NexusN3.Lib.Machine
import NexusN3.Messaging.CommandLoop

/-!
# A node that requires recovery

Once a configuration has failed half installed, the message handler refuses the commands that
would use the devices, and `init_core` refuses a new configuration. Only the end of a Reset takes
the flag down, or a new Core in the place of the old one.

* **`Host.RunsInitCore`** — the handler's call of `init_core` is `Reconfigure.initCore`.
* **`Refused`** — a command that fails and leaves the node as it was.
* **`recoveryStep`**, **`Waits`** — what happens on a node, and what happens before such a Reset.
* **`requiresRecovery_step`**, **`requiresRecovery_run`** — the flag stays up.
* **`rejection_atomic`** — a rejected configuration, and what follows it.
-/

namespace NexusN3.Messaging

open Lib Lib.Program

/-! ## The calls into the Core -/

/-- How a call of `init_core` looks from the handler. -/
def Call.Shows {S M : Type} (call : Call (Except InitializationFailure Fields)) (base : Core)
    (end_ : Except Reconfigure.InitializationError Reconfigure.Installed × Reconfigure.Core S M) :
    Prop :=
  call.core base = Reconfigure.shown end_.2 ∧ call.events = [] ∧
    match end_.1 with
    | .ok _ => ∃ fields, call.result = .ok (.ok fields)
    | .error e => ∃ failure, call.result = .ok (.error failure) ∧ failure.message = e.message ∧
        failure.configuration.recoveryRequired = e.recoveryRequired

/-- The handler's call of `init_core` is a run of it, on a Core that shows the same. -/
def Host.RunsInitCore (S M : Type) (host : Host) : Prop :=
  ∀ request base, ∃ (c : Reconfigure.Core S M) (env : Reconfigure.Env S M)
    (asked : Reconfigure.Request), Reconfigure.shown c = base ∧
      (host.initCore request base).Shows base ((Reconfigure.initCore env asked).exec c)

/-- The call leaves the flag up. -/
def Call.KeepsRecovery {α : Type} (call : Call α) : Prop :=
  ∀ core : Core, core.initializationRequiresRecovery = true →
    (call.core core).initializationRequiresRecovery = true

/-- No other call assigns the flag, nor does a Reset end in one that has found the Core ready. -/
structure Host.KeepsRecovery (host : Host) : Prop where
  request : ∀ r core, core.initializationRequiresRecovery = true →
    ((host.request r core).core core).initializationRequiresRecovery = true
  hasActiveStreams : ∀ core, core.initializationRequiresRecovery = true →
    ((host.hasActiveStreams core).core core).initializationRequiresRecovery = true
  beforeStreamStart : host.beforeStreamStart.KeepsRecovery
  afterStreamStop : host.afterStreamStop.KeepsRecovery
  usbMountHandler : host.usbMountHandler.KeepsRecovery
  usbUnmountHandler : host.usbUnmountHandler.KeepsRecovery
  robotOnMessage : ∀ message, (host.robotOnMessage message).KeepsRecovery

/-! ## Refusals -/

/-- The command fails: the node is as before, but for the id of the command in hand, and unless it
raises, what it puts on the bus says that it failed. -/
def Refused (host : Host) (type payload : Json) (prepared : Bool) (s : MessageHandler) : Prop :=
  ∃ r pending events, (handleLocal host type payload prepared).exec s =
      (r, { s with
        si := s.si.map fun core => { core with pendingCorrelationId := pending }
        emitted := s.emitted ++ events }) ∧
    (∀ e ∈ events, e.type = evtError ∨ e.type = evtNodeInitializationFailed) ∧
      (r = .ok () → events ≠ [])

/-- INIT, and the DISCOVER, CONNECT and START commands. -/
def configuredFirst : List Command := .initSystem :: resetFirst

/-! ## The node -/

/-- The end of a Reset, for what the handler sees. -/
def Core.resetFinished (report : Except Raised Json) (core : Core) : Core :=
  match report with
  | .error _ => { core with recoveryInProgress := false }
  | .ok _ =>
    { core with
      recoveryInProgress := false
      subjects := []
      initializationRequiresRecovery :=
        core.initializationRequiresRecovery && !Reconfigure.ReadyReport report }

theorem shown_resetFinished {S M : Type} (report : Except Raised Json)
    (c : Reconfigure.Core S M) :
    Reconfigure.shown (Reconfigure.resetFinished report c) =
      (Reconfigure.shown c).resetFinished report := by
  cases report <;> rfl

inductive Happening where
  /-- a command is handled, with the calls as they go meanwhile -/
  | handled (host : Host) (type payload : Json) (prepared : Bool)
  | resetFinished (report : Except Raised Json)
  /-- other threads change the Core -/
  | changed (f : Core → Core)

def recoveryStep : Machine MessageHandler Happening
  | s, .handled host type payload prepared =>
    some ((handleLocal host type payload prepared).exec s).2
  | s, .resetFinished report => some { s with si := s.si.map (Core.resetFinished report) }
  | s, .changed f => some { s with si := s.si.map f }

/-- No Reset ends that has found the Core ready, and the Core is not replaced. -/
def Waits (S M : Type) : MessageHandler → Happening → Prop
  | _, .handled host type _ _ =>
    host.RunsInitCore S M ∧ host.KeepsRecovery ∧ Command.ofType type ≠ some .systemSetup
  | _, .resetFinished report => Reconfigure.ReadyReport report = false
  | _, .changed f => ∀ core : Core, core.initializationRequiresRecovery = true →
      (f core).initializationRequiresRecovery = true

/-! ## What keeps the flag up -/

/-- The flag is up, if it was before. -/
def StillRecovers : MessageHandler → MessageHandler → Prop :=
  Maintains fun s => s.requiresRecovery = true

instance : IsPreorder MessageHandler StillRecovers :=
  inferInstanceAs (IsPreorder MessageHandler (Maintains _))

theorem requiresRecovery_iff {s : MessageHandler} : s.requiresRecovery = true ↔
    ∃ core, s.si = some core ∧ core.initializationRequiresRecovery = true := by
  unfold MessageHandler.requiresRecovery
  cases s.si <;> simp

section Recovers

variable {host : Host} {payload : Fields} {correlationId : Json} {prepared : Bool}

theorem recovers_emit (e : Event) : Keeps StillRecovers (emit e) := fun _ h => h

theorem recovers_emitError (correlationId : Json) (message : String) :
    Keeps StillRecovers (emitError correlationId message) := recovers_emit _

theorem recovers_call {α : Type} {c : Call α} (hc : c.KeepsRecovery) :
    Keeps StillRecovers (call c) := by
  intro s h
  obtain ⟨core, hsi, hflag⟩ := requiresRecovery_iff.mp h
  refine requiresRecovery_iff.mpr ⟨c.core core, ?_, hc core hflag⟩
  simp only [call, exec_of, hsi, Option.map_some]

theorem recovers_onCore {α : Type} {c : Core → Call α}
    (hc : ∀ core, core.initializationRequiresRecovery = true →
      ((c core).core core).initializationRequiresRecovery = true) :
    Keeps StillRecovers (onCore c) := by
  intro s h
  obtain ⟨core, hsi, hflag⟩ := requiresRecovery_iff.mp h
  refine requiresRecovery_iff.mpr ⟨(c core).core core, ?_, hc core hflag⟩
  simp only [onCore, call, exec_of, hsi, Option.map_some]

theorem recovers_setPending (value : Json) : Keeps StillRecovers (setPending value) :=
  recovers_onCore fun _ h => h

theorem recovers_clearPending : Keeps StillRecovers clearPending := recovers_call fun _ h => h

theorem recovers_ask (hhost : host.KeepsRecovery) (r : Request) :
    Keeps StillRecovers (ask host r) := recovers_onCore (hhost.request r)

theorem recovers_guarded {label : String} {body : Handling Unit}
    (hbody : Keeps StillRecovers body) :
    Keeps StillRecovers (guarded correlationId label body) :=
  Keeps.bind (recovers_setPending _) fun _ => Keeps.tryCatch hbody fun _ =>
    Keeps.bind (recovers_setPending _) fun _ => recovers_emitError _ _

theorem recovers_setFilePath (path : Json) : Keeps StillRecovers (setFilePath host path) := by
  refine recovers_onCore fun core hflag => ?_
  dsimp only
  split
  · split
    · exact hflag
    · exact hflag
  · exact hflag

theorem recovers_startConnectionSequence :
    Keeps StillRecovers (startConnectionSequence host payload) := by
  refine Keeps.bind (recovers_onCore fun _ h => h) fun _ => ?_
  refine Keeps.bind (recovers_onCore fun _ h => h) fun _ => ?_
  exact recovers_onCore fun _ h => h

theorem recovers_connectionStep (hhost : host.KeepsRecovery) (type : Json) :
    Keeps StillRecovers (connectionStep host type payload correlationId) := by
  refine Keeps.tryCatch (recovers_ask hhost _) fun exc s => ?_
  rw [exec_reading]
  exact Keeps.bind (Keeps.fromExcept _) (fun _ => recovers_emit _) s

theorem recovers_prepareStreamStart (hhost : host.KeepsRecovery) :
    Keeps StillRecovers (prepareStreamStart host prepared) := by
  intro s
  rw [prepareStreamStart, exec_reading]
  exact Keeps.ite (recovers_call hhost.beforeStreamStart) (Keeps.pure ()) s

theorem recovers_afterStop (hhost : host.KeepsRecovery) :
    Keeps StillRecovers (afterStop host) := by
  intro s
  rw [afterStop, exec_reading]
  refine Keeps.ite (Keeps.bind (recovers_onCore hhost.hasActiveStreams) fun active => ?_)
    (Keeps.pure ()) s
  exact Keeps.ite (Keeps.pure ()) (recovers_call hhost.afterStreamStop)

theorem recovers_robotCommand (hhost : host.KeepsRecovery) (label : String)
    (message status : Fields) :
    Keeps StillRecovers (robotCommand host correlationId label message status) := by
  intro s
  rw [robotCommand, exec_reading]
  refine Keeps.ite (Keeps.tryCatch ?_ fun _ => recovers_emitError _ _) (recovers_emitError _ _) s
  exact Keeps.bind (recovers_call (hhost.robotOnMessage _)) fun _ => recovers_emit _

/-- `init_core` leaves a Core that requires recovery as it is. -/
theorem Host.RunsInitCore.left_alone {S M : Type} (h : host.RunsInitCore S M)
    (request : InitRequest) {base : Core} (hflag : base.initializationRequiresRecovery = true) :
    (host.initCore request base).core base = base ∧ (host.initCore request base).events = [] ∧
      ∃ failure, (host.initCore request base).result = .ok (.error failure) ∧
        failure.configuration.recoveryRequired = true := by
  obtain ⟨c, env, asked, rfl, hcore, hevents, hresult⟩ := h request base
  obtain ⟨e, hexec, hrequired⟩ := @Reconfigure.initCore_of_requiresRecovery S M env asked c hflag
  rw [hexec] at hcore hresult
  obtain ⟨failure, hfailure, -, hsame⟩ := hresult
  exact ⟨hcore, hevents, failure, hfailure, hsame.trans hrequired⟩

theorem recovers_initSystem {S M : Type} (hinit : host.RunsInitCore S M) :
    Keeps StillRecovers (initSystem host payload correlationId) := by
  intro s
  rw [initSystem, exec_reading]
  refine Keeps.bind (Keeps.tryCatch ?_ fun _ => Keeps.pure _) (fun _ => ?_) s
  · refine Keeps.bind (Keeps.fromExcept _) fun _ => ?_
    refine Keeps.bind (recovers_setPending _) fun _ => recovers_onCore fun core hflag => ?_
    rw [(hinit.left_alone _ hflag).1]
    exact hflag
  · exact Keeps.bind (recovers_emit _) fun _ => recovers_clearPending

/-- Every command but the setup leaves the flag up. -/
theorem recovers_runCommand {S M : Type} (hinit : host.RunsInitCore S M)
    (hhost : host.KeepsRecovery) {c : Command} (hc : c ≠ .systemSetup) :
    Keeps StillRecovers (runCommand host payload correlationId prepared c) := by
  have hask := recovers_ask hhost
  cases c with
  | systemSetup => exact absurd rfl hc
  | initSystem => exact recovers_initSystem hinit
  | isServerReady =>
    intro s
    rw [runCommand, isServerReady, exec_reading]
    exact Keeps.bind (Keeps.fromExcept _) (fun _ => recovers_emit _) s
  | getDeviceInfo =>
    intro s
    rw [runCommand, getDeviceInfo, exec_reading]
    exact Keeps.bind (Keeps.fromExcept _) (fun _ => recovers_emit _) s
  | forwardControlCenterMessage =>
    unfold runCommand forwardControlCenterMessage
    dsimp only
    split <;> exact recovers_emit _
  | discoverSensors => exact recovers_guarded (hask _)
  | discoverSensorsForSubjects =>
    exact recovers_guarded (Keeps.bind (Keeps.fromExcept _) fun _ => hask _)
  | connectToAll => exact recovers_guarded (hask _)
  | connectSubjects =>
    exact recovers_guarded (Keeps.bind (Keeps.fromExcept _) fun _ => hask _)
  | disconnectAll => exact recovers_guarded (hask _)
  | disconnectSubjects =>
    exact recovers_guarded (Keeps.bind (Keeps.fromExcept _) fun _ => hask _)
  | identifySensor =>
    refine recovers_guarded (Keeps.bind (Keeps.fromExcept _) fun _ => ?_)
    exact Keeps.bind (Keeps.fromExcept _) fun _ => hask _
  | checkBattery => exact hask _
  | startStreamForAll =>
    exact Keeps.bind (recovers_prepareStreamStart hhost) fun _ => recovers_guarded (hask _)
  | startStreamForSubjects =>
    exact Keeps.bind (recovers_prepareStreamStart hhost) fun _ => recovers_guarded (hask _)
  | startOfficialStream => exact Keeps.tryCatch (hask _) fun _ => recovers_emitError _ _
  | stopStreamForAll =>
    exact recovers_guarded (Keeps.bind (hask _) fun _ => recovers_afterStop hhost)
  | stopStreamForSubjects =>
    refine recovers_guarded (Keeps.bind (Keeps.fromExcept _) fun _ => ?_)
    exact Keeps.bind (hask _) fun _ => recovers_afterStop hhost
  | updateFilePath =>
    exact Keeps.bind (Keeps.fromExcept _) fun _ => recovers_setFilePath _
  | usbMount =>
    intro s
    rw [runCommand, usbMount, exec_reading]
    exact Keeps.ite (recovers_call hhost.usbMountHandler) (recovers_emit _) s
  | usbSafeUnmount =>
    intro s
    rw [runCommand, usbSafeUnmount, exec_reading]
    exact Keeps.ite (recovers_call hhost.usbUnmountHandler) (recovers_emit _) s
  | getUsbStatus =>
    intro s
    rw [runCommand, getUsbStatus, exec_reading]
    exact Keeps.ite (Keeps.bind (Keeps.fromExcept _) fun _ => recovers_emit _)
      (recovers_emit _) s
  | robotMotion => exact recovers_robotCommand hhost _ _ _
  | robotStop => exact recovers_robotCommand hhost _ _ _

theorem recovers_handleLocal {S M : Type} (hinit : host.RunsInitCore S M)
    (hhost : host.KeepsRecovery) {type payload : Json}
    (htype : Command.ofType type ≠ some .systemSetup) :
    Keeps StillRecovers (handleLocal host type payload prepared) := by
  refine Keeps.bind (Keeps.fromExcept _) fun fields s => ?_
  rw [handleFields, exec_reading]
  refine Keeps.bind (Keeps.fromExcept _) (fun _ => ?_) s
  refine Keeps.ite (recovers_emitError _ _) ?_
  refine Keeps.bind (Keeps.fromExcept _) fun _ => ?_
  refine Keeps.ite (recovers_connectionStep hhost _) ?_
  refine Keeps.ite recovers_startConnectionSequence ?_
  refine Keeps.bind (Keeps.fromExcept _) fun _ => ?_
  refine Keeps.ite (recovers_emitError _ _) ?_
  cases hc : Command.ofType type with
  | none => exact recovers_emit _
  | some c => exact recovers_runCommand hinit hhost fun heq => htype (heq ▸ hc)

end Recovers

/-- **Step lemma.** Before a Reset has found the Core ready, the flag stays up. -/
theorem requiresRecovery_step {S M : Type} {s t : MessageHandler} {a : Happening}
    (hwaits : Waits S M s a) (hstep : recoveryStep s a = some t)
    (h : s.requiresRecovery = true) : t.requiresRecovery = true := by
  cases a with
  | handled host type payload prepared =>
    obtain ⟨hinit, hhost, htype⟩ := hwaits
    cases hstep
    exact recovers_handleLocal hinit hhost htype s h
  | resetFinished report =>
    cases hstep
    obtain ⟨core, hsi, hflag⟩ := requiresRecovery_iff.mp h
    refine requiresRecovery_iff.mpr ⟨core.resetFinished report, by simp [hsi], ?_⟩
    have hreport : Reconfigure.ReadyReport report = false := hwaits
    cases report with
    | error exc => exact hflag
    | ok recovery =>
      change (core.initializationRequiresRecovery && !Reconfigure.ReadyReport (.ok recovery)) = true
      rw [hflag, hreport]
      rfl
  | changed f =>
    cases hstep
    obtain ⟨core, hsi, hflag⟩ := requiresRecovery_iff.mp h
    exact requiresRecovery_iff.mpr ⟨f core, by simp [hsi], hwaits core hflag⟩

/-- **Run lemma.** -/
theorem requiresRecovery_run {S M : Type} {s t : MessageHandler} (h : s.requiresRecovery = true)
    (hrun : Machine.Run recoveryStep (Waits S M) s t) : t.requiresRecovery = true :=
  hrun.invariant (I := fun s : MessageHandler => s.requiresRecovery = true) h
    fun _ _ _ hwaits hstep => requiresRecovery_step hwaits hstep

/-! ## The refusals -/

section Refusals

variable {host : Host} {s : MessageHandler} {prepared : Bool}

theorem askedOf_text (flag : Bool) (c : Command) (commands : List Command) :
    askedOf flag (.str c.text) commands = .ok (flag && decide (c ∈ commands)) := by
  cases flag with
  | false => rfl
  | true => simp [askedOf, memberOf, Json.hashable]

theorem same_si {core : Core} (hsi : s.si = some core) :
    (s.si.map fun core' => { core' with pendingCorrelationId := core.pendingCorrelationId }) =
      s.si := by
  rw [hsi]
  rfl

theorem refused_of_raised {type payload : Json} {exc : Raised} {core : Core}
    (hsi : s.si = some core)
    (hexec : (handleLocal host type payload prepared).exec s = (.error exc, s)) :
    Refused host type payload prepared s := by
  refine ⟨.error exc, core.pendingCorrelationId, [], ?_, List.forall_mem_nil _, nofun⟩
  rw [hexec, same_si hsi, List.append_nil]

theorem refused_of_emitted {type payload : Json} {e : Event} {core : Core}
    (hsi : s.si = some core) (he : e.type = evtError)
    (hexec : (handleLocal host type payload prepared).exec s =
      (.ok (), { s with emitted := s.emitted ++ [e] })) :
    Refused host type payload prepared s := by
  refine ⟨.ok (), core.pendingCorrelationId, [e], ?_, ?_, fun _ => List.cons_ne_nil _ _⟩
  · rw [hexec, same_si hsi]
  · rintro e' he'
    rw [List.mem_singleton.mp he']
    exact .inl he

/-- A payload that is no dictionary cannot be read. -/
theorem refused_of_not_obj {type payload : Json} {exc : Raised} {core : Core}
    (hsi : s.si = some core) (hpayload : fieldsOf payload = .error exc) :
    Refused host type payload prepared s := by
  refine @refused_of_raised host s prepared type payload exc core hsi ?_
  rw [handleLocal, exec_bind, hpayload, exec_fromExcept]

/-- The guard of the handler. -/
theorem refused_of_resetFirst (h : s.requiresRecovery = true) {c : Command} (hc : c ∈ resetFirst)
    (payload : Json) : Refused host (.str c.text) payload prepared s := by
  obtain ⟨core, hsi, -⟩ := requiresRecovery_iff.mp h
  cases hpayload : fieldsOf payload with
  | error exc => exact refused_of_not_obj hsi hpayload
  | ok fields =>
    have hasked : askedOf s.requiresRecovery (.str c.text) resetFirst = .ok true := by
      rw [askedOf_text, h, decide_eq_true hc]
      rfl
    refine refused_of_emitted (e :=
      { type := evtError
        payload := .obj (correlated (Json.get fields "correlation_id")
          [("message", .str "Reset is required after failed configuration installation")]) })
      hsi rfl ?_
    rw [handleLocal, exec_bind, hpayload, exec_fromExcept]
    dsimp only
    rw [handleFields, exec_reading, exec_bind, hasked, exec_fromExcept]
    rfl

/-- The `try` of INIT, on a Core that requires recovery: the configuration is refused, or there is
none in the payload. -/
theorem exec_tryInit {S M : Type} (hinit : host.RunsInitCore S M) {core : Core}
    (hsi : s.si = some core) (hflag : core.initializationRequiresRecovery = true)
    (payload : Fields) (correlationId : Json) :
    ∃ failure pending, (tryCatch (tryInit host payload correlationId) fun exc =>
        pure (.error { message := exc.text, configuration := unknownConfiguration })).exec s =
      (.ok (.error failure), { s with
        si := some { core with pendingCorrelationId := pending } }) := by
  cases hsubjects : item payload "subjects" with
  | error exc =>
    refine ⟨{ message := exc.text, configuration := unknownConfiguration },
      core.pendingCorrelationId, ?_⟩
    rw [exec_tryCatch, tryInit, exec_bind, hsubjects, exec_fromExcept]
    dsimp only
    rw [exec_pure, ← hsi]
  | ok subjects =>
    let request : InitRequest :=
      { subjects
        initLabel := Json.get payload "init_label"
        appId := Json.get payload "app_id"
        appName := Json.get payload "app_name" }
    let asked : Core := { core with pendingCorrelationId := correlationId }
    obtain ⟨hcore, hevents, failure, hresult, -⟩ :=
      @Host.RunsInitCore.left_alone host S M hinit request asked hflag
    refine ⟨failure, correlationId, ?_⟩
    have hpending : (setPending correlationId).exec s = (.ok (), { s with si := some asked }) := by
      simp only [setPending, onCore, call, exec_of, hsi, Option.map_some, List.append_nil]
      rfl
    have hcall : (onCore (host.initCore request)).exec { s with si := some asked } =
        (.ok (.error failure), { s with si := some asked }) := by
      simp only [onCore, call, exec_of, Option.map_some, hcore, hevents, hresult, List.append_nil]
    rw [exec_tryCatch, tryInit, exec_bind, hsubjects, exec_fromExcept]
    dsimp only
    rw [exec_bind, hpending]
    dsimp only
    rw [hcall]

theorem exec_initSystem {S M : Type} (hinit : host.RunsInitCore S M)
    (h : s.requiresRecovery = true) (payload : Fields) (correlationId : Json) :
    ∃ e, (e.type = evtError ∨ e.type = evtNodeInitializationFailed) ∧
      (initSystem host payload correlationId).exec s =
        (.ok (), { s with
          si := s.si.map fun core => { core with pendingCorrelationId := .null }
          emitted := s.emitted ++ [e] }) := by
  obtain ⟨core, hsi, hflag⟩ := requiresRecovery_iff.mp h
  obtain ⟨failure, pending, htry⟩ :=
    exec_tryInit hinit hsi hflag payload (correlationId.orElse (.str host.uuid))
  refine ⟨initFailed (correlationId.orElse (.str host.uuid)) s.nodeId
    (Json.get payload "initialization_id") failure, ?_, ?_⟩
  · unfold initFailed
    dsimp only
    split
    · exact .inr rfl
    · exact .inl rfl
  · rw [initSystem, exec_reading, exec_bind, htry, hsi]
    dsimp only
    rw [exec_bind, emit, exec_of]
    simp only [clearPending, call, exec_of, Option.map_some, List.append_nil]

/-- `init_core` refuses, where the handler lets INIT pass. -/
theorem refused_initSystem {S M : Type} (hinit : host.RunsInitCore S M)
    (h : s.requiresRecovery = true) (payload : Json) :
    Refused host (.str Command.initSystem.text) payload prepared s := by
  obtain ⟨core, hsi, -⟩ := requiresRecovery_iff.mp h
  cases hpayload : fieldsOf payload with
  | error exc => exact refused_of_not_obj hsi hpayload
  | ok fields =>
    have hrefused : askedOf s.requiresRecovery (.str Command.initSystem.text) resetFirst =
        .ok false := by
      rw [askedOf_text, show decide (Command.initSystem ∈ resetFirst) = false from rfl,
        Bool.and_false]
    have hstep (flag : Bool) : askedOf flag (.str Command.initSystem.text) stepCommands =
        .ok false := by
      rw [askedOf_text, show decide (Command.initSystem ∈ stepCommands) = false from rfl,
        Bool.and_false]
    have hwaits : askedOf s.busy (.str Command.initSystem.text) sequenceFirst = .ok s.busy := by
      rw [askedOf_text, show decide (Command.initSystem ∈ sequenceFirst) = true from rfl,
        Bool.and_true]
    have hlocal : (handleLocal host (.str Command.initSystem.text) payload prepared).exec s =
        (if s.busy = true then
          emitError (Json.get fields "correlation_id")
            "Connect All is still in progress; wait for completion or Reset"
        else initSystem host fields (Json.get fields "correlation_id")).exec s := by
      rw [handleLocal, exec_bind, hpayload, exec_fromExcept]
      dsimp only
      rw [handleFields, exec_reading, exec_bind, hrefused, exec_fromExcept]
      dsimp only
      rw [if_neg Bool.false_ne_true, exec_bind, hstep, exec_fromExcept]
      dsimp only
      rw [if_neg Bool.false_ne_true, Command.ofType_text, if_neg (by simp), exec_bind, hwaits,
        exec_fromExcept]
      rfl
    by_cases hbusy : s.busy = true
    · rw [if_pos hbusy] at hlocal
      exact refused_of_emitted hsi rfl hlocal
    · rw [if_neg hbusy] at hlocal
      obtain ⟨e, htype, hexec⟩ := exec_initSystem hinit h fields (Json.get fields "correlation_id")
      refine ⟨.ok (), .null, [e], hlocal.trans hexec, ?_, fun _ => List.cons_ne_nil _ _⟩
      rintro e' he'
      rw [List.mem_singleton.mp he']
      exact htype

theorem refused_of_requiresRecovery {S M : Type} (hinit : host.RunsInitCore S M)
    (h : s.requiresRecovery = true) {c : Command} (hc : c ∈ configuredFirst) (payload : Json) :
    Refused host (.str c.text) payload prepared s := by
  obtain rfl | hc := List.mem_cons.mp hc
  · exact refused_initSystem hinit h payload
  · exact refused_of_resetFirst h hc payload

end Refusals

/-! ## A rejected configuration -/

/-- **A rejected configuration.** Before the installation the Core is as it was. Behind it only the
devices are changed and recovery is required, and whatever happens on the node, a new configuration
and the commands that use the devices are refused until a Reset has found the Core ready. -/
theorem rejection_atomic {S M : Type} {env : Reconfigure.Env S M} {request : Reconfigure.Request}
    {c c' : Reconfigure.Core S M} {e : Reconfigure.InitializationError}
    (h : (Reconfigure.initCore env request).exec c = (.error e, c')) :
    (¬ Reconfigure.Begins env request c → c' = c) ∧
      (Reconfigure.Begins env request c →
        c' = { c with devices := c'.devices, initializationRequiresRecovery := true } ∧
          ∀ s t core, s.si = some core →
            core.initializationRequiresRecovery = c'.initializationRequiresRecovery →
              Machine.Run recoveryStep (Waits S M) s t →
                ∀ host : Host, host.RunsInitCore S M → ∀ command ∈ configuredFirst,
                  ∀ payload prepared, Refused host (.str command.text) payload prepared t) := by
  obtain ⟨-, hbefore, hbehind⟩ := Reconfigure.initCore_error h
  refine ⟨hbefore, fun hbegins => ⟨hbehind hbegins, ?_⟩⟩
  intro s t core hsi hshown hrun host hinit command hcommand payload prepared
  have hflag : core.initializationRequiresRecovery = true := by
    rw [hshown, hbehind hbegins]
  have hs : s.requiresRecovery = true := requiresRecovery_iff.mpr ⟨core, hsi, hflag⟩
  exact refused_of_requiresRecovery hinit (requiresRecovery_run hs hrun) hcommand payload

/-! ## A sensor manager that raises -/

/-- The sensor manager raises when it is given the sensors. -/
def strandedEnv : Reconfigure.Env Unit Unit where
  rt := Config.imuRuntime
  maxTotalSensors := 8
  graphException := ⟨"KeyError", "'sensors'"⟩
  initSensorManager _ := fun _ => (.error ⟨"RuntimeError", "adapter is gone"⟩, ())
  resetCompute := fun _ => (.ok (), ())
  registerCallbacks := fun _ => (.ok (), ())
  mkdir _ := .ok ()

def oneSubject : Reconfigure.Request := { subjectsConfig := .arr [Config.imuSubject "p1" 60] }

/-- A coordinated stream waits for its official start, which `init_core` does not take for an
acquisition. -/
def readyCore : Reconfigure.Core Unit Unit where
  site := "lab"
  nodeId := "standalone"
  subjects := [{ subjectId := .str "p1", sensorConfigs := [], sensors := [] }]
  files :=
    { manager := { site := "lab", baseRoot := ["nexus_n3_outputs"] }
      baseDir := ["nexus_n3_outputs", "lab"] }
  streamPhase := .readyForOfficial
  devices := ()

def strandedCore : Reconfigure.Core Unit Unit :=
  { readyCore with initializationRequiresRecovery := true }

/-- A Core that shows this one. -/
def ofShown (base : Core) : Reconfigure.Core Unit Unit where
  site := "lab"
  nodeId := "standalone"
  subjects := base.subjects.map fun subjectId =>
    { subjectId := .str subjectId, sensorConfigs := [], sensors := [] }
  files := { manager := { site := "lab", baseRoot := [base.baseRoot] }, baseDir := [] }
  pendingCorrelationId := base.pendingCorrelationId
  connectionSequence := base.connectionSequence
  recoveryInProgress := base.recoveryInProgress
  streamStopFinalizationPending := base.streamStopFinalizationPending
  initializationRequiresRecovery := base.initializationRequiresRecovery
  registry := base.registry
  devices := ()

theorem shown_ofShown (base : Core) : Reconfigure.shown (ofShown base) = base := by
  have hsubjects : base.subjects.map (fun subjectId => ((Value.str subjectId).asText).getD "") =
      base.subjects := List.map_id _
  simp [Reconfigure.shown, ofShown, Function.comp_def, hsubjects]

/-- What the handler reads of an exception of `init_core`. -/
def failureOf (e : Reconfigure.InitializationError) : InitializationFailure where
  message := e.message
  configuration :=
    { configurationState := e.configurationState
      recoveryRequired := e.recoveryRequired
      others := [] }

def shownEnd :
    Except Reconfigure.InitializationError Reconfigure.Installed →
      Except InitializationFailure Fields
  | .ok _ => .ok []
  | .error e => .error (failureOf e)

def strandedHost : Host :=
  { quietHost with
    initCore := fun _ base =>
      let end_ := (Reconfigure.initCore strandedEnv oneSubject).exec (ofShown base)
      { result := .ok (shownEnd end_.1), core := fun _ => Reconfigure.shown end_.2 } }

theorem strandedHost_runsInitCore : strandedHost.RunsInitCore Unit Unit := by
  intro request base
  refine ⟨ofShown base, strandedEnv, oneSubject, shown_ofShown base, rfl, rfl, ?_⟩
  cases h : ((Reconfigure.initCore strandedEnv oneSubject).exec (ofShown base)).1 with
  | ok _ => exact ⟨[], by simp only [strandedHost, h, shownEnd]⟩
  | error e => exact ⟨failureOf e, by simp only [strandedHost, h, shownEnd], rfl, rfl⟩

theorem strandedHost_keepsRecovery : strandedHost.KeepsRecovery where
  request _ _ h := h
  hasActiveStreams _ h := h
  beforeStreamStart _ h := h
  afterStreamStop _ h := h
  usbMountHandler _ h := h
  usbUnmountHandler _ h := h
  robotOnMessage _ _ h := h

def strandedNode : MessageHandler where
  site := "lab"
  nodeId := "standalone"
  isReady := true
  si := some (Reconfigure.shown strandedCore)

/-- A Reset that leaves devices behind. -/
def unreadyReport : Except Raised Json :=
  .ok (.obj [("core_ready_for_configuration", .bool false)])

theorem rejection_atomic_stranded :
    (Reconfigure.initCore strandedEnv oneSubject).exec readyCore =
        (.error (Reconfigure.initializationError readyCore strandedCore oneSubject
          ⟨"RuntimeError", "adapter is gone"⟩), strandedCore) ∧
      strandedCore = { readyCore with initializationRequiresRecovery := true } ∧
        ∃ t, Machine.Run recoveryStep (Waits Unit Unit) strandedNode t ∧
          ∀ command ∈ configuredFirst,
            Refused strandedHost (.str command.text) (.obj []) false t := by
  obtain ⟨-, hbehind⟩ :=
    @rejection_atomic Unit Unit strandedEnv oneSubject readyCore strandedCore _ rfl
  obtain ⟨hcore, hrefused⟩ := hbehind ⟨_, rfl⟩
  have hdiscovered : Machine.Run recoveryStep (Waits Unit Unit) strandedNode _ :=
    .tail (.handled strandedHost (.str Command.discoverSensors.text) (.obj []) false) .refl
      ⟨strandedHost_runsInitCore, strandedHost_keepsRecovery, by decide⟩ rfl
  have hreset : Machine.Run recoveryStep (Waits Unit Unit) strandedNode _ :=
    .tail (.resetFinished unreadyReport) hdiscovered rfl rfl
  refine ⟨rfl, hcore, _, hreset, fun command hcommand => ?_⟩
  exact hrefused strandedNode _ _ rfl rfl hreset strandedHost strandedHost_runsInitCore command
    hcommand _ _

/-- The setup puts a new Core in the place of the old one. -/
def setUpNode : MessageHandler :=
  ((handleLocal strandedHost (.str Command.systemSetup.text) (.obj []) false).exec strandedNode).2

theorem not_refused_of_silent {host : Host} {type payload : Json} {prepared : Bool}
    {s t : MessageHandler} (hexec : (handleLocal host type payload prepared).exec s = (.ok (), t))
    (hsilent : t.emitted = s.emitted) : ¬ Refused host type payload prepared s := by
  rintro ⟨r, pending, events, h, -, hsome⟩
  rw [hexec] at h
  cases h
  exact hsome rfl (List.append_right_eq_self.mp hsilent)

/-- Recovery may be required before, the official start is not refused while it is, and after a
setup nothing is, without a Reset. -/
theorem rejection_not_atomic :
    (∃ e, (Reconfigure.initCore strandedEnv oneSubject).exec strandedCore = (.error e, strandedCore)
        ∧ ¬ Reconfigure.Begins strandedEnv oneSubject strandedCore
          ∧ strandedCore.initializationRequiresRecovery = true) ∧
      (∃ e, (Reconfigure.initCore strandedEnv oneSubject).exec readyCore = (.error e, strandedCore)
        ∧ Reconfigure.Begins strandedEnv oneSubject readyCore
          ∧ strandedNode.si = some (Reconfigure.shown strandedCore)) ∧
        ¬ Refused strandedHost (.str Command.startOfficialStream.text) (.obj []) false
          strandedNode ∧
          ¬ Refused strandedHost (.str Command.discoverSensors.text) (.obj []) false
            setUpNode := by
  refine ⟨⟨_, rfl, ?_, rfl⟩, ⟨_, rfl, ⟨_, rfl⟩, rfl⟩, ?_, ?_⟩
  · rintro ⟨c', hbegins⟩
    cases hbegins
  · exact not_refused_of_silent rfl rfl
  · exact not_refused_of_silent rfl rfl

end NexusN3.Messaging
