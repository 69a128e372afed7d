import NexusN3.Master.Node

/-!
# The stream side of the master

Two halves of the master hardly meet: the initialization, and the streams with their two
barriers. `Master.streams` is the second half. A step leaves it alone, or it is a START that
was admitted, a STOP, a commit of a complete record, or one of the two barriers hearing
something (`StreamMove`). The cases are read off the code once, in `streamMove_of_step`.
-/

namespace NexusN3

open Lib

namespace Master

/-- Both barriers, and the messages they let out. -/
def streams (w : Master) : DrainDesk × OfficialDesk × List StartMessage × List CommitMessage :=
  (w.desk, w.official, w.starts, w.commits)

/-- The START a step admits: by which method, with which payload. -/
def startedBy (w : Master) : MasterAction → Option (Bool × StartCommand × DispatchEnv)
  | .dispatch (.startStreamForAll p) env => if w.unsettled then none else some (false, p, env)
  | .dispatch (.startStreamForSubjects p) env => if w.unsettled then none else some (true, p, env)
  | _ => none

/-- What a step does to the drain barrier. -/
def drainAction (w : Master) : MasterAction → Option DrainAction
  | .dispatch (.startStreamForAll p) _ | .dispatch (.startStreamForSubjects p) _ =>
    if w.unsettled then none else some (.start (w.targets p.ids))
  | .dispatch (.stopStreamForAll p) env | .dispatch (.stopStreamForSubjects p) env =>
    some (.create ((truthy p.stopSessionId).getD env.uuid)
      (if p.subjectIds = [] then "all" else "subjects") (w.targets p.subjectIds)
      (w.targetNodes p.subjectIds))
  | .drainAck node ev callback => some (.ack node ev callback)
  | .drainAdvance i e => some (.advance i e)
  | _ => none

/-- What one step does to the streams. -/
inductive StreamMove (w : Master) (a : MasterAction) (w' : Master) : Prop where
  | none (hstart : w.startedBy a = none) (hdrain : w.drainAction a = none)
      (hstreams : w'.streams = w.streams)
  | start (specific : Bool) (p : StartCommand) (env : DispatchEnv)
      (hstart : w.startedBy a = some (specific, p, env))
      (hdrain : w.drainAction a = some (.start (w.targets p.ids)))
      (hw : w' = w.dispatchStart specific p env)
  | commit (sid : Option String) (official : OfficialDesk) (commits : List CommitMessage)
      (hstart : w.startedBy a = .none) (hdrain : w.drainAction a = .none)
      (hok : w.official.dispatchCommit sid = .ok (official, commits))
      (hw : w' = { w with official := official, commits := w.commits ++ commits })
  | drain (b : DrainAction) (desk : DrainDesk) (hstart : w.startedBy a = .none)
      (hdrain : w.drainAction a = some b) (hstep : w.desk.step b = some desk)
      (hw : w' = { w with desk := desk }) (hother : ∀ ids, b ≠ .start ids)
  | official (node : NodeId) (ev : CoreEvent) (ha : a = .officialEvent node ev)
      (hw : w' = { w with official := w.official.recordOfficialStartEvent node ev })

variable {lower : String → String} {w w' : Master}

/-- An admitted START, as the command it was. -/
theorem startedBy_eq_some {a : MasterAction} {specific : Bool} {p : StartCommand} {env : DispatchEnv}
    (h : w.startedBy a = some (specific, p, env)) : w.unsettled = false
      ∧ (a = .dispatch (.startStreamForAll p) env ∨ a = .dispatch (.startStreamForSubjects p) env) := by
  unfold startedBy at h
  split at h
  · split at h <;> cases h
    rename_i hopen
    exact ⟨by simpa using hopen, .inl rfl⟩
  · split at h <;> cases h
    rename_i hopen
    exact ⟨by simpa using hopen, .inr rfl⟩
  · cases h

/-! ## The initialization side -/

theorem streams_begin {subjects : Option (List SubjectConf)} {env : DispatchEnv}
    (h : w.beginInitialization lower subjects env = some w') : w'.streams = w.streams := by
  unfold beginInitialization at h
  dsimp only at h
  split at h
  · cases h
    rfl
  · split at h
    · cases h
      rfl
    · split at h <;> cases h
      rfl

theorem streams_disconnectAll (recoverSession : Bool) (env : DispatchEnv) :
    (w.disconnectAll recoverSession env).streams = w.streams := by
  unfold disconnectAll
  split
  · rfl
  · dsimp only
    split <;> rfl

theorem streams_failPending (id : String) (failure : InitFailure) :
    (w.failPending id failure).streams = w.streams := by
  unfold failPending
  split
  · rfl
  · split <;> rfl

theorem streams_reply (node : NodeId) (event : InitEvent) (p : InitReply) :
    (w.recordInitializationReply node event p).streams = w.streams := by
  unfold recordInitializationReply
  split
  · rfl
  · split
    · dsimp only
      split
      · split <;> rfl
      · rfl
    · rfl

theorem streams_recovery (p : CleanupReport) :
    (w.recordInitializationRecovery p).streams = w.streams := by
  unfold recordInitializationRecovery
  split
  · split
    · dsimp only
      split <;> rfl
    · rfl
  · rfl

/-! ## The cases of a step -/

/-- Both starts are the same to the master, but for the method they name. -/
theorem streamMove_start {specific : Bool} {p : StartCommand} {env : DispatchEnv} {a : MasterAction}
    (hstart : w.startedBy a = if w.unsettled then none else some (specific, p, env))
    (hdrain : w.drainAction a = if w.unsettled then none else some (.start (w.targets p.ids)))
    {message : String}
    (h : (if w.unsettled then some (w.refuse message env) else some (w.dispatchStart specific p env))
      = some w') : StreamMove w a w' := by
  cases hopen : w.unsettled with
  | true =>
    rw [hopen, if_pos rfl] at hstart hdrain h
    cases h
    exact .none hstart hdrain rfl
  | false =>
    rw [hopen, if_neg (by simp)] at hstart hdrain h
    cases h
    exact .start specific p env hstart hdrain rfl

theorem streamMove_dispatch {cmd : Command} {env : DispatchEnv}
    (h : w.dispatchCommand lower cmd env = some w') : StreamMove w (.dispatch cmd env) w' := by
  unfold dispatchCommand at h
  cases cmd with
  | startStreamForAll p =>
    simp only [Command.needsOwnership, Bool.and_true, Command.needsConnectIdle, Bool.and_false,
      Bool.false_eq_true, if_false] at h
    exact streamMove_start rfl rfl h
  | startStreamForSubjects p =>
    simp only [Command.needsOwnership, Bool.and_true, Command.needsConnectIdle, Bool.and_false,
      Bool.false_eq_true, if_false] at h
    exact streamMove_start rfl rfl h
  | stopStreamForAll p | stopStreamForSubjects p =>
    simp only [Command.needsOwnership, Bool.and_false, Command.needsConnectIdle,
      Bool.false_eq_true, if_false] at h
    cases h
    exact .drain _ _ rfl rfl rfl rfl nofun
  | startOfficialStream startSessionId =>
    simp only [Command.needsOwnership, Bool.and_false, Command.needsConnectIdle,
      Bool.false_eq_true, if_false] at h
    cases h
    unfold dispatchCommit
    split
    · exact .none rfl rfl rfl
    · exact .none rfl rfl rfl
    · -- a commit goes out for a complete record only
      rename_i hok
      exact .commit startSessionId _ _ rfl rfl hok rfl
  | initSystem subjects =>
    refine .none rfl rfl ?_
    split at h
    · cases h
      rfl
    · split at h
      · cases h
        rfl
      · exact streams_begin h
  | disconnectAll recoverSession =>
    refine .none rfl rfl ?_
    simp only [Command.needsOwnership, Bool.and_false, Command.needsConnectIdle,
      Bool.false_eq_true, if_false] at h
    split at h <;> cases h
    · rfl
    · exact streams_disconnectAll _ _
  | disconnectSubjects subjectIds =>
    refine .none rfl rfl ?_
    simp only [Command.needsOwnership, Bool.and_false, Command.needsConnectIdle,
      Bool.false_eq_true, if_false] at h
    split at h <;> cases h <;> rfl
  | _ =>
    refine .none rfl rfl ?_
    split at h
    · cases h
      rfl
    · split at h <;> cases h <;> rfl

/-- **The stream side of every step.** -/
theorem streamMove_of_step {a : MasterAction} (h : w.step lower a = some w') : StreamMove w a w' := by
  cases a with
  | dispatch cmd env => exact streamMove_dispatch h
  | dispatchRaises error =>
    obtain ⟨id, -, rfl⟩ := Option.map_eq_some_iff.mp h
    exact .none rfl rfl (streams_failPending _ _)
  | dispatchEnds =>
    obtain ⟨id, -, rfl⟩ := Option.map_eq_some_iff.mp h
    exact .none rfl rfl rfl
  | expire id =>
    have hexpire : (if id ∈ w.history.begun then some (w.failPending id .timedOut) else none)
        = some w' := h
    split at hexpire <;> cases hexpire
    exact .none rfl rfl (streams_failPending _ _)
  | reply node event p =>
    cases h
    exact .none rfl rfl (streams_reply node event p)
  | cleanupComplete p =>
    cases h
    exact .none rfl rfl (streams_recovery p)
  | registerNode node entry =>
    cases h
    exact .none rfl rfl rfl
  | drainAck node ev callback =>
    cases h
    exact .drain _ _ rfl rfl rfl rfl nofun
  | drainAdvance i e =>
    obtain ⟨desk, hdesk, rfl⟩ := Option.map_eq_some_iff.mp h
    exact .drain _ desk rfl rfl hdesk rfl nofun
  | officialEvent node ev =>
    cases h
    exact .official node ev rfl rfl

/-- **The drain barrier inside the master**: each step is a step of the barrier, or leaves
it. -/
theorem desk_of_step {a : MasterAction} (h : w.step lower a = some w') :
    match w.drainAction a with
    | none => w'.desk = w.desk
    | some b => w.desk.step b = some w'.desk := by
  cases streamMove_of_step h with
  | none hstart hdrain hstreams =>
    rw [hdrain]
    exact congrArg Prod.fst hstreams
  | start specific p env hstart hdrain hw =>
    rw [hdrain, hw]
    rfl
  | commit sid official commits hstart hdrain hok hw =>
    rw [hdrain, hw]
  | drain b desk hstart hdrain hstep hw hother =>
    rw [hdrain, hw]
    exact hstep
  | official node ev ha hw =>
    rw [ha, hw]
    rfl

end Master

end NexusN3
