import NexusN3.Core.Sections

/-!
# The archive of a session

`finalize_distributed_session` and what the rest of the Core does to the three values it
reads: the session timestamp, the timestamp archived last, and the archives made
(`SessionRecord`). Only the writes of a start and a finished Reset put another timestamp in
place; every other section leaves the record, or archives it (`KeepsSession`).

* **`SessionRecord.settled`** — the archives of a timestamp, one still due counted as made.
  Archiving does not move it, so a count read when a start has written holds for the rest of
  the session.
* **`World.keepsSession_step`** — every step of a Core that is neither a start nor the end of
  a Reset.
-/

namespace NexusN3

/-! ## Session records -/

structure SessionRecord where
  timestamp : Option String
  archivedTimestamp : Option String
  archives : List (Option String)
  deriving DecidableEq

namespace SessionRecord

variable (r : SessionRecord) (ts : String)

def archive : SessionRecord :=
  if r.timestamp.getD "" = "" then r
  else if r.archivedTimestamp = r.timestamp then r
  else { r with archivedTimestamp := r.timestamp, archives := r.archives ++ [r.timestamp] }

/-- The record carries the timestamp and has not archived it. -/
def Due : Prop := r.timestamp = some ts ∧ r.archivedTimestamp ≠ some ts

instance : Decidable (r.Due ts) := inferInstanceAs (Decidable (_ ∧ _))

/-- How often the timestamp was archived. -/
def made : Nat := r.archives.count (some ts)

def settled : Nat := r.made ts + if r.Due ts then 1 else 0

theorem made_le_settled : r.made ts ≤ r.settled ts := by
  unfold settled
  omega

@[simp] theorem archive_timestamp : r.archive.timestamp = r.timestamp := by
  unfold archive
  split
  · rfl
  · split <;> rfl

/-- Afterwards nothing is due. -/
theorem not_due_archive {ts : String} (hts : ts ≠ "") : ¬ r.archive.Due ts := by
  intro ⟨htimestamp, harchived⟩
  rw [archive_timestamp] at htimestamp
  have hne : ¬ r.timestamp.getD "" = "" := by
    rw [htimestamp]
    exact hts
  unfold archive at harchived
  rw [if_neg hne] at harchived
  split at harchived
  · rename_i hdone
    exact harchived (hdone.trans htimestamp)
  · exact harchived htimestamp

theorem settled_archive {ts : String} (hts : ts ≠ "") : r.archive.settled ts = r.settled ts := by
  have hnot := r.not_due_archive hts
  show r.archive.made ts + (if r.archive.Due ts then 1 else 0) = r.settled ts
  rw [if_neg hnot]
  by_cases hdue : r.Due ts
  · -- the one that was due is the one appended
    have hmade : r.archive.made ts = r.made ts + 1 := by
      have hne : ¬ r.archivedTimestamp = r.timestamp := fun h => hdue.2 (h.trans hdue.1)
      have hname : ¬ r.timestamp.getD "" = "" := by
        rw [hdue.1]
        exact hts
      unfold archive made
      rw [if_neg hname, if_neg hne]
      show (r.archives ++ [r.timestamp]).count (some ts) = _
      rw [List.count_append, hdue.1, List.count_singleton_self]
    rw [hmade, settled, if_pos hdue]
  · have hmade : r.archive.made ts = r.made ts := by
      unfold archive made
      split
      · rfl
      · split
        · rfl
        · rename_i hne
          have hother : r.timestamp ≠ some ts := fun h => hdue ⟨h, fun ha => hne (ha.trans h.symm)⟩
          show (r.archives ++ [r.timestamp]).count (some ts) = _
          rw [List.count_append, List.count_singleton, if_neg (by simpa using hother)]
          rfl
    rw [hmade, settled, if_neg hdue]

end SessionRecord

namespace Core

def session (c : Core) : SessionRecord :=
  { timestamp := c.sessionTimestamp, archivedTimestamp := c.archivedSessionTimestamp
    archives := c.archives }

theorem finalizeSessionArchive_session (c : Core) :
    c.finalizeSessionArchive.session = c.session.archive := by
  unfold finalizeSessionArchive SessionRecord.archive
  show session _ = if c.sessionTimestamp.getD "" = "" then _
    else if c.archivedSessionTimestamp = c.sessionTimestamp then _ else _
  split
  · rfl
  · split <;> rfl

/-! ## Finalizing a distributed session -/

/-- How an f-string shows an optional text with `!r`. -/
def pyRepr : Option String → String
  | none => "None"
  | some text => "'" ++ text ++ "'"

/-- `finalize_distributed_session`. -/
def finalizeDistributedSession (c : Core) (sessionTimestamp : Option String) :
    Core × Except String Unit :=
  if sessionTimestamp.getD "" ≠ "" ∧ pyStr sessionTimestamp ≠ pyStr c.sessionTimestamp then
    (c, .error ("Refusing to finalize distributed session " ++ pyRepr sessionTimestamp
      ++ "; active session is " ++ pyRepr c.sessionTimestamp))
  else (c.finalizeSessionArchive, .ok ())

/-- The session stays; at most it is archived. -/
def KeepsSession (c c' : Core) : Prop :=
  c'.session = c.session ∨ c'.session = c.session.archive

theorem KeepsSession.refl (c : Core) : KeepsSession c c := .inl rfl

theorem KeepsSession.timestamp {c c' : Core} (h : KeepsSession c c') :
    c'.sessionTimestamp = c.sessionTimestamp := by
  rcases h with h | h
  · exact congrArg SessionRecord.timestamp h
  · exact (congrArg SessionRecord.timestamp h).trans (SessionRecord.archive_timestamp _)

theorem KeepsSession.settled {c c' : Core} (h : KeepsSession c c') {ts : String} (hts : ts ≠ "") :
    c'.session.settled ts = c.session.settled ts := by
  rcases h with h | h
  · rw [h]
  · rw [h, SessionRecord.settled_archive _ hts]

theorem keepsSession_finalize (c : Core) (sessionTimestamp : Option String) :
    KeepsSession c (c.finalizeDistributedSession sessionTimestamp).1 := by
  unfold finalizeDistributedSession
  split
  · exact .refl c
  · exact .inr c.finalizeSessionArchive_session

/-- A Core that carries the timestamp finalizes it, and then has nothing left to archive. -/
theorem finalizeDistributedSession_carried {c : Core} {ts : String}
    (h : c.sessionTimestamp = some ts) :
    c.finalizeDistributedSession (some ts) = (c.finalizeSessionArchive, .ok ()) := by
  rw [finalizeDistributedSession, h]
  exact if_neg fun hne => hne.2 rfl

/-! ## Starts, the gate and the commit -/

theorem keepsSession_startAccept {c c' : Core} (h : c.startAccept = .ok c') : KeepsSession c c' := by
  unfold startAccept at h
  split at h
  · cases h
  · split at h <;> cases h
    exact .inl rfl

theorem keepsSession_activate (c : Core) (env : ActivationEnv) :
    KeepsSession c (c.activateOfficialStreaming env).1 :=
  .inl (activate_field c env session fun _ => rfl)

theorem keepsSession_prepare (c : Core) (failure : Option OutputFailure) :
    KeepsSession c (c.prepareOfficialPersistence failure).1 :=
  .inl ((prepareOfficialPersistence_same c failure).field session rfl)

theorem keepsSession_gateDecide (c : Core) (token : Nat) (env : ActivationEnv) :
    KeepsSession c (c.gateDecide token env).1 := by
  unfold gateDecide
  split
  · exact .refl c
  · split
    · exact .refl c
    · split
      · exact .inl rfl
      · have hact := keepsSession_activate (c.setPhase .activatingOfficial) env
        split
        · rename_i heq
          rw [heq] at hact
          exact hact
        · rename_i heq
          rw [heq] at hact
          exact hact

theorem keepsSession_gatePrepareFailed (c : Core) (token : Nat) (e : String) :
    KeepsSession c (c.gatePrepareFailed token e) := by
  unfold gatePrepareFailed
  split <;> exact .inl rfl

theorem keepsSession_gateReady {c c' : Core} {token : Nat} (h : c.gateReady token = some c') :
    KeepsSession c c' := by
  unfold gateReady at h
  split at h
  · cases h
  · cases h
    exact .inl rfl

theorem keepsSession_gateTimeout (c : Core) (token : Nat) :
    KeepsSession c (c.gateTimeout token) := by
  unfold gateTimeout
  split
  · exact .refl c
  · split <;> exact .inl rfl

theorem keepsSession_retryStartup (c : Core) (token : Nat) (now : ℚ) :
    KeepsSession c (c.retryStartup token now) := by
  unfold retryStartup
  split
  · exact .refl c
  · split <;> exact .inl rfl

theorem keepsSession_commitBegin {c c' : Core} {p : CommitPayload}
    (h : c.commitBegin p = .begin c') : KeepsSession c c' := by
  unfold commitBegin at h
  repeat' split at h
  all_goals cases h
  exact .inl rfl

/-! ## Stops -/

theorem keepsSession_stopEnter (c : Core) (r : StopRequest) : KeepsSession c (c.stopEnter r) := by
  unfold stopEnter
  dsimp only
  split <;> exact .inl rfl

theorem keepsSession_updateStopped (c : Core) (r : StopRequest) (f : Subject → Subject) :
    KeepsSession c (c.updateStopped r f) := by
  unfold updateStopped
  split <;> exact .inl rfl

/-- Where a stop without a master's id may archive the session. -/
theorem keepsSession_stopClose (c : Core) (r : StopRequest) (env : StopEnv) :
    KeepsSession c (c.stopClose r env) := by
  unfold stopClose
  dsimp only
  generalize env.physical.stopResults _ = results
  split
  · exact .inl rfl
  · exact .inr (c.recordStopResults results).finalizeSessionArchive_session

theorem keepsSession_stopFinish (c : Core) : KeepsSession c c.stopFinish := by
  cases hact : c.hasActiveStreams with
  | true =>
    rw [stopFinish_of_active hact]
    exact .inl rfl
  | false =>
    rw [stopFinish_of_quiet hact]
    exact .inl rfl

theorem keepsSession_stopStage (c : Core) (r : StopRequest) (env : StopEnv) (stage : StopStage) :
    KeepsSession c (stage.advance c r env).1 := by
  cases stage with
  | issue =>
    show KeepsSession c (c.stopIssue r)
    unfold stopIssue
    split <;> exact .inl rfl
  | collect =>
    show KeepsSession c (c.stopCollect r env.physical)
    unfold stopCollect
    split
    · exact keepsSession_updateStopped c r _
    · exact .refl c
  | flush => exact keepsSession_updateStopped c r flushSubject
  | mark => exact keepsSession_updateStopped c r _
  | close => exact keepsSession_stopClose c r env
  | release _ => exact .inl rfl
  | finish _ => exact keepsSession_stopFinish c

/-! ## The sensor layer and the configuration -/

theorem keepsSession_onStreamStarted (c : Core) : KeepsSession c c.onStreamStarted := by
  unfold onStreamStarted
  split
  · exact .refl c
  · dsimp only
    split <;> exact .inl rfl

/-- The other place that archives: a startup that failed cleans up behind itself. -/
theorem keepsSession_onStreamStopped (c : Core) : KeepsSession c c.onStreamStopped := by
  unfold onStreamStopped
  dsimp only
  split
  · exact .inl rfl
  · split
    · unfold cleanupFailedStartupSession
      dsimp only
      split
      · exact .inl rfl
      · exact .inr (finalizeSessionArchive_session _)
    · exact .inl rfl
    · exact .inl rfl

theorem keepsSession_onData (c : Core) (sample : Sample) (now : ℚ) :
    (c.onData sample now).session = c.session := by
  have hrecord : (c.recordStartupSample sample now).session = c.session := by
    unfold recordStartupSample
    split
    · rfl
    · split
      · rfl
      · split <;> rfl
  have hingest (d : Core) (i : Nat) : (d.ingestSample i sample).session = d.session := by
    unfold ingestSample
    split <;> rfl
  unfold onData
  dsimp only
  split
  · split
    · exact (hingest _ _).trans hrecord
    · exact hrecord
  · exact hrecord

theorem keepsSession_initCore (c : Core) (outcome : Installation) :
    KeepsSession c (c.initCore outcome).1 := by
  unfold initCore
  split
  · exact .refl c
  · split <;> exact .inl rfl

theorem keepsSession_resetSession (c : Core) (refusal : Option String) :
    KeepsSession c (c.resetSession refusal).1 := by
  unfold resetSession
  split
  · exact .refl c
  · split
    · exact .refl c
    · split
      · exact .refl c
      · split <;> exact .inl rfl

end Core

/-! ## One step of a world -/

open NexusN3.Core

theorem keepsSession_sections : SectionRule KeepsSession where
  refl := .refl
  startAccept := fun _ _ h => keepsSession_startAccept h
  startArm := fun _ _ _ => .inl rfl
  gateDecide := keepsSession_gateDecide
  prepare := keepsSession_prepare
  gatePrepareFailed := keepsSession_gatePrepareFailed
  gateReady := fun _ _ _ h => keepsSession_gateReady h
  gateTimeout := keepsSession_gateTimeout
  retryStartup := keepsSession_retryStartup
  activate := keepsSession_activate
  commitRollback := fun _ => .inl rfl
  openOfficial := fun _ => .inl rfl
  stopEnter := keepsSession_stopEnter
  stopStage := keepsSession_stopStage
  stopAbort := fun _ => .inl rfl
  onStreamStarted := keepsSession_onStreamStarted
  onStreamStopped := keepsSession_onStreamStopped
  onData := fun c sample now => .inl (keepsSession_onData c sample now)
  initCore := keepsSession_initCore
  resetSession := keepsSession_resetSession

/-- No call turns into a start that has yet to write. -/
theorem Thread.isStartAccepted_of_advance {c c' : Core} {env : SectionEnv} {t t' : Thread}
    {events : List CoreEvent} (h : t.advance c env = some (c', t', events)) :
    t'.isStartAccepted = false := by
  cases t with
  | done => cases h
  | startAccepted _ specific =>
    cases specific with
    | false =>
      cases h
      rfl
    | true =>
      simp only [Thread.advance] at h
      split at h <;> cases h <;> rfl
  | gatePrepared _ failure =>
    cases failure with
    | some e =>
      cases h
      rfl
    | none =>
      simp only [Thread.advance] at h
      split at h <;> cases h <;> rfl
  | gate _ | gatePreparing _ | commit _ | stop _ _ _ _ =>
    simp only [Thread.advance] at h
    split at h <;> cases h <;> rfl
  | _ =>
    cases h
    rfl

def Action.isStart : Action → Bool
  | .startStream _ | .startStreamForSubjects _ => true
  | _ => false

/-- The steps that put no other session in place: neither a start nor the end of a Reset. -/
def Action.leavesSession : Action → Bool
  | .resetFinished report => report.isNone
  | a => !a.isStart

namespace World

/-- No start has yet to write. -/
def NoStartPending (w : World) : Prop := ∀ t ∈ w.threads, t.isStartAccepted = false

theorem NoStartPending.spawn {w : World} (h : w.NoStartPending) {ts : List Thread}
    (hts : ∀ t ∈ ts, t.isStartAccepted = false) : (w.spawn ts).NoStartPending := by
  intro t ht
  rcases List.mem_append.mp ht with ht | ht
  · exact h t ht
  · exact hts t ht

theorem NoStartPending.setThread {w : World} (h : w.NoStartPending) (i : Nat) {t : Thread}
    (ht : t.isStartAccepted = false) : (w.setThread i t).NoStartPending := by
  intro t' ht'
  rcases List.mem_or_eq_of_mem_set ht' with hin | rfl
  · exact h t' hin
  · exact ht

theorem noStartPending_step {w w' : World} {a : Action} (h : w.step a = some w')
    (ha : a.isStart = false) (hw : w.NoStartPending) : w'.NoStartPending := by
  cases a with
  | startStream p | startStreamForSubjects p => cases ha
  | startOfficialStream p =>
    simp only [step] at h
    split at h <;> cases h
    · exact hw.spawn (by simp [Thread.isStartAccepted])
    · exact hw
    · exact hw
    · exact hw
  | stopStream sid env =>
    cases h
    exact hw.spawn (by simp [Thread.isStartAccepted])
  | stopStreamForSubjects ids sid env =>
    simp only [step] at h
    split at h <;> cases h
    · exact hw.spawn (by simp [Thread.isStartAccepted])
    · exact hw
  | initCore _ | resetSession _ | onData _ _ =>
    cases h
    exact hw
  | resetFinished report =>
    simp only [step] at h
    split at h <;> cases h
    exact hw
  | onStreamStarted =>
    cases h
    refine hw.spawn fun t ht => ?_
    obtain ⟨token, -, rfl⟩ := Option.map_eq_some_iff.mp (Option.mem_toList.mp ht)
    rfl
  | onStreamStopped =>
    cases h
    refine hw.spawn fun t ht => ?_
    split at ht
    · rw [List.mem_singleton.mp ht]
      rfl
    · cases ht
  | advance i env =>
    obtain ⟨t, c, t', events, -, hadv, rfl⟩ := step_advance h
    unfold NoStartPending
    rw [noteStop_threads]
    exact hw.setThread i (Thread.isStartAccepted_of_advance hadv)
  | gateTimeout i =>
    simp only [step] at h
    split at h <;> cases h
    exact hw.setThread i rfl
  | stopRaise i =>
    simp only [step] at h
    split at h
    · split at h <;> cases h
      exact hw.setThread i rfl
    · cases h

/-- **The session outlives every step** but a start and the end of a Reset. -/
theorem keepsSession_step {w w' : World} {a : Action} (h : w.step a = some w')
    (ha : a.leavesSession = true) (hw : w.NoStartPending) : KeepsSession w.core w'.core := by
  refine related_of_step keepsSession_sections h ?_ ?_ ?_
  · intro i env t c t' events _ ht hstart _
    rw [hw t (List.mem_of_getElem? ht)] at hstart
    cases hstart
  · intro p c _ hbegin
    exact keepsSession_commitBegin hbegin
  · rintro report rfl
    cases report with
    | none => exact .inl rfl
    | some ready => cases ha

/-! ## A start run to its end -/

/-- A start method as its caller sees it: the admission, the writes and the arming. -/
def runStart (w : World) (p : StartPayload) (specific : Bool) (env : SectionEnv) : World :=
  let accepted := w.acceptStart p specific
  let written := (accepted.step (.advance w.threads.length env)).getD accepted
  (written.step (.advance w.threads.length env)).getD written

end World

/-- The start is admitted and gets to its writes. -/
def Core.WritesSession (c : Core) (p : StartPayload) (specific : Bool) : Prop :=
  c.StartAdmitted ∧ (specific = true → p.subjectIds ≠ none)

instance (c : Core) : Decidable c.StartAdmitted :=
  inferInstanceAs (Decidable (c.recoveryInProgress = false ∧ c.subjects ≠ []))

instance (c : Core) (p : StartPayload) (specific : Bool) : Decidable (c.WritesSession p specific) :=
  inferInstanceAs (Decidable (_ ∧ _))

/-- The session as a start writes it. -/
def SessionRecord.opened (r : SessionRecord) (timestamp : Option String) : SessionRecord :=
  { r with timestamp := timestamp, archivedTimestamp := none }

/-- The writes of an admitted start, and the call after them. -/
theorem Thread.advance_startAccepted (c : Core) (p : StartPayload) (specific : Bool)
    (env : SectionEnv) : ∃ c' t', Thread.advance c env (.startAccepted p specific) = some (c', t', [])
      ∧ c'.session = (if specific = true → p.subjectIds ≠ none
          then c.session.opened (p.sessionTimestamp.getD (some env.clock)) else c.session)
      ∧ (t' = .done ∨ ∃ idxs, t' = .startWritten idxs) := by
  cases specific with
  | false => exact ⟨_, _, rfl, rfl, .inr ⟨_, rfl⟩⟩
  | true =>
    simp only [Thread.advance, Core.startSubjectsWrites]
    cases hp : p.subjectIds with
    | none =>
      refine ⟨_, _, rfl, ?_, .inl rfl⟩
      rw [if_neg (by simp)]
    | some ids =>
      rw [if_pos (by simp)]
      dsimp only
      cases hids : (c.startWrite p env.clock).getSubjectsByIds ids with
      | error missing => exact ⟨_, _, rfl, rfl, .inl rfl⟩
      | ok idxs => exact ⟨_, _, rfl, rfl, .inr ⟨_, rfl⟩⟩

namespace World

/-- The session after a start that was run to its end. -/
theorem runStart_session {w : World} (hw : w.NoStartPending) (p : StartPayload) (specific : Bool)
    (env : SectionEnv) :
    (w.runStart p specific env).core.session = (if w.core.WritesSession p specific
        then w.core.session.opened (p.sessionTimestamp.getD (some env.clock)) else w.core.session)
      ∧ (w.runStart p specific env).NoStartPending := by
  by_cases hadm : w.core.StartAdmitted
  · -- the call is the last in flight, and stays at its place
    have hat (t : Thread) : (w.threads ++ [t])[w.threads.length]? = some t :=
      List.getElem?_concat_length
    have hset (t t' : Thread) : (w.threads ++ [t]).set w.threads.length t' = w.threads ++ [t'] := by
      simp
    have haccept := acceptStart_of_admitted hadm p specific
    have hthreads : (w.acceptStart p specific).threads = w.threads ++ [.startAccepted p specific] := by
      rw [haccept]
      rfl
    have hcore : (w.acceptStart p specific).core.session = w.core.session := by
      rw [haccept]
      rfl
    obtain ⟨c', t', hadv, hsession, ht'⟩ :=
      Thread.advance_startAccepted (w.acceptStart p specific).core p specific env
    obtain ⟨w₂, hstep₂, hcore₂, hthreads₂⟩ := step_of_advance env (by rw [hthreads, hat]) hadv
    rw [hthreads, hset] at hthreads₂
    have hsession₂ : w₂.core.session = if w.core.WritesSession p specific
        then w.core.session.opened (p.sessionTimestamp.getD (some env.clock))
        else w.core.session := by
      rw [hcore₂, hsession, hcore]
      simp only [Core.WritesSession, hadm, true_and]
    simp only [runStart, hstep₂, Option.getD_some]
    rcases ht' with rfl | ⟨idxs, rfl⟩
    · rw [step_advance_idle env (.inr (by rw [hthreads₂, hat]))]
      refine ⟨hsession₂, ?_⟩
      unfold NoStartPending
      rw [Option.getD_none, hthreads₂]
      exact hw.spawn (by simp [Thread.isStartAccepted])
    · obtain ⟨w₃, hstep₃, hcore₃, hthreads₃⟩ :=
        step_of_advance env (by rw [hthreads₂, hat]) rfl
      rw [hthreads₂, hset] at hthreads₃
      rw [hstep₃, Option.getD_some]
      refine ⟨?_, ?_⟩
      · rw [hcore₃]
        exact hsession₂
      · unfold NoStartPending
        rw [hthreads₃]
        exact hw.spawn (by simp [Thread.isStartAccepted])
  · obtain ⟨e, he⟩ := Core.startAccept_of_not_admitted hadm
    have haccept : w.acceptStart p specific = w := by
      rw [acceptStart, he]
    have hidle : w.step (.advance w.threads.length env) = none :=
      step_advance_idle env (.inl (by simp))
    simp only [runStart, haccept, hidle, Option.getD_none]
    rw [if_neg fun h => hadm h.1]
    exact ⟨rfl, hw⟩

/-- It is made of steps of the Core. -/
theorem runStart_reach (w : World) (p : StartPayload) (specific : Bool) (env : SectionEnv) :
    Lib.Machine.Reach step w (w.runStart p specific env) := by
  have hsection (v : World) (i : Nat) : Lib.Machine.Reach step v ((v.step (.advance i env)).getD v) := by
    cases hv : v.step (.advance i env) with
    | none => exact .refl
    | some v' => exact .tail _ .refl trivial hv
  have haccept : Lib.Machine.Reach step w (w.acceptStart p specific) := by
    cases specific with
    | false => exact .tail (.startStream p) .refl trivial rfl
    | true => exact .tail (.startStreamForSubjects p) .refl trivial rfl
  exact (haccept.trans (hsection _ _)).trans (hsection _ _)

end World

end NexusN3
