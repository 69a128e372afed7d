import NexusN3.Connection.Sequence

/-!
# Connect All is single-flight

Read off the log: at most one step is outstanding at any point of it, no step is dispatched
while one is, and a sequence id that has come to its terminal progress is not used again.

* **`Disciplined`** — every entry of the log was allowed by those before it (`Allows`).
* **`Flight`** — the state invariant: the log is disciplined, what is outstanding is the
  pending step, and an active sequence has not ended.
* **`singleFlight_of_reachable`** — the five facts together, for every reachable state.
-/

namespace NexusN3.Connection

open Lib

/-! ## The log -/

/-- The tokens of the steps dispatched and not let go, behind those of `tokens`. -/
def outstandingFrom : List String → List Entry → List String
  | tokens, [] => tokens
  | tokens, .dispatched c :: rest => outstandingFrom (c.token :: tokens) rest
  | tokens, .released token :: rest => outstandingFrom (tokens.erase token) rest
  | tokens, .progress _ :: rest => outstandingFrom tokens rest
  | tokens, .busy _ _ _ :: rest => outstandingFrom tokens rest
  | tokens, .identify _ _ _ _ _ :: rest => outstandingFrom tokens rest
  | tokens, .identifyError _ _ _ _ :: rest => outstandingFrom tokens rest

def outstanding (log : List Entry) : List String := outstandingFrom [] log

/-- The sequence id of a terminal progress. -/
def Entry.terminal? : Entry → Option String
  | .progress p =>
    match p.phase with
    | .completed => p.connectionSequenceId
    | .failed => p.connectionSequenceId
    | _ => none
  | _ => none

/-- The sequence id of a discover or connect step. -/
def Entry.stepOf? : Entry → Option String
  | .dispatched c => c.sequenceId
  | _ => none

/-- A step is dispatched with none outstanding, and neither a step nor a terminal progress
comes behind the terminal progress of its sequence. -/
structure Allows (log : List Entry) (e : Entry) : Prop where
  step : ∀ c, e = .dispatched c → outstanding log = []
  last : ∀ id, e.terminal? = some id ∨ e.stepOf? = some id → ∀ e' ∈ log, e'.terminal? ≠ some id

def Disciplined (log : List Entry) : Prop :=
  ∀ before e after, log = before ++ e :: after → Allows before e

theorem outstandingFrom_append (tokens : List String) (a b : List Entry) :
    outstandingFrom tokens (a ++ b) = outstandingFrom (outstandingFrom tokens a) b := by
  induction a generalizing tokens with
  | nil => rfl
  | cons e rest ih =>
      cases e <;> exact ih _

theorem outstanding_append (a b : List Entry) :
    outstanding (a ++ b) = outstandingFrom (outstanding a) b :=
  outstandingFrom_append [] a b

theorem disciplined_nil : Disciplined [] := by
  intro before e after h
  simp at h

/-- One more entry, allowed by the log so far. -/
theorem Disciplined.snoc {log : List Entry} {e : Entry} (h : Disciplined log)
    (he : Allows log e) : Disciplined (log ++ [e]) := by
  intro before e' after heq
  rcases List.eq_nil_or_concat after with rfl | ⟨after', last, rfl⟩
  · obtain ⟨rfl, hlast⟩ := List.append_inj' heq rfl
    obtain rfl : e = e' := by simpa using hlast
    exact he
  · have hsplit : log ++ [e] = (before ++ e' :: after') ++ [last] := by
      rw [heq, List.concat_eq_append]
      simp
    obtain ⟨hlog, -⟩ := List.append_inj' hsplit rfl
    exact h before e' after' hlog

/-- At most one step is outstanding. Induction on the log from its end: only a dispatch adds
one, and it needs that there is none. -/
theorem Disciplined.outstanding_le {log : List Entry} (h : Disciplined log) :
    (outstanding log).length ≤ 1 := by
  induction log using List.reverseRecOn with
  | nil => simp [outstanding, outstandingFrom]
  | append_singleton log e ih =>
      have hlog : Disciplined log := by
        intro before e' after heq
        exact h before e' (after ++ [e]) (by rw [heq]; simp)
      have hlen := ih hlog
      rw [outstanding_append]
      cases e with
      | dispatched c =>
          have hnone := (h log (.dispatched c) [] rfl).step c rfl
          rw [hnone]
          simp [outstandingFrom]
      | released token =>
          have herase := List.length_erase_le (a := token) (l := outstanding log)
          show ((outstanding log).erase token).length ≤ 1
          omega
      | progress p => exact hlen
      | busy c i n => exact hlen
      | identify n i c q r => exact hlen
      | identifyError c i n m => exact hlen

theorem Disciplined.of_append {log before after : List Entry} (h : Disciplined log)
    (heq : log = before ++ after) : Disciplined before := by
  intro front e rest hfront
  exact h front e (rest ++ after) (by rw [heq, hfront]; simp)

/-- What stands behind a terminal progress was allowed with it in front. -/
theorem Disciplined.after_terminal {log before after : List Entry} {e : Entry} {id : String}
    (h : Disciplined log) (heq : log = before ++ e :: after) (hterm : e.terminal? = some id) :
    ∀ e' ∈ after, e'.terminal? ≠ some id ∧ e'.stepOf? ≠ some id := by
  intro e' he'
  obtain ⟨front, rest, rfl⟩ := List.append_of_mem he'
  have hallows := h (before ++ e :: front) e' rest (by rw [heq]; simp)
  constructor
  · intro hof
    exact hallows.last id (Or.inl hof) e (by simp) hterm
  · intro hof
    exact hallows.last id (Or.inr hof) e (by simp) hterm

/-! ## The invariant -/

namespace Sequence

structure Flight (s : Sequence) : Prop where
  disciplined : Disciplined s.log
  held : ∀ token ∈ outstanding s.log, ∃ p, s.pending = some p ∧ p.token = token
  running : s.active = true → ∀ id, s.sequenceId = some id → ∀ e ∈ s.log, e.terminal? ≠ some id

theorem flight_init : Flight {} where
  disciplined := disciplined_nil
  held token h := absurd h List.not_mem_nil
  running h := by cases h

/-- The invariant reads four fields. -/
theorem Flight.same {s s' : Sequence} (h : Flight s) (hlog : s'.log = s.log)
    (hpending : s'.pending = s.pending) (hactive : s'.active = true → s.active = true)
    (hid : s'.sequenceId = s.sequenceId) : Flight s' where
  disciplined := by rw [hlog]; exact h.disciplined
  held := by rw [hlog, hpending]; exact h.held
  running hrun := by rw [hlog, hid]; exact h.running (hactive hrun)

theorem Flight.atIndex {s : Sequence} (h : Flight s) (i : Nat) : Flight { s with index := i } :=
  h.same rfl rfl id rfl

/-- Nothing pending, nothing outstanding. -/
theorem Flight.outstanding_nil {s : Sequence} (h : Flight s) (hpending : s.pending = none) :
    outstanding s.log = [] := by
  apply List.eq_nil_iff_forall_not_mem.mpr
  intro token htoken
  obtain ⟨p, hp, -⟩ := h.held token htoken
  rw [hpending] at hp
  cases hp

/-- An entry that is no step, no release and no terminal progress. -/
theorem Flight.note {s : Sequence} (h : Flight s) {e : Entry}
    (hout : ∀ tokens, outstandingFrom tokens [e] = tokens) (hterm : e.terminal? = none)
    (hstep : e.stepOf? = none) (hcommand : ∀ c, e ≠ .dispatched c) : Flight (s.note e) where
  disciplined := by
    refine h.disciplined.snoc ⟨fun c hc => absurd hc (hcommand c), fun id hid => ?_⟩
    rw [hterm, hstep] at hid
    rcases hid with hid | hid <;> cases hid
  held token htoken := by
    have hsame : outstanding (s.note e).log = outstanding s.log := by
      show outstanding (s.log ++ [e]) = _
      rw [outstanding_append, hout]
    rw [hsame] at htoken
    exact h.held token htoken
  running hrun id hid e' he' := by
    rcases List.mem_append.mp he' with he' | he'
    · exact h.running hrun id hid e' he'
    · rw [List.mem_singleton.mp he', hterm]
      simp

theorem Flight.progress {s : Sequence} (h : Flight s) {phase : Phase} (subject : Option Subject)
    (skipped : Bool) (hcompleted : phase ≠ .completed) (hfailed : phase ≠ .failed) :
    Flight (s.progress phase subject skipped none) := by
  refine h.note (fun _ => rfl) ?_ rfl (fun c hc => by cases hc)
  cases phase <;> first | rfl | exact absurd rfl hcompleted | exact absurd rfl hfailed

/-- A terminal progress ends an active sequence. -/
theorem Flight.terminal {s : Sequence} (h : Flight s) (hactive : s.active = true)
    (phase : Phase) (subject : Option Subject) (skipped : Bool) (failure : Option Failure) :
    Flight ({ s with active := false }.progress phase subject skipped failure) where
  disciplined := by
    refine h.disciplined.snoc ⟨fun c hc => (by cases hc), fun id hid => ?_⟩
    refine h.running hactive id ?_
    rcases hid with hid | hid
    · cases phase <;> first | exact hid | cases hid
    · cases hid
  held token htoken := by
    have hsame : outstanding ({ s with active := false }.progress phase subject skipped
        failure).log = outstanding s.log := by
      show outstanding (s.log ++ [_]) = _
      rw [outstanding_append]
      rfl
    rw [hsame] at htoken
    exact h.held token htoken
  running hrun := by cases hrun

theorem Flight.fail {s : Sequence} (h : Flight s) (hactive : s.active = true) (message : Json)
    (subject : Option Subject) (operation : Option Operation) :
    Flight (s.fail message subject operation) := by
  have htimer : Flight s.cancelTimer := h.same rfl rfl id rfl
  exact htimer.terminal hactive _ _ _ _

theorem Flight.failIfActive {s : Sequence} (h : Flight s) (message : Json) :
    Flight (s.failIfActive message) := by
  unfold Sequence.failIfActive
  split
  · rename_i hactive
    exact h.fail hactive message none none
  · exact h

theorem Flight.letGo {s : Sequence} (h : Flight s) : Flight s.letGo := by
  unfold Sequence.letGo
  split
  · rename_i p hp
    refine
      { disciplined := h.disciplined.snoc ⟨fun c hc => (by cases hc), fun id hid => ?_⟩
        held := fun token htoken => ?_
        running := fun hrun id hid e he => ?_ }
    · rcases hid with hid | hid <;> cases hid
    · -- the one token that can be outstanding is the one let go
      exfalso
      have hlen := h.disciplined.outstanding_le
      have herase : token ∈ (outstanding s.log).erase p.token := by
        have hrest : outstanding (s.log ++ [.released p.token])
            = (outstanding s.log).erase p.token := by
          rw [outstanding_append]
          rfl
        rw [← hrest]
        exact htoken
      have hmem := List.mem_of_mem_erase herase
      obtain ⟨q, hq, hqt⟩ := h.held token hmem
      rw [hp] at hq
      cases hq
      have hone : outstanding s.log = [token] := by
        cases hl : outstanding s.log with
        | nil => rw [hl] at hmem; cases hmem
        | cons t ts =>
            rw [hl] at hmem hlen
            obtain rfl : ts = [] := by
              simp only [List.length_cons] at hlen
              exact List.length_eq_zero_iff.mp (by omega)
            rw [List.mem_singleton.mp hmem]
      rw [hone, hqt] at herase
      simp at herase
    · rcases List.mem_append.mp he with he | he
      · exact h.running hrun id hid e he
      · rw [List.mem_singleton.mp he]
        simp [Entry.terminal?]
  · exact h

@[simp] theorem letGo_pending (s : Sequence) : s.letGo.pending = none := by
  unfold letGo
  split
  · rfl
  · rename_i hp
    exact hp

@[simp] theorem letGo_active (s : Sequence) : s.letGo.active = s.active := by
  unfold letGo
  split <;> rfl

theorem Flight.reject {s : Sequence} (h : Flight s) (message : String) :
    Flight (s.reject message) := (h.failIfActive (.str message)).letGo

/-- A step of the pending token is dispatched, with none outstanding. -/
theorem Flight.dispatch {s : Sequence} (h : Flight s) (hactive : s.active = true)
    (hnone : outstanding s.log = []) {p : Pending} (hpending : s.pending = some p)
    {c : StepCommand} (htoken : c.token = p.token) (hid : c.sequenceId = s.sequenceId) :
    Flight (s.note (.dispatched c)) where
  disciplined := by
    refine h.disciplined.snoc ⟨fun _ _ => hnone, fun id hof => ?_⟩
    refine h.running hactive id ?_
    rcases hof with hof | hof
    · cases hof
    · rw [← hid]
      exact hof
  held token hmem := by
    have hone : outstanding (s.note (.dispatched c)).log = [c.token] := by
      show outstanding (s.log ++ [.dispatched c]) = _
      rw [outstanding_append, hnone]
      rfl
    rw [hone] at hmem
    exact ⟨p, hpending, by rw [List.mem_singleton.mp hmem, htoken]⟩
  running hrun id hseq e he := by
    rcases List.mem_append.mp he with he | he
    · exact h.running hrun id hseq e he
    · rw [List.mem_singleton.mp he]
      simp [Entry.terminal?]

/-- A step is begun with nothing pending, in an active sequence. -/
theorem Flight.beginStep {s : Sequence} (h : Flight s) (hactive : s.active = true)
    (hpending : s.pending = none) (env : Env) (subject : Subject) (operation : Operation) :
    Flight (s.beginStep env subject operation) := by
  have hnone := h.outstanding_nil hpending
  have hheld : Flight { s with pending := some ⟨env.token, subject, operation⟩ } :=
    { h with held := fun token htoken => by rw [hnone] at htoken; cases htoken }
  have hprogress := hheld.progress (some subject) false
    (show operation.phase ≠ .completed by cases operation <;> simp [Operation.phase])
    (show operation.phase ≠ .failed by cases operation <;> simp [Operation.phase])
  have hout (p : Progress) : outstanding (s.log ++ [.progress p]) = [] := by
    rw [outstanding_append, hnone]
    rfl
  unfold Sequence.beginStep
  simp only
  split
  · exact hprogress
  · rename_i addresses _
    have htimer : Flight { { s with pending := some ⟨env.token, subject, operation⟩ }.progress
        operation.phase (some subject) false none with timer := some env.token } :=
      hprogress.same rfl rfl id rfl
    have hdispatched := htimer.dispatch (c := ⟨subject.nodeId, operation, env.token, s.sequenceId,
      subject.subjectId, addresses⟩) hactive (hout _) rfl rfl rfl
    split
    · exact hdispatched
    · rename_i exc _
      exact (hdispatched.fail hactive (.str exc) none none).letGo

/-- Induction on the subjects that are left; those already connected are skipped. -/
theorem Flight.nextSubject {s : Sequence} (h : Flight s) (hactive : s.active = true)
    (hpending : s.pending = none) (env : Env) (rest : List Subject) :
    Flight (s.nextSubject env rest) := by
  induction rest generalizing s with
  | nil => exact h.terminal hactive _ _ _ _
  | cons subject rest ih =>
      unfold Sequence.nextSubject
      split
      · have hskip := h.progress (some subject) true
          (show Phase.subjectConnected ≠ .completed by simp)
          (show Phase.subjectConnected ≠ .failed by simp)
        exact ih (hskip.same rfl rfl id rfl) hactive hpending
      · exact h.beginStep hactive hpending env subject _

/-! ## The operations -/

theorem Flight.configure {s : Sequence} (h : Flight s) (subjects : List Subject) :
    Flight (s.configure subjects) := by
  have htimer : Flight s.cancelTimer := h.same rfl rfl id rfl
  have hgone := htimer.letGo
  exact
    { disciplined := hgone.disciplined
      held := hgone.held
      running := fun hrun => by cases hrun }

/-- A fresh id has no terminal progress yet. -/
theorem not_terminal_of_fresh {s : Sequence} {id : String} (hfresh : s.freshId id = true) :
    ∀ e ∈ s.log, e.terminal? ≠ some id := by
  intro e he hterm
  simp only [freshId, Bool.and_eq_true, List.all_eq_true, decide_eq_true_eq] at hfresh
  refine hfresh.2 e he ?_
  cases e with
  | progress p =>
      cases hphase : p.phase <;> simp only [Entry.terminal?, hphase] at hterm <;>
        first | exact hterm | cases hterm
  | busy c i n => cases hterm
  | dispatched c => cases hterm
  | identify n i c q r => cases hterm
  | identifyError c i n m => cases hterm
  | released t => cases hterm

theorem Flight.start {s : Sequence} (h : Flight s) (env : Env) (correlationId : Json)
    (hfresh : s.busy = true ∨ s.freshId env.sequenceId = true) :
    Flight (s.start env correlationId) := by
  unfold Sequence.start
  split
  · exact h.note (fun _ => rfl) rfl rfl (fun c hc => by cases hc)
  · rename_i hbusy
    split
    · exact h
    · have hidle : s.pending = none := by
        simp only [busy, Bool.not_eq_true, Bool.or_eq_false_iff] at hbusy
        exact Option.not_isSome_iff_eq_none.mp (by rw [hbusy.2]; simp)
      have hnew := not_terminal_of_fresh (hfresh.resolve_left hbusy)
      have hstarted : Flight { s with
          correlationId := if correlationId.truthy then correlationId else .str env.correlationId
          sequenceId := some env.sequenceId
          active := true
          index := 0 } :=
        { h with
          running := fun _ id hid => by
            cases hid
            exact hnew }
      exact hstarted.nextSubject rfl hidle env _

theorem Flight.expired {s : Sequence} (h : Flight s) (token : String) :
    Flight (s.expired token) := by
  unfold Sequence.expired
  split
  · split
    · rename_i hmatch
      exact h.fail hmatch.2 _ none none
    · exact h
  · exact h

theorem Flight.retired {s : Sequence} (h : Flight s) (node : Json) (subjects : List Subject) :
    Flight (subjects.foldl (fun s subject =>
      if node.isText subject.nodeId then s.retire subject.subjectId else s) s) := by
  induction subjects generalizing s with
  | nil => exact h
  | cons subject rest ih =>
      rw [List.foldl_cons]
      split
      · exact ih (h.same rfl rfl id rfl)
      · exact ih h

theorem Flight.onReset {s : Sequence} (h : Flight s) (node : Json) : Flight (s.onReset node) := by
  have hretired := h.retired node s.subjects
  unfold Sequence.onReset
  simp only
  split
  · split
    · exact (hretired.failIfActive _).letGo
    · exact hretired
  · exact hretired

theorem Flight.loseSensors {s : Sequence} (h : Flight s) (lost : List String)
    (items : List (String × List String)) : Flight (loseSensors lost s items) := by
  induction items generalizing s with
  | nil => exact h
  | cons item rest ih =>
      obtain ⟨sid, addresses⟩ := item
      have hdropped : Flight { s with completed := s.completed.erase sid } :=
        h.same rfl rfl id rfl
      unfold Sequence.loseSensors
      split
      · simp only
        split
        · rename_i hrun
          split
          · refine ih (hdropped.fail ?_ _ _ _)
            exact (Bool.and_eq_true_iff.mp hrun).1
          · exact hdropped
        · exact ih hdropped
      · exact ih h

variable {str : Json → String} {upper : String → String}

theorem Flight.forgetDiscoveries {s : Sequence} (h : Flight s) (results : List Json) :
    Flight (forgetDiscoveries str upper s results).1 := by
  induction results generalizing s with
  | nil => exact h
  | cons result rest ih =>
      unfold Sequence.forgetDiscoveries
      split
      · exact h
      · simp only
        split
        · exact ih h
        · split
          · exact h.same rfl rfl id rfl
          · exact ih (h.same rfl rfl id rfl)

theorem Flight.forgetLegacy {s : Sequence} (h : Flight s) (event payload : List (String × Json)) :
    Flight (s.forgetLegacy str upper event payload).1 := by
  unfold Sequence.forgetLegacy
  split
  · split
    · exact h
    · exact h.forgetDiscoveries _
  · exact h

theorem Flight.onDiscovered {s : Sequence} (h : Flight s) (env : Env) (p : Pending)
    (complete : Bool) (addresses : List String) :
    Flight (s.onDiscovered env p complete addresses) := by
  unfold Sequence.onDiscovered
  split
  · have hlearned : Flight { s with
        selected := s.selected.set p.subject.subjectId addresses
        discovered := insert p.subject.subjectId s.discovered } := h.same rfl rfl id rfl
    simp only
    split
    · rename_i hactive
      exact hlearned.letGo.beginStep hactive (letGo_pending _) env _ _
    · exact hlearned.letGo
  · exact h.reject _

theorem Flight.identifySubject {s : Sequence} (h : Flight s) (env : Env) (subject : Subject) :
    Flight (s.identifySubject env subject) := by
  have hconnected := h.progress (some subject) false
    (show Phase.subjectConnected ≠ .completed by simp)
    (show Phase.subjectConnected ≠ .failed by simp)
  have hidentified := hconnected.note (e := .identify subject.nodeId subject.subjectId
    env.identifyId s.sequenceId s.correlationId) (fun _ => rfl) rfl rfl (fun c hc => by cases hc)
  unfold Sequence.identifySubject
  simp only
  split
  · exact hidentified
  · exact hidentified.note (fun _ => rfl) rfl rfl (fun c hc => by cases hc)

/-- Telling of a subject moves nothing. -/
theorem identifySubject_moves (s : Sequence) (env : Env) (subject : Subject) :
    ∃ log, s.identifySubject env subject = { s with log } := by
  unfold Sequence.identifySubject
  simp only
  split
  · exact ⟨_, rfl⟩
  · exact ⟨_, rfl⟩

theorem Flight.subjectDone {s : Sequence} (h : Flight s) (env : Env) (subject : Subject) :
    Flight (s.subjectDone env subject) := by
  have hinserted : Flight { s with completed := insert subject.subjectId s.completed } :=
    h.same rfl rfl id rfl
  have hdone := hinserted.letGo
  unfold Sequence.subjectDone
  simp only
  split
  · rename_i hactive
    have htold := hdone.identifySubject env subject
    obtain ⟨log, hlog⟩ := identifySubject_moves
      { s with completed := insert subject.subjectId s.completed }.letGo env subject
    refine (htold.atIndex _).nextSubject ?_ ?_ env _
    · rw [hlog]
      exact hactive
    · rw [hlog]
      exact letGo_pending _
  · exact hdone

theorem Flight.onConnected {s : Sequence} (h : Flight s) (env : Env) (p : Pending)
    (complete : Bool) (sensors : List (List (String × Json))) :
    Flight (s.onConnected str upper env p complete sensors) := by
  unfold Sequence.onConnected
  split
  · split
    · exact h
    · split
      · exact h.subjectDone env p.subject
      · exact h.reject _
  · exact h.reject _

theorem Flight.onReply {s : Sequence} (h : Flight s) (env : Env) (p : Pending) (isError : Bool)
    (payload : List (String × Json)) : Flight (s.onReply str upper env p isError payload) := by
  have htimer : Flight s.cancelTimer := h.same rfl rfl id rfl
  unfold Sequence.onReply
  simp only
  split
  · exact htimer
  · rename_i reported _
    have hkept : Flight (s.cancelTimer.keepSelected p reported) := by
      unfold keepSelected
      split
      · exact htimer.same rfl rfl id rfl
      · exact htimer
    split
    · exact (hkept.failIfActive _).letGo
    · split
      · exact hkept
      · split
        · split
          · exact hkept
          · exact hkept.onDiscovered env p _ _
        · split
          · exact hkept
          · exact hkept.onConnected env p _ _

theorem Flight.onPayload {s : Sequence} (h : Flight s) (env : Env)
    (event payload : List (String × Json)) : Flight (s.onPayload str upper env event payload) := by
  unfold Sequence.onPayload
  simp only
  split
  · exact h.failIfActive _
  · split
    · split
      · exact h.onReset _
      · exact h
    · split
      · split
        · exact h
        · exact h.loseSensors _ _
      · have hforgot := @Flight.forgetLegacy str upper s h event payload
        split
        · split
          · exact hforgot
          · exact hforgot.onReply env _ _ _
        · exact hforgot

theorem flight_step {s s' : Sequence} {a : Action} (hstep : step str upper s a = some s')
    (h : Flight s) : Flight s' := by
  cases a with
  | configure subjects =>
      cases hstep
      exact h.configure subjects
  | start env correlationId =>
      simp only [step] at hstep
      split at hstep
      · rename_i hdraw
        cases hstep
        exact h.start env correlationId (Bool.or_eq_true_iff.mp hdraw)
      · cases hstep
  | expired token =>
      cases hstep
      exact h.expired token
  | event env event =>
      cases hstep
      unfold onEvent
      split
      · exact h
      · split
        · exact h
        · exact h.onPayload env _ _

theorem flight_of_reachable {s : Sequence} (h : Machine.Reach (step str upper) {} s) :
    Flight s :=
  h.invariant flight_init fun _ _ _ _ hstep hs => flight_step hstep hs

/-! ## The result -/

/-- The kinds that tell of the sensors and are no reply to a step. -/
def isNotification (event : List (String × Json)) : Bool :=
  (Json.get event "type").isText evtSensorCleanupStarted
    || (Json.get event "type").isText evtSensorCleanupComplete
    || (Json.get event "type").isText evtSensorDisconnected

/-- The event answers the pending step: token, sequence id, node and kind agree. -/
structure Answers (s : Sequence) (event payload : List (String × Json)) (p : Pending) : Prop where
  pending : s.pending = some p
  token : Json.get payload "correlation_id" = .str p.token
  sequenceId : sameSequence (Json.get payload "connection_sequence_id") s.sequenceId = true
  node : Json.getD payload "node_id" (Json.get event "node_id") = .str p.subject.nodeId
  kind : Json.get event "type" = .str evtError
    ∨ Json.get event "type" = .str (Operation.expected p.operation)

theorem repliedStep_eq_some {s : Sequence} {event payload : List (String × Json)} {p : Pending}
    (h : s.repliedStep event payload = some p) : Answers s event payload p := by
  unfold repliedStep at h
  obtain ⟨hpending, hall⟩ := Option.filter_eq_some_iff.mp h
  simp only [Bool.and_eq_true, Bool.or_eq_true, Json.isText_iff] at hall
  obtain ⟨⟨⟨htoken, hid⟩, hnode⟩, hkind⟩ := hall
  exact ⟨hpending, htoken, hid, hnode, hkind⟩

/-- An event of a sequence that is neither a notification nor the answer to the pending step. -/
theorem onEvent_unanswered (s : Sequence) (env : Env) {event payload : List (String × Json)}
    (hpayload : Json.get event "payload" = .obj payload)
    (hcarries : (Json.get payload "connection_sequence_id").truthy = true)
    (hkind : isNotification event = false) (hno : ∀ p, ¬ Answers s event payload p) :
    s.onEvent str upper env (.obj event) = s := by
  simp only [isNotification, Bool.or_eq_false_iff] at hkind
  obtain ⟨⟨hstarted, hcomplete⟩, hlost⟩ := hkind
  have hlegacy : s.forgetLegacy str upper event payload = (s, true) := by
    rw [forgetLegacy, isLegacyDiscovery, hcarries]
    simp
  have hnone : s.repliedStep event payload = none := by
    apply Option.eq_none_iff_forall_ne_some.mpr
    intro p hp
    exact hno p (repliedStep_eq_some hp)
  have hevent : s.onEvent str upper env (.obj event) = s.onPayload str upper env event payload := by
    simp only [onEvent, Json.asDict, hpayload]
  rw [hevent]
  unfold onPayload
  simp only [hstarted, hcomplete, hlost, hlegacy, Bool.false_eq_true, if_false, if_true, hnone]

/-- Single-flight, in the words of the log. -/
structure SingleFlight (str : Json → String) (upper : String → String) (s : Sequence) : Prop where
  /-- At any point of the log at most one step is outstanding, and now it is the pending one. -/
  outstanding : ∀ before after, s.log = before ++ after → (outstanding before).length ≤ 1
  held : ∀ token ∈ Connection.outstanding s.log, ∃ p, s.pending = some p ∧ p.token = token
  dispatch : ∀ before c after, s.log = before ++ .dispatched c :: after →
    Connection.outstanding before = []
  terminal : ∀ before e after id, s.log = before ++ e :: after → e.terminal? = some id →
    ∀ e' ∈ after, e'.terminal? ≠ some id ∧ e'.stepOf? ≠ some id
  unanswered : ∀ env event payload, Json.get event "payload" = .obj payload →
    (Json.get payload "connection_sequence_id").truthy = true → isNotification event = false →
    (∀ p, ¬ Answers s event payload p) → s.onEvent str upper env (.obj event) = s
  busy : s.busy = true → ∀ env correlationId, ∃ e, e.terminal? = none ∧ e.stepOf? = none
    ∧ s.start env correlationId = { s with log := s.log ++ [e] }

end Sequence

/-- **Connect All is single-flight with one terminal result.** -/
theorem singleFlight_of_reachable {str : Json → String} {upper : String → String}
    {s : Sequence} (h : Machine.Reach (Sequence.step str upper) {} s) :
    Sequence.SingleFlight str upper s := by
  have hflight := Sequence.flight_of_reachable h
  exact
    { outstanding := fun before after heq =>
        (hflight.disciplined.of_append heq).outstanding_le
      held := hflight.held
      dispatch := fun before c after heq => (hflight.disciplined before _ after heq).step c rfl
      terminal := fun before e after id heq hterm =>
        hflight.disciplined.after_terminal heq hterm
      unanswered := fun env event payload hpayload hcarries hkind hno =>
        s.onEvent_unanswered env hpayload hcarries hkind hno
      busy := fun hbusy env correlationId =>
        ⟨_, rfl, rfl, by
          unfold Sequence.start
          rw [if_pos hbusy]
          rfl⟩ }

/-- One subject on the master; its discovery times out and is answered late. -/
def lateReply : List Sequence.Action :=
  [.configure [⟨"s1", "master", [some "wrist"]⟩],
    .start ⟨"t1", "q1", "c1", "i1", none, none⟩ .null,
    .expired "t1",
    .event ⟨"t2", "q2", "c2", "i2", none, none⟩ (.obj
      [("type", .str "sensors_discovered"),
        ("payload", .obj
          [("correlation_id", .str "t1"), ("connection_sequence_id", .str "q1"),
            ("node_id", .str "master"), ("operation_complete", .bool true),
            ("subjects", .arr [.obj
              [("subject_id", .str "s1"), ("discovered_sensors", .arr [.str "AA"])]])])])]

theorem singleFlight_of_reachable_lateReply :
    ∃ s, Machine.Reach (Sequence.step (fun _ => "") id) {} s
      ∧ s.discovered = {"s1"} ∧ s.active = false
      ∧ s.log.map Entry.terminal? = [none, none, some "q1", none]
      ∧ Sequence.SingleFlight (fun _ => "") id s := by
  have hrun : (Machine.exec (Sequence.step (fun _ => "") id) {} lateReply).map
      (fun s => (s.discovered, s.active, s.log.map Entry.terminal?))
      = some ({"s1"}, false, [none, none, some "q1", none]) := by decide +kernel
  obtain ⟨s, hs, hfields⟩ := Option.map_eq_some_iff.mp hrun
  simp only [Prod.mk.injEq] at hfields
  have hreach : Machine.Reach (Sequence.step (fun _ => "") id) {} s :=
    Machine.reach_of_exec lateReply hs
  exact ⟨s, hreach, hfields.1, hfields.2.1, hfields.2.2, singleFlight_of_reachable hreach⟩

/-- A notification ends the sequence, whatever sequence id it carries. -/
theorem cleanupStarted_changes :
    ¬ ∀ s, Machine.Reach (Sequence.step (fun _ => "") id) {} s → ∀ env event payload,
      Json.get event "payload" = .obj payload →
      (Json.get payload "connection_sequence_id").truthy = true →
      (∀ p, ¬ Sequence.Answers s event payload p) →
      s.onEvent (fun _ => "") id env (.obj event) = s := by
  intro hall
  have hrun : (Machine.exec (Sequence.step (fun _ => "") id) {} (lateReply.take 2)).map
      (fun s => s.active) = some true := by decide +kernel
  obtain ⟨s, hs, hactive⟩ := Option.map_eq_some_iff.mp hrun
  -- a cleanup notice is no reply, so it answers no step
  have hno (p : Pending) : ¬ Sequence.Answers s
      [("type", .str "sensor_cleanup_started"),
        ("payload", .obj [("connection_sequence_id", .str "other")])]
      [("connection_sequence_id", .str "other")] p := by
    intro hp
    have hkind := hp.kind
    cases hop : p.operation <;>
      simp [hop, Json.get, Json.getD, Sequence.Operation.expected, evtError,
        evtSensorsDiscovered, evtSensorConnected] at hkind
  have hsame := hall s (Machine.reach_of_exec _ hs) ⟨"t2", "q2", "c2", "i2", none, none⟩
    [("type", .str "sensor_cleanup_started"),
      ("payload", .obj [("connection_sequence_id", .str "other")])]
    [("connection_sequence_id", .str "other")] rfl rfl hno
  have hended := congrArg Sequence.active hsame
  rw [hactive] at hended
  have hfail : (s.failIfActive (.str "Connect All interrupted by sensor cleanup")).active
      = true := hended
  rw [Sequence.failIfActive, if_pos hactive] at hfail
  cases hfail

end NexusN3.Connection
