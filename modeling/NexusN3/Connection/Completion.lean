import NexusN3.Connection.Sequence

/-!
# The completion of Connect All is truthful

A completed progress lists every configured subject as completed, as long as no event takes a
subject back that the running sequence has passed. A lost sensor does so, but it fails the
sequence with it; a discovery of nobody's asking and the Reset of another node do not.

* **`Passed`** — the state invariant: an active sequence waits on the subject at its index,
  and the subjects before the index are completed.
* **`keepsPassed`** — the condition on one event.
* **`truthful_of_keepsPassed`** — under it, what an operation adds to the log is truthful.
-/

namespace NexusN3.Connection

open Lib

namespace Sequence

/-! ## What an operation tells -/

def subjectIds (s : Sequence) : List String := s.subjects.map Subject.subjectId

/-- A completed progress names all of `ids`. -/
def Told (ids : List String) (e : Entry) : Prop :=
  ∀ p, e = .progress p → p.phase = .completed → p.completedSubjectIds = ids

/-- The entries added are truthful about the subjects, which stay. -/
structure Tells (s s' : Sequence) : Prop where
  subjects : s'.subjects = s.subjects
  log : ∃ added, s'.log = s.log ++ added ∧ ∀ e ∈ added, Told s.subjectIds e

theorem Tells.refl (s : Sequence) : Tells s s :=
  ⟨rfl, [], by simp, fun e he => absurd he List.not_mem_nil⟩

theorem Tells.trans {s r t : Sequence} (h1 : Tells s r) (h2 : Tells r t) : Tells s t := by
  obtain ⟨hsub1, added1, hlog1, htold1⟩ := h1
  obtain ⟨hsub2, added2, hlog2, htold2⟩ := h2
  refine ⟨by rw [hsub2, hsub1], added1 ++ added2, by rw [hlog2, hlog1, List.append_assoc], ?_⟩
  intro e he
  rcases List.mem_append.mp he with he | he
  · exact htold1 e he
  · have hids : r.subjectIds = s.subjectIds := by rw [subjectIds, hsub1]; rfl
    rw [← hids]
    exact htold2 e he

/-- No entry. -/
theorem Tells.silent {s s' : Sequence} (hsub : s'.subjects = s.subjects)
    (hlog : s'.log = s.log) : Tells s s' :=
  ⟨hsub, [], by simp [hlog], fun e he => absurd he List.not_mem_nil⟩

theorem tells_note (s : Sequence) {e : Entry} (he : Told s.subjectIds e) : Tells s (s.note e) := by
  refine ⟨rfl, [e], rfl, fun e' he' => ?_⟩
  rw [List.mem_singleton.mp he']
  exact he

theorem tells_progress (s : Sequence) {phase : Phase} (subject : Option Subject)
    (skipped : Bool) (failure : Option Failure) (hphase : phase ≠ .completed) :
    Tells s (s.progress phase subject skipped failure) := by
  refine s.tells_note fun p hp hcompleted => absurd ?_ hphase
  cases hp
  exact hcompleted

theorem tells_fail (s : Sequence) (message : Json) (subject : Option Subject)
    (operation : Option Operation) : Tells s (s.fail message subject operation) := by
  have hended : Tells s { s.cancelTimer with active := false } := .silent rfl rfl
  exact hended.trans (tells_progress _ _ _ _ (by simp))

theorem tells_failIfActive (s : Sequence) (message : Json) : Tells s (s.failIfActive message) := by
  unfold failIfActive
  split
  · exact s.tells_fail message none none
  · exact .refl s

theorem tells_letGo (s : Sequence) : Tells s s.letGo := by
  unfold letGo
  split
  · have hgone : Tells s { s with pending := none } := .silent rfl rfl
    exact hgone.trans (tells_note _ fun p hp => by cases hp)
  · exact .refl s

theorem tells_beginStep (s : Sequence) (env : Env) (subject : Subject) (operation : Operation) :
    Tells s (s.beginStep env subject operation) := by
  have hpending : Tells s { s with pending := some ⟨env.token, subject, operation⟩ } :=
    .silent rfl rfl
  have hprogress := hpending.trans (tells_progress _ (some subject) false none
    (show operation.phase ≠ .completed by cases operation <;> simp [Operation.phase]))
  unfold beginStep
  simp only
  split
  · exact hprogress
  · rename_i addresses _
    have htimer : Tells s { { s with pending := some ⟨env.token, subject, operation⟩ }.progress
        operation.phase (some subject) false none with timer := some env.token } :=
      hprogress.trans (.silent rfl rfl)
    have hdispatched (c : StepCommand) := htimer.trans
      (tells_note _ (e := .dispatched c) fun p hp => by cases hp)
    split
    · exact hdispatched _
    · exact ((hdispatched _).trans (tells_fail _ _ none none)).trans (tells_letGo _)

theorem tells_identifySubject (s : Sequence) (env : Env) (subject : Subject) :
    Tells s (s.identifySubject env subject) := by
  have hconnected := s.tells_progress (some subject) false none
    (show Phase.subjectConnected ≠ .completed by simp)
  have hidentified (node sid id : String) (q : Option String) (r : Json) :=
    hconnected.trans (tells_note _ (e := .identify node sid id q r) fun p hp => by cases hp)
  unfold identifySubject
  simp only
  split
  · exact hidentified _ _ _ _ _
  · exact (hidentified _ _ _ _ _).trans (tells_note _ fun p hp => by cases hp)

/-! ## The invariant -/

/-- The subjects an active sequence has gone past. -/
def passedIds (s : Sequence) : List String :=
  (s.subjects.take s.index).map Subject.subjectId

/-- An active sequence waits on the subject at its index and has completed those before. -/
structure Passed (s : Sequence) : Prop where
  waits : s.active = true → ∃ p, s.pending = some p ∧ s.subjects[s.index]? = some p.subject
  passed : s.active = true → ∀ id ∈ s.passedIds, id ∈ s.completed

theorem passed_of_inactive {s : Sequence} (h : s.active = false) : Passed s := by
  constructor
  all_goals
    intro hactive
    rw [h] at hactive
    cases hactive

theorem passed_init : Passed {} := passed_of_inactive rfl

@[simp] theorem fail_active (s : Sequence) (message : Json) (subject : Option Subject)
    (operation : Option Operation) : (s.fail message subject operation).active = false := rfl

theorem failIfActive_active (s : Sequence) (message : Json) :
    (s.failIfActive message).active = false := by
  unfold failIfActive
  split
  · rfl
  · rename_i h
    simpa using h

theorem active_letGo (s : Sequence) : s.letGo.active = s.active := by
  unfold letGo
  split <;> rfl

/-- Only `pending` and the log are touched. -/
theorem letGo_data (s : Sequence) : s.letGo.subjects = s.subjects ∧ s.letGo.index = s.index
    ∧ s.letGo.completed = s.completed := by
  unfold letGo
  split <;> exact ⟨rfl, rfl, rfl⟩

theorem identifySubject_data (s : Sequence) (env : Env) (subject : Subject) :
    (s.identifySubject env subject).subjects = s.subjects
    ∧ (s.identifySubject env subject).index = s.index
    ∧ (s.identifySubject env subject).completed = s.completed := by
  unfold identifySubject
  simp only
  split <;> exact ⟨rfl, rfl, rfl⟩

theorem passed_beginStep {s : Sequence} (env : Env) {subject : Subject} (operation : Operation)
    (hat : s.subjects[s.index]? = some subject)
    (hpassed : ∀ id ∈ s.passedIds, id ∈ s.completed) :
    Passed (s.beginStep env subject operation) := by
  unfold beginStep
  simp only
  split
  · exact ⟨fun _ => ⟨_, rfl, hat⟩, fun _ => hpassed⟩
  · split
    · exact ⟨fun _ => ⟨_, rfl, hat⟩, fun _ => hpassed⟩
    · apply passed_of_inactive
      rw [active_letGo]
      rfl

/-- The subject at the index is passed when the index moves on. -/
theorem passedIds_succ {s : Sequence} {subject : Subject}
    (hat : s.subjects[s.index]? = some subject) :
    { s with index := s.index + 1 }.passedIds = s.passedIds ++ [subject.subjectId] := by
  show ((s.subjects.take (s.index + 1)).map Subject.subjectId) = _
  rw [List.take_add_one, hat]
  simp [passedIds]

/-- Walking on over the subjects that are left: what is skipped is completed, and at the end
all are. Induction on what is left. -/
theorem nextSubject_passed {s : Sequence} (env : Env) {rest : List Subject}
    (hrest : s.subjects.drop s.index = rest)
    (hpassed : ∀ id ∈ s.passedIds, id ∈ s.completed) :
    Passed (s.nextSubject env rest) ∧ Tells s (s.nextSubject env rest) := by
  induction rest generalizing s with
  | nil =>
      -- nobody is left, so what has been passed is everybody
      have hend : s.subjects.length ≤ s.index := List.drop_eq_nil_iff.mp hrest
      have hall : s.completedIds = s.subjectIds := by
        apply List.filter_eq_self.mpr
        intro id hid
        refine decide_eq_true (hpassed id ?_)
        rw [passedIds, List.take_of_length_le hend]
        exact hid
      refine ⟨passed_of_inactive rfl, ?_⟩
      have hended : Tells s { s with active := false } := .silent rfl rfl
      refine hended.trans (tells_note _ fun p hp _ => ?_)
      cases hp
      exact hall
  | cons subject rest ih =>
      have hat : s.subjects[s.index]? = some subject := by
        rw [← List.head?_drop, hrest]
        rfl
      unfold nextSubject
      split
      · rename_i hcompleted
        -- a completed subject is told of and joins those passed
        have hskip := s.tells_progress (some subject) true none
          (show Phase.subjectConnected ≠ .completed by simp)
        have hnext : { s.progress .subjectConnected (some subject) true none with
            index := s.index + 1 }.passedIds = s.passedIds ++ [subject.subjectId] :=
          passedIds_succ hat
        have hih := ih (s := { s.progress .subjectConnected (some subject) true none with
          index := s.index + 1 }) (by
            show s.subjects.drop (s.index + 1) = rest
            rw [← List.tail_drop, hrest]
            rfl) (by
            intro id hid
            rw [hnext] at hid
            rcases List.mem_append.mp hid with hid | hid
            · exact hpassed id hid
            · rw [List.mem_singleton.mp hid]
              exact hcompleted)
        refine ⟨hih.1, (hskip.trans ?_).trans hih.2⟩
        exact .silent rfl rfl
      · exact ⟨passed_beginStep env _ hat hpassed, s.tells_beginStep env subject _⟩

/-! ## The condition on an event -/

/-- The subjects on a node. -/
def idsOn (s : Sequence) (node : Json) : List String :=
  (s.subjects.filter fun subject => node.isText subject.nodeId).map Subject.subjectId

/-- The completed Reset of a node. -/
def isReset (event payload : List (String × Json)) : Bool :=
  (Json.get event "type").isText evtSensorCleanupComplete
    && (Json.get payload "recover_session").truthy
    && (Json.get payload "core_ready_for_configuration").isTrue

/-- The node an event is about. -/
def nodeOf (event payload : List (String × Json)) : Json :=
  Json.getD payload "node_id" (Json.get event "node_id")

section Payloads

variable (str : Json → String) (upper : String → String)

/-- The subjects whose discovery the results make void, up to the first malformed one. -/
def forgottenIds (subjects : List Subject) : List Json → List String
  | [] => []
  | result :: rest =>
    match result.asDict with
    | none => []
    | some fields =>
      match subjects.find? fun subject =>
          (Json.get fields "subject_id").isText subject.subjectId with
      | none => forgottenIds subjects rest
      | some subject =>
        match normalizedAll str upper (Json.getD fields "discovered_sensors" (.arr [])) with
        | none => [subject.subjectId]
        | some _ => subject.subjectId :: forgottenIds subjects rest

/-- While the sequence is active, no legacy discovery names a subject it has passed, and no
completed Reset of a node other than the pending step's has such a subject. -/
def keepsPassedBy (s : Sequence) (event payload : List (String × Json)) : Prop :=
  s.active = true →
    (isLegacyDiscovery event payload = true →
      ∀ id ∈ forgottenIds str upper s.subjects
          ((Json.getD payload "subjects" (.arr [])).iter.getD []), id ∉ s.passedIds)
    ∧ (isReset event payload = true →
      (∀ p ∈ s.pending, (nodeOf event payload).isText p.subject.nodeId = false) →
        ∀ id ∈ s.idsOn (nodeOf event payload), id ∉ s.passedIds)

def keepsPassed (s : Sequence) : Action → Prop
  | .event _ event =>
    ∀ fields ∈ event.asDict, ∀ payload ∈ (Json.get fields "payload").asDict,
      keepsPassedBy str upper s fields payload
  | _ => True

instance (s : Sequence) (event payload : List (String × Json)) :
    Decidable (keepsPassedBy str upper s event payload) :=
  inferInstanceAs (Decidable (s.active = true → _ ∧ (_ → _ → _)))

instance (s : Sequence) : DecidablePred (keepsPassed str upper s)
  | .event _ event => inferInstanceAs (Decidable (∀ fields ∈ event.asDict,
      ∀ payload ∈ (Json.get fields "payload").asDict, keepsPassedBy str upper s fields payload))
  | .configure _ | .start _ _ | .expired _ => isTrue trivial

/-! ## The operations -/

/-- What an operation leaves to the next: the invariant, with a truthful log. -/
structure Honest (s s' : Sequence) : Prop where
  passed : Passed s'
  tells : Tells s s'

variable {str upper}

theorem Honest.of_same {s s' : Sequence} (h : Passed s) (hsub : s'.subjects = s.subjects)
    (hlog : s'.log = s.log) (hactive : s'.active = s.active) (hpending : s'.pending = s.pending)
    (hindex : s'.index = s.index) (hcompleted : s.active = true →
      ∀ id ∈ s.passedIds, id ∈ s.completed → id ∈ s'.completed) : Honest s s' where
  passed :=
    { waits := fun hrun => by
        rw [hactive] at hrun
        rw [hpending, hsub, hindex]
        exact h.waits hrun
      passed := fun hrun id hid => by
        rw [hactive] at hrun
        rw [passedIds, hsub, hindex] at hid
        exact hcompleted hrun id hid (h.passed hrun id hid) }
  tells := .silent hsub hlog

theorem honest_failIfActive (s : Sequence) (message : Json) : Honest s (s.failIfActive message) :=
  ⟨passed_of_inactive (s.failIfActive_active message), s.tells_failIfActive message⟩

theorem honest_ended (s : Sequence) (message : Json) :
    Honest s (s.failIfActive message).letGo where
  passed := passed_of_inactive (by rw [active_letGo, failIfActive_active])
  tells := (s.tells_failIfActive message).trans (tells_letGo _)

theorem Honest.after {s r t : Sequence} (h1 : Tells s r) (h2 : Honest r t) : Honest s t :=
  ⟨h2.passed, h1.trans h2.tells⟩

theorem honest_start (s : Sequence) (h : Passed s) (env : Env) (correlationId : Json) :
    Honest s (s.start env correlationId) := by
  unfold start
  split
  · rename_i hbusy
    refine ⟨⟨h.waits, h.passed⟩, tells_note _ fun p hp => by cases hp⟩
  · split
    · exact ⟨h, .refl s⟩
    · have hset : Tells s { s with
          correlationId := if correlationId.truthy then correlationId else .str env.correlationId
          sequenceId := some env.sequenceId
          active := true
          index := 0 } := .silent rfl rfl
      have hnext := nextSubject_passed (s := { s with
          correlationId := if correlationId.truthy then correlationId else .str env.correlationId
          sequenceId := some env.sequenceId
          active := true
          index := 0 }) env rfl (fun id hid => by simp [passedIds] at hid)
      exact ⟨hnext.1, hset.trans hnext.2⟩

theorem honest_expired (s : Sequence) (h : Passed s) (token : String) :
    Honest s (s.expired token) := by
  unfold expired
  split
  · split
    · exact ⟨passed_of_inactive rfl, s.tells_fail _ none none⟩
    · exact ⟨h, .refl s⟩
  · exact ⟨h, .refl s⟩

/-- A Reset takes back the subjects of its node, and nothing else. -/
theorem retired_data (s : Sequence) (node : Json) (subjects : List Subject) :
    let t := subjects.foldl (fun s subject =>
      if node.isText subject.nodeId then s.retire subject.subjectId else s) s
    t.subjects = s.subjects ∧ t.log = s.log ∧ t.active = s.active ∧ t.pending = s.pending
      ∧ t.index = s.index
      ∧ ∀ id, id ∈ s.completed →
        id ∉ (subjects.filter fun subject => node.isText subject.nodeId).map Subject.subjectId →
          id ∈ t.completed := by
  induction subjects generalizing s with
  | nil => exact ⟨rfl, rfl, rfl, rfl, rfl, fun _ h _ => h⟩
  | cons subject rest ih =>
      simp only [List.foldl_cons]
      by_cases hnode : node.isText subject.nodeId = true
      · have hfilter : (subject :: rest).filter (fun subject => node.isText subject.nodeId)
            = subject :: rest.filter (fun subject => node.isText subject.nodeId) := by
          simp [hnode]
        rw [if_pos hnode, hfilter]
        obtain ⟨h1, h2, h3, h4, h5, h6⟩ := ih (s.retire subject.subjectId)
        refine ⟨h1, h2, h3, h4, h5, fun id hid hout => h6 id ?_ fun hin => hout ?_⟩
        · -- a subject of the node is taken back; any other id is still there
          refine Finset.mem_erase.mpr ⟨fun heq => hout ?_, hid⟩
          rw [heq]
          exact List.mem_cons_self ..
        · exact List.mem_cons_of_mem _ hin
      · have hfilter : (subject :: rest).filter (fun subject => node.isText subject.nodeId)
            = rest.filter (fun subject => node.isText subject.nodeId) := by
          simp [hnode]
        rw [if_neg hnode, hfilter]
        exact ih s

theorem honest_onReset {s : Sequence} (h : Passed s) (node : Json)
    (hkeep : s.active = true → (∀ p ∈ s.pending, node.isText p.subject.nodeId = false) →
      ∀ id ∈ s.idsOn node, id ∉ s.passedIds) : Honest s (s.onReset node) := by
  obtain ⟨hsub, hlog, hactive, hpending, hindex, hcompleted⟩ := s.retired_data node s.subjects
  unfold onReset
  simp only
  rw [hpending]
  have hstay (hother : ∀ p ∈ s.pending, node.isText p.subject.nodeId = false) :=
    Honest.of_same h hsub hlog hactive hpending hindex fun hrun id hid hin =>
      hcompleted id hin fun hon => hkeep hrun hother id hon hid
  cases hp : s.pending with
  | none => exact hstay fun p hmem => by rw [hp] at hmem; cases hmem
  | some p =>
      simp only
      split
      · exact Honest.after (.silent hsub hlog) (honest_ended _ _)
      · rename_i hnode
        refine hstay fun q hq => ?_
        rw [hp] at hq
        cases hq
        simpa using hnode

/-- A sensor of a passed subject is not lost without the sequence failing. -/
theorem honest_loseSensors {s : Sequence} (h : Passed s) (lost : List String)
    (items : List (String × List String)) : Honest s (loseSensors lost s items) := by
  induction items generalizing s with
  | nil => exact ⟨h, .refl s⟩
  | cons item rest ih =>
      obtain ⟨sid, addresses⟩ := item
      unfold loseSensors
      split
      · simp only
        split
        · rename_i hrun
          have hdropped : Tells s { s with completed := s.completed.erase sid } :=
            .silent rfl rfl
          split
          · refine Honest.after (hdropped.trans (tells_fail _ _ _ _)) (ih ?_)
            exact passed_of_inactive rfl
          · rename_i hfind
            -- the sid is nobody's, so no passed subject is dropped
            refine Honest.of_same h rfl rfl rfl rfl rfl fun _ id hid hin => ?_
            refine Finset.mem_erase.mpr ⟨fun heq => ?_, hin⟩
            obtain ⟨subject, hmem, hid'⟩ := List.mem_map.mp hid
            have := List.find?_eq_none.mp hfind subject (List.mem_of_mem_take hmem)
            exact this (decide_eq_true (by rw [hid', heq]))
        · rename_i hrun
          have hdropped : Honest s { s with completed := s.completed.erase sid } := by
            refine Honest.of_same h rfl rfl rfl rfl rfl fun hactive id hid hin => ?_
            refine Finset.mem_erase.mpr ⟨fun heq => hrun ?_, hin⟩
            rw [Bool.and_eq_true]
            exact ⟨hactive, decide_eq_true (heq ▸ hin)⟩
          exact Honest.after hdropped.tells (ih hdropped.passed)
      · exact ih h

/-- Forgetting touches only `selected` and the sets. -/
theorem honest_forgetDiscoveries {s : Sequence} (h : Passed s) (results : List Json)
    (hkeep : s.active = true → ∀ id ∈ forgottenIds str upper s.subjects results,
      id ∉ s.passedIds) :
    Honest s (forgetDiscoveries str upper s results).1 := by
  induction results generalizing s with
  | nil => exact ⟨h, .refl s⟩
  | cons result rest ih =>
      unfold forgottenIds at hkeep
      unfold forgetDiscoveries
      split
      · exact ⟨h, .refl s⟩
      · rename_i fields hdict
        rw [hdict] at hkeep
        simp only at hkeep ⊢
        split
        · rename_i hfind
          rw [hfind] at hkeep
          exact ih h hkeep
        · rename_i subject hfind
          rw [hfind] at hkeep
          simp only at hkeep
          -- holds of both ends of this turn: the loop raising, and the loop going on
          have hforgot (selected : Dict String (List String))
              (hnot : s.active = true → subject.subjectId ∉ s.passedIds) :
              Honest s { s with
                selected
                completed := s.completed.erase subject.subjectId
                discovered := s.discovered.erase subject.subjectId } :=
            Honest.of_same h rfl rfl rfl rfl rfl fun hrun id hid hin =>
              Finset.mem_erase.mpr ⟨fun heq => hnot hrun (heq ▸ hid), hin⟩
          split
          · rename_i hnone
            rw [hnone] at hkeep
            exact hforgot _ fun hrun => hkeep hrun _ (List.mem_singleton.mpr rfl)
          · rename_i addresses hsome
            rw [hsome] at hkeep
            have hone := hforgot (s.selected.set subject.subjectId addresses)
              fun hrun => hkeep hrun _ (List.mem_cons_self ..)
            exact Honest.after hone.tells (ih hone.passed fun hrun id hid =>
              hkeep hrun id (List.mem_cons_of_mem _ hid))

theorem honest_forgetLegacy {s : Sequence} (h : Passed s) {event payload : List (String × Json)}
    (hkeep : keepsPassedBy str upper s event payload) :
    Honest s (s.forgetLegacy str upper event payload).1 := by
  unfold forgetLegacy
  split
  · rename_i hlegacy
    split
    · exact ⟨h, .refl s⟩
    · rename_i results hiter
      refine honest_forgetDiscoveries h results fun hrun id hid => ?_
      have hnot := (hkeep hrun).1 hlegacy
      rw [hiter] at hnot
      exact hnot id hid
  · exact ⟨h, .refl s⟩

theorem honest_beginStep {s : Sequence} (env : Env) {subject : Subject} (operation : Operation)
    (hat : s.subjects[s.index]? = some subject)
    (hpassed : ∀ id ∈ s.passedIds, id ∈ s.completed) :
    Honest s (s.beginStep env subject operation) :=
  ⟨passed_beginStep env operation hat hpassed, s.tells_beginStep env subject operation⟩

/-- The reply to a running step is for the subject at the index. -/
theorem Passed.at_pending {s : Sequence} (h : Passed s) (hrun : s.active = true) {p : Pending}
    (hp : s.pending = some p) : s.subjects[s.index]? = some p.subject := by
  obtain ⟨q, hq, hat⟩ := h.waits hrun
  rw [hp] at hq
  cases hq
  exact hat

theorem honest_reject (s : Sequence) (message : String) : Honest s (s.reject message) :=
  s.honest_ended (.str message)

theorem honest_onDiscovered {s : Sequence} (h : Passed s) (env : Env) {p : Pending}
    (hp : s.pending = some p) (complete : Bool) (addresses : List String) :
    Honest s (s.onDiscovered env p complete addresses) := by
  unfold onDiscovered
  split
  · simp only
    have hfound : Tells s { s with
        selected := s.selected.set p.subject.subjectId addresses
        discovered := insert p.subject.subjectId s.discovered } := .silent rfl rfl
    have hgone := hfound.trans (tells_letGo _)
    obtain ⟨hsub, hindex, hcompleted⟩ := letGo_data { s with
      selected := s.selected.set p.subject.subjectId addresses
      discovered := insert p.subject.subjectId s.discovered }
    split
    · -- the subject at the index stays the pending one, so the step begins at it
      rename_i hrun
      rw [active_letGo] at hrun
      refine Honest.after hgone (honest_beginStep env .connecting ?_ fun id hid => ?_)
      · rw [hsub, hindex]
        exact h.at_pending hrun hp
      · rw [passedIds, hsub, hindex] at hid
        rw [hcompleted]
        exact h.passed hrun id hid
    · rename_i hrun
      exact ⟨passed_of_inactive (by simpa using hrun), hgone⟩
  · exact honest_reject _ _

/-- The subject at the index is done, and the rest is walked. -/
theorem honest_subjectDone {s : Sequence} (h : Passed s) (env : Env) {p : Pending}
    (hp : s.pending = some p) : Honest s (s.subjectDone env p.subject) := by
  have hdone : Tells s { s with completed := insert p.subject.subjectId s.completed } :=
    .silent rfl rfl
  have hgone := hdone.trans (tells_letGo _)
  obtain ⟨hsub, hindex, hcompleted⟩ := letGo_data
    { s with completed := insert p.subject.subjectId s.completed }
  unfold subjectDone
  simp only
  split
  · rename_i hrun
    rw [active_letGo] at hrun
    have hat := h.at_pending hrun hp
    have hpassed := h.passed hrun
    set t := { s with completed := insert p.subject.subjectId s.completed }.letGo with ht
    obtain ⟨hsub', hindex', hcompleted'⟩ := t.identifySubject_data env p.subject
    have hmoved : Tells s { t.identifySubject env p.subject with
        index := (t.identifySubject env p.subject).index + 1 } :=
      (hgone.trans (t.tells_identifySubject env p.subject)).trans (.silent rfl rfl)
    -- behind the new index stand the subjects passed before and the pending one
    have hnext := nextSubject_passed (s := { t.identifySubject env p.subject with
      index := (t.identifySubject env p.subject).index + 1 }) env rfl fun id hid => by
        rw [passedIds_succ (by rw [hsub', hindex', hsub, hindex]; exact hat), passedIds,
          hsub', hindex', hsub, hindex] at hid
        show id ∈ (t.identifySubject env p.subject).completed
        rw [hcompleted', hcompleted]
        rcases List.mem_append.mp hid with hid | hid
        · exact Finset.mem_insert_of_mem (hpassed id hid)
        · rw [List.mem_singleton.mp hid]
          exact Finset.mem_insert_self _ _
    exact ⟨hnext.1, hmoved.trans hnext.2⟩
  · rename_i hrun
    exact ⟨passed_of_inactive (by simpa using hrun), hgone⟩

theorem honest_onConnected {s : Sequence} (h : Passed s) (env : Env) {p : Pending}
    (hp : s.pending = some p) (complete : Bool) (sensors : List (List (String × Json))) :
    Honest s (s.onConnected str upper env p complete sensors) := by
  unfold onConnected
  split
  · split
    · exact ⟨h, .refl s⟩
    · split
      · exact honest_subjectDone h env hp
      · exact honest_reject s _
  · exact honest_reject s _

/-- Before a reply is looked at, the timer is off and a partial selection kept. -/
theorem honest_keepSelected {s : Sequence} (h : Passed s) (p : Pending) (reported : List String) :
    Honest s (s.cancelTimer.keepSelected p reported)
    ∧ (s.cancelTimer.keepSelected p reported).pending = s.pending := by
  unfold keepSelected
  split
  · exact ⟨Honest.of_same h rfl rfl rfl rfl rfl fun _ _ _ hin => hin, rfl⟩
  · exact ⟨Honest.of_same h rfl rfl rfl rfl rfl fun _ _ _ hin => hin, rfl⟩

theorem honest_onReply {s : Sequence} (h : Passed s) (env : Env) {p : Pending}
    (hp : s.pending = some p) (isError : Bool) (payload : List (String × Json)) :
    Honest s (s.onReply str upper env p isError payload) := by
  have hoff : Honest s s.cancelTimer :=
    Honest.of_same h rfl rfl rfl rfl rfl fun _ _ _ hin => hin
  unfold onReply
  simp only
  split
  · exact hoff
  · rename_i reported _
    obtain ⟨hkept, hpending⟩ := honest_keepSelected h p reported
    rw [hp] at hpending
    split
    · exact Honest.after hkept.tells (honest_ended _ _)
    · split
      · exact hkept
      · split
        · split
          · exact hkept
          · exact Honest.after hkept.tells (honest_onDiscovered hkept.passed env hpending _ _)
        · split
          · exact hkept
          · exact Honest.after hkept.tells (honest_onConnected hkept.passed env hpending _ _)

theorem honest_onPayload {s : Sequence} (h : Passed s) (env : Env)
    {event payload : List (String × Json)} (hkeep : keepsPassedBy str upper s event payload) :
    Honest s (s.onPayload str upper env event payload) := by
  unfold onPayload
  simp only
  split
  · exact honest_failIfActive s _
  · split
    · rename_i hkind
      split
      · rename_i hready
        refine honest_onReset h _ fun hrun hother => (hkeep hrun).2 ?_ hother
        rw [isReset, hkind, Bool.true_and]
        exact hready
      · exact ⟨h, .refl s⟩
    · split
      · split
        · exact ⟨h, .refl s⟩
        · exact honest_loseSensors h _ _
      · have hforgot := honest_forgetLegacy h hkeep
        split
        · split
          · exact hforgot
          · rename_i p hreplied
            have hp := (Option.filter_eq_some_iff.mp hreplied).1
            exact Honest.after hforgot.tells (honest_onReply hforgot.passed env hp _ _)
        · exact hforgot

theorem honest_onEvent {s : Sequence} (h : Passed s) (env : Env) {event : Json}
    (hkeep : keepsPassed str upper s (.event env event)) :
    Honest s (s.onEvent str upper env event) := by
  unfold onEvent
  split
  · exact ⟨h, .refl s⟩
  · rename_i fields hfields
    split
    · exact ⟨h, .refl s⟩
    · rename_i payload hpayload
      exact honest_onPayload h env (hkeep fields hfields payload hpayload)

/-! ## Runs -/

/-- What is emitted on the way from `s` to `s'` is true: a completed progress names every
subject configured then. -/
def Truthful (s s' : Sequence) : Prop :=
  ∃ added, s'.log = s.log ++ added ∧
    ∀ p, .progress p ∈ added → p.phase = .completed → p.completedSubjectIds = s.subjectIds

theorem Tells.truthful {s s' : Sequence} (h : Tells s s') : Truthful s s' := by
  obtain ⟨added, hlog, htold⟩ := h.log
  exact ⟨added, hlog, fun p hp => htold _ hp p rfl⟩

/-- A configuration ends the sequence and tells of nothing. -/
theorem configure_truthful (s : Sequence) (subjects : List Subject) :
    Passed (s.configure subjects) ∧ Truthful s (s.configure subjects) := by
  obtain ⟨added, hlog, htold⟩ := (tells_letGo s.cancelTimer).log
  exact ⟨passed_of_inactive rfl, added, hlog, fun p hp => htold _ hp p rfl⟩

theorem step_truthful {s s' : Sequence} {a : Action} (h : Passed s)
    (hkeep : keepsPassed str upper s a) (hstep : step str upper s a = some s') :
    Passed s' ∧ Truthful s s' := by
  cases a with
  | configure subjects =>
      cases hstep
      exact s.configure_truthful subjects
  | start env correlationId =>
      unfold step at hstep
      simp only [Option.ite_none_right_eq_some] at hstep
      obtain ⟨-, hstep⟩ := hstep
      cases hstep
      have hstart := s.honest_start h env correlationId
      exact ⟨hstart.passed, hstart.tells.truthful⟩
  | expired token =>
      cases hstep
      have hexpired := s.honest_expired h token
      exact ⟨hexpired.passed, hexpired.tells.truthful⟩
  | event env event =>
      cases hstep
      have hevent := honest_onEvent h env hkeep
      exact ⟨hevent.passed, hevent.tells.truthful⟩

theorem passed_of_run {s : Sequence}
    (hrun : Machine.Run (step str upper) (keepsPassed str upper) {} s) : Passed s :=
  hrun.invariant passed_init fun _ _ _ hkeep hstep h => (step_truthful h hkeep hstep).1

end Payloads

end Sequence

/-- **The completion of Connect All is truthful** as long as no subject the running sequence
has passed is taken back. -/
theorem truthful_of_keepsPassed {str : Json → String} {upper : String → String}
    {s s' : Sequence} {a : Sequence.Action}
    (hrun : Machine.Run (Sequence.step str upper) (Sequence.keepsPassed str upper) {} s)
    (hkeep : Sequence.keepsPassed str upper s a) (hstep : Sequence.step str upper s a = some s') :
    Sequence.Truthful s s' :=
  (Sequence.step_truthful (Sequence.passed_of_run hrun) hkeep hstep).2

/-! ## Two subjects on two nodes -/

def eventOf (kind : String) (payload : List (String × Json)) : Json :=
  .obj [("type", .str kind), ("payload", .obj payload)]

def discoveredReply (token node sid address : String) : Json :=
  eventOf "sensors_discovered"
    [("correlation_id", .str token), ("connection_sequence_id", .str "q"),
      ("node_id", .str node), ("operation_complete", .bool true),
      ("subjects", .arr [.obj
        [("subject_id", .str sid), ("discovered_sensors", .arr [.str address])]])]

def connectedReply (token node sid address : String) : Json :=
  eventOf "sensor_connected"
    [("correlation_id", .str token), ("connection_sequence_id", .str "q"),
      ("node_id", .str node), ("operation_complete", .bool true),
      ("subjects", .arr [.obj
        [("subject_id", .str sid), ("connected_sensors", .arr [.obj
          [("address", .str address), ("location", .str "wrist"), ("status", .str "CONNECTED"),
            ("setup_complete", .bool true)]])]])]

def draws (token : String) : Env := ⟨token, "q", "c", "i", none, none⟩

/-- The first subject is connected, the second one is being discovered. -/
def halfway : List Sequence.Action :=
  [.configure [⟨"s1", "master", [some "wrist"]⟩, ⟨"s2", "worker", [some "wrist"]⟩],
    .start (draws "t1") .null,
    .event (draws "t2") (discoveredReply "t1" "master" "s1" "AA"),
    .event (draws "t3") (connectedReply "t2" "master" "s1" "AA")]

/-- The second subject follows. Its connection completes the sequence. -/
def secondSubject : List Sequence.Action :=
  [.event (draws "t4") (discoveredReply "t3" "worker" "s2" "BB")]

def lastReply : Sequence.Action := .event (draws "t5") (connectedReply "t4" "worker" "s2" "BB")

/-- A discovery of the first subject that no sequence has asked for. -/
def lateDiscovery : Sequence.Action :=
  .event (draws "t6") (eventOf "sensors_discovered"
    [("node_id", .str "master"), ("subjects", .arr [.obj
      [("subject_id", .str "s1"), ("discovered_sensors", .arr [.str "AA"])]])])

/-- What each completed progress of the log lists. -/
def completions (log : List Entry) : List (List String) :=
  log.filterMap fun e =>
    match e with
    | .progress p => if p.phase = .completed then some p.completedSubjectIds else none
    | _ => none

theorem truthful_of_keepsPassed_two :
    ∃ s s', Machine.Run (Sequence.step (fun _ => "") id)
        (Sequence.keepsPassed (fun _ => "") id) {} s
      ∧ Sequence.step (fun _ => "") id s lastReply = some s'
      ∧ completions s.log = [] ∧ completions s'.log = [["s1", "s2"]]
      ∧ Sequence.Truthful s s' := by
  have hruns : ((Machine.execOk (Sequence.step (fun _ => "") id)
      (Sequence.keepsPassed (fun _ => "") id) {} (halfway ++ secondSubject)).bind fun s =>
        (Sequence.step (fun _ => "") id s lastReply).map fun s' =>
          (decide (Sequence.keepsPassed (fun _ => "") id s lastReply), completions s.log,
            completions s'.log)) = some (true, [], [["s1", "s2"]]) := by decide +kernel
  obtain ⟨s, hs, hrest⟩ := Option.bind_eq_some_iff.mp hruns
  obtain ⟨s', hs', hfields⟩ := Option.map_eq_some_iff.mp hrest
  simp only [Prod.mk.injEq] at hfields
  have hrun := Machine.Run.of_execOk _ hs
  exact ⟨s, s', hrun, hs', hfields.2.1, hfields.2.2,
    truthful_of_keepsPassed hrun (of_decide_eq_true hfields.1) hs'⟩

/-- The completion after the late discovery lists the second subject only. -/
theorem lateDiscovery_untruthful :
    ¬ ∀ s a s', Machine.Reach (Sequence.step (fun _ => "") id) {} s →
      Sequence.step (fun _ => "") id s a = some s' → Sequence.Truthful s s' := by
  intro hall
  have hruns : ((Machine.exec (Sequence.step (fun _ => "") id) {}
      (halfway ++ lateDiscovery :: secondSubject)).bind fun s =>
        (Sequence.step (fun _ => "") id s lastReply).map fun s' =>
          (s.subjectIds, completions s.log, completions s'.log))
      = some (["s1", "s2"], [], [["s2"]]) := by decide +kernel
  obtain ⟨s, hs, hrest⟩ := Option.bind_eq_some_iff.mp hruns
  obtain ⟨s', hs', hfields⟩ := Option.map_eq_some_iff.mp hrest
  simp only [Prod.mk.injEq] at hfields
  obtain ⟨hids, hbefore, hafter⟩ := hfields
  obtain ⟨added, hlog, htold⟩ := hall s lastReply s' (Machine.reach_of_exec _ hs) hs'
  have hadded : completions added = [["s2"]] := by
    have happend : completions s'.log = completions s.log ++ completions added := by
      rw [hlog, completions, List.filterMap_append]
      rfl
    rw [happend, hbefore] at hafter
    exact hafter
  -- the completion is among what the last reply added, so it would have to be full
  have hmem : ["s2"] ∈ completions added := by rw [hadded]; exact List.mem_singleton.mpr rfl
  obtain ⟨e, he, hcompletion⟩ := List.mem_filterMap.mp hmem
  cases e with
  | progress p =>
      simp only [Option.ite_none_right_eq_some] at hcompletion
      have htrue := htold p he hcompletion.1
      rw [hids, Option.some.inj hcompletion.2] at htrue
      exact absurd htrue (by decide)
  | busy => cases hcompletion
  | dispatched => cases hcompletion
  | identify => cases hcompletion
  | identifyError => cases hcompletion
  | released => cases hcompletion

end NexusN3.Connection
