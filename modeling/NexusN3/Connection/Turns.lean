import NexusN3.Connection.Identities

/-!
# What an operation of Connect All does to its pending step

Seen from the nodes, an operation leaves the pending step or lets it go, ends the sequence, or
begins a step with one command. What is known of the subjects follows the same cut.

* **`Sound`** — an active sequence waits on a step and has an id, and what is discovered is
  selected.
* **`Stays`**, **`Onward`** — the two ways of an operation; `turn_start`, `stays_expired` and
  `turn_onEvent` go through the operations.
* **`turn_onReply`** — a reply that can be read does not leave its step pending.
-/

namespace NexusN3.Connection

open Lib

/-! ## The commands of an operation -/

def Entry.command? : Entry → Option StepCommand
  | .dispatched c => some c
  | _ => none

/-- The command is the one of the pending step. -/
structure StepCommand.Orders (c : StepCommand) (p : Pending) : Prop where
  token : c.token = p.token
  node : c.nodeId = p.subject.nodeId
  operation : c.operation = p.operation
  subject : c.subjectId = p.subject.subjectId

namespace Sequence

/-- Between the two states these commands were dispatched. -/
def Sends (s t : Sequence) (cs : List StepCommand) : Prop :=
  ∃ added, t.log = s.log ++ added ∧ added.filterMap Entry.command? = cs

theorem Sends.refl (s : Sequence) : Sends s s [] := ⟨[], by simp, rfl⟩

theorem Sends.trans {s r t : Sequence} {cs ds : List StepCommand} (h1 : Sends s r cs)
    (h2 : Sends r t ds) : Sends s t (cs ++ ds) := by
  obtain ⟨added1, hlog1, rfl⟩ := h1
  obtain ⟨added2, hlog2, rfl⟩ := h2
  exact ⟨added1 ++ added2, by rw [hlog2, hlog1, List.append_assoc], List.filterMap_append⟩

theorem sends_of_log {s t : Sequence} (h : t.log = s.log) : Sends s t [] := ⟨[], by simp [h], rfl⟩

theorem sends_note (s : Sequence) {e : Entry} (he : e.command? = none) : Sends s (s.note e) [] :=
  ⟨[e], rfl, by simp [he]⟩

/-! ## The steps that are left -/

/-- The steps of a subject after the operation. -/
def stepsAfter : Operation → Nat
  | .discovering => 1
  | .connecting => 0

/-- The steps that may follow an operation of the subject at the index. -/
def stepsAt (s : Sequence) (operation : Operation) : Nat :=
  stepsAfter operation + 2 * (s.subjects.length - (s.index + 1))

/-- The steps that may follow the pending one. -/
def steps (s : Sequence) : Nat :=
  if s.active then (s.pending.map fun p => s.stepsAt p.operation).getD 0 else 0

theorem stepsAt_lt (s : Sequence) (h : s.index < s.subjects.length) (operation : Operation) :
    s.stepsAt operation < 2 * (s.subjects.length - s.index) := by
  have hmost : stepsAfter operation ≤ 1 := by cases operation <;> decide
  unfold stepsAt
  omega

theorem steps_le (s : Sequence) {p : Pending} (h : s.pending = some p) :
    s.steps ≤ s.stepsAt p.operation := by
  unfold steps
  split
  · rw [h]
    rfl
  · exact Nat.zero_le _

theorem steps_eq (s : Sequence) {p : Pending} (hactive : s.active = true)
    (h : s.pending = some p) : s.steps = s.stepsAt p.operation := by
  rw [steps, if_pos hactive, h]
  rfl

/-! ## Ways of an operation -/

structure Sound (s : Sequence) : Prop where
  waits : s.active = true → ∃ p, s.pending = some p
  named : s.active = true → ∃ id, s.sequenceId = some id ∧ id ≠ ""
  selected : ∀ sid ∈ s.discovered, ∃ addresses, s.selected.get? sid = some addresses
  pends : ∀ p, s.pending = some p → p.subject ∈ s.subjects
  /-- A subject that is being discovered is neither discovered nor connected. -/
  unknown : ∀ p, s.pending = some p → p.operation = .discovering →
    p.subject.subjectId ∉ s.discovered ∧ p.subject.subjectId ∉ s.completed

/-- Nothing is sent, and what is known of the subjects stays or is taken back. -/
structure Quiet (s t : Sequence) : Prop where
  subjects : t.subjects = s.subjects
  sequenceId : t.sequenceId = s.sequenceId
  discovered : ∀ sid ∈ t.discovered, sid ∈ s.discovered ∧ t.selected.get? sid = s.selected.get? sid
  completed : ∀ sid ∈ t.completed, sid ∈ s.completed ∧ t.selected.get? sid = s.selected.get? sid
  sent : Sends s t []

/-- The pending step stays, with the sequence running or not, or it is let go. -/
structure Stays (s t : Sequence) : Prop extends Quiet s t where
  pending : t.pending = s.pending ∨ t.pending = none
  running : t.active = true → s.active = true ∧ t.pending = s.pending ∧ t.index = s.index

/-- What may be known after an operation; `done` are the subjects it may complete, with their
selected addresses. -/
structure Gains (done : String → Option (List String) → Prop) (s t : Sequence) : Prop where
  subjects : t.subjects = s.subjects
  selected : (∀ sid ∈ s.discovered, ∃ addresses, s.selected.get? sid = some addresses) →
    ∀ sid ∈ t.discovered, ∃ addresses, t.selected.get? sid = some addresses
  completed : ∀ sid ∈ t.completed,
    sid ∈ s.completed ∧ t.selected.get? sid = s.selected.get? sid ∨ done sid (t.selected.get? sid)

/-- A step has begun with the command. -/
structure Begins (env : Env) (t : Sequence) (p : Pending) (c : StepCommand) : Prop where
  raises : env.stepRaises = none
  pending : t.pending = some p
  token : p.token = env.token
  orders : c.Orders p
  sequenceId : c.sequenceId = t.sequenceId
  named : ∃ id, t.sequenceId = some id ∧ id ≠ ""
  configured : p.subject ∈ t.subjects
  unknown : p.operation = .discovering →
    p.subject.subjectId ∉ t.discovered ∧ p.subject.subjectId ∉ t.completed

/-- The operation comes to an end of the sequence, or to a step with less than `k` left. -/
inductive Onward (env : Env) (done : String → Option (List String) → Prop) (k : Nat)
    (s t : Sequence) : Prop where
  /-- A command that is in the log nevertheless was not sent: its dispatch raised. -/
  | ended (hgains : Gains done s t) (hpending : t.pending = none) (hactive : t.active = false)
      (hsent : ∃ cs, Sends s t cs ∧ (env.stepRaises = none → cs = []))
  | begun (hgains : Gains done s t) (p : Pending) (c : StepCommand) (hbegins : Begins env t p c)
      (hsteps : t.steps < k) (hsent : Sends s t [c])

theorem Quiet.refl (s : Sequence) : Quiet s s :=
  ⟨rfl, rfl, fun _ h => ⟨h, rfl⟩, fun _ h => ⟨h, rfl⟩, .refl s⟩

theorem Quiet.trans {s r t : Sequence} (h1 : Quiet s r) (h2 : Quiet r t) : Quiet s t where
  subjects := h2.subjects.trans h1.subjects
  sequenceId := h2.sequenceId.trans h1.sequenceId
  discovered sid hin := by
    obtain ⟨hr, heq⟩ := h2.discovered sid hin
    obtain ⟨hs, heq'⟩ := h1.discovered sid hr
    exact ⟨hs, heq.trans heq'⟩
  completed sid hin := by
    obtain ⟨hr, heq⟩ := h2.completed sid hin
    obtain ⟨hs, heq'⟩ := h1.completed sid hr
    exact ⟨hs, heq.trans heq'⟩
  sent := h1.sent.trans h2.sent

theorem Stays.refl (s : Sequence) : Stays s s := { Quiet.refl s with
  pending := .inl rfl
  running := fun h => ⟨h, rfl, rfl⟩ }

theorem Stays.trans {s r t : Sequence} (h1 : Stays s r) (h2 : Stays r t) : Stays s t :=
  { h1.toQuiet.trans h2.toQuiet with
    pending := by
      rcases h2.pending with h | h
      · rw [h]
        exact h1.pending
      · exact .inr h
    running := fun hrun => by
      obtain ⟨hr, hpending, hindex⟩ := h2.running hrun
      obtain ⟨hs, hpending', hindex'⟩ := h1.running hr
      exact ⟨hs, hpending.trans hpending', hindex.trans hindex'⟩ }

theorem Stays.steps_le {s t : Sequence} (h : Stays s t) : t.steps ≤ s.steps := by
  cases hactive : t.active with
  | false => simp [steps, hactive]
  | true =>
      obtain ⟨hbefore, hpending, hindex⟩ := h.running hactive
      have hat (operation : Operation) : t.stepsAt operation = s.stepsAt operation := by
        rw [stepsAt, stepsAt, h.subjects, hindex]
      simp [steps, hactive, hbefore, hpending, hat]

/-- An operation that stops the sequence. -/
theorem Stays.of_inactive {s t : Sequence} (h : Quiet s t)
    (hpending : t.pending = s.pending ∨ t.pending = none) (hactive : t.active = false) :
    Stays s t :=
  { h with
    pending := hpending
    running := fun hrun => by rw [hactive] at hrun; cases hrun }

section Gains

variable {done : String → Option (List String) → Prop}

theorem Quiet.gains {s t : Sequence} (h : Quiet s t) : Gains done s t where
  subjects := h.subjects
  selected hs sid hin := by
    obtain ⟨hbefore, heq⟩ := h.discovered sid hin
    rw [heq]
    exact hs sid hbefore
  completed sid hin := .inl (h.completed sid hin)

theorem Gains.trans {s r t : Sequence} (h1 : Gains done s r) (h2 : Gains done r t) :
    Gains done s t where
  subjects := h2.subjects.trans h1.subjects
  selected hs := h2.selected (h1.selected hs)
  completed sid hin := by
    rcases h2.completed sid hin with ⟨hin, heq⟩ | hdone
    · rw [heq]
      exact h1.completed sid hin
    · exact .inr hdone

/-- Onward from a state that nothing was sent on the way to. -/
theorem Onward.after {env : Env} {k l : Nat} {s r t : Sequence} (h2 : Onward env done k r t)
    (h1 : Gains done s r) (hsent : Sends s r []) (hle : k ≤ l) : Onward env done l s t := by
  cases h2 with
  | ended hgains hpending hactive hsent2 =>
      obtain ⟨cs, hcs, hnone⟩ := hsent2
      exact .ended (h1.trans hgains) hpending hactive ⟨cs, hsent.trans hcs, hnone⟩
  | begun hgains p c hbegins hsteps hsent2 =>
      exact .begun (h1.trans hgains) p c hbegins (hsteps.trans_le hle) (hsent.trans hsent2)

/-! ## Small operations -/

theorem quiet_note (s : Sequence) {e : Entry} (he : e.command? = none) : Quiet s (s.note e) :=
  { Quiet.refl s with sent := s.sends_note he }

theorem quiet_progress (s : Sequence) (phase : Phase) (subject : Option Subject)
    (skipped : Bool) (failure : Option Failure) :
    Quiet s (s.progress phase subject skipped failure) := s.quiet_note rfl

theorem quiet_letGo (s : Sequence) : Quiet s s.letGo := by
  unfold letGo
  split
  · exact { Quiet.refl s with sent := ⟨_, rfl, rfl⟩ }
  · exact .refl s

theorem pending_letGo (s : Sequence) : s.letGo.pending = none := by
  unfold letGo
  split
  · rfl
  · assumption

theorem index_letGo (s : Sequence) : s.letGo.index = s.index := by
  unfold letGo
  split <;> rfl

theorem stepsAt_letGo (s : Sequence) (operation : Operation) :
    s.letGo.stepsAt operation = s.stepsAt operation := by
  unfold letGo
  split <;> rfl

theorem stays_fail (s : Sequence) (message : Json) (subject : Option Subject)
    (operation : Option Operation) : Stays s (s.fail message subject operation) := by
  have hquiet : Quiet s { s.cancelTimer with active := false } :=
    ⟨rfl, rfl, fun _ h => ⟨h, rfl⟩, fun _ h => ⟨h, rfl⟩, sends_of_log rfl⟩
  exact .of_inactive (hquiet.trans (quiet_progress _ _ _ _ _)) (.inl rfl) rfl

theorem stays_failIfActive (s : Sequence) (message : Json) : Stays s (s.failIfActive message) := by
  unfold failIfActive
  split
  · exact s.stays_fail message none none
  · exact .refl s

/-- The sequence fails, and its step is let go. -/
theorem stays_released (s : Sequence) (message : Json) :
    Stays s (s.failIfActive message).letGo := by
  refine .of_inactive ((s.stays_failIfActive message).toQuiet.trans (quiet_letGo _))
    (.inr (pending_letGo _)) ?_
  rw [active_letGo]
  exact s.failIfActive_active message

/-! ## Steps -/

def orderOf (s : Sequence) (env : Env) (subject : Subject) (operation : Operation)
    (addresses : List String) : StepCommand where
  nodeId := subject.nodeId
  operation
  token := env.token
  sequenceId := s.sequenceId
  subjectId := subject.subjectId
  addresses

/-- The step is pending, and its command is in the log. -/
def ordered (s : Sequence) (env : Env) (subject : Subject) (operation : Operation)
    (addresses : List String) : Sequence :=
  { { s with pending := some ⟨env.token, subject, operation⟩ }.progress operation.phase
      (some subject) false none with
    timer := some env.token }.note (.dispatched (s.orderOf env subject operation addresses))

/-- A step whose addresses are known is ordered; when its dispatch raises, the sequence fails. -/
theorem beginStep_cases (s : Sequence) (env : Env) {subject : Subject} {operation : Operation}
    (hconnecting : operation = .connecting →
      ∃ addresses, s.selected.get? subject.subjectId = some addresses) :
    ∃ addresses,
      env.stepRaises = none ∧
          s.beginStep env subject operation = s.ordered env subject operation addresses ∨
        ∃ exc, env.stepRaises = some exc ∧ s.beginStep env subject operation =
          ((s.ordered env subject operation addresses).fail (.str exc) none none).letGo := by
  unfold beginStep
  simp only
  split
  · rename_i hnone
    cases operation with
    | discovering => cases hnone
    | connecting =>
        obtain ⟨addresses, hsome⟩ := hconnecting rfl
        exact absurd (hsome.symm.trans hnone) (by simp)
  · rename_i addresses _
    refine ⟨addresses, ?_⟩
    split
    · rename_i hraises
      exact .inl ⟨hraises, rfl⟩
    · rename_i exc hraises
      exact .inr ⟨exc, hraises, rfl⟩

theorem gains_ordered (s : Sequence) (env : Env) (subject : Subject) (operation : Operation)
    (addresses : List String) : Gains done s (s.ordered env subject operation addresses) :=
  ⟨rfl, fun h => h, fun _ h => .inl ⟨h, rfl⟩⟩

theorem sends_ordered (s : Sequence) (env : Env) (subject : Subject) (operation : Operation)
    (addresses : List String) : Sends s (s.ordered env subject operation addresses)
      [s.orderOf env subject operation addresses] := by
  have hprogress : Sends s ({ s with pending := some ⟨env.token, subject, operation⟩ }.progress
      operation.phase (some subject) false none) [] := ⟨[_], rfl, rfl⟩
  exact hprogress.trans ⟨[_], rfl, rfl⟩

theorem onward_beginStep (s : Sequence) (env : Env) {subject : Subject} {operation : Operation}
    {k : Nat} (hsteps : s.stepsAt operation < k) (hmem : subject ∈ s.subjects)
    (hnamed : ∃ id, s.sequenceId = some id ∧ id ≠ "")
    (hdiscovering : operation = .discovering →
      subject.subjectId ∉ s.discovered ∧ subject.subjectId ∉ s.completed)
    (hconnecting : operation = .connecting →
      ∃ addresses, s.selected.get? subject.subjectId = some addresses) :
    Onward env done k s (s.beginStep env subject operation) := by
  obtain ⟨addresses, ⟨hraises, heq⟩ | ⟨exc, hraises, heq⟩⟩ := s.beginStep_cases env hconnecting
  · rw [heq]
    exact .begun (s.gains_ordered env subject operation addresses)
      ⟨env.token, subject, operation⟩ (s.orderOf env subject operation addresses)
      ⟨hraises, rfl, rfl, ⟨rfl, rfl, rfl, rfl⟩, rfl, hnamed, hmem, hdiscovering⟩
      ((steps_le (s.ordered env subject operation addresses) rfl).trans_lt hsteps)
      (s.sends_ordered env subject operation addresses)
  · rw [heq]
    have hfailed : Quiet (s.ordered env subject operation addresses)
        ((s.ordered env subject operation addresses).fail (.str exc) none none).letGo :=
      (stays_fail _ _ none none).toQuiet.trans (quiet_letGo _)
    -- the command is in the log, but it was not sent
    refine .ended ((s.gains_ordered env subject operation addresses).trans hfailed.gains)
      (pending_letGo _) (by rw [active_letGo]; rfl)
      ⟨_, (s.sends_ordered env subject operation addresses).trans hfailed.sent, fun hnone => ?_⟩
    rw [hraises] at hnone
    cases hnone

/-- Walking on over the configured subjects that are left. Induction on what is left. -/
theorem onward_nextSubject (env : Env) (rest : List Subject) (s : Sequence) {k : Nat}
    (hlength : rest.length ≤ s.subjects.length - s.index)
    (hsteps : 2 * (s.subjects.length - s.index) ≤ k) (hpending : s.pending = none)
    (hrest : ∀ subject ∈ rest, subject ∈ s.subjects)
    (hnamed : ∃ id, s.sequenceId = some id ∧ id ≠ "")
    (hselected : ∀ sid ∈ s.discovered, ∃ addresses, s.selected.get? sid = some addresses) :
    Onward env done k s (s.nextSubject env rest) := by
  induction rest generalizing s with
  | nil =>
      have hquiet : Quiet s { s with active := false } := { Quiet.refl s with }
      have hcompleted := hquiet.trans (quiet_progress _ .completed s.subjects.getLast? false none)
      exact .ended hcompleted.gains hpending rfl ⟨[], hcompleted.sent, fun _ => rfl⟩
  | cons subject rest ih =>
      rw [List.length_cons] at hlength
      unfold nextSubject
      split
      · set r := { s.progress .subjectConnected (some subject) true none with
          index := s.index + 1 } with hr
        have hskipped : Quiet s r :=
          { s.quiet_progress .subjectConnected (some subject) true none with }
        have hindex : r.subjects.length - r.index = s.subjects.length - s.index - 1 :=
          Nat.sub_add_eq _ _ 1
        refine Onward.after ?_ hskipped.gains hskipped.sent (Nat.le_refl k)
        refine ih r ?_ ?_ hpending (fun other hmem => hrest other (List.mem_cons_of_mem _ hmem))
          hnamed hselected
        · rw [hindex]
          exact Nat.le_sub_of_add_le hlength
        · rw [hindex]
          omega
      · rename_i hout
        refine s.onward_beginStep env ?_ (hrest subject List.mem_cons_self) hnamed ?_ ?_
        · have hin : s.index < s.subjects.length :=
            Nat.lt_of_sub_pos ((Nat.succ_pos _).trans_le hlength)
          exact (s.stepsAt_lt hin _).trans_le hsteps
        · intro hop
          refine ⟨fun hin => ?_, hout⟩
          rw [if_pos hin] at hop
          cases hop
        · intro hop
          by_cases hin : subject.subjectId ∈ s.discovered
          · exact hselected _ hin
          · rw [if_neg hin] at hop
            cases hop

/-! ## Starting, expiring, notifications -/

theorem turn_start {s : Sequence} (h : Sound s) (env : Env) (correlationId : Json)
    (hid : s.busy = false → env.sequenceId ≠ "") :
    Stays s (s.start env correlationId) ∨
      Onward env done (2 * s.subjects.length) s (s.start env correlationId) := by
  unfold start
  split
  · exact .inl { s.quiet_note rfl with
      pending := .inl rfl
      running := fun hrun => ⟨hrun, rfl, rfl⟩ }
  · rename_i hidle
    split
    · exact .inl (.refl s)
    · have hbusy : s.busy = false := by simpa using hidle
      have hpending : s.pending = none := by
        simp only [busy, Bool.or_eq_false_iff] at hbusy
        simpa using hbusy.2
      set r := { s with
        correlationId := if correlationId.truthy then correlationId else .str env.correlationId
        sequenceId := some env.sequenceId
        active := true
        index := 0 } with hr
      have hbegun : Onward env done (2 * s.subjects.length) r (r.nextSubject env s.subjects) :=
        r.onward_nextSubject env s.subjects (Nat.le_refl _) (Nat.le_refl _) hpending
          (fun _ hmem => hmem) ⟨_, rfl, hid hbusy⟩ h.selected
      exact .inr (hbegun.after ⟨rfl, fun h => h, fun _ hin => .inl ⟨hin, rfl⟩⟩ (sends_of_log rfl)
        (Nat.le_refl _))

theorem stays_expired (s : Sequence) (token : String) : Stays s (s.expired token) := by
  unfold expired
  split
  · split
    · exact s.stays_fail _ none none
    · exact .refl s
  · exact .refl s

/-- Everything of a subject is taken back at once. -/
theorem stays_retire (s : Sequence) (sid : String) : Stays s (s.retire sid) where
  subjects := rfl
  sequenceId := rfl
  discovered id hin := by
    obtain ⟨hne, hin⟩ := Finset.mem_erase.mp hin
    exact ⟨hin, by simp [retire, Dict.get?_restrict, hne]⟩
  completed id hin := by
    obtain ⟨hne, hin⟩ := Finset.mem_erase.mp hin
    exact ⟨hin, by simp [retire, Dict.get?_restrict, hne]⟩
  sent := sends_of_log rfl
  pending := .inl rfl
  running hrun := ⟨hrun, rfl, rfl⟩

theorem stays_retired (s : Sequence) (node : Json) (subjects : List Subject) :
    Stays s (subjects.foldl (fun s subject =>
      if node.isText subject.nodeId then s.retire subject.subjectId else s) s) := by
  induction subjects generalizing s with
  | nil => exact .refl s
  | cons subject rest ih =>
      simp only [List.foldl_cons]
      split
      · exact (s.stays_retire _).trans (ih _)
      · exact ih s

theorem stays_onReset (s : Sequence) (node : Json) : Stays s (s.onReset node) := by
  have hretired := s.stays_retired node s.subjects
  unfold onReset
  simp only
  split
  · split
    · exact hretired.trans (stays_released _ _)
    · exact hretired
  · exact hretired

theorem stays_loseSensors (lost : List String) (items : List (String × List String))
    (s : Sequence) : Stays s (loseSensors lost s items) := by
  induction items generalizing s with
  | nil => exact .refl s
  | cons item rest ih =>
      obtain ⟨sid, addresses⟩ := item
      have herased : Stays s { s with completed := s.completed.erase sid } :=
        { Stays.refl s with
          completed := fun id hin => ⟨(Finset.mem_erase.mp hin).2, rfl⟩
          sent := sends_of_log rfl }
      unfold loseSensors
      split
      · simp only
        split
        · split
          · exact (herased.trans (stays_fail _ _ _ _)).trans (ih _)
          · exact herased
        · exact herased.trans (ih _)
      · exact ih s

section Payloads

variable {str : Json → String} {upper : String → String}

theorem stays_forgetDiscoveries (results : List Json) (s : Sequence) :
    Stays s (s.forgetDiscoveries str upper results).1 := by
  induction results generalizing s with
  | nil => exact .refl s
  | cons result rest ih =>
      unfold forgetDiscoveries
      split
      · exact .refl s
      · simp only
        split
        · exact ih s
        · rename_i subject _
          have hgone : Stays s { s with
              completed := s.completed.erase subject.subjectId
              discovered := s.discovered.erase subject.subjectId } :=
            { Stays.refl s with
              discovered := fun id hin => ⟨(Finset.mem_erase.mp hin).2, rfl⟩
              completed := fun id hin => ⟨(Finset.mem_erase.mp hin).2, rfl⟩
              sent := sends_of_log rfl }
          split
          · exact hgone
          · rename_i addresses _
            -- the selection is new, but nothing is known of its subject any more
            have hwritten : Stays s { s with
                selected := s.selected.set subject.subjectId addresses
                completed := s.completed.erase subject.subjectId
                discovered := s.discovered.erase subject.subjectId } :=
              { Stays.refl s with
                discovered := fun id hin => by
                  obtain ⟨hne, hin⟩ := Finset.mem_erase.mp hin
                  exact ⟨hin, Dict.get?_set_ne _ _ hne.symm⟩
                completed := fun id hin => by
                  obtain ⟨hne, hin⟩ := Finset.mem_erase.mp hin
                  exact ⟨hin, Dict.get?_set_ne _ _ hne.symm⟩
                sent := sends_of_log rfl }
            exact hwritten.trans (ih _)

theorem stays_forgetLegacy (s : Sequence) (event payload : List (String × Json)) :
    Stays s (s.forgetLegacy str upper event payload).1 := by
  unfold forgetLegacy
  split
  · split
    · exact .refl s
    · exact s.stays_forgetDiscoveries _
  · exact .refl s

/-! ## Replies -/

/-- A selection for a subject that is being discovered says nothing of those that are known. -/
theorem stays_keepSelected {s : Sequence} (h : Sound s) {p : Pending} (hp : s.pending = some p)
    (reported : List String) : Stays s (s.keepSelected p reported) := by
  unfold keepSelected
  split
  · rename_i hkept
    obtain ⟨hdiscovered, hcompleted⟩ := h.unknown p hp hkept.2
    exact
      { Stays.refl s with
        discovered := fun id hin => ⟨hin, Dict.get?_set_ne _ _ fun heq =>
          hdiscovered (heq ▸ hin)⟩
        completed := fun id hin => ⟨hin, Dict.get?_set_ne _ _ fun heq => hcompleted (heq ▸ hin)⟩
        sent := sends_of_log rfl }
  · exact .refl s

/-- What stays of soundness in a running sequence. -/
theorem Stays.sound {s t : Sequence} (h : Stays s t) (hs : Sound s) : Sound t where
  waits hrun := by
    obtain ⟨hbefore, hpending, -⟩ := h.running hrun
    rw [hpending]
    exact hs.waits hbefore
  named hrun := by
    rw [h.sequenceId]
    exact hs.named (h.running hrun).1
  selected sid hin := by
    obtain ⟨hbefore, heq⟩ := h.discovered sid hin
    rw [heq]
    exact hs.selected sid hbefore
  pends p hp := by
    rcases h.pending with heq | hnone
    · rw [h.subjects]
      exact hs.pends p (heq ▸ hp)
    · rw [hnone] at hp
      cases hp
  unknown p hp hop := by
    rcases h.pending with heq | hnone
    · obtain ⟨hdiscovered, hcompleted⟩ := hs.unknown p (heq ▸ hp) hop
      exact ⟨fun hin => hdiscovered (h.discovered _ hin).1,
        fun hin => hcompleted (h.completed _ hin).1⟩
    · rw [hnone] at hp
      cases hp

/-- The operation does not leave the step pending. -/
def LetsGo (env : Env) (done : String → Option (List String) → Prop) (s t : Sequence) : Prop :=
  Stays s t ∧ t.pending = none ∨ Onward env done s.steps s t

theorem LetsGo.after {env : Env} {s r t : Sequence} (h2 : LetsGo env done r t)
    (h1 : Stays s r) : LetsGo env done s t := by
  rcases h2 with ⟨hstays, hnone⟩ | honward
  · exact .inl ⟨h1.trans hstays, hnone⟩
  · exact .inr (honward.after h1.gains h1.sent h1.steps_le)

theorem letsGo_reject (env : Env) (s : Sequence) (message : String) :
    LetsGo env done s (s.reject message) :=
  .inl ⟨s.stays_released _, pending_letGo _⟩

theorem letsGo_onDiscovered {s : Sequence} (h : Sound s) (env : Env) {p : Pending}
    (hp : s.pending = some p) (hop : p.operation = .discovering) (complete : Bool)
    (addresses : List String) : LetsGo env done s (s.onDiscovered env p complete addresses) := by
  obtain ⟨-, hcompleted⟩ := h.unknown p hp hop
  unfold onDiscovered
  split
  · set r := { s with
      selected := s.selected.set p.subject.subjectId addresses
      discovered := insert p.subject.subjectId s.discovered } with hr
    have hfound : Gains done s r := by
      refine ⟨rfl, fun hs sid hin => ?_, fun sid hin => .inl ⟨hin, ?_⟩⟩
      · rcases Finset.mem_insert.mp hin with rfl | hin
        · exact ⟨addresses, Dict.get?_set_self _ _ _⟩
        · by_cases heq : p.subject.subjectId = sid
          · exact ⟨addresses, by rw [hr, ← heq]; exact Dict.get?_set_self _ _ _⟩
          · rw [hr]
            show ∃ addresses', (s.selected.set p.subject.subjectId addresses).get? sid = _
            rw [Dict.get?_set_ne _ _ heq]
            exact hs sid hin
      · exact Dict.get?_set_ne _ _ fun heq => hcompleted (heq ▸ hin)
    have hgone := hfound.trans (quiet_letGo r).gains
    have hsent : Sends s r.letGo [] := (sends_of_log rfl).trans (quiet_letGo r).sent
    simp only
    split
    · rename_i hactive
      rw [active_letGo] at hactive
      refine .inr (Onward.after (r.letGo.onward_beginStep env ?_ ?_ ?_ ?_ fun _ => ?_) hgone hsent
        (Nat.le_refl _))
      · rw [s.steps_eq hactive hp, hop, stepsAt_letGo]
        exact Nat.add_lt_add_right Nat.one_pos _
      · rw [hgone.subjects]
        exact h.pends p hp
      · rw [(quiet_letGo r).sequenceId]
        exact h.named hactive
      · intro hconnecting
        cases hconnecting
      · exact hgone.selected h.selected _ (by
          rw [(letGo_identities r).2.2]
          exact Finset.mem_insert_self _ _)
    · rename_i hidle
      exact .inr (.ended hgone (pending_letGo r) (by simpa using hidle) ⟨[], hsent, fun _ => rfl⟩)
  · exact letsGo_reject env s _

theorem quiet_identifySubject (s : Sequence) (env : Env) (subject : Subject) :
    Quiet s (s.identifySubject env subject) := by
  have htold : Quiet s ((s.progress .subjectConnected (some subject) false none).note
      (.identify subject.nodeId subject.subjectId env.identifyId s.sequenceId s.correlationId)) :=
    (s.quiet_progress _ _ _ _).trans (quiet_note _ rfl)
  unfold identifySubject
  simp only
  split
  · exact htold
  · exact htold.trans (quiet_note _ rfl)

theorem pending_identifySubject (s : Sequence) (env : Env) (subject : Subject) :
    (s.identifySubject env subject).pending = s.pending := by
  unfold identifySubject
  simp only
  split <;> rfl

theorem index_identifySubject (s : Sequence) (env : Env) (subject : Subject) :
    (s.identifySubject env subject).index = s.index := by
  unfold identifySubject
  simp only
  split <;> rfl

theorem letsGo_subjectDone {s : Sequence} (h : Sound s) (env : Env) {p : Pending}
    (hp : s.pending = some p) (hop : p.operation = .connecting)
    (hdone : done p.subject.subjectId (s.selected.get? p.subject.subjectId)) :
    LetsGo env done s (s.subjectDone env p.subject) := by
  set r := { s with completed := insert p.subject.subjectId s.completed } with hr
  have hgains : Gains done s r := by
    refine ⟨rfl, fun hs => hs, fun sid hin => ?_⟩
    rcases Finset.mem_insert.mp hin with rfl | hin
    · exact .inr hdone
    · exact .inl ⟨hin, rfl⟩
  have hgone := hgains.trans (quiet_letGo r).gains
  have hsent : Sends s r.letGo [] := (sends_of_log rfl).trans (quiet_letGo r).sent
  unfold subjectDone
  simp only
  split
  · rename_i hactive
    rw [active_letGo] at hactive
    have htold := r.letGo.quiet_identifySubject env p.subject
    have hindex := (r.letGo.index_identifySubject env p.subject).trans (index_letGo r)
    set u := r.letGo.identifySubject env p.subject
    have hmoved : Quiet r.letGo { u with index := u.index + 1 } := { htold with }
    have hall : Gains done s { u with index := u.index + 1 } := hgone.trans hmoved.gains
    have hsteps : 2 * (u.subjects.length - (u.index + 1)) ≤ s.steps := by
      rw [s.steps_eq hactive hp, hop, hindex, hall.subjects]
      exact (Nat.zero_add _).ge
    refine .inr (Onward.after ?_ hall (hsent.trans hmoved.sent) (Nat.le_refl _))
    refine onward_nextSubject env _ _ ?_ hsteps ?_ (fun _ hmem => List.mem_of_mem_drop hmem) ?_
      (hall.selected h.selected)
    · exact (List.length_drop).le
    · exact (pending_identifySubject _ env p.subject).trans (pending_letGo r)
    · rw [hmoved.sequenceId, (quiet_letGo r).sequenceId]
      exact h.named hactive
  · rename_i hidle
    exact .inr (.ended hgone (pending_letGo r) (by simpa using hidle) ⟨[], hsent, fun _ => rfl⟩)

/-- A location that is no key of a `Counter` raises; any other connection lets its step go. -/
theorem turn_onConnected {s : Sequence} (h : Sound s) (env : Env) {p : Pending}
    (hp : s.pending = some p) (hop : p.operation = .connecting) (complete : Bool)
    {sensors : List (List (String × Json))}
    (hdone : ∀ places, sensors.mapM (placeOf str upper) = some places →
      places.Perm (s.selectedPlaces p.subject) → sensors.length = p.subject.locations.length →
        done p.subject.subjectId (s.selected.get? p.subject.subjectId)) :
    LetsGo env done s (s.onConnected str upper env p complete sensors) ∨
      sensors.mapM (placeOf str upper) = none ∧
        Stays s (s.onConnected str upper env p complete sensors) := by
  unfold onConnected
  split
  · rename_i hshape
    simp only [connectionShape, Bool.and_eq_true, decide_eq_true_eq, List.length_map] at hshape
    split
    · rename_i hnone
      exact .inr ⟨hnone, .refl s⟩
    · rename_i places hplaces
      split
      · rename_i hvalid
        exact .inl (letsGo_subjectDone h env hp hop
          (hdone places hplaces hvalid.1 hshape.1.1.2))
      · exact .inl (letsGo_reject env s _)
  · exact .inl (letsGo_reject env s _)

/-- Nothing raises while the reply to the step is read. -/
structure Readable (str : Json → String) (upper : String → String) (p : Pending)
    (isError : Bool) (payload : List (String × Json)) : Prop where
  reported : ∃ reported,
    normalizedAll str upper (Json.getD payload "selected_addresses" (.arr [])) = some reported
  results : isError = false → ∃ results, resultsOf payload p.subject.subjectId = some results
    ∧ (p.operation = .discovering →
      ∃ addresses, discoveredAddresses str upper results = some addresses)
    ∧ (p.operation = .connecting → ∃ sensors places, connectedSensors results = some sensors
      ∧ sensors.mapM (placeOf str upper) = some places)

/-- The reply says of the subject of the step what completes it. -/
structure Completes (str : Json → String) (upper : String → String) (p : Pending)
    (payload : List (String × Json)) (selected : Option (List String)) : Prop where
  connecting : p.operation = .connecting
  sensors : ∃ results sensors places, resultsOf payload p.subject.subjectId = some results
    ∧ connectedSensors results = some sensors ∧ sensors.mapM (placeOf str upper) = some places
    ∧ places.Perm (((selected.getD []).zip p.subject.locations).map
      fun place => (place.1, some place.2))
    ∧ sensors.length = p.subject.locations.length

/-- The results of a reply that can be read. -/
theorem Readable.of_results {p : Pending} {payload : List (String × Json)}
    (h : Readable str upper p false payload) {results : List (List (String × Json))}
    (hresults : resultsOf payload p.subject.subjectId = some results) :
    (p.operation = .discovering →
      ∃ addresses, discoveredAddresses str upper results = some addresses)
    ∧ (p.operation = .connecting → ∃ sensors places, connectedSensors results = some sensors
      ∧ sensors.mapM (placeOf str upper) = some places) := by
  obtain ⟨results', hresults', hboth⟩ := h.results rfl
  rw [hresults] at hresults'
  cases hresults'
  exact hboth

/-- A reply leaves its step pending only if it cannot be read. -/
theorem turn_onReply {s : Sequence} (h : Sound s) (env : Env) {p : Pending}
    (hp : s.pending = some p) (isError : Bool) (payload : List (String × Json))
    (hdone : isError = false →
      Completes str upper p payload (s.selected.get? p.subject.subjectId) →
        done p.subject.subjectId (s.selected.get? p.subject.subjectId)) :
    LetsGo env done s (s.onReply str upper env p isError payload) ∨
      ¬ Readable str upper p isError payload ∧
        Stays s (s.onReply str upper env p isError payload) := by
  have hoff : Stays s s.cancelTimer := { Stays.refl s with sent := sends_of_log rfl }
  unfold onReply
  simp only
  split
  · rename_i hnone
    refine .inr ⟨fun hread => ?_, hoff⟩
    obtain ⟨reported, hreported⟩ := hread.reported
    rw [hnone] at hreported
    cases hreported
  · rename_i reported _
    have hkept : Stays s (s.cancelTimer.keepSelected p reported) :=
      hoff.trans (stays_keepSelected (hoff.sound h) hp reported)
    have hpending : (s.cancelTimer.keepSelected p reported).pending = some p := by
      unfold keepSelected
      split <;> exact hp
    split
    · have hreleased := stays_released (s.cancelTimer.keepSelected p reported)
        (Json.getD payload "message" (.str "Subject operation failed"))
      exact .inl (.inl ⟨hkept.trans hreleased, pending_letGo _⟩)
    · rename_i herror
      obtain rfl : isError = false := by simpa using herror
      split
      · rename_i hnone
        refine .inr ⟨fun hread => ?_, hkept⟩
        obtain ⟨results, hresults, -⟩ := hread.results rfl
        rw [hnone] at hresults
        cases hresults
      · rename_i results hresults
        split
        · rename_i hop
          split
          · rename_i hnone
            refine .inr ⟨fun hread => ?_, hkept⟩
            obtain ⟨addresses, haddresses⟩ := (hread.of_results hresults).1 hop
            rw [hnone] at haddresses
            cases haddresses
          · exact .inl ((letsGo_onDiscovered (hkept.sound h) env hpending hop _ _).after hkept)
        · rename_i hop
          split
          · rename_i hnone
            refine .inr ⟨fun hread => ?_, hkept⟩
            obtain ⟨sensors, places, hsensors, -⟩ := (hread.of_results hresults).2 hop
            rw [hnone] at hsensors
            cases hsensors
          · rename_i sensors hsensors
            -- the reply to a connection selects nothing
            have hsame : s.cancelTimer.keepSelected p reported = s.cancelTimer := by
              rw [keepSelected, if_neg (by simp [hop])]
            rw [hsame] at hkept ⊢
            rcases turn_onConnected (hkept.sound h) env hp hop _
              (fun places hplaces hperm hcount => hdone rfl ⟨hop, results, sensors, places,
                hresults, hsensors, hplaces, hperm, hcount⟩) with hturn | ⟨hnone, hstays⟩
            · exact .inl (hturn.after hkept)
            · refine .inr ⟨fun hread => ?_, hkept.trans hstays⟩
              obtain ⟨sensors', places, hsensors', hplaces⟩ := (hread.of_results hresults).2 hop
              rw [hsensors] at hsensors'
              cases hsensors'
              rw [hnone] at hplaces
              cases hplaces

/-! ## Events -/

variable (str upper)

/-- The event answers the pending connection of the subject, and says what completes it. -/
def Answered (s : Sequence) (event : Json) (sid : String) (selected : Option (List String)) :
    Prop :=
  ∃ fields payload p, event = .obj fields ∧ Json.get fields "payload" = .obj payload
    ∧ Answers s fields payload p ∧ Json.get fields "type" = .str evtSensorConnected
    ∧ p.subject.subjectId = sid ∧ Completes str upper p payload selected

variable {str upper}

theorem turn_onPayload {s : Sequence} (h : Sound s) (env : Env)
    (event payload : List (String × Json)) (hpayload : Json.get event "payload" = .obj payload) :
    Stays s (s.onPayload str upper env event payload) ∨
      Onward env (Answered str upper s (.obj event)) s.steps s
        (s.onPayload str upper env event payload) := by
  unfold onPayload
  simp only
  split
  · exact .inl (s.stays_failIfActive _)
  · split
    · split
      · exact .inl (s.stays_onReset _)
      · exact .inl (.refl s)
    · split
      · split
        · exact .inl (.refl s)
        · exact .inl (stays_loseSensors _ _ s)
      · have hforgot : Stays s (s.forgetLegacy str upper event payload).1 :=
          s.stays_forgetLegacy event payload
        split
        · split
          · exact .inl hforgot
          · rename_i p hreplied
            have hanswers := repliedStep_eq_some hreplied
            have hdone (herror : (Json.get event "type").isText evtError = false)
                (hcompletes : Completes str upper p payload
                  ((s.forgetLegacy str upper event payload).1.selected.get? p.subject.subjectId)) :
                Answered str upper s (.obj event) p.subject.subjectId
                  ((s.forgetLegacy str upper event payload).1.selected.get?
                    p.subject.subjectId) := by
              have hkind : Json.get event "type" = .str evtSensorConnected := by
                rcases hanswers.kind with hkind | hkind
                · rw [hkind] at herror
                  cases herror
                · rw [hkind, hcompletes.connecting]
                  rfl
              -- a connection is no discovery, so nothing was forgotten
              have hsame : (s.forgetLegacy str upper event payload).1 = s := by
                rw [forgetLegacy, isLegacyDiscovery, hkind]
                rfl
              rw [hsame] at hanswers hcompletes ⊢
              exact ⟨event, payload, p, rfl, hpayload, hanswers, hkind, rfl, hcompletes⟩
            rcases turn_onReply (hforgot.sound h) env hanswers.pending _ payload hdone with
              (⟨hstays, -⟩ | honward) | ⟨-, hstays⟩
            · exact .inl (hforgot.trans hstays)
            · exact .inr (honward.after hforgot.gains hforgot.sent hforgot.steps_le)
            · exact .inl (hforgot.trans hstays)
        · exact .inl hforgot

theorem turn_onEvent {s : Sequence} (h : Sound s) (env : Env) (event : Json) :
    Stays s (s.onEvent str upper env event) ∨
      Onward env (Answered str upper s event) s.steps s (s.onEvent str upper env event) := by
  unfold onEvent
  split
  · exact .inl (.refl s)
  · rename_i fields hfields
    obtain rfl : event = .obj fields := by
      cases event with
      | obj f => cases hfields; rfl
      | _ => cases hfields
    split
    · exact .inl (.refl s)
    · rename_i payload hdict
      have hpayload : Json.get fields "payload" = .obj payload := by
        cases hvalue : Json.get fields "payload" with
        | obj f => rw [hvalue] at hdict; cases hdict; rfl
        | _ => rw [hvalue] at hdict; cases hdict
      exact turn_onPayload h env fields payload hpayload

theorem Answers.repliedStep {s : Sequence} {event payload : List (String × Json)} {p : Pending}
    (h : Answers s event payload p) : s.repliedStep event payload = some p := by
  refine Option.filter_eq_some_iff.mpr ⟨h.pending, ?_⟩
  simp only [Bool.and_eq_true, Bool.or_eq_true, Json.isText_iff]
  exact ⟨⟨⟨h.token, h.sequenceId⟩, h.node⟩, h.kind⟩

/-- A reply of a sequence goes straight to the pending step that it answers. -/
theorem onEvent_answered (s : Sequence) (env : Env) {event payload : List (String × Json)}
    {p : Pending} (hpayload : Json.get event "payload" = .obj payload)
    (hcarries : (Json.get payload "connection_sequence_id").truthy = true)
    (hanswers : Answers s event payload p) :
    s.onEvent str upper env (.obj event) =
      s.onReply str upper env p ((Json.get event "type").isText evtError) payload := by
  have hlegacy : s.forgetLegacy str upper event payload = (s, true) := by
    rw [forgetLegacy, isLegacyDiscovery, hcarries]
    simp
  have hreplied := hanswers.repliedStep
  have hevent : s.onEvent str upper env (.obj event) = s.onPayload str upper env event payload := by
    simp only [onEvent, Json.asDict, hpayload]
  have hkind : isNotification event = false := by
    rcases hanswers.kind with hkind | hkind
    · simp only [isNotification, hkind]
      decide
    · simp only [isNotification, hkind]
      cases p.operation <;> decide
  simp only [isNotification, Bool.or_eq_false_iff] at hkind
  obtain ⟨⟨hstarted, hcomplete⟩, hlost⟩ := hkind
  rw [hevent]
  unfold onPayload
  simp only [hstarted, hcomplete, hlost, hlegacy, Bool.false_eq_true, if_false, if_true, hreplied]

end Payloads

/-! ## Soundness -/

theorem sound_init : Sound {} where
  waits h := by cases h
  named h := by cases h
  selected _ h := absurd h (Finset.notMem_empty _)
  pends _ h := by cases h
  unknown _ h := by cases h

theorem Onward.sound {env : Env} {k : Nat} {s t : Sequence} (h : Onward env done k s t)
    (hs : Sound s) : Sound t := by
  cases h with
  | ended hgains hpending hactive _ =>
      exact
        { waits := fun hrun => by rw [hactive] at hrun; cases hrun
          named := fun hrun => by rw [hactive] at hrun; cases hrun
          selected := hgains.selected hs.selected
          pends := fun p hp => by rw [hpending] at hp; cases hp
          unknown := fun p hp => by rw [hpending] at hp; cases hp }
  | begun hgains p c hbegins _ _ =>
      have honly {q : Pending} (hq : t.pending = some q) : q = p := by
        rw [hbegins.pending] at hq
        cases hq
        rfl
      exact
        { waits := fun _ => ⟨p, hbegins.pending⟩
          named := fun _ => hbegins.named
          selected := hgains.selected hs.selected
          pends := fun q hq => by rw [honly hq]; exact hbegins.configured
          unknown := fun q hq => by rw [honly hq]; exact hbegins.unknown }

/-- A configuration forgets everything but the log. -/
structure Forgets (s t : Sequence) : Prop where
  pending : t.pending = none
  active : t.active = false
  discovered : t.discovered = ∅
  completed : t.completed = ∅
  sent : Sends s t []

theorem forgets_configure (s : Sequence) (subjects : List Subject) :
    Forgets s (s.configure subjects) :=
  ⟨pending_letGo _, rfl, rfl, rfl, (sends_of_log rfl).trans (quiet_letGo s.cancelTimer).sent⟩

theorem Forgets.sound {s t : Sequence} (h : Forgets s t) : Sound t where
  waits hrun := by rw [h.active] at hrun; cases hrun
  named hrun := by rw [h.active] at hrun; cases hrun
  selected sid hin := by rw [h.discovered] at hin; exact absurd hin (Finset.notMem_empty _)
  pends p hp := by rw [h.pending] at hp; cases hp
  unknown p hp := by rw [h.pending] at hp; cases hp

end Gains

end Sequence

end NexusN3.Connection
