import NexusN3.Core.State

/-!
# `start_stream` and `start_stream_for_subjects`

Both methods run in three sections: the locked admission (`startAccept`), the unlocked
writes (`startWrite`, for a subject-scoped start followed by the resolution of the ids and
`startSubjects`), and the locked arming of the gate (`resetStartupGateState`). A raise
leaves behind whatever the sections before it wrote, so the methods return the Core *and*
their result.

The two differ in one place. `start_stream` can only raise in its admission.
`start_stream_for_subjects` resolves its ids after ten fields are already overwritten
(`Core.startWrite`), while every other subject-scoped method of the class resolves them
first. `startStreamForSubjects_error` says exactly what such a raise leaves.
-/

namespace NexusN3

open Lib

/-- The payload of a start command. For `sessionTimestamp` the outer `none` is an absent
key, for which the code falls back on the clock. -/
structure StartPayload where
  sessionTimestamp : Option (Option String) := none
  officialStartMode : OfficialStartMode := .localGate
  startSessionId : Option String := none
  tag : Option String := none
  tags : Dict String (Option String) := .empty
  subjectIds : Option (List String) := none
  deriving DecidableEq

/-- How an f-string shows a list of ids. -/
def pyList (ids : List String) : String :=
  "[" ++ ", ".intercalate (ids.map fun sid => "'" ++ sid ++ "'") ++ "]"

namespace Core

/-- The locked admission of both start methods. -/
def startAccept (c : Core) : Except String Core :=
  match c.ensureRecoveryIdle with
  | .error e => .error e
  | .ok () =>
    if c.subjects.isEmpty then .error "Configure a session before starting acquisition"
    else .ok (c.setPhase .starting)

/-- The unlocked assignments both methods make before they look at a subject. -/
def startWrite (c : Core) (p : StartPayload) (clock : String) : Core :=
  { c with
    sessionTimestamp := p.sessionTimestamp.getD (some clock)
    officialStartMode := p.officialStartMode
    startSessionId := p.startSessionId
    officialCommitReceived := false
    officialOutputsActive := false
    preparedSubjectIds := ∅
    archivedSessionTimestamp := none
    officialStreamOrigin := none }

/-- The loop over the started subjects: their tags, flags and buffers. -/
def startSubjects (c : Core) (p : StartPayload) (idxs : List Nat) : Core :=
  { c with
    pendingStreamTags := Dict.ofList <| (c.idsAt idxs).map fun sid =>
      (sid, (p.tags.get? sid).getD p.tag)
    subjects := updateAt idxs Subject.rewind c.subjects }

/-- The section of `start_stream` between its two locked ones. -/
def startAllWrites (c : Core) (p : StartPayload) (clock : String) : Core :=
  (c.startWrite p clock).startSubjects p (List.range c.subjects.length)

/-- The section of `start_stream_for_subjects` between its two locked ones: it may raise,
and then the writes of `startWrite` stay. -/
def startSubjectsWrites (c : Core) (p : StartPayload) (clock : String) :
    Core × Except String (List Nat) :=
  match p.subjectIds with
  | none => (c, .error "'subject_ids'")
  | some ids =>
    let c := c.startWrite p clock
    match c.getSubjectsByIds ids with
    | .error missing => (c, .error ("Subject(s) not found: " ++ pyList missing))
    | .ok idxs =>
      (({ c with activeSubjectIds := some (c.idsAt idxs) } : Core).startSubjects p idxs, .ok idxs)

/-- The closing section of both methods: arm the gate over the started positions. -/
def startArm (c : Core) (idxs : List Nat) (now : ℚ) : Core :=
  c.resetStartupGateState (c.idsAt idxs) (c.addressesAt idxs) now

def startStream (c : Core) (p : StartPayload) (clock : String) (now : ℚ) :
    Core × Except String Unit :=
  match c.startAccept with
  | .error e => (c, .error e)
  | .ok c =>
    let c := c.startAllWrites p clock
    (c.startArm (List.range c.subjects.length) now, .ok ())

def startStreamForSubjects (c : Core) (p : StartPayload) (clock : String) (now : ℚ) :
    Core × Except String Unit :=
  match c.startAccept with
  | .error e => (c, .error e)
  | .ok c =>
    match c.startSubjectsWrites p clock with
    | (c, .error e) => (c, .error e)
    | (c, .ok idxs) => (c.startArm idxs now, .ok ())

/-! ## What a raise leaves behind -/

/-- The admission lets the start through. -/
def StartAdmitted (c : Core) : Prop := c.recoveryInProgress = false ∧ c.subjects ≠ []

theorem startAccept_of_admitted {c : Core} (h : c.StartAdmitted) :
    c.startAccept = .ok (c.setPhase .starting) := by
  simp [startAccept, ensureRecoveryIdle, h.1, h.2, setPhase]

theorem startAccept_of_not_admitted {c : Core} (h : ¬ c.StartAdmitted) :
    ∃ e, c.startAccept = .error e := by
  unfold StartAdmitted at h
  unfold startAccept ensureRecoveryIdle
  cases hr : c.recoveryInProgress <;> cases hs : c.subjects <;> simp_all

/-- The ids of a payload name only subjects the Core has. -/
def ResolvesAll (c : Core) (ids : List String) : Prop :=
  ∀ sid ∈ ids, ∃ s ∈ c.subjects, s.subjectId = sid

theorem findSubjectById_isNone_iff {c : Core} {sid : String} :
    (c.findSubjectById sid).isNone ↔ ∀ s ∈ c.subjects, s.subjectId ≠ sid := by
  simp [findSubjectById]

theorem getSubjectsByIds_ok_iff {c : Core} {ids : List String} :
    (∃ idxs, c.getSubjectsByIds ids = .ok idxs) ↔ c.ResolvesAll ids := by
  have hmissing : ids.filter (fun sid => (c.findSubjectById sid).isNone) = [] ↔
      c.ResolvesAll ids := by
    rw [List.filter_eq_nil_iff]
    unfold ResolvesAll
    refine forall₂_congr fun sid _ => ?_
    rw [findSubjectById_isNone_iff]
    push Not
    rfl
  rw [← hmissing]
  unfold getSubjectsByIds
  split
  · rename_i hnil
    simp [hnil]
  · rename_i missing hne
    constructor
    · rintro ⟨idxs, h⟩
      cases h
    · intro hnil
      exact absurd hnil (by simpa using hne)

/-- The ids are looked up in a state whose subjects the writes before did not touch. -/
theorem startWrite_getSubjectsByIds (c : Core) (p : StartPayload) (clock : String)
    (ids : List String) :
    ((c.setPhase .starting).startWrite p clock).getSubjectsByIds ids = c.getSubjectsByIds ids :=
  rfl

theorem startStream_error {c c' : Core} {p : StartPayload} {clock e : String} {now : ℚ}
    (h : c.startStream p clock now = (c', .error e)) : c' = c := by
  unfold startStream at h
  cases ha : c.startAccept with
  | error e' =>
    rw [ha] at h
    cases h
    rfl
  | ok c₁ =>
    rw [ha] at h
    cases h

/-- **The raises of `start_stream_for_subjects` and the state each leaves**: untouched when
the admission refused, else with the phase moved and, once the ids were read, with the
fields of `startWrite` overwritten. -/
theorem startStreamForSubjects_error_iff (c c' : Core) (p : StartPayload) (clock : String)
    (now : ℚ) : (∃ e, c.startStreamForSubjects p clock now = (c', .error e)) ↔
      (¬ c.StartAdmitted ∧ c' = c)
        ∨ (c.StartAdmitted ∧ p.subjectIds = none ∧ c' = c.setPhase .starting)
        ∨ (c.StartAdmitted ∧ ∃ ids, p.subjectIds = some ids ∧ ¬ c.ResolvesAll ids
            ∧ c' = (c.setPhase .starting).startWrite p clock) := by
  unfold startStreamForSubjects
  by_cases hadm : c.StartAdmitted
  · rw [startAccept_of_admitted hadm]
    simp only [hadm, not_true_eq_false, false_and, true_and, false_or]
    cases hp : p.subjectIds with
    | none => simp [startSubjectsWrites, hp, eq_comm]
    | some ids =>
      simp only [startSubjectsWrites, hp, startWrite_getSubjectsByIds]
      cases hg : c.getSubjectsByIds ids with
      | ok idxs =>
        have hall : c.ResolvesAll ids := getSubjectsByIds_ok_iff.mp ⟨idxs, hg⟩
        simp [hall]
      | error missing =>
        have hnot : ¬ c.ResolvesAll ids := by
          intro hall
          obtain ⟨idxs, hok⟩ := getSubjectsByIds_ok_iff.mpr hall
          rw [hg] at hok
          cases hok
        simp [hnot, eq_comm]
  · obtain ⟨e, he⟩ := startAccept_of_not_admitted hadm
    simp [he, hadm, eq_comm]

/-! ## A rejected start

What the rest of the system can see of a start, and when a raise leaves all of it alone. -/

/-- The two states agree on everything a start decides, and on which samples are kept. -/
structure SameAcquisition (c c' : Core) : Prop where
  streamPhase : c'.streamPhase = c.streamPhase
  sessionTimestamp : c'.sessionTimestamp = c.sessionTimestamp
  archived : c'.archivedSessionTimestamp = c.archivedSessionTimestamp
  officialStartMode : c'.officialStartMode = c.officialStartMode
  startSessionId : c'.startSessionId = c.startSessionId
  commit : c'.officialCommitReceived = c.officialCommitReceived
  outputs : c'.officialOutputsActive = c.officialOutputsActive
  tags : c'.pendingStreamTags = c.pendingStreamTags
  origin : c'.officialStreamOrigin = c.officialStreamOrigin
  streaming : c'.subjects.map Subject.isStreaming = c.subjects.map Subject.isStreaming
  admits : ∀ address, c'.admits address = c.admits address

theorem SameAcquisition.refl (c : Core) : SameAcquisition c c := by
  constructor <;> intros <;> rfl

/-- Whichever start method raises on this payload, it leaves the acquisition as it was. -/
def RejectedStartIsNoop (c : Core) (p : StartPayload) (clock : String) (now : ℚ) : Prop :=
  (∀ c' e, c.startStream p clock now = (c', .error e) → SameAcquisition c c')
    ∧ ∀ c' e, c.startStreamForSubjects p clock now = (c', .error e) → SameAcquisition c c'

/-- The state already carries every value a subject-scoped start writes before it raises. -/
def CarriesStart (c : Core) (p : StartPayload) (clock : String) : Prop :=
  c.streamPhase = .starting ∧ (p.subjectIds = none ∨
    c.sessionTimestamp = p.sessionTimestamp.getD (some clock)
      ∧ c.officialStartMode = p.officialStartMode ∧ c.startSessionId = p.startSessionId
      ∧ c.officialCommitReceived = false ∧ c.officialOutputsActive = false
      ∧ c.archivedSessionTimestamp = none ∧ c.officialStreamOrigin = none)

/-- The raise after `startWrite` is invisible exactly when the written values were there. -/
theorem sameAcquisition_startWrite_iff (c : Core) (p : StartPayload) (clock : String) :
    SameAcquisition c ((c.setPhase .starting).startWrite p clock) ↔
      c.streamPhase = .starting
        ∧ c.sessionTimestamp = p.sessionTimestamp.getD (some clock)
        ∧ c.officialStartMode = p.officialStartMode ∧ c.startSessionId = p.startSessionId
        ∧ c.officialCommitReceived = false ∧ c.officialOutputsActive = false
        ∧ c.archivedSessionTimestamp = none ∧ c.officialStreamOrigin = none := by
  constructor
  · intro h
    exact ⟨h.streamPhase.symm, h.sessionTimestamp.symm, h.officialStartMode.symm,
      h.startSessionId.symm, h.commit.symm, h.outputs.symm, h.archived.symm, h.origin.symm⟩
  · rintro ⟨hphase, hts, hmode, hid, hcommit, hout, harch, horigin⟩
    -- neither state is in the official phase, so both refuse every sample
    have hadmits : ∀ address,
        ((c.setPhase .starting).startWrite p clock).admits address = c.admits address := by
      intro address
      have hleft : ((c.setPhase .starting).startWrite p clock).officialStreaming = false := by
        simp [officialStreaming, startWrite]
      have hright : c.officialStreaming = false := by
        simp [officialStreaming, hphase]
      simp [admits, hleft, hright]
    exact ⟨hphase.symm, hts.symm, harch.symm, hmode.symm, hid.symm, hcommit.symm, hout.symm,
      rfl, horigin.symm, rfl, hadmits⟩

/-- The raise on a payload without ids is invisible exactly when a start was under way. -/
theorem sameAcquisition_setPhase_iff (c : Core) :
    SameAcquisition c (c.setPhase .starting) ↔ c.streamPhase = .starting := by
  constructor
  · intro h
    exact h.streamPhase.symm
  · intro hphase
    rw [← hphase, setPhase_self]
    exact SameAcquisition.refl c

/-- **When a rejected start is a no-op.** Recovery in progress and an empty configuration
raise before anything is written; a payload whose ids all resolve does not raise; any other
rejection is invisible only to a Core that already carries the values written first. -/
theorem rejectedStartIsNoop_iff (c : Core) (p : StartPayload) (clock : String) (now : ℚ) :
    c.RejectedStartIsNoop p clock now ↔
      c.recoveryInProgress = true ∨ c.subjects = []
        ∨ (∃ ids, p.subjectIds = some ids ∧ c.ResolvesAll ids) ∨ c.CarriesStart p clock := by
  have hnotadm : ¬ c.StartAdmitted ↔ c.recoveryInProgress = true ∨ c.subjects = [] := by
    unfold StartAdmitted
    rw [not_and_or, Bool.not_eq_false, not_not]
  rw [← or_assoc, ← hnotadm]
  constructor
  · rintro ⟨-, hnoop⟩
    by_cases hadm : c.StartAdmitted
    · right
      cases hp : p.subjectIds with
      | none =>
        -- the payload lacks the key: only the phase was written
        obtain ⟨e, he⟩ := (startStreamForSubjects_error_iff c _ p clock now).mpr
          (.inr (.inl ⟨hadm, hp, rfl⟩))
        exact .inr ⟨(sameAcquisition_setPhase_iff c).mp (hnoop _ e he), .inl hp⟩
      | some ids =>
        by_cases hall : c.ResolvesAll ids
        · exact .inl ⟨ids, rfl, hall⟩
        · obtain ⟨e, he⟩ := (startStreamForSubjects_error_iff c _ p clock now).mpr
            (.inr (.inr ⟨hadm, ids, hp, hall, rfl⟩))
          obtain ⟨hphase, hrest⟩ :=
            (sameAcquisition_startWrite_iff c p clock).mp (hnoop _ e he)
          exact .inr ⟨hphase, .inr hrest⟩
    · exact .inl hadm
  · intro hcond
    refine ⟨fun c' e h => ?_, fun c' e h => ?_⟩
    · rw [startStream_error h]
      exact SameAcquisition.refl c
    · rcases (startStreamForSubjects_error_iff c c' p clock now).mp ⟨e, h⟩ with
        ⟨-, rfl⟩ | ⟨hadm, hp, rfl⟩ | ⟨hadm, ids, hp, hnot, rfl⟩
      · exact SameAcquisition.refl _
      · rcases hcond with hrefused | ⟨ids, hids, -⟩ | hcarry
        · exact absurd hadm hrefused
        · rw [hp] at hids
          cases hids
        · exact (sameAcquisition_setPhase_iff c).mpr hcarry.1
      · rcases hcond with hrefused | ⟨ids', hids, hall⟩ | ⟨hphase, hnone | hrest⟩
        · exact absurd hadm hrefused
        · rw [hp] at hids
          cases hids
          exact absurd hall hnot
        · rw [hp] at hnone
          cases hnone
        · exact (sameAcquisition_startWrite_iff c p clock).mpr ⟨hphase, hrest⟩

/-! A session that streams officially, and a start for a subject nobody configured: the
command is refused and the running session loses its samples. -/

def streamingCore : Core :=
  { subjects := [{ subjectId := "s1", sensors := [{ address := some "AA" }], isStreaming := true }]
    streamPhase := .officialStreaming, sessionTimestamp := some "20260910_120000"
    officialOutputsActive := true, officialStreamOrigin := some 7 }

def ghostStart : StartPayload := { subjectIds := some ["ghost"] }

theorem rejectedStart_drops_streaming_session :
    streamingCore.admits (some "AA") = true
      ∧ streamingCore.startStreamForSubjects ghostStart "20260910_130000" 0 =
        ((streamingCore.setPhase .starting).startWrite ghostStart "20260910_130000",
          .error "Subject(s) not found: ['ghost']")
      ∧ ((streamingCore.setPhase .starting).startWrite ghostStart "20260910_130000").admits
          (some "AA") = false
      ∧ ¬ streamingCore.RejectedStartIsNoop ghostStart "20260910_130000" 0 := by
  have hraise : streamingCore.startStreamForSubjects ghostStart "20260910_130000" 0 =
      ((streamingCore.setPhase .starting).startWrite ghostStart "20260910_130000",
        .error "Subject(s) not found: ['ghost']") := by
    decide +kernel
  refine ⟨by decide, hraise, by decide, ?_⟩
  rintro ⟨-, hnoop⟩
  have hphase := (hnoop _ _ hraise).streamPhase
  exact absurd hphase (by decide)

end Core

end NexusN3
