import NexusN3.Core.World

/-!
# A start for some subjects takes the samples of the others

`start_stream_for_subjects` names its subjects, and so do the sections behind it: the files
that are opened, the flags that are raised, the cleanup of a failed startup. The phase, the
output flag and the session timestamp are one each for the whole Core, and the start writes
them at once. A subject that streams and is not named loses every sample from the acceptance
of the start on, until the phase is official again.

* **`Core.StartsOthers`** — an accepted start that does not name a streaming subject.
* **`World.Isolates`** — the start leaves the subject alone, whatever comes of it.
* **`startStreamForSubjects_not_isolated`** — it never does.
-/

namespace NexusN3

open Lib

namespace Core

/-- The files the samples of an address go to. -/
def recordingOf (c : Core) (address : Option String) : Option FileBinding :=
  (c.findSubjectByAddress address).bind fun i =>
    c.subjects[i]?.bind fun s =>
      (s.sensors.find? fun e => decide (e.address = address)).bind SensorEntry.binding

/-- The start is accepted, the subject with the address streams officially and is not named. -/
structure StartsOthers (c : Core) (p : StartPayload) (sid : String) (address : Option String) :
    Prop where
  admitted : c.StartAdmitted
  names : ∃ ids, p.subjectIds = some ids ∧ c.ResolvesAll ids ∧ sid ∉ ids
  subject : ∃ i s, c.findSubjectByAddress address = some i ∧ c.subjects[i]? = some s
    ∧ s.subjectId = sid
  streams : c.admits address = true

theorem officialStreaming_eq_false {c : Core} (h : c.streamPhase ≠ .officialStreaming) :
    c.officialStreaming = false := by
  simp [officialStreaming, h]

/-- Outside of the official phase no sample is kept. -/
theorem admits_eq_false {c : Core} (address : Option String)
    (h : c.streamPhase ≠ .officialStreaming) : c.admits address = false := by
  rw [admits, officialStreaming_eq_false h, Bool.false_and]

/-- A sample that is not admitted reaches no buffer and no file. -/
theorem onData_dropped {c : Core} {sample : Sample} (now : ℚ)
    (h : c.streamPhase ≠ .officialStreaming) :
    (c.onData sample now).subjects = c.subjects
      ∧ (c.onData sample now).rawBlocks = c.rawBlocks := by
  have hrecord : (c.recordStartupSample sample now).subjects = c.subjects
      ∧ (c.recordStartupSample sample now).rawBlocks = c.rawBlocks
      ∧ (c.recordStartupSample sample now).streamPhase = c.streamPhase := by
    unfold recordStartupSample
    split
    · exact ⟨rfl, rfl, rfl⟩
    · split
      · exact ⟨rfl, rfl, rfl⟩
      · split <;> exact ⟨rfl, rfl, rfl⟩
  obtain ⟨hsubjects, hblocks, hphase⟩ := hrecord
  have hno := admits_eq_false (c := c.recordStartupSample sample now) sample.address
    (by rw [hphase]; exact h)
  unfold onData
  simp only [hno, Bool.false_eq_true, if_false]
  exact ⟨hsubjects, hblocks⟩

end Core

/-- A stop that takes the subject with it. -/
def Action.Stops (sid : String) : Action → Prop
  | .stopStream _ _ => True
  | .stopStreamForSubjects ids _ _ => sid ∈ ids
  | _ => False

instance (sid : String) (a : Action) : Decidable (a.Stops sid) := by
  cases a <;> unfold Action.Stops <;> infer_instance

namespace World

/-- However the start goes on, until a stop takes the subject: its samples are admitted, and
they go to the files they went to. -/
def Isolates (w : World) (p : StartPayload) (sid : String) (address : Option String) : Prop :=
  ∀ w₁, w.step (.startStreamForSubjects p) = some w₁ →
    ∀ w₂, Machine.Run World.step (fun _ a => ¬ a.Stops sid) w₁ w₂ →
      w₂.core.admits address = true ∧ w₂.core.recordingOf address = w.core.recordingOf address

/-- The samples of the address are lost here: whatever arrives, nothing is kept. -/
def Loses (w : World) (address : Option String) : Prop :=
  w.core.admits address = false ∧ ∀ sample now, sample.address = address →
    ∃ w', w.step (.onData sample now) = some w' ∧ w'.core.subjects = w.core.subjects
      ∧ w'.core.rawBlocks = w.core.rawBlocks

theorem loses_of_phase {w : World} (address : Option String)
    (h : w.core.streamPhase ≠ .officialStreaming) : w.Loses address := by
  refine ⟨Core.admits_eq_false address h, fun sample now _ => ?_⟩
  obtain ⟨hsubjects, hblocks⟩ : (w.core.onData sample now).subjects = w.core.subjects
      ∧ (w.core.onData sample now).rawBlocks = w.core.rawBlocks := Core.onData_dropped now h
  exact ⟨_, rfl, hsubjects, hblocks⟩

/-- The call of an accepted start that nothing comes between: accepted, written, returned. -/
theorem start_call {w : World} {p : StartPayload} {sid : String} {address : Option String}
    (h : w.core.StartsOthers p sid address) (clock : String) (now : ℚ) :
    ∃ w₁ w₂ w₃, w.step (.startStreamForSubjects p) = some w₁
      ∧ w₁.step (.advance w.threads.length { clock := clock }) = some w₂
      ∧ w₂.step (.advance w.threads.length { now := now }) = some w₃
      ∧ w₁.core.streamPhase = .starting ∧ w₂.core.streamPhase = .starting
      ∧ w₃.core.streamPhase = .starting
      ∧ w₃.core.sessionTimestamp = p.sessionTimestamp.getD (some clock) := by
  obtain ⟨ids, hids, hresolves, -⟩ := h.names
  obtain ⟨idxs, hidxs⟩ := Core.getSubjectsByIds_ok_iff.mpr hresolves
  have haccept : w.step (.startStreamForSubjects p) = some
      { (w.setCore (w.core.setPhase .starting)).spawn [.startAccepted p true] with
        stopReturned := false, acquiring := true } := by
    show some (w.acceptStart p true) = _
    rw [acceptStart_of_admitted h.admitted]
  have hwrites : (w.core.setPhase .starting).startSubjectsWrites p clock
      = (({ (w.core.setPhase .starting).startWrite p clock with
          activeSubjectIds := some (((w.core.setPhase .starting).startWrite p clock).idsAt idxs) }
            : Core).startSubjects p idxs, .ok idxs) := by
    unfold Core.startSubjectsWrites
    rw [hids]
    simp only [Core.startWrite_getSubjectsByIds, hidxs]
  -- the section behind the admission is the one that replaces the timestamp
  obtain ⟨w₂, hstep₂, hcore₂, hthreads₂⟩ := step_of_advance { clock := clock }
    (w := { (w.setCore (w.core.setPhase .starting)).spawn [.startAccepted p true] with
      stopReturned := false, acquiring := true }) (i := w.threads.length)
    (t := .startAccepted p true) (List.getElem?_concat_length ..) (by
      have hcore : ((w.setCore (w.core.setPhase .starting)).spawn [.startAccepted p true]).core
          = w.core.setPhase .starting := rfl
      simp only [Thread.advance, hcore]
      rw [hwrites])
  have hthread₂ : w₂.threads[w.threads.length]? = some (.startWritten idxs) := by
    rw [hthreads₂]
    exact List.getElem?_set_self (by show _ < (w.threads ++ [_]).length; simp)
  obtain ⟨w₃, hstep₃, hcore₃, -⟩ := step_of_advance { now := now } hthread₂ rfl
  refine ⟨_, w₂, w₃, haccept, hstep₂, hstep₃, rfl, ?_, ?_, ?_⟩
  · rw [hcore₂]
    rfl
  · rw [hcore₃]
    rfl
  · rw [hcore₃, hcore₂]
    rfl

end World

/-- **No start for other subjects is isolated.** From its acceptance to its return, and so
before its gate has even looked at a sample, every sample of the subject is lost; the Core's
session is then the one of the start. -/
theorem startStreamForSubjects_not_isolated {w : World} {p : StartPayload} {sid : String}
    {address : Option String} (h : w.core.StartsOthers p sid address) (clock : String) (now : ℚ) :
    ¬ w.Isolates p sid address ∧ ∃ w₁ w₂ w₃, w.step (.startStreamForSubjects p) = some w₁
      ∧ w₁.step (.advance w.threads.length { clock := clock }) = some w₂
      ∧ w₂.step (.advance w.threads.length { now := now }) = some w₃
      ∧ w₁.Loses address ∧ w₂.Loses address ∧ w₃.Loses address
      ∧ w₃.core.sessionTimestamp = p.sessionTimestamp.getD (some clock) := by
  obtain ⟨w₁, w₂, w₃, hstart, hwrite, harm, hphase₁, hphase₂, hphase₃, hsession⟩ :=
    World.start_call h clock now
  have hlose {v : World} (hphase : v.core.streamPhase = .starting) : v.Loses address :=
    World.loses_of_phase address (by rw [hphase]; decide)
  refine ⟨fun hisolates => ?_, w₁, w₂, w₃, hstart, hwrite, harm, hlose hphase₁, hlose hphase₂,
    hlose hphase₃, hsession⟩
  have hkept := (hisolates w₁ hstart w₁ .refl).1
  rw [(hlose hphase₁).1] at hkept
  cases hkept

/-! ## Two subjects -/

def twoSubjects : List SubjectConfig :=
  [{ subjectId := "s1", sensors := [{ address := some "AA", samplingRate := some 1 }] },
    { subjectId := "s2", sensors := [{ address := some "BB", samplingRate := some 1 }] }]

def startOf (sid timestamp : String) : StartPayload :=
  { sessionTimestamp := some (some timestamp), subjectIds := some [sid] }

/-- The first subject streams officially. -/
def firstStreams : List Action :=
  [.initCore (.installed twoSubjects), .startStreamForSubjects (startOf "s1" "20260910_120000"),
    .advance 0 {}, .advance 0 {}, .onStreamStarted, secondSample 0, secondSample 1,
    secondSample 2, .advance 1 {}]

/-- The start for the second subject, and its failure: no sample of it arrives in time. -/
def secondFails : List Action :=
  [.advance 2 {}, .advance 2 {}, .onStreamStarted, .gateTimeout 3]

/-- What the first subject's state is made of. -/
def firstSubjectView (w : World) : Bool × List String × Option Nat × Option String × Bool :=
  (w.core.recoveryInProgress, w.core.subjectIds, w.core.findSubjectByAddress (some "AA"),
    w.core.subjects[0]?.map Subject.subjectId, w.core.admits (some "AA"))

theorem startsOthers_of_view {w : World}
    (h : firstSubjectView w = (false, ["s1", "s2"], some 0, some "s1", true)) :
    w.core.StartsOthers (startOf "s2" "20260910_130000") "s1" (some "AA") := by
  simp only [firstSubjectView, Prod.mk.injEq] at h
  obtain ⟨hrecovery, hids, hfind, hfirst, hadmits⟩ := h
  obtain ⟨s, hs, hsid⟩ := Option.map_eq_some_iff.mp hfirst
  refine ⟨⟨hrecovery, fun hnil => ?_⟩, ⟨["s2"], rfl, fun sid hsid => ?_, by decide⟩,
    ⟨0, s, hfind, hs, hsid⟩, hadmits⟩
  · rw [hnil] at hs
    cases hs
  · rw [List.mem_singleton.mp hsid]
    have hmem : "s2" ∈ w.core.subjectIds := by rw [hids]; decide
    exact List.mem_map.mp hmem

theorem startStreamForSubjects_not_isolated_two :
    ∃ w, World.Reachable {} w ∧ ¬ w.Isolates (startOf "s2" "20260910_130000") "s1" (some "AA") := by
  have hrun : (Machine.exec World.step { core := { policy := {} } } firstStreams).map
      firstSubjectView = some (false, ["s1", "s2"], some 0, some "s1", true) := by
    decide +kernel
  obtain ⟨w, hw, hview⟩ := Option.map_eq_some_iff.mp hrun
  exact ⟨w, Machine.reach_of_exec _ hw,
    (startStreamForSubjects_not_isolated (startsOthers_of_view hview) "" 0).1⟩

/-- The startup of the second subject has failed, and the first one still streams into its
files, but none of its samples is admitted any more. -/
theorem secondFails_locks_first_out :
    ¬ ∀ w, World.Reachable {} w → ∀ p sid address, w.core.StartsOthers p sid address →
      w.Isolates p sid address := by
  intro hall
  have hrun : (Machine.exec World.step { core := { policy := {} } } firstStreams).bind (fun w =>
      (w.step (.startStreamForSubjects (startOf "s2" "20260910_130000"))).bind fun w₁ =>
        (Machine.execOk World.step (fun _ a => ¬ a.Stops "s1") w₁ secondFails).map fun w₂ =>
          (decide (firstSubjectView w = (false, ["s1", "s2"], some 0, some "s1", true)),
            w₂.core.streamPhase, w₂.core.hasActiveStreams, w₂.core.admits (some "AA")))
      = some (true, .startupFailed, true, false) := by
    decide +kernel
  obtain ⟨w, hw, hrest⟩ := Option.bind_eq_some_iff.mp hrun
  obtain ⟨w₁, hstart, hrest⟩ := Option.bind_eq_some_iff.mp hrest
  obtain ⟨w₂, hfails, hfields⟩ := Option.map_eq_some_iff.mp hrest
  simp only [Prod.mk.injEq] at hfields
  obtain ⟨hview, -, -, hlocked⟩ := hfields
  have hkept := (hall w (Machine.reach_of_exec _ hw) _ _ _
    (startsOthers_of_view (of_decide_eq_true hview)) w₁ hstart w₂ (Machine.Run.of_execOk _ hfails)).1
  rw [hlocked] at hkept
  cases hkept

end NexusN3
