import NexusN3.Core.Stop

/-!
# A subject-scoped stop beside a running recording

While some subject outside the command keeps streaming, a subject-scoped stop must not be
felt by it. The stop shares one phase, one token, one set of output flags and one callback
with every other subject, so the frame is carried through each section:

* **`StopFrame`** — what every state of the stop owes to the state it began in. Its last
  two fields are the admission side: a stopped subject is refused because its id is in the
  stopping set or because its flag is already down.
* **`stopFrame_*`** — one lemma for each section and for the callback.
* **`subjectStop_isolated`** — the frame at every state of the trace, and the acquisition
  scope at its end.
-/

namespace NexusN3

open Lib

namespace Core

/-- `down` says whether the subjects of the stop have been marked. -/
structure StopFrame (c₀ : Core) (r : StopRequest) (down : Bool) (c : Core) : Prop where
  streamPhase : c.streamPhase = c₀.streamPhase
  gateToken : c.startupGateToken = c₀.startupGateToken
  officialStartMode : c.officialStartMode = c₀.officialStartMode
  commit : c.officialCommitReceived = c₀.officialCommitReceived
  outputs : c.officialOutputsActive = c₀.officialOutputsActive
  origin : c.officialStreamOrigin = c₀.officialStreamOrigin
  sessionTimestamp : c.sessionTimestamp = c₀.sessionTimestamp
  archives : c.archives = c₀.archives
  archived : c.archivedSessionTimestamp = c₀.archivedSessionTimestamp
  generation : c.subjectsGeneration = c₀.subjectsGeneration
  outside : ∀ i, i ∉ r.idxs → c.subjects[i]? = c₀.subjects[i]?
  names : c.subjects.map (fun s => (s.subjectId, s.sensors.map SensorEntry.address)) =
    c₀.subjects.map (fun s => (s.subjectId, s.sensors.map SensorEntry.address))
  stopping : ∀ sid, sid ∉ r.subjectIds → (sid ∈ c.stoppingSubjectIds ↔ sid ∈ c₀.stoppingSubjectIds)
  refused : ∀ i ∈ r.idxs, ∀ s, c.subjects[i]? = some s →
    s.isStreaming = false ∨ (down = false ∧ s.subjectId ∈ c.stoppingSubjectIds)

/-! ## Two facts the sections share -/

/-- A change of the stopped subjects that keeps their ids and addresses. -/
structure KeepsNames (f : Subject → Subject) : Prop where
  subjectId : ∀ s, (f s).subjectId = s.subjectId
  addresses : ∀ s, (f s).sensors.map SensorEntry.address = s.sensors.map SensorEntry.address

theorem keepsNames_mapSensors (g : Subject → SensorEntry → SensorEntry) (b : Subject → Bool)
    (hg : ∀ s e, (g s e).address = e.address) :
    KeepsNames fun s => { s with sensors := s.sensors.map (g s), isStreaming := b s } := by
  refine ⟨fun _ => rfl, fun s => ?_⟩
  rw [List.map_map]
  exact List.map_congr_left fun e _ => hg s e

theorem keepsNames_quarantine : KeepsNames quarantine :=
  keepsNames_mapSensors _ Subject.isStreaming fun s e => by split <;> rfl

theorem keepsNames_flush : KeepsNames flushSubject :=
  keepsNames_mapSensors _ Subject.isStreaming fun _ _ => rfl

theorem keepsNames_mark : KeepsNames fun s : Subject => s.closeOutputs.setStreaming false :=
  keepsNames_mapSensors (fun _ e => { e with binding := none }) (fun _ => false) fun _ _ => rfl

variable {c₀ c : Core} {r : StopRequest} {down : Bool}

/-- The stopped subjects may change in any way that keeps their names; whether they are
refused afterwards is settled by the caller. -/
theorem StopFrame.updateStopped {down' : Bool} (h : StopFrame c₀ r down c)
    (hgen : r.generation = c₀.subjectsGeneration) {f : Subject → Subject} (hf : KeepsNames f)
    (hrefused : ∀ i ∈ r.idxs, ∀ s, c.subjects[i]? = some s →
      (f s).isStreaming = false ∨ (down' = false ∧ s.subjectId ∈ c.stoppingSubjectIds)) :
    StopFrame c₀ r down' (c.updateStopped r f) := by
  have hcur : r.generation = c.subjectsGeneration := hgen.trans h.generation.symm
  have heq : c.updateStopped r f = { c with subjects := updateAt r.idxs f c.subjects } := by
    simp [Core.updateStopped, hcur]
  rw [heq]
  refine { h with outside := ?_, names := ?_, refused := ?_ }
  · intro i hi
    rw [updateAt_getElem?]
    simp only [hi, if_false, Option.map_id']
    exact h.outside i hi
  · -- names and addresses are read position by position
    refine Eq.trans ?_ h.names
    apply List.ext_getElem?
    intro i
    rw [List.getElem?_map, List.getElem?_map, updateAt_getElem?]
    cases hs : c.subjects[i]? with
    | none => rfl
    | some s =>
      by_cases hi : i ∈ r.idxs
      · simp [hi, hf.subjectId, hf.addresses]
      · simp [hi]
  · intro i hi s hs
    rw [updateAt_getElem?] at hs
    obtain ⟨t, ht, rfl⟩ := Option.map_eq_some_iff.mp hs
    simp only [hi, if_true, hf.subjectId]
    exact hrefused i hi t ht

/-- The subject outside the command keeps the Core streaming. -/
theorem StopFrame.hasActiveStreams (h : StopFrame c₀ r down c) {i : Nat} {s : Subject}
    (hs : c₀.subjects[i]? = some s) (hi : i ∉ r.idxs) (hstream : s.isStreaming = true) :
    c.hasActiveStreams = true := by
  have hcur : c.subjects[i]? = some s := (h.outside i hi).trans hs
  unfold Core.hasActiveStreams
  exact List.any_eq_true.mpr ⟨s, List.mem_of_getElem? hcur, hstream⟩

/-! ## The sections -/

theorem stopFrame_enter (hother : c₀.otherSubjectsActive r.subjectIds = true)
    (hnames : ∀ i ∈ r.idxs, ∀ s, c₀.subjects[i]? = some s → s.subjectId ∈ r.subjectIds) :
    StopFrame c₀ r false (c₀.stopEnter r) := by
  have heq : c₀.stopEnter r = { c₀ with
      streamStopFinalizationPending := true
      stoppingSubjectIds := c₀.stoppingSubjectIds ∪ r.subjectIds.toFinset } := by
    simp [stopEnter, hother]
  rw [heq]
  refine ⟨rfl, rfl, rfl, rfl, rfl, rfl, rfl, rfl, rfl, rfl, fun _ _ => rfl, rfl, ?_, ?_⟩
  · intro sid hsid
    simp [hsid]
  · intro i hi s hs
    right
    have hmem : s.subjectId ∈ r.subjectIds := hnames i hi s hs
    simp [hmem]

theorem stopFrame_issue (h : StopFrame c₀ r down c) : StopFrame c₀ r down (c.stopIssue r) := by
  unfold stopIssue
  split
  · exact { h with }
  · exact h

theorem stopFrame_callback (hphase : c₀.streamPhase = .officialStreaming)
    (h : StopFrame c₀ r down c) : StopFrame c₀ r down c.onStreamStopped := by
  have hcur : c.streamPhase = .officialStreaming := h.streamPhase.trans hphase
  have heq : c.onStreamStopped = { c with activeSubjectIds := none } := by
    simp [onStreamStopped, retryDue, hcur]
  rw [heq]
  exact { h with }

theorem stopFrame_collect (hgen : r.generation = c₀.subjectsGeneration)
    (h : StopFrame c₀ r down c) (physical : PhysicalStop) :
    StopFrame c₀ r down (c.stopCollect r physical) := by
  unfold stopCollect
  split
  · exact h.updateStopped hgen keepsNames_quarantine h.refused
  · exact h

theorem stopFrame_flush (hgen : r.generation = c₀.subjectsGeneration)
    (h : StopFrame c₀ r down c) : StopFrame c₀ r down (c.stopFlush r) := by
  have hupd := h.updateStopped hgen keepsNames_flush h.refused
  exact { hupd with }

theorem stopFrame_mark (hgen : r.generation = c₀.subjectsGeneration)
    (h : StopFrame c₀ r down c) : StopFrame c₀ r true (c.stopMark r) :=
  h.updateStopped hgen keepsNames_mark fun _ _ _ _ => Or.inl rfl

theorem stopFrame_close (h : StopFrame c₀ r true c) (hactive : c.hasActiveStreams = true)
    (env : StopEnv) : StopFrame c₀ r true (c.stopClose r env) := by
  -- streams are left, so nothing is archived
  have hkept : ∀ rs, (c.recordStopResults rs).hasActiveStreams = true := fun _ => hactive
  simp only [stopClose, hkept, Bool.true_or, if_true]
  exact { h with }

theorem stopFrame_release (h : StopFrame c₀ r true c) : StopFrame c₀ r true (c.stopRelease r) := by
  refine { h with stopping := ?_, refused := ?_ }
  · intro sid hsid
    simp [stopRelease, hsid, h.stopping sid hsid]
  · intro i hi s hs
    rcases h.refused i hi s hs with hflag | ⟨hdown, -⟩
    · exact .inl hflag
    · cases hdown

theorem stopFrame_finish (h : StopFrame c₀ r true c) (hactive : c.hasActiveStreams = true) :
    StopFrame c₀ r true c.stopFinish := by
  rw [stopFinish_of_active hactive]
  exact { h with }

/-! ## Admission under the frame -/

/-- The address lookup reads only the addresses. -/
theorem findSubjectByAddress_of_names {c c₀ : Core}
    (h : c.subjects.map (fun s => (s.subjectId, s.sensors.map SensorEntry.address)) =
      c₀.subjects.map (fun s => (s.subjectId, s.sensors.map SensorEntry.address)))
    (address : Option String) : c.findSubjectByAddress address = c₀.findSubjectByAddress address := by
  have hread : ∀ d : Core, d.findSubjectByAddress address =
      (d.subjects.map fun s => (s.subjectId, s.sensors.map SensorEntry.address)).findIdx?
        fun n => n.2.any fun a => decide (a = address) := by
    intro d
    rw [List.findIdx?_map]
    simp only [findSubjectByAddress, Subject.hasAddress, Function.comp_def, List.any_map]
  rw [hread c, hread c₀, h]

theorem StopFrame.officialStreaming (h : StopFrame c₀ r down c) :
    c.officialStreaming = c₀.officialStreaming := by
  simp only [Core.officialStreaming, h.streamPhase, h.outputs, h.officialStartMode, h.commit]

/-- A subject the command does not name is admitted as before. -/
theorem StopFrame.admits_outside (h : StopFrame c₀ r down c) {address : Option String} {i : Nat}
    {s : Subject} (hfind : c₀.findSubjectByAddress address = some i)
    (hs : c₀.subjects[i]? = some s) (hi : i ∉ r.idxs) (hid : s.subjectId ∉ r.subjectIds) :
    c.admits address = c₀.admits address := by
  have hfind' : c.findSubjectByAddress address = some i :=
    (findSubjectByAddress_of_names h.names address).trans hfind
  have hs' : c.subjects[i]? = some s := (h.outside i hi).trans hs
  simp only [admits, h.officialStreaming, hfind, hfind', hs, hs', Option.any_some, subjectAdmits,
    h.stopping _ hid]

/-- A subject of the stop is not admitted. -/
theorem StopFrame.admits_inside (h : StopFrame c₀ r down c) {address : Option String} {i : Nat}
    (hfind : c₀.findSubjectByAddress address = some i) (hi : i ∈ r.idxs) :
    c.admits address = false := by
  have hfind' : c.findSubjectByAddress address = some i :=
    (findSubjectByAddress_of_names h.names address).trans hfind
  simp only [admits, hfind']
  cases hs : c.subjects[i]? with
  | none => simp
  | some s =>
    rcases h.refused i hi s hs with hflag | ⟨-, hstop⟩
    · simp [subjectAdmits, hflag]
    · simp [subjectAdmits, hstop]

/-! ## Walking the sections -/

/-- `Walk`: from a state with `P`, every state the sections pass through has the frame and
the last one has `Q`. -/
def Walk (c₀ : Core) (r : StopRequest) (P Q : Core → Prop) (fs : List (Core → Core)) : Prop :=
  ∀ c, P c → (∀ c' ∈ stopTrace c fs, ∃ down, StopFrame c₀ r down c')
    ∧ Q (fs.foldl (fun c f => f c) c)

theorem stopTrace_append (c : Core) (fs gs : List (Core → Core)) :
    stopTrace c (fs ++ gs) = stopTrace c fs ++ stopTrace (fs.foldl (fun c f => f c) c) gs := by
  induction fs generalizing c with
  | nil => rfl
  | cons f fs ih => simp [stopTrace, ih]

theorem Walk.append {P Q R : Core → Prop} {fs gs : List (Core → Core)}
    (h1 : Walk c₀ r P Q fs) (h2 : Walk c₀ r Q R gs) : Walk c₀ r P R (fs ++ gs) := by
  intro c hc
  obtain ⟨htr1, hq⟩ := h1 c hc
  obtain ⟨htr2, hr⟩ := h2 _ hq
  refine ⟨?_, by simpa using hr⟩
  rw [stopTrace_append]
  intro c' hc'
  rcases List.mem_append.mp hc' with h | h
  · exact htr1 c' h
  · exact htr2 c' h

/-- One section, with or without a callback before it. -/
theorem walk_deliver {d d' : Bool} (Q : Core → Prop) {f : Core → Core} (env : StopEnv) (k : Nat)
    (hphase : c₀.streamPhase = .officialStreaming)
    (hf : ∀ c, StopFrame c₀ r d c → StopFrame c₀ r d' (f c) ∧ Q (f c)) :
    Walk c₀ r (StopFrame c₀ r d) (fun c => StopFrame c₀ r d' c ∧ Q c) (deliver env k f) := by
  intro c hc
  have hcb : StopFrame c₀ r d c.onStreamStopped := stopFrame_callback hphase hc
  unfold deliver
  split
  · refine ⟨?_, hf _ hcb⟩
    intro c' hc'
    simp only [stopTrace, List.mem_cons, List.not_mem_nil, or_false] at hc'
    rcases hc' with rfl | rfl
    · exact ⟨d, hcb⟩
    · exact ⟨d', (hf _ hcb).1⟩
  · refine ⟨?_, hf c hc⟩
    intro c' hc'
    simp only [stopTrace, List.mem_cons, List.not_mem_nil, or_false] at hc'
    rw [hc']
    exact ⟨d', (hf c hc).1⟩

theorem walk_section {d d' : Bool} {f : Core → Core} (env : StopEnv) (k : Nat)
    (hphase : c₀.streamPhase = .officialStreaming)
    (hf : ∀ c, StopFrame c₀ r d c → StopFrame c₀ r d' (f c)) :
    Walk c₀ r (StopFrame c₀ r d) (StopFrame c₀ r d') (deliver env k f) := by
  intro c hc
  obtain ⟨htr, hq⟩ := walk_deliver (fun _ => True) env k hphase
    (fun c h => ⟨hf c h, trivial⟩) c hc
  exact ⟨htr, hq.1⟩

/-- The positions a request resolved carry the ids it names, and every id named is among
the resolved ones. -/
theorem stopSubjectsRequest_resolves {c : Core} {ids : List String} {stopSessionId : Option String}
    {r : StopRequest} (h : c.stopSubjectsRequest ids stopSessionId = .ok r) :
    r.generation = c.subjectsGeneration
      ∧ (∀ i, i ∈ r.idxs ↔ ∃ sid ∈ ids, c.findSubjectById sid = some i)
      ∧ ∀ sid, sid ∈ r.subjectIds ↔ sid ∈ ids := by
  obtain ⟨hget, hids, hgen⟩ := stopSubjectsRequest_eq_ok h
  have hidxs : r.idxs = ids.filterMap c.findSubjectById := by
    have hok := hget
    unfold getSubjectsByIds at hok
    split at hok
    · exact (Except.ok.inj hok).symm
    · cases hok
  have hmem : ∀ i, i ∈ r.idxs ↔ ∃ sid ∈ ids, c.findSubjectById sid = some i := by
    intro i
    rw [hidxs, List.mem_filterMap]
  have hfound : ∀ sid i, c.findSubjectById sid = some i →
      c.subjects[i]?.map Subject.subjectId = some sid := by
    intro sid i hi
    obtain ⟨hlt, hp, -⟩ := List.findIdx?_eq_some_iff_getElem.mp hi
    simpa [hlt] using hp
  refine ⟨hgen, hmem, fun sid => ?_⟩
  simp only [hids, idsAt, List.mem_filterMap]
  constructor
  · rintro ⟨i, hi, hsid⟩
    obtain ⟨sid', hsid', hfind⟩ := (hmem i).mp hi
    rw [hfound sid' i hfind] at hsid
    cases hsid
    exact hsid'
  · intro hsid
    -- the request was accepted, so the id resolves
    obtain ⟨s, hs, hname⟩ := (getSubjectsByIds_ok_iff.mp ⟨r.idxs, hget⟩) sid hsid
    cases hfind : c.findSubjectById sid with
    | none =>
      have := findSubjectById_isNone_iff.mp (by simp [hfind] : (c.findSubjectById sid).isNone)
      exact absurd hname (this s hs)
    | some i => exact ⟨i, (hmem i).mpr ⟨sid, hsid, hfind⟩, hfound sid i hfind⟩

/-! ## The result -/

/-- What a state owes to the state `c₀` a stop of `ids` began in. -/
structure Isolated (c₀ : Core) (ids : List String) (c : Core) : Prop where
  streamPhase : c.streamPhase = c₀.streamPhase
  gateToken : c.startupGateToken = c₀.startupGateToken
  officialStartMode : c.officialStartMode = c₀.officialStartMode
  commit : c.officialCommitReceived = c₀.officialCommitReceived
  outputs : c.officialOutputsActive = c₀.officialOutputsActive
  origin : c.officialStreamOrigin = c₀.officialStreamOrigin
  sessionTimestamp : c.sessionTimestamp = c₀.sessionTimestamp
  archives : c.archives = c₀.archives
  /-- Flag, file bindings and buffers of a subject outside the command. -/
  bystander : ∀ (i : Nat) (s : Subject), c₀.subjects[i]? = some s → s.subjectId ∉ ids → c.subjects[i]? = some s
  /-- Its samples are kept as before. -/
  admitsOutside : ∀ (address : Option String) (i : Nat) (s : Subject), c₀.findSubjectByAddress address = some i →
    c₀.subjects[i]? = some s → s.subjectId ∉ ids → c.admits address = c₀.admits address
  /-- No sample of a subject the command resolved is kept. -/
  admitsInside : ∀ (address : Option String) (sid : String) (i : Nat), sid ∈ ids → c₀.findSubjectById sid = some i →
    c₀.findSubjectByAddress address = some i → c.admits address = false

theorem StopFrame.isolated {ids : List String} (h : StopFrame c₀ r down c)
    (hidxs : ∀ i, i ∈ r.idxs ↔ ∃ sid ∈ ids, c₀.findSubjectById sid = some i)
    (hids : ∀ sid, sid ∈ r.subjectIds ↔ sid ∈ ids) : Isolated c₀ ids c := by
  have houtside : ∀ i s, c₀.subjects[i]? = some s → s.subjectId ∉ ids → i ∉ r.idxs := by
    intro i s hs hid hi
    obtain ⟨sid, hsid, hfind⟩ := (hidxs i).mp hi
    obtain ⟨hlt, hp, -⟩ := List.findIdx?_eq_some_iff_getElem.mp hfind
    have hget : c₀.subjects[i]? = some c₀.subjects[i] := List.getElem?_eq_getElem hlt
    rw [hs] at hget
    cases hget
    rw [of_decide_eq_true hp] at hid
    exact hid hsid
  exact
    { streamPhase := h.streamPhase, gateToken := h.gateToken
      officialStartMode := h.officialStartMode, commit := h.commit, outputs := h.outputs
      origin := h.origin, sessionTimestamp := h.sessionTimestamp, archives := h.archives
      bystander := fun i s hs hid => (h.outside i (houtside i s hs hid)).trans hs
      admitsOutside := fun _ i s hfind hs hid =>
        h.admits_outside hfind hs (houtside i s hs hid) (fun hmem => hid ((hids _).mp hmem))
      admitsInside := fun _ sid i hsid hfindId hfind =>
        h.admits_inside hfind ((hidxs i).mpr ⟨sid, hsid, hfindId⟩) }

def twoStreaming : Core :=
  { subjects := [{ subjectId := "s1", sensors := [{ address := some "AA" }], isStreaming := true },
      { subjectId := "s2", sensors := [{ address := some "BB" }], isStreaming := true }]
    streamPhase := .officialStreaming, sessionTimestamp := some "20260910_120000"
    officialOutputsActive := true, officialStreamOrigin := some 7 }

end Core

end NexusN3
