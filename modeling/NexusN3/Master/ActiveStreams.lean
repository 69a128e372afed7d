import NexusN3.Lib.Unwinding
import NexusN3.Master.DrainBarrier
import NexusN3.Master.Initialization
import NexusN3.Master.Streams

/-!
# The active set of the master

`_active_stream_subjects` is filled when a START is dispatched, emptied by drain
acknowledgements only, and gates every later INIT. Nothing checks the ids a client puts into
a START, so an id that no node owns gets in and never leaves.

* **`BeingAnswered`** — a stop while its owners answer it: what the acknowledgements still
  have to cover.
* **`active_registered_iff`** — the set stays inside the registry exactly as long as every
  admitted START names registered subjects, and then a STOP for all drains it.
-/

namespace NexusN3

open Lib

/-! ## A stop that every owner answers -/

/-- The set grows with a START only. -/
theorem DrainDesk.active_of_step {d d' : DrainDesk} {a : DrainAction} (h : d.step a = some d') :
    (∃ ids, a = .start ids ∧ d'.book.active = d.book.active ∪ ids.toFinset)
      ∨ ((∀ ids, a ≠ .start ids) ∧ d'.book.active ⊆ d.book.active) := by
  cases a with
  | start ids =>
    cases h
    exact .inl ⟨ids, rfl, rfl⟩
  | create sid scope subjectIds nodes =>
    cases h
    exact .inr ⟨nofun, Finset.Subset.refl _⟩
  | ack node ev callback =>
    cases h
    refine .inr ⟨nofun, ?_⟩
    unfold DrainDesk.ack
    rcases d.book.drainAck_cases node ev with heq | ⟨sid, record, -, -, ⟨-, heq⟩ | ⟨-, heq⟩⟩
    · rw [heq]
      exact Finset.Subset.refl _
    · rw [heq]
      exact Finset.Subset.refl _
    · rw [heq]
      dsimp only [DrainBook.completeDrain]
      rw [launch_book]
      exact Finset.sdiff_subset
  | advance i e =>
    obtain ⟨f, -, hadv⟩ := Option.bind_eq_some_iff.mp h
    refine .inr ⟨nofun, ?_⟩
    rw [DrainDesk.advanceCall_active hadv]

/-- Nothing starts, the stop is not opened again, and whoever acknowledges it claims at
least the subjects it owns. -/
def Answers (sid : String) (owner : Dict String NodeId) : DrainAction → Prop
  | .start _ => False
  | .create sid' _ _ _ => sid' ≠ sid
  | .ack node ev _ => truthy ev.stopSessionId = some sid →
    ∀ s ∈ owner.keys, owner.get? s = some node → s ∈ ev.subjectIds
  | .advance _ _ => True

instance (sid : String) (owner : Dict String NodeId) : DecidablePred (Answers sid owner)
  | .start _ => isFalse id
  | .create sid' _ _ _ => inferInstanceAs (Decidable (sid' ≠ sid))
  | .ack node ev _ => inferInstanceAs (Decidable (truthy ev.stopSessionId = some sid →
      ∀ s ∈ owner.keys, owner.get? s = some node → s ∈ ev.subjectIds))
  | .advance _ _ => isTrue trivial

/-- A stop of every owner, while it is being answered. -/
structure BeingAnswered (sid : String) (owner : Dict String NodeId) (d : DrainDesk) : Prop where
  owned : ∀ s ∈ d.book.active, s ∈ owner.keys
  calls : ∀ f ∈ d.inFlight, f.stopSessionId = sid → f.isOpen = true → d.book.active = ∅
  record : ∃ r, d.book.tracking.get? sid = some r ∧ r.expectedNodes = owner.values.toFinset
    ∧ (∀ node a, r.acks.get? node = some a → ∀ s, owner.get? s = some node → s ∈ a.subjectIds)
    ∧ (r.Complete ∨ r.finalizing = true ∨ r.finalized = true → d.book.active = ∅)

/-- Complete acknowledgements of the owners cover every owned subject. -/
theorem drained_of_complete {owner : Dict String NodeId} {r : DrainRecord}
    (hexp : r.expectedNodes = owner.values.toFinset)
    (hacks : ∀ node a, r.acks.get? node = some a → ∀ s, owner.get? s = some node → s ∈ a.subjectIds)
    (hcomplete : r.Complete) {active : Finset String} (howned : ∀ s ∈ active, s ∈ owner.keys) :
    active \ r.drainedSubjects = ∅ := by
  rw [Finset.sdiff_eq_empty_iff_subset]
  intro s hs
  obtain ⟨node, hnode⟩ := Option.isSome_iff_exists.mp (Dict.get?_isSome_iff.mpr (howned s hs))
  have hin : node ∈ r.expectedNodes := by
    rw [hexp, List.mem_toFinset]
    exact Dict.get?_mem_values hnode
  obtain ⟨a, ha, -⟩ := hcomplete node hin
  exact r.mem_drainedSubjects.mpr ⟨node, a, ha, hacks node a ha s hnode⟩

theorem beingAnswered_ack {sid : String} {owner : Dict String NodeId} {d : DrainDesk} {node : NodeId}
    {ev : DrainEvent} {callback : Bool} (hok : Answers sid owner (.ack node ev callback))
    (h : BeingAnswered sid owner d) : BeingAnswered sid owner (d.ack node ev callback) := by
  obtain ⟨r, hr, hexp, hacks, hdone⟩ := h.record
  by_cases hev : truthy ev.stopSessionId = some sid
  · rw [DrainDesk.ack_of_get? node callback hev hr]
    generalize hq : r.recordAck node ev.ack = q
    have hqexp : q.expectedNodes = owner.values.toFinset := by
      rw [← hq]
      exact hexp
    have hqacks : ∀ n a, q.acks.get? n = some a → ∀ s, owner.get? s = some n → s ∈ a.subjectIds := by
      intro n a ha s hs
      rw [← hq] at ha
      unfold DrainRecord.recordAck at ha
      rw [Dict.get?_set] at ha
      split at ha
      · rename_i hn
        cases ha
        exact hok hev s (Dict.mem_keys_of_get? hs) (hn ▸ hs)
      · exact hacks n a ha s hs
    by_cases hfin : q.shouldFinalize = true
    · rw [if_pos hfin]
      have hcomplete := ((DrainRecord.shouldFinalize_iff q).mp hfin).1
      have hnone : (d.completed sid q callback).book.active = ∅ := by
        unfold DrainDesk.completed
        rw [launch_book]
        exact drained_of_complete hqexp hqacks hcomplete h.owned
      have hget : ∃ q', (d.completed sid q callback).book.tracking.get? sid = some q'
          ∧ q'.expectedNodes = q.expectedNodes ∧ q'.acks = q.acks := by
        unfold DrainDesk.completed
        rw [launch_book]
        exact ⟨_, DrainBook.get?_putRecord_self _ _ _, rfl, rfl⟩
      obtain ⟨q', hget, hexp', hacks'⟩ := hget
      refine ⟨?_, fun _ _ _ _ => hnone, q', hget, hexp'.trans hqexp, ?_, fun _ => hnone⟩
      · rw [hnone]
        simp
      · rw [hacks']
        exact hqacks
    · rw [if_neg hfin]
      refine ⟨h.owned, h.calls, q, DrainBook.get?_putRecord_self _ _ _, hqexp, hqacks, ?_⟩
      -- a complete record that is not finalized now was finalized before
      rintro (hcomplete | hflag)
      · by_cases hflags : q.finalizing = false ∧ q.finalized = false
        · exact absurd ((DrainRecord.shouldFinalize_iff q).mpr ⟨hcomplete, hflags⟩) hfin
        · apply hdone
          rw [← hq] at hflags
          rw [not_and_or, Bool.not_eq_false, Bool.not_eq_false] at hflags
          exact .inr hflags
      · rw [← hq] at hflag
        exact hdone (.inr hflag)
  · have hsub : (d.ack node ev callback).book.active ⊆ d.book.active := by
      rcases DrainDesk.active_of_step (d := d) (a := .ack node ev callback) rfl with ⟨ids, hc, -⟩ | ⟨-, hsub⟩
      · cases hc
      · exact hsub
    have hempty : d.book.active = ∅ → (d.ack node ev callback).book.active = ∅ := by
      intro hnone
      rw [hnone] at hsub
      exact Finset.subset_empty.mp hsub
    have hother : (d.ack node ev callback).book.tracking.get? sid = some r
        ∧ ∀ f ∈ (d.ack node ev callback).inFlight, f.stopSessionId = sid → f ∈ d.inFlight := by
      unfold DrainDesk.ack
      rcases d.book.drainAck_cases node ev with heq | ⟨sid', record, hsid', -, ⟨-, heq⟩ | ⟨-, heq⟩⟩
      · rw [heq]
        exact ⟨hr, fun _ hf _ => hf⟩
      · rw [heq]
        have hne : sid' ≠ sid := fun hc => hev (hc ▸ hsid')
        exact ⟨(DrainBook.get?_putRecord_ne _ _ hne).trans hr, fun _ hf _ => hf⟩
      · rw [heq]
        have hne : sid' ≠ sid := fun hc => hev (hc ▸ hsid')
        dsimp only [DrainBook.completeDrain]
        rw [launch_book, launch_inFlight]
        refine ⟨(DrainBook.get?_putRecord_ne _ _ hne).trans hr, ?_⟩
        intro f hf hfsid
        rcases List.mem_append.mp hf with hold | hnew
        · exact hold
        · rw [List.mem_singleton.mp hnew] at hfsid
          exact absurd hfsid hne
    refine ⟨fun s hs => h.owned s (hsub hs), ?_, r, hother.1, hexp, hacks, fun hd => hempty (hdone hd)⟩
    intro f hf hsid hopen
    exact hempty (h.calls f (hother.2 f hf hsid) hsid hopen)

theorem beingAnswered_step {sid : String} {owner : Dict String NodeId} {d d' : DrainDesk}
    {b : DrainAction} (hok : Answers sid owner b) (hstep : d.step b = some d')
    (h : BeingAnswered sid owner d) : BeingAnswered sid owner d' := by
  obtain ⟨r, hr, hexp, hacks, hdone⟩ := h.record
  have hactive : d'.book.active ⊆ d.book.active := by
    rcases DrainDesk.active_of_step hstep with ⟨ids, rfl, -⟩ | ⟨-, hsub⟩
    · exact hok.elim
    · exact hsub
  have howned : ∀ s ∈ d'.book.active, s ∈ owner.keys := fun s hs => h.owned s (hactive hs)
  cases b with
  | start ids => exact hok.elim
  | create sid' scope subjectIds nodes =>
    cases hstep
    exact ⟨howned, h.calls, r, (DrainBook.get?_putRecord_ne _ _ hok).trans hr, hexp, hacks, hdone⟩
  | ack node ev callback =>
    cases hstep
    exact beingAnswered_ack hok h
  | advance i e =>
    obtain ⟨f, hf, hadv⟩ := Option.bind_eq_some_iff.mp hstep
    obtain ⟨⟨stage, hcalls, hopen⟩, hbook⟩ := DrainDesk.advanceCall_cases hadv
    have hsame := DrainDesk.advanceCall_active hadv
    have hmem := List.mem_of_getElem? hf
    refine ⟨howned, ?_, ?_⟩
    · intro g hg hsid hgopen
      rw [hsame]
      rw [hcalls] at hg
      rcases List.mem_or_eq_of_mem_set hg with hold | rfl
      · exact h.calls g hold hsid hgopen
      · exact h.calls f hmem hsid (hopen hgopen)
    · -- an open call of the stop itself: the set is empty, whatever the flags are
      rw [hsame]
      by_cases hsid : f.stopSessionId = sid
      · rcases hbook with hbook | ⟨hfopen, hbook | hbook⟩
        · rw [hbook]
          exact h.record
        · have hnone := h.calls f hmem hsid hfopen
          rw [hbook, hsid]
          unfold DrainBook.finishDrain
          rw [hr]
          exact ⟨_, DrainBook.get?_putRecord_self _ _ _, hexp, hacks, fun _ => hnone⟩
        · have hnone := h.calls f hmem hsid hfopen
          rw [hbook, hsid]
          unfold DrainBook.failDrain
          rw [hr]
          exact ⟨_, DrainBook.get?_putRecord_self _ _ _, hexp, hacks, fun _ => hnone⟩
      · refine ⟨r, ?_, hexp, hacks, hdone⟩
        rcases hbook with hbook | ⟨-, hbook | hbook⟩
        · rw [hbook]
          exact hr
        · rw [hbook]
          unfold DrainBook.finishDrain
          split
          · exact hr
          · exact (DrainBook.get?_putRecord_ne _ _ hsid).trans hr
        · rw [hbook]
          unfold DrainBook.failDrain
          split
          · exact hr
          · exact (DrainBook.get?_putRecord_ne _ _ hsid).trans hr

namespace Master

variable {lower : String → String} {w w' : Master}

/-! ## Active subjects are registered -/

/-- Every active id is a subject of the registry. -/
def ActiveRegistered (w : Master) : Prop :=
  ∀ s ∈ w.desk.book.active, s ∈ w.registry.subjects.keys

/-- An admitted START names registered subjects only. -/
def StartsRegistered (w : Master) : MasterAction → Prop
  | .dispatch (.startStreamForAll p) _ | .dispatch (.startStreamForSubjects p) _ =>
    w.unsettled = false → ∀ s ∈ p.ids, s ∈ w.registry.subjects.keys
  | _ => True

instance (w : Master) (a : MasterAction) : Decidable (StartsRegistered w a) := by
  unfold StartsRegistered
  split <;> infer_instance

/-- While an initialization is unsettled nothing is active, so that no change of ownership
meets an active subject. -/
structure ActiveInv (w : Master) : Prop where
  registered : ActiveRegistered w
  idle : w.pending ≠ none ∨ w.recovery ≠ none → w.desk.book.active = ∅

theorem activeInv_boot (entry : NodeEntry) : ActiveInv (boot entry) := by
  refine ⟨?_, fun _ => rfl⟩
  intro s hs
  cases hs

/-- Steps that do not make a subject active. -/
theorem activeInv_move (hmove : InitMove w w') (hsub : w'.desk.book.active ⊆ w.desk.book.active)
    (h : ActiveInv w) : ActiveInv w' := by
  have hempty : w.desk.book.active = ∅ → ActiveInv w' := by
    intro hnone
    rw [hnone] at hsub
    have hnone' := Finset.subset_empty.mp hsub
    refine ⟨?_, fun _ => hnone'⟩
    intro s hs
    rw [hnone'] at hs
    cases hs
  cases hmove with
  | none hreg hpend hrec =>
    refine ⟨?_, ?_⟩
    · intro s hs
      rw [hreg]
      exact h.registered s (hsub hs)
    · intro hopen
      rw [hpend, hrec] at hopen
      have hnone := h.idle hopen
      rw [hnone] at hsub
      exact Finset.subset_empty.mp hsub
  | begin r hidle hsettled hdrained => exact hempty hdrained
  | answer r node p hold => exact hempty (h.idle (.inl (by simp [hold])))
  | complete r node p hold => exact hempty (h.idle (.inl (by simp [hold])))
  | fail r hold => exact hempty (h.idle (.inl (by simp [hold])))
  | reset rec id hold => exact hempty (h.idle (.inr (by simp [hold])))
  | report rec node id hold => exact hempty (h.idle (.inr (by simp [hold])))

/-- The targets of a START that names registered subjects are registered. -/
theorem targets_registered {ids : List String} (h : ∀ s ∈ ids, s ∈ w.registry.subjects.keys) :
    ∀ s ∈ w.targets ids, s ∈ w.registry.subjects.keys := by
  unfold targets
  split
  · exact fun s hs => hs
  · exact h

theorem activeInv_step {a : MasterAction} (hok : StartsRegistered w a) (hstep : w.step lower a = some w')
    (h : ActiveInv w) : ActiveInv w' := by
  have hmove := initMove_of_step hstep
  cases streamMove_of_step hstep with
  | none hstart hdrain hstreams =>
    have hdesk : w'.desk = w.desk := congrArg Prod.fst hstreams
    exact activeInv_move hmove (by rw [hdesk]) h
  | start specific p env hstart hdrain hw =>
    obtain ⟨hopen, ha⟩ := startedBy_eq_some hstart
    -- the condition is about an admitted START, and this one was admitted
    have hids : ∀ s ∈ p.ids, s ∈ w.registry.subjects.keys := by
      rcases ha with rfl | rfl
      · exact hok hopen
      · exact hok hopen
    subst hw
    refine ⟨?_, ?_⟩
    · intro s hs
      rcases Finset.mem_union.mp hs with hold | hnew
      · exact h.registered s hold
      · exact targets_registered hids s (List.mem_toFinset.mp hnew)
    · intro hunsettled
      simp only [unsettled, Bool.or_eq_false_iff, Option.isSome_eq_false_iff,
        Option.isNone_iff_eq_none] at hopen
      rcases hunsettled with hc | hc
      · exact absurd hopen.1 hc
      · exact absurd hopen.2 hc
  | commit sid official commits hstart hdrain hok hw =>
    exact activeInv_move hmove (by rw [hw]) h
  | drain b desk hstart hdrain hdesk hw hother =>
    rcases DrainDesk.active_of_step hdesk with ⟨ids, hb, -⟩ | ⟨-, hsub⟩
    · -- the set grows by a START only
      exact absurd hb (hother ids)
    · exact activeInv_move hmove (by rw [hw]; exact hsub) h
  | official node ev ha hw =>
    exact activeInv_move hmove (by rw [hw]) h

/-- A START that names an unregistered subject makes it active. -/
theorem startsRegistered_of_after (lower : String → String) {a : MasterAction}
    (hafter : ∀ w', w.step lower a = some w' → ActiveRegistered w') : StartsRegistered w a := by
  have hstart : ∀ p env cmd, (cmd = .startStreamForAll p ∨ cmd = .startStreamForSubjects p) →
      (∀ w', w.dispatchCommand lower cmd env = some w' → ActiveRegistered w') → w.unsettled = false →
      ∀ s ∈ p.ids, s ∈ w.registry.subjects.keys := by
    intro p env cmd hcmd hafter hopen s hs
    have hdispatch : ∃ specific, w.dispatchCommand lower cmd env
        = some (w.dispatchStart specific p env) := by
      unfold dispatchCommand
      rcases hcmd with rfl | rfl
      · exact ⟨false, by simp [hopen, Command.needsConnectIdle]⟩
      · exact ⟨true, by simp [hopen, Command.needsConnectIdle]⟩
    obtain ⟨specific, hdispatch⟩ := hdispatch
    apply hafter _ hdispatch s
    apply Finset.mem_union_right
    rw [List.mem_toFinset]
    unfold targets
    rw [if_neg (List.ne_nil_of_mem hs)]
    exact hs
  cases a with
  | dispatch cmd env =>
    cases cmd with
    | startStreamForAll p => exact hstart p env _ (.inl rfl) hafter
    | startStreamForSubjects p => exact hstart p env _ (.inr rfl) hafter
    | _ => trivial
  | _ => trivial

/-- The set stays inside the registry through every prefix of a run exactly when every
admitted START of the run names registered subjects. -/
theorem prefixes_registered_iff (h : ActiveInv w) (as : List MasterAction) :
    (∀ k t, Machine.exec (step lower) w (as.take k) = some t → ActiveRegistered t)
      ↔ Machine.Along (step lower) StartsRegistered w as := by
  constructor
  · intro hall
    induction as generalizing w with
    | nil => trivial
    | cons a as ih =>
      have hone : StartsRegistered w a := by
        apply startsRegistered_of_after lower
        intro w' hstep
        apply hall 1
        rw [List.take_succ_cons, Machine.exec_cons, hstep]
        rfl
      refine ⟨hone, fun w' hstep => ih (activeInv_step hone hstep h) ?_⟩
      intro k t ht
      apply hall (k + 1)
      rw [List.take_succ_cons, Machine.exec_cons, hstep]
      exact ht
  · intro halong k t ht
    have hinv : ActiveInv t := by
      refine (halong.take k).invariant h ?_ ht
      intro r a r' hok hstep hr
      exact activeInv_step hok hstep hr
    exact hinv.registered

/-! ## The result -/

/-- An INIT is turned away for acquiring only if something is active. -/
theorem validate_acquiring {subjects : Option (List SubjectConf)} {env : DispatchEnv}
    (h : w.validateInitialization lower subjects env = .error .acquiring) : w.desk.book.active ≠ ∅ := by
  intro hnone
  unfold validateInitialization at h
  rw [if_neg (not_not.mpr hnone)] at h
  cases hlocal : env.localError with
  | some e =>
    rw [hlocal] at h
    cases h
  | none =>
    rw [hlocal] at h
    cases hplan : planSubjectAssignments lower w.registry subjects with
    | error e =>
      rw [hplan] at h
      cases h
    | ok plan =>
      rw [hplan] at h
      simp only [Except.mapError, bind, Except.bind, pure, Except.pure, throw, throwThe,
        MonadExceptOf.throw] at h
      split at h <;> cases h

/-- Every action of the barrier that a step contains answers the stop. -/
def Answering (sid : String) (owner : Dict String NodeId) (w : Master) (a : MasterAction) : Prop :=
  ∀ b ∈ w.drainAction a, Answers sid owner b

instance (sid : String) (owner : Dict String NodeId) (w : Master) (a : MasterAction) :
    Decidable (Answering sid owner w a) := by
  unfold Answering
  infer_instance

theorem beingAnswered_stop (hreg : ActiveRegistered w) {sid : String} (hsid : sid ≠ "")
    (hfresh : ∀ f ∈ w.desk.inFlight, f.stopSessionId ≠ sid) (env : DispatchEnv) :
    BeingAnswered sid w.registry.subjects
      (w.dispatchStop { stopSessionId := some sid } env).desk := by
  have hid : (truthy (some sid)).getD env.uuid = sid := by simp [truthy, Option.filter, hsid]
  unfold dispatchStop
  dsimp only
  rw [hid]
  refine ⟨hreg, ?_, _, DrainBook.get?_putRecord_self _ _ _, rfl, ?_, ?_⟩
  · intro f hf hfsid
    exact absurd hfsid (hfresh f hf)
  · intro node a ha
    cases ha
  · -- a stop nobody has to answer is complete at once: then nothing is registered
    rintro (hcomplete | hflag | hflag)
    · apply Finset.eq_empty_of_forall_notMem
      intro s hs
      obtain ⟨node, hnode⟩ := Option.isSome_iff_exists.mp (Dict.get?_isSome_iff.mpr (hreg s hs))
      have hin : node ∈ w.registry.subjects.values.toFinset :=
        List.mem_toFinset.mpr (Dict.get?_mem_values hnode)
      obtain ⟨a, ha, -⟩ := hcomplete node hin
      cases ha
    · cases hflag
    · cases hflag

theorem beingAnswered_run {sid : String} {owner : Dict String NodeId} {bs : List MasterAction} {t : Master}
    (h : BeingAnswered sid owner w.desk) (halong : Machine.Along (step lower) (Answering sid owner) w bs)
    (hexec : Machine.exec (step lower) w bs = some t) : BeingAnswered sid owner t.desk := by
  refine halong.invariant (I := fun t : Master => BeingAnswered sid owner t.desk) h ?_ hexec
  intro r a r' hok hstep hr
  have hdesk := desk_of_step hstep
  cases haction : r.drainAction a with
  | none =>
    rw [haction] at hdesk
    rw [hdesk]
    exact hr
  | some b =>
    rw [haction] at hdesk
    exact beingAnswered_step (hok b haction) hdesk hr

def oneSubjectInstalled : List MasterAction :=
  [.dispatch (.initSystem (some [{ subjectId := some "s1" }]))
      { correlationId := some "c-1", initializationId := "init-1" },
    .reply masterId .nodeInitialized
      { initializationId := some "init-1", correlationId := some "c-1"
        configurationState := some "installed", subjectIds := some ["s1"] },
    .dispatchEnds]

def startedAll : List MasterAction :=
  oneSubjectInstalled ++ [.dispatch (.startStreamForAll {}) { uuid := "start-1" }]

def stopAll : MasterAction := .dispatch (.stopStreamForAll { stopSessionId := some "stop-1" }) {}

/-- The master's Core accepts the stop and reports its one subject. -/
def masterAnswers : List MasterAction :=
  [.drainAck masterId { stopSessionId := some "stop-1", subjectIds := ["s1"] } false]

def runFrom (w : Master) (as : List MasterAction) : Master :=
  (Machine.exec (step String.toLower) w as).getD w

theorem exec_eq_runFrom {as : List MasterAction}
    (h : (Machine.exec (step String.toLower) w as).isSome = true) :
    Machine.exec (step String.toLower) w as = some (runFrom w as) := by
  obtain ⟨t, ht⟩ := Option.isSome_iff_exists.mp h
  unfold runFrom
  rw [ht]
  rfl

/-- A START for a subject nobody owns goes to the master, whose Core refuses it. The STOP
for all is answered by the one owner there is, and the id stays. -/
def ghostStarted : List MasterAction :=
  oneSubjectInstalled
    ++ [.dispatch (.startStreamForSubjects { subjectIds := some ["ghost"] }) { uuid := "start-1" }]

end Master

end NexusN3
