import NexusN3.Master.Node

/-!
# Distributed initialization

Who owns a subject, and when. A step of the master does one of seven things to an
initialization (`InitMove`): nothing, begin it, store a reply, complete it, fail it, restart
the recovery after a failure, or finish that recovery. The seven are read off the code once
(`initMove_of_step`); the invariant and the results are case analyses over them.
-/

namespace NexusN3

open Lib

/-- The node answered this initialization: it installed exactly what the plan gave it. -/
def HeardInstalled (h : InitHistory) (r : InitRecord) (node : NodeId) : Prop :=
  ∃ event p, (node, event, p) ∈ h.heard ∧ p.initializationId = some r.initializationId
    ∧ r.installed node event p = true

/-- Every participant has reported ready for one Reset sent since the failure. -/
def InitHistory.Cleaned (h : InitHistory) (participants : Finset NodeId) : Prop :=
  ∃ id ∈ h.resets, ∀ node ∈ participants, (node, id) ∈ h.reports

theorem HeardInstalled.mono {h h' : InitHistory} {r : InitRecord} {node : NodeId}
    (hheard : HeardInstalled h r node) (hsub : h.heard ⊆ h'.heard) : HeardInstalled h' r node := by
  obtain ⟨event, p, hmem, hid, hok⟩ := hheard
  exact ⟨event, p, hsub hmem, hid, hok⟩

theorem InitHistory.Cleaned.mono {h h' : InitHistory} {participants : Finset NodeId}
    (hclean : h.Cleaned participants) (hresets : h.resets ⊆ h'.resets) (hreports : h.reports ⊆ h'.reports) :
    h'.Cleaned participants := by
  obtain ⟨id, hid, hall⟩ := hclean
  exact ⟨id, hresets hid, fun node hnode => hreports (hall node hnode)⟩

/-- The event ends the initialization `id`. -/
def ends (id : String) (e : MasterEvent) : Bool := decide (e.ends = some id)

namespace Master

/-! ## What a step can do -/

/-- The history only grows, apart from what a new failure starts over. -/
structure HistoryGrows (h h' : InitHistory) : Prop where
  begun : h.begun ⊆ h'.begun
  heard : h.heard ⊆ h'.heard

theorem HistoryGrows.refl (h : InitHistory) : HistoryGrows h h :=
  ⟨List.Subset.refl _, List.Subset.refl _⟩

/-- What one step does to the initialization. -/
inductive InitMove (w w' : Master) : Prop where
  | none (hsub : w'.registry.subjects = w.registry.subjects) (hpend : w'.pending = w.pending)
      (hrec : w'.recovery = w.recovery) (hgrows : HistoryGrows w.history w'.history)
      (hfailed : w'.history.failed = w.history.failed) (hresets : w'.history.resets = w.history.resets)
      (hreports : w.history.reports ⊆ w'.history.reports)
      (hemit : ∃ es, w'.emitted = w.emitted ++ es ∧ ∀ e ∈ es, e.ends = .none)
  | begin (r : InitRecord) (hidle : w.pending = .none) (hsettled : w.recovery = .none)
      (hdrained : w.desk.book.active = ∅)
      (hfresh : r.initializationId ∉ w.history.begun) (hreplies : r.replies = .empty)
      (hsub : w'.registry.subjects = w.registry.subjects) (hpend : w'.pending = some r)
      (hrec : w'.recovery = .none) (hemit : w'.emitted = w.emitted)
      (hhist : w'.history = { w.history with begun := w.history.begun ++ [r.initializationId] })
  | answer (r : InitRecord) (node : NodeId) (p : InitReply) (hold : w.pending = some r)
      (hheard : HeardInstalled w'.history r node)
      (hsub : w'.registry.subjects = w.registry.subjects)
      (hpend : w'.pending = some { r with replies := r.replies.set node p })
      (hrec : w'.recovery = w.recovery) (hemit : w'.emitted = w.emitted)
      (hhist : ∃ x, w'.history = { w.history with heard := w.history.heard ++ [x] })
  | complete (r : InitRecord) (node : NodeId) (p : InitReply) (hold : w.pending = some r)
      (hheard : HeardInstalled w'.history r node)
      (hall : r.expected ⊆ (r.replies.set node p).keySet)
      (hsub : w'.registry.subjects = r.requestedAssignments) (hpend : w'.pending = .none)
      (hrec : w'.recovery = w.recovery)
      (hemit : ∃ e, e.ends = some r.initializationId ∧ w'.emitted = w.emitted ++ [e])
      (hhist : ∃ x, w'.history = { w.history with heard := w.history.heard ++ [x] })
  | fail (r : InitRecord) (hold : w.pending = some r) (hsub : w'.registry.subjects = .empty)
      (hpend : w'.pending = .none)
      (hrec : ∃ rec, w'.recovery = some rec ∧ rec.participants = r.expected ∧ rec.cleanupId = .none
        ∧ rec.cleanupNodes = ∅)
      (hemit : ∃ result failure missing, w'.emitted
        = w.emitted ++ [.initializationFailed result failure missing]
          ∧ result.initializationId = r.initializationId)
      (hgrows : HistoryGrows w.history w'.history) (hfailed : w'.history.failed = some r.expected)
  | reset (rec : InitRecovery) (id : String) (hold : w.recovery = some rec)
      (hsub : w'.registry.subjects = w.registry.subjects) (hpend : w'.pending = w.pending)
      (hrec : w'.recovery = some { rec with cleanupId := some id, cleanupNodes := ∅ })
      (hhist : w'.history = { w.history with resets := w.history.resets ++ [id] })
      (hemit : ∃ es, w'.emitted = w.emitted ++ es ∧ ∀ e ∈ es, e.ends = .none)
  | report (rec : InitRecovery) (node : NodeId) (id : String) (hold : w.recovery = some rec)
      (hid : rec.cleanupId = some id) (hpend : w'.pending = w.pending) (hemit : w'.emitted = w.emitted)
      (hhist : w'.history = { w.history with reports := w.history.reports ++ [(node, id)] })
      (hend : (w'.registry.subjects = w.registry.subjects
          ∧ w'.recovery = some { rec with cleanupNodes := insert node rec.cleanupNodes })
        ∨ (w'.registry.subjects = .empty ∧ w'.recovery = .none
          ∧ rec.participants ⊆ insert node rec.cleanupNodes))

variable {lower : String → String} {w w' : Master}

/-- Steps that leave the initialization alone and may report something else. -/
theorem InitMove.of_emit (hsub : w'.registry.subjects = w.registry.subjects)
    (hpend : w'.pending = w.pending) (hrec : w'.recovery = w.recovery) (hhist : w'.history = w.history)
    (es : List MasterEvent) (hemit : w'.emitted = w.emitted ++ es) (hes : ∀ e ∈ es, e.ends = Option.none) :
    InitMove w w' := by
  refine .none hsub hpend hrec ?_ ?_ ?_ ?_ ⟨es, hemit, hes⟩
  · rw [hhist]
    exact .refl _
  · rw [hhist]
  · rw [hhist]
  · rw [hhist]
    exact List.Subset.refl _

/-- A command that was refused, or whose effect is elsewhere. -/
theorem InitMove.of_event (e : MasterEvent) (he : e.ends = Option.none) : InitMove w (w.emit e) :=
  .of_emit rfl rfl rfl rfl [e] rfl (by simpa using he)

theorem InitMove.of_same (hsub : w'.registry.subjects = w.registry.subjects)
    (hpend : w'.pending = w.pending) (hrec : w'.recovery = w.recovery) (hhist : w'.history = w.history)
    (hemit : w'.emitted = w.emitted) : InitMove w w' :=
  .of_emit hsub hpend hrec hhist [] (by rw [hemit, List.append_nil]) (by simp)

/-- An INIT gets past its checks only with no subject active. -/
theorem active_of_validate {subjects : Option (List SubjectConf)} {env : DispatchEnv}
    {x : Plan × Dict String NodeId × Dict String NodeId × List NodeId}
    (h : w.validateInitialization lower subjects env = .ok x) : w.desk.book.active = ∅ := by
  by_contra hactive
  unfold validateInitialization at h
  rw [if_pos hactive] at h
  cases h

theorem initMove_begin {subjects : Option (List SubjectConf)} {env : DispatchEnv}
    (h : w.beginInitialization lower subjects env = some w') : InitMove w w' := by
  unfold beginInitialization at h
  dsimp only at h
  split at h
  · cases h
    exact .of_event _ rfl
  · rename_i hidle
    simp only [Bool.or_eq_true, Option.isSome_iff_ne_none, not_or, not_not] at hidle
    split at h
    · cases h
      exact .of_event _ rfl
    · rename_i hvalid
      split at h
      · cases h
      · rename_i hfresh
        cases h
        exact .begin _ hidle.1.1 hidle.1.2 (active_of_validate hvalid) hfresh rfl rfl rfl hidle.1.2 rfl
          rfl

theorem initMove_disconnectAll (recoverSession : Bool) (env : DispatchEnv) :
    InitMove w (w.disconnectAll recoverSession env) := by
  unfold disconnectAll
  split
  · exact .of_event _ rfl
  · rename_i rec hrec
    dsimp only
    split
    · exact .reset rec _ hrec rfl rfl rfl rfl ⟨[_], rfl, by simp [MasterEvent.ends]⟩
    · exact .of_event _ rfl

theorem initMove_dispatch {cmd : Command} {env : DispatchEnv}
    (h : w.dispatchCommand lower cmd env = some w') : InitMove w w' := by
  unfold dispatchCommand at h
  split at h
  · cases h
    exact .of_event _ rfl
  · split at h
    · cases h
      exact .of_event _ rfl
    · cases cmd with
      | disconnectAll recoverSession =>
        dsimp only at h
        split at h <;> cases h
        · exact .of_event _ rfl
        · exact initMove_disconnectAll _ _
      | disconnectSubjects subjectIds =>
        dsimp only at h
        split at h <;> cases h
        · exact .of_event _ rfl
        · exact .of_event _ rfl
      | initSystem subjects => exact initMove_begin h
      | startOfficialStream startSessionId =>
        cases h
        unfold dispatchCommit
        split
        · exact .of_event _ rfl
        · exact .of_event _ rfl
        · exact .of_same rfl rfl rfl rfl rfl
      | _ =>
        cases h
        exact .of_same rfl rfl rfl rfl rfl

theorem initMove_failPending (id : String) (failure : InitFailure) :
    InitMove w (w.failPending id failure) := by
  unfold failPending
  split
  · exact .of_same rfl rfl rfl rfl rfl
  · rename_i r hr
    split
    · exact .fail r hr rfl rfl ⟨_, rfl, rfl, rfl, rfl⟩ ⟨_, _, _, rfl, rfl⟩
        ⟨List.Subset.refl _, List.Subset.refl _⟩ rfl
    · exact .of_same rfl rfl rfl rfl rfl

theorem initMove_reply (node : NodeId) (event : InitEvent) (p : InitReply) :
    InitMove w ((w.note fun h => { h with heard := h.heard ++ [(node, event, p)] }).recordInitializationReply
      node event p) := by
  have hgrows : HistoryGrows w.history { w.history with heard := w.history.heard ++ [(node, event, p)] } :=
    ⟨List.Subset.refl _, List.subset_append_left _ _⟩
  have hnone : InitMove w (w.note fun h => { h with heard := h.heard ++ [(node, event, p)] }) :=
    .none rfl rfl rfl hgrows rfl rfl (List.Subset.refl _) ⟨[], by simp [note], by simp⟩
  unfold recordInitializationReply
  split
  · exact hnone
  · rename_i r hr
    have hold : w.pending = some r := hr
    split
    · rename_i hanswers
      unfold answersPending at hanswers
      simp only [Bool.and_eq_true, decide_eq_true_eq] at hanswers
      dsimp only
      split
      · rename_i hinstalled
        have hheard : HeardInstalled { w.history with heard := w.history.heard ++ [(node, event, p)] } r node :=
          ⟨event, p, List.mem_append_right _ (List.mem_singleton.mpr rfl), hanswers.1.1.1, hinstalled⟩
        split
        · rename_i hall
          exact .complete r node p hold hheard hall rfl rfl rfl ⟨_, rfl, rfl⟩ ⟨_, rfl⟩
        · exact .answer r node p hold hheard rfl rfl rfl rfl ⟨_, rfl⟩
      · -- a reply that reports no installed Core ends the initialization
        exact .fail r hold rfl rfl ⟨_, rfl, rfl, rfl, rfl⟩ ⟨_, _, _, rfl, rfl⟩
          ⟨hgrows.begun, hgrows.heard⟩ rfl
    · exact hnone

theorem reports_subset_noteReport (p : CleanupReport) (h : InitHistory) :
    h.reports ⊆ (noteReport p h).reports := by
  unfold noteReport
  dsimp only
  split
  · exact List.subset_append_left _ _
  · exact List.Subset.refl _

theorem initMove_cleanup (p : CleanupReport) :
    InitMove w ((w.note (noteReport p)).recordInitializationRecovery p) := by
  have hnone : InitMove w (w.note (noteReport p)) :=
    .none rfl rfl rfl ⟨List.Subset.refl _, List.Subset.refl _⟩ rfl rfl (reports_subset_noteReport p _)
      ⟨[], by simp [note], by simp⟩
  unfold recordInitializationRecovery
  split
  · rename_i rec node hrec hnode
    have hold : w.recovery = some rec := hrec
    split
    · rename_i hreport
      obtain ⟨hset, hcorr, -, hready⟩ := hreport
      -- an id that was never set answers no report
      obtain ⟨id, hid⟩ : ∃ id, rec.cleanupId = some id := by
        cases hc : rec.cleanupId with
        | none =>
          rw [hc] at hset
          cases hset
        | some id => exact ⟨id, rfl⟩
      have hhist : noteReport p w.history
          = { w.history with reports := w.history.reports ++ [(node, id)] } := by
        unfold noteReport
        rw [hnode, hcorr, hid, hready]
      dsimp only
      split
      · rename_i hall
        exact .report rec node id hold hid rfl rfl hhist (.inr ⟨rfl, rfl, hall⟩)
      · exact .report rec node id hold hid rfl rfl hhist (.inl ⟨rfl, rfl⟩)
    · exact hnone
  · exact hnone

/-- **Step inversion.** Every step is one of the seven moves. -/
theorem initMove_of_step {a : MasterAction} (h : w.step lower a = some w') : InitMove w w' := by
  cases a with
  | dispatch cmd env => exact initMove_dispatch h
  | dispatchRaises error =>
    obtain ⟨id, -, rfl⟩ := Option.map_eq_some_iff.mp h
    exact initMove_failPending _ _
  | dispatchEnds =>
    obtain ⟨id, -, rfl⟩ := Option.map_eq_some_iff.mp h
    exact .of_same rfl rfl rfl rfl rfl
  | expire id =>
    have hexpire : (if id ∈ w.history.begun then some (w.failPending id .timedOut) else Option.none)
        = some w' := h
    split at hexpire <;> cases hexpire
    exact initMove_failPending _ _
  | reply node event p =>
    cases h
    exact initMove_reply node event p
  | cleanupComplete p =>
    cases h
    exact initMove_cleanup p
  | registerNode node entry =>
    cases h
    exact .of_same rfl rfl rfl rfl rfl
  | drainAck node ev callback =>
    cases h
    exact .of_same rfl rfl rfl rfl rfl
  | drainAdvance i e =>
    obtain ⟨desk, -, rfl⟩ := Option.map_eq_some_iff.mp h
    exact .of_same rfl rfl rfl rfl rfl
  | officialEvent node ev =>
    cases h
    exact .of_same rfl rfl rfl rfl rfl

/-! ## The invariant -/

/-- An initialization that ended was begun, it ended once, and the pending one has not. -/
structure EndsOnce (w : Master) : Prop where
  ended : ∀ e ∈ w.emitted, ∀ id, e.ends = some id → id ∈ w.history.begun
  once : ∀ id, w.emitted.countP (ends id) ≤ 1
  begun : ∀ r, w.pending = some r → r.initializationId ∈ w.history.begun
  unfinished : ∀ r, w.pending = some r → ∀ e ∈ w.emitted, e.ends ≠ some r.initializationId

/-- The stored replies of the pending initialization are what its plan asks for. -/
def RepliesInstalled (w : Master) : Prop :=
  ∀ r, w.pending = some r → ∀ node ∈ r.replies.keySet, HeardInstalled w.history r node

/-- A recovery is that of the last failure and counts the reports of its own Reset alone;
without one, the last failure has been cleaned up. -/
structure RecoveryCounts (w : Master) : Prop where
  failed : ∀ rec, w.recovery = some rec → w.history.failed = some rec.participants
  cleanup : ∀ rec id, w.recovery = some rec → rec.cleanupId = some id → id ∈ w.history.resets
  counted : ∀ rec, w.recovery = some rec → ∀ node ∈ rec.cleanupNodes,
    ∃ id, rec.cleanupId = some id ∧ (node, id) ∈ w.history.reports
  settled : w.recovery = none → ∀ participants, w.history.failed = some participants →
    w.history.Cleaned participants

/-- Events that end nothing leave the counts alone. -/
theorem EndsOnce.append (h : EndsOnce w) {es : List MasterEvent} (hemit : w'.emitted = w.emitted ++ es)
    (hes : ∀ e ∈ es, e.ends = none) (hbegun : w.history.begun ⊆ w'.history.begun)
    (hpend : w'.pending = w.pending) : EndsOnce w' := by
  refine ⟨?_, ?_, ?_, ?_⟩
  · intro e he id hid
    rw [hemit] at he
    rcases List.mem_append.mp he with hold | hnew
    · exact hbegun (h.ended e hold id hid)
    · rw [hes e hnew] at hid
      cases hid
  · intro id
    have hzero : es.countP (ends id) = 0 := by
      rw [List.countP_eq_zero]
      intro e he
      simp [ends, hes e he]
    rw [hemit, List.countP_append, hzero, Nat.add_zero]
    exact h.once id
  · intro r hr
    exact hbegun (h.begun r (hpend ▸ hr))
  · intro r hr e he hid
    rw [hemit] at he
    rcases List.mem_append.mp he with hold | hnew
    · exact h.unfinished r (hpend ▸ hr) e hold hid
    · rw [hes e hnew] at hid
      cases hid

theorem EndsOnce.same (h : EndsOnce w) (hemit : w'.emitted = w.emitted)
    (hbegun : w'.history.begun = w.history.begun) (hpend : w'.pending = w.pending) : EndsOnce w' := by
  have hnil : w'.emitted = w.emitted ++ [] := by rw [hemit, List.append_nil]
  exact h.append hnil (by simp) (hbegun ▸ List.Subset.refl _) hpend

/-- The event that ends the pending initialization is the first to do so. -/
theorem EndsOnce.finish (h : EndsOnce w) {r : InitRecord} {e : MasterEvent} (hold : w.pending = some r)
    (he : e.ends = some r.initializationId) (hemit : w'.emitted = w.emitted ++ [e])
    (hbegun : w.history.begun ⊆ w'.history.begun) (hpend : w'.pending = none) : EndsOnce w' := by
  refine ⟨?_, ?_, ?_, ?_⟩
  · intro x hx id hid
    rw [hemit] at hx
    rcases List.mem_append.mp hx with hin | hnew
    · exact hbegun (h.ended x hin id hid)
    · rw [List.mem_singleton.mp hnew, he] at hid
      cases hid
      exact hbegun (h.begun r hold)
  · intro id
    rw [hemit, List.countP_append, List.countP_singleton]
    by_cases hid : r.initializationId = id
    · subst hid
      -- the pending one has not ended before
      have hzero : w.emitted.countP (ends r.initializationId) = 0 := by
        rw [List.countP_eq_zero]
        intro x hx
        simp [ends, h.unfinished r hold x hx]
      rw [hzero]
      split <;> omega
    · have hnot : ends id e = false := by simp [ends, he, hid]
      rw [hnot]
      exact h.once id
  · intro r' hr'
    rw [hpend] at hr'
    cases hr'
  · intro r' hr'
    rw [hpend] at hr'
    cases hr'

theorem endsOnce_move (hmove : InitMove w w') (h : EndsOnce w) : EndsOnce w' := by
  cases hmove with
  | none hsub hpend hrec hgrows hfailed hresets hreports hemit =>
    obtain ⟨es, hemit, hes⟩ := hemit
    exact h.append hemit hes hgrows.begun hpend
  | begin r hidle hsettled hdrained hfresh hreplies hsub hpend hrec hemit hhist =>
    have hbegun : w'.history.begun = w.history.begun ++ [r.initializationId] := by rw [hhist]
    refine ⟨?_, ?_, ?_, ?_⟩
    · intro e he id hid
      rw [hbegun]
      exact List.mem_append_left _ (h.ended e (hemit ▸ he) id hid)
    · rw [hemit]
      exact h.once
    · intro r' hr'
      rw [hpend] at hr'
      cases hr'
      rw [hbegun]
      exact List.mem_append_right _ (List.mem_singleton.mpr rfl)
    · intro r' hr' e he hid
      rw [hpend] at hr'
      cases hr'
      exact hfresh (h.ended e (hemit ▸ he) _ hid)
  | answer r node p hold hheard hsub hpend hrec hemit hhist =>
    obtain ⟨x, hhist⟩ := hhist
    refine ⟨?_, ?_, ?_, ?_⟩
    · rw [hemit, hhist]
      exact h.ended
    · rw [hemit]
      exact h.once
    · intro r' hr'
      rw [hpend] at hr'
      cases hr'
      rw [hhist]
      exact h.begun r hold
    · intro r' hr'
      rw [hpend] at hr'
      cases hr'
      rw [hemit]
      exact h.unfinished r hold
  | complete r node p hold hheard hall hsub hpend hrec hemit hhist =>
    obtain ⟨x, hhist⟩ := hhist
    obtain ⟨e, he, hemit⟩ := hemit
    exact h.finish hold he hemit (by rw [hhist]; exact List.Subset.refl _) hpend
  | fail r hold hsub hpend hrec hemit hgrows hfailed =>
    obtain ⟨result, failure, missing, hemit, hresult⟩ := hemit
    have hends : (MasterEvent.initializationFailed result failure missing).ends
        = some r.initializationId := congrArg some hresult
    exact h.finish hold hends hemit hgrows.begun hpend
  | reset rec id hold hsub hpend hrec hhist hemit =>
    obtain ⟨es, hemit, hes⟩ := hemit
    exact h.append hemit hes (by rw [hhist]; exact List.Subset.refl _) hpend
  | report rec node id hold hid hpend hemit hhist hend =>
    exact h.same hemit (by rw [hhist]) hpend

theorem repliesInstalled_move (hmove : InitMove w w') (h : RepliesInstalled w) : RepliesInstalled w' := by
  -- a record that stays keeps its replies; what was heard is not forgotten
  have hkeep : w'.pending = w.pending → w.history.heard ⊆ w'.history.heard → RepliesInstalled w' := by
    intro hpend hheard r hr node hnode
    exact (h r (hpend ▸ hr) node hnode).mono hheard
  have hgone : w'.pending = none → RepliesInstalled w' := by
    intro hpend r hr
    rw [hpend] at hr
    cases hr
  cases hmove with
  | none hsub hpend hrec hgrows => exact hkeep hpend hgrows.heard
  | begin r hidle hsettled hdrained hfresh hreplies hsub hpend =>
    intro r' hr' node hnode
    rw [hpend] at hr'
    cases hr'
    rw [hreplies] at hnode
    simp at hnode
  | answer r node p hold hheard hsub hpend hrec hemit hhist =>
    obtain ⟨x, hhist⟩ := hhist
    intro r' hr' n hn
    rw [hpend] at hr'
    cases hr'
    rcases Dict.mem_keys_set.mp (Dict.mem_keySet.mp hn) with rfl | hin
    · exact hheard
    · have hbefore : HeardInstalled w.history r n := h r hold n (Dict.mem_keySet.mpr hin)
      rw [hhist]
      exact hbefore.mono (List.subset_append_left _ _)
  | complete r node p hold hheard hall hsub hpend => exact hgone hpend
  | fail r hold hsub hpend => exact hgone hpend
  | reset rec id hold hsub hpend hrec hhist =>
    exact hkeep hpend (by rw [hhist]; exact List.Subset.refl _)
  | report rec node id hold hid hpend hemit hhist =>
    exact hkeep hpend (by rw [hhist]; exact List.Subset.refl _)

/-- Steps that have nothing to do with a recovery. -/
theorem RecoveryCounts.same (h : RecoveryCounts w) (hrec : w'.recovery = w.recovery)
    (hfailed : w'.history.failed = w.history.failed) (hresets : w'.history.resets = w.history.resets)
    (hreports : w.history.reports ⊆ w'.history.reports) : RecoveryCounts w' := by
  refine ⟨?_, ?_, ?_, ?_⟩
  · rw [hrec, hfailed]
    exact h.failed
  · rw [hrec, hresets]
    exact h.cleanup
  · intro rec hr node hnode
    obtain ⟨id, hid, hmem⟩ := h.counted rec (hrec ▸ hr) node hnode
    exact ⟨id, hid, hreports hmem⟩
  · intro hr participants hf
    rw [hfailed] at hf
    exact (h.settled (hrec ▸ hr) participants hf).mono (hresets ▸ List.Subset.refl _) hreports

theorem recoveryCounts_move (hmove : InitMove w w') (h : RecoveryCounts w) : RecoveryCounts w' := by
  cases hmove with
  | none hsub hpend hrec hgrows hfailed hresets hreports =>
    exact h.same hrec hfailed hresets hreports
  | begin r hidle hsettled hdrained hfresh hreplies hsub hpend hrec hemit hhist =>
    exact h.same (hrec.trans hsettled.symm) (by rw [hhist]) (by rw [hhist])
      (by rw [hhist]; exact List.Subset.refl _)
  | answer r node p hold hheard hsub hpend hrec hemit hhist =>
    obtain ⟨x, hhist⟩ := hhist
    exact h.same hrec (by rw [hhist]) (by rw [hhist]) (by rw [hhist]; exact List.Subset.refl _)
  | complete r node p hold hheard hall hsub hpend hrec hemit hhist =>
    obtain ⟨x, hhist⟩ := hhist
    exact h.same hrec (by rw [hhist]) (by rw [hhist]) (by rw [hhist]; exact List.Subset.refl _)
  | fail r hold hsub hpend hrec hemit hgrows hfailed =>
    obtain ⟨rec₀, hrec, hpart, hid₀, hnodes⟩ := hrec
    refine ⟨?_, ?_, ?_, ?_⟩ <;> rw [hrec]
    · intro rec hr
      cases hr
      rw [hfailed, hpart]
    · intro rec id hr hid
      cases hr
      rw [hid₀] at hid
      cases hid
    · intro rec hr node hnode
      cases hr
      rw [hnodes] at hnode
      simp at hnode
    · intro hr
      cases hr
  | reset rec₀ id₀ hold hsub hpend hrec hhist =>
    refine ⟨?_, ?_, ?_, ?_⟩ <;> rw [hrec]
    · intro rec hr
      cases hr
      rw [hhist]
      exact h.failed rec₀ hold
    · intro rec id hr hid
      cases hr
      cases hid
      rw [hhist]
      exact List.mem_append_right _ (List.mem_singleton.mpr rfl)
    · intro rec hr node hnode
      cases hr
      simp at hnode
    · intro hr
      cases hr
  | report rec₀ node id₀ hold hid hpend hemit hhist hend =>
    -- the nodes counted so far and the one that reports now, all for the Reset in force
    have hcounted : ∀ n ∈ insert node rec₀.cleanupNodes, (n, id₀) ∈ w'.history.reports := by
      intro n hn
      rw [hhist]
      rcases Finset.mem_insert.mp hn with rfl | hin
      · exact List.mem_append_right _ (List.mem_singleton.mpr rfl)
      · obtain ⟨id, hid', hmem⟩ := h.counted rec₀ hold n hin
        rw [hid] at hid'
        cases hid'
        exact List.mem_append_left _ hmem
    have hreset : id₀ ∈ w'.history.resets := by
      rw [hhist]
      exact h.cleanup rec₀ id₀ hold hid
    have hfailed : w'.history.failed = some rec₀.participants := by
      rw [hhist]
      exact h.failed rec₀ hold
    rcases hend with ⟨-, hrec⟩ | ⟨-, hrec, hall⟩
    · refine ⟨?_, ?_, ?_, ?_⟩ <;> rw [hrec]
      · intro rec hr
        cases hr
        exact hfailed
      · intro rec id hr hid'
        cases hr
        have hsame : some id₀ = some id := hid.symm.trans hid'
        cases hsame
        exact hreset
      · intro rec hr n hn
        cases hr
        exact ⟨id₀, hid, hcounted n hn⟩
      · intro hr
        cases hr
    · refine ⟨?_, ?_, ?_, ?_⟩ <;> rw [hrec]
      · intro rec hr
        cases hr
      · intro rec id hr
        cases hr
      · intro rec hr
        cases hr
      · intro _ participants hf
        rw [hfailed] at hf
        cases hf
        exact ⟨id₀, hreset, fun n hn => hcounted n (hall hn)⟩

structure InitInv (w : Master) : Prop where
  endsOnce : EndsOnce w
  replies : RepliesInstalled w
  recovery : RecoveryCounts w

theorem initInv_boot (entry : NodeEntry) : InitInv (boot entry) := by
  refine ⟨⟨?_, ?_, ?_, ?_⟩, ?_, ⟨?_, ?_, ?_, ?_⟩⟩
  · intro e he
    cases he
  · intro id
    exact Nat.zero_le _
  · intro r hr
    cases hr
  · intro r hr
    cases hr
  · intro r hr
    cases hr
  · intro rec hr
    cases hr
  · intro rec id hr
    cases hr
  · intro rec hr
    cases hr
  · intro _ participants hf
    cases hf

theorem initInv_move (hmove : InitMove w w') (h : InitInv w) : InitInv w' :=
  ⟨endsOnce_move hmove h.endsOnce, repliesInstalled_move hmove h.replies,
    recoveryCounts_move hmove h.recovery⟩

theorem initInv_of_reachable {entry : NodeEntry} (h : Reachable lower entry w) : InitInv w :=
  h.invariant (initInv_boot entry) fun _ _ _ _ hstep hinv => initInv_move (initMove_of_step hstep) hinv

/-! ## The result -/

/-- The three ways ownership changes. -/
inductive OwnershipChange (w w' : Master) : Prop where
  -- to the map of an initialization that every expected node answered as planned
  | installed (r : InitRecord) (hold : w.pending = some r)
      (hmap : w'.registry.subjects = r.requestedAssignments)
      (hall : ∀ node ∈ r.expected, HeardInstalled w'.history r node)
  -- to the empty map, with a failure
  | failed (r : InitRecord) (hold : w.pending = some r) (hmap : w'.registry.subjects = .empty)
      (herror : ∃ result failure missing, w'.emitted.getLast?
          = some (.initializationFailed result failure missing)
        ∧ result.initializationId = r.initializationId)
  -- to the empty map, with a completed recovery
  | recovered (rec : InitRecovery) (hold : w.recovery = some rec) (hdone : w'.recovery = none)
      (hmap : w'.registry.subjects = .empty) (hclean : w'.history.Cleaned rec.participants)

/-- The command is answered with an error and does nothing else. -/
def Refuses (lower : String → String) (w : Master) (cmd : Command) (env : DispatchEnv) : Prop :=
  ∃ message correlationId,
    w.dispatchCommand lower cmd env = some (w.emit (.dispatchError message correlationId))

/-- INIT, DISCOVER, CONNECT and START. -/
def configures : Command → Bool
  | .initSystem _ => true
  | cmd => cmd.needsOwnership

/-- What holds of the initialization in a state `w` of any run. -/
structure InitSafe (lower : String → String) (w : Master) : Prop where
  ownership : ∀ a w', w.step lower a = some w' → w'.registry.subjects ≠ w.registry.subjects →
    OwnershipChange w w'
  rejected : ∀ subjects env w', w.dispatchCommand lower (.initSystem subjects) env = some w' →
    w'.registry.subjects = w.registry.subjects
  once : ∀ id, w.emitted.countP (ends id) ≤ 1
  refused : ∀ participants, w.history.failed = some participants → ¬ w.history.Cleaned participants →
    ∀ cmd, configures cmd = true → ∀ env, Refuses lower w cmd env

theorem InitInv.ownership (h : InitInv w) {a : MasterAction} (hstep : w.step lower a = some w')
    (hne : w'.registry.subjects ≠ w.registry.subjects) : OwnershipChange w w' := by
  have hinv' := initInv_move (initMove_of_step hstep) h
  cases initMove_of_step hstep with
  | none hsub => exact absurd hsub hne
  | begin r hidle hsettled hdrained hfresh hreplies hsub => exact absurd hsub hne
  | answer r node p hold hheard hsub => exact absurd hsub hne
  | complete r node p hold hheard hall hsub hpend hrec hemit hhist =>
    obtain ⟨x, hhist⟩ := hhist
    refine .installed r hold hsub ?_
    intro n hn
    rcases Dict.mem_keys_set.mp (Dict.mem_keySet.mp (hall hn)) with rfl | hin
    · exact hheard
    · have hbefore : HeardInstalled w.history r n := h.replies r hold n (Dict.mem_keySet.mpr hin)
      rw [hhist]
      exact hbefore.mono (List.subset_append_left _ _)
  | fail r hold hsub hpend hrec hemit =>
    obtain ⟨result, failure, missing, hemit, hid⟩ := hemit
    exact .failed r hold hsub ⟨result, failure, missing, by rw [hemit, List.getLast?_concat], hid⟩
  | reset rec id hold hsub => exact absurd hsub hne
  | report rec node id hold hid hpend hemit hhist hend =>
    rcases hend with ⟨hsub, -⟩ | ⟨hsub, hdone, -⟩
    · exact absurd hsub hne
    · refine .recovered rec hold hdone hsub (hinv'.recovery.settled hdone rec.participants ?_)
      rw [hhist]
      exact h.recovery.failed rec hold

theorem begin_of_recovery {rec : InitRecovery} (h : w.recovery = some rec)
    (subjects : Option (List SubjectConf)) (env : DispatchEnv) :
    w.beginInitialization lower subjects env = some (w.emit (.dispatchError
      "Initialization is pending or requires Reset before another attempt"
      (truthy (some ((truthy env.correlationId).getD env.uuid))))) := by
  unfold beginInitialization
  dsimp only
  rw [if_pos (by simp [h])]

/-- While a recovery is open the admission turns every such command away. -/
theorem refuses_of_recovery {rec : InitRecovery} (h : w.recovery = some rec) {cmd : Command}
    (hcmd : configures cmd = true) (env : DispatchEnv) : Refuses lower w cmd env := by
  have hopen : w.unsettled = true := by simp [unsettled, h]
  unfold Refuses dispatchCommand
  rw [hopen, Bool.true_and]
  split
  · exact ⟨_, _, rfl⟩
  · split
    · exact ⟨_, _, rfl⟩
    · rename_i hown _
      cases cmd with
      | initSystem subjects => exact ⟨_, _, begin_of_recovery h subjects env⟩
      | _ => exact absurd hcmd hown

theorem begin_subjects {subjects : Option (List SubjectConf)} {env : DispatchEnv}
    (h : w.dispatchCommand lower (.initSystem subjects) env = some w') :
    w'.registry.subjects = w.registry.subjects := by
  unfold dispatchCommand at h
  split at h
  · cases h
    rfl
  · split at h
    · cases h
      rfl
    · dsimp only at h
      unfold beginInitialization at h
      dsimp only at h
      split at h
      · cases h
        rfl
      · split at h
        · cases h
          rfl
        · split at h
          · cases h
          · cases h
            rfl

/-- **Initialization ownership.** In every run of the master. -/
theorem initSafe_of_reachable {entry : NodeEntry} (h : Reachable lower entry w) : InitSafe lower w := by
  have hinv := initInv_of_reachable h
  refine ⟨?_, ?_, hinv.endsOnce.once, ?_⟩
  · intro a w' hstep hne
    exact hinv.ownership hstep hne
  · intro subjects env w' hstep
    exact begin_subjects hstep
  · intro participants hfailed hdirty cmd hcmd env
    cases hrec : w.recovery with
    | none => exact absurd (hinv.recovery.settled hrec participants hfailed) hdirty
    | some rec => exact refuses_of_recovery hrec hcmd env

/-- One subject for the master alone, and the failure of its own Core. -/
def failedInit : List MasterAction :=
  [.dispatch (.initSystem (some [{ subjectId := some "s1" }]))
      { correlationId := some "c-1", initializationId := "init-1" },
    .reply masterId .nodeInitializationFailed
      { initializationId := some "init-1", correlationId := some "c-1" }]

theorem initSafe_of_reachable_failedInit :
    ∃ w, Reachable String.toLower {} w ∧ w.history.failed = some {masterId}
      ∧ w.registry.subjects = .empty ∧ InitSafe String.toLower w := by
  have hrun : (Machine.exec (step String.toLower) (boot {}) failedInit).map
      (fun w => (w.history.failed, w.registry.subjects)) = some (some {masterId}, .empty) := by
    decide +kernel
  obtain ⟨w, hexec, hw⟩ := Option.map_eq_some_iff.mp hrun
  have hreach : Reachable String.toLower {} w := Machine.reach_of_exec failedInit hexec
  exact ⟨w, hreach, congrArg Prod.fst hw, congrArg Prod.snd hw, initSafe_of_reachable hreach⟩

end Master

end NexusN3
