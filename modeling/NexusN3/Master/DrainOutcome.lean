import NexusN3.Lib.Unwinding
import NexusN3.Master.DrainBarrier
import Mathlib.Algebra.Order.BigOperators.Group.List
import Mathlib.Algebra.Order.Group.Nat
import Mathlib.Data.Finset.Card
import Mathlib.Algebra.GroupWithZero.Nat

/-!
# Who decides the outcome of a drain

A record names the nodes it expects and the subjects it stops, but `_record_drain_ack`
stores the acknowledgement of any node and folds subjects, status, reasons and timestamps
over all of them. Here the same run is looked at twice, as it was and with only what the
record's own participants may say:

* **`DrainRecord.participants`** — the record as its expected nodes alone would have left it,
  their claims cut to its subjects.
* **`Quiet`** — what a completing record must hold so that nobody else is heard.
* **`drainOutcome_participantsOnly_iff`** — the outsiders leave no trace in the active set,
  the calls and the aggregates exactly when every completing acknowledgement is the one of a
  participant and finds the record quiet.
-/

namespace NexusN3

open Lib

/-! ## Joined reasons -/

/-- What dropping entries does to a `filterMap`: nothing, exactly when they gave nothing. -/
theorem filterMap_filter_eq_iff {α β : Type} (p : α → Bool) (f : α → Option β) (l : List α) :
    (l.filter p).filterMap f = l.filterMap f ↔ ∀ x ∈ l, p x = false → f x = none := by
  induction l with
  | nil => simp
  | cons x l ih =>
    rw [List.forall_mem_cons]
    cases hp : p x with
    | true =>
      rw [List.filter_cons_of_pos hp]
      cases hf : f x with
      | none => simp [List.filterMap_cons_none hf, ih]
      | some y => simp [List.filterMap_cons_some hf, ih]
    | false =>
      rw [List.filter_cons_of_neg (by simp [hp])]
      cases hf : f x with
      | none => simp [List.filterMap_cons_none hf, ih]
      | some y =>
        rw [List.filterMap_cons_some hf]
        have hlen : ((l.filter p).filterMap f).length ≤ (l.filterMap f).length :=
          (List.filter_sublist.filterMap f).length_le
        constructor
        · intro h
          rw [h, List.length_cons] at hlen
          omega
        · rintro ⟨hnone, -⟩
          simp at hnone

/-- The characters of a joined list, one separator counted too many. -/
theorem length_intercalate (sep : String) {l : List String} (h : l ≠ []) :
    (sep.intercalate l).length + sep.length = (l.map fun x => x.length + sep.length).sum := by
  induction l with
  | nil => exact absurd rfl h
  | cons x l ih =>
    by_cases hl : l = []
    · subst hl
      simp
    · have hrest := ih hl
      rw [String.intercalate_cons_of_ne_nil hl, List.map_cons, List.sum_cons, ← hrest,
        String.length_append, String.length_append]
      omega

/-- A sublist of positive weights that weighs as much is the whole list. -/
theorem eq_of_sublist_of_sum {α : Type} {f : α → Nat} {l' l : List α} (h : l'.Sublist l)
    (hpos : ∀ x ∈ l, 0 < f x) (hsum : (l'.map f).sum = (l.map f).sum) : l' = l := by
  induction h with
  | slnil => rfl
  | @cons l₁ l₂ x hsub ih =>
    have hle : (l₁.map f).sum ≤ (l₂.map f).sum :=
      (hsub.map f).sum_le_sum fun _ _ => Nat.zero_le _
    have hx := hpos x List.mem_cons_self
    rw [List.map_cons, List.sum_cons] at hsum
    omega
  | @cons_cons l₁ l₂ x hsub ih =>
    rw [List.map_cons, List.map_cons, List.sum_cons, List.sum_cons] at hsum
    rw [ih (fun y hy => hpos y (List.mem_cons_of_mem x hy)) (by omega)]

/-! ## A record and its participants -/

/-- An acknowledgement that claims nothing but the subjects of its stop. -/
def DrainAck.within (subjectIds : List String) (a : DrainAck) : DrainAck :=
  { a with subjectIds := a.subjectIds.filter (· ∈ subjectIds) }

def DrainEvent.within (subjectIds : List String) (ev : DrainEvent) : DrainEvent :=
  { ev with subjectIds := ev.subjectIds.filter (· ∈ subjectIds) }

namespace DrainRecord

/-- The record as its expected nodes alone leave it, their claims cut to its subjects. -/
def participants (r : DrainRecord) : DrainRecord :=
  { r with acks :=
      (r.acks.restrict fun n => decide (n ∈ r.expectedNodes)).mapValues (DrainAck.within r.subjectIds) }

variable (r : DrainRecord)

theorem get?_participants (n : NodeId) :
    r.participants.acks.get? n
      = if n ∈ r.expectedNodes then (r.acks.get? n).map (DrainAck.within r.subjectIds) else none := by
  unfold participants
  dsimp only
  rw [Dict.get?_mapValues, Dict.get?_restrict]
  by_cases hn : n ∈ r.expectedNodes <;> simp [hn]

/-- An acknowledgement of the participants' record is one of an expected node. -/
theorem get?_participants_eq_some {n : NodeId} {a : DrainAck} :
    r.participants.acks.get? n = some a
      ↔ n ∈ r.expectedNodes ∧ ∃ b, r.acks.get? n = some b ∧ b.within r.subjectIds = a := by
  rw [get?_participants]
  by_cases hn : n ∈ r.expectedNodes <;> simp [hn]

theorem participants_recordAck_of_mem {node : NodeId} (hnode : node ∈ r.expectedNodes) (ack : DrainAck) :
    (r.recordAck node ack).participants
      = r.participants.recordAck node (ack.within r.subjectIds) := by
  unfold participants recordAck
  simp [Dict.restrict_set, Dict.mapValues_set, hnode]

theorem participants_recordAck_of_notMem {node : NodeId} (hnode : node ∉ r.expectedNodes)
    (ack : DrainAck) : (r.recordAck node ack).participants = r.participants := by
  unfold participants recordAck
  simp [Dict.restrict_set, hnode]

theorem complete_participants : r.participants.Complete ↔ r.Complete := by
  have hexp : r.participants.expectedNodes = r.expectedNodes := rfl
  unfold Complete
  rw [hexp]
  apply forall₂_congr
  intro n hn
  constructor
  · rintro ⟨a, ha, hd⟩
    obtain ⟨-, b, hb, rfl⟩ := r.get?_participants_eq_some.mp ha
    exact ⟨b, hb, hd⟩
  · rintro ⟨b, hb, hd⟩
    exact ⟨b.within r.subjectIds, r.get?_participants_eq_some.mpr ⟨hn, b, hb, rfl⟩, hd⟩

theorem shouldFinalize_participants : r.participants.shouldFinalize = r.shouldFinalize := by
  rw [Bool.eq_iff_iff, shouldFinalize_iff, shouldFinalize_iff, complete_participants]
  exact Iff.rfl

/-! ## What the folds see -/

theorem mem_drainedSubjects_participants {s : String} :
    s ∈ r.participants.drainedSubjects ↔ s ∈ r.subjectIds ∧ ∃ n a, n ∈ r.expectedNodes
      ∧ r.acks.get? n = some a ∧ s ∈ a.subjectIds := by
  rw [mem_drainedSubjects]
  constructor
  · rintro ⟨n, a, ha, hs⟩
    obtain ⟨hn, b, hb, rfl⟩ := r.get?_participants_eq_some.mp ha
    obtain ⟨hin, hS⟩ := List.mem_filter.mp hs
    exact ⟨by simpa using hS, n, b, hn, hb, hin⟩
  · rintro ⟨hS, n, b, hn, hb, hin⟩
    exact ⟨n, b.within r.subjectIds, r.get?_participants_eq_some.mpr ⟨hn, b, hb, rfl⟩,
      List.mem_filter.mpr ⟨hin, by simpa using hS⟩⟩

/-- Some stored acknowledgement reports a failure. -/
def Failing : Prop := ∃ n a, r.acks.get? n = some a ∧ a.status ≠ "ok"

theorem any_status_iff :
    (r.acks.values.any fun a => decide (a.status ≠ "ok")) = true ↔ r.Failing := by
  simp only [List.any_eq_true, decide_eq_true_eq, Dict.mem_values_iff, Failing,
    Dict.get?_eq_some_iff]
  constructor
  · rintro ⟨a, ⟨n, hn⟩, ha⟩
    exact ⟨n, a, hn, ha⟩
  · rintro ⟨n, a, hn, ha⟩
    exact ⟨a, ⟨n, hn⟩, ha⟩

theorem aggregateStatus_eq_ok_iff : r.aggregateStatus = "ok" ↔ ¬ r.Failing := by
  unfold aggregateStatus
  rw [← any_status_iff]
  cases r.acks.values.any fun a => decide (a.status ≠ "ok") <;> simp

theorem aggregateStatus_eq_iff (r p : DrainRecord) :
    r.aggregateStatus = p.aggregateStatus ↔ (r.Failing ↔ p.Failing) := by
  unfold aggregateStatus
  rw [← any_status_iff r, ← any_status_iff p]
  generalize (r.acks.values.any fun a => decide (a.status ≠ "ok")) = x
  generalize (p.acks.values.any fun a => decide (a.status ≠ "ok")) = y
  cases x <;> cases y <;> simp

theorem failing_participants :
    r.participants.Failing ↔ ∃ n a, n ∈ r.expectedNodes ∧ r.acks.get? n = some a ∧ a.status ≠ "ok" := by
  unfold Failing
  constructor
  · rintro ⟨n, a, ha, hstatus⟩
    obtain ⟨hn, b, hb, rfl⟩ := r.get?_participants_eq_some.mp ha
    exact ⟨n, b, hn, hb, hstatus⟩
  · rintro ⟨n, b, hn, hb, hstatus⟩
    exact ⟨n, _, r.get?_participants_eq_some.mpr ⟨hn, b, hb, rfl⟩, hstatus⟩

/-- The reasons given, in the order of the acknowledgements. -/
def reasons : List String := r.acks.values.filterMap fun a => truthy a.reason

theorem reasons_eq : r.reasons = r.acks.entries.filterMap fun e => truthy e.2.reason := by
  unfold reasons Dict.values
  rw [List.filterMap_map]
  rfl

theorem reasons_participants :
    r.participants.reasons
      = (r.acks.entries.filter fun e => decide (e.1 ∈ r.expectedNodes)).filterMap
          fun e => truthy e.2.reason := by
  rw [reasons_eq]
  unfold participants Dict.mapValues Dict.restrict
  rw [List.filterMap_map]
  rfl

theorem reasons_participants_sublist : r.participants.reasons.Sublist r.reasons := by
  rw [reasons_participants, reasons_eq]
  exact List.filter_sublist.filterMap _

theorem aggregateReason_eq_iff_reasons :
    r.aggregateReason = r.participants.aggregateReason ↔ r.participants.reasons = r.reasons := by
  have hmatch : ∀ q : DrainRecord, q.aggregateReason
      = if q.reasons = [] then none else some ("; ".intercalate q.reasons) := by
    intro q
    unfold aggregateReason
    split
    · rename_i hnone
      exact (if_pos hnone).symm
    · rename_i hsome
      exact (if_neg hsome).symm
  have hsub := r.reasons_participants_sublist
  have hpos : ∀ x ∈ r.reasons, 0 < x.length + ("; ").length := by
    intro x _
    have hsep : ("; ").length = 2 := by decide +kernel
    omega
  rw [hmatch r, hmatch r.participants]
  generalize r.participants.reasons = l' at hsub
  generalize r.reasons = l at hsub hpos
  constructor
  · intro h
    cases hl : l with
    | nil =>
      rw [hl] at hsub
      exact List.sublist_nil.mp hsub
    | cons x xs =>
      cases hl' : l' with
      | nil =>
        rw [hl, hl', if_pos rfl, if_neg (List.cons_ne_nil x xs)] at h
        cases h
      | cons y ys =>
        rw [hl, hl', if_neg (List.cons_ne_nil x xs), if_neg (List.cons_ne_nil y ys)] at h
        rw [hl, hl'] at hsub
        rw [hl] at hpos
        -- equal texts are equally long, and the participants give a part of the reasons
        have hjoin : "; ".intercalate (x :: xs) = "; ".intercalate (y :: ys) := Option.some.inj h
        apply eq_of_sublist_of_sum hsub hpos
        rw [← length_intercalate _ (List.cons_ne_nil y ys),
          ← length_intercalate _ (List.cons_ne_nil x xs), hjoin]
  · rintro rfl
    rfl

/-- The session timestamps given. -/
def timestamps : Finset String :=
  (r.acks.values.filterMap fun a => truthy a.sessionTimestamp).toFinset

theorem mem_timestamps {ts : String} :
    ts ∈ r.timestamps ↔ ∃ n a, r.acks.get? n = some a ∧ truthy a.sessionTimestamp = some ts := by
  simp only [timestamps, List.mem_toFinset, List.mem_filterMap, Dict.mem_values_iff,
    Dict.get?_eq_some_iff]
  constructor
  · rintro ⟨a, ⟨n, hn⟩, hs⟩
    exact ⟨n, a, hn, hs⟩
  · rintro ⟨n, a, hn, hs⟩
    exact ⟨a, ⟨n, hn⟩, hs⟩

theorem timestamps_participants_subset : r.participants.timestamps ⊆ r.timestamps := by
  intro ts hts
  obtain ⟨n, a, ha, hts⟩ := r.participants.mem_timestamps.mp hts
  obtain ⟨-, b, hb, rfl⟩ := r.get?_participants_eq_some.mp ha
  exact r.mem_timestamps.mpr ⟨n, b, hb, hts⟩

/-- A timestamp is reported when it is the only one. -/
theorem aggregateTimestamp_eq_some_iff {ts : String} :
    r.aggregateTimestamp = some ts ↔ r.timestamps = {ts} := by
  unfold aggregateTimestamp timestamps
  generalize (r.acks.values.filterMap fun a => truthy a.sessionTimestamp) = l
  have hval : l.toFinset = {ts} ↔ l.dedup = [ts] := by
    rw [← Finset.val_inj, List.toFinset_val, Finset.singleton_val, ← Multiset.coe_singleton,
      Multiset.coe_eq_coe, List.perm_singleton]
  rw [hval]
  split
  · rename_i x hx
    rw [hx, List.cons.injEq, Option.some.injEq]
    simp
  · rename_i hne
    constructor
    · intro h
      cases h
    · intro h
      exact absurd h (hne ts)

theorem aggregateTimestamp_eq_iff :
    r.aggregateTimestamp = r.participants.aggregateTimestamp
      ↔ (r.participants.timestamps.card = 1 ↔ r.timestamps.card = 1) := by
  have hsub := r.timestamps_participants_subset
  constructor
  · intro h
    constructor
    · intro hcard
      obtain ⟨ts, hts⟩ := Finset.card_eq_one.mp hcard
      rw [← aggregateTimestamp_eq_some_iff, ← h, aggregateTimestamp_eq_some_iff] at hts
      rw [hts, Finset.card_singleton]
    · intro hcard
      obtain ⟨ts, hts⟩ := Finset.card_eq_one.mp hcard
      rw [← aggregateTimestamp_eq_some_iff, h, aggregateTimestamp_eq_some_iff] at hts
      rw [hts, Finset.card_singleton]
  · intro h
    apply Option.ext
    intro ts
    rw [aggregateTimestamp_eq_some_iff, aggregateTimestamp_eq_some_iff]
    constructor
    · intro hts
      have hcard : r.participants.timestamps.card = 1 := by
        rw [h, hts, Finset.card_singleton]
      rw [← hts]
      exact Finset.eq_of_subset_of_card_le hsub (by omega)
    · intro hts
      have hcard : r.timestamps.card = 1 := by
        rw [← h, hts, Finset.card_singleton]
      rw [← hts]
      exact (Finset.eq_of_subset_of_card_le hsub (by rw [hts, Finset.card_singleton]; omega)).symm

/-! ## Quiet records -/

/-- A record whose outcome nobody but its participants decides: `r` as a completing
acknowledgement leaves it, `active` the subjects that are active then. -/
structure Quiet (r : DrainRecord) (active : Finset String) : Prop where
  -- an outsider reports a failure only where a participant does too
  status : ∀ n a, r.acks.get? n = some a → n ∉ r.expectedNodes → a.status ≠ "ok" →
    ∃ m b, m ∈ r.expectedNodes ∧ r.acks.get? m = some b ∧ b.status ≠ "ok"
  -- an outsider gives no reason
  reason : ∀ n a, r.acks.get? n = some a → n ∉ r.expectedNodes → truthy a.reason = none
  -- the outsiders' timestamps neither make a unique one nor spoil it
  timestamp : r.participants.timestamps.card = 1 ↔ r.timestamps.card = 1
  -- an active subject is claimed only if it is the stop's and a participant claims it
  subjects : ∀ n a s, r.acks.get? n = some a → s ∈ a.subjectIds → s ∈ active →
    s ∈ r.subjectIds ∧ ∃ m b, m ∈ r.expectedNodes ∧ r.acks.get? m = some b ∧ s ∈ b.subjectIds

/-- Quiet is exactly what it takes for the record and its participants to agree. -/
theorem quiet_iff (active : Finset String) :
    r.Quiet active ↔ active \ r.drainedSubjects = active \ r.participants.drainedSubjects
      ∧ r.aggregateStatus = r.participants.aggregateStatus
      ∧ r.aggregateReason = r.participants.aggregateReason
      ∧ r.aggregateTimestamp = r.participants.aggregateTimestamp := by
  rw [aggregateStatus_eq_iff, aggregateReason_eq_iff_reasons, aggregateTimestamp_eq_iff,
    reasons_participants, reasons_eq, filterMap_filter_eq_iff]
  constructor
  · intro h
    refine ⟨?_, ?_, ?_, h.timestamp⟩
    · ext s
      rw [Finset.mem_sdiff, Finset.mem_sdiff]
      apply and_congr_right
      intro hs
      rw [mem_drainedSubjects, mem_drainedSubjects_participants, not_iff_not]
      constructor
      · rintro ⟨n, a, ha, hsa⟩
        exact h.subjects n a s ha hsa hs
      · rintro ⟨-, n, a, -, ha, hsa⟩
        exact ⟨n, a, ha, hsa⟩
    · rw [failing_participants]
      constructor
      · rintro ⟨n, a, ha, hstatus⟩
        by_cases hn : n ∈ r.expectedNodes
        · exact ⟨n, a, hn, ha, hstatus⟩
        · exact h.status n a ha hn hstatus
      · rintro ⟨n, a, -, ha, hstatus⟩
        exact ⟨n, a, ha, hstatus⟩
    · rintro ⟨n, a⟩ he hn
      exact h.reason n a (Dict.get?_eq_some_iff.mpr he) (of_decide_eq_false hn)
  · rintro ⟨hsub, hstatus, hreason, hts⟩
    refine ⟨?_, ?_, hts, ?_⟩
    · intro n a ha _ hfail
      exact r.failing_participants.mp (hstatus.mp ⟨n, a, ha, hfail⟩)
    · intro n a ha hn
      exact hreason (n, a) (Dict.get?_eq_some_iff.mp ha) (decide_eq_false hn)
    · intro n a s ha hsa hs
      -- the claim takes the subject out, so it must come out for the participants too
      have hout : s ∉ active \ r.drainedSubjects := by
        rw [Finset.mem_sdiff, not_and_not_right]
        intro _
        exact r.mem_drainedSubjects.mpr ⟨n, a, ha, hsa⟩
      rw [hsub, Finset.mem_sdiff, not_and_not_right] at hout
      exact r.mem_drainedSubjects_participants.mp (hout hs)

instance (r : DrainRecord) (active : Finset String) : Decidable (r.Quiet active) :=
  decidable_of_iff _ (r.quiet_iff active).symm

end DrainRecord

/-! ## What is seen of the desk -/

/-- What is compared of a result: everything but the acknowledgements themselves. -/
structure OutcomeView where
  stopSessionId : String
  status : String
  reason : Option String
  sessionTimestamp : Option String
  allStreamsDrained : Bool
  deriving DecidableEq

def DrainResult.outcome (x : DrainResult) (all : Bool) : OutcomeView :=
  { stopSessionId := x.stopSessionId, status := x.status, reason := x.reason
    sessionTimestamp := x.sessionTimestamp, allStreamsDrained := all }

def Finalization.view (f : Finalization) : FinalizationStage × OutcomeView :=
  (f.stage, f.result.outcome f.allStreamsDrained)

def Issue.view (x : Issue) : IssueKind × OutcomeView :=
  (x.kind, x.result.outcome x.allStreamsDrained)

/-- The active subjects, the calls launched and what they issued. -/
structure DrainView where
  active : Finset String
  calls : List (FinalizationStage × OutcomeView)
  issued : List (IssueKind × OutcomeView)
  deriving DecidableEq

def DrainDesk.view (d : DrainDesk) : DrainView :=
  { active := d.book.active, calls := d.inFlight.map Finalization.view
    issued := d.issued.map Issue.view }

/-- Drop what an outsider acknowledges, cut what a participant claims. -/
def keepParticipants (sid : String) (expected : Finset NodeId) (subjectIds : List String) :
    DrainAction → Option DrainAction
  | .ack node ev callback =>
    if truthy ev.stopSessionId = some sid then
      if node ∈ expected then some (.ack node (ev.within subjectIds) callback) else none
    else some (.ack node ev callback)
  | a => some a

/-- `t` is what the participants alone make of the desk `d`. -/
structure Projected (sid : String) (expected : Finset NodeId) (subjectIds : List String)
    (d t : DrainDesk) : Prop where
  alike : d.view = t.view
  others : ∀ sid', sid' ≠ sid → t.book.tracking.get? sid' = d.book.tracking.get? sid'
  record : ∃ r, d.book.tracking.get? sid = some r ∧ r.expectedNodes = expected
    ∧ r.subjectIds = subjectIds ∧ t.book.tracking.get? sid = some r.participants

/-- A completing acknowledgement of the stop is a participant's and finds the record quiet. -/
def Silent (sid : String) (d : DrainDesk) : DrainAction → Prop
  | .ack node ev _ => truthy ev.stopSessionId = some sid → ∀ r, d.book.tracking.get? sid = some r →
    (r.recordAck node ev.ack).shouldFinalize = true →
    node ∈ r.expectedNodes ∧ (r.recordAck node ev.ack).Quiet d.book.active
  | _ => True

instance (sid : String) (d : DrainDesk) (a : DrainAction) : Decidable (Silent sid d a) :=
  match a with
  | .ack node ev _ =>
    match hr : d.book.tracking.get? sid with
    | none => isTrue fun _ r hr' => by simp [hr] at hr'
    | some r =>
      decidable_of_iff (truthy ev.stopSessionId = some sid →
          (r.recordAck node ev.ack).shouldFinalize = true →
          node ∈ r.expectedNodes ∧ (r.recordAck node ev.ack).Quiet d.book.active)
        ⟨fun h hev _ hr' => Option.some.inj (hr.symm.trans hr') ▸ h hev, fun h hev => h hev r hr⟩
  | .create _ _ _ _ => isTrue trivial
  | .start _ => isTrue trivial
  | .advance _ _ => isTrue trivial

section Steps

variable {sid : String} {expected : Finset NodeId} {subjectIds : List String} {d t : DrainDesk}

theorem Projected.active (h : Projected sid expected subjectIds d t) :
    t.book.active = d.book.active :=
  (congrArg DrainView.active h.alike).symm

theorem Projected.calls (h : Projected sid expected subjectIds d t) :
    d.inFlight.map Finalization.view = t.inFlight.map Finalization.view :=
  congrArg DrainView.calls h.alike

theorem Projected.issued (h : Projected sid expected subjectIds d t) :
    d.issued.map Issue.view = t.issued.map Issue.view :=
  congrArg DrainView.issued h.alike

/-- Both desks take a book: the views agree as soon as the active sets do. -/
theorem view_setBook {b b' : DrainBook} (h : Projected sid expected subjectIds d t)
    (hactive : b.active = b'.active) : (d.setBook b).view = (t.setBook b').view := by
  show DrainView.mk _ _ _ = DrainView.mk _ _ _
  exact congr (congr (congrArg DrainView.mk hactive) h.calls) h.issued

theorem view_launch {d t : DrainDesk} {f g : Finalization} (h : d.view = t.view)
    (hf : f.view = g.view) : (d.launch f).view = (t.launch g).view := by
  have hactive := congrArg DrainView.active h
  have hcalls := congrArg DrainView.calls h
  have hissued := congrArg DrainView.issued h
  have hstage : f.stage = g.stage := congrArg Prod.fst hf
  have hout := congrArg Prod.snd hf
  unfold DrainDesk.launch DrainDesk.view
  rw [hstage]
  by_cases hcb : g.stage = .callback
  · simp only [hcb, if_true]
    refine congr (congr (congrArg DrainView.mk hactive) ?_) ?_
    · show (d.inFlight ++ [f]).map _ = (t.inFlight ++ [g]).map _
      rw [List.map_append, List.map_append]
      exact congr (congrArg _ hcalls) (congrArg (fun x => [x]) hf)
    · show (d.issued ++ [f.issue .callback f.result]).map _
        = (t.issued ++ [g.issue .callback g.result]).map _
      rw [List.map_append, List.map_append]
      exact congr (congrArg _ hissued) (congrArg (fun x => [(IssueKind.callback, x)]) hout)
  · simp only [hcb, if_false]
    refine congr (congr (congrArg DrainView.mk hactive) ?_) hissued
    show (d.inFlight ++ [f]).map _ = (t.inFlight ++ [g]).map _
    rw [List.map_append, List.map_append]
    exact congr (congrArg _ hcalls) (congrArg (fun x => [x]) hf)

theorem completed_view_active (d : DrainDesk) (sid : String) (r : DrainRecord) (callback : Bool) :
    (d.completed sid r callback).view.active = d.book.active \ r.drainedSubjects := by
  show (DrainDesk.launch _ _).book.active = _
  rw [launch_book]
  rfl

/-- The outcome of the call that a completed record launches. -/
theorem completed_view_outcomes (d : DrainDesk) (sid : String) (r : DrainRecord) (callback : Bool) :
    (d.completed sid r callback).view.calls.map Prod.snd = d.view.calls.map Prod.snd
      ++ [OutcomeView.mk sid r.aggregateStatus r.aggregateReason r.aggregateTimestamp
        (decide (d.book.active \ r.drainedSubjects = ∅))] := by
  show ((DrainDesk.launch _ _).inFlight.map _).map _ = _
  rw [launch_inFlight, List.map_append, List.map_append]
  rfl

/-- Two desks that look alike and complete a record each go on looking alike exactly when
the two records have one outcome. -/
theorem view_completed_eq_iff (sid : String) (r p : DrainRecord) (callback : Bool)
    (h : d.view = t.view) :
    (d.completed sid r callback).view = (t.completed sid p callback).view
      ↔ d.book.active \ r.drainedSubjects = d.book.active \ p.drainedSubjects
        ∧ r.aggregateStatus = p.aggregateStatus ∧ r.aggregateReason = p.aggregateReason
        ∧ r.aggregateTimestamp = p.aggregateTimestamp := by
  have hactive : t.book.active = d.book.active := (congrArg DrainView.active h).symm
  constructor
  · intro hv
    have hact := congrArg DrainView.active hv
    rw [completed_view_active, completed_view_active, hactive] at hact
    have hcalls := congrArg (fun v => v.calls.map Prod.snd) hv
    rw [completed_view_outcomes, completed_view_outcomes] at hcalls
    have hout := (List.cons.inj (List.append_inj' hcalls rfl).2).1
    exact ⟨hact, congrArg OutcomeView.status hout, congrArg OutcomeView.reason hout,
      congrArg OutcomeView.sessionTimestamp hout⟩
  · rintro ⟨hsub, hstatus, hreason, hts⟩
    unfold DrainDesk.completed DrainBook.completeDrain
    dsimp only
    rw [hactive, hsub]
    apply view_launch
    · show DrainView.mk _ _ _ = DrainView.mk _ _ _
      exact congr (congr (congrArg DrainView.mk rfl) (congrArg DrainView.calls h))
        (congrArg DrainView.issued h)
    · refine Prod.ext rfl ?_
      show OutcomeView.mk _ _ _ _ _ = OutcomeView.mk _ _ _ _ _
      exact congr (congr (congr (congr (congrArg OutcomeView.mk rfl) hstatus) hreason) hts) rfl

/-- Both desks write one and the same record of another stop. -/
theorem Projected.put_other (h : Projected sid expected subjectIds d t) {sid' : String}
    (hne : sid' ≠ sid) (q : DrainRecord) {d' t' : DrainDesk} (hview : d'.view = t'.view)
    (hd : d'.book.tracking = (d.book.putRecord sid' q).tracking)
    (ht : t'.book.tracking = (t.book.putRecord sid' q).tracking) :
    Projected sid expected subjectIds d' t' := by
  obtain ⟨r, hr, hexp, hsubj, hp⟩ := h.record
  refine ⟨hview, ?_, r, ?_, hexp, hsubj, ?_⟩
  · intro sid'' hne''
    rw [hd, ht]
    by_cases hsame : sid' = sid''
    · subst hsame
      rw [DrainBook.get?_putRecord_self, DrainBook.get?_putRecord_self]
    · rw [DrainBook.get?_putRecord_ne _ _ hsame, DrainBook.get?_putRecord_ne _ _ hsame]
      exact h.others sid'' hne''
  · rw [hd]
    exact (DrainBook.get?_putRecord_ne _ _ hne).trans hr
  · rw [ht]
    exact (DrainBook.get?_putRecord_ne _ _ hne).trans hp

/-- The desks write the stop's own record, each as it sees it. -/
theorem Projected.put_own (h : Projected sid expected subjectIds d t) {q : DrainRecord}
    (hexp : q.expectedNodes = expected) (hsubj : q.subjectIds = subjectIds) {d' t' : DrainDesk}
    (hview : d'.view = t'.view) (hd : d'.book.tracking = (d.book.putRecord sid q).tracking)
    (ht : t'.book.tracking = (t.book.putRecord sid q.participants).tracking) :
    Projected sid expected subjectIds d' t' := by
  refine ⟨hview, ?_, q, ?_, hexp, hsubj, ?_⟩
  · intro sid' hne
    rw [hd, ht, DrainBook.get?_putRecord_ne _ _ hne.symm, DrainBook.get?_putRecord_ne _ _ hne.symm]
    exact h.others sid' hne
  · rw [hd, DrainBook.get?_putRecord_self]
  · rw [ht, DrainBook.get?_putRecord_self]

theorem completed_tracking (d : DrainDesk) (sid : String) (r : DrainRecord) (callback : Bool) :
    (d.completed sid r callback).book.tracking = (d.book.putRecord sid
      { r with finalizing := decide (d.book.active \ r.drainedSubjects = ∅)
               finalized := !decide (d.book.active \ r.drainedSubjects = ∅) }).tracking := by
  unfold DrainDesk.completed
  rw [launch_book]
  rfl

/-- An acknowledgement of another stop: both desks have that record. -/
theorem Projected.ack_other (h : Projected sid expected subjectIds d t) (node : NodeId)
    {ev : DrainEvent} (callback : Bool) (hev : truthy ev.stopSessionId ≠ some sid) :
    Projected sid expected subjectIds (d.ack node ev callback) (t.ack node ev callback) := by
  cases hsid : truthy ev.stopSessionId with
  | none =>
    have hnone : ∀ e : DrainDesk, e.ack node ev callback = e := by
      intro e
      unfold DrainDesk.ack DrainBook.drainAck
      rw [hsid]
      rfl
    rw [hnone, hnone]
    exact h
  | some sid' =>
    -- the record, if any, is one both desks share
    have hne : sid' ≠ sid := by
      rintro rfl
      exact hev hsid
    cases hrec : d.book.tracking.get? sid' with
    | none =>
      have hnone : ∀ e : DrainDesk, e.book.tracking.get? sid' = none → e.ack node ev callback = e := by
        intro e he
        unfold DrainDesk.ack DrainBook.drainAck
        rw [hsid]
        dsimp only
        rw [he]
        rfl
      rw [hnone d hrec, hnone t ((h.others sid' hne).trans hrec)]
      exact h
    | some q =>
      rw [DrainDesk.ack_of_get? node callback hsid hrec,
        DrainDesk.ack_of_get? node callback hsid ((h.others sid' hne).trans hrec)]
      by_cases hfin : (q.recordAck node ev.ack).shouldFinalize = true
      · rw [if_pos hfin, if_pos hfin]
        refine h.put_other hne _ ?_ (completed_tracking _ _ _ _) ?_
        · exact (view_completed_eq_iff _ _ _ callback h.alike).mpr ⟨rfl, rfl, rfl, rfl⟩
        · rw [completed_tracking, h.active]
      · rw [if_neg hfin, if_neg hfin]
        exact h.put_other hne _ (view_setBook h h.active.symm) rfl rfl

/-- An acknowledgement of the stop itself by a participant: both desks store it, and they
go on looking alike exactly when it is silent. -/
theorem Projected.ack_participant (h : Projected sid expected subjectIds d t) {node : NodeId}
    {ev : DrainEvent} (callback : Bool) (hev : truthy ev.stopSessionId = some sid)
    (hnode : node ∈ expected) :
    ((d.ack node ev callback).view = (t.ack node (ev.within subjectIds) callback).view
        ↔ Silent sid d (.ack node ev callback))
      ∧ ((d.ack node ev callback).view = (t.ack node (ev.within subjectIds) callback).view →
        Projected sid expected subjectIds (d.ack node ev callback)
          (t.ack node (ev.within subjectIds) callback)) := by
  obtain ⟨r, hr, hexp, hsubj, ht⟩ := h.record
  subst hexp hsubj
  have hev' : truthy (ev.within r.subjectIds).stopSessionId = some sid := hev
  have hpart := r.participants_recordAck_of_mem hnode ev.ack
  generalize hq : r.recordAck node ev.ack = q at hpart
  have hqexp : q.expectedNodes = r.expectedNodes := by rw [← hq]; rfl
  have hqsubj : q.subjectIds = r.subjectIds := by rw [← hq]; rfl
  -- silence asks for quiet only when the acknowledgement completes the record
  have hsilent : Silent sid d (.ack node ev callback)
      ↔ (q.shouldFinalize = true → q.Quiet d.book.active) := by
    constructor
    · intro hs hfin
      exact hq ▸ (hs hev r hr (hq ▸ hfin)).2
    · intro hs _ r' hr' hfin
      rw [hr] at hr'
      cases hr'
      rw [hq] at hfin ⊢
      exact ⟨hnode, hs hfin⟩
  rw [hsilent, DrainDesk.ack_of_get? node callback hev hr,
    DrainDesk.ack_of_get? node callback hev' ht, hq,
    show (ev.within r.subjectIds).ack = ev.ack.within r.subjectIds from rfl, ← hpart,
    DrainRecord.shouldFinalize_participants]
  by_cases hfin : q.shouldFinalize = true
  · rw [if_pos hfin, if_pos hfin]
    have hiff := view_completed_eq_iff sid q q.participants callback h.alike
    refine ⟨?_, ?_⟩
    · rw [hiff, ← q.quiet_iff]
      exact ⟨fun hquiet _ => hquiet, fun hquiet => hquiet hfin⟩
    · intro hview
      have hsub := (hiff.mp hview).1
      refine h.put_own ?_ ?_ hview (completed_tracking _ _ _ _) ?_
      · exact hqexp
      · exact hqsubj
      · rw [completed_tracking, h.active, ← hsub]
        rfl
  · rw [if_neg hfin, if_neg hfin]
    have hview : (d.setBook (d.book.putRecord sid q)).view
        = (t.setBook (t.book.putRecord sid q.participants)).view := view_setBook h h.active.symm
    refine ⟨?_, ?_⟩
    · exact ⟨fun _ hfin' => absurd hfin' hfin, fun _ => hview⟩
    · intro _
      exact h.put_own hqexp hqsubj hview rfl rfl

/-- An acknowledgement of the stop by an outsider: the participants' desk does not move. -/
theorem Projected.ack_outsider (h : Projected sid expected subjectIds d t) {node : NodeId}
    {ev : DrainEvent} (callback : Bool) (hev : truthy ev.stopSessionId = some sid)
    (hnode : node ∉ expected) :
    ((d.ack node ev callback).view = t.view ↔ Silent sid d (.ack node ev callback))
      ∧ ((d.ack node ev callback).view = t.view →
        Projected sid expected subjectIds (d.ack node ev callback) t) := by
  obtain ⟨r, hr, hexp, hsubj, ht⟩ := h.record
  subst hexp hsubj
  have hpart := r.participants_recordAck_of_notMem hnode ev.ack
  rw [DrainDesk.ack_of_get? node callback hev hr]
  by_cases hfin : (r.recordAck node ev.ack).shouldFinalize = true
  · rw [if_pos hfin]
    -- a call is launched where the participants launch none
    have hne : (d.completed sid (r.recordAck node ev.ack) callback).view ≠ t.view := by
      intro hview
      have hcalls := congrArg (fun v => (v.calls.map Prod.snd).length) (hview.trans h.alike.symm)
      rw [completed_view_outcomes, List.length_append, List.length_singleton] at hcalls
      omega
    refine ⟨⟨fun hview => absurd hview hne, fun hs => ?_⟩, fun hview => absurd hview hne⟩
    exact absurd (hs hev r hr hfin).1 hnode
  · rw [if_neg hfin]
    have hview : (d.setBook (d.book.putRecord sid (r.recordAck node ev.ack))).view = t.view :=
      h.alike
    refine ⟨⟨fun _ _ r' hr' hfin' => ?_, fun _ => hview⟩, fun _ => ?_⟩
    · rw [hr] at hr'
      cases hr'
      exact absurd hfin' hfin
    · refine ⟨hview, ?_, _, DrainBook.get?_putRecord_self _ _ _, rfl, rfl, ?_⟩
      · intro sid' hne
        rw [h.others sid' hne]
        exact (DrainBook.get?_putRecord_ne _ _ hne.symm).symm
      · rw [hpart]
        exact ht

/-! ## Calls in flight -/

theorem view_setCall {b b' : DrainBook} {i : Nat} {f g : Finalization} (stage : FinalizationStage)
    (h : Projected sid expected subjectIds d t) (hactive : b.active = b'.active)
    (hfg : f.view = g.view) :
    ((d.setBook b).setCall i (f.at stage)).view = ((t.setBook b').setCall i (g.at stage)).view := by
  have hout : (f.at stage).view = (g.at stage).view := by
    show (stage, f.result.outcome f.allStreamsDrained) = (stage, g.result.outcome g.allStreamsDrained)
    exact congrArg (Prod.mk stage) (congrArg Prod.snd hfg)
  show DrainView.mk _ ((d.inFlight.set i (f.at stage)).map _) _
    = DrainView.mk _ ((t.inFlight.set i (g.at stage)).map _) _
  rw [List.map_set, List.map_set, hout, h.calls]
  exact congr (congr (congrArg DrainView.mk hactive) rfl) h.issued

/-- The last section of a call: it issues what it has found. -/
theorem view_log {i : Nat} {f g : Finalization} (kind : IssueKind) {x y : DrainResult}
    (h : Projected sid expected subjectIds d t) (hfg : f.view = g.view)
    (hxy : x.outcome f.allStreamsDrained = y.outcome g.allStreamsDrained) :
    ((d.setCall i (f.at .done)).log (f.issue kind x)).view
      = ((t.setCall i (g.at .done)).log (g.issue kind y)).view := by
  have hset : ((d.setBook d.book).setCall i (f.at .done)).view
      = ((t.setBook t.book).setCall i (g.at .done)).view := view_setCall .done h h.active.symm hfg
  show DrainView.mk _ _ ((d.issued ++ [f.issue kind x]).map _)
    = DrainView.mk _ _ ((t.issued ++ [g.issue kind y]).map _)
  rw [List.map_append, List.map_append, h.issued]
  refine congr (congr (congrArg DrainView.mk h.active.symm) (congrArg DrainView.calls hset)) ?_
  exact congrArg (fun z => t.issued.map Issue.view ++ [(kind, z)]) hxy

/-- Writing a record's flags, in whichever record of the book. -/
theorem Projected.put_flags (h : Projected sid expected subjectIds d t) {sid' : String}
    {b b' : DrainBook} {d' t' : DrainDesk} (flags : DrainRecord → DrainRecord)
    (hflags : ∀ r, (flags r).participants = flags r.participants
      ∧ (flags r).expectedNodes = r.expectedNodes ∧ (flags r).subjectIds = r.subjectIds)
    (hb : b = match d.book.tracking.get? sid' with
      | none => d.book
      | some r => d.book.putRecord sid' (flags r))
    (hb' : b' = match t.book.tracking.get? sid' with
      | none => t.book
      | some r => t.book.putRecord sid' (flags r))
    (hd : d'.book = b) (ht : t'.book = b') (hview : d'.view = t'.view) :
    Projected sid expected subjectIds d' t' := by
  obtain ⟨r, hr, hexp, hsubj, hp⟩ := h.record
  by_cases hsid : sid' = sid
  · subst hsid
    rw [hr] at hb
    rw [hp] at hb'
    obtain ⟨hpart, hexp', hsubj'⟩ := hflags r
    refine h.put_own (q := flags r) (hexp'.trans hexp) (hsubj'.trans hsubj) hview ?_ ?_
    · rw [hd, hb]
    · rw [ht, hb', hpart]
  · rw [h.others sid' hsid] at hb'
    cases hq : d.book.tracking.get? sid' with
    | none =>
      rw [hq] at hb hb'
      refine ⟨hview, ?_, r, ?_, hexp, hsubj, ?_⟩
      · rw [hd, ht, hb, hb']
        exact h.others
      · rw [hd, hb]
        exact hr
      · rw [ht, hb']
        exact hp
    | some q =>
      rw [hq] at hb hb'
      refine h.put_other hsid (flags q) hview ?_ ?_
      · rw [hd, hb]
      · rw [ht, hb']

/-- One section of a call: it is enabled on both desks or on neither. -/
theorem Projected.advance (h : Projected sid expected subjectIds d t) (i : Nat)
    (callbackError : Option String) :
    Option.Rel (Projected sid expected subjectIds) (d.step (.advance i callbackError))
      (t.step (.advance i callbackError)) := by
  have hi : (d.inFlight[i]?).map Finalization.view = (t.inFlight[i]?).map Finalization.view := by
    rw [← List.getElem?_map, ← List.getElem?_map, h.calls]
  show Option.Rel _ (d.inFlight[i]?.bind fun f => d.advanceCall i f callbackError)
    (t.inFlight[i]?.bind fun f => t.advanceCall i f callbackError)
  cases hf : d.inFlight[i]? with
  | none =>
    rw [hf, Option.map_none, eq_comm, Option.map_eq_none_iff] at hi
    rw [hi]
    exact .none
  | some f =>
    rw [hf, Option.map_some, eq_comm, Option.map_eq_some_iff] at hi
    obtain ⟨g, hg, hgf⟩ := hi
    rw [hg, Option.bind_some, Option.bind_some]
    -- the calls look alike, so they stand at the same section of the same stop
    have hstage : g.stage = f.stage := congrArg Prod.fst hgf
    have hout : g.result.outcome g.allStreamsDrained = f.result.outcome f.allStreamsDrained :=
      congrArg Prod.snd hgf
    have hgsid : g.stopSessionId = f.stopSessionId := congrArg OutcomeView.stopSessionId hout
    have hsame : ∀ stage, Projected sid expected subjectIds (d.setCall i (f.at stage))
        (t.setCall i (g.at stage)) := by
      intro stage
      exact ⟨view_setCall stage h h.active.symm hgf.symm, h.others, h.record⟩
    unfold DrainDesk.advanceCall
    rw [hstage, hgsid]
    split
    · split
      · exact .some (hsame _)
      · exact .some (hsame _)
    · refine .some (h.put_flags (fun r => { r with finalizing := false, finalized := true })
        (fun r => ⟨rfl, rfl, rfl⟩) rfl rfl rfl rfl (view_setCall _ h ?_ hgf.symm))
      exact (d.book.finishDrain_active _).trans
        (h.active.symm.trans (t.book.finishDrain_active _).symm)
    · refine .some (h.put_flags (fun r => { r with finalizing := false })
        (fun r => ⟨rfl, rfl, rfl⟩) rfl rfl rfl rfl (view_setCall _ h ?_ hgf.symm))
      exact (d.book.failDrain_active _).trans (h.active.symm.trans (t.book.failDrain_active _).symm)
    · refine .some ⟨view_log _ h hgf.symm hout.symm, h.others, h.record⟩
    · rename_i e _
      refine .some ⟨view_log _ h hgf.symm ?_, h.others, h.record⟩
      exact congrArg (fun o : OutcomeView => { o with status := "error", reason := some e }) hout.symm
    · exact .none

/-- The desk and its participants' desk go on together over silent actions, and any other
action tells them apart at once. -/
theorem projected_unwinding (sid : String) (expected : Finset NodeId) (subjectIds : List String)
    (d₀ : DrainDesk) :
    Machine.Unwinding DrainDesk.step (keepParticipants sid expected subjectIds) DrainDesk.view
      (NotReopened sid d₀) (Silent sid) (Projected sid expected subjectIds) where
  alike _ _ h := h.alike
  lockstep d t a h hok hsilent := by
    cases a with
    | create sid' scope subjects nodes =>
      have hne : sid' ≠ sid := by
        rintro rfl
        exact hok scope subjects nodes rfl
      exact .some (h.put_other hne _ (view_setBook h h.active.symm) rfl rfl)
    | start subjects =>
      refine .some ⟨view_setBook h ?_, h.others, h.record⟩
      exact congrArg (· ∪ subjects.toFinset) h.active.symm
    | ack node ev callback =>
      by_cases hev : truthy ev.stopSessionId = some sid
      · by_cases hnode : node ∈ expected
        · have hown := h.ack_participant callback hev hnode
          simp only [keepParticipants, hev, hnode, if_true]
          exact .some (hown.2 (hown.1.mpr hsilent))
        · have hout := h.ack_outsider callback hev hnode
          simp only [keepParticipants, hev, hnode, if_true, if_false]
          exact .some (hout.2 (hout.1.mpr hsilent))
      · simp only [keepParticipants, hev, if_false]
        exact .some (h.ack_other node callback hev)
    | advance i callbackError =>
      -- a section of a call is never dropped
      have hrel := h.advance i callbackError
      show Option.Rel _ _ ((t.step (.advance i callbackError)).bind some)
      rw [Option.bind_fun_some]
      exact hrel
  shows d t a h _ hview := by
    cases a with
    | create sid' scope subjects nodes => trivial
    | start subjects => trivial
    | advance i callbackError => trivial
    | ack node ev callback =>
      by_cases hev : truthy ev.stopSessionId = some sid
      · by_cases hnode : node ∈ expected
        · simp only [keepParticipants, hev, hnode, if_true] at hview
          exact (h.ack_participant callback hev hnode).1.mp (Option.some.inj hview)
        · simp only [keepParticipants, hev, hnode, if_true, if_false] at hview
          exact (h.ack_outsider callback hev hnode).1.mp (Option.some.inj hview)
      · exact fun hev' => absurd hev' hev

end Steps

/-! ## The result -/

/-- The desk as a STOP leaves it that opens a record. -/
def DrainDesk.opened (d : DrainDesk) (sid scope : String) (subjectIds : List String)
    (nodes : List NodeId) : DrainDesk :=
  d.setBook (d.book.createDrainRecord sid scope subjectIds nodes)

theorem projected_opened (d : DrainDesk) (sid scope : String) (subjectIds : List String)
    (nodes : List NodeId) :
    Projected sid nodes.toFinset subjectIds (d.opened sid scope subjectIds nodes)
      (d.opened sid scope subjectIds nodes) := by
  refine ⟨rfl, fun _ _ => rfl, _, DrainBook.get?_putRecord_self _ _ _, rfl, rfl, ?_⟩
  exact DrainBook.get?_putRecord_self _ _ _

/-- The actions `as` look, after each of them, as if the record's participants alone had
acknowledged the stop, and no acknowledgement of it took out more than its subjects. -/
structure ParticipantsOnly (sid : String) (expected : Finset NodeId) (subjectIds : List String)
    (d₀ : DrainDesk) (as : List DrainAction) : Prop where
  unaffected : Machine.Unaffected DrainDesk.step (keepParticipants sid expected subjectIds)
    DrainDesk.view d₀ d₀ as
  removes : ∀ k node ev callback d, as[k]? = some (.ack node ev callback) →
    truthy ev.stopSessionId = some sid → Machine.exec DrainDesk.step d₀ (as.take k) = some d →
    ∀ s ∈ d.book.active, s ∉ (d.ack node ev callback).book.active → s ∈ subjectIds

/-- A silent acknowledgement takes out subjects of its stop only. -/
theorem mem_subjectIds_of_removed {sid : String} {d : DrainDesk} {r : DrainRecord} {node : NodeId}
    {ev : DrainEvent} {callback : Bool} (hr : d.book.tracking.get? sid = some r)
    (hev : truthy ev.stopSessionId = some sid) (hsilent : Silent sid d (.ack node ev callback))
    {s : String} (hin : s ∈ d.book.active) (hout : s ∉ (d.ack node ev callback).book.active) :
    s ∈ r.subjectIds := by
  rw [DrainDesk.ack_of_get? node callback hev hr] at hout
  by_cases hfin : (r.recordAck node ev.ack).shouldFinalize = true
  · rw [if_pos hfin] at hout
    have hgone : s ∉ d.book.active \ (r.recordAck node ev.ack).drainedSubjects := by
      rw [← completed_view_active d sid _ callback]
      exact hout
    rw [Finset.mem_sdiff, not_and_not_right] at hgone
    obtain ⟨n, a, ha, hsa⟩ := (DrainRecord.mem_drainedSubjects _).mp (hgone hin)
    exact ((hsilent hev r hr hfin).2.subjects n a s ha hsa hin).1
  · rw [if_neg hfin] at hout
    exact absurd hin hout

/-- **Only participants decide** a drain exactly when each acknowledgement that completes
its record comes from a participant and finds the record quiet. Two such sequences that
differ in what outsiders sent and in claims beyond the stop's subjects end alike. -/
theorem drainOutcome_participantsOnly_iff (d : DrainDesk) (sid scope : String)
    (subjectIds : List String) (nodes : List NodeId) :
    (∀ as, (∀ a ∈ as, NotReopened sid d a) →
      (ParticipantsOnly sid nodes.toFinset subjectIds (d.opened sid scope subjectIds nodes) as
        ↔ Machine.Along DrainDesk.step (Silent sid) (d.opened sid scope subjectIds nodes) as))
    ∧ (∀ as bs, (∀ a ∈ as, NotReopened sid d a) → (∀ b ∈ bs, NotReopened sid d b) →
      as.filterMap (keepParticipants sid nodes.toFinset subjectIds)
        = bs.filterMap (keepParticipants sid nodes.toFinset subjectIds) →
      Machine.Along DrainDesk.step (Silent sid) (d.opened sid scope subjectIds nodes) as →
      Machine.Along DrainDesk.step (Silent sid) (d.opened sid scope subjectIds nodes) bs →
      (Machine.exec DrainDesk.step (d.opened sid scope subjectIds nodes) as).map DrainDesk.view
        = (Machine.exec DrainDesk.step (d.opened sid scope subjectIds nodes) bs).map
            DrainDesk.view) := by
  have hopen := projected_opened d sid scope subjectIds nodes
  have hunwind := projected_unwinding sid nodes.toFinset subjectIds d
  refine ⟨?_, ?_⟩
  · intro as hok
    constructor
    · intro h
      exact (hunwind.unaffected_iff hopen as hok).mp h.unaffected
    · intro hsilent
      refine ⟨(hunwind.unaffected_iff hopen as hok).mpr hsilent, ?_⟩
      intro k node ev callback e hk hev hexec s hin hout
      -- the record is still the stop's own after any number of silent actions
      have hrel := hunwind.related hopen (fun a ha => hok a (List.mem_of_mem_take ha)) (hsilent.take k)
      rw [hexec] at hrel
      generalize Machine.exec DrainDesk.step _ _ = o at hrel
      cases hrel with
      | some hproj =>
        obtain ⟨r, hr, -, hsubj, -⟩ := hproj.record
        rw [← hsubj]
        exact mem_subjectIds_of_removed hr hev (hsilent.at hk hexec) hin hout
  · intro as bs hoka hokb hkeep ha hb
    rw [hunwind.view_eq hopen hoka ha, hunwind.view_eq hopen hokb hb, hkeep]

/-- Two subjects are streaming, and a stop of one of them is opened. -/
def oneOfTwoStopped : DrainDesk :=
  DrainDesk.opened { book := ({} : DrainBook).activate ["s1", "s2"] } "stop-1" "subjects" ["s1"] ["n1"]

/-- The participant's acknowledgement, and the same after one of an outsider. -/
def participantAcks : List DrainAction :=
  [.ack "n1" { stopSessionId := some "stop-1", subjectIds := ["s1"] } true]

def outsiderJoins (outsider : DrainEvent) : List DrainAction :=
  .ack "n2" { outsider with stopSessionId := some "stop-1" } true :: participantAcks

theorem drainOutcome_participantsOnly_iff_quietOutsider :
    ParticipantsOnly "stop-1" {"n1"} ["s1"] oneOfTwoStopped (outsiderJoins { stopSessionId := none })
      ∧ (Machine.exec DrainDesk.step oneOfTwoStopped (outsiderJoins { stopSessionId := none })).map
          DrainDesk.view
        = (Machine.exec DrainDesk.step oneOfTwoStopped participantAcks).map DrainDesk.view := by
  have hmain := drainOutcome_participantsOnly_iff { book := ({} : DrainBook).activate ["s1", "s2"] }
    "stop-1" "subjects" ["s1"] ["n1"]
  have hquiet : Machine.Along DrainDesk.step (Silent "stop-1") oneOfTwoStopped
      (outsiderJoins { stopSessionId := none }) := by decide +kernel
  have hplain : Machine.Along DrainDesk.step (Silent "stop-1") oneOfTwoStopped participantAcks := by
    decide +kernel
  exact ⟨(hmain.1 _ (by decide)).mpr hquiet,
    hmain.2 _ _ (by decide) (by decide) (by decide +kernel) hquiet hplain⟩

/-- An outsider that drains the other subject and reports a failure: the callback runs, the
active set empties and the aggregate is an error, all on its word. -/
theorem outsider_decides_drain :
    ¬ ParticipantsOnly "stop-1" {"n1"} ["s1"] oneOfTwoStopped
        (outsiderJoins { stopSessionId := none, status := "error", subjectIds := ["s2"] })
      ∧ (Machine.exec DrainDesk.step oneOfTwoStopped
          (outsiderJoins { stopSessionId := none, status := "error", subjectIds := ["s2"] })).map
          (fun d => (d.book.active, d.issued.map fun x => (x.kind, x.result.status)))
        = some (∅, [(.callback, "error")])
      ∧ (Machine.exec DrainDesk.step oneOfTwoStopped participantAcks).map
          (fun d => (d.book.active, d.issued.map fun x => (x.kind, x.result.status)))
        = some ({"s2"}, []) := by
  refine ⟨?_, by decide +kernel, by decide +kernel⟩
  intro h
  have hview := h.unaffected 2
  revert hview
  decide +kernel

end NexusN3
