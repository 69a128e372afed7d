import NexusN3.Master.Streams
import NexusN3.Master.DrainBarrier

/-!
# Old stops and newer streams

A drain record is kept under its stop id and carries subject names. An acknowledgement that
completes it takes these names out of the active set, also of a stream that was started after
the stop. Here the master is watched with the order of its commands:

* **`Mark`** — a START, a STOP or a call of the all-streams-drained callback, newest first.
* **`Newer`** — the invariant: an open record names no subject whose latest command is a
  START, and the callback was not called since the active set was filled.
* **`stopsKeepOff_of_orderly`** — old stops never touch newer streams as long as no START
  names a subject of an open record, acknowledgements claim what their stop named, and no
  stop completes when nothing streams.
-/

namespace NexusN3

open Lib

/-! ## What was dispatched, newest first -/

inductive Mark where
  | start (subjectIds : List String)
  | stop (stopSessionId : String) (subjectIds : List String)
  | drained
  deriving DecidableEq

/-- The latest command that names the subject is a START. -/
def lastIsStart (s : String) : List Mark → Bool
  | [] => false
  | .start ids :: rest => decide (s ∈ ids) || lastIsStart s rest
  | .stop _ ids :: rest => decide (s ∉ ids) && lastIsStart s rest
  | .drained :: rest => lastIsStart s rest

/-- A START for the subject was dispatched after the stop. -/
def startedSince (sid s : String) : List Mark → Bool
  | [] => false
  | .start ids :: rest => decide (s ∈ ids) || startedSince sid s rest
  | .stop sid' _ :: rest => decide (sid' ≠ sid) && startedSince sid s rest
  | .drained :: rest => startedSince sid s rest

/-- How often the callback was called since the latest START. -/
def drainedSince : List Mark → Nat
  | [] => 0
  | .start _ :: _ => 0
  | .stop _ _ :: rest => drainedSince rest
  | .drained :: rest => drainedSince rest + 1

namespace DrainDesk

/-- The calls of the callback on the way from `d` to `d'`. -/
def callbacks (d d' : DrainDesk) : List Mark :=
  ((d'.issued.drop d.issued.length).filter fun x => decide (x.kind = .callback)).map fun _ =>
    .drained

/-- What a step of the barrier adds to the history. -/
def marks (d d' : DrainDesk) : DrainAction → List Mark
  | .start ids => [.start ids]
  | .create sid _ ids _ => [.stop sid ids]
  | .ack _ _ _ | .advance _ _ => d.callbacks d'

/-! ## The condition on a step -/

/-- A START names no subject of a record that is still open; an acknowledgement claims
subjects of its stop only, and completes no record when nothing streams. -/
def Orderly (d : DrainDesk) : DrainAction → Prop
  | .start ids => ∀ e ∈ d.book.tracking.entries, e.2.finalized = false →
    ∀ s ∈ e.2.subjectIds, s ∉ ids
  | .ack node ev _ => ∀ sid ∈ truthy ev.stopSessionId, ∀ r ∈ d.book.tracking.get? sid,
    (∀ s ∈ ev.subjectIds, s ∈ r.subjectIds)
      ∧ ((r.recordAck node ev.ack).shouldFinalize = true → d.book.active ≠ ∅)
  | .create _ _ _ _ | .advance _ _ => True

instance (d : DrainDesk) : DecidablePred d.Orderly
  | .start ids => inferInstanceAs (Decidable (∀ e ∈ d.book.tracking.entries,
      e.2.finalized = false → ∀ s ∈ e.2.subjectIds, s ∉ ids))
  | .ack node ev _ => inferInstanceAs (Decidable (∀ sid ∈ truthy ev.stopSessionId,
      ∀ r ∈ d.book.tracking.get? sid, (∀ s ∈ ev.subjectIds, s ∈ r.subjectIds)
        ∧ ((r.recordAck node ev.ack).shouldFinalize = true → d.book.active ≠ ∅)))
  | .create _ _ _ _ | .advance _ _ => isTrue trivial

/-! ## What the sections do -/

theorem callbacks_of_issued {d d' : DrainDesk} (h : d'.issued = d.issued) : d.callbacks d' = [] := by
  rw [callbacks, h, List.drop_length]
  rfl

/-- An acknowledgement is ignored, is stored, or completes its record. -/
theorem ack_cases (d : DrainDesk) (node : NodeId) (ev : DrainEvent) (callback : Bool) :
    d.ack node ev callback = d
      ∨ ∃ sid record, truthy ev.stopSessionId = some sid
        ∧ d.book.tracking.get? sid = some record
        ∧ ((d.ack node ev callback = d.setBook (d.book.putRecord sid (record.recordAck node ev.ack)))
          ∨ ((record.recordAck node ev.ack).shouldFinalize = true
            ∧ d.ack node ev callback = d.completed sid (record.recordAck node ev.ack) callback)) := by
  cases hsid : truthy ev.stopSessionId with
  | none =>
    left
    unfold ack DrainBook.drainAck
    rw [hsid]
    rfl
  | some sid =>
    cases hrec : d.book.tracking.get? sid with
    | none =>
      left
      unfold ack DrainBook.drainAck
      rw [hsid]
      dsimp only
      rw [hrec]
      rfl
    | some record =>
      refine .inr ⟨sid, record, rfl, hrec, ?_⟩
      rw [ack_of_get? node callback hsid hrec]
      cases hfin : (record.recordAck node ev.ack).shouldFinalize with
      | false => exact .inl rfl
      | true => exact .inr ⟨rfl, rfl⟩

theorem completed_book (d : DrainDesk) (sid : String) (r : DrainRecord) (callback : Bool) :
    (d.completed sid r callback).book.active = d.book.active \ r.drainedSubjects
      ∧ (d.completed sid r callback).book.tracking = d.book.tracking.set sid
        { r with
          finalizing := decide (d.book.active \ r.drainedSubjects = ∅)
          finalized := !decide (d.book.active \ r.drainedSubjects = ∅) } := by
  unfold completed
  rw [launch_book]
  exact ⟨rfl, rfl⟩

/-- The launch of a call logs the callback, if the call begins with it. -/
theorem callbacks_launch (d : DrainDesk) (f : Finalization) :
    d.callbacks (d.launch f) = [] ∨ d.callbacks (d.launch f) = [.drained] ∧ f.stage = .callback := by
  unfold launch
  split
  · rename_i hstage
    refine .inr ⟨?_, hstage⟩
    show (((d.issued ++ [f.issue .callback f.result]).drop d.issued.length).filter fun x =>
      decide (x.kind = .callback)).map (fun _ => Mark.drained) = _
    rw [List.drop_left]
    rfl
  · exact .inl (callbacks_of_issued rfl)

/-- A completed record calls the callback only when it leaves nothing active. -/
theorem completed_callbacks (d : DrainDesk) (sid : String) (r : DrainRecord) (callback : Bool) :
    d.callbacks (d.completed sid r callback) = []
      ∨ d.callbacks (d.completed sid r callback) = [.drained]
        ∧ d.book.active \ r.drainedSubjects = ∅ := by
  have hlaunch (f : Finalization) :=
    callbacks_launch (d.setBook (d.book.completeDrain sid r).1) f
  rcases hlaunch (finalizationOf { r with
      finalizing := decide (d.book.active \ r.drainedSubjects = ∅)
      finalized := !decide (d.book.active \ r.drainedSubjects = ∅) } _
    (decide (d.book.active \ r.drainedSubjects = ∅)) callback) with hnone | ⟨hone, hstage⟩
  · exact .inl hnone
  · refine .inr ⟨hone, ?_⟩
    by_contra hactive
    simp [finalizationOf, hactive] at hstage

/-- Past its first section a call touches flags and aggregates only. -/
theorem advance_book {d d' : DrainDesk} {i : Nat} {e : Option String}
    (h : d.step (.advance i e) = some d') : d'.book.active = d.book.active
      ∧ d.callbacks d' = []
      ∧ ∀ sid r', d'.book.tracking.get? sid = some r' → ∃ r, d.book.tracking.get? sid = some r
        ∧ r'.subjectIds = r.subjectIds ∧ r'.acks = r.acks
        ∧ (r'.finalized = false → r.finalized = false) := by
  obtain ⟨f, -, hadv⟩ := Option.bind_eq_some_iff.mp h
  refine ⟨advanceCall_active hadv, ?_, ?_⟩
  · unfold advanceCall at hadv
    split at hadv
    · split at hadv <;> cases hadv <;> exact callbacks_of_issued rfl
    · cases hadv
      exact callbacks_of_issued rfl
    · cases hadv
      exact callbacks_of_issued rfl
    · cases hadv
      show (((d.issued ++ [f.issue .aggregate f.result]).drop d.issued.length).filter fun x =>
        decide (x.kind = .callback)).map (fun _ => Mark.drained) = _
      rw [List.drop_left]
      rfl
    · cases hadv
      show (((d.issued ++ [f.issue .failureReport _]).drop d.issued.length).filter fun x =>
        decide (x.kind = .callback)).map (fun _ => Mark.drained) = _
      rw [List.drop_left]
      rfl
    · cases hadv
  · intro sid r' hr'
    -- the flags of one record are written, or the book is the same
    have hwrite {r₀ : DrainRecord} {sid₀ : String} (hget : d.book.tracking.get? sid₀ = some r₀)
        (r₁ : DrainRecord) (hids : r₁.subjectIds = r₀.subjectIds) (hacks : r₁.acks = r₀.acks)
        (hfin : r₁.finalized = false → r₀.finalized = false)
        (hset : (d.book.tracking.set sid₀ r₁).get? sid = some r') :
        ∃ r, d.book.tracking.get? sid = some r ∧ r'.subjectIds = r.subjectIds ∧ r'.acks = r.acks
          ∧ (r'.finalized = false → r.finalized = false) := by
      rw [Dict.get?_set] at hset
      split at hset
      · rename_i heq
        cases hset
        exact ⟨r₀, heq ▸ hget, hids, hacks, hfin⟩
      · exact ⟨r', hset, rfl, rfl, id⟩
    obtain ⟨-, hbook | ⟨-, hbook | hbook⟩⟩ := advanceCall_cases hadv
    · rw [hbook] at hr'
      exact ⟨r', hr', rfl, rfl, id⟩
    · rw [hbook, DrainBook.finishDrain] at hr'
      split at hr'
      · exact ⟨r', hr', rfl, rfl, id⟩
      · rename_i r₀ hget
        exact hwrite hget { r₀ with finalizing := false, finalized := true } rfl rfl
          (fun h => by cases h) hr'
    · rw [hbook, DrainBook.failDrain] at hr'
      split at hr'
      · exact ⟨r', hr', rfl, rfl, id⟩
      · rename_i r₀ hget
        exact hwrite hget { r₀ with finalizing := false } rfl rfl id hr'

/-! ## The invariant -/

/-- An open record names no subject that is newer than its stop. -/
structure Newer (d : DrainDesk) (history : List Mark) : Prop where
  active : ∀ s, lastIsStart s history = true → s ∈ d.book.active
  claims : ∀ sid r, d.book.tracking.get? sid = some r → ∀ s ∈ r.drainedSubjects, s ∈ r.subjectIds
  older : ∀ sid r, d.book.tracking.get? sid = some r → r.finalized = false → ∀ s ∈ r.subjectIds,
    lastIsStart s history = false ∧ startedSince sid s history = false
  drained : drainedSince history = 0 ∨ drainedSince history = 1 ∧ d.book.active = ∅

theorem newer_init : Newer {} [] where
  active := fun _ h => by cases h
  claims := fun _ _ h => by cases h
  older := fun _ _ h => by cases h
  drained := .inl rfl

theorem Newer.start {d : DrainDesk} {history : List Mark} (h : Newer d history)
    {ids : List String} (hok : d.Orderly (.start ids)) :
    Newer (d.setBook (d.book.activate ids)) (.start ids :: history) where
  active := fun s hs => by
    show s ∈ d.book.active ∪ ids.toFinset
    rw [lastIsStart, Bool.or_eq_true, decide_eq_true_eq] at hs
    rcases hs with hs | hs
    · exact Finset.mem_union_right _ (List.mem_toFinset.mpr hs)
    · exact Finset.mem_union_left _ (h.active s hs)
  claims := h.claims
  older := fun sid r hr hopen s hs => by
    obtain ⟨hlast, hsince⟩ := h.older sid r hr hopen s hs
    have hout := hok (sid, r) (Dict.get?_eq_some_iff.mp hr) hopen s hs
    rw [lastIsStart, startedSince, hlast, hsince, decide_eq_false hout]
    exact ⟨rfl, rfl⟩
  drained := .inl rfl

theorem Newer.create {d : DrainDesk} {history : List Mark} (h : Newer d history)
    (sid scope : String) (ids : List String) (nodes : List NodeId) :
    Newer (d.setBook (d.book.createDrainRecord sid scope ids nodes)) (.stop sid ids :: history) where
  active := fun s hs => by
    rw [lastIsStart, Bool.and_eq_true] at hs
    exact h.active s hs.2
  claims := fun sid' r hr s hs => by
    have hget : (d.book.tracking.set sid _).get? sid' = some r := hr
    rw [Dict.get?_set] at hget
    split at hget
    · cases hget
      simp [DrainRecord.drainedSubjects] at hs
    · exact h.claims sid' r hget s hs
  older := fun sid' r hr hopen s hs => by
    have hget : (d.book.tracking.set sid _).get? sid' = some r := hr
    rw [Dict.get?_set] at hget
    rw [lastIsStart, startedSince]
    split at hget
    · rename_i heq
      cases hget
      rw [heq]
      simp [show s ∈ ids from hs]
    · obtain ⟨hlast, hsince⟩ := h.older sid' r hget hopen s hs
      rw [hlast, hsince]
      simp
  drained := h.drained

/-- A stored acknowledgement claims what its stop named. -/
theorem Newer.recordAck {d : DrainDesk} {history : List Mark} (h : Newer d history)
    {sid : String} {r : DrainRecord} (hr : d.book.tracking.get? sid = some r) (node : NodeId)
    {ev : DrainEvent} (hclaims : ∀ s ∈ ev.subjectIds, s ∈ r.subjectIds) :
    ∀ s ∈ (r.recordAck node ev.ack).drainedSubjects, s ∈ r.subjectIds := by
  intro s hs
  obtain ⟨n, a, ha, hin⟩ := (DrainRecord.mem_drainedSubjects _).mp hs
  have hget : (r.acks.set node ev.ack).get? n = some a := ha
  rw [Dict.get?_set] at hget
  split at hget
  · cases hget
    exact hclaims s hin
  · exact h.claims sid r hr s (r.mem_drainedSubjects.mpr ⟨n, a, hget, hin⟩)

/-- An acknowledgement of an orderly run: what it takes out of the active set is older than
its stop, and so is everything an open record still names. -/
theorem Newer.ack {d : DrainDesk} {history : List Mark} (h : Newer d history) {node : NodeId}
    {ev : DrainEvent} {callback : Bool} (hok : d.Orderly (.ack node ev callback)) :
    Newer (d.ack node ev callback) (d.callbacks (d.ack node ev callback) ++ history)
      ∧ ∀ s ∈ d.book.active, s ∉ (d.ack node ev callback).book.active →
        ∃ sid, truthy ev.stopSessionId = some sid ∧ startedSince sid s history = false := by
  rcases d.ack_cases node ev callback with heq | ⟨sid, r, hsid, hr, heq | ⟨hfinalize, heq⟩⟩
  · rw [heq, callbacks_of_issued rfl]
    exact ⟨h, fun s hin hout => absurd hin hout⟩
  · obtain ⟨hclaims, -⟩ := hok sid hsid r hr
    have hsub := h.recordAck hr node hclaims
    have hnone : d.callbacks (d.setBook (d.book.putRecord sid (r.recordAck node ev.ack))) = [] :=
      callbacks_of_issued rfl
    rw [heq, hnone]
    refine ⟨⟨h.active, fun sid' r' hr' => ?_, fun sid' r' hr' hopen => ?_, h.drained⟩,
      fun s hin hout => absurd hin hout⟩
    · have hget : (d.book.tracking.set sid _).get? sid' = some r' := hr'
      rw [Dict.get?_set] at hget
      split at hget
      · cases hget
        exact hsub
      · exact h.claims sid' r' hget
    · have hget : (d.book.tracking.set sid _).get? sid' = some r' := hr'
      rw [Dict.get?_set] at hget
      split at hget
      · rename_i hsame
        cases hget
        exact hsame ▸ h.older sid r hr hopen
      · exact h.older sid' r' hget hopen
  · obtain ⟨hclaims, hactive⟩ := hok sid hsid r hr
    have hsub := h.recordAck hr node hclaims
    obtain ⟨-, -, hopen⟩ := (DrainRecord.shouldFinalize_iff _).mp hfinalize
    have hold := h.older sid r hr hopen
    obtain ⟨hbook, htracking⟩ := d.completed_book sid (r.recordAck node ev.ack) callback
    rw [heq]
    -- the callback is no mark of a command
    have hmark (s sid' : String) (hist : List Mark) (hmarks :
        d.callbacks (d.completed sid (r.recordAck node ev.ack) callback) ++ history = hist) :
        lastIsStart s hist = lastIsStart s history
          ∧ startedSince sid' s hist = startedSince sid' s history := by
      rcases d.completed_callbacks sid (r.recordAck node ev.ack) callback with hnone | ⟨hone, -⟩
      · rw [← hmarks, hnone]
        exact ⟨rfl, rfl⟩
      · rw [← hmarks, hone]
        exact ⟨rfl, rfl⟩
    refine ⟨⟨fun s hs => ?_, fun sid' r' hr' => ?_, fun sid' r' hr' hopen' s hs => ?_, ?_⟩,
      fun s hin hout => ⟨sid, hsid, ?_⟩⟩
    · rw [(hmark s sid _ rfl).1] at hs
      rw [hbook, Finset.mem_sdiff]
      refine ⟨h.active s hs, fun hdrained => ?_⟩
      rw [(hold s (hsub s hdrained)).1] at hs
      cases hs
    · rw [htracking, Dict.get?_set] at hr'
      split at hr'
      · cases hr'
        exact hsub
      · exact h.claims sid' r' hr'
    · rw [(hmark s sid' _ rfl).1, (hmark s sid' _ rfl).2]
      rw [htracking, Dict.get?_set] at hr'
      split at hr'
      · rename_i hsame
        cases hr'
        exact hsame ▸ hold s hs
      · exact h.older sid' r' hr' hopen' s hs
    · -- something streamed, so the callback was not called since the latest START
      have hzero : drainedSince history = 0 :=
        h.drained.resolve_right fun hone => hactive hfinalize hone.2
      rw [hbook]
      rcases d.completed_callbacks sid (r.recordAck node ev.ack) callback with
        hnone | ⟨hone, hempty⟩
      · rw [hnone]
        exact .inl hzero
      · rw [hone]
        refine .inr ⟨?_, hempty⟩
        show drainedSince history + 1 = 1
        rw [hzero]
    · rw [hbook, Finset.mem_sdiff, not_and_not_right] at hout
      exact (hold s (hsub s (hout hin))).2

theorem Newer.advance {d d' : DrainDesk} {history : List Mark} (h : Newer d history) {i : Nat}
    {e : Option String} (hstep : d.step (.advance i e) = some d') :
    Newer d' (d.callbacks d' ++ history) := by
  obtain ⟨hactive, hnone, hrecords⟩ := advance_book hstep
  rw [hnone]
  refine ⟨fun s hs => ?_, fun sid r' hr' s hs => ?_, fun sid r' hr' hopen s hs => ?_, ?_⟩
  · rw [hactive]
    exact h.active s hs
  · obtain ⟨r, hr, hids, hacks, -⟩ := hrecords sid r' hr'
    rw [DrainRecord.drainedSubjects, hacks] at hs
    rw [hids]
    exact h.claims sid r hr s hs
  · obtain ⟨r, hr, hids, -, hfin⟩ := hrecords sid r' hr'
    exact h.older sid r hr (hfin hopen) s (hids ▸ hs)
  · rw [hactive]
    exact h.drained

/-- Only acknowledgements take a subject out, and only one older than their stop. -/
def RemovesOlder (d d' : DrainDesk) (history : List Mark) (a : DrainAction) : Prop :=
  ∀ s ∈ d.book.active, s ∉ d'.book.active → ∃ node ev callback sid,
    a = .ack node ev callback ∧ truthy ev.stopSessionId = some sid
      ∧ startedSince sid s history = false

theorem Newer.step {d d' : DrainDesk} {history : List Mark} (h : Newer d history) {a : DrainAction}
    (hok : d.Orderly a) (hstep : d.step a = some d') :
    Newer d' (d.marks d' a ++ history) ∧ RemovesOlder d d' history a := by
  cases a with
  | start ids =>
    cases hstep
    exact ⟨h.start hok, fun s hin hout => absurd (Finset.mem_union_left _ hin) hout⟩
  | create sid scope ids nodes =>
    cases hstep
    exact ⟨h.create sid scope ids nodes, fun s hin hout => absurd hin hout⟩
  | ack node ev callback =>
    cases hstep
    obtain ⟨hnewer, hremoves⟩ := h.ack hok
    refine ⟨hnewer, fun s hin hout => ?_⟩
    obtain ⟨sid, hsid, hsince⟩ := hremoves s hin hout
    exact ⟨node, ev, callback, sid, rfl, hsid, hsince⟩
  | advance i e =>
    refine ⟨h.advance hstep, fun s hin hout => ?_⟩
    rw [(advance_book hstep).1] at hout
    exact absurd hin hout

end DrainDesk

/-! ## The master -/

/-- The master with the order of its commands and callbacks. -/
structure Watched where
  master : Master
  history : List Mark := []

namespace Watched

/-- What a step of the master adds to the history. -/
def marks (m m' : Master) (a : MasterAction) : List Mark :=
  match m.drainAction a with
  | none => []
  | some b => m.desk.marks m'.desk b

def step (lower : String → String) : Machine Watched MasterAction := fun w a =>
  (w.master.step lower a).map fun m => ⟨m, marks w.master m a ++ w.history⟩

def Orderly (w : Watched) (a : MasterAction) : Prop :=
  ∀ b ∈ w.master.drainAction a, w.master.desk.Orderly b

instance (w : Watched) (a : MasterAction) : Decidable (w.Orderly a) :=
  inferInstanceAs (Decidable (∀ b ∈ w.master.drainAction a, w.master.desk.Orderly b))

/-- Old stops never touch newer streams. -/
structure StopsKeepOff (lower : String → String) (w : Watched) : Prop where
  removes : ∀ a w', w.Orderly a → step lower w a = some w' →
    ∀ s ∈ w.master.desk.book.active, s ∉ w'.master.desk.book.active →
      ∃ node ev callback sid, a = .drainAck node ev callback
        ∧ truthy ev.stopSessionId = some sid ∧ startedSince sid s w.history = false
  active : ∀ s, lastIsStart s w.history = true → s ∈ w.master.desk.book.active
  drained : drainedSince w.history ≤ 1

/-- An acknowledgement reaches the barrier as itself. -/
theorem drainAction_eq_ack {m : Master} {a : MasterAction} {node : NodeId} {ev : DrainEvent}
    {callback : Bool} (h : m.drainAction a = some (.ack node ev callback)) :
    a = .drainAck node ev callback := by
  unfold Master.drainAction at h
  split at h
  · split at h <;> cases h
  · split at h <;> cases h
  · cases h
  · cases h
  · cases h
    rfl
  · cases h
  · cases h

theorem newer_step {lower : String → String} {w w' : Watched} {a : MasterAction}
    (h : w.master.desk.Newer w.history) (hok : w.Orderly a) (hstep : step lower w a = some w') :
    w'.master.desk.Newer w'.history ∧ ∀ s ∈ w.master.desk.book.active,
      s ∉ w'.master.desk.book.active → ∃ node ev callback sid, a = .drainAck node ev callback
        ∧ truthy ev.stopSessionId = some sid ∧ startedSince sid s w.history = false := by
  obtain ⟨m, hm, rfl⟩ := Option.map_eq_some_iff.mp hstep
  have hdesk := Master.desk_of_step hm
  unfold Orderly at hok
  simp only [marks]
  cases haction : w.master.drainAction a with
  | none =>
    rw [haction] at hdesk
    simp only at hdesk
    rw [hdesk]
    exact ⟨h, fun s hin hout => absurd hin hout⟩
  | some b =>
    rw [haction] at hdesk hok
    obtain ⟨hnewer, hremoves⟩ := h.step (hok b rfl) hdesk
    refine ⟨hnewer, fun s hin hout => ?_⟩
    obtain ⟨node, ev, callback, sid, rfl, hsid, hsince⟩ := hremoves s hin hout
    exact ⟨node, ev, callback, sid, drainAction_eq_ack haction, hsid, hsince⟩

theorem newer_of_run {lower : String → String} {entry : NodeEntry} {w : Watched}
    (hrun : Machine.Run (step lower) Orderly ⟨Master.boot entry, []⟩ w) :
    w.master.desk.Newer w.history :=
  hrun.invariant (I := fun w => w.master.desk.Newer w.history) DrainDesk.newer_init
    fun _ _ _ hok hstep h => (newer_step h hok hstep).1

end Watched

/-- **Old stops never touch newer streams**, in every run of the master whose steps are
orderly. -/
theorem stopsKeepOff_of_orderly {lower : String → String} {entry : NodeEntry} {w : Watched}
    (hrun : Machine.Run (Watched.step lower) Watched.Orderly ⟨Master.boot entry, []⟩ w) :
    w.StopsKeepOff lower := by
  have hnewer := Watched.newer_of_run hrun
  refine ⟨fun a w' hok hstep => (Watched.newer_step hnewer hok hstep).2, hnewer.active, ?_⟩
  rcases hnewer.drained with hzero | ⟨hone, -⟩
  · omega
  · omega

/-! ## A late acknowledgement -/

def startSubject (sid : String) : MasterAction :=
  .dispatch (.startStreamForSubjects { subjectIds := some [sid] }) { uuid := "start" }

def stopSubject (sid stopSessionId : String) : MasterAction :=
  .dispatch (.stopStreamForSubjects
    { subjectIds := [sid], stopSessionId := some stopSessionId }) {}

/-- The master's own node has drained the subject. -/
def drainedSubject (sid stopSessionId : String) : MasterAction :=
  .drainAck masterId
    { stopSessionId := some stopSessionId, subjectIds := [sid]
      sessionTimestamp := some "20260910_120000" } true

def bareNode : NodeEntry := {}

/-- Started, stopped and drained, started again, and the acknowledgement repeated. -/
def restarted : List MasterAction :=
  [startSubject "s1", stopSubject "s1" "p", drainedSubject "s1" "p", .drainAdvance 0 none,
    .drainAdvance 0 none, startSubject "s1", drainedSubject "s1" "p"]

theorem stopsKeepOff_of_orderly_restarted :
    ∃ w, Machine.Run (Watched.step id) Watched.Orderly ⟨Master.boot bareNode, []⟩ w
      ∧ w.master.desk.book.active = {"s1"}
      ∧ w.history = [.start ["s1"], .drained, .stop "p" ["s1"], .start ["s1"]]
      ∧ w.StopsKeepOff id := by
  have hruns : (Machine.execOk (Watched.step id) Watched.Orderly ⟨Master.boot bareNode, []⟩
      restarted).map (fun w => (w.master.desk.book.active, w.history))
      = some ({"s1"}, [.start ["s1"], .drained, .stop "p" ["s1"], .start ["s1"]]) := by
    decide +kernel
  obtain ⟨w, hw, hfields⟩ := Option.map_eq_some_iff.mp hruns
  simp only [Prod.mk.injEq] at hfields
  have hrun := Machine.Run.of_execOk _ hw
  exact ⟨w, hrun, hfields.1, hfields.2, stopsKeepOff_of_orderly hrun⟩

/-- The stop is answered after the subject was started again, and its stream is forgotten. -/
def lateAck : List MasterAction :=
  [startSubject "s1", stopSubject "s1" "p", startSubject "s1", drainedSubject "s1" "p"]

theorem lateAck_forgets_stream :
    ¬ ∀ w, Machine.Reach (Watched.step id) ⟨Master.boot bareNode, []⟩ w →
      ∀ s, lastIsStart s w.history = true → s ∈ w.master.desk.book.active := by
  intro hall
  have hruns : (Machine.exec (Watched.step id) ⟨Master.boot bareNode, []⟩ lateAck).map
      (fun w => (w.master.desk.book.active, lastIsStart "s1" w.history)) = some (∅, true) := by
    decide +kernel
  obtain ⟨w, hw, hfields⟩ := Option.map_eq_some_iff.mp hruns
  simp only [Prod.mk.injEq] at hfields
  have hin := hall w (Machine.reach_of_exec _ hw) "s1" hfields.2
  rw [hfields.1] at hin
  exact absurd hin (Finset.notMem_empty _)

end NexusN3
