import NexusN3.Core.World

/-!
# Stops that overlap, and the requests they hold off

`_stop_stream_impl` raises one flag at its entry and takes it down three times on its way out;
the ids it claims go into one set and come out of it by a difference. Here any number of calls
run in sections finer than those of `World`, between the five requests the flag is there to
hold off.

* **`Overlap`** — one Core, the calls of `_stop_stream_impl`, and what the requests sent on.
* **`Overlap.Orderly`** — the condition on a step: a stop takes the flag down, or leaves the
  set, only when no other stop needs it, and no request comes into a drain emission.
* **`guarded_of_orderly`** — under it, every request made during a stop is rejected, and the
  set is the union of the ids of the stops in progress.
-/

namespace NexusN3

open Lib

/-! ## The requests -/

inductive Request where
  | disconnectAll (recover : Bool) (refusal : Option String)
  | disconnectSubjects (subjectIds : List String)
  | initCore (outcome : Installation)
  | resetSession (refusal : Option String)
  | startConnectionSequence

/-- What a request sends on to the sensors, the clients and the connection sequence. -/
inductive Sent where
  | cleanupStarted
  | disconnectAll
  | disconnectAddresses (addresses : List String)
  | connectAll
  deriving DecidableEq

def ResetOutcome.result : ResetOutcome → Except String Unit
  | .refused e => .error e
  | .raised e => .error e
  | .joined => .ok ()
  | .started => .ok ()

namespace Core

/-- `disconnect_all`. -/
def disconnectAll (c : Core) (recover : Bool) (refusal : Option String) :
    Core × List Sent × Except String Unit :=
  match c.ensureDisconnectAllowed with
  | .error e => (c, [], .error e)
  | .ok () =>
    if recover then
      let (c', outcome) := c.resetSession refusal
      (c', [.cleanupStarted], outcome.result)
    else (c, [.cleanupStarted, .disconnectAll], .ok ())

/-- `disconnect_subjects`. -/
def disconnectSubjects (c : Core) (subjectIds : List String) :
    Core × List Sent × Except String Unit :=
  match c.ensureDisconnectAllowed with
  | .error e => (c, [], .error e)
  | .ok () =>
    match c.getSubjectsByIds subjectIds with
    | .error missing => (c, [], .error ("Subject(s) not found: " ++ pyList missing))
    | .ok idxs => (c, [.cleanupStarted, .disconnectAddresses (c.addressesAt idxs)], .ok ())

/-- `start_connection_sequence`, up to the sequence itself. -/
def startConnectionSequence (c : Core) : Core × List Sent × Except String Unit :=
  match c.ensureRecoveryIdle with
  | .error e => (c, [], .error e)
  | .ok () =>
    match c.ensureDisconnectAllowed with
    | .error e => (c, [], .error e)
    | .ok () => (c, [.connectAll], .ok ())

def request (c : Core) : Request → Core × List Sent × Except String Unit
  | .disconnectAll recover refusal => c.disconnectAll recover refusal
  | .disconnectSubjects ids => c.disconnectSubjects ids
  | .initCore outcome => ((c.initCore outcome).1, [], (c.initCore outcome).2)
  | .resetSession refusal =>
    ((c.resetSession refusal).1, [], (c.resetSession refusal).2.result)
  | .startConnectionSequence => c.startConnectionSequence

/-- The request raises and leaves everything as it was. -/
def Rejects (c : Core) (q : Request) : Prop := ∃ e, c.request q = (c, [], .error e)

/-- The flag holds off every request. -/
theorem rejects_of_pending {c : Core} (h : c.streamStopFinalizationPending = true)
    (q : Request) : c.Rejects q := by
  have hno : c.ensureDisconnectAllowed
      = .error "Cannot disconnect sensors while stream finalization is still in progress" := by
    rw [ensureDisconnectAllowed, if_pos h]
  cases q with
  | disconnectAll recover refusal => exact ⟨_, by simp only [request, disconnectAll, hno]; rfl⟩
  | disconnectSubjects ids => exact ⟨_, by simp only [request, disconnectSubjects, hno]; rfl⟩
  | initCore outcome =>
      obtain ⟨e, he⟩ := (initGuard_error_iff c).mpr (.inr (.inl h))
      exact ⟨e, by rw [request, initCore_of_initGuard_error he]⟩
  | resetSession refusal =>
      exact ⟨_, by simp only [request, resetSession, hno]; rfl⟩
  | startConnectionSequence =>
      show ∃ e, c.startConnectionSequence = (c, [], .error e)
      unfold startConnectionSequence
      split
      · exact ⟨_, rfl⟩
      · rw [hno]
        exact ⟨_, rfl⟩

/-! ## The sections of a stop -/

/-- `_set_stream_stop_finalization_pending(True)`. -/
def stopGuard (c : Core) : Core := { c with streamStopFinalizationPending := true }

/-- The locked section at the entry. -/
def stopClaim (c : Core) (r : StopRequest) : Core :=
  let other := c.otherSubjectsActive r.subjectIds
  let c := { c with stoppingSubjectIds := c.stoppingSubjectIds ∪ r.subjectIds.toFinset }
  if other then c else c.stopGate

/-- The locked section at the exit, and the scope of the next command. -/
def stopUnclaim (c : Core) (r : StopRequest) : Core :=
  { c with
    stoppingSubjectIds := c.stoppingSubjectIds \ r.subjectIds.toFinset
    activeSubjectIds := none }

/-- The entry and the exit of `World` are two of these sections each. -/
theorem stopEnter_eq (c : Core) (r : StopRequest) : c.stopEnter r = c.stopGuard.stopClaim r := by
  unfold stopEnter stopClaim
  rfl

theorem stopRelease_eq (c : Core) (r : StopRequest) :
    c.stopRelease r = c.stopAbort.stopUnclaim r := rfl

end Core

/-- The next section of a call of `_stop_stream_impl`. The drain event is emitted while it is
draining, of a body that raised or not; `closing`, `leaving` and `finishing` are the `finally`
block. -/
inductive StopPoint where
  | entering
  | issue
  | collect
  | flush
  | mark
  | close
  | draining (raised : Bool)
  | closing
  | leaving
  | finishing
  | returned
  deriving DecidableEq

structure StopCall where
  request : StopRequest
  env : StopEnv
  point : StopPoint

/-- Entered, and the flag not yet taken down by the call itself. -/
def StopPoint.guards : StopPoint → Bool
  | .entering | .issue | .collect | .flush | .mark | .close => true
  | _ => false

def StopPoint.drains : StopPoint → Bool
  | .draining _ => true
  | _ => false

/-- Between the two locked sections. -/
def StopPoint.claims : StopPoint → Bool
  | .entering | .finishing | .returned => false
  | _ => true

/-- The section takes the flag down. -/
def StopPoint.unguards : StopPoint → Bool
  | .close | .closing => true
  | _ => false

/-- Entered, and not yet at the end of the drain emission. -/
def StopCall.inProgress (call : StopCall) : Bool := call.point.guards || call.point.drains

/-- Run the next section of a call. -/
def StopCall.advance (c : Core) (call : StopCall) : Core × StopPoint :=
  match call.point with
  | .entering => (c.stopClaim call.request, .issue)
  | .issue => (c.stopIssue call.request, .collect)
  | .collect => (c.stopCollect call.request call.env.physical, .flush)
  | .flush => (c.stopFlush call.request, .mark)
  | .mark => (c.stopMark call.request, .close)
  | .close => (c.stopClose call.request call.env, .draining false)
  | .draining _ => (c, .closing)
  | .closing => (c.stopAbort, .leaving)
  | .leaving => (c.stopUnclaim call.request, .finishing)
  | .finishing => (c.stopFinish, .returned)
  | .returned => (c, .returned)

/-- An exception out of the body leads to the `except` branch, and one out of that branch to
the `finally` block. -/
def StopCall.raise (c : Core) (call : StopCall) : Option (Core × StopPoint) :=
  match call.point with
  | .issue | .collect | .flush | .mark | .close | .draining false =>
    some (c.stopAbort, .draining true)
  | .draining true => some (c, .closing)
  | _ => none

structure Overlap where
  core : Core
  calls : List StopCall := []
  sent : List Sent := []

namespace Overlap

inductive Action where
  | stop (request : StopRequest) (env : StopEnv)
  | advance (i : Nat)
  | raise (i : Nat)
  | request (q : Request)

def setCall (s : Overlap) (i : Nat) (call : StopCall) (point : StopPoint) : Overlap :=
  { s with calls := s.calls.set i { call with point } }

def step : Machine Overlap Action := fun s a =>
  match a with
  | .stop r env =>
    some { s with core := s.core.stopGuard, calls := s.calls ++ [⟨r, env, .entering⟩] }
  | .advance i =>
    s.calls[i]?.map fun call =>
      { s with core := (call.advance s.core).1 }.setCall i call (call.advance s.core).2
  | .raise i =>
    s.calls[i]?.bind fun call => (call.raise s.core).map fun next =>
      { s with core := next.1 }.setCall i call next.2
  | .request q =>
    some { s with core := (s.core.request q).1, sent := s.sent ++ (s.core.request q).2.1 }

/-! ## The condition on a step -/

/-- The calls but the one at `i`. -/
def others (s : Overlap) (i : Nat) : List StopCall := s.calls.eraseIdx i

/-- No other call needs the flag. -/
def Alone (s : Overlap) (i : Nat) : Prop := ∀ call ∈ s.others i, call.point.guards = false

/-- No other call has claimed one of the ids. -/
def Apart (s : Overlap) (i : Nat) (ids : List String) : Prop :=
  ∀ call ∈ s.others i, call.point.claims = true → List.Disjoint ids call.request.subjectIds

def Orderly (s : Overlap) : Action → Prop
  | .stop _ _ => True
  | .advance i => ∀ call ∈ s.calls[i]?, (call.point.unguards = true → s.Alone i)
      ∧ (call.point = .leaving → s.Apart i call.request.subjectIds)
  | .raise i => s.Alone i
  | .request _ => (∃ call ∈ s.calls, call.point.guards = true)
      ∨ ∀ call ∈ s.calls, call.point.drains = false

instance (s : Overlap) (i : Nat) : Decidable (s.Alone i) :=
  inferInstanceAs (Decidable (∀ call ∈ s.others i, _))

instance (s : Overlap) (i : Nat) (ids : List String) : Decidable (s.Apart i ids) :=
  inferInstanceAs (Decidable (∀ call ∈ s.others i, _ → ∀ ⦃a⦄, a ∈ _ → a ∈ _ → False))

instance (s : Overlap) (a : Action) : Decidable (s.Orderly a) := by
  cases a <;> unfold Orderly <;> infer_instance

/-! ## The invariant -/

/-- The flag is up while a call needs it, and the set holds what the calls have claimed. -/
structure Guarded (s : Overlap) : Prop where
  flag : ∀ call ∈ s.calls, call.point.guards = true →
    s.core.streamStopFinalizationPending = true
  ids : ∀ sid, sid ∈ s.core.stoppingSubjectIds ↔
    ∃ call ∈ s.calls, call.point.claims = true ∧ sid ∈ call.request.subjectIds

theorem guarded_init {c : Core} (h : c.stoppingSubjectIds = ∅) : Guarded { core := c } where
  flag := fun _ hmem => absurd hmem List.not_mem_nil
  ids := fun sid => by simp [h]

end Overlap

/-! ## What the sections do to the flag and the set -/

namespace Core

/-- Neither the flag nor the set is touched. -/
def SameGuard (c c' : Core) : Prop :=
  c'.streamStopFinalizationPending = c.streamStopFinalizationPending
    ∧ c'.stoppingSubjectIds = c.stoppingSubjectIds

theorem SameGuard.refl (c : Core) : SameGuard c c := ⟨rfl, rfl⟩

theorem sameGuard_updateStopped (c : Core) (r : StopRequest) (f : Subject → Subject) :
    SameGuard c (c.updateStopped r f) := by
  unfold updateStopped
  split <;> exact .refl c

theorem sameGuard_stopIssue (c : Core) (r : StopRequest) : SameGuard c (c.stopIssue r) := by
  unfold stopIssue
  split <;> exact .refl c

theorem sameGuard_stopCollect (c : Core) (r : StopRequest) (physical : PhysicalStop) :
    SameGuard c (c.stopCollect r physical) := by
  unfold stopCollect
  split
  · exact c.sameGuard_updateStopped r quarantine
  · exact .refl c

theorem sameGuard_stopFinish (c : Core) : SameGuard c c.stopFinish := by
  unfold stopFinish
  simp only
  split <;> exact ⟨rfl, rfl⟩

theorem stopClose_guard (c : Core) (r : StopRequest) (env : StopEnv) :
    (c.stopClose r env).streamStopFinalizationPending = false
      ∧ (c.stopClose r env).stoppingSubjectIds = c.stoppingSubjectIds := by
  have harchive (d : Core) : d.finalizeSessionArchive.stoppingSubjectIds
      = d.stoppingSubjectIds := by
    unfold finalizeSessionArchive
    split
    · rfl
    · split <;> rfl
  refine ⟨rfl, ?_⟩
  simp only [stopClose, apply_ite Core.stoppingSubjectIds, harchive, ite_self]
  rfl

theorem stopClaim_guard (c : Core) (r : StopRequest) :
    (c.stopClaim r).streamStopFinalizationPending = c.streamStopFinalizationPending
      ∧ (c.stopClaim r).stoppingSubjectIds = c.stoppingSubjectIds ∪ r.subjectIds.toFinset := by
  unfold stopClaim
  simp only
  split <;> exact ⟨rfl, rfl⟩

theorem sameGuard_resetSession (c : Core) (refusal : Option String) :
    SameGuard c (c.resetSession refusal).1 := by
  unfold resetSession
  split
  · exact .refl c
  · split
    · exact .refl c
    · split
      · exact .refl c
      · split <;> exact ⟨rfl, rfl⟩

theorem sameGuard_initCore (c : Core) (outcome : Installation) :
    SameGuard c (c.initCore outcome).1 := by
  unfold initCore
  split
  · exact .refl c
  · split <;> exact ⟨rfl, rfl⟩

theorem sameGuard_request (c : Core) (q : Request) : SameGuard c (c.request q).1 := by
  cases q with
  | disconnectAll recover refusal =>
      show SameGuard c (c.disconnectAll recover refusal).1
      unfold disconnectAll
      split
      · exact .refl c
      · split
        · exact c.sameGuard_resetSession refusal
        · exact .refl c
  | disconnectSubjects ids =>
      show SameGuard c (c.disconnectSubjects ids).1
      unfold disconnectSubjects
      split
      · exact .refl c
      · split <;> exact .refl c
  | initCore outcome => exact c.sameGuard_initCore outcome
  | resetSession refusal => exact c.sameGuard_resetSession refusal
  | startConnectionSequence =>
      show SameGuard c c.startConnectionSequence.1
      unfold startConnectionSequence
      split
      · exact .refl c
      · split <;> exact .refl c

end Core

/-! ## One section of a call -/

/-- What a section does to the flag, the set and the place of its call. -/
structure StopCall.Effect (call : StopCall) (c c' : Core) (point : StopPoint) : Prop where
  flag : point.guards = true → call.point.guards = true
    ∧ c'.streamStopFinalizationPending = c.streamStopFinalizationPending
  keep : call.point.unguards = false →
    c'.streamStopFinalizationPending = c.streamStopFinalizationPending
  ids : ∀ sid, sid ∈ c'.stoppingSubjectIds ↔
    (sid ∈ c.stoppingSubjectIds ∧ ¬ (call.point = .leaving ∧ sid ∈ call.request.subjectIds))
      ∨ (call.point = .entering ∧ sid ∈ call.request.subjectIds)
  claims : point.claims = true ↔ call.point = .entering
    ∨ (call.point.claims = true ∧ call.point ≠ .leaving)

theorem StopCall.effect_of_same {call : StopCall} {c c' : Core} {point : StopPoint}
    (h : Core.SameGuard c c') (hentering : call.point ≠ .entering)
    (hleaving : call.point ≠ .leaving) (hguards : point.guards = true → call.point.guards = true)
    (hclaims : point.claims = call.point.claims) : call.Effect c c' point where
  flag := fun hg => ⟨hguards hg, h.1⟩
  keep := fun _ => h.1
  ids := fun sid => by simp [h.2, hentering, hleaving]
  claims := by simp [hclaims, hentering, hleaving]

theorem StopCall.effect_advance (call : StopCall) (c : Core) :
    call.Effect c (call.advance c).1 (call.advance c).2 := by
  unfold StopCall.advance
  cases hpoint : call.point with
  | entering =>
      obtain ⟨hflag, hids⟩ := c.stopClaim_guard call.request
      exact
        { flag := fun _ => ⟨by rw [hpoint]; rfl, hflag⟩
          keep := fun _ => hflag
          ids := fun sid => by simp [hids, hpoint]
          claims := by simp [hpoint, StopPoint.claims] }
  | issue =>
      exact effect_of_same (c.sameGuard_stopIssue _) (by simp [hpoint]) (by simp [hpoint])
        (fun _ => by rw [hpoint]; rfl) (by rw [hpoint]; rfl)
  | collect =>
      exact effect_of_same (c.sameGuard_stopCollect _ _) (by simp [hpoint]) (by simp [hpoint])
        (fun _ => by rw [hpoint]; rfl) (by rw [hpoint]; rfl)
  | flush =>
      exact effect_of_same (c.sameGuard_updateStopped _ _) (by simp [hpoint]) (by simp [hpoint])
        (fun _ => by rw [hpoint]; rfl) (by rw [hpoint]; rfl)
  | mark =>
      exact effect_of_same (c.sameGuard_updateStopped _ _) (by simp [hpoint]) (by simp [hpoint])
        (fun _ => by rw [hpoint]; rfl) (by rw [hpoint]; rfl)
  -- the closing takes the flag down, the first of three places
  | close =>
      obtain ⟨-, hids⟩ := c.stopClose_guard call.request call.env
      exact
        { flag := fun h => by cases h
          keep := fun h => by rw [hpoint] at h; cases h
          ids := fun sid => by simp [hids, hpoint]
          claims := by simp [hpoint, StopPoint.claims] }
  | draining raised =>
      exact effect_of_same (.refl c) (by simp [hpoint]) (by simp [hpoint])
        (fun h => by cases h) (by rw [hpoint]; rfl)
  | closing =>
      exact
        { flag := fun h => by cases h
          keep := fun h => by rw [hpoint] at h; cases h
          ids := fun sid => by simp [Core.stopAbort, hpoint]
          claims := by simp [hpoint, StopPoint.claims] }
  -- the difference with the ids of this call
  | leaving =>
      exact
        { flag := fun h => by cases h
          keep := fun _ => rfl
          ids := fun sid => by simp [Core.stopUnclaim, hpoint]
          claims := by simp [hpoint, StopPoint.claims] }
  | finishing =>
      exact effect_of_same c.sameGuard_stopFinish (by simp [hpoint]) (by simp [hpoint])
        (fun h => by cases h) (by rw [hpoint]; rfl)
  | returned =>
      exact effect_of_same (.refl c) (by simp [hpoint]) (by simp [hpoint])
        (fun h => by cases h) (by rw [hpoint])

/-- An exception leaves the set alone, and its call claims its ids still. -/
theorem StopCall.raise_effect {call : StopCall} {c : Core} {next : Core × StopPoint}
    (h : call.raise c = some next) : next.1.stoppingSubjectIds = c.stoppingSubjectIds
      ∧ next.2.guards = false ∧ next.2.claims = true ∧ call.point.claims = true := by
  unfold StopCall.raise at h
  split at h
  all_goals
    cases h
  all_goals
    rename_i hpoint
    refine ⟨rfl, rfl, rfl, ?_⟩
    rw [hpoint]
    rfl

namespace Overlap

/-- The calls after one of them has moved. -/
theorem mem_setCall {s : Overlap} {i : Nat} {call : StopCall} (hi : s.calls[i]? = some call)
    (point : StopPoint) {other : StopCall} :
    (other ∈ (s.setCall i call point).calls ↔ other = { call with point } ∨ other ∈ s.others i)
      ∧ (other ∈ s.calls ↔ other = call ∨ other ∈ s.others i) := by
  obtain ⟨hlt, hcall⟩ := List.getElem?_eq_some_iff.mp hi
  constructor
  · rw [← List.mem_cons]
    exact (List.set_perm_cons_eraseIdx hlt _).mem_iff
  · rw [← hcall, ← List.mem_cons]
    exact (List.getElem_cons_eraseIdx_perm hlt).mem_iff.symm

theorem guarded_advance {s : Overlap} (h : Guarded s) {i : Nat} {call : StopCall}
    (hi : s.calls[i]? = some call) (halone : call.point.unguards = true → s.Alone i)
    (hapart : call.point = .leaving → s.Apart i call.request.subjectIds) :
    Guarded ({ s with core := (call.advance s.core).1 }.setCall i call (call.advance s.core).2) := by
  have heffect := call.effect_advance s.core
  have hself : call ∈ s.calls := List.mem_of_getElem? hi
  refine ⟨fun other hmem hguards => ?_, fun sid => ?_⟩
  · show (call.advance s.core).1.streamStopFinalizationPending = true
    rcases (mem_setCall hi _).1.mp hmem with rfl | hother
    · obtain ⟨hbefore, hsame⟩ := heffect.flag hguards
      rw [hsame]
      exact h.flag call hself hbefore
    · cases hun : call.point.unguards with
      -- a section that takes the flag down runs alone: nobody else needs it
      | true =>
          rw [halone hun other hother] at hguards
          cases hguards
      | false =>
          rw [heffect.keep hun]
          exact h.flag other ((mem_setCall hi call.point).2.mpr (.inr hother)) hguards
  · show sid ∈ (call.advance s.core).1.stoppingSubjectIds ↔ _
    rw [heffect.ids, h.ids]
    constructor
    · rintro (⟨⟨other, hmem, hclaims, hsid⟩, hstay⟩ | ⟨hentering, hsid⟩)
      · rcases (mem_setCall hi call.point).2.mp hmem with rfl | hother
        · have hleaving : other.point ≠ .leaving := fun heq => hstay ⟨heq, hsid⟩
          exact ⟨_, (mem_setCall hi _).1.mpr (.inl rfl),
            heffect.claims.mpr (.inr ⟨hclaims, hleaving⟩), hsid⟩
        · exact ⟨other, (mem_setCall hi _).1.mpr (.inr hother), hclaims, hsid⟩
      · exact ⟨_, (mem_setCall hi _).1.mpr (.inl rfl), heffect.claims.mpr (.inl hentering), hsid⟩
    · rintro ⟨other, hmem, hclaims, hsid⟩
      rcases (mem_setCall hi _).1.mp hmem with rfl | hother
      · rcases heffect.claims.mp hclaims with hentering | ⟨hbefore, hleaving⟩
        · exact .inr ⟨hentering, hsid⟩
        · exact .inl ⟨⟨call, hself, hbefore, hsid⟩, fun hleave => hleaving hleave.1⟩
      · refine .inl ⟨⟨other, (mem_setCall hi call.point).2.mpr (.inr hother), hclaims, hsid⟩, ?_⟩
        -- a leaving call shares no id with the others
        rintro ⟨hleaving, hin⟩
        exact hapart hleaving other hother hclaims hin hsid

theorem guarded_raise {s : Overlap} (h : Guarded s) {i : Nat} {call : StopCall}
    (hi : s.calls[i]? = some call) {next : Core × StopPoint} (hraise : call.raise s.core = some next)
    (halone : s.Alone i) : Guarded ({ s with core := next.1 }.setCall i call next.2) := by
  obtain ⟨hids, hguards, hafter, hbefore⟩ := StopCall.raise_effect hraise
  refine ⟨fun other hmem hother => ?_, fun sid => ?_⟩
  · rcases (mem_setCall hi _).1.mp hmem with rfl | hmem
    · rw [hguards] at hother
      cases hother
    · rw [halone other hmem] at hother
      cases hother
  · show sid ∈ next.1.stoppingSubjectIds ↔ _
    rw [hids, h.ids]
    constructor
    · rintro ⟨other, hmem, hclaims, hsid⟩
      rcases (mem_setCall hi call.point).2.mp hmem with rfl | hother
      · exact ⟨_, (mem_setCall hi _).1.mpr (.inl rfl), hafter, hsid⟩
      · exact ⟨other, (mem_setCall hi _).1.mpr (.inr hother), hclaims, hsid⟩
    · rintro ⟨other, hmem, hclaims, hsid⟩
      rcases (mem_setCall hi _).1.mp hmem with rfl | hother
      · exact ⟨call, List.mem_of_getElem? hi, hbefore, hsid⟩
      · exact ⟨other, (mem_setCall hi call.point).2.mpr (.inr hother), hclaims, hsid⟩

theorem guarded_step {s s' : Overlap} {a : Action} (h : Guarded s) (hok : s.Orderly a)
    (hstep : step s a = some s') : Guarded s' := by
  cases a with
  | stop r env =>
      cases hstep
      refine ⟨fun _ _ _ => rfl, fun sid => ?_⟩
      show sid ∈ s.core.stoppingSubjectIds ↔ _
      rw [h.ids]
      simp [StopPoint.claims]
  | advance i =>
      obtain ⟨call, hi, heq⟩ := Option.map_eq_some_iff.mp hstep
      rw [← heq]
      obtain ⟨halone, hapart⟩ := hok call hi
      exact guarded_advance h hi halone hapart
  | raise i =>
      obtain ⟨call, hi, hrest⟩ := Option.bind_eq_some_iff.mp hstep
      obtain ⟨next, hraise, heq⟩ := Option.map_eq_some_iff.mp hrest
      rw [← heq]
      exact guarded_raise h hi hraise hok
  | request q =>
      cases hstep
      obtain ⟨hflag, hids⟩ := s.core.sameGuard_request q
      refine ⟨fun call hmem hguards => ?_, fun sid => ?_⟩
      · rw [← h.flag call hmem hguards]
        exact hflag
      · show sid ∈ (s.core.request q).1.stoppingSubjectIds ↔ _
        rw [hids]
        exact h.ids sid

theorem guarded_of_run {c : Core} (h : c.stoppingSubjectIds = ∅) {s : Overlap}
    (hrun : Machine.Run step Orderly { core := c } s) : Guarded s :=
  hrun.invariant (guarded_init h) fun _ _ _ hok hstep hs => guarded_step hs hok hstep

/-! ## The result -/

def InProgress (s : Overlap) : Prop := ∃ call ∈ s.calls, call.inProgress = true

/-- The ids of the stops in progress. -/
def claimedIds (s : Overlap) : Finset String :=
  ((s.calls.filter fun call => call.point.claims).flatMap fun call =>
    call.request.subjectIds).toFinset

theorem mem_claimedIds {s : Overlap} {sid : String} : sid ∈ s.claimedIds ↔
    ∃ call ∈ s.calls, call.point.claims = true ∧ sid ∈ call.request.subjectIds := by
  simp [claimedIds, and_assoc]

/-- The request is rejected, and the state is the same after it. -/
def HoldsOff (s : Overlap) (q : Request) : Prop :=
  s.core.Rejects q ∧ step s (.request q) = some s

theorem Guarded.holdsOff {s : Overlap} (h : Guarded s) (hprogress : s.InProgress) {q : Request}
    (hok : s.Orderly (.request q)) : s.HoldsOff q := by
  have hguard : ∃ call ∈ s.calls, call.point.guards = true := by
    obtain ⟨call, hmem, hcall⟩ := hprogress
    rcases hok with hguard | hdrain
    · exact hguard
    · rw [StopCall.inProgress, hdrain call hmem, Bool.or_false] at hcall
      exact ⟨call, hmem, hcall⟩
  obtain ⟨call, hmem, hcall⟩ := hguard
  have hrejects := Core.rejects_of_pending (h.flag call hmem hcall) q
  refine ⟨hrejects, ?_⟩
  obtain ⟨e, he⟩ := hrejects
  show some { s with core := (s.core.request q).1, sent := s.sent ++ (s.core.request q).2.1 } = _
  rw [he, List.append_nil]

theorem Guarded.stoppingSubjectIds {s : Overlap} (h : Guarded s) :
    s.core.stoppingSubjectIds = s.claimedIds := by
  ext sid
  rw [h.ids, mem_claimedIds]

end Overlap

/-- **Overlapping stops hold off every request** and keep the set of their ids, as long as
none of them takes the flag or an id from another, and no request comes into a drain
emission. -/
theorem guarded_of_orderly {c : Core} (h : c.stoppingSubjectIds = ∅) {s : Overlap}
    (hrun : Machine.Run Overlap.step Overlap.Orderly { core := c } s) :
    (s.InProgress → ∀ q, s.Orderly (.request q) → s.HoldsOff q)
      ∧ s.core.stoppingSubjectIds = s.claimedIds :=
  ⟨fun hprogress _ hok => (Overlap.guarded_of_run h hrun).holdsOff hprogress hok,
    (Overlap.guarded_of_run h hrun).stoppingSubjectIds⟩

/-! ## Two stops -/

def twoStreaming : Core :=
  { subjects := [{ subjectId := "s1", sensors := [{ address := some "AA" }], isStreaming := true },
      { subjectId := "s2", sensors := [{ address := some "BB" }], isStreaming := true }]
    streamPhase := .officialStreaming }

def stopOf (i : Nat) (sid : String) : Overlap.Action :=
  .stop { idxs := [i], generation := 0, subjectIds := [sid], specific := true }
    { physical := .nothing }

/-- Six sections, from the entry of a call to its drain emission. -/
def toDrain (i : Nat) : List Overlap.Action := List.replicate 6 (.advance i)

/-- The second stop enters while the first one drains. -/
theorem guarded_of_orderly_twoStops :
    ∃ s, Machine.Run Overlap.step Overlap.Orderly { core := twoStreaming } s
      ∧ s.claimedIds = {"s1", "s2"} ∧ s.HoldsOff (.disconnectAll false none)
      ∧ s.core.stoppingSubjectIds = s.claimedIds := by
  have hruns : (Machine.execOk Overlap.step Overlap.Orderly { core := twoStreaming }
      (stopOf 0 "s1" :: toDrain 0 ++ [stopOf 1 "s2", .advance 1, .advance 1])).map (fun s =>
        (s.claimedIds, s.calls.map StopCall.inProgress, s.calls.map fun call => call.point.guards))
      = some ({"s1", "s2"}, [true, true], [false, true]) := by decide +kernel
  obtain ⟨s, hs, hfields⟩ := Option.map_eq_some_iff.mp hruns
  simp only [Prod.mk.injEq] at hfields
  obtain ⟨hclaimed, hprogress, hguards⟩ := hfields
  have hrun := Machine.Run.of_execOk _ hs
  have hsome {f : StopCall → Bool} (hmem : true ∈ s.calls.map f) :
      ∃ call ∈ s.calls, f call = true := List.mem_map.mp hmem
  obtain ⟨hholds, hids⟩ := guarded_of_orderly (c := twoStreaming) rfl hrun
  refine ⟨s, hrun, hclaimed, hholds (hsome ?_) _ (.inl (hsome ?_)), hids⟩
  · rw [hprogress]
    decide
  · rw [hguards]
    decide

/-- The first stop takes the flag down while the second one is collecting, and a disconnect
goes through. -/
theorem disconnect_during_stop :
    ¬ ∀ c s, c.stoppingSubjectIds = ∅ → Machine.Reach Overlap.step { core := c } s →
      s.InProgress → ∀ q, s.HoldsOff q := by
  intro hall
  have hruns : (Machine.exec Overlap.step { core := twoStreaming }
      (stopOf 0 "s1" :: stopOf 1 "s2" :: .advance 1 :: .advance 1 :: toDrain 0)).map (fun s =>
        (s.calls.map StopCall.inProgress, (s.core.request (.disconnectAll false none)).2.1))
      = some ([true, true], [.cleanupStarted, .disconnectAll]) := by decide +kernel
  obtain ⟨s, hs, hfields⟩ := Option.map_eq_some_iff.mp hruns
  simp only [Prod.mk.injEq] at hfields
  obtain ⟨hprogress, hsent⟩ := hfields
  have hin : s.InProgress := by
    apply List.mem_map.mp
    rw [hprogress]
    decide
  obtain ⟨e, he⟩ := (hall twoStreaming s rfl (Machine.reach_of_exec _ hs) hin
    (.disconnectAll false none)).1
  rw [he] at hsent
  cases hsent

end NexusN3
