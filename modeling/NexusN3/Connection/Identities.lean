import NexusN3.Connection.Completion
import NexusN3.Connection.SingleFlight

/-!
# Sensor identities are exclusive and verified

`selected` is written by the replies to a discovery, by partial replies and by discoveries
that no sequence has asked for. Only a valid reply enters its subject into `discovered`, and
it is checked against all that is selected for the others.

* **`Move`** — what an operation does to the identities, in one of five ways. `step_moves`
  reads every operation as such moves with at most one new step behind them.
* **`Exclusive`** — the state invariant.
* **`identities_of_reachable`** — the result.
-/

namespace NexusN3.Connection

open Lib

namespace Sequence

/-- The selected addresses of a subject. -/
def addressesOf (s : Sequence) (sid : String) : List String := (s.selected.get? sid).getD []

theorem mem_sortedSet {a : String} {l : List String} : a ∈ sortedSet l ↔ a ∈ l := by
  rw [sortedSet, List.mem_insertionSort, List.mem_dedup]

theorem mem_exclusions {s : Sequence} {sid a : String} :
    a ∈ s.exclusions sid ↔ ∃ owner, owner ≠ sid ∧ a ∈ s.addressesOf owner := by
  rw [exclusions, mem_sortedSet, List.mem_flatMap]
  constructor
  · rintro ⟨⟨owner, addresses⟩, hmem, ha⟩
    obtain ⟨hentry, hne⟩ := List.mem_filter.mp hmem
    refine ⟨owner, of_decide_eq_true hne, ?_⟩
    rw [addressesOf, Dict.get?_eq_some_iff.mpr hentry]
    exact ha
  · rintro ⟨owner, hne, ha⟩
    cases hget : s.selected.get? owner with
    | none =>
        rw [addressesOf, hget] at ha
        cases ha
    | some addresses =>
        rw [addressesOf, hget] at ha
        exact ⟨(owner, addresses), List.mem_filter.mpr
          ⟨Dict.get?_eq_some_iff.mp hget, decide_eq_true hne⟩, ha⟩

/-! ## Moves -/

/-- Nothing new is known: identities are taken back at most, and those of the subjects still
discovered are kept. No step is dispatched. -/
structure Less (s t : Sequence) : Prop where
  subjects : t.subjects = s.subjects
  pending : t.pending = s.pending ∨ t.pending = none
  selected : ∀ sid ∈ t.discovered, t.selected.get? sid = s.selected.get? sid
  completed : t.completed ⊆ s.completed
  discovered : t.discovered ⊆ s.discovered
  log : ∃ added, t.log = s.log ++ added ∧ ∀ c, .dispatched c ∉ added

/-- What an operation does to the identities. `verified` are the subjects it may complete. -/
inductive Move (verified : Subject → Prop) (s : Sequence) : Sequence → Prop where
  | less {t : Sequence} (h : Less s t) : Move verified s t
  | kept (p : Pending) (addresses : List String) (hp : s.pending = some p)
      (hop : p.operation = .discovering) :
      Move verified s { s with selected := s.selected.set p.subject.subjectId addresses }
  | found (p : Pending) (complete : Bool) (addresses : List String) (hp : s.pending = some p)
      (hvalid : s.discoveryValid p complete addresses = true) :
      Move verified s { s with
        selected := s.selected.set p.subject.subjectId addresses
        discovered := insert p.subject.subjectId s.discovered }.letGo
  | done (subject : Subject) (h : verified subject) :
      Move verified s { s with completed := insert subject.subjectId s.completed }
  | configured (subjects : List Subject) (hids : (subjects.map Subject.subjectId).Nodup) :
      Move verified s (s.configure subjects)

abbrev Moves (verified : Subject → Prop) : Sequence → Sequence → Prop :=
  Relation.ReflTransGen (Move verified)

/-- A step may begin for a configured subject, discovering it only if it is not discovered. -/
def MayBegin (s : Sequence) (subject : Subject) (operation : Operation) : Prop :=
  subject ∈ s.subjects ∧ (operation = .discovering → subject.subjectId ∉ s.discovered)

/-- Moves, and at most one new step behind them. -/
def Proceeds (verified : Subject → Prop) (s s' : Sequence) : Prop :=
  ∃ r, Moves verified s r ∧ (s' = r ∨ ∃ env subject operation,
    MayBegin r subject operation ∧ s' = r.beginStep env subject operation)

theorem Less.refl (s : Sequence) : Less s s :=
  ⟨rfl, .inl rfl, fun _ _ => rfl, subset_rfl, subset_rfl, [], by simp, by simp⟩

theorem Less.trans {s r t : Sequence} (h1 : Less s r) (h2 : Less r t) : Less s t where
  subjects := h2.subjects.trans h1.subjects
  pending := by
    rcases h2.pending with h | h
    · rw [h]
      exact h1.pending
    · exact .inr h
  selected := fun sid hsid => (h2.selected sid hsid).trans (h1.selected sid (h2.discovered hsid))
  completed := h2.completed.trans h1.completed
  discovered := h2.discovered.trans h1.discovered
  log := by
    obtain ⟨added1, hlog1, hnone1⟩ := h1.log
    obtain ⟨added2, hlog2, hnone2⟩ := h2.log
    refine ⟨added1 ++ added2, by rw [hlog2, hlog1, List.append_assoc], fun c hc => ?_⟩
    rcases List.mem_append.mp hc with hc | hc
    · exact hnone1 c hc
    · exact hnone2 c hc

/-- Other fields. -/
theorem Less.of_same {s t : Sequence} (hsubjects : t.subjects = s.subjects)
    (hpending : t.pending = s.pending) (hselected : t.selected = s.selected)
    (hcompleted : t.completed = s.completed) (hdiscovered : t.discovered = s.discovered)
    (hlog : t.log = s.log) : Less s t :=
  ⟨hsubjects, .inl hpending, fun _ _ => by rw [hselected], hcompleted.subset, hdiscovered.subset,
    [], by simp [hlog], by simp⟩

theorem less_note (s : Sequence) {e : Entry} (he : ∀ c, e ≠ .dispatched c) : Less s (s.note e) :=
  ⟨rfl, .inl rfl, fun _ _ => rfl, subset_rfl, subset_rfl, [e], rfl, fun c hc =>
    he c (List.mem_singleton.mp hc).symm⟩

theorem less_progress (s : Sequence) (phase : Phase) (subject : Option Subject)
    (skipped : Bool) (failure : Option Failure) :
    Less s (s.progress phase subject skipped failure) :=
  s.less_note fun c hc => by cases hc

theorem less_letGo (s : Sequence) : Less s s.letGo := by
  unfold letGo
  split
  · have hgone : Less s { s with pending := none } :=
      ⟨rfl, .inr rfl, fun _ _ => rfl, subset_rfl, subset_rfl, [], by simp, by simp⟩
    exact hgone.trans (less_note _ fun c hc => by cases hc)
  · exact .refl s

theorem less_fail (s : Sequence) (message : Json) (subject : Option Subject)
    (operation : Option Operation) : Less s (s.fail message subject operation) := by
  have hended : Less s { s.cancelTimer with active := false } :=
    .of_same rfl rfl rfl rfl rfl rfl
  exact hended.trans (less_progress _ _ _ _ _)

theorem less_failIfActive (s : Sequence) (message : Json) : Less s (s.failIfActive message) := by
  unfold failIfActive
  split
  · exact s.less_fail message none none
  · exact .refl s

theorem less_ended (s : Sequence) (message : Json) : Less s (s.failIfActive message).letGo :=
  (s.less_failIfActive message).trans (less_letGo _)

theorem less_identifySubject (s : Sequence) (env : Env) (subject : Subject) :
    Less s (s.identifySubject env subject) := by
  have hconnected := s.less_progress .subjectConnected (some subject) false none
  have hidentified (node sid id : String) (q : Option String) (r : Json) :=
    hconnected.trans (less_note _ (e := .identify node sid id q r) fun c hc => by cases hc)
  unfold identifySubject
  simp only
  split
  · exact hidentified _ _ _ _ _
  · exact (hidentified _ _ _ _ _).trans (less_note _ fun c hc => by cases hc)

/-- A completed Reset takes back the subjects of its node. -/
theorem less_retire (s : Sequence) (sid : String) : Less s (s.retire sid) where
  subjects := rfl
  pending := .inl rfl
  selected := fun k hk => by
    have hne : k ≠ sid := (Finset.mem_erase.mp hk).1
    show (s.selected.restrict fun k => k ≠ sid).get? k = _
    rw [Dict.get?_restrict, if_pos (decide_eq_true hne)]
  completed := Finset.erase_subset _ _
  discovered := Finset.erase_subset _ _
  log := ⟨[], by simp [retire], by simp⟩

theorem less_onReset (s : Sequence) (node : Json) : Less s (s.onReset node) := by
  have hretired : ∀ (subjects : List Subject) (s : Sequence), Less s (subjects.foldl
      (fun s subject => if node.isText subject.nodeId then s.retire subject.subjectId else s)
      s) := by
    intro subjects
    induction subjects with
    | nil => exact .refl
    | cons subject rest ih =>
        intro s
        simp only [List.foldl_cons]
        split
        · exact (s.less_retire subject.subjectId).trans (ih _)
        · exact ih s
  unfold onReset
  simp only
  split
  · split
    · exact (hretired s.subjects s).trans (less_ended _ _)
    · exact hretired s.subjects s
  · exact hretired s.subjects s

theorem less_loseSensors (lost : List String) (items : List (String × List String))
    (s : Sequence) : Less s (loseSensors lost s items) := by
  induction items generalizing s with
  | nil => exact .refl s
  | cons item rest ih =>
      obtain ⟨sid, addresses⟩ := item
      have hdropped : Less s { s with completed := s.completed.erase sid } :=
        ⟨rfl, .inl rfl, fun _ _ => rfl, Finset.erase_subset _ _, subset_rfl, [], by simp,
          by simp⟩
      unfold loseSensors
      split
      · simp only
        split
        · split
          · exact (hdropped.trans (less_fail _ _ _ _)).trans (ih _)
          · exact hdropped
        · exact hdropped.trans (ih _)
      · exact ih s

section Payloads

variable {str : Json → String} {upper : String → String}

theorem less_forgetDiscoveries (results : List Json) (s : Sequence) :
    Less s (forgetDiscoveries str upper s results).1 := by
  induction results generalizing s with
  | nil => exact .refl s
  | cons result rest ih =>
      unfold forgetDiscoveries
      split
      · exact .refl s
      · simp only
        split
        · exact ih s
        · rename_i subject _
          have hforgot : Less s { s with
              completed := s.completed.erase subject.subjectId
              discovered := s.discovered.erase subject.subjectId } :=
            ⟨rfl, .inl rfl, fun _ _ => rfl, Finset.erase_subset _ _, Finset.erase_subset _ _,
              [], by simp, by simp⟩
          split
          · exact hforgot
          · rename_i addresses _
            -- what is written is the selection of a subject no longer discovered
            have hwritten : Less s { s with
                selected := s.selected.set subject.subjectId addresses
                completed := s.completed.erase subject.subjectId
                discovered := s.discovered.erase subject.subjectId } :=
              ⟨rfl, .inl rfl, fun sid hsid => Dict.get?_set_ne _ _
                  (Finset.mem_erase.mp hsid).1.symm, Finset.erase_subset _ _,
                Finset.erase_subset _ _, [], by simp, by simp⟩
            exact hwritten.trans (ih _)

theorem less_forgetLegacy (s : Sequence) (event payload : List (String × Json)) :
    Less s (s.forgetLegacy str upper event payload).1 := by
  unfold forgetLegacy
  split
  · split
    · exact .refl s
    · exact less_forgetDiscoveries _ s
  · exact .refl s

/-! ## Operations as moves -/

variable {verified : Subject → Prop}

theorem Less.proceeds {s t : Sequence} (h : Less s t) : Proceeds verified s t :=
  ⟨t, .single (.less h), .inl rfl⟩

theorem Proceeds.after {s r t : Sequence} (h1 : Moves verified s r)
    (h2 : Proceeds verified r t) : Proceeds verified s t := by
  obtain ⟨q, hmoves, hlast⟩ := h2
  exact ⟨q, h1.trans hmoves, hlast⟩

/-- Walking on over the configured subjects that are left. Induction on what is left. -/
theorem proceeds_nextSubject (env : Env) (rest : List Subject) (s : Sequence)
    (hrest : ∀ subject ∈ rest, subject ∈ s.subjects) :
    Proceeds verified s (s.nextSubject env rest) := by
  induction rest generalizing s with
  | nil =>
      have hended : Less s { s with active := false } := .of_same rfl rfl rfl rfl rfl rfl
      exact (hended.trans (less_progress _ _ _ _ _)).proceeds
  | cons subject rest ih =>
      unfold nextSubject
      split
      · have hskipped : Less s { s.progress .subjectConnected (some subject) true none with
            index := s.index + 1 } :=
          (s.less_progress .subjectConnected (some subject) true none).trans
            (.of_same rfl rfl rfl rfl rfl rfl)
        exact Proceeds.after (.single (.less hskipped))
          (ih _ fun other hmem => hrest other (List.mem_cons_of_mem _ hmem))
      · refine ⟨s, .refl, .inr ⟨env, subject, _, ⟨hrest subject (List.mem_cons_self ..), ?_⟩,
          rfl⟩⟩
        intro hop hin
        rw [if_pos hin] at hop
        cases hop

theorem proceeds_start (s : Sequence) (env : Env) (correlationId : Json) :
    Proceeds verified s (s.start env correlationId) := by
  unfold start
  split
  · exact (s.less_note fun c hc => by cases hc).proceeds
  · split
    · exact (Less.refl s).proceeds
    · have hset : Less s { s with
          correlationId := if correlationId.truthy then correlationId else .str env.correlationId
          sequenceId := some env.sequenceId
          active := true
          index := 0 } := .of_same rfl rfl rfl rfl rfl rfl
      exact Proceeds.after (.single (.less hset))
        (proceeds_nextSubject env _ _ fun subject hmem => List.mem_of_mem_drop hmem)

theorem proceeds_expired (s : Sequence) (token : String) :
    Proceeds verified s (s.expired token) := by
  unfold expired
  split
  · split
    · exact (s.less_fail _ none none).proceeds
    · exact (Less.refl s).proceeds
  · exact (Less.refl s).proceeds

/-- The pending step is for a configured subject, not yet discovered while it discovers. -/
def Pends (s : Sequence) : Prop :=
  ∀ p, s.pending = some p → MayBegin s p.subject p.operation

theorem proceeds_onDiscovered {s : Sequence} (hpends : Pends s) (env : Env) {p : Pending}
    (hp : s.pending = some p) (complete : Bool) (addresses : List String) :
    Proceeds verified s (s.onDiscovered env p complete addresses) := by
  unfold onDiscovered
  split
  · rename_i hvalid
    have hfound : Relation.ReflTransGen (Move verified) s _ :=
      .single (.found p complete addresses hp hvalid)
    simp only
    split
    · refine ⟨_, hfound, .inr ⟨env, p.subject, .connecting, ⟨?_, fun hop => by cases hop⟩, rfl⟩⟩
      rw [(letGo_data _).1]
      exact (hpends p hp).1
    · exact ⟨_, hfound, .inl rfl⟩
  · exact (s.less_ended _).proceeds

theorem proceeds_subjectDone {s : Sequence} (env : Env) {subject : Subject}
    (hverified : verified subject) : Proceeds verified s (s.subjectDone env subject) := by
  have hdone := Relation.ReflTransGen.single (Move.done (s := s) subject hverified)
  have hgone := hdone.tail (.less (less_letGo _))
  unfold subjectDone
  simp only
  split
  · set t := { s with completed := insert subject.subjectId s.completed }.letGo
    have hmoved : Less t { t.identifySubject env subject with
        index := (t.identifySubject env subject).index + 1 } :=
      (t.less_identifySubject env subject).trans (.of_same rfl rfl rfl rfl rfl rfl)
    exact Proceeds.after (hgone.tail (.less hmoved))
      (proceeds_nextSubject env _ _ fun other hmem => List.mem_of_mem_drop hmem)
  · exact ⟨_, hgone, .inl rfl⟩

/-! ## A verified reply -/

variable (str upper)

/-- The sensors of a reply are those selected for the subject: each address once, all of
them set up, and each at the location that stands where the address does. -/
structure Matches (s : Sequence) (subject : Subject) (sensors : List (List (String × Json))) :
    Prop where
  once : (sensors.map (addressOf str upper)).Nodup
  selected : ∀ a, a ∈ sensors.map (addressOf str upper) ↔ a ∈ s.addressesOf subject.subjectId
  count : sensors.length = subject.locations.length
  /-- The location at the position of each selected address. -/
  placed : ∀ (i : Nat) a location, (s.addressesOf subject.subjectId)[i]? = some a →
    subject.locations[i]? = some location →
      ∃ sensor ∈ sensors, placeOf str upper sensor = some (a, some location)
  /-- And no sensor is anywhere else. -/
  position : ∀ sensor ∈ sensors, ∃ (i : Nat) (a : String) (location : Option String),
    (s.addressesOf subject.subjectId)[i]? = some a ∧ subject.locations[i]? = some location
      ∧ placeOf str upper sensor = some (a, some location)
  connected : ∀ sensor ∈ sensors, Json.get sensor "status" = .str "CONNECTED"
    ∧ Json.get sensor "setup_complete" = .bool true

/-- The action is the reply to the pending connection of the subject, and what it reports
matches. -/
def Verified (s : Sequence) (a : Action) (subject : Subject) : Prop :=
  ∃ env event payload p result sensors,
    a = .event env (.obj event) ∧ Json.get event "payload" = .obj payload
      ∧ Answers s event payload p ∧ Json.get event "type" = .str evtSensorConnected
      ∧ p.operation = .connecting ∧ p.subject = subject
      ∧ Json.get payload "operation_complete" = .bool true
      ∧ resultsOf payload subject.subjectId = some [result]
      ∧ connectedSensors [result] = some sensors
      ∧ Matches str upper s subject sensors

variable {str upper}

/-- A loop that fails on no item gives a value for each, and nothing else. -/
theorem mem_of_mapM {α β : Type} {f : α → Option β} {l : List α} {l' : List β}
    (h : l.mapM f = some l') :
    (∀ x ∈ l, ∃ y ∈ l', f x = some y) ∧ ∀ y ∈ l', ∃ x ∈ l, f x = some y := by
  induction l generalizing l' with
  | nil =>
      rw [List.mapM_nil] at h
      cases h
      exact ⟨fun _ hx => absurd hx List.not_mem_nil, fun _ hy => absurd hy List.not_mem_nil⟩
  | cons x rest ih =>
      rw [List.mapM_cons] at h
      obtain ⟨y, hy, h⟩ := Option.bind_eq_some_iff.mp h
      obtain ⟨ys, hys, h⟩ := Option.bind_eq_some_iff.mp h
      cases h
      obtain ⟨hsome, hfrom⟩ := ih hys
      constructor
      · intro z hz
        rcases List.mem_cons.mp hz with rfl | hz
        · exact ⟨y, List.mem_cons_self .., hy⟩
        · obtain ⟨w, hw, heq⟩ := hsome z hz
          exact ⟨w, List.mem_cons_of_mem _ hw, heq⟩
      · intro w hw
        rcases List.mem_cons.mp hw with rfl | hw
        · exact ⟨x, List.mem_cons_self .., hy⟩
        · obtain ⟨z, hz, heq⟩ := hfrom w hw
          exact ⟨z, List.mem_cons_of_mem _ hz, heq⟩

theorem mem_selectedPlaces {s : Sequence} {subject : Subject}
    {place : String × Option (Option String)} : place ∈ s.selectedPlaces subject ↔
      ∃ (i : Nat) (a : String) (location : Option String),
        (s.addressesOf subject.subjectId)[i]? = some a ∧ subject.locations[i]? = some location
          ∧ place = (a, some location) := by
  rw [selectedPlaces, List.mem_map]
  constructor
  · rintro ⟨⟨a, location⟩, hmem, rfl⟩
    obtain ⟨i, hi⟩ := List.mem_iff_getElem?.mp hmem
    obtain ⟨ha, hlocation⟩ := List.getElem?_zip_eq_some.mp hi
    exact ⟨i, a, location, ha, hlocation, rfl⟩
  · rintro ⟨i, a, location, ha, hlocation, rfl⟩
    exact ⟨(a, location), List.mem_iff_getElem?.mpr
      ⟨i, List.getElem?_zip_eq_some.mpr ⟨ha, hlocation⟩⟩, rfl⟩

theorem matches_of_valid {s : Sequence} {p : Pending} {complete : Bool}
    {sensors : List (List (String × Json))} {places : List (String × Option (Option String))}
    (hshape : s.connectionShape str upper p complete sensors = true)
    (hplaces : sensors.mapM (placeOf str upper) = some places)
    (hperm : places.Perm (s.selectedPlaces p.subject)) (hall : sensors.all isConnected = true) :
    Matches str upper s p.subject sensors := by
  simp only [connectionShape, Bool.and_eq_true, decide_eq_true_eq, List.length_map] at hshape
  obtain ⟨⟨⟨-, hcount⟩, honce⟩, hset⟩ := hshape
  obtain ⟨hsome, hfrom⟩ := mem_of_mapM hplaces
  exact
    { once := honce
      selected := fun a => by
        have := Finset.ext_iff.mp hset a
        rwa [List.mem_toFinset, List.mem_toFinset] at this
      count := hcount
      -- equal counters: each selected place is reported, each reported place is selected
      placed := fun i a location ha hlocation => by
        have hmem : (a, some location) ∈ places :=
          hperm.mem_iff.mpr (mem_selectedPlaces.mpr ⟨i, a, location, ha, hlocation, rfl⟩)
        exact hfrom _ hmem
      position := fun sensor hsensor => by
        obtain ⟨place, hmem, hplace⟩ := hsome sensor hsensor
        obtain ⟨i, a, location, ha, hlocation, heq⟩ :=
          mem_selectedPlaces.mp (hperm.mem_iff.mp hmem)
        exact ⟨i, a, location, ha, hlocation, by rw [hplace, heq]⟩
      connected := fun sensor hsensor => by
        have hsensor := List.all_eq_true.mp hall sensor hsensor
        rw [isConnected, Bool.and_eq_true, Json.isText_iff, Json.isTrue_iff] at hsensor
        exact hsensor }

/-- A late reply to a connection verifies its subject like a timely one. -/
theorem proceeds_onConnected {s : Sequence} (env : Env) {p : Pending} {complete : Bool}
    {sensors : List (List (String × Json))}
    (hverified : complete = true → Matches str upper s p.subject sensors →
      verified p.subject) :
    Proceeds verified s (s.onConnected str upper env p complete sensors) := by
  unfold onConnected
  split
  · rename_i hshape
    split
    · exact (Less.refl s).proceeds
    · rename_i places hplaces
      split
      · rename_i hvalid
        refine proceeds_subjectDone env (hverified ?_
          (matches_of_valid hshape hplaces hvalid.1 hvalid.2))
        simp only [connectionShape, Bool.and_eq_true] at hshape
        exact hshape.1.1.1
      · exact (s.less_ended _).proceeds
  · exact (s.less_ended _).proceeds

/-- The reply to a discovery. A partial selection is kept before the reply is judged. -/
theorem proceeds_discoveryReply {s : Sequence} (hpends : Pends s) (env : Env) {p : Pending}
    (hp : s.pending = some p) (hop : p.operation = .discovering) (isError : Bool)
    (payload : List (String × Json)) :
    Proceeds verified s (s.onReply str upper env p isError payload) := by
  have hoff : Less s s.cancelTimer := .of_same rfl rfl rfl rfl rfl rfl
  unfold onReply
  simp only [hop]
  split
  · exact hoff.proceeds
  · rename_i reported _
    have hkept : Moves verified s (s.cancelTimer.keepSelected p reported)
        ∧ (s.cancelTimer.keepSelected p reported).pending = s.pending
        ∧ Pends (s.cancelTimer.keepSelected p reported) := by
      unfold keepSelected
      split
      · exact ⟨.tail (.single (.less hoff)) (.kept p reported hp hop), rfl, hpends⟩
      · exact ⟨.single (.less hoff), rfl, hpends⟩
    obtain ⟨hmoves, hpending, hpends'⟩ := hkept
    rw [hp] at hpending
    split
    · exact Proceeds.after hmoves (less_ended _ _).proceeds
    · split
      · exact ⟨_, hmoves, .inl rfl⟩
      · split
        · exact ⟨_, hmoves, .inl rfl⟩
        · exact Proceeds.after hmoves (proceeds_onDiscovered hpends' env hpending _ _)

/-- The reply to a connection. Nothing is selected by it. -/
theorem proceeds_connectionReply {s : Sequence} (env : Env) {p : Pending}
    (hop : p.operation = .connecting) (isError : Bool) (payload : List (String × Json))
    (hverified : isError = false → ∀ result sensors,
      resultsOf payload p.subject.subjectId = some [result] →
        connectedSensors [result] = some sensors →
          Json.get payload "operation_complete" = .bool true →
            Matches str upper s p.subject sensors → verified p.subject) :
    Proceeds verified s (s.onReply str upper env p isError payload) := by
  have hoff : Less s s.cancelTimer := .of_same rfl rfl rfl rfl rfl rfl
  -- `selected` is written for discoveries only
  have hkeep (reported : List String) : s.cancelTimer.keepSelected p reported
      = s.cancelTimer := by
    unfold keepSelected
    rw [if_neg (fun h => by rw [hop] at h; cases h.2)]
  unfold onReply
  simp only [hop, hkeep]
  split
  · exact hoff.proceeds
  · split
    · exact Proceeds.after (.single (.less hoff)) (less_ended _ _).proceeds
    · rename_i herror
      split
      · exact hoff.proceeds
      · rename_i results hresults
        split
        · exact hoff.proceeds
        · rename_i sensors hsensors
          refine Proceeds.after (.single (.less hoff)) (proceeds_onConnected env ?_)
          intro hcomplete hmatches
          rw [Bool.and_eq_true, decide_eq_true_eq, Json.isTrue_iff] at hcomplete
          obtain ⟨result, rfl⟩ := List.length_eq_one_iff.mp hcomplete.1
          exact hverified (by simpa using herror) result sensors hresults hsensors
            hcomplete.2 { hmatches with }

theorem Less.pends {s t : Sequence} (h : Less s t) (hpends : Pends s) : Pends t := by
  intro p hp
  rcases h.pending with heq | hnone
  · obtain ⟨hmem, hout⟩ := hpends p (heq ▸ hp)
    exact ⟨h.subjects ▸ hmem, fun hop hin => hout hop (h.discovered hin)⟩
  · rw [hnone] at hp
    cases hp

theorem proceeds_onPayload {s : Sequence} (hpends : Pends s) (env : Env)
    (event payload : List (String × Json)) (hpayload : Json.get event "payload" = .obj payload) :
    Proceeds (Verified str upper s (.event env (.obj event))) s
      (s.onPayload str upper env event payload) := by
  unfold onPayload
  simp only
  split
  · exact (s.less_failIfActive _).proceeds
  · split
    · split
      · exact (s.less_onReset _).proceeds
      · exact (Less.refl s).proceeds
    · split
      · split
        · exact (Less.refl s).proceeds
        · exact (less_loseSensors _ _ s).proceeds
      · have hforgot : Less s (s.forgetLegacy str upper event payload).1 :=
          s.less_forgetLegacy event payload
        split
        · split
          · exact hforgot.proceeds
          · rename_i p hreplied
            have hanswers := repliedStep_eq_some hreplied
            refine Proceeds.after (.single (.less hforgot)) ?_
            cases hop : p.operation with
            | discovering =>
                exact proceeds_discoveryReply (hforgot.pends hpends) env hanswers.pending hop _ _
            | connecting =>
                refine proceeds_connectionReply env hop _ _ fun herror result sensors hresults
                  hsensors hcomplete hmatches => ?_
                have hkind : Json.get event "type" = .str evtSensorConnected := by
                  rcases hanswers.kind with hkind | hkind
                  · rw [hkind] at herror
                    cases herror
                  · rw [hkind, hop]
                    rfl
                -- a connection is no discovery, so nothing was forgotten
                have hsame : (s.forgetLegacy str upper event payload).1 = s := by
                  rw [forgetLegacy, isLegacyDiscovery, hkind]
                  rfl
                rw [hsame] at hanswers hmatches
                exact ⟨env, event, payload, p, result, sensors, rfl, hpayload, hanswers, hkind,
                  hop, rfl, hcomplete, hresults, hsensors, hmatches⟩
        · exact hforgot.proceeds

theorem proceeds_onEvent {s : Sequence} (hpends : Pends s) (env : Env) (event : Json) :
    Proceeds (Verified str upper s (.event env event)) s (s.onEvent str upper env event) := by
  unfold onEvent
  split
  · exact (Less.refl s).proceeds
  · rename_i fields hfields
    have hevent : event = .obj fields := by
      cases event with
      | obj f => cases hfields; rfl
      | _ => cases hfields
    split
    · exact (Less.refl s).proceeds
    · rename_i payload hdict
      have hpayload : Json.get fields "payload" = .obj payload := by
        cases hvalue : Json.get fields "payload" with
        | obj f => rw [hvalue] at hdict; cases hdict; rfl
        | _ => rw [hvalue] at hdict; cases hdict
      rw [hevent]
      exact proceeds_onPayload hpends env fields payload hpayload

/-- The subjects of a configuration have distinct ids. -/
def distinctIds : Action → Prop
  | .configure subjects => (subjects.map Subject.subjectId).Nodup
  | _ => True

instance : DecidablePred distinctIds
  | .configure subjects => inferInstanceAs (Decidable (subjects.map Subject.subjectId).Nodup)
  | .start _ _ | .expired _ | .event _ _ => isTrue trivial

/-- **What an operation does to the identities.** -/
theorem step_proceeds {s s' : Sequence} {a : Action} (hpends : Pends s) (hids : distinctIds a)
    (hstep : step str upper s a = some s') : Proceeds (Verified str upper s a) s s' := by
  cases a with
  | configure subjects =>
      cases hstep
      exact ⟨_, .single (.configured subjects hids), .inl rfl⟩
  | start env correlationId =>
      unfold step at hstep
      simp only [Option.ite_none_right_eq_some] at hstep
      obtain ⟨-, hstep⟩ := hstep
      cases hstep
      exact s.proceeds_start env correlationId
  | expired token =>
      cases hstep
      exact s.proceeds_expired token
  | event env event =>
      cases hstep
      exact proceeds_onEvent hpends env event

end Payloads

/-! ## The invariant -/

/-- As many addresses as the subject has locations, distinct and none empty. -/
structure Fits (addresses : List String) (subject : Subject) : Prop where
  count : addresses.length = subject.locations.length
  nodup : addresses.Nodup
  present : ∀ a ∈ addresses, a ≠ ""

structure Exclusive (s : Sequence) : Prop where
  ids : s.subjectIds.Nodup
  pends : Pends s
  known : ∀ sid ∈ s.discovered, ∃ subject ∈ s.subjects, subject.subjectId = sid
    ∧ Fits (s.addressesOf sid) subject
  disjoint : ∀ i ∈ s.discovered, ∀ j ∈ s.discovered, i ≠ j →
    List.Disjoint (s.addressesOf i) (s.addressesOf j)

theorem exclusive_init : Exclusive {} where
  ids := List.nodup_nil
  pends := fun _ hp => by cases hp
  known := fun _ h => absurd h (Finset.notMem_empty _)
  disjoint := fun _ h => absurd h (Finset.notMem_empty _)

theorem Less.exclusive {s t : Sequence} (h : Less s t) (hs : Exclusive s) : Exclusive t := by
  have haddresses {sid : String} (hin : sid ∈ t.discovered) :
      t.addressesOf sid = s.addressesOf sid := by
    rw [addressesOf, h.selected sid hin]
    rfl
  exact
    { ids := by
        rw [subjectIds, h.subjects]
        exact hs.ids
      pends := h.pends hs.pends
      known := fun sid hin => by
        rw [haddresses hin, h.subjects]
        exact hs.known sid (h.discovered hin)
      disjoint := fun i hi j hj hne => by
        rw [haddresses hi, haddresses hj]
        exact hs.disjoint i (h.discovered hi) j (h.discovered hj) hne }

theorem addressesOf_set (s : Sequence) (sid k : String) (addresses : List String) :
    { s with selected := s.selected.set sid addresses }.addressesOf k
      = if sid = k then addresses else s.addressesOf k := by
  show ((s.selected.set sid addresses).get? k).getD [] = _
  rw [Dict.get?_set]
  split
  · rfl
  · rfl

/-- A selection for a subject that is not discovered. -/
theorem Exclusive.kept {s : Sequence} (h : Exclusive s) {p : Pending} (addresses : List String)
    (hp : s.pending = some p) (hop : p.operation = .discovering) :
    Exclusive { s with selected := s.selected.set p.subject.subjectId addresses } := by
  have hout := (h.pends p hp).2 hop
  refine Less.exclusive ?_ h
  exact ⟨rfl, .inl rfl, fun sid hin => Dict.get?_set_ne _ _ (fun heq => hout (heq ▸ hin)),
    subset_rfl, subset_rfl, [], by simp, by simp⟩

/-- The addresses of a valid discovery are nobody else's. -/
theorem discoveryValid_disjoint {s : Sequence} {p : Pending} {complete : Bool}
    {addresses : List String} (h : s.discoveryValid p complete addresses = true) :
    Fits addresses p.subject ∧ ∀ owner, owner ≠ p.subject.subjectId →
      List.Disjoint addresses (s.addressesOf owner) := by
  simp only [discoveryValid, Bool.and_eq_true, decide_eq_true_eq, List.all_eq_true] at h
  obtain ⟨⟨⟨⟨-, hcount⟩, hpresent⟩, hnodup⟩, hfree⟩ := h
  refine ⟨⟨hcount, hnodup, hpresent⟩, fun owner hne a ha hother => ?_⟩
  exact hfree a ha (mem_exclusions.mpr ⟨owner, hne, hother⟩)

theorem Exclusive.found {s : Sequence} (h : Exclusive s) {p : Pending} {complete : Bool}
    {addresses : List String} (hp : s.pending = some p)
    (hvalid : s.discoveryValid p complete addresses = true) :
    Exclusive { s with
      selected := s.selected.set p.subject.subjectId addresses
      discovered := insert p.subject.subjectId s.discovered }.letGo := by
  obtain ⟨hfits, hfree⟩ := discoveryValid_disjoint hvalid
  have hmem := (h.pends p hp).1
  -- the same entries in a state that waits for nothing
  have hgone : Exclusive { s with
      selected := s.selected.set p.subject.subjectId addresses
      discovered := insert p.subject.subjectId s.discovered
      pending := none } := by
    have haddresses (k : String) : { s with
        selected := s.selected.set p.subject.subjectId addresses
        discovered := insert p.subject.subjectId s.discovered
        pending := none }.addressesOf k
        = if p.subject.subjectId = k then addresses else s.addressesOf k :=
      s.addressesOf_set p.subject.subjectId k addresses
    have hknown {sid : String} (hin : sid ∈ insert p.subject.subjectId s.discovered)
        (hne : p.subject.subjectId ≠ sid) : sid ∈ s.discovered :=
      (Finset.mem_insert.mp hin).resolve_left fun heq => hne heq.symm
    refine ⟨h.ids, fun _ hnone => (by cases hnone), fun sid hin => ?_, fun i hi j hj hne => ?_⟩
    · rw [haddresses]
      split
      · rename_i heq
        exact ⟨p.subject, hmem, heq, hfits⟩
      · rename_i hne
        exact h.known sid (hknown hin hne)
    · rw [haddresses, haddresses]
      split
      · rename_i heq
        rw [if_neg (fun heq' => hne (heq.symm.trans heq'))]
        exact hfree j fun heq' => hne (heq.symm.trans heq'.symm)
      · rename_i hi'
        split
        · exact (hfree i fun heq => hi' heq.symm).symm
        · rename_i hj'
          exact h.disjoint i (hknown hi hi') j (hknown hj hj') hne
  refine Less.exclusive ?_ hgone
  unfold letGo
  simp only [hp]
  exact less_note _ fun c hc => by cases hc

/-- A step begins: the identities stay, and what is dispatched tells of them. -/
structure Begun (s : Sequence) (subject : Subject) (operation : Operation) (t : Sequence) :
    Prop where
  subjects : t.subjects = s.subjects
  selected : t.selected = s.selected
  completed : t.completed = s.completed
  discovered : t.discovered = s.discovered
  pending : ∀ p, t.pending = some p → p.subject = subject ∧ p.operation = operation
  log : ∃ added, t.log = s.log ++ added ∧ ∀ c, .dispatched c ∈ added →
    c.subjectId = subject.subjectId ∧ c.operation = operation
      ∧ (operation = .discovering → c.addresses = s.exclusions subject.subjectId)

theorem Begun.less {s t u : Sequence} {subject : Subject} {operation : Operation}
    (h : Begun s subject operation t) (hless : Less t u) (hselected : u.selected = t.selected)
    (hcompleted : u.completed = t.completed) (hdiscovered : u.discovered = t.discovered) :
    Begun s subject operation u where
  subjects := hless.subjects.trans h.subjects
  selected := hselected.trans h.selected
  completed := hcompleted.trans h.completed
  discovered := hdiscovered.trans h.discovered
  pending := fun p hp => by
    rcases hless.pending with heq | hnone
    · exact h.pending p (heq ▸ hp)
    · rw [hnone] at hp
      cases hp
  log := by
    obtain ⟨added1, hlog1, hadded1⟩ := h.log
    obtain ⟨added2, hlog2, hnone2⟩ := hless.log
    refine ⟨added1 ++ added2, by rw [hlog2, hlog1, List.append_assoc], fun c hc => ?_⟩
    rcases List.mem_append.mp hc with hc | hc
    · exact hadded1 c hc
    · exact absurd hc (hnone2 c)

/-- The step itself is noted. -/
theorem Begun.dispatched {s t : Sequence} {subject : Subject} {operation : Operation}
    (h : Begun s subject operation t) (c : StepCommand) (hsid : c.subjectId = subject.subjectId)
    (hop : c.operation = operation)
    (haddresses : operation = .discovering → c.addresses = s.exclusions subject.subjectId) :
    Begun s subject operation (t.note (.dispatched c)) := by
  obtain ⟨added, hlog, hadded⟩ := h.log
  refine ⟨h.subjects, h.selected, h.completed, h.discovered, h.pending,
    added ++ [.dispatched c], ?_, fun c' hc' => ?_⟩
  · rw [← List.append_assoc, ← hlog]
    rfl
  · rcases List.mem_append.mp hc' with hc' | hc'
    · exact hadded c' hc'
    · cases List.mem_singleton.mp hc'
      exact ⟨hsid, hop, haddresses⟩

theorem letGo_identities (s : Sequence) : s.letGo.selected = s.selected
    ∧ s.letGo.completed = s.completed ∧ s.letGo.discovered = s.discovered := by
  unfold letGo
  split <;> exact ⟨rfl, rfl, rfl⟩

theorem begun_beginStep (s : Sequence) (env : Env) (subject : Subject) (operation : Operation) :
    Begun s subject operation (s.beginStep env subject operation) := by
  have hpending : Begun s subject operation { s with
      pending := some ⟨env.token, subject, operation⟩ } :=
    ⟨rfl, rfl, rfl, rfl, fun p hp => (by cases hp; exact ⟨rfl, rfl⟩), [], by simp, by simp⟩
  have hprogress := hpending.less (less_progress _ operation.phase (some subject) false none)
    rfl rfl rfl
  unfold beginStep
  simp only
  split
  · exact hprogress
  · rename_i addresses haddresses
    have htimer := hprogress.less (u := { { s with
      pending := some ⟨env.token, subject, operation⟩ }.progress operation.phase (some subject)
        false none with timer := some env.token }) (.of_same rfl rfl rfl rfl rfl rfl) rfl rfl rfl
    -- a connect command carries the selected addresses, as they were just read
    have hdispatched := htimer.dispatched
      { nodeId := subject.nodeId
        operation
        token := env.token
        sequenceId := s.sequenceId
        subjectId := subject.subjectId
        addresses } rfl rfl fun hop => by
          rw [hop] at haddresses
          exact (Option.some.inj haddresses).symm
    split
    · exact hdispatched
    · rename_i exc _
      -- the dispatch raised: the command stays in the log, the step is let go
      have hfailed := hdispatched.less (less_fail _ (.str exc) none none) rfl rfl rfl
      obtain ⟨hselected, hcompleted, hdiscovered⟩ := letGo_identities _
      exact hfailed.less (less_letGo _) hselected hcompleted hdiscovered

theorem Begun.exclusive {s t : Sequence} {subject : Subject} {operation : Operation}
    (h : Begun s subject operation t) (hs : Exclusive s)
    (hmay : MayBegin s subject operation) : Exclusive t := by
  have haddresses (sid : String) : t.addressesOf sid = s.addressesOf sid := by
    rw [addressesOf, h.selected]
    rfl
  refine ⟨?_, fun p hp => ?_, fun sid hin => ?_, fun i hi j hj hne => ?_⟩
  · rw [subjectIds, h.subjects]
    exact hs.ids
  · obtain ⟨hsubject, hoperation⟩ := h.pending p hp
    rw [MayBegin, hsubject, hoperation, h.subjects, h.discovered]
    exact hmay
  · rw [haddresses, h.subjects]
    exact hs.known sid (h.discovered ▸ hin)
  · rw [haddresses, haddresses]
    exact hs.disjoint i (h.discovered ▸ hi) j (h.discovered ▸ hj) hne

theorem Move.exclusive {verified : Subject → Prop} {s t : Sequence} (h : Move verified s t)
    (hs : Exclusive s) : Exclusive t := by
  cases h with
  | less h => exact h.exclusive hs
  | kept p addresses hp hop => exact hs.kept addresses hp hop
  | found p complete addresses hp hvalid => exact hs.found hp hvalid
  | done subject h => exact ⟨hs.ids, hs.pends, hs.known, hs.disjoint⟩
  | configured subjects hids =>
      refine ⟨hids, fun p hp => ?_, fun _ h => absurd h (Finset.notMem_empty _),
        fun _ h => absurd h (Finset.notMem_empty _)⟩
      have hnone : (s.configure subjects).pending = none := by
        show s.cancelTimer.letGo.pending = none
        unfold letGo
        split
        · rfl
        · assumption
      rw [hnone] at hp
      cases hp

/-- A subject enters `completed` only if it is verified. -/
theorem Move.completed {verified : Subject → Prop} {s t : Sequence} (h : Move verified s t)
    {sid : String} (hin : sid ∈ t.completed) :
    sid ∈ s.completed ∨ ∃ subject, subject.subjectId = sid ∧ verified subject := by
  cases h with
  | less h => exact .inl (h.completed hin)
  | kept p addresses hp hop => exact .inl hin
  | found p complete addresses hp hvalid =>
      rw [(letGo_identities _).2.1] at hin
      exact .inl hin
  | done subject h =>
      rcases Finset.mem_insert.mp hin with heq | hin
      · exact .inr ⟨subject, heq.symm, h⟩
      · exact .inl hin
  | configured subjects hids => exact absurd hin (Finset.notMem_empty _)

/-- No move dispatches a step. -/
theorem Move.log {verified : Subject → Prop} {s t : Sequence} (h : Move verified s t) :
    ∃ added, t.log = s.log ++ added ∧ ∀ c, .dispatched c ∉ added := by
  cases h with
  | less h => exact h.log
  | kept p addresses hp hop => exact ⟨[], by simp, by simp⟩
  | found p complete addresses hp hvalid => exact (less_letGo _).log
  | done subject h => exact ⟨[], by simp, by simp⟩
  | configured subjects hids => exact (s.cancelTimer.less_letGo).log

theorem Moves.exclusive {verified : Subject → Prop} {s t : Sequence} (h : Moves verified s t)
    (hs : Exclusive s) : Exclusive t := by
  induction h with
  | refl => exact hs
  | tail _ hmove ih => exact hmove.exclusive ih

theorem Moves.completed {verified : Subject → Prop} {s t : Sequence} (h : Moves verified s t)
    {sid : String} (hin : sid ∈ t.completed) :
    sid ∈ s.completed ∨ ∃ subject, subject.subjectId = sid ∧ verified subject := by
  induction h with
  | refl => exact .inl hin
  | tail _ hmove ih =>
      rcases hmove.completed hin with hin | hverified
      · exact ih hin
      · exact .inr hverified

theorem Moves.log {verified : Subject → Prop} {s t : Sequence} (h : Moves verified s t) :
    ∃ added, t.log = s.log ++ added ∧ ∀ c, .dispatched c ∉ added := by
  induction h with
  | refl => exact ⟨[], by simp, by simp⟩
  | tail _ hmove ih =>
      obtain ⟨added1, hlog1, hnone1⟩ := ih
      obtain ⟨added2, hlog2, hnone2⟩ := hmove.log
      refine ⟨added1 ++ added2, by rw [hlog2, hlog1, List.append_assoc], fun c hc => ?_⟩
      rcases List.mem_append.mp hc with hc | hc
      · exact hnone1 c hc
      · exact hnone2 c hc

section Payloads

variable {str : Json → String} {upper : String → String}

theorem exclusive_step {s s' : Sequence} {a : Action} (h : Exclusive s) (hids : distinctIds a)
    (hstep : step str upper s a = some s') : Exclusive s' := by
  obtain ⟨r, hmoves, rfl | ⟨env, subject, operation, hmay, rfl⟩⟩ :=
    step_proceeds h.pends hids hstep
  · exact hmoves.exclusive h
  · exact (r.begun_beginStep env subject operation).exclusive (hmoves.exclusive h) hmay

theorem exclusive_of_run {s : Sequence}
    (h : Machine.Run (step str upper) (fun _ a => distinctIds a) {} s) : Exclusive s :=
  h.invariant exclusive_init fun _ _ _ hids hstep hs => exclusive_step hs hids hstep

/-- Only a verified reply completes a subject. -/
theorem verified_of_completed {s s' : Sequence} {a : Action} (h : Exclusive s)
    (hids : distinctIds a) (hstep : step str upper s a = some s') {sid : String}
    (hbefore : sid ∉ s.completed) (hafter : sid ∈ s'.completed) :
    ∃ subject ∈ s.subjects, subject.subjectId = sid ∧ Verified str upper s a subject := by
  obtain ⟨r, hmoves, hlast⟩ := step_proceeds h.pends hids hstep
  have hin : sid ∈ r.completed := by
    rcases hlast with rfl | ⟨env, subject, operation, -, rfl⟩
    · exact hafter
    · rwa [(r.begun_beginStep env subject operation).completed] at hafter
  rcases hmoves.completed hin with hin | ⟨subject, hid, hverified⟩
  · exact absurd hin hbefore
  · obtain ⟨env, event, payload, p, result, sensors, -, -, hanswers, -, -, hp, -⟩ := id hverified
    exact ⟨subject, hp ▸ (h.pends p hanswers.pending).1, hid, hverified⟩

/-- A discovery excludes what is selected for the others. -/
def Excludes (s' : Sequence) (c : StepCommand) : Prop :=
  c.operation = .discovering → ∀ owner, owner ≠ c.subjectId → ∀ a ∈ s'.addressesOf owner,
    a ∈ c.addresses

theorem excludes_of_step {s s' : Sequence} {a : Action} (h : Exclusive s) (hids : distinctIds a)
    (hstep : step str upper s a = some s') :
    ∃ added, s'.log = s.log ++ added ∧ ∀ c, .dispatched c ∈ added → s'.Excludes c := by
  obtain ⟨r, hmoves, hlast⟩ := step_proceeds h.pends hids hstep
  obtain ⟨added1, hlog1, hnone1⟩ := hmoves.log
  rcases hlast with rfl | ⟨env, subject, operation, -, rfl⟩
  · exact ⟨added1, hlog1, fun c hc => absurd hc (hnone1 c)⟩
  · have hbegun := r.begun_beginStep env subject operation
    obtain ⟨added2, hlog2, hadded2⟩ := hbegun.log
    refine ⟨added1 ++ added2, by rw [hlog2, hlog1, List.append_assoc], fun c hc => ?_⟩
    rcases List.mem_append.mp hc with hc | hc
    · exact absurd hc (hnone1 c)
    · intro hop owner hne a ha
      obtain ⟨hsid, hoperation, haddresses⟩ := hadded2 c hc
      rw [haddresses (hoperation.symm.trans hop), mem_exclusions]
      rw [addressesOf, hbegun.selected] at ha
      exact ⟨owner, hsid ▸ hne, ha⟩

end Payloads

/-! ## The result -/

/-- Sensor identities are exclusive, completed subjects verified, discoveries exclude. -/
structure Identities (str : Json → String) (upper : String → String) (s : Sequence) : Prop where
  disjoint : ∀ i ∈ s.discovered, ∀ j ∈ s.discovered, i ≠ j →
    List.Disjoint (s.addressesOf i) (s.addressesOf j)
  known : ∀ sid ∈ s.discovered, sid ∈ s.subjectIds
  fits : ∀ subject ∈ s.subjects, subject.subjectId ∈ s.discovered →
    Fits (s.addressesOf subject.subjectId) subject
  completes : ∀ a s', distinctIds a → step str upper s a = some s' → ∀ sid, sid ∉ s.completed →
    sid ∈ s'.completed →
      ∃ subject ∈ s.subjects, subject.subjectId = sid ∧ Verified str upper s a subject
  excludes : ∀ a s', distinctIds a → step str upper s a = some s' →
    ∃ added, s'.log = s.log ++ added ∧ ∀ c, .dispatched c ∈ added → s'.Excludes c

theorem Exclusive.identities {str : Json → String} {upper : String → String} {s : Sequence}
    (h : Exclusive s) : Identities str upper s where
  disjoint := h.disjoint
  known := fun sid hin => by
    obtain ⟨subject, hmem, hid, -⟩ := h.known sid hin
    exact List.mem_map.mpr ⟨subject, hmem, hid⟩
  fits := fun subject hmem hin => by
    obtain ⟨other, hother, hid, hfits⟩ := h.known _ hin
    have heq : other = subject := List.inj_on_of_nodup_map h.ids hother hmem hid
    rwa [heq] at hfits
  completes := fun _ _ hids hstep _ hbefore hafter =>
    verified_of_completed h hids hstep hbefore hafter
  excludes := fun _ _ hids hstep => excludes_of_step h hids hstep

end Sequence

/-- **Sensor identities are exclusive and verified**, for configurations with distinct ids. -/
theorem identities_of_reachable {str : Json → String} {upper : String → String} {s : Sequence}
    (h : Machine.Run (Sequence.step str upper) (fun _ a => Sequence.distinctIds a) {} s) :
    Sequence.Identities str upper s :=
  (Sequence.exclusive_of_run h).identities

/-- Both subjects are discovered, on two nodes; the second one waits for its connection. -/
theorem identities_of_reachable_two :
    ∃ s, Machine.Run (Sequence.step (fun _ => "") id) (fun _ a => Sequence.distinctIds a) {} s
      ∧ s.discovered = {"s1", "s2"} ∧ s.completed = {"s1"}
      ∧ (s.addressesOf "s1", s.addressesOf "s2") = (["AA"], ["BB"])
      ∧ Sequence.Identities (fun _ => "") id s := by
  have hruns : (Machine.execOk (Sequence.step (fun _ => "") id)
      (fun _ a => Sequence.distinctIds a) {} (halfway ++ secondSubject)).map (fun s =>
        (s.discovered, s.completed, s.addressesOf "s1", s.addressesOf "s2"))
      = some ({"s1", "s2"}, {"s1"}, ["AA"], ["BB"]) := by decide +kernel
  obtain ⟨s, hs, hfields⟩ := Option.map_eq_some_iff.mp hruns
  simp only [Prod.mk.injEq] at hfields
  have hrun := Machine.Run.of_execOk _ hs
  exact ⟨s, hrun, hfields.1, hfields.2.1, by rw [hfields.2.2.1, hfields.2.2.2],
    identities_of_reachable hrun⟩

end NexusN3.Connection
