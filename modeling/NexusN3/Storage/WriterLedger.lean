import NexusN3.Lib.Machine
import NexusN3.Lib.Path
import NexusN3.Lib.TaskQueue
import NexusN3.Storage.RawFile
import Mathlib.Logic.Function.Basic
import Mathlib.Data.Fintype.Basic

/-!
# The raw writer and its failures

Blocks of samples go through a queue to one thread that writes them. The file of a block is looked
up when the block is written, not when it is queued, and a write that raises is reported by a record
for the subject. `flush` waits until the queue is empty; a subject with records is marked partial.

* **`State.step`** — starting and stopping an entry's file, queueing, and the turns of
  `_writer_loop`, with writes that raise and leave anything in the file.
* **`orderly`** — a file is opened when the entry has no block waiting and no other entry has it.
* **`Ledger`** — what has been written of each open file, what is still to come, and what is
  reported.
* **`flushed_or_partial`** — after `flush`, a file is complete or its subject is marked.
-/

namespace NexusN3.Storage.WriterLedger

open Lib

set_option linter.unusedSectionVars false

abbrev Place := List String

/-- `entry["meta"]`. -/
structure MetaData where
  subjectId : Option String
  filePath : Option Place
  rawHeaders : Option (List String)

/-- An entry's file since it was opened: the blocks queued, the blocks that the writer is done with
and whether they were written, and whether the subject's records were dropped meanwhile. -/
structure Account (V : Type) where
  enqueued : List (List (Mapping V))
  outcomes : List (List (Mapping V) × Bool)
  cleared : Bool

structure Failure where
  subjectId : String
  path : Place

/-- What `mark_subject_outputs_partial` writes for a subject. -/
structure Marker where
  subjectId : String
  path : Place
  failures : List Failure

structure State (ι V : Type) where
  files : Place → List Char
  metaData : ι → MetaData
  account : ι → Account V
  /-- `_raw_write_queue` -/
  queue : TaskQueue (ι × List (Mapping V))
  /-- the writer is through with `write_block` and not yet with the block -/
  wrote : Bool
  /-- `_raw_write_failures` -/
  failures : Dict String (List Failure)

inductive Action (ι V : Type) where
  | clear (subjectIds : List String)
  /-- `start_stream` comes to an entry of the subject -/
  | opened (e : ι) (subjectId : String) (path : Place)
  /-- `stop_stream` comes to an entry -/
  | closed (e : ι)
  | enqueue (e : ι) (samples : List (Mapping V))
  | get
  /-- `write_block`; when it raises, with what it leaves in the file and in the metadata -/
  | write (raised : Option (List Char × Option (List String)))
  /-- `task_done` -/
  | done

namespace State

variable {ι V : Type} [DecidableEq ι]

/-- `meta.get("subject_id") or "unknown_subject"`. -/
def subjectKey (s : State ι V) (e : ι) : String :=
  ((s.metaData e).subjectId.filter (· ≠ "")).getD "unknown_subject"

def clearRawWriteFailures (s : State ι V) (subjectIds : List String) : State ι V :=
  { s with
    failures := subjectIds.foldl Dict.erase s.failures
    account := fun e =>
      { s.account e with
        cleared := (s.account e).cleared || decide (s.subjectKey e ∈ subjectIds) } }

def startEntry (s : State ι V) (e : ι) (subjectId : String) (path : Place) : State ι V :=
  { s with
    files := Function.update s.files path startStream.text
    metaData := Function.update s.metaData e ⟨some subjectId, some path, startStream.rawHeaders⟩
    account := Function.update s.account e ⟨[], [], false⟩ }

/-- `meta.pop("file_path")`, `meta.pop("subject_id")`. -/
def stopEntry (s : State ι V) (e : ι) : State ι V :=
  { s with
    metaData := Function.update s.metaData e
      { s.metaData e with filePath := none, subjectId := none } }

def enqueueBlock (s : State ι V) (e : ι) (samples : List (Mapping V)) : State ι V :=
  match (s.metaData e).filePath with
  | none => s
  | some _ =>
    if samples = [] then s
    else
      { s with
        queue := s.queue.put (e, samples)
        account := Function.update s.account e
          { s.account e with enqueued := (s.account e).enqueued ++ [samples] } }

/-- The file and the headers that an entry has after a block. -/
def store (s : State ι V) (e : ι) (path : Place) (samples : List (Mapping V)) (f : RawFile)
    (ok : Bool) : State ι V :=
  { s with
    files := Function.update s.files path f.text
    metaData := Function.update s.metaData e { s.metaData e with rawHeaders := f.rawHeaders }
    account := Function.update s.account e
      { s.account e with outcomes := (s.account e).outcomes ++ [(samples, ok)] } }

/-- `_record_raw_write_failure`. -/
def recordFailure (s : State ι V) (e : ι) (path : Place) : State ι V :=
  { s with
    failures := s.failures.set (s.subjectKey e)
      ((s.failures.get? (s.subjectKey e)).getD [] ++ [⟨s.subjectKey e, path⟩]) }

variable (ser : Serialization V)

/-- What the writer does with the block that it has taken, up to `task_done`. -/
def writeTaken (s : State ι V) (e : ι) (samples : List (Mapping V))
    (raised : Option (List Char × Option (List String))) : State ι V :=
  match (s.metaData e).filePath with
  -- the stream of the entry was stopped in the meantime
  | none => s
  | some path =>
    match raised with
    | none =>
      s.store e path samples
        (Storage.writeBlock ser ⟨s.files path, (s.metaData e).rawHeaders⟩ samples) true
    | some (text, rawHeaders) =>
      (s.recordFailure e path).store e path samples ⟨text, rawHeaders⟩ false

def step : Machine (State ι V) (Action ι V)
  | s, .clear subjectIds => some (s.clearRawWriteFailures subjectIds)
  | s, .opened e subjectId path => some (s.startEntry e subjectId path)
  | s, .closed e => some (s.stopEntry e)
  | s, .enqueue e samples => some (s.enqueueBlock e samples)
  | s, .get => s.queue.get.map fun queue => { s with queue := queue }
  | s, .write raised =>
    match s.queue.taken, s.wrote with
    | some (e, samples), false => some { s.writeTaken ser e samples raised with wrote := true }
    | _, _ => none
  | s, .done => if s.wrote then some { s with queue := s.queue.taskDone, wrote := false } else none

def init : State ι V where
  files := fun _ => []
  metaData := fun _ => ⟨none, none, none⟩
  account := fun _ => ⟨[], [], false⟩
  queue := .empty
  wrote := false
  failures := Dict.empty

/-! ## Reports -/

def getRawWriteFailures (s : State ι V) (subjectIds : List String) : Dict String (List Failure) :=
  subjectIds.foldl (fun found subjectId =>
    match (s.failures.get? subjectId).getD [] with
    | [] => found
    | failures => found.set subjectId failures) Dict.empty

def markSubjectOutputsPartial (s : State ι V) (subjectIds : List String) : List Marker :=
  (s.getRawWriteFailures subjectIds).entries.filterMap fun (subjectId, failures) =>
    match failures with
    | [] => none
    | first :: _ =>
      some ⟨subjectId, Path.join first.path.dropLast.dropLast "_partial_incomplete.json", failures⟩

/-! ## The ledger -/

/-- The blocks that the writer has still to write. -/
def unwritten (s : State ι V) : List (ι × List (Mapping V)) :=
  if s.wrote then s.queue.items else s.queue.inFlight

/-- The blocks of one entry among them. -/
def waiting (s : State ι V) (e : ι) : List (List (Mapping V)) :=
  (s.unwritten.filter fun x => decide (x.1 = e)).map Prod.snd

/-- The condition on a step. Every sample has a column at least. -/
def orderly (s : State ι V) : Action ι V → Prop
  | .opened e _ path =>
    (∀ x ∈ s.unwritten, x.1 ≠ e) ∧ ∀ e', e' ≠ e → (s.metaData e').filePath ≠ some path
  | .enqueue _ samples => ∀ m ∈ samples, m.keys ≠ []
  | _ => True

/-- What is known of an entry whose file is open. -/
structure Open (s : State ι V) (e : ι) (path : Place) : Prop where
  /-- blocks are written in the order in which they were queued -/
  inOrder : (s.account e).outcomes.map Prod.fst ++ s.waiting e = (s.account e).enqueued
  columns : ∀ block ∈ (s.account e).enqueued, ∀ m ∈ block, m.keys ≠ []
  /-- the file holds what was written, while no write has raised -/
  complete : (∀ o ∈ (s.account e).outcomes, o.2 = true) →
    Holds ser ⟨s.files path, (s.metaData e).rawHeaders⟩
      ((s.account e).outcomes.map Prod.fst).flatten
  /-- a write that raised is reported -/
  reported : (∃ o ∈ (s.account e).outcomes, o.2 = false) → (s.account e).cleared = false →
    (s.failures.get? (s.subjectKey e)).getD [] ≠ []

structure Ledger (s : State ι V) : Prop where
  files : ∀ e path, (s.metaData e).filePath = some path → s.Open ser e path
  /-- no two entries have one file -/
  apart : ∀ e e' path, (s.metaData e).filePath = some path →
    (s.metaData e').filePath = some path → e = e'
  taken : s.wrote = true → s.queue.taken.isSome = true

/-! ## What a step keeps -/

variable {ser : Serialization V}

/-- An entry that a step does not touch. -/
theorem Open.frame {s s' : State ι V} {e : ι} {path : Place} (h : s.Open ser e path)
    (haccount : s'.account e = s.account e) (hwaiting : s'.waiting e = s.waiting e)
    (hmeta : s'.metaData e = s.metaData e) (hfile : s'.files path = s.files path)
    (hfailures : (s.failures.get? (s.subjectKey e)).getD [] ≠ [] →
      (s'.failures.get? (s.subjectKey e)).getD [] ≠ []) : s'.Open ser e path := by
  have hkey : s'.subjectKey e = s.subjectKey e := by
    unfold subjectKey
    rw [hmeta]
  refine ⟨?_, ?_, ?_, ?_⟩
  · rw [haccount, hwaiting]
    exact h.inOrder
  · rw [haccount]
    exact h.columns
  · rw [haccount, hmeta, hfile]
    exact h.complete
  · rw [haccount, hkey]
    intro hraised hkept
    exact hfailures (h.reported hraised hkept)

theorem get?_foldl_erase {κ ν : Type} [DecidableEq κ] {k : κ} {ks : List κ} (hk : k ∉ ks)
    (d : Dict κ ν) : (ks.foldl Dict.erase d).get? k = d.get? k := by
  induction ks generalizing d with
  | nil => rfl
  | cons first ks ih =>
    obtain ⟨hne, hrest⟩ := not_or.mp (fun hor => hk (List.mem_cons.mpr hor))
    rw [List.foldl_cons, ih hrest, Dict.get?_erase_ne d hne]

theorem ledger_clear {s : State ι V} (h : Ledger ser s) (subjectIds : List String) :
    Ledger ser (s.clearRawWriteFailures subjectIds) := by
  refine ⟨?_, h.apart, h.taken⟩
  intro e path hopen
  have hfile := h.files e path hopen
  refine ⟨hfile.inOrder, hfile.columns, hfile.complete, ?_⟩
  intro hraised hkept
  obtain ⟨hbefore, hother⟩ := Bool.or_eq_false_iff.mp hkept
  show ((subjectIds.foldl Dict.erase s.failures).get? (s.subjectKey e)).getD [] ≠ []
  rw [get?_foldl_erase (of_decide_eq_false hother)]
  exact hfile.reported hraised hbefore

theorem waiting_eq_nil {s : State ι V} {e : ι} (hnone : ∀ x ∈ s.unwritten, x.1 ≠ e) :
    s.waiting e = [] := by
  unfold waiting
  rw [List.map_eq_nil_iff, List.filter_eq_nil_iff]
  intro x hx
  simpa using hnone x hx

theorem ledger_opened {s : State ι V} (h : Ledger ser s) {e : ι} (subjectId : String)
    {path : Place} (hnone : ∀ x ∈ s.unwritten, x.1 ≠ e)
    (hfree : ∀ e', e' ≠ e → (s.metaData e').filePath ≠ some path) :
    Ledger ser (s.startEntry e subjectId path) := by
  have hmeta {e' : ι} (hne : e' ≠ e) :
      (s.startEntry e subjectId path).metaData e' = s.metaData e' :=
    Function.update_of_ne hne _ _
  refine ⟨?_, ?_, h.taken⟩
  · intro e' path' hopen
    by_cases he : e' = e
    · subst he
      simp only [startEntry, Function.update_self, Option.some.injEq] at hopen
      subst hopen
      have hwaiting : (s.startEntry e' subjectId path).waiting e' = [] := waiting_eq_nil hnone
      refine ⟨?_, ?_, ?_, ?_⟩
      · rw [hwaiting]
        simp [startEntry]
      · simp [startEntry]
      · intro _
        simp only [startEntry, Function.update_self]
        exact ⟨rfl, rfl⟩
      · simp [startEntry]
    · rw [hmeta he] at hopen
      have hpath : path' ≠ path := by
        rintro rfl
        exact hfree e' he hopen
      exact (h.files e' path' hopen).frame (Function.update_of_ne he _ _) rfl (hmeta he)
        (Function.update_of_ne hpath _ _) id
  · intro e₁ e₂ path' h₁ h₂
    by_cases he₁ : e₁ = e
    · by_cases he₂ : e₂ = e
      · rw [he₁, he₂]
      · rw [he₁] at h₁
        simp only [startEntry, Function.update_self, Option.some.injEq] at h₁
        rw [hmeta he₂, ← h₁] at h₂
        exact absurd h₂ (hfree e₂ he₂)
    · by_cases he₂ : e₂ = e
      · rw [he₂] at h₂
        simp only [startEntry, Function.update_self, Option.some.injEq] at h₂
        rw [hmeta he₁, ← h₂] at h₁
        exact absurd h₁ (hfree e₁ he₁)
      · rw [hmeta he₁] at h₁
        rw [hmeta he₂] at h₂
        exact h.apart e₁ e₂ path' h₁ h₂

theorem ledger_closed {s : State ι V} (h : Ledger ser s) (e : ι) : Ledger ser (s.stopEntry e) := by
  have hopen_of {e' : ι} {path : Place}
      (hopen : ((s.stopEntry e).metaData e').filePath = some path) :
      e' ≠ e ∧ (s.metaData e').filePath = some path := by
    by_cases he : e' = e
    · subst he
      simp [stopEntry] at hopen
    · simp only [stopEntry, Function.update_of_ne he] at hopen
      exact ⟨he, hopen⟩
  refine ⟨?_, ?_, h.taken⟩
  · intro e' path hopen
    obtain ⟨he, hopen⟩ := hopen_of hopen
    exact (h.files e' path hopen).frame rfl rfl (Function.update_of_ne he _ _) rfl id
  · intro e₁ e₂ path h₁ h₂
    exact h.apart e₁ e₂ path (hopen_of h₁).2 (hopen_of h₂).2

/-- A block put into the queue waits behind the others of its entry. -/
theorem waiting_put (s : State ι V) (e e' : ι) (samples : List (Mapping V))
    (account : ι → Account V) :
    ({ s with queue := s.queue.put (e, samples), account := account } : State ι V).waiting e' =
      s.waiting e' ++ if e = e' then [samples] else [] := by
  have hunwritten :
      ({ s with queue := s.queue.put (e, samples), account := account } : State ι V).unwritten =
        s.unwritten ++ [(e, samples)] := by
    unfold unwritten
    split
    · rfl
    · exact TaskQueue.inFlight_put _ _
  unfold waiting
  rw [hunwritten, List.filter_append, List.map_append]
  split
  · rename_i he
    simp [he]
  · rename_i he
    simp [he]

theorem ledger_enqueue {s : State ι V} (h : Ledger ser s) (e : ι) {samples : List (Mapping V)}
    (hcolumns : ∀ m ∈ samples, m.keys ≠ []) : Ledger ser (s.enqueueBlock e samples) := by
  unfold enqueueBlock
  split
  · exact h
  · split
    · exact h
    · refine ⟨?_, h.apart, h.taken⟩
      intro e' path hopen
      have hfile := h.files e' path hopen
      by_cases he : e = e'
      · subst he
        refine ⟨?_, ?_, ?_, ?_⟩
        · rw [waiting_put, if_pos rfl]
          simp only [Function.update_self]
          rw [← hfile.inOrder, List.append_assoc]
        · simp only [Function.update_self]
          intro block hblock
          rcases List.mem_append.mp hblock with hold | hnew
          · exact hfile.columns block hold
          · rw [List.mem_singleton.mp hnew]
            exact hcolumns
        · simp only [Function.update_self]
          exact hfile.complete
        · simp only [Function.update_self]
          exact hfile.reported
      · refine hfile.frame (Function.update_of_ne (Ne.symm he) _ _) ?_ rfl rfl id
        rw [waiting_put, if_neg he, List.append_nil]

/-- The writer has a block while it has not finished with it. -/
theorem taken_of_get {α : Type} {q q' : TaskQueue α} (h : q.get = some q') : q.taken = none := by
  unfold TaskQueue.get at h
  split at h
  · rfl
  · cases h

theorem ledger_get {s : State ι V} (h : Ledger ser s) {queue : TaskQueue (ι × List (Mapping V))}
    (hget : s.queue.get = some queue) : Ledger ser { s with queue := queue } := by
  have hwrote : s.wrote = false := by
    by_contra hwrote
    have htaken := h.taken (by simpa using hwrote)
    rw [taken_of_get hget] at htaken
    cases htaken
  have hunwritten : ({ s with queue := queue } : State ι V).unwritten = s.unwritten := by
    simp only [unwritten, hwrote, Bool.false_eq_true, if_false]
    exact TaskQueue.inFlight_get hget
  refine ⟨?_, h.apart, ?_⟩
  · intro e path hopen
    refine (h.files e path hopen).frame rfl ?_ rfl rfl id
    unfold waiting
    rw [hunwritten]
  · intro _
    exact (TaskQueue.unfinished_get hget).2

theorem ledger_done {s : State ι V} (h : Ledger ser s) (hwrote : s.wrote = true) :
    Ledger ser { s with queue := s.queue.taskDone, wrote := false } := by
  have hunwritten : ({ s with queue := s.queue.taskDone, wrote := false } : State ι V).unwritten =
      s.unwritten := by
    simp only [unwritten, hwrote, if_true, Bool.false_eq_true, if_false]
    rfl
  refine ⟨?_, h.apart, ?_⟩
  · intro e path hopen
    refine (h.files e path hopen).frame rfl ?_ rfl rfl id
    unfold waiting
    rw [hunwritten]
  · intro hnot
    cases hnot

/-- The entry whose block is written has it in its outcomes and waits for one block less. -/
theorem Open.outcome {s s' : State ι V} {e : ι} {path : Place} {samples : List (Mapping V)}
    {ok : Bool} (h : s.Open ser e path) (hwaiting : s.waiting e = samples :: s'.waiting e)
    (haccount : s'.account e =
      { s.account e with outcomes := (s.account e).outcomes ++ [(samples, ok)] })
    (hcomplete : ok = true → Holds ser ⟨s.files path, (s.metaData e).rawHeaders⟩
        ((s.account e).outcomes.map Prod.fst).flatten →
      Holds ser ⟨s'.files path, (s'.metaData e).rawHeaders⟩
        (((s.account e).outcomes.map Prod.fst).flatten ++ samples))
    (hreported : ok = true ∧ (s'.failures.get? (s'.subjectKey e)).getD [] =
        (s.failures.get? (s.subjectKey e)).getD [] ∨
      (s'.failures.get? (s'.subjectKey e)).getD [] ≠ []) : s'.Open ser e path := by
  refine ⟨?_, ?_, ?_, ?_⟩
  · rw [haccount, ← h.inOrder, hwaiting]
    simp
  · rw [haccount]
    exact h.columns
  · rw [haccount]
    intro hall
    rw [List.map_append, List.flatten_append]
    have hok : ok = true := hall (samples, ok) (by simp)
    have hbefore := h.complete fun o ho => hall o (List.mem_append_left _ ho)
    simpa using hcomplete hok hbefore
  · rw [haccount]
    rintro ⟨o, ho, hraised⟩ hkept
    rcases hreported with ⟨hok, hsame⟩ | hnow
    · rw [hsame]
      refine h.reported ⟨o, ?_, hraised⟩ hkept
      rcases List.mem_append.mp ho with hold | hnew
      · exact hold
      · rw [List.mem_singleton.mp hnew, hok] at hraised
        cases hraised
    · exact hnow

/-- Before `write_block` the block that the writer has is the first of those that wait. -/
theorem waiting_taken {s : State ι V} {e : ι} {samples : List (Mapping V)}
    (htaken : s.queue.taken = some (e, samples)) (hwrote : s.wrote = false) (e' : ι) :
    s.waiting e' = (if e = e' then [samples] else []) ++
      (s.queue.items.filter fun x => decide (x.1 = e')).map Prod.snd := by
  unfold waiting unwritten TaskQueue.inFlight
  rw [hwrote, htaken]
  by_cases he : e = e'
  · simp [he]
  · simp [he]

/-- The writer is through with a block. -/
theorem waiting_wrote {s : State ι V} (hwrote : s.wrote = true) (e : ι) :
    s.waiting e = (s.queue.items.filter fun x => decide (x.1 = e)).map Prod.snd := by
  unfold waiting unwritten
  rw [if_pos hwrote]

/-- A block that has come to its file, written or not. -/
theorem ledger_store {s : State ι V} (h : Ledger ser s) {e : ι} {samples : List (Mapping V)}
    (htaken : s.queue.taken = some (e, samples)) (hwrote : s.wrote = false) {path : Place}
    (hopen : (s.metaData e).filePath = some path) {f : RawFile} {ok : Bool}
    {failures : Dict String (List Failure)}
    (hcomplete : ok = true → Holds ser ⟨s.files path, (s.metaData e).rawHeaders⟩
        ((s.account e).outcomes.map Prod.fst).flatten →
      Holds ser f (((s.account e).outcomes.map Prod.fst).flatten ++ samples))
    (hreported : ok = true ∧ failures = s.failures ∨
      (failures.get? (s.subjectKey e)).getD [] ≠ [])
    (hmore : ∀ key, (s.failures.get? key).getD [] ≠ [] → (failures.get? key).getD [] ≠ []) :
    Ledger ser
      { ({ s with failures := failures } : State ι V).store e path samples f ok with
        wrote := true } := by
  have hmeta (e' : ι) :
      (Function.update s.metaData e { s.metaData e with rawHeaders := f.rawHeaders } e').filePath =
        (s.metaData e').filePath := by
    rw [Function.update_apply]
    split
    · rename_i he
      rw [he]
    · rfl
  refine ⟨?_, ?_, ?_⟩
  · intro e' path' hopen'
    have hbefore : (s.metaData e').filePath = some path' := (hmeta e').symm.trans hopen'
    have hfile := h.files e' path' hbefore
    have hwaiting := waiting_taken htaken hwrote e'
    by_cases he : e = e'
    · subst he
      have hpath : path = path' := Option.some.inj (hopen.symm.trans hbefore)
      subst hpath
      have hkey : ({ ({ s with failures := failures } : State ι V).store e path samples f ok with
          wrote := true } : State ι V).subjectKey e = s.subjectKey e := by
        unfold subjectKey store
        simp only [Function.update_self]
      refine hfile.outcome ?_ (Function.update_self ..) ?_ ?_
      · rw [hwaiting, if_pos rfl, waiting_wrote rfl]
        rfl
      · simpa [store] using hcomplete
      · rw [hkey]
        rcases hreported with ⟨hok, hsame⟩ | hnow
        · exact .inl ⟨hok, by rw [← hsame]; rfl⟩
        · exact .inr hnow
    · have hpath : path' ≠ path := by
        rintro rfl
        exact he (h.apart e e' path' hopen hbefore)
      refine hfile.frame (Function.update_of_ne (Ne.symm he) _ _) ?_
        (Function.update_of_ne (Ne.symm he) _ _) (Function.update_of_ne hpath _ _) (hmore _)
      rw [hwaiting, if_neg he, waiting_wrote rfl]
      rfl
  · intro e₁ e₂ path' h₁ h₂
    exact h.apart e₁ e₂ path' ((hmeta e₁).symm.trans h₁) ((hmeta e₂).symm.trans h₂)
  · intro _
    show s.queue.taken.isSome = true
    rw [htaken]
    rfl

theorem ledger_write {s : State ι V} (h : Ledger ser s) {e : ι} {samples : List (Mapping V)}
    (htaken : s.queue.taken = some (e, samples)) (hwrote : s.wrote = false)
    (raised : Option (List Char × Option (List String))) :
    Ledger ser { s.writeTaken ser e samples raised with wrote := true } := by
  unfold writeTaken
  cases hpath : (s.metaData e).filePath with
  | none =>
    refine ⟨?_, h.apart, ?_⟩
    · intro e' path hopen
      have he : e ≠ e' := by
        rintro rfl
        rw [hpath] at hopen
        cases hopen
      refine (h.files e' path hopen).frame rfl ?_ rfl rfl id
      rw [waiting_taken htaken hwrote e', if_neg he, waiting_wrote rfl]
      rfl
    · intro _
      show s.queue.taken.isSome = true
      rw [htaken]
      rfl
  | some path =>
    have hfile := h.files e path hpath
    cases raised with
    | none =>
      refine ledger_store h htaken hwrote hpath ?_ (.inl ⟨rfl, rfl⟩) fun _ => id
      intro _ hholds
      refine holds_writeBlock hholds ?_
      -- the blocks written so far are among those that were queued
      intro m hm
      obtain ⟨block, hblock, hmem⟩ := List.mem_flatten.mp hm
      refine hfile.columns block ?_ m hmem
      rw [← hfile.inOrder]
      exact List.mem_append_left _ hblock
    | some left =>
      obtain ⟨text, rawHeaders⟩ := left
      refine ledger_store h htaken hwrote hpath ?_ (.inr ?_) ?_
      · intro hok
        cases hok
      · rw [Dict.get?_set_self]
        simp
      · intro key hkey
        rw [Dict.get?_set]
        split
        · simp
        · exact hkey

theorem ledger_step {s s' : State ι V} {a : Action ι V} (hok : s.orderly a)
    (hstep : step ser s a = some s') (h : Ledger ser s) : Ledger ser s' := by
  cases a with
  | clear subjectIds =>
    cases hstep
    exact ledger_clear h subjectIds
  | opened e subjectId path =>
    cases hstep
    exact ledger_opened h subjectId hok.1 hok.2
  | closed e =>
    cases hstep
    exact ledger_closed h e
  | enqueue e samples =>
    cases hstep
    exact ledger_enqueue h e hok
  | get =>
    obtain ⟨queue, hget, rfl⟩ := Option.map_eq_some_iff.mp hstep
    exact ledger_get h hget
  | write raised =>
    simp only [step] at hstep
    split at hstep <;> cases hstep
    rename_i e samples htaken hwrote
    exact ledger_write h htaken hwrote raised
  | done =>
    simp only [step] at hstep
    split at hstep <;> cases hstep
    rename_i hwrote
    exact ledger_done h hwrote

theorem ledger_init : Ledger ser (init : State ι V) := by
  refine ⟨?_, ?_, ?_⟩
  · intro e path hopen
    cases hopen
  · intro e e' path hopen
    cases hopen
  · intro hwrote
    cases hwrote

/-! ## After a flush -/

/-- A subject that has records is in the answer of `get_raw_write_failures`. Induction on the
subjects asked for. -/
theorem get?_getRawWriteFailures (s : State ι V) {subjectIds : List String} {subjectId : String}
    (hmem : subjectId ∈ subjectIds) (hfailures : (s.failures.get? subjectId).getD [] ≠ []) :
    (s.getRawWriteFailures subjectIds).get? subjectId =
      some ((s.failures.get? subjectId).getD []) := by
  have hall (ids : List String) (found : Dict String (List Failure))
      (hin : subjectId ∈ ids ∨ found.get? subjectId = some ((s.failures.get? subjectId).getD [])) :
      (ids.foldl (fun found subjectId =>
        match (s.failures.get? subjectId).getD [] with
        | [] => found
        | failures => found.set subjectId failures) found).get? subjectId =
          some ((s.failures.get? subjectId).getD []) := by
    induction ids generalizing found with
    | nil =>
      rcases hin with hnil | hfound
      · cases hnil
      · exact hfound
    | cons first ids ih =>
      rw [List.foldl_cons]
      apply ih
      by_cases hfirst : first = subjectId
      · right
        subst hfirst
        split
        · rename_i hnil
          exact absurd hnil hfailures
        · exact Dict.get?_set_self _ _ _
      · rcases hin with hlist | hfound
        · left
          exact (List.mem_cons.mp hlist).resolve_left (Ne.symm hfirst)
        · right
          split
          · exact hfound
          · rw [Dict.get?_set_ne _ _ hfirst]
            exact hfound
  exact hall subjectIds Dict.empty (.inl hmem)

/-- A subject that has records gets a marker. -/
theorem exists_marker (s : State ι V) {subjectIds : List String} {subjectId : String}
    (hmem : subjectId ∈ subjectIds) (hfailures : (s.failures.get? subjectId).getD [] ≠ []) :
    ∃ m ∈ s.markSubjectOutputsPartial subjectIds, m.subjectId = subjectId := by
  have hentry := Dict.get?_eq_some_iff.mp (s.get?_getRawWriteFailures hmem hfailures)
  obtain ⟨first, rest, hrecords⟩ := List.exists_cons_of_ne_nil hfailures
  rw [hrecords] at hentry
  exact ⟨⟨subjectId, Path.join first.path.dropLast.dropLast "_partial_incomplete.json",
    first :: rest⟩, List.mem_filterMap.mpr ⟨_, hentry, rfl⟩, rfl⟩

/-- With nothing unwritten an open file is complete, or its subject is marked. -/
theorem Ledger.complete_or_partial {s : State ι V} (h : Ledger ser s)
    (hflushed : s.queue.unfinished = 0) {e : ι} {path : Place}
    (hopen : (s.metaData e).filePath = some path) (hkept : (s.account e).cleared = false)
    {subjectIds : List String} (hsubject : s.subjectKey e ∈ subjectIds) :
    (∃ m ∈ s.markSubjectOutputsPartial subjectIds, m.subjectId = s.subjectKey e) ∨
      Csv.read (s.files path) = table ser (s.account e).enqueued.flatten := by
  have hfile := h.files e path hopen
  by_cases hraised : ∃ o ∈ (s.account e).outcomes, o.2 = false
  · left
    exact s.exists_marker hsubject (hfile.reported hraised hkept)
  · right
    have hall : ∀ o ∈ (s.account e).outcomes, o.2 = true := by
      intro o ho
      by_contra hnot
      exact hraised ⟨o, ho, by simpa using hnot⟩
    -- nothing waits, so everything that was queued is in the file
    have hnothing : s.unwritten = [] := by
      have hempty := TaskQueue.joined_iff.mp hflushed
      unfold unwritten
      split
      · exact (List.append_eq_nil_iff.mp hempty).2
      · exact hempty
    have hwaiting : s.waiting e = [] := by
      unfold waiting
      rw [hnothing]
      rfl
    have horder := hfile.inOrder
    rw [hwaiting, List.append_nil] at horder
    have htext : s.files path = (table ser _).flatMap Csv.writeRow := (hfile.complete hall).text
    rw [htext, Csv.read_write, horder]

/-- **A flushed file is complete or its subject is marked.** Whatever entries are started, stopped
and written to, and whichever writes raise and leave whatever in the file: when a flush returns, the
file of an entry reads back as one header and one row for each sample of the blocks that were queued
since it was opened, in their order, or its subject gets a marker. -/
theorem flushed_or_partial {s : State ι V} (hrun : Machine.Run (step ser) orderly init s)
    (hflushed : s.queue.unfinished = 0) {e : ι} {path : Place}
    (hopen : (s.metaData e).filePath = some path) (hkept : (s.account e).cleared = false)
    {subjectIds : List String} (hsubject : s.subjectKey e ∈ subjectIds) :
    (∃ m ∈ s.markSubjectOutputsPartial subjectIds, m.subjectId = s.subjectKey e) ∨
      Csv.read (s.files path) = table ser (s.account e).enqueued.flatten := by
  have hledger : Ledger ser s := hrun.invariant ledger_init fun _ _ _ => ledger_step
  exact hledger.complete_or_partial hflushed hopen hkept hsubject

instance decidableOrderly [Fintype ι] (s : State ι V) (a : Action ι V) : Decidable (s.orderly a) :=
  match a with
  | .opened e _ path => inferInstanceAs (Decidable ((∀ x ∈ s.unwritten, x.1 ≠ e) ∧
      ∀ e', e' ≠ e → (s.metaData e').filePath ≠ some path))
  | .enqueue _ samples => inferInstanceAs (Decidable (∀ m ∈ samples, m.keys ≠ []))
  | .clear _ => inferInstanceAs (Decidable True)
  | .closed _ => inferInstanceAs (Decidable True)
  | .get => inferInstanceAs (Decidable True)
  | .write _ => inferInstanceAs (Decidable True)
  | .done => inferInstanceAs (Decidable True)

/-- Two sensors of one subject; a write of the second one raises. -/
def halfWritten : List (Action Bool Nat) :=
  [.clear ["s1"], .opened false "s1" ["raw", "ankle.csv"], .opened true "s1" ["raw", "wrist.csv"],
    .enqueue false [Dict.single "x" 1], .get, .enqueue true [Dict.single "x" 2], .write none, .done,
    .get, .write (some ([], none)), .done]

theorem flushed_or_partial_halfWritten :
    ∃ s : State Bool Nat, Machine.execOk (step numerals) orderly init halfWritten = some s ∧
      ((∃ m ∈ s.markSubjectOutputsPartial ["s1"], m.subjectId = s.subjectKey false) ∨
        Csv.read (s.files ["raw", "ankle.csv"]) =
          table numerals (s.account false).enqueued.flatten) :=
  ⟨_, rfl, flushed_or_partial (.of_execOk halfWritten rfl) rfl rfl rfl List.mem_cons_self⟩

end State

end NexusN3.Storage.WriterLedger
