import NexusN3.Storage.Samples
import NexusN3.Storage.WriterLedger

/-!
# From a sample to its row

The core's calls and the file manager together: a block that `ingest_sample` cuts or
`_flush_pending_samples` takes from a buffer is put into the queue of the writer, which writes it to
the file of the block's entry. Other entries' files are opened and closed meanwhile, and writes
raise.

* **`System.step`** — the core, the calls of `enqueue_block` and the writer, in any order.
* **`Coupled`** — the blocks queued for an open file are those that the core has handed over.
* **`stopped_complete`** — after the flush of a stop, a file holds every sample the subject took
  in from that sensor, or the subject is marked.
-/

namespace NexusN3.Storage.DataPath

open Lib WriterLedger

set_option linter.unusedSectionVars false

/-- The core's sensor objects and the file manager. The entries of the writer are named by their
sensors. -/
structure System (ι V : Type) where
  core : Recording ι (Mapping V)
  /-- how many of the core's blocks have been put into the queue -/
  handed : Nat
  writer : State Nat V
  /-- what the core has been called with -/
  events : List (Event ι (Mapping V))

inductive Action (ι V : Type) where
  /-- `Subject.ingest_sample` or `Core._flush_pending_samples` -/
  | core (event : Event ι (Mapping V))
  /-- the next `_raw_write_queue.put` of these calls -/
  | hand
  /-- files opened and closed, and the turns of the writer -/
  | writer (a : WriterLedger.Action Nat V)

/-- The samples of a block as `write_block` gets them. -/
def rows {V : Type} (samples : List (Sample (Mapping V))) : List (Mapping V) :=
  samples.map Sample.value

/-- The blocks of one sensor. -/
def blocksOf {V : Type} (r : Nat) (blocks : List (Block (Mapping V))) : List (List (Mapping V)) :=
  (blocks.filter fun b => decide (b.entry.sensor = r)).map fun b => rows b.samples

namespace System

variable {ι V : Type} [DecidableEq ι]

section

variable (ser : Serialization V)

def step : Machine (System ι V) (Action ι V)
  | s, .core event =>
    (Recording.step s.core event).map fun core =>
      { s with core := core, events := s.events ++ [event] }
  | s, .hand =>
    s.core.enqueued[s.handed]?.map fun b =>
      { s with
        handed := s.handed + 1
        writer := s.writer.enqueueBlock b.entry.sensor (rows b.samples) }
  | s, .writer a => (State.step ser s.writer a).map fun writer => { s with writer := writer }

end

/-- The condition on a step, for the file of one sensor. Every sample has a column at least, blocks
come from the core only, and the file is not opened once more. -/
def orderly (r : Nat) (s : System ι V) : Action ι V → Prop
  | .core (.sample _ x) => x.value.keys ≠ []
  | .writer (.enqueue _ _) => False
  | .writer (.opened e subjectId path) => e ≠ r ∧ s.writer.orderly (.opened e subjectId path)
  | _ => True

/-- The samples that a step brings to a sensor. -/
def brought (s : System ι V) (r : Nat) : Action ι V → List (Sample (Mapping V))
  | .core event => s.core.taken r event
  | _ => []

/-- A stream that starts: no samples yet, and every sensor can take some in. No two entries share a
sensor, so a buffer goes to one file. -/
structure Starting (s : System ι V) : Prop where
  ready : s.core.Ready
  own : ∀ i j, ∀ e ∈ (s.core.subjects i).sensors, ∀ e' ∈ (s.core.subjects j).sensors,
    e.sensor = e'.sensor → i = j ∧ e = e'
  blocks : s.core.enqueued = []
  buffers : ∀ r, (s.core.heap r).rawData = []
  handed : s.handed = 0
  events : s.events = []

/-- The core and the writer since the start of the stream. -/
structure Coupled (ser : Serialization V) (r : Nat) (start s : System ι V) : Prop where
  advance : Recording.Advance start.core (fun q => start.core.ingested q s.events) s.core
  columns : ∀ q, ∀ x ∈ start.core.ingested q s.events, x.value.keys ≠ []
  handed : s.handed ≤ s.core.enqueued.length
  /-- while the file is open, the blocks queued for it are those handed over -/
  queued : (s.writer.metaData r).filePath.isSome = true →
    (s.writer.account r).enqueued = blocksOf r (s.core.enqueued.take s.handed)
  ledger : State.Ledger ser s.writer

variable {ser : Serialization V}

/-! ## The buffers -/

theorem buffer_flushEntry (w : Recording ι (Mapping V)) (e : Entry) (r : Nat) :
    (w.flushEntry e).buffer r = if e.sensor = r then [] else w.buffer r := by
  unfold Recording.flushEntry
  dsimp only
  split
  · rename_i hempty
    split
    · rename_i hr
      subst hr
      exact List.isEmpty_iff.mp hempty
    · rfl
  · rw [Recording.buffer_setRawData]
    unfold Recording.enqueueBlock
    split_ifs <;> rfl

theorem subjects_flushEntry (w : Recording ι (Mapping V)) (e : Entry) :
    (w.flushEntry e).subjects = w.subjects := by
  unfold Recording.flushEntry Recording.enqueueBlock
  dsimp only
  split_ifs <;> rfl

theorem subjects_flushEntries (w : Recording ι (Mapping V)) (entries : List Entry) :
    (entries.foldl Recording.flushEntry w).subjects = w.subjects := by
  induction entries generalizing w with
  | nil => rfl
  | cons e entries ih => rw [List.foldl_cons, ih, subjects_flushEntry]

/-- A buffer is empty after the turns for some entries if it was before or one of them has it. -/
theorem buffer_flushEntries {w : Recording ι (Mapping V)} {entries : List Entry} {r : Nat}
    (h : w.buffer r = [] ∨ ∃ e ∈ entries, e.sensor = r) :
    (entries.foldl Recording.flushEntry w).buffer r = [] := by
  induction entries generalizing w with
  | nil =>
    rcases h with hempty | ⟨e, he, -⟩
    · exact hempty
    · cases he
  | cons e entries ih =>
    rw [List.foldl_cons]
    apply ih
    rw [buffer_flushEntry]
    by_cases hr : e.sensor = r
    · left
      exact if_pos hr
    · rw [if_neg hr]
      rcases h with hempty | ⟨e', he', hr'⟩
      · exact .inl hempty
      · rcases List.mem_cons.mp he' with rfl | he'
        · exact absurd hr' hr
        · exact .inr ⟨e', he', hr'⟩

/-- `_flush_pending_samples` leaves nothing in the buffers of its subjects. -/
theorem buffer_flushPendingSamples {w : Recording ι (Mapping V)} {subjects : List ι} {r : Nat}
    (h : w.buffer r = [] ∨ ∃ i ∈ subjects, ∃ e ∈ (w.subjects i).sensors, e.sensor = r) :
    (w.flushPendingSamples subjects).buffer r = [] := by
  unfold Recording.flushPendingSamples
  induction subjects generalizing w with
  | nil =>
    rcases h with hempty | ⟨i, hi, -⟩
    · exact hempty
    · cases hi
  | cons i subjects ih =>
    rw [List.foldl_cons]
    apply ih
    rcases h with hempty | ⟨j, hj, hentry⟩
    · left
      exact buffer_flushEntries (.inl hempty)
    · rcases List.mem_cons.mp hj with rfl | hj
      · left
        exact buffer_flushEntries (.inr hentry)
      · right
        rw [subjects_flushEntries]
        exact ⟨j, hj, hentry⟩

/-- A buffer that is empty stays so while its sensor gets nothing. -/
theorem buffer_of_advance {w w' : Recording ι (Mapping V)} {came : Nat → List (Sample (Mapping V))}
    (h : Recording.Advance w came w') {r : Nat} (hempty : w.buffer r = []) (hcame : came r = []) :
    w'.buffer r = [] := by
  obtain ⟨more, hmore, -⟩ := h.sound
  have hwritten : w'.written r = w.written r ++
      (more.filter fun b => decide (b.entry.sensor = r)).flatMap Block.samples := by
    rw [← Recording.written_append]
    unfold Recording.written
    rw [hmore]
  have hconserved := h.conserved r
  rw [hempty, hcame, hwritten, List.append_nil, List.append_nil, List.append_assoc] at hconserved
  have hnothing := List.append_cancel_left (hconserved.trans (List.append_nil _).symm)
  exact (List.append_eq_nil_iff.mp hnothing).2

/-! ## One step -/

theorem blocksOf_append (r : Nat) (blocks more : List (Block (Mapping V))) :
    blocksOf r (blocks ++ more) = blocksOf r blocks ++ blocksOf r more := by
  simp only [blocksOf, List.filter_append, List.map_append]

/-- The blocks of a sensor, one behind the other. -/
theorem flatten_blocksOf (w : Recording ι (Mapping V)) (r : Nat) :
    (blocksOf r w.enqueued).flatten = rows (w.written r) := by
  rw [blocksOf, rows, Recording.written, List.map_flatMap]
  rfl

theorem ingested_snoc (w : Recording ι (Mapping V)) (r : Nat)
    (events : List (Event ι (Mapping V))) (event : Event ι (Mapping V)) :
    w.ingested r (events ++ [event]) = w.ingested r events ++ w.taken r event := by
  simp only [Recording.ingested, List.flatMap_append, List.flatMap_singleton]

/-- What a sensor took in has been cut into blocks or is in its buffer. -/
theorem Coupled.conserved {r : Nat} {start s : System ι V} (hstart : start.Starting)
    (h : Coupled ser r start s) (q : Nat) :
    s.core.written q ++ s.core.buffer q = start.core.ingested q s.events := by
  have hwritten : start.core.written q = [] := by
    rw [Recording.written, hstart.blocks]
    rfl
  rw [h.advance.conserved, hwritten, Recording.buffer, hstart.buffers]
  rfl

/-- A queued sample is one that was taken in. -/
theorem Coupled.came {r : Nat} {start s : System ι V} (hstart : start.Starting)
    (h : Coupled ser r start s) {b : Block (Mapping V)} (hb : b ∈ s.core.enqueued)
    {x : Sample (Mapping V)} (hx : x ∈ b.samples) :
    x ∈ start.core.ingested b.entry.sensor s.events := by
  have hwritten : x ∈ s.core.written b.entry.sensor :=
    List.mem_flatMap.mpr ⟨b, List.mem_filter.mpr ⟨hb, decide_eq_true rfl⟩, hx⟩
  rw [← h.conserved hstart]
  exact List.mem_append_left _ hwritten

theorem Coupled.sound {r : Nat} {start s : System ι V} (hstart : start.Starting)
    (h : Coupled ser r start s) {b : Block (Mapping V)} (hb : b ∈ s.core.enqueued) :
    Recording.Block.Sound b := by
  obtain ⟨more, hmore, hsound⟩ := h.advance.sound
  rw [hstart.blocks, List.nil_append] at hmore
  rw [hmore] at hb
  exact hsound b hb

theorem coupled_start {start : System ι V} (hstart : start.Starting) {r : Nat}
    (hledger : State.Ledger ser start.writer) (hfresh : (start.writer.account r).enqueued = []) :
    Coupled ser r start start := by
  have hnothing (q : Nat) : start.core.ingested q start.events = [] := by
    rw [hstart.events]
    rfl
  refine ⟨?_, ?_, ?_, ?_, hledger⟩
  · simp only [hnothing]
    exact .refl _
  · intro q x hx
    rw [hnothing] at hx
    cases hx
  · rw [hstart.handed]
    exact Nat.zero_le _
  · intro _
    rw [hfresh, hstart.handed]
    rfl

/-- A call of the core: what it brings is taken in, and blocks are added behind the others. -/
theorem coupled_core {r : Nat} {start s : System ι V} (hstart : start.Starting)
    (h : Coupled ser r start s) {event : Event ι (Mapping V)} {core : Recording ι (Mapping V)}
    (hstep : Recording.step s.core event = some core)
    (hcolumns : ∀ q, ∀ x ∈ s.core.taken q event, x.value.keys ≠ []) :
    Coupled ser r start { s with core := core, events := s.events ++ [event] } := by
  have hready := h.advance.ready hstart.ready
  obtain ⟨core', hcore', hone⟩ := Recording.advance_step hready event
  rw [hstep] at hcore'
  cases hcore'
  have hsame (q : Nat) : s.core.taken q event = start.core.taken q event :=
    h.advance.taken_eq q event
  obtain ⟨more, hmore, -⟩ := hone.sound
  refine ⟨?_, ?_, ?_, ?_, h.ledger⟩
  · have hall := h.advance.trans hone
    simpa only [ingested_snoc, hsame] using hall
  · intro q x hx
    rw [ingested_snoc, ← hsame] at hx
    rcases List.mem_append.mp hx with hold | hnew
    · exact h.columns q x hold
    · exact hcolumns q x hnew
  · show s.handed ≤ core.enqueued.length
    have hhanded := h.handed
    rw [hmore, List.length_append]
    omega
  · intro hopen
    show _ = blocksOf r (core.enqueued.take s.handed)
    rw [hmore, List.take_append_of_le_length h.handed]
    exact h.queued hopen

/-- A block of the core gets into the queue. -/
theorem coupled_hand {r : Nat} {start s : System ι V} (hstart : start.Starting)
    (h : Coupled ser r start s) {b : Block (Mapping V)}
    (hnext : s.core.enqueued[s.handed]? = some b) :
    Coupled ser r start { s with
      handed := s.handed + 1
      writer := s.writer.enqueueBlock b.entry.sensor (rows b.samples) } := by
  have hb : b ∈ s.core.enqueued := List.mem_of_getElem? hnext
  obtain ⟨hlt, -⟩ := List.getElem?_eq_some_iff.mp hnext
  have htake : s.core.enqueued.take (s.handed + 1) = s.core.enqueued.take s.handed ++ [b] := by
    rw [List.take_add_one, hnext]
    rfl
  have hne : rows b.samples ≠ [] := fun hnil =>
    (h.sound hstart hb).1 (List.map_eq_nil_iff.mp hnil)
  refine ⟨h.advance, h.columns, hlt, ?_, ?_⟩
  · show ((s.writer.enqueueBlock b.entry.sensor (rows b.samples)).metaData r).filePath.isSome =
      true → ((s.writer.enqueueBlock b.entry.sensor (rows b.samples)).account r).enqueued = _
    intro hopen
    show _ = blocksOf r (s.core.enqueued.take (s.handed + 1))
    rw [htake, blocksOf_append]
    unfold State.enqueueBlock at hopen ⊢
    by_cases hr : b.entry.sensor = r
    · have hone : blocksOf r [b] = [rows b.samples] := by
        simp only [blocksOf, hr, decide_true, List.filter_cons_of_pos, List.filter_nil,
          List.map_cons, List.map_nil]
      rw [hone]
      subst hr
      split at hopen
      · rename_i hclosed
        rw [hclosed] at hopen
        cases hopen
      · rw [if_neg hne] at hopen ⊢
        simp only [Function.update_self]
        rw [h.queued hopen]
    · have hnone : blocksOf r [b] = [] := by
        simp [blocksOf, hr]
      rw [hnone, List.append_nil]
      split at hopen
      · exact h.queued hopen
      · rw [if_neg hne] at hopen ⊢
        simp only [Function.update_of_ne (Ne.symm hr)]
        exact h.queued hopen
  · apply State.ledger_enqueue h.ledger
    intro m hm
    obtain ⟨x, hx, rfl⟩ := List.mem_map.mp hm
    exact h.columns _ x (h.came hstart hb hx)

theorem queued_writeTaken (ser : Serialization V) (s : State Nat V) (e : Nat)
    (samples : List (Mapping V)) (raised : Option (List Char × Option (List String))) (r : Nat) :
    ((s.writeTaken ser e samples raised).metaData r).filePath = (s.metaData r).filePath ∧
      ((s.writeTaken ser e samples raised).account r).enqueued = (s.account r).enqueued := by
  have hstore (s : State Nat V) (path : WriterLedger.Place) (f : RawFile) (ok : Bool) :
      ((s.store e path samples f ok).metaData r).filePath = (s.metaData r).filePath ∧
        ((s.store e path samples f ok).account r).enqueued = (s.account r).enqueued := by
    unfold State.store
    simp only [Function.update_apply]
    split_ifs with hr
    · subst hr
      exact ⟨rfl, rfl⟩
    · exact ⟨rfl, rfl⟩
  unfold State.writeTaken
  split
  · exact ⟨rfl, rfl⟩
  · cases raised with
    | none => exact hstore s _ _ _
    | some left => exact hstore (s.recordFailure e _) _ _ _

/-- A file that is open after a step of the file manager which does not open it was open before, and
nothing is queued for it. -/
theorem queued_writer {s s' : State Nat V} {a : WriterLedger.Action Nat V} {r : Nat}
    (hstep : State.step ser s a = some s') (hother : ∀ e samples, a ≠ .enqueue e samples)
    (hopened : ∀ subjectId path, a ≠ .opened r subjectId path)
    (hopen : (s'.metaData r).filePath.isSome = true) :
    (s.metaData r).filePath.isSome = true ∧
      (s'.account r).enqueued = (s.account r).enqueued := by
  cases a with
  | clear subjectIds =>
    cases hstep
    exact ⟨hopen, rfl⟩
  | opened e subjectId path =>
    cases hstep
    have he : r ≠ e := by
      rintro rfl
      exact hopened subjectId path rfl
    unfold State.startEntry at hopen ⊢
    simp only [Function.update_of_ne he] at hopen ⊢
    exact ⟨hopen, trivial⟩
  | closed e =>
    cases hstep
    unfold State.stopEntry at hopen ⊢
    by_cases he : r = e
    · subst he
      simp only [Function.update_self] at hopen
      cases hopen
    · simp only [Function.update_of_ne he] at hopen
      exact ⟨hopen, rfl⟩
  | enqueue e samples => exact absurd rfl (hother e samples)
  | get =>
    obtain ⟨queue, -, rfl⟩ := Option.map_eq_some_iff.mp hstep
    exact ⟨hopen, rfl⟩
  | write raised =>
    simp only [State.step] at hstep
    split at hstep <;> cases hstep
    rename_i e samples htaken hwrote
    obtain ⟨hpath, henqueued⟩ := queued_writeTaken ser s e samples raised r
    rw [← hpath, henqueued]
    exact ⟨hopen, rfl⟩
  | done =>
    simp only [State.step] at hstep
    split at hstep <;> cases hstep
    exact ⟨hopen, rfl⟩

theorem coupled_writer {r : Nat} {start s : System ι V} (h : Coupled ser r start s)
    {a : WriterLedger.Action Nat V} {writer : State Nat V} (hok : orderly r s (.writer a))
    (hstep : State.step ser s.writer a = some writer) :
    Coupled ser r start { s with writer := writer } := by
  have hother : ∀ e samples, a ≠ .enqueue e samples := by
    rintro e samples rfl
    exact hok
  have hopened : ∀ subjectId path, a ≠ .opened r subjectId path := by
    rintro subjectId path rfl
    exact hok.1 rfl
  have horderly : s.writer.orderly a := by
    cases a with
    | opened e subjectId path => exact hok.2
    | enqueue e samples => exact absurd rfl (hother e samples)
    | clear subjectIds => trivial
    | closed e => trivial
    | get => trivial
    | write raised => trivial
    | done => trivial
  refine ⟨h.advance, h.columns, h.handed, ?_, State.ledger_step horderly hstep h.ledger⟩
  intro hopen
  obtain ⟨hbefore, hsame⟩ := queued_writer hstep hother hopened hopen
  show (writer.account r).enqueued = _
  rw [hsame]
  exact h.queued hbefore

theorem coupled_step {r : Nat} {start s s' : System ι V} (hstart : start.Starting)
    {a : Action ι V} (hok : orderly r s a) (hstep : step ser s a = some s')
    (h : Coupled ser r start s) : Coupled ser r start s' := by
  cases a with
  | core event =>
    obtain ⟨core, hcore, rfl⟩ := Option.map_eq_some_iff.mp hstep
    refine coupled_core hstart h hcore ?_
    intro q x hx
    cases event with
    | sample i y =>
      simp only [Recording.taken] at hx
      split at hx
      · rw [List.mem_singleton.mp hx]
        exact hok
      · cases hx
    | flush subjects => cases hx
  | hand =>
    obtain ⟨b, hnext, rfl⟩ := Option.map_eq_some_iff.mp hstep
    exact coupled_hand hstart h hnext
  | writer a =>
    obtain ⟨writer, hwriter, rfl⟩ := Option.map_eq_some_iff.mp hstep
    exact coupled_writer h hok hwriter

/-! ## The end of a stream -/

/-- A sensor that gets nothing: its buffer stays empty and its samples stay what they are. -/
structure Silent (r : Nat) (start before s : System ι V) : Prop where
  buffer : s.core.buffer r = []
  ingested : start.core.ingested r s.events = start.core.ingested r before.events

theorem silent_step {r : Nat} {start before s s' : System ι V} (hstart : start.Starting)
    (h : Coupled ser r start s) {a : Action ι V} (hstep : step ser s a = some s')
    (hnothing : s.brought r a = []) (hsilent : Silent r start before s) :
    Silent r start before s' := by
  cases a with
  | core event =>
    obtain ⟨core, hcore, rfl⟩ := Option.map_eq_some_iff.mp hstep
    obtain ⟨core', hcore', hone⟩ :=
      Recording.advance_step (h.advance.ready hstart.ready) event
    rw [hcore] at hcore'
    cases hcore'
    refine ⟨buffer_of_advance hone hsilent.buffer hnothing, ?_⟩
    have hsame : s.core.taken r event = start.core.taken r event := h.advance.taken_eq r event
    rw [ingested_snoc, ← hsame, hsilent.ingested]
    show _ ++ s.brought r (.core event) = _
    rw [hnothing, List.append_nil]
  | hand =>
    obtain ⟨b, -, rfl⟩ := Option.map_eq_some_iff.mp hstep
    exact ⟨hsilent.buffer, hsilent.ingested⟩
  | writer a =>
    obtain ⟨writer, -, rfl⟩ := Option.map_eq_some_iff.mp hstep
    exact ⟨hsilent.buffer, hsilent.ingested⟩

/-- The flush of a stop empties the buffers of its subjects. -/
theorem silent_flush {r : Nat} {start s s' : System ι V} (h : Coupled ser r start s)
    {subjects : List ι} (hstep : step ser s (.core (.flush subjects)) = some s') {i : ι}
    (hi : i ∈ subjects) {e : Entry} (he : e ∈ (start.core.subjects i).sensors) :
    Silent e.sensor start s s' := by
  cases hstep
  refine ⟨buffer_flushPendingSamples (.inr ⟨i, hi, e, ?_, rfl⟩), ?_⟩
  · rw [h.advance.sensors]
    exact he
  · rw [ingested_snoc]
    exact List.append_nil _

/-- **A stopped stream is complete on disk.** However calls of the core, the puts of their blocks,
files opened and closed and the turns of the writer interleave, and whichever writes raise: when a
stop has flushed the buffers of its subjects and then the queue, the file of each of their sensors
that was opened before the stream reads back as one header and one row for every sample that the
sensor brought, in order, or its subject gets a marker. -/
theorem stopped_complete {start before flushed s : System ι V} (hstart : start.Starting) {i : ι}
    {e : Entry} (he : e ∈ (start.core.subjects i).sensors)
    (hwriter : Machine.Run (State.step ser) State.orderly State.init start.writer)
    (hfresh : (start.writer.account e.sensor).enqueued = [])
    (hbefore : Machine.Run (step ser) (orderly e.sensor) start before) {subjects : List ι}
    (hi : i ∈ subjects) (hflush : step ser before (.core (.flush subjects)) = some flushed)
    (hafter : Machine.Run (step ser)
      (fun s a => orderly e.sensor s a ∧ s.brought e.sensor a = []) flushed s)
    (hhanded : s.handed = s.core.enqueued.length) (hjoined : s.writer.queue.unfinished = 0)
    {path : WriterLedger.Place} (hopen : (s.writer.metaData e.sensor).filePath = some path)
    (hkept : (s.writer.account e.sensor).cleared = false) {subjectIds : List String}
    (hsubject : s.writer.subjectKey e.sensor ∈ subjectIds) :
    (∃ m ∈ s.writer.markSubjectOutputsPartial subjectIds,
        m.subjectId = s.writer.subjectKey e.sensor) ∨
      Csv.read (s.writer.files path) =
        table ser (rows (start.core.ingested e.sensor before.events)) := by
  have hledger : State.Ledger ser start.writer :=
    hwriter.invariant State.ledger_init fun _ _ _ => State.ledger_step
  have hcoupled : Coupled ser e.sensor start before :=
    hbefore.invariant (coupled_start hstart hledger hfresh) fun _ _ _ => coupled_step hstart
  have hok : orderly e.sensor before (.core (.flush subjects)) := trivial
  have hcut : Coupled ser e.sensor start flushed := coupled_step hstart hok hflush hcoupled
  have hend : Coupled ser e.sensor start s ∧ Silent e.sensor start before s := by
    refine hafter.invariant
      (I := fun s => Coupled ser e.sensor start s ∧ Silent e.sensor start before s)
      ⟨hcut, silent_flush hcoupled hflush hi he⟩ ?_
    intro s₁ a s₂ hok hstep hboth
    exact ⟨coupled_step hstart hok.1 hstep hboth.1,
      silent_step hstart hboth.1 hstep hok.2 hboth.2⟩
  obtain ⟨hcoupled, hsilent⟩ := hend
  -- everything that was taken in is in blocks, and every block is queued for the file
  have hqueued : (s.writer.account e.sensor).enqueued.flatten =
      rows (start.core.ingested e.sensor before.events) := by
    have hopened : (s.writer.metaData e.sensor).filePath.isSome = true := by rw [hopen]; rfl
    have hwritten := hcoupled.conserved hstart e.sensor
    rw [hsilent.buffer, List.append_nil, hsilent.ingested] at hwritten
    rw [hcoupled.queued hopened, hhanded, List.take_length, flatten_blocksOf, hwritten]
  rw [← hqueued]
  exact hcoupled.ledger.complete_or_partial hjoined hopen hkept hsubject

/-- One sensor, with blocks of two samples. -/
def oneSensor : Recording Unit (Mapping Nat) where
  heap := fun _ => ⟨some "ankle", []⟩
  subjects := fun _ => ⟨"s1", [⟨0, none, some 2, some "ankle.csv"⟩], 0⟩

def opening : System Unit Nat where
  core := oneSensor
  handed := 0
  writer := State.init.startEntry 0 "s1" ["raw", "ankle.csv"]
  events := []

theorem starting_opening : opening.Starting := by
  refine ⟨?_, ?_, rfl, fun _ => rfl, rfl, rfl⟩
  · intro i e he
    rw [List.mem_singleton.mp he]
    exact ⟨by decide, rfl⟩
  · intro i j e he e' he' _
    rw [List.mem_singleton.mp he, List.mem_singleton.mp he']
    exact ⟨rfl, rfl⟩

def ankleSample (n : Nat) : Event Unit (Mapping Nat) :=
  .sample () ⟨some "ankle", Dict.single "x" n⟩

/-- Two samples make a block, and a third one comes before the flush. -/
def calls : List (Action Unit Nat) :=
  [.core (ankleSample 1), .core (ankleSample 2), .hand, .writer .get, .core (ankleSample 3)]

def turns : List (Action Unit Nat) :=
  [.hand, .writer (.write none), .writer .done, .writer .get, .writer (.write none), .writer .done]

theorem stopped_complete_opening : ∃ s : System Unit Nat,
    (∃ m ∈ s.writer.markSubjectOutputsPartial ["s1"], m.subjectId = s.writer.subjectKey 0) ∨
      Csv.read (s.writer.files ["raw", "ankle.csv"]) =
        table numerals (rows (opening.core.ingested 0
          [ankleSample 1, ankleSample 2, ankleSample 3])) := by
  have hwriter : Machine.Run (State.step numerals) State.orderly State.init opening.writer := by
    refine .tail (.opened 0 "s1" ["raw", "ankle.csv"]) .refl ⟨?_, ?_⟩ rfl
    · intro x hx
      cases hx
    · intro e _ hopen
      cases hopen
  have hcolumn (n : Nat) : (Dict.single "x" n).keys ≠ [] := List.cons_ne_nil _ _
  have hcalls : ∀ a ∈ calls, ∀ s, orderly 0 s a := by
    simp only [calls, List.forall_mem_cons]
    exact ⟨fun _ => hcolumn 1, fun _ => hcolumn 2, fun _ => trivial, fun _ => trivial,
      fun _ => hcolumn 3, List.forall_mem_nil _⟩
  have hturns : ∀ a ∈ turns, ∀ s, orderly 0 s a ∧ s.brought 0 a = [] := by
    simp only [turns, List.forall_mem_cons]
    refine ⟨?_, ?_, ?_, ?_, ?_, ?_, List.forall_mem_nil _⟩ <;> exact fun s => ⟨trivial, rfl⟩
  exact ⟨_, stopped_complete starting_opening (i := ()) (e := ⟨0, none, some 2, some "ankle.csv"⟩)
    List.mem_cons_self hwriter rfl (.of_exec calls hcalls rfl)
    (List.mem_cons_self : () ∈ [()]) rfl (.of_exec turns hturns rfl) rfl rfl rfl rfl
    List.mem_cons_self⟩

end System

end NexusN3.Storage.DataPath
