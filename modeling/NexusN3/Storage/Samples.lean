import NexusN3.Config.SubjectGraph
import NexusN3.Lib.Machine
import Mathlib.Logic.Function.Basic

/-!
# Samples on their way to the writer

`Subject.ingest_sample` appends a sample to the buffer of its sensor and hands full blocks to the
writer; `Core._flush_pending_samples` hands over what is left. Both go through
`FileManager.enqueue_block`. The buffers belong to the sensor objects, which entries share.

* **`Recording`** — the sensor objects, the subjects, and what has been put into the queue.
* **`Advance`** — what a call does to them: it takes samples in and loses none.
* **`drainBlocks_spec`** — the block loop cuts a buffer and ends.
* **`nothing_lost`** — for every interleaving, blocks and buffer are what was taken in.
-/

namespace NexusN3.Storage

open Lib

universe u v

/-! ## The data -/

structure Sample (V : Type v) where
  address : Option String
  value : V

structure Sensor (V : Type v) where
  address : Option String
  rawData : List (Sample V) := []

structure MetaData where
  location : Option String := none
  fBlockSize : Option Int := none
  filePath : Option String := none

/-- One entry of `Subject.sensors`; the sensor is an object on the heap. -/
structure Entry where
  sensor : Nat
  metaData : MetaData

/-- `entry["meta"].get("f_block_size", 300)`. -/
def Entry.blockSize (e : Entry) : Int := e.metaData.fBlockSize.getD 300

structure Subject where
  subjectId : String
  sensors : List Entry
  sampleCount : Nat := 0

/-- What `enqueue_block` puts into the queue, and who called it. -/
structure Block (V : Type v) where
  entry : Entry
  samples : List (Sample V)
  flushed : Bool

structure Recording (ι : Type u) (V : Type v) where
  heap : Nat → Sensor V
  subjects : ι → Subject
  /-- everything put into `_raw_write_queue` so far -/
  enqueued : List (Block V) := []

inductive Event (ι : Type u) (V : Type v) where
  | sample (subject : ι) (s : Sample V)
  | flush (subjects : List ι)

namespace Recording

variable {ι : Type u} {V : Type v}

/-! ## The calls -/

/-- `FileManager.enqueue_block`. -/
def enqueueBlock (w : Recording ι V) (entry : Entry) (samples : List (Sample V)) (flushed : Bool) :
    Recording ι V :=
  if entry.metaData.filePath.isNone || samples.isEmpty then w
  else { w with enqueued := w.enqueued ++ [⟨entry, samples, flushed⟩] }

def setRawData (w : Recording ι V) (r : Nat) (raw : List (Sample V)) : Recording ι V :=
  { w with heap := Function.update w.heap r { w.heap r with rawData := raw } }

/-- The first entry of the subject whose sensor has the address of the sample. -/
def entryFor (w : Recording ι V) (i : ι) (s : Sample V) : Option Entry :=
  (w.subjects i).sensors.find? fun e => decide ((w.heap e.sensor).address = s.address)

/-- `Subject.ingest_sample`; `none` when its loop does not end. -/
def ingestSample [DecidableEq ι] (w : Recording ι V) (i : ι) (s : Sample V) :
    Option (Recording ι V × Bool) :=
  let subject := w.subjects i
  let counted := { w with
    subjects := Function.update w.subjects i
      { subject with sampleCount := subject.sampleCount + 1 } }
  match w.entryFor i s with
  | none => some (counted, false)
  | some entry =>
    let raw := (w.heap entry.sensor).rawData ++ [s]
    -- a loop that ends takes less than one turn for each sample
    (Config.drainBlocks (raw.length + 1) entry.blockSize raw).map fun (blocks, rest) =>
      ((blocks.foldl (fun w block => w.enqueueBlock entry block false) counted).setRawData
        entry.sensor rest, true)

/-- One turn of the inner loop in `_flush_pending_samples`. -/
def flushEntry (w : Recording ι V) (entry : Entry) : Recording ι V :=
  let pending := (w.heap entry.sensor).rawData
  if pending.isEmpty then w
  else (w.enqueueBlock entry pending true).setRawData entry.sensor []

/-- `Core._flush_pending_samples`. -/
def flushPendingSamples (w : Recording ι V) (subjects : List ι) : Recording ι V :=
  subjects.foldl (fun w i => (w.subjects i).sensors.foldl flushEntry w) w

def step [DecidableEq ι] : Machine (Recording ι V) (Event ι V)
  | w, .sample i s => (w.ingestSample i s).map Prod.fst
  | w, .flush subjects => some (w.flushPendingSamples subjects)

/-! ## What has become of the samples -/

def buffer (w : Recording ι V) (r : Nat) : List (Sample V) := (w.heap r).rawData

/-- The blocks of one sensor, one behind the other. -/
def written (w : Recording ι V) (r : Nat) : List (Sample V) :=
  (w.enqueued.filter fun b => decide (b.entry.sensor = r)).flatMap Block.samples

/-- The samples that one event brings to a sensor. -/
def taken (w : Recording ι V) (r : Nat) : Event ι V → List (Sample V)
  | .sample i s => if (w.entryFor i s).map Entry.sensor = some r then [s] else []
  | .flush _ => []

/-- The samples of a sensor, in the order they came. -/
def ingested (w : Recording ι V) (r : Nat) (events : List (Event ι V)) : List (Sample V) :=
  events.flatMap (w.taken r)

/-- Every sensor has a block size of at least one and an open file. -/
def Ready (w : Recording ι V) : Prop :=
  ∀ i, ∀ e ∈ (w.subjects i).sensors, 1 ≤ e.blockSize ∧ e.metaData.filePath.isSome = true

/-- No block is empty, and one that `ingest_sample` enqueued is full. -/
def Block.Sound (b : Block V) : Prop :=
  b.samples ≠ [] ∧ (b.flushed = false → (b.samples.length : Int) = b.entry.blockSize)

/-- From `w` to `w'` the sensor `r` has taken in the samples `came r`, and none is lost. -/
structure Advance (w : Recording ι V) (came : Nat → List (Sample V)) (w' : Recording ι V) :
    Prop where
  sensors : ∀ i, (w'.subjects i).sensors = (w.subjects i).sensors
  addresses : ∀ r, (w'.heap r).address = (w.heap r).address
  conserved : ∀ r, w'.written r ++ w'.buffer r = w.written r ++ w.buffer r ++ came r
  sound : ∃ more, w'.enqueued = w.enqueued ++ more ∧ ∀ b ∈ more, Block.Sound b

theorem Advance.refl (w : Recording ι V) : Advance w (fun _ => []) w :=
  ⟨fun _ => rfl, fun _ => rfl, fun _ => (List.append_nil _).symm, [], (List.append_nil _).symm,
    List.forall_mem_nil _⟩

theorem Advance.trans {w w₁ w₂ : Recording ι V} {came came' : Nat → List (Sample V)}
    (h : Advance w came w₁) (h' : Advance w₁ came' w₂) :
    Advance w (fun r => came r ++ came' r) w₂ := by
  obtain ⟨more, hmore, hsound⟩ := h.sound
  obtain ⟨more', hmore', hsound'⟩ := h'.sound
  refine ⟨fun i => (h'.sensors i).trans (h.sensors i),
    fun r => (h'.addresses r).trans (h.addresses r), fun r => ?_, more ++ more', ?_, ?_⟩
  · rw [h'.conserved, h.conserved, List.append_assoc]
  · rw [hmore', hmore, List.append_assoc]
  · exact List.forall_mem_append.mpr ⟨hsound, hsound'⟩

theorem Advance.ready {w w' : Recording ι V} {came : Nat → List (Sample V)}
    (h : Advance w came w') (hready : w.Ready) : w'.Ready := by
  intro i e he
  rw [h.sensors] at he
  exact hready i e he

/-- What an event brings depends on what stays the same. -/
theorem Advance.taken_eq {w w' : Recording ι V} {came : Nat → List (Sample V)}
    (h : Advance w came w') (r : Nat) (event : Event ι V) : w'.taken r event = w.taken r event := by
  cases event with
  | flush subjects => rfl
  | sample i s =>
    have hentry : w'.entryFor i s = w.entryFor i s := by
      unfold entryFor
      rw [h.sensors]
      simp only [h.addresses]
    simp only [taken, hentry]

/-! ## The block loop -/

/-- With a positive block size the loop ends, its blocks are full, and what is left is short. -/
theorem drainBlocks_spec {S : Type v} {b : Int} (hb : 1 ≤ b) (fuel : Nat) (raw : List S)
    (hfuel : raw.length < fuel) : ∃ blocks rest,
    Config.drainBlocks fuel b raw = some (blocks, rest) ∧ blocks.flatten ++ rest = raw ∧
      (∀ block ∈ blocks, (block.length : Int) = b) ∧ (rest.length : Int) < b := by
  induction fuel generalizing raw with
  | zero => exact absurd hfuel (Nat.not_lt_zero _)
  | succ fuel ih =>
    unfold Config.drainBlocks
    by_cases hfull : b ≤ raw.length
    · have hcut : Config.cut b raw = b.toNat := if_pos (by omega)
      obtain ⟨blocks, rest, hrun, hflat, hlength, hshort⟩ := ih (raw.drop b.toNat) (by
        rw [List.length_drop]
        omega)
      refine ⟨raw.take b.toNat :: blocks, rest, ?_, ?_, ?_, hshort⟩
      · rw [if_pos hfull, hcut, hrun]
        rfl
      · rw [List.flatten_cons, List.append_assoc, hflat, List.take_append_drop]
      · rw [List.forall_mem_cons]
        refine ⟨?_, hlength⟩
        rw [List.length_take]
        omega
    · rw [if_neg hfull]
      exact ⟨[], raw, rfl, rfl, List.forall_mem_nil _, not_le.mp hfull⟩

/-! ## One call -/

theorem written_append (w : Recording ι V) (more : List (Block V)) (r : Nat) :
    ({ w with enqueued := w.enqueued ++ more } : Recording ι V).written r =
      w.written r ++ (more.filter fun b => decide (b.entry.sensor = r)).flatMap Block.samples := by
  simp only [written, List.filter_append, List.flatMap_append]

theorem written_setRawData (w : Recording ι V) (q r : Nat) (raw : List (Sample V)) :
    (w.setRawData q raw).written r = w.written r := rfl

theorem buffer_setRawData (w : Recording ι V) (q r : Nat) (raw : List (Sample V)) :
    (w.setRawData q raw).buffer r = if q = r then raw else w.buffer r := by
  simp only [buffer, setRawData, Function.update_apply, eq_comm (a := r)]
  split <;> rfl

/-- With an open file all blocks that are not empty get into the queue. -/
theorem foldl_enqueueBlock {entry : Entry} (hopen : entry.metaData.filePath.isSome = true)
    (flushed : Bool) {blocks : List (List (Sample V))} (hfull : ∀ block ∈ blocks, block ≠ [])
    (w : Recording ι V) :
    blocks.foldl (fun w block => w.enqueueBlock entry block flushed) w =
      { w with enqueued := w.enqueued ++ blocks.map fun block => ⟨entry, block, flushed⟩ } := by
  induction blocks generalizing w with
  | nil => simp
  | cons block blocks ih =>
    obtain ⟨hblock, hrest⟩ := List.forall_mem_cons.mp hfull
    have hput : w.enqueueBlock entry block flushed =
        { w with enqueued := w.enqueued ++ [⟨entry, block, flushed⟩] } := by
      unfold enqueueBlock
      rw [if_neg]
      simp [hblock, Option.isNone_iff_eq_none, Option.isSome_iff_ne_none.mp hopen]
    rw [List.foldl_cons, hput, ih hrest]
    simp

/-- Blocks of one sensor go to the writer and the rest into its buffer. -/
theorem advance_put {w : Recording ι V} {entry : Entry} {came : List (Sample V)}
    {blocks : List (List (Sample V))} {rest : List (Sample V)} (flushed : Bool)
    (hflat : blocks.flatten ++ rest = w.buffer entry.sensor ++ came)
    (hopen : entry.metaData.filePath.isSome = true)
    (hsound : ∀ block ∈ blocks, Block.Sound (⟨entry, block, flushed⟩ : Block V)) :
    Advance w (fun r => if entry.sensor = r then came else [])
      ((blocks.foldl (fun w block => w.enqueueBlock entry block flushed) w).setRawData
        entry.sensor rest) := by
  rw [foldl_enqueueBlock hopen flushed fun block hblock => (hsound block hblock).1]
  refine ⟨fun _ => rfl, fun r => ?_, fun r => ?_, _, rfl, ?_⟩
  · simp only [setRawData, Function.update_apply]
    split
    · rename_i hr
      rw [hr]
    · rfl
  · rw [written_setRawData, written_append]
    by_cases hr : entry.sensor = r
    · subst hr
      have hblocks : ((blocks.map fun block => (⟨entry, block, flushed⟩ : Block V)).filter
          fun b => decide (b.entry.sensor = entry.sensor)).flatMap Block.samples =
            blocks.flatten := by
        simp [List.filter_map, Function.comp_def, List.flatMap_map, List.flatMap_id']
      rw [hblocks, buffer_setRawData, if_pos rfl, if_pos rfl, List.append_assoc, hflat,
        List.append_assoc]
    · have hblocks : ((blocks.map fun block => (⟨entry, block, flushed⟩ : Block V)).filter
          fun b => decide (b.entry.sensor = r)).flatMap Block.samples = [] := by
        simp [List.filter_map, Function.comp_def, hr]
      rw [hblocks, buffer_setRawData, if_neg hr, if_neg hr, List.append_nil, List.append_nil]
      rfl
  · intro b hb
    obtain ⟨block, hblock, rfl⟩ := List.mem_map.mp hb
    exact hsound block hblock

theorem advance_ingestSample [DecidableEq ι] {w : Recording ι V} (hready : w.Ready) (i : ι)
    (s : Sample V) : ∃ w' found, w.ingestSample i s = some (w', found) ∧
      Advance w (fun r => w.taken r (.sample i s)) w' := by
  have hcounted : Advance w (fun _ => []) { w with
      subjects := Function.update w.subjects i
        { w.subjects i with sampleCount := (w.subjects i).sampleCount + 1 } } := by
    refine ⟨fun j => ?_, fun _ => rfl, fun _ => (List.append_nil _).symm, [],
      (List.append_nil _).symm, List.forall_mem_nil _⟩
    simp only [Function.update_apply]
    split
    · rename_i hj
      rw [hj]
    · rfl
  unfold ingestSample
  cases hfind : w.entryFor i s with
  | none =>
    refine ⟨_, _, rfl, ?_⟩
    simpa only [taken, hfind, Option.map_none, reduceCtorEq, if_false] using hcounted
  | some entry =>
    have hmem : entry ∈ (w.subjects i).sensors := List.mem_of_find?_eq_some hfind
    obtain ⟨hsize, hopen⟩ := hready i entry hmem
    obtain ⟨blocks, rest, hrun, hflat, hlength, -⟩ := drainBlocks_spec hsize _
      ((w.heap entry.sensor).rawData ++ [s]) (Nat.lt_succ_self _)
    refine ⟨_, _, by dsimp only; rw [hrun]; rfl, ?_⟩
    have hput := advance_put (w := { w with
      subjects := Function.update w.subjects i
        { w.subjects i with sampleCount := (w.subjects i).sampleCount + 1 } })
      false hflat hopen fun block hblock => ?_
    · have hall := hcounted.trans hput
      simpa only [taken, hfind, Option.map_some, Option.some.injEq, List.nil_append] using hall
    · refine ⟨?_, fun _ => hlength block hblock⟩
      rintro rfl
      have hzero := hlength [] hblock
      simp only [List.length_nil] at hzero
      omega

theorem advance_flushEntry {w : Recording ι V} {entry : Entry}
    (hopen : entry.metaData.filePath.isSome = true) :
    Advance w (fun _ => []) (w.flushEntry entry) := by
  unfold flushEntry
  dsimp only
  split
  · exact .refl w
  · rename_i hpending
    have hflat : [w.buffer entry.sensor].flatten ++ [] = w.buffer entry.sensor ++ [] := by simp
    have hput := advance_put true hflat hopen fun block hblock => by
        rw [List.mem_singleton.mp hblock]
        refine ⟨?_, nofun⟩
        rintro hempty
        rw [buffer] at hempty
        exact hpending (List.isEmpty_iff.mpr hempty)
    simp only [ite_self] at hput
    exact hput

theorem advance_flushEntries {w : Recording ι V} {entries : List Entry}
    (hopen : ∀ e ∈ entries, e.metaData.filePath.isSome = true) :
    Advance w (fun _ => []) (entries.foldl flushEntry w) := by
  induction entries generalizing w with
  | nil => exact .refl w
  | cons e entries ih =>
    obtain ⟨he, hrest⟩ := List.forall_mem_cons.mp hopen
    exact (advance_flushEntry he).trans (ih hrest)

theorem advance_flushPendingSamples {w : Recording ι V} (hready : w.Ready) (subjects : List ι) :
    Advance w (fun _ => []) (w.flushPendingSamples subjects) := by
  unfold flushPendingSamples
  induction subjects generalizing w with
  | nil => exact .refl w
  | cons i subjects ih =>
    have hone := advance_flushEntries (w := w) fun e he => (hready i e he).2
    exact hone.trans (ih (hone.ready hready))

theorem advance_step [DecidableEq ι] {w : Recording ι V} (hready : w.Ready) (event : Event ι V) :
    ∃ w', step w event = some w' ∧ Advance w (fun r => w.taken r event) w' := by
  cases event with
  | sample i s =>
    obtain ⟨w', found, hrun, hadvance⟩ := advance_ingestSample hready i s
    exact ⟨w', by simp only [step, hrun, Option.map_some], hadvance⟩
  | flush subjects => exact ⟨_, rfl, advance_flushPendingSamples hready subjects⟩

/-! ## Every interleaving -/

/-- A run goes through, and every sensor has taken in what the events brought it. -/
theorem advance_exec [DecidableEq ι] {w : Recording ι V} (hready : w.Ready)
    (events : List (Event ι V)) :
    ∃ w', Machine.exec step w events = some w' ∧ Advance w (fun r => w.ingested r events) w' := by
  induction events generalizing w with
  | nil => exact ⟨w, rfl, .refl w⟩
  | cons event events ih =>
    obtain ⟨w₁, hstep, hone⟩ := advance_step hready event
    obtain ⟨w₂, hrun, hrest⟩ := ih (hone.ready hready)
    refine ⟨w₂, by rw [Machine.exec_cons, hstep]; exact hrun, ?_⟩
    have hall := hone.trans hrest
    have hsame (r : Nat) : w₁.taken r = w.taken r := funext (hone.taken_eq r)
    simpa only [ingested, List.flatMap_cons, hsame] using hall

/-- **No sample is lost or duplicated.** Where every sensor has a block size of at least one and an
open file, every sequence of samples and flushes goes through; the blocks of a sensor and what is
left in its buffer are the samples it took in, in order; no block is empty, and those of
`ingest_sample` are full. -/
theorem nothing_lost [DecidableEq ι] (w : Recording ι V) (hready : w.Ready)
    (hqueue : w.enqueued = []) (hbuffers : ∀ r, (w.heap r).rawData = [])
    (events : List (Event ι V)) :
    ∃ w', Machine.exec step w events = some w' ∧
      (∀ r, w'.written r ++ w'.buffer r = w.ingested r events) ∧
      (∀ b ∈ w'.enqueued, b.flushed = false → (b.samples.length : Int) = b.entry.blockSize) ∧
      ∀ b ∈ w'.enqueued, b.samples ≠ [] := by
  obtain ⟨w', hrun, hadvance⟩ := advance_exec hready events
  obtain ⟨more, hmore, hsound⟩ := hadvance.sound
  rw [hqueue, List.nil_append] at hmore
  refine ⟨w', hrun, fun r => ?_, ?_, ?_⟩
  · rw [hadvance.conserved, written, buffer, hqueue, hbuffers]
    rfl
  · rw [hmore]
    exact fun b hb => (hsound b hb).2
  · rw [hmore]
    exact fun b hb => (hsound b hb).1

/-- Two sensors of one subject, with blocks of two and of three samples. -/
def twoSensors : Recording Unit Nat where
  heap := fun r => ⟨some (if r = 0 then "ankle" else "wrist"), []⟩
  subjects := fun _ => ⟨"s1", [⟨0, none, some 2, some "ankle.csv"⟩,
    ⟨1, none, some 3, some "wrist.csv"⟩], 0⟩

theorem nothing_lost_twoSensors :
    let events : List (Event Unit Nat) := [.sample () ⟨some "ankle", 1⟩,
      .sample () ⟨some "wrist", 2⟩, .sample () ⟨some "ankle", 3⟩, .flush [()],
      .sample () ⟨some "wrist", 4⟩]
    ∃ w', Machine.exec step twoSensors events = some w' ∧
      (∀ r, w'.written r ++ w'.buffer r = twoSensors.ingested r events) ∧
      (∀ b ∈ w'.enqueued, b.flushed = false → (b.samples.length : Int) = b.entry.blockSize) ∧
      ∀ b ∈ w'.enqueued, b.samples ≠ [] := by
  refine nothing_lost twoSensors ?_ rfl (fun _ => rfl) _
  intro i e he
  simp only [twoSensors, List.mem_cons, List.not_mem_nil, or_false] at he
  rcases he with rfl | rfl <;> exact ⟨by decide, rfl⟩

end Recording

end NexusN3.Storage
