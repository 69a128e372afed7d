import NexusN3.Lib.Csv
import Mathlib.Data.List.Induction

/-!
# The raw file of one sensor

`start_stream` makes an empty file and forgets the headers; `write_block` appends one row for each
sample of a block. When a block brings columns that the file does not have, the whole file is read
back and written again under the wider header. The headers are kept apart from the file, in the
metadata of the entry.

* **`columns`** — all column names, in the order in which they first appear.
* **`Holds`** — file and metadata say what the samples so far say.
* **`holds_writeBlock`** — one block.
* **`read_written`** — whatever the blocks are, the file reads back as one header and one row a
  sample.
-/

namespace NexusN3.Storage

open Lib

universe u

/-- What `_sample_to_mapping` makes of a sample: a value for each of its columns. -/
abbrev Mapping (V : Type) := Dict String V

/-- What the language does with a value. -/
structure Serialization (V : Type) where
  /-- it is a dictionary or a list -/
  isContainer : V → Bool
  dumps : V → String
  /-- what `csv.writer` makes of any other value -/
  str : V → String

/-- The text that `_serialize_csv_value(mapping.get(header))` becomes in the file. -/
def Serialization.cell {V : Type} (ser : Serialization V) : Option V → String
  | none => ""
  | some v => if ser.isContainer v then ser.dumps v else ser.str v

/-- The file of an entry, and `meta["raw_headers"]`. -/
structure RawFile where
  text : List Char
  rawHeaders : Option (List String)

/-- What `start_stream` leaves. -/
def startStream : RawFile := ⟨[], none⟩

section Writing

variable {V : Type}

/-- One turn of the inner loop in `_derive_headers`. -/
def addHeader (headers : List String) (key : String) : List String :=
  if key ∈ headers then headers else headers ++ [key]

def deriveHeaders (sampleMappings : List (Mapping V)) : List String :=
  sampleMappings.foldl (fun headers mapping => mapping.keys.foldl addHeader headers) []

/-- The rows under the old header, each with the cells it has. -/
def existingRows (text : List Char) : List (Dict String (Option String)) :=
  if text = [] then []
  else if (Csv.readDict text).1 = [] then [] else (Csv.readDict text).2

/-- `row.get(header, "")`, as it is written: `None` becomes an empty cell. -/
def oldCell (row : Dict String (Option String)) (header : String) : String :=
  ((row.get? header).getD (some "")).getD ""

def ensureRawHeaders (f : RawFile) (sampleMappings : List (Mapping V)) :
    List String × RawFile :=
  let headers := f.rawHeaders.getD []
  let derivedHeaders := deriveHeaders sampleMappings
  if headers = [] then
    (derivedHeaders, ⟨Csv.writeRow derivedHeaders, some derivedHeaders⟩)
  else
    let missing := derivedHeaders.filter (· ∉ headers)
    if missing = [] then (headers, f)
    else
      let expandedHeaders := headers ++ missing
      let rows := (existingRows f.text).map fun row => expandedHeaders.map (oldCell row)
      (expandedHeaders, ⟨(expandedHeaders :: rows).flatMap Csv.writeRow, some expandedHeaders⟩)

variable (ser : Serialization V)

/-- The cells of a sample under a header. -/
def row (headers : List String) (mapping : Mapping V) : List String :=
  headers.map fun header => ser.cell (mapping.get? header)

def writeBlock (f : RawFile) (samples : List (Mapping V)) : RawFile :=
  if samples = [] then f
  else
    let (headers, f) := ensureRawHeaders f samples
    { f with text := f.text ++ (samples.map (row ser headers)).flatMap Csv.writeRow }

end Writing

/-! ## The columns -/

section Columns

variable {V : Type}

/-- All column names of the samples, in the order in which they first appear. -/
def columns (samples : List (Mapping V)) : List String := (samples.flatMap Dict.keys).eraseDups

theorem eraseDups_snoc (keys : List String) (key : String) :
    (keys ++ [key]).eraseDups = addHeader keys.eraseDups key := by
  rw [List.eraseDups_append, addHeader]
  by_cases hkey : key ∈ keys
  · simp [hkey, List.mem_eraseDups, List.removeAll]
  · simp [hkey, List.mem_eraseDups, List.removeAll, List.eraseDups_cons]

theorem foldl_addHeader (keys more : List String) :
    more.foldl addHeader keys.eraseDups = (keys ++ more).eraseDups := by
  induction more generalizing keys with
  | nil => rw [List.append_nil]; rfl
  | cons key more ih =>
    rw [List.foldl_cons, ← eraseDups_snoc, ih, List.append_assoc, List.singleton_append]

theorem deriveHeaders_eq (samples : List (Mapping V)) :
    deriveHeaders samples = columns samples := by
  have hall (keys : List String) : samples.foldl (fun headers mapping =>
      mapping.keys.foldl addHeader headers) keys.eraseDups =
        (keys ++ samples.flatMap Dict.keys).eraseDups := by
    induction samples generalizing keys with
    | nil => simp
    | cons s samples ih =>
      rw [List.foldl_cons, foldl_addHeader, ih, List.flatMap_cons, List.append_assoc]
  exact hall []

theorem nodup_columns (samples : List (Mapping V)) : (columns samples).Nodup := by
  unfold columns
  induction samples.flatMap Dict.keys using List.reverseRecOn with
  | nil => exact List.nodup_nil
  | append_singleton keys key ih =>
    rw [eraseDups_snoc, addHeader]
    split
    · exact ih
    · rename_i hkey
      rw [List.nodup_append]
      refine ⟨ih, List.nodup_singleton _, fun a ha b hb => ?_⟩
      rw [List.mem_singleton.mp hb]
      rintro rfl
      exact hkey ha

theorem mem_columns {samples : List (Mapping V)} {column : String} :
    column ∈ columns samples ↔ ∃ s ∈ samples, column ∈ s.keys := by
  rw [columns, List.mem_eraseDups, List.mem_flatMap]

theorem columns_eq_nil_iff {samples : List (Mapping V)} (hcolumn : ∀ s ∈ samples, s.keys ≠ []) :
    columns samples = [] ↔ samples = [] := by
  constructor
  · intro hnil
    cases samples with
    | nil => rfl
    | cons s samples =>
      obtain ⟨column, hmem⟩ := List.exists_mem_of_ne_nil _ (hcolumn s List.mem_cons_self)
      have hin : column ∈ columns (s :: samples) :=
        mem_columns.mpr ⟨s, List.mem_cons_self, hmem⟩
      rw [hnil] at hin
      cases hin
  · rintro rfl
    rfl

/-- More samples append the columns that are missing. -/
theorem columns_append (samples more : List (Mapping V)) :
    columns (samples ++ more) =
      columns samples ++ (columns more).filter (· ∉ columns samples) := by
  have hall (keys new : List String) : (keys ++ new).eraseDups =
      keys.eraseDups ++ new.eraseDups.filter (· ∉ keys.eraseDups) := by
    induction new using List.reverseRecOn with
    | nil => simp
    | append_singleton new key ih =>
      rw [← List.append_assoc, eraseDups_snoc, eraseDups_snoc, ih]
      unfold addHeader
      by_cases hkeys : key ∈ keys <;> by_cases hnew : key ∈ new <;>
        simp [hkeys, hnew, List.filter_append, List.mem_eraseDups]
  rw [columns, List.flatMap_append, hall]
  rfl

end Columns

/-! ## The file after some blocks -/

section Holds

variable {V : Type} (ser : Serialization V)

/-- The rows of a file that holds the samples. -/
def table (samples : List (Mapping V)) : List (List String) :=
  if samples = [] then [] else columns samples :: samples.map (row ser (columns samples))

/-- The file holds the samples, and the metadata holds its header. -/
structure Holds (f : RawFile) (samples : List (Mapping V)) : Prop where
  headers : f.rawHeaders.getD [] = columns samples
  text : f.text = (table ser samples).flatMap Csv.writeRow

variable {ser}

/-- Under a wider header a sample has empty cells in the new columns. -/
theorem oldCell_dictRow {samples : List (Mapping V)} {s : Mapping V} (hs : s ∈ samples)
    (header : String) :
    oldCell (Csv.dictRow (columns samples) (row ser (columns samples) s)) header =
      ser.cell (s.get? header) := by
  rw [oldCell, row, Csv.get?_dictRow_map (nodup_columns samples)]
  split
  · rfl
  · rename_i hnew
    have hnone : s.get? header = none := by
      rw [Dict.get?_eq_none_iff]
      exact fun hkey => hnew (mem_columns.mpr ⟨s, hs, hkey⟩)
    rw [hnone]
    rfl

/-- What is read back of a file that holds samples, and written under a wider header. -/
theorem map_existingRows {f : RawFile} {samples : List (Mapping V)} (h : Holds ser f samples)
    (hsamples : columns samples ≠ []) (headers : List String) :
    (existingRows f.text).map (fun old => headers.map (oldCell old)) =
      samples.map (row ser headers) := by
  have hne : samples ≠ [] := by
    rintro rfl
    exact hsamples rfl
  have htable : table ser samples = columns samples :: samples.map (row ser (columns samples)) :=
    if_neg hne
  have hread : Csv.readDict f.text =
      (columns samples, (samples.map (row ser (columns samples))).map
        (Csv.dictRow (columns samples))) := by
    have hfull : (samples.map (row ser (columns samples))).filter (· ≠ []) =
        samples.map (row ser (columns samples)) := by
      refine List.filter_eq_self.mpr fun cells hcells => decide_eq_true ?_
      obtain ⟨s, -, rfl⟩ := List.mem_map.mp hcells
      exact fun hnil => hsamples (List.map_eq_nil_iff.mp hnil)
    rw [Csv.readDict, h.text, Csv.read_write, htable]
    simp only [hfull]
  have htext : f.text ≠ [] := by
    intro hnil
    rw [hnil] at hread
    exact hsamples (congrArg Prod.fst hread).symm
  unfold existingRows
  rw [if_neg htext, hread, if_neg hsamples, List.map_map, List.map_map]
  refine List.map_congr_left fun s hs => ?_
  exact List.map_congr_left fun header _ => oldCell_dictRow hs header

/-- The header is as wide as the samples so far and the block need it, and the rows stand under
it. -/
theorem ensureRawHeaders_spec {f : RawFile} {samples block : List (Mapping V)}
    (h : Holds ser f samples) (hcolumn : ∀ s ∈ samples, s.keys ≠ []) :
    let headers := columns (samples ++ block)
    (ensureRawHeaders f block).1 = headers ∧
      (ensureRawHeaders f block).2.rawHeaders.getD [] = headers ∧
        (ensureRawHeaders f block).2.text =
          (headers :: samples.map (row ser headers)).flatMap Csv.writeRow := by
  dsimp only
  unfold ensureRawHeaders
  rw [h.headers, deriveHeaders_eq]
  dsimp only
  by_cases hfirst : columns samples = []
  · have hnil := (columns_eq_nil_iff hcolumn).mp hfirst
    subst hnil
    rw [if_pos hfirst]
    exact ⟨rfl, rfl, (List.append_nil _).symm⟩
  · rw [if_neg hfirst]
    have happend := columns_append samples block
    by_cases hmissing : (columns block).filter (· ∉ columns samples) = []
    · rw [hmissing, List.append_nil] at happend
      have hne : samples ≠ [] := by
        rintro rfl
        exact hfirst rfl
      rw [if_pos hmissing, happend]
      refine ⟨rfl, h.headers, ?_⟩
      rw [h.text, table, if_neg hne]
    · rw [if_neg hmissing, ← happend]
      refine ⟨rfl, rfl, ?_⟩
      rw [map_existingRows h hfirst]

/-- One block: the file holds the samples of the block too. -/
theorem holds_writeBlock {f : RawFile} {samples block : List (Mapping V)} (h : Holds ser f samples)
    (hcolumn : ∀ s ∈ samples, s.keys ≠ []) :
    Holds ser (writeBlock ser f block) (samples ++ block) := by
  unfold writeBlock
  split
  · rename_i hblock
    rw [hblock, List.append_nil]
    exact h
  · rename_i hblock
    obtain ⟨hfirst, hheaders, htext⟩ := @ensureRawHeaders_spec _ _ _ _ block h hcolumn
    have hne : samples ++ block ≠ [] := fun hnil => hblock (List.append_eq_nil_iff.mp hnil).2
    refine ⟨hheaders, ?_⟩
    dsimp only
    rw [htext, hfirst, table, if_neg hne, List.map_append, ← List.flatMap_append,
      List.cons_append]

/-- Block after block. -/
theorem holds_writeBlocks {f : RawFile} {samples : List (Mapping V)} (h : Holds ser f samples)
    (hcolumn : ∀ s ∈ samples, s.keys ≠ []) {blocks : List (List (Mapping V))}
    (hblocks : ∀ block ∈ blocks, ∀ s ∈ block, s.keys ≠ []) :
    Holds ser (blocks.foldl (writeBlock ser) f) (samples ++ blocks.flatten) := by
  induction blocks generalizing f samples with
  | nil => rwa [List.flatten_nil, List.append_nil]
  | cons block blocks ih =>
    obtain ⟨hblock, hrest⟩ := List.forall_mem_cons.mp hblocks
    rw [List.foldl_cons, List.flatten_cons, ← List.append_assoc]
    exact ih (holds_writeBlock h hcolumn) (List.forall_mem_append.mpr ⟨hcolumn, hblock⟩) hrest

end Holds

/-- **Raw files survive new columns.** Whatever blocks are written after `start_stream`, where each
sample has a column at least, the file reads back as all column names in the order of their first
appearance, and one row for each sample, in order, with its value in each of its columns and an
empty cell elsewhere. A file without a sample is empty. -/
theorem read_written {V : Type} (ser : Serialization V) (blocks : List (List (Mapping V)))
    (hblocks : ∀ block ∈ blocks, ∀ s ∈ block, s.keys ≠ []) :
    Csv.read (blocks.foldl (writeBlock ser) startStream).text =
      if blocks.flatten = [] then []
      else columns blocks.flatten :: blocks.flatten.map fun s =>
        (columns blocks.flatten).map fun column => ser.cell (s.get? column) := by
  have hstart : Holds ser startStream [] := ⟨rfl, rfl⟩
  have hall := holds_writeBlocks hstart (List.forall_mem_nil _) hblocks
  rw [List.nil_append] at hall
  rw [hall.text, Csv.read_write]
  rfl

/-- Numbers, written in digits. -/
def numerals : Serialization Nat := ⟨fun _ => false, fun n => toString n, fun n => toString n⟩

/-- A column that is new inside the second block. -/
theorem read_written_wider :
    let blocks := [[Dict.single "x" 1], [Dict.single "x" 2, (Dict.single "y" 3).set "x" 4]]
    Csv.read (blocks.foldl (writeBlock numerals) startStream).text =
      if blocks.flatten = [] then []
      else columns blocks.flatten :: blocks.flatten.map fun s =>
        (columns blocks.flatten).map fun column => numerals.cell (s.get? column) :=
  read_written numerals _ (by decide)

end NexusN3.Storage
