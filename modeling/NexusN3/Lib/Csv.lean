import NexusN3.Lib.Dict

/-!
# Comma separated values

The writer and the reader of the modelled language, in its default dialect: cells between commas,
rows ended by a carriage return and a line feed, and quotes around a cell that holds one of these or
a quote. The reader goes through a text character by character.

* **`writeRow`**, **`read`** — rows to text, and a text to rows.
* **`foldl_feed_writeRow`** — at the start of a record the reader takes a written row whole.
* **`read_write`** — what was written is read back, whatever the cells hold.
* **`dictRow`** — a row under a header, as `DictReader` reads it.
-/

namespace NexusN3.Lib.Csv

/-! ## Writing -/

/-- A cell with one of these characters is quoted. -/
def isSpecial (c : Char) : Bool :=
  decide (c = ',' ∨ c = '"' ∨ c = '\r' ∨ c = '\n')

/-- A quote inside quotes is doubled. -/
def doubled (c : Char) : List Char :=
  if c = '"' then ['"', '"'] else [c]

def quoted (cell : List Char) : List Char :=
  '"' :: (cell.flatMap doubled ++ ['"'])

def writeCell (cell : String) : List Char :=
  if cell.toList.any isSpecial then quoted cell.toList else cell.toList

def lineEnd : List Char := ['\r', '\n']

/-- The cells of a row with commas between them, and the end of the line. -/
def writeCells : List String → List Char
  | [] => lineEnd
  | [cell] => writeCell cell ++ lineEnd
  | cell :: cells => writeCell cell ++ ',' :: writeCells cells

/-- `csv.writer.writerow`: a row that is one empty cell is quoted, or it would be no row. -/
def writeRow (row : List String) : List Char :=
  if row = [""] then quoted [] ++ lineEnd else writeCells row

/-! ## Reading -/

inductive State where
  | startRecord
  | afterReturn
  | startField
  | inField
  | inQuotedField
  | quoteInQuotedField
  deriving DecidableEq

structure Reader where
  state : State := .startRecord
  field : List Char := []
  fields : List String := []
  rows : List (List String) := []

namespace Reader

def addChar (r : Reader) (c : Char) (state : State) : Reader :=
  { r with field := r.field ++ [c], state }

def saveField (r : Reader) (state : State) : Reader :=
  { r with fields := r.fields ++ [String.ofList r.field], field := [], state }

def endRecord (r : Reader) (state : State) : Reader :=
  { r with rows := r.rows ++ [r.fields], fields := [], state }

/-- A character behind a cell that is complete, where it is a comma or an end of a line. -/
def separator (r : Reader) (c : Char) : Option Reader :=
  if c = ',' then some (r.saveField .startField)
  else if c = '\n' then some ((r.saveField .startField).endRecord .startRecord)
  else if c = '\r' then some ((r.saveField .startField).endRecord .afterReturn)
  else none

def startField (r : Reader) (c : Char) : Reader :=
  (r.separator c).getD
    (if c = '"' then { r with state := .inQuotedField } else r.addChar c .inField)

def startRecord (r : Reader) (c : Char) : Reader :=
  if c = '\n' then r.endRecord .startRecord
  else if c = '\r' then r.endRecord .afterReturn
  else r.startField c

def feed (r : Reader) (c : Char) : Reader :=
  match r.state with
  | .startRecord => r.startRecord c
  | .afterReturn => if c = '\n' then { r with state := .startRecord } else r.startRecord c
  | .startField => r.startField c
  | .inField => (r.separator c).getD (r.addChar c .inField)
  | .inQuotedField =>
    if c = '"' then { r with state := .quoteInQuotedField } else r.addChar c .inQuotedField
  | .quoteInQuotedField =>
    (r.separator c).getD (r.addChar c (if c = '"' then .inQuotedField else .inField))

/-- At the end of the text a record that has begun is complete. -/
def finish (r : Reader) : List (List String) :=
  match r.state with
  | .startRecord | .afterReturn => r.rows
  | _ => ((r.saveField .startField).endRecord .startRecord).rows

end Reader

/-- `list(csv.reader(f))`. -/
def read (text : List Char) : List (List String) :=
  (text.foldl Reader.feed {}).finish

/-! ## What is written is read back -/

section RoundTrip

open Reader

variable {r : Reader}

theorem separator_of_plain {c : Char} (h : isSpecial c = false) : r.separator c = none := by
  simp only [isSpecial, decide_eq_false_iff_not, not_or] at h
  unfold separator
  rw [if_neg h.1, if_neg h.2.2.2, if_neg h.2.2.1]

/-- Inside quotes the reader collects what was written, quotes and line ends included. -/
theorem foldl_feed_doubled (hstate : r.state = .inQuotedField) (cell : List Char) :
    (cell.flatMap doubled).foldl feed r = { r with field := r.field ++ cell } := by
  induction cell generalizing r with
  | nil => simp
  | cons c cell ih =>
    have hone : (doubled c).foldl feed r = r.addChar c .inQuotedField := by
      unfold doubled
      split
      · rename_i hc
        simp [feed, hstate, hc, separator, addChar]
      · rename_i hc
        simp [feed, hstate, hc]
    rw [List.flatMap_cons, List.foldl_append, hone, ih rfl]
    simp [addChar, hstate]

theorem foldl_feed_plain (hstate : r.state = .inField) {cell : List Char}
    (hplain : ∀ c ∈ cell, isSpecial c = false) :
    cell.foldl feed r = { r with field := r.field ++ cell } := by
  induction cell generalizing r with
  | nil => simp
  | cons c cell ih =>
    obtain ⟨hc, hrest⟩ := List.forall_mem_cons.mp hplain
    have hone : r.feed c = r.addChar c .inField := by
      unfold feed
      rw [hstate]
      simp only [separator_of_plain hc, Option.getD_none]
    rw [List.foldl_cons, hone, ih rfl hrest]
    simp [addChar, hstate]

/-- A reader that is about to read a cell. -/
def AtCell (r : Reader) : Prop :=
  r.field = [] ∧ (r.state = .startField ∨ r.state = .startRecord)

/-- At a cell the reader is where the record starts or where a field does; a character that ends no
line is read alike. -/
theorem feed_atCell (h : AtCell r) {c : Char} (hc : r.state = .startRecord → c ≠ '\n' ∧ c ≠ '\r') :
    r.feed c = r.startField c := by
  rcases h.2 with hstate | hstate
  · unfold feed
    rw [hstate]
  · unfold feed
    rw [hstate]
    simp only [startRecord, if_neg (hc hstate).1, if_neg (hc hstate).2]

/-- A quoted cell and what comes behind it. -/
theorem foldl_feed_quoted (h : AtCell r) (cell : List Char) {c : Char} {r' : Reader}
    (hsep : ({ r with field := cell, state := .quoteInQuotedField } : Reader).separator c =
      some r') : (quoted cell ++ [c]).foldl feed r = r' := by
  have hopen : r.feed '"' = { r with state := .inQuotedField } := by
    rw [feed_atCell h fun _ => ⟨by decide, by decide⟩]
    simp [startField, separator]
  have hclose (r : Reader) (hstate : r.state = .inQuotedField) :
      r.feed '"' = { r with state := .quoteInQuotedField } := by
    simp [feed, hstate]
  have hlast : ({ r with field := cell, state := .quoteInQuotedField } : Reader).feed c = r' := by
    simp only [feed, hsep, Option.getD_some]
  rw [quoted, List.cons_append, List.foldl_cons, hopen, List.append_assoc, List.foldl_append,
    foldl_feed_doubled rfl, List.singleton_append, List.foldl_cons, hclose _ rfl, List.foldl_cons,
    List.foldl_nil, h.1, List.nil_append]
  exact hlast

/-- A cell that needs no quotes, not empty at the start of a record. -/
theorem foldl_feed_bare (h : AtCell r) {cell : List Char}
    (hplain : ∀ c ∈ cell, isSpecial c = false) {c : Char} {r' : Reader}
    (hempty : cell = [] → r.state = .startRecord → c = ',')
    (hsep : ∀ state, ({ r with field := cell, state } : Reader).separator c = some r') :
    (cell ++ [c]).foldl feed r = r' := by
  cases cell with
  | nil =>
    have hstart : r.feed c = r.startField c := by
      refine feed_atCell h fun hstate => ?_
      rw [hempty rfl hstate]
      exact ⟨by decide, by decide⟩
    have hsame : ({ r with field := [], state := r.state } : Reader) = r := by
      rw [← h.1]
    have hend := hsep r.state
    rw [hsame] at hend
    rw [List.nil_append, List.foldl_cons, List.foldl_nil, hstart, startField, hend,
      Option.getD_some]
  | cons d cell =>
    obtain ⟨hd, hrest⟩ := List.forall_mem_cons.mp hplain
    have hspecial := hd
    simp only [isSpecial, decide_eq_false_iff_not, not_or] at hspecial
    have hfirst : r.feed d = r.addChar d .inField := by
      rw [feed_atCell h fun _ => ⟨hspecial.2.2.2, hspecial.2.2.1⟩]
      simp only [startField, separator_of_plain hd, Option.getD_none, if_neg hspecial.2.1]
    rw [List.cons_append, List.foldl_cons, hfirst, List.foldl_append, foldl_feed_plain rfl hrest,
      List.foldl_cons, List.foldl_nil]
    simp only [addChar, h.1, List.nil_append, List.singleton_append, feed]
    rw [hsep .inField, Option.getD_some]

/-- A cell and the separator behind it, quoted or not. -/
theorem foldl_feed_writeCell (h : AtCell r) (cell : String) {c : Char} {r' : Reader}
    (hempty : cell = "" → r.state = .startRecord → c = ',')
    (hsep : ∀ state, ({ r with field := cell.toList, state } : Reader).separator c = some r') :
    (writeCell cell ++ [c]).foldl feed r = r' := by
  unfold writeCell
  split
  · exact foldl_feed_quoted h _ (hsep _)
  · rename_i hplain
    rw [Bool.not_eq_true, List.any_eq_false] at hplain
    refine foldl_feed_bare h (fun c hc => Bool.eq_false_iff.mpr (hplain c hc)) ?_ hsep
    exact fun hnil => hempty (String.toList_eq_nil_iff.mp hnil)

/-- The rest of a row, from any cell on. -/
theorem foldl_feed_writeCells (h : AtCell r) {row : List String} (hrow : row ≠ [])
    (hone : r.state = .startRecord → row ≠ [""]) :
    (writeCells row).foldl feed r =
      { rows := r.rows ++ [r.fields ++ row] } := by
  induction row generalizing r with
  | nil => exact absurd rfl hrow
  | cons cell cells ih =>
    cases cells with
    | nil =>
      have hcell : (writeCell cell ++ ['\r']).foldl feed r =
          { rows := r.rows ++ [r.fields ++ [cell]], state := .afterReturn } := by
        refine foldl_feed_writeCell h cell ?_ fun state => ?_
        · intro hempty hstate
          exact absurd (by rw [hempty]) (hone hstate)
        · simp [separator, saveField, endRecord, String.ofList_toList]
      have hsplit : writeCells [cell] = (writeCell cell ++ ['\r']) ++ ['\n'] := by
        simp [writeCells, lineEnd]
      rw [hsplit, List.foldl_append, hcell]
      rfl
    | cons next cells =>
      have hcell : (writeCell cell ++ [',']).foldl feed r =
          { r with field := [], fields := r.fields ++ [cell], state := .startField } := by
        refine foldl_feed_writeCell h cell (fun _ _ => rfl) fun state => ?_
        simp [separator, saveField, String.ofList_toList]
      have hsplit : writeCells (cell :: next :: cells) =
          (writeCell cell ++ [',']) ++ writeCells (next :: cells) := by
        simp [writeCells]
      have hnext : AtCell { r with
          field := [], fields := r.fields ++ [cell], state := .startField } := ⟨rfl, Or.inl rfl⟩
      rw [hsplit, List.foldl_append, hcell, ih hnext (List.cons_ne_nil _ _) nofun]
      simp

/-- At the start of a record the reader takes a written row whole. -/
theorem foldl_feed_writeRow (rows : List (List String)) (row : List String) :
    (writeRow row).foldl feed { rows } = { rows := rows ++ [row] } := by
  have hstart : AtCell { rows } := ⟨rfl, Or.inr rfl⟩
  unfold writeRow
  split
  · rename_i hrow
    have hcell : (quoted [] ++ ['\r']).foldl feed { rows } =
        { rows := rows ++ [[""]], state := .afterReturn } := by
      refine foldl_feed_quoted hstart [] ?_
      simp [separator, saveField, endRecord]
    have hsplit : quoted [] ++ lineEnd = (quoted [] ++ ['\r']) ++ ['\n'] := by
      simp [lineEnd]
    rw [hsplit, List.foldl_append, hcell, hrow]
    rfl
  · rename_i hrow
    cases row with
    | nil => rfl
    | cons cell cells =>
      rw [foldl_feed_writeCells hstart (List.cons_ne_nil _ _) fun _ => hrow]
      rfl

theorem foldl_feed_writeRows (rows rows' : List (List String)) :
    (rows'.flatMap writeRow).foldl feed { rows } = { rows := rows ++ rows' } := by
  induction rows' generalizing rows with
  | nil => simp
  | cons row rows' ih =>
    rw [List.flatMap_cons, List.foldl_append, foldl_feed_writeRow, ih, List.append_assoc,
      List.singleton_append]

/-- Written rows are read back as they were. -/
theorem read_write (rows : List (List String)) : read (rows.flatMap writeRow) = rows := by
  have hread := foldl_feed_writeRows [] rows
  rw [List.nil_append] at hread
  unfold read
  rw [hread]
  rfl

end RoundTrip

/-! ## Rows under a header -/

/-- What `DictReader` makes of a row: a column with no cell holds `None`. -/
def dictRow (fieldnames row : List String) : Dict String (Option String) :=
  (fieldnames.zip (row.map some ++ List.replicate (fieldnames.length - row.length) none)).foldl
    (fun d e => d.set e.1 e.2) Dict.empty

/-- `reader.fieldnames` and `list(reader)` of a `DictReader`, which skips rows with no cell. -/
def readDict (text : List Char) : List String × List (Dict String (Option String)) :=
  match read text with
  | [] => ([], [])
  | fieldnames :: rows => (fieldnames, (rows.filter (· ≠ [])).map (dictRow fieldnames))

theorem get?_foldl_set {κ ν : Type} [DecidableEq κ] {entries : List (κ × ν)}
    (hnodup : (entries.map Prod.fst).Nodup) (d : Dict κ ν) (k : κ) :
    (entries.foldl (fun d e => d.set e.1 e.2) d).get? k = (entries.lookup k).or (d.get? k) := by
  induction entries generalizing d with
  | nil => rfl
  | cons e entries ih =>
    rw [List.map_cons, List.nodup_cons] at hnodup
    rw [List.foldl_cons, ih hnodup.2, List.lookup_cons]
    by_cases hk : k = e.1
    · subst hk
      have hnone : entries.lookup e.1 = none := by
        rw [List.lookup_eq_none_iff]
        intro p hp
        rw [bne_iff_ne]
        rintro heq
        exact hnodup.1 (heq ▸ List.mem_map_of_mem hp)
      rw [hnone, beq_self_eq_true, Option.none_or, Dict.get?_set_self]
      rfl
    · rw [Dict.get?_set_ne _ _ (Ne.symm hk), beq_false_of_ne hk]

/-- A full row under distinct column names, looked up by a function that made it. -/
theorem get?_dictRow_map {fieldnames : List String} (hnodup : fieldnames.Nodup)
    (cell : String → String) (column : String) :
    (dictRow fieldnames (fieldnames.map cell)).get? column =
      if column ∈ fieldnames then some (some (cell column)) else none := by
  have hzip : fieldnames.zip ((fieldnames.map cell).map some ++
      List.replicate (fieldnames.length - (fieldnames.map cell).length) none) =
        fieldnames.map fun f => (f, some (cell f)) := by
    rw [List.length_map, Nat.sub_self, List.replicate_zero, List.append_nil, List.map_map]
    exact List.map_prod_left_eq_zip.symm
  have hkeys : (fieldnames.map fun f => (f, some (cell f))).map Prod.fst = fieldnames := by
    simp [Function.comp_def]
  unfold dictRow
  rw [hzip, get?_foldl_set (by rw [hkeys]; exact hnodup), Dict.get?_empty, Option.or_none]
  clear hzip hkeys
  induction fieldnames with
  | nil => rfl
  | cons f fieldnames ih =>
    rw [List.map_cons, List.lookup_cons]
    by_cases hf : column = f
    · simp [hf]
    · rw [beq_false_of_ne hf]
      simp only [List.mem_cons, hf, false_or]
      exact ih (List.nodup_cons.mp hnodup).2

end NexusN3.Lib.Csv
