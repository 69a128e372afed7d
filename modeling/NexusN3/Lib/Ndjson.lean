import NexusN3.Lib.Text

/-!
# One JSON document a line

A file that is only appended to, one document and a newline at a time, and read back line by line in
text mode. Blank lines and lines that are no document are skipped.

* **`Format`** — the encoder and the decoder.
* **`Format.Lawful`** — what is assumed of them: a document is one line without blanks around it,
  and decodes to itself.
* **`readLines_append`** — what is written behind complete lines is read back behind them.
-/

namespace NexusN3.Lib.Ndjson

universe u

/-- Where a line ends in text mode. -/
def isLineEnd (c : Char) : Bool := decide (c = '\n') || decide (c = '\r')

structure Format (R : Type u) where
  dumps : R → String
  /-- `none`: the decoder raises -/
  loads : String → Option R

namespace Format

variable {R : Type u} (fmt : Format R)

def writeLine (r : R) : List Char := (fmt.dumps r).toList ++ ['\n']

def readLine (line : List Char) : Option R :=
  let line := strip (String.ofList line)
  if line = "" then none else fmt.loads line

def readLines (text : List Char) : List R :=
  (text.splitOnP isLineEnd).filterMap fmt.readLine

/-- The laws, for the documents that the encoder is right about. -/
structure Lawful (encodable : R → Prop) : Prop where
  loads_dumps : ∀ r, encodable r → fmt.loads (fmt.dumps r) = some r
  oneLine : ∀ r, encodable r → ∀ c ∈ (fmt.dumps r).toList, isLineEnd c = false
  strip_dumps : ∀ r, encodable r → strip (fmt.dumps r) = fmt.dumps r
  dumps_ne : ∀ r, encodable r → fmt.dumps r ≠ ""

variable {fmt} {encodable : R → Prop}

/-- The line of a document, read back. -/
theorem readLine_dumps (h : fmt.Lawful encodable) {r : R} (hr : encodable r) :
    fmt.readLine (fmt.dumps r).toList = some r := by
  unfold readLine
  rw [String.ofList_toList, h.strip_dumps r hr, if_neg (h.dumps_ne r hr)]
  exact h.loads_dumps r hr

/-- One document in front. -/
theorem readLines_writeLine_append (h : fmt.Lawful encodable) {r : R} (hr : encodable r)
    (text : List Char) : fmt.readLines (fmt.writeLine r ++ text) = r :: fmt.readLines text := by
  unfold readLines writeLine
  rw [List.append_assoc, List.singleton_append,
    List.splitOnP_append_cons_of_forall_mem (h.oneLine r hr) '\n' rfl text, List.filterMap_cons,
    readLine_dumps h hr]

/-- **What was written is read back.** Induction on what was written. -/
theorem readLines_append (h : fmt.Lawful encodable) {rs : List R} (hrs : ∀ r ∈ rs, encodable r)
    (text : List Char) : fmt.readLines (rs.flatMap fmt.writeLine ++ text) =
      rs ++ fmt.readLines text := by
  induction rs with
  | nil => rfl
  | cons r rs ih =>
    obtain ⟨hr, hrest⟩ := List.forall_mem_cons.mp hrs
    rw [List.flatMap_cons, List.append_assoc, readLines_writeLine_append h hr, ih hrest,
      List.cons_append]

theorem readLines_nil : fmt.readLines [] = [] := by
  simp [readLines, readLine, strip]

theorem readLines_flatMap (h : fmt.Lawful encodable) {rs : List R}
    (hrs : ∀ r ∈ rs, encodable r) : fmt.readLines (rs.flatMap fmt.writeLine) = rs := by
  have hall := readLines_append h hrs []
  rwa [List.append_nil, readLines_nil, List.append_nil] at hall

end Format

end NexusN3.Lib.Ndjson
