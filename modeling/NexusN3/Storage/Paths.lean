import NexusN3.Lib.Text
import NexusN3.Lib.Path
import Mathlib.Data.List.TakeWhile

/-!
# Where outputs are stored

The sanitizers and the path builders of `FileManager`, and the name of a session's archive.

* **`sanitizeComponent`**, **`sanitizeSensorId`**, **`buildSessionId`** — what texts become.
* **`FileManager.outputs`** — every file that `start_stream` creates empty.
* **`append_underscore_eq_iff`** — when two joined texts are the same.
* **`isName_sanitizeComponent`** — a sanitized text is one component, so that builders only go down.
* **`outputsApart`** — two outputs share a file when their sanitized names agree, and only then.
-/

namespace NexusN3.Storage

open Lib

/-! ## Sanitizers -/

/-- The class `[A-Za-z0-9._-]`. -/
def allowed (c : Char) : Bool := c.isAlphanum || c = '.' || c = '_' || c = '-'

/-- `re.sub(r"[^A-Za-z0-9._-]+", "_", text)`; `inRun` inside a run already replaced. -/
def replaceRuns : Bool → List Char → List Char
  | _, [] => []
  | inRun, c :: cs =>
    if allowed c then c :: replaceRuns false cs
    else if inRun then replaceRuns true cs
    else '_' :: replaceRuns true cs

/-- `text.strip(" .")`. -/
def stripDots (cs : List Char) : List Char :=
  let dot := fun c : Char => c = ' ' || c = '.'
  (cs.dropWhile dot).rdropWhile dot

def sanitizeLabel (label : String) : String :=
  let cleaned := String.ofList (replaceRuns false (strip label).toList)
  if cleaned = "" then "session" else cleaned

def sanitizeTag (tag : String) : String :=
  let cleaned := String.ofList (replaceRuns false (strip tag).toList)
  if cleaned = "" then "untagged" else cleaned

def windowsReservedNames : List String :=
  ["CON", "PRN", "AUX", "NUL"] ++ (List.range 9).map (fun i => "COM" ++ toString (i + 1))
    ++ (List.range 9).map fun i => "LPT" ++ toString (i + 1)

/-- `cleaned.split(".", 1)[0].upper() in windows_reserved_names`. -/
def isReserved (cleaned : List Char) : Bool :=
  decide (String.ofList ((cleaned.takeWhile (· ≠ '.')).map Char.toUpper) ∈ windowsReservedNames)

def sanitizeComponent (value : Option String) (fallback : String := "na") : String :=
  let raw := strip (value.getD "")
  let cleaned := stripDots (replaceRuns false raw.toList)
  if cleaned = [] ∨ cleaned = ['.'] ∨ cleaned = ['.', '.'] then fallback
  else if isReserved cleaned then String.ofList ('_' :: cleaned)
  else String.ofList cleaned

def sanitizeSensorId (value : Option String) : String :=
  let compact := (strip (value.getD "")).toList.filter Char.isAlphanum
  sanitizeComponent (some (String.ofList compact)) "na"

/-! ## Paths -/

/-- The fields of `FileManager` that paths depend on. A path is the list of its components. -/
structure FileManager where
  site : String
  baseRoot : List String
  sessionName : Option String := none

namespace FileManager

/-- `__init__`. -/
def new (site : Option String) (baseDir : List String) : FileManager where
  site :=
    let stripped := strip ((site.filter (· ≠ "")).getD "local")
    if stripped = "" then "local" else stripped
  baseRoot := baseDir

/-- `set_session_label`. -/
def setSessionLabel (fm : FileManager) (label : Option String) : FileManager :=
  match label.filter (· ≠ "") with
  | some label => { fm with sessionName := some (sanitizeLabel label) }
  | none => { fm with sessionName := some "sys_session" }

variable (fm : FileManager)

/-- `_resolve_base_dir`. -/
def resolveBaseDir : List String :=
  Path.join (Path.join fm.baseRoot (sanitizeComponent (some fm.site) "local")) "sessions"

def buildSessionId (sessionIndex : String) : String :=
  sanitizeComponent fm.sessionName "sys_session" ++ "_"
    ++ sanitizeComponent (some sessionIndex) "unknown"

/-- `_session_dir`. -/
def sessionDir (sessionIndex : String) : Option (List String) :=
  if sessionIndex = "" then none
  else some (Path.join fm.resolveBaseDir (fm.buildSessionId sessionIndex))

/-- `a / b / c`. -/
def under (base : List String) (parts : List String) : List String := parts.foldl Path.join base

/-- `_build_subject_activity_dir`; `none` is the `ValueError`. -/
def buildSubjectActivityDir (sessionIndex subjectId activity : String) : Option (List String) :=
  (fm.sessionDir sessionIndex).map fun dir =>
    under dir ["subjects", sanitizeComponent (some subjectId) "unknown_subject", "activities",
      sanitizeComponent (some activity) "sys"]

def buildRawPath (sessionIndex subjectId activity : String) (location sensorId : Option String) :
    Option (List String) :=
  (fm.buildSubjectActivityDir sessionIndex subjectId activity).map fun dir =>
    under dir ["raw", sanitizeComponent location ++ "_" ++ sanitizeSensorId sensorId ++ ".csv"]

def buildRealTimePath (sessionIndex subjectId activity : String)
    (algorithm location sensorId : Option String) : Option (List String) :=
  (fm.buildSubjectActivityDir sessionIndex subjectId activity).map fun dir =>
    under dir ["computed", "real_time", sanitizeComponent algorithm "unknown",
      sanitizeComponent location ++ "_" ++ sanitizeSensorId sensorId ++ ".ndjson"]

def buildIntermediatePath (sessionIndex subjectId activity : String) (algorithm : Option String) :
    Option (List String) :=
  (fm.buildSubjectActivityDir sessionIndex subjectId activity).map fun dir =>
    under dir ["computed", "intermediate", sanitizeComponent algorithm "unknown" ++ ".ndjson"]

def buildConsolidatedPath (sessionIndex subjectId activity : String) (algorithm : Option String) :
    Option (List String) :=
  (fm.buildSubjectActivityDir sessionIndex subjectId activity).map fun dir =>
    under dir ["computed", "consolidated", sanitizeComponent algorithm "unknown" ++ ".ndjson"]

/-! ### What a recording writes -/

/-- What `start_stream` reads of an entry of `subject.sensors`. -/
structure SensorEntry where
  location : Option String
  address : Option String
  algorithm : Option String

structure RecordedSubject where
  subjectId : String
  sensors : List SensorEntry

/-- `value or default`. -/
def orElse (value : Option String) (default : String) : String :=
  (value.filter (· ≠ "")).getD default

def safeTag (tag : Option String) : String :=
  match tag.filter (· ≠ "") with
  | some tag => sanitizeTag tag
  | none => "sys"

/-- The files that `start_stream` creates empty, in its order; `none` is the `ValueError`. -/
def outputs (sessionIndex : String) (tag : Option String) (subject : RecordedSubject) :
    Option (List (List String)) := do
  let algorithms := (subject.sensors.map fun e => orElse e.algorithm "unknown").dedup
  let shared ← (algorithms.mergeSort (fun a b => decide (a ≤ b))).mapM fun algorithm => do
    let intermediate ←
      fm.buildIntermediatePath sessionIndex subject.subjectId (safeTag tag) (some algorithm)
    let consolidated ←
      fm.buildConsolidatedPath sessionIndex subject.subjectId (safeTag tag) (some algorithm)
    return [intermediate, consolidated]
  let own ← subject.sensors.mapM fun e => do
    let location := some (orElse e.location "na")
    let address := some (orElse e.address "na")
    let raw ← fm.buildRawPath sessionIndex subject.subjectId (safeTag tag) location address
    let realTime ← fm.buildRealTimePath sessionIndex subject.subjectId (safeTag tag)
      (some (orElse e.algorithm "unknown")) location address
    return [raw, realTime]
  return (shared ++ own).flatten

end FileManager

/-! ## Archives -/

section Archive

-- `str.isalnum`
variable (isalnum : Char → Bool)

/-- `_clean` of `session_archive.py`. -/
def clean (value : Option String) (fallback : String) : String :=
  let raw := strip (value.getD "")
  let cleaned := raw.toList.map fun c =>
    if isalnum c || c = '.' || c = '_' || c = '-' then c else '_'
  if cleaned = [] then fallback else String.ofList cleaned

def buildSessionArchiveName (sessionName sessionTimestamp : Option String) : String :=
  clean isalnum sessionName "session" ++ "_" ++ clean isalnum sessionTimestamp "unknown_session"
    ++ ".zip"

/-- Where `archive_session` writes the archive; `none` is the `ValueError`. -/
def FileManager.archivePath (fm : FileManager) (sessionIndex : String) : Option (List String) :=
  (fm.sessionDir sessionIndex).map fun _ =>
    Path.join fm.resolveBaseDir (buildSessionArchiveName isalnum fm.sessionName (some sessionIndex))

end Archive

/-! ## Components -/

/-- A text of allowed characters that is more than dots. -/
structure Component (text : String) : Prop where
  allowed : ∀ c ∈ text.toList, allowed c = true
  solid : ∃ c ∈ text.toList, c ≠ '.'

theorem allowed_of_all {text : String} (h : text.toList.all allowed = true) :
    ∀ c ∈ text.toList, allowed c = true := List.all_eq_true.mp h

theorem component_of_check {text : String}
    (h : (text.toList.all allowed && text.toList.any fun c => decide (c ≠ '.')) = true) :
    Component text := by
  obtain ⟨hallowed, hsolid⟩ := (Bool.and_eq_true _ _).mp h
  obtain ⟨c, hc, hne⟩ := List.any_eq_true.mp hsolid
  exact ⟨allowed_of_all hallowed, c, hc, of_decide_eq_true hne⟩

namespace Component

theorem isName {text : String} (h : Component text) : Path.IsName text := by
  obtain ⟨c, hc, hne⟩ := h.solid
  refine ⟨?_, ?_, ?_, fun hslash => absurd (h.allowed _ hslash) (by decide)⟩
  · rintro rfl
    simp at hc
  · rintro rfl
    simp [hne] at hc
  · rintro rfl
    simp [hne] at hc

theorem append {text more : String} (h : Component text)
    (hmore : ∀ c ∈ more.toList, Storage.allowed c = true) : Component (text ++ more) := by
  obtain ⟨c, hc, hne⟩ := h.solid
  constructor
  · rw [String.toList_append, List.forall_mem_append]
    exact ⟨h.allowed, hmore⟩
  · refine ⟨c, ?_, hne⟩
    rw [String.toList_append]
    exact List.mem_append_left _ hc

end Component

theorem allowed_of_mem_replaceRuns {c : Char} {inRun : Bool} {cs : List Char}
    (h : c ∈ replaceRuns inRun cs) : allowed c = true := by
  induction cs generalizing inRun with
  | nil => cases h
  | cons d cs ih =>
    unfold replaceRuns at h
    split at h
    · rename_i hd
      rcases List.mem_cons.mp h with rfl | h
      · exact hd
      · exact ih h
    · split at h
      · exact ih h
      · rcases List.mem_cons.mp h with rfl | h
        · rfl
        · exact ih h

theorem replaceRuns_eq_self {inRun : Bool} {cs : List Char} (h : ∀ c ∈ cs, allowed c = true) :
    replaceRuns inRun cs = cs := by
  induction cs generalizing inRun with
  | nil => rfl
  | cons c cs ih =>
    obtain ⟨hc, hrest⟩ := List.forall_mem_cons.mp h
    rw [replaceRuns, if_pos hc, ih hrest]

theorem mem_of_mem_stripDots {c : Char} {cs : List Char} (h : c ∈ stripDots cs) : c ∈ cs :=
  (List.dropWhile_suffix _).subset ((List.rdropWhile_prefix _ _).subset h)

theorem stripDots_eq_self {cs : List Char} (h : ∀ c ∈ cs, c.isAlphanum = true) :
    stripDots cs = cs := by
  have hkept (c : Char) (hc : c ∈ cs) : ¬ (decide (c = ' ') || decide (c = '.')) = true := by
    intro hdot
    have halnum := h c hc
    rcases Bool.or_eq_true _ _ ▸ hdot with hdot | hdot <;>
      · rw [of_decide_eq_true hdot] at halnum
        exact absurd halnum (by decide)
  unfold stripDots
  dsimp only
  rw [List.dropWhile_eq_self_iff.mpr, List.rdropWhile_eq_self_iff.mpr]
  · exact fun hne => hkept _ (List.getLast_mem hne)
  · exact fun hlen => hkept _ (List.getElem_mem hlen)

/-- What is left when dots are stripped does not begin with one. -/
theorem exists_solid_stripDots {cs : List Char} (h : stripDots cs ≠ []) :
    ∃ c ∈ stripDots cs, c ≠ '.' := by
  have htrim := dropWhile_rdropWhile_dropWhile (fun c : Char => c = ' ' || c = '.') cs
  change (stripDots cs).dropWhile _ = stripDots cs at htrim
  cases hstrip : stripDots cs with
  | nil => exact absurd hstrip h
  | cons c rest =>
    rw [hstrip, List.dropWhile_cons] at htrim
    refine ⟨c, List.mem_cons_self, ?_⟩
    rintro rfl
    rw [if_pos (by decide)] at htrim
    have hlen := (List.dropWhile_suffix (l := rest) (fun c : Char => c = ' ' || c = '.')).length_le
    rw [htrim, List.length_cons] at hlen
    omega

theorem component_sanitizeComponent (value : Option String) {fallback : String}
    (h : Component fallback) : Component (sanitizeComponent value fallback) := by
  have hallowed (c : Char)
      (hc : c ∈ stripDots (replaceRuns false (strip (value.getD "")).toList)) :
      allowed c = true := allowed_of_mem_replaceRuns (mem_of_mem_stripDots hc)
  unfold sanitizeComponent
  dsimp only
  split
  · exact h
  · rename_i hne
    obtain ⟨c, hc, hsolid⟩ := exists_solid_stripDots (fun heq => hne (Or.inl heq))
    split
    · refine ⟨?_, c, ?_, hsolid⟩
      · rw [String.toList_ofList]
        exact List.forall_mem_cons.mpr ⟨rfl, hallowed⟩
      · rw [String.toList_ofList]
        exact List.mem_cons_of_mem _ hc
    · refine ⟨?_, c, ?_, hsolid⟩
      · rw [String.toList_ofList]
        exact hallowed
      · rwa [String.toList_ofList]

/-! ## Joined texts -/

/-- The two pairs give one text when each is joined by `_`: they are the same, or a text moves over
from one half to the other with the `_` beside it. -/
def SameJoined (a b c d : List Char) : Prop :=
  a = c ∧ b = d ∨ (∃ w, c = a ++ '_' :: w ∧ b = w ++ '_' :: d) ∨
    ∃ w, a = c ++ '_' :: w ∧ d = w ++ '_' :: b

theorem append_underscore_eq_iff {a b c d : List Char} :
    a ++ '_' :: b = c ++ '_' :: d ↔ SameJoined a b c d := by
  constructor
  · intro h
    rcases List.append_eq_append_iff.mp h with ⟨w, hc, hb⟩ | ⟨w, ha, hd⟩
    · cases w with
      | nil =>
        rw [List.append_nil] at hc
        exact Or.inl ⟨hc.symm, (List.cons.inj hb).2⟩
      | cons x w =>
        rw [List.cons_append, List.cons.injEq] at hb
        obtain ⟨rfl, hb⟩ := hb
        exact Or.inr (Or.inl ⟨w, hc, hb⟩)
    · cases w with
      | nil =>
        rw [List.append_nil] at ha
        exact Or.inl ⟨ha, ((List.cons.inj hd).2).symm⟩
      | cons x w =>
        rw [List.cons_append, List.cons.injEq] at hd
        obtain ⟨rfl, hd⟩ := hd
        exact Or.inr (Or.inr ⟨w, ha, hd⟩)
  · rintro (⟨rfl, rfl⟩ | ⟨w, rfl, rfl⟩ | ⟨w, rfl, rfl⟩)
    · rfl
    · rw [List.append_assoc, List.cons_append]
    · rw [List.append_assoc, List.cons_append]

/-! ## Sensor ids -/

/-- The letters and digits of an address; `na` when it has none. -/
def sensorKey (value : Option String) : List Char :=
  let kept := (value.getD "").toList.filter Char.isAlphanum
  if kept = [] then ['n', 'a'] else kept

def guardReserved (cs : List Char) : List Char := if isReserved cs then '_' :: cs else cs

theorem isAlphanum_eq (c : Char) : c.isAlphanum =
    ((decide (c.val ≥ 65 ∧ c.val ≤ 90) || decide (c.val ≥ 97) && decide (c.val ≤ 122))
      || decide (c.val ≥ 48) && decide (c.val ≤ 57)) := rfl

theorem isSpace_of_isAlphanum {c : Char} (h : c.isAlphanum = true) : isSpace c = false := by
  simp only [isAlphanum_eq, Bool.or_eq_true, Bool.and_eq_true, decide_eq_true_eq, ge_iff_le,
    UInt32.le_iff_toNat_le] at h
  have hcode : c.toNat = c.val.toNat := rfl
  unfold isSpace
  dsimp only
  rw [decide_eq_false_iff_not, hcode]
  have h65 : (65 : UInt32).toNat = 65 := rfl
  simp at h
  omega

theorem filter_dropWhile {α : Type} {p q : α → Bool} (h : ∀ a, q a = true → p a = false)
    (l : List α) : (l.dropWhile q).filter p = l.filter p := by
  induction l with
  | nil => rfl
  | cons a l ih =>
    rw [List.dropWhile_cons]
    split
    · rename_i hq
      rw [ih, List.filter_cons_of_neg (by rw [h a hq]; exact Bool.false_ne_true)]
    · rfl

theorem filter_strip (text : String) :
    (strip text).toList.filter Char.isAlphanum = text.toList.filter Char.isAlphanum := by
  have hspace (c : Char) (hc : isSpace c = true) : c.isAlphanum = false := by
    by_contra halnum
    rw [Bool.not_eq_false] at halnum
    rw [isSpace_of_isAlphanum halnum] at hc
    cases hc
  rw [strip, String.toList_ofList, List.filter_reverse, filter_dropWhile hspace,
    List.filter_reverse, List.reverse_reverse, filter_dropWhile hspace]

theorem strip_of_isAlphanum {cs : List Char} (h : ∀ c ∈ cs, c.isAlphanum = true) :
    strip (String.ofList cs) = String.ofList cs := by
  have hkept {l : List Char} (hl : ∀ c ∈ l, c ∈ cs) : l.dropWhile isSpace = l := by
    refine List.dropWhile_eq_self_iff.mpr fun hlen => ?_
    rw [isSpace_of_isAlphanum (h _ (hl _ (List.getElem_mem hlen)))]
    exact Bool.false_ne_true
  rw [strip, String.toList_ofList, hkept fun _ hc => hc, hkept fun _ hc => List.mem_reverse.mp hc,
    List.reverse_reverse]

theorem isAlphanum_sensorKey (value : Option String) :
    ∀ c ∈ sensorKey value, c.isAlphanum = true := by
  unfold sensorKey
  dsimp only
  split
  · exact List.all_eq_true.mp rfl
  · exact fun c hc => (List.mem_filter.mp hc).2

theorem sanitizeSensorId_eq (value : Option String) :
    sanitizeSensorId value = String.ofList (guardReserved (sensorKey value)) := by
  have halnum (c : Char) (hc : c ∈ (value.getD "").toList.filter Char.isAlphanum) :
      c.isAlphanum = true := (List.mem_filter.mp hc).2
  have hallowed (c : Char) (hc : c ∈ (value.getD "").toList.filter Char.isAlphanum) :
      allowed c = true := by
    unfold allowed
    rw [halnum c hc]
    rfl
  unfold sanitizeSensorId sanitizeComponent
  dsimp only
  rw [filter_strip, Option.getD_some, strip_of_isAlphanum halnum, String.toList_ofList,
    replaceRuns_eq_self hallowed, stripDots_eq_self halnum]
  unfold sensorKey
  dsimp only
  by_cases hnil : (value.getD "").toList.filter Char.isAlphanum = []
  · rw [if_pos (Or.inl hnil), if_pos hnil]
    rfl
  · have hdots : ¬ ((value.getD "").toList.filter Char.isAlphanum = [] ∨
        (value.getD "").toList.filter Char.isAlphanum = ['.'] ∨
        (value.getD "").toList.filter Char.isAlphanum = ['.', '.']) := by
      rintro (heq | heq | heq)
      · exact hnil heq
      · exact absurd (halnum '.' (heq ▸ by simp)) (by decide)
      · exact absurd (halnum '.' (heq ▸ by simp)) (by decide)
    rw [if_neg hdots, if_neg hnil, guardReserved]
    split <;> rfl

theorem underscore_notMem {k : List Char} (h : ∀ c ∈ k, c.isAlphanum = true) : '_' ∉ k :=
  fun hmem => absurd (h _ hmem) (by decide)

theorem guardReserved_inj {k k' : List Char} (hk : ∀ c ∈ k, c.isAlphanum = true)
    (hk' : ∀ c ∈ k', c.isAlphanum = true) : guardReserved k = guardReserved k' ↔ k = k' := by
  refine ⟨fun h => ?_, fun h => by rw [h]⟩
  unfold guardReserved at h
  split at h <;> split at h
  · exact (List.cons.inj h).2
  · exact absurd (h ▸ List.mem_cons_self) (underscore_notMem hk')
  · exact absurd (h ▸ List.mem_cons_self) (underscore_notMem hk)
  · exact h

theorem sanitizeSensorId_eq_iff (address address' : Option String) :
    sanitizeSensorId address = sanitizeSensorId address' ↔
      sensorKey address = sensorKey address' := by
  rw [sanitizeSensorId_eq, sanitizeSensorId_eq, String.ofList_inj,
    guardReserved_inj (isAlphanum_sensorKey _) (isAlphanum_sensorKey _)]

/-- The `_` before a sensor id is the only place to cut: an id has one at its front at most, and
then the rest is no id. -/
theorem sameJoined_guardReserved {a c k k' : List Char} (hk : ∀ c ∈ k, c.isAlphanum = true)
    (hk' : ∀ c ∈ k', c.isAlphanum = true) :
    SameJoined a (guardReserved k) c (guardReserved k') ↔ a = c ∧ k = k' := by
  have hcut {k k' w : List Char} (hk : ∀ c ∈ k, c.isAlphanum = true)
      (hk' : ∀ c ∈ k', c.isAlphanum = true) :
      guardReserved k ≠ w ++ '_' :: guardReserved k' := by
    intro h
    unfold guardReserved at h
    by_cases hreserved : isReserved k = true
    · rw [if_pos hreserved] at h
      cases w with
      | nil =>
        -- a reserved name is never an id of its own
        have hrest := (List.cons.inj h).2
        split at hrest
        · exact underscore_notMem hk (hrest ▸ List.mem_cons_self)
        · rename_i hfree
          exact hfree (hrest ▸ hreserved)
      | cons x w =>
        rw [List.cons_append, List.cons.injEq] at h
        refine underscore_notMem hk ?_
        rw [h.2]
        exact List.mem_append_right _ List.mem_cons_self
    · rw [if_neg hreserved] at h
      refine underscore_notMem hk ?_
      rw [h]
      exact List.mem_append_right _ List.mem_cons_self
  constructor
  · rintro (⟨hac, hkk⟩ | ⟨w, -, h⟩ | ⟨w, -, h⟩)
    · exact ⟨hac, (guardReserved_inj hk hk').mp hkk⟩
    · exact absurd h (hcut hk hk')
    · exact absurd h (hcut hk' hk)
  · rintro ⟨rfl, rfl⟩
    exact Or.inl ⟨rfl, rfl⟩

/-- The name of a sensor's file. -/
def sensorFile (location address : Option String) (suffix : String) : String :=
  sanitizeComponent location ++ "_" ++ sanitizeSensorId address ++ suffix

theorem toList_sensorFile (location address : Option String) (suffix : String) :
    (sensorFile location address suffix).toList = ((sanitizeComponent location).toList ++
      '_' :: guardReserved (sensorKey address)) ++ suffix.toList := by
  have hmark : "_".toList = ['_'] := rfl
  rw [sensorFile, String.toList_append, String.toList_append, String.toList_append, hmark,
    sanitizeSensorId_eq, String.toList_ofList, List.append_assoc _ ['_'], List.singleton_append]

theorem sensorFile_eq_iff (location location' address address' : Option String)
    (suffix : String) :
    sensorFile location address suffix = sensorFile location' address' suffix ↔
      sanitizeComponent location = sanitizeComponent location' ∧
        sensorKey address = sensorKey address' := by
  rw [← String.toList_inj, toList_sensorFile, toList_sensorFile, List.append_cancel_right_eq,
    append_underscore_eq_iff,
    sameJoined_guardReserved (isAlphanum_sensorKey _) (isAlphanum_sensorKey _), String.toList_inj]

theorem component_na : Component "na" := component_of_check (by decide)

theorem component_sanitizeSensorId (address : Option String) :
    Component (sanitizeSensorId address) := by
  unfold sanitizeSensorId
  exact component_sanitizeComponent _ component_na

theorem component_sensorFile (location address : Option String) {suffix : String}
    (hsuffix : ∀ c ∈ suffix.toList, allowed c = true) :
    Component (sensorFile location address suffix) := by
  have hlocation : Component (sanitizeComponent location) :=
    component_sanitizeComponent _ component_na
  exact ((hlocation.append (allowed_of_all (by decide))).append
    (component_sanitizeSensorId address).allowed).append hsuffix

/-! ## Plain texts -/

/-- A text that the sanitizer leaves alone. -/
structure Plain (text : String) : Prop where
  nonempty : text ≠ ""
  allowed : ∀ c ∈ text.toList, allowed c = true
  head : text.toList.head? ≠ some '.'
  last : text.toList.getLast? ≠ some '.'
  free : isReserved text.toList = false

theorem isSpace_of_allowed {c : Char} (h : allowed c = true) : isSpace c = false := by
  simp only [allowed, Bool.or_eq_true, decide_eq_true_eq] at h
  rcases h with ((halnum | rfl) | rfl) | rfl
  · exact isSpace_of_isAlphanum halnum
  · decide
  · decide
  · decide

theorem strip_of_allowed {text : String} (h : ∀ c ∈ text.toList, allowed c = true) :
    strip text = text := by
  cases hhead : text.toList.head? with
  | none =>
    obtain rfl : text = "" := String.toList_eq_nil_iff.mp (List.head?_eq_none_iff.mp hhead)
    rfl
  | some a =>
    have hne : text.toList ≠ [] := by
      intro heq
      rw [heq] at hhead
      cases hhead
    obtain ⟨b, hb⟩ := Option.ne_none_iff_exists'.mp (mt List.getLast?_eq_none_iff.mp hne)
    exact strip_eq_self hhead (isSpace_of_allowed (h a (List.mem_of_mem_head? hhead))) hb
      (isSpace_of_allowed (h b (List.mem_of_mem_getLast? hb)))

theorem Plain.sanitizeComponent {text : String} (h : Plain text) (fallback : String) :
    sanitizeComponent (some text) fallback = text := by
  have hne : text.toList ≠ [] := fun heq => h.nonempty (String.toList_eq_nil_iff.mp heq)
  obtain ⟨a, ha⟩ := Option.ne_none_iff_exists'.mp (mt List.head?_eq_none_iff.mp hne)
  obtain ⟨b, hb⟩ := Option.ne_none_iff_exists'.mp (mt List.getLast?_eq_none_iff.mp hne)
  have hmema := h.allowed a (List.mem_of_mem_head? ha)
  have hmemb := h.allowed b (List.mem_of_mem_getLast? hb)
  have hsolid {c : Char} (hallowed : Storage.allowed c = true) (hdot : c ≠ '.') :
      (decide (c = ' ') || decide (c = '.')) = false := by
    rw [decide_eq_false hdot, Bool.or_false, decide_eq_false_iff_not]
    rintro rfl
    exact absurd hallowed (by decide)
  have hdots : stripDots text.toList = text.toList := by
    have hfront := dropWhile_eq_self_of_head? (p := fun c : Char => c = ' ' || c = '.') ha
      (hsolid hmema fun heq => h.head (heq ▸ ha))
    have hback := dropWhile_eq_self_of_head? (p := fun c : Char => c = ' ' || c = '.')
      (List.head?_reverse.trans hb) (hsolid hmemb fun heq => h.last (heq ▸ hb))
    rw [stripDots, hfront, List.rdropWhile, hback, List.reverse_reverse]
  unfold Storage.sanitizeComponent
  dsimp only
  rw [Option.getD_some, strip_of_allowed h.allowed, replaceRuns_eq_self h.allowed, hdots, if_neg,
    h.free, if_neg Bool.false_ne_true, String.ofList_toList]
  rintro (heq | heq | heq)
  · exact hne heq
  · exact h.head (heq ▸ rfl)
  · exact h.head (heq ▸ rfl)

/-! ## The builders only go down -/

namespace FileManager

variable (fm : FileManager)

theorem under_eq (base : List String) {parts : List String} (h : ∀ p ∈ parts, Path.IsName p) :
    under base parts = base ++ parts := by
  induction parts generalizing base with
  | nil => exact (List.append_nil base).symm
  | cons p parts ih =>
    obtain ⟨hp, hrest⟩ := List.forall_mem_cons.mp h
    rw [under, List.foldl_cons, Path.join_of_isName base hp]
    exact (ih (base ++ [p]) hrest).trans (by rw [List.append_assoc, List.singleton_append])

theorem resolveBaseDir_setSessionLabel (label : Option String) :
    (fm.setSessionLabel label).resolveBaseDir = fm.resolveBaseDir := by
  unfold setSessionLabel
  split <;> rfl

theorem component_buildSessionId (sessionIndex : String) :
    Component (fm.buildSessionId sessionIndex) := by
  have hname : Component (sanitizeComponent fm.sessionName "sys_session") :=
    component_sanitizeComponent _ (component_of_check (by decide))
  have hstamp : Component (sanitizeComponent (some sessionIndex) "unknown") :=
    component_sanitizeComponent _ (component_of_check (by decide))
  exact (hname.append (allowed_of_all (by decide))).append hstamp.allowed

theorem sessionDir_eq {sessionIndex : String} (h : sessionIndex ≠ "") :
    fm.sessionDir sessionIndex = some (fm.resolveBaseDir ++ [fm.buildSessionId sessionIndex]) := by
  rw [sessionDir, if_neg h, Path.join_of_isName _ (fm.component_buildSessionId sessionIndex).isName]

/-- The directory of one activity of a subject. -/
def activityDir (sessionIndex subjectId activity : String) : List String :=
  fm.resolveBaseDir ++ [fm.buildSessionId sessionIndex, "subjects",
    sanitizeComponent (some subjectId) "unknown_subject", "activities",
    sanitizeComponent (some activity) "sys"]

variable {fm}

theorem activityDir_eq_iff {fm' : FileManager} (hbase : fm.resolveBaseDir = fm'.resolveBaseDir)
    {ts ts' s s' activity activity' : String} :
    fm.activityDir ts s activity = fm'.activityDir ts' s' activity' ↔
      fm.buildSessionId ts = fm'.buildSessionId ts' ∧
      sanitizeComponent (some s) "unknown_subject" = sanitizeComponent (some s') "unknown_subject" ∧
      sanitizeComponent (some activity) "sys" = sanitizeComponent (some activity') "sys" := by
  rw [activityDir, activityDir, hbase, List.append_cancel_left_eq]
  simp only [List.cons.injEq, true_and, and_true]

variable {ts : String} (hts : ts ≠ "") (s activity : String)

include hts

theorem buildSubjectActivityDir_eq :
    fm.buildSubjectActivityDir ts s activity = some (fm.activityDir ts s activity) := by
  have hsubject : Component (sanitizeComponent (some s) "unknown_subject") :=
    component_sanitizeComponent _ (component_of_check (by decide))
  have hactivity : Component (sanitizeComponent (some activity) "sys") :=
    component_sanitizeComponent _ (component_of_check (by decide))
  rw [buildSubjectActivityDir, fm.sessionDir_eq hts, Option.map_some, under_eq, List.append_assoc]
  · rfl
  simp only [List.forall_mem_cons]
  exact ⟨by decide, hsubject.isName, by decide, hactivity.isName, List.forall_mem_nil _⟩

theorem buildRawPath_eq (location address : Option String) :
    fm.buildRawPath ts s activity location address =
      some (fm.activityDir ts s activity ++ ["raw", sensorFile location address ".csv"]) := by
  have hfile := (@component_sensorFile location address ".csv"
    (allowed_of_all (by decide))).isName
  rw [buildRawPath, buildSubjectActivityDir_eq hts, Option.map_some]
  exact congrArg some (under_eq _ (List.forall_mem_cons.mpr
    ⟨by decide, List.forall_mem_singleton.mpr hfile⟩))

theorem buildRealTimePath_eq (algorithm location address : Option String) :
    fm.buildRealTimePath ts s activity algorithm location address =
      some (fm.activityDir ts s activity ++ ["computed", "real_time",
        sanitizeComponent algorithm "unknown", sensorFile location address ".ndjson"]) := by
  have halgorithm : Component (sanitizeComponent algorithm "unknown") :=
    component_sanitizeComponent _ (component_of_check (by decide))
  have hfile := (@component_sensorFile location address ".ndjson"
    (allowed_of_all (by decide))).isName
  rw [buildRealTimePath, buildSubjectActivityDir_eq hts, Option.map_some]
  refine congrArg some (under_eq _ ?_)
  simp only [List.forall_mem_cons]
  exact ⟨by decide, by decide, halgorithm.isName, hfile, List.forall_mem_nil _⟩

/-- The two files that the sensors of one algorithm share differ by their directory only. -/
theorem buildSharedPath_eq (algorithm : Option String) {kind : String} (hkind : Path.IsName kind) :
    (fm.buildSubjectActivityDir ts s activity).map (fun dir =>
        under dir ["computed", kind, sanitizeComponent algorithm "unknown" ++ ".ndjson"]) =
      some (fm.activityDir ts s activity ++
        ["computed", kind, sanitizeComponent algorithm "unknown" ++ ".ndjson"]) := by
  have halgorithm : Component (sanitizeComponent algorithm "unknown") :=
    component_sanitizeComponent _ (component_of_check (by decide))
  rw [buildSubjectActivityDir_eq hts, Option.map_some]
  refine congrArg some (under_eq _ ?_)
  simp only [List.forall_mem_cons]
  have hfile := (@Component.append _ ".ndjson" halgorithm (allowed_of_all (by decide))).isName
  exact ⟨by decide, hkind, hfile, List.forall_mem_nil _⟩

theorem buildIntermediatePath_eq (algorithm : Option String) :
    fm.buildIntermediatePath ts s activity algorithm =
      some (fm.activityDir ts s activity ++
        ["computed", "intermediate", sanitizeComponent algorithm "unknown" ++ ".ndjson"]) :=
  buildSharedPath_eq hts s activity algorithm (by decide)

theorem buildConsolidatedPath_eq (algorithm : Option String) :
    fm.buildConsolidatedPath ts s activity algorithm =
      some (fm.activityDir ts s activity ++
        ["computed", "consolidated", sanitizeComponent algorithm "unknown" ++ ".ndjson"]) :=
  buildSharedPath_eq hts s activity algorithm (by decide)

/-- Every file of a recording is below the directory of its activity. -/
theorem activityDir_prefix_of_mem_outputs {tag : Option String} {subject : RecordedSubject}
    {files : List (List String)} (h : fm.outputs ts tag subject = some files)
    {path : List String} (hpath : path ∈ files) :
    fm.activityDir ts subject.subjectId (safeTag tag) <+: path := by
  have hmap {α β : Type} (f : α → β) (l : List α) : l.mapM (fun a => some (f a)) = some (l.map f) :=
    List.mapM_pure
  unfold outputs at h
  simp only [buildIntermediatePath_eq hts, buildConsolidatedPath_eq hts, buildRawPath_eq hts,
    buildRealTimePath_eq hts, Option.bind_eq_bind, Option.bind_some, Option.pure_def, hmap,
    Option.some.injEq] at h
  subst h
  obtain ⟨group, hgroup, hin⟩ := List.mem_flatten.mp hpath
  rcases List.mem_append.mp hgroup with hshared | hown
  · obtain ⟨algorithm, -, rfl⟩ := List.mem_map.mp hshared
    simp only [List.mem_cons, List.not_mem_nil, or_false] at hin
    rcases hin with heq | heq <;> exact heq ▸ List.prefix_append _ _
  · obtain ⟨e, -, rfl⟩ := List.mem_map.mp hown
    simp only [List.mem_cons, List.not_mem_nil, or_false] at hin
    rcases hin with heq | heq <;> exact heq ▸ List.prefix_append _ _

end FileManager

/-! ## Sessions -/

namespace FileManager

variable (fm : FileManager)

/-- What the directory of a session calls it. -/
def directoryName (label : Option String) : String :=
  sanitizeComponent (fm.setSessionLabel label).sessionName "sys_session"

/-- What the archive of a session calls it. -/
def archiveLabel (isalnum : Char → Bool) (label : Option String) : String :=
  clean isalnum (fm.setSessionLabel label).sessionName "session"

theorem buildSessionId_eq_iff (fm' : FileManager) (ts ts' : String) :
    fm.buildSessionId ts = fm'.buildSessionId ts' ↔
      SameJoined (sanitizeComponent fm.sessionName "sys_session").toList
        (sanitizeComponent (some ts) "unknown").toList
        (sanitizeComponent fm'.sessionName "sys_session").toList
        (sanitizeComponent (some ts') "unknown").toList := by
  have hmark : "_".toList = ['_'] := rfl
  rw [← String.toList_inj, ← append_underscore_eq_iff]
  simp only [buildSessionId, String.toList_append, hmark, List.append_assoc, List.singleton_append]

theorem sessionDir_eq_iff {fm' : FileManager} (hbase : fm.resolveBaseDir = fm'.resolveBaseDir)
    {ts ts' : String} (hts : ts ≠ "") (hts' : ts' ≠ "") :
    fm.sessionDir ts = fm'.sessionDir ts' ↔ fm.buildSessionId ts = fm'.buildSessionId ts' := by
  rw [fm.sessionDir_eq hts, fm'.sessionDir_eq hts', hbase, Option.some.injEq,
    List.append_cancel_left_eq]
  simp only [List.cons.injEq, and_true]

section Archive

variable {isalnum : Char → Bool} (hslash : isalnum '/' = false)

include hslash

theorem slash_notMem_clean (value : Option String) {fallback : String}
    (h : '/' ∉ fallback.toList) : '/' ∉ (clean isalnum value fallback).toList := by
  unfold clean
  dsimp only
  split
  · exact h
  · rw [String.toList_ofList]
    intro hmem
    obtain ⟨c, -, hc⟩ := List.mem_map.mp hmem
    split at hc
    · rename_i hkept
      rw [hc, hslash] at hkept
      exact absurd hkept (by decide)
    · exact absurd hc (by decide)

theorem isName_buildSessionArchiveName (sessionName sessionTimestamp : Option String) :
    Path.IsName (buildSessionArchiveName isalnum sessionName sessionTimestamp) := by
  have hmark : '_' ∈ (buildSessionArchiveName isalnum sessionName sessionTimestamp).toList := by
    simp [buildSessionArchiveName]
  refine ⟨?_, ?_, ?_, ?_⟩
  · intro heq
    simp [heq] at hmark
  · intro heq
    simp [heq] at hmark
  · intro heq
    simp [heq] at hmark
  · simp only [buildSessionArchiveName, String.toList_append, List.mem_append, not_or]
    exact ⟨⟨⟨slash_notMem_clean hslash _ (by decide), by decide⟩,
      slash_notMem_clean hslash _ (by decide)⟩, by decide⟩

theorem archivePath_eq {ts : String} (hts : ts ≠ "") :
    fm.archivePath isalnum ts =
      some (fm.resolveBaseDir ++ [buildSessionArchiveName isalnum fm.sessionName (some ts)]) := by
  rw [archivePath, fm.sessionDir_eq hts, Option.map_some,
    Path.join_of_isName _ (isName_buildSessionArchiveName hslash _ _)]

theorem archivePath_eq_iff {fm' : FileManager} (hbase : fm.resolveBaseDir = fm'.resolveBaseDir)
    {ts ts' : String} (hts : ts ≠ "") (hts' : ts' ≠ "") :
    fm.archivePath isalnum ts = fm'.archivePath isalnum ts' ↔
      SameJoined (clean isalnum fm.sessionName "session").toList
        (clean isalnum (some ts) "unknown_session").toList
        (clean isalnum fm'.sessionName "session").toList
        (clean isalnum (some ts') "unknown_session").toList := by
  have hmark : "_".toList = ['_'] := rfl
  rw [fm.archivePath_eq hslash hts, fm'.archivePath_eq hslash hts', hbase, Option.some.injEq,
    List.append_cancel_left_eq, ← append_underscore_eq_iff]
  simp only [List.cons.injEq, and_true]
  rw [← String.toList_inj]
  simp only [buildSessionArchiveName, String.toList_append, hmark]
  rw [List.append_cancel_right_eq, List.append_assoc, List.append_assoc, List.singleton_append,
    List.singleton_append]

end Archive

end FileManager

/-! ## What is kept apart -/

def subjectName (subjectId : String) : String :=
  sanitizeComponent (some subjectId) "unknown_subject"

/-- Outputs share a place when their sanitized names agree, and only then. -/
structure OutputsApart (isalnum : Char → Bool) (fm : FileManager) : Prop where
  raw : ∀ ts s s' activity location location' address address', ts ≠ "" →
    (fm.buildRawPath ts s activity location address =
        fm.buildRawPath ts s' activity location' address' ↔
      subjectName s = subjectName s' ∧ sanitizeComponent location = sanitizeComponent location' ∧
        sensorKey address = sensorKey address')
  realTime : ∀ ts s s' activity algorithm algorithm' location location' address address', ts ≠ "" →
    (fm.buildRealTimePath ts s activity algorithm location address =
        fm.buildRealTimePath ts s' activity algorithm' location' address' ↔
      subjectName s = subjectName s' ∧
        sanitizeComponent algorithm "unknown" = sanitizeComponent algorithm' "unknown" ∧
        sanitizeComponent location = sanitizeComponent location' ∧
        sensorKey address = sensorKey address')
  intermediate : ∀ ts s s' activity algorithm, ts ≠ "" →
    (fm.buildIntermediatePath ts s activity algorithm =
        fm.buildIntermediatePath ts s' activity algorithm ↔ subjectName s = subjectName s')
  consolidated : ∀ ts s s' activity algorithm, ts ≠ "" →
    (fm.buildConsolidatedPath ts s activity algorithm =
        fm.buildConsolidatedPath ts s' activity algorithm ↔ subjectName s = subjectName s')
  -- Names that the sanitizer leaves alone are never mixed up.
  plain : ∀ s s' fallback, Plain s → Plain s' →
    sanitizeComponent (some s) fallback = sanitizeComponent (some s') fallback → s = s'
  session : ∀ label label' ts ts', ts ≠ "" → ts' ≠ "" →
    ((fm.setSessionLabel label).sessionDir ts = (fm.setSessionLabel label').sessionDir ts' ↔
      SameJoined (fm.directoryName label).toList (sanitizeComponent (some ts) "unknown").toList
        (fm.directoryName label').toList (sanitizeComponent (some ts') "unknown").toList)
  archive : ∀ label label' ts ts', ts ≠ "" → ts' ≠ "" →
    ((fm.setSessionLabel label).archivePath isalnum ts =
        (fm.setSessionLabel label').archivePath isalnum ts' ↔
      SameJoined (fm.archiveLabel isalnum label).toList
        (clean isalnum (some ts) "unknown_session").toList
        (fm.archiveLabel isalnum label').toList
        (clean isalnum (some ts') "unknown_session").toList)
  -- A file that two recordings create is one of the same session, subject and activity.
  recordings : ∀ label label' ts ts' tag tag' subject subject' files files' path,
    ts ≠ "" → ts' ≠ "" → (fm.setSessionLabel label).outputs ts tag subject = some files →
    (fm.setSessionLabel label').outputs ts' tag' subject' = some files' →
    path ∈ files → path ∈ files' →
      (fm.setSessionLabel label).sessionDir ts = (fm.setSessionLabel label').sessionDir ts' ∧
      subjectName subject.subjectId = subjectName subject'.subjectId ∧
      sanitizeComponent (some (FileManager.safeTag tag)) "sys" =
        sanitizeComponent (some (FileManager.safeTag tag')) "sys"
  -- Archiving removes a directory that holds files of its own session only.
  removed : ∀ label label' ts ts' tag subject files path dir, ts ≠ "" →
    (fm.setSessionLabel label).outputs ts tag subject = some files → path ∈ files →
    (fm.setSessionLabel label').sessionDir ts' = some dir → dir <+: path →
      (fm.setSessionLabel label).sessionDir ts = some dir

/-- Of two prefixes of one list that are equally long, each is the other. -/
theorem prefix_unique {α : Type} {a b l : List α} (ha : a <+: l) (hb : b <+: l)
    (hlen : a.length = b.length) : a = b := by
  rw [List.prefix_iff_eq_take.mp ha, List.prefix_iff_eq_take.mp hb, hlen]

namespace FileManager

variable {fm fm' : FileManager}

theorem length_activityDir (ts s activity : String) :
    (fm.activityDir ts s activity).length = fm.resolveBaseDir.length + 5 := by
  rw [activityDir, List.length_append]
  rfl

theorem activityDir_append_eq_iff {ts s s' activity : String} {rest rest' : List String} :
    fm.activityDir ts s activity ++ rest = fm.activityDir ts s' activity ++ rest' ↔
      subjectName s = subjectName s' ∧ rest = rest' := by
  constructor
  · intro h
    obtain ⟨hdir, hrest⟩ := List.append_inj h
      ((length_activityDir ts s activity).trans (length_activityDir ts s' activity).symm)
    exact ⟨((activityDir_eq_iff rfl).mp hdir).2.1, hrest⟩
  · rintro ⟨hs, rfl⟩
    rw [(activityDir_eq_iff rfl).mpr ⟨rfl, hs, rfl⟩]

theorem sessionDir_prefix_activityDir {ts : String} {dir : List String} (s activity : String)
    (h : fm.sessionDir ts = some dir) : dir <+: fm.activityDir ts s activity := by
  have hts : ts ≠ "" := by
    rintro rfl
    cases h
  rw [fm.sessionDir_eq hts, Option.some.injEq] at h
  rw [← h]
  exact (List.prefix_append_right_inj _).mpr (List.prefix_append [_] _)

theorem length_sessionDir {ts : String} {dir : List String} (h : fm.sessionDir ts = some dir) :
    dir.length = fm.resolveBaseDir.length + 1 := by
  have hts : ts ≠ "" := by
    rintro rfl
    cases h
  rw [fm.sessionDir_eq hts, Option.some.injEq] at h
  rw [← h, List.length_append]
  rfl

end FileManager

/-- **Outputs are kept apart by their sanitized names.** -/
theorem outputsApart (isalnum : Char → Bool) (hslash : isalnum '/' = false) (fm : FileManager) :
    OutputsApart isalnum fm := by
  have hbase (label label' : Option String) : (fm.setSessionLabel label).resolveBaseDir =
      (fm.setSessionLabel label').resolveBaseDir := by
    rw [fm.resolveBaseDir_setSessionLabel, fm.resolveBaseDir_setSessionLabel]
  constructor
  case raw =>
    intro ts s s' activity location location' address address' hts
    rw [FileManager.buildRawPath_eq hts, FileManager.buildRawPath_eq hts, Option.some.injEq,
      FileManager.activityDir_append_eq_iff, ← sensorFile_eq_iff _ _ _ _ ".csv"]
    simp only [List.cons.injEq, true_and, and_true]
  case realTime =>
    intro ts s s' activity algorithm algorithm' location location' address address' hts
    rw [FileManager.buildRealTimePath_eq hts, FileManager.buildRealTimePath_eq hts,
      Option.some.injEq, FileManager.activityDir_append_eq_iff,
      ← sensorFile_eq_iff _ _ _ _ ".ndjson"]
    simp only [List.cons.injEq, true_and, and_true]
  case intermediate =>
    intro ts s s' activity algorithm hts
    rw [FileManager.buildIntermediatePath_eq hts, FileManager.buildIntermediatePath_eq hts,
      Option.some.injEq, FileManager.activityDir_append_eq_iff]
    exact and_iff_left rfl
  case consolidated =>
    intro ts s s' activity algorithm hts
    rw [FileManager.buildConsolidatedPath_eq hts, FileManager.buildConsolidatedPath_eq hts,
      Option.some.injEq, FileManager.activityDir_append_eq_iff]
    exact and_iff_left rfl
  case plain =>
    intro s s' fallback hs hs' heq
    rwa [hs.sanitizeComponent, hs'.sanitizeComponent] at heq
  case session =>
    intro label label' ts ts' hts hts'
    rw [FileManager.sessionDir_eq_iff _ (hbase label label') hts hts',
      FileManager.buildSessionId_eq_iff]
    rfl
  case archive =>
    intro label label' ts ts' hts hts'
    exact FileManager.archivePath_eq_iff _ hslash (hbase label label') hts hts'
  case recordings =>
    intro label label' ts ts' tag tag' subject subject' files files' path hts hts' h h' hmem hmem'
    have hbelow := FileManager.activityDir_prefix_of_mem_outputs hts h hmem
    have hbelow' := FileManager.activityDir_prefix_of_mem_outputs hts' h' hmem'
    have hsame := prefix_unique hbelow hbelow'
      (by rw [FileManager.length_activityDir, FileManager.length_activityDir, hbase label label'])
    obtain ⟨hsession, hsubject, htag⟩ :=
      (FileManager.activityDir_eq_iff (hbase label label')).mp hsame
    exact ⟨(FileManager.sessionDir_eq_iff _ (hbase label label') hts hts').mpr hsession,
      hsubject, htag⟩
  case removed =>
    intro label label' ts ts' tag subject files path dir hts h hmem hdir hprefix
    have hbelow := FileManager.activityDir_prefix_of_mem_outputs hts h hmem
    have hown := FileManager.sessionDir_eq (fm.setSessionLabel label) hts
    have hinside := (FileManager.sessionDir_prefix_activityDir subject.subjectId
      (FileManager.safeTag tag) hown).trans hbelow
    have hsame := prefix_unique hprefix hinside (by
      rw [FileManager.length_sessionDir hdir, FileManager.length_sessionDir hown,
        hbase label label'])
    rw [hsame]
    exact hown

/-- Two subjects of one recording, and two labels at one time. -/
theorem outputs_collide :
    let fm := FileManager.new none ["data"]
    let ts := "20260727_120626"
    fm.buildRawPath ts "a b" "sys" (some "wrist") (some "AA:01") =
        fm.buildRawPath ts "a_b" "sys" (some "wrist") (some "AA:01") ∧
      fm.buildRawPath ts "a" "sys" (some "wrist") (some "AA:01") =
        fm.buildRawPath ts "a" "sys" (some "wrist") (some "A:A01") ∧
      (fm.setSessionLabel (some "a b")).sessionDir ts =
        (fm.setSessionLabel (some "a_b")).sessionDir ts ∧
      (fm.setSessionLabel (some "a")).archivePath Char.isAlphanum "b_c" =
        (fm.setSessionLabel (some "a_b")).archivePath Char.isAlphanum "c" := by
  decide +kernel

theorem outputsApart_ascii : Char.isAlphanum '/' = false ∧
    OutputsApart Char.isAlphanum (FileManager.new none ["data"]) :=
  ⟨by decide, outputsApart Char.isAlphanum (by decide) _⟩

end NexusN3.Storage
