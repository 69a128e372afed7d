import NexusN3.Storage.Inside
import Mathlib.Data.List.Chain

/-!
# The two names of a session

`describe_session` names a session by its id, which is also the name of its directory.
`archive_session` builds the name of the archive from the same label and timestamp, with another
sanitizer.

* **`FileManager.describeSession`**, **`FileManager.sessionArchiveName`** — the two names.
* **`labelled`** — a manager after a history of labels.
* **`KeptLabel`**, **`KeptStamp`** — the texts that both sanitizers treat alike.
* **`joined_eq_iff`** — two joined names are the same only if their halves are.
* **`archive_named_iff`** — when the archive is called as the session is.
-/

namespace NexusN3.Storage

open Lib

/-! ## The two names -/

/-- What `describe_session` says of the names of a session. -/
structure SessionInfo where
  sessionName : Option String
  sessionTimestamp : Option String
  sessionId : Option String
  sessionDir : Option (List String)

namespace FileManager

variable (fm : FileManager)

def describeSession (sessionIndex : Option String) : SessionInfo :=
  let sessionTs := sessionIndex.filter (· ≠ "")
  { sessionName := fm.sessionName
    sessionTimestamp := sessionTs
    sessionId := sessionTs.map fm.buildSessionId
    sessionDir := sessionTs.bind fm.sessionDir }

/-- The name that `archive_session` gives to the archive; `none` is the `ValueError`. -/
def sessionArchiveName (isalnum : Char → Bool) (sessionIndex : Option String) : Option String :=
  let info := fm.describeSession sessionIndex
  info.sessionDir.map fun _ =>
    buildSessionArchiveName isalnum info.sessionName info.sessionTimestamp

/-- The archive is called as the session and its directory are. -/
def NamedAlike (isalnum : Char → Bool) (sessionIndex : Option String) : Prop :=
  let info := fm.describeSession sessionIndex
  fm.sessionArchiveName isalnum sessionIndex = info.sessionId.map (· ++ ".zip") ∧
    info.sessionDir.bind List.getLast? = info.sessionId

end FileManager

/-- A manager after its calls of `set_session_label`. -/
def labelled (site : Option String) (baseDir : List String) (labels : List (Option String)) :
    FileManager :=
  labels.foldl FileManager.setSessionLabel (FileManager.new site baseDir)

/-- The session name that a label gives. -/
def labelName (label : Option String) : String :=
  match label.filter (· ≠ "") with
  | some text => sanitizeLabel text
  | none => "sys_session"

theorem sessionName_labelled (site : Option String) (baseDir : List String)
    (labels : List (Option String)) :
    (labelled site baseDir labels).sessionName = labels.getLast?.map labelName := by
  cases labels using List.reverseRecOn with
  | nil => rfl
  | append_singleton labels label =>
    rw [labelled, List.foldl_concat, List.getLast?_concat, Option.map_some,
      FileManager.setSessionLabel, labelName]
    cases label.filter (· ≠ "") <;> rfl

/-! ## Texts that are left alone -/

/-- Neither end is a dot, and the stem is no device. -/
structure Kept (text : List Char) : Prop where
  head : text.head? ≠ some '.'
  last : text.getLast? ≠ some '.'
  free : isReserved text = false

/-- A label has been set, and the last one is kept where it is a text. -/
def KeptLabel : Option (Option String) → Prop
  | none => False
  | some label => ∀ text, label.filter (· ≠ "") = some text → Kept (strip text).toList

/-- Both sanitizers leave the same of a timestamp. -/
structure KeptStamp (isalnum : Char → Bool) (text : List Char) : Prop extends Kept text where
  nonempty : text ≠ []
  ascii : ∀ c ∈ text, isalnum c = true → allowed c = true
  -- a run of other characters is one `_` in the id, and one for each of them in the archive
  apart : text.IsChain fun a b => allowed a = true ∨ allowed b = true

theorem Plain.kept {text : String} (h : Plain text) : Kept text.toList := ⟨h.head, h.last, h.free⟩

theorem Kept.plain {text : String} (h : Kept text.toList) (hne : text ≠ "")
    (hallowed : ∀ c ∈ text.toList, allowed c = true) : Plain text :=
  ⟨hne, hallowed, h.head, h.last, h.free⟩

/-! ### Stems -/

theorem isAlphanum_of_toUpper {c : Char} (h : c.toUpper.isAlphanum = true) :
    c.isAlphanum = true := by
  unfold Char.toUpper at h
  split at h
  · rename_i hlower
    have hlow : (decide (c.val ≥ 97) && decide (c.val ≤ 122)) = true := by
      rw [Bool.and_eq_true, decide_eq_true_eq, decide_eq_true_eq]
      exact hlower
    rw [isAlphanum_eq, hlow, Bool.or_true, Bool.true_or]
  · exact h

theorem isAlphanum_of_isReserved {cs : List Char} (h : isReserved cs = true) :
    ∀ c ∈ cs.takeWhile (· ≠ '.'), c.isAlphanum = true := by
  have hnames : ∀ name ∈ windowsReservedNames, name.toList.all Char.isAlphanum = true := by
    decide +kernel
  intro c hc
  refine isAlphanum_of_toUpper (List.all_eq_true.mp (hnames _ (of_decide_eq_true h)) _ ?_)
  rw [String.toList_ofList]
  exact List.mem_map_of_mem hc

/-- A stem of letters and digits on either side is the same on the other. -/
theorem isReserved_congr {cs ds : List Char}
    (h : (∀ c ∈ cs.takeWhile (· ≠ '.'), c.isAlphanum = true) ∨
        (∀ c ∈ ds.takeWhile (· ≠ '.'), c.isAlphanum = true) →
      cs.takeWhile (· ≠ '.') = ds.takeWhile (· ≠ '.')) :
    isReserved cs = isReserved ds := by
  rw [Bool.eq_iff_iff]
  constructor
  · intro hcs
    unfold isReserved
    rw [← h (Or.inl (isAlphanum_of_isReserved hcs))]
    exact hcs
  · intro hds
    unfold isReserved
    rw [h (Or.inr (isAlphanum_of_isReserved hds))]
    exact hds

theorem allowed_of_isAlphanum {c : Char} (h : c.isAlphanum = true) : allowed c = true := by
  unfold allowed
  rw [h]
  rfl

/-! ### Runs replaced -/

/-- The replacement of one character. -/
def mask (c : Char) : Char := if allowed c then c else '_'

theorem mask_eq_dot_iff {c : Char} : mask c = '.' ↔ c = '.' := by
  unfold mask
  split
  · rfl
  · rename_i hc
    constructor
    · intro h
      exact absurd h (by decide)
    · rintro rfl
      exact absurd rfl hc

theorem length_replaceRuns_le (inRun : Bool) (cs : List Char) :
    (replaceRuns inRun cs).length ≤ cs.length := by
  induction cs generalizing inRun with
  | nil => exact le_rfl
  | cons c cs ih =>
    unfold replaceRuns
    split
    · exact Nat.succ_le_succ (ih false)
    · split
      · exact (ih true).trans (Nat.le_succ _)
      · exact Nat.succ_le_succ (ih true)

theorem head?_replaceRuns (cs : List Char) :
    (replaceRuns false cs).head? = cs.head?.map mask := by
  cases cs with
  | nil => rfl
  | cons c cs =>
    rw [List.head?_cons, Option.map_some, replaceRuns, mask]
    split
    · rfl
    · rw [if_neg Bool.false_ne_true]
      rfl

theorem replaceRuns_eq_nil_iff {cs : List Char} : replaceRuns false cs = [] ↔ cs = [] := by
  rw [← List.head?_eq_none_iff, head?_replaceRuns, Option.map_eq_none_iff, List.head?_eq_none_iff]

theorem replaceRuns_concat {d : Char} (hd : allowed d = true) (inRun : Bool) (cs : List Char) :
    replaceRuns inRun (cs ++ [d]) = replaceRuns inRun cs ++ [d] := by
  induction cs generalizing inRun with
  | nil =>
    change replaceRuns inRun [d] = [d]
    rw [replaceRuns, if_pos hd]
    rfl
  | cons c cs ih =>
    rw [List.cons_append]
    unfold replaceRuns
    split
    · rw [ih, List.cons_append]
    · split
      · exact ih true
      · rw [ih, List.cons_append]

/-- A run at the end is one `_`, unless it has begun before. -/
theorem replaceRuns_concat_of_not {d : Char} (hd : ¬ allowed d = true) (inRun : Bool)
    (cs : List Char) : replaceRuns inRun (cs ++ [d]) = [] ∨
      (replaceRuns inRun (cs ++ [d])).getLast? = some '_' := by
  induction cs generalizing inRun with
  | nil =>
    rw [List.nil_append, replaceRuns, if_neg hd]
    split
    · exact Or.inl rfl
    · exact Or.inr rfl
  | cons c cs ih =>
    rw [List.cons_append]
    unfold replaceRuns
    split
    · refine Or.inr ?_
      rcases ih false with hnil | hlast
      · rw [replaceRuns_eq_nil_iff] at hnil
        exact absurd hnil (by simp)
      · rw [List.getLast?_cons, hlast]
        rfl
    · split
      · exact ih true
      · refine Or.inr ?_
        rcases ih true with hnil | hlast
        · rw [hnil]
          rfl
        · rw [List.getLast?_cons, hlast]
          rfl

theorem getLast?_replaceRuns (cs : List Char) :
    (replaceRuns false cs).getLast? = some '.' ↔ cs.getLast? = some '.' := by
  cases cs using List.reverseRecOn with
  | nil => rfl
  | append_singleton cs d =>
    by_cases hd : allowed d = true
    · rw [replaceRuns_concat hd, List.getLast?_concat, List.getLast?_concat]
    · have hne : d ≠ '.' := fun heq => hd (heq ▸ rfl)
      rw [List.getLast?_concat, Option.some.injEq]
      rcases replaceRuns_concat_of_not hd false cs with hnil | hlast
      · rw [hnil]
        simp [hne]
      · rw [hlast]
        simp [hne]

theorem takeWhile_replaceRuns {cs : List Char}
    (h : (∀ c ∈ (replaceRuns false cs).takeWhile (· ≠ '.'), c.isAlphanum = true) ∨
      ∀ c ∈ cs.takeWhile (· ≠ '.'), c.isAlphanum = true) :
    (replaceRuns false cs).takeWhile (· ≠ '.') = cs.takeWhile (· ≠ '.') := by
  induction cs with
  | nil => rfl
  | cons c cs ih =>
    unfold replaceRuns at h ⊢
    by_cases hc : allowed c = true
    · rw [if_pos hc] at h ⊢
      by_cases hdot : c = '.'
      · rw [List.takeWhile_cons_of_neg (by simp [hdot]),
          List.takeWhile_cons_of_neg (by simp [hdot])]
      · rw [List.takeWhile_cons_of_pos (by simp [hdot]),
          List.takeWhile_cons_of_pos (by simp [hdot])] at h ⊢
        rw [ih (h.imp (fun h => (List.forall_mem_cons.mp h).2) fun h =>
          (List.forall_mem_cons.mp h).2)]
    · rw [if_neg hc, if_neg Bool.false_ne_true] at h
      have hdot : c ≠ '.' := fun heq => hc (heq ▸ rfl)
      rcases h with h | h
      · rw [List.takeWhile_cons_of_pos (by decide)] at h
        exact absurd (List.forall_mem_cons.mp h).1 (by decide)
      · rw [List.takeWhile_cons_of_pos (by simp [hdot])] at h
        exact absurd (allowed_of_isAlphanum (List.forall_mem_cons.mp h).1) hc

theorem takeWhile_mask {cs : List Char}
    (h : (∀ c ∈ (cs.map mask).takeWhile (· ≠ '.'), c.isAlphanum = true) ∨
      ∀ c ∈ cs.takeWhile (· ≠ '.'), c.isAlphanum = true) :
    (cs.map mask).takeWhile (· ≠ '.') = cs.takeWhile (· ≠ '.') := by
  have hstem : (cs.map mask).takeWhile (· ≠ '.') = (cs.takeWhile (· ≠ '.')).map mask := by
    rw [List.takeWhile_map]
    congr 2
    funext c
    simp [mask_eq_dot_iff]
  rw [hstem] at h ⊢
  refine (List.map_congr_left fun c hc => ?_).trans (List.map_id _)
  have hallowed : allowed c = true := by
    rcases h with h | h
    · by_contra hnot
      have halnum := h _ (List.mem_map_of_mem hc)
      rw [mask, if_neg hnot] at halnum
      exact absurd halnum (by decide)
    · exact allowed_of_isAlphanum (h c hc)
  rw [mask, if_pos hallowed]
  rfl

theorem kept_replaceRuns {cs : List Char} : Kept (replaceRuns false cs) ↔ Kept cs := by
  have hhead : (replaceRuns false cs).head? = some '.' ↔ cs.head? = some '.' := by
    rw [head?_replaceRuns, Option.map_eq_some_iff]
    simp only [mask_eq_dot_iff, exists_eq_right]
  have hfree : isReserved (replaceRuns false cs) = isReserved cs :=
    isReserved_congr takeWhile_replaceRuns
  constructor
  · rintro ⟨head, last, free⟩
    exact ⟨mt hhead.mpr head, mt (getLast?_replaceRuns cs).mpr last, hfree ▸ free⟩
  · rintro ⟨head, last, free⟩
    exact ⟨mt hhead.mp head, mt (getLast?_replaceRuns cs).mp last, hfree.trans free⟩

theorem kept_mask {cs : List Char} : Kept (cs.map mask) ↔ Kept cs := by
  have hhead : (cs.map mask).head? = some '.' ↔ cs.head? = some '.' := by
    rw [List.head?_map, Option.map_eq_some_iff]
    simp only [mask_eq_dot_iff, exists_eq_right]
  have hlast : (cs.map mask).getLast? = some '.' ↔ cs.getLast? = some '.' := by
    rw [List.getLast?_map, Option.map_eq_some_iff]
    simp only [mask_eq_dot_iff, exists_eq_right]
  have hfree : isReserved (cs.map mask) = isReserved cs := isReserved_congr takeWhile_mask
  constructor
  · rintro ⟨head, last, free⟩
    exact ⟨mt hhead.mpr head, mt hlast.mpr last, hfree ▸ free⟩
  · rintro ⟨head, last, free⟩
    exact ⟨mt hhead.mp head, mt hlast.mp last, hfree.trans free⟩

/-- Each character is replaced for itself, when no two neighbours are. -/
theorem replaceRuns_eq_map_iff {inRun : Bool} {cs : List Char} :
    replaceRuns inRun cs = cs.map mask ↔
      cs.IsChain (fun a b => allowed a = true ∨ allowed b = true) ∧
        (inRun = true → ∀ c, cs.head? = some c → allowed c = true) := by
  induction cs generalizing inRun with
  | nil => simp [replaceRuns]
  | cons c cs ih =>
    have hchain : (c :: cs).IsChain (fun a b => allowed a = true ∨ allowed b = true) ↔
        cs.IsChain (fun a b => allowed a = true ∨ allowed b = true) ∧
          (¬ allowed c = true → ∀ d, cs.head? = some d → allowed d = true) := by
      cases cs with
      | nil => simp
      | cons d cs =>
        rw [List.isChain_cons_cons]
        simp only [List.head?_cons, Option.some.injEq, forall_eq', or_iff_not_imp_left]
        exact and_comm
    rw [List.map_cons, hchain, replaceRuns, mask]
    by_cases hc : allowed c = true
    · rw [if_pos hc, if_pos hc, List.cons.injEq, ih]
      simp [hc]
    · rw [if_neg hc, if_neg hc]
      cases inRun with
      | true =>
        rw [if_pos rfl]
        constructor
        · intro h
          have hlen := length_replaceRuns_le true cs
          rw [h, List.length_cons, List.length_map] at hlen
          omega
        · rintro ⟨-, h⟩
          exact absurd (h rfl c rfl) hc
      | false =>
        rw [if_neg Bool.false_ne_true, List.cons.injEq, ih]
        simp [hc]

/-! ## One half of a name -/

theorem sanitizeComponent_replaced (value : Option String) (fallback : String) :
    sanitizeComponent value fallback =
      sanitizeComponent (some (String.ofList (replaceRuns false (strip (value.getD "")).toList)))
        fallback := by
  have hallowed : ∀ c ∈ replaceRuns false (strip (value.getD "")).toList, allowed c = true :=
    fun c hc => allowed_of_mem_replaceRuns hc
  have hstrip : strip (String.ofList (replaceRuns false (strip (value.getD "")).toList)) =
      String.ofList (replaceRuns false (strip (value.getD "")).toList) :=
    strip_of_allowed (by rwa [String.toList_ofList])
  unfold sanitizeComponent
  dsimp only
  rw [Option.getD_some, hstrip, String.toList_ofList, replaceRuns_eq_self hallowed]

section Half

variable {text : String} (hne : text ≠ "") (hallowed : ∀ c ∈ text.toList, allowed c = true)

include hne hallowed

/-- A text keeps its first character only if dots at its end are all that it loses. -/
theorem exists_dots {fallback : String} (hfallback : Plain fallback)
    (hhead : (sanitizeComponent (some text) fallback).toList.head? = text.toList.head?) :
    ∃ dots, text.toList = (sanitizeComponent (some text) fallback).toList ++ dots ∧
      ∀ c ∈ dots, c = '.' := by
  have hplain := plain_sanitizeComponent (some text) hfallback
  have hsome : text.toList ≠ [] := fun heq => hne (String.toList_eq_nil_iff.mp heq)
  obtain ⟨a, ha⟩ := Option.ne_none_iff_exists'.mp (mt List.head?_eq_none_iff.mp hsome)
  have hdot : (decide (a = ' ') || decide (a = '.')) = false := by
    have hne' : a ≠ '.' := fun heq => hplain.head (hhead.trans (heq ▸ ha))
    have hspace : a ≠ ' ' := fun heq =>
      absurd (hallowed a (List.mem_of_mem_head? ha)) (by rw [heq]; decide)
    rw [decide_eq_false hspace, decide_eq_false hne']
    rfl
  have hfront : text.toList.dropWhile (fun c : Char => c = ' ' || c = '.') = text.toList :=
    dropWhile_eq_self_of_head? ha hdot
  have hstrip : stripDots text.toList =
      text.toList.rdropWhile (fun c : Char => c = ' ' || c = '.') := by
    rw [stripDots, hfront]
  have hsplit : stripDots text.toList ++
      text.toList.rtakeWhile (fun c : Char => c = ' ' || c = '.') = text.toList := by
    rw [hstrip]
    exact List.rdropWhile_append_rtakeWhile
  have hcleaned : stripDots text.toList ≠ [] := by
    intro heq
    rw [hstrip, List.rdropWhile_eq_nil_iff] at heq
    have hall := heq a (List.mem_of_mem_head? ha)
    rw [hdot] at hall
    cases hall
  have hfirst : (stripDots text.toList).head? = some a := by
    rw [← hsplit, List.head?_append_of_ne_nil _ hcleaned] at ha
    exact ha
  have hvalue : sanitizeComponent (some text) fallback =
      String.ofList (guardReserved (stripDots text.toList)) := by
    unfold sanitizeComponent guardReserved
    dsimp only
    rw [Option.getD_some, strip_of_allowed hallowed, replaceRuns_eq_self hallowed, if_neg]
    · split <;> rfl
    · rintro (heq | heq | heq)
      · exact hcleaned heq
      · exact head?_stripDots text.toList (by rw [heq]; rfl)
      · exact head?_stripDots text.toList (by rw [heq]; rfl)
  have hfree : isReserved (stripDots text.toList) = false := by
    by_contra hreserved
    rw [Bool.not_eq_false] at hreserved
    rw [hvalue, String.toList_ofList, guardReserved, if_pos hreserved, List.head?_cons, ha,
      Option.some.injEq] at hhead
    -- a device has no `_` in its stem
    cases hstem : stripDots text.toList with
    | nil => exact hcleaned hstem
    | cons c cs =>
      rw [hstem, List.head?_cons, Option.some.injEq] at hfirst
      rw [hstem] at hreserved
      have halnum := isAlphanum_of_isReserved hreserved c (by
        rw [List.takeWhile_cons_of_pos (by simp [hfirst, ← hhead])]
        exact List.mem_cons_self)
      rw [hfirst, ← hhead] at halnum
      exact absurd halnum (by decide)
  rw [hvalue, String.toList_ofList, guardReserved, hfree, if_neg Bool.false_ne_true]
  refine ⟨_, hsplit.symm, fun c hc => ?_⟩
  have hkind := List.mem_rtakeWhile_imp hc
  have hspace : c ≠ ' ' := fun heq =>
    absurd (hallowed c ((List.rtakeWhile_suffix _ _).subset hc)) (by rw [heq]; decide)
  simpa [hspace] using hkind

theorem sanitizeComponent_eq_self_iff {fallback : String} (hfallback : Plain fallback) :
    sanitizeComponent (some text) fallback = text ↔ Kept text.toList := by
  constructor
  · intro h
    have hplain := plain_sanitizeComponent (some text) hfallback
    rw [h] at hplain
    exact hplain.kept
  · exact fun h => (h.plain hne hallowed).sanitizeComponent fallback

/-- Two joined names are the same only if their halves are. -/
theorem joined_eq_iff {fallback : String} (hfallback : Plain fallback) {b d : List Char} :
    (sanitizeComponent (some text) fallback).toList ++ '_' :: b = text.toList ++ '_' :: d ↔
      sanitizeComponent (some text) fallback = text ∧ b = d := by
  constructor
  · intro h
    have hplain := plain_sanitizeComponent (some text) hfallback
    have hsome : text.toList ≠ [] := fun heq => hne (String.toList_eq_nil_iff.mp heq)
    have hsome' : (sanitizeComponent (some text) fallback).toList ≠ [] := fun heq =>
      hplain.nonempty (String.toList_eq_nil_iff.mp heq)
    have hhead := congrArg List.head? h
    rw [List.head?_append_of_ne_nil _ hsome', List.head?_append_of_ne_nil _ hsome] at hhead
    obtain ⟨dots, hdots, hall⟩ := exists_dots hne hallowed hfallback hhead
    rw [hdots, List.append_assoc, List.append_cancel_left_eq] at h
    cases dots with
    | nil =>
      rw [List.append_nil, String.toList_inj] at hdots
      exact ⟨hdots.symm, (List.cons.inj h).2⟩
    | cons c dots =>
      have hc := hall c List.mem_cons_self
      rw [← (List.cons.inj h).1] at hc
      exact absurd hc (by decide)
  · rintro ⟨hsame, rfl⟩
    rw [hsame]

end Half

/-! ## Labels -/

theorem kept_sanitizeLabel (label : String) :
    Kept (sanitizeLabel label).toList ↔ Kept (strip label).toList := by
  unfold sanitizeLabel
  dsimp only
  split
  · rename_i hempty
    have hnil : (strip label).toList = [] := by
      rw [← String.toList_inj, String.toList_ofList] at hempty
      exact replaceRuns_eq_nil_iff.mp hempty
    rw [hnil]
    exact iff_of_true ⟨by decide, by decide, by decide +kernel⟩
      ⟨by decide, by decide, by decide +kernel⟩
  · rw [String.toList_ofList]
    exact kept_replaceRuns

theorem labelName_ne_empty (label : Option String) : labelName label ≠ "" := by
  unfold labelName
  split
  · unfold sanitizeLabel
    dsimp only
    split
    · decide
    · assumption
  · decide

theorem allowed_labelName (label : Option String) :
    ∀ c ∈ (labelName label).toList, allowed c = true := by
  unfold labelName
  split
  · unfold sanitizeLabel
    dsimp only
    split
    · exact allowed_of_all (by decide)
    · rw [String.toList_ofList]
      exact fun c hc => allowed_of_mem_replaceRuns hc
  · exact allowed_of_all (by decide)

theorem kept_labelName_iff {label : Option String} :
    Kept (labelName label).toList ↔ KeptLabel (some label) := by
  unfold labelName KeptLabel
  split
  · rename_i text htext
    rw [kept_sanitizeLabel]
    constructor
    · rintro h text' htext'
      rw [htext, Option.some.injEq] at htext'
      exact htext' ▸ h
    · exact fun h => h text htext
  · rename_i hnone
    refine iff_of_true ⟨by decide, by decide, by decide +kernel⟩ fun text htext => ?_
    rw [hnone] at htext
    cases htext

/-! ## Timestamps -/

/-- The replacement of one character in the name of an archive. -/
def keep (isalnum : Char → Bool) (c : Char) : Char :=
  if isalnum c || c = '.' || c = '_' || c = '-' then c else '_'

section Archive

variable {isalnum : Char → Bool} (hascii : ∀ c : Char, c.isAlphanum = true → isalnum c = true)

theorem clean_eq (value : Option String) (fallback : String) :
    clean isalnum value fallback = if (strip (value.getD "")).toList = [] then fallback
      else String.ofList ((strip (value.getD "")).toList.map (keep isalnum)) := by
  unfold clean
  dsimp only
  simp only [List.map_eq_nil_iff]
  rfl

include hascii

theorem keep_of_allowed {c : Char} (h : allowed c = true) : keep isalnum c = c := by
  unfold keep
  refine if_pos ?_
  simp only [allowed, Bool.or_eq_true, decide_eq_true_eq] at h ⊢
  rcases h with ((halnum | hdot) | hmark) | hdash
  · exact Or.inl (Or.inl (Or.inl (hascii c halnum)))
  · exact Or.inl (Or.inl (Or.inr hdot))
  · exact Or.inl (Or.inr hmark)
  · exact Or.inr hdash

theorem keep_eq_mask {c : Char} (h : isalnum c = true → allowed c = true) :
    keep isalnum c = mask c := by
  unfold mask
  split
  · rename_i hallowed
    exact keep_of_allowed hascii hallowed
  · rename_i hnot
    unfold keep
    refine if_neg ?_
    simp only [Bool.or_eq_true, decide_eq_true_eq]
    rintro (((halnum | rfl) | rfl) | rfl)
    · exact hnot (h halnum)
    · exact hnot rfl
    · exact hnot rfl
    · exact hnot rfl

theorem clean_of_allowed {text : String} (hne : text ≠ "")
    (hallowed : ∀ c ∈ text.toList, allowed c = true) (fallback : String) :
    clean isalnum (some text) fallback = text := by
  rw [clean_eq, Option.getD_some, strip_of_allowed hallowed,
    if_neg fun heq => hne (String.toList_eq_nil_iff.mp heq)]
  have hkeep : text.toList.map (keep isalnum) = text.toList :=
    (List.map_congr_left fun c hc => keep_of_allowed hascii (hallowed c hc)).trans (List.map_id _)
  rw [hkeep, String.ofList_toList]

/-- Both sanitizers leave the same of a timestamp, when it is one that is kept. -/
theorem sanitizeComponent_eq_clean_iff {ts : String} :
    sanitizeComponent (some ts) "unknown" = clean isalnum (some ts) "unknown_session" ↔
      KeptStamp isalnum (strip ts).toList := by
  have hunknown : Plain "unknown" := plain_of_mem_fallbacks (by decide)
  have hreplaced := sanitizeComponent_replaced (some ts) "unknown"
  rw [Option.getD_some] at hreplaced
  rw [clean_eq, Option.getD_some]
  by_cases hnil : (strip ts).toList = []
  · rw [if_pos hnil, hreplaced, hnil]
    refine iff_of_false (by decide +kernel) fun h => h.nonempty rfl
  · rw [if_neg hnil]
    have hX : replaceRuns false (strip ts).toList ≠ [] := mt replaceRuns_eq_nil_iff.mp hnil
    have hne : String.ofList (replaceRuns false (strip ts).toList) ≠ "" := by
      rwa [Ne, ← String.toList_inj, String.toList_ofList]
    have hallowed : ∀ c ∈ (String.ofList (replaceRuns false (strip ts).toList)).toList,
        allowed c = true := by
      rw [String.toList_ofList]
      exact fun c hc => allowed_of_mem_replaceRuns hc
    constructor
    · intro h
      have hplain := plain_sanitizeComponent (some ts) hunknown
      have hlist := congrArg String.toList h
      rw [String.toList_ofList] at hlist
      have hascii' (c : Char) (hc : c ∈ (strip ts).toList) (halnum : isalnum c = true) :
          allowed c = true := by
        have hkept := hplain.allowed (keep isalnum c) (hlist ▸ List.mem_map_of_mem hc)
        rw [keep, halnum] at hkept
        exact hkept
      have hmask : (strip ts).toList.map (keep isalnum) = (strip ts).toList.map mask :=
        List.map_congr_left fun c hc => keep_eq_mask hascii (hascii' c hc)
      rw [hmask] at hlist
      have hkept := hplain.kept
      rw [hlist, kept_mask] at hkept
      refine ⟨hkept, hnil, hascii', ?_⟩
      rw [hreplaced] at hlist
      have hhead : (sanitizeComponent
          (some (String.ofList (replaceRuns false (strip ts).toList))) "unknown").toList.head? =
          (String.ofList (replaceRuns false (strip ts).toList)).toList.head? := by
        rw [hlist, String.toList_ofList, head?_replaceRuns, List.head?_map]
      obtain ⟨dots, hdots, -⟩ := exists_dots hne hallowed hunknown hhead
      rw [hlist, String.toList_ofList] at hdots
      have hlen := length_replaceRuns_le false (strip ts).toList
      rw [hdots, List.length_append, List.length_map] at hlen
      have hnone : dots = [] := List.length_eq_zero_iff.mp (by omega)
      rw [hnone, List.append_nil] at hdots
      exact (replaceRuns_eq_map_iff.mp hdots).1
    · intro h
      have hmask : replaceRuns false (strip ts).toList = (strip ts).toList.map mask :=
        replaceRuns_eq_map_iff.mpr ⟨h.apart, fun hrun => absurd hrun Bool.false_ne_true⟩
      have hkeep : (strip ts).toList.map (keep isalnum) = (strip ts).toList.map mask :=
        List.map_congr_left fun c hc => keep_eq_mask hascii (h.ascii c hc)
      rw [hreplaced, (sanitizeComponent_eq_self_iff hne hallowed hunknown).mpr, hkeep, hmask]
      rw [String.toList_ofList]
      exact kept_replaceRuns.mpr h.toKept

/-! ## Both names -/

/-- **The archive is called as the session is**, exactly when there has been a label, and the last
label and the timestamp are texts that are kept. -/
theorem archive_named_iff (site : Option String) (baseDir : List String)
    (labels : List (Option String)) (sessionIndex : Option String) :
    (labelled site baseDir labels).NamedAlike isalnum sessionIndex ↔
      ∀ ts, sessionIndex.filter (· ≠ "") = some ts →
        KeptLabel labels.getLast? ∧ KeptStamp isalnum (strip ts).toList := by
  have hmark : "_".toList = ['_'] := rfl
  have hsys : Plain "sys_session" := plain_of_mem_fallbacks (by decide)
  have hname := sessionName_labelled site baseDir labels
  generalize labelled site baseDir labels = fm at hname
  unfold FileManager.NamedAlike FileManager.sessionArchiveName FileManager.describeSession
  dsimp only
  cases hts : sessionIndex.filter (· ≠ "") with
  | none => simp
  | some ts =>
    have hne : ts ≠ "" := by simpa using (Option.filter_eq_some_iff.mp hts).2
    rw [Option.bind_some, fm.sessionDir_eq hne, Option.map_some, Option.map_some, Option.map_some,
      Option.bind_some, List.getLast?_concat]
    simp only [and_true, Option.some.injEq, forall_eq']
    rw [FileManager.buildSessionId, buildSessionArchiveName, ← String.toList_inj,
      String.toList_append, @String.toList_append _ ".zip", List.append_cancel_right_eq,
      ← sanitizeComponent_eq_clean_iff hascii]
    simp only [String.toList_append, hmark, List.append_assoc, List.singleton_append]
    rw [eq_comm, hname]
    cases hlast : labels.getLast? with
    | none =>
      refine iff_of_false (fun h => ?_) fun h => h.1
      -- `sys_session` and `session` differ in their second letter
      have hid : (sanitizeComponent none "sys_session").toList =
          's' :: 'y' :: "s_session".toList := by
        decide +kernel
      have harchive : (clean isalnum none "session").toList = 's' :: 'e' :: "ssion".toList := by
        rw [clean_eq, if_pos (by decide +kernel)]
        rfl
      rw [Option.map_none, hid, harchive] at h
      exact absurd (List.cons.inj (List.cons.inj h).2).1 (by decide)
    | some label =>
      rw [Option.map_some, clean_of_allowed hascii (labelName_ne_empty label)
        (allowed_labelName label), joined_eq_iff (labelName_ne_empty label)
        (allowed_labelName label) hsys, sanitizeComponent_eq_self_iff (labelName_ne_empty label)
        (allowed_labelName label) hsys, kept_labelName_iff, String.toList_inj]

end Archive

theorem archive_named_iff_labelled :
    (labelled none ["data"] [some "trial", none, some "morning run"]).NamedAlike Char.isAlphanum
        (some "20260727_120626") ↔
      ∀ ts, (some "20260727_120626").filter (· ≠ "") = some ts →
        KeptLabel (some (some "morning run")) ∧
          KeptStamp Char.isAlphanum (strip ts).toList :=
  archive_named_iff (fun _ h => h) none ["data"] [some "trial", none, some "morning run"]
    (some "20260727_120626")

/-- No label has been set. -/
theorem archive_not_named :
    ¬ (labelled none ["data"] []).NamedAlike Char.isAlphanum (some "20260727_120626") ∧
      (labelled none ["data"] []).sessionArchiveName Char.isAlphanum (some "20260727_120626") =
        some "session_20260727_120626.zip" ∧
      ((labelled none ["data"] []).describeSession (some "20260727_120626")).sessionId =
        some "sys_session_20260727_120626" := by
  refine ⟨fun h => ?_, by decide +kernel, by decide +kernel⟩
  exact absurd h.1 (by decide +kernel)

end NexusN3.Storage
