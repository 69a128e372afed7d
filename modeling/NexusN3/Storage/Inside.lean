import NexusN3.Storage.Paths

/-!
# Recordings stay inside their session

Every path builder of `FileManager` goes down from the base root, through the directory of the
session, by names that no text can bend.

* **`plain_sanitizeComponent`** — what the sanitizer returns is plain, so that it is left alone when
  it is sanitized again.
* **`Descends`**, **`Below`** — a name that leads down on every platform, and a path made of such.
* **`pathsInside`** — where each of the builders leads.
-/

namespace NexusN3.Storage

open Lib

/-! ## What the sanitizer returns -/

theorem isReserved_underscore (cs : List Char) : isReserved ('_' :: cs) = false := by
  have hheads : ∀ name ∈ windowsReservedNames, name.toList.head? ≠ some '_' := by decide +kernel
  refine decide_eq_false fun hmem => hheads _ hmem ?_
  rw [String.toList_ofList, List.takeWhile_cons_of_pos (by decide)]
  rfl

theorem head?_stripDots (cs : List Char) : (stripDots cs).head? ≠ some '.' := by
  have htrim := dropWhile_rdropWhile_dropWhile (fun c : Char => c = ' ' || c = '.') cs
  change (stripDots cs).dropWhile _ = stripDots cs at htrim
  intro hhead
  cases hstrip : stripDots cs with
  | nil =>
    rw [hstrip] at hhead
    cases hhead
  | cons c rest =>
    rw [hstrip, List.head?_cons, Option.some.injEq] at hhead
    rw [hstrip, List.dropWhile_eq_self_iff] at htrim
    exact htrim (Nat.succ_pos _) (by simp [hhead])

theorem getLast?_stripDots (cs : List Char) : (stripDots cs).getLast? ≠ some '.' := by
  intro hlast
  have hne : stripDots cs ≠ [] := by
    intro heq
    rw [heq] at hlast
    cases hlast
  have hkept := List.rdropWhile_last_not (fun c : Char => c = ' ' || c = '.') _ hne
  rw [List.getLast?_eq_some_getLast hne, Option.some.injEq] at hlast
  change ¬ (decide ((stripDots cs).getLast hne = ' ') ||
    decide ((stripDots cs).getLast hne = '.')) = true at hkept
  exact hkept (by simp [hlast])

/-- What the sanitizer returns is left alone by the sanitizer. -/
theorem plain_sanitizeComponent (value : Option String) {fallback : String} (h : Plain fallback) :
    Plain (sanitizeComponent value fallback) := by
  have hallowed (c : Char)
      (hc : c ∈ stripDots (replaceRuns false (strip (value.getD "")).toList)) :
      allowed c = true := allowed_of_mem_replaceRuns (mem_of_mem_stripDots hc)
  have hhead := head?_stripDots (replaceRuns false (strip (value.getD "")).toList)
  have hlast := getLast?_stripDots (replaceRuns false (strip (value.getD "")).toList)
  unfold sanitizeComponent
  dsimp only
  generalize stripDots (replaceRuns false (strip (value.getD "")).toList) = cleaned at *
  split
  · exact h
  · rename_i hne
    have hcleaned : cleaned ≠ [] := fun heq => hne (Or.inl heq)
    split
    · constructor
      · simp [← String.toList_inj]
      · rw [String.toList_ofList]
        exact List.forall_mem_cons.mpr ⟨rfl, hallowed⟩
      · simp
      · rw [String.toList_ofList, List.getLast?_cons_of_ne_nil hcleaned]
        exact hlast
      · rw [String.toList_ofList]
        exact isReserved_underscore cleaned
    · rename_i hfree
      constructor
      · simpa [← String.toList_inj] using hcleaned
      · rwa [String.toList_ofList]
      · rwa [String.toList_ofList]
      · rwa [String.toList_ofList]
      · rw [String.toList_ofList]
        exact Bool.eq_false_iff.mpr hfree

/-- The fallbacks that `FileManager` gives to its sanitizer. -/
def fallbacks : List String :=
  ["na", "local", "standalone", "sys_session", "unknown", "unknown_subject", "sys"]

theorem plain_of_mem_fallbacks {fallback : String} (h : fallback ∈ fallbacks) : Plain fallback := by
  have hall : ∀ text ∈ fallbacks, text ≠ "" ∧ text.toList.all allowed = true ∧
      text.toList.head? ≠ some '.' ∧ text.toList.getLast? ≠ some '.' ∧
      isReserved text.toList = false := by
    decide +kernel
  obtain ⟨hne, hallowed, hhead, hlast, hfree⟩ := hall fallback h
  exact ⟨hne, allowed_of_all hallowed, hhead, hlast, hfree⟩

/-! ## Diagnostics -/

/-- `self.node_id`, as `__init__` sets it. -/
def newNodeId (nodeId : Option String) : String := sanitizeComponent nodeId "standalone"

/-- `_diagnostics_dir`. -/
def FileManager.diagnosticsDir (fm : FileManager) (nodeId sessionIndex : String) :
    Option (List String) :=
  (fm.sessionDir sessionIndex).map fun dir => Path.join dir (nodeId ++ "-diagnostics")

/-! ## Down from a place -/

/-- A name that leads down from a directory, whichever of the separators counts. -/
def Descends (name : String) : Prop :=
  name ≠ "" ∧ name ≠ "." ∧ name ≠ ".." ∧ '/' ∉ name.toList ∧ '\\' ∉ name.toList

instance (name : String) : Decidable (Descends name) := by
  unfold Descends
  infer_instance

theorem Component.descends {name : String} (h : Component name) : Descends name := by
  obtain ⟨hne, hdot, hup, hslash⟩ := h.isName
  exact ⟨hne, hdot, hup, hslash, fun hback => absurd (h.allowed _ hback) (by decide)⟩

/-- The path leads down from the base, and not nowhere. -/
def Below (base path : List String) : Prop :=
  ∃ parts, path = base ++ parts ∧ parts ≠ [] ∧ ∀ part ∈ parts, Descends part

theorem Below.append {base path : List String} (h : Below base path) {parts : List String}
    (hparts : ∀ part ∈ parts, Descends part) : Below base (path ++ parts) := by
  obtain ⟨front, rfl, hne, hfront⟩ := h
  refine ⟨front ++ parts, List.append_assoc _ _ _, fun heq => hne ?_, ?_⟩
  · exact (List.append_eq_nil_iff.mp heq).1
  · exact List.forall_mem_append.mpr ⟨hfront, hparts⟩

/-- The path is below the root, and below the directory of the session. -/
def FileManager.InSession (fm : FileManager) (sessionIndex : String) (path : List String) : Prop :=
  Below fm.baseRoot path ∧ ∃ dir, fm.sessionDir sessionIndex = some dir ∧ dir <+: path ∧ dir ≠ path

namespace FileManager

variable {fm : FileManager} {ts : String}

theorem below_resolveBaseDir : Below fm.baseRoot fm.resolveBaseDir := by
  have hsite : Component (sanitizeComponent (some fm.site) "local") :=
    component_sanitizeComponent _ (component_of_check (by decide))
  refine ⟨[sanitizeComponent (some fm.site) "local", "sessions"], ?_, List.cons_ne_nil _ _, ?_⟩
  · rw [resolveBaseDir, Path.join_of_isName _ hsite.isName, Path.join_of_isName _ (by decide),
      List.append_assoc, List.singleton_append]
  · exact List.forall_mem_cons.mpr ⟨hsite.descends, List.forall_mem_singleton.mpr (by decide)⟩

theorem below_sessionDir {dir : List String} (h : fm.sessionDir ts = some dir) :
    Below fm.baseRoot dir := by
  have hts : ts ≠ "" := by
    rintro rfl
    cases h
  rw [fm.sessionDir_eq hts, Option.some.injEq] at h
  rw [← h]
  refine below_resolveBaseDir.append (List.forall_mem_singleton.mpr ?_)
  exact (fm.component_buildSessionId ts).descends

/-- What is put behind the directory of the session stays in it. -/
theorem inSession_append (hts : ts ≠ "") {parts : List String} (hne : parts ≠ [])
    (hparts : ∀ part ∈ parts, Descends part) :
    fm.InSession ts (fm.resolveBaseDir ++ [fm.buildSessionId ts] ++ parts) := by
  have hdir := fm.sessionDir_eq hts
  refine ⟨(below_sessionDir hdir).append hparts, _, hdir, List.prefix_append _ _, fun heq => ?_⟩
  exact hne (List.append_right_eq_self.mp heq.symm)

theorem inSession_diagnosticsDir (hts : ts ≠ "") (nodeId : Option String) :
    ∃ dir, fm.diagnosticsDir (newNodeId nodeId) ts = some dir ∧ fm.InSession ts dir := by
  have hnode : Component (newNodeId nodeId) :=
    component_sanitizeComponent _ (component_of_check (by decide))
  have hname : Component (newNodeId nodeId ++ "-diagnostics") :=
    hnode.append (allowed_of_all (by decide))
  refine ⟨_, ?_, inSession_append hts (List.cons_ne_nil _ [])
    (List.forall_mem_singleton.mpr hname.descends)⟩
  rw [diagnosticsDir, fm.sessionDir_eq hts, Option.map_some, Path.join_of_isName _ hname.isName]

/-- Below the directory of an activity. -/
theorem inSession_activityDir (hts : ts ≠ "") (s activity : String) {parts : List String}
    (hparts : ∀ part ∈ parts, Descends part) :
    fm.InSession ts (fm.activityDir ts s activity ++ parts) := by
  have hsubject : Component (sanitizeComponent (some s) "unknown_subject") :=
    component_sanitizeComponent _ (component_of_check (by decide))
  have hactivity : Component (sanitizeComponent (some activity) "sys") :=
    component_sanitizeComponent _ (component_of_check (by decide))
  have hdown : ∀ part ∈ ["subjects", sanitizeComponent (some s) "unknown_subject", "activities",
      sanitizeComponent (some activity) "sys"] ++ parts, Descends part := by
    refine List.forall_mem_append.mpr ⟨?_, hparts⟩
    simp only [List.forall_mem_cons]
    exact ⟨by decide, hsubject.descends, by decide, hactivity.descends, List.forall_mem_nil _⟩
  have hpath : fm.activityDir ts s activity ++ parts =
      fm.resolveBaseDir ++ [fm.buildSessionId ts] ++ (["subjects",
        sanitizeComponent (some s) "unknown_subject", "activities",
        sanitizeComponent (some activity) "sys"] ++ parts) := by
    simp only [activityDir, List.append_assoc, List.cons_append, List.nil_append]
  rw [hpath]
  exact inSession_append hts (List.cons_ne_nil _ _) hdown

end FileManager

/-! ## Every builder -/

/-- Where the path builders lead. -/
structure PathsInside (fm : FileManager) (nodeId : Option String) : Prop where
  session : ∀ ts, ts ≠ "" → ∃ dir, fm.sessionDir ts = some dir ∧ Below fm.baseRoot dir
  diagnostics : ∀ ts, ts ≠ "" →
    ∃ dir, fm.diagnosticsDir (newNodeId nodeId) ts = some dir ∧ fm.InSession ts dir
  raw : ∀ ts s activity location address, ts ≠ "" →
    ∃ path, fm.buildRawPath ts s activity location address = some path ∧ fm.InSession ts path
  realTime : ∀ ts s activity algorithm location address, ts ≠ "" →
    ∃ path, fm.buildRealTimePath ts s activity algorithm location address = some path ∧
      fm.InSession ts path
  intermediate : ∀ ts s activity algorithm, ts ≠ "" →
    ∃ path, fm.buildIntermediatePath ts s activity algorithm = some path ∧ fm.InSession ts path
  consolidated : ∀ ts s activity algorithm, ts ≠ "" →
    ∃ path, fm.buildConsolidatedPath ts s activity algorithm = some path ∧ fm.InSession ts path
  -- Without a timestamp there is no session, and nothing is built.
  unnamed : fm.sessionDir "" = none ∧ (∀ node, fm.diagnosticsDir node "" = none) ∧
    ∀ s activity, fm.buildSubjectActivityDir "" s activity = none
  idempotent : ∀ value, ∀ fallback ∈ fallbacks,
    sanitizeComponent (some (sanitizeComponent value fallback)) fallback =
      sanitizeComponent value fallback

/-- **Recordings stay inside their session.** -/
theorem pathsInside (fm : FileManager) (nodeId : Option String) : PathsInside fm nodeId := by
  have hfile (location address : Option String) {suffix : String}
      (hsuffix : ∀ c ∈ suffix.toList, allowed c = true) :
      Descends (sensorFile location address suffix) :=
    (component_sensorFile location address hsuffix).descends
  have halgorithm (algorithm : Option String) :
      Component (sanitizeComponent algorithm "unknown") :=
    component_sanitizeComponent _ (component_of_check (by decide))
  have hshared (algorithm : Option String) :
      Descends (sanitizeComponent algorithm "unknown" ++ ".ndjson") :=
    ((halgorithm algorithm).append (allowed_of_all (by decide))).descends
  constructor
  case session =>
    intro ts hts
    exact ⟨_, fm.sessionDir_eq hts, FileManager.below_sessionDir (fm.sessionDir_eq hts)⟩
  case diagnostics => exact fun ts hts => FileManager.inSession_diagnosticsDir hts nodeId
  case raw =>
    intro ts s activity location address hts
    refine ⟨_, FileManager.buildRawPath_eq hts s activity location address,
      FileManager.inSession_activityDir hts s activity ?_⟩
    simp only [List.forall_mem_cons]
    exact ⟨by decide, hfile location address (allowed_of_all (by decide)), List.forall_mem_nil _⟩
  case realTime =>
    intro ts s activity algorithm location address hts
    refine ⟨_, FileManager.buildRealTimePath_eq hts s activity algorithm location address,
      FileManager.inSession_activityDir hts s activity ?_⟩
    simp only [List.forall_mem_cons]
    exact ⟨by decide, by decide, (halgorithm algorithm).descends,
      hfile location address (allowed_of_all (by decide)), List.forall_mem_nil _⟩
  case intermediate =>
    intro ts s activity algorithm hts
    refine ⟨_, FileManager.buildIntermediatePath_eq hts s activity algorithm,
      FileManager.inSession_activityDir hts s activity ?_⟩
    simp only [List.forall_mem_cons]
    exact ⟨by decide, by decide, hshared algorithm, List.forall_mem_nil _⟩
  case consolidated =>
    intro ts s activity algorithm hts
    refine ⟨_, FileManager.buildConsolidatedPath_eq hts s activity algorithm,
      FileManager.inSession_activityDir hts s activity ?_⟩
    simp only [List.forall_mem_cons]
    exact ⟨by decide, by decide, hshared algorithm, List.forall_mem_nil _⟩
  case unnamed => exact ⟨rfl, fun _ => rfl, fun _ _ => rfl⟩
  case idempotent =>
    intro value fallback hmem
    exact (plain_sanitizeComponent value (plain_of_mem_fallbacks hmem)).sanitizeComponent fallback

end NexusN3.Storage
