import NexusN3.Master.Node
import Mathlib.Data.Prod.Lex
import Mathlib.Data.String.Basic

/-!
# What the planning of subjects guarantees

`_plan_subject_assignments` goes through the subjects once and keeps a running count of the sensors
of each node; a second count at the end checks the limit again.

* **`Choices`** — the subjects with the nodes they went to, in the order they were placed.
* **`Tracks`** — the running state is what the choices so far make of it.
* **`tracks_foldlM`** — every choice of the loop is the best one at that point.
* **`planSubjectAssignments_eq`** — the check at the end never raises.
* **`plan_sound`** — what a plan is, read off the plan alone.
-/

namespace NexusN3

open Lib

/-! ## The best of a list -/

section Best

variable {α κ : Type} [LinearOrder κ] (key : α → κ)

/-- Going through a list and taking every smaller key ends at a smallest one. -/
theorem foldl_best (l : List α) (a : α) :
    let best := l.foldl (fun best n => if key n < key best then n else best) a
    best ∈ a :: l ∧ ∀ n ∈ a :: l, key best ≤ key n := by
  induction l generalizing a with
  | nil => simp
  | cons b l ih =>
    dsimp only
    rw [List.foldl_cons]
    obtain ⟨hmem, hle⟩ := ih (if key b < key a then b else a)
    have hfirst : key (if key b < key a then b else a) ≤ key a ∧
        key (if key b < key a then b else a) ≤ key b := by
      split
      · rename_i hlt
        exact ⟨hlt.le, le_rfl⟩
      · rename_i hlt
        exact ⟨le_rfl, not_lt.mp hlt⟩
    have hbest := hle _ List.mem_cons_self
    constructor
    · rcases List.mem_cons.mp hmem with heq | hmem
      · rw [heq]
        split <;> simp
      · exact List.mem_cons_of_mem _ (List.mem_cons_of_mem _ hmem)
    · intro n hn
      rcases List.mem_cons.mp hn with rfl | hn
      · exact hbest.trans hfirst.1
      · rcases List.mem_cons.mp hn with rfl | hn
        · exact hbest.trans hfirst.2
        · exact hle n (List.mem_cons_of_mem _ hn)

end Best

/-- `a` comes before `b` in the selection: fewer sensors, else the master, else the smaller id. -/
def Precedes (load : NodeId → Int) (a b : NodeId) : Prop :=
  load a < load b ∨ load a = load b ∧ (a = masterId ∨ b ≠ masterId ∧ a < b)

namespace PlanState

variable (st : PlanState)

/-- The tuple that the source sorts by. -/
def key (node : NodeId) : Int ×ₗ Bool ×ₗ NodeId :=
  toLex (st.count node, toLex (decide (node ≠ masterId), node))

theorem key_lt_iff {a b : NodeId} :
    st.key a < st.key b ↔ st.count a < st.count b ∨ st.count a = st.count b ∧
      (a = masterId ∧ b ≠ masterId ∨ (a = masterId ↔ b = masterId) ∧ a < b) := by
  simp only [key, Prod.Lex.toLex_lt_toLex]
  by_cases ha : a = masterId <;> by_cases hb : b = masterId <;> simp [ha, hb]

theorem before_eq (a b : NodeId) : st.before a b = decide (st.key a < st.key b) := by
  rw [Bool.eq_iff_iff, decide_eq_true_iff, key_lt_iff]
  simp [before]

/-- The selected node is one of the list, and comes before every other one. -/
theorem select_eq_some {nodes : List NodeId} {node : NodeId} (h : st.select nodes = some node) :
    node ∈ nodes ∧ ∀ other ∈ nodes, other ≠ node → Precedes st.count node other := by
  cases nodes with
  | nil => cases h
  | cons first rest =>
    simp only [select, before_eq, decide_eq_true_eq, Option.some.injEq] at h
    have hbest := foldl_best st.key rest first
    dsimp only at hbest
    rw [h] at hbest
    refine ⟨hbest.1, fun other hother hne => ?_⟩
    have hlt : st.key node < st.key other := by
      refine lt_of_le_of_ne (hbest.2 other hother) fun heq => hne ?_
      exact (congrArg (fun k => (ofLex (ofLex k).2).2) heq).symm
    rcases (st.key_lt_iff).mp hlt with hless | ⟨hsame, ⟨hmaster, -⟩ | ⟨hboth, hid⟩⟩
    · exact Or.inl hless
    · exact Or.inr ⟨hsame, Or.inl hmaster⟩
    · by_cases hmaster : node = masterId
      · exact Or.inr ⟨hsame, Or.inl hmaster⟩
      · exact Or.inr ⟨hsame, Or.inr ⟨fun hother => hmaster (hboth.mpr hother), hid⟩⟩

end PlanState

/-! ## Capabilities -/

/-- The node may host subjects. -/
def NodeEntry.Executes (entry : NodeEntry) : Prop := entry.role = .master ∨ entry.role = .worker

/-- Every sensor and every algorithm of the subject that has a name is one of the node's. -/
def Covers (lower : String → String) (c : Capabilities) (s : SubjectConf) : Prop :=
  (∀ conf ∈ s.sensors, ∀ name, conf.localName = some name → strip name ≠ "" →
    normalizeName lower name ∈ c.supportedSensors.map (normalizeName lower)) ∧
  ∀ conf ∈ s.sensors, ∀ name, conf.algorithmName = some name → strip name ≠ "" →
    normalizeName lower name ∈ c.supportedAlgorithms.map (normalizeName lower)

/-- The names of one kind are all supported. -/
theorem all_supportsName_iff (lower : String → String) (name : SensorConf → Option String)
    (confs : List SensorConf) (names : List String) :
    (((confs.map fun conf => strip ((name conf).getD "")).filter (· ≠ "")).all fun n =>
        supportsName lower names n) = true ↔
      ∀ conf ∈ confs, ∀ n, name conf = some n → strip n ≠ "" →
        normalizeName lower n ∈ names.map (normalizeName lower) := by
  have hstripped (n : String) : normalizeName lower (strip n) = normalizeName lower n := by
    rw [normalizeName, strip_strip, normalizeName]
  rw [List.all_eq_true]
  constructor
  · intro hall conf hconf n hn hne
    have hone := hall (strip n) (by
      refine List.mem_filter.mpr ⟨List.mem_map.mpr ⟨conf, hconf, ?_⟩, decide_eq_true hne⟩
      rw [hn]
      rfl)
    simp only [supportsName, Bool.and_eq_true, decide_eq_true_eq, hstripped] at hone
    exact hone.2
  · intro hall n hn
    obtain ⟨hmem, hne⟩ := List.mem_filter.mp hn
    obtain ⟨conf, hconf, rfl⟩ := List.mem_map.mp hmem
    have hne := of_decide_eq_true hne
    cases hname : name conf with
    | none =>
      rw [hname] at hne
      exact absurd (by decide) hne
    | some text =>
      rw [hname, Option.getD_some] at hne
      simp only [supportsName, Bool.and_eq_true, decide_eq_true_eq, hstripped, Option.getD_some]
      exact ⟨hne, hall conf hconf text hname hne⟩

theorem nodeSupportsSubject_iff (lower : String → String) (entry : NodeEntry) (s : SubjectConf) :
    nodeSupportsSubject lower entry s = true ↔ Covers lower entry.capabilities s := by
  rw [nodeSupportsSubject, Bool.and_eq_true]
  exact and_congr (all_supportsName_iff lower SensorConf.localName s.sensors _)
    (all_supportsName_iff lower SensorConf.algorithmName s.sensors _)

/-! ## The loop -/

/-- The subjects with the nodes they went to, in the order they were placed. -/
abbrev Choices := List (SubjectConf × NodeId)

namespace Choices

def hosted (choices : Choices) (node : NodeId) : List SubjectConf :=
  (choices.filter fun c => decide (c.2 = node)).map Prod.fst

def load (choices : Choices) (node : NodeId) : Int :=
  ((choices.hosted node).map SubjectConf.sensorCount).sum

theorem hosted_append (choices more : Choices) (node : NodeId) :
    hosted (choices ++ more) node = hosted choices node ++ hosted more node := by
  simp only [hosted, List.filter_append, List.map_append]

theorem mem_hosted {choices : Choices} {node : NodeId} {s : SubjectConf} :
    s ∈ choices.hosted node ↔ (s, node) ∈ choices := by
  simp only [hosted, List.mem_map, List.mem_filter, decide_eq_true_eq, Prod.exists,
    exists_and_right, exists_eq_right]

theorem hosted_singleton (s : SubjectConf) (host node : NodeId) :
    hosted [(s, host)] node = if host = node then [s] else [] := by
  by_cases hnode : host = node <;> simp [hosted, hnode]

theorem load_snoc (choices : Choices) (s : SubjectConf) (host node : NodeId) :
    load (choices ++ [(s, host)]) node =
      load choices node + if host = node then s.sensorCount else 0 := by
  unfold load
  rw [hosted_append, hosted_singleton, List.map_append, List.sum_append]
  split <;> simp

end Choices

section Loop

variable (lower : String → String) (executionNodes : List (NodeId × NodeEntry))

/-- A node that may take the subject when the nodes have these loads. -/
def MayHost (load : NodeId → Int) (s : SubjectConf) (node : NodeId) : Prop :=
  ∃ entry, (node, entry) ∈ executionNodes ∧ Covers lower entry.capabilities s ∧
    load node + s.sensorCount ≤ maxTotalSensorsPerNode

/-- The node may take the subject, and comes before every other one that may. -/
def Best (load : NodeId → Int) (c : SubjectConf × NodeId) : Prop :=
  MayHost lower executionNodes load c.1 c.2 ∧
    ∀ other, MayHost lower executionNodes load c.1 other → other ≠ c.2 → Precedes load c.2 other

/-- The running state is what the choices so far make of it. -/
structure Tracks (choices : Choices) (st : PlanState) : Prop where
  hosted : ∀ node, (st.nodeSubjects.get? node).getD [] = choices.hosted node
  counts : ∀ node, st.count node = choices.load node
  limited : ∀ node, choices.load node ≤ maxTotalSensorsPerNode

variable {lower executionNodes}

theorem tracks_planSubject {choices : Choices} {st st' : PlanState} {s : SubjectConf}
    (h : Tracks choices st) (hstep : planSubject lower executionNodes st s = .ok st') :
    ∃ node, Tracks (choices ++ [(s, node)]) st' ∧
      Best lower executionNodes choices.load (s, node) := by
  have hload : st.count = choices.load := funext h.counts
  have heligible (node : NodeId) : node ∈ (executionNodes.filter fun n =>
      nodeSupportsSubject lower n.2 s &&
        decide (st.count n.1 + s.sensorCount ≤ maxTotalSensorsPerNode)).map Prod.fst ↔
        MayHost lower executionNodes choices.load s node := by
    rw [hload]
    simp only [MayHost, List.mem_map, List.mem_filter, Bool.and_eq_true, nodeSupportsSubject_iff,
      decide_eq_true_eq, Prod.exists, exists_and_right, exists_eq_right]
  unfold planSubject at hstep
  dsimp only at hstep
  split at hstep
  · cases hstep
  · rename_i node hselect
    cases hstep
    obtain ⟨hmem, hbest⟩ := st.select_eq_some hselect
    have hmay := (heligible node).mp hmem
    refine ⟨node, ⟨fun n => ?_, fun n => ?_, fun n => ?_⟩, hmay, fun other hother hne => ?_⟩
    · rw [Choices.hosted_append, Choices.hosted_singleton, Dict.get?_set, ← h.hosted]
      split
      · rename_i hn
        rw [hn]
        rfl
      · rw [List.append_nil]
    · rw [Choices.load_snoc, ← h.counts]
      simp only [PlanState.count, Dict.get?_set]
      split
      · rename_i hn
        rw [hn]
        rfl
      · rw [add_zero]
    · rw [Choices.load_snoc]
      split
      · rename_i hn
        obtain ⟨entry, -, -, hfits⟩ := hmay
        exact hn ▸ hfits
      · rw [add_zero]
        exact h.limited n
    · rw [← hload]
      exact hbest other ((heligible other).mpr hother) hne

/-- Every choice of the loop is the best one at that point. -/
theorem tracks_foldlM {subjects : List SubjectConf} {choices : Choices} {st st' : PlanState}
    (h : Tracks choices st)
    (hrun : subjects.foldlM (planSubject lower executionNodes) st = .ok st') :
    ∃ more : Choices, more.map Prod.fst = subjects ∧ Tracks (choices ++ more) st' ∧
      ∀ before c after, more = before ++ c :: after →
        Best lower executionNodes (Choices.load (choices ++ before)) c := by
  induction subjects generalizing choices st with
  | nil =>
    cases hrun
    exact ⟨[], rfl, by rwa [List.append_nil], fun before c after hsplit => by simp at hsplit⟩
  | cons s subjects ih =>
    rw [List.foldlM_cons] at hrun
    cases hstep : planSubject lower executionNodes st s with
    | error e =>
      rw [hstep] at hrun
      cases hrun
    | ok st₁ =>
      rw [hstep] at hrun
      obtain ⟨node, htracks, hbest⟩ := tracks_planSubject h hstep
      obtain ⟨more, hmore, hend, hrest⟩ := ih htracks hrun
      refine ⟨(s, node) :: more, by rw [List.map_cons, hmore], ?_, ?_⟩
      · rwa [List.append_assoc, List.singleton_append] at hend
      · intro before c after hsplit
        cases before with
        | nil =>
          rw [List.nil_append, List.cons.injEq] at hsplit
          rw [List.append_nil, ← hsplit.1]
          exact hbest
        | cons first before =>
          rw [List.cons_append, List.cons.injEq] at hsplit
          have hlater := hrest before c after hsplit.2
          rwa [List.append_assoc, List.singleton_append, hsplit.1] at hlater

end Loop

/-! ## The check at the end -/

/-- The nodes that may host subjects. -/
def Registry.executionNodes (r : Registry) : List (NodeId × NodeEntry) :=
  r.nodes.entries.filter fun n => decide (n.2.role = .master ∨ n.2.role = .worker)

theorem Registry.mem_executionNodes {r : Registry} {node : NodeId} {entry : NodeEntry} :
    (node, entry) ∈ r.executionNodes ↔ r.nodes.get? node = some entry ∧ entry.Executes := by
  rw [executionNodes, List.mem_filter, decide_eq_true_iff, Dict.get?_eq_some_iff]
  rfl

/-- The state before the first subject. -/
def Registry.planStart (r : Registry) : PlanState where
  nodeSubjects := Dict.ofList (r.executionNodes.map fun n => (n.1, []))
  sensorCounts := Dict.ofList (r.executionNodes.map fun n => (n.1, 0))

theorem get?_ofList_const {ν : Type} (nodes : List (NodeId × NodeEntry)) (x : ν) (node : NodeId) :
    ((Dict.ofList (nodes.map fun n => (n.1, x))).get? node).getD x = x := by
  suffices hall : ∀ d : Dict NodeId ν, (∀ y, d.get? node = some y → y = x) → ∀ y,
      ((nodes.map fun n => (n.1, x)).foldl (fun d e => d.set e.1 e.2) d).get? node = some y →
        y = x by
    cases hget : (Dict.ofList (nodes.map fun n => (n.1, x))).get? node with
    | none => rfl
    | some y =>
      refine hall Dict.empty ?_ y hget
      exact fun y hy => by simp at hy
  induction nodes with
  | nil => exact fun d hd => hd
  | cons n nodes ih =>
    intro d hd
    refine ih (d.set n.1 x) fun y hy => ?_
    rw [Dict.get?_set] at hy
    split at hy
    · exact (Option.some.inj hy).symm
    · exact hd y hy

theorem tracks_planStart (r : Registry) : Tracks [] r.planStart :=
  ⟨fun node => get?_ofList_const _ _ node, fun node => get?_ofList_const _ _ node,
    fun _ => Int.zero_le_ofNat 8⟩

/-- A loop whose every turn goes on. -/
theorem forIn_of_yield {α ε : Type} {f : α → Except ε (ForInStep PUnit)} {l : List α}
    (h : ∀ a ∈ l, f a = .ok (.yield ⟨⟩)) : forIn l ⟨⟩ (fun a _ => f a) = .ok ⟨⟩ := by
  induction l with
  | nil => rfl
  | cons a l ih =>
    obtain ⟨ha, hrest⟩ := List.forall_mem_cons.mp h
    rw [List.forIn_cons, ha]
    exact ih hrest

/-- For valid ids and some node to run on, the plan is what the loop makes: the second count never
finds more than the first one allowed. -/
theorem planSubjectAssignments_eq (lower : String → String) (r : Registry)
    {subjects : List SubjectConf} (hids : validSubjectIds subjects = true)
    (hnodes : r.executionNodes ≠ []) :
    planSubjectAssignments lower r (some subjects) =
      (subjects.foldlM (planSubject lower r.executionNodes) r.planStart).map
        PlanState.nodeSubjects := by
  have hnonempty : r.executionNodes.isEmpty = false := by
    rw [Bool.eq_false_iff]
    exact fun hempty => hnodes (List.isEmpty_iff.mp hempty)
  unfold planSubjectAssignments
  simp only [hids, Bool.not_true, Bool.false_eq_true, if_false]
  change (if r.executionNodes.isEmpty = true then _ else _) = _
  rw [hnonempty]
  simp only [Bool.false_eq_true, if_false]
  change ((subjects.foldlM (planSubject lower r.executionNodes) r.planStart) >>= _) = _
  cases hrun : subjects.foldlM (planSubject lower r.executionNodes) r.planStart with
  | error e => rfl
  | ok final =>
    obtain ⟨more, -, htracks, -⟩ := tracks_foldlM (tracks_planStart r) hrun
    have hlimited : ∀ subs ∈ final.nodeSubjects.values,
        (subs.map SubjectConf.sensorCount).sum ≤ maxTotalSensorsPerNode := by
      intro subs hsubs
      obtain ⟨node, hmem⟩ := Dict.mem_values_iff.mp hsubs
      have hhosted := htracks.hosted node
      rw [Dict.get?_eq_some_iff.mpr hmem, Option.getD_some] at hhosted
      rw [hhosted]
      exact htracks.limited node
    simp only [bind, Except.bind, Except.map]
    rw [forIn_of_yield]
    · rfl
    intro subs hsubs
    have hvalid : validateSubjectsPerNode subs = .ok () :=
      if_neg (not_lt.mpr (hlimited subs hsubs))
    rw [hvalid]
    split <;> rfl

/-! ## The plan -/

namespace Plan

variable (plan : Plan)

def hosted (node : NodeId) : List SubjectConf := (plan.get? node).getD []

/-- What the node carries of the subjects in the list. -/
def loadOf (subjects : List SubjectConf) (node : NodeId) : Int :=
  (((plan.hosted node).filter (· ∈ subjects)).map SubjectConf.sensorCount).sum

end Plan

/-- What a plan for the subjects is, with nothing said of how it was made. -/
structure SoundPlan (lower : String → String) (r : Registry) (subjects : List SubjectConf)
    (plan : Plan) : Prop where
  once : ∀ s ∈ subjects, ∃! node, s ∈ plan.hosted node
  ordered : ∀ node, (plan.hosted node).Sublist subjects
  capable : ∀ node, plan.hosted node ≠ [] → ∃ entry, r.nodes.get? node = some entry ∧
    entry.Executes ∧ ∀ s ∈ plan.hosted node, Covers lower entry.capabilities s
  limited : ∀ node,
    ((plan.hosted node).map SubjectConf.sensorCount).sum ≤ maxTotalSensorsPerNode
  -- Seen from the subjects before it, every subject went to the best node.
  greedy : ∀ before s after, subjects = before ++ s :: after → ∀ node, s ∈ plan.hosted node →
    Best lower r.executionNodes (plan.loadOf before) (s, node)

section Choices

variable {lower : String → String} {r : Registry} {choices : Choices} {st : PlanState}

theorem Tracks.hosted_eq (h : Tracks choices st) : Plan.hosted st.nodeSubjects = choices.hosted :=
  funext h.hosted

/-- A subject of a list without repetitions has one place in it, and so one node. -/
theorem Choices.eq_of_mem (hnodup : (choices.map Prod.fst).Nodup) {s : SubjectConf}
    {node other : NodeId} (h : (s, node) ∈ choices) (hother : (s, other) ∈ choices) :
    other = node :=
  congrArg Prod.snd (List.inj_on_of_nodup_map hnodup hother h rfl)

/-- Of the subjects placed in the end, those of a first part are the ones placed by then. -/
theorem Choices.filter_hosted {before after : Choices}
    (hnodup : ((before ++ after).map Prod.fst).Nodup) (node : NodeId) :
    ((before ++ after).hosted node).filter (· ∈ before.map Prod.fst) = before.hosted node := by
  rw [List.map_append, List.nodup_append] at hnodup
  have hearly : (before.hosted node).filter (· ∈ before.map Prod.fst) = before.hosted node := by
    refine List.filter_eq_self.mpr fun s hs => decide_eq_true ?_
    exact List.mem_map.mpr ⟨(s, node), mem_hosted.mp hs, rfl⟩
  have hlate : (after.hosted node).filter (· ∈ before.map Prod.fst) = [] := by
    refine List.filter_eq_nil_iff.mpr fun s hs hbefore => ?_
    have hafter : s ∈ after.map Prod.fst := List.mem_map.mpr ⟨(s, node), mem_hosted.mp hs, rfl⟩
    exact hnodup.2.2 s (of_decide_eq_true hbefore) s hafter rfl
  rw [hosted_append, List.filter_append, hearly, hlate, List.append_nil]

/-- The plan that the choices of the loop make is sound. -/
theorem soundPlan_of_tracks (htracks : Tracks choices st)
    (hnodup : (choices.map Prod.fst).Nodup)
    (hbest : ∀ before c after, choices = before ++ c :: after →
      Best lower r.executionNodes (Choices.load before) c) :
    SoundPlan lower r (choices.map Prod.fst) st.nodeSubjects := by
  have hmay {s : SubjectConf} {node : NodeId} (hmem : (s, node) ∈ choices) :
      ∃ entry, (node, entry) ∈ r.executionNodes ∧ Covers lower entry.capabilities s := by
    obtain ⟨before, after, hsplit⟩ := List.append_of_mem hmem
    obtain ⟨⟨entry, hentry, hcovers, -⟩, -⟩ := hbest before _ after hsplit
    exact ⟨entry, hentry, hcovers⟩
  constructor
  case once =>
    intro s hs
    rw [htracks.hosted_eq]
    obtain ⟨⟨_, node⟩, hmem, rfl⟩ := List.mem_map.mp hs
    refine ⟨node, Choices.mem_hosted.mpr hmem, fun other hother => ?_⟩
    exact Choices.eq_of_mem hnodup hmem (Choices.mem_hosted.mp hother)
  case ordered =>
    intro node
    rw [htracks.hosted_eq]
    exact List.filter_sublist.map Prod.fst
  case capable =>
    intro node hne
    rw [htracks.hosted_eq] at hne ⊢
    obtain ⟨s, hs⟩ := List.exists_mem_of_ne_nil _ hne
    obtain ⟨entry, hentry, -⟩ := hmay (Choices.mem_hosted.mp hs)
    obtain ⟨hget, hexecutes⟩ := Registry.mem_executionNodes.mp hentry
    refine ⟨entry, hget, hexecutes, fun t ht => ?_⟩
    obtain ⟨entry', hentry', hcovers⟩ := hmay (Choices.mem_hosted.mp ht)
    obtain ⟨hget', -⟩ := Registry.mem_executionNodes.mp hentry'
    rw [hget, Option.some.injEq] at hget'
    exact hget' ▸ hcovers
  case limited =>
    intro node
    rw [htracks.hosted_eq]
    exact htracks.limited node
  case greedy =>
    intro before s after hsubjects node hs
    obtain ⟨first, rest, hsplit, hfirst, hrest⟩ := List.map_eq_append_iff.mp hsubjects
    obtain ⟨⟨t, host⟩, later, rfl, rfl, -⟩ := List.map_eq_cons_iff.mp hrest
    have hload : Plan.loadOf st.nodeSubjects before = Choices.load first := by
      funext other
      rw [Plan.loadOf, Choices.load, htracks.hosted_eq, hsplit, ← hfirst]
      rw [hsplit] at hnodup
      rw [Choices.filter_hosted hnodup]
    rw [htracks.hosted_eq] at hs
    have hhost : node = host := by
      refine Choices.eq_of_mem hnodup ?_ (Choices.mem_hosted.mp hs)
      rw [hsplit]
      exact List.mem_append_right _ List.mem_cons_self
    rw [hload, hhost]
    exact hbest first (t, host) later hsplit

end Choices

/-- The planning refuses what it was given, or is the loop over subjects that are distinct. -/
theorem planSubjectAssignments_cases (lower : String → String) (r : Registry)
    (subjects : Option (List SubjectConf)) :
    (∃ e, planSubjectAssignments lower r subjects = .error e ∧
      ∀ total ids, e ≠ .tooManySensors total ids) ∨
    ∃ l, subjects = some l ∧ l.Nodup ∧ planSubjectAssignments lower r subjects =
      (l.foldlM (planSubject lower r.executionNodes) r.planStart).map PlanState.nodeSubjects := by
  cases subjects with
  | none => exact Or.inl ⟨_, rfl, fun _ _ => PlanError.noConfusion⟩
  | some l =>
    cases hids : validSubjectIds l with
    | false =>
      refine Or.inl ⟨.badSubjectIds, ?_, fun _ _ => PlanError.noConfusion⟩
      unfold planSubjectAssignments
      simp only [hids]
      rfl
    | true =>
      by_cases hnodes : r.executionNodes = []
      · refine Or.inl ⟨.noExecutionNodes, ?_, fun _ _ => PlanError.noConfusion⟩
        unfold planSubjectAssignments
        simp only [hids, Bool.not_true, Bool.false_eq_true, if_false]
        change (if r.executionNodes.isEmpty = true then _ else _) = _
        rw [hnodes]
        rfl
      · refine Or.inr ⟨l, rfl, ?_, planSubjectAssignments_eq lower r hids hnodes⟩
        simp only [validSubjectIds, Bool.and_eq_true, decide_eq_true_eq] at hids
        exact List.Nodup.of_map _ hids.2

/-- The loop itself never complains of too many sensors. -/
theorem foldlM_planSubject_ne {lower : String → String} {executionNodes : List (NodeId × NodeEntry)}
    (subjects : List SubjectConf) (st : PlanState) (total : Int) (ids : List (Option String)) :
    subjects.foldlM (planSubject lower executionNodes) st ≠ .error (.tooManySensors total ids) := by
  induction subjects generalizing st with
  | nil => exact fun h => by cases h
  | cons s subjects ih =>
    rw [List.foldlM_cons]
    cases hstep : planSubject lower executionNodes st s with
    | ok st₁ => exact ih st₁
    | error e =>
      unfold planSubject at hstep
      dsimp only at hstep
      split at hstep
      · cases hstep
        exact fun h => by cases h
      · cases hstep

theorem planSubjectAssignments_ne (lower : String → String) (r : Registry)
    (subjects : Option (List SubjectConf)) (total : Int) (ids : List (Option String)) :
    planSubjectAssignments lower r subjects ≠ .error (.tooManySensors total ids) := by
  intro h
  rcases planSubjectAssignments_cases lower r subjects with ⟨e, he, hne⟩ | ⟨l, -, -, heq⟩
  · exact hne total ids (Except.error.inj (he.symm.trans h))
  · rw [heq] at h
    cases hrun : l.foldlM (planSubject lower r.executionNodes) r.planStart with
    | ok st =>
      rw [hrun] at h
      cases h
    | error e =>
      rw [hrun] at h
      cases h
      exact foldlM_planSubject_ne l _ total ids hrun

/-- Planning writes nothing: an INIT that is refused or accepted leaves the registry as it was. -/
theorem Master.registry_beginInitialization {lower : String → String} {w w' : Master}
    {subjects : Option (List SubjectConf)} {env : DispatchEnv}
    (h : w.beginInitialization lower subjects env = some w') : w'.registry = w.registry := by
  unfold Master.beginInitialization at h
  dsimp only at h
  split at h
  · cases h
    rfl
  · split at h
    · cases h
      rfl
    · split at h
      · cases h
      · cases h
        rfl

/-- **Subject planning is sound.** A plan that is made is a sound one; the count at the end never
raises; and the registry stays as it was, plan or no plan. -/
theorem plan_sound (lower : String → String) (r : Registry)
    (subjects : Option (List SubjectConf)) :
    (∀ plan, planSubjectAssignments lower r subjects = .ok plan →
      ∃ l, subjects = some l ∧ SoundPlan lower r l plan) ∧
    (∀ total ids, planSubjectAssignments lower r subjects ≠ .error (.tooManySensors total ids)) ∧
    ∀ w env w', w.registry = r → Master.beginInitialization lower w subjects env = some w' →
      w'.registry = r := by
  refine ⟨fun plan hplan => ?_, planSubjectAssignments_ne lower r subjects,
    fun w env w' hr h => (Master.registry_beginInitialization h).trans hr⟩
  rcases planSubjectAssignments_cases lower r subjects with ⟨e, he, -⟩ | ⟨l, rfl, hnodup, heq⟩
  · rw [he] at hplan
    cases hplan
  · rw [heq] at hplan
    cases hrun : l.foldlM (planSubject lower r.executionNodes) r.planStart with
    | error e =>
      rw [hrun] at hplan
      cases hplan
    | ok st =>
      rw [hrun] at hplan
      cases hplan
      obtain ⟨choices, hchoices, htracks, hbest⟩ := tracks_foldlM (tracks_planStart r) hrun
      refine ⟨l, rfl, ?_⟩
      rw [← hchoices] at hnodup ⊢
      exact soundPlan_of_tracks htracks hnodup hbest

/-- The master and a worker, both with the same capabilities. -/
def twoNodes : Registry where
  nodes := Dict.ofList [("worker1", { capabilities := ⟨["IMU"], []⟩ }),
    (masterId, { role := .master, capabilities := ⟨["IMU"], []⟩ })]

/-- The master wins the first tie; the worker is the lighter one after it. -/
theorem plan_sound_twoNodes :
    let subjects := [⟨some "s1", [⟨some "IMU", 2, none⟩]⟩, ⟨some "s2", [⟨some " IMU", 1, none⟩]⟩]
    ∃ plan, planSubjectAssignments id twoNodes (some subjects) = .ok plan ∧
      SoundPlan id twoNodes subjects plan := by
  intro subjects
  obtain ⟨plan, hplan⟩ : ∃ plan, planSubjectAssignments id twoNodes (some subjects) = .ok plan :=
    ⟨_, rfl⟩
  obtain ⟨l, hl, hsound⟩ := (plan_sound id twoNodes (some subjects)).1 plan hplan
  cases hl
  exact ⟨plan, hplan, hsound⟩

end NexusN3
