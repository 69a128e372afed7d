import Mathlib.Data.List.Basic
import Mathlib.Data.List.Induction
import Mathlib.Data.List.Nodup
import Mathlib.Data.List.Perm.Basic
import Mathlib.Logic.Function.Basic
import Mathlib.Order.Defs.Unbundled
import NexusN3.Lib.Dict

/-!
# Jobs on independent objects

A list of jobs, each about one object, is worked through one job after another. A job reads and
writes its own object and gives a report. What happens to one object is then decided by the jobs
about it alone, whatever stands between them.

* **`about`** — the part of a list that is about one object.
* **`each`**, **`all`** — the jobs of a list on a heap of objects, and on one object.
* **`each_heap`**, **`about_each`** — a run on the heap, seen from one object.
* **`groupBy`** — jobs grouped by a key. Grouping keeps what is about one object in its order.
-/

namespace NexusN3.Lib.Jobs

variable {ι κ τ σ ρ α : Type}

section About

variable [DecidableEq ι]

/-- What a list says about the object `i`, in order. -/
def about (i : ι) (l : List (ι × α)) : List α :=
  l.filterMap fun e => if e.1 = i then some e.2 else none

@[simp] theorem about_nil (i : ι) : about i ([] : List (ι × α)) = [] := rfl

@[simp] theorem about_cons (i : ι) (e : ι × α) (l : List (ι × α)) :
    about i (e :: l) = if e.1 = i then e.2 :: about i l else about i l := by
  by_cases h : e.1 = i <;> simp [about, h]

@[simp] theorem about_append (i : ι) (l l' : List (ι × α)) :
    about i (l ++ l') = about i l ++ about i l' := by
  simp [about]

theorem mem_about {i : ι} {a : α} {l : List (ι × α)} : a ∈ about i l ↔ (i, a) ∈ l := by
  induction l with
  | nil => simp
  | cons e l ih =>
    obtain ⟨j, b⟩ := e
    by_cases h : j = i
    · subst h; simp [ih]
    · simp [h, ih, Ne.symm h]

/-- How often an object is named is how much there is about it. -/
theorem count_map_fst (i : ι) (l : List (ι × α)) :
    (l.map Prod.fst).count i = (about i l).length := by
  induction l with
  | nil => rfl
  | cons e l ih =>
    by_cases h : e.1 = i <;> simp [h, ih]

/-- Two lists with as much about every object name the same objects, equally often. -/
theorem perm_of_about {β : Type} {l : List (ι × α)} {l' : List (ι × β)}
    (h : ∀ i, (about i l).length = (about i l').length) :
    (l.map Prod.fst).Perm (l'.map Prod.fst) := by
  rw [List.perm_iff_count]
  intro i
  rw [count_map_fst, count_map_fst, h i]

/-! ## Working through the jobs -/

variable (work : τ → σ → ρ × σ)

/-- The jobs on one object. -/
def all : List τ → σ → List ρ × σ
  | [], s => ([], s)
  | t :: ts, s =>
    let (r, s') := work t s
    let (rs, s'') := all ts s'
    (r :: rs, s'')

/-- The jobs on a heap. -/
def each : List (ι × τ) → (ι → σ) → List (ι × ρ) × (ι → σ)
  | [], heap => ([], heap)
  | (i, t) :: jobs, heap =>
    let (r, s) := work t (heap i)
    let (rs, heap') := each jobs (Function.update heap i s)
    ((i, r) :: rs, heap')

variable {work}

@[simp] theorem all_nil (s : σ) : all work [] s = ([], s) := rfl

@[simp] theorem all_cons (t : τ) (ts : List τ) (s : σ) :
    all work (t :: ts) s =
      ((work t s).1 :: (all work ts (work t s).2).1, (all work ts (work t s).2).2) := rfl

theorem length_all (ts : List τ) (s : σ) : (all work ts s).1.length = ts.length := by
  induction ts generalizing s with
  | nil => rfl
  | cons t ts ih => simp [ih]

/-- What every job keeps, all of them keep. -/
theorem all_keeps {R : σ → σ → Prop} [IsPreorder σ R] (hwork : ∀ t s, R s (work t s).2)
    (ts : List τ) (s : σ) : R s (all work ts s).2 := by
  induction ts generalizing s with
  | nil => exact refl_of R s
  | cons t ts ih => exact trans_of R (hwork t s) (ih _)

/-- **One object of a run.** The run leaves it as the jobs about it do. -/
theorem each_heap (jobs : List (ι × τ)) (heap : ι → σ) (i : ι) :
    (each work jobs heap).2 i = (all work (about i jobs) (heap i)).2 := by
  induction jobs generalizing heap with
  | nil => rfl
  | cons job jobs ih =>
    obtain ⟨j, t⟩ := job
    by_cases h : j = i
    · subst h
      simp [each, ih]
    · simp [each, ih, h, Function.update_of_ne (Ne.symm h)]

/-- What every job keeps, the run keeps of every object. -/
theorem each_keeps {R : σ → σ → Prop} [IsPreorder σ R] (hwork : ∀ t s, R s (work t s).2)
    (jobs : List (ι × τ)) (heap : ι → σ) (i : ι) : R (heap i) ((each work jobs heap).2 i) := by
  rw [each_heap]
  exact all_keeps hwork _ _

/-- … and reports on it as they do. -/
theorem about_each (jobs : List (ι × τ)) (heap : ι → σ) (i : ι) :
    about i (each work jobs heap).1 = (all work (about i jobs) (heap i)).1 := by
  induction jobs generalizing heap with
  | nil => rfl
  | cons job jobs ih =>
    obtain ⟨j, t⟩ := job
    by_cases h : j = i
    · subst h
      simp [each, ih]
    · simp [each, ih, h, Function.update_of_ne (Ne.symm h)]

end About

/-! ## One object -/

section One

variable (work : τ → σ → ρ × σ)

/-- What a report says stays true when every later job keeps it. -/
theorem all_reports {G : ρ → σ → Prop} (hwork : ∀ t s, G (work t s).1 (work t s).2)
    (hstable : ∀ r t s, G r s → G r (work t s).2) (ts : List τ) (s : σ) :
    ∀ r ∈ (all work ts s).1, G r (all work ts s).2 := by
  have hkept : ∀ r (ts : List τ) s, G r s → G r (all work ts s).2 := by
    intro r ts
    induction ts with
    | nil => exact fun s h => h
    | cons t ts ih => exact fun s h => ih _ (hstable r t s h)
  induction ts generalizing s with
  | nil => exact List.forall_mem_nil _
  | cons t ts ih =>
    intro r hr
    rcases List.mem_cons.mp hr with rfl | hr
    · exact hkept _ ts _ (hwork t s)
    · exact ih _ r hr

/-- What holds of a report when it is made holds of the last report in the end. -/
theorem all_last {G : ρ → σ → Prop} (hwork : ∀ t s, G (work t s).1 (work t s).2)
    (ts : List τ) (s : σ) {r : ρ} (hlast : (all work ts s).1.getLast? = some r) :
    G r (all work ts s).2 := by
  induction ts generalizing s with
  | nil => cases hlast
  | cons t ts ih =>
    cases ts with
    | nil =>
      rw [← Option.some.inj hlast]
      exact hwork t s
    | cons t' ts' =>
      refine ih _ ?_
      rwa [all_cons, List.getLast?_cons_of_ne_nil (by simp)] at hlast

end One

/-! ## Grouping -/

section Grouping

variable [DecidableEq κ]

/-- `grouped[key].append(a)`, on a dictionary that starts a missing group empty. -/
def addTo (groups : Dict κ (List α)) (k : κ) (a : α) : Dict κ (List α) :=
  groups.set k ((groups.get? k).getD [] ++ [a])

/-- The elements of a list by their keys. -/
def groupBy (key : α → κ) (as : List α) : Dict κ (List α) :=
  as.foldl (fun groups a => addTo groups (key a) a) Dict.empty

/-- Each group holds the elements with its key, in their order. -/
theorem get?_groupBy (key : α → κ) (as : List α) (k : κ) :
    ((groupBy key as).get? k).getD [] = as.filter fun a => decide (key a = k) := by
  induction as using List.reverseRecOn with
  | nil => rfl
  | append_singleton as a ih =>
    have hstep : groupBy key (as ++ [a]) = addTo (groupBy key as) (key a) a := by
      simp [groupBy]
    rw [hstep, addTo, Dict.get?_set]
    by_cases h : key a = k
    · subst h
      simp [ih]
    · simp [h, ih]

theorem mem_groupBy {key : α → κ} {as : List α} {e : κ × List α}
    (he : e ∈ (groupBy key as).entries) : e.2 = as.filter fun a => decide (key a = e.1) := by
  rw [← get?_groupBy, Dict.get?_eq_some_iff.mpr he]
  rfl

theorem exists_groupBy {key : α → κ} {as : List α} {a : α} (ha : a ∈ as) :
    ∃ group, (key a, group) ∈ (groupBy key as).entries := by
  cases hget : (groupBy key as).get? (key a) with
  | some group => exact ⟨group, Dict.get?_eq_some_iff.mp hget⟩
  | none =>
    have hnone := get?_groupBy key as (key a)
    rw [hget, Option.getD_none] at hnone
    have hin : a ∈ as.filter fun b => decide (key b = key a) := List.mem_filter.mpr ⟨ha, by simp⟩
    rw [← hnone] at hin
    cases hin

/-- Distinct elements are in the groups once, also when some of the groups are left out. -/
theorem nodup_groups {key : α → κ} {as : List α} {β : Type} {f : κ → List α → List β} {g : α → β}
    (hf : ∀ k group, f k group = group.map g ∨ f k group = []) (has : (as.map g).Nodup) :
    ((groupBy key as).entries.flatMap fun e => f e.1 e.2).Nodup := by
  have hsub {e : κ × List α} (he : e ∈ (groupBy key as).entries) :
      (f e.1 e.2).Sublist ((as.filter fun a => decide (key a = e.1)).map g) := by
    rw [← mem_groupBy he]
    rcases hf e.1 e.2 with heq | heq
    · rw [heq]
    · rw [heq]
      exact List.nil_sublist _
  rw [List.nodup_flatMap]
  constructor
  · intro e he
    exact has.sublist ((hsub he).trans (List.filter_sublist.map g))
  · have hkeys := (groupBy key as).nodup
    rw [List.Nodup, List.pairwise_map] at hkeys
    refine hkeys.imp_of_mem fun {e e'} he he' hne => ?_
    intro b hb hb'
    obtain ⟨x, hx, hgx⟩ := List.mem_map.mp ((hsub he).subset hb)
    obtain ⟨y, hy, hgy⟩ := List.mem_map.mp ((hsub he').subset hb')
    obtain ⟨hxin, hxkey⟩ := List.mem_filter.mp hx
    obtain ⟨hyin, hykey⟩ := List.mem_filter.mp hy
    have hsame : x = y := List.inj_on_of_nodup_map has hxin hyin (hgx.trans hgy.symm)
    have hkx := of_decide_eq_true hxkey
    have hky := of_decide_eq_true hykey
    exact hne (hkx.symm.trans (hsame ▸ hky))

/-- All groups, one after another. -/
def flat (groups : Dict κ (List α)) : List α := groups.entries.flatMap Prod.snd

theorem flat_filter_entries {es : List (κ × List α)} {p : α → Bool} {k : κ}
    (hnodup : (es.map Prod.fst).Nodup)
    (hother : ∀ e ∈ es, e.1 ≠ k → ∀ a ∈ e.2, p a = false) :
    (es.flatMap Prod.snd).filter p =
      (((es.find? fun e => decide (e.1 = k)).map Prod.snd).getD []).filter p := by
  induction es with
  | nil => rfl
  | cons e es ih =>
    obtain ⟨hfresh, hnodup⟩ := List.nodup_cons.mp hnodup
    have hrest := ih hnodup fun e' he' => hother e' (.tail _ he')
    rw [List.flatMap_cons, List.filter_append, hrest]
    by_cases hk : e.1 = k
    · have hnone : (es.find? fun e => decide (e.1 = k)) = none := by
        rw [List.find?_eq_none]
        intro e' he' heq
        exact hfresh (hk ▸ of_decide_eq_true heq ▸ List.mem_map_of_mem he')
      rw [hnone, List.find?_cons_of_pos (by simpa using hk)]
      simp
    · have hnil : e.2.filter p = [] := by
        rw [List.filter_eq_nil_iff]
        intro a ha
        simp [hother e (.head _) hk a ha]
      rw [hnil, List.find?_cons_of_neg (by simpa using hk), List.nil_append]

/-- Grouping keeps the order of elements that belong together. -/
theorem filter_flat_groupBy (key : α → κ) (as : List α) {p : α → Bool} {k : κ}
    (hp : ∀ a, p a = true → key a = k) : (flat (groupBy key as)).filter p = as.filter p := by
  have hother : ∀ e ∈ (groupBy key as).entries, e.1 ≠ k → ∀ a ∈ e.2, p a = false := by
    intro e he hk a ha
    rw [mem_groupBy he, List.mem_filter, decide_eq_true_eq] at ha
    rw [← Bool.not_eq_true]
    exact fun hpa => hk (ha.2 ▸ hp a hpa)
  have hfilter := flat_filter_entries (groupBy key as).nodup hother
  rw [← Dict.get?] at hfilter
  rw [flat, hfilter, get?_groupBy, List.filter_filter]
  refine List.filter_congr fun a _ => ?_
  cases hpa : p a
  · rfl
  · simp [hp a hpa]

end Grouping

/-- … so where the key is the object's, it keeps what is about each object. -/
theorem about_flat_groupBy [DecidableEq κ] [DecidableEq ι] (key : ι → κ) (jobs : List (ι × τ))
    (i : ι) : about i (flat (groupBy (fun job => key job.1) jobs)) = about i jobs := by
  have habout : ∀ l : List (ι × τ),
      about i l = (l.filter fun job => decide (job.1 = i)).map Prod.snd := by
    intro l
    induction l with
    | nil => rfl
    | cons job l ih => by_cases h : job.1 = i <;> simp [h, ih]
  rw [habout, habout, filter_flat_groupBy (k := key i)]
  intro job hjob
  rw [of_decide_eq_true hjob]

theorem mem_flat_groupBy [DecidableEq κ] [DecidableEq ι] (key : ι → κ) {jobs : List (ι × τ)}
    {job : ι × τ} : job ∈ flat (groupBy (fun job => key job.1) jobs) ↔ job ∈ jobs := by
  obtain ⟨i, t⟩ := job
  rw [← mem_about, about_flat_groupBy, mem_about]

end NexusN3.Lib.Jobs
