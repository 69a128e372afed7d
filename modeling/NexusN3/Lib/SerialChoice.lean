import Mathlib.Data.List.Forall2
import Mathlib.Data.List.Nodup
import Mathlib.Data.List.ReduceOption
import Mathlib.Data.List.TakeWhile

/-!
# Serial choice

Agents choose one after another, each of them the first item that it accepts and that nobody before
it has.

* **`serialChoice`** — what each agent gets.
* **`Assignment`** — every agent has an item that it accepts, and no two have the same.
* **`Unenvied`** — an item that an agent accepts and that stands before its own belongs to an agent
  before it.
* **`serialChoice_eq_iff`** — everybody gets an item exactly in an assignment that is unenvied.
-/

namespace NexusN3.Lib

universe u v

variable {α : Type u} {δ : Type v} [DecidableEq δ] (accepts : α → δ → Bool) (items : List δ)

/-- The first item left that the agent accepts. -/
def pick (taken : List δ) (a : α) : Option δ :=
  items.find? fun d => decide (d ∉ taken) && accepts a d

def serialChoice : List δ → List α → List (Option δ)
  | _, [] => []
  | taken, a :: agents =>
    match pick accepts items taken a with
    | some d => some d :: serialChoice (d :: taken) agents
    | none => none :: serialChoice taken agents

structure Assignment (agents : List α) (own : List δ) : Prop where
  accepted : List.Forall₂ (fun a d => accepts a d = true) agents own
  among : ∀ d ∈ own, d ∈ items
  distinct : own.Nodup

/-- What stands before an agent's own item and is accepted by it has been taken before it chose. -/
def UnenviedFrom (taken : List δ) (agents : List α) (own : List δ) : Prop :=
  ∀ k a d, agents[k]? = some a → own[k]? = some d →
    ∀ e ∈ items.takeWhile fun e => decide (e ≠ d), accepts a e = true → e ∈ taken ∨ e ∈ own.take k

def Unenvied (agents : List α) (own : List δ) : Prop := UnenviedFrom accepts items [] agents own

section Choice

variable {accepts items} {taken : List δ}

theorem pick_eq_some_iff {a : α} {d : δ} : pick accepts items taken a = some d ↔
    d ∈ items ∧ d ∉ taken ∧ accepts a d = true ∧
      ∀ e ∈ items.takeWhile fun e => decide (e ≠ d), accepts a e = true → e ∈ taken := by
  unfold pick
  induction items with
  | nil => simp
  | cons b items ih =>
    rw [List.find?_cons]
    by_cases hb : b = d
    · subst hb
      rw [List.takeWhile_cons_of_neg (by simp)]
      cases hfree : (decide (b ∉ taken) && accepts a b) with
      | true => simpa using hfree
      | false =>
        refine iff_of_false (fun h => ?_) fun ⟨_, hfresh, haccepts, _⟩ => ?_
        · have hsome := List.find?_some h
          rw [hfree] at hsome
          cases hsome
        · rw [haccepts, decide_eq_true hfresh] at hfree
          cases hfree
    · rw [List.takeWhile_cons_of_pos (by simpa using hb), List.forall_mem_cons, List.mem_cons]
      cases hfree : (decide (b ∉ taken) && accepts a b) with
      | true =>
        refine iff_of_false (by simpa using hb) fun ⟨_, _, _, hall⟩ => ?_
        obtain ⟨hfresh, haccepts⟩ := (Bool.and_eq_true _ _).mp hfree
        exact of_decide_eq_true hfresh (hall.1 haccepts)
      | false =>
        rw [ih]
        have hskip : accepts a b = true → b ∈ taken := by
          intro haccepts
          by_contra hfresh
          rw [haccepts, decide_eq_true hfresh] at hfree
          cases hfree
        constructor
        · rintro ⟨hmem, hfresh, haccepts, hall⟩
          exact ⟨Or.inr hmem, hfresh, haccepts, hskip, hall⟩
        · rintro ⟨hmem, hfresh, haccepts, -, hall⟩
          exact ⟨hmem.resolve_left (Ne.symm hb), hfresh, haccepts, hall⟩

theorem unenviedFrom_cons {a : α} {agents : List α} {d : δ} {own : List δ} :
    UnenviedFrom accepts items taken (a :: agents) (d :: own) ↔
      (∀ e ∈ items.takeWhile fun e => decide (e ≠ d), accepts a e = true → e ∈ taken) ∧
        UnenviedFrom accepts items (d :: taken) agents own := by
  constructor
  · intro h
    refine ⟨fun e he haccepts => ?_, fun k b f hb hf e he haccepts => ?_⟩
    · exact (h 0 a d rfl rfl e he haccepts).resolve_right List.not_mem_nil
    · have := h (k + 1) b f hb hf e he haccepts
      rw [List.take_succ_cons, List.mem_cons] at this
      rw [List.mem_cons]
      tauto
  · rintro ⟨hfirst, hrest⟩ k b f hb hf e he haccepts
    cases k with
    | zero =>
      obtain rfl : a = b := Option.some.inj hb
      obtain rfl : d = f := Option.some.inj hf
      exact Or.inl (hfirst e he haccepts)
    | succ k =>
      have := hrest k b f hb hf e he haccepts
      rw [List.mem_cons] at this
      rw [List.take_succ_cons, List.mem_cons]
      tauto

theorem length_serialChoice (agents : List α) :
    (serialChoice accepts items taken agents).length = agents.length := by
  induction agents generalizing taken with
  | nil => rfl
  | cons a agents ih =>
    unfold serialChoice
    split
    · rw [List.length_cons, List.length_cons, ih]
    · rw [List.length_cons, List.length_cons, ih]

/-- The choice depends on what the agents accept only. -/
theorem serialChoice_map {β : Type*} (f : β → α) (agents : List β) :
    serialChoice accepts items taken (agents.map f)
      = serialChoice (fun b => accepts (f b)) items taken agents := by
  induction agents generalizing taken with
  | nil => rfl
  | cons b agents ih =>
    have hpick : pick (fun b => accepts (f b)) items taken b = pick accepts items taken (f b) := rfl
    rw [List.map_cons, serialChoice, serialChoice, hpick]
    split
    · rw [ih]
    · rw [ih]

theorem serialChoice_cons_iff {a : α} {agents : List α} {d : δ} {own : List δ} :
    serialChoice accepts items taken (a :: agents) = (d :: own).map some ↔
      pick accepts items taken a = some d ∧
        serialChoice accepts items (d :: taken) agents = own.map some := by
  rw [List.map_cons]
  conv_lhs => rw [serialChoice]
  cases pick accepts items taken a with
  | none => simp
  | some e =>
    simp only [List.cons.injEq, Option.some.injEq]
    exact and_congr_right fun heq => by rw [heq]

/-- Everybody gets an item, the items being those taken before excepted. Induction on the agents. -/
theorem serialChoice_eq_iff_from {agents : List α} {own : List δ} :
    serialChoice accepts items taken agents = own.map some ↔
      Assignment accepts items agents own ∧ (∀ d ∈ own, d ∉ taken) ∧
        UnenviedFrom accepts items taken agents own := by
  induction agents generalizing taken own with
  | nil =>
    cases own with
    | nil =>
      refine iff_of_true rfl ⟨⟨.nil, List.forall_mem_nil _, List.nodup_nil⟩, List.forall_mem_nil _,
        fun k a d ha => ?_⟩
      simp at ha
    | cons d own =>
      refine iff_of_false (by simp [serialChoice]) fun h => ?_
      cases h.1.accepted
  | cons a agents ih =>
    cases own with
    | nil =>
      refine iff_of_false (fun h => ?_) fun h => ?_
      · have hlen := congrArg List.length h
        rw [length_serialChoice] at hlen
        cases hlen
      · cases h.1.accepted
    | cons d own =>
      rw [unenviedFrom_cons, List.forall_mem_cons]
      rw [serialChoice_cons_iff, pick_eq_some_iff, ih]
      constructor
      · rintro ⟨⟨hmem, hfresh, haccepts, hfirst⟩, hrest, havoid, hunenvied⟩
        have hnotin : d ∉ own := fun hd => havoid d hd List.mem_cons_self
        refine ⟨⟨.cons haccepts hrest.accepted, ?_, List.nodup_cons.mpr ⟨hnotin, hrest.distinct⟩⟩,
          ⟨hfresh, fun e he htaken => ?_⟩, hfirst, hunenvied⟩
        · exact List.forall_mem_cons.mpr ⟨hmem, hrest.among⟩
        · exact havoid e he (List.mem_cons_of_mem _ htaken)
      · rintro ⟨hassigned, ⟨hfresh, havoid⟩, hfirst, hunenvied⟩
        obtain ⟨hmem, hamong⟩ := List.forall_mem_cons.mp hassigned.among
        obtain ⟨hnotin, hdistinct⟩ := List.nodup_cons.mp hassigned.distinct
        cases hassigned.accepted with
        | cons haccepts haccepted =>
          refine ⟨⟨hmem, hfresh, haccepts, hfirst⟩, ⟨haccepted, hamong, hdistinct⟩, ?_, hunenvied⟩
          intro e he htaken
          rcases List.mem_cons.mp htaken with rfl | htaken
          · exact hnotin he
          · exact havoid e he htaken

/-- **Everybody is served** exactly by an assignment that is unenvied. -/
theorem serialChoice_eq_iff {agents : List α} {own : List δ} :
    serialChoice accepts items [] agents = own.map some ↔
      Assignment accepts items agents own ∧ Unenvied accepts items agents own := by
  rw [serialChoice_eq_iff_from]
  exact and_congr_right fun _ => and_iff_right fun _ _ => List.not_mem_nil

omit [DecidableEq δ] in
theorem exists_eq_map_some {choices : List (Option δ)}
    (hall : ∀ choice ∈ choices, choice.isSome = true) : ∃ own : List δ, choices = own.map some := by
  induction choices with
  | nil => exact ⟨[], rfl⟩
  | cons choice choices ih =>
    obtain ⟨hchoice, hrest⟩ := List.forall_mem_cons.mp hall
    obtain ⟨d, rfl⟩ := Option.isSome_iff_exists.mp hchoice
    obtain ⟨own, rfl⟩ := ih hrest
    exact ⟨d :: own, rfl⟩

/-- Everybody gets an item exactly when as many items are taken as there are agents. -/
theorem length_reduceOption_serialChoice_iff {agents : List α} :
    (serialChoice accepts items taken agents).reduceOption.length = agents.length ↔
      ∃ own : List δ, serialChoice accepts items taken agents = own.map some := by
  rw [← @length_serialChoice _ _ _ accepts items taken agents,
    List.reduceOption_length_eq_iff]
  constructor
  · intro hall
    exact exists_eq_map_some hall
  · rintro ⟨own, hown⟩ choice hchoice
    rw [hown] at hchoice
    obtain ⟨d, -, rfl⟩ := List.mem_map.mp hchoice
    rfl

end Choice

end NexusN3.Lib
