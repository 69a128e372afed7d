import Mathlib.Data.List.Basic

/-!
# Mealy machines — what the answers to a sequence of requests tell

A machine that answers every request. Two of its states are alike when no sequence of
requests tells them apart.

* **`project_after`** — a component that sees some of the requests.
* **`Alike.of_related`** — a relation that every request keeps and that no answer breaks.
* **`Embeds`** — a machine some of whose requests are those of a component; alike states have
  alike components (`Embeds.alike`).
-/

namespace NexusN3.Lib

universe u v w x y z

/-- A step takes a state and a request to the next state and the answer. -/
abbrev Mealy (σ : Type u) (ι : Type v) (ω : Type w) := σ → ι → σ × ω

namespace Mealy

variable {σ : Type u} {ι : Type v} {ω : Type w} {τ : Type x} {κ : Type y}

/-- The state after a sequence of requests. -/
def after (m : Mealy σ ι ω) : σ → List ι → σ
  | s, [] => s
  | s, i :: is => after m (m s i).1 is

/-- The answers to a sequence of requests. -/
def answers (m : Mealy σ ι ω) : σ → List ι → List ω
  | _, [] => []
  | s, i :: is => (m s i).2 :: answers m (m s i).1 is

/-- No sequence of requests tells the two states apart. -/
def Alike (m : Mealy σ ι ω) (s t : σ) : Prop := ∀ is, answers m s is = answers m t is

variable {m : Mealy σ ι ω} {s t : σ}

@[simp] theorem after_nil : after m s [] = s := rfl

@[simp] theorem after_cons (i : ι) (is : List ι) :
    after m s (i :: is) = after m (m s i).1 is := rfl

theorem after_append (is js : List ι) : after m s (is ++ js) = after m (after m s is) js := by
  induction is generalizing s with
  | nil => rfl
  | cons i is ih => exact ih

@[simp] theorem answers_nil : answers m s [] = [] := rfl

@[simp] theorem answers_cons (i : ι) (is : List ι) :
    answers m s (i :: is) = (m s i).2 :: answers m (m s i).1 is := rfl

theorem Alike.refl (s : σ) : Alike m s s := fun _ => rfl

theorem Alike.answer (h : Alike m s t) (i : ι) : (m s i).2 = (m t i).2 :=
  (List.cons.inj (h [i])).1

theorem Alike.next (h : Alike m s t) (i : ι) : Alike m (m s i).1 (m t i).1 :=
  fun is => (List.cons.inj (h (i :: is))).2

/-- A relation that no answer breaks and that every request keeps relates alike states only. -/
theorem Alike.of_related {R : σ → σ → Prop} (hanswer : ∀ s t i, R s t → (m s i).2 = (m t i).2)
    (hkeep : ∀ s t i, R s t → R (m s i).1 (m t i).1) (h : R s t) : Alike m s t := by
  intro is
  induction is generalizing s t with
  | nil => rfl
  | cons i is ih =>
    rw [answers_cons, answers_cons, hanswer s t i h, ih (hkeep s t i h)]

/-- A component that sees some of the requests is where these take it. -/
theorem project_after {ψ : Type z} {c : Mealy τ κ ψ} {π : σ → τ} {q : ι → Option κ}
    (hproject : ∀ s i, π (m s i).1 = (q i).elim (π s) fun k => (c (π s) k).1) (is : List ι) :
    π (after m s is) = after c (π s) (is.filterMap q) := by
  induction is generalizing s with
  | nil => rfl
  | cons i is ih =>
    rw [after_cons, ih, hproject]
    cases hq : q i with
    | none => rw [List.filterMap_cons_none hq]; rfl
    | some k => rw [List.filterMap_cons_some hq]; rfl

/-- In the states of `I`, the requests `e k` are answered by a component as `k`. -/
structure Embeds (m : Mealy σ ι ω) (c : Mealy τ κ ω) (I : σ → Prop) (π : σ → τ) (e : κ → ι) :
    Prop where
  keeps : ∀ s k, I s → I (m s (e k)).1
  answer : ∀ s k, I s → (m s (e k)).2 = (c (π s) k).2
  state : ∀ s k, I s → π (m s (e k)).1 = (c (π s) k).1

theorem Embeds.answers {c : Mealy τ κ ω} {I : σ → Prop} {π : σ → τ} {e : κ → ι}
    (h : Embeds m c I π e) (hs : I s) (ks : List κ) :
    m.answers s (ks.map e) = c.answers (π s) ks := by
  induction ks generalizing s with
  | nil => rfl
  | cons k ks ih =>
    rw [List.map_cons, answers_cons, answers_cons, h.answer s k hs, ih (h.keeps s k hs),
      h.state s k hs]

/-- The components of alike states are alike. -/
theorem Embeds.alike {c : Mealy τ κ ω} {I : σ → Prop} {π : σ → τ} {e : κ → ι}
    (h : Embeds m c I π e) (hs : I s) (ht : I t) (halike : Alike m s t) : Alike c (π s) (π t) := by
  intro ks
  rw [← h.answers hs ks, ← h.answers ht ks]
  exact halike (ks.map e)

end Mealy

end NexusN3.Lib
