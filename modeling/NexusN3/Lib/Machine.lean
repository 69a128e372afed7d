import Mathlib.Logic.Relation
import Mathlib.Data.List.Basic

/-!
# Machines — labelled runs and the invariant rules

A machine is a partial step function: `step s a = some s'` when action `a` is
enabled in `s` and takes it to `s'`. Every system of this development (one node, a
coordinator, the whole deployment) is such a function, so the induction over runs
is done once, here:

* **`Machine.Run`** — a run whose every step meets a side condition `ok`, read on
  the state *before* the step. `ok = fun _ _ => True` gives plain reachability.
* **`Machine.Run.invariant`** — what the start has and every admitted step keeps
  holds wherever the run goes.
* **`Machine.Run.of_execOk`** — an action list that evaluates is a run, so a
  concrete trace is checked by computing it.
* **`Machine.exec_invariant`** — the same rule over an action list.
* **`Machine.exec_potential`** — what a potential says of the length of an action list.
-/

namespace NexusN3.Lib

universe u v

/-- A partial step function over states `σ` and actions `α`. -/
abbrev Machine (σ : Type u) (α : Type v) := σ → α → Option σ

namespace Machine

variable {σ : Type u} {α : Type v} {step : Machine σ α} {ok : σ → α → Prop}

/-- `Run step ok s t`: a sequence of steps leads from `s` to `t`, and each action `a`
taken in a state `r` on the way meets `ok r a`. -/
inductive Run (step : Machine σ α) (ok : σ → α → Prop) (s : σ) : σ → Prop where
  | refl : Run step ok s s
  | tail {r t : σ} (a : α) (hrun : Run step ok s r) (hok : ok r a)
      (hstep : step r a = some t) : Run step ok s t

/-- Reachability: a run with no side condition. -/
abbrev Reach (step : Machine σ α) (s t : σ) : Prop :=
  Run step (fun _ _ => True) s t

/-- Runs compose. Induction on the second. -/
theorem Run.trans {s r t : σ} (h1 : Run step ok s r) (h2 : Run step ok r t) :
    Run step ok s t := by
  induction h2 with
  | refl => exact h1
  | tail a _ hok hstep ih => exact .tail a ih hok hstep

/-- **The invariant rule.** A property of the start that every admitted step keeps
holds at the end of every run. -/
theorem Run.invariant {I : σ → Prop} {s t : σ} (hinit : I s)
    (hkeep : ∀ r a r', ok r a → step r a = some r' → I r → I r')
    (hrun : Run step ok s t) : I t := by
  induction hrun with
  | refl => exact hinit
  | tail a _ hok hstep ih => exact hkeep _ a _ hok hstep ih

/-! ## Evaluating an action list -/

/-- Take the actions of a list one after another. -/
def exec (step : Machine σ α) : σ → List α → Option σ
  | s, [] => some s
  | s, a :: as => (step s a).bind fun s' => exec step s' as

@[simp] theorem exec_nil (s : σ) : exec step s [] = some s := rfl

@[simp] theorem exec_cons (s : σ) (a : α) (as : List α) :
    exec step s (a :: as) = (step s a).bind fun s' => exec step s' as := rfl

/-- Take the actions of a list one after another, each under its side condition. -/
def execOk (step : Machine σ α) (ok : σ → α → Prop) [∀ s a, Decidable (ok s a)] :
    σ → List α → Option σ
  | s, [] => some s
  | s, a :: as => if ok s a then (step s a).bind fun s' => execOk step ok s' as else none

/-- An action list that evaluates under its side conditions is a run. -/
theorem Run.of_execOk [∀ s a, Decidable (ok s a)] {s t : σ} (as : List α)
    (hexec : execOk step ok s as = some t) : Run step ok s t := by
  induction as generalizing s with
  | nil =>
    cases hexec
    exact .refl
  | cons a as ih =>
    unfold execOk at hexec
    split at hexec
    · rename_i hok
      obtain ⟨s', hs', hrest⟩ := Option.bind_eq_some_iff.mp hexec
      have hone : Run step ok s s' := .tail a .refl hok hs'
      exact hone.trans (ih hrest)
    · cases hexec

/-- An action list that evaluates is a run if its actions meet the condition in every state. -/
theorem Run.of_exec {s t : σ} (as : List α) (hok : ∀ a ∈ as, ∀ r, ok r a)
    (hexec : exec step s as = some t) : Run step ok s t := by
  induction as generalizing s with
  | nil =>
    cases hexec
    exact .refl
  | cons a as ih =>
    obtain ⟨s', hs', hrest⟩ := Option.bind_eq_some_iff.mp hexec
    have hone : Run step ok s s' := .tail a .refl (hok a List.mem_cons_self s) hs'
    exact hone.trans (ih (fun b hb => hok b (List.mem_cons_of_mem a hb)) hrest)

/-- An action list that evaluates reaches its result. -/
theorem reach_of_exec {s t : σ} (as : List α) (hexec : exec step s as = some t) :
    Reach step s t :=
  .of_exec as (fun _ _ _ => trivial) hexec

/-- What each action of a list keeps holds where the list leads. -/
theorem exec_invariant {I : σ → Prop} {s t : σ} {as : List α} (hinit : I s)
    (hkeep : ∀ a ∈ as, ∀ r r', step r a = some r' → I r → I r')
    (hexec : exec step s as = some t) : I t := by
  induction as generalizing s with
  | nil =>
    cases hexec
    exact hinit
  | cons a as ih =>
    obtain ⟨s', hs', hrest⟩ := Option.bind_eq_some_iff.mp hexec
    exact ih (hkeep a List.mem_cons_self s s' hs' hinit)
      (fun b hb => hkeep b (List.mem_cons_of_mem a hb)) hrest

/-- **The potential rule.** If no action of a list raises the potential and each one that counts
lowers it, no more of them count than the potential allows. -/
theorem exec_potential {I : σ → Prop} {potential : σ → Nat} {counts : α → Bool} {s t : σ}
    {as : List α} (hinit : I s) (hkeep : ∀ a ∈ as, ∀ r r', step r a = some r' → I r → I r')
    (hlower : ∀ a ∈ as, ∀ r r', step r a = some r' → I r →
      potential r' + (if counts a then 1 else 0) ≤ potential r)
    (hexec : exec step s as = some t) : as.countP counts + potential t ≤ potential s := by
  induction as generalizing s with
  | nil =>
    cases hexec
    exact Nat.le_of_eq (Nat.zero_add _)
  | cons a as ih =>
    obtain ⟨s', hs', hrest⟩ := Option.bind_eq_some_iff.mp hexec
    have hfirst := hlower a List.mem_cons_self s s' hs' hinit
    have hafter := ih (hkeep a List.mem_cons_self s s' hs' hinit)
      (fun b hb => hkeep b (List.mem_cons_of_mem a hb))
      (fun b hb => hlower b (List.mem_cons_of_mem a hb)) hrest
    rw [List.countP_cons]
    omega

end Machine

end NexusN3.Lib
