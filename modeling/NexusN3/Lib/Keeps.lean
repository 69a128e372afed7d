import Mathlib.Order.Defs.Unbundled

/-!
# Programs that may raise, and what they keep

A program here changes a state and returns a value or raises; what it did before it raised
stays. `Keeps R` says that `R` relates the state before to the state after, however the program
ends. For a relation that is reflexive and transitive the rules below follow the shape of a
program, so a frame is proved operation by operation.

* **`Keeps.bind`**, **`Keeps.tryCatch`**, **`Keeps.ite`** — the rules for sequencing, handlers
  and choices.
-/

namespace NexusN3.Lib

universe u v

/-- An exception: its class and its text. -/
structure Raised where
  type : String
  text : String
  deriving DecidableEq

/-- A program over the state `σ` that may raise an `ε`. -/
abbrev Program (σ ε : Type u) (α : Type u) := ExceptT ε (StateM σ) α

namespace Program

variable {σ ε α β : Type u}

/-- Run from a state: how it ends, and the state it leaves. -/
def exec (m : Program σ ε α) (s : σ) : Except ε α × σ := m s

/-- A program given by what it does. -/
def of (f : σ → Except ε α × σ) : Program σ ε α := f

@[simp] theorem exec_of (f : σ → Except ε α × σ) (s : σ) : (of f).exec s = f s := rfl

@[simp] theorem exec_pure (a : α) (s : σ) : (pure a : Program σ ε α).exec s = (.ok a, s) := rfl

@[simp] theorem exec_throw (e : ε) (s : σ) :
    (throw e : Program σ ε α).exec s = (.error e, s) := rfl

theorem exec_bind (m : Program σ ε α) (f : α → Program σ ε β) (s : σ) :
    (m >>= f).exec s =
      match m.exec s with
      | (.ok a, s') => (f a).exec s'
      | (.error e, s') => (.error e, s') := by
  simp only [exec, bind, ExceptT.bind, ExceptT.mk, StateT.bind, ExceptT.bindCont]
  cases m s with
  | mk r s' => cases r <;> rfl

theorem exec_tryCatch (m : Program σ ε α) (h : ε → Program σ ε α) (s : σ) :
    (tryCatch m h).exec s =
      match m.exec s with
      | (.ok a, s') => (.ok a, s')
      | (.error e, s') => (h e).exec s' := by
  simp only [exec, tryCatch, tryCatchThe, MonadExceptOf.tryCatch, ExceptT.tryCatch, ExceptT.mk,
    bind, StateT.bind]
  cases m s with
  | mk r s' => cases r <;> rfl

/-! ## What a program keeps -/

/-- However `m` ends, `R` relates the state before to the state after. -/
def Keeps (R : σ → σ → Prop) (m : Program σ ε α) : Prop :=
  ∀ s, R s (m.exec s).2

/-- A choice between two programs. -/
theorem Keeps.ite {R : σ → σ → Prop} {c : Prop} [Decidable c] {m n : Program σ ε α} (hm : Keeps R m)
    (hn : Keeps R n) : Keeps R (if c then m else n) := by
  split
  · exact hm
  · exact hn

section Rules

variable {R : σ → σ → Prop} [IsPreorder σ R]

theorem Keeps.pure (a : α) : Keeps R (Pure.pure a : Program σ ε α) := fun s => refl_of R s

theorem Keeps.throw (e : ε) : Keeps R (MonadExcept.throw e : Program σ ε α) :=
  fun s => refl_of R s

/-- Sequencing: the rest is asked only for the values the first part can return. -/
theorem Keeps.bind {m : Program σ ε α} {f : α → Program σ ε β} (hm : Keeps R m)
    (hf : ∀ a, Keeps R (f a)) : Keeps R (m >>= f) := by
  intro s
  have hfirst := hm s
  rw [exec_bind]
  cases hrun : m.exec s with
  | mk r s' =>
    rw [hrun] at hfirst
    cases r with
    | ok a => exact trans_of R hfirst (hf a s')
    | error e => exact hfirst

theorem Keeps.tryCatch {m : Program σ ε α} {h : ε → Program σ ε α} (hm : Keeps R m)
    (hh : ∀ e, Keeps R (h e)) : Keeps R (MonadExcept.tryCatch m h) := by
  intro s
  have hfirst := hm s
  rw [exec_tryCatch]
  cases hrun : m.exec s with
  | mk r s' =>
    rw [hrun] at hfirst
    cases r with
    | ok a => exact hfirst
    | error e => exact trans_of R hfirst (hh e s')

theorem Keeps.forM {τ : Type u} {f : τ → Program σ ε PUnit} {as : List τ}
    (hf : ∀ a ∈ as, Keeps R (f a)) : Keeps R (as.forM f) := by
  induction as with
  | nil => exact Keeps.pure _
  | cons a as ih =>
    exact Keeps.bind (hf a (.head _)) fun _ => ih fun a' ha' => hf a' (.tail _ ha')

end Rules

/-- `P` is kept: what holds of `P` before holds after. -/
def Maintains (P : σ → Prop) (s s' : σ) : Prop := P s → P s'

instance (P : σ → Prop) : IsPreorder σ (Maintains P) where
  refl _ := id
  trans _ _ _ h h' := h' ∘ h

theorem Keeps.mono {R R' : σ → σ → Prop} {m : Program σ ε α} (h : Keeps R m)
    (himp : ∀ s s', R s s' → R' s s') : Keeps R' m :=
  fun s => himp s _ (h s)

end Program

end NexusN3.Lib
