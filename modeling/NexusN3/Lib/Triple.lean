import NexusN3.Lib.Keeps

/-!
# Pre- and postconditions of programs that may raise

`Triple P m Q E` says what holds after `m` when `P` holds before it: `Q` of the value and the
state where it returns, `E` of the exception and the state where it raises. The rules follow the
shape of a program. What every operation keeps (`Keeps`) enters a triple through a condition
that is stable under it.
-/

namespace NexusN3.Lib.Program

universe u

variable {σ ε α β : Type u}

/-- Started where `P` holds, `m` ends in `Q` if it returns and in `E` if it raises. -/
def Triple (P : σ → Prop) (m : Program σ ε α) (Q : α → σ → Prop) (E : ε → σ → Prop) : Prop :=
  ∀ s, P s →
    match m.exec s with
    | (.ok a, s') => Q a s'
    | (.error e, s') => E e s'

variable {P P' : σ → Prop} {Q Q' : α → σ → Prop} {E E' : ε → σ → Prop} {m : Program σ ε α}

/-- The consequence rule. -/
theorem Triple.weaken (h : Triple P m Q E) (hP : ∀ s, P' s → P s) (hQ : ∀ a s, Q a s → Q' a s)
    (hE : ∀ e s, E e s → E' e s) : Triple P' m Q' E' := by
  intro s hs
  have hend := h s (hP s hs)
  cases hrun : m.exec s with
  | mk r s' =>
    rw [hrun] at hend
    cases r with
    | ok a => exact hQ a s' hend
    | error e => exact hE e s' hend

theorem Triple.pre (h : Triple P m Q E) (hP : ∀ s, P' s → P s) : Triple P' m Q E :=
  h.weaken hP (fun _ _ h => h) (fun _ _ h => h)

theorem Triple.post (h : Triple P m Q E) (hQ : ∀ a s, Q a s → Q' a s) : Triple P m Q' E :=
  h.weaken (fun _ h => h) hQ (fun _ _ h => h)

/-- A condition on the start that does not speak of the state is a hypothesis. -/
theorem Triple.assume {φ : Prop} (h : φ → Triple P m Q E) : Triple (fun s => φ ∧ P s) m Q E :=
  fun s hs => h hs.1 s hs.2

theorem Triple.pure (a : α) (h : ∀ s, P s → Q a s) :
    Triple P (Pure.pure a : Program σ ε α) Q E := h

theorem Triple.get {E : ε → σ → Prop} :
    Triple P (MonadState.get : Program σ ε σ) (fun a s => P s ∧ a = s) E :=
  fun _ hs => ⟨hs, rfl⟩

theorem Triple.modify {Q : PUnit → σ → Prop} (f : σ → σ) (h : ∀ s, P s → Q ⟨⟩ (f s)) :
    Triple P (modifyGet fun s => (⟨⟩, f s) : Program σ ε PUnit) Q E := h

theorem Triple.throw (e : ε) (h : ∀ s, P s → E e s) :
    Triple P (MonadExcept.throw e : Program σ ε α) Q E := h

/-- Sequencing. -/
theorem Triple.bind {f : α → Program σ ε β} {R : β → σ → Prop} (hm : Triple P m Q E)
    (hf : ∀ a, Triple (Q a) (f a) R E) : Triple P (m >>= f) R E := by
  intro s hs
  have hfirst := hm s hs
  rw [exec_bind]
  cases hrun : m.exec s with
  | mk r s' =>
    rw [hrun] at hfirst
    cases r with
    | ok a => exact hf a s' hfirst
    | error e => exact hfirst

theorem Triple.tryCatch {h : ε → Program σ ε α} (hm : Triple P m Q E')
    (hh : ∀ e, Triple (E' e) (h e) Q E) : Triple P (MonadExcept.tryCatch m h) Q E := by
  intro s hs
  have hfirst := hm s hs
  rw [exec_tryCatch]
  cases hrun : m.exec s with
  | mk r s' =>
    rw [hrun] at hfirst
    cases r with
    | ok a => exact hfirst
    | error e => exact hh e s' hfirst

theorem Triple.ite {c : Prop} [Decidable c] {n : Program σ ε α}
    (hm : c → Triple P m Q E) (hn : ¬c → Triple P n Q E) :
    Triple P (if c then m else n) Q E := by
  split
  · exact hm ‹_›
  · exact hn ‹_›

/-- What a program keeps carries every condition that is stable under it. -/
theorem Keeps.triple {R : σ → σ → Prop} (h : Keeps R m) (hstable : ∀ s s', R s s' → P s → P s') :
    Triple P m (fun _ => P) (fun _ => P) := by
  intro s hs
  have hkept := hstable s _ (h s) hs
  cases hrun : m.exec s with
  | mk r s' =>
    rw [hrun] at hkept
    cases r <;> exact hkept

/-- A condition that holds after a program started under it is maintained. -/
theorem Triple.maintains (h : Triple P m (fun _ => P) fun _ => P) : Keeps (Maintains P) m := by
  intro s hs
  have hend := h s hs
  cases hrun : m.exec s with
  | mk r s' =>
    rw [hrun] at hend
    cases r <;> exact hend

theorem Keeps.maintained (h : Keeps (Maintains P) m) : Triple P m (fun _ => P) fun _ => P :=
  h.triple fun _ _ himp => himp

/-- Started where `P` holds, `m` ends in `Q` if it returns; nothing is said of its exceptions. -/
abbrev Returns (P : σ → Prop) (m : Program σ ε α) (Q : α → σ → Prop) : Prop :=
  Triple P m Q fun _ _ => True

theorem Returns.trivial : Returns P m fun _ _ => True := by
  intro s _
  cases m.exec s with
  | mk r s' => cases r <;> exact True.intro

theorem Keeps.returns {R : σ → σ → Prop} (h : Keeps R m) (hstable : ∀ s s', R s s' → P s → P s') :
    Returns P m fun _ => P :=
  (h.triple hstable).weaken (fun _ h => h) (fun _ _ h => h) fun _ _ _ => True.intro

end NexusN3.Lib.Program
