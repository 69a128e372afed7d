import NexusN3.Lib.Keeps

/-!
# Programs that return

`Succeeds m s`: started in `s`, the program `m` returns. A triple bounds how a program ends; the
rules here are equivalences, so they give the exact condition under which no exception leaves
the program.

* **`succeeds_bind`**, **`succeeds_tryCatch`** — sequencing and handlers.
* **`succeeds_tryCatch_of_keeps`** — a handler that returns wherever the program may stop.
-/

namespace NexusN3.Lib.Program

universe u

variable {σ ε α β : Type u}

/-- Started in `s`, `m` returns. -/
def Succeeds (m : Program σ ε α) (s : σ) : Prop :=
  ∃ a s', m.exec s = (.ok a, s')

/-- A program that only looks at a result that is there. -/
def fromExcept (x : Except ε α) : Program σ ε α := of fun s => (x, s)

/-- A program that starts by reading the state. -/
def reading (f : σ → Program σ ε α) : Program σ ε α := of fun s => (f s).exec s

@[simp] theorem exec_fromExcept (x : Except ε α) (s : σ) :
    (fromExcept x : Program σ ε α).exec s = (x, s) := rfl

@[simp] theorem exec_reading (f : σ → Program σ ε α) (s : σ) :
    (reading f).exec s = (f s).exec s := rfl

@[simp] theorem succeeds_pure (a : α) (s : σ) : Succeeds (pure a : Program σ ε α) s :=
  ⟨a, s, rfl⟩

@[simp] theorem succeeds_reading (f : σ → Program σ ε α) (s : σ) :
    Succeeds (reading f) s ↔ Succeeds (f s) s := Iff.rfl

@[simp] theorem succeeds_of (f : σ → Except ε α × σ) (s : σ) :
    Succeeds (of f) s ↔ ∃ a, (f s).1 = .ok a := by
  constructor
  · rintro ⟨a, s', h⟩
    rw [exec_of] at h
    exact ⟨a, by rw [h]⟩
  · rintro ⟨a, h⟩
    exact ⟨a, (f s).2, by rw [exec_of, ← h]⟩

@[simp] theorem succeeds_fromExcept (x : Except ε α) (s : σ) :
    Succeeds (fromExcept x : Program σ ε α) s ↔ ∃ a, x = .ok a := succeeds_of _ s

@[simp] theorem not_succeeds_throw (e : ε) (s : σ) :
    ¬ Succeeds (throw e : Program σ ε α) s := by
  rintro ⟨a, s', h⟩
  cases h

/-- A program returns or raises, and not both. -/
theorem not_succeeds_iff {m : Program σ ε α} {s : σ} :
    ¬ Succeeds m s ↔ ∃ e s', m.exec s = (.error e, s') := by
  unfold Succeeds
  cases m.exec s with
  | mk r s' => cases r <;> simp

/-- Sequencing behind a program that returns. -/
theorem succeeds_bind_of_exec {m : Program σ ε α} {f : α → Program σ ε β} {s s' : σ} {a : α}
    (h : m.exec s = (.ok a, s')) : Succeeds (m >>= f) s ↔ Succeeds (f a) s' := by
  unfold Succeeds
  rw [exec_bind, h]

/-- Nothing comes behind a program that raises. -/
theorem not_succeeds_bind {m : Program σ ε α} {f : α → Program σ ε β} {s s' : σ} {e : ε}
    (h : m.exec s = (.error e, s')) : ¬ Succeeds (m >>= f) s := by
  rintro ⟨b, s₂, hrun⟩
  rw [exec_bind, h] at hrun
  cases hrun

/-- Sequencing. -/
theorem succeeds_bind {m : Program σ ε α} {f : α → Program σ ε β} {s : σ} :
    Succeeds (m >>= f) s ↔ ∃ a s', m.exec s = (.ok a, s') ∧ Succeeds (f a) s' := by
  constructor
  · intro h
    by_cases hm : Succeeds m s
    · obtain ⟨a, s', hrun⟩ := hm
      exact ⟨a, s', hrun, (succeeds_bind_of_exec hrun).mp h⟩
    · obtain ⟨e, s', hrun⟩ := not_succeeds_iff.mp hm
      exact absurd h (not_succeeds_bind hrun)
  · rintro ⟨a, s', hrun, hf⟩
    exact (succeeds_bind_of_exec hrun).mpr hf

@[simp] theorem succeeds_fromExcept_bind {x : Except ε α} {f : α → Program σ ε β} {s : σ} :
    Succeeds (fromExcept x >>= f) s ↔ ∃ a, x = .ok a ∧ Succeeds (f a) s := by
  rw [succeeds_bind]
  constructor
  · rintro ⟨a, s', hrun, hf⟩
    cases hrun
    exact ⟨a, rfl, hf⟩
  · rintro ⟨a, rfl, hf⟩
    exact ⟨a, s, rfl, hf⟩

theorem succeeds_fromExcept_ok_bind {a : α} {f : α → Program σ ε β} {s : σ} :
    Succeeds (fromExcept (.ok a) >>= f) s ↔ Succeeds (f a) s :=
  succeeds_bind_of_exec rfl

theorem succeeds_tryCatch {m : Program σ ε α} {h : ε → Program σ ε α} {s : σ} :
    Succeeds (tryCatch m h) s ↔
      Succeeds m s ∨ ∃ e s', m.exec s = (.error e, s') ∧ Succeeds (h e) s' := by
  by_cases hm : Succeeds m s
  · obtain ⟨a, s', hrun⟩ := hm
    have hcaught : Succeeds (tryCatch m h) s := ⟨a, s', by rw [exec_tryCatch, hrun]⟩
    exact iff_of_true hcaught (.inl ⟨a, s', hrun⟩)
  · obtain ⟨e, s', hrun⟩ := not_succeeds_iff.mp hm
    have hhandled : Succeeds (tryCatch m h) s ↔ Succeeds (h e) s' := by
      unfold Succeeds
      rw [exec_tryCatch, hrun]
    rw [hhandled]
    constructor
    · intro hh
      exact .inr ⟨e, s', hrun, hh⟩
    · rintro (hsucc | ⟨e', s₂, hrun', hh⟩)
      · exact absurd hsucc hm
      · rw [hrun] at hrun'
        cases hrun'
        exact hh

/-- What a program keeps relates the ends of a given run. -/
theorem Keeps.of_exec {R : σ → σ → Prop} {m : Program σ ε α} {s s' : σ} {r : Except ε α}
    (h : Keeps R m) (hrun : m.exec s = (r, s')) : R s s' := by
  have hkept := h s
  rwa [hrun] at hkept

theorem Keeps.fromExcept {R : σ → σ → Prop} [IsPreorder σ R] (x : Except ε α) :
    Keeps R (Program.fromExcept x : Program σ ε α) := fun s => refl_of R s

/-- The handler returns wherever `m` may stop. -/
theorem succeeds_tryCatch_of_keeps {R : σ → σ → Prop} {m : Program σ ε α}
    {h : ε → Program σ ε α} {s : σ} (hm : Keeps R m)
    (hh : ∀ e s', R s s' → Succeeds (h e) s') : Succeeds (tryCatch m h) s := by
  by_cases hsucc : Succeeds m s
  · exact succeeds_tryCatch.mpr (.inl hsucc)
  · obtain ⟨e, s', hrun⟩ := not_succeeds_iff.mp hsucc
    exact succeeds_tryCatch.mpr (.inr ⟨e, s', hrun, hh e s' (hm.of_exec hrun)⟩)

/-- A handler that always returns. -/
theorem succeeds_tryCatch_of_forall {m : Program σ ε α} {h : ε → Program σ ε α} (s : σ)
    (hh : ∀ e s', Succeeds (h e) s') : Succeeds (tryCatch m h) s :=
  succeeds_tryCatch_of_keeps (R := fun _ _ => True) (fun _ => True.intro) fun e s' _ => hh e s'

end NexusN3.Lib.Program
