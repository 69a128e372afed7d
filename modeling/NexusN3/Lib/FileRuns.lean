import NexusN3.Lib.FileSystem

/-!
# What operations on files did, when they did not fail

A program that returns has run every operation to its end. One lemma an operation says what that
did to the file system, and `exec_bind_ok` takes a sequence apart.

* **`exec_bind_ok`**, **`exec_ite`** — the parts of a run that returned.
* **`mkdirs_ok`**, **`writeFile_ok`**, … — the file system after each operation.
-/

namespace NexusN3.Lib

namespace Program

universe u

variable {σ ε α β : Type u} {s s' : σ}

/-- A sequence that returned: both parts did. -/
theorem exec_bind_ok {m : Program σ ε α} {f : α → Program σ ε β} {b : β}
    (h : (m >>= f).exec s = (.ok b, s')) :
    ∃ a s₁, m.exec s = (.ok a, s₁) ∧ (f a).exec s₁ = (.ok b, s') := by
  rw [exec_bind] at h
  cases hrun : m.exec s with
  | mk r s₁ =>
    rw [hrun] at h
    cases r with
    | ok a => exact ⟨a, s₁, rfl, h⟩
    | error e => cases h

/-- A sequence that raised: its first part did, or the rest did. -/
theorem exec_bind_error {m : Program σ ε α} {f : α → Program σ ε β} {e : ε}
    (h : (m >>= f).exec s = (.error e, s')) :
    m.exec s = (.error e, s') ∨
      ∃ a s₁, m.exec s = (.ok a, s₁) ∧ (f a).exec s₁ = (.error e, s') := by
  rw [exec_bind] at h
  cases hrun : m.exec s with
  | mk r s₁ =>
    rw [hrun] at h
    cases r with
    | ok a => exact Or.inr ⟨a, s₁, rfl, h⟩
    | error e' =>
      cases h
      exact Or.inl rfl

theorem exec_bind_of_ok {m : Program σ ε α} {a : α} {s₁ : σ} (f : α → Program σ ε β)
    (h : m.exec s = (.ok a, s₁)) : (m >>= f).exec s = (f a).exec s₁ := by
  rw [exec_bind, h]

theorem exec_bind_of_error {m : Program σ ε α} {e : ε} {s₁ : σ} (f : α → Program σ ε β)
    (h : m.exec s = (.error e, s₁)) : (m >>= f).exec s = (.error e, s₁) := by
  rw [exec_bind, h]

theorem exec_pure_ok {a b : α} (h : (pure a : Program σ ε α).exec s = (.ok b, s')) :
    b = a ∧ s' = s := by
  cases h
  exact ⟨rfl, rfl⟩

theorem exec_tryCatch_of_ok {m : Program σ ε α} {a : α} {s₁ : σ} (handler : ε → Program σ ε α)
    (h : m.exec s = (.ok a, s₁)) : (tryCatch m handler).exec s = (.ok a, s₁) := by
  rw [exec_tryCatch, h]

theorem exec_tryCatch_of_error {m : Program σ ε α} {e : ε} {s₁ : σ} (handler : ε → Program σ ε α)
    (h : m.exec s = (.error e, s₁)) : (tryCatch m handler).exec s = (handler e).exec s₁ := by
  rw [exec_tryCatch, h]

/-- The program never returns. -/
def Raises (m : Program σ ε α) : Prop := ∀ s, ∃ e s', m.exec s = (.error e, s')

theorem Raises.throw (e : ε) : Raises (MonadExcept.throw e : Program σ ε α) :=
  fun s => ⟨e, s, rfl⟩

/-- A sequence whose last part never returns. -/
theorem Raises.bind {f : α → Program σ ε β} (m : Program σ ε α) (h : ∀ a, Raises (f a)) :
    Raises (m >>= f) := by
  intro s
  cases hrun : m.exec s with
  | mk r s₁ =>
    cases r with
    | ok a => exact exec_bind_of_ok f hrun ▸ h a s₁
    | error e => exact ⟨e, s₁, exec_bind_of_error f hrun⟩

end Program

namespace Files

variable {γ : Type} {α : Type} {env : Environment γ} {w w' : World γ} {p : Place}

theorem attempt_ok {partly : Fault γ → FileSystem γ → FileSystem γ}
    {act : FileSystem γ → Except String (FileSystem γ)} {u : PUnit}
    (h : (attempt env partly act).exec w = (.ok u, w')) : act w.fs = .ok w'.fs := by
  unfold attempt at h
  rw [Program.exec_of] at h
  split at h
  · cases h
  · split at h
    · rename_i fs hact
      cases h
      exact hact
    · cases h

/-- An operation that leaves nothing behind when it fails has changed nothing when it raises. -/
theorem attempt_error {act : FileSystem γ → Except String (FileSystem γ)} {e : Raised}
    (h : (attempt env (fun _ fs => fs) act).exec w = (.error e, w')) : w'.fs = w.fs := by
  unfold attempt at h
  rw [Program.exec_of] at h
  split at h
  · cases h
    rfl
  · split at h
    · cases h
    · cases h
      rfl

theorem look_ok {f : FileSystem γ → α} {a : α} (h : (look f).exec w = (.ok a, w')) :
    a = f w.fs ∧ w' = w := by
  cases h
  exact ⟨rfl, rfl⟩

theorem read_ok {f : FileSystem γ → Except Raised α} {a : α}
    (h : (read env f).exec w = (.ok a, w')) : f w.fs = .ok a ∧ w' = w := by
  unfold read at h
  rw [Program.exec_of] at h
  split at h
  · cases h
  · rw [Prod.mk.injEq] at h
    exact ⟨h.1, h.2.symm⟩

theorem mkdirs_ok {u : PUnit} (h : (mkdirs env p).exec w = (.ok u, w')) (q : Place) :
    w'.fs.get? q = w.fs.get? q ∨ (w.fs.get? q = none ∧ w'.fs.get? q = some .dir ∧ q <+: p) :=
  FileSystem.get?_makeDirs (attempt_ok h) q

theorem writeFile_ok {content : γ} {u : PUnit}
    (h : (writeFile env p content).exec w = (.ok u, w')) :
    w.fs.isDir p = false ∧ w'.fs = w.fs.set p (.file content) := by
  have hact := attempt_ok h
  split at hact
  · cases hact
  · rename_i hdir
    split at hact
    · cases hact
    · exact ⟨Bool.eq_false_iff.mpr hdir, (Except.ok.inj hact).symm⟩

theorem renameFile_ok {src dst : Place} {u : PUnit}
    (h : (renameFile env src dst).exec w = (.ok u, w')) :
    ∃ content, w.fs.get? src = some (.file content) ∧ w.fs.isDir dst = false ∧
      w'.fs = (w.fs.erase src).set dst (.file content) := by
  have hact := attempt_ok h
  split at hact
  · rename_i content hsrc
    split at hact
    · cases hact
    · rename_i hdir
      exact ⟨content, hsrc, Bool.eq_false_iff.mpr hdir, (Except.ok.inj hact).symm⟩
  · cases hact

theorem renameDir_ok {src dst : Place} {u : PUnit}
    (h : (renameDir env src dst).exec w = (.ok u, w')) :
    w.fs.isDir src = true ∧ w.fs.get? dst = none ∧ w'.fs = w.fs.moveTree src dst := by
  have hact := attempt_ok h
  split at hact
  · cases hact
  · rename_i hsrc
    split at hact
    · cases hact
    · rename_i hdst
      split at hact
      · cases hact
      · refine ⟨?_, Option.not_isSome_iff_eq_none.mp hdst, (Except.ok.inj hact).symm⟩
        simpa using hsrc

theorem unlink_ok {u : PUnit} (h : (unlink env p).exec w = (.ok u, w')) :
    w.fs.isDir p = false ∧ w'.fs = w.fs.erase p := by
  have hact := attempt_ok h
  split at hact
  · cases hact
  · cases hact
  · rename_i node hdir hget
    refine ⟨?_, (Except.ok.inj hact).symm⟩
    unfold FileSystem.isDir
    split
    · rename_i heq
      exact absurd (Option.some.inj (hget.symm.trans heq)) hdir
    · rfl

theorem symlink_ok {target : String} {u : PUnit}
    (h : (symlink env target p).exec w = (.ok u, w')) :
    w.fs.get? p = none ∧ w'.fs = w.fs.set p (.link target) := by
  have hact := attempt_ok h
  split at hact
  · cases hact
  · rename_i hfree
    split at hact
    · cases hact
    · exact ⟨Option.not_isSome_iff_eq_none.mp hfree, (Except.ok.inj hact).symm⟩

end Files

end NexusN3.Lib
