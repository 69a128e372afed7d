import NexusN3.Lib.Machine

/-!
# Unwinding — what a run shows when some of its actions are dropped

Two runs of one machine: the actions as they came, and the same actions with some dropped
or rewritten (`keep`). A `view` is what an observer sees of a state. The second run is
compared with the first after every action, not only at the end, so the two cannot drift
apart and meet again.

* **`Unaffected`** — after each action the two runs look alike.
* **`Along`** — a condition that holds of every action in the state it is taken in.
* **`always_iff_along`** — when a step keeps an invariant exactly if it meets a condition, the
  invariant holds all along a run exactly if every action meets it; `always_iff_along_of_step` is
  the same for a lemma about one step that is taken.
* **`Unwinding.unaffected_iff`** — with a relation that silent actions keep and the others
  visibly break, `Unaffected` is exactly `Along silent`.
-/

namespace NexusN3.Lib.Machine

universe u v w

variable {σ : Type u} {α : Type v} {ω : Type w}

/-- After every action the run and the run of the kept actions look alike. -/
def Unaffected (step : Machine σ α) (keep : α → Option α) (view : σ → ω) (s t : σ)
    (as : List α) : Prop :=
  ∀ k, (exec step s (as.take k)).map view = (exec step t ((as.take k).filterMap keep)).map view

/-- Every action of the list meets `p` in the state it is taken in. -/
def Along (step : Machine σ α) (p : σ → α → Prop) : σ → List α → Prop
  | _, [] => True
  | s, a :: as => p s a ∧ ∀ s', step s a = some s' → Along step p s' as

/-- The condition is checked by taking the actions one after another. -/
instance Along.decidable (step : Machine σ α) (p : σ → α → Prop) [∀ s a, Decidable (p s a)] :
    ∀ s as, Decidable (Along step p s as)
  | _, [] => isTrue trivial
  | s, a :: as =>
    match hstep : step s a with
    | none =>
      decidable_of_iff (p s a) ⟨fun h => ⟨h, fun s' hs' => by simp [hstep] at hs'⟩, And.left⟩
    | some s' =>
      have := Along.decidable step p s' as
      decidable_of_iff (p s a ∧ Along step p s' as)
        ⟨fun h => ⟨h.1, fun t ht => Option.some.inj (hstep.symm.trans ht) ▸ h.2⟩,
          fun h => ⟨h.1, h.2 s' hstep⟩⟩

theorem exec_append {step : Machine σ α} (s : σ) (as bs : List α) :
    exec step s (as ++ bs) = (exec step s as).bind fun s' => exec step s' bs := by
  induction as generalizing s with
  | nil => rfl
  | cons a as ih =>
    rw [List.cons_append, exec_cons, exec_cons, Option.bind_assoc]
    exact congrArg _ (funext fun s' => ih s')

theorem exec_take_succ {step : Machine σ α} {s : σ} {as : List α} {k : Nat} {a : α}
    (hk : as[k]? = some a) :
    exec step s (as.take (k + 1)) = (exec step s (as.take k)).bind fun r => step r a := by
  rw [List.take_add_one, hk, exec_append]
  congr
  funext r
  exact Option.bind_fun_some (step r a)

/-- The kept form of an action list, one action at a time. -/
theorem exec_filterMap_cons {step : Machine σ α} (keep : α → Option α) (t : σ) (a : α)
    (as : List α) :
    exec step t ((a :: as).filterMap keep)
      = (exec step t (keep a).toList).bind fun t' => exec step t' (as.filterMap keep) := by
  rw [← exec_append]
  cases hkeep : keep a with
  | none => rw [List.filterMap_cons_none hkeep]; rfl
  | some b => rw [List.filterMap_cons_some hkeep]; rfl

/-- A relation between the two runs that shows in no view, that a silent action keeps, and
that any other action breaks in view. `ok` limits the actions that may occur. -/
structure Unwinding (step : Machine σ α) (keep : α → Option α) (view : σ → ω)
    (ok : α → Prop) (silent : σ → α → Prop) (R : σ → σ → Prop) : Prop where
  alike : ∀ s t, R s t → view s = view t
  lockstep : ∀ s t a, R s t → ok a → silent s a →
    Option.Rel R (step s a) (exec step t (keep a).toList)
  shows : ∀ s t a, R s t → ok a →
    (step s a).map view = (exec step t (keep a).toList).map view → silent s a

section Along

variable {step : Machine σ α} {p : σ → α → Prop} {s : σ} {as : List α}

theorem Along.take (h : Along step p s as) (k : Nat) : Along step p s (as.take k) := by
  induction as generalizing s k with
  | nil =>
    rw [List.take_nil]
    trivial
  | cons a as ih =>
    cases k with
    | zero => trivial
    | succ k => exact ⟨h.1, fun s' hs' => ih (h.2 s' hs') k⟩

/-- Two conditions that agree in every state agree along every run. -/
theorem Along.congr {q : σ → α → Prop} (h : ∀ r a, p r a ↔ q r a) :
    Along step p s as ↔ Along step q s as := by
  induction as generalizing s with
  | nil => exact Iff.rfl
  | cons a as ih => exact and_congr (h s a) (forall₂_congr fun _ _ => ih)

theorem Along.mono {q : σ → α → Prop} (h : Along step p s as) (hpq : ∀ r a, p r a → q r a) :
    Along step q s as := by
  induction as generalizing s with
  | nil => trivial
  | cons a as ih => exact ⟨hpq s a h.1, fun s' hs' => ih (h.2 s' hs')⟩

/-- The invariant rule over an action list: what every admitted step keeps holds at the end. -/
theorem Along.invariant {I : σ → Prop} (h : Along step p s as) (hinit : I s)
    (hkeep : ∀ r a r', p r a → step r a = some r' → I r → I r') {t : σ}
    (hexec : exec step s as = some t) : I t := by
  induction as generalizing s with
  | nil =>
    cases hexec
    exact hinit
  | cons a as ih =>
    obtain ⟨s', hs', hrest⟩ := Option.bind_eq_some_iff.mp hexec
    exact ih (h.2 s' hs') (hkeep s a s' h.1 hs' hinit) hrest

/-- The condition of the `k`-th action, in the state the actions before it lead to. -/
theorem Along.at (h : Along step p s as) {k : Nat} {a : α} {s' : σ} (hk : as[k]? = some a)
    (hs' : exec step s (as.take k) = some s') : p s' a := by
  induction as generalizing s k with
  | nil => simp at hk
  | cons b as ih =>
    cases k with
    | zero =>
      cases hk
      cases hs'
      exact h.1
    | succ k =>
      rw [List.take_succ_cons, exec_cons] at hs'
      obtain ⟨r, hr, hrest⟩ := Option.bind_eq_some_iff.mp hs'
      exact ih (h.2 r hr) (by simpa using hk) hrest

/-- **Exactly along.** `J` holds wherever the machine goes. Where in such a state an action leads
only to `I` exactly when it meets `p`, `I` holds after every prefix of a run exactly when every
action of the run meets `p`. -/
theorem always_iff_along {I J : σ → Prop} (hJ : J s)
    (hkeep : ∀ r a r', J r → step r a = some r' → J r')
    (hexact : ∀ r a, J r → I r → ((∀ r', step r a = some r' → I r') ↔ p r a)) (hinit : I s) :
    (∀ k t, exec step s (as.take k) = some t → I t) ↔ Along step p s as := by
  constructor
  · intro hall
    induction as generalizing s with
    | nil => trivial
    | cons a as ih =>
      refine ⟨(hexact s a hJ hinit).mp fun r' hr' => hall 1 r' (by simp [hr']), ?_⟩
      intro s' hs'
      -- the prefixes of the rest are the prefixes of the whole that start with `a`
      refine ih (hkeep s a s' hJ hs') (hall 1 s' (by simp [hs'])) ?_
      intro k t ht
      apply hall (k + 1) t
      rw [List.take_succ_cons, exec_cons, hs']
      exact ht
  · intro halong k t ht
    have hboth : J t ∧ I t := by
      refine (halong.take k).invariant (I := fun r => J r ∧ I r) ⟨hJ, hinit⟩ ?_ ht
      intro r a r' hok hr' hr
      exact ⟨hkeep r a r' hr.1 hr', (hexact r a hr.1 hr.2).mpr hok r' hr'⟩
    exact hboth.2

/-- Exactly along, from the steps that are taken: one that is not taken meets the condition. -/
theorem always_iff_along_of_step {I J : σ → Prop} (hJ : J s)
    (hkeep : ∀ r a r', J r → step r a = some r' → J r')
    (hdisabled : ∀ r a, step r a = none → p r a)
    (hexact : ∀ r a r', J r → I r → step r a = some r' → (I r' ↔ p r a)) (hinit : I s) :
    (∀ k t, exec step s (as.take k) = some t → I t) ↔ Along step p s as := by
  refine always_iff_along hJ hkeep (fun r a hr hI => ?_) hinit
  cases hstep : step r a with
  | none => exact iff_of_true nofun (hdisabled r a hstep)
  | some r' =>
    have hafter := hexact r a r' hr hI hstep
    constructor
    · exact fun hall => hafter.mp (hall r' rfl)
    · intro hok t ht
      cases ht
      exact hafter.mpr hok

/-- Along a run every step is as required exactly if every action meets the condition, where that
is so of one step in a state that the invariants hold of. -/
theorem along_iff_along {I J : σ → Prop} {q : σ → α → σ → Prop} (hJ : J s) (hinit : I s)
    (hkeep : ∀ r a r', J r → step r a = some r' → J r')
    (hexact : ∀ r a, J r → I r → ((∀ r', step r a = some r' → q r a r') ↔ p r a))
    (hq : ∀ r a r', q r a r' → I r') :
    Along step (fun r a => ∀ r', step r a = some r' → q r a r') s as ↔ Along step p s as := by
  induction as generalizing s with
  | nil => exact Iff.rfl
  | cons a as ih =>
    unfold Along
    constructor
    · rintro ⟨hnow, hlater⟩
      refine ⟨(hexact s a hJ hinit).mp hnow, fun s' hs' => ?_⟩
      exact (ih (hkeep s a s' hJ hs') (hq s a s' (hnow s' hs'))).mp (hlater s' hs')
    · rintro ⟨hok, hlater⟩
      have hnow := (hexact s a hJ hinit).mpr hok
      refine ⟨hnow, fun s' hs' => ?_⟩
      exact (ih (hkeep s a s' hJ hs') (hq s a s' (hnow s' hs'))).mpr (hlater s' hs')

end Along

section Unwind

variable {step : Machine σ α} {keep : α → Option α} {view : σ → ω} {ok : α → Prop}
  {silent : σ → α → Prop} {R : σ → σ → Prop}

/-- Silent actions keep the two runs related to their end. -/
theorem Unwinding.related (h : Unwinding step keep view ok silent R) {s t : σ} (hR : R s t)
    {as : List α} (hok : ∀ a ∈ as, ok a) (hsilent : Along step silent s as) :
    Option.Rel R (exec step s as) (exec step t (as.filterMap keep)) := by
  induction as generalizing s t with
  | nil => exact .some hR
  | cons a as ih =>
    have hrel := h.lockstep s t a hR (hok a List.mem_cons_self) hsilent.1
    rw [exec_cons, exec_filterMap_cons]
    generalize ht' : exec step t (keep a).toList = o at hrel
    generalize hs' : step s a = o' at hrel
    cases hrel with
    | some hR' =>
      exact ih hR' (fun b hb => hok b (List.mem_cons_of_mem a hb)) (hsilent.2 _ hs')
    | none => exact .none

theorem Unwinding.view_eq (h : Unwinding step keep view ok silent R) {s t : σ} (hR : R s t)
    {as : List α} (hok : ∀ a ∈ as, ok a) (hsilent : Along step silent s as) :
    (exec step s as).map view = (exec step t (as.filterMap keep)).map view := by
  have hrel := h.related hR hok hsilent
  generalize exec step s as = o at hrel
  generalize exec step t (as.filterMap keep) = o' at hrel
  cases hrel with
  | some hR' => exact congrArg some (h.alike _ _ hR')
  | none => rfl

/-- **Unwinding.** The dropped actions leave no trace in view exactly when every action is
silent where it is taken. -/
theorem Unwinding.unaffected_iff (h : Unwinding step keep view ok silent R) {s t : σ} (hR : R s t)
    (as : List α) (hok : ∀ a ∈ as, ok a) :
    Unaffected step keep view s t as ↔ Along step silent s as := by
  constructor
  · intro hall
    induction as generalizing s t with
    | nil => trivial
    | cons a as ih =>
      have hoka : ok a := hok a List.mem_cons_self
      have hsilent : silent s a := by
        apply h.shows s t a hR hoka
        -- the views after one action: `shows` turns them into silence
        have hone := hall 1
        rw [List.take_succ_cons, exec_cons, exec_filterMap_cons, Option.map_bind,
          Option.map_bind] at hone
        rw [Option.map_eq_bind, Option.map_eq_bind]
        exact hone
      refine ⟨hsilent, ?_⟩
      intro s' hs'
      have hrel := h.lockstep s t a hR hoka hsilent
      rw [hs'] at hrel
      generalize ht' : exec step t (keep a).toList = o at hrel
      cases hrel with
      | some hR' =>
        apply ih hR' (fun b hb => hok b (List.mem_cons_of_mem a hb))
        intro k
        -- the views after `k` more actions, from where this one leads
        have hk := hall (k + 1)
        rw [List.take_succ_cons, exec_cons, exec_filterMap_cons, hs', ht', Option.bind_some,
          Option.bind_some] at hk
        exact hk
  · intro hsilent k
    exact h.view_eq hR (fun a ha => hok a (List.mem_of_mem_take ha)) (hsilent.take k)

end Unwind

end NexusN3.Lib.Machine
