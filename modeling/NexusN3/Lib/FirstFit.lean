import Mathlib.Data.List.Nodup
import Mathlib.Data.List.ReduceOption
import Mathlib.Data.List.TakeWhile
import Mathlib.Data.List.Perm.Subperm

/-!
# First fit — completing claims by the first member not taken

Each item of a list either claims a member or takes the first one that no item before it has. A
member that a later item claims may be taken this way.

* **`firstFit`** — the choice, item by item.
* **`fill`** — the claims as they are, and the unclaimed members in their order for the other items.
* **`Orderly`** — the claims are distinct members, and no unclaimed item comes while a claimed
  member that stands before its own is still free.
* **`firstFit_eq_fill`** — for orderly claims the choice is `fill`.
* **`firstFit_sound_iff`** — the choice gives distinct members exactly when the claims are orderly.
-/

namespace NexusN3.Lib

universe u

variable {δ : Type u} [DecidableEq δ]

/-- Every item's member, `taken` being those of the items before. -/
def firstFit (members : List δ) (default : δ) : List δ → List (Option δ) → List δ
  | _, [] => []
  | taken, some d :: claims => d :: firstFit members default (d :: taken) claims
  | taken, none :: claims =>
    let d := (members.find? fun d => d ∉ taken).getD default
    d :: firstFit members default (d :: taken) claims

/-- The members that no item claims. -/
def unclaimed (members : List δ) (claims : List (Option δ)) : List δ :=
  members.filter fun d => some d ∉ claims

/-- The claims, with `free` for the items that claim nothing. -/
def fill : List δ → List (Option δ) → List δ
  | _, [] => []
  | free, some d :: claims => d :: fill free claims
  | [], none :: claims => fill [] claims
  | d :: free, none :: claims => d :: fill free claims

/-- When the item after `before` takes its member, no claimed member that stands before it is free.
-/
def Unskipped (members : List δ) (claims before : List (Option δ)) : Prop :=
  ∀ u, (unclaimed members claims)[before.count none]? = some u →
    ∀ d ∈ members.takeWhile fun d => d ≠ u, some d ∈ claims → some d ∈ before

structure Orderly (members : List δ) (claims : List (Option δ)) : Prop where
  distinct : claims.reduceOption.Nodup
  among : ∀ d, some d ∈ claims → d ∈ members
  unskipped : ∀ before after, claims = before ++ none :: after → Unskipped members claims before

/-! ## The unclaimed members -/

section Unclaimed

variable {members : List δ} {claims : List (Option δ)}

theorem mem_unclaimed {d : δ} : d ∈ unclaimed members claims ↔ d ∈ members ∧ some d ∉ claims := by
  simp [unclaimed]

/-- What stands before `u` is left of `u`. -/
theorem takeWhile_ne {u : δ} {left right : List δ} (h : u ∉ left) :
    (left ++ u :: right).takeWhile (fun d => d ≠ u) = left := by
  induction left with
  | nil => simp
  | cons d left ih =>
    obtain ⟨hne, hnotin⟩ := not_or.mp (fun hor => h (List.mem_cons.mpr hor))
    rw [List.cons_append, List.takeWhile_cons_of_pos (by simpa using Ne.symm hne), ih hnotin]

/-- The unclaimed members before the `r`-th are those that stand before it. -/
theorem take_unclaimed (hnodup : members.Nodup) {r : Nat} {u : δ}
    (hu : (unclaimed members claims)[r]? = some u) :
    (unclaimed members claims).take r
      = unclaimed (members.takeWhile fun d => d ≠ u) claims := by
  have hmem : u ∈ unclaimed members claims := List.mem_of_getElem? hu
  obtain ⟨humem, hunclaimed⟩ := mem_unclaimed.mp hmem
  obtain ⟨left, right, rfl⟩ := List.append_of_mem humem
  have hleft : u ∉ left := fun hin =>
    (List.nodup_append.mp hnodup).2.2 u hin u List.mem_cons_self rfl
  have hsplit : unclaimed (left ++ u :: right) claims
      = unclaimed left claims ++ u :: unclaimed right claims := by
    simp [unclaimed, hunclaimed]
  have hunodup : (unclaimed (left ++ u :: right) claims).Nodup := hnodup.filter _
  rw [takeWhile_ne hleft]
  -- `u` stands at one place only
  have hplace : r = (unclaimed left claims).length := by
    have hat : (unclaimed (left ++ u :: right) claims)[(unclaimed left claims).length]?
        = some u := by
      rw [hsplit, List.getElem?_append_right (Nat.le_refl _), Nat.sub_self]
      rfl
    obtain ⟨hr, _⟩ := List.getElem?_eq_some_iff.mp hu
    exact (List.getElem?_inj hr hunodup).mp (hu.trans hat.symm)
  rw [hplace, hsplit, List.take_left]

theorem length_eq_count_none (claims : List (Option δ)) :
    claims.length = claims.count none + claims.reduceOption.length := by
  induction claims with
  | nil => rfl
  | cons claim claims ih =>
    cases claim with
    | none =>
      rw [List.count_cons_self, List.reduceOption_cons_of_none, List.length_cons]
      omega
    | some d =>
      rw [List.count_cons_of_ne (by simp), List.reduceOption_cons_of_some, List.length_cons,
        List.length_cons]
      omega

/-- There is an unclaimed member for every item that claims nothing. -/
theorem exists_unclaimed (hnodup : members.Nodup) (hroom : claims.length ≤ members.length)
    {before after : List (Option δ)} (hsplit : claims = before ++ none :: after) :
    ∃ u, (unclaimed members claims)[before.count none]? = some u := by
  have hmore : before.count none < claims.count none := by
    rw [hsplit, List.count_append, List.count_cons_self]
    omega
  have hclaimed :
      (members.filter fun d => some d ∈ claims).length ≤ claims.reduceOption.length := by
    apply ((hnodup.filter _).subperm _).length_le
    intro d hd
    exact List.reduceOption_mem_iff.mpr (by simpa using (List.mem_filter.mp hd).2)
  have hcount := length_eq_count_none claims
  have hparts : members.length = (members.filter fun d => some d ∈ claims).length
      + (unclaimed members claims).length := by
    rw [List.length_eq_length_filter_add fun d => decide (some d ∈ claims)]
    simp [unclaimed]
  exact ⟨_, List.getElem?_eq_getElem (by omega)⟩

end Unclaimed

/-! ## One choice -/

section Pick

variable {members : List δ} {claims before : List (Option δ)}

/-- The members taken so far are those claimed so far and the first unclaimed ones. -/
def Filled (members : List δ) (claims before : List (Option δ)) (taken : List δ) : Prop :=
  ∀ d, d ∈ taken ↔
    some d ∈ before ∨ d ∈ (unclaimed members claims).take (before.count none)

theorem filled_nil (members : List δ) (claims : List (Option δ)) : Filled members claims [] [] := by
  intro d
  simp

theorem Filled.claim {taken : List δ} (h : Filled members claims before taken) (d : δ) :
    Filled members claims (before ++ [some d]) (d :: taken) := by
  intro e
  rw [List.mem_cons, h e, List.count_append]
  simp only [List.mem_append, List.mem_singleton, Option.some.injEq, reduceCtorEq,
    List.count_singleton, beq_iff_eq, if_false, Nat.add_zero]
  tauto

theorem Filled.pick {taken : List δ} (h : Filled members claims before taken) {u : δ}
    (hu : (unclaimed members claims)[before.count none]? = some u) :
    Filled members claims (before ++ [none]) (u :: taken) := by
  intro e
  rw [List.mem_cons, h e, List.count_append, List.count_singleton_self, List.take_add_one, hu]
  simp only [List.mem_append, List.mem_singleton, reduceCtorEq, or_false, Option.toList_some]
  tauto

theorem Filled.notMem {taken : List δ} (h : Filled members claims before taken)
    (hnodup : members.Nodup) {after : List (Option δ)} (hsplit : claims = before ++ after) {u : δ}
    (hu : (unclaimed members claims)[before.count none]? = some u) : u ∉ taken := by
  intro htaken
  have hunclaimed := (mem_unclaimed.mp (List.mem_of_getElem? hu)).2
  rcases (h u).mp htaken with hbefore | htake
  · exact hunclaimed (hsplit ▸ List.mem_append_left _ hbefore)
  · rw [take_unclaimed hnodup hu] at htake
    have hin := List.mem_takeWhile_imp (mem_unclaimed.mp htake).1
    simp at hin

/-- Where no claimed member is skipped, the choice is the next unclaimed member. -/
theorem pick_eq {taken : List δ} (hfilled : Filled members claims before taken)
    (hnodup : members.Nodup) {after : List (Option δ)} (hsplit : claims = before ++ after) {u : δ}
    (hu : (unclaimed members claims)[before.count none]? = some u)
    (hunskipped : Unskipped members claims before) :
    members.find? (fun d => d ∉ taken) = some u := by
  have hnotin := hfilled.notMem hnodup hsplit hu
  obtain ⟨left, right, hmembers⟩ :=
    List.append_of_mem (mem_unclaimed.mp (List.mem_of_getElem? hu)).1
  have hleft : u ∉ left := fun hin =>
    (List.nodup_append.mp (hmembers ▸ hnodup)).2.2 u hin u List.mem_cons_self rfl
  have hwhile : members.takeWhile (fun d => d ≠ u) = left := by rw [hmembers, takeWhile_ne hleft]
  rw [List.find?_eq_some_iff_append]
  refine ⟨by simpa using hnotin, left, right, hmembers, ?_⟩
  intro d hd
  suffices d ∈ taken by simpa using this
  apply (hfilled d).mpr
  rw [← hwhile] at hd
  by_cases hclaimed : some d ∈ claims
  · exact .inl (hunskipped u hu d hd hclaimed)
  · rw [take_unclaimed hnodup hu]
    exact .inr (mem_unclaimed.mpr ⟨hd, hclaimed⟩)

/-- A choice that nobody claims skips no claimed member. -/
theorem unskipped_of_pick {taken : List δ} (hfilled : Filled members claims before taken)
    (hnodup : members.Nodup) {after : List (Option δ)} (hsplit : claims = before ++ after) {u x : δ}
    (hu : (unclaimed members claims)[before.count none]? = some u)
    (hpick : members.find? (fun d => d ∉ taken) = some x) (hx : some x ∉ claims) :
    x = u ∧ Unskipped members claims before := by
  have hnotin := hfilled.notMem hnodup hsplit hu
  obtain ⟨hxtaken, left, right, hmembers, hleft⟩ := List.find?_eq_some_iff_append.mp hpick
  simp only [decide_not, Bool.not_eq_eq_eq_not, Bool.not_true, decide_eq_false_iff_not,
    Bool.not_not, decide_eq_true_eq] at hxtaken hleft
  have huleft : u ∉ left := fun hin => hnotin (hleft u hin)
  have hxu : x = u := by
    by_contra hne
    -- otherwise `x` is one of the unclaimed members before `u`, which are all taken
    have hxwhile : x ∈ members.takeWhile fun d => d ≠ u := by
      have hpass (d : δ) (hd : d ∈ left) : decide (d ≠ u) = true := by
        rw [decide_eq_true_iff]
        rintro rfl
        exact huleft hd
      rw [hmembers, List.takeWhile_append_of_pos hpass,
        List.takeWhile_cons_of_pos (by simpa using hne)]
      simp
    apply hxtaken
    apply (hfilled x).mpr
    rw [take_unclaimed hnodup hu]
    exact .inr (mem_unclaimed.mpr ⟨hxwhile, hx⟩)
  refine ⟨hxu, ?_⟩
  intro v hv d hd hclaimed
  rw [hu] at hv
  cases hv
  rw [hmembers, hxu, takeWhile_ne huleft] at hd
  rcases (hfilled d).mp (hleft d hd) with hbefore | htake
  · exact hbefore
  · exact absurd hclaimed (mem_unclaimed.mp (List.mem_of_mem_take htake)).2

end Pick

/-! ## All choices -/

section All

variable {members : List δ} {default : δ} {claims before rest : List (Option δ)} {taken : List δ}

/-- Orderly claims, seen from an item on: the choices are the claims and the unclaimed members that
are left. -/
theorem firstFit_eq_fill_of_filled (before : List (Option δ)) (horderly : Orderly members claims)
    (hnodup : members.Nodup) (hroom : claims.length ≤ members.length)
    (hsplit : claims = before ++ rest) (hfilled : Filled members claims before taken) :
    firstFit members default taken rest
      = fill ((unclaimed members claims).drop (before.count none)) rest := by
  induction rest generalizing before taken with
  | nil => simp [firstFit, fill]
  | cons claim rest ih =>
    cases claim with
    | some d =>
      have hnext := ih (before ++ [some d]) (by simp [hsplit]) (hfilled.claim d)
      rw [firstFit, fill, hnext, List.count_append]
      simp
    | none =>
      obtain ⟨u, hu⟩ := exists_unclaimed hnodup hroom hsplit
      have hpick := pick_eq hfilled hnodup hsplit hu (horderly.unskipped before rest hsplit)
      have hnext := ih (before ++ [none]) (by simp [hsplit]) (hfilled.pick hu)
      obtain ⟨hlt, hget⟩ := List.getElem?_eq_some_iff.mp hu
      rw [firstFit, hpick, List.drop_eq_getElem_cons hlt, hget, fill]
      simp only [Option.getD_some, hnext, List.count_append, List.count_singleton_self]

/-- For orderly claims, each claim is met and the other items get the unclaimed members in order. -/
theorem firstFit_eq_fill (horderly : Orderly members claims) (hnodup : members.Nodup)
    (hroom : claims.length ≤ members.length) :
    firstFit members default [] claims = fill (unclaimed members claims) claims :=
  firstFit_eq_fill_of_filled [] horderly hnodup hroom rfl (filled_nil members claims)

theorem fill_perm (free : List δ) (claims : List (Option δ)) :
    (fill free claims).Perm (claims.reduceOption ++ free.take (claims.count none)) := by
  induction claims generalizing free with
  | nil => simp [fill]
  | cons claim claims ih =>
    cases claim with
    | some d => simpa [fill] using ih free
    | none =>
      cases free with
      | nil => simpa [fill] using ih []
      | cons u free =>
        rw [fill, List.reduceOption_cons_of_none, List.count_cons_self, List.take_succ_cons]
        exact ((ih free).cons u).trans List.perm_middle.symm

theorem mem_firstFit_of_claim {d : δ} (h : some d ∈ claims) :
    d ∈ firstFit members default taken claims := by
  induction claims generalizing taken with
  | nil => cases h
  | cons claim claims ih =>
    cases claim with
    | none => exact List.mem_cons_of_mem _ (ih (by simpa using h))
    | some e =>
      rcases List.mem_cons.mp h with heq | hrest
      · cases heq
        exact List.mem_cons_self
      · exact List.mem_cons_of_mem _ (ih hrest)

theorem reduceOption_sublist_firstFit (taken : List δ) (claims : List (Option δ)) :
    claims.reduceOption.Sublist (firstFit members default taken claims) := by
  induction claims generalizing taken with
  | nil => exact List.Sublist.refl _
  | cons claim claims ih =>
    cases claim with
    | none => exact (ih _).cons _
    | some d => exact (ih _).cons_cons d

/-- Distinct choices, seen from an item on, skip no claimed member. -/
theorem unskipped_of_nodup (before : List (Option δ)) (hnodup : members.Nodup)
    (hroom : claims.length ≤ members.length) (hsplit : claims = before ++ rest)
    (hfilled : Filled members claims before taken)
    (hchoices : (firstFit members default taken rest).Nodup) :
    ∀ left right, rest = left ++ none :: right → Unskipped members claims (before ++ left) := by
  induction rest generalizing before taken with
  | nil => simp
  | cons claim rest ih =>
    cases claim with
    | some d =>
      intro left right heq
      cases left with
      | nil => cases heq
      | cons claim left =>
        obtain ⟨rfl, hrest⟩ := List.cons.inj heq
        rw [firstFit, List.nodup_cons] at hchoices
        have hnext := ih (before ++ [some d]) (by simp [hsplit]) (hfilled.claim d)
          hchoices.2 left right hrest
        simpa using hnext
    | none =>
      obtain ⟨u, hu⟩ := exists_unclaimed hnodup hroom hsplit
      have hnotin := hfilled.notMem hnodup hsplit hu
      have hsome : (members.find? fun d => d ∉ taken).isSome := List.find?_isSome.mpr
        ⟨u, (mem_unclaimed.mp (List.mem_of_getElem? hu)).1, by simpa using hnotin⟩
      obtain ⟨x, hpick⟩ := Option.isSome_iff_exists.mp hsome
      have hxtaken : x ∉ taken := by simpa using List.find?_some hpick
      rw [firstFit, hpick, Option.getD_some, List.nodup_cons] at hchoices
      -- a claim on the choice would be met a second time, or has been met before
      have hx : some x ∉ claims := by
        intro hclaimed
        rw [hsplit, List.mem_append, List.mem_cons] at hclaimed
        rcases hclaimed with hbefore | heq | hlater
        · exact hxtaken ((hfilled x).mpr (.inl hbefore))
        · cases heq
        · exact hchoices.1 (mem_firstFit_of_claim hlater)
      obtain ⟨rfl, hunskipped⟩ := unskipped_of_pick hfilled hnodup hsplit hu hpick hx
      intro left right heq
      cases left with
      | nil => simpa using hunskipped
      | cons claim left =>
        obtain ⟨rfl, hrest⟩ := List.cons.inj heq
        have hnext := ih (before ++ [none]) (by simp [hsplit]) (hfilled.pick hu)
          hchoices.2 left right hrest
        simpa using hnext

/-- **First fit.** With as many members as items, the choice gives distinct members exactly when the
claims are orderly. -/
theorem firstFit_sound_iff (hnodup : members.Nodup) (hroom : claims.length ≤ members.length) :
    ((firstFit members default [] claims).Nodup ∧
      ∀ d ∈ firstFit members default [] claims, d ∈ members) ↔ Orderly members claims := by
  constructor
  · rintro ⟨hchoices, hamong⟩
    refine ⟨hchoices.sublist (reduceOption_sublist_firstFit [] claims), ?_, ?_⟩
    · exact fun d hd => hamong d (mem_firstFit_of_claim hd)
    · exact unskipped_of_nodup [] hnodup hroom rfl (filled_nil members claims) hchoices
  · intro horderly
    rw [firstFit_eq_fill horderly hnodup hroom]
    have hperm := fill_perm (unclaimed members claims) claims
    have hfree (d : δ) (hd : d ∈ (unclaimed members claims).take (claims.count none)) :
        d ∈ members ∧ some d ∉ claims := mem_unclaimed.mp (List.mem_of_mem_take hd)
    constructor
    · rw [hperm.nodup_iff, List.nodup_append]
      refine ⟨horderly.distinct, (hnodup.filter _).sublist (List.take_sublist _ _), ?_⟩
      rintro d hd e he rfl
      exact (hfree d he).2 (List.reduceOption_mem_iff.mp hd)
    · intro d hd
      rcases List.mem_append.mp (hperm.mem_iff.mp hd) with hclaim | htake
      · exact horderly.among d (List.reduceOption_mem_iff.mp hclaim)
      · exact (hfree d htake).1

end All

end NexusN3.Lib
