import Mathlib.Data.List.Nodup
import Mathlib.Data.Finset.Dedup

/-!
# Dict — insertion-ordered dictionaries

The dictionaries of the modelled language keep their keys in the order of first
insertion: writing an existing key replaces its value *in place*, writing a new one
appends. Folds over the values therefore see them in that order, which an unordered
map would lose. `Dict` carries the fact that no key occurs twice, so a lookup and a
membership in the entry list say the same thing (`Dict.get?_eq_some_iff`).
-/

namespace NexusN3.Lib

universe u v w

variable {κ : Type u} {ν : Type v}

/-- A dictionary: its entries in insertion order, each key once. -/
structure Dict (κ : Type u) (ν : Type v) where
  entries : List (κ × ν)
  nodup : (entries.map Prod.fst).Nodup

namespace Dict

@[ext] theorem ext {d e : Dict κ ν} (h : d.entries = e.entries) : d = e := by
  cases d
  cases e
  cases h
  rfl

instance [DecidableEq κ] [DecidableEq ν] : DecidableEq (Dict κ ν) := fun d e =>
  decidable_of_iff (d.entries = e.entries) ⟨Dict.ext, fun h => h ▸ rfl⟩

/-- The dictionary with no entry. -/
def empty : Dict κ ν := ⟨[], List.nodup_nil⟩

instance : Inhabited (Dict κ ν) := ⟨empty⟩

/-- The keys, in insertion order. -/
def keys (d : Dict κ ν) : List κ := d.entries.map Prod.fst

/-- The values, in insertion order of their keys. -/
def values (d : Dict κ ν) : List ν := d.entries.map Prod.snd

@[simp] theorem keys_empty : (empty : Dict κ ν).keys = [] := rfl

@[simp] theorem values_empty : (empty : Dict κ ν).values = [] := rfl

/-- Every value sits under a key. -/
theorem mem_values_iff {d : Dict κ ν} {x : ν} : x ∈ d.values ↔ ∃ k, (k, x) ∈ d.entries := by
  simp [values]

/-! ## Keeping some of the keys -/

/-- The entries whose key satisfies `p`, order kept. -/
def restrict (d : Dict κ ν) (p : κ → Bool) : Dict κ ν where
  entries := d.entries.filter fun e => p e.1
  nodup := d.nodup.sublist (List.filter_sublist.map Prod.fst)

@[simp] theorem restrict_empty (p : κ → Bool) : (empty : Dict κ ν).restrict p = empty := rfl

theorem mem_restrict_entries {d : Dict κ ν} {p : κ → Bool} {e : κ × ν} :
    e ∈ (d.restrict p).entries ↔ e ∈ d.entries ∧ p e.1 = true := by
  simp [restrict]

/-! ## Changing the values -/

/-- Change every value, keys and order kept. -/
def mapValues (f : ν → ν) (d : Dict κ ν) : Dict κ ν where
  entries := d.entries.map fun e => (e.1, f e.2)
  nodup := by
    rw [List.map_map]
    exact d.nodup

@[simp] theorem mapValues_empty (f : ν → ν) : (empty : Dict κ ν).mapValues f = empty := rfl

/-- Change every value knowing its key, keys and order kept. -/
def mapEntries (f : κ → ν → ν) (d : Dict κ ν) : Dict κ ν where
  entries := d.entries.map fun e => (e.1, f e.1 e.2)
  nodup := by
    rw [List.map_map]
    exact d.nodup

@[simp] theorem keys_mapEntries (f : κ → ν → ν) (d : Dict κ ν) :
    (d.mapEntries f).keys = d.keys := by
  simp [keys, mapEntries]

section Lookup

variable [DecidableEq κ]

/-- The value under a key. -/
def get? (d : Dict κ ν) (k : κ) : Option ν :=
  (d.entries.find? fun e => e.1 = k).map Prod.snd

@[simp] theorem get?_empty (k : κ) : (empty : Dict κ ν).get? k = none := rfl

/-- Write into an entry list: in place when the key is there, else at the end. -/
def setEntries (k : κ) (x : ν) : List (κ × ν) → List (κ × ν)
  | [] => [(k, x)]
  | e :: es => if e.1 = k then (k, x) :: es else e :: setEntries k x es

theorem setEntries_keys (k : κ) (x : ν) (es : List (κ × ν)) :
    (setEntries k x es).map Prod.fst =
      if k ∈ es.map Prod.fst then es.map Prod.fst else es.map Prod.fst ++ [k] := by
  induction es with
  | nil => simp [setEntries]
  | cons e es ih =>
    by_cases hek : e.1 = k
    · simp [setEntries, hek]
    · have hke : k ≠ e.1 := fun h => hek h.symm
      simp only [setEntries, hek, if_false, List.map_cons, ih, List.mem_cons, hke, false_or]
      split <;> simp

/-- Write a value under a key. -/
def set (d : Dict κ ν) (k : κ) (x : ν) : Dict κ ν where
  entries := setEntries k x d.entries
  nodup := by
    rw [setEntries_keys]
    split
    · exact d.nodup
    · rename_i hk
      exact List.nodup_append.mpr ⟨d.nodup, by simp, by
        intro a ha b hb hab
        rw [List.mem_singleton.mp hb] at hab
        exact hk (hab ▸ ha)⟩

/-- The dictionary with one entry. -/
def single (k : κ) (x : ν) : Dict κ ν := empty.set k x

theorem find?_setEntries (k k' : κ) (x : ν) (es : List (κ × ν)) :
    ((setEntries k x es).find? fun e => e.1 = k').map Prod.snd =
      if k = k' then some x else (es.find? fun e => e.1 = k').map Prod.snd := by
  induction es with
  | nil => by_cases h : k = k' <;> simp [setEntries, h]
  | cons e es ih =>
    by_cases hek : e.1 = k
    · by_cases h : k = k'
      · simp [setEntries, hek, h]
      · simp [setEntries, hek, h]
    · by_cases hek' : e.1 = k'
      · have hkk' : k ≠ k' := fun h => hek (hek'.trans h.symm)
        have hk'k : k' ≠ k := fun h => hkk' h.symm
        simp [setEntries, hek', hkk', hk'k]
      · simp only [setEntries, hek, if_false, List.find?_cons, hek', decide_false]
        exact ih

theorem get?_set (d : Dict κ ν) (k k' : κ) (x : ν) :
    (d.set k x).get? k' = if k = k' then some x else d.get? k' :=
  find?_setEntries k k' x d.entries

@[simp] theorem get?_set_self (d : Dict κ ν) (k : κ) (x : ν) : (d.set k x).get? k = some x := by
  simp [get?_set]

theorem get?_set_ne (d : Dict κ ν) {k k' : κ} (x : ν) (h : k ≠ k') :
    (d.set k x).get? k' = d.get? k' := by
  simp [get?_set, h]

@[simp] theorem get?_single (k k' : κ) (x : ν) :
    (single k x : Dict κ ν).get? k' = if k = k' then some x else none := by
  simp [single, get?_set]

theorem mem_keys_set {d : Dict κ ν} {k k' : κ} {x : ν} :
    k' ∈ (d.set k x).keys ↔ k' = k ∨ k' ∈ d.keys := by
  unfold keys set
  rw [setEntries_keys]
  split
  · rename_i hk
    constructor
    · exact Or.inr
    · rintro (rfl | h)
      · exact hk
      · exact h
  · simp [or_comm]

/-- A lookup finds a value exactly when its entry is in the list. -/
theorem get?_eq_some_iff {d : Dict κ ν} {k : κ} {x : ν} :
    d.get? k = some x ↔ (k, x) ∈ d.entries := by
  obtain ⟨es, hnodup⟩ := d
  unfold get?
  induction es with
  | nil => simp
  | cons e es ih =>
    obtain ⟨hnotin, hrest⟩ := List.nodup_cons.mp hnodup
    obtain ⟨k₀, x₀⟩ := e
    by_cases hk : k₀ = k
    · subst hk
      have hout : (k₀, x) ∉ es := fun h => hnotin (List.mem_map.mpr ⟨(k₀, x), h, rfl⟩)
      simp [hout, eq_comm]
    · have hk' : k ≠ k₀ := fun h => hk h.symm
      simpa [hk, hk'] using ih hrest

theorem get?_isSome_iff {d : Dict κ ν} {k : κ} : (d.get? k).isSome ↔ k ∈ d.keys := by
  rw [Option.isSome_iff_exists]
  simp [get?_eq_some_iff, keys]

theorem get?_eq_none_iff {d : Dict κ ν} {k : κ} : d.get? k = none ↔ k ∉ d.keys := by
  rw [← get?_isSome_iff, Option.not_isSome_iff_eq_none]

theorem get?_mem_values {d : Dict κ ν} {k : κ} {x : ν} (h : d.get? k = some x) :
    x ∈ d.values :=
  mem_values_iff.mpr ⟨k, get?_eq_some_iff.mp h⟩

theorem mem_keys_of_get? {d : Dict κ ν} {k : κ} {x : ν} (h : d.get? k = some x) : k ∈ d.keys :=
  get?_isSome_iff.mp (by simp [h])

/-- Restriction and lookup commute on the keys kept. -/
theorem get?_restrict (d : Dict κ ν) (p : κ → Bool) (k : κ) :
    (d.restrict p).get? k = if p k = true then d.get? k else none := by
  cases hp : p k with
  | true =>
    rw [if_pos rfl]
    apply Option.ext
    intro x
    rw [get?_eq_some_iff, get?_eq_some_iff, mem_restrict_entries]
    simp [hp]
  | false =>
    rw [if_neg (by simp), get?_eq_none_iff]
    intro hmem
    obtain ⟨e, he, rfl⟩ := List.mem_map.mp hmem
    have := (mem_restrict_entries.mp he).2
    simp [hp] at this

theorem get?_mapEntries (f : κ → ν → ν) (d : Dict κ ν) (k : κ) :
    (d.mapEntries f).get? k = (d.get? k).map (f k) := by
  apply Option.ext
  intro x
  rw [get?_eq_some_iff, Option.map_eq_some_iff]
  constructor
  · intro hmem
    obtain ⟨⟨k', y⟩, he, heq⟩ := List.mem_map.mp hmem
    cases heq
    exact ⟨y, get?_eq_some_iff.mpr he, rfl⟩
  · rintro ⟨y, hy, rfl⟩
    exact List.mem_map.mpr ⟨(k, y), get?_eq_some_iff.mp hy, rfl⟩

/-! ## Deleting a key -/

/-- Delete a key; the dictionary without it, where it is not there. -/
def erase (d : Dict κ ν) (k : κ) : Dict κ ν :=
  d.restrict fun k' => decide (k' ≠ k)

@[simp] theorem get?_erase_self (d : Dict κ ν) (k : κ) : (d.erase k).get? k = none := by
  rw [erase, get?_restrict]
  simp

theorem get?_erase_ne (d : Dict κ ν) {k k' : κ} (h : k' ≠ k) : (d.erase k).get? k' = d.get? k' := by
  rw [erase, get?_restrict]
  simp [h]

theorem mem_keys_erase {d : Dict κ ν} {k k' : κ} :
    k' ∈ (d.erase k).keys ↔ k' ≠ k ∧ k' ∈ d.keys := by
  rw [← get?_isSome_iff, ← get?_isSome_iff]
  by_cases h : k' = k
  · subst h
    simp
  · simp [get?_erase_ne d h, h]

theorem keys_erase (d : Dict κ ν) (k : κ) : (d.erase k).keys = d.keys.erase k := by
  have hnodup : d.keys.Nodup := d.nodup
  rw [hnodup.erase_eq_filter]
  unfold keys erase restrict
  rw [List.filter_map]
  congr 1
  apply List.filter_congr
  intro e _
  rw [Bool.eq_iff_iff]
  simp

/-- Deleting a key that is there takes one entry away. -/
theorem length_keys_erase {d : Dict κ ν} {k : κ} (h : k ∈ d.keys) :
    (d.erase k).keys.length + 1 = d.keys.length := by
  rw [keys_erase, List.length_erase_of_mem h]
  exact Nat.succ_pred_eq_of_pos (List.length_pos_of_mem h)

theorem keys_set_of_mem {d : Dict κ ν} {k : κ} (x : ν) (h : k ∈ d.keys) :
    (d.set k x).keys = d.keys := by
  unfold keys set at *
  rw [setEntries_keys, if_pos h]

theorem keys_set_of_notMem {d : Dict κ ν} {k : κ} (x : ν) (h : k ∉ d.keys) :
    (d.set k x).keys = d.keys ++ [k] := by
  unfold keys set at *
  rw [setEntries_keys, if_neg h]

/-- Of two writes to a key the second stays. -/
theorem set_set (d : Dict κ ν) (k : κ) (x y : ν) : (d.set k x).set k y = d.set k y := by
  apply Dict.ext
  show setEntries k y (setEntries k x d.entries) = setEntries k y d.entries
  induction d.entries with
  | nil => simp [setEntries]
  | cons e es ih => by_cases hek : e.1 = k <;> simp [setEntries, hek, ih]

/-- Writing a kept key and restricting commute; writing a dropped key is not seen. -/
theorem restrict_set (d : Dict κ ν) (p : κ → Bool) (k : κ) (x : ν) :
    (d.set k x).restrict p = if p k = true then (d.restrict p).set k x else d.restrict p := by
  have key : ∀ es : List (κ × ν), (setEntries k x es).filter (fun e => p e.1) =
      if p k = true then setEntries k x (es.filter fun e => p e.1)
      else es.filter fun e => p e.1 := by
    intro es
    induction es with
    | nil => by_cases hp : p k = true <;> simp [setEntries, hp]
    | cons e es ih =>
      by_cases hek : e.1 = k
      · by_cases hp : p k = true <;> simp [setEntries, hek, hp]
      · by_cases hp : p k = true <;> by_cases hpe : p e.1 = true <;>
          simp [setEntries, hek, hp, hpe, ih]
  by_cases hp : p k = true
  · rw [if_pos hp]
    exact Dict.ext ((key d.entries).trans (if_pos hp))
  · rw [if_neg hp]
    exact Dict.ext ((key d.entries).trans (if_neg hp))

theorem get?_mapValues (f : ν → ν) (d : Dict κ ν) (k : κ) :
    (d.mapValues f).get? k = (d.get? k).map f := by
  unfold get? mapValues
  rw [List.find?_map, Option.map_map, Option.map_map]
  rfl

/-- Writing a value and mapping the values commute. -/
theorem mapValues_set (f : ν → ν) (d : Dict κ ν) (k : κ) (x : ν) :
    (d.set k x).mapValues f = (d.mapValues f).set k (f x) := by
  apply Dict.ext
  show (setEntries k x d.entries).map (fun e => (e.1, f e.2))
    = setEntries k (f x) (d.entries.map fun e => (e.1, f e.2))
  induction d.entries with
  | nil => rfl
  | cons e es ih =>
    by_cases hk : e.1 = k
    · simp [setEntries, hk]
    · simp [setEntries, hk, ih]

/-- The values of a dictionary, as a finite set of keys to look them up under. -/
def keySet (d : Dict κ ν) : Finset κ := d.keys.toFinset

@[simp] theorem mem_keySet {d : Dict κ ν} {k : κ} : k ∈ d.keySet ↔ k ∈ d.keys := by
  simp [keySet]

end Lookup

/-- A dictionary from a list of pairs, later pairs overwriting earlier ones. -/
def ofList [DecidableEq κ] (es : List (κ × ν)) : Dict κ ν :=
  es.foldl (fun d e => d.set e.1 e.2) empty

theorem setEntries_of_notMem [DecidableEq κ] {k : κ} {x : ν} {es : List (κ × ν)}
    (h : k ∉ es.map Prod.fst) : setEntries k x es = es ++ [(k, x)] := by
  induction es with
  | nil => rfl
  | cons e es ih =>
    obtain ⟨hne, hnotin⟩ := not_or.mp (fun hor => h (List.mem_cons.mpr hor))
    rw [setEntries, if_neg (Ne.symm hne), ih hnotin, List.cons_append]

/-- Written one after another into an empty dictionary, the entries of a dictionary give it. -/
theorem ofList_entries [DecidableEq κ] (d : Dict κ ν) : ofList d.entries = d := by
  have key (es : List (κ × ν)) : ∀ start : Dict κ ν,
      (start.entries.map Prod.fst ++ es.map Prod.fst).Nodup →
      (es.foldl (fun d e => d.set e.1 e.2) start).entries = start.entries ++ es := by
    induction es with
    | nil => exact fun start _ => (List.append_nil _).symm
    | cons e es ih =>
      intro start hnodup
      have hnotin : e.1 ∉ start.entries.map Prod.fst := fun hmem =>
        (List.nodup_append.mp hnodup).2.2 e.1 hmem e.1 List.mem_cons_self rfl
      have hset : (start.set e.1 e.2).entries = start.entries ++ [e] := setEntries_of_notMem hnotin
      rw [List.foldl_cons, ih, hset, List.append_assoc, List.singleton_append]
      rw [hset, List.map_append, List.append_assoc]
      exact hnodup
  exact Dict.ext (key d.entries empty d.nodup)

end Dict

end NexusN3.Lib
