import Mathlib.Data.Rat.Floor

/-!
# Dynamic values with numbers

The values of `Lib/Json` again, for code that calculates with what it reads: a number is an
integer of any size or a floating point number, which is a rational, an infinity or not a
number. `none` in a result is a raised exception.

* **`Number`** — what the language counts as a number, with its comparisons.
* **`truncate`** — `int` of a float; it is at least one exactly when the float is
  (`one_le_truncate_iff`).
* **`forall₂_of_mapM_ok`** — a loop that returns for every item has a result for each, in order;
  `mapM_of_forall₂` is the way back.
-/

namespace NexusN3.Lib

universe u v w

inductive Double where
  | finite (q : Rat)
  | infinity (negative : Bool)
  | nan
  deriving DecidableEq

inductive Number where
  | int (n : Int)
  | float (x : Double)
  deriving DecidableEq

namespace Number

/-- `number > n`. -/
def exceeds : Number → Int → Bool
  | int m, n => decide (n < m)
  | float (.finite q), n => decide ((n : Rat) < q)
  | float (.infinity negative), _ => !negative
  | float .nan, _ => false

/-- `number == n`. -/
def equals : Number → Int → Bool
  | int m, n => decide (m = n)
  | float (.finite q), n => decide (q = n)
  | float _, _ => false

/-- The number, when it is an integer. -/
def int? : Number → Option Int
  | int n => some n
  | float _ => none

end Number

/-- `int` of a finite float: what is left when the fraction is dropped. -/
def truncate (q : Rat) : Int :=
  if 0 ≤ q then ⌊q⌋ else ⌈q⌉

theorem one_le_truncate_iff {q : Rat} : 1 ≤ truncate q ↔ 1 ≤ q := by
  unfold truncate
  split
  · rw [Int.le_floor, Int.cast_one]
  · rename_i hneg
    have hceil : ⌈q⌉ ≤ 0 := Int.ceil_le.mpr (by simpa using (not_le.mp hneg).le)
    constructor
    · intro hone
      omega
    · intro hone
      exact absurd (zero_le_one.trans hone) hneg

inductive Value where
  | null
  | bool (b : Bool)
  | num (n : Number)
  | str (s : String)
  | arr (items : List Value)
  | obj (fields : List (String × Value))

/-- What a dictionary with text keys holds. -/
abbrev Fields := List (String × Value)

namespace Value

def truthy : Value → Bool
  | null => false
  | bool b => b
  | num (.int n) => decide (n ≠ 0)
  | num (.float (.finite q)) => decide (q ≠ 0)
  | num (.float _) => true
  | str s => decide (s ≠ "")
  | arr items => !items.isEmpty
  | obj fields => !fields.isEmpty

/-- `value or default`. -/
def orElse (v default : Value) : Value :=
  if v.truthy then v else default

/-- `isinstance(value, dict)`. -/
def asDict : Value → Option Fields
  | obj fields => some fields
  | _ => none

def asText : Value → Option String
  | str s => some s
  | _ => none

/-- `isinstance(value, (int, float))`: a truth value counts. -/
def asNumber : Value → Option Number
  | bool b => some (.int (if b then 1 else 0))
  | num n => some n
  | _ => none

/-- `fields.get(key, default)`. -/
def getD (fields : Fields) (key : String) (default : Value) : Value :=
  (fields.lookup key).getD default

/-- `fields.get(key)`. -/
def get (fields : Fields) (key : String) : Value := getD fields key null

/-- What a loop over the value sees; `len` counts the same items. -/
def iter : Value → Option (List Value)
  | arr items => some items
  | str s => some (s.toList.map fun c => str (String.singleton c))
  | obj fields => some (fields.map fun f => str f.1)
  | _ => none

/-- `value[k]` for a place from the front: a dictionary with text keys has none. -/
def index (k : Nat) : Value → Option Value
  | arr items => items[k]?
  | str s => s.toList[k]?.map fun c => str (String.singleton c)
  | _ => none

/-- Where indexing works it agrees with the loop. -/
theorem index_eq {k : Nat} {v x : Value} {items : List Value} (hiter : v.iter = some items)
    (h : v.index k = some x) : items[k]? = some x := by
  cases v with
  | arr _ =>
    cases hiter
    exact h
  | str s =>
    cases hiter
    rwa [List.getElem?_map]
  | obj _ => cases h
  | null => cases hiter
  | bool _ => cases hiter
  | num _ => cases hiter

/-- A key of a dictionary must be hashable. -/
def hashable : Value → Bool
  | arr _ => false
  | obj _ => false
  | _ => true

/-- One item of the sequence that `dict.update` reads as a key and a value. -/
def asPair (v : Value) : Option (Value × Value) :=
  match v.iter with
  | some [key, x] => if key.hashable then some (key, x) else none
  | _ => none

/-- What `dict.update` makes of its argument: a dictionary, or a sequence of pairs. -/
def asUpdates : Value → Option (List (Value × Value))
  | obj fields => some (fields.map fun f => (str f.1, f.2))
  | v => v.iter.bind fun items => items.mapM asPair

/-- `fields[key] = value`: in place when the key is there. -/
def setField (key : String) (x : Value) : Fields → Fields
  | [] => [(key, x)]
  | f :: fields => if f.1 = key then (key, x) :: fields else f :: setField key x fields

/-- `value == text`. -/
def isText (text : String) : Value → Bool
  | str s => decide (s = text)
  | _ => false

theorem isText_iff {text : String} {v : Value} : v.isText text = true ↔ v = str text := by
  cases v <;> simp [isText]

theorem lookup_setField (key key' : String) (x : Value) (fields : Fields) :
    (setField key x fields).lookup key' = if key = key' then some x else fields.lookup key' := by
  induction fields with
  | nil =>
    by_cases h : key = key'
    · simp [setField, h]
    · simp [setField, h, List.lookup_cons, beq_false_of_ne (Ne.symm h)]
  | cons f fields ih =>
    obtain ⟨k, y⟩ := f
    by_cases hk : k = key
    · subst hk
      by_cases h : k = key'
      · simp [setField, h]
      · simp [setField, h, List.lookup_cons, beq_false_of_ne (Ne.symm h)]
    · by_cases h : key' = k
      · simp [setField, hk, h, Ne.symm hk]
      · simp [setField, List.lookup_cons, hk, beq_false_of_ne h, ih]

end Value

theorem sum_natCast {α : Type u} (f : α → Nat) (l : List α) :
    (l.map fun a => (f a : Int)).sum = ((l.map f).sum : Nat) := by
  induction l with
  | nil => rfl
  | cons a l ih => rw [List.map_cons, List.map_cons, List.sum_cons, List.sum_cons, ih, Nat.cast_add]

/-- A loop that returns for every item has one result for each, in order. -/
theorem forall₂_of_mapM_ok {α : Type u} {β : Type v} {ε : Type w} {f : α → Except ε β}
    {l : List α} {r : List β} (h : l.mapM f = .ok r) :
    List.Forall₂ (fun a b => f a = .ok b) l r := by
  induction l generalizing r with
  | nil =>
    cases h
    exact .nil
  | cons a l ih =>
    rw [List.mapM_cons] at h
    cases hf : f a with
    | error e => simp [hf, bind, Except.bind] at h
    | ok b =>
      cases hl : l.mapM f with
      | error e => simp [hf, hl, bind, Except.bind] at h
      | ok bs =>
        rw [hf, hl] at h
        cases h
        exact .cons hf (ih hl)

/-- Each item has its result, and each result its item. -/
theorem exists_mem_of_mapM_ok {α : Type u} {β : Type v} {ε : Type w} {f : α → Except ε β}
    {l : List α} {r : List β} (h : l.mapM f = .ok r) :
    (∀ a ∈ l, ∃ b ∈ r, f a = .ok b) ∧ ∀ b ∈ r, ∃ a ∈ l, f a = .ok b := by
  have hall := forall₂_of_mapM_ok h
  clear h
  induction hall with
  | nil => exact ⟨List.forall_mem_nil _, List.forall_mem_nil _⟩
  | @cons a b l r hab _ ih =>
    constructor
    · rw [List.forall_mem_cons]
      refine ⟨⟨b, List.mem_cons_self, hab⟩, fun a' ha' => ?_⟩
      obtain ⟨b', hb', heq⟩ := ih.1 a' ha'
      exact ⟨b', List.mem_cons_of_mem _ hb', heq⟩
    · rw [List.forall_mem_cons]
      refine ⟨⟨a, List.mem_cons_self, hab⟩, fun b' hb' => ?_⟩
      obtain ⟨a', ha', heq⟩ := ih.2 b' hb'
      exact ⟨a', List.mem_cons_of_mem _ ha', heq⟩

theorem exists_mapM_ok {α : Type u} {β : Type v} {ε : Type w} {f : α → Except ε β} {l : List α}
    (h : ∀ a ∈ l, ∃ b, f a = .ok b) : ∃ r, l.mapM f = .ok r := by
  induction l with
  | nil => exact ⟨[], rfl⟩
  | cons a l ih =>
    obtain ⟨⟨b, hb⟩, hrest⟩ := List.forall_mem_cons.mp h
    obtain ⟨bs, hbs⟩ := ih hrest
    exact ⟨b :: bs, by rw [List.mapM_cons, hb, hbs]; rfl⟩

theorem mapM_eq_ok {α : Type u} {β : Type v} {ε : Type w} {f : α → Except ε β} {g : α → β}
    {l : List α} (h : ∀ a ∈ l, f a = .ok (g a)) : l.mapM f = .ok (l.map g) := by
  induction l with
  | nil => rfl
  | cons a l ih =>
    obtain ⟨ha, hl⟩ := List.forall_mem_cons.mp h
    rw [List.mapM_cons, ha, ih hl]
    rfl

theorem mapM_of_forall₂ {α : Type u} {β : Type v} {f : α → Option β} {l : List α} {r : List β}
    (h : List.Forall₂ (fun a b => f a = some b) l r) : l.mapM f = some r := by
  induction h with
  | nil => rfl
  | cons hab _ ih =>
    rw [List.mapM_cons, hab, ih]
    rfl

theorem exists_mapM_some_iff {α : Type u} {β : Type v} {f : α → Option β} {l : List α} :
    (∃ r, l.mapM f = some r) ↔ ∀ a ∈ l, (f a).isSome := by
  induction l with
  | nil => exact ⟨fun _ => List.forall_mem_nil _, fun _ => ⟨[], rfl⟩⟩
  | cons a l ih =>
    rw [List.forall_mem_cons, ← ih, List.mapM_cons]
    cases hf : f a with
    | none => simp
    | some b => cases l.mapM f <;> simp

end NexusN3.Lib
