/-!
# Dynamic values

What a message of the modelled language can carry, and how the language reads it: by key, by
truth, by iteration. `none` in a result is a raised exception: a read of something that is
no dictionary, an iteration over something that has no items.
-/

namespace NexusN3.Lib

/-- A value as a JSON text can denote it. Of a number only the truth is read. -/
inductive Json where
  | null
  | bool (b : Bool)
  | num (n : Int)
  | str (s : String)
  | arr (items : List Json)
  | obj (fields : List (String × Json))

namespace Json

def truthy : Json → Bool
  | null => false
  | bool b => b
  | num n => decide (n ≠ 0)
  | str s => decide (s ≠ "")
  | arr items => !items.isEmpty
  | obj fields => !fields.isEmpty

/-- `value is True`. -/
def isTrue : Json → Bool
  | bool true => true
  | _ => false

/-- `value == text`. -/
def isText (text : String) : Json → Bool
  | str s => decide (s = text)
  | _ => false

/-- `isinstance(value, dict)`. -/
def asDict : Json → Option (List (String × Json))
  | obj fields => some fields
  | _ => none

/-- `fields.get(key, default)`. -/
def getD (fields : List (String × Json)) (key : String) (default : Json) : Json :=
  (fields.lookup key).getD default

/-- `fields.get(key)`. -/
def get (fields : List (String × Json)) (key : String) : Json := getD fields key null

/-- What a loop over the value sees. -/
def iter : Json → Option (List Json)
  | arr items => some items
  | str s => some (s.toList.map fun c => str (String.singleton c))
  | obj fields => some (fields.map fun f => str f.1)
  | _ => none

/-- `value or default`. -/
def orElse (v default : Json) : Json :=
  if v.truthy then v else default

/-- A member of a set must be hashable. -/
def hashable : Json → Bool
  | arr _ => false
  | obj _ => false
  | _ => true

/-- `value[0]`: a dictionary with text keys has no such item. -/
def first : Json → Option Json
  | arr items => items.head?
  | str s => s.toList.head?.map fun c => str (String.singleton c)
  | _ => none

/-- `fields[key] = value`: in place when the key is there. -/
def setField (key : String) (x : Json) : List (String × Json) → List (String × Json)
  | [] => [(key, x)]
  | f :: fields => if f.1 = key then (key, x) :: fields else f :: setField key x fields

/-- A dictionary display of `fields` and then the items of `more`. -/
def update (fields more : List (String × Json)) : List (String × Json) :=
  more.foldl (fun fields f => setField f.1 f.2 fields) fields

theorem isText_iff {text : String} {v : Json} : v.isText text = true ↔ v = str text := by
  cases v <;> simp [isText]

theorem isTrue_iff {v : Json} : v.isTrue = true ↔ v = bool true := by
  cases v with
  | bool b => cases b <;> simp [isTrue]
  | _ => simp [isTrue]

end Json

end NexusN3.Lib
