import Mathlib.Data.List.Infix

/-!
# Path texts

How the modelled language reads a POSIX path text: the pieces between the slashes, without the
empty ones and without `.`; `..` stays as it is until the path is looked up.

* **`components`**, **`name`** — the pieces of a text, and the last of them.
* **`IsName`** — a text that names exactly one entry of a directory.
* **`join`** — the place that `base / text` leads to, as a list of names: an absolute text
  starts over, `..` leads one directory up, links apart. A name leads one directory down
  (`join_of_isName`), and whatever the text is, the place is made of names (`isName_of_join`).
-/

namespace NexusN3.Lib.Path

/-- The components of a path text, `PurePosixPath(text).parts` without the root. -/
def components (text : String) : List String :=
  ((text.toList.splitOn '/').map String.ofList).filter fun c => decide (c ≠ "" ∧ c ≠ ".")

/-- `PurePosixPath(text).name`. -/
def name (text : String) : String :=
  (components text).getLast?.getD ""

/-- The text is the name of one entry of a directory. -/
def IsName (text : String) : Prop :=
  text ≠ "" ∧ text ≠ "." ∧ text ≠ ".." ∧ '/' ∉ text.toList

instance (text : String) : Decidable (IsName text) := by
  unfold IsName
  infer_instance

def isAbsolute (text : String) : Bool :=
  decide (text.toList.head? = some '/')

/-- One component of a lookup. -/
def walk (here : List String) (c : String) : List String :=
  if c = ".." then here.dropLast else here ++ [c]

/-- Where `base / text` is. -/
def join (base : List String) (text : String) : List String :=
  (components text).foldl walk (if isAbsolute text then [] else base)

/-- `(base / text).parent`, where `parent` is `base.parent`. -/
def joinParent (base parent : List String) (text : String) : List String :=
  match components text with
  | [] => if isAbsolute text then [] else parent
  | c :: cs => ((c :: cs).dropLast).foldl walk (if isAbsolute text then [] else base)

theorem notMem_of_mem_splitOn {c : Char} {piece text : List Char}
    (h : piece ∈ text.splitOn c) : c ∉ piece := by
  induction text generalizing piece with
  | nil =>
    rw [List.splitOn_nil, List.mem_singleton] at h
    rw [h]
    exact List.not_mem_nil
  | cons d text ih =>
    rw [List.splitOn_cons_eq_if_modifyHead] at h
    split at h
    · rcases List.mem_cons.mp h with rfl | h
      · exact List.not_mem_nil
      · exact ih h
    · rename_i hd
      -- `d` joins the first piece
      cases hrest : text.splitOn c with
      | nil => exact absurd hrest (List.splitOn_ne_nil c text)
      | cons first rest =>
        rw [hrest, List.modifyHead_cons] at h
        rcases List.mem_cons.mp h with rfl | h
        · rw [List.mem_cons, not_or]
          refine ⟨fun heq => hd (by simp [heq]), ih ?_⟩
          rw [hrest]
          exact List.mem_cons_self
        · exact ih (hrest ▸ List.mem_cons_of_mem _ h)

/-- A component is a name, or it is `..`. -/
theorem isName_of_mem_components {text c : String} (h : c ∈ components text) (hup : c ≠ "..") :
    IsName c := by
  have ⟨hpiece, hkept⟩ := List.mem_filter.mp h
  obtain ⟨piece, hmem, rfl⟩ := List.mem_map.mp hpiece
  have hkept := of_decide_eq_true hkept
  refine ⟨hkept.1, hkept.2, hup, ?_⟩
  rw [String.toList_ofList]
  exact notMem_of_mem_splitOn hmem

theorem components_of_isName {text : String} (h : IsName text) : components text = [text] := by
  have hone : text.toList.splitOn '/' = [text.toList] := List.splitOn_eq_singleton h.2.2.2
  rw [components, hone, List.map_singleton, String.ofList_toList]
  simp [h.1, h.2.1]

theorem isAbsolute_of_isName {text : String} (h : IsName text) : isAbsolute text = false := by
  refine decide_eq_false fun hhead => h.2.2.2 ?_
  exact List.mem_of_mem_head? hhead

theorem join_of_isName (base : List String) {text : String} (h : IsName text) :
    join base text = base ++ [text] := by
  rw [join, components_of_isName h, isAbsolute_of_isName h, List.foldl_cons, List.foldl_nil, walk,
    if_neg h.2.2.1, if_neg Bool.false_ne_true]

theorem joinParent_of_isName (base parent : List String) {text : String} (h : IsName text) :
    joinParent base parent text = base := by
  rw [joinParent, components_of_isName h, isAbsolute_of_isName h]
  rfl

theorem isName_of_walk {base cs : List String} (hbase : ∀ c ∈ base, IsName c)
    (hcs : ∀ c ∈ cs, c ≠ ".." → IsName c) : ∀ c ∈ cs.foldl walk base, IsName c := by
  induction cs generalizing base with
  | nil => exact hbase
  | cons d cs ih =>
    have ⟨hd, hrest⟩ := List.forall_mem_cons.mp hcs
    refine ih ?_ hrest
    unfold walk
    split
    · exact fun c hc => hbase c (List.mem_of_mem_dropLast hc)
    · rename_i hup
      rw [List.forall_mem_append]
      exact ⟨hbase, List.forall_mem_singleton.mpr (hd hup)⟩

/-- Whatever the text is, the place it leads to is made of names. -/
theorem isName_of_join {base : List String} {text : String} (hbase : ∀ c ∈ base, IsName c) :
    ∀ c ∈ join base text, IsName c := by
  refine isName_of_walk ?_ fun c hc => isName_of_mem_components hc
  split
  · exact List.forall_mem_nil _
  · exact hbase

end NexusN3.Lib.Path
