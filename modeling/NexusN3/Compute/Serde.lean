import NexusN3.Lib.Dict
import NexusN3.Lib.Keeps
import NexusN3.Lib.Value

/-!
# Results between the host and the core

What `serde` makes of a value. On its way from an algorithm host to the core a result becomes a
`RemoteComputeResult`, whose attributes are namespaces down to the leaves; on its way back it
becomes a mapping and then JSON again, and the host makes a namespace of that. Dictionaries turn
into attributes and attributes into dictionaries, except those with a private name.

* **`toJsonable`**, **`objectToMapping`**, **`deepNamespace`**, **`remoteComputeResult`** — the
  converters.
* **`Payload`** — a JSON object without private names, at any depth.
* **`toJsonable_deepNamespace`** — the way there and back is the identity. Induction on the value.
* **`follow_deepNamespace`** — a namespace has at every path what the value has there.
* **`results_survive`** — both, for the buffers of the core and every path.
-/

namespace NexusN3.Compute.Serde

open Lib

/-! ## Values -/

inductive Class where
  | simpleNamespace
  | remoteComputeResult
  | other (name : String)
  deriving DecidableEq

/-- A value, as far as the converters look into it. Keys are texts. -/
inductive Obj (L : Type) where
  /-- a `str`, `int`, `float`, `bool` or `None` -/
  | leaf (l : L)
  | list (items : List (Obj L))
  | tuple (items : List (Obj L))
  | dict (entries : List (String × Obj L))
  | dataclass (fields : List (String × Obj L))
  | enum (value : Obj L) (attributes : List (String × Obj L))
  /-- any other object with a `__dict__` -/
  | object (cls : Class) (attributes : List (String × Obj L))
  /-- any other object without one -/
  | slotted (name : String)

variable {L : Type}

theorem sizeOf_snd_lt {e : String × Obj L} {es : List (String × Obj L)} (h : e ∈ es) :
    sizeOf e.2 < sizeOf es := by
  have hlt := List.sizeOf_lt_of_mem h
  have heq : sizeOf e = 1 + sizeOf e.1 + sizeOf e.2 := rfl
  omega

theorem sizeOf_map_le {α : Type} [SizeOf α] {f : α → α} {l : List α}
    (h : ∀ a ∈ l, sizeOf (f a) ≤ sizeOf a) : sizeOf (l.map f) ≤ sizeOf l := by
  induction l with
  | nil => exact Nat.le_refl _
  | cons a l ih =>
      have ha := h a List.mem_cons_self
      have hl := ih fun b hb => h b (List.mem_cons_of_mem a hb)
      simp only [List.map_cons, List.cons.sizeOf_spec]
      omega

/-! ## The converters -/

/-- `_asdict_inner` of the standard library: dataclasses become dictionaries, the rest is copied. -/
def asdictInner : Obj L → Obj L
  | .dataclass fields => .dict (fields.map fun f => (f.1, asdictInner f.2))
  | .list items => .list (items.map fun item => asdictInner item)
  | .tuple items => .tuple (items.map fun item => asdictInner item)
  | .dict entries => .dict (entries.map fun e => (e.1, asdictInner e.2))
  | value => value
termination_by value => sizeOf value
decreasing_by
  · have := sizeOf_snd_lt ‹_›
    simp only [Obj.dataclass.sizeOf_spec]
    omega
  · have := List.sizeOf_lt_of_mem ‹_›
    simp only [Obj.list.sizeOf_spec]
    omega
  · have := List.sizeOf_lt_of_mem ‹_›
    simp only [Obj.tuple.sizeOf_spec]
    omega
  · have := sizeOf_snd_lt ‹_›
    simp only [Obj.dict.sizeOf_spec]
    omega

/-- `asdict` of a dataclass with these fields. -/
def asdict (fields : List (String × Obj L)) : List (String × Obj L) :=
  fields.map fun f => (f.1, asdictInner f.2)

/-- `key.startswith("_")`. -/
def isPrivate (key : String) : Bool := decide (key.toList.head? = some '_')

/-- `vars(value)` without the private names. -/
def publicAttributes (attributes : List (String × Obj L)) : List (String × Obj L) :=
  attributes.filter fun a => !isPrivate a.1

theorem sizeOf_asdictInner_le (value : Obj L) : sizeOf (asdictInner value) ≤ sizeOf value := by
  have hpair (f : String × Obj L) (h : sizeOf (asdictInner f.2) ≤ sizeOf f.2) :
      sizeOf (f.1, asdictInner f.2) ≤ sizeOf f := by
    show 1 + sizeOf f.1 + sizeOf (asdictInner f.2) ≤ 1 + sizeOf f.1 + sizeOf f.2
    omega
  induction value using asdictInner.induct with
  | case1 fields ih =>
      have hle := @sizeOf_map_le _ _ _ fields fun f hf => hpair f (ih f hf)
      rw [asdictInner]
      simp only [Obj.dict.sizeOf_spec, Obj.dataclass.sizeOf_spec]
      omega
  | case2 items ih =>
      have hle := @sizeOf_map_le _ _ (fun item => asdictInner item) items ih
      rw [asdictInner]
      simp only [Obj.list.sizeOf_spec]
      omega
  | case3 items ih =>
      have hle := @sizeOf_map_le _ _ (fun item => asdictInner item) items ih
      rw [asdictInner]
      simp only [Obj.tuple.sizeOf_spec]
      omega
  | case4 entries ih =>
      have hle := @sizeOf_map_le _ _ _ entries fun e he => hpair e (ih e he)
      rw [asdictInner]
      simp only [Obj.dict.sizeOf_spec]
      omega
  | case5 value h1 h2 h3 h4 => rw [asdictInner] <;> assumption

/-- `to_jsonable`. -/
def toJsonable : Obj L → Obj L
  | .dataclass fields => .dict (fields.map fun f => (f.1, toJsonable (asdictInner f.2)))
  | .enum value _ => value
  | .dict entries => .dict (entries.map fun e => (e.1, toJsonable e.2))
  | .list items => .list (items.map fun item => toJsonable item)
  | .tuple items => .list (items.map fun item => toJsonable item)
  | .leaf l => .leaf l
  | .object _ attributes =>
      .dict ((attributes.filter fun a => !isPrivate a.1).map fun a => (a.1, toJsonable a.2))
  | .slotted name => .slotted name
termination_by value => sizeOf value
decreasing_by
  · have hlt := sizeOf_snd_lt ‹_›
    have hle := sizeOf_asdictInner_le f.2
    simp only [Obj.dataclass.sizeOf_spec]
    omega
  · have := sizeOf_snd_lt ‹_›
    simp only [Obj.dict.sizeOf_spec]
    omega
  · have := List.sizeOf_lt_of_mem ‹_›
    simp only [Obj.list.sizeOf_spec]
    omega
  · have := List.sizeOf_lt_of_mem ‹_›
    simp only [Obj.tuple.sizeOf_spec]
    omega
  · have hlt := sizeOf_snd_lt ‹_›
    simp only [Obj.object.sizeOf_spec]
    omega

/-- `object_to_mapping`. -/
def objectToMapping : Obj L → Except Raised (List (String × Obj L))
  | .dict entries => .ok entries
  | .dataclass fields => .ok (asdict fields)
  | .enum _ attributes => .ok (publicAttributes attributes)
  | .object _ attributes => .ok (publicAttributes attributes)
  | _ => .error ⟨"TypeError", "unsupported result value"⟩

/-- `deep_namespace`. -/
def deepNamespace : Obj L → Obj L
  | .dict entries => .object .simpleNamespace (entries.map fun e => (e.1, deepNamespace e.2))
  | .list items => .list (items.map fun item => deepNamespace item)
  | value => value
termination_by value => sizeOf value
decreasing_by
  · have := sizeOf_snd_lt ‹_›
    simp only [Obj.dict.sizeOf_spec]
    omega
  · have := List.sizeOf_lt_of_mem ‹_›
    simp only [Obj.list.sizeOf_spec]
    omega

/-- `RemoteComputeResult(payload)`: an attribute is set for each entry, behind `_payload`. -/
def remoteComputeResult (payload : List (String × Obj L)) : Obj L :=
  .object .remoteComputeResult
    (payload.foldl (fun attributes e => Dict.setEntries e.1 (deepNamespace e.2) attributes)
      [("_payload", .dict payload)])

/-- `value.key = x`. -/
def setattr (key : String) (x : Obj L) : Obj L → Obj L
  | .object cls attributes => .object cls (Dict.setEntries key x attributes)
  | value => value

/-- A result as `ingest_sample` returns it: what the host measured is attached. -/
def ingested (item performance : List (String × Obj L)) : Obj L :=
  setattr "_compute_performance" (.dict performance) (remoteComputeResult item)

/-- `_serialize_result_buffers`. -/
def serializeResultBuffers (resultBuffers : List (String × List (Obj L))) :
    Except Raised (List (String × List (Obj L))) :=
  resultBuffers.mapM fun buffer => do
    let items ← buffer.2.mapM fun item =>
      (objectToMapping item).map fun mapping => toJsonable (.dict mapping)
    pure (buffer.1, items)

/-- `_results_buffer_from_payload`. -/
def resultsBufferFromPayload (payload : List (String × List (Obj L))) :
    List (String × List (Obj L)) :=
  payload.map fun buffer => (buffer.1, buffer.2.map deepNamespace)

/-! ## Payloads -/

/-- JSON without private names, at any depth. -/
inductive Plain : Obj L → Prop where
  | leaf (l : L) : Plain (.leaf l)
  | list {items : List (Obj L)} (plain : ∀ item ∈ items, Plain item) : Plain (.list items)
  | dict {entries : List (String × Obj L)} (keys : (entries.map Prod.fst).Nodup)
      (names : ∀ e ∈ entries, isPrivate e.1 = false) (plain : ∀ e ∈ entries, Plain e.2) :
      Plain (.dict entries)

/-- A JSON object without private names. -/
structure Payload (L : Type) where
  entries : List (String × Obj L)
  plain : Plain (.dict entries)

/-! ## There and back -/

theorem publicAttributes_eq_self {attributes : List (String × Obj L)}
    (h : ∀ a ∈ attributes, isPrivate a.1 = false) : publicAttributes attributes = attributes := by
  rw [publicAttributes, List.filter_eq_self]
  intro a ha
  rw [h a ha]
  rfl

/-- Public names are all attributes that the converters see. -/
theorem publicAttributes_map {entries : List (String × Obj L)}
    (h : ∀ e ∈ entries, isPrivate e.1 = false) (f : Obj L → Obj L) :
    publicAttributes (entries.map fun e => (e.1, f e.2)) = entries.map fun e => (e.1, f e.2) := by
  apply publicAttributes_eq_self
  intro a ha
  obtain ⟨e, he, rfl⟩ := List.mem_map.mp ha
  exact h e he

/-- What comes back for each entry comes back for all of them. -/
theorem map_map_entries {entries : List (String × Obj L)} {f g : Obj L → Obj L}
    (h : ∀ e ∈ entries, g (f e.2) = e.2) :
    (entries.map fun e => (e.1, f e.2)).map (fun e => (e.1, g e.2)) = entries := by
  rw [List.map_map]
  have hid : entries.map ((fun e => (e.1, g e.2)) ∘ fun e => (e.1, f e.2)) = entries.map id :=
    List.map_congr_left fun e he => Prod.ext rfl (h e he)
  rw [hid, List.map_id]

/-- A namespace is JSON again. -/
theorem toJsonable_deepNamespace {value : Obj L} (h : Plain value) :
    toJsonable (deepNamespace value) = value := by
  induction h with
  | leaf l => rw [deepNamespace, toJsonable] <;> exact nofun
  | @list items _ ih =>
      rw [deepNamespace, toJsonable, List.map_map]
      have hitems : items.map ((fun item => toJsonable item) ∘ fun item => deepNamespace item)
          = items.map id := List.map_congr_left ih
      rw [hitems, List.map_id]
  | @dict entries _ names _ ih =>
      rw [deepNamespace, toJsonable, ← publicAttributes, publicAttributes_map names,
        map_map_entries ih]

/-- Setting attributes of new names appends them. Induction on the entries. -/
theorem foldl_setEntries {acc entries : List (String × Obj L)}
    (h : ((acc ++ entries).map Prod.fst).Nodup) (f : Obj L → Obj L) :
    entries.foldl (fun attributes e => Dict.setEntries e.1 (f e.2) attributes) acc
      = acc ++ entries.map fun e => (e.1, f e.2) := by
  induction entries generalizing acc with
  | nil => exact (List.append_nil acc).symm
  | cons e entries ih =>
      have hnew : e.1 ∉ acc.map Prod.fst := by
        rw [List.map_append, List.map_cons] at h
        exact fun hin => List.disjoint_of_nodup_append h hin List.mem_cons_self
      rw [List.foldl_cons, Dict.setEntries_of_notMem hnew, ih]
      · rw [List.append_assoc]
        rfl
      · rw [List.append_assoc, List.map_append]
        rw [List.map_append] at h
        exact h

theorem isPrivate_payload : isPrivate "_payload" = true := by decide

/-- The mapping of a result has an entry for each entry of its payload. -/
theorem objectToMapping_remoteComputeResult (p : Payload L) :
    objectToMapping (remoteComputeResult p.entries)
      = .ok (p.entries.map fun e => (e.1, deepNamespace e.2)) := by
  cases p.plain with
  | dict keys names _ =>
    have hnodup : (([("_payload", Obj.dict p.entries)] ++ p.entries).map Prod.fst).Nodup := by
      rw [List.map_append]
      refine List.nodup_cons.mpr ⟨fun hin => ?_, keys⟩
      obtain ⟨e, he, heq⟩ := List.mem_map.mp hin
      have hpublic := names e he
      rw [heq, isPrivate_payload] at hpublic
      cases hpublic
    have hpayload : publicAttributes [("_payload", Obj.dict p.entries)] = [] := by
      rw [publicAttributes, List.filter_cons_of_neg (by rw [isPrivate_payload]; decide)]
      rfl
    rw [remoteComputeResult, foldl_setEntries hnodup, objectToMapping, publicAttributes,
      List.filter_append, ← publicAttributes, ← publicAttributes, publicAttributes_map names,
      hpayload]
    rfl

/-- **There and back.** -/
theorem toJsonable_remoteComputeResult (p : Payload L) :
    (objectToMapping (remoteComputeResult p.entries)).map (fun m => toJsonable (.dict m))
      = .ok (.dict p.entries) := by
  cases p.plain with
  | dict keys names plain =>
    rw [objectToMapping_remoteComputeResult]
    show Except.ok (toJsonable (.dict _)) = _
    rw [toJsonable, map_map_entries fun e he => toJsonable_deepNamespace (plain e he)]

/-! ## Paths -/

/-- A step into a value: a key or an attribute, or the place in a list. -/
inductive Step where
  | name (key : String)
  | index (i : Nat)

def Obj.get? : Obj L → Step → Option (Obj L)
  | .dict entries, .name key => entries.lookup key
  | .object _ attributes, .name key => attributes.lookup key
  | .list items, .index i => items[i]?
  | _, _ => none

/-- What stands at the end of a path, if the value has the path. -/
def Obj.follow : Obj L → List Step → Option (Obj L)
  | value, [] => some value
  | value, step :: path => (value.get? step).bind fun next => next.follow path

theorem lookup_map (f : Obj L → Obj L) (entries : List (String × Obj L)) (key : String) :
    (entries.map fun e => (e.1, f e.2)).lookup key = (entries.lookup key).map f := by
  induction entries with
  | nil => rfl
  | cons e entries ih =>
      rw [List.map_cons, List.lookup_cons, List.lookup_cons, ih]
      cases key == e.1 <;> rfl

theorem deepNamespace_leaf (l : L) : deepNamespace (.leaf l) = .leaf l := by
  rw [deepNamespace] <;> exact nofun

/-- One step into a namespace is one step into the value. -/
theorem get?_deepNamespace {value : Obj L} (h : Plain value) (step : Step) :
    (deepNamespace value).get? step = (value.get? step).map deepNamespace := by
  cases h with
  | leaf l =>
      rw [deepNamespace_leaf]
      cases step <;> rfl
  | @list items _ =>
      rw [deepNamespace]
      cases step with
      | name key => rfl
      | index i => exact List.getElem?_map ..
  | @dict entries _ _ _ =>
      rw [deepNamespace]
      cases step with
      | name key => exact lookup_map deepNamespace entries key
      | index i => rfl

theorem Plain.get? {value next : Obj L} (h : Plain value) {step : Step}
    (hstep : value.get? step = some next) : Plain next := by
  cases h with
  | leaf l => cases step <;> cases hstep
  | list plain =>
      cases step with
      | name key => cases hstep
      | index i => exact plain _ (List.mem_of_getElem? hstep)
  | dict keys names plain =>
      cases step with
      | name key =>
          obtain ⟨before, later, heq, -⟩ := List.lookup_eq_some_iff.mp hstep
          exact plain (key, next) (heq ▸ List.mem_append_right before List.mem_cons_self)
      | index i => cases hstep

/-- **Path by path**: a namespace has the paths of the value, and at each of them the namespace
of what stands there. Induction on the path. -/
theorem follow_deepNamespace {value : Obj L} (h : Plain value) (path : List Step) :
    (deepNamespace value).follow path = (value.follow path).map deepNamespace := by
  induction path generalizing value with
  | nil => rfl
  | cons step path ih =>
      rw [Obj.follow, Obj.follow, get?_deepNamespace h]
      cases hstep : value.get? step with
      | none => rfl
      | some next => exact ih (h.get? hstep)

/-- Only a leaf becomes that leaf. -/
theorem deepNamespace_eq_leaf_iff {value : Obj L} (h : Plain value) {l : L} :
    deepNamespace value = .leaf l ↔ value = .leaf l := by
  cases h with
  | leaf l' => rw [deepNamespace_leaf]
  | list plain => rw [deepNamespace]; exact ⟨nofun, nofun⟩
  | dict keys names plain => rw [deepNamespace]; exact ⟨nofun, nofun⟩

theorem Plain.follow {value last : Obj L} (h : Plain value) {path : List Step}
    (hpath : value.follow path = some last) : Plain last := by
  induction path generalizing value with
  | nil =>
      cases hpath
      exact h
  | cons step path ih =>
      obtain ⟨next, hstep, hnext⟩ := Option.bind_eq_some_iff.mp hpath
      exact ih (h.get? hstep) hnext

/-! ## Buffers -/

/-- A private attribute is invisible in the mapping. -/
theorem publicAttributes_setEntries {key : String} (h : isPrivate key = true) (x : Obj L)
    (attributes : List (String × Obj L)) :
    publicAttributes (Dict.setEntries key x attributes) = publicAttributes attributes := by
  induction attributes with
  | nil =>
      rw [Dict.setEntries, publicAttributes, List.filter_cons_of_neg (by rw [h]; decide)]
      rfl
  | cons a attributes ih =>
      obtain ⟨name, y⟩ := a
      rw [Dict.setEntries]
      split
      · rename_i heq
        subst heq
        rw [publicAttributes, publicAttributes, List.filter_cons_of_neg (by rw [h]; decide),
          List.filter_cons_of_neg (by rw [h]; decide)]
      · rw [publicAttributes, List.filter_cons, ← publicAttributes, ih, publicAttributes,
          publicAttributes, List.filter_cons]

theorem objectToMapping_ingested (item performance : List (String × Obj L)) :
    objectToMapping (ingested item performance) = objectToMapping (remoteComputeResult item) := by
  rw [ingested, remoteComputeResult, setattr, objectToMapping, objectToMapping,
    publicAttributes_setEntries (by decide)]

/-- What stands in the buffers of the core: for each address, results with what was measured. -/
abbrev Buffers (L : Type) := List (String × List (Payload L × List (String × Obj L)))

def Buffers.results (buffers : Buffers L) : List (String × List (Obj L)) :=
  buffers.map fun b => (b.1, b.2.map fun r => ingested r.1.entries r.2)

def Buffers.payloads (buffers : Buffers L) : List (String × List (Obj L)) :=
  buffers.map fun b => (b.1, b.2.map fun r => .dict r.1.entries)

/-- The buffers of the core, serialized, are the payloads that they were made of. -/
theorem serializeResultBuffers_results (buffers : Buffers L) :
    serializeResultBuffers buffers.results = .ok buffers.payloads := by
  rw [serializeResultBuffers, Buffers.results, Buffers.payloads, List.mapM_map]
  apply mapM_eq_ok
  intro b _
  have hitems : (b.2.map fun r => ingested r.1.entries r.2).mapM (fun item =>
      (objectToMapping item).map fun mapping => toJsonable (.dict mapping))
      = .ok (b.2.map fun r => .dict r.1.entries) := by
    rw [List.mapM_map]
    apply mapM_eq_ok
    intro r _
    rw [Function.comp_apply, objectToMapping_ingested]
    exact toJsonable_remoteComputeResult r.1
  show ((_ : Except Raised (List (Obj L))) >>= fun items => pure (b.1, items)) = _
  rw [hitems]
  rfl

theorem resultsBufferFromPayload_payloads (buffers : Buffers L) :
    resultsBufferFromPayload buffers.payloads
      = buffers.map fun b => (b.1, b.2.map fun r => deepNamespace (.dict r.1.entries)) := by
  rw [resultsBufferFromPayload, Buffers.payloads, List.map_map]
  apply List.map_congr_left
  intro b _
  show (b.1, (b.2.map _).map deepNamespace) = _
  rw [List.map_map]
  rfl

/-- **Results survive the crossings.** What comes back from the core is what the host sent, and
the host rebuilds the namespace of it: at each path there stands what stood there in the payload,
the same leaf or a value whose JSON is the same. -/
theorem results_survive :
    (∀ p : Payload L, (objectToMapping (remoteComputeResult p.entries)).map
        (fun mapping => toJsonable (.dict mapping)) = .ok (.dict p.entries))
      ∧ (∀ buffers : Buffers L, serializeResultBuffers buffers.results = .ok buffers.payloads)
      ∧ (∀ buffers : Buffers L, resultsBufferFromPayload buffers.payloads
          = buffers.map fun b => (b.1, b.2.map fun r => deepNamespace (.dict r.1.entries)))
      ∧ ∀ (p : Payload L) (path : List Step),
        (deepNamespace (.dict p.entries)).follow path
            = ((Obj.dict p.entries).follow path).map deepNamespace
          ∧ ((deepNamespace (.dict p.entries)).follow path).map toJsonable
            = (Obj.dict p.entries).follow path
          ∧ ∀ l, (deepNamespace (.dict p.entries)).follow path = some (.leaf l)
            ↔ (Obj.dict p.entries).follow path = some (.leaf l) := by
  refine ⟨toJsonable_remoteComputeResult, serializeResultBuffers_results,
    resultsBufferFromPayload_payloads, fun p path => ?_⟩
  have hfollow := follow_deepNamespace p.plain path
  rw [hfollow]
  cases hpath : (Obj.dict p.entries).follow path with
  | none => exact ⟨rfl, rfl, fun l => ⟨nofun, nofun⟩⟩
  | some last =>
      have hlast := p.plain.follow hpath
      refine ⟨rfl, ?_, fun l => ?_⟩
      · rw [Option.map_some, Option.map_some, toJsonable_deepNamespace hlast]
      · rw [Option.map_some, Option.some.injEq, Option.some.injEq]
        exact deepNamespace_eq_leaf_iff hlast

end NexusN3.Compute.Serde
