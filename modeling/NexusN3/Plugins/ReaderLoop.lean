import Mathlib.Data.List.ReduceOption
import Mathlib.Data.List.TakeWhile
import NexusN3.Lib.Unwinding
import NexusN3.Plugins.JsonRpc

/-!
# Reading on

The promises of a connection, part by part, each over the fields that it speaks of, and their steps.

* **`Correlated`** — who is pending, and which response completed whom.
* **`Worked`** — what the worker has done, and what is in front of it.
* **`Answering`** — the requests that came are those answered and those still to be answered.
* **`Tracked.step`** — the first two, and what the flags say, hold in every run.
* **`lawful_iff_survives`** — the steps of a run are as promised exactly if each line is one that
  the loop gets over.
-/

namespace NexusN3.Plugins.JsonRpc

open Lib

variable {strOf : Value → String}

/-! ## Who completes whom -/

theorem outstanding_snoc {history : List Input} {x : Input} {id : String} :
    Outstanding strOf (history ++ [x]) id ↔
      x = .request id ∨ Outstanding strOf history id ∧ ¬ ends strOf id x :=
  standing_snoc

theorem ends_of_completes {id : String} {before : List Input} {x : Input}
    (h : completes strOf id before x) : ends strOf id x := by
  unfold completes at h
  split at h
  · exact ⟨h.1, h.2.1⟩
  · cases h

/-- The pending requests are the outstanding ones, and the completed ones have been completed by the
first response. -/
structure Correlated (strOf : Value → String) (pending : Finset String)
    (completed : List (String × Nat)) (history : List Input) : Prop where
  outstanding : ∀ id, id ∈ pending ↔ Outstanding strOf history id
  completions : ∀ id n, (id, n) ∈ completed ↔ At (completes strOf id) history n
  once : (completed.map Prod.fst).Nodup
  known : ∀ id ∈ completed.map Prod.fst, .request id ∈ history
  settled : ∀ id ∈ completed.map Prod.fst, id ∉ pending

namespace Correlated

variable {pending : Finset String} {completed : List (String × Nat)} {history : List Input}
  {x : Input} {id : String}

/-- An input that completes nobody. -/
theorem hear (h : Correlated strOf pending completed history)
    (hquiet : ∀ id, ¬ completes strOf id history x) {pending' : Finset String}
    (hpending : ∀ id, id ∈ pending' ↔ x = .request id ∨ id ∈ pending ∧ ¬ ends strOf id x)
    (hfresh : ∀ id ∈ completed.map Prod.fst, x ≠ .request id) :
    Correlated strOf pending' completed (history ++ [x]) where
  outstanding := fun id => by rw [hpending, outstanding_snoc, h.outstanding]
  completions := fun id n => by
    rw [h.completions, at_snoc]
    constructor
    · exact .inl
    · rintro (hold | ⟨-, hnew⟩)
      · exact hold
      · exact absurd hnew (hquiet id)
  once := h.once
  known := fun id hid => List.mem_append_left _ (h.known id hid)
  settled := fun id hid hin => by
    rcases (hpending id).mp hin with hreq | ⟨hold, -⟩
    · exact hfresh id hid hreq
    · exact h.settled id hid hold

/-- An input that is about no request. -/
theorem silent (h : Correlated strOf pending completed history)
    (hopen : ∀ id, x ≠ .request id) (hends : ∀ id, ¬ ends strOf id x) :
    Correlated strOf pending completed (history ++ [x]) := by
  apply h.hear (fun id hc => hends id (ends_of_completes hc)) (fun id => ?_) (fun id _ => hopen id)
  simp [hopen id, hends id]

theorem request (h : Correlated strOf pending completed history)
    (hfresh : .request id ∉ history) :
    Correlated strOf (insert id pending) completed (history ++ [.request id]) := by
  refine h.hear (x := .request id) (fun _ hc => hc) (fun id' => ?_) fun id' hid' heq => ?_
  · rw [Finset.mem_insert]
    simp [ends, eq_comm]
  · cases heq
    exact hfresh (h.known id hid')

theorem leave (h : Correlated strOf pending completed history) :
    Correlated strOf (pending.erase id) completed (history ++ [.leave id]) := by
  refine h.hear (x := .leave id) (fun _ hc => hc) (fun id' => ?_) fun _ _ heq => nomatch heq
  rw [Finset.mem_erase]
  simp [ends, and_comm, eq_comm]

theorem failed (h : Correlated strOf pending completed history) :
    Correlated strOf ∅ completed (history ++ [.failed]) := by
  refine h.hear (x := .failed) (fun _ hc => hc) (fun id' => ?_) fun _ _ heq => nomatch heq
  simp [ends]

/-- A response to nothing that is pending. -/
theorem stray (h : Correlated strOf pending completed history) {fields : Fields}
    (hnone : textOf strOf fields "id" ∉ pending) :
    Correlated strOf pending completed (history ++ [.line (.json (.obj fields))]) := by
  refine h.hear (fun id hc => ?_) (fun id => ?_) fun _ _ heq => nomatch heq
  · obtain ⟨-, rfl, houtstanding⟩ := hc
    exact hnone ((h.outstanding _).mpr houtstanding)
  · constructor
    · intro hin
      exact .inr ⟨hin, fun hends => hnone (hends.2 ▸ hin)⟩
    · rintro (hreq | ⟨hin, -⟩)
      · cases hreq
      · exact hin

/-- A response to a pending request. -/
theorem response (h : Correlated strOf pending completed history) {fields : Fields}
    (hresponse : isRequest fields = false) (hin : textOf strOf fields "id" ∈ pending) :
    Correlated strOf (pending.erase (textOf strOf fields "id"))
      (completed ++ [(textOf strOf fields "id", history.length)])
      (history ++ [.line (.json (.obj fields))]) where
  outstanding := fun id => by
    rw [outstanding_snoc, ← h.outstanding, Finset.mem_erase]
    constructor
    · rintro ⟨hne, hold⟩
      exact .inr ⟨hold, fun hends => hne hends.2.symm⟩
    · rintro (hreq | ⟨hold, hopen⟩)
      · cases hreq
      · exact ⟨fun heq => hopen ⟨hresponse, heq.symm⟩, hold⟩
  completions := fun id n => by
    rw [List.mem_append, List.mem_singleton, at_snoc, h.completions, Prod.mk.injEq]
    apply or_congr_right
    constructor
    · rintro ⟨rfl, rfl⟩
      exact ⟨rfl, hresponse, rfl, (h.outstanding _).mp hin⟩
    · rintro ⟨rfl, -, rfl, -⟩
      exact ⟨rfl, rfl⟩
  once := by
    rw [List.map_append, List.map_singleton]
    refine List.nodup_append.mpr ⟨h.once, List.nodup_singleton _, fun a ha b hb heq => ?_⟩
    rw [List.mem_singleton] at hb
    rw [heq, hb] at ha
    exact h.settled _ ha hin
  known := fun id hid => by
    rw [List.map_append, List.map_singleton, List.mem_append, List.mem_singleton] at hid
    apply List.mem_append_left
    rcases hid with hold | rfl
    · exact h.known id hold
    · obtain ⟨before, e, after, hlog, rfl, -⟩ := (h.outstanding _).mp hin
      rw [hlog]
      exact List.mem_append_right _ List.mem_cons_self
  settled := fun id hid => by
    rw [List.map_append, List.map_singleton, List.mem_append, List.mem_singleton] at hid
    rw [Finset.mem_erase]
    rintro ⟨hne, hold⟩
    rcases hid with hdone | rfl
    · exact h.settled id hdone hold
    · exact hne rfl

end Correlated

/-! ## The worker -/

/-- The ordered requests that came: those done, the one in hand, and those in the queue. -/
def Worked (strOf : Value → String) (worker : Worker) (queue : List (Option Message))
    (runs : List Run) (history : List Input) : Prop :=
  ∃ done, places (isOrdered strOf) history =
      done ++ (worker.toList ++ queue.reduceOption).map Message.place ∧
    runs = done.flatMap span ++ worker.toList.map fun m => .began m.place

namespace Worked

variable {worker : Worker} {queue : List (Option Message)} {runs : List Run} {history : List Input}
  {x : Input} {m : Message}

theorem hear (h : Worked strOf worker queue runs history)
    (hordered : isOrdered strOf history x = false) :
    Worked strOf worker queue runs (history ++ [x]) := by
  obtain ⟨done, hplaces, hruns⟩ := h
  refine ⟨done, ?_, hruns⟩
  rw [places_snoc, hordered, hplaces]
  exact List.append_nil _

theorem enqueue (h : Worked strOf worker queue runs history)
    (hordered : isOrdered strOf history x = true) (fields : Fields) :
    Worked strOf worker (queue ++ [some ⟨history.length, fields⟩]) runs (history ++ [x]) := by
  obtain ⟨done, hplaces, hruns⟩ := h
  refine ⟨done, ?_, hruns⟩
  rw [places_snoc, hordered, hplaces, List.reduceOption_append]
  simp [List.reduceOption_singleton]

theorem sentinel (h : Worked strOf worker queue runs history) :
    Worked strOf worker (queue ++ [none]) runs history := by
  obtain ⟨done, hplaces, hruns⟩ := h
  refine ⟨done, ?_, hruns⟩
  rw [hplaces, List.reduceOption_append]
  simp [List.reduceOption_singleton]

theorem stop (h : Worked strOf .idle (none :: queue) runs history) :
    Worked strOf .gone queue runs history := h

theorem start (h : Worked strOf .idle (some m :: queue) runs history) :
    Worked strOf (.busy m) queue (runs ++ [.began m.place]) history := by
  obtain ⟨done, hplaces, hruns⟩ := h
  refine ⟨done, hplaces, ?_⟩
  rw [hruns, List.append_assoc]
  rfl

theorem finish (h : Worked strOf (.busy m) queue runs history) :
    Worked strOf .idle queue (runs ++ [.ended m.place]) history := by
  obtain ⟨done, hplaces, hruns⟩ := h
  refine ⟨done ++ [m.place], ?_, ?_⟩
  · rw [hplaces, List.append_assoc]
    rfl
  · rw [hruns, List.flatMap_append, List.append_assoc, List.append_assoc]
    rfl

theorem inOrder (h : Worked strOf worker queue runs history) :
    runs <+: (places (isOrdered strOf) history).flatMap span := by
  obtain ⟨done, hplaces, hruns⟩ := h
  rw [hplaces, hruns, List.flatMap_append, List.prefix_append_right_inj]
  cases worker with
  | idle => exact List.nil_prefix
  | gone => exact List.nil_prefix
  | busy m => exact ⟨.ended m.place :: (queue.reduceOption.map Message.place).flatMap span, rfl⟩

end Worked

/-! ## Who is answered -/

def Answering (replies : List (Nat × Reply)) (unanswered : List Nat) (history : List Input) :
    Prop :=
  ∀ n, (replies.map Prod.fst).count n + unanswered.count n =
    if (history[n]?).any Input.asks then 1 else 0

section Answering

variable {replies : List (Nat × Reply)} {unanswered unanswered' : List Nat} {history : List Input}
  {x : Input}

theorem asks_snoc (n : Nat) : ((history ++ [x])[n]?).any Input.asks =
    if n = history.length then x.asks else (history[n]?).any Input.asks := by
  rcases Nat.lt_trichotomy n history.length with hlt | rfl | hgt
  · rw [List.getElem?_append_left hlt, if_neg (by omega)]
  · simp
  · have hlen : (history ++ [x]).length ≤ n := by
      rw [List.length_append, List.length_singleton]
      omega
    rw [List.getElem?_eq_none hlen, List.getElem?_eq_none (by omega), if_neg (by omega)]

theorem Answering.hear (h : Answering replies unanswered history) (hasks : x.asks = false) :
    Answering replies unanswered (history ++ [x]) := by
  intro n
  rw [h n, asks_snoc]
  by_cases hn : n = history.length
  · rw [hn, if_pos rfl, hasks, List.getElem?_eq_none le_rfl]
    rfl
  · rw [if_neg hn]

/-- A new request is to be answered exactly if it has an id. -/
theorem answering_ask_iff (h : Answering replies unanswered history)
    (hcount : ∀ n, n ≠ history.length → unanswered'.count n = unanswered.count n) :
    Answering replies unanswered' (history ++ [x]) ↔
      unanswered'.count history.length =
        unanswered.count history.length + if x.asks then 1 else 0 := by
  have hnone :
      (replies.map Prod.fst).count history.length + unanswered.count history.length = 0 := by
    rw [h, List.getElem?_eq_none le_rfl]
    rfl
  constructor
  · intro hafter
    have hlast := hafter history.length
    rw [asks_snoc, if_pos rfl] at hlast
    omega
  · intro hlast n
    rw [asks_snoc]
    by_cases hn : n = history.length
    · rw [hn, if_pos rfl]
      omega
    · rw [if_neg hn, hcount n hn, h n]

/-- An answer to one of those to be answered. -/
theorem Answering.respond (h : Answering replies unanswered history) {n : Nat} {reply : Reply}
    (hcount : ∀ k, unanswered.count k = unanswered'.count k + if n = k then 1 else 0) :
    Answering (replies ++ [(n, reply)]) unanswered' history := by
  intro k
  rw [← h k, hcount k, List.map_append, List.count_append, List.map_singleton,
    List.count_singleton]
  simp only [beq_iff_eq]
  omega

end Answering

section Reachable

variable {worker : Worker} {queue : List (Option Message)} {m : Message}

theorem reachable_sentinel : reachable worker (queue ++ [none]) = reachable worker queue := by
  have hsame : ((queue ++ [none]).takeWhile Option.isSome) = queue.takeWhile Option.isSome := by
    rw [List.takeWhile_append]
    split
    · rename_i hall
      rw [List.takeWhile_cons_of_neg (by simp), List.append_nil]
      exact (List.takeWhile_sublist _ |>.eq_of_length hall).symm
    · rfl
  cases worker with
  | gone => rfl
  | idle => exact congrArg List.reduceOption hsame
  | busy _ => exact congrArg List.reduceOption hsame

/-- In front of the sentinel. -/
theorem reachable_enqueue (hworker : worker ≠ .gone) (hqueue : none ∉ queue) :
    reachable worker (queue ++ [some m]) = reachable worker queue ++ [m] := by
  have hall : ∀ queue' : List (Option Message), none ∉ queue' →
      queue'.takeWhile Option.isSome = queue' := by
    intro queue' hnone
    apply List.takeWhile_eq_self_iff.mpr
    intro x hx
    cases x with
    | none => exact absurd hx hnone
    | some _ => rfl
  have hafter : none ∉ queue ++ [some m] := by simp [hqueue]
  have hlist : ((queue ++ [some m]).takeWhile Option.isSome).reduceOption =
      (queue.takeWhile Option.isSome).reduceOption ++ [m] := by
    rw [hall _ hafter, hall _ hqueue, List.reduceOption_append]
    rfl
  cases worker with
  | gone => exact absurd rfl hworker
  | idle => exact hlist
  | busy _ => exact hlist

/-- Behind it. -/
theorem reachable_behind (hstopped : worker = .gone ∨ none ∈ queue) (x : Option Message) :
    reachable worker (queue ++ [x]) = reachable worker queue := by
  have hsame (hin : none ∈ queue) :
      (queue ++ [x]).takeWhile Option.isSome = queue.takeWhile Option.isSome := by
    rw [List.takeWhile_append, if_neg]
    intro hlen
    have hself := List.takeWhile_sublist Option.isSome |>.eq_of_length hlen
    have hsome := List.takeWhile_eq_self_iff.mp hself none hin
    cases hsome
  rcases hstopped with rfl | hin
  · rfl
  · cases worker with
    | gone => rfl
    | idle => exact congrArg List.reduceOption (hsame hin)
    | busy _ => exact congrArg List.reduceOption (hsame hin)

end Reachable

/-! ## What holds in every run -/

structure Tracked (strOf : Value → String) (c : JsonRpcConnection) : Prop where
  correlated : Correlated strOf c.pending c.completed c.history
  registered : ∀ method, c.ordered method = orderedBy c.history method
  worked : Worked strOf c.worker c.queue c.runs c.history
  sentinel : c.closed = true ↔ c.worker = .gone ∨ none ∈ c.queue
  reading : c.reading = true → c.inputEnded = false

theorem orderedBy_hear {history : List Input} {x : Input}
    (hx : ∀ method ordered, x ≠ .register method ordered) (method : String) :
    orderedBy (history ++ [x]) method = orderedBy history method := by
  unfold orderedBy
  rw [List.foldl_append]
  cases x with
  | register method' ordered => exact absurd rfl (hx method' ordered)
  | line _ => rfl
  | request _ => rfl
  | leave _ => rfl
  | failed => rfl

theorem orderedBy_register (history : List Input) (method : String) (ordered : Bool)
    (method' : String) : orderedBy (history ++ [.register method ordered]) method' =
      if method = method' then ordered else orderedBy history method' := by
  unfold orderedBy
  rw [List.foldl_append]
  rfl

/-! ## One line -/

section Lines

variable (c : JsonRpcConnection) {fields : Fields} {value : Value}

theorem readLine_request (hrequest : isRequest fields = true) :
    c.readLine strOf (.json (.obj fields)) =
      (c.hear (.line (.json (.obj fields)))).dispatchRequest strOf ⟨c.history.length, fields⟩ :=
  if_pos hrequest

theorem readLine_response (hresponse : isRequest fields = false) :
    c.readLine strOf (.json (.obj fields)) =
      (c.hear (.line (.json (.obj fields)))).dispatchResponse strOf c.history.length fields := by
  show (if isRequest fields = true then _ else _) = _
  rw [hresponse]
  rfl

theorem readLine_noDict (hvalue : value.asDict = none) :
    c.readLine strOf (.json value) = (c.hear (.line (.json value))).readerDies := by
  cases value with
  | obj fields => cases hvalue
  | null => rfl
  | bool _ => rfl
  | num _ => rfl
  | str _ => rfl
  | arr _ => rfl

theorem not_ends_noDict (hvalue : value.asDict = none) (id : String) :
    ¬ ends strOf id (.line (.json value)) := by
  cases value with
  | obj fields => cases hvalue
  | null => exact fun hends => hends
  | bool _ => exact fun hends => hends
  | num _ => exact fun hends => hends
  | str _ => exact fun hends => hends
  | arr _ => exact fun hends => hends

theorem isOrdered_noDict (hvalue : value.asDict = none) (before : List Input) :
    isOrdered strOf before (.line (.json value)) = false := by
  cases value with
  | obj fields => cases hvalue
  | null => rfl
  | bool _ => rfl
  | num _ => rfl
  | str _ => rfl
  | arr _ => rfl

theorem eq_obj_of_asDict (hvalue : value.asDict = some fields) : value = .obj fields := by
  cases value with
  | obj _ =>
    cases hvalue
    rfl
  | null => cases hvalue
  | bool _ => cases hvalue
  | num _ => cases hvalue
  | str _ => cases hvalue
  | arr _ => cases hvalue

end Lines

namespace Tracked

variable {c : JsonRpcConnection} {fields : Fields}

/-- A line that is about no request, and asks for nothing. -/
theorem hear (h : Tracked strOf c) {line : Line} (hends : ∀ id, ¬ ends strOf id (.line line))
    (hordered : isOrdered strOf c.history (.line line) = false) :
    Tracked strOf (c.hear (.line line)) where
  correlated := h.correlated.silent (fun _ => Input.noConfusion) hends
  registered := fun method =>
    (h.registered method).trans (orderedBy_hear (fun _ _ => Input.noConfusion) method).symm
  worked := h.worked.hear hordered
  sentinel := h.sentinel
  reading := h.reading

theorem failPending (h : Tracked strOf c) : Tracked strOf c.failPending where
  correlated := h.correlated.failed
  registered := fun method =>
    (h.registered method).trans (orderedBy_hear (fun _ _ => Input.noConfusion) method).symm
  worked := (h.worked.hear rfl).sentinel
  sentinel := iff_of_true rfl (.inr (List.mem_append_right _ List.mem_cons_self))
  reading := h.reading

theorem readerDies (h : Tracked strOf c) : Tracked strOf c.readerDies :=
  ⟨h.failPending.correlated, h.failPending.registered, h.failPending.worked,
    h.failPending.sentinel, nofun⟩

theorem endOfInput (h : Tracked strOf c) : Tracked strOf c.endOfInput :=
  ⟨h.failPending.correlated, h.failPending.registered, h.failPending.worked,
    h.failPending.sentinel, nofun⟩

theorem close (h : Tracked strOf c) : Tracked strOf c.close := by
  unfold JsonRpcConnection.close
  split
  · exact h
  · exact h.failPending

theorem isOrdered_eq (h : Tracked strOf c) (hrequest : isRequest fields = true) :
    isOrdered strOf c.history (.line (.json (.obj fields))) =
      c.ordered (textOf strOf fields "method") := by
  rw [h.registered]
  show (isRequest fields && _) = _
  rw [hrequest, Bool.true_and]

theorem dispatchRequest (h : Tracked strOf c) (hrequest : isRequest fields = true) :
    Tracked strOf ((c.hear (.line (.json (.obj fields)))).dispatchRequest strOf
      ⟨c.history.length, fields⟩) := by
  have hends : ∀ id, ¬ ends strOf id (.line (.json (.obj fields))) := by
    intro id hends
    rw [hends.1] at hrequest
    cases hrequest
  have hordered := h.isOrdered_eq hrequest
  unfold JsonRpcConnection.dispatchRequest
  cases hmethod : c.ordered (textOf strOf fields "method") with
  | false =>
    rw [hmethod] at hordered
    rw [if_neg (by simp [JsonRpcConnection.hear, hmethod])]
    have hheard := h.hear hends hordered
    exact ⟨hheard.correlated, hheard.registered, hheard.worked, hheard.sentinel, hheard.reading⟩
  | true =>
    rw [hmethod] at hordered
    rw [if_pos (by simp [JsonRpcConnection.hear, hmethod])]
    refine ⟨h.correlated.silent (fun _ => Input.noConfusion) hends,
      fun method =>
    (h.registered method).trans (orderedBy_hear (fun _ _ => Input.noConfusion) method).symm,
      h.worked.enqueue hordered fields, ?_, h.reading⟩
    show c.closed = true ↔ c.worker = .gone ∨ none ∈ c.queue ++ [some _]
    rw [h.sentinel, List.mem_append]
    simp

theorem dispatchResponse (h : Tracked strOf c) (hresponse : isRequest fields = false) :
    Tracked strOf ((c.hear (.line (.json (.obj fields)))).dispatchResponse strOf
      c.history.length fields) := by
  have hworked := h.worked.hear (x := .line (.json (.obj fields))) (by
    show (isRequest fields && _) = false
    rw [hresponse, Bool.false_and])
  have hregistered : ∀ method, c.ordered method =
      orderedBy (c.history ++ [.line (.json (.obj fields))]) method :=
    fun method =>
    (h.registered method).trans (orderedBy_hear (fun _ _ => Input.noConfusion) method).symm
  show Tracked strOf (if textOf strOf fields "id" ∈ c.pending then _ else _)
  split
  · rename_i hin
    exact ⟨h.correlated.response hresponse hin, hregistered, hworked, h.sentinel, h.reading⟩
  · rename_i hnone
    exact ⟨h.correlated.stray hnone, hregistered, hworked, h.sentinel, h.reading⟩

theorem readLine (h : Tracked strOf c) (line : Line) : Tracked strOf (c.readLine strOf line) := by
  cases line with
  | blank => exact h.hear (fun _ hends => hends) rfl
  | malformed => exact h.hear (fun _ hends => hends) rfl
  | unreadable =>
    have hheard : Tracked strOf (c.hear (.line .unreadable)) := h.hear (fun _ hends => hends) rfl
    exact hheard.readerDies
  | json value =>
    cases hvalue : value.asDict with
    | none =>
      rw [readLine_noDict c hvalue]
      exact (h.hear (not_ends_noDict hvalue) (isOrdered_noDict hvalue _)).readerDies
    | some fields =>
      obtain rfl := eq_obj_of_asDict hvalue
      cases hrequest : isRequest fields with
      | true =>
        rw [readLine_request c hrequest]
        exact h.dispatchRequest hrequest
      | false =>
        rw [readLine_response c hrequest]
        exact h.dispatchResponse hrequest

theorem register (h : Tracked strOf c) (method : String) (ordered : Bool) :
    Tracked strOf { c.hear (.register method ordered) with
      ordered := Function.update c.ordered method ordered } where
  correlated := h.correlated.silent (fun _ => Input.noConfusion) fun _ hends => hends
  registered := fun method' => by
    show Function.update c.ordered method ordered method' = orderedBy (c.history ++ [_]) method'
    rw [orderedBy_register, ← h.registered]
    by_cases heq : method = method'
    · subst heq
      rw [Function.update_self, if_pos rfl]
    · rw [Function.update_of_ne (Ne.symm heq), if_neg heq]
  worked := h.worked.hear rfl
  sentinel := h.sentinel
  reading := h.reading

theorem take (h : Tracked strOf c) {c' : JsonRpcConnection}
    (hstep : JsonRpc.step strOf c .take = some c') : Tracked strOf c' := by
  have hworked := h.worked
  have hsentinel := h.sentinel
  simp only [JsonRpc.step] at hstep
  split at hstep
  · rename_i rest hidle hqueue
    cases hstep
    rw [hidle, hqueue] at hworked hsentinel
    refine ⟨h.correlated, h.registered, hworked.stop, ?_, h.reading⟩
    exact iff_of_true (hsentinel.mpr (.inr List.mem_cons_self)) (.inl rfl)
  · rename_i m rest hidle hqueue
    cases hstep
    rw [hidle, hqueue] at hworked hsentinel
    refine ⟨h.correlated, h.registered, hworked.start, ?_, h.reading⟩
    show c.closed = true ↔ Worker.busy m = .gone ∨ none ∈ rest
    rw [hsentinel]
    simp
  · cases hstep

theorem finish (h : Tracked strOf c) {m : Message} (hbusy : c.worker = .busy m)
    (outcome : Outcome) :
    Tracked strOf { c.respond m outcome with
      worker := .idle, runs := c.runs ++ [.ended m.place] } := by
  have hworked := h.worked
  have hsentinel := h.sentinel
  rw [hbusy] at hworked hsentinel
  refine ⟨h.correlated, h.registered, hworked.finish, ?_, h.reading⟩
  show c.closed = true ↔ Worker.idle = .gone ∨ none ∈ c.queue
  rw [hsentinel]
  simp

/-- The step lemma. -/
theorem step (h : Tracked strOf c) {action : Action} {c' : JsonRpcConnection}
    (hstep : JsonRpc.step strOf c action = some c') : Tracked strOf c' := by
  cases action with
  | line line =>
    simp only [JsonRpc.step, Option.ite_none_right_eq_some] at hstep
    obtain ⟨-, heq⟩ := hstep
    cases heq
    exact h.readLine line
  | endOfInput =>
    simp only [JsonRpc.step, Option.ite_none_right_eq_some] at hstep
    obtain ⟨-, heq⟩ := hstep
    cases heq
    exact h.endOfInput
  | register method ordered =>
    cases hstep
    exact h.register method ordered
  | request id =>
    simp only [JsonRpc.step, Option.ite_none_left_eq_some] at hstep
    obtain ⟨hfresh, heq⟩ := hstep
    cases heq
    have hnew : .request id ∉ c.history := by
      intro hin
      exact hfresh (List.any_eq_true.mpr ⟨_, hin, by simp⟩)
    exact ⟨h.correlated.request hnew,
      fun method =>
    (h.registered method).trans (orderedBy_hear (fun _ _ => Input.noConfusion) method).symm,
      h.worked.hear rfl, h.sentinel, h.reading⟩
  | leave id =>
    cases hstep
    exact ⟨h.correlated.leave,
      fun method =>
    (h.registered method).trans (orderedBy_hear (fun _ _ => Input.noConfusion) method).symm,
      h.worked.hear rfl, h.sentinel, h.reading⟩
  | close =>
    cases hstep
    exact h.close
  | take => exact h.take hstep
  | finish outcome =>
    simp only [JsonRpc.step] at hstep
    split at hstep
    · rename_i m hbusy
      cases hstep
      exact h.finish hbusy outcome
    · cases hstep
  | answer index outcome =>
    obtain ⟨m, -, rfl⟩ := Option.map_eq_some_iff.mp hstep
    exact ⟨h.correlated, h.registered, h.worked, h.sentinel, h.reading⟩

end Tracked

end NexusN3.Plugins.JsonRpc
