import NexusN3.Plugins.ReaderLoop

/-!
# Runs of a connection

* **`good_iff`** — of what is promised, two things depend on the lines that come.
* **`lawful_step_iff`** — the step; **`lawful_iff_survives`** is about whole runs.
-/

namespace NexusN3.Plugins.JsonRpc

open Lib

variable {strOf : Value → String} {c : JsonRpcConnection}

/-- The request in hand, the one in front of the queue or the first of the threads. -/
theorem unanswered_live (hunanswered : c.unanswered ≠ []) : (step strOf c .take).isSome = true ∨
    ∀ outcome, (step strOf c (.finish outcome)).isSome = true ∨
      (step strOf c (.answer 0 outcome)).isSome = true := by
  by_contra hstuck
  push Not at hstuck
  obtain ⟨htake, outcome, hfinish, hanswer⟩ := hstuck
  apply hunanswered
  have hthreads : c.threads = [] := by
    cases hthreads : c.threads with
    | nil => rfl
    | cons m ms => simp [step, hthreads] at hanswer
  have hworker : c.worker.toList ++ reachable c.worker c.queue = [] := by
    cases hworker : c.worker with
    | busy m => simp [step, hworker] at hfinish
    | gone => rfl
    | idle =>
      cases hqueue : c.queue with
      | nil => rfl
      | cons x rest =>
        cases x with
        | none => rfl
        | some m => simp [step, hworker, hqueue] at htake
  unfold JsonRpcConnection.unanswered
  rw [hworker, hthreads]
  rfl

theorem good_iff (h : Tracked strOf c) : Good strOf c ↔
    (c.reading = true ∨ c.inputEnded = true) ∧
      Answering c.replies c.unanswered c.history := by
  constructor
  · exact fun hgood => ⟨hgood.reads, hgood.answered⟩
  · rintro ⟨hreads, hanswered⟩
    exact ⟨hreads, h.correlated.completions, h.correlated.once, hanswered, unanswered_live,
      h.worked.inOrder⟩

/-! ## Steps that only move requests on -/

section Steps

variable {m : Message} {fields : Fields}

theorem asked_append (ms ms' : List Message) : asked (ms ++ ms') = asked ms ++ asked ms' := by
  unfold asked
  rw [List.filter_append, List.map_append]

theorem count_asked_append (ms ms' : List Message) (n : Nat) :
    (asked (ms ++ ms')).count n = (asked ms).count n + (asked ms').count n := by
  rw [asked_append, List.count_append]

theorem count_asked_singleton (m : Message) (n : Nat) :
    (asked [m]).count n = if hasId m.fields = true ∧ m.place = n then 1 else 0 := by
  unfold asked
  cases hid : hasId m.fields with
  | true => simp [hid, List.count_singleton]
  | false => simp [hid]

theorem Answering.respond_asked (h : Answering c.replies c.unanswered c.history)
    {unanswered' : List Nat} (outcome : Outcome)
    (hcount : ∀ n, c.unanswered.count n = unanswered'.count n + (asked [m]).count n) :
    Answering (c.respond m outcome).replies unanswered' (c.respond m outcome).history := by
  show Answering (if hasId m.fields then _ else _) _ _
  cases hid : hasId m.fields with
  | true =>
    rw [if_pos rfl]
    apply h.respond
    intro n
    rw [hcount, count_asked_singleton, hid]
    simp only [true_and]
  | false =>
    rw [if_neg Bool.false_ne_true]
    intro n
    have hsame := hcount n
    rw [count_asked_singleton, hid, if_neg (by simp), Nat.add_zero] at hsame
    rw [← hsame]
    exact h n

theorem answering_failPending (h : Answering c.replies c.unanswered c.history) :
    Answering c.failPending.replies c.failPending.unanswered c.failPending.history := by
  have hsame : c.failPending.unanswered = c.unanswered := by
    show asked (_ ++ reachable c.worker (c.queue ++ [none]) ++ _) = _
    rw [reachable_sentinel]
    rfl
  rw [hsame]
  exact h.hear rfl

theorem answering_take (h : Answering c.replies c.unanswered c.history) {c' : JsonRpcConnection}
    (hstep : step strOf c .take = some c') : Answering c'.replies c'.unanswered c'.history := by
  have hbefore : c.unanswered =
      asked (c.worker.toList ++ reachable c.worker c.queue ++ c.threads) := rfl
  simp only [step] at hstep
  split at hstep
  · rename_i rest hidle hqueue
    cases hstep
    rw [hidle, hqueue] at hbefore
    rw [hbefore] at h
    exact h
  · rename_i m rest hidle hqueue
    cases hstep
    rw [hidle, hqueue] at hbefore
    rw [hbefore] at h
    exact h
  · cases hstep

theorem answering_finish (h : Answering c.replies c.unanswered c.history)
    (hbusy : c.worker = .busy m) (outcome : Outcome) :
    Answering (c.respond m outcome).replies
      (asked (Worker.idle.toList ++ reachable .idle c.queue ++ c.threads))
      (c.respond m outcome).history := by
  apply h.respond_asked
  intro n
  unfold JsonRpcConnection.unanswered
  rw [hbusy]
  show (asked ([m] ++ reachable .idle c.queue ++ c.threads)).count n =
    (asked (reachable .idle c.queue ++ c.threads)).count n + _
  rw [List.append_assoc, count_asked_append]
  omega

theorem answering_answer (h : Answering c.replies c.unanswered c.history) {index : Nat}
    (hm : c.threads[index]? = some m) (outcome : Outcome) :
    Answering (c.respond m outcome).replies
      (asked (c.worker.toList ++ reachable c.worker c.queue ++ c.threads.eraseIdx index))
      (c.respond m outcome).history := by
  obtain ⟨hlt, rfl⟩ := List.getElem?_eq_some_iff.mp hm
  apply h.respond_asked
  intro n
  have hperm : (asked c.threads).count n =
      (asked [c.threads[index]]).count n + (asked (c.threads.eraseIdx index)).count n := by
    rw [← count_asked_append]
    apply List.Perm.count_eq
    exact ((List.getElem_cons_eraseIdx_perm hlt).symm.filter _).map _
  unfold JsonRpcConnection.unanswered
  rw [count_asked_append, count_asked_append (c.worker.toList ++ _), hperm]
  omega

/-! ## One line -/

theorem asks_request (hrequest : isRequest fields = true) :
    (Input.line (.json (.obj fields))).asks = hasId fields := by
  show (isRequest fields && hasId fields) = _
  rw [hrequest, Bool.true_and]

/-- A request is among those that still get an answer, unless the sentinel stops the worker before
it. -/
theorem answering_request_iff (h : Tracked strOf c)
    (hanswered : Answering c.replies c.unanswered c.history) (hrequest : isRequest fields = true) :
    Answering (c.readLine strOf (.json (.obj fields))).replies
        (c.readLine strOf (.json (.obj fields))).unanswered
        (c.readLine strOf (.json (.obj fields))).history ↔
      (hasId fields = true → c.ordered (textOf strOf fields "method") = true →
        c.closed = false) := by
  have hone (n : Nat) := count_asked_singleton ⟨c.history.length, fields⟩ n
  -- with the request at hand, all that came is accounted for
  have hadded {unanswered : List Nat} (hsum : ∀ n, unanswered.count n =
      c.unanswered.count n + (asked [⟨c.history.length, fields⟩]).count n) :
      Answering c.replies unanswered (c.history ++ [.line (.json (.obj fields))]) := by
    rw [answering_ask_iff hanswered, hsum, hone, asks_request hrequest]
    · simp
    · intro n hn
      rw [hsum, hone, if_neg fun hboth => hn hboth.2.symm, Nat.add_zero]
  rw [readLine_request c hrequest]
  unfold JsonRpcConnection.dispatchRequest
  cases hmethod : c.ordered (textOf strOf fields "method") with
  | false =>
    rw [if_neg (by simp [JsonRpcConnection.hear, hmethod])]
    refine iff_of_true (hadded fun n => ?_) fun _ heq => by cases heq
    show (asked (_ ++ (c.threads ++ [_]))).count n = _
    rw [← List.append_assoc, count_asked_append]
    rfl
  | true =>
    rw [if_pos (by simp [JsonRpcConnection.hear, hmethod])]
    unfold JsonRpcConnection.unanswered
    dsimp only [JsonRpcConnection.hear]
    cases hclosed : c.closed with
    | false =>
      have hfree : ¬ (c.worker = .gone ∨ none ∈ c.queue) := by
        rw [← h.sentinel, hclosed]
        exact Bool.false_ne_true
      refine iff_of_true (hadded fun n => ?_) fun _ _ => rfl
      rw [reachable_enqueue (fun hgone => hfree (.inl hgone)) fun hin => hfree (.inr hin)]
      unfold JsonRpcConnection.unanswered
      simp only [count_asked_append]
      omega
    | true =>
      rw [reachable_behind (h.sentinel.mp hclosed)]
      have hsame := answering_ask_iff (x := .line (.json (.obj fields))) hanswered fun _ _ => rfl
      rw [asks_request hrequest] at hsame
      refine hsame.trans ?_
      cases hasId fields with
      | true => simp
      | false => simp

theorem good_readLine_iff (h : Tracked strOf c) (hgood : Good strOf c) (hreading : c.reading = true)
    (line : Line) : Good strOf (c.readLine strOf line) ↔ c.survives strOf line := by
  have hafter := h.readLine line
  have hanswered := hgood.answered
  rw [good_iff hafter]
  have hdies {c' : JsonRpcConnection} (hended : c'.inputEnded = c.inputEnded) :
      ¬ (c'.readerDies.reading = true ∨ c'.readerDies.inputEnded = true) := by
    rintro (hread | hend)
    · cases hread
    · have hnot := h.reading hreading
      rw [← hended] at hnot
      exact absurd hend (by rw [show c'.readerDies.inputEnded = c'.inputEnded from rfl, hnot]; simp)
  cases line with
  | blank => exact iff_of_true ⟨.inl hreading, Answering.hear hanswered rfl⟩ trivial
  | malformed => exact iff_of_true ⟨.inl hreading, Answering.hear hanswered rfl⟩ trivial
  | unreadable => exact iff_of_false (fun hboth => hdies rfl hboth.1) id
  | json value =>
    cases hvalue : value.asDict with
    | none =>
      rw [readLine_noDict c hvalue]
      refine iff_of_false (fun hboth => hdies rfl hboth.1) ?_
      cases value with
      | obj fields => cases hvalue
      | null => exact id
      | bool _ => exact id
      | num _ => exact id
      | str _ => exact id
      | arr _ => exact id
    | some fields =>
      obtain rfl := eq_obj_of_asDict hvalue
      cases hrequest : isRequest fields with
      | true =>
        have hreads : (c.readLine strOf (.json (.obj fields))).reading = true := by
          rw [readLine_request c hrequest]
          unfold JsonRpcConnection.dispatchRequest
          split
          · exact hreading
          · exact hreading
        rw [and_iff_right (.inl hreads), answering_request_iff h hanswered hrequest]
        exact ⟨fun hok _ => hok, fun hok => hok hrequest⟩
      | false =>
        refine iff_of_true ?_ fun hreq => absurd hreq (by simp [hrequest])
        rw [readLine_response c hrequest]
        have hsame : Answering c.replies c.unanswered
            (c.history ++ [.line (.json (.obj fields))]) := by
          apply Answering.hear hanswered
          show (isRequest fields && _) = false
          rw [hrequest, Bool.false_and]
        by_cases hin : textOf strOf fields "id" ∈ c.pending
        · rw [show (c.hear (.line (.json (.obj fields)))).dispatchResponse strOf c.history.length
            fields = _ from if_pos hin]
          exact ⟨.inl hreading, hsame⟩
        · rw [show (c.hear (.line (.json (.obj fields)))).dispatchResponse strOf c.history.length
            fields = _ from if_neg hin]
          exact ⟨.inl hreading, hsame⟩

/-- A line that is to be ignored, and that the loop gets over, is ignored. -/
theorem readLine_ignored {line : Line} (hignores : c.ignores strOf line)
    (hsurvives : c.survives strOf line) : c.readLine strOf line = c.hear (.line line) := by
  cases line with
  | blank => rfl
  | malformed => rfl
  | unreadable => cases hsurvives
  | json value =>
    cases value with
    | obj fields =>
      rw [readLine_response c hignores.1]
      exact if_neg hignores.2
    | null => cases hsurvives
    | bool _ => cases hsurvives
    | num _ => cases hsurvives
    | str _ => cases hsurvives
    | arr _ => cases hsurvives

/-- What the steps keep that read no line. -/
theorem good_other (h : Tracked strOf c) (hgood : Good strOf c) {action : Action}
    (hline : ∀ line, action ≠ .line line) {c' : JsonRpcConnection}
    (hstep : step strOf c action = some c') : Good strOf c' := by
  have hafter := h.step hstep
  have hanswered := hgood.answered
  rw [good_iff hafter]
  cases action with
  | line line => exact absurd rfl (hline line)
  | endOfInput =>
    simp only [step, Option.ite_none_right_eq_some] at hstep
    obtain ⟨-, heq⟩ := hstep
    cases heq
    exact ⟨.inr rfl, answering_failPending hanswered⟩
  | register method ordered =>
    cases hstep
    exact ⟨hgood.reads, Answering.hear hanswered rfl⟩
  | request id =>
    simp only [step, Option.ite_none_left_eq_some] at hstep
    obtain ⟨-, heq⟩ := hstep
    cases heq
    exact ⟨hgood.reads, Answering.hear hanswered rfl⟩
  | leave id =>
    cases hstep
    exact ⟨hgood.reads, Answering.hear hanswered rfl⟩
  | close =>
    cases hstep
    unfold JsonRpcConnection.close
    split
    · exact ⟨hgood.reads, hanswered⟩
    · exact ⟨hgood.reads, answering_failPending hanswered⟩
  | take =>
    have hnext := answering_take hanswered hstep
    simp only [step] at hstep
    split at hstep
    · cases hstep
      exact ⟨hgood.reads, hnext⟩
    · cases hstep
      exact ⟨hgood.reads, hnext⟩
    · cases hstep
  | finish outcome =>
    simp only [step] at hstep
    split at hstep
    · rename_i m hbusy
      cases hstep
      exact ⟨hgood.reads, answering_finish hanswered hbusy outcome⟩
    · cases hstep
  | answer index outcome =>
    obtain ⟨m, hm, rfl⟩ := Option.map_eq_some_iff.mp hstep
    exact ⟨hgood.reads, answering_answer hanswered hm outcome⟩

/-- The step lemma: exactly the lines that the loop gets over lead on as promised. -/
theorem lawful_step_iff (h : Tracked strOf c) (hgood : Good strOf c) (action : Action) :
    (∀ c', step strOf c action = some c' → Lawful strOf c action c') ↔ spares strOf c action := by
  by_cases hline : ∃ line, action = .line line
  · obtain ⟨line, rfl⟩ := hline
    cases hreading : c.reading with
    | false =>
      refine iff_of_true (fun c' hstep => ?_) fun hread => by simp [hreading] at hread
      simp only [step, hreading] at hstep
      cases hstep
    | true =>
      have hiff := good_readLine_iff h hgood hreading line
      have hstep : step strOf c (.line line) = some (c.readLine strOf line) := if_pos hreading
      constructor
      · intro hlawful _
        exact hiff.mp (hlawful _ hstep).1
      · intro hsurvives c' hstep'
        cases hstep.symm.trans hstep'
        refine ⟨hiff.mpr (hsurvives hreading), ?_⟩
        rintro _ ⟨⟩ hignores
        exact readLine_ignored hignores (hsurvives hreading)
  · have hother : ∀ line, action ≠ .line line := fun line heq => hline ⟨line, heq⟩
    refine iff_of_true (fun c' hstep => ⟨good_other h hgood hother hstep, ?_⟩) ?_
    · exact fun line heq => absurd heq (hother line)
    · cases action with
      | line line => exact absurd rfl (hother line)
      | endOfInput => trivial
      | register _ _ => trivial
      | request _ => trivial
      | leave _ => trivial
      | close => trivial
      | take => trivial
      | finish _ => trivial
      | answer _ _ => trivial

theorem tracked_init : Tracked strOf init where
  correlated := {
    outstanding := fun _ => iff_of_false (Finset.notMem_empty _) not_standing_nil
    completions := fun _ _ => iff_of_false List.not_mem_nil fun ⟨_, hnone, _⟩ => by cases hnone
    once := List.nodup_nil
    known := nofun
    settled := nofun }
  registered := fun _ => rfl
  worked := ⟨[], rfl, rfl⟩
  sentinel := iff_of_false Bool.false_ne_true (by simp [init])
  reading := fun _ => rfl

theorem good_init : Good strOf init :=
  (good_iff tracked_init).mpr ⟨.inl rfl, fun _ => rfl⟩

end Steps

/-- **Reading on.** The reader gets to the end of the input, nothing but the first response of a
request completes it, and all requests are answered, the ordered ones in order, exactly in the runs
in which the loop gets over each line. -/
theorem lawful_iff_survives (strOf : Value → String) (actions : List Action) :
    Machine.Along (step strOf)
        (fun c action => ∀ c', step strOf c action = some c' → Lawful strOf c action c') init
        actions ↔
      Machine.Along (step strOf) (spares strOf) init actions :=
  Machine.along_iff_along tracked_init good_init (fun _ _ _ h hstep => h.step hstep)
    (fun _ action h hgood => lawful_step_iff h hgood action) fun _ _ _ hlawful => hlawful.1

/-- A number on a line of its own ends the loop. -/
theorem not_lawful_number : ¬ ∀ (strOf : Value → String) (actions : List Action),
    Machine.Along (step strOf)
      (fun c action => ∀ c', step strOf c action = some c' → Lawful strOf c action c') init
      actions := by
  intro hall
  have hspares := (lawful_iff_survives (fun _ => "") _).mp
    (hall (fun _ => "") [.line (.json (.num (.int 5)))])
  exact hspares.1 rfl

end NexusN3.Plugins.JsonRpc
