import NexusN3.Bridge.Methods

/-!
# One direct method and its waiter

A method by itself: what comes for it, what it reads, and what it is answered with. The other
thread is seen as what it holds in hand for the method.

* **`Handling.admits`**, **`Handling.admitsEvent`** — the condition on one step.
* **`Handling.Awaits`** — what a method that waits has on its queue and in the hand of the other
  thread is what has come for it; **`Handling.Settled`** is what is left of that when it reads no
  more.
* **`Handling.Sound.hear`**, **`Handling.Sound.put`**, **`Handling.Sound.turn`** — events and steps
  keep the invariant.
* **`Handling.Sound.ends`** — the method comes to its end by steps of its own.
-/

namespace NexusN3.Bridge.Methods

open Lib
open Messaging (evtError evtControlCenterMessage)

/-! ## The condition on one step -/

/-- The payload of an allowed method is a mapping, and with a method that waits it brings no id of
its own. -/
def CloudMethod.fits (id : String) (method : CloudMethod) : Bool :=
  match methodNameToCommand.lookup method.name with
  | none => true
  | some type =>
    if method.name = evtControlCenterMessage then method.payload.asDict.isSome
    else
      match method.payload.asUpdates with
      | none => false
      | some items =>
        !awaitsReply type ||
          items.all fun f => !f.1.isText "correlation_id" || f.2.isText id

namespace Handling

/-- What is on its way to a method, oldest first; `hand` is what the thread of local events holds
for it. -/
def unread (r : Handling) (hand : List Capture) : List Capture := r.queue.toList ++ hand

/-- An answer that came in time is still on its way. -/
def answerUnread (r : Handling) (hand : List Capture) : Bool :=
  r.command.any fun command =>
    (r.unread hand).any fun u => u.inTime && isReply command.type u.event

/-- The command and the response are sent; reading ends without a reply only when no answer that
came in time is on its way and no put is held up; and what is read has a type with a hash. -/
def admits (r : Handling) (hand : List Capture) : Turn → Bool
  | .published sent | .respond sent => sent
  | .check =>
    !r.expired || !(r.answerUnread hand || r.queue.isSome && !hand.isEmpty)
  | .giveUp => !r.answerUnread hand
  | .get => r.queue.all fun u => (Value.get u.event "type").hashable
  | .expire | .unregister => true

/-- An event for a method does not come when its queue is full and read no more, and an answer in
time does not come when the event loop has ended. -/
def admitsEvent (r : Handling) (listener : Listener) (event : Fields) : Bool :=
  match listener with
  | .dead =>
    !(r.registered && !r.stage.readerGone && !r.expired &&
      r.command.any fun command => isReply command.type event)
  | _ =>
    !(r.registered && r.stage.readerGone && r.queue.isSome &&
      (Value.get event "type").truthy)

end Handling

/-- The handler has come to its end. -/
def Stage.ended : Stage → Bool
  | .done | .raised => true
  | _ => false

/-! ## What holds while a method waits -/

/-- The event answers a command whose id is the key of its waiter. -/
def answers (c : Messaging.Command) (id : String) (event : Fields) : Bool :=
  (correlationOf event).isText id && isReply c event

namespace Handling

/-- The answers that came in time. -/
def timely (c : Messaging.Command) (id : String) (r : Handling) : List Fields :=
  r.inTime.filter (answers c id)

structure Awaits (id : String) (c : Messaging.Command) (hand : List Capture) (r : Handling) :
    Prop where
  came : ∀ u ∈ r.unread hand, u.event ∈ r.heard ∧ correlationOf u.event = .str id
  kept : r.timely c id =
    (((r.unread hand).filter Capture.inTime).map Capture.event).filter (answers c id)
  fresh : r.expired = false → ∀ u ∈ r.unread hand, u.inTime = true
  order : (r.unread hand).Pairwise fun a b => b.inTime = true → a.inTime = true

/-- What a method that reads no more has come to. -/
def Settled (id : String) (c : Messaging.Command) (r : Handling) : Option Fields → Prop
  | some event => event ∈ r.heard ∧ answers c id event = true ∧
      ((r.timely c id).head? = some event ∨ r.expired = true ∧ r.timely c id = [])
  | none => r.expired = true ∧ r.timely c id = []

/-- Where the response comes from. -/
def Given (id : String) (r : Handling) (response : Response) : Prop :=
  ∀ command, r.command = some command → awaitsReply command.type = true →
    ∃ reply, r.Settled id command.type reply ∧ response = methodResponse command.type id reply

def Reading (id : String) (hand : List Capture) (r : Handling) : Prop :=
  ∃ command, r.command = some command ∧ r.registered = awaitsReply command.type ∧
    (r.registered = true → r.Awaits id command.type hand)

/-- The invariant, stage by stage. -/
def Kept (id : String) (hand : List Capture) (r : Handling) : Stage → Prop
  | .publishing => r.responses = [] ∧ r.Reading id hand
  | .waiting | .getting => r.responses = [] ∧ r.Reading id hand ∧ r.registered = true
  | .ending reply => r.responses = [] ∧
      ∃ command, r.command = some command ∧ r.Settled id command.type reply
  | .answering response => r.responses = [] ∧ r.Given id response
  | .done => ∃ response, r.responses = [response] ∧ r.Given id response
  | .failing | .raised => False

structure Sound (id : String) (hand : List Capture) (r : Handling) : Prop where
  published : ∀ command, r.command = some command → awaitsReply command.type = true →
    command.correlationId = .str id
  kept : r.Kept id hand r.stage

end Handling

/-! ## Events -/

section Events

variable {id : String} {c : Messaging.Command} {hand : List Capture} {r : Handling} {event : Fields}

theorem answers_iff : answers c id event = true ↔
    correlationOf event = .str id ∧ isReply c event = true := by
  rw [answers, Bool.and_eq_true, Value.isText_iff]

/-- A command takes no event without a type. -/
theorem truthy_of_isReply (h : isReply c event = true) :
    (Value.get event "type").truthy = true := by
  have htext : ∀ text : String, text ≠ "" → (Value.get event "type").isText text = true →
      (Value.get event "type").truthy = true := by
    intro text hne htext
    rw [Value.isText_iff] at htext
    simp [htext, Value.truthy, hne]
  unfold isReply at h
  rw [Bool.or_eq_true, List.any_eq_true] at h
  obtain h | ⟨text, hmem, h⟩ := h
  · exact htext evtError (by decide) h
  · refine htext text ?_ h
    rintro rfl
    revert hmem
    cases c <;> decide

namespace Handling

theorem timely_hear : (r.hear event).timely c id = r.timely c id ++
    if r.expired = false ∧ answers c id event = true then [event] else [] := by
  cases hexpired : r.expired <;> cases hanswers : answers c id event <;>
    simp [timely, hear, hexpired, hanswers]

/-- An event that is not for the method, or comes too late. -/
theorem Awaits.hear (h : r.Awaits id c hand)
    (hquiet : r.expired = false → answers c id event = false) :
    (r.hear event).Awaits id c hand := by
  refine ⟨fun u hu => ⟨List.mem_append_left _ (h.came u hu).1, (h.came u hu).2⟩, ?_, h.fresh,
    h.order⟩
  rw [timely_hear, if_neg, List.append_nil]
  · exact h.kept
  · rintro ⟨hexpired, hanswers⟩
    rw [hquiet hexpired] at hanswers
    cases hanswers

/-- An event that the other thread takes for the method. -/
theorem Awaits.capture (h : r.Awaits id c []) (hid : correlationOf event = .str id) :
    (r.hear event).Awaits id c [⟨event, !r.expired⟩] := by
  have hunread : (r.hear event).unread [⟨event, !r.expired⟩] =
      r.unread [] ++ [⟨event, !r.expired⟩] := by
    simp [unread, Handling.hear]
  have hcame := h.came
  have hkept := h.kept
  have hfresh := h.fresh
  have horder := h.order
  refine ⟨fun u hu => ?_, ?_, fun hexpired u hu => ?_, ?_⟩
  · rw [hunread, List.mem_append, List.mem_singleton] at hu
    obtain hu | rfl := hu
    · exact ⟨List.mem_append_left _ (hcame u hu).1, (hcame u hu).2⟩
    · exact ⟨List.mem_append_right _ (List.mem_singleton_self _), hid⟩
  · rw [timely_hear, hunread, hkept]
    cases hexpired : r.expired <;> cases hanswers : answers c id event <;>
      simp [hanswers]
  · have hopen : r.expired = false := hexpired
    rw [hunread, List.mem_append, List.mem_singleton] at hu
    obtain hu | rfl := hu
    · exact hfresh hopen u hu
    · rw [hopen]
      rfl
  · rw [hunread, List.pairwise_append]
    refine ⟨horder, List.pairwise_singleton _ _, fun a ha b hb hin => ?_⟩
    rw [List.mem_singleton.mp hb] at hin
    exact hfresh (Bool.not_eq_true' _ |>.mp hin) a ha

theorem Settled.hear {reply : Option Fields} (h : r.Settled id c reply) :
    (r.hear event).Settled id c reply := by
  have hlate (hexpired : r.expired = true) (hnone : r.timely c id = []) :
      (r.hear event).timely c id = [] := by
    rw [timely_hear, hnone, if_neg (by simp [hexpired]), List.append_nil]
  cases reply with
  | none => exact ⟨h.1, hlate h.1 h.2⟩
  | some e =>
    obtain ⟨hheard, hanswers, hfirst | ⟨hexpired, hnone⟩⟩ := h
    · refine ⟨List.mem_append_left _ hheard, hanswers, .inl ?_⟩
      rw [timely_hear, List.head?_append, hfirst]
      rfl
    · exact ⟨List.mem_append_left _ hheard, hanswers, .inr ⟨hexpired, hlate hexpired hnone⟩⟩

/-- The invariant goes over to a record with the same command and responses. -/
theorem Kept.imp {hand' : List Capture} {r' : Handling} (h : r.Kept id hand r.stage)
    (hcommand : r'.command = r.command) (hresponses : r'.responses = r.responses)
    (hregistered : r'.registered = r.registered)
    (hreading : r.stage.readerGone = false → r.Reading id hand → r'.Reading id hand')
    (hsettled : ∀ c reply, r.Settled id c reply → r'.Settled id c reply) :
    r'.Kept id hand' r.stage := by
  have hgiven (response : Response) (hgiven : r.Given id response) : r'.Given id response := by
    intro command hcommand' hwaits
    obtain ⟨reply, hreply, hresponse⟩ := hgiven command (hcommand ▸ hcommand') hwaits
    exact ⟨reply, hsettled _ _ hreply, hresponse⟩
  cases hstage : r.stage with
  | publishing =>
    rw [hstage] at h hreading
    exact ⟨hresponses.trans h.1, hreading rfl h.2⟩
  | waiting =>
    rw [hstage] at h hreading
    exact ⟨hresponses.trans h.1, hreading rfl h.2.1, hregistered.trans h.2.2⟩
  | getting =>
    rw [hstage] at h hreading
    exact ⟨hresponses.trans h.1, hreading rfl h.2.1, hregistered.trans h.2.2⟩
  | ending reply =>
    rw [hstage] at h
    obtain ⟨hnone, command, hcommand', hreply⟩ := h
    exact ⟨hresponses.trans hnone, command, hcommand.trans hcommand', hsettled _ _ hreply⟩
  | answering response =>
    rw [hstage] at h
    exact ⟨hresponses.trans h.1, hgiven _ h.2⟩
  | done =>
    rw [hstage] at h
    obtain ⟨response, hone, hresponse⟩ := h
    exact ⟨response, hresponses.trans hone, hgiven _ hresponse⟩
  | failing => rwa [hstage] at h
  | raised => rwa [hstage] at h

/-- A method and an event: what the other thread holds afterwards is the event, or still nothing
and then the event does not matter to it. -/
theorem Sound.hear {hand : List Capture} (h : r.Sound id [])
    (hhand : correlationOf event = .str id ∧ hand = [⟨event, !r.expired⟩] ∨
      hand = [] ∧ (r.registered = true → r.stage.readerGone = false → r.expired = false →
        ∀ command, r.command = some command → answers command.type id event = false)) :
    (r.hear event).Sound id hand := by
  refine ⟨h.published, h.kept.imp rfl rfl rfl (fun hopen hreading => ?_)
    fun _ _ hsettled => hsettled.hear⟩
  obtain ⟨command, hcommand, hregistered, hawaits⟩ := hreading
  refine ⟨command, hcommand, hregistered, fun hwaits => ?_⟩
  obtain ⟨hid, rfl⟩ | ⟨rfl, hquiet⟩ := hhand
  · exact (hawaits hwaits).capture hid
  · exact (hawaits hwaits).hear fun hexpired => hquiet hwaits hopen hexpired command hcommand

/-- The event in hand gets onto the queue. -/
theorem Sound.put {capture : Capture} (h : r.Sound id [capture]) (hqueue : r.queue = none) :
    ({ r with queue := some capture } : Handling).Sound id [] := by
  refine ⟨h.published, h.kept.imp rfl rfl rfl (fun _ hreading => ?_) fun _ reply hsettled => ?_⟩
  · obtain ⟨command, hcommand, hregistered, hawaits⟩ := hreading
    refine ⟨command, hcommand, hregistered, fun hwaits => ?_⟩
    obtain ⟨hcame, hkept, hfresh, horder⟩ := hawaits hwaits
    have hunread : r.unread [capture] = [capture] := by rw [unread, hqueue]; rfl
    rw [hunread] at hcame hkept hfresh horder
    exact ⟨hcame, hkept, hfresh, horder⟩
  · cases reply with
    | none => exact hsettled
    | some _ => exact hsettled

end Handling

end Events

/-! ## The steps of a method -/

section Turns

variable {id : String} {c : Messaging.Command} {hand : List Capture} {r r' : Handling}

/-- The loop goes on with an event that is no answer, and ends with an answer. -/
theorem examine_eq {event : Fields} (hhash : (Value.get event "type").hashable = true) :
    examine c event = if isReply c event then .ending (some event) else .waiting := by
  unfold examine isReply
  dsimp only
  by_cases herror : (Value.get event "type").isText evtError = true
  · simp [herror]
  · simp [herror, hhash]

namespace Handling

theorem Reading.setStage (h : r.Reading id hand) (stage : Stage) :
    ({ r with stage := stage } : Handling).Reading id hand := by
  obtain ⟨command, hcommand, hregistered, hawaits⟩ := h
  exact ⟨command, hcommand, hregistered, fun hwaits =>
    ⟨(hawaits hwaits).came, (hawaits hwaits).kept, (hawaits hwaits).fresh,
      (hawaits hwaits).order⟩⟩

/-- The event that is read is the first that is on its way: an answer settles the method. -/
theorem Awaits.get (h : r.Awaits id c hand) {capture : Capture}
    (hqueue : r.queue = some capture) (stage : Stage) :
    if isReply c capture.event then
      ({ r with queue := none, stage := stage } : Handling).Settled id c (some capture.event)
    else ({ r with queue := none, stage := stage } : Handling).Awaits id c hand := by
  have hunread : r.unread hand = capture :: hand := by rw [unread, hqueue]; rfl
  obtain ⟨hcame, hkept, hfresh, horder⟩ := h
  rw [hunread] at hcame hkept hfresh horder
  obtain ⟨hheard, hid⟩ := hcame capture List.mem_cons_self
  obtain ⟨hhand, horder⟩ := List.pairwise_cons.mp horder
  have hanswers : answers c id capture.event = isReply c capture.event := by
    rw [answers, hid]
    simp [Value.isText]
  split
  · rename_i hreply
    refine ⟨hheard, hanswers.trans hreply, ?_⟩
    cases hin : capture.inTime with
    | true =>
      left
      change (r.timely c id).head? = some capture.event
      rw [hkept, List.filter_cons_of_pos hin, List.map_cons,
        List.filter_cons_of_pos (hanswers.trans hreply)]
      rfl
    | false =>
      right
      have hlate : ∀ u ∈ hand, u.inTime = false := by
        intro u hu
        rw [Bool.eq_false_iff]
        intro hu'
        rw [hhand u hu hu'] at hin
        cases hin
      constructor
      · change r.expired = true
        rw [← Bool.not_eq_false]
        intro hopen
        rw [hfresh hopen capture List.mem_cons_self] at hin
        cases hin
      · change r.timely c id = []
        have hnone : hand.filter Capture.inTime = [] :=
          List.filter_eq_nil_iff.mpr fun u hu => Bool.eq_false_iff.mp (hlate u hu)
        rw [hkept, List.filter_cons_of_neg (by simp [hin]), hnone]
        rfl
  · rename_i hreply
    rw [Bool.not_eq_true] at hreply
    refine ⟨fun u hu => hcame u (List.mem_cons_of_mem _ hu), ?_,
      fun hopen u hu => hfresh hopen u (List.mem_cons_of_mem _ hu), horder⟩
    change r.timely c id = ((hand.filter Capture.inTime).map Capture.event).filter (answers c id)
    rw [hkept]
    cases hin : capture.inTime with
    | true =>
      rw [List.filter_cons_of_pos hin, List.map_cons, List.filter_cons_of_neg]
      simp [hanswers, hreply]
    | false => rw [List.filter_cons_of_neg (by simp [hin])]

/-- Reading ends without a reply when no answer in time is on its way. -/
theorem Awaits.timeout (h : r.Awaits id c hand) {command : LocalCommand}
    (hcommand : r.command = some command) (hc : command.type = c)
    (hread : r.answerUnread hand = false) : r.timely c id = [] := by
  subst hc
  rw [answerUnread, hcommand] at hread
  rw [h.kept, List.filter_eq_nil_iff]
  intro event hevent
  obtain ⟨u, hu, rfl⟩ := List.mem_map.mp hevent
  obtain ⟨hu, hin⟩ := List.mem_filter.mp hu
  have hnone := List.any_eq_false.mp hread u hu
  rw [hin, Bool.true_and] at hnone
  rw [answers_iff]
  exact fun hanswers => hnone hanswers.2

theorem Sound.turn (h : r.Sound id hand) {turn : Turn} (hadmits : r.admits hand turn = true)
    (hturn : r.turn id turn = some r') : r'.Sound id hand := by
  obtain ⟨hpublished, hkept⟩ := h
  cases turn with
  | published sent =>
    have hsent : sent = true := hadmits
    subst hsent
    simp only [Handling.turn] at hturn
    split at hturn
    · rename_i command hstage hcommand
      rw [hstage] at hkept
      obtain ⟨hresponses, hreading⟩ := hkept
      simp only [Bool.not_true, Bool.false_eq_true, if_false] at hturn
      split at hturn
      · rename_i hregistered
        cases hturn
        exact ⟨hpublished, hresponses, hreading.setStage _, hregistered⟩
      · rename_i hregistered
        cases hturn
        refine ⟨hpublished, hresponses, fun command' hcommand' hwaits => ?_⟩
        obtain ⟨command'', hcommand'', heq, -⟩ := hreading
        obtain rfl : command'' = command' := Option.some.inj (hcommand''.symm.trans hcommand')
        exact absurd (heq.trans hwaits) hregistered
    · cases hturn
  | expire =>
    simp only [Handling.turn] at hturn
    have hlater : ({ r with expired := true } : Handling).Sound id hand := by
      refine ⟨hpublished, hkept.imp rfl rfl rfl (fun _ hreading => ?_) fun _ reply hsettled => ?_⟩
      · obtain ⟨command, hcommand, hregistered, hawaits⟩ := hreading
        exact ⟨command, hcommand, hregistered, fun hwaits =>
          ⟨(hawaits hwaits).came, (hawaits hwaits).kept, nofun, (hawaits hwaits).order⟩⟩
      · cases reply with
        | none => exact ⟨rfl, hsettled.2⟩
        | some event =>
          exact ⟨hsettled.1, hsettled.2.1, hsettled.2.2.imp_right fun hlate => ⟨rfl, hlate.2⟩⟩
    split at hturn
    · cases hturn
      exact hlater
    · cases hturn
      exact hlater
    · cases hturn
  | check =>
    simp only [Handling.turn] at hturn
    split at hturn
    · rename_i hstage
      rw [hstage] at hkept
      obtain ⟨hresponses, hreading, hregistered⟩ := hkept
      cases hturn
      refine ⟨hpublished, ?_⟩
      dsimp only
      split
      · rename_i hexpired
        obtain ⟨command, hcommand, -, hawaits⟩ := hreading
        have hread : r.answerUnread hand = false := by
          simp only [admits, hexpired, Bool.not_true, Bool.false_or, Bool.not_eq_true',
            Bool.or_eq_false_iff] at hadmits
          exact hadmits.1
        exact ⟨hresponses, command, hcommand, hexpired,
          (hawaits hregistered).timeout hcommand rfl hread⟩
      · exact ⟨hresponses, hreading.setStage _, hregistered⟩
    · cases hturn
  | get =>
    simp only [Handling.turn] at hturn
    split at hturn
    · rename_i capture command hstage hqueue hcommand
      rw [hstage] at hkept
      obtain ⟨hresponses, ⟨command', hcommand', hwaits, hawaits⟩, hregistered⟩ := hkept
      obtain rfl : command' = command := Option.some.inj (hcommand'.symm.trans hcommand)
      have hhash : (Value.get capture.event "type").hashable = true := by
        simpa only [admits, hqueue, Option.all_some] using hadmits
      cases hturn
      have hget := (hawaits hregistered).get hqueue (examine command'.type capture.event)
      refine ⟨hpublished, ?_⟩
      dsimp only
      rw [examine_eq hhash] at hget ⊢
      split
      · rename_i hreply
        rw [if_pos hreply, if_pos hreply] at hget
        exact ⟨hresponses, command', hcommand', hget⟩
      · rename_i hreply
        rw [if_neg hreply, if_neg hreply] at hget
        exact ⟨hresponses, ⟨command', hcommand', hwaits, fun _ => hget⟩, hregistered⟩
    · cases hturn
  | giveUp =>
    simp only [Handling.turn] at hturn
    split at hturn
    · rename_i hstage _
      split at hturn
      · rename_i hexpired
        rw [hstage] at hkept
        obtain ⟨hresponses, ⟨command, hcommand, -, hawaits⟩, hregistered⟩ := hkept
        cases hturn
        have hread : r.answerUnread hand = false := by
          simpa only [admits, Bool.not_eq_true'] using hadmits
        exact ⟨hpublished, hresponses, command, hcommand, hexpired,
          (hawaits hregistered).timeout hcommand rfl hread⟩
      · cases hturn
    · cases hturn
  | unregister =>
    simp only [Handling.turn] at hturn
    split at hturn
    · rename_i reply command hstage hcommand
      rw [hstage] at hkept
      obtain ⟨hresponses, command', hcommand', hsettled⟩ := hkept
      obtain rfl : command' = command := Option.some.inj (hcommand'.symm.trans hcommand)
      cases hturn
      refine ⟨hpublished, hresponses, fun command'' hcommand'' _ => ?_⟩
      obtain rfl : command'' = command' := Option.some.inj (hcommand''.symm.trans hcommand')
      exact ⟨reply, hsettled, rfl⟩
    · rename_i hstage
      rw [hstage] at hkept
      exact hkept.elim
    · cases hturn
  | respond sent =>
    have hsent : sent = true := hadmits
    subst hsent
    simp only [Handling.turn] at hturn
    split at hturn
    · rename_i response hstage
      rw [hstage] at hkept
      cases hturn
      refine ⟨hpublished, response, ?_, hkept.2⟩
      rw [hkept.1]
      rfl
    · cases hturn

/-- A method for which a put may be held up: it takes an event from its queue before it reads no
more. -/
theorem open_turn (h : r.Sound id hand) (hhand : hand ≠ []) {turn : Turn}
    (hadmits : r.admits hand turn = true) (hturn : r.turn id turn = some r')
    (hheld : (r.stage.readerGone = false → r.registered = true) ∧
      (r.queue.isSome = true → r.stage.readerGone = false)) :
    (r'.stage.readerGone = false → r'.registered = true) ∧
      (r'.queue.isSome = true → r'.stage.readerGone = false) := by
  obtain ⟨hregistered, hopen⟩ := hheld
  cases turn with
  | published sent =>
    have hsent : sent = true := hadmits
    subst hsent
    simp only [Handling.turn] at hturn
    split at hturn
    · rename_i hstage _
      have hwaits : r.registered = true := hregistered (by rw [hstage]; rfl)
      simp only [Bool.not_true, Bool.false_eq_true, if_false, hwaits, if_true] at hturn
      cases hturn
      exact ⟨fun _ => rfl, fun _ => rfl⟩
    · cases hturn
  | expire =>
    simp only [Handling.turn] at hturn
    split at hturn
    · cases hturn
      exact ⟨hregistered, hopen⟩
    · cases hturn
      exact ⟨hregistered, hopen⟩
    · cases hturn
  | check =>
    simp only [Handling.turn] at hturn
    split at hturn
    · rename_i hstage
      have hwaits : r.registered = true := hregistered (by rw [hstage]; rfl)
      cases hturn
      refine ⟨fun _ => hwaits, fun hqueue => ?_⟩
      dsimp only
      split
      · rename_i hexpired
        simp only [admits, hexpired, Bool.not_true, Bool.false_or, Bool.not_eq_true',
          Bool.or_eq_false_iff, Bool.and_eq_false_iff, Bool.not_eq_false'] at hadmits
        obtain hnone | hempty := hadmits.2
        · rw [hnone] at hqueue
          cases hqueue
        · exact absurd (List.isEmpty_iff.mp hempty) hhand
      · rfl
    · cases hturn
  | get =>
    simp only [Handling.turn] at hturn
    split at hturn
    · rename_i hstage _ _
      have hwaits : r.registered = true := hregistered (by rw [hstage]; rfl)
      cases hturn
      exact ⟨fun _ => hwaits, nofun⟩
    · cases hturn
  | giveUp =>
    simp only [Handling.turn] at hturn
    split at hturn
    · rename_i hqueue
      split at hturn
      · cases hturn
        refine ⟨nofun, fun hsome => ?_⟩
        rw [hqueue] at hsome
        cases hsome
      · cases hturn
    · cases hturn
  | unregister =>
    simp only [Handling.turn] at hturn
    split at hturn
    · rename_i hstage _
      cases hturn
      refine ⟨nofun, fun hsome => ?_⟩
      have hgone := hopen hsome
      rw [hstage] at hgone
      cases hgone
    · rename_i hstage
      have hkept := h.kept
      rw [hstage] at hkept
      exact hkept.elim
    · cases hturn
  | respond sent =>
    simp only [Handling.turn] at hturn
    split at hturn
    · rename_i hstage
      have hclosed (hsome : r.queue.isSome = true) : False := by
        have hgone := hopen hsome
        rw [hstage] at hgone
        cases hgone
      split at hturn
      · cases hturn
        exact ⟨nofun, fun hsome => (hclosed hsome).elim⟩
      · cases hturn
        exact ⟨nofun, fun hsome => (hclosed hsome).elim⟩
    · cases hturn

end Handling

end Turns

/-! ## The start of a method -/

/-- A method that is fit is not refused by an exception, and its command has the id of its
waiter. -/
theorem handleMethodRequest_spec {policy : Policy} {id : String} {method : CloudMethod}
    (h : (!methodAllowed policy method || method.fits id) = true) :
    match handleMethodRequest policy id method with
    | .respond _ => True
    | .publish command => awaitsReply command.type = true → command.correlationId = .str id
    | .raises => False := by
  unfold handleMethodRequest
  cases hlookup : methodNameToCommand.lookup method.name with
  | none => trivial
  | some type =>
    dsimp only
    cases hallowed : methodAllowed policy method with
    | false => trivial
    | true =>
      rw [hallowed, CloudMethod.fits, hlookup] at h
      simp only [Bool.not_true, Bool.false_or, Bool.false_eq_true, if_false] at h ⊢
      by_cases hforward : method.name = evtControlCenterMessage
      · rw [if_pos hforward] at h ⊢
        unfold handleControlCenterForward
        obtain ⟨message, hmessage⟩ := Option.isSome_iff_exists.mp h
        rw [hmessage]
        dsimp only
        cases isNeiaTargetedMessage message with
        | false => trivial
        | true =>
          intro hwaits
          cases hwaits
      · rw [if_neg hforward] at h ⊢
        cases hitems : method.payload.asUpdates with
        | none =>
          rw [hitems] at h
          cases h
        | some items =>
          rw [hitems] at h
          by_cases hown : (items.any fun f => f.1.isText "correlation_id") = true
          · simp only [hown, if_true]
            intro hwaits
            simp only [hwaits, Bool.not_true, Bool.false_or] at h
            obtain ⟨f, hf, hkey⟩ := List.any_eq_true.mp hown
            have hfound : (items.reverse.find? fun f => f.1.isText "correlation_id").isSome := by
              rw [List.find?_isSome]
              exact ⟨f, List.mem_reverse.mpr hf, hkey⟩
            obtain ⟨g, hg⟩ := Option.isSome_iff_exists.mp hfound
            have hgkey := List.find?_some hg
            have hgid := List.all_eq_true.mp h g
              (List.mem_reverse.mp (List.mem_of_find?_eq_some hg))
            simp only [hgkey, Bool.not_true, Bool.false_or, Value.isText_iff] at hgid
            simp only [LocalCommand.correlationId, hg, Option.map_some, Option.getD_some, hgid]
          · simp only [hown, if_false, Bool.false_eq_true]
            intro _
            simp [LocalCommand.correlationId, Value.isText]

theorem Handling.sound_begin {policy : Policy} {id : String} {method : CloudMethod}
    (h : (!methodAllowed policy method || method.fits id) = true) :
    (Handling.begin policy id method).Sound id [] := by
  have hspec := handleMethodRequest_spec h
  unfold Handling.begin
  cases hopening : handleMethodRequest policy id method with
  | respond response =>
    exact ⟨nofun, rfl, nofun⟩
  | publish command =>
    rw [hopening] at hspec
    refine ⟨fun command' hcommand' => ?_, rfl, command, rfl, rfl, fun _ => ?_⟩
    · obtain rfl : command = command' := Option.some.inj hcommand'
      exact hspec
    · exact ⟨nofun, rfl, fun _ => nofun, .nil⟩
  | raises =>
    rw [hopening] at hspec
    exact hspec.elim

/-! ## A method comes to its end -/

section Ends

variable {id : String} {r : Handling}

theorem examine_cases (c : Messaging.Command) (event : Fields) : examine c event = .waiting ∨
    (∃ reply, examine c event = .ending reply) ∨ examine c event = .failing := by
  unfold examine
  dsimp only
  split
  · exact .inr (.inl ⟨_, rfl⟩)
  · split
    · exact .inr (.inr rfl)
    · split
      · exact .inr (.inl ⟨_, rfl⟩)
      · exact .inl rfl

/-- Some steps of its own and of its clock end the method. -/
def Handling.Ends (id : String) (r : Handling) : Prop :=
  ∃ turns r', Machine.exec (Handling.turn id) r turns = some r' ∧ r'.stage.ended = true

namespace Handling

theorem Ends.cons {t : Handling} (turn : Turn) (h : t.Ends id) (hturn : r.turn id turn = some t) :
    r.Ends id := by
  obtain ⟨turns, r', hexec, hended⟩ := h
  refine ⟨turn :: turns, r', ?_, hended⟩
  rw [Machine.exec_cons, hturn]
  exact hexec

theorem ends_of_ended (h : r.stage.ended = true) : r.Ends id := ⟨[], r, rfl, h⟩

theorem ends_answering {response : Response} (hstage : r.stage = .answering response) :
    r.Ends id := by
  have hdone : Ends id { r with stage := .done, responses := r.responses ++ [response] } :=
    ends_of_ended rfl
  refine hdone.cons (.respond true) ?_
  simp only [turn, hstage, if_true]

theorem ends_ending {reply : Option Fields} {command : LocalCommand}
    (hcommand : r.command = some command) (hstage : r.stage = .ending reply) : r.Ends id := by
  refine .cons .unregister (ends_answering rfl) (?_ : _ = some { r with
    registered := false
    stage := .answering (methodResponse command.type id reply) })
  simp only [turn, hstage, hcommand]

theorem ends_failing (hstage : r.stage = .failing) : r.Ends id := by
  have hraised : Ends id { r with registered := false, stage := .raised } := ends_of_ended rfl
  refine hraised.cons .unregister ?_
  cases hcommand : r.command <;> simp only [turn, hstage, hcommand]

/-- After the deadline the loop returns at its top. -/
theorem ends_waiting {command : LocalCommand} (hcommand : r.command = some command)
    (hstage : r.stage = .waiting) : r.Ends id := by
  have hending : Ends id { r with expired := true, stage := .ending none } :=
    ends_ending hcommand rfl
  have hexpired : Ends id { r with expired := true } :=
    hending.cons .check (by simp only [turn, hstage, if_true])
  exact hexpired.cons .expire (by simp only [turn, hstage])

/-- `waiter.get` returns the event on the queue, or gives up after the deadline. -/
theorem ends_getting {command : LocalCommand} (hcommand : r.command = some command)
    (hstage : r.stage = .getting) : r.Ends id := by
  cases hqueue : r.queue with
  | none =>
    have hending : Ends id { r with expired := true, stage := .ending none } :=
      ends_ending hcommand rfl
    have hexpired : Ends id { r with expired := true } :=
      hending.cons .giveUp (by simp only [turn, hstage, hqueue, if_true])
    exact hexpired.cons .expire (by simp only [turn, hstage])
  | some capture =>
    have hread : Ends id
        { r with queue := none, stage := examine command.type capture.event } := by
      obtain hwaiting | ⟨reply, hending⟩ | hfailing := examine_cases command.type capture.event
      · exact ends_waiting hcommand hwaiting
      · exact ends_ending hcommand hending
      · exact ends_failing hfailing
    exact hread.cons .get (by simp only [turn, hstage, hqueue, hcommand])

theorem ends_publishing {command : LocalCommand} (hcommand : r.command = some command)
    (hstage : r.stage = .publishing) : r.Ends id := by
  cases hregistered : r.registered with
  | true =>
    have hwaiting : Ends id { r with stage := .waiting } := ends_waiting hcommand rfl
    refine hwaiting.cons (.published true) ?_
    simp [turn, hstage, hcommand, hregistered]
  | false =>
    have hanswering : Ends id { r with
        stage := .answering (acceptedResponse command.type id) } := ends_answering rfl
    refine hanswering.cons (.published true) ?_
    simp [turn, hstage, hcommand, hregistered]

theorem Sound.ends {hand : List Capture} (h : r.Sound id hand) : r.Ends id := by
  have hkept := h.kept
  cases hstage : r.stage with
  | publishing =>
    rw [hstage] at hkept
    obtain ⟨-, command, hcommand, -⟩ := hkept
    exact ends_publishing hcommand hstage
  | waiting =>
    rw [hstage] at hkept
    obtain ⟨-, ⟨command, hcommand, -⟩, -⟩ := hkept
    exact ends_waiting hcommand hstage
  | getting =>
    rw [hstage] at hkept
    obtain ⟨-, ⟨command, hcommand, -⟩, -⟩ := hkept
    exact ends_getting hcommand hstage
  | ending reply =>
    rw [hstage] at hkept
    obtain ⟨-, command, hcommand, -⟩ := hkept
    exact ends_ending hcommand hstage
  | failing => exact ends_failing hstage
  | answering response => exact ends_answering hstage
  | done => exact ends_of_ended (by rw [hstage]; rfl)
  | raised => exact ends_of_ended (by rw [hstage]; rfl)

end Handling

/-- A method has its one response when it has come to its end. -/
theorem Handling.Sound.responses {hand : List Capture} (h : r.Sound id hand) :
    if r.stage.ended then ∃ response, r.responses = [response] ∧ r.Given id response
    else r.responses = [] := by
  have hkept := h.kept
  cases hstage : r.stage with
  | done =>
    rw [hstage] at hkept
    exact hkept
  | failing =>
    rw [hstage] at hkept
    exact hkept.elim
  | raised =>
    rw [hstage] at hkept
    exact hkept.elim
  | _ =>
    rw [hstage] at hkept
    exact hkept.1

end Ends

end NexusN3.Bridge.Methods
