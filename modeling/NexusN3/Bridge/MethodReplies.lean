import NexusN3.Bridge.Waiting

/-!
# The replies to direct methods

What a direct method is answered with, in any order of its own steps, the steps of other methods
and the local events.

* **`Correlated`** — the first answer with the id of the command decides the response, no event
  with another id does, every method gets one response, and the thread of local events is never
  stuck in a put.
* **`Service.keepsReplies`** — the condition on one step.
* **`Service.Sound`** — the invariant of one method for every method, and a put that is held up is
  for a method that still reads.
* **`correlated_run`** — a run whose steps all meet the condition stays correlated.
* **`OwnId`**, **`ThreeEvents`** — runs that do not.
-/

namespace NexusN3.Bridge.Methods

open Lib

/-! ## What the bridge owes -/

/-- An event that answers a command: it carries the id of the command and has a type that the
command takes. -/
def IsAnswer (command : LocalCommand) (event : Fields) : Prop :=
  correlationOf event = command.correlationId ∧ isReply command.type event = true

def FirstAnswer (command : LocalCommand) (events : List Fields) (event : Fields) : Prop :=
  ∃ before after, events = before ++ event :: after ∧ IsAnswer command event ∧
    ∀ x ∈ before, ¬ IsAnswer command x

/-- The response is told by the events with the id of the command, and by the first answer that
came in time if there is one. -/
structure Handling.Answered (id : String) (command : LocalCommand) (r : Handling)
    (response : Response) : Prop where
  first : ∀ event, FirstAnswer command r.inTime event →
    response = replyResponse command.type id event
  only : response = acceptedResponse command.type id ∨
    ∃ event ∈ r.heard, IsAnswer command event ∧ response = replyResponse command.type id event

structure Correlated (s : Service) : Prop where
  answered : ∀ id r command, s.requests.get? id = some r → r.command = some command →
    awaitsReply command.type = true → ∀ response ∈ r.responses, r.Answered id command response
  once : ∀ id r, s.requests.get? id = some r →
    if r.stage.ended then ∃ response, r.responses = [response] else r.responses = []
  ends : ∀ id r, s.requests.get? id = some r →
    ∃ (turns : List Turn) (t : Service) (r' : Handling),
      Machine.exec step s (turns.map (Action.turn id)) = some t ∧
        t.requests.get? id = some r' ∧ r'.stage.ended = true
  free : s.stalled = false

/-! ## The condition on one step -/

namespace Service

/-- What the thread of local events holds for a method. -/
def hand (s : Service) (id : String) : List Capture :=
  match s.listener with
  | .holding capture id' => if id' = id then [capture] else []
  | _ => []

def keepsReplies (s : Service) : Action → Bool
  | .request id name payload =>
    let method := CloudMethod.ofRequest name payload
    !methodAllowed s.policy method || method.fits id
  | .turn id turn => (s.requests.get? id).all fun r => r.admits (s.hand id) turn
  | .arrive event =>
    match event.asDict with
    | none => true
    | some fields =>
      match correlationOf fields with
      | .str id => (s.requests.get? id).all fun r => r.admitsEvent s.listener fields
      | _ => true
  | .policy _ | .put | .handled _ | .loopEnds => true

end Service

/-! ## The invariant -/

structure Service.Sound (s : Service) : Prop where
  each : ∀ id r, s.requests.get? id = some r → r.Sound id (s.hand id)
  named : ∀ id r, s.requests.get? id = some r → id ≠ ""
  /-- A put that is held up is for a method that still reads. -/
  held : ∀ capture id, s.listener = .holding capture id → ∃ r, s.requests.get? id = some r ∧
    (r.stage.readerGone = false → r.registered = true) ∧
      (r.queue.isSome = true → r.stage.readerGone = false)

/-! ## The steps of the bridge -/

namespace Service

variable {s : Service} {id : String}

theorem hand_of_not_holding (h : ∀ capture id', s.listener ≠ .holding capture id') (id : String) :
    s.hand id = [] := by
  unfold hand
  split
  · rename_i capture id' hlistener
    exact absurd hlistener (h capture id')
  · rfl

theorem get?_hear {event : Fields} :
    (s.hear event).requests.get? id = (s.requests.get? id).map (Handling.hear event) :=
  Dict.get?_mapValues _ _ _

/-- What is taken for a method carries the id of the method, and its waiter is registered. -/
theorem holding_of_capture {event : Fields} {capture : Capture}
    (h : s.captureMethodReply event = .holding capture id) :
    correlationOf event = .str id ∧ ∃ r, s.requests.get? id = some r ∧ r.registered = true ∧
      capture = ⟨event, !r.expired⟩ := by
  unfold captureMethodReply at h
  dsimp only at h
  split at h
  · cases h
  · split at h
    · cases h
    · split at h
      · rename_i id' hid
        split at h
        · rename_i r hr
          split at h
          · rename_i hregistered
            cases h
            exact ⟨hid, r, hr, hregistered, rfl⟩
          · cases h
        · cases h
      · cases h

theorem capture_of_registered {event : Fields} {r : Handling} (hne : id ≠ "")
    (hid : correlationOf event = .str id) (hr : s.requests.get? id = some r)
    (hregistered : r.registered = true) :
    s.captureMethodReply event = .holding ⟨event, !r.expired⟩ id := by
  unfold captureMethodReply
  simp [hid, hr, hregistered, Value.truthy, Value.hashable, hne]

theorem Sound.hand_eq_nil (h : s.Sound) (hr : s.requests.get? id = none) : s.hand id = [] := by
  unfold hand
  split
  · rename_i capture id' hlistener
    rw [if_neg]
    rintro rfl
    obtain ⟨r, hsome, -⟩ := h.held capture id' hlistener
    rw [hr] at hsome
    cases hsome
  · rfl

theorem Sound.setListener (h : s.Sound)
    (hold : ∀ capture id, s.listener ≠ .holding capture id) {listener : Listener}
    (hnew : ∀ capture id, listener ≠ .holding capture id) :
    ({ s with listener := listener } : Service).Sound := by
  refine ⟨fun id r hr => ?_, h.named, fun capture id hlistener => ?_⟩
  · have hsound := h.each id r hr
    rw [hand_of_not_holding hold] at hsound
    rwa [hand_of_not_holding hnew]
  · exact absurd hlistener (hnew capture id)

/-- The records of one method are replaced. -/
theorem Sound.set (h : s.Sound) {r : Handling} (hne : id ≠ "") (hr : r.Sound id (s.hand id))
    (hheld : s.hand id ≠ [] → (r.stage.readerGone = false → r.registered = true) ∧
      (r.queue.isSome = true → r.stage.readerGone = false)) :
    ({ s with requests := s.requests.set id r } : Service).Sound := by
  refine ⟨fun id' r' hr' => ?_, fun id' r' hr' => ?_, fun capture id' hlistener => ?_⟩
  · dsimp only at hr'
    rw [Dict.get?_set] at hr'
    split at hr'
    · rename_i heq
      subst heq
      cases hr'
      exact hr
    · exact h.each id' r' hr'
  · dsimp only at hr'
    rw [Dict.get?_set] at hr'
    split at hr'
    · rename_i heq
      exact heq ▸ hne
    · exact h.named id' r' hr'
  · dsimp only at hlistener ⊢
    rw [Dict.get?_set]
    split
    · rename_i heq
      subst heq
      exact ⟨r, rfl, hheld (by simp [hand, hlistener])⟩
    · exact h.held capture id' hlistener

/-- Every method hears of an event; what is then in the hand of the other thread is the event, or
it does not matter to the method. -/
theorem Sound.heard (h : s.Sound) (hnone : ∀ id, s.hand id = []) {event : Fields} {t : Service}
    (hrequests : t.requests = (s.hear event).requests)
    (hhand : ∀ id r, s.requests.get? id = some r →
      correlationOf event = .str id ∧ t.hand id = [⟨event, !r.expired⟩] ∨
        t.hand id = [] ∧ (r.registered = true → r.stage.readerGone = false → r.expired = false →
          ∀ command, r.command = some command → answers command.type id event = false))
    (hheld : ∀ capture id, t.listener = .holding capture id → ∃ r,
      s.requests.get? id = some r ∧ r.registered = true ∧
        (r.queue.isSome = true → r.stage.readerGone = false)) : t.Sound := by
  refine ⟨fun id r' hr' => ?_, fun id r' hr' => ?_, fun capture id hholding => ?_⟩
  · rw [hrequests, get?_hear] at hr'
    obtain ⟨r, hr, rfl⟩ := Option.map_eq_some_iff.mp hr'
    have hsound := h.each id r hr
    rw [hnone id] at hsound
    exact hsound.hear (hhand id r hr)
  · rw [hrequests, get?_hear] at hr'
    obtain ⟨r, hr, -⟩ := Option.map_eq_some_iff.mp hr'
    exact h.named id r hr
  · obtain ⟨r, hr, hregistered, hopen⟩ := hheld capture id hholding
    refine ⟨r.hear event, ?_, fun _ => hregistered, hopen⟩
    rw [hrequests, get?_hear, hr]
    rfl

theorem listener_handleLocalEvent {event : Fields} :
    (s.handleLocalEvent event).listener =
      if (Value.get event "type").truthy then s.captureMethodReply event else s.listener := by
  unfold handleLocalEvent
  cases (Value.get event "type").truthy <;> rfl

/-- The thread of local events takes an event. -/
theorem Sound.handleLocalEvent (h : s.Sound) (hidle : s.listener = .idle) {event : Fields}
    (hopen : ∀ id r, correlationOf event = .str id → s.requests.get? id = some r →
      (r.registered && r.stage.readerGone && r.queue.isSome &&
        (Value.get event "type").truthy) = false) :
    ((s.hear event).handleLocalEvent event).Sound := by
  have hnone : ∀ id, s.hand id = [] :=
    hand_of_not_holding fun _ _ hholding => by rw [hidle] at hholding; cases hholding
  -- It holds an event only when it has a type, for the method whose id it carries.
  have hfor {capture : Capture} {id : String}
      (hholding : ((s.hear event).handleLocalEvent event).listener = .holding capture id) :
      (Value.get event "type").truthy = true ∧ correlationOf event = .str id ∧
        ∃ r, s.requests.get? id = some r ∧ r.registered = true := by
    rw [listener_handleLocalEvent] at hholding
    split at hholding
    · rename_i htype
      obtain ⟨hid, r', hr', hregistered, -⟩ := holding_of_capture hholding
      rw [get?_hear] at hr'
      obtain ⟨r, hr, rfl⟩ := Option.map_eq_some_iff.mp hr'
      exact ⟨htype, hid, r, hr, hregistered⟩
    · rw [show (s.hear event).listener = .idle from hidle] at hholding
      cases hholding
  have hrequests : ((s.hear event).handleLocalEvent event).requests = (s.hear event).requests := by
    unfold Service.handleLocalEvent
    split <;> rfl
  refine h.heard hnone hrequests (fun id r hr => ?_) fun capture id hholding => ?_
  · by_cases hmine : (Value.get event "type").truthy = true ∧
        correlationOf event = .str id ∧ r.registered = true
    · obtain ⟨htype, hid, hregistered⟩ := hmine
      have hr' : (s.hear event).requests.get? id = some (r.hear event) := by
        rw [get?_hear, hr]
        rfl
      have hcapture : ((s.hear event).handleLocalEvent event).listener =
          .holding ⟨event, !r.expired⟩ id := by
        rw [listener_handleLocalEvent, if_pos htype]
        exact @capture_of_registered _ id event (r.hear event) (h.named id r hr) hid hr' hregistered
      exact .inl ⟨hid, by simp [hand, hcapture]⟩
    · refine .inr ⟨?_, fun hregistered _ _ command _ => ?_⟩
      · unfold hand
        split
        · rename_i capture id' hholding
          rw [if_neg]
          rintro rfl
          obtain ⟨htype, hid, r₁, hr₁, hregistered⟩ := hfor hholding
          obtain rfl := Option.some.inj (hr.symm.trans hr₁)
          exact hmine ⟨htype, hid, hregistered⟩
        · rfl
      · rw [← Bool.not_eq_true, answers_iff]
        rintro ⟨hid, hreply⟩
        exact hmine ⟨truthy_of_isReply hreply, hid, hregistered⟩
  · obtain ⟨htype, hid, r, hr, hregistered⟩ := hfor hholding
    refine ⟨r, hr, hregistered, fun hsome => ?_⟩
    have hclosed := hopen id r hid hr
    simpa only [hregistered, hsome, htype, Bool.true_and, Bool.and_true] using hclosed

theorem Sound.arrive (h : s.Sound) {event : Value} {s' : Service}
    (hkeeps : s.keepsReplies (.arrive event) = true) (harrive : s.arrive event = some s') :
    s'.Sound := by
  unfold Service.arrive at harrive
  split at harrive
  · rename_i fields hlistener hevent
    cases harrive
    refine h.handleLocalEvent hlistener fun id r hid hr => ?_
    simpa only [keepsReplies, hevent, hid, hr, hlistener, Option.all_some,
      Handling.admitsEvent, Bool.not_eq_true'] using hkeeps
  · rename_i hlistener _
    cases harrive
    refine h.setListener (fun _ _ hholding => ?_) nofun
    rw [hlistener] at hholding
    cases hholding
  · rename_i fields hlistener hevent
    cases harrive
    have hnone : ∀ id, s.hand id = [] :=
      hand_of_not_holding fun _ _ hholding => by rw [hlistener] at hholding; cases hholding
    refine h.heard hnone rfl (fun id r hr => .inr ⟨hnone id, ?_⟩) fun capture id hholding => ?_
    · intro hregistered hopen hexpired command hcommand
      rw [← Bool.not_eq_true, answers_iff]
      rintro ⟨hid, hreply⟩
      simp [keepsReplies, hevent, hid, hr, hlistener, Handling.admitsEvent, hregistered, hopen,
        hexpired, hcommand, hreply] at hkeeps
    · change s.listener = _ at hholding
      rw [hlistener] at hholding
      cases hholding
  · cases harrive
    exact h
  · cases harrive

theorem Sound.put (h : s.Sound) {s' : Service} (hput : s.put = some s') : s'.Sound := by
  unfold Service.put at hput
  split at hput
  · rename_i capture id hlistener
    split at hput
    · rename_i r hr
      split at hput
      · rename_i hqueue
        cases hput
        have hsound := h.each id r hr
        have hhand : s.hand id = [capture] := by simp [hand, hlistener]
        rw [hhand] at hsound
        have hother (id' : String) (hne : id ≠ id') : s.hand id' = [] := by
          simp [hand, hlistener, hne]
        refine ⟨fun id' r' hr' => ?_, fun id' r' hr' => ?_, nofun⟩
        · dsimp only at hr'
          rw [Dict.get?_set] at hr'
          split at hr'
          · rename_i heq
            subst heq
            cases hr'
            exact hsound.put hqueue
          · rename_i hne
            have hrest := h.each id' r' hr'
            rwa [hother id' hne] at hrest
        · dsimp only at hr'
          rw [Dict.get?_set] at hr'
          split at hr'
          · rename_i heq
            exact heq ▸ h.named id r hr
          · exact h.named id' r' hr'
      · cases hput
    · cases hput
  · cases hput

end Service

/-- **Step lemma.** -/
theorem sound_step {s s' : Service} {a : Action} (hkeeps : s.keepsReplies a = true)
    (hstep : step s a = some s') (h : s.Sound) : s'.Sound := by
  cases a with
  | policy policy =>
    cases hstep
    exact ⟨h.each, h.named, h.held⟩
  | request id name payload =>
    simp only [step] at hstep
    split at hstep
    · cases hstep
    · rename_i hfresh
      cases hstep
      rw [not_or, Bool.not_eq_true, Option.isSome_eq_false_iff, Option.isNone_iff_eq_none]
        at hfresh
      have hhand := h.hand_eq_nil hfresh.2
      refine h.set hfresh.1 ?_ fun hne => absurd hhand hne
      rw [hhand]
      exact Handling.sound_begin hkeeps
  | turn id turn =>
    simp only [step] at hstep
    split at hstep
    · rename_i r hr
      obtain ⟨r', hturn, rfl⟩ := Option.map_eq_some_iff.mp hstep
      have hadmits : r.admits (s.hand id) turn = true := by
        simpa only [Service.keepsReplies, hr, Option.all_some] using hkeeps
      have hsound := h.each id r hr
      refine h.set (h.named id r hr) (hsound.turn hadmits hturn) fun hne => ?_
      refine Handling.open_turn hsound hne hadmits hturn ?_
      unfold Service.hand at hne
      split at hne
      · rename_i capture id' hlistener
        obtain rfl : id' = id := by
          by_contra hother
          exact hne (if_neg hother)
        obtain ⟨r₁, hr₁, hheld⟩ := h.held capture id' hlistener
        obtain rfl := Option.some.inj (hr.symm.trans hr₁)
        exact hheld
      · exact absurd rfl hne
    · cases hstep
  | arrive event => exact h.arrive hkeeps hstep
  | put => exact h.put hstep
  | handled raised =>
    simp only [step] at hstep
    split at hstep
    · rename_i hlistener
      cases hstep
      refine h.setListener (fun _ _ hholding => ?_) fun _ _ hholding => ?_
      · rw [hlistener] at hholding
        cases hholding
      · cases raised <;> cases hholding
    · cases hstep
  | loopEnds =>
    simp only [step] at hstep
    split at hstep
    · rename_i hlistener
      cases hstep
      refine h.setListener (fun _ _ hholding => ?_) nofun
      rw [hlistener] at hholding
      cases hholding
    · cases hstep

/-- The steps of a method are steps of the bridge. -/
theorem exec_turns {id : String} {s : Service} {r r' : Handling} {turns : List Turn}
    (hr : s.requests.get? id = some r) (hexec : Machine.exec (Handling.turn id) r turns = some r') :
    ∃ t : Service, Machine.exec step s (turns.map (Action.turn id)) = some t ∧
      t.requests.get? id = some r' := by
  induction turns generalizing s r with
  | nil =>
    cases hexec
    exact ⟨s, rfl, hr⟩
  | cons turn turns ih =>
    obtain ⟨r₁, hturn, hrest⟩ := Option.bind_eq_some_iff.mp hexec
    have hstep : step s (.turn id turn) = some { s with requests := s.requests.set id r₁ } := by
      simp only [step, hr, hturn, Option.map_some]
    obtain ⟨t, ht, hr'⟩ := ih (s := { s with requests := s.requests.set id r₁ })
      (Dict.get?_set_self _ _ _) hrest
    refine ⟨t, ?_, hr'⟩
    rw [List.map_cons, Machine.exec_cons, hstep]
    exact ht

/-! ## Every run -/

theorem Handling.answered_of_given {id : String} {r : Handling} {command : LocalCommand}
    {response : Response} (hid : command.correlationId = .str id)
    (hcommand : r.command = some command) (hwaits : awaitsReply command.type = true)
    (h : r.Given id response) : r.Answered id command response := by
  obtain ⟨reply, hsettled, rfl⟩ := h command hcommand hwaits
  have hanswer (event : Fields) :
      IsAnswer command event ↔ answers command.type id event = true := by
    rw [IsAnswer, hid, answers_iff]
  constructor
  · rintro event ⟨before, after, hsplit, hevent, hbefore⟩
    have hhead : (r.timely command.type id).head? = some event := by
      have hnone : before.filter (answers command.type id) = [] :=
        List.filter_eq_nil_iff.mpr fun x hx hx' => hbefore x hx ((hanswer x).mpr hx')
      rw [timely, hsplit, List.filter_append, hnone, List.nil_append,
        List.filter_cons_of_pos ((hanswer event).mp hevent)]
      rfl
    cases reply with
    | none =>
      rw [hsettled.2] at hhead
      cases hhead
    | some reply =>
      obtain ⟨-, -, hfirst | ⟨-, hnone⟩⟩ := hsettled
      · rw [hhead] at hfirst
        cases hfirst
        rfl
      · rw [hnone] at hhead
        cases hhead
  · cases reply with
    | none => exact .inl rfl
    | some reply => exact .inr ⟨reply, hsettled.1, (hanswer reply).mpr hsettled.2.1, rfl⟩

theorem Service.Sound.correlated {s : Service} (h : s.Sound) : Correlated s := by
  refine ⟨fun id r command hr hcommand hwaits response hresponse => ?_, fun id r hr => ?_,
    fun id r hr => ?_, ?_⟩
  · have hsound := h.each id r hr
    have hall := hsound.responses
    split at hall
    · obtain ⟨response', hone, hgiven⟩ := hall
      rw [hone, List.mem_singleton] at hresponse
      subst hresponse
      exact Handling.answered_of_given (hsound.published command hcommand hwaits) hcommand hwaits
        hgiven
    · rename_i hnone
      rw [hall] at hresponse
      cases hresponse
  · have hall := (h.each id r hr).responses
    split at hall
    · rename_i hended
      rw [if_pos hended]
      obtain ⟨response, hone, -⟩ := hall
      exact ⟨response, hone⟩
    · rename_i hended
      rwa [if_neg hended]
  · obtain ⟨turns, r', hexec, hended⟩ := (h.each id r hr).ends
    obtain ⟨t, ht, hr'⟩ := exec_turns hr hexec
    exact ⟨turns, t, r', ht, hr', hended⟩
  · unfold Service.stalled
    split
    · rename_i capture id hlistener
      obtain ⟨r, hr, -, hopen⟩ := h.held capture id hlistener
      rw [hr, Option.any_some]
      cases hqueue : r.queue.isSome with
      | false => rfl
      | true => exact hopen hqueue
    · rfl

/-- The bridge after its start. -/
def started (policy : Policy) : Service := { policy }

theorem sound_started (policy : Policy) : (started policy).Sound := by
  have hnone (id : String) : (started policy).requests.get? id = none := Dict.get?_empty id
  refine ⟨fun id r hr => ?_, fun id r hr => ?_, fun capture id hlistener => ?_⟩
  · rw [hnone] at hr
    cases hr
  · rw [hnone] at hr
    cases hr
  · cases hlistener

/-- **Run lemma.** Where every step meets the condition, replies are correlated and the thread of
local events is never stuck. -/
theorem correlated_run {policy : Policy} {s : Service}
    (hrun : Machine.Run step (fun s a => s.keepsReplies a = true) (started policy) s) :
    Correlated s := by
  have hsound : s.Sound := hrun.invariant (sound_started policy)
    fun _ _ _ hkeeps hstep hsound => sound_step hkeeps hstep hsound
  exact hsound.correlated

/-- The cloud asks for the device, and the bridge may be controlled from there. -/
def controlled : Policy := ⟨true, "remote_control_enabled", "idle"⟩

def deviceInfo (id : String) : Fields :=
  [("type", .str "device_info"), ("payload", .obj [("correlation_id", .str id)])]

/-- An event with the id of a command that the command does not wait for. -/
def progress (id : String) : Fields :=
  [("type", .str "device_busy"), ("payload", .obj [("correlation_id", .str id)])]

namespace OneReply

/-- The reply is read while the method waits. -/
def trace : List Action :=
  [.request "k" "get_device_info" (.obj []), .turn "k" (.published true), .turn "k" .check,
    .arrive (.obj (deviceInfo "k")), .put, .handled false, .turn "k" .get, .turn "k" .unregister,
    .turn "k" (.respond true)]

theorem correlated_run_trace : ∃ s,
    Machine.execOk step (fun s a => s.keepsReplies a = true) (started controlled) trace = some s ∧
      (s.requests.get? "k").map Handling.responses =
        some [replyResponse .getDeviceInfo "k" (deviceInfo "k")] ∧ Correlated s :=
  ⟨_, rfl, rfl, @correlated_run controlled _ (Machine.Run.of_execOk trace rfl)⟩

end OneReply

/-! ## Runs that go wrong -/

namespace OwnId

/-- The payload has an id; the reply carries it and comes in time. -/
def trace : List Action :=
  [.request "k" "get_device_info" (.obj [("correlation_id", .str "mine")]),
    .turn "k" (.published true), .turn "k" .check, .arrive (.obj (deviceInfo "mine")),
    .turn "k" .expire, .turn "k" .giveUp, .turn "k" .unregister, .turn "k" (.respond true)]

def after : Handling where
  command := some ⟨.getDeviceInfo, [(.str "correlation_id", .str "mine")]⟩
  stage := .done
  expired := true
  responses := [acceptedResponse .getDeviceInfo "k"]
  heard := [deviceInfo "mine"]
  inTime := [deviceInfo "mine"]

/-- The reply came in time, and the method is answered as if there were none. -/
theorem not_answered :
    ¬ after.Answered "k" ⟨.getDeviceInfo, [(.str "correlation_id", .str "mine")]⟩
      (acceptedResponse .getDeviceInfo "k") := by
  intro hanswered
  have hfirst : FirstAnswer ⟨.getDeviceInfo, [(.str "correlation_id", .str "mine")]⟩ after.inTime
      (deviceInfo "mine") :=
    ⟨[], [], rfl, ⟨rfl, rfl⟩, List.forall_mem_nil _⟩
  have hstatus := congrArg Response.status (hanswered.first _ hfirst)
  exact absurd hstatus (by decide)

end OwnId

namespace ThreeEvents

/-- The reply is read; one event more comes before the waiter is forgotten and fills the queue, and
another one after it. -/
def trace : List Action :=
  [.request "k" "get_device_info" (.obj []), .turn "k" (.published true), .turn "k" .check,
    .arrive (.obj (deviceInfo "k")), .put, .handled false, .turn "k" .get,
    .arrive (.obj (progress "k")), .put, .handled false, .arrive (.obj (progress "k")),
    .turn "k" .unregister]

end ThreeEvents

/-- A reply in time is not taken, and the thread of local events gets stuck. -/
theorem replies_go_wrong :
    (∃ s, Machine.Reach step (started controlled) s ∧ s.stalled = false ∧ ¬ Correlated s) ∧
      ∃ s, Machine.Reach step (started controlled) s ∧ s.stalled = true ∧ ¬ Correlated s := by
  constructor
  · refine ⟨_, Machine.reach_of_exec OwnId.trace rfl, rfl, fun hcorrelated => ?_⟩
    exact OwnId.not_answered (hcorrelated.answered "k" OwnId.after _ rfl rfl rfl _
      (List.mem_singleton_self _))
  · refine ⟨_, Machine.reach_of_exec ThreeEvents.trace rfl, rfl, fun hcorrelated => ?_⟩
    have hfree := hcorrelated.free
    cases hfree

end NexusN3.Bridge.Methods
