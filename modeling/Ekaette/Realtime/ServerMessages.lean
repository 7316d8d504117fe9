import Ekaette.Lib.EventMachine
import Ekaette.Realtime.TurnClosure

set_option autoImplicit false
set_option mvcgen.warning false

/-! # Server messages of the tool callbacks

A tool callback queues a structured message for the client in one slot of the session state
(`queue_server_message` of `src/app/agents/callbacks.py`). The state delta collects the writes, a
live event carries it downstream, and `downstream_task` sends what it finds in the slot when its id
is new.

The slot holds one message: a second one queued before an event carries the first overwrites it.
While no message is queued on top of one that waits, every message reaches the client once, in id
order. -/

namespace Ekaette

open Std.Do

/-! ## Queueing -/

/-- The session state a callback writes to: what was there, and the delta of the writes since the
    last event. -/
structure CallbackState where
  value : Record
  delta : Record

/-- `state.get(key, default)`. -/
def CallbackState.get (state : CallbackState) (key : String) (default : PyValue) : PyValue :=
  ((state.delta.get? key).or (state.value.get? key)).getD default

/-- `state[key] = v`. -/
def CallbackState.set (state : CallbackState) (key : String) (v : PyValue) : CallbackState :=
  { value := state.value.set key v, delta := state.delta.set key v }

variable (ctx : StreamContext) (d : Delivery)

/-- `_next_server_message_id`; an infinity in its place raises. -/
def nextServerMessageId (state : CallbackState) : Except Unit ℤ :=
  match (state.get "temp:server_message_seq" (.int 0)).toInt ctx.py with
  | .ok current => .ok (current + 1)
  | .error .overflowError => .error ()
  | .error _ => .ok (0 + 1)

/-- `queue_server_message`, with the id it gives. -/
def queueServerMessage (state : CallbackState) (payload : Record) :
    Except Unit (CallbackState × ℤ) :=
  match nextServerMessageId ctx state with
  | .error e => .error e
  | .ok messageId =>
    let message := payload.set "id" (.int messageId)
    .ok ((state.set "temp:server_message_seq" (.int messageId)).set "temp:last_server_message"
      (.dict message.entries), messageId)

/-! ## Callbacks and events interleaved -/

/-- The state delta an event carries: none, the one that was collected since, or once more the one
    that was carried last. -/
inductive Carried where
  | nothing
  | collected
  | again

/-- A callback queues a message, or a live event is handled. -/
inductive SlotEvent where
  | queue (payload : Record)
  | live (d : Delivery) (carried : Carried)

/-- Both sides of the slot, the delta that was carried last, and the messages queued so far with
    their ids (newest first). -/
structure SlotState where
  session : CallbackState
  downstream : DownstreamState
  lastCarried : Option Record
  queued : List (ℤ × Record)

/-- A new connection: keys under `temp:` are not kept from an earlier one. -/
def SlotState.start (value : Record) : SlotState where
  session := ⟨value.eraseAll ["temp:server_message_seq", "temp:last_server_message"], Dict.empty⟩
  downstream := {}
  lastCarried := none
  queued := []

/-- The delta an event carries out of a state. -/
def SlotState.carriedDelta (s : SlotState) : Carried → Option Record
  | .nothing => none
  | .collected => some s.session.delta
  | .again => s.lastCarried

/-- An event that carries a given delta. -/
def Delivery.withDelta (stateDelta : Option Record) : Delivery :=
  { d with event := { d.event with stateDelta := stateDelta } }

/-- Callbacks and the downstream task, one step at a time. -/
def slotMachine : EventMachine SlotState SlotEvent Unit where
  step s e := match e with
    | .queue payload => match queueServerMessage ctx s.session payload with
      | .ok (session, messageId) =>
        ({ s with session := session, queued := (messageId, payload) :: s.queued }, ())
      | .error _ => (s, ())
    | .live d carried =>
      let downstream := s.downstream.handle ctx (d.withDelta (s.carriedDelta carried))
      match carried with
      | .collected => ({ s with
          session := { s.session with delta := Dict.empty },
          downstream := downstream,
          lastCarried := some s.session.delta }, ())
      | _ => ({ s with downstream := downstream }, ())

/-! ## What is sent -/

/-- A queued message as the client gets it: its id is left out. -/
def withoutId (payload : List (String × PyValue)) : List (String × PyValue) :=
  payload.filter fun e => e.1 ≠ "id"

/-- The structured messages of a log. -/
def structuredSent (log : List ServerMessage) : List (List (String × PyValue)) :=
  log.filterMap fun message => match message with
    | .structured payload => some payload
    | _ => none

/-- Does a message wait in the slot for the next event? -/
def SlotState.waits (s : SlotState) : Bool :=
  (s.session.delta.get? "temp:last_server_message").isSome

/-- Every queued message was sent, except the one that waits for the next event: each once, and in
    the order of their ids. -/
def AllSent (s : SlotState) : Prop :=
  structuredSent s.downstream.sent =
      (if s.waits then s.queued.tail else s.queued).map (fun q => withoutId q.2.entries) ∧
    s.queued.Pairwise (fun newer older => older.1 < newer.1)

/-- Nothing raises while the event is handled: the socket takes every send made for it and every
    audio part can be decoded. -/
def Delivery.Smooth (s : DownstreamState) : Prop :=
  (∀ i < (s.handle ctx d).attempts, d.accepts i = true) ∧
    ∀ part ∈ d.event.parts, ∀ data, part.audio? = some data → data.decode?.isSome = true

/-- The steps that lose nothing: a message with a `type` is queued when none waits, and an event
    that carries a waiting message is handled smoothly. -/
def Timely (s : SlotState) : SlotEvent → Prop
  | .queue payload => s.waits = false ∧ (payload.value "type").str?.isSome = true
  | .live d .collected =>
    s.waits = true → (d.withDelta (some s.session.delta)).Smooth ctx s.downstream
  | .live _ _ => True

/-! ## What an event does to the structured messages -/

/-- What the downstream task knows of structured messages: the last id, and what was sent. -/
def structuredView (s : DownstreamState) : ℤ × List (List (String × PyValue)) :=
  (s.lastStructuredMessageId, structuredSent s.sent)

/-- The view after an event that carries `stateDelta` and is handled to its end. -/
def relayedView (stateDelta : Option Record) (v : ℤ × List (List (String × PyValue))) :
    ℤ × List (List (String × PyValue)) :=
  match extractServerMessageFromStateDelta stateDelta with
  | none => v
  | some message => match structuredId ctx message with
    | .ok id => if v.1 < id then (id, withoutId message :: v.2) else v
    | .error _ => v

variable {stateDelta : Option Record}

theorem relayedView_none (v : ℤ × List (List (String × PyValue)))
    (h : extractServerMessageFromStateDelta stateDelta = none) :
    relayedView ctx stateDelta v = v := by
  rw [relayedView, h]

variable {message : List (String × PyValue)}

theorem relayedView_raised (v : ℤ × List (List (String × PyValue)))
    (h : extractServerMessageFromStateDelta stateDelta = some message)
    (hid : ∀ id, structuredId ctx message ≠ .ok id) : relayedView ctx stateDelta v = v := by
  rw [relayedView, h]
  cases hmessage : structuredId ctx message with
  | ok id => exact absurd hmessage (hid id)
  | error e => simp only [hmessage]

theorem relayedView_seen {id : ℤ} {v : ℤ × List (List (String × PyValue))}
    (h : extractServerMessageFromStateDelta stateDelta = some message)
    (hid : structuredId ctx message = .ok id) (hseen : ¬ v.1 < id) :
    relayedView ctx stateDelta v = v := by
  rw [relayedView, h]
  simp only [hid, if_neg hseen]

theorem relayedView_new {id : ℤ} {v : ℤ × List (List (String × PyValue))}
    (h : extractServerMessageFromStateDelta stateDelta = some message)
    (hid : structuredId ctx message = .ok id) (hnew : v.1 < id) :
    relayedView ctx stateDelta v = (id, withoutId message :: v.2) := by
  rw [relayedView, h]
  simp only [hid, if_pos hnew]

/-- Why handling an event was cut short: a send made for it was refused, or audio in it cannot be
    decoded. -/
def Delivery.CutShort (s : DownstreamState) : Prop :=
  (∃ i < s.attempts, d.accepts i = false) ∨
    ∃ part ∈ d.event.parts, ∃ data, part.audio? = some data ∧ data.decode? = none

theorem Delivery.CutShort.not_smooth {s : DownstreamState} (h : d.CutShort (s.handle ctx d)) :
    ¬ d.Smooth ctx s := by
  rintro ⟨haccepts, hdecodes⟩
  rcases h with ⟨i, hi, hrefused⟩ | ⟨part, hpart, data, haudio, hdecode⟩
  · rw [haccepts i hi] at hrefused
    cases hrefused
  · have hsome := hdecodes part hpart data haudio
    rw [hdecode] at hsome
    cases hsome

section Frames

variable (v : ℤ × List (List (String × PyValue)))

theorem send_view (message : ServerMessage)
    (hmessage : ∀ log, structuredSent (message :: log) = structuredSent log) :
    ⦃fun s => ⌜structuredView s = v⌝⦄ send d message
    ⦃post⟨fun _ s => ⌜structuredView s = v⌝,
      fun _ s => ⌜structuredView s = v ∧ d.CutShort s⌝⟩⦄ := by
  mvcgen [send_spec]
  case vc1.post.success s h _ s' =>
    rintro rfl
    rw [structuredView, hmessage]
    exact h
  case vc2.post.except.handle s h _ s' =>
    rintro rfl hrefused
    exact ⟨h, .inl ⟨_, Nat.lt_succ_self _, hrefused⟩⟩

theorem sendContent_view :
    ⦃fun s => ⌜structuredView s = v⌝⦄ sendContent ctx d
    ⦃post⟨fun _ s => ⌜structuredView s = v⌝,
      fun _ s => ⌜structuredView s = v ∧ d.CutShort s⌝⟩⦄ := by
  mvcgen [sendContent, sendContentPart, send_view] invariants
  · post⟨fun _ s => ⌜structuredView s = v⌝, fun _ s => ⌜structuredView s = v ∧ d.CutShort s⌝⟩
  case vc4.step.h_1.h_2 pre part post hparts _ s hs data haudio _ hnone hdecode =>
    -- audio that cannot be decoded
    have hmem : part ∈ d.event.parts := by rw [hparts]; simp
    rw [← hdecode] at hnone
    exact ⟨hs, .inr ⟨part, hmem, data, haudio,
      Option.eq_none_iff_forall_ne_some.2 hnone⟩⟩
  all_goals simp_all [structuredSent]

theorem relayInput_view :
    ⦃fun s => ⌜structuredView s = v⌝⦄ relayInput ctx d
    ⦃post⟨fun _ s => ⌜structuredView s = v⌝,
      fun _ s => ⌜structuredView s = v ∧ d.CutShort s⌝⟩⦄ := by
  mvcgen [relayInput, send_view] <;> simp_all +zetaDelta [structuredView, structuredSent]

theorem finalizeInput_view :
    ⦃fun s => ⌜structuredView s = v⌝⦄ finalizeInput ctx d
    ⦃post⟨fun _ s => ⌜structuredView s = v⌝,
      fun _ s => ⌜structuredView s = v ∧ d.CutShort s⌝⟩⦄ := by
  mvcgen [finalizeInput, send_view] <;> simp_all +zetaDelta [structuredView, structuredSent]

theorem finalizeOutput_view :
    ⦃fun s => ⌜structuredView s = v⌝⦄ finalizeOutput d
    ⦃post⟨fun _ s => ⌜structuredView s = v⌝,
      fun _ s => ⌜structuredView s = v ∧ d.CutShort s⌝⟩⦄ := by
  mvcgen [finalizeOutput, send_view] <;> simp_all +zetaDelta [structuredView, structuredSent]

theorem relayOutput_view :
    ⦃fun s => ⌜structuredView s = v⌝⦄ relayOutput ctx d
    ⦃post⟨fun _ s => ⌜structuredView s = v⌝,
      fun _ s => ⌜structuredView s = v ∧ d.CutShort s⌝⟩⦄ := by
  mvcgen [relayOutput, finalizeInput_view, send_view] <;> simp_all +zetaDelta [structuredView,
    structuredSent]

theorem relayInterrupted_view :
    ⦃fun s => ⌜structuredView s = v⌝⦄ relayInterrupted ctx d
    ⦃post⟨fun _ s => ⌜structuredView s = v⌝,
      fun _ s => ⌜structuredView s = v ∧ d.CutShort s⌝⟩⦄ := by
  mvcgen [relayInterrupted, finalizeInput_view, finalizeOutput_view, send_view] <;> simp_all
    [structuredSent]

theorem relayTransfer_view :
    ⦃fun s => ⌜structuredView s = v⌝⦄ relayTransfer d
    ⦃post⟨fun _ s => ⌜structuredView s = v⌝,
      fun _ s => ⌜structuredView s = v ∧ d.CutShort s⌝⟩⦄ := by
  mvcgen [relayTransfer, send_view] <;> simp_all +zetaDelta [structuredView, structuredSent]

/-- A message whose id is new is sent, unless the socket refuses it. -/
theorem relayStructured_view :
    ⦃fun s => ⌜structuredView s = v⌝⦄ relayStructured ctx d
    ⦃post⟨fun _ s => ⌜structuredView s = relayedView ctx d.event.stateDelta v⌝,
      fun _ s => ⌜structuredView s = relayedView ctx d.event.stateDelta v ∨
        (structuredView s = v ∧ d.CutShort s)⌝⟩⦄ := by
  mvcgen [relayStructured, send_spec]
  case vc1.h_1.h_1.isTrue.post.success message hmessage id hid s hs hnew _ s' hs' t =>
    subst hs hs'
    exact (relayedView_new ctx (v := structuredView s) hmessage hid hnew).symm
  case vc2.h_1.h_1.isTrue.post.except.handle message _ id _ s hs hnew _ s' =>
    rintro rfl hrefused
    exact .inr ⟨hs, .inl ⟨_, Nat.lt_succ_self _, hrefused⟩⟩
  case vc3.h_1.h_1.isFalse message hmessage id hid s hs hseen =>
    subst hs
    exact (relayedView_seen ctx (v := structuredView s) hmessage hid hseen).symm
  case vc4.h_1.h_2 message hmessage result hraised hresult s hs =>
    rw [← hresult] at hraised
    exact .inl (hs.trans (relayedView_raised ctx v hmessage hraised).symm)
  case vc5.h_2 found hnone hfound s hs =>
    rw [← hfound] at hnone
    rw [relayedView_none ctx v (Option.eq_none_iff_forall_ne_some.2 hnone)]
    exact hs

theorem relayTurnComplete_view :
    ⦃fun s => ⌜structuredView s = v⌝⦄ relayTurnComplete ctx d
    ⦃post⟨fun _ s => ⌜structuredView s = v⌝,
      fun _ s => ⌜structuredView s = v ∧ d.CutShort s⌝⟩⦄ := by
  mvcgen [relayTurnComplete, finalizeInput_view, finalizeOutput_view, send_view] <;>
    simp_all +zetaDelta [structuredView, structuredSent]

theorem countUsage_view :
    ⦃fun s => ⌜structuredView s = v⌝⦄ countUsage ctx d
    ⦃post⟨fun _ s => ⌜structuredView s = v⌝,
      fun _ s => ⌜structuredView s = v ∧ d.CutShort s⌝⟩⦄ := by
  mvcgen [countUsage, send_view]
  all_goals simp_all +zetaDelta [structuredView, structuredSent]

theorem relayResumption_view :
    ⦃fun s => ⌜structuredView s = v⌝⦄ relayResumption d
    ⦃post⟨fun _ s => ⌜structuredView s = v⌝,
      fun _ s => ⌜structuredView s = v ∧ d.CutShort s⌝⟩⦄ := by
  mvcgen [relayResumption, send_view]
  all_goals simp_all +zetaDelta [structuredView, structuredSent]

theorem relayGoAway_view :
    ⦃fun s => ⌜structuredView s = v⌝⦄ relayGoAway d
    ⦃post⟨fun _ s => ⌜structuredView s = v⌝,
      fun _ s => ⌜structuredView s = v ∧ d.CutShort s⌝⟩⦄ := by
  mvcgen [relayGoAway, send_view]
  all_goals simp_all +zetaDelta [structuredView, structuredSent]

theorem relayEvent_view :
    ⦃fun s => ⌜structuredView s = v⌝⦄ relayEvent ctx d
    ⦃post⟨fun _ s => ⌜structuredView s = relayedView ctx d.event.stateDelta v⌝,
      fun _ s => ⌜structuredView s = relayedView ctx d.event.stateDelta v ∨
        (structuredView s = v ∧ d.CutShort s)⌝⟩⦄ := by
  mvcgen [relayEvent, sendContent_view, relayInput_view, relayOutput_view, relayInterrupted_view,
    relayTransfer_view, relayStructured_view, relayTurnComplete_view, countUsage_view,
    relayResumption_view, relayGoAway_view]
  all_goals simp_all

end Frames

/-- One event sends the message it carries, or was not handled smoothly and sends no message. -/
theorem handle_view (s : DownstreamState) :
    structuredView (s.handle ctx d) = relayedView ctx d.event.stateDelta (structuredView s) ∨
      (structuredView (s.handle ctx d) = structuredView s ∧ ¬ d.Smooth ctx s) := by
  have h := attempt_of_triple (relayEvent_view ctx d (structuredView s))
    (s := { s with attempts := 0 }) rfl
  rcases h with h | h | ⟨h, hcut⟩
  · exact .inl h
  · exact .inl h
  · exact .inr ⟨h, hcut.not_smooth ctx d⟩

/-! ## The slot along a run -/

/-- What is known of the slot in every state of a run whose steps are all timely. -/
structure SlotInv (s : SlotState) : Prop where
  next : nextServerMessageId ctx s.session = .ok (s.queued.length + 1)
  /-- the counter survives the event that carries the delta -/
  nextCarried : nextServerMessageId ctx { s.session with delta := Dict.empty } =
    .ok (s.queued.length + 1)
  ids : s.queued.Pairwise (fun newer older => older.1 < newer.1)
  bound : ∀ q ∈ s.queued, q.1 ≤ s.queued.length
  /-- a delta that was carried before has nothing new -/
  spent : ∀ v : ℤ × List (List (String × PyValue)), s.downstream.lastStructuredMessageId ≤ v.1 →
    relayedView ctx s.lastCarried v = v

/-- No message waits: all were sent. -/
structure SlotEmpty (s : SlotState) : Prop where
  slot : s.session.delta.get? "temp:last_server_message" = none
  sent : structuredSent s.downstream.sent = s.queued.map (fun q => withoutId q.2.entries)
  last : s.downstream.lastStructuredMessageId ≤ s.queued.length

/-- The message queued last waits, and all before it were sent. -/
structure SlotFull (s : SlotState) (id : ℤ) (payload : Record) (older : List (ℤ × Record)) :
    Prop where
  queued : s.queued = (id, payload) :: older
  slot : s.session.delta.get? "temp:last_server_message" =
    some (.dict (payload.set "id" (.int id)).entries)
  typed : (payload.value "type").str?.isSome = true
  sent : structuredSent s.downstream.sent = older.map (fun q => withoutId q.2.entries)
  last : s.downstream.lastStructuredMessageId < id

/-- The invariant of a timely run. -/
def SlotOk (s : SlotState) : Prop :=
  SlotInv ctx s ∧ (SlotEmpty s ∨ ∃ id payload older, SlotFull s id payload older)

variable {s : SlotState}

theorem SlotOk.allSent (h : SlotOk ctx s) : AllSent s := by
  obtain ⟨hinv, hempty | ⟨id, payload, older, hfull⟩⟩ := h
  · have hwaits : s.waits = false := by rw [SlotState.waits, hempty.slot]; rfl
    refine ⟨?_, hinv.ids⟩
    rw [hwaits, if_neg Bool.false_ne_true, hempty.sent]
  · have hwaits : s.waits = true := by rw [SlotState.waits, hfull.slot]; rfl
    refine ⟨?_, hinv.ids⟩
    rw [hwaits, if_pos rfl, hfull.sent, hfull.queued, List.tail_cons]

theorem slotOk_start (value : Record) : SlotOk ctx (.start value) := by
  have hvalue : (value.eraseAll ["temp:server_message_seq", "temp:last_server_message"]).get?
      "temp:server_message_seq" = none := by
    rw [Dict.get?_eq_none_iff, Dict.keys, Dict.entries_eraseAll, List.mem_map]
    rintro ⟨e, he, hkey⟩
    have hnot := (List.mem_filter.1 he).2
    rw [hkey] at hnot
    simp at hnot
  have hnext : nextServerMessageId ctx (SlotState.start value).session = .ok (0 + 1) := by
    rw [nextServerMessageId, CallbackState.get, SlotState.start, Dict.get?_empty, Option.none_or,
      hvalue, Option.getD_none, PyValue.toInt_int]
  refine ⟨⟨hnext, hnext, List.Pairwise.nil, by simp [SlotState.start], fun v _ => rfl⟩,
    .inl ⟨rfl, rfl, ?_⟩⟩
  simp [SlotState.start]

/-- What a callback leaves in the session. -/
def CallbackState.withMessage (state : CallbackState) (messageId : ℤ) (payload : Record) :
    CallbackState :=
  (state.set "temp:server_message_seq" (.int messageId)).set "temp:last_server_message"
    (.dict (payload.set "id" (.int messageId)).entries)

theorem nextServerMessageId_withMessage (state : CallbackState) (messageId : ℤ) (payload : Record) :
    nextServerMessageId ctx (state.withMessage messageId payload) = .ok (messageId + 1) ∧
      nextServerMessageId ctx { state.withMessage messageId payload with delta := Dict.empty } =
        .ok (messageId + 1) := by
  have hkey : ("temp:server_message_seq" : String) ≠ "temp:last_server_message" := by decide
  constructor
  · rw [nextServerMessageId, CallbackState.get, CallbackState.withMessage, CallbackState.set,
      CallbackState.set, Dict.get?_set_of_ne _ _ hkey, Dict.get?_set_self, Option.some_or,
      Option.getD_some, PyValue.toInt_int]
  · rw [nextServerMessageId, CallbackState.get, CallbackState.withMessage, CallbackState.set,
      CallbackState.set, Dict.get?_empty, Option.none_or, Dict.get?_set_of_ne _ _ hkey,
      Dict.get?_set_self, Option.getD_some, PyValue.toInt_int]

theorem SlotOk.queue (h : SlotOk ctx s) (hwaits : s.waits = false)
    {payload : Record} (htype : (payload.value "type").str?.isSome = true) :
    SlotOk ctx ((slotMachine ctx).next s (.queue payload)) := by
  obtain ⟨hinv, hslot⟩ := h
  have hempty : SlotEmpty s := by
    rcases hslot with hempty | ⟨id, payload, older, hfull⟩
    · exact hempty
    · rw [SlotState.waits, hfull.slot] at hwaits
      cases hwaits
  have hnext : (slotMachine ctx).next s (.queue payload) =
      { s with session := s.session.withMessage (s.queued.length + 1) payload,
               queued := ((s.queued.length : ℤ) + 1, payload) :: s.queued } := by
    simp only [EventMachine.next, slotMachine, queueServerMessage, hinv.next]
    rfl
  rw [hnext]
  obtain ⟨hseq, hseqCarried⟩ :=
    nextServerMessageId_withMessage ctx s.session (s.queued.length + 1) payload
  refine ⟨⟨?_, ?_, ?_, ?_, hinv.spent⟩, .inr ⟨_, payload, s.queued, rfl, ?_, htype, hempty.sent,
    ?_⟩⟩
  · rw [hseq, List.length_cons, Nat.cast_succ]
  · rw [hseqCarried, List.length_cons, Nat.cast_succ]
  · exact List.pairwise_cons.2 ⟨fun q hq => by have := hinv.bound q hq; simp only; omega, hinv.ids⟩
  · intro q hq
    rw [List.length_cons, Nat.cast_succ]
    rcases List.mem_cons.1 hq with rfl | hq
    · exact le_rfl
    · have := hinv.bound q hq
      omega
  · exact Dict.get?_set_self _ _ _
  · have := hempty.last
    simp only
    omega

theorem withoutId_set (payload : Record) (v : PyValue) :
    withoutId (payload.set "id" v).entries = withoutId payload.entries :=
  payload.filter_entries_set "id" v

theorem SlotFull.carried {id : ℤ} {payload : Record} {older : List (ℤ × Record)}
    (h : SlotFull s id payload older) :
    extractServerMessageFromStateDelta (some s.session.delta) =
        some (payload.set "id" (.int id)).entries ∧
      structuredId ctx (payload.set "id" (.int id)).entries = .ok id := by
  have htype : (PyValue.lookupD (payload.set "id" (.int id)).entries "type").str?.isSome = true :=
    by
    have hget : (payload.set "id" (.int id)).get? "type" = payload.get? "type" :=
      Dict.get?_set_of_ne _ _ (by decide)
    rw [PyValue.lookupD, PyValue.lookupOr, ← Dict.get?, hget]
    exact h.typed
  constructor
  · rw [extractServerMessageFromStateDelta, Record.value, h.slot]
    simp only [Option.getD_some, htype, if_true]
  · have hid : (payload.set "id" (.int id)).get? "id" = some (.int id) := Dict.get?_set_self _ _ _
    rw [structuredId, PyValue.lookupOr, ← Dict.get?, hid]
    rfl

theorem structuredView_ext {s s' : DownstreamState} (h : structuredView s' = structuredView s) :
    s'.lastStructuredMessageId = s.lastStructuredMessageId ∧
    structuredSent s'.sent = structuredSent s.sent :=
  ⟨congrArg Prod.fst h, congrArg Prod.snd h⟩

/-- An event with nothing new for the client leaves what was sent as it is. -/
theorem handle_nothingNew {s : DownstreamState} {stateDelta : Option Record}
    (h : relayedView ctx stateDelta (structuredView s) = structuredView s) :
    structuredView (s.handle ctx (d.withDelta stateDelta)) = structuredView s := by
  rcases handle_view ctx (d.withDelta stateDelta) s with hview | ⟨hview, -⟩
  · exact hview.trans h
  · exact hview

/-- The downstream task changed, but not what it knows of structured messages. -/
theorem SlotOk.downstream (h : SlotOk ctx s) {downstream : DownstreamState}
    (hview : structuredView downstream = structuredView s.downstream) :
    SlotOk ctx { s with downstream := downstream } := by
  obtain ⟨hlast, hsent⟩ := structuredView_ext hview
  obtain ⟨hinv, hslot⟩ := h
  refine ⟨⟨hinv.next, hinv.nextCarried, hinv.ids, hinv.bound, ?_⟩, ?_⟩
  · intro v hv
    exact hinv.spent v (hlast ▸ hv)
  · rcases hslot with hempty | ⟨id, payload, older, hfull⟩
    · exact .inl ⟨hempty.slot, hsent.trans hempty.sent, hlast.trans_le hempty.last⟩
    · exact .inr ⟨id, payload, older, hfull.queued, hfull.slot, hfull.typed, hsent.trans hfull.sent,
        hlast.trans_lt hfull.last⟩

theorem SlotOk.live_empty (hinv : SlotInv ctx s) (hempty : SlotEmpty s) :
    SlotOk ctx ((slotMachine ctx).next s (.live d .collected)) := by
  have hextract : extractServerMessageFromStateDelta (some s.session.delta) = none := by
    rw [extractServerMessageFromStateDelta, Record.value, hempty.slot]
    rfl
  have hnone := fun v => relayedView_none ctx v hextract
  obtain ⟨hlast, hsent⟩ :=
    structuredView_ext (handle_nothingNew ctx d (hnone (structuredView s.downstream)))
  refine ⟨⟨hinv.nextCarried, hinv.nextCarried, hinv.ids, hinv.bound, fun v _ => hnone v⟩,
    .inl ⟨rfl, ?_, ?_⟩⟩
  · exact hsent.trans hempty.sent
  · exact hlast.trans_le hempty.last

theorem SlotOk.live_full {id : ℤ} {payload : Record} {older : List (ℤ × Record)}
    (hinv : SlotInv ctx s) (hfull : SlotFull s id payload older)
    (hsmooth : (d.withDelta (some s.session.delta)).Smooth ctx s.downstream) :
    SlotOk ctx ((slotMachine ctx).next s (.live d .collected)) := by
  obtain ⟨hextract, hid⟩ := hfull.carried ctx
  have hview : structuredView (s.downstream.handle ctx (d.withDelta (some s.session.delta))) =
      (id, withoutId payload.entries :: structuredSent s.downstream.sent) := by
    rcases handle_view ctx (d.withDelta (some s.session.delta)) s.downstream with hview | ⟨-, hnot⟩
    · rw [hview, ← withoutId_set payload (.int id)]
      exact relayedView_new ctx (v := structuredView s.downstream) hextract hid hfull.last
    · exact absurd hsmooth hnot
  have hlast := congrArg Prod.fst hview
  have hsent := congrArg Prod.snd hview
  refine ⟨⟨hinv.nextCarried, hinv.nextCarried, hinv.ids, hinv.bound, ?_⟩, .inl ⟨rfl, ?_, ?_⟩⟩
  · intro v hv
    refine relayedView_seen ctx hextract hid (not_lt.2 ?_)
    exact le_of_eq_of_le hlast.symm hv
  · have hqueued := hfull.queued
    refine hsent.trans ?_
    rw [hfull.sent]
    show _ = s.queued.map _
    rw [hqueued, List.map_cons]
  · refine le_of_eq_of_le hlast ?_
    exact hinv.bound (id, payload) (by rw [hfull.queued]; exact List.mem_cons_self)

/-- **One timely step** keeps the slot in order. -/
theorem slotOk_next (e : SlotEvent) (h : SlotOk ctx s) (htimely : Timely ctx s e) :
    SlotOk ctx ((slotMachine ctx).next s e) := by
  cases e with
  | queue payload => exact h.queue ctx htimely.1 htimely.2
  | live d carried =>
    cases carried with
    | nothing => exact h.downstream ctx (handle_nothingNew ctx d rfl)
    | collected =>
      obtain ⟨hinv, hempty | ⟨id, payload, older, hfull⟩⟩ := h
      · exact SlotOk.live_empty ctx d hinv hempty
      · have hwaits : s.waits = true := by rw [SlotState.waits, hfull.slot]; rfl
        exact SlotOk.live_full ctx d hinv hfull (htimely hwaits)
    | again => exact h.downstream ctx (handle_nothingNew ctx d (h.1.spent _ le_rfl))

/-- **Server messages.** Along every run in which no message is queued while another one waits, and
    the events that carry a message are handled smoothly: every queued message was sent, except the
    one that waits for the next event, each once and in the order of the ids. -/
theorem serverMessages_allSent (value : Record) (es : List SlotEvent)
    (h : ∀ t ∈ (slotMachine ctx).trace (.start value) es, Timely ctx t.pre t.event) :
    (slotMachine ctx).Always AllSent (.start value) es := by
  have halways := (slotMachine ctx).always_of_guarded (P := SlotOk ctx) (G := Timely ctx)
    (fun s e hs he => slotOk_next ctx e hs he) (slotOk_start ctx value) h
  exact halways.imp (slotMachine ctx) (fun s hs => hs.allSent)

/-! ## Two messages before one event -/

/-- A message queued by a tool callback. -/
def bookingConfirmation : Record :=
  Dict.ofList [("type", .str "booking_confirmation"), ("date", .str "2026-03-02")]

/-- A message queued by a second tool callback. -/
def productRecommendation : Record :=
  Dict.ofList [("type", .str "product_recommendation"), ("products", .list [])]

/-- An event without content, of which every send goes through. -/
def plainEvent : Delivery := ⟨{}, fun _ => true⟩

/-- Each message is carried by an event of its own. -/
def spacedMessages : List SlotEvent :=
  [.queue bookingConfirmation, .live plainEvent .collected, .queue productRecommendation,
    .live plainEvent .nothing, .live plainEvent .collected, .live plainEvent .again]

theorem plainEvent_smooth (ctx : StreamContext) (stateDelta : Option Record) (s : DownstreamState) :
    (plainEvent.withDelta stateDelta).Smooth ctx s :=
  ⟨fun _ _ => rfl, fun _ hpart => absurd hpart List.not_mem_nil⟩

theorem spacedMessages_allSent :
    (slotMachine ⟨true, id, false, .ascii⟩).Always AllSent (.start Dict.empty) spacedMessages := by
  refine serverMessages_allSent _ _ _ ?_
  unfold spacedMessages
  simp only [EventMachine.trace_cons, EventMachine.trace_nil, List.forall_mem_cons,
    List.not_mem_nil,
    false_imp_iff, implies_true, and_true, EventMachine.entry_pre, EventMachine.entry_event]
  exact ⟨⟨by decide +kernel, by decide +kernel⟩, fun _ => plainEvent_smooth _ _ _,
    ⟨by decide +kernel, by decide +kernel⟩, trivial, fun _ => plainEvent_smooth _ _ _, trivial⟩

/-- Two callbacks run before an event carries the first message: the second message takes its
    place. -/
theorem overwrittenMessage_lost :
    ¬ AllSent ((slotMachine ⟨true, id, false, .ascii⟩).run (.start Dict.empty)
      [.queue bookingConfirmation, .queue productRecommendation, .live plainEvent .collected]) := by
  intro h
  have hlength := congrArg List.length h.1
  revert hlength
  decide +kernel

end Ekaette
