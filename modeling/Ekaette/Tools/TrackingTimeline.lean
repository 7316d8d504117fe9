import Ekaette.Admin.RetentionPurge
import Ekaette.Tools.OrderUpdates

set_option autoImplicit false

/-! # The newest event of an order

Tracking updates of one order arrive one after the other, on time or late. Each sets the status of
the order to its own, and it puts its event among the stored ones, sorted by the text of the
timestamp, or puts the events of the provider in their place. The status is that of the newest event
as long as the texts are ordered like the instants and the call reports the newest event. -/

namespace Ekaette

variable (cfg : ShippingConfig)

/-! ## Calls one after the other -/

/-- What the review follow-up of a call writes. -/
structure SentReview where
  message : String
  now : String
  smsSent : Bool
  whatsappSent : Bool
  written : String

/-- A call on an order, with the times that it reads, and its follow-up where one is sent. -/
structure TrackingCall where
  args : UpdateTrackingArgs
  now : String
  written : String
  followup : Option SentReview

variable (place : OrderPlace)

variable (orderId : String)

/-- The order as a call sees it. -/
def seenOrder (stored : Record) : Record :=
  match place with
  | .memory _ => stored
  | .document _ => stored.set "order_id" (.str orderId)

/-- What `_write_order_record` leaves. -/
def putOrder (stored record : Record) (now : String) :
    Record :=
  place.put (some stored) (orderPayload orderId record now)

/-- The record the follow-up writes. -/
def reviewedRecord (order : Record) (review : SentReview) : Record :=
  (order.set "review_followup"
    (.dict (sentFollowup order review.message review.now review.smsSent
      review.whatsappSent).entries)).set
    "updated_at" (.str review.now)

/-- The order that a call leaves. -/
def afterCall (stored : Record) (c : TrackingCall) :
    Record :=
  let updated := putOrder place orderId stored
    (updatedRecord cfg c.args (seenOrder place orderId stored) c.now) c.written
  match c.followup with
  | none => updated
  | some review =>
    putOrder place orderId updated (reviewedRecord (seenOrder place orderId updated) review)
      review.written

/-- Calls on one order, one after the other. -/
def trackingCalls :
    EventMachine Record TrackingCall Unit where
  step stored c := (afterCall cfg place orderId stored c, ())

/-! ## What a call leaves -/

/-- The events before they are sorted. -/
def incomingEvents (a : UpdateTrackingArgs) (events : List PyValue) (now : String) : List PyValue :=
  if a.providerEvents ≠ [] then
    let merged := a.providerEvents.filterMap (a.providerEvent cfg now)
    if merged ≠ [] then merged else events
  else a.insertedEvent cfg now :: events

/-- The order has these events, the tracking this status and the order the one that goes with it. -/
structure Tracks (order : Record) (events : List PyValue) (status : String) : Prop where
  tracking : ∃ tracking : Record, order.get? "tracking" = some (.dict tracking.entries) ∧
    tracking.get? "events" = some (.list events) ∧ tracking.get? "status" = some (.str status)
  status : order.get? "status" = some (.str (resolveOrderStatusFromTracking status))

section Tracks

variable {order stored : Record} {events : List PyValue} {status : String}

theorem Tracks.congr {order' : Record} (h : Tracks order events status)
    (htracking : order'.get? "tracking" = order.get? "tracking")
    (hstatus : order'.get? "status" = order.get? "status") : Tracks order' events status := by
  obtain ⟨tracking, hget, hevents⟩ := h.tracking
  exact ⟨⟨tracking, htracking.trans hget, hevents⟩, hstatus.trans h.status⟩

theorem Tracks.set (h : Tracks order events status) {key : String} (v : PyValue)
    (hkey : key ∉ ["tracking", "status"]) : Tracks (order.set key v) events status := by
  simp only [List.mem_cons, List.not_mem_nil, or_false, not_or] at hkey
  exact h.congr (Dict.get?_set_of_ne _ _ (Ne.symm hkey.1))
    (Dict.get?_set_of_ne _ _ (Ne.symm hkey.2))

/-- What is merged into a document replaces the events and the statuses. -/
theorem Tracks.mergeDeep (h : Tracks order events status) (stored : Record) :
    Tracks (stored.mergeDeep order) events status := by
  obtain ⟨tracking, hget, hevents, hstatus⟩ := h.tracking
  constructor
  · obtain ⟨e, es, hentries⟩ : ∃ e es, tracking.entries = e :: es := by
      cases hentries : tracking.entries with
      | nil =>
        rw [Dict.get?, hentries] at hstatus
        cases hstatus
      | cons e es => exact ⟨e, es, rfl⟩
    have hmerged : ∀ k v, tracking.get? k = some v → (∀ old, mergeValue v old = v) →
        (mergeEntries tracking.entries (Dict.ofList ((stored.value "tracking").dict?.getD []))).get?
        k = some v := by
      intro k v hk hv
      have hlookup : tracking.entries.lookup k = some v := hk
      rw [get?_mergeEntries tracking.nodup, hlookup]
      exact congrArg some (hv _)
    refine ⟨mergeEntries tracking.entries (Dict.ofList ((stored.value "tracking").dict?.getD [])),
      ?_, hmerged _ _ hevents (fun _ => rfl), hmerged _ _ hstatus (fun _ => rfl)⟩
    rw [Record.get?_mergeDeep, hget, hentries]
    show some (mergeValue (.dict (e :: es)) _) = _
    rw [mergeValue]
  · rw [Record.get?_mergeDeep, h.status]
    rfl

theorem Tracks.put (h : Tracks order events status) (place : OrderPlace) (orderId : String)
    (stored : Record) (now : String) :
    Tracks (putOrder place orderId stored order now) events status := by
  have hpayload : Tracks (orderPayload orderId order now) events status :=
    (h.set _ (by decide)).set _ (by decide)
  cases place with
  | memory id => exact hpayload
  | document ref => exact hpayload.mergeDeep stored

theorem Tracks.seen (h : Tracks order events status) (place : OrderPlace) (orderId : String) :
    Tracks (seenOrder place orderId order) events status := by
  cases place with
  | memory id => exact h
  | document ref => exact h.set _ (by decide)

end Tracks

variable (a : UpdateTrackingArgs)

theorem get?_updatedTracking_events (order : Record) (now : String) :
    (updatedTracking cfg a order now).get? "events" =
      some (.list (updatedEvents cfg a (orderEvents (some order)) now)) := by
  unfold updatedTracking
  dsimp only
  rw [Dict.get?_set_of_ne _ _ (by decide), Dict.get?_set_of_ne _ _ (by decide), Dict.get?_set_self,
    trackingEvents_stored]

theorem get?_delivered_status (tracking : Record) (now : String) :
    (match a.deliveredAt with
      | some s => tracking.set "delivered_at" (.str s)
      | none =>
        if a.normalizedStatus cfg = "delivered" ∧
            !(Record.value tracking "delivered_at").truthy then
          tracking.set "delivered_at" (.str now)
        else tracking : Record).get? "status" = tracking.get? "status" := by
  cases a.deliveredAt with
  | some s => exact Dict.get?_set_of_ne _ _ (by decide)
  | none =>
    dsimp only
    split_ifs
    · exact Dict.get?_set_of_ne _ _ (by decide)
    · rfl

theorem get?_estimated_status (tracking : Record) :
    (match a.estimatedDeliveryAt with
      | some s => tracking.set "estimated_delivery_at" (.str s)
      | none => tracking : Record).get? "status" = tracking.get? "status" := by
  cases a.estimatedDeliveryAt with
  | some s => exact Dict.get?_set_of_ne _ _ (by decide)
  | none => rfl

theorem get?_updatedTracking_status (order : Record) (now : String) :
    (updatedTracking cfg a order now).get? "status" = some (.str (a.normalizedStatus cfg)) := by
  have hcleaned : ∀ (tracking : Record) (key : String) (v : Option String), key ≠ "status" →
      (setCleaned tracking key v).get? "status" = tracking.get? "status" := by
    intro tracking key v hkey
    cases v with
    | none => rfl
    | some text => exact Dict.get?_set_of_ne _ _ hkey.symm
  unfold updatedTracking
  dsimp only
  rw [Dict.get?_set_of_ne _ _ (by decide), Dict.get?_set_of_ne _ _ (by decide),
    Dict.get?_set_of_ne _ _ (by decide)]
  refine (get?_delivered_status cfg a _ now).trans ((get?_estimated_status a _).trans ?_)
  rw [hcleaned _ _ _ (by decide), hcleaned _ _ _ (by decide), Dict.get?_set_of_ne _ _ (by decide),
    Dict.get?_set_self]

/-- **What an update writes.** -/
theorem tracks_updatedRecord (order : Record) (now : String) :
    Tracks (updatedRecord cfg a order now) (updatedEvents cfg a (orderEvents (some order)) now)
      (a.normalizedStatus cfg) := by
  constructor
  · refine ⟨updatedTracking cfg a order now, ?_, get?_updatedTracking_events cfg a order now,
      get?_updatedTracking_status cfg a order now⟩
    unfold updatedRecord
    rw [Dict.get?_set_of_ne _ _ (by decide), Dict.get?_set_of_ne _ _ (by decide),
      Dict.get?_set_self]
  · unfold updatedRecord
    rw [Dict.get?_set_of_ne _ _ (by decide), Dict.get?_set_self]

theorem orderEvents_seen (place : OrderPlace) (orderId : String) (stored : Record) :
    orderEvents (some (seenOrder place orderId stored)) = orderEvents (some stored) := by
  cases place with
  | memory id => rfl
  | document ref =>
    rw [orderEvents, orderEvents, Option.bind_some, Option.bind_some, seenOrder,
      dictAt_set_of_ne _ _ (by decide)]

/-- **What a call leaves**: the follow-up changes neither events nor statuses. -/
theorem tracks_afterCall (place : OrderPlace) (orderId : String) (stored : Record)
    (c : TrackingCall) : Tracks (afterCall cfg place orderId stored c)
    (updatedEvents cfg c.args (orderEvents (some stored)) c.now)
      (c.args.normalizedStatus cfg) := by
  have hwritten := (tracks_updatedRecord cfg c.args (seenOrder place orderId stored) c.now).put
    place orderId stored c.written
  rw [orderEvents_seen] at hwritten
  rw [afterCall]
  cases c.followup with
  | none => exact hwritten
  | some review =>
    exact (((hwritten.seen place orderId).set _ (by decide)).set _ (by decide)).put place orderId
      _ _

theorem Tracks.orderEvents_eq {order : Record} {events : List PyValue} {status : String}
    (h : Tracks order events status) (hevents : ∀ e ∈ events, isEvent e = true) :
    orderEvents (some order) = events := by
  obtain ⟨tracking, hget, hlist, -⟩ := h.tracking
  have hdict : dictAt order "tracking" = some tracking := by
    rw [dictAt, Record.value, hget]
    show some (Dict.ofList tracking.entries) = _
    rw [Dict.ofList_entries]
  rw [orderEvents, Option.bind_some, hdict]
  show trackingEvents tracking = events
  rw [trackingEvents, Record.value, hlist]
  exact List.filter_eq_self.2 hevents

/-! ## The newest event -/

variable (fromisoformat : String → Option IsoDatetime)

/-- The instant of an event, in microseconds; a text without an offset is in UTC. -/
def eventInstant (event : PyValue) : Option ℤ :=
  (fromisoformat (eventTime cfg event)).map (fun parsed => parsed.wall - parsed.utcOffset.getD 0)

/-- `event.get("status")` -/
def eventStatus (event : PyValue) : PyValue := PyValue.lookupD (event.dict?.getD []) "status"

/-- The first event is not later than the second. -/
def NotLater (e f : PyValue) : Prop :=
  ∀ i j, eventInstant cfg fromisoformat e = some i → eventInstant cfg fromisoformat f = some j →
    i ≤ j

/-- No event is later. -/
def Latest (events : List PyValue) (e : PyValue) :
    Prop :=
  ∀ f ∈ events, NotLater cfg fromisoformat f e

/-- **The newest event leads**: the events are stored with the newest first, the status of the
    tracking is that of the newest, and the order is fulfilled when this is delivered. -/
structure NewestLeads (fromisoformat : String → Option IsoDatetime) (order : Record) : Prop where
  sorted : (orderEvents (some order)).Pairwise (fun e f => NotLater cfg fromisoformat f e)
  status : ∀ e ∈ orderEvents (some order), Latest cfg fromisoformat (orderEvents (some order)) e →
    ∃ tracking, dictAt order "tracking" = some tracking ∧ tracking.value "status" = eventStatus e
  fulfilled : ∀ e ∈ orderEvents (some order), Latest cfg fromisoformat (orderEvents (some order))
    e → eventStatus e = .str "delivered" → order.value "status" = .str "fulfilled"

/-- The texts of these events are ordered like the instants. -/
def TextsFollow (events : List PyValue) : Prop :=
  ∀ e ∈ events, ∀ f ∈ events, ¬ NotLater cfg fromisoformat f e → eventTime cfg e < eventTime cfg f

/-- **On time**: among the events that a call brings together, its own with the stored ones or those
    of the provider, the texts are ordered like the instants, and the newest have the status of the
    call. -/
structure OnTime (fromisoformat : String → Option IsoDatetime) (stored : Record)
    (c : TrackingCall) : Prop where
  texts : TextsFollow cfg fromisoformat (incomingEvents cfg c.args (orderEvents (some stored))
    c.now)
  newest : ∀ e ∈ incomingEvents cfg c.args (orderEvents (some stored)) c.now,
    Latest cfg fromisoformat (incomingEvents cfg c.args (orderEvents (some stored)) c.now) e →
      eventStatus e = .str (c.args.normalizedStatus cfg)

section Newest

variable {fromisoformat : String → Option IsoDatetime} {events : List PyValue}

theorem sortEvents_pairwise (events : List PyValue) :
    (sortEvents cfg events).Pairwise (fun e f => eventTime cfg f ≤ eventTime cfg e) := by
  have htrans : ∀ a b c : PyValue, decide (eventTime cfg b ≤ eventTime cfg a) = true →
      decide (eventTime cfg c ≤ eventTime cfg b) = true →
      decide (eventTime cfg c ≤ eventTime cfg a) = true := by
    intro a b c hab hbc
    rw [decide_eq_true_eq] at hab hbc ⊢
    exact String.le_trans hbc hab
  have htotal : ∀ a b : PyValue,
      (decide (eventTime cfg b ≤ eventTime cfg a) || decide (eventTime cfg a ≤ eventTime cfg b)) =
      true := by
    intro a b
    rw [Bool.or_eq_true, decide_eq_true_eq, decide_eq_true_eq]
    exact String.le_total _ _
  have h := List.pairwise_mergeSort htrans htotal events
  exact h.imp (fun hle => of_decide_eq_true hle)

theorem TextsFollow.sorted (h : TextsFollow cfg fromisoformat events) :
    ((sortEvents cfg events).take 50).Pairwise (fun e f => NotLater cfg fromisoformat f e) := by
  refine (List.Pairwise.and_mem.1 (sortEvents_pairwise cfg events)).imp ?_ |>.sublist
    (List.take_sublist _ _)
  rintro e f ⟨he, hf, hle⟩
  by_contra hlater
  exact absurd hle
    (String.not_le.2 (h e (List.mem_mergeSort.1 he) f (List.mem_mergeSort.1 hf) hlater))

theorem TextsFollow.latest (h : TextsFollow cfg fromisoformat events) {e : PyValue}
    (he : e ∈ (sortEvents cfg events).take 50)
    (hlatest : Latest cfg fromisoformat ((sortEvents cfg events).take 50) e) :
    Latest cfg fromisoformat events e := by
  intro f hf
  have hsorted := sortEvents_pairwise cfg events
  rw [← List.take_append_drop 50 (sortEvents cfg events), List.pairwise_append] at hsorted
  have hmem : f ∈ (sortEvents cfg events).take 50 ++ (sortEvents cfg events).drop 50 := by
    rw [List.take_append_drop]
    exact List.mem_mergeSort.2 hf
  rcases List.mem_append.1 hmem with hkept | hdropped
  · exact hlatest f hkept
  · by_contra hlater
    have hlt := h e (List.mem_mergeSort.1 (List.mem_of_mem_take he)) f hf hlater
    exact absurd (hsorted.2.2 e he f hdropped) (String.not_le.2 hlt)

theorem orderEvents_afterCall (place : OrderPlace) (orderId : String) (stored : Record)
    (c : TrackingCall) : orderEvents (some (afterCall cfg place orderId stored c)) =
      (sortEvents cfg (incomingEvents cfg c.args (orderEvents (some stored)) c.now)).take 50 :=
  (tracks_afterCall cfg place orderId stored c).orderEvents_eq (fun _ he =>
    isEvent_of_mem_updatedEvents cfg c.args (fun _ he => isEvent_of_mem_orderEvents he) he)

/-- **A call on time** leaves the newest event leading. -/
theorem newestLeads_afterCall (place : OrderPlace) (orderId : String) {stored : Record}
    {c : TrackingCall} (h : OnTime cfg fromisoformat stored c) :
    NewestLeads cfg fromisoformat (afterCall cfg place orderId stored c) := by
  have htracks := tracks_afterCall cfg place orderId stored c
  have hevents := orderEvents_afterCall cfg place orderId stored c
  have hnewest : ∀ e ∈ orderEvents (some (afterCall cfg place orderId stored c)),
      Latest cfg fromisoformat (orderEvents (some (afterCall cfg place orderId stored c))) e →
        eventStatus e = .str (c.args.normalizedStatus cfg) := by
    intro e he hlatest
    rw [hevents] at he hlatest
    exact h.newest e (List.mem_mergeSort.1 (List.mem_of_mem_take he))
      (h.texts.latest cfg he hlatest)
  constructor
  · rw [hevents]
    exact h.texts.sorted cfg
  · intro e he hlatest
    obtain ⟨tracking, hget, -, hstatus⟩ := htracks.tracking
    refine ⟨tracking, ?_, ?_⟩
    · rw [dictAt, Record.value, hget]
      show some (Dict.ofList tracking.entries) = _
      rw [Dict.ofList_entries]
    · rw [Record.value, hstatus, hnewest e he hlatest]
      rfl
  · intro e he hlatest hdelivered
    rw [hnewest e he hlatest] at hdelivered
    rw [Record.value, htracks.status, PyValue.str.inj hdelivered]
    rfl

/-- As long as no event is dropped, only a call on time does so. -/
theorem onTime_of_newestLeads {place : OrderPlace} {orderId : String} {stored : Record}
    {c : TrackingCall}
    (hlength : (incomingEvents cfg c.args (orderEvents (some stored)) c.now).length ≤ 50)
    (h : NewestLeads cfg fromisoformat (afterCall cfg place orderId stored c)) :
    OnTime cfg fromisoformat stored c := by
  have hevents := orderEvents_afterCall cfg place orderId stored c
  rw [List.take_of_length_le (by rwa [sortEvents, List.length_mergeSort])] at hevents
  have hmem : ∀ e, e ∈ orderEvents (some (afterCall cfg place orderId stored c)) ↔
      e ∈ incomingEvents cfg c.args (orderEvents (some stored)) c.now := by
    intro e
    rw [hevents, sortEvents, List.mem_mergeSort]
  constructor
  · intro e he f hf hlater
    have hboth := (hevents ▸ h.sorted).and (sortEvents_pairwise cfg _)
    have hordered := List.Pairwise.forall_of_forall_of_flip
      (R := fun a b => a = b ∨
        (NotLater cfg fromisoformat b a ∧ eventTime cfg b ≤ eventTime cfg a) ∨
        (NotLater cfg fromisoformat a b ∧ eventTime cfg a ≤ eventTime cfg b))
      (fun _ _ => Or.inl rfl) (hboth.imp (fun hab => Or.inr (Or.inl hab)))
      (hboth.imp (fun hab => Or.inr (Or.inr hab))) (List.mem_mergeSort.2 he)
      (List.mem_mergeSort.2 hf)
    rcases hordered with rfl | hnot | hle
    · refine absurd (fun i j hi hj => ?_) hlater
      rw [hi] at hj
      exact (Option.some.inj hj).le
    · exact absurd hnot.1 hlater
    · by_contra hnot
      have heq : eventTime cfg e = eventTime cfg f :=
        String.le_antisymm hle.2 (String.not_lt.1 hnot)
      refine hlater (fun i j hi hj => ?_)
      rw [eventInstant, ← heq, ← eventInstant, hj] at hi
      exact (Option.some.inj hi).ge
  · intro e he hlatest
    have hlatest' :
        Latest cfg fromisoformat (orderEvents (some (afterCall cfg place orderId stored c))) e :=
      fun f hf => hlatest f ((hmem f).1 hf)
    obtain ⟨tracking, htracking, hstatus⟩ := h.status e ((hmem e).2 he) hlatest'
    obtain ⟨written, hget, -, hwritten⟩ := (tracks_afterCall cfg place orderId stored c).tracking
    rw [dictAt, Record.value, hget] at htracking
    have hsame : Dict.ofList written.entries = tracking := Option.some.inj htracking
    rw [← hstatus, ← hsame, Dict.ofList_entries, Record.value, hwritten]
    rfl

/-- **The newest event leads** after every call of a run whose calls are all on time. -/
theorem newestLeads_run (fromisoformat : String → Option IsoDatetime) (place : OrderPlace)
    (orderId : String) (stored : Record) (calls : List TrackingCall)
    (h : ∀ t ∈ (trackingCalls cfg place orderId).trace stored calls,
      OnTime cfg fromisoformat t.pre t.event) :
    ∀ t ∈ (trackingCalls cfg place orderId).trace stored calls,
      NewestLeads cfg fromisoformat ((trackingCalls cfg place orderId).next t.pre t.event) := by
  intro t ht
  exact newestLeads_afterCall cfg place orderId (h t ht)

end Newest

/-! ### A late update -/

/-- Two instants. -/
def twoDays : String → Option IsoDatetime
  | "2026-03-01T10:00:00+00:00" => some ⟨739675 * microsPerDay + 36000000000, some 0⟩
  | "2026-03-02T10:00:00+00:00" => some ⟨739676 * microsPerDay + 36000000000, some 0⟩
  | _ => none

/-- An update of an order. -/
def statusCall (status timestamp : String) : TrackingCall where
  args := { orderId := "ord-1", trackingStatus := status, eventTimestamp := some timestamp }
  now := "2026-03-02T10:00:00+00:00"
  written := "2026-03-02T10:00:00+00:00"
  followup := none

def newOrder : Record := Dict.ofList [("order_id", .str "ord-1"), ("status", .str "created")]

def deliveredCall : TrackingCall := statusCall "delivered" "2026-03-02T10:00:00+00:00"

theorem newestLeads_run_delivered :
    (∀ t ∈ (trackingCalls memoryShipping (.memory "ord-1") "ord-1").trace newOrder [deliveredCall],
      OnTime memoryShipping twoDays t.pre t.event) ∧
      ∀ t ∈ (trackingCalls memoryShipping (.memory "ord-1") "ord-1").trace newOrder [deliveredCall],
        NewestLeads memoryShipping twoDays
          ((trackingCalls memoryShipping (.memory "ord-1") "ord-1").next t.pre t.event) := by
  have htime : ∀ t ∈ (trackingCalls memoryShipping (.memory "ord-1") "ord-1").trace newOrder
      [deliveredCall], OnTime memoryShipping twoDays t.pre t.event := by
    intro t ht
    rw [List.mem_singleton.1 ht]
    have hincoming : incomingEvents memoryShipping deliveredCall.args (orderEvents (some newOrder))
      deliveredCall.now =
        [deliveredCall.args.insertedEvent memoryShipping deliveredCall.now] := rfl
    constructor
    · intro e he f hf hlater
      rw [EventMachine.entry_pre, EventMachine.entry_event, hincoming] at he hf
      refine absurd (fun i j hi hj => ?_) hlater
      rw [List.mem_singleton.1 he] at hj
      rw [List.mem_singleton.1 hf, hj] at hi
      exact (Option.some.inj hi).ge
    · intro e he hlatest
      rw [EventMachine.entry_pre, EventMachine.entry_event, hincoming] at he
      rw [List.mem_singleton.1 he]
      rfl
  exact ⟨htime, newestLeads_run memoryShipping twoDays (.memory "ord-1") "ord-1" newOrder
    [deliveredCall] htime⟩

/-- An update of the day before. -/
def lateCall : TrackingCall := statusCall "in_transit" "2026-03-01T10:00:00+00:00"

/-- The order after it was delivered, and after the late update. -/
def lateOrder : Record :=
  afterCall memoryShipping (.memory "ord-1") "ord-1"
    (afterCall memoryShipping (.memory "ord-1") "ord-1" newOrder deliveredCall) lateCall

theorem mem_lateOrder_events (e : PyValue) : e ∈ orderEvents (some lateOrder) ↔
    e = lateCall.args.insertedEvent memoryShipping lateCall.now ∨
      e = deliveredCall.args.insertedEvent memoryShipping deliveredCall.now := by
  have hdelivered :
    orderEvents (some (afterCall memoryShipping (.memory "ord-1") "ord-1" newOrder deliveredCall)) =
      [deliveredCall.args.insertedEvent memoryShipping deliveredCall.now] := by
    rw [orderEvents_afterCall]
    exact congrArg (List.take 50) (List.mergeSort_singleton _)
  rw [lateOrder, orderEvents_afterCall, hdelivered, List.take_of_length_le, sortEvents,
    List.mem_mergeSort]
  · show e ∈ [_, _] ↔ _
    simp
  · rw [sortEvents, List.length_mergeSort]
    show 2 ≤ 50
    decide

/-- The late update gives the order its own status, and the newest event is still the delivery. -/
theorem lateCalls_notLeading :
    ¬ ∀ t ∈ (trackingCalls memoryShipping (.memory "ord-1") "ord-1").trace newOrder [deliveredCall,
      lateCall], NewestLeads memoryShipping twoDays
        ((trackingCalls memoryShipping (.memory "ord-1") "ord-1").next t.pre t.event) := by
  intro h
  have hlast : NewestLeads memoryShipping twoDays lateOrder := h
    ((trackingCalls memoryShipping (.memory "ord-1") "ord-1").entry
      (afterCall memoryShipping (.memory "ord-1") "ord-1" newOrder deliveredCall) lateCall)
    (List.mem_cons_of_mem _ List.mem_cons_self)
  have hlatest : Latest memoryShipping twoDays (orderEvents (some lateOrder))
      (deliveredCall.args.insertedEvent memoryShipping deliveredCall.now) := by
    intro f hf i j hi hj
    rcases (mem_lateOrder_events f).1 hf with rfl | rfl
    · have hlate : eventInstant memoryShipping twoDays
        (lateCall.args.insertedEvent memoryShipping lateCall.now) =
          some (739675 * microsPerDay + 36000000000) := by
        decide +kernel
      have hdelivered : eventInstant memoryShipping twoDays
          (deliveredCall.args.insertedEvent memoryShipping deliveredCall.now) =
          some (739676 * microsPerDay + 36000000000) := by
        decide +kernel
      rw [hlate] at hi
      rw [hdelivered] at hj
      rw [← Option.some.inj hi, ← Option.some.inj hj]
      decide
    · rw [hi] at hj
      exact (Option.some.inj hj).le
  obtain ⟨tracking, htracking, hstatus⟩ :=
    hlast.status _ ((mem_lateOrder_events _).2 (.inr rfl)) hlatest
  have hlate :
    (dictAt lateOrder "tracking").map (fun tracking => (tracking.value "status").coerceStr) =
      some "in_transit" := by
    decide +kernel
  rw [htracking, Option.map_some, hstatus] at hlate
  exact absurd hlate (by decide +kernel)

end Ekaette
