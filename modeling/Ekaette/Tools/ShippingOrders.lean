import Ekaette.Lib.ProgramPool
import Ekaette.Tools.ScopedQueries

set_option autoImplicit false

/-! # Order records

The order part of `app/tools/shipping_tools.py`: an order is created, its tracking status is
updated, and after delivery a review is asked for over SMS and WhatsApp. Orders are kept in
Firestore, or in a dictionary of the process where there is no Firestore client.

Everything a tool awaits is a call to the outside: it reads a record and writes a record, and it
sends messages in between. The tool context does not change during a call, so a write finds the
collection that the read found. -/

namespace Ekaette

/-! ## Where orders are kept -/

/-- Where one order is kept: in memory under its id, or in a document. -/
inductive OrderPlace where
  | memory (orderId : String)
  | document (ref : DocPath)
  deriving DecidableEq

/-- The settings: there is a Firestore client or not. -/
structure ShippingConfig where
  py : StrMethods
  hasFirestore : Bool

/-- `_orders_collection`, and the place of an order in it; `none` is `scope_error`. -/
def ShippingConfig.orderPlace (cfg : ShippingConfig) (ctx : ToolContext) (orderId : String) :
    Option OrderPlace :=
  if cfg.hasFirestore then
    (scopedCollectionOrGlobal ctx "orders").map fun col => .document (col.document orderId)
  else some (.memory orderId)

/-- The storage mode, as results show it. -/
def OrderPlace.storage : OrderPlace → String
  | .memory _ => "memory"
  | .document _ => "firestore"

/-- All order records. -/
abbrev OrderStore := Dict OrderPlace Record

/-- What a write leaves under a place: in memory the payload, in a document the payload merged into
    it. -/
def OrderPlace.put (place : OrderPlace) (stored : Option Record) (payload : Record) : Record :=
  match place with
  | .memory _ => payload
  | .document _ => Record.mergeDeep (stored.getD Dict.empty) payload

/-! ## Calls to the outside -/

/-- The channels of a review follow-up. -/
inductive ReviewChannel where
  | sms
  | whatsapp
  deriving DecidableEq

/-- How a send goes: a message may go out although its answer is lost. -/
inductive NotifyOutcome where
  | sent
  | answerLost
  | failed
  deriving DecidableEq

def NotifyOutcome.goesOut : NotifyOutcome → Bool
  | .sent => true
  | .answerLost => true
  | .failed => false

/-- What the tool is told: was the message sent? -/
def NotifyOutcome.told : NotifyOutcome → Bool
  | .sent => true
  | .answerLost => false
  | .failed => false

/-- Which tool writes a record; an update with the event it inserts, if it inserts one. -/
inductive OrderWrite where
  | created
  | tracked (event : Option PyValue)
  | followedUp

/-- What a tool asks of the outside. The place of a message is that of the order it is about, and
    the last part of a write says who writes; the source passes neither on. -/
inductive OrderOp where
  | now
  | read (place : OrderPlace)
  | write (place : OrderPlace) (payload : Record) (why : OrderWrite)
  | notify (channel : ReviewChannel) (place : OrderPlace) (phone message : String)

/-- What is answered. -/
abbrev OrderOp.Answer : OrderOp → Type
  | .now => String
  | .read _ => Option Record
  | .write _ _ _ => Unit
  | .notify _ _ _ _ => NotifyOutcome

abbrev OrderProgram := CallProgram OrderOp OrderOp.Answer

variable (cfg : ShippingConfig)

/-- `_now_iso` -/
def nowIso : OrderProgram String := CallProgram.ask OrderOp.now

/-- `_send_sms_message` and `_send_whatsapp_message`; every exception is answered as a failure. -/
def sendMessage (channel : ReviewChannel) (place : OrderPlace) (phone message : String) :
    OrderProgram Bool := do
  let outcome : NotifyOutcome ← CallProgram.ask (OrderOp.notify channel place phone message)
  return outcome.told

/-- What a tool sees of a stored record. -/
def OrderPlace.shown (place : OrderPlace) (orderId : String) (record : Option Record) :
    Option Record :=
  match place with
  | .memory _ => record
  | .document _ => record.map fun data => data.set "order_id" (.str orderId)

/-- `_read_order_record` -/
def readOrderRecord (place : OrderPlace) (orderId : String) : OrderProgram (Option Record) := do
  let record : Option Record ← CallProgram.ask (OrderOp.read place)
  return place.shown orderId record

/-- `_write_order_record` -/
def writeOrderRecord (place : OrderPlace) (orderId : String) (record : Record) (why : OrderWrite) :
    OrderProgram Unit := do
  let now ← nowIso
  let payload := (record.set "order_id" (.str orderId)).set "updated_at" (.str now)
  CallProgram.ask (OrderOp.write place payload why)

/-! ## Ids and statuses -/

/-- `_ORDER_ID_RE.fullmatch` -/
def orderIdMatches (s : String) : Bool :=
  decide (4 ≤ s.length) && decide (s.length ≤ 80) &&
    s.toList.all fun c => c.isAlphanum || c = '.' || c = '_' || c = ':' || c = '-'

/-- `_validated_order_id` -/
def validatedOrderId (orderId : String) : Option String :=
  if orderIdMatches (PyStr.strip orderId) then some (PyStr.strip orderId) else none

/-- `_normalize_order_id`; `uuid` is what `uuid.uuid4().hex[:10].upper()` gives. -/
def normalizeOrderId (uuid : String) (orderId : Option String) : String :=
  (orderId.bind validatedOrderId).getD ("EKT-ORD-" ++ uuid)

/-- `_TRACKING_STATUS_MAP` -/
def trackingStatusMap : List (String × String) := [
  ("pending", "pending"),
  ("booked", "booked"),
  ("awaitingpickup", "pickup_scheduled"),
  ("pickupinprogress", "pickup_scheduled"),
  ("successfullypicked", "picked_up"),
  ("intransit", "in_transit"),
  ("deliveryinprogress", "out_for_delivery"),
  ("outfordelivery", "out_for_delivery"),
  ("delivered", "delivered"),
  ("cancelled", "cancelled"),
  ("deliveryfailed", "failed"),
  ("failed", "failed"),
  ("returned", "returned")]

/-- `_tracking_status_or_default` -/
def trackingStatusOrDefault (status : PyValue) : String :=
  let raw := status.coerceStr
  if raw = "" then "pending"
  else
    let canonical := cfg.py.lower (String.ofList
      (raw.toList.filter fun c => !(c = '_' || c = '-' || c = ' ')))
    (trackingStatusMap.lookup canonical).getD
      (String.ofList ((cfg.py.lower raw).toList.map fun c => if c = '-' || c = ' ' then '_' else c))

/-- `_resolve_order_status_from_tracking` -/
def resolveOrderStatusFromTracking (status : String) : String :=
  if status = "delivered" then "fulfilled"
  else if status ∈ ["failed", "cancelled", "returned"] then status
  else if status ∈ ["pending", "booked", "pickup_scheduled", "picked_up", "in_transit",
      "out_for_delivery"] then "in_fulfillment"
  else status

/-- `_tenant_company_from_context` -/
def tenantCompanyFromContext (ctx : ToolContext) (tenantId companyId : Option String) :
    String × String :=
  let tenant := PyStr.strip (tenantId.getD "")
  let company := PyStr.strip (companyId.getD "")
  if tenant ≠ "" ∧ company ≠ "" then (tenant, company)
  else
    let state : Record := ctx.getD Dict.empty
    let tenant := (state.value "app:tenant_id").coerceStr
    let company := (state.value "app:company_id").coerceStr
    (if tenant = "" then "public" else tenant,
      if company = "" then "ekaette-electronics" else company)

/-! ## Parts of a record -/

/-- `record.get(key)` where it is a dictionary. -/
def dictAt (record : Record) (key : String) : Option Record :=
  (record.value key).dict?.map Dict.ofList

/-- Assign a cleaned string, where one is given. -/
def setCleaned (record : Record) (key : String) : Option String → Record
  | some s => record.set key (.str (PyStr.strip s))
  | none => record

/-- `a or b` on strings. -/
def textOr (a b : String) : String := if a = "" then b else a

/-- `_base_review_followup_payload` -/
def baseReviewFollowupPayload : Record := Dict.ofList [
  ("requested", .bool false),
  ("requested_at", .none),
  ("message", .str ""),
  ("sms_sent", .bool false),
  ("whatsapp_sent", .bool false)]

/-- `_base_tracking_payload` -/
def baseTrackingPayload (provider now : String) : Record := Dict.ofList [
  ("provider", .str (textOr (cfg.py.lower (PyStr.strip provider)) "topship")),
  ("status", .str "pending"),
  ("provider_status", .str ""),
  ("tracking_id", .str ""),
  ("shipment_id", .str ""),
  ("estimated_delivery_at", .none),
  ("delivered_at", .none),
  ("events", .list []),
  ("updated_at", .str now),
  ("last_checked_at", .none)]

/-- The provider of a tracking record: the new one, the old one, or the default. -/
def resolvedProvider (tracking : Record) (provider : String) : String :=
  textOr (cfg.py.lower (PyStr.strip provider))
    (textOr (tracking.value "provider").coerceStr "topship")

/-! ## Creating an order -/

structure CreateOrderArgs where
  customerName : String
  customerPhone : Option String := none
  itemsSummary : Option String := none
  amountKobo : Option ℤ := none
  paymentReference : Option String := none
  senderCity : Option String := none
  receiverCity : Option String := none
  deliveryAddress : Option String := none
  shippingProvider : String := "topship"
  providerTrackingId : Option String := none
  providerShipmentId : Option String := none
  orderId : Option String := none
  tenantId : Option String := none
  companyId : Option String := none
  ctx : ToolContext := none

/-- The tracking part of a created order. -/
def createdTracking (a : CreateOrderArgs) (record : Record) (now : String) : Record :=
  let tracking := (dictAt record "tracking").getD (baseTrackingPayload cfg a.shippingProvider now)
  let tracking := tracking.set "provider" (.str (resolvedProvider cfg tracking a.shippingProvider))
  let tracking := setCleaned tracking "tracking_id" a.providerTrackingId
  let tracking := setCleaned tracking "shipment_id" a.providerShipmentId
  let status := textOr (tracking.value "status").coerceStr "pending"
  let tracking := tracking.set "status" (.str (trackingStatusOrDefault cfg (.str status)))
  let tracking := tracking.setDefault "events" (.list [])
  tracking.set "updated_at" (.str now)

/-- The record `create_order_record` writes over an existing one. -/
def createdRecord (a : CreateOrderArgs) (orderId : String) (existing : Option Record)
    (now : String) : Record :=
  let record := existing.getD Dict.empty
  let (tenant, company) := tenantCompanyFromContext a.ctx a.tenantId a.companyId
  let customer := (dictAt record "customer").getD Dict.empty
  let customer := customer.set "name" (.str (PyStr.strip a.customerName))
  let customer := setCleaned customer "phone" a.customerPhone
  let delivery := (dictAt record "delivery").getD Dict.empty
  let delivery := setCleaned delivery "sender_city" a.senderCity
  let delivery := setCleaned delivery "receiver_city" a.receiverCity
  let delivery := setCleaned delivery "address" a.deliveryAddress
  let tracking := createdTracking cfg a record now
  let followup := (dictAt record "review_followup").getD baseReviewFollowupPayload
  let record := record.set "order_id" (.str orderId)
  let record := record.set "tenant_id" (.str tenant)
  let record := record.set "company_id" (.str company)
  let record := record.set "customer" (.dict customer.entries)
  let record := record.set "items_summary" (match a.itemsSummary with
    | some s => .str (PyStr.strip s)
    | none => record.getD "items_summary" (.str ""))
  let record := match a.amountKobo with
    | some n => record.set "amount_kobo" (.int (max n 0))
    | none => record.setDefault "amount_kobo" (.int 0)
  let record := match a.paymentReference with
    | some s => record.set "payment_reference" (.str (PyStr.strip s))
    | none => record.setDefault "payment_reference" (.str "")
  let record := record.set "delivery" (.dict delivery.entries)
  let record := record.set "tracking" (.dict tracking.entries)
  let record := record.set "review_followup" (.dict followup.entries)
  let record :=
    record.set "status" (.str (textOr (Record.value record "status").coerceStr "order_received"))
  let record :=
    record.set "created_at" (.str (textOr (Record.value record "created_at").coerceStr now))
  record.set "updated_at" (.str now)

/-- A result with an error. -/
def orderError (error code : String) (orderId : Option String := none) : Record :=
  let result := Dict.ofList [("status", .str "error"), ("error", .str error), ("code", .str code)]
  match orderId with
  | some id => result.set "order_id" (.str id)
  | none => result

def orderInvalid (error : String) : Record := orderError error "ORDER_INVALID"

def orderScopeUnavailable (orderId : Option String) : Record :=
  orderError "Order scope is not available for this session context." "ORDER_SCOPE_UNAVAILABLE"
    orderId

def orderNotFound (orderId : String) : Record :=
  orderError ("Order '" ++ orderId ++ "' not found.") "ORDER_NOT_FOUND" (some orderId)

/-- `create_order_record` -/
@[irreducible] def createOrderRecord (uuid : String) (a : CreateOrderArgs) : OrderProgram Record :=
  if PyStr.strip a.customerName = "" then
    pure (orderInvalid "customer_name is required.")
  else if a.orderId.isSome ∧ a.orderId.bind validatedOrderId = none then
    pure (orderInvalid "order_id format is invalid.")
  else
    let orderId := normalizeOrderId uuid a.orderId
    match cfg.orderPlace a.ctx orderId with
    | none => pure (orderScopeUnavailable none)
    | some place => do
        let existing ← readOrderRecord place orderId
        let now ← nowIso
        let record := createdRecord cfg a orderId existing now
        writeOrderRecord place orderId record .created
        return Dict.ofList [
          ("status", .str "ok"),
          ("order_id", .str orderId),
          ("order", .dict record.entries),
          ("storage", .str place.storage)]

/-! ## Asking for a review -/

structure FollowupArgs where
  orderId : String
  force : Bool := false
  message : Option String := none
  ctx : ToolContext := none

/-- `_review_message_for` -/
def reviewMessageFor (orderId : String) : String :=
  "Thanks for your order " ++ orderId ++
    ". Please rate your delivery experience 1-5 and share a short review."

variable (order : Record)

/-- `order.get("review_followup")`, with its default. -/
def reviewFollowup : Record :=
  (dictAt order "review_followup").getD baseReviewFollowupPayload

/-- A review was asked for already. -/
def reviewRequested : Bool := ((reviewFollowup order).value "requested").truthy

/-- The phone of the customer. -/
def customerPhone : String :=
  match dictAt order "customer" with
  | some customer => (customer.value "phone").coerceStr
  | none => ""

/-- The follow-up part after messages were sent. -/
def sentFollowup (message now : String) (smsSent whatsappSent : Bool) : Record :=
  (reviewFollowup order).merge (Dict.ofList [
    ("requested", .bool true),
    ("requested_at", .str now),
    ("message", .str message),
    ("sms_sent", .bool smsSent),
    ("whatsapp_sent", .bool whatsappSent)])

/-- `send_order_review_followup` -/
@[irreducible] def sendOrderReviewFollowup (a : FollowupArgs) : OrderProgram Record :=
  match validatedOrderId a.orderId with
  | none => pure (orderInvalid "order_id format is invalid.")
  | some orderId =>
    match cfg.orderPlace a.ctx orderId with
    | none => pure (orderScopeUnavailable (some orderId))
    | some place => do
        let stored ← readOrderRecord place orderId
        match stored with
        | none => return orderNotFound orderId
        | some order =>
          if reviewRequested order && !a.force then
            return Dict.ofList [
              ("status", .str "ok"),
              ("order_id", .str orderId),
              ("order", .dict order.entries),
              ("review_followup", .dict (reviewFollowup order).entries),
              ("note", .str "review_followup_already_sent")]
          else if customerPhone order = "" then
            return orderError "Customer phone is required for review follow-up."
              "ORDER_REVIEW_CONTACT_MISSING" (some orderId)
          else
            let message := textOr (PyStr.strip (a.message.getD "")) (reviewMessageFor orderId)
            let smsSent ← sendMessage .sms place (customerPhone order) message
            let whatsappSent ← sendMessage .whatsapp place (customerPhone order) message
            if !smsSent && !whatsappSent then
              return orderError "No follow-up channel succeeded (SMS/WhatsApp)."
                "ORDER_REVIEW_NOTIFICATION_FAILED" (some orderId)
            else
              let now ← nowIso
              let followup := sentFollowup order message now smsSent whatsappSent
              let order := order.set "review_followup" (.dict followup.entries)
              let order := order.set "updated_at" (.str now)
              writeOrderRecord place orderId order .followedUp
              return Dict.ofList [
                ("status", .str "ok"),
                ("order_id", .str orderId),
                ("order", .dict order.entries),
                ("review_followup", .dict followup.entries),
                ("storage", .str place.storage)]

/-! ## Updating the tracking status -/

structure UpdateTrackingArgs where
  orderId : String
  trackingStatus : String
  providerStatus : Option String := none
  providerTrackingId : Option String := none
  providerShipmentId : Option String := none
  provider : Option String := none
  eventDescription : Option String := none
  location : Option String := none
  eventTimestamp : Option String := none
  providerEvents : List PyValue := []
  estimatedDeliveryAt : Option String := none
  deliveredAt : Option String := none
  triggerReviewFollowup : Bool := true
  ctx : ToolContext := none

/-- `_tracking_event` -/
def trackingEvent (status providerStatus description location timestamp : String) : PyValue :=
  .dict [
    ("status", .str status),
    ("provider_status", .str providerStatus),
    ("description", .str description),
    ("location", .str location),
    ("timestamp", .str timestamp)]

namespace UpdateTrackingArgs

variable (a : UpdateTrackingArgs)

/-- `normalized_status` -/
def normalizedStatus : String :=
  trackingStatusOrDefault cfg (.str (textOr a.trackingStatus (a.providerStatus.getD "")))

/-- `resolved_provider_status` -/
def resolvedProviderStatus : String :=
  textOr (PyStr.strip (a.providerStatus.getD "")) (PyStr.strip a.trackingStatus)

/-- The event an update without provider events inserts. -/
def insertedEvent (now : String) : PyValue :=
  trackingEvent (a.normalizedStatus cfg) a.resolvedProviderStatus
    (textOr (PyStr.strip (a.eventDescription.getD ""))
      (textOr a.resolvedProviderStatus (a.normalizedStatus cfg)))
    (PyStr.strip (a.location.getD ""))
    (textOr (PyStr.strip (a.eventTimestamp.getD "")) now)

/-- One of the provider's events; what is no dictionary is dropped. -/
def providerEvent (now : String) : PyValue → Option PyValue
  | .dict raw =>
    let rawStatus := textOr (PyValue.lookupD raw "provider_status").coerceStr
      (PyValue.lookupD raw "status").coerceStr
    let status := ((PyValue.lookupD raw "status").orElse (.str rawStatus)).orElse
      (.str (a.normalizedStatus cfg))
    let providerStatus := textOr rawStatus a.resolvedProviderStatus
    some (trackingEvent (trackingStatusOrDefault cfg status) providerStatus
      (textOr (PyValue.lookupD raw "description").coerceStr providerStatus)
      (PyValue.lookupD raw "location").coerceStr
      (textOr (PyValue.lookupD raw "timestamp").coerceStr now))
  | _ => none

end UpdateTrackingArgs

/-- `isinstance(event, dict)` -/
def isEvent (event : PyValue) : Bool := event.dict?.isSome

/-- The events of a tracking record. -/
def trackingEvents (tracking : Record) : List PyValue :=
  match tracking.value "events" with
  | .list events => events.filter isEvent
  | _ => []

/-- `str(item.get("timestamp") or "")` -/
def eventTime (event : PyValue) : String :=
  ((PyValue.lookupD (event.dict?.getD []) "timestamp").orElse (.str "")).toStr cfg.py

/-- Latest events first; a stable sort. -/
def sortEvents (events : List PyValue) : List PyValue :=
  events.mergeSort fun e e' => decide (eventTime cfg e' ≤ eventTime cfg e)

variable (a : UpdateTrackingArgs)

/-- The events after an update. -/
def updatedEvents (events : List PyValue) (now : String) : List PyValue :=
  let updated :=
    if a.providerEvents ≠ [] then
      let merged := a.providerEvents.filterMap (a.providerEvent cfg now)
      if merged ≠ [] then merged else events
    else a.insertedEvent cfg now :: events
  (sortEvents cfg updated).take 50

/-- The tracking part of an updated order. -/
def updatedTracking (order : Record) (now : String) : Record :=
  let tracking := (dictAt order "tracking").getD
    (baseTrackingPayload cfg (textOr (a.provider.getD "") "topship") now)
  let events := updatedEvents cfg a (trackingEvents tracking) now
  let tracking := match a.provider with
    | some provider => tracking.set "provider" (.str (resolvedProvider cfg tracking provider))
    | none => tracking
  let tracking := tracking.set "status" (.str (a.normalizedStatus cfg))
  let tracking := tracking.set "provider_status" (.str a.resolvedProviderStatus)
  let tracking := setCleaned tracking "tracking_id" a.providerTrackingId
  let tracking := setCleaned tracking "shipment_id" a.providerShipmentId
  let tracking := match a.estimatedDeliveryAt with
    | some s => tracking.set "estimated_delivery_at" (.str s)
    | none => tracking
  let tracking := match a.deliveredAt with
    | some s => tracking.set "delivered_at" (.str s)
    | none =>
      if a.normalizedStatus cfg = "delivered" ∧ !(Record.value tracking "delivered_at").truthy then
        tracking.set "delivered_at" (.str now)
      else tracking
  let tracking := tracking.set "events" (.list events)
  let tracking := tracking.set "updated_at" (.str now)
  tracking.set "last_checked_at" (.str now)

/-- The record `update_order_tracking_status` writes. -/
def updatedRecord (order : Record) (now : String) : Record :=
  let order := order.set "tracking" (.dict (updatedTracking cfg a order now).entries)
  let order := order.set "status" (.str (resolveOrderStatusFromTracking (a.normalizedStatus cfg)))
  order.set "updated_at" (.str now)

/-- The event that an update inserts, if it inserts one. -/
def UpdateTrackingArgs.write (now : String) : OrderWrite :=
  .tracked (if a.providerEvents ≠ [] then none else some (a.insertedEvent cfg now))

/-- The result of an update; `order` is the record of the follow-up where that went well. -/
def updateResult (orderId : String) (place : OrderPlace) (updated : Record)
    (followup : Option Record) : Record :=
  let order : Record := match followup with
    | some result =>
      if (result.value "status").eqStr "ok" then (dictAt result "order").getD updated else updated
    | none => updated
  Dict.ofList [
    ("status", .str "ok"),
    ("order_id", .str orderId),
    ("order", .dict order.entries),
    ("tracking", order.getD "tracking" (updated.value "tracking")),
    ("review_followup", order.getD "review_followup" (.dict baseReviewFollowupPayload.entries)),
    ("storage", .str place.storage),
    ("followup_result", match followup with
      | some result => .dict result.entries
      | none => .none)]

/-- The follow-up of an update to delivered. -/
@[irreducible] def deliveredFollowup (orderId : String) :
    OrderProgram (Option Record) :=
  if a.normalizedStatus cfg = "delivered" ∧ a.triggerReviewFollowup then do
    let followup ← sendOrderReviewFollowup cfg { orderId := orderId, ctx := a.ctx }
    return some followup
  else return none

/-- `update_order_tracking_status` -/
@[irreducible] def updateOrderTrackingStatus : OrderProgram Record :=
  match validatedOrderId a.orderId with
  | none => pure (orderInvalid "order_id format is invalid.")
  | some orderId =>
    match cfg.orderPlace a.ctx orderId with
    | none => pure (orderScopeUnavailable (some orderId))
    | some place => do
        let stored ← readOrderRecord place orderId
        match stored with
        | none => return orderNotFound orderId
        | some order =>
          let now ← nowIso
          let updated := updatedRecord cfg a order now
          writeOrderRecord place orderId updated (a.write cfg now)
          let followup ← deliveredFollowup cfg a orderId
          return updateResult orderId place updated followup

/-! ## Calls side by side -/

/-- The three tools. -/
inductive OrderCall where
  | create (uuid : String) (a : CreateOrderArgs)
  | update (a : UpdateTrackingArgs)
  | followup (a : FollowupArgs)

/-- What a call does. -/
def OrderCall.program : OrderCall → OrderProgram Record
  | .create uuid a => createOrderRecord cfg uuid a
  | .update a => updateOrderTrackingStatus cfg a
  | .followup a => sendOrderReviewFollowup cfg a

/-- What the outside chooses: the time, and how a send and an access to Firestore go. -/
structure OrderChoice where
  time : String := ""
  send : NotifyOutcome := .failed
  access : Access := .served

/-- What the outside answers. In memory nothing fails. -/
def serveOrder (store : OrderStore) (choice : OrderChoice) :
    (c : OrderOp) → OrderStore × Option c.Answer
  | .now => (store, some choice.time)
  | .notify _ _ _ _ => (store, some choice.send)
  | .read place =>
    let read : OrderStore × Option (Option Record) := (store, some (store.get? place))
    match place with
    | .memory _ => read
    | .document _ => choice.access.perform store read none
  | .write place payload _ =>
    let written : OrderStore × Option Unit :=
      (store.set place (place.put (store.get? place) payload), some ())
    match place with
    | .memory _ => written
    | .document _ => choice.access.perform store written none

/-- Tool calls, and the records they share. -/
abbrev OrderPool := Pool OrderStore OrderOp OrderOp.Answer Record

/-- Tool calls at any time, on any orders: at each step a call is started, or one goes on up to its
    next `await`. -/
def orderMachine : EventMachine OrderPool (PoolEvent OrderCall OrderChoice) Unit :=
  Pool.machine serveOrder (OrderCall.program cfg)

/-- No orders and no calls. -/
def noOrders : OrderPool := { shared := Dict.empty }

/-! ## Rules for the calls of a tool -/

section Rules

variable {α : Type} {P : List (Called OrderOp OrderOp.Answer) → OrderOp → Prop}
  {Q : List (Called OrderOp OrderOp.Answer) → α → Prop} (log : List (Called OrderOp OrderOp.Answer))

theorem obeys_nowIso (f : String → OrderProgram α) :
    (nowIso >>= f).Obeys P Q log ↔ P log .now ∧ ∀ now,
    (f now).Obeys P Q (log ++ [⟨.now, some now⟩]) :=
  CallProgram.obeys_ask_bind log

theorem obeys_sendMessage (channel : ReviewChannel) (place : OrderPlace) (phone message : String)
    (f : Bool → OrderProgram α) :
    (sendMessage channel place phone message >>= f).Obeys P Q log ↔
      P log (.notify channel place phone message) ∧
        ∀ outcome, (f outcome.told).Obeys P Q
          (log ++ [⟨.notify channel place phone message, some outcome⟩]) := by
  rw [CallProgram.obeys_bind, sendMessage, CallProgram.obeys_ask_bind]
  exact Iff.rfl

theorem obeys_readOrderRecord (place : OrderPlace) (orderId : String)
    (f : Option Record → OrderProgram α) : (readOrderRecord place orderId >>= f).Obeys P Q log ↔
    P log (.read place) ∧
      ∀ record, (f (place.shown orderId record)).Obeys P Q
      (log ++ [⟨.read place, some record⟩]) := by
  rw [CallProgram.obeys_bind, readOrderRecord, CallProgram.obeys_ask_bind]
  exact Iff.rfl

/-- The payload of a write. -/
def orderPayload (orderId : String) (record : Record) (now : String) : Record :=
  (record.set "order_id" (.str orderId)).set "updated_at" (.str now)

theorem obeys_writeOrderRecord (place : OrderPlace) (orderId : String) (record : Record)
    (why : OrderWrite) (f : Unit → OrderProgram α) :
    (writeOrderRecord place orderId record why >>= f).Obeys P Q log ↔ P log .now ∧
      ∀ now, P (log ++ [⟨.now, some now⟩]) (.write place (orderPayload orderId record now) why) ∧
        ∀ u, (f u).Obeys P Q (log ++ [⟨.now, some now⟩] ++
          [⟨.write place (orderPayload orderId record now) why, some u⟩]) := by
  rw [CallProgram.obeys_bind, writeOrderRecord, obeys_nowIso]
  refine and_congr_right fun _ => forall_congr' fun now => ?_
  exact CallProgram.obeys_ask _

end Rules

/-! ## What a call read last -/

/-- A read that was answered, until the next write. -/
def nextRead (read : Option (OrderPlace × Option Record)) :
    Called OrderOp OrderOp.Answer → Option (OrderPlace × Option Record)
  | ⟨.read place, some record⟩ => some (place, record)
  | ⟨.read _, none⟩ => none
  | ⟨.write _ _ _, _⟩ => none
  | _ => read

/-- The place and the record a call read last, if it has not written since. -/
def lastRead (log : List (Called OrderOp OrderOp.Answer)) : Option (OrderPlace × Option Record) :=
  log.foldl nextRead none

@[simp] theorem lastRead_concat (log : List (Called OrderOp OrderOp.Answer))
    (t : Called OrderOp OrderOp.Answer) : lastRead (log ++ [t]) = nextRead (lastRead log) t := by
  rw [lastRead, List.foldl_append]
  rfl

/-! ## Parts of a changed record -/

theorem dictAt_set_self (record : Record) (key : String) (d : Record) :
    dictAt (record.set key (.dict d.entries)) key = some d := by
  rw [dictAt, Record.value, Dict.get?_set_self, Option.getD_some]
  show some (Dict.ofList d.entries) = some d
  rw [Dict.ofList_entries]

theorem dictAt_set_of_ne (record : Record) {key key' : String} (v : PyValue) (h : key' ≠ key) :
    dictAt (record.set key v) key' = dictAt record key' := by
  rw [dictAt, dictAt, Record.value, Record.value, Dict.get?_set_of_ne _ _ h]

end Ekaette
