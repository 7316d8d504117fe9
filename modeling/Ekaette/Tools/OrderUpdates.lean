import Ekaette.Tools.ShippingOrders

set_option autoImplicit false

/-! # Order updates side by side

A tool reads an order, works on its copy and writes the whole record back. In memory mode an update
that was written is lost if another call writes back a copy it read before; a review follow-up,
which sends two messages in between, does so. While every call writes over the record it read, no
inserted event is lost, and a follow-up changes nothing but its own part. -/

namespace Ekaette

variable (cfg : ShippingConfig)

/-! ## What a write does to the events -/

/-- The tracking events of an order. -/
def orderEvents (order : Option Record) : List PyValue :=
  match order.bind (dictAt · "tracking") with
  | some tracking => trackingEvents tracking
  | none => []

theorem orderEvents_payload (orderId : String) (record : Record) (now : String) :
    orderEvents (some (orderPayload orderId record now)) = orderEvents (some record) := by
  have htracking : dictAt (orderPayload orderId record now) "tracking" = dictAt record "tracking" :=
    by
    rw [orderPayload, dictAt_set_of_ne _ _ (by decide), dictAt_set_of_ne _ _ (by decide)]
  simp only [orderEvents, Option.bind_some, htracking]

theorem trackingEvents_base (provider now : String) :
    trackingEvents (baseTrackingPayload cfg provider now) = [] := by
  have hevents : (baseTrackingPayload cfg provider now).get? "events" = some (.list []) := by
    simp [baseTrackingPayload, Dict.ofList]
  rw [trackingEvents, Record.value, hevents]
  rfl

theorem trackingEvents_created (a : CreateOrderArgs) (record : Record) (now : String) :
    trackingEvents (createdTracking cfg a record now) = orderEvents (some record) := by
  have hkeep : ∀ (tracking : Record) (key : String) (v : PyValue), key ≠ "events" →
      trackingEvents (tracking.set key v) = trackingEvents tracking := by
    intro tracking key v hkey
    rw [trackingEvents, trackingEvents, Record.value, Record.value,
      Dict.get?_set_of_ne _ _ hkey.symm]
  have hcleaned : ∀ (tracking : Record) (key : String) (v : Option String), key ≠ "events" →
      trackingEvents (setCleaned tracking key v) = trackingEvents tracking := by
    intro tracking key v hkey
    cases v with
    | none => rfl
    | some s => exact hkeep tracking key _ hkey
  have hdefault : ∀ tracking : Record,
      trackingEvents (tracking.setDefault "events" (.list [])) = trackingEvents tracking := by
    intro tracking
    rw [trackingEvents, trackingEvents, Record.value, Record.value, Dict.get?_setDefault]
    cases tracking.get? "events" with
    | none => simp
    | some v => simp
  unfold createdTracking
  rw [hkeep _ _ _ (by decide), hdefault, hkeep _ _ _ (by decide), hcleaned _ _ _ (by decide),
    hcleaned _ _ _ (by decide), hkeep _ _ _ (by decide), orderEvents, Option.bind_some]
  cases dictAt record "tracking" with
  | none => rw [Option.getD_none, trackingEvents_base]
  | some tracking => rfl

theorem orderEvents_created (a : CreateOrderArgs) (orderId : String) (existing : Option Record)
    (now : String) : orderEvents (some (createdRecord cfg a orderId existing now)) =
    orderEvents existing := by
  have htracking : dictAt (createdRecord cfg a orderId existing now) "tracking" =
      some (createdTracking cfg a (existing.getD Dict.empty) now) := by
    unfold createdRecord
    rw [dictAt_set_of_ne _ _ (by decide), dictAt_set_of_ne _ _ (by decide),
      dictAt_set_of_ne _ _ (by decide), dictAt_set_of_ne _ _ (by decide), dictAt_set_self]
  rw [orderEvents, Option.bind_some, htracking]
  show trackingEvents _ = _
  rw [trackingEvents_created]
  cases existing with
  | none => rfl
  | some record => rfl

variable (a : UpdateTrackingArgs)

theorem isEvent_of_mem_updatedEvents {events : List PyValue} {now : String}
    (hevents : ∀ e ∈ events, isEvent e = true) {e : PyValue}
    (he : e ∈ updatedEvents cfg a events now) : isEvent e = true := by
  have hmerged : ∀ e ∈ a.providerEvents.filterMap (a.providerEvent cfg now), isEvent e = true := by
    intro e he
    obtain ⟨raw, -, hraw⟩ := List.mem_filterMap.1 he
    cases raw with
    | dict es =>
      rw [UpdateTrackingArgs.providerEvent, Option.some.injEq] at hraw
      rw [← hraw]
      rfl
    | _ => cases hraw
  have hsorted := List.mem_mergeSort.1 (List.mem_of_mem_take he)
  by_cases hprovider : a.providerEvents ≠ []
  · rw [if_pos hprovider] at hsorted
    by_cases hempty : a.providerEvents.filterMap (a.providerEvent cfg now) ≠ []
    · rw [if_pos hempty] at hsorted
      exact hmerged e hsorted
    · rw [if_neg hempty] at hsorted
      exact hevents e hsorted
  · rw [if_neg hprovider] at hsorted
    rcases List.mem_cons.1 hsorted with rfl | hsorted
    · rfl
    · exact hevents e hsorted

theorem trackingEvents_stored (order : Record) (provider now : String) :
    trackingEvents ((dictAt order "tracking").getD (baseTrackingPayload cfg provider now)) =
      orderEvents (some order) := by
  rw [orderEvents, Option.bind_some]
  cases dictAt order "tracking" with
  | none => rw [Option.getD_none, trackingEvents_base]
  | some tracking => rfl

theorem isEvent_of_mem_orderEvents {order : Option Record} {e : PyValue}
    (he : e ∈ orderEvents order) : isEvent e = true := by
  unfold orderEvents trackingEvents at he
  split at he
  · split at he
    · exact (List.mem_filter.1 he).2
    · cases he
  · cases he

theorem trackingEvents_updated (order : Record) (now : String) :
    trackingEvents (updatedTracking cfg a order now) = updatedEvents cfg a
    (orderEvents (some order)) now := by
  unfold updatedTracking
  rw [trackingEvents, Record.value, Dict.get?_set_of_ne _ _ (by decide),
    Dict.get?_set_of_ne _ _ (by decide),
    Dict.get?_set_self, Option.getD_some, trackingEvents_stored]
  exact List.filter_eq_self.2 fun e he =>
    isEvent_of_mem_updatedEvents cfg a (fun e he => isEvent_of_mem_orderEvents he) he

theorem orderEvents_updated (order : Record) (now : String) :
    orderEvents (some (updatedRecord cfg a order now)) =
      updatedEvents cfg a (orderEvents (some order)) now := by
  have htracking : dictAt (updatedRecord cfg a order now) "tracking" =
      some (updatedTracking cfg a order now) := by
    unfold updatedRecord
    rw [dictAt_set_of_ne _ _ (by decide), dictAt_set_of_ne _ _ (by decide), dictAt_set_self]
  rw [orderEvents, Option.bind_some, htracking]
  exact trackingEvents_updated cfg a order now

/-! ## What a tool may write -/

/-- What a write makes of the record its call read. -/
def Writes (old : Option Record) (payload : Record) : OrderWrite → Prop
  | .created => orderEvents (some payload) = orderEvents old
  | .tracked (some event) =>
    orderEvents (some payload) = (sortEvents cfg (event :: orderEvents old)).take 50
  | .tracked none => False
  | .followedUp => ∃ order, old = some order ∧
      ∀ key, key ≠ "review_followup" → key ≠ "updated_at" → key ≠ "order_id" →
        payload.get? key = order.get? key

/-- A call reads and writes one place in memory, writes its order id, and works on what it read. -/
def MayCall (log : List (Called OrderOp OrderOp.Answer)) : OrderOp → Prop
  | .read place => ∃ id, place = .memory id
  | .write place payload why => ∃ id old, place = .memory id ∧ lastRead log = some (place, old) ∧
      payload.get? "order_id" = some (.str id) ∧ Writes cfg old payload why
  | _ => True

abbrev WellBehaved (log : List (Called OrderOp OrderOp.Answer)) (p : OrderProgram Record) : Prop :=
  p.Obeys (MayCall cfg) (fun _ _ => True) log

theorem orderPayload_id (orderId : String) (record : Record) (now : String) :
    (orderPayload orderId record now).get? "order_id" = some (.str orderId) := by
  rw [orderPayload, Dict.get?_set_of_ne _ _ (by decide), Dict.get?_set_self]

theorem orderPlace_memory (hmemory : cfg.hasFirestore = false) (ctx : ToolContext)
    (orderId : String) : cfg.orderPlace ctx orderId = some (.memory orderId) := by
  rw [ShippingConfig.orderPlace, hmemory]
  rfl

theorem wellBehaved_create (hmemory : cfg.hasFirestore = false) (uuid : String)
    (a : CreateOrderArgs) (log : List (Called OrderOp OrderOp.Answer)) :
    WellBehaved cfg log (createOrderRecord cfg uuid a) := by
  unfold createOrderRecord
  rw [WellBehaved, CallProgram.obeys_ite, CallProgram.obeys_ite]
  refine ⟨fun _ => trivial, fun _ => ⟨fun _ => trivial, fun _ => ?_⟩⟩
  simp only [orderPlace_memory cfg hmemory]
  rw [obeys_readOrderRecord]
  refine ⟨⟨_, rfl⟩, fun existing => ?_⟩
  rw [obeys_nowIso]
  refine ⟨trivial, fun now => ?_⟩
  rw [obeys_writeOrderRecord]
  refine ⟨trivial, fun now' => ⟨?_, fun _ => trivial⟩⟩
  refine ⟨_, existing, rfl, ?_, orderPayload_id _ _ _, ?_⟩
  · simp only [lastRead_concat, nextRead]
  · show orderEvents _ = orderEvents existing
    rw [orderEvents_payload, orderEvents_created]
    rfl

theorem wellBehaved_followup (hmemory : cfg.hasFirestore = false) (a : FollowupArgs)
    (log : List (Called OrderOp OrderOp.Answer)) :
    WellBehaved cfg log (sendOrderReviewFollowup cfg a) := by
  unfold sendOrderReviewFollowup
  cases validatedOrderId a.orderId with
  | none => trivial
  | some orderId =>
    simp only [orderPlace_memory cfg hmemory]
    rw [WellBehaved, obeys_readOrderRecord]
    refine ⟨⟨_, rfl⟩, fun stored => ?_⟩
    cases stored with
    | none => trivial
    | some order =>
      simp only [OrderPlace.shown]
      rw [CallProgram.obeys_ite, CallProgram.obeys_ite]
      refine ⟨fun _ => trivial, fun _ => ⟨fun _ => trivial, fun _ => ?_⟩⟩
      rw [obeys_sendMessage]
      refine ⟨trivial, fun smsSent => ?_⟩
      rw [obeys_sendMessage]
      refine ⟨trivial, fun whatsappSent => ?_⟩
      rw [CallProgram.obeys_ite]
      refine ⟨fun _ => trivial, fun _ => ?_⟩
      rw [obeys_nowIso]
      refine ⟨trivial, fun now => ?_⟩
      rw [obeys_writeOrderRecord]
      refine ⟨trivial, fun now' => ⟨?_, fun _ => trivial⟩⟩
      refine ⟨_, some order, rfl, ?_, orderPayload_id _ _ _, order, rfl, ?_⟩
      · simp only [lastRead_concat, nextRead]
      · intro key hfollowup hupdated hid
        rw [orderPayload, Dict.get?_set_of_ne _ _ hupdated, Dict.get?_set_of_ne _ _ hid,
          Dict.get?_set_of_ne _ _ hupdated, Dict.get?_set_of_ne _ _ hfollowup]

theorem wellBehaved_deliveredFollowup (hmemory : cfg.hasFirestore = false) (a : UpdateTrackingArgs)
    (orderId : String) (log : List (Called OrderOp OrderOp.Answer)) :
    (deliveredFollowup cfg a orderId).Obeys (MayCall cfg) (fun _ _ => True) log := by
  unfold deliveredFollowup
  rw [CallProgram.obeys_ite]
  refine ⟨fun _ => ?_, fun _ => trivial⟩
  refine CallProgram.Obeys.bind (wellBehaved_followup cfg hmemory _ log) fun log _ _ => ?_
  rw [CallProgram.obeys_pure]
  trivial

theorem wellBehaved_update (hmemory : cfg.hasFirestore = false) (a : UpdateTrackingArgs)
    (hevents : a.providerEvents = []) (log : List (Called OrderOp OrderOp.Answer)) :
    WellBehaved cfg log (updateOrderTrackingStatus cfg a) := by
  unfold updateOrderTrackingStatus
  cases validatedOrderId a.orderId with
  | none => trivial
  | some orderId =>
    simp only [orderPlace_memory cfg hmemory]
    rw [WellBehaved, obeys_readOrderRecord]
    refine ⟨⟨_, rfl⟩, fun stored => ?_⟩
    cases stored with
    | none => trivial
    | some order =>
      simp only [OrderPlace.shown]
      rw [obeys_nowIso]
      refine ⟨trivial, fun now => ?_⟩
      rw [obeys_writeOrderRecord]
      refine ⟨trivial, fun now' => ⟨?_, fun _ => ?_⟩⟩
      · refine ⟨_, some order, rfl, ?_, orderPayload_id _ _ _, ?_⟩
        · simp only [lastRead_concat, nextRead]
        · have hwrite : a.write cfg now = .tracked (some (a.insertedEvent cfg now)) := by
            rw [UpdateTrackingArgs.write, hevents]
            rfl
          rw [hwrite]
          show orderEvents _ = _
          rw [orderEvents_payload, orderEvents_updated, updatedEvents, hevents]
          rfl
      · refine CallProgram.Obeys.bind (wellBehaved_deliveredFollowup cfg hmemory a orderId _)
          fun log _ _ => ?_
        rw [CallProgram.obeys_pure]
        trivial

/-! ## Calls side by side -/

/-- The event that a write inserts. -/
def OrderWrite.event : OrderWrite → Option PyValue
  | .created => none
  | .tracked event => event
  | .followedUp => none

/-- The event that a call inserted into the order at a place. -/
def insertedAt (place : OrderPlace) : Called OrderOp OrderOp.Answer → Option PyValue
  | ⟨.write p _ why, some _⟩ => if p = place then why.event else none
  | _ => none

/-- All events that updates inserted into an order. -/
def insertedEvents (place : OrderPlace) (history : List (Called OrderOp OrderOp.Answer)) :
    List PyValue :=
  history.filterMap (insertedAt place)

/-- What a step writes. -/
def orderWriter (s : OrderPool) : PoolEvent OrderCall OrderChoice → Option OrderWrite
  | .start _ => none
  | .resume i _ =>
    match s.threads[i]? with
    | some ⟨_, .call (.write _ _ why) _⟩ => some why
    | _ => none

/-- A field of a record; absent where there is no record. -/
def orderField (order : Option Record) (key : String) : Option PyValue := order.bind (·.get? key)

/-- What the record a call read and the stored one must have in common when the call writes: the
    events, or for a follow-up all fields but the two it changes. -/
def UpToDate (old stored : Option Record) : OrderWrite → Prop
  | .followedUp => ∀ key, key ≠ "review_followup" → key ≠ "updated_at" →
      orderField old key = orderField stored key
  | _ => orderEvents old = orderEvents stored

/-- A step that writes an order writes over the record its call read. -/
def WritesUpToDate (s : OrderPool) : PoolEvent OrderCall OrderChoice → Prop
  | .start _ => True
  | .resume i _ => ∀ log place payload why k old,
      s.threads[i]? = some ⟨log, .call (.write place payload why) k⟩ →
        lastRead log = some (place, old) → UpToDate old (s.shared.get? place) why

/-- The call is an update with provider events. -/
def OrderCall.hasProviderEvents : OrderCall → Bool
  | .update a => !a.providerEvents.isEmpty
  | _ => false

/-- The invariant: calls behave well, every record has its id, also where it was read, and while
    there are at most fifty inserted events, they are the stored ones. -/
structure OrdersKept (s : OrderPool) : Prop where
  obeyed : Pool.Obeyed (MayCall cfg) (fun _ _ => True) s
  ids : ∀ id record, s.shared.get? (.memory id) = some record →
    record.get? "order_id" = some (.str id)
  read : ∀ (i : ℕ) (t : Thread OrderOp OrderOp.Answer Record) id order, s.threads[i]? = some t →
    lastRead t.log = some (.memory id, some order) → order.get? "order_id" = some (.str id)
  events : ∀ id, (insertedEvents (.memory id) s.history).length ≤ 50 →
    (orderEvents (s.shared.get? (.memory id))).Perm (insertedEvents (.memory id) s.history)

theorem ordersKept_start : OrdersKept cfg noOrders where
  obeyed i t ht := by cases ht
  ids id record h := by cases h
  read i t id order ht := by cases ht
  events id _ := List.Perm.refl []

section Step

variable {cfg} {s s' : OrderPool} {i : ℕ} {choice : OrderChoice}

theorem orderEvents_eq (order : Option Record) :
    orderEvents order =
      match (orderField order "tracking").getD .none with
      | .dict es => trackingEvents (Dict.ofList es)
      | _ => [] := by
  cases order with
  | none => rfl
  | some record =>
    have hfield : (orderField (some record) "tracking").getD .none = record.value "tracking" := rfl
    rw [hfield, orderEvents, Option.bind_some, dictAt]
    cases record.value "tracking" <;> rfl

theorem orderEvents_congr {order order' : Option Record}
    (h : orderField order "tracking" = orderField order' "tracking") :
    orderEvents order = orderEvents order' := by
  rw [orderEvents_eq order, orderEvents_eq order', h]

/-- A call that reads, sends or asks for the time. -/
structure Unwritten (h : Pool.Calls serveOrder s i choice s') : Prop where
  step : orderWriter s (.resume i choice) = none
  shared : s'.shared = s.shared
  history : ∀ place, insertedEvents place s'.history = insertedEvents place s.history
  read : lastRead h.after.log = lastRead h.log ∨
    ∃ place, lastRead h.after.log = some (place, s.shared.get? place)

variable (cfg) in
/-- A call that writes the order `id`. -/
structure Written (h : Pool.Calls serveOrder s i choice s') (id : String) (payload : Record)
    (why : OrderWrite) (old : Option Record) : Prop where
  step : orderWriter s (.resume i choice) = some why
  upToDate : WritesUpToDate s (.resume i choice) → UpToDate old (s.shared.get? (.memory id)) why
  read : lastRead h.log = some (.memory id, old)
  orderId : payload.get? "order_id" = some (.str id)
  writes : Writes cfg old payload why
  shared : s'.shared = s.shared.set (.memory id) payload
  history : ∀ place, insertedEvents place s'.history = insertedEvents place s.history ++
    (if OrderPlace.memory id = place then why.event else none).toList
  forgets : lastRead h.after.log = none

/-- **What a step of a well-behaved call does.** -/
theorem orderStep_cases (hs : Pool.Obeyed (MayCall cfg) (fun _ _ => True) s)
    (h : Pool.Calls serveOrder s i choice s') :
    Unwritten h ∨ ∃ id payload why old, Written cfg h id payload why old := by
  have hmay := (hs.call h).1
  obtain ⟨log, call, k, hfound, hshared, hthreads, hhistory⟩ := h
  cases call with
  | now =>
    refine .inl ⟨?_, hshared, fun place => ?_, .inl (lastRead_concat _ _)⟩
    · rw [orderWriter, hfound]
    · rw [hhistory, insertedEvents, List.filterMap_append]
      exact List.append_nil _
  | notify channel place phone message =>
    refine .inl ⟨?_, hshared, fun place => ?_, .inl (lastRead_concat _ _)⟩
    · rw [orderWriter, hfound]
    · rw [hhistory, insertedEvents, List.filterMap_append]
      exact List.append_nil _
  | read place =>
    obtain ⟨id, rfl⟩ := hmay
    refine .inl ⟨?_, hshared, fun place => ?_, .inr ⟨.memory id, lastRead_concat _ _⟩⟩
    · rw [orderWriter, hfound]
    · rw [hhistory, insertedEvents, List.filterMap_append]
      exact List.append_nil _
  | write place payload why =>
    obtain ⟨id, old, rfl, hold, hid, hwrites⟩ := hmay
    refine .inr ⟨id, payload, why, old, ?_, fun hup => hup _ _ _ _ _ _ hfound hold, hold, hid,
      hwrites, hshared, fun place => ?_, lastRead_concat _ _⟩
    · rw [orderWriter, hfound]
    · rw [hhistory, insertedEvents, List.filterMap_append]
      refine congrArg (_ ++ ·) ?_
      show List.filterMap (insertedAt place) [⟨.write (.memory id) payload why, some ()⟩] = _
      rw [List.filterMap_cons, insertedAt]
      cases (if OrderPlace.memory id = place then why.event else none) <;> rfl

/-- An order that is written gets its events: those it had, and the inserted one. -/
theorem Written.events {h : Pool.Calls serveOrder s i choice s'} {id : String} {payload : Record}
    {why : OrderWrite} {old : Option Record} (hw : Written cfg h id payload why old)
    (hup : WritesUpToDate s (.resume i choice))
    (hevents : (insertedEvents (.memory id) s.history).length ≤ 50 →
      (orderEvents (s.shared.get? (.memory id))).Perm (insertedEvents (.memory id) s.history))
    (hcount : (insertedEvents (.memory id) s'.history).length ≤ 50) :
    (orderEvents (some payload)).Perm (insertedEvents (.memory id) s'.history) := by
  have hcurrent := hw.upToDate hup
  have hwrites := hw.writes
  rw [hw.history, if_pos rfl] at hcount ⊢
  cases why with
  | created =>
    rw [OrderWrite.event, Option.toList_none, List.append_nil] at hcount ⊢
    have hsame : orderEvents (some payload) = orderEvents (s.shared.get? (.memory id)) :=
      hwrites.trans hcurrent
    rw [hsame]
    exact hevents hcount
  | followedUp =>
    rw [OrderWrite.event, Option.toList_none, List.append_nil] at hcount ⊢
    obtain ⟨order, rfl, hfields⟩ := hwrites
    have hsame : orderEvents (some payload) = orderEvents (s.shared.get? (.memory id)) := by
      refine orderEvents_congr ((hfields _ ?_ ?_ ?_).trans (hcurrent _ ?_ ?_)) <;> decide
    rw [hsame]
    exact hevents hcount
  | tracked event =>
    cases event with
    | none => exact hwrites.elim
    | some event =>
      rw [OrderWrite.event, Option.toList_some] at hcount ⊢
      rw [List.length_append, List.length_singleton] at hcount
      have hstored := hevents (by omega)
      have hold : orderEvents old = orderEvents (s.shared.get? (.memory id)) := hcurrent
      have hsort : (sortEvents cfg (event :: orderEvents old)).Perm
          (insertedEvents (.memory id) s.history ++ [event]) := by
        refine (List.mergeSort_perm _ _).trans ?_
        rw [hold]
        exact (hstored.cons event).trans (List.perm_append_singleton _ _).symm
      have hlength : (sortEvents cfg (event :: orderEvents old)).length ≤ 50 := by
        rw [hsort.length_eq, List.length_append, List.length_singleton]
        exact hcount
      have hpayload : orderEvents (some payload) = (sortEvents cfg (event :: orderEvents old)).take
        50 := hwrites
      rw [hpayload, List.take_of_length_le hlength]
      exact hsort

end Step

/-- **Step lemma.** -/
theorem ordersKept_next (hmemory : cfg.hasFirestore = false) {s : OrderPool} (hs : OrdersKept cfg s)
    (e : PoolEvent OrderCall OrderChoice)
    (hcall : ∀ call, e = .start call → call.hasProviderEvents = false)
    (hup : WritesUpToDate s e) : OrdersKept cfg ((orderMachine cfg).next s e) := by
  have hobeyed : Pool.Obeyed (MayCall cfg) (fun _ _ => True) ((orderMachine cfg).next s e) := by
    refine Pool.obeyed_next hs.obeyed e fun call hstart => ?_
    have hevents := hcall call hstart
    cases call with
    | create uuid a => exact wellBehaved_create cfg hmemory uuid a []
    | update a =>
    exact wellBehaved_update cfg hmemory a (by simpa [OrderCall.hasProviderEvents] using hevents) []
    | followup a => exact wellBehaved_followup cfg hmemory a []
  cases e with
  | start call =>
    refine ⟨hobeyed, hs.ids, fun j t id order hj hread => ?_, hs.events⟩
    rcases Pool.start_cases hj with hold | rfl
    · exact hs.read j t id order hold hread
    · cases hread
  | resume i choice =>
    have hnext : (orderMachine cfg).next s (.resume i choice) = s.resume serveOrder i choice := rfl
    rw [hnext] at hobeyed ⊢
    rcases Pool.resume_cases serveOrder s i choice with hsame | ⟨⟨h⟩⟩
    · rw [hsame]
      exact hs
    rcases orderStep_cases hs.obeyed h with hu | ⟨id, payload, why, old, hw⟩
    · refine ⟨hobeyed, ?_, fun j t id order hj hread => ?_, fun id => ?_⟩
      · rw [hu.shared]
        exact hs.ids
      · rcases h.thread_cases hj with ⟨rfl, rfl⟩ | ⟨_, hold⟩
        · rcases hu.read with hsame | ⟨place, hplace⟩
          · exact hs.read j _ id order h.found (hsame ▸ hread)
          · rw [hplace, Option.some.injEq, Prod.mk.injEq] at hread
            obtain ⟨rfl, hstored⟩ := hread
            exact hs.ids id order hstored
        · exact hs.read j t id order hold hread
      · rw [hu.shared, hu.history]
        exact hs.events id
    · refine ⟨hobeyed, fun id' record hrecord => ?_, fun j t id' order hj hread => ?_,
        fun id' hcount => ?_⟩
      · rw [hw.shared, Dict.get?_set] at hrecord
        split at hrecord
        · next hplace =>
            rw [Option.some.injEq] at hrecord
            rw [← hrecord, OrderPlace.memory.inj hplace]
            exact hw.orderId
        · exact hs.ids id' record hrecord
      · rcases h.thread_cases hj with ⟨rfl, rfl⟩ | ⟨_, hold⟩
        · rw [hw.forgets] at hread
          cases hread
        · exact hs.read j t id' order hold hread
      · by_cases hid : id' = id
        · subst hid
          rw [hw.shared, Dict.get?_set_self]
          exact hw.events hup (hs.events id') hcount
        · have hplace : OrderPlace.memory id' ≠ .memory id := fun h => hid (OrderPlace.memory.inj h)
          rw [hw.history, if_neg hplace.symm, Option.toList_none, List.append_nil] at hcount ⊢
          rw [hw.shared, Dict.get?_set_of_ne _ _ hplace]
          exact hs.events id' hcount

/-- A follow-up changes no other field: the steps that are no write of an update or a creation. -/
def FollowupKeepsOthers (t : EventMachine.Entry OrderPool (PoolEvent OrderCall OrderChoice) Unit) :
    Prop :=
  (orderWriter t.pre t.event = none ∨ orderWriter t.pre t.event = some .followedUp) → ∀ place key,
    key ≠ "review_followup" → key ≠ "updated_at" →
      orderField (((orderMachine cfg).next t.pre t.event).shared.get? place) key =
        orderField (t.pre.shared.get? place) key

theorem followupKeepsOthers_of_kept {s : OrderPool} (hs : OrdersKept cfg s)
    (e : PoolEvent OrderCall OrderChoice) (hup : WritesUpToDate s e) :
    FollowupKeepsOthers cfg ((orderMachine cfg).entry s e) := by
  intro hwrites place key hfollowup hupdated
  rw [EventMachine.entry_pre, EventMachine.entry_event] at *
  cases e with
  | start call => rfl
  | resume i choice =>
    have hnext : (orderMachine cfg).next s (.resume i choice) = s.resume serveOrder i choice := rfl
    rw [hnext]
    rcases Pool.resume_cases serveOrder s i choice with hsame | ⟨⟨h⟩⟩
    · rw [hsame]
    rcases orderStep_cases hs.obeyed h with hu | ⟨id, payload, why, old, hw⟩
    · rw [hu.shared]
    · rw [hw.step] at hwrites
      have hwhy : why = .followedUp := by
        rcases hwrites with hnone | hsome
        · cases hnone
        · exact Option.some.inj hsome
      subst hwhy
      obtain ⟨order, rfl, hfields⟩ := hw.writes
      have hcurrent : orderField (some order) key = orderField (s.shared.get? (.memory id)) key :=
        hw.upToDate hup key hfollowup hupdated
      by_cases hplace : place = .memory id
      · subst hplace
        rw [hw.shared, Dict.get?_set_self, ← hcurrent]
        show payload.get? key = order.get? key
        by_cases hkey : key = "order_id"
        · subst hkey
          rw [hw.orderId, hs.read i _ id order h.found hw.read]
        · exact hfields key hfollowup hupdated hkey
      · rw [hw.shared, Dict.get?_set_of_ne _ _ hplace]

/-- Every event that was inserted is stored, while there are at most fifty. -/
def UpdatesKept (s : OrderPool) : Prop :=
  ∀ id, (insertedEvents (.memory id) s.history).length ≤ 50 →
    ∀ event ∈ insertedEvents (.memory id) s.history,
    event ∈ orderEvents (s.shared.get? (.memory id))

/-- **No update is lost.** In memory mode, while every call writes over the record it read, every
    event that an update wrote stays stored as long as there are at most fifty, and a follow-up
    changes no field but `review_followup` and `updated_at`. -/
theorem orderUpdates_kept (hmemory : cfg.hasFirestore = false)
    (es : List (PoolEvent OrderCall OrderChoice))
    (hcalls : ∀ call, .start call ∈ es → call.hasProviderEvents = false)
    (hup : ∀ t ∈ (orderMachine cfg).trace noOrders es, WritesUpToDate t.pre t.event) :
    (orderMachine cfg).Always UpdatesKept noOrders es ∧
      ∀ t ∈ (orderMachine cfg).trace noOrders es, FollowupKeepsOthers cfg t := by
  have halways : (orderMachine cfg).Always (OrdersKept cfg) noOrders es := by
    refine (orderMachine cfg).always_of_guarded
      (G := fun s e => (∀ call, e = .start call → call.hasProviderEvents = false) ∧
        WritesUpToDate s e)
      (fun s e hs hG => ordersKept_next cfg hmemory hs e hG.1 hG.2)
      (ordersKept_start cfg) fun t ht => ?_
    refine ⟨fun call hstart => hcalls call ?_, hup t ht⟩
    rw [← hstart, ← (orderMachine cfg).trace_map_event noOrders es]
    exact List.mem_map_of_mem ht
  refine ⟨halways.imp _ fun s hs id hcount event hevent => ?_, fun t ht => ?_⟩
  · exact (hs.events id hcount).mem_iff.2 hevent
  · rw [(orderMachine cfg).eq_entry_of_mem_trace ht]
    exact followupKeepsOthers_of_kept cfg (halways.pre _ ht) t.event (hup t ht)

/-! ## Runs -/

/-- Shipping without Firestore. -/
def memoryShipping : ShippingConfig where
  py := .ascii
  hasFirestore := false

/-- An order is created. -/
def orderCreated : List (PoolEvent OrderCall OrderChoice) :=
  .start (.create ""
    { customerName := "Ada", customerPhone := some "+2348000001", orderId := some "ord-1" }) ::
    List.replicate 4 (.resume 0 {})

/-- Its parcel is on the way. -/
def orderShipped : OrderCall := .update { orderId := "ord-1", trackingStatus := "in_transit" }

/-- The events of both records are still empty. -/
def noEventsYet (s : OrderPool) : PoolEvent OrderCall OrderChoice → Bool
  | .start _ => true
  | .resume i _ =>
    match s.threads[i]? with
    | some ⟨_, .call (.write _ _ .followedUp) _⟩ => false
    | some ⟨log, .call (.write place _ _) _⟩ =>
      (orderEvents ((lastRead log).bind (·.2))).isEmpty &&
        (orderEvents (s.shared.get? place)).isEmpty
    | _ => true

theorem writesUpToDate_of_noEventsYet {s : OrderPool} {e : PoolEvent OrderCall OrderChoice}
    (h : noEventsYet s e = true) : WritesUpToDate s e := by
  cases e with
  | start call => trivial
  | resume i choice =>
    intro log place payload why k old hfound hread
    rw [noEventsYet, hfound] at h
    cases why with
    | followedUp => cases h
    | created =>
      simp only [hread, Option.bind_some, Bool.and_eq_true, List.isEmpty_iff] at h
      exact h.1.trans h.2.symm
    | tracked event =>
      simp only [hread, Option.bind_some, Bool.and_eq_true, List.isEmpty_iff] at h
      exact h.1.trans h.2.symm

/-- No call that the event starts has provider events. -/
def withoutProviderEvents : PoolEvent OrderCall OrderChoice → Bool
  | .start call => !call.hasProviderEvents
  | .resume _ _ => true

theorem hasProviderEvents_of_all {es : List (PoolEvent OrderCall OrderChoice)}
    (h : es.all withoutProviderEvents = true) (call : OrderCall) (hcall : .start call ∈ es) :
    call.hasProviderEvents = false := by
  simpa only [withoutProviderEvents, Bool.not_eq_true'] using List.all_eq_true.1 h _ hcall

theorem shippedOrder_kept :
    (orderMachine memoryShipping).Always UpdatesKept noOrders
        (orderCreated ++ .start orderShipped :: List.replicate 4 (.resume 1 {})) ∧
      ∀ t ∈ (orderMachine memoryShipping).trace noOrders
        (orderCreated ++ .start orderShipped :: List.replicate 4 (.resume 1 {})),
          FollowupKeepsOthers memoryShipping t := by
  have hsteps : ((orderMachine memoryShipping).trace noOrders
      (orderCreated ++ .start orderShipped :: List.replicate 4 (.resume 1 {}))).all
        (fun t => noEventsYet t.pre t.event) = true := by decide +kernel
  exact orderUpdates_kept memoryShipping rfl _ (hasProviderEvents_of_all (by decide +kernel)) fun t
      ht =>
    writesUpToDate_of_noEventsYet (List.all_eq_true.1 hsteps t ht)

/-- A follow-up reads the order and sends its first message; the update is written before the second
    one is sent, and the follow-up writes the old record back. -/
def followupOverUpdate : List (PoolEvent OrderCall OrderChoice) :=
  orderCreated ++
    [.start (.followup { orderId := "ord-1" }), .resume 1 {}, .resume 1 { send := .sent },
      .start orderShipped] ++
    List.replicate 4 (.resume 2 {}) ++ [.resume 1 { send := .sent }, .resume 1 {}, .resume 1 {},
      .resume 1 {}]

theorem followupOverUpdate_lost :
    ¬ ∀ (cfg : ShippingConfig) (es : List (PoolEvent OrderCall OrderChoice)),
      cfg.hasFirestore = false → (∀ call, .start call ∈ es → call.hasProviderEvents = false) →
        (orderMachine cfg).Always UpdatesKept noOrders es ∧
          ∀ t ∈ (orderMachine cfg).trace noOrders es, FollowupKeepsOthers cfg t := by
  intro h
  have hkept :=
    (h memoryShipping followupOverUpdate rfl (hasProviderEvents_of_all (by decide +kernel))).1.run
  have hcount : (insertedEvents (.memory "ord-1")
      ((orderMachine memoryShipping).run noOrders followupOverUpdate).history).length =
        1 := by decide +kernel
  have hempty :
    (orderEvents (((orderMachine memoryShipping).run noOrders followupOverUpdate).shared.get?
      (.memory "ord-1"))).isEmpty = true := by decide +kernel
  obtain ⟨event, hevent⟩ := List.exists_mem_of_length_pos (hcount ▸ Nat.one_pos)
  have hstored := hkept "ord-1" (by rw [hcount]; decide) event hevent
  rw [List.isEmpty_iff.1 hempty] at hstored
  exact absurd hstored List.not_mem_nil

end Ekaette
