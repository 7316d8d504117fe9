import Ekaette.At.PaymentOwnership

set_option autoImplicit false

/-! # Revenue is counted once

A success event of a payment is recorded under an id made of the payment's reference, by webhook or
by verification, so its repetitions are recognized as long as the analytics remember that id. They
remember a window of the ids recorded last; within it a payment contributes exactly once to the
campaign it is attributed to. -/

namespace Ekaette

/-! ## The analytics call of a step -/

variable (cfg : PaymentConfig)

/-- The gateway event the provider's answer to a verification makes. -/
def verifiedEvent (reply : ProviderReply) (s : PaymentState) :
    Option GatewayEvent :=
  match checkVerifyReply cfg.py reply with
  | .error _ => none
  | .ok data => (readGatewayEvent cfg.py (verifyPayload cfg.py data) s).toOption

variable (s : PaymentState)

/-- The gateway event a step processes: a webhook, or the provider's answer to a verification. -/
def processedEvent : PaymentEvent → Option GatewayEvent
  | .webhook payload _ => (readGatewayEvent cfg.py payload s).toOption
  | .reply call (some reply) _ _ =>
    match s.calls.get? call with
    | some (.verify _) => verifiedEvent cfg reply s
    | _ => none
  | _ => none

/-- What a step draws for the analytics. -/
def PaymentEvent.env? : PaymentEvent → Option AnalyticsEnv
  | .reply _ _ _ env => some env
  | .webhook _ env => some env
  | .manualEvent _ env => some env
  | _ => none

/-- The `record_event` call of a call that goes on with the provider's reply. -/
def continueRecords (call : PendingCall) (reply : ProviderReply)
    (generated : String) (s : PaymentState) : Option RecordEventCall :=
  match call with
  | .initializeTransaction req reference _ _ =>
    match checkInitializeReply cfg.py reply with
    | .error _ => none
    | .ok data => initializedCall req.tenantId req.companyId req.campaignId req.customerPhone
        ("paystack:init:" ++ normalizeReference
          (some (strOr cfg.py (PyValue.lookupD data "reference") reference)) generated)
  | .customer _ => none
  | .dedicated p _ =>
    match checkDedicatedReply cfg.py reply with
    | .error _ => none
    | .ok data =>
      if normalizeAccountNumber cfg.py
          (PyStr.strip (extractVirtualAccountPayload cfg.py data).accountNumber) = "" then none
      else initializedCall p.request.tenantId p.request.companyId p.request.campaignId
        p.request.contact ("paystack:va:init:" ++ p.reference)
  | .verify _ => (verifiedEvent cfg reply s).bind GatewayEvent.analyticsCall

/-- The `record_event` call of a step, if it makes one. -/
def recordedCall : PaymentEvent → Option RecordEventCall
  | .reply call (some reply) generated _ =>
    match s.calls.get? call with
    | none => none
    | some pending => continueRecords cfg pending reply generated s
  | .webhook payload _ =>
    (readGatewayEvent cfg.py payload s).toOption.bind GatewayEvent.analyticsCall
  | .manualEvent request _ => some request
  | _ => none

/-- The analytics after the call of a step. -/
def analyticsAfter (py : StrMethods) (call : Option RecordEventCall) (env : Option AnalyticsEnv)
    (s : Analytics) : Analytics :=
  match call, env with
  | some call, some env => (recordEvent py env call s).1
  | _, _ => s

theorem store_analytics (g : GatewayEvent) (py : StrMethods) (now : String) (s : PaymentState) :
    (g.store py now s).analytics = s.analytics := by
  unfold GatewayEvent.store
  generalize g.paymentPayload now = paid
  generalize g.syncPayload now = synced
  generalize g.virtualAccountPayload now = account
  cases g.context.virtualAccountReference with
  | none => rfl
  | some vaReference =>
    simp only
    split_ifs <;> rfl

theorem processGatewayEvent_analytics (py : StrMethods) (env : AnalyticsEnv) (payload : JsonObject)
    (s : PaymentState) :
    (processGatewayEvent py env payload s).1.analytics
      = analyticsAfter py ((readGatewayEvent py payload s).toOption.bind GatewayEvent.analyticsCall)
          (some env) s.analytics := by
  unfold processGatewayEvent
  cases readGatewayEvent py payload s with
  | error e => rfl
  | ok g =>
    have hok : (Except.ok g : Except PaymentError GatewayEvent).toOption = some g := rfl
    rw [hok, Option.bind_some]
    cases hcall : g.analyticsCall with
    | none =>
      simp only [hcall]
      exact store_analytics g py env.now s
    | some call =>
      simp only [hcall, PaymentState.recordEvent, store_analytics]
      rfl

theorem recordOption_analytics (py : StrMethods) (env : AnalyticsEnv)
    (call : Option RecordEventCall) :
    (s.recordOption py env call).analytics = analyticsAfter py call (some env) s.analytics := by
  cases call with
  | none => rfl
  | some call => rfl

theorem settle_analytics (call : ℕ) (answer : PaymentAnswer) :
    (s.settle call answer).analytics = s.analytics := by
  cases answer <;> rfl

theorem continueCall_analytics (call : PendingCall) (reply : ProviderReply)
    (generated : String) (env : AnalyticsEnv) (s : PaymentState) :
    (continueCall cfg call reply generated env s).1.analytics
      = analyticsAfter cfg.py (continueRecords cfg call reply generated s) (some env)
          s.analytics := by
  cases call with
  | initializeTransaction req reference currency metadata =>
    simp only [continueCall, continueRecords, endInitialize]
    cases checkInitializeReply cfg.py reply with
    | error e => rfl
    | ok data =>
      simp only [recordOption_analytics]
      rfl
  | customer pending =>
    simp only [continueCall, continueRecords, endCustomer]
    split
    · rfl
    · simp only [customerCodeFromCreateResponse]
      split_ifs <;> rfl
  | dedicated p createMode =>
    simp only [continueCall, continueRecords, endDedicated]
    cases checkDedicatedReply cfg.py reply with
    | error e => rfl
    | ok data =>
      simp only
      split
      · rfl
      · simp only [recordOption_analytics]
        rfl
  | verify reference =>
    simp only [continueCall, continueRecords, verifiedEvent, endVerify]
    cases checkVerifyReply cfg.py reply with
    | error e => rfl
    | ok data =>
      have hanalytics := processGatewayEvent_analytics cfg.py env (verifyPayload cfg.py data) s
      simp only
      generalize processGatewayEvent cfg.py env (verifyPayload cfg.py data) s = processed
        at hanalytics ⊢
      obtain ⟨s', result⟩ := processed
      cases result with
      | error e => exact hanalytics
      | ok g => exact hanalytics

/-- **What a step does to the analytics**: one `record_event` call at most. -/
theorem next_analytics (e : PaymentEvent) :
    ((paymentMachine cfg).next s e).analytics
      = analyticsAfter cfg.py (recordedCall cfg s e) e.env? s.analytics := by
  cases e with
  | initializeTransaction call req generated => exact settle_analytics s call _
  | createVirtualAccount call req generated => exact settle_analytics s call _
  | verify call reference => exact settle_analytics s call _
  | reply call reply generated env =>
    simp only [EventMachine.next, paymentMachine]
    cases hcall : s.calls.get? call with
    | none => cases reply <;> simp [recordedCall, hcall, analyticsAfter]
    | some pending =>
      cases reply with
      | none => exact settle_analytics s call _
      | some reply =>
        simp only [settle_analytics, recordedCall, hcall]
        exact continueCall_analytics cfg pending reply generated env s
  | webhook payload env =>
    simp only [EventMachine.next, paymentMachine]
    have hanalytics := processGatewayEvent_analytics cfg.py env payload s
    generalize processGatewayEvent cfg.py env payload s = processed at hanalytics ⊢
    obtain ⟨s', result⟩ := processed
    cases result with
    | error e => exact hanalytics
    | ok g => exact hanalytics
  | manualEvent request env => rfl

/-! ## Success deliveries -/

variable (ref : String)

/-- The id under which the success of a payment is recorded. -/
def paidEventId : String := "paystack:success:" ++ ref

abbrev PaymentEntry := EventMachine.Entry PaymentState PaymentEvent PaymentAnswer

/-- The step processes a success event of the reference that is attributed to the campaign. -/
structure SuccessDelivery (cfg : PaymentConfig) (ref campaignId : String) (g : GatewayEvent)
    (t : PaymentEntry) : Prop where
  processed : processedEvent cfg t.pre t.event = some g
  reference : g.reference = ref
  success : g.isSuccess = true
  campaign : g.context.campaignId = some campaignId

/-- The step delivers a success of the reference, attributed to a campaign. -/
def Delivers (t : PaymentEntry) : Prop :=
  ∃ campaignId g, SuccessDelivery cfg ref campaignId g t

/-- The event id a step records: the id of its call, unless it has been seen. -/
def recordedId (t : PaymentEntry) : Option String :=
  ((recordedCall cfg t.pre t.event).bind RecordEventCall.eventId).filter
    (fun id => id ≠ "" && !t.pre.analytics.seenEventIds.contains id)

/-- The event ids recorded in a log, oldest first. -/
def recordedIds (log : List PaymentEntry) : List String :=
  log.filterMap (recordedId cfg)

theorem nonBlank_eq_some {v : PyValue} {s : String} (h : nonBlank v = some s) :
    PyStr.strip s ≠ "" := by
  cases v with
  | str t =>
    simp only [nonBlank] at h
    split_ifs at h with hblank
    rw [← Option.some.inj h]
    exact hblank
  | _ => simp [nonBlank] at h

theorem campaignContext_campaign {py : StrMethods} {data : JsonObject} {s : PaymentState}
    {campaignId : String} (h : (campaignContextFromData py data s).campaignId = some campaignId) :
    PyStr.strip campaignId ≠ "" := by
  have howner := congrArg (fun owner => owner.2.2) (campaignContext_owner py data s)
  simp only [h, chargeOwner, metadataOwner] at howner
  rcases Option.or_eq_some_iff.1 howner.symm with hnamed | ⟨_, haccount⟩
  · exact nonBlank_eq_some hnamed
  · obtain ⟨stored, hstored, rfl⟩ := Option.map_eq_some_iff.1 haccount
    obtain ⟨v, _, hv⟩ := Option.bind_eq_some_iff.1 hstored
    rw [PyStr.strip_strip]
    exact nonBlank_eq_some hv

theorem coerceAmountKobo_nonneg {py : StrMethods} {v : PyValue} {n : ℤ}
    (h : coerceAmountKobo py v = .ok n) : 0 ≤ n := by
  cases v with
  | int m =>
    simp only [coerceAmountKobo, Except.ok.injEq] at h
    exact h ▸ Int.le_max_right m 0
  | float x =>
    cases x with
    | fin q =>
      simp only [coerceAmountKobo, Except.ok.injEq] at h
      exact h ▸ Int.le_max_right _ 0
    | _ => simp [coerceAmountKobo] at h
  | str s =>
    simp only [coerceAmountKobo] at h
    split_ifs at h
    · split at h
      · simp only [Except.ok.injEq] at h
        omega
      · simp at h
    · simp only [Except.ok.injEq] at h
      omega
  | _ =>
    simp only [coerceAmountKobo, Except.ok.injEq] at h
    omega

/-- What an accepted gateway event carries: an amount that is not negative, a campaign id that is
    not blank. -/
theorem readGatewayEvent_ok {py : StrMethods} {payload : JsonObject} {s : PaymentState}
    {g : GatewayEvent} (h : readGatewayEvent py payload s = .ok g) :
    0 ≤ g.amountKobo ∧
      ∀ campaignId, g.context.campaignId = some campaignId → PyStr.strip campaignId ≠ "" := by
  unfold readGatewayEvent at h
  cases hdata : PyValue.lookupD payload "data" with
  | dict data =>
    simp only [hdata] at h
    cases hreference : validateReference (strOr py (PyValue.lookupD data "reference") "") with
    | error e => simp [hreference] at h
    | ok reference =>
      cases hamount : coerceAmountKobo py (PyValue.lookupD data "amount") with
      | error e => simp [hreference, hamount] at h
      | ok amount =>
        simp only [hreference, hamount, Except.ok.injEq] at h
        subst h
        exact ⟨coerceAmountKobo_nonneg hamount, fun _ => campaignContext_campaign⟩
  | _ => simp [hdata] at h

theorem toOption_eq_some {ε α : Type} {r : Except ε α} {a : α} (h : r.toOption = some a) :
    r = .ok a := by
  cases r with
  | error e => simp [Except.toOption] at h
  | ok b => rw [← Option.some.inj h]

theorem processedEvent_ok {cfg : PaymentConfig} {s : PaymentState} {e : PaymentEvent}
    {g : GatewayEvent} (h : processedEvent cfg s e = some g) :
    ∃ payload, readGatewayEvent cfg.py payload s = .ok g := by
  cases e with
  | webhook payload env => exact ⟨payload, toOption_eq_some h⟩
  | reply call reply generated env =>
    cases reply with
    | none => simp [processedEvent] at h
    | some reply =>
      simp only [processedEvent] at h
      split at h
      · simp only [verifiedEvent] at h
        split at h
        · simp at h
        · exact ⟨_, toOption_eq_some h⟩
      · simp at h
  | _ => simp [processedEvent] at h

theorem recordedCall_of_processed {cfg : PaymentConfig} {s : PaymentState} {e : PaymentEvent}
    {g : GatewayEvent} (h : processedEvent cfg s e = some g) :
    recordedCall cfg s e = g.analyticsCall := by
  cases e with
  | webhook payload env =>
    simp only [processedEvent] at h
    simp [recordedCall, h]
  | reply call reply generated env =>
    cases reply with
    | none => simp [processedEvent] at h
    | some reply =>
      simp only [processedEvent] at h
      cases hcall : s.calls.get? call with
      | none => simp [hcall] at h
      | some pending =>
        cases pending with
        | verify reference =>
          simp only [hcall] at h
          simp [recordedCall, hcall, continueRecords, h]
        | _ => simp [hcall] at h
  | _ => simp [processedEvent] at h

/-! ## The id of a success belongs to the deliveries -/

/-- Ids that differ within their first eleven characters differ. -/
theorem append_ne_of_take {a b x y : String} (ha : 11 ≤ a.toList.length) (hb : 11 ≤ b.toList.length)
    (h : a.toList.take 11 ≠ b.toList.take 11) : a ++ x ≠ b ++ y := by
  intro heq
  apply h
  have hlist : a.toList ++ x.toList = b.toList ++ y.toList := by
    rw [← String.toList_append, ← String.toList_append, heq]
  rw [← List.take_append_of_le_length ha, hlist, List.take_append_of_le_length hb]

theorem toList_paidEventId :
    (paidEventId ref).toList = "paystack:success:".toList ++ ref.toList :=
  String.toList_append

theorem paidEventId_ne_empty : paidEventId ref ≠ "" := by
  intro h
  have hlist := toList_paidEventId ref
  rw [h] at hlist
  exact absurd hlist.symm (by simp)

theorem paidEventId_injective {ref ref' : String} (h : paidEventId ref = paidEventId ref') :
    ref = ref' := by
  have hlist := congrArg String.toList h
  rw [toList_paidEventId, toList_paidEventId] at hlist
  exact String.toList_injective (List.append_cancel_left hlist)

theorem initializedCall_eventId {tenantId companyId eventId : String}
    {campaignId recipient : Option String} {call : RecordEventCall}
    (h : initializedCall tenantId companyId campaignId recipient eventId = some call) :
    call.eventId = some eventId := by
  unfold initializedCall at h
  cases campaignId with
  | none => simp at h
  | some c =>
    simp only at h
    split_ifs at h
    rw [← Option.some.inj h]

theorem analyticsCall_paidEventId {g : GatewayEvent} {call : RecordEventCall} {ref : String}
    (h : g.analyticsCall = some call) (hid : call.eventId = some (paidEventId ref)) :
    g.isSuccess = true ∧ g.reference = ref ∧ ∃ campaignId,
    g.context.campaignId = some campaignId := by
  unfold GatewayEvent.analyticsCall at h
  cases hcampaign : g.context.campaignId with
  | none => simp [hcampaign] at h
  | some campaignId =>
    simp only [hcampaign] at h
    split_ifs at h with hsuccess hfailure
    · rw [← Option.some.inj h] at hid
      exact ⟨hsuccess, paidEventId_injective (Option.some.inj hid), campaignId, rfl⟩
    · rw [← Option.some.inj h, Option.some.injEq, String.append_assoc, String.append_assoc] at hid
      exact absurd hid (append_ne_of_take (by decide) (by decide) (by decide))

theorem delivers_of_eventId {cfg : PaymentConfig} {t : PaymentEntry} {call : RecordEventCall}
    {ref : String} (hcall : recordedCall cfg t.pre t.event = some call)
    (hid : call.eventId = some (paidEventId ref)) :
    Delivers cfg ref t ∨ ∃ request env, t.event = .manualEvent request env ∧
      request.eventId = some (paidEventId ref) := by
  have hgateway : ∀ g, processedEvent cfg t.pre t.event = some g → g.analyticsCall = some call →
      Delivers cfg ref t := by
    intro g hprocessed hg
    obtain ⟨hsuccess, href, campaignId, hcampaign⟩ := analyticsCall_paidEventId hg hid
    exact ⟨campaignId, g, hprocessed, href, hsuccess, hcampaign⟩
  -- a payment that is set up is recorded under another id
  have hinitialized : ∀ tenantId companyId campaignId recipient (label reference : String),
      11 ≤ label.toList.length → label.toList.take 11 ≠ "paystack:success:".toList.take 11 →
      initializedCall tenantId companyId campaignId recipient (label ++ reference) ≠ some call := by
    intro tenantId companyId campaignId recipient label reference hlength hlabel hinit
    have heq := initializedCall_eventId hinit
    rw [hid, Option.some.injEq, eq_comm] at heq
    exact append_ne_of_take hlength (by decide) hlabel heq
  obtain ⟨s, event, answer⟩ := t
  cases event with
  | webhook payload env =>
    obtain ⟨g, hg, hgcall⟩ := Option.bind_eq_some_iff.1 hcall
    exact .inl (hgateway g hg hgcall)
  | manualEvent request env =>
    rw [← Option.some.inj hcall] at hid
    exact .inr ⟨request, env, rfl, hid⟩
  | reply call' reply generated env =>
    cases reply with
    | none => simp [recordedCall] at hcall
    | some reply =>
      simp only [recordedCall] at hcall
      cases hpending : s.calls.get? call' with
      | none => simp [hpending] at hcall
      | some pending =>
        simp only [hpending] at hcall
        cases pending with
        | initializeTransaction req reference currency metadata =>
          simp only [continueRecords] at hcall
          split at hcall
          · simp at hcall
          · exact absurd hcall (hinitialized _ _ _ _ _ _ (by decide) (by decide))
        | customer pending => simp [continueRecords] at hcall
        | dedicated p createMode =>
          simp only [continueRecords] at hcall
          split at hcall
          · simp at hcall
          · split_ifs at hcall
            exact absurd hcall (hinitialized _ _ _ _ _ _ (by decide) (by decide))
        | verify reference =>
          obtain ⟨g, hg, hgcall⟩ := Option.bind_eq_some_iff.1 hcall
          refine .inl (hgateway g ?_ hgcall)
          simp only [processedEvent, hpending]
          exact hg
  | _ => simp [recordedCall] at hcall

/-! ## The seen ids along a run -/

/-- The clock the analytics read does not go backwards. -/
def ClockOrder (a b : PaymentEvent) : Prop :=
  ∀ x ∈ a.env?, ∀ y ∈ b.env?, x.dedupAt ≤ y.dedupAt

/-- The seen ids against the log: the window of the recorded ones, stamped by the log's events. -/
structure SeenLog (cfg : PaymentConfig) (log : List PaymentEntry) (s : PaymentState) : Prop where
  seen : SeenIds (recordedIds cfg log) s.analytics.seenEventIds
  stamped : ∀ e ∈ s.analytics.seenEventIds.entries, ∃ t ∈ log, ∃ env ∈ t.event.env?,
    e.2 = env.dedupAt

theorem recordedIds_concat (log : List PaymentEntry) (t : PaymentEntry) :
    recordedIds cfg (log ++ [t]) = recordedIds cfg log ++ (recordedId cfg t).toList := by
  rw [recordedIds, List.filterMap_append]
  cases h : recordedId cfg t <;> simp [recordedIds, h]

/-- A step that makes a call has drawn for it. -/
theorem env?_of_recordedCall {cfg : PaymentConfig} {s : PaymentState} {e : PaymentEvent}
    {call : RecordEventCall} (h : recordedCall cfg s e = some call) : ∃ env, e.env? = some env := by
  cases e with
  | reply call reply generated env => exact ⟨env, rfl⟩
  | webhook payload env => exact ⟨env, rfl⟩
  | manualEvent request env => exact ⟨env, rfl⟩
  | _ => simp [recordedCall] at h

theorem seenLog_step {log : List PaymentEntry} {s : PaymentState}
    {e : PaymentEvent} (hclock : ∀ t ∈ log, ClockOrder t.event e) (h : SeenLog cfg log s) :
    SeenLog cfg (log ++ [(paymentMachine cfg).entry s e]) ((paymentMachine cfg).next s e) := by
  have hold : ∀ entry ∈ s.analytics.seenEventIds.entries,
      ∃ t ∈ log ++ [(paymentMachine cfg).entry s e], ∃ env ∈ t.event.env?,
        entry.2 = env.dedupAt := by
    intro entry hentry
    obtain ⟨t, ht, env, henv, hstamp⟩ := h.stamped entry hentry
    exact ⟨t, List.mem_append_left _ ht, env, henv, hstamp⟩
  have hid : recordedId cfg ((paymentMachine cfg).entry s e)
      = ((recordedCall cfg s e).bind RecordEventCall.eventId).filter
          (fun id => id ≠ "" && !s.analytics.seenEventIds.contains id) := rfl
  cases hcall : recordedCall cfg s e with
  | none =>
    have hnext : ((paymentMachine cfg).next s e).analytics = s.analytics := by
      rw [next_analytics, hcall]
      rfl
    rw [hcall, Option.bind_none, Option.filter_none] at hid
    constructor
    · rw [recordedIds_concat, hid, hnext, Option.toList_none, List.append_nil]
      exact h.seen
    · rw [hnext]
      exact hold
  | some call =>
    obtain ⟨env, henv⟩ := env?_of_recordedCall hcall
    have hnext : ((paymentMachine cfg).next s e).analytics.seenEventIds
        = (eventDeduped call.eventId env.dedupAt s.analytics.seenEventIds).1 := by
      rw [next_analytics, hcall, henv, analyticsAfter, recordEvent_seen]
    have hpast : ∀ entry ∈ s.analytics.seenEventIds.entries, entry.2 ≤ env.dedupAt := by
      intro entry hentry
      obtain ⟨t, ht, env', henv', hstamp⟩ := h.stamped entry hentry
      rw [hstamp]
      exact hclock t ht env' henv' env henv
    rw [hcall, Option.bind_some] at hid
    constructor
    · rw [recordedIds_concat, hid, hnext]
      exact seenIds_eventDeduped h.seen hpast
    · intro entry hentry
      rw [hnext] at hentry
      rcases eventDeduped_stamps hentry with hentry | hstamp
      · exact hold entry hentry
      · exact ⟨_, List.mem_append_right _ (List.mem_singleton_self _), env, henv, hstamp⟩

/-- Every step of a run finds the window of the ids recorded before it. -/
theorem seenIds_before {es : List PaymentEvent}
    (hclock : es.Pairwise ClockOrder) {log : List PaymentEntry} {t : PaymentEntry}
    (ht : log ++ [t] <+: (paymentMachine cfg).trace .empty es) :
    SeenIds (recordedIds cfg log) t.pre.analytics.seenEventIds := by
  have hempty : SeenLog cfg [] .empty := ⟨seenIds_empty, fun e he =>
    absurd he (by simp [PaymentState.empty, Analytics.empty, Dict.empty])⟩
  refine (paymentMachine cfg).trace_forall (C := SeenLog cfg)
    (Q := fun log t => SeenIds (recordedIds cfg log) t.pre.analytics.seenEventIds) hempty ?_ log t
    ht
  intro log s e hpre hlog
  refine ⟨hlog.seen, seenLog_step cfg (fun t ht => ?_) hlog⟩
  exact EventMachine.rel_of_prefix ((paymentMachine cfg).trace_pairwise_event hclock) hpre t ht

theorem contains_iff_mem_keys {seen : Dict String ℚ} (id : String) :
    seen.contains id = true ↔ id ∈ seen.keys := by
  rw [Dict.mem_keys_iff, Dict.contains]

/-! ## Exactly once -/

/-- The entry contributes its amount to the campaign it is booked on. -/
def PaymentEntry.Pays (t : PaymentEntry) (g : GatewayEvent)
    (campaignId : String) (env : AnalyticsEnv) : Prop :=
  Contributes t.pre.analytics ((paymentMachine cfg).next t.pre t.event).analytics
    (creditedCampaign g.context.tenantId g.context.companyId campaignId env.rebuiltId
      t.pre.analytics.campaigns) g.amountKobo

theorem delivery_call {cfg : PaymentConfig} {ref campaignId : String} {g : GatewayEvent}
    {t : PaymentEntry} (h : SuccessDelivery cfg ref campaignId g t) :
    ∃ call, recordedCall cfg t.pre t.event = some call ∧ call.eventType = "payment_success" ∧
      call.tenantId = g.context.tenantId ∧ call.companyId = g.context.companyId ∧
      call.campaignId = some campaignId ∧ call.amountKobo = some g.amountKobo ∧
      call.eventId = some (paidEventId ref) := by
  have hcall := recordedCall_of_processed h.processed
  rw [GatewayEvent.analyticsCall, h.campaign] at hcall
  simp only [h.success, if_true] at hcall
  exact ⟨_, hcall, rfl, rfl, rfl, rfl, rfl, by rw [← h.reference]; rfl⟩

theorem delivery_pays {cfg : PaymentConfig} {ref campaignId : String} {g : GatewayEvent}
    {t : PaymentEntry} (h : SuccessDelivery cfg ref campaignId g t) {env : AnalyticsEnv}
    (henv : t.event.env? = some env)
    (hfresh : t.pre.analytics.campaigns.get? env.rebuiltId = none)
    (hnew : t.pre.analytics.seenEventIds.contains (paidEventId ref) = false) :
    t.Pays cfg g campaignId env := by
  obtain ⟨call, hcall, htype, htenant, hcompany, hcampaign, hamount, hevent⟩ := delivery_call h
  obtain ⟨payload, hread⟩ := processedEvent_ok h.processed
  obtain ⟨hnonneg, hblank⟩ := readGatewayEvent_ok hread
  rw [PaymentEntry.Pays, next_analytics, hcall, henv, ← htenant, ← hcompany]
  exact recordEvent_contributes cfg.py env call t.pre.analytics htype hcampaign hamount hnonneg
    hevent (paidEventId_ne_empty ref) hnew (hblank campaignId h.campaign) hfresh

theorem delivery_ignored {cfg : PaymentConfig} {ref : String} {t : PaymentEntry}
    (h : Delivers cfg ref t)
    (hseen : t.pre.analytics.seenEventIds.contains (paidEventId ref) = true) :
    ((paymentMachine cfg).next t.pre t.event).analytics = t.pre.analytics := by
  obtain ⟨campaignId, g, h⟩ := h
  obtain ⟨call, hcall, _, _, _, _, _, hevent⟩ := delivery_call h
  obtain ⟨env, henv⟩ := env?_of_recordedCall hcall
  rw [next_analytics, hcall, henv]
  exact recordEvent_duplicate cfg.py env call _ hevent (paidEventId_ne_empty ref) hseen

theorem recordedId_of_delivery {cfg : PaymentConfig} {ref campaignId : String} {g : GatewayEvent}
    {t : PaymentEntry} (h : SuccessDelivery cfg ref campaignId g t)
    (hnew : t.pre.analytics.seenEventIds.contains (paidEventId ref) = false) :
    recordedId cfg t = some (paidEventId ref) := by
  obtain ⟨call, hcall, _, _, _, _, _, hevent⟩ := delivery_call h
  rw [recordedId, hcall, Option.bind_some, hevent, Option.filter_some, hnew]
  simp [paidEventId_ne_empty]

theorem not_mem_recordedIds {cfg : PaymentConfig} {ref : String} {log : List PaymentEntry}
    (hnone : ∀ x ∈ log, ¬ Delivers cfg ref x)
    (hmanual : ∀ x ∈ log, ∀ request env, x.event = .manualEvent request env →
      request.eventId ≠ some (paidEventId ref)) : paidEventId ref ∉ recordedIds cfg log := by
  intro hmem
  obtain ⟨x, hx, hid⟩ := List.mem_filterMap.1 hmem
  obtain ⟨hbind, _⟩ := Option.filter_eq_some_iff.1 hid
  obtain ⟨call, hcall, hevent⟩ := Option.bind_eq_some_iff.1 hbind
  rcases delivers_of_eventId hcall hevent with hdelivers | ⟨request, env, hrequest, hid⟩
  · exact hnone x hx hdelivers
  · exact hmanual x hx request env hrequest hid

/-- The manual events of the run keep out of the ids of the payment. -/
def NoManualUse (es : List PaymentEvent) : Prop :=
  ∀ request env, PaymentEvent.manualEvent request env ∈ es →
    request.eventId ≠ some (paidEventId ref)

/-- **Exactly-once revenue.** In a run whose clock does not go backwards and whose manual events do
    not use the payment's id, the first success delivery of a payment contributes its amount, once,
    to the campaign it is booked on, and a later one adds nothing as long as fewer new event ids
    were recorded in between than the analytics remember. -/
theorem revenue_exactly_once {es : List PaymentEvent}
    (hclock : es.Pairwise ClockOrder) {ref : String} (hmanual : NoManualUse ref es)
    {before after : List PaymentEntry} {first : PaymentEntry}
    (hrun : (paymentMachine cfg).trace .empty es = before ++ first :: after)
    (hnone : ∀ x ∈ before, ¬ Delivers cfg ref x) {campaignId : String} {g : GatewayEvent}
    (hfirst : SuccessDelivery cfg ref campaignId g first) {env : AnalyticsEnv}
    (henv : first.event.env? = some env)
    (hfresh : first.pre.analytics.campaigns.get? env.rebuiltId = none) :
    first.Pays cfg g campaignId env ∧
      ∀ recent t later, after = recent ++ t :: later → Delivers cfg ref t →
        (recordedIds cfg recent).length <
          RecentWindow.windowSize 10000 5000 (recordedIds cfg (before ++ first :: recent)).length →
        ((paymentMachine cfg).next t.pre t.event).analytics = t.pre.analytics := by
  have hmanual' : ∀ x ∈ before, ∀ request env, x.event = .manualEvent request env →
      request.eventId ≠ some (paidEventId ref) := by
    intro x hx request env hevent
    refine hmanual request env ?_
    rw [← hevent, ← (paymentMachine cfg).trace_map_event .empty es, hrun]
    exact List.mem_map_of_mem (List.mem_append_left _ hx)
  -- the first delivery finds its id unrecorded
  have hpre : before ++ [first] <+: (paymentMachine cfg).trace .empty es :=
    ⟨after, by rw [hrun, List.append_assoc, List.singleton_append]⟩
  have hseen := seenIds_before cfg hclock hpre
  have hnew : first.pre.analytics.seenEventIds.contains (paidEventId ref) = false := by
    rw [← Bool.not_eq_true, contains_iff_mem_keys, hseen.keys]
    exact fun hmem => not_mem_recordedIds hnone hmanual'
      (RecentWindow.remembered_subset (by decide) hmem)
  refine ⟨delivery_pays hfirst henv hfresh hnew, ?_⟩
  rintro recent t later rfl ht hwindow
  -- and records it, so that it is remembered within the window
  have hrecorded := recordedId_of_delivery hfirst hnew
  have hids : recordedIds cfg (before ++ first :: recent)
      = recordedIds cfg before ++ paidEventId ref :: recordedIds cfg recent := by
    simp [recordedIds, hrecorded]
  have hpre' : (before ++ first :: recent) ++ [t] <+: (paymentMachine cfg).trace .empty es :=
    ⟨later, by rw [hrun]; simp⟩
  refine delivery_ignored ht ?_
  rw [contains_iff_mem_keys, (seenIds_before cfg hclock hpre').keys, hids]
  rw [hids] at hwindow
  exact RecentWindow.mem_remembered (by decide) hwindow

/-! ## A payment counted twice, a payment not counted -/

theorem readGatewayEvent_of_no_account (py : StrMethods) {payload data : JsonObject}
    (hdata : PyValue.lookupD payload "data" = .dict data)
    (haccount : extractAccountNumberFromCharge py data = "") (s s' : PaymentState) :
    readGatewayEvent py payload s = readGatewayEvent py payload s' := by
  have hcontext : campaignContextFromData py data s = campaignContextFromData py data s' := by
    simp [campaignContextFromData, haccount]
  unfold readGatewayEvent
  simp only [hdata, hcontext]

def campaignChargeData : JsonObject :=
  [ ("reference", .str "pay-0001"), ("status", .str "success"), ("amount", .int 5000),
    ("metadata", .dict [ ("tenant_id", .str "acme"), ("company_id", .str "acme-phones"),
      ("campaign_id", .str "cmp-1") ]) ]

def campaignPayload : JsonObject :=
  [("event", .str "charge.success"), ("data", .dict campaignChargeData)]

/-- The success webhook of the payment `pay-0001` of the campaign `cmp-1`. -/
def campaignWebhook : PaymentEvent := .webhook campaignPayload (envAt 0)

theorem data_campaignPayload :
    PyValue.lookupD campaignPayload "data" = .dict campaignChargeData := rfl

theorem campaignWebhook_delivery : ∃ g,
    processedEvent paystackConfig s campaignWebhook = some g ∧ g.reference = "pay-0001" ∧
      g.isSuccess = true ∧ g.context.campaignId = some "cmp-1" ∧ g.context.tenantId = "acme" ∧
      g.context.companyId = "acme-phones" ∧ g.amountKobo = 5000 := by
  have hread : readGatewayEvent .ascii campaignPayload s
      = readGatewayEvent .ascii campaignPayload .empty :=
    readGatewayEvent_of_no_account .ascii data_campaignPayload (by decide +kernel) s .empty
  have hempty : (processedEvent paystackConfig .empty campaignWebhook).map (fun g =>
      (g.reference, g.isSuccess, g.context.campaignId, g.context.tenantId, g.context.companyId,
        g.amountKobo)) = some ("pay-0001", true, some "cmp-1", "acme", "acme-phones", 5000) := by
    decide +kernel
  obtain ⟨g, hg, hfields⟩ := Option.map_eq_some_iff.1 hempty
  simp only [Prod.mk.injEq] at hfields
  refine ⟨g, ?_, hfields⟩
  rw [← hg]
  exact congrArg Except.toOption hread

variable (n : ℕ)

/-- Distinct ids of manual events. -/
def manualId : String := String.ofList (List.replicate (n + 1) 'm')

/-- A manual event of the campaign `cmp-2`. -/
def manualSent : PaymentEvent := .manualEvent {
    eventType := "sent", channel := "sms", tenantId := "acme", companyId := "acme-phones"
    campaignId := some "cmp-2", campaignName := none, recipient := none, amountKobo := none
    eventId := some (manualId n) } ⟨0, "cmp-sms-3", "cmp-sms-4", "2026-01-01T00:00:00"⟩

/-- The webhook, then `n` manual events. -/
def busyRun : List PaymentEvent := campaignWebhook :: (List.range n).map manualSent

theorem manualId_ne {n m : ℕ} (h : n ≠ m) : manualId n ≠ manualId m := by
  intro heq
  have hlength := congrArg (fun s => s.toList.length) heq
  simp only [manualId, String.toList_ofList, List.length_replicate] at hlength
  omega

theorem manualId_ne_paidEventId (ref : String) : manualId n ≠ paidEventId ref := by
  intro heq
  have hhead := congrArg (fun s => s.toList.head?) heq
  simp [manualId, toList_paidEventId, List.replicate_succ] at hhead

theorem busyRun_succ : busyRun (n + 1) = busyRun n ++ [manualSent n] := by
  simp [busyRun, List.range_succ]

theorem busyRun_clock (e : PaymentEvent) (he : ∀ env ∈ e.env?, env.dedupAt = 0) :
    (busyRun n ++ [e]).Pairwise ClockOrder := by
  have hall : ∀ e' ∈ busyRun n ++ [e], ∀ env ∈ e'.env?, env.dedupAt = 0 := by
    intro e' he' env henv
    rcases List.mem_append.1 he' with hrun | hlast
    · rcases List.mem_cons.1 hrun with rfl | hmanual
      · rw [← Option.some.inj henv]
        rfl
      · obtain ⟨m, _, rfl⟩ := List.mem_map.1 hmanual
        rw [← Option.some.inj henv]
    · exact he env (List.mem_singleton.1 hlast ▸ henv)
  rw [List.pairwise_iff_forall_sublist]
  intro a b hab x hx y hy
  have hmem := hab.subset
  rw [hall a (hmem (by simp)) x hx, hall b (hmem (by simp)) y hy]

theorem seenIds_busyRun (e : PaymentEvent) (he : ∀ env ∈ e.env?, env.dedupAt = 0) :
    SeenIds (recordedIds paystackConfig ((paymentMachine paystackConfig).trace .empty (busyRun n)))
      ((paymentMachine paystackConfig).run .empty (busyRun n)).analytics.seenEventIds := by
  have hpre : (paymentMachine paystackConfig).trace .empty (busyRun n)
        ++ [(paymentMachine paystackConfig).entry
          ((paymentMachine paystackConfig).run .empty (busyRun n)) e]
      <+: (paymentMachine paystackConfig).trace .empty (busyRun n ++ [e]) := by
    rw [EventMachine.trace_concat]
  exact seenIds_before paystackConfig (busyRun_clock n e he) hpre

theorem campaignWebhook_succeeds (s : PaymentState) : ∃ g,
    SuccessDelivery paystackConfig "pay-0001" "cmp-1" g
        ((paymentMachine paystackConfig).entry s campaignWebhook) ∧
      g.context.tenantId = "acme" ∧ g.context.companyId = "acme-phones" ∧ g.amountKobo = 5000 := by
  obtain ⟨g, hg, href, hsuccess, hcampaign, hrest⟩ := campaignWebhook_delivery s
  exact ⟨g, ⟨hg, href, hsuccess, hcampaign⟩, hrest⟩

theorem recordedIds_busyRun :
    recordedIds paystackConfig ((paymentMachine paystackConfig).trace .empty (busyRun n))
      = paidEventId "pay-0001" :: (List.range n).map manualId := by
  induction n with
  | zero =>
    obtain ⟨g, hdelivery, _⟩ := campaignWebhook_succeeds .empty
    have hid := recordedId_of_delivery hdelivery rfl
    simp [busyRun, recordedIds, hid]
  | succ n ih =>
    have hseen := seenIds_busyRun n (manualSent n)
      (fun env henv => by rw [← Option.some.inj henv])
    generalize hs : (paymentMachine paystackConfig).run .empty (busyRun n) = s at hseen
    -- the id of the manual event is none of those recorded so far
    have hnew : s.analytics.seenEventIds.contains (manualId n) = false := by
      rw [← Bool.not_eq_true, contains_iff_mem_keys, hseen.keys, ih]
      intro hmem
      rcases List.mem_cons.1 (RecentWindow.remembered_subset (by decide) hmem) with hpaid | hmanual
      · exact manualId_ne_paidEventId n _ hpaid
      · obtain ⟨m, hm, heq⟩ := List.mem_map.1 hmanual
        exact manualId_ne (List.mem_range.1 hm).ne heq
    have hid : recordedId paystackConfig ((paymentMachine paystackConfig).entry s (manualSent n))
        = some (manualId n) := by
      have hcall : (recordedCall paystackConfig s (manualSent n)).bind RecordEventCall.eventId
          = some (manualId n) := rfl
      rw [recordedId, EventMachine.entry_pre, EventMachine.entry_event, hcall, Option.filter_some,
        hnew]
      simp [manualId, List.replicate_succ]
    rw [busyRun_succ, EventMachine.trace_concat, recordedIds_concat, ih, hs, hid, List.range_succ,
      List.map_append]
    rfl

/-- The manual events leave every other campaign as the webhook left it. -/
theorem busyRun_campaigns {other : String} (h : other ≠ "cmp-2") (h' : other ≠ "cmp-sms-4") :
    ((paymentMachine paystackConfig).run .empty (busyRun n)).analytics.campaigns.get? other
      = ((paymentMachine paystackConfig).run .empty [campaignWebhook]).analytics.campaigns.get?
          other := by
  induction n with
  | zero => rfl
  | succ n ih =>
    rw [busyRun_succ, EventMachine.run_concat, ← ih]
    generalize (paymentMachine paystackConfig).run .empty (busyRun n) = s
    rw [next_analytics]
    refine recordEvent_otherCampaign .ascii _ _ s.analytics rfl (by decide) ?_
    unfold creditedCampaign
    split_ifs
    · exact h'
    · exact h

theorem campaignWebhook_credited {campaigns : Dict String CampaignState}
    (hscope : otherScope "acme" "acme-phones" (campaigns.get? "cmp-1") = false) :
    creditedCampaign "acme" "acme-phones" "cmp-1" "cmp-omni-2" campaigns = "cmp-1" := by
  have hstrip : PyStr.strip "cmp-1" = "cmp-1" ∧ stripOr "acme" "public" = "acme" ∧
      stripOr "acme-phones" "ekaette-electronics" = "acme-phones" := by
    decide
  rw [creditedCampaign, hstrip.1, hstrip.2.1, hstrip.2.2, hscope]
  rfl

theorem campaignWebhook_contributes {s : PaymentState}
    (hnew : s.analytics.seenEventIds.contains (paidEventId "pay-0001") = false)
    (hfresh : s.analytics.campaigns.get? "cmp-omni-2" = none)
    (hscope : otherScope "acme" "acme-phones" (s.analytics.campaigns.get? "cmp-1") = false) :
    Contributes s.analytics
      ((paymentMachine paystackConfig).next s campaignWebhook).analytics "cmp-1" 5000 := by
  obtain ⟨g, hdelivery, htenant, hcompany, hamount⟩ := campaignWebhook_succeeds s
  have hpays := delivery_pays hdelivery rfl hfresh hnew
  rw [PaymentEntry.Pays, htenant, hcompany, hamount] at hpays
  exact campaignWebhook_credited hscope ▸ hpays

/-- A manual event that uses the id of the payment. -/
def manualPaid : PaymentEvent := .manualEvent {
    eventType := "sent", channel := "sms", tenantId := "acme", companyId := "acme-phones"
    campaignId := some "cmp-1", campaignName := none, recipient := none, amountKobo := none
    eventId := some "paystack:success:pay-0001" } (envAt 0)

/-- The same webhook contributes before and after 10,000 manual events, and not at all after a
    manual event with its id. -/
theorem paymentSuccess_twice_or_never :
    Contributes PaymentState.empty.analytics
        ((paymentMachine paystackConfig).next .empty campaignWebhook).analytics "cmp-1" 5000 ∧
      Contributes ((paymentMachine paystackConfig).run .empty (busyRun 10000)).analytics
        ((paymentMachine paystackConfig).run .empty
          (busyRun 10000 ++ [campaignWebhook])).analytics "cmp-1" 5000 ∧
      ((paymentMachine paystackConfig).run .empty [manualPaid, campaignWebhook]).analytics.paid
        "cmp-1" = (0, 0) := by
  have hwebhook : (((paymentMachine paystackConfig).run .empty
        [campaignWebhook]).analytics.campaigns.get? "cmp-omni-2").isNone = true ∧
      otherScope "acme" "acme-phones" (((paymentMachine paystackConfig).run .empty
        [campaignWebhook]).analytics.campaigns.get? "cmp-1") = false := by
    decide +kernel
  refine ⟨campaignWebhook_contributes rfl rfl rfl, ?_, by decide +kernel⟩
  rw [EventMachine.run_concat]
  refine campaignWebhook_contributes ?_ ?_ ?_
  · -- 10,000 newer ids fill the window
    have hseen := seenIds_busyRun 10000 campaignWebhook
      (fun env henv => by rw [← Option.some.inj henv]; rfl)
    have hwindow : RecentWindow.windowSize 10000 5000 10001 = 5000 := by
      rw [RecentWindow.windowSize, RecentWindow.windowSize_of_le _ (Nat.le_refl 10000),
        if_pos (by decide)]
    have hrecent : paidEventId "pay-0001" ∉ (List.range 10000).map manualId := by
      intro hmem
      obtain ⟨m, _, heq⟩ := List.mem_map.1 hmem
      exact manualId_ne_paidEventId m _ heq
    have hforgotten : paidEventId "pay-0001" ∉ RecentWindow.remembered 10000 5000
        ([] ++ paidEventId "pay-0001" :: (List.range 10000).map manualId) := by
      refine RecentWindow.not_mem_remembered (by decide) hrecent ?_
      rw [List.nil_append, List.length_cons, List.length_map, List.length_range, hwindow]
      decide
    rw [← Bool.not_eq_true, contains_iff_mem_keys, hseen.keys, recordedIds_busyRun]
    exact hforgotten
  · rw [busyRun_campaigns 10000 (by decide) (by decide)]
    exact Option.isNone_iff_eq_none.1 hwebhook.1
  · rw [busyRun_campaigns 10000 (by decide) (by decide)]
    exact hwebhook.2

/-- The webhook delivered twice counts once. -/
theorem campaignWebhook_twice :
    Contributes PaymentState.empty.analytics
        ((paymentMachine paystackConfig).run .empty [campaignWebhook]).analytics "cmp-1" 5000 ∧
      ((paymentMachine paystackConfig).run .empty [campaignWebhook, campaignWebhook]).analytics
        = ((paymentMachine paystackConfig).run .empty [campaignWebhook]).analytics := by
  obtain ⟨g, hdelivery, htenant, hcompany, hamount⟩ := campaignWebhook_succeeds .empty
  obtain ⟨g', hdelivery', _⟩ := campaignWebhook_succeeds
    ((paymentMachine paystackConfig).run .empty [campaignWebhook])
  have hmanual : NoManualUse "pay-0001" [campaignWebhook, campaignWebhook] := by
    intro request env hmem
    simp [campaignWebhook] at hmem
  have hrun : (paymentMachine paystackConfig).trace .empty [campaignWebhook, campaignWebhook]
      = [] ++ (paymentMachine paystackConfig).entry .empty campaignWebhook ::
          [(paymentMachine paystackConfig).entry
            ((paymentMachine paystackConfig).run .empty [campaignWebhook]) campaignWebhook] := rfl
  obtain ⟨hpays, hlater⟩ := revenue_exactly_once paystackConfig
    (busyRun_clock 0 campaignWebhook (fun env henv => by rw [← Option.some.inj henv]; rfl))
    hmanual hrun (by simp) hdelivery rfl rfl
  have hscope : otherScope "acme" "acme-phones"
      (PaymentState.empty.analytics.campaigns.get? "cmp-1") = false := rfl
  rw [PaymentEntry.Pays, htenant, hcompany, hamount] at hpays
  refine ⟨campaignWebhook_credited hscope ▸ hpays, ?_⟩
  refine hlater [] _ [] rfl ⟨"cmp-1", g', hdelivery'⟩ ?_
  have hid := recordedId_of_delivery hdelivery rfl
  simp [recordedIds, hid, RecentWindow.windowSize]

end Ekaette
