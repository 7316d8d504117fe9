import Ekaette.At.ServicePayments

set_option autoImplicit false

/-! # What a step stores

Every step of the payment service merges a few payloads into payment and virtual-account records.
`stepWrites` lists them, `next_payments` and `next_virtualAccounts` say that a step does nothing
else to the two tables. The stored status of a payment is then whatever the last store under its
reference carried. -/

namespace Ekaette

/-! ## The stores of a step -/

/-- A payload merged into the record under a reference. -/
structure RecordWrite where
  reference : String
  payload : Record

/-- The payloads a step merges into the two tables. -/
structure StepWrites where
  payments : List RecordWrite
  virtualAccounts : List RecordWrite

def StepWrites.none : StepWrites := ⟨[], []⟩

/-- The stores of a gateway event. -/
def GatewayEvent.writes (g : GatewayEvent) (now : String) : StepWrites :=
  match g.context.virtualAccountReference with
  | Option.none => ⟨[⟨g.reference, g.paymentPayload now⟩], []⟩
  | some vaReference =>
    ⟨⟨g.reference, g.paymentPayload now⟩ ::
        (if vaReference ≠ g.reference then [⟨vaReference, g.syncPayload now⟩] else []),
      [⟨vaReference, g.virtualAccountPayload now⟩]⟩

variable (py : StrMethods)

/-- The stores of `process_gateway_event`. -/
def gatewayWrites (payload : JsonObject) (now : String) (s : PaymentState) :
    StepWrites :=
  match readGatewayEvent py payload s with
  | .error _ => .none
  | .ok g => g.writes now

variable (cfg : PaymentConfig)

/-- The stores of a call that goes on with the provider's reply. -/
def continueWrites (call : PendingCall) (reply : ProviderReply)
    (generated : String) (now : String) (s : PaymentState) : StepWrites :=
  match call with
  | .initializeTransaction req reference currency metadata =>
    match checkInitializeReply cfg.py reply with
    | .error _ => .none
    | .ok data =>
      let resolved := normalizeReference
        (some (strOr cfg.py (PyValue.lookupD data "reference") reference)) generated
      ⟨[⟨resolved, req.paymentPayload resolved currency metadata data now⟩], []⟩
  | .customer _ => .none
  | .dedicated p createMode =>
    match checkDedicatedReply cfg.py reply with
    | .error _ => .none
    | .ok data =>
      let account := extractVirtualAccountPayload cfg.py data
      let accountNumber := normalizeAccountNumber cfg.py (PyStr.strip account.accountNumber)
      if accountNumber = "" then .none
      else ⟨[⟨p.reference, p.paymentPayload accountNumber account now⟩],
        [⟨p.reference, p.record createMode accountNumber account now⟩]⟩
  | .verify _ =>
    match checkVerifyReply cfg.py reply with
    | .error _ => .none
    | .ok data => gatewayWrites cfg.py (verifyPayload cfg.py data) now s

variable (s : PaymentState)

/-- The stores of a step. -/
def stepWrites : PaymentEvent → StepWrites
  | .reply call (some reply) generated env =>
    match s.calls.get? call with
    | Option.none => .none
    | some pending => continueWrites cfg pending reply generated env.now s
  | .webhook payload env => gatewayWrites cfg.py payload env.now s
  | _ => .none

/-- The time a step stores with. -/
def PaymentEvent.now : PaymentEvent → String
  | .reply _ _ _ env => env.now
  | .webhook _ env => env.now
  | _ => ""

/-- Merge the payloads into a table, one after the other. -/
def applyWrites (now : String) (writes : List RecordWrite) (table : Dict String Record) :
    Dict String Record :=
  writes.foldl (fun table w => table.set w.reference
    (mergeRecord (table.get? w.reference) w.reference w.payload now)) table

/-! ## A step does nothing else to the tables -/

theorem storePayment_tables (reference : String) (payload : Record) (now : String)
    (s : PaymentState) :
    (storePayment reference payload now s).payments
        = applyWrites now [⟨reference, payload⟩] s.payments ∧
      (storePayment reference payload now s).virtualAccounts = s.virtualAccounts :=
  ⟨rfl, rfl⟩

theorem storeVirtualAccount_tables (reference : String) (payload : Record)
    (now : String) (s : PaymentState) :
    (storeVirtualAccount py reference payload now s).virtualAccounts
        = applyWrites now [⟨reference, payload⟩] s.virtualAccounts ∧
      (storeVirtualAccount py reference payload now s).payments = s.payments :=
  ⟨rfl, rfl⟩

theorem store_tables (g : GatewayEvent) (py : StrMethods) (now : String) (s : PaymentState) :
    (g.store py now s).payments = applyWrites now (g.writes now).payments s.payments ∧
      (g.store py now s).virtualAccounts
        = applyWrites now (g.writes now).virtualAccounts s.virtualAccounts := by
  unfold GatewayEvent.store GatewayEvent.writes
  generalize g.paymentPayload now = paid
  generalize g.syncPayload now = synced
  generalize g.virtualAccountPayload now = account
  cases g.context.virtualAccountReference with
  | none => exact ⟨rfl, rfl⟩
  | some vaReference =>
    by_cases h : vaReference = g.reference
    · simp only [h, ne_eq, not_true_eq_false, if_false]
      exact ⟨rfl, rfl⟩
    · simp only [ne_eq, h, not_false_eq_true, if_true]
      exact ⟨rfl, rfl⟩

theorem processGatewayEvent_tables (env : AnalyticsEnv) (payload : JsonObject) (s : PaymentState) :
    (processGatewayEvent py env payload s).1.payments
        = applyWrites env.now (gatewayWrites py payload env.now s).payments s.payments ∧
      (processGatewayEvent py env payload s).1.virtualAccounts
        = applyWrites env.now (gatewayWrites py payload env.now s).virtualAccounts
            s.virtualAccounts := by
  unfold processGatewayEvent gatewayWrites
  cases readGatewayEvent py payload s with
  | error e => exact ⟨rfl, rfl⟩
  | ok g =>
    cases hcall : g.analyticsCall with
    | none =>
      simp only [hcall]
      exact store_tables g py env.now s
    | some call =>
      simp only [hcall, PaymentState.recordEvent]
      exact store_tables g py env.now s

theorem recordOption_tables (py : StrMethods) (env : AnalyticsEnv) (call : Option RecordEventCall) :
    (s.recordOption py env call).payments = s.payments ∧
      (s.recordOption py env call).virtualAccounts = s.virtualAccounts := by
  cases call with
  | none => exact ⟨rfl, rfl⟩
  | some call => exact ⟨rfl, rfl⟩

theorem settle_tables (call : ℕ) (answer : PaymentAnswer) :
    (s.settle call answer).payments = s.payments ∧
      (s.settle call answer).virtualAccounts = s.virtualAccounts := by
  cases answer <;> exact ⟨rfl, rfl⟩

theorem customerCode_tables (email : String) (body : JsonObject) (s : PaymentState) :
    (customerCodeFromCreateResponse email body s).1.payments = s.payments ∧
      (customerCodeFromCreateResponse email body s).1.virtualAccounts = s.virtualAccounts := by
  simp only [customerCodeFromCreateResponse]
  split_ifs
  · exact ⟨rfl, rfl⟩
  · exact ⟨rfl, rfl⟩

theorem continueCall_tables (call : PendingCall) (reply : ProviderReply)
    (generated : String) (env : AnalyticsEnv) (s : PaymentState) :
    (continueCall cfg call reply generated env s).1.payments
        = applyWrites env.now (continueWrites cfg call reply generated env.now s).payments
            s.payments ∧
      (continueCall cfg call reply generated env s).1.virtualAccounts
        = applyWrites env.now (continueWrites cfg call reply generated env.now s).virtualAccounts
            s.virtualAccounts := by
  cases call with
  | initializeTransaction req reference currency metadata =>
    simp only [continueCall, continueWrites, endInitialize]
    cases checkInitializeReply cfg.py reply with
    | error e => exact ⟨rfl, rfl⟩
    | ok data =>
      simp only [recordOption_tables, storePayment_tables, true_and]
      rfl
  | customer pending =>
    simp only [continueCall, continueWrites, endCustomer]
    split
    · exact ⟨rfl, rfl⟩
    · exact customerCode_tables pending.email reply.body s
  | dedicated p createMode =>
    simp only [continueCall, continueWrites, endDedicated]
    cases checkDedicatedReply cfg.py reply with
    | error e => exact ⟨rfl, rfl⟩
    | ok data =>
      simp only
      split
      · exact ⟨rfl, rfl⟩
      · simp only [recordOption_tables, storePayment_tables, storeVirtualAccount_tables,
          and_self]
  | verify reference =>
    simp only [continueCall, continueWrites, endVerify]
    cases checkVerifyReply cfg.py reply with
    | error e => exact ⟨rfl, rfl⟩
    | ok data =>
      have htables := processGatewayEvent_tables cfg.py env (verifyPayload cfg.py data) s
      simp only
      generalize processGatewayEvent cfg.py env (verifyPayload cfg.py data) s = processed
        at htables ⊢
      obtain ⟨s', result⟩ := processed
      cases result with
      | error e => exact htables
      | ok g => exact htables

variable (e : PaymentEvent)

/-- **What a step stores.** The two tables after a step are those before it with the step's payloads
    merged in. -/
theorem next_tables :
    ((paymentMachine cfg).next s e).payments
        = applyWrites e.now (stepWrites cfg s e).payments s.payments ∧
      ((paymentMachine cfg).next s e).virtualAccounts
        = applyWrites e.now (stepWrites cfg s e).virtualAccounts s.virtualAccounts := by
  cases e with
  | initializeTransaction call req generated => exact settle_tables s call _
  | createVirtualAccount call req generated => exact settle_tables s call _
  | verify call reference => exact settle_tables s call _
  | reply call reply generated env =>
    simp only [EventMachine.next, paymentMachine]
    cases hcall : s.calls.get? call with
    | none => cases reply <;> simp [stepWrites, hcall, applyWrites, StepWrites.none]
    | some pending =>
      cases reply with
      | none => exact settle_tables s call _
      | some reply =>
        simp only [settle_tables, stepWrites, hcall]
        exact continueCall_tables cfg pending reply generated env s
  | webhook payload env =>
    simp only [EventMachine.next, paymentMachine]
    have htables := processGatewayEvent_tables cfg.py env payload s
    generalize processGatewayEvent cfg.py env payload s = processed at htables ⊢
    obtain ⟨s', result⟩ := processed
    cases result with
    | error e => exact htables
    | ok g => exact htables
  | manualEvent request env => exact ⟨rfl, rfl⟩

/-! ## Records after a step -/

/-- A step stores at most once under a reference. -/
theorem stepWrites_nodup :
    ((stepWrites cfg s e).payments.map RecordWrite.reference).Nodup ∧
      ((stepWrites cfg s e).virtualAccounts.map RecordWrite.reference).Nodup := by
  have hnone : (StepWrites.none.payments.map RecordWrite.reference).Nodup ∧
      (StepWrites.none.virtualAccounts.map RecordWrite.reference).Nodup :=
    ⟨List.nodup_nil, List.nodup_nil⟩
  have hgateway : ∀ payload now,
      ((gatewayWrites cfg.py payload now s).payments.map RecordWrite.reference).Nodup ∧
        ((gatewayWrites cfg.py payload now s).virtualAccounts.map RecordWrite.reference).Nodup := by
    intro payload now
    unfold gatewayWrites
    cases readGatewayEvent cfg.py payload s with
    | error e => exact hnone
    | ok g =>
      simp only [GatewayEvent.writes]
      cases g.context.virtualAccountReference with
      | none => exact ⟨List.nodup_singleton _, List.nodup_nil⟩
      | some vaReference =>
        by_cases h : vaReference = g.reference
        · simp [h]
        · simp [h, Ne.symm h]
  cases e with
  | initializeTransaction call req generated => exact hnone
  | createVirtualAccount call req generated => exact hnone
  | verify call reference => exact hnone
  | reply call reply generated env =>
    cases reply with
    | none => exact hnone
    | some reply =>
      simp only [stepWrites]
      cases s.calls.get? call with
      | none => exact hnone
      | some pending =>
        cases pending with
        | initializeTransaction req reference currency metadata =>
          simp only [continueWrites]
          cases checkInitializeReply cfg.py reply with
          | error e => exact hnone
          | ok data => exact ⟨List.nodup_singleton _, List.nodup_nil⟩
        | customer pending => exact hnone
        | dedicated p createMode =>
          simp only [continueWrites]
          cases checkDedicatedReply cfg.py reply with
          | error e => exact hnone
          | ok data =>
            simp only
            split_ifs
            · exact hnone
            · exact ⟨List.nodup_singleton _, List.nodup_singleton _⟩
        | verify reference =>
          simp only [continueWrites]
          cases checkVerifyReply cfg.py reply with
          | error e => exact hnone
          | ok data => exact hgateway _ _
  | webhook payload env => exact hgateway _ _
  | manualEvent request env => exact hnone

/-- The record under a reference after a list of stores with distinct references. -/
theorem get?_applyWrites (now : String) (writes : List RecordWrite)
    (hnodup : (writes.map RecordWrite.reference).Nodup) (table : Dict String Record)
    (ref : String) : (applyWrites now writes table).get? ref
      = match writes.find? (fun w => w.reference = ref) with
        | none => table.get? ref
        | some w => some (mergeRecord (table.get? ref) ref w.payload now) := by
  induction writes generalizing table with
  | nil => rfl
  | cons w writes ih =>
    rw [List.map_cons, List.nodup_cons] at hnodup
    have hcons : applyWrites now (w :: writes) table
        = applyWrites now writes (table.set w.reference
            (mergeRecord (table.get? w.reference) w.reference w.payload now)) := rfl
    rw [hcons, ih hnodup.2, List.find?_cons]
    by_cases h : w.reference = ref
    · -- no later store has this reference
      have hnone : writes.find? (fun w => w.reference = ref) = none := by
        rw [List.find?_eq_none]
        intro w' hw' heq
        refine hnodup.1 ?_
        rw [h, ← of_decide_eq_true heq]
        exact List.mem_map_of_mem hw'
      simp [hnone, h]
    · simp [h, Ne.symm h]

/-- A stored field: the payload's if it has one, the old record's otherwise. -/
theorem mergeRecord_get? (existing : Option Record) (reference : String) (payload : Record)
    (now : String) {key : String} (href : key ≠ "reference") (hupdated : key ≠ "updated_at") :
    (mergeRecord existing reference payload now).get? key
      = (payload.get? key).or ((existing.getD .empty).get? key) := by
  simp [mergeRecord, Dict.get?_setDefault, href, hupdated]

/-! ## The stored status -/

/-- The stored record of the reference has this status. -/
def StatusIs (ref status : String) (s : PaymentState) : Prop :=
  (s.payments.get? ref).bind (·.get? "status") = some (.str status)

/-- The status a gateway event stores under the reference: under its own, and under that of the
    virtual account it was paid into. -/
def gatewayStatus (payload : JsonObject) (s : PaymentState) (ref : String) :
    Option String :=
  match readGatewayEvent py payload s with
  | .error _ => none
  | .ok g =>
    if ref = g.reference ∨ g.context.virtualAccountReference = some ref then some g.storedStatus
    else none

/-- The status a step stores under the reference, if it stores there. -/
def storedStatus (ref : String) :
    Option String :=
  match e with
  | .webhook payload _ => gatewayStatus cfg.py payload s ref
  | .reply call (some reply) generated _ =>
    match s.calls.get? call with
    | some (.initializeTransaction _ reference _ _) =>
      match checkInitializeReply cfg.py reply with
      | .error _ => none
      | .ok data =>
        if ref = normalizeReference
            (some (strOr cfg.py (PyValue.lookupD data "reference") reference)) generated
        then some "initialized" else none
    | some (.dedicated p _) =>
      match checkDedicatedReply cfg.py reply with
      | .error _ => none
      | .ok data =>
        if normalizeAccountNumber cfg.py
            (PyStr.strip (extractVirtualAccountPayload cfg.py data).accountNumber) = "" then none
        else if ref = p.reference then some "awaiting_transfer" else none
    | some (.verify _) =>
      match checkVerifyReply cfg.py reply with
      | .error _ => none
      | .ok data => gatewayStatus cfg.py (verifyPayload cfg.py data) s ref
    | _ => none
  | _ => none

/-- The status carried by the store under the reference in a list of stores. -/
def writtenStatus (writes : List RecordWrite) (ref : String) : Option PyValue :=
  (writes.find? (fun w => w.reference = ref)).bind (·.payload.get? "status")

theorem writtenStatus_singleton {reference status : String} {payload : Record} (ref : String)
    (h : payload.get? "status" = some (.str status)) :
    writtenStatus [⟨reference, payload⟩] ref
      = (if ref = reference then some status else none).map PyValue.str := by
  by_cases href : ref = reference
  · subst href
    simp [writtenStatus, h]
  · simp [writtenStatus, href, Ne.symm href]

theorem GatewayEvent.paymentPayload_status (g : GatewayEvent) (now : String) :
    (g.paymentPayload now).get? "status" = some (.str g.storedStatus) := by
  simp [GatewayEvent.paymentPayload, Dict.ofList]

theorem GatewayEvent.syncPayload_status (g : GatewayEvent) (now : String) :
    (g.syncPayload now).get? "status" = some (.str g.storedStatus) := by
  simp [GatewayEvent.syncPayload, Dict.ofList]

theorem InitializeRequest.paymentPayload_status (req : InitializeRequest)
    (reference currency : String) (metadata : Record) (data : JsonObject) (now : String) :
    (req.paymentPayload reference currency metadata data now).get? "status"
      = some (.str "initialized") := by
  simp [InitializeRequest.paymentPayload, Dict.ofList]

theorem PendingVirtualAccount.paymentPayload_status (p : PendingVirtualAccount)
    (accountNumber : String) (account : VirtualAccountPayload) (now : String) :
    (p.paymentPayload accountNumber account now).get? "status"
      = some (.str "awaiting_transfer") := by
  simp [PendingVirtualAccount.paymentPayload, Dict.ofList]

theorem writtenStatus_gateway (payload : JsonObject) (now : String)
    (s : PaymentState) (ref : String) :
    writtenStatus (gatewayWrites py payload now s).payments ref
      = (gatewayStatus py payload s ref).map PyValue.str := by
  unfold gatewayWrites gatewayStatus
  cases readGatewayEvent py payload s with
  | error e => rfl
  | ok g =>
    have hpaid := g.paymentPayload_status now
    have hsync := g.syncPayload_status now
    simp only [GatewayEvent.writes]
    generalize g.paymentPayload now = paid at hpaid ⊢
    generalize g.syncPayload now = synced at hsync ⊢
    generalize g.virtualAccountPayload now = account
    cases g.context.virtualAccountReference with
    | none => simpa using writtenStatus_singleton ref hpaid
    | some vaReference =>
      by_cases href : ref = g.reference
      · subst href
        simp [writtenStatus, hpaid]
      · by_cases hva : vaReference = ref
        · subst hva
          simp [writtenStatus, href, Ne.symm href, hsync]
        · by_cases hsame : vaReference = g.reference
          · simp [writtenStatus, href, Ne.symm href, hsame]
          · simp [writtenStatus, href, Ne.symm href, hsame, hva]

/-- `storedStatus` is the status among the step's stores. -/
theorem writtenStatus_stepWrites (ref : String) :
    writtenStatus (stepWrites cfg s e).payments ref
      = (storedStatus cfg s e ref).map PyValue.str := by
  cases e with
  | initializeTransaction call req generated => rfl
  | createVirtualAccount call req generated => rfl
  | verify call reference => rfl
  | reply call reply generated env =>
    cases reply with
    | none => rfl
    | some reply =>
      simp only [stepWrites, storedStatus]
      cases s.calls.get? call with
      | none => rfl
      | some pending =>
        cases pending with
        | initializeTransaction req reference currency metadata =>
          simp only [continueWrites]
          cases checkInitializeReply cfg.py reply with
          | error e => rfl
          | ok data =>
            simp only
            rw [writtenStatus_singleton ref (req.paymentPayload_status ..)]
        | customer pending => rfl
        | dedicated p createMode =>
          simp only [continueWrites]
          cases checkDedicatedReply cfg.py reply with
          | error e => rfl
          | ok data =>
            -- an account without a number is not stored
            simp only
            split_ifs with hnumber href
            · rfl
            · rw [writtenStatus_singleton ref (p.paymentPayload_status ..), if_pos href]
            · rw [writtenStatus_singleton ref (p.paymentPayload_status ..), if_neg href]
        | verify reference =>
          simp only [continueWrites]
          cases checkVerifyReply cfg.py reply with
          | error e => rfl
          | ok data => exact writtenStatus_gateway ..
  | webhook payload env => exact writtenStatus_gateway ..
  | manualEvent request env => rfl

/-- **The last store wins**: the stored status after a step is the one the step stores, and the old
    one if it stores none. -/
theorem status_next (ref : String) :
    (((paymentMachine cfg).next s e).payments.get? ref).bind (·.get? "status")
      = ((storedStatus cfg s e ref).map PyValue.str).or
          ((s.payments.get? ref).bind (·.get? "status")) := by
  rw [(next_tables cfg s e).1, get?_applyWrites _ _ (stepWrites_nodup cfg s e).1,
    ← writtenStatus_stepWrites, writtenStatus]
  cases (stepWrites cfg s e).payments.find? (fun w => w.reference = ref) with
  | none => rfl
  | some w =>
    simp only [Option.bind_some]
    rw [mergeRecord_get? _ _ _ _ (by decide) (by decide)]
    cases s.payments.get? ref with
    | none => rfl
    | some record => rfl

theorem statusIs_next_iff {ref status : String} (s : PaymentState)
    (e : PaymentEvent) (h : StatusIs ref status s) :
    StatusIs ref status ((paymentMachine cfg).next s e) ↔
      ∀ stored, storedStatus cfg s e ref = some stored → stored = status := by
  rw [StatusIs, status_next]
  cases storedStatus cfg s e ref with
  | none => simpa [StatusIs] using h
  | some stored => simp

/-- The statuses that the steps of a log stored under the reference. -/
def storedStatuses (ref : String)
    (log : List (EventMachine.Entry PaymentState PaymentEvent PaymentAnswer)) : List String :=
  log.filterMap fun t => storedStatus cfg t.pre t.event ref

theorem status_run (es : List PaymentEvent) (ref : String) :
    (((paymentMachine cfg).run s es).payments.get? ref).bind (·.get? "status")
      = ((storedStatuses cfg ref ((paymentMachine cfg).trace s es)).getLast?.map PyValue.str).or
          ((s.payments.get? ref).bind (·.get? "status")) := by
  induction es using List.reverseRecOn with
  | nil => rfl
  | append_singleton es e ih =>
    have hconcat : storedStatuses cfg ref ((paymentMachine cfg).trace s (es ++ [e]))
        = storedStatuses cfg ref ((paymentMachine cfg).trace s es)
          ++ (storedStatus cfg ((paymentMachine cfg).run s es) e ref).toList :=
      EventMachine.filterMap_trace_concat _ _ s es e
    rw [EventMachine.run_concat, status_next, ih, hconcat, List.getLast?_append]
    cases storedStatus cfg ((paymentMachine cfg).run s es) e ref with
    | none => rfl
    | some stored => rfl

/-- **Payment status along runs.** The status stored under a reference is that of the latest store
    under it. Once the record has a status (`success`, say), it keeps it through a run exactly if
    every store under the reference carries that status. -/
theorem paymentStatus_always_iff (ref status : String) (s : PaymentState) (es : List PaymentEvent) :
    (((paymentMachine cfg).run s es).payments.get? ref).bind (·.get? "status")
        = ((storedStatuses cfg ref ((paymentMachine cfg).trace s es)).getLast?.map PyValue.str).or
            ((s.payments.get? ref).bind (·.get? "status")) ∧
      (StatusIs ref status s → ((paymentMachine cfg).Always (StatusIs ref status) s es ↔
        ∀ t ∈ (paymentMachine cfg).trace s es, ∀ stored,
          storedStatus cfg t.pre t.event ref = some stored → stored = status)) :=
  ⟨status_run cfg s es ref, fun h =>
    (paymentMachine cfg).always_iff_guarded (fun s e => statusIs_next_iff cfg s e) h es⟩

/-! ## A payment that fails after it has succeeded -/

def paystackConfig : PaymentConfig := ⟨.ascii, true, "sk", "wema-bank"⟩

/-- The draws of a step at this time. -/
def envAt (now : ℚ) : AnalyticsEnv := ⟨now, "cmp-omni-1", "cmp-omni-2", "2026-01-01T00:00:00"⟩

/-- A charge webhook of the payment `pay-0001`. -/
def chargeWebhook (event status : String) : PaymentEvent :=
  .webhook [ ("event", .str event),
      ("data", .dict [ ("reference", .str "pay-0001"), ("status", .str status),
        ("amount", .int 5000) ]) ] (envAt 0)

theorem statusIs_of_str? {ref status : String} {s : PaymentState}
    (h : ((s.payments.get? ref).bind (·.get? "status")).bind PyValue.str? = some status) :
    StatusIs ref status s := by
  obtain ⟨v, hv, hstr⟩ := Option.bind_eq_some_iff.1 h
  rw [StatusIs, hv, PyValue.str?_eq_some hstr]

/-- A success delivery is followed by a (late) failure delivery of the same payment. -/
theorem chargeFailed_after_success :
    StatusIs "pay-0001" "success" ((paymentMachine paystackConfig).run .empty
        [chargeWebhook "charge.success" "success"]) ∧
      StatusIs "pay-0001" "failed" ((paymentMachine paystackConfig).run .empty
        [chargeWebhook "charge.success" "success", chargeWebhook "charge.failed" "failed"]) :=
  ⟨statusIs_of_str? (by decide +kernel), statusIs_of_str? (by decide +kernel)⟩

/-- A second success delivery keeps the status. -/
theorem chargeSuccess_twice :
    (paymentMachine paystackConfig).Always (StatusIs "pay-0001" "success")
      ((paymentMachine paystackConfig).run .empty [chargeWebhook "charge.success" "success"])
      [chargeWebhook "charge.success" "success"] := by
  refine ((paymentStatus_always_iff paystackConfig "pay-0001" "success" _ _).2
    (statusIs_of_str? (by decide +kernel))).2 ?_
  have hstored : storedStatus paystackConfig
      ((paymentMachine paystackConfig).run .empty [chargeWebhook "charge.success" "success"])
      (chargeWebhook "charge.success" "success") "pay-0001" = some "success" := by
    decide +kernel
  intro t ht stored hst
  rw [EventMachine.trace_cons, EventMachine.trace_nil, List.mem_singleton] at ht
  subst ht
  rw [EventMachine.entry_event, EventMachine.entry_pre, hstored] at hst
  exact (Option.some.inj hst).symm

end Ekaette
