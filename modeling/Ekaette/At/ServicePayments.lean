import Ekaette.At.CampaignAnalytics

set_option autoImplicit false

/-! # Payments

`app/api/v1/at/service_payments.py`: Paystack checkouts, dedicated virtual accounts, and the
processing of gateway events, over four in-process tables and the campaign analytics.

A call that awaits the provider is split at the await: it waits in `calls` and goes on with the
provider's reply, other calls in between. Replies are arbitrary. The requests sent to the provider
and the arguments that only go into them are left out. -/

namespace Ekaette

/-- The entries of a JSON object. -/
abbrev JsonObject := List (String × PyValue)

/-! ## Coercions -/

variable (py : StrMethods)

/-- `str(v or default)`. -/
def strOr (v : PyValue) (default : String) : String :=
  (v.orElse (.str default)).toStr py

/-- `value or None` for strings. -/
def optOfStr (s : String) : Option String := if s = "" then none else some s

/-- An optional string as a value. -/
def optValue : Option String → PyValue
  | none => .none
  | some s => .str s

/-- `_REF_RE.fullmatch`. -/
def refMatches (s : String) : Bool :=
  6 ≤ s.toList.length && s.toList.length ≤ 128 &&
    s.toList.all (fun c => c.isAlphanum || c = '.' || c = '_' || c = ':' || c = '-')

/-- `_normalize_reference`, with the reference it generates when it needs one. -/
def normalizeReference (reference : Option String) (generated : String) : String :=
  let candidate := stripOpt reference
  if candidate ≠ "" ∧ refMatches candidate then candidate else generated

/-- An exception: `PaymentGatewayError` with message and status code, or another one. -/
inductive PaymentError where
  | gateway (message : String) (statusCode : ℕ)
  | raised
  deriving DecidableEq

/-- `_validate_reference`. -/
def validateReference (reference : String) : Except PaymentError String :=
  let candidate := PyStr.strip reference
  if candidate = "" ∨ refMatches candidate = false then
    .error (.gateway "Invalid payment reference" 400)
  else .ok candidate

/-- `_coerce_amount_kobo`. -/
def coerceAmountKobo : PyValue → Except PaymentError ℤ
  | .bool _ => .ok 0
  | .int n => .ok (max n 0)
  | .float (.fin q) => .ok (max (q.num.tdiv q.den) 0)
  | .float _ => .error .raised
  | .str s =>
    let digits := (PyStr.strip s).toList
    if digits ≠ [] ∧ digits.all py.isDigit then
      match intOfDigits py digits with
      | some n => .ok n
      | none => .error .raised
    else .ok 0
  | _ => .ok 0

/-- `_coerce_metadata`. -/
def coerceMetadata (raw : PyValue) : JsonObject := raw.dict?.getD []

/-- `_normalize_email`. -/
def normalizeEmail (email : String) : String := py.lower (PyStr.strip email)

/-- `_normalize_account_number`. -/
def normalizeAccountNumber (accountNumber : String) : String :=
  let candidate := accountNumber.toList.filter py.isDigit
  if 8 ≤ candidate.length ∧ candidate.length ≤ 20 ∧ candidate.all Char.isDigit then
    String.ofList candidate
  else ""

/-! ## The tables -/

structure InitializeRequest where
  email : String
  amountKobo : ℤ
  currency : String
  reference : Option String
  tenantId : String
  companyId : String
  campaignId : Option String
  customerPhone : Option String
  metadata : JsonObject

structure VirtualAccountRequest where
  email : String
  phone : Option String
  preferredBankSlug : Option String
  tenantId : String
  companyId : String
  campaignId : Option String
  expectedAmountKobo : Option ℤ
  reference : Option String
  customerPhone : Option String
  metadata : JsonObject

/-- A virtual account request with what it has resolved before its first await. -/
structure PendingVirtualAccount where
  request : VirtualAccountRequest
  email : String
  reference : String
  bankSlug : String
  metadata : Record

/-- A call waiting for the provider. -/
inductive PendingCall where
  | initializeTransaction (request : InitializeRequest) (reference currency : String)
    (metadata : Record)
  | customer (pending : PendingVirtualAccount)
  | dedicated (pending : PendingVirtualAccount) (createMode : String)
  | verify (reference : String)

/-- The module's state. -/
structure PaymentState where
  payments : Dict String Record
  virtualAccounts : Dict String Record
  virtualAccountByNumber : Dict String String
  customerCodeByEmail : Dict String String
  analytics : Analytics
  calls : Dict ℕ PendingCall

def PaymentState.empty : PaymentState := ⟨.empty, .empty, .empty, .empty, .empty, .empty⟩

/-- `{**existing, **payload}`, with `reference` and `updated_at`. -/
def mergeRecord (existing : Option Record) (reference : String) (payload : Record) (now : String) :
    Record :=
  let merged := ((existing.getD .empty).merge payload).setDefault "reference" (.str reference)
  let updated := (payload.value "updated_at").coerceStr
  merged.set "updated_at" (.str (if updated = "" then now else updated))

/-- `_store_payment`. -/
def storePayment (reference : String) (payload : Record) (now : String) (s : PaymentState) :
    PaymentState :=
  { s with payments :=
      s.payments.set reference (mergeRecord (s.payments.get? reference) reference payload now) }

/-- `_store_virtual_account`. -/
def storeVirtualAccount (reference : String) (payload : Record) (now : String)
    (s : PaymentState) : PaymentState :=
  let merged := mergeRecord (s.virtualAccounts.get? reference) reference payload now
  let number := normalizeAccountNumber py (merged.value "account_number").coerceStr
  { s with
    virtualAccounts := s.virtualAccounts.set reference merged
    virtualAccountByNumber :=
      if number = "" then s.virtualAccountByNumber
      else s.virtualAccountByNumber.set number reference }

/-- `_virtual_account_from_number`. -/
def virtualAccountFromNumber (accountNumber : String) (s : PaymentState) :
    Option Record :=
  let normalized := normalizeAccountNumber py accountNumber
  if normalized = "" then none
  else match s.virtualAccountByNumber.get? normalized with
    | none => none
    | some reference => if reference = "" then none else s.virtualAccounts.get? reference

/-- A call of `record_event` on the analytics of the state. -/
def PaymentState.recordEvent (s : PaymentState) (py : StrMethods) (env : AnalyticsEnv)
    (call : RecordEventCall) : PaymentState :=
  { s with analytics := (Ekaette.recordEvent py env call s.analytics).1 }

/-! ## Gateway events -/

/-- The first non-empty string among the values, normalized as an account number. -/
def firstAccountNumber (values : List PyValue) : String :=
  ((values.map (fun v => normalizeAccountNumber py v.coerceStr)).find? (· ≠ "")).getD ""

/-- `_extract_account_number_from_charge`. -/
def extractAccountNumberFromCharge (data : JsonObject) : String :=
  let authorization := match PyValue.lookupD data "authorization" with
    | .dict es =>
      [ PyValue.lookupD es "receiver_bank_account_number", PyValue.lookupD es "account_number",
        PyValue.lookupD es "receiver_account_number" ]
    | _ => []
  let dedicated := match PyValue.lookupD data "dedicated_account" with
    | .dict es => [PyValue.lookupD es "account_number"]
    | _ => []
  let metadata := coerceMetadata (PyValue.lookupD data "metadata")
  firstAccountNumber py
    (authorization ++ dedicated ++ [PyValue.lookupD metadata "virtual_account_number"])

/-- A string that is not blank, as it stands. -/
def nonBlank (v : PyValue) : Option String :=
  match v with
  | .str s => if PyStr.strip s = "" then none else some s
  | _ => none

/-- What `_campaign_context_from_data` returns. -/
structure CampaignContext where
  tenantId : String
  companyId : String
  campaignId : Option String
  customerPhone : Option String
  virtualAccountReference : Option String
  virtualAccountNumber : Option String

/-- `_campaign_context_from_data`: the metadata, then the virtual account the charge was paid into,
    then the defaults. -/
def campaignContextFromData (data : JsonObject) (s : PaymentState) :
    CampaignContext :=
  let metadata := coerceMetadata (PyValue.lookupD data "metadata")
  let tenantId := PyStr.strip (strOr py (PyValue.lookupD metadata "tenant_id") "")
  let companyId := PyStr.strip (strOr py (PyValue.lookupD metadata "company_id") "")
  let campaignId := nonBlank (PyValue.lookupD metadata "campaign_id")
  let customerPhone := nonBlank (PyValue.lookupD metadata "customer_phone")
  let accountNumber := extractAccountNumberFromCharge py data
  let record := if accountNumber = "" then none else virtualAccountFromNumber py accountNumber s
  let context : CampaignContext := match record with
    | none => ⟨tenantId, companyId, campaignId, customerPhone, none, optOfStr accountNumber⟩
    | some record =>
      { tenantId :=
          if tenantId = "" then ((record.value "tenant_id").str?).getD tenantId else tenantId
        companyId :=
          if companyId = "" then ((record.value "company_id").str?).getD companyId else companyId
        campaignId := campaignId.or ((nonBlank (record.value "campaign_id")).map PyStr.strip)
        customerPhone :=
          customerPhone.or ((nonBlank (record.value "customer_phone")).map PyStr.strip)
        virtualAccountReference := optOfStr (record.value "reference").coerceStr
        virtualAccountNumber := optOfStr accountNumber }
  { context with
    tenantId := if context.tenantId = "" then "public" else context.tenantId
    companyId := if context.companyId = "" then "ekaette-electronics" else context.companyId }

/-- A gateway event as `process_gateway_event` reads it. -/
structure GatewayEvent where
  event : String
  reference : String
  amountKobo : ℤ
  currency : String
  status : String
  customerEmail : PyValue
  paymentChannel : String
  metadata : JsonObject
  context : CampaignContext

/-- The part of `process_gateway_event` that reads its payload. -/
def readGatewayEvent (payload : JsonObject) (s : PaymentState) :
    Except PaymentError GatewayEvent :=
  let event := py.lower (PyStr.strip (strOr py (PyValue.lookupD payload "event") ""))
  match PyValue.lookupD payload "data" with
  | .dict data =>
    match validateReference (strOr py (PyValue.lookupD data "reference") "") with
    | .error e => .error e
    | .ok reference =>
      match coerceAmountKobo py (PyValue.lookupD data "amount") with
      | .error e => .error e
      | .ok amountKobo => .ok {
          event := event
          reference := reference
          amountKobo := amountKobo
          currency := strOr py (PyValue.lookupD data "currency") "NGN"
          status := py.lower (PyStr.strip (strOr py (PyValue.lookupD data "status") ""))
          customerEmail := match PyValue.lookupD data "customer" with
            | .dict es => PyValue.lookupD es "email"
            | _ => .none
          paymentChannel := match PyValue.lookupD data "authorization" with
            | .dict es => (PyValue.lookupD es "channel").coerceStr
            | _ => ""
          metadata := coerceMetadata (PyValue.lookupD data "metadata")
          context := campaignContextFromData py data s }
  | _ => .error (.gateway "Webhook payload missing data" 400)

variable (g : GatewayEvent)

/-- `status or event`. -/
def GatewayEvent.storedStatus : String :=
  if g.status = "" then g.event else g.status

def GatewayEvent.paymentMethod : String :=
  if g.paymentChannel = "dedicated_nuban" then "virtual_account" else "checkout"

/-- `event in {"charge.success", "charge.succeeded"}`. -/
def GatewayEvent.isSuccess : Bool :=
  g.event = "charge.success" || g.event = "charge.succeeded"

/-- `event in {"charge.failed", "charge.abandoned"}`. -/
def GatewayEvent.isFailure : Bool :=
  g.event = "charge.failed" || g.event = "charge.abandoned"

/-- The payload stored under the event's own reference. -/
def GatewayEvent.paymentPayload (now : String) : Record := Dict.ofList
  [ ("reference", .str g.reference), ("status", .str g.storedStatus), ("gateway", .str "paystack"),
    ("payment_method", .str g.paymentMethod), ("payment_channel", .str g.paymentChannel),
    ("tenant_id", .str g.context.tenantId), ("company_id", .str g.context.companyId),
    ("campaign_id", optValue g.context.campaignId), ("amount_kobo", .int g.amountKobo),
    ("currency", .str g.currency), ("email", g.customerEmail), ("metadata", .dict g.metadata),
    ("gateway_event", .str g.event),
    ("virtual_account_reference", optValue g.context.virtualAccountReference),
    ("virtual_account_number", optValue g.context.virtualAccountNumber),
    ("updated_at", .str now) ]

/-- The payload that keeps the announced virtual-account reference in sync. -/
def GatewayEvent.syncPayload (now : String) : Record := Dict.ofList
  [ ("status", .str g.storedStatus), ("gateway_event", .str g.event),
    ("payment_method", .str g.paymentMethod), ("payment_channel", .str g.paymentChannel),
    ("last_gateway_reference", .str g.reference), ("last_paid_amount_kobo", .int g.amountKobo),
    ("updated_at", .str now) ]

/-- The payload stored into the virtual account. -/
def GatewayEvent.virtualAccountPayload (now : String) : Record := Dict.ofList
  [ ("last_payment_reference", .str g.reference), ("last_payment_status", .str g.storedStatus),
    ("last_paid_amount_kobo", .int g.amountKobo), ("last_payment_at", .str now),
    ("status", .str (if g.isSuccess then "paid" else "active")) ]

/-- The analytics call of the event, if it makes one. -/
def GatewayEvent.analyticsCall : Option RecordEventCall :=
  match g.context.campaignId with
  | none => none
  | some campaignId =>
    if g.isSuccess then some {
        eventType := "payment_success", channel := "omni", tenantId := g.context.tenantId
        companyId := g.context.companyId, campaignId := some campaignId, campaignName := none
        recipient := g.context.customerPhone, amountKobo := some g.amountKobo
        eventId := some ("paystack:success:" ++ g.reference) }
    else if g.isFailure then some {
        eventType := "failed", channel := "omni", tenantId := g.context.tenantId
        companyId := g.context.companyId, campaignId := some campaignId, campaignName := none
        recipient := g.context.customerPhone, amountKobo := none
        eventId := some ("paystack:failed:" ++ g.reference ++ ":" ++ g.event) }
    else none

/-- The result of `process_gateway_event`. -/
def GatewayEvent.result : JsonObject :=
  [ ("event", .str g.event), ("reference", .str g.reference), ("status", .str g.status),
    ("campaign_id", optValue g.context.campaignId), ("payment_method", .str g.paymentMethod),
    ("payment_channel", .str g.paymentChannel),
    ("virtual_account_reference", optValue g.context.virtualAccountReference) ]

/-- The stores of `process_gateway_event`. -/
def GatewayEvent.store (py : StrMethods) (now : String) (s : PaymentState) :
    PaymentState :=
  let s := storePayment g.reference (g.paymentPayload now) now s
  match g.context.virtualAccountReference with
  | none => s
  | some vaReference =>
    let s := if vaReference ≠ g.reference then storePayment vaReference (g.syncPayload now) now s
      else s
    storeVirtualAccount py vaReference (g.virtualAccountPayload now) now s

/-- `process_gateway_event`. -/
def processGatewayEvent (env : AnalyticsEnv) (payload : JsonObject)
    (s : PaymentState) : PaymentState × Except PaymentError GatewayEvent :=
  match readGatewayEvent py payload s with
  | .error e => (s, .error e)
  | .ok g =>
    let s := g.store py env.now s
    match g.analyticsCall with
    | none => (s, .ok g)
    | some call => (s.recordEvent py env call, .ok g)

/-! ## Calls to the provider -/

/-- The deployment's settings. -/
structure PaymentConfig where
  py : StrMethods
  paystackEnabled : Bool
  secretKey : String
  defaultBankSlug : String

variable (cfg : PaymentConfig)

/-- `_is_enabled`. -/
def PaymentConfig.isEnabled : Bool :=
  cfg.paystackEnabled && PyStr.strip cfg.secretKey ≠ ""

def paystackDisabled : PaymentError := .gateway "Paystack is disabled or not configured" 503

structure ProviderReply where
  statusCode : ℕ
  body : JsonObject

/-- The checks every provider reply passes through, with the messages of the call. -/
def checkReply (failed rejected missing : String) (reply : ProviderReply) :
    Except PaymentError JsonObject :=
  let message := PyValue.lookupD reply.body "message"
  if reply.statusCode ≥ 400 then .error (.gateway (strOr py message failed) 502)
  else match PyValue.lookupD reply.body "status" with
    | .bool true =>
      match PyValue.lookupD reply.body "data" with
      | .dict data => .ok data
      | _ => .error (.gateway missing 502)
    | _ => .error (.gateway (strOr py message rejected) 400)

def checkInitializeReply : ProviderReply → Except PaymentError JsonObject :=
  checkReply py "Paystack initialize failed" "Paystack initialize rejected"
    "Paystack initialize response missing data"

def checkVerifyReply : ProviderReply → Except PaymentError JsonObject :=
  checkReply py "Paystack verify failed" "Paystack verify rejected"
    "Paystack verify response missing data"

def checkDedicatedReply : ProviderReply → Except PaymentError JsonObject :=
  checkReply py "Paystack virtual account creation failed"
    "Paystack virtual account request rejected" "Paystack virtual account response missing data"

/-- What a step of a call gives its caller: it waits again, raises, or returns. -/
inductive PaymentAnswer where
  | waiting (call : PendingCall)
  | failed (error : PaymentError)
  | returned (body : Record)

variable (req : InitializeRequest)

/-- `merged_metadata` of `initialize_transaction`. -/
def InitializeRequest.mergedMetadata (reference : String) : Record :=
  let metadata :=
    (((Dict.ofList req.metadata).setDefault "tenant_id" (.str req.tenantId)).setDefault
    "company_id" (.str req.companyId)).setDefault "payment_reference" (.str reference)
  let metadata := match req.campaignId with
    | some c => if c = "" then metadata else metadata.setDefault "campaign_id" (.str c)
    | none => metadata
  match req.customerPhone with
  | some p => if p = "" then metadata else metadata.setDefault "customer_phone" (.str p)
  | none => metadata

/-- `(currency or "NGN").strip().upper() or "NGN"`. -/
def resolveCurrency (currency : String) : String :=
  let resolved := py.upper (PyStr.strip (if currency = "" then "NGN" else currency))
  if resolved = "" then "NGN" else resolved

/-- `initialize_transaction` up to its await. -/
def beginInitialize (generated : String) :
    PaymentAnswer :=
  if cfg.isEnabled = false then .failed paystackDisabled
  else
    let reference := normalizeReference req.reference generated
    .waiting (.initializeTransaction req reference (resolveCurrency cfg.py req.currency)
      (req.mergedMetadata reference))

/-- The payment record of an initialized checkout. -/
def InitializeRequest.paymentPayload (reference currency : String)
    (metadata : Record) (data : JsonObject) (now : String) : Record := Dict.ofList
  [ ("reference", .str reference), ("status", .str "initialized"), ("gateway", .str "paystack"),
    ("payment_method", .str "checkout"), ("tenant_id", .str req.tenantId),
    ("company_id", .str req.companyId), ("campaign_id", optValue req.campaignId),
    ("amount_kobo", .int req.amountKobo), ("currency", .str currency), ("email", .str req.email),
    ("metadata", .dict metadata.entries),
    ("authorization_url", PyValue.lookupD data "authorization_url"),
    ("access_code", PyValue.lookupD data "access_code"), ("updated_at", .str now) ]

/-- The analytics call of a payment that was set up for a campaign. -/
def initializedCall (tenantId companyId : String) (campaignId recipient : Option String)
    (eventId : String) : Option RecordEventCall :=
  match campaignId with
  | none => none
  | some c =>
    if c = "" then none
    else some {
      eventType := "payment_initialized", channel := "omni", tenantId := tenantId
      companyId := companyId, campaignId := some c, campaignName := none, recipient := recipient
      amountKobo := none, eventId := some eventId }

/-- Record the analytics call if there is one. -/
def PaymentState.recordOption (s : PaymentState) (py : StrMethods) (env : AnalyticsEnv) :
    Option RecordEventCall → PaymentState
  | none => s
  | some call => s.recordEvent py env call

/-- `initialize_transaction` after its await. -/
def endInitialize (reference currency : String)
    (metadata : Record) (reply : ProviderReply) (generated : String) (env : AnalyticsEnv)
    (s : PaymentState) : PaymentState × PaymentAnswer :=
  match checkInitializeReply cfg.py reply with
  | .error e => (s, .failed e)
  | .ok data =>
    let resolved := normalizeReference
      (some (strOr cfg.py (PyValue.lookupD data "reference") reference)) generated
    let s := storePayment resolved (req.paymentPayload resolved currency metadata data env.now)
      env.now s
    let s := s.recordOption cfg.py env (initializedCall req.tenantId req.companyId req.campaignId
      req.customerPhone ("paystack:init:" ++ resolved))
    (s, .returned (Dict.ofList
      [ ("reference", .str resolved),
        ("authorization_url", PyValue.lookupD data "authorization_url"),
        ("access_code", PyValue.lookupD data "access_code"), ("raw", .dict reply.body) ]))

/-- `verify_transaction` up to its await. -/
def beginVerify (reference : String) : PaymentAnswer :=
  if cfg.isEnabled = false then .failed paystackDisabled
  else match validateReference reference with
    | .error e => .failed e
    | .ok reference => .waiting (.verify reference)

/-- The event `verify_transaction` makes of the provider's data. -/
def verifyPayload (data : JsonObject) : JsonObject :=
  [ ("event", .str ("charge." ++ py.lower (strOr py (PyValue.lookupD data "status") ""))),
    ("data", .dict data) ]

/-- `payment_snapshot`. -/
def paymentSnapshot (s : PaymentState) (reference : String) : PyValue :=
  match s.payments.get? reference with
  | none => .none
  | some record => .dict record.entries

/-- `verify_transaction` after its await. -/
def endVerify (reference : String) (reply : ProviderReply)
    (env : AnalyticsEnv) (s : PaymentState) : PaymentState × PaymentAnswer :=
  match checkVerifyReply cfg.py reply with
  | .error e => (s, .failed e)
  | .ok data =>
    let processed := processGatewayEvent cfg.py env (verifyPayload cfg.py data) s
    match processed.2 with
    | .error e => (processed.1, .failed e)
    | .ok g => (processed.1, .returned (Dict.ofList
        [ ("reference", .str reference), ("verification", .dict reply.body),
          ("processed", .dict g.result),
          ("payment", paymentSnapshot processed.1 reference) ]))

/-! ## Virtual accounts -/

/-- `merged_metadata` of `create_virtual_account`. -/
def VirtualAccountRequest.mergedMetadata (req : VirtualAccountRequest) (reference : String) :
    Record :=
  let metadata :=
    ((((Dict.ofList req.metadata).setDefault "tenant_id" (.str req.tenantId)).setDefault
    "company_id" (.str req.companyId)).setDefault "payment_reference" (.str reference)).setDefault
    "payment_method" (.str "virtual_account")
  let metadata := match req.campaignId with
    | some c => if c = "" then metadata else metadata.setDefault "campaign_id" (.str c)
    | none => metadata
  let metadata := match req.customerPhone with
    | some p => if p = "" then metadata else metadata.setDefault "customer_phone" (.str p)
    | none => metadata
  match req.expectedAmountKobo with
  | some n => if n = 0 then metadata else metadata.setDefault "expected_amount_kobo" (.int n)
  | none => metadata

/-- `create_virtual_account` up to its first await. -/
def beginVirtualAccount (req : VirtualAccountRequest) (generated : String) :
    PaymentAnswer :=
  if cfg.isEnabled = false then .failed paystackDisabled
  else
    let email := normalizeEmail cfg.py req.email
    if email = "" then .failed (.gateway "Email is required" 400)
    else
      let reference := normalizeReference req.reference generated
      let bankSlug := cfg.py.lower (stripOpt req.preferredBankSlug)
      .waiting (.customer {
        request := req
        email := email
        reference := reference
        bankSlug := if bankSlug = "" then cfg.defaultBankSlug else bankSlug
        metadata := req.mergedMetadata reference })

/-- `_customer_code_from_create_response`. -/
def customerCodeFromCreateResponse (email : String) (body : JsonObject) (s : PaymentState) :
    PaymentState × String :=
  let code := match PyValue.lookupD body "data" with
    | .dict data => (PyValue.lookupD data "customer_code").coerceStr
    | _ => ""
  if code ≠ "" then ({ s with customerCodeByEmail := s.customerCodeByEmail.set email code }, code)
  else (s, s.customerCodeByEmail.getD email "")

/-- `create_virtual_account` between its two awaits. -/
def endCustomer (pending : PendingVirtualAccount) (reply : ProviderReply)
    (s : PaymentState) : PaymentState × PaymentAnswer :=
  if reply.statusCode ≥ 500 then
    (s, .failed (.gateway (strOr cfg.py (PyValue.lookupD reply.body "message")
      "Paystack customer creation failed") 502))
  else
    let r := customerCodeFromCreateResponse pending.email reply.body s
    (r.1, .waiting (.dedicated pending (if r.2 = "" then "assign" else "create")))

/-- What `_extract_virtual_account_payload` returns, as far as it is used. -/
structure VirtualAccountPayload where
  accountNumber : String
  accountName : String
  bankName : String
  bankSlug : String
  dedicatedAccountId : PyValue

/-- The first string that is not blank, stripped. -/
def firstStr (values : List PyValue) : String :=
  ((values.map PyValue.coerceStr).find? (· ≠ "")).getD ""

/-- `_extract_virtual_account_payload`. -/
def extractVirtualAccountPayload (data : JsonObject) : VirtualAccountPayload :=
  let account := match PyValue.lookupD data "dedicated_account" with
    | .dict es => es
    | _ => data
  let bankName := (PyValue.lookupD account "bank_name").coerceStr
  let bankSlug := (PyValue.lookupD account "bank_slug").coerceStr
  let (bankName, bankSlug) := if bankName ≠ "" then (bankName, bankSlug)
    else match PyValue.lookupD account "bank" with
      | .dict bank => ((PyValue.lookupD bank "name").coerceStr,
          if bankSlug = "" then (PyValue.lookupD bank "slug").coerceStr else bankSlug)
      | _ => (bankName, bankSlug)
  { accountNumber := normalizeAccountNumber py
      (firstStr [PyValue.lookupD account "account_number", PyValue.lookupD account "accountNumber"])
    accountName :=
      firstStr [PyValue.lookupD account "account_name", PyValue.lookupD account "accountName"]
    bankName := bankName
    bankSlug := bankSlug
    dedicatedAccountId := PyValue.lookupD account "id" }

/-- `customer_phone or phone`. -/
def VirtualAccountRequest.contact (req : VirtualAccountRequest) : Option String :=
  match req.customerPhone with
  | some p => if p = "" then req.phone else some p
  | none => req.phone

/-- An optional number as a value. -/
def optInt : Option ℤ → PyValue
  | none => .none
  | some n => .int n

variable (p : PendingVirtualAccount)

/-- `va_record`. -/
def PendingVirtualAccount.record (createMode accountNumber : String)
    (account : VirtualAccountPayload) (now : String) : Record := Dict.ofList
  [ ("reference", .str p.reference), ("status", .str "active"),
    ("tenant_id", .str p.request.tenantId), ("company_id", .str p.request.companyId),
    ("campaign_id", optValue p.request.campaignId), ("email", .str p.email),
    ("customer_phone", optValue p.request.contact),
    ("expected_amount_kobo", optInt p.request.expectedAmountKobo),
    ("payment_method", .str "virtual_account"), ("provisioning_mode", .str createMode),
    ("account_number", .str accountNumber), ("account_name", .str account.accountName),
    ("bank_name", .str account.bankName),
    ("bank_slug", .str (if account.bankSlug = "" then p.bankSlug else account.bankSlug)),
    ("dedicated_account_id", account.dedicatedAccountId), ("metadata", .dict p.metadata.entries),
    ("updated_at", .str now) ]

/-- The payment record of a virtual account. -/
def PendingVirtualAccount.paymentPayload (accountNumber : String)
    (account : VirtualAccountPayload) (now : String) : Record := Dict.ofList
  [ ("reference", .str p.reference), ("status", .str "awaiting_transfer"),
    ("gateway", .str "paystack"), ("payment_method", .str "virtual_account"),
    ("tenant_id", .str p.request.tenantId), ("company_id", .str p.request.companyId),
    ("campaign_id", optValue p.request.campaignId),
    ("amount_kobo", optInt p.request.expectedAmountKobo), ("currency", .str "NGN"),
    ("email", .str p.email), ("virtual_account_reference", .str p.reference),
    ("virtual_account_number", .str accountNumber), ("virtual_account_bank", .str account.bankName),
    ("metadata", .dict p.metadata.entries), ("updated_at", .str now) ]

/-- `create_virtual_account` after its second await. -/
def endDedicated (createMode : String)
    (reply : ProviderReply) (env : AnalyticsEnv) (s : PaymentState) :
    PaymentState × PaymentAnswer :=
  match checkDedicatedReply cfg.py reply with
  | .error e => (s, .failed e)
  | .ok data =>
    let account := extractVirtualAccountPayload cfg.py data
    let accountNumber := normalizeAccountNumber cfg.py (PyStr.strip account.accountNumber)
    if accountNumber = "" then
      (s, .failed (.gateway
        "Virtual account provisioning is still in progress. Retry shortly." 409))
    else
      let s := storeVirtualAccount cfg.py p.reference
        (p.record createMode accountNumber account env.now) env.now s
      let s := storePayment p.reference (p.paymentPayload accountNumber account env.now) env.now s
      let s := s.recordOption cfg.py env (initializedCall p.request.tenantId p.request.companyId
        p.request.campaignId p.request.contact ("paystack:va:init:" ++ p.reference))
      (s, .returned (Dict.ofList
        [ ("reference", .str p.reference), ("account_number", .str accountNumber),
          ("account_name", .str account.accountName), ("bank_name", .str account.bankName),
          ("bank_slug", .str (if account.bankSlug = "" then p.bankSlug else account.bankSlug)),
          ("status", .str "awaiting_transfer"), ("raw", .dict reply.body) ]))

/-! ## Interleavings -/

inductive PaymentEvent where
  | initializeTransaction (call : ℕ) (request : InitializeRequest) (generated : String)
  | createVirtualAccount (call : ℕ) (request : VirtualAccountRequest) (generated : String)
  | verify (call : ℕ) (reference : String)
  /-- The provider answers a waiting call; `none` when the request to it raises. -/
  | reply (call : ℕ) (reply : Option ProviderReply) (generated : String) (env : AnalyticsEnv)
  /-- A webhook whose signature and JSON have been accepted. -/
  | webhook (payload : JsonObject) (env : AnalyticsEnv)
  /-- `POST /analytics/events`. -/
  | manualEvent (request : RecordEventCall) (env : AnalyticsEnv)

/-- A waiting call goes on with the provider's reply. -/
def continueCall (call : PendingCall) (reply : ProviderReply)
    (generated : String) (env : AnalyticsEnv) (s : PaymentState) : PaymentState × PaymentAnswer :=
  match call with
  | .initializeTransaction req reference currency metadata =>
    endInitialize cfg req reference currency metadata reply generated env s
  | .customer pending => endCustomer cfg pending reply s
  | .dedicated pending createMode => endDedicated cfg pending createMode reply env s
  | .verify reference => endVerify cfg reference reply env s

/-- Note where the call waits, or that it is over. -/
def PaymentState.settle (s : PaymentState) (call : ℕ) : PaymentAnswer → PaymentState
  | .waiting pending => { s with calls := s.calls.set call pending }
  | _ => { s with calls := s.calls.erase call }

/-- The payment service under any interleaving of its callers. -/
def paymentMachine :
    EventMachine PaymentState PaymentEvent PaymentAnswer where
  step s
    | .initializeTransaction call req generated =>
      let answer := beginInitialize cfg req generated
      (s.settle call answer, answer)
    | .createVirtualAccount call req generated =>
      let answer := beginVirtualAccount cfg req generated
      (s.settle call answer, answer)
    | .verify call reference =>
      let answer := beginVerify cfg reference
      (s.settle call answer, answer)
    | .reply call reply generated env =>
      match s.calls.get? call, reply with
      | none, _ => (s, .failed .raised)
      | some _, none => (s.settle call (.failed .raised), .failed .raised)
      | some pending, some reply =>
        let r := continueCall cfg pending reply generated env s
        (r.1.settle call r.2, r.2)
    | .webhook payload env =>
      let r := processGatewayEvent cfg.py env payload s
      match r.2 with
      | .error e => (r.1, .failed e)
      | .ok g => (r.1, .returned (Dict.ofList g.result))
    | .manualEvent request env =>
      let r := Ekaette.recordEvent cfg.py env request s.analytics
      ({ s with analytics := r.1 }, .returned (Dict.ofList [("campaign_id", .str r.2)]))

end Ekaette
