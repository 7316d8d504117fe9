import Ekaette.At.PaymentRecords

set_option autoImplicit false

/-! # Who owns a payment

A record belongs to the tenant, company and campaign stored in it. Checkouts, virtual accounts and
gateway events store these three fields under one reference, whatever record is there already.
`ownershipStore` says which owner a step stores where; the ownership of every other record is
framed. -/

namespace Ekaette

/-- The ownership fields of a record. -/
structure Owner where
  tenantId : PyValue
  companyId : PyValue
  campaignId : PyValue

def ownerOf (record : Record) : Owner :=
  ⟨record.value "tenant_id", record.value "company_id", record.value "campaign_id"⟩

/-- The owner a step stores, where, and with how much metadata. -/
structure OwnershipStore where
  tenantId : String
  companyId : String
  campaignId : Option String
  reference : String
  /-- also stored in the virtual-account table -/
  virtualAccount : Bool
  /-- a gateway event whose metadata lacks one of the three fields -/
  partialMetadata : Bool
  deriving DecidableEq

def OwnershipStore.owner (o : OwnershipStore) : Owner :=
  ⟨.str o.tenantId, .str o.companyId, optValue o.campaignId⟩

/-! ## The owner of a charge -/

/-- The first string that is not empty. -/
def firstNonEmpty (values : List String) : String := (values.find? (· ≠ "")).getD ""

variable (py : StrMethods)

variable (data : JsonObject)

/-- The virtual account a charge was paid into. -/
def paidAccount (s : PaymentState) : Option Record :=
  if extractAccountNumberFromCharge py data = "" then none
  else virtualAccountFromNumber py (extractAccountNumberFromCharge py data) s

/-- The tenant and the company named by the metadata of a charge, stripped, and its campaign. -/
def metadataOwner : String × String × Option String :=
  let metadata := coerceMetadata (PyValue.lookupD data "metadata")
  (PyStr.strip (strOr py (PyValue.lookupD metadata "tenant_id") ""),
    PyStr.strip (strOr py (PyValue.lookupD metadata "company_id") ""),
    nonBlank (PyValue.lookupD metadata "campaign_id"))

/-- The metadata of a charge leaves tenant, company or campaign open. -/
def hasPartialMetadata : Bool :=
  (metadataOwner py data).1 = "" || (metadataOwner py data).2.1 = "" ||
    (metadataOwner py data).2.2.isNone

/-- A string field of the account, empty when there is none. -/
def accountField (account : Option Record) (key : String) : String :=
  ((account.map (·.value key)).bind PyValue.str?).getD ""

/-- The owner of a charge: each field from the metadata, else from the virtual account, else the
    default. -/
def chargeOwner (s : PaymentState) :
    String × String × Option String :=
  let named := metadataOwner py data
  let account := paidAccount py data s
  (firstNonEmpty [named.1, accountField account "tenant_id", "public"],
    firstNonEmpty [named.2.1, accountField account "company_id", "ekaette-electronics"],
    named.2.2.or (((account.map (·.value "campaign_id")).bind nonBlank).map PyStr.strip))

/-- `_campaign_context_from_data` resolves the owner of the charge. -/
theorem campaignContext_owner (s : PaymentState) :
    ((campaignContextFromData py data s).tenantId, (campaignContextFromData py data s).companyId,
      (campaignContextFromData py data s).campaignId) = chargeOwner py data s := by
  unfold campaignContextFromData chargeOwner metadataOwner paidAccount
  simp only
  generalize PyStr.strip (strOr py (PyValue.lookupD (coerceMetadata
    (PyValue.lookupD data "metadata")) "tenant_id") "") = tenant
  generalize PyStr.strip (strOr py (PyValue.lookupD (coerceMetadata
    (PyValue.lookupD data "metadata")) "company_id") "") = company
  generalize (if extractAccountNumberFromCharge py data = "" then (none : Option Record)
    else virtualAccountFromNumber py (extractAccountNumberFromCharge py data) s) = account
  -- a field taken from the metadata, the account or the default
  have hfield : ∀ (named default : String) (own : Option String), default ≠ "" →
      (if (if named = "" then own.getD named else named) = "" then default
        else if named = "" then own.getD named else named)
        = firstNonEmpty [named, own.getD "", default] := by
    intro named default own hdefault
    by_cases hnamed : named = ""
    · by_cases hown : own.getD "" = ""
      · simp [firstNonEmpty, hnamed, hown, hdefault]
      · simp [firstNonEmpty, hnamed, hown]
    · simp [firstNonEmpty, hnamed]
  cases account with
  | none =>
    simp only [accountField, Option.map_none, Option.bind_none, Option.getD_none, Option.or_none]
    by_cases htenant : tenant = "" <;> by_cases hcompany : company = "" <;>
      simp [htenant, hcompany, firstNonEmpty]
  | some record =>
    simp only [accountField, Option.map_some, Option.bind_some]
    rw [hfield _ _ _ (by decide), hfield _ _ _ (by decide)]

/-! ## The ownership a step stores -/

/-- The data and the reference of a gateway event that is not refused. -/
def acceptedCharge (payload : JsonObject) : Option (JsonObject × String) :=
  match PyValue.lookupD payload "data" with
  | .dict data =>
    match validateReference (strOr py (PyValue.lookupD data "reference") ""),
        coerceAmountKobo py (PyValue.lookupD data "amount") with
    | .ok reference, .ok _ => some (data, reference)
    | _, _ => none
  | _ => none

/-- The ownership a gateway event stores. -/
def gatewayOwnership (payload : JsonObject) (s : PaymentState) :
    Option OwnershipStore :=
  (acceptedCharge py payload).map (fun charge =>
    { tenantId := (chargeOwner py charge.1 s).1
      companyId := (chargeOwner py charge.1 s).2.1
      campaignId := (chargeOwner py charge.1 s).2.2
      reference := charge.2
      virtualAccount := false
      partialMetadata := hasPartialMetadata py charge.1 })

variable (cfg : PaymentConfig)

/-- The ownership a call stores when it goes on with the provider's reply. -/
def continueOwnership (call : PendingCall) (reply : ProviderReply)
    (generated : String) (s : PaymentState) : Option OwnershipStore :=
  match call with
  | .initializeTransaction req reference _ _ =>
    match checkInitializeReply cfg.py reply with
    | .error _ => none
    | .ok data => some {
        tenantId := req.tenantId
        companyId := req.companyId
        campaignId := req.campaignId
        reference := normalizeReference
          (some (strOr cfg.py (PyValue.lookupD data "reference") reference)) generated
        virtualAccount := false
        partialMetadata := false }
  | .customer _ => none
  | .dedicated p _ =>
    match checkDedicatedReply cfg.py reply with
    | .error _ => none
    | .ok data =>
      if normalizeAccountNumber cfg.py
          (PyStr.strip (extractVirtualAccountPayload cfg.py data).accountNumber) = "" then none
      else some {
        tenantId := p.request.tenantId
        companyId := p.request.companyId
        campaignId := p.request.campaignId
        reference := p.reference
        virtualAccount := true
        partialMetadata := false }
  | .verify _ =>
    match checkVerifyReply cfg.py reply with
    | .error _ => none
    | .ok data => gatewayOwnership cfg.py (verifyPayload cfg.py data) s

variable (s : PaymentState)

/-- The ownership a step stores, if it stores one. -/
def ownershipStore : PaymentEvent → Option OwnershipStore
  | .reply call (some reply) generated _ =>
    (s.calls.get? call).bind (fun pending => continueOwnership cfg pending reply generated s)
  | .webhook payload _ => gatewayOwnership cfg.py payload s
  | _ => none

/-- The payload carries this owner. -/
structure Carries (payload : Record) (owner : Owner) : Prop where
  tenant : payload.get? "tenant_id" = some owner.tenantId
  company : payload.get? "company_id" = some owner.companyId
  campaign : payload.get? "campaign_id" = some owner.campaignId

/-- The payload carries no ownership field. -/
structure CarriesNone (payload : Record) : Prop where
  tenant : payload.get? "tenant_id" = none
  company : payload.get? "company_id" = none
  campaign : payload.get? "campaign_id" = none

/-- The stores of a table against the ownership store: under its reference the owner is stored,
    under other references none is. -/
def WritesOwner (writes : List RecordWrite) (o : Option OwnershipStore) : Prop :=
  (∀ w ∈ writes, (∃ store, o = some store ∧ w.reference = store.reference ∧
      Carries w.payload store.owner) ∨
    ((∀ store, o = some store → w.reference ≠ store.reference) ∧ CarriesNone w.payload)) ∧
  ∀ store, o = some store → ∃ w ∈ writes, w.reference = store.reference

theorem writesOwner_nil : WritesOwner [] none := by
  simp [WritesOwner]

theorem writesOwner_singleton {reference : String} {payload : Record} {store : OwnershipStore}
    (href : reference = store.reference) (h : Carries payload store.owner) :
    WritesOwner [⟨reference, payload⟩] (some store) := by
  constructor
  · intro w hw
    rw [List.mem_singleton] at hw
    subst hw
    exact .inl ⟨store, rfl, href, h⟩
  · intro store' hstore
    rw [Option.some.injEq] at hstore
    subst hstore
    exact ⟨_, List.mem_singleton_self _, href⟩

variable (payload : JsonObject)

/-- What `readGatewayEvent` accepts, and what it reads from it. -/
theorem readGatewayEvent_charge (s : PaymentState) :
    match readGatewayEvent py payload s with
    | .error _ => acceptedCharge py payload = none
    | .ok g => ∃ data, acceptedCharge py payload = some (data, g.reference) ∧
        g.context = campaignContextFromData py data s := by
  unfold readGatewayEvent acceptedCharge
  cases PyValue.lookupD payload "data" with
  | dict data =>
    cases hreference : validateReference (strOr py (PyValue.lookupD data "reference") "") with
    | error e => simp [hreference]
    | ok reference =>
      cases hamount : coerceAmountKobo py (PyValue.lookupD data "amount") with
      | error e => simp [hreference, hamount]
      | ok amount => simp [hreference, hamount]
  | _ => simp

theorem gatewayEvent_carries (g : GatewayEvent) (now : String) :
    Carries (g.paymentPayload now)
      ⟨.str g.context.tenantId, .str g.context.companyId, optValue g.context.campaignId⟩ := by
  constructor <;> simp [GatewayEvent.paymentPayload, Dict.ofList]

theorem gatewayEvent_carriesNone (g : GatewayEvent) (now : String) :
    CarriesNone (g.syncPayload now) ∧ CarriesNone (g.virtualAccountPayload now) := by
  constructor
  · constructor <;> simp [GatewayEvent.syncPayload, Dict.ofList]
  · constructor <;> simp [GatewayEvent.virtualAccountPayload, Dict.ofList]

theorem initialize_carries (req : InitializeRequest) (reference currency : String)
    (metadata : Record) (data : JsonObject) (now : String) :
    Carries (req.paymentPayload reference currency metadata data now)
      ⟨.str req.tenantId, .str req.companyId, optValue req.campaignId⟩ := by
  constructor <;> simp [InitializeRequest.paymentPayload, Dict.ofList]

theorem dedicated_carries (p : PendingVirtualAccount) (createMode accountNumber : String)
    (account : VirtualAccountPayload) (now : String) :
    Carries (p.paymentPayload accountNumber account now)
        ⟨.str p.request.tenantId, .str p.request.companyId, optValue p.request.campaignId⟩ ∧
      Carries (p.record createMode accountNumber account now)
        ⟨.str p.request.tenantId, .str p.request.companyId, optValue p.request.campaignId⟩ := by
  constructor
  · constructor <;> simp [PendingVirtualAccount.paymentPayload, Dict.ofList]
  · constructor <;> simp [PendingVirtualAccount.record, Dict.ofList]

/-- A gateway event stores its owner under its own reference only; the stores for the virtual
    account leave ownership out. -/
theorem writesOwner_gateway (now : String) (s : PaymentState) :
    WritesOwner (gatewayWrites py payload now s).payments (gatewayOwnership py payload s) ∧
      WritesOwner (gatewayWrites py payload now s).virtualAccounts none := by
  have hread := readGatewayEvent_charge py payload s
  unfold gatewayWrites gatewayOwnership
  cases hg : readGatewayEvent py payload s with
  | error e =>
    rw [hg] at hread
    simp only at hread
    rw [hread]
    exact ⟨writesOwner_nil, writesOwner_nil⟩
  | ok g =>
    rw [hg] at hread
    obtain ⟨data, hcharge, hcontext⟩ := hread
    rw [hcharge, Option.map_some]
    have howner := campaignContext_owner py data s
    rw [← hcontext] at howner
    rw [← howner]
    have hcarries := gatewayEvent_carries g now
    obtain ⟨hsync, haccount⟩ := gatewayEvent_carriesNone g now
    simp only [GatewayEvent.writes]
    generalize g.paymentPayload now = paid at hcarries ⊢
    generalize g.syncPayload now = synced at hsync ⊢
    generalize g.virtualAccountPayload now = account at haccount ⊢
    cases g.context.virtualAccountReference with
    | none => exact ⟨writesOwner_singleton rfl hcarries, writesOwner_nil⟩
    | some vaReference =>
      refine ⟨⟨?_, ?_⟩, ?_⟩
      · intro w hw
        rcases List.mem_cons.1 hw with rfl | hw
        · exact .inl ⟨_, rfl, rfl, hcarries⟩
        · by_cases hsame : vaReference = g.reference
          · simp [hsame] at hw
          · rw [if_pos hsame, List.mem_singleton] at hw
            subst hw
            refine .inr ⟨?_, hsync⟩
            intro store hstore
            rw [Option.some.injEq] at hstore
            subst hstore
            exact hsame
      · intro store hstore
        rw [Option.some.injEq] at hstore
        subst hstore
        exact ⟨_, List.mem_cons_self, rfl⟩
      · refine ⟨?_, by simp⟩
        intro w hw
        rw [List.mem_singleton] at hw
        subst hw
        exact .inr ⟨by simp, haccount⟩

variable (o : Option OwnershipStore)

/-- The part of the ownership store that concerns the virtual-account table. -/
def accountStore : Option OwnershipStore := o.filter (·.virtualAccount)

theorem accountStore_gateway (s : PaymentState) :
    accountStore (gatewayOwnership py payload s) = none := by
  unfold gatewayOwnership accountStore
  cases acceptedCharge py payload <;> rfl

variable (e : PaymentEvent)

/-- **Where a step stores ownership**: in each table its stores carry the owner of its ownership
    store under that store's reference, and no owner elsewhere. -/
theorem writesOwner_stepWrites :
    WritesOwner (stepWrites cfg s e).payments (ownershipStore cfg s e) ∧
      WritesOwner (stepWrites cfg s e).virtualAccounts (accountStore (ownershipStore cfg s e)) := by
  have hnone : WritesOwner StepWrites.none.payments none ∧
      WritesOwner StepWrites.none.virtualAccounts (accountStore none) :=
    ⟨writesOwner_nil, writesOwner_nil⟩
  have hgateway : ∀ payload now,
      WritesOwner (gatewayWrites cfg.py payload now s).payments
          (gatewayOwnership cfg.py payload s) ∧
        WritesOwner (gatewayWrites cfg.py payload now s).virtualAccounts
          (accountStore (gatewayOwnership cfg.py payload s)) := by
    intro payload now
    rw [accountStore_gateway]
    exact writesOwner_gateway cfg.py payload now s
  cases e with
  | initializeTransaction call req generated => exact hnone
  | createVirtualAccount call req generated => exact hnone
  | verify call reference => exact hnone
  | reply call reply generated env =>
    cases reply with
    | none => exact hnone
    | some reply =>
      simp only [stepWrites, ownershipStore]
      cases s.calls.get? call with
      | none => exact hnone
      | some pending =>
        rw [Option.bind_some]
        cases pending with
        | initializeTransaction req reference currency metadata =>
          simp only [continueWrites, continueOwnership]
          cases checkInitializeReply cfg.py reply with
          | error e => exact hnone
          | ok data =>
            simp only
            generalize normalizeReference (some (strOr cfg.py
              (PyValue.lookupD data "reference") reference)) generated = resolved
            exact ⟨writesOwner_singleton rfl (initialize_carries ..), writesOwner_nil⟩
        | customer pending => exact hnone
        | dedicated p createMode =>
          simp only [continueWrites, continueOwnership]
          cases checkDedicatedReply cfg.py reply with
          | error e => exact hnone
          | ok data =>
            simp only
            split_ifs
            · exact hnone
            · exact ⟨writesOwner_singleton rfl (dedicated_carries p createMode ..).1,
                writesOwner_singleton rfl (dedicated_carries p createMode ..).2⟩
        | verify reference =>
          simp only [continueWrites, continueOwnership]
          cases checkVerifyReply cfg.py reply with
          | error e => exact hnone
          | ok data => exact hgateway _ _
  | webhook payload env => exact hgateway _ _
  | manualEvent request env => exact hnone

/-! ## The ownership of the records after a step -/

/-- The owner of the record under a reference after stores that carry the owner `o` stores. -/
theorem ownerOf_applyWrites {writes : List RecordWrite} {o : Option OwnershipStore}
    (hwrites : WritesOwner writes o) (hnodup : (writes.map RecordWrite.reference).Nodup)
    (now : String) (table : Dict String Record) {ref : String} {record : Record}
    (hrecord : table.get? ref = some record) :
    ∃ after, (applyWrites now writes table).get? ref = some after ∧
      ((∃ store, o = some store ∧ ref = store.reference ∧ ownerOf after = store.owner) ∨
        ((∀ store, o = some store → ref ≠ store.reference) ∧ ownerOf after = ownerOf record)) := by
  rw [get?_applyWrites now writes hnodup]
  cases hfind : writes.find? (fun w => w.reference = ref) with
  | none =>
    refine ⟨record, hrecord, .inr ⟨?_, rfl⟩⟩
    intro store hstore href
    obtain ⟨w, hw, hwref⟩ := hwrites.2 store hstore
    have hno := List.find?_eq_none.1 hfind w hw
    simp [hwref, href] at hno
  | some w =>
    have hwref : w.reference = ref := by simpa using List.find?_some hfind
    refine ⟨_, rfl, ?_⟩
    rcases hwrites.1 w (List.mem_of_find?_eq_some hfind) with
      ⟨store, hstore, href, hcarries⟩ | ⟨hother, hcarries⟩
    · refine .inl ⟨store, hstore, hwref ▸ href, ?_⟩
      simp only [ownerOf, Record.value]
      rw [mergeRecord_get? _ _ _ _ (by decide) (by decide), hcarries.tenant,
        mergeRecord_get? _ _ _ _ (by decide) (by decide), hcarries.company,
        mergeRecord_get? _ _ _ _ (by decide) (by decide), hcarries.campaign]
      rfl
    · refine .inr ⟨fun store hstore => hwref ▸ hother store hstore, ?_⟩
      simp only [ownerOf, Record.value, hrecord]
      rw [mergeRecord_get? _ _ _ _ (by decide) (by decide), hcarries.tenant,
        mergeRecord_get? _ _ _ _ (by decide) (by decide), hcarries.company,
        mergeRecord_get? _ _ _ _ (by decide) (by decide), hcarries.campaign]
      rfl

/-- The record belongs to a tenant, and not to this one. -/
def OfOtherTenant (record : Record) (tenantId : String) : Prop :=
  ∃ tenant, record.value "tenant_id" = .str tenant ∧ tenant ≠ tenantId

/-- The operation may not touch the ownership of the record: it stores none, or it is a gateway
    event with missing or partial metadata, or the record is another tenant's. -/
def OwnershipProtected (record : Record) : Prop :=
  ∀ store, o = some store → store.partialMetadata = true ∨ OfOtherTenant record store.tenantId

/-- The protected records of a table keep their owner. -/
def TableFrame (before after : Dict String Record) : Prop :=
  ∀ ref record, before.get? ref = some record → OwnershipProtected o record →
    ∃ record', after.get? ref = some record' ∧ ownerOf record' = ownerOf record

/-- The ownership frame of a step, over both tables. -/
def OwnershipFrame : Prop :=
  TableFrame (ownershipStore cfg s e) s.payments ((paymentMachine cfg).next s e).payments ∧
    TableFrame (ownershipStore cfg s e) s.virtualAccounts
      ((paymentMachine cfg).next s e).virtualAccounts

/-- The record found under the reference, if any, is not another tenant's, and has the resolved
    owner already when the metadata leaves a part of it open. -/
def OwnershipStore.Admits (o : OwnershipStore) (existing : Option Record) : Prop :=
  ∀ record, existing = some record →
    ¬ OfOtherTenant record o.tenantId ∧ (o.partialMetadata = true → ownerOf record = o.owner)

/-- The step stores its owner over records that admit it only. -/
def OwnershipGuard : Prop :=
  ∀ o, ownershipStore cfg s e = some o → o.Admits (s.payments.get? o.reference) ∧
    (o.virtualAccount = true → o.Admits (s.virtualAccounts.get? o.reference))

theorem not_ofOtherTenant_of_owner {record : Record} {o : OwnershipStore}
    (h : ownerOf record = o.owner) : ¬ OfOtherTenant record o.tenantId := by
  rintro ⟨tenant, htenant, hne⟩
  have hvalue : record.value "tenant_id" = .str o.tenantId := congrArg Owner.tenantId h
  rw [htenant, PyValue.str.injEq] at hvalue
  exact hne hvalue

/-- The frame of a table under stores that carry the owner of `stored`, a part of `o`. -/
theorem tableFrame_iff {writes : List RecordWrite} {o stored : Option OwnershipStore}
    (hwrites : WritesOwner writes stored) (hnodup : (writes.map RecordWrite.reference).Nodup)
    (hsub : ∀ store, stored = some store → o = some store) (now : String)
    (table : Dict String Record) :
    TableFrame o table (applyWrites now writes table) ↔
      ∀ store, stored = some store → store.Admits (table.get? store.reference) := by
  constructor
  · intro hframe store hstore record hrecord
    obtain ⟨after, hafter, howner⟩ := ownerOf_applyWrites hwrites hnodup now table hrecord
    have hstored : ownerOf after = store.owner := by
      rcases howner with ⟨store', hstore', _, howner⟩ | ⟨hother, _⟩
      · rw [hstore, Option.some.injEq] at hstore'
        rw [howner, hstore']
      · exact absurd rfl (hother store hstore)
    -- the frame forces the stored owner to be the old one
    have hkeep : OwnershipProtected o record → ownerOf record = store.owner := by
      intro hprotected
      obtain ⟨record', hrecord', hsame⟩ := hframe _ record hrecord hprotected
      rw [hafter, Option.some.injEq] at hrecord'
      rw [← hsame, ← hrecord', hstored]
    have ho := hsub store hstore
    refine ⟨fun hforeign => ?_, fun hpartial => ?_⟩
    · refine not_ofOtherTenant_of_owner (hkeep ?_) hforeign
      intro store' hstore'
      rw [ho, Option.some.injEq] at hstore'
      exact .inr (hstore' ▸ hforeign)
    · refine hkeep ?_
      intro store' hstore'
      rw [ho, Option.some.injEq] at hstore'
      exact .inl (hstore' ▸ hpartial)
  · intro hadmits ref record hrecord hprotected
    obtain ⟨after, hafter, howner⟩ := ownerOf_applyWrites hwrites hnodup now table hrecord
    refine ⟨after, hafter, ?_⟩
    rcases howner with ⟨store, hstore, rfl, howner⟩ | ⟨_, howner⟩
    · obtain ⟨hours, hresolved⟩ := hadmits store hstore record hrecord
      rcases hprotected store (hsub store hstore) with hpartial | hforeign
      · rw [howner, hresolved hpartial]
      · exact absurd hforeign hours
    · exact howner

/-- **The ownership frame of a step** holds exactly if the step meets the guard. -/
theorem ownershipFrame_iff :
    OwnershipFrame cfg s e ↔ OwnershipGuard cfg s e := by
  obtain ⟨hpayments, haccounts⟩ := writesOwner_stepWrites cfg s e
  obtain ⟨hpayNodup, haccNodup⟩ := stepWrites_nodup cfg s e
  obtain ⟨hpayTable, haccTable⟩ := next_tables cfg s e
  have hsub : ∀ store, accountStore (ownershipStore cfg s e) = some store →
      ownershipStore cfg s e = some store := by
    intro store hstore
    exact (Option.filter_eq_some_iff.1 hstore).1
  unfold OwnershipFrame
  rw [hpayTable, haccTable, tableFrame_iff hpayments hpayNodup (fun _ h => h),
    tableFrame_iff haccounts haccNodup hsub]
  constructor
  · rintro ⟨hpay, hacc⟩ o ho
    refine ⟨hpay o ho, fun hva => hacc o ?_⟩
    rw [ho, accountStore, Option.filter_some, if_pos hva]
  · intro hguard
    refine ⟨fun o ho => (hguard o ho).1, fun o ho => ?_⟩
    obtain ⟨hstore, hva⟩ := Option.filter_eq_some_iff.1 ho
    exact (hguard o hstore).2 hva

/-- **The ownership frame along runs.** In a run of the payment service no step moves a record of
    another tenant, and no event with missing or partial metadata moves any record, exactly if every
    step stores its owner over records that admit it. -/
theorem ownershipFrame_run_iff (es : List PaymentEvent) :
    (∀ t ∈ (paymentMachine cfg).trace .empty es, OwnershipFrame cfg t.pre t.event) ↔
      ∀ t ∈ (paymentMachine cfg).trace .empty es, OwnershipGuard cfg t.pre t.event :=
  forall₂_congr (fun t _ => ownershipFrame_iff cfg t.pre t.event)

/-! ## The tenant of a payment along a run -/

/-- The stored payment of the reference belongs to the tenant. -/
def PaymentOf (ref tenant : String) (s : PaymentState) : Prop :=
  ∃ record, s.payments.get? ref = some record ∧ record.value "tenant_id" = .str tenant

theorem paymentOf_next {ref tenant : String} {s : PaymentState}
    {e : PaymentEvent} (h : PaymentOf ref tenant s) (hguard : OwnershipGuard cfg s e) :
    PaymentOf ref tenant ((paymentMachine cfg).next s e) := by
  obtain ⟨record, hrecord, htenant⟩ := h
  obtain ⟨after, hafter, howner⟩ := ownerOf_applyWrites (writesOwner_stepWrites cfg s e).1
    (stepWrites_nodup cfg s e).1 e.now s.payments hrecord
  refine ⟨after, by rw [(next_tables cfg s e).1, hafter], ?_⟩
  rcases howner with ⟨store, hstore, href, howner⟩ | ⟨_, howner⟩
  · -- the store is the tenant's own
    have hours := ((hguard store hstore).1 record (href ▸ hrecord)).1
    have hsame : tenant = store.tenantId := by
      by_contra hne
      exact hours ⟨tenant, htenant, hne⟩
    rw [hsame]
    exact congrArg Owner.tenantId howner
  · rw [← htenant]
    exact congrArg Owner.tenantId howner

/-- **No payment changes its tenant** in a run whose steps all meet the guard. -/
theorem paymentOf_always {ref tenant : String} {s : PaymentState}
    (h : PaymentOf ref tenant s) {es : List PaymentEvent}
    (hguard : ∀ t ∈ (paymentMachine cfg).trace s es, OwnershipGuard cfg t.pre t.event) :
    (paymentMachine cfg).Always (PaymentOf ref tenant) s es :=
  (paymentMachine cfg).always_of_guarded (fun _ _ => paymentOf_next cfg) h hguard

/-! ## A payment moved to the default tenant -/

/-- The checkout `pay-0001` of the tenant `acme`. -/
def acmeCheckout : List PaymentEvent :=
  [ .initializeTransaction 0 {
      email := "ada@example.com", amountKobo := 5000, currency := "NGN"
      reference := some "pay-0001", tenantId := "acme", companyId := "acme-phones"
      campaignId := some "cmp-1", customerPhone := none, metadata := [] } "ekt-1",
    .reply 0 (some ⟨200, [("status", .bool true),
      ("data", .dict [("reference", .str "pay-0001")])]⟩) "ekt-2" (envAt 0) ]

theorem acmeCheckout_paymentOf :
    PaymentOf "pay-0001" "acme" ((paymentMachine paystackConfig).run .empty acmeCheckout) := by
  have hstored : (((paymentMachine paystackConfig).run .empty acmeCheckout).payments.get?
      "pay-0001").bind (fun record => (record.value "tenant_id").str?) = some "acme" := by
    decide +kernel
  obtain ⟨record, hrecord, htenant⟩ := Option.bind_eq_some_iff.1 hstored
  exact ⟨record, hrecord, PyValue.str?_eq_some htenant⟩

/-- Its success webhook carries no metadata: the payment goes to the tenant `public`. -/
theorem payment_moved_to_public :
    ¬ ∀ t ∈ (paymentMachine paystackConfig).trace .empty
        (acmeCheckout ++ [chargeWebhook "charge.success" "success"]),
      OwnershipFrame paystackConfig t.pre t.event := by
  have hstore : ownershipStore paystackConfig
      ((paymentMachine paystackConfig).run .empty acmeCheckout)
      (chargeWebhook "charge.success" "success")
        = some ⟨"public", "ekaette-electronics", none, "pay-0001", false, true⟩ := by
    decide +kernel
  obtain ⟨record, hrecord, htenant⟩ := acmeCheckout_paymentOf
  intro hframe
  rw [EventMachine.trace_concat] at hframe
  have hlast := hframe _ (List.mem_append_right _ (List.mem_singleton_self _))
  rw [ownershipFrame_iff] at hlast
  exact ((hlast _ hstore).1 record hrecord).1 ⟨"acme", htenant, by decide⟩

end Ekaette
