import Ekaette.At.SendIdempotencyFirestore
import Ekaette.Admin.Idempotency

set_option autoImplicit false

/-! # What the fingerprints of idempotent requests cover

`POST /whatsapp/send` and the upload of an inventory answer a repeated idempotency key with the
recorded response if the fingerprint of the request is the recorded one, and reject it otherwise.
The fingerprint of a send leaves out the tenant, the company and the sending number; that of an
upload has the size of the file but not its content. -/

namespace Ekaette

/-! ## Sends -/

structure WaSendConfig extends SendConfig where
  /-- `WHATSAPP_PHONE_NUMBER_ID` -/
  phoneNumberId : String
  /-- `hashlib.sha256(json.dumps(payload, sort_keys=True).encode()).hexdigest()` -/
  digest : PyValue → String

/-- The JSON body of `POST /whatsapp/send`. -/
abbrev WaSendBody := List (String × PyValue)

/-- What `_do_send` closes over, with the number that `send_with_template_fallback` resolves. -/
structure WaSendEffect where
  recipient : PyValue
  text : PyValue
  tenantId : PyValue
  companyId : PyValue
  sendingNumber : PyValue

namespace WaSendBody

variable (cfg : WaSendConfig) (body : WaSendBody)

/-- `to` -/
def recipient : PyValue := PyValue.lookupOr body "to" (.str "")

def text : PyValue := PyValue.lookupOr body "text" (.str "")

def type : PyValue := PyValue.lookupOr body "type" (.str "text")

def tenantId : PyValue := PyValue.lookupOr body "tenant_id" (.str "public")

def companyId : PyValue := PyValue.lookupOr body "company_id" (.str "ekaette-electronics")

/-- `phone_number_id or WHATSAPP_PHONE_NUMBER_ID` -/
def sendingNumber : PyValue :=
  (PyValue.lookupOr body "phone_number_id" (.str cfg.phoneNumberId)).orElse (.str cfg.phoneNumberId)

/-- What is hashed, with sorted keys. -/
def hashed : PyValue := .dict [("text", text body), ("to", recipient body), ("type", type body)]

/-- `payload_hash`. -/
def payloadHash : String := cfg.digest (hashed body)

/-- The inputs of the effect that are not hashed. -/
def scope : PyValue × PyValue × PyValue := (tenantId body, companyId body, sendingNumber cfg body)

def effect : WaSendEffect :=
  ⟨recipient body, text body, tenantId body, companyId body, sendingNumber cfg body⟩

variable {cfg} in
theorem effect_eq_iff {p q : WaSendBody} (h : hashed p = hashed q) :
    effect cfg p = effect cfg q ↔ scope cfg p = scope cfg q := by
  simp only [hashed, PyValue.dict.injEq, List.cons.injEq, Prod.mk.injEq, true_and, and_true] at h
  simp only [effect, scope, WaSendEffect.mk.injEq, Prod.mk.injEq, h.1, h.2.1, true_and]

end WaSendBody

/-! ### In one process -/

/-- The request `p` holds the key in memory when another one comes: it is in flight, or its result
    is stored and has not expired. -/
inductive HoldsSendKey (cfg : WaSendConfig) (now : ℚ) (s : SendState) (key : String)
    (p : WaSendBody) : Prop where
  | stored (r : SendResult) (storedAt : ℚ)
      (hstored : (evictIdempotencyStore cfg.ttlSeconds now s.store).get? (cfg.sha256Hex key) =
        some ⟨p.payloadHash cfg, r, storedAt⟩)
      (hlive : now - storedAt < cfg.ttlSeconds) (hr : r ≠ conflictResult)
  | inflight (owner : ℕ)
      (hstored : (evictIdempotencyStore cfg.ttlSeconds now s.store).get? (cfg.sha256Hex key) = none)
      (hinflight : s.inflight.get? (cfg.sha256Hex key) = some (p.payloadHash cfg, owner))

/-- The request `q` is rejected: its key is used with another payload. -/
def RejectsSend (cfg : WaSendConfig) (now : ℚ) (s : SendState) (key : String) (q : WaSendBody) :
    Prop :=
  (s.begin cfg.toSendConfig now key (q.payloadHash cfg)).2 =
    .returned (cfg.sha256Hex key) (q.payloadHash cfg) conflictResult

theorem rejectsSend_iff {cfg : WaSendConfig} {now : ℚ} {s : SendState} {key : String}
    {p q : WaSendBody} (h : HoldsSendKey cfg now s key p) :
    RejectsSend cfg now s key q ↔ p.payloadHash cfg ≠ q.payloadHash cfg := by
  rw [RejectsSend, SendState.begin, evictAndGet, getCachedIdempotencyResult]
  cases h with
  | stored r storedAt hstored hlive hr =>
    simp only [hstored, ge_iff_le, not_le.2 hlive, if_false]
    by_cases hsame : p.payloadHash cfg = q.payloadHash cfg
    · simp [hsame, SendState.beginWith, hr]
    · simp [hsame, SendState.beginWith]
  | inflight owner hstored hinflight =>
    simp only [hstored]
    by_cases hsame : p.payloadHash cfg = q.payloadHash cfg
    · simp [hsame, SendState.beginWith, hinflight]
    · simp [hsame, SendState.beginWith, hinflight]

/-! ### In Firestore -/

/-- The document of the key is the request's, is done and has not expired. -/
def HoldsSendDoc (cfg : WaSendConfig) (now : ℚ) (s : FirestoreSends) (key : String)
    (p : WaSendBody) : Prop :=
  ∃ doc r, s.docs.get? (cfg.sha256Hex key) = some doc ∧ doc.payloadHash = p.payloadHash cfg ∧
    doc.expiresAt > now ∧ doc.done = some r ∧ r ≠ conflictResult

/-- The call of the request `q` that reads the document ends with the conflict. -/
def RejectsSendDoc (cfg : WaSendConfig) (now startedAt : ℚ) (s : FirestoreSends) (call : ℕ)
    (key : String) (q : WaSendBody) : Prop :=
  (s.snapshot cfg.toSendConfig call ⟨cfg.sha256Hex key, q.payloadHash cfg, startedAt, .get now⟩ now
    (s.docs.get? (cfg.sha256Hex key))).2 =
      .ended (cfg.sha256Hex key) (q.payloadHash cfg) startedAt (.returned conflictResult)

theorem rejectsSendDoc_iff {cfg : WaSendConfig} {now startedAt : ℚ} {s : FirestoreSends} {call : ℕ}
    {key : String} {p q : WaSendBody} (h : HoldsSendDoc cfg now s key p) :
    RejectsSendDoc cfg now startedAt s call key q ↔ p.payloadHash cfg ≠ q.payloadHash cfg := by
  obtain ⟨doc, r, hdoc, hhash, hlive, hdone, hr⟩ := h
  rw [RejectsSendDoc, hdoc, FirestoreSends.snapshot, if_pos hlive, hhash]
  by_cases hsame : p.payloadHash cfg = q.payloadHash cfg
  · simp [hsame, hdone, FirestoreSends.ends, hr]
  · simp [hsame, FirestoreSends.ends]

/-! ## Uploads -/

/-- An upload: the company after `_normalize_company_id_strict`, and the form. -/
structure InventoryUpload where
  companyId : String
  fileName : Option String
  raw : List UInt8
  dataTier : String
  dryRun : Bool
  sheetName : Option String

/-- What the fingerprint is made of. -/
structure UploadPayload where
  companyId : String
  fileName : String
  sizeBytes : ℕ
  dataTier : String
  dryRun : Bool
  sheetName : Option String
deriving DecidableEq

/-- What `_sync_company_inventory_from_upload` is called with, for the tenant. -/
structure UploadEffect where
  companyId : String
  fileName : String
  raw : List UInt8
  sheetName : Option String
  dataTier : String
  dryRun : Bool

namespace InventoryUpload

variable (py : StrMethods) (u : InventoryUpload)

/-- `(file.filename or "inventory-upload.csv").strip() or "inventory-upload.csv"` -/
def resolvedFileName : String :=
  let given := u.fileName.getD ""
  let name := PyStr.strip (if given = "" then "inventory-upload.csv" else given)
  if name = "" then "inventory-upload.csv" else name

/-- `data_tier.strip().lower() or "admin"` -/
def normalizedDataTier : String :=
  let tier := py.lower (PyStr.strip u.dataTier)
  if tier = "" then "admin" else tier

/-- `(sheet_name or "").strip() or None` -/
def normalizedSheetName : Option String :=
  let sheet := PyStr.strip (u.sheetName.getD "")
  if sheet = "" then none else some sheet

def payload : UploadPayload :=
  ⟨u.companyId, u.resolvedFileName, u.raw.length, u.normalizedDataTier py, u.dryRun,
    u.normalizedSheetName⟩

def effect : UploadEffect :=
  ⟨u.companyId, u.resolvedFileName, u.raw, u.normalizedSheetName, u.normalizedDataTier py, u.dryRun⟩

variable {py} in
/-- The effect is what is hashed, with the content for its size. -/
theorem effect_eq_iff {p q : InventoryUpload} (h : p.payload py = q.payload py) :
    p.effect py = q.effect py ↔ p.raw = q.raw := by
  simp only [payload, UploadPayload.mk.injEq] at h
  simp only [effect, UploadEffect.mk.injEq, h.1, h.2.1, h.2.2.2.1, h.2.2.2.2.1, h.2.2.2.2.2,
    true_and, and_true]

end InventoryUpload

variable {β : Type}

/-- The entry of a committed upload that has not expired. -/
def HoldsUploadKey (cfg : AdminIdempotency UploadPayload β) (py : StrMethods) (now : ℚ)
    (entry : AdminEntry β) (p : InventoryUpload) : Prop :=
  entry.fingerprint = cfg.fingerprint (p.payload py) ∧ entry.state = .done ∧ entry.expiresAt > now

theorem memoryRejects_iff {cfg : AdminIdempotency UploadPayload β} {py : StrMethods} {now : ℚ}
    {key : AdminKey} {store : AdminStore β} {entry : AdminEntry β} {p q : InventoryUpload}
    (hentry : store.get? key.storeKey = some entry) (h : HoldsUploadKey cfg py now entry p) :
    (memoryBeginWithKey cfg key (q.payload py) now store).2 =
    .rejected .reusedWithDifferentPayload ↔
      cfg.fingerprint (p.payload py) ≠ cfg.fingerprint (q.payload py) := by
  obtain ⟨hfingerprint, hdone, hlive⟩ := h
  have hkept : (idempotencyPrune now store).get? key.storeKey = some entry := by
    rw [idempotencyPrune, Dict.get?_filter, hentry, Option.filter_some_pos (by simpa using hlive)]
  simp only [memoryBeginWithKey, hkept, hfingerprint, hdone]
  by_cases hsame : cfg.fingerprint (p.payload py) = cfg.fingerprint (q.payload py)
  · simp [hsame]
  · simp [hsame]

theorem firestoreRejects_iff {cfg : AdminIdempotency UploadPayload β} {py : StrMethods} {now : ℚ}
    {key : AdminKey} {docs : AdminStore β} {entry : AdminEntry β} {p q : InventoryUpload}
    (hentry : docs.get? (cfg.docId key) = some entry) (h : HoldsUploadKey cfg py now entry p) :
    (firestoreBeginWithKey cfg key (q.payload py) now docs).2 =
    .rejected .reusedWithDifferentPayload ↔
      cfg.fingerprint (p.payload py) ≠ cfg.fingerprint (q.payload py) := by
  obtain ⟨hfingerprint, hdone, hlive⟩ := h
  simp only [firestoreBeginWithKey, hentry, AdminIdempotency.decideOnDoc, hfingerprint, hdone,
    hlive, if_true]
  by_cases hsame : cfg.fingerprint (p.payload py) = cfg.fingerprint (q.payload py)
  · simp [hsame]
  · simp [hsame]

/-! ## What is covered -/

/-- The digests tell the two payloads apart. -/
def DigestsApart {α : Type} (digest : α → String) (a b : α) : Prop := digest a = digest b → a = b

/-- **What the fingerprints cover.** A request whose key another one holds is rejected or has the
    other one's effect exactly if: sends that agree in what is hashed agree in tenant, company and
    sending number; uploads that agree in what is hashed agree in content. -/
theorem fingerprints_cover_iff (cfg : WaSendConfig) (admin : AdminIdempotency UploadPayload β)
    (py : StrMethods) (p q : WaSendBody) (u v : InventoryUpload)
    (hsend : DigestsApart cfg.digest p.hashed q.hashed)
    (hupload : DigestsApart admin.fingerprint (u.payload py) (v.payload py)) :
    (∀ now s key, HoldsSendKey cfg now s key p →
        ((RejectsSend cfg now s key q ∨ p.effect cfg = q.effect cfg) ↔
          (p.hashed = q.hashed → p.scope cfg = q.scope cfg))) ∧
      (∀ now startedAt s call key, HoldsSendDoc cfg now s key p →
        ((RejectsSendDoc cfg now startedAt s call key q ∨ p.effect cfg = q.effect cfg) ↔
          (p.hashed = q.hashed → p.scope cfg = q.scope cfg))) ∧
      (∀ now (key : AdminKey) (store : AdminStore β) entry, store.get? key.storeKey = some entry →
        HoldsUploadKey admin py now entry u →
          (((memoryBeginWithKey admin key (v.payload py) now store).2 =
              .rejected .reusedWithDifferentPayload ∨ u.effect py = v.effect py) ↔
            (u.payload py = v.payload py → u.raw = v.raw))) ∧
      ∀ now (key : AdminKey) (docs : AdminStore β) entry, docs.get? (admin.docId key) = some entry →
        HoldsUploadKey admin py now entry u →
          (((firestoreBeginWithKey admin key (v.payload py) now docs).2 =
              .rejected .reusedWithDifferentPayload ∨ u.effect py = v.effect py) ↔
            (u.payload py = v.payload py → u.raw = v.raw)) := by
  have hsends : (p.payloadHash cfg ≠ q.payloadHash cfg ∨ p.effect cfg = q.effect cfg) ↔
      (p.hashed = q.hashed → p.scope cfg = q.scope cfg) := by
    constructor
    · rintro (hdiffer | heffect) hhashed
      · exact absurd (congrArg cfg.digest hhashed) hdiffer
      · exact (WaSendBody.effect_eq_iff hhashed).1 heffect
    · intro hscope
      by_cases hhash : p.payloadHash cfg = q.payloadHash cfg
      · exact .inr ((WaSendBody.effect_eq_iff (hsend hhash)).2 (hscope (hsend hhash)))
      · exact .inl hhash
  have huploads : (admin.fingerprint (u.payload py) ≠ admin.fingerprint (v.payload py) ∨
      u.effect py = v.effect py) ↔ (u.payload py = v.payload py → u.raw = v.raw) := by
    constructor
    · rintro (hdiffer | heffect) hpayload
      · exact absurd (congrArg admin.fingerprint hpayload) hdiffer
      · exact (InventoryUpload.effect_eq_iff hpayload).1 heffect
    · intro hraw
      by_cases hfingerprint : admin.fingerprint (u.payload py) = admin.fingerprint (v.payload py)
      · exact .inr ((InventoryUpload.effect_eq_iff (hupload hfingerprint)).2
          (hraw (hupload hfingerprint)))
      · exact .inl hfingerprint
  refine ⟨fun now s key h => ?_, fun now startedAt s call key h => ?_,
    fun now key store entry hentry h => ?_, fun now key docs entry hentry h => ?_⟩
  · rw [rejectsSend_iff h, hsends]
  · rw [rejectsSendDoc_iff h, hsends]
  · rw [memoryRejects_iff hentry h, huploads]
  · rw [firestoreRejects_iff hentry h, huploads]

/-- Results are kept for a day; keys and payloads are told apart as they are. -/
def plainSends : WaSendConfig where
  ttlHours := 24
  sha256Hex := id
  phoneNumberId := "15550001"
  digest
    | .dict fields => String.intercalate "|" (fields.map fun field => field.2.str?.getD "")
    | _ => ""

/-- A message of a tenant. -/
def sendFor (tenantId text : String) : WaSendBody :=
  [("to", .str "+2348000001"), ("text", .str text), ("tenant_id", .str tenantId)]

/-- A message of the tenant `acme` is being sent for the key `order-7`. -/
def sendInFlight : SendState :=
  { SendState.start with
    inflight :=
      Dict.ofList [("order-7", (WaSendBody.payloadHash plainSends (sendFor "acme" "Shipped"), 0))] }

theorem sendInFlight_holds :
    HoldsSendKey plainSends 0 sendInFlight "order-7" (sendFor "acme" "Shipped") := by
  refine .inflight 0 ?_ (by decide +kernel)
  simp [evictIdempotencyStore, sendInFlight, SendState.start]

/-- Uploads told apart by the name of their file. -/
def plainUploads : AdminIdempotency UploadPayload Record where
  ttlSeconds := 86400
  pendingTtlSeconds := 120
  fingerprint payload := payload.fileName
  sha256Hex := id
  emptyBody := .empty
  mergeBody _ body := body
  mergeBody_empty _ := rfl

/-- A stock list. -/
def stockList (fileName : String) : InventoryUpload :=
  ⟨"acme-phones", some fileName, [1, 2], "admin", false, none⟩

/-- Another message under the key is rejected. -/
theorem otherText_covered :
    RejectsSend plainSends 0 sendInFlight "order-7" (sendFor "acme" "Delivered") ∨
      WaSendBody.effect plainSends (sendFor "acme" "Shipped") =
        WaSendBody.effect plainSends (sendFor "acme" "Delivered") := by
  have hdigests : plainSends.digest (WaSendBody.hashed (sendFor "acme" "Shipped")) ≠
      plainSends.digest (WaSendBody.hashed (sendFor "acme" "Delivered")) := by decide +kernel
  have hnames : plainUploads.fingerprint ((stockList "may.csv").payload .ascii) ≠
      plainUploads.fingerprint ((stockList "june.csv").payload .ascii) := by decide +kernel
  have hcover := fingerprints_cover_iff plainSends plainUploads .ascii (sendFor "acme" "Shipped")
    (sendFor "acme" "Delivered") (stockList "may.csv") (stockList "june.csv")
    (fun h => absurd h hdigests) fun h => absurd h hnames
  exact (hcover.1 0 sendInFlight "order-7" sendInFlight_holds).2 fun h =>
    absurd (congrArg plainSends.digest h) hdigests

/-- The same message for another tenant is answered with the first one's result. -/
theorem otherTenant_replayed :
    ¬ ∀ (cfg : WaSendConfig) (p q : WaSendBody), DigestsApart cfg.digest p.hashed q.hashed →
      ∀ now s key, HoldsSendKey cfg now s key p → RejectsSend cfg now s key q ∨
      p.effect cfg = q.effect cfg := by
  intro h
  rcases h plainSends (sendFor "acme" "Shipped") (sendFor "globex" "Shipped")
    (fun _ => rfl) 0 sendInFlight "order-7" sendInFlight_holds with hrejected | heffect
  · exact (rejectsSend_iff sendInFlight_holds).1 hrejected rfl
  · have htenant : PyValue.str "acme" = .str "globex" := congrArg WaSendEffect.tenantId heffect
    exact absurd (PyValue.str.inj htenant) (by decide)

end Ekaette
