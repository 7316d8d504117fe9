import Ekaette.Lib.PyMerge
import Ekaette.Admin.ConnectorWrites
import Ekaette.Configs.RegistryLoader

set_option autoImplicit false

/-! # Companies of a tenant

The company routes of `admin/routes/companies.py` with `admin/service_companies.py`. A route that
changes something answers before its idempotency preflight, or it hands over what the preflight
fingerprints and what it does afterwards. -/

namespace Ekaette

/-! ## Answers -/

/-- A `JSONResponse`. -/
structure AdminResponse where
  status : ℤ
  body : PyValue

/-- A response with an error. -/
def adminError (status : ℤ) (error code : String) (rest : List (String × PyValue)) :
    AdminResponse :=
  ⟨status, .dict ([("error", .str error), ("code", .str code)] ++ rest)⟩

/-- `body["company"]` -/
def AdminResponse.company (r : AdminResponse) : PyValue :=
  PyValue.lookupD (r.body.dict?.getD []) "company"

/-- The companies, by tenant and company id. -/
abbrev AdminRegistry := Dict (String × String) Record

structure AdminSettings where
  py : StrMethods
  /-- the ids of the templates in `build_onboarding_config`, where it does not raise -/
  onboardingTemplateIds : String → AdminRegistry → Option (List String)

/-- What a request meets. -/
structure AdminEnv where
  /-- `datetime.now(timezone.utc).isoformat()` -/
  nowIso : String
  /-- the registry is read -/
  reads : Bool
  /-- the registry is written; a write that is not served raises without effect -/
  writes : Bool

/-- What a route leaves to the preflight: the payload that is fingerprinted, and what follows, with
    the response that is committed or one that is not. -/
structure PreparedRequest where
  fingerprinted : PyValue
  outcome : AdminRegistry × Except AdminResponse AdminResponse

/-- A route up to its preflight: it answers, or it is prepared. -/
abbrev AdminRoute := AdminEnv → AdminRegistry → Except AdminResponse PreparedRequest

def tenantForbidden (tenantId : String) : AdminResponse :=
  adminError 403 "Tenant not allowed" "TENANT_FORBIDDEN" [("tenantId", .str tenantId)]

def companyNotFound (tenantId companyId : String) : AdminResponse :=
  adminError 404 "Company not found for tenant" "COMPANY_NOT_FOUND"
    [("tenantId", .str tenantId), ("companyId", .str companyId)]

def storageUnavailable (rest : List (String × PyValue)) : AdminResponse :=
  adminError 503 "Registry storage unavailable" "REGISTRY_STORAGE_UNAVAILABLE" rest

def invalidTemplateId : AdminResponse :=
  adminError 400 "Invalid industryTemplateId" "INVALID_TEMPLATE_ID" []

def invalidDisplayName : AdminResponse :=
  adminError 400 "Invalid displayName" "INVALID_DISPLAY_NAME" []

def invalidStatus : AdminResponse := adminError 400 "Invalid status" "INVALID_STATUS" []

variable (py : StrMethods)

/-- `_normalize_company_id_strict`. -/
def normalizeCompanyIdStrict (raw : String) : Option String :=
  (some (py.lower (PyStr.strip raw))).filter idMatches

/-! ## Documents -/

/-- What a request makes of the fields of a company. -/
structure CompanyFields where
  industryTemplateId : String
  displayName : String
  status : String
  connectors : Record
  overview : String
  facts : Record
  links : List PyValue

/-- `[str(link).strip() for link in links if str(link).strip()]` -/
def cleanLinks (links : List PyValue) : List PyValue :=
  ((links.map (fun link => PyStr.strip (link.toStr py))).filter (· ≠ "")).map .str

variable (tenantId companyId : String)

/-- `_admin_company_payload`. -/
def adminCompanyPayload (fields : CompanyFields) (nowIso : String) : Record :=
  .ofList [("schema_version", .int 1), ("tenant_id", .str tenantId), ("company_id", .str companyId),
    ("industry_template_id", .str fields.industryTemplateId),
    ("display_name", .str fields.displayName),
    ("status", .str fields.status), ("connectors", .dict fields.connectors.entries),
    ("overview", .str (PyStr.strip fields.overview)), ("facts", .dict fields.facts.entries),
    ("links", .list (cleanLinks py fields.links)), ("updated_at", .str nowIso)]

/-- The payload with `created_at`, where there is one. -/
def withCreatedAt (payload : Record) : Option String → Record
  | some createdAt => payload.set "created_at" (.str createdAt)
  | none => payload

/-- `set(payload, merge=True)` of the document of a company. -/
def saveCompany (registry : AdminRegistry) (tenantId companyId : String) (payload : Record) :
    AdminRegistry :=
  registry.set (tenantId, companyId)
    (((registry.get? (tenantId, companyId)).getD .empty).mergeDeep payload)

/-- `value if isinstance(value, dict) else {}` -/
def dictValue (v : PyValue) : PyValue := .dict (dictOrEmpty v)

/-- `value if isinstance(value, list) else []` -/
def listOrEmpty : PyValue → List PyValue
  | .list xs => xs
  | _ => []

/-- `dict(value)` of a field that is a map, else the empty map. -/
def mapOf (company : Record) (key : String) : Record :=
  Dict.ofList (dictOrEmpty (company.value key))

/-- `_admin_company_response`; `schema_version` is an integer wherever a company is loaded. -/
def adminCompanyResponse (company : Record) :
    PyValue :=
  let status := py.lower (PyStr.strip (((company.value "status").orElse (.str "active")).toStr py))
  .dict [("id", .str companyId),
    ("tenantId", .str tenantId),
    ("templateId",
      .str ((normalizeTemplateId py (company.value "industry_template_id").str?).getD "")),
    ("displayName", .str (((company.value "display_name").orElse
      ((company.value "name").orElse (.str companyId))).toStr py)),
    ("status", .str (if status = "" then "active" else status)),
    ("connectors", dictValue (company.value "connectors")),
    ("inventorySync", dictValue (company.value "inventory_sync")),
    ("overview", .str (((company.value "overview").orElse (.str "")).toStr py)),
    ("facts", dictValue (company.value "facts")),
    ("links", .list (listOrEmpty (company.value "links"))),
    ("schemaVersion", .int (((company.value "schema_version").orElse (.int 1)).int?.getD 1)),
    ("updatedAt", company.value "updated_at"),
    ("createdAt", company.value "created_at")]

/-- `_load_registry_company_doc`. -/
def loadRegistryCompanyDoc (env : AdminEnv) (registry : AdminRegistry)
    (tenantId companyId : String) : Except AdminResponse Record :=
  match if env.reads then registry.get? (tenantId, companyId) else none with
  | none => .error (companyNotFound tenantId companyId)
  | some company =>
    if schemaVersionSupported company then .ok company
    else .error (adminError 503 "Unsupported registry schema version"
      "REGISTRY_SCHEMA_VERSION_UNSUPPORTED"
      [("tenantId", .str tenantId), ("companyId", .str companyId)])

/-! ## Routes -/

/-- `AdminCompanyUpsertPayload`. -/
structure CompanyUpsertPayload where
  companyId : String
  displayName : String
  industryTemplateId : String
  status : String
  connectors : Record
  overview : Option String
  facts : Record
  links : List String
  tenantId : Option String

/-- `AdminCompanyUpdatePayload`. -/
structure CompanyUpdatePayload where
  displayName : Option String
  industryTemplateId : Option String
  status : Option String
  connectors : Option Record
  overview : Option String
  facts : Option Record
  links : Option (List String)
  tenantId : Option String

/-- The first complaint that applies. -/
def firstError : List (Bool × AdminResponse) → Option AdminResponse
  | [] => none
  | (applies, response) :: rest => if applies then some response else firstError rest

/-- The payload that is fingerprinted; the digest sorts the keys. -/
def CompanyFields.fingerprinted (fields : CompanyFields) : PyValue :=
  .dict [("tenantId", .str tenantId), ("companyId", .str companyId),
    ("industryTemplateId", .str fields.industryTemplateId),
    ("displayName", .str fields.displayName),
    ("status", .str fields.status), ("connectors", .dict fields.connectors.entries),
    ("facts", .dict fields.facts.entries), ("links", .list fields.links),
    ("overview", .str fields.overview)]

variable (cfg : AdminSettings)

/-- Whether the onboarding configuration has the template. -/
def checkOnboarding (registry : AdminRegistry)
    (tenantId templateId : String) : Option AdminResponse :=
  match cfg.onboardingTemplateIds tenantId registry with
  | none => some (adminError 503 "Registry onboarding config unavailable"
      "REGISTRY_ONBOARDING_CONFIG_NOT_FOUND" [("tenantId", .str tenantId)])
  | some ids =>
    if templateId ∈ ids then none
    else some (adminError 404 "Industry template not found for tenant" "TEMPLATE_NOT_FOUND"
      [("tenantId", .str tenantId), ("industryTemplateId", .str templateId)])

def statusNames : List String := ["active", "beta", "disabled"]

/-- `connectors`, `facts` and the other fields of an upsert. -/
def upsertFields (payload : CompanyUpsertPayload) : CompanyFields where
  industryTemplateId := (normalizeTemplateId py (some payload.industryTemplateId)).getD ""
  displayName := PyStr.strip payload.displayName
  status := py.lower (PyStr.strip payload.status)
  connectors := payload.connectors
  overview := payload.overview.getD ""
  facts := payload.facts
  links := payload.links.map .str

/-- `created_at` of an upsert: the stored one, where it is a string. -/
def upsertCreatedAt (stored : Record) (nowIso : String) : String :=
  (stored.value "created_at").str?.getD nowIso

/-- What an upsert does after the preflight. -/
def upsertCompany (tenantId companyId : String) (fields : CompanyFields)
    (env : AdminEnv) (registry : AdminRegistry) :
    AdminRegistry × Except AdminResponse AdminResponse :=
  match checkOnboarding cfg registry tenantId fields.industryTemplateId with
  | some response => (registry, .error response)
  | none =>
    if env.reads && env.writes then
      let stored := (registry.get? (tenantId, companyId)).getD .empty
      let created := stored.entries.isEmpty
      let payload := withCreatedAt (adminCompanyPayload cfg.py tenantId companyId fields env.nowIso)
        (some (upsertCreatedAt stored env.nowIso))
      (saveCompany registry tenantId companyId payload,
        .ok ⟨if created then 201 else 200,
          .dict [("apiVersion", .str "v1"), ("tenantId", .str tenantId),
          ("companyId", .str companyId), ("created", .bool created),
          ("company", adminCompanyResponse cfg.py tenantId companyId payload)]⟩)
    else (registry, .error (storageUnavailable [("tenantId", .str tenantId)]))

/-- `upsert_admin_company_route`. -/
def upsertAdminCompanyRoute (tenantId : String)
    (payload : CompanyUpsertPayload) : AdminRoute := fun env registry =>
  if normalizeId cfg.py tenantId payload.tenantId ≠ tenantId then .error (tenantForbidden tenantId)
  else
    match normalizeCompanyIdStrict cfg.py payload.companyId with
    | none => .error (adminError 400 "Invalid companyId" "INVALID_COMPANY_ID" [])
    | some companyId =>
      let fields := upsertFields cfg.py payload
      match firstError [(fields.industryTemplateId = "", invalidTemplateId),
        (fields.displayName = "", invalidDisplayName),
        (fields.status ∉ statusNames, invalidStatus)] with
      | some response => .error response
      | none => .ok ⟨fields.fingerprinted tenantId companyId,
          upsertCompany cfg tenantId companyId fields env registry⟩

/-- The fields of an update: where the request has none, the stored ones. -/
def updateFields (companyId : String) (payload : CompanyUpdatePayload)
    (company : Record) : CompanyFields where
  displayName := match payload.displayName with
    | some name => PyStr.strip name
    | none => ((company.value "display_name").orElse
        ((company.value "name").orElse (.str companyId))).toStr py
  industryTemplateId := (match payload.industryTemplateId with
    | some id => normalizeTemplateId py (some id)
    | none => normalizeTemplateId py (company.value "industry_template_id").str?).getD ""
  status := py.lower (PyStr.strip (match payload.status with
    | some status => status
    | none => ((company.value "status").orElse (.str "active")).toStr py))
  connectors := payload.connectors.getD (mapOf company "connectors")
  overview := payload.overview.getD (((company.value "overview").orElse (.str "")).toStr py)
  facts := payload.facts.getD (mapOf company "facts")
  links := match payload.links with
    | some links => links.map .str
    | none => listOrEmpty (company.value "links")

/-- `created_at` of an update: the stored one, where it is a string that is not empty. -/
def updateCreatedAt (company : Record) : Option String :=
  (company.value "created_at").str?.filter (· ≠ "")

/-- What an update does after the preflight. -/
def updateCompanyDoc (tenantId companyId : String) (fields : CompanyFields)
    (company : Record) (env : AdminEnv) (registry : AdminRegistry) :
    AdminRegistry × Except AdminResponse AdminResponse :=
  let payload := withCreatedAt (adminCompanyPayload cfg.py tenantId companyId fields env.nowIso)
    (updateCreatedAt company)
  if env.writes then
    (saveCompany registry tenantId companyId payload,
      .ok ⟨200, .dict [("apiVersion", .str "v1"), ("tenantId", .str tenantId),
        ("companyId", .str companyId),
        ("updated", .bool true),
        ("company", adminCompanyResponse cfg.py tenantId companyId payload)]⟩)
  else (registry, .error (storageUnavailable [("tenantId", .str tenantId)]))

/-- `update_admin_company_route`. -/
def updateAdminCompanyRoute (tenantId rawCompanyId : String)
    (payload : CompanyUpdatePayload) : AdminRoute := fun env registry =>
  match normalizeCompanyIdStrict cfg.py rawCompanyId with
  | none => .error (companyNotFound tenantId (cfg.py.lower (PyStr.strip rawCompanyId)))
  | some companyId =>
    if normalizeId cfg.py tenantId payload.tenantId ≠ tenantId then .error
      (tenantForbidden tenantId)
    else
      match loadRegistryCompanyDoc env registry tenantId companyId with
      | .error response => .error response
      | .ok company =>
        let fields := updateFields cfg.py companyId payload company
        match firstError [(fields.displayName = "", invalidDisplayName),
          (fields.industryTemplateId = "", invalidTemplateId),
          (fields.status ∉ statusNames, invalidStatus)] with
        | some response => .error response
        | none =>
          match checkOnboarding cfg registry tenantId fields.industryTemplateId with
          | some response => .error response
          | none => .ok ⟨fields.fingerprinted tenantId companyId,
              updateCompanyDoc cfg tenantId companyId fields company env registry⟩

/-- `get_admin_company_route`. -/
def getAdminCompanyRoute (tenantId rawCompanyId : String) (env : AdminEnv)
    (registry : AdminRegistry) : Except AdminResponse AdminResponse :=
  match normalizeCompanyIdStrict cfg.py rawCompanyId with
  | none => .error (companyNotFound tenantId (cfg.py.lower (PyStr.strip rawCompanyId)))
  | some companyId =>
    match loadRegistryCompanyDoc env registry tenantId companyId with
    | .error response => .error response
    | .ok company => .ok ⟨200, .dict [("apiVersion", .str "v1"), ("tenantId", .str tenantId),
        ("companyId", .str companyId),
        ("company", adminCompanyResponse cfg.py tenantId companyId company)]⟩

end Ekaette
