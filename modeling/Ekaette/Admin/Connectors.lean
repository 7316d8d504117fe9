import Ekaette.Admin.CompanyReads
import Ekaette.Lib.PyNumber

set_option autoImplicit false

/-! # Connectors of a company

The connector routes of `admin/routes/connectors.py` with `admin/service_connectors.py`, and the
deletion of a company. Requests are handled one after the other here; what happens when they overlap
is in `Admin.ConnectorWrites`. -/

namespace Ekaette

/-! ## Settings -/

structure ConnectorSettings extends AdminSettings where
  /-- `_effective_mcp_provider_catalog()` -/
  providerCatalog : Dict String Record
  /-- the templates that have a policy, by their id -/
  templatePolicies : Dict String Record
  requireTestPolicy : Bool
  timeoutSeconds : PyFloat
  maxRetries : ℤ
  circuitOpenAfterFailures : ℤ
  circuitOpenSeconds : ℤ

/-- What a connector request meets. -/
structure ConnectorEnv extends AdminEnv where
  /-- the lock of the connector is acquired -/
  lockFree : Bool
  /-- the company is read again under the lock -/
  readsAgain : Bool
  /-- the field of the connector is written -/
  fieldWrites : Bool
  /-- what was deleted along with a company -/
  deletedCounts : PyValue

/-- A route of a connector, up to its preflight. -/
abbrev ConnectorRoute := ConnectorEnv → AdminRegistry → Except AdminResponse PreparedRequest

/-- `_CONNECTOR_ID_PATTERN.fullmatch`. -/
def connectorIdMatches (s : String) : Bool :=
  match s.toList with
  | [] => false
  | c :: cs =>
    (c.isLower || c.isDigit) && decide (1 ≤ cs.length) && decide (cs.length ≤ 79) &&
      cs.all (fun c => c.isLower || c.isDigit || c = '_' || c = '-')

/-- `_normalize_connector_id`. -/
def normalizeConnectorId (py : StrMethods) (raw : Option String) : Option String :=
  (raw.map (fun s => py.lower (PyStr.strip s))).filter connectorIdMatches

/-- `_template_policy_config`. -/
def templatePolicyConfig (cfg : ConnectorSettings) (templateId : String) : Record :=
  match normalizeTemplateId cfg.py (some templateId) with
  | none => .empty
  | some id => (cfg.templatePolicies.get? id).getD .empty

/-- `str(item).strip().lower()` of the items of a list that are not blank. -/
def policyStrings (py : StrMethods) (v : PyValue) : List String :=
  (((listOrEmpty v).map (fun item => PyStr.strip (item.toStr py))).filter (· ≠ "")).map py.lower

/-! ## Inline secrets -/

def forbiddenSecretKeys : List String := ["password", "token", "api_key", "apikey", "secret"]

mutual

/-- `_collect_forbidden_secret_paths`. -/
def collectForbiddenSecretPaths (py : StrMethods) (path : String) : PyValue → List String
  | .dict entries => forbiddenPathsOfEntries py path entries
  | .list items => forbiddenPathsOfItems py path 0 items
  | _ => []

def forbiddenPathsOfEntries (py : StrMethods) (path : String) :
    List (String × PyValue) → List String
  | [] => []
  | (rawKey, child) :: entries =>
    let key := PyStr.strip rawKey
    let dotted := if path = "" then key else path ++ "." ++ key
    (if py.lower key ∈ forbiddenSecretKeys then [dotted] else []) ++
      collectForbiddenSecretPaths py dotted child ++ forbiddenPathsOfEntries py path entries

def forbiddenPathsOfItems (py : StrMethods) (path : String) (index : ℕ) : List PyValue → List String
  | [] => []
  | child :: items =>
    let itemPath :=
      if path = "" then "[" ++ toString index ++ "]" else path ++ "[" ++ toString index ++ "]"
    collectForbiddenSecretPaths py itemPath child ++ forbiddenPathsOfItems py path (index + 1) items

end

/-- `sorted(findings)` of a set. -/
def sortedPaths (findings : List String) : PyValue :=
  .list ((findings.dedup.mergeSort (fun a b => !decide (b < a))).map .str)

/-! ## The policy of a connector -/

/-- `AdminConnectorPayload`. -/
structure ConnectorPayload where
  connectorId : Option String
  provider : String
  enabled : Bool
  capabilities : List String
  secretRef : Option String
  config : Record

/-- `payload.model_dump(by_alias=True)`. -/
def ConnectorPayload.dump (payload : ConnectorPayload) : PyValue :=
  let text : Option String → PyValue
    | some s => .str s
    | none => .none
  .dict [("connectorId", text payload.connectorId), ("provider", .str payload.provider),
    ("enabled", .bool payload.enabled), ("capabilities", .list (payload.capabilities.map .str)),
    ("secretRef", text payload.secretRef), ("config", .dict payload.config.entries)]

/-- `_safe_float`; `none` where it raises. -/
def safeFloat (v : PyValue) (default : PyFloat) : Option PyFloat :=
  match v.toFloat with
  | .ok parsed => some (if parsed.gt (.fin 0) then parsed else default)
  | .error .overflowError => none
  | .error _ => some default

/-- `_safe_int`; `none` where it raises. -/
def safeInt (py : StrMethods) (v : PyValue) (default minimum : ℤ) : Option ℤ :=
  match v.toInt py with
  | .ok parsed => some (if minimum ≤ parsed then parsed else default)
  | .error .overflowError => none
  | .error _ => some default

variable (cfg : ConnectorSettings)

/-- The numbers of a test policy, with their defaults. -/
def testPolicyValues (raw : Record) : Option PyValue := do
  let timeoutSeconds ← safeFloat (raw.value "timeoutSeconds") cfg.timeoutSeconds
  let maxRetries ← safeInt cfg.py (raw.value "maxRetries") cfg.maxRetries 0
  let failures ← safeInt cfg.py (raw.value "circuitOpenAfterFailures") cfg.circuitOpenAfterFailures
    1
  let seconds ← safeInt cfg.py (raw.value "circuitOpenSeconds") cfg.circuitOpenSeconds 1
  pure (.dict [("timeoutSeconds", .float timeoutSeconds), ("maxRetries", .int maxRetries),
    ("circuitOpenAfterFailures", .int failures), ("circuitOpenSeconds", .int seconds),
    ("allowedHosts", .list ((policyStrings cfg.py (raw.value "allowedHosts")).map .str))])

/-- An exception that nothing catches. -/
def internalServerError : AdminResponse := ⟨500, .str "Internal Server Error"⟩

/-- `_normalize_connector_test_policy`. -/
def normalizeConnectorTestPolicy (provider : String)
    (providerPolicy : Record) : Except AdminResponse PyValue :=
  let raw := providerPolicy.value "testPolicy"
  if raw.dict?.isNone && cfg.requireTestPolicy && provider ≠ "mock" then
    .error (adminError 503 "Connector provider test policy is missing"
      "CONNECTOR_PROVIDER_POLICY_MISSING" [("provider", .str provider)])
  else
    match testPolicyValues cfg (Dict.ofList (dictOrEmpty raw)) with
    | some policy => .ok policy
    | none => .error internalServerError

/-- `bool(provider_policy.get("requiresSecretRef", provider != "mock"))` -/
def requiresSecretRef (provider : String) (providerPolicy : Record) : Bool :=
  ((providerPolicy.get? "requiresSecretRef").getD (.bool (provider ≠ "mock"))).truthy

/-- `allowed and value not in allowed`; an empty policy allows everything. -/
def notAllowed (allowed : List String) (value : String) : Bool :=
  !allowed.isEmpty && !allowed.contains value

/-- The connector as it is stored. -/
def connectorEntry (connectorId provider : String) (enabled : Bool) (capabilities : List String)
    (config : Record) (runtimePolicy : PyValue) (secretRef : String) : Record :=
  let entry := Dict.ofList [("id", .str connectorId), ("provider", .str provider),
    ("enabled", .bool enabled),
    ("capabilities", .list (capabilities.map .str)), ("config", .dict config.entries),
    ("runtime_policy", runtimePolicy)]
  if secretRef = "" then entry else entry.set "secret_ref" (.str secretRef)

/-- `_normalize_connector_payload`. -/
def normalizeConnectorPayload (connectorId : String)
    (payload : ConnectorPayload) (industryTemplateId : String) : Except AdminResponse Record :=
  match normalizeConnectorId cfg.py (some connectorId) with
  | none => .error (adminError 400 "Invalid connector id" "INVALID_CONNECTOR_ID" [])
  | some connectorId =>
    let provider := cfg.py.lower (PyStr.strip payload.provider)
    match cfg.providerCatalog.get? provider with
    | none =>
      .error (adminError 400 "Connector provider not allowed" "CONNECTOR_PROVIDER_NOT_ALLOWED"
        [("provider", .str provider)])
    | some providerPolicy =>
      let templatePolicy := templatePolicyConfig cfg industryTemplateId
      let secretRef := PyStr.strip (payload.secretRef.getD "")
      let forbidden := collectForbiddenSecretPaths cfg.py "" (.dict payload.config.entries)
      let capabilities := policyStrings cfg.py (.list (payload.capabilities.map .str))
      match firstError [
        (notAllowed (policyStrings cfg.py (templatePolicy.value "allowed_provider_ids")) provider,
          adminError 400 "Connector provider not allowed for template"
            "CONNECTOR_PROVIDER_NOT_ALLOWED_FOR_TEMPLATE"
            [("provider", .str provider), ("industryTemplateId", .str industryTemplateId)]),
        (notAllowed (policyStrings cfg.py (templatePolicy.value "allowed_connector_ids"))
          connectorId,
          adminError 400 "Connector id not allowed for template"
          "CONNECTOR_ID_NOT_ALLOWED_FOR_TEMPLATE"
            [("connectorId", .str connectorId), ("industryTemplateId", .str industryTemplateId)]),
        (requiresSecretRef provider providerPolicy && secretRef = "",
          adminError 400 "Connector secretRef is required for this provider"
            "CONNECTOR_SECRET_REF_REQUIRED" [("provider", .str provider)]),
        (!forbidden.isEmpty,
          adminError 400 "Inline secrets are forbidden in connector config"
            "CONNECTOR_INLINE_SECRET_FORBIDDEN" [("keys", sortedPaths forbidden)]),
        (capabilities.any (notAllowed (policyStrings cfg.py (providerPolicy.value "capabilities"))),
          adminError 400 "Connector capability not allowed for provider"
            "CONNECTOR_CAPABILITY_NOT_ALLOWED" [("provider", .str provider)]),
        (capabilities.any
          (notAllowed (policyStrings cfg.py (templatePolicy.value "max_capabilities"))),
          adminError 400 "Connector capability not allowed for template"
            "CONNECTOR_CAPABILITY_NOT_ALLOWED_FOR_TEMPLATE"
            [("industryTemplateId", .str industryTemplateId)])] with
      | some response => .error response
      | none =>
        match normalizeConnectorTestPolicy cfg provider providerPolicy with
        | .error response => .error response
        | .ok runtimePolicy => .ok (connectorEntry connectorId provider payload.enabled capabilities
            payload.config runtimePolicy secretRef)

/-! ## Routes -/

def connectorNotFound : AdminResponse :=
  adminError 404 "Connector not found" "CONNECTOR_NOT_FOUND" []

/-- The write of a connector: its field, or else the whole company; `none` where neither is
    served. -/
def storeConnector (env : ConnectorEnv) (registry : AdminRegistry) (tenantId companyId : String)
    (company : Record) (change : ConnectorChange) : Option AdminRegistry :=
  let changed := (withConnectors company (change.apply (connectorsOf company))).set "updated_at"
    (.str env.nowIso)
  if env.fieldWrites then some (registry.set (tenantId, companyId) changed)
  else if env.writes then some (saveCompany registry tenantId companyId changed)
  else none

/-- What the connector routes do under the lock, if the presence of the connector is as `present`
    says. -/
def writeUnderLock (env : ConnectorEnv) (registry : AdminRegistry) (tenantId companyId connectorId :
    String) (change : ConnectorChange) (present : Bool) (refusal response : AdminResponse) :
    AdminRegistry × Except AdminResponse AdminResponse :=
  if env.lockFree then
    match loadRegistryCompanyDoc { env.toAdminEnv with reads := env.readsAgain } registry tenantId
        companyId with
    | .error response => (registry, .error response)
    | .ok company =>
      if (connectorsOf company).contains connectorId = present then
        match storeConnector env registry tenantId companyId company change with
        | some stored => (stored, .ok response)
        | none => (registry, .error (storageUnavailable []))
      else (registry, .error refusal)
  else (registry,
    .error (adminError 409 "Connector update already in progress" "CONNECTOR_WRITE_IN_PROGRESS" []))

/-- The body of an answer about a connector. -/
def connectorBody (tenantId companyId connectorId : String) (rest : List (String × PyValue)) :
    PyValue :=
  .dict ([("apiVersion", .str "v1"), ("tenantId", .str tenantId), ("companyId", .str companyId),
    ("connectorId", .str connectorId)] ++ rest)

/-- A connector that is put in its place, unless its payload is turned down. -/
def putConnector (env : ConnectorEnv) (registry : AdminRegistry)
    (tenantId companyId connectorId : String) (payload : ConnectorPayload) (company : Record)
    (present : Bool) (refusal : AdminResponse) (status : ℤ) (done : String) :
    AdminRegistry × Except AdminResponse AdminResponse :=
  match normalizeConnectorPayload cfg connectorId payload
      (((company.value "industry_template_id").orElse (.str "")).toStr cfg.py) with
  | .error response => (registry, .error response)
  | .ok connector => writeUnderLock env registry tenantId companyId connectorId
      (.put connectorId (.dict connector.entries)) present refusal
      ⟨status, connectorBody tenantId companyId connectorId
        [("connector", .dict connector.entries), (done, .bool true)]⟩

/-- `create_admin_company_connector_route`. -/
def createAdminCompanyConnectorRoute (tenantId rawCompanyId : String)
    (payload : ConnectorPayload) : ConnectorRoute := fun env registry =>
  match normalizeCompanyIdStrict cfg.py rawCompanyId,
      normalizeConnectorId cfg.py payload.connectorId with
  | some companyId, some connectorId =>
    match loadRegistryCompanyDoc env.toAdminEnv registry tenantId companyId with
    | .error response => .error response
    | .ok company => .ok
        ⟨.dict [("companyId", .str companyId), ("connectorId", .str connectorId),
          ("payload", payload.dump)],
          putConnector cfg env registry tenantId companyId connectorId payload company false
            (adminError 409 "Connector already exists" "CONNECTOR_ALREADY_EXISTS" []) 201 "created"⟩
  | _, _ => .error (adminError 400 "Invalid connectorId" "INVALID_CONNECTOR_ID" [])

variable (tenantId rawCompanyId rawConnectorId : String)

/-- What the routes of a stored connector check before their preflight: the company that has it. -/
def loadConnectorCompany
    (mismatch : String → Bool) (env : ConnectorEnv) (registry : AdminRegistry) :
    Except AdminResponse (String × String × Record) :=
  match normalizeCompanyIdStrict cfg.py rawCompanyId,
      normalizeConnectorId cfg.py (some rawConnectorId) with
  | some companyId, some connectorId =>
    if mismatch connectorId then .error
      (adminError 409 "Connector id mismatch" "CONNECTOR_ID_MISMATCH" [])
    else
      match loadRegistryCompanyDoc env.toAdminEnv registry tenantId companyId with
      | .error response => .error response
      | .ok company =>
        if (connectorsOf company).contains connectorId then .ok (companyId, connectorId, company)
        else .error connectorNotFound
  | _, _ => .error connectorNotFound

/-- The payload names another connector than the path does. -/
def ConnectorPayload.mismatch (py : StrMethods) (payload : ConnectorPayload)
    (connectorId : String) : Bool :=
  match normalizeConnectorId py payload.connectorId with
  | none => false
  | some id => id ≠ connectorId

/-- `update_admin_company_connector_route`. -/
def updateAdminCompanyConnectorRoute
    (payload : ConnectorPayload) : ConnectorRoute := fun env registry =>
  match loadConnectorCompany cfg tenantId rawCompanyId rawConnectorId (payload.mismatch cfg.py) env
      registry with
  | .error response => .error response
  | .ok (companyId, connectorId, company) => .ok
      ⟨.dict [("companyId", .str companyId), ("connectorId", .str connectorId),
        ("payload", payload.dump)],
        putConnector cfg env registry tenantId companyId connectorId payload company true
          connectorNotFound 200 "updated"⟩

/-- `delete_admin_company_connector_route`. -/
def deleteAdminCompanyConnectorRoute : ConnectorRoute := fun env registry =>
  match loadConnectorCompany cfg tenantId rawCompanyId rawConnectorId (fun _ => false) env
      registry with
  | .error response => .error response
  | .ok (companyId, connectorId, _) => .ok
      ⟨.dict [("companyId", .str companyId), ("connectorId", .str connectorId)],
        writeUnderLock env registry tenantId companyId connectorId (.remove connectorId) true
        connectorNotFound
          ⟨200, connectorBody tenantId companyId connectorId [("deleted", .bool true)]⟩⟩

/-- `delete_admin_company_route`. -/
def deleteAdminCompanyRoute (tenantId rawCompanyId : String) :
    ConnectorRoute :=
  fun env registry =>
    match normalizeCompanyIdStrict cfg.py rawCompanyId with
    | none => .error (adminError 404 "Company not found for tenant" "COMPANY_NOT_FOUND" [])
    | some companyId =>
      match loadRegistryCompanyDoc env.toAdminEnv registry tenantId companyId with
      | .error response => .error response
      | .ok _ => .ok ⟨.dict [("companyId", .str companyId)],
          if env.writes then
            (registry.erase (tenantId, companyId),
              .ok ⟨200, .dict [("apiVersion", .str "v1"), ("tenantId", .str tenantId),
                ("companyId", .str companyId), ("deleted", env.deletedCounts)]⟩)
          else (registry, .error (storageUnavailable []))⟩

/-! ## Requests -/

/-- A request that changes the registry, of a tenant that is allowed. -/
inductive RegistryRequest where
  | writeCompany (w : CompanyWrite)
  | deleteCompany (companyId : String)
  | createConnector (companyId : String) (payload : ConnectorPayload)
  | updateConnector (companyId connectorId : String) (payload : ConnectorPayload)
  | deleteConnector (companyId connectorId : String)

def RegistryRequest.route (tenantId : String) :
    RegistryRequest → ConnectorRoute
  | .writeCompany w => fun env => w.route cfg.toAdminSettings tenantId env.toAdminEnv
  | .deleteCompany companyId => deleteAdminCompanyRoute cfg tenantId companyId
  | .createConnector companyId payload =>
    createAdminCompanyConnectorRoute cfg tenantId companyId payload
  | .updateConnector companyId connectorId payload =>
    updateAdminCompanyConnectorRoute cfg tenantId companyId connectorId payload
  | .deleteConnector companyId connectorId =>
    deleteAdminCompanyConnectorRoute cfg tenantId companyId connectorId

end Ekaette
