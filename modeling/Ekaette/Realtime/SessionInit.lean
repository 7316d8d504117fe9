import Ekaette.Lib.EventMachine
import Ekaette.Tools.ScopedQueries

set_option autoImplicit false

/-! # Opening sessions

`initialize_session` of `realtime/session_init.py` opens voice sessions, `_ensure_session` of
`channels/adk_text_adapter.py` text sessions. Both write `app:` keys, which the session service
keeps once for the whole app and merges into every session of the app when it is fetched.

An opening reads the session, loads what it needs, and writes; other openings can come between, so
the read and the write are two steps. -/

namespace Ekaette

/-- A company of a tenant. -/
structure CompanyScope where
  tenantId : String
  companyId : String
  deriving DecidableEq

structure SessionConfig where
  py : StrMethods
  /-- `REGISTRY_ENABLED` -/
  registryEnabled : Bool
  /-- `DEFAULT_COMPANY_ID` -/
  defaultCompanyId : String
  /-- `TOKEN_ALLOWED_TENANTS` -/
  allowedTenants : List String

variable (cfg : SessionConfig)

/-- `_tenant_allowed`. -/
def SessionConfig.tenantAllowed (tenantId : String) : Bool :=
  cfg.allowedTenants.isEmpty || decide (tenantId ∈ cfg.allowedTenants)

/-! ## Ids -/

/-- `_TENANT_ID_PATTERN.fullmatch` and `_COMPANY_ID_PATTERN.fullmatch`. -/
def idMatches (s : String) : Bool :=
  match s.toList with
  | [] => false
  | c :: cs =>
    (c.isLower || c.isDigit) && decide (1 ≤ cs.length) && decide (cs.length ≤ 63) &&
      cs.all (fun c => c.isLower || c.isDigit || c = '_' || c = '-')

/-- An id from outside in its normal form, or the default. -/
def normalizeId (py : StrMethods) (default : String) : Option String → String
  | none => default
  | some raw =>
    let normalized := py.lower (PyStr.strip raw)
    if normalized = "" then default
    else if idMatches normalized then normalized else default

/-- `_normalize_company_id`. -/
def normalizeCompanyId (raw : Option String) : String :=
  normalizeId cfg.py cfg.defaultCompanyId raw

/-- `_normalize_tenant_id`. -/
def normalizeTenantId (raw : Option String) (default : String) : String :=
  normalizeId cfg.py default raw

/-- The tenant and the company of a validated token. -/
structure TokenScope where
  tenantId : String
  companyId : String

/-- What a websocket connection asks for: the query parameters, and the token where tokens are
    required. -/
structure WsRequest where
  userId : String
  sessionId : String
  /-- `tenant_id`, then `tenantId` -/
  tenantId : Option String
  tenantIdAlias : Option String
  /-- `company_id`, then `companyId` -/
  companyId : Option String
  companyIdAlias : Option String
  claims : Option TokenScope

/-- `tenant_id` and `company_id` before the session is looked up: what a token says takes
    precedence. -/
def WsRequest.scope (req : WsRequest) : CompanyScope :=
  let tenantId :=
    normalizeTenantId cfg ((req.tenantId.filter (· ≠ "")).or req.tenantIdAlias) "public"
  let companyId := normalizeCompanyId cfg
    (req.companyId.or (req.companyIdAlias.or (some cfg.defaultCompanyId)))
  match req.claims with
  | none => ⟨tenantId, companyId⟩
  | some claims =>
    ⟨if claims.tenantId ≠ "" then claims.tenantId else tenantId,
      if claims.companyId ≠ "" then claims.companyId else companyId⟩

/-- `value if isinstance(value, str) and value.strip()` of a key of the state. -/
def stateText (state : Record) (key : String) : Option String :=
  (state.value key).str?.filter (fun s => PyStr.strip s ≠ "")

/-- `tenant_id` and `company_id` once a session was found with this state: without a token the state
    decides, with one a state of another company is refused. -/
def resumedScope (req : WsRequest) (state : Record) (scope : CompanyScope) :
    Option CompanyScope :=
  let company := (stateText state "app:company_id").map (fun s => normalizeCompanyId cfg (some s))
  let tenant := (stateText state "app:tenant_id").map
    (fun s => normalizeTenantId cfg (some s) scope.tenantId)
  match req.claims with
  | some _ =>
    if company.any (fun c => c ≠ "" && c ≠ scope.companyId) then none
    else if tenant.any (fun t => t ≠ "" && t ≠ scope.tenantId) then none
    else some scope
  | none => some ⟨tenant.getD scope.tenantId, company.getD scope.companyId⟩

/-! ## State payloads -/

/-- The profile and the knowledge of a company, as `build_company_session_state` normalizes them. -/
structure CompanyGrounding where
  profile : PyValue
  knowledge : PyValue

/-- `normalized_id` of a company. -/
def buildCompanyId (py : StrMethods) (companyId : String) : String :=
  let normalized := py.lower (PyStr.strip (if companyId = "" then "default" else companyId))
  if normalized = "" then "default" else normalized

/-- `build_company_session_state`. -/
def buildCompanySessionState (py : StrMethods) (companyId : String) (grounding : CompanyGrounding) :
    Record :=
  .ofList [("app:company_id", .str (buildCompanyId py companyId)),
    ("app:company_profile", grounding.profile), ("app:company_knowledge", grounding.knowledge)]

/-- `ResolvedRegistryConfig`, as far as the openings look for its keys later. -/
structure RegistryConfig where
  industryTemplateId : String
  capabilities : PyValue
  registryVersion : String

/-- `canonical_state_updates_from_registry` of the configuration resolved for a tenant. -/
def canonicalStateUpdates (tenantId : String) (registry : RegistryConfig) : Record :=
  .ofList [("app:tenant_id", .str tenantId),
    ("app:industry_template_id", .str registry.industryTemplateId),
    ("app:capabilities", registry.capabilities),
    ("app:registry_version", .str registry.registryVersion)]

/-- `initial_state` of a fresh voice session. -/
def freshVoiceState (scope : CompanyScope) (grounding : CompanyGrounding)
    (registry : Option RegistryConfig) : Record :=
  let state := buildCompanySessionState cfg.py scope.companyId grounding
  let state := match registry with
    | some config => state.merge (canonicalStateUpdates scope.tenantId config)
    | none => state
  state.setDefault "app:tenant_id" (.str scope.tenantId)

/-- `state_updates` of a resumed voice session: the keys it has not got. -/
def resumedStateUpdates (state : Record) (scope : CompanyScope)
    (grounding : CompanyGrounding) (registry : Option RegistryConfig) : Record :=
  let updates : Record := .empty
  let updates := if state.contains "app:tenant_id" then updates
    else updates.set "app:tenant_id" (.str scope.tenantId)
  let updates := if state.contains "app:company_profile" && state.contains
      "app:company_knowledge" && state.contains "app:company_id" then updates
    else updates.merge (buildCompanySessionState cfg.py scope.companyId grounding)
  if cfg.registryEnabled && !(state.contains "app:tenant_id" &&
      state.contains "app:industry_template_id" && state.contains "app:capabilities" &&
      state.contains "app:registry_version") then
    match registry with
    | some config => updates.merge (canonicalStateUpdates scope.tenantId config)
    | none => updates
  else updates

/-- `initial_state` of a text session. -/
def textState (scope : CompanyScope) (registry : Option RegistryConfig) :
    Record :=
  let state : Record :=
    .ofList [("app:tenant_id", .str scope.tenantId), ("app:company_id", .str scope.companyId)]
  match if cfg.registryEnabled then registry else none with
  | none => state
  | some config =>
    let state := state.set "app:industry_template_id" (.str config.industryTemplateId)
    let state := if config.capabilities.truthy then state.set "app:capabilities" config.capabilities
      else state
    if config.registryVersion ≠ "" then
      state.set "app:registry_version" (.str config.registryVersion)
    else state

/-! ## The openings -/

inductive OpeningKind where
  | freshVoice
  /-- with the state of the session that was found -/
  | resumedVoice (state : Record)
  | text

/-- An opening that has read the session and is going to write. -/
structure Opening where
  userId : String
  sessionId : String
  /-- `tenant_id` and `company_id` -/
  scope : CompanyScope
  kind : OpeningKind

/-- The tenant and the company the opening is for: a voice session writes the id its company is
    stored under. -/
def Opening.openedFor (o : Opening) : CompanyScope :=
  match o.kind with
  | .text => o.scope
  | _ => ⟨o.scope.tenantId, buildCompanyId cfg.py o.scope.companyId⟩

/-- The sessions of one app name. -/
structure AppSessions where
  /-- the `app:` keys, stored once -/
  appState : Record
  /-- by user and session id: the tenant and the company the session was opened for -/
  sessions : Dict (String × String) CompanyScope
  /-- the openings between their read and their write -/
  pending : Dict ℕ Opening
  /-- the number of the next opening -/
  nextOpening : ℕ

def AppSessions.start : AppSessions := ⟨.empty, .empty, .empty, 0⟩

inductive SessionEvent where
  /-- `initialize_session`, up to the lookup of the session. -/
  | connect (req : WsRequest)
  /-- `_ensure_session`, up to the lookup of the session. -/
  | message (userId sessionId : String) (scope : CompanyScope)
  /-- An opening has loaded what it needs and writes. -/
  | proceed (opening : ℕ) (grounding : CompanyGrounding) (registry : Option RegistryConfig)
  /-- An opening is refused or raises before it writes. -/
  | abandon (opening : ℕ)
  /-- An agent runs in a session, which it fetches. -/
  | run (userId sessionId : String)

inductive SessionRefusal where
  | tenantForbidden
  | sessionScopeMismatch
  | registryConfigNotFound
  deriving DecidableEq

inductive SessionAnswer where
  | ignored
  | refused (reason : SessionRefusal)
  | suspended
  /-- the session is there already, and nothing is written -/
  | found
  /-- the opening, for that tenant and company, has written these keys -/
  | opened (scope : CompanyScope) (updates : Record)
  /-- the tools run in a session that was opened for that tenant and company, with that state -/
  | runs (scope : CompanyScope) (state : Record)

namespace AppSessions

variable (s : AppSessions)

/-- An opening waits for what it loads. -/
def suspend (o : Opening) : AppSessions × SessionAnswer :=
  ({ s with pending := s.pending.set s.nextOpening o, nextOpening := s.nextOpening + 1 },
    .suspended)

def without (opening : ℕ) : AppSessions :=
  { s with pending := s.pending.erase opening }

/-- `create_session`: it raises if the session has come to be since. -/
def createSession (o : Opening) (state : Record) :
    AppSessions × SessionAnswer :=
  if s.sessions.contains (o.userId, o.sessionId) then (s, .ignored)
  else
    ({ s with
        appState := s.appState.merge state
        sessions := s.sessions.set (o.userId, o.sessionId) (o.openedFor cfg) },
      .opened (o.openedFor cfg) state)

/-- `async_save_session_state`: an event with the updates is appended. -/
def saveState (o : Opening) (updates : Record) :
    AppSessions × SessionAnswer :=
  ({ s with appState := s.appState.merge updates }, .opened (o.openedFor cfg) updates)

/-- The write of an opening. -/
def write (o : Opening) (grounding : CompanyGrounding)
    (registry : Option RegistryConfig) : AppSessions × SessionAnswer :=
  match o.kind with
  | .freshVoice =>
    if cfg.registryEnabled then
      match registry with
      | none => (s, .refused .registryConfigNotFound)
      | some config => s.createSession cfg o (freshVoiceState cfg o.scope grounding (some config))
    else s.createSession cfg o (freshVoiceState cfg o.scope grounding none)
  | .resumedVoice state =>
    s.saveState cfg o (resumedStateUpdates cfg state o.scope grounding registry)
  | .text => s.createSession cfg o (textState cfg o.scope registry)

/-- `initialize_session`, up to the lookup of the session. -/
def connect (req : WsRequest) :
    AppSessions × SessionAnswer :=
  let scope := req.scope cfg
  if cfg.tenantAllowed scope.tenantId then
    match s.sessions.get? (req.userId, req.sessionId) with
    | none => s.suspend ⟨req.userId, req.sessionId, scope, .freshVoice⟩
    | some _ =>
      match resumedScope cfg req s.appState scope with
      | none => (s, .refused .sessionScopeMismatch)
      | some scope => s.suspend ⟨req.userId, req.sessionId, scope, .resumedVoice s.appState⟩
  else (s, .refused .tenantForbidden)

end AppSessions

/-- The openings and the agent runs of one app name, in any order. -/
def sessionMachine (cfg : SessionConfig) : EventMachine AppSessions SessionEvent SessionAnswer where
  step s e := match e with
    | .connect req => s.connect cfg req
    | .message userId sessionId scope =>
      match s.sessions.get? (userId, sessionId) with
      | some _ => (s, .found)
      | none => s.suspend ⟨userId, sessionId, scope, .text⟩
    | .proceed opening grounding registry =>
      match s.pending.get? opening with
      | some o => (s.without opening).write cfg o grounding registry
      | none => (s, .ignored)
    | .abandon opening => (s.without opening, .ignored)
    | .run userId sessionId =>
      match s.sessions.get? (userId, sessionId) with
      | some scope => (s, .runs scope s.appState)
      | none => (s, .ignored)

end Ekaette
