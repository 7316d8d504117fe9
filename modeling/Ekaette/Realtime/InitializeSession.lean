import Ekaette.Lib.CallProgram
import Ekaette.Realtime.SessionInit

set_option autoImplicit false

/-! # `initialize_session`

`realtime/session_init.py`: the websocket request is checked, the session is looked up, what it
lacks is loaded and stored, and a context for the live session is returned. Everything the function
awaits is a call to the outside, in the order of the source; `SessionInit` follows what the openings
do to the stored sessions. -/

namespace Ekaette

/-! ## The runtime and the connection -/

/-- The names that `initialize_session` binds from the runtime. -/
structure SessionRuntime extends SessionConfig where
  /-- `WS_TOKEN_SECRET` -/
  wsTokenSecret : String
  /-- `ALLOWED_ORIGIN_SET` -/
  allowedOrigins : List String
  /-- `ALLOW_MISSING_WS_ORIGIN` -/
  allowMissingWsOrigin : Bool
  /-- `ekaette_router.model` -/
  modelName : String
  /-- the session service is a `VertexAiSessionService`, which makes the session ids itself -/
  usesVertexSessions : Bool
  /-- there is a Firestore client -/
  hasConfigClient : Bool
  /-- `REGISTRY_REQUIRE_COMPANY_TEMPLATE_MATCH` -/
  requireCompanyTemplateMatch : Bool
  /-- `MANUAL_VAD_ACTIVE` -/
  manualVadActive : Bool

/-- A websocket connection. -/
structure WsConnection where
  userId : String
  sessionId : String
  query : Dict String String
  /-- the `Origin` header -/
  origin : Option String
  /-- `websocket.client.host` -/
  clientHost : Option String

/-- What a validated token says. -/
structure TokenClaims extends TokenScope where
  callerPhone : String

/-- A session of the session service. -/
structure StoredSession where
  /-- `id`, where it is a string -/
  id : Option String
  state : Record

/-- `ResolvedRegistryConfig`. -/
structure ResolvedRegistryConfig where
  tenantId : String
  companyId : String
  industryTemplateId : String
  templateCategory : String
  templateLabel : String
  capabilities : List String
  voice : String
  theme : List (String × PyValue)
  greeting : String
  connectorManifest : List (String × PyValue)
  registryVersion : String
  enabledAgents : List String

/-- How resolving the registry configuration ends, if it does not raise anything else. -/
inductive RegistryLookup where
  | resolved (config : Option ResolvedRegistryConfig)
  /-- `RegistrySchemaVersionError` -/
  | schemaVersion (details : String)

/-- What `initialize_session` awaits. -/
inductive InitCall where
  | close (code : ℕ) (reason : Option String)
  | accept
  | sendText (message : PyValue)
  | validateWsToken (token expectedUserId : String)
  | getSession (userId sessionId : String)
  | loadIndustryConfig (industry : String)
  | loadCompanyProfile (companyId : String) (tenantId : Option String)
  | loadCompanyKnowledge (companyId : String) (tenantId : Option String)
  | resolveRegistryRuntimeConfig (tenantId companyId : String)
  | loadGlobalLessons (tenantId companyId : String)
  | saveSessionState (userId sessionId : String) (updates : Record)
  | createSession (userId : String) (sessionId : Option String) (state : Record)

/-- What a call answers. -/
abbrev InitCall.Answer : InitCall → Type
  | .validateWsToken _ _ => Option TokenClaims
  | .getSession _ _ => Option StoredSession
  -- the entries of a dictionary
  | .loadIndustryConfig _ => List (String × PyValue)
  -- normalized as `build_company_session_state` does it
  | .loadCompanyProfile _ _ => PyValue
  | .loadCompanyKnowledge _ _ => PyValue
  | .resolveRegistryRuntimeConfig _ _ => RegistryLookup
  | .loadGlobalLessons _ _ => List PyValue
  -- the id of the created session, where it is a string
  | .createSession _ _ _ => Option String
  | _ => Unit

/-- A program that makes these calls. -/
abbrev Init := CallProgram InitCall InitCall.Answer

/-! ## Pure helpers -/

/-- `_WS_PATH_ID_RE.fullmatch`. -/
def pathIdMatches (s : String) : Bool :=
  decide (1 ≤ s.length) && decide (s.length ≤ 128) &&
    s.toList.all (fun c => c.isAlphanum || c = '.' || c = '_' || c = ':' || c = '-')

/-- `is_websocket_origin_allowed`. -/
def SessionRuntime.isWebsocketOriginAllowed (rt : SessionRuntime) : Option String → Bool
  | none => rt.allowMissingWsOrigin
  | some origin => decide (origin ∈ rt.allowedOrigins)

/-- `_TEMPLATE_ID_PATTERN.fullmatch`. -/
def templateIdMatches (s : String) : Bool :=
  match s.toList with
  | [] => false
  | c :: cs =>
    (c.isLower || c.isDigit) && decide (1 ≤ cs.length) && decide (cs.length ≤ 127) &&
      cs.all (fun c => c.isLower || c.isDigit || c = '_' || c = '-')

variable (py : StrMethods)

/-- `_normalize_template_id`. -/
def normalizeTemplateId (raw : Option String) : Option String :=
  (raw.map (fun s => py.lower (PyStr.strip s))).filter templateIdMatches

/-- `query_params.get(key) or query_params.get(other)`. -/
def WsConnection.param (conn : WsConnection) (key other : String) : Option String :=
  ((conn.query.get? key).filter (· ≠ "")).or (conn.query.get? other)

/-- `industry`, as it is asked for. -/
def WsConnection.industry (py : StrMethods) (conn : WsConnection) : String :=
  let industry := py.lower (PyStr.strip (conn.query.getD "industry" "electronics"))
  if industry = "" then "electronics" else industry

/-- The request for a company, with the claims of the token. -/
def WsConnection.request (conn : WsConnection) (claims : Option TokenClaims) : WsRequest where
  userId := conn.userId
  sessionId := conn.sessionId
  tenantId := conn.query.get? "tenant_id"
  tenantIdAlias := conn.query.get? "tenantId"
  companyId := conn.query.get? "company_id"
  companyIdAlias := conn.query.get? "companyId"
  claims := claims.map (·.toTokenScope)

/-- `voice_for_industry`. -/
def voiceForIndustry (industry : String) : String :=
  (([("electronics", "Aoede"), ("hotel", "Puck"), ("automotive", "Charon"), ("fashion", "Kore")] :
    List (String × String)).lookup (py.lower (PyStr.strip industry))).getD "Aoede"

/-- `build_session_state`. -/
def buildSessionState (config : List (String × PyValue)) (industry : String) : Record :=
  .ofList [("app:industry", .str industry),
    ("app:industry_config", .dict config),
    ("app:voice", PyValue.lookupOr config "voice" (.str "Aoede")),
    ("app:greeting", PyValue.lookupOr config "greeting" (.str "Hello! How can I help you today?"))]

/-- `legacy_industry_alias_from_registry_config`; a resolved configuration has no alias of its
    own. -/
def legacyIndustryAlias (config : ResolvedRegistryConfig) (fallback : String) :
    String :=
  let knownLegacy := ["electronics", "hotel", "automotive", "fashion"]
  let template := py.lower (PyStr.strip config.industryTemplateId)
  let start := PyStr.strip ((PyStr.split '-' template).headD "")
  let category := py.lower (PyStr.strip config.templateCategory)
  if template ∈ knownLegacy then template
  else if '-' ∈ template.toList ∧ start ≠ "" then start
  else if category ∈ knownLegacy ∨ category ∈ ["telecom", "aviation"] then category
  else fallback

/-- `canonical_state_updates_from_registry`. -/
def canonicalStateUpdatesFromRegistry (config : ResolvedRegistryConfig) :
    Record :=
  let fallback := py.lower (PyStr.strip config.industryTemplateId)
  let industry := legacyIndustryAlias py config (if fallback = "" then "electronics" else fallback)
  .ofList [("app:industry", .str industry),
    ("app:industry_config", .dict [("name", .str config.templateLabel),
      ("voice", .str config.voice), ("greeting", .str config.greeting)]),
    ("app:greeting", .str config.greeting),
    ("app:voice", .str config.voice),
    ("app:tenant_id", .str config.tenantId),
    ("app:industry_template_id", .str config.industryTemplateId),
    ("app:capabilities", .list (config.capabilities.map .str)),
    ("app:enabled_agents", .list (config.enabledAgents.map .str)),
    ("app:ui_theme", .dict config.theme),
    ("app:connector_manifest", .dict config.connectorManifest),
    ("app:registry_version", .str config.registryVersion)]

/-- `registry_mismatch_response`, with the tenant and the company added to its body. -/
def SessionRuntime.registryMismatch (rt : SessionRuntime) (requested : Option String)
    (resolved : String) (scope : CompanyScope) : Option PyValue :=
  match requested with
  | none => none
  | some requested =>
    if !rt.requireCompanyTemplateMatch || requested = "" || resolved = "" || requested =
        resolved then
      none
    else some (.dict [
      ("error", .str "industryTemplateId does not match company configuration"),
      ("code", .str "TEMPLATE_COMPANY_MISMATCH"),
      ("requestedIndustryTemplateId", .str requested),
      ("resolvedIndustryTemplateId", .str resolved),
      ("tenantId", .str scope.tenantId), ("companyId", .str scope.companyId)])

/-- An error message. -/
def initError (code message : String) (rest : List (String × PyValue)) : PyValue :=
  .dict ([("type", .str "error"), ("code", .str code), ("message", .str message)] ++ rest)

/-- Why a session that was found does not fit the token. -/
inductive ScopeMismatch where
  | company
  | tenant
  deriving DecidableEq

/-- The check of a session that was found, and the tenant and the company it goes on with. -/
def resumeCheck (cfg : SessionConfig) (req : WsRequest) (state : Record) (scope : CompanyScope) :
    Except ScopeMismatch CompanyScope :=
  let company := (stateText state "app:company_id").map (fun s => normalizeCompanyId cfg (some s))
  let tenant := (stateText state "app:tenant_id").map
    (fun s => normalizeTenantId cfg (some s) scope.tenantId)
  match req.claims with
  | some _ =>
    if company.any (fun c => c ≠ "" && c ≠ scope.companyId) then .error .company
    else if tenant.any (fun t => t ≠ "" && t ≠ scope.tenantId) then .error .tenant
    else .ok scope
  | none => .ok ⟨tenant.getD scope.tenantId, company.getD scope.companyId⟩

/-- The message about it. -/
def ScopeMismatch.message (scope : CompanyScope) : ScopeMismatch → PyValue
  | .company =>
    initError "SESSION_SCOPE_MISMATCH" "Authenticated company does not match resumed session"
      [("companyId", .str scope.companyId)]
  | .tenant =>
    initError "SESSION_SCOPE_MISMATCH" "Authenticated tenant does not match resumed session"
      [("tenantId", .str scope.tenantId)]

/-! ## The context -/

/-- `run_config`, without the constant parts. -/
inductive LiveRunConfig where
  | nativeAudio (industry : String) (voiceOverride : Option String) (resumption : Option String)
  | text (resumption : Option String)

/-- `SessionInitContext`. -/
structure SessionInitContext where
  userId : String
  resolvedSessionId : String
  clientIp : String
  modelName : String
  isNativeAudio : Bool
  industry : String
  sessionIndustry : String
  companyId : String
  tenantId : String
  requestedTemplateId : Option String
  sessionState : Record
  sessionVoice : String
  manualVadActive : Bool
  runConfig : LiveRunConfig

/-- What is known of a session once it is resumed or created. -/
structure PreparedSession where
  scope : CompanyScope
  sessionId : String
  industry : String
  state : Record

/-- `build_session_started_message`. -/
def buildSessionStartedMessage (ctx : SessionInitContext) : PyValue :=
  let text (key : String) : Option PyValue :=
    ((ctx.sessionState.value key).str?.filter (· ≠ "")).map PyValue.str
  let capabilities := match ctx.sessionState.value "app:capabilities" with
    | .list xs => some (PyValue.list xs)
    | _ => none
  .dict ([("type", .str "session_started"), ("sessionId", .str ctx.resolvedSessionId),
      ("industry", .str ctx.sessionIndustry), ("companyId", .str ctx.companyId),
      ("voice", .str ctx.sessionVoice), ("manualVadActive", .bool ctx.manualVadActive),
      ("vadMode", .str (if ctx.manualVadActive then "manual" else "auto"))]
    ++ ([("tenantId", text "app:tenant_id"),
        ("industryTemplateId", text "app:industry_template_id"),
        ("capabilities", capabilities),
        ("registryVersion", text "app:registry_version")] :
          List (String × Option PyValue)).filterMap
      (fun e => e.2.map (fun v => (e.1, v))))

/-- The context of a prepared session. -/
def SessionRuntime.context (rt : SessionRuntime) (conn : WsConnection) (session : PreparedSession) :
    SessionInitContext :=
  let isNativeAudio := PyStr.contains "native-audio" (rt.py.lower rt.modelName)
  let lockedIndustry := (session.state.value "app:industry").str?.filter (· ≠ "")
  let sessionIndustry := rt.py.lower (PyStr.strip (lockedIndustry.getD session.industry))
  let voiceOverride := (session.state.value "app:voice").str?
  let resumption := (conn.param "resumption_token" "resumptionToken").filter (· ≠ "")
  { userId := conn.userId
    resolvedSessionId := session.sessionId
    clientIp := conn.clientHost.getD "unknown"
    modelName := rt.modelName
    isNativeAudio
    industry := session.industry
    sessionIndustry
    companyId := session.scope.companyId
    tenantId := session.scope.tenantId
    requestedTemplateId :=
      normalizeTemplateId rt.py (conn.param "industry_template_id" "industryTemplateId")
    sessionState := session.state
    sessionVoice := (voiceOverride.filter (· ≠ "")).getD (voiceForIndustry rt.py sessionIndustry)
    manualVadActive := rt.manualVadActive && isNativeAudio
    runConfig := if isNativeAudio then .nativeAudio session.industry voiceOverride resumption
      else .text resumption }

/-! ## The program -/

/-- `await` -/
def perform (c : InitCall) : Init c.Answer := CallProgram.ask c

section Program

variable {α : Type}

/-- Close the websocket and return `None`. -/
def refuse (code : ℕ) (reason : Option String) : Init (Option α) := do
  let _ ← perform (.close code reason)
  pure none

/-- Send an error, close the websocket and return `None`. -/
def refuseWith (message : PyValue) (code : ℕ) (reason : Option String) : Init (Option α) := do
  let _ ← perform (.sendText message)
  refuse code reason

variable (rt : SessionRuntime) (conn : WsConnection)

/-- The token, where a secret is configured: `None` ends the function. -/
def authenticate : Init (Option (Option TokenClaims)) :=
  if rt.wsTokenSecret = "" then pure (some none)
  else match (conn.query.get? "token").filter (· ≠ "") with
    | none => refuse 4401 (some "Missing authentication token")
    | some token => do
        let claims : Option TokenClaims ← perform (.validateWsToken token conn.userId)
        match claims with
        | none => refuse 4401 (some "Invalid or expired token")
        | some claims => pure (some (some claims))

/-- `resolve_registry_runtime_config_fn`, with the answer to an unsupported schema version. -/
def resolveRegistry (scope : CompanyScope) : Init (Option (Option ResolvedRegistryConfig)) := do
  let lookup :
    RegistryLookup ← perform (.resolveRegistryRuntimeConfig scope.tenantId scope.companyId)
  match lookup with
  | .resolved config => pure (some config)
  | .schemaVersion details =>
    refuseWith (initError "REGISTRY_SCHEMA_VERSION_UNSUPPORTED"
      "Unsupported registry schema version"
      [("tenantId", .str scope.tenantId), ("companyId", .str scope.companyId),
        ("details", .str details)]) 1011 none

/-- The profile and the knowledge of the company; without the registry they belong to no tenant. -/
def loadGrounding (scope : CompanyScope) : Init CompanyGrounding := do
  let tenantId := if rt.registryEnabled then some scope.tenantId else none
  let profile : PyValue ← perform (.loadCompanyProfile scope.companyId tenantId)
  let knowledge : PyValue ← perform (.loadCompanyKnowledge scope.companyId tenantId)
  pure ⟨profile, knowledge⟩

variable (claims : Option TokenClaims)

/-- `caller_phone`. -/
def callerPhone : String :=
  PyStr.strip ((claims.map (·.callerPhone)).getD "")

variable (state : Record)

/-- The registry keys a session that was found has not got. -/
def lacksRegistryKeys : Bool :=
  !(state.contains "app:tenant_id" && state.contains "app:industry_template_id" &&
    state.contains "app:capabilities" && state.contains "app:registry_version")

/-- What is stored of a resumed session, once everything is loaded. -/
def finishResumed (session : StoredSession)
    (sessionId industry : String) (scope : CompanyScope) (updates : Record) :
    Init (Option PreparedSession) := do
  let phone := callerPhone claims
  let updates := if phone ≠ "" ∧ session.state.contains "user:caller_phone" = false then
      updates.set "user:caller_phone" (.str phone)
    else updates
  if updates.entries.isEmpty then
    pure (some ⟨scope, sessionId, industry, session.state⟩)
  else do
    let _ ← perform (.saveSessionState conn.userId sessionId updates)
    pure (some ⟨scope, sessionId, industry, session.state.merge updates⟩)

variable (scope : CompanyScope)

/-- The tenant and the channel, where the session lacks them. -/
def scopeUpdates : Record :=
  let updates : Record := if state.contains "app:tenant_id" then .empty
    else Dict.empty.set "app:tenant_id" (.str scope.tenantId)
  if state.contains "app:channel" then updates else updates.set "app:channel" (.str "voice")

/-- The industry configuration, where the session lacks it. -/
def fillIndustry (industry : String) (updates : Record) : Init Record :=
  if state.contains "app:industry_config" then pure updates
  else do
    let config : List (String × PyValue) ← perform (.loadIndustryConfig industry)
    pure (updates.merge (buildSessionState config industry))

/-- The profile and the knowledge of the company, where the session lacks them. -/
def fillCompany (updates : Record) : Init Record :=
  if state.contains "app:company_profile" && state.contains "app:company_knowledge" &&
      state.contains "app:company_id" then pure updates
  else do
    let grounding ← loadGrounding rt scope
    pure (updates.merge (buildCompanySessionState rt.py scope.companyId grounding))

/-- The registry configuration, where the session lacks keys of it: `None` ends the function. -/
def fillRegistry (updates : Record) :
    Init (Option Record) :=
  if rt.registryEnabled && lacksRegistryKeys state then do
    let resolved ← resolveRegistry scope
    pure (resolved.map (fun config => match config with
      | some config => updates.merge (canonicalStateUpdatesFromRegistry rt.py config)
      | none => updates))
  else pure (some updates)

/-- What a session that was found lacks is loaded and stored. -/
def fillResumed (session : StoredSession)
    (sessionId industry : String) (scope : CompanyScope) : Init (Option PreparedSession) := do
  let updates ← fillIndustry session.state industry (scopeUpdates session.state scope)
  let updates ← fillCompany rt session.state scope updates
  let updates ← fillRegistry rt session.state scope updates
  match updates with
  | none => pure none
  | some updates => finishResumed conn claims session sessionId industry scope updates

/-- A session that was found is resumed, if it fits the token. -/
def resumeSession (session : StoredSession) :
    Init (Option PreparedSession) :=
  let sessionId := (session.id.filter (· ≠ "")).getD conn.sessionId
  let industry := ((stateText session.state "app:industry").map
    (fun s => rt.py.lower (PyStr.strip s))).getD (conn.industry rt.py)
  match resumeCheck rt.toSessionConfig (conn.request claims) session.state scope with
  | .error mismatch => refuseWith (mismatch.message scope) 1008 (some "Session scope mismatch")
  | .ok scope => fillResumed rt conn claims session sessionId industry scope

/-- `initial_state`, before the global lessons. -/
def initialState (industry : String)
    (registry : Option ResolvedRegistryConfig) (config : List (String × PyValue))
    (grounding : CompanyGrounding) : Record :=
  let state := (buildSessionState config industry).merge
    (buildCompanySessionState rt.py scope.companyId grounding)
  let state := match registry with
    | some config => state.merge (canonicalStateUpdatesFromRegistry rt.py config)
    | none => state
  let state := (state.setDefault "app:tenant_id" (.str scope.tenantId)).setDefault "app:channel"
    (.str "voice")
  let phone := callerPhone claims
  if phone = "" then state else state.set "user:caller_phone" (.str phone)

/-- The global lessons, where there are some; an exception is caught. -/
def addLessons (state : Record) : Init Record :=
  if rt.hasConfigClient then do
    let lessons : Option (List PyValue) ←
      CallProgram.attempt (InitCall.loadGlobalLessons scope.tenantId scope.companyId)
    let lessons := lessons.getD []
    pure (if lessons.isEmpty then state else state.set "app:global_lessons" (.list lessons))
  else pure state

/-- The state of a fresh session is loaded, and the session is created. -/
def createFresh (industry : String)
    (registry : Option ResolvedRegistryConfig) : Init (Option PreparedSession) := do
  let config : List (String × PyValue) ← perform (.loadIndustryConfig industry)
  let grounding ← loadGrounding rt scope
  let state ← addLessons rt scope (initialState rt claims scope industry registry config grounding)
  let created : Option String ← perform (.createSession conn.userId
    (if rt.usesVertexSessions then none else some conn.sessionId) state)
  let created := if rt.usesVertexSessions then created.filter (· ≠ "") else none
  pure (some ⟨scope, created.getD conn.sessionId, industry, state⟩)

/-- A session that was not found is created. -/
def freshSession :
    Init (Option PreparedSession) :=
  let industry := conn.industry rt.py
  if rt.registryEnabled then do
    let resolved ← resolveRegistry scope
    match resolved with
    | none => pure none
    | some none =>
      refuseWith (initError "REGISTRY_CONFIG_NOT_FOUND"
        "Company configuration not found in registry"
        [("tenantId", .str scope.tenantId), ("companyId", .str scope.companyId)]) 1008 none
    | some (some config) =>
      let requested :=
        normalizeTemplateId rt.py (conn.param "industry_template_id" "industryTemplateId")
      match rt.registryMismatch requested config.industryTemplateId scope with
      | some body => refuseWith body 1008 none
      | none =>
        createFresh rt conn claims scope
          (if config.industryTemplateId = "" then industry else config.industryTemplateId)
          (some config)
  else createFresh rt conn claims scope industry none

/-- The session is looked up, and resumed or created. -/
def prepareSession : Init (Option PreparedSession) :=
  let scope := (conn.request claims).scope rt.toSessionConfig
  if rt.tenantAllowed scope.tenantId then do
    let found : Option StoredSession ← perform (.getSession conn.userId conn.sessionId)
    match found with
    | some session => resumeSession rt conn claims scope session
    | none => freshSession rt conn claims scope
  else refuseWith (initError "TENANT_FORBIDDEN" "Tenant not allowed"
    [("tenantId", .str scope.tenantId)]) 1008 (some "Tenant not allowed")

/-- The client is told that the session has started. -/
def startSession (session : PreparedSession) : Init (Option SessionInitContext) := do
  let ctx := rt.context conn session
  let _ ← perform (.sendText (buildSessionStartedMessage ctx))
  pure (some ctx)

/-- What follows the checks of the connection. -/
def openConnection : Init (Option SessionInitContext) := do
  let _ ← perform .accept
  let prepared ← prepareSession rt conn claims
  match prepared with
  | none => pure none
  | some session => startSession rt conn session

/-- `initialize_session`. -/
def initializeSession : Init (Option SessionInitContext) :=
  if pathIdMatches conn.userId && pathIdMatches conn.sessionId then do
    let authenticated ← authenticate rt conn
    match authenticated with
    | none => pure none
    | some claims =>
      if rt.isWebsocketOriginAllowed conn.origin then openConnection rt conn claims
      else refuse 1008 (some "Origin not allowed")
  else refuse 1008 (some "Invalid path parameter")

end Program

end Ekaette
