import Ekaette.Configs.RegistryLoader
import Ekaette.Realtime.TenantBinding

set_option autoImplicit false

/-! # One policy for voice and text sessions

`initialize_session` and `_ensure_session` of `channels/adk_text_adapter.py` put parts of the
resolved registry configuration into the state of a fresh session. The guards of
`agents/callbacks.py` and `configs/agent_policy.py` read them: the voice session carries the agents
of the template and all of its capabilities, the text session leaves out the agents, and the
capabilities where there are none. -/

namespace Ekaette

/-! ## `_ensure_session` -/

/-- `initial_state` with the registry configuration. -/
def textRegistryState (config : ResolvedRegistryConfig) (state : Record) : Record :=
  let industry : PyValue := .str config.industryTemplateId
  let state := (state.set "app:industry" industry).set "app:industry_template_id" industry
  let state := if config.capabilities.isEmpty then state
    else state.set "app:capabilities" (.list (config.capabilities.map .str))
  if config.registryVersion = "" then state
  else state.set "app:registry_version" (.str config.registryVersion)

section Program

variable (rt : SessionRuntime)

/-- The registry configuration and the global lessons; whatever is raised is caught. -/
def bootstrapRegistry (scope : CompanyScope) (state : Record) : Init Record :=
  if rt.registryEnabled && rt.hasConfigClient then do
    let lookup : Option RegistryLookup ←
      CallProgram.attempt (InitCall.resolveRegistryRuntimeConfig scope.tenantId scope.companyId)
    match lookup with
    | some (.resolved (some config)) => addLessons rt scope (textRegistryState config state)
    | some (.resolved none) => addLessons rt scope state
    | _ => pure state
  else pure state

/-- `_ensure_session`. -/
def ensureSession (userId sessionId : String) (scope : CompanyScope) (channel : String) :
    Init String := do
  let found : Option StoredSession ← perform (.getSession userId sessionId)
  match found with
  | some session => pure ((session.id.filter (· ≠ "")).getD sessionId)
  | none => do
      let state ← bootstrapRegistry rt scope (.ofList [("app:tenant_id", .str scope.tenantId),
        ("app:company_id", .str scope.companyId), ("app:channel", .str channel)])
      let created : Option String ← perform (.createSession userId (some sessionId) state)
      pure ((created.filter (· ≠ "")).getD sessionId)

end Program

/-! ## The guards -/

/-- `TOOL_CAPABILITY_MAP`. -/
def toolCapabilityMap : List (String × String) :=
  [("create_booking", "booking_reservations"), ("cancel_booking", "booking_reservations"),
    ("check_availability", "booking_reservations"), ("search_catalog", "catalog_lookup"),
    ("get_product_details", "catalog_lookup"), ("analyze_device_image_tool", "valuation_tradein"),
    ("grade_and_value_tool", "valuation_tradein"), ("grade_condition", "valuation_tradein"),
    ("calculate_trade_in_value", "valuation_tradein"), ("search_company_knowledge", "policy_qa"),
    ("get_company_profile_fact", "policy_qa"), ("query_company_system", "connector_dispatch"),
    ("send_whatsapp_message", "outbound_messaging"),
    ("get_device_questionnaire_tool", "valuation_tradein")]

/-- `before_tool_capability_guard`: `None` lets the call through. -/
def beforeToolCapabilityGuard (state : Record) (tool : String) : Option PyValue :=
  match toolCapabilityMap.lookup tool with
  | none => none
  | some required =>
    match state.value "app:capabilities" with
    | .list capabilities =>
      if capabilities.any (·.eqStr required) then none
      else some (.dict [("error", .str "capability_not_enabled"), ("tool", .str tool),
        ("required", .str required)])
    | _ => none

/-- The same set of agents, or no policy in both. -/
def SameAgents : Option (List String) → Option (List String) → Prop
  | none, none => True
  | some agents, some agents' => ∀ a, a ∈ agents ↔ a ∈ agents'
  | _, _ => False

/-- **The guards agree** on two states. -/
structure GuardsAgree (py : StrMethods) (state state' : Record) : Prop where
  agents : SameAgents (resolveEnabledAgentsFromState py state)
    (resolveEnabledAgentsFromState py state')
  tools : ∀ tool, (beforeToolCapabilityGuard state tool).isSome =
    (beforeToolCapabilityGuard state' tool).isSome

/-- The agents that the built-in table, or else the capabilities, give to a template. -/
def defaultAgents (py : StrMethods) (templateId : String) (caps : List String) : List String :=
  (defaultAgents? py templateId).getD (agentsForCapabilities caps)

/-- The agents that a template declares, or else the capabilities give. -/
def declaredAgents (template : Record) (caps : List String) : List String :=
  (normalizeEnabledAgents (template.value "enabled_agents")).getD (agentsForCapabilities caps)

/-- **Default policy**: the company has a capability, and its template declares no other agents than
    it would have by default. -/
structure HasDefaultPolicy (py : StrMethods) (template company : Record) : Prop where
  capable : resolveCapabilities template company ≠ []
  agents : ∀ a, a ∈ declaredAgents template (resolveCapabilities template company) ↔
    a ∈ defaultAgents py (companyTemplateId company) (resolveCapabilities template company)

/-! ## What the openings put into the state -/

/-- The state of a voice session, as far as the guards read it. -/
structure VoicePolicy (config : ResolvedRegistryConfig) (state : Record) : Prop where
  agents : state.value "app:enabled_agents" = .list (config.enabledAgents.map .str)
  capabilities : state.value "app:capabilities" = .list (config.capabilities.map .str)

/-- The state of a text session, as far as the guards read it. -/
structure TextPolicy (config : ResolvedRegistryConfig) (state : Record) : Prop where
  agents : state.value "app:enabled_agents" = .none
  template : state.value "app:industry_template_id" = .str config.industryTemplateId
  industry : state.value "app:industry" = .str config.industryTemplateId
  capabilities : state.value "app:capabilities" =
    if config.capabilities.isEmpty then .none else .list (config.capabilities.map .str)

/-- The keys that the guards read. -/
def guardKeys : List String :=
  ["app:enabled_agents", "app:industry_template_id", "app:industry", "app:capabilities"]

/-- Two states that no guard can tell apart. -/
def SameGuardKeys (state state' : Record) : Prop :=
  ∀ key ∈ guardKeys, state'.value key = state.value key

variable {config : ResolvedRegistryConfig}

theorem VoicePolicy.of_same {state state' : Record}
    (h : VoicePolicy config state) (hsame : SameGuardKeys state state') :
    VoicePolicy config state' :=
  ⟨(hsame _ (by decide)).trans h.agents, (hsame _ (by decide)).trans h.capabilities⟩

theorem TextPolicy.of_same {state state' : Record}
    (h : TextPolicy config state) (hsame : SameGuardKeys state state') : TextPolicy config state' :=
  ⟨(hsame _ (by decide)).trans h.agents, (hsame _ (by decide)).trans h.template,
    (hsame _ (by decide)).trans h.industry, (hsame _ (by decide)).trans h.capabilities⟩

theorem Record.value_set (state : Record) (key key' : String) (v : PyValue) :
    Record.value (state.set key v) key' = if key' = key then v else state.value key' := by
  rw [Record.value, Dict.get?_set]
  split_ifs <;> rfl

theorem sameGuardKeys_set (state : Record) {key : String} (v : PyValue) (h : key ∉ guardKeys) :
    SameGuardKeys state (state.set key v) := by
  intro key' hkey'
  rw [Record.value_set, if_neg]
  intro heq
  rw [heq] at hkey'
  exact h hkey'

theorem sameGuardKeys_setDefault (state : Record) {key : String} (v : PyValue)
    (h : key ∉ guardKeys) : SameGuardKeys state (state.setDefault key v) := by
  unfold Dict.setDefault
  split_ifs
  · exact fun _ _ => rfl
  · exact sameGuardKeys_set state v h

theorem SameGuardKeys.trans {s t u : Record} (hst : SameGuardKeys s t) (htu : SameGuardKeys t u) :
    SameGuardKeys s u := fun key hkey => (htu key hkey).trans (hst key hkey)

theorem canonicalStateUpdates_get? (py : StrMethods) (config : ResolvedRegistryConfig) :
    (canonicalStateUpdatesFromRegistry py config).get? "app:enabled_agents" =
      some (.list (config.enabledAgents.map .str)) ∧
    (canonicalStateUpdatesFromRegistry py config).get? "app:capabilities" =
      some (.list (config.capabilities.map .str)) := by
  unfold canonicalStateUpdatesFromRegistry Dict.get?
  dsimp only
  rw [Dict.entries_ofList _ (by simp only [List.map_cons, List.map_nil]; decide)]
  constructor <;> simp only [List.lookup_cons, String.reduceBEq]

/-- **Voice**: what the registry resolved is what the guards read. -/
theorem initialState_voicePolicy (rt : SessionRuntime) (claims : Option TokenClaims)
    (scope : CompanyScope) (industry : String) (config : ResolvedRegistryConfig)
    (entries : List (String × PyValue)) (grounding : CompanyGrounding) :
    VoicePolicy config (initialState rt claims scope industry (some config) entries grounding) := by
  have hmerged : ∀ base : Record,
      VoicePolicy config (base.merge (canonicalStateUpdatesFromRegistry rt.py config)) := by
    intro base
    obtain ⟨hagents, hcapabilities⟩ := canonicalStateUpdates_get? rt.py config
    constructor
    · rw [Record.value, Dict.get?_merge, hagents]
      rfl
    · rw [Record.value, Dict.get?_merge, hcapabilities]
      rfl
  have hrest : ∀ state : Record, SameGuardKeys state
      ((state.setDefault "app:tenant_id" (.str scope.tenantId)).setDefault "app:channel"
        (.str "voice")) :=
    fun state => (sameGuardKeys_setDefault state _ (by decide)).trans
      (sameGuardKeys_setDefault _ _ (by decide))
  unfold initialState
  dsimp only
  split_ifs
  · exact (hmerged _).of_same (hrest _)
  · exact ((hmerged _).of_same (hrest _)).of_same (sameGuardKeys_set _ _ (by decide))

/-- **Text**: the template twice, and the capabilities where there are some. -/
theorem textRegistryState_textPolicy (config : ResolvedRegistryConfig) {state : Record}
    (hagents : state.value "app:enabled_agents" = .none)
    (hcapabilities : state.value "app:capabilities" = .none) :
    TextPolicy config (textRegistryState config state) := by
  have hregistry : ∀ s : Record, TextPolicy config s →
      TextPolicy config (if config.registryVersion = "" then s
        else s.set "app:registry_version" (.str config.registryVersion)) := by
    intro s hs
    split_ifs
    · exact hs
    · exact hs.of_same (sameGuardKeys_set s _ (by decide))
  refine hregistry _ ?_
  cases hempty : config.capabilities.isEmpty with
  | true =>
    constructor <;> simp only [if_pos, Record.value_set, String.reduceEq, if_false, hempty, hagents,
      hcapabilities]
  | false =>
    constructor <;> simp only [Bool.false_eq_true, Record.value_set, String.reduceEq, if_false,
      if_true, hempty, hagents]

/-! ## Agreement -/

theorem agents_of_voicePolicy (py : StrMethods) {template : Record} {caps : List String}
    {config : ResolvedRegistryConfig} {state : Record}
    (hagents : config.enabledAgents = resolveEnabledAgentsFromTemplate template caps)
    (h : VoicePolicy config state) :
    resolveEnabledAgentsFromState py state =
    some (resolveEnabledAgentsFromTemplate template caps) := by
  unfold resolveEnabledAgentsFromState
  rw [h.agents, hagents, normalizeEnabledAgents_known (fun a ha =>
    mem_known_of_mem_resolveEnabledAgents ha)]

theorem resolveEnabledAgents_eq_declared (template : Record) {caps : List String}
    (hstripped : ∀ s ∈ caps, IsStripped s) (hne : caps ≠ []) :
    resolveEnabledAgentsFromTemplate template caps = declaredAgents template caps := by
  unfold resolveEnabledAgentsFromTemplate declaredAgents
  cases normalizeEnabledAgents (template.value "enabled_agents") with
  | some agents => rfl
  | none =>
    show (inferEnabledAgentsFromCapabilities (.list (caps.map .str))).getD ["support_agent"] = _
    rw [inferEnabledAgents_of_stripped hstripped hne]
    rfl

theorem agents_of_textPolicy (py : StrMethods) {config : ResolvedRegistryConfig} {state : Record}
    (hstripped : ∀ s ∈ config.capabilities, IsStripped s) (hne : config.capabilities ≠ [])
    (h : TextPolicy config state) :
    resolveEnabledAgentsFromState py state =
      some (defaultAgents py config.industryTemplateId config.capabilities) := by
  have hcaps : state.value "app:capabilities" = .list (config.capabilities.map .str) := by
    rw [h.capabilities, if_neg]
    rwa [List.isEmpty_iff]
  unfold resolveEnabledAgentsFromState defaultAgents
  have hbind : (PyValue.str config.industryTemplateId).str?.bind (defaultAgents? py) =
      defaultAgents? py config.industryTemplateId := rfl
  rw [h.agents, h.template, h.industry, hcaps, inferEnabledAgents_of_stripped hstripped hne, hbind]
  cases defaultAgents? py config.industryTemplateId <;> rfl

theorem tools_of_no_capabilities {voice text : Record}
    (hempty : config.capabilities = []) (hvoice : VoicePolicy config voice)
    (htext : TextPolicy config text) :
    (beforeToolCapabilityGuard voice "create_booking").isSome = true ∧
      (beforeToolCapabilityGuard text "create_booking").isSome = false := by
  have hmapped : toolCapabilityMap.lookup "create_booking" = some "booking_reservations" := by
    decide
  have hlist := hvoice.capabilities
  have hnone := htext.capabilities
  rw [hempty] at hlist hnone
  unfold beforeToolCapabilityGuard
  rw [hmapped, hlist, hnone]
  exact ⟨rfl, rfl⟩

/-- **The guards of the two sessions** agree exactly under the default policy. -/
theorem guardsAgree_iff_default {lib : RegistryLibrary} {scope : CompanyScope}
    {template company : Record} {voice text : Record}
    (hvoice : VoicePolicy (mergedConfig lib scope.tenantId scope.companyId template company) voice)
    (htext : TextPolicy (mergedConfig lib scope.tenantId scope.companyId template company) text) :
    GuardsAgree lib.toStrMethods voice text ↔
    HasDefaultPolicy lib.toStrMethods template company := by
  have hstripped : ∀ s ∈ resolveCapabilities template company, IsStripped s :=
    fun s hs => isStripped_of_mem_resolveCapabilities hs
  have hagents := agents_of_voicePolicy lib.toStrMethods rfl hvoice
  constructor
  · intro h
    have hne : resolveCapabilities template company ≠ [] := by
      intro hempty
      obtain ⟨hblocked, hallowed⟩ := tools_of_no_capabilities hempty hvoice htext
      have hsame := h.tools "create_booking"
      rw [hblocked, hallowed] at hsame
      cases hsame
    have hsame := h.agents
    rw [hagents, agents_of_textPolicy lib.toStrMethods hstripped hne htext,
      resolveEnabledAgents_eq_declared template hstripped hne] at hsame
    exact ⟨hne, hsame⟩
  · intro h
    refine ⟨?_, fun tool => ?_⟩
    · rw [hagents, agents_of_textPolicy lib.toStrMethods hstripped h.capable htext,
        resolveEnabledAgents_eq_declared template hstripped h.capable]
      exact h.agents
    · have hcaps : text.value "app:capabilities" = voice.value "app:capabilities" := by
        rw [hvoice.capabilities, htext.capabilities, if_neg]
        rw [List.isEmpty_iff]
        exact h.capable
      unfold beforeToolCapabilityGuard
      rw [hcaps]

/-! ## Created from what was looked up -/

def InitCall.isCreation : InitCall → Bool
  | .createSession _ _ _ => true
  | _ => false

/-- What the registry has answered. -/
def lookups (log : List InitCalled) : List (Option RegistryLookup) :=
  log.filterMap (fun t => match t with
    | ⟨.resolveRegistryRuntimeConfig _ _, r⟩ => some r
    | _ => none)

/-- A call that neither creates a session nor asks the registry. -/
def InitCall.isPlain : InitCall → Bool
  | .createSession _ _ _ => false
  | .resolveRegistryRuntimeConfig _ _ => false
  | _ => true

/-- A session is created only with a state that fits every configuration that was looked up
    before. -/
def CreatesFrom (Fits : ResolvedRegistryConfig → Record → Prop) (log : List InitCalled)
    (c : InitCall) : Prop :=
  ∀ userId id state, c = .createSession userId id state →
    ∀ config, some (.resolved (some config)) ∈ lookups log → Fits config state

section

variable {Fits : ResolvedRegistryConfig → Record → Prop} {α : Type}

theorem createsFrom_of_not_creation (log : List InitCalled) (c : InitCall)
    (h : c.isCreation = false) : CreatesFrom Fits log c := by
  rintro userId id state rfl
  cases h

theorem createsFrom_of_plain (log : List InitCalled) (c : InitCall) (h : c.isPlain = true) :
    CreatesFrom Fits log c := by
  rintro userId id state rfl
  cases h

theorem lookups_append_plain (log : List InitCalled) {calls : List InitCalled}
    (h : ∀ t ∈ calls, t.1.isPlain = true) : lookups (log ++ calls) = lookups log := by
  unfold lookups
  rw [List.filterMap_append]
  refine List.append_right_eq_self.2 (List.filterMap_eq_nil_iff.2 (fun t ht => ?_))
  have hplain := h t ht
  obtain ⟨c, r⟩ := t
  cases c with
  | resolveRegistryRuntimeConfig tenantId companyId => cases hplain
  | _ => rfl

/-- After plain calls, what follows sees the same answers of the registry. -/
theorem plain_bind_obeys {β : Type} {p : Init β} {f : β → Init α} {log : List InitCalled}
    (hp : p.Makes (fun c => c.isPlain = true))
    (hf : ∀ log' b, lookups log' = lookups log →
      (f b).Obeys (CreatesFrom Fits) (fun _ _ => True) log') :
    (p >>= f).Obeys (CreatesFrom Fits) (fun _ _ => True) log :=
  (CallProgram.obeys_bind p f log).2
    (hp.obeys createsFrom_of_plain (fun _ b hcalls => hf _ b (lookups_append_plain log hcalls)))

theorem obeys_of_makes_no_creation {p : Init α} (hp : p.Makes (fun c => c.isCreation = false))
    (log : List InitCalled) : p.Obeys (CreatesFrom Fits) (fun _ _ => True) log :=
  hp.obeys createsFrom_of_not_creation (fun _ _ _ => trivial)

theorem isCreation_of_isPlain (c : InitCall) (h : c.isPlain = true) : c.isCreation = false := by
  cases c with
  | createSession userId id state => cases h
  | _ => rfl

theorem obeys_of_makes_plain {p : Init α} (hp : p.Makes (fun c => c.isPlain = true))
    (log : List InitCalled) : p.Obeys (CreatesFrom Fits) (fun _ _ => True) log :=
  obeys_of_makes_no_creation (hp.mono isCreation_of_isPlain) log

theorem perform_plain {c : InitCall} (h : c.isPlain = true) :
    (perform c).Makes (fun c => c.isPlain = true) := CallProgram.makes_ask h

theorem refuse_plain (code : ℕ) (reason : Option String) :
    (refuse code reason : Init (Option α)).Makes (fun c => c.isPlain = true) :=
  (perform_plain rfl).bind (fun _ => CallProgram.makes_pure none)

theorem refuseWith_plain (message : PyValue) (code : ℕ) (reason : Option String) :
    (refuseWith message code reason : Init (Option α)).Makes (fun c => c.isPlain = true) :=
  (perform_plain rfl).bind (fun _ => refuse_plain code reason)

/-- A refusal ends what it is part of with `None`. -/
theorem refuseWith_bind_obeys {β : Type} {f : Option β → Init α} (message : PyValue) (code : ℕ)
    (reason : Option String) (log : List InitCalled)
    (hf : (f none).Makes (fun c => c.isPlain = true)) :
    (refuseWith message code reason >>= f).Obeys (CreatesFrom Fits) (fun _ _ => True) log := by
  rw [CallProgram.obeys_bind]
  refine (CallProgram.obeys_ask_bind _).2 ⟨createsFrom_of_plain _ _ rfl, fun _ => ?_⟩
  refine (CallProgram.obeys_ask_bind _).2 ⟨createsFrom_of_plain _ _ rfl, fun _ => ?_⟩
  exact obeys_of_makes_plain hf _

variable {rt : SessionRuntime} {conn : WsConnection} {claims : Option TokenClaims}
  {scope : CompanyScope} {log : List InitCalled}

theorem authenticate_plain : (authenticate rt conn).Makes (fun c => c.isPlain = true) := by
  unfold authenticate
  split_ifs
  · exact CallProgram.makes_pure (some none)
  · cases (conn.query.get? "token").filter (· ≠ "") with
    | none => exact refuse_plain 4401 _
    | some token =>
      refine (perform_plain rfl).bind (fun claims => ?_)
      cases claims with
      | none => exact refuse_plain 4401 _
      | some claims => exact CallProgram.makes_pure (some (some claims))

theorem loadGrounding_plain : (loadGrounding rt scope).Makes (fun c => c.isPlain = true) :=
  (perform_plain rfl).bind (fun _ => (perform_plain rfl).bind (fun _ => CallProgram.makes_pure _))

/-- **A resumed session** is not created. -/
theorem resumeSession_creates_nothing (session : StoredSession) :
    (resumeSession rt conn claims scope session).Makes (fun c => c.isCreation = false) := by
  have hfinish : ∀ (scope : CompanyScope) (sessionId industry : String) (updates : Record),
      (finishResumed conn claims session sessionId industry scope updates).Makes
        (fun c => c.isPlain = true) := by
    intro scope sessionId industry updates
    unfold finishResumed
    dsimp only
    split_ifs
    all_goals first
      | exact CallProgram.makes_pure _
      | exact (perform_plain rfl).bind (fun _ => CallProgram.makes_pure _)
  have hindustry : ∀ (state : Record) (industry : String) (updates : Record),
      (fillIndustry state industry updates).Makes (fun c => c.isPlain = true) := by
    intro state industry updates
    unfold fillIndustry
    split_ifs
    · exact CallProgram.makes_pure updates
    · exact (perform_plain rfl).bind (fun _ => CallProgram.makes_pure _)
  have hcompany : ∀ (state : Record) (scope : CompanyScope) (updates : Record),
      (fillCompany rt state scope updates).Makes (fun c => c.isPlain = true) := by
    intro state scope updates
    unfold fillCompany
    split_ifs
    · exact CallProgram.makes_pure updates
    · exact loadGrounding_plain.bind (fun _ => CallProgram.makes_pure _)
  have hregistry : ∀ (state : Record) (scope : CompanyScope) (updates : Record),
      (fillRegistry rt state scope updates).Makes (fun c => c.isCreation = false) := by
    intro state scope updates
    unfold fillRegistry
    split_ifs
    · refine CallProgram.Makes.bind ?_ (fun _ => CallProgram.makes_pure _)
      refine CallProgram.Makes.bind (CallProgram.makes_ask rfl) (fun lookup => ?_)
      cases lookup with
      | resolved config => exact CallProgram.makes_pure _
      | schemaVersion details => exact (refuseWith_plain _ 1011 none).mono isCreation_of_isPlain
    · exact CallProgram.makes_pure _
  unfold resumeSession
  dsimp only
  cases resumeCheck rt.toSessionConfig (conn.request claims) session.state scope with
  | error mismatch => exact (refuseWith_plain _ 1008 _).mono isCreation_of_isPlain
  | ok scope =>
    refine ((hindustry _ _ _).mono isCreation_of_isPlain).bind (fun updates => ?_)
    refine ((hcompany _ _ _).mono isCreation_of_isPlain).bind (fun updates => ?_)
    refine (hregistry _ _ _).bind (fun updates => ?_)
    cases updates with
    | none => exact CallProgram.makes_pure none
    | some updates => exact (hfinish _ _ _ _).mono isCreation_of_isPlain

theorem addLessons_obeys (state : Record) (log : List InitCalled) :
    (addLessons rt scope state).Obeys (CreatesFrom Fits)
      (fun log' state' => lookups log' = lookups log ∧ SameGuardKeys state state') log := by
  unfold addLessons
  split_ifs
  · rw [CallProgram.obeys_bind]
    refine (CallProgram.obeys_attempt
      (c := InitCall.loadGlobalLessons scope.tenantId scope.companyId)
      log).2 ⟨createsFrom_of_plain _ _ rfl, fun lessons => ?_⟩
    refine ⟨lookups_append_plain log (fun t ht => by rw [List.mem_singleton.1 ht]; rfl), ?_⟩
    split_ifs
    · exact fun _ _ => rfl
    · exact sameGuardKeys_set state _ (by decide)
  · exact ⟨rfl, fun _ _ => rfl⟩

/-- **A fresh voice session** is created from the configuration that was looked up. -/
theorem createFresh_obeys {registry : Option ResolvedRegistryConfig} (industry : String)
    (h : ∀ config, some (.resolved (some config)) ∈ lookups log → registry = some config) :
    (createFresh rt conn claims scope industry registry).Obeys (CreatesFrom VoicePolicy)
      (fun _ _ => True) log := by
  refine plain_bind_obeys (perform_plain rfl) (fun log₁ config h₁ => ?_)
  refine plain_bind_obeys loadGrounding_plain (fun log₂ grounding h₂ => ?_)
  refine (addLessons_obeys _ log₂).bind (fun log₃ state hlessons => ?_)
  obtain ⟨h₃, hsame⟩ := hlessons
  refine (CallProgram.obeys_ask_bind _).2 ⟨?_, fun _ => trivial⟩
  intro userId id state' hcall config' hlookup
  obtain ⟨-, -, rfl⟩ := InitCall.createSession.inj hcall
  rw [h₃, h₂, h₁] at hlookup
  have hregistry := h config' hlookup
  rw [hregistry] at hsame
  exact (initialState_voicePolicy rt claims scope industry config' config grounding).of_same hsame

/-- What follows the lookup: the company has a configuration. -/
theorem configured_obeys (requested : Option String) (industry : String)
    (config : ResolvedRegistryConfig) (hone : lookups log = [some (.resolved (some config))]) :
    CallProgram.Obeys (CreatesFrom VoicePolicy) (fun _ _ => True)
      (match rt.registryMismatch requested config.industryTemplateId scope with
        | some body => refuseWith body 1008 none
        | none => createFresh rt conn claims scope industry (some config)) log := by
  cases rt.registryMismatch requested config.industryTemplateId scope with
  | some body => exact obeys_of_makes_plain (refuseWith_plain body 1008 none) _
  | none =>
    refine createFresh_obeys _ (fun config' hconfig' => ?_)
    rw [hone, List.mem_singleton] at hconfig'
    cases hconfig'
    rfl

theorem freshSession_obeys (hnone : lookups log = []) :
    (freshSession rt conn claims scope).Obeys (CreatesFrom VoicePolicy) (fun _ _ => True) log := by
  unfold freshSession
  dsimp only
  split_ifs
  · rw [CallProgram.obeys_bind]
    refine (CallProgram.obeys_ask_bind _).2 ⟨createsFrom_of_not_creation _ _ rfl, fun lookup => ?_⟩
    have hone : lookups (log ++ [⟨.resolveRegistryRuntimeConfig scope.tenantId scope.companyId,
        some lookup⟩]) = [some lookup] := by
      unfold lookups
      rw [List.filterMap_append, ← lookups, hnone]
      rfl
    cases lookup with
    | schemaVersion details =>
      exact (CallProgram.obeys_bind _ _ _).1
        (refuseWith_bind_obeys _ 1011 none _ (CallProgram.makes_pure none))
    | resolved registry =>
      cases registry with
      | none => exact obeys_of_makes_plain (refuseWith_plain _ 1008 none) _
      | some config =>
        have hconfigured := @configured_obeys rt conn claims scope _ (normalizeTemplateId rt.py
          (conn.param "industry_template_id" "industryTemplateId"))
          (if config.industryTemplateId = "" then conn.industry
            rt.py else config.industryTemplateId) config hone
        exact hconfigured
  · exact createFresh_obeys _ (fun config hconfig => by rw [hnone] at hconfig; cases hconfig)

theorem prepareSession_creates (hnone : lookups log = []) :
    (prepareSession rt conn claims).Obeys (CreatesFrom VoicePolicy) (fun _ _ => True) log := by
  unfold prepareSession
  dsimp only
  split_ifs
  · refine plain_bind_obeys (perform_plain rfl) (fun log' found hsame => ?_)
    cases found with
    | some session => exact obeys_of_makes_no_creation (resumeSession_creates_nothing session) log'
    | none => exact freshSession_obeys (hsame.trans hnone)
  · exact obeys_of_makes_plain (refuseWith_plain _ 1008 _) log

/-- **`initialize_session`**: a session it creates carries the agents and the capabilities of the
    configuration it has looked up. -/
theorem initializeSession_creates :
    (initializeSession rt conn).Obeys (CreatesFrom VoicePolicy) (fun _ _ => True) [] := by
  unfold initializeSession
  by_cases hpath : (pathIdMatches conn.userId && pathIdMatches conn.sessionId) = true
  · rw [if_pos hpath]
    refine plain_bind_obeys authenticate_plain (fun log authenticated hsame => ?_)
    cases authenticated with
    | none => exact trivial
    | some claims =>
      dsimp only
      split_ifs
      · refine plain_bind_obeys (perform_plain rfl) (fun log' _ hsame' => ?_)
        refine (prepareSession_creates (hsame'.trans hsame)).bind (fun log prepared _ => ?_)
        cases prepared with
        | none => exact trivial
        | some session =>
          exact obeys_of_makes_plain
            ((perform_plain rfl).bind (fun _ => CallProgram.makes_pure _)) log
      · exact obeys_of_makes_plain (refuse_plain 1008 _) log
  · rw [if_neg hpath]
    exact obeys_of_makes_plain (refuse_plain 1008 _) []

/-- **The registry keys of a text session** are those of the configuration that was looked up. -/
theorem bootstrapRegistry_obeys {state : Record} (hnone : lookups log = [])
    (hagents : state.value "app:enabled_agents" = .none)
    (hcapabilities : state.value "app:capabilities" = .none) :
    (bootstrapRegistry rt scope state).Obeys (CreatesFrom TextPolicy)
      (fun log' state' => ∀ config, some (.resolved (some config)) ∈ lookups log' →
        TextPolicy config state') log := by
  unfold bootstrapRegistry
  split_ifs
  · rw [CallProgram.obeys_bind]
    refine (CallProgram.obeys_attempt (c := InitCall.resolveRegistryRuntimeConfig scope.tenantId
      scope.companyId) log).2 ⟨createsFrom_of_not_creation _ _ rfl, fun lookup => ?_⟩
    have hone : lookups (log ++ [⟨.resolveRegistryRuntimeConfig scope.tenantId scope.companyId,
        lookup⟩]) = [lookup] := by
      unfold lookups
      rw [List.filterMap_append, ← lookups, hnone]
      rfl
    have hlessons : ∀ state : Record,
        (∀ config, some (.resolved (some config)) = lookup → TextPolicy config state) →
        (addLessons rt scope state).Obeys (CreatesFrom TextPolicy)
          (fun log' state' => ∀ config, some (.resolved (some config)) ∈ lookups log' →
            TextPolicy config state')
          (log ++ [⟨.resolveRegistryRuntimeConfig scope.tenantId scope.companyId, lookup⟩]) := by
      intro state hstate
      refine (addLessons_obeys state _).mono (fun _ _ h => h)
        (fun log' state' h config hconfig => ?_)
      obtain ⟨hlog, hsame⟩ := h
      rw [hlog, hone, List.mem_singleton] at hconfig
      exact (hstate config hconfig).of_same hsame
    cases lookup with
    | none =>
      intro config hconfig
      rw [hone, List.mem_singleton] at hconfig
      cases hconfig
    | some lookup =>
      cases lookup with
      | schemaVersion details =>
        intro config hconfig
        rw [hone, List.mem_singleton] at hconfig
        cases hconfig
      | resolved registry =>
        cases registry with
        | none => exact hlessons _ (fun config h => by cases h)
        | some config =>
          refine hlessons _ (fun config' h => ?_)
          cases h
          exact textRegistryState_textPolicy config hagents hcapabilities
  · intro config hconfig
    rw [hnone] at hconfig
    cases hconfig

/-- **`_ensure_session`**: a session it creates carries the template and the capabilities of the
    configuration it has looked up. -/
theorem ensureSession_creates (userId sessionId channel : String) :
    (ensureSession rt userId sessionId scope channel).Obeys (CreatesFrom TextPolicy)
      (fun _ _ => True) [] := by
  unfold ensureSession
  refine plain_bind_obeys (perform_plain rfl) (fun log found hsame => ?_)
  cases found with
  | some session => exact trivial
  | none =>
    have habsent : ∀ key ∈ ["app:enabled_agents", "app:capabilities"],
        Record.value (.ofList [("app:tenant_id", .str scope.tenantId),
          ("app:company_id", .str scope.companyId), ("app:channel", .str channel)]) key =
            .none := by
      intro key hkey
      unfold Dict.ofList
      simp only [List.mem_cons, List.not_mem_nil, or_false] at hkey
      rcases hkey with rfl | rfl <;>
        simp only [List.foldl_cons, List.foldl_nil, Record.value_set, String.reduceEq, if_false] <;>
        rfl
    refine (bootstrapRegistry_obeys hsame (habsent _ (by decide)) (habsent _ (by decide))).bind
      (fun log' state hstate => ?_)
    refine (CallProgram.obeys_ask_bind _).2 ⟨?_, fun _ => trivial⟩
    intro userId' id state' hcall config hconfig
    obtain ⟨-, -, rfl⟩ := InitCall.createSession.inj hcall
    exact hstate config hconfig

end

/-! ## Runs -/

/-- A run looks the configuration of a company up, and then creates a session with this state. -/
def OpensFor (calls : List InitCalled) (scope : CompanyScope) (state : Record) : Prop :=
  ∃ before after userId id created lookup,
    calls = before ++ ⟨.createSession userId id state, created⟩ :: after ∧
      ⟨.resolveRegistryRuntimeConfig scope.tenantId scope.companyId, lookup⟩ ∈ before

/-- A world that looks companies up in the registry. -/
def ServesRegistry (lib : RegistryLibrary) (content : RegistryContent)
    (world : List InitCalled → (c : InitCall) → Option c.Answer) : Prop :=
  ∀ log scope config, content.resolveRegistryConfig lib scope = .ok (some config) →
    world log (.resolveRegistryRuntimeConfig scope.tenantId scope.companyId) =
      some (.resolved (some config))

theorem fits_of_opensFor {Fits : ResolvedRegistryConfig → Record → Prop} {α : Type} {p : Init α}
    {world : List InitCalled → (c : InitCall) → Option c.Answer} {lib : RegistryLibrary}
    {content : RegistryContent} {scope : CompanyScope} {config : ResolvedRegistryConfig}
    {state : Record} (hp : p.Obeys (CreatesFrom Fits) (fun _ _ => True) [])
    (hserves : ServesRegistry lib content world)
    (hconfig : content.resolveRegistryConfig lib scope = .ok (some config))
    (hopens : OpensFor (p.run world []).1 scope state) : Fits config state := by
  obtain ⟨before, after, userId, id, created, lookup, hcalls, hlookup⟩ := hopens
  obtain ⟨calls, hlog, hallowed, -⟩ := CallProgram.obeys_run world hp
  rw [List.nil_append] at hlog
  have hanswered : lookup = some (.resolved (some config)) := by
    have hmem : (⟨.resolveRegistryRuntimeConfig scope.tenantId scope.companyId, lookup⟩ :
        InitCalled) ∈ (p.run world []).1 := by
      rw [hcalls]
      exact List.mem_append_left _ hlookup
    rcases CallProgram.mem_run world hmem with hnil | ⟨log', hworld⟩
    · cases hnil
    · exact hworld.trans (hserves log' scope config hconfig)
  refine hallowed before _ after (hlog.symm.trans hcalls) userId id state rfl config ?_
  rw [List.nil_append]
  refine List.mem_filterMap.2 ⟨_, hlookup, ?_⟩
  rw [← hanswered]

/-- **Voice and text sessions** of a company enforce one policy exactly if the company has a
    capability and its template declares no other agents than it would have by default. -/
theorem sessions_agree_iff (lib : RegistryLibrary) (content : RegistryContent)
    (scope : CompanyScope) {config : ResolvedRegistryConfig}
    (hconfig : content.resolveRegistryConfig lib scope = .ok (some config))
    (rt textRt : SessionRuntime) (conn : WsConnection) (userId sessionId channel : String)
    {world textWorld : List InitCalled → (c : InitCall) → Option c.Answer}
    (hworld : ServesRegistry lib content world) (htextWorld : ServesRegistry lib content textWorld)
    {voice text : Record}
    (hvoice : OpensFor ((initializeSession rt conn).run world []).1 scope voice)
    (htext : OpensFor ((ensureSession textRt userId sessionId scope channel).run textWorld []).1
      scope text) :
    GuardsAgree lib.toStrMethods voice text ↔
      ∃ template company, content.documents scope = some (template, company) ∧
        HasDefaultPolicy lib.toStrMethods template company := by
  obtain ⟨template, company, hdocuments, rfl⟩ := RegistryContent.documents_of_resolved hconfig
  have hvoicePolicy := fits_of_opensFor initializeSession_creates hworld hconfig hvoice
  have htextPolicy := fits_of_opensFor (ensureSession_creates userId sessionId channel) htextWorld
    hconfig htext
  rw [guardsAgree_iff_default hvoicePolicy htextPolicy]
  constructor
  · intro h
    exact ⟨template, company, hdocuments, h⟩
  · rintro ⟨template', company', hdocuments', h⟩
    rw [hdocuments] at hdocuments'
    cases hdocuments'
    exact h

/-- A library for ASCII texts. -/
def asciiRegistry : RegistryLibrary where
  toStrMethods := .ascii
  title s := s
  registryVersion _ _ := "v1-00000000"

variable (agents : List String)

/-- An electronics template that declares these agents. -/
def electronicsTemplate : Record :=
  .ofList [("schema_version", .int 1), ("capabilities", .list [.str "catalog_lookup"]),
    ("enabled_agents", .list (agents.map .str))]

def electronicsCompany : Record :=
  .ofList [("schema_version", .int 1), ("industry_template_id", .str "electronics")]

/-- A registry with one company, an electronics shop whose template declares these agents. -/
def shopRegistry : RegistryContent where
  industryTemplates id := if id = "electronics" then some (electronicsTemplate agents) else none
  companies tenantId companyId :=
    if tenantId = "acme" ∧ companyId = "shop" then some electronicsCompany else none

/-- A world with this registry and without stored sessions. -/
def registryWorld (content : RegistryContent) : List InitCalled → (c : InitCall) → Option c.Answer
  | _, .resolveRegistryRuntimeConfig tenantId companyId =>
    match content.resolveRegistryConfig asciiRegistry ⟨tenantId, companyId⟩ with
    | .ok config => some (.resolved config)
    | .error .schemaVersion => some (.schemaVersion "")
    | .error .mismatch => none
  | _, .validateWsToken _ _ => some none
  | _, .getSession _ _ => some none
  | _, .loadIndustryConfig _ => some []
  | _, .loadCompanyProfile _ _ => some .none
  | _, .loadCompanyKnowledge _ _ => some .none
  | _, .loadGlobalLessons _ _ => some []
  | _, .createSession _ _ _ => some none
  | _, .close _ _ => some ()
  | _, .accept => some ()
  | _, .sendText _ => some ()
  | _, .saveSessionState _ _ _ => some ()

theorem registryWorld_serves (content : RegistryContent) :
    ServesRegistry asciiRegistry content (registryWorld content) := by
  intro log scope config hconfig
  show (match content.resolveRegistryConfig asciiRegistry scope with
    | .ok config => some (RegistryLookup.resolved config)
    | .error .schemaVersion => some (RegistryLookup.schemaVersion "")
    | .error .mismatch => none) = _
  rw [hconfig]

/-- A runtime with the registry, without tokens. -/
def openRuntime : SessionRuntime :=
  { secretRuntime true with wsTokenSecret := "", hasConfigClient := true }

/-- A client of the shop. -/
def shopConnection : WsConnection where
  userId := "u"
  sessionId := "s"
  query := ⟨[("tenant_id", "acme"), ("company_id", "shop")], by decide⟩
  origin := none
  clientHost := none

def shopScope : CompanyScope := ⟨"acme", "shop"⟩

def createdState? : InitCalled → Option Record
  | ⟨.createSession _ _ state, _⟩ => some state
  | _ => none

def isShopLookup : InitCalled → Bool
  | ⟨.resolveRegistryRuntimeConfig tenantId companyId, _⟩ => tenantId = "acme" && companyId = "shop"
  | _ => false

/-- The calls of a run up to the first creation show for whom it opens a session. -/
theorem opensFor_shop (calls : List InitCalled) (n : ℕ)
    (hlookup : (calls.take n).any isShopLookup = true)
    (hcreated : (calls[n]?.bind createdState?).isSome = true) :
    ∃ state, OpensFor calls shopScope state := by
  obtain ⟨state, hstate⟩ := Option.isSome_iff_exists.1 hcreated
  obtain ⟨t, ht, hcreation⟩ := Option.bind_eq_some_iff.1 hstate
  obtain ⟨hlt, rfl⟩ := List.getElem?_eq_some_iff.1 ht
  obtain ⟨l, hl, hshop⟩ := List.any_eq_true.1 hlookup
  have hsplit : calls = calls.take n ++ calls[n] :: calls.drop (n + 1) := by
    rw [← List.drop_eq_getElem_cons hlt, List.take_append_drop]
  have hfound : ∃ lookup, l = ⟨.resolveRegistryRuntimeConfig "acme" "shop", lookup⟩ := by
    obtain ⟨c, r⟩ := l
    cases c with
    | resolveRegistryRuntimeConfig tenantId companyId =>
      obtain ⟨htenant, hcompany⟩ := Bool.and_eq_true_iff.1 hshop
      cases of_decide_eq_true htenant
      cases of_decide_eq_true hcompany
      exact ⟨r, rfl⟩
    | _ => cases hshop
  obtain ⟨lookup, rfl⟩ := hfound
  have hcreate : ∃ userId id created, calls[n] = ⟨.createSession userId id state, created⟩ := by
    rcases hcall : calls[n] with ⟨c, r⟩
    rw [hcall] at hcreation
    cases c with
    | createSession userId id state' =>
      cases hcreation
      exact ⟨userId, id, r, rfl⟩
    | _ => cases hcreation
  obtain ⟨userId, id, created, hcall⟩ := hcreate
  rw [hcall] at hsplit
  exact ⟨state, _, _, userId, id, created, lookup, hsplit, hl⟩

theorem shop_documents :
    (shopRegistry agents).documents shopScope =
      some (electronicsTemplate agents, electronicsCompany) := by
  have htemplate : companyTemplateId electronicsCompany = "electronics" := by decide +kernel
  have hcompany : (shopRegistry agents).companies shopScope.tenantId shopScope.companyId =
      some electronicsCompany := by
    show (if "acme" = "acme" ∧ "shop" = "shop" then some electronicsCompany else none) = _
    exact if_pos ⟨rfl, rfl⟩
  have hfound : (shopRegistry agents).industryTemplates (companyTemplateId electronicsCompany) =
      some (electronicsTemplate agents) := by
    rw [htemplate]
    show (if "electronics" = "electronics" then some (electronicsTemplate agents) else none) = _
    exact if_pos rfl
  rw [RegistryContent.documents, hcompany, Option.bind_eq_bind, Option.bind_some, hfound]
  rfl

/-- A configuration that is found is merged from the two documents. -/
theorem shop_resolves
    (h : (match (shopRegistry agents).resolveRegistryConfig asciiRegistry shopScope with
      | .ok (some _) => true
      | _ => false) = true) :
    (shopRegistry agents).resolveRegistryConfig asciiRegistry shopScope =
      .ok (some (mergedConfig asciiRegistry shopScope.tenantId shopScope.companyId
        (electronicsTemplate agents) electronicsCompany)) := by
  cases hresolved : (shopRegistry agents).resolveRegistryConfig asciiRegistry shopScope with
  | error e => rw [hresolved] at h; cases h
  | ok config =>
    rw [hresolved] at h
    cases config with
    | none => cases h
    | some config =>
      obtain ⟨template, company, hdocuments, rfl⟩ := RegistryContent.documents_of_resolved hresolved
      rw [shop_documents] at hdocuments
      cases hdocuments
      rfl

/-- The template declares the agents that the industry has by default. -/
theorem sessions_agree_default : ∃ voice text,
    OpensFor ((initializeSession openRuntime shopConnection).run
      (registryWorld (shopRegistry knownSubAgentNames)) []).1 shopScope voice ∧
    OpensFor ((ensureSession openRuntime "u" "s" shopScope "sms").run
      (registryWorld (shopRegistry knownSubAgentNames)) []).1 shopScope text ∧
    GuardsAgree .ascii voice text := by
  obtain ⟨voice, hvoice⟩ := opensFor_shop (((initializeSession openRuntime shopConnection).run
    (registryWorld (shopRegistry knownSubAgentNames)) []).1) 7 (by decide +kernel)
      (by decide +kernel)
  obtain ⟨text, htext⟩ := opensFor_shop (((ensureSession openRuntime "u" "s" shopScope "sms").run
    (registryWorld (shopRegistry knownSubAgentNames)) []).1) 3 (by decide +kernel)
      (by decide +kernel)
  have hresolves := shop_resolves knownSubAgentNames (by decide +kernel)
  refine ⟨voice, text, hvoice, htext, ?_⟩
  refine (sessions_agree_iff asciiRegistry _ shopScope hresolves openRuntime openRuntime
    shopConnection "u" "s" "sms" (registryWorld_serves _) (registryWorld_serves _) hvoice htext).2
      ⟨electronicsTemplate knownSubAgentNames, electronicsCompany, shop_documents _, ?_, ?_⟩
  · decide +kernel
  · have hsame : declaredAgents (electronicsTemplate knownSubAgentNames)
        (resolveCapabilities (electronicsTemplate knownSubAgentNames) electronicsCompany) =
      defaultAgents asciiRegistry.toStrMethods (companyTemplateId electronicsCompany)
        (resolveCapabilities (electronicsTemplate knownSubAgentNames) electronicsCompany) := by
      decide +kernel
    intro a
    rw [hsame]

/-- The template declares one agent only: the voice session keeps to it, the text session takes the
    five of the industry. -/
theorem sessions_disagree : ∃ voice text,
    OpensFor ((initializeSession openRuntime shopConnection).run
      (registryWorld (shopRegistry ["support_agent"])) []).1 shopScope voice ∧
    OpensFor ((ensureSession openRuntime "u" "s" shopScope "sms").run
      (registryWorld (shopRegistry ["support_agent"])) []).1 shopScope text ∧
    ¬ GuardsAgree .ascii voice text := by
  obtain ⟨voice, hvoice⟩ := opensFor_shop (((initializeSession openRuntime shopConnection).run
    (registryWorld (shopRegistry ["support_agent"])) []).1) 7 (by decide +kernel)
      (by decide +kernel)
  obtain ⟨text, htext⟩ := opensFor_shop (((ensureSession openRuntime "u" "s" shopScope "sms").run
    (registryWorld (shopRegistry ["support_agent"])) []).1) 3 (by decide +kernel)
      (by decide +kernel)
  have hresolves := shop_resolves ["support_agent"] (by decide +kernel)
  refine ⟨voice, text, hvoice, htext, fun hagree => ?_⟩
  have hvoicePolicy := fits_of_opensFor initializeSession_creates (registryWorld_serves _)
    hresolves hvoice
  have htextPolicy := fits_of_opensFor (ensureSession_creates "u" "s" "sms")
    (registryWorld_serves _) hresolves htext
  have hdefault := (guardsAgree_iff_default hvoicePolicy htextPolicy).1 hagree
  have hdeclared : "vision_agent" ∉ declaredAgents (electronicsTemplate ["support_agent"])
      (resolveCapabilities (electronicsTemplate ["support_agent"]) electronicsCompany) := by
    decide +kernel
  have hbuiltIn : "vision_agent" ∈ defaultAgents asciiRegistry.toStrMethods
      (companyTemplateId electronicsCompany)
      (resolveCapabilities (electronicsTemplate ["support_agent"]) electronicsCompany) := by
    decide +kernel
  exact hdeclared ((hdefault.agents "vision_agent").2 hbuiltIn)

end Ekaette
