import Ekaette.Realtime.SessionPolicy

set_option autoImplicit false

/-! # Revoking capabilities

Two companies whose documents differ in their capability overrides only. The voice session of the
one with fewer capabilities allows no more than that of the other; the text session leaves out an
empty list of capabilities, and the guards take its absence for a session without a policy. -/

namespace Ekaette

/-! ## What a session allows -/

/-- The agents that a policy admits; without a policy, all of them. -/
def Admits : Option (List String) → String → Prop
  | none, _ => True
  | some agents, agent => agent ∈ agents

/-- Whatever the first session allows, the second does. -/
structure Grants (py : StrMethods) (state state' : Record) : Prop where
  tools : ∀ tool, beforeToolCapabilityGuard state tool = none →
    beforeToolCapabilityGuard state' tool = none
  agents : ∀ agent, Admits (resolveEnabledAgentsFromState py state) agent →
    Admits (resolveEnabledAgentsFromState py state') agent

/-- Two documents of a company that differ in the overrides only. -/
def SameButOverrides (company company' : Record) : Prop :=
  ∀ key, key ≠ "capability_overrides" → company.get? key = company'.get? key

theorem SameButOverrides.templateId {company company' : Record}
    (h : SameButOverrides company company') :
    companyTemplateId company = companyTemplateId company' := by
  have hkey := h "industry_template_id" (by decide)
  unfold companyTemplateId Record.value
  rw [hkey]

theorem guard_eq_none_iff {state : Record} {caps : List String}
    (h : state.value "app:capabilities" = .list (caps.map .str)) (tool : String) :
    beforeToolCapabilityGuard state tool = none ↔ ∀ required ∈ toolCapabilityMap.lookup tool,
    required ∈ caps := by
  unfold beforeToolCapabilityGuard
  cases toolCapabilityMap.lookup tool with
  | none => simp
  | some required =>
    rw [h]
    have hmem : (caps.map PyValue.str).any (·.eqStr required) = true ↔ required ∈ caps := by
      rw [List.any_map, List.any_eq_true]
      constructor
      · rintro ⟨cap, hcap, heq⟩
        have hsame : cap = required := by simpa [PyValue.eqStr] using heq
        exact hsame ▸ hcap
      · intro hcap
        exact ⟨required, hcap, by simp [PyValue.eqStr]⟩
    by_cases hrequired : required ∈ caps
    · simp [hmem.2 hrequired, hrequired]
    · have hnot : ((caps.map PyValue.str).any (·.eqStr required)) = false := by
        rw [Bool.eq_false_iff]
        exact fun h => hrequired (hmem.1 h)
      simp [hnot, hrequired]

theorem guard_of_absent {state : Record} (h : state.value "app:capabilities" = .none)
    (tool : String) : beforeToolCapabilityGuard state tool = none := by
  unfold beforeToolCapabilityGuard
  cases toolCapabilityMap.lookup tool with
  | none => rfl
  | some required => rw [h]

theorem agentsForCapabilities_mono {caps caps' : List String} (h : caps ⊆ caps') :
    agentsForCapabilities caps ⊆ agentsForCapabilities caps' := by
  intro agent hagent
  unfold agentsForCapabilities at hagent ⊢
  simp only [List.mem_append] at hagent ⊢
  have hcase : ∀ (cap : String) (agents : List String),
    agent ∈ (if cap ∈ caps then agents else []) →
      agent ∈ (if cap ∈ caps' then agents else []) := by
    intro cap agents hmem
    split_ifs at hmem with hcap
    · rwa [if_pos (h hcap)]
    · cases hmem
  rcases hagent with ((hagent | hagent) | hagent) | hagent
  · exact .inl (.inl (.inl hagent))
  · exact .inl (.inl (.inr (hcase _ _ hagent)))
  · exact .inl (.inr (hcase _ _ hagent))
  · exact .inr (hcase _ _ hagent)

theorem support_mem_agentsForCapabilities (caps : List String) :
    "support_agent" ∈ agentsForCapabilities caps := by
  unfold agentsForCapabilities
  simp

theorem resolveEnabledAgents_mono (template : Record) {caps caps' : List String}
    (hsub : caps ⊆ caps') (hstripped : ∀ s ∈ caps, IsStripped s)
    (hstripped' : ∀ s ∈ caps', IsStripped s) :
    resolveEnabledAgentsFromTemplate template caps ⊆ resolveEnabledAgentsFromTemplate template
    caps' := by
  unfold resolveEnabledAgentsFromTemplate
  cases normalizeEnabledAgents (template.value "enabled_agents") with
  | some agents => exact List.Subset.refl _
  | none =>
    dsimp only
    by_cases hempty' : caps' = []
    · have hempty : caps = [] := List.subset_nil.1 (hempty' ▸ hsub)
      rw [hempty, hempty']
      exact List.Subset.refl _
    · rw [inferEnabledAgents_of_stripped hstripped' hempty', Option.getD_some]
      by_cases hempty : caps = []
      · rw [hempty]
        intro agent hagent
        -- without capabilities it is the support agent alone, whom every list of capabilities has
        rw [List.mem_singleton.1 hagent]
        exact support_mem_agentsForCapabilities caps'
      · rw [inferEnabledAgents_of_stripped hstripped hempty]
        exact agentsForCapabilities_mono hsub

/-! ## The two channels -/

section

variable {lib : RegistryLibrary} {scope : CompanyScope} {template company company' : Record}
    {state state' : Record}

/-- **Voice**: a subset of the capabilities allows a subset. -/
theorem grants_of_voicePolicy (hsub : resolveCapabilities template company ⊆ resolveCapabilities
    template company')
      (h : VoicePolicy (mergedConfig lib scope.tenantId scope.companyId template company) state)
    (h' : VoicePolicy (mergedConfig lib scope.tenantId scope.companyId template company') state') :
    Grants lib.toStrMethods state state' := by
  constructor
  · intro tool htool
    rw [guard_eq_none_iff h'.capabilities]
    intro required hrequired
    exact hsub ((guard_eq_none_iff h.capabilities tool).1 htool required hrequired)
  · intro agent hagent
    rw [agents_of_voicePolicy lib.toStrMethods rfl h] at hagent
    rw [agents_of_voicePolicy lib.toStrMethods rfl h']
    exact resolveEnabledAgents_mono template hsub (fun s hs =>
      isStripped_of_mem_resolveCapabilities hs)
      (fun s hs => isStripped_of_mem_resolveCapabilities hs) hagent

theorem agents_of_textPolicy_empty (py : StrMethods) {config : ResolvedRegistryConfig}
    (hempty : config.capabilities = []) (h : TextPolicy config state) :
    resolveEnabledAgentsFromState py state = defaultAgents? py config.industryTemplateId := by
  have hcaps : state.value "app:capabilities" = .none := by
    rw [h.capabilities, if_pos]
    rw [hempty]
    rfl
  have hbind : (PyValue.str config.industryTemplateId).str?.bind (defaultAgents? py) =
      defaultAgents? py config.industryTemplateId := rfl
  unfold resolveEnabledAgentsFromState
  rw [h.agents, h.template, h.industry, hcaps, hbind]
  cases defaultAgents? py config.industryTemplateId <;> rfl

/-- The second company keeps every capability that a tool needs, and its industry has agents. -/
structure KeepsAll (py : StrMethods) (config : ResolvedRegistryConfig) : Prop where
  tools : ∀ e ∈ toolCapabilityMap, e.2 ∈ config.capabilities
  agents : (defaultAgents? py config.industryTemplateId).isSome = true

/-- Where only the first company has no capability left. -/
theorem grants_of_stripped_iff {config config' : ResolvedRegistryConfig} (py : StrMethods)
    (hid : config.industryTemplateId = config'.industryTemplateId)
    (hempty : config.capabilities = []) (hne : config'.capabilities ≠ [])
    (hstripped : ∀ s ∈ config'.capabilities, IsStripped s)
    (h : TextPolicy config state) (h' : TextPolicy config' state') :
    Grants py state state' ↔ KeepsAll py config' := by
  have hcaps : state.value "app:capabilities" = .none := by
    rw [h.capabilities, hempty]
    rfl
  have hcaps' : state'.value "app:capabilities" = .list (config'.capabilities.map .str) := by
    rw [h'.capabilities, if_neg]
    rwa [List.isEmpty_iff]
  have hagents := agents_of_textPolicy_empty py hempty h
  have hagents' := agents_of_textPolicy py hstripped hne h'
  rw [hid] at hagents
  constructor
  · intro hgrants
    refine ⟨fun e he => ?_, ?_⟩
    · -- the first session is not guarded, so the second one must have what any tool needs
      have hlookup : toolCapabilityMap.lookup e.1 = some e.2 := by
        revert e
        decide
      exact (guard_eq_none_iff hcaps' e.1).1 (hgrants.tools e.1 (guard_of_absent hcaps e.1)) e.2
        hlookup
    · -- without a policy, the first session admits an agent that nobody knows
      by_contra hnone
      rw [Option.not_isSome_iff_eq_none] at hnone
      have hadmitted := hgrants.agents "" (by rw [hagents, hnone]; trivial)
      rw [hagents', defaultAgents, hnone, Option.getD_none] at hadmitted
      have hsub := agentsForCapabilities_mono
        (fun cap hcap => hcap : config'.capabilities ⊆ config'.capabilities) hadmitted
      simp only [agentsForCapabilities, List.mem_append, List.mem_singleton] at hsub
      split_ifs at hsub <;> simp at hsub
  · intro hkeeps
    refine ⟨fun tool _ => ?_, fun agent hagent => ?_⟩
    · rw [guard_eq_none_iff hcaps']
      intro required hrequired
      obtain ⟨before, after, hmap, -⟩ := List.lookup_eq_some_iff.1 hrequired
      exact hkeeps.tools (tool, required) (hmap ▸ List.mem_append_right _ List.mem_cons_self)
    · obtain ⟨agents, hsome⟩ := Option.isSome_iff_exists.1 hkeeps.agents
      rw [hagents, hsome] at hagent
      rw [hagents', defaultAgents, hsome]
      exact hagent

/-- **Text**: a subset of the capabilities allows a subset, unless only the first has none left. -/
theorem grants_of_textPolicy_iff (hsame : SameButOverrides company company')
    (hsub : resolveCapabilities template company ⊆ resolveCapabilities template company')
    (h : TextPolicy (mergedConfig lib scope.tenantId scope.companyId template company) state)
    (h' : TextPolicy (mergedConfig lib scope.tenantId scope.companyId template company') state') :
    Grants lib.toStrMethods state state' ↔
      resolveCapabilities template company ≠ [] ∨ resolveCapabilities template company' = [] ∨
        KeepsAll lib.toStrMethods (mergedConfig lib scope.tenantId scope.companyId template
          company') := by
  have hid : (mergedConfig lib scope.tenantId scope.companyId template company).industryTemplateId =
      (mergedConfig lib scope.tenantId scope.companyId template company').industryTemplateId :=
      hsame.templateId
  have hstripped : ∀ s ∈ resolveCapabilities template company, IsStripped s :=
    fun s hs => isStripped_of_mem_resolveCapabilities hs
  have hstripped' : ∀ s ∈ resolveCapabilities template company', IsStripped s :=
    fun s hs => isStripped_of_mem_resolveCapabilities hs
  by_cases hempty : resolveCapabilities template company = []
  · by_cases hempty' : resolveCapabilities template company' = []
    · refine iff_of_true ⟨fun tool _ => ?_, fun agent hagent => ?_⟩ (.inr (.inl hempty'))
      · refine guard_of_absent ?_ tool
        rw [h'.capabilities, if_pos]
        rw [List.isEmpty_iff]
        exact hempty'
      · rw [agents_of_textPolicy_empty lib.toStrMethods hempty h, hid] at hagent
        rwa [agents_of_textPolicy_empty lib.toStrMethods hempty' h']
    · -- only the first session's guard is gone
      rw [grants_of_stripped_iff lib.toStrMethods hid hempty hempty' hstripped' h h']
      simp only [hempty, hempty', ne_eq, not_true_eq_false, false_or]
  · have hempty' : resolveCapabilities template company' ≠ [] := by
      intro hnil
      rw [hnil] at hsub
      exact hempty (List.subset_nil.1 hsub)
    have hcaps : ∀ {config : ResolvedRegistryConfig} {s : Record}, config.capabilities ≠ [] →
    TextPolicy config s →
        s.value "app:capabilities" = .list (config.capabilities.map .str) := by
      intro config s hne hs
      rw [hs.capabilities, if_neg]
      rwa [List.isEmpty_iff]
    -- both sessions are guarded, and the industry decides whether the agents are inferred
    refine iff_of_true ⟨fun tool htool => ?_, fun agent hagent => ?_⟩ (.inl hempty)
    · rw [guard_eq_none_iff (hcaps hempty' h')]
      intro required hrequired
      exact hsub ((guard_eq_none_iff (hcaps hempty h) tool).1 htool required hrequired)
    · rw [agents_of_textPolicy lib.toStrMethods hstripped hempty h, hid] at hagent
      rw [agents_of_textPolicy lib.toStrMethods hstripped' hempty' h']
      unfold defaultAgents at hagent ⊢
      cases hdefault : defaultAgents? lib.toStrMethods
          (mergedConfig lib scope.tenantId scope.companyId template company').industryTemplateId
          with
      | some agents =>
        rw [hdefault] at hagent
        exact hagent
      | none =>
        rw [hdefault] at hagent
        exact agentsForCapabilities_mono hsub hagent

end

/-! ## Fresh sessions -/

/-- A voice session that a run of `initialize_session` has created with this registry. -/
def FreshVoice (lib : RegistryLibrary) (content : RegistryContent) (scope : CompanyScope)
    (state : Record) : Prop :=
  ∃ (rt : SessionRuntime) (conn : WsConnection) (world : List InitCalled → (c : InitCall) →
    Option c.Answer),
    ServesRegistry lib content world ∧ OpensFor ((initializeSession rt conn).run world []).1 scope
    state

/-- A text session that a run of `_ensure_session` has created with this registry. -/
def FreshText (lib : RegistryLibrary) (content : RegistryContent) (scope : CompanyScope)
    (state : Record) : Prop :=
  ∃ (rt : SessionRuntime) (userId sessionId channel : String)
    (world : List InitCalled → (c : InitCall) → Option c.Answer), ServesRegistry lib content world ∧
      OpensFor ((ensureSession rt userId sessionId scope channel).run world []).1 scope state

/-- **Fewer capabilities allow no more** in the fresh sessions of both channels, exactly unless the
    first company has none left, and the second has some but not all that the tools and the agents
    need. -/
theorem revoked_grants_nothing_iff (lib : RegistryLibrary) (content content' : RegistryContent)
    (scope : CompanyScope) {template company company' : Record}
    {config config' : ResolvedRegistryConfig}
    (hconfig : content.resolveRegistryConfig lib scope = .ok (some config))
    (hconfig' : content'.resolveRegistryConfig lib scope = .ok (some config'))
    (hdocuments : content.documents scope = some (template, company))
    (hdocuments' : content'.documents scope = some (template, company'))
    (hsame : SameButOverrides company company')
    (hsub : config.capabilities ⊆ config'.capabilities) {voice voice' text text' : Record}
    (hvoice : FreshVoice lib content scope voice) (hvoice' : FreshVoice lib content' scope voice')
    (htext : FreshText lib content scope text) (htext' : FreshText lib content' scope text') :
    (Grants lib.toStrMethods voice voice' ∧ Grants lib.toStrMethods text text') ↔
      config.capabilities ≠ [] ∨ config'.capabilities = [] ∨ KeepsAll lib.toStrMethods config' := by
  obtain ⟨template₁, company₁, hdocuments₁, rfl⟩ := RegistryContent.documents_of_resolved hconfig
  obtain ⟨template₂, company₂, hdocuments₂, rfl⟩ := RegistryContent.documents_of_resolved hconfig'
  rw [hdocuments] at hdocuments₁
  rw [hdocuments'] at hdocuments₂
  -- the two configurations are made from these documents
  cases hdocuments₁
  cases hdocuments₂
  obtain ⟨rt, conn, world, hserves, hopens⟩ := hvoice
  obtain ⟨rt', conn', world', hserves', hopens'⟩ := hvoice'
  have hvoicePolicy := fits_of_opensFor initializeSession_creates hserves hconfig hopens
  have hvoicePolicy' := fits_of_opensFor initializeSession_creates hserves' hconfig' hopens'
  obtain ⟨textRt, userId, sessionId, channel, textWorld, htextServes, htextOpens⟩ := htext
  obtain ⟨textRt', userId', sessionId', channel', textWorld', htextServes', htextOpens'⟩ := htext'
  have htextPolicy :=
    fits_of_opensFor (ensureSession_creates userId sessionId channel) htextServes hconfig htextOpens
  have htextPolicy' := fits_of_opensFor (ensureSession_creates userId' sessionId' channel')
    htextServes' hconfig' htextOpens'
  rw [and_iff_right (grants_of_voicePolicy hsub hvoicePolicy hvoicePolicy')]
  exact grants_of_textPolicy_iff hsame hsub htextPolicy htextPolicy'

variable (overrides : List (String × PyValue))

/-- An electronics shop with these overrides. -/
def overridingCompany : Record :=
  electronicsCompany.set "capability_overrides" (.dict overrides)

/-- A registry with this shop. -/
def shopWith : RegistryContent where
  industryTemplates id :=
    if id = "electronics" then some (electronicsTemplate knownSubAgentNames) else none
  companies tenantId companyId :=
    if tenantId = "acme" ∧ companyId = "shop" then some (overridingCompany overrides) else none

theorem overridingCompany_get? {key : String}
    (h : key ≠ "capability_overrides") : (overridingCompany overrides).get? key =
    electronicsCompany.get? key :=
  Dict.get?_set_of_ne _ _ h

theorem shopWith_documents :
    (shopWith overrides).documents shopScope = some (electronicsTemplate knownSubAgentNames,
      overridingCompany overrides) := by
  have htemplate : companyTemplateId (overridingCompany overrides) = "electronics" := by
    unfold companyTemplateId Record.value
    rw [overridingCompany_get? overrides (by decide)]
    decide +kernel
  have hcompany : (shopWith overrides).companies shopScope.tenantId shopScope.companyId =
      some (overridingCompany overrides) := by
    show (if "acme" = "acme" ∧ "shop" = "shop" then some (overridingCompany overrides) else none) =
      _
    exact if_pos ⟨rfl, rfl⟩
  have hfound :
    (shopWith overrides).industryTemplates (companyTemplateId (overridingCompany overrides)) =
      some (electronicsTemplate knownSubAgentNames) := by
    rw [htemplate]
    show (if "electronics" = "electronics" then some (electronicsTemplate knownSubAgentNames) else
      none) = _
    exact if_pos rfl
  rw [RegistryContent.documents, hcompany, Option.bind_eq_bind, Option.bind_some, hfound]
  rfl

theorem shopWith_resolves
    (h : ((shopWith overrides).resolveRegistryConfig asciiRegistry shopScope).toOption.join.isSome =
      true) :
    (shopWith overrides).resolveRegistryConfig asciiRegistry shopScope =
      .ok (some (mergedConfig asciiRegistry shopScope.tenantId shopScope.companyId
        (electronicsTemplate knownSubAgentNames) (overridingCompany overrides))) := by
  cases hresolved : (shopWith overrides).resolveRegistryConfig asciiRegistry shopScope with
  | error e => rw [hresolved] at h; cases h
  | ok config =>
    rw [hresolved] at h
    cases config with
    | none => cases h
    | some config =>
      obtain ⟨template, company, hdocuments, rfl⟩ := RegistryContent.documents_of_resolved hresolved
      rw [shopWith_documents] at hdocuments
      cases hdocuments
      rfl

/-- The overrides of three companies: nothing, one capability more, one less. -/
def addPolicy : List (String × PyValue) := [("add", .list [.str "policy_qa"])]

def removeCatalog : List (String × PyValue) := [("remove", .list [.str "catalog_lookup"])]

theorem freshVoice_shop (h : overrides ∈ [[], addPolicy, removeCatalog]) :
    ∃ state, FreshVoice asciiRegistry (shopWith overrides) shopScope state := by
  have hrun : (((initializeSession openRuntime shopConnection).run
    (registryWorld (shopWith overrides)) []).1.take
        7).any isShopLookup = true ∧
      ((((initializeSession openRuntime shopConnection).run (registryWorld (shopWith overrides))
        []).1)[7]?.bind createdState?).isSome = true := by
    revert overrides
    decide +kernel
  obtain ⟨state, hstate⟩ := opensFor_shop _ 7 hrun.1 hrun.2
  exact ⟨state, openRuntime, shopConnection, _, registryWorld_serves _, hstate⟩

theorem freshText_shop (h : overrides ∈ [[], addPolicy, removeCatalog]) :
    ∃ state, FreshText asciiRegistry (shopWith overrides) shopScope state := by
  have hrun : (((ensureSession openRuntime "u" "s" shopScope "sms").run
    (registryWorld (shopWith overrides)) []).1.take
        3).any isShopLookup = true ∧
      ((((ensureSession openRuntime "u" "s" shopScope "sms").run
        (registryWorld (shopWith overrides)) []).1)[3]?.bind createdState?).isSome = true := by
    revert overrides
    decide +kernel
  obtain ⟨state, hstate⟩ := opensFor_shop _ 3 hrun.1 hrun.2
  exact ⟨state, openRuntime, "u", "s", "sms", _, registryWorld_serves _, hstate⟩

theorem overridingCompany_sameButOverrides (overrides overrides' : List (String × PyValue)) :
    SameButOverrides (overridingCompany overrides) (overridingCompany overrides') := by
  intro key hkey
  rw [overridingCompany_get? overrides hkey, overridingCompany_get? overrides' hkey]

/-- One capability less of two. -/
theorem revoked_grants_nothing_iff_policy : ∃ voice voice' text text',
    FreshVoice asciiRegistry (shopWith []) shopScope voice ∧
    FreshVoice asciiRegistry (shopWith addPolicy) shopScope voice' ∧
    FreshText asciiRegistry (shopWith []) shopScope text ∧
    FreshText asciiRegistry (shopWith addPolicy) shopScope text' ∧
    Grants .ascii voice voice' ∧ Grants .ascii text text' := by
  obtain ⟨voice, hvoice⟩ := freshVoice_shop [] (by simp)
  obtain ⟨voice', hvoice'⟩ := freshVoice_shop addPolicy (by simp)
  obtain ⟨text, htext⟩ := freshText_shop [] (by simp)
  obtain ⟨text', htext'⟩ := freshText_shop addPolicy (by simp)
  have hgrants := (revoked_grants_nothing_iff asciiRegistry (shopWith [])
    (shopWith addPolicy) shopScope
    (shopWith_resolves [] (by decide +kernel)) (shopWith_resolves addPolicy (by decide +kernel))
    (shopWith_documents []) (shopWith_documents addPolicy) (overridingCompany_sameButOverrides _ _)
    (by decide +kernel) hvoice hvoice' htext htext').2 (.inl (by decide +kernel))
  exact ⟨voice, voice', text, text', hvoice, hvoice', htext, htext', hgrants⟩

/-- The last capability is removed: the text session may now create bookings. -/
theorem revoked_grants_booking : ∃ text text',
    FreshText asciiRegistry (shopWith removeCatalog) shopScope text ∧
    FreshText asciiRegistry (shopWith []) shopScope text' ∧
    resolveCapabilities (electronicsTemplate knownSubAgentNames) (overridingCompany removeCatalog) ⊆
      resolveCapabilities (electronicsTemplate knownSubAgentNames) (overridingCompany []) ∧
    ¬ Grants .ascii text text' := by
  obtain ⟨text, htext⟩ := freshText_shop removeCatalog (by simp)
  obtain ⟨text', htext'⟩ := freshText_shop [] (by simp)
  refine ⟨text, text', htext, htext', by decide +kernel, fun hgrants => ?_⟩
  obtain ⟨textRt, userId, sessionId, channel, textWorld, htextServes, htextOpens⟩ := htext
  obtain ⟨textRt', userId', sessionId', channel', textWorld', htextServes', htextOpens'⟩ := htext'
  have htextPolicy := fits_of_opensFor (ensureSession_creates userId sessionId channel) htextServes
    (shopWith_resolves removeCatalog (by decide +kernel)) htextOpens
  have htextPolicy' := fits_of_opensFor (ensureSession_creates userId' sessionId' channel')
    htextServes' (shopWith_resolves [] (by decide +kernel)) htextOpens'
  have hcond := (grants_of_textPolicy_iff (overridingCompany_sameButOverrides _ _)
    (by decide +kernel) htextPolicy htextPolicy').1 hgrants
  rcases hcond with hne | hempty' | hkeeps
  · exact hne (by decide +kernel)
  · exact absurd hempty' (by decide +kernel)
  · have hbooking := hkeeps.tools ("create_booking", "booking_reservations") (by decide)
    exact absurd hbooking (by decide +kernel)

end Ekaette
