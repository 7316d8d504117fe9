import Ekaette.Realtime.InitializeSession

set_option autoImplicit false

/-! # The registry configuration of a company

`configs/registry_loader.py` merges the document of a company with the industry template it refers
to, and `configs/agent_policy.py` says which sub-agents the result enables. -/

namespace Ekaette

/-! ## Sub-agents -/

/-- `KNOWN_SUB_AGENT_NAMES`. -/
def knownSubAgentNames : List String :=
  ["vision_agent", "valuation_agent", "booking_agent", "catalog_agent", "support_agent"]

/-- `_DEFAULT_ENABLED_AGENTS_BY_INDUSTRY`. -/
def defaultEnabledAgentsByIndustry : List (String × List String) :=
  [("electronics", ["vision_agent", "valuation_agent", "booking_agent", "catalog_agent",
    "support_agent"]), ("hotel", ["booking_agent", "support_agent"]),
    ("automotive", ["vision_agent", "valuation_agent", "booking_agent", "catalog_agent",
      "support_agent"]),
    ("fashion", ["catalog_agent", "support_agent"]),
    ("telecom", ["catalog_agent", "support_agent"]),
    ("aviation-support", ["support_agent"]),
    ("aviation", ["support_agent"])]

/-- The strings of a list, stripped, as far as they are kept. -/
def keptStrings (keep : String → Bool) (xs : List PyValue) : List String :=
  xs.filterMap (fun v => (v.str?.map PyStr.strip).filter keep)

/-- The stripped strings of a list, without the blank ones. -/
def strippedStrings (xs : List PyValue) : List String := keptStrings (· ≠ "") xs

/-- `normalize_enabled_agents`. -/
def normalizeEnabledAgents : PyValue → Option (List String)
  | .list xs => some (keptStrings (· ∈ knownSubAgentNames) xs)
  | _ => none

/-- `allowed`, for a set of capabilities. -/
def agentsForCapabilities (caps : List String) : List String :=
  ["support_agent"] ++ (if "catalog_lookup" ∈ caps then ["catalog_agent"] else []) ++
    (if "booking_reservations" ∈ caps then ["booking_agent"] else []) ++
    (if "valuation_tradein" ∈ caps then ["vision_agent", "valuation_agent"] else [])

/-- `infer_enabled_agents_from_capabilities`. -/
def inferEnabledAgentsFromCapabilities : PyValue → Option (List String)
  | .list xs =>
    if (strippedStrings xs).isEmpty then none else some (agentsForCapabilities (strippedStrings xs))
  | _ => none

/-- `resolve_enabled_agents_from_template`. -/
def resolveEnabledAgentsFromTemplate (template : Record) (capabilities : List String) :
    List String :=
  match normalizeEnabledAgents (template.value "enabled_agents") with
  | some agents => agents
  | none =>
    (inferEnabledAgentsFromCapabilities (.list (capabilities.map .str))).getD ["support_agent"]

/-- The default agents of an industry, by its trimmed name in lower case. -/
def defaultAgents? (py : StrMethods) (industry : String) : Option (List String) :=
  defaultEnabledAgentsByIndustry.lookup (py.lower (PyStr.strip industry))

/-- `resolve_enabled_agents_from_state`. -/
def resolveEnabledAgentsFromState (py : StrMethods) (state : Record) : Option (List String) :=
  match normalizeEnabledAgents (state.value "app:enabled_agents") with
  | some direct => some direct
  | none =>
    match (state.value "app:industry_template_id").str?.bind (defaultAgents? py) with
    | some agents => some agents
    | none =>
      match (state.value "app:industry").str?.bind (defaultAgents? py) with
      | some agents => some agents
      | none => inferEnabledAgentsFromCapabilities (state.value "app:capabilities")

/-! ## Resolving -/

/-- The methods of strings, and the two functions whose results no guard reads. -/
structure RegistryLibrary extends StrMethods where
  /-- `s.title()` -/
  title : String → String
  /-- `_compute_registry_version` of a template and a company -/
  registryVersion : Record → Record → String

/-- The documents of the registry. -/
structure RegistryContent where
  /-- `industry_templates/{id}` -/
  industryTemplates : String → Option Record
  /-- `tenants/{tenant_id}/companies/{company_id}` -/
  companies : String → String → Option Record

inductive RegistryError where
  /-- `RegistrySchemaVersionError` -/
  | schemaVersion
  /-- `RegistryMismatchError` -/
  | mismatch
  deriving DecidableEq

/-- `validate_registry_schema_version`: the only supported version is 1. -/
def schemaVersionSupported (data : Record) : Bool :=
  (data.value "schema_version").int?.any (fun version => 1 ≤ version && version ≤ 1)

/-- A loaded document; a missing one is no error. -/
def loadDocument : Option Record → Except RegistryError (Option Record)
  | none => .ok none
  | some data => if schemaVersionSupported data then .ok (some data) else .error .schemaVersion

/-- `_string_or_default`. -/
def stringOrDefault (v : PyValue) (default : String) : String :=
  ((v.str?.map PyStr.strip).filter (· ≠ "")).getD default

/-- `_dict_or_empty`. -/
def dictOrEmpty (v : PyValue) : List (String × PyValue) := v.dict?.getD []

/-- `_list_of_strings`. -/
def listOfStrings : PyValue → List String
  | .list xs => strippedStrings xs
  | _ => []

/-- `_resolve_capabilities`. -/
def resolveCapabilities (template company : Record) : List String :=
  let base := listOfStrings (template.value "capabilities")
  match (company.value "capability_overrides").dict? with
  | none => base
  | some overrides =>
    let base := (listOfStrings (PyValue.lookupD overrides "add")).foldl
      (fun base cap => if cap ∈ base then base else base ++ [cap]) base
    (listOfStrings (PyValue.lookupD overrides "remove")).foldl List.erase base

/-- `template_id` of a company. -/
def companyTemplateId (company : Record) : String :=
  stringOrDefault (company.value "industry_template_id") ""

/-- The configuration of a company with its template. -/
def mergedConfig (lib : RegistryLibrary) (tenantId companyId : String) (template company : Record) :
    ResolvedRegistryConfig :=
  let templateId := companyTemplateId company
  let uiOverrides := dictOrEmpty (company.value "ui_overrides")
  let capabilities := resolveCapabilities template company
  { tenantId, companyId
    industryTemplateId := templateId
    templateCategory := stringOrDefault (template.value "category") templateId
    templateLabel := stringOrDefault (template.value "label")
      (stringOrDefault (template.value "name") (lib.title templateId))
    capabilities
    voice := stringOrDefault (PyValue.lookupD uiOverrides "voice")
      (stringOrDefault (template.value "default_voice") "Aoede")
    theme := dictOrEmpty (template.value "theme")
    greeting := stringOrDefault (template.value "greeting_policy") ""
    connectorManifest := dictOrEmpty (company.value "connectors")
    registryVersion := lib.registryVersion template company
    enabledAgents := resolveEnabledAgentsFromTemplate template capabilities }

namespace RegistryContent

/-- The template and the company that are merged for a company. -/
def documents (content : RegistryContent) (scope : CompanyScope) : Option (Record × Record) := do
  let company ← content.companies scope.tenantId scope.companyId
  let template ← content.industryTemplates (companyTemplateId company)
  some (template, company)

/-- `resolve_registry_config`. -/
def resolveRegistryConfig (lib : RegistryLibrary) (content : RegistryContent)
    (scope : CompanyScope) : Except RegistryError (Option ResolvedRegistryConfig) := do
  match ← loadDocument (content.companies scope.tenantId scope.companyId) with
  | none => .ok none
  | some company =>
    let templateId := companyTemplateId company
    if templateId = "" then .ok none
    else
      match ← loadDocument (content.industryTemplates templateId) with
      | none => .ok none
      | some template =>
        if (template.getD "id" (.str templateId)).eqStr templateId then
          .ok (some (mergedConfig lib scope.tenantId scope.companyId template company))
        else .error .mismatch

theorem loadDocument_eq_some {data : Option Record} {doc : Record}
    (h : loadDocument data = .ok (some doc)) : data = some doc := by
  cases data with
  | none => cases h
  | some data =>
    rw [loadDocument] at h
    split_ifs at h
    exact Except.ok.inj h

/-- **A configuration is merged from the documents of its company.** -/
theorem documents_of_resolved {lib : RegistryLibrary} {content : RegistryContent}
    {scope : CompanyScope} {config : ResolvedRegistryConfig}
    (h : content.resolveRegistryConfig lib scope = .ok (some config)) :
    ∃ template company, content.documents scope = some (template, company) ∧
      config = mergedConfig lib scope.tenantId scope.companyId template company := by
  unfold resolveRegistryConfig at h
  cases hcompany : loadDocument (content.companies scope.tenantId scope.companyId) with
  | error e => rw [hcompany] at h; cases h
  | ok company =>
    rw [hcompany] at h
    cases company with
    | none => cases h
    | some company =>
      have hstored := loadDocument_eq_some hcompany
      replace h : (if companyTemplateId company = "" then .ok none
          else do
            match ← loadDocument (content.industryTemplates (companyTemplateId company)) with
            | none => .ok none
            | some template =>
              if (template.getD "id" (.str (companyTemplateId company))).eqStr
                  (companyTemplateId company) then
                .ok (some (mergedConfig lib scope.tenantId scope.companyId template company))
              else .error .mismatch : Except RegistryError (Option ResolvedRegistryConfig)) =
          .ok (some config) := h
      by_cases hid : companyTemplateId company = ""
      · rw [if_pos hid] at h
        cases h
      · rw [if_neg hid] at h
        cases htemplate : loadDocument (content.industryTemplates (companyTemplateId company)) with
        | error e => rw [htemplate] at h; cases h
        | ok template =>
          rw [htemplate] at h
          cases template with
          | none => cases h
          | some template =>
            have hloaded := loadDocument_eq_some htemplate
            refine ⟨template, company, ?_, ?_⟩
            · rw [documents, hstored, Option.bind_eq_bind, Option.bind_some, hloaded]
              rfl
            · replace h : (if (template.getD "id" (.str (companyTemplateId company))).eqStr
                  (companyTemplateId company) then
                  .ok (some (mergedConfig lib scope.tenantId scope.companyId template company))
                  else .error .mismatch : Except RegistryError (Option ResolvedRegistryConfig)) =
                  .ok (some config) := h
              split_ifs at h
              exact (Option.some_inj.1 (Except.ok.inj h)).symm

end RegistryContent

/-! ## What is resolved -/

/-- Stripped and not blank. -/
def IsStripped (s : String) : Prop := PyStr.strip s = s ∧ s ≠ ""

theorem mem_keptStrings {keep : String → Bool} {xs : List PyValue} {s : String}
    (h : s ∈ keptStrings keep xs) : PyStr.strip s = s ∧ keep s = true := by
  obtain ⟨v, -, hv⟩ := List.mem_filterMap.1 h
  obtain ⟨hmap, hkeep⟩ := Option.filter_eq_some_iff.1 hv
  obtain ⟨raw, -, rfl⟩ := Option.map_eq_some_iff.1 hmap
  exact ⟨PyStr.strip_strip raw, hkeep⟩

theorem keptStrings_map_str {keep : String → Bool} {xs : List String}
    (h : ∀ s ∈ xs, PyStr.strip s = s ∧ keep s = true) : keptStrings keep (xs.map .str) = xs := by
  induction xs with
  | nil => rfl
  | cons s xs ih =>
    obtain ⟨hstrip, hkeep⟩ := h s List.mem_cons_self
    have hkept : ((PyValue.str s).str?.map PyStr.strip).filter keep = some s := by
      rw [PyValue.str?_str, Option.map_some, hstrip]
      exact Option.filter_some_pos hkeep
    have htail := ih (fun t ht => h t (List.mem_cons_of_mem s ht))
    unfold keptStrings at htail ⊢
    simp only [List.map_cons, List.filterMap_cons, hkept, htail]

theorem isStripped_of_mem_listOfStrings {v : PyValue} {s : String} (h : s ∈ listOfStrings v) :
    IsStripped s := by
  cases v with
  | list xs =>
    obtain ⟨hstrip, hkeep⟩ := mem_keptStrings h
    exact ⟨hstrip, of_decide_eq_true hkeep⟩
  | _ => cases h

/-- **Capabilities** are stripped and not blank. -/
theorem isStripped_of_mem_resolveCapabilities {template company : Record} {cap : String}
    (h : cap ∈ resolveCapabilities template company) : IsStripped cap := by
  unfold resolveCapabilities at h
  cases hoverrides : (company.value "capability_overrides").dict? with
  | none =>
    rw [hoverrides] at h
    exact isStripped_of_mem_listOfStrings h
  | some overrides =>
    rw [hoverrides] at h
    dsimp only at h
    have hremove : ∀ (removed base : List String), cap ∈ removed.foldl List.erase base →
        cap ∈ base := by
      intro removed
      induction removed with
      | nil => exact fun base h => h
      | cons r removed ih => exact fun base h => List.mem_of_mem_erase (ih (base.erase r) h)
    have hadd : ∀ (added base : List String), (∀ s ∈ base, IsStripped s) →
        (∀ s ∈ added, IsStripped s) →
        ∀ s ∈ added.foldl (fun base cap => if cap ∈ base then base else base ++ [cap]) base,
          IsStripped s := by
      intro added
      induction added with
      | nil => exact fun base hbase _ => hbase
      | cons a added ih =>
        intro base hbase hadded
        refine ih _ ?_ (fun s hs => hadded s (List.mem_cons_of_mem a hs))
        intro s hs
        dsimp only at hs
        split_ifs at hs with ha
        · exact hbase s hs
        · rcases List.mem_append.1 hs with hs | hs
          · exact hbase s hs
          · rw [List.mem_singleton.1 hs]
            exact hadded a List.mem_cons_self
    exact hadd _ _ (fun s hs => isStripped_of_mem_listOfStrings hs)
      (fun s hs => isStripped_of_mem_listOfStrings hs) cap (hremove _ _ h)

theorem mem_known_of_mem_agentsForCapabilities {caps : List String} {a : String}
    (h : a ∈ agentsForCapabilities caps) : a ∈ knownSubAgentNames := by
  have hsub : ∀ a ∈ ["support_agent"] ++ ["catalog_agent"] ++ ["booking_agent"] ++
      ["vision_agent", "valuation_agent"], a ∈ knownSubAgentNames := by
    decide
  have hsome : a ∈ ["support_agent"] ++ ["catalog_agent"] ++ ["booking_agent"] ++
      ["vision_agent", "valuation_agent"] := by
    unfold agentsForCapabilities at h
    simp only [List.mem_append] at h ⊢
    rcases h with ((h | h) | h) | h
    · exact Or.inl (Or.inl (Or.inl h))
    · split_ifs at h
      · exact Or.inl (Or.inl (Or.inr h))
      · cases h
    · split_ifs at h
      · exact Or.inl (Or.inr h)
      · cases h
    · split_ifs at h
      · exact Or.inr h
      · cases h
  exact hsub a hsome

theorem strip_of_mem_known {a : String} (h : a ∈ knownSubAgentNames) : PyStr.strip a = a := by
  revert a
  decide +kernel

theorem normalizeEnabledAgents_known {agents : List String}
    (h : ∀ a ∈ agents, a ∈ knownSubAgentNames) :
    normalizeEnabledAgents (.list (agents.map .str)) = some agents := by
  rw [normalizeEnabledAgents,
    keptStrings_map_str (fun a ha => ⟨strip_of_mem_known (h a ha), decide_eq_true (h a ha)⟩)]

theorem mem_known_of_normalizeEnabledAgents {v : PyValue} {agents : List String}
    (h : normalizeEnabledAgents v = some agents) {a : String} (ha : a ∈ agents) :
    a ∈ knownSubAgentNames := by
  cases v with
  | list xs =>
    rw [← Option.some_inj.1 h] at ha
    exact of_decide_eq_true (mem_keptStrings ha).2
  | _ => cases h

theorem inferEnabledAgents_of_stripped {caps : List String} (h : ∀ s ∈ caps, IsStripped s)
    (hne : caps ≠ []) :
    inferEnabledAgentsFromCapabilities (.list (caps.map .str)) =
    some (agentsForCapabilities caps) := by
  have hkept : strippedStrings (caps.map .str) = caps :=
    keptStrings_map_str (fun s hs => ⟨(h s hs).1, decide_eq_true (h s hs).2⟩)
  rw [inferEnabledAgentsFromCapabilities, hkept, if_neg]
  rwa [List.isEmpty_iff]

/-- **The agents of a template** are known, whatever it says. -/
theorem mem_known_of_mem_resolveEnabledAgents {template : Record} {caps : List String} {a : String}
    (h : a ∈ resolveEnabledAgentsFromTemplate template caps) : a ∈ knownSubAgentNames := by
  unfold resolveEnabledAgentsFromTemplate at h
  cases hnamed : normalizeEnabledAgents (template.value "enabled_agents") with
  | some agents =>
    rw [hnamed] at h
    exact mem_known_of_normalizeEnabledAgents hnamed h
  | none =>
    rw [hnamed] at h
    dsimp only at h
    rw [inferEnabledAgentsFromCapabilities] at h
    split_ifs at h
    · rw [List.mem_singleton.1 h]
      decide
    · exact mem_known_of_mem_agentsForCapabilities h

end Ekaette
