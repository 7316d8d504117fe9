import Ekaette.Admin.Mutations

set_option autoImplicit false

/-! # What a mutation fingerprints

Where a route answers before its preflight, it answers with an error; else it hands over a payload
that is fingerprinted. Which part of the payload is the request's own and which is read from the
registry or from the clock differs from route to route. Here one lemma a route says what it
fingerprints, if anything, and that it commits no error. -/

namespace Ekaette

variable {env : AdminEnv} {registry : AdminRegistry} {tenantId companyId rawCompanyId : String}
  {response : AdminResponse}

/-! ## Refusals -/

theorem firstError_mem {errors : List (Bool × AdminResponse)} {response : AdminResponse}
    (h : firstError errors = some response) : ∃ e ∈ errors, e.2 = response := by
  induction errors with
  | nil => cases h
  | cons e errors ih =>
    obtain ⟨applies, first⟩ := e
    rw [firstError] at h
    split_ifs at h
    · exact ⟨_, List.mem_cons_self, Option.some.inj h⟩
    · obtain ⟨e, he, hresponse⟩ := ih h
      exact ⟨e, List.mem_cons_of_mem _ he, hresponse⟩

theorem load_refused (h : loadRegistryCompanyDoc env registry tenantId companyId = .error response)
    : 400 ≤ response.status := by
  unfold loadRegistryCompanyDoc at h
  split at h
  · cases h
    exact (by decide : (400 : ℤ) ≤ 404)
  · split_ifs at h
    cases h
    exact (by decide : (400 : ℤ) ≤ 503)

theorem onboarding_refused {cfg : AdminSettings} {templateId : String}
    (h : checkOnboarding cfg registry tenantId templateId = some response) :
    400 ≤ response.status := by
  unfold checkOnboarding at h
  split at h
  · cases h
    exact (by decide : (400 : ℤ) ≤ 503)
  · split_ifs at h
    cases h
    exact (by decide : (400 : ℤ) ≤ 404)

/-- A complaint about the fields of a company. -/
theorem fields_refused {errors : List (Bool × AdminResponse)}
    (herrors : ∀ e ∈ errors, e.2 ∈ [invalidTemplateId, invalidDisplayName, invalidStatus])
    (h : firstError errors = some response) : 400 ≤ response.status := by
  obtain ⟨e, he, rfl⟩ := firstError_mem h
  have hmem := herrors e he
  simp only [List.mem_cons, List.not_mem_nil, or_false] at hmem
  have hstatus : e.2.status = 400 := by
    rcases hmem with hmem | hmem | hmem <;> rw [hmem] <;> rfl
  exact hstatus.ge

/-! ## What a route does -/

/-- **What a route does**, where `v` is what it fingerprints: it is refused, or it is prepared, and
    a response that it commits is no error. -/
def PreparesAs {α : Type} (fingerprinted : α → PyValue)
    (committed : α → Except AdminResponse AdminResponse)
    (result : Except AdminResponse α) : Option PyValue → Prop
  | none => ∃ refusal, result = .error refusal ∧ 400 ≤ refusal.status
  | some v => ∃ prepared, result = .ok prepared ∧ fingerprinted prepared = v ∧
      ∀ response, committed prepared = .ok response → response.status < 400

/-- What a route of the registry does. -/
abbrev RoutePreparesAs (result : Except AdminResponse PreparedRequest) (v : Option PyValue) :
    Prop :=
  PreparesAs PreparedRequest.fingerprinted (fun prepared => prepared.outcome.2) result v

section

variable {α : Type} {fingerprinted : α → PyValue}
    {committed : α → Except AdminResponse AdminResponse}

theorem preparesAs_error {refusal : AdminResponse} (h : 400 ≤ refusal.status) :
    PreparesAs fingerprinted committed (.error refusal) none := ⟨refusal, rfl, h⟩

theorem preparesAs_ok {prepared : α}
    (h : ∀ response, committed prepared = .ok response → response.status < 400) :
    PreparesAs fingerprinted committed (.ok prepared) (some (fingerprinted prepared)) :=
    ⟨prepared, rfl, rfl, h⟩

end

/-- The company that a request finds. -/
def foundCompany (py : StrMethods) (env : AdminEnv) (registry : AdminRegistry)
    (tenantId rawCompanyId : String) : Option (String × Record) :=
  match normalizeCompanyIdStrict py rawCompanyId with
  | none => none
  | some companyId =>
    match loadRegistryCompanyDoc env registry tenantId companyId with
    | .error _ => none
    | .ok company => some (companyId, company)

/-- The id is that of the request, whatever is stored. -/
theorem foundCompany_fst {py : StrMethods} {env' : AdminEnv} {registry' : AdminRegistry}
    {found found' : String × Record}
    (h : foundCompany py env registry tenantId rawCompanyId = some found)
    (h' : foundCompany py env' registry' tenantId rawCompanyId = some found') :
    found'.1 = found.1 := by
  unfold foundCompany at h h'
  cases hid : normalizeCompanyIdStrict py rawCompanyId with
  | none =>
    rw [hid] at h
    cases h
  | some companyId =>
    rw [hid] at h h'
    dsimp only at h h'
    split at h
    · cases h
    split at h'
    · cases h'
    cases h
    cases h'
    rfl

/-! ## Companies -/

/-- What an upsert fingerprints: the request alone. -/
def upsertFingerprinted (cfg : AdminSettings) (tenantId : String) (payload : CompanyUpsertPayload) :
    Option PyValue :=
  let fields := upsertFields cfg.py payload
  if normalizeId cfg.py tenantId payload.tenantId ≠ tenantId then none
  else (normalizeCompanyIdStrict cfg.py payload.companyId).bind fun companyId =>
    match firstError [(fields.industryTemplateId = "", invalidTemplateId),
      (fields.displayName = "", invalidDisplayName),
      (fields.status ∉ statusNames, invalidStatus)] with
    | some _ => none
    | none => some (fields.fingerprinted tenantId companyId)

theorem upsertCompany_accepted {cfg : AdminSettings} {fields : CompanyFields}
    (h : (upsertCompany cfg tenantId companyId fields env registry).2 = .ok response) :
    response.status < 400 := by
  unfold upsertCompany at h
  split at h
  · cases h
  split_ifs at h
  rw [← Except.ok.inj h]
  dsimp only
  split_ifs <;> decide

theorem upsert_prepares (cfg : AdminSettings) (payload : CompanyUpsertPayload) :
    RoutePreparesAs (upsertAdminCompanyRoute cfg tenantId payload env registry)
      (upsertFingerprinted cfg tenantId payload) := by
  unfold upsertAdminCompanyRoute upsertFingerprinted
  dsimp only
  split_ifs
  · exact preparesAs_error (by decide : (400 : ℤ) ≤ 403)
  · cases normalizeCompanyIdStrict cfg.py payload.companyId with
    | none => exact preparesAs_error (by decide : (400 : ℤ) ≤ 400)
    | some companyId =>
      dsimp only [Option.bind_some]
      cases hfields : firstError
          [(decide ((upsertFields cfg.py payload).industryTemplateId = ""), invalidTemplateId),
            (decide ((upsertFields cfg.py payload).displayName = ""), invalidDisplayName),
            (decide ((upsertFields cfg.py payload).status ∉ statusNames), invalidStatus)] with
      | some refusal => exact preparesAs_error (fields_refused (by simp) hfields)
      | none => exact preparesAs_ok fun response h => upsertCompany_accepted h

/-- What an update fingerprints: its fields, filled up from the company that it finds. -/
def updateFingerprinted (cfg : AdminSettings) (env : AdminEnv) (registry : AdminRegistry)
    (tenantId rawCompanyId : String) (payload : CompanyUpdatePayload) : Option PyValue :=
  if normalizeId cfg.py tenantId payload.tenantId ≠ tenantId then none
  else (foundCompany cfg.py env registry tenantId rawCompanyId).bind fun found =>
    let fields := updateFields cfg.py found.1 payload found.2
    match firstError [(fields.displayName = "", invalidDisplayName),
      (fields.industryTemplateId = "", invalidTemplateId),
      (fields.status ∉ statusNames, invalidStatus)] with
    | some _ => none
    | none =>
      match checkOnboarding cfg registry tenantId fields.industryTemplateId with
      | some _ => none
      | none => some (fields.fingerprinted tenantId found.1)

theorem updateCompanyDoc_accepted {cfg : AdminSettings} {fields : CompanyFields} {company : Record}
    (h : (updateCompanyDoc cfg tenantId companyId fields company env registry).2 = .ok response) :
    response.status < 400 := by
  unfold updateCompanyDoc at h
  dsimp only at h
  split_ifs at h
  rw [← Except.ok.inj h]
  exact (by decide : (200 : ℤ) < 400)

theorem update_prepares (cfg : AdminSettings) (payload : CompanyUpdatePayload) :
    RoutePreparesAs (updateAdminCompanyRoute cfg tenantId rawCompanyId payload env registry)
      (updateFingerprinted cfg env registry tenantId rawCompanyId payload) := by
  unfold updateAdminCompanyRoute updateFingerprinted foundCompany
  cases normalizeCompanyIdStrict cfg.py rawCompanyId with
  | none =>
    dsimp only
    rw [Option.bind_none, ite_self]
    exact preparesAs_error (by decide : (400 : ℤ) ≤ 404)
  | some companyId =>
    dsimp only
    split_ifs
    · exact preparesAs_error (by decide : (400 : ℤ) ≤ 403)
    · cases hload : loadRegistryCompanyDoc env registry tenantId companyId with
      | error refusal => exact preparesAs_error (load_refused hload)
      | ok company =>
        dsimp only [Option.bind_some]
        -- the checks look at the merged fields alone
        generalize updateFields cfg.py companyId payload company = fields
        cases hfields : firstError [(decide (fields.displayName = ""), invalidDisplayName),
            (decide (fields.industryTemplateId = ""), invalidTemplateId),
            (decide (fields.status ∉ statusNames), invalidStatus)] with
        | some refusal => exact preparesAs_error (fields_refused (by simp) hfields)
        | none =>
          cases honboarding : checkOnboarding cfg registry tenantId fields.industryTemplateId with
          | some refusal => exact preparesAs_error (onboarding_refused honboarding)
          | none => exact preparesAs_ok fun response h => updateCompanyDoc_accepted h

/-- What an update checks of its fields. -/
structure UpdatePasses (cfg : AdminSettings) (registry : AdminRegistry) (tenantId : String)
    (fields : CompanyFields) : Prop where
  displayName : fields.displayName ≠ ""
  industryTemplateId : fields.industryTemplateId ≠ ""
  status : fields.status ∈ statusNames
  offered : ∃ ids, cfg.onboardingTemplateIds tenantId registry = some ids ∧
    fields.industryTemplateId ∈ ids

theorem updatePasses_iff {cfg : AdminSettings} {fields : CompanyFields} :
    UpdatePasses cfg registry tenantId fields ↔
      firstError [(decide (fields.displayName = ""), invalidDisplayName),
        (decide (fields.industryTemplateId = ""), invalidTemplateId),
        (decide (fields.status ∉ statusNames), invalidStatus)] = none ∧
      checkOnboarding cfg registry tenantId fields.industryTemplateId = none := by
  have honboarding : checkOnboarding cfg registry tenantId fields.industryTemplateId = none ↔
      ∃ ids, cfg.onboardingTemplateIds tenantId registry = some ids ∧ fields.industryTemplateId ∈
      ids := by
    unfold checkOnboarding
    cases cfg.onboardingTemplateIds tenantId registry with
    | none => simp
    | some ids => simp
  rw [honboarding]
  constructor
  · intro h
    refine ⟨?_, h.offered⟩
    simp only [firstError, h.displayName, h.industryTemplateId, h.status, decide_false,
      not_true_eq_false, Bool.false_eq_true, if_false]
  · rintro ⟨hfields, hoffered⟩
    obtain ⟨hname, hfields⟩ := firstError_cons_none hfields
    obtain ⟨htemplate, hfields⟩ := firstError_cons_none hfields
    obtain ⟨hstatus, -⟩ := firstError_cons_none hfields
    exact ⟨of_decide_eq_false hname, of_decide_eq_false htemplate,
      not_not.1 (of_decide_eq_false hstatus), hoffered⟩

theorem updateFingerprinted_iff {cfg : AdminSettings} {payload : CompanyUpdatePayload}
    {v : PyValue} : updateFingerprinted cfg env registry tenantId rawCompanyId payload = some v ↔
      normalizeId cfg.py tenantId payload.tenantId = tenantId ∧
        ∃ found, foundCompany cfg.py env registry tenantId rawCompanyId = some found ∧
          UpdatePasses cfg registry tenantId (updateFields cfg.py found.1 payload found.2) ∧
          (updateFields cfg.py found.1 payload found.2).fingerprinted tenantId found.1 = v := by
  unfold updateFingerprinted
  by_cases htenant : normalizeId cfg.py tenantId payload.tenantId = tenantId
  · rw [if_neg (not_not.2 htenant), Option.bind_eq_some_iff, and_iff_right htenant]
    refine exists_congr fun found => and_congr_right fun _ => ?_
    dsimp only
    generalize updateFields cfg.py found.1 payload found.2 = fields
    rw [updatePasses_iff]
    cases firstError [(decide (fields.displayName = ""), invalidDisplayName),
        (decide (fields.industryTemplateId = ""), invalidTemplateId),
        (decide (fields.status ∉ statusNames), invalidStatus)] with
    | some refusal => simp
    | none =>
      cases checkOnboarding cfg registry tenantId fields.industryTemplateId with
      | some refusal => simp
      | none => simp
  · rw [if_pos htenant]
    exact iff_of_false (fun h => by cases h) (fun h => htenant h.1)

variable (cfg : ConnectorSettings)

theorem deleteCompany_prepares (env : ConnectorEnv) :
    RoutePreparesAs (deleteAdminCompanyRoute cfg tenantId rawCompanyId env registry)
      ((foundCompany cfg.py env.toAdminEnv registry tenantId rawCompanyId).map
        fun found => .dict [("companyId", .str found.1)]) := by
  unfold deleteAdminCompanyRoute foundCompany
  cases normalizeCompanyIdStrict cfg.py rawCompanyId with
  | none => exact preparesAs_error (by decide : (400 : ℤ) ≤ 404)
  | some companyId =>
    dsimp only
    cases hload : loadRegistryCompanyDoc env.toAdminEnv registry tenantId companyId with
    | error refusal => exact preparesAs_error (load_refused hload)
    | ok company =>
      refine preparesAs_ok fun response h => ?_
      dsimp only at h
      split_ifs at h
      rw [← Except.ok.inj h]
      exact (by decide : (200 : ℤ) < 400)

/-! ## Connectors -/

theorem writeUnderLock_accepted {env : ConnectorEnv} {connectorId : String}
    {change : ConnectorChange} {present : Bool} {refusal done : AdminResponse}
    (h : (writeUnderLock env registry tenantId companyId connectorId change present refusal done).2
      = .ok response) : response = done := by
  unfold writeUnderLock at h
  split_ifs at h
  split at h
  · cases h
  · split_ifs at h
    split at h
    · exact (Except.ok.inj h).symm
    · cases h

theorem putConnector_accepted {cfg : ConnectorSettings} {env : ConnectorEnv} {connectorId : String}
    {payload : ConnectorPayload} {company : Record} {present : Bool} {refusal : AdminResponse}
    {status : ℤ} {done : String}
    (h : (putConnector cfg env registry tenantId companyId connectorId payload company present
      refusal status done).2 = .ok response) : response.status = status := by
  unfold putConnector at h
  split at h
  · cases h
  · rw [writeUnderLock_accepted h]

/-- The payload of a connector that is put, as it is fingerprinted. -/
def putFingerprinted (payload : ConnectorPayload) (companyId connectorId : String) : PyValue :=
  .dict [("companyId", .str companyId), ("connectorId", .str connectorId),
    ("payload", payload.dump)]

theorem createConnector_prepares (payload : ConnectorPayload) (env : ConnectorEnv) : RoutePreparesAs
    (createAdminCompanyConnectorRoute cfg tenantId rawCompanyId payload env registry)
      ((foundCompany cfg.py env.toAdminEnv registry tenantId rawCompanyId).bind fun found =>
        (normalizeConnectorId cfg.py payload.connectorId).map
            (putFingerprinted payload found.1)) := by
  unfold createAdminCompanyConnectorRoute foundCompany
  cases normalizeCompanyIdStrict cfg.py rawCompanyId with
  | none => exact preparesAs_error (by decide : (400 : ℤ) ≤ 400)
  | some companyId =>
    cases normalizeConnectorId cfg.py payload.connectorId with
    | none =>
      simp only [Option.map_none, Option.bind_fun_none]
      exact preparesAs_error (by decide : (400 : ℤ) ≤ 400)
    | some connectorId =>
      dsimp only
      cases hload : loadRegistryCompanyDoc env.toAdminEnv registry tenantId companyId with
      | error refusal => exact preparesAs_error (load_refused hload)
      | ok company =>
        refine preparesAs_ok fun response h => ?_
        rw [putConnector_accepted h]
        decide

/-- The connector that a request finds, with its company. -/
def foundConnector (py : StrMethods) (env : AdminEnv) (registry : AdminRegistry)
    (tenantId rawCompanyId rawConnectorId : String) : Option (String × String × Record) :=
  (foundCompany py env registry tenantId rawCompanyId).bind fun found =>
    (normalizeConnectorId py (some rawConnectorId)).bind fun connectorId =>
      if (connectorsOf found.2).contains connectorId then some (found.1, connectorId, found.2)
      else none

/-- The ids are those of the request, whatever is stored. -/
theorem foundConnector_ids {py : StrMethods} {env' : AdminEnv} {registry' : AdminRegistry}
    {rawConnectorId : String} {found found' : String × String × Record}
    (h : foundConnector py env registry tenantId rawCompanyId rawConnectorId = some found)
    (h' : foundConnector py env' registry' tenantId rawCompanyId rawConnectorId = some found') :
    found'.1 = found.1 ∧ found'.2.1 = found.2.1 := by
  obtain ⟨company, hcompany, h⟩ := Option.bind_eq_some_iff.1 h
  obtain ⟨company', hcompany', h'⟩ := Option.bind_eq_some_iff.1 h'
  obtain ⟨connectorId, hid, h⟩ := Option.bind_eq_some_iff.1 h
  obtain ⟨connectorId', hid', h'⟩ := Option.bind_eq_some_iff.1 h'
  -- both ids come from the path of the request
  obtain rfl := Option.some.inj (hid.symm.trans hid')
  split_ifs at h h'
  rw [← Option.some.inj h, ← Option.some.inj h']
  exact ⟨foundCompany_fst hcompany hcompany', rfl⟩

variable (rawConnectorId : String)

/-- **What the routes of a stored connector load**: a connector that is found, unless the payload
    names another. -/
theorem loadConnectorCompany_cases (mismatch : String → Bool) (env : ConnectorEnv) :
    (∃ loaded, loadConnectorCompany cfg tenantId rawCompanyId rawConnectorId mismatch env registry =
      .ok loaded ∧
        (foundConnector cfg.py env.toAdminEnv registry tenantId rawCompanyId rawConnectorId).filter
          (fun found => !mismatch found.2.1) = some loaded) ∨
      ∃ refusal, loadConnectorCompany cfg tenantId rawCompanyId rawConnectorId mismatch env
      registry =
          .error refusal ∧ 400 ≤ refusal.status ∧
        (foundConnector cfg.py env.toAdminEnv registry tenantId rawCompanyId rawConnectorId).filter
          (fun found => !mismatch found.2.1) = none := by
  unfold loadConnectorCompany foundConnector foundCompany
  cases normalizeCompanyIdStrict cfg.py rawCompanyId with
  | none => exact .inr ⟨_, rfl, (by decide : (400 : ℤ) ≤ 404), rfl⟩
  | some companyId =>
    cases normalizeConnectorId cfg.py (some rawConnectorId) with
    | none =>
      refine .inr ⟨_, rfl, (by decide : (400 : ℤ) ≤ 404), ?_⟩
      simp
    | some connectorId =>
      dsimp only [Option.bind_some]
      by_cases hmismatch : mismatch connectorId = true
      · rw [if_pos hmismatch]
        refine .inr ⟨_, rfl, (by decide : (400 : ℤ) ≤ 409), ?_⟩
        rw [Option.filter_eq_none_iff]
        intro found h
        obtain ⟨company, -, h⟩ := Option.bind_eq_some_iff.1 h
        split_ifs at h
        rw [← Option.some.inj h, hmismatch]
        decide
      · rw [if_neg hmismatch]
        cases hload : loadRegistryCompanyDoc env.toAdminEnv registry tenantId companyId with
        | error refusal => exact .inr ⟨_, rfl, load_refused hload, rfl⟩
        | ok company =>
          dsimp only [Option.bind_some]
          by_cases hcontains : (connectorsOf company).contains connectorId = true
          · rw [if_pos hcontains, if_pos hcontains]
            exact .inl ⟨_, rfl, Option.filter_some_pos (by rw [eq_false_of_ne_true hmismatch]; rfl)⟩
          · rw [if_neg hcontains, if_neg hcontains]
            exact .inr ⟨_, rfl, (by decide : (400 : ℤ) ≤ 404), rfl⟩

theorem updateConnector_prepares (payload : ConnectorPayload) (env : ConnectorEnv) :
    RoutePreparesAs (updateAdminCompanyConnectorRoute cfg tenantId rawCompanyId rawConnectorId
      payload env registry)
      (((foundConnector cfg.py env.toAdminEnv registry tenantId rawCompanyId rawConnectorId).filter
        (fun found => !payload.mismatch cfg.py found.2.1)).map
          fun found => putFingerprinted payload found.1 found.2.1) := by
  unfold updateAdminCompanyConnectorRoute
  obtain ⟨loaded, hload, hfound⟩ | ⟨refusal, hload, hrefusal, hfound⟩ :=
    @loadConnectorCompany_cases registry
    tenantId rawCompanyId cfg rawConnectorId (payload.mismatch cfg.py) env
  · rw [hload, hfound]
    refine preparesAs_ok fun response h => ?_
    rw [putConnector_accepted h]
    decide
  · rw [hload, hfound]
    exact preparesAs_error hrefusal

theorem deleteConnector_prepares (env : ConnectorEnv) : RoutePreparesAs
    (deleteAdminCompanyConnectorRoute cfg tenantId rawCompanyId rawConnectorId env registry)
      (((foundConnector cfg.py env.toAdminEnv registry tenantId rawCompanyId rawConnectorId).filter
        (fun _ => !false)).map
          fun found => .dict [("companyId", .str found.1), ("connectorId", .str found.2.1)]) := by
  unfold deleteAdminCompanyConnectorRoute
  obtain ⟨loaded, hload, hfound⟩ | ⟨refusal, hload, hrefusal, hfound⟩ :=
    @loadConnectorCompany_cases registry
    tenantId rawCompanyId cfg rawConnectorId (fun _ => false) env
  · rw [hload, hfound]
    refine preparesAs_ok fun response h => ?_
    rw [writeUnderLock_accepted h]
    exact (by decide : (200 : ℤ) < 400)
  · rw [hload, hfound]
    exact preparesAs_error hrefusal

/-! ## Knowledge -/

/-- The payload of an import, as it is fingerprinted. -/
def importFingerprinted (companyId : String) (entry : Record) : PyValue :=
  .dict [("companyId", .str companyId), ("entry", .dict entry.entries)]

theorem importText_prepares (py : StrMethods) (sha256Hex : String → String)
    (payload : KnowledgeTextPayload) (timeText : String) (docs : AdminDocs) :
    PreparesAs PreparedMutation.fingerprinted (fun prepared => prepared.outcome.2)
      (importAdminCompanyKnowledgeTextRoute py sha256Hex tenantId rawCompanyId payload timeText env
        docs)
      ((foundCompany py env docs.registry tenantId rawCompanyId).bind fun found =>
        let entry := payload.entry py sha256Hex timeText env.nowIso
        if validateKnowledgeEntry entry ≠ [] then none
        else some (importFingerprinted found.1 entry)) := by
  unfold importAdminCompanyKnowledgeTextRoute foundCompany
  cases normalizeCompanyIdStrict py rawCompanyId with
  | none => exact preparesAs_error (by decide : (400 : ℤ) ≤ 404)
  | some companyId =>
    dsimp only
    cases hload : loadRegistryCompanyDoc env docs.registry tenantId companyId with
    | error refusal => exact preparesAs_error (load_refused hload)
    | ok company =>
      dsimp only [Option.bind_some]
      generalize payload.entry py sha256Hex timeText env.nowIso = entry
      by_cases hvalid : validateKnowledgeEntry entry ≠ []
      · rw [if_pos hvalid, if_pos hvalid]
        exact preparesAs_error (by decide : (400 : ℤ) ≤ 400)
      · rw [if_neg hvalid, if_neg hvalid]
        refine preparesAs_ok fun response h => ?_
        unfold importKnowledgeEntry at h
        dsimp only at h
        split_ifs at h
        rw [← Except.ok.inj h]
        exact (by decide : (201 : ℤ) < 400)

/-! ## Mutations -/

/-- **What a mutation fingerprints**, where it gets to its preflight. -/
def AdminServer.fingerprinted? (server : AdminServer) (call : AdminCall) (handling : AdminHandling)
    (docs : AdminDocs) : Option PyValue :=
  let env := handling.env.toAdminEnv
  let company := foundCompany server.settings.py env docs.registry call.tenantId
  let connector := foundConnector server.settings.py env docs.registry call.tenantId
  match call.mutation with
  | .registry (.writeCompany (.post payload)) =>
    upsertFingerprinted server.settings.toAdminSettings call.tenantId payload
  | .registry (.writeCompany (.put rawCompanyId payload)) =>
    updateFingerprinted server.settings.toAdminSettings env docs.registry call.tenantId rawCompanyId
      payload
  | .registry (.deleteCompany rawCompanyId) =>
    (company rawCompanyId).map fun found => .dict [("companyId", .str found.1)]
  | .registry (.createConnector rawCompanyId payload) => (company rawCompanyId).bind fun found =>
    (normalizeConnectorId server.settings.py payload.connectorId).map
      (putFingerprinted payload found.1)
  | .registry (.updateConnector rawCompanyId rawConnectorId payload) =>
    ((connector rawCompanyId rawConnectorId).filter
      (fun found => !payload.mismatch server.settings.py found.2.1)).map
        fun found => putFingerprinted payload found.1 found.2.1
  | .registry (.deleteConnector rawCompanyId rawConnectorId) =>
    ((connector rawCompanyId rawConnectorId).filter (fun _ => !false)).map
      fun found => .dict [("companyId", .str found.1), ("connectorId", .str found.2.1)]
  | .importText rawCompanyId payload => (company rawCompanyId).bind fun found =>
    let entry :=
      payload.entry server.settings.py server.idempotency.sha256Hex handling.timeText env.nowIso
    if validateKnowledgeEntry entry ≠ [] then none else some (importFingerprinted found.1 entry)

/-- **What a mutation does** up to its preflight, and that it commits no error. -/
theorem prepare_prepares (server : AdminServer) (call : AdminCall) (handling : AdminHandling)
    (docs : AdminDocs) : PreparesAs PreparedMutation.fingerprinted (fun prepared =>
      prepared.outcome.2)
      (server.prepare call handling docs) (server.fingerprinted? call handling docs) := by
  obtain ⟨tenantId, idempotencyKey, mutation⟩ := call
  cases mutation with
  | importText rawCompanyId payload => exact importText_prepares _ _ payload handling.timeText docs
  | registry request =>
    have hroute :
      RoutePreparesAs (request.route server.settings tenantId handling.env docs.registry)
        (server.fingerprinted? ⟨tenantId, idempotencyKey, .registry request⟩ handling docs) := by
      cases request with
      | writeCompany w =>
        cases w with
        | post payload => exact upsert_prepares _ payload
        | put rawCompanyId payload => exact update_prepares _ payload
      | deleteCompany rawCompanyId => exact deleteCompany_prepares _ _
      | createConnector rawCompanyId payload => exact createConnector_prepares _ payload _
      | updateConnector rawCompanyId rawConnectorId payload =>
        exact updateConnector_prepares _ rawConnectorId payload _
      | deleteConnector rawCompanyId rawConnectorId =>
        exact deleteConnector_prepares _ rawConnectorId _
    unfold AdminServer.prepare
    dsimp only
    cases hv : server.fingerprinted? ⟨tenantId, idempotencyKey, .registry request⟩ handling
        docs with
    | none =>
      rw [hv] at hroute
      obtain ⟨refusal, hrefused, hstatus⟩ := hroute
      rw [hrefused]
      exact ⟨refusal, rfl, hstatus⟩
    | some v =>
      rw [hv] at hroute
      obtain ⟨prepared, hprepared, hfingerprinted, hcommitted⟩ := hroute
      rw [hprepared]
      exact ⟨_, rfl, hfingerprinted, hcommitted⟩

end Ekaette
