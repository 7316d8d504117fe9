import Ekaette.Admin.Companies

set_option autoImplicit false

/-! # A company is read back

A company route answers with the document that it has built, and the store merges this document into
the one that was there. The next GET shows the same company exactly if the old document had nothing
that the new one leaves out. -/

namespace Ekaette

/-! ## What the store makes of a payload -/

theorem Record.value_mergeDeep (stored payload : Record) (key : String) :
    (stored.mergeDeep payload).value key =
      match payload.get? key with
      | some v => mergeValue v (stored.value key)
      | none => stored.value key := by
  rw [Record.value, Record.get?_mergeDeep]
  cases payload.get? key <;> rfl

theorem mergeValue_of_not_dict {v : PyValue} (h : v.dict? = none) (stored : PyValue) :
    mergeValue v stored = v := by
  cases v with
  | dict es => cases h
  | _ => rfl

theorem merged_scalar {payload : Record} {key : String} {v : PyValue}
    (h : payload.get? key = some v) (hv : v.dict? = none) (stored : Record) :
    payload.value key = v ∧ (stored.mergeDeep payload).value key = v := by
  rw [Record.value_mergeDeep, Record.value, h]
  exact ⟨rfl, mergeValue_of_not_dict hv _⟩

theorem merged_map {payload : Record} {key : String} {es : List (String × PyValue)}
    (h : payload.get? key = some (.dict es)) (stored : Record) :
    payload.value key = .dict es ∧
      (stored.mergeDeep payload).value key = mergeValue (.dict es) (stored.value key) := by
  rw [Record.value_mergeDeep, Record.value, h]
  exact ⟨rfl, rfl⟩

theorem merged_absent {payload : Record} {key : String} (h : payload.get? key = none)
    (stored : Record) : payload.value key = .none ∧ (stored.mergeDeep payload).value key =
    stored.value key := by
  rw [Record.value_mergeDeep, Record.value, h]
  exact ⟨rfl, rfl⟩

/-- A merged map is a map. -/
theorem dictValue_mergeValue (es : List (String × PyValue)) (stored : PyValue) :
    dictValue (mergeValue (.dict es) stored) = mergeValue (.dict es) stored := by
  cases es with
  | nil => rfl
  | cons e es => rw [PyValue.mergeValue_dict_cons]; rfl

theorem same_dictValue_empty (v : PyValue) :
    PyValue.Same (dictValue v) (.dict []) ↔ dictOrEmpty v = [] := by
  unfold dictValue
  cases hentries : dictOrEmpty v with
  | nil => exact iff_of_true (PyValue.Same.refl _) rfl
  | cons e es =>
    refine iff_of_false (fun h => ?_) (List.cons_ne_nil e es)
    cases h with
    | dict hkeys _ =>
      have hnone := (hkeys e.1).2 rfl
      rw [List.lookup_cons_self] at hnone
      cases hnone

/-- Only `None` is the same as `None`. -/
theorem same_none_iff (v : PyValue) : PyValue.Same v .none ↔ v = .none := by
  constructor
  · intro h
    cases h
    rfl
  · rintro rfl
    exact PyValue.Same.refl _

/-- A creation time that the payload has is shown; else the stored one appears. -/
theorem same_createdAt_iff (createdAt : Option String) (stored : PyValue) :
    PyValue.Same ((createdAt.map PyValue.str).getD stored)
      ((createdAt.map PyValue.str).getD .none) ↔ (createdAt = none → stored = .none) := by
  cases createdAt with
  | none => exact (same_none_iff stored).trans ⟨fun h _ => h, fun h => h rfl⟩
  | some s => exact iff_of_true (PyValue.Same.refl _) (fun h => by cases h)

/-! ## The payload -/

section

variable (py : StrMethods) (tenantId companyId nowIso : String) (fields : CompanyFields)

/-- The entries of the payload. -/
def payloadEntries : List (String × PyValue) :=
  [("schema_version", .int 1), ("tenant_id", .str tenantId), ("company_id", .str companyId),
    ("industry_template_id", .str fields.industryTemplateId),
    ("display_name", .str fields.displayName),
    ("status", .str fields.status), ("connectors", .dict fields.connectors.entries),
    ("overview", .str (PyStr.strip fields.overview)), ("facts", .dict fields.facts.entries),
    ("links", .list (cleanLinks py fields.links)), ("updated_at", .str nowIso)]

theorem adminCompanyPayload_get? (key : String) :
    (adminCompanyPayload py tenantId companyId fields nowIso).get? key =
      (payloadEntries py tenantId companyId nowIso fields).lookup key := by
  rw [payloadEntries, adminCompanyPayload, Dict.get?, Dict.entries_ofList]
  simp only [List.map_cons, List.map_nil]
  decide

theorem withCreatedAt_get? (createdAt : Option String) {key : String} (h : key ≠ "created_at") :
    (withCreatedAt (adminCompanyPayload py tenantId companyId fields nowIso) createdAt).get? key =
      (payloadEntries py tenantId companyId nowIso fields).lookup key := by
  rw [← adminCompanyPayload_get?]
  cases createdAt with
  | none => rfl
  | some s => exact Dict.get?_set_of_ne _ _ h

/-- **What the next GET shows** is what the response shows, exactly if the payload covers the maps
    that were stored, no inventory synchronisation is stored, and no creation time is lost. -/
theorem adminCompanyResponse_same_iff (createdAt : Option String) {stored : Record}
    (hname : fields.displayName ≠ "")
    (hconnectors : PyValue.DistinctKeys (.dict fields.connectors.entries))
    (hfacts : PyValue.DistinctKeys (.dict fields.facts.entries)) :
    PyValue.Same (adminCompanyResponse py tenantId companyId (stored.mergeDeep
        (withCreatedAt (adminCompanyPayload py tenantId companyId fields nowIso) createdAt)))
      (adminCompanyResponse py tenantId companyId
        (withCreatedAt (adminCompanyPayload py tenantId companyId fields nowIso) createdAt)) ↔
      PyValue.Covers (.dict fields.connectors.entries) (stored.value "connectors") ∧
      dictOrEmpty (stored.value "inventory_sync") = [] ∧
      PyValue.Covers (.dict fields.facts.entries) (stored.value "facts") ∧
      (createdAt = none → stored.value "created_at" = .none) := by
  have hget := fun key (hkey : key ≠ "created_at") =>
    withCreatedAt_get? py tenantId companyId nowIso fields createdAt hkey
  generalize hpayload : withCreatedAt (adminCompanyPayload py tenantId companyId fields nowIso)
    createdAt = payload at hget
  obtain ⟨hpname, hmname⟩ := merged_scalar (hget "display_name" (by decide)) rfl stored
  obtain ⟨hptemplate, hmtemplate⟩ :=
    merged_scalar (hget "industry_template_id" (by decide)) rfl stored
  obtain ⟨hpstatus, hmstatus⟩ := merged_scalar (hget "status" (by decide)) rfl stored
  obtain ⟨hpoverview, hmoverview⟩ := merged_scalar (hget "overview" (by decide)) rfl stored
  obtain ⟨hplinks, hmlinks⟩ := merged_scalar (hget "links" (by decide)) rfl stored
  obtain ⟨hpversion, hmversion⟩ := merged_scalar (hget "schema_version" (by decide)) rfl stored
  obtain ⟨hpupdated, hmupdated⟩ := merged_scalar (hget "updated_at" (by decide)) rfl stored
  obtain ⟨hpconnectors, hmconnectors⟩ := merged_map (hget "connectors" (by decide)) stored
  obtain ⟨hpfacts, hmfacts⟩ := merged_map (hget "facts" (by decide)) stored
  obtain ⟨hpinventory, hminventory⟩ := merged_absent (hget "inventory_sync" (by decide)) stored
  have hcreated : payload.value "created_at" = (createdAt.map PyValue.str).getD .none ∧
      (stored.mergeDeep payload).value "created_at" =
        (createdAt.map PyValue.str).getD (stored.value "created_at") := by
    rw [← hpayload]
    cases createdAt with
    | none =>
      refine merged_absent ?_ stored
      exact adminCompanyPayload_get? py tenantId companyId nowIso fields "created_at"
    | some s => exact merged_scalar (Dict.get?_set_self _ _ _) rfl stored
  obtain ⟨hpcreated, hmcreated⟩ := hcreated
  have htruthy : (PyValue.str fields.displayName).truthy = true := decide_eq_true hname
  unfold adminCompanyResponse
  rw [hpname, hmname, hptemplate, hmtemplate, hpstatus, hmstatus, hpoverview, hmoverview, hplinks,
    hmlinks,
    hpversion, hmversion, hpupdated, hmupdated, hpconnectors, hmconnectors, hpfacts, hmfacts,
    hpinventory, hminventory, hpcreated, hmcreated, dictValue_mergeValue, dictValue_mergeValue]
  simp only [PyValue.orElse, htruthy, if_true]
  refine (@PyValue.same_dict_zip [("id", _, _), ("tenantId", _, _), ("templateId", _, _),
    ("displayName", _, _), ("status", _, _),
    ("connectors", mergeValue (.dict fields.connectors.entries) (stored.value "connectors"),
      .dict fields.connectors.entries),
    ("inventorySync", dictValue (stored.value "inventory_sync"), .dict []),
    ("overview", _, _),
    ("facts", mergeValue (.dict fields.facts.entries) (stored.value "facts"),
      .dict fields.facts.entries),
    ("links", _, _), ("schemaVersion", _, _), ("updatedAt", _, _),
    ("createdAt", (createdAt.map PyValue.str).getD (stored.value "created_at"),
      (createdAt.map PyValue.str).getD .none)] ?_).trans ?_
  · simp only [List.map_cons, List.map_nil]
    decide
  · have hrefl : ∀ v, PyValue.Same v v ↔ True := fun v => iff_true_intro (PyValue.Same.refl v)
    simp only [List.forall_mem_cons, hrefl, PyValue.same_mergeValue_iff _ _ hconnectors,
      PyValue.same_mergeValue_iff _ _ hfacts, same_dictValue_empty, same_createdAt_iff, true_and,
      List.not_mem_nil, false_imp_iff, implies_true, and_true]

end

/-! ## The two routes that write -/

/-- A request that writes a company. -/
inductive CompanyWrite where
  | post (payload : CompanyUpsertPayload)
  | put (companyId : String) (payload : CompanyUpdatePayload)

namespace CompanyWrite

def route (cfg : AdminSettings) (tenantId : String) : CompanyWrite → AdminRoute
  | .post payload => upsertAdminCompanyRoute cfg tenantId payload
  | .put companyId payload => updateAdminCompanyRoute cfg tenantId companyId payload

/-- The id of the company, as the request names it. -/
def rawCompanyId : CompanyWrite → String
  | .post payload => payload.companyId
  | .put companyId _ => companyId

/-- The facts that the request supplies. -/
def facts : CompanyWrite → Option Record
  | .post payload => some payload.facts
  | .put _ payload => payload.facts

/-- The connectors that the request supplies. -/
def connectors : CompanyWrite → Option Record
  | .post payload => some payload.connectors
  | .put _ payload => payload.connectors

end CompanyWrite

/-- No map of the document or of the request has a key twice, as it is with dictionaries. -/
structure WellFormedWrite (w : CompanyWrite) (stored : Record) : Prop where
  storedFacts : (stored.value "facts").DistinctKeys
  storedConnectors : (stored.value "connectors").DistinctKeys
  facts : ∀ facts, w.facts = some facts → (PyValue.dict facts.entries).DistinctKeys
  connectors : ∀ connectors, w.connectors = some connectors →
    (PyValue.dict connectors.entries).DistinctKeys

/-- **Read back**: the next GET of the company shows the company of the response, and the maps that
    were supplied are stored as they are. -/
structure ReadsBack (cfg : AdminSettings) (tenantId : String) (w : CompanyWrite) (env : AdminEnv)
    (registry : AdminRegistry) (response : AdminResponse) : Prop where
  company : ∃ got, getAdminCompanyRoute cfg tenantId w.rawCompanyId env registry = .ok got ∧
    got.company.Same response.company
  facts : ∀ facts, w.facts = some facts → ∃ companyId doc,
    normalizeCompanyIdStrict cfg.py w.rawCompanyId = some companyId ∧
    registry.get? (tenantId, companyId) = some doc ∧ (doc.value "facts").Same (.dict facts.entries)
  connectors : ∀ connectors, w.connectors = some connectors → ∃ companyId doc,
    normalizeCompanyIdStrict cfg.py w.rawCompanyId = some companyId ∧
    registry.get? (tenantId, companyId) = some doc ∧
      (doc.value "connectors").Same (.dict connectors.entries)

/-- **Nothing is left over** of the stored document: the supplied maps have all its keys, it has no
    inventory synchronisation, and an update finds a creation time that it keeps, or none. -/
structure LeavesNothing (w : CompanyWrite) (stored : Record) : Prop where
  facts : ∀ facts, w.facts = some facts →
    (PyValue.dict facts.entries).Covers (stored.value "facts")
  connectors : ∀ connectors, w.connectors = some connectors →
    (PyValue.dict connectors.entries).Covers (stored.value "connectors")
  inventory : dictOrEmpty (stored.value "inventory_sync") = []
  createdAt : ∀ companyId payload, w = .put companyId payload →
    stored.value "created_at" = .none ∨ ∃ s, s ≠ "" ∧ stored.value "created_at" = .str s

/-- A route that has written: for which company, with which fields and creation time. -/
structure CompanyWritten (cfg : AdminSettings) (tenantId : String) (w : CompanyWrite)
    (stored : Record)
    (companyId : String) (fields : CompanyFields) (createdAt : Option String) : Prop where
  companyId : normalizeCompanyIdStrict cfg.py w.rawCompanyId = some companyId
  displayName : fields.displayName ≠ ""
  facts : fields.facts = w.facts.getD (mapOf stored "facts")
  connectors : fields.connectors = w.connectors.getD (mapOf stored "connectors")
  createdAt : (createdAt = none → stored.value "created_at" = .none) ↔
    ∀ companyId payload, w = .put companyId payload →
      stored.value "created_at" = .none ∨ ∃ s, s ≠ "" ∧ stored.value "created_at" = .str s

theorem firstError_cons_none {c : Bool} {response : AdminResponse}
    {rest : List (Bool × AdminResponse)} (h : firstError ((c, response) :: rest) = none) :
    c = false ∧ firstError rest = none := by
  rw [firstError] at h
  split_ifs at h with hc
  exact ⟨eq_false_of_ne_true hc, h⟩

theorem stored_of_loaded {env : AdminEnv} {registry : AdminRegistry} {tenantId companyId : String}
    {company : Record} (h : loadRegistryCompanyDoc env registry tenantId companyId = .ok company) :
    registry.get? (tenantId, companyId) = some company ∧ schemaVersionSupported company = true := by
  unfold loadRegistryCompanyDoc at h
  cases hget : registry.get? (tenantId, companyId) with
  | none =>
    rw [hget, ite_self] at h
    cases h
  | some stored =>
    rw [hget] at h
    split_ifs at h with hreads
    dsimp only at h
    split_ifs at h with hsupported
    cases h
    exact ⟨rfl, hsupported⟩

theorem keepsCreatedAt_iff (v : PyValue) : (v.str?.filter (· ≠ "") = none → v = .none) ↔
    v = .none ∨ ∃ s, s ≠ "" ∧ v = .str s := by
  cases v with
  | none => exact iff_of_true (fun _ => rfl) (Or.inl rfl)
  | str s =>
    by_cases hs : s = ""
    · refine iff_of_false (fun h => ?_) ?_
      · have hnone : (PyValue.str s).str?.filter (fun s => decide (s ≠ "")) = none := by
          rw [hs]
          rfl
        cases h hnone
      · rintro (h | ⟨t, ht, h⟩)
        · cases h
        · cases h
          exact ht hs
    · refine iff_of_true (fun h => ?_) (Or.inr ⟨s, hs, rfl⟩)
      have hsome : (PyValue.str s).str?.filter (fun s => decide (s ≠ "")) = some s :=
        Option.filter_some_pos (decide_eq_true hs)
      rw [hsome] at h
      cases h
  | _ =>
    refine iff_of_false (fun h => ?_) ?_
    · cases h rfl
    · rintro (h | ⟨t, ht, h⟩) <;> cases h

section Committed

variable {cfg : AdminSettings} {tenantId : String} {env : AdminEnv}
  {registry registry' : AdminRegistry} {p : PreparedRequest} {response : AdminResponse}

variable (cfg tenantId env registry registry' response) in
/-- What a committed write has done. -/
def CompanyCommitted (w : CompanyWrite) : Prop :=
  ∃ companyId fields createdAt,
    CompanyWritten cfg tenantId w ((registry.get? (tenantId, companyId)).getD .empty) companyId
    fields createdAt ∧ registry' = saveCompany registry tenantId companyId
      (withCreatedAt (adminCompanyPayload cfg.py tenantId companyId fields env.nowIso) createdAt) ∧
    response.company = adminCompanyResponse cfg.py tenantId companyId
      (withCreatedAt (adminCompanyPayload cfg.py tenantId companyId fields env.nowIso) createdAt)

/-- A POST writes what its payload says, with the creation time it found or a new one. -/
theorem written_of_post {payload : CompanyUpsertPayload}
    (hroute : upsertAdminCompanyRoute cfg tenantId payload env registry = .ok p)
    (houtcome : p.outcome = (registry', .ok response)) :
    CompanyCommitted cfg tenantId env registry registry' response (.post payload) := by
  unfold upsertAdminCompanyRoute at hroute
  split_ifs at hroute
  cases hid : normalizeCompanyIdStrict cfg.py payload.companyId with
  | none => rw [hid] at hroute; cases hroute
  | some companyId =>
    rw [hid] at hroute
    dsimp only at hroute
    cases hcheck :
      firstError [((upsertFields cfg.py payload).industryTemplateId = "", invalidTemplateId),
        ((upsertFields cfg.py payload).displayName = "", invalidDisplayName),
        ((upsertFields cfg.py payload).status ∉ statusNames, invalidStatus)] with
    | some response => rw [hcheck] at hroute; cases hroute
    | none =>
      rw [hcheck] at hroute
      obtain ⟨-, hcheck⟩ := firstError_cons_none hcheck
      obtain ⟨hname, -⟩ := firstError_cons_none hcheck
      rw [← Except.ok.inj hroute] at houtcome
      replace houtcome : upsertCompany cfg tenantId companyId (upsertFields cfg.py payload) env
        registry = (registry', .ok response) := houtcome
      unfold upsertCompany at houtcome
      cases honboarding : checkOnboarding cfg registry tenantId
          (upsertFields cfg.py payload).industryTemplateId with
      | some response => rw [honboarding] at houtcome; cases houtcome
      | none =>
        rw [honboarding] at houtcome
        dsimp only at houtcome
        by_cases hserved : (env.reads && env.writes) = true
        · rw [if_pos hserved] at houtcome
          cases houtcome
          exact ⟨companyId, upsertFields cfg.py payload, some _,
            ⟨hid, of_decide_eq_false hname, rfl, rfl, iff_of_true nofun nofun⟩, rfl, rfl⟩
        · rw [if_neg hserved] at houtcome
          cases houtcome

theorem written_of_put {rawCompanyId : String} {payload : CompanyUpdatePayload}
    (hroute : updateAdminCompanyRoute cfg tenantId rawCompanyId payload env registry = .ok p)
    (houtcome : p.outcome = (registry', .ok response)) :
    CompanyCommitted cfg tenantId env registry registry' response (.put rawCompanyId payload) := by
  unfold updateAdminCompanyRoute at hroute
  cases hid : normalizeCompanyIdStrict cfg.py rawCompanyId with
  | none => rw [hid] at hroute; cases hroute
  | some companyId =>
    rw [hid] at hroute
    dsimp only at hroute
    split_ifs at hroute
    cases hload : loadRegistryCompanyDoc env registry tenantId companyId with
    | error response => rw [hload] at hroute; cases hroute
    | ok company =>
      rw [hload] at hroute
      dsimp only at hroute
      have hstored : (registry.get? (tenantId, companyId)).getD .empty = company := by
        rw [(stored_of_loaded hload).1]
        rfl
      cases hcheck : firstError
          [((updateFields cfg.py companyId payload company).displayName = "", invalidDisplayName),
            ((updateFields cfg.py companyId payload company).industryTemplateId = "",
              invalidTemplateId),
            ((updateFields cfg.py companyId payload company).status ∉ statusNames, invalidStatus)]
              with
      | some response => rw [hcheck] at hroute; cases hroute
      | none =>
        rw [hcheck] at hroute
        dsimp only at hroute
        obtain ⟨hname, -⟩ := firstError_cons_none hcheck
        cases honboarding : checkOnboarding cfg registry tenantId
            (updateFields cfg.py companyId payload company).industryTemplateId with
        | some response => rw [honboarding] at hroute; cases hroute
        | none =>
          rw [honboarding] at hroute
          rw [← Except.ok.inj hroute] at houtcome
          replace houtcome : updateCompanyDoc cfg tenantId companyId
            (updateFields cfg.py companyId payload company) company env registry =
              (registry', .ok response) := houtcome
          unfold updateCompanyDoc at houtcome
          dsimp only at houtcome
          by_cases hserved : env.writes = true
          · rw [if_pos hserved] at houtcome
            cases houtcome
            refine ⟨companyId, updateFields cfg.py companyId payload company,
              updateCreatedAt company, ?_, rfl, rfl⟩
            rw [hstored]
            refine ⟨hid, of_decide_eq_false hname, rfl, rfl, ?_⟩
            rw [updateCreatedAt, keepsCreatedAt_iff]
            exact ⟨fun h _ _ _ => h, fun h => h rawCompanyId payload rfl⟩
          · rw [if_neg hserved] at houtcome
            cases houtcome

theorem written_of_committed {w : CompanyWrite} (hroute : w.route cfg tenantId env registry = .ok p)
    (houtcome : p.outcome = (registry', .ok response)) :
    CompanyCommitted cfg tenantId env registry registry' response w := by
  cases w with
  | post payload => exact written_of_post hroute houtcome
  | put rawCompanyId payload => exact written_of_put hroute houtcome

end Committed

theorem mapOf_covers {stored : Record} {key : String} (h : (stored.value key).DistinctKeys) :
    (PyValue.dict (mapOf stored key).entries).DistinctKeys ∧
      (PyValue.dict (mapOf stored key).entries).Covers (stored.value key) := by
  unfold mapOf
  cases hv : stored.value key with
  | dict es =>
    rw [hv, PyValue.DistinctKeys] at h
    show (PyValue.dict (Dict.ofList es).entries).DistinctKeys ∧
      (PyValue.dict (Dict.ofList es).entries).Covers (.dict es)
    rw [Dict.entries_ofList es h.1]
    have hdistinct : (PyValue.dict es).DistinctKeys := by
      rw [PyValue.DistinctKeys]
      exact h
    exact ⟨hdistinct, PyValue.covers_self _ hdistinct⟩
  | _ =>
    have hempty : (PyValue.dict []).DistinctKeys := by
      rw [PyValue.DistinctKeys, PyValue.DistinctKeysIn]
      exact ⟨List.nodup_nil, trivial⟩
    exact ⟨hempty, PyValue.covers_of_not_cons PyValue.dict_nil_ne_cons _⟩

theorem covers_supplied_iff {supplied : Option Record} {stored : Record} {key : String}
    (hstored : (stored.value key).DistinctKeys)
    (hsupplied : ∀ m, supplied = some m → (PyValue.dict m.entries).DistinctKeys) :
    (PyValue.dict (supplied.getD (mapOf stored key)).entries).DistinctKeys ∧
      ((PyValue.dict (supplied.getD (mapOf stored key)).entries).Covers (stored.value key) ↔
        ∀ m, supplied = some m → (PyValue.dict m.entries).Covers (stored.value key)) := by
  cases supplied with
  | none => exact ⟨(mapOf_covers hstored).1, iff_of_true (mapOf_covers hstored).2 nofun⟩
  | some m =>
    refine ⟨hsupplied m rfl, fun h m' hm' => ?_, fun h => h m rfl⟩
    rw [← Option.some_inj.1 hm']
    exact h

/-- **A company is read back** exactly if the write leaves nothing of the stored document over. -/
theorem company_readsBack_iff (cfg : AdminSettings) (tenantId : String) (w : CompanyWrite)
    (env env' : AdminEnv) {registry registry' : AdminRegistry} {p : PreparedRequest}
    {response : AdminResponse} {companyId : String}
    (hroute : w.route cfg tenantId env registry = .ok p)
    (houtcome : p.outcome = (registry', .ok response))
    (hid : normalizeCompanyIdStrict cfg.py w.rawCompanyId = some companyId)
    (hformed : WellFormedWrite w ((registry.get? (tenantId, companyId)).getD .empty))
    (hreads : env'.reads = true) :
    ReadsBack cfg tenantId w env' registry' response ↔
      LeavesNothing w ((registry.get? (tenantId, companyId)).getD .empty) := by
  obtain ⟨id, fields, createdAt, hw, hregistry, hresponse⟩ := written_of_committed hroute houtcome
  obtain rfl : companyId = id := Option.some_inj.1 (hid.symm.trans hw.companyId)
  generalize hstored : (registry.get? (tenantId, companyId)).getD .empty = stored at hw hformed ⊢
  obtain ⟨hfactsDistinct, hfactsCovers⟩ := covers_supplied_iff hformed.storedFacts hformed.facts
  obtain ⟨hconnectorsDistinct, hconnectorsCovers⟩ :=
    covers_supplied_iff hformed.storedConnectors hformed.connectors
  rw [← hw.facts] at hfactsDistinct hfactsCovers
  rw [← hw.connectors] at hconnectorsDistinct hconnectorsCovers
  have hsame := @adminCompanyResponse_same_iff cfg.py tenantId companyId env.nowIso fields createdAt
    stored hw.displayName hconnectorsDistinct hfactsDistinct
  generalize hpayload :
    withCreatedAt (adminCompanyPayload cfg.py tenantId companyId fields env.nowIso)
    createdAt = payload at hregistry hresponse hsame
  have hget := fun key (hkey : key ≠ "created_at") =>
    withCreatedAt_get? cfg.py tenantId companyId env.nowIso fields createdAt hkey
  rw [hpayload] at hget
  have hdoc : registry'.get? (tenantId, companyId) = some (stored.mergeDeep payload) := by
    rw [hregistry, saveCompany, hstored, Dict.get?_set_self]
  -- the merged document is of the supported version
  have hloaded : loadRegistryCompanyDoc env' registry' tenantId companyId =
      .ok (stored.mergeDeep payload) := by
    obtain ⟨-, hversion⟩ := merged_scalar (hget "schema_version" (by decide)) rfl stored
    have hsupported : schemaVersionSupported (stored.mergeDeep payload) = true := by
      unfold schemaVersionSupported
      rw [hversion]
      rfl
    unfold loadRegistryCompanyDoc
    rw [if_pos hreads, hdoc]
    exact if_pos hsupported
  have hgot : getAdminCompanyRoute cfg tenantId w.rawCompanyId env' registry' = .ok ⟨200, .dict [
      ("apiVersion", .str "v1"), ("tenantId", .str tenantId), ("companyId", .str companyId),
      ("company", adminCompanyResponse cfg.py tenantId companyId (stored.mergeDeep payload))]⟩ := by
    unfold getAdminCompanyRoute
    rw [hid]
    dsimp only
    rw [hloaded]
  have hcompany :
    (∃ got, getAdminCompanyRoute cfg tenantId w.rawCompanyId env' registry' = .ok got ∧
      got.company.Same response.company) ↔
      PyValue.Same (adminCompanyResponse cfg.py tenantId companyId (stored.mergeDeep payload))
        (adminCompanyResponse cfg.py tenantId companyId payload) := by
    rw [hresponse]
    constructor
    · rintro ⟨got, hroute', h⟩
      rw [hgot] at hroute'
      cases hroute'
      exact h
    · intro h
      exact ⟨_, hgot, h⟩
  constructor
  · intro h
    obtain ⟨hconnectors, hinventory, hfacts, hcreatedAt⟩ := hsame.1 (hcompany.1 h.company)
    exact ⟨hfactsCovers.1 hfacts, hconnectorsCovers.1 hconnectors, hinventory,
      hw.createdAt.1 hcreatedAt⟩
  · intro h
    refine ⟨hcompany.2 (hsame.2 ⟨hconnectorsCovers.2 h.connectors, h.inventory,
      hfactsCovers.2 h.facts,
      hw.createdAt.2 h.createdAt⟩), fun facts hfacts => ?_, fun connectors hconnectors => ?_⟩
    · obtain ⟨-, hmerged⟩ := merged_map (hget "facts" (by decide)) stored
      refine ⟨companyId, _, hid, hdoc, ?_⟩
      rw [hmerged, hw.facts, hfacts]
      exact (PyValue.same_mergeValue_iff _ _ (hformed.facts facts hfacts)).2 (h.facts facts hfacts)
    · obtain ⟨-, hmerged⟩ := merged_map (hget "connectors" (by decide)) stored
      refine ⟨companyId, _, hid, hdoc, ?_⟩
      rw [hmerged, hw.connectors, hconnectors]
      exact (PyValue.same_mergeValue_iff _ _ (hformed.connectors connectors hconnectors)).2
        (h.connectors connectors hconnectors)

/-- The state and the response of a request that is committed. -/
def committed? : Except AdminResponse PreparedRequest → Option (AdminRegistry × AdminResponse)
  | .ok ⟨_, registry, .ok response⟩ => some (registry, response)
  | _ => none

theorem prepared_of_committed? {r : Except AdminResponse PreparedRequest}
    {registry : AdminRegistry} {response : AdminResponse}
    (h : committed? r = some (registry, response)) :
    ∃ p, r = .ok p ∧ p.outcome = (registry, .ok response) := by
  cases r with
  | error e => cases h
  | ok p =>
    obtain ⟨fingerprinted, registry₁, result⟩ := p
    cases result with
    | error e => cases h
    | ok response₁ =>
      cases h
      exact ⟨_, rfl, rfl⟩

/-- A company with one fact. -/
def shopDocument : Record :=
  ⟨[("schema_version", .int 1), ("industry_template_id", .str "electronics"),
    ("display_name", .str "Shop"), ("facts", .dict [("hours", .str "9-17")])], by decide⟩

def shopCompanies : AdminRegistry := ⟨[(("acme", "shop"), shopDocument)], by decide⟩

def electronicsSettings : AdminSettings where
  py := .ascii
  onboardingTemplateIds _ _ := some ["electronics"]

def servedEnv : AdminEnv := ⟨"2026-01-01T00:00:00+00:00", true, true⟩

/-- An update of one fact. -/
def factUpdate (key : String) : CompanyWrite :=
  .put "shop" ⟨none, none, none, none, none, some ⟨[(key, .str "8-18")], List.nodup_singleton _⟩,
    none, none⟩

/-- The fact that was stored is replaced. -/
theorem company_readsBack_sameFact : ∃ registry' response,
    ReadsBack electronicsSettings "acme" (factUpdate "hours") servedEnv registry' response := by
  have hsome : (committed? ((factUpdate "hours").route electronicsSettings "acme" servedEnv
      shopCompanies)).isSome = true := by
    decide +kernel
  obtain ⟨⟨registry', response⟩, hcommitted⟩ := Option.isSome_iff_exists.1 hsome
  obtain ⟨p, hroute, houtcome⟩ := prepared_of_committed? hcommitted
  have hid : normalizeCompanyIdStrict electronicsSettings.py (factUpdate "hours").rawCompanyId =
      some "shop" := by
    decide +kernel
  have hfact : ∀ v : PyValue, v.DistinctKeys → (PyValue.dict [("hours", v)]).DistinctKeys := by
    intro v hv
    rw [PyValue.DistinctKeys, PyValue.DistinctKeysIn, PyValue.DistinctKeysIn]
    exact ⟨List.nodup_singleton _, hv, trivial⟩
  have hstr : ∀ s : String, (PyValue.str s).DistinctKeys := by
    intro s
    rw [PyValue.DistinctKeys]
    · exact trivial
    · exact fun _ h => by cases h
  have hnone : PyValue.none.DistinctKeys := by
    rw [PyValue.DistinctKeys]
    · exact trivial
    · exact fun _ h => by cases h
  refine ⟨registry', response,
    (company_readsBack_iff electronicsSettings "acme" (factUpdate "hours")
    servedEnv servedEnv hroute houtcome hid ⟨hfact _ (hstr _), hnone, fun facts hfacts => ?_,
      nofun⟩ rfl).2 ⟨fun facts hfacts => ?_, nofun, rfl, fun _ _ _ => Or.inl rfl⟩⟩
  · rw [← Option.some_inj.1 hfacts]
    exact hfact _ (hstr _)
  · rw [← Option.some_inj.1 hfacts]
    show (PyValue.dict [("hours", .str "8-18")]).Covers (.dict [("hours", .str "9-17")])
    rw [PyValue.Covers, PyValue.CoversEntries, PyValue.CoversEntries]
    exact ⟨fun key h => h, PyValue.covers_of_not_cons (fun _ _ h => by cases h) _, trivial⟩

/-- Another fact is supplied, and the stored one stays: the response does not have it, the store
    does. -/
theorem company_readsBack_keptFact : ∃ p registry' response,
    (factUpdate "phone").route electronicsSettings "acme" servedEnv shopCompanies = .ok p ∧
    p.outcome = (registry', .ok response) ∧
    ¬ ReadsBack electronicsSettings "acme" (factUpdate "phone") servedEnv registry' response := by
  have hstays : (committed? ((factUpdate "phone").route electronicsSettings "acme" servedEnv
      shopCompanies)).map (fun c => (c.1.get? ("acme", "shop")).map (fun doc =>
        (PyValue.lookupD (dictOrEmpty (doc.value "facts")) "hours").str?)) =
            some (some (some "9-17")) := by
    decide +kernel
  obtain ⟨⟨registry', response⟩, hcommitted, hdoc⟩ := Option.map_eq_some_iff.1 hstays
  obtain ⟨p, hroute, houtcome⟩ := prepared_of_committed? hcommitted
  refine ⟨p, registry', response, hroute, houtcome, fun h => ?_⟩
  obtain ⟨companyId, doc, hid, hget, hsame⟩ := h.facts _ rfl
  have hshop : normalizeCompanyIdStrict electronicsSettings.py (factUpdate "phone").rawCompanyId =
      some "shop" := by
    decide +kernel
  obtain rfl : "shop" = companyId := Option.some_inj.1 (hshop.symm.trans hid)
  rw [hget] at hdoc
  cases hfacts : doc.value "facts" with
  | dict es =>
    rw [hfacts] at hsame
    rw [Option.map_some, hfacts] at hdoc
    cases hsame with
    | dict hkeys _ =>
      have hnone : es.lookup "hours" = none := (hkeys "hours").2 (by decide)
      replace hdoc : (PyValue.lookupD es "hours").str? = some "9-17" := Option.some_inj.1 hdoc
      rw [PyValue.lookupD, PyValue.lookupOr, hnone] at hdoc
      cases hdoc
  | _ =>
    rw [hfacts] at hsame
    cases hsame

end Ekaette
