import Ekaette.Admin.Connectors
import Ekaette.Realtime.TenantBinding

set_option autoImplicit false

/-! # The connector policy

A connector that comes in by its own routes is checked against the catalog of providers. The
connectors of a company request are stored as they come. So every stored connector meets the policy
as long as what the company requests supply does. -/

namespace Ekaette

open PyValue (HasKey)

/-! ## Inline secrets -/

variable (py : StrMethods)

/-- No key at any depth is the name of a secret. -/
def SecretFree (v : PyValue) : Prop :=
  ∀ key, HasKey key v → py.lower (PyStr.strip key) ∉ forbiddenSecretKeys

theorem secretFree_dict (es : List (String × PyValue)) :
    SecretFree py (.dict es) ↔
      ∀ e ∈ es, py.lower (PyStr.strip e.1) ∉ forbiddenSecretKeys ∧ SecretFree py e.2 := by
  constructor
  · intro h e he
    exact ⟨h _ (.here he), fun key hkey => h key (.inDict he hkey)⟩
  · intro h key hkey
    cases hkey with
    | here hmem => exact (h _ hmem).1
    | inDict hmem hkey => exact (h _ hmem).2 key hkey

theorem secretFree_list (xs : List PyValue) :
    SecretFree py (.list xs) ↔ ∀ v ∈ xs, SecretFree py v := by
  constructor
  · intro h v hv key hkey
    exact h key (.inList hv hkey)
  · intro h key hkey
    cases hkey with
    | inList hmem hkey => exact h _ hmem key hkey

/-- What is neither a map nor a list has no key. -/
theorem secretFree_scalar {v : PyValue} (hdict : ∀ es, v ≠ .dict es)
    (hlist : ∀ xs, v ≠ .list xs) : SecretFree py v := by
  intro key hkey
  cases hkey with
  | here _ => exact absurd rfl (hdict _)
  | inDict _ _ => exact absurd rfl (hdict _)
  | inList _ _ => exact absurd rfl (hlist _)

mutual

/-- **The check finds every secret**: it finds none exactly if there is none at any depth. -/
theorem collectForbiddenSecretPaths_eq_nil (py : StrMethods) : ∀ (path : String) (v : PyValue),
    collectForbiddenSecretPaths py path v = [] ↔ SecretFree py v
  | path, .dict es => by
      rw [collectForbiddenSecretPaths, secretFree_dict]
      exact forbiddenPathsOfEntries_eq_nil py path es
  | path, .list xs => by
      rw [collectForbiddenSecretPaths, secretFree_list]
      exact forbiddenPathsOfItems_eq_nil py path 0 xs
  | _, .none => iff_of_true rfl (secretFree_scalar py (fun _ => PyValue.noConfusion)
    (fun _ => PyValue.noConfusion))
  | _, .bool _ => iff_of_true rfl (secretFree_scalar py (fun _ => PyValue.noConfusion)
    (fun _ => PyValue.noConfusion))
  | _, .int _ => iff_of_true rfl (secretFree_scalar py (fun _ => PyValue.noConfusion)
    (fun _ => PyValue.noConfusion))
  | _, .float _ => iff_of_true rfl (secretFree_scalar py (fun _ => PyValue.noConfusion)
    (fun _ => PyValue.noConfusion))
  | _, .str _ => iff_of_true rfl (secretFree_scalar py (fun _ => PyValue.noConfusion)
    (fun _ => PyValue.noConfusion))

theorem forbiddenPathsOfEntries_eq_nil (py : StrMethods) :
    ∀ (path : String) (es : List (String × PyValue)), forbiddenPathsOfEntries py path es = [] ↔
      ∀ e ∈ es, py.lower (PyStr.strip e.1) ∉ forbiddenSecretKeys ∧ SecretFree py e.2
  | _, [] => iff_of_true rfl (fun _ h => by cases h)
  | path, (rawKey, child) :: es => by
      rw [forbiddenPathsOfEntries, List.forall_mem_cons]
      simp only [List.append_eq_nil_iff]
      rw [collectForbiddenSecretPaths_eq_nil py _ child, forbiddenPathsOfEntries_eq_nil py path es]
      by_cases hkey : py.lower (PyStr.strip rawKey) ∈ forbiddenSecretKeys
      · simp [hkey]
      · simp [hkey]

theorem forbiddenPathsOfItems_eq_nil (py : StrMethods) :
    ∀ (path : String) (index : ℕ) (xs : List PyValue),
    forbiddenPathsOfItems py path index xs = [] ↔ ∀ v ∈ xs, SecretFree py v
  | _, _, [] => iff_of_true rfl (fun _ h => by cases h)
  | path, index, child :: xs => by
      rw [forbiddenPathsOfItems, List.forall_mem_cons, List.append_eq_nil_iff,
        collectForbiddenSecretPaths_eq_nil py _ child, forbiddenPathsOfItems_eq_nil py path
        (index + 1) xs]

end

theorem SecretFree.mergeValue {py : StrMethods} {v stored : PyValue} (hv : SecretFree py v)
    (hstored : SecretFree py stored) : SecretFree py (mergeValue v stored) := by
  intro key hkey
  rcases PyValue.hasKey_mergeValue v stored hkey with h | h
  · exact hv key h
  · exact hstored key h

/-! ## What the policy asks -/

/-- What a provider asks of its connectors. -/
structure ProviderMet (cfg : ConnectorSettings) (connector : Record) (provider : String)
    (policy : Record) :
    Prop where
  named : connector.value "provider" = .str provider
  listed : cfg.providerCatalog.get? provider = some policy
  secretRef : requiresSecretRef provider policy = true →
    ∃ secretRef, connector.value "secret_ref" = .str secretRef ∧ PyStr.strip secretRef ≠ ""
  capabilities : ∀ capability ∈ listOrEmpty (connector.value "capabilities"),
    ∃ name, capability = .str name ∧ notAllowed (policyStrings cfg.py (policy.value "capabilities"))
    name = false

/-- What the policy asks of the connector that is stored under an id. -/
structure ConnectorConforms (cfg : ConnectorSettings) (id : String) (connector : Record) :
    Prop where
  id_normalized : normalizeConnectorId cfg.py (some id) = some id
  provider : ∃ provider policy, ProviderMet cfg connector provider policy
  secretFree : SecretFree cfg.py (connector.value "config")

/-- Every entry is a connector that conforms. -/
def ConnectorsConform (cfg : ConnectorSettings) (connectors : Record) : Prop :=
  ∀ id v, connectors.get? id = some v →
    ∃ connector : Record, v = .dict connector.entries ∧ ConnectorConforms cfg id connector

/-- **Stored connectors satisfy the connector policy.** -/
def RegistryConforms (cfg : ConnectorSettings) (registry : AdminRegistry) : Prop :=
  ∀ company doc, registry.get? company = some doc → ConnectorsConform cfg (connectorsOf doc)

/-- A connector that is supplied conforms, with the fields it leaves out as they are stored. -/
def SuppliedConforms (cfg : ConnectorSettings) (stored : Record) (id : String) (v : PyValue) :
    Prop :=
  ∃ supplied : Record, v = .dict supplied.entries ∧ supplied.entries ≠ [] ∧
    ConnectorConforms cfg id ((Dict.ofList (dictOrEmpty (stored.value id))).merge supplied)

/-! ## Merging connectors -/

variable {cfg : ConnectorSettings}

/-- Only the fields that the policy is about matter. -/
theorem ConnectorConforms.congr {id : String} {connector connector' : Record}
    (h : ConnectorConforms cfg id connector)
    (hprovider : ∀ s, connector.value "provider" = .str s → connector'.value "provider" = .str s)
    (hsecret : ∀ s, connector.value "secret_ref" = .str s → connector'.value "secret_ref" = .str s)
    (hcapabilities : listOrEmpty (connector'.value "capabilities") = listOrEmpty
      (connector.value "capabilities"))
    (hconfig : SecretFree cfg.py (connector'.value "config")) :
    ConnectorConforms cfg id connector' where
  id_normalized := h.id_normalized
  provider := by
    obtain ⟨provider, policy, hmet⟩ := h.provider
    refine ⟨provider, policy, hprovider _ hmet.named, hmet.listed, fun hrequires => ?_,
      fun capability hcap => ?_⟩
    · obtain ⟨secretRef, hsome, hne⟩ := hmet.secretRef hrequires
      exact ⟨secretRef, hsecret _ hsome, hne⟩
    · rw [hcapabilities] at hcap
      exact hmet.capabilities capability hcap
  secretFree := hconfig

theorem Record.value_merge (stored supplied : Record) (key : String) :
    Record.value (stored.merge supplied) key = ((supplied.get? key).getD (stored.value key)) := by
  rw [Record.value, Dict.get?_merge, Record.value]
  cases supplied.get? key <;> rfl

theorem Record.value_deep (stored supplied : Record) (key : String) :
    (stored.mergeDeep supplied).value key =
      ((supplied.get? key).map (fun v => mergeValue v (stored.value key))).getD
      (stored.value key) := by
  rw [Record.value, Record.get?_mergeDeep, Record.value]
  cases supplied.get? key <;> rfl

/-- A map is merged into a map. -/
theorem listOrEmpty_mergeValue (v stored : PyValue) :
    listOrEmpty (mergeValue v stored) = listOrEmpty v := by
  cases v with
  | dict es =>
    cases es with
    | nil => rfl
    | cons e es =>
      rw [PyValue.mergeValue_dict_cons]
      rfl
  | _ => rfl

/-- Merging deeply conforms where replacing the fields does. -/
theorem ConnectorConforms.mergeDeep {id : String} {stored supplied : Record}
    (h : ConnectorConforms cfg id (stored.merge supplied))
    (hstored : SecretFree cfg.py (stored.value "config")) :
    ConnectorConforms cfg id (stored.mergeDeep supplied) := by
  have hstr : ∀ key s, Record.value (stored.merge supplied) key = .str s →
      (stored.mergeDeep supplied).value key = .str s := by
    intro key s hs
    rw [Record.value_merge] at hs
    rw [Record.value_deep]
    cases hsupplied : supplied.get? key with
    | none =>
      rw [hsupplied] at hs
      exact hs
    | some v =>
      rw [hsupplied, Option.getD_some] at hs
      rw [hs]
      rfl
  refine h.congr (hstr _) (hstr _) ?_ ?_
  · rw [Record.value_merge, Record.value_deep]
    cases supplied.get? "capabilities" with
    | none => rfl
    | some v => exact listOrEmpty_mergeValue v _
  · have hconfig := h.secretFree
    rw [Record.value_merge] at hconfig
    rw [Record.value_deep]
    cases hsupplied : supplied.get? "config" with
    | none => exact hstored
    | some v =>
      rw [hsupplied] at hconfig
      exact hconfig.mergeValue hstored

theorem ConnectorsConform.secretFree {stored : Record} (h : ConnectorsConform cfg stored)
    (id : String) :
    SecretFree cfg.py (Record.value (Dict.ofList (dictOrEmpty (stored.value id))) "config") := by
  cases hget : stored.get? id with
  | none =>
    have hvalue : stored.value id = .none := by
      rw [Record.value, hget]
      rfl
    rw [hvalue]
    exact secretFree_scalar cfg.py (fun _ => PyValue.noConfusion) (fun _ => PyValue.noConfusion)
  | some v =>
    obtain ⟨connector, rfl, hconforms⟩ := h id v hget
    have hvalue : stored.value id = .dict connector.entries := by
      rw [Record.value, hget]
      rfl
    rw [hvalue]
    show SecretFree cfg.py (Record.value (Dict.ofList connector.entries) "config")
    rw [Dict.ofList_entries]
    exact hconforms.secretFree

theorem SuppliedConforms.merged {stored : Record} (hstored : ConnectorsConform cfg stored)
    {id : String} {v : PyValue} (h : SuppliedConforms cfg stored id v) :
    ∃ connector : Record, mergeValue v (stored.value id) = .dict connector.entries ∧
      ConnectorConforms cfg id connector := by
  obtain ⟨supplied, rfl, hne, hconforms⟩ := h
  refine ⟨Record.mergeDeep (Dict.ofList (dictOrEmpty (stored.value id))) supplied, ?_,
    hconforms.mergeDeep (hstored.secretFree id)⟩
  rw [Record.mergeDeep]
  cases hentries : supplied.entries with
  | nil => exact absurd hentries hne
  | cons e es => exact PyValue.mergeValue_dict_cons e es _

/-- **What is merged into a company** keeps its connectors conforming. -/
theorem ConnectorsConform.save {doc payload written : Record}
    (hpayload : payload.get? "connectors" = some (.dict written.entries))
    (hdoc : ConnectorsConform cfg (connectorsOf doc))
    (hwritten : ∀ id v, written.get? id = some v → SuppliedConforms cfg (connectorsOf doc) id v) :
    ConnectorsConform cfg (connectorsOf (doc.mergeDeep payload)) := by
  intro id v hget
  rw [get?_connectorsOf_mergeDeep hpayload] at hget
  by_cases hempty : written.entries = []
  · rw [if_pos hempty] at hget
    cases hget
  rw [if_neg hempty] at hget
  cases hw : written.get? id with
  | none =>
    rw [hw] at hget
    exact hdoc id v hget
  | some w =>
    rw [hw] at hget
    rw [← Option.some_inj.1 hget]
    exact (hwritten id w hw).merged hdoc

/-- A connector that is written over itself. -/
theorem ConnectorsConform.self {stored : Record} (h : ConnectorsConform cfg stored) (id : String)
    (v : PyValue) (hget : stored.get? id = some v) : SuppliedConforms cfg stored id v := by
  obtain ⟨connector, rfl, hconforms⟩ := h id v hget
  have hvalue : stored.value id = .dict connector.entries := by
    rw [Record.value, hget]
    rfl
  refine ⟨connector, rfl, fun hempty => ?_, ?_⟩
  · obtain ⟨provider, policy, hmet⟩ := hconforms.provider
    have hnamed := hmet.named
    rw [Record.value, Dict.get?, hempty] at hnamed
    cases hnamed
  · rw [hvalue]
    show ConnectorConforms cfg id ((Dict.ofList connector.entries).merge connector)
    rw [Dict.ofList_entries]
    have hsame : ∀ key, Record.value (connector.merge connector) key = connector.value key := by
      intro key
      rw [Record.value_merge, Record.value]
      cases connector.get? key <;> rfl
    refine hconforms.congr (fun s hs => (hsame _).trans hs) (fun s hs => (hsame _).trans hs) ?_ ?_
    · rw [hsame]
    · rw [hsame]
      exact hconforms.secretFree

/-! ## Connectors that come in by their own routes -/

theorem notAllowed_any {allowed names : List String} (h : names.any (notAllowed allowed) = false) :
    ∀ name ∈ names, notAllowed allowed name = false := by
  intro name hname
  by_contra hnot
  exact absurd (List.any_eq_true.2 ⟨name, hname, Bool.not_eq_false _ ▸ hnot⟩)
    (by rw [h]; exact Bool.false_ne_true)

theorem connectorEntry_get? (id provider : String) (enabled : Bool) (capabilities : List String)
    (config : Record) (runtimePolicy : PyValue) (secretRef : String) :
    let connector := connectorEntry id provider enabled capabilities config runtimePolicy secretRef
    connector.get? "provider" = some (.str provider) ∧
      connector.get? "capabilities" = some (.list (capabilities.map .str)) ∧
      connector.get? "config" = some (.dict config.entries) ∧
      (secretRef ≠ "" → connector.get? "secret_ref" = some (.str secretRef)) := by
  have hentry :
    ∀ key, (Dict.ofList [("id", .str id), ("provider", .str provider), ("enabled", .bool enabled),
      ("capabilities", .list (capabilities.map .str)), ("config", .dict config.entries),
      ("runtime_policy", runtimePolicy)] : Record).get? key =
      ([("id", .str id), ("provider", .str provider), ("enabled", .bool enabled),
        ("capabilities", .list (capabilities.map .str)), ("config", .dict config.entries),
        ("runtime_policy", runtimePolicy)] : List (String × PyValue)).lookup key := by
    intro key
    rw [Dict.get?, Dict.entries_ofList]
    simp only [List.map_cons, List.map_nil]
    decide
  unfold connectorEntry
  by_cases hsecret : secretRef = ""
  · simp only [if_pos hsecret]
    exact ⟨hentry _, hentry _, hentry _, fun h => absurd hsecret h⟩
  · simp only [if_neg hsecret]
    refine ⟨?_, ?_, ?_, fun _ => Dict.get?_set_self _ _ _⟩
    · exact (Dict.get?_set_of_ne _ _ (by decide)).trans (hentry _)
    · exact (Dict.get?_set_of_ne _ _ (by decide)).trans (hentry _)
    · exact (Dict.get?_set_of_ne _ _ (by decide)).trans (hentry _)

theorem normalizeConnectorId_normalized (py : StrMethods) {raw : Option String} {id : String}
    (h : normalizeConnectorId py raw = some id) : normalizeConnectorId py (some id) = some id := by
  have hmatches : connectorIdMatches id = true := (Option.filter_eq_some_iff.1 h).2
  have hchars : ∀ c ∈ id.toList, (c.isLower || c.isDigit || c = '_' || c = '-') = true := by
    rw [connectorIdMatches] at hmatches
    cases hid : id.toList with
    | nil => exact fun c hc => by cases hc
    | cons c cs =>
      rw [hid] at hmatches
      simp only [Bool.and_eq_true, List.all_eq_true] at hmatches
      rw [List.forall_mem_cons]
      exact ⟨by rw [hmatches.1.1.1, Bool.true_or, Bool.true_or], hmatches.2⟩
  obtain ⟨hstrip, hlower⟩ := plain_of_idChars py hchars
  rw [normalizeConnectorId, Option.map_some, hstrip, hlower]
  exact Option.filter_eq_some_iff.2 ⟨rfl, hmatches⟩

/-- **A connector that passes its checks** conforms, whatever it is merged into. -/
theorem normalizeConnectorPayload_conforms {connectorId templateId : String}
    {payload : ConnectorPayload} {connector : Record}
    (hid : normalizeConnectorId cfg.py (some connectorId) = some connectorId)
    (h : normalizeConnectorPayload cfg connectorId payload templateId = .ok connector)
    (stored : Record) : ConnectorConforms cfg connectorId (stored.merge connector) := by
  rw [normalizeConnectorPayload, hid] at h
  dsimp only at h
  cases hpolicy : cfg.providerCatalog.get? (cfg.py.lower (PyStr.strip payload.provider)) with
  | none =>
    rw [hpolicy] at h
    cases h
  | some policy =>
    rw [hpolicy] at h
    dsimp only at h
    split at h
    · cases h
    rename_i hnone
    split at h
    · cases h
    cases h
    obtain ⟨-, hnone⟩ := firstError_cons_none hnone
    obtain ⟨-, hnone⟩ := firstError_cons_none hnone
    obtain ⟨hsecret, hnone⟩ := firstError_cons_none hnone
    obtain ⟨hforbidden, hnone⟩ := firstError_cons_none hnone
    obtain ⟨hcapabilities, -⟩ := firstError_cons_none hnone
    rw [Bool.not_eq_false', List.isEmpty_iff, collectForbiddenSecretPaths_eq_nil] at hforbidden
    obtain ⟨hprovider, hcaps, hconfig, hsecretRef⟩ := connectorEntry_get? connectorId
      (cfg.py.lower (PyStr.strip payload.provider)) payload.enabled
      (policyStrings cfg.py (.list (payload.capabilities.map .str))) payload.config _
      (PyStr.strip (payload.secretRef.getD ""))
    refine ⟨hid, ⟨_, policy, ?_, hpolicy, fun hrequires => ?_, fun capability hcap => ?_⟩, ?_⟩
    · rw [Record.value_merge, hprovider, Option.getD_some]
    · have hne : PyStr.strip (payload.secretRef.getD "") ≠ "" := by
        rw [hrequires, Bool.true_and, decide_eq_false_iff_not] at hsecret
        exact hsecret
      refine ⟨PyStr.strip (payload.secretRef.getD ""), ?_, by rw [PyStr.strip_strip]; exact hne⟩
      rw [Record.value_merge, hsecretRef hne, Option.getD_some]
    · rw [Record.value_merge, hcaps, Option.getD_some] at hcap
      obtain ⟨name, hname, rfl⟩ := List.mem_map.1 hcap
      exact ⟨name, rfl, notAllowed_any hcapabilities name hname⟩
    · rw [Record.value_merge, hconfig, Option.getD_some]
      exact hforbidden

/-! ## What the requests write -/

theorem RegistryConforms.set {registry : AdminRegistry} (h : RegistryConforms cfg registry)
    (company : String × String) {doc : Record} (hdoc : ConnectorsConform cfg (connectorsOf doc)) :
    RegistryConforms cfg (registry.set company doc) := by
  intro company' doc' hget
  rw [Dict.get?_set] at hget
  by_cases hkey : company' = company
  · rw [if_pos hkey] at hget
    rw [← Option.some_inj.1 hget]
    exact hdoc
  · rw [if_neg hkey] at hget
    exact h company' doc' hget

theorem RegistryConforms.stored {registry : AdminRegistry} (h : RegistryConforms cfg registry)
    (company : String × String) :
    ConnectorsConform cfg (connectorsOf ((registry.get? company).getD .empty)) := by
  cases hget : registry.get? company with
  | none =>
    intro id v hv
    cases hv
  | some doc => exact h company doc hget

/-- A change that puts a connector in its place puts one that conforms. -/
def ConformingChange (cfg : ConnectorSettings) : ConnectorChange → Prop
  | .put id v => ∃ connector : Record, v = .dict connector.entries ∧
      ∀ stored : Record, ConnectorConforms cfg id (stored.merge connector)
  | _ => True

theorem conforms_alone {id : String} {connector : Record}
    (h : ∀ stored : Record, ConnectorConforms cfg id (stored.merge connector)) :
    connector.entries ≠ [] ∧ ConnectorConforms cfg id connector := by
  have hsame : ∀ key, Record.value (Dict.empty.merge connector) key = connector.value key := by
    intro key
    rw [Record.value_merge]
    unfold Record.value
    cases connector.get? key <;> rfl
  have halone : ConnectorConforms cfg id connector :=
    (h .empty).congr (fun s hs => (hsame _).symm.trans hs) (fun s hs => (hsame _).symm.trans hs)
      (by rw [hsame]) (by rw [← hsame]; exact (h .empty).secretFree)
  refine ⟨fun hempty => ?_, halone⟩
  obtain ⟨provider, policy, hmet⟩ := halone.provider
  have hnamed := hmet.named
  rw [Record.value, Dict.get?, hempty] at hnamed
  cases hnamed

section

variable {stored : Record} (hstored : ConnectorsConform cfg stored) {change : ConnectorChange}
  (hchange : ConformingChange cfg change)

include hstored hchange

theorem ConformingChange.apply : ConnectorsConform cfg (change.apply stored) := by
  intro id v hget
  cases change with
  | keep => exact hstored id v hget
  | remove key =>
    rw [ConnectorChange.apply, Dict.get?_erase] at hget
    by_cases hkey : id = key
    · rw [if_pos hkey] at hget
      cases hget
    · rw [if_neg hkey] at hget
      exact hstored id v hget
  | put key w =>
    rw [ConnectorChange.apply, Dict.get?_set] at hget
    by_cases hkey : id = key
    · rw [if_pos hkey] at hget
      obtain ⟨connector, rfl, hconforms⟩ := hchange
      rw [← Option.some_inj.1 hget, hkey]
      exact ⟨connector, rfl, (conforms_alone hconforms).2⟩
    · rw [if_neg hkey] at hget
      exact hstored id v hget

/-- They can be merged into the stored ones. -/
theorem ConformingChange.supplied (id : String) (v : PyValue)
    (hget : (change.apply stored).get? id = some v) : SuppliedConforms cfg stored id v := by
  cases change with
  | keep => exact hstored.self id v hget
  | remove key =>
    rw [ConnectorChange.apply, Dict.get?_erase] at hget
    by_cases hkey : id = key
    · rw [if_pos hkey] at hget
      cases hget
    · rw [if_neg hkey] at hget
      exact hstored.self id v hget
  | put key w =>
    rw [ConnectorChange.apply, Dict.get?_set] at hget
    by_cases hkey : id = key
    · rw [if_pos hkey] at hget
      obtain ⟨connector, rfl, hconforms⟩ := hchange
      rw [← Option.some_inj.1 hget, hkey]
      exact ⟨connector, rfl, (conforms_alone hconforms).1, hconforms _⟩
    · rw [if_neg hkey] at hget
      exact hstored.self id v hget

end

/-- **The connector routes** keep the stored connectors conforming. -/
theorem writeUnderLock_conforms {env : ConnectorEnv} {registry : AdminRegistry}
    (h : RegistryConforms cfg registry) (tenantId companyId connectorId : String)
    {change : ConnectorChange} (hchange : ConformingChange cfg change)
    (present : Bool) (refusal response : AdminResponse) :
    RegistryConforms cfg (writeUnderLock env registry tenantId companyId connectorId change present
      refusal response).1 := by
  unfold writeUnderLock
  by_cases hlock : env.lockFree = true
  · rw [if_pos hlock]
    cases hload : loadRegistryCompanyDoc { env.toAdminEnv with reads := env.readsAgain } registry
        tenantId companyId with
    | error response => exact h
    | ok company =>
      dsimp only
      by_cases hpresent : (connectorsOf company).contains connectorId = present
      · rw [if_pos hpresent]
        have hget := (stored_of_loaded hload).1
        have hcompany := h _ _ hget
        have hchanged :
          connectorsOf ((withConnectors company (change.apply (connectorsOf company))).set
            "updated_at" (.str env.nowIso)) = change.apply (connectorsOf company) := by
          rw [connectorsOf_set _ _ (by decide), connectorsOf_withConnectors]
        unfold storeConnector
        dsimp only
        by_cases hfield : env.fieldWrites = true
        · rw [if_pos hfield]
          refine h.set (tenantId, companyId) ?_
          rw [hchanged]
          exact hchange.apply hcompany
        · rw [if_neg hfield]
          by_cases hwrites : env.writes = true
          · rw [if_pos hwrites]
            refine h.set (tenantId, companyId) ?_
            rw [hget, Option.getD_some]
            refine @ConnectorsConform.save cfg _ _ (change.apply (connectorsOf company)) ?_ hcompany
              (hchange.supplied hcompany)
            rw [Dict.get?_set_of_ne _ _ (by decide), withConnectors, Dict.get?_set_self]
          · rw [if_neg hwrites]
            exact h
      · rw [if_neg hpresent]
        exact h
  · rw [if_neg hlock]
    exact h

theorem putConnector_conforms {env : ConnectorEnv} {registry : AdminRegistry}
    (h : RegistryConforms cfg registry) (tenantId companyId : String) {connectorId : String}
    (hid : normalizeConnectorId cfg.py (some connectorId) = some connectorId)
    (payload : ConnectorPayload) (company : Record) (present : Bool) (refusal : AdminResponse)
    (status : ℤ) (done : String) : RegistryConforms cfg
    (putConnector cfg env registry tenantId companyId connectorId payload company present
      refusal status done).1 := by
  unfold putConnector
  cases hpayload : normalizeConnectorPayload cfg connectorId payload
      (((company.value "industry_template_id").orElse (.str "")).toStr cfg.py) with
  | error response => exact h
  | ok connector =>
    have hchange : ConformingChange cfg (.put connectorId (.dict connector.entries)) :=
      ⟨connector, rfl, normalizeConnectorPayload_conforms hid hpayload⟩
    exact writeUnderLock_conforms h tenantId companyId connectorId hchange present refusal _

theorem loadConnectorCompany_normalized
    {tenantId rawCompanyId rawConnectorId companyId connectorId : String}
    {mismatch : String → Bool} {env : ConnectorEnv} {registry : AdminRegistry} {company : Record}
    (h : loadConnectorCompany cfg tenantId rawCompanyId rawConnectorId mismatch env registry =
      .ok (companyId, connectorId, company)) :
    normalizeConnectorId cfg.py (some connectorId) = some connectorId := by
  unfold loadConnectorCompany at h
  split at h
  · rename_i hid
    split_ifs at h
    split at h
    · cases h
    · split_ifs at h
      cases h
      exact normalizeConnectorId_normalized cfg.py hid
  · cases h

/-! ## Runs -/

/-- A request comes in; its preflight lets it execute, or has an answer for it. -/
structure RegistryEvent where
  tenantId : String
  request : RegistryRequest
  env : ConnectorEnv
  executes : Bool

/-- The state and the response of a request that succeeds. -/
def RegistryEvent.committed (cfg : ConnectorSettings) (registry : AdminRegistry)
    (e : RegistryEvent) : Option (AdminRegistry × AdminResponse) :=
  if e.executes then committed? (e.request.route cfg e.tenantId e.env registry) else none

/-- The registry under the admin requests, with the responses that are committed. -/
def adminRequests (cfg : ConnectorSettings) :
    EventMachine AdminRegistry RegistryEvent (Option AdminResponse) where
  step registry e :=
    match e.request.route cfg e.tenantId e.env registry with
    | .error _ => (registry, none)
    | .ok prepared =>
      if e.executes then (prepared.outcome.1, (e.committed cfg registry).map Prod.snd)
      else (registry, none)

/-- Where a request writes a company with connectors of its own, they conform. -/
def SuppliesConforming (cfg : ConnectorSettings) (registry : AdminRegistry) (e : RegistryEvent) :
    Prop :=
  ∀ w companyId connectors, e.request = .writeCompany w → (e.committed cfg registry).isSome = true →
    normalizeCompanyIdStrict cfg.py w.rawCompanyId = some companyId →
      w.connectors = some connectors → ∀ id v, connectors.get? id = some v →
        SuppliedConforms cfg (connectorsOf ((registry.get? (e.tenantId, companyId)).getD .empty)) id
        v

theorem companyWrite_outcome {cfg : AdminSettings} {tenantId : String} {w : CompanyWrite}
    {env : AdminEnv} {registry : AdminRegistry} {p : PreparedRequest}
    (hroute : w.route cfg tenantId env registry = .ok p) :
    p.outcome.1 = registry ∨ ∃ response, p.outcome = (p.outcome.1, .ok response) := by
  cases w with
  | post payload =>
    replace hroute : upsertAdminCompanyRoute cfg tenantId payload env registry = .ok p := hroute
    unfold upsertAdminCompanyRoute at hroute
    split_ifs at hroute
    split at hroute
    · cases hroute
    dsimp only at hroute
    split at hroute
    · cases hroute
    cases hroute
    unfold upsertCompany
    split
    · exact .inl rfl
    split_ifs
    · exact .inr ⟨_, rfl⟩
    · exact .inl rfl
  | put rawCompanyId payload =>
    replace hroute : updateAdminCompanyRoute cfg tenantId rawCompanyId payload env registry =
      .ok p := hroute
    unfold updateAdminCompanyRoute at hroute
    split at hroute
    · cases hroute
    split_ifs at hroute
    split at hroute
    · cases hroute
    dsimp only at hroute
    split at hroute
    · cases hroute
    split at hroute
    · cases hroute
    cases hroute
    unfold updateCompanyDoc
    dsimp only
    split_ifs
    · exact .inr ⟨_, rfl⟩
    · exact .inl rfl

/-- **A company request** keeps the stored connectors conforming, if those it supplies conform. -/
theorem companyWrite_conforms {registry : AdminRegistry} (h : RegistryConforms cfg registry)
    {e : RegistryEvent} {w : CompanyWrite} (hw : e.request = .writeCompany w)
    (hexecutes : e.executes = true) (hsupplies : SuppliesConforming cfg registry e)
    {p : PreparedRequest}
    (hroute : w.route cfg.toAdminSettings e.tenantId e.env.toAdminEnv registry = .ok p) :
    RegistryConforms cfg p.outcome.1 := by
  rcases companyWrite_outcome hroute with hsame | ⟨response, houtcome⟩
  · rw [hsame]
    exact h
  have hcommitted : (e.committed cfg registry).isSome = true := by
    have hrequest : e.request.route cfg e.tenantId e.env registry = .ok p := by
      rw [hw]
      exact hroute
    rw [RegistryEvent.committed, if_pos hexecutes, hrequest]
    obtain ⟨fingerprinted, outcome⟩ := p
    rw [show outcome = (outcome.1, .ok response) from houtcome]
    rfl
  obtain ⟨companyId, fields, createdAt, hwritten, hsaved, -⟩ := written_of_committed hroute houtcome
  rw [hsaved]
  refine h.set (e.tenantId, companyId) ?_
  have hstored := h.stored (e.tenantId, companyId)
  refine @ConnectorsConform.save cfg _ _ fields.connectors ?_ hstored ?_
  · exact withCreatedAt_get? _ _ _ _ _ _ (by decide)
  · intro id v hget
    rw [hwritten.connectors] at hget
    cases hconnectors : w.connectors with
    | some connectors =>
      rw [hconnectors] at hget
      exact hsupplies w companyId connectors hw hcommitted hwritten.companyId hconnectors id v hget
    | none =>
      rw [hconnectors] at hget
      refine hstored.self id v ?_
      rw [← ofList_value_connectors]
      exact hget

/-- **One request** keeps the stored connectors conforming. -/
theorem adminRequests_next {registry : AdminRegistry} {e : RegistryEvent}
    (h : RegistryConforms cfg registry) (hsupplies : SuppliesConforming cfg registry e) :
    RegistryConforms cfg ((adminRequests cfg).next registry e) := by
  unfold EventMachine.next adminRequests
  dsimp only
  cases hroute : e.request.route cfg e.tenantId e.env registry with
  | error response => exact h
  | ok p =>
    dsimp only
    by_cases hexecutes : e.executes = true
    · rw [if_pos hexecutes]
      cases hrequest : e.request with
      | writeCompany w =>
        rw [hrequest] at hroute
        exact companyWrite_conforms h hrequest hexecutes hsupplies hroute
      | deleteCompany companyId =>
        rw [hrequest] at hroute
        replace hroute : deleteAdminCompanyRoute cfg e.tenantId companyId e.env registry = .ok p :=
          hroute
        unfold deleteAdminCompanyRoute at hroute
        split at hroute
        · cases hroute
        split at hroute
        · cases hroute
        cases hroute
        dsimp only
        split_ifs
        · intro company doc hget
          rw [Dict.get?_erase] at hget
          split_ifs at hget
          exact h company doc hget
        · exact h
      | createConnector companyId payload =>
        rw [hrequest] at hroute
        replace hroute : createAdminCompanyConnectorRoute cfg e.tenantId companyId payload e.env
          registry = .ok p := hroute
        unfold createAdminCompanyConnectorRoute at hroute
        split at hroute
        · rename_i hid
          split at hroute
          · cases hroute
          cases hroute
          exact putConnector_conforms h _ _ (normalizeConnectorId_normalized cfg.py hid) _ _ _ _ _ _
        · cases hroute
      | updateConnector companyId connectorId payload =>
        rw [hrequest] at hroute
        replace hroute : updateAdminCompanyConnectorRoute cfg e.tenantId companyId connectorId
          payload e.env registry = .ok p := hroute
        unfold updateAdminCompanyConnectorRoute at hroute
        split at hroute
        · cases hroute
        · rename_i hload
          cases hroute
          exact putConnector_conforms h _ _ (loadConnectorCompany_normalized hload) _ _ _ _ _ _
      | deleteConnector companyId connectorId =>
        rw [hrequest] at hroute
        replace hroute : deleteAdminCompanyConnectorRoute cfg e.tenantId companyId connectorId e.env
          registry = .ok p := hroute
        unfold deleteAdminCompanyConnectorRoute at hroute
        split at hroute
        · cases hroute
        · cases hroute
          have hremove : ∀ id, ConformingChange cfg (.remove id) := fun _ => trivial
          exact writeUnderLock_conforms h _ _ _ (hremove _) _ _ _
    · rw [if_neg hexecutes]
      exact h

/-- A registry without connectors. -/
def NoConnectors (registry : AdminRegistry) : Prop :=
  ∀ company doc, registry.get? company = some doc → (connectorsOf doc).entries = []

/-- **Stored connectors satisfy the connector policy** in every state that the admin requests reach
    from a registry without connectors, if the company requests that succeed supply only connectors
    that conform. -/
theorem storedConnectors_conform (cfg : ConnectorSettings) {registry : AdminRegistry}
    (hnone : NoConnectors registry) (events : List RegistryEvent)
    (hsupplies : ∀ t ∈ (adminRequests cfg).trace registry events,
      SuppliesConforming cfg t.pre t.event) :
    (adminRequests cfg).Always (RegistryConforms cfg) registry events := by
  refine (adminRequests cfg).always_of_guarded (fun _ _ h hG => adminRequests_next h hG) ?_
    hsupplies
  intro company doc hget id v hv
  rw [Dict.get?, hnone company doc hget] at hv
  cases hv

/-- A provider that needs no secret. -/
def mockSettings : ConnectorSettings where
  py := .ascii
  onboardingTemplateIds _ _ := some ["electronics"]
  providerCatalog :=
    ⟨[("mock", ⟨[("requiresSecretRef", .bool false), ("capabilities", .list [.str "read"])],
    by decide⟩)], by decide⟩
  templatePolicies := .empty
  requireTestPolicy := false
  timeoutSeconds := .fin 5
  maxRetries := 1
  circuitOpenAfterFailures := 3
  circuitOpenSeconds := 60

/-- A company comes in with this connector. -/
def upsertWithConnector (connector : PyValue) : RegistryEvent where
  tenantId := "acme"
  request := .writeCompany (.post ⟨"shop", "Shop", "electronics", "active",
    ⟨[("crm", connector)], List.nodup_singleton _⟩, none, .empty, [], none⟩)
  env := ⟨servedEnv, true, true, true, .none⟩
  executes := true

theorem noConnectors_empty : NoConnectors .empty := by
  intro company doc hget
  cases hget

/-- A company with a connector that conforms. -/
theorem storedConnectors_conform_mock :
    (adminRequests mockSettings).Always (RegistryConforms mockSettings) .empty
        [upsertWithConnector (.dict [("provider", .str "mock")])] ∧
      (((adminRequests mockSettings).run .empty
        [upsertWithConnector (.dict [("provider", .str "mock")])]).get? ("acme", "shop")).isSome =
          true := by
  refine ⟨storedConnectors_conform mockSettings noConnectors_empty _ fun t ht => ?_,
    by decide +kernel⟩
  rw [EventMachine.trace_cons, EventMachine.trace_nil, List.mem_singleton] at ht
  rw [ht]
  intro w companyId connectors hw _ _ hconnectors id v hget
  obtain rfl := RegistryRequest.writeCompany.inj hw
  rw [← Option.some_inj.1 hconnectors] at hget
  have hmem := (Dict.get?_eq_some_iff _ _ _).1 hget
  obtain ⟨rfl, rfl⟩ := Prod.mk.inj (List.mem_singleton.1 hmem)
  refine ⟨⟨[("provider", .str "mock")], List.nodup_singleton _⟩, rfl, List.cons_ne_nil _ _,
    ⟨by decide +kernel, ⟨"mock", _, rfl, rfl, fun hrequires => ?_, fun _ hcap => ?_⟩, ?_⟩⟩
  · exact absurd hrequires (by decide)
  · cases hcap
  · exact secretFree_scalar _ (fun _ => PyValue.noConfusion) (fun _ => PyValue.noConfusion)

/-- A company brings in a connector of a provider that the catalog does not have, with a password in
    its configuration. -/
theorem uncheckedConnector_stored : NoConnectors .empty ∧
    ¬ (adminRequests mockSettings).Always (RegistryConforms mockSettings) .empty
    [upsertWithConnector
      (.dict [("provider", .str "evil"), ("config", .dict [("password", .str "hunter2")])])] := by
  refine ⟨noConnectors_empty, fun h => ?_⟩
  have hconforms := h.run
  have hstored : (((adminRequests mockSettings).run .empty [upsertWithConnector
      (.dict [("provider", .str "evil"), ("config", .dict [("password", .str "hunter2")])])]).get?
        ("acme", "shop")).map (fun doc => ((connectorsOf doc).get? "crm").map (fun v =>
          (Record.value (Dict.ofList (dictOrEmpty v)) "provider").str?)) =
              some (some (some "evil")) := by
    decide +kernel
  obtain ⟨doc, hdoc, hconnector⟩ := Option.map_eq_some_iff.1 hstored
  obtain ⟨v, hv, hprovider⟩ := Option.map_eq_some_iff.1 hconnector
  obtain ⟨connector, rfl, hpolicy⟩ := hconforms _ doc hdoc "crm" v hv
  obtain ⟨provider, policy, hmet⟩ := hpolicy.provider
  replace hprovider : (Record.value (Dict.ofList connector.entries) "provider").str? =
    some "evil" := hprovider
  rw [Dict.ofList_entries, hmet.named, PyValue.str?_str, Option.some.injEq] at hprovider
  have hlisted := hmet.listed
  rw [hprovider] at hlisted
  cases hlisted

end Ekaette
