import Ekaette.Admin.CompanyReads
import Ekaette.Admin.RetentionPurge
import Ekaette.Lib.PyNumber

set_option autoImplicit false

/-! # Inventory sync jobs

A run goes through the companies of a tenant, syncs those that are due and saves for each the
metadata of its sync. The metadata is built from the values that the run used. One of them, the
dry-run flag, may be the override of the run instead of what is stored, and so the override is what
later runs find. -/

namespace Ekaette

/-! ## The configuration -/

variable (py : StrMethods)

/-- `str(value).strip().lower()` -/
def normalText (s : String) : String := py.lower (PyStr.strip s)

/-- What a run reads of the metadata of a company. -/
@[ext]
structure SyncConfig where
  sourceType : String
  dataTier : String
  dryRun : Bool
  sourceUrl : String
  connectorId : String
  sheetName : String
  autoEnabled : Bool
  intervalMinutes : Except FloatError ℤ

/-- `str(value or default)` -/
def fieldText (default : String) (v : PyValue) : String :=
  (v.orElse (.str default)).toStr py

/-- `_inventory_sync_interval_minutes`; an infinity is not caught. -/
def inventorySyncIntervalMinutes (metadata : Record) : Except FloatError ℤ :=
  match ((metadata.get? "interval_minutes").getD (.int 15)).toInt py with
  | .ok value => .ok (max 1 (min value 1440))
  | .error .overflowError => .error .overflowError
  | .error _ => .ok (max 1 (min 15 1440))

def syncConfig (metadata : Record) : SyncConfig where
  sourceType := normalText py (fieldText py "" (metadata.value "source_type"))
  dataTier :=
    let tier := normalText py (fieldText py "admin" (metadata.value "data_tier"))
    if tier = "" then "admin" else tier
  dryRun := (metadata.value "dry_run").truthy
  sourceUrl := PyStr.strip (fieldText py "" (metadata.value "source_url"))
  connectorId := normalText py (fieldText py "" (metadata.value "connector_id"))
  sheetName := PyStr.strip (fieldText py "" (metadata.value "sheet_name"))
  autoEnabled := (metadata.value "auto_enabled").truthy
  intervalMinutes := inventorySyncIntervalMinutes py metadata

/-- The sources that a run can read. -/
def supportedSources : List String := ["google_sheets", "mcp_connector"]

/-! ## A run -/

/-- What a sync reports. -/
structure SyncResult where
  parsedRows : ℤ
  normalizedRows : ℤ
  written : ℤ
  errors : List String

/-- A run: its arguments, its clock, and what the sources return or raise. -/
structure SyncRun where
  lib : PurgeLib
  tenantId : String
  companyId : Option String
  maxCompanies : ℤ
  force : Bool
  dryRunOverride : Option Bool
  now : ℤ
  isoformat : ℤ → String
  /-- the time in the metadata of a company -/
  updatedAt : String → String
  /-- `_sync_company_inventory_from_google_sheet` of company, address, sheet, tier and flag -/
  googleSheet : String → String → String → String → Bool → Except String SyncResult
  /-- `_sync_company_inventory_from_connector` of company, document, connector, tier and flag -/
  connector : String → Record → String → String → Bool → Except String SyncResult

inductive SyncError where
  | companyNotFound
  | storageUnavailable
  | overflow
  deriving DecidableEq

inductive CompanyReport where
  | skipped (companyId reason : String)
  | ran (companyId status : String) (result : SyncResult)

/-- Set a field under a condition. -/
def setIf (condition : Prop) [Decidable condition] (key : String) (v : PyValue) (r : Record) :
    Record :=
  if condition then r.set key v else r

/-- Set a field to a text that is there and not blank. -/
def setStripped (key : String) (text : Option String) (r : Record) : Record :=
  setIf (PyStr.strip (text.getD "") ≠ "") key (.str (PyStr.strip (text.getD ""))) r

/-- `_inventory_sync_metadata`; `config` holds the source, the tier and the schedule. -/
def inventorySyncMetadata (config : SyncConfig) (intervalMinutes : ℤ) (dryRun : Bool)
    (status updatedAt : String) (result : SyncResult) (nextRunAt lastAttemptAt lastError :
      Option String) : Record :=
  let metadata : Record := Dict.ofList
    [("source_type", .str config.sourceType), ("data_tier", .str config.dataTier),
      ("dry_run", .bool dryRun), ("status", .str status), ("updated_at", .str updatedAt),
      ("last_result", .dict [("written", .int result.written),
        ("parsed_rows", .int result.parsedRows),
        ("normalized_rows", .int result.normalizedRows),
        ("error_count", .int result.errors.length)])]
  let metadata := setIf (config.sourceUrl ≠ "") "source_url" (.str config.sourceUrl) metadata
  let metadata := setIf (config.connectorId ≠ "") "connector_id" (.str config.connectorId) metadata
  let metadata := setIf (config.sheetName ≠ "") "sheet_name" (.str config.sheetName) metadata
  let metadata := metadata.set "auto_enabled" (.bool config.autoEnabled)
  let metadata := metadata.set "interval_minutes" (.int (max 1 (min intervalMinutes 1440)))
  setStripped "last_error" lastError
    (setStripped "last_attempt_at" lastAttemptAt (setStripped "next_run_at" nextRunAt metadata))

variable (run : SyncRun)

/-- `_inventory_sync_due` -/
def inventorySyncDue (metadata : Record) : Except PurgeError Bool :=
  if run.force then .ok true
  else if (metadata.value "auto_enabled").truthy = false then .ok false
  else do
    match ← parseTimestampUtc run.lib (metadata.value "next_run_at") with
    | none => return true
    | some nextRunAt => return decide (nextRunAt ≤ run.now)

/-- What the source of a company returns or raises. -/
def fetchSource (companyId : String) (doc : Record) (config : SyncConfig)
    (dryRun : Bool) : Except String SyncResult :=
  if config.sourceType = "google_sheets" then
    if config.sourceUrl = "" then .error "Missing source_url for google_sheets"
    else run.googleSheet companyId config.sourceUrl config.sheetName config.dataTier dryRun
  else if config.connectorId = "" then .error "Missing connector_id for mcp_connector"
  else run.connector companyId doc config.connectorId config.dataTier dryRun

/-- The status of a sync. -/
def syncStatus : Except String SyncResult → String
  | .ok result => if result.errors ≠ [] then "partial" else "success"
  | .error _ => "error"

/-- What is reported of a sync; one that raised has done nothing. -/
def syncResult : Except String SyncResult → SyncResult
  | .ok result => result
  | .error text => ⟨0, 0, 0, [text]⟩

/-- The metadata a run saves for a company. -/
def savedMetadata (companyId : String) (metadata : Record) (dryRun : Bool)
    (fetched : Except String SyncResult) (intervalMinutes : ℤ) : Record :=
  let config := syncConfig run.lib.py metadata
  let nextRunAt := if config.autoEnabled then
    some (run.isoformat (run.now + max 1 (min intervalMinutes 1440) * 60000000)) else none
  let lastError := if syncStatus fetched = "error" then (syncResult fetched).errors.head? else none
  setStripped "configured_at" (metadata.value "configured_at").str?
    (inventorySyncMetadata config intervalMinutes dryRun (syncStatus fetched)
      (run.updatedAt companyId)
      (syncResult fetched) nextRunAt (some (run.isoformat run.now)) lastError)

/-- What is saved in the document of a company. -/
def syncPayload (metadata : Record) : Record :=
  Dict.ofList [("inventory_sync", .dict metadata.entries),
    ("updated_at", .str (run.isoformat run.now))]

/-- The body of the loop: what is saved in the document of a company, and what is reported. -/
def runCompany (company : String × Record) :
    Except SyncError (Option Record × CompanyReport) :=
  let metadata := mapOf company.2 "inventory_sync"
  let config := syncConfig run.lib.py metadata
  if config.sourceType ∉ supportedSources then
    .ok (none, .skipped company.1 "No supported inventory sync source configured")
  else
    match inventorySyncDue run metadata with
    | .error _ => .error .overflow
    | .ok false => .ok (none, .skipped company.1 "Not due")
    | .ok true =>
      let dryRun := run.dryRunOverride.getD config.dryRun
      let fetched := fetchSource run company.1 company.2 config dryRun
      match config.intervalMinutes with
      | .error _ => .error .overflow
      | .ok intervalMinutes =>
        .ok (some (syncPayload run (savedMetadata run company.1 metadata dryRun fetched
          intervalMinutes)), .ran company.1 (syncStatus fetched) (syncResult fetched))

/-- The loop. -/
def runCompanies (run : SyncRun) (env : AdminEnv) :
    AdminRegistry → List (String × Record) → AdminRegistry × Except SyncError (List CompanyReport)
  | registry, [] => (registry, .ok [])
  | registry, company :: companies =>
    match runCompany run company with
    | .error e => (registry, .error e)
    | .ok (none, report) =>
      let (registry, reports) := runCompanies run env registry companies
      (registry, reports.map (report :: ·))
    | .ok (some payload, report) =>
      if env.writes then
        let (registry, reports) :=
          runCompanies run env (saveCompany registry run.tenantId company.1 payload) companies
        (registry, reports.map (report :: ·))
      else (registry, .error .storageUnavailable)

/-- `_list_tenant_company_docs` -/
def listTenantCompanyDocs (registry : AdminRegistry) (tenantId : String)
    (maxCompanies : ℤ) : List (String × Record) :=
  (((registry.entries.filter (fun e => e.1.1 = tenantId)).take
    (max 1 (min maxCompanies 500)).toNat).map
    (fun e => (normalText py e.1.2, e.2))).filter (fun e => e.1 ≠ "")

/-- The companies of a run. -/
def companiesOfRun (env : AdminEnv) (registry : AdminRegistry) :
    Except SyncError (List (String × Record)) :=
  let target := normalText run.lib.py (run.companyId.getD "")
  if target = "" then
    if env.reads then .ok (listTenantCompanyDocs run.lib.py registry run.tenantId run.maxCompanies)
    else .error .storageUnavailable
  else
    match loadRegistryCompanyDoc env registry run.tenantId target with
    | .error _ => .error .companyNotFound
    | .ok doc => .ok [(target, doc)]

/-- `_run_inventory_sync_jobs`: the companies it leaves, and its reports. -/
def runInventorySyncJobs (env : AdminEnv) (registry : AdminRegistry) :
    AdminRegistry × Except SyncError (List CompanyReport) :=
  match companiesOfRun run env registry with
  | .error e => (registry, .error e)
  | .ok companies => runCompanies run env registry companies

/-! ## What merging leaves of the metadata -/

theorem get?_setIf (condition : Prop) [Decidable condition] (key : String) (v : PyValue)
    (r : Record) (k : String) : (setIf condition key v r).get? k = if condition ∧
    k = key then some v else r.get? k := by
  rw [setIf]
  split_ifs with h h' h'
  · rw [h'.2, Dict.get?_set_self]
  · rw [Dict.get?_set_of_ne _ _ (fun hk => h' ⟨h, hk⟩)]
  · exact absurd h'.1 h
  · rfl

theorem get?_mapOf_mergeDeep {doc payload written : Record} {key : String}
    (h : payload.get? key = some (.dict written.entries)) (hne : written.entries ≠ [])
    (k : String) : (mapOf (doc.mergeDeep payload) key).get? k =
      match written.get? k with
      | some v => some (mergeValue v ((mapOf doc key).value k))
      | none => (mapOf doc key).get? k := by
  obtain ⟨e, es, hentries⟩ := List.exists_cons_of_ne_nil hne
  have hvalue : (doc.mergeDeep payload).value key =
      .dict (mergeEntries written.entries (mapOf doc key)).entries := by
    rw [Record.value, Record.get?_mergeDeep, h, hentries]
    show mergeValue (.dict (e :: es)) _ = _
    rw [PyValue.mergeValue_dict_cons]
    rfl
  have hmap : mapOf (doc.mergeDeep payload) key = mergeEntries written.entries (mapOf doc key) := by
    rw [mapOf, hvalue]
    exact Dict.ofList_entries _
  rw [hmap]
  exact get?_mergeEntries written.nodup _ k

section Config

variable {run : SyncRun} {companyId status updatedAt : String} {config : SyncConfig}
    {metadata : Record}
  {dryRun : Bool} {fetched : Except String SyncResult} {intervalMinutes : ℤ} {result : SyncResult}
  {nextRunAt lastAttemptAt lastError : Option String}

/-- The fields of the configuration. -/
def configFields (config : SyncConfig) (intervalMinutes : ℤ) (dryRun : Bool) (k : String) :
    Option PyValue :=
  if k = "interval_minutes" then some (.int (max 1 (min intervalMinutes 1440)))
  else if k = "auto_enabled" then some (.bool config.autoEnabled)
  else if config.sheetName ≠ "" ∧ k = "sheet_name" then some (.str config.sheetName)
  else if config.connectorId ≠ "" ∧ k = "connector_id" then some (.str config.connectorId)
  else if config.sourceUrl ≠ "" ∧ k = "source_url" then some (.str config.sourceUrl)
  else if k = "dry_run" then some (.bool dryRun)
  else if k = "data_tier" then some (.str config.dataTier)
  else if k = "source_type" then some (.str config.sourceType)
  else none

def configKeys : List String :=
  ["source_type", "data_tier", "dry_run", "source_url", "connector_id", "sheet_name",
    "auto_enabled", "interval_minutes"]

/-- The fields that say how a run went. -/
def resultKeys : List String :=
  ["status", "updated_at", "last_result", "next_run_at", "last_attempt_at", "last_error",
    "configured_at"]

theorem get?_inventorySyncMetadata {k : String} (h : k ∉ resultKeys) :
    (inventorySyncMetadata config intervalMinutes dryRun status updatedAt result nextRunAt
      lastAttemptAt lastError).get? k = configFields config intervalMinutes dryRun k := by
  simp only [resultKeys, List.mem_cons, List.not_mem_nil, or_false, not_or] at h
  obtain ⟨hstatus, hupdated, hresult, hnext, hattempt, herror, -⟩ := h
  simp only [inventorySyncMetadata, setStripped, get?_setIf, Dict.get?_set, Dict.ofList,
    List.foldl_cons,
    List.foldl_nil, Dict.get?_empty, hstatus, hupdated, hresult, hnext, hattempt, herror, and_false,
    if_false, configFields]

theorem get?_savedMetadata {k : String} (h : k ∉ resultKeys) :
    (savedMetadata run companyId metadata dryRun fetched intervalMinutes).get? k =
      configFields (syncConfig run.lib.py metadata) intervalMinutes dryRun k := by
  have hconfigured : ¬ k = "configured_at" := by
    rintro rfl
    exact h (by decide)
  rw [savedMetadata, setStripped, get?_setIf, if_neg (fun hk => hconfigured hk.2)]
  exact get?_inventorySyncMetadata h

theorem savedMetadata_ne_nil :
    (savedMetadata run companyId metadata dryRun fetched intervalMinutes).entries ≠ [] := by
  intro hnil
  have hget : (savedMetadata run companyId metadata dryRun fetched intervalMinutes).get? "dry_run" =
      some (.bool dryRun) := by
    rw [get?_savedMetadata (by decide)]
    simp [configFields]
  rw [Dict.get?, hnil] at hget
  cases hget

end Config

/-- What a run leaves of the metadata when it saves a company. -/
def Overlaid (stored written merged : Record) : Prop :=
  ∀ k, merged.get? k = match written.get? k with
    | some v => some (mergeValue v (stored.value k))
    | none => stored.get? k

/-- Normalizing a text twice is normalizing it once. -/
def NormalizesOnce (py : StrMethods) : Prop :=
  ∀ s, normalText py (normalText py s) = normalText py s

theorem intervalMinutes_clamped {py : StrMethods} {metadata : Record} {n : ℤ}
    (h : inventorySyncIntervalMinutes py metadata = .ok n) : max 1 (min n 1440) = n := by
  rw [inventorySyncIntervalMinutes] at h
  split at h
  · next value _ =>
      rw [← Except.ok.inj h]
      omega
  · cases h
  · rw [← Except.ok.inj h]
    rfl

theorem fieldText_str (py : StrMethods) {s default : String} (h : s ≠ "") :
    fieldText py default (.str s) = s := by
  rw [fieldText, PyValue.orElse, PyValue.truthy_str, if_pos (decide_eq_true h)]
  rfl

section Overlay

variable {py : StrMethods} {stored written merged : Record}

theorem Overlaid.value_of_scalar (h : Overlaid stored written merged) {k : String} {v : PyValue}
    (hv : written.get? k = some v) (hscalar : v.dict? = none) : merged.value k = v := by
  rw [Record.value, h k, hv]
  exact mergeValue_of_not_dict hscalar _

theorem Overlaid.value_of_none (h : Overlaid stored written merged) {k : String}
    (hv : written.get? k = none) : merged.value k = stored.value k := by
  rw [Record.value, h k, hv]
  rfl

/-- **The configuration that is read afterwards** is the one before, with the flag of the run. -/
theorem syncConfig_overlaid (hpy : NormalizesOnce py) {intervalMinutes : ℤ} {dryRun : Bool}
    (h : Overlaid stored written merged)
    (hwritten : ∀ k, k ∉ resultKeys →
      written.get? k = configFields (syncConfig py stored) intervalMinutes dryRun k)
    (hsource : (syncConfig py stored).sourceType ∈ supportedSources)
    (hinterval : (syncConfig py stored).intervalMinutes = .ok intervalMinutes) :
    syncConfig py merged = { syncConfig py stored with dryRun := dryRun } := by
  have hvalue : ∀ {k : String} {v : PyValue}, k ∉ resultKeys →
      configFields (syncConfig py stored) intervalMinutes dryRun k = some v → v.dict? = none →
      merged.value k = v :=
    fun hk hv hscalar => h.value_of_scalar ((hwritten _ hk).trans hv) hscalar
  have hkept : ∀ {k : String}, k ∉ resultKeys →
      configFields (syncConfig py stored) intervalMinutes dryRun k = none →
      merged.value k = stored.value k :=
    fun hk hv => h.value_of_none ((hwritten _ hk).trans hv)
  have hsourceType : (syncConfig py merged).sourceType = (syncConfig py stored).sourceType := by
    have hne : (syncConfig py stored).sourceType ≠ "" := by
      intro hempty
      rw [hempty] at hsource
      exact absurd hsource (by decide)
    show normalText py (fieldText py "" (merged.value "source_type")) = _
    rw [hvalue (v := .str (syncConfig py stored).sourceType) (by decide)
      (by simp [configFields]) rfl, fieldText_str py hne]
    exact hpy _
  have hdataTier : (syncConfig py merged).dataTier = (syncConfig py stored).dataTier := by
    have htier : (syncConfig py stored).dataTier ≠ "" ∧
        normalText py (syncConfig py stored).dataTier = (syncConfig py stored).dataTier := by
      dsimp only [syncConfig]
      split_ifs with hempty
      · exact ⟨by decide, (py.lower_ascii _ (by decide)).trans (by decide)⟩
      · exact ⟨hempty, hpy _⟩
    show (if normalText py (fieldText py "admin" (merged.value "data_tier")) = "" then "admin"
      else normalText py (fieldText py "admin" (merged.value "data_tier"))) = _
    rw [hvalue (v := .str (syncConfig py stored).dataTier) (by decide) (by simp [configFields]) rfl,
      fieldText_str py htier.1, htier.2, if_neg htier.1]
  have hdryRun : (syncConfig py merged).dryRun = dryRun := by
    show (merged.value "dry_run").truthy = _
    rw [hvalue (v := .bool dryRun) (by decide) (by simp [configFields]) rfl]
    rfl
  have hsourceUrl : (syncConfig py merged).sourceUrl = (syncConfig py stored).sourceUrl := by
    show PyStr.strip (fieldText py "" (merged.value "source_url")) = _
    by_cases hempty : (syncConfig py stored).sourceUrl = ""
    · rw [hkept (by decide) (by simp [configFields, hempty])]
      rfl
    · rw [hvalue (v := .str (syncConfig py stored).sourceUrl) (by decide)
        (by simp [configFields, hempty]) rfl, fieldText_str py hempty]
      exact PyStr.strip_strip _
  have hsheetName : (syncConfig py merged).sheetName = (syncConfig py stored).sheetName := by
    show PyStr.strip (fieldText py "" (merged.value "sheet_name")) = _
    by_cases hempty : (syncConfig py stored).sheetName = ""
    · rw [hkept (by decide) (by simp [configFields, hempty])]
      rfl
    · rw [hvalue (v := .str (syncConfig py stored).sheetName) (by decide)
        (by simp [configFields, hempty]) rfl, fieldText_str py hempty]
      exact PyStr.strip_strip _
  have hconnectorId : (syncConfig py merged).connectorId = (syncConfig py stored).connectorId := by
    show normalText py (fieldText py "" (merged.value "connector_id")) = _
    by_cases hempty : (syncConfig py stored).connectorId = ""
    · rw [hkept (by decide) (by simp [configFields, hempty])]
      rfl
    · rw [hvalue (v := .str (syncConfig py stored).connectorId) (by decide)
        (by simp [configFields, hempty]) rfl, fieldText_str py hempty]
      exact hpy _
  have hautoEnabled : (syncConfig py merged).autoEnabled = (syncConfig py stored).autoEnabled := by
    show (merged.value "auto_enabled").truthy = _
    rw [hvalue (v := .bool (syncConfig py stored).autoEnabled) (by decide)
      (by simp [configFields]) rfl]
    rfl
  have hminutes : (syncConfig py merged).intervalMinutes = (syncConfig py stored).intervalMinutes :=
    by
    have hclamped := intervalMinutes_clamped hinterval
    have hget : merged.get? "interval_minutes" = some (.int (max 1 (min intervalMinutes 1440))) :=
      by
      rw [h, hwritten _ (by decide)]
      simp [configFields, mergeValue]
    show inventorySyncIntervalMinutes py merged = _
    rw [hinterval, inventorySyncIntervalMinutes, hget, Option.getD_some, PyValue.toInt_int]
    dsimp only
    rw [hclamped, hclamped]
  exact SyncConfig.ext hsourceType hdataTier hdryRun hsourceUrl hconnectorId hsheetName hautoEnabled
    hminutes

end Overlay

/-! ## What a run leaves -/

/-- The company is synced: its source is supported and it is due. -/
def triggered (run : SyncRun) (doc : Record) : Bool :=
  decide ((syncConfig run.lib.py (mapOf doc "inventory_sync")).sourceType ∈ supportedSources) &&
    match inventorySyncDue run (mapOf doc "inventory_sync") with
    | .ok due => due
    | .error _ => false

/-- The company stops the run: its next time is no date in UTC, or it is synced and its interval is
    an infinity. -/
def stopsRun (run : SyncRun) (doc : Record) : Bool :=
  decide ((syncConfig run.lib.py (mapOf doc "inventory_sync")).sourceType ∈ supportedSources) &&
    match inventorySyncDue run (mapOf doc "inventory_sync") with
    | .ok due => due && !(syncConfig run.lib.py (mapOf doc "inventory_sync")).intervalMinutes.isOk
    | .error _ => true

/-- The companies that are saved: those that are synced, up to the first that stops the run. -/
def savedCompanies (run : SyncRun) (env : AdminEnv) (companies : List (String × Record)) :
    List (String × Record) :=
  if env.writes then
    (companies.takeWhile (fun company => !stopsRun run company.2)).filter (fun company =>
      triggered run company.2)
  else []

/-- A synced company with what the run saves for it. -/
structure SavedAs (run : SyncRun) (company : String × Record) (written : Record) : Prop where
  source : (syncConfig run.lib.py (mapOf company.2 "inventory_sync")).sourceType ∈ supportedSources
  fields : ∃ n, (syncConfig run.lib.py (mapOf company.2 "inventory_sync")).intervalMinutes = .ok n ∧
    ∀ k, k ∉ resultKeys →
    written.get? k = configFields (syncConfig run.lib.py (mapOf company.2 "inventory_sync")) n
      (run.dryRunOverride.getD (syncConfig run.lib.py (mapOf company.2 "inventory_sync")).dryRun) k
  ne_nil : written.entries ≠ []

section Run

variable {run : SyncRun} {env : AdminEnv}

/-- **One company** stops the run, is skipped or is saved. -/
theorem runCompany_cases (run : SyncRun) (company : String × Record) :
    (stopsRun run company.2 = true ∧ ∃ e, runCompany run company = .error e) ∨
      (stopsRun run company.2 = false ∧ triggered run company.2 = false ∧
        ∃ report, runCompany run company = .ok (none, report)) ∨
      (stopsRun run company.2 = false ∧ triggered run company.2 = true ∧
        ∃ written report, runCompany run company = .ok (some (syncPayload run written), report) ∧
          SavedAs run company written) := by
  by_cases hsource : (syncConfig run.lib.py (mapOf company.2 "inventory_sync")).sourceType ∈
    supportedSources
  · rw [runCompany]
    dsimp only
    rw [if_neg (not_not.2 hsource), stopsRun, triggered, decide_eq_true hsource, Bool.true_and,
      Bool.true_and]
    cases hdue : inventorySyncDue run (mapOf company.2 "inventory_sync") with
    | error e => exact .inl ⟨rfl, _, rfl⟩
    | ok due =>
      cases due with
      | false => exact .inr (.inl ⟨rfl, rfl, _, rfl⟩)
      | true =>
        cases hinterval :
            (syncConfig run.lib.py (mapOf company.2 "inventory_sync")).intervalMinutes with
        | error e => exact .inl ⟨rfl, _, rfl⟩
        | ok n =>
          exact .inr (.inr ⟨rfl, rfl, _, _, rfl, hsource,
            ⟨n, hinterval, fun k hk => get?_savedMetadata hk⟩, savedMetadata_ne_nil⟩)
  · rw [runCompany]
    dsimp only
    rw [if_pos hsource, stopsRun, triggered, decide_eq_false hsource]
    exact .inr (.inl ⟨rfl, rfl, _, rfl⟩)

theorem savedCompanies_stop {company : String × Record} (h : stopsRun run company.2 = true)
    (companies : List (String × Record)) : savedCompanies run env (company :: companies) = [] := by
  rw [savedCompanies, List.takeWhile_cons_of_neg (by simp [h]), List.filter_nil, ite_self]

theorem savedCompanies_skip {company : String × Record} (h : stopsRun run company.2 = false)
    (htriggered : triggered run company.2 = false) (companies : List (String × Record)) :
    savedCompanies run env (company :: companies) = savedCompanies run env companies := by
  rw [savedCompanies, savedCompanies, List.takeWhile_cons_of_pos (by simp [h]),
    List.filter_cons_of_neg (by simp [htriggered])]

theorem savedCompanies_save {company : String × Record} (h : stopsRun run company.2 = false)
    (htriggered : triggered run company.2 = true) (hwrites : env.writes = true)
    (companies : List (String × Record)) : savedCompanies run env (company :: companies) =
    company :: savedCompanies run env companies := by
  rw [savedCompanies, savedCompanies, if_pos hwrites, if_pos hwrites,
    List.takeWhile_cons_of_pos (by simp [h]), List.filter_cons_of_pos (by simp [htriggered])]

variable (companies : List (String × Record))

theorem savedCompanies_sublist :
    (savedCompanies run env companies).Sublist companies := by
  rw [savedCompanies]
  split_ifs
  · exact List.filter_sublist.trans (List.takeWhile_sublist _)
  · exact List.nil_sublist _

theorem runCompanies_frame (registry : AdminRegistry)
    {key : String × String} (h : ∀ company ∈ savedCompanies run env companies,
      key ≠ (run.tenantId, company.1)) :
    (runCompanies run env registry companies).1.get? key = registry.get? key := by
  induction companies generalizing registry with
  | nil => rfl
  | cons company companies ih =>
    rw [runCompanies]
    rcases runCompany_cases run company with
      ⟨-, e, hrun⟩ | ⟨hstops, htriggered, report, hrun⟩ | ⟨hstops, htriggered, written, report,
        hrun, -⟩
    · rw [hrun]
    · rw [hrun]
      rw [savedCompanies_skip hstops htriggered] at h
      exact ih registry h
    · rw [hrun]
      by_cases hwrites : env.writes = true
      · rw [savedCompanies_save hstops htriggered hwrites] at h
        simp only [if_pos hwrites]
        rw [ih _ (fun c hc => h c (List.mem_cons_of_mem _ hc)), saveCompany,
          Dict.get?_set_of_ne _ _ (h company List.mem_cons_self)]
      · simp only [if_neg hwrites]

/-- **A company that is saved** has what was saved merged into its document. -/
theorem runCompanies_saves (registry : AdminRegistry) (hids : (companies.map Prod.fst).Nodup)
    (hstored : ∀ company ∈ companies, registry.get? (run.tenantId, company.1) = some company.2)
    {company : String × Record} (h : company ∈ savedCompanies run env companies) :
    ∃ written, SavedAs run company written ∧
      (runCompanies run env registry companies).1.get? (run.tenantId, company.1) =
        some (company.2.mergeDeep (syncPayload run written)) := by
  induction companies generalizing registry with
  | nil => exact absurd ((savedCompanies_sublist []).mem h) List.not_mem_nil
  | cons first companies ih =>
    rw [List.map_cons, List.nodup_cons] at hids
    rw [List.forall_mem_cons] at hstored
    rw [runCompanies]
    rcases runCompany_cases run first with
      ⟨hstops, -⟩ | ⟨hstops, htriggered, report, hrun⟩ | ⟨hstops, htriggered, written, report, hrun,
        hwritten⟩
    · rw [savedCompanies_stop hstops] at h
      cases h
    · rw [savedCompanies_skip hstops htriggered] at h
      rw [hrun]
      exact ih registry hids.2 hstored.2 h
    · rw [hrun]
      by_cases hwrites : env.writes = true
      · rw [savedCompanies_save hstops htriggered hwrites] at h
        simp only [if_pos hwrites]
        have hother : ∀ c ∈ companies, (run.tenantId, c.1) ≠ (run.tenantId, first.1) := by
          intro c hc heq
          exact hids.1 (List.mem_map.2 ⟨c, hc, (Prod.mk.inj heq).2⟩)
        rcases List.mem_cons.1 h with rfl | hrest
        · refine ⟨written, hwritten, ?_⟩
          have hsaved : ∀ c ∈ savedCompanies run env companies, (run.tenantId, company.1) ≠
              (run.tenantId, c.1) :=
            fun c hc => (hother c ((savedCompanies_sublist companies).mem hc)).symm
          rw [runCompanies_frame companies _ hsaved,
            saveCompany, Dict.get?_set_self, hstored.1, Option.getD_some]
        · refine ih _ hids.2 (fun c hc => ?_) hrest
          rw [saveCompany, Dict.get?_set_of_ne _ _ (hother c hc)]
          exact hstored.2 c hc
      · rw [savedCompanies, if_neg hwrites] at h
        cases h

/-- Documents of companies have ids that are their own normal form. -/
def NormalIds (py : StrMethods) (registry : AdminRegistry) : Prop :=
  ∀ key ∈ registry.keys, normalText py key.2 = key.2

theorem companiesOfRun_stored {registry : AdminRegistry} (hids : NormalIds run.lib.py registry)
    {companies : List (String × Record)} (h : companiesOfRun run env registry = .ok companies) :
    (companies.map Prod.fst).Nodup ∧
      ∀ company ∈ companies, registry.get? (run.tenantId, company.1) = some company.2 := by
  rw [companiesOfRun] at h
  split_ifs at h
  · rw [← Except.ok.inj h, listTenantCompanyDocs]
    have hentries : ∀ e ∈ (registry.entries.filter (fun e => e.1.1 = run.tenantId)).take
        (max 1 (min run.maxCompanies 500)).toNat, e ∈ registry.entries ∧ e.1.1 = run.tenantId := by
      intro e he
      obtain ⟨hmem, htenant⟩ := List.mem_filter.1 (List.mem_of_mem_take he)
      exact ⟨hmem, of_decide_eq_true htenant⟩
    have hnormal : ∀ e ∈ registry.entries, normalText run.lib.py e.1.2 = e.1.2 :=
      fun e he => hids e.1 (List.mem_map.2 ⟨e, he, rfl⟩)
    constructor
    · refine List.Nodup.sublist ((List.filter_sublist).map Prod.fst) ?_
      rw [List.map_map]
      refine List.Nodup.map_on ?_ ?_
      · intro e he f hf heq
        obtain ⟨hmem, htenant⟩ := hentries e he
        obtain ⟨hmem', htenant'⟩ := hentries f hf
        have hid : e.1.2 = f.1.2 := by
          rw [← hnormal e hmem, ← hnormal f hmem']
          exact heq
        exact List.inj_on_of_nodup_map registry.nodup hmem hmem'
          (Prod.ext (htenant.trans htenant'.symm) hid)
      · exact ((List.Nodup.of_map _ registry.nodup).filter _).sublist (List.take_sublist _ _)
    · intro company hcompany
      obtain ⟨e, he, rfl⟩ := List.mem_map.1 (List.mem_of_mem_filter hcompany)
      obtain ⟨hmem, htenant⟩ := hentries e he
      rw [Dict.get?_eq_some_iff, hnormal e hmem, ← htenant]
      exact hmem
  · split at h
    · cases h
    · next doc hload =>
        rw [← Except.ok.inj h]
        refine ⟨by simp, fun company hcompany => ?_⟩
        rw [List.mem_singleton.1 hcompany]
        rw [loadRegistryCompanyDoc] at hload
        split at hload
        · cases hload
        · next stored hstored =>
            split_ifs at hload with hreads
            · rw [← Except.ok.inj hload]
              split_ifs at hstored
              exact hstored

end Run

/-! ## The override -/

/-- The configuration a run without override reads of a document. -/
def configAt (py : StrMethods) (registry : AdminRegistry) (key : String × String) : SyncConfig :=
  syncConfig py (mapOf ((registry.get? key).getD .empty) "inventory_sync")

/-- **Only results change**: every configuration is the one before, and besides the fields that say
    how a run went nothing else is written. -/
structure OnlyResultsChange (py : StrMethods) (before after : AdminRegistry) : Prop where
  config : ∀ key, configAt py after key = configAt py before key
  metadata : ∀ key k, k ∉ configKeys → k ∉ resultKeys →
    (mapOf ((after.get? key).getD .empty) "inventory_sync").get? k =
      (mapOf ((before.get? key).getD .empty) "inventory_sync").get? k
  fields : ∀ key field, field ∉ ["inventory_sync", "updated_at"] →
    ((after.get? key).getD .empty).get? field = ((before.get? key).getD .empty).get? field

/-- The companies that a run saves. -/
def savedByRun (run : SyncRun) (env : AdminEnv) (registry : AdminRegistry) :
    List (String × Record) :=
  match companiesOfRun run env registry with
  | .error _ => []
  | .ok companies => savedCompanies run env companies

section Override

variable {run : SyncRun} {env : AdminEnv} {registry : AdminRegistry} {company : String × Record}
    {written : Record}

theorem configFields_eq_none {config : SyncConfig} {n : ℤ} {dryRun : Bool} {k : String}
    (h : k ∉ configKeys) : configFields config n dryRun k = none := by
  simp only [configKeys, List.mem_cons, List.not_mem_nil, or_false, not_or] at h
  simp [configFields, h]

theorem SavedAs.overlaid (h : SavedAs run company written) :
    Overlaid (mapOf company.2 "inventory_sync") written
    (mapOf (company.2.mergeDeep (syncPayload run written)) "inventory_sync") := by
  intro k
  exact get?_mapOf_mergeDeep (by simp [syncPayload, Dict.ofList, Dict.get?_set]) h.ne_nil k

theorem SavedAs.syncConfig_eq (h : SavedAs run company written) (hpy : NormalizesOnce run.lib.py) :
    syncConfig run.lib.py (mapOf (company.2.mergeDeep (syncPayload run written)) "inventory_sync") =
      { syncConfig run.lib.py (mapOf company.2 "inventory_sync") with
        dryRun := run.dryRunOverride.getD
            (syncConfig run.lib.py (mapOf company.2 "inventory_sync")).dryRun } := by
  obtain ⟨n, hinterval, hfields⟩ := h.fields
  exact syncConfig_overlaid hpy h.overlaid hfields h.source hinterval

/-- **The document of a company** is kept, or the run saves the company. -/
theorem runInventorySyncJobs_get? (env : AdminEnv) (hids : NormalIds run.lib.py registry)
    (key : String × String) : (runInventorySyncJobs run env registry).1.get? key =
    registry.get? key ∨
      ∃ company ∈ savedByRun run env registry, ∃ written, SavedAs run company written ∧
        registry.get? key = some company.2 ∧
        (runInventorySyncJobs run env registry).1.get? key =
        some (company.2.mergeDeep (syncPayload run written)) := by
  rw [runInventorySyncJobs, savedByRun]
  cases hcompanies : companiesOfRun run env registry with
  | error e => exact .inl rfl
  | ok companies =>
    obtain ⟨hnodup, hstored⟩ := companiesOfRun_stored hids hcompanies
    by_cases hkey : ∃ company ∈ savedCompanies run env companies, key = (run.tenantId, company.1)
    · obtain ⟨company, hcompany, rfl⟩ := hkey
      obtain ⟨written, hwritten, hget⟩ :=
        runCompanies_saves companies registry hnodup hstored hcompany
      have hmem := (savedCompanies_sublist companies).mem hcompany
      exact .inr ⟨company, hcompany, written, hwritten, hstored _ hmem, hget⟩
    · exact .inl (runCompanies_frame companies registry (fun company hcompany heq =>
        hkey ⟨company, hcompany, heq⟩))

/-- **Only results change** exactly if the override, where there is one, is the stored flag of every
    company that is saved. -/
theorem onlyResultsChange_iff (run : SyncRun) (env : AdminEnv) (registry : AdminRegistry)
    (hpy : NormalizesOnce run.lib.py) (hids : NormalIds run.lib.py registry) :
    OnlyResultsChange run.lib.py registry (runInventorySyncJobs run env registry).1 ↔
      ∀ override, run.dryRunOverride = some override → ∀ company ∈ savedByRun run env registry,
        (syncConfig run.lib.py (mapOf company.2 "inventory_sync")).dryRun = override := by
  constructor
  · intro h override hoverride company hcompany
    have hconfig := h.config (run.tenantId, company.1)
    rw [savedByRun] at hcompany
    rw [configAt, configAt, runInventorySyncJobs] at hconfig
    cases hcompanies : companiesOfRun run env registry with
    | error e =>
      rw [hcompanies] at hcompany
      cases hcompany
    | ok companies =>
      rw [hcompanies] at hcompany hconfig
      obtain ⟨hnodup, hstored⟩ := companiesOfRun_stored hids hcompanies
      obtain ⟨written, hwritten, hget⟩ :=
        runCompanies_saves companies registry hnodup hstored hcompany
      dsimp only at hconfig
      rw [hget, hstored _ ((savedCompanies_sublist companies).mem hcompany), Option.getD_some,
        Option.getD_some, hwritten.syncConfig_eq hpy, hoverride] at hconfig
      exact (congrArg SyncConfig.dryRun hconfig).symm
  · intro h
    refine ⟨fun key => ?_, fun key k hconfig hresult => ?_, fun key field hfield => ?_⟩
    · rcases runInventorySyncJobs_get? env hids key with
        hkeep | ⟨company, hcompany, written, hwritten, hbefore, hafter⟩
      · rw [configAt, configAt, hkeep]
      · rw [configAt, configAt, hbefore, hafter, Option.getD_some, Option.getD_some,
        hwritten.syncConfig_eq hpy]
        cases hoverride : run.dryRunOverride with
        | none => rfl
        | some override =>
          rw [Option.getD_some, ← h override hoverride company hcompany]
    · rcases runInventorySyncJobs_get? env hids key with
        hkeep | ⟨company, hcompany, written, hwritten, hbefore, hafter⟩
      · rw [hkeep]
      · obtain ⟨n, -, hfields⟩ := hwritten.fields
        rw [hbefore, hafter, Option.getD_some, Option.getD_some, hwritten.overlaid k,
          hfields k hresult, configFields_eq_none hconfig]
    · rcases runInventorySyncJobs_get? env hids key with
        hkeep | ⟨company, hcompany, written, hwritten, hbefore, hafter⟩
      · rw [hkeep]
      · have hpayload : (syncPayload run written).get? field = none := by
          simp only [List.mem_cons, List.not_mem_nil, or_false, not_or] at hfield
          simp [syncPayload, Dict.ofList, Dict.get?_set, hfield]
        rw [hbefore, hafter, Option.getD_some, Option.getD_some, Record.get?_mergeDeep, hpayload]

end Override

/-! ### A dry run of a company that writes -/

/-- A run of a company with a sheet that cannot be read. -/
def sheetRun (dryRunOverride : Option Bool) : SyncRun where
  lib := ⟨.ascii, fun _ => none⟩
  tenantId := "acme"
  companyId := none
  maxCompanies := 50
  force := true
  dryRunOverride := dryRunOverride
  now := 0
  isoformat _ := "0001-01-01T00:00:00+00:00"
  updatedAt _ := "0001-01-01T00:00:00+00:00"
  googleSheet _ _ _ _ _ := .error "timeout"
  connector _ _ _ _ _ := .error "Connector not found"

def sheetEnv : AdminEnv := ⟨"0001-01-01T00:00:00+00:00", true, true⟩

/-- A company that is synced with a sheet, for real. -/
def sheetCompany : AdminRegistry :=
  Dict.empty.set ("acme", "shop")
    (Dict.ofList [("inventory_sync", .dict [("source_type", .str "google_sheets"),
    ("source_url", .str "https://sheets.example/1"), ("dry_run", .bool false)])])

theorem normalizesOnce_ascii : NormalizesOnce .ascii := by
  intro s
  have hlower : ∀ t : String, StrMethods.ascii.lower (StrMethods.ascii.lower t) =
      StrMethods.ascii.lower t := by
    intro t
    have hchar : Char.toLower ∘ Char.toLower = Char.toLower := by
      funext c
      show c.toLower.toLower = c.toLower
      by_cases hascii : c.toNat < 128
      · exact PyStr.forall_ascii (P := fun c => c.toLower.toLower = c.toLower)
          (by decide +kernel) hascii
      · rw [toLower_eq_self hascii, toLower_eq_self hascii]
    show String.ofList ((String.ofList (t.toList.map Char.toLower)).toList.map Char.toLower) = _
    rw [String.toList_ofList, List.map_map, hchar]
    rfl
  rw [normalText, normalText, StrMethods.strip_lower_ascii, PyStr.strip_strip, hlower]

theorem normalIds_sheetCompany : NormalIds .ascii sheetCompany := by
  rw [NormalIds]
  decide +kernel

theorem onlyResultsChange_iff_sheet :
    (NormalizesOnce .ascii ∧ NormalIds .ascii sheetCompany) ∧
      OnlyResultsChange .ascii sheetCompany
      (runInventorySyncJobs (sheetRun none) sheetEnv sheetCompany).1 :=
  ⟨⟨normalizesOnce_ascii, normalIds_sheetCompany⟩,
    (onlyResultsChange_iff (sheetRun none) sheetEnv sheetCompany normalizesOnce_ascii
      normalIds_sheetCompany).2 (fun _ h => by cases h)⟩

/-- After a run with the override `True` the company is synced dry. -/
theorem runInventorySyncJobs_leaks :
    ¬ OnlyResultsChange .ascii sheetCompany (runInventorySyncJobs (sheetRun (some true)) sheetEnv
      sheetCompany).1 := by
  intro h
  have hflag :
    (configAt .ascii (runInventorySyncJobs (sheetRun (some true)) sheetEnv sheetCompany).1
      ("acme", "shop")).dryRun ≠ (configAt .ascii sheetCompany ("acme", "shop")).dryRun := by
    decide +kernel
  exact hflag (congrArg SyncConfig.dryRun (h.config ("acme", "shop")))

end Ekaette
