import Ekaette.Admin.ConnectorPolicy
import Ekaette.Admin.InventoryRows

set_option autoImplicit false

/-! # Importing a knowledge text

The import of one text of `admin/routes/knowledge.py` with `admin/service_knowledge.py`. The entry
is built, with the clock in it, before its preflight; like the routes of `Admin.Connectors` the
route answers, or it hands over what the preflight fingerprints and what follows. -/

namespace Ekaette

/-! ## Documents -/

/-- The companies, and the knowledge of a company by tenant, company id and knowledge id. -/
structure AdminDocs where
  registry : AdminRegistry
  knowledge : Dict (String × String × String) Record

/-- What a mutation leaves to the preflight. -/
structure PreparedMutation where
  fingerprinted : PyValue
  outcome : AdminDocs × Except AdminResponse AdminResponse

/-- `AdminKnowledgeImportTextPayload`. -/
structure KnowledgeTextPayload where
  knowledgeId : Option String
  title : Option String
  text : String
  tags : List String
  source : String
  url : Option String

/-- `_normalize_tags`. -/
def normalizeTags (py : StrMethods) (tags : List String) (defaultTag : String) : List String :=
  let tags := ((tags.map PyStr.strip).filter (· ≠ "")).map py.lower
  if tags = [] then [defaultTag] else tags

/-- `a or b` of strings. -/
def stringOr (a b : String) : String := if a = "" then b else a

/-- `(payload.title or text[:80] or "Imported Knowledge").strip()` -/
def KnowledgeTextPayload.entryTitle (payload : KnowledgeTextPayload) (text : String) : String :=
  PyStr.strip (stringOr (stringOr (payload.title.getD "") (String.ofList (text.toList.take 80)))
    "Imported Knowledge")

/-- The id of the entry: the one that is asked for, or one from a digest of the text and the
    clock. -/
def KnowledgeTextPayload.entryId (py : StrMethods) (sha256Hex : String → String)
    (payload : KnowledgeTextPayload) (title text timeText : String) : String :=
  match normalizeConnectorId py payload.knowledgeId with
  | some id => id
  | none =>
    "kb-" ++ String.ofList ((sha256Hex (title ++ "|" ++ text ++ "|" ++ timeText)).toList.take 16)

/-- The entry that is stored. -/
def KnowledgeTextPayload.entry (py : StrMethods) (sha256Hex : String → String)
    (payload : KnowledgeTextPayload) (timeText nowIso : String) : Record :=
  let text := PyStr.strip payload.text
  let title := payload.entryTitle text
  .ofList [("id", .str (payload.entryId py sha256Hex title text timeText)), ("title", .str title),
    ("text", .str text), ("tags", .list ((normalizeTags py payload.tags "general").map .str)),
    ("source", .str (stringOr (py.lower (PyStr.strip (stringOr payload.source "text"))) "text")),
    ("url", .str (PyStr.strip (payload.url.getD ""))), ("data_tier", .str "admin"),
    ("updated_at", .str nowIso)]

/-- `not isinstance(value, str) or not value.strip()` -/
def blankText (v : PyValue) : Bool := decide (v.coerceStr = "")

/-- `validate_knowledge_entry`, of a map. -/
def validateKnowledgeEntry (entry : Record) : List String :=
  (["id", "title"].filter (fun field => blankText (entry.value field))).map
      ("missing or empty required string field: " ++ ·) ++
    (if listOrEmpty (entry.value "tags") = [] then
      ["missing or empty required field: tags (must be a non-empty list)"] else [])

/-- `_write_company_knowledge_entry`: `set(entry, merge=True)`. -/
def writeKnowledgeEntry (docs : AdminDocs) (tenantId companyId knowledgeId : String)
    (entry : Record) : AdminDocs :=
  let stored := (docs.knowledge.get? (tenantId, companyId, knowledgeId)).getD .empty
  { docs with
    knowledge := docs.knowledge.set (tenantId, companyId, knowledgeId) (stored.mergeDeep entry) }

/-! ## The route -/

/-- What the import does after the preflight. -/
def importKnowledgeEntry (env : AdminEnv) (docs : AdminDocs) (tenantId companyId : String)
    (entry : Record) : AdminDocs × Except AdminResponse AdminResponse :=
  let knowledgeId := (entry.value "id").str?.getD ""
  if env.writes then
    (writeKnowledgeEntry docs tenantId companyId knowledgeId entry,
      .ok ⟨201, .dict [("apiVersion", .str "v1"), ("tenantId", .str tenantId),
        ("companyId", .str companyId),
        ("knowledgeId", .str knowledgeId), ("entry", .dict entry.entries),
        ("created", .bool true)]⟩)
  else (docs, .error (storageUnavailable []))

/-- `import_admin_company_knowledge_text_route`. -/
def importAdminCompanyKnowledgeTextRoute (py : StrMethods) (sha256Hex : String → String)
    (tenantId rawCompanyId : String) (payload : KnowledgeTextPayload) (timeText : String)
    (env : AdminEnv) (docs : AdminDocs) : Except AdminResponse PreparedMutation :=
  match normalizeCompanyIdStrict py rawCompanyId with
  | none => .error (adminError 404 "Company not found for tenant" "COMPANY_NOT_FOUND" [])
  | some companyId =>
    match loadRegistryCompanyDoc env docs.registry tenantId companyId with
    | .error response => .error response
    | .ok _ =>
      let entry := payload.entry py sha256Hex timeText env.nowIso
      let errors := validateKnowledgeEntry entry
      if errors ≠ [] then .error (adminError 400 "Invalid knowledge entry" "INVALID_KNOWLEDGE_ENTRY"
        [("details", .list (errors.map .str))])
      else .ok ⟨.dict [("companyId", .str companyId), ("entry", .dict entry.entries)],
        importKnowledgeEntry env docs tenantId companyId entry⟩

/-! ## The clock in an entry -/

section

variable (py : StrMethods) (sha256Hex : String → String) (payload : KnowledgeTextPayload)

theorem entry_get? (timeText nowIso key : String) :
    (payload.entry py sha256Hex timeText nowIso).get? key =
      ([("id", .str (payload.entryId py sha256Hex (payload.entryTitle (PyStr.strip payload.text))
          (PyStr.strip payload.text) timeText)),
        ("title", .str (payload.entryTitle (PyStr.strip payload.text))),
        ("text", .str (PyStr.strip payload.text)),
        ("tags", .list ((normalizeTags py payload.tags "general").map .str)),
        ("source", .str (stringOr (py.lower (PyStr.strip (stringOr payload.source "text")))
          "text")),
        ("url", .str (PyStr.strip (payload.url.getD ""))), ("data_tier", .str "admin"),
        ("updated_at", .str nowIso)] : List (String × PyValue)).lookup key := by
  rw [KnowledgeTextPayload.entry, Dict.get?, Dict.entries_ofList]
  simp only [List.map_cons, List.map_nil]
  decide

theorem strip_entryId (title text timeText : String) :
    PyStr.strip (payload.entryId py sha256Hex title text timeText) ≠ "" := by
  unfold KnowledgeTextPayload.entryId
  cases hid : normalizeConnectorId py payload.knowledgeId with
  | none =>
    -- an id from the digest begins with its prefix
    refine PyStr.strip_ne_empty_of_mem (c := 'k') (by decide) ?_
    rw [String.toList_append, List.mem_append]
    exact .inl (by decide)
  | some id =>
    have hmatches : connectorIdMatches id = true := (Option.filter_eq_some_iff.1 hid).2
    rw [connectorIdMatches] at hmatches
    cases hchars : id.toList with
    | nil =>
      rw [hchars] at hmatches
      cases hmatches
    | cons c cs =>
      rw [hchars] at hmatches
      simp only [Bool.and_eq_true] at hmatches
      -- a given id begins with a letter or a digit
      have hplain := idChar_plain (c := c) (by rw [hmatches.1.1.1, Bool.true_or, Bool.true_or])
      exact PyStr.strip_ne_empty_of_mem hplain.2.2 (hchars ▸ List.mem_cons_self)

/-- **Whether an entry is valid** does not depend on the clock. -/
theorem validateKnowledgeEntry_entry (timeText nowIso timeText' nowIso' : String) :
    validateKnowledgeEntry (payload.entry py sha256Hex timeText nowIso) =
      validateKnowledgeEntry (payload.entry py sha256Hex timeText' nowIso') := by
  have hvalue : ∀ timeText nowIso key, (payload.entry py sha256Hex timeText nowIso).value key =
      ((payload.entry py sha256Hex timeText nowIso).get? key).getD .none := fun _ _ _ => rfl
  have hid : ∀ timeText nowIso,
      blankText ((payload.entry py sha256Hex timeText nowIso).value "id") = false := by
    intro timeText nowIso
    rw [hvalue, entry_get?]
    exact decide_eq_false (strip_entryId py sha256Hex payload _ _ timeText)
  have htitle : ∀ timeText nowIso, (payload.entry py sha256Hex timeText nowIso).value "title" =
      .str (payload.entryTitle (PyStr.strip payload.text)) := by
    intro timeText nowIso
    rw [hvalue, entry_get?]
    rfl
  have htags : ∀ timeText nowIso, (payload.entry py sha256Hex timeText nowIso).value "tags" =
      .list ((normalizeTags py payload.tags "general").map .str) := by
    intro timeText nowIso
    rw [hvalue, entry_get?]
    rfl
  unfold validateKnowledgeEntry
  simp only [List.filter_cons, List.filter_nil, hid, htitle, htags]

end

end Ekaette
