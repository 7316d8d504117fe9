import Ekaette.Realtime.SessionInit

set_option autoImplicit false

/-! # The admin data routes

Every route checks the origin, the tenant and the scope of the caller before it does its work. The
work of the other routes is left open; the purge of demo data deletes documents of the company. -/

namespace Ekaette

/-! ## Requests -/

/-- A response that turns a request away: its status and `code`. -/
structure AdminRefusal where
  status : ℕ
  code : String
deriving DecidableEq

structure AdminAuthContext where
  userId : String
  tenantId : String
  roles : List String
  scopes : List String
deriving DecidableEq

/-- What the routes read of a request; the names of headers are in lower case. -/
structure AdminDataRequest where
  headers : Dict String String
  /-- `query_params.get("tenantId")` -/
  queryTenantId : Option String
  /-- `company_id` in the path -/
  companyId : String

inductive DataRoute where
  | importProducts
  | seedDemo
  | syncInventory
  | uploadInventory
  | inventorySyncConfig
  | runInventorySync
  | importBookingSlots
  | purgeDemo
  | exportData
  | deleteCompany
  | purgeRetention
deriving DecidableEq

/-- `required_scope`, by route -/
def DataRoute.requiredScope : DataRoute → String
  | .purgeDemo => "read"
  | _ => "write"

/-- What the outside decides for a request. -/
structure DataOutside where
  /-- `_check_rate_limit` says no. -/
  rateLimited : Bool
  /-- the error of `_load_registry_company_doc` -/
  companyError : Option AdminRefusal
  /-- the response of `_idempotency_preflight` for a key: a conflict, or a replay -/
  preflight : Option AdminRefusal
  /-- how many batches are committed before the storage fails -/
  committed : ℕ

structure DataRoutes where
  py : StrMethods
  /-- `ALLOWED_ORIGIN_SET` -/
  allowedOrigins : List String
  /-- `TOKEN_ALLOWED_TENANTS` -/
  allowedTenants : List String
  /-- `ADMIN_AUTH_MODE` -/
  authMode : String
  requireSharedSecret : Bool
  sharedSecret : String
  /-- `_verify_iap_jwt_assertion` and `_iap_context_from_claims` -/
  iapContext : AdminDataRequest → Except AdminRefusal AdminAuthContext
  /-- `ADMIN_ALLOWED_ROLE_SET` -/
  allowedRoles : List String
  /-- `ADMIN_RATE_LIMIT` -/
  rateLimit : ℤ
  /-- `_registry_db_client()` is not `None` -/
  hasClient : Bool
  /-- what the other routes do once the caller is let through -/
  work : DataRoute → AdminDataRequest → String → DataOutside → Firestore → Firestore

/-- `ADMIN_READ_SCOPE_SET` -/
def ADMIN_READ_SCOPE_SET : List String := ["admin:read", "admin:write", "admin:*"]

/-- `ADMIN_WRITE_SCOPE_SET` -/
def ADMIN_WRITE_SCOPE_SET : List String := ["admin:write", "admin:*"]

variable (cfg : DataRoutes)

/-! ## Who is let through -/

/-- `_parse_csv_set` -/
def parseCsvSet (raw : String) : List String :=
  ((PyStr.split ',' raw).filter fun item => PyStr.strip item ≠ "").map fun item =>
    cfg.py.lower (PyStr.strip item)

variable (req : AdminDataRequest)

/-- `(request.headers.get(name) or "").strip()` -/
def AdminDataRequest.header (name : String) : String :=
  PyStr.strip ((req.headers.get? name).getD "")

/-- `_legacy_admin_context_from_headers` -/
def legacyAdminContext : Except AdminRefusal AdminAuthContext :=
  let provided := req.header "x-admin-key"
  if cfg.requireSharedSecret ∧ cfg.sharedSecret = "" then .error ⟨503, "ADMIN_AUTH_NOT_CONFIGURED"⟩
  else if cfg.requireSharedSecret ∧ (provided = "" ∨ provided ≠ cfg.sharedSecret) then
    .error ⟨401, "ADMIN_SHARED_SECRET_INVALID"⟩
  else
    let userId := req.header "x-user-id"
    let tenantId := normalizeId cfg.py "" (req.headers.get? "x-tenant-id")
    if userId = "" ∨ tenantId = "" then .error ⟨401, "UNAUTHORIZED"⟩
    else
      .ok ⟨userId, tenantId, parseCsvSet cfg ((req.headers.get? "x-roles").getD ""),
        parseCsvSet cfg ((req.headers.get? "x-scopes").getD "")⟩

/-- `_extract_admin_auth_context` -/
def extractAdminAuthContext : Except AdminRefusal AdminAuthContext :=
  let mode := if cfg.authMode ∈ ["headers", "iap", "hybrid"] then cfg.authMode else "headers"
  let asserted := (req.headers.get? "x-goog-iap-jwt-assertion").getD "" ≠ ""
  if mode ∈ ["iap", "hybrid"] ∧ (mode = "iap" ∨ asserted) then cfg.iapContext req
  else legacyAdminContext cfg req

/-- The two sets intersect. -/
def intersects (xs ys : List String) : Bool := xs.any fun x => decide (x ∈ ys)

/-- `_has_admin_scope` -/
def hasAdminScope (context : AdminAuthContext) (requiredScope : String) : Bool :=
  if intersects context.roles cfg.allowedRoles then true
  else if requiredScope = "write" then intersects context.scopes ADMIN_WRITE_SCOPE_SET
  else intersects context.scopes ADMIN_READ_SCOPE_SET

/-- `_admin_context_or_reject` -/
def adminContextOrReject (tenantId requiredScope : String)
    (rateLimited : Bool) : Except AdminRefusal AdminAuthContext :=
  match extractAdminAuthContext cfg req with
  | .error refusal => .error refusal
  | .ok context =>
    if context.tenantId ≠ tenantId then .error ⟨403, "TENANT_FORBIDDEN"⟩
    else
      let requiredScope := if requiredScope ∈ ["read", "write"] then requiredScope else "read"
      if !hasAdminScope cfg context requiredScope then .error ⟨403, "ADMIN_SCOPE_REQUIRED"⟩
      else if 0 < cfg.rateLimit ∧ rateLimited then .error ⟨429, "ADMIN_RATE_LIMIT_EXCEEDED"⟩
      else .ok context

/-- What every route checks first: the tenant of the request, if it is let through. -/
def dataTenant (route : DataRoute) (req : AdminDataRequest) (out : DataOutside) :
    Except AdminRefusal String :=
  if (req.headers.get? "origin").any fun origin => decide (origin ∉ cfg.allowedOrigins) then .error
    ⟨403, ""⟩
  else
    let tenantId := normalizeId cfg.py
      (normalizeId cfg.py "public" (req.headers.get? "x-tenant-id")) req.queryTenantId
    if cfg.allowedTenants ≠ [] ∧ tenantId ∉ cfg.allowedTenants then .error ⟨403, "TENANT_FORBIDDEN"⟩
    else
      match adminContextOrReject cfg req tenantId route.requiredScope out.rateLimited with
      | .error refusal => .error refusal
      | .ok _ => .ok tenantId

/-! ## The purge of demo data -/

/-- A runtime collection of a company. -/
def runtimeCollection (tenantId companyId subcollection : String) : DocPath :=
  ["tenants", tenantId, "companies", companyId, subcollection]

/-- `data_tier == "demo"` -/
def isDemo (doc : Record) : Bool :=
  match doc.get? "data_tier" with
  | some (.str tier) => decide (tier = "demo")
  | _ => false

variable (db : Firestore)

/-- The documents that the query finds. -/
def demoRefs (collection : DocPath) : List DocPath :=
  (db.entries.filter fun e => decide (e.1.dropLast = collection) && isDemo e.2).map Prod.fst

/-- Chunks of 500. -/
def batches (refs : List DocPath) : List (List DocPath) :=
  match refs with
  | [] => []
  | ref :: refs => (ref :: refs).take 500 :: batches ((ref :: refs).drop 500)
termination_by refs.length
decreasing_by
  rw [List.length_drop, List.length_cons]
  omega

/-- The batches of `_purge_company_demo_runtime_data`, over the collections. -/
def demoBatches (tenantId companyId : String) : List (List DocPath) :=
  ["products", "booking_slots", "knowledge"].flatMap fun subcollection =>
    batches (demoRefs db (runtimeCollection tenantId companyId subcollection))

/-- `_purge_company_demo_runtime_data`, up to where the storage fails. -/
def purgeCompanyDemoRuntimeData (tenantId companyId : String) (committed : ℕ) :
    Firestore :=
  db.eraseAll ((demoBatches db tenantId companyId).take committed).flatten

/-- The tenant and the company of a purge that is let through. -/
def purgeTarget (out : DataOutside) :
    Except AdminRefusal (String × String) :=
  match dataTenant cfg .purgeDemo req out with
  | .error refusal => .error refusal
  | .ok tenantId =>
    let companyId := normalizeId cfg.py "" (some req.companyId)
    if companyId = "" then .error ⟨404, "COMPANY_NOT_FOUND"⟩
    else
      match out.companyError with
      | some refusal => .error refusal
      | none =>
        if req.header "idempotency-key" = "" then .error ⟨400, "IDEMPOTENCY_KEY_REQUIRED"⟩
        else
          match out.preflight with
          | some refusal => .error refusal
          | none =>
            if cfg.hasClient then .ok (tenantId, companyId)
            else .error ⟨503, "REGISTRY_STORAGE_UNAVAILABLE"⟩

/-- The documents after a request. -/
def dataRoute (route : DataRoute) (req : AdminDataRequest) (out : DataOutside) (db : Firestore) :
    Firestore :=
  match route with
  | .purgeDemo =>
    match purgeTarget cfg req out with
    | .error _ => db
    | .ok (tenantId, companyId) => purgeCompanyDemoRuntimeData db tenantId companyId out.committed
  | route =>
    match dataTenant cfg route req out with
    | .error _ => db
    | .ok tenantId => cfg.work route req tenantId out db

/-! ## What a purge deletes -/

theorem mem_batches {refs batch : List DocPath} (h : batch ∈ batches refs) :
    batch ≠ [] ∧ ∀ ref ∈ batch, ref ∈ refs := by
  induction refs using batches.induct with
  | case1 =>
    rw [batches] at h
    cases h
  | case2 ref refs ih =>
    rw [batches, List.mem_cons] at h
    rcases h with rfl | h
    · refine ⟨fun hnil => ?_, fun ref' href' => List.mem_of_mem_take href'⟩
      simp at hnil
    · obtain ⟨hne, hmem⟩ := ih h
      exact ⟨hne, fun ref' href' => List.mem_of_mem_drop (hmem ref' href')⟩

/-- What is deleted was stored. -/
theorem get?_of_mem_demoBatches {db : Firestore} {tenantId companyId : String}
    {batch : List DocPath} (h : batch ∈ demoBatches db tenantId companyId) {ref : DocPath}
    (href : ref ∈ batch) : db.get? ref ≠ none := by
  rw [demoBatches, List.mem_flatMap] at h
  obtain ⟨subcollection, -, hbatch⟩ := h
  have hmem := (mem_batches hbatch).2 ref href
  rw [demoRefs, List.mem_map] at hmem
  obtain ⟨e, he, rfl⟩ := hmem
  have hentry : e ∈ db.entries := (List.mem_filter.1 he).1
  rw [(Dict.get?_eq_some_iff db e.1 e.2).2 hentry]
  exact Option.some_ne_none _

theorem purgeCompanyDemoRuntimeData_eq_self_iff (tenantId companyId : String)
    (committed : ℕ) : purgeCompanyDemoRuntimeData db tenantId companyId committed = db ↔
      (demoBatches db tenantId companyId).take committed = [] := by
  constructor
  · intro hsame
    by_contra hne
    obtain ⟨batch, hbatch⟩ := List.exists_mem_of_ne_nil _ hne
    have hdemo := List.mem_of_mem_take hbatch
    have hnonempty : batch ≠ [] := by
      rw [demoBatches, List.mem_flatMap] at hdemo
      obtain ⟨subcollection, -, hmem⟩ := hdemo
      exact (mem_batches hmem).1
    obtain ⟨ref, href⟩ := List.exists_mem_of_ne_nil _ hnonempty
    have hgone : (purgeCompanyDemoRuntimeData db tenantId companyId committed).get? ref = none := by
      rw [purgeCompanyDemoRuntimeData, Dict.get?_eraseAll,
        if_pos (List.mem_flatten.2 ⟨batch, hbatch, href⟩)]
    rw [hsame] at hgone
    exact get?_of_mem_demoBatches hdemo href hgone
  · intro hnone
    rw [purgeCompanyDemoRuntimeData, hnone]
    rfl

/-! ## Read-only callers -/

/-- The caller has no allowed role and no write scope. -/
def ReadOnly (context : AdminAuthContext) : Prop :=
  intersects context.roles cfg.allowedRoles = false ∧
    intersects context.scopes ADMIN_WRITE_SCOPE_SET = false

instance : DecidablePred (ReadOnly cfg) := fun _ => inferInstanceAs (Decidable (_ ∧ _))

theorem hasAdminScope_write {context : AdminAuthContext} (h : ReadOnly cfg context) :
    hasAdminScope cfg context "write" = false := by
  rw [hasAdminScope, h.1, if_neg Bool.false_ne_true, if_pos rfl]
  exact h.2

/-- **A route that asks for the write scope** turns a read-only caller away. -/
theorem dataTenant_readOnly {route : DataRoute} (hroute : route.requiredScope = "write")
    {req : AdminDataRequest} {context : AdminAuthContext}
    (hcontext : extractAdminAuthContext cfg req = .ok context)
    (hreadOnly : ReadOnly cfg context) (out : DataOutside) : ∃ refusal,
    dataTenant cfg route req out = .error refusal := by
  have hrefused : ∀ tenantId, ∃ refusal,
      adminContextOrReject cfg req tenantId route.requiredScope out.rateLimited =
      .error refusal := by
    intro tenantId
    rw [adminContextOrReject, hcontext, hroute]
    dsimp only
    by_cases htenant : context.tenantId ≠ tenantId
    · exact ⟨_, if_pos htenant⟩
    · refine ⟨⟨403, "ADMIN_SCOPE_REQUIRED"⟩, ?_⟩
      rw [if_neg htenant, if_pos (show "write" ∈ ["read", "write"] by decide),
        hasAdminScope_write cfg hreadOnly]
      rfl
  unfold dataTenant
  split
  · exact ⟨_, rfl⟩
  dsimp only
  split
  · exact ⟨_, rfl⟩
  · obtain ⟨refusal, hrefusal⟩ := hrefused
      (normalizeId cfg.py (normalizeId cfg.py "public" (req.headers.get? "x-tenant-id"))
        req.queryTenantId)
    rw [hrefusal]
    exact ⟨refusal, rfl⟩

/-- **Read-only callers.** A request of a caller without an allowed role and without a write scope
    leaves all documents as they are, exactly if it is none to purge demo data that is let through
    and commits a batch. -/
theorem readOnly_unchanged_iff (route : DataRoute) (req : AdminDataRequest) (out : DataOutside)
    (db : Firestore) (context : AdminAuthContext)
    (hcontext : extractAdminAuthContext cfg req = .ok context) (hreadOnly : ReadOnly cfg context) :
    dataRoute cfg route req out db = db ↔
      (route = .purgeDemo → ∀ tenantId companyId, purgeTarget cfg req out = .ok (tenantId,
        companyId) → (demoBatches db tenantId companyId).take out.committed = []) := by
  by_cases hpurge : route = .purgeDemo
  · subst hpurge
    rw [dataRoute]
    cases htarget : purgeTarget cfg req out with
    | error refusal =>
      refine ⟨fun _ _ tenantId companyId h => ?_, fun _ => rfl⟩
      cases h
    | ok target =>
      obtain ⟨tenantId, companyId⟩ := target
      refine (purgeCompanyDemoRuntimeData_eq_self_iff db tenantId companyId out.committed).trans
        ⟨fun hnone _ tenantId' companyId' h => ?_, fun h => h rfl tenantId companyId rfl⟩
      cases h
      exact hnone
  · have hwrite : route.requiredScope = "write" := by
      cases route with
      | purgeDemo => exact absurd rfl hpurge
      | _ => rfl
    obtain ⟨refusal, hrefusal⟩ := dataTenant_readOnly cfg hwrite hcontext hreadOnly out
    refine ⟨fun _ h => absurd h hpurge, fun _ => ?_⟩
    rw [dataRoute]
    · rw [hrefusal]
    · exact hpurge

/-- Callers who are known by their headers. -/
def headerRoutes : DataRoutes where
  py := .ascii
  allowedOrigins := []
  allowedTenants := ["public"]
  authMode := "headers"
  requireSharedSecret := false
  sharedSecret := ""
  iapContext := fun _ => .error ⟨401, "UNAUTHORIZED"⟩
  allowedRoles := ["tenant_admin"]
  rateLimit := 120
  hasClient := true
  work := fun _ _ _ _ db => db

/-- A viewer with the read scope. -/
def viewerRequest : AdminDataRequest where
  headers := Dict.ofList [("x-user-id", "vera"), ("x-tenant-id", "public"), ("x-roles", "viewer"),
    ("x-scopes", "admin:read"), ("idempotency-key", "purge-1")]
  queryTenantId := some "public"
  companyId := "shop"

def viewerContext : AdminAuthContext := ⟨"vera", "public", ["viewer"], ["admin:read"]⟩

/-- Nothing goes wrong outside. -/
def calmOutside : DataOutside := ⟨false, none, none, 3⟩

/-- A product of the demo. -/
def demoShop : Firestore :=
  Dict.ofList [(["tenants", "public", "companies", "shop", "products", "p1"],
    Dict.ofList [("data_tier", .str "demo")])]

theorem viewer_importsNothing :
    dataRoute headerRoutes .importProducts viewerRequest calmOutside demoShop = demoShop :=
  (readOnly_unchanged_iff headerRoutes .importProducts viewerRequest calmOutside demoShop
    viewerContext (by with_unfolding_all rfl) (by decide +kernel)).2 fun h => nomatch h

theorem viewer_purgesDemo :
    ¬ ∀ (cfg : DataRoutes) (route : DataRoute) (req : AdminDataRequest) (out : DataOutside)
    (db : Firestore)
      (context : AdminAuthContext), extractAdminAuthContext cfg req = .ok context →
        ReadOnly cfg context → dataRoute cfg route req out db = db := by
  intro h
  have hsame := h headerRoutes .purgeDemo viewerRequest calmOutside demoShop viewerContext
    (by with_unfolding_all rfl) (by decide +kernel)
  have htarget : purgeTarget headerRoutes viewerRequest calmOutside = .ok ("public", "shop") := by
    with_unfolding_all rfl
  rw [dataRoute, htarget] at hsame
  have hnone := (purgeCompanyDemoRuntimeData_eq_self_iff demoShop "public" "shop" 3).1 hsame
  -- the product is found and deleted
  have hrefs : demoRefs demoShop (runtimeCollection "public" "shop" "products") =
      [["tenants", "public", "companies", "shop", "products", "p1"]] := by
    decide +kernel
  rw [demoBatches, List.flatMap_cons, hrefs, batches, List.cons_append,
    List.take_succ_cons] at hnone
  cases hnone

end Ekaette
