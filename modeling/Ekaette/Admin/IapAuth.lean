import Ekaette.Admin.DataRoutes

set_option autoImplicit false

/-! # Who an IAP assertion says the caller is

`app/api/v1/admin/auth.py` in mode `iap`. The context of a caller is built from the claims of a
verified assertion; only the email has a fallback, a header that nobody signed. When the claims have
no email, that header decides whether the caller is on the allowlist. -/

namespace Ekaette

/-- The IAP settings, and the verification of assertions. -/
structure IapSettings where
  audience : String
  certsUrl : String
  /-- `ADMIN_IAP_ALLOWED_ISSUERS` -/
  allowedIssuers : List String
  /-- `ADMIN_IAP_ALLOWLIST_EMAILS`: no item of a parsed set is empty -/
  allowlistEmails : List String
  allowlist_nonempty : "" ∉ allowlistEmails
  /-- `ADMIN_IAP_DEFAULT_SCOPES` -/
  defaultScopes : List String
  /-- `ADMIN_DEFAULT_TENANT_ID` -/
  defaultTenantId : String
  /-- `google_id_token.verify_token(assertion, audience=..., certs_url=...)`; `none` where it
      raises -/
  verifyToken : String → String → String → Option Record

variable (cfg : DataRoutes) (iap : IapSettings)

/-! ## The claims -/

/-- `_parse_claim_values` -/
def parseClaimValues : PyValue → List String
  | .str raw => parseCsvSet cfg raw
  | .list items => items.filterMap fun item =>
    (item.str?.map fun s => cfg.py.lower (PyStr.strip s)).filter (· ≠ "")
  | _ => []

/-- `a or b` of two sets. -/
def orSet (xs ys : List String) : List String := if xs = [] then ys else xs

/-- The email of the claims, unless it is missing, blank, or no string. -/
def claimEmail (claims : Record) : Option String :=
  ((claims.value "email").str?.filter fun s => PyStr.strip s ≠ "").map fun s =>
    cfg.py.lower (PyStr.strip s)

/-- The email in `x-goog-authenticated-user-email`; what stands before a colon is dropped. -/
def headerEmail (value : String) : String :=
  let header := PyStr.strip value
  if header = "" then ""
  else match PyStr.splitFirst [':'] header.toList with
    | some (_, email) => cfg.py.lower (PyStr.strip (String.ofList email))
    | none => cfg.py.lower header

variable (req : AdminDataRequest)

variable (claims : Record)

/-- `_iap_email_from_request` -/
def iapEmailFromRequest : String :=
  match claimEmail cfg claims with
  | some email => email
  | none => headerEmail cfg ((req.headers.get? "x-goog-authenticated-user-email").getD "")

/-- `str(claims.get("iss") or "").strip().lower()` -/
def iapIssuer : String :=
  cfg.py.lower (PyStr.strip (((claims.value "iss").orElse (.str "")).toStr cfg.py))

/-- The issuers are restricted, and this is none of them. -/
def IssuerRefused : Prop :=
  iap.allowedIssuers ≠ [] ∧ iapIssuer cfg claims ∉ iap.allowedIssuers

instance (claims : Record) : Decidable (IssuerRefused cfg iap claims) :=
  inferInstanceAs (Decidable (_ ∧ _))

/-- `_iap_context_from_claims` -/
def iapContextFromClaims :
    Except AdminRefusal AdminAuthContext :=
  if IssuerRefused cfg iap claims then .error ⟨401, "ADMIN_IAP_ISSUER_INVALID"⟩
  else
    let email := iapEmailFromRequest cfg req claims
    if iap.allowlistEmails ≠ [] ∧ email ∉ iap.allowlistEmails then .error ⟨403,
      "ADMIN_IDENTITY_FORBIDDEN"⟩
    else
      let userId := PyStr.strip
        (((claims.value "sub").orElse ((claims.value "email").orElse (.str ""))).toStr cfg.py)
      if userId = "" then .error ⟨401, "UNAUTHORIZED"⟩
      else
        let candidate := (claims.value "tenant_id").orElse ((claims.value "tenantId").orElse
          ((claims.value "https://ekaette.dev/tenant_id").orElse
            (claims.value "https://ekaette.dev/tenantId")))
        let tenantId := normalizeId cfg.py iap.defaultTenantId candidate.str?
        if tenantId = "" then .error ⟨401, "UNAUTHORIZED"⟩
        else
          let roles := orSet (parseClaimValues cfg (claims.value "roles"))
            (parseClaimValues cfg (claims.value "role"))
          let scopes :=
            orSet (parseClaimValues cfg (claims.value "scopes"))
              (parseClaimValues cfg (claims.value "scope"))
          if email ≠ "" ∧ iap.allowlistEmails ≠ [] ∧ email ∈ iap.allowlistEmails then
            .ok ⟨userId, tenantId, roles ++ ["tenant_admin"], scopes ++ iap.defaultScopes⟩
          else .ok ⟨userId, tenantId, roles, scopes⟩

/-! ## The assertion -/

/-- `_verify_iap_jwt_assertion` -/
def verifyIapJwtAssertion : Except AdminRefusal Record :=
  if iap.audience = "" then .error ⟨503, "ADMIN_IAP_NOT_CONFIGURED"⟩
  else
    let assertion := req.header "x-goog-iap-jwt-assertion"
    if assertion = "" then .error ⟨401, "ADMIN_IAP_TOKEN_REQUIRED"⟩
    else match iap.verifyToken assertion iap.audience iap.certsUrl with
      | none => .error ⟨401, "ADMIN_IAP_TOKEN_INVALID"⟩
      | some claims => .ok claims

/-- The context of an assertion, or the rejection. -/
def iapAuthContext : Except AdminRefusal AdminAuthContext :=
  (verifyIapJwtAssertion iap req).bind (iapContextFromClaims cfg iap req)

/-- The admin routes in mode `iap`. -/
def iapRoutes : DataRoutes := { cfg with authMode := "iap", iapContext := iapAuthContext cfg iap }

theorem extractAdminAuthContext_iap :
    extractAdminAuthContext (iapRoutes cfg iap) req = iapAuthContext cfg iap req := by
  unfold extractAdminAuthContext iapRoutes
  dsimp only
  rw [if_pos (by decide : "iap" ∈ ["headers", "iap", "hybrid"]), if_pos ⟨by decide, .inl rfl⟩]

theorem extract_of_verified {req : AdminDataRequest} {claims : Record}
    (h : verifyIapJwtAssertion iap req = .ok claims) :
    extractAdminAuthContext (iapRoutes cfg iap) req = iapContextFromClaims cfg iap req claims := by
  rw [extractAdminAuthContext_iap, iapAuthContext, h]
  rfl

/-! ## What the request decides -/

/-- The request enters through the email only. -/
theorem iapContextFromClaims_congr {req req' : AdminDataRequest} {claims : Record}
    (h : iapEmailFromRequest cfg req claims = iapEmailFromRequest cfg req' claims) :
    iapContextFromClaims cfg iap req claims = iapContextFromClaims cfg iap req' claims := by
  unfold iapContextFromClaims
  rw [h]

theorem iapContextFromClaims_refused {claims : Record} (h : IssuerRefused cfg iap claims)
    (req : AdminDataRequest) : iapContextFromClaims cfg iap req claims = .error ⟨401,
      "ADMIN_IAP_ISSUER_INVALID"⟩ := by
  unfold iapContextFromClaims
  rw [if_pos h]

/-- **The allowlist decides**: a caller who is not on it is forbidden, and nobody else is. -/
theorem iapContextFromClaims_forbidden_iff {claims : Record} (h : ¬ IssuerRefused cfg iap claims)
    (req : AdminDataRequest) :
    iapContextFromClaims cfg iap req claims = .error ⟨403, "ADMIN_IDENTITY_FORBIDDEN"⟩ ↔
      iap.allowlistEmails ≠ [] ∧ iapEmailFromRequest cfg req claims ∉ iap.allowlistEmails := by
  unfold iapContextFromClaims
  rw [if_neg h]
  dsimp only
  by_cases hlist : iap.allowlistEmails ≠ [] ∧
    iapEmailFromRequest cfg req claims ∉ iap.allowlistEmails
  · rw [if_pos hlist]
    exact iff_of_true rfl hlist
  · rw [if_neg hlist]
    refine iff_of_false ?_ hlist
    split_ifs
    · simp
    · simp
    · simp
    · simp

/-- Without a header on the allowlist, the email of the header decides nothing. -/
theorem iapContextFromClaims_of_unlisted {req req' : AdminDataRequest} {claims : Record}
    (h : iapEmailFromRequest cfg req claims ∉ iap.allowlistEmails)
    (h' : iapEmailFromRequest cfg req' claims ∉ iap.allowlistEmails) :
    iapContextFromClaims cfg iap req claims = iapContextFromClaims cfg iap req' claims := by
  unfold iapContextFromClaims
  by_cases hempty : iap.allowlistEmails = []
  · simp only [hempty, ne_eq, not_true_eq_false, false_and, and_false, if_false]
  · simp only [ne_eq, hempty, not_false_eq_true, h, h', and_self, if_true]

/-- A request with another value in `x-goog-authenticated-user-email`. -/
def AdminDataRequest.withEmailHeader (value : String) : AdminDataRequest :=
  { req with headers := req.headers.set "x-goog-authenticated-user-email" value }

theorem verify_withEmailHeader (value : String) :
    verifyIapJwtAssertion iap (req.withEmailHeader value) = verifyIapJwtAssertion iap req := by
  have hheader : (req.withEmailHeader value).header "x-goog-iap-jwt-assertion" =
      req.header "x-goog-iap-jwt-assertion" := by
    unfold AdminDataRequest.header AdminDataRequest.withEmailHeader
    rw [Dict.get?_set, if_neg (by decide)]
  unfold verifyIapJwtAssertion
  rw [hheader]

theorem iapEmail_withEmailHeader {claims : Record} (hclaims : claimEmail cfg claims = none)
    (req : AdminDataRequest) (value : String) :
    iapEmailFromRequest cfg (req.withEmailHeader value) claims = headerEmail cfg value := by
  unfold iapEmailFromRequest AdminDataRequest.withEmailHeader
  rw [hclaims, Dict.get?_set, if_pos rfl]
  rfl

theorem headerEmail_empty : headerEmail cfg "" = "" := rfl

/-- **The identity comes from the assertion alone**: every request whose assertion verifies to the
    same claims is answered alike, exactly if the claims have an email, or are refused for their
    issuer, or no header value names an email on the allowlist. -/
theorem extract_claimsOnly_iff (hreq : verifyIapJwtAssertion iap req = .ok claims) :
    (∀ req', verifyIapJwtAssertion iap req' = .ok claims →
        extractAdminAuthContext (iapRoutes cfg iap) req' = extractAdminAuthContext
        (iapRoutes cfg iap) req) ↔
      (claimEmail cfg claims).isSome = true ∨ IssuerRefused cfg iap claims ∨
        ∀ value, headerEmail cfg value ∉ iap.allowlistEmails := by
  constructor
  · intro hsame
    by_contra hcondition
    simp only [not_or, not_forall, not_not, Bool.not_eq_true] at hcondition
    obtain ⟨hemail, hissuer, value, hvalue⟩ := hcondition
    have hclaims : claimEmail cfg claims = none :=
      Option.not_isSome_iff_eq_none.1 (by rw [hemail]; decide)
    have hlisted := hsame (req.withEmailHeader value) (by rw [verify_withEmailHeader, hreq])
    have hblank := hsame (req.withEmailHeader "") (by rw [verify_withEmailHeader, hreq])
    have hboth := hlisted.trans hblank.symm
    have hverified : ∀ email, verifyIapJwtAssertion iap (req.withEmailHeader email) = .ok claims :=
      by
      intro email
      rw [verify_withEmailHeader, hreq]
    rw [extract_of_verified cfg iap (hverified value), extract_of_verified cfg iap (hverified "")]
      at hboth
    have hforbidden :=
      (iapContextFromClaims_forbidden_iff cfg iap hissuer (req.withEmailHeader "")).2
      ⟨List.ne_nil_of_mem hvalue, by
        rw [iapEmail_withEmailHeader cfg hclaims, headerEmail_empty]
        exact iap.allowlist_nonempty⟩
    have hallowed :=
      (iapContextFromClaims_forbidden_iff cfg iap hissuer (req.withEmailHeader value)).1
      (hboth.trans hforbidden)
    rw [iapEmail_withEmailHeader cfg hclaims] at hallowed
    exact hallowed.2 hvalue
  · intro hcondition req' hreq'
    rw [extract_of_verified cfg iap hreq', extract_of_verified cfg iap hreq]
    rcases hcondition with hemail | hissuer | hnone
    · obtain ⟨email, hemail⟩ := Option.isSome_iff_exists.1 hemail
      refine iapContextFromClaims_congr cfg iap ?_
      unfold iapEmailFromRequest
      rw [hemail]
    · rw [iapContextFromClaims_refused cfg iap hissuer,
        iapContextFromClaims_refused cfg iap hissuer]
    · cases hclaims : claimEmail cfg claims with
      | some email =>
        refine iapContextFromClaims_congr cfg iap ?_
        unfold iapEmailFromRequest
        rw [hclaims]
      | none =>
        have hheader : ∀ r : AdminDataRequest,
            iapEmailFromRequest cfg r claims ∉ iap.allowlistEmails := by
          intro r
          unfold iapEmailFromRequest
          rw [hclaims]
          exact hnone _
        exact iapContextFromClaims_of_unlisted cfg iap (hheader req') (hheader req)

/-! ## An assertion without an email -/

/-- The settings of a deployment with one administrator; the assertion `jwt` verifies to these
    claims. -/
def oneAdmin : IapSettings where
  audience := "aud"
  certsUrl := "certs"
  allowedIssuers := ["https://cloud.google.com/iap"]
  allowlistEmails := ["admin@example.com"]
  allowlist_nonempty := by decide
  defaultScopes := ["admin:read", "admin:write"]
  defaultTenantId := "public"
  verifyToken assertion _ _ := if assertion = "jwt" then some claims else none

/-- A request with the assertion, and a value in `x-goog-authenticated-user-email`. -/
def assertedRequest (email : String) : AdminDataRequest where
  headers :=
    Dict.ofList [("x-goog-iap-jwt-assertion", "jwt"), ("x-goog-authenticated-user-email", email)]
  queryTenantId := none
  companyId := ""

/-- Claims of the issuer for a subject, without an email. -/
def subjectClaims : Record :=
  Dict.ofList [("iss", .str "https://cloud.google.com/iap"), ("sub", .str "user-123")]

/-- The same claims with an email. -/
def emailClaims : Record :=
  Dict.ofList [("iss", .str "https://cloud.google.com/iap"), ("sub", .str "user-123"),
    ("email", .str "Admin@example.com")]

/-- One assertion, two headers: the caller who names the administrator becomes one, the other is
    forbidden. -/
theorem headerEmail_grants :
    extractAdminAuthContext (iapRoutes headerRoutes (oneAdmin subjectClaims))
        (assertedRequest "accounts.google.com:admin@example.com") =
          .ok ⟨"user-123", "public", ["tenant_admin"], ["admin:read", "admin:write"]⟩ ∧
      extractAdminAuthContext (iapRoutes headerRoutes (oneAdmin subjectClaims))
        (assertedRequest "eve@example.com") = .error ⟨403, "ADMIN_IDENTITY_FORBIDDEN"⟩ ∧
      verifyIapJwtAssertion (oneAdmin subjectClaims)
      (assertedRequest "accounts.google.com:admin@example.com") =
        verifyIapJwtAssertion (oneAdmin subjectClaims) (assertedRequest "eve@example.com") := by
  refine ⟨by with_unfolding_all rfl, by with_unfolding_all rfl, by with_unfolding_all rfl⟩

/-- With an email in the claims the header decides nothing. -/
theorem extract_claimsOnly_email :
    extractAdminAuthContext (iapRoutes headerRoutes (oneAdmin emailClaims))
    (assertedRequest "eve@example.com") =
      extractAdminAuthContext (iapRoutes headerRoutes (oneAdmin emailClaims))
      (assertedRequest "") :=
  (extract_claimsOnly_iff headerRoutes (oneAdmin emailClaims) (assertedRequest "") emailClaims
    (by with_unfolding_all rfl)).2 (.inl (by decide +kernel)) (assertedRequest "eve@example.com")
      (by with_unfolding_all rfl)

end Ekaette
