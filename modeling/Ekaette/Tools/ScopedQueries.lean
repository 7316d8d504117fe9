import Ekaette.Firestore
import Ekaette.Lib.PyStr

set_option autoImplicit false

/-! # Tenant/company-scoped collections

`app/tools/scoped_queries.py`: a tool reads its tenant and company from the session state in its
tool context and works in the collection below `tenants/{tenant_id}/companies/{company_id}`. -/

namespace Ekaette

/-- A tool's context: its session state, or no context at all. -/
abbrev ToolContext := Option Record

/-- A non-blank string under `key` of the context's state, stripped. -/
def idFromContext (key : String) (ctx : ToolContext) : Option String :=
  match ctx with
  | none => none
  | some state =>
    match state.value key with
    | .str value => if PyStr.strip value = "" then none else some (PyStr.strip value)
    | _ => none

/-- `_tenant_id_from_context`. -/
def tenantIdFromContext : ToolContext → Option String := idFromContext "app:tenant_id"

/-- `_company_id_from_context`. -/
def companyIdFromContext : ToolContext → Option String := idFromContext "app:company_id"

/-- The collection `name` of one company of one tenant. -/
def companyCollection (tenant company name : String) : DocPath :=
  ["tenants", tenant, "companies", company, name]

/-- `scoped_collection` (with a database client at hand). -/
def scopedCollection (ctx : ToolContext) (subcollection : String) : Option DocPath :=
  match tenantIdFromContext ctx with
  | none => none
  | some tenant =>
    match companyIdFromContext ctx with
    | none => none
    | some company => some (companyCollection tenant company subcollection)

/-- `scoped_collection_or_global` (with a database client at hand): the global collection only where
    the context has neither of the two keys. -/
def scopedCollectionOrGlobal (ctx : ToolContext) (subcollection : String) : Option DocPath :=
  match scopedCollection ctx subcollection with
  | some col => some col
  | none =>
    match ctx with
    | none => some [subcollection]
    | some state =>
      if state.contains "app:tenant_id" || state.contains "app:company_id" then none
      else some [subcollection]

theorem scopedCollection_eq_some {ctx : ToolContext} {name : String} {col : DocPath}
    (h : scopedCollection ctx name = some col) :
    ∃ tenant company, tenantIdFromContext ctx = some tenant ∧
      companyIdFromContext ctx = some company ∧ col = companyCollection tenant company name := by
  unfold scopedCollection at h
  cases ht : tenantIdFromContext ctx with
  | none => simp [ht] at h
  | some tenant =>
    cases hc : companyIdFromContext ctx with
    | none => simp [ht, hc] at h
    | some company =>
      simp only [ht, hc, Option.some.injEq] at h
      exact ⟨tenant, company, rfl, rfl, h.symm⟩

end Ekaette
