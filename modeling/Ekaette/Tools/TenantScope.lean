import Ekaette.Lib.UpdateLog
import Ekaette.Realtime.SessionInit

set_option autoImplicit false

/-! # The tenant and the company of the tools

A tool takes its tenant and company from the state of its session, and answers from the profile and
the knowledge there. As these keys belong to the app and not to the session, they are those of the
session only if no other session has overwritten them. -/

namespace Ekaette

abbrev SessionEntry := EventMachine.Entry AppSessions SessionEvent SessionAnswer

/-! ## The property -/

/-- The tenant and company of an opening, and what it has written. -/
def SessionAnswer.opening? : SessionAnswer → Option (CompanyScope × Record)
  | .opened scope updates => some (scope, updates)
  | _ => none

/-- The openings of a log, oldest first. -/
def openings (log : List SessionEntry) : List (CompanyScope × Record) :=
  log.filterMap (fun t => t.answer.opening?)

/-- The keys with what the tools say about the company. -/
def groundingKeys : List String := ["app:company_profile", "app:company_knowledge"]

/-- **Tenant scope**: the tools that run with this state work for that tenant and company. -/
structure ToolsScoped (before : List SessionEntry) (scope : CompanyScope) (state : Record) :
    Prop where
  collections : ∀ name col, scopedCollection (some state) name = some col →
    col = companyCollection (PyStr.strip scope.tenantId) (PyStr.strip scope.companyId) name
  /-- the profile and the knowledge were loaded for that tenant and company -/
  grounding : ∀ key ∈ groundingKeys, ∀ v, state.get? key = some v →
    ∃ updates, (scope, updates) ∈ openings before ∧ updates.get? key = some v

/-- The tools of every agent run of a log work for the tenant and company of their session. -/
def RunsScoped (log : List SessionEntry) : Prop :=
  ∀ before t, before ++ [t] <+: log → ∀ scope state, t.answer = .runs scope state →
    ToolsScoped before scope state

/-! ## The condition -/

/-- **The condition**: the last opening of any session that wrote one of the keys was for the
    tenant, the company, or both. -/
structure LastOpenedFor (before : List SessionEntry) (scope : CompanyScope) : Prop where
  tenant : ∀ u, UpdateLog.lastUpdate (openings before) "app:tenant_id" = some u →
    PyStr.strip u.1.tenantId = PyStr.strip scope.tenantId
  company : ∀ u, UpdateLog.lastUpdate (openings before) "app:company_id" = some u →
    PyStr.strip u.1.companyId = PyStr.strip scope.companyId
  grounding : ∀ key ∈ groundingKeys, ∀ u, UpdateLog.lastUpdate (openings before) key = some u →
    u.1 = scope

/-! ## What an opening writes -/

/-- The ids among the updates are those of the tenant and company. -/
structure WritesIds (scope : CompanyScope) (updates : Record) : Prop where
  tenant : ∀ v, updates.get? "app:tenant_id" = some v → v = .str scope.tenantId
  company : ∀ v, updates.get? "app:company_id" = some v → v = .str scope.companyId

section Writes

variable {cfg : SessionConfig} {scope : CompanyScope} {updates : Record}

theorem writesIds_empty (scope : CompanyScope) : WritesIds scope .empty where
  tenant v h := by simp at h
  company v h := by simp at h

theorem WritesIds.merge {u : Record} (h : WritesIds scope updates) (hu : WritesIds scope u) :
    WritesIds scope (updates.merge u) where
  tenant v hv := by
    rw [Dict.get?_merge, Option.or_eq_some_iff] at hv
    rcases hv with hv | ⟨-, hv⟩
    · exact hu.tenant v hv
    · exact h.tenant v hv
  company v hv := by
    rw [Dict.get?_merge, Option.or_eq_some_iff] at hv
    rcases hv with hv | ⟨-, hv⟩
    · exact hu.company v hv
    · exact h.company v hv

theorem WritesIds.setTenant (h : WritesIds scope updates) :
    WritesIds scope (updates.set "app:tenant_id" (.str scope.tenantId)) where
  tenant v hv := by
    rw [Dict.get?_set_self, Option.some.injEq] at hv
    exact hv.symm
  company v hv := h.company v (by rwa [Dict.get?_set_of_ne _ _ (by decide)] at hv)

theorem WritesIds.setCompany (h : WritesIds scope updates) :
    WritesIds scope (updates.set "app:company_id" (.str scope.companyId)) where
  tenant v hv := h.tenant v (by rwa [Dict.get?_set_of_ne _ _ (by decide)] at hv)
  company v hv := by
    rw [Dict.get?_set_self, Option.some.injEq] at hv
    exact hv.symm

theorem WritesIds.set (h : WritesIds scope updates) (key : String) (v : PyValue)
    (htenant : "app:tenant_id" ≠ key) (hcompany : "app:company_id" ≠ key) :
    WritesIds scope (updates.set key v) where
  tenant w hw := h.tenant w (by rwa [Dict.get?_set_of_ne _ _ htenant] at hw)
  company w hw := h.company w (by rwa [Dict.get?_set_of_ne _ _ hcompany] at hw)

theorem WritesIds.ite {p : Prop} [Decidable p] {u : Record} (h : WritesIds scope updates)
    (hu : WritesIds scope u) : WritesIds scope (if p then updates else u) := by
  split
  · exact h
  · exact hu

theorem WritesIds.setDefaultTenant (h : WritesIds scope updates) :
    WritesIds scope (updates.setDefault "app:tenant_id" (.str scope.tenantId)) := by
  rw [Dict.setDefault]
  split
  · exact h
  · exact h.setTenant

theorem writesIds_company (py : StrMethods) (tenantId companyId : String)
    (grounding : CompanyGrounding) :
    WritesIds ⟨tenantId, buildCompanyId py companyId⟩
      (buildCompanySessionState py companyId grounding) where
  tenant v h := by simp [buildCompanySessionState, Dict.ofList, Dict.get?_set] at h
  company v h := by
    simp only [buildCompanySessionState, Dict.ofList, List.foldl_cons, List.foldl_nil,
      Dict.get?_set] at h
    simpa using h.symm

theorem writesIds_registry (scope : CompanyScope) (registry : RegistryConfig) :
    WritesIds scope (canonicalStateUpdates scope.tenantId registry) where
  tenant v h := by
    simp only [canonicalStateUpdates, Dict.ofList, List.foldl_cons, List.foldl_nil,
      Dict.get?_set] at h
    simpa using h.symm
  company v h := by simp [canonicalStateUpdates, Dict.ofList, Dict.get?_set] at h

theorem writesIds_freshVoice (cfg : SessionConfig) (scope : CompanyScope)
    (grounding : CompanyGrounding) (registry : Option RegistryConfig) :
    WritesIds ⟨scope.tenantId, buildCompanyId cfg.py scope.companyId⟩
      (freshVoiceState cfg scope grounding registry) := by
  have hcompany := writesIds_company cfg.py scope.tenantId scope.companyId grounding
  cases registry with
  | none => exact hcompany.setDefaultTenant
  | some config => exact (hcompany.merge (writesIds_registry _ config)).setDefaultTenant

theorem writesIds_resumed (cfg : SessionConfig) (state : Record) (scope : CompanyScope)
    (grounding : CompanyGrounding) (registry : Option RegistryConfig) :
    WritesIds ⟨scope.tenantId, buildCompanyId cfg.py scope.companyId⟩
      (resumedStateUpdates cfg state scope grounding registry) := by
  have hempty := writesIds_empty ⟨scope.tenantId, buildCompanyId cfg.py scope.companyId⟩
  have hcompany := writesIds_company cfg.py scope.tenantId scope.companyId grounding
  have htenant := hempty.ite (p := state.contains "app:tenant_id") hempty.setTenant
  have hgrounding := htenant.ite (p := state.contains "app:company_profile" &&
    state.contains "app:company_knowledge" && state.contains "app:company_id")
      (htenant.merge hcompany)
  unfold resumedStateUpdates
  cases registry with
  | none => exact hgrounding.ite hgrounding
  | some config => exact (hgrounding.merge (writesIds_registry _ config)).ite hgrounding

theorem writesIds_text (cfg : SessionConfig) (scope : CompanyScope)
    (registry : Option RegistryConfig) : WritesIds scope (textState cfg scope registry) := by
  have hids : WritesIds scope
      (.ofList [("app:tenant_id", .str scope.tenantId),
        ("app:company_id", .str scope.companyId)]) :=
    ((writesIds_empty scope).setTenant).setCompany
  rw [textState]
  split
  · exact hids
  · next config _ =>
      have htemplate := hids.set "app:industry_template_id" (.str config.industryTemplateId)
        (by decide) (by decide)
      simp only
      split_ifs
      · exact (htemplate.set _ _ (by decide) (by decide)).set _ _ (by decide) (by decide)
      · exact htemplate.set _ _ (by decide) (by decide)
      · exact htemplate.set _ _ (by decide) (by decide)
      · exact htemplate

end Writes

/-! ## Steps -/

/-- What a step has done to the keys of the app, and what it shows of them. -/
structure StepKeeps (s : AppSessions) (p : AppSessions × SessionAnswer) : Prop where
  appState : p.1.appState = match p.2.opening? with
    | some u => s.appState.merge u.2
    | none => s.appState
  ids : ∀ scope updates, p.2 = .opened scope updates → WritesIds scope updates
  runs : ∀ scope state, p.2 = .runs scope state → state = s.appState

section Steps

variable {cfg : SessionConfig} {s s' : AppSessions} {o : Opening} {updates : Record}

theorem stepKeeps_of_appState {answer : SessionAnswer} (h : s'.appState = s.appState)
    (hopened : ∀ scope updates, answer ≠ .opened scope updates)
    (hruns : ∀ scope state, answer = .runs scope state → state = s.appState) :
    StepKeeps s (s', answer) where
  appState := by
    cases answer with
    | opened scope updates => exact absurd rfl (hopened scope updates)
    | _ => exact h
  ids scope updates hanswer := absurd hanswer (hopened scope updates)
  runs := hruns

theorem stepKeeps_suspend (s : AppSessions) (o : Opening) : StepKeeps s (s.suspend o) :=
  stepKeeps_of_appState rfl (by simp) (by simp)

theorem stepKeeps_createSession (h : WritesIds (o.openedFor cfg) updates)
    (hs : s'.appState = s.appState) : StepKeeps s (s'.createSession cfg o updates) := by
  rw [AppSessions.createSession]
  split
  · exact stepKeeps_of_appState hs (by simp) (by simp)
  · refine ⟨?_, ?_, by simp⟩
    · simp only [SessionAnswer.opening?, hs]
    · intro scope u hopened
      rw [SessionAnswer.opened.injEq] at hopened
      obtain ⟨rfl, rfl⟩ := hopened
      exact h

theorem stepKeeps_write (hs : s'.appState = s.appState) (o : Opening) (grounding : CompanyGrounding)
    (registry : Option RegistryConfig) : StepKeeps s (s'.write cfg o grounding registry) := by
  cases hkind : o.kind with
  | freshVoice =>
    have hscope : o.openedFor cfg = ⟨o.scope.tenantId, buildCompanyId cfg.py o.scope.companyId⟩ :=
      by
      rw [Opening.openedFor, hkind]
    have hids := fun registry => hscope ▸ writesIds_freshVoice cfg o.scope grounding registry
    simp only [AppSessions.write, hkind]
    split
    · cases registry with
      | none => exact stepKeeps_of_appState hs (by simp) (by simp)
      | some config => exact stepKeeps_createSession (hids (some config)) hs
    · exact stepKeeps_createSession (hids none) hs
  | resumedVoice state =>
    have hscope : o.openedFor cfg = ⟨o.scope.tenantId, buildCompanyId cfg.py o.scope.companyId⟩ :=
      by
      rw [Opening.openedFor, hkind]
    simp only [AppSessions.write, hkind]
    refine ⟨?_, ?_, by simp [AppSessions.saveState]⟩
    · simp only [AppSessions.saveState, SessionAnswer.opening?, hs]
    · intro scope updates hopened
      simp only [AppSessions.saveState, SessionAnswer.opened.injEq] at hopened
      obtain ⟨rfl, rfl⟩ := hopened
      rw [hscope]
      exact writesIds_resumed cfg state o.scope grounding registry
  | text =>
    have hscope : o.openedFor cfg = o.scope := by rw [Opening.openedFor, hkind]
    simp only [AppSessions.write, hkind]
    exact stepKeeps_createSession (hscope ▸ writesIds_text cfg o.scope registry) hs

theorem stepKeeps_connect (s : AppSessions) (req : WsRequest) :
    StepKeeps s (s.connect cfg req) := by
  rw [AppSessions.connect]
  split
  · split
    · exact stepKeeps_suspend s _
    · split
      · exact stepKeeps_of_appState rfl (by simp) (by simp)
      · exact stepKeeps_suspend s _
  · exact stepKeeps_of_appState rfl (by simp) (by simp)

/-- **Step lemma**: the keys of the app are merged with what an opening writes and stay as they are
    otherwise, and an agent run sees them. -/
theorem stepKeeps_step (cfg : SessionConfig) (s : AppSessions) (e : SessionEvent) :
    StepKeeps s ((sessionMachine cfg).step s e) := by
  cases e with
  | connect req => exact stepKeeps_connect s req
  | message userId sessionId scope =>
    simp only [sessionMachine]
    split
    · exact stepKeeps_of_appState rfl (by simp) (by simp)
    · exact stepKeeps_suspend s _
  | proceed opening grounding registry =>
    simp only [sessionMachine]
    have hwithout : (s.without opening).appState = s.appState := rfl
    split
    · exact stepKeeps_write hwithout _ grounding registry
    · exact stepKeeps_of_appState rfl (by simp) (by simp)
  | abandon opening => exact stepKeeps_of_appState rfl (by simp) (by simp)
  | run userId sessionId =>
    simp only [sessionMachine]
    split
    · refine stepKeeps_of_appState rfl (by simp) (fun scope state h => ?_)
      rw [SessionAnswer.runs.injEq] at h
      exact h.2.symm
    · exact stepKeeps_of_appState rfl (by simp) (by simp)

end Steps

/-! ## Whole runs -/

/-- How the log and the state belong together: the keys of the app hold what the openings have
    written. -/
structure KeysLogged (log : List SessionEntry) (s : AppSessions) : Prop where
  appState : s.appState = UpdateLog.replay (openings log)
  ids : ∀ u ∈ openings log, WritesIds u.1 u.2

theorem keysLogged_start : KeysLogged [] .start where
  appState := rfl
  ids u h := by simp [openings] at h

theorem openings_concat (log : List SessionEntry) (t : SessionEntry) :
    openings (log ++ [t]) = openings log ++ t.answer.opening?.toList := by
  rw [openings, List.filterMap_append]
  cases h : t.answer.opening? <;> simp [openings, h]

theorem keysLogged_next {cfg : SessionConfig} {log : List SessionEntry} {s : AppSessions}
    (hs : KeysLogged log s) (e : SessionEvent) :
    KeysLogged (log ++ [(sessionMachine cfg).entry s e]) ((sessionMachine cfg).next s e) := by
  have hstep := stepKeeps_step cfg s e
  have happ := hstep.appState
  refine ⟨?_, fun u hu => ?_⟩
  · rw [openings_concat, EventMachine.next, happ]
    simp only [EventMachine.entry]
    cases hopening : ((sessionMachine cfg).step s e).2.opening? with
    | none => simp [hs.appState]
    | some u => rw [Option.toList_some, UpdateLog.replay_concat, hs.appState]
  · rw [openings_concat, List.mem_append] at hu
    rcases hu with hu | hu
    · exact hs.ids u hu
    · simp only [EventMachine.entry, Option.mem_toList] at hu
      cases hanswer : ((sessionMachine cfg).step s e).2 with
      | opened scope updates =>
        rw [hanswer, SessionAnswer.opening?, Option.some.injEq] at hu
        subst hu
        exact hstep.ids scope updates hanswer
      | _ => simp [hanswer, SessionAnswer.opening?] at hu

variable {log : List SessionEntry}

theorem exists_opening_of_idFromContext {s : AppSessions}
    (hs : KeysLogged log s) {key id : String} (h : idFromContext key (some s.appState) = some id) :
    ∃ u ∈ openings log, ∃ value, UpdateLog.lastUpdate (openings log) key = some u ∧
      u.2.get? key = some (.str value) ∧ id = PyStr.strip value := by
  simp only [idFromContext, Record.value] at h
  split at h
  · next value hvalue =>
      split_ifs at h
      cases hget : s.appState.get? key with
      | none => simp [hget] at hvalue
      | some v =>
        rw [hget, Option.getD_some] at hvalue
        subst hvalue
        rw [hs.appState] at hget
        obtain ⟨u, hu, hlast, hv⟩ := UpdateLog.exists_lastUpdate hget
        exact ⟨u, hu, value, hlast, hv, (Option.some.inj h).symm⟩
  · simp at h

/-- **Tenant scope of one agent run.** -/
theorem toolsScoped_of_lastOpenedFor {s : AppSessions}
    {scope : CompanyScope} (hs : KeysLogged log s) (hlast : LastOpenedFor log scope) :
    ToolsScoped log scope s.appState where
  collections name col hcol := by
    obtain ⟨tenant, company, htenant, hcompany, rfl⟩ := scopedCollection_eq_some hcol
    obtain ⟨u, hu, value, hlastTenant, hvalue, rfl⟩ := exists_opening_of_idFromContext hs htenant
    obtain ⟨u', hu', value', hlastCompany, hvalue', rfl⟩ :=
      exists_opening_of_idFromContext hs hcompany
    have hid := (hs.ids u hu).tenant _ hvalue
    have hid' := (hs.ids u' hu').company _ hvalue'
    rw [PyValue.str.injEq] at hid hid'
    rw [hid, hid', hlast.tenant u hlastTenant, hlast.company u' hlastCompany]
  grounding key hkey v hv := by
    rw [hs.appState] at hv
    obtain ⟨u, hu, hlastKey, hvalue⟩ := UpdateLog.exists_lastUpdate hv
    have hscope := hlast.grounding key hkey u hlastKey
    exact ⟨u.2, hscope ▸ hu, hvalue⟩

/-- **Tenant scope of tools**: in every run in which, whenever an agent runs, the keys of the app
    were last written by openings for its session's tenant and company, the tools work for these. -/
theorem runsScoped_of_lastOpenedFor (cfg : SessionConfig) (es : List SessionEvent)
    (hlast : ∀ before t, before ++ [t] <+: (sessionMachine cfg).trace .start es →
      ∀ scope state, t.answer = .runs scope state → LastOpenedFor before scope) :
    RunsScoped ((sessionMachine cfg).trace .start es) := by
  refine (sessionMachine cfg).trace_forall (C := KeysLogged) keysLogged_start
    (fun log s e hpre hs => ?_)
  refine ⟨fun scope state hruns => ?_, keysLogged_next hs e⟩
  rw [(stepKeeps_step cfg s e).runs scope state hruns]
  exact toolsScoped_of_lastOpenedFor hs (hlast log _ hpre scope state hruns)

/-- The tenant and company of an opening or of an agent run. -/
def SessionAnswer.scope? : SessionAnswer → Option CompanyScope
  | .opened scope _ => some scope
  | .runs scope _ => some scope
  | _ => none

/-- An app that serves one company meets the condition. -/
theorem lastOpenedFor_of_oneCompany (company : CompanyScope)
    (h : ∀ t ∈ log, ∀ scope ∈ t.answer.scope?, scope = company) :
    ∀ before t, before ++ [t] <+: log → ∀ scope state, t.answer = .runs scope state →
      LastOpenedFor before scope := by
  intro before t hpre scope state hruns
  have hscope : scope = company :=
    h t (hpre.subset (by simp)) scope (by rw [hruns, SessionAnswer.scope?]; rfl)
  have hopenings : ∀ u ∈ openings before, u.1 = scope := by
    intro u hu
    obtain ⟨x, hx, hopening⟩ := List.mem_filterMap.1 hu
    cases hanswer : x.answer with
    | opened scope' updates =>
      rw [hanswer, SessionAnswer.opening?, Option.some.injEq] at hopening
      rw [← hopening, hscope]
      exact h x (hpre.subset (List.mem_append_left _ hx)) scope'
        (by rw [hanswer, SessionAnswer.scope?]; rfl)
    | _ => simp [hanswer, SessionAnswer.opening?] at hopening
  have hlast : ∀ key u, UpdateLog.lastUpdate (openings before) key = some u → u.1 = scope :=
    fun key u hu => hopenings u (UpdateLog.mem_of_lastUpdate hu)
  exact ⟨fun u hu => by rw [hlast _ u hu], fun u hu => by rw [hlast _ u hu],
    fun key _ u hu => hlast key u hu⟩

theorem answer_run {cfg : SessionConfig} {s : AppSessions} {userId sessionId : String}
    {scope : CompanyScope} (h : s.sessions.get? (userId, sessionId) = some scope) :
    ((sessionMachine cfg).entry s (.run userId sessionId)).answer = .runs scope s.appState := by
  simp only [EventMachine.entry, sessionMachine, h]

/-- A server for any tenant. -/
def sharedServer : SessionConfig := ⟨.ascii, true, "ekaette-electronics", []⟩

/-- A user opens a voice session for a hotel. -/
def hotelOpened : List SessionEvent :=
  [.connect ⟨"ada", "s1", some "acme", none, some "acme-hotel", none, none⟩,
    .proceed 0 ⟨.dict [("name", .str "Acme Hotel")], .list []⟩ (some ⟨"hotel", .list [], "v1"⟩)]

/-- Another one opens a voice session for a garage of another tenant. -/
def garageOpened : List SessionEvent :=
  [.connect ⟨"bob", "s2", some "globex", none, some "globex-cars", none, none⟩,
    .proceed 1 ⟨.dict [("name", .str "Globex Cars")], .list []⟩
    (some ⟨"automotive", .list [], "v1"⟩)]

/-- As long as only the hotel is served, its tools stay with it. -/
theorem hotelRun_scoped :
    RunsScoped ((sessionMachine sharedServer).trace .start (hotelOpened ++ [.run "ada" "s1"])) := by
  refine runsScoped_of_lastOpenedFor sharedServer (hotelOpened ++ [.run "ada" "s1"]) ?_
  refine lastOpenedFor_of_oneCompany ⟨"acme", "acme-hotel"⟩ ?_
  decide +kernel

/-- After the garage's session, the tools of the hotel's session work for the garage. -/
theorem hotelRun_misscoped :
    ¬ RunsScoped ((sessionMachine sharedServer).trace .start
      (hotelOpened ++ garageOpened ++ [.run "ada" "s1"])) := by
  intro h
  rw [EventMachine.trace_concat] at h
  have hsession :
    ((sessionMachine sharedServer).run .start (hotelOpened ++ garageOpened)).sessions.get?
      ("ada", "s1") = some ⟨"acme", "acme-hotel"⟩ := by
    decide +kernel
  have hscoped := h _ _ List.prefix_rfl _ _ (answer_run hsession)
  have hcollection := hscoped.collections "bookings"
    (companyCollection "globex" "globex-cars" "bookings") (by decide +kernel)
  exact absurd hcollection (by decide +kernel)

end Ekaette
