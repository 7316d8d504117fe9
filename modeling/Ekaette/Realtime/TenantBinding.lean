import Ekaette.Realtime.InitializeSession

set_option autoImplicit false

/-! # A live session belongs to the tenant of its token

With a token secret configured, the tenant and the company of a session are those of the validated
token: neither the query parameters nor a stored session decide them. -/

namespace Ekaette

/-! ## Ids in their normal form -/

theorem idChar_plain {c : Char} (h : (c.isLower || c.isDigit || c = '_' || c = '-') = true) :
    c.toNat < 128 ∧ c.toLower = c ∧ PyStr.isSpace c = false := by
  have hascii : c.toNat < 128 := by
    have hval : c.toNat = c.val.toNat := rfl
    have hz : 'z'.val.toNat = 122 := rfl
    have hnine : '9'.val.toNat = 57 := rfl
    have hlower : c.isLower = (decide (c.val ≥ 'a'.val) && decide (c.val ≤ 'z'.val)) := rfl
    have hdigit : c.isDigit = (decide (c.val ≥ '0'.val) && decide (c.val ≤ '9'.val)) := rfl
    simp only [hlower, hdigit, Bool.or_eq_true, Bool.and_eq_true, decide_eq_true_eq,
      UInt32.le_iff_toNat_le, ge_iff_le] at h
    rcases h with ((h | h) | h) | h
    · omega
    · omega
    · rw [h]; decide
    · rw [h]; decide
  have hall : (c.isLower || c.isDigit || c = '_' || c = '-') = true →
      c.toLower = c ∧ PyStr.isSpace c = false :=
    PyStr.forall_ascii (P := fun c => (c.isLower || c.isDigit || c = '_' || c = '-') = true →
      c.toLower = c ∧ PyStr.isSpace c = false) (by decide +kernel) hascii
  exact ⟨hascii, hall h⟩

theorem forall_mem_of_idMatches {s : String} (h : idMatches s = true) :
    s ≠ "" ∧ ∀ c ∈ s.toList, (c.isLower || c.isDigit || c = '_' || c = '-') = true := by
  rw [idMatches] at h
  cases hs : s.toList with
  | nil => rw [hs] at h; cases h
  | cons c cs =>
    rw [hs] at h
    simp only [Bool.and_eq_true, List.all_eq_true] at h
    refine ⟨fun hempty => ?_, fun d hd => ?_⟩
    · rw [hempty] at hs
      cases hs
    · rcases List.mem_cons.1 hd with rfl | hd
      · rw [h.1.1.1, Bool.true_or, Bool.true_or]
      · exact h.2 d hd

theorem plain_of_idChars (py : StrMethods) {s : String}
    (hchars : ∀ c ∈ s.toList, (c.isLower || c.isDigit || c = '_' || c = '-') = true) :
    PyStr.strip s = s ∧ py.lower s = s := by
  have hspace : ∀ cs : List Char, (∀ c ∈ cs, PyStr.isSpace c = false) →
      cs.dropWhile PyStr.isSpace = cs := by
    intro cs hcs
    cases cs with
    | nil => rfl
    | cons c cs =>
      rw [List.dropWhile_cons_of_neg]; rw [hcs c List.mem_cons_self]; exact Bool.false_ne_true
  have hnospace : ∀ c ∈ s.toList, PyStr.isSpace c = false :=
    fun c hc => (idChar_plain (hchars c hc)).2.2
  constructor
  · rw [PyStr.strip, PyStr.stripChars, hspace _ hnospace,
      hspace _ (fun c hc => hnospace c (List.mem_reverse.1 hc)), List.reverse_reverse,
      String.ofList_toList]
  · have hmap : s.toList.map Char.toLower = s.toList := by
      conv_rhs => rw [← List.map_id s.toList]
      exact List.map_congr_left (fun c hc => (idChar_plain (hchars c hc)).2.1)
    rw [py.lower_ascii s (fun c hc => (idChar_plain (hchars c hc)).1), hmap, String.ofList_toList]

theorem normalizeId_of_idMatches (py : StrMethods) (default : String) {s : String}
    (h : idMatches s = true) : normalizeId py default (some s) = s ∧ PyStr.strip s = s := by
  obtain ⟨hne, hchars⟩ := forall_mem_of_idMatches h
  obtain ⟨hstrip, hlower⟩ := plain_of_idChars py hchars
  refine ⟨?_, hstrip⟩
  rw [normalizeId, hstrip, hlower]
  simp only [if_neg hne, if_pos h]

/-! ## Stored sessions -/

/-- The tenant and the company of the claims. -/
def TokenScope.pair (claims : TokenScope) : CompanyScope := ⟨claims.tenantId, claims.companyId⟩

/-- **A stored session fits**: where its state names a tenant or a company by a valid id, it is this
    one. -/
structure SessionFits (scope : CompanyScope) (session : StoredSession) : Prop where
  tenant : ∀ id, idMatches id = true → session.state.value "app:tenant_id" = .str id →
    id = scope.tenantId
  company : ∀ id, idMatches id = true → session.state.value "app:company_id" = .str id →
    id = scope.companyId

theorem stateText_map_normalizeId (py : StrMethods) (default : String) {state : Record}
    {key id : String} (hid : idMatches id = true) (hvalue : state.value key = .str id) :
    (stateText state key).map (fun s => normalizeId py default (some s)) = some id := by
  obtain ⟨hnormal, hstrip⟩ := normalizeId_of_idMatches py default hid
  have hkept : (some id).filter (fun s => decide (PyStr.strip s ≠ "")) = some id := by
    refine Option.filter_some_pos ?_
    rw [hstrip]
    exact decide_eq_true (forall_mem_of_idMatches hid).1
  rw [stateText, hvalue, PyValue.str?_str, hkept, Option.map_some, hnormal]

/-- **The check**: with a token, a session that passes it fits, and the scope stays. -/
theorem sessionFits_of_resumeCheck {cfg : SessionConfig} {req : WsRequest} {session : StoredSession}
    {scope scope' : CompanyScope} {claims : TokenScope} (hclaims : req.claims = some claims)
    (h : resumeCheck cfg req session.state scope = .ok scope') :
    scope' = scope ∧ SessionFits scope session := by
  rw [resumeCheck, hclaims] at h
  dsimp only at h
  by_cases hcompany : ((stateText session.state "app:company_id").map
      (fun s => normalizeCompanyId cfg (some s))).any (fun c => c ≠ "" && c ≠ scope.companyId) =
        true
  · rw [if_pos hcompany] at h
    cases h
  · rw [if_neg hcompany] at h
    by_cases htenant : ((stateText session.state "app:tenant_id").map
        (fun s => normalizeTenantId cfg (some s) scope.tenantId)).any
          (fun t => t ≠ "" && t ≠ scope.tenantId) = true
    · rw [if_pos htenant] at h
      cases h
    · rw [if_neg htenant] at h
      refine ⟨(Except.ok.inj h).symm, ⟨fun id hid hvalue => ?_, fun id hid hvalue => ?_⟩⟩
      · by_contra hother
        refine htenant ?_
        have hmap := stateText_map_normalizeId cfg.py scope.tenantId hid hvalue
        have hne := (forall_mem_of_idMatches hid).1
        simp only [normalizeTenantId, hmap, Option.any_some, hne, hother, ne_eq, not_false_eq_true,
          decide_true, Bool.and_self]
      · by_contra hother
        refine hcompany ?_
        have hmap := stateText_map_normalizeId cfg.py cfg.defaultCompanyId hid hvalue
        have hne := (forall_mem_of_idMatches hid).1
        simp only [normalizeCompanyId, hmap, Option.any_some, hne, hother, ne_eq, not_false_eq_true,
          decide_true, Bool.and_self]

/-- What a token says takes precedence. -/
theorem scope_of_claims {cfg : SessionConfig} {req : WsRequest} {claims : TokenScope}
    (hclaims : req.claims = some claims) (htenant : claims.tenantId ≠ "")
    (hcompany : claims.companyId ≠ "") : req.scope cfg = claims.pair := by
  rw [WsRequest.scope, hclaims]
  dsimp only
  rw [if_pos htenant, if_pos hcompany]
  rfl

/-! ## What a run has called -/

/-- A call with its answer. -/
abbrev InitCalled := Called InitCall InitCall.Answer

/-- The claims of the tokens that were validated. -/
def validations (log : List InitCalled) : List TokenClaims :=
  log.filterMap (fun t => match t with
    | ⟨.validateWsToken _ _, some (some claims)⟩ => some claims
    | _ => none)

/-- The sessions that were found. -/
def foundSessions (log : List InitCalled) : List StoredSession :=
  log.filterMap (fun t => match t with
    | ⟨.getSession _ _, some (some session)⟩ => some session
    | _ => none)

/-- **The loads are for this company**: profile and knowledge with the tenant where the registry is
    enabled, and without one where it is not; the registry is asked where it is enabled only. -/
def LoadsFor (registryEnabled : Bool) (scope : CompanyScope) : InitCall → Prop
  | .loadCompanyProfile companyId tenantId | .loadCompanyKnowledge companyId tenantId =>
    companyId = scope.companyId ∧
      tenantId = if registryEnabled then some scope.tenantId else none
  | .resolveRegistryRuntimeConfig tenantId companyId =>
    registryEnabled = true ∧ tenantId = scope.tenantId ∧ companyId = scope.companyId
  | .loadGlobalLessons tenantId companyId => tenantId = scope.tenantId ∧ companyId = scope.companyId
  | _ => True

/-- The calls that load for a company, or store a session. -/
def InitCall.isScoped : InitCall → Bool
  | .loadCompanyProfile _ _ | .loadCompanyKnowledge _ _ | .resolveRegistryRuntimeConfig _ _
  | .loadGlobalLessons _ _ | .saveSessionState _ _ _ | .createSession _ _ _ => true
  | _ => false

/-- The calls that neither validate a token nor look a session up. -/
def InitCall.isQuiet : InitCall → Bool
  | .validateWsToken _ _ | .getSession _ _ => false
  | _ => true

section

variable (rt : SessionRuntime) (conn : WsConnection)

/-- The tenant and the company of a request with these claims. -/
def tokenScope (claims : TokenClaims) : CompanyScope :=
  (conn.request (some claims)).scope rt.toSessionConfig

/-- **The invariant of a log** once a token is validated. -/
structure BoundLog (claims : TokenClaims) (log : List InitCalled) : Prop where
  validated : validations log = [claims]
  fits : ∀ session ∈ foundSessions log, SessionFits (tokenScope rt conn claims) session

/-- What calls are allowed: for a company, only as the validated token says. -/
def AllowedCall (log : List InitCalled) (c : InitCall) : Prop :=
  c.isScoped = true → ∃ claims, BoundLog rt conn claims log ∧
    LoadsFor rt.registryEnabled (tokenScope rt conn claims) c

variable {rt conn} {claims : TokenClaims} {log : List InitCalled}

theorem BoundLog.append (h : BoundLog rt conn claims log) {c : InitCall} (hquiet : c.isQuiet = true)
    (r : Option c.Answer) : BoundLog rt conn claims (log ++ [⟨c, r⟩]) := by
  have hvalidations : validations [⟨c, r⟩] = [] := by
    cases c with
    | validateWsToken token expectedUserId => cases hquiet
    | _ => rfl
  have hfound : foundSessions [⟨c, r⟩] = [] := by
    cases c with
    | getSession userId sessionId => cases hquiet
    | _ => rfl
  refine ⟨?_, ?_⟩
  · rw [validations, List.filterMap_append, ← validations, ← validations, hvalidations,
      List.append_nil]
    exact h.validated
  · rw [foundSessions, List.filterMap_append, ← foundSessions, ← foundSessions, hfound,
      List.append_nil]
    exact h.fits

/-! ## Parts of the program -/

variable {α β : Type}

variable (rt conn claims) in
/-- **A part of the program keeps the invariant**: its calls are allowed, and its value is as it
    should be. -/
def Keeps (S : α → Prop) (p : Init α) : Prop :=
  ∀ log, BoundLog rt conn claims log →
    p.Obeys (AllowedCall rt conn) (fun log a => S a ∧ BoundLog rt conn claims log) log

theorem keeps_pure {S : α → Prop} {a : α} (ha : S a) : Keeps rt conn claims S (pure a) :=
  fun _ h => ⟨ha, h⟩

/-- **A call**, and what follows. -/
theorem keeps_perform {S : α → Prop} {c : InitCall} {f : c.Answer → Init α}
    (hquiet : c.isQuiet = true) (hload : LoadsFor rt.registryEnabled (tokenScope rt conn claims) c)
    (hf : ∀ a, Keeps rt conn claims S (f a)) : Keeps rt conn claims S (perform c >>= f) :=
  fun log h => (CallProgram.obeys_ask_bind log).2
    ⟨fun _ => ⟨claims, h, hload⟩, fun a => hf a _ (h.append hquiet _)⟩

/-- **A part**, and what follows. -/
theorem keeps_bind {S : α → Prop} {T : β → Prop} {p : Init α} {f : α → Init β}
    (hp : Keeps rt conn claims S p) (hf : ∀ a, S a → Keeps rt conn claims T (f a)) :
    Keeps rt conn claims T (p >>= f) :=
  fun log h => (CallProgram.obeys_bind p f log).2
    ((hp log h).mono (fun _ _ hc => hc) (fun log a ha => hf a ha.1 log ha.2))

theorem keeps_refuse {S : Option α → Prop} (hS : S none) (code : ℕ) (reason : Option String) :
    Keeps rt conn claims S (refuse code reason) :=
  keeps_perform rfl trivial (fun _ => keeps_pure hS)

theorem keeps_refuseWith {S : Option α → Prop} (hS : S none) (message : PyValue) (code : ℕ)
    (reason : Option String) : Keeps rt conn claims S (refuseWith message code reason) :=
  keeps_perform rfl trivial (fun _ => keeps_refuse hS code reason)

theorem keeps_loadGrounding :
    Keeps rt conn claims (fun _ => True) (loadGrounding rt (tokenScope rt conn claims)) :=
  keeps_perform rfl ⟨rfl, rfl⟩ (fun _ => keeps_perform rfl ⟨rfl, rfl⟩ (fun _ => keeps_pure trivial))

theorem keeps_resolveRegistry (henabled : rt.registryEnabled = true) :
    Keeps rt conn claims (fun _ => True) (resolveRegistry (tokenScope rt conn claims)) := by
  refine keeps_perform rfl ⟨henabled, rfl, rfl⟩ (fun lookup => ?_)
  rcases lookup with config | details
  · exact keeps_pure trivial
  · exact keeps_refuseWith trivial _ _ _

variable (rt conn claims) in
/-- What is promised of a session that is prepared. -/
def ScopedSession (r : Option PreparedSession) : Prop :=
  ∀ session, r = some session → session.scope = tokenScope rt conn claims

theorem scopedSession_none : ScopedSession rt conn claims none := fun _ h => by cases h

theorem scopedSession_some (sessionId industry : String) (state : Record) :
    ScopedSession rt conn claims (some ⟨tokenScope rt conn claims, sessionId, industry,
      state⟩) := by
  intro session hsession
  rw [← Option.some_inj.1 hsession]

theorem keeps_fillIndustry (state : Record) (industry : String) (updates : Record) :
    Keeps rt conn claims (fun _ => True) (fillIndustry state industry updates) := by
  rw [fillIndustry]
  split_ifs
  · exact keeps_pure trivial
  · exact keeps_perform rfl trivial (fun _ => keeps_pure trivial)

theorem keeps_fillCompany (state updates : Record) :
    Keeps rt conn claims (fun _ => True)
    (fillCompany rt state (tokenScope rt conn claims) updates) := by
  rw [fillCompany]
  split_ifs
  · exact keeps_pure trivial
  · exact keeps_bind keeps_loadGrounding (fun _ _ => keeps_pure trivial)

theorem keeps_fillRegistry (state updates : Record) :
    Keeps rt conn claims (fun _ => True)
    (fillRegistry rt state (tokenScope rt conn claims) updates) := by
  rw [fillRegistry]
  split_ifs with hlacks
  · have henabled := (Bool.and_eq_true _ _ ▸ hlacks).1
    exact keeps_bind (keeps_resolveRegistry henabled) (fun _ _ => keeps_pure trivial)
  · exact keeps_pure trivial

theorem keeps_finishResumed (session : StoredSession) (sessionId industry : String)
    (updates : Record) : Keeps rt conn claims (ScopedSession rt conn claims)
      (finishResumed conn (some claims) session sessionId industry (tokenScope rt conn claims)
        updates) := by
  rw [finishResumed]
  split_ifs
  all_goals first
    | exact keeps_pure (scopedSession_some _ _ _)
    | exact keeps_perform rfl trivial (fun _ => keeps_pure (scopedSession_some _ _ _))

theorem keeps_fillResumed (session : StoredSession) (sessionId industry : String) :
    Keeps rt conn claims (ScopedSession rt conn claims)
      (fillResumed rt conn (some claims) session sessionId industry
        (tokenScope rt conn claims)) := by
  refine keeps_bind (keeps_fillIndustry _ _ _) (fun updates _ => ?_)
  refine keeps_bind (keeps_fillCompany _ updates) (fun updates _ => ?_)
  refine keeps_bind (keeps_fillRegistry _ updates) (fun updates _ => ?_)
  cases updates with
  | none => exact keeps_pure scopedSession_none
  | some updates => exact keeps_finishResumed session sessionId industry updates

theorem keeps_addLessons (state : Record) :
    Keeps rt conn claims (fun _ => True) (addLessons rt (tokenScope rt conn claims) state) := by
  rw [addLessons]
  split_ifs
  · intro log h
    exact ⟨fun _ => ⟨claims, h, rfl, rfl⟩, fun r => ⟨trivial, h.append rfl r⟩⟩
  · exact keeps_pure trivial

theorem keeps_createFresh (industry : String) (registry : Option ResolvedRegistryConfig) :
    Keeps rt conn claims (ScopedSession rt conn claims)
      (createFresh rt conn (some claims) (tokenScope rt conn claims) industry registry) := by
  refine keeps_perform rfl trivial (fun config => ?_)
  refine keeps_bind keeps_loadGrounding (fun grounding _ => ?_)
  refine keeps_bind (keeps_addLessons _) (fun state _ => ?_)
  exact keeps_perform rfl trivial (fun _ => keeps_pure (scopedSession_some _ _ _))

theorem keeps_freshSession :
    Keeps rt conn claims (ScopedSession rt conn claims)
      (freshSession rt conn (some claims) (tokenScope rt conn claims)) := by
  rw [freshSession]
  dsimp only
  split_ifs with henabled
  · refine keeps_bind (keeps_resolveRegistry henabled) (fun resolved _ => ?_)
    rcases resolved with _ | _ | config
    · exact keeps_pure scopedSession_none
    · exact keeps_refuseWith scopedSession_none _ _ _
    · dsimp only
      split
      · exact keeps_refuseWith scopedSession_none _ _ _
      · exact keeps_createFresh _ _
  · exact keeps_createFresh _ _

/-! ## The whole program -/

variable {Q : List InitCalled → Option α → Prop}

theorem refuse_obeys (hQ : ∀ log, Q log none) (code : ℕ) (reason : Option String)
    (log : List InitCalled) : (refuse code reason : Init (Option α)).Obeys (AllowedCall rt conn) Q
    log :=
  (CallProgram.obeys_ask_bind log).2 ⟨fun hscoped => Bool.noConfusion hscoped, fun _ => hQ _⟩

theorem refuseWith_obeys (hQ : ∀ log, Q log none) (message : PyValue) (code : ℕ)
    (reason : Option String) (log : List InitCalled) :
    (refuseWith message code reason : Init (Option α)).Obeys (AllowedCall rt conn) Q log :=
  (CallProgram.obeys_ask_bind log).2
    ⟨fun hscoped => Bool.noConfusion hscoped, fun _ => refuse_obeys hQ code reason _⟩

variable (rt conn claims) in
/-- What is promised of the session, if the function goes on with one. -/
def GoodSession (log : List InitCalled) (r : Option PreparedSession) : Prop :=
  ∀ session, r = some session →
    session.scope = tokenScope rt conn claims ∧ BoundLog rt conn claims log

theorem goodSession_none (log : List InitCalled) : GoodSession rt conn claims log none :=
  fun _ h => by cases h

/-- **Resuming**: the session that was found is refused, or it fits. -/
theorem resumeSession_obeys {session : StoredSession} (h : validations log = [claims])
    (hfound : foundSessions log = [session]) :
    (resumeSession rt conn (some claims) (tokenScope rt conn claims) session).Obeys
      (AllowedCall rt conn) (GoodSession rt conn claims) log := by
  rw [resumeSession]
  cases hcheck : resumeCheck rt.toSessionConfig (conn.request (some claims)) session.state
      (tokenScope rt conn claims) with
  | error mismatch => exact refuseWith_obeys goodSession_none _ _ _ log
  | ok scope =>
    have hclaims : (conn.request (some claims)).claims = some claims.toTokenScope := rfl
    obtain ⟨rfl, hfits⟩ := sessionFits_of_resumeCheck hclaims hcheck
    have hbound : BoundLog rt conn claims log := by
      refine ⟨h, ?_⟩
      rw [hfound]
      exact List.forall_mem_singleton.2 hfits
    exact (keeps_fillResumed session _ _ log hbound).mono (fun _ _ hc => hc)
      (fun log r hr prepared hprepared => ⟨hr.1 prepared hprepared, hr.2⟩)

/-- **Preparing** a session, with a validated token. -/
theorem prepareSession_obeys (h : validations log = [claims]) (hnone : foundSessions log = []) :
    (prepareSession rt conn (some claims)).Obeys (AllowedCall rt conn)
    (GoodSession rt conn claims) log := by
  rw [prepareSession]
  split_ifs with hallowed
  · refine (CallProgram.obeys_ask_bind log).2 ⟨fun hscoped => Bool.noConfusion hscoped, fun found =>
      ?_⟩
    have hvalidated : validations (log ++ [⟨.getSession conn.userId conn.sessionId, some found⟩]) =
        [claims] := by
      rw [validations, List.filterMap_append, ← validations, h]
      rfl
    cases found with
    | none =>
      have hfound : foundSessions (log ++ [⟨.getSession conn.userId conn.sessionId, some none⟩]) =
          [] := by
        rw [foundSessions, List.filterMap_append, ← foundSessions, hnone]
        rfl
      have hbound : BoundLog rt conn claims
          (log ++ [⟨.getSession conn.userId conn.sessionId, some none⟩]) := by
        refine ⟨hvalidated, fun session hsession => ?_⟩
        rw [hfound] at hsession
        exact absurd hsession List.not_mem_nil
      exact (keeps_freshSession _ hbound).mono (fun _ _ hc => hc)
        (fun log r hr prepared hprepared => ⟨hr.1 prepared hprepared, hr.2⟩)
    | some session =>
      refine resumeSession_obeys hvalidated ?_
      rw [foundSessions, List.filterMap_append, ← foundSessions, hnone]
      rfl
  · exact refuseWith_obeys goodSession_none _ _ _ log

variable (rt conn) in
/-- What is promised of a context. -/
def GoodContext (log : List InitCalled) (r : Option SessionInitContext) : Prop :=
  ∀ ctx, r = some ctx → ∃ claims, BoundLog rt conn claims log ∧
    CompanyScope.mk ctx.tenantId ctx.companyId = tokenScope rt conn claims

theorem goodContext_none (log : List InitCalled) : GoodContext rt conn log none :=
  fun _ h => by cases h

/-- **What follows the checks** of the connection, with a validated token. -/
theorem openConnection_obeys (h : validations log = [claims]) (hnone : foundSessions log = []) :
    (openConnection rt conn (some claims)).Obeys (AllowedCall rt conn)
    (GoodContext rt conn) log := by
  rw [openConnection]
  refine (CallProgram.obeys_ask_bind log).2 ⟨fun hscoped => Bool.noConfusion hscoped,
    fun accepted => ?_⟩
  have hvalidated : validations (log ++ [⟨.accept, some accepted⟩]) = [claims] := by
    rw [validations, List.filterMap_append, ← validations, h]
    rfl
  have hfound : foundSessions (log ++ [⟨.accept, some accepted⟩]) = [] := by
    rw [foundSessions, List.filterMap_append, ← foundSessions, hnone]
    rfl
  rw [CallProgram.obeys_bind]
  refine (prepareSession_obeys hvalidated hfound).mono (fun _ _ hc => hc) (fun log r hr => ?_)
  cases r with
  | none => exact goodContext_none log
  | some session =>
    obtain ⟨hscope, hbound⟩ := hr session rfl
    refine (CallProgram.obeys_ask_bind log).2 ⟨fun hscoped => Bool.noConfusion hscoped, fun a => ?_⟩
    intro ctx hctx
    refine ⟨claims, hbound.append rfl _, ?_⟩
    rw [← Option.some_inj.1 hctx, ← hscope]
    rfl

/-- What is promised of the authentication: if the function goes on, it is with a validated
    token. -/
def Authenticated (log : List InitCalled) (r : Option (Option TokenClaims)) : Prop :=
  ∀ authenticated, r = some authenticated →
    ∃ claims, authenticated = some claims ∧ validations log = [claims] ∧ foundSessions log = []

/-- **Authentication**, where a token secret is configured. -/
theorem authenticate_obeys (hsecret : rt.wsTokenSecret ≠ "") :
    (authenticate rt conn).Obeys (AllowedCall rt conn) Authenticated [] := by
  have hrefused : ∀ log, Authenticated log none := fun log _ h => by cases h
  rw [authenticate, if_neg hsecret]
  cases (conn.query.get? "token").filter (· ≠ "") with
  | none => exact refuse_obeys hrefused _ _ []
  | some token =>
    refine (CallProgram.obeys_ask_bind _).2 ⟨fun hscoped => Bool.noConfusion hscoped,
      fun validated => ?_⟩
    cases validated with
    | none => exact refuse_obeys hrefused _ _ _
    | some claims =>
      intro authenticated hauthenticated
      exact ⟨claims, (Option.some_inj.1 hauthenticated).symm, rfl, rfl⟩

variable (conn) in
/-- **The whole function**, where a token secret is configured. -/
theorem initializeSession_obeys (hsecret : rt.wsTokenSecret ≠ "") :
    (initializeSession rt conn).Obeys (AllowedCall rt conn) (GoodContext rt conn) [] := by
  rw [initializeSession]
  by_cases hpath : (pathIdMatches conn.userId && pathIdMatches conn.sessionId) = true
  · rw [if_pos hpath, CallProgram.obeys_bind]
    refine (authenticate_obeys hsecret).mono (fun _ _ hc => hc) (fun log r hr => ?_)
    cases r with
    | none => exact goodContext_none log
    | some authenticated =>
      obtain ⟨claims, rfl, hvalidated, hnone⟩ := hr authenticated rfl
      dsimp only
      split_ifs
      · exact openConnection_obeys hvalidated hnone
      · exact refuse_obeys goodContext_none _ _ log
  · rw [if_neg hpath]
    exact refuse_obeys goodContext_none _ _ []

end

/-! ## Runs -/

/-- **Tenant binding.** Where a token secret is configured, a run that returns a context has
    validated exactly one token. If its claims name a tenant and a company, the context has these,
    everything the run has loaded for a company was loaded for these, and the stored session it has
    found, if any, names no other tenant or company. -/
theorem initializeSession_bound (rt : SessionRuntime) (conn : WsConnection)
    (world : List InitCalled → (c : InitCall) → Option c.Answer) (hsecret : rt.wsTokenSecret ≠ "")
    {ctx : SessionInitContext}
    (hrun : ((initializeSession rt conn).run world []).2 = some (some ctx)) :
    ∃ claims, validations ((initializeSession rt conn).run world []).1 = [claims] ∧
      (claims.tenantId ≠ "" → claims.companyId ≠ "" →
        ctx.tenantId = claims.tenantId ∧ ctx.companyId = claims.companyId ∧
        (∀ t ∈ ((initializeSession rt conn).run world []).1,
          LoadsFor rt.registryEnabled claims.pair t.1) ∧
        ∀ session ∈ foundSessions ((initializeSession rt conn).run world []).1,
          SessionFits claims.pair session) := by
  obtain ⟨calls, hlog, hcalls, hvalue⟩ := CallProgram.obeys_run world
    (initializeSession_obeys conn hsecret)
  rw [List.nil_append] at hlog
  obtain ⟨claims, hbound, hscope⟩ := hvalue _ hrun ctx rfl
  rw [List.nil_append] at hbound
  rw [hlog]
  refine ⟨claims, hbound.validated, fun htenant hcompany => ?_⟩
  have hpair : tokenScope rt conn claims = claims.pair := scope_of_claims rfl htenant hcompany
  rw [hpair] at hscope
  refine ⟨congrArg CompanyScope.tenantId hscope, congrArg CompanyScope.companyId hscope, ?_, ?_⟩
  · intro t ht
    obtain ⟨before, after, hsplit⟩ := List.append_of_mem ht
    by_cases hscoped : t.1.isScoped = true
    · obtain ⟨claims', hbound', hloads⟩ := hcalls before t after hsplit hscoped
      -- the token that was validated before this call is the only one of the run
      have hsame : claims' = claims := by
        have hprefix := hbound.validated
        rw [hsplit, validations, List.filterMap_append, ← validations, ← List.nil_append before,
          hbound'.validated] at hprefix
        exact (List.cons.inj hprefix).1
      rw [hsame, hpair] at hloads
      exact hloads
    · obtain ⟨c, r⟩ := t
      cases c with
      | loadCompanyProfile companyId tenantId => exact absurd rfl hscoped
      | loadCompanyKnowledge companyId tenantId => exact absurd rfl hscoped
      | resolveRegistryRuntimeConfig tenantId companyId => exact absurd rfl hscoped
      | loadGlobalLessons tenantId companyId => exact absurd rfl hscoped
      | _ => exact trivial
  · rw [← hpair]
    exact hbound.fits

/-- A runtime with a token secret. -/
def secretRuntime (registryEnabled : Bool) : SessionRuntime where
  py := .ascii
  registryEnabled
  defaultCompanyId := "default"
  allowedTenants := []
  wsTokenSecret := "secret"
  allowedOrigins := []
  allowMissingWsOrigin := true
  modelName := "gemini-native-audio"
  usesVertexSessions := false
  hasConfigClient := false
  requireCompanyTemplateMatch := false
  manualVadActive := false

/-- A client that asks for another tenant than its token. -/
def greedyConnection : WsConnection where
  userId := "u"
  sessionId := "s"
  query := ⟨[("token", "t"), ("tenant_id", "other"), ("company_id", "other")], by decide⟩
  origin := none
  clientHost := none

/-- The token is for the company `shop` of `acme`, and the session is found with this state. -/
def acmeWorld (found : Option StoredSession) : List InitCalled → (c : InitCall) → Option c.Answer
  | _, .validateWsToken _ _ => some (some ⟨⟨"acme", "shop"⟩, ""⟩)
  | _, .getSession _ _ => some found
  | _, .loadIndustryConfig _ => some []
  | _, .loadCompanyProfile _ _ => some .none
  | _, .loadCompanyKnowledge _ _ => some .none
  | _, .resolveRegistryRuntimeConfig _ _ => some (.resolved none)
  | _, .loadGlobalLessons _ _ => some []
  | _, .createSession _ _ _ => some none
  | _, .close _ _ => some ()
  | _, .accept => some ()
  | _, .sendText _ => some ()
  | _, .saveSessionState _ _ _ => some ()

/-- A session of that company. -/
def acmeSession : StoredSession :=
  ⟨none, ⟨[("app:tenant_id", .str "acme"), ("app:company_id", .str "shop")], by decide⟩⟩

theorem acmeSession_bound : ∃ ctx claims,
    ((initializeSession (secretRuntime true) greedyConnection).run (acmeWorld (some acmeSession))
      []).2 = some (some ctx) ∧
    validations ((initializeSession (secretRuntime true) greedyConnection).run
      (acmeWorld (some acmeSession)) []).1 = [claims] ∧
    (claims.tenantId ≠ "" → claims.companyId ≠ "" →
      ctx.tenantId = claims.tenantId ∧ ctx.companyId = claims.companyId) := by
  have hreturned : ((initializeSession (secretRuntime true) greedyConnection).run
      (acmeWorld (some acmeSession)) []).2.map (·.isSome) = some true := by
    decide +kernel
  obtain ⟨result, hrun, hsome⟩ := Option.map_eq_some_iff.1 hreturned
  obtain ⟨ctx, rfl⟩ := Option.isSome_iff_exists.1 hsome
  have hsecret : (secretRuntime true).wsTokenSecret ≠ "" := by decide
  obtain ⟨claims, hvalidated, hbound⟩ := initializeSession_bound (secretRuntime true)
    greedyConnection (acmeWorld (some acmeSession)) hsecret hrun
  refine ⟨ctx, claims, hrun, hvalidated, fun htenant hcompany => ?_⟩
  obtain ⟨hctxTenant, hctxCompany, -⟩ := hbound htenant hcompany
  exact ⟨hctxTenant, hctxCompany⟩

/-- The company and the tenant that a profile is loaded for. -/
def InitCall.profileLoad? : InitCall → Option (String × Option String)
  | .loadCompanyProfile companyId tenantId => some (companyId, tenantId)
  | _ => none

/-- Without the registry the profile of the company is loaded for no tenant. -/
theorem legacyProfile_unscoped : ∃ ctx claims,
    ((initializeSession (secretRuntime false) greedyConnection).run (acmeWorld none) []).2 =
      some (some ctx) ∧
    validations ((initializeSession (secretRuntime false) greedyConnection).run (acmeWorld none)
      []).1 = [claims] ∧ claims.tenantId = "acme" ∧ claims.companyId = "shop" ∧
    ∃ t ∈ ((initializeSession (secretRuntime false) greedyConnection).run (acmeWorld none) []).1,
      t.1.profileLoad? = some ("shop", none) ∧ ¬ LoadsFor true claims.pair t.1 := by
  have hreturned : ((initializeSession (secretRuntime false) greedyConnection).run
      (acmeWorld none) []).2.map (·.isSome) = some true := by
    decide +kernel
  obtain ⟨result, hrun, hsome⟩ := Option.map_eq_some_iff.1 hreturned
  obtain ⟨ctx, rfl⟩ := Option.isSome_iff_exists.1 hsome
  have hvalidated : (validations ((initializeSession (secretRuntime false) greedyConnection).run
      (acmeWorld none) []).1).map (fun claims => (claims.tenantId, claims.companyId)) =
        [("acme", "shop")] := by
    decide +kernel
  obtain ⟨claims, rest, hclaims, hpair, hrest⟩ := List.map_eq_cons_iff.1 hvalidated
  obtain ⟨htenant, hcompany⟩ := Prod.mk.inj hpair
  rw [List.map_eq_nil_iff.1 hrest] at hclaims
  have hloaded :
    some ("shop", none) ∈ ((initializeSession (secretRuntime false) greedyConnection).run
      (acmeWorld none) []).1.map (fun t => t.1.profileLoad?) := by
    decide +kernel
  obtain ⟨t, ht, hprofile⟩ := List.mem_map.1 hloaded
  refine ⟨ctx, claims, hrun, hclaims, htenant, hcompany, t, ht, hprofile, ?_⟩
  obtain ⟨c, r⟩ := t
  cases c with
  | loadCompanyProfile companyId tenantId =>
    obtain ⟨-, htenant⟩ := Prod.mk.inj (Option.some_inj.1 hprofile)
    intro hloads
    have hnone : tenantId = some claims.tenantId := hloads.2
    rw [show tenantId = none from htenant] at hnone
    cases hnone
  | _ => cases hprofile

end Ekaette
