import Ekaette.Admin.IdempotencyBackends
import Ekaette.Admin.KnowledgeImport

set_option autoImplicit false

/-! # Admin mutations

The mutations of the registry and the import of a knowledge text, each from its arrival to its
answer. Its route checks what it finds, its key is looked up in the idempotency store, and what it
commits is recorded there. Requests are handled one after the other, with the store in memory. -/

namespace Ekaette

/-! ## Requests -/

/-- A mutation that takes an idempotency key. -/
inductive AdminMutation where
  | registry (request : RegistryRequest)
  | importText (companyId : String) (payload : KnowledgeTextPayload)

/-- The scope of its key. -/
def AdminMutation.scope : AdminMutation → String
  | .registry (.writeCompany (.post _)) => "admin_companies_upsert"
  | .registry (.writeCompany (.put _ _)) => "admin_company_update"
  | .registry (.deleteCompany _) => "admin_company_delete"
  | .registry (.createConnector _ _) => "admin_connector_create"
  | .registry (.updateConnector _ _ _) => "admin_connector_update"
  | .registry (.deleteConnector _ _) => "admin_connector_delete"
  | .importText _ _ => "admin_knowledge_import_text"

/-- A request as it is sent, of a tenant that is allowed. -/
structure AdminCall where
  tenantId : String
  /-- the header `Idempotency-Key` -/
  idempotencyKey : Option String
  mutation : AdminMutation

/-- What a request meets when it is handled. -/
structure AdminHandling where
  env : ConnectorEnv
  /-- `str(time.time())` in the id of a knowledge entry -/
  timeText : String
  /-- `time.time()` in the preflight -/
  began : ℚ
  /-- `time.time()` in the commit -/
  ended : ℚ

structure AdminServer where
  settings : ConnectorSettings
  idempotency : AdminIdempotency PyValue PyValue

structure AdminServerState where
  docs : AdminDocs
  entries : AdminStore PyValue

/-- The documents after a request to the registry; the knowledge of a deleted company goes with
    it. -/
def AdminDocs.after (py : StrMethods) (tenantId : String) (request : RegistryRequest)
    (docs : AdminDocs) (registry : AdminRegistry) (response : Except AdminResponse AdminResponse) :
    AdminDocs where
  registry := registry
  knowledge := match request, response with
    | .deleteCompany companyId, .ok _ => docs.knowledge.filter
        (fun key _ =>
          decide (key.1 ≠ tenantId ∨ some key.2.1 ≠ normalizeCompanyIdStrict py companyId))
    | _, _ => docs.knowledge

variable (server : AdminServer)

/-- A route up to its preflight. -/
def AdminServer.prepare (call : AdminCall) (handling : AdminHandling)
    (docs : AdminDocs) : Except AdminResponse PreparedMutation :=
  match call.mutation with
  | .registry request =>
    match request.route server.settings call.tenantId handling.env docs.registry with
    | .error response => .error response
    | .ok prepared => .ok ⟨prepared.fingerprinted,
        docs.after server.settings.py call.tenantId request prepared.outcome.1 prepared.outcome.2,
        prepared.outcome.2⟩
  | .importText companyId payload => importAdminCompanyKnowledgeTextRoute server.settings.py
      server.idempotency.sha256Hex call.tenantId companyId payload handling.timeText
      handling.env.toAdminEnv docs

/-- The answer to a request; only what is committed is recorded. -/
inductive MutationReply where
  | answered (response : AdminResponse)
  | replayed (response : AdminResponse)
  | committed (response : AdminResponse)

/-- Its status and its body. -/
def MutationReply.response : MutationReply → AdminResponse
  | .answered response => response
  | .replayed response => response
  | .committed response => response

def AdminRejection.response (rejection : AdminRejection) : AdminResponse :=
  adminError rejection.status rejection.error rejection.code []

/-- From the preflight to the commit. -/
def AdminServer.perform (key : AdminKey) (payload : PyValue)
    (began ended : ℚ) (outcome : AdminDocs × Except AdminResponse AdminResponse)
    (s : AdminServerState) : AdminServerState × MutationReply :=
  let begun := memoryBeginWithKey server.idempotency key payload began s.entries
  match begun.2 with
  | .replay statusCode body => (⟨s.docs, begun.1⟩, .replayed ⟨statusCode, body⟩)
  | .rejected rejection => (⟨s.docs, begun.1⟩, .answered rejection.response)
  | .execute idempotencyKey fingerprint =>
    match outcome.2 with
    | .error response => (⟨outcome.1, begun.1⟩, .answered response)
    | .ok response =>
      match committedKey key.scope key.tenantId (some idempotencyKey) (some fingerprint) with
      | none => (⟨outcome.1, begun.1⟩, .answered response)
      | some (key, fingerprint) =>
        (⟨outcome.1, memoryRecord server.idempotency key fingerprint response.status response.body
          ended begun.1⟩, .committed response)

/-- A mutation from its arrival to its answer. -/
def AdminServer.handle (call : AdminCall) (handling : AdminHandling)
    (s : AdminServerState) : AdminServerState × MutationReply :=
  match server.prepare call handling s.docs with
  | .error response => (s, .answered response)
  | .ok prepared =>
    match idempotencyKeyDependency call.idempotencyKey with
    | .error rejection => (s, .answered rejection.response)
    | .ok idempotencyKey =>
      server.perform ⟨call.mutation.scope, call.tenantId, idempotencyKey⟩ prepared.fingerprinted
        handling.began handling.ended prepared.outcome s

/-- A request to the admin routes. -/
inductive ServedRequest where
  | mutation (call : AdminCall) (handling : AdminHandling)
  /-- any other request without a key, or one that ends before its preflight, with its effect -/
  | other (work : AdminDocs → AdminDocs)
  /-- any other request with a key, with its effect and its response -/
  | keyed (key : AdminKey) (payload : PyValue) (began ended : ℚ)
      (work : AdminDocs → AdminDocs × Except AdminResponse AdminResponse)

/-- The admin routes. -/
def AdminServer.machine :
    EventMachine AdminServerState ServedRequest (Option MutationReply) where
  step s request :=
    match request with
    | .mutation call handling =>
      let handled := server.handle call handling s
      (handled.1, some handled.2)
    | .other work => ({ s with docs := work s.docs }, none)
    | .keyed key payload began ended work =>
      let performed := server.perform key payload began ended (work s.docs) s
      (performed.1, some performed.2)

/-- When a request looks its key up. -/
def ServedRequest.began? : ServedRequest → Option ℚ
  | .mutation _ handling => some handling.began
  | .other _ => none
  | .keyed _ _ began _ _ => some began

/-! ## Recorded entries -/

section Entries

variable {server : AdminServer} {s : AdminServerState} {k : String} {entry : AdminEntry PyValue}

theorem memoryBeginWithKey_found {cfg : AdminIdempotency PyValue PyValue} {key : AdminKey}
    {payload : PyValue} {now : ℚ} {store : AdminStore PyValue}
    (hget : (idempotencyPrune now store).get? key.storeKey = some entry) :
    memoryBeginWithKey cfg key payload now store =
      (idempotencyPrune now store, cfg.decideOnDoc payload now entry) := by
  rw [get?_idempotencyPrune, Option.filter_eq_some_iff] at hget
  exact memoryBeginWithKey_live hget.1 (by simpa using hget.2)

/-- **A live entry stays** through a request, whatever its key. -/
theorem perform_keeps (hentry : s.entries.get? k = some entry) (key : AdminKey) (payload : PyValue)
    {began : ℚ} (hlive : began < entry.expiresAt) (ended : ℚ)
    (outcome : AdminDocs × Except AdminResponse AdminResponse) :
    (server.perform key payload began ended outcome s).1.entries.get? k = some entry := by
  have hpruned : (idempotencyPrune began s.entries).get? k = some entry := by
    rw [get?_idempotencyPrune, hentry, Option.filter_some_pos (by simpa using hlive)]
  unfold AdminServer.perform
  dsimp only
  cases hget : (idempotencyPrune began s.entries).get? key.storeKey with
  | none =>
    -- the request executes under another key
    have hne : k ≠ key.storeKey := by
      rintro rfl
      rw [hget] at hpruned
      cases hpruned
    rw [memoryBeginWithKey_absent hget]
    dsimp only
    have hbegun := (Dict.get?_set_of_ne (idempotencyPrune began s.entries)
      (server.idempotency.pendingRecord (server.idempotency.fingerprint payload) began) hne).trans
        hpruned
    cases outcome.2 with
    | error response => exact hbegun
    | ok response =>
      dsimp only [committedKey]
      split_ifs
      · exact hbegun
      · exact (Dict.get?_set_of_ne _ _ hne).trans hbegun
  | some cached =>
    rw [memoryBeginWithKey_found hget]
    dsimp only
    cases hdecided : server.idempotency.decideOnDoc payload began cached with
    | execute idempotencyKey fingerprint => exact absurd hdecided (decideOnDoc_ne_execute _ _ _ _ _)
    | replay statusCode body => exact hpruned
    | rejected rejection => exact hpruned

/-- **A committed response is recorded.** -/
theorem perform_records {key : AdminKey} {payload : PyValue} {began ended : ℚ}
    {outcome : AdminDocs × Except AdminResponse AdminResponse} {response : AdminResponse}
    (h : (server.perform key payload began ended outcome s).2 = .committed response) :
    outcome.2 = .ok response ∧ (server.perform key payload began ended outcome s).1.entries.get?
    key.storeKey =
      some (server.idempotency.doneRecord (server.idempotency.fingerprint payload) response.status
        response.body ended) := by
  unfold AdminServer.perform at h ⊢
  dsimp only at h ⊢
  cases hget : (idempotencyPrune began s.entries).get? key.storeKey with
  | none =>
    rw [memoryBeginWithKey_absent hget] at h ⊢
    dsimp only at h ⊢
    cases houtcome : outcome.2 with
    | error refusal =>
      rw [houtcome] at h
      cases h
    | ok done =>
      rw [houtcome] at h
      dsimp only [committedKey] at h ⊢
      by_cases hempty : key.idempotencyKey = "" ∨ server.idempotency.fingerprint payload = ""
      · rw [if_pos hempty] at h
        cases h
      · rw [if_neg hempty] at h ⊢
        cases h
        exact ⟨rfl, Dict.get?_set_self _ _ _⟩
  | some cached =>
    rw [memoryBeginWithKey_found hget] at h
    dsimp only at h
    cases hdecided : server.idempotency.decideOnDoc payload began cached with
    | execute idempotencyKey fingerprint => exact absurd hdecided (decideOnDoc_ne_execute _ _ _ _ _)
    | replay statusCode body =>
      rw [hdecided] at h
      cases h
    | rejected rejection =>
      rw [hdecided] at h
      cases h

/-- **A recorded response is replayed**, unless the payload has another fingerprint. -/
theorem perform_replays {key : AdminKey} {fingerprint : String} {response : AdminResponse}
    {done : ℚ} (hentry : s.entries.get? key.storeKey =
      some (server.idempotency.doneRecord fingerprint response.status response.body done))
    (payload : PyValue) {began : ℚ} (hlive : began < done + server.idempotency.ttlSeconds)
    (ended : ℚ) (outcome : AdminDocs × Except AdminResponse AdminResponse) :
    (server.perform key payload began ended outcome s).2 =
      if server.idempotency.fingerprint payload = fingerprint then .replayed response
      else .answered AdminRejection.reusedWithDifferentPayload.response := by
  unfold AdminServer.perform
  rw [memoryBeginWithKey_live hentry hlive]
  dsimp only [AdminIdempotency.decideOnDoc, AdminIdempotency.doneRecord]
  by_cases hsame : server.idempotency.fingerprint payload = fingerprint
  · rw [if_neg (not_not.2 hsame.symm), if_pos hsame, if_pos hlive]
  · rw [if_pos (Ne.symm hsame), if_neg hsame]

/-- **Step lemma**: a request that looks its key up before the entry expires leaves the entry. -/
theorem machine_keeps (hentry : s.entries.get? k = some entry) (request : ServedRequest)
    (hlive : ∀ began, request.began? = some began → began < entry.expiresAt) :
    (server.machine.next s request).entries.get? k = some entry := by
  cases request with
  | mutation call handling =>
    show (server.handle call handling s).1.entries.get? k = some entry
    unfold AdminServer.handle
    cases server.prepare call handling s.docs with
    | error response => exact hentry
    | ok prepared =>
      dsimp only
      cases idempotencyKeyDependency call.idempotencyKey with
      | error rejection => exact hentry
      | ok idempotencyKey => exact perform_keeps hentry _ _ (hlive _ rfl) _ _
  | other work => exact hentry
  | keyed key payload began ended work => exact perform_keeps hentry _ _ (hlive _ rfl) _ _

/-- **Run lemma.** -/
theorem machine_run_keeps (requests : List ServedRequest) (hentry : s.entries.get? k = some entry)
    (hlive : ∀ request ∈ requests, ∀ began, request.began? = some began → began < entry.expiresAt) :
    (server.machine.run s requests).entries.get? k = some entry := by
  induction requests generalizing s with
  | nil => exact hentry
  | cons request requests ih =>
    rw [List.forall_mem_cons] at hlive
    exact ih (machine_keeps hentry request hlive.1) hlive.2

end Entries

end Ekaette
