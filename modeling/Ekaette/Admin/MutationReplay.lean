import Ekaette.Admin.MutationFingerprints

set_option autoImplicit false

/-! # Retried mutations

A mutation checks what it finds in the registry before its key is looked up, and it fingerprints
what it makes of the request there. A retry is the same request again, after whatever else was
handled. -/

namespace Ekaette

/-! ## Retries -/

/-- **The retry is recognised**: it gets to its preflight, and it fingerprints there what the first
    request did. An upsert always does. The other requests to a company must find it again; an
    update or a deletion of a connector must find the connector too; an update of the company must
    make the same fields of what is stored now, and an import must make the same entry at the time
    that it is now. -/
def AdminServer.Recognises (server : AdminServer) (call : AdminCall) (first retry : AdminHandling)
    (before after : AdminDocs) : Prop :=
  match call.mutation with
  | .registry (.writeCompany (.post _)) => True
  | .registry (.writeCompany (.put rawCompanyId payload)) =>
    ∃ stored found,
      foundCompany server.settings.py first.env.toAdminEnv before.registry call.tenantId
        rawCompanyId = some stored ∧
      foundCompany server.settings.py retry.env.toAdminEnv after.registry call.tenantId
        rawCompanyId = some found ∧
      UpdatePasses server.settings.toAdminSettings after.registry call.tenantId
        (updateFields server.settings.py found.1 payload found.2) ∧
      server.idempotency.fingerprint
          ((updateFields server.settings.py found.1 payload found.2).fingerprinted call.tenantId
            found.1) =
        server.idempotency.fingerprint
          ((updateFields server.settings.py stored.1 payload stored.2).fingerprinted call.tenantId
            stored.1)
  | .registry (.deleteCompany rawCompanyId) | .registry (.createConnector rawCompanyId _) =>
    ∃ found, foundCompany server.settings.py retry.env.toAdminEnv after.registry call.tenantId
      rawCompanyId = some found
  | .registry (.updateConnector rawCompanyId rawConnectorId _)
  | .registry (.deleteConnector rawCompanyId rawConnectorId) =>
    ∃ found, foundConnector server.settings.py retry.env.toAdminEnv after.registry call.tenantId
      rawCompanyId rawConnectorId = some found
  | .importText rawCompanyId payload =>
    ∃ found, foundCompany server.settings.py retry.env.toAdminEnv after.registry call.tenantId
        rawCompanyId = some found ∧
      server.idempotency.fingerprint (importFingerprinted found.1
          (payload.entry server.settings.py server.idempotency.sha256Hex retry.timeText
            retry.env.nowIso)) =
        server.idempotency.fingerprint (importFingerprinted found.1
          (payload.entry server.settings.py server.idempotency.sha256Hex first.timeText
            first.env.nowIso))

section Retries

variable {server : AdminServer} {tenantId : String}
  {first retry : AdminHandling} {before after : AdminDocs} {v : PyValue}

/-- An update or a deletion of a connector gets to its preflight again where it finds the
    connector. -/
theorem connector_recognised {py : StrMethods} {env env' : AdminEnv}
    {registry registry' : AdminRegistry} {rawCompanyId rawConnectorId : String}
    {fingerprint : PyValue → String} (fits : String → Bool)
    (fingerprinted : String → String → PyValue)
    (hfirst : ((foundConnector py env registry tenantId rawCompanyId rawConnectorId).filter
      (fun found => fits found.2.1)).map (fun found => fingerprinted found.1 found.2.1) = some v) :
    (∃ v', ((foundConnector py env' registry' tenantId rawCompanyId rawConnectorId).filter
        (fun found => fits found.2.1)).map (fun found => fingerprinted found.1 found.2.1) =
          some v' ∧ fingerprint v' = fingerprint v) ↔
      ∃ found, foundConnector py env' registry' tenantId rawCompanyId rawConnectorId =
      some found := by
  obtain ⟨stored, hstored, rfl⟩ := Option.map_eq_some_iff.1 hfirst
  obtain ⟨hstored, hfits⟩ := Option.filter_eq_some_iff.1 hstored
  constructor
  · rintro ⟨v', hretry, -⟩
    obtain ⟨found, hfound, -⟩ := Option.map_eq_some_iff.1 hretry
    exact ⟨found, (Option.filter_eq_some_iff.1 hfound).1⟩
  · rintro ⟨found, hfound⟩
    obtain ⟨hcompany, hconnector⟩ := foundConnector_ids hstored hfound
    refine ⟨_, Option.map_eq_some_iff.2 ⟨found, Option.filter_eq_some_iff.2 ⟨hfound, ?_⟩, rfl⟩, ?_⟩
    · rw [hconnector]
      exact hfits
    · rw [hcompany, hconnector]

/-- **What is fingerprinted again**, of every mutation. -/
theorem recognises_iff {call : AdminCall}
    (hfirst : server.fingerprinted? call first before = some v) :
    (∃ v', server.fingerprinted? call retry after = some v' ∧
        server.idempotency.fingerprint v' = server.idempotency.fingerprint v) ↔
      server.Recognises call first retry before after := by
  obtain ⟨tenantId, idempotencyKey, mutation⟩ := call
  cases mutation with
  | registry request =>
    cases request with
    | writeCompany w =>
      cases w with
      | post payload => exact iff_true_intro ⟨v, hfirst, rfl⟩
      | put rawCompanyId payload =>
        obtain ⟨htenant, stored, hstored, -, rfl⟩ := updateFingerprinted_iff.1 hfirst
        constructor
        · rintro ⟨v', hretry, hfp⟩
          obtain ⟨-, found, hfound, hpasses, rfl⟩ := updateFingerprinted_iff.1 hretry
          exact ⟨stored, found, hstored, hfound, hpasses, hfp⟩
        · rintro ⟨stored', found, hstored', hfound, hpasses, hfp⟩
          -- what the first request found is determined
          obtain rfl := Option.some.inj (hstored.symm.trans hstored')
          exact ⟨_, updateFingerprinted_iff.2 ⟨htenant, found, hfound, hpasses, rfl⟩, hfp⟩
    | deleteCompany rawCompanyId =>
      obtain ⟨stored, hstored, rfl⟩ := Option.map_eq_some_iff.1 hfirst
      constructor
      · rintro ⟨v', hretry, -⟩
        obtain ⟨found, hfound, -⟩ := Option.map_eq_some_iff.1 hretry
        exact ⟨found, hfound⟩
      · rintro ⟨found, hfound⟩
        refine ⟨_, Option.map_eq_some_iff.2 ⟨found, hfound, rfl⟩, ?_⟩
        rw [foundCompany_fst hstored hfound]
    | createConnector rawCompanyId payload =>
      obtain ⟨stored, hstored, hv⟩ := Option.bind_eq_some_iff.1 hfirst
      constructor
      · rintro ⟨v', hretry, -⟩
        obtain ⟨found, hfound, -⟩ := Option.bind_eq_some_iff.1 hretry
        exact ⟨found, hfound⟩
      · rintro ⟨found, hfound⟩
        refine ⟨v, Option.bind_eq_some_iff.2 ⟨found, hfound, ?_⟩, rfl⟩
        rw [foundCompany_fst hstored hfound]
        exact hv
    | updateConnector rawCompanyId rawConnectorId payload =>
      exact connector_recognised (fun connectorId =>
        !payload.mismatch server.settings.py connectorId)
        (putFingerprinted payload) hfirst
    | deleteConnector rawCompanyId rawConnectorId =>
      exact connector_recognised (fun _ => !false) (fun companyId connectorId =>
        .dict [("companyId", .str companyId), ("connectorId", .str connectorId)]) hfirst
  | importText rawCompanyId payload =>
    obtain ⟨stored, hstored, hv⟩ := Option.bind_eq_some_iff.1 hfirst
    dsimp only at hv
    split_ifs at hv with hinvalid
    obtain rfl := Option.some.inj hv
    constructor
    · rintro ⟨v', hretry, hfp⟩
      obtain ⟨found, hfound, hv'⟩ := Option.bind_eq_some_iff.1 hretry
      dsimp only at hv'
      split_ifs at hv'
      obtain rfl := Option.some.inj hv'
      refine ⟨found, hfound, hfp.trans ?_⟩
      rw [foundCompany_fst hstored hfound]
    · rintro ⟨found, hfound, hfp⟩
      refine ⟨_, Option.bind_eq_some_iff.2 ⟨found, hfound, if_neg ?_⟩, hfp.trans ?_⟩
      · -- the entry is as valid as the first one
        rw [validateKnowledgeEntry_entry _ _ payload _ _ first.timeText first.env.nowIso]
        exact hinvalid
      · rw [foundCompany_fst hstored hfound]

/-- **A committed mutation** got to its preflight, and its response is recorded under its key; it is
    no error. -/
theorem handle_committed {call : AdminCall} {s : AdminServerState} {response : AdminResponse}
    (h : (server.handle call first s).2 = .committed response) :
    ∃ v key, server.fingerprinted? call first s.docs = some v ∧
      idempotencyKeyDependency call.idempotencyKey = .ok key ∧ response.status < 400 ∧
      (server.handle call first s).1.entries.get?
          (AdminKey.storeKey ⟨call.mutation.scope, call.tenantId, key⟩) =
        some (server.idempotency.doneRecord (server.idempotency.fingerprint v) response.status
          response.body first.ended) := by
  have hprepares := prepare_prepares server call first s.docs
  unfold AdminServer.handle at h ⊢
  cases hv : server.fingerprinted? call first s.docs with
  | none =>
    rw [hv] at hprepares
    obtain ⟨refusal, hrefused, -⟩ := hprepares
    rw [hrefused] at h
    cases h
  | some v =>
    rw [hv] at hprepares
    obtain ⟨prepared, hprepared, rfl, haccepted⟩ := hprepares
    rw [hprepared] at h ⊢
    dsimp only at h ⊢
    cases hkey : idempotencyKeyDependency call.idempotencyKey with
    | error rejection =>
      rw [hkey] at h
      cases h
    | ok key =>
      rw [hkey] at h
      obtain ⟨houtcome, hrecorded⟩ := perform_records h
      exact ⟨_, key, rfl, rfl, haccepted response houtcome, hrecorded⟩

/-- **A retry** that finds the recorded response gets it where it has the same fingerprint, and an
    error otherwise. -/
theorem handle_retry_iff {call : AdminCall} {s : AdminServerState} {response : AdminResponse}
    {key : String} {done : ℚ} (hkey : idempotencyKeyDependency call.idempotencyKey = .ok key)
    (hstatus : response.status < 400)
    (hentry : s.entries.get? (AdminKey.storeKey ⟨call.mutation.scope, call.tenantId, key⟩) =
      some (server.idempotency.doneRecord (server.idempotency.fingerprint v) response.status
        response.body done))
    (hlive : retry.began < done + server.idempotency.ttlSeconds) :
    (server.handle call retry s).2.response = response ↔
      ∃ v', server.fingerprinted? call retry s.docs = some v' ∧
        server.idempotency.fingerprint v' = server.idempotency.fingerprint v := by
  have herror : ∀ {refusal : AdminResponse}, 400 ≤ refusal.status → refusal ≠ response := by
    rintro refusal hrefusal rfl
    exact absurd hstatus (not_lt.2 hrefusal)
  have hprepares := prepare_prepares server call retry s.docs
  unfold AdminServer.handle
  cases hv : server.fingerprinted? call retry s.docs with
  | none =>
    rw [hv] at hprepares
    obtain ⟨refusal, hrefused, hrefusal⟩ := hprepares
    rw [hrefused]
    refine iff_of_false (herror hrefusal) ?_
    rintro ⟨v', hnone, -⟩
    cases hnone
  | some v' =>
    rw [hv] at hprepares
    obtain ⟨prepared, hprepared, rfl, -⟩ := hprepares
    rw [hprepared]
    dsimp only
    rw [hkey]
    dsimp only
    -- the lookup finds the recorded response; only the fingerprint decides
    rw [perform_replays hentry _ hlive]
    by_cases hsame : server.idempotency.fingerprint prepared.fingerprinted =
      server.idempotency.fingerprint v
    · rw [if_pos hsame]
      exact iff_of_true rfl ⟨_, rfl, hsame⟩
    · rw [if_neg hsame]
      refine iff_of_false (herror (by decide : (400 : ℤ) ≤ 409)) ?_
      rintro ⟨v', hv', hfp⟩
      obtain rfl := Option.some.inj hv'
      exact hsame hfp

/-- **A retried mutation replays exactly if it is recognised.** A mutation is committed in any
    state, whatever requests follow, and it comes again before its entry expires: it gets the same
    status and body exactly if it is recognised in the documents as they are then. -/
theorem retriedMutation_replays_iff (server : AdminServer) (call : AdminCall)
    (first retry : AdminHandling) {s : AdminServerState} {response : AdminResponse}
    (between : List ServedRequest) (hcommitted : (server.machine.step s (.mutation call first)).2 =
      some (.committed response))
    (hclock : ∀ request ∈ between, ∀ began, request.began? = some began → began ≤ retry.began)
    (hwithin : retry.began < first.ended + server.idempotency.ttlSeconds) :
    (server.machine.step (server.machine.run (server.machine.next s (.mutation call first)) between)
        (.mutation call retry)).2.map MutationReply.response = some response ↔
      server.Recognises call first retry s.docs
        (server.machine.run (server.machine.next s (.mutation call first)) between).docs := by
  obtain ⟨v, key, hfirst, hkey, hstatus, hrecorded⟩ := handle_committed (Option.some.inj hcommitted)
  -- the clock does not go back, so no lookup in between finds the entry expired
  have hlive : ∀ request ∈ between, ∀ began, request.began? = some began →
      began < first.ended + server.idempotency.ttlSeconds :=
    fun request hrequest began hbegan => (hclock request hrequest began hbegan).trans_lt hwithin
  have hentry :
    (server.machine.run (server.machine.next s (.mutation call first)) between).entries.get?
      (AdminKey.storeKey ⟨call.mutation.scope, call.tenantId, key⟩) = some _ :=
    machine_run_keeps between hrecorded hlive
  exact Option.some_inj.trans ((handle_retry_iff hkey hstatus hentry hwithin).trans
    (recognises_iff hfirst))

end Retries

/-! ## Two retries -/

/-- The storage works, and no other write holds the lock. -/
structure AdminHandling.Works (handling : AdminHandling) : Prop where
  reads : handling.env.reads = true
  writes : handling.env.writes = true
  lockFree : handling.env.lockFree = true
  readsAgain : handling.env.readsAgain = true
  fieldWrites : handling.env.fieldWrites = true

/-- The texts of a payload tell it apart. -/
def mockServer : AdminServer where
  settings := mockSettings
  idempotency := {
    ttlSeconds := 86400
    pendingTtlSeconds := 120
    fingerprint := fun v => String.intercalate "&" (((v.dict?).getD []).map fun e =>
      e.1 ++ "=" ++ e.2.coerceStr)
    sha256Hex := id
    emptyBody := .dict []
    mergeBody := fun _ body => body
    mergeBody_empty := fun _ => rfl }

/-- At a second after midnight, say. -/
def handledAt (seconds : ℚ) : AdminHandling :=
  ⟨⟨servedEnv, true, true, true, .none⟩, "", seconds, seconds⟩

theorem works_handledAt (seconds : ℚ) : (handledAt seconds).Works := ⟨rfl, rfl, rfl, rfl, rfl⟩

/-- A company with a connector comes in. -/
def createShop : AdminCall where
  tenantId := "acme"
  idempotencyKey := some "shop-1"
  mutation := .registry (.writeCompany (.post ⟨"shop", "Shop", "electronics", "active",
    ⟨[("crm", .dict [("provider", .str "mock")])], List.nodup_singleton _⟩, none, .empty, [],
    none⟩))

def createMail : AdminCall where
  tenantId := "acme"
  idempotencyKey := some "mail-1"
  mutation :=
    .registry (.createConnector "shop" ⟨some "mail", "mock", true, ["read"], none, .empty⟩)

def deleteCrm : AdminCall where
  tenantId := "acme"
  idempotencyKey := some "crm-1"
  mutation := .registry (.deleteConnector "shop" "crm")

/-- The shop and its connector. -/
def withShop : AdminServerState :=
  mockServer.machine.run ⟨⟨.empty, .empty⟩, .empty⟩ [.mutation createShop (handledAt 0)]

/-- The response that a request commits. -/
def MutationReply.committed? : MutationReply → Option AdminResponse
  | .committed response => some response
  | _ => none

theorem committed_of_committed? {reply : Option MutationReply} {response : AdminResponse}
    (h : reply.bind MutationReply.committed? = some response) :
    reply = some (.committed response) := by
  obtain ⟨reply, rfl, hreply⟩ := Option.bind_eq_some_iff.1 h
  cases reply with
  | committed done =>
    exact congrArg (fun r => some (MutationReply.committed r)) (Option.some.inj hreply)
  | _ => cases hreply

/-- A connector is created, another one is deleted, and the creation comes again. -/
theorem retriedMutation_replays_creation : ∃ response,
    (mockServer.machine.step withShop (.mutation createMail (handledAt 1))).2 =
    some (.committed response) ∧
      (mockServer.machine.step (mockServer.machine.run (mockServer.machine.next withShop
        (.mutation createMail (handledAt 1))) [.mutation deleteCrm (handledAt 2)])
          (.mutation createMail (handledAt 3))).2.map MutationReply.response = some response := by
  have hsome : ((mockServer.machine.step withShop (.mutation createMail (handledAt 1))).2.bind
      MutationReply.committed?).isSome = true := by
    decide +kernel
  obtain ⟨response, hresponse⟩ := Option.isSome_iff_exists.1 hsome
  have hcommitted := committed_of_committed? hresponse
  refine ⟨response, hcommitted, (retriedMutation_replays_iff mockServer createMail (handledAt 1)
    (handledAt 3)
    [.mutation deleteCrm (handledAt 2)] hcommitted (fun request hrequest began hbegan => ?_)
    (by decide +kernel)).2 ?_⟩
  · rw [List.mem_singleton.1 hrequest] at hbegan
    rw [← Option.some.inj hbegan]
    decide +kernel
  · exact Option.isSome_iff_exists.1 (by decide +kernel)

/-- A connector is deleted twice: the second time it is not found. -/
theorem retriedDeletion_notFound :
    ¬ ∀ (server : AdminServer) (docs : AdminDocs) (before between : List ServedRequest)
    (call : AdminCall)
      (first retry : AdminHandling) (response : AdminResponse), first.Works → retry.Works →
      (server.machine.step (server.machine.run ⟨docs, .empty⟩ before) (.mutation call first)).2 =
        some (.committed response) →
      (∀ request ∈ between, ∀ began, request.began? = some began → began ≤ retry.began) →
      retry.began < first.ended + server.idempotency.ttlSeconds →
      (server.machine.step
        (server.machine.run (server.machine.next (server.machine.run ⟨docs, .empty⟩ before)
        (.mutation call first)) between) (.mutation call retry)).2.map MutationReply.response =
          some response := by
  intro h
  have hdeleted : ((mockServer.machine.step withShop (.mutation deleteCrm (handledAt 1))).2.bind
      MutationReply.committed?).map AdminResponse.status = some 200 := by
    decide +kernel
  obtain ⟨response, hresponse, hstatus⟩ := Option.map_eq_some_iff.1 hdeleted
  have hagain := h mockServer ⟨.empty, .empty⟩ [.mutation createShop (handledAt 0)]
    [] deleteCrm (handledAt 1)
    (handledAt 2) response (works_handledAt 1) (works_handledAt 2)
    (committed_of_committed? hresponse) (fun _ hrequest => by cases hrequest) (by decide +kernel)
  have hnotFound :
    ((mockServer.machine.step (mockServer.machine.next withShop (.mutation deleteCrm (handledAt 1)))
      (.mutation deleteCrm (handledAt 2))).2.map MutationReply.response).map AdminResponse.status =
        some 404 := by
    decide +kernel
  have hsame := hnotFound.symm.trans (congrArg (Option.map AdminResponse.status) hagain)
  rw [Option.map_some, hstatus] at hsame
  exact absurd hsame (by decide)

end Ekaette
