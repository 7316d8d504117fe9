import Ekaette.At.Idempotency
import Ekaette.Lib.PyStr

set_option autoImplicit false

/-! # Isolation of idempotency entries

Two questions about `app/api/v1/at/idempotency.py` that compare requests with each other. Does the
decision about a key depend on the other keys of the store? It does through the pruning, which runs
on a crowded store only and drops what the decision itself never looks at: the expiry of a recorded
response. And do requests with different keys have different entries? The store key joins its parts
with colons, and a tenant may contain one. -/

namespace Ekaette

variable {Payload β : Type}

/-! ## A decision and the other keys -/

/-- What `idempotency_preflight` decides from the entry of the key it finds after pruning. -/
def decisionOn (fp : String) (now : ℚ) : Option (IdempotencyEntry β) → PreflightDecision β
  | none => .proceed
  | some existing =>
    if existing.fingerprint ≠ fp then .conflict "Idempotency key reused with different payload"
    else match existing.state with
      | .pending =>
        if now > existing.expiresAt then .proceed
        else .conflict "Request is still being processed"
      | .done body => .replay body

theorem idempotencyPreflight_decision (storeKey fp : String) (now : ℚ)
    (store : IdempotencyStore β) :
    (idempotencyPreflight storeKey fp now store).2
      = decisionOn fp now ((pruneExpired now store).get? storeKey) := by
  unfold idempotencyPreflight
  generalize pruneExpired now store = pruned
  cases hget : pruned.get? storeKey with
  | none => simp [hget, decisionOn]
  | some existing =>
    by_cases hfp : existing.fingerprint = fp
    · cases hstate : existing.state with
      | pending =>
        by_cases hstale : now > existing.expiresAt
        · simp [hget, decisionOn, hfp, hstate, hstale]
        · simp [hget, decisionOn, hfp, hstate, hstale]
      | done body => simp [hget, decisionOn, hfp, hstate]
    · simp [hget, decisionOn, hfp]

theorem get?_pruneExpired (now : ℚ) (store : IdempotencyStore β) (storeKey : String) :
    (pruneExpired now store).get? storeKey
      = if store.size > 100 then
          (store.get? storeKey).filter (fun entry => !decide (now > entry.expiresAt))
        else store.get? storeKey := by
  unfold pruneExpired
  split
  · rw [Dict.get?_filter]
  · rfl

/-- The expiry of an entry that the decision itself overlooks: a recorded response is replayed, and
    another payload's entry is a conflict, for however long the entry stays in the store. -/
def ExpiredUnseen (fp : String) (now : ℚ) (entry : IdempotencyEntry β) : Prop :=
  entry.expiresAt < now ∧ ¬ (entry.fingerprint = fp ∧ entry.state = .pending)

theorem decisionOn_some_eq_none_iff (fp : String) (now : ℚ) (entry : IdempotencyEntry β) :
    decisionOn fp now (some entry) = decisionOn fp now none ↔
      entry.fingerprint = fp ∧ entry.state = .pending ∧ entry.expiresAt < now := by
  by_cases hfp : entry.fingerprint = fp
  · cases hstate : entry.state with
    | pending =>
      by_cases hstale : entry.expiresAt < now
      · simp [decisionOn, hfp, hstate, hstale]
      · simp [decisionOn, hfp, hstate, hstale]
    | done body => simp [decisionOn, hfp, hstate]
  · simp [decisionOn, hfp]

theorem decisionOn_filter_eq_iff (fp : String) (now : ℚ) (found : Option (IdempotencyEntry β)) :
    decisionOn fp now (found.filter (fun entry => !decide (now > entry.expiresAt)))
        = decisionOn fp now found ↔
      ¬ ∃ entry, found = some entry ∧ ExpiredUnseen fp now entry := by
  cases found with
  | none => simp
  | some entry =>
    by_cases hexpired : entry.expiresAt < now
    · rw [Option.filter_some_neg (by simpa using hexpired), eq_comm,
        decisionOn_some_eq_none_iff]
      simp [ExpiredUnseen, hexpired]
    · rw [Option.filter_some_pos (by simpa using hexpired)]
      simp [ExpiredUnseen, hexpired]

/-- One of the stores is crowded, the other is not, and the key's entry has expired in a way the
    decision overlooks. -/
def PruningDecides (storeKey fp : String) (now : ℚ) (store store' : IdempotencyStore β) : Prop :=
  (∃ entry, store.get? storeKey = some entry ∧ ExpiredUnseen fp now entry) ∧
    ¬ (store.size > 100 ↔ store'.size > 100)

/-- **Independence of the other keys.** Stores that agree on the entry of a key decide alike about
    it exactly if pruning does not decide. -/
theorem preflight_independent_iff (fingerprint : Fingerprint Payload) (key : IdempotencyKey)
    (payload : Payload) (now : ℚ) (store store' : IdempotencyStore β)
    (hagree : store.get? key.storeKey = store'.get? key.storeKey) :
    (idempotencyPreflight key.storeKey (fingerprint.of payload) now store).2
        = (idempotencyPreflight key.storeKey (fingerprint.of payload) now store').2 ↔
      ¬ PruningDecides key.storeKey (fingerprint.of payload) now store store' := by
  have hfilter := decisionOn_filter_eq_iff (fingerprint.of payload) now (store.get? key.storeKey)
  simp only [idempotencyPreflight_decision, get?_pruneExpired, ← hagree, PruningDecides]
  by_cases hsize : store.size > 100
  · by_cases hsize' : store'.size > 100
    · simp [hsize, hsize']
    · rw [if_pos hsize, if_neg hsize', hfilter]
      simp [hsize, hsize']
  · by_cases hsize' : store'.size > 100
    · rw [if_neg hsize, if_pos hsize', eq_comm, hfilter]
      simp [hsize, hsize']
    · simp [hsize, hsize']

/-- The recorded response of the payload `1`, as the commit at second 1 leaves it. -/
def responseOne : IdempotencyEntry (Produced String) :=
  ⟨amountFingerprint.of (amountPayload "1"),
    .done ⟨Dict.ofList [("status", .str "ok")], amountPayload "1"⟩, 3601⟩

/-- One request, and its response. -/
def oneResponseRun : List (IdempotencyEvent String (Produced String)) :=
  [.preflight (initializeKey "k") (amountPayload "1") 0, commitOne 1]

/-- The same request among the claims of a hundred others. -/
def crowdedResponseRun : List (IdempotencyEvent String (Produced String)) :=
  crowd.map (fun key => .preflight key (amountPayload "1") 0) ++ [commitOne 1]

theorem get?_oneResponseRun :
    ((idempotencyMachine amountFingerprint).run .empty oneResponseRun).get?
        (initializeKey "k").storeKey = some responseOne := by
  have hfree : (pruneExpired 0 (.empty : IdempotencyStore (Produced String))).get?
      (initializeKey "k").storeKey = none := by
    simp [get?_pruneExpired]
  rw [oneResponseRun, commitOne, EventMachine.run_cons, EventMachine.run_cons,
    EventMachine.run_nil, idempotencyMachine_preflight, idempotencyMachine_commit,
    get?_commit_after_claim _ _ _ hfree, responseOne]
  norm_num [IDEMPOTENCY_TTL_SECONDS]

theorem crowd_claimed :
    ((idempotencyMachine amountFingerprint).run (.empty : IdempotencyStore (Produced String))
        (crowd.map (fun key => .preflight key (amountPayload "1") 0))).entries
      = crowd.map (fun key =>
          (key.storeKey, pendingEntry (amountFingerprint.of (amountPayload "1")) 0)) := by
  rw [run_claims_entries amountFingerprint (amountPayload "1") 0 crowd crowd_nodup .empty
    (by simp [Dict.empty]) (by simp [Dict.empty, Dict.keys])]
  simp [Dict.empty]

theorem initializeKey_mem_crowd : initializeKey "k" ∈ crowd := by
  rw [crowd, List.mem_map]
  exact ⟨0, by simp, by rfl⟩

theorem get?_crowdedResponseRun :
    ((idempotencyMachine amountFingerprint).run .empty crowdedResponseRun).get?
        (initializeKey "k").storeKey = some responseOne ∧
      ((idempotencyMachine amountFingerprint).run .empty crowdedResponseRun).size > 100 := by
  have hentries := crowd_claimed
  rw [crowdedResponseRun, EventMachine.run_append]
  generalize (idempotencyMachine amountFingerprint).run .empty
    (crowd.map (fun key => .preflight key (amountPayload "1") 0)) = store at hentries
  have hlease : store.get? (initializeKey "k").storeKey
      = some (pendingEntry (amountFingerprint.of (amountPayload "1")) 0) := by
    rw [Dict.get?_eq_some_iff, hentries, List.mem_map]
    exact ⟨initializeKey "k", initializeKey_mem_crowd, rfl⟩
  have hmem : (initializeKey "k").storeKey ∈ store.keys := by
    rw [Dict.mem_keys_iff, hlease]
    rfl
  rw [commitOne, EventMachine.run_cons, EventMachine.run_nil, idempotencyMachine_commit,
    idempotencyCommit]
  refine ⟨?_, ?_⟩
  · rw [Dict.get?_set_self, hlease, responseOne]
    norm_num [IDEMPOTENCY_TTL_SECONDS, pendingEntry]
  · rw [Dict.size_set_of_mem _ _ hmem, Dict.size, hentries]
    simp [crowd]

/-- The retry an hour later is replayed from the small store and runs again on the crowded one,
    though both hold the same response under its key. -/
theorem retry_replayed_or_run :
    let lone := (idempotencyMachine amountFingerprint).run .empty oneResponseRun
    let crowded := (idempotencyMachine amountFingerprint).run .empty crowdedResponseRun
    let retry (store : IdempotencyStore (Produced String)) :=
      (idempotencyPreflight (initializeKey "k").storeKey
        (amountFingerprint.of (amountPayload "1")) 4000 store).2
    lone.get? (initializeKey "k").storeKey = crowded.get? (initializeKey "k").storeKey ∧
      retry lone ≠ retry crowded := by
  intro lone crowded retry
  have hlone : lone.get? (initializeKey "k").storeKey = some responseOne := get?_oneResponseRun
  have hcrowded : crowded.get? (initializeKey "k").storeKey = some responseOne :=
    get?_crowdedResponseRun.1
  have hsize : crowded.size > 100 := get?_crowdedResponseRun.2
  have hsmall : ¬ lone.size > 100 := by
    have hone : lone.size = 1 := by decide +kernel
    omega
  -- the small store is not pruned, so the response is still there
  have hreplay : retry lone ≠ .proceed := by
    simp only [retry, idempotencyPreflight_decision, get?_pruneExpired, if_neg hsmall, hlone,
      decisionOn, responseOne]
    simp
  have hproceed : retry crowded = .proceed := by
    simp only [retry, idempotencyPreflight_decision, get?_pruneExpired, if_pos hsize, hcrowded]
    rw [Option.filter_some_neg (by norm_num [responseOne])]
    rfl
  exact ⟨hlone.trans hcrowded.symm, fun h => hreplay (h.trans hproceed)⟩

/-- Within the hour both stores replay the response. -/
theorem retry_replayed_alike :
    let lone := (idempotencyMachine amountFingerprint).run .empty oneResponseRun
    let crowded := (idempotencyMachine amountFingerprint).run .empty crowdedResponseRun
    (idempotencyPreflight (initializeKey "k").storeKey
        (amountFingerprint.of (amountPayload "1")) 1000 lone).2
      = (idempotencyPreflight (initializeKey "k").storeKey
        (amountFingerprint.of (amountPayload "1")) 1000 crowded).2 := by
  intro lone crowded
  have hlone : lone.get? (initializeKey "k").storeKey = some responseOne := get?_oneResponseRun
  refine (preflight_independent_iff amountFingerprint (initializeKey "k") (amountPayload "1") 1000
    lone crowded (hlone.trans get?_crowdedResponseRun.1.symm)).2 ?_
  rintro ⟨⟨entry, hentry, hexpired, -⟩, -⟩
  rw [hlone, Option.some.injEq] at hentry
  subst hentry
  norm_num [responseOne] at hexpired

/-! ## The entries of different requests -/

/-- The endpoints that take an idempotency key. -/
inductive IdempotentEndpoint where
  | paystackInitialize
  | paystackVirtualAccountCreate
  | outboundCall
  | voiceCampaign
  | voiceTransfer
  deriving DecidableEq

def IdempotentEndpoint.scope : IdempotentEndpoint → String
  | .paystackInitialize => "paystack_initialize"
  | .paystackVirtualAccountCreate => "paystack_virtual_account_create"
  | .outboundCall => "at_voice_call"
  | .voiceCampaign => "at_voice_campaign"
  | .voiceTransfer => "at_voice_transfer"

/-- An `HTTPException`. -/
structure HttpException where
  statusCode : ℕ
  detail : String
  deriving DecidableEq

/-- `require_idempotency_key`, on the value of the `Idempotency-Key` header. -/
def requireIdempotencyKey (header : Option String) : Except HttpException String :=
  let key := PyStr.strip (header.getD "")
  if key = "" then .error ⟨400, "Idempotency-Key header is required"⟩
  else if key.length > 256 then .error ⟨400, "Idempotency-Key too long (max 256 chars)"⟩
  else .ok key

/-- What the endpoints read of a request: the `tenant_id` of its body, any string by the request
    models, which default it, and the header. -/
structure IdempotentRequest where
  endpoint : IdempotentEndpoint
  tenantId : String
  idempotencyKeyHeader : Option String

/-- The triple an endpoint passes on. A transfer has no tenant of its own. -/
def IdempotentRequest.key (r : IdempotentRequest) : Except HttpException IdempotencyKey :=
  (requireIdempotencyKey r.idempotencyKeyHeader).map (fun idempotencyKey =>
    { scope := r.endpoint.scope
      tenantId := if r.endpoint = .voiceTransfer then "public" else r.tenantId
      idempotencyKey })

theorem IdempotentEndpoint.colon_not_mem_scope (endpoint : IdempotentEndpoint) :
    ':' ∉ endpoint.scope.toList := by
  cases endpoint with
  | paystackInitialize => decide
  | paystackVirtualAccountCreate => decide
  | outboundCall => decide
  | voiceCampaign => decide
  | voiceTransfer => decide

theorem IdempotentRequest.colon_not_mem_scope {r : IdempotentRequest} {k : IdempotencyKey}
    (h : r.key = .ok k) : ':' ∉ k.scope.toList := by
  unfold IdempotentRequest.key at h
  cases hkey : requireIdempotencyKey r.idempotencyKeyHeader with
  | error e => simp [hkey, Except.map] at h
  | ok idempotencyKey =>
    rw [hkey, Except.map, Except.ok.injEq] at h
    subst h
    exact r.endpoint.colon_not_mem_scope

variable (k k' : IdempotencyKey)

/-- Neither request ever reads or writes the other's entry: they have different ones, and each
    call of one leaves the entry of the other as it was (a preflight prunes, as always). -/
def Isolated : Prop :=
  k.storeKey ≠ k'.storeKey ∧
    ∀ (store : IdempotencyStore Record) (fp : String) (body : Record) (now : ℚ),
      (idempotencyCommit k.storeKey body now store).get? k'.storeKey = store.get? k'.storeKey ∧
      (idempotencyPreflight k.storeKey fp now store).1.get? k'.storeKey
        = (pruneExpired now store).get? k'.storeKey

/-- The tenant of `k` is the tenant of `k'` and more, and what is more stands, behind a colon, at
    the head of the key of `k'`. -/
def Shifted : Prop :=
  k.scope = k'.scope ∧ ∃ more, k.tenantId = k'.tenantId ++ ":" ++ more ∧
    k'.idempotencyKey = more ++ ":" ++ k.idempotencyKey

theorem Shifted.tenant_length_lt {k k' : IdempotencyKey} (h : Shifted k k') :
    k'.tenantId.length < k.tenantId.length := by
  obtain ⟨-, more, htenant, -⟩ := h
  have hcolon : ":".length = 1 := by decide
  rw [htenant, String.length_append, String.length_append, hcolon]
  omega

theorem IdempotencyKey.toList_storeKey (k : IdempotencyKey) :
    k.storeKey.toList = 'a' :: 't' :: ':' :: (k.scope.toList ++ ':' ::
      (k.tenantId.toList ++ ':' :: k.idempotencyKey.toList)) := by
  simp [IdempotencyKey.storeKey, String.toList_append]

theorem shifted_iff_toList :
    Shifted k k' ↔ k.scope = k'.scope ∧ ∃ more : List Char,
      k.tenantId.toList = k'.tenantId.toList ++ ':' :: more ∧
        k'.idempotencyKey.toList = more ++ ':' :: k.idempotencyKey.toList := by
  refine and_congr_right (fun _ => ⟨?_, ?_⟩)
  · rintro ⟨more, htenant, hkey⟩
    refine ⟨more.toList, ?_, ?_⟩
    · simp [htenant, String.toList_append]
    · simp [hkey, String.toList_append]
  · rintro ⟨more, htenant, hkey⟩
    refine ⟨String.ofList more, ?_, ?_⟩
    · rw [← String.toList_inj]
      simp [htenant, String.toList_append]
    · rw [← String.toList_inj]
      simp [hkey, String.toList_append]

/-- The colons of the store key are read in two ways exactly by shifted triples. -/
theorem storeKey_eq_iff {k k' : IdempotencyKey} (hscope : ':' ∉ k.scope.toList)
    (hscope' : ':' ∉ k'.scope.toList) :
    k.storeKey = k'.storeKey ↔ k = k' ∨ Shifted k k' ∨ Shifted k' k := by
  have hparts : k.scope.toList ++ ':' :: (k.tenantId.toList ++ ':' :: k.idempotencyKey.toList)
        = k'.scope.toList ++ ':' :: (k'.tenantId.toList ++ ':' :: k'.idempotencyKey.toList) ↔
      k.scope = k'.scope ∧ k.tenantId.toList ++ ':' :: k.idempotencyKey.toList
        = k'.tenantId.toList ++ ':' :: k'.idempotencyKey.toList := by
    rw [PyStr.append_separator_eq_iff, String.toList_inj]
    constructor
    · -- no scope has a colon
      rintro (h | ⟨m, h, -⟩ | ⟨m, h, -⟩)
      · exact h
      · exact absurd (by simp [h]) hscope
      · exact absurd (by simp [h]) hscope'
    · exact .inl
  rw [← String.toList_inj, k.toList_storeKey, k'.toList_storeKey]
  simp only [List.cons.injEq, true_and]
  rw [hparts, PyStr.append_separator_eq_iff, shifted_iff_toList, shifted_iff_toList]
  constructor
  · rintro ⟨hs, ⟨ht, hk⟩ | h | h⟩
    · obtain ⟨scope, tenantId, idempotencyKey⟩ := k
      obtain ⟨scope', tenantId', idempotencyKey'⟩ := k'
      rw [String.toList_inj] at ht hk
      obtain rfl : scope = scope' := hs
      obtain rfl : tenantId = tenantId' := ht
      obtain rfl : idempotencyKey = idempotencyKey' := hk
      exact .inl rfl
    · exact .inr (.inl ⟨hs, h⟩)
    · exact .inr (.inr ⟨hs.symm, h⟩)
  · rintro (rfl | ⟨hs, h⟩ | ⟨hs, h⟩)
    · exact ⟨rfl, .inl ⟨rfl, rfl⟩⟩
    · exact ⟨hs, .inr (.inl h)⟩
    · exact ⟨hs.symm, .inr (.inr h)⟩

theorem isolated_iff_storeKey_ne :
    Isolated k k' ↔ k.storeKey ≠ k'.storeKey := by
  refine ⟨And.left, fun hne => ⟨hne, fun store fp body now => ⟨?_, ?_⟩⟩⟩
  · rw [idempotencyCommit, Dict.get?_set_of_ne _ _ hne.symm]
  · rcases idempotencyPreflight_cases k.storeKey fp now store with ⟨-, hnext, -⟩ | ⟨-, hnext, -⟩
    · rw [hnext, Dict.get?_set_of_ne _ _ hne.symm]
    · rw [hnext]

/-- **Isolation of requests.** Two admitted requests with different triples have entries of their
    own exactly if neither triple is the other one shifted across a colon. -/
theorem requests_isolated_iff {r r' : IdempotentRequest} {k k' : IdempotencyKey}
    (hr : r.key = .ok k) (hr' : r'.key = .ok k') (hne : k ≠ k') :
    Isolated k k' ↔ ¬ (Shifted k k' ∨ Shifted k' k) := by
  rw [isolated_iff_storeKey_ne, Ne,
    storeKey_eq_iff (IdempotentRequest.colon_not_mem_scope hr)
      (IdempotentRequest.colon_not_mem_scope hr')]
  simp [hne]

/-- The tenant `a` with the key `b:c`. -/
def plainTenantRequest : IdempotentRequest := ⟨.paystackInitialize, "a", some "b:c"⟩

/-- The tenant `a:b` with the key `c`. -/
def colonTenantRequest : IdempotentRequest := ⟨.paystackInitialize, "a:b", some "c"⟩

/-- Both are admitted, with different triples, and the other one finds the entry of the one: with a
    payload of its own, as the tenant in it makes it, it is turned away. -/
theorem colonTenant_not_isolated :
    ∃ k k', plainTenantRequest.key = .ok k ∧ colonTenantRequest.key = .ok k' ∧ k ≠ k' ∧
      ¬ Isolated k k' ∧
      ∀ (fp fp' : String) (body : Record),
        (idempotencyPreflight k'.storeKey fp' 2 (idempotencyCommit k.storeKey body 1
          (idempotencyPreflight k.storeKey fp 0 .empty).1)).2 =
          if fp = fp' then .replay body
          else .conflict "Idempotency key reused with different payload" := by
  refine ⟨⟨"paystack_initialize", "a", "b:c"⟩, ⟨"paystack_initialize", "a:b", "c"⟩, ?_, ?_, ?_, ?_,
    ?_⟩
  · rfl
  · rfl
  · simp
  · intro h
    exact h.1 (by decide)
  · intro fp fp' body
    have hkey : (IdempotencyKey.mk "paystack_initialize" "a:b" "c").storeKey
        = (IdempotencyKey.mk "paystack_initialize" "a" "b:c").storeKey := by decide
    have hfree : (pruneExpired 0 (.empty : IdempotencyStore Record)).get?
        (IdempotencyKey.mk "paystack_initialize" "a" "b:c").storeKey = none := by
      simp [get?_pruneExpired]
    have hdone := get?_commit_after_claim fp 1 body hfree
    rw [hkey, idempotencyPreflight_decision,
      get?_pruneExpired_of_live hdone (by norm_num [IDEMPOTENCY_TTL_SECONDS])]
    by_cases hfp : fp = fp'
    · simp [decisionOn, hfp]
    · simp [decisionOn, hfp]

/-- Without a colon in it, the tenant keeps its requests apart from everyone's. -/
theorem otherTenant_isolated :
    Isolated ⟨"paystack_initialize", "a", "b:c"⟩ ⟨"paystack_initialize", "b", "b:c"⟩ := by
  have hplain : plainTenantRequest.key = .ok ⟨"paystack_initialize", "a", "b:c"⟩ := rfl
  have hother : (IdempotentRequest.mk .paystackInitialize "b" (some "b:c")).key
      = .ok ⟨"paystack_initialize", "b", "b:c"⟩ := rfl
  refine (requests_isolated_iff hplain hother (by simp)).2 ?_
  rintro (hshifted | hshifted)
  · exact absurd hshifted.tenant_length_lt (by decide)
  · exact absurd hshifted.tenant_length_lt (by decide)

end Ekaette
