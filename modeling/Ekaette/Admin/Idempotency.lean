import Ekaette.Lib.Lockstep
import Ekaette.Lib.PyStr

set_option autoImplicit false

/-! # Idempotency of the admin endpoints

`app/api/v1/admin/idempotency.py`. An admin request claims its key in a preflight, runs when it is
told to, and commits its response. Entries are kept in memory, where the expired ones are pruned
before each lookup, or in Firestore, where an expired document is found and rejected.

Response bodies are opaque to this code (`β`). The fields of a document that are written and never
read (`scope`, `tenant_id`, `idempotency_key`, `created_at_epoch`, `updated_at_epoch`) are left
out. -/

namespace Ekaette

variable {Payload β : Type}

/-! ## Data -/

/-- The settings, the digests of `hashlib`, and how Firestore merges a map into a stored one. -/
structure AdminIdempotency (Payload β : Type) where
  ttlSeconds : ℤ
  pendingTtlSeconds : ℤ
  /-- `_idempotency_fingerprint` -/
  fingerprint : Payload → String
  /-- the hexadecimal SHA-256 digest of a string -/
  sha256Hex : String → String
  emptyBody : β
  mergeBody : β → β → β
  mergeBody_empty : ∀ body, mergeBody emptyBody body = body

inductive AdminEntryState where
  | pending
  | done
  deriving DecidableEq

/-- An entry of the store, or a document of the entries collection. -/
structure AdminEntry (β : Type) where
  fingerprint : String
  state : AdminEntryState
  statusCode : ℤ
  body : β
  expiresAt : ℚ

abbrev AdminStore (β : Type) := Dict String (AdminEntry β)

/-- What identifies an idempotent admin request. -/
structure AdminKey where
  scope : String
  tenantId : String
  idempotencyKey : String

/-- The key of the entry. -/
def AdminKey.storeKey (k : AdminKey) : String :=
  k.scope ++ ":" ++ k.tenantId ++ ":" ++ PyStr.strip k.idempotencyKey

/-- The requests that are turned away. -/
inductive AdminRejection where
  | keyRequired
  | reusedWithDifferentPayload
  | expired
  | stalePending
  | inProgress
  deriving DecidableEq

def AdminRejection.status : AdminRejection → ℕ
  | .keyRequired => 400
  | _ => 409

def AdminRejection.code : AdminRejection → String
  | .keyRequired => "IDEMPOTENCY_KEY_REQUIRED"
  | .reusedWithDifferentPayload => "IDEMPOTENCY_KEY_REUSED_WITH_DIFFERENT_PAYLOAD"
  | .expired => "IDEMPOTENCY_KEY_EXPIRED"
  | .stalePending => "IDEMPOTENCY_KEY_STALE_PENDING"
  | .inProgress => "IDEMPOTENCY_KEY_IN_PROGRESS"

def AdminRejection.error : AdminRejection → String
  | .keyRequired => "Missing required header: Idempotency-Key"
  | .reusedWithDifferentPayload => "Idempotency key already used with different payload"
  | .expired => "Idempotency key expired; retry with a new key"
  | .stalePending => "Idempotency key is stale and no longer claimable"
  | .inProgress => "Idempotency request with same key is still in progress"

/-- The outcome of a preflight: the key and the fingerprint to commit with, a recorded response, or
    a rejection. -/
inductive AdminDecision (β : Type) where
  | execute (idempotencyKey fingerprint : String)
  | replay (statusCode : ℤ) (body : β)
  | rejected (rejection : AdminRejection)

/-- `_idempotency_key_dependency`, on the value of the header. -/
def idempotencyKeyDependency (header : Option String) : Except AdminRejection String :=
  let idempotencyKey := PyStr.strip (header.getD "")
  if idempotencyKey = "" then .error .keyRequired else .ok idempotencyKey

variable (cfg : AdminIdempotency Payload β)

/-- What a claim stores. -/
def AdminIdempotency.pendingRecord (fingerprint : String) (now : ℚ) : AdminEntry β :=
  ⟨fingerprint, .pending, 0, cfg.emptyBody, now + cfg.pendingTtlSeconds⟩

/-- What a commit stores. -/
def AdminIdempotency.doneRecord (fingerprint : String) (statusCode : ℤ) (body : β) (now : ℚ) :
    AdminEntry β :=
  ⟨fingerprint, .done, statusCode, body, now + cfg.ttlSeconds⟩

/-! ## The store in memory -/

/-- `_idempotency_prune`. -/
def idempotencyPrune (now : ℚ) (store : AdminStore β) : AdminStore β :=
  store.filter (fun _ entry => !decide (entry.expiresAt ≤ now))

variable (key : AdminKey)

/-- `_idempotency_memory_begin_with_key`. -/
def memoryBeginWithKey (payload : Payload) (now : ℚ) (store : AdminStore β) :
    AdminStore β × AdminDecision β :=
  let store := idempotencyPrune now store
  match store.get? key.storeKey with
  | some cached =>
    if cached.fingerprint ≠ cfg.fingerprint payload then
      (store, .rejected .reusedWithDifferentPayload)
    else match cached.state with
      | .pending => (store, .rejected .inProgress)
      | .done => (store, .replay cached.statusCode cached.body)
  | none =>
    (store.set key.storeKey (cfg.pendingRecord (cfg.fingerprint payload) now),
      .execute key.idempotencyKey (cfg.fingerprint payload))

/-- `_idempotency_memory_record`. -/
def memoryRecord (fingerprint : String) (statusCode : ℤ) (body : β) (now : ℚ)
    (store : AdminStore β) : AdminStore β :=
  store.set key.storeKey (cfg.doneRecord fingerprint statusCode body now)

/-! ## The store in Firestore -/

/-- The id of the document of a key. -/
def AdminIdempotency.docId : String := cfg.sha256Hex key.storeKey

/-- What a preflight makes of the document that its `create` ran into. -/
def AdminIdempotency.decideOnDoc (payload : Payload) (now : ℚ) (entry : AdminEntry β) :
    AdminDecision β :=
  if entry.fingerprint ≠ cfg.fingerprint payload then .rejected .reusedWithDifferentPayload
  else match entry.state with
    | .done =>
      if entry.expiresAt > now then .replay entry.statusCode entry.body else .rejected .expired
    | .pending => if entry.expiresAt ≤ now then .rejected .stalePending else .rejected .inProgress

/-- `_idempotency_firestore_begin_with_key` when every access to Firestore succeeds. -/
def firestoreBeginWithKey (payload : Payload) (now : ℚ) (docs : AdminStore β) :
    AdminStore β × AdminDecision β :=
  match docs.get? (cfg.docId key) with
  | none =>
    (docs.set (cfg.docId key) (cfg.pendingRecord (cfg.fingerprint payload) now),
      .execute key.idempotencyKey (cfg.fingerprint payload))
  | some entry => (docs, cfg.decideOnDoc payload now entry)

/-- The document after `set(record, merge=True)`: only the body is a map, and merged as one. -/
def AdminIdempotency.mergeDoc (record : AdminEntry β) : Option (AdminEntry β) → AdminEntry β
  | none => record
  | some entry => { record with body := cfg.mergeBody entry.body record.body }

/-- `_idempotency_firestore_record` when its access to Firestore succeeds. -/
def firestoreRecord (fingerprint : String) (statusCode : ℤ) (body : β) (now : ℚ)
    (docs : AdminStore β) : AdminStore β :=
  docs.set (cfg.docId key)
    (cfg.mergeDoc (cfg.doneRecord fingerprint statusCode body now) (docs.get? (cfg.docId key)))

variable {cfg} in
/-- A document that is in the way is never executed. -/
theorem decideOnDoc_ne_execute (payload : Payload) (now : ℚ) (entry : AdminEntry β)
    (idempotencyKey fingerprint : String) :
    cfg.decideOnDoc payload now entry ≠ .execute idempotencyKey fingerprint := by
  unfold AdminIdempotency.decideOnDoc
  by_cases hfp : entry.fingerprint ≠ cfg.fingerprint payload
  · rw [if_pos hfp]
    simp
  · rw [if_neg hfp]
    cases entry.state with
    | done =>
      dsimp only
      split_ifs <;> simp
    | pending =>
      dsimp only
      split_ifs <;> simp

/-- The settings' defaults; keys and payloads are their own digests, and bodies have no maps in
    them. -/
def defaultAdminIdempotency : AdminIdempotency String Record where
  ttlSeconds := 86400
  pendingTtlSeconds := 120
  fingerprint := id
  sha256Hex := id
  emptyBody := .empty
  mergeBody := Dict.merge
  mergeBody_empty := Dict.ofList_entries

end Ekaette
