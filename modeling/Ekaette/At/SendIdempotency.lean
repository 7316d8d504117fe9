import Ekaette.Lib.EventMachine
import Ekaette.Lib.PyValue
import Mathlib.Tactic.Linarith

set_option autoImplicit false

/-! # Idempotent sends in one process

`send_with_idempotency` of `at/service_whatsapp.py` without Firestore. The first call of a key owns
its send and a future; calls with the same payload that come while the send runs wait for the
future, then read the stored result. A call runs up to its next `await` in one step, and can be
cancelled there. -/

namespace Ekaette

/-- What a send function returns: a status and a body. -/
abbrev SendResult := ℤ × PyValue

/-- The answer to a key that is used with another payload. -/
def conflictResult : SendResult := (409, .dict [("error", .str "Idempotency key conflict")])

structure SendConfig where
  /-- `WA_SEND_IDEMPOTENCY_TTL_HOURS` -/
  ttlHours : ℤ
  /-- `hashlib.sha256(key.encode()).hexdigest()` -/
  sha256Hex : String → String

/-- `_idempotency_ttl_seconds`. -/
def SendConfig.ttlSeconds (cfg : SendConfig) : ℚ := max (cfg.ttlHours * 3600) 0

/-- `_IDEMPOTENCY_MAX_ENTRIES`. -/
@[irreducible] def IDEMPOTENCY_MAX_ENTRIES : ℕ := 50000

/-! ## The store -/

/-- An entry of `_idempotency_store`. -/
structure StoredResult where
  payloadHash : String
  result : SendResult
  storedAt : ℚ

abbrev ResultStore := Dict String StoredResult

/-- The keys of the `n` oldest results. -/
def oldestKeys (store : ResultStore) (n : ℕ) : List String :=
  ((store.entries.mergeSort (fun a b => decide (a.2.storedAt ≤ b.2.storedAt))).map Prod.fst).take n

/-- `_evict_idempotency_store`. -/
def evictIdempotencyStore (ttl now : ℚ) (store : ResultStore) : ResultStore :=
  let live := store.filter (fun _ r => !decide (r.storedAt < now - ttl))
  live.eraseAll (oldestKeys live (live.size - IDEMPOTENCY_MAX_ENTRIES))

/-- `_get_cached_idempotency_result`, with the store after it. -/
def getCachedIdempotencyResult (ttl now : ℚ) (keyHash payloadHash : String) (store : ResultStore) :
    ResultStore × Option SendResult :=
  match store.get? keyHash with
  | none => (store, none)
  | some record =>
    if now - record.storedAt ≥ ttl then (store.erase keyHash, none)
    else if record.payloadHash ≠ payloadHash then (store, some conflictResult)
    else (store, some record.result)

/-- Eviction and lookup, which always come together. -/
def evictAndGet (ttl now : ℚ) (keyHash payloadHash : String) (store : ResultStore) :
    ResultStore × Option SendResult :=
  getCachedIdempotencyResult ttl now keyHash payloadHash (evictIdempotencyStore ttl now store)

/-! ## The calls -/

/-- What resolved a future. -/
inductive FutureOutcome where
  | result (r : SendResult)
  | exception (error : String)

/-- The `await` a call is at. -/
inductive SendAwait where
  /-- `await send_fn()`, in the call that owns the key -/
  | send
  /-- `await asyncio.shield(future)`, the future of the owner with that number -/
  | future (owner : ℕ)
  deriving DecidableEq

structure SendCall where
  keyHash : String
  payloadHash : String
  awaiting : SendAwait
  deriving DecidableEq

structure SendState where
  /-- `_idempotency_store` -/
  store : ResultStore
  /-- `_idempotency_inflight`: a payload hash and the number of the call that owns the future -/
  inflight : Dict String (String × ℕ)
  /-- the futures that are resolved, by the number of their owner -/
  resolved : Dict ℕ FutureOutcome
  /-- the calls that have not returned -/
  calls : Dict ℕ SendCall
  /-- the number of the next call -/
  nextCall : ℕ

def SendState.start : SendState := ⟨.empty, .empty, .empty, .empty, 0⟩

inductive SendEvent where
  /-- A call of `send_with_idempotency`. -/
  | call (idempotencyKey payloadHash : String)
  /-- `send_fn` of a call returns. -/
  | sendReturns (call : ℕ) (r : SendResult)
  /-- `send_fn` of a call raises. -/
  | sendRaises (call : ℕ) (error : String)
  /-- A waiting call whose future is resolved goes on. -/
  | wake (call : ℕ)
  /-- A call is cancelled at its `await`. -/
  | cancel (call : ℕ)

inductive SendAnswer where
  | ignored
  /-- the call awaits its send or a future -/
  | suspended
  /-- the send function of the call has returned, and the call returns its result -/
  | sent (keyHash payloadHash : String) (r : SendResult)
  /-- the call returns without a send of its own -/
  | returned (keyHash payloadHash : String) (r : SendResult)
  | raised
  | cancelled

/-- The `finally` block: the call leaves `_idempotency_inflight` if its own future is there. -/
def SendState.leave (s : SendState) (call : ℕ) (keyHash : String) : SendState :=
  let inflight := match s.inflight.get? keyHash with
    | none => s.inflight
    | some current => if current.2 = call then s.inflight.erase keyHash else s.inflight
  { s with inflight, calls := s.calls.erase call }

/-- `future.set_result` and `future.set_exception`, for a future that is not done. -/
def SendState.resolve (s : SendState) (call : ℕ) (outcome : FutureOutcome) : SendState :=
  if s.resolved.contains call then s else { s with resolved := s.resolved.set call outcome }

/-- `send_with_idempotency` after its lookup, up to the first `await`. -/
def SendState.beginWith (s : SendState) (keyHash payloadHash : String) :
    ResultStore × Option SendResult → SendState × SendAnswer
  | (store, some r) => ({ s with store }, .returned keyHash payloadHash r)
  | (store, none) =>
    match s.inflight.get? keyHash with
    | none =>
      ({ s with
          store
          inflight := s.inflight.set keyHash (payloadHash, s.nextCall)
          calls := s.calls.set s.nextCall ⟨keyHash, payloadHash, .send⟩
          nextCall := s.nextCall + 1 }, .suspended)
    | some (inflightPayloadHash, owner) =>
      if inflightPayloadHash ≠ payloadHash then
        ({ s with store }, .returned keyHash payloadHash conflictResult)
      else
        ({ s with
            store
            calls := s.calls.set s.nextCall ⟨keyHash, payloadHash, .future owner⟩
            nextCall := s.nextCall + 1 }, .suspended)

/-- `send_with_idempotency` up to its first `await`. -/
def SendState.begin (cfg : SendConfig) (s : SendState) (now : ℚ) (idempotencyKey payloadHash :
    String) : SendState × SendAnswer :=
  s.beginWith (cfg.sha256Hex idempotencyKey) payloadHash
    (evictAndGet cfg.ttlSeconds now (cfg.sha256Hex idempotencyKey) payloadHash s.store)

/-- The rest of `send_with_idempotency` in the owner of the key, after its send returned. -/
def SendState.finish (cfg : SendConfig) (s : SendState) (now : ℚ) (call : ℕ) (c : SendCall)
    (r : SendResult) : SendState × SendAnswer :=
  let store := evictIdempotencyStore cfg.ttlSeconds now
    (s.store.set c.keyHash ⟨c.payloadHash, r, now⟩)
  ((({ s with store }).resolve call (.result r)).leave call c.keyHash,
    .sent c.keyHash c.payloadHash r)

/-- The rest of `send_with_idempotency` in a waiting call, after its lookup. -/
def SendState.goOnWith (s : SendState) (call : ℕ) (c : SendCall) :
    ResultStore × Option SendResult → SendState × SendAnswer
  | (store, some r) =>
    ({ s with store, calls := s.calls.erase call }, .returned c.keyHash c.payloadHash r)
  -- "Idempotency in-flight result missing"
  | (store, none) => ({ s with store, calls := s.calls.erase call }, .raised)

/-- A waiting call whose future was resolved. -/
def SendState.goOn (cfg : SendConfig) (s : SendState) (now : ℚ) (call : ℕ) (c : SendCall) :
    FutureOutcome → SendState × SendAnswer
  | .exception _ => ({ s with calls := s.calls.erase call }, .raised)
  | .result _ =>
    s.goOnWith call c (evictAndGet cfg.ttlSeconds now c.keyHash c.payloadHash s.store)

/-- The steps of the event loop, in any order. -/
def sendMachine (cfg : SendConfig) : EventMachine SendState (Timed ℚ SendEvent) SendAnswer where
  step s e := match e.event with
    | .call idempotencyKey payloadHash => s.begin cfg e.now idempotencyKey payloadHash
    | .sendReturns call r =>
      match s.calls.get? call with
      | some c => if c.awaiting = .send then s.finish cfg e.now call c r else (s, .ignored)
      | none => (s, .ignored)
    | .sendRaises call error =>
      match s.calls.get? call with
      | some c =>
        if c.awaiting = .send then ((s.resolve call (.exception error)).leave call c.keyHash,
          .raised)
        else (s, .ignored)
      | none => (s, .ignored)
    | .wake call =>
      match s.calls.get? call with
      | some c =>
        match c.awaiting with
        | .send => (s, .ignored)
        | .future owner =>
          match s.resolved.get? owner with
          | none => (s, .ignored)
          | some outcome => s.goOn cfg e.now call c outcome
      | none => (s, .ignored)
    | .cancel call =>
      match s.calls.get? call with
      | some c =>
        match c.awaiting with
        -- a `CancelledError` is no `Exception`: the future stays as it is
        | .send => (s.leave call c.keyHash, .cancelled)
        | .future _ => ({ s with calls := s.calls.erase call }, .cancelled)
      | none => (s, .ignored)

/-! ## The property -/

abbrev SendEntry := EventMachine.Entry SendState (Timed ℚ SendEvent) SendAnswer

/-- The key is in flight with another payload, or stored with another one and not expired. -/
def UsedOtherwise (ttl now : ℚ) (s : SendState) (keyHash payloadHash : String) : Prop :=
  (∃ other owner, s.inflight.get? keyHash = some (other, owner) ∧ other ≠ payloadHash) ∨
    ∃ record, s.store.get? keyHash = some record ∧ now < record.storedAt + ttl ∧
      record.payloadHash ≠ payloadHash

/-- **Idempotent sends**, for keys that are told apart by their hash. -/
structure IdempotentSends (cfg : SendConfig) (log : List SendEntry) : Prop where
  /-- the send functions of a key return at most once within the TTL -/
  once : log.Pairwise (fun x y => ∀ keyHash payloadHash r otherHash r',
    x.answer = .sent keyHash payloadHash r → y.answer = .sent keyHash otherHash r' →
      x.event.now + cfg.ttlSeconds ≤ y.event.now)
  /-- within the TTL every call of the key with the same payload that returns gets that result -/
  same : log.Pairwise (fun x y => ∀ keyHash payloadHash r r',
    x.answer = .sent keyHash payloadHash r → y.answer = .returned keyHash payloadHash r' →
      y.event.now < x.event.now + cfg.ttlSeconds → r' = r)
  /-- what a call returns without a send of its own is the conflict answer to a key that is used
      otherwise, or the result of a send of the key with the same payload within the TTL -/
  origin : ∀ h t, h ++ [t] <+: log → ∀ keyHash payloadHash r,
    t.answer = .returned keyHash payloadHash r →
    (r = conflictResult ∧ UsedOtherwise cfg.ttlSeconds t.event.now t.pre keyHash payloadHash) ∨
      ∃ x ∈ h, x.answer = .sent keyHash payloadHash r ∧ t.event.now < x.event.now + cfg.ttlSeconds
  /-- a call with another payload gets the conflict answer -/
  conflict : ∀ t ∈ log, ∀ idempotencyKey payloadHash,
    t.event.event = .call idempotencyKey payloadHash →
    UsedOtherwise cfg.ttlSeconds t.event.now t.pre (cfg.sha256Hex idempotencyKey) payloadHash →
      t.answer = .returned (cfg.sha256Hex idempotencyKey) payloadHash conflictResult

/-- **No stranded waiter**: a future that is awaited is resolved, or the call that will resolve it
    is still running. -/
def NoStrandedWaiter (s : SendState) : Prop :=
  ∀ call c owner, s.calls.get? call = some c → c.awaiting = .future owner →
    s.resolved.contains owner = true ∨ ∃ o, s.calls.get? owner = some o ∧ o.awaiting = .send

/-- A call is cancelled in its send while other calls wait for it. -/
def AbandonsWaiter (s : SendState) : SendEvent → Prop
  | .cancel call => (∃ c, s.calls.get? call = some c ∧ c.awaiting = .send) ∧
      ∃ waiter w, s.calls.get? waiter = some w ∧ w.awaiting = .future call
  | _ => False

/-! ## The store ages -/

/-- The store later, when nothing was stored in between: results that have expired may be
    missing. -/
structure StoreAged (ttl now : ℚ) (store later : ResultStore) : Prop where
  sub : ∀ k record, later.get? k = some record → store.get? k = some record
  live : ∀ k record, store.get? k = some record → now < record.storedAt + ttl →
    later.get? k = some record

theorem StoreAged.refl (ttl now : ℚ) (store : ResultStore) : StoreAged ttl now store store :=
  ⟨fun _ _ h => h, fun _ _ h _ => h⟩

theorem get?_evictIdempotencyStore {ttl now : ℚ} {store : ResultStore}
    (hsize : store.size ≤ IDEMPOTENCY_MAX_ENTRIES) (k : String) :
    (evictIdempotencyStore ttl now store).get? k =
      (store.get? k).filter (fun r => !decide (r.storedAt < now - ttl)) := by
  have hoverflow : (store.filter (fun _ r => !decide (r.storedAt < now - ttl))).size -
      IDEMPOTENCY_MAX_ENTRIES = 0 :=
    Nat.sub_eq_zero_of_le ((store.size_filter_le _).trans hsize)
  rw [evictIdempotencyStore, hoverflow, oldestKeys, List.take_zero, Dict.eraseAll, List.foldl_nil,
    Dict.get?_filter]

theorem storeAged_evict (ttl now : ℚ) {store : ResultStore}
    (hsize : store.size ≤ IDEMPOTENCY_MAX_ENTRIES) :
    StoreAged ttl now store (evictIdempotencyStore ttl now store) where
  sub k record h := by
    rw [get?_evictIdempotencyStore hsize] at h
    exact (Option.filter_eq_some_iff.1 h).1
  live k record h hlive := by
    rw [get?_evictIdempotencyStore hsize, h, Option.filter_some_pos]
    rw [Bool.not_eq_true', decide_eq_false_iff_not]
    linarith

/-- What a lookup finds: nothing but expired results, or a result that has not expired. -/
def Finds (ttl now : ℚ) (keyHash payloadHash : String) (store : ResultStore) :
    Option SendResult → Prop
  | none => ∀ record, store.get? keyHash = some record → record.storedAt + ttl ≤ now
  | some r => ∃ record, store.get? keyHash = some record ∧ now < record.storedAt + ttl ∧
      r = if record.payloadHash ≠ payloadHash then conflictResult else record.result

theorem getCached_spec (ttl now : ℚ) (keyHash payloadHash : String) (store : ResultStore) :
    StoreAged ttl now store (getCachedIdempotencyResult ttl now keyHash payloadHash store).1 ∧
      Finds ttl now keyHash payloadHash store
        (getCachedIdempotencyResult ttl now keyHash payloadHash store).2 := by
  unfold getCachedIdempotencyResult
  cases hget : store.get? keyHash with
  | none => exact ⟨.refl ttl now store, fun record hrecord => by simp [hget] at hrecord⟩
  | some record =>
    by_cases hexpired : now - record.storedAt ≥ ttl
    · simp only [if_pos hexpired]
      refine ⟨⟨fun k r h => ?_, fun k r h hlive => ?_⟩, fun r hr => ?_⟩
      · rw [Dict.get?_erase] at h
        split at h
        · simp at h
        · exact h
      · rw [Dict.get?_erase, if_neg, h]
        rintro rfl
        rw [hget, Option.some.injEq] at h
        subst h
        linarith
      · rw [hget, Option.some.injEq] at hr
        subst hr
        linarith
    · simp only [if_neg hexpired]
      have hlive : now < record.storedAt + ttl := by linarith
      split
      · next hother => exact ⟨.refl ttl now store, record, hget, hlive, by rw [if_pos hother]⟩
      · next hother => exact ⟨.refl ttl now store, record, hget, hlive, by rw [if_neg hother]⟩

/-- **Eviction and lookup** change no result that has not expired, and find exactly those. -/
theorem evictAndGet_spec (ttl now : ℚ) {store : ResultStore}
    (hsize : store.size ≤ IDEMPOTENCY_MAX_ENTRIES) (keyHash payloadHash : String) :
    StoreAged ttl now store (evictAndGet ttl now keyHash payloadHash store).1 ∧
      Finds ttl now keyHash payloadHash store
      (evictAndGet ttl now keyHash payloadHash store).2 := by
  have hevict := storeAged_evict ttl now hsize
  unfold evictAndGet
  generalize evictIdempotencyStore ttl now store = evicted at hevict
  obtain ⟨haged, hfinds⟩ := getCached_spec ttl now keyHash payloadHash evicted
  refine ⟨⟨fun k r h => hevict.sub k r (haged.sub k r h),
    fun k r h hlive => haged.live k r (hevict.live k r h hlive) hlive⟩, ?_⟩
  cases hcached : (getCachedIdempotencyResult ttl now keyHash payloadHash evicted).2 with
  | none =>
    rw [hcached] at hfinds
    intro record hrecord
    by_contra hlive
    have hkept := hevict.live keyHash record hrecord (not_le.1 hlive)
    exact hlive (hfinds record hkept)
  | some r =>
    rw [hcached] at hfinds
    obtain ⟨record, hrecord, hlive, hr⟩ := hfinds
    exact ⟨record, hevict.sub keyHash record hrecord, hlive, hr⟩

/-! ## What a step does -/

/-- What every step preserves: the calls that await their own send are those in flight, and their
    futures are not resolved. -/
structure SendInvariant (s : SendState) : Prop where
  old : ∀ call c, s.calls.get? call = some c → call < s.nextCall
  resolvedOld : ∀ call, s.resolved.contains call = true → call < s.nextCall
  owner : ∀ call c, s.calls.get? call = some c → c.awaiting = .send →
    s.inflight.get? c.keyHash = some (c.payloadHash, call) ∧ s.resolved.contains call = false
  inflight : ∀ keyHash payloadHash owner, s.inflight.get? keyHash = some (payloadHash, owner) →
    s.calls.get? owner = some ⟨keyHash, payloadHash, .send⟩

theorem sendInvariant_start : SendInvariant .start where
  old call c h := by simp [SendState.start] at h
  resolvedOld call h := by simp [SendState.start, Dict.contains] at h
  owner call c h := by simp [SendState.start] at h
  inflight keyHash payloadHash owner h := by simp [SendState.start] at h

/-- The call that owns a key and ends. -/
def SendState.withoutOwner (s : SendState) (call : ℕ) (c : SendCall) : SendState :=
  { s with inflight := s.inflight.erase c.keyHash, calls := s.calls.erase call }

theorem leave_eq {s : SendState} {call : ℕ} {c : SendCall}
    (h : s.inflight.get? c.keyHash = some (c.payloadHash, call)) (resolved : Dict ℕ FutureOutcome)
    (store : ResultStore) :
    SendState.leave { s with resolved, store } call c.keyHash =
      { s.withoutOwner call c with resolved, store } := by
  simp [SendState.leave, SendState.withoutOwner, h]

theorem resolve_eq {s : SendState} {call : ℕ} (h : s.resolved.contains call = false)
    (outcome : FutureOutcome) (store : ResultStore) :
    SendState.resolve { s with store } call outcome =
      { s with store, resolved := s.resolved.set call outcome } := by
  simp [SendState.resolve, h]

/-- A new call, which awaits its own send or the future of another one. -/
def SendState.withCall (s : SendState) (keyHash payloadHash : String) (awaiting : SendAwait) :
    SendState :=
  { s with
    calls := s.calls.set s.nextCall ⟨keyHash, payloadHash, awaiting⟩
    nextCall := s.nextCall + 1 }

/-- **The steps of the event loop**, by what they do to the state. -/
inductive SendStep (cfg : SendConfig) (s : SendState) (e : Timed ℚ SendEvent) :
    SendState → SendAnswer → Prop
  | ignored (hcall : ∀ key payloadHash, e.event ≠ .call key payloadHash)
      (hidle : ∀ call, e.event = .cancel call → s.calls.get? call = none) :
      SendStep cfg s e s .ignored
  | cached (key payloadHash : String) (store : ResultStore) (r : SendResult)
      (hevent : e.event = .call key payloadHash)
      (hlookup : evictAndGet cfg.ttlSeconds e.now (cfg.sha256Hex key) payloadHash s.store =
        (store, some r)) :
      SendStep cfg s e { s with store } (.returned (cfg.sha256Hex key) payloadHash r)
  | conflicts (key payloadHash other : String) (owner : ℕ) (store : ResultStore)
      (hevent : e.event = .call key payloadHash)
      (hlookup : evictAndGet cfg.ttlSeconds e.now (cfg.sha256Hex key) payloadHash s.store =
        (store, none))
      (hinflight : s.inflight.get? (cfg.sha256Hex key) = some (other, owner))
      (hother : other ≠ payloadHash) :
      SendStep cfg s e { s with store } (.returned (cfg.sha256Hex key) payloadHash conflictResult)
  | owns (key payloadHash : String) (store : ResultStore) (hevent : e.event = .call key payloadHash)
      (hlookup : evictAndGet cfg.ttlSeconds e.now (cfg.sha256Hex key) payloadHash s.store =
        (store, none))
      (hinflight : s.inflight.get? (cfg.sha256Hex key) = none) :
      SendStep cfg s e
        { s.withCall (cfg.sha256Hex key) payloadHash .send with
          store
          inflight := s.inflight.set (cfg.sha256Hex key) (payloadHash, s.nextCall) }
        .suspended
  | waits (key payloadHash : String) (owner : ℕ) (store : ResultStore)
      (hevent : e.event = .call key payloadHash)
      (hlookup : evictAndGet cfg.ttlSeconds e.now (cfg.sha256Hex key) payloadHash s.store =
        (store, none))
      (hinflight : s.inflight.get? (cfg.sha256Hex key) = some (payloadHash, owner)) :
      SendStep cfg s e
        { s.withCall (cfg.sha256Hex key) payloadHash (.future owner) with store } .suspended
  | finishes (call : ℕ) (c : SendCall) (r : SendResult) (hevent : e.event = .sendReturns call r)
      (hcall : s.calls.get? call = some c) (hsend : c.awaiting = .send) :
      SendStep cfg s e
        { s.withoutOwner call c with
          store := evictIdempotencyStore cfg.ttlSeconds e.now
            (s.store.set c.keyHash ⟨c.payloadHash, r, e.now⟩)
          resolved := s.resolved.set call (.result r) }
        (.sent c.keyHash c.payloadHash r)
  | fails (call : ℕ) (c : SendCall) (error : String) (hevent : e.event = .sendRaises call error)
      (hcall : s.calls.get? call = some c) (hsend : c.awaiting = .send) :
      SendStep cfg s e
        { s.withoutOwner call c with resolved := s.resolved.set call (.exception error) } .raised
  | wakes (call owner : ℕ) (c : SendCall) (store : ResultStore) (r : SendResult)
      (hevent : e.event = .wake call) (hcall : s.calls.get? call = some c)
      (hfuture : c.awaiting = .future owner)
      (hlookup : evictAndGet cfg.ttlSeconds e.now c.keyHash c.payloadHash s.store = (store, some r))
      : SendStep cfg s e { s with store, calls := s.calls.erase call }
        (.returned c.keyHash c.payloadHash r)
  | misses (call owner : ℕ) (c : SendCall) (store : ResultStore) (hevent : e.event = .wake call)
      (hcall : s.calls.get? call = some c) (hfuture : c.awaiting = .future owner)
      (hlookup : evictAndGet cfg.ttlSeconds e.now c.keyHash c.payloadHash s.store = (store, none)) :
      SendStep cfg s e { s with store, calls := s.calls.erase call } .raised
  | rethrows (call owner : ℕ) (c : SendCall) (hevent : e.event = .wake call)
      (hcall : s.calls.get? call = some c) (hfuture : c.awaiting = .future owner) :
      SendStep cfg s e { s with calls := s.calls.erase call } .raised
  | cancelsOwner (call : ℕ) (c : SendCall) (hevent : e.event = .cancel call)
      (hcall : s.calls.get? call = some c) (hsend : c.awaiting = .send) :
      SendStep cfg s e (s.withoutOwner call c) .cancelled
  | cancelsWaiter (call owner : ℕ) (c : SendCall) (hevent : e.event = .cancel call)
      (hcall : s.calls.get? call = some c) (hfuture : c.awaiting = .future owner) :
      SendStep cfg s e { s with calls := s.calls.erase call } .cancelled

theorem sendStep_begin (cfg : SendConfig) (s : SendState) (now : ℚ) (key payloadHash : String) :
    SendStep cfg s ⟨now, .call key payloadHash⟩ (s.begin cfg now key payloadHash).1
      (s.begin cfg now key payloadHash).2 := by
  obtain ⟨⟨store, cached⟩, hlookup⟩ :
      ∃ looked, evictAndGet cfg.ttlSeconds now (cfg.sha256Hex key) payloadHash s.store = looked :=
      ⟨_, rfl⟩
  rw [SendState.begin, hlookup]
  cases cached with
  | some r => exact .cached key payloadHash store r rfl hlookup
  | none =>
    simp only [SendState.beginWith]
    cases hinflight : s.inflight.get? (cfg.sha256Hex key) with
    | none => exact .owns key payloadHash store rfl hlookup hinflight
    | some v =>
      obtain ⟨other, owner⟩ := v
      by_cases hother : other = payloadHash
      · subst hother
        simp only [ne_eq, not_true_eq_false, if_false]
        exact .waits key other owner store rfl hlookup hinflight
      · simp only [ne_eq, hother, not_false_eq_true, if_true]
        exact .conflicts key payloadHash other owner store rfl hlookup hinflight hother

theorem sendStep_goOn {cfg : SendConfig} {s : SendState} {now : ℚ} {call owner : ℕ} {c : SendCall}
    (hcall : s.calls.get? call = some c) (hawait : c.awaiting = .future owner)
    (outcome : FutureOutcome) : SendStep cfg s ⟨now, .wake call⟩ (s.goOn cfg now call c outcome).1
      (s.goOn cfg now call c outcome).2 := by
  cases outcome with
  | exception error => exact .rethrows call owner c rfl hcall hawait
  | result r =>
    obtain ⟨⟨store, cached⟩, hlookup⟩ :
        ∃ looked, evictAndGet cfg.ttlSeconds now c.keyHash c.payloadHash s.store = looked :=
        ⟨_, rfl⟩
    rw [SendState.goOn, hlookup]
    cases cached with
    | some r => exact .wakes call owner c store r rfl hcall hawait hlookup
    | none => exact .misses call owner c store rfl hcall hawait hlookup

theorem sendStep_finish {cfg : SendConfig} {s : SendState} (hs : SendInvariant s) {now : ℚ}
    {call : ℕ} {c : SendCall} (hcall : s.calls.get? call = some c) (hsend : c.awaiting = .send)
    (r : SendResult) : SendStep cfg s ⟨now, .sendReturns call r⟩ (s.finish cfg now call c r).1
      (s.finish cfg now call c r).2 := by
  obtain ⟨hinflight, hresolved⟩ := hs.owner call c hcall hsend
  simp only [SendState.finish]
  rw [resolve_eq hresolved _ _, leave_eq hinflight]
  exact .finishes call c r rfl hcall hsend

theorem sendStep (cfg : SendConfig) {s : SendState} (hs : SendInvariant s) (e : Timed ℚ SendEvent) :
    SendStep cfg s e ((sendMachine cfg).step s e).1 ((sendMachine cfg).step s e).2 := by
  obtain ⟨now, event⟩ := e
  cases event with
  | call key payloadHash => exact sendStep_begin cfg s now key payloadHash
  | sendReturns call r =>
    simp only [sendMachine]
    cases hcall : s.calls.get? call with
    | none => exact .ignored (by simp) (by simp)
    | some c =>
      by_cases hsend : c.awaiting = .send
      · simp only [if_pos hsend]
        exact sendStep_finish hs hcall hsend r
      · simp only [if_neg hsend]
        exact .ignored (by simp) (by simp)
  | sendRaises call error =>
    simp only [sendMachine]
    cases hcall : s.calls.get? call with
    | none => exact .ignored (by simp) (by simp)
    | some c =>
      by_cases hsend : c.awaiting = .send
      · obtain ⟨hinflight, hresolved⟩ := hs.owner call c hcall hsend
        simp only [if_pos hsend]
        rw [resolve_eq hresolved _ s.store, leave_eq hinflight]
        exact .fails call c error rfl hcall hsend
      · simp only [if_neg hsend]
        exact .ignored (by simp) (by simp)
  | wake call =>
    simp only [sendMachine]
    cases hcall : s.calls.get? call with
    | none => exact .ignored (by simp) (by simp)
    | some c =>
      cases hawait : c.awaiting with
      | send =>
        simp only [hawait]
        exact .ignored (by simp) (by simp)
      | future owner =>
        simp only [hawait]
        cases s.resolved.get? owner with
        | none => exact .ignored (by simp) (by simp)
        | some outcome => exact sendStep_goOn hcall hawait outcome
  | cancel call =>
    simp only [sendMachine]
    cases hcall : s.calls.get? call with
    | none => exact .ignored (by simp) (fun _ h => (SendEvent.cancel.inj h) ▸ hcall)
    | some c =>
      cases hawait : c.awaiting with
      | send =>
        simp only [hawait]
        rw [leave_eq (hs.owner call c hcall hawait).1 s.resolved s.store]
        exact .cancelsOwner call c rfl hcall hawait
      | future owner =>
        simp only [hawait]
        exact .cancelsWaiter call owner c rfl hcall hawait

/-! ## The calls in flight -/

theorem SendInvariant.withStore {s : SendState} (hs : SendInvariant s) (store : ResultStore) :
    SendInvariant { s with store } := ⟨hs.old, hs.resolvedOld, hs.owner, hs.inflight⟩

/-- A new call owns its key, which was not in flight. -/
theorem SendInvariant.withOwner {s : SendState} (hs : SendInvariant s) {keyHash : String}
    (hinflight : s.inflight.get? keyHash = none) (payloadHash : String) (store : ResultStore) :
    SendInvariant
      { s.withCall keyHash payloadHash .send with
        store
        inflight := s.inflight.set keyHash (payloadHash, s.nextCall) } where
  old call c h := by
    simp only [SendState.withCall, Dict.get?_set] at h ⊢
    split at h
    · omega
    · have := hs.old call c h
      omega
  resolvedOld call h := Nat.lt_succ_of_lt (hs.resolvedOld call h)
  owner call c h hsend := by
    simp only [SendState.withCall, Dict.get?_set] at h ⊢
    split at h
    · next hnew =>
        rw [Option.some.injEq] at h
        subst h hnew
        refine ⟨by simp, ?_⟩
        by_contra hresolved
        exact absurd (hs.resolvedOld _ (Bool.not_eq_false _ ▸ hresolved)) (Nat.lt_irrefl _)
    · obtain ⟨howner, hresolved⟩ := hs.owner call c h hsend
      refine ⟨?_, hresolved⟩
      rw [if_neg, howner]
      intro hkey
      rw [hkey, hinflight] at howner
      simp at howner
  inflight k p owner h := by
    simp only [SendState.withCall, Dict.get?_set] at h ⊢
    split at h
    · next hkey =>
        rw [Option.some.injEq, Prod.mk.injEq] at h
        obtain ⟨rfl, rfl⟩ := h
        rw [if_pos rfl, hkey]
    · have howner := hs.inflight k p owner h
      rw [if_neg (hs.old owner _ howner).ne, howner]

/-- A new call waits. -/
theorem SendInvariant.withWaiter {s : SendState} (hs : SendInvariant s)
    (keyHash payloadHash : String) (owner : ℕ) (store : ResultStore) :
    SendInvariant { s.withCall keyHash payloadHash (.future owner) with store } where
  old call c h := by
    simp only [SendState.withCall, Dict.get?_set] at h ⊢
    split at h
    · omega
    · have := hs.old call c h
      omega
  resolvedOld call h := Nat.lt_succ_of_lt (hs.resolvedOld call h)
  owner call c h hsend := by
    simp only [SendState.withCall, Dict.get?_set] at h ⊢
    split at h
    · rw [Option.some.injEq] at h
      subst h
      simp at hsend
    · exact hs.owner call c h hsend
  inflight k p o h := by
    have howner := hs.inflight k p o h
    simp only [SendState.withCall, Dict.get?_set]
    rw [if_neg (hs.old o _ howner).ne, howner]

theorem SendInvariant.withoutOwner {s : SendState} (hs : SendInvariant s) {call : ℕ} {c : SendCall}
    (hcall : s.calls.get? call = some c) (hsend : c.awaiting = .send) :
    SendInvariant (s.withoutOwner call c) where
  old k d h := by
    simp only [SendState.withoutOwner, Dict.get?_erase] at h
    split at h
    · simp at h
    · exact hs.old k d h
  resolvedOld := hs.resolvedOld
  owner k d h hd := by
    simp only [SendState.withoutOwner, Dict.get?_erase] at h ⊢
    split at h
    · simp at h
    · next hne =>
        obtain ⟨howner, hresolved⟩ := hs.owner k d h hd
        refine ⟨?_, hresolved⟩
        rw [if_neg, howner]
        intro hkey
        have hown := (hs.owner call c hcall hsend).1
        rw [← hkey, howner, Option.some.injEq, Prod.mk.injEq] at hown
        exact hne hown.2
  inflight k p o h := by
    simp only [SendState.withoutOwner, Dict.get?_erase] at h ⊢
    split at h
    · simp at h
    · next hne =>
        have howner := hs.inflight k p o h
        rw [if_neg, howner]
        rintro rfl
        rw [hcall, Option.some.injEq] at howner
        exact hne (by rw [howner])

theorem SendInvariant.withResolved {s : SendState} (hs : SendInvariant s) {call : ℕ}
    (hended : s.calls.get? call = none) (hcall : call < s.nextCall) (outcome : FutureOutcome) :
    SendInvariant { s with resolved := s.resolved.set call outcome } where
  old := hs.old
  resolvedOld k h := by
    simp only [Dict.contains, Dict.get?_set] at h
    split at h
    · next hk => exact hk ▸ hcall
    · exact hs.resolvedOld k h
  owner k c h hsend := by
    obtain ⟨howner, hresolved⟩ := hs.owner k c h hsend
    refine ⟨howner, ?_⟩
    simp only [Dict.contains, Dict.get?_set]
    rw [if_neg]
    · exact hresolved
    · rintro rfl
      rw [hended] at h
      simp at h
  inflight := hs.inflight

/-- A waiting call ends. -/
theorem SendInvariant.withoutWaiter {s : SendState} (hs : SendInvariant s) {call owner : ℕ}
    {c : SendCall} (hcall : s.calls.get? call = some c) (hfuture : c.awaiting = .future owner) :
    SendInvariant { s with calls := s.calls.erase call } where
  old k d h := by
    simp only [Dict.get?_erase] at h
    split at h
    · simp at h
    · exact hs.old k d h
  resolvedOld := hs.resolvedOld
  owner k d h hd := by
    simp only [Dict.get?_erase] at h
    split at h
    · simp at h
    · exact hs.owner k d h hd
  inflight k p o h := by
    have howner := hs.inflight k p o h
    simp only [Dict.get?_erase]
    rw [if_neg, howner]
    rintro rfl
    rw [hcall, Option.some.injEq] at howner
    rw [howner] at hfuture
    simp at hfuture

theorem get?_calls_withoutOwner (s : SendState) (call : ℕ) (c : SendCall) (k : ℕ) :
    (s.withoutOwner call c).calls.get? k = if k = call then none else s.calls.get? k :=
  Dict.get?_erase _ _ _

theorem sendInvariant_next {cfg : SendConfig} (s : SendState) (e : Timed ℚ SendEvent)
    (hs : SendInvariant s) : SendInvariant ((sendMachine cfg).next s e) := by
  have hstep := sendStep cfg hs e
  unfold EventMachine.next
  generalize ((sendMachine cfg).step s e).1 = s', ((sendMachine cfg).step s e).2 = answer at hstep
  cases hstep with
  | ignored _ _ => exact hs
  | cached key payloadHash store r => exact hs.withStore store
  | conflicts key payloadHash other owner store => exact hs.withStore store
  | owns key payloadHash store _ _ hinflight => exact hs.withOwner hinflight payloadHash store
  | waits key payloadHash owner store => exact hs.withWaiter _ payloadHash owner store
  | finishes call c r _ hcall hsend =>
    exact ((hs.withoutOwner hcall hsend).withResolved
      (by rw [get?_calls_withoutOwner, if_pos rfl]) (hs.old call c hcall) _).withStore _
  | fails call c error _ hcall hsend =>
    exact (hs.withoutOwner hcall hsend).withResolved
      (by rw [get?_calls_withoutOwner, if_pos rfl]) (hs.old call c hcall) _
  | wakes call owner c store r _ hcall hfuture =>
    exact (hs.withoutWaiter hcall hfuture).withStore store
  | misses call owner c store _ hcall hfuture =>
    exact (hs.withoutWaiter hcall hfuture).withStore store
  | rethrows call owner c _ hcall hfuture => exact hs.withoutWaiter hcall hfuture
  | cancelsOwner call c _ hcall hsend => exact hs.withoutOwner hcall hsend
  | cancelsWaiter call owner c _ hcall hfuture => exact hs.withoutWaiter hcall hfuture

/-! ## Stranded waiters -/

/-- The future of a call is resolved, or its owner will resolve it. -/
def Settled (s : SendState) (owner : ℕ) : Prop :=
  s.resolved.contains owner = true ∨ ∃ o, s.calls.get? owner = some o ∧ o.awaiting = .send

theorem NoStrandedWaiter.of_settled {s s' : SendState} (hs : NoStrandedWaiter s)
    (hcalls : ∀ call c owner, s'.calls.get? call = some c → c.awaiting = .future owner →
      s.calls.get? call = some c ∨ Settled s' owner)
    (hsettled : ∀ owner, Settled s owner → Settled s' owner) : NoStrandedWaiter s' := by
  intro call c owner hcall hfuture
  rcases hcalls call c owner hcall hfuture with hold | hnew
  · exact hsettled owner (hs call c owner hold hfuture)
  · exact hnew

theorem noStranded_of_resolved {s : SendState} (hs : NoStrandedWaiter s) (call : ℕ) (c : SendCall)
    (outcome : FutureOutcome) (store : ResultStore) :
    NoStrandedWaiter
      { s.withoutOwner call c with store, resolved := s.resolved.set call outcome } := by
  refine hs.of_settled (fun k d owner hk _ => .inl ?_) (fun owner howner => ?_)
  · simp only [get?_calls_withoutOwner] at hk
    split at hk
    · simp at hk
    · exact hk
  · by_cases hown : owner = call
    · exact .inl (by simp [Dict.contains, hown])
    · rcases howner with hresolved | ⟨o, ho, hsend⟩
      · refine .inl ?_
        simp only [Dict.contains, Dict.get?_set, if_neg hown]
        exact hresolved
      · exact .inr ⟨o, by simp only [get?_calls_withoutOwner, if_neg hown, ho], hsend⟩

theorem noStranded_of_waiter {s : SendState} (hs : NoStrandedWaiter s) {call owner : ℕ}
    {c : SendCall} (hcall : s.calls.get? call = some c) (hfuture : c.awaiting = .future owner)
    (store : ResultStore) : NoStrandedWaiter { s with store, calls := s.calls.erase call } := by
  refine hs.of_settled (fun k d owner hk _ => .inl ?_) (fun o ho => ho.imp id ?_)
  · simp only [Dict.get?_erase] at hk
    split at hk
    · simp at hk
    · exact hk
  · rintro ⟨d, hd, hsend⟩
    refine ⟨d, ?_, hsend⟩
    simp only [Dict.get?_erase]
    rw [if_neg, hd]
    rintro rfl
    rw [hcall, Option.some.injEq] at hd
    rw [hd, hsend] at hfuture
    simp at hfuture

theorem noStranded_withoutOwner_iff {s : SendState} (hinv : SendInvariant s)
    (hs : NoStrandedWaiter s) {call : ℕ} {c : SendCall} (hcall : s.calls.get? call = some c)
    (hsend : c.awaiting = .send) : NoStrandedWaiter (s.withoutOwner call c) ↔
      ¬ ∃ waiter w, s.calls.get? waiter = some w ∧ w.awaiting = .future call := by
  constructor
  · rintro hafter ⟨waiter, w, hwaiter, hfuture⟩
    have hne : waiter ≠ call := by
      rintro rfl
      rw [hcall, Option.some.injEq] at hwaiter
      rw [← hwaiter, hsend] at hfuture
      simp at hfuture
    rcases hafter waiter w call (by rw [get?_calls_withoutOwner, if_neg hne, hwaiter]) hfuture with
      hresolved | ⟨o, ho, -⟩
    · rw [SendState.withoutOwner, (hinv.owner call c hcall hsend).2] at hresolved
      simp at hresolved
    · rw [get?_calls_withoutOwner, if_pos rfl] at ho
      simp at ho
  · intro hnone waiter w owner hwaiter hfuture
    rw [get?_calls_withoutOwner] at hwaiter
    split at hwaiter
    · simp at hwaiter
    · have hown : owner ≠ call := by
        rintro rfl
        exact hnone ⟨waiter, w, hwaiter, hfuture⟩
      refine (hs waiter w owner hwaiter hfuture).imp id ?_
      rintro ⟨o, ho, hsends⟩
      exact ⟨o, by rw [get?_calls_withoutOwner, if_neg hown, ho], hsends⟩

theorem noStrandedWaiter_next_iff {cfg : SendConfig} (s : SendState) (e : Timed ℚ SendEvent)
    (hinv : SendInvariant s) (hs : NoStrandedWaiter s) :
    NoStrandedWaiter ((sendMachine cfg).next s e) ↔ ¬ AbandonsWaiter s e.event := by
  have hstep := sendStep cfg hinv e
  unfold EventMachine.next
  generalize ((sendMachine cfg).step s e).1 = s', ((sendMachine cfg).step s e).2 = answer at hstep
  cases hstep with
  | ignored _ hidle =>
    refine iff_of_true hs (fun habandons => ?_)
    cases hevent : e.event with
    | cancel call =>
      rw [hevent] at habandons
      obtain ⟨⟨c, hc, -⟩, -⟩ := habandons
      rw [hidle call hevent] at hc
      simp at hc
    | _ => simp [hevent, AbandonsWaiter] at habandons
  | cached key payloadHash store r hevent =>
    exact iff_of_true hs (by simp [hevent, AbandonsWaiter])
  | conflicts key payloadHash other owner store hevent =>
    exact iff_of_true hs (by simp [hevent, AbandonsWaiter])
  | owns key payloadHash store hevent =>
    refine iff_of_true (hs.of_settled (fun k d owner hk hd => ?_) (fun owner howner => ?_))
      (by simp [hevent, AbandonsWaiter])
    · simp only [SendState.withCall, Dict.get?_set] at hk
      split at hk
      · rw [← Option.some.inj hk] at hd
        simp at hd
      · exact .inl hk
    · refine howner.imp id ?_
      rintro ⟨o, ho, hsend⟩
      refine ⟨o, ?_, hsend⟩
      simp only [SendState.withCall, Dict.get?_set]
      rw [if_neg (hinv.old owner o ho).ne, ho]
  | waits key payloadHash owner store hevent _ hinflight =>
    refine iff_of_true (hs.of_settled (fun k d o hk hd => ?_) (fun o ho => ?_))
      (by simp [hevent, AbandonsWaiter])
    · simp only [SendState.withCall, Dict.get?_set] at hk
      split at hk
      · -- the new call waits for the owner of the key, which is running
        rw [← Option.some.inj hk] at hd
        rw [← SendAwait.future.inj hd]
        have howner := hinv.inflight _ _ owner hinflight
        refine .inr (.inr ⟨⟨cfg.sha256Hex key, payloadHash, .send⟩, ?_, rfl⟩)
        simp only [SendState.withCall, Dict.get?_set]
        rw [if_neg (hinv.old owner _ howner).ne, howner]
      · exact .inl hk
    · refine ho.imp id ?_
      rintro ⟨d, hd, hsend⟩
      refine ⟨d, ?_, hsend⟩
      simp only [SendState.withCall, Dict.get?_set]
      rw [if_neg (hinv.old o d hd).ne, hd]
  | finishes call c r hevent =>
    exact iff_of_true (noStranded_of_resolved hs call c _ _) (by simp [hevent, AbandonsWaiter])
  | fails call c error hevent =>
    exact iff_of_true (noStranded_of_resolved hs call c _ s.store)
      (by simp [hevent, AbandonsWaiter])
  | wakes call owner c store r hevent hcall hfuture =>
    exact iff_of_true (noStranded_of_waiter hs hcall hfuture store)
      (by simp [hevent, AbandonsWaiter])
  | misses call owner c store hevent hcall hfuture =>
    exact iff_of_true (noStranded_of_waiter hs hcall hfuture store)
      (by simp [hevent, AbandonsWaiter])
  | rethrows call owner c hevent hcall hfuture =>
    exact iff_of_true (noStranded_of_waiter hs hcall hfuture s.store)
      (by simp [hevent, AbandonsWaiter])
  | cancelsOwner call c hevent hcall hsend =>
    rw [noStranded_withoutOwner_iff hinv hs hcall hsend, hevent, AbandonsWaiter, hcall]
    simp [hsend]
  | cancelsWaiter call owner c hevent hcall hfuture =>
    refine iff_of_true (noStranded_of_waiter hs hcall hfuture s.store) ?_
    rw [hevent, AbandonsWaiter, hcall]
    simp [hfuture]

/-! ## The history of the results -/

section Expiry

variable {σ ε ω : Type} {ttl : ℚ} {log : List (EventMachine.Entry σ (Timed ℚ ε) ω)}
  {x : EventMachine.Entry σ (Timed ℚ ε) ω}

/-- The result of an entry has expired since, by the log. -/
def ExpiredIn (ttl : ℚ) (log : List (EventMachine.Entry σ (Timed ℚ ε) ω))
    (x : EventMachine.Entry σ (Timed ℚ ε) ω) : Prop :=
  ∃ y ∈ log, x.event.now + ttl ≤ y.event.now

theorem ExpiredIn.append (h : ExpiredIn ttl log x) (t : EventMachine.Entry σ (Timed ℚ ε) ω) :
    ExpiredIn ttl (log ++ [t]) x := by
  obtain ⟨y, hy, hle⟩ := h
  exact ⟨y, List.mem_append_left _ hy, hle⟩

theorem ExpiredIn.now (h : ExpiredIn ttl log x) {now : ℚ} (hclock : ∀ y ∈ log, y.event.now ≤ now) :
    x.event.now + ttl ≤ now := by
  obtain ⟨y, hy, hle⟩ := h
  exact hle.trans (hclock y hy)

end Expiry

/-- How the log and the state belong together: the store holds the results of the sends that have
    not expired and no others, and a key comes in flight only when its last result has. -/
structure SendHistory (cfg : SendConfig) (log : List SendEntry) (s : SendState) : Prop where
  remembered : ∀ x ∈ log, ∀ keyHash payloadHash r, x.answer = .sent keyHash payloadHash r →
    s.store.get? keyHash = some ⟨payloadHash, r, x.event.now⟩ ∨ ExpiredIn cfg.ttlSeconds log x
  recorded : ∀ keyHash record, s.store.get? keyHash = some record → ∃ x ∈ log,
    x.answer = .sent keyHash record.payloadHash record.result ∧ x.event.now = record.storedAt
  quiet : ∀ keyHash current, s.inflight.get? keyHash = some current → ∀ x ∈ log, ∀ payloadHash r,
    x.answer = .sent keyHash payloadHash r → ExpiredIn cfg.ttlSeconds log x

theorem sendHistory_start (cfg : SendConfig) : SendHistory cfg [] .start where
  remembered x h := by simp at h
  recorded keyHash record h := by simp [SendState.start] at h
  quiet keyHash current h := by simp [SendState.start] at h

/-- The step of an entry that sends nothing, and puts in flight only keys without a live result. -/
theorem SendHistory.append {cfg : SendConfig} {log : List SendEntry} {s s' : SendState}
    (hs : SendHistory cfg log s) {t : SendEntry} (hsilent : ∀ k p r, t.answer ≠ .sent k p r)
    (haged : StoreAged cfg.ttlSeconds t.event.now s.store s'.store)
    (hinflight : ∀ k current, s'.inflight.get? k = some current → s.inflight.get? k = some current ∨
      ∀ record, s.store.get? k = some record → record.storedAt + cfg.ttlSeconds ≤ t.event.now) :
    SendHistory cfg (log ++ [t]) s' where
  remembered x hx keyHash payloadHash r hsent := by
    rcases List.mem_append.1 hx with hx | hx
    · rcases hs.remembered x hx keyHash payloadHash r hsent with hstored | hexpired
      · by_cases hlive : t.event.now < x.event.now + cfg.ttlSeconds
        · exact .inl (haged.live _ _ hstored hlive)
        · exact .inr ⟨t, by simp, not_lt.1 hlive⟩
      · exact .inr (hexpired.append t)
    · rw [List.mem_singleton.1 hx] at hsent
      exact absurd hsent (hsilent _ _ _)
  recorded keyHash record h := by
    obtain ⟨x, hx, hsent⟩ := hs.recorded keyHash record (haged.sub _ _ h)
    exact ⟨x, List.mem_append_left _ hx, hsent⟩
  quiet keyHash current h x hx payloadHash r hsent := by
    rcases List.mem_append.1 hx with hx | hx
    · rcases hinflight keyHash current h with hold | hnew
      · exact (hs.quiet keyHash current hold x hx payloadHash r hsent).append t
      · rcases hs.remembered x hx keyHash payloadHash r hsent with hstored | hexpired
        · exact ⟨t, by simp, hnew _ hstored⟩
        · exact hexpired.append t
    · rw [List.mem_singleton.1 hx] at hsent
      exact absurd hsent (hsilent _ _ _)

theorem SendHistory.sent {cfg : SendConfig} {log : List SendEntry} {s : SendState}
    (hs : SendHistory cfg log s) (httl : 0 < cfg.ttlSeconds)
    (hsize : s.store.size < IDEMPOTENCY_MAX_ENTRIES) {t : SendEntry} {call : ℕ} {c : SendCall}
    {r : SendResult} (hinflight : s.inflight.get? c.keyHash = some (c.payloadHash, call))
    (ht : t.answer = .sent c.keyHash c.payloadHash r) (resolved : Dict ℕ FutureOutcome) :
    SendHistory cfg (log ++ [t])
      { s.withoutOwner call c with
        store := evictIdempotencyStore cfg.ttlSeconds t.event.now
          (s.store.set c.keyHash ⟨c.payloadHash, r, t.event.now⟩)
        resolved } := by
  have haged := storeAged_evict cfg.ttlSeconds t.event.now
    ((s.store.size_set_le c.keyHash ⟨c.payloadHash, r, t.event.now⟩).trans hsize)
  refine ⟨fun x hx keyHash payloadHash r' hsent => ?_, fun keyHash record h => ?_,
    fun keyHash current h x hx payloadHash r' hsent => ?_⟩
  · rcases List.mem_append.1 hx with hx | hx
    · by_cases hkey : keyHash = c.keyHash
      · exact .inr ((hs.quiet _ _ (hkey ▸ hinflight) x hx payloadHash r' hsent).append t)
      · rcases hs.remembered x hx keyHash payloadHash r' hsent with hstored | hexpired
        · by_cases hlive : t.event.now < x.event.now + cfg.ttlSeconds
          · exact .inl (haged.live _ _ (by rw [Dict.get?_set, if_neg hkey, hstored]) hlive)
          · exact .inr ⟨t, by simp, not_lt.1 hlive⟩
        · exact .inr (hexpired.append t)
    · rw [List.mem_singleton.1 hx] at hsent ⊢
      rw [ht, SendAnswer.sent.injEq] at hsent
      obtain ⟨rfl, rfl, rfl⟩ := hsent
      exact .inl (haged.live _ _ (by rw [Dict.get?_set, if_pos rfl]) (by simpa using httl))
  · have hset := haged.sub _ _ h
    rw [Dict.get?_set] at hset
    split at hset
    · next hkey =>
        rw [Option.some.injEq] at hset
        subst hset hkey
        exact ⟨t, by simp, ht, rfl⟩
    · obtain ⟨x, hx, hsent⟩ := hs.recorded keyHash record hset
      exact ⟨x, List.mem_append_left _ hx, hsent⟩
  · simp only [SendState.withoutOwner, Dict.get?_erase] at h
    split at h
    · simp at h
    · next hkey =>
        rcases List.mem_append.1 hx with hx | hx
        · exact (hs.quiet keyHash current h x hx payloadHash r' hsent).append t
        · rw [List.mem_singleton.1 hx, ht, SendAnswer.sent.injEq] at hsent
          exact absurd hsent.1.symm hkey

theorem sendHistory_next {cfg : SendConfig} {log : List SendEntry} {s : SendState}
    {e : Timed ℚ SendEvent} (hinv : SendInvariant s) (hs : SendHistory cfg log s)
    (httl : 0 < cfg.ttlSeconds) (hsize : s.store.size < IDEMPOTENCY_MAX_ENTRIES) :
    SendHistory cfg (log ++ [(sendMachine cfg).entry s e]) ((sendMachine cfg).next s e) := by
  have hstep := sendStep cfg hinv e
  have hlooked := fun keyHash payloadHash =>
    evictAndGet_spec cfg.ttlSeconds e.now hsize.le keyHash payloadHash
  have hkept := StoreAged.refl cfg.ttlSeconds e.now s.store
  unfold EventMachine.next EventMachine.entry
  generalize ((sendMachine cfg).step s e).1 = s', ((sendMachine cfg).step s e).2 = answer at hstep
  cases hstep with
  | ignored _ _ => exact hs.append (by simp) hkept (fun k current h => .inl h)
  | cached key payloadHash store r _ hlookup =>
    have haged := (hlooked (cfg.sha256Hex key) payloadHash).1
    rw [hlookup] at haged
    exact hs.append (by simp) haged (fun k current h => .inl h)
  | conflicts key payloadHash other owner store _ hlookup =>
    have haged := (hlooked (cfg.sha256Hex key) payloadHash).1
    rw [hlookup] at haged
    exact hs.append (by simp) haged (fun k current h => .inl h)
  | owns key payloadHash store _ hlookup =>
    obtain ⟨haged, hfinds⟩ := hlooked (cfg.sha256Hex key) payloadHash
    rw [hlookup] at haged hfinds
    refine hs.append (by simp) haged (fun k current h => ?_)
    simp only [Dict.get?_set] at h
    split at h
    · next hkey => exact .inr (hkey ▸ hfinds)
    · exact .inl h
  | waits key payloadHash owner store _ hlookup =>
    have haged := (hlooked (cfg.sha256Hex key) payloadHash).1
    rw [hlookup] at haged
    exact hs.append (by simp) haged (fun k current h => .inl h)
  | finishes call c r _ hcall hsend =>
    exact hs.sent httl hsize (hinv.owner call c hcall hsend).1 rfl _
  | fails call c error =>
    refine hs.append (by simp) hkept (fun k current h => .inl ?_)
    simp only [SendState.withoutOwner, Dict.get?_erase] at h
    split at h
    · simp at h
    · exact h
  | wakes call owner c store r _ _ _ hlookup =>
    have haged := (hlooked c.keyHash c.payloadHash).1
    rw [hlookup] at haged
    exact hs.append (by simp) haged (fun k current h => .inl h)
  | misses call owner c store _ _ _ hlookup =>
    have haged := (hlooked c.keyHash c.payloadHash).1
    rw [hlookup] at haged
    exact hs.append (by simp) haged (fun k current h => .inl h)
  | rethrows call owner c => exact hs.append (by simp) hkept (fun k current h => .inl h)
  | cancelsOwner call c =>
    refine hs.append (by simp) hkept (fun k current h => .inl ?_)
    simp only [SendState.withoutOwner, Dict.get?_erase] at h
    split at h
    · simp at h
    · exact h
  | cancelsWaiter call owner c => exact hs.append (by simp) hkept (fun k current h => .inl h)

/-! ## What the calls return -/

section Answers

variable {cfg : SendConfig} {log : List SendEntry} {s : SendState} {e : Timed ℚ SendEvent}

theorem expired_of_sent (hinv : SendInvariant s) (hs : SendHistory cfg log s)
    (hclock : ∀ y ∈ log, y.event.now ≤ e.now) {keyHash payloadHash : String} {r : SendResult}
    (h : ((sendMachine cfg).step s e).2 = .sent keyHash payloadHash r) {x : SendEntry}
    (hx : x ∈ log) {oldHash : String} {old : SendResult}
    (hsent : x.answer = .sent keyHash oldHash old) : x.event.now + cfg.ttlSeconds ≤ e.now := by
  have hstep := sendStep cfg hinv e
  rw [h] at hstep
  generalize ((sendMachine cfg).step s e).1 = s' at hstep
  cases hstep with
  | finishes call c r _ hcall hsend =>
    exact (hs.quiet _ _ (hinv.owner call c hcall hsend).1 x hx oldHash old hsent).now hclock

/-- A call returns what it finds: the conflict answer, or a result that has not expired. -/
theorem returned_cases (hinv : SendInvariant s) (hsize : s.store.size ≤ IDEMPOTENCY_MAX_ENTRIES)
    {keyHash payloadHash : String} {r : SendResult}
    (h : ((sendMachine cfg).step s e).2 = .returned keyHash payloadHash r) :
    (r = conflictResult ∧ UsedOtherwise cfg.ttlSeconds e.now s keyHash payloadHash) ∨
      ∃ storedAt, s.store.get? keyHash = some ⟨payloadHash, r, storedAt⟩ ∧
        e.now < storedAt + cfg.ttlSeconds := by
  have hfound : ∀ store, evictAndGet cfg.ttlSeconds e.now keyHash payloadHash s.store =
      (store, some r) →
      (r = conflictResult ∧ UsedOtherwise cfg.ttlSeconds e.now s keyHash payloadHash) ∨
        ∃ storedAt, s.store.get? keyHash = some ⟨payloadHash, r, storedAt⟩ ∧
          e.now < storedAt + cfg.ttlSeconds := by
    intro store hlookup
    have hfinds := (evictAndGet_spec cfg.ttlSeconds e.now hsize keyHash payloadHash).2
    rw [hlookup] at hfinds
    obtain ⟨record, hrecord, hlive, hr⟩ := hfinds
    by_cases hother : record.payloadHash = payloadHash
    · subst hother
      rw [if_neg (fun hne => hne rfl)] at hr
      exact .inr ⟨record.storedAt, by rw [hrecord, hr], hlive⟩
    · rw [if_pos hother] at hr
      exact .inl ⟨hr, .inr ⟨record, hrecord, hlive, hother⟩⟩
  have hstep := sendStep cfg hinv e
  rw [h] at hstep
  generalize ((sendMachine cfg).step s e).1 = s' at hstep
  cases hstep with
  | cached key _ store _ _ hlookup => exact hfound store hlookup
  | conflicts key _ other owner store _ _ hinflight hother =>
    exact .inl ⟨rfl, .inl ⟨other, owner, hinflight, hother⟩⟩
  | wakes call owner c store _ _ _ _ hlookup => exact hfound store hlookup

theorem result_of_returned (hinv : SendInvariant s) (hs : SendHistory cfg log s)
    (hsize : s.store.size ≤ IDEMPOTENCY_MAX_ENTRIES) (hclock : ∀ y ∈ log, y.event.now ≤ e.now)
    {keyHash payloadHash : String} {r r' : SendResult} {x : SendEntry} (hx : x ∈ log)
    (hsent : x.answer = .sent keyHash payloadHash r) (hlive : e.now < x.event.now + cfg.ttlSeconds)
    (h : ((sendMachine cfg).step s e).2 = .returned keyHash payloadHash r') : r' = r := by
  have hstored : s.store.get? keyHash = some ⟨payloadHash, r, x.event.now⟩ := by
    rcases hs.remembered x hx keyHash payloadHash r hsent with hstored | hexpired
    · exact hstored
    · exact absurd (hexpired.now hclock) (not_le.2 hlive)
  rcases returned_cases hinv hsize h with ⟨-, ⟨other, owner, hinflight, -⟩ | ⟨record, hrecord, -,
    hother⟩⟩ | ⟨storedAt, hrecord, -⟩
  · exact absurd ((hs.quiet keyHash _ hinflight x hx payloadHash r hsent).now hclock)
      (not_le.2 hlive)
  · rw [hstored, Option.some.injEq] at hrecord
    rw [← hrecord] at hother
    exact absurd rfl hother
  · rw [hstored, Option.some.injEq, StoredResult.mk.injEq] at hrecord
    exact hrecord.2.1.symm

theorem conflict_of_usedOtherwise (hinv : SendInvariant s) (hs : SendHistory cfg log s)
    (hsize : s.store.size ≤ IDEMPOTENCY_MAX_ENTRIES) (hclock : ∀ y ∈ log, y.event.now ≤ e.now)
    {key payloadHash : String} (hevent : e.event = .call key payloadHash)
    (hused : UsedOtherwise cfg.ttlSeconds e.now s (cfg.sha256Hex key) payloadHash) :
    ((sendMachine cfg).step s e).2 = .returned (cfg.sha256Hex key) payloadHash conflictResult := by
  -- a key with a live result is not in flight
  have hquiet : ∀ record, s.store.get? (cfg.sha256Hex key) = some record →
      e.now < record.storedAt + cfg.ttlSeconds → s.inflight.get? (cfg.sha256Hex key) = none := by
    intro record hrecord hlive
    by_contra hinflight
    obtain ⟨current, hcurrent⟩ := Option.ne_none_iff_exists'.1 hinflight
    obtain ⟨x, hx, hsent, hstoredAt⟩ := hs.recorded _ record hrecord
    have hexpired := (hs.quiet _ current hcurrent x hx _ _ hsent).now hclock
    rw [hstoredAt] at hexpired
    exact absurd hlive (not_lt.2 hexpired)
  have hfinds := (evictAndGet_spec cfg.ttlSeconds e.now hsize (cfg.sha256Hex key)
    payloadHash).2
  have hstep := sendStep cfg hinv e
  generalize ((sendMachine cfg).step s e).1 = s', ((sendMachine cfg).step s e).2 = answer at hstep ⊢
  cases hstep with
  | ignored hcall => exact absurd hevent (hcall key payloadHash)
  | cached key' payloadHash' store r hevent' hlookup =>
    rw [hevent, SendEvent.call.injEq] at hevent'
    obtain ⟨rfl, rfl⟩ := hevent'
    rw [hlookup] at hfinds
    obtain ⟨record, hrecord, hlive, hr⟩ := hfinds
    rcases hused with ⟨other, owner, hinflight, -⟩ | ⟨record', hrecord', -, hother⟩
    · rw [hquiet record hrecord hlive] at hinflight
      simp at hinflight
    · rw [hrecord, Option.some.injEq] at hrecord'
      rw [← hrecord'] at hother
      rw [hr, if_pos hother]
  | conflicts key' payloadHash' other owner store hevent' =>
    rw [hevent, SendEvent.call.injEq] at hevent'
    obtain ⟨rfl, rfl⟩ := hevent'
    rfl
  | owns key' payloadHash' store hevent' hlookup hinflight =>
    rw [hevent, SendEvent.call.injEq] at hevent'
    obtain ⟨rfl, rfl⟩ := hevent'
    rw [hlookup] at hfinds
    rcases hused with ⟨other, owner, hinflight', -⟩ | ⟨record, hrecord, hlive, -⟩
    · rw [hinflight] at hinflight'
      simp at hinflight'
    · exact absurd hlive (not_lt.2 (hfinds record hrecord))
  | waits key' payloadHash' owner store hevent' hlookup hinflight =>
    rw [hevent, SendEvent.call.injEq] at hevent'
    obtain ⟨rfl, rfl⟩ := hevent'
    rw [hlookup] at hfinds
    rcases hused with ⟨other, owner', hinflight', hother⟩ | ⟨record, hrecord, hlive, -⟩
    · rw [hinflight, Option.some.injEq, Prod.mk.injEq] at hinflight'
      exact absurd hinflight'.1.symm hother
    · exact absurd hlive (not_lt.2 (hfinds record hrecord))
  | finishes call c r hevent' => simp [hevent] at hevent'
  | fails call c error hevent' => simp [hevent] at hevent'
  | wakes call owner c store r hevent' => simp [hevent] at hevent'
  | misses call owner c store hevent' => simp [hevent] at hevent'
  | rethrows call owner c hevent' => simp [hevent] at hevent'
  | cancelsOwner call c hevent' => simp [hevent] at hevent'
  | cancelsWaiter call owner c hevent' => simp [hevent] at hevent'

end Answers

/-! ## Whole runs -/

/-- What an entry owes to the log before it. -/
structure AnswersLog (cfg : SendConfig) (h : List SendEntry) (t : SendEntry) : Prop where
  once : ∀ x ∈ h, ∀ keyHash payloadHash r otherHash r', x.answer = .sent keyHash payloadHash r →
    t.answer = .sent keyHash otherHash r' → x.event.now + cfg.ttlSeconds ≤ t.event.now
  same : ∀ x ∈ h, ∀ keyHash payloadHash r r', x.answer = .sent keyHash payloadHash r →
    t.answer = .returned keyHash payloadHash r' → t.event.now < x.event.now + cfg.ttlSeconds →
    r' = r
  origin : ∀ keyHash payloadHash r, t.answer = .returned keyHash payloadHash r →
    (r = conflictResult ∧ UsedOtherwise cfg.ttlSeconds t.event.now t.pre keyHash payloadHash) ∨
      ∃ x ∈ h, x.answer = .sent keyHash payloadHash r ∧ t.event.now < x.event.now + cfg.ttlSeconds
  conflict : ∀ idempotencyKey payloadHash, t.event.event = .call idempotencyKey payloadHash →
    UsedOtherwise cfg.ttlSeconds t.event.now t.pre (cfg.sha256Hex idempotencyKey) payloadHash →
      t.answer = .returned (cfg.sha256Hex idempotencyKey) payloadHash conflictResult

theorem answersLog_of_history {cfg : SendConfig} {log : List SendEntry} {s : SendState}
    {e : Timed ℚ SendEvent} (hinv : SendInvariant s) (hs : SendHistory cfg log s)
    (hsize : s.store.size ≤ IDEMPOTENCY_MAX_ENTRIES) (hclock : ∀ y ∈ log, y.event.now ≤ e.now) :
    AnswersLog cfg log ((sendMachine cfg).entry s e) where
  once x hx _ _ _ _ _ hsent ht := expired_of_sent hinv hs hclock ht hx hsent
  same x hx _ _ _ _ hsent ht hlive := result_of_returned hinv hs hsize hclock hx hsent hlive ht
  origin keyHash payloadHash r ht := by
    rcases returned_cases hinv hsize ht with hconflict | ⟨storedAt, hrecord, hlive⟩
    · exact .inl hconflict
    · obtain ⟨x, hx, hsent, hstoredAt⟩ := hs.recorded _ _ hrecord
      exact .inr ⟨x, hx, hsent, by rw [hstoredAt]; exact hlive⟩
  conflict _ _ hevent hused := conflict_of_usedOtherwise hinv hs hsize hclock hevent hused

theorem idempotentSends_trace (cfg : SendConfig) (httl : 0 < cfg.ttlSeconds)
    (es : List (Timed ℚ SendEvent)) (hclock : es.Pairwise (fun e e' => e.now ≤ e'.now))
    (hsize : ∀ t ∈ (sendMachine cfg).trace .start es, t.pre.store.size < IDEMPOTENCY_MAX_ENTRIES) :
    IdempotentSends cfg ((sendMachine cfg).trace .start es) := by
  have hordered := (sendMachine cfg).trace_pairwise_event (s := .start) hclock
  have hlog : ∀ h t, h ++ [t] <+: (sendMachine cfg).trace .start es → AnswersLog cfg h t :=
    (sendMachine cfg).trace_forall (C := fun log s => SendInvariant s ∧ SendHistory cfg log s)
    ⟨sendInvariant_start, sendHistory_start cfg⟩ (fun h s e hp hC => by
      have hlater : ∀ y ∈ h, y.event.now ≤ e.now := EventMachine.rel_of_prefix hordered hp
      have hsmall := hsize _ (hp.subset (List.mem_append_right h (List.mem_singleton_self _)))
      exact ⟨answersLog_of_history hC.1 hC.2 hsmall.le hlater,
        sendInvariant_next s e hC.1, sendHistory_next hC.1 hC.2 httl hsmall⟩)
  refine ⟨?_, ?_, fun h t hp => (hlog h t hp).origin, fun t ht => ?_⟩
  · exact EventMachine.pairwise_of_prefix (fun h t hp x hx => (hlog h t hp).once x hx)
  · exact EventMachine.pairwise_of_prefix (fun h t hp x hx => (hlog h t hp).same x hx)
  · obtain ⟨before, after, heq⟩ := List.append_of_mem ht
    exact (hlog before t ⟨after, by rw [heq, List.append_assoc]; rfl⟩).conflict

/-- **Idempotent sends in process, exactly**: the sends of every run are idempotent, and no waiter
    is stranded exactly if no call is cancelled in its send while others wait for it. -/
theorem sendIdempotency_iff (cfg : SendConfig) (httl : 0 < cfg.ttlSeconds)
    (es : List (Timed ℚ SendEvent)) (hclock : es.Pairwise (fun e e' => e.now ≤ e'.now))
    (hsize : ∀ t ∈ (sendMachine cfg).trace .start es, t.pre.store.size < IDEMPOTENCY_MAX_ENTRIES) :
    (IdempotentSends cfg ((sendMachine cfg).trace .start es) ∧
        (sendMachine cfg).Always NoStrandedWaiter .start es) ↔
      ∀ t ∈ (sendMachine cfg).trace .start es, ¬ AbandonsWaiter t.pre t.event.event := by
  have hidempotent := idempotentSends_trace cfg httl es hclock hsize
  rw [and_iff_right hidempotent]
  exact (sendMachine cfg).always_iff_guarded_of_invariant
    (G := fun s e => ¬ AbandonsWaiter s e.event) sendInvariant_next noStrandedWaiter_next_iff
    sendInvariant_start (fun call c owner h => by simp [SendState.start] at h) es

/-- Results are kept for a day, and the hash tells keys apart as they are. -/
def dailySends : SendConfig := ⟨24, id⟩

/-- A call sends, and another one waits for it. -/
def sharedSend : List (Timed ℚ SendEvent) :=
  [⟨0, .call "order-7" "p"⟩, ⟨1, .call "order-7" "p"⟩]

/-- Two calls share a send that returns. -/
def finishedSend : List (Timed ℚ SendEvent) :=
  sharedSend ++ [⟨2, .sendReturns 0 (200, .dict [])⟩, ⟨3, .wake 1⟩]

/-- The waiter of a send that returns is not stranded. -/
theorem finishedSend_idempotent :
    IdempotentSends dailySends ((sendMachine dailySends).trace .start finishedSend) ∧
      (sendMachine dailySends).Always NoStrandedWaiter .start finishedSend := by
  refine (sendIdempotency_iff dailySends (by decide +kernel) finishedSend (by decide +kernel) ?_).2
    ?_
  · decide +kernel
  · simp [finishedSend, sharedSend, AbandonsWaiter]

/-- The call that sends is cancelled, and the other one waits for ever. -/
theorem cancelledSend_strands :
    ¬ (IdempotentSends dailySends
          ((sendMachine dailySends).trace .start (sharedSend ++ [⟨2, .cancel 0⟩])) ∧
        (sendMachine dailySends).Always NoStrandedWaiter .start
        (sharedSend ++ [⟨2, .cancel 0⟩])) := by
  rintro ⟨-, halways⟩
  have hstranded := EventMachine.Always.run _ halways
  have hwaits : ((sendMachine dailySends).run .start (sharedSend ++ [⟨2, .cancel 0⟩])).calls.get?
      1 = some ⟨"order-7", "p", .future 0⟩ := by
    decide +kernel
  rcases hstranded 1 _ 0 hwaits rfl with hresolved | ⟨o, ho, -⟩
  · exact absurd hresolved (by decide +kernel)
  · have hgone : ((sendMachine dailySends).run .start
        (sharedSend ++ [⟨2, .cancel 0⟩])).calls.get? 0 = none := by
      decide +kernel
    rw [hgone] at ho
    simp at ho

end Ekaette
