import Ekaette.Firestore
import Ekaette.Lib.ClockedPool
import Ekaette.Lib.Lease

set_option autoImplicit false

/-! # The locks of connector writes

A request that writes a connector takes the lock of the connector and releases it in the end. The
locks are kept in memory, under a guard, or as Firestore documents that are created and deleted. A
lock expires after `CONNECTOR_LOCK_TTL_SECONDS`. The documents of the collection are the ones that
are written here. -/

namespace Ekaette

structure LockConfig where
  /-- `CONNECTOR_LOCK_BACKEND` -/
  lockBackend : String
  /-- `_registry_db_client()` is not `None` -/
  hasClient : Bool
  /-- `CONNECTOR_LOCK_TTL_SECONDS` -/
  ttlSeconds : ℚ
  /-- `hashlib.sha256(lock_key.encode("utf-8")).hexdigest()` -/
  sha256Hex : String → String

variable (cfg : LockConfig)

def LockConfig.usesFirestore : Bool := cfg.lockBackend == "firestore"

/-- A lock document. -/
structure LockDoc where
  lockKey : String
  createdAt : ℚ
  expiresAt : ℚ

/-- `_connector_lock_state`, with the expiry of every key, and the lock documents. -/
structure LockStore where
  memory : Dict String ℚ
  docs : Dict String LockDoc

/-- Where the lock of a key is kept. -/
inductive LockSlot where
  | memory (key : String)
  | document (id : String)
deriving DecidableEq

/-- When the stored lock expires. -/
def LockStore.expiry? (store : LockStore) : LockSlot → Option ℚ
  | .memory key => store.memory.get? key
  | .document id => (store.docs.get? id).map (·.expiresAt)

/-- What a caller asks for: a block under the guard, one Firestore operation, or its own work. -/
inductive LockOp where
  | claim (key : String) (now : ℚ)
  | pop (key : String)
  | create (id : String) (doc : LockDoc)
  | get (id : String)
  | delete (id : String)
  | work

/-- A creation answers whether the document is new. -/
@[reducible] def LockOp.Answer : LockOp → Type
  | .claim _ _ => Bool
  | .create _ _ => Bool
  | .get _ => Option LockDoc
  | _ => Unit

/-- The block of `_acquire_connector_lock` under the guard. -/
def claimInMemory (ttlSeconds : ℚ) (state : Dict String ℚ) (key : String) (now : ℚ) :
    Dict String ℚ × Bool :=
  let fresh := state.filter fun _ expiry => !decide (expiry ≤ now)
  if fresh.contains key then (fresh, false) else (fresh.set key (now + ttlSeconds), true)

/-- Creating a document that exists has no effect. -/
def createLockDoc (docs : Dict String LockDoc) (id : String) (doc : LockDoc) :
    Dict String LockDoc × Bool :=
  if docs.contains id then (docs, false) else (docs.set id doc, true)

/-- The memory never fails; a Firestore operation may, also after it took effect. -/
def serveLock (store : LockStore) (access : Access) :
    (c : LockOp) → LockStore × Option c.Answer
  | .claim key now =>
    let (memory, claimed) := claimInMemory cfg.ttlSeconds store.memory key now
    ({ store with memory }, some claimed)
  | .pop key => ({ store with memory := store.memory.erase key }, some ())
  | .create id doc =>
    let (docs, created) := createLockDoc store.docs id doc
    access.perform store ({ store with docs }, some created) none
  | .get id => access.perform store (store, some (store.docs.get? id)) none
  | .delete id => access.perform store ({ store with docs := store.docs.erase id }, some ()) none
  | .work => access.perform store (store, some ()) none

abbrev LockCall := ClockedCall LockOp

abbrev LockCall.Answer := ClockedCall.Answer ℚ LockOp.Answer

abbrev LockProgram := CallProgram LockCall LockCall.Answer

abbrev askLock (c : LockOp) : LockProgram c.Answer := Clocked.ask c

abbrev tryLock (c : LockOp) : LockProgram (Option c.Answer) := Clocked.attempt c

variable (lockKey : String)

/-- `_acquire_connector_lock` -/
@[irreducible] def acquireConnectorLock : LockProgram Bool :=
  do
  let now ← Clocked.readClock
  if !cfg.usesFirestore then
    askLock (.claim lockKey now)
  else if !cfg.hasClient then
    askLock (.claim lockKey now)
  else
    let id := cfg.sha256Hex lockKey
    let payload : LockDoc := ⟨lockKey, now, now + cfg.ttlSeconds⟩
    match ← tryLock (.create id payload) with
    | some true => pure true
    | some false =>
      match ← tryLock (.get id) with
      | some existing =>
        let expiresAt := (existing.map (·.expiresAt)).getD 0
        if expiresAt ≤ now then
          match ← tryLock (.delete id) with
          | some _ =>
            match ← tryLock (.create id payload) with
            | some true => pure true
            | _ => pure false
          | none => pure false
        else pure false
      | none => pure false
    | none => pure false

/-- `_release_connector_lock` -/
@[irreducible] def releaseConnectorLock : LockProgram Unit :=
  do
  if !cfg.usesFirestore then
    askLock (.pop lockKey)
  else if !cfg.hasClient then
    askLock (.pop lockKey)
  else
    let _ ← tryLock (.delete (cfg.sha256Hex lockKey))
    pure ()

/-- What the connector routes do around a write: acquire, and release whatever becomes of the
    work. -/
@[irreducible] def lockedWork : LockProgram Unit := do
  if ← acquireConnectorLock cfg lockKey then
    let _ ← tryLock .work
    releaseConnectorLock cfg lockKey

/-- The callers and the locks they share. -/
abbrev LockPool := Clocked.Programs ℚ LockStore LockOp LockOp.Answer Unit

/-- A caller starts on a key, or takes its next step. -/
abbrev LockEvent := PoolEvent String (Moment ℚ Access)

/-- Callers that run side by side. -/
def lockMachine : EventMachine LockPool LockEvent Unit :=
  Pool.machine (Clocked.serve (serveLock cfg)) (lockedWork cfg)

/-! ## Who holds a lock -/

/-- What a step does to the caller's grant. -/
def nextGrant (slot : LockSlot) (grant : Option ℚ)
    (called : Called LockCall LockCall.Answer) : Option ℚ :=
  match called with
  | ⟨.op (.claim key now), some true⟩ =>
    if .memory key = slot then some (now + cfg.ttlSeconds) else grant
  | ⟨.op (.create id doc), some true⟩ => if .document id = slot then some doc.expiresAt else grant
  | ⟨.op (.pop key), _⟩ => if .memory key = slot then none else grant
  | ⟨.op (.delete id), _⟩ => if .document id = slot then none else grant
  | _ => grant

/-- The expiry of the lock that the caller acquired and has not released. -/
def grantIn (slot : LockSlot) (log : List (Called LockCall LockCall.Answer)) :
    Option ℚ :=
  log.foldl (nextGrant cfg slot) none

theorem grantIn_concat (slot : LockSlot)
    (log : List (Called LockCall LockCall.Answer)) (called : Called LockCall LockCall.Answer) :
    grantIn cfg slot (log ++ [called]) = nextGrant cfg slot (grantIn cfg slot log) called :=
    List.foldl_concat ..

/-- The callers as clients, the locks as leases. -/
def lockLeases (s : LockPool) : Leases ℕ LockSlot ℚ where
  clock := s.shared.clock
  stored := s.shared.store.expiry?
  held i slot := s.threads[i]?.bind fun t => grantIn cfg slot t.log

/-- What a step takes out of the store by its key. -/
def LockOp.removes : LockOp → Option LockSlot
  | .pop key => some (.memory key)
  | .delete id => some (.document id)
  | _ => none

/-- What a caller removes has expired, or is the lock it acquired itself. -/
def removesOwn (s : LockPool) : LockEvent → Bool
  | .start _ => true
  | .resume i m =>
    match s.threads[i]? with
    | some ⟨log, .call (.op c) _⟩ =>
      match c.removes with
      | some slot =>
        (s.shared.store.expiry? slot).all fun expiry =>
          decide (expiry ≤ m.now) || grantIn cfg slot log == some expiry
      | none => true
    | _ => true

/-! ## Steps -/

/-- A caller claims a lock for the time that it read. -/
def ClaimsNow (log : List (Called LockCall LockCall.Answer)) : LockCall → Prop
  | .op (.claim _ now) => Clocked.reading log = some now
  | _ => True

theorem acquire_claimsNow (log : List (Called LockCall LockCall.Answer)) :
    (acquireConnectorLock cfg lockKey).Obeys ClaimsNow (fun _ _ => True) log := by
  have hclaims : ∀ now, (askLock (.claim lockKey now)).Obeys ClaimsNow (fun _ _ => True)
      (log ++ [⟨.now, some now⟩]) := fun now =>
    (CallProgram.obeys_ask _).2 ⟨Clocked.reading_concat _ _, fun _ => trivial⟩
  unfold acquireConnectorLock
  rw [Clocked.obeys_readClock]
  refine ⟨trivial, fun now => ?_⟩
  rw [CallProgram.obeys_ite]
  refine ⟨fun _ => hclaims now, fun _ => ?_⟩
  rw [CallProgram.obeys_ite]
  refine ⟨fun _ => hclaims now, fun _ => ?_⟩
  rw [Clocked.obeys_attempt]
  refine ⟨trivial, fun created => ?_⟩
  rcases created with _ | _ | _
  · exact trivial
  · rw [Clocked.obeys_attempt]
    refine ⟨trivial, fun existing => ?_⟩
    cases existing with
    | none => exact trivial
    | some existing =>
      rw [CallProgram.obeys_ite]
      refine ⟨fun _ => ?_, fun _ => trivial⟩
      rw [Clocked.obeys_attempt]
      refine ⟨trivial, fun deleted => ?_⟩
      cases deleted with
      | none => exact trivial
      | some _ =>
        rw [Clocked.obeys_attempt]
        refine ⟨trivial, fun created => ?_⟩
        rcases created with _ | _ | _
        · exact trivial
        · exact trivial
        · exact trivial
  · exact trivial

theorem release_claimsNow (log : List (Called LockCall LockCall.Answer)) :
    (releaseConnectorLock cfg lockKey).Obeys ClaimsNow (fun _ _ => True) log := by
  have hpops : (askLock (.pop lockKey)).Obeys ClaimsNow (fun _ _ => True) log :=
    (CallProgram.obeys_ask log).2 ⟨trivial, fun _ => trivial⟩
  unfold releaseConnectorLock
  rw [CallProgram.obeys_ite]
  refine ⟨fun _ => hpops, fun _ => ?_⟩
  rw [CallProgram.obeys_ite]
  refine ⟨fun _ => hpops, fun _ => ?_⟩
  rw [Clocked.obeys_attempt]
  exact ⟨trivial, fun _ => trivial⟩

theorem lockedWork_claimsNow :
    (lockedWork cfg lockKey).Obeys ClaimsNow (fun _ _ => True) [] := by
  unfold lockedWork
  refine (acquire_claimsNow cfg lockKey []).bind fun log acquired _ => ?_
  rw [CallProgram.obeys_ite]
  refine ⟨fun _ => ?_, fun _ => trivial⟩
  rw [Clocked.obeys_attempt]
  exact ⟨trivial, fun _ => release_claimsNow cfg lockKey _⟩

theorem claimInMemory_get? (ttlSeconds : ℚ) (state : Dict String ℚ) (key : String) (now : ℚ)
    (k : String) : (claimInMemory ttlSeconds state key now).1.get? k =
      if (claimInMemory ttlSeconds state key now).2 = true ∧ k = key then some (now + ttlSeconds)
      else (state.get? k).filter fun expiry => !decide (expiry ≤ now) := by
  unfold claimInMemory
  by_cases hheld : (state.filter fun _ expiry => !decide (expiry ≤ now)).contains key = true
  · rw [if_pos hheld, if_neg (fun h => Bool.false_ne_true h.1)]
    exact Dict.get?_filter state _ k
  · rw [if_neg hheld]
    by_cases hk : k = key
    · subst hk
      rw [if_pos ⟨rfl, rfl⟩]
      exact Dict.get?_set_self _ _ _
    · rw [if_neg (fun h => hk h.2)]
      exact (Dict.get?_set_of_ne _ _ hk).trans (Dict.get?_filter state _ k)

/-- A claim succeeds only over an expired lock. -/
theorem claimInMemory_claimed {ttlSeconds : ℚ} {state : Dict String ℚ} {key : String} {now : ℚ}
    (h : (claimInMemory ttlSeconds state key now).2 = true) {expiry : ℚ}
    (hstate : state.get? key = some expiry) : expiry ≤ now := by
  by_contra hlate
  have hheld : (state.filter fun _ expiry => !decide (expiry ≤ now)).contains key = true := by
    rw [Dict.contains, Dict.get?_filter, hstate]
    simp [hlate]
  unfold claimInMemory at h
  rw [if_pos hheld] at h
  exact Bool.false_ne_true h

theorem createLockDoc_get? (docs : Dict String LockDoc) (id : String) (doc : LockDoc) (k : String) :
    (createLockDoc docs id doc).1.get? k =
      if (createLockDoc docs id doc).2 = true ∧ k = id then some doc else docs.get? k := by
  unfold createLockDoc
  by_cases hheld : docs.contains id = true
  · rw [if_pos hheld, if_neg (fun h => Bool.false_ne_true h.1)]
  · rw [if_neg hheld]
    by_cases hk : k = id
    · subst hk
      rw [if_pos ⟨rfl, rfl⟩]
      exact Dict.get?_set_self _ _ _
    · rw [if_neg (fun h => hk h.2)]
      exact Dict.get?_set_of_ne _ _ hk

theorem createLockDoc_created {docs : Dict String LockDoc} {id : String} {doc : LockDoc}
    (h : (createLockDoc docs id doc).2 = true) : docs.get? id = none := by
  unfold createLockDoc at h
  by_cases hheld : docs.contains id = true
  · rw [if_pos hheld] at h
    exact absurd h Bool.false_ne_true
  · simpa [Dict.contains] using hheld

/-- What one operation does to the stored locks and to the caller's grants, at the time `now`. -/
structure LockEffect (cfg : LockConfig) (now : ℚ) (store store' : LockStore)
    (log : List (Called LockCall LockCall.Answer)) (called : Called LockCall LockCall.Answer) :
        Prop where
  keeps : ∀ slot x, store.expiry? slot = some x → now < x →
    store'.expiry? slot = some x ∨ grantIn cfg slot log = some x ∧
    grantIn cfg slot (log ++ [called]) = none
  grants : ∀ slot x, grantIn cfg slot (log ++ [called]) = some x →
    grantIn cfg slot log = some x ∨ store'.expiry? slot = some x ∧ ∀ y,
    store.expiry? slot = some y → y ≤ now

section Effects

variable {cfg : LockConfig} {now : ℚ} {store : LockStore}
    {log : List (Called LockCall LockCall.Answer)}

/-- Nothing is stored and nothing granted. -/
theorem lockEffect_quiet {called : Called LockCall LockCall.Answer}
    (hgrant : ∀ slot, nextGrant cfg slot (grantIn cfg slot log) called = grantIn cfg slot log) :
    LockEffect cfg now store store log called := by
  refine ⟨fun slot x hx _ => .inl hx, fun slot x hx => ?_⟩
  rw [grantIn_concat, hgrant] at hx
  exact .inl hx

theorem lockEffect_claim (key : String) {read : ℚ} (hread : read ≤ now) :
    LockEffect cfg now store
    { store with memory := (claimInMemory cfg.ttlSeconds store.memory key read).1 } log
      ⟨.op (.claim key read), some (claimInMemory cfg.ttlSeconds store.memory key read).2⟩ := by
  cases hclaimed : (claimInMemory cfg.ttlSeconds store.memory key read).2 with
  | false =>
    refine ⟨fun slot x hx hlate => .inl ?_, fun slot x hx => ?_⟩
    · cases slot with
      | document id => exact hx
      | memory k =>
        show (claimInMemory cfg.ttlSeconds store.memory key read).1.get? k = some x
        have hx' : store.memory.get? k = some x := hx
        rw [claimInMemory_get?, hclaimed, if_neg (fun h => Bool.false_ne_true h.1), hx']
        exact Option.filter_some_pos (by simp [lt_of_le_of_lt hread hlate])
    · rw [grantIn_concat] at hx
      exact .inl hx
  | true =>
    refine ⟨fun slot x hx hlate => .inl ?_, fun slot x hx => ?_⟩
    · cases slot with
      | document id => exact hx
      | memory k =>
        show (claimInMemory cfg.ttlSeconds store.memory key read).1.get? k = some x
        have hx' : store.memory.get? k = some x := hx
        have hother : ¬ k = key := by
          intro hk
          subst hk
          exact absurd ((claimInMemory_claimed hclaimed hx').trans hread) (not_le_of_gt hlate)
        rw [claimInMemory_get?, hclaimed, if_neg (fun h => hother h.2), hx']
        exact Option.filter_some_pos (by simp [lt_of_le_of_lt hread hlate])
    · rw [grantIn_concat] at hx
      by_cases hslot : LockSlot.memory key = slot
      · subst hslot
        simp only [nextGrant, if_true, Option.some.injEq] at hx
        subst hx
        refine .inr ⟨?_, fun y hy => (claimInMemory_claimed hclaimed hy).trans hread⟩
        show (claimInMemory cfg.ttlSeconds store.memory key read).1.get? key = _
        rw [claimInMemory_get?, hclaimed, if_pos ⟨rfl, rfl⟩]
      · simp only [nextGrant, if_neg hslot] at hx
        exact .inl hx

theorem createLockDoc_expiry? (id : String) (doc : LockDoc) {slot : LockSlot} {x : ℚ}
    (hx : store.expiry? slot = some x) :
    LockStore.expiry? { store with docs := (createLockDoc store.docs id doc).1 } slot = some x := by
  cases slot with
  | memory key => exact hx
  | document k =>
    show ((createLockDoc store.docs id doc).1.get? k).map (·.expiresAt) = some x
    rw [createLockDoc_get?]
    by_cases hnew : (createLockDoc store.docs id doc).2 = true ∧ k = id
    · obtain ⟨hcreated, rfl⟩ := hnew
      have hnone : store.expiry? (.document k) = none := by
        rw [LockStore.expiry?, createLockDoc_created hcreated]
        rfl
      rw [hnone] at hx
      cases hx
    · rw [if_neg hnew]
      exact hx

theorem lockEffect_create (id : String) (doc : LockDoc) :
    LockEffect cfg now store { store with docs := (createLockDoc store.docs id doc).1 } log
      ⟨.op (.create id doc), some (createLockDoc store.docs id doc).2⟩ := by
  refine ⟨fun slot x hx _ => .inl (createLockDoc_expiry? id doc hx), fun slot x hx => ?_⟩
  rw [grantIn_concat] at hx
  cases hcreated : (createLockDoc store.docs id doc).2 with
  | false =>
    rw [hcreated] at hx
    exact .inl hx
  | true =>
    rw [hcreated] at hx
    by_cases hslot : LockSlot.document id = slot
    · subst hslot
      simp only [nextGrant, if_true, Option.some.injEq] at hx
      subst hx
      have hnone : store.expiry? (.document id) = none := by
        rw [LockStore.expiry?, createLockDoc_created hcreated]
        rfl
      refine .inr ⟨?_, fun y hy => ?_⟩
      · show ((createLockDoc store.docs id doc).1.get? id).map (·.expiresAt) = _
        rw [createLockDoc_get?, if_pos ⟨hcreated, rfl⟩]
        rfl
      · rw [hnone] at hy
        cases hy
    · simp only [nextGrant, if_neg hslot] at hx
      exact .inl hx

theorem lockEffect_createLost (id : String) (doc : LockDoc) :
    LockEffect cfg now store { store with docs := (createLockDoc store.docs id doc).1 } log
      ⟨.op (.create id doc), none⟩ := by
  refine ⟨fun slot x hx _ => .inl (createLockDoc_expiry? id doc hx), fun slot x hx => ?_⟩
  rw [grantIn_concat] at hx
  exact .inl hx

theorem lockEffect_remove {store' : LockStore} {called : Called LockCall LockCall.Answer}
    (slot : LockSlot) (hothers : ∀ other, other ≠ slot → store'.expiry? other = store.expiry? other)
    (hgrant : ∀ other grant, nextGrant cfg other grant called = if slot =
      other then none else grant)
    (hown : ∀ x, store.expiry? slot = some x → x ≤ now ∨ grantIn cfg slot log = some x) :
    LockEffect cfg now store store' log called := by
  refine ⟨fun other x hx hlate => ?_, fun other x hx => ?_⟩
  · by_cases hslot : slot = other
    · subst hslot
      rcases hown x hx with hexpired | hgranted
      · exact absurd hexpired (not_le_of_gt hlate)
      · rw [grantIn_concat, hgrant, if_pos rfl]
        exact .inr ⟨hgranted, rfl⟩
    · exact .inl ((hothers other (Ne.symm hslot)).trans hx)
  · rw [grantIn_concat, hgrant] at hx
    by_cases hslot : slot = other
    · rw [if_pos hslot] at hx
      cases hx
    · rw [if_neg hslot] at hx
      exact .inl hx

end Effects

theorem expiry?_pop {store : LockStore} {key : String} (other : LockSlot)
    (hother : other ≠ .memory key) : LockStore.expiry?
    { store with memory := store.memory.erase key } other = store.expiry? other := by
  cases other with
  | document id => rfl
  | memory k =>
    have hk : k ≠ key := fun h => hother (by rw [h])
    show (store.memory.erase key).get? k = store.memory.get? k
    rw [Dict.get?_erase, if_neg hk]

theorem expiry?_delete {store : LockStore} {id : String} (other : LockSlot)
    (hother : other ≠ .document id) : LockStore.expiry? { store with docs := store.docs.erase id }
    other = store.expiry? other := by
  cases other with
  | memory key => rfl
  | document k =>
    have hk : k ≠ id := fun h => hother (by rw [h])
    show ((store.docs.erase id).get? k).map _ = (store.docs.get? k).map _
    rw [Dict.get?_erase, if_neg hk]

/-- **One operation.** Every operation of a caller has such an effect, if what it removes has
    expired or is its own. -/
theorem serveLock_effect {cfg : LockConfig} {now : ℚ} {store : LockStore} {access : Access}
    {log : List (Called LockCall LockCall.Answer)} (c : LockOp)
    (hread : ∀ r, Clocked.reading log = some r → r ≤ now) (hclaims : ClaimsNow log (.op c))
    (hown : ∀ slot, c.removes = some slot → ∀ x, store.expiry? slot = some x →
      x ≤ now ∨ grantIn cfg slot log = some x) :
    LockEffect cfg now store (serveLock cfg store access c).1 log ⟨.op c,
      (serveLock cfg store access c).2⟩ := by
  cases c with
  | claim key read => exact lockEffect_claim key (hread read hclaims)
  | pop key =>
    exact lockEffect_remove (.memory key) (fun other hother => expiry?_pop other hother)
      (fun _ _ => rfl) (hown _ rfl)
  | create id doc =>
    cases access with
    | served => exact lockEffect_create id doc
    | refused => exact lockEffect_quiet fun _ => rfl
    | lost => exact lockEffect_createLost id doc
  | get id =>
    cases access with
    | served => exact lockEffect_quiet fun _ => rfl
    | refused => exact lockEffect_quiet fun _ => rfl
    | lost => exact lockEffect_quiet fun _ => rfl
  | delete id =>
    have hgrant : ∀ (r : Option Unit) (other : LockSlot) (grant : Option ℚ),
        nextGrant cfg other grant ⟨.op (.delete id), r⟩ = if .document id =
        other then none else grant :=
      fun _ _ _ => rfl
    cases access with
    | served => exact lockEffect_remove (.document id) expiry?_delete (hgrant _) (hown _ rfl)
    | refused => exact lockEffect_remove (.document id) (fun _ _ => rfl) (hgrant _) (hown _ rfl)
    | lost => exact lockEffect_remove (.document id) expiry?_delete (hgrant _) (hown _ rfl)
  | work =>
    cases access with
    | served => exact lockEffect_quiet fun _ => rfl
    | refused => exact lockEffect_quiet fun _ => rfl
    | lost => exact lockEffect_quiet fun _ => rfl

/-- The invariant: callers claim for the time that they read, and the leases are sound. -/
structure LockSound (cfg : LockConfig) (s : LockPool) : Prop where
  obeyed : Pool.Obeyed ClaimsNow (fun _ _ => True) s
  past : Clocked.ReadingsPast s
  leases : (lockLeases cfg s).Sound

/-- **One step** of a caller, which reads the clock or makes an operation. -/
theorem lockEffect_step {cfg : LockConfig} {s s' : LockPool} {i : ℕ} {m : Moment ℚ Access}
    (hs : LockSound cfg s) (h : Pool.Calls (Clocked.serve (serveLock cfg)) s i m s')
    (hforward : s.shared.clock ≤ m.now) (hown : removesOwn cfg s (.resume i m) = true) :
    LockEffect cfg m.now s.shared.store s'.shared.store h.log ⟨h.call, h.answer⟩ := by
  obtain ⟨log, call, k, hfound, hshared, -, -⟩ := h
  have hallowed : ClaimsNow log call := (hs.obeyed i _ hfound).1
  have hread : ∀ r, Clocked.reading log = some r → r ≤ m.now := fun r hr =>
    (hs.past i _ hfound r hr).trans hforward
  rw [hshared]
  cases call with
  | now => exact lockEffect_quiet fun _ => rfl
  | op c =>
    refine serveLock_effect c hread hallowed fun slot hslot x hx => ?_
    rw [removesOwn, hfound] at hown
    simp only [hslot, hx, Option.all_some, Bool.or_eq_true, decide_eq_true_eq, beq_iff_eq] at hown
    exact hown

/-- **Step lemma.** -/
theorem lockSound_next (cfg : LockConfig) {s : LockPool} (hs : LockSound cfg s) (e : LockEvent)
    (hforward : Clocked.forward s e = true) (hown : removesOwn cfg s e = true) :
    LockSound cfg ((lockMachine cfg).next s e) := by
  refine ⟨Pool.obeyed_next hs.obeyed e fun key _ => lockedWork_claimsNow cfg key,
    Clocked.readingsPast_next hs.past e hforward, ?_⟩
  cases e with
  | start key =>
    -- a new caller holds nothing
    have hview : lockLeases cfg ((lockMachine cfg).next s (.start key)) = lockLeases cfg s := by
      rw [lockLeases, lockLeases, Leases.mk.injEq]
      refine ⟨rfl, rfl, funext fun i => funext fun slot => ?_⟩
      show (s.threads ++ [⟨[], lockedWork cfg key⟩])[i]?.bind _ = _
      rcases Nat.lt_trichotomy i s.threads.length with hlt | rfl | hgt
      · rw [List.getElem?_append_left hlt]
      · rw [List.getElem?_concat_length, List.getElem?_eq_none le_rfl]
        rfl
      · rw [List.getElem?_eq_none (by rw [List.length_append]; exact hgt),
          List.getElem?_eq_none hgt.le]
    rw [hview]
    exact hs.leases
  | resume i m =>
    have hnext : (lockMachine cfg).next s (.resume i m) = s.resume (Clocked.serve (serveLock cfg)) i
      m := rfl
    rw [hnext]
    rcases Pool.resume_cases (Clocked.serve (serveLock cfg)) s i m with hsame | ⟨⟨h⟩⟩
    · rw [hsame]
      exact hs.leases
    · have heffect := lockEffect_step hs h (of_decide_eq_true hforward) hown
      have hbefore : ∀ slot, (lockLeases cfg s).held i slot = grantIn cfg slot h.log := by
        intro slot
        show s.threads[i]?.bind _ = _
        rw [h.found]
        rfl
      have hafter : ∀ slot, (lockLeases cfg (s.resume (Clocked.serve (serveLock cfg)) i m)).held i
          slot = grantIn cfg slot (h.log ++ [⟨h.call, h.answer⟩]) := by
        intro slot
        show (s.resume (Clocked.serve (serveLock cfg)) i m).threads[i]?.bind _ = _
        rw [h.thread_self]
        rfl
      have hclock : (lockLeases cfg (s.resume (Clocked.serve (serveLock cfg)) i m)).clock = m.now :=
        Clocked.clock_self h
      refine hs.leases.step (i := i) ⟨?_, fun j hj => funext fun slot => ?_, ?_, ?_⟩
      · rw [hclock]
        exact of_decide_eq_true hforward
      · show (s.resume (Clocked.serve (serveLock cfg)) i m).threads[j]?.bind _ =
          s.threads[j]?.bind _
        rw [h.thread_other hj]
      · intro slot x hx hlate
        rw [hclock] at hlate
        rw [hbefore, hafter]
        exact heffect.keeps slot x hx hlate
      · intro slot x hx
        rw [hafter] at hx
        rw [hbefore, hclock]
        exact heffect.grants slot x hx

/-! ## Runs -/

/-- Locks from before, and no callers yet. -/
def noCallers (clock : ℚ) (store : LockStore) : LockPool := { shared := ⟨clock, store⟩ }

theorem lockSound_start (cfg : LockConfig) (clock : ℚ) (store : LockStore) :
    LockSound cfg (noCallers clock store) := by
  refine ⟨fun i t ht => ?_, fun i t ht => ?_, ⟨fun i slot x hx => ?_, fun i j slot hi => ?_⟩⟩
  · cases ht
  · cases ht
  · cases hx
  · obtain ⟨x, hx, -⟩ := hi
    cases hx

/-- The caller acquired the lock of the key, has not released it, and it has not expired. -/
def HoldsLock (cfg : LockConfig) (s : LockPool) (i : ℕ) (lockKey : String) : Prop :=
  (lockLeases cfg s).Holds i
    (if cfg.usesFirestore && cfg.hasClient then .document (cfg.sha256Hex lockKey) else .memory
      lockKey)

/-- **Mutual exclusion.** While the clock does not go back, and every lock that a caller removes has
    expired or is its own, no two callers hold the lock of a key, in memory and in Firestore. -/
theorem connectorLock_exclusive (cfg : LockConfig) (clock : ℚ) (store : LockStore)
    (es : List LockEvent) (hforward : ∀ t ∈ (lockMachine cfg).trace (noCallers clock store) es,
      Clocked.forward t.pre t.event = true)
    (hown : ∀ t ∈ (lockMachine cfg).trace (noCallers clock store) es, removesOwn cfg t.pre t.event =
      true) :
    (lockMachine cfg).Always
      (fun s => ∀ (i j : ℕ) (lockKey : String), HoldsLock cfg s i lockKey →
        HoldsLock cfg s j lockKey → i = j)
      (noCallers clock store) es := by
  have halways : (lockMachine cfg).Always (LockSound cfg) (noCallers clock store) es :=
    (lockMachine cfg).always_of_guarded
      (G := fun s e => Clocked.forward s e = true ∧ removesOwn cfg s e = true)
      (fun s e hs hG => lockSound_next cfg hs e hG.1 hG.2) (lockSound_start cfg clock store)
      fun t ht => ⟨hforward t ht, hown t ht⟩
  exact halways.imp _ fun s hs i j lockKey hi hj => hs.leases.once i j _ hi hj

/-- Locks in memory that expire after half a minute. -/
def lockInMemory : LockConfig := ⟨"memory", false, 30, id⟩

/-- The caller `i` takes a step at the time `now`. -/
def lockStep (i : ℕ) (now : ℚ) : LockEvent := .resume i ⟨now, .served⟩

/-- A caller works and releases its lock in time, then another one takes it. -/
def lockInTime : List LockEvent :=
  [.start "acme:crm", lockStep 0 0, lockStep 0 0, lockStep 0 10, lockStep 0 10, .start "acme:crm",
    lockStep 1 20, lockStep 1 20]

theorem lockInTime_exclusive :
    (lockMachine lockInMemory).Always
      (fun s => ∀ (i j : ℕ) (lockKey : String),
        HoldsLock lockInMemory s i lockKey → HoldsLock lockInMemory s j lockKey → i = j)
      (noCallers 0 ⟨.empty, .empty⟩) lockInTime := by
  have hsteps : ((lockMachine lockInMemory).trace (noCallers 0 ⟨.empty, .empty⟩) lockInTime).all
      (fun t => Clocked.forward t.pre t.event && removesOwn lockInMemory t.pre t.event) = true :=
      by decide +kernel
  refine connectorLock_exclusive lockInMemory 0 ⟨.empty, .empty⟩ lockInTime (fun t ht => ?_) fun t
    ht => ?_
  · exact (Bool.and_eq_true_iff.1 (List.all_eq_true.1 hsteps t ht)).1
  · exact (Bool.and_eq_true_iff.1 (List.all_eq_true.1 hsteps t ht)).2

/-- The first caller works longer than its lock lasts, and releases the lock of the second one. -/
def lockOutlived : List LockEvent :=
  [.start "acme:crm", .start "acme:crm", .start "acme:crm", lockStep 0 0, lockStep 0 0,
    lockStep 1 30, lockStep 1 30, lockStep 0 31, lockStep 0 31, lockStep 2 31, lockStep 2 31]

theorem lockOutlived_shared :
    ¬ ∀ (cfg : LockConfig) (clock : ℚ) (store : LockStore) (es : List LockEvent),
      (∀ t ∈ (lockMachine cfg).trace (noCallers clock store) es, Clocked.forward t.pre t.event =
        true) → (lockMachine cfg).Always
          (fun s => ∀ (i j : ℕ) (lockKey : String), HoldsLock cfg s i lockKey →
            HoldsLock cfg s j lockKey → i = j)
          (noCallers clock store) es := by
  intro h
  have hsteps : ((lockMachine lockInMemory).trace (noCallers 0 ⟨.empty, .empty⟩) lockOutlived).all
      (fun t => Clocked.forward t.pre t.event) = true := by decide +kernel
  have honce := (h lockInMemory 0 ⟨.empty, .empty⟩ lockOutlived (List.all_eq_true.1 hsteps)).run
  have hheld :
    ∀ i x, ((lockLeases lockInMemory ((lockMachine lockInMemory).run (noCallers 0 ⟨.empty, .empty⟩)
      lockOutlived)).held i (.memory "acme:crm")) = some x → 31 < x →
      HoldsLock lockInMemory ((lockMachine lockInMemory).run (noCallers 0 ⟨.empty, .empty⟩)
        lockOutlived) i "acme:crm" := by
    intro i x hx hlate
    refine ⟨x, hx, lt_of_le_of_lt ?_ hlate⟩
    have hclock : ((lockMachine lockInMemory).run (noCallers 0 ⟨.empty, .empty⟩)
      lockOutlived).shared.clock = 31 := by
      decide +kernel
    exact le_of_eq hclock
  have hone := honce 1 2 "acme:crm" (hheld 1 60 (by decide +kernel) (by decide +kernel))
    (hheld 2 61 (by decide +kernel) (by decide +kernel))
  exact absurd hone (by decide)

end Ekaette
