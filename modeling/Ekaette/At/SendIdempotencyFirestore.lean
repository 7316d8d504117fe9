import Ekaette.At.SendIdempotency
import Ekaette.Firestore

set_option autoImplicit false

/-! # Idempotent sends over Firestore

`_send_with_idempotency_firestore` of `at/service_whatsapp.py`. A call claims its key by creating
the key's document, sends, and replaces the claim by the result; calls that find a claim wait for
it, and an expired document is deleted. Each access to Firestore is a step of its own, which can
raise.

Two places break the idempotence. The claim is cleared when anything after it raises, so also when
the send has returned and its result cannot be recorded, or the collection cannot be pruned. And the
delete of an expired document deletes whatever the key's document has become since it was read. -/

namespace Ekaette

/-- A document of the idempotency collection. -/
structure SendDoc where
  payloadHash : String
  /-- the result of a `done` document; none in an `inflight` one -/
  done : Option SendResult
  updatedAt : ℚ
  expiresAt : ℚ

abbrev SendDocs := Dict String SendDoc

/-- `body if isinstance(body, dict) else {}`. -/
def safeBody (body : PyValue) : PyValue := if body.dict?.isSome then body else .dict []

/-- The documents `_prune_firestore_collection` deletes: the first by `updated_at`, as many as there
    are too many among the first `max_entries + 1`. -/
def overflowDocs (docs : SendDocs) : List String :=
  let first := (docs.entries.mergeSort (fun a b => decide (a.2.updatedAt ≤ b.2.updatedAt))).take
    (IDEMPOTENCY_MAX_ENTRIES + 1)
  (first.take (first.length - IDEMPOTENCY_MAX_ENTRIES)).map Prod.fst

/-! ## The calls -/

/-- The `await` a call is at; `now` is the reading of the clock of its pass through the loop. -/
inductive FirestoreAwait where
  | get (now : ℚ)
  | deleteExpired (now : ℚ)
  | create (now : ℚ)
  | sleep
  | send
  /-- `set` of the result, as that document -/
  | record (r : SendResult) (doc : SendDoc)
  /-- the query of the prune -/
  | prune (r : SendResult)
  /-- the deletes of the prune that are left -/
  | pruneDelete (r : SendResult) (docs : List String)
  /-- the delete of the claim, before the exception is raised again -/
  | clear

structure FirestoreCall where
  keyHash : String
  payloadHash : String
  startedAt : ℚ
  awaiting : FirestoreAwait

/-- `wait_deadline`. -/
def FirestoreCall.waitDeadline (cfg : SendConfig) (c : FirestoreCall) : ℚ :=
  c.startedAt + max cfg.ttlSeconds 5

structure FirestoreSends where
  docs : SendDocs
  /-- the calls that have not returned -/
  calls : Dict ℕ FirestoreCall
  /-- the number of the next call -/
  nextCall : ℕ

def FirestoreSends.start : FirestoreSends := ⟨.empty, .empty, 0⟩

inductive FirestoreSendEvent where
  /-- A call of `send_with_idempotency`. -/
  | call (idempotencyKey payloadHash : String)
  /-- The access to Firestore that a call awaits is done. -/
  | firestore (call : ℕ) (access : Access)
  /-- `send_fn` of a call returns. -/
  | sendReturns (call : ℕ) (status : ℤ) (body : PyValue)
  /-- `send_fn` of a call raises. -/
  | sendRaises (call : ℕ)
  /-- A call has slept. -/
  | wake (call : ℕ)

/-- How a call ends. -/
inductive SendOutcome where
  | returned (r : SendResult)
  | raised

inductive FirestoreSendAnswer where
  | ignored
  /-- the call goes on to its next `await` -/
  | suspended
  /-- the send function of the call has returned -/
  | sent (keyHash payloadHash : String) (r : SendResult)
  | ended (keyHash payloadHash : String) (startedAt : ℚ) (outcome : SendOutcome)

namespace FirestoreSends

variable (s : FirestoreSends)

/-- The call goes on to another `await`. -/
def awaits (call : ℕ) (c : FirestoreCall) (awaiting : FirestoreAwait) :
    FirestoreSends :=
  { s with calls := s.calls.set call { c with awaiting } }

/-- The call goes on, and the step says no more. -/
def goesOn (call : ℕ) (c : FirestoreCall) (awaiting : FirestoreAwait) :
    FirestoreSends × FirestoreSendAnswer :=
  (s.awaits call c awaiting, .suspended)

/-- The call is over. -/
def without (call : ℕ) : FirestoreSends :=
  { s with calls := s.calls.erase call }

/-- The call ends. -/
def ends (call : ℕ) (c : FirestoreCall) (outcome : SendOutcome) :
    FirestoreSends × FirestoreSendAnswer :=
  (s.without call, .ended c.keyHash c.payloadHash c.startedAt outcome)

/-- The document of a key is deleted. -/
def eraseDoc (keyHash : String) : FirestoreSends :=
  { s with docs := s.docs.erase keyHash }

/-- The document of a key is written. -/
def setDoc (keyHash : String) (doc : SendDoc) : FirestoreSends :=
  { s with docs := s.docs.set keyHash doc }

/-- A call finds the key claimed: it sleeps, unless its deadline is over. -/
def waitOrRaise (cfg : SendConfig) (s : FirestoreSends) (call : ℕ) (c : FirestoreCall) (now : ℚ) :
    FirestoreSends × FirestoreSendAnswer :=
  if now ≥ c.waitDeadline cfg then s.ends call c .raised else s.goesOn call c .sleep

/-- The snapshot is there. -/
def snapshot (cfg : SendConfig) (s : FirestoreSends) (call : ℕ) (c : FirestoreCall) (now : ℚ) :
    Option SendDoc → FirestoreSends × FirestoreSendAnswer
  | none => s.goesOn call c (.create now)
  | some doc =>
    if doc.expiresAt > now then
      if doc.payloadHash ≠ c.payloadHash then s.ends call c (.returned conflictResult)
      else match doc.done with
        | some r => s.ends call c (.returned r)
        | none => s.waitOrRaise cfg call c now
    else s.goesOn call c (.deleteExpired now)

/-- `doc_ref.create` is served or its reply is lost: it raises `AlreadyExists` if there is a
    document. -/
def created (cfg : SendConfig) (s : FirestoreSends) (call : ℕ) (c : FirestoreCall) (now : ℚ)
    (access : Access) : FirestoreSends × FirestoreSendAnswer :=
  if s.docs.contains c.keyHash then
    if access = .served then s.waitOrRaise cfg call c now else s.ends call c .raised
  else
    let s := s.setDoc c.keyHash ⟨c.payloadHash, none, now, now + cfg.ttlSeconds⟩
    if access = .served then s.goesOn call c .send else s.ends call c .raised

/-- The prune goes on with the deletes that are left, or the call returns. -/
def pruneNext (call : ℕ) (c : FirestoreCall) (r : SendResult) :
    List String → FirestoreSends × FirestoreSendAnswer
  | [] => s.ends call c (.returned r)
  | k :: docs => s.goesOn call c (.pruneDelete r (k :: docs))

/-- The store after an access that changes it: a refused one leaves it as it is. -/
def afterAccess (access : Access) (s' : FirestoreSends) : FirestoreSends :=
  if access = .refused then s else s'

/-- The access a call awaits is done. -/
def firestore (cfg : SendConfig) (s : FirestoreSends) (call : ℕ) (c : FirestoreCall)
    (access : Access) : FirestoreSends × FirestoreSendAnswer :=
  match c.awaiting with
  | .get now =>
    if access = .served then s.snapshot cfg call c now (s.docs.get? c.keyHash)
    else s.ends call c .raised
  | .deleteExpired now =>
    let s := s.afterAccess access (s.eraseDoc c.keyHash)
    if access = .served then s.goesOn call c (.create now) else s.ends call c .raised
  | .create now =>
    if access = .refused then s.ends call c .raised else s.created cfg call c now access
  | .record r doc =>
    let s := s.afterAccess access (s.setDoc c.keyHash doc)
    if access = .served then s.goesOn call c (.prune r) else s.goesOn call c .clear
  | .prune r =>
    if access = .served then s.pruneNext call c r (overflowDocs s.docs) else s.goesOn call c .clear
  | .pruneDelete r docs =>
    match docs with
    | [] => (s, .ignored)
    | k :: docs =>
      let s := s.afterAccess access (s.eraseDoc k)
      if access = .served then s.pruneNext call c r docs else s.goesOn call c .clear
  | .clear => (s.afterAccess access (s.eraseDoc c.keyHash)).ends call c .raised
  | .sleep => (s, .ignored)
  | .send => (s, .ignored)

end FirestoreSends

/-- The steps of the calls, in any order. -/
def firestoreSendMachine (cfg : SendConfig) :
    EventMachine FirestoreSends (Timed ℚ FirestoreSendEvent) FirestoreSendAnswer where
  step s e := match e.event with
    | .call idempotencyKey payloadHash =>
      ({ s with
          calls := s.calls.set s.nextCall
            ⟨cfg.sha256Hex idempotencyKey, payloadHash, e.now, .get e.now⟩
          nextCall := s.nextCall + 1 }, .suspended)
    | .firestore call access =>
      match s.calls.get? call with
      | some c => s.firestore cfg call c access
      | none => (s, .ignored)
    | .sendReturns call status body =>
      match s.calls.get? call with
      | some c =>
        match c.awaiting with
        | .send =>
          let r := (status, safeBody body)
          (s.awaits call c (.record r ⟨c.payloadHash, some r, e.now, e.now + cfg.ttlSeconds⟩),
            .sent c.keyHash c.payloadHash r)
        | _ => (s, .ignored)
      | none => (s, .ignored)
    | .sendRaises call =>
      match s.calls.get? call with
      | some c =>
        match c.awaiting with
        | .send => s.goesOn call c .clear
        | _ => (s, .ignored)
      | none => (s, .ignored)
    | .wake call =>
      match s.calls.get? call with
      | some c =>
        match c.awaiting with
        | .sleep => s.goesOn call c (.get e.now)
        | _ => (s, .ignored)
      | none => (s, .ignored)

/-! ## The property -/

abbrev FirestoreSendEntry :=
  EventMachine.Entry FirestoreSends (Timed ℚ FirestoreSendEvent) FirestoreSendAnswer

/-- **Idempotent sends over Firestore**, for keys that are told apart by their hash. -/
structure FirestoreIdempotent (cfg : SendConfig) (log : List FirestoreSendEntry) : Prop where
  /-- the send functions of a key return at most once within the TTL -/
  once : log.Pairwise (fun x y => ∀ keyHash payloadHash r otherHash r',
    x.answer = .sent keyHash payloadHash r → y.answer = .sent keyHash otherHash r' →
      x.event.now + cfg.ttlSeconds ≤ y.event.now)
  /-- a later retry with the same payload that ends within the TTL replays the result -/
  replay : log.Pairwise (fun x y => ∀ keyHash payloadHash r startedAt outcome,
    x.answer = .sent keyHash payloadHash r →
    y.answer = .ended keyHash payloadHash startedAt outcome →
      x.event.now ≤ startedAt → y.event.now < x.event.now + cfg.ttlSeconds → outcome = .returned r)

/-! ## The condition -/

/-- The call has claimed its key, and its result is not recorded yet. -/
def FirestoreAwait.holds : FirestoreAwait → Bool
  | .send => true
  | .record _ _ => true
  | .clear => true
  | _ => false

/-- The result of the send of the call, once that has returned. -/
def FirestoreAwait.result : FirestoreAwait → Option SendResult
  | .record r _ => some r
  | .prune r => some r
  | .pruneDelete r _ => some r
  | _ => none

/-- A send of the key has returned, and its call is not over or its result has not expired. -/
def SendReturned (now : ℚ) (s : FirestoreSends) (keyHash : String) : Prop :=
  (∃ call c, s.calls.get? call = some c ∧ c.keyHash = keyHash ∧ c.awaiting.result.isSome = true) ∨
    ∃ doc, s.docs.get? keyHash = some doc ∧ doc.done.isSome = true ∧ now < doc.expiresAt

/-- The document of the key, if there is one, has expired and is no claim of a call that still
    runs. -/
def Deletable (now : ℚ) (s : FirestoreSends) (keyHash : String) : Prop :=
  ∀ doc, s.docs.get? keyHash = some doc → doc.expiresAt ≤ now ∧
    ∀ call c, s.calls.get? call = some c → c.keyHash = keyHash → c.awaiting.holds = false

/-- The document an access of the call deletes as expired or superfluous. -/
def FirestoreCall.deletes (c : FirestoreCall) : Option String :=
  match c.awaiting with
  | .deleteExpired _ => some c.keyHash
  | .pruneDelete _ (k :: _) => some k
  | _ => none

/-- **The condition**: no access fails once a send of its key has returned, and only documents are
    deleted as expired or superfluous that are. -/
structure KeepsSends (s : FirestoreSends) (e : Timed ℚ FirestoreSendEvent) : Prop where
  fails : ∀ call access c, e.event = .firestore call access → s.calls.get? call = some c →
    access ≠ .served → ¬ SendReturned e.now s c.keyHash
  deletes : ∀ call access c k, e.event = .firestore call access → s.calls.get? call = some c →
    access ≠ .refused → c.deletes = some k → Deletable e.now s k

/-! ## The history of the results -/

/-- The reading of the clock a call goes by. -/
def FirestoreAwait.clock : FirestoreAwait → Option ℚ
  | .get now => some now
  | .deleteExpired now => some now
  | .create now => some now
  | _ => none

/-- A result that has not expired: it is about to be recorded or is recorded, and the calls that
    began after it have no other. -/
structure LiveResult (cfg : SendConfig) (s : FirestoreSends) (keyHash payloadHash : String)
    (r : SendResult) (sentAt : ℚ) : Prop where
  kept : (∃ call c, s.calls.get? call = some c ∧ c.keyHash = keyHash ∧ c.payloadHash = payloadHash ∧
      c.awaiting = .record r ⟨payloadHash, some r, sentAt, sentAt + cfg.ttlSeconds⟩) ∨
    s.docs.get? keyHash = some ⟨payloadHash, some r, sentAt, sentAt + cfg.ttlSeconds⟩
  later : ∀ call c r', s.calls.get? call = some c → c.keyHash = keyHash → sentAt ≤ c.startedAt →
    c.awaiting.result = some r' → r' = r

/-- The calls and the log: what a call goes by was read before, and its result was sent. -/
structure CallsLogged (log : List FirestoreSendEntry) (s : FirestoreSends) : Prop where
  old : ∀ call c, s.calls.get? call = some c → call < s.nextCall
  started : ∀ call c, s.calls.get? call = some c → ∃ y ∈ log, c.startedAt ≤ y.event.now
  clock : ∀ call c now, s.calls.get? call = some c → c.awaiting.clock = some now →
    ∃ y ∈ log, now ≤ y.event.now
  sender : ∀ call c r, s.calls.get? call = some c → c.awaiting.result = some r →
    ∃ y ∈ log, y.answer = .sent c.keyHash c.payloadHash r ∧ c.startedAt ≤ y.event.now

/-- The calls and the documents: a call that holds its key finds its claim there, and is alone. -/
structure ClaimsHeld (s : FirestoreSends) : Prop where
  holder : ∀ call c, s.calls.get? call = some c → c.awaiting.holds = true →
    ∃ doc, s.docs.get? c.keyHash = some doc ∧ doc.done = none ∧ doc.payloadHash = c.payloadHash
  unique : ∀ call c call' c', s.calls.get? call = some c → s.calls.get? call' = some c' →
    c.awaiting.holds = true → c'.awaiting.holds = true → c.keyHash = c'.keyHash → call = call'

/-- How the log and the state belong together while the condition is met. -/
structure FirestoreHistory (cfg : SendConfig) (log : List FirestoreSendEntry) (s : FirestoreSends) :
    Prop where
  calls : CallsLogged log s
  claims : ClaimsHeld s
  live : ∀ x ∈ log, ∀ keyHash payloadHash r, x.answer = .sent keyHash payloadHash r →
    ExpiredIn cfg.ttlSeconds log x ∨ LiveResult cfg s keyHash payloadHash r x.event.now

section History

variable {cfg : SendConfig} {log : List FirestoreSendEntry} {s : FirestoreSends} {call : ℕ}
  {c : FirestoreCall} {keyHash payloadHash : String} {r : SendResult} {sentAt now : ℚ}

theorem get?_awaits (s : FirestoreSends) (call : ℕ) (c : FirestoreCall) (awaiting : FirestoreAwait)
    (k : ℕ) : (s.awaits call c awaiting).calls.get? k =
      if k = call then some { c with awaiting } else s.calls.get? k :=
  Dict.get?_set _ _ _ _

theorem get?_awaits_self (s : FirestoreSends) (call : ℕ) (c : FirestoreCall)
    (awaiting : FirestoreAwait) : (s.awaits call c awaiting).calls.get? call =
      some { c with awaiting } :=
  Dict.get?_set_self _ _ _

theorem get?_of_without {k : ℕ} {d : FirestoreCall} (h : (s.without call).calls.get? k = some d) :
    s.calls.get? k = some d ∧ k ≠ call := by
  rw [FirestoreSends.without, Dict.get?_erase] at h
  split at h
  · simp at h
  · next hne => exact ⟨h, hne⟩

theorem call_of_awaits {awaiting : FirestoreAwait} {k : ℕ} {d : FirestoreCall}
    (h : (s.awaits call c awaiting).calls.get? k = some d) :
    (k = call ∧ d = { c with awaiting }) ∨ (k ≠ call ∧ s.calls.get? k = some d) := by
  rw [get?_awaits] at h
  split at h
  · next hk => exact .inl ⟨hk, (Option.some.inj h).symm⟩
  · next hk => exact .inr ⟨hk, h⟩

/-! ### The calls and the log -/

theorem CallsLogged.start : CallsLogged [] .start where
  old call c h := by simp [FirestoreSends.start] at h
  started call c h := by simp [FirestoreSends.start] at h
  clock call c now h := by simp [FirestoreSends.start] at h
  sender call c r h := by simp [FirestoreSends.start] at h

theorem CallsLogged.append (hs : CallsLogged log s) (t : FirestoreSendEntry) :
    CallsLogged (log ++ [t]) s where
  old := hs.old
  started call c h := (hs.started call c h).imp (fun _ hy => ⟨List.mem_append_left _ hy.1, hy.2⟩)
  clock call c now h hnow :=
    (hs.clock call c now h hnow).imp (fun _ hy => ⟨List.mem_append_left _ hy.1, hy.2⟩)
  sender call c r h hr :=
    (hs.sender call c r h hr).imp (fun _ hy => ⟨List.mem_append_left _ hy.1, hy.2⟩)

/-- The documents do not matter here. -/
theorem CallsLogged.eraseDoc (hs : CallsLogged log s) (keyHash : String) :
    CallsLogged log (s.eraseDoc keyHash) :=
  ⟨hs.old, hs.started, hs.clock, hs.sender⟩

theorem CallsLogged.setDoc (hs : CallsLogged log s) (keyHash : String) (doc : SendDoc) :
    CallsLogged log (s.setDoc keyHash doc) :=
  ⟨hs.old, hs.started, hs.clock, hs.sender⟩

theorem CallsLogged.awaits (hs : CallsLogged log s) (hcall : s.calls.get? call = some c)
    {awaiting : FirestoreAwait}
    (hclock : ∀ now, awaiting.clock = some now → ∃ y ∈ log, now ≤ y.event.now)
    (hsender : ∀ r, awaiting.result = some r →
      ∃ y ∈ log, y.answer = .sent c.keyHash c.payloadHash r ∧ c.startedAt ≤ y.event.now) :
    CallsLogged log (s.awaits call c awaiting) where
  old k d h := by
    rcases call_of_awaits h with ⟨rfl, -⟩ | ⟨-, hold⟩
    · exact hs.old k c hcall
    · exact hs.old k d hold
  started k d h := by
    rcases call_of_awaits h with ⟨-, rfl⟩ | ⟨-, hold⟩
    · exact hs.started call c hcall
    · exact hs.started k d hold
  clock k d n h hd := by
    rcases call_of_awaits h with ⟨-, rfl⟩ | ⟨-, hold⟩
    · exact hclock n hd
    · exact hs.clock k d n hold hd
  sender k d r h hd := by
    rcases call_of_awaits h with ⟨-, rfl⟩ | ⟨-, hold⟩
    · exact hsender r hd
    · exact hs.sender k d r hold hd

theorem CallsLogged.without (hs : CallsLogged log s) (call : ℕ) :
    CallsLogged log (s.without call) where
  old k d h := hs.old k d (get?_of_without h).1
  started k d h := hs.started k d (get?_of_without h).1
  clock k d n h := hs.clock k d n (get?_of_without h).1
  sender k d r h := hs.sender k d r (get?_of_without h).1

/-! ### The calls and the documents -/

theorem ClaimsHeld.start : ClaimsHeld .start where
  holder call c h := by simp [FirestoreSends.start] at h
  unique call c call' c' h := by simp [FirestoreSends.start] at h

/-- A call goes on, and holds its key only if it did before. -/
theorem ClaimsHeld.awaits (hs : ClaimsHeld s) (hcall : s.calls.get? call = some c)
    {awaiting : FirestoreAwait} (hholds : awaiting.holds = true → c.awaiting.holds = true) :
    ClaimsHeld (s.awaits call c awaiting) where
  holder k d h hd := by
    rcases call_of_awaits h with ⟨-, rfl⟩ | ⟨-, hold⟩
    · exact hs.holder call c hcall (hholds hd)
    · exact hs.holder k d hold hd
  unique k d k' d' h h' hd hd' hkey := by
    rcases call_of_awaits h with ⟨rfl, rfl⟩ | ⟨-, hold⟩
    · rcases call_of_awaits h' with ⟨rfl, -⟩ | ⟨-, hold'⟩
      · rfl
      · exact hs.unique k c k' d' hcall hold' (hholds hd) hd' hkey
    · rcases call_of_awaits h' with ⟨rfl, rfl⟩ | ⟨-, hold'⟩
      · exact hs.unique k d k' c hold hcall hd (hholds hd') hkey
      · exact hs.unique k d k' d' hold hold' hd hd' hkey

theorem ClaimsHeld.without (hs : ClaimsHeld s) (call : ℕ) : ClaimsHeld (s.without call) where
  holder k d h := hs.holder k d (get?_of_without h).1
  unique k d k' d' h h' := hs.unique k d k' d' (get?_of_without h).1 (get?_of_without h').1

/-- No call holds the key. -/
def KeyFree (s : FirestoreSends) (keyHash : String) : Prop :=
  ∀ call c, s.calls.get? call = some c → c.awaiting.holds = true → c.keyHash ≠ keyHash

theorem ClaimsHeld.eraseDoc (hs : ClaimsHeld s) (hfree : KeyFree s keyHash) :
    ClaimsHeld (s.eraseDoc keyHash) where
  holder k d h hd := by
    obtain ⟨doc, hdoc, hclaim⟩ := hs.holder k d h hd
    refine ⟨doc, ?_, hclaim⟩
    rw [FirestoreSends.eraseDoc, Dict.get?_erase, if_neg (hfree k d h hd), hdoc]
  unique := hs.unique

theorem ClaimsHeld.setDoc (hs : ClaimsHeld s) (hfree : KeyFree s keyHash) (doc : SendDoc) :
    ClaimsHeld (s.setDoc keyHash doc) where
  holder k d h hd := by
    obtain ⟨claim, hdoc, hclaim⟩ := hs.holder k d h hd
    refine ⟨claim, ?_, hclaim⟩
    rw [FirestoreSends.setDoc, Dict.get?_set, if_neg (hfree k d h hd), hdoc]
  unique := hs.unique

theorem ClaimsHeld.claim (hs : ClaimsHeld s) (hfree : KeyFree s c.keyHash) {doc : SendDoc}
    (hdoc : s.docs.get? c.keyHash = some doc) (hdone : doc.done = none)
    (hpayload : doc.payloadHash = c.payloadHash) : ClaimsHeld (s.awaits call c .send) where
  holder k d h hd := by
    rcases call_of_awaits h with ⟨-, rfl⟩ | ⟨-, hold⟩
    · exact ⟨doc, hdoc, hdone, hpayload⟩
    · exact hs.holder k d hold hd
  unique k d k' d' h h' hd hd' hkey := by
    rcases call_of_awaits h with ⟨rfl, rfl⟩ | ⟨-, hold⟩
    · rcases call_of_awaits h' with ⟨rfl, -⟩ | ⟨-, hold'⟩
      · rfl
      · exact absurd hkey.symm (hfree k' d' hold' hd')
    · rcases call_of_awaits h' with ⟨rfl, rfl⟩ | ⟨-, hold'⟩
      · exact absurd hkey (hfree k d hold hd)
      · exact hs.unique k d k' d' hold hold' hd hd' hkey

theorem ClaimsHeld.free_of_no_doc (hs : ClaimsHeld s) (hnone : s.docs.get? keyHash = none) :
    KeyFree s keyHash := by
  rintro k d h hd rfl
  obtain ⟨doc, hdoc, -⟩ := hs.holder k d h hd
  rw [hnone] at hdoc
  simp at hdoc

theorem ClaimsHeld.free_of_awaits (hs : ClaimsHeld s) (hcall : s.calls.get? call = some c)
    (hholds : c.awaiting.holds = true) {awaiting : FirestoreAwait} (hnot : awaiting.holds = false) :
    KeyFree (s.awaits call c awaiting) c.keyHash := by
  intro k d h hd hkey
  rcases call_of_awaits h with ⟨-, rfl⟩ | ⟨hne, hold⟩
  · simp [hnot] at hd
  · exact hne (hs.unique k d call c hold hcall hd hholds hkey)

theorem ClaimsHeld.free_of_without (hs : ClaimsHeld s) (hcall : s.calls.get? call = some c)
    (hholds : c.awaiting.holds = true) : KeyFree (s.without call) c.keyHash := by
  intro k d h hd hkey
  obtain ⟨hold, hne⟩ := get?_of_without h
  exact hne (hs.unique k d call c hold hcall hd hholds hkey)

theorem Deletable.free {doc : SendDoc} (h : Deletable now s keyHash)
    (hdoc : s.docs.get? keyHash = some doc) : KeyFree s keyHash := by
  intro k d hk hd hkey
  have hfree := (h doc hdoc).2 k d hk hkey
  rw [hd] at hfree
  simp at hfree

/-! ### Live results -/

theorem LiveResult.doc (hs : ClaimsHeld s) (h : LiveResult cfg s keyHash payloadHash r sentAt) :
    ∃ doc, s.docs.get? keyHash = some doc ∧ doc.payloadHash = payloadHash ∧
      (doc.done = none ∧ (∃ call c, s.calls.get? call = some c ∧ c.keyHash = keyHash ∧
          c.awaiting.holds = true ∧ c.awaiting.result = some r) ∨
        doc.done = some r ∧ doc.expiresAt = sentAt + cfg.ttlSeconds) := by
  rcases h.kept with ⟨call, c, hcall, rfl, rfl, hrecord⟩ | hdoc
  · obtain ⟨doc, hdoc, hdone, hpayload⟩ := hs.holder call c hcall (by rw [hrecord]; rfl)
    exact ⟨doc, hdoc, hpayload, .inl ⟨hdone, call, c, hcall, rfl, by rw [hrecord]; rfl,
      by rw [hrecord]; rfl⟩⟩
  · exact ⟨_, hdoc, rfl, .inr ⟨rfl, rfl⟩⟩

theorem LiveResult.holder (hs : ClaimsHeld s) (h : LiveResult cfg s keyHash payloadHash r sentAt)
    (hcall : s.calls.get? call = some c) (hkey : c.keyHash = keyHash)
    (hholds : c.awaiting.holds = true) :
    c.awaiting = .record r ⟨payloadHash, some r, sentAt, sentAt + cfg.ttlSeconds⟩ := by
  rcases h.kept with ⟨call', c', hcall', hkey', -, hrecord⟩ | hdoc
  · have heq := hs.unique call c call' c' hcall hcall' hholds (by rw [hrecord]; rfl)
      (hkey.trans hkey'.symm)
    subst heq
    rw [hcall, Option.some.injEq] at hcall'
    subst hcall'
    exact hrecord
  · obtain ⟨doc, hclaim, hdone, -⟩ := hs.holder call c hcall hholds
    rw [hkey, hdoc, Option.some.injEq] at hclaim
    rw [← hclaim] at hdone
    simp at hdone

theorem LiveResult.not_deletable (hs : ClaimsHeld s)
    (h : LiveResult cfg s keyHash payloadHash r sentAt)
    (hlive : now < sentAt + cfg.ttlSeconds) : ¬ Deletable now s keyHash := by
  intro hdeletable
  obtain ⟨doc, hdoc, -, hrecording | ⟨-, hexpires⟩⟩ := h.doc hs
  · obtain ⟨-, call, c, hcall, hkey, hholds, -⟩ := hrecording
    exact hdeletable.free hdoc call c hcall hholds hkey
  · have hexpired := (hdeletable doc hdoc).1
    rw [hexpires] at hexpired
    exact absurd hlive (not_lt.2 hexpired)

theorem LiveResult.sendReturned (hs : ClaimsHeld s)
    (h : LiveResult cfg s keyHash payloadHash r sentAt)
    (hlive : now < sentAt + cfg.ttlSeconds) : SendReturned now s keyHash := by
  obtain ⟨doc, hdoc, -, hrecording | ⟨hdone, hexpires⟩⟩ := h.doc hs
  · obtain ⟨-, call, c, hcall, hkey, -, hresult⟩ := hrecording
    exact .inl ⟨call, c, hcall, hkey, by rw [hresult]; rfl⟩
  · exact .inr ⟨doc, hdoc, by rw [hdone]; rfl, by rw [hexpires]; exact hlive⟩

theorem LiveResult.awaits (h : LiveResult cfg s keyHash payloadHash r sentAt)
    (hcall : s.calls.get? call = some c) {awaiting : FirestoreAwait}
    (hrecord : c.keyHash = keyHash → ∀ r doc, c.awaiting ≠ .record r doc)
    (hresult : c.keyHash = keyHash → ∀ r, awaiting.result = some r → c.awaiting.result = some r) :
    LiveResult cfg (s.awaits call c awaiting) keyHash payloadHash r sentAt where
  kept := by
    refine h.kept.imp ?_ id
    rintro ⟨k, d, hk, hkey, hpayload, hrec⟩
    refine ⟨k, d, ?_, hkey, hpayload, hrec⟩
    rw [get?_awaits, if_neg, hk]
    rintro rfl
    rw [hcall, Option.some.injEq] at hk
    subst hk
    exact hrecord hkey _ _ hrec
  later k d r' hk hkey hstarted hd := by
    rcases call_of_awaits hk with ⟨-, rfl⟩ | ⟨-, hold⟩
    · exact h.later call c r' hcall hkey hstarted (hresult hkey r' hd)
    · exact h.later k d r' hold hkey hstarted hd

theorem LiveResult.without (h : LiveResult cfg s keyHash payloadHash r sentAt)
    (hcall : s.calls.get? call = some c) (hrecord : ∀ r doc, c.awaiting ≠ .record r doc) :
    LiveResult cfg (s.without call) keyHash payloadHash r sentAt where
  kept := by
    refine h.kept.imp ?_ id
    rintro ⟨k, d, hk, hkey, hpayload, hrec⟩
    refine ⟨k, d, ?_, hkey, hpayload, hrec⟩
    rw [FirestoreSends.without, Dict.get?_erase, if_neg, hk]
    rintro rfl
    rw [hcall, Option.some.injEq] at hk
    subst hk
    exact hrecord _ _ hrec
  later k d r' hk := h.later k d r' (get?_of_without hk).1

theorem LiveResult.eraseDoc (h : LiveResult cfg s keyHash payloadHash r sentAt) {k : String}
    (hne : keyHash ≠ k) : LiveResult cfg (s.eraseDoc k) keyHash payloadHash r sentAt where
  kept := h.kept.imp id (fun hdoc => by
    rw [FirestoreSends.eraseDoc, Dict.get?_erase, if_neg hne, hdoc])
  later := h.later

theorem LiveResult.setDoc (h : LiveResult cfg s keyHash payloadHash r sentAt) {k : String}
    (hne : keyHash ≠ k) (doc : SendDoc) :
    LiveResult cfg (s.setDoc k doc) keyHash payloadHash r sentAt where
  kept := h.kept.imp id (fun hdoc => by
    rw [FirestoreSends.setDoc, Dict.get?_set, if_neg hne, hdoc])
  later := h.later

/-! ### Steps that keep the history -/

theorem FirestoreHistory.start (cfg : SendConfig) : FirestoreHistory cfg [] .start :=
  ⟨.start, .start, fun x h => by simp at h⟩

theorem FirestoreHistory.append (hs : FirestoreHistory cfg log s) {t : FirestoreSendEntry}
    (hsilent : ∀ k p r, t.answer ≠ .sent k p r) : FirestoreHistory cfg (log ++ [t]) s where
  calls := hs.calls.append t
  claims := hs.claims
  live x hx keyHash payloadHash r hsent := by
    rcases List.mem_append.1 hx with hx | hx
    · exact (hs.live x hx keyHash payloadHash r hsent).imp (fun h => h.append t) id
    · rw [List.mem_singleton.1 hx] at hsent
      exact absurd hsent (hsilent _ _ _)

/-- A call goes on without claiming its key or getting a result. -/
theorem FirestoreHistory.awaits (hs : FirestoreHistory cfg log s)
    (hcall : s.calls.get? call = some c) {awaiting : FirestoreAwait}
    (hrecord : ∀ r doc, c.awaiting ≠ .record r doc)
    (hholds : awaiting.holds = true → c.awaiting.holds = true)
    (hresult : ∀ r, awaiting.result = some r → c.awaiting.result = some r)
    (hclock : ∀ now, awaiting.clock = some now → ∃ y ∈ log, now ≤ y.event.now) :
    FirestoreHistory cfg log (s.awaits call c awaiting) where
  calls := hs.calls.awaits hcall hclock (fun r hr => hs.calls.sender call c r hcall (hresult r hr))
  claims := hs.claims.awaits hcall hholds
  live x hx k p r hsent := (hs.live x hx k p r hsent).imp id
    (fun hlive => hlive.awaits hcall (fun _ => hrecord) (fun _ => hresult))

/-- A call ends. -/
theorem FirestoreHistory.without (hs : FirestoreHistory cfg log s)
    (hcall : s.calls.get? call = some c) (hrecord : ∀ r doc, c.awaiting ≠ .record r doc) :
    FirestoreHistory cfg log (s.without call) where
  calls := hs.calls.without call
  claims := hs.claims.without call
  live x hx k p r hsent :=
    (hs.live x hx k p r hsent).imp id (fun hlive => hlive.without hcall hrecord)

theorem FirestoreHistory.eraseDoc (hs : FirestoreHistory cfg log s)
    (hdeletable : Deletable now s keyHash) (hnow : ∃ y ∈ log, now ≤ y.event.now) :
    FirestoreHistory cfg log (s.eraseDoc keyHash) where
  calls := hs.calls.eraseDoc keyHash
  claims := by
    refine hs.claims.eraseDoc ?_
    cases hdoc : s.docs.get? keyHash with
    | none => exact hs.claims.free_of_no_doc hdoc
    | some doc => exact hdeletable.free hdoc
  live x hx k p r hsent := by
    rcases hs.live x hx k p r hsent with hexpired | hlive
    · exact .inl hexpired
    · by_cases hkey : k = keyHash
      · -- the result of that key has expired
        subst hkey
        obtain ⟨y, hy, hle⟩ := hnow
        by_cases hunexpired : now < x.event.now + cfg.ttlSeconds
        · exact absurd hdeletable (hlive.not_deletable hs.claims hunexpired)
        · exact .inl ⟨y, hy, (not_lt.1 hunexpired).trans hle⟩
      · exact .inr (hlive.eraseDoc hkey)

theorem FirestoreHistory.clear (hs : FirestoreHistory cfg log s)
    (hcall : s.calls.get? call = some c) (hclear : c.awaiting = .clear) :
    FirestoreHistory cfg log ((s.eraseDoc c.keyHash).without call) where
  calls := (hs.calls.eraseDoc c.keyHash).without call
  claims := (hs.claims.without call).eraseDoc
    (hs.claims.free_of_without hcall (by rw [hclear]; rfl))
  live x hx k p r hsent := by
    refine (hs.live x hx k p r hsent).imp id (fun hlive => ?_)
    have hkey : k ≠ c.keyHash := by
      rintro rfl
      have hrecord := hlive.holder hs.claims hcall rfl (by rw [hclear]; rfl)
      simp [hclear] at hrecord
    exact (hlive.without hcall (fun r doc h => by simp [hclear] at h)).eraseDoc hkey

theorem FirestoreHistory.begin (hs : FirestoreHistory cfg log s)
    (hnow : ∃ y ∈ log, now ≤ y.event.now) (keyHash payloadHash : String) :
    FirestoreHistory cfg log
      { s with
        calls := s.calls.set s.nextCall ⟨keyHash, payloadHash, now, .get now⟩
        nextCall := s.nextCall + 1 } := by
  -- a call is the new one, or was there before
  have hcases : ∀ k d, (s.calls.set s.nextCall ⟨keyHash, payloadHash, now, .get now⟩).get? k =
    some d →
      (k = s.nextCall ∧ d = ⟨keyHash, payloadHash, now, .get now⟩) ∨ s.calls.get? k = some d := by
    intro k d h
    rw [Dict.get?_set] at h
    split at h
    · next hk => exact .inl ⟨hk, (Option.some.inj h).symm⟩
    · exact .inr h
  refine ⟨⟨fun k d h => ?_, fun k d h => ?_, fun k d n h hd => ?_, fun k d r h hd => ?_⟩,
    ⟨fun k d h hd => ?_, fun k d k' d' h h' hd hd' hkey => ?_⟩, fun x hx kh p r hsent => ?_⟩
  · rcases hcases k d h with ⟨rfl, -⟩ | hold
    · exact Nat.lt_succ_self _
    · exact Nat.lt_succ_of_lt (hs.calls.old k d hold)
  · rcases hcases k d h with ⟨-, rfl⟩ | hold
    · exact hnow
    · exact hs.calls.started k d hold
  · rcases hcases k d h with ⟨-, rfl⟩ | hold
    · rw [← Option.some.inj hd]
      exact hnow
    · exact hs.calls.clock k d n hold hd
  · rcases hcases k d h with ⟨-, rfl⟩ | hold
    · simp [FirestoreAwait.result] at hd
    · exact hs.calls.sender k d r hold hd
  · rcases hcases k d h with ⟨-, rfl⟩ | hold
    · simp [FirestoreAwait.holds] at hd
    · exact hs.claims.holder k d hold hd
  · rcases hcases k d h with ⟨-, rfl⟩ | hold
    · simp [FirestoreAwait.holds] at hd
    · rcases hcases k' d' h' with ⟨-, rfl⟩ | hold'
      · simp [FirestoreAwait.holds] at hd'
      · exact hs.claims.unique k d k' d' hold hold' hd hd' hkey
  · refine (hs.live x hx kh p r hsent).imp id (fun hlive => ⟨?_, ?_⟩)
    · refine hlive.kept.imp ?_ id
      rintro ⟨k, d, hk, hrest⟩
      refine ⟨k, d, ?_, hrest⟩
      rw [Dict.get?_set, if_neg (hs.calls.old k d hk).ne, hk]
    · intro k d r' h hkey hstarted hd
      rcases hcases k d h with ⟨-, rfl⟩ | hold
      · simp [FirestoreAwait.result] at hd
      · exact hlive.later k d r' hold hkey hstarted hd

/-- The document of a key without one is created. -/
theorem FirestoreHistory.setDoc (hs : FirestoreHistory cfg log s)
    (hnone : s.docs.get? keyHash = none) (doc : SendDoc) :
    FirestoreHistory cfg log (s.setDoc keyHash doc) where
  calls := hs.calls.setDoc keyHash doc
  claims := hs.claims.setDoc (hs.claims.free_of_no_doc hnone) doc
  live x hx k p r hsent := by
    refine (hs.live x hx k p r hsent).imp id (fun hlive => hlive.setDoc ?_ doc)
    rintro rfl
    obtain ⟨found, hfound, -⟩ := hlive.doc hs.claims
    rw [hnone] at hfound
    simp at hfound

theorem FirestoreHistory.claim (hs : FirestoreHistory cfg log s)
    (hcall : s.calls.get? call = some c) (hcreate : c.awaiting = .create now)
    (hnone : s.docs.get? c.keyHash = none) (updatedAt expiresAt : ℚ) :
    FirestoreHistory cfg log
      ((s.setDoc c.keyHash ⟨c.payloadHash, none, updatedAt, expiresAt⟩).awaits call c .send) := by
  have hset := hs.setDoc hnone ⟨c.payloadHash, none, updatedAt, expiresAt⟩
  exact {
    calls := hset.calls.awaits hcall (by simp [FirestoreAwait.clock])
      (by simp [FirestoreAwait.result])
    claims := hset.claims.claim (hs.claims.free_of_no_doc hnone) (Dict.get?_set_self _ _ _) rfl rfl
    live := fun x hx k p r hsent => (hset.live x hx k p r hsent).imp id (fun hlive =>
      hlive.awaits hcall (fun _ r doc h => by simp [hcreate] at h)
        (fun _ r h => by simp [FirestoreAwait.result] at h)) }

theorem FirestoreHistory.record (hs : FirestoreHistory cfg log s)
    (hcall : s.calls.get? call = some c) {doc : SendDoc} (hrecord : c.awaiting = .record r doc) :
    FirestoreHistory cfg log ((s.setDoc c.keyHash doc).awaits call c (.prune r)) where
  calls := (hs.calls.setDoc c.keyHash doc).awaits hcall (by simp [FirestoreAwait.clock])
    (fun r' hr' => by
      refine hs.calls.sender call c r' hcall ?_
      rw [hrecord]
      exact hr')
  claims := (hs.claims.awaits hcall (by simp [FirestoreAwait.holds])).setDoc
    (hs.claims.free_of_awaits hcall (by rw [hrecord]; rfl) rfl) doc
  live x hx k p r' hsent := by
    refine (hs.live x hx k p r' hsent).imp id (fun hlive => ?_)
    by_cases hkey : k = c.keyHash
    · -- it is the result of the call that is recorded
      subst hkey
      have hrec := hlive.holder hs.claims hcall rfl (by rw [hrecord]; rfl)
      rw [hrecord, FirestoreAwait.record.injEq] at hrec
      refine ⟨.inr ?_, fun k d r'' h hkey hstarted hd => ?_⟩
      · rw [FirestoreSends.awaits, FirestoreSends.setDoc, Dict.get?_set, if_pos rfl, hrec.2]
      · rcases call_of_awaits h with ⟨-, rfl⟩ | ⟨-, hold⟩
        · exact (Option.some.inj hd).symm.trans hrec.1
        · exact hlive.later k d r'' hold hkey hstarted hd
    · exact (hlive.setDoc hkey doc).awaits hcall (fun h => absurd h.symm hkey)
        (fun h => absurd h.symm hkey)

theorem FirestoreHistory.expired_of_sending (hs : FirestoreHistory cfg log s)
    (hcall : s.calls.get? call = some c) (hsend : c.awaiting = .send) {x : FirestoreSendEntry}
    (hx : x ∈ log) (hsent : x.answer = .sent c.keyHash payloadHash r) :
    ExpiredIn cfg.ttlSeconds log x := by
  rcases hs.live x hx c.keyHash payloadHash r hsent with hexpired | hlive
  · exact hexpired
  · have hrecord := hlive.holder hs.claims hcall rfl (by rw [hsend]; rfl)
    simp [hsend] at hrecord

theorem FirestoreHistory.sent (hs : FirestoreHistory cfg log s) (httl : 0 < cfg.ttlSeconds)
    (hcall : s.calls.get? call = some c) (hsend : c.awaiting = .send) {t : FirestoreSendEntry}
    (ht : t.answer = .sent c.keyHash c.payloadHash r)
    (hclock : ∀ y ∈ log, y.event.now ≤ t.event.now) :
    FirestoreHistory cfg (log ++ [t]) (s.awaits call c
      (.record r ⟨c.payloadHash, some r, t.event.now, t.event.now + cfg.ttlSeconds⟩)) where
  calls := (hs.calls.append t).awaits hcall (by simp [FirestoreAwait.clock]) (fun r' hr' => by
    obtain ⟨y, hy, hle⟩ := hs.calls.started call c hcall
    exact ⟨t, by simp, by rw [ht, Option.some.inj hr'], hle.trans (hclock y hy)⟩)
  claims := hs.claims.awaits hcall (by simp [hsend, FirestoreAwait.holds])
  live x hx k p r' hsent := by
    rcases List.mem_append.1 hx with hx | hx
    · by_cases hkey : k = c.keyHash
      · subst hkey
        exact .inl ((hs.expired_of_sending hcall hsend hx hsent).append t)
      · exact (hs.live x hx k p r' hsent).imp (fun h => h.append t) (fun hlive =>
          hlive.awaits hcall (fun h => absurd h.symm hkey) (fun h => absurd h.symm hkey))
    · rw [List.mem_singleton.1 hx] at hsent ⊢
      rw [ht, FirestoreSendAnswer.sent.injEq] at hsent
      obtain ⟨rfl, rfl, rfl⟩ := hsent
      refine .inr ⟨.inl ⟨call, _, get?_awaits_self .., rfl, rfl, rfl⟩,
        fun k d r'' h hkey hstarted hd => ?_⟩
      rcases call_of_awaits h with ⟨-, rfl⟩ | ⟨-, hold⟩
      · exact (Option.some.inj hd).symm
      · -- a call with an older result began before that result expired
        obtain ⟨y, hy, hysent, hle⟩ := hs.calls.sender k d r'' hold hd
        have hexpired := (hs.expired_of_sending hcall hsend hy (hkey ▸ hysent)).now hclock
        linarith

end History

/-! ## What one step owes to the log -/

/-- The history goes on with the step, and the answer of the step fits the log before it. -/
structure SendsKept (cfg : SendConfig) (log : List FirestoreSendEntry) (s : FirestoreSends)
    (e : Timed ℚ FirestoreSendEvent) (p : FirestoreSends × FirestoreSendAnswer) : Prop where
  history : FirestoreHistory cfg (log ++ [⟨s, e, p.2⟩]) p.1
  once : ∀ x ∈ log, ∀ keyHash payloadHash r otherHash r', x.answer = .sent keyHash payloadHash r →
    p.2 = .sent keyHash otherHash r' → x.event.now + cfg.ttlSeconds ≤ e.now
  replay : ∀ x ∈ log, ∀ keyHash payloadHash r startedAt outcome,
    x.answer = .sent keyHash payloadHash r → p.2 = .ended keyHash payloadHash startedAt outcome →
      x.event.now ≤ startedAt → e.now < x.event.now + cfg.ttlSeconds → outcome = .returned r

/-- The history, whatever a step answers that sends nothing; its store is at `s₁`. -/
def HistoryAfter (cfg : SendConfig) (log : List FirestoreSendEntry) (s : FirestoreSends)
    (e : Timed ℚ FirestoreSendEvent) (s₁ : FirestoreSends) : Prop :=
  ∀ answer, (∀ k p r, answer ≠ .sent k p r) → FirestoreHistory cfg (log ++ [⟨s, e, answer⟩]) s₁

section Steps

variable {cfg : SendConfig} {log : List FirestoreSendEntry} {s s₁ : FirestoreSends}
  {e : Timed ℚ FirestoreSendEvent} {call : ℕ} {c : FirestoreCall} {access : Access}
  {keyHash payloadHash : String} {r : SendResult} {now : ℚ} {outcome : SendOutcome}

theorem FirestoreHistory.after (hs : FirestoreHistory cfg log s) (e : Timed ℚ FirestoreSendEvent) :
    HistoryAfter cfg log s e s :=
  fun _ hsilent => hs.append hsilent

theorem now_in_log (log : List FirestoreSendEntry) (s : FirestoreSends)
    (e : Timed ℚ FirestoreSendEvent) (answer : FirestoreSendAnswer) :
    ∃ y ∈ log ++ [(⟨s, e, answer⟩ : FirestoreSendEntry)], e.now ≤ y.event.now :=
  ⟨⟨s, e, answer⟩, by simp, le_rfl⟩

theorem FirestoreHistory.live_of_sent (hs : FirestoreHistory cfg log s)
    (hclock : ∀ y ∈ log, y.event.now ≤ now) {x : FirestoreSendEntry} (hx : x ∈ log)
    (hsent : x.answer = .sent keyHash payloadHash r) (hlive : now < x.event.now + cfg.ttlSeconds) :
    LiveResult cfg s keyHash payloadHash r x.event.now := by
  rcases hs.live x hx keyHash payloadHash r hsent with hexpired | h
  · exact absurd (hexpired.now hclock) (not_le.2 hlive)
  · exact h

theorem sendsKept_ignored (hs : FirestoreHistory cfg log s) :
    SendsKept cfg log s e (s, .ignored) where
  history := hs.append (by simp)
  once x hx k p r p' r' hsent h := by simp at h
  replay x hx k p r startedAt outcome hsent h := by simp at h

/-- The call goes on from `s₁`, neither claiming its key nor getting a result. -/
theorem sendsKept_goesOn (h : HistoryAfter cfg log s e s₁) (hcall : s₁.calls.get? call = some c)
    {awaiting : FirestoreAwait} (hrecord : ∀ r doc, c.awaiting ≠ .record r doc)
    (hholds : awaiting.holds = true → c.awaiting.holds = true)
    (hresult : ∀ r, awaiting.result = some r → c.awaiting.result = some r)
    (hclock : ∀ now, awaiting.clock = some now → c.awaiting.clock = some now ∨ now = e.now) :
    SendsKept cfg log s e (s₁.goesOn call c awaiting) where
  history := by
    have hs₁ := h .suspended (by simp)
    refine hs₁.awaits hcall hrecord hholds hresult (fun now hnow => ?_)
    rcases hclock now hnow with hreading | rfl
    · exact hs₁.calls.clock call c now hcall hreading
    · exact now_in_log log s e _
  once x hx k p r p' r' hsent h := by simp [FirestoreSends.goesOn] at h
  replay x hx k p r startedAt outcome hsent h := by simp [FirestoreSends.goesOn] at h

/-- The call ends in the state `s₁`, as a live result of its key asks for. -/
theorem sendsKept_ended (h : HistoryAfter cfg log s e s₁)
    (houtcome : ∀ x ∈ log, ∀ r, x.answer = .sent c.keyHash c.payloadHash r →
      x.event.now ≤ c.startedAt → e.now < x.event.now + cfg.ttlSeconds → outcome = .returned r) :
    SendsKept cfg log s e (s₁, .ended c.keyHash c.payloadHash c.startedAt outcome) where
  history := h _ (by simp)
  once x hx k p r p' r' hsent h := by simp at h
  replay x hx k p r startedAt outcome' hsent h hstarted hlive := by
    rw [FirestoreSendAnswer.ended.injEq] at h
    obtain ⟨rfl, rfl, rfl, rfl⟩ := h
    exact houtcome x hx r hsent hstarted hlive

/-- The call ends from `s₁`, and was not about to record its result. -/
theorem sendsKept_ends (h : HistoryAfter cfg log s e s₁) (hcall : s₁.calls.get? call = some c)
    (hrecord : ∀ r doc, c.awaiting ≠ .record r doc)
    (houtcome : ∀ x ∈ log, ∀ r, x.answer = .sent c.keyHash c.payloadHash r →
      x.event.now ≤ c.startedAt → e.now < x.event.now + cfg.ttlSeconds → outcome = .returned r) :
    SendsKept cfg log s e (s₁.ends call c outcome) :=
  sendsKept_ended (fun _ hsilent => (h _ hsilent).without hcall hrecord) houtcome

theorem raised_of_failed (hs : FirestoreHistory cfg log s) (hclock : ∀ y ∈ log, y.event.now ≤ e.now)
    (hfails : ¬ SendReturned e.now s c.keyHash) :
    ∀ x ∈ log, ∀ r, x.answer = .sent c.keyHash c.payloadHash r → x.event.now ≤ c.startedAt →
      e.now < x.event.now + cfg.ttlSeconds → SendOutcome.raised = .returned r := by
  intro x hx r hsent _ hlive
  exact absurd ((hs.live_of_sent hclock hx hsent hlive).sendReturned hs.claims hlive) hfails

/-- A call that finds its key claimed goes by a clock. -/
theorem sendsKept_waitOrRaise (hs : FirestoreHistory cfg log s)
    (hclock : ∀ y ∈ log, y.event.now ≤ e.now) (hcall : s.calls.get? call = some c)
    (hreading : c.awaiting.clock = some now) (hrecord : ∀ r doc, c.awaiting ≠ .record r doc) :
    SendsKept cfg log s e (s.waitOrRaise cfg call c now) := by
  rw [FirestoreSends.waitOrRaise]
  split
  · next hdeadline =>
      -- at the deadline, whatever was sent before the call began has expired
      refine sendsKept_ends (hs.after e) hcall hrecord (fun x _ r _ hstarted hlive => ?_)
      obtain ⟨y, hy, hle⟩ := hs.calls.clock call c now hcall hreading
      have hnow : now ≤ e.now := hle.trans (hclock y hy)
      have hwait : c.startedAt + cfg.ttlSeconds ≤ c.waitDeadline cfg := by
        rw [FirestoreCall.waitDeadline]
        linarith [le_max_left cfg.ttlSeconds 5]
      linarith
  · exact sendsKept_goesOn (hs.after e) hcall hrecord (by simp [FirestoreAwait.holds])
      (by simp [FirestoreAwait.result]) (by simp [FirestoreAwait.clock])

/-- A call reads the document of its key. -/
theorem sendsKept_snapshot (hs : FirestoreHistory cfg log s)
    (hclock : ∀ y ∈ log, y.event.now ≤ e.now) (hcall : s.calls.get? call = some c)
    (hget : c.awaiting = .get now) :
    SendsKept cfg log s e (s.snapshot cfg call c now (s.docs.get? c.keyHash)) := by
  have hrecord : ∀ r doc, c.awaiting ≠ .record r doc := by simp [hget]
  have hreading : c.awaiting.clock = some now := by rw [hget, FirestoreAwait.clock]
  cases hdoc : s.docs.get? c.keyHash with
  | none =>
    exact sendsKept_goesOn (hs.after e) hcall hrecord (by simp [FirestoreAwait.holds])
      (by simp [FirestoreAwait.result]) (fun n hn => .inl (hreading.trans hn))
  | some doc =>
    simp only [FirestoreSends.snapshot]
    split
    · split
      · next hother =>
          -- a live result of the call's payload has a document with that payload
          refine sendsKept_ends (hs.after e) hcall hrecord (fun x hx r hsent _ hlive => ?_)
          obtain ⟨found, hfound, hpayload, -⟩ :=
            (hs.live_of_sent hclock hx hsent hlive).doc hs.claims
          rw [hdoc, Option.some.injEq] at hfound
          exact absurd (hfound ▸ hpayload) hother
      · cases hdone : doc.done with
        | none => exact sendsKept_waitOrRaise hs hclock hcall hreading hrecord
        | some r' =>
          refine sendsKept_ends (hs.after e) hcall hrecord (fun x hx r hsent _ hlive => ?_)
          obtain ⟨found, hfound, -, ⟨hclaim, -⟩ | ⟨hresult, -⟩⟩ :=
            (hs.live_of_sent hclock hx hsent hlive).doc hs.claims
          · rw [hdoc, Option.some.injEq] at hfound
            rw [← hfound, hdone] at hclaim
            simp at hclaim
          · rw [hdoc, Option.some.injEq] at hfound
            rw [← hfound, hdone, Option.some.injEq] at hresult
            rw [hresult]
    · exact sendsKept_goesOn (hs.after e) hcall hrecord (by simp [FirestoreAwait.holds])
        (by simp [FirestoreAwait.result]) (fun n hn => .inl (hreading.trans hn))

theorem FirestoreHistory.afterDelete (hs : FirestoreHistory cfg log s)
    (hdeletes : access ≠ .refused → Deletable e.now s keyHash) :
    HistoryAfter cfg log s e (s.afterAccess access (s.eraseDoc keyHash)) := by
  intro answer hsilent
  rw [FirestoreSends.afterAccess]
  split
  · exact hs.append hsilent
  · next hdone => exact (hs.append hsilent).eraseDoc (hdeletes hdone) (now_in_log log s e answer)

theorem calls_afterDelete (s : FirestoreSends) (access : Access) (keyHash : String) :
    (s.afterAccess access (s.eraseDoc keyHash)).calls = s.calls := by
  rw [FirestoreSends.afterAccess]
  split <;> rfl

theorem sendsKept_deleteExpired (hs : FirestoreHistory cfg log s)
    (hclock : ∀ y ∈ log, y.event.now ≤ e.now) (hcall : s.calls.get? call = some c)
    (hdelete : c.awaiting = .deleteExpired now)
    (hfails : access ≠ .served → ¬ SendReturned e.now s c.keyHash)
    (hdeletes : access ≠ .refused → Deletable e.now s c.keyHash) :
    SendsKept cfg log s e
      (let s' := s.afterAccess access (s.eraseDoc c.keyHash)
       if access = .served then s'.goesOn call c (.create now) else s'.ends call c .raised) := by
  have hafter := hs.afterDelete (e := e) hdeletes
  have hcall' : (s.afterAccess access (s.eraseDoc c.keyHash)).calls.get? call = some c := by
    rw [calls_afterDelete, hcall]
  have hrecord : ∀ r doc, c.awaiting ≠ .record r doc := by simp [hdelete]
  simp only
  split
  · refine sendsKept_goesOn hafter hcall' hrecord (by simp [FirestoreAwait.holds])
      (by simp [FirestoreAwait.result]) (fun n hn => .inl ?_)
    rw [hdelete]
    exact hn
  · next hfailed =>
      exact sendsKept_ends hafter hcall' hrecord
        (raised_of_failed hs hclock (hfails hfailed))

theorem sendsKept_created (hs : FirestoreHistory cfg log s)
    (hclock : ∀ y ∈ log, y.event.now ≤ e.now) (hcall : s.calls.get? call = some c)
    (hcreate : c.awaiting = .create now)
    (hfails : access ≠ .served → ¬ SendReturned e.now s c.keyHash) :
    SendsKept cfg log s e (s.created cfg call c now access) := by
  have hrecord : ∀ r doc, c.awaiting ≠ .record r doc := by simp [hcreate]
  rw [FirestoreSends.created]
  split
  · split
    · exact sendsKept_waitOrRaise hs hclock hcall (by rw [hcreate, FirestoreAwait.clock]) hrecord
    · next hfailed =>
        exact sendsKept_ends (hs.after e) hcall hrecord
          (raised_of_failed hs hclock (hfails hfailed))
  · next habsent =>
      have hnone : s.docs.get? c.keyHash = none := by
        rwa [Dict.contains, Option.not_isSome_iff_eq_none] at habsent
      simp only
      split
      · exact {
          history := (hs.append (by simp [FirestoreSends.goesOn])).claim hcall hcreate hnone now
            (now + cfg.ttlSeconds)
          once := fun x hx k p r p' r' hsent h => by simp [FirestoreSends.goesOn] at h
          replay := fun x hx k p r startedAt outcome hsent h => by
            simp [FirestoreSends.goesOn] at h }
      · next hfailed =>
          exact sendsKept_ends (fun _ hsilent => (hs.append hsilent).setDoc hnone _) hcall hrecord
            (raised_of_failed hs hclock (hfails hfailed))

theorem sendsKept_sent (hs : FirestoreHistory cfg log s) (httl : 0 < cfg.ttlSeconds)
    (hclock : ∀ y ∈ log, y.event.now ≤ e.now) (hcall : s.calls.get? call = some c)
    (hsend : c.awaiting = .send) :
    SendsKept cfg log s e
      (s.awaits call c (.record r ⟨c.payloadHash, some r, e.now, e.now + cfg.ttlSeconds⟩),
        .sent c.keyHash c.payloadHash r) where
  history := hs.sent httl hcall hsend rfl hclock
  once x hx k p r' p' r'' hsent h := by
    rw [FirestoreSendAnswer.sent.injEq] at h
    obtain ⟨rfl, -, -⟩ := h
    exact (hs.expired_of_sending hcall hsend hx hsent).now hclock
  replay x hx k p r startedAt outcome hsent h := by simp at h

theorem sendsKept_pruneNext (hs : FirestoreHistory cfg log s)
    (hclock : ∀ y ∈ log, y.event.now ≤ e.now) (h : HistoryAfter cfg log s e s₁)
    (hcall : s.calls.get? call = some c) (hcall₁ : s₁.calls.get? call = some c)
    (hrecord : ∀ r doc, c.awaiting ≠ .record r doc) (hresult : c.awaiting.result = some r)
    (docs : List String) : SendsKept cfg log s e (s₁.pruneNext call c r docs) := by
  cases docs with
  | nil =>
    refine sendsKept_ends h hcall₁ hrecord (fun x hx r' hsent hstarted hlive => ?_)
    rw [(hs.live_of_sent hclock hx hsent hlive).later call c r hcall rfl hstarted hresult]
  | cons k docs =>
    refine sendsKept_goesOn h hcall₁ hrecord (by simp [FirestoreAwait.holds]) (fun r' hr' => ?_)
      (by simp [FirestoreAwait.clock])
    rw [hresult]
    exact hr'

theorem sendsKept_clear (hs : FirestoreHistory cfg log s)
    (hclock : ∀ y ∈ log, y.event.now ≤ e.now) (hcall : s.calls.get? call = some c)
    (hclear : c.awaiting = .clear) (access : Access) :
    SendsKept cfg log s e ((s.afterAccess access (s.eraseDoc c.keyHash)).ends call c .raised) := by
  refine sendsKept_ended (fun answer hsilent => ?_) (fun x hx r hsent _ hlive => ?_)
  · rw [FirestoreSends.afterAccess]
    split
    · exact (hs.append hsilent).without hcall (by simp [hclear])
    · exact (hs.append hsilent).clear hcall hclear
  · have hrecord := (hs.live_of_sent hclock hx hsent hlive).holder hs.claims hcall rfl
      (by rw [hclear]; rfl)
    simp [hclear] at hrecord

theorem served_of_result (hcall : s.calls.get? call = some c)
    (hfails : access ≠ .served → ¬ SendReturned e.now s c.keyHash)
    (hresult : c.awaiting.result = some r) : access = .served := by
  by_contra hfailed
  exact hfails hfailed (.inl ⟨call, c, hcall, rfl, by rw [hresult]; rfl⟩)

/-- An access that a call awaits is done. -/
theorem sendsKept_firestore (hs : FirestoreHistory cfg log s)
    (hclock : ∀ y ∈ log, y.event.now ≤ e.now) (hcall : s.calls.get? call = some c)
    (hfails : access ≠ .served → ¬ SendReturned e.now s c.keyHash)
    (hdeletes : ∀ k, access ≠ .refused → c.deletes = some k → Deletable e.now s k) :
    SendsKept cfg log s e (s.firestore cfg call c access) := by
  cases hawaiting : c.awaiting with
  | get now =>
    simp only [FirestoreSends.firestore, hawaiting]
    split
    · exact sendsKept_snapshot hs hclock hcall hawaiting
    · next hfailed =>
        exact sendsKept_ends (hs.after e) hcall (by simp [hawaiting])
          (raised_of_failed hs hclock (hfails hfailed))
  | deleteExpired now =>
    simp only [FirestoreSends.firestore, hawaiting]
    exact sendsKept_deleteExpired hs hclock hcall hawaiting hfails
      (fun hdone => hdeletes _ hdone (by rw [FirestoreCall.deletes, hawaiting]))
  | create now =>
    simp only [FirestoreSends.firestore, hawaiting]
    split
    · next hrefused =>
        exact sendsKept_ends (hs.after e) hcall (by simp [hawaiting])
          (raised_of_failed hs hclock (hfails (by simp [hrefused])))
    · exact sendsKept_created hs hclock hcall hawaiting hfails
  | sleep =>
    simp only [FirestoreSends.firestore, hawaiting]
    exact sendsKept_ignored hs
  | send =>
    simp only [FirestoreSends.firestore, hawaiting]
    exact sendsKept_ignored hs
  | record r doc =>
    have hserved := served_of_result hcall hfails (by rw [hawaiting, FirestoreAwait.result])
    simp only [FirestoreSends.firestore, hawaiting, hserved, FirestoreSends.afterAccess,
      reduceCtorEq, if_true, if_false]
    exact {
      history := (hs.append (by simp [FirestoreSends.goesOn])).record hcall hawaiting
      once := fun x hx k p r p' r' hsent h => by simp [FirestoreSends.goesOn] at h
      replay := fun x hx k p r startedAt outcome hsent h => by
        simp [FirestoreSends.goesOn] at h }
  | prune r =>
    have hresult : c.awaiting.result = some r := by rw [hawaiting, FirestoreAwait.result]
    simp only [FirestoreSends.firestore, hawaiting, served_of_result hcall hfails hresult, if_true]
    exact sendsKept_pruneNext hs hclock (hs.after e) hcall hcall (by simp [hawaiting]) hresult _
  | pruneDelete r docs =>
    have hresult : c.awaiting.result = some r := by rw [hawaiting, FirestoreAwait.result]
    cases docs with
    | nil =>
      simp only [FirestoreSends.firestore, hawaiting]
      exact sendsKept_ignored hs
    | cons k docs =>
      simp only [FirestoreSends.firestore, hawaiting]
      rw [if_pos (served_of_result hcall hfails hresult)]
      exact sendsKept_pruneNext hs hclock
        (hs.afterDelete (fun hdone => hdeletes k hdone (by rw [FirestoreCall.deletes, hawaiting])))
        hcall (by rw [calls_afterDelete, hcall]) (by simp [hawaiting]) hresult docs
  | clear =>
    simp only [FirestoreSends.firestore, hawaiting]
    exact sendsKept_clear hs hclock hcall hawaiting access

/-- A call that waits for no Firestore access goes on to the next one. -/
theorem sendsKept_wakes (hs : FirestoreHistory cfg log s) (hcall : s.calls.get? call = some c)
    (hsleep : c.awaiting = .sleep) : SendsKept cfg log s e (s.goesOn call c (.get e.now)) := by
  refine sendsKept_goesOn (hs.after e) hcall (by simp [hsleep]) (by simp [FirestoreAwait.holds])
    (by simp [FirestoreAwait.result]) (fun n hn => .inr ?_)
  exact (Option.some.inj hn).symm

theorem sendsKept_raises (hs : FirestoreHistory cfg log s) (hcall : s.calls.get? call = some c)
    (hsend : c.awaiting = .send) : SendsKept cfg log s e (s.goesOn call c .clear) :=
  sendsKept_goesOn (hs.after e) hcall (by simp [hsend]) (by simp [hsend, FirestoreAwait.holds])
    (by simp [FirestoreAwait.result]) (by simp [FirestoreAwait.clock])

/-- **Step lemma**: a step that meets the condition keeps the history, and its answer fits the
    log. -/
theorem sendsKept_step (hs : FirestoreHistory cfg log s) (httl : 0 < cfg.ttlSeconds)
    (hclock : ∀ y ∈ log, y.event.now ≤ e.now) (hkeeps : KeepsSends s e) :
    SendsKept cfg log s e ((firestoreSendMachine cfg).step s e) := by
  cases hevent : e.event with
  | call idempotencyKey payloadHash =>
    simp only [firestoreSendMachine, hevent]
    exact {
      history := (hs.append (by simp)).begin (now_in_log log s e _) _ _
      once := fun x hx k p r p' r' hsent h => by simp at h
      replay := fun x hx k p r startedAt outcome hsent h => by simp at h }
  | firestore call access =>
    simp only [firestoreSendMachine, hevent]
    cases hcall : s.calls.get? call with
    | none => exact sendsKept_ignored hs
    | some c =>
      exact sendsKept_firestore hs hclock hcall (hkeeps.fails call access c hevent hcall)
        (fun k => hkeeps.deletes call access c k hevent hcall)
  | sendReturns call status body =>
    simp only [firestoreSendMachine, hevent]
    cases hcall : s.calls.get? call with
    | none => exact sendsKept_ignored hs
    | some c =>
      simp only
      split
      · next hsend => exact sendsKept_sent hs httl hclock hcall hsend
      · exact sendsKept_ignored hs
  | sendRaises call =>
    simp only [firestoreSendMachine, hevent]
    cases hcall : s.calls.get? call with
    | none => exact sendsKept_ignored hs
    | some c =>
      simp only
      split
      · next hsend => exact sendsKept_raises hs hcall hsend
      · exact sendsKept_ignored hs
  | wake call =>
    simp only [firestoreSendMachine, hevent]
    cases hcall : s.calls.get? call with
    | none => exact sendsKept_ignored hs
    | some c =>
      simp only
      split
      · next hsleep => exact sendsKept_wakes hs hcall hsleep
      · exact sendsKept_ignored hs

end Steps

/-! ## Whole runs -/

/-- **Idempotent sends over Firestore**: in every run in which no access fails once a send of its
    key has returned, and only what has expired is deleted as expired, the sends are idempotent. -/
theorem firestoreIdempotent_of_keepsSends (cfg : SendConfig) (httl : 0 < cfg.ttlSeconds)
    (es : List (Timed ℚ FirestoreSendEvent)) (hclock : es.Pairwise (fun e e' => e.now ≤ e'.now))
    (hkeeps : ∀ t ∈ (firestoreSendMachine cfg).trace .start es, KeepsSends t.pre t.event) :
    FirestoreIdempotent cfg ((firestoreSendMachine cfg).trace .start es) := by
  have hordered := (firestoreSendMachine cfg).trace_pairwise_event (s := .start) hclock
  have hlog : ∀ h t, h ++ [t] <+: (firestoreSendMachine cfg).trace .start es →
      SendsKept cfg h t.pre t.event ((firestoreSendMachine cfg).step t.pre t.event) :=
    (firestoreSendMachine cfg).trace_forall (C := FirestoreHistory cfg) (.start cfg)
        (fun h s e hp hs => by
      have hlater : ∀ y ∈ h, y.event.now ≤ e.now := EventMachine.rel_of_prefix hordered hp
      have hkept := sendsKept_step hs httl hlater
        (hkeeps _ (hp.subset (List.mem_append_right h (List.mem_singleton_self _))))
      exact ⟨hkept, hkept.history⟩)
  -- the entries of the log have the answers of their steps
  have hanswer : ∀ h t, h ++ [t] <+: (firestoreSendMachine cfg).trace .start es →
      t.answer = ((firestoreSendMachine cfg).step t.pre t.event).2 := by
    intro h t hp
    have ht := hp.subset (List.mem_append_right h (List.mem_singleton_self t))
    exact congrArg EventMachine.Entry.answer ((firestoreSendMachine cfg).eq_entry_of_mem_trace ht)
  refine ⟨EventMachine.pairwise_of_prefix (fun h t hp x hx => ?_),
    EventMachine.pairwise_of_prefix (fun h t hp x hx => ?_)⟩
  · rw [hanswer h t hp]
    exact (hlog h t hp).once x hx
  · rw [hanswer h t hp]
    exact (hlog h t hp).replay x hx

/-- A call that has sent: it has read its document, created the claim, and its send has returned. -/
def firstSend : List (Timed ℚ FirestoreSendEvent) :=
  [⟨0, .call "order-7" "p"⟩, ⟨0, .firestore 0 .served⟩, ⟨1, .firestore 0 .served⟩,
    ⟨2, .sendReturns 0 200 (.dict [])⟩, ⟨3, .firestore 0 .served⟩]

/-- The call prunes, and a retry reads its result. -/
def retriedSend : List (Timed ℚ FirestoreSendEvent) :=
  firstSend ++ [⟨4, .firestore 0 .served⟩, ⟨5, .call "order-7" "p"⟩, ⟨6, .firestore 1 .served⟩]

/-- The query of the prune fails, so the call deletes its result and raises; the retry sends
    again. -/
def unprunedSend : List (Timed ℚ FirestoreSendEvent) :=
  firstSend ++ [⟨4, .firestore 0 .refused⟩, ⟨4, .firestore 0 .served⟩, ⟨5, .call "order-7" "p"⟩,
    ⟨6, .firestore 1 .served⟩, ⟨7, .firestore 1 .served⟩, ⟨8, .sendReturns 1 200 (.dict [])⟩]

/-- The retry replays the result. -/
theorem retriedSend_idempotent :
    FirestoreIdempotent dailySends
    ((firestoreSendMachine dailySends).trace .start retriedSend) := by
  refine firestoreIdempotent_of_keepsSends dailySends (by decide +kernel) retriedSend
    (by decide +kernel) (fun t ht => ⟨?_, ?_⟩)
  · -- every access is served
    intro call access c hevent _ hfailed
    have hmem : t.event ∈ retriedSend := by
      rw [← (firestoreSendMachine dailySends).trace_map_event .start retriedSend]
      exact List.mem_map_of_mem ht
    have hserved : ∀ e ∈ retriedSend, ∀ call access, e.event = .firestore call access →
        access = .served := by
      simp [retriedSend, firstSend, eq_comm]
    exact absurd (hserved _ hmem call access hevent) hfailed
  · -- no call deletes
    intro call access c k _ hcall _ hdeletes
    have hnone : ∀ t ∈ (firestoreSendMachine dailySends).trace .start retriedSend,
        ∀ entry ∈ t.pre.calls.entries, entry.2.deletes = none := by
      decide +kernel
    have h := hnone t ht (call, c) ((Dict.get?_eq_some_iff _ _ _).1 hcall)
    rw [hdeletes] at h
    simp at h

/-- The failing prune lets the key be sent twice within a day. -/
theorem unprunedSend_resent :
    ¬ FirestoreIdempotent dailySends
      ((firestoreSendMachine dailySends).trace .start unprunedSend) := by
  intro h
  have hsent := List.pairwise_iff_getElem.1 h.once 3 10 (by decide +kernel) (by decide +kernel)
    (by decide)
  have hlate := hsent "order-7" "p" (200, .dict []) "p" (200, .dict []) (by rfl) (by rfl)
  exact absurd hlate (by decide +kernel)

end Ekaette
