import Ekaette.Admin.Idempotency
import Ekaette.Firestore

set_option autoImplicit false

/-! # Admin idempotency when Firestore fails

The calls of `_idempotency_preflight` and `_idempotency_commit` with one scope, tenant, key and
payload over Firestore, interleaved at every access, any of which may fail. A preflight that cannot
use Firestore falls back to the store in memory, and so does a commit, so that each of the two
stores can have a request executed that the other one knows nothing of. -/

namespace Ekaette

variable {Payload β : Type}

/-! ## The calls -/

/-- The access to Firestore a call awaits; `now` is its reading of the clock. -/
inductive AdminAwait (β : Type) where
  | create (now : ℚ)
  | get (now : ℚ)
  | set (record : AdminEntry β)

structure AdminCalls (β : Type) where
  docs : AdminStore β
  memory : AdminStore β
  /-- the calls that have not returned -/
  calls : Dict ℕ (AdminAwait β)
  /-- the number of the next call -/
  nextCall : ℕ

def AdminCalls.start : AdminCalls β := ⟨.empty, .empty, .empty, 0⟩

inductive AdminFaultEvent (β : Type) where
  /-- A preflight begins; `_registry_db_client()` gives a client or not. -/
  | preflight (client : Bool)
  /-- A commit with the key and the fingerprint of a preflight begins. -/
  | commit (statusCode : ℤ) (body : β) (client : Bool)
  /-- The access a call awaits is done. -/
  | firestore (call : ℕ) (access : Access)

inductive AdminFaultAnswer (β : Type) where
  | ignored
  /-- the call goes on to its next `await` -/
  | suspended
  /-- a preflight has created the document and is told to execute -/
  | claimed
  /-- a preflight that began at `startedAt` has found a document -/
  | decided (startedAt : ℚ) (decision : AdminDecision β)
  /-- a preflight has fallen back to memory -/
  | fellBack (decision : AdminDecision β)
  /-- a commit is over -/
  | committed

/-- The call is told to execute. -/
def AdminFaultAnswer.executes : AdminFaultAnswer β → Bool
  | .claimed => true
  | .decided _ (.execute _ _) => true
  | .fellBack (.execute _ _) => true
  | _ => false

/-- The call is told to execute by the store in memory. -/
def AdminFaultAnswer.executesByFallback : AdminFaultAnswer β → Bool
  | .fellBack (.execute _ _) => true
  | _ => false

section Steps

variable (cfg : AdminIdempotency Payload β) (key : AdminKey) (payload : Payload)

variable (s : AdminCalls β)

/-- A new call awaits its first access. -/
def AdminCalls.begins (awaiting : AdminAwait β) :
    AdminCalls β × AdminFaultAnswer β :=
  ({ s with calls := s.calls.set s.nextCall awaiting, nextCall := s.nextCall + 1 }, .suspended)

/-- The fallback of a preflight. -/
def AdminCalls.fallBack (now : ℚ) : AdminCalls β × AdminFaultAnswer β :=
  let r := memoryBeginWithKey cfg key payload now s.memory
  ({ s with memory := r.1 }, .fellBack r.2)

/-- The fallback of a commit. -/
def AdminCalls.recordInMemory (statusCode : ℤ) (body : β) (now : ℚ) :
    AdminCalls β × AdminFaultAnswer β :=
  ({ s with memory := memoryRecord cfg key (cfg.fingerprint payload) statusCode body now s.memory },
    .committed)

/-- The call is over. -/
def AdminCalls.without (call : ℕ) : AdminCalls β :=
  { s with calls := s.calls.erase call }

/-- The documents after a `create` that takes effect. -/
def AdminCalls.createDoc (now : ℚ) : AdminCalls β :=
  if s.docs.contains (cfg.docId key) then s
  else { s with
    docs := s.docs.set (cfg.docId key) (cfg.pendingRecord (cfg.fingerprint payload) now) }

/-- The documents after a `set` that takes effect. -/
def AdminCalls.setDoc (record : AdminEntry β) : AdminCalls β :=
  { s with docs := s.docs.set (cfg.docId key) (cfg.mergeDoc record (s.docs.get? (cfg.docId key))) }

/-- What a preflight makes of the snapshot that `get` returns; an absent document has no
    fingerprint. -/
def AdminIdempotency.decideOnSnapshot (now : ℚ) : Option (AdminEntry β) → AdminDecision β
  | none => .rejected .reusedWithDifferentPayload
  | some entry => cfg.decideOnDoc payload now entry

/-- The access a call awaits is done, at `now`. -/
def AdminCalls.firestore (call : ℕ) (awaiting : AdminAwait β) (access : Access)
    (now : ℚ) : AdminCalls β × AdminFaultAnswer β :=
  match awaiting with
  | .create startedAt =>
    match access with
    | .served =>
      if s.docs.contains (cfg.docId key) then
        ({ s with calls := s.calls.set call (.get startedAt) }, .suspended)
      else ((s.without call).createDoc cfg key payload startedAt, .claimed)
    | .refused => (s.without call).fallBack cfg key payload now
    | .lost => ((s.without call).createDoc cfg key payload startedAt).fallBack cfg key payload now
  | .get startedAt =>
    match access with
    | .served => (s.without call, .decided startedAt
        (cfg.decideOnSnapshot payload startedAt (s.docs.get? (cfg.docId key))))
    | _ => (s.without call).fallBack cfg key payload now
  | .set record =>
    match access with
    | .served => ((s.without call).setDoc cfg key record, .committed)
    | .refused => (s.without call).recordInMemory cfg key payload record.statusCode record.body now
    | .lost => ((s.without call).setDoc cfg key record).recordInMemory cfg key payload
        record.statusCode record.body now

/-- The calls with one key and payload, interleaved at their accesses. -/
def adminFaultMachine :
    EventMachine (AdminCalls β) (Timed ℚ (AdminFaultEvent β)) (AdminFaultAnswer β) where
  step s e :=
    match e.event with
    | .preflight client =>
      if client then s.begins (.create e.now) else s.fallBack cfg key payload e.now
    | .commit statusCode body client =>
      if client then s.begins
        (.set (cfg.doneRecord (cfg.fingerprint payload) statusCode body e.now))
      else s.recordInMemory cfg key payload statusCode body e.now
    | .firestore call access =>
      match s.calls.get? call with
      | none => (s, .ignored)
      | some awaiting => s.firestore cfg key payload call awaiting access e.now

end Steps

abbrev AdminFaultEntry (β : Type) :=
  EventMachine.Entry (AdminCalls β) (Timed ℚ (AdminFaultEvent β)) (AdminFaultAnswer β)

/-! ## The property -/

/-- A `set` of a commit takes effect, whether its reply arrives or not. -/
def StoresResponse (record : AdminEntry β) (t : AdminFaultEntry β) : Prop :=
  ∃ call access, t.event.event = .firestore call access ∧
    t.pre.calls.get? call = some (.set record) ∧ access ≠ .refused

/-- A commit records its response in memory. -/
def RecordsInMemory (statusCode : ℤ) (body : β) (t : AdminFaultEntry β) : Prop :=
  t.event.event = .commit statusCode body false ∨
    ∃ call access record, t.event.event = .firestore call access ∧
      t.pre.calls.get? call = some (.set record) ∧ access ≠ .served ∧
      record.statusCode = statusCode ∧ record.body = body

/-- **What survives failing accesses.** -/
structure ExecutedOnce (cfg : AdminIdempotency Payload β) (log : List (AdminFaultEntry β)) :
    Prop where
  /-- of two calls that are told to execute, one has fallen back to memory -/
  once : log.Pairwise (fun x y => x.answer.executes = true → y.answer.executes = true →
    x.answer.executesByFallback = true ∨ y.answer.executesByFallback = true)
  /-- memory has two calls executed only with the shorter of the two lifetimes between them -/
  apart : log.Pairwise (fun x y => x.answer.executesByFallback = true →
    y.answer.executesByFallback = true →
    x.event.now + min (cfg.pendingTtlSeconds : ℚ) cfg.ttlSeconds ≤ y.event.now)
  /-- the only response that Firestore has is replayed until it expires -/
  replay : ∀ before y between t after, log = before ++ y :: (between ++ t :: after) →
    ∀ record, StoresResponse record y →
      (∀ x ∈ before ++ between, ∀ record', ¬ StoresResponse record' x) →
      ∀ startedAt decision, t.answer = .decided startedAt decision → startedAt < record.expiresAt →
        decision = .replay record.statusCode record.body
  /-- the response that memory recorded last is replayed by every fallback until it expires -/
  replayInMemory : ∀ before y between t after, log = before ++ y :: (between ++ t :: after) →
    ∀ statusCode body, RecordsInMemory statusCode body y →
      (∀ x ∈ between, ∀ statusCode' body', ¬ RecordsInMemory statusCode' body' x) →
      ∀ decision, t.answer = .fellBack decision → t.event.now < y.event.now + cfg.ttlSeconds →
        decision = .replay statusCode body

/-! ## One step -/

section Step

variable (cfg : AdminIdempotency Payload β) (key : AdminKey) (payload : Payload)

/-- A preflight is answered from the document of the key. -/
def AdminFaultAnswer.usesDoc : AdminFaultAnswer β → Bool
  | .claimed => true
  | .decided _ _ => true
  | _ => false

/-- A preflight is answered from the store in memory. -/
def AdminFaultAnswer.usesMemory : AdminFaultAnswer β → Bool
  | .fellBack _ => true
  | _ => false

theorem AdminFaultAnswer.usesMemory_of_executes {answer : AdminFaultAnswer β}
    (h : answer.executesByFallback = true) : answer.usesMemory = true := by
  cases answer with
  | fellBack decision => rfl
  | _ => cases h

/-- What a step does to the document of the key, and what its answer says about it. -/
inductive DocStep (s s' : AdminCalls β) (stores : AdminEntry β → Prop)
    (answer : AdminFaultAnswer β) :
    Prop where
  | kept (docs : s'.docs = s.docs) (unused : answer.usesDoc = false)
  /-- a preflight decides on it -/
  | read (startedAt : ℚ) (docs : s'.docs = s.docs) (decided : answer = .decided startedAt
      (cfg.decideOnSnapshot payload startedAt (s.docs.get? (cfg.docId key))))
  /-- a preflight creates it, and is told to execute or does not hear of it -/
  | created (startedAt : ℚ) (absent : s.docs.get? (cfg.docId key) = none)
      (docs : s'.docs = s.docs.set (cfg.docId key)
        (cfg.pendingRecord (cfg.fingerprint payload) startedAt))
      (told : answer = .claimed ∨ answer.usesDoc = false)
  /-- a commit stores its response -/
  | stored (record : AdminEntry β) (response : stores record)
      (docs : s'.docs = s.docs.set (cfg.docId key)
        (cfg.mergeDoc record (s.docs.get? (cfg.docId key))))
      (ended : answer = .committed)

variable {cfg key payload} {s : AdminCalls β}

theorem firestore_none (now : ℚ) {call : ℕ} (access : Access) (hcall : s.calls.get? call = none) :
    (adminFaultMachine cfg key payload).step s ⟨now, .firestore call access⟩ = (s, .ignored) := by
  unfold adminFaultMachine
  dsimp only
  rw [hcall]

theorem firestore_some (now : ℚ) {call : ℕ} (access : Access) {awaiting : AdminAwait β}
    (hcall : s.calls.get? call = some awaiting) :
    (adminFaultMachine cfg key payload).step s ⟨now, .firestore call access⟩ =
      s.firestore cfg key payload call awaiting access now := by
  unfold adminFaultMachine
  dsimp only
  rw [hcall]

variable (cfg key payload) in
theorem createDoc_docs (s : AdminCalls β) (now : ℚ) :
    (s.docs.contains (cfg.docId key) = true ∧ s.createDoc cfg key payload now = s) ∨
      (s.docs.get? (cfg.docId key) = none ∧ (s.createDoc cfg key payload now).docs =
        s.docs.set (cfg.docId key) (cfg.pendingRecord (cfg.fingerprint payload) now)) := by
  unfold AdminCalls.createDoc
  by_cases hdoc : s.docs.contains (cfg.docId key) = true
  · left
    rw [if_pos hdoc]
    exact ⟨hdoc, rfl⟩
  · right
    rw [if_neg hdoc]
    rw [Dict.contains, Bool.not_eq_true, Option.isSome_eq_false_iff,
      Option.isNone_iff_eq_none] at hdoc
    exact ⟨hdoc, rfl⟩

variable (cfg key payload) in
/-- **What a step does to the document of the key.** -/
theorem docStep (s : AdminCalls β) (e : Timed ℚ (AdminFaultEvent β)) :
    DocStep cfg key payload s ((adminFaultMachine cfg key payload).next s e)
      (fun record => StoresResponse record ((adminFaultMachine cfg key payload).entry s e))
      ((adminFaultMachine cfg key payload).step s e).2 := by
  obtain ⟨now, event⟩ := e
  cases event with
  | preflight client => cases client <;> exact .kept rfl rfl
  | commit statusCode body client => cases client <;> exact .kept rfl rfl
  | firestore call access =>
    cases hcall : s.calls.get? call with
    | none =>
      rw [EventMachine.next, firestore_none now access hcall]
      exact .kept rfl rfl
    | some awaiting =>
      have hstores : ∀ record, awaiting = .set record → access ≠ .refused → StoresResponse record
          ((adminFaultMachine cfg key payload).entry s ⟨now, .firestore call access⟩) :=
        fun record hawaiting haccess => ⟨call, access, rfl, hawaiting ▸ hcall, haccess⟩
      rw [EventMachine.next, firestore_some now access hcall]
      cases awaiting with
      | create startedAt =>
        have hdocs : (s.without call).docs = s.docs := rfl
        have hcases := createDoc_docs cfg key payload (s.without call) startedAt
        rw [hdocs] at hcases
        rcases hcases with ⟨hdoc, hsame⟩ | ⟨hdoc, hcreated⟩
        · cases access with
          | served =>
            rw [AdminCalls.firestore, if_pos hdoc]
            exact .kept rfl rfl
          | refused => exact .kept rfl rfl
          | lost =>
            rw [AdminCalls.firestore, hsame]
            exact .kept rfl rfl
        · cases access with
          | served =>
            have hnot : ¬ s.docs.contains (cfg.docId key) = true := by
              rw [Dict.contains, hdoc]
              exact Bool.false_ne_true
            rw [AdminCalls.firestore, if_neg hnot]
            exact .created startedAt hdoc hcreated (.inl rfl)
          | refused => exact .kept rfl rfl
          | lost => exact .created startedAt hdoc hcreated (.inr rfl)
      | get startedAt =>
        cases access with
        | served => exact .read startedAt rfl rfl
        | refused => exact .kept rfl rfl
        | lost => exact .kept rfl rfl
      | set record =>
        cases access with
        | served => exact .stored record (hstores record rfl (by simp)) rfl rfl
        | refused => exact .kept rfl rfl
        | lost => exact .stored record (hstores record rfl (by simp)) rfl rfl

variable (cfg key payload) in
/-- **What a step does to the store in memory.** -/
inductive MemoryStep (now : ℚ) (s s' : AdminCalls β) (records : ℤ → β → Prop)
    (answer : AdminFaultAnswer β) : Prop where
  | kept (memory : s'.memory = s.memory) (unused : answer.usesMemory = false)
  /-- a preflight falls back -/
  | fellBack (memory : s'.memory = (memoryBeginWithKey cfg key payload now s.memory).1)
      (decided : answer = .fellBack (memoryBeginWithKey cfg key payload now s.memory).2)
  /-- a commit falls back -/
  | recorded (statusCode : ℤ) (body : β) (response : records statusCode body)
      (ended : answer = .committed)
      (memory : s'.memory =
        memoryRecord cfg key (cfg.fingerprint payload) statusCode body now s.memory)

variable (cfg key payload) in
theorem createDoc_memory (s : AdminCalls β) (now : ℚ) :
    (s.createDoc cfg key payload now).memory = s.memory := by
  unfold AdminCalls.createDoc
  split_ifs <;> rfl

theorem memoryStep (s : AdminCalls β) (e : Timed ℚ (AdminFaultEvent β)) :
    MemoryStep cfg key payload e.now s ((adminFaultMachine cfg key payload).next s e)
      (fun statusCode body =>
        RecordsInMemory statusCode body ((adminFaultMachine cfg key payload).entry s e))
      ((adminFaultMachine cfg key payload).step s e).2 := by
  obtain ⟨now, event⟩ := e
  cases event with
  | preflight client =>
    cases client with
    | true => exact .kept rfl rfl
    | false => exact .fellBack rfl rfl
  | commit statusCode body client =>
    cases client with
    | true => exact .kept rfl rfl
    | false => exact .recorded statusCode body (.inl rfl) rfl rfl
  | firestore call access =>
    cases hcall : s.calls.get? call with
    | none =>
      rw [EventMachine.next, firestore_none now access hcall]
      exact .kept rfl rfl
    | some awaiting =>
      rw [EventMachine.next, firestore_some now access hcall]
      cases awaiting with
      | create startedAt =>
        cases access with
        | served =>
          rw [AdminCalls.firestore]
          split_ifs with hdoc
          · exact .kept rfl rfl
          · exact .kept (createDoc_memory cfg key payload _ _) rfl
        | refused => exact .fellBack rfl rfl
        | lost =>
          have hmemory := createDoc_memory cfg key payload (s.without call) startedAt
          refine .fellBack ?_ ?_
          · show (memoryBeginWithKey cfg key payload now _).1 = _
            rw [hmemory]
            rfl
          · show AdminFaultAnswer.fellBack (memoryBeginWithKey cfg key payload now _).2 = _
            rw [hmemory]
            rfl
      | get startedAt =>
        cases access with
        | served => exact .kept rfl rfl
        | refused => exact .fellBack rfl rfl
        | lost => exact .fellBack rfl rfl
      | set record =>
        cases access with
        | served => exact .kept rfl rfl
        | refused =>
          exact .recorded record.statusCode record.body
            (.inr ⟨call, .refused, record, rfl, hcall, nofun, rfl, rfl⟩) rfl rfl
        | lost =>
          exact .recorded record.statusCode record.body
            (.inr ⟨call, .lost, record, rfl, hcall, nofun, rfl, rfl⟩) rfl rfl

variable (cfg key payload) in
/-- Memory either has the request executed, and claims the key, or holds an entry that has not
    expired. -/
theorem memoryBeginWithKey_cases (now : ℚ) (store : AdminStore β) :
    ((idempotencyPrune now store).get? key.storeKey = none ∧
      (memoryBeginWithKey cfg key payload now store).1.get? key.storeKey =
        some (cfg.pendingRecord (cfg.fingerprint payload) now)) ∨
    ((memoryBeginWithKey cfg key payload now store).1 = idempotencyPrune now store ∧
      ∀ idempotencyKey fp,
        (memoryBeginWithKey cfg key payload now store).2 ≠ .execute idempotencyKey fp) := by
  unfold memoryBeginWithKey
  dsimp only
  cases (idempotencyPrune now store).get? key.storeKey with
  | none => exact .inl ⟨rfl, Dict.get?_set_self _ _ _⟩
  | some cached =>
    right
    dsimp only
    by_cases hfp : cached.fingerprint ≠ cfg.fingerprint payload
    · rw [if_pos hfp]
      exact ⟨rfl, by simp⟩
    · rw [if_neg hfp]
      cases cached.state with
      | pending => exact ⟨rfl, by simp⟩
      | done => exact ⟨rfl, by simp⟩

/-- An entry stays until it expires. -/
theorem get?_idempotencyPrune_of_live {now : ℚ} {store : AdminStore β} {storeKey : String}
    {entry : AdminEntry β} (hget : store.get? storeKey = some entry)
    (hlive : ¬ entry.expiresAt ≤ now) :
    (idempotencyPrune now store).get? storeKey = some entry := by
  rw [idempotencyPrune, Dict.get?_filter, hget, Option.filter_some_pos (by simpa using hlive)]

theorem memoryBeginWithKey_done {now recordedAt : ℚ} {store : AdminStore β} {statusCode : ℤ}
    {body : β} (hget : (idempotencyPrune now store).get? key.storeKey =
      some (cfg.doneRecord (cfg.fingerprint payload) statusCode body recordedAt)) :
    memoryBeginWithKey cfg key payload now store =
      (idempotencyPrune now store, .replay statusCode body) := by
  rw [memoryBeginWithKey, hget]
  exact if_neg (not_not.2 rfl)

/-! ## Executions by fallback -/

variable (key) in
/-- Memory holds the key until a time, or the clock has passed it. -/
def HeldInMemory (deadline : ℚ) (log : List (AdminFaultEntry β)) (s : AdminCalls β) : Prop :=
  (∃ entry, s.memory.get? key.storeKey = some entry ∧ deadline ≤ entry.expiresAt) ∨
    ∃ z ∈ log, deadline ≤ z.event.now

/-- The time until which an execution by fallback at `now` holds the key. -/
def AdminIdempotency.heldUntil (cfg : AdminIdempotency Payload β) (now : ℚ) : ℚ :=
  now + min (cfg.pendingTtlSeconds : ℚ) cfg.ttlSeconds

theorem heldInMemory_step {deadline executedAt : ℚ} {log : List (AdminFaultEntry β)}
    {s : AdminCalls β} {e : Timed ℚ (AdminFaultEvent β)} (hheld : HeldInMemory key deadline log s)
    (hdeadline : deadline = cfg.heldUntil executedAt) (hpast : executedAt ≤ e.now)
    (hclock : ∀ z ∈ log, z.event.now ≤ e.now) :
    HeldInMemory key deadline (log ++ [(adminFaultMachine cfg key payload).entry s e])
        ((adminFaultMachine cfg key payload).next s e) ∧
      (((adminFaultMachine cfg key payload).step s e).2.executesByFallback = true →
        deadline ≤ e.now) := by
  have hnow : deadline ≤ e.now → HeldInMemory key deadline
      (log ++ [(adminFaultMachine cfg key payload).entry s e])
      ((adminFaultMachine cfg key payload).next s e) := by
    intro hle
    exact .inr ⟨_, List.mem_append_right _ List.mem_cons_self, hle⟩
  rcases hheld with ⟨entry, hget, hlater⟩ | ⟨z, hz, hpassed⟩
  · rcases memoryStep s e with ⟨hmemory, hunused⟩ | ⟨hmemory, hdecided⟩ |
      ⟨statusCode, body, -, hover, hmemory⟩
    · refine ⟨.inl ⟨entry, ?_, hlater⟩, fun hexecutes => ?_⟩
      · rw [hmemory, hget]
      · rw [AdminFaultAnswer.usesMemory_of_executes hexecutes] at hunused
        cases hunused
    · by_cases hexpired : entry.expiresAt ≤ e.now
      · exact ⟨hnow (hlater.trans hexpired), fun _ => hlater.trans hexpired⟩
      have hpruned := get?_idempotencyPrune_of_live hget hexpired
      rcases memoryBeginWithKey_cases cfg key payload e.now s.memory with
        ⟨habsent, -⟩ | ⟨hkept, hrefused⟩
      · rw [hpruned] at habsent
        cases habsent
      · refine ⟨.inl ⟨entry, ?_, hlater⟩, fun hexecutes => ?_⟩
        · rw [hmemory, hkept, hpruned]
        · rw [hdecided] at hexecutes
          cases hdecision : (memoryBeginWithKey cfg key payload e.now s.memory).2 with
          | execute idempotencyKey fp => exact absurd hdecision (hrefused idempotencyKey fp)
          | replay statusCode body =>
            rw [hdecision] at hexecutes
            cases hexecutes
          | rejected rejection =>
            rw [hdecision] at hexecutes
            cases hexecutes
    · refine ⟨.inl ⟨cfg.doneRecord (cfg.fingerprint payload) statusCode body e.now, ?_, ?_⟩,
        fun hexecutes => ?_⟩
      · rw [hmemory, memoryRecord, Dict.get?_set_self]
      · rw [hdeadline]
        show executedAt + min (cfg.pendingTtlSeconds : ℚ) cfg.ttlSeconds ≤ e.now + cfg.ttlSeconds
        exact add_le_add hpast (min_le_right _ _)
      · rw [hover] at hexecutes
        cases hexecutes
  · have hle : deadline ≤ e.now := hpassed.trans (hclock z hz)
    exact ⟨hnow hle, fun _ => hle⟩

variable {log : List (AdminFaultEntry β)}

theorem heldInMemory_executed {s : AdminCalls β} {e : Timed ℚ (AdminFaultEvent β)}
    (hexecutes : ((adminFaultMachine cfg key payload).step s e).2.executesByFallback = true) :
    HeldInMemory key (cfg.heldUntil e.now) log ((adminFaultMachine cfg key payload).next s e) := by
  rcases memoryStep s e with ⟨-, hunused⟩ | ⟨hmemory, hdecided⟩ | ⟨statusCode, body, -, hover, -⟩
  · rw [AdminFaultAnswer.usesMemory_of_executes hexecutes] at hunused
    cases hunused
  · rcases memoryBeginWithKey_cases cfg key payload e.now s.memory with ⟨-, hclaimed⟩ | ⟨-,
      hrefused⟩
    · left
      refine ⟨cfg.pendingRecord (cfg.fingerprint payload) e.now, ?_, ?_⟩
      · rw [hmemory, hclaimed]
      · show e.now + min (cfg.pendingTtlSeconds : ℚ) cfg.ttlSeconds ≤ e.now + cfg.pendingTtlSeconds
        exact add_le_add le_rfl (min_le_left _ _)
    · rw [hdecided] at hexecutes
      cases hdecision : (memoryBeginWithKey cfg key payload e.now s.memory).2 with
      | execute idempotencyKey fp => exact absurd hdecision (hrefused idempotencyKey fp)
      | replay statusCode body =>
        rw [hdecision] at hexecutes
        cases hexecutes
      | rejected rejection =>
        rw [hdecision] at hexecutes
        cases hexecutes
  · rw [hover] at hexecutes
    cases hexecutes

/-- **Executions by fallback are a lifetime apart.** -/
theorem fallbacks_apart {es : List (Timed ℚ (AdminFaultEvent β))}
    (hclock : es.Pairwise (fun e e' => e.now ≤ e'.now)) :
    ((adminFaultMachine cfg key payload).trace .start es).Pairwise (fun x y =>
      x.answer.executesByFallback = true → y.answer.executesByFallback = true →
        cfg.heldUntil x.event.now ≤ y.event.now) := by
  have htrace := (adminFaultMachine cfg key payload).trace_pairwise_event (s := .start) hclock
  apply EventMachine.pairwise_of_prefix
  intro h t hprior x hx hfirst hsecond
  refine (adminFaultMachine cfg key payload).trace_forall
    (C := fun log s => ∀ x ∈ log, x.answer.executesByFallback = true →
      HeldInMemory key (cfg.heldUntil x.event.now) log s)
    (Q := fun log t => ∀ x ∈ log, x.answer.executesByFallback = true →
      t.answer.executesByFallback = true → cfg.heldUntil x.event.now ≤ t.event.now)
    (fun x hx => absurd hx List.not_mem_nil) ?_ h t hprior x hx hfirst hsecond
  intro log s e hrun hheld
  have hpast : ∀ z ∈ log, z.event.now ≤ e.now := EventMachine.rel_of_prefix htrace hrun
  constructor
  · intro x hx hfirst hsecond
    exact (heldInMemory_step (hheld x hx hfirst) rfl (hpast x hx) hpast).2 hsecond
  · intro x hx hfirst
    rcases List.mem_append.1 hx with hx | hx
    · exact (heldInMemory_step (hheld x hx hfirst) rfl (hpast x hx) hpast).1
    · rw [List.mem_singleton.1 hx] at hfirst ⊢
      exact heldInMemory_executed hfirst

/-! ## Executions by Firestore -/

theorem DocStep.of_decided {s s' : AdminCalls β} {stores : AdminEntry β → Prop} {startedAt : ℚ}
    {decision : AdminDecision β}
    (h : DocStep cfg key payload s s' stores (.decided startedAt decision)) :
    s'.docs = s.docs ∧
      decision = cfg.decideOnSnapshot payload startedAt (s.docs.get? (cfg.docId key)) := by
  rcases h with ⟨-, hunused⟩ | ⟨startedAt', hdocs, hdecided⟩ | ⟨startedAt', -, -, htold⟩ | ⟨record,
    -, -, hover⟩
  · cases hunused
  · cases hdecided
    exact ⟨hdocs, rfl⟩
  · rcases htold with htold | htold <;> cases htold
  · cases hover

theorem DocStep.of_claimed {s s' : AdminCalls β} {stores : AdminEntry β → Prop}
    (h : DocStep cfg key payload s s' stores .claimed) :
    s.docs.get? (cfg.docId key) = none ∧ s'.docs.get? (cfg.docId key) ≠ none := by
  rcases h with ⟨-, hunused⟩ | ⟨startedAt, -, hdecided⟩ | ⟨startedAt, habsent, hdocs, -⟩ | ⟨record,
    -, -, hover⟩
  · cases hunused
  · cases hdecided
  · rw [hdocs, Dict.get?_set_self]
    exact ⟨habsent, Option.some_ne_none _⟩
  · cases hover

/-- A document is never deleted. -/
theorem DocStep.present {s s' : AdminCalls β} {stores : AdminEntry β → Prop}
    {answer : AdminFaultAnswer β} (h : DocStep cfg key payload s s' stores answer)
    (hdoc : s.docs.get? (cfg.docId key) ≠ none) : s'.docs.get? (cfg.docId key) ≠ none := by
  rcases h with ⟨hdocs, -⟩ | ⟨startedAt, hdocs, -⟩ | ⟨startedAt, habsent, -, -⟩ | ⟨record, -, hdocs,
    -⟩
  · rwa [hdocs]
  · rwa [hdocs]
  · exact absurd habsent hdoc
  · rw [hdocs, Dict.get?_set_self]
    exact Option.some_ne_none _

theorem decideOnSnapshot_ne_execute (startedAt : ℚ) (doc : Option (AdminEntry β))
    (idempotencyKey fp : String) :
    cfg.decideOnSnapshot payload startedAt doc ≠ .execute idempotencyKey fp := by
  cases doc with
  | none => simp [AdminIdempotency.decideOnSnapshot]
  | some entry => exact decideOnDoc_ne_execute payload startedAt entry idempotencyKey fp

theorem claimed_of_executes {s : AdminCalls β} {e : Timed ℚ (AdminFaultEvent β)}
    (hexecutes : ((adminFaultMachine cfg key payload).step s e).2.executes = true)
    (hown : ((adminFaultMachine cfg key payload).step s e).2.executesByFallback ≠ true) :
    ((adminFaultMachine cfg key payload).step s e).2 = .claimed := by
  have hstep := docStep cfg key payload s e
  generalize ((adminFaultMachine cfg key payload).step s e).2 = answer at hexecutes hown hstep
  cases answer with
  | ignored => cases hexecutes
  | suspended => cases hexecutes
  | claimed => rfl
  | committed => cases hexecutes
  | fellBack decision =>
    cases decision with
    | execute idempotencyKey fp => exact absurd rfl hown
    | replay statusCode body => cases hexecutes
    | rejected rejection => cases hexecutes
  | decided startedAt decision =>
    cases decision with
    | execute idempotencyKey fp =>
      exact absurd hstep.of_decided.2.symm (decideOnSnapshot_ne_execute _ _ _ _)
    | replay statusCode body => cases hexecutes
    | rejected rejection => cases hexecutes

/-- **The key is claimed once.** -/
theorem claimed_once (es : List (Timed ℚ (AdminFaultEvent β))) :
    ((adminFaultMachine cfg key payload).trace .start es).Pairwise (fun x y =>
      x.answer = .claimed → y.answer ≠ .claimed) := by
  apply EventMachine.pairwise_of_prefix
  intro h t hprior x hx hfirst
  refine (adminFaultMachine cfg key payload).trace_forall
    (C := fun log s => ∀ x ∈ log, x.answer = .claimed → s.docs.get? (cfg.docId key) ≠ none)
    (Q := fun log t => ∀ x ∈ log, x.answer = .claimed → t.answer ≠ .claimed)
    (fun x hx => absurd hx List.not_mem_nil) ?_ h t hprior x hx hfirst
  intro log s e _ hpresent
  have hstep := docStep cfg key payload s e
  constructor
  · intro x hx hfirst hsecond
    have hclaimed : ((adminFaultMachine cfg key payload).step s e).2 = .claimed := hsecond
    rw [hclaimed] at hstep
    exact hpresent x hx hfirst hstep.of_claimed.1
  · intro x hx hfirst
    rcases List.mem_append.1 hx with hx | hx
    · exact hstep.present (hpresent x hx hfirst)
    · have hclaimed : ((adminFaultMachine cfg key payload).step s e).2 = .claimed := by
        rw [List.mem_singleton.1 hx] at hfirst
        exact hfirst
      rw [hclaimed] at hstep
      exact hstep.of_claimed.2

/-! ## The stored response -/

theorem docs_of_storesResponse {record : AdminEntry β} {s : AdminCalls β}
    {e : Timed ℚ (AdminFaultEvent β)}
    (h : StoresResponse record ((adminFaultMachine cfg key payload).entry s e)) :
    ((adminFaultMachine cfg key payload).next s e).docs =
      s.docs.set (cfg.docId key) (cfg.mergeDoc record (s.docs.get? (cfg.docId key))) := by
  obtain ⟨call, access, hevent, hcall, haccess⟩ := h
  obtain ⟨now, event⟩ := e
  cases hevent
  rw [EventMachine.entry_pre] at hcall
  rw [EventMachine.next, firestore_some now access hcall]
  cases access with
  | served => rfl
  | refused => exact absurd rfl haccess
  | lost => rfl

/-- The documents and the log: a commit awaits the storing of a response to the request, and the
    document is the only response that has been stored. -/
structure DocHistory (cfg : AdminIdempotency Payload β) (key : AdminKey) (payload : Payload)
    (log : List (AdminFaultEntry β)) (s : AdminCalls β) : Prop where
  records : ∀ call record, s.calls.get? call = some (.set record) →
    record.state = .done ∧ record.fingerprint = cfg.fingerprint payload
  unstored : (∀ x ∈ log, ∀ record, ¬ StoresResponse record x) →
    ∀ entry, s.docs.get? (cfg.docId key) = some entry → entry.body = cfg.emptyBody
  stored : ∀ before y between record, log = before ++ y :: between → StoresResponse record y →
    (∀ x ∈ before ++ between, ∀ record', ¬ StoresResponse record' x) →
    s.docs.get? (cfg.docId key) = some record ∧
      record.state = .done ∧ record.fingerprint = cfg.fingerprint payload

theorem createDoc_calls (s : AdminCalls β) (now : ℚ) :
    (s.createDoc cfg key payload now).calls = s.calls := by
  unfold AdminCalls.createDoc
  split_ifs <;> rfl

theorem without_calls {s : AdminCalls β} {call other : ℕ} {awaiting : AdminAwait β}
    (h : (s.without call).calls.get? other = some awaiting) :
    s.calls.get? other = some awaiting := by
  rw [AdminCalls.without, Dict.get?_erase] at h
  split_ifs at h
  exact h

/-- A response that a commit is about to store was so before, or the commit has just begun. -/
theorem set_of_next {s : AdminCalls β} {e : Timed ℚ (AdminFaultEvent β)} {call : ℕ}
    {record : AdminEntry β} (h : ((adminFaultMachine cfg key payload).next s e).calls.get? call =
      some (.set record)) :
    s.calls.get? call = some (.set record) ∨ ∃ statusCode body now,
      record = cfg.doneRecord (cfg.fingerprint payload) statusCode body now := by
  obtain ⟨now, event⟩ := e
  cases event with
  | preflight client =>
    cases client with
    | true =>
      have hset : (s.calls.set s.nextCall (.create now)).get? call = some (.set record) := h
      rw [Dict.get?_set] at hset
      split_ifs at hset
      · cases hset
      · exact .inl hset
    | false => exact .inl h
  | commit statusCode body client =>
    cases client with
    | true =>
      have hset : (s.calls.set s.nextCall
          (.set (cfg.doneRecord (cfg.fingerprint payload) statusCode body now))).get? call =
            some (.set record) := h
      rw [Dict.get?_set] at hset
      split_ifs at hset
      · cases hset
        exact .inr ⟨statusCode, body, now, rfl⟩
      · exact .inl hset
    | false => exact .inl h
  | firestore other access =>
    cases hcall : s.calls.get? other with
    | none =>
      rw [EventMachine.next, firestore_none now access hcall] at h
      exact .inl h
    | some awaiting =>
      -- an access that ends puts in no write: a creation goes on by reading, at most
      rw [EventMachine.next, firestore_some now access hcall] at h
      left
      cases awaiting with
      | create startedAt =>
        cases access with
        | served =>
          rw [AdminCalls.firestore] at h
          split_ifs at h with hdoc
          · have hset : (s.calls.set other (.get startedAt)).get? call = some (.set record) := h
            rw [Dict.get?_set] at hset
            split_ifs at hset
            · cases hset
            · exact hset
          · dsimp only at h
            rw [createDoc_calls] at h
            exact without_calls h
        | refused => exact without_calls h
        | lost =>
          have hcreated : ((s.without other).createDoc cfg key payload startedAt).calls.get? call =
              some (.set record) := h
          rw [createDoc_calls] at hcreated
          exact without_calls hcreated
      | get startedAt => cases access <;> exact without_calls h
      | set record' => cases access <;> exact without_calls h

theorem docHistory_start : DocHistory cfg key payload [] .start where
  records := by
    intro call record h
    cases h
  unstored := by
    intro _ entry h
    cases h
  stored := by
    intro before y between record hlog
    exact absurd hlog.symm (List.append_ne_nil_of_right_ne_nil _ (List.cons_ne_nil _ _))

/-- Where the last entry of a log is, seen from an entry of it. -/
theorem split_concat {α : Type} {log before between : List α} {z y : α}
    (h : log ++ [z] = before ++ y :: between) :
    (log = before ∧ z = y ∧ between = []) ∨
      ∃ between', between = between' ++ [z] ∧ log = before ++ y :: between' := by
  rcases List.eq_nil_or_concat between with rfl | ⟨between', w, rfl⟩
  · obtain ⟨hlog, hz⟩ := List.append_inj' h rfl
    exact .inl ⟨hlog, (List.cons.inj hz).1, rfl⟩
  · right
    rw [List.concat_eq_append] at h ⊢
    have happend : log ++ [z] = (before ++ y :: between') ++ [w] := by
      rw [h, List.append_assoc, List.cons_append]
    obtain ⟨hlog, hz⟩ := List.append_inj' happend rfl
    rw [(List.cons.inj hz).1]
    exact ⟨between', rfl, hlog⟩

/-- **The history of the document.** -/
theorem docHistory_step {s : AdminCalls β}
    {e : Timed ℚ (AdminFaultEvent β)} (h : DocHistory cfg key payload log s) :
    DocHistory cfg key payload (log ++ [(adminFaultMachine cfg key payload).entry s e])
      ((adminFaultMachine cfg key payload).next s e) := by
  have hstep := docStep cfg key payload s e
  refine ⟨?_, ?_, ?_⟩
  · intro call record hset
    rcases set_of_next hset with hbefore | ⟨statusCode, body, now, rfl⟩
    · exact h.records call record hbefore
    · exact ⟨rfl, rfl⟩
  · intro hnone entry hget
    have hold := h.unstored (fun x hx => hnone x (List.mem_append_left _ hx))
    rcases hstep with ⟨hdocs, -⟩ | ⟨startedAt, hdocs, -⟩ | ⟨startedAt, -, hdocs, -⟩ | ⟨record,
      hresponse, -, -⟩
    · rw [hdocs] at hget
      exact hold entry hget
    · rw [hdocs] at hget
      exact hold entry hget
    · rw [hdocs, Dict.get?_set_self] at hget
      rw [← Option.some.inj hget]
      rfl
    · exact absurd hresponse (hnone _ (List.mem_append_right _ List.mem_cons_self) record)
  · intro before y between record hlog hresponse hnone
    rcases split_concat hlog with ⟨rfl, rfl, rfl⟩ | ⟨between', rfl, rfl⟩
    · -- the response is stored now, over a document without a response
      obtain ⟨call, access, hevent, hcall, haccess⟩ := id hresponse
      have hrecord := h.records call record hcall
      refine ⟨?_, hrecord⟩
      rw [docs_of_storesResponse hresponse, Dict.get?_set_self]
      cases hdoc : s.docs.get? (cfg.docId key) with
      | none => rfl
      | some entry =>
        have hbody := h.unstored (fun x hx => hnone x (List.mem_append_left _ hx)) entry hdoc
        show some ({ record with body := cfg.mergeBody entry.body record.body } : AdminEntry β) = _
        rw [hbody, cfg.mergeBody_empty]
    · -- it was stored before, and the document has stayed
      obtain ⟨hget, hrecord⟩ := h.stored before y between' record rfl hresponse (fun x hx =>
        hnone x ((List.append_sublist_append_left before).2 (List.sublist_append_left _ _) |>.subset
          hx))
      refine ⟨?_, hrecord⟩
      rcases hstep with ⟨hdocs, -⟩ | ⟨startedAt, hdocs, -⟩ | ⟨startedAt, habsent, -, -⟩ |
        ⟨record', hresponse', -, -⟩
      · rw [hdocs, hget]
      · rw [hdocs, hget]
      · rw [hget] at habsent
        cases habsent
      · exact absurd hresponse' (hnone _ (by simp) record')

theorem decideOnSnapshot_stored {record : AdminEntry β} {startedAt : ℚ}
    (hdone : record.state = .done) (hfp : record.fingerprint = cfg.fingerprint payload)
    (hlive : startedAt < record.expiresAt) : cfg.decideOnSnapshot payload startedAt (some record) =
    .replay record.statusCode record.body := by
  rw [AdminIdempotency.decideOnSnapshot, AdminIdempotency.decideOnDoc, if_neg (not_not.2 hfp),
    hdone]
  exact if_pos hlive

/-! ## The response in memory -/

theorem memory_of_recordsInMemory {statusCode : ℤ} {body : β} {s : AdminCalls β}
    {e : Timed ℚ (AdminFaultEvent β)}
    (h : RecordsInMemory statusCode body ((adminFaultMachine cfg key payload).entry s e)) :
    ((adminFaultMachine cfg key payload).next s e).memory =
      memoryRecord cfg key (cfg.fingerprint payload) statusCode body e.now s.memory := by
  obtain ⟨now, event⟩ := e
  rcases h with hevent | ⟨call, access, record, hevent, hcall, haccess, rfl, rfl⟩
  · cases hevent
    rfl
  · cases hevent
    rw [EventMachine.entry_pre] at hcall
    rw [EventMachine.next, firestore_some now access hcall]
    cases access with
    | served => exact absurd rfl haccess
    | refused => rfl
    | lost => rfl

variable (cfg key payload) in
/-- Memory holds the response it recorded last, or the clock has passed its expiry. -/
def KeptInMemory (log : List (AdminFaultEntry β)) (s : AdminCalls β) : Prop :=
  ∀ before y between, log = before ++ y :: between →
    ∀ statusCode body, RecordsInMemory statusCode body y →
      (∀ x ∈ between, ∀ statusCode' body', ¬ RecordsInMemory statusCode' body' x) →
      s.memory.get? key.storeKey =
          some (cfg.doneRecord (cfg.fingerprint payload) statusCode body y.event.now) ∨
        ∃ z ∈ log, y.event.now + cfg.ttlSeconds ≤ z.event.now

theorem keptInMemory_step {s : AdminCalls β}
    {e : Timed ℚ (AdminFaultEvent β)} (h : KeptInMemory cfg key payload log s) :
    KeptInMemory cfg key payload (log ++ [(adminFaultMachine cfg key payload).entry s e])
      ((adminFaultMachine cfg key payload).next s e) := by
  intro before y between hlog statusCode body hrecords hnone
  rcases split_concat hlog with ⟨rfl, rfl, rfl⟩ | ⟨between', rfl, rfl⟩
  · left
    rw [memory_of_recordsInMemory hrecords, memoryRecord, Dict.get?_set_self]
    rfl
  · rcases h before y between' rfl statusCode body hrecords
      (fun x hx => hnone x (List.mem_append_left _ hx)) with hget | ⟨z, hz, hpassed⟩
    · rcases memoryStep s e with ⟨hmemory, -⟩ | ⟨hmemory, -⟩ | ⟨statusCode', body', hnew, -, -⟩
      · left
        rw [hmemory, hget]
      · by_cases hexpired : y.event.now + cfg.ttlSeconds ≤ e.now
        · exact .inr ⟨_, List.mem_append_right _ List.mem_cons_self, hexpired⟩
        · left
          have hpruned := get?_idempotencyPrune_of_live hget hexpired
          rw [hmemory, memoryBeginWithKey_done hpruned, hpruned]
      · exact absurd hnew (hnone _ (List.mem_append_right _ List.mem_cons_self) statusCode' body')
    · exact .inr ⟨z, List.mem_append_left _ hz, hpassed⟩

/-- **A response recorded in memory is replayed** by the fallbacks that follow. -/
theorem fallback_replays {es : List (Timed ℚ (AdminFaultEvent β))}
    (hclock : es.Pairwise (fun e e' => e.now ≤ e'.now))
    (before : List (AdminFaultEntry β)) (y : AdminFaultEntry β)
    (between : List (AdminFaultEntry β)) (t : AdminFaultEntry β)
    (hrun : (before ++ y :: between) ++ [t] <+: (adminFaultMachine cfg key payload).trace .start es)
    {statusCode : ℤ} {body : β} (hrecords : RecordsInMemory statusCode body y)
    (hnone : ∀ x ∈ between, ∀ statusCode' body', ¬ RecordsInMemory statusCode' body' x)
    {decision : AdminDecision β} (hdecision : t.answer = .fellBack decision)
    (hlive : t.event.now < y.event.now + cfg.ttlSeconds) :
    decision = .replay statusCode body := by
  have htrace := (adminFaultMachine cfg key payload).trace_pairwise_event (s := .start) hclock
  -- the invariant is that memory holds what was recorded last, or its lifetime is over
  refine (adminFaultMachine cfg key payload).trace_forall (C := KeptInMemory cfg key payload)
    (Q := fun log t => ∀ before y between, log = before ++ y :: between →
      ∀ statusCode body, RecordsInMemory statusCode body y →
        (∀ x ∈ between, ∀ statusCode' body', ¬ RecordsInMemory statusCode' body' x) →
        ∀ decision, t.answer = .fellBack decision → t.event.now < y.event.now + cfg.ttlSeconds →
          decision = .replay statusCode body)
    (fun before y between hlog => absurd hlog.symm
      (List.append_ne_nil_of_right_ne_nil _ (List.cons_ne_nil _ _)))
    ?_ (before ++ y :: between) t hrun before y between rfl statusCode body hrecords hnone decision
    hdecision hlive
  intro log s e hrun hkept
  refine ⟨?_, keptInMemory_step hkept⟩
  have hpast : ∀ z ∈ log, z.event.now ≤ e.now := EventMachine.rel_of_prefix htrace hrun
  intro before y between hlog statusCode body hrecords hnone decision hdecision hlive
  have hanswer : ((adminFaultMachine cfg key payload).step s e).2 = .fellBack decision := hdecision
  rcases hkept before y between hlog statusCode body hrecords hnone with hget | ⟨z, hz, hpassed⟩
  · -- the entry is not pruned yet, so a fallback finds it
    have hstored : ¬ y.event.now + (cfg.ttlSeconds : ℚ) ≤ e.now := not_le.2 hlive
    have hpruned := get?_idempotencyPrune_of_live hget hstored
    rcases memoryStep s e with ⟨-, hunused⟩ | ⟨-, hdecided⟩ | ⟨_, _, -, hended, -⟩
    · rw [hanswer] at hunused
      cases hunused
    · rw [hanswer, memoryBeginWithKey_done hpruned] at hdecided
      exact AdminFaultAnswer.fellBack.inj hdecided
    · rw [hanswer] at hended
      cases hended
  · exact absurd (hpassed.trans (hpast z hz)) (not_le.2 hlive)

end Step

/-! ## Every interleaving -/

theorem prefix_of_split {α : Type} {log before between after : List α} {y t : α}
    (h : log = before ++ y :: (between ++ t :: after)) : (before ++ y :: between) ++ [t] <+: log :=
  ⟨after, by rw [h, List.append_assoc, List.append_assoc, List.cons_append, List.singleton_append]⟩

/-- **Admin idempotency under failures.** For every interleaving of preflights and commits with one
    key and payload and every pattern of failing accesses, with a clock that does not go back: of
    two calls that are told to execute, one has fallen back to memory; memory has two calls executed
    only a lifetime of its entries apart; and the only response that Firestore has, and the one that
    memory recorded last, are replayed from there until they expire. -/
theorem adminFaults_executedOnce (cfg : AdminIdempotency Payload β) (key : AdminKey)
    (payload : Payload) {es : List (Timed ℚ (AdminFaultEvent β))}
    (hclock : es.Pairwise (fun e e' => e.now ≤ e'.now)) :
    ExecutedOnce cfg ((adminFaultMachine cfg key payload).trace .start es) where
  once := by
    -- who is told to execute by Firestore has created the document, which happens once
    refine (claimed_once es).imp_of_mem ?_
    intro x y hx hy honce hfirst hsecond
    by_contra hneither
    rw [not_or] at hneither
    have hxentry := (adminFaultMachine cfg key payload).eq_entry_of_mem_trace hx
    have hyentry := (adminFaultMachine cfg key payload).eq_entry_of_mem_trace hy
    rw [hxentry] at honce hfirst hneither
    rw [hyentry] at honce hsecond hneither
    exact honce (claimed_of_executes hfirst hneither.1) (claimed_of_executes hsecond hneither.2)
  apart := fallbacks_apart hclock
  replay := by
    intro before y between t after hlog record hresponse hnone startedAt decision hdecided hlive
    have hrun := prefix_of_split hlog
    refine (adminFaultMachine cfg key payload).trace_forall (C := DocHistory cfg key payload)
      (Q := fun log t => ∀ before y between record, log = before ++ y :: between →
        StoresResponse record y → (∀ x ∈ before ++ between, ∀ record', ¬ StoresResponse record' x) →
        ∀ startedAt decision, t.answer = .decided startedAt decision →
          startedAt < record.expiresAt → decision = .replay record.statusCode record.body)
      docHistory_start ?_ (before ++ y :: between) t hrun before y between record rfl hresponse
      hnone startedAt decision hdecided hlive
    intro log s e _ hhistory
    refine ⟨?_, docHistory_step hhistory⟩
    intro before y between record hlog hresponse hnone startedAt decision hdecided hlive
    obtain ⟨hget, hdone, hfp⟩ := hhistory.stored before y between record hlog hresponse hnone
    have hstep := docStep cfg key payload s e
    have hanswer : ((adminFaultMachine cfg key payload).step s e).2 = .decided startedAt decision :=
      hdecided
    rw [hanswer] at hstep
    rw [hstep.of_decided.2, hget]
    exact decideOnSnapshot_stored hdone hfp hlive
  replayInMemory := by
    intro before y between t after hlog statusCode body hrecords hnone decision hdecision hlive
    have hrun := prefix_of_split hlog
    exact fallback_replays hclock before y between t hrun hrecords hnone hdecision hlive

/-- A request claims its key; a repetition finds no client and falls back; the response is stored
    and a third repetition finds it. -/
def fallenBackRun : List (Timed ℚ (AdminFaultEvent Record)) :=
  [⟨0, .preflight true⟩, ⟨1, .firestore 0 .served⟩, ⟨2, .preflight false⟩,
    ⟨3, .commit 201 .empty true⟩,
    ⟨4, .firestore 1 .served⟩, ⟨5, .preflight true⟩, ⟨6, .firestore 2 .served⟩,
    ⟨7, .firestore 2 .served⟩]

theorem fallenBackRun_clock : fallenBackRun.Pairwise (fun e e' => e.now ≤ e'.now) := by
  have htimes : (fallenBackRun.map (·.now)).Pairwise (· ≤ ·) := by
    decide +kernel
  exact List.pairwise_map.1 htimes

theorem fallenBackRun_executedOnce : ExecutedOnce defaultAdminIdempotency
    ((adminFaultMachine defaultAdminIdempotency ⟨"admin_company", "public", "k"⟩ "p").trace .start
      fallenBackRun) :=
  adminFaults_executedOnce defaultAdminIdempotency ⟨"admin_company", "public",
    "k"⟩ "p" fallenBackRun_clock

/-- Two calls are told to execute within the TTL, one by each store. -/
theorem fallenBackRun_executedTwice :
    fallenBackRun.Pairwise (fun e e' => e.now ≤ e'.now) ∧
    ¬ ((adminFaultMachine defaultAdminIdempotency ⟨"admin_company", "public", "k"⟩ "p").trace .start
      fallenBackRun).Pairwise (fun x y => x.answer.executes = true → y.answer.executes = true →
        x.event.now + (defaultAdminIdempotency.ttlSeconds : ℚ) ≤ y.event.now) := by
  refine ⟨fallenBackRun_clock, fun hapart => ?_⟩
  have hlisted :
    (((adminFaultMachine defaultAdminIdempotency ⟨"admin_company", "public", "k"⟩ "p").trace
      .start fallenBackRun).map (fun t => (t.event.now, t.answer.executes))).Pairwise
        (fun x y => x.2 = true → y.2 = true → x.1 + (86400 : ℚ) ≤ y.1) := by
    rw [List.pairwise_map]
    exact hapart
  exact absurd hlisted (by decide +kernel)

end Ekaette
