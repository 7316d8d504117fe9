import Ekaette.Firestore
import Ekaette.Lib.ClockedPool
import Mathlib.Data.Rat.Floor

set_option autoImplicit false

/-! # The circuit of a connector

Tests of a connector that fail are counted, in memory or in a Firestore document; enough of them
open the circuit for a while, and a success closes it. The calls are those for one circuit key, and
no one else writes its entry. -/

namespace Ekaette

structure CircuitConfig where
  /-- `CONNECTOR_CIRCUIT_BACKEND` -/
  circuitBackend : String
  /-- `_registry_db_client()` is not `None` -/
  hasClient : Bool
  circuitKey : String
  circuitOpenAfterFailures : ℤ
  circuitOpenSeconds : ℤ

def CircuitConfig.usesFirestore (cfg : CircuitConfig) : Bool := cfg.circuitBackend == "firestore"

/-- The circuit is kept in a document. -/
def CircuitConfig.keepsDocument (cfg : CircuitConfig) : Bool := cfg.usesFirestore && cfg.hasClient

/-- An entry of `_connector_test_circuit_state`. -/
structure Circuit where
  failures : ℕ
  openUntil : ℚ

/-- A circuit document. -/
structure CircuitDoc where
  circuitKey : String
  failures : ℕ
  openUntilEpoch : ℚ
  updatedAtEpoch : ℚ

/-- The two entries of the key. -/
structure CircuitStore where
  memory : Option Circuit
  doc : Option CircuitDoc

/-- What a call asks for: a function on the memory, or one Firestore operation. -/
inductive CircuitOp where
  | retryAfterMemory
  | recordFailureMemory
  | popMemory
  | get
  | set (doc : CircuitDoc)
  | delete

/-- The functions on the memory answer with the time that they read. -/
@[reducible] def CircuitOp.Answer : CircuitOp → Type
  | .retryAfterMemory => ℚ × ℤ
  | .recordFailureMemory => ℚ
  | .get => Option CircuitDoc
  | _ => Unit

/-- `int(x)` -/
def intOf (x : ℚ) : ℤ := if 0 ≤ x then ⌊x⌋ else ⌈x⌉

/-- The seconds up to this time. -/
def retryAfterSeconds (openUntil now : ℚ) : ℤ :=
  let remaining := intOf (openUntil - now)
  if 0 < remaining then remaining else 0

/-- How long the circuit stays open after these failures. -/
def CircuitConfig.openUntil (cfg : CircuitConfig) (failures : ℕ) (now : ℚ) : ℚ :=
  if max 1 cfg.circuitOpenAfterFailures ≤ failures then now + cfg.circuitOpenSeconds else 0

variable (cfg : CircuitConfig)

/-- `_connector_circuit_retry_after_seconds_memory` -/
def retryAfterSecondsMemory (state : Option Circuit) (now : ℚ) : ℤ :=
  match state with
  | none => 0
  | some state => retryAfterSeconds state.openUntil now

/-- `_connector_circuit_record_failure_memory` -/
def recordFailureMemory (state : Option Circuit) (now : ℚ) : Circuit :=
  let failures := (state.map (·.failures)).getD 0 + 1
  ⟨failures, cfg.openUntil failures now⟩

/-- The memory never fails; a Firestore operation may, also after it took effect. -/
def serveCircuit (store : CircuitStore) (now : ℚ) (access : Access) :
    (c : CircuitOp) → CircuitStore × Option c.Answer
  | .retryAfterMemory => (store, some (now, retryAfterSecondsMemory store.memory now))
  | .recordFailureMemory =>
    ({ store with memory := some (recordFailureMemory cfg store.memory now) }, some now)
  | .popMemory => ({ store with memory := none }, some ())
  | .get => access.perform store (store, some store.doc) none
  | .set doc => access.perform store ({ store with doc := some doc }, some ()) none
  | .delete => access.perform store ({ store with doc := none }, some ()) none

/-- What a call returns; a question with the time that it read. -/
inductive CircuitResult where
  | recorded
  | asked (now : ℚ) (isOpen : Bool)

abbrev CircuitCall := ClockedCall CircuitOp

abbrev CircuitCall.Answer := ClockedCall.Answer ℚ CircuitOp.Answer

abbrev CircuitProgram := CallProgram CircuitCall CircuitCall.Answer

abbrev CircuitLog := List (Called CircuitCall CircuitCall.Answer)

abbrev askCircuit (c : CircuitOp) : CircuitProgram c.Answer := Clocked.ask c

abbrev tryCircuit (c : CircuitOp) : CircuitProgram (Option c.Answer) := Clocked.attempt c

/-- `_connector_circuit_is_open` on the memory -/
def circuitIsOpenMemory : CircuitProgram CircuitResult := do
  let answer ← askCircuit .retryAfterMemory
  pure (.asked answer.1 (decide (0 < answer.2)))

/-- `_connector_circuit_retry_after_seconds` and `_connector_circuit_is_open` -/
@[irreducible] def connectorCircuitIsOpen : CircuitProgram CircuitResult := do
  if !cfg.usesFirestore then
    circuitIsOpenMemory
  else if !cfg.hasClient then
    circuitIsOpenMemory
  else
    match ← tryCircuit .get with
    | none => circuitIsOpenMemory
    | some snapshot =>
      let now ← Clocked.readClock
      match snapshot with
      | none => pure (.asked now false)
      | some payload =>
        pure (.asked now (decide (0 < retryAfterSeconds payload.openUntilEpoch now)))

/-- `_connector_circuit_record_failure` on the memory -/
def circuitRecordFailureMemory : CircuitProgram CircuitResult := do
  let _ ← askCircuit .recordFailureMemory
  pure .recorded

/-- `_connector_circuit_record_failure` -/
@[irreducible] def connectorCircuitRecordFailure : CircuitProgram CircuitResult := do
  if !cfg.usesFirestore then
    circuitRecordFailureMemory
  else if !cfg.hasClient then
    circuitRecordFailureMemory
  else
    let now ← Clocked.readClock
    match ← tryCircuit .get with
    | none => circuitRecordFailureMemory
    | some snapshot =>
      let failures := (snapshot.map (·.failures)).getD 0 + 1
      match ← tryCircuit (.set ⟨cfg.circuitKey, failures, cfg.openUntil failures now, now⟩) with
      | none => circuitRecordFailureMemory
      | some _ => pure .recorded

/-- `_connector_circuit_record_success` on the memory -/
def circuitRecordSuccessMemory : CircuitProgram CircuitResult := do
  let _ ← askCircuit .popMemory
  pure .recorded

/-- `_connector_circuit_record_success` -/
@[irreducible] def connectorCircuitRecordSuccess : CircuitProgram CircuitResult := do
  if !cfg.usesFirestore then
    circuitRecordSuccessMemory
  else if !cfg.hasClient then
    circuitRecordSuccessMemory
  else
    match ← tryCircuit .delete with
    | none => circuitRecordSuccessMemory
    | some _ => pure .recorded

inductive CircuitTask where
  | recordFailure
  | recordSuccess
  | isOpen

def CircuitTask.program : CircuitTask → CircuitProgram CircuitResult
  | .recordFailure => connectorCircuitRecordFailure cfg
  | .recordSuccess => connectorCircuitRecordSuccess cfg
  | .isOpen => connectorCircuitIsOpen cfg

abbrev CircuitPool := Clocked.Programs ℚ CircuitStore CircuitOp CircuitOp.Answer CircuitResult

abbrev CircuitEvent := PoolEvent CircuitTask (Moment ℚ Access)

/-- Calls that run side by side. -/
def circuitMachine : EventMachine CircuitPool CircuitEvent Unit :=
  Pool.machine (Clocked.serveAt (serveCircuit cfg)) (CircuitTask.program cfg)

/-! ## Recorded failures -/

/-- What a call does to the times of the failures that were recorded since the last success. -/
def nextFailures (failures : List ℚ) (called : Called CircuitCall CircuitCall.Answer) : List ℚ :=
  match called with
  | ⟨.op .recordFailureMemory, some now⟩ => failures.concat now
  | ⟨.op (.set doc), some ()⟩ => failures.concat doc.updatedAtEpoch
  | ⟨.op .popMemory, some ()⟩ => []
  | ⟨.op .delete, some ()⟩ => []
  | _ => failures

/-- When the failures were recorded, since the last recorded success. -/
def failuresSince (history : CircuitLog) : List ℚ := history.foldl nextFailures []

theorem failuresSince_concat (history : CircuitLog) (called : Called CircuitCall CircuitCall.Answer)
    : failuresSince (history ++ [called]) = nextFailures (failuresSince history) called :=
    List.foldl_concat ..

/-! ## What calls do -/

/-- The memory is for circuits that are not kept in a document, or after an operation failed; a
    document is written on the strength of what was read. -/
def CircuitAllowed (log : CircuitLog) : CircuitCall → Prop
  | .now => True
  | .op (.set doc) => cfg.keepsDocument = true ∧ ∃ snapshot, ⟨.op .get, some snapshot⟩ ∈ log ∧
      doc.failures = ((snapshot : Option CircuitDoc).map (·.failures)).getD 0 + 1 ∧
      doc.openUntilEpoch = cfg.openUntil doc.failures doc.updatedAtEpoch
  | .op .get => cfg.keepsDocument = true
  | .op .delete => cfg.keepsDocument = true
  | .op _ => cfg.keepsDocument = true → ∃ c, ⟨.op c, none⟩ ∈ log

/-- A question is answered by what was read. -/
def CircuitAnswered (log : CircuitLog) : CircuitResult → Prop
  | .recorded => True
  | .asked now isOpen =>
    (∀ payload : CircuitDoc, ⟨.op .get, some (some payload)⟩ ∈ log →
      isOpen = decide (0 < retryAfterSeconds payload.openUntilEpoch now)) ∧
    ∀ answer : ℚ × ℤ, ⟨.op .retryAfterMemory, some answer⟩ ∈ log → now = answer.1 ∧
      isOpen = decide (0 < answer.2)

section Obeys

variable {cfg} {log : CircuitLog}

theorem obeys_isOpenMemory (hmemory : cfg.keepsDocument = true → ∃ c, ⟨.op c, none⟩ ∈ log)
    (hget : ∀ payload : CircuitDoc, ⟨.op .get, some (some payload)⟩ ∉ log)
    (hasked : ∀ answer : ℚ × ℤ, ⟨.op .retryAfterMemory, some answer⟩ ∉ log) :
    circuitIsOpenMemory.Obeys (CircuitAllowed cfg) CircuitAnswered log := by
  unfold circuitIsOpenMemory
  rw [Clocked.obeys_ask]
  refine ⟨hmemory, fun answer => ⟨fun payload hpayload => ?_, fun answer' hanswer' => ?_⟩⟩
  · rcases List.mem_append.1 hpayload with hbefore | hlast
    · exact absurd hbefore (hget payload)
    · rw [List.mem_singleton] at hlast
      cases hlast
  · rcases List.mem_append.1 hanswer' with hbefore | hlast
    · exact absurd hbefore (hasked answer')
    · rw [List.mem_singleton] at hlast
      cases hlast
      exact ⟨rfl, rfl⟩

theorem obeys_recordFailureMemory (hmemory : cfg.keepsDocument = true → ∃ c, ⟨.op c, none⟩ ∈ log) :
    circuitRecordFailureMemory.Obeys (CircuitAllowed cfg) CircuitAnswered log := by
  unfold circuitRecordFailureMemory
  rw [Clocked.obeys_ask]
  exact ⟨hmemory, fun _ => trivial⟩

theorem obeys_recordSuccessMemory (hmemory : cfg.keepsDocument = true → ∃ c, ⟨.op c, none⟩ ∈ log) :
    circuitRecordSuccessMemory.Obeys (CircuitAllowed cfg) CircuitAnswered log := by
  unfold circuitRecordSuccessMemory
  rw [Clocked.obeys_ask]
  exact ⟨hmemory, fun _ => trivial⟩

theorem keepsDocument_of (hfirestore : ¬ (!cfg.usesFirestore) = true)
    (hclient : ¬ (!cfg.hasClient) = true) : cfg.keepsDocument = true := by
  simpa [CircuitConfig.keepsDocument] using ⟨by simpa using hfirestore, by simpa using hclient⟩

theorem not_keepsDocument_of_backend (h : (!cfg.usesFirestore) = true) :
    cfg.keepsDocument ≠ true := by
  simp only [Bool.not_eq_true'] at h
  simp [CircuitConfig.keepsDocument, h]

theorem not_keepsDocument_of_client (h : (!cfg.hasClient) = true) : cfg.keepsDocument ≠ true := by
  simp only [Bool.not_eq_true'] at h
  simp [CircuitConfig.keepsDocument, h]

variable (cfg)

theorem obeys_isOpen :
    (connectorCircuitIsOpen cfg).Obeys (CircuitAllowed cfg) CircuitAnswered [] := by
  unfold connectorCircuitIsOpen
  rw [CallProgram.obeys_ite]
  refine ⟨fun hbackend => ?_, fun hbackend => ?_⟩
  · exact obeys_isOpenMemory (fun h => absurd h (not_keepsDocument_of_backend hbackend)) (by simp)
      (by simp)
  rw [CallProgram.obeys_ite]
  refine ⟨fun hclient => ?_, fun hclient => ?_⟩
  · exact obeys_isOpenMemory (fun h => absurd h (not_keepsDocument_of_client hclient)) (by simp)
      (by simp)
  rw [Clocked.obeys_attempt]
  refine ⟨keepsDocument_of hbackend hclient, fun answer => ?_⟩
  cases answer with
  | none =>
    refine obeys_isOpenMemory (fun _ => ⟨.get, List.mem_singleton_self _⟩)
      (fun payload h => ?_) fun answer h => ?_
    · cases List.mem_singleton.1 h
    · cases List.mem_singleton.1 h
  | some snapshot =>
    show (Clocked.readClock >>= _).Obeys _ _ _
    rw [Clocked.obeys_readClock]
    refine ⟨trivial, fun now => ?_⟩
    cases snapshot with
    | none =>
      refine ⟨fun payload h => ?_, fun answer h => ?_⟩
      · rcases List.mem_pair.1 h with hread | hnow
        · cases hread
        · cases hnow
      · rcases List.mem_pair.1 h with hread | hnow
        · cases hread
        · cases hnow
    | some payload =>
      refine ⟨fun payload' h => ?_, fun answer h => ?_⟩
      · rcases List.mem_pair.1 h with hread | hnow
        · cases hread
          rfl
        · cases hnow
      · rcases List.mem_pair.1 h with hread | hnow
        · cases hread
        · cases hnow

theorem obeys_recordFailure :
    (connectorCircuitRecordFailure cfg).Obeys (CircuitAllowed cfg) CircuitAnswered [] := by
  unfold connectorCircuitRecordFailure
  rw [CallProgram.obeys_ite]
  refine ⟨fun hbackend => ?_, fun hbackend => ?_⟩
  · exact obeys_recordFailureMemory fun h => absurd h (not_keepsDocument_of_backend hbackend)
  rw [CallProgram.obeys_ite]
  refine ⟨fun hclient => ?_, fun hclient => ?_⟩
  · exact obeys_recordFailureMemory fun h => absurd h (not_keepsDocument_of_client hclient)
  have hkeeps := keepsDocument_of hbackend hclient
  rw [Clocked.obeys_readClock]
  refine ⟨trivial, fun now => ?_⟩
  rw [Clocked.obeys_attempt]
  refine ⟨hkeeps, fun answer => ?_⟩
  cases answer with
  | none => exact obeys_recordFailureMemory fun _ =>
    ⟨.get, List.mem_append_right _ (List.mem_singleton_self _)⟩
  | some snapshot =>
    show (tryCircuit _ >>= _).Obeys _ _ _
    rw [Clocked.obeys_attempt]
    refine ⟨⟨hkeeps, snapshot, List.mem_append_right _ (List.mem_singleton_self _), rfl, rfl⟩,
      fun saved => ?_⟩
    cases saved with
    | none => exact obeys_recordFailureMemory fun _ =>
      ⟨_, List.mem_append_right _ (List.mem_singleton_self _)⟩
    | some _ => trivial

theorem obeys_recordSuccess :
    (connectorCircuitRecordSuccess cfg).Obeys (CircuitAllowed cfg) CircuitAnswered [] := by
  unfold connectorCircuitRecordSuccess
  rw [CallProgram.obeys_ite]
  refine ⟨fun hbackend => ?_, fun hbackend => ?_⟩
  · exact obeys_recordSuccessMemory fun h => absurd h (not_keepsDocument_of_backend hbackend)
  rw [CallProgram.obeys_ite]
  refine ⟨fun hclient => ?_, fun hclient => ?_⟩
  · exact obeys_recordSuccessMemory fun h => absurd h (not_keepsDocument_of_client hclient)
  rw [Clocked.obeys_attempt]
  refine ⟨keepsDocument_of hbackend hclient, fun deleted => ?_⟩
  cases deleted with
  | none => exact obeys_recordSuccessMemory fun _ => ⟨.delete, List.mem_singleton_self _⟩
  | some _ => trivial

theorem obeys_circuitTask (task : CircuitTask) :
    (task.program cfg).Obeys (CircuitAllowed cfg) CircuitAnswered [] := by
  cases task with
  | recordFailure => exact obeys_recordFailure cfg
  | recordSuccess => exact obeys_recordSuccess cfg
  | isOpen => exact obeys_isOpen cfg

end Obeys

/-! ## Counting -/

/-- The entry of the key. -/
def CircuitConfig.entry? (store : CircuitStore) : Option Circuit :=
  if cfg.keepsDocument then store.doc.map fun doc => ⟨doc.failures, doc.openUntilEpoch⟩
  else store.memory

/-- The entry counts the failures, and once they are enough, is open for all of them. -/
def Counts (failures : List ℚ) (entry : Option Circuit) : Prop :=
  failures ≠ [] → ∃ c, entry = some c ∧ failures.length ≤ c.failures ∧
    (max 1 cfg.circuitOpenAfterFailures ≤ c.failures → ∀ f ∈ failures, f + cfg.circuitOpenSeconds ≤
      c.openUntil)

theorem counts_nil (entry : Option Circuit) : Counts cfg [] entry := fun h => absurd rfl h

/-- **One more failure**, later than the others, is counted on top of the entry. -/
theorem counts_fail {failures : List ℚ} {entry : Option Circuit}
    (hcounts : Counts cfg failures entry) {now : ℚ} (hlater : ∀ f ∈ failures, f ≤ now) :
    Counts cfg (failures.concat now) (some ⟨(entry.map (·.failures)).getD 0 + 1,
      cfg.openUntil ((entry.map (·.failures)).getD 0 + 1) now⟩) := by
  intro _
  refine ⟨_, rfl, ?_, fun henough f hf => ?_⟩
  · rw [List.length_concat]
    refine Nat.succ_le_succ ?_
    rcases List.eq_nil_or_concat failures with rfl | ⟨init, last, rfl⟩
    · exact Nat.zero_le _
    · obtain ⟨c, rfl, hlength, -⟩ := hcounts (by simp)
      exact hlength
  · rw [List.concat_eq_append, List.mem_append, List.mem_singleton] at hf
    show f + _ ≤ cfg.openUntil _ now
    rw [CircuitConfig.openUntil, if_pos henough]
    rcases hf with hf | rfl
    · exact add_le_add_left (hlater f hf) _
    · exact le_rfl

/-! ## What each step must not do -/

/-- No operation on Firestore fails. -/
def AccessServed : CircuitEvent → Prop
  | .start _ => True
  | .resume _ m => m.choice = .served

instance : DecidablePred AccessServed
  | .start _ => isTrue trivial
  | .resume _ m => inferInstanceAs (Decidable (m.choice = .served))

/-- A document is written over the one that was read, and with a time no earlier than those of the
    failures that were recorded meanwhile. -/
def WritesOverRead (s : CircuitPool) (e : CircuitEvent) : Prop :=
  ∀ i m log doc k, e = .resume i m → s.threads[i]? = some ⟨log, .call (.op (.set doc)) k⟩ →
    (∀ snapshot, ⟨.op .get, some snapshot⟩ ∈ log → s.shared.store.doc = snapshot) ∧
      ∀ f ∈ failuresSince s.history, f ≤ doc.updatedAtEpoch

def CountsFailures (s : CircuitPool) (e : CircuitEvent) : Prop :=
  Clocked.forward s e = true ∧ AccessServed e ∧ WritesOverRead s e

/-! ## Steps -/

/-- The invariant: the entry counts the failures since the last success; no operation failed so far,
    and in memory no failure is still to come. -/
structure CircuitSound (s : CircuitPool) : Prop where
  obeyed : Pool.Obeyed (CircuitAllowed cfg) CircuitAnswered s
  served : ∀ (i : ℕ) (t : Thread CircuitCall CircuitCall.Answer CircuitResult),
    s.threads[i]? = some t → ∀ c, ⟨.op c, none⟩ ∉ t.log
  past : cfg.keepsDocument = false → ∀ f ∈ failuresSince s.history, f ≤ s.shared.clock
  counts : Counts cfg (failuresSince s.history) (cfg.entry? s.shared.store)

theorem serveCircuit_served (store : CircuitStore) (now : ℚ) (c : CircuitOp) :
    (serveCircuit cfg store now .served c).2 ≠ none := by
  cases c with
  | retryAfterMemory => exact Option.some_ne_none _
  | recordFailureMemory => exact Option.some_ne_none _
  | popMemory => exact Option.some_ne_none _
  | get => exact Option.some_ne_none _
  | set doc => exact Option.some_ne_none _
  | delete => exact Option.some_ne_none _

section Step

variable {cfg} {s s' : CircuitPool} {i : ℕ} {m : Moment ℚ Access}

theorem serveAt_served {shared : Clocked ℚ CircuitStore} (haccess : m.choice = .served)
    {c : CircuitOp} {call : CircuitCall}
    (h : (⟨.op c, none⟩ : Called CircuitCall CircuitCall.Answer) =
      ⟨call, (Clocked.serveAt (serveCircuit cfg) shared m call).2⟩) : False := by
  cases call with
  | now => cases h
  | op c' =>
    have hnone : ∀ answer : Option (CircuitOp.Answer c'),
        (⟨.op c, none⟩ : Called CircuitCall CircuitCall.Answer) = ⟨.op c', answer⟩ →
        answer = none := by
      intro answer heq
      cases heq
      rfl
    refine serveCircuit_served cfg shared.store m.now c' ?_
    rw [← haccess]
    exact hnone _ h

theorem served_step (hs : CircuitSound cfg s)
    (h : Pool.Calls (Clocked.serveAt (serveCircuit cfg)) s i m s')
    (haccess : m.choice = .served) (j : ℕ) (t : Thread CircuitCall CircuitCall.Answer CircuitResult)
    (hj : s'.threads[j]? = some t) (c : CircuitOp) : ⟨.op c, none⟩ ∉ t.log := by
  intro hmem
  rcases h.thread_cases hj with ⟨-, rfl⟩ | ⟨-, hold⟩
  · rcases List.mem_append.1 hmem with hbefore | hlast
    · exact hs.served i _ h.found c hbefore
    · rw [List.mem_singleton] at hlast
      exact serveAt_served haccess hlast
  · exact hs.served j t hold c hmem

theorem counts_step (hs : CircuitSound cfg s)
    (h : Pool.Calls (Clocked.serveAt (serveCircuit cfg)) s i m s')
    (hforward : s.shared.clock ≤ m.now) (haccess : m.choice = .served)
    (hwrites : WritesOverRead s (.resume i m)) :
    (cfg.keepsDocument = false → ∀ f ∈ failuresSince s'.history, f ≤ s'.shared.clock) ∧
      Counts cfg (failuresSince s'.history) (cfg.entry? s'.shared.store) := by
  rw [Clocked.clock_self h]
  have hpast : cfg.keepsDocument = false → ∀ f ∈ failuresSince s.history, f ≤ m.now :=
    fun hmemory f hf => (hs.past hmemory f hf).trans hforward
  obtain ⟨log, call, k, hfound, hshared, -, hhistory⟩ := h
  have hallowed : CircuitAllowed cfg log call := (hs.obeyed i _ hfound).1
  rw [hhistory, failuresSince_concat, hshared]
  obtain ⟨now, access⟩ := m
  subst haccess
  cases call with
  | now => exact ⟨hpast, hs.counts⟩
  | op c =>
    -- the memory is used only where no document is kept
    have hmemory : (cfg.keepsDocument = true → ∃ c, ⟨.op c, none⟩ ∈ log) →
        cfg.keepsDocument = false := by
      intro hfailed
      by_contra hkeeps
      obtain ⟨c, hc⟩ := hfailed (by simpa using hkeeps)
      exact hs.served i _ hfound c hc
    cases c with
    | retryAfterMemory => exact ⟨hpast, hs.counts⟩
    | get => exact ⟨hpast, hs.counts⟩
    | popMemory => exact ⟨fun _ f hf => absurd hf List.not_mem_nil, counts_nil cfg _⟩
    | delete => exact ⟨fun _ f hf => absurd hf List.not_mem_nil, counts_nil cfg _⟩
    | recordFailureMemory =>
      have hkept := hmemory hallowed
      have hcounts := hs.counts
      simp only [CircuitConfig.entry?, hkept, Bool.false_eq_true, if_false] at hcounts ⊢
      refine ⟨fun _ f hf => ?_, counts_fail cfg hcounts (hpast hkept)⟩
      have hf' : f ∈ (failuresSince s.history).concat now := hf
      rw [List.concat_eq_append, List.mem_append, List.mem_singleton] at hf'
      rcases hf' with hf' | rfl
      · exact hpast hkept f hf'
      · exact le_rfl
    | set doc =>
      obtain ⟨hkeeps, snapshot, hread, hfailures, hopen⟩ := hallowed
      obtain ⟨hsame, hlater⟩ := hwrites i _ log doc k rfl hfound
      refine ⟨fun hno => absurd (hkeeps.symm.trans hno) (by decide), ?_⟩
      have hcounts := hs.counts
      simp only [CircuitConfig.entry?, hkeeps, if_true, hsame snapshot hread] at hcounts ⊢
      have hfail := counts_fail cfg hcounts hlater
      have hentry : (some ⟨doc.failures, doc.openUntilEpoch⟩ : Option Circuit) =
          some ⟨((snapshot : Option CircuitDoc).map (·.failures)).getD 0 + 1,
            cfg.openUntil (((snapshot : Option CircuitDoc).map (·.failures)).getD 0 + 1)
            doc.updatedAtEpoch⟩ := by
        rw [hopen, hfailures]
      show Counts cfg ((failuresSince s.history).concat doc.updatedAtEpoch)
        (some ⟨doc.failures, doc.openUntilEpoch⟩)
      rw [hentry]
      rw [Option.map_map] at hfail
      exact hfail

end Step

/-- **Step lemma.** -/
theorem circuitSound_next {s : CircuitPool} (hs : CircuitSound cfg s) (e : CircuitEvent)
    (he : CountsFailures s e) : CircuitSound cfg ((circuitMachine cfg).next s e) := by
  obtain ⟨hforward, haccess, hwrites⟩ := he
  have hobeyed : Pool.Obeyed (CircuitAllowed cfg) CircuitAnswered ((circuitMachine cfg).next s e) :=
    Pool.obeyed_next hs.obeyed e fun task _ => obeys_circuitTask cfg task
  cases e with
  | start task =>
    refine ⟨hobeyed, fun j t hj c hmem => ?_, hs.past, hs.counts⟩
    rcases Pool.start_cases hj with hold | rfl
    · exact hs.served j t hold c hmem
    · cases hmem
  | resume i m =>
    have hnext : (circuitMachine cfg).next s (.resume i m) = s.resume
      (Clocked.serveAt (serveCircuit cfg)) i m := rfl
    rw [hnext]
    rcases Pool.resume_cases (Clocked.serveAt (serveCircuit cfg)) s i m with hsame | ⟨⟨h⟩⟩
    · rw [hsame]
      exact hs
    · obtain ⟨hpast, hcounts⟩ := counts_step hs h (of_decide_eq_true hforward) haccess hwrites
      exact ⟨hobeyed, served_step hs h haccess, hpast, hcounts⟩

/-! ## Open circuits -/

theorem retryAfterSeconds_pos {openUntil now : ℚ} (h : now ≤ openUntil - 1) :
    0 < retryAfterSeconds openUntil now := by
  have hone : (1 : ℚ) ≤ openUntil - now := by linarith
  have hint : 0 < intOf (openUntil - now) := by
    rw [intOf, if_pos (zero_le_one.trans hone)]
    exact Int.floor_pos.2 hone
  show 0 < (if 0 < intOf (openUntil - now) then intOf (openUntil - now) else 0)
  rw [if_pos hint]
  exact hint

/-- The call is about to read the entry. -/
def ReadsCircuit (t : Thread CircuitCall CircuitCall.Answer CircuitResult) : Prop :=
  match t.program with
  | .call (.op .get) _ => cfg.keepsDocument = true
  | .call (.op .retryAfterMemory) _ => cfg.keepsDocument = false
  | _ => False

/-- No calls yet. -/
def noCircuitCalls (clock : ℚ) (store : CircuitStore) : CircuitPool := { shared := ⟨clock, store⟩ }

theorem circuitSound_noCircuitCalls (clock : ℚ) (store : CircuitStore) :
    CircuitSound cfg (noCircuitCalls clock store) := by
  refine ⟨fun i t ht => ?_, fun i t ht => ?_, fun _ f hf => ?_, counts_nil cfg _⟩
  · cases ht
  · cases ht
  · cases hf

/-- The entry that enough failures left. -/
theorem CircuitSound.open {s : CircuitPool} (hs : CircuitSound cfg s)
    (henough : cfg.circuitOpenAfterFailures ≤ (failuresSince s.history).length) {latest : ℚ}
    (hlatest : latest ∈ failuresSince s.history) :
    ∃ c, cfg.entry? s.shared.store = some c ∧ latest + cfg.circuitOpenSeconds ≤ c.openUntil := by
  have hpos := List.length_pos_of_mem hlatest
  obtain ⟨c, hentry, hlength, hopen⟩ := hs.counts (List.ne_nil_of_mem hlatest)
  exact ⟨c, hentry, hopen (by omega) latest hlatest⟩

/-- **The circuit opens and stays open.** While no operation fails and documents are written over
    what was read, a call that reads the entry after enough failures since the last success, and the
    clock at least one second before the end, finds the circuit open. -/
theorem circuit_staysOpen (clock : ℚ) (store : CircuitStore) (before after : List CircuitEvent)
    (j : ℕ) (m : Moment ℚ Access)
    (hcounts : ∀ t ∈ (circuitMachine cfg).trace (noCircuitCalls clock store)
      (before ++ .resume j m :: after), CountsFailures t.pre t.event)
    (asks : Thread CircuitCall CircuitCall.Answer CircuitResult)
    (hasks : ((circuitMachine cfg).run (noCircuitCalls clock store) before).threads[j]? = some asks)
    (hreads : ReadsCircuit cfg asks)
    (henough : cfg.circuitOpenAfterFailures ≤
      (failuresSince ((circuitMachine cfg).run (noCircuitCalls clock store) before).history).length)
    (latest : ℚ) (hlatest :
      latest ∈ failuresSince ((circuitMachine cfg).run (noCircuitCalls clock store) before).history)
    (log : CircuitLog) (now : ℚ) (isOpen : Bool)
    (hasked : ((circuitMachine cfg).run (noCircuitCalls clock store)
      (before ++ .resume j m :: after)).threads[j]? = some ⟨log, .returned (.asked now isOpen)⟩)
    (hnow : now ≤ latest + cfg.circuitOpenSeconds - 1) : isOpen = true := by
  have hall := ((circuitMachine cfg).always_of_guarded (G := CountsFailures)
    (fun s e hs he => circuitSound_next cfg hs e he)
    (circuitSound_noCircuitCalls cfg clock store) hcounts).run
  have hanswered : CircuitAnswered log (.asked now isOpen) := hall.obeyed j _ hasked
  rw [EventMachine.trace_append] at hcounts
  have hsound : CircuitSound cfg ((circuitMachine cfg).run (noCircuitCalls clock store) before) :=
    ((circuitMachine cfg).always_of_guarded (G := CountsFailures)
      (fun s e hs he => circuitSound_next cfg hs e he) (circuitSound_noCircuitCalls cfg clock store)
      fun t ht => hcounts t (List.mem_append_left _ ht)).run
  have hstep := hcounts _ (List.mem_append_right _ List.mem_cons_self)
  rw [EventMachine.run_append, EventMachine.run_cons] at hasked
  generalize (circuitMachine cfg).run (noCircuitCalls clock store) before = s at *
  have hserved : m.choice = .served := hstep.2.1
  obtain ⟨c, hentry, hopen⟩ := hsound.open cfg henough hlatest
  -- what was read is in the log of the answer
  have hlog : ∀ (start : CircuitLog) (call : CircuitCall) (k : Option (CircuitCall.Answer call) →
    CircuitProgram CircuitResult),
      asks = ⟨start, .call call k⟩ →
      ⟨call, (Clocked.serveAt (serveCircuit cfg) s.shared m call).2⟩ ∈ log := by
    rintro start call k rfl
    have hnext : ((circuitMachine cfg).next s (.resume j m)).threads[j]? =
        some ⟨start ++ [⟨call, (Clocked.serveAt (serveCircuit cfg) s.shared m call).2⟩],
          k (Clocked.serveAt (serveCircuit cfg) s.shared m call).2⟩ := by
      show (s.resume (Clocked.serveAt (serveCircuit cfg)) j m).threads[j]? = _
      unfold Pool.resume
      rw [hasks]
      exact List.getElem?_set_self (List.getElem?_eq_some_iff.1 hasks).1
    obtain ⟨t', ht', hprefix⟩ := Pool.log_prefix_run (Clocked.serveAt (serveCircuit cfg))
      (CircuitTask.program cfg) after hnext
    have hsame := Option.some.inj (ht'.symm.trans hasked)
    subst hsame
    exact hprefix.subset (List.mem_append_right _ (List.mem_singleton_self _))
  have hpos : 0 < retryAfterSeconds c.openUntil now := retryAfterSeconds_pos (by linarith)
  obtain ⟨start, program⟩ := asks
  unfold ReadsCircuit at hreads
  split at hreads
  · next k hprogram =>
      -- a document
      have hread := hlog start (.op .get) k (by rw [← hprogram])
      simp only [CircuitConfig.entry?, hreads, if_true, Option.map_eq_some_iff] at hentry
      obtain ⟨doc, hdoc, rfl⟩ := hentry
      obtain ⟨mnow, access⟩ := m
      subst hserved
      have hread' : (⟨.op .get, some (some doc)⟩ : Called CircuitCall CircuitCall.Answer) ∈ log :=
        by
        rw [← hdoc]
        exact hread
      rw [hanswered.1 doc hread']
      exact decide_eq_true hpos
  · next k hprogram =>
      -- the memory
      have hread := hlog start (.op .retryAfterMemory) k (by rw [← hprogram])
      simp only [CircuitConfig.entry?, hreads, Bool.false_eq_true, if_false] at hentry
      obtain ⟨hnowEq, hisOpen⟩ := hanswered.2 _ hread
      rw [hisOpen]
      refine decide_eq_true ?_
      show 0 < retryAfterSecondsMemory s.shared.store.memory m.now
      rw [hentry]
      have hnow' : now = m.now := hnowEq
      rw [← hnow']
      exact hpos
  · exact hreads.elim

/-- Only the first failure is written, over no document. -/
def writesFirst (s : CircuitPool) : CircuitEvent → Bool
  | .start _ => true
  | .resume i _ =>
    match s.threads[i]? with
    | some ⟨log, .call (.op (.set _)) _⟩ =>
      s.shared.store.doc.isNone && (failuresSince s.history).isEmpty && log.all fun called =>
        match called with
        | ⟨.op .get, some (some _)⟩ => false
        | _ => true
    | _ => true

theorem writesOverRead_of_first {s : CircuitPool} {e : CircuitEvent} (h : writesFirst s e = true) :
    WritesOverRead s e := by
  rintro i m log doc k rfl hfound
  rw [writesFirst, hfound] at h
  simp only [Bool.and_eq_true, Option.isNone_iff_eq_none, List.isEmpty_iff] at h
  obtain ⟨⟨hnone, hempty⟩, hlog⟩ := h
  refine ⟨fun snapshot hmem => ?_, fun f hf => ?_⟩
  · cases snapshot with
    | none => exact hnone
    | some payload => exact absurd (List.all_eq_true.1 hlog _ hmem) Bool.false_ne_true
  · rw [hempty] at hf
    cases hf

/-- The circuit opens for half a minute at the first failure. -/
def circuitOf (backend : String) : CircuitConfig := ⟨backend, true, "acme:shop:crm", 1, 30⟩

/-- The `i`-th call takes a step at the time `now`. -/
def circuitStep (i : ℕ) (now : ℚ) : CircuitEvent := .resume i ⟨now, .served⟩

/-- A failure is recorded in Firestore, then the circuit is looked up. -/
def failedOnce : List CircuitEvent :=
  [.start .recordFailure, circuitStep 0 0, circuitStep 0 0, circuitStep 0 1, .start .isOpen]

theorem failedOnce_open : ∃ isOpen,
    (((circuitMachine (circuitOf "firestore")).run (noCircuitCalls 0 ⟨none, none⟩)
      (failedOnce ++ .resume 1 ⟨28, .served⟩ :: [circuitStep 1 29])).threads[1]?).map (·.program) =
      some (.returned (.asked 29 isOpen)) ∧ isOpen = true := by
  refine ⟨true, by with_unfolding_all rfl, ?_⟩
  refine circuit_staysOpen (circuitOf "firestore") 0 ⟨none, none⟩ failedOnce [circuitStep 1 29] 1
    ⟨28, .served⟩ ?_
    ⟨[], connectorCircuitIsOpen (circuitOf "firestore")⟩ (by with_unfolding_all rfl) ?_
    (by decide +kernel) 0 ?_
    [⟨.op .get, some (some ⟨"acme:shop:crm", 1, 30, 0⟩)⟩, ⟨.now, some (29 : ℚ)⟩] 29 true ?_
    (by decide +kernel)
  · have hsteps : ((circuitMachine (circuitOf "firestore")).trace (noCircuitCalls 0 ⟨none, none⟩)
        (failedOnce ++ .resume 1 ⟨28, .served⟩ :: [circuitStep 1 29])).all
        (fun t => Clocked.forward t.pre t.event &&
          (decide (AccessServed t.event) && writesFirst t.pre t.event)) =
        true := by
      with_unfolding_all rfl
    intro t ht
    have hstep := Bool.and_eq_true_iff.1 (List.all_eq_true.1 hsteps t ht)
    have hwrites := Bool.and_eq_true_iff.1 hstep.2
    exact ⟨hstep.1, of_decide_eq_true hwrites.1, writesOverRead_of_first hwrites.2⟩
  · with_unfolding_all trivial
  · have hfailures :
      failuresSince ((circuitMachine (circuitOf "firestore")).run (noCircuitCalls 0 ⟨none, none⟩)
        failedOnce).history = [0] := by
      with_unfolding_all rfl
    rw [hfailures]
    exact List.mem_singleton_self _
  · with_unfolding_all rfl

/-- A failure is recorded in memory, then the circuit is looked up. -/
def failedInMemory : List CircuitEvent := [.start .recordFailure, circuitStep 0 0, .start .isOpen]

theorem lastSecond_closed :
    ¬ ∀ (cfg : CircuitConfig) (clock : ℚ) (store : CircuitStore) (before after : List CircuitEvent)
      (j : ℕ) (m : Moment ℚ Access),
      (∀ t ∈ (circuitMachine cfg).trace (noCircuitCalls clock store)
        (before ++ .resume j m :: after),
        Clocked.forward t.pre t.event = true ∧ AccessServed t.event) →
      ∀ (asks : Thread CircuitCall CircuitCall.Answer CircuitResult),
      ((circuitMachine cfg).run (noCircuitCalls clock store) before).threads[j]? = some asks →
      ReadsCircuit cfg asks →
      cfg.circuitOpenAfterFailures ≤
        (failuresSince ((circuitMachine cfg).run (noCircuitCalls clock store)
          before).history).length →
      ∀ (latest : ℚ),
      (failuresSince ((circuitMachine cfg).run (noCircuitCalls clock store)
        before).history).getLast? = some latest →
      ∀ (log : CircuitLog) (now : ℚ) (isOpen : Bool),
      ((circuitMachine cfg).run (noCircuitCalls clock store)
        (before ++ .resume j m :: after)).threads[j]? = some ⟨log, .returned (.asked now isOpen)⟩ →
      now < latest + cfg.circuitOpenSeconds → isOpen = true := by
  intro h
  have hopen := h (circuitOf "memory") 0 ⟨none, none⟩ failedInMemory [] 1 ⟨59 / 2, .served⟩ ?_
    ⟨[], connectorCircuitIsOpen (circuitOf "memory")⟩ (by with_unfolding_all rfl) ?_
    (by decide +kernel) 0 (by with_unfolding_all rfl)
    [⟨.op .retryAfterMemory, some ((59 / 2 : ℚ), retryAfterSecondsMemory (some ⟨1, 30⟩) (59 / 2))⟩]
    (59 / 2) (decide (0 < retryAfterSecondsMemory (some ⟨1, 30⟩) (59 / 2))) ?_ (by decide +kernel)
  · exact absurd (of_decide_eq_true hopen) (by decide +kernel)
  · have hsteps : ((circuitMachine (circuitOf "memory")).trace (noCircuitCalls 0 ⟨none, none⟩)
        (failedInMemory ++ [.resume 1 ⟨59 / 2, .served⟩])).all
        (fun t => Clocked.forward t.pre t.event && decide (AccessServed t.event)) = true := by
      with_unfolding_all rfl
    intro t ht
    have hstep := Bool.and_eq_true_iff.1 (List.all_eq_true.1 hsteps t ht)
    exact ⟨hstep.1, of_decide_eq_true hstep.2⟩
  · with_unfolding_all rfl
  · with_unfolding_all rfl

end Ekaette
