import Ekaette.Lib.Guarded
import Ekaette.Tools.PiiRedaction

set_option autoImplicit false

/-! # The snapshot of the sessions

`configs/persistent_session_service.py` keeps the sessions of an in-memory service in a file. Each
call changes the memory at once, then builds a payload under a lock and leaves it to a worker
thread, which replaces the file. A caller that is cancelled gives up the lock while its thread goes
on. -/

namespace Ekaette

/-! ## The base class -/

structure SessionKey where
  appName : String
  userId : String
  sessionId : String
  deriving DecidableEq

/-- A mapping of JSON values. -/
abbrev JsonEntries := List (String × PyValue)

/-- A mapping under a key. -/
def entriesAt (es : JsonEntries) (key : String) : JsonEntries :=
  (PyValue.lookupD es key).dict?.getD []

/-- An event, as `model_dump` gives it. -/
structure RecordedEvent where
  fields : JsonEntries

/-- `event.actions.state_delta` -/
def RecordedEvent.stateDelta (event : RecordedEvent) : JsonEntries :=
  entriesAt (entriesAt event.fields "actions") "state_delta"

inductive SessionOp where
  | create (key : SessionKey) (state : JsonEntries)
  | append (key : SessionKey) (event : RecordedEvent)
  | delete (key : SessionKey)

def SessionOp.key : SessionOp → SessionKey
  | .create key _ => key
  | .append key _ => key
  | .delete key => key

/-- `InMemorySessionService`, and `Session`: their operations, and what the code relies on. -/
structure InMemorySessions where
  Memory : Type
  Session : Type
  initial : Memory
  appState : Memory → JsonEntries
  userState : Memory → JsonEntries
  sessions : Memory → SessionKey → Option Session
  events : Session → List RecordedEvent
  modelDump : Session → PyValue
  modelValidate : PyValue → Option Session
  /-- `self.app_state`, `self.user_state` and `self.sessions` are assigned to -/
  restore : JsonEntries → JsonEntries → (SessionKey → Option Session) → Memory
  create : Memory → SessionKey → JsonEntries → Memory
  append : Memory → SessionKey → RecordedEvent → Memory
  delete : Memory → SessionKey → Memory
  validate_dump : ∀ session, modelValidate (modelDump session) = some session
  sessions_initial : ∀ key, sessions initial key = none
  sessions_restore : ∀ app user held, sessions (restore app user held) = held
  sessions_create : ∀ memory key state, (sessions (create memory key state) key).isSome
  /-- a session that exists is not created again -/
  create_existing : ∀ memory key state, (sessions memory key).isSome →
    create memory key state = memory
  create_other : ∀ memory key state key', key' ≠ key → sessions (create memory key state) key' =
    sessions memory key'
  events_append : ∀ memory key event session, sessions memory key = some session →
    ∃ session', sessions (append memory key event) key = some session' ∧
    events session' = events session ++ [event]
  append_missing : ∀ memory key event, sessions memory key = none →
    sessions (append memory key event) key = none
  append_other : ∀ memory key event key', key' ≠ key → sessions (append memory key event) key' =
    sessions memory key'
  sessions_delete : ∀ memory key, sessions (delete memory key) key = none
  delete_other : ∀ memory key key', key' ≠ key →
    sessions (delete memory key) key' = sessions memory key'

namespace InMemorySessions

variable (base : InMemorySessions)

def apply (memory : base.Memory) : SessionOp → base.Memory
  | .create key state => base.create memory key state
  | .append key event => base.append memory key event
  | .delete key => base.delete memory key

theorem apply_other (memory : base.Memory) (op : SessionOp) {key : SessionKey} (h : key ≠ op.key) :
    base.sessions (base.apply memory op) key = base.sessions memory key := by
  cases op with
  | create key' state => exact base.create_other memory key' state key h
  | append key' event => exact base.append_other memory key' event key h
  | delete key' => exact base.delete_other memory key' key h

end InMemorySessions

/-! ## The payload -/

section Payload

variable (cls : CharClasses)

/-- `redact_pii(v) if isinstance(v, str) else v` -/
def redactField : PyValue → PyValue
  | .str text => .str (redactPii cls text)
  | v => v

def redactFields : PyValue → PyValue
  | .dict fields => .dict (fields.map fun e => (e.1, redactField cls e.2))
  | v => v

def redactUsers : PyValue → PyValue
  | .dict users => .dict (users.map fun e => (e.1, redactFields cls e.2))
  | v => v

/-- `_redact_user_state` -/
def redactUserState (userState : JsonEntries) : JsonEntries :=
  userState.map fun e => (e.1, redactUsers cls e.2)

end Payload

/-- What the file holds. -/
structure SessionSnapshot where
  appState : JsonEntries
  userState : JsonEntries
  sessions : SessionKey → Option PyValue

/-- Where the worker thread of a call stands. `app_state` is read when the payload is serialized. -/
inductive WriteStage where
  | handed
  | dumped (appState : JsonEntries)
  | replaced
  | failed

/-- The write of a call: how many operations its payload knows, and the payload. -/
structure SnapshotWrite where
  version : ℕ
  userState : JsonEntries
  sessions : SessionKey → Option PyValue
  stage : WriteStage

/-- Where a call stands: it waits for the lock, for its thread, or has ended, with a result or
    not. -/
inductive CallStage where
  | waiting
  | saving
  | returned
  | left
  deriving DecidableEq

/-- The service. The calls and their writes have the index of their operation. -/
structure SessionService (base : InMemorySessions) where
  memory : base.Memory
  ops : List SessionOp
  calls : ℕ → Option CallStage
  lock : Option ℕ
  writes : ℕ → Option SnapshotWrite
  file : Option SessionSnapshot
  /-- how many operations the file knows -/
  fileVersion : ℕ

inductive ServiceAct where
  /-- the operation of a call is applied -/
  | calls (op : SessionOp)
  /-- a call takes the lock, and hands its payload to a thread -/
  | acquires (call : ℕ)
  | dumps (call : ℕ) (appState : JsonEntries)
  /-- `os.replace` -/
  | replaces (call : ℕ)
  | fails (call : ℕ)
  | returns (call : ℕ)
  | raises (call : ℕ)
  | cancels (call : ℕ)

namespace SessionService

variable {base : InMemorySessions} (cls : CharClasses)

/-- `_load_from_disk` -/
def loadFromDisk (base : InMemorySessions) : Option SessionSnapshot → base.Memory
  | none => base.initial
  | some snapshot =>
    base.restore snapshot.appState snapshot.userState fun key =>
      (snapshot.sessions key).bind base.modelValidate

/-- A service that was started on a file. -/
def start (base : InMemorySessions) (file : Option SessionSnapshot) : SessionService base where
  memory := loadFromDisk base file
  ops := []
  calls := fun _ => none
  lock := none
  writes := fun _ => none
  file := file
  fileVersion := 0

def setCall (s : SessionService base) (call : ℕ) (stage : CallStage) : SessionService base :=
  { s with calls := fun i => if i = call then some stage else s.calls i }

def setWrite (s : SessionService base) (call : ℕ) (write : SnapshotWrite) : SessionService base :=
  { s with writes := fun i => if i = call then some write else s.writes i }

/-- The sessions as they are dumped. -/
def dumpedSessions (base : InMemorySessions) (memory : base.Memory) (key : SessionKey) :
    Option PyValue :=
  (base.sessions memory key).map base.modelDump

/-- The payload of `_save_to_disk`. -/
def payload (s : SessionService base) : SnapshotWrite where
  version := s.ops.length
  userState := redactUserState cls (base.userState s.memory)
  sessions := dumpedSessions base s.memory
  stage := .handed

/-- A call of `create_session` goes on only when the base class does not raise for a session that
    exists. -/
def goesOn (s : SessionService base) : SessionOp → Bool
  | .create key _ => (base.sessions s.memory key).isNone
  | .append _ _ => true
  | .delete _ => true

def step (s : SessionService base) : ServiceAct → Option (SessionService base)
  | .calls op =>
    if s.goesOn op then
      some { s.setCall s.ops.length .waiting with
        memory := base.apply s.memory op, ops := s.ops ++ [op] }
    else none
  | .acquires i =>
    if s.calls i = some .waiting ∧ s.lock = none then
      some { (s.setCall i .saving).setWrite i (s.payload cls) with lock := some i }
    else none
  | .dumps i appState =>
    match s.writes i with
    | some ⟨version, userState, sessions, .handed⟩ =>
      some (s.setWrite i ⟨version, userState, sessions, .dumped appState⟩)
    | _ => none
  | .replaces i =>
    match s.writes i with
    | some ⟨version, userState, sessions, .dumped appState⟩ =>
      some { s.setWrite i ⟨version, userState, sessions, .replaced⟩ with
        file := some ⟨appState, userState, sessions⟩, fileVersion := version }
    | _ => none
  | .fails i =>
    match s.writes i with
    | some ⟨version, userState, sessions, .handed⟩ =>
      some (s.setWrite i ⟨version, userState, sessions, .failed⟩)
    | some ⟨version, userState, sessions, .dumped _⟩ =>
      some (s.setWrite i ⟨version, userState, sessions, .failed⟩)
    | _ => none
  | .returns i =>
    match s.calls i, s.writes i with
    | some .saving, some ⟨_, _, _, .replaced⟩ => some { s.setCall i .returned with lock := none }
    | _, _ => none
  | .raises i =>
    match s.calls i, s.writes i with
    | some .saving, some ⟨_, _, _, .failed⟩ => some { s.setCall i .left with lock := none }
    | _, _ => none
  | .cancels i =>
    match s.calls i with
    | some .waiting => some (s.setCall i .left)
    | some .saving => some { s.setCall i .left with lock := none }
    | _ => none

/-- `PersistentInMemorySessionService`, its callers and its threads. -/
def system (base : InMemorySessions) : Guarded (SessionService base) ServiceAct := ⟨step cls⟩

/-! ## What a step does -/

/-- The steps, with what they ask for. -/
inductive Steps (cls : CharClasses) (s : SessionService base) :
    ServiceAct → SessionService base → Prop where
  | calls (op : SessionOp) (hop : s.goesOn op = true) : Steps cls s (.calls op)
      { s.setCall s.ops.length .waiting with
        memory := base.apply s.memory op, ops := s.ops ++ [op] }
  | acquires (i : ℕ) (hcall : s.calls i = some .waiting) (hlock : s.lock = none) :
    Steps cls s (.acquires i)
      { (s.setCall i .saving).setWrite i (s.payload cls) with lock := some i }
  | dumps (i : ℕ) (appState : JsonEntries) (write : SnapshotWrite)
    (hwrite : s.writes i = some write)
      (hstage : write.stage = .handed) : Steps cls s (.dumps i appState)
      (s.setWrite i { write with stage := .dumped appState })
  | replaces (i : ℕ) (appState : JsonEntries) (write : SnapshotWrite)
    (hwrite : s.writes i = some write)
      (hstage : write.stage = .dumped appState) : Steps cls s (.replaces i)
      { s.setWrite i { write with stage := .replaced } with
        file := some ⟨appState, write.userState, write.sessions⟩, fileVersion := write.version }
  | fails (i : ℕ) (write : SnapshotWrite) (hwrite : s.writes i = some write)
    (hstage : write.stage ≠ .replaced) :
      Steps cls s (.fails i) (s.setWrite i { write with stage := .failed })
  | returns (i : ℕ) (write : SnapshotWrite) (hcall : s.calls i = some .saving)
    (hwrite : s.writes i = some write)
      (hstage : write.stage = .replaced) : Steps cls s (.returns i)
      { s.setCall i .returned with lock := none }
  | raises (i : ℕ) (hcall : s.calls i = some .saving) :
      Steps cls s (.raises i) { s.setCall i .left with lock := none }
  | leaves (i : ℕ) (hcall : s.calls i = some .waiting) : Steps cls s (.cancels i)
    (s.setCall i .left)
  | cancels (i : ℕ) (hcall : s.calls i = some .saving) :
      Steps cls s (.cancels i) { s.setCall i .left with lock := none }

/-- **What a step can do.** -/
theorem steps_of_step {s s' : SessionService base} {a : ServiceAct} (h : s.step cls a = some s') :
    Steps cls s a s' := by
  cases a with
  | calls op =>
    rw [step] at h
    split_ifs at h with hop
    cases h
    exact .calls op hop
  | acquires i =>
    rw [step] at h
    split_ifs at h with hfree
    cases h
    exact .acquires i hfree.1 hfree.2
  | dumps i appState =>
    rw [step] at h
    split at h
    · next version userState sessions hwrite =>
        cases h
        exact .dumps i appState _ hwrite rfl
    · cases h
  | replaces i =>
    rw [step] at h
    split at h
    · next version userState sessions appState hwrite =>
        cases h
        exact .replaces i appState _ hwrite rfl
    · cases h
  | fails i =>
    rw [step] at h
    split at h
    · next version userState sessions hwrite =>
        cases h
        exact .fails i _ hwrite (by rintro ⟨⟩)
    · next version userState sessions appState hwrite =>
        cases h
        exact .fails i _ hwrite (by rintro ⟨⟩)
    · cases h
  | returns i =>
    rw [step] at h
    split at h
    · next version userState sessions hcall hwrite =>
        cases h
        exact .returns i _ hcall hwrite rfl
    · cases h
  | raises i =>
    rw [step] at h
    split at h
    · next version userState sessions hcall hwrite =>
        cases h
        exact .raises i hcall
    · cases h
  | cancels i =>
    rw [step] at h
    split at h
    · next hcall =>
        cases h
        exact .leaves i hcall
    · next hcall =>
        cases h
        exact .cancels i hcall
    · cases h

end SessionService

end Ekaette
