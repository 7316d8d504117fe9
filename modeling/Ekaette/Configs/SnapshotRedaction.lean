import Ekaette.Configs.SnapshotDurability

set_option autoImplicit false

/-! # Contact data in the snapshot

The user state is redacted when it is written: the values that are strings. What is kept elsewhere
in the snapshot, or inside of a list or an object, is written as it is. -/

namespace Ekaette

/-! ## The strings of a value -/

mutual

/-- The strings of a JSON value, with the names of its members. -/
def jsonStrings : PyValue → List String
  | .none => []
  | .bool _ => []
  | .int _ => []
  | .float _ => []
  | .str text => [text]
  | .list xs => listStrings xs
  | .dict es => entryStrings es

def listStrings : List PyValue → List String
  | [] => []
  | v :: vs => jsonStrings v ++ listStrings vs

def entryStrings : List (String × PyValue) → List String
  | [] => []
  | (key, v) :: es => key :: (jsonStrings v ++ entryStrings es)

end

theorem forall_entryStrings {Q : String → Prop} {es : JsonEntries} :
    (∀ t ∈ entryStrings es, Q t) ↔ ∀ e ∈ es, Q e.1 ∧ ∀ t ∈ jsonStrings e.2, Q t := by
  induction es with
  | nil => simp [entryStrings]
  | cons e es ih =>
    obtain ⟨key, v⟩ := e
    show (∀ t ∈ key :: (jsonStrings v ++ entryStrings es), Q t) ↔ _
    rw [List.forall_mem_cons, List.forall_mem_append, ih, List.forall_mem_cons, and_assoc]

def SessionKey.names (key : SessionKey) : List String := [key.appName, key.userId, key.sessionId]

/-- The file holds a string. -/
def SessionSnapshot.Holds (snapshot : SessionSnapshot) (t : String) : Prop :=
  t ∈ entryStrings snapshot.appState ∨ t ∈ entryStrings snapshot.userState ∨
    ∃ key raw, snapshot.sessions key = some raw ∧ (t ∈ key.names ∨ t ∈ jsonStrings raw)

/-! ## The values under `user:` keys -/

/-- The values under `user:` keys that an operation sets, without the scope. -/
def SessionOp.userFields : SessionOp → JsonEntries
  | .create _ state => scopedEntries "user:" state
  | .append _ event => scopedEntries "user:" event.stateDelta
  | .delete _ => []

/-- What else an operation leaves: the other state of a session, and an event with its state
    delta. -/
def SessionOp.keptEntries : SessionOp → JsonEntries
  | .create _ state => scopedEntries "app:" state ++ sessionEntries state
  | .append _ event =>
    scopedEntries "app:" event.stateDelta ++ sessionEntries event.stateDelta ++ event.fields
  | .delete _ => []

/-- The user state is two levels of mappings over values that meet `P`, under names that meet
    `N`. -/
def FieldsFrom (P : PyValue → Prop) (N : String → Prop) (userState : JsonEntries) : Prop :=
  ∀ e ∈ userState, N e.1 ∧ ∃ users, e.2 = .dict users ∧ ∀ u ∈ users, N u.1 ∧ ∃ fields,
    u.2 = .dict fields ∧ ∀ f ∈ fields, N f.1 ∧ P f.2

/-- The strings of the memory beside the user state. -/
def KeptStrings (base : InMemorySessions) (Q : String → Prop) (memory : base.Memory) : Prop :=
  (∀ t ∈ entryStrings (base.appState memory), Q t) ∧
    ∀ key session, base.sessions memory key = some session →
      (∀ t ∈ key.names, Q t) ∧ ∀ t ∈ jsonStrings (base.modelDump session), Q t

/-- What the code relies on further: values under `user:` keys go to the user state, what else there
    is to the app state and the sessions, and `model_dump` writes names of its own only. -/
structure SplittingSessions extends InMemorySessions where
  ownNames : List String
  appState_initial : appState initial = []
  userState_initial : userState initial = []
  appState_restore : ∀ app user held, appState (restore app user held) = app
  userState_restore : ∀ app user held, userState (restore app user held) = user
  dump_validate : ∀ raw session, modelValidate raw = some session → modelDump session = raw
  user_apply : ∀ (P : PyValue → Prop) (N : String → Prop) memory op,
    FieldsFrom P N (userState memory) →
    (∀ name ∈ op.key.names, N name) → (∀ e ∈ op.userFields, N e.1 ∧ P e.2) →
      FieldsFrom P N (userState (toInMemorySessions.apply memory op))
  kept_apply : ∀ (Q : String → Prop) memory op, KeptStrings toInMemorySessions Q memory →
    (∀ name ∈ op.key.names, Q name) → (∀ t ∈ entryStrings op.keptEntries, Q t) →
      (∀ t ∈ ownNames, Q t) → KeptStrings toInMemorySessions Q (toInMemorySessions.apply memory op)

/-! ## Redaction -/

section Redaction

variable (cls : CharClasses)

/-- A value of the user state: a string, which is redacted, meets `U`, and the strings of any other
    value meet `Q`. -/
def FieldWithin (Q U : String → Prop) : PyValue → Prop
  | .str text => U text
  | v => ∀ t ∈ jsonStrings v, Q t

variable {Q U : String → Prop}

theorem redactField_within (hU : ∀ text, U text → Q (redactPii cls text)) {v : PyValue}
    (h : FieldWithin Q U v) : ∀ t ∈ jsonStrings (redactField cls v), Q t := by
  cases v with
  | str text =>
    intro t ht
    rw [redactField, jsonStrings, List.mem_singleton] at ht
    subst ht
    exact hU text h
  | none => exact h
  | bool b => exact h
  | int n => exact h
  | float x => exact h
  | list xs => exact h
  | dict es => exact h

theorem redactUserState_within (hU : ∀ text, U text → Q (redactPii cls text))
    {userState : JsonEntries} (h : FieldsFrom (FieldWithin Q U) Q userState) :
    ∀ t ∈ entryStrings (redactUserState cls userState), Q t := by
  rw [forall_entryStrings]
  intro e he
  obtain ⟨app, happ, rfl⟩ := List.mem_map.1 he
  obtain ⟨hname, users, husers, hall⟩ := h app happ
  refine ⟨hname, ?_⟩
  show ∀ t ∈ jsonStrings (redactUsers cls app.2), Q t
  -- two maps deep, by app and by user, are the fields that are redacted
  rw [husers, redactUsers, jsonStrings, forall_entryStrings]
  intro e he
  obtain ⟨user, huser, rfl⟩ := List.mem_map.1 he
  obtain ⟨hname, fields, hfields, hall⟩ := hall user huser
  refine ⟨hname, ?_⟩
  show ∀ t ∈ jsonStrings (redactFields cls user.2), Q t
  rw [hfields, redactFields, jsonStrings, forall_entryStrings]
  intro e he
  obtain ⟨field, hfield, rfl⟩ := List.mem_map.1 he
  exact ⟨(hall field hfield).1, redactField_within cls hU (hall field hfield).2⟩

/-! ## The claim about the file -/

variable (ops : List SessionOp)

/-- The strings under `user:` keys that match a pattern. -/
def ContactString (t : String) : Prop :=
  matchesPii cls t = true ∧ ∃ op ∈ ops, ∃ e ∈ op.userFields, t ∈ jsonStrings e.2

/-- None of them occurs in a string. -/
def WithoutContact (text : String) : Prop :=
  ∀ t, ContactString cls ops t → ¬ t.toList <:+: text.toList

/-- A string whose redaction leaves none of them. -/
def RedactsAll (text : String) : Prop :=
  ∀ t, ContactString cls ops t → ¬ MayRemain cls text.toList t.toList

theorem withoutContact_of_redactsAll {cls : CharClasses} (hcls : cls.Lawful) {ops : List SessionOp}
    {text : String} (h : RedactsAll cls ops text) : WithoutContact cls ops (redactPii cls text) :=
  fun t ht hinside => h t ht (mayRemain_of_redactPii hcls hinside)

/-- What an operation brings in meets `Q` where it is written as it is, and `U` where it is
    redacted. -/
structure OpWithin (Q U : String → Prop) (op : SessionOp) : Prop where
  names : ∀ name ∈ op.key.names, Q name
  user : ∀ e ∈ op.userFields, Q e.1 ∧ FieldWithin Q U e.2
  kept : ∀ t ∈ entryStrings op.keptEntries, Q t

/-- The same for a file that is there at the start. -/
structure FileWithin (Q U : String → Prop) (snapshot : SessionSnapshot) : Prop where
  holds : ∀ t, snapshot.Holds t → Q t
  user : FieldsFrom (FieldWithin Q U) Q snapshot.userState

end Redaction

open InMemorySessions SessionService

variable {base : SplittingSessions} {cls : CharClasses}

/-- What a call brings in. -/
def InputsWithin (Q U : String → Prop) (_ : SessionService base.toInMemorySessions) :
    ServiceAct → Prop
  | .calls op => OpWithin Q U op
  | _ => True

/-- What a thread finds in the app state was there after some of the operations. -/
def ReadsMemory (file : Option SessionSnapshot) (s : SessionService base.toInMemorySessions) :
    ServiceAct → Prop
  | .dumps _ appState => ∀ t ∈ entryStrings appState, ∃ n,
    t ∈ entryStrings (base.appState (base.after (loadFromDisk _ file) s.ops n))
  | _ => True

/-! ## The invariant -/

def SessionsWithin (Q : String → Prop) (sessions : SessionKey → Option PyValue) : Prop :=
  ∀ key raw, sessions key = some raw → (∀ t ∈ key.names, Q t) ∧ ∀ t ∈ jsonStrings raw, Q t

structure WriteWithin (Q : String → Prop) (write : SnapshotWrite) : Prop where
  userState : ∀ t ∈ entryStrings write.userState, Q t
  sessions : SessionsWithin Q write.sessions
  dumped : ∀ appState, write.stage = .dumped appState → ∀ t ∈ entryStrings appState, Q t

/-- The memory holds what was set, and every snapshot stays within `Q`. -/
structure Within (Q U : String → Prop) (file : Option SessionSnapshot)
    (s : SessionService base.toInMemorySessions) : Prop where
  memory : s.memory = s.ops.foldl base.apply (loadFromDisk base.toInMemorySessions file)
  user : FieldsFrom (FieldWithin Q U) Q (base.userState s.memory)
  kept : ∀ n, KeptStrings base.toInMemorySessions Q (base.after (loadFromDisk _ file) s.ops n)
  writes : ∀ call write, s.writes call = some write → WriteWithin Q write
  file : ∀ snapshot, s.file = some snapshot → ∀ t, snapshot.Holds t → Q t

variable {Q U : String → Prop} {file : Option SessionSnapshot}
    {s s' : SessionService base.toInMemorySessions}

theorem holds_within {snapshot : SessionSnapshot} (happ : ∀ t ∈ entryStrings snapshot.appState, Q t)
    (huser : ∀ t ∈ entryStrings snapshot.userState, Q t)
    (hsessions : SessionsWithin Q snapshot.sessions) (t : String) (h : snapshot.Holds t) : Q t := by
  rcases h with h | h | ⟨key, raw, hraw, h | h⟩
  · exact happ t h
  · exact huser t h
  · exact (hsessions key raw hraw).1 t h
  · exact (hsessions key raw hraw).2 t h

theorem dumpedSessions_within {memory : base.Memory}
    (h : KeptStrings base.toInMemorySessions Q memory) :
    SessionsWithin Q (dumpedSessions base.toInMemorySessions memory) := by
  intro key raw hraw
  obtain ⟨session, hsession, rfl⟩ := Option.map_eq_some_iff.1 hraw
  exact h.2 key session hsession

theorem writes_within {call i : ℕ} {write write' : SnapshotWrite}
    (h : ∀ call write, s.writes call = some write → WriteWithin Q write)
    (hnew : WriteWithin Q write) (hi : (s.setWrite call write).writes i = some write') :
    WriteWithin Q write' := by
  rcases writes_setWrite hi with ⟨-, rfl⟩ | ⟨-, hi⟩
  · exact hnew
  · exact h i write' hi

theorem Within.kept_memory (h : Within Q U file s) :
    KeptStrings base.toInMemorySessions Q s.memory := by
  have hkept := h.kept s.ops.length
  rw [after, List.take_length, ← h.memory] at hkept
  exact hkept

/-- A thread goes on without a new payload. -/
theorem Within.setWrite (h : Within Q U file s) {call : ℕ} {write write' : SnapshotWrite}
    (hwrite : s.writes call = some write) (huser : write'.userState = write.userState)
    (hsessions : write'.sessions = write.sessions)
    (hdumped : ∀ appState, write'.stage = .dumped appState → ∀ t ∈ entryStrings appState, Q t) :
    Within Q U file (s.setWrite call write') := by
  have hold := h.writes call write hwrite
  refine ⟨h.memory, h.user, h.kept, fun i w hi => writes_within h.writes ⟨?_, ?_, hdumped⟩ hi,
    h.file⟩
  · rw [huser]
    exact hold.userState
  · rw [hsessions]
    exact hold.sessions

theorem Within.calls_op (h : Within Q U file s) (hown : ∀ t ∈ base.ownNames, Q t) {op : SessionOp}
    (hop : OpWithin Q U op) : Within Q U file
      { s.setCall s.ops.length .waiting with
        memory := base.apply s.memory op, ops := s.ops ++ [op] } := by
  have hmemory : base.apply s.memory op =
      (s.ops ++ [op]).foldl base.apply (loadFromDisk base.toInMemorySessions file) := by
    rw [List.foldl_append, ← h.memory]
    rfl
  refine ⟨hmemory, base.user_apply _ Q s.memory op h.user hop.names hop.user, fun n => ?_, h.writes,
    h.file⟩
  show KeptStrings _ Q (base.after _ (s.ops ++ [op]) n)
  rcases Nat.lt_or_ge s.ops.length n with hlater | hbefore
  · rw [after, List.take_of_length_le (by rw [List.length_append]; exact hlater), ← hmemory]
    exact base.kept_apply Q s.memory op h.kept_memory hop.names hop.kept hown
  · rw [after_append _ _ _ hbefore]
    exact h.kept n

/-- The user state is redacted when the payload is built. -/
theorem Within.acquires (hU : ∀ text, U text → Q (redactPii cls text)) (h : Within Q U file s)
    (call : ℕ) : Within Q U file
      { (s.setCall call .saving).setWrite call (s.payload cls) with lock := some call } := by
  refine ⟨h.memory, h.user, h.kept, fun i w hi => ?_, h.file⟩
  refine writes_within (s := s.setCall call .saving) h.writes ?_ hi
  exact ⟨redactUserState_within cls hU h.user, dumpedSessions_within h.kept_memory, fun _ hstage =>
    by cases hstage⟩

theorem Within.replaces (h : Within Q U file s) {call : ℕ} {write : SnapshotWrite}
    {appState : JsonEntries} (hwrite : s.writes call = some write)
    (hstage : write.stage = .dumped appState) : Within Q U file
      { s.setWrite call { write with stage := .replaced } with
        file :=
          some ⟨appState, write.userState, write.sessions⟩, fileVersion := write.version } := by
  have hold := h.writes call write hwrite
  refine ⟨h.memory, h.user, h.kept, fun i w hi => ?_, fun snapshot hsnapshot t ht => ?_⟩
  · have hnew : WriteWithin Q { write with stage := .replaced } :=
      ⟨hold.userState, hold.sessions, fun _ hstage => by cases hstage⟩
    exact writes_within h.writes hnew hi
  · cases hsnapshot
    exact holds_within (hold.dumped appState hstage) hold.userState hold.sessions t ht

/-- **One step.** -/
theorem Within.step (hU : ∀ text, U text → Q (redactPii cls text)) (hown : ∀ t ∈ base.ownNames, Q t)
    {a : ServiceAct} (h : Within Q U file s) (ha : InputsWithin Q U s a)
    (hread : ReadsMemory file s a) (hstep : s.step cls a = some s') : Within Q U file s' := by
  cases steps_of_step cls hstep with
  | calls op hop => exact h.calls_op hown ha
  | acquires i hcall hlock => exact h.acquires hU i
  | dumps i appState write hwrite hstage =>
    refine h.setWrite hwrite rfl rfl fun _ hdumped t ht => ?_
    cases hdumped
    obtain ⟨n, hn⟩ := hread t ht
    exact (h.kept n).1 t hn
  | replaces i appState write hwrite hstage => exact h.replaces hwrite hstage
  | fails i write hwrite hstage => exact h.setWrite hwrite rfl rfl (by rintro _ ⟨⟩)
  | returns i write hcall hwrite hstage => exact ⟨h.memory, h.user, h.kept, h.writes, h.file⟩
  | raises i hcall => exact ⟨h.memory, h.user, h.kept, h.writes, h.file⟩
  | leaves i hcall => exact ⟨h.memory, h.user, h.kept, h.writes, h.file⟩
  | cancels i hcall => exact ⟨h.memory, h.user, h.kept, h.writes, h.file⟩

theorem kept_loadFromDisk (hfile : ∀ snapshot, file = some snapshot → FileWithin Q U snapshot) :
    KeptStrings base.toInMemorySessions Q (loadFromDisk base.toInMemorySessions file) := by
  cases hheld : file with
  | none =>
    refine ⟨fun t ht => ?_, fun key session hsession => ?_⟩
    · change t ∈ entryStrings (base.appState base.initial) at ht
      rw [base.appState_initial] at ht
      cases ht
    · change base.sessions base.initial key = some session at hsession
      rw [base.sessions_initial] at hsession
      cases hsession
  | some snapshot =>
    have hholds := (hfile snapshot hheld).holds
    refine ⟨fun t ht => ?_, fun key session hsession => ?_⟩
    · change t ∈ entryStrings (base.appState (base.restore _ _ _)) at ht
      rw [base.appState_restore] at ht
      exact hholds t (.inl ht)
    · change base.sessions (base.restore _ _ _) key = some session at hsession
      rw [base.sessions_restore] at hsession
      -- a session that is loaded is written again as it was
      obtain ⟨raw, hraw, hvalid⟩ := Option.bind_eq_some_iff.1 hsession
      rw [base.dump_validate raw session hvalid]
      exact ⟨fun t ht => hholds t (.inr (.inr ⟨key, raw, hraw, .inl ht⟩)),
        fun t ht => hholds t (.inr (.inr ⟨key, raw, hraw, .inr ht⟩))⟩

theorem within_start (hfile : ∀ snapshot, file = some snapshot → FileWithin Q U snapshot) :
    Within Q U file (start base.toInMemorySessions file) := by
  refine ⟨rfl, ?_, fun n => ?_, fun _ _ hi => (by cases hi), fun snapshot hsnapshot =>
    (hfile snapshot hsnapshot).holds⟩
  · show FieldsFrom _ Q (base.userState (loadFromDisk base.toInMemorySessions file))
    cases hheld : file with
    | none =>
      intro e he
      change e ∈ base.userState base.initial at he
      rw [base.userState_initial] at he
      cases he
    | some snapshot =>
      show FieldsFrom _ Q (base.userState (base.restore _ _ _))
      rw [base.userState_restore]
      exact (hfile snapshot hheld).user
  · show KeptStrings _ Q (List.foldl _ _ (List.take n []))
    rw [List.take_nil]
    exact kept_loadFromDisk hfile

theorem entryStrings_append (es es' : JsonEntries) :
    entryStrings (es ++ es') = entryStrings es ++ entryStrings es' := by
  induction es with
  | nil => rfl
  | cons e es ih =>
    obtain ⟨key, v⟩ := e
    show key :: (jsonStrings v ++ entryStrings (es ++ es')) = key ::
      ((jsonStrings v ++ entryStrings es) ++ _)
    rw [ih, List.append_assoc]

namespace PlainMemory

theorem eq_of_mem_entriesUnder {name : String} {es : JsonEntries} {e : String × PyValue}
    (h : e ∈ entriesUnder name es) : e = (name, .dict es) := by
  unfold entriesUnder at h
  split_ifs at h
  · cases h
  · exact List.mem_singleton.1 h

theorem fieldsFrom_change {P : PyValue → Prop} {N : String → Prop} {memory : PlainMemory}
    (h : FieldsFrom P N memory.user) {key : SessionKey} (hkey : ∀ name ∈ key.names, N name)
    {delta : JsonEntries} (hdelta : ∀ e ∈ scopedEntries "user:" delta, N e.1 ∧ P e.2)
    (session : Option PlainSession) : FieldsFrom P N (memory.change key delta session).user := by
  intro e he
  rcases List.mem_append.1 he with he | he
  · exact h e he
  · obtain rfl := eq_of_mem_entriesUnder he
    refine ⟨hkey _ (by simp [SessionKey.names]), _, rfl, fun u hu => ?_⟩
    obtain rfl := eq_of_mem_entriesUnder hu
    exact ⟨hkey _ (by simp [SessionKey.names]), _, rfl, hdelta⟩

theorem forall_dump {Q : String → Prop} {session : PlainSession} :
    (∀ t ∈ jsonStrings (dump session), Q t) ↔ (Q "state" ∧ Q "events") ∧
    (∀ t ∈ entryStrings session.state, Q t) ∧
      ∀ event ∈ session.events, ∀ t ∈ entryStrings event.fields, Q t := by
  have hevents : (∀ t ∈ listStrings (session.events.map fun event => PyValue.dict event.fields),
      Q t) ↔ ∀ event ∈ session.events, ∀ t ∈ entryStrings event.fields, Q t := by
    induction session.events with
    | nil =>
      constructor
      · intro _ event hevent
        cases hevent
      · intro _ t ht
        cases ht
    | cons event events ih =>
      show (∀ t ∈ entryStrings event.fields ++ listStrings (events.map _), Q t) ↔ _
      rw [List.forall_mem_append, ih, List.forall_mem_cons]
  rw [dump, jsonStrings, forall_entryStrings, List.forall_mem_cons, List.forall_mem_singleton]
  show (Q "state" ∧ ∀ t ∈ entryStrings session.state, Q t) ∧ Q "events" ∧
    (∀ t ∈ listStrings (session.events.map fun event => PyValue.dict event.fields), Q t) ↔ _
  rw [hevents]
  tauto

theorem kept_change {Q : String → Prop} {memory : PlainMemory}
    (h : KeptStrings plainSessions Q memory) {key : SessionKey} (hkey : ∀ name ∈ key.names, Q name)
    {delta : JsonEntries} (happ : ∀ t ∈ entryStrings (scopedEntries "app:" delta), Q t)
    {session : PlainSession} (hsession : ∀ t ∈ jsonStrings (dump session), Q t) :
    KeptStrings plainSessions Q (memory.change key delta (some session)) := by
  constructor
  · show ∀ t ∈ entryStrings (memory.app ++ entriesUnder key.appName _), Q t
    rw [entryStrings_append, List.forall_mem_append]
    refine ⟨h.1, forall_entryStrings.2 fun e he => ?_⟩
    obtain rfl := eq_of_mem_entriesUnder he
    exact ⟨hkey _ (by simp [SessionKey.names]), happ⟩
  · intro key' session' hheld
    change (if key' = key then some session else memory.held key') = some session' at hheld
    split_ifs at hheld with hsame
    · cases hheld
      subst hsame
      exact ⟨hkey, hsession⟩
    · exact h.2 key' session' hheld

theorem map_of_mapM_eventOf {raw : List PyValue} {events : List RecordedEvent}
    (h : raw.mapM eventOf = some events) : (events.map fun event => PyValue.dict event.fields) =
    raw := by
  induction raw generalizing events with
  | nil =>
    cases h
    rfl
  | cons v raw ih =>
    rw [List.mapM_cons] at h
    obtain ⟨event, hevent, h⟩ := Option.bind_eq_some_iff.1 h
    obtain ⟨rest, hrest, h⟩ := Option.bind_eq_some_iff.1 h
    cases h
    cases v with
    | dict fields =>
      cases hevent
      rw [List.map_cons, ih hrest]
    | none => cases hevent
    | bool b => cases hevent
    | int n => cases hevent
    | float x => cases hevent
    | str text => cases hevent
    | list xs => cases hevent

theorem dump_validate {raw : PyValue} {session : PlainSession} (h : validate raw = some session) :
    dump session = raw := by
  unfold validate at h
  split at h
  · next state events =>
      obtain ⟨found, hfound, rfl⟩ := Option.map_eq_some_iff.1 h
      rw [dump, map_of_mapM_eventOf hfound]
  · cases h

theorem user_apply {P : PyValue → Prop} {N : String → Prop} {memory : PlainMemory} {op : SessionOp}
    (h : FieldsFrom P N memory.user) (hkey : ∀ name ∈ op.key.names, N name)
    (hop : ∀ e ∈ op.userFields, N e.1 ∧ P e.2) :
    FieldsFrom P N (plainSessions.apply memory op).user := by
  cases op with
  | create key state =>
    show FieldsFrom P N (memory.create key state).user
    unfold create
    split_ifs
    · exact h
    · exact fieldsFrom_change h hkey hop _
  | append key event =>
    show FieldsFrom P N (memory.append key event).user
    cases hheld : memory.held key with
    | none =>
      rw [append_of_none event hheld]
      exact h
    | some session =>
      unfold append
      rw [hheld]
      exact fieldsFrom_change h hkey hop _
  | delete key => exact h

theorem kept_apply {Q : String → Prop} {memory : PlainMemory} {op : SessionOp}
    (h : KeptStrings plainSessions Q memory) (hkey : ∀ name ∈ op.key.names, Q name)
    (hop : ∀ t ∈ entryStrings op.keptEntries, Q t) (hown : Q "state" ∧ Q "events") :
    KeptStrings plainSessions Q (plainSessions.apply memory op) := by
  cases op with
  | create key state =>
    rw [SessionOp.keptEntries, entryStrings_append, List.forall_mem_append] at hop
    show KeptStrings plainSessions Q (memory.create key state)
    unfold create
    split_ifs
    · exact h
    · -- a new session has no events
      refine kept_change h hkey hop.1 (forall_dump.2 ⟨hown, hop.2, fun event hevent => ?_⟩)
      cases hevent
  | append key event =>
    rw [SessionOp.keptEntries, entryStrings_append, List.forall_mem_append, entryStrings_append,
      List.forall_mem_append] at hop
    show KeptStrings plainSessions Q (memory.append key event)
    cases hheld : memory.held key with
    | none =>
      rw [append_of_none event hheld]
      exact h
    | some session =>
      obtain ⟨-, hstate, hevents⟩ := forall_dump.1 (h.2 key session hheld).2
      unfold append
      rw [hheld]
      refine kept_change h hkey hop.1.1 (forall_dump.2 ⟨hown, ?_, ?_⟩)
      · rw [entryStrings_append, List.forall_mem_append]
        exact ⟨hstate, hop.1.2⟩
      · rw [List.forall_mem_append, List.forall_mem_singleton]
        exact ⟨hevents, hop.2⟩
  | delete key =>
    refine ⟨h.1, fun key' session hheld => ?_⟩
    change (if key' = key then none else memory.held key') = some session at hheld
    split_ifs at hheld
    exact h.2 key' session hheld

end PlainMemory

open PlainMemory in
def plainSplitting : SplittingSessions where
  toInMemorySessions := plainSessions
  ownNames := ["state", "events"]
  appState_initial := rfl
  userState_initial := rfl
  appState_restore := fun _ _ _ => rfl
  userState_restore := fun _ _ _ => rfl
  dump_validate := fun _ _ => PlainMemory.dump_validate
  user_apply := fun _ _ _ _ => PlainMemory.user_apply
  kept_apply := by
    intro Q memory op h hkey hop hown
    exact PlainMemory.kept_apply h hkey hop ⟨hown _ (by simp), hown _ (by simp)⟩

/-- A customer's address. -/
def addressState : JsonEntries := [("user:email", .str "ada@b.co")]

theorem userFields_address : scopedEntries "user:" addressState = [("email", .str "ada@b.co")] :=
  rfl

theorem keptEntries_address :
    SessionOp.keptEntries (.create chatSession addressState) = [] := by decide +kernel

theorem redactPii_address : redactPii asciiClasses "ada@b.co" = "***@b.co" := by decide +kernel

theorem withoutContact_address {text : String} (h : ¬ "ada@b.co".toList <:+: text.toList) :
    WithoutContact asciiClasses [.create chatSession addressState] text := by
  rintro t ⟨-, op, hop, e, he, ht⟩
  cases List.mem_singleton.1 hop
  rw [SessionOp.userFields, userFields_address] at he
  cases List.mem_singleton.1 he
  cases List.mem_singleton.1 ht
  exact h

theorem asciiClasses_lawful : asciiClasses.Lawful := by
  refine ⟨fun c _ => rfl, fun c _ => ?_⟩
  have hlower : c.isLower = (decide ('a' ≤ c) && decide (c ≤ 'z')) := rfl
  have hupper : c.isUpper = decide ('A' ≤ c ∧ c ≤ 'Z') := rfl
  have hletter : asciiLetter c = (c.isLower || c.isUpper) := by
    rw [hlower, hupper, Bool.decide_and, asciiLetter]
  show (asciiLetter c || c.isDigit || decide (c = '_')) = (c.isUpper || c.isLower || c.isDigit || _)
  rw [hletter, Bool.or_comm c.isUpper]

theorem accepts_address : email.Accepts "ada@b.co".toList := by
  have hparses : (⟨[], [(1, "@b.co".toList)]⟩ : Rx.Match) ∈ email.rx.run "ada@b.co".toList := by
    decide +kernel
  obtain ⟨w, hw, hparses⟩ := Rx.mem_run_iff.1 hparses
  rw [List.append_nil] at hw
  exact ⟨_, hw ▸ hparses⟩

theorem redactsAll_address :
    RedactsAll asciiClasses [.create chatSession addressState] "ada@b.co" := by
  rintro t ⟨-, op, hop, e, he, ht⟩ hremains
  cases List.mem_singleton.1 hop
  rw [SessionOp.userFields, userFields_address] at he
  cases List.mem_singleton.1 he
  cases List.mem_singleton.1 ht
  exact not_behind_self (hremains.addresses _ (List.infix_refl _) accepts_address)

end Ekaette
