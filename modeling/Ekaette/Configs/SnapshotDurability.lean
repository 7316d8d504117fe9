import Ekaette.Configs.SessionSnapshot

set_option autoImplicit false

/-! # What the snapshot holds

The file knows the operations up to some point. As long as the threads replace it in the order in
which their payloads were built, every call that has returned lies before that point. -/

namespace Ekaette

/-! ## The sessions after a part of the operations -/

namespace InMemorySessions

variable (base : InMemorySessions)

/-- The memory after the first `n` operations. -/
def after (memory : base.Memory) (ops : List SessionOp) (n : ℕ) : base.Memory :=
  (ops.take n).foldl base.apply memory

variable {base}

theorem after_succ (memory : base.Memory) {ops : List SessionOp} {n : ℕ} {op : SessionOp}
    (h : ops[n]? = some op) : base.after memory ops (n + 1) = base.apply (base.after memory ops n)
    op := by
  rw [after, after, List.take_add_one, h, Option.toList_some, List.foldl_append]
  rfl

theorem after_append (memory : base.Memory) (ops : List SessionOp) (op : SessionOp) {n : ℕ}
    (h : n ≤ ops.length) : base.after memory (ops ++ [op]) n = base.after memory ops n := by
  rw [after, after, List.take_append_of_le_length h]

/-- What an operation brought about stays when the operations after it keep it. -/
theorem after_of_kept {P : base.Memory → Prop} {memory : base.Memory} {ops : List SessionOp}
    {i n : ℕ} (hkept : ∀ (j : ℕ) (op : SessionOp) (m : base.Memory), i < j → ops[j]? = some op →
      P m → P (base.apply m op))
    (hi : i < n) (hn : n ≤ ops.length) (h : P (base.after memory ops (i + 1))) :
    P (base.after memory ops n) := by
  induction n with
  | zero => omega
  | succ n ih =>
    rcases Nat.lt_succ_iff_lt_or_eq.1 hi with hlt | rfl
    · have hop : ops[n]? = some ops[n] := List.getElem?_eq_getElem hn
      rw [after_succ memory hop]
      exact hkept n _ _ hlt hop (ih hlt (by omega))
    · exact h

theorem isSome_apply {memory : base.Memory} {op : SessionOp} {key : SessionKey}
    (h : (base.sessions memory key).isSome) (hop : op ≠ .delete key) :
    (base.sessions (base.apply memory op) key).isSome := by
  by_cases hkey : key = op.key
  · subst hkey
    cases op with
    | create key state => exact base.sessions_create memory key state
    | append key event =>
      obtain ⟨session, hsession⟩ := Option.isSome_iff_exists.1 h
      obtain ⟨session', hsession', -⟩ := base.events_append memory key event session hsession
      exact Option.isSome_iff_exists.2 ⟨session', hsession'⟩
    | delete key => exact absurd rfl hop
  · rw [base.apply_other memory op hkey]
    exact h

/-- The event is in the session. -/
def Has (memory : base.Memory) (key : SessionKey) (event : RecordedEvent) : Prop :=
  ∃ session, base.sessions memory key = some session ∧ event ∈ base.events session

theorem has_apply {memory : base.Memory} {op : SessionOp} {key : SessionKey} {event : RecordedEvent}
    (h : Has memory key event) (hop : op ≠ .delete key) : Has (base.apply memory op) key event := by
  obtain ⟨session, hsession, hevent⟩ := h
  by_cases hkey : key = op.key
  · subst hkey
    cases op with
    | create key state =>
      have hexists : (base.sessions memory key).isSome :=
        Option.isSome_iff_exists.2 ⟨session, hsession⟩
      refine ⟨session, ?_, hevent⟩
      show base.sessions (base.create memory key state) key = some session
      rw [base.create_existing memory key state hexists]
      exact hsession
    | append key event' =>
      obtain ⟨session', hsession', hevents⟩ := base.events_append memory key event' session hsession
      exact ⟨session', hsession', hevents ▸ List.mem_append_left _ hevent⟩
    | delete key => exact absurd rfl hop
  · refine ⟨session, ?_, hevent⟩
    rw [base.apply_other memory op hkey]
    exact hsession

theorem none_apply {memory : base.Memory} {op : SessionOp} {key : SessionKey}
    (h : base.sessions memory key = none) (hop : ∀ state, op ≠ .create key state) :
    base.sessions (base.apply memory op) key = none := by
  by_cases hkey : key = op.key
  · subst hkey
    cases op with
    | create key state => exact absurd rfl (hop state)
    | append key event => exact base.append_missing memory key event h
    | delete key => exact base.sessions_delete memory key
  · rw [base.apply_other memory op hkey]
    exact h

end InMemorySessions

open InMemorySessions

namespace SessionService

variable {base : InMemorySessions} {cls : CharClasses}

/-! ## The invariant -/

/-- The snapshot is what was dumped of the first `n` operations. -/
def IsSnapshotOf (cls : CharClasses) (memory : base.Memory) (snapshot : SessionSnapshot) : Prop :=
  snapshot.userState = redactUserState cls (base.userState memory) ∧
    snapshot.sessions = dumpedSessions base memory

structure WriteShape (cls : CharClasses) (memory : base.Memory) (ops : List SessionOp)
    (fileVersion call : ℕ)
    (write : SnapshotWrite) : Prop where
  known : call < write.version
  built : write.version ≤ ops.length
  userState : write.userState = redactUserState cls
    (base.userState (base.after memory ops write.version))
  sessions : write.sessions = dumpedSessions base (base.after memory ops write.version)
  replaced : write.stage = .replaced → write.version ≤ fileVersion

/-- The invariant of the runs in which no snapshot replaces a newer one. -/
structure Shape (cls : CharClasses) (file : Option SessionSnapshot) (s : SessionService base) :
    Prop where
  memory : s.memory = base.after (loadFromDisk base file) s.ops s.ops.length
  version : s.fileVersion ≤ s.ops.length
  held : (s.fileVersion = 0 ∧ s.file = file) ∨
    ∃ snapshot, s.file = some snapshot ∧
      IsSnapshotOf cls (base.after (loadFromDisk base file) s.ops s.fileVersion) snapshot
  calls : ∀ call stage, s.calls call = some stage → call < s.ops.length
  returned : ∀ call, s.calls call = some .returned → ∃ write, s.writes call = some write ∧
    write.stage = .replaced
  writes : ∀ call write, s.writes call = some write →
    WriteShape cls (loadFromDisk base file) s.ops s.fileVersion call write

/-- No snapshot replaces a newer one. -/
def KeepsNewest (s : SessionService base) (a : ServiceAct) : Prop :=
  ∀ call write, a = .replaces call → s.writes call = some write → s.fileVersion ≤ write.version

theorem keepsNewest_of_ne {s : SessionService base} {a : ServiceAct}
    (h : ∀ call, a ≠ .replaces call) : s.KeepsNewest a :=
  fun call _ ha _ => absurd ha (h call)

/-- **What the file is for**: it is a complete snapshot, it holds what was created and appended by
    calls that have returned, and nothing that was deleted by such a call. -/
structure Durable (cls : CharClasses) (file : Option SessionSnapshot) (s : SessionService base) :
    Prop where
  complete : s.file = file ∨ ∃ snapshot n, s.file = some snapshot ∧ n ≤ s.ops.length ∧
    IsSnapshotOf cls (base.after (loadFromDisk base file) s.ops n) snapshot
  created : ∀ i key state, s.ops[i]? = some (.create key state) → s.calls i = some .returned →
    (∀ j, i < j → s.ops[j]? ≠ some (.delete key)) →
    (base.sessions (loadFromDisk base s.file) key).isSome
  appended : ∀ i key event, s.ops[i]? = some (.append key event) → s.calls i = some .returned →
    (base.sessions (base.after (loadFromDisk base file) s.ops i) key).isSome →
    (∀ j, i < j → s.ops[j]? ≠ some (.delete key)) → Has (loadFromDisk base s.file) key event
  deleted : ∀ i key, s.ops[i]? = some (.delete key) → s.calls i = some .returned →
    (∀ j state, i < j → s.ops[j]? ≠ some (.create key state)) →
    base.sessions (loadFromDisk base s.file) key = none

/-! ## Loading -/

theorem sessions_loadFromDisk {memory : base.Memory} {snapshot : SessionSnapshot}
    (h : IsSnapshotOf cls memory snapshot) :
    base.sessions (loadFromDisk base (some snapshot)) = base.sessions memory := by
  funext key
  show base.sessions (base.restore _ _ _) key = _
  rw [base.sessions_restore, h.2, dumpedSessions]
  cases hsession : base.sessions memory key with
  | none => rfl
  | some session => exact base.validate_dump session

variable {file : Option SessionSnapshot}

variable {s : SessionService base}

theorem Shape.loaded (h : s.Shape cls file) : base.sessions (loadFromDisk base s.file) =
      base.sessions (base.after (loadFromDisk base file) s.ops s.fileVersion) := by
  rcases h.held with ⟨hzero, hfile⟩ | ⟨snapshot, hfile, hsnapshot⟩
  · rw [hzero, hfile]
    rfl
  · rw [hfile]
    exact sessions_loadFromDisk hsnapshot

theorem Shape.known (h : s.Shape cls file)
    {i : ℕ} (hreturned : s.calls i = some .returned) : i < s.fileVersion := by
  -- its thread has replaced the file, by a snapshot that knows the call, and no older one came
  -- after
  obtain ⟨write, hwrite, hreplaced⟩ := h.returned i hreturned
  exact (h.writes i write hwrite).known.trans_le ((h.writes i write hwrite).replaced hreplaced)

theorem Shape.durable (h : s.Shape cls file) : s.Durable cls file := by
  have hloaded := h.loaded
  refine ⟨?_, fun i key state hop hreturned hkept => ?_,
    fun i key event hop hreturned hpresent hkept => ?_, fun i key hop hreturned hkept => ?_⟩
  · rcases h.held with ⟨-, hfile⟩ | ⟨snapshot, hfile, hsnapshot⟩
    · exact .inl hfile
    · exact .inr ⟨snapshot, s.fileVersion, hfile, h.version, hsnapshot⟩
  · rw [hloaded]
    -- only a deletion takes a session away
    refine after_of_kept (P := fun m => (base.sessions m key).isSome) (fun j op m hlt hj hm => ?_)
      (h.known hreturned) h.version ?_
    · refine isSome_apply hm ?_
      rintro rfl
      exact hkept j hlt hj
    · rw [after_succ _ hop]
      exact base.sessions_create _ key state
  · have hhas : Has (base.after (loadFromDisk base file) s.ops s.fileVersion) key event := by
      -- only a deletion takes an event away
      refine after_of_kept (P := fun m => Has m key event) (fun j op m hlt hj hm => ?_)
        (h.known hreturned) h.version ?_
      · refine has_apply hm ?_
        rintro rfl
        exact hkept j hlt hj
      · obtain ⟨session, hsession⟩ := Option.isSome_iff_exists.1 hpresent
        obtain ⟨session', hsession', hevents⟩ := base.events_append _ key event session hsession
        rw [after_succ _ hop]
        exact ⟨session', hsession', hevents ▸ List.mem_append_right _ (List.mem_singleton.2 rfl)⟩
    obtain ⟨session, hsession, hevent⟩ := hhas
    exact ⟨session, hloaded ▸ hsession, hevent⟩
  · rw [hloaded]
    -- only a creation brings a session back
    refine after_of_kept (P := fun m => base.sessions m key = none) (fun j op m hlt hj hm => ?_)
      (h.known hreturned) h.version ?_
    · refine none_apply hm fun state => ?_
      rintro rfl
      exact hkept j state hlt hj
    · rw [after_succ _ hop]
      exact base.sessions_delete _ key

/-! ## Steps -/

theorem calls_setCall {call i : ℕ} {stage stage' : CallStage}
    (h : (s.setCall call stage).calls i = some stage') :
    (i = call ∧ stage' = stage) ∨ (i ≠ call ∧ s.calls i = some stage') := by
  change (if i = call then some stage else s.calls i) = some stage' at h
  split_ifs at h with hcall
  · exact .inl ⟨hcall, (Option.some.inj h).symm⟩
  · exact .inr ⟨hcall, h⟩

theorem writes_setWrite {call i : ℕ} {write write' : SnapshotWrite}
    (h : (s.setWrite call write).writes i = some write') :
    (i = call ∧ write' = write) ∨ (i ≠ call ∧ s.writes i = some write') := by
  change (if i = call then some write else s.writes i) = some write' at h
  split_ifs at h with hcall
  · exact .inl ⟨hcall, (Option.some.inj h).symm⟩
  · exact .inr ⟨hcall, h⟩

theorem Shape.setLock
    (h : s.Shape cls file) (lock : Option ℕ) : Shape cls file { s with lock := lock } :=
  ⟨h.memory, h.version, h.held, h.calls, h.returned, h.writes⟩

/-- A call goes on; it returns only when its thread has replaced the file. -/
theorem Shape.setCall
    (h : s.Shape cls file) {call : ℕ} {stage stage' : CallStage} (hcall : s.calls call = some stage)
    (hreturned : stage' = .returned → ∃ write, s.writes call = some write ∧ write.stage = .replaced)
    : (s.setCall call stage').Shape cls file := by
  refine ⟨h.memory, h.version, h.held, fun i st hi => ?_, fun i hi => ?_, h.writes⟩
  · rcases calls_setCall hi with ⟨rfl, -⟩ | ⟨-, hi⟩
    · exact h.calls i stage hcall
    · exact h.calls i st hi
  · rcases calls_setCall hi with ⟨rfl, hstage⟩ | ⟨-, hi⟩
    · exact hreturned hstage.symm
    · exact h.returned i hi

/-- A thread goes on, and does not replace the file. -/
theorem Shape.setWrite (h : s.Shape cls file) {call : ℕ} {write write' : SnapshotWrite}
    (hwrite : s.writes call = some write) (hstage : write.stage ≠ .replaced)
    (hnew : write' = { write with stage := write'.stage }) (hnew' : write'.stage ≠ .replaced) :
    (s.setWrite call write').Shape cls file := by
  refine ⟨h.memory, h.version, h.held, h.calls, fun i hi => ?_, fun i w hi => ?_⟩
  · obtain ⟨w, hw, hreplaced⟩ := h.returned i hi
    refine ⟨w, ?_, hreplaced⟩
    show (if i = call then _ else s.writes i) = some w
    split_ifs with hcall
    · subst hcall
      rw [hwrite] at hw
      cases hw
      exact absurd hreplaced hstage
    · exact hw
  · rcases writes_setWrite hi with ⟨rfl, rfl⟩ | ⟨-, hi⟩
    · have hshape := h.writes i write hwrite
      rw [hnew]
      exact ⟨hshape.known, hshape.built, hshape.userState, hshape.sessions, fun hreplaced =>
        absurd hreplaced hnew'⟩
    · exact h.writes i w hi

theorem Shape.calls_op (h : s.Shape cls file) (op : SessionOp) : Shape cls file
      { s.setCall s.ops.length .waiting with
        memory := base.apply s.memory op, ops := s.ops ++ [op] } := by
  have hlength : (s.ops ++ [op]).length = s.ops.length + 1 := List.length_append
  have hafter : ∀ n ≤ s.ops.length, base.after (loadFromDisk base file) (s.ops ++ [op]) n =
      base.after (loadFromDisk base file) s.ops n := fun n hn => after_append _ _ _ hn
  refine ⟨?_, ?_, ?_, fun i st hi => ?_, fun i hi => ?_, fun i w hi => ?_⟩
  · show base.apply s.memory op = base.after _ (s.ops ++ [op]) (s.ops ++ [op]).length
    rw [hlength, after_succ _ List.getElem?_concat_length, hafter _ le_rfl, ← h.memory]
  · exact h.version.trans (by rw [hlength]; omega)
  · rcases h.held with hzero | ⟨snapshot, hfile, hsnapshot⟩
    · exact .inl hzero
    · refine .inr ⟨snapshot, hfile, ?_⟩
      show IsSnapshotOf cls (base.after _ (s.ops ++ [op]) s.fileVersion) snapshot
      rw [hafter _ h.version]
      exact hsnapshot
  · show i < (s.ops ++ [op]).length
    rcases calls_setCall hi with ⟨rfl, -⟩ | ⟨-, hi⟩
    · omega
    · have := h.calls i st hi
      omega
  · rcases calls_setCall hi with ⟨-, hstage⟩ | ⟨-, hi⟩
    · cases hstage
    · exact h.returned i hi
  · have hshape := h.writes i w hi
    refine ⟨hshape.known, hshape.built.trans (by rw [hlength]; omega), ?_, ?_, hshape.replaced⟩
    · rw [hafter _ hshape.built]
      exact hshape.userState
    · rw [hafter _ hshape.built]
      exact hshape.sessions

theorem Shape.acquires (h : s.Shape cls file) {call : ℕ} (hcall : s.calls call = some .waiting) :
    Shape cls file { (s.setCall call .saving).setWrite call (s.payload cls) with
      lock := some call } := by
  have hsaving : (s.setCall call .saving).Shape cls file :=
    h.setCall hcall fun hreturned => by cases hreturned
  refine Shape.setLock (s := (s.setCall call .saving).setWrite call (s.payload cls)) ?_ (some call)
  refine ⟨h.memory, h.version, h.held, hsaving.calls, fun i hi => ?_, fun i w hi => ?_⟩
  · obtain ⟨w, hw, hreplaced⟩ := hsaving.returned i hi
    refine ⟨w, ?_, hreplaced⟩
    show (if i = call then _ else s.writes i) = some w
    rw [if_neg ?_]
    · exact hw
    · rintro rfl
      rcases calls_setCall hi with ⟨-, hstage⟩ | ⟨hne, -⟩
      · cases hstage
      · exact hne rfl
  · rcases writes_setWrite hi with ⟨rfl, rfl⟩ | ⟨-, hi⟩
    · refine ⟨h.calls i _ hcall, le_rfl, ?_, ?_, fun hreplaced => by cases hreplaced⟩
      · show redactUserState cls (base.userState s.memory) = _
        rw [h.memory]
        rfl
      · show dumpedSessions base s.memory = _
        rw [h.memory]
        rfl
    · exact h.writes i w hi

/-- **The file is replaced**, by a snapshot that is no older. -/
theorem Shape.replaces
    (h : s.Shape cls file) {call : ℕ} {write : SnapshotWrite} (hwrite : s.writes call = some write)
    (horder : s.fileVersion ≤ write.version) (appState : JsonEntries) : Shape cls file
      { s.setWrite call { write with stage := .replaced } with
        file :=
          some ⟨appState, write.userState, write.sessions⟩, fileVersion := write.version } := by
  have hshape := h.writes call write hwrite
  refine ⟨h.memory, hshape.built, .inr ⟨_, rfl, hshape.userState, hshape.sessions⟩, h.calls,
    fun i hi => ?_, fun i w hi => ?_⟩
  · obtain ⟨w, hw, hreplaced⟩ := h.returned i hi
    by_cases hcall : i = call
    · exact ⟨{ write with stage := .replaced }, if_pos hcall, rfl⟩
    · exact ⟨w, (if_neg hcall).trans hw, hreplaced⟩
  · rcases writes_setWrite hi with ⟨rfl, rfl⟩ | ⟨-, hi⟩
    · exact ⟨hshape.known, hshape.built, hshape.userState, hshape.sessions, fun _ => le_rfl⟩
    · -- the snapshots that were there are no newer than the one that replaces them
      have hother := h.writes i w hi
      exact ⟨hother.known, hother.built, hother.userState, hother.sessions,
        fun hreplaced => (hother.replaced hreplaced).trans horder⟩

/-- **One step.** -/
theorem Shape.step {s s' : SessionService base} {a : ServiceAct}
    (h : s.Shape cls file) (horder : s.KeepsNewest a) (hstep : s.step cls a = some s') :
    s'.Shape cls file := by
  cases steps_of_step cls hstep with
  | calls op hop => exact h.calls_op op
  | acquires i hcall hlock => exact h.acquires hcall
  | dumps i appState write hwrite hstage =>
    exact h.setWrite hwrite (by rw [hstage]; rintro ⟨⟩) rfl (by rintro ⟨⟩)
  | replaces i appState write hwrite hstage =>
    exact h.replaces hwrite (horder i write rfl hwrite) appState
  | fails i write hwrite hstage => exact h.setWrite hwrite hstage rfl (by rintro ⟨⟩)
  | returns i write hcall hwrite hstage =>
    exact (h.setCall hcall fun _ => ⟨write, hwrite, hstage⟩).setLock none
  | raises i hcall => exact (h.setCall hcall (by rintro ⟨⟩)).setLock none
  | leaves i hcall => exact h.setCall hcall (by rintro ⟨⟩)
  | cancels i hcall => exact (h.setCall hcall (by rintro ⟨⟩)).setLock none

theorem shape_start (file : Option SessionSnapshot) : (start base file).Shape cls file := by
  refine ⟨rfl, Nat.zero_le _, .inl ⟨rfl, rfl⟩, fun i st hi => ?_, fun i hi => ?_, fun i w hi => ?_⟩
  · cases hi
  · cases hi
  · cases hi

end SessionService

open SessionService in
/-- **Durability.** In every run of calls and threads, with callers cancelled and threads failing at
    any point, the snapshot file is durable as long as no snapshot replaces a newer one. -/
theorem snapshot_durable (base : InMemorySessions) (cls : CharClasses)
    (file : Option SessionSnapshot) (acts : List ServiceAct) (s : SessionService base)
    (hrun : (system cls base).run (start base file) acts = some s)
    (horder : (system cls base).Meets KeepsNewest (start base file) acts) : s.Durable cls file :=
  Shape.durable ((system cls base).invariant_of_meets (fun _ _ _ h ho hstep => h.step ho hstep)
    (shape_start file) horder hrun)

/-! ## A plain service -/

/-- A session: its state, and its events. -/
structure PlainSession where
  state : JsonEntries
  events : List RecordedEvent

structure PlainMemory where
  app : JsonEntries
  user : JsonEntries
  held : SessionKey → Option PlainSession

/-- The keys that begin with `scope`, without it. -/
def scopedEntries (scope : String) (state : JsonEntries) : JsonEntries :=
  (state.filter fun e => scope.toList.isPrefixOf e.1.toList).map fun e =>
    (String.ofList (e.1.toList.drop scope.length), e.2)

/-- The keys without a scope. -/
def sessionEntries (state : JsonEntries) : JsonEntries :=
  state.filter fun e => ["app:", "user:", "temp:"].all fun scope =>
    !scope.toList.isPrefixOf e.1.toList

namespace PlainMemory

def dump (session : PlainSession) : PyValue :=
  .dict [("state", .dict session.state),
    ("events", .list (session.events.map fun event => .dict event.fields))]

def eventOf : PyValue → Option RecordedEvent
  | .dict fields => some ⟨fields⟩
  | _ => none

def validate : PyValue → Option PlainSession
  | .dict [("state", .dict state), ("events", .list events)] =>
    (events.mapM eventOf).map (⟨state, ·⟩)
  | _ => none

/-- The entries under a name, where there are any. -/
def entriesUnder (name : String) (es : JsonEntries) : JsonEntries :=
  if es.isEmpty then [] else [(name, .dict es)]

variable (memory : PlainMemory)

variable (key : SessionKey)

/-- A state delta is divided among the app, the user and the session. -/
def change (delta : JsonEntries) (session : Option PlainSession) : PlainMemory where
  app := memory.app ++ entriesUnder key.appName (scopedEntries "app:" delta)
  user := memory.user ++
    entriesUnder key.appName (entriesUnder key.userId (scopedEntries "user:" delta))
  held := fun k => if k = key then session else memory.held k

def create (state : JsonEntries) : PlainMemory :=
  if (memory.held key).isSome then memory
  else memory.change key state (some ⟨sessionEntries state, []⟩)

def append (event : RecordedEvent) : PlainMemory :=
  match memory.held key with
  | none => memory
  | some session =>
    memory.change key event.stateDelta
      (some ⟨session.state ++ sessionEntries event.stateDelta, session.events ++ [event]⟩)

def delete : PlainMemory :=
  { memory with held := fun k => if k = key then none else memory.held k }

theorem mapM_eventOf (events : List RecordedEvent) :
    (events.map fun event => PyValue.dict event.fields).mapM eventOf = some events := by
  induction events with
  | nil => rfl
  | cons event events ih =>
    rw [List.map_cons, List.mapM_cons, ih]
    rfl

theorem validate_dump (session : PlainSession) : validate (dump session) = some session := by
  show ((session.events.map fun event => PyValue.dict event.fields).mapM eventOf).map _ = _
  rw [mapM_eventOf]
  rfl

theorem held_create (state : JsonEntries) :
    ((memory.create key state).held key).isSome := by
  unfold create
  split_ifs with hexists
  · exact hexists
  · show (if key = key then _ else memory.held key).isSome
    rw [if_pos rfl]
    rfl

theorem held_change_other (delta : JsonEntries)
    (session : Option PlainSession) {key' : SessionKey} (h : key' ≠ key) :
    (memory.change key delta session).held key' = memory.held key' := if_neg h

theorem held_append (event : RecordedEvent)
    {session : PlainSession} (h : memory.held key = some session) : ∃ session',
    (memory.append key event).held key = some session' ∧
      session'.events = session.events ++ [event] := by
  unfold append
  rw [h]
  exact ⟨_, if_pos rfl, rfl⟩

theorem append_of_none {memory : PlainMemory} {key : SessionKey} (event : RecordedEvent)
    (h : memory.held key = none) : memory.append key event = memory := by
  unfold append
  rw [h]

end PlainMemory

open PlainMemory in
/-- A service in memory; state that is set twice is listed twice. -/
def plainSessions : InMemorySessions where
  Memory := PlainMemory
  Session := PlainSession
  initial := ⟨[], [], fun _ => none⟩
  appState := PlainMemory.app
  userState := PlainMemory.user
  sessions := PlainMemory.held
  events := PlainSession.events
  modelDump := dump
  modelValidate := validate
  restore := PlainMemory.mk
  create := PlainMemory.create
  append := PlainMemory.append
  delete := PlainMemory.delete
  validate_dump := PlainMemory.validate_dump
  sessions_initial := fun _ => rfl
  sessions_restore := fun _ _ _ => rfl
  sessions_create := held_create
  create_existing := fun _ _ _ h => if_pos h
  create_other := by
    intro memory key state key' hne
    show (memory.create key state).held key' = _
    unfold PlainMemory.create
    split_ifs with hexists
    · rfl
    · exact held_change_other _ _ _ _ hne
  events_append := fun memory key event _ h => held_append memory key event h
  append_missing := by
    intro memory key event h
    show (memory.append key event).held key = none
    rw [append_of_none event h]
    exact h
  append_other := by
    intro memory key event key' hne
    show (memory.append key event).held key' = _
    cases hheld : memory.held key with
    | none => rw [append_of_none event hheld]
    | some session =>
      unfold PlainMemory.append
      rw [hheld]
      exact held_change_other _ _ _ _ hne
  sessions_delete := fun _ _ => if_pos rfl
  delete_other := fun _ _ _ hne => if_neg hne

/-- ASCII letters and digits only. -/
def asciiClasses : CharClasses :=
  ⟨fun c => '0' ≤ c && c ≤ '9', fun c => asciiLetter c || ('0' ≤ c && c ≤ '9') || c = '_'⟩

def chatSession : SessionKey := ⟨"shop", "ada", "chat"⟩

def callSession : SessionKey := ⟨"shop", "ada", "call"⟩

open SessionService in
/-- A call of `create_session` that is cancelled while another one waits for the lock: its thread
    replaces the file first. -/
theorem snapshot_durable_cancelled :
    ∃ s, (system asciiClasses plainSessions).run (start plainSessions none)
        [.calls (.create chatSession []), .acquires 0, .calls (.create callSession []), .cancels 0,
          .dumps 0 [], .replaces 0, .acquires 1, .dumps 1 [], .replaces 1, .returns 1] = some s ∧
      s.calls 1 = some .returned ∧ s.Durable asciiClasses none := by
  refine ⟨_, rfl, rfl, snapshot_durable plainSessions asciiClasses none
    [.calls (.create chatSession []), .acquires 0, .calls (.create callSession []), .cancels 0,
      .dumps 0 [], .replaces 0, .acquires 1, .dumps 1 [], .replaces 1, .returns 1] _ rfl ?_⟩
  refine .cons rfl (keepsNewest_of_ne (by rintro _ ⟨⟩)) (.cons rfl
    (keepsNewest_of_ne (by rintro _ ⟨⟩)) (.cons rfl (keepsNewest_of_ne (by rintro _ ⟨⟩)) (.cons rfl
    (keepsNewest_of_ne (by rintro _ ⟨⟩)) (.cons rfl (keepsNewest_of_ne (by rintro _ ⟨⟩)) (.cons rfl
    ?_ (.cons rfl (keepsNewest_of_ne (by rintro _ ⟨⟩)) (.cons rfl (keepsNewest_of_ne
    (by rintro _ ⟨⟩)) (.cons rfl ?_ (.cons rfl (keepsNewest_of_ne (by rintro _ ⟨⟩))
    trivial)))))))))
  · rintro call write - -
    exact Nat.zero_le _
  · rintro call write hcall hwrite
    cases hcall
    cases hwrite
    exact Nat.le_succ _

open SessionService in
/-- A caller that is cancelled leaves its thread to replace the file, after the thread of a call
    that has returned. -/
theorem snapshot_replaced_by_older :
    ¬ ∀ (base : InMemorySessions) (cls : CharClasses) (file : Option SessionSnapshot)
    (acts : List ServiceAct)
      (s : SessionService base), (system cls base).run (start base file) acts = some s →
      s.Durable cls file := by
  intro h
  have hdurable := h plainSessions asciiClasses none
    [.calls (.create chatSession []), .acquires 0, .cancels 0, .calls (.create callSession []),
      .acquires 1, .dumps 1 [], .replaces 1, .returns 1, .dumps 0 [], .replaces 0] _ rfl
  have hloaded := hdurable.created 1 callSession [] rfl rfl (fun j hj hop => ?_)
  · cases hloaded
  · rcases j with _ | _ | j
    · cases hj
    · cases hj.ne rfl
    · cases hop

end Ekaette
