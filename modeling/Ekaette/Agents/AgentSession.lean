import Ekaette.Agents.Callbacks
import Ekaette.Lib.CursorLog

set_option autoImplicit false

/-! # An agent session

The callbacks of the agents and the background tasks of the router
(`app/agents/ekaette_router/agent.py`) work on one session state, in any order. After a turn of the
router its callback adds up the tokens, hands the next batch of events to the memory service, and
has the new events searched for lessons (`app/tools/global_lessons.py`); the two tasks run in the
background, each behind a cursor and a flag in the state.

The state is shared by all of them; when the runtime makes it durable is left out. -/

namespace Ekaette

/-! ## Lessons -/

/-- The words of `_USER_SCOPE_PATTERNS`. -/
def userScopePatterns : List String :=
  ["my name", "i live", "i moved", "i prefer", "i am", "i'm", "my address", "my phone", "my email",
    "my number", "call me", "i work", "my location", "my account"]

/-- The words of `_GLOBAL_SCOPE_PATTERNS`. -/
def globalScopePatterns : List String :=
  ["you should", "you shouldn't", "don't ask", "always ", "never ", "stop asking", "next time",
    "in the future",
    "for everyone", "remember to", "instead of", "better to", "suggest", "improve", "every time"]

/-- A character of a pattern matches, whatever its case; four letters fold to ASCII ones. -/
def foldsTo (k c : Char) : Bool :=
  c = k || (k.isLower && c = k.toUpper) || (k = 'i' && (c = 'İ' || c = 'ı')) ||
    (k = 's' && c = 'ſ') || (k = 'k' && c = '\u212a')

variable (py : StrMethods)

/-- The boundary of a word between two characters of a text or its ends. -/
def wordBoundary (before after : Option Char) : Bool :=
  before.any py.isWord != after.any py.isWord

/-- A pattern at the start of what is left of a text, as a whole word. -/
def matchesWord (word : List Char) (before : Option Char) (text : List Char) :
    Bool :=
  wordBoundary py before text.head? && (word.length ≤ text.length && (word.zip text).all fun p =>
    foldsTo p.1 p.2) &&
    wordBoundary py (text.take word.length).getLast? (text.drop word.length).head?

/-- One of the patterns somewhere in what is left of a text. -/
def searchWords (py : StrMethods) (words : List String) (before : Option Char) : List Char → Bool
  | [] => false
  | c :: text =>
    words.any (fun word => matchesWord py word.toList before (c :: text)) || searchWords py words
      (some c) text

/-- `classify_lesson_scope(text) == "global"` -/
def isGlobalLesson (text : String) : Bool :=
  searchWords py globalScopePatterns none text.toList && !searchWords py userScopePatterns none
    text.toList

example : isGlobalLesson .ascii "Next time you SHOULD greet me" = true := by decide +kernel

example : isGlobalLesson .ascii "My name is Ada, next time say it" = false := by decide +kernel

/-- An event of a session: its author, and the texts of the parts of its content. -/
structure ConversationEvent extends AgentEvent where
  author : Option String
  content : Option (List (Option String))

/-- What a user says in an event, where it is long enough to be a lesson. -/
def ConversationEvent.feedback? (event : ConversationEvent) : Option String :=
  if event.author ≠ some "user" then none
  else match event.content with
    | none | some [] => none
    | some parts =>
      some (PyStr.strip (" ".intercalate (parts.filterMap fun text => text.filter (· ≠ ""))))
        |>.filter fun text => text ≠ "" ∧ 20 ≤ text.length

/-- A correction for everyone. -/
def ConversationEvent.lesson? (event : ConversationEvent) : Option String :=
  event.feedback?.filter (isGlobalLesson py)

/-- `events[cursor:]` -/
def eventsFrom (events : List ConversationEvent) (cursor : ℤ) : List ConversationEvent :=
  if 0 ≤ cursor then events.drop cursor.toNat else events.drop (events.length - (-cursor).toNat)

/-- `_check_for_global_lessons`: the new cursor, and the events that are looked at. -/
def checkForGlobalLessons (events : List ConversationEvent) (cursor : ℤ) :
    ℤ × List ConversationEvent :=
  if events = [] ∨ (events.length : ℤ) ≤ cursor then (cursor, [])
  else (events.length, eventsFrom events cursor)

/-! ## The session -/

def MEMORY_SAVE_BATCH_SIZE : ℕ := 25

def memoryCursorKey : String := "temp:memory_event_cursor"

def memoryInFlightKey : String := "temp:memory_save_in_flight"

def lessonCursorKey : String := "temp:lesson_check_cursor"

def lessonInFlightKey : String := "temp:lesson_check_in_flight"

/-- The keys of the background tasks. -/
def taskKeys : List String :=
  [memoryCursorKey, memoryInFlightKey, lessonCursorKey, lessonInFlightKey]

/-- `_save`: the batch it hands to the memory service, and where the cursor moves then. -/
structure SaveTask where
  eventsToSave : List ConversationEvent
  nextCursor : ℕ

/-- `_run_lesson_check` -/
structure LessonTask where
  eventsSnapshot : List ConversationEvent
  lessonCursor : ℤ
  tenantId : String
  companyId : String

/-- A lesson that is submitted. -/
structure LessonSubmission where
  tenantId : String
  companyId : String
  lessonText : String

/-- The session: its state and events, the background tasks that run, the batches that the memory
    service took, the events that finished checks looked at, and the lessons they submitted. -/
structure AgentSession where
  state : Record
  events : List ConversationEvent
  saves : List SaveTask
  checks : List LessonTask
  memory : List (List ConversationEvent)
  checked : List (List ConversationEvent)
  lessons : List LessonSubmission

/-- A session begins; the keys of the background tasks are not kept from an earlier one. -/
def AgentSession.start (state : Record) : AgentSession :=
  ⟨state.eraseAll taskKeys, [], [], [], [], [], []⟩

/-- What becomes of a check: the thread ends, with a database to submit to or without one, or it
    cannot be started. -/
inductive LessonOutcome where
  | ended (db : Bool)
  | failed

/-- What happens to a session. -/
inductive AgentSessionStep where
  | append (event : ConversationEvent)
  | beforeAgent (c : DedupCall)
  | beforeTool (toolName : String) (args : Record)
  | afterTool (toolName : String) (toolResponse result : PyValue)
  | toolError (toolName : String)
  | afterModel (parts : List (Option String))
  /-- the router's turn is over -/
  | afterRouter
  | saveEnds (task : ℕ) (accepted : Bool)
  | checkEnds (task : ℕ) (outcome : LessonOutcome)
  /-- `analyze_device_image_tool` has stored its image -/
  | imageStored (artifactId : String)

/-- What a callback answers. -/
inductive AgentSessionAnswer where
  | agent (answer : AgentAnswer)
  /-- `none` lets the call of the tool through -/
  | tool (blocked : Option PyValue)
  | callback (raised : Bool)
  | nothing

/-- What the session runs with. -/
structure SessionLib where
  ctx : StreamContext
  dedup : DedupLib
  prices : TokenPrices

variable (lib : SessionLib)

namespace AgentSession

variable (s : AgentSession)

/-- `_schedule_memory_save`; what it raises is caught. -/
def scheduleMemorySave : AgentSession :=
  if s.events = [] || (s.state.value memoryInFlightKey).truthy then s
  else match stateInt lib.ctx.py s.state memoryCursorKey 0 with
    | .error _ => s
    | .ok raw =>
      let cursor := min raw.toNat s.events.length
      if s.events.length ≤ cursor then s
      else
        let nextCursor := min s.events.length (cursor + MEMORY_SAVE_BATCH_SIZE)
        { s with
          state := s.state.set memoryInFlightKey (.bool true)
          saves := s.saves ++ [⟨(s.events.take nextCursor).drop cursor, nextCursor⟩] }

/-- The lesson check of `save_session_and_telemetry_callback`, and whether it raises. -/
def scheduleLessonCheck : AgentSession × Bool :=
  match stateInt lib.ctx.py s.state lessonCursorKey 0 with
  | .error _ => (s, true)
  | .ok lessonCursor =>
    match (s.state.value "app:tenant_id").str?, (s.state.value "app:company_id").str? with
    | some tenantId, some companyId =>
      if (s.state.value lessonInFlightKey).truthy then (s, false)
      else ({ s with
        state := s.state.set lessonInFlightKey (.bool true)
        checks := s.checks ++ [⟨s.events, lessonCursor, tenantId, companyId⟩] }, false)
    | _, _ => (s, false)

/-- `save_session_and_telemetry_callback`; what the telemetry raises is caught. -/
def saveSessionAndTelemetryCallback : AgentSession × Bool :=
  let counted : AgentSession :=
    { s with
      state := (telemetryAfterAgent lib.ctx.py lib.prices
        (s.events.map ConversationEvent.toAgentEvent) s.state).1 }
  (counted.scheduleMemorySave lib).scheduleLessonCheck lib

/-- A `_save` ends. -/
def saveEnds (task : ℕ) (accepted : Bool) : AgentSession :=
  match s.saves[task]? with
  | none => s
  | some save =>
    let s := { s with saves := s.saves.eraseIdx task }
    if accepted then
      { s with
        state :=
          (s.state.set memoryCursorKey (.int save.nextCursor)).set memoryInFlightKey (.bool false)
        memory := s.memory ++ [save.eventsToSave] }
    else { s with state := s.state.set memoryInFlightKey (.bool false) }

/-- A `_run_lesson_check` ends. -/
def checkEnds (task : ℕ) (outcome : LessonOutcome) : AgentSession :=
  match s.checks[task]? with
  | none => s
  | some check =>
    let s := { s with checks := s.checks.eraseIdx task }
    match outcome with
    | .failed => { s with state := s.state.set lessonInFlightKey (.bool false) }
    | .ended db =>
      let (newCursor, seen) := checkForGlobalLessons check.eventsSnapshot check.lessonCursor
      let submitted := (seen.filterMap (ConversationEvent.lesson? lib.ctx.py)).map
        (LessonSubmission.mk check.tenantId check.companyId)
      { s with
        state := (s.state.set lessonCursorKey (.int newCursor)).set lessonInFlightKey (.bool false)
        checked := s.checked ++ [seen]
        lessons := s.lessons ++ if db then submitted else [] }

end AgentSession

/-- The session, one step at a time. -/
def agentSession : EventMachine AgentSession AgentSessionStep AgentSessionAnswer where
  step s e := match e with
    | .append event => ({ s with events := s.events ++ [event] }, .nothing)
    | .beforeAgent c =>
      let (state, answer) := beforeAgentIsolationGuardAndDedup lib.ctx lib.dedup s.state c
      ({ s with state := state }, .agent answer)
    | .beforeTool toolName args =>
      (s, .tool (beforeToolCapabilityGuardAndLog lib.ctx.py s.state toolName args))
    | .afterTool toolName toolResponse result =>
      let (state, raised) := afterToolEmitMessages lib.ctx s.state toolName toolResponse result
      ({ s with state := state }, .callback raised)
    | .toolError toolName =>
      let (state, raised) := onToolErrorEmit lib.ctx s.state toolName
      ({ s with state := state }, .callback raised)
    | .afterModel parts =>
      ({ s with state := afterModelValuationSanity s.state parts }, .callback false)
    | .afterRouter =>
      let (s, raised) := s.saveSessionAndTelemetryCallback lib
      (s, .callback raised)
    | .saveEnds task accepted => (s.saveEnds task accepted, .nothing)
    | .checkEnds task outcome => (s.checkEnds lib task outcome, .nothing)
    | .imageStored artifactId =>
      ({ s with state := s.state.set "temp:last_image_artifact_id" (.str artifactId) }, .nothing)

/-! ## What the session's state keeps -/

/-- The keys that callbacks and background tasks write. -/
def sessionKeys : List String :=
  (messageKeys ++ dedupKeys) ++ callbackKeys ++ telemetryKeys ++ taskKeys

namespace AgentSession

variable (s : AgentSession)

theorem scheduleMemorySave_sameBut :
    SameBut taskKeys s.state (s.scheduleMemorySave lib).state := by
  unfold scheduleMemorySave
  split
  · exact SameBut.refl _ _
  · split
    · exact SameBut.refl _ _
    · dsimp only
      split
      · exact SameBut.refl _ _
      · exact SameBut.set _ _ (by decide)

theorem scheduleMemorySave_events :
    (s.scheduleMemorySave lib).events = s.events := by
  unfold scheduleMemorySave
  split
  · rfl
  · split
    · rfl
    · dsimp only
      split
      · rfl
      · rfl

theorem scheduleLessonCheck_keeps :
    (s.scheduleLessonCheck lib).1.saves = s.saves ∧ (s.scheduleLessonCheck lib).1.events =
    s.events := by
  unfold scheduleLessonCheck
  split
  · exact ⟨rfl, rfl⟩
  · split
    · split
      · exact ⟨rfl, rfl⟩
      · exact ⟨rfl, rfl⟩
    · exact ⟨rfl, rfl⟩

theorem scheduleLessonCheck_sameBut :
    SameBut taskKeys s.state (s.scheduleLessonCheck lib).1.state := by
  unfold scheduleLessonCheck
  split
  · exact SameBut.refl _ _
  · split
    · split
      · exact SameBut.refl _ _
      · exact SameBut.set _ _ (by decide)
    · exact SameBut.refl _ _

theorem saveSessionAndTelemetryCallback_sameBut :
    SameBut (telemetryKeys ++ taskKeys) s.state
    (s.saveSessionAndTelemetryCallback lib).1.state := by
  unfold saveSessionAndTelemetryCallback
  refine ((telemetryAfterAgent_sameBut lib.ctx.py lib.prices
    (s.events.map ConversationEvent.toAgentEvent)
    s.state).mono (List.subset_append_left _ _)).trans ?_
  exact ((scheduleMemorySave_sameBut lib _).trans (scheduleLessonCheck_sameBut lib _)).mono
    (List.subset_append_right _ _)

theorem saveEnds_sameBut (task : ℕ) (accepted : Bool) :
    SameBut taskKeys s.state (s.saveEnds task accepted).state := by
  unfold saveEnds
  split
  · exact SameBut.refl _ _
  · dsimp only
    split
    · exact (SameBut.set s.state _ (by decide)).trans (SameBut.set _ _ (by decide))
    · exact SameBut.set s.state _ (by decide)

theorem checkEnds_sameBut (task : ℕ) (outcome : LessonOutcome) :
    SameBut taskKeys s.state (s.checkEnds lib task outcome).state := by
  unfold checkEnds
  split
  · exact SameBut.refl _ _
  · cases outcome with
    | failed => exact SameBut.set s.state _ (by decide)
    | ended db => exact (SameBut.set s.state _ (by decide)).trans (SameBut.set _ _ (by decide))

end AgentSession

theorem agentSession_sameBut (s : AgentSession) (e : AgentSessionStep) :
    SameBut sessionKeys s.state ((agentSession lib).next s e).state := by
  cases e with
  | append event => exact SameBut.refl _ _
  | beforeAgent c =>
    exact (beforeAgentIsolationGuardAndDedup_sameBut lib.ctx lib.dedup s.state c).mono (by decide)
  | beforeTool toolName args => exact SameBut.refl _ _
  | afterTool toolName toolResponse result =>
    exact (afterToolEmitMessages_sameBut lib.ctx s.state toolName toolResponse result).mono
      (by decide)
  | toolError toolName => exact (queueMessage_sameBut lib.ctx s.state _).mono (by decide)
  | afterModel parts =>
    simp only [EventMachine.next, agentSession]
    exact (afterModelValuationSanity_sameBut s.state parts).mono (by decide)
  | afterRouter => exact (s.saveSessionAndTelemetryCallback_sameBut lib).mono (by decide)
  | saveEnds task accepted => exact (s.saveEnds_sameBut task accepted).mono (by decide)
  | checkEnds task outcome => exact (s.checkEnds_sameBut lib task outcome).mono (by decide)
  | imageStored artifactId => exact SameBut.set s.state _ (by decide)

/-- Every step of a run finds the keys that are not the session's as the run began. -/
theorem agentSession_pre_sameBut {s : AgentSession} {steps : List AgentSessionStep}
    {t : EventMachine.Entry AgentSession AgentSessionStep AgentSessionAnswer}
    (ht : t ∈ (agentSession lib).trace s steps) : SameBut sessionKeys s.state t.pre.state := by
  have halways : (agentSession lib).Always (fun t => SameBut sessionKeys s.state t.state) s steps :=
    (agentSession lib).always_of_guarded (G := fun _ _ => True)
      (fun t e hsame _ => hsame.trans (agentSession_sameBut lib t e)) (SameBut.refl _ _)
      (fun _ _ => trivial)
  exact halways.pre _ ht

/-! ## Isolation -/

theorem resolveEnabledAgents_of_same (py : StrMethods) {state state' : Record}
    (h : SameGuardKeys state state') : resolveEnabledAgentsFromState py state' =
    resolveEnabledAgentsFromState py state := by
  simp only [resolveEnabledAgentsFromState, h _ (show "app:enabled_agents" ∈ guardKeys by decide),
    h _ (show "app:industry_template_id" ∈ guardKeys by decide),
    h _ (show "app:industry" ∈ guardKeys by decide),
    h _ (show "app:capabilities" ∈ guardKeys by decide)]

variable (state : Record)

/-- A session has what a tool needs: the capability it is mapped to, or no list of capabilities. -/
def HasCapability (toolName : String) : Prop :=
  ∀ required ∈ toolCapabilityMap.lookup toolName, ∀ capabilities,
    state.value "app:capabilities" = .list capabilities → .str required ∈ capabilities

theorem eqStr_iff (v : PyValue) (text : String) : v.eqStr text = true ↔ v = .str text := by
  cases v with
  | str s => simp [PyValue.eqStr, PyValue.str?]
  | _ => simp [PyValue.eqStr, PyValue.str?]

theorem capabilityGuard_eq_none_iff (toolName : String) :
    beforeToolCapabilityGuard state toolName = none ↔ HasCapability state toolName := by
  unfold beforeToolCapabilityGuard HasCapability
  cases toolCapabilityMap.lookup toolName with
  | none => exact ⟨fun _ _ h => absurd h nofun, fun _ => rfl⟩
  | some required =>
    cases hcaps : state.value "app:capabilities" with
    | list capabilities =>
      have hany : capabilities.any (·.eqStr required) = true ↔
          PyValue.str required ∈ capabilities := by
        rw [List.any_eq_true]
        constructor
        · rintro ⟨v, hv, heq⟩
          exact (eqStr_iff v required).1 heq ▸ hv
        · exact fun hmem => ⟨_, hmem, (eqStr_iff _ required).2 rfl⟩
      constructor
      · intro hnone required' hrequired caps' hcaps'
        obtain rfl := Option.some.inj hrequired
        obtain rfl := PyValue.list.inj hcaps'
        by_contra hmem
        dsimp only at hnone
        rw [if_neg fun h => hmem (hany.1 h)] at hnone
        exact absurd hnone nofun
      · intro hall
        exact if_pos (hany.2 (hall required rfl capabilities rfl))
    | _ => exact ⟨fun _ _ _ _ h => absurd h nofun, fun _ => rfl⟩

theorem hasCapability_of_same {state state' : Record} (h : SameGuardKeys state state')
    (toolName : String) : HasCapability state' toolName ↔ HasCapability state toolName := by
  unfold HasCapability
  rw [h _ (by decide)]

theorem transferGuard_eq_none_iff (py : StrMethods) (state : Record) (toolName : String)
    (args : Record) : beforeToolAgentTransferGuard py state toolName args = none ↔
      ∀ target ∈ toolTransferTargetAgentName toolName args,
      Admits (resolveEnabledAgentsFromState py state) target := by
  unfold beforeToolAgentTransferGuard
  cases toolTransferTargetAgentName toolName args with
  | none => exact ⟨fun _ _ h => absurd h nofun, fun _ => rfl⟩
  | some target =>
    cases resolveEnabledAgentsFromState py state with
    | none => exact ⟨fun _ _ _ => trivial, fun _ => rfl⟩
    | some enabledAgents =>
      constructor
      · intro hnone target' htarget
        obtain rfl := Option.some.inj htarget
        by_contra hadmits
        have hmem : target ∉ enabledAgents := hadmits
        dsimp only at hnone
        rw [if_neg hmem] at hnone
        exact absurd hnone nofun
      · exact fun hall => if_pos (hall target rfl)

/-- A tool's call is let through exactly where it transfers to no other agent than the policy
    admits, and the session has the capability. -/
theorem toolGuards_eq_none_iff (py : StrMethods) (state : Record) (toolName : String)
    (args : Record) : beforeToolCapabilityGuardAndLog py state toolName args = none ↔
      (∀ target ∈ toolTransferTargetAgentName toolName args,
        Admits (resolveEnabledAgentsFromState py state) target) ∧ HasCapability state toolName := by
  rw [← transferGuard_eq_none_iff, ← capabilityGuard_eq_none_iff]
  unfold beforeToolCapabilityGuardAndLog
  cases beforeToolAgentTransferGuard py state toolName args with
  | none => exact ⟨fun h => ⟨rfl, h⟩, fun h => h.2⟩
  | some blocked => exact ⟨fun h => absurd h nofun, fun h => absurd h.1 nofun⟩

theorem isolationGuard_runs_iff (agentName : String) :
    (beforeAgentIsolationGuard lib.ctx state agentName).2 = .runs ↔
      agentName = rootAgentName ∨ Admits (resolveEnabledAgentsFromState lib.ctx.py state)
      agentName := by
  unfold beforeAgentIsolationGuard
  by_cases hroot : agentName = rootAgentName
  · rw [if_pos hroot]
    exact ⟨fun _ => .inl hroot, fun _ => rfl⟩
  · rw [if_neg hroot]
    cases resolveEnabledAgentsFromState lib.ctx.py state with
    | none => exact ⟨fun _ => .inr trivial, fun _ => rfl⟩
    | some enabledAgents =>
      dsimp only
      by_cases hmem : agentName ∈ enabledAgents
      · rw [if_pos hmem]
        exact ⟨fun _ => .inr hmem, fun _ => rfl⟩
      · rw [if_neg hmem]
        refine ⟨fun h => ?_, fun h => absurd (h.resolve_left hroot) hmem⟩
        split at h
        · exact absurd h nofun
        · exact absurd h nofun

/-- An agent that is not enabled is told so, and so is the client. -/
theorem isolationGuard_notEnabled {state : Record} {agentName text : String}
    (h : (beforeAgentIsolationGuard lib.ctx state agentName).2 = .notEnabled text) :
    ∃ enabledAgents id, resolveEnabledAgentsFromState lib.ctx.py state = some enabledAgents ∧
      (beforeAgentIsolationGuard lib.ctx state agentName).1.value "temp:last_server_message" =
        .dict ((agentNotEnabledPayload state agentName enabledAgents).set "id"
          (.int id)).entries := by
  unfold beforeAgentIsolationGuard at h ⊢
  by_cases hroot : agentName = rootAgentName
  · rw [if_pos hroot] at h
    exact absurd h nofun
  · rw [if_neg hroot] at h ⊢
    cases henabled : resolveEnabledAgentsFromState lib.ctx.py state with
    | none =>
      rw [henabled] at h
      exact absurd h nofun
    | some enabledAgents =>
      rw [henabled] at h
      dsimp only at h ⊢
      by_cases hmem : agentName ∈ enabledAgents
      · rw [if_pos hmem] at h
        exact absurd h nofun
      · rw [if_neg hmem] at h ⊢
        unfold queueMessage queueServerMessage at h ⊢
        cases hid : nextServerMessageId lib.ctx ⟨state, Dict.empty⟩ with
        | error e =>
          rw [hid] at h
          exact absurd h nofun
        | ok id =>
          refine ⟨enabledAgents, id, rfl, ?_⟩
          exact (Record.value_set ..).trans (if_pos rfl)

/-- **A log is isolated** by the policy of a state: an agent gets past the guard exactly where it is
    the router or the policy admits it, and who does not is named to the client with the agents that
    are enabled; a tool is called exactly where it transfers to an agent that the policy admits, if
    to any, and the session has its capability. -/
structure IsolatedBy (state : Record)
    (log : List (EventMachine.Entry AgentSession AgentSessionStep AgentSessionAnswer)) : Prop where
  agents : ∀ t ∈ log, ∀ c, t.event = .beforeAgent c →
    (t.answer = .agent .runs ∨ t.answer = .agent .suppressed ↔
      c.agent = rootAgentName ∨ Admits (resolveEnabledAgentsFromState lib.ctx.py state) c.agent)
  told : ∀ t ∈ log, ∀ c text, t.event = .beforeAgent c → t.answer = .agent (.notEnabled text) →
    ∃ enabledAgents id, resolveEnabledAgentsFromState lib.ctx.py state = some enabledAgents ∧
      ((agentSession lib).next t.pre t.event).state.value "temp:last_server_message" =
        .dict ((agentNotEnabledPayload t.pre.state c.agent enabledAgents).set "id"
          (.int id)).entries
  tools : ∀ t ∈ log, ∀ toolName args, t.event = .beforeTool toolName args →
    (t.answer = .tool none ↔
      (∀ target ∈ toolTransferTargetAgentName toolName args,
        Admits (resolveEnabledAgentsFromState lib.ctx.py state) target) ∧
          HasCapability state toolName)

theorem isolationGuard_ne_suppressed (agentName : String) :
    (beforeAgentIsolationGuard lib.ctx state agentName).2 ≠ .suppressed := by
  unfold beforeAgentIsolationGuard
  split
  · nofun
  · split
    · nofun
    · split
      · nofun
      · split
        · nofun
        · nofun

/-- The answers of the guard and the dedup callback: only the guard refuses an agent that is not
    enabled. -/
theorem beforeAgent_answer (c : DedupCall) :
    ((beforeAgentIsolationGuardAndDedup lib.ctx lib.dedup state c).2 = .runs ∨
        (beforeAgentIsolationGuardAndDedup lib.ctx lib.dedup state c).2 = .suppressed ↔
      (beforeAgentIsolationGuard lib.ctx state c.agent).2 = .runs) ∧
    ∀ text, (beforeAgentIsolationGuardAndDedup lib.ctx lib.dedup state c).2 = .notEnabled text →
      beforeAgentIsolationGuardAndDedup lib.ctx lib.dedup state c = beforeAgentIsolationGuard
      lib.ctx state c.agent := by
  have hsuppressed := isolationGuard_ne_suppressed lib state c.agent
  unfold beforeAgentIsolationGuardAndDedup
  rcases hguard : beforeAgentIsolationGuard lib.ctx state c.agent with ⟨guarded, answer⟩
  rw [hguard] at hsuppressed
  cases answer with
  | runs =>
    rcases hdedup : dedupBeforeAgent lib.dedup guarded c with ⟨remembered, suppressed⟩
    cases suppressed with
    | false => simp [hdedup]
    | true => simp [hdedup]
  | suppressed => exact absurd rfl hsuppressed
  | notEnabled text => simp
  | raised => simp

/-- A session begins with the state it is given, but for the keys of the background tasks. -/
theorem start_value {key : String} (h : key ∉ taskKeys) :
    (AgentSession.start state).state.value key = state.value key := by
  rw [AgentSession.start, Record.value, Dict.get?_eraseAll, if_neg h]
  rfl

/-- **Isolation**: whatever the callbacks, the tools and the background tasks of a session do, and
    in whatever order, each agent and each tool is let through by the policy the session began
    with. -/
theorem agentSession_isolated (steps : List AgentSessionStep) :
    IsolatedBy lib state ((agentSession lib).trace (.start state) steps) := by
  have htask : ∀ key ∈ guardKeys, key ∉ taskKeys := by decide
  have hstart : SameGuardKeys state (AgentSession.start state).state :=
    fun key hkey => start_value state (htask key hkey)
  have hsame : ∀ t ∈ (agentSession lib).trace (.start state) steps,
      SameGuardKeys state t.pre.state :=
    fun t ht => hstart.trans ((agentSession_pre_sameBut lib ht).sameGuardKeys (by decide))
  refine ⟨?_, ?_, ?_⟩
  · rintro t ht c hevent
    have hanswer := (agentSession lib).eq_entry_of_mem_trace ht
    have hagent : t.answer = .agent (beforeAgentIsolationGuardAndDedup lib.ctx lib.dedup t.pre.state
        c).2 := by
      rw [hanswer, hevent]
      rfl
    rw [hagent, ← resolveEnabledAgents_of_same lib.ctx.py (hsame t ht), ← isolationGuard_runs_iff,
      ← (beforeAgent_answer lib t.pre.state c).1, AgentSessionAnswer.agent.injEq,
      AgentSessionAnswer.agent.injEq]
  · rintro t ht c text hevent htext
    have hanswer := (agentSession lib).eq_entry_of_mem_trace ht
    have hagent : t.answer = .agent (beforeAgentIsolationGuardAndDedup lib.ctx lib.dedup t.pre.state
        c).2 := by
      rw [hanswer, hevent]
      rfl
    have htold : (beforeAgentIsolationGuardAndDedup lib.ctx lib.dedup t.pre.state c).2 =
        .notEnabled text :=
      AgentSessionAnswer.agent.inj (hagent.symm.trans htext)
    have hguard := (beforeAgent_answer lib t.pre.state c).2 text htold
    rw [hguard] at htold
    obtain ⟨enabledAgents, id, henabled, hmessage⟩ := isolationGuard_notEnabled lib htold
    refine ⟨enabledAgents, id, ?_, ?_⟩
    · rw [← resolveEnabledAgents_of_same lib.ctx.py (hsame t ht), henabled]
    · rw [← hmessage, ← hguard, hevent]
      rfl
  · rintro t ht toolName args hevent
    have hanswer := (agentSession lib).eq_entry_of_mem_trace ht
    have htool : t.answer = .tool (beforeToolCapabilityGuardAndLog lib.ctx.py t.pre.state toolName
        args) := by
      rw [hanswer, hevent]
      rfl
    rw [htool, ← resolveEnabledAgents_of_same lib.ctx.py (hsame t ht),
      ← hasCapability_of_same (hsame t ht), ← toolGuards_eq_none_iff, AgentSessionAnswer.tool.injEq]

/-! ## The background tasks -/

open CursorLog

/-- A cursor in a state; without one it is at the beginning. -/
def CursorAt (state : Record) (key : String) (n : ℕ) : Prop :=
  state.value key = .int n ∨ state.value key = .none ∧ n = 0

theorem CursorAt.stateInt {state : Record} {key : String} {n : ℕ} (h : CursorAt state key n)
    (py : StrMethods) : stateInt py state key 0 = .ok n := by
  unfold Ekaette.stateInt
  rcases h with h | ⟨h, rfl⟩
  · unfold Record.value at h
    cases hget : state.get? key with
    | none => rw [hget] at h; exact absurd h nofun
    | some v =>
      rw [hget] at h
      obtain rfl : v = .int n := h
      rfl
  · unfold Record.value at h
    cases hget : state.get? key with
    | none => rfl
    | some v =>
      rw [hget] at h
      obtain rfl : v = .none := h
      rfl

/-- The lesson a submission makes of an event. -/
def submission? (py : StrMethods) (tenantId companyId : String) (event : ConversationEvent) :
    Option LessonSubmission :=
  (event.lesson? py).map (LessonSubmission.mk tenantId companyId)

/-- A check that runs: its snapshot is what the session had then, and its cursor the session's. -/
structure CheckSound (s : AgentSession) (seen : ℕ) (check : LessonTask) : Prop where
  prefix_events : check.eventsSnapshot <+: s.events
  lessonCursor : check.lessonCursor = seen
  le_length : seen ≤ check.eventsSnapshot.length
  tenantId : (s.state.value "app:tenant_id").str? = some check.tenantId
  companyId : (s.state.value "app:company_id").str? = some check.companyId

/-- The two tasks of a session: at most one of each runs, which its flag says; the batches that the
    memory service took are the events up to the one cursor, and those that were looked at the
    events up to the other. -/
structure TasksSound (tenantId companyId : PyValue) (s : AgentSession) (saved seen : ℕ) : Prop where
  tenant : s.state.value "app:tenant_id" = tenantId
  company : s.state.value "app:company_id" = companyId
  memoryCursor : CursorAt s.state memoryCursorKey saved
  lessonCursor : CursorAt s.state lessonCursorKey seen
  saves : s.saves = [] ∧ (s.state.value memoryInFlightKey).truthy = false ∨
    ∃ save, s.saves = [save] ∧ (s.state.value memoryInFlightKey).truthy = true
  checks : s.checks = [] ∧ (s.state.value lessonInFlightKey).truthy = false ∨
    ∃ check, s.checks = [check] ∧ (s.state.value lessonInFlightKey).truthy = true ∧
    CheckSound s seen check
  memory : WorkedOff s.events saved s.memory (s.saves.head?.map fun save =>
    (save.eventsToSave, save.nextCursor))
  checked : WorkedOff s.events seen s.checked none
  lessons : s.lessons.Sublist
    (s.checked.flatten.filterMap (submission? lib.ctx.py (tenantId.str?.getD "")
      (companyId.str?.getD "")))

variable {lib} {tenantId companyId : PyValue} {s : AgentSession} {saved seen : ℕ}

/-- The keys that the tasks read. -/
def backgroundKeys : List String := taskKeys ++ ["app:tenant_id", "app:company_id"]

theorem CursorAt.of_value_eq {state state' : Record} {key : String} {n : ℕ}
    (h : CursorAt state key n) (hvalue : state'.value key = state.value key) :
    CursorAt state' key n := by
  unfold CursorAt at h ⊢
  rwa [hvalue]

theorem CheckSound.result {check : LessonTask} (h : CheckSound s seen check) :
    checkForGlobalLessons check.eventsSnapshot check.lessonCursor =
      ((check.eventsSnapshot.length : ℤ), (s.events.take check.eventsSnapshot.length).drop
        seen) := by
  have hsnapshot : s.events.take check.eventsSnapshot.length = check.eventsSnapshot :=
    (List.prefix_iff_eq_take.1 h.prefix_events).symm
  have hle := h.le_length
  rw [hsnapshot, checkForGlobalLessons, h.lessonCursor]
  by_cases hnothing : check.eventsSnapshot.length ≤ seen
  · have hseen : seen = check.eventsSnapshot.length := Nat.le_antisymm hle hnothing
    rw [if_pos (.inr (Int.ofNat_le.2 hnothing)), hseen, List.drop_length]
  · have hne : check.eventsSnapshot ≠ [] := by
      rintro hnil
      rw [hnil] at hnothing
      exact hnothing (Nat.zero_le _)
    rw [if_neg (not_or.2 ⟨hne, fun hcast => hnothing (Int.ofNat_le.1 hcast)⟩), eventsFrom,
      if_pos (Int.natCast_nonneg _)]
    rfl

theorem eq_of_getElem?_singleton {α : Type} {tasks : List α} {only ended : α} {task : ℕ}
    (honly : tasks = [only]) (h : tasks[task]? = some ended) : only = ended ∧
    tasks.eraseIdx task = [] := by
  subst honly
  have htask : task = 0 := by
    have hlt := (List.getElem?_eq_some_iff.1 h).1
    rw [List.length_singleton] at hlt
    omega
  subst htask
  exact ⟨Option.some.inj h, rfl⟩

namespace TasksSound

theorem start (state : Record) :
    TasksSound lib (state.value "app:tenant_id") (state.value "app:company_id")
    (.start state) 0 0 := by
  have hkey : ∀ key ∈ taskKeys, (AgentSession.start state).state.value key = .none := by
    intro key hkey
    rw [AgentSession.start, Record.value, Dict.get?_eraseAll, if_pos hkey]
    rfl
  refine ⟨start_value state (by decide), start_value state (by decide),
    .inr ⟨hkey _ (by decide), rfl⟩,
    .inr ⟨hkey _ (by decide), rfl⟩, .inl ⟨rfl, ?_⟩, .inl ⟨rfl, ?_⟩, workedOff_start [],
    workedOff_start [], List.Sublist.refl _⟩
  · rw [hkey _ (by decide)]
    rfl
  · rw [hkey _ (by decide)]
    rfl

/-- What leaves the check that runs, its flag and the company as they are, keeps it sound. -/
theorem checks_of_same (h : TasksSound lib tenantId companyId s saved seen) {t : AgentSession}
    (hchecks : t.checks = s.checks) (hevents : s.events <+: t.events)
    (hvalue : ∀ key ∈ [lessonInFlightKey, "app:tenant_id", "app:company_id"],
      t.state.value key = s.state.value key) :
    t.checks = [] ∧ (t.state.value lessonInFlightKey).truthy = false ∨
      ∃ check, t.checks = [check] ∧ (t.state.value lessonInFlightKey).truthy = true ∧
      CheckSound t seen check := by
  rw [hchecks, hvalue lessonInFlightKey (by decide)]
  refine h.checks.imp_right ?_
  rintro ⟨check, hcheck, hflag, hsound⟩
  refine ⟨check, hcheck, hflag, hsound.prefix_events.trans hevents, hsound.lessonCursor,
    hsound.le_length, ?_, ?_⟩
  · rw [hvalue _ (by decide), hsound.tenantId]
  · rw [hvalue _ (by decide), hsound.companyId]

/-- What leaves the save that runs and its flag as they are. -/
theorem saves_of_same (h : TasksSound lib tenantId companyId s saved seen) {t : AgentSession}
    (hsaves : t.saves = s.saves)
    (hvalue : t.state.value memoryInFlightKey = s.state.value memoryInFlightKey) :
    t.saves = [] ∧ (t.state.value memoryInFlightKey).truthy = false ∨
      ∃ save, t.saves = [save] ∧ (t.state.value memoryInFlightKey).truthy = true := by
  rw [hsaves, hvalue]
  exact h.saves

/-- What writes none of their keys does not disturb the tasks. -/
theorem withState (h : TasksSound lib tenantId companyId s saved seen) {state : Record}
    {keys : List String} (hsame : SameBut keys s.state state)
    (hkeys : ∀ key ∈ backgroundKeys, key ∉ keys) :
    TasksSound lib tenantId companyId { s with state := state } saved seen := by
  have hvalue : ∀ key ∈ backgroundKeys, state.value key = s.state.value key :=
    fun key hkey => hsame key (hkeys key hkey)
  have hchecked : ∀ key ∈ [lessonInFlightKey, "app:tenant_id", "app:company_id"],
    key ∈ backgroundKeys := by decide
  refine ⟨(hvalue _ (by decide)).trans h.tenant, (hvalue _ (by decide)).trans h.company,
    h.memoryCursor.of_value_eq (hvalue _ (by decide)),
    h.lessonCursor.of_value_eq (hvalue _ (by decide)), h.saves_of_same rfl (hvalue _ (by decide)),
    h.checks_of_same rfl (List.prefix_refl _) fun key hkey => hvalue key (hchecked key hkey),
    h.memory, h.checked, h.lessons⟩

/-- A new event is neither saved nor looked at. -/
theorem append (h : TasksSound lib tenantId companyId s saved seen) (event : ConversationEvent) :
    TasksSound lib tenantId companyId { s with events := s.events ++ [event] } saved seen :=
  ⟨h.tenant, h.company, h.memoryCursor, h.lessonCursor, h.saves,
    h.checks_of_same rfl (List.prefix_append _ _) fun _ _ => rfl, h.memory.append [event],
    h.checked.append [event], h.lessons⟩

/-- Scheduling a save keeps the tasks sound; without one that runs, everything is saved. -/
theorem scheduleMemorySave (h : TasksSound lib tenantId companyId s saved seen) :
    TasksSound lib tenantId companyId (s.scheduleMemorySave lib) saved seen ∧
      ((s.scheduleMemorySave lib).saves ≠ [] ∨ saved = s.events.length) := by
  have hcursor := h.memoryCursor.stateInt lib.ctx.py
  have hle := h.memory.cursor_le
  unfold AgentSession.scheduleMemorySave
  rcases h.saves with ⟨hnone, hflag⟩ | ⟨save, hsave, hflag⟩
  · by_cases hempty : s.events = []
    · rw [if_pos (by rw [decide_eq_true hempty, Bool.true_or])]
      rw [hempty] at hle ⊢
      exact ⟨h, .inr (Nat.le_zero.1 hle)⟩
    · rw [if_neg (by rw [hflag, decide_eq_false hempty]; decide), hcursor]
      have hmin : min (saved : ℤ).toNat s.events.length = saved := Nat.min_eq_left hle
      dsimp only
      rw [hmin]
      by_cases hall : s.events.length ≤ saved
      · rw [if_pos hall]
        exact ⟨h, .inr (Nat.le_antisymm hle hall)⟩
      · rw [if_neg hall]
        have hset := fun key (hkey : key ≠ memoryInFlightKey) =>
          (Record.value_set s.state memoryInFlightKey key (.bool true)).trans (if_neg hkey)
        have hmemory := h.memory
        rw [hnone] at hmemory ⊢
        refine ⟨⟨(hset _ (by decide)).trans h.tenant, (hset _ (by decide)).trans h.company,
          h.memoryCursor.of_value_eq (hset _ (by decide)),
          h.lessonCursor.of_value_eq (hset _ (by decide)),
          .inr ⟨_, rfl, ?_⟩, h.checks_of_same rfl (List.prefix_refl _) ?_,
          hmemory.take (Nat.le_min.2 ⟨hle, Nat.le_add_right _ _⟩) (Nat.min_le_left _ _), h.checked,
          h.lessons⟩, .inl (List.cons_ne_nil _ _)⟩
        · rw [Record.value_set, if_pos rfl]
          rfl
        · intro key hkey
          exact hset key (by rintro rfl; exact absurd hkey (by decide))
  · rw [if_pos (by rw [hflag, Bool.or_true])]
    exact ⟨h, .inl (by rw [hsave]; exact List.cons_ne_nil _ _)⟩

theorem scheduleLessonCheck (h : TasksSound lib tenantId companyId s saved seen) :
    TasksSound lib tenantId companyId (s.scheduleLessonCheck lib).1 saved seen := by
  unfold AgentSession.scheduleLessonCheck
  rw [h.lessonCursor.stateInt lib.ctx.py]
  dsimp only
  cases htenant : (s.state.value "app:tenant_id").str? with
  | none => exact h
  | some tenant =>
    cases hcompany : (s.state.value "app:company_id").str? with
    | none => exact h
    | some company =>
      dsimp only
      rcases h.checks with ⟨hnone, hflag⟩ | ⟨check, hcheck, hflag, -⟩
      · rw [if_neg (by rw [hflag]; decide)]
        have hset := fun key (hkey : key ≠ lessonInFlightKey) =>
          (Record.value_set s.state lessonInFlightKey key (.bool true)).trans (if_neg hkey)
        refine ⟨(hset _ (by decide)).trans h.tenant, (hset _ (by decide)).trans h.company,
          h.memoryCursor.of_value_eq (hset _ (by decide)),
          h.lessonCursor.of_value_eq (hset _ (by decide)),
          h.saves_of_same rfl (hset _ (by decide)), .inr ⟨⟨s.events, seen, tenant, company⟩, ?_, ?_,
            ?_⟩,
          h.memory, h.checked, h.lessons⟩
        · rw [hnone]
          rfl
        · rw [Record.value_set, if_pos rfl]
          rfl
        · refine ⟨List.prefix_refl _, rfl, h.checked.cursor_le, ?_, ?_⟩
          · rw [hset _ (by decide), htenant]
          · rw [hset _ (by decide), hcompany]
      · rw [if_pos hflag]
        exact h

theorem saveEnds (h : TasksSound lib tenantId companyId s saved seen) (task : ℕ) (accepted : Bool) :
    ∃ saved', TasksSound lib tenantId companyId (s.saveEnds task accepted) saved' seen := by
  unfold AgentSession.saveEnds
  cases hsave : s.saves[task]? with
  | none => exact ⟨saved, h⟩
  | some save =>
    rcases h.saves with ⟨hnone, -⟩ | ⟨save', hsaves, -⟩
    · rw [hnone] at hsave
      exact absurd hsave nofun
    · obtain ⟨rfl, herase⟩ := eq_of_getElem?_singleton hsaves hsave
      have hmemory := h.memory
      rw [hsaves] at hmemory
      cases accepted with
      | false =>
        have hset := fun key (hkey : key ≠ memoryInFlightKey) =>
          (Record.value_set s.state memoryInFlightKey key (.bool false)).trans (if_neg hkey)
        refine ⟨saved, (hset _ (by decide)).trans h.tenant, (hset _ (by decide)).trans h.company,
          h.memoryCursor.of_value_eq (hset _ (by decide)),
          h.lessonCursor.of_value_eq (hset _ (by decide)),
          .inl ⟨herase, ?_⟩, h.checks_of_same rfl (List.prefix_refl _) ?_, ?_, h.checked, h.lessons⟩
        · exact congrArg PyValue.truthy ((Record.value_set ..).trans (if_pos rfl))
        · intro key hkey
          exact hset key (by rintro rfl; exact absurd hkey (by decide))
        · show WorkedOff s.events saved s.memory ((s.saves.eraseIdx task).head?.map _)
          rw [herase]
          exact hmemory.abort
      | true =>
        have hset := fun key (hkey : key ∉ [memoryCursorKey, memoryInFlightKey]) =>
          ((SameBut.set s.state (PyValue.int save'.nextCursor)
            (show memoryCursorKey ∈ _ by decide)).trans
            (SameBut.set _ (PyValue.bool false) (show memoryInFlightKey ∈ _ by decide))) key hkey
        refine ⟨save'.nextCursor, (hset _ (by decide)).trans h.tenant,
          (hset _ (by decide)).trans h.company,
          .inl ?_, h.lessonCursor.of_value_eq (hset _ (by decide)), .inl ⟨herase, ?_⟩,
          h.checks_of_same rfl (List.prefix_refl _) ?_, ?_, h.checked, h.lessons⟩
        · exact ((Record.value_set ..).trans (if_neg (by decide))).trans
            ((Record.value_set ..).trans (if_pos rfl))
        · exact congrArg PyValue.truthy ((Record.value_set ..).trans (if_pos rfl))
        · intro key hkey
          have hother : ∀ key ∈ [lessonInFlightKey, "app:tenant_id", "app:company_id"],
              key ∉ [memoryCursorKey, memoryInFlightKey] := by decide
          exact hset key (hother key hkey)
        · show WorkedOff s.events _ _ ((s.saves.eraseIdx task).head?.map _)
          rw [herase]
          exact hmemory.commit

theorem checkEnds (h : TasksSound lib tenantId companyId s saved seen) (task : ℕ)
    (outcome : LessonOutcome) : ∃ seen', TasksSound lib tenantId companyId
    (s.checkEnds lib task outcome) saved seen' := by
  unfold AgentSession.checkEnds
  cases hcheck : s.checks[task]? with
  | none => exact ⟨seen, h⟩
  | some check =>
    rcases h.checks with ⟨hnone, -⟩ | ⟨check', hchecks, -, hsound⟩
    · rw [hnone] at hcheck
      exact absurd hcheck nofun
    · obtain ⟨rfl, herase⟩ := eq_of_getElem?_singleton hchecks hcheck
      cases outcome with
      | failed =>
        have hset := fun key (hkey : key ≠ lessonInFlightKey) =>
          (Record.value_set s.state lessonInFlightKey key (.bool false)).trans (if_neg hkey)
        refine ⟨seen, (hset _ (by decide)).trans h.tenant, (hset _ (by decide)).trans h.company,
          h.memoryCursor.of_value_eq (hset _ (by decide)),
          h.lessonCursor.of_value_eq (hset _ (by decide)),
          h.saves_of_same rfl (hset _ (by decide)), .inl ⟨herase, ?_⟩, h.memory, h.checked,
          h.lessons⟩
        · exact congrArg PyValue.truthy ((Record.value_set ..).trans (if_pos rfl))
      | ended db =>
        have hset := fun key (hkey : key ∉ [lessonCursorKey, lessonInFlightKey]) =>
          ((SameBut.set s.state (PyValue.int check'.eventsSnapshot.length)
            (show lessonCursorKey ∈ _ by decide)).trans
            (SameBut.set _ (PyValue.bool false) (show lessonInFlightKey ∈ _ by decide))) key hkey
        let batch := (s.events.take check'.eventsSnapshot.length).drop seen
        have hchecked : WorkedOff s.events check'.eventsSnapshot.length (s.checked ++ [batch])
            none :=
          (h.checked.take hsound.le_length hsound.prefix_events.length_le).commit
        have htenant : tenantId.str?.getD "" = check'.tenantId := by
          rw [← h.tenant, hsound.tenantId]; rfl
        have hcompany : companyId.str?.getD "" = check'.companyId := by
          rw [← h.company, hsound.companyId]; rfl
        have hlessons := h.lessons
        rw [htenant, hcompany] at hlessons
        simp only [hsound.result]
        refine ⟨check'.eventsSnapshot.length, (hset _ (by decide)).trans h.tenant,
          (hset _ (by decide)).trans h.company, h.memoryCursor.of_value_eq (hset _ (by decide)),
          .inl ?_,
          h.saves_of_same rfl (hset _ (by decide)), .inl ⟨herase, ?_⟩, h.memory, hchecked, ?_⟩
        · exact ((Record.value_set ..).trans (if_neg (by decide))).trans
            ((Record.value_set ..).trans (if_pos rfl))
        · exact congrArg PyValue.truthy ((Record.value_set ..).trans (if_pos rfl))
        · rw [htenant, hcompany, List.flatten_append, List.flatten_singleton, List.filterMap_append]
          refine hlessons.append ?_
          have hsubmitted : (batch.filterMap (ConversationEvent.lesson? lib.ctx.py)).map
              (LessonSubmission.mk check'.tenantId check'.companyId) =
              batch.filterMap (submission? lib.ctx.py check'.tenantId check'.companyId) :=
              List.map_filterMap ..
          cases db with
          | true =>
            rw [if_pos rfl, hsubmitted]
          | false => exact List.nil_sublist _

/-- The router's callback keeps the tasks sound; then a save runs, or everything is saved. -/
theorem saveSessionAndTelemetryCallback (h : TasksSound lib tenantId companyId s saved seen) :
    TasksSound lib tenantId companyId (s.saveSessionAndTelemetryCallback lib).1 saved seen ∧
      ((s.saveSessionAndTelemetryCallback lib).1.saves ≠ [] ∨
        saved = (s.saveSessionAndTelemetryCallback lib).1.events.length) := by
  have hcounted := h.withState (telemetryAfterAgent_sameBut lib.ctx.py lib.prices
    (s.events.map ConversationEvent.toAgentEvent) s.state) (by decide)
  obtain ⟨hscheduled, hsaving⟩ := hcounted.scheduleMemorySave
  refine ⟨hscheduled.scheduleLessonCheck, ?_⟩
  unfold AgentSession.saveSessionAndTelemetryCallback
  obtain ⟨hsaves, hevents⟩ := AgentSession.scheduleLessonCheck_keeps lib
    (AgentSession.scheduleMemorySave lib { s with
      state := (telemetryAfterAgent lib.ctx.py lib.prices
        (s.events.map ConversationEvent.toAgentEvent) s.state).1 })
  rw [hsaves, hevents, AgentSession.scheduleMemorySave_events]
  exact hsaving

/-- **A step** keeps the tasks sound. -/
theorem next (h : TasksSound lib tenantId companyId s saved seen) (e : AgentSessionStep) :
    ∃ saved' seen', TasksSound lib tenantId companyId ((agentSession lib).next s e) saved'
    seen' := by
  cases e with
  | append event => exact ⟨saved, seen, h.append event⟩
  | beforeAgent c =>
    exact ⟨saved, seen,
      h.withState (beforeAgentIsolationGuardAndDedup_sameBut lib.ctx lib.dedup s.state c)
      (by decide)⟩
  | beforeTool toolName args => exact ⟨saved, seen, h⟩
  | afterTool toolName toolResponse result =>
    exact ⟨saved, seen,
      h.withState (afterToolEmitMessages_sameBut lib.ctx s.state toolName toolResponse result)
      (by decide)⟩
  | toolError toolName =>
    exact ⟨saved, seen, h.withState (queueMessage_sameBut lib.ctx s.state _) (by decide)⟩
  | afterModel parts =>
    exact ⟨saved, seen, h.withState (afterModelValuationSanity_sameBut s.state parts) (by decide)⟩
  | afterRouter => exact ⟨saved, seen, h.saveSessionAndTelemetryCallback.1⟩
  | saveEnds task accepted =>
    obtain ⟨saved', hnext⟩ := h.saveEnds task accepted
    exact ⟨saved', seen, hnext⟩
  | checkEnds task outcome =>
    obtain ⟨seen', hnext⟩ := h.checkEnds task outcome
    exact ⟨saved, seen', hnext⟩
  | imageStored artifactId =>
    exact ⟨saved, seen, h.withState (SameBut.set s.state _ (List.mem_singleton.2 rfl)) (by decide)⟩

end TasksSound

variable (lib)

theorem tasksSound_run (state : Record) (steps : List AgentSessionStep) :
    ∃ saved seen, TasksSound lib (state.value "app:tenant_id") (state.value "app:company_id")
      ((agentSession lib).run (.start state) steps) saved seen := by
  have halways : (agentSession lib).Always (fun s => ∃ saved seen,
      TasksSound lib (state.value "app:tenant_id") (state.value "app:company_id") s saved seen)
        (.start state) steps := by
    refine (agentSession lib).always_of_guarded (G := fun _ _ => True) ?_ ⟨0, 0,
      TasksSound.start state⟩ fun _ _ => trivial
    rintro s e ⟨saved, seen, hsound⟩ -
    exact hsound.next e
  exact halways.run

/-- **The background tasks** of a session, for one run of its `temp:` keys: whatever happens in
    whatever order, at most one save and one check run, the batches the memory service took are the
    first events of the session, each once and in order, those that were looked at for lessons
    likewise, and each lesson is submitted at most once, for the company of the session. After a
    turn of the router a save runs, or the memory has all events. -/
theorem agentSession_workedOff (state : Record) (steps : List AgentSessionStep) :
    (∃ saved seen,
      let s := (agentSession lib).run (.start state) steps
      s.saves.length ≤ 1 ∧ s.checks.length ≤ 1 ∧
      s.memory.flatten = s.events.take saved ∧ s.checked.flatten = s.events.take seen ∧
      s.lessons.Sublist ((s.events.take seen).filterMap (submission? lib.ctx.py
        ((state.value "app:tenant_id").str?.getD "")
        ((state.value "app:company_id").str?.getD "")))) ∧
    (((agentSession lib).run (.start state) (steps ++ [.afterRouter])).saves ≠ [] ∨
      ((agentSession lib).run (.start state) (steps ++ [.afterRouter])).memory.flatten =
        ((agentSession lib).run (.start state) (steps ++ [.afterRouter])).events) := by
  obtain ⟨saved, seen, hsound⟩ := tasksSound_run lib state steps
  constructor
  · refine ⟨saved, seen, ?_, ?_, hsound.memory.done_eq, hsound.checked.done_eq, ?_⟩
    · rcases hsound.saves with ⟨hsaves, -⟩ | ⟨save, hsaves, -⟩
      · rw [hsaves]
        exact Nat.zero_le _
      · rw [hsaves, List.length_singleton]
    · rcases hsound.checks with ⟨hchecks, -⟩ | ⟨check, hchecks, -⟩
      · rw [hchecks]
        exact Nat.zero_le _
      · rw [hchecks, List.length_singleton]
    · rw [← hsound.checked.done_eq]
      exact hsound.lessons
  · obtain ⟨hnext, hsaving⟩ := hsound.saveSessionAndTelemetryCallback
    rw [EventMachine.run_concat]
    refine hsaving.imp_right fun hall => ?_
    have hmemory := hnext.memory.done_eq
    rw [hall, List.take_length] at hmemory
    exact hmemory

end Ekaette
