import Ekaette.At.ServiceWindow
import Ekaette.Lib.ProgramPool
import Ekaette.Realtime.SessionPolicy

set_option autoImplicit false

/-! # Turns of a text channel

`channels/adk_text_adapter.py`: a message of a customer opens the customer's session, runs through
the agents, and comes back as one reply. Where the model is overloaded, the same message runs once
more through the fallback agents, in a session of their own. -/

namespace Ekaette

/-! ## Messages, and what the agents make of them -/

/-- `types.Part` of a message to the agents. -/
inductive MessagePart where
  | text (text : String)
  | inlineData (mimeType : String) (data : List UInt8)
  deriving DecidableEq

/-- The parts of `types.Content`, of the role `user`. -/
abbrev ChannelContent := List MessagePart

/-- What `_run_and_collect_text` reads of an event: the texts of `content.parts`, an absent one
    empty; the inner `none` is `parts` being `None`. -/
structure AgentOutput where
  isPartial : Bool := false
  content : Option (Option (List String)) := none

/-- How `run_async` ends: after its last event, with a `ServerError`, or with another exception. -/
inductive RunEnding where
  | completed
  | serverError
  | failed

structure AgentRun where
  outputs : List AgentOutput
  ending : RunEnding

/-- The texts an event adds; `none` where reading the event raises. -/
def AgentOutput.texts (output : AgentOutput) : Option (List String) :=
  if output.isPartial then some []
  else match output.content with
    | none => some []
    | some parts => parts.map (fun texts => texts.filter (· ≠ ""))

/-- `_DEFAULT_FALLBACK` -/
def defaultFallback : String := "Thanks for your message. How can I help you today?"

/-- The texts that were collected, stripped and joined. -/
def joinTexts (texts : List String) : String :=
  let cleaned := (texts.map PyStr.strip).filter (· ≠ "")
  if cleaned.isEmpty then defaultFallback else String.intercalate "\n\n" cleaned

/-- What `_run_and_collect_text` makes of a run; `none` where it raises `ModelOverloadedError`. -/
def AgentRun.reply (run : AgentRun) : Option String :=
  match run.outputs.mapM AgentOutput.texts with
  | none => some defaultFallback
  | some texts =>
    match run.ending with
    | .completed => some (joinTexts texts.flatten)
    | .serverError => none
    | .failed => some defaultFallback

/-- The reply to a run that may not even start. -/
def replyOf : Option AgentRun → Option String
  | some run => run.reply
  | none => some defaultFallback

/-- `CHANNEL_LIMITS` -/
def channelLimit (channel : String) : ℕ := if channel = "sms" then 160 else 4096

/-- `derive_session_id`; `none` where it raises. -/
def deriveSessionId (sha256Hex : String → String) (channel userId : String) : Option String :=
  if PyStr.strip channel = "" then none
  else if PyStr.strip userId = "" then none
  else some (channel ++ "-" ++ firstChars 24 (sha256Hex (channel ++ ":" ++ userId)))

/-- The prompt beside media: the caption, or `_DEFAULT_MEDIA_PROMPTS`. -/
def mediaPrompt (mimeType caption : String) : String :=
  if PyStr.strip caption ≠ "" then PyStr.strip caption
  else
    let category := if '/' ∈ mimeType.toList then String.ofList
      (mimeType.toList.takeWhile (· ≠ '/')) else "default"
    if category = "image" then "The customer sent this image. Analyze it and respond helpfully."
    else if category = "video" then
      "The customer sent a video of their device. Analyze the video and respond helpfully."
    else if category =
      "audio" then "The customer sent a voice note. Listen to what they said and respond helpfully."
    else "The customer sent media. Analyze it and respond helpfully."

/-- `_MAX_MEDIA_BYTES` -/
def maxMediaBytes : ℕ := 20 * 1024 * 1024

/-! ## Turns -/

/-- What the turns of a text channel await. -/
inductive TextCall where
  /-- a call of `_ensure_session` for the sessions of this app -/
  | session (appName : String) (call : InitCall)
  /-- `runner.run_async`, of the runner of this app -/
  | runAsync (runnerApp userId sessionId : String) (newMessage : ChannelContent)
  /-- `whatsapp_download_media`, which answers the bytes and the content type -/
  | downloadMedia (mediaId mediaType : String)
  /-- `generate_content` without the agents, which answers `response.text` -/
  | generateContent (contents : List MessagePart)

@[reducible] def TextCall.Answer : TextCall → Type
  | .session _ call => call.Answer
  | .runAsync _ _ _ _ => AgentRun
  | .downloadMedia _ _ => List UInt8 × String
  | .generateContent _ => Option String

abbrev TextProgram := CallProgram TextCall TextCall.Answer

abbrev TextLog := List (Called TextCall TextCall.Answer)

/-- The arguments that `send_text_message` and `send_media_message` share; a runner is named by its
    app. -/
structure TextTurn where
  runner : String
  appName : String
  userId : String
  channel : String
  scope : CompanyScope
  fallbackRunner : Option String
  fallbackAppName : String

/-- `fallback_app_name or f"{app_name}_fallback"` -/
def TextTurn.fallbackApp (turn : TextTurn) : String :=
  if turn.fallbackAppName = "" then turn.appName ++ "_fallback" else turn.fallbackAppName

structure TextReply where
  text : String
  sessionId : String
  channel : String

section Program

variable (rt : SessionRuntime) (sha256Hex : String → String) (turn : TextTurn)

/-- `_ensure_session` for an app. -/
def ensureTextSession (appName sessionId : String) : TextProgram String :=
  CallProgram.relabel TextCall.Answer (TextCall.session appName)
    (ensureSession rt turn.userId sessionId turn.scope turn.channel)

/-- `_run_and_collect_text`; `none` where it raises `ModelOverloadedError`. -/
def runAndCollectText (runnerApp sessionId : String) (message : ChannelContent) :
    TextProgram (Option String) := do
  let run : Option AgentRun ← CallProgram.attempt
    (TextCall.runAsync runnerApp turn.userId sessionId message)
  pure (replyOf run)

/-- The second run, where there is a fallback. -/
def runFallback (sessionId : String) (message : ChannelContent) : TextProgram String :=
  match turn.fallbackRunner with
  | none => pure defaultFallback
  | some fallback => do
      let opened ← ensureTextSession rt turn turn.fallbackApp sessionId
      match ← runAndCollectText turn fallback opened message with
      | some text => pure text
      | none => .raised

/-- What `send_text_message` and `send_media_message` do with their message. -/
def answerMessage (sessionId : String) (message : ChannelContent) : TextProgram TextReply := do
  let opened ← ensureTextSession rt turn turn.appName sessionId
  let text ← match ← runAndCollectText turn turn.runner opened message with
    | some text => pure text
    | none => runFallback rt turn sessionId message
  pure ⟨firstChars (channelLimit turn.channel) text, opened, turn.channel⟩

/-- `send_text_message` -/
def sendTextMessage (messageText : String) : TextProgram TextReply :=
  match deriveSessionId sha256Hex turn.channel turn.userId with
  | none => .raised
  | some sessionId => answerMessage rt turn sessionId [.text messageText]

/-- The reply to media without bytes. -/
def emptyMediaReply : String :=
  "Sorry, the media file appears to be empty. Please try sending it again."

/-- The reply to media that is too large. -/
def largeMediaReply : String :=
  "Sorry, that file is too large to process. Please send a smaller one."

/-- `send_media_message` -/
def sendMediaMessage (media : List UInt8) (mimeType caption : String) : TextProgram TextReply :=
  match deriveSessionId sha256Hex turn.channel turn.userId with
  | none => .raised
  | some sessionId =>
    if media = [] then
      pure ⟨emptyMediaReply, sessionId, turn.channel⟩
    else if maxMediaBytes < media.length then
      pure ⟨largeMediaReply, sessionId, turn.channel⟩
    else answerMessage rt turn sessionId [.inlineData mimeType media,
      .text (mediaPrompt mimeType caption)]

end Program

/-! ## What a turn calls -/

/-- The session a lookup or a creation ends with, and its app. -/
def openedSession : Called TextCall TextCall.Answer → Option (String × String)
  | ⟨.session app (.getSession _ sessionId), some (some found)⟩ =>
    some (app, (found.id.filter (· ≠ "")).getD sessionId)
  | ⟨.session app (.createSession _ (some sessionId) _), some created⟩ =>
    some (app, (created.filter (· ≠ "")).getD sessionId)
  | _ => none

/-- The sessions opened so far. -/
def openedSessions (log : TextLog) : List (String × String) := log.filterMap openedSession

/-- A run of the agents: the app of its runner, and how it went. -/
def agentRun? : Called TextCall TextCall.Answer → Option (String × Option AgentRun)
  | ⟨.runAsync runnerApp _ _ _, run⟩ => some (runnerApp, run)
  | _ => none

/-- The runs so far. -/
def agentRuns (log : TextLog) : List (String × Option AgentRun) := log.filterMap agentRun?

/-- The first run was made, and its model was overloaded. -/
def TextTurn.Overloaded (turn : TextTurn) (log : TextLog) : Prop :=
  ∃ run, agentRuns log = [(turn.runner, run)] ∧ replyOf run = none

/-- A call of `_ensure_session` on behalf of the customer: the session is the customer's, and what
    is created belongs to the tenant, the company and the channel. -/
def InScope (turn : TextTurn) (sessionId : String) : InitCall → Prop
  | .getSession userId id => userId = turn.userId ∧ id = sessionId
  | .createSession userId id state => userId = turn.userId ∧ id = some sessionId ∧
      state.value "app:tenant_id" = .str turn.scope.tenantId ∧
      state.value "app:company_id" = .str turn.scope.companyId ∧
      state.value "app:channel" = .str turn.channel
  | .resolveRegistryRuntimeConfig tenantId companyId | .loadGlobalLessons tenantId companyId =>
    tenantId = turn.scope.tenantId ∧ companyId = turn.scope.companyId
  | _ => False

/-- **The calls a turn may make.** The message is run as the customer, in a session that was opened
    for it: first by the runner, and again by the fallback only if the model of the first run, the
    only one, was overloaded. -/
def TextTurn.Allows (turn : TextTurn) (sessionId : String) (message : ChannelContent)
    (log : TextLog) : TextCall → Prop
  | .session app call => InScope turn sessionId call ∧
      (app = turn.appName ∧ agentRuns log = [] ∨
        app = turn.fallbackApp ∧ turn.fallbackRunner.isSome ∧ turn.Overloaded log)
  | .runAsync runnerApp userId opened newMessage => userId = turn.userId ∧ newMessage = message ∧
      (runnerApp = turn.runner ∧ agentRuns log = [] ∧ (turn.appName, opened) ∈ openedSessions log ∨
        turn.fallbackRunner = some runnerApp ∧ turn.Overloaded log ∧
          (turn.fallbackApp, opened) ∈ openedSessions log)
  | _ => False

/-- The text begins with a character that is no space. -/
def Speaks (text : String) : Prop := ∃ c cs, text.toList = c :: cs ∧ PyStr.isSpace c = false

/-- **The reply of a turn**: what the last run said, or the default text where it said nothing,
    within the limit of the channel and not blank. -/
structure TextTurn.Answers (turn : TextTurn) (log : TextLog) (reply : TextReply) : Prop where
  channel : reply.channel = turn.channel
  session : (turn.appName, reply.sessionId) ∈ openedSessions log
  said : ∃ last, (agentRuns log).getLast? = some last ∧
    reply.text = firstChars (channelLimit turn.channel) ((replyOf last.2).getD defaultFallback)
  limit : reply.text.length ≤ channelLimit turn.channel
  speaks : Speaks reply.text

/-! ## Texts -/

variable {text : String}

theorem Speaks.strip_ne (h : Speaks text) : PyStr.strip text ≠ "" := by
  obtain ⟨c, cs, htext, hc⟩ := h
  exact PyStr.strip_ne_empty_of_mem hc (htext ▸ List.mem_cons_self)

theorem Speaks.firstChars (h : Speaks text) {n : ℕ} (hn : 0 < n) :
    Speaks (firstChars n text) := by
  obtain ⟨c, cs, htext, hc⟩ := h
  obtain ⟨m, rfl⟩ := Nat.exists_eq_succ_of_ne_zero hn.ne'
  exact ⟨c, cs.take m, by rw [Ekaette.firstChars, htext, List.take_succ_cons, String.toList_ofList],
    hc⟩

theorem length_firstChars_le (n : ℕ) (text : String) : (firstChars n text).length ≤ n := by
  rw [firstChars, String.length_ofList]
  exact List.length_take_le n _

theorem speaks_strip (h : PyStr.strip text ≠ "") : Speaks (PyStr.strip text) := by
  -- what is stripped begins where the blanks at the front end
  have hprefix : PyStr.stripChars text.toList <+: text.toList.dropWhile PyStr.isSpace :=
    List.rdropWhile_prefix PyStr.isSpace _
  cases hchars : PyStr.stripChars text.toList with
  | nil =>
    rw [PyStr.strip, hchars] at h
    exact absurd rfl h
  | cons c cs =>
    obtain ⟨ds, hds⟩ := hprefix
    have hhead := List.head?_dropWhile_not PyStr.isSpace text.toList
    rw [← hds, hchars] at hhead
    exact ⟨c, cs, by rw [PyStr.strip, hchars, String.toList_ofList], hhead⟩

theorem speaks_of_begins (h : text.toList.head?.all PyStr.isSpace = false) :
    Speaks text := by
  cases htext : text.toList with
  | nil =>
    rw [htext] at h
    cases h
  | cons c cs =>
    rw [htext] at h
    exact ⟨c, cs, htext, h⟩

theorem speaks_defaultFallback : Speaks defaultFallback := speaks_of_begins (by decide +kernel)

theorem speaks_largeMediaReply : Speaks largeMediaReply := speaks_of_begins (by decide +kernel)

theorem Speaks.append (h : Speaks text) (more : String) :
    Speaks (text ++ more) := by
  obtain ⟨c, cs, htext, hc⟩ := h
  exact ⟨c, cs ++ more.toList, by rw [String.toList_append, htext, List.cons_append], hc⟩

/-- What is joined begins with the first text. -/
theorem Speaks.intercalate (h : Speaks text) (sep : String) (rest : List String) :
    Speaks (String.intercalate sep (text :: rest)) := by
  cases rest with
  | nil =>
    rw [String.intercalate_singleton]
    exact h
  | cons next rest =>
    rw [String.intercalate_cons_cons]
    exact (h.append sep).append _

theorem speaks_joinTexts (texts : List String) : Speaks (joinTexts texts) := by
  unfold joinTexts
  dsimp only
  split
  · exact speaks_defaultFallback
  · next hsome =>
      rw [List.isEmpty_iff] at hsome
      obtain ⟨text, rest, hclean⟩ := List.exists_cons_of_ne_nil hsome
      have hmem : text ∈ (texts.map PyStr.strip).filter (· ≠ "") := hclean ▸ List.mem_cons_self
      obtain ⟨hmap, hne⟩ := List.mem_filter.1 hmem
      obtain ⟨raw, -, rfl⟩ := List.mem_map.1 hmap
      rw [hclean]
      exact (speaks_strip (of_decide_eq_true hne)).intercalate _ _

theorem speaks_replyOf (run : Option AgentRun) : Speaks ((replyOf run).getD defaultFallback) := by
  cases run with
  | none => exact speaks_defaultFallback
  | some run =>
    simp only [replyOf, AgentRun.reply]
    cases run.outputs.mapM AgentOutput.texts with
    | none => exact speaks_defaultFallback
    | some texts =>
      cases run.ending with
      | completed => exact speaks_joinTexts texts.flatten
      | serverError => exact speaks_defaultFallback
      | failed => exact speaks_defaultFallback

theorem channelLimit_pos (channel : String) : 0 < channelLimit channel := by
  unfold channelLimit
  split <;> decide

/-! ## The session of a turn -/

section Sessions

variable (rt : SessionRuntime) {turn : TextTurn} {sessionId : String}

/-- The state keeps the tenant, the company and the channel. -/
def KeepsScope (state state' : Record) : Prop :=
  ∀ key ∈ ["app:tenant_id", "app:company_id", "app:channel"], state'.value key = state.value key

theorem keepsScope_set (state : Record) (key : String) (v : PyValue)
    (h : key ∉ ["app:tenant_id", "app:company_id", "app:channel"]) :
    KeepsScope state (state.set key v) := by
  intro key' hkey'
  rw [Record.value_set, if_neg]
  rintro rfl
  exact h hkey'

theorem KeepsScope.trans {s t u : Record} (hst : KeepsScope s t) (htu : KeepsScope t u) :
    KeepsScope s u :=
  fun key hkey => (htu key hkey).trans (hst key hkey)

theorem textRegistryState_keepsScope (config : ResolvedRegistryConfig) (state : Record) :
    KeepsScope state (textRegistryState config state) := by
  unfold textRegistryState
  dsimp only
  have hindustry := (keepsScope_set state "app:industry" (.str config.industryTemplateId)
    (by decide)).trans
    (keepsScope_set _ "app:industry_template_id" (.str config.industryTemplateId) (by decide))
  split_ifs
  · exact hindustry
  · exact hindustry.trans (keepsScope_set _ _ _ (by decide))
  · exact hindustry.trans (keepsScope_set _ _ _ (by decide))
  · exact (hindustry.trans (keepsScope_set _ _ _ (by decide))).trans
      (keepsScope_set _ _ _ (by decide))

/-- **The registry's part of a state** leaves the scope as it is, and asks for this company only. -/
theorem bootstrapRegistry_keepsScope (scope : CompanyScope) (state : Record)
    (log : List InitCalled) : (bootstrapRegistry rt scope state).Obeys
      (fun _ c => c = .resolveRegistryRuntimeConfig scope.tenantId scope.companyId ∨
        c = .loadGlobalLessons scope.tenantId scope.companyId)
      (fun _ state' => KeepsScope state state') log := by
  have hlessons : ∀ (state' : Record) (log : List InitCalled), KeepsScope state state' →
      (addLessons rt scope state').Obeys
        (fun _ c => c = .resolveRegistryRuntimeConfig scope.tenantId scope.companyId ∨
          c = .loadGlobalLessons scope.tenantId scope.companyId)
        (fun _ state' => KeepsScope state state') log := by
    intro state' log hstate
    unfold addLessons
    split
    · rw [CallProgram.obeys_bind]
      refine (CallProgram.obeys_attempt
        (c := InitCall.loadGlobalLessons scope.tenantId scope.companyId) log).2
        ⟨.inr rfl, fun lessons => ?_⟩
      rw [CallProgram.obeys_pure]
      split
      · exact hstate
      · exact hstate.trans (keepsScope_set _ _ _ (by decide))
    · exact hstate
  unfold bootstrapRegistry
  split
  · rw [CallProgram.obeys_bind]
    refine (CallProgram.obeys_attempt (c := InitCall.resolveRegistryRuntimeConfig scope.tenantId
      scope.companyId) log).2 ⟨.inl rfl, fun lookup => ?_⟩
    split
    · exact hlessons _ _ (textRegistryState_keepsScope _ state)
    · exact hlessons _ _ (fun _ _ => rfl)
    · exact fun _ _ => rfl
  · exact fun _ _ => rfl

/-- The calls of `_ensure_session` are no runs. -/
theorem agentRuns_session (app : String) (log : TextLog) (calls : List InitCalled) :
    agentRuns (log ++ calls.map (fun t => ⟨.session app t.1, t.2⟩)) = agentRuns log := by
  have hnone : agentRuns (calls.map (fun t => ⟨.session app t.1, t.2⟩)) = [] := by
    unfold agentRuns
    rw [List.filterMap_map]
    exact List.filterMap_eq_nil_iff.2 (fun _ _ => rfl)
  rw [agentRuns, List.filterMap_append, ← agentRuns, ← agentRuns, hnone, List.append_nil]

theorem mem_openedSessions_concat (log : TextLog) {called : Called TextCall TextCall.Answer}
    {found : String × String} (h : openedSession called = some found) :
    found ∈ openedSessions (log ++ [called]) :=
  List.mem_filterMap.2 ⟨called, List.mem_append_right _ (List.mem_singleton_self _), h⟩

/-- **`_ensure_session`** stays within the scope of the turn, and its last call opens the session it
    returns. -/
theorem ensureTextSession_obeys {P : TextLog → TextCall → Prop} {Q : TextLog → String → Prop}
    (app : String) {log : TextLog}
    (hcall : ∀ log' call, agentRuns log' = agentRuns log → InScope turn sessionId call →
      P log' (.session app call))
    (hdone : ∀ log' opened, log <+: log' → agentRuns log' = agentRuns log →
      (app, opened) ∈ openedSessions log' → Q log' opened) :
    (ensureTextSession rt turn app sessionId).Obeys P Q log := by
  have hrelabel := CallProgram.obeys_relabel TextCall.Answer (TextCall.session app) (P := P)
    (Q := Q) (ensureSession rt turn.userId sessionId turn.scope turn.channel) log []
  rw [List.map_nil, List.append_nil] at hrelabel
  refine hrelabel.2 ?_
  unfold ensureSession
  refine (CallProgram.obeys_ask_bind _).2 ⟨hcall _ _ (agentRuns_session app log _) ⟨rfl, rfl⟩,
    fun found => ?_⟩
  cases found with
  | some session =>
    refine hdone _ _ (List.prefix_append _ _) (agentRuns_session app log _) ?_
    rw [List.map_append, ← List.append_assoc]
    exact mem_openedSessions_concat _ rfl
  | none =>
    refine ((bootstrapRegistry_keepsScope rt turn.scope _ _).mono ?_ (fun _ _ h => h)).bind
      (fun log' state hstate => ?_)
    · rintro log' call (rfl | rfl)
      · exact hcall _ _ (agentRuns_session app log _) ⟨rfl, rfl⟩
      · exact hcall _ _ (agentRuns_session app log _) ⟨rfl, rfl⟩
    · refine (CallProgram.obeys_ask_bind _).2 ⟨hcall _ _ (agentRuns_session app log _) ⟨rfl, rfl,
        ?_⟩, fun created => ?_⟩
      · have hinitial : ∀ key ∈ ["app:tenant_id", "app:company_id", "app:channel"],
      state.value key = _ := hstate
        rw [hinitial "app:tenant_id" (by decide), hinitial "app:company_id" (by decide),
          hinitial "app:channel" (by decide)]
        exact ⟨rfl, rfl, rfl⟩
      · refine hdone _ _ (List.prefix_append _ _) (agentRuns_session app log _) ?_
        rw [List.map_append, ← List.append_assoc]
        exact mem_openedSessions_concat _ rfl

end Sessions

/-! ## Whole turns -/

section Turns

variable (rt : SessionRuntime) (sha256Hex : String → String) {turn : TextTurn} {sessionId : String}
  {message : ChannelContent}

theorem agentRuns_concat_run (log : TextLog) (runnerApp userId opened : String)
    (newMessage : ChannelContent) (run : Option AgentRun) :
    agentRuns (log ++ [⟨.runAsync runnerApp userId opened newMessage, run⟩]) = agentRuns log ++
    [(runnerApp, run)] := by
  rw [agentRuns, List.filterMap_append]
  rfl

theorem runAndCollectText_obeys {P : TextLog → TextCall → Prop} {Q : TextLog → Option String → Prop}
    {log : TextLog} {runnerApp opened : String}
    (hcall : P log (.runAsync runnerApp turn.userId opened message))
    (hrun : ∀ run, Q (log ++ [⟨.runAsync runnerApp turn.userId opened message, run⟩]) (replyOf run))
    : (runAndCollectText turn runnerApp opened message).Obeys P Q log :=
  (CallProgram.obeys_bind _ _ _).2 ((CallProgram.obeys_attempt log).2 ⟨hcall, hrun⟩)

variable {log : TextLog}

theorem overloaded_of_reply (hlog : agentRuns log = []) {opened : String}
    {first : Option AgentRun} (hreply : replyOf first = none) :
    turn.Overloaded (log ++ [⟨.runAsync turn.runner turn.userId opened message, first⟩]) := by
  refine ⟨first, ?_, hreply⟩
  rw [agentRuns_concat_run, hlog]
  rfl

theorem openedSessions_mono {log log' : TextLog} (h : log <+: log') {found : String × String}
    (hfound : found ∈ openedSessions log) : found ∈ openedSessions log' := by
  obtain ⟨more, rfl⟩ := h
  rw [openedSessions, List.filterMap_append]
  exact List.mem_append_left _ hfound

/-- The text is what the last run said, and the session `first` was opened. -/
def Said (first : String × String) (log : TextLog) (text : String) : Prop :=
  (∃ last, (agentRuns log).getLast? = some last ∧ text = (replyOf last.2).getD defaultFallback) ∧
    first ∈ openedSessions log

theorem said_of_reply {first : String × String} {log : TextLog}
    (hfirst : first ∈ openedSessions log) {runnerApp userId opened text : String}
    {newMessage : ChannelContent} {run : Option AgentRun}
    (hreply : replyOf run = some text) :
    Said first (log ++ [⟨.runAsync runnerApp userId opened newMessage, run⟩]) text :=
  ⟨⟨(runnerApp, run), by rw [agentRuns_concat_run, List.getLast?_concat], by rw [hreply]; rfl⟩,
    openedSessions_mono (List.prefix_append _ _) hfirst⟩

/-- **The second run.** -/
theorem runFallback_obeys (hover : turn.Overloaded log) {first : String × String}
    (hfirst : first ∈ openedSessions log) :
    (runFallback rt turn sessionId message).Obeys (turn.Allows sessionId message)
    (Said first) log := by
  obtain ⟨run, hruns, hnone⟩ := hover
  unfold runFallback
  split
  · exact ⟨⟨(turn.runner, run), by rw [hruns]; rfl, by rw [hnone]; rfl⟩, hfirst⟩
  · next fallback hfallback =>
      refine (CallProgram.obeys_bind _ _ _).2 (ensureTextSession_obeys rt turn.fallbackApp ?_ ?_)
      · intro log' call hsame hscope
        exact ⟨hscope, .inr ⟨rfl, by rw [hfallback]; rfl, run, hsame.trans hruns, hnone⟩⟩
      · intro log' opened hgrown hsame hopened
        refine (CallProgram.obeys_bind _ _ _).2 (runAndCollectText_obeys ?_ fun second => ?_)
        · exact ⟨rfl, rfl, .inr ⟨hfallback, ⟨run, hsame.trans hruns, hnone⟩, hopened⟩⟩
        · cases hreply : replyOf second with
          | none => exact trivial
          | some text => exact said_of_reply (openedSessions_mono hgrown hfirst) hreply

/-- **What both entry points share.** -/
theorem answerMessage_obeys (hlog : agentRuns log = []) :
    (answerMessage rt turn sessionId message).Obeys (turn.Allows sessionId message) turn.Answers
    log := by
  have hclip : ∀ (log : TextLog) (opened text : String), Said (turn.appName, opened) log text →
      turn.Answers log ⟨firstChars (channelLimit turn.channel) text, opened, turn.channel⟩ := by
    rintro log opened text ⟨⟨last, hlast, rfl⟩, hopened⟩
    exact ⟨rfl, hopened, ⟨last, hlast, rfl⟩, length_firstChars_le _ _,
      (speaks_replyOf last.2).firstChars (channelLimit_pos _)⟩
  unfold answerMessage
  refine (CallProgram.obeys_bind _ _ _).2 (ensureTextSession_obeys rt turn.appName ?_ ?_)
  · intro log' call hsame hscope
    exact ⟨hscope, .inl ⟨rfl, hsame.trans hlog⟩⟩
  · intro log opened _ hsame hopened
    rw [hlog] at hsame
    refine (CallProgram.obeys_bind _ _ _).2 (runAndCollectText_obeys ?_ fun first => ?_)
    · exact ⟨rfl, rfl, .inl ⟨rfl, hsame, hopened⟩⟩
    · cases hreply : replyOf first with
      | some text => exact hclip _ _ _ (said_of_reply hopened hreply)
      | none =>
        exact (runFallback_obeys rt (overloaded_of_reply hsame hreply)
          (openedSessions_mono (List.prefix_append _ _) hopened)).bind (fun log' text h =>
          hclip log' opened text h)

/-! ## Turns without a reply -/

/-- The calls that look a session up, or create one. -/
def InitCall.opensSession : InitCall → Bool
  | .getSession _ _ | .createSession _ _ _ => true
  | _ => false

/-- The session service raised. -/
def SessionRaised (log : TextLog) : Prop :=
  ∃ app call, call.opensSession = true ∧ (⟨.session app call, none⟩ :
    Called TextCall TextCall.Answer) ∈ log

/-- There were two runs, and both models were overloaded. -/
def BothOverloaded (log : TextLog) : Prop :=
  ∃ first second, agentRuns log = [first, second] ∧ replyOf first.2 = none ∧ replyOf second.2 = none

/-- **Why a turn has no reply.** -/
def TurnFails (log : TextLog) : Prop := SessionRaised log ∨ BothOverloaded log

theorem sessionRaised_concat (app : String) (call : InitCall) (h : call.opensSession = true)
    (log : TextLog) (calls : List InitCalled) :
    SessionRaised (log ++ (calls ++ [(⟨call, none⟩ : InitCalled)]).map (fun t =>
      ⟨.session app t.1, t.2⟩)) := by
  refine ⟨app, call, h, ?_⟩
  rw [List.map_append, ← List.append_assoc]
  exact List.mem_append_right _ (List.mem_singleton_self _)

theorem addLessons_raisesOnly {E : List InitCalled → Prop} (scope : CompanyScope) (state : Record)
    (log : List InitCalled) : (addLessons rt scope state).RaisesOnly E log := by
  unfold addLessons
  split
  · exact (CallProgram.raisesOnly_attempt _ log).bind
      ((CallProgram.obeys_attempt log).2 ⟨trivial, fun _ => trivial⟩)
  · exact trivial

theorem bootstrapRegistry_raisesOnly {E : List InitCalled → Prop} (scope : CompanyScope)
    (state : Record) (log : List InitCalled) :
    (bootstrapRegistry rt scope state).RaisesOnly E log := by
  unfold bootstrapRegistry
  split
  · refine (CallProgram.raisesOnly_attempt _ log).bind
      ((CallProgram.obeys_attempt log).2 ⟨trivial, fun lookup => ?_⟩)
    split
    · exact addLessons_raisesOnly rt scope _ _
    · exact addLessons_raisesOnly rt scope _ _
    · exact trivial
  · exact trivial

theorem ensureTextSession_raisesOnly (app : String) (log : TextLog) :
    (ensureTextSession rt turn app sessionId).RaisesOnly SessionRaised log := by
  have hrelabel := CallProgram.raisesOnly_relabel TextCall.Answer (TextCall.session app)
    (E := SessionRaised) (ensureSession rt turn.userId sessionId turn.scope turn.channel) log []
  rw [List.map_nil, List.append_nil] at hrelabel
  refine hrelabel.2 ?_
  have hask : ∀ (call : InitCall) (calls : List InitCalled), call.opensSession = true →
    (perform call).RaisesOnly
      (fun calls => SessionRaised (log ++ calls.map (fun t => ⟨.session app t.1, t.2⟩))) calls :=
    fun call calls h => CallProgram.raisesOnly_ask _ (sessionRaised_concat app call h log calls)
  unfold ensureSession
  refine (hask (.getSession turn.userId sessionId) [] rfl).bind
    ((CallProgram.obeys_ask _).2 ⟨trivial, fun found => ?_⟩)
  cases found with
  | some session => exact trivial
  | none =>
    refine (bootstrapRegistry_raisesOnly rt turn.scope _ _).bind
      ((bootstrapRegistry_keepsScope rt turn.scope _ _).mono (fun _ _ _ => trivial)
        (fun log' state _ => ?_))
    exact (hask (.createSession turn.userId (some sessionId) state) log' rfl).bind
      ((CallProgram.obeys_ask _).2 ⟨trivial, fun _ => trivial⟩)

theorem ensureTextSession_runs (app : String) (log : TextLog) :
    (ensureTextSession rt turn app sessionId).Obeys (fun _ _ => True)
      (fun log' _ => agentRuns log' = agentRuns log) log :=
  ensureTextSession_obeys rt app (fun _ _ _ _ => trivial) (fun _ _ _ hsame _ => hsame)

theorem runAndCollectText_raisesOnly {E : TextLog → Prop} (runnerApp opened : String)
    (log : TextLog) : (runAndCollectText turn runnerApp opened message).RaisesOnly E log := fun _ =>
    trivial

theorem runFallback_raisesOnly (hover : turn.Overloaded log) :
    (runFallback rt turn sessionId message).RaisesOnly TurnFails log := by
  obtain ⟨run, hruns, hnone⟩ := hover
  unfold runFallback
  split
  · exact trivial
  · next fallback hfallback =>
      refine ((ensureTextSession_raisesOnly rt turn.fallbackApp log).mono (fun _ h => .inl h)).bind
        ((ensureTextSession_runs rt turn.fallbackApp log).mono (fun _ _ h => h)
          (fun log' opened hsame => ?_))
      refine (runAndCollectText_raisesOnly fallback opened log').bind
        (runAndCollectText_obeys trivial fun second => ?_)
      cases hreply : replyOf second with
      | some text => exact trivial
      | none =>
        refine .inr ⟨(turn.runner, run), (fallback, second), ?_, hnone, hreply⟩
        rw [agentRuns_concat_run, hsame, hruns]
        rfl

theorem answerMessage_raisesOnly (hlog : agentRuns log = []) :
    (answerMessage rt turn sessionId message).RaisesOnly TurnFails log := by
  unfold answerMessage
  refine ((ensureTextSession_raisesOnly rt turn.appName log).mono (fun _ h => .inl h)).bind
    ((ensureTextSession_runs rt turn.appName log).mono (fun _ _ h => h)
      (fun log opened hsame => ?_))
  rw [hlog] at hsame
  refine (runAndCollectText_raisesOnly turn.runner opened log).bind
    (runAndCollectText_obeys trivial fun first => ?_)
  cases hreply : replyOf first with
  | some text => exact trivial
  | none =>
    exact (runFallback_raisesOnly rt (overloaded_of_reply hsame hreply)).bind
      (CallProgram.obeys_trivial _ _)

/-! ## The entry points -/

/-- A turn with this message keeps its rules, and fails only for a reason. -/
abbrev TurnKeeps (turn : TextTurn) (sessionId : String) (message : ChannelContent) :
    CallProgram TextCall TextCall.Answer TextReply → TextLog → Prop :=
  CallProgram.Conforming (turn.Allows sessionId message) turn.Answers TurnFails

/-- How a turn ends: it kept its rules, and it has a reply or a reason for having none. -/
structure TextTurn.Ends (turn : TextTurn) (sessionId : String) (message : ChannelContent)
    (run : TextLog × Option TextReply) : Prop where
  calls : CallProgram.Conforms (turn.Allows sessionId message) run.1
  reply : ∀ reply, run.2 = some reply → turn.Answers run.1 reply
  fails : run.2 = none → TurnFails run.1

theorem answerMessage_ends (world : TextLog → (c : TextCall) → Option c.Answer) :
    turn.Ends sessionId message ((answerMessage rt turn sessionId message).run world []) := by
  have hkeeps : TurnKeeps turn sessionId message (answerMessage rt turn sessionId message) [] :=
    ⟨CallProgram.conforms_nil, answerMessage_obeys rt rfl, answerMessage_raisesOnly rt rfl⟩
  have hrun := (CallProgram.steady_conforming TurnFails).run world hkeeps
  generalize (answerMessage rt turn sessionId message).run world [] = run at hrun ⊢
  obtain ⟨log, result⟩ := run
  cases result with
  | none => exact ⟨hrun.called, fun _ h => (by cases h), fun _ => hrun.raises⟩
  | some reply =>
    refine ⟨hrun.called, fun reply' h => ?_, fun h => by cases h⟩
    obtain rfl := Option.some.inj h
    exact hrun.ahead

/-- **Every message is answered**: whatever the sessions, the registry and the models do, a text or
    media is run as its customer, once or twice, and comes back as a reply within the limit of the
    channel, unless the session service raises or both models are overloaded. Media that is empty or
    too large is turned down without a call, and without a channel or a customer both entry points
    raise at once. -/
theorem textTurns_end (turn : TextTurn) (world : TextLog → (c : TextCall) → Option c.Answer)
    (text : String) (media : List UInt8) (mimeType caption : String) :
    match deriveSessionId sha256Hex turn.channel turn.userId with
    | none => (sendTextMessage rt sha256Hex turn text).run world [] = ([], none) ∧
        (sendMediaMessage rt sha256Hex turn media mimeType caption).run world [] = ([], none)
    | some sessionId =>
      turn.Ends sessionId [.text text] ((sendTextMessage rt sha256Hex turn text).run world []) ∧
        if media = [] ∨ maxMediaBytes < media.length then
          ∃ apology, (sendMediaMessage rt sha256Hex turn media mimeType caption).run world [] =
            ([], some ⟨apology, sessionId, turn.channel⟩) ∧ Speaks apology ∧ apology.length ≤ 160
        else turn.Ends sessionId [.inlineData mimeType media, .text (mediaPrompt mimeType caption)]
          ((sendMediaMessage rt sha256Hex turn media mimeType caption).run world []) := by
  unfold sendTextMessage sendMediaMessage
  cases deriveSessionId sha256Hex turn.channel turn.userId with
  | none => exact ⟨rfl, rfl⟩
  | some sessionId =>
    refine ⟨answerMessage_ends rt world, ?_⟩
    dsimp only
    by_cases hempty : media = []
    · rw [if_pos hempty, if_pos (.inl hempty)]
      exact ⟨emptyMediaReply, rfl, speaks_of_begins (by decide +kernel), by decide +kernel⟩
    · rw [if_neg hempty]
      by_cases hlarge : maxMediaBytes < media.length
      · rw [if_pos hlarge, if_pos (.inr hlarge)]
        exact ⟨largeMediaReply, rfl, speaks_largeMediaReply, by decide +kernel⟩
      · rw [if_neg hlarge, if_neg (not_or.2 ⟨hempty, hlarge⟩)]
        exact answerMessage_ends rt world

end Turns

end Ekaette
