import Ekaette.At.WaReplies
import Ekaette.Channels.TextAdapter

set_option autoImplicit false

/-! # Conversations on WhatsApp

`service_whatsapp.py`: a text, an image, a video or a voice note of a customer becomes a turn of the
agents, under the canonical id of the phone number. The turns of all customers run side by side over
one session service, which keeps the messages of a conversation. Before the agents are there, a
message goes to the model directly. -/

namespace Ekaette

/-- What `service_whatsapp` has of `main.py`, and what a canonical id is made with. -/
structure WaAgents where
  runtime : SessionRuntime
  /-- `SESSION_APP_NAME` -/
  baseName : String
  /-- the runner, the session service and the name are there -/
  hasRunner : Bool
  /-- `text_fallback_runner` is there -/
  hasFallback : Bool
  sha256Hex : String → String
  normalizePhone : String → Option String
  phoneHmac : String → String

/-- A message of a customer, with its handler. -/
structure WaTurn where
  scope : CompanyScope
  sender : String
  handler : ReplyHandler

section Handlers

variable (cfg : WaAgents) (scope : CompanyScope) (sender : String)

/-- `canonical_phone_user_id` -/
def WaAgents.canonicalPhoneUserId (rawPhone : String) : Option String :=
  if scope.tenantId = "" ∨ scope.companyId = "" then none
  else (cfg.normalizePhone rawPhone).map (fun phone => "phone-" ++
    firstChars 24 (cfg.phoneHmac (scope.tenantId ++ ":" ++ scope.companyId ++ ":caller:" ++ phone)))

/-- `_resolve_whatsapp_user_id` -/
def WaAgents.resolveWhatsappUserId : String :=
  (cfg.canonicalPhoneUserId scope sender).getD
    ("wa-anon-" ++ firstChars 16
      (cfg.sha256Hex (scope.tenantId ++ ":" ++ scope.companyId ++ ":" ++ sender)))

/-- The arguments of the adapter, with what `_get_adk_runner_and_service` returns. -/
def WaAgents.textTurn : TextTurn where
  runner := cfg.baseName ++ "_text"
  appName := cfg.baseName ++ "_text"
  userId := cfg.resolveWhatsappUserId scope sender
  channel := "whatsapp"
  scope := scope
  fallbackRunner := if cfg.hasFallback then some (cfg.baseName ++ "_text_fallback") else none
  fallbackAppName := if cfg.hasFallback then cfg.baseName ++ "_text_fallback" else ""

/-- `WA_MAX_CHARS` -/
def waMaxChars : ℕ := 4096

/-- `(response.text or "").strip()`, or the other text where it is empty. -/
def strippedOr (response : Option String) (other : String) : String :=
  if PyStr.strip (response.getD "") = "" then other else PyStr.strip (response.getD "")

/-- `handle_text_message` -/
def handleTextMessage (text : String) : TextProgram String :=
  if cfg.hasRunner then do
    let reply ← sendTextMessage cfg.runtime cfg.sha256Hex (cfg.textTurn scope sender) text
    pure (firstChars waMaxChars reply.text)
  else do
    let response : Option String ← CallProgram.ask (TextCall.generateContent [.text text])
    -- `query_text` clips as well
    pure (firstChars waMaxChars (firstChars 4096 (strippedOr response defaultFallback)))

/-- `_legacy_media_analysis` -/
def legacyMediaAnalysis (media : List UInt8) (resolvedMime caption : String) : TextProgram String :=
  do
  let prompt :=
    if caption = "" then "Analyze this media and provide any relevant assistance." else caption
  let response : Option (Option String) ←
    CallProgram.attempt (TextCall.generateContent [.inlineData resolvedMime media, .text prompt])
  pure (firstChars waMaxChars (match response with
    | some response => strippedOr response
        "I received your media but couldn't analyze it. Could you send it again or describe what you need?"
    | none => "I received your media but had trouble analyzing it. Please try again or send a text message."))

/-- `_handle_media_message`, once the media is downloaded. -/
def answerMedia (media : List UInt8) (contentType mimeType defaultMime caption : String) :
    TextProgram String :=
  if media = [] then pure emptyMediaReply
  else
    let resolvedMime :=
      if contentType ≠ "" then contentType else if mimeType ≠ "" then mimeType else defaultMime
    if cfg.hasRunner then do
      let reply ← sendMediaMessage cfg.runtime cfg.sha256Hex (cfg.textTurn scope sender) media
        resolvedMime caption
      pure (firstChars waMaxChars reply.text)
    else legacyMediaAnalysis media resolvedMime caption

/-- `_handle_media_message` -/
def handleMediaMessage (mediaId mediaType mimeType defaultMime caption : String) :
    TextProgram String := do
  let download : List UInt8 × String ← CallProgram.ask (TextCall.downloadMedia mediaId mediaType)
  answerMedia cfg scope sender download.1 download.2 mimeType defaultMime caption

/-- `handle_text_message`, `handle_image_message`, `handle_video_message` or
    `handle_audio_message`. -/
def ReplyHandler.program : ReplyHandler → TextProgram String
  | .text body => handleTextMessage cfg scope sender body
  | .image mediaId mimeType caption =>
    handleMediaMessage cfg scope sender mediaId "image" mimeType "image/jpeg" caption
  | .video mediaId mimeType caption =>
    handleMediaMessage cfg scope sender mediaId "video" mimeType "video/mp4" caption
  | .audio mediaId mimeType =>
    handleMediaMessage cfg scope sender mediaId "audio" mimeType "audio/ogg" ""

end Handlers

/-! ## The session service -/

/-- A session, by its app, its user and its id. -/
structure ConversationKey where
  appName : String
  userId : String
  id : String
  deriving DecidableEq

/-- The sessions with their first states, and the customers' messages they were given, oldest
    first. -/
structure TextSessions where
  sessions : Dict ConversationKey Record
  messages : List (ConversationKey × ChannelContent)

def TextSessions.empty : TextSessions := ⟨.empty, []⟩

/-- What the outside chooses for a call. -/
structure TextChoice where
  access : Access
  /-- the id that the service makes up for a new session, instead of the one asked for -/
  newId : Option String
  lookup : RegistryLookup
  lessons : List PyValue
  run : AgentRun
  media : List UInt8 × String
  response : Option String

/-- The service keeps sessions apart by their keys, and creates none twice. A run appends its
    message to its session first, and does not start without one. -/
def serveText (service : TextSessions) (choice : TextChoice) :
    (c : TextCall) → TextSessions × Option c.Answer
  | .session app (.getSession userId id) =>
    choice.access.perform service
      (service,
        some ((service.sessions.get? ⟨app, userId, id⟩).map (fun state => ⟨some id, state⟩)))
      none
  | .session app (.createSession userId id state) =>
    let key : ConversationKey := ⟨app, userId, choice.newId.getD (id.getD "")⟩
    if service.sessions.contains key then (service, none)
    else choice.access.perform service
      ({ service with sessions := service.sessions.set key state }, some (some key.id)) none
  | .session _ (.resolveRegistryRuntimeConfig _ _) =>
    choice.access.perform service (service, some choice.lookup) none
  | .session _ (.loadGlobalLessons _ _) =>
    choice.access.perform service (service, some choice.lessons) none
  | .session _ _ => (service, none)
  | .runAsync app userId id message =>
    if service.sessions.contains ⟨app, userId, id⟩ then
      choice.access.perform service
        ({ service with messages := service.messages ++ [(⟨app, userId, id⟩, message)] },
          some choice.run) none
    else (service, none)
  | .downloadMedia _ _ => choice.access.perform service (service, some choice.media) none
  | .generateContent _ => choice.access.perform service (service, some choice.response) none

abbrev WaConversationPool := Pool TextSessions TextCall TextCall.Answer String

abbrev WaConversationEvent := PoolEvent WaTurn TextChoice

/-- Messages of any customers, handled side by side. -/
def waConversations (cfg : WaAgents) : EventMachine WaConversationPool WaConversationEvent Unit :=
  Pool.machine serveText (fun turn => turn.handler.program cfg turn.scope turn.sender)

/-! ## Turns of the handlers -/

section Turns

variable (cfg : WaAgents) (turn : WaTurn)

/-- The canonical id of the customer. -/
def WaTurn.userId : String := cfg.resolveWhatsappUserId turn.scope turn.sender

/-- The id of the customer's conversations. -/
def conversationId (userId : String) : String :=
  "whatsapp-" ++ firstChars 24 (cfg.sha256Hex ("whatsapp:" ++ userId))

/-- The media of a message: its id, its kind, its type or the default one, and the caption. -/
def ReplyHandler.media? : ReplyHandler → Option (String × String × String × String)
  | .text _ => none
  | .image mediaId mimeType caption =>
    some (mediaId, "image", if mimeType ≠ "" then mimeType else "image/jpeg", caption)
  | .video mediaId mimeType caption =>
    some (mediaId, "video", if mimeType ≠ "" then mimeType else "video/mp4", caption)
  | .audio mediaId mimeType =>
    some (mediaId, "audio", if mimeType ≠ "" then mimeType else "audio/ogg", "")

/-- **What the agents are given** is the customer's text, or the media that were downloaded for the
    message. -/
def WaTurn.Carries (turn : WaTurn) (log : TextLog) (message : ChannelContent) : Prop :=
  (∃ body, turn.handler = .text body ∧ message = [.text body]) ∨
  ∃ mediaId kind mimeType caption data contentType,
    turn.handler.media? = some (mediaId, kind, mimeType, caption) ∧
    (⟨.downloadMedia mediaId kind, some (data, contentType)⟩ : Called TextCall TextCall.Answer) ∈
    log ∧ data ≠ [] ∧ data.length ≤ maxMediaBytes ∧
    message = [.inlineData (if contentType ≠ "" then contentType else mimeType) data,
      .text (mediaPrompt (if contentType ≠ "" then contentType else mimeType) caption)]

/-- The calls of a handler: the download of its media, the turn of the agents with what it carries,
    or the model itself where there are no agents. -/
def WaTurn.Allows (log : TextLog) (call : TextCall) : Prop :=
  match call with
  | .downloadMedia mediaId kind => ∃ rest, turn.handler.media? = some (mediaId, kind, rest)
  | .generateContent _ => cfg.hasRunner = false
  | call => cfg.hasRunner = true ∧ ∃ message, turn.Carries log message ∧
      (cfg.textTurn turn.scope turn.sender).Allows (conversationId cfg (turn.userId cfg)) message
      log call

/-- Why a customer gets no reply: the agents fail, the media cannot be downloaded, or there are no
    agents and the model cannot be asked. -/
def WaFails (log : TextLog) : Prop :=
  TurnFails log ∨
    (∃ mediaId kind, (⟨.downloadMedia mediaId kind, none⟩ : Called TextCall TextCall.Answer) ∈
      log) ∨
    cfg.hasRunner = false ∧
      ∃ contents, (⟨.generateContent contents, none⟩ : Called TextCall TextCall.Answer) ∈ log

/-- A reply that can be sent. -/
def SendableReply (reply : String) : Prop := Speaks reply ∧ reply.length ≤ waMaxChars

/-- The rules of a handler. -/
abbrev WaTurn.Keeps : TextProgram String → TextLog → Prop :=
  CallProgram.Conforming (turn.Allows cfg) (fun _ reply => SendableReply reply) (WaFails cfg)

theorem sendable_firstChars {text : String} (h : Speaks text) :
    SendableReply (firstChars waMaxChars text) :=
  ⟨h.firstChars (show 0 < 4096 by decide), length_firstChars_le _ _⟩

theorem speaks_strippedOr {other : String} (h : Speaks other) (response : Option String) :
    Speaks (strippedOr response other) := by
  unfold strippedOr
  split
  · exact h
  · next hstrip => exact speaks_strip hstrip

theorem speaks_userId : Speaks (turn.userId cfg) := by
  have hanon : ∀ id : String, Speaks ("wa-anon-" ++ id) :=
    fun id => (speaks_of_begins (by decide +kernel)).append id
  have hphone : ∀ id : String, Speaks ("phone-" ++ id) :=
    fun id => (speaks_of_begins (by decide +kernel)).append id
  unfold WaTurn.userId WaAgents.resolveWhatsappUserId WaAgents.canonicalPhoneUserId
  split
  · exact hanon _
  · cases cfg.normalizePhone turn.sender with
    | none => exact hanon _
    | some phone => exact hphone _

/-- A canonical id is not blank, so every customer has a conversation. -/
theorem deriveSessionId_textTurn :
    deriveSessionId cfg.sha256Hex (cfg.textTurn turn.scope turn.sender).channel
    (cfg.textTurn turn.scope turn.sender).userId = some (conversationId cfg (turn.userId cfg)) := by
  have hchannel : PyStr.strip "whatsapp" ≠ "" := (speaks_of_begins (by decide +kernel)).strip_ne
  show deriveSessionId cfg.sha256Hex "whatsapp" (turn.userId cfg) = _
  rw [deriveSessionId, if_neg hchannel, if_neg (speaks_userId cfg turn).strip_ne]
  rfl

theorem WaTurn.Carries.mono {turn : WaTurn} {log log' : TextLog} {message : ChannelContent}
    (h : turn.Carries log message) (hlog : log ⊆ log') : turn.Carries log' message := by
  refine h.imp_right ?_
  rintro ⟨mediaId, kind, mimeType, caption, data, contentType, hmedia, hmem, hrest⟩
  exact ⟨mediaId, kind, mimeType, caption, data, contentType, hmedia, hlog hmem, hrest⟩

/-- The reply of the agents, as the handlers return it. -/
def agentsReply (message : ChannelContent) : TextProgram String := do
  let reply ← answerMessage cfg.runtime (cfg.textTurn turn.scope turn.sender)
    (conversationId cfg (turn.userId cfg)) message
  pure (firstChars waMaxChars reply.text)

/-- **A turn of the agents** on behalf of the customer, with what the message carries. -/
theorem agentsReply_obeys {message : ChannelContent} {log : TextLog} (hlog : agentRuns log = [])
    (hcarries : turn.Carries log message) (hrunner : cfg.hasRunner = true) :
    (agentsReply cfg turn message).Obeys (turn.Allows cfg)
    (fun _ reply => SendableReply reply) log := by
  refine (CallProgram.obeys_bind _ _ _).2 (((answerMessage_obeys cfg.runtime hlog).along
    (S := fun log => turn.Carries log message)
    (fun log called h => h.mono (List.subset_append_left _ _)) hcarries).mono ?_ ?_)
  · rintro log' call ⟨hcarried, hallowed⟩
    cases call with
    | session app call => exact ⟨hrunner, message, hcarried, hallowed⟩
    | runAsync runnerApp userId opened newMessage => exact ⟨hrunner, message, hcarried, hallowed⟩
    | downloadMedia mediaId kind => exact hallowed.elim
    | generateContent contents => exact hallowed.elim
  · rintro log' reply ⟨-, hanswer⟩
    exact sendable_firstChars hanswer.speaks

theorem agentsReply_raisesOnly (message : ChannelContent) {log : TextLog}
    (hlog : agentRuns log = []) : (agentsReply cfg turn message).RaisesOnly (WaFails cfg) log :=
  ((answerMessage_raisesOnly cfg.runtime hlog).mono (fun _ h => .inl h)).bind
    (CallProgram.obeys_trivial _ _)

/-- `send_text_message` for a customer opens the customer's conversation. -/
theorem sendTextMessage_eq (body : String) :
    sendTextMessage cfg.runtime cfg.sha256Hex (cfg.textTurn turn.scope turn.sender) body =
      answerMessage cfg.runtime (cfg.textTurn turn.scope turn.sender)
        (conversationId cfg (turn.userId cfg)) [.text body] := by
  unfold sendTextMessage
  rw [deriveSessionId_textTurn]

theorem handleTextMessage_keeps {body : String} (hbody : turn.handler = .text body) :
    turn.Keeps cfg (handleTextMessage cfg turn.scope turn.sender body) [] := by
  have hcarries : turn.Carries [] [.text body] := .inl ⟨body, hbody, rfl⟩
  unfold handleTextMessage
  split
  · next hrunner =>
      rw [sendTextMessage_eq]
      exact ⟨CallProgram.conforms_nil, agentsReply_obeys cfg turn rfl hcarries hrunner,
        agentsReply_raisesOnly cfg turn _ rfl⟩
  · next hrunner =>
      have hmodel : cfg.hasRunner = false := Bool.eq_false_of_not_eq_true hrunner
      refine ⟨CallProgram.conforms_nil, (CallProgram.obeys_ask_bind _).2 ⟨hmodel, fun response =>
        ?_⟩, ?_⟩
      · exact sendable_firstChars ((speaks_strippedOr speaks_defaultFallback response).firstChars
          (by decide))
      · exact (CallProgram.raisesOnly_ask _
          (.inr (.inr ⟨hmodel, _, List.mem_singleton_self _⟩))).bind (CallProgram.obeys_trivial _ _)

section Media

variable {mediaId kind mimeType caption contentType : String} {data : List UInt8}

/-- `_legacy_media_analysis` asks the model once, and says something whatever comes of it. -/
theorem legacyMediaAnalysis_keeps (hmodel : cfg.hasRunner = false) (resolvedMime prompt : String)
    (log : TextLog) : (legacyMediaAnalysis data resolvedMime prompt).Obeys (turn.Allows cfg)
    (fun _ reply => SendableReply reply) log ∧
      (legacyMediaAnalysis data resolvedMime prompt).RaisesOnly (WaFails cfg) log := by
  refine ⟨(CallProgram.obeys_bind _ _ _).2 ((CallProgram.obeys_attempt log).2 ⟨hmodel,
    fun response => ?_⟩), fun _ => trivial⟩
  cases response with
  | none => exact sendable_firstChars (speaks_of_begins (by dsimp only; decide +kernel))
  | some response =>
    exact sendable_firstChars (speaks_strippedOr (speaks_of_begins (by decide +kernel)) response)

/-- `send_media_message` for a customer opens the customer's conversation, but for media that is too
    large. -/
theorem sendMediaMessage_eq (hne : data ≠ []) (resolvedMime prompt : String) :
    sendMediaMessage cfg.runtime cfg.sha256Hex (cfg.textTurn turn.scope turn.sender) data
      resolvedMime prompt = if maxMediaBytes < data.length then
        pure ⟨largeMediaReply, conversationId cfg (turn.userId cfg), "whatsapp"⟩
      else answerMessage cfg.runtime (cfg.textTurn turn.scope turn.sender)
      (conversationId cfg (turn.userId cfg))
        [.inlineData resolvedMime data, .text (mediaPrompt resolvedMime prompt)] := by
  unfold sendMediaMessage
  rw [deriveSessionId_textTurn]
  dsimp only
  rw [if_neg hne]
  rfl

variable {givenMime defaultMime : String}

/-- **Media that was downloaded** goes to the agents, or to the model where there are none. -/
theorem answerMedia_keeps (hmedia : turn.handler.media? =
      some (mediaId, kind, if givenMime ≠ "" then givenMime else defaultMime, caption))
        {log : TextLog}
    (hlog : agentRuns log = [])
    (hmem : (⟨.downloadMedia mediaId kind, some (data, contentType)⟩ :
      Called TextCall TextCall.Answer) ∈ log) :
    (answerMedia cfg turn.scope turn.sender data contentType givenMime defaultMime caption).Obeys
    (turn.Allows cfg)
        (fun _ reply => SendableReply reply) log ∧
      (answerMedia cfg turn.scope turn.sender data contentType givenMime defaultMime
        caption).RaisesOnly (WaFails cfg) log := by
  unfold answerMedia
  by_cases hempty : data = []
  · rw [if_pos hempty]
    exact ⟨⟨speaks_of_begins (by decide +kernel), by decide +kernel⟩, trivial⟩
  · rw [if_neg hempty]
    dsimp only
    by_cases hrunner : cfg.hasRunner = true
    · rw [if_pos hrunner, sendMediaMessage_eq cfg turn hempty]
      by_cases hlarge : maxMediaBytes < data.length
      · rw [if_pos hlarge]
        exact ⟨sendable_firstChars speaks_largeMediaReply, trivial⟩
      · rw [if_neg hlarge]
        have hcarries : turn.Carries log _ := .inr ⟨mediaId, kind, _, caption, data, contentType,
          hmedia, hmem, hempty, Nat.le_of_not_lt hlarge, rfl⟩
        exact ⟨agentsReply_obeys cfg turn hlog hcarries hrunner,
          agentsReply_raisesOnly cfg turn _ hlog⟩
    · rw [if_neg hrunner]
      exact legacyMediaAnalysis_keeps cfg turn (Bool.eq_false_of_not_eq_true hrunner) _ _ _

theorem handleMediaMessage_keeps (hmedia : turn.handler.media? =
      some (mediaId, kind, if givenMime ≠ "" then givenMime else defaultMime, caption)) :
    turn.Keeps cfg (handleMediaMessage cfg turn.scope turn.sender mediaId kind givenMime defaultMime
      caption) [] := by
  refine ⟨CallProgram.conforms_nil, (CallProgram.obeys_ask_bind _).2 ⟨⟨_, hmedia⟩, fun download =>
    ?_⟩, ?_⟩
  · exact (answerMedia_keeps cfg turn hmedia rfl (List.mem_singleton_self _)).1
  · refine (CallProgram.raisesOnly_ask _
      (.inr (.inl ⟨mediaId, kind, List.mem_singleton_self _⟩))).bind
      ((CallProgram.obeys_ask _).2 ⟨trivial, fun download => ?_⟩)
    exact (answerMedia_keeps cfg turn hmedia rfl (List.mem_singleton_self _)).2

end Media

/-- **One lemma for each kind of message.** -/
theorem handler_keeps : turn.Keeps cfg (turn.handler.program cfg turn.scope turn.sender) [] := by
  cases hhandler : turn.handler with
  | text body => exact handleTextMessage_keeps cfg turn hhandler
  | image mediaId mimeType caption =>
    exact handleMediaMessage_keeps cfg turn (by rw [hhandler]; rfl)
  | video mediaId mimeType caption =>
    exact handleMediaMessage_keeps cfg turn (by rw [hhandler]; rfl)
  | audio mediaId mimeType => exact handleMediaMessage_keeps cfg turn (by rw [hhandler]; rfl)

end Turns

/-! ## All customers together -/

/-- The message a run gives to its session. -/
def givenMessage? : Called TextCall TextCall.Answer → Option (ConversationKey × ChannelContent)
  | ⟨.runAsync app userId id message, _⟩ => some (⟨app, userId, id⟩, message)
  | _ => none

/-- The messages of one customer to the agents of one app. -/
def ConversationKey.belongs (app userId : String) (key : ConversationKey) : Bool :=
  decide (key.appName = app) && decide (key.userId = userId)

/-- The message a run gives to a session of this customer. -/
def givenTo (app userId : String) (called : Called TextCall TextCall.Answer) :
    Option (ConversationKey × ChannelContent) :=
  (givenMessage? called).filter (·.1.belongs app userId)

/-- **What a call does to the sessions**: nothing, or it creates one under its own app and customer,
    or it gives a message to one that is there. -/
theorem serveText_cases (sessions : TextSessions) (choice : TextChoice) (c : TextCall) :
    (serveText sessions choice c).1 = sessions ∨
    (∃ app userId id state, c = .session app (.createSession userId id state) ∧
      (serveText sessions choice c).1 =
        ⟨sessions.sessions.set ⟨app, userId, choice.newId.getD (id.getD "")⟩ state,
          sessions.messages⟩) ∨
    ∃ m, givenMessage? ⟨c, (serveText sessions choice c).2⟩ = some m ∧
      sessions.sessions.contains m.1 = true ∧
      (serveText sessions choice c).1 = ⟨sessions.sessions, sessions.messages ++ [m]⟩ := by
  cases c with
  | session app call =>
    cases call with
    | createSession userId id state =>
      simp only [serveText]
      split
      · exact .inl rfl
      · by_cases hrefused : choice.access = .refused
        · exact .inl (by rw [Access.perform_fst, if_pos hrefused])
        · exact .inr (.inl ⟨app, userId, id, state, rfl,
            by rw [Access.perform_fst, if_neg hrefused]⟩)
    | getSession userId id => exact .inl (by simp only [serveText, Access.perform_fst, ite_self])
    | resolveRegistryRuntimeConfig tenantId companyId =>
      exact .inl (by simp only [serveText, Access.perform_fst, ite_self])
    | loadGlobalLessons tenantId companyId =>
      exact .inl (by simp only [serveText, Access.perform_fst, ite_self])
    | _ => exact .inl rfl
  | runAsync app userId id message =>
    simp only [serveText]
    split
    · next hfound =>
        by_cases hrefused : choice.access = .refused
        · exact .inl (by rw [Access.perform_fst, if_pos hrefused])
        · exact .inr (.inr ⟨_, rfl, hfound, by rw [Access.perform_fst, if_neg hrefused]⟩)
    · exact .inl rfl
  | downloadMedia mediaId kind =>
    exact .inl (by simp only [serveText, Access.perform_fst, ite_self])
  | generateContent contents => exact .inl (by simp only [serveText, Access.perform_fst, ite_self])

section Pool

variable (cfg : WaAgents)

theorem mem_agentRuns_of_given {log : TextLog} {called : Called TextCall TextCall.Answer}
    (hmem : called ∈ log) {m : ConversationKey × ChannelContent}
    (h : givenMessage? called = some m) : ∃ run, (m.1.appName, run) ∈ agentRuns log := by
  obtain ⟨c, r⟩ := called
  cases c with
  | runAsync app userId id message =>
    obtain rfl := Option.some.inj h
    exact ⟨r, List.mem_filterMap.2 ⟨_, hmem, rfl⟩⟩
  | session app call => cases h
  | downloadMedia mediaId kind => cases h
  | generateContent contents => cases h

/-- The two runs of a turn are in different apps. -/
theorem WaAgents.apps_ne {scope : CompanyScope} {sender fallback : String}
    (h : (cfg.textTurn scope sender).fallbackRunner = some fallback) :
    (cfg.textTurn scope sender).runner ≠ fallback := by
  unfold textTurn at h ⊢
  dsimp only at h ⊢
  split at h
  · obtain rfl := Option.some.inj h
    intro heq
    have hlength := congrArg String.length heq
    rw [String.length_append, String.length_append] at hlength
    have hsuffix : "_text".length ≠ "_text_fallback".length := by decide
    exact hsuffix (Nat.add_left_cancel hlength)
  · cases h

theorem WaTurn.Allows.first {turn : WaTurn} {log : TextLog} {app userId id : String}
    {message : ChannelContent} (h : turn.Allows cfg log (.runAsync app userId id message)) :
    userId = turn.userId cfg ∧ turn.Carries log message ∧ ∀ run, (app, run) ∉ agentRuns log := by
  obtain ⟨-, carried, hcarries, huser, rfl, hrun⟩ := h
  refine ⟨huser, hcarries, fun run hmem => ?_⟩
  rcases hrun with ⟨-, hnone, -⟩ | ⟨hfallback, ⟨first, hruns, -⟩, -⟩
  · rw [hnone] at hmem
    cases hmem
  · rw [hruns, List.mem_singleton] at hmem
    exact cfg.apps_ne hfallback (congrArg Prod.fst hmem).symm

theorem givenTo_eq_some {app userId : String} {called : Called TextCall TextCall.Answer}
    {m : ConversationKey × ChannelContent} (h : givenTo app userId called = some m) :
    givenMessage? called = some m ∧ m.1.appName = app ∧ m.1.userId = userId := by
  obtain ⟨hm, hbelongs⟩ := Option.filter_eq_some_iff.1 h
  unfold ConversationKey.belongs at hbelongs
  rw [Bool.and_eq_true, decide_eq_true_iff, decide_eq_true_iff] at hbelongs
  exact ⟨hm, hbelongs⟩

/-- **One message of each turn for each app**, the customer's own. -/
theorem WaTurn.gives_one {turn : WaTurn} {log : TextLog}
    (h : CallProgram.Conforms (turn.Allows cfg) log) (app userId : String) :
    log.filterMap (givenTo app userId) = [] ∨
    ∃ m, log.filterMap (givenTo app userId) = [m] ∧ decide (turn.userId cfg = userId) = true ∧
      turn.Carries log m.2 := by
  induction log using List.reverseRecOn with
  | nil => exact .inl rfl
  | append_singleton log called ih =>
    obtain ⟨hlog, hcalled⟩ := h.of_concat
    rw [List.filterMap_append]
    cases hgiven : givenTo app userId called with
    | none =>
      rw [List.filterMap_cons_none hgiven, List.filterMap_nil, List.append_nil]
      rcases ih hlog with hnone | ⟨m, hm, huser, hcarries⟩
      · exact .inl hnone
      · exact .inr ⟨m, hm, huser, hcarries.mono (List.subset_append_left _ _)⟩
    | some m =>
      obtain ⟨hm, happ, huser⟩ := givenTo_eq_some hgiven
      rw [List.filterMap_cons_some hgiven, List.filterMap_nil]
      obtain ⟨c, r⟩ := called
      cases c with
      | session app call => cases hm
      | downloadMedia mediaId kind => cases hm
      | generateContent contents => cases hm
      | runAsync app' userId' id message =>
        obtain rfl := Option.some.inj hm
        obtain ⟨hcustomer, hcarries, hfirst⟩ := WaTurn.Allows.first cfg hcalled
        -- an earlier message for the app would be an earlier run in it
        have hnone : log.filterMap (givenTo app userId) = [] := by
          refine List.filterMap_eq_nil_iff.2 (fun earlier hmem => ?_)
          cases hearlier : givenTo app userId earlier with
          | none => rfl
          | some m' =>
            obtain ⟨hm', happ', -⟩ := givenTo_eq_some hearlier
            obtain ⟨run, hrun⟩ := mem_agentRuns_of_given hmem hm'
            rw [happ', ← happ] at hrun
            exact absurd hrun (hfirst run)
        rw [hnone, List.nil_append]
        exact .inr ⟨_, rfl, decide_eq_true (hcustomer.symm.trans huser),
          hcarries.mono (List.subset_append_left _ _)⟩

/-- The rules of every turn in the pool, its reply and its failures. -/
abbrev WaServing (turns : List WaTurn) (s : WaConversationPool) : Prop :=
  Pool.Serving (fun turn : WaTurn => turn.Keeps cfg) turns s

/-- The sessions' messages are given by runs, to sessions that are there. -/
structure MessagesGiven (s : WaConversationPool) : Prop where
  given : s.shared.messages.Sublist (s.history.filterMap givenMessage?)
  kept : ∀ m ∈ s.shared.messages, s.shared.sessions.contains m.1 = true

theorem contains_set {sessions : Dict ConversationKey Record} {key key' : ConversationKey}
    (state : Record) : (sessions.set key state).contains key' = true ↔ key' = key ∨
    sessions.contains key' = true := by
  unfold Dict.contains
  rw [Dict.get?_set]
  by_cases h : key' = key
  · rw [if_pos h]
    exact ⟨fun _ => .inl h, fun _ => rfl⟩
  · rw [if_neg h]
    exact ⟨.inr, fun hor => hor.resolve_left h⟩

theorem messagesGiven_next {s : WaConversationPool} (hs : MessagesGiven s)
    (e : WaConversationEvent) : MessagesGiven ((waConversations cfg).next s e) := by
  cases e with
  | start turn => exact ⟨hs.given, hs.kept⟩
  | resume i choice =>
    show MessagesGiven (s.resume serveText i choice)
    rcases Pool.resume_cases serveText s i choice with hsame | ⟨⟨hcall⟩⟩
    · rw [hsame]
      exact hs
    · have hgrown : s.shared.messages.Sublist
          ((s.resume serveText i choice).history.filterMap givenMessage?) := by
        rw [hcall.history, List.filterMap_append]
        exact hs.given.trans (List.sublist_append_left _ _)
      rcases serveText_cases s.shared choice hcall.call with hsame | ⟨app, userId, id, state, -,
        hcreated⟩ | ⟨m, hm, hfound, hgiven⟩
      · rw [← hcall.shared] at hsame
        exact ⟨hsame ▸ hgrown, hsame ▸ hs.kept⟩
      · rw [← hcall.shared] at hcreated
        refine ⟨by rw [hcreated]; exact hgrown, fun m hm => ?_⟩
        rw [hcreated] at hm ⊢
        exact (contains_set state).2 (.inr (hs.kept m hm))
      · rw [← hcall.shared] at hgiven
        refine ⟨?_, fun m' hm' => ?_⟩
        · rw [hgiven, hcall.history, List.filterMap_append, List.filterMap_cons_some hm,
            List.filterMap_nil]
          exact hs.given.append (List.Sublist.refl _)
        · rw [hgiven] at hm' ⊢
          rcases List.mem_append.1 hm' with hold | hnew
          · exact hs.kept m' hold
          · rw [List.mem_singleton.1 hnew]
            exact hfound

/-- Every session is the conversation of its customer. -/
def OneConversation (s : WaConversationPool) : Prop :=
  ∀ key, s.shared.sessions.contains key = true → key.id = conversationId cfg key.userId

/-- The service gives a session the id that was asked for. -/
def KeepsIds : WaConversationEvent → Prop
  | .start _ => True
  | .resume _ choice => choice.newId = none

theorem oneConversation_next {s : WaConversationPool} {turns : List WaTurn}
    (hserving : WaServing cfg turns s) (hs : OneConversation cfg s) {e : WaConversationEvent}
    (hkeeps : KeepsIds e) : OneConversation cfg ((waConversations cfg).next s e) := by
  cases e with
  | start turn => exact hs
  | resume i choice =>
    show OneConversation cfg (s.resume serveText i choice)
    rcases Pool.resume_cases serveText s i choice with hsame | ⟨⟨hcall⟩⟩
    · rw [hsame]
      exact hs
    · rcases serveText_cases s.shared choice hcall.call with hsame | ⟨app, userId, id, state,
        hcreate, hcreated⟩ | ⟨m, -, -, hgiven⟩
      · rw [← hcall.shared] at hsame
        exact fun key hkey => hs key (hsame ▸ hkey)
      · -- the turn that creates the session asks for the conversation of its customer
        have hlt : i < turns.length := by
          rw [hserving.length]
          exact (List.getElem?_eq_some_iff.1 hcall.found).1
        have hallowed : turns[i].Allows cfg hcall.log hcall.call :=
          (hserving.holds i _ _ (List.getElem?_eq_getElem hlt) hcall.found).ahead.1
        rw [hcreate] at hallowed
        obtain ⟨-, message, -, ⟨rfl, rfl, -⟩, -⟩ := hallowed
        rw [← hcall.shared] at hcreated
        intro key hkey
        rw [hcreated] at hkey
        rcases (contains_set state).1 hkey with rfl | hold
        · show choice.newId.getD _ = _
          rw [show choice.newId = none from hkeeps]
          rfl
        · exact hs key hold
      · rw [← hcall.shared] at hgiven
        exact fun key hkey => hs key (by rw [hgiven] at hkey; exact hkey)

/-- How the handling of a message ends, if it has ended: with a reply that can be sent, or for a
    reason. -/
def WaEnds (t : Thread TextCall TextCall.Answer String) : Prop :=
  match t.program with
  | .returned reply => SendableReply reply
  | .raised => WaFails cfg t.log
  | .call _ _ => True

/-- No messages have come, and there are no sessions. -/
def noConversations : WaConversationPool := ⟨.empty, [], []⟩

variable (es : List WaConversationEvent)

theorem waServing_run :
    WaServing cfg (Pool.started es) ((waConversations cfg).run noConversations es) :=
  Pool.serving_run (fun _ => CallProgram.steady_conforming (WaFails cfg)) (handler_keeps cfg) es
    (Pool.serving_empty TextSessions.empty)

theorem messagesGiven_run :
    MessagesGiven ((waConversations cfg).run noConversations es) := by
  induction es using List.reverseRecOn with
  | nil => exact ⟨List.Sublist.refl _, fun _ h => by cases h⟩
  | append_singleton es e ih =>
    rw [EventMachine.run_concat]
    exact messagesGiven_next cfg ih e

theorem oneConversation_run (hkeeps : ∀ e ∈ es, KeepsIds e) :
    OneConversation cfg ((waConversations cfg).run noConversations es) := by
  induction es using List.reverseRecOn with
  | nil => exact fun _ h => by cases h
  | append_singleton es e ih =>
    rw [EventMachine.run_concat]
    exact oneConversation_next cfg (waServing_run cfg es)
      (ih (fun e' he' => hkeeps e' (List.mem_append_left _ he')))
      (hkeeps e (List.mem_append_right _ (List.mem_singleton_self _)))

/-- **Conversations stay apart and whole**: however the messages of all customers interleave, and
    whatever the services answer, the messages an app holds of one customer come from turns of their
    own, each started for a message of that customer and carrying it as its own calls got it. A
    message that is handled to its end has a reply that can be sent, or a reason for having none.
    Where the service keeps the ids asked for, each customer has one conversation. -/
theorem waConversations_kept (es : List WaConversationEvent) :
    let s := (waConversations cfg).run noConversations es
    (∀ app userId, ∃ turns,
      turns.Subperm (((Pool.started es).zip s.threads).filter
        (fun t => decide (t.1.userId cfg = userId))) ∧
      List.Forall₂ (fun t m => t.1.Carries t.2.log m.2) turns
        (s.shared.messages.filter (·.1.belongs app userId))) ∧
    (∀ t ∈ s.threads, WaEnds cfg t) ∧
    ((∀ e ∈ es, KeepsIds e) → ∀ m ∈ s.shared.messages, m.1.id = conversationId cfg m.1.userId) := by
  intro s
  have hserving : WaServing cfg (Pool.started es) s := waServing_run cfg es
  have hgiven : MessagesGiven s := messagesGiven_run cfg es
  have haccounted : Pool.Accounted s :=
    Pool.accounted_run es (Pool.accounted_empty TextSessions.empty)
  refine ⟨fun app userId => ?_, fun t ht => ?_, fun hkeeps m hm => ?_⟩
  · -- a turn gives its session one message at most
    refine hserving.contributed haccounted (g := givenTo app userId)
      (fun turn t hturn => WaTurn.gives_one cfg hturn.called app userId) ?_
    have hfilter := hgiven.given.filter (·.1.belongs app userId)
    rwa [List.filter_filterMap] at hfilter
  · obtain ⟨i, hlt, rfl⟩ := List.getElem_of_mem ht
    have hturn := hserving.holds i _ _ (List.getElem?_eq_getElem (hserving.length ▸ hlt))
      (List.getElem?_eq_getElem hlt)
    unfold WaEnds
    split
    · next reply hreply => exact (hreply ▸ hturn.ahead : CallProgram.Obeys _ _ (.returned reply) _)
    · next hraised => exact (hraised ▸ hturn.raises : CallProgram.RaisesOnly _ .raised _)
    · exact trivial
  · exact oneConversation_run cfg es hkeeps m.1 (hgiven.kept m hm)

end Pool

end Ekaette
