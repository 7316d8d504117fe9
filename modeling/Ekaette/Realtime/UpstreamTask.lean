import Ekaette.Lib.Base64
import Ekaette.Public.RateLimit
import Ekaette.Realtime.InitializeSession

set_option autoImplicit false

/-! # Frames from the client

`upstream_task` of `realtime/stream_tasks.py` reads one websocket frame after the other: audio goes
to the live queue, a text frame is loaded as JSON and dispatched on its `type`. A message it cannot
use is answered with an error, and the loop goes on; an exception ends the task, and the session
with it.

Some members are used as they come, without a look at what they are. The task survives a run exactly
if none of its frames reaches one of these places with a value that does not fit there. -/

namespace Ekaette

/-! ## JSON values -/

/-- A string of a JSON text. An escape can leave a surrogate without its other half; such a string
    is no Unicode text, and its code points are kept. -/
inductive JsonString where
  | text (s : String)
  | unpaired (points : List ℕ)
  deriving DecidableEq

namespace JsonString

def points : JsonString → List ℕ
  | .text s => s.toList.map Char.toNat
  | .unpaired points => points

/-- `a + b`: halves that meet do not pair up. -/
def append : JsonString → JsonString → JsonString
  | .text a, .text b => .text (a ++ b)
  | a, b => .unpaired (a.points ++ b.points)

/-- Is it Unicode text? -/
def isText : JsonString → Bool
  | .text _ => true
  | .unpaired _ => false

@[simp] theorem isText_text (s : String) : (text s).isText = true := rfl

@[simp] theorem isText_append (a b : JsonString) :
    (a.append b).isText = (a.isText && b.isText) := by
  cases a <;> cases b <;> rfl

end JsonString

/-- What a JSON text stands for. -/
inductive JsonValue where
  | null
  | bool (b : Bool)
  | int (n : ℤ)
  | float (x : PyFloat)
  | str (s : JsonString)
  | list (xs : List JsonValue)
  | dict (entries : List (JsonString × JsonValue))

/-- How `json.loads` ends. -/
inductive LoadedJson where
  | value (v : JsonValue)
  /-- `JSONDecodeError` -/
  | malformed
  /-- another exception: a number with too many digits, lists in lists too deep -/
  | raises

namespace JsonValue

/-- `isinstance(v, dict)`, with the entries. -/
def dict? : JsonValue → Option (List (JsonString × JsonValue))
  | .dict es => some es
  | _ => none

/-- `isinstance(v, str)`, with the string. -/
def str? : JsonValue → Option JsonString
  | .str s => some s
  | _ => none

/-- Can it be looked up in a set? -/
def hashable : JsonValue → Bool
  | .list _ => false
  | .dict _ => false
  | _ => true

/-- `v in strings`, for a value that can be looked up. -/
def memberOf (strings : List String) : JsonValue → Bool
  | .str (.text s) => decide (s ∈ strings)
  | _ => false

/-- `None` or Unicode text. -/
def isOptionalText : JsonValue → Bool
  | .null => true
  | .str s => s.isText
  | _ => false

/-- A string and nothing around it. -/
def ofString (s : String) : JsonValue := .str (.text s)

end JsonValue

/-- A message of the client: a JSON object. -/
abbrev ClientMessage := List (JsonString × JsonValue)

/-- `message.get(key)`; `none` when the key is absent. -/
def ClientMessage.member (es : ClientMessage) (key : String) : Option JsonValue :=
  es.lookup (.text key)

/-- `message.get(key, default)`. -/
def ClientMessage.memberOr (es : ClientMessage) (key : String) (default : JsonValue) : JsonValue :=
  (ClientMessage.member es key).getD default

/-! ## What the task works with -/

/-- The validation in `types.Part(text=...)`, whose field is an optional string. Whether it takes a
    string that is no Unicode text is left open. -/
structure PartText where
  accepts : JsonValue → Bool
  accepts_of_text : ∀ v, v.isOptionalText = true → accepts v = true
  str_of_accepts : ∀ v, accepts v = true → v.isOptionalText = true ∨ v.str?.isSome = true

/-- `null` or Unicode text, or a string that the part takes although it is none. -/
def PartText.Fits (part : PartText) (v : JsonValue) : Prop :=
  v.isOptionalText = true ∨ v.str?.isSome = true ∧ part.accepts v = true

theorem PartText.fits_iff (part : PartText) (v : JsonValue) :
    part.Fits v ↔ part.accepts v = true := by
  constructor
  · rintro (htext | ⟨-, haccepts⟩)
    · exact part.accepts_of_text v htext
    · exact haccepts
  · intro haccepts
    rcases part.str_of_accepts v haccepts with htext | hstr
    · exact .inl htext
    · exact .inr ⟨hstr, haccepts⟩

structure UpstreamRuntime where
  py : StrMethods
  /-- `json.loads` -/
  loads : String → LoadedJson
  part : PartText
  /-- `str(v)` of a value that is no string; it escapes what is not printable -/
  repr : JsonValue → String
  /-- `s.strip().lower()` of a string with an unpaired surrogate, which stays in it -/
  normalizeUnpaired : List ℕ → List ℕ
  limits : RateLimits
  /-- `UPLOAD_RATE_LIMIT` -/
  uploadRateLimit : ℤ
  /-- `MAX_UPLOAD_BYTES` -/
  maxUploadBytes : ℤ
  /-- `ALLOWED_UPLOAD_MIME_TYPES` -/
  allowedUploadMimeTypes : List String
  /-- `DEFAULT_COMPANY_ID` -/
  defaultCompanyId : String
  /-- `SILENCE_NUDGE_SECONDS` -/
  silenceNudgeSeconds : ℤ
  /-- `hasattr(live_request_queue, "send_activity_start")` -/
  hasActivityStart : Bool
  /-- `hasattr(live_request_queue, "send_activity_end")` -/
  hasActivityEnd : Bool

/-- A message from the websocket. -/
inductive ClientFrame where
  | disconnect (code : ℕ)
  | bytes (data : List UInt8)
  | text (data : String)

/-- A frame, and what it finds: the clocks, and the table of the upload limit, which other
    connections change as well. -/
structure Arrival where
  frame : ClientFrame
  /-- `time.monotonic()` -/
  now : ℚ
  /-- `time.time()` -/
  clock : ℚ
  rateTable : RateTable

/-- A message to the client. -/
inductive ClientReply where
  | error (code message : String) (rest : List (String × JsonValue))
  | imageReceived
  | sessionStarted (message : PyValue)
  | clientPong (seq clientTs : JsonValue) (serverTs : ℤ)

/-- What the task does for a frame. -/
inductive UpstreamAction where
  /-- `websocket.send_text` -/
  | sendText (reply : ClientReply)
  /-- `live_request_queue.send_realtime` -/
  | sendRealtime (mimeType : JsonValue) (data : List UInt8)
  /-- `live_request_queue.send_content` -/
  | sendContent (text : JsonValue)
  | sendActivityStart
  | sendActivityEnd
  | cacheLatestImage (userId sessionId : String) (imageData : List UInt8) (mimeType : JsonValue)

/-- The exceptions that can leave the loop. -/
inductive UpstreamError where
  | loads
  | attributeError
  | keyError
  | typeError
  | validationError
  deriving DecidableEq

/-- What is done for a frame, or the exception. -/
abbrev FrameOutcome := Except UpstreamError (List UpstreamAction)

/-! ## The messages -/

inductive ClientMessageType where
  | text
  | image
  | config
  | negotiate
  | activityStart
  | activityEnd
  | clientPing
  deriving DecidableEq

/-- The type of a message; `none` for one that no branch is for. -/
def messageType (es : ClientMessage) : Option ClientMessageType :=
  match ClientMessage.memberOr es "type" (.ofString "") with
  | .str (.text s) =>
    ([("text", .text), ("image", .image), ("config", .config), ("negotiate", .negotiate),
      ("activity_start", .activityStart), ("activity_end", .activityEnd),
      ("client_ping", .clientPing)] : List (String × ClientMessageType)).lookup s
  | _ => none

section Messages

variable (rt : UpstreamRuntime) (ctx : SessionInitContext) (a : Arrival)

/-- An error message to the client. -/
def replyError (code message : String) : FrameOutcome := .ok [.sendText (.error code message [])]

variable (es : ClientMessage)

/-- The `text` branch. -/
def onText : FrameOutcome :=
  match ClientMessage.member es "text" with
  | none => .error .keyError
  | some text =>
    if rt.part.accepts text then .ok [.sendContent text] else .error .validationError

/-- `mime_type` of an image. -/
def imageMimeType : JsonValue :=
  ClientMessage.memberOr es "mimeType" (.ofString "image/jpeg")

/-- `_check_rate_limit(ctx.client_ip, "upload", UPLOAD_RATE_LIMIT)` -/
def uploadAllowed : Bool :=
  (checkRateLimit rt.limits a.rateTable ⟨ctx.clientIp, "upload", rt.uploadRateLimit, a.clock⟩).2

/-- `base64.b64decode(image_b64, validate=True)`; `none` where it raises. -/
def b64decode : JsonString → Option (List UInt8)
  | .text s => Base64.decodeStrict s.toList
  | .unpaired _ => none

/-- How `_validate_upload_bytes` raises. -/
inductive UploadError where
  /-- the MIME type cannot be looked up in a set -/
  | typeError
  | valueError (code : String)

/-- `_validate_upload_bytes`; `none` for an upload that is fine. -/
def validateUploadBytes (mimeType : JsonValue) (data : List UInt8) : Option UploadError :=
  if !mimeType.hashable then some .typeError
  else if !mimeType.memberOf rt.allowedUploadMimeTypes then some (.valueError
    "MIME_TYPE_NOT_ALLOWED")
  else if data.length = 0 then some (.valueError "EMPTY_UPLOAD")
  else if (data.length : ℤ) > rt.maxUploadBytes then some (.valueError "UPLOAD_TOO_LARGE")
  else none

/-- The answer to an upload that is not fine. -/
def replyUploadError (code : String) : FrameOutcome :=
  if code = "UPLOAD_TOO_LARGE" then
    replyError "UPLOAD_TOO_LARGE" ("Image exceeds " ++ toString rt.maxUploadBytes ++ " bytes")
  else if code = "MIME_TYPE_NOT_ALLOWED" then
    replyError "MIME_TYPE_NOT_ALLOWED" "Unsupported image MIME type"
  else replyError "INVALID_UPLOAD" "Invalid upload payload"

/-- The `image` branch. -/
def onImage : FrameOutcome :=
  if !uploadAllowed rt ctx a then replyError "RATE_LIMIT_EXCEEDED" "Upload rate limit exceeded"
  else match (ClientMessage.memberOr es "data" .null).str? with
  | none => replyError "INVALID_IMAGE_PAYLOAD" "Image payload must be base64 string"
  | some imageB64 =>
    match b64decode imageB64 with
    | none => replyError "INVALID_BASE64_IMAGE" "Image payload is not valid base64"
    | some imageData =>
      match validateUploadBytes rt (imageMimeType es) imageData with
      | some .typeError => .error .typeError
      | some (.valueError code) => replyUploadError rt code
      | none => .ok [
          .cacheLatestImage ctx.userId ctx.resolvedSessionId imageData (imageMimeType es),
          .sendText .imageReceived,
          .sendRealtime (imageMimeType es) imageData,
          .sendContent (.ofString ("Customer uploaded a device photo. " ++
            "Transfer to vision_agent and call analyze_device_image_tool now."))]

/-- `requested_industry` of a `config` message. -/
def requestedIndustry : JsonString :=
  match (ClientMessage.memberOr es "industry" (.ofString ctx.industry)).str?.getD
      (.text ctx.industry) with
  | .text s =>
    let industry := rt.py.lower (PyStr.strip s)
    .text (if industry = "" then ctx.industry else industry)
  | .unpaired points => .unpaired (rt.normalizeUnpaired points)

/-- `_normalize_company_id` of any value. -/
def normalizeCompanyIdValue : JsonValue → String
  | .str (.text s) => normalizeId rt.py rt.defaultCompanyId (some s)
  | _ => rt.defaultCompanyId

/-- `requested_company` of a `config` message. -/
def requestedCompany : String :=
  normalizeCompanyIdValue rt
    (ClientMessage.memberOr es "companyId" (ClientMessage.memberOr es "company_id"
      (.ofString ctx.companyId)))

/-- What `append_canonical_lock_fields` adds. -/
def canonicalLockFields (sessionState : Record) : List (String × JsonValue) :=
  ([("tenantId", "app:tenant_id"), ("industryTemplateId", "app:industry_template_id"),
    ("registryVersion", "app:registry_version")] : List (String × String)).filterMap fun field =>
      ((sessionState.value field.2).str?.filter (· ≠ "")).map fun s => (field.1, .ofString s)

/-- The voice of a `session_started` message that answers a `config` message. -/
def currentVoice : String :=
  ((ctx.sessionState.value "app:voice").str?.filter (· ≠ "")).getD
    (voiceForIndustry rt.py ctx.sessionIndustry)

/-- The `config` branch. -/
def onConfig : FrameOutcome :=
  if requestedIndustry rt ctx es ≠ .text ctx.sessionIndustry then
    .ok [.sendText (.error "INDUSTRY_LOCKED"
      "Industry is set during onboarding and cannot be changed during an active session."
      ([("industry", .ofString ctx.sessionIndustry), ("companyId", .ofString ctx.companyId),
        ("requestedIndustry", .str (requestedIndustry rt ctx es))] ++ canonicalLockFields
          ctx.sessionState))]
  else if requestedCompany rt ctx es ≠ ctx.companyId then
    .ok [.sendText (.error "COMPANY_LOCKED"
      "Company profile is selected during onboarding and cannot be changed during an active session."
      ([("companyId", .ofString ctx.companyId),
        ("requestedCompanyId", .ofString (requestedCompany rt ctx es)),
        ("industry", .ofString ctx.sessionIndustry)] ++ canonicalLockFields ctx.sessionState))]
  else
    .ok [.sendText (.sessionStarted
      (buildSessionStartedMessage { ctx with sessionVoice := currentVoice rt ctx }))]

/-- A value in a formatted string. -/
def formatValue : JsonValue → JsonString
  | .str s => s
  | v => .text (rt.repr v)

/-- `action` and `amount` of a `negotiate` message. -/
def negotiateAction : JsonValue :=
  ClientMessage.memberOr es "action" (.ofString "counter")

def negotiateAmount : JsonValue :=
  ClientMessage.memberOr es "counterOffer" (.int 0)

/-- `f"Customer negotiation: {action}. Counter-offer amount: {amount}"` -/
def negotiationText : JsonString :=
  (((JsonString.text "Customer negotiation: ").append (formatValue rt (negotiateAction es))).append
    (.text ". Counter-offer amount: ")).append (formatValue rt (negotiateAmount es))

/-- The `negotiate` branch. -/
def onNegotiate : FrameOutcome :=
  if rt.part.accepts (.str (negotiationText rt es)) then .ok
    [.sendContent (.str (negotiationText rt es))]
  else .error .validationError

/-- The dispatch on `type`. -/
def onMessage : FrameOutcome :=
  match messageType es with
  | some .text => onText rt es
  | some .image => onImage rt ctx a es
  | some .config => onConfig rt ctx es
  | some .negotiate => onNegotiate rt es
  | some .activityStart =>
    .ok (if ctx.manualVadActive && rt.hasActivityStart then [.sendActivityStart] else [])
  | some .activityEnd =>
    .ok (if ctx.manualVadActive && rt.hasActivityEnd then [.sendActivityEnd] else [])
  | some .clientPing =>
    .ok [.sendText (.clientPong (ClientMessage.memberOr es "seq" .null)
      (ClientMessage.memberOr es "clientTs" .null) (a.clock * 1000).floor)]
  | none => replyError "UNSUPPORTED_MESSAGE_TYPE" "Unsupported client message type"

/-- A text frame. -/
def onTextFrame (data : String) : FrameOutcome :=
  match rt.loads data with
  | .malformed => replyError "INVALID_JSON" "Malformed JSON payload"
  | .raises => .error .loads
  | .value v =>
    match v.dict? with
    | none => .error .attributeError
    | some es => onMessage rt ctx a es

end Messages

/-! ## The loop -/

/-- `SilenceState`, as far as the task writes it. -/
structure SilenceState where
  lastClientActivity : ℚ
  silenceNudgeCount : ℕ
  agentBusy : Bool
  silenceNudgeDueAt : ℚ
  silenceNudgeInterval : ℚ
  awaitingAgentResponse : Bool
  responseNudgeCount : ℕ

/-- `_reset_silence_nudge_schedule` -/
def resetSilenceNudgeSchedule (silenceNudgeSeconds : ℤ) (now : ℚ) : ℚ × ℚ :=
  let baseInterval : ℚ := max 1 silenceNudgeSeconds
  (now + baseInterval, baseInterval)

/-- The client was active; `busy` when the agent has something to do now. -/
def SilenceState.onActivity (silenceNudgeSeconds : ℤ) (now : ℚ) (busy : Bool) (s : SilenceState) :
    SilenceState where
  lastClientActivity := now
  silenceNudgeCount := 0
  agentBusy := busy || s.agentBusy
  silenceNudgeDueAt := (resetSilenceNudgeSchedule silenceNudgeSeconds now).1
  silenceNudgeInterval := (resetSilenceNudgeSchedule silenceNudgeSeconds now).2
  awaitingAgentResponse := false
  responseNudgeCount := 0

/-- Does a message of this type count as activity, and is the agent busy with it? -/
def ClientMessageType.activity : ClientMessageType → Option Bool
  | .text => some true
  | .image => some true
  | .negotiate => some true
  | .activityStart => some false
  | _ => none

/-- How the task ended. -/
inductive UpstreamEnd where
  /-- `WebSocketDisconnect` -/
  | disconnected (code : ℕ)
  | raised (error : UpstreamError)
  deriving DecidableEq

structure UpstreamState where
  silence : SilenceState
  ended : Option UpstreamEnd

section Loop

variable (rt : UpstreamRuntime) (ctx : SessionInitContext)

/-- The silence state after a text frame. -/
def silenceAfterText (a : Arrival) (data : String) (silence : SilenceState) : SilenceState :=
  match rt.loads data with
  | .value (.dict es) =>
    match (messageType es).bind ClientMessageType.activity with
    | some busy => silence.onActivity rt.silenceNudgeSeconds a.now busy
    | none => silence
  | _ => silence

/-- One round of the loop; a task that has ended does nothing more. -/
def upstreamStep (s : UpstreamState) (a : Arrival) : UpstreamState × FrameOutcome :=
  if s.ended.isSome then (s, .ok [])
  else match a.frame with
  | .disconnect code => ({ s with ended := some (.disconnected code) }, .ok [])
  | .bytes data =>
    ({ s with silence := s.silence.onActivity rt.silenceNudgeSeconds a.now true },
      .ok [.sendRealtime (.ofString "audio/pcm;rate=16000") data])
  | .text data =>
    let silence := silenceAfterText rt a data s.silence
    match onTextFrame rt ctx a data with
    | .ok actions => ({ s with silence }, .ok actions)
    | .error e => ({ silence, ended := some (.raised e) }, .error e)

/-- `upstream_task` -/
def upstreamTask : EventMachine UpstreamState Arrival FrameOutcome where
  step := upstreamStep rt ctx

end Loop

/-! ## Frames the task can use -/

/-- `action` and `counterOffer` as Unicode text: each is text, or no string at all. -/
def hasTextOffer (es : ClientMessage) : Bool :=
  ((negotiateAction es).str?.all JsonString.isText) &&
    ((negotiateAmount es).str?.all JsonString.isText)

/-- The bytes of an image, where `data` is a string that is base64. -/
def imageBytes (es : ClientMessage) : Option (List UInt8) :=
  (ClientMessage.memberOr es "data" .null).str?.bind b64decode

section Frames

variable (rt : UpstreamRuntime) (ctx : SessionInitContext)

variable (a : Arrival)

/-- A message the task has a use for: a text, an image of an allowed type and size within the limit
    of uploads, the industry and the company of the session, an offer, a sign of activity or a
    ping. -/
def UsableMessage (es : ClientMessage) : Prop :=
  match messageType es with
  | some .text => ∃ text, ClientMessage.member es "text" = some text ∧ rt.part.Fits text
  | some .image =>
    uploadAllowed rt ctx a = true ∧ ∃ data mimeType, imageBytes es = some data ∧
      imageMimeType es = .ofString mimeType ∧ mimeType ∈ rt.allowedUploadMimeTypes ∧
      0 < data.length ∧ (data.length : ℤ) ≤ rt.maxUploadBytes
  | some .config =>
    requestedIndustry rt ctx es = .text ctx.sessionIndustry ∧ requestedCompany rt ctx es =
      ctx.companyId
  | some .negotiate =>
    hasTextOffer es = true ∨ rt.part.accepts (.str (negotiationText rt es)) = true
  | some .activityStart => True
  | some .activityEnd => True
  | some .clientPing => True
  | none => False

/-- A frame the task can use. -/
def Usable : Prop :=
  match a.frame with
  | .text data => ∃ es, rt.loads data = .value (.dict es) ∧ UsableMessage rt ctx a es
  | _ => True

/-- A message whose members fit where they are used unchecked: a `text` is there and fits a part; a
    MIME type that cannot be looked up in a set comes without base64 or beyond the limit of uploads;
    an offer is text. -/
def FittingMessage (es : ClientMessage) : Prop :=
  match messageType es with
  | some .text => ∃ text, ClientMessage.member es "text" = some text ∧ rt.part.Fits text
  | some .image =>
    (imageMimeType es).hashable = true ∨ uploadAllowed rt ctx a = false ∨ imageBytes es = none
  | some .negotiate =>
    hasTextOffer es = true ∨ rt.part.accepts (.str (negotiationText rt es)) = true
  | _ => True

/-- A text frame that is no JSON, or a JSON object whose members fit; any other frame. -/
def Fitting : Prop :=
  match a.frame with
  | .text data =>
    rt.loads data = .malformed ∨ ∃ es, rt.loads data = .value (.dict es) ∧
      FittingMessage rt ctx a es
  | _ => True

/-- The code of a disconnect message. -/
def Arrival.disconnectCode : Option ℕ :=
  match a.frame with
  | .disconnect code => some code
  | _ => none

/-- A frame was answered with an error message. -/
def AnsweredWithError (outcome : FrameOutcome) : Prop :=
  ∃ actions code message rest,
    outcome = .ok actions ∧ UpstreamAction.sendText (.error code message rest) ∈ actions

/-- The task survives these frames: it ends on the first disconnect message and on nothing else, and
    every frame it read and could not use was answered with an error message. -/
structure Survives (silence : SilenceState) (arrivals : List Arrival) : Prop where
  ended : ((upstreamTask rt ctx).run ⟨silence, none⟩ arrivals).ended =
    (arrivals.findSome? Arrival.disconnectCode).map UpstreamEnd.disconnected
  answered : ∀ t ∈ (upstreamTask rt ctx).trace ⟨silence, none⟩ arrivals, t.pre.ended = none →
    ¬ Usable rt ctx t.event → AnsweredWithError t.answer

/-! ## One frame

Each branch returns exactly if the members it uses fit, and then it has used the message or answered
with an error. -/

/-- An outcome for a message that `fits` and is `usable` under these conditions. -/
structure Handles (fits usable : Prop) (outcome : FrameOutcome) : Prop where
  returns_iff : (∃ actions, outcome = .ok actions) ↔ fits
  answered : fits → ¬ usable → AnsweredWithError outcome

theorem answeredWithError_error (code message : String) (rest : List (String × JsonValue)) :
    AnsweredWithError (.ok [.sendText (.error code message rest)]) :=
  ⟨_, code, message, rest, rfl, List.mem_singleton.2 rfl⟩

theorem answeredWithError_replyError (code message : String) :
    AnsweredWithError (replyError code message) := answeredWithError_error code message []

theorem handles_of_answered {fits usable : Prop} {outcome : FrameOutcome} (hfits : fits)
    (h : AnsweredWithError outcome) : Handles fits usable outcome := by
  obtain ⟨actions, code, message, rest, hok, hmem⟩ := h
  refine ⟨⟨fun _ => hfits, fun _ => ⟨actions, hok⟩⟩, fun _ _ => ?_⟩
  exact ⟨actions, code, message, rest, hok, hmem⟩

/-- What uses a usable message fits. -/
theorem handles_of_used {fits usable : Prop} (hfits : fits) (husable : usable)
    (actions : List UpstreamAction) : Handles fits usable (.ok actions) :=
  ⟨⟨fun _ => hfits, fun _ => ⟨actions, rfl⟩⟩, fun _ hnot => absurd husable hnot⟩

theorem handles_of_raised {fits usable : Prop} (hfits : ¬ fits) (e : UpstreamError) :
    Handles fits usable (.error e) := by
  refine ⟨⟨?_, fun h => absurd h hfits⟩, fun h => absurd h hfits⟩
  rintro ⟨actions, hactions⟩
  cases hactions

variable (es : ClientMessage)

theorem onText_handles :
    Handles (∃ text, ClientMessage.member es "text" = some text ∧ rt.part.Fits text)
      (∃ text, ClientMessage.member es "text" = some text ∧ rt.part.Fits text) (onText rt es) := by
  unfold onText
  cases hmember : ClientMessage.member es "text" with
  | none => exact handles_of_raised (by simp) _
  | some text =>
    show Handles _ _ (if rt.part.accepts text then _ else _)
    have hfits := rt.part.fits_iff text
    cases haccepts : rt.part.accepts text with
    | true => exact handles_of_used ⟨text, rfl, hfits.2 haccepts⟩ ⟨text, rfl, hfits.2 haccepts⟩ _
    | false => exact handles_of_raised (by simp [hfits, haccepts]) _

/-- An upload is fine exactly if its type is an allowed one and its size is within the bounds. -/
theorem validateUploadBytes_eq_none {mimeType : JsonValue} {data : List UInt8}
    (h : validateUploadBytes rt mimeType data = none) :
    ∃ s, mimeType = .ofString s ∧ s ∈ rt.allowedUploadMimeTypes ∧ 0 < data.length ∧
      (data.length : ℤ) ≤ rt.maxUploadBytes := by
  unfold validateUploadBytes at h
  split_ifs at h with hhash hmember hempty hlarge
  have hallowed : mimeType.memberOf rt.allowedUploadMimeTypes = true := by simpa using hmember
  cases mimeType with
  | str s =>
    cases s with
    | text s =>
      have hmem : s ∈ rt.allowedUploadMimeTypes := by simpa [JsonValue.memberOf] using hallowed
      exact ⟨s, rfl, hmem, by omega, by omega⟩
    | unpaired points => simp [JsonValue.memberOf] at hallowed
  | _ => simp [JsonValue.memberOf] at hallowed

/-- The check raises something else than it means to exactly where the type cannot be looked up. -/
theorem validateUploadBytes_typeError_iff (mimeType : JsonValue) (data : List UInt8) :
    validateUploadBytes rt mimeType data = some .typeError ↔ mimeType.hashable = false := by
  unfold validateUploadBytes
  cases hhash : mimeType.hashable with
  | false => simp
  | true =>
    simp only [Bool.not_true, Bool.false_eq_true, if_false, iff_false, Bool.true_eq_false]
    split_ifs <;> simp

theorem answeredWithError_replyUploadError (code : String) :
    AnsweredWithError (replyUploadError rt code) := by
  unfold replyUploadError
  split_ifs
  · exact answeredWithError_replyError _ _
  · exact answeredWithError_replyError _ _
  · exact answeredWithError_replyError _ _

theorem onImage_handles (es : ClientMessage) :
    Handles ((imageMimeType es).hashable = true ∨ uploadAllowed rt ctx a = false ∨
      imageBytes es = none)
      (uploadAllowed rt ctx a = true ∧ ∃ data mimeType, imageBytes es = some data ∧
        imageMimeType es = .ofString mimeType ∧ mimeType ∈ rt.allowedUploadMimeTypes ∧
        0 < data.length ∧ (data.length : ℤ) ≤ rt.maxUploadBytes) (onImage rt ctx a es) := by
  unfold onImage
  cases hallowed : uploadAllowed rt ctx a with
  | false => exact handles_of_answered (.inr (.inl rfl)) (answeredWithError_replyError _ _)
  | true =>
    simp only [Bool.not_true, Bool.false_eq_true, if_false]
    cases hstr : (ClientMessage.memberOr es "data" .null).str? with
    | none =>
      have hbytes : imageBytes es = none := by rw [imageBytes, hstr, Option.bind_none]
      exact handles_of_answered (.inr (.inr hbytes)) (answeredWithError_replyError _ _)
    | some imageB64 =>
      have hbytes : imageBytes es = b64decode imageB64 := by rw [imageBytes, hstr, Option.bind_some]
      dsimp only
      cases hdecode : b64decode imageB64 with
      | none =>
        exact handles_of_answered (.inr (.inr (hbytes.trans hdecode)))
          (answeredWithError_replyError _ _)
      | some data =>
        dsimp only
        have hsome := hbytes.trans hdecode
        have htype := validateUploadBytes_typeError_iff rt (imageMimeType es) data
        cases hvalid : validateUploadBytes rt (imageMimeType es) data with
        | none =>
          obtain ⟨mimeType, hmime, hin, hpos, hle⟩ := validateUploadBytes_eq_none rt hvalid
          refine handles_of_used (.inl ?_) ⟨trivial, data, mimeType, hsome, hmime, hin, hpos, hle⟩ _
          rw [hmime]
          rfl
        | some e =>
          cases e with
          | typeError =>
            refine handles_of_raised ?_ _
            simp [htype.1 hvalid, hsome]
          | valueError code =>
            have hhash : (imageMimeType es).hashable = true := by
              by_contra hnot
              rw [Bool.not_eq_true] at hnot
              rw [htype.2 hnot] at hvalid
              cases hvalid
            exact handles_of_answered (.inl hhash) (answeredWithError_replyUploadError rt code)

theorem onConfig_handles :
    Handles True (requestedIndustry rt ctx es = .text ctx.sessionIndustry ∧
      requestedCompany rt ctx es = ctx.companyId) (onConfig rt ctx es) := by
  unfold onConfig
  split_ifs with hindustry hcompany
  · exact handles_of_answered trivial (answeredWithError_error _ _ _)
  · exact handles_of_answered trivial (answeredWithError_error _ _ _)
  · exact handles_of_used trivial ⟨not_not.1 hindustry, not_not.1 hcompany⟩ _

theorem isText_formatValue (v : JsonValue) :
    (formatValue rt v).isText = v.str?.all JsonString.isText := by
  cases v <;> rfl

theorem isText_negotiationText :
    (negotiationText rt es).isText = hasTextOffer es := by
  simp only [negotiationText, JsonString.isText_append, JsonString.isText_text, Bool.true_and,
    Bool.and_true, isText_formatValue, hasTextOffer]

theorem accepts_negotiationText {es : ClientMessage} (h : hasTextOffer es = true) :
    rt.part.accepts (.str (negotiationText rt es)) = true :=
  rt.part.accepts_of_text _ ((isText_negotiationText rt es).trans h)

theorem onNegotiate_handles :
    Handles (hasTextOffer es = true ∨ rt.part.accepts (.str (negotiationText rt es)) = true)
      (hasTextOffer es = true ∨ rt.part.accepts (.str (negotiationText rt es)) = true)
      (onNegotiate rt es) := by
  unfold onNegotiate
  cases haccepts : rt.part.accepts (.str (negotiationText rt es)) with
  | true => exact handles_of_used (.inr rfl) (.inr rfl) _
  | false =>
    refine handles_of_raised ?_ _
    rintro (htext | h)
    · rw [accepts_negotiationText rt htext] at haccepts
      cases haccepts
    · cases h

/-- The dispatch, one case per type. -/
theorem onMessage_handles (es : ClientMessage) :
    Handles (FittingMessage rt ctx a es) (UsableMessage rt ctx a es) (onMessage rt ctx a es) := by
  unfold FittingMessage UsableMessage onMessage
  cases messageType es with
  | none => exact handles_of_answered trivial (answeredWithError_replyError _ _)
  | some type =>
    cases type with
    | text => exact onText_handles rt es
    | image => exact onImage_handles rt ctx a es
    | config => exact onConfig_handles rt ctx es
    | negotiate => exact onNegotiate_handles rt es
    | activityStart => exact handles_of_used trivial trivial _
    | activityEnd => exact handles_of_used trivial trivial _
    | clientPing => exact handles_of_used trivial trivial _

theorem onTextFrame_handles {data : String} (hframe : a.frame = .text data) :
    Handles (Fitting rt ctx a) (Usable rt ctx a) (onTextFrame rt ctx a data) := by
  unfold Fitting Usable onTextFrame
  rw [hframe]
  show Handles (rt.loads data = _ ∨ _) _ _
  cases hloads : rt.loads data with
  | malformed => exact handles_of_answered (.inl rfl) (answeredWithError_replyError _ _)
  | raises => exact handles_of_raised (by simp) _
  | value v =>
    cases v with
    | dict es =>
      have h := onMessage_handles rt ctx a es
      refine ⟨h.returns_iff.trans (by simp), fun hfits hnot => h.answered ?_ ?_⟩
      · simpa using hfits
      · exact fun husable => hnot ⟨es, hloads, husable⟩
    | _ => exact handles_of_raised (by simp) _

/-! ## The run -/

theorem disconnectCode_of_text {a : Arrival} {data : String} (h : a.frame = .text data) :
    a.disconnectCode = none := by
  rw [Arrival.disconnectCode, h]

theorem run_of_ended {s : UpstreamState} (h : s.ended.isSome = true) (arrivals : List Arrival) :
    (upstreamTask rt ctx).run s arrivals = s ∧
      ∀ t ∈ (upstreamTask rt ctx).trace s arrivals, t.pre.ended ≠ none := by
  induction arrivals with
  | nil => simp
  | cons a arrivals ih =>
    have hnext : (upstreamTask rt ctx).next s a = s := by
      show (upstreamStep rt ctx s a).1 = s
      rw [upstreamStep, if_pos h]
    rw [EventMachine.run_cons, EventMachine.trace_cons, hnext, List.forall_mem_cons]
    exact ⟨ih.1, Option.isSome_iff_ne_none.1 h, ih.2⟩

/-- A disconnect message ends the task, whatever comes after it. -/
theorem survives_of_disconnect {a : Arrival} {code : ℕ} (hframe : a.frame = .disconnect code)
    (silence : SilenceState) (arrivals : List Arrival) :
    Survives rt ctx silence (a :: arrivals) := by
  have hcode : a.disconnectCode = some code := by rw [Arrival.disconnectCode, hframe]
  have hnext : (upstreamTask rt ctx).next ⟨silence, none⟩ a =
      ⟨silence, some (.disconnected code)⟩ := by
    show (upstreamStep rt ctx ⟨silence, none⟩ a).1 = _
    simp [upstreamStep, hframe]
  obtain ⟨hrun, htrace⟩ :=
    run_of_ended rt ctx (s := ⟨silence, some (.disconnected code)⟩) rfl arrivals
  constructor
  · rw [EventMachine.run_cons, hnext, hrun, List.findSome?_cons, hcode]
    rfl
  · intro t ht hended hnot
    rw [EventMachine.trace_cons, hnext, List.mem_cons] at ht
    rcases ht with rfl | ht
    · exact absurd (show Usable rt ctx a by rw [Usable, hframe]; trivial) hnot
    · exact absurd hended (htrace t ht)

/-- After an exception the task is over without a disconnect. -/
theorem not_survives_of_raised {a : Arrival} {silence silence' : SilenceState} {e : UpstreamError}
    {outcome : FrameOutcome}
    (hstep : upstreamStep rt ctx ⟨silence, none⟩ a = (⟨silence', some (.raised e)⟩, outcome))
    (arrivals : List Arrival) : ¬ Survives rt ctx silence (a :: arrivals) := by
  intro h
  have hnext : (upstreamTask rt ctx).next ⟨silence, none⟩ a = ⟨silence', some (.raised e)⟩ := by
    show (upstreamStep rt ctx ⟨silence, none⟩ a).1 = _
    rw [hstep]
  have hended := h.ended
  rw [EventMachine.run_cons, hnext, (run_of_ended rt ctx rfl arrivals).1] at hended
  cases hcode : (a :: arrivals).findSome? Arrival.disconnectCode with
  | none => simp [hcode] at hended
  | some code => simp [hcode] at hended

/-- A frame that leaves the task running. -/
theorem survives_cons {a : Arrival} {silence silence' : SilenceState} {outcome : FrameOutcome}
    (hcode : a.disconnectCode = none)
    (hstep : upstreamStep rt ctx ⟨silence, none⟩ a = (⟨silence', none⟩, outcome))
    (arrivals : List Arrival) :
    Survives rt ctx silence (a :: arrivals) ↔
      (¬ Usable rt ctx a → AnsweredWithError outcome) ∧ Survives rt ctx silence' arrivals := by
  have hnext : (upstreamTask rt ctx).next ⟨silence, none⟩ a = ⟨silence', none⟩ := by
    show (upstreamStep rt ctx ⟨silence, none⟩ a).1 = _
    rw [hstep]
  have hanswer : ((upstreamTask rt ctx).entry ⟨silence, none⟩ a).answer = outcome := by
    show (upstreamStep rt ctx ⟨silence, none⟩ a).2 = _
    rw [hstep]
  have hfind : (a :: arrivals).findSome? Arrival.disconnectCode =
      arrivals.findSome? Arrival.disconnectCode := by rw [List.findSome?_cons, hcode]
  constructor
  · rintro ⟨hended, hanswered⟩
    rw [EventMachine.run_cons, hnext, hfind] at hended
    rw [EventMachine.trace_cons, hnext, List.forall_mem_cons, hanswer] at hanswered
    exact ⟨hanswered.1 rfl, hended, hanswered.2⟩
  · rintro ⟨houtcome, hended, hanswered⟩
    constructor
    · rw [EventMachine.run_cons, hnext, hfind]
      exact hended
    · rw [EventMachine.trace_cons, hnext, List.forall_mem_cons, hanswer]
      exact ⟨fun _ => houtcome, hanswered⟩

/-- **The task survives a run exactly if every text frame before the first disconnect is fitting**:
    it is no JSON, or it is an object whose members fit where they are used unchecked. -/
theorem upstreamTask_survives_iff (silence : SilenceState) (arrivals : List Arrival) :
    Survives rt ctx silence arrivals ↔
      ∀ a ∈ arrivals.takeWhile (fun a => a.disconnectCode.isNone), Fitting rt ctx a := by
  induction arrivals generalizing silence with
  | nil => exact ⟨fun _ a ha => by simp at ha, fun _ => ⟨rfl, fun t ht => by simp at ht⟩⟩
  | cons a arrivals ih =>
    cases hframe : a.frame with
    | disconnect code =>
      have hcode : a.disconnectCode = some code := by rw [Arrival.disconnectCode, hframe]
      have hsurvives := survives_of_disconnect rt ctx hframe silence arrivals
      simp [hcode, hsurvives]
    | bytes data =>
      have hcode : a.disconnectCode = none := by rw [Arrival.disconnectCode, hframe]
      have husable : Usable rt ctx a := by rw [Usable, hframe]; trivial
      have hfitting : Fitting rt ctx a := by rw [Fitting, hframe]; trivial
      rw [survives_cons rt ctx hcode (by simp only [upstreamStep, hframe]; rfl), ih]
      simp [hcode, husable, hfitting]
    | text data =>
      have hcode := disconnectCode_of_text hframe
      have hhandles := onTextFrame_handles rt ctx a hframe
      cases houtcome : onTextFrame rt ctx a data with
      | ok actions =>
        have hfitting : Fitting rt ctx a := hhandles.returns_iff.1 ⟨actions, houtcome⟩
        have hanswered := hhandles.answered hfitting
        rw [houtcome] at hanswered
        rw [survives_cons rt ctx hcode (by simp only [upstreamStep, hframe, houtcome]; rfl), ih,
          and_iff_right hanswered]
        simp [hcode, hfitting]
      | error e =>
        have hnot : ¬ Fitting rt ctx a := by
          intro hfitting
          obtain ⟨actions, hactions⟩ := hhandles.returns_iff.2 hfitting
          rw [houtcome] at hactions
          cases hactions
        have hraised : ¬ Survives rt ctx silence (a :: arrivals) :=
          not_survives_of_raised rt ctx (by simp only [upstreamStep, hframe, houtcome]; rfl)
            arrivals
        simp [hcode, hnot, hraised]

end Frames

/-! ## A text message without a text -/

/-- A part that takes every string. -/
def optionalStringPart : PartText where
  accepts v := v.isOptionalText || v.str?.isSome
  accepts_of_text := by simp +contextual
  str_of_accepts := by simp

/-- The text of the message. -/
def textlessMessage : String := "\x7b\"type\": \"text\"\x7d"

/-- A deployment with the default settings; of JSON texts it knows this one. -/
def voiceRuntime : UpstreamRuntime where
  py := .ascii
  loads data :=
    if data = textlessMessage then .value (.dict [(.text "type", .ofString "text")]) else .malformed
  part := optionalStringPart
  repr _ := ""
  normalizeUnpaired := id
  limits := ⟨60, 5000⟩
  uploadRateLimit := 20
  maxUploadBytes := 10485760
  allowedUploadMimeTypes := ["image/jpeg", "image/png", "image/webp", "image/heic", "image/heif"]
  defaultCompanyId := "ekaette-electronics"
  silenceNudgeSeconds := 8
  hasActivityStart := true
  hasActivityEnd := true

def voiceContext : SessionInitContext where
  userId := "ada"
  resolvedSessionId := "s-1"
  clientIp := "10.0.0.7"
  modelName := "gemini-live"
  isNativeAudio := false
  industry := "electronics"
  sessionIndustry := "electronics"
  companyId := "ekaette-electronics"
  tenantId := "public"
  requestedTemplateId := none
  sessionState := .empty
  sessionVoice := "Aoede"
  manualVadActive := false
  runConfig := .text none

/-- `create_initial_silence_state` at time 0. -/
def initialSilence : SilenceState where
  lastClientActivity := 0
  silenceNudgeCount := 0
  agentBusy := false
  silenceNudgeDueAt := 8
  silenceNudgeInterval := 8
  awaitingAgentResponse := false
  responseNudgeCount := 0

def textWithoutText : Arrival := ⟨.text textlessMessage, 1, 1, ⟨.empty, 0⟩⟩

/-- A text message without its text ends the session. -/
theorem upstreamTask_textWithoutText :
    ¬ Survives voiceRuntime voiceContext initialSilence [textWithoutText] := by
  have hmember : (JsonString.text "text" == .text "type") = false := by decide
  have houtcome : onTextFrame voiceRuntime voiceContext textWithoutText textlessMessage =
      .error .keyError := by
    simp [onTextFrame, voiceRuntime, JsonValue.dict?, onMessage, messageType, onText,
      ClientMessage.memberOr, ClientMessage.member, JsonValue.ofString, List.lookup_cons, hmember]
  have hstep : upstreamStep voiceRuntime voiceContext ⟨initialSilence, none⟩ textWithoutText =
      (⟨silenceAfterText voiceRuntime textWithoutText textlessMessage initialSilence,
        some (.raised .keyError)⟩, .error .keyError) := by
    simp only [upstreamStep, show textWithoutText.frame = .text textlessMessage from rfl, houtcome]
    rfl
  exact not_survives_of_raised voiceRuntime voiceContext hstep []

end Ekaette
