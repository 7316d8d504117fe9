import Ekaette.Lib.Base64
import Ekaette.Lib.PyNumber
import Ekaette.Lib.Raising

set_option autoImplicit false
set_option mvcgen.warning false

/-! # The downstream task of a live session

`downstream_task` (`src/app/api/v1/realtime/stream_tasks.py`) turns the events of the live model
into messages for the client. Its local variables are the state of a monad in which a step may
raise: what was sent and assigned before stays, the rest of the event is given up, and the loop goes
on with the next event.

Whether a send goes through is up to the client's socket, so each event comes with the answers the
socket gives to the sends made for it. The bookkeeping of the silence watchdog and the running cost
of the session, which decide nothing here, are left out. -/

namespace Ekaette

open Std.Do

/-! ## Messages and events -/

/-- Whose speech a transcription is. -/
inductive SpeakerRole where
  | user
  | agent
  deriving DecidableEq

/-- The status an `agent_status` message reports. -/
inductive AgentStatus where
  | active
  | idle
  deriving DecidableEq

/-- What the client is sent. -/
inductive ServerMessage where
  | audio (bytes : List UInt8)
  | transcription (role : SpeakerRole) (text : String) (isPartial : Bool)
  | interrupted
  | agentTransfer (source target : String)
  | agentStatus (agent : String) (status : AgentStatus)
  | structured (payload : List (String × PyValue))
  | telemetry (promptTokens completionTokens totalTokens : ℕ) (session : ℕ × ℕ × ℕ)
  | sessionEnding (reason : String) (resumptionToken : Option String) (timeLeftMs : Option ℤ)

/-- The data of an inline part: raw bytes or base64 text. -/
inductive InlineBytes where
  | bytes (data : List UInt8)
  | base64 (text : String)

/-- `bool(data)`. -/
def InlineBytes.truthy : InlineBytes → Bool
  | .bytes data => !data.isEmpty
  | .base64 text => text ≠ ""

/-- The audio bytes of an inline part; `none` where `base64.b64decode` raises. -/
def InlineBytes.decode? : InlineBytes → Option (List UInt8)
  | .bytes data => some data
  | .base64 text =>
    if text.toList.all (fun c => c.toNat < 128) then Base64.decode text.toList else none

/-- One part of the content of an event. An absent text is empty. -/
structure ContentPart where
  inlineData : Option (InlineBytes × Option String) := none
  text : String := ""

/-- The audio of a part: inline data of an audio type. -/
def ContentPart.audio? (part : ContentPart) : Option InlineBytes :=
  match part.inlineData with
  | some (data, some mimeType) =>
    if data.truthy && PyStr.contains "audio" mimeType then some data else none
  | _ => none

/-- `event.input_transcription` and `event.output_transcription`. An absent text is empty. -/
structure Transcription where
  text : String
  finished : Bool

/-- The token counts `_usage_int` reads from `event.usage_metadata`. -/
structure UsageMetadata where
  promptTokens : ℕ
  completionTokens : ℕ
  totalTokens : ℕ

/-- An event of `run_live`. -/
structure LiveEvent where
  parts : List ContentPart := []
  inputTranscription : Option Transcription := none
  outputTranscription : Option Transcription := none
  interrupted : Bool := false
  transferToAgent : PyValue := .none
  stateDelta : Option Record := none
  turnComplete : Bool := false
  author : String := ""
  usageMetadata : Option UsageMetadata := none
  resumptionToken : Option PyValue := none
  goAway : Option (Option ℤ) := none

/-- An event, and whether the socket takes the `i`-th send made for it. -/
structure Delivery where
  event : LiveEvent
  accepts : ℕ → Bool

/-! ## The state of the task -/

/-- What of the session the task depends on; `redactPii` masks the phone numbers and the addresses
    in a text. -/
structure StreamContext where
  isNativeAudio : Bool
  redactPii : String → String
  debugTelemetry : Bool
  py : StrMethods

/-- The local variables of `downstream_task`, the messages sent so far (newest first), and how many
    sends were tried for the event at hand. -/
structure DownstreamState where
  currentAgent : String := "ekaette_router"
  lastInputText : String := ""
  lastOutputText : String := ""
  receivingInput : Bool := false
  inputFinalized : Bool := false
  outputFinalized : Bool := false
  lastStructuredMessageId : ℤ := 0
  sessionTokens : ℕ × ℕ × ℕ := (0, 0, 0)
  sent : List ServerMessage := []
  attempts : ℕ := 0

/-- A step of the task: it may raise, and what it did before stays done. -/
abbrev Downstream := ExceptT Unit (StateM DownstreamState)

variable (ctx : StreamContext) (d : Delivery)

/-- `websocket.send_text` and `websocket.send_bytes`. -/
def send (message : ServerMessage) : Downstream Unit := do
  let s ← get
  set { s with attempts := s.attempts + 1 }
  if d.accepts s.attempts then
    modify fun s => { s with sent := message :: s.sent }
  else
    throw ()

theorem send_spec (message : ServerMessage) (s₀ : DownstreamState) :
    ⦃fun s => ⌜s = s₀⌝⦄ send d message
    ⦃post⟨fun _ s => ⌜s = { s₀ with sent := message :: s₀.sent, attempts := s₀.attempts + 1 }⌝,
      fun _ s => ⌜s = { s₀ with attempts := s₀.attempts + 1 } ∧
      d.accepts s₀.attempts = false⌝⟩⦄ := by
  mvcgen [send] <;> simp_all +zetaDelta

/-- Send a non-partial input transcription to close the user's turn. -/
def finalizeInput : Downstream Unit := do
  let s ← get
  if s.receivingInput && s.lastInputText ≠ "" then
    send d (.transcription .user (ctx.redactPii s.lastInputText) false)
  modify fun s => { s with lastInputText := "", receivingInput := false, inputFinalized := true }

/-- Send a non-partial output transcription to close the agent's turn. -/
def finalizeOutput : Downstream Unit := do
  let s ← get
  if s.lastOutputText ≠ "" then
    send d (.transcription .agent s.lastOutputText false)
  modify fun s => { s with lastOutputText := "", outputFinalized := true }

/-! ## The sections of the loop body -/

/-- One part of the content: audio goes out as a binary frame, text as a transcription where the
    session has no native audio. -/
def sendContentPart (part : ContentPart) : Downstream Unit := do
  if let some data := part.audio? then
    if let some bytes := data.decode? then
      send d (.audio bytes)
    else
      throw ()
  else if part.text ≠ "" && !ctx.isNativeAudio then
    send d (.transcription .agent part.text (!d.event.turnComplete))

/-- Audio and text content. -/
def sendContent : Downstream Unit := do
  for part in d.event.parts do
    sendContentPart ctx d part

/-- Input transcription: the user's speech. -/
def relayInput : Downstream Unit := do
  if let some ⟨text, finished⟩ := d.event.inputTranscription then
    if text ≠ "" then
      let s ← get
      -- a late partial after the input was finalized is dropped
      if !(s.inputFinalized && !finished) then
        modify fun s =>
          { s with inputFinalized := false, lastInputText := text, receivingInput := true }
        send d (.transcription .user (ctx.redactPii text) (!finished))
        if finished then
          modify fun s =>
            { s with lastInputText := "", receivingInput := false, inputFinalized := true }

/-- Output transcription: the agent's speech, which ends the user's turn. -/
def relayOutput : Downstream Unit := do
  if let some ⟨text, finished⟩ := d.event.outputTranscription then
    if text ≠ "" then
      let s ← get
      -- a late partial after the output was finalized is dropped
      if !(s.outputFinalized && !finished) then
        modify fun s => { s with outputFinalized := false }
        if s.receivingInput then
          finalizeInput ctx d
        modify fun s => { s with lastOutputText := text }
        send d (.transcription .agent text (!finished))
        if finished then
          modify fun s => { s with lastOutputText := "", outputFinalized := true }

/-- Interrupted: both turns are closed and the client clears its playback. -/
def relayInterrupted : Downstream Unit := do
  if d.event.interrupted then
    finalizeInput ctx d
    finalizeOutput d
    send d .interrupted

/-- Agent transfer; an invalid target and the agent already in charge are ignored. -/
def relayTransfer : Downstream Unit := do
  if let .str newAgent := d.event.transferToAgent then
    let s ← get
    if PyStr.strip newAgent ≠ "" && newAgent ≠ s.currentAgent then
      send d (.agentTransfer s.currentAgent newAgent)
      modify fun s => { s with currentAgent := newAgent }
      send d (.agentStatus newAgent .active)

/-- `_extract_server_message_from_state_delta` of `src/main.py`. -/
def extractServerMessageFromStateDelta : Option Record → Option (List (String × PyValue))
  | none => none
  | some stateDelta =>
    match stateDelta.value "temp:last_server_message" with
    | .dict message => if (PyValue.lookupD message "type").str?.isSome then some message else none
    | _ => none

/-- `int(structured.get("id", 0))`, with `0` for what is no number; an infinity raises. -/
def structuredId (structured : List (String × PyValue)) : Except Unit ℤ :=
  match (PyValue.lookupOr structured "id" (.int 0)).toInt ctx.py with
  | .ok n => .ok n
  | .error .overflowError => .error ()
  | .error _ => .ok 0

/-- Structured messages from the callbacks: sent once each, without their id. -/
def relayStructured : Downstream Unit := do
  if let some structured := extractServerMessageFromStateDelta d.event.stateDelta then
    if let .ok id := structuredId ctx structured then
      let s ← get
      if s.lastStructuredMessageId < id then
        send d (.structured (structured.filter fun e => e.1 ≠ "id"))
        modify fun s => { s with lastStructuredMessageId := id }
    else
      throw ()

/-- Turn complete: both turns are closed and late partials are let through again. -/
def relayTurnComplete : Downstream Unit := do
  if d.event.turnComplete then
    finalizeInput ctx d
    finalizeOutput d
    modify fun s => { s with inputFinalized := false, outputFinalized := false }
    let s ← get
    send d (.agentStatus (if d.event.author ≠ "" then d.event.author else s.currentAgent) .idle)

/-- Usage metadata: the session totals, which a debug session sends to its client. -/
def countUsage : Downstream Unit := do
  if let some usage := d.event.usageMetadata then
    let total :=
      if usage.totalTokens = 0 then usage.promptTokens + usage.completionTokens
      else usage.totalTokens
    if 0 < total then
      modify fun s => { s with
        sessionTokens := (s.sessionTokens.1 + usage.promptTokens,
          s.sessionTokens.2.1 + usage.completionTokens, s.sessionTokens.2.2 + total) }
      if ctx.debugTelemetry then
        let s ← get
        send d (.telemetry usage.promptTokens usage.completionTokens total s.sessionTokens)

/-- Session resumption token. -/
def relayResumption : Downstream Unit := do
  if let some (.str token) := d.event.resumptionToken then
    if token ≠ "" then
      send d (.sessionEnding "session_resumption" (some token) none)

/-- The server is about to close the connection. -/
def relayGoAway : Downstream Unit := do
  if let some timeLeftMs := d.event.goAway then
    send d (.sessionEnding "go_away" none timeLeftMs)

/-- The body of the loop. -/
def relayEvent : Downstream Unit := do
  sendContent ctx d
  relayInput ctx d
  relayOutput ctx d
  relayInterrupted ctx d
  relayTransfer d
  relayStructured ctx d
  relayTurnComplete ctx d
  countUsage ctx d
  relayResumption d
  relayGoAway d

/-! ## The task -/

/-- One event; what its handling raises is logged and dropped. -/
def DownstreamState.handle (s : DownstreamState) : DownstreamState :=
  attempt (relayEvent ctx d) { s with attempts := 0 }

/-- The loop over the events of a session. -/
def relayEvents (ds : List Delivery) : DownstreamState := ds.foldl (fun s d => s.handle ctx d) {}

/-- `downstream_task`: the loop, then a last message if the client is still there. -/
def downstreamTask (ds : List Delivery) (clientThere : Bool) : DownstreamState :=
  let s := relayEvents ctx ds
  if clientThere then
    { s with sent := .sessionEnding "live_session_ended" none none :: s.sent }
  else s

end Ekaette
