import Ekaette.Lib.PyValue
import Ekaette.Sip.OutboundMedia
import Mathlib.Tactic.Linarith

set_option autoImplicit false

/-! # The gateway link of a call

`_gateway_bidi_loop`, `_gateway_send_loop` and `_gateway_recv_loop`, which `CallSession` of
`sip_bridge/session.py` and `WaSession` of `sip_bridge/wa_session.py` both have: caller audio goes
up to the gateway, frames of the agent come down, and a link that breaks is connected again. While
the agent speaks, and for a holdoff after that, silence goes up in place of the caller's audio.

The two sessions differ in one place: a `WaSession` sends its greeting once per call, a
`CallSession` whenever the gateway says that a session has started. -/

namespace Ekaette

/-- `ECHO_HOLDOFF_SEC`. -/
def ECHO_HOLDOFF_SEC : ℚ := 1 / 2

/-- `SILENCE_FRAME`: 20 ms at 16 kHz. -/
def SILENCE_FRAME : Pcm := List.replicate 640 0

/-! ## Echo muting -/

/-- The fields the receive loop writes and the send loop reads. -/
structure EchoMute where
  modelSpeaking : Bool
  modelSpeechEndTime : ℚ

/-- The agent's turn ends. -/
def EchoMute.endTurn (_s : EchoMute) (now : ℚ) : EchoMute := ⟨false, now⟩

/-- `echo_muted` of the send loops. -/
def EchoMute.echoMuted (s : EchoMute) (now : ℚ) : Bool :=
  s.modelSpeaking || decide (now - s.modelSpeechEndTime < ECHO_HOLDOFF_SEC)

/-- `audio_to_send` of the send loops. -/
def EchoMute.audioToSend (s : EchoMute) (now : ℚ) (pcm16 : Pcm) : Pcm :=
  if s.echoMuted now then SILENCE_FRAME else pcm16

theorem EchoMute.unmuted_of_audioToSend {s : EchoMute} {now : ℚ} {pcm16 : Pcm}
    (h : s.audioToSend now pcm16 ≠ SILENCE_FRAME) :
    s.modelSpeaking = false ∧ s.modelSpeechEndTime + ECHO_HOLDOFF_SEC ≤ now := by
  unfold EchoMute.audioToSend at h
  cases hmuted : s.echoMuted now with
  | true => simp [hmuted] at h
  | false =>
    rw [EchoMute.echoMuted, Bool.or_eq_false_iff, decide_eq_false_iff_not] at hmuted
    exact ⟨hmuted.1, by linarith [hmuted.2]⟩

theorem EchoMute.audioToSend_of_unmuted {s : EchoMute} {now : ℚ} (pcm16 : Pcm)
    (hspeaking : s.modelSpeaking = false) (hholdoff : s.modelSpeechEndTime + ECHO_HOLDOFF_SEC ≤ now)
    : s.audioToSend now pcm16 = pcm16 := by
  have hmuted : s.echoMuted now = false := by
    rw [EchoMute.echoMuted, hspeaking, Bool.false_or, decide_eq_false_iff_not]
    linarith
  rw [EchoMute.audioToSend, hmuted, if_neg Bool.false_ne_true]

/-! ## Frames of the gateway -/

/-- What `json.loads` makes of a text. -/
inductive GatewayJson where
  | parsed (msg : PyValue)
  /-- `JSONDecodeError` -/
  | malformed
  /-- another exception, as for too deep a nesting -/
  | raises

/-- `GatewayFrame`, its text as it is read. -/
inductive GatewayFrame where
  | audio (data : Pcm)
  | text (msg : GatewayJson)

/-- What a JSON message does to the session, besides what it logs and tells the gateway client. -/
inductive MessageEffect where
  | nothing
  | greet
  | shutdown
  | endTurn
  | raise
  deriving DecidableEq

/-- `v[:100]` raises nothing. -/
def sliceable : PyValue → Bool
  | .str _ => true
  | .list _ => true
  | _ => false

/-- The branches of `_gateway_recv_loop` on `msg_type`. -/
def messageEffect (msg : List (String × PyValue)) : MessageEffect :=
  let msgType := PyValue.lookupOr msg "type" (.str "")
  if msgType.eqStr "session_started" then .greet
  else if msgType.eqStr "session_ending" then
    if (PyValue.lookupOr msg "reason" (.str "")).eqStr "live_session_ended" then .shutdown
    else .nothing
  else if msgType.eqStr "interrupted" then .endTurn
  else if msgType.eqStr "agent_status" then
    if (PyValue.lookupD msg "status").eqStr "idle" then .endTurn else .nothing
  else if msgType.eqStr "transcription" then
    -- the text is cut to 100 characters for the log before the role is looked at
    if !sliceable (PyValue.lookupOr msg "text" (.str "")) then .raise
    else if (PyValue.lookupD msg "role").eqStr "agent" &&
        !(PyValue.lookupD msg "partial").truthy then
      .endTurn
    else .nothing
  else .nothing

/-- What a text frame does; text that is no JSON is ignored, JSON that is no object has no `get`. -/
def textEffect : GatewayJson → MessageEffect
  | .parsed msg => msg.dict?.elim .raise messageEffect
  | .malformed => .nothing
  | .raises => .raise

/-! ## The link -/

structure GatewayLink where
  echo : EchoMute
  /-- `_gateway_greeting_sent`, which only a `WaSession` reads -/
  greetingSent : Bool
  /-- the receive loop awaits `send_text` of the greeting -/
  greeting : Bool
  /-- the pass `_gateway_bidi_loop` is in -/
  attempt : ℕ
  /-- its send and receive loops run -/
  connected : Bool
  shutdown : Bool

/-- The link of a session whose `run` has connected to the gateway. -/
def GatewayLink.start : GatewayLink := ⟨⟨false, 0⟩, false, false, 0, true, false⟩

/-- `max_retries`. -/
def maxRetries : ℕ := 5

inductive LinkEvent where
  /-- The receive loop gets a frame. -/
  | frame (f : GatewayFrame)
  /-- `send_text` of the greeting returns or raises. -/
  | greetingDone (ok : Bool)
  /-- The send loop takes decoded audio of the caller. -/
  | callerAudio (pcm16 : Pcm)
  /-- One of the two loops ends or raises, and the other is cancelled. -/
  | disconnect
  /-- The next pass calls `gateway_client.reconnect`. -/
  | reconnect (ok : Bool)
  /-- `shutdown` is called. -/
  | stop

inductive LinkAnswer where
  | ignored
  | audio (data : Pcm)
  | greeting
  | greetingSent
  | greetingFailed
  | turnEnded
  | upstream (data : Pcm)
  | disconnected
  | reconnected

/-- A pass of `_gateway_bidi_loop` is over: another one follows, or the call is torn down. -/
def GatewayLink.passOver (s : GatewayLink) : GatewayLink :=
  if s.attempt < maxRetries then
    { s with connected := false, greeting := false, attempt := s.attempt + 1 }
  else { s with connected := false, greeting := false, shutdown := true }

variable (greetOnce : Bool)

variable (s : GatewayLink)

/-- `_gateway_recv_loop` on a text frame. -/
def GatewayLink.recvText (now : ℚ) :
    MessageEffect → GatewayLink × LinkAnswer
  | .nothing => (s, .ignored)
  | .greet =>
    if greetOnce && s.greetingSent then (s, .ignored)
    else
      ({ s with greetingSent := true, echo := { s.echo with
        modelSpeaking := true }, greeting := true }, .greeting)
  | .shutdown => ({ s with shutdown := true }, .ignored)
  | .endTurn => ({ s with echo := s.echo.endTurn now }, .turnEnded)
  | .raise => (s.passOver, .disconnected)

/-- `_gateway_recv_loop` on a frame. -/
def GatewayLink.recv (now : ℚ) (f : GatewayFrame) :
    GatewayLink × LinkAnswer :=
  if s.shutdown then ({ s with connected := false }, .disconnected)
  else match f with
    | .audio data => ({ s with echo := { s.echo with modelSpeaking := true } }, .audio data)
    | .text msg => s.recvText greetOnce now (textEffect msg)

variable (e : Timed ℚ LinkEvent)

/-- One step of one of the loops. Between passes neither the send nor the receive loop runs, and
    while the greeting is sent the receive loop gets no frame. -/
def GatewayLink.step :
    GatewayLink × LinkAnswer :=
  match e.event with
  | .frame f => if s.connected && !s.greeting then s.recv greetOnce e.now f else (s, .ignored)
  | .greetingDone ok =>
    if s.connected && s.greeting then
      if ok then ({ s with greeting := false }, .greetingSent)
      else ({ s with greeting := false, echo := { s.echo with modelSpeaking := false } },
        .greetingFailed)
    else (s, .ignored)
  | .callerAudio pcm16 =>
    if s.connected then (s, .upstream (s.echo.audioToSend e.now pcm16)) else (s, .ignored)
  | .disconnect =>
    if !s.connected then (s, .ignored)
    else if s.shutdown then ({ s with connected := false, greeting := false }, .disconnected)
    else (s.passOver, .disconnected)
  | .reconnect ok =>
    if s.connected || s.shutdown then (s, .ignored)
    else if ok then ({ s with connected := true }, .reconnected)
    else (s.passOver, .ignored)
  | .stop => ({ s with shutdown := true }, .ignored)

/-! ## What an answer says about the step -/

/-- The echo flags after an answer. -/
def LinkAnswer.echoAfter (a : LinkAnswer) (echo : EchoMute) (now : ℚ) : EchoMute :=
  match a with
  | .audio _ => { echo with modelSpeaking := true }
  | .greeting => { echo with modelSpeaking := true }
  | .greetingFailed => { echo with modelSpeaking := false }
  | .turnEnded => echo.endTurn now
  | _ => echo

/-- Whether the greeting is being sent after an answer. -/
def LinkAnswer.greetingAfter (a : LinkAnswer) (greeting : Bool) : Bool :=
  match a with
  | .greeting => true
  | .greetingSent => false
  | .greetingFailed => false
  | .disconnected => false
  | _ => greeting

theorem GatewayLink.recvText_echo (now : ℚ)
    (m : MessageEffect) : (s.recvText greetOnce now m).1.echo =
    (s.recvText greetOnce now m).2.echoAfter s.echo now := by
  cases m with
  | nothing => rfl
  | greet =>
    simp only [recvText]
    split
    · rfl
    · rfl
  | shutdown => rfl
  | endTurn => rfl
  | raise =>
    simp only [recvText, passOver]
    split
    · rfl
    · rfl

theorem GatewayLink.step_echo :
    (s.step greetOnce e).1.echo = (s.step greetOnce e).2.echoAfter s.echo e.now := by
  obtain ⟨now, event⟩ := e
  cases event with
  | frame f =>
    simp only [step]
    split
    · simp only [recv]
      split
      · rfl
      · cases f with
        | audio data => rfl
        | text msg => exact s.recvText_echo greetOnce now (textEffect msg)
    · rfl
  | greetingDone ok =>
    simp only [step]
    split
    · cases ok <;> rfl
    · rfl
  | callerAudio pcm16 =>
    simp only [step]
    split
    · rfl
    · rfl
  | disconnect =>
    simp only [step, passOver]
    repeat' split
    all_goals rfl
  | reconnect ok =>
    simp only [step, passOver]
    repeat' split
    all_goals rfl
  | stop => rfl

theorem GatewayLink.recvText_greeting (now : ℚ) (m : MessageEffect) :
    (s.recvText greetOnce now m).1.greeting =
      (s.recvText greetOnce now m).2.greetingAfter s.greeting := by
  cases m with
  | nothing => rfl
  | greet =>
    simp only [recvText]
    split
    · rfl
    · rfl
  | shutdown => rfl
  | endTurn => rfl
  | raise =>
    simp only [recvText, passOver]
    split
    · rfl
    · rfl

/-- Between passes no greeting is being sent, so failing to reconnect interrupts none. -/
theorem GatewayLink.step_greeting {s : GatewayLink} (e : Timed ℚ LinkEvent)
    (hs : s.connected = false → s.greeting = false) :
    (s.step greetOnce e).1.greeting = (s.step greetOnce e).2.greetingAfter s.greeting := by
  obtain ⟨now, event⟩ := e
  cases event with
  | frame f =>
    simp only [step]
    split
    · next hreceiving =>
        rw [Bool.and_eq_true, Bool.not_eq_true'] at hreceiving
        simp only [recv]
        split
        · exact hreceiving.2
        · cases f with
          | audio data => rfl
          | text msg => exact s.recvText_greeting greetOnce now (textEffect msg)
    · rfl
  | greetingDone ok =>
    simp only [step]
    split
    · cases ok <;> rfl
    · rfl
  | callerAudio pcm16 =>
    simp only [step]
    split
    · rfl
    · rfl
  | disconnect =>
    simp only [step, passOver]
    repeat' split
    all_goals rfl
  | reconnect ok =>
    simp only [step]
    split
    · rfl
    · next hdown =>
        rw [Bool.or_eq_true, not_or, Bool.not_eq_true] at hdown
        have hgreeting := hs hdown.1
        cases ok with
        | true => rfl
        | false =>
          simp only [passOver, Bool.false_eq_true, if_false, LinkAnswer.greetingAfter, hgreeting]
          split
          · rfl
          · rfl
  | stop => rfl

theorem GatewayLink.recvText_connected {greetOnce : Bool} {s : GatewayLink} (now : ℚ)
    (m : MessageEffect) (hs : s.connected = true)
    (h : (s.recvText greetOnce now m).1.connected = false) :
    (s.recvText greetOnce now m).1.greeting = false := by
  cases m with
  | nothing => simp [recvText, hs] at h
  | greet =>
    simp only [recvText] at h
    split at h
    · simp [hs] at h
    · simp [hs] at h
  | shutdown => simp [recvText, hs] at h
  | endTurn => simp [recvText, hs] at h
  | raise =>
    simp only [recvText, passOver]
    split
    · rfl
    · rfl

theorem GatewayLink.step_connected {s : GatewayLink} (e : Timed ℚ LinkEvent)
    (hs : s.connected = false → s.greeting = false)
    (h : (s.step greetOnce e).1.connected = false) : (s.step greetOnce e).1.greeting = false := by
  obtain ⟨now, event⟩ := e
  cases event with
  | frame f =>
    simp only [step] at h ⊢
    split at h
    · next hreceiving =>
        rw [if_pos hreceiving]
        rw [Bool.and_eq_true, Bool.not_eq_true'] at hreceiving
        simp only [recv] at h ⊢
        split at h
        · next hshutdown =>
            rw [if_pos hshutdown]
            exact hreceiving.2
        · next hshutdown =>
            rw [if_neg hshutdown]
            cases f with
            | audio data => simp [hreceiving.1] at h
            | text msg => exact recvText_connected now _ hreceiving.1 h
    · next hreceiving =>
        rw [if_neg hreceiving]
        exact hs h
  | greetingDone ok =>
    simp only [step]
    split
    · cases ok <;> rfl
    · next hsending =>
        simp only [step, if_neg hsending] at h
        exact hs h
  | callerAudio pcm16 =>
    simp only [step] at h ⊢
    split at h
    · next hconnected => simp [hconnected] at h
    · next hconnected =>
        rw [if_neg hconnected]
        exact hs h
  | disconnect =>
    simp only [step, passOver] at h ⊢
    split at h
    · next hconnected =>
        rw [if_pos hconnected]
        exact hs h
    · next hconnected =>
        rw [if_neg hconnected]
        repeat' split
        all_goals rfl
  | reconnect ok =>
    simp only [step, passOver] at h ⊢
    split at h
    · next hup =>
        rw [if_pos hup]
        exact hs h
    · next hup =>
        rw [if_neg hup]
        cases ok with
        | true => simp at h
        | false =>
          simp only [Bool.false_eq_true, if_false]
          split
          · rfl
          · rfl
  | stop => exact hs h

/-- What an answer says about the event and the link it found. -/
def LinkAnswer.Explains : LinkAnswer → Prop
  | .turnEnded => s.connected = true ∧ s.greeting = false ∧ s.shutdown = false ∧
      ∃ msg, e.event = .frame (.text msg) ∧ textEffect msg = .endTurn
  | .greetingFailed => s.connected = true ∧ s.greeting = true ∧ e.event = .greetingDone false
  | .upstream data => s.connected = true ∧
      ∃ pcm16, e.event = .callerAudio pcm16 ∧ data = s.echo.audioToSend e.now pcm16
  | .reconnected => s.connected = false ∧ e.event = .reconnect true
  | _ => True

theorem GatewayLink.recvText_explained {s : GatewayLink} {now : ℚ}
    {msg : GatewayJson} (hconnected : s.connected = true) (hgreeting : s.greeting = false)
    (hshutdown : s.shutdown = false) :
    (s.recvText greetOnce now (textEffect msg)).2.Explains s ⟨now, .frame (.text msg)⟩ := by
  cases heffect : textEffect msg with
  | nothing => trivial
  | greet =>
    simp only [recvText]
    split
    · trivial
    · trivial
  | shutdown => trivial
  | endTurn => exact ⟨hconnected, hgreeting, hshutdown, msg, rfl, heffect⟩
  | raise => trivial

/-- **The answers tell what happened**: only a receiving link ends a turn, only a link that is down
    reconnects. -/
theorem GatewayLink.step_explained :
    (s.step greetOnce e).2.Explains s e := by
  obtain ⟨now, event⟩ := e
  cases event with
  | frame f =>
    simp only [step]
    split
    · next hreceiving =>
        rw [Bool.and_eq_true, Bool.not_eq_true'] at hreceiving
        simp only [recv]
        split
        · trivial
        · next hshutdown =>
            cases f with
            | audio data => trivial
            | text msg =>
              exact recvText_explained greetOnce hreceiving.1 hreceiving.2
                (Bool.not_eq_true _ ▸ hshutdown)
    · trivial
  | greetingDone ok =>
    simp only [step]
    split
    · next hsending =>
        rw [Bool.and_eq_true] at hsending
        cases ok with
        | true => trivial
        | false => exact ⟨hsending.1, hsending.2, rfl⟩
    · trivial
  | callerAudio pcm16 =>
    simp only [step]
    split
    · next hconnected => exact ⟨hconnected, pcm16, rfl, rfl⟩
    · trivial
  | disconnect =>
    simp only [step]
    repeat' split
    all_goals trivial
  | reconnect ok =>
    simp only [step]
    split
    · trivial
    · next hdown =>
        rw [Bool.or_eq_true, not_or, Bool.not_eq_true] at hdown
        cases ok with
        | true => exact ⟨hdown.1, rfl⟩
        | false => trivial
  | stop => trivial

end Ekaette
