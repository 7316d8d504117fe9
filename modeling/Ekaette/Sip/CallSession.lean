import Ekaette.Sip.GatewayLink

set_option autoImplicit false

/-! # A phone call

`CallSession` of `sip_bridge/session.py`, between the model and the phone: the receive loops queue
the agent's audio, the outbound loop encodes it and sends it in RTP packets of 20 ms, and the send
loops pass caller audio up. A session is in gateway mode, with a gateway link, or in direct mode,
where `_gemini_send_loop` and `_gemini_recv_loop` talk to the model. -/

namespace Ekaette

/-! ## The G.711 codec -/

/-- The segment of a biased sample: its highest bit from the exponent's mask on. -/
def ulawExponent (sample : ℕ) : ℕ → ℕ
  | 0 => 0
  | exponent + 1 =>
    if sample.testBit (exponent + 8) then exponent + 1 else ulawExponent sample exponent

/-- `_linear_to_ulaw`. -/
def linearToUlaw (sample : ℤ) : UInt8 :=
  let sign := if sample < 0 then 128 else 0
  let biased := min sample.natAbs 32635 + 0x84
  let exponent := ulawExponent biased 7
  let mantissa := biased / 2 ^ (exponent + 3) % 16
  UInt8.ofNat (255 - (sign + exponent * 16 + mantissa))

/-- `samples[::3]`. -/
def everyThird : List ℤ → List ℤ
  | a :: _ :: _ :: samples => a :: everyThird samples
  | a :: _ => [a]
  | [] => []

/-- `CodecBridge`, as the outbound loop uses it: `encode_from_pcm16_24k`, `none` where it raises. -/
structure CodecBridge where
  encodeFromPcm16 : Pcm → Option (List UInt8)

/-- `G711CodecBridge`. -/
def g711CodecBridge : CodecBridge where
  encodeFromPcm16 pcm := (unpackPcm pcm).map (fun samples => (everyThird samples).map linearToUlaw)

/-! ## The session -/

/-- `FRAME_SIZE`: 20 ms of G.711. -/
def FRAME_SIZE : ℕ := 160

/-- `PCMU_PAYLOAD_TYPE`. -/
def PCMU_PAYLOAD_TYPE : ℕ := 0

/-- What does not change during a call. -/
structure CallConfig where
  /-- a gateway client was given -/
  gateway : Bool
  codecBridge : Option CodecBridge
  ssrc : UInt32

structure CallSession where
  /-- its `echo` and `shutdown` are the session's own; the rest is used in gateway mode -/
  link : GatewayLink
  outboundQueue : List Pcm
  outboundDrops : ℕ
  /-- `_outbound_buffer` -/
  outboundBuffer : Pcm
  /-- `g711_buffer` of the outbound loop -/
  g711Buffer : List UInt8
  framesSent : ℕ
  seq : ℕ
  timestamp : ℕ

/-- A session whose loops have not run yet. In direct mode the greeting is asked for before that,
    with the echo muted. -/
def CallSession.start (modelSpeaking : Bool) : CallSession :=
  { link := { GatewayLink.start with echo := ⟨modelSpeaking, 0⟩ }
    outboundQueue := []
    outboundDrops := 0
    outboundBuffer := []
    g711Buffer := []
    framesSent := 0
    seq := 0
    timestamp := 0 }

inductive CallEvent where
  /-- a loop of the gateway link -/
  | gateway (e : LinkEvent)
  /-- direct mode: a response of the model, with the inline data of its parts -/
  | response (parts : List Pcm) (turnComplete interrupted : Bool)
  /-- direct mode: `_gemini_send_loop` takes decoded audio of the caller -/
  | callerAudio (pcm16 : Pcm)
  /-- a round of `_media_outbound_loop`; whether there is a transport and a remote address, and
      `sendto` raises nothing -/
  | outbound (reachable : Bool)
  /-- `shutdown` is called -/
  | stop

inductive CallAnswer where
  | none
  /-- sent to the model -/
  | upstream (data : Pcm)
  /-- sent to the phone -/
  | toPhone (packet : List UInt8)
  deriving DecidableEq

variable (s : CallSession)

/-- `outbound_queue.put_nowait`, with the handler of `QueueFull`. -/
def CallSession.putNowait (pcm : Pcm) : CallSession :=
  if s.outboundQueue.length ≥ OUTBOUND_QUEUE_SIZE then { s with
    outboundDrops := s.outboundDrops + 1 }
  else { s with outboundQueue := s.outboundQueue ++ [pcm] }

/-- The loop of `_gemini_recv_loop` that cuts frames off the buffer. -/
def CallSession.queueFrames (s : CallSession) : CallSession :=
  if _ : pcmFrameBytes ≤ s.outboundBuffer.length then
    queueFrames
      { s.putNowait (s.outboundBuffer.take pcmFrameBytes) with
        outboundBuffer := s.outboundBuffer.drop pcmFrameBytes }
  else s
termination_by s.outboundBuffer.length
decreasing_by
  simp only [pcmFrameBytes] at *
  rw [List.length_drop]
  omega

/-- Inline data of a part. -/
def CallSession.recvPart (data : Pcm) : CallSession :=
  if data = [] then s
  else
    queueFrames
      { s with
        link := { s.link with echo := { s.link.echo with modelSpeaking := true } }
        outboundBuffer := s.outboundBuffer ++ data }

/-- `_gemini_recv_loop` on a response. -/
def CallSession.recvResponse (now : ℚ) (parts : List Pcm)
    (turnComplete interrupted : Bool) : CallSession :=
  let s := parts.foldl recvPart s
  if turnComplete || interrupted then
    { s with link := { s.link with echo := s.link.echo.endTurn now } }
  else s

/-- A step of a gateway loop; received audio goes on the outbound queue. -/
def CallSession.gatewayStep (e : Timed ℚ LinkEvent) : CallSession × CallAnswer :=
  let (link, answer) := s.link.step false e
  let s := { s with link }
  match answer with
  | .audio data => (s.putNowait data, .none)
  | .upstream data => (s, .upstream data)
  | _ => (s, .none)

variable (config : CallConfig)

/-- The outbound loop gets a chunk, unless it still has a frame to send. -/
def CallSession.fillG711 (s : CallSession) : CallSession :=
  if s.g711Buffer.length < FRAME_SIZE then
    match s.outboundQueue with
    | [] => s
    | pcm :: queue =>
      let encoded := match config.codecBridge with
        | some bridge => bridge.encodeFromPcm16 pcm
        | none => some pcm
      { s with outboundQueue := queue, g711Buffer := s.g711Buffer ++ encoded.getD [] }
  else s

/-- The packet of the next frame. -/
def CallSession.packet (s : CallSession) : RtpPacket where
  version := 2
  payloadType := PCMU_PAYLOAD_TYPE
  sequence := s.seq % 2 ^ 16
  timestamp := s.timestamp % 2 ^ 32
  ssrc := config.ssrc
  payload := s.g711Buffer.take FRAME_SIZE
  marker := s.framesSent = 0

/-- A round of `_media_outbound_loop`, up to the wait for the next frame's time. -/
def CallSession.outboundRound (reachable : Bool) (s : CallSession) :
    CallSession × CallAnswer :=
  let s := s.fillG711 config
  if s.g711Buffer.length < FRAME_SIZE || s.link.shutdown then (s, .none)
  else
    ({ s with
        g711Buffer := s.g711Buffer.drop FRAME_SIZE
        framesSent := s.framesSent + 1
        seq := s.seq + 1
        timestamp := s.timestamp + FRAME_SIZE },
      if reachable then .toPhone (s.packet config).serialize else .none)

/-- The loops of a session in any order. -/
def callMachine :
    EventMachine CallSession (Timed ℚ CallEvent) CallAnswer where
  step s e := match e.event with
    | .gateway event => if config.gateway then s.gatewayStep ⟨e.now, event⟩ else (s, .none)
    | .response parts turnComplete interrupted =>
      if config.gateway || s.link.shutdown then (s, .none)
      else (s.recvResponse e.now parts turnComplete interrupted, .none)
    | .callerAudio pcm16 =>
      if config.gateway then (s, .none)
      else (s, .upstream (s.link.echo.audioToSend e.now pcm16))
    | .outbound reachable => s.outboundRound config reachable
    | .stop => ({ s with link := { s.link with shutdown := true } }, .none)

/-! ## What the steps change -/

@[simp] theorem CallSession.putNowait_link (pcm : Pcm) :
    (s.putNowait pcm).link = s.link := by
  unfold putNowait
  split
  · rfl
  · rfl

variable (e : Timed ℚ LinkEvent)

@[simp] theorem CallSession.gatewayStep_link :
    (s.gatewayStep e).1.link = (s.link.step false e).1 := by
  unfold gatewayStep
  split
  next link answer heq =>
    cases answer with
    | audio data => simp [heq]
    | _ => simp [heq]

/-- Only received audio changes more than the link. -/
theorem CallSession.gatewayStep_media :
    (∃ data, (s.link.step false e).2 = .audio data) ∨
      (s.gatewayStep e).1 = { s with link := (s.link.step false e).1 } := by
  unfold gatewayStep
  split
  next link answer heq =>
    cases answer with
    | audio data => exact .inl ⟨data, by rw [heq]⟩
    | _ => exact .inr (by simp [heq])

/-- What goes upstream is what the link sends. -/
theorem CallSession.gatewayStep_answer :
    (s.gatewayStep e).2 = .none ∨ ∃ data, (s.link.step false e).2 = .upstream data ∧
      (s.gatewayStep e).2 = .upstream data := by
  unfold gatewayStep
  split
  next link answer heq =>
    cases answer with
    | upstream data => exact .inr ⟨data, by rw [heq], rfl⟩
    | _ => exact .inl rfl

theorem CallSession.queueFrames_link : s.queueFrames.link = s.link := by
  induction s using queueFrames.induct with
  | case1 s hframe ih =>
    rw [queueFrames, dif_pos hframe, ih]
    exact s.putNowait_link _
  | case2 s hshort => rw [queueFrames, dif_neg hshort]

theorem CallSession.fillG711_link (s : CallSession) :
    (s.fillG711 config).link = s.link := by
  unfold fillG711
  split
  · split
    · rfl
    · rfl
  · rfl

@[simp] theorem CallSession.outboundRound_link (reachable : Bool)
    (s : CallSession) : (s.outboundRound config reachable).1.link = s.link := by
  unfold outboundRound
  simp only
  split
  · exact s.fillG711_link config
  · exact s.fillG711_link config

end Ekaette
