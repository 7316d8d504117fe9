import Ekaette.Sip.G711

set_option autoImplicit false

/-! # Caller audio

The loops that bring the caller's audio to the model, which `CallSession` of `sip_bridge/session.py`
and `WaSession` of `sip_bridge/wa_session.py` both have: `_media_recv_loop` queues datagrams,
`_media_inbound_loop` decodes them into a second queue, and `_gemini_send_loop` or
`_gateway_send_loop` takes audio from there. Every loop looks at the shutdown event between its
rounds only, so each may finish a round after it is set.

A `CallSession` latches the address that datagrams come from; its machine is built around the one of
its other loops. -/

namespace Ekaette

open BoundedQueue G711 Resamplers

/-- `INBOUND_QUEUE_SIZE`. -/
def INBOUND_QUEUE_SIZE : ℕ := 500

/-- `PCMA_PAYLOAD_TYPE`. -/
def PCMA_PAYLOAD_TYPE : ℕ := 8

/-- A host and a port. -/
abbrev Addr := String × ℕ

/-- The queues of a session. `σ` is the state of its decoders. -/
structure InboundMedia (σ : Type) where
  inboundQueue : List (List UInt8)
  decoders : σ
  /-- `_gemini_in_queue` -/
  geminiInQueue : List Pcm
  framesReceived : ℕ
  inboundDrops : ℕ
  /-- `gemini_input_drops`, which a `WaSession` does not count -/
  geminiInputDrops : ℕ

section Queues

variable {σ : Type}

def InboundMedia.start (decoders : σ) : InboundMedia σ := ⟨[], decoders, [], 0, 0, 0⟩

/-- `feed_inbound`. -/
def InboundMedia.feedInbound (s : InboundMedia σ) (frame : List UInt8) : InboundMedia σ :=
  match putNowait INBOUND_QUEUE_SIZE s.inboundQueue frame with
  | some inboundQueue => { s with inboundQueue, framesReceived := s.framesReceived + 1 }
  | none => { s with inboundDrops := s.inboundDrops + 1 }

/-- A round of `_media_inbound_loop`, which waits for a frame. -/
def InboundMedia.inboundRound (process : σ → List UInt8 → σ × Option Pcm) (s : InboundMedia σ) :
    Option (InboundMedia σ) :=
  match s.inboundQueue with
  | [] => none
  | frame :: inboundQueue =>
    let (decoders, pcm16) := process s.decoders frame
    let (geminiInQueue, geminiInputDrops) :=
      offer INBOUND_QUEUE_SIZE s.geminiInQueue s.geminiInputDrops pcm16
    some { s with inboundQueue, decoders, geminiInQueue, geminiInputDrops }

/-- `_gemini_in_queue.get`, which waits for audio. -/
def InboundMedia.getAudio (s : InboundMedia σ) : Option (Pcm × InboundMedia σ) :=
  match s.geminiInQueue with
  | [] => none
  | pcm16 :: geminiInQueue => some (pcm16, { s with geminiInQueue })

/-- The accounts of the two queues. -/
structure InboundMedia.Flow (process : σ → List UInt8 → σ × Option Pcm) (initial : σ)
    (received processed : List (List UInt8)) (taken : List Pcm) (s : InboundMedia σ) : Prop where
  inbound : Account INBOUND_QUEUE_SIZE received processed s.inboundQueue s.inboundDrops
  framesReceived : s.framesReceived = (processed ++ s.inboundQueue).length
  decoders : s.decoders = (processAll process initial processed).1
  geminiIn : Account INBOUND_QUEUE_SIZE (processAll process initial processed).2 taken
    s.geminiInQueue s.geminiInputDrops

variable {process : σ → List UInt8 → σ × Option Pcm} {initial : σ}
    {received processed : List (List UInt8)}
variable {taken : List Pcm} {s : InboundMedia σ}

theorem InboundMedia.flow_start : Flow process initial [] [] [] (start initial) :=
  ⟨account_nil _, rfl, rfl, account_nil _⟩

theorem InboundMedia.Flow.feedInbound (h : Flow process initial received processed taken s)
    (frame : List UInt8) : Flow process initial (received ++ [frame]) processed taken
    (s.feedInbound frame) := by
  unfold InboundMedia.feedInbound
  split
  next inboundQueue hput =>
    have haccepted := h.inbound.accepted hput
    refine { h with inbound := haccepted, framesReceived := ?_ }
    have hbefore := h.inbound.count
    have hafter := haccepted.count
    have hone : (received ++ [frame]).length = received.length + 1 := List.length_append
    show s.framesReceived + 1 = (processed ++ inboundQueue).length
    rw [h.framesReceived]
    omega
  next hput => exact { h with inbound := h.inbound.refused hput }

/-- A round of `_media_inbound_loop`. -/
theorem InboundMedia.Flow.inboundRound (h : Flow process initial received processed taken s)
    {s' : InboundMedia σ} (hround : s.inboundRound process = some s') :
    ∃ processed', Flow process initial received processed' taken s' := by
  unfold InboundMedia.inboundRound at hround
  split at hround
  next hempty => cases hround
  next frame inboundQueue hqueue =>
    obtain rfl := Option.some.inj hround
    have hinbound := h.inbound
    have hframes := h.framesReceived
    rw [hqueue] at hinbound hframes
    have hconcat := processAll_concat process initial processed frame
    rw [← h.decoders] at hconcat
    refine ⟨processed ++ [frame], hinbound.took, ?_, ?_, ?_⟩
    · rw [List.append_assoc]
      exact hframes
    · rw [hconcat]
    · rw [hconcat]
      exact h.geminiIn.offer _

theorem InboundMedia.Flow.getAudio (h : Flow process initial received processed taken s)
    {pcm16 : Pcm} {s' : InboundMedia σ} (hget : s.getAudio = some (pcm16, s')) :
    Flow process initial received processed (taken ++ [pcm16]) s' := by
  unfold InboundMedia.getAudio at hget
  split at hget
  next hempty => cases hget
  next head geminiInQueue hqueue =>
    cases hget
    have hgeminiIn := h.geminiIn
    rw [hqueue] at hgeminiIn
    exact ⟨h.inbound, h.framesReceived, h.decoders, hgeminiIn.took⟩

/-- **As long as no more datagrams have come than a queue holds**, none is lost. -/
theorem InboundMedia.Flow.lossless (h : Flow process initial received processed taken s)
    (hfew : received.length ≤ INBOUND_QUEUE_SIZE) : processed ++ s.inboundQueue = received ∧
      taken ++ s.geminiInQueue = (processAll process initial processed).2 := by
  have hinbound := h.inbound
  rw [h.inbound.drops_eq_zero hfew] at hinbound
  have hprocessed : (processAll process initial processed).2.length ≤ INBOUND_QUEUE_SIZE := by
    have hle := h.inbound.inOrder.length_le
    rw [List.length_append] at hle
    exact (length_processAll_le _ _ _).trans (by omega)
  have hgeminiIn := h.geminiIn
  rw [h.geminiIn.drops_eq_zero hprocessed] at hgeminiIn
  exact ⟨hinbound.lossless, hgeminiIn.lossless⟩

end Queues

/-- What is handed over for audio: itself, or silence. -/
def SentFor (sent pcm16 : Pcm) : Prop := sent = pcm16 ∨ sent = SILENCE_FRAME

theorem sentFor_audioToSend (echo : EchoMute) (now : ℚ) (pcm16 : Pcm) :
    SentFor (echo.audioToSend now pcm16) pcm16 := by
  unfold EchoMute.audioToSend
  split
  · exact .inr rfl
  · exact .inl rfl

/-! ## A phone call -/

structure CallMediaConfig where
  call : CallConfig
  /-- `codec_bridge.decode_to_pcm16_16k`, `none` where it raises; no bridge is given, or one that
      keeps no state -/
  decoder : Option (List UInt8 → Option Pcm)
  /-- it is the bridge that the outbound loop encodes with -/
  decoder_isSome : decoder.isSome = call.codecBridge.isSome
  /-- `SIP_SYMMETRIC_RTP` is on -/
  symmetric : Bool
  /-- `int` of `SIP_AUDIO_GAIN`; `none` where it raises -/
  gain : Option ℤ

structure CallMedia where
  call : CallSession
  remoteRtpAddr : Option Addr
  /-- the bridge of a call keeps no state -/
  media : InboundMedia Unit
  /-- the loops that have ended -/
  recvEnded : Bool
  inboundEnded : Bool
  sendEnded : Bool

/-- A session whose loops have not run yet, with the address of the session description, if it has
    one. -/
def CallMedia.start (modelSpeaking : Bool) (remoteRtpAddr : Option Addr) : CallMedia :=
  ⟨.start modelSpeaking, remoteRtpAddr, .start (), false, false, false⟩

variable (config : CallMediaConfig)

/-- Symmetric latching. -/
def CallMedia.latch (s : CallMedia) (addr : Addr) : CallMedia :=
  match s.remoteRtpAddr with
  | none => { s with remoteRtpAddr := some addr }
  | some remote =>
    if config.symmetric && remote ≠ addr then { s with remoteRtpAddr := some addr } else s

/-- The gain loop; `none` where it raises. -/
def amplify (gain : Option ℤ) (pcm16 : Pcm) : Option Pcm := do
  let gain ← gain
  if gain > 1 then
    if pcm16.length % 2 = 0 then
      structPack ((pcmSamples pcm16).map fun s => max (-32768) (min 32767 (s * gain)))
    else none
  else some pcm16

/-- What `_media_inbound_loop` makes of a frame; `none` where it skips it or something raises. -/
def CallMediaConfig.processFrame (frame : List UInt8) : Option Pcm := do
  let rtp ← RtpPacket.parse frame
  let pcm16 ←
    if rtp.payloadType = PCMU_PAYLOAD_TYPE then
      match config.decoder with
      | some decode => decode rtp.payload
      | none => some rtp.payload
    else if rtp.payloadType = PCMA_PAYLOAD_TYPE then do
      let pcm16_8k ← alawToPcm16 rtp.payload
      resample8kTo16k pcm16_8k
    else none
  if pcm16 = [] then none else amplify config.gain pcm16

/-- The worker of a call. -/
def CallMediaConfig.process (decoders : Unit) (frame : List UInt8) :
    Unit × Option Pcm :=
  (decoders, config.processFrame frame)

/-! ## The machine -/

/-- The events of the loops that are modelled here and not by the inner machine. -/
def CallEvent.isCallerAudio : CallEvent → Bool
  | .gateway (.callerAudio _) => true
  | .callerAudio _ => true
  | _ => false

inductive CallMediaEvent where
  /-- `sock_recvfrom` returns -/
  | datagram (data : List UInt8) (addr : Addr)
  /-- it raises an `OSError` -/
  | recvError
  /-- a round of `_media_inbound_loop` -/
  | inbound
  /-- a round of the send loop; whether sending raises nothing -/
  | send (ok : Bool)
  /-- a step of another loop -/
  | call (e : { e : CallEvent // e.isCallerAudio = false })

inductive CallMediaAnswer where
  | none
  /-- audio is handed to the connection to the model, which may raise -/
  | upstream (data : Pcm)
  | toPhone (packet : List UInt8) (addr : Addr)
  deriving DecidableEq

/-- What the outbound loop gets to know: without a remote address it sends nothing. -/
def CallMedia.reach (s : CallMedia) : CallEvent → CallEvent
  | .outbound reachable => .outbound (reachable && s.remoteRtpAddr.isSome)
  | e => e

/-- An answer of the inner machine; packets go to the remote address. -/
def CallMedia.relay (s : CallMedia) : CallAnswer → CallMediaAnswer
  | .none => .none
  | .upstream data => .upstream data
  | .toPhone packet => s.remoteRtpAddr.elim .none (.toPhone packet)

def CallMedia.callStep (s : CallMedia) (now : ℚ) (e : CallEvent) :
    CallMedia × CallMediaAnswer :=
  let (call, answer) := (callMachine config.call).step s.call ⟨now, s.reach e⟩
  ({ s with call }, s.relay answer)

/-- The audio of a round of the send loop, as an event of the inner machine. -/
def CallMediaConfig.callerAudio (pcm16 : Pcm) : CallEvent :=
  if config.call.gateway then .gateway (.callerAudio pcm16) else .callerAudio pcm16

/-- A round of the send loop, which hands audio over. In gateway mode it runs while the link is
    connected, and an error ends a pass of the link; in direct mode it ends the loop. -/
def CallMedia.sendRound (s : CallMedia) (now : ℚ) (ok : Bool) :
    CallMedia × CallMediaAnswer :=
  if s.sendEnded || config.call.gateway && !s.call.link.connected then (s, .none)
  else
    match s.media.getAudio with
    | none => (s, .none)
    | some (pcm16, media) =>
      { s with media, sendEnded := s.call.link.shutdown || !config.call.gateway && !ok }.callStep
        config now (config.callerAudio pcm16)

/-- The loops of a session in any order. -/
def callMediaMachine :
    EventMachine CallMedia (Timed ℚ CallMediaEvent) CallMediaAnswer where
  step s e := match e.event with
    | .datagram data addr =>
      if s.recvEnded then (s, .none)
      else
        let s := s.latch config addr
        ({ s with media := s.media.feedInbound data, recvEnded := s.call.link.shutdown }, .none)
    | .recvError => ({ s with recvEnded := true }, .none)
    | .inbound =>
      if s.inboundEnded then (s, .none)
      else match s.media.inboundRound config.process with
        | none => (s, .none)
        | some media => ({ s with media, inboundEnded := s.call.link.shutdown }, .none)
    | .send ok => s.sendRound config e.now ok
    | .call event => s.callStep config e.now event

/-! ## What a step does -/

/-- The datagram that the receive loop takes, and where it comes from. -/
def CallMediaEvent.received? (s : CallMedia) : CallMediaEvent → Option (List UInt8 × Addr)
  | .datagram data addr => if s.recvEnded then none else some (data, addr)
  | _ => none

def CallMediaAnswer.upstream? : CallMediaAnswer → Option Pcm
  | .upstream data => some data
  | _ => Option.none

/-- The datagrams of a log that the receive loop took, with their sources. -/
def receivedIn (log : List (EventMachine.Entry CallMedia (Timed ℚ CallMediaEvent) CallMediaAnswer))
    : List (List UInt8 × Addr) :=
  log.filterMap fun t => t.event.event.received? t.pre

/-- The audio of a log that was handed to the connection to the model. -/
def upstreamIn (log : List (EventMachine.Entry CallMedia (Timed ℚ CallMediaEvent) CallMediaAnswer))
    : List Pcm :=
  log.filterMap fun t => t.answer.upstream?

section Steps

variable {config : CallMediaConfig} {received processed : List (List UInt8)}
    {taken upstream : List Pcm}
variable {s : CallMedia}

theorem CallMedia.latch_eq (s : CallMedia) (addr : Addr) :
    s.latch config addr = { s with remoteRtpAddr := (s.latch config addr).remoteRtpAddr } := by
  unfold latch
  split
  · rfl
  · split
    · rfl
    · rfl

theorem callerAudio_of_upstream {inner : CallConfig} {call : CallSession} {e : Timed ℚ CallEvent}
    {data : Pcm} (h : ((callMachine inner).step call e).2 = .upstream data) :
    e.event.isCallerAudio = true := by
  obtain ⟨now, event⟩ := e
  cases event with
  | gateway event =>
    simp only [callMachine] at h
    split at h
    · rcases call.gatewayStep_answer ⟨now, event⟩ with hnone | ⟨sent, hlink, -⟩
      · rw [hnone] at h
        simp at h
      · have hexplained := call.link.step_explained false ⟨now, event⟩
        rw [hlink] at hexplained
        obtain ⟨-, pcm16, hevent, -⟩ := hexplained
        obtain rfl : event = .callerAudio pcm16 := hevent
        rfl
    · simp at h
  | response parts turnComplete interrupted =>
    simp only [callMachine] at h
    split at h
    · simp at h
    · simp at h
  | callerAudio pcm16 => rfl
  | outbound reachable =>
    simp only [callMachine, CallSession.outboundRound] at h
    repeat' split at h
    all_goals simp at h
  | stop => simp [callMachine] at h

theorem CallMedia.reach_isCallerAudio (s : CallMedia) (e : CallEvent) :
    (s.reach e).isCallerAudio = e.isCallerAudio := by
  cases e with
  | outbound reachable => rfl
  | _ => rfl

/-- The other loops send nothing to the model. -/
theorem CallMedia.callStep_quiet (now : ℚ) {e : CallEvent} (he : e.isCallerAudio = false) :
    (s.callStep config now e).2.upstream? = none := by
  have hquiet : ∀ data, ((callMachine config.call).step s.call ⟨now, s.reach e⟩).2 ≠
      .upstream data := by
    intro data h
    have hcaller := callerAudio_of_upstream h
    rw [s.reach_isCallerAudio, he] at hcaller
    exact Bool.false_ne_true hcaller
  show (s.relay ((callMachine config.call).step s.call ⟨now, s.reach e⟩).2).upstream? = none
  generalize ((callMachine config.call).step s.call ⟨now, s.reach e⟩).2 = answer at hquiet
  cases answer with
  | none => rfl
  | upstream data => exact absurd rfl (hquiet data)
  | toPhone packet =>
    unfold relay
    cases s.remoteRtpAddr with
    | none => rfl
    | some addr => rfl

/-- Audio that the send loop takes is handed over, or silence for it. -/
theorem CallMedia.callStep_callerAudio (now : ℚ) (pcm16 : Pcm)
    (hrunning : config.call.gateway = true → s.call.link.connected = true) :
    (s.callStep config now (config.callerAudio pcm16)).2 = .upstream
    (s.call.link.echo.audioToSend now pcm16) := by
  unfold CallMediaConfig.callerAudio
  cases hgateway : config.call.gateway with
  | false =>
    rw [if_neg Bool.false_ne_true]
    show s.relay ((callMachine config.call).step s.call ⟨now, .callerAudio pcm16⟩).2 = _
    simp only [callMachine, hgateway, Bool.false_eq_true, if_false]
    rfl
  | true =>
    rw [if_pos rfl]
    show s.relay ((callMachine config.call).step s.call ⟨now, .gateway (.callerAudio pcm16)⟩).2 = _
    simp only [callMachine, hgateway, if_true, CallSession.gatewayStep, GatewayLink.step,
      hrunning hgateway]
    rfl

/-- What a step does: the datagram it takes, the session after it and its answer. -/
inductive CallMedia.Does (config : CallMediaConfig) (s : CallMedia) (now : ℚ) :
    Option (List UInt8 × Addr) → CallMedia × CallMediaAnswer → Prop where
  | idle : Does config s now none (s, .none)
  | recvError : Does config s now none ({ s with recvEnded := true }, .none)
  | datagram (data : List UInt8) (addr : Addr) (hrunning : s.recvEnded = false) :
      Does config s now (some (data, addr)) ({ s with
        remoteRtpAddr := (s.latch config addr).remoteRtpAddr
        media := s.media.feedInbound data
        recvEnded := s.call.link.shutdown }, .none)
  | inbound {media : InboundMedia Unit} (hround : s.media.inboundRound config.process = some media)
      : Does config s now none ({ s with media, inboundEnded := s.call.link.shutdown }, .none)
  | send {pcm16 : Pcm} {media : InboundMedia Unit} {sendEnded : Bool}
    (hget : s.media.getAudio = some (pcm16, media))
      (hrunning : s.sendEnded = false) (hconnected : config.call.gateway = true →
        s.call.link.connected = true)
      (hended : s.call.link.shutdown = true → sendEnded = true) :
      Does config s now none (({ s with media, sendEnded } : CallMedia).callStep config now
        (config.callerAudio pcm16))
  | call {e : CallEvent} (he : e.isCallerAudio = false) :
    Does config s now none (s.callStep config now e)

theorem CallMedia.step_does (config : CallMediaConfig) (s : CallMedia)
    (e : Timed ℚ CallMediaEvent) :
    s.Does config e.now (e.event.received? s) ((callMediaMachine config).step s e) := by
  obtain ⟨now, event⟩ := e
  cases event with
  | datagram data addr =>
    simp only [CallMediaEvent.received?, callMediaMachine]
    split_ifs with hended
    · exact .idle
    · rw [latch_eq]
      exact .datagram data addr (Bool.not_eq_true _ ▸ hended)
  | recvError => exact .recvError
  | inbound =>
    simp only [CallMediaEvent.received?, callMediaMachine]
    split
    · exact .idle
    · split
      next hempty => exact .idle
      next media hround => exact .inbound hround
  | send ok =>
    simp only [CallMediaEvent.received?, callMediaMachine, sendRound]
    split
    · exact .idle
    next hidle =>
      rw [Bool.or_eq_true, not_or, Bool.and_eq_true, not_and, Bool.not_eq_true, Bool.not_eq_true',
        Bool.not_eq_false] at hidle
      split
      next hempty => exact .idle
      next pcm16 media hget =>
        exact .send hget hidle.1 hidle.2 fun hshutdown => by rw [hshutdown, Bool.true_or]
  | call event => exact .call event.2

/-- The accounts of a session that received `received` and handed `upstream` to the connection to
    the model. -/
def CallMedia.Accounted (config : CallMediaConfig) (received : List (List UInt8))
    (upstream : List Pcm) (s : CallMedia) : Prop :=
  ∃ processed taken, s.media.Flow config.process () received processed taken ∧
    List.Forall₂ SentFor upstream taken

variable {now : ℚ} {datagram : Option (List UInt8 × Addr)} {result : CallMedia × CallMediaAnswer}

/-- **A step** keeps the accounts. -/
theorem CallMedia.Does.accounted (hdoes : s.Does config now datagram result)
    (h : s.Accounted config received upstream) :
    result.1.Accounted config (received ++ (datagram.map Prod.fst).toList)
    (upstream ++ result.2.upstream?.toList) := by
  obtain ⟨processed, taken, hflow, hsent⟩ := h
  have hnothing : List.Forall₂ SentFor (upstream ++ []) taken := by rwa [List.append_nil]
  cases hdoes with
  | datagram data addr => exact ⟨processed, taken, hflow.feedInbound data, hnothing⟩
  | idle => exact ⟨processed, taken, (List.append_nil received).symm ▸ hflow, hnothing⟩
  | recvError => exact ⟨processed, taken, (List.append_nil received).symm ▸ hflow, hnothing⟩
  | inbound hround =>
    obtain ⟨processed', hflow'⟩ := hflow.inboundRound hround
    exact ⟨processed', taken, (List.append_nil received).symm ▸ hflow', hnothing⟩
  | @send pcm16 media sendEnded hget hrunning hconnected hended =>
    refine ⟨processed, taken ++ [pcm16], (List.append_nil received).symm ▸ hflow.getAudio hget, ?_⟩
    rw [callStep_callerAudio (s := { s with media, sendEnded }) now pcm16 hconnected]
    exact List.rel_append hsent (.cons (sentFor_audioToSend _ _ _) .nil)
  | call he =>
    refine ⟨processed, taken, (List.append_nil received).symm ▸ hflow, ?_⟩
    rw [callStep_quiet now he]
    exact hnothing

end Steps

/-- **The run**: what is handed over is audio of the datagrams received, or silence for it. -/
theorem callMedia_accounted (config : CallMediaConfig) (modelSpeaking : Bool) (remote : Option Addr)
    (es : List (Timed ℚ CallMediaEvent)) :
    ((callMediaMachine config).run (.start modelSpeaking remote) es).Accounted config
      ((receivedIn ((callMediaMachine config).trace (.start modelSpeaking remote) es)).map Prod.fst)
      (upstreamIn ((callMediaMachine config).trace (.start modelSpeaking remote) es)) := by
  induction es using List.reverseRecOn with
  | nil => exact ⟨[], [], InboundMedia.flow_start, .nil⟩
  | append_singleton es e ih =>
    rw [receivedIn, upstreamIn, EventMachine.run_concat, EventMachine.filterMap_trace_concat,
      EventMachine.filterMap_trace_concat, List.map_append, ← Option.toList_map]
    exact (CallMedia.step_does config _ e).accounted ih

/-! ## What a frame gives -/

/-- `CallSession` as the SIP server makes it. -/
def CallMediaConfig.g711 (gateway : Bool) (ssrc : UInt32) (symmetric : Bool) (gain : ℤ) :
    CallMediaConfig where
  call := ⟨gateway, some g711CodecBridge, ssrc⟩
  decoder := some decodeToPcm16_16k
  decoder_isSome := rfl
  symmetric
  gain := some gain

/-- A sample after the gain loop. -/
def amplified (gain : ℤ) (s : Sample) : Sample :=
  if gain > 1 then ⟨max (-32768) (min 32767 (s.val * gain)), by unfold IsInt16; omega⟩ else s

theorem amplify_pcmOf (gain : ℤ) (samples : List Sample) :
    amplify (some gain) (pcmOf samples) = some (pcmOf (samples.map (amplified gain))) := by
  have heven : (pcmOf samples).length % 2 = 0 := by
    rw [length_pcmOf]
    omega
  unfold amplify amplified
  simp only [Option.bind_eq_bind, Option.bind_some]
  split_ifs with hgain
  · rw [pcmSamples_pcmOf, List.map_map]
    have hvalues : samples.map ((fun s => max (-32768) (min 32767 (s * gain))) ∘ Subtype.val) =
        (samples.map fun s : Sample =>
          (⟨max (-32768) (min 32767 (s.val * gain)), by unfold IsInt16; omega⟩ : Sample)).map
          Subtype.val := by
      rw [List.map_map]
      rfl
    rw [hvalues]
    exact structPack_samples _
  · rw [List.map_id']

/-- The sample of a byte of payload. -/
def payloadSample (payloadType : ℕ) : UInt8 → Sample :=
  if payloadType = PCMU_PAYLOAD_TYPE then ulawSample else alawSample

/-- What is heard of a packet: twice as many samples as it has bytes, every other one that of a
    byte. -/
def HeardOf (gain : ℤ) (rtp : RtpPacket) (pcm16 : Pcm) : Prop :=
  ∃ samples : List Sample, pcm16 = pcmOf (samples.map (amplified gain)) ∧
    samples.length = 2 * rtp.payload.length ∧
    ∀ i : ℕ, samples[2 * i]? = (rtp.payload[i]?).map (payloadSample rtp.payloadType)

/-- A datagram that has audio. -/
def IsAudio (rtp : RtpPacket) : Prop :=
  rtp.payload ≠ [] ∧ (rtp.payloadType = PCMU_PAYLOAD_TYPE ∨ rtp.payloadType = PCMA_PAYLOAD_TYPE)

theorem heard_doubled (gain : ℤ) (samples : List Sample) (hne : samples ≠ []) :
    ∃ doubled : List Sample,
      (do
        let pcm16 ← resample8kTo16k (pcmOf samples)
        if pcm16 = [] then none
        else amplify (some gain) pcm16) = some (pcmOf (doubled.map (amplified gain))) ∧
      doubled.length = 2 * samples.length ∧ ∀ i : ℕ, doubled[2 * i]? = samples[i]? := by
  obtain ⟨pairs, hpairs, hdoubles⟩ := resample8kTo16k_pcmOf samples
  have hlength : (pairs.flatMap fun p => [p.1, p.2]).length = 2 * samples.length := by
    rw [length_pairs, ← hdoubles.length_eq, List.length_range]
  refine ⟨pairs.flatMap fun p => [p.1, p.2], ?_, hlength, (doubled_between hdoubles).1⟩
  have hfull : pcmOf (pairs.flatMap fun p => [p.1, p.2]) ≠ [] := by
    intro hempty
    have hzero := congrArg List.length hempty
    rw [length_pcmOf, hlength, List.length_nil] at hzero
    exact hne (List.length_eq_zero_iff.1 (by omega))
  rw [hpairs, Option.bind_eq_bind, Option.bind_some, if_neg hfull]
  exact amplify_pcmOf gain _

theorem processFrame_payload {gateway : Bool} {ssrc : UInt32} {symmetric : Bool} {gain : ℤ}
    {frame : List UInt8} {rtp : RtpPacket} (hparse : RtpPacket.parse frame = some rtp)
    (htype : rtp.payloadType = PCMU_PAYLOAD_TYPE ∨ rtp.payloadType = PCMA_PAYLOAD_TYPE) :
    (CallMediaConfig.g711 gateway ssrc symmetric gain).processFrame frame =
      (do
        let pcm16 ← resample8kTo16k (pcmOf (rtp.payload.map (payloadSample rtp.payloadType)))
        if pcm16 = [] then none else amplify (some gain) pcm16) := by
  unfold CallMediaConfig.processFrame CallMediaConfig.g711 payloadSample
  rw [hparse]
  rcases htype with hulaw | halaw
  · simp only [Option.bind_eq_bind, Option.bind_some, hulaw, if_true, decodeToPcm16_16k,
      ulawToPcm16_eq]
  · simp only [Option.bind_eq_bind, Option.bind_some, halaw, if_true, alawToPcm16_eq,
      if_neg (show ¬ PCMA_PAYLOAD_TYPE = PCMU_PAYLOAD_TYPE by decide)]

/-- **What is heard**: audio in RTP is heard, and nothing else is. -/
theorem processFrame_g711 (gateway : Bool) (ssrc : UInt32) (symmetric : Bool) (gain : ℤ)
    (frame : List UInt8) : (∃ rtp pcm16, RtpPacket.parse frame = some rtp ∧ IsAudio rtp ∧
        (CallMediaConfig.g711 gateway ssrc symmetric gain).processFrame frame = some pcm16 ∧
        HeardOf gain rtp pcm16) ∨
      (∀ rtp, RtpPacket.parse frame = some rtp → ¬ IsAudio rtp) ∧
        (CallMediaConfig.g711 gateway ssrc symmetric gain).processFrame frame = none := by
  cases hparse : RtpPacket.parse frame with
  | none =>
    refine .inr ⟨fun rtp h => absurd h (Option.some_ne_none rtp).symm, ?_⟩
    unfold CallMediaConfig.processFrame
    rw [hparse]
    rfl
  | some rtp =>
    by_cases htype : rtp.payloadType = PCMU_PAYLOAD_TYPE ∨ rtp.payloadType = PCMA_PAYLOAD_TYPE
    · by_cases hempty : rtp.payload = []
      · refine .inr ⟨fun rtp' h haudio => haudio.1 (Option.some.inj h ▸ hempty), ?_⟩
        have hnil : resample8kTo16k (pcmOf []) = some [] := by decide
        rw [processFrame_payload hparse htype, hempty, List.map_nil, hnil, Option.bind_eq_bind,
          Option.bind_some, if_pos rfl]
      · obtain ⟨doubled, hgiven, hlength, heven⟩ :=
          heard_doubled gain (rtp.payload.map (payloadSample rtp.payloadType))
            (by rwa [ne_eq, List.map_eq_nil_iff])
        refine .inl ⟨rtp, _, rfl, ⟨hempty, htype⟩, ?_, doubled, rfl, ?_, fun i => ?_⟩
        · rw [processFrame_payload hparse htype]
          exact hgiven
        · rw [hlength, List.length_map]
        · rw [heven, List.getElem?_map]
    · refine .inr ⟨fun rtp' h haudio => htype (Option.some.inj h ▸ haudio.2), ?_⟩
      rw [not_or] at htype
      unfold CallMediaConfig.processFrame
      rw [hparse]
      simp only [Option.bind_eq_bind, Option.bind_some, if_neg htype.1, if_neg htype.2,
        Option.bind_none]

/-! ## The main results -/

/-- **The caller is heard**, whatever order the loops of a call run in. What is handed to the
    connection to the model is for datagrams that were received, in that order, and for none twice:
    the audio of each, or silence while the model speaks. The counters account for the rest, and as
    long as a call has received no more datagrams than a queue holds, there is none: what is neither
    handed over nor waiting was no audio. -/
theorem callMedia_heard (gateway : Bool) (ssrc : UInt32) (symmetric : Bool) (gain : ℤ)
    (modelSpeaking : Bool) (remote : Option Addr) (es : List (Timed ℚ CallMediaEvent)) :
    let config := CallMediaConfig.g711 gateway ssrc symmetric gain
    let log := (callMediaMachine config).trace (.start modelSpeaking remote) es
    let s := (callMediaMachine config).run (.start modelSpeaking remote) es
    (∃ processed taken,
      Account INBOUND_QUEUE_SIZE ((receivedIn log).map Prod.fst) processed s.media.inboundQueue
      s.media.inboundDrops ∧ s.media.framesReceived = (processed ++ s.media.inboundQueue).length ∧
      Account INBOUND_QUEUE_SIZE (processed.filterMap config.processFrame) taken
        s.media.geminiInQueue s.media.geminiInputDrops ∧
      List.Forall₂ SentFor (upstreamIn log) taken ∧
      ((receivedIn log).length ≤ INBOUND_QUEUE_SIZE →
        processed ++ s.media.inboundQueue = (receivedIn log).map Prod.fst ∧
          taken ++ s.media.geminiInQueue = processed.filterMap config.processFrame)) ∧
    ∀ frame, (∃ rtp pcm16, RtpPacket.parse frame = some rtp ∧ IsAudio rtp ∧
        config.processFrame frame = some pcm16 ∧ HeardOf gain rtp pcm16) ∨
      (∀ rtp, RtpPacket.parse frame = some rtp → ¬ IsAudio rtp) ∧ config.processFrame frame =
      none := by
  intro config log s
  refine ⟨?_, processFrame_g711 gateway ssrc symmetric gain⟩
  obtain ⟨processed, taken, hflow, hsent⟩ := callMedia_accounted config modelSpeaking remote es
  -- G.711 is decoded frame by frame, without a state
  have hdecoded : (processAll config.process () processed).2 =
      processed.filterMap config.processFrame :=
    congrArg Prod.snd (processAll_stateless config.processFrame () processed)
  have hgeminiIn := hflow.geminiIn
  rw [hdecoded] at hgeminiIn
  refine ⟨processed, taken, hflow.inbound, hflow.framesReceived, hgeminiIn, hsent, fun hfew => ?_⟩
  rw [← hdecoded]
  exact hflow.lossless (by rw [List.length_map]; exact hfew)

/-! ## Where the audio goes -/

/-- The address a session latches on to. -/
def latched (config : CallMediaConfig) (remote : Option Addr) (sources : List Addr) : Option Addr :=
  if config.symmetric then sources.getLast?.or remote else remote.or sources.head?

section Destination

variable {config : CallMediaConfig} {s : CallMedia} {now : ℚ}
    {datagram : Option (List UInt8 × Addr)}
variable {result : CallMedia × CallMediaAnswer} {remote : Option Addr} {sources : List Addr}

theorem CallMedia.latch_remote (hs : s.remoteRtpAddr = latched config remote sources)
    (addr : Addr) : (s.latch config addr).remoteRtpAddr = latched config remote
    (sources ++ [addr]) := by
  unfold latch
  unfold latched at hs ⊢
  rw [List.getLast?_append, List.getLast?_singleton, List.head?_append]
  cases hsymmetric : config.symmetric with
  | true =>
    rw [if_pos rfl, Option.some_or, Option.some_or]
    split
    · rfl
    · next old hold =>
        by_cases hsame : old = addr
        · rw [hsame, Bool.true_and, decide_eq_false (not_not.2 rfl), if_neg Bool.false_ne_true,
            hold, hsame]
        · rw [Bool.true_and, decide_eq_true hsame, if_pos rfl]
  | false =>
    rw [hsymmetric, if_neg Bool.false_ne_true] at hs
    rw [if_neg Bool.false_ne_true, ← Option.or_assoc, ← hs]
    split
    next hold => rw [hold, List.head?_singleton, Option.none_or]
    next old hold => rw [Bool.false_and, if_neg Bool.false_ne_true, hold, Option.some_or]

theorem CallMedia.Does.remoteRtpAddr (hdoes : s.Does config now datagram result)
    (hs : s.remoteRtpAddr = latched config remote sources) :
    result.1.remoteRtpAddr = latched config remote (sources ++ (datagram.map Prod.snd).toList) := by
  have hsame : s.remoteRtpAddr = latched config remote (sources ++ []) := by
    rw [List.append_nil, hs]
  cases hdoes with
  | datagram data addr => exact latch_remote hs addr
  | _ => exact hsame

theorem callMedia_remote (config : CallMediaConfig) (modelSpeaking : Bool) (remote : Option Addr)
    (es : List (Timed ℚ CallMediaEvent)) :
    ((callMediaMachine config).run (.start modelSpeaking remote) es).remoteRtpAddr =
      latched config remote
        ((receivedIn ((callMediaMachine config).trace (.start modelSpeaking remote) es)).map
          Prod.snd) := by
  induction es using List.reverseRecOn with
  | nil =>
    unfold latched
    split
    · rfl
    · exact Option.or_none.symm
  | append_singleton es e ih =>
    rw [EventMachine.run_concat, receivedIn, EventMachine.filterMap_trace_concat, List.map_append,
      ← Option.toList_map]
    exact (CallMedia.step_does config _ e).remoteRtpAddr ih

/-- Packets go to the remote address. -/
theorem CallMedia.Does.toPhone {packet : List UInt8} {addr : Addr}
    (hdoes : s.Does config now datagram result)
    (h : result.2 = .toPhone packet addr) : s.remoteRtpAddr = some addr := by
  have hrelay : ∀ answer, s.relay answer = .toPhone packet addr → s.remoteRtpAddr = some addr := by
    intro answer hanswer
    cases answer with
    | none => cases hanswer
    | upstream data => cases hanswer
    | toPhone sent =>
      unfold relay at hanswer
      cases hremote : s.remoteRtpAddr with
      | none =>
        rw [hremote] at hanswer
        cases hanswer
      | some remote =>
        rw [hremote] at hanswer
        cases hanswer
        rfl
  cases hdoes with
  | send => exact hrelay _ h
  | call => exact hrelay _ h
  | _ => cases h

/-! ## After `shutdown` -/

theorem GatewayLink.step_shutdown (greetOnce : Bool) {s : GatewayLink} (hs : s.shutdown = true)
    (e : Timed ℚ LinkEvent) : (s.step greetOnce e).1.shutdown = true := by
  obtain ⟨now, event⟩ := e
  cases event with
  | frame f =>
    simp only [step, recv, hs, if_true]
    split
    · rfl
    · exact hs
  | greetingDone ok =>
    simp only [step]
    split
    · cases ok with
      | true => exact hs
      | false => exact hs
    · exact hs
  | callerAudio pcm16 =>
    simp only [step]
    split
    · exact hs
    · exact hs
  | disconnect =>
    simp only [step, hs, if_true]
    split
    · exact hs
    · rfl
  | reconnect ok =>
    simp only [step, hs, Bool.or_true, if_true]
  | stop => rfl

/-- A call that is shut down stays so, and sends no packet. -/
theorem callMachine_shutdown (inner : CallConfig) {call : CallSession}
    (hs : call.link.shutdown = true) (e : Timed ℚ CallEvent) :
    ((callMachine inner).step call e).1.link.shutdown = true ∧
      ∀ packet, ((callMachine inner).step call e).2 ≠ .toPhone packet := by
  obtain ⟨now, event⟩ := e
  cases event with
  | gateway event =>
    simp only [callMachine]
    split
    · refine ⟨?_, fun packet h => ?_⟩
      · rw [CallSession.gatewayStep_link]
        exact GatewayLink.step_shutdown false hs _
      · rcases call.gatewayStep_answer ⟨now, event⟩ with hnone | ⟨data, -, hsent⟩
        · rw [hnone] at h
          cases h
        · rw [hsent] at h
          cases h
    · exact ⟨hs, fun packet h => by cases h⟩
  | response parts turnComplete interrupted =>
    simp only [callMachine, hs, Bool.or_true, if_true]
    exact ⟨trivial, fun packet h => by cases h⟩
  | callerAudio pcm16 =>
    simp only [callMachine]
    split
    · exact ⟨hs, fun packet h => by cases h⟩
    · exact ⟨hs, fun packet h => by cases h⟩
  | outbound reachable =>
    have hidle : (call.fillG711 inner).link.shutdown = true := by
      rw [CallSession.fillG711_link]
      exact hs
    simp only [callMachine, CallSession.outboundRound, hidle, Bool.or_true, if_true]
    exact ⟨trivial, fun packet h => by cases h⟩
  | stop => exact ⟨rfl, fun packet h => by cases h⟩

theorem CallMedia.callStep_shutdown (config : CallMediaConfig) {s : CallMedia}
    (hs : s.call.link.shutdown = true) (now : ℚ) (e : CallEvent) :
    (s.callStep config now e).1.call.link.shutdown = true ∧
      ∀ packet addr, (s.callStep config now e).2 ≠ .toPhone packet addr := by
  obtain ⟨hshutdown, hquiet⟩ := callMachine_shutdown config.call hs ⟨now, s.reach e⟩
  refine ⟨hshutdown, fun packet addr h => ?_⟩
  change s.relay ((callMachine config.call).step s.call ⟨now, s.reach e⟩).2 = _ at h
  generalize ((callMachine config.call).step s.call ⟨now, s.reach e⟩).2 = answer at h hquiet
  cases answer with
  | none => cases h
  | upstream data => cases h
  | toPhone sent => exact hquiet sent rfl

/-- **A loop that finds the event set** has run its last round. -/
theorem CallMedia.Does.shutdown (hdoes : s.Does config now datagram result)
    (hs : s.call.link.shutdown = true) : result.1.call.link.shutdown = true ∧
    (∀ packet addr, result.2 ≠ .toPhone packet addr) ∧
      (datagram ≠ none → result.1.recvEnded = true) ∧ (result.2.upstream? ≠ none →
        result.1.sendEnded = true) := by
  cases hdoes with
  | idle => exact ⟨hs, fun _ _ h => (by cases h), fun h => absurd rfl h, fun h => absurd rfl h⟩
  | recvError => exact ⟨hs, fun _ _ h => (by cases h), fun _ => rfl, fun h => absurd rfl h⟩
  | datagram data addr => exact ⟨hs, fun _ _ h => (by cases h), fun _ => hs, fun h => absurd rfl h⟩
  | inbound => exact ⟨hs, fun _ _ h => (by cases h), fun h => absurd rfl h, fun h => absurd rfl h⟩
  | @send pcm16 media sendEnded hget hrunning hconnected hended =>
    have hafter : ({ s with media, sendEnded } : CallMedia).call.link.shutdown = true := hs
    obtain ⟨hshutdown, hquiet⟩ := callStep_shutdown config hafter now (config.callerAudio pcm16)
    exact ⟨hshutdown, hquiet, fun h => absurd rfl h, fun _ => hended hs⟩
  | call he =>
    obtain ⟨hshutdown, hquiet⟩ := callStep_shutdown config hs now _
    exact ⟨hshutdown, hquiet, fun h => absurd rfl h, fun h => absurd (callStep_quiet now he) h⟩

theorem CallMedia.Does.recvEnded (hdoes : s.Does config now datagram result)
    (hs : s.recvEnded = true) : datagram = none ∧ result.1.recvEnded = true := by
  cases hdoes with
  | recvError => exact ⟨rfl, rfl⟩
  | datagram data addr hrunning =>
    rw [hs] at hrunning
    cases hrunning
  | _ => exact ⟨rfl, hs⟩

theorem CallMedia.Does.sendEnded (hdoes : s.Does config now datagram result)
    (hs : s.sendEnded = true) : result.2.upstream? = none ∧ result.1.sendEnded = true := by
  cases hdoes with
  | send hget hrunning =>
    rw [hs] at hrunning
    cases hrunning
  | call he => exact ⟨callStep_quiet now he, hs⟩
  | _ => exact ⟨rfl, hs⟩

end Destination

/-- **Where a call's audio goes.** Packets go to one address: the one of the session description, or
    else the source of the first datagram; with symmetric latching, the source of the last datagram.
    Once the call is shut down no packet is sent any more, at most one datagram is still taken and
    at most one chunk of audio still goes to the model. -/
theorem callMedia_destination (config : CallMediaConfig) (modelSpeaking : Bool)
    (remote : Option Addr) (es : List (Timed ℚ CallMediaEvent)) :
    let log := (callMediaMachine config).trace (.start modelSpeaking remote) es
    let s := (callMediaMachine config).run (.start modelSpeaking remote) es
    (∀ e packet addr, ((callMediaMachine config).step s e).2 = .toPhone packet addr →
      latched config remote ((receivedIn log).map Prod.snd) = some addr) ∧
    (s.call.link.shutdown = true → ∀ es' : List (Timed ℚ CallMediaEvent),
      (∀ t ∈ (callMediaMachine config).trace s es', ∀ packet addr,
        t.answer ≠ .toPhone packet addr) ∧
      (receivedIn ((callMediaMachine config).trace s es')).length ≤ 1 ∧
      (upstreamIn ((callMediaMachine config).trace s es')).length ≤ 1) := by
  intro log s
  constructor
  · intro e packet addr h
    rw [← callMedia_remote config modelSpeaking remote es]
    exact (CallMedia.step_does config s e).toPhone h
  · intro hshutdown es'
    have hstopped :=
      fun s e (hs : s.call.link.shutdown = true) => (CallMedia.step_does config s e).shutdown hs
    refine ⟨?_, ?_, ?_⟩
    · have halways : (callMediaMachine config).Always (fun s => s.call.link.shutdown = true) s
          es' :=
        (callMediaMachine config).always_of_guarded (P := fun s => s.call.link.shutdown = true)
          (G := fun _ _ => True) (fun s e hs _ => (hstopped s e hs).1) hshutdown fun _ _ => trivial
      intro t ht packet addr h
      rw [(callMediaMachine config).eq_entry_of_mem_trace ht] at h
      exact (hstopped _ t.event (halways.pre _ ht)).2.1 packet addr h
    · exact (callMediaMachine config).length_filterMap_trace_le_one (P := fun s =>
        s.call.link.shutdown = true)
        (fun s e hs => ⟨(hstopped s e hs).1, (hstopped s e hs).2.2.1⟩)
        (fun s e _ (hended : s.recvEnded = true) => (CallMedia.step_does config s e).recvEnded
          hended) hshutdown es'
    · exact (callMediaMachine config).length_filterMap_trace_le_one (P := fun s =>
        s.call.link.shutdown = true)
        (fun s e hs => ⟨(hstopped s e hs).1, (hstopped s e hs).2.2.2⟩)
        (fun s e _ (hended : s.sendEnded = true) => (CallMedia.step_does config s e).sendEnded
          hended) hshutdown es'

end Ekaette
