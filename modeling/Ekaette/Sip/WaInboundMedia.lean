import Ekaette.Sip.InboundMedia

set_option autoImplicit false

/-! # Caller audio of a WhatsApp call

The loops of `WaSession` that bring the caller's audio to the gateway. Datagrams are taken from the
negotiated endpoint only; the SRTP session and the Opus decoder, which are outside the repository,
keep state from frame to frame, and see those datagrams in the order they came. -/

namespace Ekaette

open BoundedQueue

variable {ρ σ : Type}

structure WaMediaConfig (ρ σ : Type) where
  remoteMediaAddr : Option Addr
  /-- `srtp_receiver.unprotect`; `none` where it raises -/
  unprotect : Option (ρ → List UInt8 → ρ × Option (List UInt8))
  /-- `codec_bridge.decode_to_pcm16_16k`; `none` where it raises -/
  decode : Option (σ → List UInt8 → σ × Option Pcm)

variable (config : WaMediaConfig ρ σ)

/-- `srtp_receiver.unprotect`, if there is one. -/
def WaMediaConfig.rtpPacket (srtp : ρ) (frame : List UInt8) :
    ρ × Option (List UInt8) :=
  match config.unprotect with
  | some unprotect => unprotect srtp frame
  | none => (srtp, some frame)

/-- `codec_bridge.decode_to_pcm16_16k` of the payload, if there is a bridge. -/
def WaMediaConfig.pcm16 (decoder : σ) (rtpPacket : List UInt8) :
    σ × Option Pcm :=
  match config.decode with
  | some decode => decode decoder (if rtpPacket.length > 12 then rtpPacket.drop 12 else rtpPacket)
  | none => (decoder, some rtpPacket)

/-- What `_media_inbound_loop` makes of a frame; no audio where something raises or there is
    none. -/
def WaMediaConfig.process (decoders : ρ × σ) (frame : List UInt8) :
    (ρ × σ) × Option Pcm :=
  let (srtp, rtpPacket) := config.rtpPacket decoders.1 frame
  match rtpPacket with
  | none => ((srtp, decoders.2), none)
  | some rtpPacket =>
    let (decoder, pcm16) := config.pcm16 decoders.2 rtpPacket
    ((srtp, decoder), if pcm16 = some [] then none else pcm16)

structure WaMedia (ρ σ : Type) where
  link : GatewayLink
  media : InboundMedia (ρ × σ)
  /-- the loops that have ended -/
  recvEnded : Bool
  inboundEnded : Bool
  sendEnded : Bool

/-- A session that has just connected to the gateway. -/
def WaMedia.start (decoders : ρ × σ) : WaMedia ρ σ := ⟨.start, .start decoders, false, false, false⟩

def LinkEvent.isCallerAudio : LinkEvent → Bool
  | .callerAudio _ => true
  | _ => false

inductive WaMediaEvent where
  /-- `sock_recvfrom` returns -/
  | datagram (data : List UInt8) (addr : Addr)
  /-- it raises an `OSError` -/
  | recvError
  /-- a round of `_media_inbound_loop` -/
  | inbound
  /-- a round of the send loop -/
  | send
  /-- a step of the gateway loops -/
  | link (e : { e : LinkEvent // e.isCallerAudio = false })

def LinkAnswer.upstream? : LinkAnswer → Option Pcm
  | .upstream data => some data
  | _ => none

/-- A datagram is taken unless another endpoint than that one is negotiated. -/
def WaMediaConfig.takes (addr : Addr) : Bool :=
  config.remoteMediaAddr.all (· = addr)

/-- A round of the send loop, which runs while the link is connected. -/
def WaMedia.sendRound (s : WaMedia ρ σ) (now : ℚ) : WaMedia ρ σ × Option Pcm :=
  if s.sendEnded || !s.link.connected then (s, none)
  else
    match s.media.getAudio with
    | none => (s, none)
    | some (pcm16, media) =>
      let (link, answer) := s.link.step true ⟨now, .callerAudio pcm16⟩
      ({ s with link, media, sendEnded := s.link.shutdown }, answer.upstream?)

/-- The loops of a session in any order; the answer is what is handed to the connection to the
    gateway. -/
def waMediaMachine :
    EventMachine (WaMedia ρ σ) (Timed ℚ WaMediaEvent) (Option Pcm) where
  step s e := match e.event with
    | .datagram data addr =>
      if s.recvEnded then (s, none)
      else
        let media := if config.takes addr then s.media.feedInbound data else s.media
        ({ s with media, recvEnded := s.link.shutdown }, none)
    | .recvError => ({ s with recvEnded := true }, none)
    | .inbound =>
      if s.inboundEnded then (s, none)
      else match s.media.inboundRound config.process with
        | none => (s, none)
        | some media => ({ s with media, inboundEnded := s.link.shutdown }, none)
    | .send => s.sendRound e.now
    | .link event => ({ s with link := (s.link.step true ⟨e.now, event⟩).1 },
      (s.link.step true ⟨e.now, event⟩).2.upstream?)

/-- The datagram that the receive loop takes, and where it comes from. -/
def WaMediaEvent.received? (s : WaMedia ρ σ) :
    WaMediaEvent → Option (List UInt8 × Addr)
  | .datagram data addr => if !s.recvEnded && config.takes addr then some (data, addr) else none
  | _ => none

/-- The datagrams of a log that the receive loop took, with their sources. -/
def waReceivedIn
    (log : List (EventMachine.Entry (WaMedia ρ σ) (Timed ℚ WaMediaEvent) (Option Pcm))) :
    List (List UInt8 × Addr) :=
  log.filterMap fun t => t.event.event.received? config t.pre

/-- The audio of a log that was sent to the gateway. -/
def waUpstreamIn (log : List (EventMachine.Entry (WaMedia ρ σ) (Timed ℚ WaMediaEvent)
    (Option Pcm))) : List Pcm :=
  log.filterMap fun t => t.answer

/-! ## What a step does -/

/-- The other loops of the gateway send no audio. -/
theorem linkStep_quiet {link : GatewayLink} {now : ℚ} {e : LinkEvent}
    (he : e.isCallerAudio = false) : (link.step true ⟨now, e⟩).2.upstream? = none := by
  have hexplained := link.step_explained true ⟨now, e⟩
  cases hanswer : (link.step true ⟨now, e⟩).2 with
  | upstream data =>
    rw [hanswer] at hexplained
    obtain ⟨-, pcm16, hevent, -⟩ := hexplained
    obtain rfl : e = .callerAudio pcm16 := hevent
    cases he
  | _ => rfl

/-- Audio that the send loop takes is sent, or silence for it. -/
theorem linkStep_callerAudio {link : GatewayLink} (hconnected : link.connected = true) (now : ℚ)
    (pcm16 : Pcm) : link.step true ⟨now, .callerAudio pcm16⟩ =
    (link, .upstream (link.echo.audioToSend now pcm16)) := by
  simp only [GatewayLink.step, hconnected, if_true]

section Steps

variable {config : WaMediaConfig ρ σ} {initial : ρ × σ} {received : List (List UInt8)}
    {upstream : List Pcm}
variable {s : WaMedia ρ σ}

/-- The accounts of a session that received `received` and handed `upstream` to the connection to
    the gateway. -/
def WaMedia.Accounted (config : WaMediaConfig ρ σ) (initial : ρ × σ) (received : List (List UInt8))
    (upstream : List Pcm) (s : WaMedia ρ σ) : Prop :=
  ∃ processed taken, s.media.Flow config.process initial received processed taken ∧
    List.Forall₂ SentFor upstream taken

/-- What a step does: the datagram it takes, the session after it and what is sent. -/
inductive WaMedia.Does (config : WaMediaConfig ρ σ) (s : WaMedia ρ σ) (now : ℚ) :
    Option (List UInt8 × Addr) → WaMedia ρ σ × Option Pcm → Prop where
  | nothing (recvEnded : Bool) : Does config s now none ({ s with recvEnded }, none)
  | datagram (data : List UInt8) (addr : Addr) : Does config s now (some (data, addr))
      ({ s with media := s.media.feedInbound data, recvEnded := s.link.shutdown }, none)
  | inbound {media : InboundMedia (ρ × σ)}
    (hround : s.media.inboundRound config.process = some media) :
      Does config s now none ({ s with media, inboundEnded := s.link.shutdown }, none)
  | send {pcm16 : Pcm} {media : InboundMedia (ρ × σ)}
    (hget : s.media.getAudio = some (pcm16, media)) :
      Does config s now none ({ s with media, sendEnded := s.link.shutdown },
        some (s.link.echo.audioToSend now pcm16))
  | link {link : GatewayLink} (hlink : s.link.shutdown = true → link.shutdown = true) :
      Does config s now none ({ s with link }, none)

theorem WaMedia.step_does (config : WaMediaConfig ρ σ) (s : WaMedia ρ σ)
    (e : Timed ℚ WaMediaEvent) : s.Does config e.now (e.event.received? config s)
    ((waMediaMachine config).step s e) := by
  obtain ⟨now, event⟩ := e
  cases event with
  | datagram data addr =>
    simp only [WaMediaEvent.received?, waMediaMachine]
    cases hended : s.recvEnded with
    | true =>
      rw [Bool.not_true, Bool.false_and, if_neg Bool.false_ne_true, if_pos rfl]
      exact .nothing s.recvEnded
    | false =>
      rw [Bool.not_false, Bool.true_and, if_neg Bool.false_ne_true]
      split_ifs with htakes
      · exact .datagram data addr
      · exact .nothing s.link.shutdown
  | recvError => exact .nothing true
  | inbound =>
    simp only [WaMediaEvent.received?, waMediaMachine]
    split
    · exact .nothing s.recvEnded
    · split
      next hempty => exact .nothing s.recvEnded
      next media hround => exact .inbound hround
  | send =>
    simp only [WaMediaEvent.received?, waMediaMachine, sendRound]
    split
    · exact .nothing s.recvEnded
    next hidle =>
      rw [Bool.or_eq_true, not_or, Bool.not_eq_true', Bool.not_eq_false] at hidle
      split
      next hempty => exact .nothing s.recvEnded
      next pcm16 media hget =>
        rw [linkStep_callerAudio hidle.2]
        exact .send hget
  | link event =>
    simp only [WaMediaEvent.received?, waMediaMachine]
    rw [linkStep_quiet event.2]
    exact .link fun hs => GatewayLink.step_shutdown true hs _

variable {now : ℚ} {datagram : Option (List UInt8 × Addr)} {result : WaMedia ρ σ × Option Pcm}

/-- **A step** keeps the accounts. -/
theorem WaMedia.Does.accounted (hdoes : s.Does config now datagram result)
    (h : s.Accounted config initial received upstream) :
    result.1.Accounted config initial (received ++ (datagram.map Prod.fst).toList)
      (upstream ++ result.2.toList) := by
  obtain ⟨processed, taken, hflow, hsent⟩ := h
  have hnothing : List.Forall₂ SentFor (upstream ++ []) taken := by rwa [List.append_nil]
  cases hdoes with
  | datagram data addr => exact ⟨processed, taken, hflow.feedInbound data, hnothing⟩
  | nothing => exact ⟨processed, taken, (List.append_nil received).symm ▸ hflow, hnothing⟩
  | inbound hround =>
    obtain ⟨processed', hflow'⟩ := hflow.inboundRound hround
    exact ⟨processed', taken, (List.append_nil received).symm ▸ hflow', hnothing⟩
  | send hget =>
    exact ⟨processed, _, (List.append_nil received).symm ▸ hflow.getAudio hget,
      List.rel_append hsent (.cons (sentFor_audioToSend _ _ _) .nil)⟩
  | link => exact ⟨processed, taken, (List.append_nil received).symm ▸ hflow, hnothing⟩

/-- A call that is shut down stays so. -/
theorem WaMedia.Does.shutdown (hdoes : s.Does config now datagram result)
    (hs : s.link.shutdown = true) : result.1.link.shutdown = true := by
  cases hdoes with
  | link hlink => exact hlink hs
  | _ => exact hs

end Steps

variable (config : WaMediaConfig ρ σ)

/-- **The run**. -/
theorem waMedia_accounted (initial : ρ × σ)
    (es : List (Timed ℚ WaMediaEvent)) : ((waMediaMachine config).run (.start initial) es).Accounted
    config initial
      ((waReceivedIn config ((waMediaMachine config).trace (.start initial) es)).map Prod.fst)
      (waUpstreamIn ((waMediaMachine config).trace (.start initial) es)) := by
  induction es using List.reverseRecOn with
  | nil => exact ⟨[], [], InboundMedia.flow_start, .nil⟩
  | append_singleton es e ih =>
    rw [waReceivedIn, waUpstreamIn, EventMachine.run_concat, EventMachine.filterMap_trace_concat,
      EventMachine.filterMap_trace_concat, List.map_append, ← Option.toList_map]
    exact (WaMedia.step_does config _ e).accounted ih

theorem mem_waReceivedIn {config : WaMediaConfig ρ σ} {addr : Addr}
    (hremote : config.remoteMediaAddr = some addr)
    {log : List (EventMachine.Entry (WaMedia ρ σ) (Timed ℚ WaMediaEvent) (Option Pcm))}
    {x : List UInt8 × Addr} (hx : x ∈ waReceivedIn config log) : x.2 = addr := by
  obtain ⟨t, -, ht⟩ := List.mem_filterMap.1 hx
  unfold WaMediaEvent.received? at ht
  split at ht
  next data source hevent =>
    split_ifs at ht with htakes
    obtain rfl := Option.some.inj ht
    rw [Bool.and_eq_true, WaMediaConfig.takes, hremote, Option.all_some,
      decide_eq_true_eq] at htakes
    exact htakes.2.symm
  next hother => cases ht

/-! ## Datagrams of strangers -/

/-- An event that is a datagram of another endpoint than the negotiated one. -/
def WaMediaEvent.isForeign : WaMediaEvent → Bool
  | .datagram _ addr => !config.takes addr
  | _ => false

/-- Until the call is shut down, a datagram of a stranger changes nothing. -/
theorem WaMedia.step_foreign {config : WaMediaConfig ρ σ} {s : WaMedia ρ σ}
    {e : Timed ℚ WaMediaEvent} (hforeign : e.event.isForeign config = true)
    (hs : s.link.shutdown = false) : (waMediaMachine config).step s e = (s, none) := by
  obtain ⟨now, event⟩ := e
  cases event with
  | datagram data addr =>
    have htakes : config.takes addr = false := Bool.not_eq_true' _ ▸ hforeign
    simp only [waMediaMachine, htakes, Bool.false_eq_true, if_false]
    split
    · rfl
    · next hended =>
        rw [Bool.not_eq_true] at hended
        rw [hs, ← hended]
  | _ => cases hforeign

theorem waMedia_foreign (initial : ρ × σ) (es : List (Timed ℚ WaMediaEvent))
    (hs : ((waMediaMachine config).run (.start initial) es).link.shutdown = false) :
    (waMediaMachine config).run (.start initial) (es.filter fun e => !e.event.isForeign config) =
        (waMediaMachine config).run (.start initial) es ∧
      waUpstreamIn ((waMediaMachine config).trace (.start initial)
        (es.filter fun e => !e.event.isForeign config)) =
        waUpstreamIn ((waMediaMachine config).trace (.start initial) es) := by
  induction es using List.reverseRecOn with
  | nil => exact ⟨rfl, rfl⟩
  | append_singleton es e ih =>
    rw [EventMachine.run_concat] at hs ⊢
    -- a call that is not over was not over before
    have hbefore : ((waMediaMachine config).run (.start initial) es).link.shutdown = false := by
      by_contra hshutdown
      rw [Bool.not_eq_false] at hshutdown
      rw [EventMachine.next, (WaMedia.step_does config _ e).shutdown hshutdown] at hs
      cases hs
    obtain ⟨hrun, hupstream⟩ := ih hbefore
    rw [List.filter_append, waUpstreamIn, waUpstreamIn, EventMachine.filterMap_trace_concat]
    cases hforeign : e.event.isForeign config with
    | true =>
      have hstep := WaMedia.step_foreign hforeign hbefore
      rw [List.filter_cons_of_neg (by rw [hforeign]; decide), List.filter_nil, List.append_nil,
        hrun]
      refine ⟨(congrArg Prod.fst hstep).symm, ?_⟩
      show waUpstreamIn _ = waUpstreamIn _ ++ ((waMediaMachine config).step _ e).2.toList
      rw [hstep, hupstream, Option.toList_none, List.append_nil]
    | false =>
      rw [List.filter_cons_of_pos (by rw [hforeign]; rfl), List.filter_nil, EventMachine.run_concat,
        EventMachine.filterMap_trace_concat, hrun]
      exact ⟨rfl, congrArg (· ++ _) hupstream⟩

/-- **Only the negotiated endpoint is heard.** In whatever order the loops of a call run, everything
    handed to the connection to the gateway is audio, or silence in place of it, that the SRTP
    session and the decoder gave for datagrams of the negotiated endpoint, which they saw in the
    order they came. The counters account for the rest; as long as no more datagrams were taken than
    a queue holds, all of their audio is handed over or waits; and until the call is shut down it
    goes on exactly as if nobody else had sent anything. -/
theorem waMedia_heard (config : WaMediaConfig ρ σ) (initial : ρ × σ)
    (es : List (Timed ℚ WaMediaEvent)) :
    let log := (waMediaMachine config).trace (.start initial) es
    let s := (waMediaMachine config).run (.start initial) es
    let own := es.filter fun e => !e.event.isForeign config
    (∃ processed taken,
      Account INBOUND_QUEUE_SIZE ((waReceivedIn config log).map Prod.fst) processed
        s.media.inboundQueue s.media.inboundDrops ∧
      s.media.framesReceived = (processed ++ s.media.inboundQueue).length ∧
      s.media.decoders = (processAll config.process initial processed).1 ∧
      (taken ++ s.media.geminiInQueue).Sublist (processAll config.process initial processed).2 ∧
      List.Forall₂ SentFor (waUpstreamIn log) taken ∧
      ((waReceivedIn config log).length ≤ INBOUND_QUEUE_SIZE →
        processed ++ s.media.inboundQueue = (waReceivedIn config log).map Prod.fst ∧
          taken ++ s.media.geminiInQueue = (processAll config.process initial processed).2)) ∧
    (∀ addr, config.remoteMediaAddr = some addr → ∀ x ∈ waReceivedIn config log, x.2 = addr) ∧
    (s.link.shutdown = false → (waMediaMachine config).run (.start initial) own = s ∧
      waUpstreamIn ((waMediaMachine config).trace (.start initial) own) = waUpstreamIn log) := by
  intro log s own
  refine ⟨?_, fun addr hremote x hx => mem_waReceivedIn hremote hx,
    waMedia_foreign config initial es⟩
  obtain ⟨processed, taken, hflow, hsent⟩ := waMedia_accounted config initial es
  refine ⟨processed, taken, hflow.inbound, hflow.framesReceived, hflow.decoders,
    hflow.geminiIn.inOrder, hsent, fun hfew => ?_⟩
  exact hflow.lossless (by rw [List.length_map]; exact hfew)

end Ekaette
