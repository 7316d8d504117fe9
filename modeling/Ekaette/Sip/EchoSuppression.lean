import Ekaette.Sip.CallSession

set_option autoImplicit false

/-! # Echo suppression of a phone call

What echoes in the caller's audio is what the phone plays, and that is what waits in the outbound
queue when the model has long finished its turn. The mute follows the model: it ends when the turn
is over, or is interrupted, and not when the queue has been played.

So the suppression covers the playback in the runs that end no turn before its audio has been
played. -/

namespace Ekaette

/-! ## The property -/

/-- What is to be known of the past: when audio was last sent to the phone, and the last reading of
    the clock. -/
structure PlaybackMonitor where
  lastSent : Option ℚ
  clock : ℚ

def PlaybackMonitor.observe (x : PlaybackMonitor) (e : Timed ℚ CallEvent) :
    CallAnswer → PlaybackMonitor
  | .toPhone _ => ⟨some e.now, e.now⟩
  | .upstream _ => { x with clock := e.now }
  | .none => { x with clock := e.now }

/-- A session with its past. -/
def monitoredCall (config : CallConfig) :
    EventMachine (CallSession × PlaybackMonitor) (Timed ℚ CallEvent) CallAnswer :=
  (callMachine config).monitor PlaybackMonitor.observe

/-- The start of a session. -/
def callStart (modelSpeaking : Bool) (clock : ℚ) : CallSession × PlaybackMonitor :=
  (.start modelSpeaking, ⟨none, clock⟩)

/-- The clock never goes backwards. -/
def ClockOrdered (clock : ℚ) (es : List (Timed ℚ CallEvent)) : Prop :=
  (clock :: es.map (·.now)).IsChain (· ≤ ·)

/-- No agent audio waits in the queue or in the buffer, and the holdoff since the last that was sent
    to the phone has passed. -/
structure PlaybackOver (s : CallSession × PlaybackMonitor) (now : ℚ) : Prop where
  queue : s.1.outboundQueue = []
  buffer : s.1.outboundBuffer = []
  holdoff : ∀ last, s.2.lastSent = some last → last + ECHO_HOLDOFF_SEC ≤ now

/-- **Echo suppression covers playback**: more than silence is sent to the model only once the
    playback is over. -/
def EchoCovered (t : EventMachine.Entry (CallSession × PlaybackMonitor)
    (Timed ℚ CallEvent) CallAnswer) : Prop :=
  ∀ data, t.answer = .upstream data → data ≠ SILENCE_FRAME → PlaybackOver t.pre t.event.now

/-! ## The condition -/

/-- The event ends the mute: a message that ends the agent's turn, or a greeting that cannot be
    sent. -/
def CallEvent.unmutes (config : CallConfig) (s : CallSession) : CallEvent → Bool
  | .gateway (.frame (.text msg)) =>
    config.gateway && s.link.connected && !s.link.greeting && !s.link.shutdown &&
      decide (textEffect msg = .endTurn)
  | .gateway (.greetingDone ok) => config.gateway && s.link.connected && s.link.greeting && !ok
  | .response _ turnComplete interrupted =>
    !config.gateway && !s.link.shutdown && (turnComplete || interrupted)
  | _ => false

/-- The audio a response of the model brings. -/
def CallEvent.inlineData : CallEvent → List Pcm
  | .response parts _ _ => parts
  | _ => []

/-- All of the agent's audio has been sent to the phone. -/
structure PlayedOut (s : CallSession) : Prop where
  queue : s.outboundQueue = []
  buffer : s.outboundBuffer = []
  g711 : s.g711Buffer.length < FRAME_SIZE

/-- The mute ends only when the audio has been played. A greeting that cannot be sent leaves the end
    of the last turn as it is, so there the holdoff has to be over as well. -/
structure UnmutesPlayedOut (config : CallConfig) (s : CallSession × PlaybackMonitor)
    (e : Timed ℚ CallEvent) : Prop where
  playedOut : e.event.unmutes config s.1 = true → PlayedOut s.1 ∧ ∀ data ∈ e.event.inlineData,
    data = []
  failedGreeting : e.event.unmutes config s.1 = true → e.event = .gateway (.greetingDone false) →
    ∀ last, s.2.lastSent = some last →
      last ≤ s.1.link.echo.modelSpeechEndTime ∨ last + ECHO_HOLDOFF_SEC ≤ e.now

/-! ## When a session is unmuted -/

/-- What is sent to the model is caller audio that went through the mute. -/
theorem audioToSend_of_upstream (config : CallConfig) {s : CallSession} {e : Timed ℚ CallEvent}
    {data : Pcm} (h : ((callMachine config).step s e).2 = .upstream data) :
    ∃ pcm16, data = s.link.echo.audioToSend e.now pcm16 := by
  obtain ⟨now, event⟩ := e
  cases event with
  | gateway event =>
    simp only [callMachine] at h
    split at h
    · rcases s.gatewayStep_answer ⟨now, event⟩ with hnone | ⟨sent, hlink, hsent⟩
      · rw [hnone] at h
        simp at h
      · rw [hsent, CallAnswer.upstream.injEq] at h
        rw [← h]
        have hexplained := s.link.step_explained false ⟨now, event⟩
        rw [hlink] at hexplained
        obtain ⟨-, pcm16, -, hdata⟩ := hexplained
        exact ⟨pcm16, hdata⟩
    · simp at h
  | response parts turnComplete interrupted =>
    simp only [callMachine] at h
    split at h
    · simp at h
    · simp at h
  | callerAudio pcm16 =>
    simp only [callMachine] at h
    split at h
    · simp at h
    · exact ⟨pcm16, (CallAnswer.upstream.inj h).symm⟩
  | outbound reachable =>
    simp only [callMachine, CallSession.outboundRound] at h
    repeat' split at h
    all_goals simp at h
  | stop => simp [callMachine] at h

/-! ## The mute covers the playback -/

/-- What every step that meets the condition preserves: an unmuted session has played all it
    received, and what it sent last is as old as the holdoff wants it to be. -/
structure MuteCovers (s : CallSession × PlaybackMonitor) : Prop where
  playedOut : s.1.link.echo.modelSpeaking = false → PlayedOut s.1
  holdoff : s.1.link.echo.modelSpeaking = false → ∀ last, s.2.lastSent = some last →
    last ≤ s.1.link.echo.modelSpeechEndTime ∨ last + ECHO_HOLDOFF_SEC ≤ s.2.clock
  sent : ∀ last, s.2.lastSent = some last → last ≤ s.2.clock

theorem muteCovers_start (modelSpeaking : Bool) (clock : ℚ) :
    MuteCovers (callStart modelSpeaking clock) where
  playedOut _ := ⟨rfl, rfl, Nat.zero_lt_succ _⟩
  holdoff _ last h := by simp [callStart] at h
  sent last h := by simp [callStart] at h

variable {config : CallConfig}

theorem echoCovered_of_muteCovers {s : CallSession × PlaybackMonitor}
    {e : Timed ℚ CallEvent} (hs : MuteCovers s) (hclock : s.2.clock ≤ e.now) :
    EchoCovered ((monitoredCall config).entry s e) := by
  intro data hanswer hdata
  obtain ⟨pcm16, rfl⟩ := audioToSend_of_upstream config hanswer
  obtain ⟨hspeaking, hend⟩ := EchoMute.unmuted_of_audioToSend hdata
  refine ⟨(hs.playedOut hspeaking).queue, (hs.playedOut hspeaking).buffer, fun last hlast => ?_⟩
  rcases hs.holdoff hspeaking last hlast with hle | hle
  · simp only [EventMachine.entry] at hend ⊢
    linarith
  · exact hle.trans hclock

variable {s : CallSession}

/-- A muted session covers whatever it plays. -/
theorem muteCovers_of_speaking {x : PlaybackMonitor} (hspeaking : s.link.echo.modelSpeaking = true)
    (hsent : ∀ last, x.lastSent = some last → last ≤ x.clock) : MuteCovers (s, x) where
  playedOut h := by simp [hspeaking] at h
  holdoff h := by simp [hspeaking] at h
  sent := hsent

/-- Time passing alone uncovers nothing. -/
theorem MuteCovers.later {s : CallSession × PlaybackMonitor} (hs : MuteCovers s) {now : ℚ}
    (hclock : s.2.clock ≤ now) : MuteCovers (s.1, { s.2 with clock := now }) where
  playedOut := hs.playedOut
  holdoff hspeaking last hlast :=
    (hs.holdoff hspeaking last hlast).imp id (fun h => h.trans hclock)
  sent last hlast := (hs.sent last hlast).trans hclock

/-- Nor does a change of the link that leaves the echo flags. -/
theorem MuteCovers.withLink {x : PlaybackMonitor} (hs : MuteCovers (s, x))
    {link : GatewayLink} (hecho : link.echo = s.link.echo) : MuteCovers ({ s with link }, x) where
  playedOut hspeaking := by
    have hplayed := hs.playedOut (by simpa [hecho] using hspeaking)
    exact ⟨hplayed.queue, hplayed.buffer, hplayed.g711⟩
  holdoff hspeaking := by
    simp only [hecho] at hspeaking ⊢
    exact hs.holdoff hspeaking
  sent := hs.sent

theorem muteCovers_of_playedOut {x : PlaybackMonitor} {link : GatewayLink} (hplayed : PlayedOut s)
    (hholdoff : ∀ last, x.lastSent = some last →
      last ≤ link.echo.modelSpeechEndTime ∨ last + ECHO_HOLDOFF_SEC ≤ x.clock)
    (hsent : ∀ last, x.lastSent = some last → last ≤ x.clock) :
    MuteCovers ({ s with link }, x) where
  playedOut _ := ⟨hplayed.queue, hplayed.buffer, hplayed.g711⟩
  holdoff _ := hholdoff
  sent := hsent

/-! ### Gateway mode -/

theorem unmutes_of_turnEnded (hgateway : config.gateway = true)
    {s : CallSession} {e : Timed ℚ LinkEvent} (h : (s.link.step false e).2 = .turnEnded) :
    (CallEvent.gateway e.event).unmutes config s = true := by
  have hexplained := s.link.step_explained false e
  rw [h] at hexplained
  obtain ⟨hconnected, hgreeting, hshutdown, msg, hevent, heffect⟩ := hexplained
  simp [hevent, CallEvent.unmutes, hgateway, hconnected, hgreeting, hshutdown, heffect]

theorem unmutes_of_greetingFailed (hgateway : config.gateway = true)
    {s : CallSession} {e : Timed ℚ LinkEvent} (h : (s.link.step false e).2 = .greetingFailed) :
    (CallEvent.gateway e.event).unmutes config s = true ∧ e.event = .greetingDone false := by
  have hexplained := s.link.step_explained false e
  rw [h] at hexplained
  obtain ⟨hconnected, hgreeting, hevent⟩ := hexplained
  simp [hevent, CallEvent.unmutes, hgateway, hconnected, hgreeting]

theorem muteCovers_gatewayStep (hgateway : config.gateway = true)
    {s : CallSession} {x : PlaybackMonitor} {e : Timed ℚ LinkEvent} (hs : MuteCovers (s, x))
    (hclock : x.clock ≤ e.now) (hunmutes : UnmutesPlayedOut config (s, x) ⟨e.now, .gateway e.event⟩)
    : MuteCovers ((s.gatewayStep e).1, { x with clock := e.now }) := by
  have hecho := s.link.step_echo false e
  have hlater := hs.later hclock
  rcases s.gatewayStep_media e with ⟨data, haudio⟩ | hmedia
  · refine muteCovers_of_speaking ?_ hlater.sent
    rw [CallSession.gatewayStep_link, hecho, haudio]
    rfl
  · rw [hmedia]
    cases hanswer : (s.link.step false e).2 with
    | audio data =>
      refine muteCovers_of_speaking ?_ hlater.sent
      rw [hecho, hanswer]
      rfl
    | greeting =>
      refine muteCovers_of_speaking ?_ hlater.sent
      rw [hecho, hanswer]
      rfl
    | turnEnded =>
      have hplayed := hunmutes.playedOut (unmutes_of_turnEnded hgateway hanswer)
      refine muteCovers_of_playedOut hplayed.1 (fun last hlast => .inl ?_) hlater.sent
      rw [hecho, hanswer]
      exact hlater.sent last hlast
    | greetingFailed =>
      obtain ⟨hunmute, hevent⟩ := unmutes_of_greetingFailed hgateway hanswer
      have hplayed := hunmutes.playedOut hunmute
      refine muteCovers_of_playedOut hplayed.1 (fun last hlast => ?_) hlater.sent
      rw [hecho, hanswer]
      exact hunmutes.failedGreeting hunmute (by rw [hevent]) last hlast
    | _ => exact hlater.withLink (by rw [hecho, hanswer]; rfl)

/-! ### Direct mode -/

theorem recvPart_speaking {data : Pcm} (hdata : data ≠ []) :
    (s.recvPart data).link.echo.modelSpeaking = true := by
  rw [CallSession.recvPart, if_neg hdata, CallSession.queueFrames_link]

/-- Inline data mutes the caller. -/
theorem foldl_recvPart_speaking (parts : List Pcm) {s : CallSession}
    (h : s.link.echo.modelSpeaking = true ∨ ∃ data ∈ parts, data ≠ []) :
    (parts.foldl CallSession.recvPart s).link.echo.modelSpeaking = true := by
  induction parts generalizing s with
  | nil => simpa using h
  | cons data parts ih =>
    refine ih ?_
    by_cases hdata : data = []
    · rw [CallSession.recvPart, if_pos hdata]
      simpa [hdata] using h
    · exact .inl (recvPart_speaking hdata)

theorem foldl_recvPart_of_empty {parts : List Pcm} (h : ∀ data ∈ parts, data = [])
    (s : CallSession) : parts.foldl CallSession.recvPart s = s := by
  induction parts with
  | nil => rfl
  | cons data parts ih =>
    rw [List.forall_mem_cons] at h
    rw [List.foldl_cons, CallSession.recvPart, if_pos h.1]
    exact ih h.2

theorem muteCovers_recvResponse {s : CallSession} {x : PlaybackMonitor}
    {now : ℚ} {parts : List Pcm} {turnComplete interrupted : Bool}
    (hdirect : (config.gateway || s.link.shutdown) = false) (hs : MuteCovers (s, x))
    (hclock : x.clock ≤ now)
    (hunmutes : UnmutesPlayedOut config (s, x) ⟨now, .response parts turnComplete interrupted⟩) :
    MuteCovers (s.recvResponse now parts turnComplete interrupted, { x with clock := now }) := by
  have hlater := hs.later hclock
  rw [Bool.or_eq_false_iff] at hdirect
  cases hends : turnComplete || interrupted with
  | true =>
    obtain ⟨hplayed, (hempty : ∀ data ∈ parts, data = [])⟩ := hunmutes.playedOut (by
      rw [CallEvent.unmutes, hdirect.1, hdirect.2, hends]
      rfl)
    rw [CallSession.recvResponse, foldl_recvPart_of_empty hempty, hends, if_pos rfl]
    exact muteCovers_of_playedOut hplayed (fun last hlast => .inl (hlater.sent last hlast))
      hlater.sent
  | false =>
    rw [CallSession.recvResponse, hends, if_neg Bool.false_ne_true]
    by_cases hempty : ∀ data ∈ parts, data = []
    · rw [foldl_recvPart_of_empty hempty]
      exact hlater
    · push Not at hempty
      exact muteCovers_of_speaking (foldl_recvPart_speaking parts (.inr hempty)) hlater.sent

/-! ### The outbound loop -/

theorem outboundRound_of_playedOut {s : CallSession} (hs : PlayedOut s)
    (reachable : Bool) : s.outboundRound config reachable = (s, .none) := by
  have hfill : s.fillG711 config = s := by
    rw [CallSession.fillG711, if_pos hs.g711, hs.queue]
  simp [CallSession.outboundRound, hfill, hs.g711]

theorem muteCovers_outboundRound {s : CallSession} {x : PlaybackMonitor}
    {now : ℚ} {reachable : Bool} (hs : MuteCovers (s, x)) (hclock : x.clock ≤ now) :
    MuteCovers ((s.outboundRound config reachable).1,
      x.observe ⟨now, .outbound reachable⟩ (s.outboundRound config reachable).2) := by
  cases hspeaking : s.link.echo.modelSpeaking with
  | false =>
    rw [outboundRound_of_playedOut (hs.playedOut hspeaking)]
    exact hs.later hclock
  | true =>
    refine muteCovers_of_speaking (by rw [CallSession.outboundRound_link, hspeaking]) ?_
    cases (s.outboundRound config reachable).2 with
    | none => exact (hs.later hclock).sent
    | upstream data => exact (hs.later hclock).sent
    | toPhone packet =>
      intro last hlast
      exact (Option.some.inj hlast).ge

/-! ### Whole runs -/

theorem muteCovers_next (s : CallSession × PlaybackMonitor)
    (e : Timed ℚ CallEvent) (hs : MuteCovers s)
    (hG : s.2.clock ≤ e.now ∧ UnmutesPlayedOut config s e) :
    MuteCovers ((monitoredCall config).next s e) := by
  obtain ⟨hclock, hunmutes⟩ := hG
  obtain ⟨s, x⟩ := s
  obtain ⟨now, event⟩ := e
  have hlater := hs.later hclock
  simp only [monitoredCall, EventMachine.next, callMachine]
  cases event with
  | gateway event =>
    simp only [EventMachine.monitor, EventMachine.next]
    split
    · next hgateway =>
        have hcovers := muteCovers_gatewayStep (e := ⟨now, event⟩) hgateway hs hclock hunmutes
        rcases s.gatewayStep_answer ⟨now, event⟩ with hnone | ⟨data, -, hsent⟩
        · rw [hnone]
          exact hcovers
        · rw [hsent]
          exact hcovers
    · exact hlater
  | response parts turnComplete interrupted =>
    simp only [EventMachine.monitor, EventMachine.next]
    split
    · exact hlater
    · next hdirect =>
        exact muteCovers_recvResponse (Bool.not_eq_true _ ▸ hdirect) hs hclock hunmutes
  | callerAudio pcm16 =>
    simp only [EventMachine.monitor, EventMachine.next]
    split
    · exact hlater
    · exact hlater
  | outbound reachable => exact muteCovers_outboundRound hs hclock
  | stop => exact hlater.withLink rfl

theorem clock_le_of_mem_trace (config : CallConfig) (s : CallSession) {x : PlaybackMonitor}
    {es : List (Timed ℚ CallEvent)} (h : ClockOrdered x.clock es) :
    ∀ t ∈ (monitoredCall config).trace (s, x) es, t.pre.2.clock ≤ t.event.now := by
  induction es generalizing s x with
  | nil => simp
  | cons e es ih =>
    rw [ClockOrdered, List.map_cons, List.isChain_cons_cons] at h
    rw [EventMachine.trace_cons, List.forall_mem_cons]
    refine ⟨h.1, ?_⟩
    simp only [monitoredCall, EventMachine.monitor_next]
    refine ih _ ?_
    have hclock : (x.observe e ((callMachine config).step s e).2).clock = e.now := by
      cases ((callMachine config).step s e).2 <;> rfl
    rw [ClockOrdered, hclock]
    exact h.2

/-- **Echo suppression covers playback in the runs that end no turn before its audio has been
    played.** -/
theorem echoCovered_of_unmutesPlayedOut (config : CallConfig) (modelSpeaking : Bool) (clock : ℚ)
    (es : List (Timed ℚ CallEvent)) (hclock : ClockOrdered clock es)
    (hunmutes : ∀ t ∈ (monitoredCall config).trace (callStart modelSpeaking clock) es,
      UnmutesPlayedOut config t.pre t.event) :
    ∀ t ∈ (monitoredCall config).trace (callStart modelSpeaking clock) es, EchoCovered t := by
  have hordered := clock_le_of_mem_trace config (.start modelSpeaking) (x := ⟨none, clock⟩) hclock
  have halways := (monitoredCall config).always_of_guarded muteCovers_next
    (muteCovers_start modelSpeaking clock) (fun t ht => ⟨hordered t ht, hunmutes t ht⟩)
  intro t ht
  rw [EventMachine.eq_entry_of_mem_trace _ ht]
  exact echoCovered_of_muteCovers (EventMachine.Always.pre _ halways ht) (hordered t ht)

theorem unmutesPlayedOut_of_muted {s : CallSession × PlaybackMonitor}
    {e : Timed ℚ CallEvent} (h : e.event.unmutes config s.1 = false) :
    UnmutesPlayedOut config s e where
  playedOut hunmutes := by simp [h] at hunmutes
  failedGreeting hunmutes := by simp [h] at hunmutes

/-- A phone call in gateway mode. -/
def gatewayCall : CallConfig := ⟨true, some g711CodecBridge, 0⟩

/-- The message that the agent has nothing more to say. -/
def agentIdle : GatewayFrame :=
  .text (.parsed (.dict [("type", .str "agent_status"), ("status", .str "idle")]))

/-- A frame of audio is received and played, the agent falls idle, and the caller speaks. -/
def playedTurn : List (Timed ℚ CallEvent) :=
  [⟨100, .gateway (.frame (.audio (List.replicate 960 0)))⟩, ⟨100, .outbound true⟩,
    ⟨101, .gateway (.frame agentIdle)⟩, ⟨102, .gateway (.callerAudio [1, 0])⟩]

/-- The suppression covers a turn that was played. -/
theorem playedTurn_covered :
    ClockOrdered 99 playedTurn ∧
      ∀ t ∈ (monitoredCall gatewayCall).trace (callStart false 99) playedTurn, EchoCovered t := by
  have hclock : ClockOrdered 99 playedTurn := by
    simp only [ClockOrdered, playedTurn, List.map_cons, List.map_nil, List.isChain_cons_cons,
      List.isChain_singleton]
    norm_num
  refine ⟨hclock, echoCovered_of_unmutesPlayedOut gatewayCall false 99 playedTurn hclock ?_⟩
  simp only [playedTurn, EventMachine.trace_cons, EventMachine.trace_nil, List.forall_mem_cons]
  refine ⟨unmutesPlayedOut_of_muted rfl, unmutesPlayedOut_of_muted rfl,
    ⟨fun _ => ⟨⟨?_, ?_, ?_⟩, ?_⟩, ?_⟩, unmutesPlayedOut_of_muted rfl, by simp⟩
  · decide +kernel
  · decide +kernel
  · decide +kernel
  · exact fun data hdata => absurd hdata List.not_mem_nil
  · intro _ hgreeting
    cases hgreeting

/-- The agent falls idle while the audio it sent still waits, and the caller speaks. -/
def earlyIdle : List (Timed ℚ CallEvent) :=
  [⟨100, .gateway (.frame (.audio (List.replicate 960 0)))⟩, ⟨101, .gateway (.frame agentIdle)⟩]

/-- Caller audio is sent up although a frame waits to be played. -/
theorem earlyIdle_uncovered :
    ClockOrdered 99 (earlyIdle ++ [⟨102, .gateway (.callerAudio [1, 0])⟩]) ∧
      ¬ ∀ t ∈ (monitoredCall gatewayCall).trace (callStart false 99)
        (earlyIdle ++ [⟨102, .gateway (.callerAudio [1, 0])⟩]), EchoCovered t := by
  refine ⟨?_, fun h => ?_⟩
  · simp only [ClockOrdered, earlyIdle, List.cons_append, List.nil_append, List.map_cons,
      List.map_nil, List.isChain_cons_cons, List.isChain_singleton]
    norm_num
  · rw [EventMachine.trace_concat] at h
    have hcovered := h _ (List.mem_append_right _ (List.mem_singleton_self _)) [1, 0]
      (by decide +kernel) (by decide +kernel)
    have hwaits : ((monitoredCall gatewayCall).run (callStart false 99) earlyIdle).1.outboundQueue ≠
        [] := by
      decide +kernel
    exact hwaits hcovered.queue

/-! ## Nothing less than the condition will do

A session that is unmuted before its audio has been played can always go on to let an echo through:
the loops need only send the frame that is left, and then the caller's next audio. -/

/-- Agent audio waits in the queue or in the buffer. -/
def Waiting (s : CallSession) : Prop := s.outboundQueue ≠ [] ∨ s.outboundBuffer ≠ []

theorem queue_of_putNowait (s : CallSession) (pcm : Pcm) :
    (s.putNowait pcm).outboundQueue ≠ [] := by
  unfold CallSession.putNowait
  split
  · next hfull =>
      intro hnil
      rw [hnil, List.length_nil, OUTBOUND_QUEUE_SIZE] at hfull
      omega
  · simp

theorem waiting_queueFrames (h : Waiting s) : Waiting s.queueFrames := by
  induction s using CallSession.queueFrames.induct with
  | case1 s hframe ih =>
    rw [CallSession.queueFrames, dif_pos hframe]
    exact ih (.inl (queue_of_putNowait s _))
  | case2 s hshort =>
    rw [CallSession.queueFrames, dif_neg hshort]
    exact h

/-- Inline data waits to be played once it is received. -/
theorem waiting_foldl_recvPart (parts : List Pcm) {s : CallSession}
    (h : Waiting s ∨ ∃ data ∈ parts, data ≠ []) : Waiting (parts.foldl CallSession.recvPart s) := by
  induction parts generalizing s with
  | nil => simpa using h
  | cons data parts ih =>
    refine ih ?_
    by_cases hdata : data = []
    · rw [CallSession.recvPart, if_pos hdata]
      simpa [hdata] using h
    · rw [CallSession.recvPart, if_neg hdata]
      exact .inl (waiting_queueFrames (.inr (by simp [hdata])))

/-- The loop that sends caller audio takes a frame. -/
def takesCaller (config : CallConfig) (now : ℚ) (pcm16 : Pcm) : Timed ℚ CallEvent :=
  ⟨now, if config.gateway then .gateway (.callerAudio pcm16) else .callerAudio pcm16⟩

/-- A session in which the agent does not count as speaking, its link connected if it has one. -/
structure Unmuted (config : CallConfig) (s : CallSession) : Prop where
  speaking : s.link.echo.modelSpeaking = false
  connected : config.gateway = true → s.link.connected = true

theorem upstream_of_unmuted {s : CallSession} (hs : Unmuted config s)
    {now : ℚ} (hholdoff : s.link.echo.modelSpeechEndTime + ECHO_HOLDOFF_SEC ≤ now) (pcm16 : Pcm) :
    ((callMachine config).step s (takesCaller config now pcm16)).2 = .upstream pcm16 := by
  have hsend := EchoMute.audioToSend_of_unmuted pcm16 hs.speaking hholdoff
  cases hgateway : config.gateway with
  | false => simp [callMachine, takesCaller, hgateway, hsend]
  | true =>
    simp [callMachine, takesCaller, hgateway, CallSession.gatewayStep, GatewayLink.step,
      hs.connected hgateway, hsend]

theorem uncovered_of_unmuted {s : CallSession} {x : PlaybackMonitor}
    (now : ℚ) (hs : Unmuted config s)
    (hholdoff : s.link.echo.modelSpeechEndTime + ECHO_HOLDOFF_SEC ≤ now)
    (hplayback : ¬ PlaybackOver (s, x) now) :
    ¬ EchoCovered ((monitoredCall config).entry (s, x) (takesCaller config now [1, 0])) := by
  intro hcovered
  exact hplayback (hcovered [1, 0] (upstream_of_unmuted hs hholdoff _) (by decide +kernel))

/-- A run of the outbound and the send loop that lets an echo through. -/
def EchoFollows (config : CallConfig) (s : CallSession × PlaybackMonitor) (now : ℚ) : Prop :=
  ∃ es, ClockOrdered now es ∧ ∃ t ∈ (monitoredCall config).trace s es, ¬ EchoCovered t

theorem echoFollows_of_playback {s : CallSession} {x : PlaybackMonitor}
    (hs : Unmuted config s) {now later : ℚ} (hlater : now ≤ later)
    (hholdoff : s.link.echo.modelSpeechEndTime + ECHO_HOLDOFF_SEC ≤ later)
    (hplayback : ¬ PlaybackOver (s, x) later) : EchoFollows config (s, x) now :=
  ⟨[takesCaller config later [1, 0]], by simpa [ClockOrdered, takesCaller] using hlater,
    _, List.mem_singleton_self _, uncovered_of_unmuted later hs hholdoff hplayback⟩

theorem echoFollows_of_waiting {s : CallSession} {x : PlaybackMonitor}
    (hs : Unmuted config s) (hwaiting : Waiting s) (now : ℚ) : EchoFollows config (s, x) now := by
  refine echoFollows_of_playback hs (le_max_left _ _) (le_max_right _ _) (fun hover => ?_)
  rcases hwaiting with hqueue | hbuffer
  · exact hqueue hover.queue
  · exact hbuffer hover.buffer

theorem echoFollows_of_frame {s : CallSession} {x : PlaybackMonitor}
    (hs : Unmuted config s) (hshutdown : s.link.shutdown = false)
    (hframe : FRAME_SIZE ≤ s.g711Buffer.length) (now : ℚ) : EchoFollows config (s, x) now := by
  -- both loops run as soon as the holdoff is over
  let later := max now (s.link.echo.modelSpeechEndTime + ECHO_HOLDOFF_SEC)
  let s' := (s.outboundRound config true).1
  have hlink : s'.link = s.link := CallSession.outboundRound_link config true s
  have hsent : (monitoredCall config).next (s, x) ⟨later, .outbound true⟩ =
      (s', ⟨some later, later⟩) := by
    have hfill : s.fillG711 config = s := by rw [CallSession.fillG711, if_neg (by omega)]
    have hanswer : (s.outboundRound config true).2 = .toPhone (s.packet config).serialize := by
      simp [CallSession.outboundRound, hfill, hshutdown, Nat.not_lt.2 hframe]
    simp only [monitoredCall, EventMachine.monitor, EventMachine.next, callMachine, hanswer,
      PlaybackMonitor.observe, s']
  have huncovered := uncovered_of_unmuted later (x := ⟨some later, later⟩)
    (⟨by rw [hlink, hs.speaking], fun h => by rw [hlink, hs.connected h]⟩ : Unmuted config s')
    (by rw [hlink]; exact le_max_right _ _) (fun hover => by
      have hholdoff := hover.holdoff later rfl
      simp only [ECHO_HOLDOFF_SEC] at hholdoff
      linarith)
  refine ⟨[⟨later, .outbound true⟩, takesCaller config later [1, 0]], ?_, ?_⟩
  · simp [ClockOrdered, takesCaller, later]
  · refine ⟨_, List.mem_cons_of_mem _ ?_, huncovered⟩
    rw [hsent]
    exact List.mem_singleton_self _

theorem echoFollows_of_not_playedOut {s : CallSession} {x : PlaybackMonitor}
    (hs : Unmuted config s) (hshutdown : s.link.shutdown = false) (h : ¬ PlayedOut s) (now : ℚ) :
    EchoFollows config (s, x) now := by
  by_cases hwaiting : Waiting s
  · exact echoFollows_of_waiting hs hwaiting now
  · rw [Waiting, not_or, not_not, not_not] at hwaiting
    refine echoFollows_of_frame hs hshutdown ?_ now
    by_contra hshort
    exact h ⟨hwaiting.1, hwaiting.2, Nat.lt_of_not_le hshort⟩

section AgainstTheCondition

variable {config : CallConfig} {s : CallSession} {x : PlaybackMonitor} {now : ℚ}

theorem echoFollows_of_text {msg : GatewayJson} (hshutdown : s.link.shutdown = false)
    (h : ¬ UnmutesPlayedOut config (s, x) ⟨now, .gateway (.frame (.text msg))⟩)
    (hunmutes : (CallEvent.gateway (.frame (.text msg))).unmutes config s = true) :
    EchoFollows config ((monitoredCall config).next (s, x) ⟨now, .gateway (.frame (.text msg))⟩)
    now := by
  simp only [CallEvent.unmutes, Bool.and_eq_true, Bool.not_eq_true', decide_eq_true_eq]
    at hunmutes
  obtain ⟨⟨⟨⟨hgateway, hconnected⟩, hgreeting⟩, -⟩, heffect⟩ := hunmutes
  have hplayed : ¬ PlayedOut s := fun hplayed =>
    h ⟨fun _ => ⟨hplayed, fun data hdata => absurd hdata List.not_mem_nil⟩,
      fun _ hevent => by simp at hevent⟩
  simp only [monitoredCall, EventMachine.monitor, EventMachine.next, callMachine, hgateway,
    if_true, CallSession.gatewayStep, GatewayLink.step, hconnected, hgreeting, Bool.not_false,
    Bool.and_self, GatewayLink.recv, hshutdown, Bool.false_eq_true, if_false, heffect,
    GatewayLink.recvText]
  refine echoFollows_of_not_playedOut ⟨?_, ?_⟩ ?_ (fun hafter => ?_) now
  · rfl
  · exact fun _ => rfl
  · rfl
  · exact hplayed ⟨hafter.queue, hafter.buffer, hafter.g711⟩

theorem echoFollows_of_greetingDone {ok : Bool} (hshutdown : s.link.shutdown = false)
    (h : ¬ UnmutesPlayedOut config (s, x) ⟨now, .gateway (.greetingDone ok)⟩)
    (hunmutes : (CallEvent.gateway (.greetingDone ok)).unmutes config s = true) :
    EchoFollows config ((monitoredCall config).next (s, x) ⟨now, .gateway (.greetingDone ok)⟩)
    now := by
  simp only [CallEvent.unmutes, Bool.and_eq_true, Bool.not_eq_true'] at hunmutes
  obtain ⟨⟨⟨hgateway, hconnected⟩, hgreeting⟩, rfl⟩ := hunmutes
  simp only [monitoredCall, EventMachine.monitor, EventMachine.next, callMachine, hgateway,
    if_true, CallSession.gatewayStep, GatewayLink.step, hconnected, hgreeting, Bool.and_self,
    Bool.false_eq_true, if_false]
  by_cases hplayed : PlayedOut s
  · -- all was played, so it is the holdoff that is not over
    have hrecent : ∃ last, x.lastSent = some last ∧
        s.link.echo.modelSpeechEndTime < last ∧ now < last + ECHO_HOLDOFF_SEC := by
      by_contra hnone
      push Not at hnone
      refine h ⟨fun _ => ⟨hplayed, fun data hdata => absurd hdata List.not_mem_nil⟩,
        fun _ _ last hlast => ?_⟩
      rcases le_or_gt last s.link.echo.modelSpeechEndTime with hle | hlt
      · exact .inl hle
      · exact .inr (hnone last hlast hlt)
    obtain ⟨last, hlast, hend, hnow⟩ := hrecent
    refine echoFollows_of_playback ⟨?_, ?_⟩ (le_max_left _ _) (le_max_right now _)
      (fun hover => ?_)
    · rfl
    · exact fun _ => rfl
    have hholdoff := hover.holdoff last hlast
    rcases le_max_iff.1 hholdoff with hle | hle
    · exact absurd hle (not_le.2 hnow)
    · simp only at hle
      linarith
  · refine echoFollows_of_not_playedOut ⟨?_, ?_⟩ ?_ (fun hafter => ?_) now
    · rfl
    · exact fun _ => rfl
    · exact hshutdown
    · exact hplayed ⟨hafter.queue, hafter.buffer, hafter.g711⟩

theorem echoFollows_of_response {parts : List Pcm} {turnComplete interrupted : Bool}
    (hshutdown : s.link.shutdown = false)
    (h : ¬ UnmutesPlayedOut config (s, x) ⟨now, .response parts turnComplete interrupted⟩)
    (hunmutes : (CallEvent.response parts turnComplete interrupted).unmutes config s = true) :
    EchoFollows config ((monitoredCall config).next (s, x) ⟨now,
      .response parts turnComplete interrupted⟩) now := by
  simp only [CallEvent.unmutes, Bool.and_eq_true, Bool.not_eq_true'] at hunmutes
  obtain ⟨⟨hdirect, -⟩, hends⟩ := hunmutes
  simp only [monitoredCall, EventMachine.monitor, EventMachine.next, callMachine, hdirect,
    Bool.false_or, hshutdown, Bool.false_eq_true, if_false]
  by_cases hempty : ∀ data ∈ parts, data = []
  · have hplayed : ¬ PlayedOut s := fun hplayed =>
      h ⟨fun _ => ⟨hplayed, hempty⟩, fun _ hevent => by simp at hevent⟩
    rw [CallSession.recvResponse, foldl_recvPart_of_empty hempty, hends, if_pos rfl]
    refine echoFollows_of_not_playedOut ⟨?_, ?_⟩ ?_ (fun hafter => ?_) now
    · rfl
    · simp [hdirect]
    · exact hshutdown
    · exact hplayed ⟨hafter.queue, hafter.buffer, hafter.g711⟩
  · push Not at hempty
    rw [CallSession.recvResponse, hends, if_pos rfl]
    refine echoFollows_of_waiting ⟨?_, ?_⟩ ?_ now
    · rfl
    · simp [hdirect]
    · exact waiting_foldl_recvPart parts (.inr hempty)

theorem echoFollows_of_not_unmutesPlayedOut {e : Timed ℚ CallEvent}
    (hshutdown : s.link.shutdown = false) (h : ¬ UnmutesPlayedOut config (s, x) e) :
    EchoFollows config ((monitoredCall config).next (s, x) e) e.now := by
  have hunmutes : e.event.unmutes config s = true := by
    by_contra hmuted
    exact h (unmutesPlayedOut_of_muted (Bool.not_eq_true _ ▸ hmuted))
  obtain ⟨now, event⟩ := e
  cases event with
  | gateway event =>
    cases event with
    | frame f =>
      cases f with
      | audio data => simp [CallEvent.unmutes] at hunmutes
      | text msg => exact echoFollows_of_text hshutdown h hunmutes
    | greetingDone ok => exact echoFollows_of_greetingDone hshutdown h hunmutes
    | callerAudio pcm16 => simp [CallEvent.unmutes] at hunmutes
    | disconnect => simp [CallEvent.unmutes] at hunmutes
    | reconnect ok => simp [CallEvent.unmutes] at hunmutes
    | stop => simp [CallEvent.unmutes] at hunmutes
  | response parts turnComplete interrupted => exact echoFollows_of_response hshutdown h hunmutes
  | callerAudio pcm16 => simp [CallEvent.unmutes] at hunmutes
  | outbound reachable => simp [CallEvent.unmutes] at hunmutes
  | stop => simp [CallEvent.unmutes] at hunmutes

end AgainstTheCondition

theorem clockOrdered_append {clock : ℚ} {es fs : List (Timed ℚ CallEvent)} {e : Timed ℚ CallEvent}
    (hes : ClockOrdered clock (es ++ [e])) (hfs : ClockOrdered e.now fs) :
    ClockOrdered clock (es ++ e :: fs) := by
  simp only [ClockOrdered, List.map_append, List.map_cons, List.map_nil] at hes hfs ⊢
  have hbefore : List.IsChain (· ≤ ·) (clock :: es.map (·.now) ++ [e.now]) := by simpa using hes
  have hafter : List.IsChain (· ≤ ·) ([e.now] ++ fs.map (·.now)) := by simpa using hfs
  have happend := hbefore.append_overlap hafter (by simp)
  simpa using happend

/-- **The condition is exact**: a run with a step against it, in a session that is not shut down,
    can be continued by an echo. -/
theorem echo_follows_earlyUnmute (config : CallConfig) (modelSpeaking : Bool) (clock : ℚ)
    (es : List (Timed ℚ CallEvent)) (e : Timed ℚ CallEvent)
    (hclock : ClockOrdered clock (es ++ [e])) (hshutdown :
      ((monitoredCall config).run (callStart modelSpeaking clock) es).1.link.shutdown = false)
    (h : ¬ UnmutesPlayedOut config ((monitoredCall config).run (callStart modelSpeaking clock) es)
      e) :
    ∃ fs, ClockOrdered clock (es ++ e :: fs) ∧
      ∃ t ∈ (monitoredCall config).trace (callStart modelSpeaking clock) (es ++ e :: fs),
        ¬ EchoCovered t := by
  obtain ⟨fs, hfs, t, ht, huncovered⟩ := echoFollows_of_not_unmutesPlayedOut hshutdown h
  refine ⟨fs, clockOrdered_append hclock hfs, t, ?_, huncovered⟩
  rw [EventMachine.trace_append]
  exact List.mem_append_right _ (List.mem_cons_of_mem _ ht)

/-- An agent that falls idle while its audio waits. -/
theorem echo_follows_idle :
    ∃ fs, ClockOrdered 99 ([⟨100, .gateway (.frame (.audio (List.replicate 960 0)))⟩] ++
        ⟨101, .gateway (.frame agentIdle)⟩ :: fs) ∧
      ∃ t ∈ (monitoredCall gatewayCall).trace (callStart false 99)
          ([⟨100, .gateway (.frame (.audio (List.replicate 960 0)))⟩] ++ ⟨101,
            .gateway (.frame agentIdle)⟩ :: fs),
        ¬ EchoCovered t := by
  refine echo_follows_earlyUnmute gatewayCall false 99 _ _ ?_ (by decide +kernel) fun h => ?_
  · simp only [ClockOrdered, List.cons_append, List.nil_append, List.map_cons, List.map_nil,
      List.isChain_cons_cons, List.isChain_singleton]
    norm_num
  · exact absurd (h.playedOut (by decide +kernel)).1.queue (by decide +kernel)

end Ekaette
