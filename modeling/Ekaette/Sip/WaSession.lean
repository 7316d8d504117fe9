import Ekaette.Sip.GatewayLink

set_option autoImplicit false

/-! # Reconnecting a WhatsApp call

A `WaSession` in gateway mode: its gateway link, and the media side the received audio is queued
for.

The echo mute is set by the frames of one connection and cleared by the messages that end the
agent's turn. A connection that breaks in the middle of a turn never delivers those, and connecting
again leaves the mute as it is: the caller stays muted on the new connection. -/

namespace Ekaette

structure WaSession (σ : Type) where
  link : GatewayLink
  media : OutboundMedia σ

variable {σ : Type}

/-- A session that has just connected to the gateway. -/
def WaSession.start (encoder : σ) : WaSession σ := ⟨.start, .start encoder⟩

inductive WaSessionEvent where
  /-- one of the gateway loops, or `shutdown` -/
  | gateway (e : Timed ℚ LinkEvent)
  /-- `_media_outbound_loop` -/
  | outbound

/-- A step of a gateway loop; received audio goes on the outbound queue. -/
def WaSession.gatewayStep (s : WaSession σ) (e : Timed ℚ LinkEvent) : WaSession σ × LinkAnswer :=
  let (link, answer) := s.link.step true e
  match answer with
  | .audio data => (⟨link, (s.media.putNowait data).1⟩, answer)
  | _ => ({ s with link }, answer)

variable (codec : OpusCodecBridge σ)

/-- The loops of a session in any order. -/
def waSessionMachine :
    EventMachine (WaSession σ) WaSessionEvent LinkAnswer where
  step s
    | .gateway e => s.gatewayStep e
    | .outbound => ({ s with media := (s.media.takeRound codec).1 }, .ignored)

@[simp] theorem gatewayStep_link (s : WaSession σ) (e : Timed ℚ LinkEvent) :
    (s.gatewayStep e).1.link = (s.link.step true e).1 := by
  unfold WaSession.gatewayStep
  split
  split <;> simp_all

@[simp] theorem gatewayStep_answer (s : WaSession σ) (e : Timed ℚ LinkEvent) :
    (s.gatewayStep e).2 = (s.link.step true e).2 := by
  unfold WaSession.gatewayStep
  split
  split <;> simp_all

/-! ## What the connections delivered -/

/-- What is to be known of the past: whether the agent's turn is open, that is, audio or the
    greeting came and the end of the turn did not, and whether the link is up again with no audio
    received and no greeting sent on the new connection. -/
structure TurnMonitor where
  turnOpen : Bool
  quietReconnect : Bool

/-- Before the first frame. -/
def TurnMonitor.start : TurnMonitor := ⟨false, false⟩

def TurnMonitor.observe (x : TurnMonitor) (_ : WaSessionEvent) : LinkAnswer → TurnMonitor
  | .audio _ => ⟨true, false⟩
  | .greeting => { x with turnOpen := true }
  | .greetingSent => { x with quietReconnect := false }
  | .greetingFailed => { x with turnOpen := false }
  | .turnEnded => { x with turnOpen := false }
  | .disconnected => { x with quietReconnect := false }
  | .reconnected => { x with quietReconnect := true }
  | .upstream _ => x
  | .ignored => x

/-- A session with its past. -/
def monitoredWaSession :
    EventMachine (WaSession σ × TurnMonitor) WaSessionEvent LinkAnswer :=
  (waSessionMachine codec).monitor TurnMonitor.observe

variable (s : WaSession σ × TurnMonitor)

theorem monitoredWaSession_next (e : Timed ℚ LinkEvent) :
    (monitoredWaSession codec).next s (.gateway e) =
      ((s.1.gatewayStep e).1, s.2.observe (.gateway e) (s.1.gatewayStep e).2) := rfl

theorem monitoredWaSession_answer (e : Timed ℚ LinkEvent) :
    ((monitoredWaSession codec).step s (.gateway e)).2 = (s.1.gatewayStep e).2 := rfl

/-- **The caller is not muted by a turn of an earlier connection**: on a new connection that
    delivered no audio, and on which no greeting was or is being sent, the agent does not count as
    speaking. -/
def ReconnectUnmuted : Prop :=
  s.2.quietReconnect = true → s.1.link.greeting = false → s.1.link.echo.modelSpeaking = false

/-- What every step preserves: the flag says that a turn is open, and a greeting is being sent only
    while the link is connected. -/
structure TurnTracked (s : WaSession σ × TurnMonitor) : Prop where
  speaking : s.1.link.echo.modelSpeaking = s.2.turnOpen
  greeting : s.1.link.connected = false → s.1.link.greeting = false

theorem turnTracked_start (encoder : σ) :
    TurnTracked (WaSession.start encoder, TurnMonitor.start) :=
  ⟨rfl, fun _ => rfl⟩

variable {codec : OpusCodecBridge σ}

theorem turnTracked_next (s : WaSession σ × TurnMonitor) (e : WaSessionEvent) (hs : TurnTracked s) :
    TurnTracked ((monitoredWaSession codec).next s e) := by
  cases e with
  | outbound => exact ⟨hs.speaking, hs.greeting⟩
  | gateway e =>
    refine ⟨?_, fun h => ?_⟩
    · have hecho := s.1.link.step_echo true e
      have hspeaking := hs.speaking
      rw [monitoredWaSession_next, gatewayStep_link, gatewayStep_answer, hecho]
      cases (s.1.link.step true e).2 <;>
        simp [LinkAnswer.echoAfter, TurnMonitor.observe, EchoMute.endTurn, hspeaking]
    · rw [monitoredWaSession_next, gatewayStep_link] at h ⊢
      exact GatewayLink.step_connected true e hs.greeting h

theorem reconnectUnmuted_next_iff (s : WaSession σ × TurnMonitor) (e : WaSessionEvent)
    (hs : TurnTracked s) (hunmuted : ReconnectUnmuted s) :
    ReconnectUnmuted ((monitoredWaSession codec).next s e) ↔
      (((monitoredWaSession codec).step s e).2 = .reconnected → s.2.turnOpen = false) := by
  cases e with
  | outbound =>
    refine iff_of_true hunmuted (fun h => ?_)
    simp [monitoredWaSession, EventMachine.monitor, waSessionMachine] at h
  | gateway e =>
    have hecho := s.1.link.step_echo true e
    have hgreeting := GatewayLink.step_greeting true e hs.greeting
    have hspeaking := hs.speaking
    have hdown : (s.1.link.step true e).2 = .reconnected → s.1.link.greeting = false :=
      fun h => by
        have hexplained := s.1.link.step_explained true e
        rw [h] at hexplained
        exact hs.greeting hexplained.1
    unfold ReconnectUnmuted at hunmuted ⊢
    rw [monitoredWaSession_answer, monitoredWaSession_next, gatewayStep_link, gatewayStep_answer,
      hecho, hgreeting]
    cases hanswer : (s.1.link.step true e).2 with
    | reconnected =>
      simp [LinkAnswer.echoAfter, LinkAnswer.greetingAfter, TurnMonitor.observe,
        hdown hanswer, hspeaking]
    | audio data => simp [TurnMonitor.observe]
    | greeting => simp [LinkAnswer.greetingAfter]
    | greetingSent => simp [TurnMonitor.observe]
    | greetingFailed => simp [LinkAnswer.echoAfter]
    | turnEnded => simp [LinkAnswer.echoAfter, EchoMute.endTurn]
    | disconnected => simp [TurnMonitor.observe]
    | upstream data =>
      simpa [LinkAnswer.echoAfter, LinkAnswer.greetingAfter, TurnMonitor.observe]
        using hunmuted
    | ignored =>
      simpa [LinkAnswer.echoAfter, LinkAnswer.greetingAfter, TurnMonitor.observe]
        using hunmuted

/-! ## When reconnecting leaves the caller unmuted -/

/-- **Reconnecting leaves no caller muted exactly in the runs that never reconnect in the middle of
    a turn.** -/
theorem reconnectUnmuted_always_iff (codec : OpusCodecBridge σ) (encoder : σ)
    (es : List WaSessionEvent) : (monitoredWaSession codec).Always ReconnectUnmuted
    (WaSession.start encoder, TurnMonitor.start) es ↔
      ∀ t ∈ (monitoredWaSession codec).trace (WaSession.start encoder, TurnMonitor.start) es,
        t.answer = .reconnected → t.pre.2.turnOpen = false := by
  have hiff := (monitoredWaSession codec).always_iff_guarded_of_invariant
    (G := fun s e => ((monitoredWaSession codec).step s e).2 = .reconnected → s.2.turnOpen = false)
    turnTracked_next reconnectUnmuted_next_iff (turnTracked_start encoder)
    (fun h => by simp [TurnMonitor.start] at h) es
  rw [hiff]
  refine forall₂_congr (fun t ht => ?_)
  have hanswer := congrArg (·.answer) (EventMachine.eq_entry_of_mem_trace _ ht)
  simp only [EventMachine.entry] at hanswer
  rw [hanswer]

/-- The link breaks after a frame of audio, and is up again a second later. -/
def brokenTurn : List WaSessionEvent :=
  [.gateway ⟨100, .frame (.audio [0, 1])⟩, .gateway ⟨101, .disconnect⟩,
    .gateway ⟨102, .reconnect true⟩]

/-- A call whose link breaks in the middle of the agent's turn is muted when it is up again. -/
theorem brokenTurn_muted :
    ¬ (monitoredWaSession steadyCodec).Always ReconnectUnmuted
      (WaSession.start (), TurnMonitor.start) brokenTurn := by
  intro h
  have hrun := EventMachine.Always.run _ h
  have hquiet : ((monitoredWaSession steadyCodec).run (WaSession.start (), TurnMonitor.start)
      brokenTurn).2.quietReconnect = true := by
    decide +kernel
  have hspeaking : ((monitoredWaSession steadyCodec).run (WaSession.start (), TurnMonitor.start)
      brokenTurn).1.link.echo.modelSpeaking = true := by
    decide +kernel
  have hunmuted := hrun hquiet (by decide +kernel)
  rw [hspeaking] at hunmuted
  exact absurd hunmuted (by decide)

end Ekaette
