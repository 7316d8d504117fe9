import Ekaette.Lib.Coroutine
import Ekaette.Lib.EventMachine
import Mathlib.Data.Rat.Floor

set_option autoImplicit false

/-! # The task of a WhatsApp call

`WaSession.run` of `sip_bridge/wa_session.py` as a coroutine, and the BYE that cancels it
(`_handle_bye` of `sip_bridge/wa_main.py`). The loops of the media pipeline are one suspension: the
task group. Writes of the call record succeed. -/

namespace Ekaette

/-! ## Session state -/

inductive WaCallStatus where
  | active
  | terminated
  deriving DecidableEq

/-- A document of the collection `wa_calls`. -/
structure WaCallDoc where
  callId : String
  tenantId : String
  companyId : String
  status : WaCallStatus
  startedAt : ℚ
  durationSeconds : Option ℚ
  framesReceived : Option ℕ
  framesSent : Option ℕ
  endedAt : Option ℚ

/-- The places where `run` is suspended. -/
inductive WaAwait where
  /-- before its first step -/
  | firstStep
  | gatewayConnect
  /-- `gemini_ctx.__aenter__` -/
  | geminiEnter
  /-- `send_client_content` -/
  | geminiGreeting
  /-- `gemini_ctx.__aexit__` -/
  | geminiExit
  /-- the task group of the four loops -/
  | loops
  | gatewayClose
  deriving DecidableEq

/-- The fields of a session that `run` reads or writes, and what it holds outside. -/
structure WaSessionState where
  callId : String
  tenantId : String
  companyId : String
  /-- the document of the call in `firestore_db`, where that is not `None` -/
  db : Option (Option WaCallDoc)
  /-- `gemini_api_key` is not empty -/
  hasGeminiKey : Bool
  /-- building the Live configuration and the client raises nothing -/
  geminiConfigures : Bool
  geminiSession : Bool
  /-- `gemini_ctx is not None` -/
  geminiCtx : Bool
  /-- `gateway_client is not None` -/
  hasGateway : Bool
  /-- the web socket of the gateway client is not `None` -/
  gatewayWs : Bool
  /-- `media_transport is not None` -/
  mediaTransport : Bool
  hasRemoteAddr : Bool
  ownsTransport : Bool
  /-- the socket the session owns is open -/
  socketOpen : Bool
  startedAt : ℚ
  modelSpeaking : Bool
  shutdown : Bool
  framesReceived : ℕ
  framesSent : ℕ
  now : ℚ
  /-- one of the four loops has failed -/
  loopFailed : Bool
  /-- the next suspension raises `CancelledError` -/
  mustCancel : Bool

/-- `round(x, 2)`: half to even. -/
def roundCents (x : ℚ) : ℚ :=
  let n := ⌊x * 100⌋
  let rest := x * 100 - n
  (if rest < 1 / 2 ∨ (rest = 1 / 2 ∧ n % 2 = 0) then n else n + 1 : ℤ) / 100

namespace WaSessionState

variable (s : WaSessionState)

/-- `_write_call_start`: `set(…, merge=True)`. -/
def writeCallStart : WaSessionState :=
  { s with
    db := s.db.map (fun doc => some {
      callId := s.callId
      tenantId := s.tenantId
      companyId := s.companyId
      status := .active
      startedAt := s.startedAt
      durationSeconds := doc.bind (·.durationSeconds)
      framesReceived := doc.bind (·.framesReceived)
      framesSent := doc.bind (·.framesSent)
      endedAt := doc.bind (·.endedAt) }) }

/-- `_write_call_end`, with the time since `started_at`. -/
def writeCallEnd : WaSessionState :=
  { s with
    db := s.db.map (fun doc => doc.map (fun doc => { doc with
      status := .terminated
      durationSeconds := some (roundCents (s.now - s.startedAt))
      framesReceived := some s.framesReceived
      framesSent := some s.framesSent
      endedAt := some s.now })) }

/-- The UDP transport of a session that was given none. -/
def createTransport : WaSessionState :=
  if s.mediaTransport = false ∧ s.hasRemoteAddr then
    { s with mediaTransport := true, ownsTransport := true, socketOpen := true }
  else s

/-- `_cleanup_transport`. -/
def cleanupTransport : WaSessionState :=
  if s.ownsTransport ∧ s.mediaTransport then { s with socketOpen := false, mediaTransport := false }
  else s

/-- `_cleanup_transport`, and then the end record. -/
def cleanup : WaSessionState := s.cleanupTransport.writeCallEnd

/-- A connection that the `finally` block would wait for. -/
def hasConnection : Bool := (s.hasGateway && s.gatewayWs) || s.geminiCtx

end WaSessionState

/-! ## `run` -/

abbrev WaCoroutine := Coroutine WaSessionState WaAwait

/-- Await one thing; a cancellation that is still due is raised there. -/
def awaitAt (a : WaAwait) : WaCoroutine Unit :=
  .test (·.mustCancel) (.act ({ · with mustCancel := false }) (.exit .cancelled)) (.wait a)

/-- A failure to connect: clean up, and `return`. -/
def abandonCall : WaCoroutine Bool := .act WaSessionState.cleanup (.pure false)

/-- Best-effort cleanup: `try: await … except Exception: pass`. -/
def tryAwait (a : WaAwait) : WaCoroutine Unit := (awaitAt a).tryExcept (.pure ())

/-- `gemini_ctx.__aexit__`, if there is a context. -/
def exitGemini : WaCoroutine Unit := .test (·.geminiCtx) (tryAwait .geminiExit) (.pure ())

/-- `await self.gateway_client.connect()`; whether `run` goes on. -/
def connectGateway : WaCoroutine Bool :=
  ((awaitAt .gatewayConnect).bind (fun _ => .act ({ · with gatewayWs := true })
    (.pure true))).tryExcept abandonCall

/-- The direct connection to Gemini Live, with the greeting; whether `run` goes on. -/
def connectGemini : WaCoroutine Bool :=
  Coroutine.tryExcept
    (.test (·.geminiConfigures)
      (.act ({ · with geminiCtx := true })
        ((awaitAt .geminiEnter).bind (fun _ =>
          .act ({ · with geminiSession := true, modelSpeaking := true })
            ((awaitAt .geminiGreeting).bind (fun _ => .pure true)))))
      (.exit .raised))
    (.act ({ · with modelSpeaking := false, geminiSession := false })
      (exitGemini.bind (fun _ => abandonCall)))

/-- The phase before the loops. -/
def connectPhase : WaCoroutine Bool :=
  .test (·.hasGateway) connectGateway
    (.test (fun s => !s.geminiSession && s.hasGeminiKey) connectGemini (.pure true))

/-- The `finally` block. `GatewayClient.close` awaits only an open web socket. -/
def closeConnections : WaCoroutine Unit :=
  (Coroutine.test (fun s => s.hasGateway && s.gatewayWs)
      (((awaitAt .gatewayClose).bind (fun _ =>
        .act ({ · with gatewayWs := false }) (.pure ()))).tryExcept (.pure ())) (.pure ())).bind
            (fun _ =>
    exitGemini.bind (fun _ => .act WaSessionState.cleanup (.pure ())))

/-- The four loops, and what follows them. -/
def runLoops : WaCoroutine Unit :=
  ((awaitAt .loops).tryExcept (.pure ())).tryFinally closeConnections

/-- `WaSession.run`. -/
def runWaSession : WaCoroutine Unit :=
  .act WaSessionState.writeCallStart
    (.act WaSessionState.createTransport
      (connectPhase.bind (fun connected => if connected then runLoops else .pure ())))

/-! ## The task and the server -/

/-- A session task, and whether the server still lists it under its call. -/
structure WaTask where
  code : WaCoroutine Unit
  session : WaSessionState
  registered : Bool

/-- The session `_handle_invite` makes: it owns the media socket it was given. What is left open is
    the configuration, the database, and what the database holds of an earlier call of that id. -/
def invitedSession (callId tenantId companyId : String) (db : Option (Option WaCallDoc))
    (hasGeminiKey geminiConfigures hasGateway : Bool) (startedAt : ℚ) : WaSessionState where
  callId := callId
  tenantId := tenantId
  companyId := companyId
  db := db
  hasGeminiKey := hasGeminiKey
  geminiConfigures := geminiConfigures
  geminiSession := false
  geminiCtx := false
  hasGateway := hasGateway
  gatewayWs := false
  mediaTransport := true
  hasRemoteAddr := true
  ownsTransport := true
  socketOpen := true
  startedAt := startedAt
  modelSpeaking := false
  shutdown := false
  framesReceived := 0
  framesSent := 0
  now := startedAt
  loopFailed := false
  mustCancel := false

/-- `asyncio.create_task(session.run())`. -/
def WaTask.create (session : WaSessionState) : WaTask :=
  ⟨.task .firstStep runWaSession, session, true⟩

inductive WaTaskEvent where
  /-- What the task awaits ends; for the loops that is that all of them have ended. -/
  | awaited (ok : Bool)
  /-- The loops move frames, and the gateway link is lost or up again. -/
  | progress (framesReceived framesSent : ℕ) (gatewayWs modelSpeaking : Bool)
  | loopFails
  /-- `session.shutdown()` -/
  | shutdown
  /-- `_handle_bye` for the call of the session. -/
  | bye

/-- Resume the task. -/
def WaTask.resume (t : WaTask) (w : Wakeup) (session : WaSessionState) : WaTask :=
  let (code, session) := t.code.resume w session
  { t with code, session }

/-- `session.shutdown()`, and `task.cancel()` where the task has not ended. A cancellation that
    finds the group with a failed loop is due again after the errors of the group were handled. -/
def WaTask.cancel (t : WaTask) : WaTask :=
  let session := { t.session with shutdown := true }
  if t.code.suspendedAt = some .loops ∧ session.loopFailed then
    t.resume .failed { session with mustCancel := true }
  else t.resume .cancelled session

def WaTask.step (t : WaTask) (e : Timed ℚ WaTaskEvent) : WaTask :=
  let s := { t.session with now := e.now }
  match e.event with
  | .awaited ok =>
    t.resume (if (if t.code.suspendedAt = some .loops then !s.loopFailed else ok) then .done
      else .failed) s
  | .progress received sent gatewayWs modelSpeaking =>
    if t.code.suspendedAt = some .loops then
      { t with session :=
          { s with framesReceived := received, framesSent := sent, gatewayWs, modelSpeaking } }
    else { t with session := s }
  | .loopFails =>
    if t.code.suspendedAt = some .loops then { t with session := { s with loopFailed := true } }
    else { t with session := s }
  | .shutdown => { t with session := { s with shutdown := true } }
  | .bye =>
    if t.registered then { { t with session := s }.cancel with registered := false }
    else { t with session := s }

/-- The task of an accepted call in any order of events. -/
def waTaskMachine : EventMachine WaTask (Timed ℚ WaTaskEvent) Unit where
  step t e := (t.step e, ())

/-! ## What `run` leaves behind -/

/-- **Cleaned up**: the socket of the session is closed, and a call document has its end record. -/
def WaSessionState.Clean (s : WaSessionState) : Prop :=
  s.socketOpen = false ∧
    ∀ doc, s.db = some (some doc) → doc.status = .terminated ∧ doc.endedAt.isSome

/-- A task that has ended is cleaned up. -/
def WaTask.CleanedUp (t : WaTask) : Prop := t.code.suspendedAt = none → t.session.Clean

/-- The media socket is there, open, and the session's own. -/
structure WaSessionState.Owned (s : WaSessionState) : Prop where
  owns : s.ownsTransport = true
  transport : s.mediaTransport = true
  isOpen : s.socketOpen = true

variable {s : WaSessionState}

theorem not_clean_of_owned (h : s.Owned) : ¬ s.Clean := by
  intro hclean
  have hclosed := hclean.1
  rw [h.isOpen] at hclosed
  exact absurd hclosed (by decide)

theorem clean_cleanup (h : s.Owned) : s.cleanup.Clean := by
  have hcleanup :
      s.cleanup = { s with socketOpen := false, mediaTransport := false }.writeCallEnd := by
    rw [WaSessionState.cleanup, WaSessionState.cleanupTransport, if_pos ⟨h.owns, h.transport⟩]
  rw [hcleanup]
  refine ⟨rfl, fun doc hdoc => ?_⟩
  simp only [WaSessionState.writeCallEnd, Option.map_eq_some_iff] at hdoc
  obtain ⟨_, -, _, -, rfl⟩ := hdoc
  exact ⟨rfl, rfl⟩

/-- How the awaited thing may end at a point without harm: a cancellation meets the loops, and no
    cancellation is due again while there is a connection to close. -/
def harmless (a : WaAwait) (w : Wakeup) (s : WaSessionState) : Bool :=
  (w ≠ .cancelled || a = .loops) && !(s.mustCancel && s.hasConnection)

/-- While `run` is suspended its socket is open; the ghost says that all its suspensions ended
    without harm. -/
def waAwaitSpec : AwaitSpec WaSessionState WaAwait Bool where
  inv g _ s := g = true ∧ s.Owned ∧ s.mustCancel = false
  rely a w s s' := (s.Owned → s'.Owned) ∧ (s'.mustCancel = true → a = .loops ∧ w = .failed)
  note g a w s := g && harmless a w s

/-- A session is left cleaned up exactly if none of its suspensions ended in a harmful way. -/
def CleanIff (g : Bool) (s : WaSessionState) : Prop := s.Clean ↔ g = true

def waPost {β : Type} (g : Bool) (_ : Exit β) (s : WaSessionState) : Prop := CleanIff g s

theorem cleanIff_owned (h : s.Owned) : CleanIff false s :=
  iff_of_false (not_clean_of_owned h) (by decide)

theorem cleanIff_cleanup (h : s.Owned) : CleanIff true s.cleanup :=
  iff_of_true (clean_cleanup h) rfl

/-! ## Weakest preconditions of the parts of `run` -/

section Parts

variable {s : WaSessionState}

variable {Q : Bool → Exit Unit → WaSessionState → Prop}

/-- A suspension outside the loops: only a cancellation does harm. -/
theorem wp_awaitAt {a : WaAwait} (ha : a ≠ .loops) (hs : s.Owned) (hcalm : s.mustCancel = false)
    (hdone : ∀ s' : WaSessionState, s'.Owned → s'.mustCancel = false → Q true (.returned ()) s')
    (hfailed : ∀ s' : WaSessionState, s'.Owned → s'.mustCancel = false → Q true .raised s')
    (hcancelled : ∀ s' : WaSessionState, s'.Owned → Q false .cancelled s') :
    (awaitAt a).wp waAwaitSpec Q true s := by
  rw [awaitAt, Coroutine.wp_test]
  refine ⟨fun h => absurd h (by rw [hcalm]; decide), fun _ => ?_⟩
  rw [Coroutine.wp_wait]
  have hquiet : ∀ {w : Wakeup} {s' : WaSessionState}, waAwaitSpec.rely a w s s' →
      s'.Owned ∧ s'.mustCancel = false := by
    intro w s' hrely
    refine ⟨hrely.1 hs, ?_⟩
    cases hdue : s'.mustCancel with
    | false => rfl
    | true => exact absurd (hrely.2 hdue).1 ha
  refine ⟨⟨rfl, hs, hcalm⟩, fun s' hrely => ?_, fun s' hrely => ?_, fun s' hrely => ?_⟩
  · have hnote : waAwaitSpec.note true a .done s' = true := by
      simp [waAwaitSpec, harmless, (hquiet hrely).2]
    rw [hnote]
    exact hdone s' (hquiet hrely).1 (hquiet hrely).2
  · have hnote : waAwaitSpec.note true a .failed s' = true := by
      simp [waAwaitSpec, harmless, (hquiet hrely).2]
    rw [hnote]
    exact hfailed s' (hquiet hrely).1 (hquiet hrely).2
  · have hnote : waAwaitSpec.note true a .cancelled s' = false := by
      simp [waAwaitSpec, harmless, ha]
    rw [hnote]
    exact hcancelled s' (hquiet hrely).1

theorem wp_awaitAt_due {a : WaAwait} {g : Bool}
    (hdue : s.mustCancel = true) (h : Q g .cancelled { s with mustCancel := false }) :
    (awaitAt a).wp waAwaitSpec Q g s := by
  rw [awaitAt, Coroutine.wp_test]
  refine ⟨fun _ => h, fun hcalm => ?_⟩
  rw [hdue] at hcalm
  exact absurd hcalm (by decide)

theorem wp_tryAwait {a : WaAwait} (ha : a ≠ .loops) (hs : s.Owned) (hcalm : s.mustCancel = false)
    (hgone : ∀ s' : WaSessionState, s'.Owned → s'.mustCancel = false → Q true (.returned ()) s')
    (hcancelled : ∀ s' : WaSessionState, s'.Owned → Q false .cancelled s') :
    (tryAwait a).wp waAwaitSpec Q true s := by
  rw [tryAwait, Coroutine.wp_tryExcept]
  exact wp_awaitAt ha hs hcalm hgone hgone hcancelled

theorem wp_exitGemini (hs : s.Owned) (hcalm : s.mustCancel = false)
    (hgone : ∀ s' : WaSessionState, s'.Owned → s'.mustCancel = false → Q true (.returned ()) s')
    (hcancelled : ∀ s' : WaSessionState, s'.Owned → Q false .cancelled s') :
    exitGemini.wp waAwaitSpec Q true s := by
  rw [exitGemini, Coroutine.wp_test]
  exact ⟨fun _ => wp_tryAwait (by decide) hs hcalm hgone hcancelled, fun _ => hgone s hs hcalm⟩

/-- The end of the `finally` block, when no cancellation is due. -/
theorem wp_exitGemini_cleanup (hs : s.Owned) (hcalm : s.mustCancel = false) :
    (exitGemini.bind (fun _ => .act WaSessionState.cleanup (.pure ()))).wp waAwaitSpec waPost true
    s := by
  rw [Coroutine.wp_bind]
  exact wp_exitGemini hs hcalm (fun s' hs' _ => cleanIff_cleanup hs')
    (fun s' hs' => cleanIff_owned hs')

/-- **The `finally` block** cleans up, unless it is cancelled; a cancellation that is due strikes it
    if there is a connection to close. -/
theorem wp_closeConnections (hs : s.Owned) :
    closeConnections.wp waAwaitSpec waPost (!(s.mustCancel && s.hasConnection)) s := by
  rw [closeConnections, Coroutine.wp_bind, Coroutine.wp_test]
  cases hmust : s.mustCancel with
  | false =>
    rw [Bool.false_and, Bool.not_false]
    refine ⟨fun _ => ?_, fun _ => wp_exitGemini_cleanup hs hmust⟩
    rw [Coroutine.wp_tryExcept, Coroutine.wp_bind]
    refine wp_awaitAt (by decide) hs hmust ?_ ?_ ?_
    · intro s' hs' hcalm
      exact wp_exitGemini_cleanup (s := { s' with gatewayWs := false }) ⟨hs'.1, hs'.2, hs'.3⟩ hcalm
    · intro s' hs' hcalm
      exact wp_exitGemini_cleanup hs' hcalm
    · intro s' hs'
      exact cleanIff_owned hs'
  | true =>
    have hstruck : CleanIff false { s with mustCancel := false } :=
      cleanIff_owned ⟨hs.1, hs.2, hs.3⟩
    rw [Bool.true_and]
    refine ⟨fun hgateway => ?_, fun hnone => ?_⟩
    · have hconn : s.hasConnection = true := by simp [WaSessionState.hasConnection, hgateway]
      rw [hconn, Bool.not_true, Coroutine.wp_tryExcept, Coroutine.wp_bind]
      exact wp_awaitAt_due hmust hstruck
    · show (exitGemini.bind _).wp waAwaitSpec waPost _ s
      rw [Coroutine.wp_bind, exitGemini, Coroutine.wp_test]
      refine ⟨fun hctx => ?_, fun hctx => ?_⟩
      · have hconn : s.hasConnection = true := by simp [WaSessionState.hasConnection, hctx]
        rw [hconn, Bool.not_true, tryAwait, Coroutine.wp_tryExcept]
        exact wp_awaitAt_due hmust hstruck
      · have hconn : s.hasConnection = false := by
          rw [WaSessionState.hasConnection, hnone, hctx]
          rfl
        rw [hconn, Bool.not_false]
        exact cleanIff_cleanup hs

theorem finallyPost_waPost (e : Exit Unit) :
    Coroutine.finallyPost (γ := Bool) waPost e = waPost := by
  funext g e' s
  cases e' <;> rfl

/-- **The loops** end cleaned up however they end, and so does a cancellation that meets them. -/
theorem wp_runLoops (hs : s.Owned) (hcalm : s.mustCancel = false) :
    runLoops.wp waAwaitSpec waPost true s := by
  rw [runLoops, Coroutine.wp_tryFinally, Coroutine.wp_tryExcept, awaitAt, Coroutine.wp_test]
  refine ⟨fun h => absurd h (by rw [hcalm]; decide), fun _ => ?_⟩
  have hfinally : ∀ (w : Wakeup) (e : Exit Unit) (s' : WaSessionState),
    waAwaitSpec.rely .loops w s s' →
      closeConnections.wp waAwaitSpec (Coroutine.finallyPost waPost e)
        (waAwaitSpec.note true .loops w s') s' := by
    intro w e s' hrely
    have hnote : waAwaitSpec.note true .loops w s' = !(s'.mustCancel && s'.hasConnection) := by
      simp [waAwaitSpec, harmless]
    rw [finallyPost_waPost, hnote]
    exact wp_closeConnections (hrely.1 hs)
  rw [Coroutine.wp_wait]
  exact ⟨⟨rfl, hs, hcalm⟩, hfinally .done (.returned ()), hfinally .failed (.returned ()),
    hfinally .cancelled .cancelled⟩

/-- What a connect phase has to promise: it goes on with the socket still owned, or it has cleaned
    up, or it is cancelled. -/
structure ConnectPost (Q : Bool → Exit Bool → WaSessionState → Prop) : Prop where
  goesOn : ∀ s : WaSessionState, s.Owned → s.mustCancel = false → Q true (.returned true) s
  abandons : ∀ s : WaSessionState, s.Owned → Q true (.returned false) s.cleanup
  cancelled : ∀ s : WaSessionState, s.Owned → Q false .cancelled s

variable {Q : Bool → Exit Bool → WaSessionState → Prop}

theorem wp_connectGateway (hQ : ConnectPost Q) (hs : s.Owned) (hcalm : s.mustCancel = false) :
    connectGateway.wp waAwaitSpec Q true s := by
  rw [connectGateway, Coroutine.wp_tryExcept, Coroutine.wp_bind]
  refine wp_awaitAt (by decide) hs hcalm ?_ ?_ hQ.cancelled
  · intro s' hs' hcalm'
    exact hQ.goesOn { s' with gatewayWs := true } ⟨hs'.1, hs'.2, hs'.3⟩ hcalm'
  · intro s' hs' _
    exact hQ.abandons s' hs'

theorem wp_geminiFailed (hQ : ConnectPost Q) (hs : s.Owned) (hcalm : s.mustCancel = false) :
    (Coroutine.act ({ · with modelSpeaking := false, geminiSession := false })
      (exitGemini.bind (fun _ => abandonCall))).wp waAwaitSpec Q true s := by
  rw [Coroutine.wp_act, Coroutine.wp_bind]
  exact wp_exitGemini ⟨hs.1, hs.2, hs.3⟩ hcalm (fun s' hs' _ => hQ.abandons s' hs') hQ.cancelled

theorem wp_connectGemini (hQ : ConnectPost Q) (hs : s.Owned) (hcalm : s.mustCancel = false) :
    connectGemini.wp waAwaitSpec Q true s := by
  rw [connectGemini, Coroutine.wp_tryExcept, Coroutine.wp_test]
  refine ⟨fun _ => ?_, fun _ => wp_geminiFailed hQ hs hcalm⟩
  rw [Coroutine.wp_act, Coroutine.wp_bind]
  refine wp_awaitAt (by decide) ⟨hs.1, hs.2, hs.3⟩ hcalm ?_ ?_ hQ.cancelled
  · intro s' hs' hcalm'
    rw [Coroutine.bindPost_returned, Coroutine.wp_act, Coroutine.wp_bind]
    refine wp_awaitAt (by decide) ⟨hs'.1, hs'.2, hs'.3⟩ hcalm' ?_ ?_ hQ.cancelled
    · intro s'' hs'' hcalm''
      exact hQ.goesOn s'' hs'' hcalm''
    · intro s'' hs'' hcalm''
      exact wp_geminiFailed hQ hs'' hcalm''
  · intro s' hs' hcalm'
    exact wp_geminiFailed hQ hs' hcalm'

theorem wp_connectPhase (hQ : ConnectPost Q) (hs : s.Owned) (hcalm : s.mustCancel = false) :
    connectPhase.wp waAwaitSpec Q true s := by
  rw [connectPhase, Coroutine.wp_test]
  refine ⟨fun _ => wp_connectGateway hQ hs hcalm, fun _ => ?_⟩
  rw [Coroutine.wp_test]
  exact ⟨fun _ => wp_connectGemini hQ hs hcalm, fun _ => hQ.goesOn s hs hcalm⟩

/-- **`run`** leaves its session cleaned up exactly if it is cancelled, if at all, during the
    loops. -/
theorem wp_runWaSession (hs : s.Owned) (hcalm : s.mustCancel = false) :
    runWaSession.wp waAwaitSpec waPost true s := by
  have howned : s.writeCallStart.createTransport = s.writeCallStart := by
    rw [WaSessionState.createTransport, if_neg]
    intro h
    have htransport : s.mediaTransport = false := h.1
    rw [hs.transport] at htransport
    exact absurd htransport (by decide)
  rw [runWaSession, Coroutine.wp_act, Coroutine.wp_act, howned, Coroutine.wp_bind]
  refine wp_connectPhase ⟨?_, ?_, ?_⟩ ⟨hs.1, hs.2, hs.3⟩ hcalm
  · intro s' hs' hcalm'
    exact wp_runLoops hs' hcalm'
  · intro s' hs'
    exact cleanIff_cleanup hs'
  · intro s' hs'
    exact cleanIff_owned hs'

end Parts

/-! ## Runs of a task -/

/-- **A BYE that does no harm**: it finds the task ended, or in its loops, and there either no loop
    has failed yet or no connection is left to close. -/
def ByeHarmless (t : WaTask) (e : Timed ℚ WaTaskEvent) : Prop :=
  e.event = .bye → t.registered = true → t.code.suspendedAt ≠ none →
    t.code.suspendedAt = some .loops ∧
      (t.session.loopFailed = true → t.session.hasConnection = false)

/-- What every step preserves: a task has ended, or it is suspended with the precondition of the
    rest of `run`. -/
def WaTask.Sound (t : WaTask) : Prop :=
  (∃ e, t.code = .exit e) ∨
    ∃ a k, t.code = .await a k ∧ (Coroutine.await a k).wp waAwaitSpec waPost true t.session

theorem sound_create {s : WaSessionState} (hs : s.Owned) (hcalm : s.mustCancel = false) :
    (WaTask.create s).Sound := by
  refine .inr ⟨_, _, rfl, ?_⟩
  show (Coroutine.task .firstStep runWaSession).wp waAwaitSpec waPost true s
  rw [Coroutine.wp_task]
  refine ⟨⟨rfl, hs, hcalm⟩, fun w s' hrely hw => ?_, fun s' hrely => ?_⟩
  · have hcalm' : s'.mustCancel = false := by
      cases hdue : s'.mustCancel with
      | false => rfl
      | true => exact absurd (hrely.2 hdue).1 (by decide)
    have hnote : waAwaitSpec.note true .firstStep w s' = true := by
      simp [waAwaitSpec, harmless, hcalm', hw]
    rw [hnote]
    exact wp_runWaSession (hrely.1 hs) hcalm'
  · exact cleanIff_owned (hrely.1 hs)

/-- What happens to a session while `run` is suspended keeps the precondition. -/
theorem wp_await_of_owned {a : WaAwait} {k : Wakeup → WaCoroutine Unit} {s s' : WaSessionState}
    (h : (Coroutine.await a k).wp waAwaitSpec waPost true s) (howned : s.Owned → s'.Owned)
    (hcalm : s'.mustCancel = s.mustCancel) :
    (Coroutine.await a k).wp waAwaitSpec waPost true s' := by
  rw [Coroutine.wp_await] at h ⊢
  obtain ⟨⟨-, hs, hsCalm⟩, hresume⟩ := h
  refine ⟨⟨rfl, howned hs, hcalm.trans hsCalm⟩, fun w s'' hrely =>
    hresume w s'' ⟨fun _ => ?_, hrely.2⟩⟩
  exact hrely.1 (howned hs)

variable {t : WaTask}

theorem sound_of_owned {s : WaSessionState} (ht : t.Sound)
    (howned : t.session.Owned → s.Owned) (hcalm : s.mustCancel = t.session.mustCancel) (r : Bool) :
    WaTask.Sound ⟨t.code, s, r⟩ := by
  rcases ht with hended | ⟨a, k, hcode, hwp⟩
  · exact .inl hended
  · exact .inr ⟨a, k, hcode, wp_await_of_owned hwp howned hcalm⟩

/-- **One resumption**: the task stays sound, and stays cleaned up exactly if the suspension ended
    without harm. -/
theorem resume_sound {a : WaAwait} {k : Wakeup → WaCoroutine Unit}
    (hcode : t.code = .await a k) {s : WaSessionState}
    (hwp : (Coroutine.await a k).wp waAwaitSpec waPost true s) (w : Wakeup) (s' : WaSessionState)
    (hrely : waAwaitSpec.rely a w s s') :
    (t.resume w s').Sound ∧ ((t.resume w s').CleanedUp ↔ harmless a w s' = true) := by
  have hresume := Coroutine.wp_resume hwp hrely
  have hnote : waAwaitSpec.note true a w s' = harmless a w s' := Bool.true_and _
  rw [hnote, Coroutine.resume_await] at hresume
  have hnext : (t.resume w s').code = ((k w).advance s').1 ∧
      (t.resume w s').session = ((k w).advance s').2 := by
    rw [WaTask.resume, hcode]
    exact ⟨rfl, rfl⟩
  rcases Coroutine.advance_cases (k w) s' with ⟨e, he⟩ | ⟨a', k', hk⟩
  · rw [he, Coroutine.wp_exit] at hresume
    refine ⟨.inl ⟨e, hnext.1.trans he⟩, ?_⟩
    rw [WaTask.CleanedUp, hnext.1, hnext.2, he, Coroutine.suspendedAt_exit]
    exact ⟨fun h => hresume.1 (h rfl), fun h _ => hresume.2 h⟩
  · rw [hk] at hresume
    have hharmless : harmless a w s' = true := hresume.1.1
    rw [hharmless] at hresume
    refine ⟨.inr ⟨a', k', hnext.1.trans hk, ?_⟩, iff_of_true (fun hended => ?_) hharmless⟩
    · rw [hnext.2]
      exact hresume
    · rw [hnext.1, hk, Coroutine.suspendedAt_await] at hended
      exact absurd hended (by simp)

theorem cleanedUp_of_suspended {a : WaAwait} {k : Wakeup → WaCoroutine Unit}
    (hcode : t.code = .await a k) : t.CleanedUp := by
  intro hended
  rw [hcode, Coroutine.suspendedAt_await] at hended
  exact absurd hended (by simp)

theorem clean_congr {s s' : WaSessionState} (hsocket : s'.socketOpen = s.socketOpen)
    (hdb : s'.db = s.db) : s'.Clean ↔ s.Clean := by
  rw [WaSessionState.Clean, WaSessionState.Clean, hsocket, hdb]

theorem step_of_ended {x : Exit Unit} (hcode : t.code = .exit x)
    (e : Timed ℚ WaTaskEvent) : (t.step e).code = .exit x ∧ (t.step e).session.socketOpen =
      t.session.socketOpen ∧ (t.step e).session.db = t.session.db := by
  obtain ⟨now, event⟩ := e
  cases event with
  | awaited ok => simp [WaTask.step, WaTask.resume, hcode]
  | progress received sent ws speaking => simp [WaTask.step, hcode]
  | loopFails => simp [WaTask.step, hcode]
  | shutdown => simp [WaTask.step, hcode]
  | bye =>
    cases hregistered : t.registered <;> simp [WaTask.step, WaTask.cancel, WaTask.resume, hcode,
      hregistered]

/-- A BYE for a registered task that has not ended. -/
theorem cancel_sound {a : WaAwait} {k : Wakeup → WaCoroutine Unit}
    (hcode : t.code = .await a k) (hwp : (Coroutine.await a k).wp waAwaitSpec waPost true t.session)
    : t.cancel.Sound ∧ (t.cancel.CleanedUp ↔
      a = .loops ∧ (t.session.loopFailed = true → t.session.hasConnection = false)) := by
  have hcalm : t.session.mustCancel = false := hwp.1.2.2
  by_cases hgroup : a = .loops ∧ t.session.loopFailed = true
  · -- the errors of the group come first, and the cancellation behind them
    have hcancel : t.cancel =
        t.resume .failed { t.session with shutdown := true, mustCancel := true } := by
      rw [WaTask.cancel, if_pos ⟨by rw [hcode, hgroup.1]; rfl, hgroup.2⟩]
    obtain ⟨hsound, hclean⟩ := resume_sound hcode hwp .failed
      { t.session with shutdown := true, mustCancel := true }
      ⟨fun h => ⟨h.1, h.2, h.3⟩, fun _ => ⟨hgroup.1, rfl⟩⟩
    have hharmless : harmless a .failed { t.session with shutdown := true, mustCancel := true } =
        !t.session.hasConnection := by
      rw [hgroup.1]
      rfl
    rw [hcancel]
    refine ⟨hsound, hclean.trans ?_⟩
    rw [hharmless, Bool.not_eq_true']
    exact ⟨fun h => ⟨hgroup.1, fun _ => h⟩, fun h => h.2 hgroup.2⟩
  · have hcancel : t.cancel = t.resume .cancelled { t.session with shutdown := true } := by
      rw [WaTask.cancel, if_neg]
      intro h
      rw [hcode, Coroutine.suspendedAt_await, Option.some_inj] at h
      exact hgroup h
    obtain ⟨hsound, hclean⟩ := resume_sound hcode hwp .cancelled
      { t.session with shutdown := true }
      ⟨fun h => ⟨h.1, h.2, h.3⟩, fun h => by rw [hcalm] at h; exact absurd h (by decide)⟩
    rw [hcancel]
    refine ⟨hsound, hclean.trans ?_⟩
    have hharmless : harmless a .cancelled { t.session with shutdown := true } =
        decide (a = .loops) := by
      simp [harmless, hcalm]
    rw [hharmless, decide_eq_true_iff]
    exact ⟨fun ha => ⟨ha, fun hfailed => absurd ⟨ha, hfailed⟩ hgroup⟩, fun h => h.1⟩

theorem step_awaited (t : WaTask) (now : ℚ) (ok : Bool) :
    ∃ w, w ≠ .cancelled ∧ t.step ⟨now, .awaited ok⟩ = t.resume w { t.session with now } := by
  have hw : ∀ b : Bool, (if b then Wakeup.done else .failed) ≠ .cancelled := by decide
  exact ⟨_, hw _, rfl⟩

/-- An event that resumes nothing changes no field the precondition reads. -/
theorem step_quiet (t : WaTask) (e : Timed ℚ WaTaskEvent) (hawaited : ∀ ok, e.event ≠ .awaited ok)
    (hbye : e.event ≠ .bye) :
    ∃ s, t.step e = ⟨t.code, s, t.registered⟩ ∧ (t.session.Owned → s.Owned) ∧
      s.mustCancel = t.session.mustCancel := by
  obtain ⟨now, event⟩ := e
  cases event with
  | awaited ok => exact absurd rfl (hawaited ok)
  | progress received sent gatewayWs modelSpeaking =>
    by_cases hloops : t.code.suspendedAt = some .loops
    · exact ⟨_, if_pos hloops, fun h => ⟨h.1, h.2, h.3⟩, rfl⟩
    · exact ⟨_, if_neg hloops, fun h => ⟨h.1, h.2, h.3⟩, rfl⟩
  | loopFails =>
    by_cases hloops : t.code.suspendedAt = some .loops
    · exact ⟨_, if_pos hloops, fun h => ⟨h.1, h.2, h.3⟩, rfl⟩
    · exact ⟨_, if_neg hloops, fun h => ⟨h.1, h.2, h.3⟩, rfl⟩
  | shutdown => exact ⟨_, rfl, fun h => ⟨h.1, h.2, h.3⟩, rfl⟩
  | bye => exact absurd rfl hbye

/-- **One step** keeps a task sound, and it keeps it cleaned up exactly if it is no harmful BYE. -/
theorem step_sound (ht : t.Sound) (e : Timed ℚ WaTaskEvent) :
    (t.step e).Sound ∧ (t.CleanedUp → ((t.step e).CleanedUp ↔ ByeHarmless t e)) := by
  rcases ht with ⟨x, hcode⟩ | ⟨a, k, hcode, hwp⟩
  · obtain ⟨hnext, hsocket, hdb⟩ := step_of_ended hcode e
    refine ⟨.inl ⟨x, hnext⟩, fun hclean => iff_of_true (fun _ => ?_) (fun _ _ hrunning => ?_)⟩
    · rw [clean_congr hsocket hdb]
      exact hclean (by rw [hcode]; rfl)
    · rw [hcode] at hrunning
      exact absurd rfl hrunning
  · have hcalm : t.session.mustCancel = false := hwp.1.2.2
    have hsame : t.session.Owned → { t.session with now := e.now }.Owned := fun h => ⟨h.1, h.2, h.3⟩
    have hquiet : (∃ s, t.step e = ⟨t.code, s, t.registered⟩ ∧ (t.session.Owned → s.Owned) ∧
        s.mustCancel = t.session.mustCancel) → (t.step e).Sound ∧ (t.step e).CleanedUp := by
      rintro ⟨s, hstep, howned, hmust⟩
      rw [hstep]
      exact ⟨sound_of_owned (.inr ⟨a, k, hcode, hwp⟩) howned hmust _, cleanedUp_of_suspended hcode⟩
    obtain ⟨now, event⟩ := e
    cases event with
    | awaited ok =>
      obtain ⟨w, hw, hstep⟩ := step_awaited t now ok
      obtain ⟨hsound, hclean⟩ := resume_sound hcode hwp w { t.session with now }
        ⟨hsame, fun h => by rw [hcalm] at h; exact absurd h (by decide)⟩
      rw [hstep]
      exact ⟨hsound, fun _ => iff_of_true (hclean.2 (by simp [harmless, hw, hcalm]))
        (fun h => by cases h)⟩
    | progress received sent gatewayWs modelSpeaking =>
      obtain ⟨hsound, hclean⟩ := hquiet (step_quiet t _ (by simp) (by simp))
      exact ⟨hsound, fun _ => iff_of_true hclean (fun h => by cases h)⟩
    | loopFails =>
      obtain ⟨hsound, hclean⟩ := hquiet (step_quiet t _ (by simp) (by simp))
      exact ⟨hsound, fun _ => iff_of_true hclean (fun h => by cases h)⟩
    | shutdown =>
      obtain ⟨hsound, hclean⟩ := hquiet (step_quiet t _ (by simp) (by simp))
      exact ⟨hsound, fun _ => iff_of_true hclean (fun h => by cases h)⟩
    | bye =>
      cases hregistered : t.registered with
      | false =>
        have hstep : t.step ⟨now, .bye⟩ = { t with session := { t.session with now } } := by
          simp [WaTask.step, hregistered]
        obtain ⟨hsound, hclean⟩ := hquiet ⟨_, hstep, hsame, rfl⟩
        refine ⟨hsound, fun _ => iff_of_true hclean ?_⟩
        intro _ hlisted
        rw [hregistered] at hlisted
        exact absurd hlisted (by decide)
      | true =>
        have hstep : t.step ⟨now, .bye⟩ =
            { { t with session := { t.session with now } }.cancel with registered := false } := by
          simp [WaTask.step, hregistered]
        obtain ⟨hsound, hclean⟩ := cancel_sound (t := { t with session := { t.session with now } })
          hcode (wp_await_of_owned hwp hsame rfl)
        rw [hstep]
        refine ⟨hsound, fun _ => hclean.trans ?_⟩
        rw [ByeHarmless, hcode, Coroutine.suspendedAt_await, Option.some_inj]
        exact ⟨fun h _ _ _ => h, fun h => h rfl hregistered (by simp)⟩

/-! ## When a call is cleaned up -/

theorem invitedSession_owned (callId tenantId companyId : String) (db : Option (Option WaCallDoc))
    (hasGeminiKey geminiConfigures hasGateway : Bool) (startedAt : ℚ) :
    (invitedSession callId tenantId companyId db hasGeminiKey geminiConfigures hasGateway
      startedAt).Owned :=
  ⟨rfl, rfl, rfl⟩

/-- **The task of an accepted call ends cleaned up exactly in the runs in which every BYE is
    harmless**: it finds the task in its loops, or ended. -/
theorem invitedSession_cleanedUp_iff (callId tenantId companyId : String)
    (db : Option (Option WaCallDoc)) (hasGeminiKey geminiConfigures hasGateway : Bool)
    (startedAt : ℚ) (es : List (Timed ℚ WaTaskEvent)) :
    waTaskMachine.Always WaTask.CleanedUp (.create (invitedSession callId tenantId companyId db
        hasGeminiKey geminiConfigures hasGateway startedAt)) es ↔
      ∀ x ∈ waTaskMachine.trace (.create (invitedSession callId tenantId companyId db hasGeminiKey
        geminiConfigures hasGateway startedAt)) es, ByeHarmless x.pre x.event := by
  refine waTaskMachine.always_iff_guarded_of_invariant (I := WaTask.Sound)
    (fun t e ht => (step_sound ht e).1) (fun t e ht hclean => (step_sound ht e).2 hclean)
    (sound_create (invitedSession_owned _ _ _ _ _ _ _ _) rfl) ?_ es
  exact cleanedUp_of_suspended rfl

/-- A call whose BYE arrives while the session connects to the gateway. -/
def earlyBye : List (Timed ℚ WaTaskEvent) := [⟨1, .awaited true⟩, ⟨2, .bye⟩]

/-- A BYE during the connection to the gateway leaves the socket open and the record active. -/
theorem earlyBye_leaks :
    ¬ waTaskMachine.Always WaTask.CleanedUp
      (.create (invitedSession "a" "t" "c" (some none) false true true 0)) earlyBye := by
  intro h
  have hclean := EventMachine.Always.run _ h
  exact absurd (hclean rfl).1 (by decide)

end Ekaette
