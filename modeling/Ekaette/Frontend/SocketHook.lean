import Ekaette.Lib.EventMachine

set_option autoImplicit false

/-! # The socket hook of the frontend

`src/frontend/src/hooks/useEkaetteSocket.ts` keeps one connection to the live agent, over a
WebSocket to the backend or over a direct session with the model. A connection attempt is an async
function: it suspends while it fetches a token, while it imports the client library and while a
session connects. In between anything may happen: calls of `connect` and `disconnect`, timers, and
events of the transports.

What attempts and handlers share are refs. The guards of a new attempt look at these only: so an
attempt that `disconnect` has cancelled is not seen while it is suspended, nor is a session that a
late close event of an older one has removed from its ref. -/

namespace Ekaette

/-! ## Transports -/

/-- `TransportMode` -/
inductive TransportMode where
  | backendProxy
  | directLive
  deriving DecidableEq

/-- The ready state of a transport. -/
inductive ReadyState where
  | connecting
  | opened
  | closing
  | closed
  deriving DecidableEq

/-- A WebSocket or a direct session, and whether its handlers are attached. -/
structure Transport where
  mode : TransportMode
  state : ReadyState := .connecting
  handled : Bool := true
  deriving DecidableEq

namespace Transport

variable (t : Transport)

/-- It is open or opening. -/
def live : Bool := t.state = .connecting || t.state = .opened

/-- `close()` -/
def close : Transport := if t.live then { t with state := .closing } else t

/-- The handlers of a socket are removed, and it is closed. -/
def detach : Transport := { t.close with handled := false }

theorem live_close : t.close.live = false := by
  unfold close
  cases hlive : t.live with
  | true => rfl
  | false => exact hlive

theorem live_detach : t.detach.live = false := t.live_close

end Transport

/-! ## The hook -/

/-- Where a connection attempt is suspended. -/
inductive Attempt where
  | proxyToken
  | directToken
  | directImport
  | directConnect (session : ℕ)
  deriving DecidableEq

/-- It has no transport yet. -/
def Attempt.waiting : Attempt → Bool
  | .directConnect _ => false
  | _ => true

/-- The options of the hook. -/
structure SocketOptions where
  demoMode : Bool := false
  transportMode : TransportMode := .backendProxy

/-- The refs of the hook; its transports and attempts, by the order in which they were made. -/
structure SocketHook where
  transports : ℕ → Option Transport := fun _ => none
  created : ℕ := 0
  attempts : ℕ → Option Attempt := fun _ => none
  started : ℕ := 0
  ws : Option ℕ := none
  directSession : Option ℕ := none
  activeTransport : TransportMode := .backendProxy
  connecting : Bool := false
  shouldReconnect : Bool := true
  /-- a pending `connect()`, and whether its timeout is running -/
  pendingConnect : Option Bool := none
  reconnectAttempt : ℕ := 0
  /-- the reconnect timers that are running, and the last one that was set -/
  reconnectTimers : List ℕ := []
  reconnectTimer : Option ℕ := none
  timersSet : ℕ := 0
  voiceReconnectPending : Bool := false
  lastConnectTime : ℕ := 0
  rapidFailCount : ℕ := 0
  /-- `disconnect()` was called, and `connect()` not since -/
  disconnected : Bool := false

namespace SocketHook

variable (s : SocketHook)

/-- The transport is open or opening. -/
def isLive (i : ℕ) : Bool := (s.transports i).any Transport.live

/-- A transport changes. -/
def modify (i : ℕ) (f : Transport → Transport) : SocketHook :=
  { s with transports := Function.update s.transports i ((s.transports i).map f) }

/-- The transport in a ref changes. -/
def modifyRef (ref : Option ℕ) (f : Transport → Transport) : SocketHook :=
  match ref with
  | some i => s.modify i f
  | none => s

/-- A new transport. -/
def create (mode : TransportMode) : SocketHook :=
  { s with
    transports := Function.update s.transports s.created (some { mode := mode })
    created := s.created + 1 }

/-- An attempt goes on, or ends. -/
def setAttempt (a : ℕ) (attempt : Option Attempt) : SocketHook :=
  { s with attempts := Function.update s.attempts a attempt }

/-- The synchronous part of an attempt, up to where it first suspends. -/
def startAttempt (attempt : Attempt) : SocketHook :=
  { s with
    attempts := Function.update s.attempts s.started (some attempt)
    started := s.started + 1
    shouldReconnect := true
    connecting := true }

/-- An attempt that finds `shouldReconnect` unset. -/
def endAttempt (a : ℕ) : SocketHook := { s.setAttempt a none with connecting := false }

/-! ## Reconnecting -/

/-- `MAX_RECONNECT_ATTEMPTS` -/
def maxReconnectAttempts : ℕ := 3

/-- `reconnectTimerRef.current = setTimeout(..)` -/
def setReconnectTimer : SocketHook :=
  { s with
    reconnectTimers := s.reconnectTimers ++ [s.timersSet]
    reconnectTimer := some s.timersSet
    timersSet := s.timersSet + 1 }

variable (cfg : SocketOptions)

/-- `scheduleReconnect` -/
def scheduleReconnect : SocketHook :=
  if cfg.demoMode || !s.shouldReconnect then s
  else if maxReconnectAttempts ≤ s.reconnectAttempt then { s with pendingConnect := none }
  else { s.setReconnectTimer with reconnectAttempt := s.reconnectAttempt + 1 }

/-- The session in the ref is closed. -/
def closeSession : SocketHook :=
  { s.modifyRef s.directSession Transport.close with directSession := none }

/-- The handlers of the socket in the ref are removed, and it is closed. -/
def detachSocket : SocketHook := s.modifyRef s.ws Transport.detach

/-- The timers in the refs are cleared. -/
def clearTimers : SocketHook :=
  { s with
    pendingConnect := s.pendingConnect.map fun _ => false
    reconnectTimers := s.reconnectTimers.filter fun t => s.reconnectTimer ≠ some t
    reconnectTimer := none
    voiceReconnectPending := false }

/-- `cleanup` -/
def cleanup : SocketHook :=
  let s := { s.clearTimers.detachSocket with ws := none }
  { s.closeSession with activeTransport := .backendProxy, connecting := false }

/-! ## Connecting -/

/-- `connectBackendProxy`, up to the token. -/
def connectBackendProxy : SocketHook :=
  if s.connecting || s.ws.any s.isLive then s
  else s.closeSession.detachSocket.startAttempt .proxyToken

/-- `connectDirectLive`, up to the token. -/
def connectDirectLive : SocketHook := s.startAttempt .directToken

/-- The guard of `connectInternal`. -/
def guarded : Bool := s.connecting || s.directSession.isSome || s.ws.any s.isLive

/-- `connectInternal` -/
def connectInternal : SocketHook :=
  if cfg.demoMode then { s with pendingConnect := none }
  else if s.guarded then s
  else
    match cfg.transportMode with
    | .directLive => s.connectDirectLive
    | .backendProxy => s.connectBackendProxy

/-- `connectDirectLive` rejects: the other transport is tried. -/
def directFailed (a : ℕ) : SocketHook :=
  { s.setAttempt a none with
    connecting := false, activeTransport := .backendProxy }.connectBackendProxy

/-- `connect`; `seen` when it was rendered in the state `connected`. -/
def connect (seen timed : Bool) : SocketHook :=
  let s := { s with disconnected := false }
  if seen then s
  else if s.pendingConnect.isSome then s
  else { s with
    reconnectAttempt := 0, rapidFailCount := 0, pendingConnect := some timed }.connectInternal cfg

/-- `disconnect` -/
def disconnect : SocketHook :=
  { s with shouldReconnect := false, pendingConnect := none, disconnected := true }.cleanup

/-- The timeout of a pending `connect()`. -/
def connectTimeout : SocketHook :=
  if s.pendingConnect = some true then
    { { s with shouldReconnect := false }.cleanup with pendingConnect := none }
  else s

/-! ## Attempts go on -/

/-- The token request of an attempt ends. -/
def tokenDone (a : ℕ) (ok : Bool) : SocketHook :=
  match s.attempts a with
  | some .proxyToken =>
    if s.shouldReconnect then
      { (s.setAttempt a none).create .backendProxy with ws := some s.created }
    else s.endAttempt a
  | some .directToken =>
    if !ok then s.directFailed a
    else if s.shouldReconnect then s.setAttempt a (some .directImport)
    else s.endAttempt a
  | _ => s

/-- The import of an attempt ends; `ai.live.connect` is called. -/
def importDone (a : ℕ) (ok : Bool) : SocketHook :=
  match s.attempts a with
  | some .directImport =>
    if !ok then s.directFailed a
    else if s.shouldReconnect then (s.setAttempt a (some (.directConnect s.created))).create
      .directLive
    else s.endAttempt a
  | _ => s

/-- `ai.live.connect` resolves or rejects. -/
def liveDone (a : ℕ) (ok : Bool) : SocketHook :=
  match s.attempts a with
  | some (.directConnect i) =>
    if !ok then (s.modify i Transport.close).directFailed a
    else if s.shouldReconnect then { s.setAttempt a none with directSession := some i }
    else (s.endAttempt a).modify i Transport.close
  | _ => s

/-! ## Events of transports -/

/-- The connections in a row that lasted less than three seconds. -/
def rapidFails (now : ℕ) : ℕ :=
  if 0 < s.lastConnectTime ∧ now - s.lastConnectTime < 3000 then s.rapidFailCount + 1 else 0

/-- `ws.onclose` -/
def socketClosed (now : ℕ) : SocketHook :=
  let s := { s with connecting := false, ws := none, rapidFailCount := s.rapidFails now }
  if 3 ≤ s.rapidFailCount then { s with rapidFailCount := 0, pendingConnect := none }
  else if s.voiceReconnectPending && s.shouldReconnect then
    { s with voiceReconnectPending := false, reconnectAttempt := 0 }.setReconnectTimer
  else s.scheduleReconnect cfg

/-- The `onclose` callback of a direct session. -/
def sessionClosed : SocketHook :=
  { s with connecting := false, directSession := none }.scheduleReconnect cfg

/-- A transport opens. -/
def opened (i now : ℕ) : SocketHook :=
  match s.transports i with
  | some t =>
    if t.state = .connecting then
      let s := s.modify i fun t => { t with state := .opened }
      if t.handled then
        match t.mode with
        | .backendProxy => { s with
            connecting := false, reconnectAttempt := 0, lastConnectTime := now
            activeTransport := .backendProxy, pendingConnect := none }
        | .directLive => { s with
            connecting := false, reconnectAttempt := 0
            activeTransport := .directLive, pendingConnect := none }
      else s
    else s
  | none => s

/-- The other side closes a transport; its close event is yet to come. -/
def remoteClosing (i : ℕ) : SocketHook := s.modify i Transport.close

/-- A transport is closed. -/
def closed (i now : ℕ) : SocketHook :=
  match s.transports i with
  | some t =>
    if t.state = .closed then s
    else
      let s := s.modify i fun t => { t with state := .closed }
      if t.handled then
        match t.mode with
        | .backendProxy => s.socketClosed cfg now
        | .directLive => s.sessionClosed cfg
      else s
  | none => s

/-- A `session_started` message whose voice needs a new connection. -/
def voiceChanged : SocketHook :=
  match s.ws with
  | some i =>
    if !cfg.demoMode ∧ s.activeTransport = .backendProxy ∧ !s.voiceReconnectPending ∧
        (s.transports i).any (·.state = .opened) then
      { s.modify i Transport.close with voiceReconnectPending := true }
    else s
  | none => s

/-- A reconnect timer fires. -/
def timerFired (timer : ℕ) : SocketHook :=
  if timer ∈ s.reconnectTimers then
    { s with reconnectTimers := s.reconnectTimers.erase timer }.connectInternal cfg
  else s

end SocketHook

/-! ## Runs -/

/-- What can happen. -/
inductive SocketEvent where
  | connect (seen timed : Bool)
  | disconnect
  | connectTimeout
  | tokenDone (attempt : ℕ) (ok : Bool)
  | importDone (attempt : ℕ) (ok : Bool)
  | liveDone (attempt : ℕ) (ok : Bool)
  | opened (transport now : ℕ)
  | remoteClosing (transport : ℕ)
  | closed (transport now : ℕ)
  | voiceChanged
  | timerFired (timer : ℕ)
  deriving DecidableEq

/-- The hook, in every order of events. -/
def socketMachine (cfg : SocketOptions) : EventMachine SocketHook SocketEvent Unit where
  step s e := match e with
    | .connect seen timed => (s.connect cfg seen timed, ())
    | .disconnect => (s.disconnect, ())
    | .connectTimeout => (s.connectTimeout, ())
    | .tokenDone a ok => (s.tokenDone a ok, ())
    | .importDone a ok => (s.importDone a ok, ())
    | .liveDone a ok => (s.liveDone a ok, ())
    | .opened i now => (s.opened i now, ())
    | .remoteClosing i => (s.remoteClosing i, ())
    | .closed i now => (s.closed cfg i now, ())
    | .voiceChanged => (s.voiceChanged cfg, ())
    | .timerFired timer => (s.timerFired cfg timer, ())

end Ekaette
