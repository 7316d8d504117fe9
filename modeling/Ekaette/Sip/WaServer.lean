import Ekaette.Lib.EventMachine
import Ekaette.Sip.Digest
import Ekaette.Sip.Sdp

set_option autoImplicit false

/-! # The WhatsApp SIP server

`WaSIPServer` of `sip_bridge/wa_main.py`: one parsed message at a time is answered from the tables
of sessions and of pending challenges. A handler has no await, so messages of all connections and
the completions of session tasks interleave in any order.

The media of an accepted call (socket, codec, SRTP keys, SDP answer, gateway client) is outside this
model: its outcome is drawn with the message. Sessions are numbered in the order they are created;
the number stands for the session object and for its task. -/

namespace Ekaette

/-! ## Configuration and state -/

/-- The deployment. -/
structure WaConfig where
  py : StrMethods
  hashes : DigestHashes
  sipHost : String
  /-- a host the server can bind -/
  host_plain : '=' ∉ sipHost.toList
  sipUsername : String
  sipPassword : String
  /-- `sip_allowed_cidrs`, in iteration order -/
  allowedCidrs : List String
  /-- `ip_address(ip) in ip_network(cidr)`; `none` where one of them raises `ValueError` -/
  inNetwork : String → String → Option Bool
  sandboxMode : Bool
  maxConcurrentCalls : ℕ

/-- An entry of `_pending_challenges`. -/
structure PendingChallenge where
  realm : String
  nonce : String
  deriving DecidableEq

/-- A session task. -/
structure SessionTask where
  callId : String
  /-- it has been shut down or cancelled -/
  stopping : Bool
  /-- it has ended, its done callback may still be to come -/
  finished : Bool

structure WaServer where
  activeSessions : Dict String ℕ
  sessionTasks : Dict String ℕ
  tasks : Dict ℕ SessionTask
  created : ℕ
  pendingChallenges : Dict String PendingChallenge

def WaServer.empty : WaServer := ⟨.empty, .empty, .empty, 0, .empty⟩

/-- `_pending_challenges.pop(call_id, None)`. -/
def WaServer.forget (s : WaServer) (callId : String) : WaServer :=
  { s with pendingChallenges := s.pendingChallenges.erase callId }

/-- Room for one more challenge: the oldest are evicted while the table is full. -/
def evictChallenges (maxPending : ℕ) (pending : Dict String PendingChallenge) :
    Dict String PendingChallenge :=
  pending.dropOldest (pending.size + 1 - maxPending)

/-- Register a new session and its task. -/
def WaServer.startSession (s : WaServer) (callId : String) : WaServer :=
  { s with
    activeSessions := s.activeSessions.set callId s.created
    sessionTasks := s.sessionTasks.set callId s.created
    tasks := s.tasks.set s.created ⟨callId, false, false⟩
    created := s.created + 1 }

/-- Ask a task to stop. -/
def WaServer.stopTask (s : WaServer) (task : Option ℕ) : WaServer :=
  match task.bind (fun n => (s.tasks.get? n).map (fun t => (n, t))) with
  | none => s
  | some (n, t) => { s with tasks := s.tasks.set n { t with stopping := true } }

/-! ## Messages -/

/-- How setting up the media of an authenticated call ends. -/
inductive MediaSetup where
  /-- binding the socket raises -/
  | bindRaises
  /-- a step behind it raises; the exception is caught -/
  | fails
  | ready (localContact sdpBody : String)

/-- What handling a message draws from outside. -/
structure MessageDraws where
  nonce : HexNonce
  tag : String
  setup : MediaSetup

/-- What the server does about a message. -/
inductive WaAnswer where
  | response (msg : SipMessage)
  | silent
  | raised

/-- `any(addr in network for cidr in cidrs)`; an error ends it. -/
def anyNetwork (inNetwork : String → String → Option Bool) (ip : String) : List String → Bool
  | [] => false
  | cidr :: cidrs =>
    match inNetwork ip cidr with
    | none => false
    | some true => true
    | some false => anyNetwork inNetwork ip cidrs

variable (cfg : WaConfig)

/-- `_check_ip_allowed`. -/
def WaConfig.checkIpAllowed (ip : String) : Bool :=
  if cfg.allowedCidrs = [] then cfg.sandboxMode else anyNetwork cfg.inNetwork ip cfg.allowedCidrs

/-- A final response to an INVITE. -/
def rejectInvite (invite : SipMessage) (draws : MessageDraws) (statusCode : ℕ) (reason : String) :
    WaAnswer :=
  .response (buildTransactionResponse invite statusCode reason (some invite.callId)
    (some draws.tag))

/-- The nonce of a header differs from that of the pending challenge; a header that cannot be parsed
    is left to `verify_digest`. -/
def nonceMismatch (py : StrMethods) (authValue : String) : Option PendingChallenge → Bool
  | none => false
  | some pending =>
    match parseChallenge py authValue with
    | none => false
    | some params => params.get? "nonce" ≠ some pending.nonce

/-- The part of `_handle_invite` behind the authentication. -/
def acceptInvite (invite : SipMessage) (draws : MessageDraws) (s : WaServer) :
    WaServer × WaAnswer :=
  let sdp := if invite.body = "" then some RemoteSdp.initial else parseRemoteSdp cfg.py invite.body
  match sdp with
  | none => (s, .raised)
  | some sdp =>
    if sdp.mediaIp = "" ∨ sdp.mediaPort = 0 then
      (s, rejectInvite invite draws 488 "Not Acceptable Here")
    else match draws.setup with
      | .bindRaises => (s, .raised)
      | .fails => (s, rejectInvite invite draws 488 "Not Acceptable Here")
      | .ready localContact sdpBody =>
        (s.startSession invite.callId,
          .response (build200Ok invite sdpBody localContact draws.tag))

/-- `_handle_invite`. -/
def handleInvite (invite : SipMessage) (draws : MessageDraws) (s : WaServer) :
    WaServer × WaAnswer :=
  if s.activeSessions.size ≥ cfg.maxConcurrentCalls then
    (s, rejectInvite invite draws 503 "Service Unavailable")
  else
    let authValue := invite.header "proxy-authorization"
    if authValue = "" then
      let resp := build407Response invite cfg.sipHost draws.nonce draws.tag
      let challenge : PendingChallenge :=
        ⟨cfg.sipHost, nonceOfChallenge (resp.header "proxy-authenticate")⟩
      let pending := evictChallenges (cfg.maxConcurrentCalls * 2) s.pendingChallenges
      ({ s with pendingChallenges := pending.set invite.callId challenge }, .response resp)
    else if nonceMismatch cfg.py authValue (s.pendingChallenges.get? invite.callId) then
      (s.forget invite.callId, rejectInvite invite draws 403 "Forbidden")
    else match verifyDigest cfg.py cfg.hashes authValue cfg.sipUsername cfg.sipPassword
        "INVITE" with
      | none => (s, .raised)
      | some false => (s.forget invite.callId, rejectInvite invite draws 403 "Forbidden")
      | some true => acceptInvite cfg invite draws (s.forget invite.callId)

/-- `_handle_bye`. -/
def handleBye (bye : SipMessage) (s : WaServer) : WaServer × WaAnswer :=
  let callId := bye.callId
  let stopped := (s.stopTask (s.activeSessions.get? callId)).stopTask (s.sessionTasks.get? callId)
  ({ stopped with
      activeSessions := s.activeSessions.erase callId
      sessionTasks := s.sessionTasks.erase callId },
    .response {
      firstLine := "SIP/2.0 200 OK"
      headers := Dict.ofList
        [ ("via", bye.header "via"), ("from", bye.header "from"), ("to", bye.header "to"),
          ("call-id", callId), ("cseq", bye.header "cseq"), ("content-length", "0") ]
      body := "" })

/-- `handle_sip_message`. -/
def handleSipMessage (msg : SipMessage) (peerIp : String) (draws : MessageDraws)
    (s : WaServer) : WaServer × WaAnswer :=
  if cfg.checkIpAllowed peerIp = false then
    (s, .response (buildTransactionResponse msg 403 "Forbidden" none
      (if msg.method = some "INVITE" then some draws.tag else none)))
  else if msg.method = some "INVITE" then handleInvite cfg msg draws s
  else if msg.method = some "BYE" then handleBye msg s
  else if msg.method = some "ACK" then (s, .silent)
  else (s, .response (buildTransactionResponse msg 405 "Method Not Allowed" none none))

/-- `_on_done`: a task that has ended leaves the tables, under its call id. -/
def WaServer.onDone (s : WaServer) (task : ℕ) : WaServer :=
  match s.tasks.get? task with
  | none => s
  | some t =>
    if t.finished then
      { s with
        sessionTasks := s.sessionTasks.erase t.callId
        activeSessions := s.activeSessions.erase t.callId
        tasks := s.tasks.erase task }
    else s

/-! ## Runs -/

inductive WaEvent where
  | message (msg : SipMessage) (peerIp : String) (draws : MessageDraws)
  /-- A session task ends, for whatever reason. -/
  | sessionEnds (task : ℕ)
  /-- The done callback of an ended task runs. -/
  | sessionDone (task : ℕ)

/-- The server under any order of messages and session completions. -/
def waMachine : EventMachine WaServer WaEvent WaAnswer where
  step s
    | .message msg peerIp draws => handleSipMessage cfg msg peerIp draws s
    | .sessionEnds task =>
      match s.tasks.get? task with
      | none => (s, .silent)
      | some t => ({ s with tasks := s.tasks.set task { t with finished := true } }, .silent)
    | .sessionDone task => (s.onDone task, .silent)

end Ekaette
