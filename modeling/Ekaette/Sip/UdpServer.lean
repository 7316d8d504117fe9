import Ekaette.Lib.EventMachine
import Ekaette.Sip.Sdp

set_option autoImplicit false

/-! # The UDP SIP server

`SIPServer` and `SIPProtocol` of `sip_bridge/server.py`, with the dialog helpers of
`sip_bridge/sip_dialog.py`. A datagram is handled without an await, so datagrams and the completions
of session tasks interleave in any order.

Calls are numbered in the order in which their INVITEs are answered with 200 OK; the number stands
for the session object of the call, too, where one was built. Random tags and ports are drawn with
the datagram. -/

namespace Ekaette

/-! ## Dialog helpers -/

/-- A parsed request. -/
structure SipRequest where
  method : String
  headers : Dict String String
  body : String

/-- One header line; a line without a colon is skipped. -/
def readHeaderLine (headers : Dict String String) (line : String) : Dict String String :=
  match PyStr.splitFirst [':'] line.toList with
  | none => headers
  | some (name, value) =>
    headers.set (String.ofList (PyStr.stripChars name)) (String.ofList (PyStr.stripChars value))

/-- `parse_sip_request`. -/
def parseSipRequest (message : String) : SipRequest :=
  let (headerBlock, body) := (PyStr.splitFirst ['\r', '\n', '\r', '\n'] message.toList).getD
    (message.toList, [])
  match PyStr.splitAll "\r\n" (String.ofList headerBlock) with
  | [] => ⟨"", .empty, ""⟩
  | requestLine :: lines =>
    { method := String.ofList (requestLine.toList.takeWhile (· ≠ ' '))
      headers := lines.foldl readHeaderLine .empty
      body := String.ofList body }

/-- What `parse_sdp_g711` returns. -/
structure G711Sdp where
  mediaIp : String
  mediaPort : ℕ
  pcmuPayloadType : ℕ
  dtmfPayloadType : Option ℕ

variable (py : StrMethods)

/-- `parse_sdp_g711`; `none` where it raises on a number. -/
def parseSdpG711 (sdp : String) : Option G711Sdp :=
  let text := sdp.toList
  let mediaIp := (((connectionRe py).search text).bind (·.group? 1)).getD ""
  let mediaPort := match (mediaLineRe py).search text with
    | none => some 0
    | some m => groupInt py m 1
  mediaPort.bind (fun mediaPort =>
    ((rtpmapRe py).findAll text).foldlM (fun sdp m => (groupInt py m 1).map (fun pt =>
      let codec := (py.lower ((m.group? 2).getD "")).toList
      if "telephone-event/".toList.isPrefixOf codec then { sdp with dtmfPayloadType := some pt }
      else sdp)) ⟨mediaIp, mediaPort, 0, none⟩)

/-- `build_sdp_answer`. -/
def buildSdpAnswer (localIp : String) (rtpPort : ℕ) : String :=
  String.join
    [ "v=0\r\n", "o=ekaette 0 0 IN IP4 ", localIp, "\r\n", "s=Ekaette SIP Bridge\r\n",
      "c=IN IP4 ", localIp, "\r\n", "t=0 0\r\n", "m=audio ", toString rtpPort, " RTP/AVP 0\r\n",
      "a=rtpmap:0 PCMU/8000\r\n", "a=ptime:20\r\n", "a=sendrecv\r\n" ]

/-- The headers a response copies. -/
structure DialogHeaders where
  via : String
  fromHeader : String
  toHeader : String
  callId : String
  cseq : String

/-- `headers.get(name) or headers.get(lower, "")`. -/
def headerOr (headers : Dict String String) (name lower : String) : String :=
  if headers.getD name "" = "" then headers.getD lower "" else headers.getD name ""

/-- `_coerce_dialog_headers`. -/
def coerceDialogHeaders (headers : Dict String String) : DialogHeaders where
  via := headerOr headers "Via" "via"
  fromHeader := headerOr headers "From" "from"
  toHeader := headerOr headers "To" "to"
  callId := headerOr headers "Call-ID" "call-id"
  cseq := headerOr headers "CSeq" "cseq"

/-- `build_sip_response`, with the tag it draws. -/
def buildSipResponse (status : ℕ) (reason : String) (headers : DialogHeaders)
    (sdpBody : Option String) (contactUri tag : String) : String :=
  let toHeader := if PyStr.contains ";tag=" headers.toHeader then headers.toHeader
    else headers.toHeader ++ ";tag=" ++ tag
  let tail := match sdpBody with
    | none => ["Content-Length: 0", "", ""]
    | some sdp =>
      if sdp = "" then ["Content-Length: 0", "", ""]
      else ["Content-Type: application/sdp", "Content-Length: " ++ toString sdp.length, "", sdp]
  "\r\n".intercalate
    ([ "SIP/2.0 " ++ toString status ++ " " ++ reason, "Via: " ++ headers.via,
       "From: " ++ headers.fromHeader, "To: " ++ toHeader, "Call-ID: " ++ headers.callId,
       "CSeq: " ++ headers.cseq, "Contact: " ++ contactUri ] ++ tail)

/-- `_extract_call_id`. -/
def extractCallId (message : String) : Option String :=
  ((PyStr.splitAll "\r\n" message).find? (fun line =>
      "call-id:".toList.isPrefixOf (py.lower line).toList)).map (fun line =>
    String.ofList (PyStr.stripChars (((PyStr.splitFirst [':'] line.toList).map Prod.snd).getD [])))

/-! ## Configuration and state -/

/-- The deployment. The phone library and the hashes of `shared/phone_identity.py` are arguments. -/
structure UdpConfig where
  py : StrMethods
  /-- the transport is up -/
  hasTransport : Bool
  sipPort : ℕ
  sipPublicIp : String
  sipUsername : String
  tenantId : String
  companyId : String
  gatewayMode : Bool
  gatewayWsUrl : String
  gatewayWsSecret : String
  /-- `normalize_phone` for the default region -/
  normalizePhone : String → Option String
  /-- the keyed hash of the user ids, in hexadecimal -/
  phoneHmac : String → String
  sha256 : String → String

/-- What the gateway client of a session is made with. -/
structure GatewayIdentity where
  userId : String
  sessionId : String
  callerPhone : String
  deriving DecidableEq

/-- A `CallSession`, as far as the server sets it up. -/
structure UdpSession where
  callId : String
  remoteRtpAddr : Option (String × ℕ)
  localRtpPort : ℕ
  callerPhone : String
  gateway : Option GatewayIdentity
  deriving DecidableEq

/-- A call whose INVITE was answered with 200 OK, until its completion callback has run. -/
structure UdpCall where
  callId : String
  /-- `none` when the session could not be built -/
  session : Option UdpSession
  /-- `session.shutdown()` has been called -/
  shutDown : Bool
  finished : Bool

structure UdpServer where
  activeSessions : Dict String ℕ
  calls : Dict ℕ UdpCall
  answered : ℕ

def UdpServer.empty : UdpServer := ⟨.empty, .empty, 0⟩

/-! ## Sessions -/

/-- `_PHONE_RE`; group 0 is the match. -/
def phoneRe : Rx :=
  .group 0 (.seq (.alt (.one (· = '+')) .eps)
    (.seq (.exactly (isDecimal py) 7) (.atMost (isDecimal py) 8)))

variable (cfg : UdpConfig)

/-- `canonical_phone_user_id`. -/
def canonicalPhoneUserId (rawPhone : String) : Option String :=
  if cfg.tenantId = "" ∨ cfg.companyId = "" then none
  else (cfg.normalizePhone rawPhone).map (fun phone =>
    let seed := cfg.tenantId ++ ":" ++ cfg.companyId ++ ":caller:" ++ phone
    "phone-" ++ String.ofList ((cfg.phoneHmac seed).toList.take 24))

/-- The gateway client of a call, in gateway mode; building it raises without the secret. -/
def buildGateway (callId callerPhone : String) :
    Except Unit (Option GatewayIdentity) :=
  if cfg.gatewayMode = true ∧ cfg.gatewayWsUrl ≠ "" then
    if cfg.gatewayWsSecret = "" then .error ()
    else
      let anonSeed := cfg.tenantId ++ ":" ++ cfg.companyId ++ ":call:" ++ callId
      let sessionSeed := cfg.tenantId ++ ":" ++ cfg.companyId ++ ":session:" ++ callId
      .ok (some
        { userId := (canonicalPhoneUserId cfg callerPhone).getD
            ("sip-anon-" ++ String.ofList ((cfg.sha256 anonSeed).toList.take 16))
          sessionId := "sip-" ++ String.ofList ((cfg.sha256 sessionSeed).toList.take 24)
          callerPhone })
  else .ok none

/-- The session `SIPServer.handle_invite` makes, if it does not raise. -/
def buildSession (callId : String) (remoteRtpAddr : Option (String × ℕ))
    (localRtpPort : ℕ) (sipFromHeader : String) : Except Unit UdpSession :=
  let callerPhone :=
    (((phoneRe cfg.py).search sipFromHeader.toList).bind (·.group? 0)).getD ""
  (buildGateway cfg callId callerPhone).map (fun gateway =>
    { callId, remoteRtpAddr, localRtpPort, callerPhone, gateway })

variable (s : UdpServer)

/-- Enter an answered call, and register its session if it was built. -/
def UdpServer.answer (callId : String) (session : Except Unit UdpSession) :
    UdpServer :=
  match session with
  | .error _ =>
    { s with
      calls := s.calls.set s.answered ⟨callId, none, false, false⟩
      answered := s.answered + 1 }
  | .ok session =>
    { activeSessions := s.activeSessions.set callId s.answered
      calls := s.calls.set s.answered ⟨callId, some session, false, false⟩
      answered := s.answered + 1 }

/-- `SIPServer.handle_bye`. -/
def UdpServer.handleBye (callId : String) : UdpServer :=
  match s.activeSessions.get? callId with
  | none => s
  | some n =>
    { s with
      activeSessions := s.activeSessions.erase callId
      calls := match s.calls.get? n with
        | none => s.calls
        | some call => s.calls.set n { call with shutDown := true } }

/-! ## Datagrams -/

/-- What handling a datagram draws. -/
structure UdpDraws where
  tryingTag : String
  okTag : String
  localRtpPort : ℕ

/-- A response that is sent. -/
structure UdpResponse where
  status : ℕ
  text : String

/-- `_contact_uri`. -/
def UdpConfig.contactUri : String :=
  "<sip:" ++ String.ofList (cfg.sipUsername.toList.takeWhile (· ≠ '@')) ++ "@" ++ cfg.sipPublicIp
    ++ ":" ++ toString cfg.sipPort ++ ">"

/-- The media address of an offer; the outer `none` where parsing raises. -/
def remoteRtpAddr (sdpBody : String) : Option (Option (String × ℕ)) :=
  if sdpBody = "" then some none
  else (parseSdpG711 py sdpBody).map (fun sdp =>
    if sdp.mediaIp ≠ "" ∧ sdp.mediaPort ≠ 0 then some (sdp.mediaIp, sdp.mediaPort) else none)

/-- `SIPProtocol._handle_invite`, on the parsed request. An exception ends it; what was sent has
    been sent. -/
def udpHandleInvite (headers : DialogHeaders) (sdpBody : String)
    (draws : UdpDraws) (s : UdpServer) : UdpServer × List UdpResponse :=
  if headers.callId = "" then (s, [])
  else if s.activeSessions.contains headers.callId then (s, [])
  else if cfg.hasTransport = false then (s, [])
  else
    let trying : UdpResponse :=
      ⟨100, buildSipResponse 100 "Trying" headers none cfg.contactUri draws.tryingTag⟩
    match remoteRtpAddr cfg.py sdpBody with
    | none => (s, [trying])
    | some remoteAddr =>
      let localSdp := buildSdpAnswer cfg.sipPublicIp draws.localRtpPort
      let ok : UdpResponse :=
        ⟨200, buildSipResponse 200 "OK" headers (some localSdp) cfg.contactUri draws.okTag⟩
      let session :=
        buildSession cfg headers.callId remoteAddr draws.localRtpPort headers.fromHeader
      (s.answer headers.callId session, [trying, ok])

/-- `headers.get("Call-ID") or self._extract_call_id(message)`; empty where that gives nothing. -/
def byeCallId (message : String) (headers : DialogHeaders) : String :=
  if headers.callId = "" then (extractCallId py message).getD "" else headers.callId

/-- The BYE branch of `datagram_received`, with the Call-ID and the headers of the request. -/
def udpHandleBye (callId : String) (headers : DialogHeaders) (draws : UdpDraws)
    (s : UdpServer) : UdpServer × List UdpResponse :=
  let sent : List UdpResponse := if cfg.hasTransport then
    [⟨200, buildSipResponse 200 "OK" headers none cfg.contactUri draws.okTag⟩] else []
  (if callId = "" then s else s.handleBye callId, sent)

/-- The request line of a message. -/
def firstLine (message : String) : List Char :=
  ((PyStr.splitFirst ['\r', '\n'] message.toList).map Prod.fst).getD message.toList

/-- `datagram_received`, on the decoded message. Responses are the registrar's. -/
def datagramReceived (message : String) (draws : UdpDraws) (s : UdpServer) :
    UdpServer × List UdpResponse :=
  let parsed := parseSipRequest message
  let headers := coerceDialogHeaders parsed.headers
  if "SIP/2.0".toList.isPrefixOf (firstLine message) then (s, [])
  else if "INVITE".toList.isPrefixOf (firstLine message) then
    udpHandleInvite cfg headers parsed.body draws s
  else if "BYE".toList.isPrefixOf (firstLine message) then
    udpHandleBye cfg (byeCallId cfg.py message headers) headers draws s
  else (s, [])

/-- `_on_done`, for a session task that has ended: it pops the entry of its Call-ID. -/
def UdpServer.onDone (n : ℕ) : UdpServer :=
  match s.calls.get? n with
  | none => s
  | some call =>
    if call.finished then
      { s with
        activeSessions := s.activeSessions.erase call.callId
        calls := s.calls.erase n }
    else s

/-! ## Runs -/

inductive UdpEvent where
  | datagram (message : String) (draws : UdpDraws)
  /-- The session task of a call ends, for whatever reason. -/
  | sessionEnds (n : ℕ)
  /-- The done callback of an ended session task runs. -/
  | sessionDone (n : ℕ)

/-- The session task of a call ends; a call without a session has none. -/
def UdpServer.endSession (n : ℕ) : UdpServer :=
  match s.calls.get? n with
  | none => s
  | some call =>
    match call.session with
    | none => s
    | some _ => { s with calls := s.calls.set n { call with finished := true } }

/-- The server under any order of datagrams and session completions. -/
def udpMachine : EventMachine UdpServer UdpEvent (List UdpResponse) where
  step s
    | .datagram message draws => datagramReceived cfg message draws s
    | .sessionEnds n => (s.endSession n, [])
    | .sessionDone n => (s.onDone n, [])

end Ekaette
