import Ekaette.Sip.DigestAgreement
import Ekaette.Sip.Framing
import Ekaette.Sip.UdpServer

set_option autoImplicit false

/-! # The registrar client

`SIPRegistrar` of `sip_bridge/sip_register.py`: it sends REGISTER requests over the transport of the
server, and the server hands it every datagram that looks like a response. Beside it runs a ledger
of the latest request that waits for a final response, and of the latest final response to such a
request; the registrar has none. -/

namespace Ekaette

/-- The deployment, as far as the registrar reads it. -/
structure RegistrarConfig where
  py : StrMethods
  hashes : DigestHashes
  sipRegistrar : String
  sipUsername : String
  sipPassword : String
  sipPublicIp : String
  sipPort : ℕ
  sipRegisterInterval : ℕ

/-! ## Requests and responses -/

/-- The arguments of `build_register_message`. -/
structure RegisterRequest where
  registrar : String
  username : String
  publicIp : String
  port : ℕ
  callId : String
  cseq : ℕ
  expires : ℕ
  authHeader : Option String

/-- The part of a username in front of its `@`. -/
def userPart (username : String) : String := String.ofList (username.toList.takeWhile (· ≠ '@'))

/-- `build_register_message`, with the branch and the tag it draws. -/
def buildRegisterMessage (r : RegisterRequest) (branch tag : String) : String :=
  "\r\n".intercalate
    ([ "REGISTER sip:" ++ r.registrar ++ " SIP/2.0",
       "Via: SIP/2.0/UDP " ++ r.publicIp ++ ":" ++ toString r.port ++ ";branch=z9hG4bK" ++ branch,
       "Max-Forwards: 70",
       "From: <sip:" ++ r.username ++ ">;tag=" ++ tag,
       "To: <sip:" ++ r.username ++ ">",
       "Call-ID: " ++ r.callId,
       "CSeq: " ++ toString r.cseq ++ " REGISTER",
       "Contact: <sip:" ++ userPart r.username ++ "@" ++ r.publicIp ++ ":" ++ toString r.port ++
       ">", "Expires: " ++ toString r.expires,
       "User-Agent: Ekaette-SIP-Bridge/1.0",
       "Allow: INVITE, ACK, BYE, CANCEL, OPTIONS" ]
      ++ (truthyText r.authHeader).toList ++ ["Content-Length: 0", "", ""])

/-- What `parse_sip_response` returns. -/
structure SipResponse where
  statusCode : ℤ
  reason : String
  headers : Dict String String

variable (py : StrMethods)

/-- `parse_sip_response`; `none` where `int` raises. -/
def parseSipResponse (message : String) : Option SipResponse :=
  match PyStr.splitAll "\r\n" message with
  | [] => some ⟨0, "", .empty⟩
  | statusLine :: lines =>
    let headers := (lines.takeWhile (· ≠ "")).foldl readHeaderLine .empty
    match (PyStr.splitN [' '] 2 statusLine.toList).map String.ofList with
    | _ :: code :: rest =>
      (PyInt.parse py code).map (fun statusCode => ⟨statusCode, rest.headD "", headers⟩)
    | _ => some ⟨0, "", headers⟩

/-- A header by its normalized name, whatever the case it is written in, or compact. -/
def SipResponse.header? (r : SipResponse) (name : String) : Option String :=
  (r.headers.entries.find? fun e => normalizeHeaderName py e.1 = name).map Prod.snd

/-- The number and the method of a `CSeq`. -/
def cseqParts (value : String) : Option (ℕ × String) :=
  match (value.toList.splitOnP PyStr.isSpace).filter (· ≠ []) with
  | [number, method] =>
    if number.all Char.isDigit then
      some (number.foldl (fun n c => 10 * n + (c.toNat - '0'.toNat)) 0, String.ofList method)
    else none
  | _ => none

/-- The response is to this request: its Call-ID and its CSeq are those of the request. -/
def RegisterRequest.answeredBy (q : RegisterRequest) (r : SipResponse) : Bool :=
  r.header? py "call-id" = some q.callId &&
    (r.header? py "cseq").bind cseqParts = some (q.cseq, "REGISTER")

/-! ## The registrar -/

structure SipRegistrar where
  registered : Bool
  /-- a `_transport` has been set -/
  transport : Bool
  callId : String
  cseq : ℕ
  registrarAddr : Option (String × ℕ)

def SipRegistrar.new (callId : String) (transport : Bool) : SipRegistrar :=
  ⟨false, transport, callId, 1, none⟩

/-- What a call of the registrar draws from outside. -/
structure RegistrarDraws where
  branch : String
  tag : String
  cnonce : HexNonce
  /-- `gethostbyname`; `none` where it raises -/
  host : Option String

/-- A request that is handed to the transport. -/
structure SentRegister where
  request : RegisterRequest
  text : String
  addr : String × ℕ

/-- `resolve_registrar`, and the registrar that remembers what it returns. -/
def SipRegistrar.resolveRegistrar (s : SipRegistrar) (host : Option String) :
    SipRegistrar × Option (String × ℕ) :=
  match s.registrarAddr with
  | some addr => (s, some addr)
  | none =>
    match host with
    | none => (s, none)
    | some ip => ({ s with registrarAddr := some (ip, 5060) }, some (ip, 5060))

variable (config : RegistrarConfig)

variable (s : SipRegistrar)

/-- What `send_register` and `send_unregister` have in common. -/
def SipRegistrar.send (draws : RegistrarDraws)
    (expires : ℕ) (authHeader : Option String) : SipRegistrar × Option SentRegister :=
  if s.transport = false then (s, none)
  else match s.resolveRegistrar draws.host with
    | (s, none) => (s, none)
    | (s, some addr) =>
      let request : RegisterRequest :=
        { registrar := config.sipRegistrar, username := config.sipUsername
          publicIp := config.sipPublicIp, port := config.sipPort, callId := s.callId
          cseq := s.cseq, expires, authHeader }
      ({ s with cseq := s.cseq + 1 },
        some ⟨request, buildRegisterMessage request draws.branch draws.tag, addr⟩)

/-- `send_register`. -/
def SipRegistrar.sendRegister (draws : RegistrarDraws)
    (authHeader : Option String) : SipRegistrar × Option SentRegister :=
  s.send config draws config.sipRegisterInterval authHeader

/-- `send_unregister`. -/
def SipRegistrar.sendUnregister (draws : RegistrarDraws) : SipRegistrar × Option SentRegister :=
  s.send config draws 0 none

/-- The header that answers a challenge; `none` where the challenge cannot be parsed or the response
    cannot be computed. -/
def challengeAnswer (draws : RegistrarDraws) (statusCode : ℕ)
    (challengeValue : String) : Option String :=
  (parseChallenge config.py challengeValue).bind (fun params =>
    buildAuthHeader config.py config.hashes
      { statusCode
        username := userPart config.sipUsername
        realm := params.getD "realm" ""
        password := config.sipPassword
        nonce := params.getD "nonce" ""
        method := "REGISTER"
        uri := "sip:" ++ config.sipRegistrar
        algorithm := params.getD "algorithm" "MD5"
        qop := params.get? "qop"
        opaqueValue := params.get? "opaque" } draws.cnonce)

/-- The challenge of a response that has one. -/
def SipResponse.challenge? (r : SipResponse) : Option (ℕ × String) :=
  if r.statusCode = 401 then (truthyText (r.headers.get? "WWW-Authenticate")).map (fun value =>
    (401, value))
  else if r.statusCode = 407 then (truthyText (r.headers.get? "Proxy-Authenticate")).map
    (fun value => (407, value))
  else none

/-- `_respond_to_challenge`. -/
def SipRegistrar.respondToChallenge
    (draws : RegistrarDraws) (statusCode : ℕ) (challengeValue : String) :
    SipRegistrar × Option SentRegister :=
  match challengeAnswer config draws statusCode challengeValue with
  | none => (s, none)
  | some authHeader => s.sendRegister config draws (some authHeader)

/-- `handle_response` of a parsed response. -/
def SipRegistrar.handleParsed (draws : RegistrarDraws)
    (r : SipResponse) : SipRegistrar × Option SentRegister :=
  if r.statusCode = 200 then ({ s with registered := true }, none)
  else match r.challenge? with
    | none => (s, none)
    | some (statusCode, challengeValue) =>
      s.respondToChallenge config draws statusCode challengeValue

inductive RegistrarEvent where
  /-- `send_register`, at the start and when the registration is refreshed -/
  | register (draws : RegistrarDraws)
  /-- `send_unregister` -/
  | unregister (draws : RegistrarDraws)
  /-- `datagram_received`, from any source -/
  | datagram (message : String) (source : String × ℕ) (draws : RegistrarDraws)

/-- The response of a datagram. `datagram_received` catches what the parser raises. -/
def RegistrarEvent.response? : RegistrarEvent → Option SipResponse
  | .datagram message _ _ =>
    if "SIP/2.0".toList.isPrefixOf message.toList then parseSipResponse py message else none
  | _ => none

def RegistrarEvent.draws : RegistrarEvent → RegistrarDraws
  | .register draws => draws
  | .unregister draws => draws
  | .datagram _ _ draws => draws

/-- One call of the registrar, and the request it sends. -/
def sipRegistrar :
    EventMachine SipRegistrar RegistrarEvent (Option SentRegister) where
  step s e := match e with
    | .register draws => s.sendRegister config draws none
    | .unregister draws => s.sendUnregister config draws
    | .datagram .. =>
      match e.response? config.py with
      | none => (s, none)
      | some r => s.handleParsed config e.draws r

/-! ## The ledger -/

/-- The requests and responses of a run, as they belong together. -/
structure RegisterLedger where
  /-- the latest request, while it has no final response -/
  outstanding : Option RegisterRequest
  /-- the status of the latest final response to a request that was outstanding, and the `Expires`
      of that -/
  latestFinal : Option (ℤ × ℕ)

def RegisterLedger.empty : RegisterLedger := ⟨none, none⟩

variable (l : RegisterLedger)

/-- The outstanding request that a response is to. -/
def RegisterLedger.request? (r : SipResponse) :
    Option RegisterRequest :=
  l.outstanding.filter (fun q => q.answeredBy py r)

def RegisterLedger.receive (r : SipResponse) :
    RegisterLedger :=
  match l.request? py r with
  | none => l
  | some q => if 200 ≤ r.statusCode then ⟨none, some (r.statusCode, q.expires)⟩ else l

def RegisterLedger.note (e : RegistrarEvent) (answer : Option SentRegister) : RegisterLedger :=
  let received := match e.response? py with
    | none => l
    | some r => l.receive py r
  match answer with
  | none => received
  | some sent => { received with outstanding := some sent.request }

/-- The registrar beside the ledger. -/
def bookedRegistrar :
    EventMachine (SipRegistrar × RegisterLedger) RegistrarEvent (Option SentRegister) :=
  (sipRegistrar config).monitor (RegisterLedger.note config.py)

abbrev RegistrarEntry :=
  EventMachine.Entry (SipRegistrar × RegisterLedger) RegistrarEvent (Option SentRegister)

/-- **Registered** exactly when the latest final response was a 200 to a request with a non-zero
    `Expires`. -/
def RegisteredExactly (s : SipRegistrar × RegisterLedger) : Prop :=
  s.1.registered = true ↔ ∃ expires, s.2.latestFinal = some (200, expires) ∧ expires ≠ 0

/-- **Matched**: a response that changes `registered` or makes the registrar send is one to the
    outstanding request. -/
def MatchedOnly (t : RegistrarEntry) : Prop :=
  ∀ r, t.event.response? config.py = some r →
    ((sipRegistrar config).next t.pre.1 t.event).registered ≠ t.pre.1.registered ∨
      t.answer.isSome = true → (t.pre.2.request? config.py r).isSome = true

/-! ## When responses are matched -/

/-- A request can be handed to the transport. -/
def SipRegistrar.canSend (draws : RegistrarDraws) : Bool :=
  s.transport && (s.registrarAddr.isSome || draws.host.isSome)

/-- A challenge that the registrar answers. -/
def answersChallenge (draws : RegistrarDraws) (r : SipResponse) : Bool :=
  (r.challenge?.bind (fun c => challengeAnswer config draws c.1 c.2)).isSome

/-- A response does no harm. One to the outstanding request is a 200 only if that asks for a
    registration, and a final one of another status only while the registrar is not registered. Any
    other is a 200 only while the registrar is registered, and has no challenge that is answered. -/
def ResponseFits (s : SipRegistrar × RegisterLedger)
    (draws : RegistrarDraws) (r : SipResponse) : Prop :=
  match s.2.request? config.py r with
  | some q =>
    if r.statusCode = 200 then q.expires ≠ 0 else 200 ≤ r.statusCode → s.1.registered = false
  | none => (r.statusCode = 200 → s.1.registered = true) ∧
      ¬(answersChallenge config draws r = true ∧ s.1.canSend draws = true)

def EventFits (s : SipRegistrar × RegisterLedger) (e : RegistrarEvent) :
    Prop :=
  ∀ r, e.response? config.py = some r → ResponseFits config s e.draws r

/-! ## One call -/

theorem send_registered (draws : RegistrarDraws) (expires : ℕ) (authHeader : Option String) :
    (s.send config draws expires authHeader).1.registered = s.registered ∧
      (s.send config draws expires authHeader).2.isSome = s.canSend draws := by
  unfold SipRegistrar.send SipRegistrar.canSend
  cases htransport : s.transport with
  | false =>
    rw [if_pos rfl]
    exact ⟨rfl, rfl⟩
  | true =>
    rw [if_neg Bool.noConfusion]
    unfold SipRegistrar.resolveRegistrar
    cases haddr : s.registrarAddr with
    | some addr => exact ⟨rfl, rfl⟩
    | none =>
      cases hhost : draws.host with
      | none => exact ⟨rfl, rfl⟩
      | some ip => exact ⟨rfl, rfl⟩

theorem handleParsed_ok (draws : RegistrarDraws) {r : SipResponse} (hstatus : r.statusCode = 200) :
    s.handleParsed config draws r = ({ s with registered := true }, none) :=
  if_pos hstatus

theorem handleParsed_registered
    (draws : RegistrarDraws) {r : SipResponse} (hstatus : r.statusCode ≠ 200) :
    (s.handleParsed config draws r).1.registered = s.registered ∧
      (s.handleParsed config draws r).2.isSome =
      (answersChallenge config draws r && s.canSend draws) := by
  unfold SipRegistrar.handleParsed answersChallenge
  rw [if_neg hstatus]
  cases hchallenge : r.challenge? with
  | none => exact ⟨rfl, rfl⟩
  | some challenge =>
    obtain ⟨statusCode, value⟩ := challenge
    show (s.respondToChallenge config draws statusCode value).1.registered = s.registered ∧
      (s.respondToChallenge config draws statusCode value).2.isSome =
        ((challengeAnswer config draws statusCode value).isSome && s.canSend draws)
    unfold SipRegistrar.respondToChallenge
    cases challengeAnswer config draws statusCode value with
    | none => exact ⟨rfl, rfl⟩
    | some authHeader => exact send_registered config s draws _ _

theorem latestFinal_note (e : RegistrarEvent) (answer : Option SentRegister) :
    (l.note py e answer).latestFinal = ((e.response? py).elim l (l.receive py)).latestFinal := by
  unfold RegisterLedger.note
  cases e.response? py with
  | none =>
    cases answer with
    | none => rfl
    | some sent => rfl
  | some r =>
    cases answer with
    | none => rfl
    | some sent => rfl

theorem sipRegistrar_quiet {e : RegistrarEvent}
    (hnone : e.response? config.py = none) : ((sipRegistrar config).next s e).registered =
    s.registered := by
  cases e with
  | register draws => exact (send_registered config s draws _ _).1
  | unregister draws => exact (send_registered config s draws _ _).1
  | datagram message source draws =>
    show (match (RegistrarEvent.datagram message source draws).response? config.py with
      | none => (s, none)
      | some r => s.handleParsed config draws r).1.registered = s.registered
    rw [hnone]

theorem sipRegistrar_response {e : RegistrarEvent}
    {r : SipResponse} (hr : e.response? config.py = some r) :
    (sipRegistrar config).step s e = s.handleParsed config e.draws r := by
  cases e with
  | register draws => cases hr
  | unregister draws => cases hr
  | datagram message source draws =>
    show (match (RegistrarEvent.datagram message source draws).response? config.py with
      | none => (s, none)
      | some r => s.handleParsed config draws r) = s.handleParsed config draws r
    rw [hr]

/-- **One step** keeps the registration exact and its responses matched exactly if its response
    fits. -/
theorem bookedRegistrar_step_iff (s : SipRegistrar × RegisterLedger)
    (e : RegistrarEvent) (h : RegisteredExactly s) :
    (RegisteredExactly ((bookedRegistrar config).next s e) ∧
        MatchedOnly config ((bookedRegistrar config).entry s e)) ↔ EventFits config s e := by
  have hnext : (bookedRegistrar config).next s e =
      ((sipRegistrar config).next s.1 e,
        s.2.note config.py e ((sipRegistrar config).step s.1 e).2) := rfl
  unfold RegisteredExactly at h ⊢
  rw [hnext]
  dsimp only
  rw [latestFinal_note]
  cases hr : e.response? config.py with
  | none =>
    refine iff_of_true ⟨?_, fun r hr' => ?_⟩ fun r hr' => ?_
    · rw [sipRegistrar_quiet config s.1 hr]
      exact h
    · rw [EventMachine.entry_event, hr] at hr'
      cases hr'
    · rw [hr] at hr'
      cases hr'
  | some r =>
    have hfits : EventFits config s e ↔ ResponseFits config s e.draws r := by
      unfold EventFits
      rw [hr]
      exact ⟨fun hfits => hfits r rfl, fun hfits r' hr' => Option.some.inj hr' ▸ hfits⟩
    have hmatched : MatchedOnly config ((bookedRegistrar config).entry s e) ↔
        ((s.1.handleParsed config e.draws r).1.registered ≠ s.1.registered ∨
          (s.1.handleParsed config e.draws r).2.isSome = true →
          (s.2.request? config.py r).isSome = true) := by
      unfold MatchedOnly
      rw [EventMachine.entry_event, hr]
      have hanswer : ((bookedRegistrar config).entry s e).answer =
          (s.1.handleParsed config e.draws r).2 := by
        rw [← sipRegistrar_response config s.1 hr]
        rfl
      have hstate : (sipRegistrar config).next s.1 e = (s.1.handleParsed config e.draws r).1 := by
        rw [← sipRegistrar_response config s.1 hr]
        rfl
      rw [hanswer, EventMachine.entry_pre, hstate]
      exact ⟨fun hall => hall r rfl, fun hone r' hr' => Option.some.inj hr' ▸ hone⟩
    have hstate : (sipRegistrar config).next s.1 e = (s.1.handleParsed config e.draws r).1 := by
      rw [← sipRegistrar_response config s.1 hr]
      rfl
    rw [hfits, hmatched, hstate, Option.elim_some]
    unfold ResponseFits RegisterLedger.receive
    cases hrequest : s.2.request? config.py r with
    | some q =>
      -- of a matched response only the registered state is to be right
      dsimp only
      rw [Option.isSome_some, and_iff_left (fun _ => rfl)]
      by_cases hstatus : r.statusCode = 200
      · rw [if_pos hstatus, if_pos (by omega), handleParsed_ok config s.1 e.draws hstatus]
        simp [hstatus]
      · rw [if_neg hstatus, (handleParsed_registered config s.1 e.draws hstatus).1]
        by_cases hfinal : 200 ≤ r.statusCode
        · rw [if_pos hfinal]
          simp [hstatus, hfinal]
        · rw [if_neg hfinal]
          exact iff_of_true h fun hle => absurd hle hfinal
    | none =>
      -- an unmatched one must change nothing and be answered by nothing
      dsimp only
      rw [Option.isSome_none]
      by_cases hstatus : r.statusCode = 200
      · have hchallenge : answersChallenge config e.draws r = false := by
          unfold answersChallenge SipResponse.challenge?
          rw [if_neg (by omega), if_neg (by omega)]
          rfl
        rw [handleParsed_ok config s.1 e.draws hstatus, hchallenge]
        cases hregistered : s.1.registered with
        | true =>
          rw [hregistered] at h
          simpa using h
        | false => simp [hstatus]
      · rw [(handleParsed_registered config s.1 e.draws hstatus).1,
          (handleParsed_registered config s.1 e.draws hstatus).2]
        simp only [h, ne_eq, not_true, false_or, Bool.and_eq_true, Bool.false_eq_true, true_and,
          hstatus, false_imp_iff]

theorem registeredExactly_new (callId : String) (transport : Bool) :
    RegisteredExactly (.new callId transport, .empty) := by
  refine iff_of_false Bool.false_ne_true ?_
  rintro ⟨expires, hlatest, -⟩
  cases hlatest

/-- **Responses are matched to requests** in a run of calls and datagrams, and `registered` is exact
    in all its states, exactly if every response of the run fits the outstanding request. -/
theorem registrar_matched_iff (callId : String) (transport : Bool) (events : List RegistrarEvent) :
    ((bookedRegistrar config).Always RegisteredExactly (.new callId transport, .empty) events ∧
        ∀ t ∈ (bookedRegistrar config).trace (.new callId transport, .empty) events,
        MatchedOnly config t) ↔
      ∀ t ∈ (bookedRegistrar config).trace (.new callId transport, .empty) events,
      EventFits config t.pre t.event :=
  (bookedRegistrar config).sound_iff_guarded (I := fun _ => True) (fun _ _ _ => trivial)
    (fun s e _ h => bookedRegistrar_step_iff config s e h) trivial
    (registeredExactly_new callId transport) events

/-- A registrar of the examples, whose hashes are not computed. -/
def plainRegistrar : RegistrarConfig where
  py := .ascii
  hashes := aliceHashes
  sipRegistrar := "pbx"
  sipUsername := "alice@pbx"
  sipPassword := "secret"
  sipPublicIp := "10.0.0.1"
  sipPort := 6060
  sipRegisterInterval := 300

/-- What a call draws in the examples. -/
def plainDraws : RegistrarDraws := ⟨"b", "t", aliceNonce, some "10.0.0.9"⟩

/-- A 200 to the request with this `CSeq`. -/
def okTo (cseq : String) : RegistrarEvent :=
  .datagram ("SIP/2.0 200 OK\r\ni: c\r\nCSeq: " ++ cseq ++ " REGISTER\r\n\r\n") ("10.0.0.9", 5060)
    plainDraws

/-- The registrar registers and unregisters, and each request gets its 200. -/
def unregistered : List RegistrarEvent :=
  [.register plainDraws, okTo "1", .unregister plainDraws, okTo "2"]

/-- The second 200 leaves it registered. -/
theorem unregistered_registered :
    ((bookedRegistrar plainRegistrar).run (.new "c" true, .empty) unregistered).1.registered =
        true ∧
      ¬((bookedRegistrar plainRegistrar).Always RegisteredExactly (.new "c" true, .empty)
        unregistered) := by
  have hrun :
    ((bookedRegistrar plainRegistrar).run (.new "c" true, .empty) unregistered).1.registered =
        true ∧
      ((bookedRegistrar plainRegistrar).run (.new "c" true, .empty) unregistered).2.latestFinal =
        some (200, 0) := by
    decide +kernel
  refine ⟨hrun.1, fun halways => ?_⟩
  obtain ⟨expires, hlatest, hne⟩ := halways.run.1 hrun.1
  rw [hrun.2] at hlatest
  cases hlatest
  exact hne rfl

end Ekaette
