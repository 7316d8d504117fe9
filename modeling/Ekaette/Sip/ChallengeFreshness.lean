import Ekaette.Sip.WaServer

set_option autoImplicit false

/-! # Freshness of challenges

An INVITE must carry a nonce that the server sent in a 407 for its call and that no accepted INVITE
has used. The server compares the nonce with the pending challenge of the call, if there is one; the
digest itself can be verified again and again. So a run keeps its challenges fresh exactly if every
INVITE it would accept finds a pending challenge for its call. -/

namespace Ekaette

abbrev WaEntry := EventMachine.Entry WaServer WaEvent WaAnswer

/-! ## What is observed -/

/-- The INVITE of an event. -/
def WaEvent.invite? : WaEvent → Option SipMessage
  | .message msg _ _ => if msg.method = some "INVITE" then some msg else none
  | _ => none

/-- The nonce drawn with an event. -/
def WaEvent.nonce? : WaEvent → Option HexNonce
  | .message _ _ draws => some draws.nonce
  | _ => none

/-- The first line of a response. -/
def WaAnswer.firstLine? : WaAnswer → Option String
  | .response msg => some msg.firstLine
  | _ => none

/-- The INVITE is answered with 200 OK. -/
structure AcceptsInvite (invite : SipMessage) (t : WaEntry) : Prop where
  event : t.event.invite? = some invite
  answer : t.answer.firstLine? = some "SIP/2.0 200 OK"

/-- An INVITE of the call is answered with a 407 that carries the nonce. -/
structure IssuesChallenge (cfg : WaConfig) (callId nonce : String) (t : WaEntry) : Prop where
  event : ∃ invite, t.event.invite? = some invite ∧ invite.callId = callId
  drawn : ∃ drawn, t.event.nonce? = some drawn ∧ drawn.value = nonce ∧
    ∃ resp, t.answer = .response resp ∧
      resp.firstLine = "SIP/2.0 407 Proxy Authentication Required" ∧
      resp.header "proxy-authenticate" = challengeValue cfg.sipHost drawn

variable (cfg : WaConfig)

variable (invite : SipMessage)

/-- The nonce of the authorization header of an INVITE. -/
def carriedNonce : Option String :=
  (parseChallenge cfg.py (invite.header "proxy-authorization")).bind (·.get? "nonce")

/-- The accepted INVITE is fresh: its nonce was issued for its call, is still pending, and has not
    been used, so its authorization header is no replay. -/
structure FreshAccept (cfg : WaConfig) (log : List WaEntry) (t : WaEntry) (invite : SipMessage)
    (nonce : String) : Prop where
  carried : carriedNonce cfg invite = some nonce
  issued : ∃ x ∈ log, IssuesChallenge cfg invite.callId nonce x
  pending : ∃ c, t.pre.pendingChallenges.get? invite.callId = some c ∧ c.nonce = nonce
  unused : ∀ x ∈ log, ∀ earlier, AcceptsInvite earlier x → carriedNonce cfg earlier ≠ some nonce
  unreplayed : ∀ x ∈ log, ∀ earlier, AcceptsInvite earlier x →
    earlier.header "proxy-authorization" ≠ invite.header "proxy-authorization"

/-- Every accepted INVITE of the run is fresh. -/
def ChallengeFresh (es : List WaEvent) : Prop :=
  ∀ log t, log ++ [t] <+: (waMachine cfg).trace .empty es →
    ∀ invite, AcceptsInvite invite t → ∃ nonce, FreshAccept cfg log t invite nonce

/-! ## When an INVITE is accepted -/

/-- The media of the call can be set up. -/
def mediaReady (setup : MediaSetup) : Bool :=
  match (if invite.body = "" then some RemoteSdp.initial else parseRemoteSdp cfg.py invite.body),
      setup with
  | some sdp, .ready _ _ => sdp.mediaIp ≠ "" && sdp.mediaPort ≠ 0
  | _, _ => false

variable (s : WaServer)

/-- An INVITE from an allowed peer, below the limit of calls, with an authorization that verifies
    and with usable media. -/
def wellAuthorized : WaEvent → Option SipMessage
  | .message msg peerIp draws =>
    if cfg.checkIpAllowed peerIp ∧ msg.method = some "INVITE" ∧
        s.activeSessions.size < cfg.maxConcurrentCalls ∧ msg.header "proxy-authorization" ≠ "" ∧
        verifyDigest cfg.py cfg.hashes (msg.header "proxy-authorization") cfg.sipUsername
          cfg.sipPassword "INVITE" = some true ∧
        mediaReady cfg msg draws.setup
    then some msg else none
  | _ => none

theorem wellAuthorized_message {cfg : WaConfig} {s : WaServer} {msg invite : SipMessage}
    {peerIp : String} {draws : MessageDraws}
    (h : wellAuthorized cfg s (.message msg peerIp draws) = some invite) :
    invite = msg ∧ msg.header "proxy-authorization" ≠ "" ∧
      verifyDigest cfg.py cfg.hashes (msg.header "proxy-authorization") cfg.sipUsername
        cfg.sipPassword "INVITE" = some true := by
  simp only [wellAuthorized] at h
  split_ifs at h with hauthorized
  obtain ⟨_, _, _, hauth, hverify, _⟩ := hauthorized
  exact ⟨(Option.some.inj h).symm, hauth, hverify⟩

/-- An INVITE with valid credentials comes while a challenge of its call is pending. -/
def ChallengeAwaited (e : WaEvent) : Prop :=
  ∀ invite, wellAuthorized cfg s e = some invite →
    s.pendingChallenges.contains invite.callId = true

variable (draws : MessageDraws)

theorem rejectInvite_firstLine (statusCode : ℕ)
    (reason : String) : (rejectInvite invite draws statusCode reason).firstLine?
      = some ("SIP/2.0 " ++ toString statusCode ++ " " ++ reason) := rfl

theorem rejectInvite_ne_ok :
    (rejectInvite invite draws 403 "Forbidden").firstLine? ≠ some "SIP/2.0 200 OK" ∧
      (rejectInvite invite draws 488 "Not Acceptable Here").firstLine? ≠ some "SIP/2.0 200 OK" ∧
      (rejectInvite invite draws 503 "Service Unavailable").firstLine?
        ≠ some "SIP/2.0 200 OK" := by
  simp only [rejectInvite_firstLine]
  decide

/-- The INVITE is below the limit of calls, verifies, has usable media, and does not contradict the
    pending challenge. -/
def InviteAcceptable (s : WaServer) :
    Prop :=
  s.activeSessions.size < cfg.maxConcurrentCalls ∧
    invite.header "proxy-authorization" ≠ "" ∧
    verifyDigest cfg.py cfg.hashes (invite.header "proxy-authorization") cfg.sipUsername
      cfg.sipPassword "INVITE" = some true ∧
    mediaReady cfg invite draws.setup = true ∧
    nonceMismatch cfg.py (invite.header "proxy-authorization")
      (s.pendingChallenges.get? invite.callId) = false

/-- What `_handle_invite` does. -/
inductive InviteHandled (cfg : WaConfig) (invite : SipMessage) (draws : MessageDraws)
    (s s' : WaServer)
    (answer : WaAnswer) : Prop where
  | challenged (hauth : invite.header "proxy-authorization" = "")
      (hs : s' = { s with
        pendingChallenges :=
          (evictChallenges (cfg.maxConcurrentCalls * 2) s.pendingChallenges).set invite.callId
            ⟨cfg.sipHost, nonceOfChallenge
              ((build407Response invite cfg.sipHost draws.nonce draws.tag).header
                "proxy-authenticate")⟩ })
      (hanswer : answer = .response (build407Response invite cfg.sipHost draws.nonce draws.tag))
  | refused (hs : s' = s ∨ s' = s.forget invite.callId)
      (hanswer : answer = .raised ∨ ∃ statusCode reason,
        answer = rejectInvite invite draws statusCode reason)
      (hok : answer.firstLine? ≠ some "SIP/2.0 200 OK")
      (hrefused : ¬ InviteAcceptable cfg invite draws s)
  | accepted (localContact sdpBody : String) (haccept : InviteAcceptable cfg invite draws s)
      (hsetup : draws.setup = .ready localContact sdpBody)
      (hs : s' = (s.forget invite.callId).startSession invite.callId)
      (hanswer : answer = .response (build200Ok invite sdpBody localContact draws.tag))

/-- What the part behind the authentication does. -/
theorem acceptInvite_cases (s : WaServer) :
    (mediaReady cfg invite draws.setup = false ∧ (acceptInvite cfg invite draws s = (s, .raised) ∨
        acceptInvite cfg invite draws s = (s, rejectInvite invite draws 488 "Not Acceptable Here")))
          ∨
      mediaReady cfg invite draws.setup = true ∧ ∃ localContact sdpBody,
        draws.setup = .ready localContact sdpBody ∧ acceptInvite cfg invite draws s =
          (s.startSession invite.callId,
            .response (build200Ok invite sdpBody localContact draws.tag)) := by
  unfold acceptInvite mediaReady
  cases (if invite.body = "" then some RemoteSdp.initial else parseRemoteSdp cfg.py invite.body)
      with
  | none => exact .inl ⟨rfl, .inl rfl⟩
  | some sdp =>
    dsimp only
    cases draws.setup with
    | bindRaises => split_ifs <;> simp
    | fails => split_ifs <;> simp
    | ready localContact sdpBody =>
      split_ifs with hmedia
      · rcases hmedia with h | h <;> simp [h]
      · rw [not_or] at hmedia
        exact .inr ⟨by simp [hmedia], localContact, sdpBody, rfl, rfl⟩

theorem inviteHandled (s : WaServer) :
    InviteHandled cfg invite draws s (handleInvite cfg invite draws s).1
    (handleInvite cfg invite draws s).2 := by
  obtain ⟨hforbidden, hmedia, hbusy⟩ := rejectInvite_ne_ok invite draws
  unfold handleInvite
  by_cases hfull : s.activeSessions.size ≥ cfg.maxConcurrentCalls
  · rw [if_pos hfull]
    exact .refused (.inl rfl) (.inr ⟨_, _, rfl⟩) hbusy fun h => absurd h.1 (Nat.not_lt.2 hfull)
  rw [if_neg hfull]
  by_cases hauth : invite.header "proxy-authorization" = ""
  · simp only [hauth, if_true]
    exact .challenged hauth rfl rfl
  simp only [hauth, if_false]
  cases hmismatch : nonceMismatch cfg.py (invite.header "proxy-authorization")
      (s.pendingChallenges.get? invite.callId) with
  | true =>
    exact .refused (.inr rfl) (.inr ⟨_, _, rfl⟩) hforbidden fun h =>
      absurd (hmismatch.symm.trans h.2.2.2.2).symm Bool.false_ne_true
  | false =>
    cases hverify : verifyDigest cfg.py cfg.hashes (invite.header "proxy-authorization")
        cfg.sipUsername cfg.sipPassword "INVITE" with
    | none =>
      refine .refused (.inl rfl) (.inl rfl) (by simp [WaAnswer.firstLine?]) fun h => ?_
      cases hverify.symm.trans h.2.2.1
    | some verified =>
      cases verified with
      | false =>
        refine .refused (.inr rfl) (.inr ⟨_, _, rfl⟩) hforbidden fun h => ?_
        cases hverify.symm.trans h.2.2.1
      | true =>
        dsimp only
        rw [if_neg Bool.false_ne_true]
        rcases acceptInvite_cases cfg invite draws (s.forget invite.callId) with
          ⟨hready, haccept | haccept⟩ | ⟨hready, localContact, sdpBody, hsetup, haccept⟩
        · rw [haccept]
          exact .refused (.inr rfl) (.inl rfl) (by simp [WaAnswer.firstLine?]) fun h =>
            absurd (hready.symm.trans h.2.2.2.1) Bool.false_ne_true
        · rw [haccept]
          exact .refused (.inr rfl) (.inr ⟨_, _, rfl⟩) hmedia fun h =>
            absurd (hready.symm.trans h.2.2.2.1) Bool.false_ne_true
        · rw [haccept]
          exact .accepted localContact sdpBody
            ⟨Nat.not_le.1 hfull, hauth, hverify, hready, hmismatch⟩ hsetup rfl rfl

theorem handleInvite_answer
    (s : WaServer) : (handleInvite cfg invite draws s).2.firstLine? = some "SIP/2.0 200 OK" ↔
      InviteAcceptable cfg invite draws s := by
  cases inviteHandled cfg invite draws s with
  | challenged hauth hs hanswer =>
    rw [hanswer]
    exact iff_of_false (by simp [WaAnswer.firstLine?, build407Response]) fun h => h.2.1 hauth
  | refused hs hanswer hok hrefused => exact iff_of_false hok hrefused
  | accepted localContact sdpBody haccept hsetup hs hanswer =>
    rw [hanswer]
    exact iff_of_true (by simp [WaAnswer.firstLine?, build200Ok]) haccept

/-- **Acceptance**: an INVITE is accepted exactly if it is well authorized and does not contradict
    the pending challenge of its call. -/
theorem acceptsInvite_iff (e : WaEvent) (invite : SipMessage) :
    AcceptsInvite invite ((waMachine cfg).entry s e) ↔ wellAuthorized cfg s e = some invite ∧
      nonceMismatch cfg.py (invite.header "proxy-authorization")
        (s.pendingChallenges.get? invite.callId) = false := by
  have hsplit : AcceptsInvite invite ((waMachine cfg).entry s e) ↔ e.invite? = some invite ∧
      ((waMachine cfg).step s e).2.firstLine? = some "SIP/2.0 200 OK" :=
    ⟨fun h => ⟨h.event, h.answer⟩, fun h => ⟨h.1, h.2⟩⟩
  rw [hsplit]
  cases e with
  | message msg peerIp draws =>
    simp only [WaEvent.invite?, wellAuthorized, waMachine, handleSipMessage]
    by_cases hmethod : msg.method = some "INVITE"
    · cases hallowed : cfg.checkIpAllowed peerIp with
      | false =>
        have hblocked : (WaAnswer.response (buildTransactionResponse msg 403 "Forbidden" none
            (some draws.tag))).firstLine? ≠ some "SIP/2.0 200 OK" := by
          have hline : (WaAnswer.response (buildTransactionResponse msg 403 "Forbidden" none
            (some draws.tag))).firstLine?
              = some ("SIP/2.0 " ++ toString 403 ++ " " ++ "Forbidden") := rfl
          rw [hline]
          decide
        simp [hmethod, hblocked]
      | true =>
        simp only [hmethod, Bool.true_eq_false, if_false, if_true, handleInvite_answer,
          true_and, Option.some.injEq]
        constructor
        · rintro ⟨rfl, hsize, hauth, hverify, hmedia, hmismatch⟩
          exact ⟨by simp [hsize, hauth, hverify, hmedia], hmismatch⟩
        · rintro ⟨hauthorized, hmismatch⟩
          split_ifs at hauthorized with h
          rw [Option.some.injEq] at hauthorized
          subst hauthorized
          exact ⟨rfl, h.1, h.2.1, h.2.2.1, h.2.2.2, hmismatch⟩
    · simp [hmethod]
  | sessionEnds task => simp [WaEvent.invite?, wellAuthorized]
  | sessionDone task => simp [WaEvent.invite?, wellAuthorized]

/-! ## The pending challenges after a step -/

theorem stopTask_pending (task : Option ℕ) :
    (s.stopTask task).pendingChallenges = s.pendingChallenges := by
  unfold WaServer.stopTask
  split <;> rfl

/-- What a handled INVITE does to the pending challenges: it adds the one it is answered with, it
    removes that of its call, or it leaves them alone. -/
theorem handleInvite_pending (s : WaServer) :
    ((handleInvite cfg invite draws s).2
        = .response (build407Response invite cfg.sipHost draws.nonce draws.tag) ∧
      (handleInvite cfg invite draws s).1.pendingChallenges
        = (evictChallenges (cfg.maxConcurrentCalls * 2) s.pendingChallenges).set invite.callId
            ⟨cfg.sipHost, draws.nonce.value⟩) ∨
    (handleInvite cfg invite draws s).1.pendingChallenges
      = s.pendingChallenges.erase invite.callId ∨
    ((handleInvite cfg invite draws s).2.firstLine? ≠ some "SIP/2.0 200 OK" ∧
      (handleInvite cfg invite draws s).1.pendingChallenges = s.pendingChallenges) := by
  cases inviteHandled cfg invite draws s with
  | challenged hauth hs hanswer =>
    left
    rw [hs, hanswer, build407Response_challenge, nonceOfChallenge_challengeValue cfg.host_plain]
    exact ⟨rfl, rfl⟩
  | refused hs hanswer hok hrefused =>
    rcases hs with hs | hs
    · exact .inr (.inr ⟨hok, by rw [hs]⟩)
    · exact .inr (.inl (by rw [hs, WaServer.forget]))
  | accepted localContact sdpBody haccept hsetup hs hanswer => exact .inr (.inl (by rw [hs]; rfl))

theorem handleBye_pending (bye : SipMessage) (s : WaServer) :
    (handleBye bye s).1.pendingChallenges = s.pendingChallenges := by
  simp only [handleBye, stopTask_pending]

theorem not_accepts_of_issues {cfg : WaConfig} {callId nonce : String} {t : WaEntry}
    (h : IssuesChallenge cfg callId nonce t) (invite : SipMessage) : ¬ AcceptsInvite invite t := by
  intro haccept
  obtain ⟨_, _, _, resp, hresp, hline, _⟩ := h.drawn
  have hok := haccept.answer
  rw [hresp, WaAnswer.firstLine?, hline, Option.some.injEq] at hok
  exact absurd hok (by decide)

/-- **The challenges after a step**: one is added by the 407 that carries it, or that of a call is
    removed, which every acceptance does for its own call, or nothing changes. -/
theorem pending_next (e : WaEvent) :
    (∃ callId drawn, IssuesChallenge cfg callId drawn.value ((waMachine cfg).entry s e) ∧
      e.nonce? = some drawn ∧
      ((waMachine cfg).next s e).pendingChallenges
        = (evictChallenges (cfg.maxConcurrentCalls * 2) s.pendingChallenges).set callId
            ⟨cfg.sipHost, drawn.value⟩) ∨
    (∃ callId, (∀ invite, AcceptsInvite invite ((waMachine cfg).entry s e) →
        invite.callId = callId) ∧
      ((waMachine cfg).next s e).pendingChallenges = s.pendingChallenges.erase callId) ∨
    ((∀ invite, ¬ AcceptsInvite invite ((waMachine cfg).entry s e)) ∧
      ((waMachine cfg).next s e).pendingChallenges = s.pendingChallenges) := by
  cases e with
  | message msg peerIp draws =>
    by_cases hinvite : msg.method = some "INVITE"
    · have hevent : (WaEvent.message msg peerIp draws).invite? = some msg := by
        simp [WaEvent.invite?, hinvite]
      cases hallowed : cfg.checkIpAllowed peerIp with
      | false =>
        refine .inr (.inr ⟨?_, ?_⟩)
        · intro invite haccept
          have hauthorized := ((acceptsInvite_iff cfg s _ invite).1 haccept).1
          simp [wellAuthorized, hallowed] at hauthorized
        · simp [EventMachine.next, waMachine, handleSipMessage, hallowed]
      | true =>
        have hstep : (waMachine cfg).step s (.message msg peerIp draws)
            = handleInvite cfg msg draws s := by
          simp [waMachine, handleSipMessage, hallowed, hinvite]
        have hown : ∀ invite, AcceptsInvite invite
            ((waMachine cfg).entry s (.message msg peerIp draws)) → invite = msg := by
          intro invite haccept
          have hsame := haccept.event
          rw [EventMachine.entry_event, hevent, Option.some.injEq] at hsame
          exact hsame.symm
        rcases handleInvite_pending cfg msg draws s with
          ⟨hanswer, hpending⟩ | hpending | ⟨hanswer, hpending⟩
        · have hissue : ((waMachine cfg).entry s (.message msg peerIp draws)).answer
              = .response (build407Response msg cfg.sipHost draws.nonce draws.tag) := by
            rw [EventMachine.entry_answer, hstep, hanswer]
          refine .inl ⟨msg.callId, draws.nonce, ⟨⟨msg, hevent, rfl⟩, draws.nonce, rfl, rfl, _,
            hissue, rfl, build407Response_challenge ..⟩, rfl, ?_⟩
          rw [EventMachine.next, hstep, hpending]
        · refine .inr (.inl ⟨msg.callId, fun invite haccept => by rw [hown invite haccept], ?_⟩)
          rw [EventMachine.next, hstep, hpending]
        · refine .inr (.inr ⟨fun invite haccept => hanswer ?_, ?_⟩)
          · have hok := haccept.answer
            rwa [EventMachine.entry_answer, hstep] at hok
          · rw [EventMachine.next, hstep, hpending]
    · refine .inr (.inr ⟨?_, ?_⟩)
      · intro invite haccept
        have hevent := haccept.event
        simp [WaEvent.invite?, hinvite] at hevent
      · simp only [EventMachine.next, waMachine, handleSipMessage, hinvite, if_false]
        split_ifs
        · rfl
        · exact handleBye_pending msg s
        · rfl
        · rfl
  | sessionEnds task =>
    refine .inr (.inr ⟨fun invite haccept => by simpa [WaEvent.invite?] using haccept.event, ?_⟩)
    simp only [EventMachine.next, waMachine]
    split <;> rfl
  | sessionDone task =>
    refine .inr (.inr ⟨fun invite haccept => by simpa [WaEvent.invite?] using haccept.event, ?_⟩)
    simp only [EventMachine.next, waMachine, WaServer.onDone]
    split
    · rfl
    · split_ifs <;> rfl

/-! ## The challenges along a run -/

/-- The challenges against the log: each pending nonce was issued for its call, none of them has
    been used or is pending twice, and every used nonce was issued. -/
structure ChallengeLog (cfg : WaConfig) (log : List WaEntry) (s : WaServer) : Prop where
  issued : ∀ callId c, s.pendingChallenges.get? callId = some c →
    ∃ x ∈ log, IssuesChallenge cfg callId c.nonce x
  unused : ∀ callId c, s.pendingChallenges.get? callId = some c →
    ∀ x ∈ log, ∀ invite, AcceptsInvite invite x → carriedNonce cfg invite ≠ some c.nonce
  single : ∀ callId c callId' c', s.pendingChallenges.get? callId = some c →
    s.pendingChallenges.get? callId' = some c' → c.nonce = c'.nonce → callId = callId'
  used : ∀ x ∈ log, ∀ invite, AcceptsInvite invite x → ∃ nonce,
    carriedNonce cfg invite = some nonce ∧
      ∃ y ∈ log, ∃ callId, IssuesChallenge cfg callId nonce y

theorem challengeLog_empty : ChallengeLog cfg [] .empty where
  issued callId c h := by simp [WaServer.empty] at h
  unused callId c h := by simp [WaServer.empty] at h
  single callId c callId' c' h := by simp [WaServer.empty] at h
  used x h := by simp at h

/-- The nonces of two events differ. -/
def DistinctNonces (a b : WaEvent) : Prop := ∀ x ∈ a.nonce?, ∀ y ∈ b.nonce?, x.value ≠ y.value

theorem issued_ne_drawn {cfg : WaConfig} {log : List WaEntry} {e : WaEvent} {drawn : HexNonce}
    (hdistinct : ∀ x ∈ log, DistinctNonces x.event e) (hdrawn : e.nonce? = some drawn)
    {x : WaEntry} (hx : x ∈ log) {callId nonce : String} (h : IssuesChallenge cfg callId nonce x) :
    nonce ≠ drawn.value := by
  obtain ⟨earlier, hearlier, rfl, _⟩ := h.drawn
  exact hdistinct x hx earlier hearlier drawn hdrawn

theorem carriedNonce_of_accept {cfg : WaConfig} {s : WaServer} {e : WaEvent} {invite : SipMessage}
    (haccept : AcceptsInvite invite ((waMachine cfg).entry s e)) {c : PendingChallenge}
    (hpending : s.pendingChallenges.get? invite.callId = some c) :
    carriedNonce cfg invite = some c.nonce := by
  obtain ⟨hauthorized, hmatch⟩ := (acceptsInvite_iff cfg s e invite).1 haccept
  have hverified : verifyDigest cfg.py cfg.hashes (invite.header "proxy-authorization")
      cfg.sipUsername cfg.sipPassword "INVITE" = some true := by
    cases e with
    | message msg peerIp draws =>
      obtain ⟨rfl, _, hverify⟩ := wellAuthorized_message hauthorized
      exact hverify
    | _ => simp [wellAuthorized] at hauthorized
  rw [carriedNonce]
  rw [hpending, nonceMismatch] at hmatch
  cases hparams : parseChallenge cfg.py (invite.header "proxy-authorization") with
  | none => simp [verifyDigest, hparams] at hverified
  | some params =>
    rw [hparams] at hmatch
    simpa using hmatch

theorem challengeLog_shrink {cfg : WaConfig} {log : List WaEntry} {s s' : WaServer} {t : WaEntry}
    (h : ChallengeLog cfg log s)
    (hkeep : ∀ callId c, s'.pendingChallenges.get? callId = some c →
      s.pendingChallenges.get? callId = some c)
    (haccept : ∀ invite, AcceptsInvite invite t → ∃ c,
      s.pendingChallenges.get? invite.callId = some c ∧ carriedNonce cfg invite = some c.nonce ∧
        s'.pendingChallenges.get? invite.callId = none) :
    ChallengeLog cfg (log ++ [t]) s' where
  issued callId c hc := by
    obtain ⟨x, hx, hissue⟩ := h.issued callId c (hkeep callId c hc)
    exact ⟨x, List.mem_append_left _ hx, hissue⟩
  unused callId c hc x hx invite hinvite hcarried := by
    rcases List.mem_append.1 hx with hx | hx
    · exact h.unused callId c (hkeep callId c hc) x hx invite hinvite hcarried
    · rw [List.mem_singleton.1 hx] at hinvite
      obtain ⟨c', hc', hcarried', hgone⟩ := haccept invite hinvite
      rw [hcarried', Option.some.injEq] at hcarried
      -- the used challenge is the only one with its nonce
      have hsame := h.single invite.callId c' callId c hc' (hkeep callId c hc) hcarried
      rw [hsame, hc] at hgone
      exact absurd hgone (by simp)
  single callId c callId' c' hc hc' hnonce :=
    h.single callId c callId' c' (hkeep callId c hc) (hkeep callId' c' hc') hnonce
  used x hx invite hinvite := by
    rcases List.mem_append.1 hx with hx | hx
    · obtain ⟨nonce, hcarried, y, hy, hissue⟩ := h.used x hx invite hinvite
      exact ⟨nonce, hcarried, y, List.mem_append_left _ hy, hissue⟩
    · rw [List.mem_singleton.1 hx] at hinvite
      obtain ⟨c, hc, hcarried, _⟩ := haccept invite hinvite
      obtain ⟨y, hy, hissue⟩ := h.issued _ _ hc
      exact ⟨c.nonce, hcarried, y, List.mem_append_left _ hy, invite.callId, hissue⟩

/-- A step that issues a challenge with a new nonce keeps the relation. -/
theorem challengeLog_issue {cfg : WaConfig} {log : List WaEntry} {s s' : WaServer} {t : WaEntry}
    {callId : String} {drawn : HexNonce} {maxPending : ℕ} (h : ChallengeLog cfg log s)
    (hissue : IssuesChallenge cfg callId drawn.value t)
    (hnew : ∀ x ∈ log, ∀ other nonce, IssuesChallenge cfg other nonce x → nonce ≠ drawn.value)
    (hnext : s'.pendingChallenges = (evictChallenges maxPending s.pendingChallenges).set callId
      ⟨cfg.sipHost, drawn.value⟩) : ChallengeLog cfg (log ++ [t]) s' := by
  have hget : ∀ other c, s'.pendingChallenges.get? other = some c →
      (other = callId ∧ c.nonce = drawn.value) ∨
        (other ≠ callId ∧ s.pendingChallenges.get? other = some c) := by
    intro other c hc
    rw [hnext, Dict.get?_set] at hc
    split_ifs at hc with hother
    · exact .inl ⟨hother, by rw [← Option.some.inj hc]⟩
    · exact .inr ⟨hother, Dict.get?_of_dropOldest hc⟩
  have hold : ∀ x ∈ log ++ [t], ∀ invite, AcceptsInvite invite x → x ∈ log := by
    intro x hx invite hinvite
    rcases List.mem_append.1 hx with hx | hx
    · exact hx
    · rw [List.mem_singleton.1 hx] at hinvite
      exact absurd hinvite (not_accepts_of_issues hissue invite)
  -- no pending nonce of before is the drawn one
  have hfresh : ∀ other c, s.pendingChallenges.get? other = some c → c.nonce ≠ drawn.value := by
    intro other c hc
    obtain ⟨x, hx, hx'⟩ := h.issued other c hc
    exact hnew x hx other c.nonce hx'
  constructor
  · intro other c hc
    rcases hget other c hc with ⟨rfl, hnonce⟩ | ⟨_, hc⟩
    · exact ⟨t, List.mem_append_right _ (List.mem_singleton_self t), hnonce ▸ hissue⟩
    · obtain ⟨x, hx, hx'⟩ := h.issued other c hc
      exact ⟨x, List.mem_append_left _ hx, hx'⟩
  · intro other c hc x hx invite hinvite hcarried
    have hx := hold x hx invite hinvite
    rcases hget other c hc with ⟨_, hnonce⟩ | ⟨_, hc⟩
    · obtain ⟨nonce, hcarried', y, hy, id, hy'⟩ := h.used x hx invite hinvite
      rw [hcarried', Option.some.injEq] at hcarried
      exact hnew y hy id nonce hy' (hcarried.trans hnonce)
    · exact h.unused other c hc x hx invite hinvite hcarried
  · intro a c a' c' hc hc' hnonce
    rcases hget a c hc with ⟨ha, hdrawn⟩ | ⟨_, hc⟩
    · rcases hget a' c' hc' with ⟨ha', _⟩ | ⟨_, hc'⟩
      · rw [ha, ha']
      · exact absurd (hnonce.symm.trans hdrawn) (hfresh a' c' hc')
    · rcases hget a' c' hc' with ⟨_, hdrawn⟩ | ⟨_, hc'⟩
      · exact absurd (hnonce.trans hdrawn) (hfresh a c hc)
      · exact h.single a c a' c' hc hc' hnonce
  · intro x hx invite hinvite
    obtain ⟨nonce, hcarried, y, hy, hy'⟩ := h.used x (hold x hx invite hinvite) invite hinvite
    exact ⟨nonce, hcarried, y, List.mem_append_left _ hy, hy'⟩

theorem pending_of_accept {cfg : WaConfig} {s : WaServer} {e : WaEvent}
    (hguard : ChallengeAwaited cfg s e) {invite : SipMessage}
    (haccept : AcceptsInvite invite ((waMachine cfg).entry s e)) :
    ∃ c, s.pendingChallenges.get? invite.callId = some c ∧
      carriedNonce cfg invite = some c.nonce := by
  have hauthorized := ((acceptsInvite_iff cfg s e invite).1 haccept).1
  obtain ⟨c, hc⟩ := Option.isSome_iff_exists.1 (hguard invite hauthorized)
  exact ⟨c, hc, carriedNonce_of_accept haccept hc⟩

theorem challengeLog_step {log : List WaEntry} {s : WaServer} {e : WaEvent}
    (hdistinct : ∀ x ∈ log, DistinctNonces x.event e) (hguard : ChallengeAwaited cfg s e)
    (h : ChallengeLog cfg log s) :
    ChallengeLog cfg (log ++ [(waMachine cfg).entry s e]) ((waMachine cfg).next s e) := by
  rcases pending_next cfg s e with
    ⟨callId, drawn, hissue, hdrawn, hnext⟩ | ⟨callId, hcall, hnext⟩ | ⟨hnone, hnext⟩
  · exact challengeLog_issue h hissue
      (fun x hx other nonce hx' => issued_ne_drawn hdistinct hdrawn hx hx') hnext
  · refine challengeLog_shrink h (fun other c hc => ?_) (fun invite haccept => ?_)
    · rw [hnext, Dict.get?_erase] at hc
      split_ifs at hc
      exact hc
    · obtain ⟨c, hc, hcarried⟩ := pending_of_accept hguard haccept
      refine ⟨c, hc, hcarried, ?_⟩
      rw [hnext, Dict.get?_erase, if_pos (hcall invite haccept)]
  · refine challengeLog_shrink h (fun other c hc => hnext ▸ hc) (fun invite haccept => ?_)
    exact absurd haccept (hnone invite)

/-- **Freshness of challenges along runs.** When the drawn nonces differ, every INVITE a run accepts
    is fresh (and so no authorization header is accepted twice) exactly if every well authorized
    INVITE of the run comes while a challenge of its call is pending. -/
theorem challengeFresh_iff {es : List WaEvent}
    (hnonces : es.Pairwise DistinctNonces) : ChallengeFresh cfg es ↔
      ∀ t ∈ (waMachine cfg).trace .empty es, ChallengeAwaited cfg t.pre t.event := by
  constructor
  · intro hfresh t ht invite hauthorized
    obtain ⟨log, later, hrun⟩ := List.append_of_mem ht
    have hpre : log ++ [t] <+: (waMachine cfg).trace .empty es := ⟨later, by rw [hrun]; simp⟩
    have hentry := (waMachine cfg).eq_entry_of_mem_trace ht
    -- without a pending challenge the INVITE would be accepted, and then not be fresh
    by_contra hnone
    have hnone' : t.pre.pendingChallenges.get? invite.callId = none := by
      simpa [Dict.contains] using hnone
    have haccept : AcceptsInvite invite t := by
      rw [hentry, acceptsInvite_iff, hnone']
      exact ⟨hauthorized, rfl⟩
    obtain ⟨nonce, hfresh⟩ := hfresh log t hpre invite haccept
    obtain ⟨c, hc, _⟩ := hfresh.pending
    rw [hnone'] at hc
    exact absurd hc (by simp)
  · intro hguard
    refine (waMachine cfg).trace_forall (C := ChallengeLog cfg) (Q := fun log t => ∀ invite,
      AcceptsInvite invite t → ∃ nonce, FreshAccept cfg log t invite nonce)
      (challengeLog_empty cfg) ?_
    intro log s e hpre hlog
    have hawaited : ChallengeAwaited cfg s e :=
      hguard _ (hpre.subset (List.mem_append_right _ (List.mem_singleton_self _)))
    have hdistinct : ∀ x ∈ log, DistinctNonces x.event e :=
      EventMachine.rel_of_prefix ((waMachine cfg).trace_pairwise_event hnonces) hpre
    refine ⟨fun invite haccept => ?_, challengeLog_step cfg hdistinct hawaited hlog⟩
    obtain ⟨c, hc, hcarried⟩ := pending_of_accept hawaited haccept
    have hunused := hlog.unused _ _ hc
    refine ⟨c.nonce, hcarried, hlog.issued _ _ hc, ⟨c, hc, rfl⟩, hunused, ?_⟩
    intro x hx earlier hearlier hheader
    refine hunused x hx earlier hearlier ?_
    rw [carriedNonce, hheader]
    exact hcarried

/-! ## A replayed INVITE -/

/-- `hashlib.md5` on the texts that are hashed for the call below. -/
def callMd5 (data : String) : String :=
  if data = "wa:h:pw" then "db6f801d82e8d9215450ac29ac8aad14"
  else if data = "INVITE:sip:h" then "adade3b1f865988e9d471335ec820487"
  else if data = "db6f801d82e8d9215450ac29ac8aad14:5f3a:adade3b1f865988e9d471335ec820487" then
    "fb3754de59175a03382fecef15e63d8c"
  else ""

def sandboxServer : WaConfig where
  py := .ascii
  hashes := ⟨callMd5, fun data => data⟩
  sipHost := "h"
  host_plain := by decide
  sipUsername := "wa"
  sipPassword := "pw"
  allowedCidrs := []
  inNetwork _ _ := none
  sandboxMode := true
  maxConcurrentCalls := 10

/-- The authorization header a client of the call answers the challenge with. -/
def callAuthorization : String :=
  "Digest username=\"wa\", realm=\"h\", nonce=\"5f3a\", uri=\"sip:h\", "
    ++ "response=\"fb3754de59175a03382fecef15e63d8c\""

variable (authorization : String)

/-- An INVITE of the call `call-1` with this authorization. -/
def callMessage : SipMessage where
  firstLine := "INVITE sip:h SIP/2.0"
  headers := Dict.ofList [("call-id", "call-1"), ("proxy-authorization", authorization)]
  body := "c=IN IP4 10.0.0.7\r\nm=audio 4000 RTP/SAVP 111 126\r\n"

def callInvite (nonce : HexNonce) : WaEvent :=
  .message (callMessage authorization) "10.0.0.7"
    ⟨nonce, "a1", .ready "<sip:ekaette@10.0.0.1:5061;transport=tls>" "v=0\r\n"⟩

def firstNonce : HexNonce := ⟨"5f3a", List.all_eq_true.1 (by decide), by decide⟩

def secondNonce : HexNonce := ⟨"b2", List.all_eq_true.1 (by decide), by decide⟩

/-- The call: challenged with the nonce `5f3a`, then accepted. -/
def challengedCall : List WaEvent :=
  [callInvite "" firstNonce, callInvite callAuthorization secondNonce]

/-- The call is over. -/
def callOver : List WaEvent := [.sessionEnds 0, .sessionDone 0]

/-- The recorded INVITE once more. -/
def replayedInvite : WaEvent :=
  callInvite callAuthorization ⟨"c3", List.all_eq_true.1 (by decide), by decide⟩

/-- The parameters of the header. -/
def callParams : Dict String String :=
  .ofList [("username", "wa"), ("realm", "h"), ("nonce", "5f3a"), ("uri", "sip:h"),
    ("response", "fb3754de59175a03382fecef15e63d8c"), ("algorithm", "MD5")]

theorem parse_callAuthorization : parseChallenge .ascii callAuthorization = some callParams := by
  have hentries : (parseChallenge .ascii callAuthorization).map Dict.entries =
      some callParams.entries := by
    decide +kernel
  obtain ⟨params, hparams, heq⟩ := Option.map_eq_some_iff.1 hentries
  rw [hparams, Dict.ext heq]

/-- A server that takes the call: it lets the peer in, and the header verifies. -/
structure TakesCall (cfg : WaConfig) : Prop where
  allowed : cfg.checkIpAllowed "10.0.0.7" = true
  params : parseChallenge cfg.py callAuthorization = some callParams
  verified : verifyDigest cfg.py cfg.hashes callAuthorization cfg.sipUsername cfg.sipPassword
    "INVITE" = some true
  media : ∃ sdp, parseRemoteSdp cfg.py (callMessage "").body = some sdp ∧ sdp.mediaIp ≠ "" ∧
    sdp.mediaPort ≠ 0

theorem takesCall_sandboxServer : TakesCall sandboxServer where
  allowed := rfl
  params := parse_callAuthorization
  verified := by
    have hparse : parseChallenge sandboxServer.py callAuthorization = some callParams :=
      parse_callAuthorization
    rw [verifyDigest, hparse]
    decide +kernel
  media := by
    have hsdp : (parseRemoteSdp sandboxServer.py (callMessage "").body).map
        (fun sdp => (sdp.mediaIp, sdp.mediaPort)) = some ("10.0.0.7", 4000) := by
      decide +kernel
    obtain ⟨sdp, hparse, hmedia⟩ := Option.map_eq_some_iff.1 hsdp
    rw [Prod.mk.injEq] at hmedia
    exact ⟨sdp, hparse, by rw [hmedia.1]; decide, by rw [hmedia.2]; decide⟩

theorem TakesCall.mismatch {cfg : WaConfig} (h : TakesCall cfg) (realm : String) :
    nonceMismatch cfg.py callAuthorization (some ⟨realm, "5f3a"⟩) = false := by
  have hnonce : callParams.get? "nonce" = some "5f3a" := by decide +kernel
  simp only [nonceMismatch, h.params, hnonce, ne_eq, not_true, decide_false]

theorem method_callMessage :
    (callMessage authorization).method = some "INVITE" := by
  have hmethod : (callMessage "").method = some "INVITE" := by decide +kernel
  exact hmethod

theorem callId_callMessage :
    (callMessage authorization).callId = "call-1" := by
  have hwacid : (callMessage authorization).header "x-wa-meta-wacid" = "" := by
    simp [callMessage, SipMessage.header, Dict.getD, Dict.ofList]
  have hcallId : (callMessage authorization).header "call-id" = "call-1" := by
    simp [callMessage, SipMessage.header, Dict.getD, Dict.ofList]
  rw [SipMessage.callId, resolveCallId, hwacid, hcallId]
  decide +kernel

theorem header_callMessage :
    (callMessage authorization).header "proxy-authorization" = authorization := by
  simp [callMessage, SipMessage.header, Dict.getD, Dict.ofList]

theorem TakesCall.challenges {cfg : WaConfig} (h : TakesCall cfg) {s : WaServer}
    (hroom : s.activeSessions.size < cfg.maxConcurrentCalls) (nonce : HexNonce) :
    (waMachine cfg).next s (callInvite "" nonce) =
      { s with
        pendingChallenges := (evictChallenges (cfg.maxConcurrentCalls * 2) s.pendingChallenges).set
          "call-1" ⟨cfg.sipHost, nonce.value⟩ } := by
  simp only [EventMachine.next, callInvite, waMachine, handleSipMessage, h.allowed,
    method_callMessage,
    handleInvite, header_callMessage, callId_callMessage, build407Response_challenge,
    nonceOfChallenge_challengeValue cfg.host_plain, Bool.true_eq_false, if_false, if_true,
    if_neg (not_le.2 hroom)]

/-- The call is accepted: with no challenge pending, or with that of the header. -/
theorem TakesCall.accepts {cfg : WaConfig} (h : TakesCall cfg) {s : WaServer}
    (hroom : s.activeSessions.size < cfg.maxConcurrentCalls)
    (hpending : ∀ c, s.pendingChallenges.get? "call-1" = some c → c.nonce = "5f3a")
    (nonce : HexNonce) :
    (waMachine cfg).next s (callInvite callAuthorization nonce) =
        (s.forget "call-1").startSession "call-1" ∧
      ((waMachine cfg).step s (callInvite callAuthorization nonce)).2.firstLine? =
        some "SIP/2.0 200 OK" := by
  have hmismatch : nonceMismatch cfg.py callAuthorization (s.pendingChallenges.get? "call-1") =
      false := by
    cases hget : s.pendingChallenges.get? "call-1" with
    | none => rfl
    | some c =>
      have hc : c = ⟨c.realm, "5f3a"⟩ := by rw [← hpending c hget]
      rw [hc]
      exact h.mismatch c.realm
  have hauth : callAuthorization ≠ "" := by decide
  have hbody : (callMessage callAuthorization).body = (callMessage "").body := rfl
  have hne : (callMessage "").body ≠ "" := by decide
  obtain ⟨sdp, hsdp, hip, hport⟩ := h.media
  constructor
  · simp only [EventMachine.next, callInvite, waMachine, handleSipMessage, h.allowed,
      method_callMessage,
      handleInvite, header_callMessage, callId_callMessage, hmismatch, h.verified, acceptInvite,
      hbody, hne,
      hsdp, hip, hport, hauth, Bool.true_eq_false, Bool.false_eq_true, if_false, if_true, or_self,
      if_neg (not_le.2 hroom)]
  · simp only [callInvite, waMachine, handleSipMessage, h.allowed, method_callMessage,
      handleInvite, header_callMessage, callId_callMessage, hmismatch, h.verified, acceptInvite,
      hbody, hne,
      hsdp, hip, hport, hauth, Bool.true_eq_false, Bool.false_eq_true, if_false, if_true, or_self,
      if_neg (not_le.2 hroom), WaAnswer.firstLine?, build200Ok]

theorem challengedCall_distinct : challengedCall.Pairwise DistinctNonces := by
  rw [challengedCall, List.pairwise_pair]
  intro x hx y hy
  rw [← Option.some.inj hx, ← Option.some.inj hy]
  decide

/-- The server once it has challenged the call. -/
def challengedServer : WaServer :=
  { WaServer.empty with pendingChallenges := Dict.empty.set "call-1" ⟨"h", "5f3a"⟩ }

/-- The server once it has accepted the call. -/
def acceptingServer : WaServer := (challengedServer.forget "call-1").startSession "call-1"

theorem TakesCall.challenged {cfg : WaConfig} (h : TakesCall cfg) (hhost : cfg.sipHost = "h")
    (hroom : 0 < cfg.maxConcurrentCalls) :
    (waMachine cfg).next .empty (callInvite "" firstNonce) = challengedServer := by
  have hevict : evictChallenges (cfg.maxConcurrentCalls * 2) WaServer.empty.pendingChallenges =
      .empty :=
    Dict.ext (by simp [evictChallenges, WaServer.empty, Dict.entries_dropOldest, Dict.empty])
  rw [h.challenges (s := .empty) hroom, hhost, hevict]
  rfl

theorem TakesCall.challengedCall_run {cfg : WaConfig} (h : TakesCall cfg)
    (hhost : cfg.sipHost = "h") (hroom : 0 < cfg.maxConcurrentCalls) :
    (waMachine cfg).run .empty challengedCall = acceptingServer := by
  have hpending : ∀ c, challengedServer.pendingChallenges.get? "call-1" = some c →
      c.nonce = "5f3a" := by
    intro c hc
    rw [challengedServer, Dict.get?_set_self, Option.some.injEq] at hc
    rw [← hc]
  rw [challengedCall, EventMachine.run_cons, h.challenged hhost hroom, EventMachine.run_cons,
    EventMachine.run_nil, (h.accepts (s := challengedServer) hroom hpending secondNonce).1]
  rfl

/-- The challenged call itself is fresh. -/
theorem challengedCall_fresh : ChallengeFresh sandboxServer challengedCall := by
  refine (challengeFresh_iff sandboxServer challengedCall_distinct).2 ?_
  intro t ht invite hauthorized
  simp only [challengedCall, EventMachine.trace_cons, EventMachine.trace_nil, List.mem_cons,
    List.not_mem_nil, or_false] at ht
  rcases ht with rfl | rfl
  · -- it has no authorization yet
    exact absurd (by decide +kernel) (wellAuthorized_message hauthorized).2.1
  · rw [(wellAuthorized_message hauthorized).1, EventMachine.entry_pre, callId_callMessage,
      takesCall_sandboxServer.challenged rfl (by decide)]
    decide

theorem replayedInvite_answer {s : WaServer} (hempty : s.pendingChallenges.get? "call-1" = none)
    (hroom : s.activeSessions.size < sandboxServer.maxConcurrentCalls) :
    ((waMachine sandboxServer).step s replayedInvite).2.firstLine? = some "SIP/2.0 200 OK" := by
  rw [replayedInvite]
  exact (takesCall_sandboxServer.accepts hroom (fun c hc => by simp [hempty] at hc) _).2

/-- The recorded INVITE is accepted again once the call is over. -/
theorem replayedInvite_accepted :
    ¬ ChallengeFresh sandboxServer (challengedCall ++ callOver ++ [replayedInvite]) := by
  intro hfresh
  -- nothing is pending when the recorded INVITE comes again, so no nonce is compared
  have hover : (waMachine sandboxServer).run .empty (challengedCall ++ callOver) =
      (waMachine sandboxServer).run acceptingServer callOver := by
    rw [EventMachine.run_append, takesCall_sandboxServer.challengedCall_run rfl (by decide)]
  have hempty : ((waMachine sandboxServer).run acceptingServer callOver).pendingChallenges.get?
      "call-1" = none := by
    decide +kernel
  have hroom : ((waMachine sandboxServer).run acceptingServer callOver).activeSessions.size <
      sandboxServer.maxConcurrentCalls := by
    decide +kernel
  have hnone :
    ((waMachine sandboxServer).run .empty (challengedCall ++ callOver)).pendingChallenges.get?
      (callMessage callAuthorization).callId = none := by
    rw [hover, callId_callMessage, hempty]
  have haccepted : ((waMachine sandboxServer).step ((waMachine sandboxServer).run .empty
      (challengedCall ++ callOver)) replayedInvite).2.firstLine? = some "SIP/2.0 200 OK" := by
    rw [hover]
    exact replayedInvite_answer hempty hroom
  have hpre : (waMachine sandboxServer).trace .empty (challengedCall ++ callOver)
        ++ [(waMachine sandboxServer).entry
          ((waMachine sandboxServer).run .empty (challengedCall ++ callOver)) replayedInvite]
      <+: (waMachine sandboxServer).trace .empty
      (challengedCall ++ callOver ++ [replayedInvite]) := by
    rw [EventMachine.trace_concat]
  have hinvite : replayedInvite.invite? = some (callMessage callAuthorization) := by
    simp only [replayedInvite, callInvite, WaEvent.invite?, method_callMessage, if_true]
  generalize (waMachine sandboxServer).run .empty (challengedCall ++ callOver) = s
    at hnone haccepted hpre
  have haccept : AcceptsInvite (callMessage callAuthorization)
      ((waMachine sandboxServer).entry s replayedInvite) :=
    ⟨hinvite, by rw [EventMachine.entry_answer, haccepted]⟩
  obtain ⟨nonce, hfresh⟩ := hfresh _ _ hpre _ haccept
  obtain ⟨c, hc, _⟩ := hfresh.pending
  rw [EventMachine.entry_pre, hnone] at hc
  exact absurd hc (by simp)

end Ekaette
