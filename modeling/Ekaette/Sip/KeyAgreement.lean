import Ekaette.Sip.ChallengeFreshness
import Ekaette.Sip.Srtp

set_option autoImplicit false

/-! # SRTP key agreement

An accepted INVITE is answered with an SDP body that carries key material, and its session protects
what it sends with the contexts of `_create_srtp_contexts`. The peer keys its receiver from the
answer. Both draw their key material themselves, so the two agree only by chance; and the answer
carries a key whether the offer did or not. -/

namespace Ekaette

/-! ## The media of an accepted INVITE -/

/-- What setting up the media takes from the deployment. -/
structure MediaConfig where
  sipPort : ℕ
  /-- the Opus encoder can be made for this rate -/
  encoderBuilds : ℕ → Bool

/-- What setting up the media draws. -/
structure MediaDraws where
  bindSucceeds : Bool
  localMediaPort : ℕ
  /-- `resolve_advertised_ip` -/
  localIp : AdvertisedIp
  /-- drawn by `_create_srtp_contexts` -/
  senderKey : KeyMaterial
  /-- drawn by `generate_sdp_answer` -/
  answerKey : KeyMaterial
  /-- the gateway client and the session can be made -/
  sessionBuilds : Bool

/-- The SRTP contexts of the session, and what the 200 OK is built from. -/
structure MediaWiring where
  srtp : Option (SrtpContext × SrtpContext)
  sdpBody : String
  localContact : String

/-- The `srtp_sender` of the session. -/
def MediaWiring.srtpSender (w : MediaWiring) : Option SrtpContext := w.srtp.map Prod.fst

variable (py : StrMethods)

/-- The `try` block of `_handle_invite`; `none` where a step of it raises. -/
def wireMedia (media : MediaConfig) (invite : SipMessage) (draws : MediaDraws) :
    Option MediaWiring :=
  (parseRemoteSdp py invite.body).bind (fun remoteSdp =>
    if media.encoderBuilds remoteSdp.encodeRate = false then none
    else match createSrtpContexts py invite.body draws.senderKey with
      | .error _ => none
      | .ok srtp =>
        if draws.sessionBuilds = false then none
        else some
          { srtp
            sdpBody := generateSdpAnswer draws.localIp draws.localMediaPort
              remoteSdp.opusPayloadType draws.answerKey
            localContact := "<sip:ekaette@" ++ draws.localIp.text ++ ":" ++ toString media.sipPort
              ++ ";transport=tls>" })

/-- The outcome of the media setup of an INVITE. -/
def mediaSetup (media : MediaConfig) (invite : SipMessage) (draws : MediaDraws) :
    MediaSetup :=
  if draws.bindSucceeds = false then .bindRaises
  else match wireMedia py media invite draws with
    | none => .fails
    | some w => .ready w.localContact w.sdpBody

/-- An INVITE with the media setup the code gives it. -/
def wiredInvite (cfg : WaConfig) (media : MediaConfig) (invite : SipMessage) (peerIp : String)
    (nonce : HexNonce) (tag : String) (draws : MediaDraws) : WaEvent :=
  .message invite peerIp ⟨nonce, tag, mediaSetup cfg.py media invite draws⟩

/-! ## Agreement -/

/-- The offer has a crypto attribute. -/
def CarriesCrypto (offer : String) : Prop :=
  ((cryptoRe py).search offer.toList).isSome = true

/-- The answer announces encrypted media, by a crypto attribute or by its profile. -/
def AnnouncesEncryption (answer : String) : Prop :=
  CarriesCrypto py answer ∨ PyStr.contains "RTP/SAVP" answer = true

/-- **Key agreement** of an answer with the sender of the session. -/
structure KeysAgree (py : StrMethods) (offer : String) (srtpSender : Option SrtpContext)
    (answer : String) : Prop where
  /-- what a peer reads from the answer is what the session protects with -/
  keyed : CarriesCrypto py offer → ∃ sender crypto, srtpSender = some sender ∧
    parseSdesCrypto py answer = .ok (some crypto) ∧ crypto.key = sender.keyMaterial ∧
    crypto.suite = sender.suite
  plain : ¬ CarriesCrypto py offer → ¬ AnnouncesEncryption py answer

theorem carriesCrypto_of_parse {py : StrMethods} {sdp : String} {crypto : SdesCrypto}
    (h : parseSdesCrypto py sdp = .ok (some crypto)) : CarriesCrypto py sdp := by
  unfold CarriesCrypto
  unfold parseSdesCrypto at h
  cases hsearch : (cryptoRe py).search sdp.toList with
  | none => simp [hsearch] at h
  | some m => rfl

/-- The contexts of an offer: none without a crypto attribute, otherwise a sender that protects with
    the local key. -/
theorem createSrtpContexts_ok {py : StrMethods} {offer : String} {localKey : KeyMaterial}
    {srtp : Option (SrtpContext × SrtpContext)}
    (h : createSrtpContexts py offer localKey = .ok srtp) :
    (¬ CarriesCrypto py offer ∧ srtp = none) ∨
      (CarriesCrypto py offer ∧ srtp.map Prod.fst = some ⟨localKey.bytes, true, suite80⟩) := by
  unfold createSrtpContexts at h
  cases hparse : parseSdesCrypto py offer with
  | error e => simp [hparse, bind, Except.bind] at h
  | ok crypto =>
    rw [hparse] at h
    cases crypto with
    | none =>
      refine .inl ⟨?_, by simpa [bind, Except.bind, pure, Except.pure, eq_comm] using h⟩
      unfold CarriesCrypto
      unfold parseSdesCrypto at hparse
      cases hsearch : (cryptoRe py).search offer.toList with
      | none => simp
      | some m =>
        simp only [hsearch] at hparse
        cases hread : readCrypto py m <;> simp [hread, Except.map] at hparse
    | some crypto =>
      refine .inr ⟨carriesCrypto_of_parse hparse, ?_⟩
      have hsender : SrtpContext.create localKey.bytes true
          = .ok ⟨localKey.bytes, true, suite80⟩ := by
        simp [SrtpContext.create, localKey.length_eq]
      simp only [bind, Except.bind, hsender] at h
      cases hreceiver : SrtpContext.create crypto.key false with
      | error e => simp [hreceiver] at h
      | ok receiver =>
        simp only [hreceiver, pure, Except.pure, Except.ok.injEq] at h
        rw [← h]
        rfl

/-- **When the keys agree**: the offer has a crypto attribute, and the two draws coincide. -/
theorem keysAgree_wireMedia_iff {py : StrMethods} {media : MediaConfig} {invite : SipMessage}
    {draws : MediaDraws} {w : MediaWiring} (h : wireMedia py media invite draws = some w) :
    KeysAgree py invite.body w.srtpSender w.sdpBody ↔
      CarriesCrypto py invite.body ∧ draws.answerKey.bytes = draws.senderKey.bytes := by
  obtain ⟨remoteSdp, -, h⟩ := Option.bind_eq_some_iff.1 h
  split at h
  · simp at h
  · cases hsrtp : createSrtpContexts py invite.body draws.senderKey with
    | error e => simp [hsrtp] at h
    | ok srtp =>
      simp only [hsrtp] at h
      split at h
      · simp at h
      · rw [Option.some.injEq] at h
        subst h
        have hanswer := parseSdesCrypto_generateSdpAnswer py draws.localIp draws.localMediaPort
          remoteSdp.opusPayloadType draws.answerKey
        rcases createSrtpContexts_ok hsrtp with ⟨hplain, -⟩ | ⟨hcrypto, hsender⟩
        · -- the answer carries a key all the same
          refine iff_of_false (fun hagree => hagree.plain hplain ?_) (fun hboth => hplain hboth.1)
          exact .inl (carriesCrypto_of_parse hanswer)
        · constructor
          · intro hagree
            obtain ⟨sender, crypto, hsome, hparse, hkey, -⟩ := hagree.keyed hcrypto
            rw [MediaWiring.srtpSender, hsender, Option.some.injEq] at hsome
            rw [hanswer, Except.ok.injEq, Option.some.injEq] at hparse
            subst hsome hparse
            exact ⟨hcrypto, hkey⟩
          · rintro ⟨-, hkey⟩
            exact ⟨fun _ => ⟨_, _, hsender, hanswer, hkey, rfl⟩,
              fun hplain => absurd hcrypto hplain⟩

/-! ## Every accepted INVITE -/

theorem acceptsInvite_response {cfg : WaConfig} {s : WaServer} {invite : SipMessage}
    {peerIp : String} {draws : MessageDraws}
    (h : AcceptsInvite invite ((waMachine cfg).entry s (.message invite peerIp draws))) :
    ∃ localContact sdpBody, draws.setup = .ready localContact sdpBody ∧
      ((waMachine cfg).step s (.message invite peerIp draws)).2
        = .response (build200Ok invite sdpBody localContact draws.tag) := by
  obtain ⟨hauthorized, hmatch⟩ := (acceptsInvite_iff cfg s _ invite).1 h
  simp only [wellAuthorized] at hauthorized
  split_ifs at hauthorized with hguards
  obtain ⟨hallowed, hmethod, hsize, hauth, hverify, hready⟩ := hguards
  have hstep : ((waMachine cfg).step s (.message invite peerIp draws)).2 =
      (handleInvite cfg invite draws s).2 := by
    simp only [waMachine, handleSipMessage, hallowed, hmethod, Bool.true_eq_false, if_false,
      if_true]
  rw [hstep]
  cases inviteHandled cfg invite draws s with
  | challenged hnone hs hanswer => exact absurd hnone hauth
  | refused hs hanswer hok hrefused => exact absurd ⟨hsize, hauth, hverify, hready, hmatch⟩ hrefused
  | accepted localContact sdpBody haccept hsetup hs hanswer =>
    exact ⟨localContact, sdpBody, hsetup, hanswer⟩

theorem acceptsInvite_wiring {cfg : WaConfig} {media : MediaConfig} {s : WaServer}
    {invite : SipMessage} {peerIp : String} {nonce : HexNonce} {tag : String} {draws : MediaDraws}
    (haccept : AcceptsInvite invite
      ((waMachine cfg).entry s (wiredInvite cfg media invite peerIp nonce tag draws))) :
    ∃ w resp, wireMedia cfg.py media invite draws = some w ∧
      ((waMachine cfg).step s (wiredInvite cfg media invite peerIp nonce tag draws)).2
        = .response resp ∧ resp.body = w.sdpBody := by
  obtain ⟨localContact, sdpBody, hsetup, hanswer⟩ := acceptsInvite_response haccept
  simp only [mediaSetup] at hsetup
  split at hsetup
  · simp at hsetup
  · split at hsetup
    · simp at hsetup
    · next w hw =>
        rw [MediaSetup.ready.injEq] at hsetup
        exact ⟨w, _, hw, hanswer, hsetup.2.symm⟩

theorem wiredInvite_accepted {cfg : WaConfig} {media : MediaConfig} {s : WaServer}
    {invite : SipMessage} {peerIp : String} {nonce : HexNonce} {tag : String} {draws : MediaDraws}
    (hmethod : invite.method = some "INVITE") (hallowed : cfg.checkIpAllowed peerIp = true)
    (hroom : s.activeSessions.size < cfg.maxConcurrentCalls)
    (hheader : invite.header "proxy-authorization" ≠ "")
    (hverified : verifyDigest cfg.py cfg.hashes (invite.header "proxy-authorization")
      cfg.sipUsername cfg.sipPassword "INVITE" = some true)
    (hready : mediaReady cfg invite (mediaSetup cfg.py media invite draws) = true)
    (hmismatch : nonceMismatch cfg.py (invite.header "proxy-authorization")
      (s.pendingChallenges.get? invite.callId) = false) :
    AcceptsInvite invite
      ((waMachine cfg).entry s (wiredInvite cfg media invite peerIp nonce tag draws)) := by
  refine ⟨?_, ?_⟩
  · simp only [EventMachine.entry_event, wiredInvite, WaEvent.invite?, hmethod, if_true]
  · show (handleSipMessage cfg invite peerIp ⟨nonce, tag, mediaSetup cfg.py media invite draws⟩
      s).2.firstLine? = _
    simp only [handleSipMessage, hallowed, hmethod, Bool.true_eq_false, if_false, if_true]
    exact (handleInvite_answer cfg invite _ s).2 ⟨hroom, hheader, hverified, hready, hmismatch⟩

/-- **SRTP key agreement.** For every INVITE that is answered with 200 OK, the key and the suite of
    the answer are those the session protects with, and an answer to a plain offer announces no
    encryption, exactly if the offer has a crypto attribute and the two drawn keys happen to be the
    same. -/
theorem srtpKeys_agree_iff (cfg : WaConfig) (media : MediaConfig) (s : WaServer)
    (invite : SipMessage) (peerIp : String) (nonce : HexNonce) (tag : String) (draws : MediaDraws)
    (haccept : AcceptsInvite invite
      ((waMachine cfg).entry s (wiredInvite cfg media invite peerIp nonce tag draws))) :
    ∃ w resp, wireMedia cfg.py media invite draws = some w ∧
      ((waMachine cfg).step s (wiredInvite cfg media invite peerIp nonce tag draws)).2
        = .response resp ∧
      (KeysAgree cfg.py invite.body w.srtpSender resp.body ↔
        CarriesCrypto cfg.py invite.body ∧ draws.answerKey.bytes = draws.senderKey.bytes) := by
  obtain ⟨w, resp, hw, hanswer, hbody⟩ := acceptsInvite_wiring haccept
  refine ⟨w, resp, hw, hanswer, ?_⟩
  rw [hbody]
  exact keysAgree_wireMedia_iff hw

/-- Key material of thirty equal bytes. -/
def constantKey (byte : UInt8) : KeyMaterial := ⟨List.replicate 30 byte, List.length_replicate⟩

def callMedia : MediaConfig := ⟨5061, fun _ => true⟩

def callMediaDraws (answerByte : UInt8) : MediaDraws where
  bindSucceeds := true
  localMediaPort := 20000
  localIp := ⟨"10.0.0.1", by decide⟩
  senderKey := constantKey 0
  answerKey := constantKey answerByte
  sessionBuilds := true

/-- The INVITE of the challenged call, with an offer that has a crypto attribute. -/
def keyedInvite : SipMessage :=
  { callMessage callAuthorization with
    body := "c=IN IP4 10.0.0.7\r\nm=audio 4000 RTP/SAVP 111\r\n"
      ++ "a=crypto:1 AES_CM_128_HMAC_SHA1_80 inline:AAAAAAAAAAAAAAAAAAAAAAAAAAAAAAAAAAAAAAAA\r\n" }

/-- The answer to the challenge of the call. -/
def keyedCall (answerByte : UInt8) : WaEvent :=
  wiredInvite sandboxServer callMedia keyedInvite "10.0.0.7" secondNonce "a1"
    (callMediaDraws answerByte)

/-- The server that has challenged the call. -/
def challengingServer : WaServer :=
  (waMachine sandboxServer).next .empty (callInvite "" firstNonce)

theorem keyedCall_accepted : ∀ answerByte ∈ ([0, 1] : List UInt8),
    AcceptsInvite keyedInvite ((waMachine sandboxServer).entry challengingServer
      (keyedCall answerByte)) := by
  have htakes := takesCall_sandboxServer
  have hserver : challengingServer = challengedServer := htakes.challenged rfl (by decide)
  have hheader : keyedInvite.header "proxy-authorization" = callAuthorization :=
    header_callMessage callAuthorization
  have hcallId : keyedInvite.callId = "call-1" := callId_callMessage callAuthorization
  have hpending : challengedServer.pendingChallenges.get? "call-1" = some ⟨"h", "5f3a"⟩ :=
    Dict.get?_set_self _ _ _
  have hready : ∀ answerByte ∈ ([0, 1] : List UInt8), mediaReady sandboxServer keyedInvite
      (mediaSetup sandboxServer.py callMedia keyedInvite (callMediaDraws answerByte)) = true := by
    decide +kernel
  intro answerByte hbyte
  refine wiredInvite_accepted (method_callMessage callAuthorization) rfl ?_ ?_ ?_
    (hready answerByte hbyte) ?_
  · rw [hserver]
    decide
  · rw [hheader]
    decide
  · rw [hheader]
    exact htakes.verified
  · rw [hserver, hheader, hcallId, hpending]
    exact htakes.mismatch "h"

/-- With different draws the peer of an accepted call cannot decrypt what its session sends. -/
theorem keyedCall_not_agree :
    AcceptsInvite keyedInvite ((waMachine sandboxServer).entry challengingServer (keyedCall 1)) ∧
      ∃ w resp, wireMedia sandboxServer.py callMedia keyedInvite (callMediaDraws 1) = some w ∧
        ((waMachine sandboxServer).step challengingServer (keyedCall 1)).2 = .response resp ∧
        ¬ KeysAgree sandboxServer.py keyedInvite.body w.srtpSender resp.body := by
  have haccept := keyedCall_accepted 1 (by simp)
  obtain ⟨w, resp, hw, hanswer, hbody⟩ := acceptsInvite_wiring haccept
  refine ⟨haccept, w, resp, hw, hanswer, ?_⟩
  rw [hbody, keysAgree_wireMedia_iff hw]
  rintro ⟨-, hkeys⟩
  exact absurd hkeys (by decide)

/-- With one and the same draw it can. -/
theorem keyedCall_agrees :
    ∃ w resp, wireMedia sandboxServer.py callMedia keyedInvite (callMediaDraws 0) = some w ∧
      ((waMachine sandboxServer).step challengingServer (keyedCall 0)).2 = .response resp ∧
      KeysAgree sandboxServer.py keyedInvite.body w.srtpSender resp.body := by
  have hcrypto : CarriesCrypto sandboxServer.py keyedInvite.body := by
    unfold CarriesCrypto
    decide +kernel
  obtain ⟨w, resp, hw, hanswer, hagree⟩ := srtpKeys_agree_iff sandboxServer callMedia
    challengingServer keyedInvite "10.0.0.7" secondNonce "a1" (callMediaDraws 0)
    (keyedCall_accepted 0 (by simp))
  exact ⟨w, resp, hw, hanswer, hagree.2 ⟨hcrypto, rfl⟩⟩

end Ekaette
