import Ekaette.Lib.Base64
import Ekaette.Lib.Utf8
import Ekaette.Public.WsAuth

set_option autoImplicit false

/-! # The two makers of tokens and their one reader

`create_ws_token` of `app/api/v1/public/ws_auth.py` and `_mint_token` of
`sip_bridge/gateway_client.py` sign tokens that `validate_ws_token` reads. JSON and HMAC are the
standard library's; the coding of the segments is the one of the source. -/

namespace Ekaette

/-- What the token code takes from the standard library. -/
structure TokenLibs where
  /-- `hmac.new(secret, message, sha256).digest()` -/
  hmacSha256 : String → String → Bytes
  /-- `json.dumps` -/
  jsonDumps : PyValue → String
  /-- `json.loads`; `none` where it raises -/
  jsonLoads : Bytes → Option PyValue

/-- `_b64url_encode`. -/
def b64urlEncode (data : Bytes) : String := String.ofList (Base64.encodeUrlsafe data)

/-- `_b64url_decode`; `none` where it raises. -/
def b64urlDecode (s : String) : Option Bytes := Base64.decodeUrlsafe (Base64.pad s.toList)

variable (libs : TokenLibs)

/-- What `validate_ws_token` reads a token with. -/
def TokenLibs.codec : WsCodec := ⟨libs.hmacSha256, b64urlDecode, libs.jsonLoads⟩

/-- `json.dumps(v).encode()`. -/
def TokenLibs.jsonBytes (v : PyValue) : Bytes :=
  Utf8.encode (libs.jsonDumps v).toList

/-- JSON round-trips on a value. -/
def TokenLibs.RoundTrips (v : PyValue) : Prop :=
  libs.jsonLoads (libs.jsonBytes v) = some v

/-- Whom a token is for. -/
structure TokenSubject where
  userId : String
  tenantId : String
  companyId : String
  callerPhone : String

/-- What making a token draws from outside. -/
structure TokenDraws where
  /-- `time.time()` -/
  now : ℚ
  /-- the bytes behind `secrets.token_urlsafe(16)` -/
  random : Fin 16 → UInt8

/-- `secrets.token_urlsafe(16)`. -/
def TokenDraws.jti (draws : TokenDraws) : String := b64urlEncode (List.ofFn draws.random)

/-! ## Making tokens -/

/-- The payload of a token. -/
def tokenPayload (subject : TokenSubject) (exp : ℚ) (jti : String) : List (String × PyValue) :=
  [("sub", .str subject.userId), ("tenant_id", .str subject.tenantId),
    ("company_id", .str subject.companyId), ("exp", .float (.fin exp)), ("jti", .str jti),
    ("caller_phone", .str subject.callerPhone)]

/-- `create_ws_token`; `none` where it raises. -/
def createWsToken (secret : String) (subject : TokenSubject) (ttlSeconds : ℤ)
    (draws : TokenDraws) : Option String :=
  if secret = "" then none
  else
    let header := b64urlEncode (libs.jsonBytes (.dict [("alg", .str "HS256"), ("typ", .str "WS")]))
    let payload := b64urlEncode
      (libs.jsonBytes (.dict (tokenPayload subject (draws.now + ttlSeconds) draws.jti)))
    let signature := b64urlEncode (libs.hmacSha256 secret (header ++ "." ++ payload))
    some (header ++ "." ++ payload ++ "." ++ signature)

/-- A client of the gateway, as far as its tokens depend on it. -/
structure GatewayClient where
  wsSecret : String
  userId : String
  tenantId : String
  companyId : String
  callerPhone : String

namespace GatewayClient

/-- `_TOKEN_TTL` -/
def TOKEN_TTL : ℤ := 300

/-- `_b64url` in `_mint_token`. -/
def b64url (data : Bytes) : String := String.ofList (Base64.encodeUrlsafe data)

/-- `_mint_token`; `none` where it raises. -/
def mintToken (libs : TokenLibs) (client : GatewayClient) (draws : TokenDraws) : Option String :=
  if client.wsSecret = "" then none
  else
    let header := b64url (libs.jsonBytes (.dict [("alg", .str "HS256"), ("typ", .str "WS")]))
    let payload := b64url (libs.jsonBytes (.dict
      [("sub", .str client.userId), ("tenant_id", .str client.tenantId),
        ("company_id", .str client.companyId), ("exp", .float (.fin (draws.now + TOKEN_TTL))),
        ("jti", .str draws.jti), ("caller_phone", .str client.callerPhone)]))
    let signature := b64url (libs.hmacSha256 client.wsSecret (header ++ "." ++ payload))
    some (header ++ "." ++ payload ++ "." ++ signature)

def subject (client : GatewayClient) : TokenSubject :=
  ⟨client.userId, client.tenantId, client.companyId, client.callerPhone⟩

/-- **In step**: the client mints what the server creates for a lifetime of five minutes. -/
theorem mintToken_eq_createWsToken (libs : TokenLibs) (client : GatewayClient)
    (draws : TokenDraws) : client.mintToken libs draws = createWsToken libs client.wsSecret
    client.subject TOKEN_TTL draws := rfl

end GatewayClient

/-! ## Reading them -/

theorem b64urlDecode_encode (data : Bytes) : b64urlDecode (b64urlEncode data) = some data := by
  rw [b64urlDecode, b64urlEncode, String.toList_ofList, Base64.decodeUrlsafe_pad_encodeUrlsafe]

theorem split_segments (header payload signature : Bytes) :
    PyStr.split '.' (b64urlEncode header ++ "." ++ b64urlEncode payload ++ "." ++
      b64urlEncode signature) =
      [b64urlEncode header, b64urlEncode payload, b64urlEncode signature] := by
  have hjoin : b64urlEncode header ++ "." ++ b64urlEncode payload ++ "." ++ b64urlEncode signature =
      String.ofList (['.'].intercalate [Base64.encodeUrlsafe header, Base64.encodeUrlsafe payload,
        Base64.encodeUrlsafe signature]) := by
    rw [← String.toList_inj]
    simp only [b64urlEncode, String.toList_append, String.toList_ofList, List.intercalate,
      List.intersperse, List.flatten_cons, List.flatten_nil, List.append_assoc, List.append_nil]
    rfl
  rw [hjoin, PyStr.split_intercalate]
  · rfl
  · intro l hl
    simp only [List.mem_cons, List.not_mem_nil, or_false] at hl
    rcases hl with rfl | rfl | rfl
    · exact Base64.dot_not_mem_encodeUrlsafe header
    · exact Base64.dot_not_mem_encodeUrlsafe payload
    · exact Base64.dot_not_mem_encodeUrlsafe signature
  · exact List.cons_ne_nil _ _

theorem jti_ne_empty (draws : TokenDraws) : draws.jti ≠ "" := by
  intro hempty
  have hbytes : List.ofFn draws.random ≠ [] := by
    intro hnil
    have hlength := congrArg List.length hnil
    rw [List.length_ofFn] at hlength
    cases hlength
  refine Base64.encodeUrlsafe_ne_nil hbytes ?_
  have hchars := congrArg String.toList hempty
  rw [TokenDraws.jti, b64urlEncode, String.toList_ofList] at hchars
  exact hchars

/-- The claims a token is minted with. -/
def mintedClaims (subject : TokenSubject) (exp : ℚ) (jti : String) : WsTokenClaims where
  sub := .str subject.userId
  tenantId := .str subject.tenantId
  companyId := .str subject.companyId
  exp := .fin exp
  jti := .str jti
  callerPhone := .str subject.callerPhone

theorem checkWsClaims_tokenPayload (subject : TokenSubject) {exp now : ℚ} {jti : String}
    (hlive : now ≤ exp) (hjti : jti ≠ "") :
    checkWsClaims (tokenPayload subject exp jti) subject.userId now =
      .ok (mintedClaims subject exp jti) := by
  have hgt : (PyFloat.fin now).gt (.fin exp) = false := by
    rw [PyFloat.gt_fin, decide_eq_false_iff_not]
    exact not_lt.2 hlive
  have hsub : (PyValue.str subject.userId).eqStr subject.userId = true := by
    rw [PyValue.eqStr, PyValue.str?_str, beq_self_eq_true]
  have htruthy : (PyValue.str jti).truthy = true := by
    rw [PyValue.truthy_str]
    exact decide_eq_true hjti
  show (if (PyFloat.fin now).gt (.fin exp) = true then Except.error WsRefusal.none
    else if (PyValue.str subject.userId).eqStr subject.userId = false then Except.error
    WsRefusal.none else if (PyValue.str jti).truthy = false then Except.error WsRefusal.none
    else Except.ok (mintedClaims subject exp jti)) = _
  simp only [hgt, hsub, htruthy, Bool.false_eq_true, Bool.true_eq_false, if_false]

/-- **A created token passes the checks**, within its lifetime and for its own user. -/
theorem checkWsToken_createWsToken {libs : TokenLibs} {secret token : String}
    {subject : TokenSubject} {ttlSeconds : ℤ} {draws : TokenDraws} {now : ℚ}
    (hjson : libs.RoundTrips (.dict (tokenPayload subject (draws.now + ttlSeconds) draws.jti)))
    (htoken : createWsToken libs secret subject ttlSeconds draws = some token)
    (hlive : now ≤ draws.now + ttlSeconds) :
    checkWsToken libs.codec secret token subject.userId now =
      .ok (mintedClaims subject (draws.now + ttlSeconds) draws.jti) := by
  rw [createWsToken] at htoken
  by_cases hsecret : secret = ""
  · rw [if_pos hsecret] at htoken
    cases htoken
  · rw [if_neg hsecret, Option.some_inj] at htoken
    have hsplit := split_segments
      (libs.jsonBytes (.dict [("alg", .str "HS256"), ("typ", .str "WS")]))
      (libs.jsonBytes (.dict (tokenPayload subject (draws.now + ttlSeconds) draws.jti)))
      (libs.hmacSha256 secret (b64urlEncode (libs.jsonBytes (.dict [("alg", .str "HS256"),
        ("typ", .str "WS")])) ++ "." ++ b64urlEncode (libs.jsonBytes (.dict (tokenPayload subject
          (draws.now + ttlSeconds) draws.jti)))))
    rw [htoken] at hsplit
    have hne : token ≠ "" := by
      intro hempty
      have hone : (PyStr.split '.' "").length = 1 := by decide
      rw [hempty] at hsplit
      rw [hsplit] at hone
      simp only [List.length_cons, List.length_nil] at hone
      omega
    rw [checkWsToken, if_neg (not_or.2 ⟨hsecret, hne⟩), hsplit]
    rw [TokenLibs.RoundTrips] at hjson
    simp only [TokenLibs.codec, b64urlDecode_encode, Option.bind_some, hjson, ne_eq,
      not_true_eq_false, if_false]
    exact checkWsClaims_tokenPayload subject hlive (jti_ne_empty draws)

/-! ## Accepting them -/

/-- What survives a pruning was in the table. -/
theorem get?_of_pruneUsedJtis {now : ℚ} {used : UsedJtis} {jti : JtiKey} {exp : PyFloat}
    (h : (pruneUsedJtis now used).get? jti = some exp) : used.get? jti = some exp := by
  have hlive : (dropExpired now used).get? jti = some exp := by
    rw [pruneUsedJtis] at h
    split_ifs at h
    · rw [Dict.get?_eraseAll] at h
      split_ifs at h
      exact h
    · exact h
  rw [dropExpired, Dict.get?_filter] at hlive
  exact Option.eq_some_of_filter_eq_some hlive

/-- **The table holds accepted ids only.** -/
theorem exists_accepts_of_get? (codec : WsCodec) (secret : String) (calls : List WsCall) :
    ∀ jti exp, ((wsAuthMachine codec secret).run .empty calls).get? jti = some exp →
      ∃ t ∈ (wsAuthMachine codec secret).trace .empty calls, ∃ exp, Accepts t jti exp := by
  refine (wsAuthMachine codec secret).trace_induction
    (C := fun log used => ∀ jti exp, used.get? jti = some exp → ∃ t ∈ log, ∃ exp, Accepts t jti exp)
    (fun jti exp h => ?_) (fun log used call _ ih jti exp h => ?_)
  · rw [Dict.get?_empty] at h
    cases h
  · have hearlier : used.get? jti = some exp →
        ∃ t ∈ log ++ [(wsAuthMachine codec secret).entry used call], ∃ exp, Accepts t jti exp := by
      intro hused
      obtain ⟨t, ht, haccepts⟩ := ih jti exp hused
      exact ⟨t, List.mem_append_left _ ht, haccepts⟩
    cases hcheck : checkWsToken codec secret call.token call.expectedUserId call.checkedAt with
    | error refusal =>
      have hnext : (wsAuthMachine codec secret).next used call = used := by
        simp only [EventMachine.next, wsAuthMachine, hcheck]
      rw [hnext] at h
      exact hearlier h
    | ok claims =>
      have hpruned : (pruneUsedJtis call.prunedAt used).get? jti = some exp →
          ∃ t ∈ log ++ [(wsAuthMachine codec secret).entry used call], ∃ exp, Accepts t jti exp :=
        fun hpruned => hearlier (get?_of_pruneUsedJtis hpruned)
      cases hkey : jtiKey? call.object claims.jti with
      | none =>
        have hnext : (wsAuthMachine codec secret).next used call = pruneUsedJtis call.prunedAt
            used := by
          simp only [EventMachine.next, wsAuthMachine, hcheck, consumeWsToken, hkey]
        rw [hnext] at h
        exact hpruned h
      | some key =>
        cases hfree : (pruneUsedJtis call.prunedAt used).get? key with
        | some taken =>
          have hnext : (wsAuthMachine codec secret).next used call =
              pruneUsedJtis call.prunedAt used := by
            simp only [EventMachine.next, wsAuthMachine, hcheck, consumeWsToken, hkey,
              Dict.contains, hfree, Option.isSome_some, if_true]
          rw [hnext] at h
          exact hpruned h
        | none =>
          obtain ⟨hnext, haccepts⟩ := wsAuth_accepts hcheck hkey hfree
          by_cases hsame : jti = key
          · rw [hsame]
            exact ⟨_, List.mem_append_right log List.mem_cons_self, _, haccepts⟩
          · rw [hnext, Dict.get?_set_of_ne _ _ hsame] at h
            exact hpruned h

/-- **A token yields claims**: after any calls that have not accepted its id, a call with the token,
    for this user and up to its expiry, returns these claims. -/
def YieldsClaims (libs : TokenLibs) (secret token : String) (subject : TokenSubject) (exp : ℚ)
    (jti : String) : Prop :=
  ∀ (calls : List WsCall) (call : WsCall), call.token = token →
    call.expectedUserId = subject.userId → call.checkedAt ≤ exp →
    (∀ t ∈ (wsAuthMachine libs.codec secret).trace .empty calls, ∀ exp,
      ¬ Accepts t (.str jti) exp) → ((wsAuthMachine libs.codec secret).entry
        ((wsAuthMachine libs.codec secret).run .empty calls) call).answer =
        .ok (mintedClaims subject exp jti)

/-- **A created token is accepted once.** -/
theorem createWsToken_yields {libs : TokenLibs} {secret : String} (subject : TokenSubject)
    (ttlSeconds : ℤ) (draws : TokenDraws) (hsecret : secret ≠ "")
    (hjson : libs.RoundTrips (.dict (tokenPayload subject (draws.now + ttlSeconds) draws.jti))) :
    ∃ token, createWsToken libs secret subject ttlSeconds draws = some token ∧
      YieldsClaims libs secret token subject (draws.now + ttlSeconds) draws.jti := by
  obtain ⟨token, htoken⟩ : ∃ token, createWsToken libs secret subject ttlSeconds draws =
      some token :=
    ⟨_, if_neg hsecret⟩
  refine ⟨token, htoken, fun calls call hcall huser hlive honce => ?_⟩
  have hcheck := checkWsToken_createWsToken hjson htoken hlive
  rw [← hcall, ← huser] at hcheck
  have hfree : (pruneUsedJtis call.prunedAt
      ((wsAuthMachine libs.codec secret).run .empty calls)).get? (.str draws.jti) = none := by
    rw [Option.eq_none_iff_forall_ne_some]
    intro exp hexp
    obtain ⟨t, ht, exp', haccepts⟩ := exists_accepts_of_get? libs.codec secret calls _ _
      (get?_of_pruneUsedJtis hexp)
    exact honce t ht exp' haccepts
  have hkey : jtiKey? call.object (mintedClaims subject (draws.now + ttlSeconds) draws.jti).jti =
      some (.str draws.jti) := rfl
  generalize (wsAuthMachine libs.codec secret).run .empty calls = used at hfree ⊢
  simp only [EventMachine.entry, wsAuthMachine, hcheck, consumeWsToken, hkey, Dict.contains, hfree,
    Option.isSome_none, Bool.false_eq_true, if_false]

/-! ## Other users -/

/-- The user a token names. -/
def tokenSub (codec : WsCodec) (token : String) : Option PyValue :=
  match PyStr.split '.' token with
  | [_, payload, _] => match (codec.b64urlDecode payload).bind codec.jsonLoads with
    | some (.dict claims) => some (PyValue.lookupOr claims "sub" (.str ""))
    | _ => none
  | _ => none

theorem sub_of_checkWsClaims {payload : List (String × PyValue)} {user : String} {now : ℚ}
    {claims : WsTokenClaims} (h : checkWsClaims payload user now = .ok claims) :
    PyValue.lookupOr payload "sub" (.str "") = .str user := by
  rw [checkWsClaims] at h
  cases hexp : parseExp (PyValue.lookupOr payload "exp" (.int 0)) with
  | error refusal =>
    rw [hexp] at h
    cases h
  | ok exp =>
    rw [hexp] at h
    dsimp only at h
    by_contra hother
    have hsub : (PyValue.lookupOr payload "sub" (.str "")).eqStr user = false := by
      rw [← Bool.not_eq_true, PyValue.eqStr, beq_iff_eq]
      exact fun hsame => hother (PyValue.str?_eq_some hsame)
    rw [if_pos hsub] at h
    split_ifs at h

theorem tokenSub_of_checkWsToken {codec : WsCodec} {secret token user : String} {now : ℚ}
    {claims : WsTokenClaims} (h : checkWsToken codec secret token user now = .ok claims) :
    tokenSub codec token = some (.str user) := by
  rw [checkWsToken] at h
  rw [tokenSub]
  by_cases hempty : secret = "" ∨ token = ""
  · rw [if_pos hempty] at h
    cases h
  · rw [if_neg hempty] at h
    generalize PyStr.split '.' token = parts at h ⊢
    rcases parts with _ | ⟨header, _ | ⟨payload, _ | ⟨sig, _ | ⟨rest, parts⟩⟩⟩⟩
    · cases h
    · cases h
    · cases h
    · dsimp only at h ⊢
      generalize (codec.b64urlDecode payload).bind codec.jsonLoads = loaded at h ⊢
      cases hsig : codec.b64urlDecode sig with
      | none =>
        rw [hsig] at h
        cases h
      | some actualSig =>
        rw [hsig] at h
        dsimp only at h
        by_cases hforged : codec.hmacSha256 secret (header ++ "." ++ payload) ≠ actualSig
        · rw [if_pos hforged] at h
          cases h
        · rw [if_neg hforged] at h
          rcases loaded with _ | loaded
          · cases h
          · cases loaded with
            | dict entries => exact congrArg some (sub_of_checkWsClaims h)
            | _ => cases h
    · cases h

/-- **Another user** is turned down: whatever tokens were used, the call returns no claims. -/
theorem wsAuth_otherUser {codec : WsCodec} {secret : String} (used : UsedJtis) {call : WsCall}
    (h : tokenSub codec call.token ≠ some (.str call.expectedUserId)) :
    ∃ refusal, (wsAuthMachine codec secret).step used call = (used, .error refusal) := by
  cases hcheck : checkWsToken codec secret call.token call.expectedUserId call.checkedAt with
  | error refusal =>
    refine ⟨refusal, ?_⟩
    simp only [wsAuthMachine, hcheck]
  | ok claims => exact absurd (tokenSub_of_checkWsToken hcheck) h

/-- **Token agreement.** For every subject and every non-empty shared secret, the token the gateway
    client mints and the token the server creates both yield exactly the values they were made with,
    to their own user, within their lifetime and as long as their id was not accepted before; and a
    call that expects another user than the one its token names is turned down and changes nothing.
    JSON is assumed to round-trip on the two payloads. -/
theorem tokens_agree (libs : TokenLibs) (secret : String) (subject : TokenSubject) (ttlSeconds : ℤ)
    (draws : TokenDraws) (hsecret : secret ≠ "")
    (hmint : libs.RoundTrips
      (.dict (tokenPayload subject (draws.now + GatewayClient.TOKEN_TTL) draws.jti)))
    (hcreate : libs.RoundTrips (.dict (tokenPayload subject (draws.now + ttlSeconds) draws.jti))) :
    (∃ token, GatewayClient.mintToken libs
        ⟨secret, subject.userId, subject.tenantId, subject.companyId, subject.callerPhone⟩ draws =
        some token ∧
      YieldsClaims libs secret token subject (draws.now + GatewayClient.TOKEN_TTL) draws.jti) ∧
    (∃ token, createWsToken libs secret subject ttlSeconds draws = some token ∧
      YieldsClaims libs secret token subject (draws.now + ttlSeconds) draws.jti) ∧
    ∀ (used : UsedJtis) (call : WsCall),
      tokenSub libs.codec call.token ≠ some (.str call.expectedUserId) →
        ∃ refusal, (wsAuthMachine libs.codec secret).step used call = (used, .error refusal) := by
  refine ⟨?_, createWsToken_yields subject ttlSeconds draws hsecret hcreate,
    fun used call h => wsAuth_otherUser used h⟩
  rw [GatewayClient.mintToken_eq_createWsToken]
  exact createWsToken_yields subject GatewayClient.TOKEN_TTL draws hsecret hmint

/-- The subject of a short token. -/
def shortSubject : TokenSubject := ⟨"u", "t", "c", "+1"⟩

/-- The epoch, and no randomness. -/
def zeroDraws : TokenDraws := ⟨0, fun _ => 0⟩

/-- JSON and HMAC as they are for the tokens of that subject with the secret `s`. -/
def shortLibs : TokenLibs where
  hmacSha256 _ _ :=
    [152, 225, 202, 72, 154, 129, 230, 230, 111, 227, 39, 34, 143, 167, 75, 98, 203, 140, 132, 164,
      106, 139, 49, 128, 252, 88, 210, 43, 248, 231, 96, 81]
  jsonDumps
    | .dict [("alg", _), _] => "\x7b\"alg\": \"HS256\", \"typ\": \"WS\"\x7d"
    | _ => "\x7b\"sub\": \"u\", \"tenant_id\": \"t\", \"company_id\": \"c\", \"exp\": 300.0, " ++
      "\"jti\": \"AAAAAAAAAAAAAAAAAAAAAA\", \"caller_phone\": \"+1\"\x7d"
  jsonLoads _ := some (.dict (tokenPayload shortSubject 300 zeroDraws.jti))

theorem shortTokens_agree :
    ((∃ token, GatewayClient.mintToken shortLibs ⟨"s", "u", "t", "c", "+1"⟩ zeroDraws = some token ∧
      YieldsClaims shortLibs "s" token shortSubject (0 + GatewayClient.TOKEN_TTL) zeroDraws.jti) ∧
    (∃ token, createWsToken shortLibs "s" shortSubject 300 zeroDraws = some token ∧
      YieldsClaims shortLibs "s" token shortSubject (0 + (300 : ℤ)) zeroDraws.jti)) := by
  have hexp : zeroDraws.now + ((300 : ℤ) : ℚ) = 300 := by norm_num [zeroDraws]
  have hroundTrip : shortLibs.RoundTrips
      (.dict (tokenPayload shortSubject (zeroDraws.now + ((300 : ℤ) : ℚ)) zeroDraws.jti)) := by
    rw [hexp]
    rfl
  have hagree :=
    tokens_agree shortLibs "s" shortSubject 300 zeroDraws (by decide) hroundTrip hroundTrip
  exact ⟨hagree.1, hagree.2.1⟩

end Ekaette
