import Ekaette.Sip.ChallengeFreshness
import Ekaette.Sip.HeaderLines

set_option autoImplicit false

/-! # Responses keep the transaction headers

A client matches a response with its request by the Via, From, Call-ID and CSeq headers. Both
servers copy one value of each; this module says for which messages that is every value. -/

namespace Ekaette

/-- The headers a client matches a response by. -/
def transactionHeaders : List String := ["via", "from", "call-id", "cseq"]

/-- **A response carries the transaction**: all own values of these headers, in their order. -/
def CarriesTransaction (own carried : String → List String) : Prop :=
  ∀ name ∈ transactionHeaders, (own name).Sublist (carried name)

theorem sublist_lastD_iff (own : List String) : own.Sublist [own.getLastD ""] ↔ own.length ≤ 1 := by
  rw [List.sublist_singleton]
  constructor
  · rintro (h | h)
    · rw [h]
      exact Nat.zero_le 1
    · rw [h]
      exact le_rfl
  · intro h
    cases own with
    | nil => exact .inl rfl
    | cons v own =>
      have hnil : own = [] := List.eq_nil_of_length_eq_zero (by rw [List.length_cons] at h; omega)
      rw [hnil]
      exact .inr rfl

/-! ## The TLS server -/

/-- What a response says of a header. -/
def carriedBy (resp : SipMessage) (name : String) : List String := (resp.headers.get? name).toList

/-- A response copies the transaction headers, but for the Call-ID it is given. -/
structure CopiesTransaction (msg : SipMessage) (callId : String) (resp : SipMessage) : Prop where
  via : resp.headers.get? "via" = some (msg.header "via")
  fromHeader : resp.headers.get? "from" = some (msg.header "from")
  callId : resp.headers.get? "call-id" = some callId
  cseq : resp.headers.get? "cseq" = some (msg.header "cseq")

variable (msg : SipMessage)

theorem copies_buildTransactionResponse (statusCode : ℕ) (reason : String)
    (callId localTag : Option String) :
    CopiesTransaction msg (callId.getD (msg.header "call-id"))
      (buildTransactionResponse msg statusCode reason callId localTag) := by
  constructor <;> simp [buildTransactionResponse, Dict.ofList]

theorem copies_givenCallId (statusCode : ℕ) (reason callId : String) (localTag : Option String) :
    CopiesTransaction msg callId
      (buildTransactionResponse msg statusCode reason (some callId) localTag) :=
  copies_buildTransactionResponse msg statusCode reason (some callId) localTag

theorem copies_build407Response (realm : String) (nonce : HexNonce)
    (tag : String) : CopiesTransaction msg (msg.header "call-id")
    (build407Response msg realm nonce tag) := by
  constructor <;> simp [build407Response, Dict.ofList]

theorem copies_build200Ok (sdpBody localContact tag : String) :
    CopiesTransaction msg (msg.header "call-id") (build200Ok msg sdpBody localContact tag) := by
  constructor <;> simp [build200Ok, Dict.ofList]

/-- The Call-ID of the request is either copied or resolved. -/
def SentCallId (callId : String) : Prop :=
  callId = msg.header "call-id" ∨ callId = msg.callId

theorem copies_rejectInvite {msg resp : SipMessage} {draws : MessageDraws} {statusCode : ℕ}
    {reason : String} (h : rejectInvite msg draws statusCode reason = .response resp) :
    CopiesTransaction msg msg.callId resp := by
  rw [rejectInvite, WaAnswer.response.injEq] at h
  rw [← h]
  exact copies_givenCallId msg statusCode reason msg.callId (some draws.tag)

theorem copies_handleInvite {cfg : WaConfig} {msg resp : SipMessage} {draws : MessageDraws}
    {s : WaServer} (h : (handleInvite cfg msg draws s).2 = .response resp) :
    ∃ callId, CopiesTransaction msg callId resp ∧ SentCallId msg callId := by
  cases inviteHandled cfg msg draws s with
  | challenged hauth hs hanswer =>
    rw [hanswer, WaAnswer.response.injEq] at h
    rw [← h]
    exact ⟨_, copies_build407Response msg cfg.sipHost draws.nonce draws.tag, .inl rfl⟩
  | refused hs hanswer hok hrefused =>
    rcases hanswer with hanswer | ⟨statusCode, reason, hanswer⟩
    · cases hanswer.symm.trans h
    · exact ⟨msg.callId, copies_rejectInvite (hanswer.symm.trans h), .inr rfl⟩
  | accepted localContact sdpBody haccept hsetup hs hanswer =>
    rw [hanswer, WaAnswer.response.injEq] at h
    rw [← h]
    exact ⟨_, copies_build200Ok msg sdpBody localContact draws.tag, .inl rfl⟩

theorem copies_handleBye (s : WaServer) :
    ∃ resp, (handleBye msg s).2 = .response resp ∧ CopiesTransaction msg msg.callId resp := by
  refine ⟨_, rfl, ?_⟩
  constructor <;> simp [Dict.ofList]

/-- The requests whose responses may carry a resolved Call-ID. -/
def ResolvesCallId (cfg : WaConfig) (msg : SipMessage) (peerIp : String) : Prop :=
  cfg.checkIpAllowed peerIp = true ∧ (msg.method = some "INVITE" ∨ msg.method = some "BYE")

/-- **Every response** copies the transaction headers; there is none to an ACK of an allowed
    peer. -/
theorem copies_handleSipMessage {cfg : WaConfig} {msg resp : SipMessage} {peerIp : String}
    {draws : MessageDraws} {s : WaServer}
    (h : (handleSipMessage cfg msg peerIp draws s).2 = .response resp) :
    ¬ (cfg.checkIpAllowed peerIp = true ∧ msg.method = some "ACK") ∧
      ∃ callId, CopiesTransaction msg callId resp ∧
        (callId = msg.header "call-id" ∨ ResolvesCallId cfg msg peerIp ∧ callId = msg.callId) := by
  rw [handleSipMessage] at h
  by_cases hblocked : cfg.checkIpAllowed peerIp = false
  · rw [if_pos hblocked] at h
    rw [← WaAnswer.response.inj h]
    refine ⟨fun hallowed => ?_, _, copies_buildTransactionResponse msg 403 "Forbidden" none _,
      .inl rfl⟩
    rw [hallowed.1] at hblocked
    exact absurd hblocked (by decide)
  · rw [if_neg hblocked] at h
    rw [Bool.not_eq_false] at hblocked
    by_cases hinvite : msg.method = some "INVITE"
    · rw [if_pos hinvite] at h
      obtain ⟨callId, hcopies, hsent⟩ := copies_handleInvite h
      refine ⟨fun hallowed => ?_, callId, hcopies,
        hsent.imp_right (fun hid => ⟨⟨hblocked, .inl hinvite⟩, hid⟩)⟩
      rw [hinvite] at hallowed
      exact absurd hallowed.2 (by decide)
    · rw [if_neg hinvite] at h
      by_cases hbye : msg.method = some "BYE"
      · rw [if_pos hbye] at h
        obtain ⟨resp', hresp', hcopies⟩ := copies_handleBye msg s
        rw [hresp', WaAnswer.response.injEq] at h
        rw [h] at hcopies
        refine ⟨fun hallowed => ?_, msg.callId, hcopies, .inr ⟨⟨hblocked, .inr hbye⟩, rfl⟩⟩
        rw [hbye] at hallowed
        exact absurd hallowed.2 (by decide)
      · rw [if_neg hbye] at h
        by_cases hack : msg.method = some "ACK"
        · rw [if_pos hack] at h
          cases h
        · rw [if_neg hack] at h
          rw [← WaAnswer.response.inj h]
          exact ⟨fun hallowed => hack hallowed.2, _,
            copies_buildTransactionResponse msg 405 "Method Not Allowed" none none, .inl rfl⟩

/-- A server that is full. -/
def fullServer (calls : ℕ) : WaServer :=
  { WaServer.empty with
    activeSessions :=
      ⟨(List.range calls).map (fun i => (String.ofList (List.replicate i 'x'), i)), by
        rw [List.map_map]
        refine List.Nodup.map (fun i j hij => ?_) List.nodup_range
        have hlist := congrArg (fun id => id.toList.length) hij
        simpa using hlist⟩ }

theorem fullServer_size (calls : ℕ) : (fullServer calls).activeSessions.size = calls := by
  rw [fullServer, Dict.size, List.length_map, List.length_range]

/-- **Some response** is sent for all other messages, with the resolved Call-ID where one is
    resolved. -/
theorem responds_handleSipMessage (cfg : WaConfig) (msg : SipMessage) (peerIp : String)
    (hack : ¬ (cfg.checkIpAllowed peerIp = true ∧ msg.method = some "ACK")) :
    ∃ draws s resp, (handleSipMessage cfg msg peerIp draws s).2 = .response resp ∧
      (ResolvesCallId cfg msg peerIp → CopiesTransaction msg msg.callId resp) := by
  let draws : MessageDraws := ⟨⟨"0", List.all_eq_true.1 (by decide), by decide⟩, "0", .fails⟩
  let s := fullServer cfg.maxConcurrentCalls
  by_cases hblocked : cfg.checkIpAllowed peerIp = false
  · refine ⟨draws, s, _, by rw [handleSipMessage, if_pos hblocked], fun hresolves => ?_⟩
    rw [hresolves.1] at hblocked
    exact absurd hblocked (by decide)
  · by_cases hinvite : msg.method = some "INVITE"
    · -- a full server rejects the call
      refine ⟨draws, s, _, ?_, fun _ => copies_givenCallId msg 503 "Service Unavailable" msg.callId
        (some draws.tag)⟩
      rw [handleSipMessage, if_neg hblocked, if_pos hinvite, handleInvite,
        if_pos (fullServer_size cfg.maxConcurrentCalls).ge, rejectInvite]
    · by_cases hbye : msg.method = some "BYE"
      · obtain ⟨resp, hresp, hcopies⟩ := copies_handleBye msg s
        refine ⟨draws, s, resp, ?_, fun _ => hcopies⟩
        rw [handleSipMessage, if_neg hblocked, if_neg hinvite, if_pos hbye, hresp]
      · refine ⟨draws, s, buildTransactionResponse msg 405 "Method Not Allowed" none none, ?_,
          fun hresolves => ?_⟩
        · rw [handleSipMessage, if_neg hblocked, if_neg hinvite, if_neg hbye,
            if_neg (fun h => hack ⟨by simpa using hblocked, h⟩)]
        · exact absurd hresolves.2 (not_or.2 ⟨hinvite, hbye⟩)

theorem strip_lastD_ownValues (py : StrMethods) (lines : List (List Char)) (name : String) :
    PyStr.strip ((ownValues py lines name).getLastD "") = (ownValues py lines name).getLastD
    "" := by
  rcases List.eq_nil_or_concat' (ownValues py lines name) with hown | ⟨init, last, hown⟩
  · rw [hown]
    rfl
  · have hlast : last ∈ ownValues py lines name := by
      rw [hown]
      exact List.mem_append_right init List.mem_cons_self
    obtain ⟨⟨spelled, value⟩, hmem, hvalue⟩ := List.mem_map.1 hlast
    rw [hown, List.getLastD_concat, ← hvalue]
    exact strip_of_mem_headerFields (List.mem_filter.1 hmem).1

/-- When the resolved Call-ID of a message is its own. -/
theorem callId_eq_iff {py : StrMethods} {stream rest : List UInt8} {msg : SipMessage}
    (h : parseMessage py stream = .ok (msg, rest)) :
    msg.callId = msg.header "call-id" ↔
      msg.header "x-wa-meta-wacid" = "" ∨ msg.header "x-wa-meta-wacid" = msg.header "call-id" := by
  have hstrip : ∀ name, PyStr.strip (msg.header name) = msg.header name := by
    intro name
    rw [header_of_parseMessage h]
    exact strip_lastD_ownValues py (messageLines stream) name
  rw [SipMessage.callId, resolveCallId, hstrip, hstrip]
  by_cases hmeta : msg.header "x-wa-meta-wacid" = ""
  · by_cases hid : msg.header "call-id" = ""
    · simp [hmeta, hid]
    · simp [hmeta, hid]
  · simp [hmeta]

/-- **The condition on the TLS server**: an ACK of an allowed peer, or a request other than an ACK
    with at most one value of each header, whose Call-ID is not replaced by another one. -/
def TlsTransactionKept (cfg : WaConfig) (stream : List UInt8) (msg : SipMessage) (peerIp : String) :
    Prop :=
  (cfg.checkIpAllowed peerIp = true ∧ msg.method = some "ACK") ∨
    (msg.isRequest = true ∧ msg.method ≠ some "ACK" ∧
      (∀ name ∈ transactionHeaders, (ownValues cfg.py (messageLines stream) name).length ≤ 1) ∧
      (ResolvesCallId cfg msg peerIp → ownValues cfg.py (messageLines stream) "call-id" = [] ∨
        msg.header "x-wa-meta-wacid" = "" ∨ msg.header "x-wa-meta-wacid" = msg.header "call-id"))

theorem carries_copy_iff {own : String → List String} {msg resp : SipMessage} {callId : String}
    (hheader : ∀ name, msg.header name = (own name).getLastD "")
    (hcopies : CopiesTransaction msg callId resp) :
    CarriesTransaction own (carriedBy resp) ↔
      (∀ name ∈ transactionHeaders, (own name).length ≤ 1) ∧
        (own "call-id" = [] ∨ callId = msg.header "call-id") := by
  have hsame : ∀ name, (own name).Sublist [msg.header name] ↔ (own name).length ≤ 1 := by
    intro name
    rw [hheader]
    exact sublist_lastD_iff (own name)
  have hid : (own "call-id").Sublist [callId] ↔ (own "call-id").length ≤ 1 ∧
      (own "call-id" = [] ∨ callId = msg.header "call-id") := by
    constructor
    · intro hsub
      rcases List.sublist_singleton.1 hsub with hnone | hone
      · exact ⟨by rw [hnone]; exact Nat.zero_le 1, .inl hnone⟩
      · refine ⟨by rw [hone]; exact le_rfl, .inr ?_⟩
        rw [hheader, hone]
        rfl
    · rintro ⟨hlength, hnone | hsent⟩
      · rw [hnone]
        exact List.nil_sublist _
      · rw [hsent]
        exact (hsame "call-id").2 hlength
  have hcarried : ∀ {name value}, resp.headers.get? name = some value →
      carriedBy resp name = [value] := by
    intro name value hget
    rw [carriedBy, hget]
    rfl
  have hnames : ∀ P : String → Prop, (∀ name ∈ transactionHeaders, P name) ↔
      P "via" ∧ P "from" ∧ P "call-id" ∧ P "cseq" := by
    intro P
    simp [transactionHeaders]
  rw [CarriesTransaction, hnames, hnames, hcarried hcopies.via, hcarried hcopies.fromHeader,
    hcarried hcopies.callId, hcarried hcopies.cseq, hsame, hsame, hsame, hid]
  constructor
  · rintro ⟨hvia, hfrom, ⟨hcallId, hsent⟩, hcseq⟩
    exact ⟨⟨hvia, hfrom, hcallId, hcseq⟩, hsent⟩
  · rintro ⟨⟨hvia, hfrom, hcallId, hcseq⟩, hsent⟩
    exact ⟨hvia, hfrom, ⟨hcallId, hsent⟩, hcseq⟩

/-- **The TLS server keeps the transaction** of exactly these messages. -/
theorem tls_keepsTransaction_iff (cfg : WaConfig) {stream rest : List UInt8} {msg : SipMessage}
    (h : parseMessage cfg.py stream = .ok (msg, rest)) (peerIp : String) :
    (∀ draws s resp, (handleSipMessage cfg msg peerIp draws s).2 = .response resp →
      (msg.isRequest = true ∧ msg.method ≠ some "ACK") ∧
        CarriesTransaction (ownValues cfg.py (messageLines stream)) (carriedBy resp)) ↔
      TlsTransactionKept cfg stream msg peerIp := by
  have hheader : ∀ name, msg.header name = (ownValues cfg.py (messageLines stream) name).getLastD
      "" :=
    fun name => header_of_parseMessage h name
  constructor
  · intro hkept
    by_cases hack : cfg.checkIpAllowed peerIp = true ∧ msg.method = some "ACK"
    · exact .inl hack
    · obtain ⟨draws, s, resp, hresp, hresolved⟩ := responds_handleSipMessage cfg msg peerIp hack
      obtain ⟨⟨hrequest, hnotAck⟩, hcarries⟩ := hkept draws s resp hresp
      obtain ⟨-, callId, hcopies, -⟩ := copies_handleSipMessage hresp
      refine .inr ⟨hrequest, hnotAck, ((carries_copy_iff hheader hcopies).1 hcarries).1,
        fun hresolves => ?_⟩
      rw [← callId_eq_iff h]
      exact ((carries_copy_iff hheader (hresolved hresolves)).1 hcarries).2
  · intro hkept draws s resp hresp
    obtain ⟨hnotAllowedAck, callId, hcopies, hcallId⟩ := copies_handleSipMessage hresp
    rcases hkept with hack | ⟨hrequest, hnotAck, hone, hid⟩
    · exact absurd hack hnotAllowedAck
    · refine ⟨⟨hrequest, hnotAck⟩, (carries_copy_iff hheader hcopies).2 ⟨hone, ?_⟩⟩
      rcases hcallId with hsame | ⟨hresolves, hresolved⟩
      · exact .inr hsame
      · rw [hresolved, callId_eq_iff h]
        exact hid hresolves

/-! ## The UDP server -/

/-- The spellings of the transaction headers that the UDP server knows. -/
def knownSpellings : List (String × String) :=
  [("via", "Via"), ("from", "From"), ("call-id", "Call-ID"), ("cseq", "CSeq")]

theorem knownSpellings_subset : knownSpellings ⊆ dialogSpellings := by decide

/-- The headers of a response: each trimmed and on one line. -/
structure ReadHeaders (headers : DialogHeaders) : Prop where
  via : ReadValue headers.via
  fromHeader : ReadValue headers.fromHeader
  toHeader : ReadValue headers.toHeader
  callId : ReadValue headers.callId
  cseq : ReadValue headers.cseq

theorem readValue_picked (message canonical lower : String) :
    ReadValue (pickedValue (textLines message) canonical lower) := by
  have hlast : ∀ spelling, ReadValue ((spelledValues (textLines message) spelling).getLastD "") :=
    by
    intro spelling
    rcases List.eq_nil_or_concat' (spelledValues (textLines message) spelling) with hown |
      ⟨init, last, hown⟩
    · rw [hown]
      exact readValue_empty
    · have hmem : last ∈ spelledValues (textLines message) spelling := by
        rw [hown]
        exact List.mem_append_right init List.mem_cons_self
      obtain ⟨⟨spelled, value⟩, he, hvalue⟩ := List.mem_map.1 hmem
      rw [hown, List.getLastD_concat, ← hvalue]
      exact readValue_of_mem_headerFields (fun line hline => noCrlf_of_mem_textLines hline)
        (List.mem_filter.1 he).1
  rw [pickedValue]
  split_ifs with hempty
  · exact hlast lower
  · exact hlast canonical

variable (message : String)

/-- The headers the UDP server copies from a message. -/
def copiedHeaders : DialogHeaders :=
  coerceDialogHeaders (parseSipRequest message).headers

theorem readHeaders_copiedHeaders : ReadHeaders (copiedHeaders message) := by
  constructor <;>
    (rw [copiedHeaders, coerceDialogHeaders]; dsimp only; rw [headerOr_parseSipRequest];
      exact readValue_picked _ _ _)

/-- A header line of a response. -/
def responseLine (e : String × String) : List Char := e.1.toList ++ ([':', ' '] ++ e.2.toList)

theorem headerField_responseLine {name : String} (hname : ':' ∉ name.toList) (value : String) :
    headerField (responseLine (name, value)) = some (name, PyStr.strip value) := by
  have hsplit : PyStr.splitFirst [':'] (responseLine (name, value)) =
      some (name.toList, ' ' :: value.toList) :=
    PyStr.splitFirst_append hname (' ' :: value.toList)
  rw [headerField, hsplit, Option.map_some]
  dsimp only
  rw [String.ofList_toList, PyStr.stripChars_cons_space, ← PyStr.strip]

theorem noCrlf_responseLine {name value : String} (hname : '\r' ∉ name.toList)
    (hvalue : NoCrlf value.toList) : NoCrlf (responseLine (name, value)) := by
  refine noCrlf_append_left hname (noCrlf_append_left ?_ hvalue)
  decide

/-- The headers that describe the body of a response. -/
def contentFields : Option String → List (String × String)
  | none => [("Content-Length", "0")]
  | some sdp =>
    if sdp = "" then [("Content-Length", "0")]
    else [("Content-Type", "application/sdp"), ("Content-Length", toString sdp.length)]

/-- The headers of a response. -/
def responseFields (headers : DialogHeaders) (sdpBody : Option String) (contactUri tag : String) :
    List (String × String) :=
  [ ("Via", headers.via), ("From", headers.fromHeader),
    ("To", if PyStr.contains ";tag=" headers.toHeader then headers.toHeader
      else headers.toHeader ++ ";tag=" ++ tag),
    ("Call-ID", headers.callId), ("CSeq", headers.cseq), ("Contact", contactUri) ] ++
    contentFields sdpBody

/-- The status line of a response. -/
def statusLine (status : ℕ) (reason : String) : String :=
  "SIP/2.0 " ++ toString status ++ " " ++ reason

theorem buildSipResponse_eq (status : ℕ) (reason : String) (headers : DialogHeaders)
    (sdpBody : Option String) (contactUri tag : String) :
    buildSipResponse status reason headers sdpBody contactUri tag =
      linesMessage (statusLine status reason).toList
        ((responseFields headers sdpBody contactUri tag).map responseLine)
        ((sdpBody.getD "").toList) := by
  have hjoin : ∀ (first : List Char) (lines : List (List Char)) (body : List Char),
      crlf.intercalate (first :: (lines ++ [[], body])) =
        crlf.intercalate (first :: lines) ++ crlf ++ (crlf ++ body) := by
    intro first lines body
    induction lines generalizing first with
    | nil => simp [List.intercalate_cons_cons]
    | cons line lines ih =>
      rw [List.cons_append, List.intercalate_cons_cons, ih, List.intercalate_cons_cons]
      simp only [List.append_assoc]
  have hcrlf : "\r\n".toList = crlf := rfl
  have hline : ∀ name value : String, (name ++ ": " ++ value).toList = responseLine (name, value) :=
    by
    intro name value
    rw [String.toList_append, String.toList_append, responseLine, List.append_assoc]
    rfl
  have hfold : ∀ fields : List (String × String),
      fields.map responseLine = (fields.map (fun e => e.1 ++ ": " ++ e.2)).map String.toList := by
    intro fields
    rw [List.map_map]
    exact List.map_congr_left (fun e _ => (hline e.1 e.2).symm)
  have hbody : ∀ (fields : List (String × String)) (body : String),
      ("\r\n".intercalate (statusLine status reason :: (fields.map (fun e => e.1 ++ ": " ++ e.2) ++
        ["", body]))) = linesMessage (statusLine status reason).toList (fields.map responseLine)
          body.toList := by
    intro fields body
    rw [← String.toList_inj, linesMessage, String.toList_ofList, ← hjoin, toList_intercalate, hcrlf,
      List.map_cons, List.map_append, hfold]
    rfl
  rw [← hbody, buildSipResponse.eq_def]
  cases sdpBody with
  | none => rfl
  | some sdp =>
    by_cases hsdp : sdp = ""
    · rw [responseFields, contentFields, if_pos hsdp, hsdp]
      rfl
    · rw [responseFields, contentFields, if_neg hsdp]
      simp only [if_neg hsdp]
      rfl

theorem normalizeHeaderName_ascii (py : StrMethods) {name : String} (hname : PyStr.IsAscii name) :
    normalizeHeaderName py name = normalizeHeaderName .ascii name := by
  rw [normalizeHeaderName, normalizeHeaderName, py.lower_ascii name hname,
    StrMethods.ascii.lower_ascii name hname]

/-- A tag: hexadecimal digits. -/
def HexTag (tag : String) : Prop := ∀ c ∈ tag.toList, c.isAlphanum = true

theorem noCrlf_responseFields {headers : DialogHeaders} (hheaders : ReadHeaders headers)
    {contactUri tag : String} (hcontact : NoCrlf contactUri.toList) (htag : HexTag tag)
    (sdpBody : Option String) :
    ∀ e ∈ responseFields headers sdpBody contactUri tag,
      '\r' ∉ e.1.toList ∧ ':' ∉ e.1.toList ∧ NoCrlf e.2.toList := by
  have hto : NoCrlf (if PyStr.contains ";tag=" headers.toHeader then headers.toHeader
      else headers.toHeader ++ ";tag=" ++ tag).toList := by
    split_ifs
    · exact hheaders.toHeader.noCrlf
    · rw [String.toList_append, String.toList_append, List.append_assoc]
      refine noCrlf_append_right hheaders.toHeader.noCrlf (fun hmem => ?_)
      rcases List.mem_append.1 hmem with hmark | htag'
      · exact absurd hmark (by decide)
      · exact absurd (htag _ htag') (by decide)
  have hshort : ∀ s : String, '\r' ∉ s.toList → NoCrlf s.toList :=
    fun s hs hcontains => hs (hcontains.subset List.mem_cons_self)
  have hfield : ∀ name value : String, ('\r' ∉ name.toList ∧ ':' ∉ name.toList) →
      NoCrlf value.toList → '\r' ∉ (name, value).1.toList ∧ ':' ∉ (name, value).1.toList ∧
        NoCrlf (name, value).2.toList :=
    fun name value hname hvalue => ⟨hname.1, hname.2, hvalue⟩
  have hlength : ∀ value : String, '\r' ∉ value.toList →
      ∀ e ∈ [("Content-Length", value)],
        '\r' ∉ e.1.toList ∧ ':' ∉ e.1.toList ∧ NoCrlf e.2.toList := by
    intro value hvalue
    rw [List.forall_mem_singleton]
    exact hfield "Content-Length" value (by decide) (hshort value hvalue)
  have hcontent : ∀ e ∈ contentFields sdpBody,
      '\r' ∉ e.1.toList ∧ ':' ∉ e.1.toList ∧ NoCrlf e.2.toList := by
    cases sdpBody with
    | none => exact hlength "0" (by decide)
    | some sdp =>
      rw [contentFields]
      split_ifs
      · exact hlength "0" (by decide)
      · rw [List.forall_mem_cons]
        exact ⟨hfield "Content-Type" "application/sdp" (by decide) (hshort _ (by decide)),
          hlength (toString sdp.length) (digits_wire sdp.length).2.1⟩
  intro e he
  rw [responseFields, List.mem_append] at he
  rcases he with he | he
  · simp only [List.mem_cons, List.not_mem_nil, or_false] at he
    rcases he with rfl | rfl | rfl | rfl | rfl | rfl
    · exact hfield "Via" headers.via (by decide) hheaders.via.noCrlf
    · exact hfield "From" headers.fromHeader (by decide) hheaders.fromHeader.noCrlf
    · exact hfield "To" _ (by decide) hto
    · exact hfield "Call-ID" headers.callId (by decide) hheaders.callId.noCrlf
    · exact hfield "CSeq" headers.cseq (by decide) hheaders.cseq.noCrlf
    · exact hfield "Contact" contactUri (by decide) hcontact
  · exact hcontent e he

theorem headerFields_buildSipResponse {headers : DialogHeaders} (hheaders : ReadHeaders headers)
    {contactUri tag : String} (hcontact : NoCrlf contactUri.toList) (htag : HexTag tag) (status : ℕ)
    {reason : String} (hreason : '\r' ∉ reason.toList) (sdpBody : Option String) :
    headerFields (textLines (buildSipResponse status reason headers sdpBody contactUri tag)) =
      (responseFields headers sdpBody contactUri tag).map (fun e => (e.1, PyStr.strip e.2)) := by
  have hfields := noCrlf_responseFields hheaders hcontact htag sdpBody
  have hread : ∀ fields : List (String × String), (∀ e ∈ fields, ':' ∉ e.1.toList) →
      headerFields (fields.map responseLine) = fields.map (fun e => (e.1, PyStr.strip e.2)) := by
    intro fields hcolon
    induction fields with
    | nil => rfl
    | cons e fields ih =>
      rw [headerFields, List.map_cons, List.filterMap_cons,
        headerField_responseLine (hcolon e List.mem_cons_self), ← headerFields,
        ih (fun e' he' => hcolon e' (List.mem_cons_of_mem e he'))]
      rfl
  rw [buildSipResponse_eq, textLines_linesMessage ?_ ?_, hread]
  · exact fun e he => (hfields e he).2.1
  · rw [List.forall_mem_cons, List.forall_mem_map]
    refine ⟨fun hcontains => ?_, fun e he => noCrlf_responseLine (hfields e he).1
      (hfields e he).2.2⟩
    have hcr : '\r' ∈ (statusLine status reason).toList := hcontains.subset List.mem_cons_self
    rw [statusLine, String.toList_append, String.toList_append, String.toList_append,
      List.mem_append, List.mem_append, List.mem_append] at hcr
    rcases hcr with ((hcr | hcr) | hcr) | hcr
    · exact absurd hcr (by decide)
    · exact (digits_wire status).2.1 hcr
    · exact absurd hcr (by decide)
    · exact hreason hcr
  · rw [List.forall_mem_map]
    intro e _ hnil
    have hlength := congrArg List.length hnil
    rw [responseLine, List.length_append, List.length_append] at hlength
    simp at hlength

/-- The value of a header that is copied. -/
def DialogHeaders.copied (headers : DialogHeaders) (name : String) : String :=
  if name = "via" then headers.via
  else if name = "from" then headers.fromHeader
  else if name = "call-id" then headers.callId
  else headers.cseq

/-- **What a response of the UDP server carries**: one value of each header. -/
theorem ownValues_buildSipResponse (py : StrMethods) {headers : DialogHeaders}
    (hheaders : ReadHeaders headers) {contactUri tag : String} (hcontact : NoCrlf contactUri.toList)
    (htag : HexTag tag) (status : ℕ) {reason : String} (hreason : '\r' ∉ reason.toList)
    (sdpBody : Option String) {name : String} (hname : name ∈ transactionHeaders) :
    ownValues py (textLines (buildSipResponse status reason headers sdpBody contactUri tag)) name =
      [headers.copied name] := by
  have hnormal : ∀ e ∈ [("Via", "via"), ("From", "from"), ("To", "to"), ("Call-ID", "call-id"),
      ("CSeq", "cseq"), ("Contact", "contact"), ("Content-Type", "content-type"),
      ("Content-Length", "content-length")], normalizeHeaderName py e.1 = e.2 := by
    intro e he
    have hall : ∀ e ∈ [("Via", "via"), ("From", "from"), ("To", "to"), ("Call-ID", "call-id"),
        ("CSeq", "cseq"), ("Contact", "contact"), ("Content-Type", "content-type"),
        ("Content-Length", "content-length")],
        PyStr.IsAscii e.1 ∧ normalizeHeaderName .ascii e.1 = e.2 := by decide
    rw [normalizeHeaderName_ascii py (hall e he).1, (hall e he).2]
  simp only [List.forall_mem_cons] at hnormal
  obtain ⟨hvia, hfrom, hto, hcallId, hcseq, hcontactName, htype, hlength, -⟩ := hnormal
  have hcontent : ∀ name ∈ transactionHeaders,
      ((contentFields sdpBody).map (fun e => (e.1, PyStr.strip e.2))).filter
        (fun e => normalizeHeaderName py e.1 = name) = [] := by
    intro name hname
    have hnames : ∀ e ∈ contentFields sdpBody, e.1 = "Content-Type" ∨ e.1 = "Content-Length" := by
      cases sdpBody with
      | none => simp [contentFields]
      | some sdp =>
        rw [contentFields]
        split_ifs
        · simp
        · simp
    have hnot : ∀ name ∈ transactionHeaders, "content-type" ≠ name ∧ "content-length" ≠ name := by
      decide
    rw [List.filter_eq_nil_iff, List.forall_mem_map]
    intro e he
    rw [decide_eq_true_eq]
    rcases hnames e he with h | h
    · rw [h, htype]
      exact (hnot name hname).1
    · rw [h, hlength]
      exact (hnot name hname).2
  rw [ownValues, headerFields_buildSipResponse hheaders hcontact htag status hreason sdpBody,
    responseFields, List.map_append, List.filter_append, hcontent name hname, List.append_nil]
  simp only [transactionHeaders, List.mem_cons, List.not_mem_nil, or_false] at hname
  rcases hname with rfl | rfl | rfl | rfl
  · simp [hvia, hfrom, hto, hcallId, hcseq, hcontactName, DialogHeaders.copied,
      hheaders.via.stripped]
  · simp [hvia, hfrom, hto, hcallId, hcseq, hcontactName, DialogHeaders.copied,
      hheaders.fromHeader.stripped]
  · simp [hvia, hfrom, hto, hcallId, hcseq, hcontactName, DialogHeaders.copied,
      hheaders.callId.stripped]
  · simp [hvia, hfrom, hto, hcallId, hcseq, hcontactName, DialogHeaders.copied,
      hheaders.cseq.stripped]

theorem copied_copiedHeaders {names : String × String} (hnames : names ∈ knownSpellings) :
    (copiedHeaders message).copied names.1 = pickedValue (textLines message) names.2 names.1 := by
  simp only [knownSpellings, List.mem_cons, List.not_mem_nil, or_false] at hnames
  have hpicked := fun canonical lower => headerOr_parseSipRequest message canonical lower
  rcases hnames with rfl | rfl | rfl | rfl <;>
    simp [DialogHeaders.copied, copiedHeaders, coerceDialogHeaders, hpicked]

/-- The tags that are drawn are hexadecimal. -/
def UdpDraws.Hex (draws : UdpDraws) : Prop := HexTag draws.tryingTag ∧ HexTag draws.okTag

/-- A first line that the UDP server responds to. -/
def RespondsTo : Prop :=
  "INVITE".toList.isPrefixOf (firstLine message) = true ∨
    "BYE".toList.isPrefixOf (firstLine message) = true

/-- Such a line starts with one of two letters. -/
theorem RespondsTo.not_prefix {message : String} (h : RespondsTo message) {p : List Char}
    (hp : p.head? ≠ none ∧ p.head? ≠ some 'I' ∧ p.head? ≠ some 'B') :
    p.isPrefixOf (firstLine message) = false := by
  have hhead : ∀ p : List Char, p.head? ≠ none → p.isPrefixOf (firstLine message) = true →
      (firstLine message).head? = p.head? := by
    intro p hp hpre
    obtain ⟨t, ht⟩ := List.isPrefixOf_iff_prefix.1 hpre
    rw [← ht]
    cases p with
    | nil => exact absurd rfl hp
    | cons c p => rfl
  rw [← Bool.not_eq_true]
  intro hpre
  rw [← hhead p hp.1 hpre] at hp
  rcases h with h | h
  · exact hp.2.1 ((hhead _ (by decide) h).trans (by decide))
  · exact hp.2.2 ((hhead _ (by decide) h).trans (by decide))

theorem RespondsTo.isRequest {message : String} (h : RespondsTo message) :
    "SIP/".toList.isPrefixOf (firstLine message) = false ∧
      "ACK".toList.isPrefixOf (firstLine message) = false :=
  ⟨h.not_prefix (by decide), h.not_prefix (by decide)⟩

/-- A response with these headers. -/
def CopiesHeaders (cfg : UdpConfig) (headers : DialogHeaders) (r : UdpResponse) : Prop :=
  ∃ status reason sdpBody tag, r.text = buildSipResponse status reason headers sdpBody
    cfg.contactUri tag ∧ '\r' ∉ reason.toList ∧ HexTag tag

theorem copiesHeaders_mk (cfg : UdpConfig) (headers : DialogHeaders) (status : ℕ) {reason : String}
    (hreason : '\r' ∉ reason.toList) (sdpBody : Option String) {tag : String} (htag : HexTag tag) :
    CopiesHeaders cfg headers
      ⟨status, buildSipResponse status reason headers sdpBody cfg.contactUri tag⟩ := by
  generalize htext : buildSipResponse status reason headers sdpBody cfg.contactUri tag = text
  exact ⟨status, reason, sdpBody, tag, htext.symm, hreason, htag⟩

variable {cfg : UdpConfig}

theorem response_udpHandleInvite {headers : DialogHeaders} {sdpBody : String}
    {draws : UdpDraws} {s : UdpServer} (hdraws : draws.Hex) {r : UdpResponse}
    (h : r ∈ (udpHandleInvite cfg headers sdpBody draws s).2) :
    (cfg.hasTransport = true ∧ headers.callId ≠ "") ∧ CopiesHeaders cfg headers r := by
  have htrying : CopiesHeaders cfg headers
      ⟨100, buildSipResponse 100 "Trying" headers none cfg.contactUri draws.tryingTag⟩ :=
    copiesHeaders_mk cfg headers 100 (by decide) none hdraws.1
  rw [udpHandleInvite] at h
  split_ifs at h with hcallId hknown htransport
  · cases h
  · cases h
  · cases h
  · refine ⟨⟨by simpa using htransport, hcallId⟩, ?_⟩
    dsimp only at h
    cases hsdp : remoteRtpAddr cfg.py sdpBody with
    | none =>
      rw [hsdp] at h
      rw [List.mem_singleton.1 h]
      exact htrying
    | some remoteAddr =>
      rw [hsdp] at h
      rcases List.mem_cons.1 h with rfl | h
      · exact htrying
      · rw [List.mem_singleton.1 h]
        exact copiesHeaders_mk cfg headers 200 (by decide) _ hdraws.2

theorem response_udpHandleBye {callId : String} {headers : DialogHeaders}
    {draws : UdpDraws} {s : UdpServer} (hdraws : draws.Hex) {r : UdpResponse}
    (h : r ∈ (udpHandleBye cfg callId headers draws s).2) :
    cfg.hasTransport = true ∧ CopiesHeaders cfg headers r := by
  rw [udpHandleBye] at h
  dsimp only at h
  split_ifs at h with htransport
  · rw [List.mem_singleton.1 h]
    exact ⟨htransport, copiesHeaders_mk cfg headers 200 (by decide) none hdraws.2⟩
  · cases h

/-- The UDP server responds: it has a transport, and an INVITE has a Call-ID. -/
def Responds (cfg : UdpConfig) (message : String) : Prop :=
  cfg.hasTransport = true ∧ RespondsTo message ∧
    ("INVITE".toList.isPrefixOf (firstLine message) = true →
      pickedValue (textLines message) "Call-ID" "call-id" ≠ "")

theorem callId_copiedHeaders :
    (copiedHeaders message).callId = pickedValue (textLines message) "Call-ID" "call-id" := by
  have hknown : ("call-id", "Call-ID") ∈ knownSpellings := by decide
  rw [← copied_copiedHeaders message hknown]
  simp [DialogHeaders.copied]

/-- **Every response of the UDP server** copies the headers of an INVITE or a BYE. -/
theorem response_datagramReceived {message : String} {draws : UdpDraws}
    {s : UdpServer} (hdraws : draws.Hex) {r : UdpResponse}
    (h : r ∈ (datagramReceived cfg message draws s).2) :
    Responds cfg message ∧ CopiesHeaders cfg (copiedHeaders message) r := by
  rw [datagramReceived, ← copiedHeaders] at h
  split_ifs at h with hresponse hinvite hbye
  · cases h
  · obtain ⟨⟨htransport, hcallId⟩, hcopies⟩ := response_udpHandleInvite hdraws h
    rw [callId_copiedHeaders] at hcallId
    exact ⟨⟨htransport, .inl hinvite, fun _ => hcallId⟩, hcopies⟩
  · obtain ⟨htransport, hcopies⟩ := response_udpHandleBye hdraws h
    exact ⟨⟨htransport, .inr hbye, fun h => absurd h hinvite⟩, hcopies⟩
  · cases h

/-- An INVITE with a new Call-ID is answered. -/
theorem responds_udpHandleInvite (htransport : cfg.hasTransport = true)
    {headers : DialogHeaders} (hcallId : headers.callId ≠ "") (sdpBody : String)
    (draws : UdpDraws) :
    ∃ r, r ∈ (udpHandleInvite cfg headers sdpBody draws UdpServer.empty).2 := by
  have hnew : ¬ UdpServer.empty.activeSessions.contains headers.callId = true := by
    intro hmem
    cases hmem
  rw [udpHandleInvite, if_neg hcallId, if_neg hnew, htransport, if_neg (by decide)]
  dsimp only
  cases remoteRtpAddr cfg.py sdpBody with
  | none => exact ⟨_, List.mem_cons_self⟩
  | some remoteAddr => exact ⟨_, List.mem_cons_self⟩

theorem responds_udpHandleBye (htransport : cfg.hasTransport = true)
    (callId : String) (headers : DialogHeaders) (draws : UdpDraws) (s : UdpServer) :
    ∃ r, r ∈ (udpHandleBye cfg callId headers draws s).2 := by
  rw [udpHandleBye, htransport]
  exact ⟨_, List.mem_cons_self⟩

/-- **Some response** is sent then. -/
theorem responds_datagramReceived {message : String} (h : Responds cfg message)
    (draws : UdpDraws) : ∃ r, r ∈ (datagramReceived cfg message draws UdpServer.empty).2 := by
  obtain ⟨htransport, hfirst, hcallId⟩ := h
  have hnotResponse : "SIP/2.0".toList.isPrefixOf (firstLine message) = false :=
    hfirst.not_prefix (by decide)
  rw [datagramReceived, ← copiedHeaders, hnotResponse, if_neg Bool.false_ne_true]
  by_cases hinvite : "INVITE".toList.isPrefixOf (firstLine message) = true
  · have hid := hcallId hinvite
    rw [← callId_copiedHeaders] at hid
    rw [if_pos hinvite]
    exact responds_udpHandleInvite htransport hid (parseSipRequest message).body draws
  · rw [if_neg hinvite, if_pos (hfirst.resolve_left hinvite)]
    exact responds_udpHandleBye htransport _ _ draws UdpServer.empty

/-- **The condition on the UDP server**: nothing is sent, or each header has at most one value,
    under the canonical or the lower-case spelling if it is not empty. -/
def UdpTransactionKept (cfg : UdpConfig) (message : String) : Prop :=
  ¬ Responds cfg message ∨ ∀ names ∈ knownSpellings,
    (ownValues cfg.py (textLines message) names.1).length ≤ 1 ∧
      ∀ e ∈ headerFields (textLines message), normalizeHeaderName cfg.py e.1 = names.1 →
        PyStr.strip e.1 = names.2 ∨ PyStr.strip e.1 = names.1 ∨ e.2 = ""

section Udp

variable {cfg : UdpConfig} (hpy : ∀ s, PyStr.strip (cfg.py.lower s) = cfg.py.lower (PyStr.strip s))
  (hcontact : NoCrlf cfg.contactUri.toList)
include hpy hcontact

theorem carries_copiedHeaders_iff {message : String} {r : UdpResponse}
    (hr : CopiesHeaders cfg (copiedHeaders message) r) :
    CarriesTransaction (ownValues cfg.py (textLines message))
    (ownValues cfg.py (textLines r.text)) ↔
      ∀ names ∈ knownSpellings, (ownValues cfg.py (textLines message) names.1).length ≤ 1 ∧
        ∀ e ∈ headerFields (textLines message), normalizeHeaderName cfg.py e.1 = names.1 →
          PyStr.strip e.1 = names.2 ∨ PyStr.strip e.1 = names.1 ∨ e.2 = "" := by
  obtain ⟨status, reason, sdpBody, tag, htext, hreason, htag⟩ := hr
  have hnames : transactionHeaders = knownSpellings.map Prod.fst := rfl
  have hcarried : ∀ names ∈ knownSpellings, ownValues cfg.py (textLines r.text) names.1 =
      [pickedValue (textLines message) names.2 names.1] := by
    intro names hmem
    have hname : names.1 ∈ transactionHeaders := by
      rw [hnames]
      exact List.mem_map_of_mem hmem
    rw [htext, ownValues_buildSipResponse cfg.py (readHeaders_copiedHeaders message) hcontact htag
      status hreason sdpBody hname, copied_copiedHeaders message hmem]
  rw [CarriesTransaction, hnames, List.forall_mem_map]
  refine forall₂_congr (fun names hmem => ?_)
  rw [hcarried names hmem, sublist_pickedValue_iff hpy (knownSpellings_subset hmem)]

/-- **The UDP server keeps the transaction** of exactly these messages. -/
theorem udp_keepsTransaction_iff (message : String) :
    (∀ (draws : UdpDraws) (s : UdpServer) (r : UdpResponse), draws.Hex →
      r ∈ (datagramReceived cfg message draws s).2 →
        ("SIP/".toList.isPrefixOf (firstLine message) = false ∧
          "ACK".toList.isPrefixOf (firstLine message) = false) ∧
        CarriesTransaction (ownValues cfg.py (textLines message))
        (ownValues cfg.py (textLines r.text))) ↔
      UdpTransactionKept cfg message := by
  constructor
  · intro hkept
    by_cases hresponds : Responds cfg message
    · have htag : HexTag "0" := fun c hc => by
        rw [List.mem_singleton.1 hc]
        decide
      obtain ⟨r, hr⟩ := responds_datagramReceived hresponds ⟨"0", "0", 0⟩
      obtain ⟨-, hcarries⟩ := hkept ⟨"0", "0", 0⟩ UdpServer.empty r ⟨htag, htag⟩ hr
      have hdraws : (⟨"0", "0", 0⟩ : UdpDraws).Hex := ⟨htag, htag⟩
      exact .inr ((carries_copiedHeaders_iff hpy hcontact (response_datagramReceived hdraws hr).2).1
        hcarries)
    · exact .inl hresponds
  · intro hkept draws s r hdraws hr
    obtain ⟨hresponds, hcopies⟩ := response_datagramReceived hdraws hr
    exact ⟨hresponds.2.1.isRequest,
      (carries_copiedHeaders_iff hpy hcontact hcopies).2
      (hkept.resolve_left (not_not_intro hresponds))⟩

end Udp

/-! ## Both servers -/

/-- **Transaction headers.** A response is sent for requests other than ACK only, and carries all
    values of Via, From, Call-ID and CSeq in their order, for exactly the messages of
    `TlsTransactionKept` and `UdpTransactionKept`. -/
theorem responses_keepTransaction_iff (wa : WaConfig) (udp : UdpConfig)
    (hpy : ∀ s, PyStr.strip (udp.py.lower s) = udp.py.lower (PyStr.strip s))
    (hcontact : NoCrlf udp.contactUri.toList) :
    (∀ (stream rest : List UInt8) (msg : SipMessage) (peerIp : String),
      parseMessage wa.py stream = .ok (msg, rest) →
        ((∀ draws s resp, (handleSipMessage wa msg peerIp draws s).2 = .response resp →
          (msg.isRequest = true ∧ msg.method ≠ some "ACK") ∧
            CarriesTransaction (ownValues wa.py (messageLines stream)) (carriedBy resp)) ↔
          TlsTransactionKept wa stream msg peerIp)) ∧
      ∀ message : String,
        (∀ (draws : UdpDraws) (s : UdpServer) (r : UdpResponse), draws.Hex →
          r ∈ (datagramReceived udp message draws s).2 →
            ("SIP/".toList.isPrefixOf (firstLine message) = false ∧
              "ACK".toList.isPrefixOf (firstLine message) = false) ∧
            CarriesTransaction (ownValues udp.py (textLines message))
              (ownValues udp.py (textLines r.text))) ↔
          UdpTransactionKept udp message :=
  ⟨fun _ _ _ peerIp h => tls_keepsTransaction_iff wa h peerIp,
    udp_keepsTransaction_iff hpy hcontact⟩

theorem openServer_host : '=' ∉ "h".toList := by decide

/-- A TLS server open to every peer. -/
def openServer : WaConfig where
  py := .ascii
  hashes := ⟨fun data => data, fun data => data⟩
  sipHost := "h"
  host_plain := openServer_host
  sipUsername := "wa"
  sipPassword := "pw"
  allowedCidrs := []
  inNetwork _ _ := none
  sandboxMode := true
  maxConcurrentCalls := 10

/-- A UDP server without a gateway. -/
def plainUdp : UdpConfig where
  py := .ascii
  hasTransport := true
  sipPort := 5060
  sipPublicIp := "h"
  sipUsername := "u"
  tenantId := "t"
  companyId := "c"
  gatewayMode := false
  gatewayWsUrl := ""
  gatewayWsSecret := ""
  normalizePhone _ := none
  phoneHmac seed := seed
  sha256 data := data

theorem plainUdp_contact : NoCrlf plainUdp.contactUri.toList := by
  have hplain : '\r' ∉ plainUdp.contactUri.toList := by decide +kernel
  exact fun hcontains => hplain (hcontains.subset List.mem_cons_self)

/-- A BYE with one value of each header. -/
def plainBye : String := "BYE u\r\nVia: a\r\nfrom: b\r\nCall-ID: c\r\nCSeq: 2"

theorem plainBye_kept : UdpTransactionKept plainUdp plainBye ∧
    ∀ (draws : UdpDraws) (s : UdpServer) (r : UdpResponse), draws.Hex →
      r ∈ (datagramReceived plainUdp plainBye draws s).2 →
        CarriesTransaction (ownValues .ascii (textLines plainBye))
        (ownValues .ascii (textLines r.text)) := by
  have hkept : UdpTransactionKept plainUdp plainBye := by
    have hall : ∀ names ∈ knownSpellings,
        (ownValues .ascii (textLines plainBye) names.1).length ≤ 1 ∧
        ∀ e ∈ headerFields (textLines plainBye), normalizeHeaderName .ascii e.1 = names.1 →
          PyStr.strip e.1 = names.2 ∨ PyStr.strip e.1 = names.1 ∨ e.2 = "" := by
      decide +kernel
    exact .inr hall
  have hudp := (responses_keepTransaction_iff openServer plainUdp StrMethods.strip_lower_ascii
    plainUdp_contact).2
  exact ⟨hkept, fun draws s r hdraws hr => ((hudp plainBye).2 hkept draws s r hdraws hr).2⟩

/-- An OPTIONS request that came through a proxy. -/
def proxiedOptions : List UInt8 := Utf8.encode "OPTIONS u\nVia: a\nVia: b\n\n".toList

/-- That request as it is read. -/
def readOptions : SipMessage := ⟨"OPTIONS u", ⟨[("via", "b")], List.nodup_singleton _⟩, ""⟩

theorem parseMessage_proxiedOptions :
    ∃ rest, parseMessage .ascii proxiedOptions = .ok (readOptions, rest) := by
  have hparse : (parseMessage .ascii proxiedOptions).toOption.map (fun r =>
      (r.1.firstLine, r.1.headers.entries, r.1.body)) = some ("OPTIONS u", [("via", "b")], "") := by
    decide +kernel
  obtain ⟨⟨⟨first, ⟨entries, hnodup⟩, body⟩, rest⟩, hok, hfields⟩ := Option.map_eq_some_iff.1 hparse
  obtain ⟨rfl, hrest⟩ := Prod.mk.inj hfields
  obtain ⟨rfl, rfl⟩ := Prod.mk.inj hrest
  refine ⟨rest, ?_⟩
  cases hresult : parseMessage .ascii proxiedOptions with
  | error e => rw [hresult] at hok; cases hok
  | ok r =>
    rw [hresult] at hok
    rw [Option.some_inj.1 hok]
    rfl

/-- The response to it loses a Via. -/
theorem proxiedOptions_losesVia : ∃ msg rest resp,
    parseMessage .ascii proxiedOptions = .ok (msg, rest) ∧ msg.method = some "OPTIONS" ∧
      (handleSipMessage openServer msg "10.0.0.7" ⟨⟨"0", List.all_eq_true.1 (by decide), by decide⟩,
        "0", .fails⟩ WaServer.empty).2 = .response resp ∧
      ownValues .ascii (messageLines proxiedOptions) "via" = ["a", "b"] ∧
      carriedBy resp "via" = ["b"] ∧
      ¬ CarriesTransaction (ownValues .ascii (messageLines proxiedOptions)) (carriedBy resp) := by
  obtain ⟨rest, hparse⟩ := parseMessage_proxiedOptions
  have hmethod : readOptions.method = some "OPTIONS" := by decide +kernel
  have hallowed : ¬ openServer.checkIpAllowed "10.0.0.7" = false := by decide +kernel
  have hown : ownValues .ascii (messageLines proxiedOptions) "via" = ["a", "b"] := by decide +kernel
  have hcarried :
    carriedBy (buildTransactionResponse readOptions 405 "Method Not Allowed" none none)
      "via" = ["b"] := by decide +kernel
  refine ⟨readOptions, rest, buildTransactionResponse readOptions 405 "Method Not Allowed" none
    none, hparse, hmethod, ?_, hown, hcarried, fun hcarries => ?_⟩
  · rw [handleSipMessage, if_neg hallowed, hmethod, if_neg (by decide), if_neg (by decide),
      if_neg (by decide)]
  · have hvia := hcarries "via" List.mem_cons_self
    rw [hown, hcarried] at hvia
    exact absurd hvia.length_le (by decide)

end Ekaette
