import Ekaette.Lib.Regex
import Ekaette.Sip.Message

set_option autoImplicit false

/-! # Digest authentication

`sip_bridge/sip_auth.py`: the parser of challenge and authorization headers, the digest response,
and its verification; and the 407 response of `sip_bridge/wa_sip_client.py` that carries a
challenge. The hash functions and the drawn nonces are arguments. -/

namespace Ekaette

/-! ## Header parameters -/

/-- `[^"]`. -/
def notQuote (c : Char) : Bool := c ≠ '"'

variable (py : StrMethods)

/-- `_PARAM_RE`: a name, and a value that is quoted (group 2) or plain (group 3). -/
def paramRe : Rx :=
  .seq (.group 1 (.plus py.isWord)) (.seq (.lit ['=']) (.alt
    (.seq (.lit ['"']) (.seq (.group 2 (.plus notQuote)) (.lit ['"'])))
    (.group 3 (.plus (fun c => c ≠ ',' && !PyStr.isSpace c)))))

/-- The optional header name in front of a value. -/
def headerPrefixRe : Rx :=
  .seq (.plus (fun c => py.isWord c || c = '-'))
    (.seq (.many PyStr.isSpace) (.seq (.lit [':']) (.many PyStr.isSpace)))

/-- The parameters of a `Digest` value; a later one with the same name wins. -/
def digestParams (value : List Char) : Dict String String :=
  Dict.ofList (((paramRe py).findAll value).map (fun m =>
    (py.lower ((m.group? 1).getD ""), ((m.group? 2).or (m.group? 3)).getD "")))

/-- `parse_challenge`; `none` where it raises `AuthParseError`. -/
def parseChallenge (header : String) : Option (Dict String String) :=
  let value := PyStr.stripChars header.toList
  let value := match (headerPrefixRe py).matchAt value with
    | some m => m.rest
    | none => value
  if "digest".toList.isPrefixOf (py.lower (String.ofList value)).toList = false then none
  else
    let params := digestParams py (PyStr.stripChars (value.drop 6))
    if params.contains "realm" && params.contains "nonce" then
      some (params.setDefault "algorithm" "MD5")
    else none

/-! ## Digest responses -/

/-- `hashlib.md5` and `hashlib.sha256`, as hex digests. -/
structure DigestHashes where
  md5 : String → String
  sha256 : String → String

variable (hashes : DigestHashes)

/-- `_hash`; `none` for an algorithm it does not support. -/
def hashWith (algorithm data : String) : Option String :=
  let name := py.upper algorithm
  if name = "MD5" ∨ name = "MD5-SESS" then some (hashes.md5 data)
  else if name = "SHA-256" ∨ name = "SHA-256-SESS" then some (hashes.sha256 data)
  else none

/-- `_select_qop`. -/
def selectQop (qop : Option String) : Option String :=
  match qop with
  | none => none
  | some qop =>
    let tokens := (PyStr.split ',' qop).map PyStr.strip
    if "auth" ∈ tokens then some "auth"
    else if "auth-int" ∈ tokens then some "auth-int"
    else tokens.head?

/-- The arguments of `compute_digest_response`. -/
structure DigestRequest where
  username : String
  realm : String
  password : String
  nonce : String
  method : String
  uri : String
  algorithm : String
  qop : Option String
  nc : Option String
  cnonce : Option String

/-- `HA1`, with nonce and cnonce for the `-sess` algorithms. -/
def DigestRequest.ha1 (py : StrMethods) (hashes : DigestHashes) (r : DigestRequest) :
    Option String :=
  (hashWith py hashes r.algorithm (r.username ++ ":" ++ r.realm ++ ":" ++ r.password)).bind
    (fun ha1 =>
      if "-SESS".toList.isSuffixOf (py.upper r.algorithm).toList then
        match r.nc, r.cnonce with
        | some _, some cnonce =>
          hashWith py hashes r.algorithm (ha1 ++ ":" ++ r.nonce ++ ":" ++ cnonce)
        | _, _ => none
      else some ha1)

/-- `compute_digest_response`; `none` where it raises `ValueError`. -/
def computeDigestResponse (r : DigestRequest) :
    Option String :=
  (r.ha1 py hashes).bind (fun ha1 =>
    (hashWith py hashes r.algorithm (r.method ++ ":" ++ r.uri)).bind (fun ha2 =>
      match selectQop r.qop with
      | some qop =>
        if qop = "auth" ∨ qop = "auth-int" then
          match r.nc, r.cnonce with
          | some nc, some cnonce => hashWith py hashes r.algorithm
              (ha1 ++ ":" ++ r.nonce ++ ":" ++ nc ++ ":" ++ cnonce ++ ":" ++ qop ++ ":" ++ ha2)
          | _, _ => none
        else hashWith py hashes r.algorithm (ha1 ++ ":" ++ r.nonce ++ ":" ++ ha2)
      | none => hashWith py hashes r.algorithm (ha1 ++ ":" ++ r.nonce ++ ":" ++ ha2)))

/-- `hmac.compare_digest` of two strings; `none` where it raises on non-ASCII characters. -/
def compareDigest (a b : String) : Option Bool :=
  if PyStr.IsAscii a ∧ PyStr.IsAscii b then some (a = b) else none

/-- The digest request of parsed parameters and configured credentials. -/
def digestRequestOf (params : Dict String String) (username password method : String) :
    DigestRequest where
  username := username
  realm := params.getD "realm" ""
  password := password
  nonce := params.getD "nonce" ""
  method := method
  uri := params.getD "uri" ""
  algorithm := params.getD "algorithm" "MD5"
  qop := selectQop (params.get? "qop")
  nc := params.get? "nc"
  cnonce := params.get? "cnonce"

/-- `verify_digest`; `none` where it raises. -/
def verifyDigest (authValue expectedUsername
    expectedPassword method : String) : Option Bool :=
  match parseChallenge py authValue with
  | none => some false
  | some params =>
    match params.get? "username" with
    | none => some false
    | some username =>
      match compareDigest username expectedUsername with
      | none => none
      | some false => some false
      | some true =>
        match computeDigestResponse py hashes
            (digestRequestOf params expectedUsername expectedPassword method) with
        | none => some false
        | some expected =>
          match params.get? "response" with
          | none => some false
          | some provided => compareDigest expected provided

/-! ## Challenges -/

/-- A drawn nonce: a hex digest. -/
structure HexNonce where
  value : String
  hex : ∀ c ∈ value.toList, c.isAlphanum = true
  nonempty : value ≠ ""

/-- What follows the header name in a challenge. -/
def challengeValue (realm : String) (nonce : HexNonce) : String :=
  "Digest realm=\"" ++ realm ++ "\", nonce=\"" ++ nonce.value ++ "\", algorithm=MD5, qop=\"auth\""

/-- `build_challenge_header`, with its default algorithm and qop. -/
def buildChallengeHeader (statusCode : ℕ) (realm : String) (nonce : HexNonce) : String :=
  (if statusCode = 407 then "Proxy-Authenticate" else "WWW-Authenticate") ++ ": "
    ++ challengeValue realm nonce

/-- `build_407_response`. -/
def build407Response (invite : SipMessage) (realm : String) (nonce : HexNonce) (tag : String) :
    SipMessage where
  firstLine := "SIP/2.0 407 Proxy Authentication Required"
  headers := Dict.ofList
    [ ("via", invite.header "via"), ("from", invite.header "from"),
      ("to", addTagToToHeader (invite.header "to") tag), ("call-id", invite.header "call-id"),
      ("cseq", invite.header "cseq"),
      ("proxy-authenticate",
        let challenge := buildChallengeHeader 407 realm nonce
        match PyStr.splitFirst ": ".toList challenge.toList with
        | some parts => String.ofList parts.2
        | none => challenge),
      ("content-length", "0") ]
  body := ""

/-- The literal in front of a nonce. -/
def nonceMark : List Char := ['n', 'o', 'n', 'c', 'e', '=', '"']

/-- `_NONCE_RE`. -/
def nonceRe : Rx :=
  .seq (.lit nonceMark) (.seq (.group 1 (.plus notQuote)) (.lit ['"']))

/-- The nonce found in a challenge, empty when there is none. -/
def nonceOfChallenge (value : String) : String :=
  ((nonceRe.search value.toList).bind (·.group? 1)).getD ""

theorem build407Response_challenge (invite : SipMessage) (realm : String) (nonce : HexNonce)
    (tag : String) :
    (build407Response invite realm nonce tag).header "proxy-authenticate"
      = challengeValue realm nonce := by
  have hsplit : ∀ cs : List Char,
      PyStr.splitFirst ": ".toList ("Proxy-Authenticate".toList ++ (": ".toList ++ cs))
        = some ("Proxy-Authenticate".toList, cs) := by
    intro cs
    simp [PyStr.splitFirst]
  have hheader : (buildChallengeHeader 407 realm nonce).toList
      = "Proxy-Authenticate".toList ++ (": ".toList ++ (challengeValue realm nonce).toList) := by
    simp [buildChallengeHeader, String.toList_append]
  have hget : (build407Response invite realm nonce tag).header "proxy-authenticate"
      = match PyStr.splitFirst ": ".toList (buildChallengeHeader 407 realm nonce).toList with
        | some parts => String.ofList parts.2
        | none => buildChallengeHeader 407 realm nonce := by
    simp [build407Response, SipMessage.header, Dict.getD, Dict.ofList]
  rw [hget, hheader, hsplit]
  exact String.ofList_toList

/-! ## The nonce of a challenge is found again -/

/-- What precedes the nonce in a challenge. -/
def challengeHead (realm : String) : List Char :=
  ['D', 'i', 'g', 'e', 's', 't', ' ', 'r', 'e', 'a', 'l', 'm'] ++
    '=' :: ('"' :: realm.toList ++ ['"', ',', ' '])

theorem challengeHead_no_nonce {realm : String} (hrealm : '=' ∉ realm.toList) {u v : List Char}
    (hhead : challengeHead realm = u ++ v) (hv : v ≠ []) (after : List Char) :
    ¬ nonceMark <+: v ++ (nonceMark ++ after) := by
  intro hpre
  have hlength : nonceMark.length = 7 := rfl
  rcases Nat.lt_or_ge v.length 7 with hshort | hlong
  · -- the blank at the end of the head would be inside the literal
    have hv' : v <+: nonceMark :=
      List.prefix_of_prefix_length_le (List.prefix_append v _) hpre (by omega)
    have hblank : v.getLast? = some ' ' := by
      rw [← List.getLast?_append_of_ne_nil u hv, ← hhead, challengeHead,
        List.getLast?_append_of_ne_nil _ (by simp), ← List.cons_append,
        List.getLast?_append_of_ne_nil _ (by simp)]
      rfl
    have hmem : ' ' ∈ nonceMark := hv'.subset (List.mem_of_getLast? hblank)
    exact absurd hmem (by decide)
  · -- the head has a single '=', and behind another word
    have hinside : nonceMark <+: v :=
      List.prefix_of_prefix_length_le hpre (List.prefix_append v _) (by omega)
    obtain ⟨w, rfl⟩ := hinside
    have hcount : (challengeHead realm).count '=' = 1 := by
      have hnone := List.count_eq_zero.2 hrealm
      simp [challengeHead, hnone]
    have hu : '=' ∉ u := by
      have hmark : nonceMark.count '=' = 1 := rfl
      rw [hhead, List.count_append, List.count_append, hmark] at hcount
      exact List.count_eq_zero.1 (by omega)
    have hword : ['D', 'i', 'g', 'e', 's', 't', ' ', 'r', 'e', 'a', 'l', 'm']
        = u ++ ['n', 'o', 'n', 'c', 'e'] := by
      have htake := congrArg (List.takeWhile (· ≠ '=')) hhead
      have hleft : (challengeHead realm).takeWhile (· ≠ '=')
          = ['D', 'i', 'g', 'e', 's', 't', ' ', 'r', 'e', 'a', 'l', 'm'] := by
        simp [challengeHead]
      have hright : (u ++ (nonceMark ++ w)).takeWhile (· ≠ '=') = u ++ ['n', 'o', 'n', 'c', 'e'] :=
        by
        rw [List.takeWhile_append_of_pos]
        · simp [nonceMark]
        · intro c hc
          simpa using fun h : c = '=' => hu (h ▸ hc)
      rw [← hleft, htake, hright]
    have hend := congrArg List.getLast? hword
    rw [List.getLast?_append_of_ne_nil u (by simp)] at hend
    exact absurd hend (by decide)

theorem toList_challengeValue (realm : String) (nonce : HexNonce) :
    (challengeValue realm nonce).toList
      = challengeHead realm ++ (nonceMark ++ (nonce.value.toList ++ '"' ::
          ", algorithm=MD5, qop=\"auth\"".toList)) := by
  delta challengeValue
  simp only [String.toList_append]
  simp [challengeHead, nonceMark]

/-- **The server remembers the nonce it sent**: searching its own challenge gives the drawn
    nonce. -/
theorem nonceOfChallenge_challengeValue {realm : String} (hrealm : '=' ∉ realm.toList)
    (nonce : HexNonce) : nonceOfChallenge (challengeValue realm nonce) = nonce.value := by
  have hquote : ∀ c ∈ nonce.value.toList, notQuote c = true := by
    intro c hc
    have halnum := nonce.hex c hc
    simp only [notQuote, decide_eq_true_eq]
    rintro rfl
    exact absurd halnum (by decide)
  have hne : nonce.value.toList ≠ [] := by
    simpa using nonce.nonempty
  -- behind the literal stands the nonce, then its closing quote
  have htail := Rx.matchAt_seq (Rx.matchAt_group 1 (Rx.matchAt_plus hquote hne (c := '"') rfl
    ", algorithm=MD5, qop=\"auth\"".toList)) (Rx.matchAt_lit ['"'] _)
  rw [nonceOfChallenge, toList_challengeValue, nonceRe,
    Rx.search_lit_seq (fun u v hhead hv => challengeHead_no_nonce hrealm hhead hv _) htail]
  simp [Rx.Match.group?]

end Ekaette
