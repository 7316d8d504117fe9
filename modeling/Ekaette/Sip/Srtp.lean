import Ekaette.Lib.Base64
import Ekaette.Sip.Sdp

set_option autoImplicit false

/-! # SRTP keys in session descriptions

`sip_bridge/srtp_context.py` (the crypto attribute and the SRTP contexts), the SDP answer of
`sip_bridge/wa_sip_client.py`, and `_create_srtp_contexts` of `sip_bridge/wa_main.py`. Random key
material is an argument of the functions that draw it. -/

namespace Ekaette

/-! ## Key material -/

/-- `generate_key_material`: a 16-byte key and a 14-byte salt. -/
structure KeyMaterial where
  bytes : List UInt8
  length_eq : bytes.length = 30

/-- A parsed crypto attribute. -/
structure SdesCrypto where
  tag : ℕ
  suite : String
  key : List UInt8

/-- What `parse_sdes_crypto` raises: an `SRTPError` with its message, or the error of a decoder. -/
inductive SdesError where
  | srtp (message : String)
  | base64
  | tag

def suite80 : String := "AES_CM_128_HMAC_SHA1_80"

def suite32 : String := "AES_CM_128_HMAC_SHA1_32"

/-- `_EXPECTED_KEY_LENGTHS`, whose keys are `_SUPPORTED_SUITES`. -/
def expectedKeyLength (suite : String) : Option ℕ :=
  if suite = suite80 ∨ suite = suite32 then some 30 else none

/-- `a=crypto:`. -/
def cryptoMark : List Char := ['a', '=', 'c', 'r', 'y', 'p', 't', 'o', ':']

variable (py : StrMethods)

/-- `_CRYPTO_RE` behind its first literal. -/
def cryptoFieldsRe : Rx :=
  .seq (.group 1 (.plus (isDecimal py))) (.seq (.plus PyStr.isSpace)
    (.seq (.group 2 (.plus (fun c => py.isWord c || c = '_'))) (.seq (.plus PyStr.isSpace)
      (.seq (.lit ['i', 'n', 'l', 'i', 'n', 'e', ':']) (.group 3 (.plus Base64.IsBase64))))))

/-- `_CRYPTO_RE`. -/
def cryptoRe : Rx := .seq (.lit cryptoMark) (cryptoFieldsRe py)

/-- The crypto attribute of a match. -/
def readCrypto (m : Rx.Match) : Except SdesError SdesCrypto :=
  let suite := (m.group? 2).getD ""
  match expectedKeyLength suite with
  | none => .error (.srtp ("Unsupported SRTP suite: " ++ suite))
  | some expected =>
    match Base64.decode ((m.groups.lookup 3).getD []) with
    | none => .error .base64
    | some key =>
      if key.length ≠ expected then
        .error (.srtp ("Key length " ++ toString key.length ++ " bytes, expected "
          ++ toString expected ++ " for " ++ suite))
      else match groupInt py m 1 with
        | none => .error .tag
        | some tag => .ok ⟨tag, suite, key⟩

/-- `parse_sdes_crypto`: the first crypto attribute. -/
def parseSdesCrypto (sdp : String) : Except SdesError (Option SdesCrypto) :=
  match (cryptoRe py).search sdp.toList with
  | none => .ok none
  | some m => (readCrypto py m).map some

/-- `format_crypto_line`. -/
def formatCryptoLine (tag : ℕ) (keyMaterial : KeyMaterial) (suite : String) : String :=
  "a=crypto:" ++ toString tag ++ " " ++ suite ++ " inline:"
    ++ String.ofList (Base64.encode keyMaterial.bytes)

/-! ## SRTP contexts -/

/-- An `SRTPContext`. -/
structure SrtpContext where
  keyMaterial : List UInt8
  isSender : Bool
  /-- the profile of its policy -/
  suite : String

/-- The constructor of `SRTPContext`. It sets no profile, and a policy starts with the one whose
    packets carry a tag of 80 bits. -/
def SrtpContext.create (keyMaterial : List UInt8) (isSender : Bool) :
    Except SdesError SrtpContext :=
  if keyMaterial.length ≠ 30 then
    .error (.srtp ("Key length " ++ toString keyMaterial.length
      ++ " bytes, expected 30 (16-byte master key + 14-byte salt)"))
  else .ok ⟨keyMaterial, isSender, suite80⟩

/-- `_create_srtp_contexts`: the sender and the receiver, with the local key it draws. -/
def createSrtpContexts (sdpBody : String) (localKey : KeyMaterial) :
    Except SdesError (Option (SrtpContext × SrtpContext)) := do
  match ← parseSdesCrypto py sdpBody with
  | none => return none
  | some crypto =>
    let sender ← SrtpContext.create localKey.bytes true
    let receiver ← SrtpContext.create crypto.key false
    return some (sender, receiver)

/-! ## The SDP answer -/

/-- An address to advertise: it is no attribute. -/
structure AdvertisedIp where
  text : String
  plain : '=' ∉ text.toList

/-- How a payload type is printed. -/
def payloadTypeText : Option ℕ → String
  | none => "None"
  | some pt => toString pt

variable (localIp : AdvertisedIp)

variable (localPort : ℕ)

/-- The lines of an answer in front of its crypto line. -/
def sdpAnswerHead (payloadType : Option ℕ) : String :=
  "v=0\r\no=ekaette 0 0 IN IP4 " ++ localIp.text ++ "\r\ns=Ekaette SIP Bridge\r\nc=IN IP4 "
    ++ localIp.text ++ "\r\nt=0 0\r\nm=audio " ++ toString localPort ++ " RTP/SAVP "
    ++ payloadTypeText payloadType ++ " 126\r\n"

/-- The lines of an answer behind its crypto line. -/
def sdpAnswerTail (payloadType : Option ℕ) : String :=
  "\r\na=rtpmap:" ++ payloadTypeText payloadType ++ " opus/48000/2\r\na=fmtp:"
    ++ payloadTypeText payloadType ++ " maxplaybackrate=16000;useinbandfec=1\r\n"
    ++ "a=rtpmap:126 telephone-event/8000\r\na=ptime:20\r\na=maxptime:20\r\na=sendrecv\r\n"

/-- `generate_sdp_answer`, with the key material it draws. -/
def generateSdpAnswer (payloadType : Option ℕ) (keyMaterial : KeyMaterial) : String :=
  sdpAnswerHead localIp localPort payloadType ++ formatCryptoLine 1 keyMaterial suite80
    ++ sdpAnswerTail payloadType

/-! ## The key of an answer is found again -/

theorem toList_natToString_not_mem (n : ℕ) : '=' ∉ (toString n).toList := by
  rw [Nat.toString_eq_ofList_toDigits, String.toList_ofList]
  intro hmem
  exact absurd (Nat.isDigit_of_mem_toDigits (by decide) (by decide) hmem) (by decide)

theorem payloadTypeText_not_mem (payloadType : Option ℕ) :
    '=' ∉ (payloadTypeText payloadType).toList := by
  cases payloadType with
  | none => decide
  | some pt => exact toList_natToString_not_mem pt

theorem sdpAnswerHead_noPair (payloadType : Option ℕ) :
    Rx.NoPair 'a' '=' (sdpAnswerHead localIp localPort payloadType).toList := by
  delta sdpAnswerHead
  simp only [String.toList_append, List.append_assoc]
  refine Rx.noPair_splice (by decide) (by decide) localIp.plain ?_ (by simp)
  refine Rx.noPair_splice (by decide) (by decide) localIp.plain ?_ (by simp)
  refine Rx.noPair_splice (by decide) (by decide) (toList_natToString_not_mem _) ?_ (by simp)
  exact Rx.noPair_splice (by decide) (by decide) (payloadTypeText_not_mem _) (by decide) (by decide)

variable (keyMaterial : KeyMaterial)

theorem toList_formatCryptoLine :
    (formatCryptoLine 1 keyMaterial suite80).toList
      = cryptoMark ++ ('1' :: ' ' :: (suite80.toList ++ ' ' :: ('i' :: 'n' :: 'l' :: 'i' :: 'n' ::
          'e' :: ':' :: Base64.encode keyMaterial.bytes))) := by
  have hone : (toString (1 : ℕ)).toList = ['1'] := by decide
  delta formatCryptoLine
  simp only [String.toList_append, hone, String.toList_ofList]
  simp [cryptoMark]

theorem encode_ne_nil : Base64.encode keyMaterial.bytes ≠ [] := by
  intro h
  have hround := Base64.decode_encode keyMaterial.bytes
  rw [h] at hround
  have hempty : keyMaterial.bytes = [] := (Option.some.inj hround).symm
  have hlength := keyMaterial.length_eq
  rw [hempty] at hlength
  exact absurd hlength (by decide)

theorem matchAt_cryptoFields (tail : List Char) :
    (cryptoFieldsRe py).matchAt
    ('1' :: ' ' :: (suite80.toList ++ ' ' :: ('i' :: 'n' :: 'l' :: 'i' ::
        'n' :: 'e' :: ':' :: (Base64.encode keyMaterial.bytes ++ '\r' :: tail))))
      = some ⟨'\r' :: tail,
          [(1, ['1']), (2, suite80.toList), (3, Base64.encode keyMaterial.bytes)]⟩ := by
  have hdigit : ∀ c ∈ ['1'], isDecimal py c = true := by
    simp [isDecimal, py.decimal_ascii '1' (by decide)]
  have hdigit_end : isDecimal py ' ' = false := by
    simp [isDecimal, py.decimal_ascii_none ' ' (by decide) (by decide)]
  have hblank : ∀ c ∈ [' '], PyStr.isSpace c = true := List.all_eq_true.1 (by decide)
  have hascii : PyStr.IsAscii suite80 := by decide
  have hclass : ∀ c ∈ suite80.toList, (c.isAlphanum || decide (c = '_')) = true :=
    List.all_eq_true.1 (by decide)
  have hword : ∀ c ∈ suite80.toList, (py.isWord c || decide (c = '_')) = true := by
    intro c hc
    rw [py.isWord_ascii c (hascii c hc)]
    simpa using hclass c hc
  have hword_end : (py.isWord ' ' || decide (' ' = '_')) = false := by
    rw [py.isWord_ascii ' ' (by decide)]
    decide
  have hkey := Rx.matchAt_group 3 (Rx.matchAt_plus (Base64.encode_isBase64 keyMaterial.bytes)
    (encode_ne_nil keyMaterial) (c := '\r') (by decide) tail)
  have hinline := Rx.matchAt_seq (Rx.matchAt_lit ['i', 'n', 'l', 'i', 'n', 'e', ':'] _) hkey
  have hblank2 := Rx.matchAt_seq (Rx.matchAt_plus hblank (by simp) (c := 'i') (by decide) _) hinline
  have hsuite := Rx.matchAt_seq (Rx.matchAt_group 2 (Rx.matchAt_plus hword (by decide) (c := ' ')
    hword_end _)) hblank2
  have hblank1 := Rx.matchAt_seq (Rx.matchAt_plus hblank (by simp) (c := 'A') (by decide) _) hsuite
  exact Rx.matchAt_seq (Rx.matchAt_group 1 (Rx.matchAt_plus hdigit (by simp)
    (c := ' ') hdigit_end _)) hblank1

/-- **The answer announces its key**: parsing an SDP answer gives the suite and the key material it
    was generated with. -/
theorem parseSdesCrypto_generateSdpAnswer (payloadType : Option ℕ) (keyMaterial : KeyMaterial) :
    parseSdesCrypto py (generateSdpAnswer localIp localPort payloadType keyMaterial)
      = .ok (some ⟨1, suite80, keyMaterial.bytes⟩) := by
  obtain ⟨tail, htail⟩ : ∃ tail, (sdpAnswerTail payloadType).toList = '\r' :: tail := by
    have hfirst : "\r\na=rtpmap:".toList = '\r' :: "\na=rtpmap:".toList := by decide
    delta sdpAnswerTail
    simp only [String.toList_append, hfirst, List.cons_append]
    exact ⟨_, rfl⟩
  have hfound := Rx.search_lit_seq_of_noPair (by decide)
    (sdpAnswerHead_noPair localIp localPort payloadType)
    (matchAt_cryptoFields py keyMaterial tail) (l := ['c', 'r', 'y', 'p', 't', 'o', ':'])
  have htext : (generateSdpAnswer localIp localPort payloadType keyMaterial).toList
      = (sdpAnswerHead localIp localPort payloadType).toList ++ (cryptoMark ++
          ('1' :: ' ' :: (suite80.toList ++ ' ' :: ('i' :: 'n' :: 'l' :: 'i' :: 'n' :: 'e' :: ':' ::
            (Base64.encode keyMaterial.bytes ++ '\r' :: tail))))) := by
    rw [generateSdpAnswer, String.toList_append, String.toList_append, toList_formatCryptoLine,
      htail]
    simp
  have htag : intOfDigits py ['1'] = some 1 := by
    have hone := py.decimal_ascii '1' (by decide)
    simp [intOfDigits, hone]
  have hread : readCrypto py ⟨'\r' :: tail,
      [(1, ['1']), (2, suite80.toList), (3, Base64.encode keyMaterial.bytes)]⟩
        = .ok ⟨1, suite80, keyMaterial.bytes⟩ := by
    have hgroups : ∀ a b c : List Char, [(1, a), (2, b), (3, c)].lookup 1 = some a ∧
        [(1, a), (2, b), (3, c)].lookup 2 = some b ∧ [(1, a), (2, b), (3, c)].lookup 3 = some c :=
      fun a b c => ⟨rfl, rfl, rfl⟩
    simp [readCrypto, Rx.Match.group?, expectedKeyLength, groupInt, hgroups, Base64.decode_encode,
      keyMaterial.length_eq, htag]
  rw [parseSdesCrypto, htext, cryptoRe]
  simp only [cryptoMark] at hfound ⊢
  rw [hfound]
  simp only [hread, Except.map]

end Ekaette
