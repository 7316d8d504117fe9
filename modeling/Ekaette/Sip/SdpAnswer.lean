import Ekaette.Lib.PyNumber
import Ekaette.Sip.KeyAgreement

set_option autoImplicit false

/-! # SDP answers are read back

The 200 OK of an accepted INVITE carries an answer that repeats the payload type of the offer. An
offer without Opus gets the answer `None` for it, and an offer that has Opus under the number 126
gets an answer in which this number is the one of telephone events as well. -/

namespace Ekaette

/-! ## The advertised address -/

/-- `resolve_advertised_ip`, for the environment variable `WA_SIP_PUBLIC_IP` and the address that
    the probing socket has. -/
def resolveAdvertisedIp (bindHost publicIp : String) (discovered : Option String) : String :=
  let candidate := PyStr.strip bindHost
  let configured := PyStr.strip publicIp
  if candidate ≠ "" ∧ candidate ∉ ["0.0.0.0", "::"] ∧ "127.".toList.isPrefixOf candidate.toList =
    false then candidate
  else if configured ≠ "" ∧ "127.".toList.isPrefixOf configured.toList = false then configured
  else match discovered with
    | none => "127.0.0.1"
    | some ip => if ip ≠ "" ∧ "127.".toList.isPrefixOf ip.toList = false then ip else "127.0.0.1"

theorem resolveAdvertisedIp_ne (bindHost publicIp : String) (discovered : Option String) :
    resolveAdvertisedIp bindHost publicIp discovered ≠ "" := by
  unfold resolveAdvertisedIp
  dsimp only
  split_ifs with hcandidate hconfigured
  · exact hcandidate.1
  · exact hconfigured.1
  · cases discovered with
    | none => decide
    | some ip =>
      dsimp only
      split_ifs with hip
      · exact hip.1
      · decide

/-! ## Payload types -/

/-- The payload type of an `rtpmap` line that names Opus. -/
def opusType? (py : StrMethods) (m : Rx.Match) : Option ℕ :=
  if "opus/".toList.isPrefixOf (py.lower ((m.group? 2).getD "")).toList then groupInt py m 1
  else none

/-- The payload types that the `rtpmap` lines of a description assign to Opus. -/
def opusTypes (py : StrMethods) (sdp : String) : List ℕ :=
  ((rtpmapRe py).findAll sdp.toList).filterMap (opusType? py)

/-- What is relied on of the decimal digits of the string library: their values, and that they are
    no blanks. -/
structure DecimalDigits (py : StrMethods) : Prop where
  lt : ∀ c d, py.decimal c = some d → d < 10
  notSpace : ∀ c, PyStr.isSpace c = true → py.decimal c = none

theorem readRtpmap_opus {py : StrMethods} {sdp sdp' : RemoteSdp} {m : Rx.Match}
    (h : readRtpmap py sdp m = some sdp') :
    sdp'.opusPayloadType = (opusType? py m).or sdp.opusPayloadType := by
  obtain ⟨pt, hpt, rfl⟩ := Option.map_eq_some_iff.1 h
  unfold opusType?
  dsimp only
  split_ifs with hopus hevent
  · rw [hpt]
    rfl
  · rfl
  · rfl

theorem foldlM_readRtpmap_opus {py : StrMethods} {ms : List Rx.Match} {sdp sdp' : RemoteSdp}
    (h : ms.foldlM (readRtpmap py) sdp = some sdp') :
    sdp'.opusPayloadType = (ms.filterMap (opusType? py)).getLast?.or sdp.opusPayloadType := by
  induction ms generalizing sdp with
  | nil =>
    rw [← Option.some.inj h]
    rfl
  | cons m ms ih =>
    rw [List.foldlM_cons] at h
    obtain ⟨next, hnext, h⟩ := Option.bind_eq_some_iff.1 h
    rw [ih h, readRtpmap_opus hnext]
    cases hm : opusType? py m with
    | none =>
      rw [List.filterMap_cons_none hm]
      rfl
    | some pt =>
      rw [List.filterMap_cons_some hm, List.getLast?_cons]
      cases (ms.filterMap (opusType? py)).getLast? with
      | none => rfl
      | some last => rfl

theorem readRtpmap_ip {py : StrMethods} (sdp : RemoteSdp) (m : Rx.Match) (sdp' : RemoteSdp)
    (h : readRtpmap py sdp m = some sdp') : sdp'.mediaIp = sdp.mediaIp := by
  obtain ⟨pt, -, rfl⟩ := Option.map_eq_some_iff.1 h
  dsimp only
  split_ifs with hopus hevent
  · rfl
  · rfl
  · rfl

theorem readFmtp_keeps {py : StrMethods} {opus : ℕ} (sdp : RemoteSdp) (m : Rx.Match)
    (sdp' : RemoteSdp) (h : readFmtp py opus sdp m = some sdp') :
    (sdp'.opusPayloadType, sdp'.mediaIp) = (sdp.opusPayloadType, sdp.mediaIp) := by
  obtain ⟨pt, -, h⟩ := Option.bind_eq_some_iff.1 h
  split_ifs at h with hpt
  · cases hrate : (maxPlaybackRateRe py).search ((m.groups.lookup 2).getD []) with
    | none =>
      rw [hrate] at h
      rw [← Option.some.inj h]
    | some rate =>
      rw [hrate] at h
      obtain ⟨rate, -, rfl⟩ := Option.map_eq_some_iff.1 h
      rfl
  · rw [← Option.some.inj h]

theorem foldlM_keeps {σ β γ : Type} {f : σ → β → Option σ} (g : σ → γ)
    (hf : ∀ s b s', f s b = some s' → g s' = g s) {l : List β} {s s' : σ}
    (h : l.foldlM f s = some s') : g s' = g s := by
  induction l generalizing s with
  | nil => rw [← Option.some.inj h]
  | cons b l ih =>
    rw [List.foldlM_cons] at h
    obtain ⟨next, hnext, h⟩ := Option.bind_eq_some_iff.1 h
    rw [ih h, hf s b next hnext]

/-- **The last Opus line counts**, and the first connection line. -/
theorem parseRemoteSdp_opus {py : StrMethods} {body : String} {sdp : RemoteSdp}
    (h : parseRemoteSdp py body = some sdp) : sdp.opusPayloadType = (opusTypes py body).getLast? ∧
      sdp.mediaIp = (((connectionRe py).search body.toList).bind (·.group? 1)).getD "" := by
  unfold parseRemoteSdp at h
  obtain ⟨port, -, h⟩ := Option.bind_eq_some_iff.1 h
  obtain ⟨mapped, hmapped, h⟩ := Option.bind_eq_some_iff.1 h
  have hopus : mapped.opusPayloadType = (opusTypes py body).getLast? := by
    rw [foldlM_readRtpmap_opus hmapped]
    exact Option.or_none
  have hip : mapped.mediaIp = (((connectionRe py).search body.toList).bind (·.group? 1)).getD "" :=
    foldlM_keeps RemoteSdp.mediaIp readRtpmap_ip hmapped
  rw [← hopus, ← hip]
  cases hpt : mapped.opusPayloadType with
  | none =>
    rw [hpt] at h
    rw [← Option.some.inj h, hpt]
    exact ⟨rfl, rfl⟩
  | some opus =>
    rw [hpt] at h
    rw [← hpt]
    exact Prod.ext_iff.1 (foldlM_keeps (fun sdp => (sdp.opusPayloadType, sdp.mediaIp))
      readFmtp_keeps h)

theorem foldDigits_none (py : StrMethods) (cs : List Char) :
    cs.foldl (fun n c => match n, py.decimal c with
      | some n, some d => some (10 * n + d)
      | _, _ => none) (none : Option ℕ) = none := by
  induction cs with
  | nil => rfl
  | cons c cs ih => exact ih

/-- The number that is read has as many digits as there are characters, at most. -/
theorem foldDigits_lt {py : StrMethods} (hpy : DecimalDigits py) (cs : List Char) {k m n : ℕ}
    (hm : m < 10 ^ k) (hn : cs.foldl (fun n c => match n, py.decimal c with
      | some n, some d => some (10 * n + d)
      | _, _ => none) (some m) = some n) : n < 10 ^ (k + cs.length) := by
  induction cs generalizing k m with
  | nil =>
    rw [← Option.some.inj hn]
    exact hm
  | cons c cs ih =>
    rw [List.foldl_cons] at hn
    cases hd : py.decimal c with
    | none =>
      rw [hd] at hn
      rw [show _ = none from foldDigits_none py cs] at hn
      cases hn
    | some d =>
      rw [hd] at hn
      have hten := hpy.lt c d hd
      have hnext : 10 * m + d < 10 ^ (k + 1) := by
        rw [Nat.pow_succ]
        omega
      rw [List.length_cons, show k + (cs.length + 1) = k + 1 + cs.length by omega]
      exact ih hnext hn

/-- A number of at most 4300 digits is printed with as many. -/
theorem toDigits_length_of_intOfDigits {py : StrMethods} (hpy : DecimalDigits py) {cs : List Char}
    {n : ℕ} (h : intOfDigits py cs = some n) : (Nat.toDigits 10 n).length ≤ 4300 := by
  unfold intOfDigits at h
  split_ifs at h with hlong
  have hn := foldDigits_lt hpy cs (k := 0) (by decide) h
  rw [Nat.zero_add] at hn
  have hdigits := (Nat.length_toDigits_le_iff (by decide) (by decide)).2
    (lt_of_lt_of_le hn (Nat.pow_le_pow_right (by decide) (Nat.not_lt.1 hlong)))
  exact hdigits

theorem intOfDigits_toString (py : StrMethods) {n : ℕ} (hn : (Nat.toDigits 10 n).length ≤ 4300) :
    intOfDigits py (toString n).toList = some n := by
  rw [Nat.toString_eq_ofList_toDigits, String.toList_ofList, PyInt.intOfDigits_digits py hn
    (fun c hc => Nat.isDigit_of_mem_toDigits (by decide) (by decide) hc),
    Nat.ofDigitChars_ten_toDigits]

/-! ## The lines of an answer -/

section Lines

variable {py : StrMethods}

theorem isDecimal_of_isDigit {c : Char} (h : c.isDigit = true) : isDecimal py c = true := by
  rw [isDecimal, py.decimal_ascii c h]
  rfl

theorem not_isDecimal {c : Char} (hascii : c.toNat < 128) (h : c.isDigit = false) :
    isDecimal py c = false := by
  rw [isDecimal, py.decimal_ascii_none c hascii h]
  rfl

/-- A printed number. -/
theorem toString_digits (n : ℕ) :
    (∀ c ∈ (toString n).toList, isDecimal py c = true) ∧ (toString n).toList ≠ [] := by
  rw [Nat.toString_eq_ofList_toDigits, String.toList_ofList]
  refine ⟨fun c hc => isDecimal_of_isDigit (Nat.isDigit_of_mem_toDigits (by decide) (by decide) hc),
    ?_⟩
  exact Nat.toDigits_ne_nil

/-- A printed number does not start with a blank. -/
theorem toString_cons (n : ℕ) :
    ∃ c cs, (toString n).toList = c :: cs ∧ PyStr.isSpace c = false := by
  obtain ⟨c, cs, hcons⟩ := List.exists_cons_of_ne_nil (@toString_digits .ascii n).2
  refine ⟨c, cs, hcons, PyInt.isSpace_of_isDigit ?_⟩
  have hmem : c ∈ (toString n).toList := hcons ▸ List.mem_cons_self
  rw [Nat.toString_eq_ofList_toDigits, String.toList_ofList] at hmem
  exact Nat.isDigit_of_mem_toDigits (by decide) (by decide) hmem

/-- A text of digits and dots. -/
def DottedText (py : StrMethods) (s : String) : Prop :=
  ∀ c ∈ s.toList, (isDecimal py c || c = '.') = true

/-- A text that does not start with a blank. -/
def StartsSolid (cs : List Char) : Prop := ∃ c cs', cs = c :: cs' ∧ PyStr.isSpace c = false

theorem startsSolid_of_forall {cs : List Char} (hne : cs ≠ [])
    (h : ∀ c ∈ cs, PyStr.isSpace c = false) : StartsSolid cs := by
  obtain ⟨c, cs', rfl⟩ := List.exists_cons_of_ne_nil hne
  exact ⟨c, cs', rfl, h c List.mem_cons_self⟩

theorem matchAt_blank {cs : List Char} (hcs : StartsSolid cs) (rest : List Char) :
    (Rx.plus PyStr.isSpace).matchAt (' ' :: (cs ++ rest)) = some ⟨cs ++ rest, []⟩ := by
  obtain ⟨c, cs', rfl, hc⟩ := hcs
  have hblank : ∀ c ∈ [' '], PyStr.isSpace c = true := List.all_eq_true.1 (by decide)
  exact Rx.matchAt_plus hblank (List.cons_ne_nil _ _) hc (cs' ++ rest)

theorem startsSolid_dotted (hpy : DecimalDigits py) {ip : String} (hip : DottedText py ip)
    (hne : ip ≠ "") : StartsSolid ip.toList := by
  refine startsSolid_of_forall (fun h => hne (String.toList_eq_nil_iff.1 h)) fun c hc => ?_
  have hclass := hip c hc
  by_contra hblank
  rw [Bool.not_eq_false] at hblank
  rw [isDecimal, hpy.notSpace c hblank, Option.isSome_none, Bool.false_or,
    decide_eq_true_iff] at hclass
  rw [hclass] at hblank
  exact absurd hblank (by decide)

theorem connectionRe_fields (hpy : DecimalDigits py) {ip : String} (hip : DottedText py ip)
    (hne : ip ≠ "") (rest : List Char) : ∃ r, connectionRe py = .seq (.lit ['c', '=', 'I', 'N']) r ∧
      r.matchAt (' ' :: (['I', 'P', '4'] ++ ' ' :: (ip.toList ++ '\r' :: rest))) =
        some ⟨'\r' :: rest, [(1, ip.toList)]⟩ := by
  have hend : (isDecimal py '\r' || decide ('\r' = '.')) = false := by
    rw [not_isDecimal (by decide) (by decide)]
    decide
  have hlit : "c=IN".toList = ['c', '=', 'I', 'N'] ∧ "IP4".toList = ['I', 'P', '4'] := by decide
  rw [connectionRe, hlit.1, hlit.2]
  refine ⟨_, rfl, ?_⟩
  have hgroup :=
    Rx.matchAt_group 1 (Rx.matchAt_plus hip (fun h => hne (String.toList_eq_nil_iff.1 h)) hend rest)
  have haddress := Rx.matchAt_seq (matchAt_blank (startsSolid_dotted hpy hip hne) _) hgroup
  have hip4 := Rx.matchAt_seq (Rx.matchAt_lit ['I', 'P', '4'] _) haddress
  exact Rx.matchAt_seq (matchAt_blank ⟨'I', ['P', '4'], rfl, by decide⟩ _) hip4

/-- The media line of an answer, with the payload type `pt`. -/
theorem mediaLineRe_fields (port pt : ℕ) (rest : List Char) :
    ∃ r, mediaLineRe py = .seq (.lit ['m', '=', 'a', 'u', 'd', 'i', 'o']) r ∧
      r.matchAt (' ' ::
        ((toString port).toList ++ ' ' :: (['R', 'T', 'P', '/', 'S', 'A', 'V', 'P'] ++ ' ' ::
          (((toString pt).toList ++ [' ', '1', '2', '6', '\r', '\n']) ++ 'a' :: rest)))) =
        some ⟨'a' :: rest, [(1, (toString port).toList),
          (2, (toString pt).toList ++ [' ', '1', '2', '6', '\r', '\n'])]⟩ := by
  have hend : isDecimal py ' ' = false ∧ (isDecimal py 'a' || PyStr.isSpace 'a') = false := by
    rw [not_isDecimal (by decide) (by decide), not_isDecimal (by decide) (by decide)]
    decide
  have hprofile : ∀ c ∈ ['R', 'T', 'P', '/', 'S', 'A', 'V', 'P'], (!PyStr.isSpace c) = true :=
    List.all_eq_true.1 (by decide)
  have hformats : ∀ c ∈ (toString pt).toList ++ [' ', '1', '2', '6', '\r', '\n'],
      (isDecimal py c || PyStr.isSpace c) = true := by
    have hspecial : ∀ c ∈ [' ', '1', '2', '6', '\r', '\n'], c.isDigit = true ∨
        PyStr.isSpace c = true := by
      simp only [List.forall_mem_cons, List.not_mem_nil, false_imp_iff, implies_true, and_true]
      decide
    intro c hc
    rw [Bool.or_eq_true]
    rcases List.mem_append.1 hc with hc | hc
    · exact .inl ((toString_digits pt).1 c hc)
    · rcases hspecial c hc with hdigit | hspace
      · exact .inl (isDecimal_of_isDigit hdigit)
      · exact .inr hspace
  have hlit : "m=audio".toList = ['m', '=', 'a', 'u', 'd', 'i', 'o'] := by decide
  obtain ⟨c, cs, hcons, hc⟩ := toString_cons pt
  have hsolid : StartsSolid ((toString pt).toList ++ [' ', '1', '2', '6', '\r', '\n']) :=
    ⟨c, cs ++ _, by rw [hcons]; rfl, hc⟩
  rw [mediaLineRe, hlit]
  refine ⟨_, rfl, ?_⟩
  have hpts := Rx.matchAt_seq (matchAt_blank hsolid _) (Rx.matchAt_group 2 (Rx.matchAt_plus hformats
    (List.append_ne_nil_of_left_ne_nil (@toString_digits py pt).2 _) hend.2 rest))
  have hprofiles := Rx.matchAt_seq (matchAt_blank ⟨'R', _, rfl, by decide⟩ _)
    (Rx.matchAt_seq (Rx.matchAt_plus hprofile (List.cons_ne_nil _ _) (c := ' ') (by decide) _) hpts)
  have hport := Rx.matchAt_seq (Rx.matchAt_group 1 (Rx.matchAt_plus (toString_digits port).1
    (@toString_digits py port).2 hend.1 _)) hprofiles
  exact Rx.matchAt_seq (matchAt_blank (toString_cons port) _) hport

/-- An `rtpmap` line. -/
theorem rtpmapRe_fields {number codec : List Char} (hnumber : ∀ c ∈ number, isDecimal py c = true)
    (hne : number ≠ []) (hcodec : ∀ c ∈ codec, PyStr.isSpace c = false) (hne' : codec ≠ [])
    (rest : List Char) :
    ∃ r, rtpmapRe py = .seq (.lit ['a', '=', 'r', 't', 'p', 'm', 'a', 'p', ':']) r ∧
      r.matchAt (number ++ ' ' :: (codec ++ '\r' :: rest)) = some ⟨'\r' :: rest,
        [(1, number), (2, codec)]⟩ := by
  have hlit : "a=rtpmap:".toList = ['a', '=', 'r', 't', 'p', 'm', 'a', 'p', ':'] := by decide
  have hcodec' : ∀ c ∈ codec, (!PyStr.isSpace c) = true := fun c hc => by rw [hcodec c hc]; rfl
  rw [rtpmapRe, hlit]
  refine ⟨_, rfl, ?_⟩
  have hname := Rx.matchAt_seq (matchAt_blank (startsSolid_of_forall hne' hcodec) _)
    (Rx.matchAt_group 2 (Rx.matchAt_plus hcodec' hne' (c := '\r') (by decide) rest))
  exact Rx.matchAt_seq
    (Rx.matchAt_group 1 (Rx.matchAt_plus hnumber hne (not_isDecimal (by decide) (by decide)) _))
    hname

/-- An `fmtp` line. -/
theorem fmtpRe_fields {number params : List Char} (hnumber : ∀ c ∈ number, isDecimal py c = true)
    (hne : number ≠ []) (hparams : ∀ c ∈ params, c ≠ '\n') (hsolid : StartsSolid params)
    (rest : List Char) : ∃ r, fmtpRe py = .seq (.lit ['a', '=', 'f', 'm', 't', 'p', ':']) r ∧
      r.matchAt (number ++ ' ' :: (params ++ '\n' :: rest)) = some ⟨'\n' :: rest,
        [(1, number), (2, params)]⟩ := by
  have hlit : "a=fmtp:".toList = ['a', '=', 'f', 'm', 't', 'p', ':'] := by decide
  have hparams' : ∀ c ∈ params, decide (c ≠ '\n') = true :=
    fun c hc => decide_eq_true (hparams c hc)
  rw [fmtpRe, hlit]
  refine ⟨_, rfl, ?_⟩
  have hvalue := Rx.matchAt_seq (matchAt_blank hsolid _)
    (Rx.matchAt_group 2 (Rx.matchAt_many hparams' (c := '\n') (by decide) rest))
  exact Rx.matchAt_seq
    (Rx.matchAt_group 1 (Rx.matchAt_plus hnumber hne (not_isDecimal (by decide) (by decide)) _))
    hvalue

/-! ## Searches in an answer -/

variable {ip : AdvertisedIp} (port pt : ℕ) (key : KeyMaterial)

/-- The lines of an answer up to its media line. -/
def originLines (ip : AdvertisedIp) : List Char :=
  "v=0\r\no=ekaette 0 0 IN IP4 ".toList ++ (ip.text.toList ++ "\r\ns=Ekaette SIP Bridge\r".toList)

/-- An answer from its connection line on. -/
def connectionLines (ip : AdvertisedIp) (cs : List Char) : List Char :=
  ['c', '=', 'I', 'N'] ++ (' ' :: (['I', 'P', '4'] ++ ' ' :: (ip.text.toList ++ '\r' :: cs)))

/-- An answer from its media line to its crypto line. -/
def mediaLines (port pt : ℕ) (cs : List Char) : List Char :=
  ['m', '=', 'a', 'u', 'd', 'i', 'o'] ++ (' ' :: ((toString port).toList ++
    ' ' :: (['R', 'T', 'P', '/', 'S', 'A', 'V', 'P'] ++ ' ' ::
      (((toString pt).toList ++ [' ', '1', '2', '6', '\r', '\n']) ++ cs))))

def rtpmapLine (number codec cs : List Char) : List Char :=
  ['a', '=', 'r', 't', 'p', 'm', 'a', 'p', ':'] ++ (number ++ ' ' :: (codec ++ '\r' :: cs))

def fmtpLine (number params cs : List Char) : List Char :=
  ['a', '=', 'f', 'm', 't', 'p', ':'] ++ (number ++ ' ' :: (params ++ '\n' :: cs))

/-- The parameters of the Opus line. -/
def opusParams : List Char := "maxplaybackrate=16000;useinbandfec=1\r".toList

def opusCodec : List Char := "opus/48000/2".toList

def eventCodec : List Char := "telephone-event/8000".toList

/-- The lines behind the Opus lines. -/
def eventLines : List Char :=
  rtpmapLine ['1', '2', '6'] eventCodec "\na=ptime:20\r\na=maxptime:20\r\na=sendrecv\r\n".toList

/-- An answer from its `rtpmap` line on. -/
def opusLines (pt : ℕ) : List Char :=
  rtpmapLine (toString pt).toList opusCodec
    ('\n' :: fmtpLine (toString pt).toList opusParams eventLines)

theorem connectionText : "\r\ns=Ekaette SIP Bridge\r\nc=IN IP4 ".toList =
    "\r\ns=Ekaette SIP Bridge\r".toList ++ ['\n', 'c', '=', 'I', 'N', ' ', 'I', 'P', '4', ' '] :=
    rfl

theorem mediaText : "\r\nt=0 0\r\nm=audio ".toList =
    '\r' :: ("\nt=0 0\r".toList ++ ['\n', 'm', '=', 'a', 'u', 'd', 'i', 'o', ' ']) := rfl

theorem toList_generateSdpAnswer (ip : AdvertisedIp) :
    (generateSdpAnswer ip port (some pt) key).toList =
      originLines ip ++ ['\n'] ++ connectionLines ip
      ("\nt=0 0\r".toList ++ ['\n'] ++ mediaLines port pt
        ((formatCryptoLine 1 key suite80).toList ++ ['\r'] ++ ['\n'] ++ opusLines pt)) := by
  have hprofile : " RTP/SAVP ".toList = [' ', 'R', 'T', 'P', '/', 'S', 'A', 'V', 'P', ' '] ∧
      " 126\r\n".toList = [' ', '1', '2', '6', '\r', '\n'] := ⟨rfl, rfl⟩
  have hopus : "\r\na=rtpmap:".toList = ['\r', '\n', 'a', '=', 'r', 't', 'p', 'm', 'a', 'p', ':'] ∧
      " opus/48000/2\r\na=fmtp:".toList =
        ' ' :: ("opus/48000/2".toList ++ ['\r', '\n', 'a', '=', 'f', 'm', 't', 'p', ':']) :=
        ⟨rfl, rfl⟩
  have hparams : " maxplaybackrate=16000;useinbandfec=1\r\n".toList =
      ' ' :: ("maxplaybackrate=16000;useinbandfec=1\r".toList ++ ['\n']) := rfl
  have hevents :
    "a=rtpmap:126 telephone-event/8000\r\na=ptime:20\r\na=maxptime:20\r\na=sendrecv\r\n".toList =
      ['a', '=', 'r', 't', 'p', 'm', 'a', 'p', ':', '1', '2', '6', ' '] ++
      ("telephone-event/8000".toList ++
        '\r' :: "\na=ptime:20\r\na=maxptime:20\r\na=sendrecv\r\n".toList) := rfl
  delta generateSdpAnswer sdpAnswerHead sdpAnswerTail originLines connectionLines mediaLines
    opusLines fmtpLine eventLines rtpmapLine opusParams opusCodec eventCodec
  simp only [String.toList_append, payloadTypeText]
  rw [connectionText, mediaText, hprofile.1, hprofile.2, hopus.1, hopus.2, hparams, hevents]
  simp only [List.append_assoc, List.cons_append, List.nil_append]

theorem not_mem_toString {c : Char} (hc : c.isDigit = false) (n : ℕ) : c ∉ (toString n).toList := by
  rw [Nat.toString_eq_ofList_toDigits, String.toList_ofList]
  intro hmem
  rw [Nat.isDigit_of_mem_toDigits (by decide) (by decide) hmem] at hc
  cases hc

theorem not_mem_dotted {c : Char} (hascii : c.toNat < 128) (hdigit : c.isDigit = false)
    (hdot : c ≠ '.') {s : String} (hs : DottedText py s) : c ∉ s.toList := by
  intro hmem
  have hclass := hs c hmem
  rw [not_isDecimal hascii hdigit, Bool.false_or, decide_eq_true_iff] at hclass
  exact hdot hclass

theorem search_connectionRe (hpy : DecimalDigits py) (hip : DottedText py ip.text)
    (hne : ip.text ≠ "") (cs : List Char) :
    (connectionRe py).search (originLines ip ++ ['\n'] ++ connectionLines ip cs) =
      some ⟨'\r' :: cs, [(1, ip.text.toList)]⟩ := by
  obtain ⟨r, hre, hfields⟩ := connectionRe_fields hpy hip hne cs
  have hpair : Rx.NoPair 'c' '=' (originLines ip) :=
    Rx.noPair_splice (by decide) (by decide) ip.plain (by decide) (by decide)
  rw [hre]
  exact Rx.search_lit_seq_of_lines (by decide) (Rx.not_infix_of_noPair ⟨[], ['I', 'N'], rfl⟩ hpair)
    hfields

theorem search_mediaLineRe {cs rest : List Char} (hcs : cs = 'a' :: rest) :
    (mediaLineRe py).search (originLines ip ++ ['\n'] ++ connectionLines ip
        ("\nt=0 0\r".toList ++ ['\n'] ++ mediaLines port pt cs)) =
      some ⟨cs, [(1, (toString port).toList),
        (2, (toString pt).toList ++ [' ', '1', '2', '6', '\r', '\n'])]⟩ := by
  obtain ⟨r, hre, hfields⟩ := @mediaLineRe_fields py port pt rest
  have hpair : Rx.NoPair 'm' '=' ("v=0\r\no=ekaette 0 0 IN IP4 ".toList ++ (ip.text.toList ++
      ("\r\ns=Ekaette SIP Bridge\r\nc=IN IP4 ".toList ++
        (ip.text.toList ++ "\r\nt=0 0\r".toList)))) :=
    Rx.noPair_splice (by decide) (by decide) ip.plain
      (Rx.noPair_splice (by decide) (by decide) ip.plain (by decide) (by decide)) (by simp)
  have hinside :=
    Rx.not_infix_of_noPair (l := ['m', '=', 'a', 'u', 'd', 'i', 'o']) ⟨[], _, rfl⟩ hpair
  have htext : originLines ip ++ ['\n'] ++ connectionLines ip ("\nt=0 0\r".toList ++ ['\n'] ++
        mediaLines port pt cs) =
      ("v=0\r\no=ekaette 0 0 IN IP4 ".toList ++
        (ip.text.toList ++ ("\r\ns=Ekaette SIP Bridge\r\nc=IN IP4 ".toList ++
        (ip.text.toList ++ "\r\nt=0 0\r".toList)))) ++ ['\n'] ++ mediaLines port pt cs := by
    have htime : "\r\nt=0 0\r".toList = '\r' :: "\nt=0 0\r".toList := rfl
    rw [connectionText, htime]
    delta originLines connectionLines
    simp only [List.append_assoc, List.cons_append, List.nil_append]
  rw [hre, htext, hcs]
  exact Rx.search_lit_seq_of_lines (by decide) hinside hfields

/-- An answer up to its crypto line. -/
def answerHead (ip : AdvertisedIp) (port pt : ℕ) (key : KeyMaterial) : List Char :=
  "v=0\r\no=ekaette 0 0 IN IP4 ".toList ++
    (ip.text.toList ++ ("\r\ns=Ekaette SIP Bridge\r\nc=IN IP4 ".toList ++
    (ip.text.toList ++
      ("\r\nt=0 0\r\nm=audio ".toList ++ ((toString port).toList ++ (" RTP/SAVP ".toList ++
      ((toString pt).toList ++ (" 126\r\na=crypto:1 AES_CM_128_HMAC_SHA1_80 inline:".toList ++
        (Base64.encode key.bytes ++ "\r".toList)))))))))

theorem toList_generateSdpAnswer_opus (ip : AdvertisedIp) :
    (generateSdpAnswer ip port (some pt) key).toList = answerHead ip port pt key ++ ['\n'] ++
    opusLines pt := by
  have hcrypto : " 126\r\na=crypto:1 AES_CM_128_HMAC_SHA1_80 inline:".toList =
      [' ', '1', '2', '6', '\r', '\n'] ++ (cryptoMark ++ ('1' :: ' ' :: (suite80.toList ++
        [' ', 'i', 'n', 'l', 'i', 'n', 'e', ':']))) := rfl
  have hprofile : " RTP/SAVP ".toList = [' ', 'R', 'T', 'P', '/', 'S', 'A', 'V', 'P', ' '] ∧
      "\r".toList = ['\r'] := ⟨rfl, rfl⟩
  rw [toList_generateSdpAnswer, toList_formatCryptoLine]
  delta answerHead originLines connectionLines mediaLines
  rw [hcrypto, connectionText, mediaText, hprofile.1, hprofile.2]
  simp only [List.append_assoc, List.cons_append, List.nil_append]

theorem answerHead_noPair (hip : ':' ∉ ip.text.toList) :
    Rx.NoPair 'p' ':' (answerHead ip port pt key) := by
  have hkey : ':' ∉ Base64.encode key.bytes := fun hmem =>
    absurd (Base64.encode_isBase64 key.bytes _ hmem) (by decide)
  delta answerHead
  refine Rx.noPair_splice (by decide) (by decide) hip ?_ (by simp)
  refine Rx.noPair_splice (by decide) (by decide) hip ?_ (by simp)
  refine Rx.noPair_splice (by decide) (by decide) (not_mem_toString (by decide) port) ?_ (by simp)
  refine Rx.noPair_splice (by decide) (by decide) (not_mem_toString (by decide) pt) ?_ (by simp)
  exact Rx.noPair_splice (by decide) (by decide) hkey (by decide) (by decide)

/-- The mark of an `rtpmap` line. -/
def rtpmapMark : List Char := ['a', '=', 'r', 't', 'p', 'm', 'a', 'p', ':']

/-- **Two `rtpmap` lines** are found. -/
theorem findAll_rtpmapRe (hip : ':' ∉ ip.text.toList) :
    ∃ rest rest', (rtpmapRe py).findAll (answerHead ip port pt key ++ ['\n'] ++ opusLines pt) =
      [⟨rest, [(1, (toString pt).toList), (2, opusCodec)]⟩,
        ⟨rest', [(1, ['1', '2', '6']), (2, eventCodec)]⟩] := by
  have hcodec : (∀ c ∈ opusCodec, PyStr.isSpace c = false) ∧ opusCodec ≠ [] ∧
      (∀ c ∈ eventCodec, PyStr.isSpace c = false) ∧ eventCodec ≠ [] := by
    refine ⟨?_, by decide, ?_, by decide⟩
    · simpa using (show opusCodec.all (fun c => !PyStr.isSpace c) = true from rfl)
    · simpa using (show eventCodec.all (fun c => !PyStr.isSpace c) = true from rfl)
  have hdigits : ∀ c ∈ ['1', '2', '6'], isDecimal py c = true := by
    intro c hc
    refine isDecimal_of_isDigit ?_
    simp only [List.mem_cons, List.not_mem_nil, or_false] at hc
    rcases hc with rfl | rfl | rfl
    · rfl
    · rfl
    · rfl
  -- the line of Opus
  have hfirst : (rtpmapRe py).search (answerHead ip port pt key ++ ['\n'] ++ opusLines pt) = some
      ⟨'\r' :: ('\n' :: fmtpLine (toString pt).toList opusParams eventLines),
        [(1, (toString pt).toList), (2, opusCodec)]⟩ := by
    obtain ⟨r, hre, hfields⟩ := rtpmapRe_fields (@toString_digits py pt).1
      (@toString_digits py pt).2
      hcodec.1 hcodec.2.1 ('\n' :: fmtpLine (toString pt).toList opusParams eventLines)
    rw [hre]
    exact Rx.search_lit_seq_of_lines (by decide)
      (Rx.not_infix_of_noPair ⟨['a', '=', 'r', 't', 'p', 'm', 'a'], [], rfl⟩
        (answerHead_noPair port pt key hip)) hfields
  -- the line of telephone events
  have hsecond : (rtpmapRe py).search
    ('\r' :: ('\n' :: fmtpLine (toString pt).toList opusParams eventLines)) = some
      ⟨'\r' :: "\na=ptime:20\r\na=maxptime:20\r\na=sendrecv\r\n".toList,
        [(1, ['1', '2', '6']), (2, eventCodec)]⟩ := by
    obtain ⟨r, hre, hfields⟩ := @rtpmapRe_fields py _ _ hdigits (List.cons_ne_nil _ _) hcodec.2.2.1
      hcodec.2.2.2 "\na=ptime:20\r\na=maxptime:20\r\na=sendrecv\r\n".toList
    have hpair :
    Rx.NoPair 'r' 't' (['\r', '\n', 'a', '=', 'f', 'm', 't', 'p', ':'] ++ ((toString pt).toList ++
        (' ' :: opusParams))) :=
      Rx.noPair_splice (by decide) (by decide) (not_mem_toString (by decide) pt) (by decide)
        (by decide)
    have htext : '\r' :: ('\n' :: fmtpLine (toString pt).toList opusParams eventLines) =
        (['\r', '\n', 'a', '=', 'f', 'm', 't', 'p', ':'] ++
          ((toString pt).toList ++ (' ' :: opusParams))) ++ ['\n'] ++ eventLines := by
      delta fmtpLine
      simp only [List.append_assoc, List.cons_append, List.nil_append]
    rw [hre, htext]
    exact Rx.search_lit_seq_of_lines (by decide)
      (Rx.not_infix_of_noPair ⟨['a', '='], ['p', 'm', 'a', 'p', ':'], rfl⟩ hpair) hfields
  have hthird : (rtpmapRe py).search
      ('\r' :: "\na=ptime:20\r\na=maxptime:20\r\na=sendrecv\r\n".toList) = none := by
    have hlit : "a=rtpmap:".toList = rtpmapMark := by decide
    rw [rtpmapRe, hlit]
    exact Rx.search_lit_seq_eq_none _
      (Rx.not_infix_of_noPair (a := 'r') (b := 't') ⟨['a', '='], ['p', 'm', 'a', 'p', ':'], rfl⟩
        (by decide))
  obtain ⟨n, hn⟩ : ∃ n, (answerHead ip port pt key ++ ['\n'] ++ opusLines pt).length = n + 3 := by
    refine ⟨(answerHead ip port pt key ++ ['\n'] ++ opusLines pt).length - 3, ?_⟩
    have hlong : 3 ≤ (opusLines pt).length := by
      delta opusLines rtpmapLine
      rw [List.length_append, List.length_cons, List.length_cons, List.length_cons]
      omega
    rw [List.length_append]
    omega
  have hfound : (rtpmapRe py).findAll (answerHead ip port pt key ++ ['\n'] ++ opusLines pt) =
      [⟨'\r' :: ('\n' :: fmtpLine (toString pt).toList opusParams eventLines),
          [(1, (toString pt).toList), (2, opusCodec)]⟩,
        ⟨'\r' :: "\na=ptime:20\r\na=maxptime:20\r\na=sendrecv\r\n".toList,
          [(1, ['1', '2', '6']), (2, eventCodec)]⟩] := by
    rw [Rx.findAll, hn, Rx.searchN, hfirst]
    dsimp only
    rw [Rx.searchN, hsecond]
    dsimp only
    rw [Rx.searchN, hthird]
  exact ⟨_, _, hfound⟩

/-- **One `fmtp` line** is found. -/
theorem findAll_fmtpRe (hip : ':' ∉ ip.text.toList) :
    ∃ rest, (fmtpRe py).findAll (answerHead ip port pt key ++ ['\n'] ++ opusLines pt) =
      [⟨rest, [(1, (toString pt).toList), (2, opusParams)]⟩] := by
  have hparams : (∀ c ∈ opusParams, c ≠ '\n') ∧ StartsSolid opusParams := by
    refine ⟨?_, 'm', "axplaybackrate=16000;useinbandfec=1\r".toList, rfl, by decide⟩
    simpa using (show opusParams.all (fun c => c ≠ '\n') = true from rfl)
  have hfirst : (fmtpRe py).search (answerHead ip port pt key ++ ['\n'] ++ opusLines pt) = some
      ⟨'\n' :: eventLines, [(1, (toString pt).toList), (2, opusParams)]⟩ := by
    obtain ⟨r, hre, hfields⟩ := fmtpRe_fields (@toString_digits py pt).1 (@toString_digits py pt).2
      hparams.1 hparams.2 eventLines
    have hline : Rx.NoPair 'f' 'm'
        (rtpmapMark ++ ((toString pt).toList ++ (' ' :: (opusCodec ++ ['\r'])))) :=
      Rx.noPair_splice (by decide) (by decide) (not_mem_toString (by decide) pt) (by decide)
        (by decide)
    have hbefore : ¬ ['a', '=', 'f', 'm', 't', 'p', ':'] <:+: answerHead ip port pt key ++ '\n' ::
        (rtpmapMark ++ ((toString pt).toList ++ (' ' :: (opusCodec ++ ['\r'])))) := by
      intro hinside
      rcases Rx.infix_of_infix_append_cons (by decide) hinside with hhead | hopus
      · exact Rx.not_infix_of_noPair ⟨['a', '=', 'f', 'm', 't'], [], rfl⟩
          (answerHead_noPair port pt key hip) hhead
      · exact Rx.not_infix_of_noPair ⟨['a', '='], ['t', 'p', ':'], rfl⟩ hline hopus
    have htext : answerHead ip port pt key ++ ['\n'] ++ opusLines pt =
        (answerHead ip port pt key ++ '\n' ::
          (rtpmapMark ++ ((toString pt).toList ++ (' ' :: (opusCodec ++ ['\r'])))))
          ++ ['\n'] ++ fmtpLine (toString pt).toList opusParams eventLines := by
      delta opusLines rtpmapLine rtpmapMark
      simp only [List.append_assoc, List.cons_append, List.nil_append]
    rw [hre, htext]
    exact Rx.search_lit_seq_of_lines (by decide) hbefore hfields
  have hsecond : (fmtpRe py).search ('\n' :: eventLines) = none := by
    have hlit : "a=fmtp:".toList = ['a', '=', 'f', 'm', 't', 'p', ':'] := by decide
    rw [fmtpRe, hlit]
    exact Rx.search_lit_seq_eq_none _
      (Rx.not_infix_of_noPair (a := 'f') (b := 'm') ⟨['a', '='], ['t', 'p', ':'], rfl⟩
        (by decide +kernel))
  obtain ⟨n, hn⟩ : ∃ n, (answerHead ip port pt key ++ ['\n'] ++ opusLines pt).length = n + 2 := by
    refine ⟨(answerHead ip port pt key ++ ['\n'] ++ opusLines pt).length - 2, ?_⟩
    have hlong : 2 ≤ (opusLines pt).length := by
      delta opusLines rtpmapLine
      rw [List.length_append, List.length_cons, List.length_cons, List.length_cons]
      omega
    rw [List.length_append]
    omega
  have hfound : (fmtpRe py).findAll (answerHead ip port pt key ++ ['\n'] ++ opusLines pt) =
      [⟨'\n' :: eventLines, [(1, (toString pt).toList), (2, opusParams)]⟩] := by
    rw [Rx.findAll, hn, Rx.searchN, hfirst]
    dsimp only
    rw [Rx.searchN, hsecond]
  exact ⟨_, hfound⟩

theorem search_maxPlaybackRateRe :
    ∃ rest, (maxPlaybackRateRe py).search opusParams = some ⟨rest,
      [(1, ['1', '6', '0', '0', '0'])]⟩ := by
  have hdigits : ∀ c ∈ ['1', '6', '0', '0', '0'], isDecimal py c = true := by
    have hall : ∀ c ∈ ['1', '6', '0', '0', '0'], c.isDigit = true := List.all_eq_true.1 (by decide)
    exact fun c hc => isDecimal_of_isDigit (hall c hc)
  have hparams : opusParams = "maxplaybackrate=".toList ++
      (['1', '6', '0', '0', '0'] ++ ';' :: "useinbandfec=1\r".toList) := rfl
  rw [hparams, maxPlaybackRateRe]
  have hrate := Rx.matchAt_group 1 (Rx.matchAt_plus hdigits (List.cons_ne_nil _ _) (c := ';')
    (not_isDecimal (by decide) (by decide)) "useinbandfec=1\r".toList)
  exact ⟨_, Rx.search_of_matchAt (Rx.matchAt_seq (Rx.matchAt_lit "maxplaybackrate=".toList _)
    hrate)⟩

theorem groupInt_first (rest : List Char) (number text : List Char) :
    groupInt py ⟨rest, [(1, number), (2, text)]⟩ 1 = intOfDigits py number := rfl

theorem readRtpmap_opusCodec {pt : ℕ} (hpt : (Nat.toDigits 10 pt).length ≤ 4300) (sdp : RemoteSdp)
    (rest : List Char) : readRtpmap py sdp ⟨rest, [(1, (toString pt).toList), (2, opusCodec)]⟩ =
      some { sdp with opusPayloadType := some pt } := by
  have hlower : "opus/".toList.isPrefixOf (py.lower (String.ofList opusCodec)).toList = true := by
    rw [py.lower_ascii _ (of_decide_eq_true rfl)]
    rfl
  rw [readRtpmap, groupInt_first, intOfDigits_toString py hpt, Option.map_some]
  exact congrArg some (if_pos hlower)

theorem readRtpmap_eventCodec (sdp : RemoteSdp) (rest : List Char) :
    readRtpmap py sdp ⟨rest, [(1, ['1', '2', '6']), (2, eventCodec)]⟩ =
      some { sdp with dtmfPayloadType := some 126 } := by
  have hlower : "opus/".toList.isPrefixOf (py.lower (String.ofList eventCodec)).toList = false ∧
      "telephone-event/".toList.isPrefixOf (py.lower (String.ofList eventCodec)).toList = true := by
    rw [py.lower_ascii _ (of_decide_eq_true rfl)]
    exact ⟨rfl, rfl⟩
  rw [readRtpmap, groupInt_first, PyInt.intOfDigits_digits py (by simp) (by simp), Option.map_some]
  refine congrArg some ((if_neg ?_).trans (if_pos hlower.2))
  rw [Bool.not_eq_true]
  exact hlower.1

theorem readFmtp_opusParams {pt : ℕ} (hpt : (Nat.toDigits 10 pt).length ≤ 4300) (sdp : RemoteSdp)
    (rest : List Char) : readFmtp py pt sdp ⟨rest, [(1, (toString pt).toList), (2, opusParams)]⟩ =
      some { sdp with encodeRate := 16000 } := by
  obtain ⟨after, hrate⟩ := @search_maxPlaybackRateRe py
  have hparams : ([(1, (toString pt).toList), (2, opusParams)].lookup 2).getD [] = opusParams := rfl
  have hsample : groupInt py ⟨after, [(1, ['1', '6', '0', '0', '0'])]⟩ 1 = some 16000 := by
    show intOfDigits py ['1', '6', '0', '0', '0'] = some 16000
    exact PyInt.intOfDigits_digits py (by simp) (by simp)
  rw [readFmtp, groupInt_first, intOfDigits_toString py hpt, Option.bind_some, if_pos rfl, hparams,
    hrate]
  dsimp only
  rw [hsample, Option.map_some]

/-- **What an answer with a payload type says.** -/
theorem parseRemoteSdp_generateSdpAnswer (hpy : DecimalDigits py) (hip : DottedText py ip.text)
    (hne : ip.text ≠ "") (hport : (Nat.toDigits 10 port).length ≤ 4300)
    (hpt : (Nat.toDigits 10 pt).length ≤ 4300) :
    parseRemoteSdp py (generateSdpAnswer ip port (some pt) key) = some ⟨ip.text, port, some pt,
      16000, some 126⟩ := by
  have hcolon : ':' ∉ ip.text.toList := not_mem_dotted (by decide) (by decide) (by decide) hip
  obtain ⟨crypto, hcrypto⟩ : ∃ cs, (formatCryptoLine 1 key suite80).toList ++ ['\r'] ++ ['\n'] ++
      opusLines pt = 'a' :: cs := by
    rw [toList_formatCryptoLine]
    exact ⟨_, rfl⟩
  have hconnection := search_connectionRe hpy hip hne
    ("\nt=0 0\r".toList ++ ['\n'] ++ mediaLines port pt
    ((formatCryptoLine 1 key suite80).toList ++ ['\r'] ++ ['\n'] ++ opusLines pt))
  have hmedia := @search_mediaLineRe py ip port pt _ _ hcrypto
  rw [← toList_generateSdpAnswer] at hconnection hmedia
  obtain ⟨rest, rest', hrtpmap⟩ := @findAll_rtpmapRe py ip port pt key hcolon
  obtain ⟨rest'', hfmtp⟩ := @findAll_fmtpRe py ip port pt key hcolon
  rw [← toList_generateSdpAnswer_opus] at hrtpmap hfmtp
  have haddress : ((⟨'\r' :: ("\nt=0 0\r".toList ++ ['\n'] ++ mediaLines port pt
      ((formatCryptoLine 1 key suite80).toList ++ ['\r'] ++ ['\n'] ++ opusLines pt)),
        [(1, ip.text.toList)]⟩ : Rx.Match).group? 1).getD "" = ip.text := String.ofList_toList
  unfold parseRemoteSdp
  dsimp only
  rw [hconnection, hmedia, hrtpmap, hfmtp]
  dsimp only [Option.bind_some]
  rw [haddress, groupInt_first, intOfDigits_toString py hport, Option.bind_some, List.foldlM_cons,
    readRtpmap_opusCodec hpt, Option.bind_eq_bind, Option.bind_some, List.foldlM_cons,
    readRtpmap_eventCodec, Option.bind_eq_bind, Option.bind_some, List.foldlM_nil]
  dsimp only [Option.pure_def, Option.bind_some]
  rw [List.foldlM_cons, readFmtp_opusParams hpt, Option.bind_eq_bind, Option.bind_some,
    List.foldlM_nil]
  rfl

end Lines

/-! ## The round trip -/

/-- **An answer reads back** as what it advertises, and with an Opus payload type of the offer that
    is no other payload type of the answer. -/
structure AnswerReadsBack (py : StrMethods) (offer : String) (localIp : String) (localPort : ℕ)
    (answer : RemoteSdp) :
    Prop where
  ip : answer.mediaIp = localIp
  port : answer.mediaPort = localPort
  opus : ∃ pt, answer.opusPayloadType = some pt ∧ pt ∈ opusTypes py offer ∧
    answer.dtmfPayloadType ≠ some pt

/-- The last Opus line of an offer has another number than 126, the one of telephone events in the
    answers. -/
def OffersOpus (py : StrMethods) (offer : String) : Prop :=
  ∃ pt, (opusTypes py offer).getLast? = some pt ∧ pt ≠ 126

/-- The address that is read has digits and dots only. -/
theorem dottedText_mediaIp {py : StrMethods} {body : String} {sdp : RemoteSdp}
    (h : parseRemoteSdp py body = some sdp) : DottedText py sdp.mediaIp := by
  rw [(parseRemoteSdp_opus h).2]
  cases hsearch : (connectionRe py).search body.toList with
  | none => exact fun c hc => absurd hc List.not_mem_nil
  | some m =>
    obtain ⟨_, _, -, hm⟩ := Rx.mem_run_of_search hsearch
    obtain ⟨_, -, _, _, _, _, -, hgroups, hlit₁, _, _, _, _, -, rfl, hplus₁, _, _, _, _, -, rfl,
      hlit₂, _, _, w, _, -, rfl, hplus₂, _, rfl, hdotted⟩ := Rx.mem_run_iff.1 hm
    obtain ⟨hall, rfl⟩ := Rx.parses_plus hdotted
    rw [Rx.parses_lit hlit₁, (Rx.parses_plus hplus₁).2, Rx.parses_lit hlit₂,
      (Rx.parses_plus hplus₂).2] at hgroups
    rw [Option.bind_some, Rx.Match.group?, hgroups]
    show DottedText py (String.ofList w)
    rw [DottedText, String.toList_ofList]
    exact hall

/-- **Answers read back** exactly if the advertised address is one of digits and dots and the offer
    has Opus, its last Opus line with another number than the one of telephone events. -/
theorem answerReadsBack_iff {py : StrMethods} (hpy : DecimalDigits py) {offer : String}
    {offered : RemoteSdp} (hoffered : parseRemoteSdp py offer = some offered) {ip : AdvertisedIp}
    (hne : ip.text ≠ "") {port : ℕ} (hport : port < 65536) (key : KeyMaterial) :
    (∃ answer, parseRemoteSdp py (generateSdpAnswer ip port offered.opusPayloadType key) =
      some answer ∧
        AnswerReadsBack py offer ip.text port answer) ↔ DottedText py ip.text ∧
          OffersOpus py offer := by
  have hlast := (parseRemoteSdp_opus hoffered).1
  have hport' : (Nat.toDigits 10 port).length ≤ 4300 := by
    have hmax : port < 10 ^ 5 := by omega
    have hfive := (Nat.length_toDigits_le_iff (by decide) (by decide)).2 hmax
    omega
  have hdigits : ∀ pt, offered.opusPayloadType = some pt → (Nat.toDigits 10 pt).length ≤ 4300 := by
    intro pt hpt
    rw [hlast] at hpt
    obtain ⟨m, -, hm⟩ := List.mem_filterMap.1 (List.mem_of_getLast? hpt)
    unfold opusType? at hm
    split_ifs at hm
    exact toDigits_length_of_intOfDigits hpy hm
  constructor
  · rintro ⟨answer, hanswer, hip, -, pt, hpt, hmem, hdtmf⟩
    have hdotted : DottedText py ip.text := hip ▸ dottedText_mediaIp hanswer
    refine ⟨hdotted, ?_⟩
    cases hlast' : offered.opusPayloadType with
    | none =>
      rw [hlast] at hlast'
      rw [List.getLast?_eq_none_iff.1 hlast'] at hmem
      exact absurd hmem List.not_mem_nil
    | some last =>
      rw [hlast', parseRemoteSdp_generateSdpAnswer port last key hpy hdotted hne hport'
        (hdigits last hlast'), Option.some.injEq] at hanswer
      rw [← hanswer] at hdtmf hpt
      rw [← Option.some.inj hpt] at hdtmf
      exact ⟨last, hlast ▸ hlast', fun h => hdtmf (congrArg some h.symm)⟩
  · rintro ⟨hdotted, pt, hpt, hne126⟩
    have hopus : offered.opusPayloadType = some pt := hlast.trans hpt
    rw [hopus]
    refine ⟨_, parseRemoteSdp_generateSdpAnswer port pt key hpy hdotted hne hport'
      (hdigits pt hopus), rfl, rfl,
      pt, rfl, List.mem_of_getLast? hpt, fun h => hne126 (Option.some.inj h).symm⟩

/-- **SDP answers of accepted calls.** -/
theorem sdpAnswer_readsBack_iff (cfg : WaConfig) (hpy : DecimalDigits cfg.py) (media : MediaConfig)
    (s : WaServer) (invite : SipMessage) (peerIp : String) (nonce : HexNonce) (tag : String)
    (draws : MediaDraws) (publicIp : String) (discovered : Option String)
    (hip : draws.localIp.text = resolveAdvertisedIp cfg.sipHost publicIp discovered)
    (hport : draws.localMediaPort < 65536)
    (haccept : AcceptsInvite invite
      ((waMachine cfg).entry s (wiredInvite cfg media invite peerIp nonce tag draws))) :
    ∃ resp, ((waMachine cfg).step s (wiredInvite cfg media invite peerIp nonce tag draws)).2 =
      .response resp ∧ ((∃ answer, parseRemoteSdp cfg.py resp.body = some answer ∧
          AnswerReadsBack cfg.py invite.body draws.localIp.text draws.localMediaPort answer) ↔
        DottedText cfg.py draws.localIp.text ∧ OffersOpus cfg.py invite.body) := by
  obtain ⟨w, resp, hw, hanswer, hbody⟩ := acceptsInvite_wiring haccept
  obtain ⟨offered, hoffered, hw⟩ := Option.bind_eq_some_iff.1 hw
  have hsdp : w.sdpBody = generateSdpAnswer draws.localIp draws.localMediaPort
      offered.opusPayloadType draws.answerKey := by
    by_cases hencoder : media.encoderBuilds offered.encodeRate = false
    · rw [if_pos hencoder] at hw
      cases hw
    · rw [if_neg hencoder] at hw
      cases hsrtp : createSrtpContexts cfg.py invite.body draws.senderKey with
      | error e =>
        rw [hsrtp] at hw
        cases hw
      | ok srtp =>
        rw [hsrtp] at hw
        dsimp only at hw
        split_ifs at hw with hbuilds
        rw [← Option.some.inj hw]
  refine ⟨resp, hanswer, ?_⟩
  rw [hbody, hsdp]
  exact answerReadsBack_iff hpy hoffered (hip ▸ resolveAdvertisedIp_ne _ _ _) hport draws.answerKey

/-! ## Two offers -/

/-- `hashlib.md5` on the texts that are hashed for the call below. -/
def offerMd5 (data : String) : String :=
  if data = "wa:r:pw" then "d4cc3053936a39881a3adee2ace80d02"
  else if data = "INVITE:" then "c9b52db2ee23c90b812402468272ef6a"
  else if data = "d4cc3053936a39881a3adee2ace80d02:n:c9b52db2ee23c90b812402468272ef6a" then
    "3ddb55ef9e9f35790b2dedda4ce6f971"
  else ""

theorem boundHost_plain : '=' ∉ "10.0.0.1".toList := by decide

/-- A server that is bound to an address. -/
def boundServer : WaConfig :=
  { sandboxServer with
    hashes := ⟨offerMd5, fun data => data⟩, sipHost := "10.0.0.1", host_plain := boundHost_plain }

/-- An authorized INVITE with this `rtpmap` line. -/
def offerInvite (rtpmap : String) : SipMessage where
  firstLine := "INVITE sip:b SIP/2.0"
  headers := Dict.ofList [("call-id", "1"), ("proxy-authorization",
    "Digest username=wa,realm=r,nonce=n,response=3ddb55ef9e9f35790b2dedda4ce6f971")]
  body := "c=IN IP4 9.9.9.9\r\nm=audio 4 A 1\r\n" ++ rtpmap

def offerCall (rtpmap : String) : WaEvent :=
  wiredInvite boundServer callMedia (offerInvite rtpmap) "10.0.0.7" secondNonce "a1"
    (callMediaDraws 1)

theorem offerInvite_verified (rtpmap : String) :
    verifyDigest boundServer.py boundServer.hashes
    ((offerInvite rtpmap).header "proxy-authorization")
      boundServer.sipUsername boundServer.sipPassword "INVITE" = some true := by
  have hverified : verifyDigest boundServer.py boundServer.hashes
    ((offerInvite "").header "proxy-authorization")
      boundServer.sipUsername boundServer.sipPassword "INVITE" = some true := by
    decide +kernel
  exact hverified

theorem offerCall_accepted {rtpmap : String} (hrtpmap : rtpmap ∈ ["a=rtpmap:1 opus/1", ""]) :
    AcceptsInvite (offerInvite rtpmap)
    ((waMachine boundServer).entry .empty (offerCall rtpmap)) := by
  have hmethod : (offerInvite "").method = some "INVITE" := by decide +kernel
  have hready : ∀ r ∈ ["a=rtpmap:1 opus/1", ""], mediaReady boundServer (offerInvite r)
      (mediaSetup boundServer.py callMedia (offerInvite r) (callMediaDraws 1)) = true := by
    decide +kernel
  have hheader : (offerInvite rtpmap).header "proxy-authorization" ≠ "" :=
    show (offerInvite "").header "proxy-authorization" ≠ "" by decide +kernel
  have hroom : WaServer.empty.activeSessions.size < boundServer.maxConcurrentCalls :=
    Nat.zero_lt_succ 9
  have hmismatch : nonceMismatch boundServer.py ((offerInvite rtpmap).header "proxy-authorization")
      (WaServer.empty.pendingChallenges.get? (offerInvite rtpmap).callId) = false := rfl
  exact wiredInvite_accepted hmethod rfl hroom hheader (offerInvite_verified rtpmap)
    (hready rtpmap hrtpmap) hmismatch

theorem decimalDigits_ascii : DecimalDigits .ascii where
  lt c d h := by
    show d < 10
    have h' : (if c.isDigit then some (c.toNat - '0'.toNat) else none) = some d := h
    split_ifs at h' with hdigit
    have hn : 48 ≤ c.toNat ∧ c.toNat ≤ 57 := by
      simpa [Char.isDigit, UInt32.le_iff_toNat_le] using hdigit
    have hzero : '0'.toNat = 48 := by decide
    rw [← Option.some.inj h', hzero]
    omega
  notSpace c h := by
    show (if c.isDigit then some (c.toNat - '0'.toNat) else none) = none
    refine if_neg fun hdigit => ?_
    rw [PyInt.isSpace_of_isDigit hdigit] at h
    cases h

/-- An offer with Opus is answered with it. -/
theorem sdpAnswer_readsBack_iff_opus :
    ∃ resp, ((waMachine boundServer).step .empty (offerCall "a=rtpmap:1 opus/1")).2 =
      .response resp ∧ ∃ answer, parseRemoteSdp boundServer.py resp.body = some answer ∧
        AnswerReadsBack boundServer.py (offerInvite "a=rtpmap:1 opus/1").body "10.0.0.1" 20000
          answer := by
  obtain ⟨resp, hresp, hiff⟩ := sdpAnswer_readsBack_iff boundServer decimalDigits_ascii callMedia
    .empty (offerInvite "a=rtpmap:1 opus/1") "10.0.0.7" secondNonce "a1" (callMediaDraws 1) "" none
    (by decide +kernel) (by decide) (offerCall_accepted (List.mem_cons_self))
  have hopus : (opusTypes boundServer.py (offerInvite "a=rtpmap:1 opus/1").body).getLast? =
      some 1 := by
    decide +kernel
  have hdotted : ("10.0.0.1" : String).toList.all (fun c => isDecimal boundServer.py c || c = '.') =
      true := by
    decide +kernel
  exact ⟨resp, hresp, hiff.2 ⟨List.all_eq_true.1 hdotted, 1, hopus, by decide⟩⟩

/-- An offer without Opus is accepted, and its answer has no payload type of it. -/
theorem sdpAnswer_withoutOpus :
    AcceptsInvite (offerInvite "") ((waMachine boundServer).entry .empty (offerCall "")) ∧
      ∃ resp, ((waMachine boundServer).step .empty (offerCall "")).2 = .response resp ∧
        ¬∃ answer, parseRemoteSdp boundServer.py resp.body = some answer ∧
          AnswerReadsBack boundServer.py (offerInvite "").body "10.0.0.1" 20000 answer := by
  have haccept := @offerCall_accepted "" (by simp)
  obtain ⟨w, resp, -, hresp, -⟩ := acceptsInvite_wiring haccept
  refine ⟨haccept, resp, hresp, ?_⟩
  rintro ⟨answer, -, -, -, pt, -, hmem, -⟩
  have hnone : opusTypes boundServer.py (offerInvite "").body = [] := by decide +kernel
  rw [hnone] at hmem
  exact absurd hmem List.not_mem_nil

end Ekaette
