import Ekaette.Sip.Digest

set_option autoImplicit false

/-! # A digest header is verified by the parameters it says

`build_auth_header` writes the parameters of a response into a header, `verify_digest` reads them
back with a regular expression and computes the response again. The two agree when everything that
went into the response is written, and every written value is read back whole. -/

namespace Ekaette

/-- What is said of all members of a list is decided along the list. -/
local instance (priority := 10000) decidableForallMem {α : Type} (p : α → Prop) [DecidablePred p]
    (l : List α) : Decidable (∀ a ∈ l, p a) := List.decidableBAll p l

/-! ## Building -/

/-- The arguments of `build_auth_header`. -/
structure AuthHeaderArgs where
  statusCode : ℕ
  username : String
  realm : String
  password : String
  nonce : String
  method : String
  uri : String
  algorithm : String
  qop : Option String
  opaqueValue : Option String

/-- A parameter as it is written: in quotes, or plain. -/
structure AuthParam where
  name : String
  value : String
  quoted : Bool

def AuthParam.text (p : AuthParam) : String :=
  p.name ++ "=" ++ if p.quoted then "\"" ++ p.value ++ "\"" else p.value

/-- `algorithm.upper().endswith("-SESS")` -/
def isSess (py : StrMethods) (algorithm : String) : Bool :=
  "-SESS".toList.isSuffixOf (py.upper algorithm).toList

/-- The value that `if value:` lets through. -/
def truthyText (value : Option String) : Option String := value.filter (· ≠ "")

/-- The nonce count and the client nonce, when they are drawn. -/
def AuthHeaderArgs.drawn (py : StrMethods) (a : AuthHeaderArgs) (cnonce : HexNonce) :
    Option String × Option String :=
  if (truthyText (selectQop a.qop)).isSome || isSess py a.algorithm then (some "00000001",
    some cnonce.value)
  else (none, none)

/-- What is hashed into the response. -/
def AuthHeaderArgs.request (py : StrMethods) (a : AuthHeaderArgs) (cnonce : HexNonce) :
    DigestRequest where
  username := a.username
  realm := a.realm
  password := a.password
  nonce := a.nonce
  method := a.method
  uri := a.uri
  algorithm := a.algorithm
  qop := selectQop a.qop
  nc := (a.drawn py cnonce).1
  cnonce := (a.drawn py cnonce).2

variable (a : AuthHeaderArgs)

/-- The parameters in the order they are written. -/
def AuthHeaderArgs.params (cnonce : HexNonce) (response : String) :
    List AuthParam :=
  [⟨"username", a.username, true⟩, ⟨"realm", a.realm, true⟩, ⟨"nonce", a.nonce, true⟩,
    ⟨"uri", a.uri, true⟩, ⟨"response", response, true⟩, ⟨"algorithm", a.algorithm, false⟩] ++
  (match truthyText (selectQop a.qop) with
    | some qop => [⟨"qop", qop, false⟩, ⟨"nc", "00000001", false⟩, ⟨"cnonce", cnonce.value, true⟩]
    | none => []) ++
  match truthyText a.opaqueValue with
  | some value => [⟨"opaque", value, true⟩]
  | none => []

/-- `build_auth_header`; `none` where it raises `ValueError`. -/
def buildAuthHeader (py : StrMethods) (hashes : DigestHashes) (a : AuthHeaderArgs)
    (cnonce : HexNonce) : Option String :=
  (computeDigestResponse py hashes (a.request py cnonce)).map (fun response =>
    (if a.statusCode = 407 then "Proxy-Authorization" else "Authorization") ++ ": Digest " ++
      ", ".intercalate ((a.params cnonce response).map AuthParam.text))

/-! ## Reading the parameters back -/

/-- A parameter that is read back as it was written: its name is a word, and its value ends where it
    was ended. -/
structure AuthParam.Readable (py : StrMethods) (p : AuthParam) : Prop where
  name_ne : p.name ≠ ""
  name_word : ∀ c ∈ p.name.toList, py.isWord c = true
  value_ne : p.value ≠ ""
  quoted : p.quoted = true → '"' ∉ p.value.toList
  plain : p.quoted = false →
    (∀ c ∈ p.value.toList, (c ≠ ',' && !PyStr.isSpace c) = true) ∧ ¬ ['"'] <+: p.value.toList

/-- The match of a parameter. -/
def AuthParam.found (p : AuthParam) (rest : List Char) : Rx.Match :=
  ⟨rest, [(1, p.name.toList), (if p.quoted then 2 else 3, p.value.toList)]⟩

/-- The characters of parameters one after the other. -/
def paramsText : List AuthParam → List Char
  | [] => []
  | [p] => p.text.toList
  | p :: q :: ps => p.text.toList ++ ',' :: ' ' :: paramsText (q :: ps)

theorem isWord_eq (py : StrMethods) :
    py.isWord '=' = false ∧ py.isWord ',' = false ∧ py.isWord ' ' = false :=
  ⟨py.isWord_ascii '=' (by decide), py.isWord_ascii ',' (by decide),
    py.isWord_ascii ' ' (by decide)⟩

variable {py : StrMethods}

/-- **One parameter** is matched whole at the end of the text, or before a comma. -/
theorem matchAt_param {p : AuthParam} (h : p.Readable py) {rest : List Char}
    (hrest : rest = [] ∨ ∃ cs, rest = ',' :: cs) :
    (paramRe py).matchAt (p.text.toList ++ rest) = some (p.found rest) := by
  have hne : p.name.toList ≠ [] := fun hnil => h.name_ne (String.toList_eq_nil_iff.1 hnil)
  have hvalue : p.value.toList ≠ [] := fun hnil => h.value_ne (String.toList_eq_nil_iff.1 hnil)
  have hname : ∀ cs, (Rx.group 1 (.plus py.isWord)).matchAt (p.name.toList ++ '=' :: cs) =
      some ⟨'=' :: cs, [(1, p.name.toList)]⟩ :=
    fun cs => Rx.matchAt_group 1 (Rx.matchAt_plus h.name_word hne (isWord_eq py).1 cs)
  have heq : ∀ cs, (Rx.lit ['=']).matchAt ('=' :: cs) = some ⟨cs, []⟩ :=
    fun cs => Rx.matchAt_lit ['='] cs
  cases hquoted : p.quoted with
  | true =>
    have htext : p.text.toList ++ rest = p.name.toList ++ '=' ::
        ('"' :: (p.value.toList ++ '"' :: rest)) := by
      unfold AuthParam.text
      rw [hquoted]
      simp [String.toList_append]
    have hno := h.quoted hquoted
    have hinside : ∀ c ∈ p.value.toList, notQuote c = true :=
      fun c hc => decide_eq_true (fun hq => hno (hq ▸ hc))
    have halt := Rx.matchAt_alt_left (b := .group 3 (.plus (fun c => c ≠ ',' && !PyStr.isSpace c)))
      (Rx.matchAt_seq (Rx.matchAt_lit ['"'] (p.value.toList ++ '"' :: rest))
        (Rx.matchAt_seq (Rx.matchAt_group 2 (Rx.matchAt_plus hinside hvalue (c := '"') rfl rest))
          (Rx.matchAt_lit ['"'] rest)))
    have hall := Rx.matchAt_seq (hname _) (Rx.matchAt_seq (heq _) halt)
    rw [htext, AuthParam.found, hquoted]
    exact hall
  | false =>
    have htext : p.text.toList ++ rest = p.name.toList ++ '=' :: (p.value.toList ++ rest) := by
      unfold AuthParam.text
      rw [hquoted]
      simp [String.toList_append]
    obtain ⟨hinside, hstart⟩ := h.plain hquoted
    -- the pattern tries a quoted value first
    have hnoquote : ¬ ['"'] <+: p.value.toList ++ rest := by
      intro hpre
      refine hstart ?_
      obtain ⟨c, v, hv⟩ := List.exists_cons_of_ne_nil hvalue
      rw [hv, List.cons_append, List.cons_prefix_cons] at hpre
      rw [hv, List.cons_prefix_cons]
      exact ⟨hpre.1, List.nil_prefix⟩
    have hplain : (Rx.plus (fun c => c ≠ ',' && !PyStr.isSpace c)).matchAt
        (p.value.toList ++ rest) = some ⟨rest, []⟩ := by
      rcases hrest with rfl | ⟨cs, rfl⟩
      · rw [List.append_nil]
        exact Rx.matchAt_plus_end hinside hvalue
      · exact Rx.matchAt_plus hinside hvalue (by decide) cs
    have halt := (Rx.matchAt_alt_right (.group 3 (.plus (fun c => c ≠ ',' && !PyStr.isSpace c)))
      (Rx.matchAt_lit_seq_eq_none (.seq (.group 2 (.plus notQuote)) (.lit ['"'])) hnoquote)).trans
        (Rx.matchAt_group 3 hplain)
    have hall := Rx.matchAt_seq (hname _) (Rx.matchAt_seq (heq _) halt)
    rw [htext, AuthParam.found, hquoted]
    exact hall

/-- The name and the value of a match, as `parse_challenge` takes them. -/
def readParam (py : StrMethods) (m : Rx.Match) : String × String :=
  (py.lower ((m.group? 1).getD ""), ((m.group? 2).or (m.group? 3)).getD "")

theorem readParam_found (py : StrMethods) (p : AuthParam) (rest : List Char) :
    readParam py (p.found rest) = (py.lower p.name, p.value) := by
  unfold readParam AuthParam.found Rx.Match.group?
  cases p.quoted with
  | true => simp [List.lookup_cons]
  | false => simp [List.lookup_cons]

/-- Between two parameters nothing is found. -/
theorem searchN_separator (py : StrMethods) (n : ℕ) (cs : List Char) :
    (paramRe py).searchN n (',' :: ' ' :: cs) = (paramRe py).searchN n cs := by
  obtain ⟨-, hcomma, hblank⟩ := isWord_eq py
  have hsearch : (paramRe py).search (',' :: ' ' :: cs) = (paramRe py).search cs := by
    unfold paramRe
    rw [Rx.search_of_matchAt_eq_none (Rx.matchAt_run_seq_eq_none 1 _ hcomma _),
      Rx.search_of_matchAt_eq_none (Rx.matchAt_run_seq_eq_none 1 _ hblank _)]
  cases n with
  | zero => rfl
  | succ n => rw [Rx.searchN, Rx.searchN, hsearch]

theorem not_parses_paramRe_nil (py : StrMethods) (gs : List (ℕ × List Char)) :
    ¬ (paramRe py).Parses [] gs := by
  rintro ⟨u, _, v, _, hnil, -, ⟨_, -, _, _, _, _, rfl, -, ⟨⟨c, rfl, -⟩, -⟩, -⟩, -⟩
  cases hnil

theorem findAll_separator (py : StrMethods) (cs : List Char) :
    (paramRe py).findAll (',' :: ' ' :: cs) = (paramRe py).findAll cs :=
  (searchN_separator py _ cs).trans
    (Rx.searchN_of_length_le (not_parses_paramRe_nil py) (Nat.le_add_right cs.length 2))

variable {ps : List AuthParam}

/-- **All parameters** are found, in order, and then what the text behind them has. -/
theorem searchN_paramsText (hps : ∀ p ∈ ps, p.Readable py)
    {tail : List Char} (htail : tail = [] ∨ ∃ cs, tail = ',' :: cs) {n : ℕ} (hn : ps.length ≤ n) :
    ((paramRe py).searchN n (paramsText ps ++ tail)).map (readParam py) =
      ps.map (fun p => (py.lower p.name, p.value)) ++
        ((paramRe py).searchN (n - ps.length) tail).map (readParam py) := by
  induction ps generalizing n with
  | nil => rfl
  | cons p ps ih =>
    obtain ⟨n, rfl⟩ : ∃ m, n = m + 1 := ⟨n - 1, by rw [List.length_cons] at hn; omega⟩
    rw [List.length_cons] at hn
    have hp := hps p List.mem_cons_self
    cases ps with
    | nil =>
      rw [paramsText, Rx.searchN, Rx.search_of_matchAt (matchAt_param hp htail), List.map_cons,
        readParam_found]
      rfl
    | cons q ps =>
      have hmatch := @matchAt_param py p hp (',' :: ' ' :: (paramsText (q :: ps) ++ tail))
        (.inr ⟨_, rfl⟩)
      have hlength : n + 1 - (p :: q :: ps).length = n - (q :: ps).length :=
        Nat.add_sub_add_right n 1 _
      have hrest := ih (fun r hr => hps r (List.mem_cons_of_mem p hr)) (n := n) (by omega)
      rw [paramsText, List.append_assoc, List.cons_append, List.cons_append, Rx.searchN,
        Rx.search_of_matchAt hmatch]
      show readParam py (p.found _) :: ((paramRe py).searchN n
        (',' :: ' ' :: (paramsText (q :: ps) ++ tail))).map _ = _
      rw [readParam_found, searchN_separator, hrest, hlength]
      rfl

theorem length_le_paramsText (ps : List AuthParam) : ps.length ≤ (paramsText ps).length := by
  have htext : ∀ p : AuthParam, 0 < p.text.toList.length := by
    intro p
    simp only [AuthParam.text, String.toList_append, List.length_append]
    have heq : ("=" : String).toList.length = 1 := rfl
    omega
  induction ps with
  | nil => exact Nat.le_refl _
  | cons p ps ih =>
    have hp := htext p
    cases ps with
    | nil => exact hp
    | cons q ps =>
      rw [paramsText, List.length_append]
      simp only [List.length_cons] at ih ⊢
      omega

theorem digestParams_paramsText (hps : ∀ p ∈ ps, p.Readable py) {tail : List Char}
    (htail : tail = [] ∨ ∃ cs, tail = ',' :: cs) : digestParams py (paramsText ps ++ tail) =
      Dict.ofList (ps.map (fun p => (py.lower p.name, p.value)) ++
        ((paramRe py).findAll tail).map (readParam py)) := by
  have hle := length_le_paramsText ps
  have hlength : (paramsText ps ++ tail).length = (paramsText ps).length + tail.length :=
    List.length_append
  have hbehind : (paramRe py).searchN ((paramsText ps ++ tail).length - ps.length) tail =
      (paramRe py).findAll tail :=
    Rx.searchN_of_length_le (not_parses_paramRe_nil py) (by omega)
  have hfound := searchN_paramsText hps htail (n := (paramsText ps ++ tail).length) (by omega)
  rw [hbehind] at hfound
  exact congrArg Dict.ofList hfound

theorem toList_intercalate_text (ps : List AuthParam) :
    (", ".intercalate (ps.map AuthParam.text)).toList = paramsText ps := by
  induction ps with
  | nil => rfl
  | cons p ps ih =>
    cases ps with
    | nil => simp [paramsText]
    | cons q ps =>
      rw [List.map_cons, List.map_cons, String.intercalate_cons_cons, String.toList_append,
        String.toList_append, ← List.map_cons, ih, paramsText]
      simp

/-- Readable parameters end in a quote or in a value, never in a blank. -/
theorem getLast?_paramsText
    (hps : ∀ p ∈ ps, p.Readable py) : ∀ c, (paramsText ps).getLast? = some c →
    PyStr.isSpace c = false := by
  have hone : ∀ p : AuthParam, p.Readable py → ∀ c, p.text.toList.getLast? = some c →
      PyStr.isSpace c = false := by
    intro p hp c hc
    have hvalue : p.value.toList ≠ [] := fun hnil => hp.value_ne (String.toList_eq_nil_iff.1 hnil)
    unfold AuthParam.text at hc
    cases hquoted : p.quoted with
    | true =>
      rw [hquoted, if_pos rfl, String.toList_append, String.toList_append, String.toList_append,
        String.toList_append] at hc
      have hquote : ("\"" : String).toList = ['"'] := rfl
      rw [hquote, List.getLast?_append_of_ne_nil _ (by simp), List.getLast?_append_of_ne_nil _
        (by simp)] at hc
      rw [← Option.some.inj hc]
      decide
    | false =>
      rw [hquoted, if_neg Bool.false_ne_true, String.toList_append,
        List.getLast?_append_of_ne_nil _ hvalue] at hc
      have hplain := (hp.plain hquoted).1 c (List.mem_of_getLast? hc)
      rw [Bool.and_eq_true, Bool.not_eq_true'] at hplain
      exact hplain.2
  induction ps with
  | nil => nofun
  | cons p ps ih =>
    cases ps with
    | nil => exact hone p (hps p List.mem_cons_self)
    | cons q ps =>
      have hne : paramsText (q :: ps) ≠ [] := by
        intro hnil
        have hlength := length_le_paramsText (q :: ps)
        rw [hnil] at hlength
        exact absurd hlength (Nat.not_succ_le_zero _)
      intro c hc
      rw [paramsText, List.getLast?_append_of_ne_nil _ (List.cons_ne_nil _ _),
        ← List.singleton_append,
        ← List.singleton_append (l := paramsText (q :: ps)), List.getLast?_append_of_ne_nil _
        (by simp), List.getLast?_append_of_ne_nil _ hne] at hc
      exact ih (fun r hr => hps r (List.mem_cons_of_mem p hr)) c hc

/-! ## Reading the header back -/

/-- What is relied on of `lower()` and `upper()` beyond ASCII strings: an ASCII beginning is
    lower-cased on its own, nothing comes of the empty string, and commas, quotes and white space
    have no other case. -/
structure KeepsText (py : StrMethods) : Prop where
  lower_prefix : ∀ s t : List Char, (∀ c ∈ s, c.toNat < 128) →
    s.map Char.toLower <+: (py.lower (String.ofList (s ++ t))).toList
  upper_empty : py.upper "" = ""
  upper_mem : ∀ (s : String) (c : Char), c ∈ s.toList →
    (c = ',' ∨ c = '"' ∨ PyStr.isSpace c = true) → c ∈ (py.upper s).toList

variable (hashes : DigestHashes)

/-- The digests are hexadecimal. -/
def DigestHashes.Hex : Prop :=
  ∀ data, (∀ c ∈ (hashes.md5 data).toList, c.isAlphanum = true) ∧ hashes.md5 data ≠ "" ∧
    (∀ c ∈ (hashes.sha256 data).toList, c.isAlphanum = true) ∧ hashes.sha256 data ≠ ""

/-- The name and the separator in front of a digest. -/
def headerName (statusCode : ℕ) : List Char :=
  if statusCode = 407 then "Proxy-Authorization".toList else "Authorization".toList

theorem matchAt_headerPrefixRe (py : StrMethods) (statusCode : ℕ) (cs : List Char) :
    (headerPrefixRe py).matchAt (headerName statusCode ++ ':' :: ' ' :: 'D' :: cs) =
    some ⟨'D' :: cs, []⟩ := by
  have hword : ∀ c ∈ headerName statusCode, (py.isWord c || c = '-') = true := by
    have hascii : ∀ c ∈ headerName statusCode, c.toNat < 128 ∧
        (c.isAlphanum || c = '_' || c = '-') = true := by
      unfold headerName
      split_ifs
      · decide
      · decide
    intro c hc
    obtain ⟨hlt, hclass⟩ := hascii c hc
    rw [py.isWord_ascii c hlt]
    exact hclass
  have hne : headerName statusCode ≠ [] := by
    unfold headerName
    split_ifs
    · decide
    · decide
  have hcolon : (py.isWord ':' || decide (':' = '-')) = false := by
    rw [py.isWord_ascii ':' (by decide)]
    decide
  have hname := Rx.matchAt_plus hword hne hcolon (' ' :: 'D' :: cs)
  have hbefore := Rx.matchAt_many (p := PyStr.isSpace) (w := []) (by simp) (c := ':') (by decide)
    (' ' :: 'D' :: cs)
  have hafter :=
    Rx.matchAt_many (p := PyStr.isSpace) (w := [' ']) (by decide) (c := 'D') (by decide) cs
  exact Rx.matchAt_seq hname (Rx.matchAt_seq hbefore
    (Rx.matchAt_seq (Rx.matchAt_lit [':'] (' ' :: 'D' :: cs)) hafter))

/-- **A header** is read back as the dictionary of what is found behind the scheme. -/
theorem parseChallenge_header (hpy : KeepsText py) (statusCode : ℕ)
    {text cs : List Char} {c : Char} (hhead : text = c :: cs) (hc : PyStr.isSpace c = false)
    (hlast : ∀ c, text.getLast? = some c → PyStr.isSpace c = false) :
    parseChallenge py (String.ofList (headerName statusCode ++ ':' :: ' ' :: 'D' :: 'i' :: 'g' ::
        'e' :: 's' :: 't' :: ' ' :: text)) =
      if (digestParams py text).contains "realm" && (digestParams py text).contains "nonce" then
        some ((digestParams py text).setDefault "algorithm" "MD5")
      else none := by
  have hne : text ≠ [] := by
    rw [hhead]
    exact List.cons_ne_nil _ _
  have hstripText : PyStr.stripChars text = text := by
    refine PyStr.stripChars_eq_self (fun d hd => ?_) hlast
    rw [hhead] at hd
    rw [← Option.some.inj hd]
    exact hc
  generalize hmore : 'i' :: 'g' :: 'e' :: 's' :: 't' :: ' ' :: text = more
  have hstrip : PyStr.stripChars (headerName statusCode ++ ':' :: ' ' :: 'D' :: more) =
      headerName statusCode ++ ':' :: ' ' :: 'D' :: more := by
    refine PyStr.stripChars_eq_self (fun d hd => ?_) (fun d hd => ?_)
    · unfold headerName at hd
      split_ifs at hd
      · rw [← Option.some.inj hd]
        decide
      · rw [← Option.some.inj hd]
        decide
    · refine hlast d ?_
      have hsplit : headerName statusCode ++ ':' :: ' ' :: 'D' :: more =
          (headerName statusCode ++ ": Digest ".toList) ++ text := by
        rw [← hmore, List.append_assoc]
        rfl
      rw [hsplit, List.getLast?_append_of_ne_nil _ hne] at hd
      exact hd
  have hscheme : "digest".toList.isPrefixOf (py.lower (String.ofList ('D' :: more))).toList =
      true := by
    rw [List.isPrefixOf_iff_prefix]
    have hlower := hpy.lower_prefix "Digest".toList (' ' :: text) (by decide)
    rw [← hmore]
    exact hlower
  have hdrop : PyStr.stripChars (('D' :: more).drop 6) = text := by
    rw [← hmore]
    show PyStr.stripChars (' ' :: text) = text
    rw [PyStr.stripChars_cons_space, hstripText]
  have hheader : (String.ofList (headerName statusCode ++ ':' :: ' ' :: 'D' :: more)).toList =
      headerName statusCode ++ ':' :: ' ' :: 'D' :: more := String.toList_ofList
  generalize String.ofList (headerName statusCode ++ ':' :: ' ' :: 'D' :: more) = header at hheader
  unfold parseChallenge
  dsimp only
  rw [hheader, hstrip, matchAt_headerPrefixRe]
  dsimp only
  rw [if_neg (by rw [hscheme]; decide), hdrop]

/-! ## The parameters of a response -/

/-- A text that is not empty, ASCII, and without a quote. -/
structure QuotableText (s : String) : Prop where
  nonempty : s ≠ ""
  ascii : PyStr.IsAscii s
  quote : '"' ∉ s.toList

/-- The arguments the header is built from: quotable texts, and an algorithm `_hash` supports. -/
structure AuthHeaderArgs.Supported (py : StrMethods) (a : AuthHeaderArgs) : Prop where
  username : QuotableText a.username
  realm : QuotableText a.realm
  nonce : QuotableText a.nonce
  uri : QuotableText a.uri
  algorithm : py.upper a.algorithm ∈ ["MD5", "MD5-SESS", "SHA-256", "SHA-256-SESS"]

/-- The names under which `verify_digest` reads. -/
def verifiedNames : List String :=
  ["username", "realm", "nonce", "uri", "response", "algorithm"] ++ ["qop", "nc", "cnonce"]

/-- The text of the opaque value. -/
def AuthHeaderArgs.opaqueText : List Char :=
  match truthyText a.opaqueValue with
  | some value => (AuthParam.text ⟨"opaque", value, true⟩).toList
  | none => []

/-- The parameters that are found in it: behind a quote in the value there may be others. -/
def AuthHeaderArgs.opaqueParams (py : StrMethods) (a : AuthHeaderArgs) : List (String × String) :=
  ((paramRe py).findAll a.opaqueText).map (readParam py)

/-- The qop that is written plain has no white space and does not start with a quote, so it is read
    back whole; and in the opaque value no parameter is found that `verify_digest` reads. -/
structure AuthHeaderArgs.ReadWhole (py : StrMethods) (a : AuthHeaderArgs) : Prop where
  qop : ∀ qop, truthyText (selectQop a.qop) = some qop →
    (∀ c ∈ qop.toList, PyStr.isSpace c = false) ∧ ¬ ['"'] <+: qop.toList
  opaqueValue : ∀ e ∈ a.opaqueParams py, e.1 ∉ verifiedNames

theorem truthyText_ne {v : Option String} {s : String} (h : truthyText v = some s) :
    s ≠ "" ∧ v = some s := by
  obtain ⟨hv, hs⟩ := Option.filter_eq_some_iff.1 h
  exact ⟨by simpa using hs, hv⟩

theorem not_mem_of_mem_splitOn {c : Char} {cs part : List Char} (h : part ∈ cs.splitOn c) :
    c ∉ part := by
  induction cs generalizing part with
  | nil =>
    rw [List.splitOn_nil, List.mem_singleton] at h
    rw [h]
    exact List.not_mem_nil
  | cons d cs ih =>
    rw [List.splitOn_cons_eq_if_modifyHead] at h
    split_ifs at h with hd
    · rcases List.mem_cons.1 h with rfl | hrest
      · exact List.not_mem_nil
      · exact ih hrest
    · obtain ⟨first, parts, hparts⟩ := List.exists_cons_of_ne_nil (List.splitOn_ne_nil c cs)
      rw [hparts, List.modifyHead_cons] at h
      rcases List.mem_cons.1 h with rfl | hrest
      · rw [List.mem_cons, not_or]
        exact ⟨fun hc => hd (by rw [hc, beq_self_eq_true]),
          ih (by rw [hparts]; exact List.mem_cons_self)⟩
      · exact ih (by rw [hparts]; exact List.mem_cons_of_mem _ hrest)

/-- The selected token is one of the list: no comma, no blank at its ends. -/
theorem mem_tokens_of_selectQop {qop token : String} (h : selectQop (some qop) = some token) :
    token ∈ (PyStr.split ',' qop).map PyStr.strip := by
  unfold selectQop at h
  dsimp only at h
  split_ifs at h with hauth hauthInt
  · rw [← Option.some.inj h]
    exact hauth
  · rw [← Option.some.inj h]
    exact hauthInt
  · exact List.mem_of_mem_head? h

theorem selected_token {qop : Option String} {token : String} (h : selectQop qop = some token) :
    ',' ∉ token.toList ∧ PyStr.strip token = token := by
  cases qop with
  | none => cases h
  | some qop =>
    obtain ⟨part, hpart, rfl⟩ := List.mem_map.1 (mem_tokens_of_selectQop h)
    refine ⟨fun hcomma => ?_, PyStr.strip_strip part⟩
    obtain ⟨cs, hcs, rfl⟩ := List.mem_map.1 hpart
    rw [PyStr.strip, String.toList_ofList, String.toList_ofList] at hcomma
    exact not_mem_of_mem_splitOn hcs (PyStr.mem_of_mem_stripChars hcomma)

theorem selectQop_selected {qop : Option String} {token : String} (h : selectQop qop = some token) :
    selectQop (some token) = some token := by
  obtain ⟨hcomma, hstrip⟩ := selected_token h
  have hsplit : PyStr.split ',' token = [token] := by
    have hone :=
      PyStr.split_intercalate ',' [token.toList] (by simpa using hcomma) (List.cons_ne_nil _ _)
    simpa using hone
  unfold selectQop
  dsimp only
  rw [hsplit]
  simp only [List.map_cons, List.map_nil, hstrip, List.mem_singleton, List.head?_cons]
  split_ifs with hauth hauthInt
  · rw [hauth]
  · rw [hauthInt]
  · rfl

variable (cnonce : HexNonce)

variable (response : String)

/-- The parameters in front of the opaque value. -/
def AuthHeaderArgs.verifiedParams :
    List AuthParam :=
  AuthHeaderArgs.params { a with opaqueValue := none } cnonce response

/-- Their names and values. -/
def AuthHeaderArgs.written :
    List (String × String) :=
  (a.verifiedParams cnonce response).map (fun p => (p.name, p.value))

theorem verifiedParams_names_sublist :
    List.Sublist ((a.verifiedParams cnonce response).map AuthParam.name) verifiedNames := by
  unfold AuthHeaderArgs.verifiedParams AuthHeaderArgs.params verifiedNames
  rw [show truthyText none = none from rfl, List.append_nil, List.map_append]
  refine (List.Sublist.refl _).append ?_
  cases truthyText (selectQop a.qop) with
  | none => exact List.nil_sublist _
  | some qop => exact List.Sublist.refl _

theorem nodup_written :
    ((a.written cnonce response).map Prod.fst).Nodup := by
  have hnames : verifiedNames.Nodup := by decide
  unfold AuthHeaderArgs.written
  rw [List.map_map]
  exact hnames.sublist (verifiedParams_names_sublist a cnonce response)

theorem verifiedParams_names (a : AuthHeaderArgs) (cnonce : HexNonce)
    (response : String) : ∀ p ∈ a.verifiedParams cnonce response, p.name ≠ "" ∧
      (∀ c ∈ p.name.toList, py.isWord c = true) ∧ py.lower p.name = p.name := by
  have hnames : ∀ name ∈ verifiedNames, name ≠ "" ∧ PyStr.IsAscii name ∧
      (∀ c ∈ name.toList, (c.isAlphanum || c = '_') = true) ∧ name.toList.map Char.toLower =
      name.toList := by
    decide
  intro p hp
  obtain ⟨hne, hascii, hword, hlower⟩ := hnames p.name
    ((verifiedParams_names_sublist a cnonce response).subset (List.mem_map_of_mem hp))
  refine ⟨hne, fun c hc => ?_, ?_⟩
  · rw [py.isWord_ascii c (hascii c hc)]
    exact hword c hc
  · rw [py.lower_ascii p.name hascii, hlower, String.ofList_toList]

/-- **Every written parameter is readable.** -/
theorem verifiedParams_readable (hpy : KeepsText py) {a : AuthHeaderArgs}
    (ha : a.Supported py) (hwhole : a.ReadWhole py) (cnonce : HexNonce) {response : String}
    (hne : response ≠ "") (hresponse : '"' ∉ response.toList) :
    ∀ p ∈ a.verifiedParams cnonce response,
    p.Readable py := by
  have hquoted : ∀ p : AuthParam,
      p ∈ a.verifiedParams cnonce response → p.quoted = true → p.value ≠ "" →
      '"' ∉ p.value.toList → p.Readable py := by
    intro p hp hq hv hno
    obtain ⟨hname, hword, -⟩ := @verifiedParams_names py a cnonce response p hp
    exact ⟨hname, hword, hv, fun _ => hno, fun hplain => absurd hplain (by rw [hq]; decide)⟩
  have hplain : ∀ p : AuthParam,
      p ∈ a.verifiedParams cnonce response → p.quoted = false → p.value ≠ "" →
      (∀ c ∈ p.value.toList, (c ≠ ',' && !PyStr.isSpace c) = true) ∧ ¬ ['"'] <+: p.value.toList →
      p.Readable py := by
    intro p hp hq hv hno
    obtain ⟨hname, hword, -⟩ := @verifiedParams_names py a cnonce response p hp
    exact ⟨hname, hword, hv, fun hquote => absurd hquote (by rw [hq]; decide), fun _ => hno⟩
  have halgorithm : (∀ c ∈ a.algorithm.toList, (c ≠ ',' && !PyStr.isSpace c) = true) ∧
      ¬ ['"'] <+: a.algorithm.toList ∧ a.algorithm ≠ "" := by
    have hnone : ∀ name ∈ ["MD5", "MD5-SESS", "SHA-256", "SHA-256-SESS"], ∀ c ∈ name.toList,
        ¬ (c = ',' ∨ c = '"' ∨ PyStr.isSpace c = true) := by
      decide
    have hno : ∀ c ∈ a.algorithm.toList, ¬ (c = ',' ∨ c = '"' ∨ PyStr.isSpace c = true) :=
      fun c hc hor => hnone _ ha.algorithm c (hpy.upper_mem a.algorithm c hc hor) hor
    refine ⟨fun c hc => ?_, fun hpre => ?_, fun hempty => ?_⟩
    · have hnot := hno c hc
      simp only [not_or, Bool.not_eq_true] at hnot
      simp [hnot.1, hnot.2.2]
    · exact hno '"' (hpre.subset List.mem_cons_self) (.inr (.inl rfl))
    · have hsupported := ha.algorithm
      rw [hempty, hpy.upper_empty] at hsupported
      exact absurd hsupported (by decide)
  intro p hp
  have hall := hp
  unfold AuthHeaderArgs.verifiedParams AuthHeaderArgs.params at hp
  rw [show truthyText none = none from rfl, List.append_nil] at hp
  rcases List.mem_append.1 hp with hfixed | hqop
  · simp only [List.mem_cons, List.not_mem_nil, or_false] at hfixed
    rcases hfixed with rfl | rfl | rfl | rfl | rfl | rfl
    · exact hquoted _ hall rfl ha.username.nonempty ha.username.quote
    · exact hquoted _ hall rfl ha.realm.nonempty ha.realm.quote
    · exact hquoted _ hall rfl ha.nonce.nonempty ha.nonce.quote
    · exact hquoted _ hall rfl ha.uri.nonempty ha.uri.quote
    · exact hquoted _ hall rfl hne hresponse
    · exact hplain _ hall rfl halgorithm.2.2 ⟨halgorithm.1, halgorithm.2.1⟩
  · cases hselected : truthyText (selectQop a.qop) with
    | none =>
      rw [hselected] at hqop
      cases hqop
    | some qop =>
      rw [hselected] at hqop
      obtain ⟨hqopne, hsome⟩ := truthyText_ne hselected
      obtain ⟨hspace, hquote⟩ := hwhole.qop qop hselected
      simp only [List.mem_cons, List.not_mem_nil, or_false] at hqop
      rcases hqop with rfl | rfl | rfl
      · refine hplain _ hall rfl hqopne ⟨fun c hc => ?_, hquote⟩
        have hcomma : c ≠ ',' := fun h => (selected_token hsome).1 (h ▸ hc)
        simp [hcomma, hspace c hc]
      · exact hplain _ hall rfl (by decide) (by decide)
      · refine hquoted _ hall rfl cnonce.nonempty fun hmem => ?_
        exact absurd (cnonce.hex '"' hmem) (by decide)

theorem opaqueParams_of_no_quote {a : AuthHeaderArgs}
    (h : ∀ value, truthyText a.opaqueValue = some value → '"' ∉ value.toList) :
    ∀ e ∈ a.opaqueParams py, e.1 ∉ verifiedNames := by
  intro e he
  unfold AuthHeaderArgs.opaqueParams AuthHeaderArgs.opaqueText at he
  cases hvalue : truthyText a.opaqueValue with
  | none =>
    rw [hvalue] at he
    cases he
  | some value =>
    have hread : AuthParam.Readable py ⟨"opaque", value, true⟩ := by
      refine ⟨show "opaque" ≠ "" by decide, fun c hc => ?_, (truthyText_ne hvalue).1,
        fun _ => h value hvalue, nofun⟩
      have hascii : ∀ c ∈ ("opaque" : String).toList, c.toNat < 128 ∧ c.isAlphanum = true := by
        decide
      rw [py.isWord_ascii c (hascii c hc).1, (hascii c hc).2]
      rfl
    have hfound := searchN_paramsText (List.forall_mem_singleton.2 hread) (.inl rfl)
      (n := (AuthParam.text ⟨"opaque", value, true⟩).toList.length) (by simp [AuthParam.text])
    have hlower : py.lower "opaque" = "opaque" := py.lower_ascii _ (by decide)
    rw [hvalue] at he
    rw [paramsText, List.append_nil, Rx.searchN_of_length_le (not_parses_paramRe_nil py) le_rfl,
      Rx.searchN_of_length_le (not_parses_paramRe_nil py) (Nat.zero_le _)] at hfound
    rw [hfound, List.map_singleton, hlower] at he
    rw [List.mem_singleton.1 he]
    show "opaque" ∉ verifiedNames
    decide

/-- What is read of the header. -/
def AuthHeaderArgs.readBack (py : StrMethods) (a : AuthHeaderArgs) (cnonce : HexNonce)
    (response : String) : Dict String String :=
  Dict.ofList (a.written cnonce response ++ a.opaqueParams py)

theorem get?_readBack {a : AuthHeaderArgs} (hwhole : a.ReadWhole py)
    (cnonce : HexNonce) (response : String) {name : String} (hname : name ∈ verifiedNames) :
    (a.readBack py cnonce response).get? name = (a.written cnonce response).lookup name := by
  rw [AuthHeaderArgs.readBack, Dict.get?_ofList_append fun e he hsame => hwhole.opaqueValue e he
    (hsame ▸ hname), Dict.get?, Dict.entries_ofList _ (nodup_written a cnonce response)]

theorem lookup_written :
    (a.written cnonce response).lookup "username" = some a.username ∧
      (a.written cnonce response).lookup "realm" = some a.realm ∧
      (a.written cnonce response).lookup "nonce" = some a.nonce ∧
      (a.written cnonce response).lookup "uri" = some a.uri ∧
      (a.written cnonce response).lookup "response" = some response ∧
      (a.written cnonce response).lookup "algorithm" = some a.algorithm ∧
      (a.written cnonce response).lookup "qop" = truthyText (selectQop a.qop) ∧
      (a.written cnonce response).lookup "nc" = (truthyText (selectQop a.qop)).map (fun _ =>
        "00000001") ∧
      (a.written cnonce response).lookup "cnonce" = (truthyText (selectQop a.qop)).map (fun _ =>
        cnonce.value) := by
  unfold AuthHeaderArgs.written AuthHeaderArgs.verifiedParams AuthHeaderArgs.params
  refine ⟨rfl, rfl, rfl, rfl, rfl, rfl, ?_⟩
  cases truthyText (selectQop a.qop) with
  | none => exact ⟨rfl, rfl, rfl⟩
  | some qop => exact ⟨rfl, rfl, rfl⟩

theorem paramsText_concat (hps : ps ≠ []) (p : AuthParam) :
    paramsText (ps ++ [p]) = paramsText ps ++ ',' :: ' ' :: p.text.toList := by
  induction ps with
  | nil => exact absurd rfl hps
  | cons q ps ih =>
    cases ps with
    | nil => rfl
    | cons r ps =>
      rw [List.cons_append, List.cons_append, paramsText, ← List.cons_append,
        ih (List.cons_ne_nil _ _), paramsText, List.append_assoc, List.cons_append,
        List.cons_append]

/-- The header's parameters: those that are verified, and the text of the opaque value. -/
theorem paramsText_params {a : AuthHeaderArgs} {cnonce : HexNonce}
    {response : String} (hread : ∀ p ∈ a.verifiedParams cnonce response, p.Readable py) :
    digestParams py (paramsText (a.params cnonce response)) = Dict.ofList
        ((a.verifiedParams cnonce response).map (fun p => (py.lower p.name, p.value)) ++
          a.opaqueParams py) ∧
      ∀ c, (paramsText (a.params cnonce response)).getLast? = some c → PyStr.isSpace c = false := by
  have hsplit : a.params cnonce response = a.verifiedParams cnonce response ++
      match truthyText a.opaqueValue with
      | some value => [⟨"opaque", value, true⟩]
      | none => [] := by
    unfold AuthHeaderArgs.verifiedParams AuthHeaderArgs.params
    rw [show truthyText none = none from rfl, List.append_nil]
  have hne : a.verifiedParams cnonce response ≠ [] := List.cons_ne_nil _ _
  unfold AuthHeaderArgs.opaqueParams AuthHeaderArgs.opaqueText
  rw [hsplit]
  cases truthyText a.opaqueValue with
  | none =>
    have hparams := digestParams_paramsText hread (.inl rfl)
    rw [List.append_nil] at hparams ⊢
    exact ⟨hparams, getLast?_paramsText hread⟩
  | some value =>
    have hparams := digestParams_paramsText hread
      (.inr ⟨' ' :: (AuthParam.text ⟨"opaque", value, true⟩).toList, rfl⟩)
    rw [findAll_separator] at hparams
    dsimp only
    rw [paramsText_concat hne]
    refine ⟨hparams, fun c hc => ?_⟩
    -- the text ends with the closing quote
    have hquote : (AuthParam.text ⟨"opaque", value, true⟩).toList.getLast? = some '"' := by
      rw [AuthParam.text, if_pos rfl, ← String.append_assoc, ← String.append_assoc,
        String.toList_append]
      exact List.getLast?_concat
    rw [List.getLast?_append_of_ne_nil _ (List.cons_ne_nil _ _), List.getLast?_cons_cons,
      List.getLast?_cons, hquote] at hc
    rw [← Option.some.inj hc]
    rfl

/-- **The header is read back**: what was written, and what is found in the opaque value. -/
theorem parseChallenge_buildAuthHeader (hpy : KeepsText py) {a : AuthHeaderArgs}
    (ha : a.Supported py) (hwhole : a.ReadWhole py) (cnonce : HexNonce) {response : String}
    (hne : response ≠ "") (hresponse : '"' ∉ response.toList) :
    parseChallenge py ((if a.statusCode = 407 then "Proxy-Authorization" else "Authorization") ++
        ": Digest " ++ ", ".intercalate ((a.params cnonce response).map AuthParam.text)) =
      some ((a.readBack py cnonce response).setDefault "algorithm" "MD5") := by
  have hread := verifiedParams_readable hpy ha hwhole cnonce hne hresponse
  have hwritten : (a.verifiedParams cnonce response).map (fun p => (py.lower p.name, p.value)) =
      a.written cnonce response := by
    refine List.map_congr_left fun p hp => ?_
    rw [(@verifiedParams_names py a cnonce response p hp).2.2]
  obtain ⟨hparams, hlast⟩ := paramsText_params hread
  rw [hwritten, ← AuthHeaderArgs.readBack] at hparams
  have htext : (if a.statusCode = 407 then "Proxy-Authorization" else "Authorization") ++
      ": Digest " ++ ", ".intercalate ((a.params cnonce response).map AuthParam.text) =
        String.ofList (headerName a.statusCode ++ ':' :: ' ' :: 'D' :: 'i' :: 'g' :: 'e' :: 's' ::
          't' :: ' ' :: paramsText (a.params cnonce response)) := by
    rw [← String.toList_inj, String.toList_ofList, String.toList_append, String.toList_append,
      toList_intercalate_text, headerName, List.append_assoc]
    split_ifs
    · rfl
    · rfl
  obtain ⟨cs, hhead⟩ : ∃ cs, paramsText (a.params cnonce response) = 'u' :: cs := by
    have hfirst : ∃ more, paramsText (a.params cnonce response) =
        (AuthParam.text ⟨"username", a.username, true⟩).toList ++ more := ⟨_, rfl⟩
    obtain ⟨more, hmore⟩ := hfirst
    have hname : ("username" : String).toList = 'u' :: "sername".toList := rfl
    rw [hmore, AuthParam.text, String.toList_append, String.toList_append]
    dsimp only
    rw [hname, List.cons_append, List.cons_append, List.cons_append]
    exact ⟨_, rfl⟩
  obtain ⟨-, hrealm, hnonce, -⟩ := lookup_written a cnonce response
  have hcontains : (a.readBack py cnonce response).contains "realm" = true ∧
      (a.readBack py cnonce response).contains "nonce" = true := by
    unfold Dict.contains
    rw [get?_readBack hwhole cnonce response (by decide),
      get?_readBack hwhole cnonce response (by decide), hrealm, hnonce]
    exact ⟨rfl, rfl⟩
  rw [htext, parseChallenge_header hpy a.statusCode hhead (by decide) hlast, hparams,
    hcontains.1, hcontains.2]
  rfl

/-! ## The response is computed again -/

theorem hashWith_some {algorithm : String}
    (h : py.upper algorithm ∈ ["MD5", "MD5-SESS", "SHA-256", "SHA-256-SESS"]) (data : String) :
    ∃ digest, hashWith py hashes algorithm data = some digest ∧
      (digest = hashes.md5 data ∨ digest = hashes.sha256 data) := by
  unfold hashWith
  simp only [List.mem_cons, List.not_mem_nil, or_false] at h
  dsimp only
  split_ifs with hmd5 hsha
  · exact ⟨_, rfl, .inl rfl⟩
  · exact ⟨_, rfl, .inr rfl⟩
  · rw [not_or] at hmd5 hsha
    rcases h with h | h | h | h
    · exact absurd h hmd5.1
    · exact absurd h hmd5.2
    · exact absurd h hsha.1
    · exact absurd h hsha.2

theorem toNat_lt_of_isAlphanum {c : Char} (h : c.isAlphanum = true) : c.toNat < 128 := by
  have hranges : c.isAlphanum =
      (decide (c.val ≥ 'A'.val ∧ c.val ≤ 'Z'.val) ||
        (decide (c.val ≥ 'a'.val) && decide (c.val ≤ 'z'.val)) ||
        (decide (c.val ≥ '0'.val) && decide (c.val ≤ '9'.val))) := rfl
  simp only [hranges, Bool.or_eq_true, Bool.and_eq_true, decide_eq_true_eq,
    UInt32.le_iff_toNat_le] at h
  show c.val.toNat < 128
  have hz : 'z'.val.toNat = 122 := rfl
  have hZ : 'Z'.val.toNat = 90 := rfl
  have hnine : '9'.val.toNat = 57 := rfl
  omega

/-- A response of a supported algorithm is a digest; it exists when what it needs was drawn. -/
theorem computeDigestResponse_request {hashes : DigestHashes} (hhex : hashes.Hex)
    {a : AuthHeaderArgs} (ha : a.Supported py) (cnonce : HexNonce) :
    ∃ response, computeDigestResponse py hashes (a.request py cnonce) = some response ∧
      (∀ c ∈ response.toList, c.isAlphanum = true) ∧ response ≠ "" := by
  have hhash : ∀ data, ∃ digest, hashWith py hashes a.algorithm data = some digest ∧
      (∀ c ∈ digest.toList, c.isAlphanum = true) ∧ digest ≠ "" := by
    intro data
    obtain ⟨digest, hdigest, rfl | rfl⟩ := hashWith_some hashes ha.algorithm data
    · exact ⟨_, hdigest, (hhex data).1, (hhex data).2.1⟩
    · exact ⟨_, hdigest, (hhex data).2.2.1, (hhex data).2.2.2⟩
  -- `nc` and `cnonce` are drawn wherever the response needs them
  have hdrawn : (truthyText (selectQop a.qop)).isSome = true ∨ isSess py a.algorithm = true →
      a.drawn py cnonce = (some "00000001", some cnonce.value) := by
    intro hor
    unfold AuthHeaderArgs.drawn
    rw [if_pos (by rwa [Bool.or_eq_true])]
  obtain ⟨ha1, hha1⟩ : ∃ ha1, (a.request py cnonce).ha1 py hashes = some ha1 := by
    obtain ⟨digest, hdigest, -⟩ := hhash (a.username ++ ":" ++ a.realm ++ ":" ++ a.password)
    unfold DigestRequest.ha1
    show ∃ ha1, (hashWith py hashes a.algorithm (a.username ++ ":" ++ a.realm ++ ":" ++
      a.password)).bind _ = some ha1
    rw [hdigest, Option.bind_some]
    cases hsess : isSess py a.algorithm with
    | true =>
      have hsuffix : "-SESS".toList.isSuffixOf (py.upper a.algorithm).toList = true := hsess
      obtain ⟨digest', hdigest', -⟩ := hhash (digest ++ ":" ++ a.nonce ++ ":" ++ cnonce.value)
      refine ⟨digest', ?_⟩
      rw [show (a.request py cnonce).nc = (a.drawn py cnonce).1 from rfl,
        show (a.request py cnonce).cnonce = (a.drawn py cnonce).2 from rfl, hdrawn (.inr hsess)]
      show (if "-SESS".toList.isSuffixOf (py.upper a.algorithm).toList =
        true then _ else some digest) = some digest'
      rw [if_pos hsuffix]
      exact hdigest'
    | false =>
      have hsuffix : "-SESS".toList.isSuffixOf (py.upper a.algorithm).toList = false := hsess
      refine ⟨digest, ?_⟩
      show (if "-SESS".toList.isSuffixOf (py.upper a.algorithm).toList =
        true then _ else some digest) = _
      rw [hsuffix, if_neg Bool.false_ne_true]
  obtain ⟨ha2, hha2, -⟩ := hhash (a.method ++ ":" ++ a.uri)
  unfold computeDigestResponse
  rw [hha1, Option.bind_some]
  show ∃ response, (hashWith py hashes a.algorithm (a.method ++ ":" ++ a.uri)).bind _ =
    some response ∧ _
  rw [hha2, Option.bind_some]
  rw [show (a.request py cnonce).qop = selectQop a.qop from rfl,
    show (a.request py cnonce).nc = (a.drawn py cnonce).1 from rfl,
    show (a.request py cnonce).cnonce = (a.drawn py cnonce).2 from rfl]
  cases hselected : selectQop a.qop with
  | none => exact hhash _
  | some qop =>
    rw [selectQop_selected hselected]
    dsimp only
    split_ifs with hauth
    · have hne : qop ≠ "" := by
        rcases hauth with rfl | rfl
        · decide
        · decide
      have hsome : (truthyText (selectQop a.qop)).isSome = true := by
        rw [hselected, truthyText, Option.filter_some_pos (by simpa using hne)]
        rfl
      rw [hdrawn (.inl hsome)]
      exact hhash _
    · exact hhash _

/-- What `verify_digest` computes the response from, after the header is read back. -/
theorem digestRequestOf_written {a : AuthHeaderArgs} (hwhole : a.ReadWhole py)
    (cnonce : HexNonce) (response : String) :
    digestRequestOf ((a.readBack py cnonce response).setDefault "algorithm" "MD5") a.username
        a.password a.method =
      { username := a.username, realm := a.realm, password := a.password, nonce := a.nonce,
        method := a.method, uri := a.uri, algorithm := a.algorithm,
        qop := selectQop (truthyText (selectQop a.qop)),
        nc := (truthyText (selectQop a.qop)).map (fun _ => "00000001"),
        cnonce := (truthyText (selectQop a.qop)).map (fun _ => cnonce.value) } := by
  have hget : ∀ name ∈ verifiedNames, (a.readBack py cnonce response).get? name =
      (a.written cnonce response).lookup name :=
    fun name hname => get?_readBack hwhole cnonce response hname
  rw [verifiedNames, List.cons_append, List.cons_append] at hget
  simp only [List.cons_append, List.nil_append, List.forall_mem_cons] at hget
  obtain ⟨-, hrealm, hnonce, huri, -, halgorithm, hqop, hnc, hcnonce, -⟩ := hget
  obtain ⟨-, hrealm', hnonce', huri', -, halgorithm', hqop', hnc', hcnonce'⟩ :=
    lookup_written a cnonce response
  unfold digestRequestOf Dict.getD
  simp only [Dict.get?_setDefault, hrealm, hnonce, huri, halgorithm, hqop, hnc, hcnonce, hrealm',
    hnonce', huri', halgorithm', hqop', hnc', hcnonce']
  rfl

/-- With a written qop, or without a `-sess` algorithm, the response is computed from what it was
    built from. -/
theorem computeDigestResponse_written {a : AuthHeaderArgs}
    (hwhole : a.ReadWhole py) (cnonce : HexNonce) (response : String)
    (hwritten : isSess py a.algorithm = true → (truthyText (selectQop a.qop)).isSome = true) :
    computeDigestResponse py hashes (digestRequestOf
        ((a.readBack py cnonce response).setDefault "algorithm" "MD5") a.username
        a.password a.method) =
      computeDigestResponse py hashes (a.request py cnonce) := by
  rw [digestRequestOf_written hwhole]
  cases hselected : truthyText (selectQop a.qop) with
  | some qop =>
    -- everything that was drawn was written
    obtain ⟨-, hsome⟩ := truthyText_ne hselected
    have hdrawn : a.drawn py cnonce = (some "00000001", some cnonce.value) := by
      unfold AuthHeaderArgs.drawn
      rw [hselected]
      rfl
    unfold AuthHeaderArgs.request
    rw [hdrawn, hsome, selectQop_selected hsome]
    rfl
  | none =>
    have hplain : isSess py a.algorithm = false := by
      cases hsess : isSess py a.algorithm with
      | false => rfl
      | true =>
        have hsome := hwritten hsess
        rw [hselected] at hsome
        cases hsome
    have hdrawn : a.drawn py cnonce = (none, none) := by
      unfold AuthHeaderArgs.drawn
      rw [hselected, hplain]
      rfl
    -- an empty token is no token
    have htoken : selectQop a.qop = none ∨ selectQop a.qop = some "" := by
      cases hqop : selectQop a.qop with
      | none => exact .inl rfl
      | some qop =>
        right
        by_contra hne
        have hqopne : qop ≠ "" := fun h => hne (by rw [h])
        rw [hqop, truthyText, Option.filter_some_pos (by simpa using hqopne)] at hselected
        cases hselected
    unfold AuthHeaderArgs.request
    rw [hdrawn]
    rcases htoken with htoken | htoken
    · rw [htoken]
      rfl
    · rw [htoken]
      rfl

/-- A `-sess` algorithm without a written qop: the nonces are missing, and the response cannot be
    computed. -/
theorem computeDigestResponse_sess {a : AuthHeaderArgs}
    (hwhole : a.ReadWhole py) (cnonce : HexNonce) (response : String)
    (hsess : isSess py a.algorithm = true)
    (hnone : truthyText (selectQop a.qop) = none) :
    computeDigestResponse py hashes (digestRequestOf
      ((a.readBack py cnonce response).setDefault "algorithm" "MD5") a.username a.password
        a.method) = none := by
  have hsuffix : "-SESS".toList.isSuffixOf (py.upper a.algorithm).toList = true := hsess
  rw [digestRequestOf_written hwhole, hnone]
  unfold computeDigestResponse DigestRequest.ha1
  dsimp only
  cases hashWith py hashes a.algorithm (a.username ++ ":" ++ a.realm ++ ":" ++ a.password) with
  | none => rfl
  | some digest =>
    rw [Option.bind_some, if_pos hsuffix]
    rfl

/-- What is verified of a header that is read back: the response that is computed again. -/
theorem verifyDigest_readBack (hpy : KeepsText py) {hashes : DigestHashes}
    (hhex : hashes.Hex) {a : AuthHeaderArgs} (ha : a.Supported py) (cnonce : HexNonce)
    (hwhole : a.ReadWhole py) : ∃ response header,
    computeDigestResponse py hashes (a.request py cnonce) = some response ∧
      compareDigest response response = some true ∧ buildAuthHeader py hashes a cnonce =
      some header ∧ verifyDigest py hashes header a.username a.password a.method =
        (computeDigestResponse py hashes (digestRequestOf
          ((a.readBack py cnonce response).setDefault "algorithm" "MD5") a.username
          a.password
            a.method)).elim (some false) (fun expected => compareDigest expected response) := by
  obtain ⟨response, hresponse, hdigits, hne⟩ := computeDigestResponse_request hhex ha cnonce
  have hquote : '"' ∉ response.toList := fun h => absurd (hdigits _ h) (by decide)
  have hascii : PyStr.IsAscii response := fun c hc => toNat_lt_of_isAlphanum (hdigits c hc)
  have hmatch : compareDigest response response = some true := by
    unfold compareDigest
    rw [if_pos ⟨hascii, hascii⟩]
    simp
  have hsame : compareDigest a.username a.username = some true := by
    unfold compareDigest
    rw [if_pos ⟨ha.username.ascii, ha.username.ascii⟩]
    simp
  obtain ⟨husername, -, -, -, hwritten, -⟩ := lookup_written a cnonce response
  have huser : ((a.readBack py cnonce response).setDefault "algorithm" "MD5").get?
      "username" = some a.username := by
    rw [Dict.get?_setDefault, if_neg (by decide), get?_readBack hwhole cnonce response (by decide),
      husername]
  have hgot : ((a.readBack py cnonce response).setDefault "algorithm" "MD5").get?
      "response" = some response := by
    rw [Dict.get?_setDefault, if_neg (by decide), get?_readBack hwhole cnonce response (by decide),
      hwritten]
  unfold buildAuthHeader
  rw [hresponse]
  refine ⟨response, _, rfl, hmatch, rfl, ?_⟩
  -- the name and the response are read back as they were: what decides is the expected response
  unfold verifyDigest
  rw [parseChallenge_buildAuthHeader hpy ha hwhole cnonce hne hquote]
  dsimp only
  rw [huser]
  dsimp only
  rw [hsame]
  simp only [hgot]
  cases computeDigestResponse py hashes (digestRequestOf
      ((a.readBack py cnonce response).setDefault "algorithm" "MD5") a.username a.password
      a.method) with
  | none => rfl
  | some expected => rfl

/-- A `-sess` algorithm without a written qop is refused, whatever the password. -/
theorem verifyDigest_sess (hpy : KeepsText py) {hashes : DigestHashes}
    (hhex : hashes.Hex) {a : AuthHeaderArgs} (ha : a.Supported py) (cnonce : HexNonce)
    (hwhole : a.ReadWhole py) (hsess : isSess py a.algorithm = true)
    (hnone : truthyText (selectQop a.qop) = none) :
    ∃ header, buildAuthHeader py hashes a cnonce = some header ∧
      verifyDigest py hashes header a.username a.password a.method = some false := by
  obtain ⟨response, header, -, -, hheader, hverify⟩ :=
    verifyDigest_readBack hpy hhex ha cnonce hwhole
  refine ⟨header, hheader, ?_⟩
  rw [hverify, computeDigestResponse_sess hashes hwhole cnonce response hsess hnone,
    Option.elim_none]

theorem verifyDigest_written (hpy : KeepsText py) {hashes : DigestHashes}
    (hhex : hashes.Hex) {a : AuthHeaderArgs} (ha : a.Supported py) (cnonce : HexNonce)
    (hwhole : a.ReadWhole py) (hwritten : isSess py a.algorithm = true →
      (truthyText (selectQop a.qop)).isSome = true) :
    ∃ header, buildAuthHeader py hashes a cnonce = some header ∧
      verifyDigest py hashes header a.username a.password a.method = some true := by
  obtain ⟨response, header, hresponse, hmatch, hheader, hverify⟩ :=
    verifyDigest_readBack hpy hhex ha cnonce hwhole
  refine ⟨header, hheader, ?_⟩
  rw [hverify, computeDigestResponse_written hashes hwhole cnonce response hwritten, hresponse,
    Option.elim_some]
  exact hmatch

/-- **The digest header is verified**, when its values are read back whole, exactly if a qop is
    written or the algorithm is no `-sess` variant. -/
theorem verifyDigest_buildAuthHeader_iff (py : StrMethods) (hpy : KeepsText py)
    (hashes : DigestHashes) (hhex : hashes.Hex) (a : AuthHeaderArgs) (ha : a.Supported py)
    (cnonce : HexNonce) (hwhole : a.ReadWhole py) :
    ∃ header, buildAuthHeader py hashes a cnonce = some header ∧
      (verifyDigest py hashes header a.username a.password a.method = some true ↔
        (isSess py a.algorithm = true → (truthyText (selectQop a.qop)).isSome = true)) := by
  by_cases hwritten : isSess py a.algorithm = true → (truthyText (selectQop a.qop)).isSome = true
  · obtain ⟨header, hheader, hverify⟩ := verifyDigest_written hpy hhex ha cnonce hwhole hwritten
    exact ⟨header, hheader, iff_of_true hverify hwritten⟩
  · obtain ⟨hsess, hnone⟩ := Classical.not_imp.1 hwritten
    obtain ⟨header, hheader, hverify⟩ := verifyDigest_sess hpy hhex ha cnonce hwhole hsess
      (Option.not_isSome_iff_eq_none.1 hnone)
    refine ⟨header, hheader, iff_of_false ?_ hwritten⟩
    rw [hverify]
    decide

/-! ## Headers that are not verified -/

/-- `hashlib.md5` on the texts that are hashed below. -/
def aliceDigests : List (String × String) :=
    [("alice:pbx:secret",
      "660236ff7a5642c0d8db781654368f95"),
    ("INVITE:sip:b",
      "f95a16405a847400d8f354a709591adf"),
    ("660236ff7a5642c0d8db781654368f95:n1:0123456789abcdef",
      "5f1d91d1ff972149cb23eb637ff875c9"),
    ("5f1d91d1ff972149cb23eb637ff875c9:n1:f95a16405a847400d8f354a709591adf",
      "c589677e07e5323f46db5e5b03482d82"),
    ("660236ff7a5642c0d8db781654368f95:n1:f95a16405a847400d8f354a709591adf",
      "104da9dcae5f05856587cf5c433ad1da"),
    ("660236ff7a5642c0d8db781654368f95:n1:00000001:0123456789abcdef:auth:f95a16405a847400d8f354a709591adf",
      "93f5d841dc431b6dbc6d76ad92418499")]

/-- Other texts are not hashed here. -/
def aliceMd5 (data : String) : String :=
  (aliceDigests.lookup data).getD "d41d8cd98f00b204e9800998ecf8427e"

def aliceHashes : DigestHashes := ⟨aliceMd5, fun _ => "e3b0c442"⟩

def aliceNonce : HexNonce := ⟨"0123456789abcdef", by decide, by decide⟩

/-- The credentials of `alice` for an INVITE. -/
def aliceArgs (algorithm : String) (qop opaqueValue : Option String) : AuthHeaderArgs where
  statusCode := 407
  username := "alice"
  realm := "pbx"
  password := "secret"
  nonce := "n1"
  method := "INVITE"
  uri := "sip:b"
  algorithm := algorithm
  qop := qop
  opaqueValue := opaqueValue

theorem keepsText_ascii : KeepsText .ascii where
  lower_prefix s t _ := by
    show s.map Char.toLower <+:
      (String.ofList ((String.ofList (s ++ t)).toList.map Char.toLower)).toList
    rw [String.toList_ofList, String.toList_ofList, List.map_append]
    exact List.prefix_append _ _
  upper_empty := rfl
  upper_mem s c hc hor := by
    show c ∈ (String.ofList (s.toList.map Char.toUpper)).toList
    rw [String.toList_ofList]
    refine List.mem_map.2 ⟨c, hc, ?_⟩
    rcases hor with rfl | rfl | hspace
    · rfl
    · rfl
    · have hlower : ¬ (c.val ≥ 'a'.val ∧ c.val ≤ 'z'.val) := by
        rintro ⟨ha, hz⟩
        have ha' : 97 ≤ c.toNat := UInt32.le_iff_toNat_le.1 ha
        have hz' : c.toNat ≤ 122 := UInt32.le_iff_toNat_le.1 hz
        simp only [PyStr.isSpace, Bool.or_eq_true, Bool.and_eq_true, decide_eq_true_eq,
          beq_iff_eq] at hspace
        omega
      exact dif_neg hlower

theorem aliceHashes_hex : aliceHashes.Hex := by
  have htable : ∀ e ∈ aliceDigests, (∀ c ∈ e.2.toList, c.isAlphanum = true) ∧ e.2 ≠ "" := by decide
  have hmd5 : ∀ data, (∀ c ∈ (aliceMd5 data).toList, c.isAlphanum = true) ∧ aliceMd5 data ≠ "" := by
    intro data
    unfold aliceMd5
    cases hlookup : aliceDigests.lookup data with
    | none =>
      rw [Option.getD_none]
      decide
    | some digest =>
      rw [Option.getD_some]
      exact htable _ ((Dict.lookup_eq_some_iff_mem (by decide) data digest).1 hlookup)
  have hsha256 : (∀ c ∈ ("e3b0c442" : String).toList, c.isAlphanum = true) ∧
    ("e3b0c442" : String) ≠ "" := by decide
  intro data
  exact ⟨(hmd5 data).1, (hmd5 data).2, hsha256.1, hsha256.2⟩

theorem aliceArgs_supported {algorithm : String} (h : StrMethods.ascii.upper algorithm ∈
    ["MD5", "MD5-SESS", "SHA-256", "SHA-256-SESS"]) (qop opaqueValue : Option String) :
    (aliceArgs algorithm qop opaqueValue).Supported .ascii where
  username := (⟨by decide, by decide, by decide⟩ : QuotableText "alice")
  realm := (⟨by decide, by decide, by decide⟩ : QuotableText "pbx")
  nonce := (⟨by decide, by decide, by decide⟩ : QuotableText "n1")
  uri := (⟨by decide, by decide, by decide⟩ : QuotableText "sip:b")
  algorithm := h

/-- The header with a qop of two words. -/
def twoWordHeader : String :=
  "Proxy-Authorization: Digest username=\"alice\", realm=\"pbx\", nonce=\"n1\", uri=\"sip:b\", " ++
    "response=\"104da9dcae5f05856587cf5c433ad1da\", algorithm=MD5, qop=auth foo, nc=00000001, " ++
    "cnonce=\"0123456789abcdef\""

/-- Its parameters as they are read back. -/
def twoWordParams : Dict String String :=
  .ofList [("username", "alice"), ("realm", "pbx"), ("nonce", "n1"), ("uri", "sip:b"),
    ("response", "104da9dcae5f05856587cf5c433ad1da"), ("algorithm", "MD5"), ("qop", "auth"),
    ("nc", "00000001"), ("cnonce", "0123456789abcdef")]

theorem parse_twoWordHeader : parseChallenge .ascii twoWordHeader = some twoWordParams := by
  generalize hfront : (aliceArgs "MD5" none none).verifiedParams aliceNonce
    "104da9dcae5f05856587cf5c433ad1da" = front
  generalize htail : ", qop=auth foo, nc=00000001, cnonce=\"0123456789abcdef\"".toList = tail
  have hheader : twoWordHeader = String.ofList (headerName 407 ++ ':' :: ' ' :: 'D' :: 'i' ::
      'g' :: 'e' :: 's' :: 't' :: ' ' :: (paramsText front ++ tail)) := by
    subst hfront htail
    decide +kernel
  have hread : ∀ p ∈ front, p.Readable .ascii := by
    subst hfront
    exact verifiedParams_readable keepsText_ascii (aliceArgs_supported (by decide) none none)
      ⟨nofun, opaqueParams_of_no_quote nofun⟩ aliceNonce (by decide) (by decide)
  have hfound : ((paramRe .ascii).findAll tail).map (readParam .ascii) =
      [("qop", "auth"), ("nc", "00000001"), ("cnonce", "0123456789abcdef")] := by
    subst htail
    decide +kernel
  have hparams : digestParams .ascii (paramsText front ++ tail) = twoWordParams := by
    rw [digestParams_paramsText hread (.inr ⟨tail.tail, by subst htail; rfl⟩), hfound]
    subst hfront
    exact congrArg Dict.ofList (by decide +kernel)
  have hhead : paramsText front ++ tail = 'u' :: (paramsText front ++ tail).tail := by
    subst hfront htail
    decide +kernel
  have hend : (paramsText front ++ tail).getLast? = some '"' := by
    rw [List.getLast?_append_of_ne_nil _ (by subst htail; decide)]
    subst htail
    decide
  have hlast : ∀ c, (paramsText front ++ tail).getLast? = some c → PyStr.isSpace c = false := by
    intro c hc
    rw [hend] at hc
    cases hc
    rfl
  rw [hheader, parseChallenge_header keepsText_ascii 407 hhead rfl hlast, hparams,
    if_pos (by decide +kernel)]
  exact congrArg some (Dict.ext (by decide +kernel))

/-- Refused: a `-sess` response without a qop, and a token of two words, of which the first is read
    back. -/
theorem aliceHeaders_refused :
    (∃ header, buildAuthHeader .ascii aliceHashes (aliceArgs "MD5-sess" none none) aliceNonce =
      some header ∧
        verifyDigest .ascii aliceHashes header "alice" "secret" "INVITE" = some false) ∧
      (buildAuthHeader .ascii aliceHashes (aliceArgs "MD5" (some "auth foo") none) aliceNonce).map
        (fun header => verifyDigest .ascii aliceHashes header "alice" "secret" "INVITE") =
        some (some false) := by
  have hbuilt : buildAuthHeader .ascii aliceHashes (aliceArgs "MD5" (some "auth foo") none)
      aliceNonce = some twoWordHeader := by
    decide +kernel
  have hrefused : verifyDigest .ascii aliceHashes twoWordHeader "alice" "secret" "INVITE" =
      some false := by
    rw [verifyDigest, parse_twoWordHeader]
    decide +kernel
  refine ⟨?_, by rw [hbuilt, Option.map_some, hrefused]⟩
  refine verifyDigest_sess keepsText_ascii aliceHashes_hex
    (aliceArgs_supported (by decide) none none) aliceNonce ⟨nofun, opaqueParams_of_no_quote nofun⟩
    (by decide) rfl

theorem aliceArgs_readWhole :
    (aliceArgs "MD5-sess" (some "auth-int, auth") (some "o\"p")).ReadWhole .ascii where
  qop qop h := by
    have hauth : qop = "auth" := (Option.some.inj (show some "auth" = some qop from h)).symm
    rw [hauth]
    decide
  opaqueValue := by decide +kernel

/-- A header for a challenge with two tokens is verified, a quote in its opaque value or not. -/
theorem aliceHeader_verified :
    ∃ header, buildAuthHeader .ascii aliceHashes (aliceArgs "MD5-sess" (some "auth-int, auth")
        (some "o\"p")) aliceNonce = some header ∧
      verifyDigest .ascii aliceHashes header "alice" "secret" "INVITE" = some true := by
  obtain ⟨header, hheader, hverified⟩ := verifyDigest_buildAuthHeader_iff .ascii keepsText_ascii
    aliceHashes aliceHashes_hex (aliceArgs "MD5-sess" (some "auth-int, auth") (some "o\"p"))
    (aliceArgs_supported (by decide) _ _) aliceNonce aliceArgs_readWhole
  exact ⟨header, hheader, hverified.2 (fun _ => by decide)⟩

end Ekaette
