import Ekaette.Sip.HeaderLines

set_option autoImplicit false

/-! # The two parsers

`parse_message` reads a request from a stream, `parse_sip_request` and `_coerce_dialog_headers` read
it from a datagram. This module says for which requests they read the same. -/

namespace Ekaette

/-! ## Raw header lines on a stream -/

/-- Header lines on the wire. -/
def wireLines (lines : List (List Char)) : List UInt8 := lines.flatMap wireLine

/-- A line that can stand in a message. -/
def RawLine (line : List Char) : Prop := line ≠ [] ∧ OneLine line

instance (line : List Char) : Decidable (RawLine line) := inferInstanceAs (Decidable (_ ∧ _))

theorem parseHeaders_tooLarge (py : StrMethods) {line : List Char} (hline : OneLine line) (left : ℕ)
    (headers : Dict String String) (size : ℕ) (rest : List UInt8)
    (hsize : maxMessageSize < size + (wireLine line).length) :
    ∃ e, parseHeaders py left headers size (wireLine line ++ rest) = .error e := by
  rw [parseHeaders.eq_def, readline_wireLine_eq hline.2]
  by_cases hlimit : (wireLine line).length ≤ streamLimit + 1
  · rw [if_pos hlimit]
    simp only [if_neg (wireLine_ne_nil line), if_pos hsize]
    exact ⟨_, rfl⟩
  · rw [if_neg hlimit]
    exact ⟨_, rfl⟩

/-- **One raw line**: a header if it has a colon, and one more header is allowed. -/
theorem parseHeaders_rawLine (py : StrMethods) {line : List Char} (hline : RawLine line) (left : ℕ)
    (headers : Dict String String) (size : ℕ) (rest : List UInt8)
    (hsize : size + (wireLine line).length ≤ maxMessageSize) :
    parseHeaders py left headers size (wireLine line ++ rest) =
      match headerField line, left with
      | none, _ => .error (.transport (.malformedHeader (String.ofList line)))
      | some _, 0 => .error (.transport .tooManyHeaders)
      | some e, left + 1 => parseHeaders py left (headers.set (normalizeHeaderName py e.1) e.2)
          (size + (wireLine line).length) rest := by
  rw [parseHeaders.eq_def, readline_wireLine hline.2.2 (by omega)]
  simp only [if_neg (wireLine_ne_nil _), if_neg (Nat.not_lt.2 hsize), decodeLine_wireLine hline.2,
    if_neg hline.1]
  rw [headerField]
  cases PyStr.splitFirst [':'] line with
  | none => rfl
  | some parts =>
    cases left with
    | zero => rfl
    | succ left => rfl

/-- The limits of the reader for header lines: each has a colon, they are not too many and not too
    long. -/
structure ReadableLines (lines : List (List Char)) (left size : ℕ) : Prop where
  colon : ∀ line ∈ lines, ':' ∈ line
  count : lines.length ≤ left
  size : size + (wireLines lines ++ wireLine []).length ≤ maxMessageSize

/-- **The header loop** reads exactly the lines within the limits, by induction on the lines. -/
theorem parseHeaders_wireLines_iff (py : StrMethods) (lines : List (List Char))
    (hlines : ∀ line ∈ lines, RawLine line) (left : ℕ) (headers : Dict String String) (size : ℕ)
    (rest : List UInt8) (r : Dict String String × ℕ × List UInt8) :
    parseHeaders py left headers size (wireLines lines ++ (wireLine [] ++ rest)) = .ok r ↔
      ReadableLines lines left size ∧
        r = ((headerFields lines).foldl (fun acc e => acc.set (normalizeHeaderName py e.1) e.2)
          headers, size + (wireLines lines ++ wireLine []).length, rest) := by
  induction lines generalizing left headers size with
  | nil =>
    have hblank : OneLine [] := ⟨List.not_mem_nil, List.not_mem_nil⟩
    show parseHeaders py left headers size (wireLine [] ++ rest) = .ok r ↔ _
    by_cases hsize : size + (wireLine []).length ≤ maxMessageSize
    · rw [parseHeaders_blank py left headers size rest hsize, Except.ok.injEq]
      exact ⟨fun h => ⟨⟨fun _ h => absurd h List.not_mem_nil, Nat.zero_le left, hsize⟩, h.symm⟩,
        fun h => h.2.symm⟩
    · obtain ⟨e, he⟩ := parseHeaders_tooLarge py hblank left headers size rest (by omega)
      rw [he]
      exact iff_of_false (fun h => by cases h) (fun h => hsize h.1.size)
  | cons line lines ih =>
    have hline := hlines line List.mem_cons_self
    have hrest := fun l hl => hlines l (List.mem_cons_of_mem line hl)
    have hcons : wireLines (line :: lines) = wireLine line ++ wireLines lines := rfl
    have htotal : size + (wireLines (line :: lines) ++ wireLine []).length =
        size + (wireLine line).length + (wireLines lines ++ wireLine []).length := by
      rw [hcons, List.append_assoc, List.length_append]
      omega
    by_cases hsize : size + (wireLine line).length ≤ maxMessageSize
    · rw [htotal, hcons, List.append_assoc, parseHeaders_rawLine py hline left headers size _ hsize]
      cases hfield : headerField line with
      | none =>
        have hcolon : ':' ∉ line := by
          rw [headerField, Option.map_eq_none_iff] at hfield
          exact (PyStr.splitFirst_eq_none_iff ':' line).1 hfield
        exact iff_of_false (fun h => by cases h)
          (fun h => hcolon (h.1.colon line List.mem_cons_self))
      | some e =>
        have hcolon : ':' ∈ line := by
          by_contra hno
          rw [headerField, (PyStr.splitFirst_eq_none_iff ':' line).2 hno] at hfield
          cases hfield
        cases left with
        | zero => exact iff_of_false (fun h => by cases h) (fun h => absurd h.1.count (by simp))
        | succ left =>
          dsimp only
          rw [ih hrest, headerFields, headerFields, List.filterMap_cons, hfield]
          refine and_congr_left' ⟨fun h => ⟨?_, ?_, ?_⟩, fun h => ⟨?_, ?_, ?_⟩⟩
          · rw [List.forall_mem_cons]
            exact ⟨hcolon, h.colon⟩
          · exact Nat.succ_le_succ h.count
          · rw [htotal]
            exact h.size
          · exact (List.forall_mem_cons.1 h.colon).2
          · exact Nat.le_of_succ_le_succ h.count
          · rw [← htotal]
            exact h.size
    · obtain ⟨e, he⟩ := parseHeaders_tooLarge py hline.2 left headers size
        (wireLines lines ++ (wireLine [] ++ rest)) (by omega)
      rw [hcons, List.append_assoc, he]
      refine iff_of_false (fun h => by cases h) (fun h => hsize ?_)
      have hfits := h.1.size
      rw [htotal] at hfits
      omega

/-! ## Well-formed requests -/

/-- **A well-formed request**: a request line, header lines (a folded line is a line of its own),
    one value of From, To, Call-ID and CSeq, some Via, and a body as long as its Content-Length. -/
structure WellFormedRequest (py : StrMethods) where
  requestLine : List Char
  lines : List (List Char)
  body : List UInt8
  requestLine_raw : RawLine requestLine
  request : "SIP/".toList.isPrefixOf requestLine = false
  lines_raw : ∀ line ∈ lines, RawLine line
  single : ∀ name ∈ ["from", "to", "call-id", "cseq"], (ownValues py lines name).length = 1
  via : ownValues py lines "via" ≠ []
  contentLength : PyInt.parse py ((ownValues py lines "content-length").getLast?.getD "0") =
    some (body.length : ℤ)

variable {py : StrMethods}

variable (req : WellFormedRequest py)

/-- The bytes of a request. -/
def WellFormedRequest.bytes : List UInt8 :=
  wireLine req.requestLine ++ (wireLines req.lines ++ (wireLine [] ++ req.body))

/-- The text of the datagram. -/
def WellFormedRequest.text : String :=
  String.ofList (Utf8.decode req.bytes)

/-- What the stream parser reads. -/
def WellFormedRequest.read : SipMessage where
  firstLine := String.ofList req.requestLine
  headers :=
    (headerFields req.lines).foldl (fun acc e => acc.set (normalizeHeaderName py e.1) e.2) .empty
  body := String.ofList (Utf8.decode req.body)

theorem WellFormedRequest.header_read (name : String) :
    req.read.header name = (ownValues py req.lines name).getLastD "" :=
  getD_foldl_normalized py (headerFields req.lines) name

/-- The limits of the stream parser. -/
structure WellFormedRequest.Readable (req : WellFormedRequest py) : Prop where
  colon : ∀ line ∈ req.lines, ':' ∈ line
  count : req.lines.length ≤ maxHeaderCount
  size : req.bytes.length ≤ maxMessageSize

/-- **The body** is read if the message is not too large. -/
theorem WellFormedRequest.parseBody_iff (size : ℕ) (r : String × List UInt8) :
    parseBody py req.read.headers size req.body = .ok r ↔
      size + req.body.length ≤ maxMessageSize ∧ r = (req.read.body, []) := by
  have hlength : req.read.headers.getD "content-length" "0" =
      (ownValues py req.lines "content-length").getLast?.getD "0" := by
    rw [WellFormedRequest.read, Dict.getD,
      Dict.get?_foldl_set_last (fun e : String × String => normalizeHeaderName py e.1) Prod.snd,
      Dict.get?_empty, Option.or_none, ← List.getLast?_map]
    rfl
  rw [parseBody]
  simp only [hlength, req.contentLength, Int.toNat_natCast]
  rw [if_neg (by omega)]
  by_cases hsize : size + req.body.length ≤ maxMessageSize
  · rw [if_neg (Nat.not_lt.2 hsize), if_neg (lt_irrefl _), List.take_length, List.drop_length,
      Except.ok.injEq]
    exact ⟨fun h => ⟨hsize, h.symm⟩, fun h => h.2.symm⟩
  · rw [if_pos (Nat.lt_of_not_le hsize)]
    exact iff_of_false (fun h => by cases h) (fun h => hsize h.1)

theorem WellFormedRequest.length_bytes :
    req.bytes.length = (wireLine req.requestLine).length +
      (wireLines req.lines ++ wireLine []).length + req.body.length := by
  rw [WellFormedRequest.bytes]
  simp only [List.length_append]
  omega

/-- **The stream parser** reads exactly the requests within its limits. -/
theorem WellFormedRequest.parseMessage_iff
    (r : SipMessage × List UInt8) : parseMessage py req.bytes = .ok r ↔ req.Readable ∧
    r = (req.read, []) := by
  have hlength := req.length_bytes
  have hloop := parseHeaders_wireLines_iff py req.lines req.lines_raw maxHeaderCount .empty
    (wireLine req.requestLine).length req.body
  have hlimits : req.Readable ↔
    ReadableLines req.lines maxHeaderCount (wireLine req.requestLine).length ∧
      (wireLine req.requestLine).length + (wireLines req.lines ++ wireLine []).length +
        req.body.length ≤ maxMessageSize := by
    refine ⟨fun h => ⟨⟨h.colon, h.count, ?_⟩, ?_⟩, fun h => ⟨h.1.colon, h.1.count, ?_⟩⟩
    · have hsize := h.size
      omega
    · have hsize := h.size
      omega
    · have hsize := h.2
      omega
  rw [parseMessage, WellFormedRequest.bytes, readline_wireLine_eq req.requestLine_raw.2.2]
  by_cases hlimit : (wireLine req.requestLine).length ≤ streamLimit + 1
  · rw [if_pos hlimit]
    simp only [if_neg (wireLine_ne_nil _), decodeLine_wireLine req.requestLine_raw.2,
      if_neg req.requestLine_raw.1]
    constructor
    · intro h
      cases hheaders : parseHeaders py maxHeaderCount .empty (wireLine req.requestLine).length
          (wireLines req.lines ++ (wireLine [] ++ req.body)) with
      | error e => rw [hheaders] at h; cases h
      | ok a =>
        obtain ⟨hlines, rfl⟩ := (hloop a).1 hheaders
        rw [hheaders] at h
        dsimp only [Except.bind] at h
        cases hbody : parseBody py req.read.headers ((wireLine req.requestLine).length +
            (wireLines req.lines ++ wireLine []).length) req.body with
        | error e =>
          rw [WellFormedRequest.read] at hbody
          rw [hbody] at h
          cases h
        | ok b =>
          obtain ⟨hsize, rfl⟩ := (req.parseBody_iff _ b).1 hbody
          rw [WellFormedRequest.read] at hbody
          rw [hbody] at h
          exact ⟨hlimits.2 ⟨hlines, hsize⟩, (Except.ok.inj h).symm⟩
    · rintro ⟨hread, rfl⟩
      obtain ⟨hlines, hsize⟩ := hlimits.1 hread
      have hbody := (req.parseBody_iff _ _).2 ⟨hsize, rfl⟩
      rw [WellFormedRequest.read] at hbody
      rw [(hloop _).2 ⟨hlines, rfl⟩]
      dsimp only [Except.bind]
      rw [hbody]
      rfl
  · rw [if_neg hlimit]
    refine iff_of_false (fun h => by cases h) (fun h => hlimit ?_)
    have hsize := h.1.size
    have hsame : maxMessageSize = streamLimit := rfl
    omega

/-! ## The same bytes as a datagram -/

theorem wireLines_eq (first : List Char) (lines : List (List Char)) :
    wireLine first ++ (wireLines lines ++ wireLine []) =
      Utf8.encode (crlf.intercalate (first :: lines) ++ crlf ++ crlf) := by
  induction lines generalizing first with
  | nil =>
    rw [List.intercalate_singleton, Utf8.encode_append]
    rfl
  | cons line lines ih =>
    have hcons : wireLines (line :: lines) = wireLine line ++ wireLines lines := rfl
    rw [hcons, List.append_assoc, ih, List.intercalate_cons_cons, wireLine, ← Utf8.encode_append]
    rw [crlf, List.append_assoc (first ++ ['\r', '\n']), List.append_assoc (first ++ ['\r', '\n']),
      List.append_assoc]

/-- The datagram is a message made of these lines. -/
theorem WellFormedRequest.text_eq :
    req.text = linesMessage req.requestLine req.lines (Utf8.decode req.body) := by
  rw [WellFormedRequest.text, WellFormedRequest.bytes, linesMessage,
    ← List.append_assoc (wireLines _),
    ← List.append_assoc, wireLines_eq, Utf8.decode_encode_append, List.append_assoc,
    List.append_assoc]

theorem WellFormedRequest.noCrlf :
    ∀ line ∈ req.requestLine :: req.lines, NoCrlf line := by
  rw [List.forall_mem_cons]
  exact ⟨noCrlf_of_oneLine req.requestLine_raw.2,
    fun line hline => noCrlf_of_oneLine (req.lines_raw line hline).2⟩

theorem WellFormedRequest.parseSipRequest_text :
    textLines req.text = req.lines ∧
      (parseSipRequest req.text).method = String.ofList (req.requestLine.takeWhile (· ≠ ' ')) ∧
      (parseSipRequest req.text).body = req.read.body := by
  have hne := fun line hline => (req.lines_raw line hline).1
  rw [req.text_eq]
  exact ⟨textLines_linesMessage req.noCrlf hne _, parseSipRequest_linesMessage req.noCrlf hne _⟩

/-! ## Agreement -/

/-- **The parsers agree** on a message: the same method, Via, From, To, Call-ID, CSeq and body. -/
def ParsersAgree (py : StrMethods) (bytes : List UInt8) : Prop :=
  ∃ msg, parseMessage py bytes = .ok (msg, []) ∧
    let parsed := parseSipRequest (String.ofList (Utf8.decode bytes))
    let headers := coerceDialogHeaders parsed.headers
    msg.method = some parsed.method ∧ msg.header "via" = headers.via ∧
      msg.header "from" = headers.fromHeader ∧ msg.header "to" = headers.toHeader ∧
      msg.header "call-id" = headers.callId ∧ msg.header "cseq" = headers.cseq ∧
      msg.body = parsed.body

/-- The headers a request has once: normalized name and canonical spelling. -/
def singleSpellings : List (String × String) :=
  [("from", "From"), ("to", "To"), ("call-id", "Call-ID"), ("cseq", "CSeq")]

/-- Each of these headers is spelled canonically or in lower case, or is empty. -/
def KnownSpelled (py : StrMethods) (lines : List (List Char)) : Prop :=
  ∀ names ∈ singleSpellings, ∀ e ∈ headerFields lines, normalizeHeaderName py e.1 = names.1 →
    PyStr.strip e.1 = names.2 ∨ PyStr.strip e.1 = names.1 ∨ e.2 = ""

/-- The last Via line has the value of the last line spelled `Via`, or, where that is missing or
    empty, of the last line spelled `via`. -/
def LastViaSpelled (py : StrMethods) (lines : List (List Char)) : Prop :=
  (ownValues py lines "via").getLastD "" = pickedValue lines "Via" "via"

theorem WellFormedRequest.method_read :
    req.read.method = some (parseSipRequest req.text).method := by
  have hfirst : req.read.firstLine.toList = req.requestLine := String.toList_ofList
  have hrequest : req.read.isRequest = true := by
    rw [SipMessage.isRequest, hfirst, req.request]
    rfl
  rw [SipMessage.method, if_pos hrequest, req.parseSipRequest_text.2.1, hfirst]

theorem WellFormedRequest.headerOr_text (canonical lower : String) :
    headerOr (parseSipRequest req.text).headers canonical lower =
      pickedValue req.lines canonical lower := by
  rw [headerOr_parseSipRequest, req.parseSipRequest_text.1]

section Agreement

variable (hpy : ∀ s, PyStr.strip (py.lower s) = py.lower (PyStr.strip s))
include hpy

theorem WellFormedRequest.single_iff (req : WellFormedRequest py) {names : String × String}
    (hnames : names ∈ singleSpellings) :
    req.read.header names.1 = pickedValue req.lines names.2 names.1 ↔
      ∀ e ∈ headerFields req.lines, normalizeHeaderName py e.1 = names.1 →
        PyStr.strip e.1 = names.2 ∨ PyStr.strip e.1 = names.1 ∨ e.2 = "" := by
  have hsubset : singleSpellings ⊆ dialogSpellings := by decide
  have hname : singleSpellings.map Prod.fst = ["from", "to", "call-id", "cseq"] := rfl
  have hone : (ownValues py req.lines names.1).length = 1 := by
    refine req.single names.1 ?_
    rw [← hname]
    exact List.mem_map_of_mem hnames
  have hpicked := sublist_pickedValue_iff hpy (hsubset hnames) req.lines
  rw [req.header_read]
  obtain ⟨value, hvalue⟩ := List.length_eq_one_iff.1 hone
  rw [hvalue] at hpicked ⊢
  refine Iff.trans ?_ (hpicked.trans (and_iff_right le_rfl))
  rw [List.sublist_singleton]
  exact ⟨fun h => .inr (congrArg (fun v => [v]) h),
    fun h => (List.cons_eq_cons.1 (h.resolve_left (List.cons_ne_nil value []))).1⟩

/-- **Agreement of the parsers.** They read the same from exactly the well-formed requests within
    the limits of the stream parser whose headers are spelled in a way the datagram parser knows. -/
theorem parsersAgree_iff (req : WellFormedRequest py) :
    ParsersAgree py req.bytes ↔
      req.Readable ∧ KnownSpelled py req.lines ∧ LastViaSpelled py req.lines := by
  have htext : String.ofList (Utf8.decode req.bytes) = req.text := rfl
  have hvia := req.header_read "via"
  have hsingle : KnownSpelled py req.lines ↔
      ∀ names ∈ singleSpellings, req.read.header names.1 = pickedValue req.lines names.2 names.1 :=
    forall₂_congr (fun names hnames => (req.single_iff hpy hnames).symm)
  have hspelled : KnownSpelled py req.lines ↔
      req.read.header "from" = pickedValue req.lines "From" "from" ∧
      req.read.header "to" = pickedValue req.lines "To" "to" ∧
      req.read.header "call-id" = pickedValue req.lines "Call-ID" "call-id" ∧
      req.read.header "cseq" = pickedValue req.lines "CSeq" "cseq" := by
    rw [hsingle, singleSpellings, List.forall_mem_cons, List.forall_mem_cons, List.forall_mem_cons,
      List.forall_mem_singleton]
  rw [ParsersAgree, htext, hspelled, LastViaSpelled, ← hvia]
  simp only [coerceDialogHeaders, req.headerOr_text, req.parseSipRequest_text.2.2,
    req.parseMessage_iff]
  constructor
  · rintro ⟨msg, ⟨hread, hmsg⟩, -, hv, hf, ht, hc, hs, -⟩
    rw [(Prod.mk.inj hmsg).1] at hv hf ht hc hs
    exact ⟨hread, ⟨hf, ht, hc, hs⟩, hv⟩
  · rintro ⟨hread, ⟨hf, ht, hc, hs⟩, hv⟩
    exact ⟨req.read, ⟨hread, rfl⟩, req.method_read, hv, hf, ht, hc, hs, rfl⟩

end Agreement

/-- A request with the usual spellings. -/
def plainRequest : WellFormedRequest .ascii where
  requestLine := "OPTIONS u".toList
  lines := ["Via: a".toList, "from: b".toList, "To: c".toList, "Call-ID: d".toList,
    "CSeq: 1".toList, "L: 1".toList]
  body := [104]
  requestLine_raw := by decide +kernel
  request := by decide +kernel
  lines_raw := by decide +kernel
  single := by decide +kernel
  via := by decide +kernel
  contentLength := by decide +kernel

theorem plainRequest_agree : ParsersAgree .ascii plainRequest.bytes :=
  (parsersAgree_iff StrMethods.strip_lower_ascii plainRequest).2
    ⟨⟨by decide +kernel, by decide +kernel, by decide +kernel⟩, by
      have hspelled : ∀ names ∈ singleSpellings, ∀ e ∈ headerFields plainRequest.lines,
          normalizeHeaderName .ascii e.1 = names.1 →
            PyStr.strip e.1 = names.2 ∨ PyStr.strip e.1 = names.1 ∨ e.2 = "" := by
        decide +kernel
      exact hspelled, by
      have hvia : (ownValues .ascii plainRequest.lines "via").getLastD "" =
          pickedValue plainRequest.lines "Via" "via" := by
        decide +kernel
      exact hvia⟩

/-- A request in compact form. -/
def compactRequest : WellFormedRequest .ascii where
  requestLine := "OPTIONS u".toList
  lines := ["v: a".toList, "f: b".toList, "t: c".toList, "i: d".toList, "CSeq: 1".toList]
  body := []
  requestLine_raw := by decide +kernel
  request := by decide +kernel
  lines_raw := by decide +kernel
  single := by decide +kernel
  via := by decide +kernel
  contentLength := by decide +kernel

/-- The datagram parser does not find its Via. -/
theorem compactRequest_disagree : ¬ ParsersAgree .ascii compactRequest.bytes := by
  rintro ⟨msg, hmsg, -, hvia, -⟩
  have htext : String.ofList (Utf8.decode compactRequest.bytes) = compactRequest.text := rfl
  obtain ⟨-, hread⟩ := (compactRequest.parseMessage_iff _).1 hmsg
  rw [(Prod.mk.inj hread).1, compactRequest.header_read, htext, coerceDialogHeaders] at hvia
  dsimp only at hvia
  rw [compactRequest.headerOr_text] at hvia
  exact absurd hvia (by decide +kernel)

end Ekaette
