import Ekaette.Sip.Framing
import Ekaette.Sip.UdpServer

set_option autoImplicit false

/-! # The header lines of a message

What a message says, read off its lines: every line with a colon is a header, under the name that is
normalized from its spelling, and a header may stand on several lines. Both servers keep one value
of a name; this module says which. -/

namespace Ekaette

/-! ## Headers of lines -/

/-- A header line: the name as it is spelled, and the value. -/
def headerField (line : List Char) : Option (String × String) :=
  (PyStr.splitFirst [':'] line).map (fun (name, value) =>
    (String.ofList name, String.ofList (PyStr.stripChars value)))

/-- The headers of a message, in the order of its lines. -/
def headerFields (lines : List (List Char)) : List (String × String) := lines.filterMap headerField

/-- **The message's own values** of a header, however its name is spelled. -/
def ownValues (py : StrMethods) (lines : List (List Char)) (name : String) : List String :=
  ((headerFields lines).filter (fun e => normalizeHeaderName py e.1 = name)).map Prod.snd

/-- The value of a header that is kept in a dictionary of normalized names. -/
theorem getD_foldl_normalized (py : StrMethods) (fields : List (String × String)) (name : String) :
    (fields.foldl (fun acc e => acc.set (normalizeHeaderName py e.1) e.2) Dict.empty).getD name "" =
      ((fields.filter (fun e => normalizeHeaderName py e.1 = name)).map Prod.snd).getLastD "" := by
  rw [Dict.getD, Dict.get?_foldl_set_last (fun e : String × String => normalizeHeaderName py e.1)
    Prod.snd, Dict.get?_empty, Option.or_none, ← List.getLast?_map]
  exact (List.getLastD_eq_getLast?).symm

/-! ## The lines of a stream -/

/-- The header lines `parse_message` reads, up to the blank line. -/
def streamLines : ℕ → List UInt8 → List (List Char)
  | 0, _ => []
  | left + 1, stream =>
    match readline stream with
    | none => []
    | some (raw, rest) =>
      if decodeLine raw = [] then [] else decodeLine raw :: streamLines left rest

/-- The header lines of the first message of a stream. -/
def messageLines (stream : List UInt8) : List (List Char) :=
  match readline stream with
  | none => []
  | some (_, rest) => streamLines (maxHeaderCount + 1) rest

variable {py : StrMethods}

/-- What a header loop that ends has read first: the blank line, or a header. -/
theorem parseHeaders_cases {left : ℕ} {headers : Dict String String} {size : ℕ}
    {stream : List UInt8} {r : Dict String String × ℕ × List UInt8}
    (h : parseHeaders py left headers size stream = .ok r) :
    ∃ raw rest, readline stream = some (raw, rest) ∧
      ((decodeLine raw = [] ∧ r = (headers, size + raw.length, rest)) ∨
        decodeLine raw ≠ [] ∧ ∃ left' name value, left = left' + 1 ∧
          PyStr.splitFirst [':'] (decodeLine raw) = some (name, value) ∧
          parseHeaders py left' (headers.set (normalizeHeaderName py (String.ofList name))
            (String.ofList (PyStr.stripChars value))) (size + raw.length) rest = .ok r) := by
  rw [parseHeaders.eq_def] at h
  cases hread : readline stream with
  | none => rw [hread] at h; simp at h
  | some line =>
    obtain ⟨raw, rest⟩ := line
    rw [hread] at h
    dsimp only at h
    refine ⟨raw, rest, rfl, ?_⟩
    split_ifs at h with hraw hsize hblank
    · exact .inl ⟨hblank, (Except.ok.inj h).symm⟩
    · cases hsplit : PyStr.splitFirst [':'] (decodeLine raw) with
      | none => rw [hsplit] at h; simp at h
      | some parts =>
        obtain ⟨name, value⟩ := parts
        rw [hsplit] at h
        cases left with
        | zero => simp at h
        | succ left => exact .inr ⟨hblank, left, name, value, rfl, rfl, h⟩

theorem parseHeaders_fields {left : ℕ} {headers : Dict String String} {size : ℕ}
    {stream : List UInt8} {r : Dict String String × ℕ × List UInt8}
    (h : parseHeaders py left headers size stream = .ok r) :
    r.1 = (headerFields (streamLines (left + 1) stream)).foldl
      (fun acc e => acc.set (normalizeHeaderName py e.1) e.2) headers := by
  induction left using Nat.strong_induction_on generalizing headers size stream with
  | _ left ih =>
    obtain ⟨raw, rest, hread, ⟨hblank, rfl⟩ | ⟨hblank, left', name, value, rfl, hsplit, h⟩⟩ :=
      parseHeaders_cases h
    · rw [streamLines, hread]
      simp only [hblank, if_true]
      rfl
    · have hfield : headerField (decodeLine raw) =
          some (String.ofList name, String.ofList (PyStr.stripChars value)) := by
        rw [headerField, hsplit]
        rfl
      rw [streamLines, hread]
      simp only [hblank, if_false]
      rw [headerFields, List.filterMap_cons, hfield]
      exact ih left' (Nat.lt_succ_self left') h

theorem parseMessage_ok {stream rest : List UInt8} {msg : SipMessage}
    (h : parseMessage py stream = .ok (msg, rest)) :
    ∃ raw tail headers size more body, readline stream = some (raw, tail) ∧
      parseHeaders py maxHeaderCount .empty raw.length tail = .ok (headers, size, more) ∧
      parseBody py headers size more = .ok (body, rest) ∧ msg = ⟨String.ofList (decodeLine raw),
        headers, body⟩ := by
  unfold parseMessage at h
  cases hread : readline stream with
  | none => rw [hread] at h; simp at h
  | some line =>
    obtain ⟨raw, tail⟩ := line
    rw [hread] at h
    dsimp only at h
    split_ifs at h with hraw hblank
    cases hheaders : parseHeaders py maxHeaderCount .empty raw.length tail with
    | error e => rw [hheaders] at h; simp [Except.bind] at h
    | ok r =>
      obtain ⟨headers, size, more⟩ := r
      rw [hheaders] at h
      simp only [Except.bind] at h
      cases hbody : parseBody py headers size more with
      | error e => rw [hbody] at h; simp [Except.map] at h
      | ok b =>
        rw [hbody] at h
        obtain ⟨hmsg, hrest⟩ := Prod.mk.inj (Except.ok.inj h)
        exact ⟨raw, tail, headers, size, more, b.1, rfl, hheaders, by rw [hbody, ← hrest],
          hmsg.symm⟩

/-- **The header of a message that is read** is the last of its own values. -/
theorem header_of_parseMessage {stream rest : List UInt8} {msg : SipMessage}
    (h : parseMessage py stream = .ok (msg, rest)) (name : String) :
    msg.header name = (ownValues py (messageLines stream) name).getLastD "" := by
  obtain ⟨raw, tail, headers, size, more, body, hread, hheaders, -, rfl⟩ := parseMessage_ok h
  have hfields : headers = _ := parseHeaders_fields hheaders
  rw [messageLines, hread, SipMessage.header]
  dsimp only
  rw [hfields, getD_foldl_normalized]
  rfl

/-! ## The lines of a datagram -/

/-- The separator of lines. -/
def crlf : List Char := ['\r', '\n']

/-- The text up to the blank line. -/
def headerBlock (cs : List Char) : List Char :=
  ((PyStr.splitFirst (crlf ++ crlf) cs).getD (cs, [])).1

/-- The header lines `parse_sip_request` reads. -/
def textLines (message : String) : List (List Char) :=
  (PyStr.splitN crlf (headerBlock message.toList).length (headerBlock message.toList)).tail

theorem readHeaderLine_eq (headers : Dict String String) (line : List Char) :
    readHeaderLine headers (String.ofList line) =
      ((headerField line).map (fun e => headers.set (PyStr.strip e.1) e.2)).getD headers := by
  rw [readHeaderLine, headerField, String.toList_ofList]
  cases PyStr.splitFirst [':'] line with
  | none => rfl
  | some parts =>
    show _ = headers.set (PyStr.strip (String.ofList parts.1)) _
    rw [PyStr.strip, String.toList_ofList]

theorem splitAll_crlf (block : List Char) : PyStr.splitAll "\r\n" (String.ofList block) =
    (PyStr.splitN crlf block.length block).map String.ofList := by
  rw [PyStr.splitAll, String.length_ofList, String.toList_ofList, String.toList_ofList, crlf]

/-- The headers `parse_sip_request` reads are those of the lines, each under its trimmed name. -/
theorem parseSipRequest_fields (message : String) :
    (parseSipRequest message).headers = (headerFields (textLines message)).foldl
      (fun acc e => acc.set (PyStr.strip e.1) e.2) Dict.empty := by
  have hfold : ∀ (lines : List (List Char)) (headers : Dict String String),
      (lines.map String.ofList).foldl readHeaderLine headers =
        (headerFields lines).foldl (fun acc e => acc.set (PyStr.strip e.1) e.2) headers := by
    intro lines
    induction lines with
    | nil => intro headers; rfl
    | cons line lines ih =>
      intro headers
      rw [List.map_cons, List.foldl_cons, readHeaderLine_eq, ih]
      cases hfield : headerField line with
      | none =>
        rw [headerFields, headerFields, List.filterMap_cons, hfield]
        rfl
      | some e =>
        rw [headerFields, headerFields, List.filterMap_cons, hfield]
        rfl
  have hblank : crlf ++ crlf = ['\r', '\n', '\r', '\n'] := rfl
  rw [textLines, headerBlock, hblank, parseSipRequest]
  generalize (PyStr.splitFirst ['\r', '\n', '\r', '\n'] message.toList).getD (message.toList, []) =
    parts
  dsimp only
  rw [splitAll_crlf]
  cases PyStr.splitN crlf parts.1.length parts.1 with
  | nil => rfl
  | cons first lines => exact hfold lines Dict.empty

/-! ## Headers by spelling -/

/-- The values of the headers that are spelled in one way. -/
def spelledValues (lines : List (List Char)) (spelling : String) : List String :=
  ((headerFields lines).filter (fun e => PyStr.strip e.1 = spelling)).map Prod.snd

/-- The spellings `_coerce_dialog_headers` knows: normalized name and canonical spelling. -/
def dialogSpellings : List (String × String) :=
  [("via", "Via"), ("from", "From"), ("to", "To"), ("call-id", "Call-ID"), ("cseq", "CSeq")]

theorem getD_parseSipRequest (message spelling : String) :
    (parseSipRequest message).headers.getD spelling "" =
      (spelledValues (textLines message) spelling).getLastD "" := by
  rw [parseSipRequest_fields, Dict.getD,
    Dict.get?_foldl_set_last (fun e : String × String => PyStr.strip e.1) Prod.snd, Dict.get?_empty,
    Option.or_none, ← List.getLast?_map]
  exact (List.getLastD_eq_getLast?).symm

/-- The value the UDP server takes: of the canonical spelling, or of the lower-case one. -/
def pickedValue (lines : List (List Char)) (canonical lower : String) : String :=
  if (spelledValues lines canonical).getLastD "" = "" then (spelledValues lines lower).getLastD ""
  else (spelledValues lines canonical).getLastD ""

theorem headerOr_parseSipRequest (message canonical lower : String) :
    headerOr (parseSipRequest message).headers canonical lower =
      pickedValue (textLines message) canonical lower := by
  rw [headerOr, getD_parseSipRequest, getD_parseSipRequest, pickedValue]

theorem normalizeHeaderName_spelled
    (hpy : ∀ s, PyStr.strip (py.lower s) = py.lower (PyStr.strip s)) {names : String × String}
    (hnames : names ∈ dialogSpellings) {spelled : String}
    (h : PyStr.strip spelled = names.2 ∨ PyStr.strip spelled = names.1) :
    normalizeHeaderName py spelled = names.1 := by
  have hall : ∀ names ∈ dialogSpellings, ∀ s ∈ [names.1, names.2], PyStr.IsAscii s ∧
      String.ofList (s.toList.map Char.toLower) = names.1 ∧ compactForms.lookup names.1 = none := by
    decide
  have hmem : PyStr.strip spelled ∈ [names.1, names.2] := by
    rcases h with h | h
    · rw [h]
      exact List.mem_cons_of_mem _ List.mem_cons_self
    · rw [h]
      exact List.mem_cons_self
  obtain ⟨hascii, hlower, hcompact⟩ := hall names hnames _ hmem
  rw [normalizeHeaderName]
  simp only [hpy, py.lower_ascii _ hascii, hlower, hcompact, Option.getD_none]

theorem sublist_pickedValue_iff
    (hpy : ∀ s, PyStr.strip (py.lower s) = py.lower (PyStr.strip s)) {names : String × String}
    (hnames : names ∈ dialogSpellings) (lines : List (List Char)) :
    (ownValues py lines names.1).Sublist [pickedValue lines names.2 names.1] ↔
      (ownValues py lines names.1).length ≤ 1 ∧
        ∀ e ∈ headerFields lines, normalizeHeaderName py e.1 = names.1 →
          PyStr.strip e.1 = names.2 ∨ PyStr.strip e.1 = names.1 ∨ e.2 = "" := by
  have hspelled : ∀ spelling, (spelling = names.2 ∨ spelling = names.1) →
      spelledValues lines spelling = (((headerFields lines).filter (fun e =>
        normalizeHeaderName py e.1 = names.1)).filter (fun e => PyStr.strip e.1 = spelling)).map
          Prod.snd := by
    intro spelling hspelling
    rw [spelledValues, List.filter_filter]
    refine congrArg _ (List.filter_congr (fun e _ => ?_))
    by_cases he : PyStr.strip e.1 = spelling
    · have hnormal : normalizeHeaderName py e.1 = names.1 :=
        normalizeHeaderName_spelled hpy hnames (by rw [he]; exact hspelling)
      simp [he, hnormal]
    · simp [he]
  have hrange : (∀ e ∈ headerFields lines, normalizeHeaderName py e.1 = names.1 →
      PyStr.strip e.1 = names.2 ∨ PyStr.strip e.1 = names.1 ∨ e.2 = "") ↔
      ∀ e ∈ (headerFields lines).filter (fun e => normalizeHeaderName py e.1 = names.1),
        PyStr.strip e.1 = names.2 ∨ PyStr.strip e.1 = names.1 ∨ e.2 = "" := by
    simp only [List.mem_filter, decide_eq_true_eq, and_imp]
  rw [hrange, pickedValue, hspelled names.2 (.inl rfl), hspelled names.1 (.inr rfl), ownValues]
  generalize (headerFields lines).filter (fun e => normalizeHeaderName py e.1 = names.1) = own
  cases own with
  | nil => simp
  | cons e own =>
    obtain ⟨spelled, value⟩ := e
    cases own with
    | nil =>
      have hlast : ∀ spelling, (([(spelled, value)].filter (fun e : String × String =>
          PyStr.strip e.1 = spelling)).map Prod.snd).getLastD "" =
            if PyStr.strip spelled = spelling then value else "" := by
        intro spelling
        by_cases hspelling : PyStr.strip spelled = spelling
        · simp [hspelling]
        · simp [hspelling]
      have hsingle : ∀ w, [value].Sublist [w] ↔ value = w := by
        intro w
        simp
      rw [hlast, hlast, List.map_singleton, hsingle, List.forall_mem_singleton]
      refine Iff.trans ?_ (and_iff_right (le_refl 1)).symm
      by_cases hcanonical : PyStr.strip spelled = names.2
      · rw [if_pos hcanonical]
        refine iff_of_true ?_ (.inl hcanonical)
        split_ifs with hempty hlower
        · rfl
        · exact hempty
        · rfl
      · rw [if_neg hcanonical, if_pos rfl]
        by_cases hlower : PyStr.strip spelled = names.1
        · rw [if_pos hlower]
          exact iff_of_true rfl (.inr (.inl hlower))
        · rw [if_neg hlower]
          exact ⟨fun hempty => .inr (.inr hempty),
            fun h => (h.resolve_left hcanonical).resolve_left hlower⟩
    | cons e' own =>
      refine iff_of_false (fun hsub => ?_) (fun hone => ?_)
      · have hlength := hsub.length_le
        simp at hlength
      · have hlength := hone.1
        simp at hlength

/-! ## Messages made of lines -/

/-- The separator does not occur in a line. -/
def NoCrlf (line : List Char) : Prop := ¬ crlf <:+: line

theorem NoCrlf.tail {c : Char} {line : List Char} (h : NoCrlf (c :: line)) : NoCrlf line :=
  fun hcontains => h (hcontains.trans (List.suffix_cons c line).isInfix)

theorem noCrlf_of_oneLine {line : List Char} (h : OneLine line) : NoCrlf line :=
  fun hcontains => h.1 (hcontains.subset (by simp [crlf]))

/-- The separator does not begin inside a line. -/
theorem not_crlf_start {c : Char} {line : List Char} (h : NoCrlf (c :: line)) (r : List Char) :
    ¬ crlf <+: c :: (line ++ crlf ++ r) := by
  intro hpre
  obtain ⟨t, ht⟩ := hpre
  obtain ⟨hc, htail⟩ := List.cons_eq_cons.1 ht
  cases line with
  | nil =>
    obtain ⟨hcr, -⟩ := List.cons_eq_cons.1 htail
    exact absurd hcr (by decide)
  | cons d line =>
    obtain ⟨hd, -⟩ := List.cons_eq_cons.1 htail
    refine h ⟨[], line, ?_⟩
    rw [← hc, ← hd]
    rfl

theorem splitFirst_crlf {line : List Char} (hline : NoCrlf line) (r : List Char) :
    PyStr.splitFirst crlf (line ++ crlf ++ r) = some (line, r) := by
  induction line with
  | nil =>
    show (if crlf <+: crlf ++ r then some ([], (crlf ++ r).drop crlf.length) else _) = _
    rw [if_pos (List.prefix_append crlf r), List.drop_left]
  | cons c line ih =>
    rw [List.cons_append, List.cons_append, PyStr.splitFirst, if_neg (not_crlf_start hline r),
      ih hline.tail]
    rfl

/-- A text without the separator is one line. -/
theorem splitFirst_none {line : List Char} (hline : NoCrlf line) :
    PyStr.splitFirst crlf line = none := by
  induction line with
  | nil => rfl
  | cons c line ih =>
    rw [PyStr.splitFirst, if_neg (fun h => hline h.isInfix), ih hline.tail]
    rfl

theorem noCrlf_of_splitFirst_none {cs : List Char} (h : PyStr.splitFirst crlf cs = none) :
    NoCrlf cs := by
  induction cs with
  | nil => exact fun hcontains => absurd hcontains.length_le (by decide)
  | cons c cs ih =>
    rw [PyStr.splitFirst] at h
    split_ifs at h with hpre
    intro hcontains
    rcases List.infix_cons_iff.1 hcontains with hstart | hcontains
    · exact hpre hstart
    · exact ih (Option.map_eq_none_iff.1 h) hcontains

variable (first : List Char)

/-- **Splitting joined lines** gives the lines back. -/
theorem splitN_intercalate (lines : List (List Char))
    (hlines : ∀ line ∈ first :: lines, NoCrlf line) (n : ℕ) (hn : lines.length ≤ n) :
    PyStr.splitN crlf n (crlf.intercalate (first :: lines)) = first :: lines := by
  induction lines generalizing first n with
  | nil =>
    rw [List.intercalate_singleton]
    cases n with
    | zero => rfl
    | succ n => rw [PyStr.splitN, splitFirst_none (hlines first List.mem_cons_self)]
  | cons line lines ih =>
    obtain ⟨n, rfl⟩ : ∃ m, n = m + 1 := ⟨n - 1, by rw [List.length_cons] at hn; omega⟩
    rw [List.intercalate_cons_cons, PyStr.splitN, splitFirst_crlf (hlines first List.mem_cons_self)]
    dsimp only
    rw [ih line (fun l hl => hlines l (List.mem_cons_of_mem first hl)) n
      (Nat.le_of_succ_le_succ hn)]

theorem not_crlf_start_append {line : List Char} (hline : NoCrlf line) (hne : line ≠ [])
    (r : List Char) : ¬ crlf <+: line ++ crlf ++ r := by
  cases line with
  | nil => exact absurd rfl hne
  | cons c line => exact not_crlf_start hline r

/-- **The header block** ends at the first blank line. -/
theorem splitFirst_blank (lines : List (List Char))
    (hlines : ∀ line ∈ first :: lines, NoCrlf line) (hne : ∀ line ∈ lines, line ≠ [])
    (r : List Char) : PyStr.splitFirst (crlf ++ crlf)
    (crlf.intercalate (first :: lines) ++ crlf ++ (crlf ++ r)) =
      some (crlf.intercalate (first :: lines), r) := by
  -- inside a line, the separator does not even begin
  have hstep : ∀ (line : List Char) (hline : NoCrlf line) (rest : List Char),
      ¬ crlf <+: rest →
      PyStr.splitFirst (crlf ++ crlf) (line ++ crlf ++ rest) =
        (PyStr.splitFirst (crlf ++ crlf) rest).map (fun parts =>
          (line ++ crlf ++ parts.1, parts.2)) := by
    intro line
    induction line with
    | nil =>
      intro _ rest hrest
      have hhere : ¬ crlf ++ crlf <+: crlf ++ rest := by
        rw [List.prefix_append_right_inj]
        exact hrest
      show (if crlf ++ crlf <+: crlf ++ rest then _ else
        (PyStr.splitFirst (crlf ++ crlf) ('\n' :: rest)).map _) = _
      rw [if_neg hhere, PyStr.splitFirst, if_neg (fun h => by
        obtain ⟨t, ht⟩ := h
        exact absurd (List.cons_eq_cons.1 ht).1 (by decide)), Option.map_map]
      rfl
    | cons c line ih =>
      intro hline rest hrest
      rw [List.cons_append, List.cons_append, PyStr.splitFirst,
        if_neg (fun h => not_crlf_start hline rest ((List.prefix_append crlf crlf).trans h)),
        ih hline.tail rest hrest, Option.map_map]
      rfl
  have hhere : ∀ (line : List Char) (hline : NoCrlf line) (rest : List Char),
      PyStr.splitFirst (crlf ++ crlf) (line ++ crlf ++ (crlf ++ rest)) = some (line, rest) := by
    intro line
    induction line with
    | nil =>
      intro _ rest
      show (if crlf ++ crlf <+: crlf ++ (crlf ++ rest) then
        some ([], (crlf ++ (crlf ++ rest)).drop (crlf ++ crlf).length) else _) = _
      rw [if_pos (by rw [← List.append_assoc]; exact List.prefix_append _ _), ← List.append_assoc,
        List.drop_left]
    | cons c line ih =>
      intro hline rest
      rw [List.cons_append, List.cons_append, PyStr.splitFirst,
        if_neg (fun h => not_crlf_start hline _ ((List.prefix_append crlf crlf).trans h)),
        ih hline.tail rest]
      rfl
  induction lines generalizing first with
  | nil =>
    rw [List.intercalate_singleton]
    exact hhere first (hlines first List.mem_cons_self) r
  | cons line lines ih =>
    have hfirst := hlines first List.mem_cons_self
    have hline := hlines line (List.mem_cons_of_mem first List.mem_cons_self)
    have hrest : ¬ crlf <+: crlf.intercalate (line :: lines) ++ crlf ++ (crlf ++ r) := by
      cases lines with
      | nil =>
        rw [List.intercalate_singleton]
        exact not_crlf_start_append hline (hne line List.mem_cons_self) _
      | cons next lines =>
        rw [List.intercalate_cons_cons, List.append_assoc (line ++ crlf),
          List.append_assoc (line ++ crlf)]
        exact not_crlf_start_append hline (hne line List.mem_cons_self) _
    rw [List.intercalate_cons_cons, List.append_assoc (first ++ crlf),
      List.append_assoc (first ++ crlf), hstep first hfirst _ hrest,
      ih line (fun l hl => hlines l (List.mem_cons_of_mem first hl))
        (fun l hl => hne l (List.mem_cons_of_mem line hl))]
    rfl

theorem length_le_intercalate (lines : List (List Char)) :
    lines.length ≤ (crlf.intercalate (first :: lines)).length := by
  induction lines generalizing first with
  | nil => exact Nat.zero_le _
  | cons line lines ih =>
    have hrest := ih line
    have hcrlf : crlf.length = 2 := rfl
    rw [List.intercalate_cons_cons, List.length_append, List.length_append, List.length_cons]
    omega

/-- A message: its lines, a blank line, and the body. -/
def linesMessage (lines : List (List Char)) (body : List Char) : String :=
  String.ofList (crlf.intercalate (first :: lines) ++ crlf ++ (crlf ++ body))

section LinesMessage

variable {first : List Char} {lines : List (List Char)}
  (hlines : ∀ line ∈ first :: lines, NoCrlf line) (hne : ∀ line ∈ lines, line ≠ [])
include hlines hne

/-- **The header lines** of a message made of lines are these lines. -/
theorem textLines_linesMessage (body : List Char) :
    textLines (linesMessage first lines body) = lines := by
  rw [textLines, headerBlock, linesMessage, String.toList_ofList,
    splitFirst_blank first lines hlines hne body, Option.getD_some,
    splitN_intercalate first lines hlines _ (length_le_intercalate first lines)]
  rfl

theorem parseSipRequest_linesMessage (body : List Char) :
    (parseSipRequest (linesMessage first lines body)).method =
        String.ofList (first.takeWhile (· ≠ ' ')) ∧
      (parseSipRequest (linesMessage first lines body)).body = String.ofList body := by
  have hblank : crlf ++ crlf = ['\r', '\n', '\r', '\n'] := rfl
  have hsplit : PyStr.splitAll "\r\n" (String.ofList (crlf.intercalate (first :: lines))) =
      String.ofList first :: lines.map String.ofList := by
    rw [splitAll_crlf, splitN_intercalate first lines hlines _ (length_le_intercalate first lines),
      List.map_cons]
  rw [parseSipRequest, ← hblank, linesMessage, String.toList_ofList,
    splitFirst_blank first lines hlines hne body, Option.getD_some]
  dsimp only
  rw [hsplit]
  dsimp only
  rw [String.toList_ofList]
  exact ⟨rfl, rfl⟩

end LinesMessage

/-! ## Lines without the separator -/

theorem noCrlf_append_left {p line : List Char} (hp : '\r' ∉ p) (hline : NoCrlf line) :
    NoCrlf (p ++ line) := by
  induction p with
  | nil => exact hline
  | cons c p ih =>
    rw [List.mem_cons, not_or] at hp
    intro hcontains
    rcases List.infix_cons_iff.1 hcontains with hpre | hcontains
    · exact hp.1 (List.cons_prefix_cons.1 hpre).1
    · exact ih hp.2 hcontains

theorem noCrlf_append_right {line t : List Char} (hline : NoCrlf line) (ht : '\n' ∉ t) :
    NoCrlf (line ++ t) := by
  induction line with
  | nil => exact fun hcontains => ht (hcontains.subset (by simp [crlf]))
  | cons c line ih =>
    intro hcontains
    rcases List.infix_cons_iff.1 hcontains with hpre | hcontains
    · obtain ⟨hc, hpre⟩ := List.cons_prefix_cons.1 hpre
      cases line with
      | nil => exact ht (hpre.subset List.mem_cons_self)
      | cons d line =>
        refine hline (List.IsPrefix.isInfix ?_)
        rw [← hc, ← (List.cons_prefix_cons.1 hpre).1]
        exact ⟨line, rfl⟩
    · exact ih hline.tail hcontains

theorem noCrlf_of_splitFirst {cs part rest : List Char}
    (h : PyStr.splitFirst crlf cs = some (part, rest)) : NoCrlf part ∧ rest.length < cs.length := by
  induction cs generalizing part with
  | nil => cases h
  | cons c cs ih =>
    rw [PyStr.splitFirst] at h
    split_ifs at h with hpre
    · obtain ⟨rfl, rfl⟩ := Prod.mk.inj (Option.some_inj.1 h)
      have hcrlf : crlf.length = 2 := rfl
      refine ⟨fun hcontains => absurd hcontains.length_le (by decide), ?_⟩
      rw [List.length_drop, List.length_cons]
      omega
    · obtain ⟨⟨part', rest'⟩, hsplit, heq⟩ := Option.map_eq_some_iff.1 h
      obtain ⟨rfl, rfl⟩ := Prod.mk.inj heq
      obtain ⟨hpart, hlength⟩ := ih hsplit
      refine ⟨fun hcontains => ?_, Nat.lt_succ_of_lt hlength⟩
      rcases List.infix_cons_iff.1 hcontains with hstart | hcontains
      · -- the separator would have been found here
        obtain ⟨hc, hstart⟩ := List.cons_prefix_cons.1 hstart
        cases part' with
        | nil => cases List.prefix_nil.1 hstart
        | cons d part' =>
          refine hpre ?_
          have hcs := PyStr.splitFirst_eq_some hsplit
          rw [← hc, hcs, ← (List.cons_prefix_cons.1 hstart).1]
          exact ⟨part' ++ crlf ++ rest', rfl⟩
      · exact hpart hcontains

theorem noCrlf_of_mem_splitN {n : ℕ} {cs part : List Char} (hn : cs.length ≤ n)
    (h : part ∈ PyStr.splitN crlf n cs) : NoCrlf part := by
  induction n generalizing cs with
  | zero =>
    rw [PyStr.splitN, List.mem_singleton] at h
    rw [h, List.eq_nil_of_length_eq_zero (Nat.le_zero.1 hn)]
    exact fun hcontains => absurd hcontains.length_le (by decide)
  | succ n ih =>
    rw [PyStr.splitN] at h
    cases hsplit : PyStr.splitFirst crlf cs with
    | none =>
      rw [hsplit, List.mem_singleton] at h
      rw [h]
      exact noCrlf_of_splitFirst_none hsplit
    | some parts =>
      obtain ⟨first, rest⟩ := parts
      obtain ⟨hfirst, hlength⟩ := noCrlf_of_splitFirst hsplit
      rw [hsplit] at h
      rcases List.mem_cons.1 h with rfl | h
      · exact hfirst
      · exact ih (by omega) h

/-- The header lines of a datagram do not contain the separator. -/
theorem noCrlf_of_mem_textLines {message : String} {line : List Char}
    (h : line ∈ textLines message) : NoCrlf line :=
  noCrlf_of_mem_splitN le_rfl (List.mem_of_mem_tail h)

theorem exists_of_mem_headerFields {lines : List (List Char)} {spelled value : String}
    (h : (spelled, value) ∈ headerFields lines) :
    ∃ line ∈ lines, ∃ before after, PyStr.splitFirst [':'] line = some (before, after) ∧
      value = PyStr.strip (String.ofList after) := by
  obtain ⟨line, hmem, hline⟩ := List.mem_filterMap.1 h
  obtain ⟨⟨before, after⟩, hparts, heq⟩ := Option.map_eq_some_iff.1 hline
  refine ⟨line, hmem, before, after, hparts, ?_⟩
  rw [PyStr.strip, String.toList_ofList]
  exact (Prod.mk.inj heq).2.symm

/-- Values are read without the blanks around them. -/
theorem strip_of_mem_headerFields {lines : List (List Char)} {spelled value : String}
    (h : (spelled, value) ∈ headerFields lines) : PyStr.strip value = value := by
  obtain ⟨line, -, before, after, -, hvalue⟩ := exists_of_mem_headerFields h
  rw [hvalue, PyStr.strip_strip]

/-- A value that is read: trimmed, and a part of one line. -/
structure ReadValue (value : String) : Prop where
  stripped : PyStr.strip value = value
  noCrlf : NoCrlf value.toList

theorem readValue_empty : ReadValue "" :=
  ⟨rfl, fun hcontains => absurd hcontains.length_le (by decide)⟩

theorem readValue_of_mem_headerFields {lines : List (List Char)}
    (hlines : ∀ line ∈ lines, NoCrlf line) {spelled value : String}
    (h : (spelled, value) ∈ headerFields lines) : ReadValue value := by
  obtain ⟨line, hmem, before, after, hparts, hvalue⟩ := exists_of_mem_headerFields h
  have hcontains : value.toList <:+: line := by
    rw [hvalue, PyStr.strip, String.toList_ofList, String.toList_ofList,
      PyStr.splitFirst_eq_some hparts]
    exact (PyStr.stripChars_infix after).trans (List.suffix_append _ after).isInfix
  exact ⟨strip_of_mem_headerFields h, fun hcrlf => hlines line hmem (hcrlf.trans hcontains)⟩

end Ekaette
