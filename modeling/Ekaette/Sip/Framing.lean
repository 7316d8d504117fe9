import Ekaette.Lib.PyNumber
import Ekaette.Lib.Utf8
import Ekaette.Sip.Message
import Mathlib.Tactic.NormNum

set_option autoImplicit false

/-! # SIP over a stream

`parse_message` and `serialize_message` of `sip_bridge/sip_tls.py`. A stream is the list of the
bytes that arrive until its end. -/

namespace Ekaette

/-! ## Header names -/

/-- `s.capitalize()` on ASCII. -/
def capitalizeChars : List Char → List Char
  | [] => []
  | c :: cs => c.toUpper :: cs.map Char.toLower

/-- The string library of the serializer. -/
structure SipStrings extends StrMethods where
  /-- `s.capitalize()` -/
  capitalize : String → String
  capitalize_ascii : ∀ s, PyStr.IsAscii s → capitalize s = String.ofList (capitalizeChars s.toList)

/-- The string library on ASCII strings. -/
def SipStrings.ascii : SipStrings where
  toStrMethods := .ascii
  capitalize s := String.ofList (capitalizeChars s.toList)
  capitalize_ascii _ _ := rfl

/-- `_COMPACT_FORMS`. -/
def compactForms : List (String × String) :=
  [("i", "call-id"), ("f", "from"), ("t", "to"), ("v", "via"), ("m", "contact"),
    ("l", "content-length"), ("c", "content-type"), ("e", "content-encoding"), ("k", "supported"),
    ("s", "subject")]

variable (py : StrMethods)

/-- `normalize_header_name`. -/
def normalizeHeaderName (name : String) : String :=
  let lower := PyStr.strip (py.lower name)
  (compactForms.lookup lower).getD lower

/-- The title-cased name on the wire. -/
def wireName (py : SipStrings) (name : String) : String :=
  "-".intercalate ((PyStr.split '-' name).map py.capitalize)

/-! ## Reading -/

/-- What `SipTransportError` reports. -/
inductive SipTransportError where
  | headersTooLarge
  | malformedHeader (line : String)
  | tooManyHeaders
  | invalidContentLength (value : String)
  | negativeContentLength (value : ℤ)
  | messageTooLarge (size : ℕ)

/-- How reading ends without a message. -/
inductive ParseStop where
  /-- `None` -/
  | noMessage
  | transport (e : SipTransportError)
  /-- the `ValueError` of a line longer than the buffer of the reader -/
  | lineTooLong

/-- `_MAX_MESSAGE_SIZE`. -/
def maxMessageSize : ℕ := 65536

/-- `_MAX_HEADER_COUNT`. -/
def maxHeaderCount : ℕ := 100

/-- The limit of a `StreamReader`. -/
def streamLimit : ℕ := 65536

/-- `reader.readline()`: a line with its newline, or what is left of the stream. -/
def readline (stream : List UInt8) : Option (List UInt8 × List UInt8) :=
  let line := stream.takeWhile (· ≠ 10)
  if line.length > streamLimit then none
  else match stream.dropWhile (· ≠ 10) with
    | [] => some (line, [])
    | newline :: rest => some (line ++ [newline], rest)

/-- A decoded line without its line end. -/
def decodeLine (raw : List UInt8) : List Char :=
  (Utf8.decode raw).rdropWhile (fun c => c = '\r' || c = '\n')

/-- The header loop. `left` more headers are allowed. -/
def parseHeaders (py : StrMethods) (left : ℕ) (headers : Dict String String) (totalSize : ℕ)
    (stream : List UInt8) : Except ParseStop (Dict String String × ℕ × List UInt8) :=
  match readline stream with
  | none => .error .lineTooLong
  | some (raw, rest) =>
    if raw = [] then .error .noMessage
    else if totalSize + raw.length > maxMessageSize then .error (.transport .headersTooLarge)
    else
      let line := decodeLine raw
      if line = [] then .ok (headers, totalSize + raw.length, rest)
      else match PyStr.splitFirst [':'] line with
        | none => .error (.transport (.malformedHeader (String.ofList line)))
        | some (name, value) =>
          match left with
          | 0 => .error (.transport .tooManyHeaders)
          | left + 1 =>
            parseHeaders py left
              (headers.set (normalizeHeaderName py (String.ofList name))
                (String.ofList (PyStr.stripChars value)))
              (totalSize + raw.length) rest

/-- The body, of as many bytes as the headers say. -/
def parseBody (headers : Dict String String) (totalSize : ℕ)
    (stream : List UInt8) : Except ParseStop (String × List UInt8) :=
  let contentLength := headers.getD "content-length" "0"
  match PyInt.parse py contentLength with
  | none => .error (.transport (.invalidContentLength contentLength))
  | some n =>
    if n < 0 then .error (.transport (.negativeContentLength n))
    else if totalSize + n.toNat > maxMessageSize then
      .error (.transport (.messageTooLarge (totalSize + n.toNat)))
    else if stream.length < n.toNat then .error .noMessage
    else .ok (String.ofList (Utf8.decode (stream.take n.toNat)), stream.drop n.toNat)

/-- `parse_message`, with what is left of the stream. -/
def parseMessage (stream : List UInt8) :
    Except ParseStop (SipMessage × List UInt8) :=
  match readline stream with
  | none => .error .lineTooLong
  | some (raw, rest) =>
    if raw = [] then .error .noMessage
    else if decodeLine raw = [] then .error .noMessage
    else
      (parseHeaders py maxHeaderCount .empty raw.length rest).bind
          (fun (headers, totalSize, rest) =>
        (parseBody py headers totalSize rest).map (fun (body, rest) =>
          (⟨String.ofList (decodeLine raw), headers, body⟩, rest)))

/-! ## Writing -/

/-- The number of bytes of a text. -/
def byteLength (s : String) : ℕ := (Utf8.encode s.toList).length

/-- The headers `serialize_message` writes. -/
def framedHeaders (msg : SipMessage) : Dict String String :=
  (Dict.ofList (msg.headers.entries.map (fun e => (normalizeHeaderName py e.1, e.2)))).set
    "content-length" (toString (byteLength msg.body))

/-- `f"{wire_name}: {value}"`. -/
def headerLine (py : SipStrings) (e : String × String) : String := wireName py e.1 ++ ": " ++ e.2

/-- `serialize_message`. -/
def serializeMessage (py : SipStrings) (msg : SipMessage) : List UInt8 :=
  let lines := msg.firstLine :: (framedHeaders py.toStrMethods msg).entries.map (headerLine py)
  Utf8.encode ("\r\n".intercalate lines ++ "\r\n\r\n").toList ++ Utf8.encode msg.body.toList

/-! ## Names survive the wire -/

theorem toLower_toUpper {c : Char} (hc : c.toNat < 128) : c.toUpper.toLower = c.toLower :=
  PyStr.forall_ascii (P := fun c => c.toUpper.toLower = c.toLower) (by decide) hc

theorem toLower_toLower {c : Char} (hc : c.toNat < 128) : c.toLower.toLower = c.toLower :=
  PyStr.forall_ascii (P := fun c => c.toLower.toLower = c.toLower) (by decide) hc

theorem toLower_ascii {c : Char} (hc : c.toNat < 128) : c.toLower.toNat < 128 :=
  PyStr.forall_ascii (P := fun c => c.toLower.toNat < 128) (by decide) hc

theorem map_toLower_capitalizeChars {cs : List Char} (hcs : ∀ c ∈ cs, c.toNat < 128) :
    (capitalizeChars cs).map Char.toLower = cs.map Char.toLower := by
  cases cs with
  | nil => rfl
  | cons c cs =>
    rw [capitalizeChars, List.map_cons, List.map_map, List.map_cons,
      toLower_toUpper (hcs c List.mem_cons_self)]
    congr 1
    exact List.map_congr_left (fun d hd => toLower_toLower (hcs d (List.mem_cons_of_mem c hd)))

theorem toList_intercalate (sep : String) (parts : List String) :
    (sep.intercalate parts).toList = sep.toList.intercalate (parts.map String.toList) := by
  induction parts with
  | nil => rfl
  | cons a parts ih =>
    cases parts with
    | nil => simp
    | cons b parts =>
      rw [String.intercalate_cons_cons, String.toList_append, String.toList_append, ih]
      simp only [List.map_cons, List.intercalate_cons_cons]

theorem map_intercalate {α β : Type} (f : α → β) (sep : List α) (parts : List (List α)) :
    (sep.intercalate parts).map f = (sep.map f).intercalate (parts.map (List.map f)) := by
  induction parts with
  | nil => rfl
  | cons a parts ih =>
    cases parts with
    | nil => simp
    | cons b parts =>
      rw [List.intercalate_cons_cons, List.map_append, List.map_append, ih]
      simp only [List.map_cons, List.intercalate_cons_cons]

theorem mem_intercalate_of_mem {α : Type} {x : α} {part sep : List α} {parts : List (List α)}
    (hpart : part ∈ parts) (hx : x ∈ part) : x ∈ sep.intercalate parts := by
  induction parts with
  | nil => simp at hpart
  | cons a parts ih =>
    cases parts with
    | nil =>
      rw [List.mem_singleton] at hpart
      rw [List.intercalate_singleton, ← hpart]
      exact hx
    | cons b parts =>
      rw [List.intercalate_cons_cons, List.mem_append, List.mem_append]
      rcases List.mem_cons.1 hpart with rfl | hpart
      · exact .inl (.inl hx)
      · exact .inr (ih hpart)

/-- **The wire name** of an ASCII name differs from it in the case of letters only. -/
theorem wireName_map_toLower (py : SipStrings) {name : String} (hname : PyStr.IsAscii name) :
    (wireName py name).toList.map Char.toLower = name.toList.map Char.toLower := by
  have hparts : ∀ part ∈ name.toList.splitOn '-', ∀ c ∈ part, c.toNat < 128 := by
    intro part hpart c hc
    refine hname c ?_
    have hjoin : ['-'].intercalate (name.toList.splitOn '-') = name.toList :=
      List.intercalate_splitOn '-'
    rw [← hjoin]
    exact mem_intercalate_of_mem hpart hc
  have hcapital : ((PyStr.split '-' name).map py.capitalize).map String.toList =
      (name.toList.splitOn '-').map capitalizeChars := by
    rw [PyStr.split, List.map_map, List.map_map]
    refine List.map_congr_left (fun part hpart => ?_)
    show (py.capitalize (String.ofList part)).toList = capitalizeChars part
    rw [py.capitalize_ascii _
      (by rw [PyStr.IsAscii, String.toList_ofList]; exact hparts part hpart),
      String.toList_ofList, String.toList_ofList]
  rw [wireName, toList_intercalate, hcapital, map_intercalate, List.map_map]
  have hlower : (name.toList.splitOn '-').map (List.map Char.toLower ∘ capitalizeChars) =
      (name.toList.splitOn '-').map (List.map Char.toLower) :=
    List.map_congr_left (fun part hpart => map_toLower_capitalizeChars (hparts part hpart))
  rw [hlower, ← map_intercalate]
  show (['-'].intercalate (name.toList.splitOn '-')).map Char.toLower = _
  rw [List.intercalate_splitOn]

theorem wireName_ascii (py : SipStrings) {name : String} (hname : PyStr.IsAscii name) :
    PyStr.IsAscii (wireName py name) := by
  intro c hc
  by_contra hbig
  have hlower : c.toLower = c := toLower_eq_self hbig
  have hmem : c ∈ name.toList.map Char.toLower := by
    rw [← wireName_map_toLower py hname, ← hlower]
    exact List.mem_map_of_mem hc
  obtain ⟨d, hd, rfl⟩ := List.mem_map.1 hmem
  exact hbig (toLower_ascii (hname d hd))

theorem not_mem_wireName (py : SipStrings) {name : String} (hname : PyStr.IsAscii name) {c : Char}
    (hself : ∀ d : Char, d.toNat < 128 → d.toLower = c → d = c) (hlower : c.toLower = c)
    (h : c ∉ name.toList) : c ∉ (wireName py name).toList := by
  intro hmem
  have hmap : c ∈ name.toList.map Char.toLower := by
    rw [← wireName_map_toLower py hname, ← hlower]
    exact List.mem_map_of_mem hmem
  obtain ⟨d, hd, hdc⟩ := List.mem_map.1 hmap
  rw [hself d (hname d hd) hdc] at hd
  exact h hd

/-- A normalized name: nothing is left to fold, to strip or to expand. -/
structure IsNormal (name : String) : Prop where
  ascii : PyStr.IsAscii name
  lower : name.toList.map Char.toLower = name.toList
  stripped : PyStr.strip name = name
  noCompact : compactForms.lookup name = none

theorem normalizeHeaderName_eq_of_lower {a b : String} (ha : PyStr.IsAscii a)
    (hb : PyStr.IsAscii b) (h : a.toList.map Char.toLower = b.toList.map Char.toLower) :
    normalizeHeaderName py a = normalizeHeaderName py b := by
  rw [normalizeHeaderName, normalizeHeaderName, py.lower_ascii a ha, py.lower_ascii b hb, h]

theorem normalizeHeaderName_of_isNormal {name : String} (h : IsNormal name) :
    normalizeHeaderName py name = name := by
  rw [normalizeHeaderName, py.lower_ascii name h.ascii, h.lower, String.ofList_toList]
  simp only [h.stripped, h.noCompact, Option.getD_none]

/-- **What the wire name of a normalized name is read back as.** -/
theorem normalizeHeaderName_wireName (py : SipStrings) {name : String} (h : IsNormal name) :
    normalizeHeaderName py.toStrMethods (wireName py name) = name := by
  rw [normalizeHeaderName_eq_of_lower py.toStrMethods (wireName_ascii py h.ascii) h.ascii
    (wireName_map_toLower py h.ascii), normalizeHeaderName_of_isNormal py.toStrMethods h]

theorem compactForms_isNormal : ∀ e ∈ compactForms, IsNormal e.2 := by
  intro e he
  have hall : ∀ e ∈ compactForms, PyStr.IsAscii e.2 ∧ e.2.toList.map Char.toLower = e.2.toList ∧
      PyStr.strip e.2 = e.2 ∧ compactForms.lookup e.2 = none := by
    decide
  exact ⟨(hall e he).1, (hall e he).2.1, (hall e he).2.2.1, (hall e he).2.2.2⟩

theorem mem_of_lookup {α β : Type} [DecidableEq α] {l : List (α × β)} {a : α} {b : β}
    (h : l.lookup a = some b) : (a, b) ∈ l := by
  induction l with
  | nil => simp at h
  | cons e l ih =>
    obtain ⟨k, v⟩ := e
    rw [List.lookup_cons] at h
    cases hk : a == k with
    | true =>
      rw [hk] at h
      rw [beq_iff_eq.1 hk, Option.some_inj.1 h]
      exact List.mem_cons_self
    | false =>
      rw [hk] at h
      exact List.mem_cons_of_mem _ (ih h)

/-- **Normalizing** an ASCII name gives a normalized name. -/
theorem isNormal_normalizeHeaderName {name : String}
    (hname : PyStr.IsAscii name) : IsNormal (normalizeHeaderName py name) := by
  rw [normalizeHeaderName, py.lower_ascii name hname]
  generalize hlow : PyStr.strip (String.ofList (name.toList.map Char.toLower)) = low
  show IsNormal ((compactForms.lookup low).getD low)
  have hmem : ∀ c ∈ low.toList, ∃ d ∈ name.toList, d.toLower = c := by
    intro c hc
    rw [← hlow, PyStr.strip, String.toList_ofList, String.toList_ofList] at hc
    exact List.mem_map.1 (PyStr.mem_of_mem_stripChars hc)
  cases hcompact : compactForms.lookup low with
  | some full => exact compactForms_isNormal (low, full) (mem_of_lookup hcompact)
  | none =>
    rw [Option.getD_none]
    refine ⟨fun c hc => ?_, ?_, ?_, hcompact⟩
    · obtain ⟨d, hd, rfl⟩ := hmem c hc
      exact toLower_ascii (hname d hd)
    · conv_rhs => rw [← List.map_id low.toList]
      refine List.map_congr_left (fun c hc => ?_)
      obtain ⟨d, hd, rfl⟩ := hmem c hc
      exact toLower_toLower (hname d hd)
    · rw [← hlow, PyStr.strip_strip]

/-! ## Reading one line -/

/-- A line with its line end, on the wire. -/
def wireLine (line : List Char) : List UInt8 := Utf8.encode (line ++ ['\r', '\n'])

/-- No line end in a text. -/
def OneLine (cs : List Char) : Prop := '\r' ∉ cs ∧ '\n' ∉ cs

instance (cs : List Char) : Decidable (OneLine cs) := inferInstanceAs (Decidable (_ ∧ _))

theorem wireLine_eq (line : List Char) : wireLine line = (Utf8.encode line ++ [13]) ++ [10] := by
  rw [wireLine, Utf8.encode_append, List.append_assoc]
  rfl

/-- A line is read up to its end, if it fits into the buffer of the reader. -/
theorem readline_wireLine_eq {line : List Char} (hline : '\n' ∉ line) (rest : List UInt8) :
    readline (wireLine line ++ rest) =
      if (wireLine line).length ≤ streamLimit + 1 then some (wireLine line, rest) else none := by
  have hno : (10 : UInt8) ∉ Utf8.encode line ++ [13] := by
    intro h
    rcases List.mem_append.1 h with h | h
    · exact Utf8.not_mem_encode (b := 10) (c := '\n') (by decide) (by decide) hline h
    · exact absurd (List.mem_singleton.1 h) (by decide)
  have hkeep : ∀ b ∈ Utf8.encode line ++ [13], decide (b ≠ (10 : UInt8)) = true := by
    intro b hb
    exact decide_eq_true (fun h => hno (h ▸ hb))
  have htake : (wireLine line ++ rest).takeWhile (· ≠ (10 : UInt8)) = Utf8.encode line ++ [13] := by
    rw [wireLine_eq, List.append_assoc, List.takeWhile_append_of_pos hkeep]
    simp
  have hdrop : (wireLine line ++ rest).dropWhile (· ≠ (10 : UInt8)) = 10 :: rest := by
    rw [wireLine_eq, List.append_assoc, List.dropWhile_append_of_pos hkeep]
    simp
  have hsum : (wireLine line).length = (Utf8.encode line ++ [13]).length + 1 := by
    rw [wireLine_eq, List.length_append, List.length_singleton]
  rw [readline, htake, hdrop]
  by_cases hlimit : (wireLine line).length ≤ streamLimit + 1
  · rw [if_pos hlimit, if_neg (by omega)]
    simp only [wireLine_eq]
  · rw [if_neg hlimit, if_pos (by omega)]

theorem readline_wireLine {line : List Char} (hline : '\n' ∉ line)
    (hlength : (wireLine line).length ≤ maxMessageSize) (rest : List UInt8) :
    readline (wireLine line ++ rest) = some (wireLine line, rest) := by
  have hsame : maxMessageSize = streamLimit := rfl
  rw [readline_wireLine_eq hline, if_pos (by omega)]

theorem decodeLine_wireLine {line : List Char} (hline : OneLine line) :
    decodeLine (wireLine line) = line := by
  have hend : ∀ hl : line ≠ [], ¬ (line.getLast hl = '\r' || line.getLast hl = '\n') = true := by
    intro hl h
    rw [Bool.or_eq_true, decide_eq_true_iff, decide_eq_true_iff] at h
    rcases h with h | h
    · exact hline.1 (h ▸ List.getLast_mem hl)
    · exact hline.2 (h ▸ List.getLast_mem hl)
  rw [decodeLine, wireLine, Utf8.decode_encode]
  show (line ++ (['\r'] ++ ['\n'])).rdropWhile _ = line
  rw [← List.append_assoc, List.rdropWhile_concat_pos _ _ _ (by decide),
    List.rdropWhile_concat_pos _ _ _ (by decide), List.rdropWhile_eq_self_iff]
  exact hend

theorem wireLine_ne_nil (line : List Char) : wireLine line ≠ [] := by
  rw [wireLine_eq]
  simp

/-! ## Reading the headers -/

/-- The header line of a name and a value, as characters. -/
def headerChars (e : String × String) : List Char := e.1.toList ++ ':' :: ' ' :: e.2.toList

/-- The lines of headers that are already title-cased, on the wire. -/
def wireHeaderLines (es : List (String × String)) : List UInt8 :=
  es.flatMap (fun e => wireLine (headerChars e))

/-- A header that is read back as it was written. -/
structure WireHeader (e : String × String) : Prop where
  name : ':' ∉ e.1.toList
  nameLine : OneLine e.1.toList
  valueLine : OneLine e.2.toList
  stripped : PyStr.strip e.2 = e.2

theorem headerChars_oneLine {e : String × String} (he : WireHeader e) :
    OneLine (headerChars e) := by
  have hno : ∀ c : Char, c ≠ ':' → c ≠ ' ' → c ∉ e.1.toList → c ∉ e.2.toList → c ∉ headerChars e :=
    by
    intro c hcolon hspace hname hvalue h
    rw [headerChars, List.mem_append, List.mem_cons, List.mem_cons] at h
    rcases h with h | h | h | h
    · exact hname h
    · exact hcolon h
    · exact hspace h
    · exact hvalue h
  exact ⟨hno '\r' (by decide) (by decide) he.nameLine.1 he.valueLine.1,
    hno '\n' (by decide) (by decide) he.nameLine.2 he.valueLine.2⟩

theorem headerChars_ne_nil (e : String × String) : headerChars e ≠ [] := by
  rw [headerChars]
  simp

/-- **One header line**: it is entered under its normalized name. -/
theorem parseHeaders_cons {e : String × String} (he : WireHeader e) (left : ℕ)
    (headers : Dict String String) (size : ℕ) (rest : List UInt8)
    (hsize : size + (wireLine (headerChars e)).length ≤ maxMessageSize) :
    parseHeaders py (left + 1) headers size (wireLine (headerChars e) ++ rest) =
      parseHeaders py left (headers.set (normalizeHeaderName py e.1) e.2)
        (size + (wireLine (headerChars e)).length) rest := by
  have hline := headerChars_oneLine he
  have hsplit : PyStr.splitFirst [':'] (headerChars e) = some (e.1.toList, ' ' :: e.2.toList) :=
    PyStr.splitFirst_append he.name _
  have hvalue : String.ofList (PyStr.stripChars (' ' :: e.2.toList)) = e.2 := by
    rw [PyStr.stripChars_cons_space]
    exact he.stripped
  conv_lhs => rw [parseHeaders]
  rw [readline_wireLine hline.2 (by omega)]
  simp only [if_neg (wireLine_ne_nil _), if_neg (Nat.not_lt.2 hsize), decodeLine_wireLine hline,
    if_neg (headerChars_ne_nil e), hsplit, hvalue, String.ofList_toList]

/-- **The blank line** ends the headers. -/
theorem parseHeaders_blank (left : ℕ) (headers : Dict String String) (size : ℕ)
    (rest : List UInt8) (hsize : size + (wireLine []).length ≤ maxMessageSize) :
    parseHeaders py left headers size (wireLine [] ++ rest) =
      .ok (headers, size + (wireLine []).length, rest) := by
  have hblank : OneLine [] := ⟨List.not_mem_nil, List.not_mem_nil⟩
  rw [parseHeaders, readline_wireLine hblank.2 (by omega)]
  simp only [if_neg (wireLine_ne_nil _), if_neg (Nat.not_lt.2 hsize), decodeLine_wireLine hblank,
    if_true]

/-- **The headers**, by induction on their lines. -/
theorem parseHeaders_wireHeaderLines (es : List (String × String))
    (hes : ∀ e ∈ es, WireHeader e) (left : ℕ) (headers : Dict String String) (size : ℕ)
    (rest : List UInt8) (hcount : es.length ≤ left)
    (hsize : size + (wireHeaderLines es ++ wireLine []).length ≤ maxMessageSize) :
    parseHeaders py left headers size (wireHeaderLines es ++ wireLine [] ++ rest) =
      .ok (es.foldl (fun acc e => acc.set (normalizeHeaderName py e.1) e.2) headers,
        size + (wireHeaderLines es ++ wireLine []).length, rest) := by
  induction es generalizing left headers size with
  | nil => exact parseHeaders_blank py left headers size rest hsize
  | cons e es ih =>
    obtain ⟨left, rfl⟩ : ∃ n, left = n + 1 := ⟨left - 1, by rw [List.length_cons] at hcount; omega⟩
    have hcons : wireHeaderLines (e :: es) = wireLine (headerChars e) ++ wireHeaderLines es := rfl
    rw [hcons, List.append_assoc, List.length_append] at hsize
    rw [hcons, List.append_assoc, List.append_assoc,
      parseHeaders_cons py (hes e List.mem_cons_self) left headers size _ (by omega),
      ← List.append_assoc,
      ih (fun e' he' => hes e' (List.mem_cons_of_mem e he')) left _ _
        (Nat.le_of_succ_le_succ hcount) (by omega), List.foldl_cons]
    have htotal : size + (wireLine (headerChars e)).length +
      (wireHeaderLines es ++ wireLine []).length =
        size + (wireLine (headerChars e) ++ wireHeaderLines es ++ wireLine []).length := by
      simp only [List.length_append]
      omega
    rw [htotal]

/-! ## One message -/

/-- **What can be sent over a stream**: a first line, header names and values without line ends,
    names that stay distinct when they are normalized, and the limits of the reader. -/
structure Sendable (py : SipStrings) (msg : SipMessage) : Prop where
  firstLine : msg.firstLine ≠ ""
  firstLine_line : OneLine msg.firstLine.toList
  names : ∀ e ∈ msg.headers.entries, PyStr.IsAscii e.1 ∧ ':' ∉ e.1.toList ∧ OneLine e.1.toList
  distinct : (msg.headers.entries.map (fun e => normalizeHeaderName py.toStrMethods e.1)).Nodup
  values : ∀ e ∈ msg.headers.entries, PyStr.strip e.2 = e.2 ∧ OneLine e.2.toList
  count : (framedHeaders py.toStrMethods msg).size ≤ maxHeaderCount
  size : (serializeMessage py msg).length ≤ maxMessageSize

/-- A message as it arrives: names are normalized, `content-length` is the byte length of the
    body. -/
def received (msg : SipMessage) : SipMessage :=
  { msg with headers := framedHeaders py msg }

theorem serializeMessage_eq (py : SipStrings) (msg : SipMessage) :
    serializeMessage py msg = wireLine msg.firstLine.toList ++
      (wireHeaderLines ((framedHeaders py.toStrMethods msg).entries.map (fun e =>
        (wireName py e.1, e.2))) ++ wireLine [] ++ Utf8.encode msg.body.toList) := by
  have hlines : ∀ (first : List Char) (es : List (String × String)),
      ['\r', '\n'].intercalate (first :: es.map (fun e => (headerLine py e).toList)) ++
          ['\r', '\n', '\r', '\n'] =
        (first ++ ['\r', '\n']) ++ ((es.map (fun e => (wireName py e.1, e.2))).flatMap (fun e =>
          headerChars e ++ ['\r', '\n']) ++ ['\r', '\n']) := by
    intro first es
    induction es generalizing first with
    | nil => simp
    | cons e es ih =>
      have he : (headerLine py e).toList = headerChars (wireName py e.1, e.2) := by
        rw [headerLine, String.toList_append, String.toList_append, headerChars, List.append_assoc]
        rfl
      rw [List.map_cons, List.intercalate_cons_cons, List.append_assoc, ih, he]
      simp
  have hencode : ∀ es : List (String × String),
      Utf8.encode (es.flatMap (fun e => headerChars e ++ ['\r', '\n'])) = wireHeaderLines es := by
    intro es
    induction es with
    | nil => rfl
    | cons e es ih => rw [List.flatMap_cons, Utf8.encode_append, ih]; rfl
  rw [serializeMessage, String.toList_append, toList_intercalate, List.map_cons, List.map_map]
  show Utf8.encode (['\r', '\n'].intercalate (msg.firstLine.toList ::
      (framedHeaders py.toStrMethods msg).entries.map (fun e => (headerLine py e).toList)) ++
      ['\r', '\n', '\r', '\n']) ++ _ = _
  rw [hlines]
  simp only [Utf8.encode_append, hencode, wireLine, List.append_assoc, List.nil_append]

theorem Sendable.distinct_keys {py : SipStrings} {msg : SipMessage} (hmsg : Sendable py msg) :
    ((msg.headers.entries.map (fun e => (normalizeHeaderName py.toStrMethods e.1, e.2))).map
      Prod.fst).Nodup := by
  simpa only [List.map_map, Function.comp_def] using hmsg.distinct

theorem mem_framedHeaders {py : SipStrings} {msg : SipMessage} (hmsg : Sendable py msg)
    {name value : String} (he : (name, value) ∈ (framedHeaders py.toStrMethods msg).entries) :
    (name = "content-length" ∧ value = toString (byteLength msg.body)) ∨
      ∃ sent, (sent, value) ∈ msg.headers.entries ∧
      name = normalizeHeaderName py.toStrMethods sent := by
  rw [← Dict.get?_eq_some_iff, framedHeaders, Dict.get?_set] at he
  split at he
  · next hkey =>
      rw [Option.some_inj] at he
      exact .inl ⟨hkey, he.symm⟩
  · rw [Dict.get?_eq_some_iff, Dict.entries_ofList _ hmsg.distinct_keys,
      List.mem_map] at he
    obtain ⟨⟨sent, value'⟩, hsent, heq⟩ := he
    obtain ⟨hname, hvalue⟩ : normalizeHeaderName py.toStrMethods sent = name ∧ value' = value :=
      Prod.mk.inj heq
    rw [hvalue] at hsent
    exact .inr ⟨sent, hsent, hname.symm⟩

theorem not_mem_normalizeHeaderName {name : String} (hname : PyStr.IsAscii name)
    {c : Char} (hself : ∀ d : Char, d.toNat < 128 → d.toLower = c → d = c)
    (htable : ∀ e ∈ compactForms, c ∉ e.2.toList) (h : c ∉ name.toList) :
    c ∉ (normalizeHeaderName py name).toList := by
  rw [normalizeHeaderName, py.lower_ascii name hname]
  generalize hlow : PyStr.strip (String.ofList (name.toList.map Char.toLower)) = low
  show c ∉ ((compactForms.lookup low).getD low).toList
  cases hcompact : compactForms.lookup low with
  | some full => exact htable (low, full) (mem_of_lookup hcompact)
  | none =>
    rw [Option.getD_none, ← hlow, PyStr.strip, String.toList_ofList, String.toList_ofList]
    intro hmem
    obtain ⟨d, hd, hdc⟩ := List.mem_map.1 (PyStr.mem_of_mem_stripChars hmem)
    rw [hself d (hname d hd) hdc] at hd
    exact h hd

theorem wireName_normalizeHeaderName (py : SipStrings) {name : String} (hname : PyStr.IsAscii name)
    (hcolon : ':' ∉ name.toList) (hline : OneLine name.toList) :
    ':' ∉ (wireName py (normalizeHeaderName py.toStrMethods name)).toList ∧
      OneLine (wireName py (normalizeHeaderName py.toStrMethods name)).toList := by
  have hnormal := isNormal_normalizeHeaderName py.toStrMethods hname
  have hkeep : ∀ c : Char, (∀ d : Char, d.toNat < 128 → d.toLower = c → d = c) → c.toLower = c →
      (∀ e ∈ compactForms, c ∉ e.2.toList) → c ∉ name.toList →
      c ∉ (wireName py (normalizeHeaderName py.toStrMethods name)).toList := by
    intro c hself hlower htable h
    exact not_mem_wireName py hnormal.ascii hself hlower
      (not_mem_normalizeHeaderName py.toStrMethods hname hself htable h)
  exact ⟨hkeep ':' (fun d => PyStr.forall_ascii (P := fun d => d.toLower = ':' → d = ':')
      (by decide)) (by decide) (by decide) hcolon,
    hkeep '\r' (fun d => PyStr.forall_ascii (P := fun d => d.toLower = '\r' → d = '\r') (by decide))
      (by decide) (by decide) hline.1,
    hkeep '\n' (fun d => PyStr.forall_ascii (P := fun d => d.toLower = '\n' → d = '\n') (by decide))
      (by decide) (by decide) hline.2⟩

theorem digits_wire (n : ℕ) :
    PyStr.strip (toString n) = toString n ∧ OneLine (toString n).toList := by
  have hdigits : ∀ c ∈ Nat.toDigits 10 n, c.isDigit = true :=
    fun c hc => Nat.isDigit_of_mem_toDigits (by decide) (by decide) hc
  rw [Nat.toString_eq_ofList_toDigits, PyStr.strip, String.toList_ofList,
    PyInt.stripChars_digits hdigits]
  exact ⟨rfl, fun h => absurd (hdigits _ h) (by decide), fun h => absurd (hdigits _ h) (by decide)⟩

/-- **Every header that is written is read back** under its name and with its value. -/
theorem wireHeader_of_mem {py : SipStrings} {msg : SipMessage} (hmsg : Sendable py msg)
    {name value : String} (he : (name, value) ∈ (framedHeaders py.toStrMethods msg).entries) :
    WireHeader (wireName py name, value) ∧
      normalizeHeaderName py.toStrMethods (wireName py name) = name := by
  have hwire : IsNormal name ∧ ':' ∉ (wireName py name).toList ∧ OneLine (wireName py name).toList ∧
      PyStr.strip value = value ∧ OneLine value.toList := by
    rcases mem_framedHeaders hmsg he with ⟨hname, hvalue⟩ | ⟨sent, hsent, hname⟩
    · -- the name of the body length is its own normal form
      have hnormal : IsNormal "content-length" :=
        compactForms_isNormal ("l", "content-length") (by simp [compactForms])
      have hascii : PyStr.IsAscii "content-length" := by decide
      have hlength := wireName_normalizeHeaderName py hascii (by decide) ⟨by decide, by decide⟩
      rw [normalizeHeaderName_of_isNormal py.toStrMethods hnormal, ← hname] at hlength
      rw [← hname] at hnormal
      rw [hvalue]
      obtain ⟨hstripped, hvalueLine⟩ := digits_wire (byteLength msg.body)
      exact ⟨hnormal, hlength.1, hlength.2, hstripped, hvalueLine⟩
    · obtain ⟨hascii, hcolon, hline⟩ := hmsg.names (sent, value) hsent
      obtain ⟨hstripped, hvalueLine⟩ := hmsg.values (sent, value) hsent
      have hsame := wireName_normalizeHeaderName py hascii hcolon hline
      rw [← hname] at hsame
      have hnormal := isNormal_normalizeHeaderName py.toStrMethods hascii
      rw [← hname] at hnormal
      exact ⟨hnormal, hsame.1, hsame.2, hstripped, hvalueLine⟩
  obtain ⟨hnormal, hcolon, hline, hstripped, hvalueLine⟩ := hwire
  exact ⟨⟨hcolon, hline, hvalueLine, hstripped⟩, normalizeHeaderName_wireName py hnormal⟩

theorem digits_length_le {n : ℕ} (hn : n ≤ maxMessageSize) : (Nat.toDigits 10 n).length ≤ 4300 := by
  have hmax : maxMessageSize < 10 ^ 5 := by rw [maxMessageSize]; norm_num
  have hfive := (Nat.length_toDigits_le_iff (by decide) (by decide)).2 (lt_of_le_of_lt hn hmax)
  omega

/-- **The body** is read back when the headers give its length. -/
theorem parseBody_of_contentLength {headers : Dict String String} {body : String}
    (hlength : headers.get? "content-length" = some (toString (byteLength body))) {size : ℕ}
    (hsize : size + byteLength body ≤ maxMessageSize) (rest : List UInt8) :
    parseBody py headers size (Utf8.encode body.toList ++ rest) = .ok (body, rest) := by
  have hvalue : headers.getD "content-length" "0" = toString (byteLength body) := by
    rw [Dict.getD, hlength, Option.getD_some]
  have hparse : PyInt.parse py (toString (byteLength body)) = some (byteLength body : ℤ) :=
    PyInt.parse_toString py (digits_length_le (by omega))
  have hbytes : (Utf8.encode body.toList).length = byteLength body := rfl
  rw [parseBody]
  simp only [hvalue, hparse, Int.toNat_natCast]
  rw [if_neg (by omega), if_neg (Nat.not_lt.2 hsize), if_neg (by rw [List.length_append]; omega),
    ← hbytes, List.take_left, List.drop_left, Utf8.decode_encode, String.ofList_toList]

/-- **One message** is read back from its bytes, whatever follows them. -/
theorem parseMessage_serializeMessage {py : SipStrings} {msg : SipMessage} (hmsg : Sendable py msg)
    (rest : List UInt8) :
    parseMessage py.toStrMethods (serializeMessage py msg ++ rest) =
      .ok (received py.toStrMethods msg, rest) := by
  have hfirst : msg.firstLine.toList ≠ [] := by
    rw [Ne, String.toList_eq_nil_iff]
    exact hmsg.firstLine
  have hsize := hmsg.size
  rw [serializeMessage_eq, List.length_append, List.length_append] at hsize
  have hheaders : ((framedHeaders py.toStrMethods msg).entries.map (fun e =>
        (wireName py e.1, e.2))).foldl
      (fun acc e => acc.set (normalizeHeaderName py.toStrMethods e.1) e.2) Dict.empty =
        framedHeaders py.toStrMethods msg := by
    rw [List.foldl_map]
    refine Eq.trans ?_ (Dict.ofList_entries _)
    exact List.foldl_ext _ _ _ (fun acc e he => by rw [(wireHeader_of_mem hmsg he).2])
  rw [serializeMessage_eq, List.append_assoc, List.append_assoc, parseMessage,
    readline_wireLine hmsg.firstLine_line.2 (by omega)]
  simp only [if_neg (wireLine_ne_nil _), decodeLine_wireLine hmsg.firstLine_line, if_neg hfirst]
  rw [parseHeaders_wireHeaderLines py.toStrMethods _ ?_ _ _ _ _ ?_ (by omega), hheaders]
  · have hlength : (framedHeaders py.toStrMethods msg).get? "content-length" =
        some (toString (byteLength msg.body)) := Dict.get?_set_self _ _ _
    simp only [Except.bind]
    rw [parseBody_of_contentLength py.toStrMethods hlength (by rw [byteLength]; omega) rest]
    simp only [Except.map, String.ofList_toList, received]
  · intro e he
    obtain ⟨e', he', rfl⟩ := List.mem_map.1 he
    exact (wireHeader_of_mem hmsg he').1
  · rw [List.length_map]
    exact hmsg.count

/-! ## A stream of messages -/

/-- Reading a stream message by message yields these messages, and then `None`. -/
def ReadsAll (py : StrMethods) : List UInt8 → List SipMessage → Prop
  | stream, [] => parseMessage py stream = .error .noMessage
  | stream, msg :: msgs => ∃ rest, parseMessage py stream = .ok (msg, rest) ∧ ReadsAll py rest msgs

theorem parseMessage_nil : parseMessage py [] = .error .noMessage := rfl

theorem readsAll_serialize (py : SipStrings) (msgs : List SipMessage)
    (hmsgs : ∀ msg ∈ msgs, Sendable py msg) :
    ReadsAll py.toStrMethods (msgs.flatMap (serializeMessage py))
    (msgs.map (received py.toStrMethods)) := by
  induction msgs with
  | nil => exact parseMessage_nil py.toStrMethods
  | cons msg msgs ih =>
    rw [List.flatMap_cons]
    exact ⟨_, parseMessage_serializeMessage (hmsgs msg List.mem_cons_self) _,
      ih (fun m hm => hmsgs m (List.mem_cons_of_mem msg hm))⟩

/-- The headers of a message that arrives: the length of its body, and under every other normalized
    name the value that was sent. -/
theorem get?_received (py : SipStrings) {msg : SipMessage} (hmsg : Sendable py msg)
    (name : String) : (received py.toStrMethods msg).headers.get? name =
      if name = "content-length" then some (toString (byteLength msg.body))
      else (msg.headers.entries.map (fun e =>
        (normalizeHeaderName py.toStrMethods e.1, e.2))).lookup name := by
  show (framedHeaders py.toStrMethods msg).get? name = _
  rw [framedHeaders, Dict.get?_set]
  refine if_congr Iff.rfl rfl ?_
  rw [Dict.get?, Dict.entries_ofList _ hmsg.distinct_keys]

/-- **Stream framing round trip.** The messages of a stream are read back in order and then the
    stream has ended; what arrives is the first line, the headers under their normalized names with
    the byte length of the body as `content-length`, and the body. -/
theorem stream_roundTrip (py : SipStrings) (msgs : List SipMessage)
    (hmsgs : ∀ msg ∈ msgs, Sendable py msg) :
    ∃ arrived, ReadsAll py.toStrMethods (msgs.flatMap (serializeMessage py)) arrived ∧
      List.Forall₂ (fun msg got => got.firstLine = msg.firstLine ∧ got.body = msg.body ∧
        ∀ name, got.headers.get? name =
          if name = "content-length" then some (toString (byteLength msg.body))
          else (msg.headers.entries.map (fun e =>
            (normalizeHeaderName py.toStrMethods e.1, e.2))).lookup name) msgs arrived := by
  refine ⟨_, readsAll_serialize py msgs hmsgs, ?_⟩
  rw [List.forall₂_map_right_iff, List.forall₂_same]
  exact fun msg hmsg => ⟨rfl, rfl, get?_received py (hmsgs msg hmsg)⟩

/-- A request with a compact header name and a body that is not ASCII. -/
def shortRequest : SipMessage :=
  ⟨"A", ⟨[("V", "x")], by decide⟩, "é"⟩

theorem shortRequest_sendable : Sendable .ascii shortRequest where
  firstLine := by decide
  firstLine_line := ⟨by decide, by decide⟩
  names := by
    intro e he
    rw [List.mem_singleton.1 he]
    exact ⟨by decide, by decide, by decide, by decide⟩
  distinct := List.nodup_singleton _
  values := by
    intro e he
    rw [List.mem_singleton.1 he]
    exact ⟨by decide, by decide, by decide⟩
  count := by decide +kernel
  size := by decide +kernel

/-- Two such requests on one stream. -/
theorem shortRequest_roundTrip :
    ∃ arrived, ReadsAll .ascii ([shortRequest, shortRequest].flatMap (serializeMessage .ascii))
      arrived ∧ List.Forall₂ (fun msg got => got.firstLine = msg.firstLine ∧ got.body = msg.body ∧
        ∀ name, got.headers.get? name =
          if name = "content-length" then some (toString (byteLength msg.body))
          else (msg.headers.entries.map (fun e =>
            (normalizeHeaderName .ascii e.1, e.2))).lookup name)
                [shortRequest, shortRequest] arrived :=
  stream_roundTrip .ascii [shortRequest, shortRequest] (fun msg hmsg => by
    rw [List.mem_cons, List.mem_singleton, or_self] at hmsg
    rw [hmsg]
    exact shortRequest_sendable)

end Ekaette
