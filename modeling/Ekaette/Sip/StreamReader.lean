import Ekaette.Sip.Framing

set_option autoImplicit false

/-! # Reading messages from a stream that arrives in segments

`parse_message` on an `asyncio.StreamReader`. What the reader returns does not depend on the
segments, so the parser reads the bytes of the stream (`parseMessage`); what it leaves behind does,
after a line that was too long. A call that returns `None` has read the stream to its end, unless
the first line was blank; and only a line that does not fit into the buffer raises anything else
than `SipTransportError`. -/

namespace Ekaette

/-! ## The reader -/

/-- A `StreamReader`: its buffer, and the segments that are still to arrive before the end of the
    stream. -/
structure StreamReader where
  buffer : List UInt8
  arriving : List (List UInt8)

namespace StreamReader

/-- The unread bytes. -/
def unread (r : StreamReader) : List UInt8 := r.buffer ++ r.arriving.flatten

/-- `readline()` with this buffer; `none` where it raises `ValueError`, after dropping the line it
    found, or the whole buffer. At the end of the stream the line is what is left. -/
def readlineFrom (buffer : List UInt8) : List (List UInt8) → Option (List UInt8) × StreamReader
  | [] =>
    if 10 ∈ buffer then takeLine buffer []
    else if buffer.length > streamLimit then (none, ⟨[], []⟩)
    else (some buffer, ⟨[], []⟩)
  | segment :: arriving =>
    if 10 ∈ buffer then takeLine buffer (segment :: arriving)
    else if buffer.length > streamLimit then (none, ⟨[], segment :: arriving⟩)
    else readlineFrom (buffer ++ segment) arriving
where
  /-- The separator is found. -/
  takeLine (buffer : List UInt8) (arriving : List (List UInt8)) :
      Option (List UInt8) × StreamReader :=
    let line := buffer.takeWhile (· ≠ 10)
    (if line.length > streamLimit then none else some (line ++ [10]),
      ⟨buffer.drop (line.length + 1), arriving⟩)

def readline (r : StreamReader) : Option (List UInt8) × StreamReader :=
  readlineFrom r.buffer r.arriving

/-- `readexactly(n)` with this buffer; `none` where it raises `IncompleteReadError`. -/
def readexactlyFrom (n : ℕ) (buffer : List UInt8) :
    List (List UInt8) → Option (List UInt8) × StreamReader
  | [] =>
    if buffer.length < n then (none, ⟨[], []⟩) else (some (buffer.take n), ⟨buffer.drop n, []⟩)
  | segment :: arriving =>
    if buffer.length < n then readexactlyFrom n (buffer ++ segment) arriving
    else (some (buffer.take n), ⟨buffer.drop n, segment :: arriving⟩)

def readexactly (n : ℕ) (r : StreamReader) : Option (List UInt8) × StreamReader :=
  readexactlyFrom n r.buffer r.arriving

end StreamReader

/-! ## The parser -/

/-- The header loop. `left` more headers are allowed. -/
def readHeaders (py : StrMethods) (left : ℕ) (headers : Dict String String) (totalSize : ℕ)
    (r : StreamReader) : Except ParseStop (Dict String String × ℕ) × StreamReader :=
  match r.readline with
  | (none, r) => (.error .lineTooLong, r)
  | (some raw, r) =>
    if raw = [] then (.error .noMessage, r)
    else if totalSize + raw.length > maxMessageSize then (.error (.transport .headersTooLarge), r)
    else
      let line := decodeLine raw
      if line = [] then (.ok (headers, totalSize + raw.length), r)
      else match PyStr.splitFirst [':'] line with
        | none => (.error (.transport (.malformedHeader (String.ofList line))), r)
        | some (name, value) =>
          match left with
          | 0 => (.error (.transport .tooManyHeaders), r)
          | left + 1 =>
            readHeaders py left
              (headers.set (normalizeHeaderName py (String.ofList name))
                (String.ofList (PyStr.stripChars value)))
              (totalSize + raw.length) r

variable (py : StrMethods)

/-- The body, of as many bytes as the headers say. -/
def readBody (headers : Dict String String) (totalSize : ℕ) (r : StreamReader) :
    Except ParseStop String × StreamReader :=
  let contentLength := headers.getD "content-length" "0"
  match PyInt.parse py contentLength with
  | none => (.error (.transport (.invalidContentLength contentLength)), r)
  | some n =>
    if n < 0 then (.error (.transport (.negativeContentLength n)), r)
    else if totalSize + n.toNat > maxMessageSize then
      (.error (.transport (.messageTooLarge (totalSize + n.toNat))), r)
    else if n = 0 then (.ok "", r)
    else match r.readexactly n.toNat with
      | (none, r) => (.error .noMessage, r)
      | (some body, r) => (.ok (String.ofList (Utf8.decode body)), r)

/-- `parse_message` -/
def readMessage (r : StreamReader) : Except ParseStop SipMessage × StreamReader :=
  match r.readline with
  | (none, r) => (.error .lineTooLong, r)
  | (some raw, r) =>
    if raw = [] then (.error .noMessage, r)
    else if decodeLine raw = [] then (.error .noMessage, r)
    else match readHeaders py maxHeaderCount .empty raw.length r with
      | (.error e, r) => (.error e, r)
      | (.ok (headers, totalSize), r) =>
        match readBody py headers totalSize r with
        | (.error e, r) => (.error e, r)
        | (.ok body, r) => (.ok ⟨String.ofList (decodeLine raw), headers, body⟩, r)

/-- What the connection loop relies on: `None` at the end of the stream only, and no other exception
    than `SipTransportError`. -/
def KeepsErrorContract (result : Except ParseStop SipMessage × StreamReader) : Prop :=
  match result.1 with
  | .ok _ => True
  | .error .noMessage => result.2.unread = []
  | .error (.transport _) => True
  | .error .lineTooLong => False

/-! ## Lines of a stream -/

variable (stream : List UInt8)

/-- The first line does not fit into the buffer. -/
def LongLine : Prop := (stream.takeWhile (· ≠ 10)).length > streamLimit

/-- A line with its newline that fits into the buffer. -/
structure FittingLine (raw : List UInt8) : Prop where
  ended : ∃ text, 10 ∉ text ∧ raw = text ++ [10]
  fits : raw.length ≤ streamLimit + 1

theorem readline_eq_none_iff : readline stream = none ↔ LongLine stream := by
  unfold readline LongLine
  dsimp only
  split_ifs with hlong
  · exact ⟨fun _ => hlong, fun _ => rfl⟩
  · refine ⟨fun h => ?_, fun h => absurd h hlong⟩
    split at h
    · cases h
    · cases h

/-- A stream with a newline is a line and what follows it. -/
theorem readline_append {text : List UInt8} (htext : 10 ∉ text) (rest : List UInt8) :
    readline (text ++ 10 :: rest) = if text.length > streamLimit then none else some (text ++ [10],
      rest) := by
  have hkeep : ∀ b ∈ text, decide (b ≠ (10 : UInt8)) = true :=
    fun b hb => decide_eq_true (fun h => htext (h ▸ hb))
  unfold readline
  rw [List.takeWhile_append_of_pos hkeep, List.dropWhile_append_of_pos hkeep]
  simp

/-- The rest of a stream without a newline is a line. -/
theorem readline_last {text : List UInt8} (htext : 10 ∉ text) :
    readline text = if text.length > streamLimit then none else some (text, []) := by
  have hkeep : ∀ b ∈ text, decide (b ≠ (10 : UInt8)) = true :=
    fun b hb => decide_eq_true (fun h => htext (h ▸ hb))
  unfold readline
  rw [List.takeWhile_eq_self_iff.2 hkeep, List.dropWhile_eq_nil_iff.2 hkeep]

theorem readline_fitting {raw : List UInt8} (hraw : FittingLine raw) (rest : List UInt8) :
    readline (raw ++ rest) = some (raw, rest) := by
  obtain ⟨text, htext, rfl⟩ := hraw.ended
  have hfits := hraw.fits
  rw [List.length_append, List.length_singleton] at hfits
  rw [List.append_assoc, List.singleton_append, readline_append htext, if_neg (by omega)]

/-- Every stream is a last line, or begins with a line and its newline. -/
theorem stream_cases :
    10 ∉ stream ∨ ∃ text rest, 10 ∉ text ∧ stream = text ++ 10 :: rest := by
  by_cases h : 10 ∈ stream
  · obtain ⟨text, rest, rfl, htext⟩ := List.eq_append_cons_of_mem h
    exact .inr ⟨text, rest, htext, rfl⟩
  · exact .inl h

/-- A line that is read, and what is left. -/
theorem readline_eq_some {stream raw rest : List UInt8} (h : readline stream = some (raw, rest)) :
    stream = raw ++ rest ∧ (FittingLine raw ∨ rest = []) := by
  rcases stream_cases stream with hlast | ⟨text, more, htext, rfl⟩
  · rw [readline_last hlast] at h
    split_ifs at h
    obtain ⟨rfl, rfl⟩ := Prod.mk.inj (Option.some.inj h)
    exact ⟨(List.append_nil _).symm, .inr rfl⟩
  · rw [readline_append htext] at h
    split_ifs at h with hlong
    obtain ⟨rfl, rfl⟩ := Prod.mk.inj (Option.some.inj h)
    refine ⟨by rw [List.append_assoc, List.singleton_append], .inl ⟨⟨text, htext, rfl⟩, ?_⟩⟩
    rw [List.length_append, List.length_singleton]
    omega

/-! ## Segments do not matter -/

/-- What is read of the unread bytes: a line and the bytes after it, or a line that is too long. -/
def ReadsLine (unread : List UInt8) (result : Option (List UInt8) × StreamReader) : Prop :=
  match result.1 with
  | some raw => readline unread = some (raw, result.2.unread)
  | none => readline unread = none

theorem readsLine_takeLine {buffer : List UInt8} (h : 10 ∈ buffer) (arriving : List (List UInt8)) :
    ReadsLine (buffer ++ arriving.flatten)
    (StreamReader.readlineFrom.takeLine buffer arriving) := by
  obtain ⟨text, more, rfl, htext⟩ := List.eq_append_cons_of_mem h
  have hkeep : ∀ b ∈ text, decide (b ≠ (10 : UInt8)) = true :=
    fun b hb => decide_eq_true (fun hten => htext (hten ▸ hb))
  have htake : (text ++ 10 :: more).takeWhile (· ≠ (10 : UInt8)) = text := by
    rw [List.takeWhile_append_of_pos hkeep]
    simp
  have hdrop : (text ++ 10 :: more).drop (text.length + 1) = more := by
    rw [List.drop_append, List.drop_eq_nil_of_le (Nat.le_succ _)]
    simp
  have hread := readline_append htext (more ++ arriving.flatten)
  unfold ReadsLine StreamReader.readlineFrom.takeLine
  rw [htake, List.append_assoc, List.cons_append]
  dsimp only
  by_cases hlong : text.length > streamLimit
  · rw [if_pos hlong] at hread ⊢
    exact hread
  · rw [if_neg hlong] at hread ⊢
    rw [hdrop]
    exact hread

theorem readline_of_long {buffer : List UInt8} (hbuffer : 10 ∉ buffer)
    (hlong : buffer.length > streamLimit) (more : List UInt8) :
    readline (buffer ++ more) = none := by
  have hkeep : ∀ b ∈ buffer, decide (b ≠ (10 : UInt8)) = true :=
    fun b hb => decide_eq_true (fun hten => hbuffer (hten ▸ hb))
  rw [readline_eq_none_iff, LongLine, List.takeWhile_append_of_pos hkeep, List.length_append]
  omega

/-- **A line** is the one that the unread bytes begin with, in whatever segments they arrive. -/
theorem readsLine_readlineFrom (buffer : List UInt8) (arriving : List (List UInt8)) :
    ReadsLine (buffer ++ arriving.flatten) (StreamReader.readlineFrom buffer arriving) := by
  induction arriving generalizing buffer with
  | nil =>
    rw [StreamReader.readlineFrom]
    split_ifs with hten hlong
    · exact readsLine_takeLine hten []
    · exact readline_of_long hten hlong _
    · have hlast := readline_last hten
      rw [if_neg hlong] at hlast
      rw [List.flatten_nil, List.append_nil]
      exact hlast
  | cons segment arriving ih =>
    rw [StreamReader.readlineFrom]
    split_ifs with hten hlong
    · exact readsLine_takeLine hten (segment :: arriving)
    · exact readline_of_long hten hlong _
    · rw [List.flatten_cons, ← List.append_assoc]
      exact ih (buffer ++ segment)

theorem readline_of_some {r r' : StreamReader} {raw : List UInt8}
    (h : r.readline = (some raw, r')) : readline r.unread = some (raw, r'.unread) := by
  have hread := readsLine_readlineFrom r.buffer r.arriving
  unfold StreamReader.readline at h
  rw [h] at hread
  exact hread

theorem readline_of_none {r r' : StreamReader} (h : r.readline = (none, r')) :
    readline r.unread = none := by
  have hread := readsLine_readlineFrom r.buffer r.arriving
  unfold StreamReader.readline at h
  rw [h] at hread
  exact hread

/-- **A body** is what the unread bytes begin with; a body that is cut off leaves nothing. -/
theorem readexactlyFrom_spec (n : ℕ) (buffer : List UInt8) (arriving : List (List UInt8)) :
    match StreamReader.readexactlyFrom n buffer arriving with
    | (some body, r) => body = (buffer ++ arriving.flatten).take n ∧
        r.unread = (buffer ++ arriving.flatten).drop n ∧ n ≤ (buffer ++ arriving.flatten).length
    | (none, r) => r.unread = [] ∧ (buffer ++ arriving.flatten).length < n := by
  have henough : ∀ (buffer : List UInt8) (arriving : List (List UInt8)), ¬ buffer.length < n →
      buffer.take n = (buffer ++ arriving.flatten).take n ∧
        buffer.drop n ++ arriving.flatten = (buffer ++ arriving.flatten).drop n ∧
        n ≤ (buffer ++ arriving.flatten).length := by
    intro buffer arriving hlength
    have hle : n ≤ buffer.length := Nat.not_lt.1 hlength
    refine ⟨(List.take_append_of_le_length hle).symm, (List.drop_append_of_le_length hle).symm, ?_⟩
    rw [List.length_append]
    omega
  induction arriving generalizing buffer with
  | nil =>
    rw [StreamReader.readexactlyFrom]
    split_ifs with hlength
    · refine ⟨rfl, ?_⟩
      rw [List.flatten_nil, List.append_nil]
      exact hlength
    · exact henough buffer [] hlength
  | cons segment arriving ih =>
    rw [StreamReader.readexactlyFrom]
    split_ifs with hlength
    · rw [List.flatten_cons, ← List.append_assoc]
      exact ih (buffer ++ segment)
    · exact henough buffer (segment :: arriving) hlength

theorem readexactly_spec (n : ℕ) (r : StreamReader) :
    match r.readexactly n with
    | (some body, r') => body = r.unread.take n ∧ r'.unread = r.unread.drop n ∧ n ≤ r.unread.length
    | (none, r') => r'.unread = [] ∧ r.unread.length < n :=
  readexactlyFrom_spec n r.buffer r.arriving

/-! ## The parser reads the bytes of the stream -/

/-- The outcome on the reader is the outcome on its bytes; without a message, the stream has
    ended. -/
def AgreesWith {α β : Type} (pack : α → List UInt8 → β) (result : Except ParseStop α × StreamReader)
    (bytes : Except ParseStop β) : Prop :=
  match result.1 with
  | .ok a => bytes = .ok (pack a result.2.unread)
  | .error e => bytes = .error e ∧ (e = .noMessage → result.2.unread = [])

theorem unread_of_emptyLine {r r' : StreamReader} (h : r.readline = (some [], r')) :
    r'.unread = [] := by
  obtain ⟨-, hfitting | hend⟩ := readline_eq_some (readline_of_some h)
  · obtain ⟨text, -, hnil⟩ := hfitting.ended
    exact absurd hnil.symm (List.append_ne_nil_of_right_ne_nil _ (List.cons_ne_nil _ _))
  · exact hend

theorem readHeaders_agrees (left : ℕ) (headers : Dict String String) (size : ℕ) (r : StreamReader) :
    AgreesWith (fun (a : Dict String String × ℕ) rest => (a.1, a.2, rest))
      (readHeaders py left headers size r) (parseHeaders py left headers size r.unread) := by
  induction left using Nat.strong_induction_on generalizing headers size r with
  | _ left ih =>
    rw [readHeaders.eq_def, parseHeaders.eq_def]
    cases hread : r.readline with
    | mk line r' =>
      cases line with
      | none =>
        rw [readline_of_none hread]
        exact ⟨rfl, by rintro ⟨⟩⟩
      | some raw =>
        rw [readline_of_some hread]
        dsimp only
        split_ifs with hempty hsize hblank
        · rw [hempty] at hread
          exact ⟨rfl, fun _ => unread_of_emptyLine hread⟩
        · exact ⟨rfl, by rintro ⟨⟩⟩
        · exact rfl
        · cases hsplit : PyStr.splitFirst [':'] (decodeLine raw) with
          | none => exact ⟨rfl, by rintro ⟨⟩⟩
          | some parts =>
            cases left with
            | zero => exact ⟨rfl, by rintro ⟨⟩⟩
            | succ left => exact ih left (Nat.lt_succ_self left) _ _ r'

theorem readBody_agrees (headers : Dict String String) (size : ℕ)
    (r : StreamReader) : AgreesWith Prod.mk (readBody py headers size r)
    (parseBody py headers size r.unread) := by
  unfold readBody parseBody
  dsimp only
  cases hparse : PyInt.parse py (headers.getD "content-length" "0") with
  | none => exact ⟨rfl, by rintro ⟨⟩⟩
  | some n =>
    dsimp only
    by_cases hnegative : n < 0
    · rw [if_pos hnegative, if_pos hnegative]
      exact ⟨rfl, by rintro ⟨⟩⟩
    rw [if_neg hnegative, if_neg hnegative]
    by_cases hsize : size + n.toNat > maxMessageSize
    · rw [if_pos hsize, if_pos hsize]
      exact ⟨rfl, by rintro ⟨⟩⟩
    rw [if_neg hsize, if_neg hsize]
    by_cases hzero : n = 0
    · rw [if_pos hzero, hzero]
      rfl
    rw [if_neg hzero]
    have hspec := readexactly_spec n.toNat r
    cases hexact : r.readexactly n.toNat with
    | mk read r' =>
      rw [hexact] at hspec
      cases read with
      | none =>
        rw [if_pos hspec.2]
        exact ⟨rfl, fun _ => hspec.1⟩
      | some body =>
        obtain ⟨hbody, hrest, hlength⟩ := hspec
        rw [if_neg (Nat.not_lt.2 hlength)]
        show Except.ok _ = Except.ok _
        rw [hbody, hrest]

/-- A first line of line ends only, with something after it. -/
def BlankFirstLine : Prop :=
  ∃ raw rest, readline stream = some (raw, rest) ∧ decodeLine raw = [] ∧ rest ≠ []

/-- **One call**: its outcome is that of the bytes; without a message the stream has ended, or its
    first line was blank. -/
theorem readMessage_agrees (r : StreamReader) :
    match readMessage py r with
    | (.ok msg, r') => parseMessage py r.unread = .ok (msg, r'.unread)
    | (.error e, r') => parseMessage py r.unread = .error e ∧
        (e = .noMessage → (r'.unread = [] ↔ ¬ BlankFirstLine r.unread)) := by
  unfold readMessage parseMessage
  cases hread : r.readline with
  | mk line r' =>
    cases line with
    | none =>
      rw [readline_of_none hread]
      exact ⟨rfl, by rintro ⟨⟩⟩
    | some raw =>
      have hline := readline_of_some hread
      rw [hline]
      dsimp only
      have hfirst : BlankFirstLine r.unread ↔ decodeLine raw = [] ∧ r'.unread ≠ [] := by
        constructor
        · rintro ⟨raw', rest, hread', hdecode, hrest⟩
          obtain ⟨rfl, rfl⟩ := Prod.mk.inj (Option.some.inj (hline.symm.trans hread'))
          exact ⟨hdecode, hrest⟩
        · rintro ⟨hdecode, hrest⟩
          exact ⟨raw, r'.unread, hline, hdecode, hrest⟩
      rw [hfirst]
      by_cases hempty : raw = []
      · rw [if_pos hempty, if_pos hempty]
        rw [hempty] at hread
        have hend := unread_of_emptyLine hread
        exact ⟨rfl, fun _ => iff_of_true hend (fun h => h.2 hend)⟩
      rw [if_neg hempty, if_neg hempty]
      by_cases hdecode : decodeLine raw = []
      · rw [if_pos hdecode, if_pos hdecode]
        refine ⟨rfl, fun _ => ⟨fun hend h => h.2 hend, fun hno => ?_⟩⟩
        by_contra hrest
        exact hno ⟨hdecode, hrest⟩
      rw [if_neg hdecode, if_neg hdecode]
      have hheaders := readHeaders_agrees py maxHeaderCount .empty raw.length r'
      cases hresult : readHeaders py maxHeaderCount .empty raw.length r' with
      | mk outcome afterHeaders =>
        rw [hresult] at hheaders
        cases outcome with
        | error e =>
          obtain ⟨hbytes, hend⟩ := hheaders
          rw [hbytes]
          exact ⟨rfl, fun hnone => iff_of_true (hend hnone) (fun h => hdecode h.1)⟩
        | ok a =>
          have hbytes : parseHeaders py maxHeaderCount .empty raw.length r'.unread =
            .ok (a.1, a.2, afterHeaders.unread) := hheaders
          rw [hbytes]
          have hbody := readBody_agrees py a.1 a.2 afterHeaders
          dsimp only [Except.bind]
          cases hresult' : readBody py a.1 a.2 afterHeaders with
          | mk outcome' afterBody =>
            rw [hresult'] at hbody
            cases outcome' with
            | error e =>
              obtain ⟨hbytes', hend⟩ := hbody
              rw [hbytes']
              exact ⟨rfl, fun hnone => iff_of_true (hend hnone) (fun h => hdecode h.1)⟩
            | ok body =>
              have hbytes' : parseBody py a.1 a.2 afterHeaders.unread =
                .ok (body, afterBody.unread) := hbody
              rw [hbytes']
              rfl

/-! ## Which line is too long -/

/-- A header line: it fits into the buffer, and it has a colon. -/
structure PlainHeader (raw : List UInt8) : Prop where
  fitting : FittingLine raw
  colon : ':' ∈ decodeLine raw

/-- After at most `left` header lines, of `size` bytes and more up to the limit of a message, comes
    a line that does not fit. -/
def HeadersReachLongLine (left size : ℕ) (stream : List UInt8) : Prop :=
  ∃ lines rest, stream = lines.flatten ++ rest ∧ (∀ raw ∈ lines, PlainHeader raw) ∧
    lines.length ≤ left ∧
    (lines ≠ [] → size + lines.flatten.length ≤ maxMessageSize) ∧ LongLine rest

/-- The message that the stream begins with is read up to a line that does not fit into the buffer:
    its first line, or a line after a first line with text and header lines only, no more of them
    and no longer than a message may have. -/
def ReachesLongLine : Prop :=
  LongLine stream ∨ ∃ first rest, stream = first ++ rest ∧ FittingLine first ∧
    decodeLine first ≠ [] ∧ HeadersReachLongLine maxHeaderCount first.length rest

theorem FittingLine.ne_nil {raw : List UInt8} (h : FittingLine raw) : raw ≠ [] := by
  obtain ⟨text, -, rfl⟩ := h.ended
  exact List.append_ne_nil_of_right_ne_nil _ (List.cons_ne_nil _ _)

theorem not_longLine_nil : ¬ LongLine [] := Nat.not_lt_zero _

theorem not_headersReachLongLine_nil (left size : ℕ) : ¬ HeadersReachLongLine left size [] := by
  rintro ⟨lines, more, hnil, -, -, -, hlong⟩
  obtain ⟨-, hmore⟩ := List.append_eq_nil_iff.1 hnil.symm
  rw [hmore] at hlong
  exact not_longLine_nil hlong

theorem headersReachLongLine_of_longLine {stream : List UInt8} (h : LongLine stream)
    (left size : ℕ) : HeadersReachLongLine left size stream :=
  ⟨[], stream, rfl, fun _ hraw => absurd hraw List.not_mem_nil, Nat.zero_le _, fun hne =>
    absurd rfl hne, h⟩

theorem headersReachLongLine_cons {raw : List UInt8} (hraw : PlainHeader raw) (left size : ℕ)
    (rest : List UInt8) :
    HeadersReachLongLine (left + 1) size (raw ++ rest) ↔
      size + raw.length ≤ maxMessageSize ∧ HeadersReachLongLine left (size + raw.length) rest := by
  have hread := readline_fitting hraw.fitting rest
  constructor
  · rintro ⟨lines, more, hstream, hlines, hcount, hsize, hlong⟩
    cases lines with
    | nil =>
      rw [List.flatten_nil, List.nil_append] at hstream
      rw [hstream, (readline_eq_none_iff more).2 hlong] at hread
      cases hread
    | cons first lines =>
      rw [List.flatten_cons, List.append_assoc] at hstream
      rw [hstream, readline_fitting (hlines first List.mem_cons_self).fitting] at hread
      obtain ⟨rfl, rfl⟩ := Prod.mk.inj (Option.some.inj hread)
      have htotal := hsize (List.cons_ne_nil _ _)
      rw [List.flatten_cons, List.length_append] at htotal
      rw [List.length_cons] at hcount
      refine ⟨by omega, lines, more, rfl, fun l hl => hlines l (List.mem_cons_of_mem _ hl),
        by omega, ?_, hlong⟩
      intro _
      omega
  · rintro ⟨hfirst, lines, more, rfl, hlines, hcount, hsize, hlong⟩
    refine ⟨raw :: lines, more, ?_, ?_, ?_, fun _ => ?_, hlong⟩
    · rw [List.flatten_cons, List.append_assoc]
    · exact List.forall_mem_cons.2 ⟨hraw, hlines⟩
    · rw [List.length_cons]
      omega
    · rw [List.flatten_cons, List.length_append]
      cases lines with
      | nil =>
        rw [List.flatten_nil, List.length_nil]
        omega
      | cons line lines =>
        have htotal := hsize (List.cons_ne_nil _ _)
        omega

theorem not_headersReachLongLine {stream raw rest : List UInt8}
    (hread : readline stream = some (raw, rest)) {left size : ℕ}
    (hstop : ∀ left', left = left' + 1 → PlainHeader raw → ¬ (size + raw.length ≤ maxMessageSize ∧
      HeadersReachLongLine left' (size + raw.length) rest)) :
        ¬ HeadersReachLongLine left size stream := by
  rintro ⟨lines, more, rfl, hlines, hcount, hsize, hlong⟩
  cases lines with
  | nil =>
    rw [List.flatten_nil, List.nil_append, (readline_eq_none_iff more).2 hlong] at hread
    cases hread
  | cons first lines =>
    have hfirst := hlines first List.mem_cons_self
    have hfound := readline_fitting hfirst.fitting (lines.flatten ++ more)
    rw [← List.append_assoc, ← List.flatten_cons, hread] at hfound
    obtain ⟨rfl, rfl⟩ := Prod.mk.inj (Option.some.inj hfound)
    obtain ⟨left', rfl⟩ : ∃ left', left = left' + 1 :=
      ⟨left - 1, by rw [List.length_cons] at hcount; omega⟩
    refine hstop left' rfl hfirst ((headersReachLongLine_cons hfirst left' size _).1 ?_)
    refine ⟨raw :: lines, more, ?_, hlines, hcount, hsize, hlong⟩
    rw [List.flatten_cons, List.append_assoc]

theorem parseHeaders_lineTooLong_iff (left : ℕ) (headers : Dict String String)
    (size : ℕ) (stream : List UInt8) :
    parseHeaders py left headers size stream = .error .lineTooLong ↔
    HeadersReachLongLine left size stream := by
  induction left generalizing headers size stream with
  | zero =>
    rw [parseHeaders]
    cases hread : readline stream with
    | none =>
      have hlong := (readline_eq_none_iff stream).1 hread
      exact iff_of_true rfl (headersReachLongLine_of_longLine hlong 0 size)
    | some line =>
      obtain ⟨raw, rest⟩ := line
      have hno : ¬ HeadersReachLongLine 0 size stream :=
        not_headersReachLongLine hread (fun left' hleft =>
          absurd hleft (Nat.succ_ne_zero left').symm)
      dsimp only
      refine iff_of_false ?_ hno
      split_ifs
      · rintro ⟨⟩
      · rintro ⟨⟩
      · rintro ⟨⟩
      · cases PyStr.splitFirst [':'] (decodeLine raw) with
        | none => rintro ⟨⟩
        | some parts => rintro ⟨⟩
  | succ left ih =>
    rw [parseHeaders]
    cases hread : readline stream with
    | none =>
      have hlong := (readline_eq_none_iff stream).1 hread
      exact iff_of_true rfl (headersReachLongLine_of_longLine hlong (left + 1) size)
    | some line =>
      obtain ⟨raw, rest⟩ := line
      obtain ⟨hstream, hraw⟩ := readline_eq_some hread
      have hstop : (¬ PlainHeader raw ∨ ¬ size + raw.length ≤ maxMessageSize ∨ rest = []) →
          ¬ HeadersReachLongLine (left + 1) size stream := by
        intro hor
        refine not_headersReachLongLine hread fun left' _ hplain hreach => ?_
        rcases hor with hnot | hbig | hend
        · exact hnot hplain
        · exact hbig hreach.1
        · exact not_headersReachLongLine_nil _ _ (hend ▸ hreach.2)
      dsimp only
      split_ifs with hempty hsize hblank
      · refine iff_of_false (by rintro ⟨⟩) (hstop (.inl fun hplain => hplain.fitting.ne_nil hempty))
      · exact iff_of_false (by rintro ⟨⟩) (hstop (.inr (.inl (Nat.not_le.2 hsize))))
      · refine iff_of_false (by rintro ⟨⟩) (hstop (.inl fun hplain => ?_))
        have hcolon := hplain.colon
        rw [hblank] at hcolon
        cases hcolon
      · cases hsplit : PyStr.splitFirst [':'] (decodeLine raw) with
        | none =>
          have hno := (PyStr.splitFirst_eq_none_iff ':' (decodeLine raw)).1 hsplit
          exact iff_of_false (by rintro ⟨⟩) (hstop (.inl fun hplain => hno hplain.colon))
        | some parts =>
          dsimp only
          rw [ih]
          have hcolon : ':' ∈ decodeLine raw := by
            by_contra hno
            rw [(PyStr.splitFirst_eq_none_iff ':' (decodeLine raw)).2 hno] at hsplit
            cases hsplit
          rcases hraw with hfitting | hend
          · rw [hstream, headersReachLongLine_cons ⟨hfitting, hcolon⟩]
            exact (and_iff_right (Nat.not_lt.1 hsize)).symm
          · refine iff_of_false ?_ (hstop (.inr (.inr hend)))
            rw [hend]
            exact not_headersReachLongLine_nil _ _

theorem parseBody_ne_lineTooLong (headers : Dict String String) (size : ℕ)
    (stream : List UInt8) : parseBody py headers size stream ≠ .error .lineTooLong := by
  unfold parseBody
  dsimp only
  cases PyInt.parse py (headers.getD "content-length" "0") with
  | none => nofun
  | some n =>
    dsimp only
    split_ifs
    all_goals nofun

theorem parseMessage_lineTooLong_iff (stream : List UInt8) :
    parseMessage py stream = .error .lineTooLong ↔ ReachesLongLine stream := by
  unfold parseMessage ReachesLongLine
  cases hread : readline stream with
  | none => exact iff_of_true rfl (.inl ((readline_eq_none_iff stream).1 hread))
  | some line =>
    obtain ⟨raw, rest⟩ := line
    obtain ⟨hstream, hraw⟩ := readline_eq_some hread
    have hfits : ¬ LongLine stream := by
      intro hlong
      rw [(readline_eq_none_iff stream).2 hlong] at hread
      cases hread
    -- the first line of the condition is the line that was read
    have hfirst : (∃ first more, stream = first ++ more ∧ FittingLine first ∧
        decodeLine first ≠ [] ∧ HeadersReachLongLine maxHeaderCount first.length more) ↔
        decodeLine raw ≠ [] ∧ HeadersReachLongLine maxHeaderCount raw.length rest := by
      constructor
      · rintro ⟨first, more, rfl, hfirst, hdecode, hreach⟩
        rw [readline_fitting hfirst] at hread
        obtain ⟨rfl, rfl⟩ := Prod.mk.inj (Option.some.inj hread)
        exact ⟨hdecode, hreach⟩
      · rintro ⟨hdecode, hreach⟩
        rcases hraw with hfitting | hend
        · exact ⟨raw, rest, hstream, hfitting, hdecode, hreach⟩
        · rw [hend] at hreach
          exact absurd hreach (not_headersReachLongLine_nil _ _)
    rw [or_iff_right hfits, hfirst]
    dsimp only
    by_cases hempty : raw = []
    · rw [if_pos hempty]
      refine iff_of_false nofun fun h => h.1 ?_
      rw [hempty]
      rfl
    rw [if_neg hempty]
    by_cases hdecode : decodeLine raw = []
    · rw [if_pos hdecode]
      exact iff_of_false nofun (fun h => h.1 hdecode)
    rw [if_neg hdecode, and_iff_right hdecode, ← parseHeaders_lineTooLong_iff py maxHeaderCount
      .empty]
    cases hheaders : parseHeaders py maxHeaderCount .empty raw.length rest with
    | error e =>
      exact ⟨fun h => congrArg Except.error (Except.error.inj h),
        fun h => congrArg Except.error (Except.error.inj h)⟩
    | ok r =>
      refine iff_of_false ?_ nofun
      cases hbody : parseBody py r.1 r.2.1 r.2.2 with
      | ok b =>
        show (parseBody py r.1 r.2.1 r.2.2).map _ ≠ _
        rw [hbody]
        nofun
      | error e =>
        show (parseBody py r.1 r.2.1 r.2.2).map _ ≠ _
        rw [hbody]
        rintro h
        have he : e = .lineTooLong := Except.error.inj h
        exact parseBody_ne_lineTooLong py r.1 r.2.1 r.2.2 (he ▸ hbody)

/-! ## The contract -/

theorem parseMessage_of_blankFirstLine {stream : List UInt8}
    (h : BlankFirstLine stream) : parseMessage py stream = .error .noMessage := by
  obtain ⟨raw, rest, hread, hdecode, -⟩ := h
  unfold parseMessage
  rw [hread]
  dsimp only
  by_cases hempty : raw = []
  · rw [if_pos hempty]
  · rw [if_neg hempty, if_pos hdecode]

/-- **The error contract of one call**, whatever bytes are left and in whatever segments they
    arrive: it is kept exactly if no blank line comes before more bytes, and no line that is reached
    is too long for the buffer. -/
theorem readMessage_keepsErrorContract_iff (r : StreamReader) :
    KeepsErrorContract (readMessage py r) ↔ ¬ BlankFirstLine r.unread ∧
    ¬ ReachesLongLine r.unread := by
  have hagrees := readMessage_agrees py r
  rw [← parseMessage_lineTooLong_iff py]
  have hblank : parseMessage py r.unread ≠ .error .noMessage → ¬ BlankFirstLine r.unread :=
    fun hne hfirst => hne (parseMessage_of_blankFirstLine py hfirst)
  cases hresult : readMessage py r with
  | mk outcome r' =>
    rw [hresult] at hagrees
    cases outcome with
    | ok msg =>
      have hbytes : parseMessage py r.unread = .ok (msg, r'.unread) := hagrees
      rw [hbytes] at hblank ⊢
      exact iff_of_true trivial ⟨hblank nofun, nofun⟩
    | error e =>
      obtain ⟨hbytes, hend⟩ := hagrees
      rw [hbytes] at hblank ⊢
      cases e with
      | noMessage =>
        show r'.unread = [] ↔ _
        rw [hend rfl]
        exact (and_iff_left nofun).symm
      | transport e => exact iff_of_true trivial ⟨hblank nofun, nofun⟩
      | lineTooLong => exact iff_of_false (fun h => h) (fun h => h.2 rfl)

theorem readMessage_of_longBuffer {buffer : List UInt8} (hbuffer : 10 ∉ buffer)
    (hlong : buffer.length > streamLimit) :
    (readMessage py ⟨buffer, []⟩).1 = .error .lineTooLong := by
  have hread : StreamReader.readline ⟨buffer, []⟩ = (none, ⟨[], []⟩) := by
    show StreamReader.readlineFrom buffer [] = (none, ⟨[], []⟩)
    rw [StreamReader.readlineFrom, if_neg hbuffer, if_pos hlong]
  unfold readMessage
  rw [hread]

/-- A request without headers. -/
def bareRequest : List UInt8 := Utf8.encode "BYE sip:a SIP/2.0\r\n\r\n".toList

/-- `None` for a keep-alive line end, before the request that follows it is read; and a `ValueError`
    for a first line of 65537 bytes. -/
theorem readMessage_breaksErrorContract :
    readMessage .ascii ⟨13 :: 10 :: bareRequest, []⟩ = (.error .noMessage, ⟨bareRequest, []⟩) ∧
      bareRequest ≠ [] ∧
      (readMessage .ascii ⟨List.replicate 65537 97, []⟩).1 = .error .lineTooLong := by
  refine ⟨by with_unfolding_all rfl, by decide +kernel, readMessage_of_longBuffer .ascii
    (fun hmem => ?_) ?_⟩
  · exact absurd (List.eq_of_mem_replicate hmem) (by decide)
  · rw [List.length_replicate]
    decide

end Ekaette
