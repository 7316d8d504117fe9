import Ekaette.Sip.HeaderLines

set_option autoImplicit false

/-! # The body length of a message on a stream

`parse_message` reads as many body bytes as the last `Content-Length` line of a message says, in the
syntax of `int()`. Every such line is followed exactly if all of them are digits of one number. -/

namespace Ekaette

/-- The values of the header lines whose names normalize to `content-length`, as the stream has
    them. -/
def contentLengths (py : StrMethods) (stream : List UInt8) : List String :=
  ownValues py (messageLines stream) "content-length"

/-- What follows the lines `streamLines` reads. -/
def afterLines : ℕ → List UInt8 → List UInt8
  | 0, stream => stream
  | left + 1, stream =>
    match readline stream with
    | none => stream
    | some (raw, rest) => if decodeLine raw = [] then rest else afterLines left rest

/-- The bytes after the blank line of the first message. -/
def bodyStart (stream : List UInt8) : List UInt8 :=
  match readline stream with
  | none => stream
  | some (_, rest) => afterLines (maxHeaderCount + 1) rest

/-- The header loop stops after the blank line. -/
theorem parseHeaders_rest {py : StrMethods} {left : ℕ} {headers : Dict String String} {size : ℕ}
    {stream : List UInt8} {r : Dict String String × ℕ × List UInt8}
    (h : parseHeaders py left headers size stream = .ok r) :
    r.2.2 = afterLines (left + 1) stream := by
  induction left using Nat.strong_induction_on generalizing headers size stream with
  | _ left ih =>
    obtain ⟨raw, rest, hread, ⟨hblank, rfl⟩ | ⟨hblank, left', name, value, rfl, -, h⟩⟩ :=
      parseHeaders_cases h
    · rw [afterLines, hread]
      simp only [hblank, if_true]
    · rw [afterLines, hread]
      simp only [hblank, if_false]
      exact ih left' (Nat.lt_succ_self left') h

/-- A body that is read has the length `int()` makes of the header. -/
theorem parseBody_ok {py : StrMethods} {headers : Dict String String} {size : ℕ}
    {stream rest : List UInt8} {body : String}
    (h : parseBody py headers size stream = .ok (body, rest)) :
    ∃ n : ℕ, PyInt.parse py (headers.getD "content-length" "0") = some (n : ℤ) ∧
      stream.length = n + rest.length := by
  unfold parseBody at h
  dsimp only at h
  split at h
  · cases h
  · next n hparse =>
      split_ifs at h with hnegative hsize hshort
      obtain ⟨-, rfl⟩ := Prod.mk.inj (Except.ok.inj h)
      refine ⟨n.toNat, ?_, ?_⟩
      · rw [hparse, Int.toNat_of_nonneg (not_lt.1 hnegative)]
      · rw [List.length_drop]
        omega

/-- **What is consumed**: the number that `int()` makes of the last of the values, or of `"0"`. -/
theorem consumed_of_parseMessage {py : StrMethods} {stream rest : List UInt8} {msg : SipMessage}
    (h : parseMessage py stream = .ok (msg, rest)) :
    ∃ n : ℕ, PyInt.parse py ((contentLengths py stream).getLast?.getD "0") = some (n : ℤ) ∧
      (bodyStart stream).length = n + rest.length := by
  obtain ⟨raw, tail, headers, size, more, body, hread, hheaders, hbody, -⟩ := parseMessage_ok h
  unfold contentLengths messageLines bodyStart
  rw [hread]
  dsimp only
  have hfields : headers = _ := parseHeaders_fields hheaders
  have hmore : more = _ := parseHeaders_rest hheaders
  have hvalue : headers.getD "content-length" "0" = ((ownValues py
      (streamLines (maxHeaderCount + 1) tail) "content-length").getLast?).getD "0" := by
    rw [hfields, Dict.getD,
      Dict.get?_foldl_set_last (fun e : String × String => normalizeHeaderName py e.1) Prod.snd,
      Dict.get?_empty, Option.or_none, ← List.getLast?_map]
    rfl
  rw [← hvalue, ← hmore]
  exact parseBody_ok hbody

/-- **Framing by every Content-Length line.** Each of them is one or more digits, and denotes the
    number of body bytes consumed, exactly if all of them are digits and denote one number. -/
theorem framed_by_contentLengths_iff (py : StrMethods) (stream rest : List UInt8) (msg : SipMessage)
    (h : parseMessage py stream = .ok (msg, rest)) :
    (∀ value ∈ contentLengths py stream, PyInt.IsDigits value ∧
        (bodyStart stream).length = PyInt.digitsValue value + rest.length) ↔
      ∀ value ∈ contentLengths py stream, PyInt.IsDigits value ∧
        ∀ other ∈ contentLengths py stream, PyInt.digitsValue other = PyInt.digitsValue value := by
  obtain ⟨n, hparse, hconsumed⟩ := consumed_of_parseMessage h
  constructor
  · intro hall value hvalue
    refine ⟨(hall value hvalue).1, fun other hother => ?_⟩
    have hlength := (hall value hvalue).2
    have hlength' := (hall other hother).2
    omega
  · intro hall value hvalue
    refine ⟨(hall value hvalue).1, ?_⟩
    obtain ⟨last, hlast⟩ := Option.ne_none_iff_exists'.1
      (mt List.getLast?_eq_none_iff.1 (List.ne_nil_of_mem hvalue))
    rw [hlast, Option.getD_some] at hparse
    have hmem := List.mem_of_getLast? hlast
    rw [PyInt.parse_digits py (hall last hmem).1] at hparse
    split_ifs at hparse with hlong
    have hn : PyInt.digitsValue last = n := Int.ofNat_inj.1 (Option.some.inj hparse)
    rw [hconsumed, ← hn, (hall value hvalue).2 last hmem]

/-! ## Two lengths, and lengths that are no digits -/

/-- A message with these header lines. -/
def framedBytes (lines : List String) (body : String) : List UInt8 :=
  Utf8.encode (("\r\n".intercalate ("MESSAGE sip:a SIP/2.0" :: lines)) ++ "\r\n\r\n" ++ body).toList

/-- What a call of `parse_message` that returns a message leaves of the stream. -/
def leftOf (result : Except ParseStop (SipMessage × List UInt8)) : Option (List UInt8) :=
  match result with
  | .ok (_, rest) => some rest
  | .error _ => none

theorem exists_of_leftOf {result : Except ParseStop (SipMessage × List UInt8)} {rest : List UInt8}
    (h : leftOf result = some rest) : ∃ msg, result = .ok (msg, rest) := by
  unfold leftOf at h
  split at h
  · next msg left =>
      rw [Option.some.inj h]
      exact ⟨msg, rfl⟩
  · cases h

/-- Accepted: a second line in the compact form says otherwise, or a length is written as `int()`
    allows. -/
theorem framedBytes_accepted :
    (leftOf (parseMessage .ascii (framedBytes ["Content-Length: 5", "l: 0"] "smuggled")) =
        some (Utf8.encode "smuggled".toList) ∧
      contentLengths .ascii (framedBytes ["Content-Length: 5", "l: 0"] "smuggled") = ["5", "0"] ∧
      PyInt.digitsValue "5" ≠ PyInt.digitsValue "0") ∧
    leftOf (parseMessage .ascii (framedBytes ["Content-Length: +1_0"] "ten bytes and more")) =
        some (Utf8.encode "and more".toList) ∧
      contentLengths .ascii (framedBytes ["Content-Length: +1_0"] "ten bytes and more") = ["+1_0"] ∧
      ¬ PyInt.IsDigits "+1_0" := by
  decide +kernel

/-- Two lines that say the same are both followed. -/
theorem framed_by_contentLengths_twice :
    contentLengths .ascii (framedBytes ["Content-Length: 4", "l: 04"] "bodyrest") = ["4", "04"] ∧
      ∀ value ∈ contentLengths .ascii (framedBytes ["Content-Length: 4", "l: 04"] "bodyrest"),
        PyInt.IsDigits value ∧
        (bodyStart (framedBytes ["Content-Length: 4", "l: 04"] "bodyrest")).length =
          PyInt.digitsValue value + (Utf8.encode "rest".toList).length := by
  have hvalues : contentLengths .ascii (framedBytes ["Content-Length: 4", "l: 04"] "bodyrest") =
      ["4", "04"] := by
    decide +kernel
  obtain ⟨msg, hmsg⟩ := exists_of_leftOf (show leftOf
    (parseMessage .ascii (framedBytes ["Content-Length: 4", "l: 04"] "bodyrest")) =
      some (Utf8.encode "rest".toList) by decide +kernel)
  refine ⟨hvalues, (framed_by_contentLengths_iff .ascii _ _ msg hmsg).2 ?_⟩
  rw [hvalues]
  decide +kernel

end Ekaette
