import Mathlib.Data.List.Basic

set_option autoImplicit false

/-! # UTF-8

`encode` is the encoding of a text. `decode` never fails: it stands U+FFFD for every longest
sequence of bytes that begins a character and is cut short, and for every byte that begins none. -/

namespace Utf8

/-- `s.encode("utf-8")`. -/
def encode (cs : List Char) : List UInt8 := cs.flatMap String.utf8EncodeChar

/-- The replacement character. -/
def replacement : Char := Char.ofNat 0xFFFD

/-- Where the decoder stands: between characters, or with `need` bytes to come, of which the next
    has to be from `lo` to `hi`, behind the bits `acc`. -/
inductive State where
  | start
  | more (need acc lo hi : ℕ)

/-- The byte that begins a character. -/
def lead (b : ℕ) : List Char × State :=
  if b < 0x80 then ([Char.ofNat b], .start)
  else if b < 0xC2 then ([replacement], .start)
  else if b < 0xE0 then ([], .more 1 (b - 0xC0) 0x80 0xBF)
  else if b = 0xE0 then ([], .more 2 0 0xA0 0xBF)
  else if b = 0xED then ([], .more 2 0xD 0x80 0x9F)
  else if b < 0xF0 then ([], .more 2 (b - 0xE0) 0x80 0xBF)
  else if b = 0xF0 then ([], .more 3 0 0x90 0xBF)
  else if b < 0xF4 then ([], .more 3 (b - 0xF0) 0x80 0xBF)
  else if b = 0xF4 then ([], .more 3 4 0x80 0x8F)
  else ([replacement], .start)

/-- One byte: the characters it completes, and where the decoder stands then. -/
def feed : State → ℕ → List Char × State
  | .start, b => lead b
  | .more need acc lo hi, b =>
    if lo ≤ b ∧ b ≤ hi then
      if need = 1 then ([Char.ofNat (acc * 64 + b % 64)], .start)
      else ([], .more (need - 1) (acc * 64 + b % 64) 0x80 0xBF)
    else (replacement :: (lead b).1, (lead b).2)

def decodeFrom : State → List UInt8 → List Char
  | .start, [] => []
  | .more _ _ _ _, [] => [replacement]
  | st, b :: bs => (feed st b.toNat).1 ++ decodeFrom (feed st b.toNat).2 bs

/-- `bs.decode("utf-8", errors="replace")`. -/
def decode (bs : List UInt8) : List Char := decodeFrom .start bs

@[simp] theorem encode_nil : encode [] = [] := rfl

@[simp] theorem encode_cons (c : Char) (cs : List Char) :
    encode (c :: cs) = String.utf8EncodeChar c ++ encode cs := rfl

@[simp] theorem encode_append (cs ds : List Char) : encode (cs ++ ds) = encode cs ++ encode ds :=
  List.flatMap_append

theorem decodeFrom_cons (st : State) (b : UInt8) (bs : List UInt8) :
    decodeFrom st (b :: bs) = (feed st b.toNat).1 ++ decodeFrom (feed st b.toNat).2 bs := by
  cases st <;> rfl

theorem decodeFrom_ofNat (st : State) {n : ℕ} (hn : n < 256) (bs : List UInt8) :
    decodeFrom st (UInt8.ofNat n :: bs) = (feed st n).1 ++ decodeFrom (feed st n).2 bs := by
  rw [decodeFrom_cons, UInt8.toNat_ofNat', Nat.mod_eq_of_lt hn]

/-! ## The round trip -/

/-- A character is a scalar value: no surrogate, and no more than 21 bits. -/
theorem char_bounds (c : Char) : c.toNat < 0xD800 ∨ (0xDFFF < c.toNat ∧ c.toNat < 0x110000) :=
  c.valid

theorem feed_more {need acc lo hi b : ℕ} (hlo : lo ≤ b) (hhi : b ≤ hi) :
    feed (.more need acc lo hi) b = if need = 1 then ([Char.ofNat (acc * 64 + b % 64)], .start)
      else ([], .more (need - 1) (acc * 64 + b % 64) 0x80 0xBF) := by
  rw [feed, if_pos ⟨hlo, hhi⟩]

/-- The first of three bytes: whichever it is, the next two are read by the same steps. -/
theorem lead_three {v : ℕ} (hmin : 0x7ff < v) (hmax : v ≤ 0xffff)
    (hscalar : v < 0xD800 ∨ 0xDFFF < v) : ∃ lo hi, lead (v / 4096 % 16 + 0xe0) =
      ([], .more 2 (v / 4096) lo hi) ∧ lo ≤ v / 64 % 64 + 0x80 ∧ v / 64 % 64 + 0x80 ≤ hi := by
  unfold lead
  rw [if_neg (by omega), if_neg (by omega), if_neg (by omega)]
  by_cases hzero : v / 4096 = 0
  · refine ⟨0xA0, 0xBF, ?_, by omega, by omega⟩
    rw [if_pos (by omega), hzero]
  rw [if_neg (by omega)]
  by_cases hsurrogate : v / 4096 = 0xD
  · refine ⟨0x80, 0x9F, ?_, by omega, by omega⟩
    rw [if_pos (by omega), hsurrogate]
  · refine ⟨0x80, 0xBF, ?_, by omega, by omega⟩
    have hbits : v / 4096 % 16 + 0xe0 - 0xE0 = v / 4096 := by omega
    rw [if_neg (by omega), if_pos (by omega), hbits]

theorem lead_four {v : ℕ} (hmin : 0xffff < v) (hmax : v < 0x110000) :
    ∃ lo hi, lead (v / 262144 % 8 + 0xf0) = ([], .more 3 (v / 262144) lo hi) ∧
      lo ≤ v / 4096 % 64 + 0x80 ∧ v / 4096 % 64 + 0x80 ≤ hi := by
  unfold lead
  rw [if_neg (by omega), if_neg (by omega), if_neg (by omega), if_neg (by omega), if_neg (by omega),
    if_neg (by omega)]
  by_cases hzero : v / 262144 = 0
  · refine ⟨0x90, 0xBF, ?_, by omega, by omega⟩
    rw [if_pos (by omega), hzero]
  rw [if_neg (by omega)]
  by_cases hlast : v / 262144 = 4
  · refine ⟨0x80, 0x8F, ?_, by omega, by omega⟩
    rw [if_neg (by omega), if_pos (by omega), hlast]
  · refine ⟨0x80, 0xBF, ?_, by omega, by omega⟩
    have hbits : v / 262144 % 8 + 0xf0 - 0xF0 = v / 262144 := by omega
    rw [if_pos (by omega), hbits]

theorem completed {n v : ℕ} (h : n = v) (bs : List UInt8) :
    ([Char.ofNat n], State.start).1 ++ decodeFrom ([Char.ofNat n], State.start).2 bs =
      Char.ofNat v :: decodeFrom .start bs := by
  rw [h]
  rfl

/-- **One character** is decoded from its bytes, whatever follows them. -/
theorem decode_encodeChar (c : Char) (bs : List UInt8) :
    decode (String.utf8EncodeChar c ++ bs) = c :: decode bs := by
  have hc := char_bounds c
  have hchar : Char.ofNat c.toNat = c := Char.ofNat_toNat c
  have hval : c.val.toNat = c.toNat := rfl
  unfold decode
  rw [String.utf8EncodeChar, hval]
  generalize c.toNat = v at hc hchar
  subst hchar
  by_cases h1 : v ≤ 0x7f
  · simp only [h1, if_true, List.cons_append, List.nil_append]
    rw [decodeFrom_ofNat _ (by omega), feed, lead, if_pos (by omega)]
    exact completed rfl bs
  by_cases h2 : v ≤ 0x7ff
  · simp only [h1, h2, if_true, if_false, List.cons_append, List.nil_append]
    rw [decodeFrom_ofNat _ (by omega), feed, lead, if_neg (by omega), if_neg (by omega),
      if_pos (by omega), List.nil_append, decodeFrom_ofNat _ (by omega), feed_more (by omega)
      (by omega), if_pos rfl]
    exact completed (by omega) bs
  by_cases h3 : v ≤ 0xffff
  · obtain ⟨lo, hi, hlead, hlo, hhi⟩ := lead_three (by omega) h3 (by omega)
    simp only [h1, h2, h3, if_true, if_false, List.cons_append, List.nil_append]
    rw [decodeFrom_ofNat _ (by omega), feed, hlead, List.nil_append, decodeFrom_ofNat _ (by omega),
      feed_more hlo hhi, if_neg (by decide), List.nil_append, decodeFrom_ofNat _ (by omega),
      feed_more (by omega) (by omega), if_pos rfl]
    exact completed (by omega) bs
  · obtain ⟨lo, hi, hlead, hlo, hhi⟩ := lead_four (v := v) (by omega) (by omega)
    simp only [h1, h2, h3, if_false, List.cons_append, List.nil_append]
    rw [decodeFrom_ofNat _ (by omega), feed, hlead, List.nil_append, decodeFrom_ofNat _ (by omega),
      feed_more hlo hhi, if_neg (by decide), List.nil_append, decodeFrom_ofNat _ (by omega),
      feed_more (by omega) (by omega), if_neg (by decide), List.nil_append,
      decodeFrom_ofNat _ (by omega), feed_more (by omega) (by omega), if_pos rfl]
    exact completed (by omega) bs

/-- **Round trip**: an encoded text is decoded to itself, whatever bytes follow it. -/
theorem decode_encode_append (cs : List Char) (bs : List UInt8) :
    decode (encode cs ++ bs) = cs ++ decode bs := by
  induction cs with
  | nil => rfl
  | cons c cs ih => rw [encode_cons, List.append_assoc, decode_encodeChar, ih, List.cons_append]

@[simp] theorem decode_encode (cs : List Char) : decode (encode cs) = cs := by
  have h := decode_encode_append cs []
  rwa [List.append_nil, show decode [] = [] from rfl, List.append_nil] at h

/-! ## ASCII bytes -/

/-- An ASCII byte among the bytes of a character is that character. -/
theorem mem_encodeChar_ascii {c : Char} {b : UInt8} (hb : b.toNat < 0x80)
    (h : b ∈ String.utf8EncodeChar c) : c.toNat = b.toNat := by
  have hc := char_bounds c
  have hval : c.val.toNat = c.toNat := rfl
  have hbyte : ∀ n : ℕ, n < 256 → b = UInt8.ofNat n → n < 0x80 ∧ n = b.toNat := by
    intro n hn hbn
    have hn' : b.toNat = n := by rw [hbn, UInt8.toNat_ofNat', Nat.mod_eq_of_lt hn]
    omega
  rw [String.utf8EncodeChar, hval] at h
  generalize c.toNat = v at hc h
  by_cases h1 : v ≤ 0x7f
  · simp only [h1, if_true, List.mem_singleton] at h
    exact (hbyte v (by omega) h).2
  by_cases h2 : v ≤ 0x7ff
  · simp only [h1, h2, if_true, if_false, List.mem_cons, List.not_mem_nil, or_false] at h
    rcases h with h | h
    · have := hbyte _ (by omega) h
      omega
    · have := hbyte _ (by omega) h
      omega
  by_cases h3 : v ≤ 0xffff
  · simp only [h1, h2, h3, if_true, if_false, List.mem_cons, List.not_mem_nil, or_false] at h
    rcases h with h | h | h
    · have := hbyte _ (by omega) h
      omega
    · have := hbyte _ (by omega) h
      omega
    · have := hbyte _ (by omega) h
      omega
  · simp only [h1, h2, h3, if_false, List.mem_cons, List.not_mem_nil, or_false] at h
    rcases h with h | h | h | h
    · have := hbyte _ (by omega) h
      omega
    · have := hbyte _ (by omega) h
      omega
    · have := hbyte _ (by omega) h
      omega
    · have := hbyte _ (by omega) h
      omega

/-- A text without a certain ASCII character has no such byte. -/
theorem not_mem_encode {cs : List Char} {b : UInt8} {c : Char} (hc : c.toNat = b.toNat)
    (hb : b.toNat < 0x80) (h : c ∉ cs) : b ∉ encode cs := by
  intro hmem
  obtain ⟨d, hd, hbyte⟩ := List.mem_flatMap.1 hmem
  have hsame : d = c := by
    rw [← Char.ofNat_toNat d, mem_encodeChar_ascii hb hbyte, ← hc, Char.ofNat_toNat]
  exact h (hsame ▸ hd)

end Utf8
