import Mathlib.Data.List.DropRight

set_option autoImplicit false

/-! # Base64

The encoder, and a decoder as lenient as common library functions: characters outside the alphabet
are skipped, padding ends the text once it completes a group, and only a group cut short is an
error. The URL-safe variant has two other characters in its alphabet and no padding; `pad` adds it
again. -/

namespace Base64

/-- The character of a six-bit value. -/
def toChar (n : ℕ) : Char :=
  if n < 26 then Char.ofNat (65 + n)
  else if n < 52 then Char.ofNat (71 + n)
  else if n < 62 then Char.ofNat (n - 4)
  else if n = 62 then '+' else '/'

/-- The six-bit value of a character of the alphabet. -/
def value (c : Char) : Option ℕ :=
  let n := c.toNat
  if 65 ≤ n ∧ n ≤ 90 then some (n - 65)
  else if 97 ≤ n ∧ n ≤ 122 then some (n - 71)
  else if 48 ≤ n ∧ n ≤ 57 then some (n + 4)
  else if c = '+' then some 62
  else if c = '/' then some 63
  else none

/-- Encode, three bytes at a time. -/
def encode : List UInt8 → List Char
  | [] => []
  | [a] => [toChar (a.toNat / 4), toChar (a.toNat % 4 * 16), '=', '=']
  | [a, b] =>
    [toChar (a.toNat / 4), toChar (a.toNat % 4 * 16 + b.toNat / 16),
      toChar (b.toNat % 16 * 4), '=']
  | a :: b :: c :: bytes =>
    toChar (a.toNat / 4) :: toChar (a.toNat % 4 * 16 + b.toNat / 16) ::
      toChar (b.toNat % 16 * 4 + c.toNat / 64) :: toChar (c.toNat % 64) :: encode bytes

/-- Decode from a position in a group: `quad` characters of the group have been read, `left` are the
    bits left over from them, and `pads` padding characters came after them. -/
def decodeFrom (quad left pads : ℕ) : List Char → Option (List UInt8)
  | [] => if quad = 0 then some [] else none
  | c :: cs =>
    if c = '=' then
      if 2 ≤ quad then if 4 ≤ quad + (pads + 1) then some [] else decodeFrom quad left (pads + 1) cs
      else decodeFrom quad left pads cs
    else match value c with
      | none => decodeFrom quad left pads cs
      | some v =>
        match quad with
        | 0 => decodeFrom 1 v 0 cs
        | 1 => (decodeFrom 2 (v % 16) 0 cs).map (UInt8.ofNat (left * 4 + v / 16) :: ·)
        | 2 => (decodeFrom 3 (v % 4) 0 cs).map (UInt8.ofNat (left * 16 + v / 4) :: ·)
        | _ => (decodeFrom 0 0 0 cs).map (UInt8.ofNat (left * 64 + v) :: ·)

/-- Decode; `none` for a group cut short. -/
def decode (cs : List Char) : Option (List UInt8) := decodeFrom 0 0 0 cs

/-- Decode a text that is base64 from end to end, padded to whole groups; `none` for any other. -/
def decodeStrict (cs : List Char) : Option (List UInt8) :=
  let body := cs.takeWhile (· ≠ '=')
  let padding := cs.drop body.length
  if body.all (fun c => (value c).isSome) && padding.all (· = '=') && decide (padding.length ≤ 2) &&
      decide (cs.length % 4 = 0) then
    decode cs
  else none

/-! ## The round trip -/

variable {n : ℕ}

theorem value_toChar (h : n < 64) : value (toChar n) = some n := by
  have hall : ∀ n : Fin 64, value (toChar n) = some n.val := by decide
  exact hall ⟨n, h⟩

theorem toChar_ne_pad (h : n < 64) : toChar n ≠ '=' := by
  have hall : ∀ n : Fin 64, toChar n ≠ '=' := by decide
  exact hall ⟨n, h⟩

/-- A character of the alphabet is read into its group. -/
theorem decodeFrom_digit (h : n < 64) (quad left pads : ℕ) (cs : List Char) :
    decodeFrom quad left pads (toChar n :: cs) =
      match quad with
      | 0 => decodeFrom 1 n 0 cs
      | 1 => (decodeFrom 2 (n % 16) 0 cs).map (UInt8.ofNat (left * 4 + n / 16) :: ·)
      | 2 => (decodeFrom 3 (n % 4) 0 cs).map (UInt8.ofNat (left * 16 + n / 4) :: ·)
      | _ => (decodeFrom 0 0 0 cs).map (UInt8.ofNat (left * 64 + n) :: ·) := by
  rw [decodeFrom, if_neg (toChar_ne_pad h), value_toChar h]

theorem decodeFrom_zero (h : n < 64) (left pads : ℕ) (cs : List Char) :
    decodeFrom 0 left pads (toChar n :: cs) = decodeFrom 1 n 0 cs :=
  decodeFrom_digit h 0 left pads cs

theorem decodeFrom_one (h : n < 64) (left pads : ℕ) (cs : List Char) :
    decodeFrom 1 left pads (toChar n :: cs)
      = (decodeFrom 2 (n % 16) 0 cs).map (UInt8.ofNat (left * 4 + n / 16) :: ·) :=
  decodeFrom_digit h 1 left pads cs

theorem decodeFrom_two (h : n < 64) (left pads : ℕ) (cs : List Char) :
    decodeFrom 2 left pads (toChar n :: cs)
      = (decodeFrom 3 (n % 4) 0 cs).map (UInt8.ofNat (left * 16 + n / 4) :: ·) :=
  decodeFrom_digit h 2 left pads cs

theorem decodeFrom_three (h : n < 64) (left pads : ℕ) (cs : List Char) :
    decodeFrom 3 left pads (toChar n :: cs)
      = (decodeFrom 0 0 0 cs).map (UInt8.ofNat (left * 64 + n) :: ·) :=
  decodeFrom_digit h 3 left pads cs

/-- A byte is found again from a number that is its value. -/
theorem ofNat_eq {a : UInt8} (h : n = a.toNat) : UInt8.ofNat n = a := by
  rw [h]
  exact UInt8.ofNat_toNat

variable (bytes : List UInt8)

/-- **Round trip**: decoding what was encoded gives the bytes back. -/
theorem decode_encode : decode (encode bytes) = some bytes := by
  unfold decode
  induction bytes using encode.induct with
  | case1 => rfl
  | case2 a =>
    have ha := a.toNat_lt
    rw [encode, decodeFrom_zero (by omega), decodeFrom_one (by omega)]
    simp only [decodeFrom, if_true]
    rw [if_pos (by omega), if_neg (by omega), if_pos (by omega), if_pos (by omega),
      Option.map_some, ofNat_eq (a := a) (by omega)]
  | case3 a b =>
    have ha := a.toNat_lt
    have hb := b.toNat_lt
    rw [encode, decodeFrom_zero (by omega), decodeFrom_one (by omega), decodeFrom_two (by omega)]
    simp only [decodeFrom, if_true]
    rw [if_pos (by omega), if_pos (by omega), Option.map_some, Option.map_some,
      ofNat_eq (a := a) (by omega), ofNat_eq (a := b) (by omega)]
  | case4 a b c bytes ih =>
    have ha := a.toNat_lt
    have hb := b.toNat_lt
    have hc := c.toNat_lt
    rw [encode, decodeFrom_zero (by omega), decodeFrom_one (by omega), decodeFrom_two (by omega),
      decodeFrom_three (by omega), ih, Option.map_some, Option.map_some, Option.map_some,
      ofNat_eq (a := a) (by omega), ofNat_eq (a := b) (by omega), ofNat_eq (a := c) (by omega)]

/-- The characters of an encoded text. -/
def IsBase64 (c : Char) : Bool := c.isAlphanum || c = '+' || c = '/' || c = '='

theorem isBase64_toChar (h : n < 64) : IsBase64 (toChar n) = true := by
  have hall : ∀ n : Fin 64, IsBase64 (toChar n) = true := by decide
  exact hall ⟨n, h⟩

theorem encode_isBase64 : ∀ c ∈ encode bytes, IsBase64 c = true := by
  have hpad : IsBase64 '=' = true := by decide
  induction bytes using encode.induct with
  | case1 => simp [encode]
  | case2 a =>
    have ha := a.toNat_lt
    simp only [encode, List.forall_mem_cons, hpad, List.not_mem_nil, false_imp_iff, implies_true,
      and_true]
    exact ⟨isBase64_toChar (by omega), isBase64_toChar (by omega)⟩
  | case3 a b =>
    have ha := a.toNat_lt
    have hb := b.toNat_lt
    simp only [encode, List.forall_mem_cons, hpad, List.not_mem_nil, false_imp_iff, implies_true,
      and_true]
    exact ⟨isBase64_toChar (by omega), isBase64_toChar (by omega), isBase64_toChar (by omega)⟩
  | case4 a b c bytes ih =>
    have ha := a.toNat_lt
    have hb := b.toNat_lt
    have hc := c.toNat_lt
    simp only [encode, List.forall_mem_cons]
    exact ⟨isBase64_toChar (by omega), isBase64_toChar (by omega), isBase64_toChar (by omega),
      isBase64_toChar (by omega), ih⟩

/-! ## The URL-safe alphabet -/

def toUrlsafe (c : Char) : Char := if c = '+' then '-' else if c = '/' then '_' else c

def ofUrlsafe (c : Char) : Char := if c = '-' then '+' else if c = '_' then '/' else c

/-- Encode in the URL-safe alphabet, without the padding. -/
def encodeUrlsafe : List Char :=
  ((encode bytes).map toUrlsafe).rdropWhile (· = '=')

/-- Decode from the URL-safe alphabet; only ASCII text can be decoded. -/
def decodeUrlsafe (cs : List Char) : Option (List UInt8) :=
  if cs.all (fun c => c.toNat < 128) then decode (cs.map ofUrlsafe) else none

/-- The padding of the last group. -/
def pad (cs : List Char) : List Char :=
  if 4 - cs.length % 4 ≠ 4 then cs ++ List.replicate (4 - cs.length % 4) '=' else cs

/-- An encoded text is digits and at most two characters of padding, in groups of four. -/
theorem exists_digits :
    ∃ digits : List ℕ, ∃ pads, (∀ n ∈ digits, n < 64) ∧ pads ≤ 2 ∧ (digits.length + pads) % 4 = 0 ∧
      encode bytes = digits.map toChar ++ List.replicate pads '=' := by
  induction bytes using encode.induct with
  | case1 => exact ⟨[], 0, fun n hn => absurd hn List.not_mem_nil, Nat.zero_le 2, rfl, rfl⟩
  | case2 a =>
    have ha := a.toNat_lt
    refine ⟨[a.toNat / 4, a.toNat % 4 * 16], 2, ?_, le_rfl, by simp, rfl⟩
    simp only [List.forall_mem_cons, List.not_mem_nil, false_imp_iff, implies_true, and_true]
    exact ⟨by omega, by omega⟩
  | case3 a b =>
    have ha := a.toNat_lt
    have hb := b.toNat_lt
    refine ⟨[a.toNat / 4, a.toNat % 4 * 16 + b.toNat / 16, b.toNat % 16 * 4], 1, ?_, Nat.le_succ 1,
      by simp, rfl⟩
    simp only [List.forall_mem_cons, List.not_mem_nil, false_imp_iff, implies_true, and_true]
    exact ⟨by omega, by omega, by omega⟩
  | case4 a b c bytes ih =>
    have ha := a.toNat_lt
    have hb := b.toNat_lt
    have hc := c.toNat_lt
    obtain ⟨digits, pads, hdigits, hpads, hgroups, hencode⟩ := ih
    refine ⟨a.toNat / 4 :: (a.toNat % 4 * 16 + b.toNat / 16) :: (b.toNat % 16 * 4 + c.toNat / 64) ::
      (c.toNat % 64) :: digits, pads, ?_, hpads, ?_, ?_⟩
    · simp only [List.forall_mem_cons]
      exact ⟨by omega, by omega, by omega, by omega, hdigits⟩
    · simp only [List.length_cons]
      omega
    · rw [encode, hencode]
      rfl

/-- The characters of the URL-safe alphabet. -/
theorem urlsafe_digit (h : n < 64) :
    toUrlsafe (toChar n) ≠ '=' ∧ toUrlsafe (toChar n) ≠ '.' ∧ (toUrlsafe (toChar n)).toNat < 128 ∧
      ofUrlsafe (toUrlsafe (toChar n)) = toChar n := by
  have hall : ∀ n : Fin 64, toUrlsafe (toChar n) ≠ '=' ∧ toUrlsafe (toChar n) ≠ '.' ∧
      (toUrlsafe (toChar n)).toNat < 128 ∧ ofUrlsafe (toUrlsafe (toChar n)) = toChar n := by
    decide
  exact hall ⟨n, h⟩

/-- Dropping the padding leaves the digits. -/
theorem encodeUrlsafe_of_digits {bytes : List UInt8} {digits : List ℕ} {pads : ℕ}
    (hdigits : ∀ n ∈ digits, n < 64)
    (hencode : encode bytes = digits.map toChar ++ List.replicate pads '=') :
    encodeUrlsafe bytes = digits.map (fun n => toUrlsafe (toChar n)) := by
  have hpad : ∀ (k : ℕ) (cs : List Char), (cs ++ List.replicate k '=').rdropWhile (· = '=') =
      cs.rdropWhile (· = '=') := by
    intro k cs
    induction k with
    | zero => rw [List.replicate_zero, List.append_nil]
    | succ k ih =>
      rw [List.replicate_succ', ← List.append_assoc, List.rdropWhile_concat, if_pos (by decide), ih]
  rw [encodeUrlsafe, hencode, List.map_append, List.map_replicate, List.map_map,
    show toUrlsafe '=' = '=' from rfl, hpad]
  refine List.rdropWhile_eq_self_iff.2 (fun hne hlast => ?_)
  obtain ⟨n, hn, hchar⟩ := List.mem_map.1 (List.getLast_mem hne)
  rw [← hchar] at hlast
  exact (urlsafe_digit (hdigits n hn)).1 (of_decide_eq_true hlast)

theorem dot_not_mem_encodeUrlsafe : '.' ∉ encodeUrlsafe bytes := by
  obtain ⟨digits, pads, hdigits, -, -, hencode⟩ := exists_digits bytes
  rw [encodeUrlsafe_of_digits hdigits hencode]
  intro hdot
  obtain ⟨n, hn, hchar⟩ := List.mem_map.1 hdot
  exact (urlsafe_digit (hdigits n hn)).2.1 hchar

theorem encodeUrlsafe_ne_nil {bytes : List UInt8} (h : bytes ≠ []) : encodeUrlsafe bytes ≠ [] := by
  obtain ⟨digits, pads, hdigits, hpads, hgroups, hencode⟩ := exists_digits bytes
  rw [encodeUrlsafe_of_digits hdigits hencode]
  intro hnil
  rw [List.map_eq_nil_iff.1 hnil, List.length_nil, Nat.zero_add] at hgroups
  have hzero : pads = 0 := by omega
  rw [List.map_eq_nil_iff.1 hnil, hzero] at hencode
  have hdecode := decode_encode bytes
  rw [hencode] at hdecode
  exact h (Option.some_inj.1 hdecode).symm

/-- **Round trip without padding**: the padding that is added again is the one that was dropped. -/
theorem decodeUrlsafe_pad_encodeUrlsafe :
    decodeUrlsafe (pad (encodeUrlsafe bytes)) = some bytes := by
  obtain ⟨digits, pads, hdigits, hpads, hgroups, hencode⟩ := exists_digits bytes
  have hpadded : pad (encodeUrlsafe bytes) =
      digits.map (fun n => toUrlsafe (toChar n)) ++ List.replicate pads '=' := by
    rw [encodeUrlsafe_of_digits hdigits hencode, pad, List.length_map]
    by_cases hzero : pads = 0
    · rw [if_neg (by omega), hzero, List.replicate_zero, List.append_nil]
    · rw [if_pos (by omega), show 4 - digits.length % 4 = pads by omega]
  have hascii : (digits.map (fun n => toUrlsafe (toChar n)) ++ List.replicate pads '=').all
      (fun c => c.toNat < 128) = true := by
    rw [List.all_eq_true]
    intro c hc
    rcases List.mem_append.1 hc with hc | hc
    · obtain ⟨n, hn, rfl⟩ := List.mem_map.1 hc
      exact decide_eq_true (urlsafe_digit (hdigits n hn)).2.2.1
    · rw [List.eq_of_mem_replicate hc]
      decide
  have hback : (digits.map (fun n => toUrlsafe (toChar n))).map ofUrlsafe = digits.map toChar := by
    rw [List.map_map]
    exact List.map_congr_left (fun n hn => (urlsafe_digit (hdigits n hn)).2.2.2)
  rw [hpadded, decodeUrlsafe, if_pos hascii, List.map_append, hback, List.map_replicate,
    show ofUrlsafe '=' = '=' from rfl, ← hencode, decode_encode]

end Base64
