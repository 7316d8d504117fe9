import Ekaette.Lib.PyStr
import Mathlib.Algebra.Order.Field.Rat

set_option autoImplicit false

/-! # `float()` and `int()`

The conversion of a dynamic value to a float, and of a string to an integer. A number literal
becomes the exact rational it denotes, zero when its magnitude rounds to it, or an infinity when it
rounds beyond the largest double; rounding to the nearest double is not modelled otherwise. Digits
are the ASCII ones. -/

namespace PyFloat

/-- Literals at or beyond this magnitude round to an infinity. -/
def overflowBound : ℚ := 2 ^ 1024 - 2 ^ 970

/-- Literals up to this magnitude round to zero. -/
def underflowBound : ℚ := 1 / 2 ^ 1075

/-- The float a decimal literal of value `q` denotes. -/
def ofRat (q : ℚ) : PyFloat :=
  if overflowBound ≤ q then .inf false
  else if q ≤ -overflowBound then .inf true
  else if -underflowBound ≤ q ∧ q ≤ underflowBound then .fin 0
  else .fin q

/-! ## The literals `float(s)` accepts -/

/-- Drop the underscores of a literal; `none` unless each stands between two digits (`prev` is the
    character before). -/
def dropUnderscores : Char → List Char → Option (List Char)
  | _, [] => some []
  | prev, '_' :: cs =>
    match cs with
    | c :: _ => if prev.isDigit && c.isDigit then dropUnderscores '_' cs else none
    | [] => none
  | _, c :: cs => (dropUnderscores c cs).map (c :: ·)

def natOfDigits (cs : List Char) : ℕ := cs.foldl (fun n c => 10 * n + (c.toNat - '0'.toNat)) 0

/-- An optional sign: whether it is a minus, and what follows. -/
def takeSign : List Char → Bool × List Char
  | '-' :: cs => (true, cs)
  | '+' :: cs => (false, cs)
  | cs => (false, cs)

/-- The value of an optional exponent part, which must end the literal. -/
def parseExponent : List Char → Option ℤ
  | [] => some 0
  | c :: cs =>
    let (negative, ds) := takeSign cs
    if (c = 'e' ∨ c = 'E') ∧ ds ≠ [] ∧ ds.all Char.isDigit then
      some (if negative then -(natOfDigits ds : ℤ) else natOfDigits ds)
    else none

/-- `n` times the power of ten with exponent `k`. -/
def scale10 (n : ℕ) (k : ℤ) : ℚ := if 0 ≤ k then n * 10 ^ k.toNat else n / 10 ^ (-k).toNat

/-- An unsigned decimal literal. -/
def parseDecimal (cs : List Char) : Option ℚ :=
  let (whole, rest) := cs.span Char.isDigit
  let (frac, rest) := match rest with
    | '.' :: rest => rest.span Char.isDigit
    | rest => ([], rest)
  if whole = [] ∧ frac = [] then none
  else (parseExponent rest).map (fun e => scale10 (natOfDigits (whole ++ frac)) (e - frac.length))

/-- `float(s)`; `none` where it raises `ValueError`. -/
def parse (s : String) : Option PyFloat :=
  match dropUnderscores ' ' (PyStr.stripChars s.toList) with
  | none => none
  | some cs =>
    let (negative, body) := takeSign cs
    let word := body.map Char.toLower
    if word = ['n', 'a', 'n'] then some .nan
    else if word = ['i', 'n', 'f'] ∨ word = ['i', 'n', 'f', 'i', 'n', 'i', 't', 'y'] then
      some (.inf negative)
    else (parseDecimal body).map (fun q => ofRat (if negative then -q else q))

example : parse " -1_2.5e1 " = some (.fin (-125)) := by decide +kernel

example : parse "-1e-400" = some (.fin 0) := by decide +kernel

end PyFloat

/-- What `float()` and `int()` raise on a value they cannot convert. -/
inductive FloatError where
  | typeError
  | valueError
  | overflowError
  deriving DecidableEq

/-- `float(v)`. -/
def PyValue.toFloat : PyValue → Except FloatError PyFloat
  | .float x => .ok x
  | .bool b => .ok (.fin (if b then 1 else 0))
  | .int n => match PyFloat.ofRat n with
    | .fin q => .ok (.fin q)
    | _ => .error .overflowError
  | .str s => match PyFloat.parse s with
    | some x => .ok x
    | Option.none => .error .valueError
  | _ => .error .typeError

/-! ## `int()` -/

namespace PyInt

/-- Drop the underscores of a literal; `none` unless each stands between two digits (`prev` is the
    character before). -/
def dropUnderscores (isDigit : Char → Bool) : Char → List Char → Option (List Char)
  | _, [] => some []
  | prev, c :: cs =>
    if c = '_' then
      match cs with
      | next :: _ => if isDigit prev && isDigit next then dropUnderscores isDigit c cs else none
      | [] => none
    else (dropUnderscores isDigit c cs).map (c :: ·)

variable (py : StrMethods)

/-- `int(s)`; `none` where it raises `ValueError`. -/
def parse (s : String) : Option ℤ :=
  let (negative, body) := PyFloat.takeSign (PyStr.stripChars s.toList)
  match dropUnderscores (fun c => (py.decimal c).isSome) ' ' body with
  | none => none
  | some digits =>
    if digits = [] then none
    else (intOfDigits py digits).map (fun (n : ℕ) => if negative then -(n : ℤ) else (n : ℤ))

example : parse .ascii " -1_2 " = some (-12) := by decide +kernel

theorem dropUnderscores_of_not_mem {isDigit : Char → Bool} {cs : List Char} (h : '_' ∉ cs)
    (prev : Char) : dropUnderscores isDigit prev cs = some cs := by
  induction cs generalizing prev with
  | nil => rfl
  | cons c cs ih =>
    rw [List.mem_cons, not_or] at h
    rw [dropUnderscores.eq_def]
    simp only [if_neg (Ne.symm h.1), ih h.2 c, Option.map_some]

theorem intOfDigits_digits {cs : List Char} (hlength : cs.length ≤ 4300)
    (hcs : ∀ c ∈ cs, c.isDigit = true) : intOfDigits py cs = some (Nat.ofDigitChars 10 cs 0) := by
  rw [intOfDigits, if_neg (Nat.not_lt.2 hlength)]
  clear hlength
  generalize 0 = n
  induction cs generalizing n with
  | nil => rfl
  | cons c cs ih =>
    rw [List.foldl_cons, py.decimal_ascii c (hcs c List.mem_cons_self)]
    exact ih (fun d hd => hcs d (List.mem_cons_of_mem c hd)) _

theorem isSpace_of_isDigit {c : Char} (h : c.isDigit = true) : PyStr.isSpace c = false := by
  have hn : 48 ≤ c.toNat ∧ c.toNat ≤ 57 := by
    simpa [Char.isDigit, UInt32.le_iff_toNat_le] using h
  simp [PyStr.isSpace]
  omega

theorem stripChars_digits {cs : List Char} (hcs : ∀ c ∈ cs, c.isDigit = true) :
    PyStr.stripChars cs = cs := by
  have hdrop : ∀ ds : List Char, (∀ c ∈ ds, c.isDigit = true) → ds.dropWhile PyStr.isSpace = ds :=
    by
    intro ds hds
    cases ds with
    | nil => rfl
    | cons d ds => rw [List.dropWhile_cons_of_neg (by
        rw [isSpace_of_isDigit (hds d List.mem_cons_self)]
        decide)]
  rw [PyStr.stripChars, hdrop cs hcs, hdrop _ (fun c hc => hcs c (List.mem_reverse.1 hc)),
    List.reverse_reverse]

/-- A string of one or more ASCII digits. -/
def IsDigits (s : String) : Prop := s ≠ "" ∧ ∀ c ∈ s.toList, c.isDigit = true

instance (s : String) : Decidable (IsDigits s) :=
  @instDecidableAnd _ _ inferInstance (List.decidableBAll _ s.toList)

/-- The number that ASCII digits denote. -/
def digitsValue (s : String) : ℕ := Nat.ofDigitChars 10 s.toList 0

/-- **`int(s)`** of ASCII digits: the number they denote, unless they are more than 4300. -/
theorem parse_digits {s : String} (hs : IsDigits s) :
    parse py s = if s.toList.length > 4300 then none else some (digitsValue s : ℤ) := by
  obtain ⟨hne, hdigits⟩ := hs
  have hsign : PyFloat.takeSign s.toList = (false, s.toList) := by
    cases hds : s.toList with
    | nil => rfl
    | cons d ds =>
      have hd := hdigits d (by rw [hds]; exact List.mem_cons_self)
      rw [PyFloat.takeSign.eq_def]
      split
      · next h =>
          rw [List.cons_eq_cons.1 h |>.1] at hd
          exact absurd hd (by decide)
      · next h =>
          rw [List.cons_eq_cons.1 h |>.1] at hd
          exact absurd hd (by decide)
      · rfl
  have hunderscore : '_' ∉ s.toList := fun h => absurd (hdigits _ h) (by decide)
  have hnil : s.toList ≠ [] := fun h => hne (String.toList_eq_nil_iff.1 h)
  unfold parse
  rw [stripChars_digits hdigits, hsign]
  simp only [dropUnderscores_of_not_mem hunderscore, if_neg hnil, Bool.false_eq_true, if_false]
  by_cases hlength : s.toList.length > 4300
  · rw [if_pos hlength, intOfDigits, if_pos hlength]
    rfl
  · rw [if_neg hlength, intOfDigits_digits py (Nat.not_lt.1 hlength) hdigits]
    rfl

theorem isDigits_toString (n : ℕ) : IsDigits (toString n) := by
  refine ⟨?_, fun c hc => ?_⟩
  · rw [Nat.toString_eq_ofList_toDigits, Ne, ← String.toList_eq_nil_iff, String.toList_ofList]
    exact Nat.toDigits_ne_nil
  · rw [Nat.toString_eq_ofList_toDigits, String.toList_ofList] at hc
    exact Nat.isDigit_of_mem_toDigits (by decide) (by decide) hc

/-- **`int(str(n))`** is `n`, for a number of at most 4300 digits. -/
theorem parse_toString {n : ℕ} (hn : (Nat.toDigits 10 n).length ≤ 4300) :
    parse py (toString n) = some (n : ℤ) := by
  rw [parse_digits py (isDigits_toString n), digitsValue, Nat.toString_eq_ofList_toDigits,
    String.toList_ofList, if_neg (Nat.not_lt.2 hn), Nat.ofDigitChars_ten_toDigits]

end PyInt

/-- `int(v)`; a float loses its fraction. -/
def PyValue.toInt (py : StrMethods) : PyValue → Except FloatError ℤ
  | .int n => .ok n
  | .bool b => .ok (if b then 1 else 0)
  | .float (.fin q) => .ok (q.num.tdiv q.den)
  | .float .nan => .error .valueError
  | .float (.inf _) => .error .overflowError
  | .str s => match PyInt.parse py s with
    | some n => .ok n
    | Option.none => .error .valueError
  | _ => .error .typeError

@[simp] theorem PyValue.toInt_int (py : StrMethods) (n : ℤ) : (PyValue.int n).toInt py = .ok n :=
  rfl
