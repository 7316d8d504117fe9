import Ekaette.Lib.PyValue
import Mathlib.Data.List.DropRight
import Mathlib.Data.List.Infix

set_option autoImplicit false

/-! # String methods

Trimming is defined in full. What depends on the Unicode tables (`lower`, digits) or on how floats
and containers print is a parameter: a `StrMethods` record supplies it, and results hold for every
such record. `StrMethods.ascii` is the one that is right on ASCII input. -/

namespace PyStr

/-- The characters `str.strip()` removes. -/
def isSpace (c : Char) : Bool :=
  let n := c.toNat
  (9 ≤ n && n ≤ 13) || (28 ≤ n && n ≤ 32) || n == 133 || n == 160 || n == 5760 ||
    (8192 ≤ n && n ≤ 8202) || n == 8232 || n == 8233 || n == 8239 || n == 8287 || n == 12288

/-- Drop the blanks at both ends of a character list. -/
def stripChars (cs : List Char) : List Char :=
  ((cs.dropWhile isSpace).reverse.dropWhile isSpace).reverse

/-- `s.strip()`. -/
def strip (s : String) : String := String.ofList (stripChars s.toList)

@[simp] theorem strip_strip (s : String) : strip (strip s) = strip s := by
  -- what is left after dropping at the end still starts with a character that is no blank
  have hhead : ∀ cs : List Char, (cs.dropWhile isSpace = cs) →
      (cs.rdropWhile isSpace).dropWhile isSpace = cs.rdropWhile isSpace := by
    intro cs hcs
    rw [List.dropWhile_eq_self_iff] at hcs ⊢
    intro hlength
    have hpre := List.rdropWhile_prefix isSpace (l := cs)
    rw [hpre.getElem hlength]
    exact hcs (hlength.trans_le hpre.length_le)
  have hchars : ∀ cs : List Char, stripChars cs = (cs.dropWhile isSpace).rdropWhile isSpace :=
    fun _ => rfl
  rw [strip, strip, String.toList_ofList, hchars, hchars,
    hhead _ (List.dropWhile_idempotent (p := isSpace) (l := s.toList)), List.rdropWhile_idempotent]

theorem stripChars_cons_space (cs : List Char) : stripChars (' ' :: cs) = stripChars cs := rfl

/-- A text without a blank at either end. -/
theorem stripChars_eq_self {cs : List Char} (hhead : ∀ c, cs.head? = some c → isSpace c = false)
    (hlast : ∀ c, cs.getLast? = some c → isSpace c = false) : stripChars cs = cs := by
  have hdrop : ∀ ds : List Char, (∀ c, ds.head? = some c → isSpace c = false) →
      ds.dropWhile isSpace = ds := by
    intro ds hds
    cases ds with
    | nil => rfl
    | cons d ds => exact List.dropWhile_cons_of_neg (by rw [hds d rfl]; decide)
  rw [stripChars, hdrop cs hhead,
    hdrop cs.reverse (fun c hc => hlast c (by rw [← List.head?_reverse, hc])), List.reverse_reverse]

theorem mem_of_mem_stripChars {c : Char} {cs : List Char} (h : c ∈ stripChars cs) : c ∈ cs := by
  rw [stripChars, List.mem_reverse] at h
  exact (List.dropWhile_sublist _).mem (List.mem_reverse.1 ((List.dropWhile_sublist _).mem h))

/-- A character that is no blank survives trimming. -/
theorem mem_stripChars {c : Char} {cs : List Char} (hc : isSpace c = false) (h : c ∈ cs) :
    c ∈ stripChars cs := by
  have hdrop : ∀ ds : List Char, c ∈ ds → c ∈ ds.dropWhile isSpace := by
    intro ds hds
    rw [← List.takeWhile_append_dropWhile (p := isSpace) (l := ds), List.mem_append] at hds
    rcases hds with htaken | hleft
    · rw [List.mem_takeWhile_imp htaken] at hc
      cases hc
    · exact hleft
  rw [stripChars, List.mem_reverse]
  exact hdrop _ (List.mem_reverse.2 (hdrop cs h))

/-- A text with a character that is no blank is not blank. -/
theorem strip_ne_empty_of_mem {s : String} {c : Char} (hc : isSpace c = false) (h : c ∈ s.toList) :
    strip s ≠ "" := by
  intro hempty
  have hmem := mem_stripChars hc h
  rw [← String.toList_ofList (l := stripChars s.toList), ← strip, hempty] at hmem
  cases hmem

/-- `s.split(c)` for a one-character separator. -/
def split (c : Char) (s : String) : List String := (s.toList.splitOn c).map String.ofList

/-- Splitting what was joined with the separator gives the parts back. -/
theorem split_intercalate (c : Char) (parts : List (List Char)) (hparts : ∀ l ∈ parts, c ∉ l)
    (hne : parts ≠ []) :
    split c (String.ofList ([c].intercalate parts)) = parts.map String.ofList := by
  rw [split, String.toList_ofList, List.splitOn_intercalate c hparts hne]

/-- Two ways to read one text as a head, a separator and a tail: they are the same, or one head
    takes a separator of the other's tail with it. -/
theorem append_separator_eq_iff {l l' r r' : List Char} (c : Char) :
    l ++ c :: r = l' ++ c :: r' ↔
      (l = l' ∧ r = r') ∨ (∃ m, l = l' ++ c :: m ∧ r' = m ++ c :: r) ∨
        ∃ m, l' = l ++ c :: m ∧ r = m ++ c :: r' := by
  constructor
  · intro h
    rcases List.append_eq_append_iff.1 h with ⟨m, hl, hr⟩ | ⟨m, hl, hr⟩
    · cases m with
      | nil => exact .inl ⟨by simpa using hl.symm, by simpa using hr⟩
      | cons x m =>
        rw [List.cons_append, List.cons_eq_cons] at hr
        obtain ⟨rfl, hr⟩ := hr
        exact .inr (.inr ⟨m, hl, hr⟩)
    · cases m with
      | nil => exact .inl ⟨by simpa using hl, by simpa using hr.symm⟩
      | cons x m =>
        rw [List.cons_append, List.cons_eq_cons] at hr
        obtain ⟨rfl, hr⟩ := hr
        exact .inr (.inl ⟨m, hl, hr⟩)
  · rintro (⟨rfl, rfl⟩ | ⟨m, rfl, rfl⟩ | ⟨m, rfl, rfl⟩)
    · rfl
    · simp
    · simp

/-- `sub in s`. -/
def contains (sub s : String) : Bool := decide (sub.toList <:+: s.toList)

/-- The parts of a text before and behind the first occurrence of a separator. -/
def splitFirst (sep : List Char) : List Char → Option (List Char × List Char)
  | [] => if sep = [] then some ([], []) else none
  | c :: cs =>
    if sep <+: c :: cs then some ([], (c :: cs).drop sep.length)
    else (splitFirst sep cs).map (fun parts => (c :: parts.1, parts.2))

theorem splitFirst_append {c : Char} {l : List Char} (hl : c ∉ l) (r : List Char) :
    splitFirst [c] (l ++ c :: r) = some (l, r) := by
  induction l with
  | nil => rw [List.nil_append, splitFirst, if_pos (by simp)]; rfl
  | cons x l ih =>
    rw [List.mem_cons, not_or] at hl
    rw [List.cons_append, splitFirst, if_neg (by simp [hl.1]), ih hl.2]
    rfl

/-- The parts and the separator are the text. -/
theorem splitFirst_eq_none_iff (c : Char) (l : List Char) : splitFirst [c] l = none ↔ c ∉ l := by
  induction l with
  | nil => simp [splitFirst]
  | cons d l ih =>
    rw [splitFirst, List.mem_cons, not_or]
    by_cases hd : d = c
    · rw [if_pos (by simp [hd])]
      exact iff_of_false (by simp) (fun h => h.1 hd.symm)
    · have hpre : ¬ [c] <+: d :: l := by
        intro h
        exact hd (List.cons_prefix_cons.1 h).1.symm
      rw [if_neg hpre, Option.map_eq_none_iff, ih]
      exact (and_iff_right (fun h => hd h.symm)).symm

theorem splitFirst_eq_some {sep cs l r : List Char} (h : splitFirst sep cs = some (l, r)) :
    cs = l ++ sep ++ r := by
  induction cs generalizing l with
  | nil =>
    rw [splitFirst] at h
    split_ifs at h with hsep
    obtain ⟨rfl, rfl⟩ := Prod.mk.inj (Option.some_inj.1 h)
    rw [hsep]
    rfl
  | cons c cs ih =>
    rw [splitFirst] at h
    split_ifs at h with hpre
    · obtain ⟨rfl, rfl⟩ := Prod.mk.inj (Option.some_inj.1 h)
      exact (List.prefix_append_drop hpre)
    · obtain ⟨⟨l', r'⟩, hsplit, heq⟩ := Option.map_eq_some_iff.1 h
      obtain ⟨rfl, rfl⟩ := Prod.mk.inj heq
      rw [ih hsplit]
      rfl

theorem stripChars_infix (cs : List Char) : stripChars cs <:+: cs := by
  have hinner := List.dropWhile_suffix isSpace (l := cs)
  have houter := List.dropWhile_suffix isSpace (l := (cs.dropWhile isSpace).reverse)
  rw [← List.reverse_prefix, List.reverse_reverse] at houter
  exact houter.isInfix.trans hinner.isInfix

/-- The parts between the first `n` occurrences of a separator. -/
def splitN (sep : List Char) : ℕ → List Char → List (List Char)
  | 0, cs => [cs]
  | n + 1, cs =>
    match splitFirst sep cs with
    | none => [cs]
    | some (part, rest) => part :: splitN sep n rest

/-- `s.split(sep)` for a separator that is not empty. -/
def splitAll (sep s : String) : List String :=
  (splitN sep.toList s.length s.toList).map String.ofList

example : splitAll "\r\n" "a\r\nb\r\n" = ["a", "b", ""] := by decide +kernel

end PyStr

/-- All characters are ASCII. -/
def PyStr.IsAscii (s : String) : Prop := ∀ c ∈ s.toList, c.toNat < 128

instance (s : String) : Decidable (PyStr.IsAscii s) :=
  List.decidableBAll _ s.toList

theorem PyStr.forall_ascii {P : Char → Prop} (h : ∀ n : Fin 128, P (Char.ofNat n)) {c : Char}
    (hc : c.toNat < 128) : P c := by
  have hn := h ⟨c.toNat, hc⟩
  rwa [Char.ofNat_toNat] at hn

/-- The string library as far as it rests on Unicode tables and on the printing of values; on ASCII
    it is fixed. -/
structure StrMethods where
  /-- `s.lower()` -/
  lower : String → String
  lower_ascii : ∀ s, PyStr.IsAscii s → lower s = String.ofList (s.toList.map Char.toLower)
  /-- `s.upper()` -/
  upper : String → String
  /-- `c.isdigit()` -/
  isDigit : Char → Bool
  isDigit_ascii : ∀ c : Char, c.toNat < 128 → isDigit c = c.isDigit
  /-- the characters of the pattern class w: letters, digits, underscore -/
  isWord : Char → Bool
  isWord_ascii : ∀ c : Char, c.toNat < 128 → isWord c = (c.isAlphanum || c = '_')
  /-- the value `int()` gives a digit character; `none` where `int()` raises -/
  decimal : Char → Option ℕ
  decimal_ascii : ∀ c : Char, c.isDigit → decimal c = some (c.toNat - '0'.toNat)
  decimal_ascii_none : ∀ c : Char, c.toNat < 128 → c.isDigit = false → decimal c = none
  /-- `str(v)` of a float, a list or a dictionary -/
  repr : PyValue → String

/-- The string library on ASCII strings. -/
def StrMethods.ascii : StrMethods where
  lower s := String.ofList (s.toList.map Char.toLower)
  lower_ascii _ _ := rfl
  upper s := String.ofList (s.toList.map Char.toUpper)
  isDigit := Char.isDigit
  isDigit_ascii _ _ := rfl
  isWord c := c.isAlphanum || c = '_'
  isWord_ascii _ _ := rfl
  decimal c := if c.isDigit then some (c.toNat - '0'.toNat) else none
  decimal_ascii _ h := if_pos h
  decimal_ascii_none _ _ h := if_neg (by simp [h])
  repr _ := ""

/-- Only ASCII letters have another lower case here. -/
theorem toLower_eq_self {c : Char} (hc : ¬ c.toNat < 128) : c.toLower = c := by
  have hupper : ¬ (c.val ≥ 'A'.val ∧ c.val ≤ 'Z'.val) := by
    rintro ⟨-, hz⟩
    have hz' : c.toNat ≤ 'Z'.toNat := UInt32.le_iff_toNat_le.1 hz
    have hZ : 'Z'.toNat = 90 := by decide
    omega
  exact dif_neg hupper

/-- Folding the case and trimming commute. -/
theorem StrMethods.strip_lower_ascii (s : String) :
    PyStr.strip (StrMethods.ascii.lower s) = StrMethods.ascii.lower (PyStr.strip s) := by
  have hspace : PyStr.isSpace ∘ Char.toLower = PyStr.isSpace := by
    funext c
    show PyStr.isSpace c.toLower = PyStr.isSpace c
    by_cases hc : c.toNat < 128
    · exact PyStr.forall_ascii (P := fun c => PyStr.isSpace c.toLower = PyStr.isSpace c)
        (by decide +kernel) hc
    · rw [toLower_eq_self hc]
  have hmap : ∀ cs : List Char,
      PyStr.stripChars (cs.map Char.toLower) = (PyStr.stripChars cs).map Char.toLower := by
    intro cs
    rw [PyStr.stripChars, List.dropWhile_map, hspace, ← List.map_reverse, List.dropWhile_map,
      hspace, ← List.map_reverse, PyStr.stripChars]
  show PyStr.strip (String.ofList (s.toList.map Char.toLower)) =
    String.ofList ((PyStr.strip s).toList.map Char.toLower)
  rw [PyStr.strip, PyStr.strip, String.toList_ofList, String.toList_ofList, hmap]

/-- `str(v)`. -/
def PyValue.toStr (py : StrMethods) : PyValue → String
  | .none => "None"
  | .bool true => "True"
  | .bool false => "False"
  | .int n => toString n
  | .str s => s
  | v => py.repr v

/-- `value.strip() if isinstance(value, str) else ""`. -/
def PyValue.coerceStr : PyValue → String
  | .str s => PyStr.strip s
  | _ => ""

/-- `int(s)` of a string of digits; at most 4300 digits are converted. -/
def intOfDigits (py : StrMethods) (cs : List Char) : Option ℕ :=
  if cs.length > 4300 then none
  else cs.foldl (fun n c => match n, py.decimal c with
    | some n, some d => some (10 * n + d)
    | _, _ => none) (some 0)
