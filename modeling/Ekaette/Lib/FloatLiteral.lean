import Ekaette.Lib.PyNumber

set_option autoImplicit false

/-! # The characters of float literals

`float(s)` turns the decimal digits of every script into ASCII digits before it reads a literal.
Whatever the digits, no literal contains a colon. -/

namespace PyFloat

/-- The ASCII digit of a decimal digit; other characters stay. -/
def asciiDigit (py : StrMethods) (c : Char) : Char :=
  match py.decimal c with
  | some d => Nat.digitChar d
  | none => c

/-- `float(s)` with the decimal digits of every script; `none` where it raises `ValueError`. -/
def parseText (py : StrMethods) (s : String) : Option PyFloat :=
  parse (String.ofList (s.toList.map (asciiDigit py)))

theorem mem_dropUnderscores {c : Char} (hc : c ≠ '_') {cs ds : List Char} {prev : Char}
    (h : dropUnderscores prev cs = some ds) (hmem : c ∈ cs) : c ∈ ds := by
  induction cs generalizing prev ds with
  | nil => cases hmem
  | cons d cs ih =>
    unfold dropUnderscores at h
    split at h
    · next hnil => cases hnil
    · next hcons =>
        obtain ⟨rfl, rfl⟩ := List.cons.inj hcons
        have hrest := (List.mem_cons.1 hmem).resolve_left hc
        split at h
        · split at h
          · exact ih h hrest
          · cases h
        · cases h
    · next hcons =>
        obtain ⟨rfl, rfl⟩ := List.cons.inj hcons
        obtain ⟨es, hes, rfl⟩ := Option.map_eq_some_iff.1 h
        rcases List.mem_cons.1 hmem with rfl | hrest
        · exact List.mem_cons_self
        · exact List.mem_cons_of_mem _ (ih hes hrest)

theorem mem_takeSign {c : Char} (hplus : c ≠ '+') (hminus : c ≠ '-') {cs : List Char} (h : c ∈ cs) :
    c ∈ (takeSign cs).2 := by
  unfold takeSign
  split
  · exact (List.mem_cons.1 h).resolve_left hminus
  · exact (List.mem_cons.1 h).resolve_left hplus
  · exact h

theorem mem_span_digits {c : Char} (hc : c.isDigit = false) {cs : List Char} (h : c ∈ cs) :
    c ∈ (cs.span Char.isDigit).2 := by
  rw [List.span_eq_takeWhile_dropWhile]
  rw [← List.takeWhile_append_dropWhile (p := Char.isDigit) (l := cs), List.mem_append] at h
  rcases h with htaken | hleft
  · rw [List.mem_takeWhile_imp htaken] at hc
    cases hc
  · exact hleft

theorem colon_not_mem_exponent {cs : List Char} {e : ℤ} (h : parseExponent cs = some e) :
    ':' ∉ cs := by
  intro hmem
  cases cs with
  | nil => cases hmem
  | cons c cs =>
    unfold parseExponent at h
    dsimp only at h
    split at h
    · next hexponent =>
        obtain ⟨hletter, -, hdigits⟩ := hexponent
        rcases List.mem_cons.1 hmem with rfl | hrest
        · exact absurd hletter (by decide)
        · have hcolon := List.all_eq_true.1 hdigits ':' (mem_takeSign (by decide) (by decide) hrest)
          exact absurd hcolon (by decide)
    · cases h

theorem colon_not_mem_decimal {cs : List Char} {q : ℚ} (h : parseDecimal cs = some q) :
    ':' ∉ cs := by
  intro hmem
  have hrest : ':' ∈ (cs.span Char.isDigit).2 := mem_span_digits (by decide) hmem
  unfold parseDecimal at h
  dsimp only at h
  generalize (cs.span Char.isDigit).2 = rest at h hrest
  split at h
  · next rest =>
      split at h
      · cases h
      · obtain ⟨e, he, -⟩ := Option.map_eq_some_iff.1 h
        exact colon_not_mem_exponent he
          (mem_span_digits (by decide) ((List.mem_cons.1 hrest).resolve_left (by decide)))
  · split at h
    · cases h
    · obtain ⟨e, he, -⟩ := Option.map_eq_some_iff.1 h
      exact colon_not_mem_exponent he hrest

/-- **No colon** stands in a text that `float()` accepts. -/
theorem colon_not_mem_of_parse {s : String} (h : parse s ≠ none) : ':' ∉ s.toList := by
  intro hmem
  unfold parse at h
  cases hdrop : dropUnderscores ' ' (PyStr.stripChars s.toList) with
  | none =>
    rw [hdrop] at h
    exact h rfl
  | some cs =>
    rw [hdrop] at h
    have hbody : ':' ∈ (takeSign cs).2 :=
      mem_takeSign (by decide) (by decide)
        (mem_dropUnderscores (by decide) hdrop (PyStr.mem_stripChars (by decide) hmem))
    have hword : ':' ∈ (takeSign cs).2.map Char.toLower := List.mem_map.2 ⟨':', hbody, by decide⟩
    have hspelled : ∀ word : List Char, ':' ∉ word → (takeSign cs).2.map Char.toLower ≠ word := by
      rintro word hno rfl
      exact hno hword
    dsimp only at h
    rw [if_neg (hspelled _ (by decide)),
      if_neg (not_or.2 ⟨hspelled _ (by decide), hspelled _ (by decide)⟩)] at h
    cases hdecimal : parseDecimal (takeSign cs).2 with
    | none =>
      rw [hdecimal] at h
      exact h rfl
    | some q => exact colon_not_mem_decimal hdecimal hbody

theorem colon_not_mem_of_parseText {py : StrMethods} {s : String} (h : parseText py s ≠ none) :
    ':' ∉ s.toList := by
  intro hmem
  have hcolon : asciiDigit py ':' = ':' := by
    rw [asciiDigit, py.decimal_ascii_none ':' (by decide) (by decide)]
  have hmapped := colon_not_mem_of_parse h
  rw [String.toList_ofList] at hmapped
  exact hmapped (List.mem_map.2 ⟨':', hmem, hcolon⟩)

end PyFloat
