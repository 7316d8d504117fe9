import Mathlib.Data.List.DropRight
import Mathlib.Data.List.Infix

set_option autoImplicit false

/-! # Words

The words of a text are what stands between its blanks. Two texts with the same words are equal up
to their blanks. Nothing is known of the characters but which of them are blank. -/

namespace Words

universe u

variable {α : Type u} (blank : α → Bool)

/-- The words of a text. -/
def words (l : List α) : List (List α) := (l.splitOnP blank).filter (!·.isEmpty)

/-- The characters that are not blank. -/
def glyphs (l : List α) : List α := l.filter (!blank ·)

/-- The text without the blanks at its ends. -/
def trim (l : List α) : List α := (l.dropWhile blank).rdropWhile blank

section

variable {blank}

@[simp] theorem words_nil : words blank [] = [] := by simp [words]

/-- A blank separates. -/
theorem words_append_cons {x : α} (hx : blank x = true) (l r : List α) :
    words blank (l ++ x :: r) = words blank l ++ words blank r := by
  rw [words, List.splitOnP_append_cons l r hx, List.filter_append]
  rfl

theorem words_cons {x : α} (hx : blank x = true) (l : List α) :
    words blank (x :: l) = words blank l := by
  have h := words_append_cons hx [] l
  rwa [List.nil_append, words_nil, List.nil_append] at h

theorem words_blank_append {s : List α} (hs : ∀ x ∈ s, blank x = true) (l : List α) :
    words blank (s ++ l) = words blank l := by
  induction s with
  | nil => rfl
  | cons x s ih =>
    rw [List.cons_append, words_cons (hs x List.mem_cons_self), ih fun y hy =>
      hs y (List.mem_cons_of_mem x hy)]

/-- Blanks between two texts. -/
theorem words_append_blank {s : List α} (hne : s ≠ []) (hs : ∀ x ∈ s, blank x = true)
    (l r : List α) : words blank (l ++ (s ++ r)) = words blank l ++ words blank r := by
  cases s with
  | nil => exact absurd rfl hne
  | cons x s =>
    rw [List.cons_append, words_append_cons (hs x List.mem_cons_self),
      words_blank_append fun y hy => hs y (List.mem_cons_of_mem x hy)]

/-- **The glyphs of the words** are those of the text. -/
theorem flatten_words (l : List α) : (words blank l).flatten = glyphs blank l := by
  have hfilter : ∀ parts : List (List α), (parts.filter (!·.isEmpty)).flatten = parts.flatten := by
    intro parts
    induction parts with
    | nil => rfl
    | cons part parts ih =>
      cases part with
      | nil => simpa using ih
      | cons x xs => simpa using ih
  rw [words, hfilter]
  induction l with
  | nil => rfl
  | cons x l ih =>
    rw [List.splitOnP_cons_eq_if_modifyHead]
    by_cases hx : blank x = true
    · rw [if_pos hx, List.flatten_cons, List.nil_append, ih, glyphs, glyphs,
        List.filter_cons_of_neg (by simp [hx])]
    · have hne := List.splitOnP_ne_nil blank l
      rw [if_neg hx, glyphs, List.filter_cons_of_pos (by simpa using hx), ← glyphs, ← ih]
      cases hparts : l.splitOnP blank with
      | nil => exact absurd hparts hne
      | cons part parts => rfl

theorem glyphs_append (l r : List α) : glyphs blank (l ++ r) = glyphs blank l ++ glyphs blank r :=
  List.filter_append ..

theorem glyphs_eq_nil_iff {l : List α} : glyphs blank l = [] ↔ ∀ x ∈ l, blank x = true := by
  simp [glyphs, List.filter_eq_nil_iff]

theorem glyphs_dropWhile (l : List α) : glyphs blank (l.dropWhile blank) = glyphs blank l := by
  have hblank : glyphs blank (l.takeWhile blank) = [] :=
    glyphs_eq_nil_iff.2 fun x hx => List.mem_takeWhile_imp hx
  calc glyphs blank (l.dropWhile blank) = glyphs blank (l.takeWhile blank ++ l.dropWhile blank) :=
    by
        rw [glyphs_append, hblank, List.nil_append]
    _ = glyphs blank l := by rw [List.takeWhile_append_dropWhile]

theorem glyphs_reverse (l : List α) : glyphs blank l.reverse = (glyphs blank l).reverse :=
  List.filter_reverse ..

@[simp] theorem glyphs_trim (l : List α) : glyphs blank (trim blank l) = glyphs blank l := by
  rw [trim, List.rdropWhile, glyphs_reverse, glyphs_dropWhile, glyphs_reverse, List.reverse_reverse,
    glyphs_dropWhile]

/-- **Nothing is left** of a blank text when it is trimmed. -/
theorem trim_eq_nil_iff {l : List α} : trim blank l = [] ↔ ∀ x ∈ l, blank x = true := by
  constructor
  · intro h
    rw [← glyphs_eq_nil_iff, ← glyphs_trim, h]
    rfl
  · intro h
    rw [trim, List.dropWhile_eq_nil_iff.2 h]
    rfl

theorem glyphs_ne_nil_of_trim {l : List α} (h : trim blank l ≠ []) : glyphs blank l ≠ [] := by
  intro hnone
  exact h (trim_eq_nil_iff.2 (glyphs_eq_nil_iff.1 hnone))

end

end Words
