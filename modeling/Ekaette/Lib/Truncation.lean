import Mathlib.Analysis.Convex.Segment
import Mathlib.Data.Rat.Floor

set_option autoImplicit false

/-! # Truncation

Truncation of a fraction towards zero. It rounds down on one side of zero and up on the other, so it
stays between any two integers that the fraction lies between; so does a truncated weighted mean of
two integers. -/

namespace Truncation

/-- The integer part of a fraction, towards zero. -/
def truncate (q : ℚ) : ℤ := q.num.tdiv q.den

theorem truncate_of_nonneg {q : ℚ} (h : 0 ≤ q) : truncate q = ⌊q⌋ := by
  rw [truncate, Int.tdiv_eq_ediv_of_nonneg (Rat.num_nonneg.2 h), Rat.floor_def']

theorem truncate_neg (q : ℚ) : truncate (-q) = -truncate q := by
  rw [truncate, Rat.num_neg_eq_neg_num, Rat.den_neg_eq_den, Int.neg_tdiv, truncate]

theorem truncate_of_nonpos {q : ℚ} (h : q ≤ 0) : truncate q = ⌈q⌉ := by
  have hneg := truncate_of_nonneg (neg_nonneg.2 h)
  rw [truncate_neg, Int.floor_neg] at hneg
  exact neg_injective hneg

@[simp] theorem truncate_intCast (k : ℤ) : truncate k = k := by
  rw [truncate, Rat.num_intCast, Rat.den_intCast, Nat.cast_one, Int.tdiv_one]

/-- The integer part of a quotient. -/
theorem truncate_div (a : ℤ) (b : ℕ) : truncate ((a : ℚ) / b) = a.tdiv b := by
  have hpos : ∀ k : ℕ, truncate ((k : ℚ) / b) = (k : ℤ).tdiv b := by
    intro k
    have hfloor := Rat.floor_intCast_div_natCast k b
    rw [Int.cast_natCast] at hfloor
    rw [truncate_of_nonneg (by positivity), hfloor,
      Int.tdiv_eq_ediv_of_nonneg (Int.natCast_nonneg k)]
  obtain ⟨k, rfl | rfl⟩ := a.eq_nat_or_neg
  · rw [Int.cast_natCast, hpos]
  · rw [Int.cast_neg, Int.cast_natCast, neg_div, truncate_neg, hpos, Int.neg_tdiv]

theorem truncate_mono {q r : ℚ} (h : q ≤ r) : truncate q ≤ truncate r := by
  rcases le_total 0 q with hq | hq
  · rw [truncate_of_nonneg hq, truncate_of_nonneg (hq.trans h)]
    exact Int.floor_le_floor h
  rcases le_total r 0 with hr | hr
  · rw [truncate_of_nonpos hq, truncate_of_nonpos hr]
    exact Int.ceil_le_ceil h
  · -- zero lies between the two
    rw [truncate_of_nonpos hq, truncate_of_nonneg hr]
    exact (Int.ceil_le.2 (by exact_mod_cast hq)).trans (Int.floor_nonneg.2 hr)

/-- **Truncation stays between** two integers. -/
theorem truncate_mem_uIcc {q : ℚ} {a b : ℤ} (h : q ∈ Set.uIcc (a : ℚ) b) :
    truncate q ∈ Set.uIcc a b := by
  rw [Set.uIcc, Set.mem_Icc, ← Int.cast_min, ← Int.cast_max] at h
  have hlow := truncate_mono h.1
  have hhigh := truncate_mono h.2
  rw [truncate_intCast] at hlow hhigh
  exact ⟨hlow, hhigh⟩

/-- **A truncated mean** of two integers lies between them. -/
theorem truncate_mean_mem_uIcc (a b : ℤ) {weight : ℚ} (h₀ : 0 ≤ weight) (h₁ : weight ≤ 1) :
    truncate (a * (1 - weight) + b * weight) ∈ Set.uIcc a b := by
  apply truncate_mem_uIcc
  rw [← segment_eq_uIcc]
  refine ⟨1 - weight, weight, sub_nonneg.2 h₁, h₀, sub_add_cancel 1 weight, ?_⟩
  rw [smul_eq_mul, smul_eq_mul, mul_comm _ (a : ℚ), mul_comm _ (b : ℚ)]

/-- A list worked through with a partial function that is defined on its items: what it gives is
    related to the list item by item. -/
theorem mapM_forall₂ {α β γ : Type*} {f : α → Option γ} {g : β → γ} {R : α → β → Prop} {l : List α}
    (h : ∀ a ∈ l, ∃ b, f a = some (g b) ∧ R a b) : ∃ out, l.mapM f = some (out.map g) ∧
    List.Forall₂ R l out := by
  induction l with
  | nil => exact ⟨[], rfl, .nil⟩
  | cons a l ih =>
    obtain ⟨⟨b, hb, hR⟩, hl⟩ := List.forall_mem_cons.1 h
    obtain ⟨out, hout, hrelated⟩ := ih hl
    refine ⟨b :: out, ?_, .cons hR hrelated⟩
    rw [List.mapM_cons, hb, hout]
    rfl

/-- What is related to the first numbers has an item for each of them, at its index. -/
theorem forall₂_range {β : Type*} {R : ℕ → β → Prop} {n : ℕ} {out : List β}
    (h : List.Forall₂ R (List.range n) out) : out.length = n ∧ ∀ i v, out[i]? = some v → R i v := by
  have hlength : (List.range n).length = out.length := h.length_eq
  refine ⟨by rw [← hlength, List.length_range], fun i v hv => ?_⟩
  obtain ⟨hi, rfl⟩ := List.getElem?_eq_some_iff.1 hv
  have hat := (List.forall₂_iff_get.1 h).2 i (by rwa [hlength]) hi
  rwa [List.get_eq_getElem, List.getElem_range] at hat

end Truncation
