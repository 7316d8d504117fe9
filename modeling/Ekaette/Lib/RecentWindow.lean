import Mathlib.Data.List.Infix

set_option autoImplicit false

/-! # A bounded memory of recent ids

Ids are recorded one after the other; when more than `cap` are remembered, all but the `keep` newest
are forgotten. What is remembered is always a final segment of what was recorded, and its length
depends only on how many ids were recorded. -/

universe u

namespace RecentWindow

variable {α : Type u}

/-- Forget all but the `keep` newest ids when there are more than `cap`. -/
def cut (cap keep : ℕ) (memory : List α) : List α :=
  if memory.length > cap then memory.drop (memory.length - keep) else memory

/-- What is remembered of the recorded ids, oldest first. -/
def remembered (cap keep : ℕ) (ids : List α) : List α :=
  ids.foldl (fun memory id => cut cap keep (memory ++ [id])) []

/-- How many of `n` recorded ids are remembered. -/
def windowSize (cap keep : ℕ) : ℕ → ℕ
  | 0 => 0
  | n + 1 => if windowSize cap keep n + 1 > cap then keep else windowSize cap keep n + 1

@[simp] theorem remembered_nil (cap keep : ℕ) : remembered cap keep ([] : List α) = [] := rfl

theorem remembered_concat (cap keep : ℕ) (ids : List α) (id : α) :
    remembered cap keep (ids ++ [id]) = cut cap keep (remembered cap keep ids ++ [id]) := by
  rw [remembered, List.foldl_append]
  rfl

/-! ## The window -/

/-- Nothing is forgotten up to the cap. -/
theorem windowSize_of_le {cap n : ℕ} (keep : ℕ) (h : n ≤ cap) : windowSize cap keep n = n := by
  induction n with
  | zero => rfl
  | succ n ih => rw [windowSize, ih (by omega), if_neg (by omega)]

variable {cap keep : ℕ}

theorem windowSize_le (hkeep : keep ≤ cap) (n : ℕ) : windowSize cap keep n ≤ n := by
  induction n with
  | zero => exact Nat.le_refl 0
  | succ n ih =>
    rw [windowSize]
    split_ifs with hfull
    · omega
    · omega

/-- **The remembered ids are the newest ones**, as many as the window holds. -/
theorem remembered_eq_drop (hkeep : keep ≤ cap) (ids : List α) :
    remembered cap keep ids = ids.drop (ids.length - windowSize cap keep ids.length) := by
  induction ids using List.reverseRecOn with
  | nil => rfl
  | append_singleton ids id ih =>
    have hwindow := windowSize_le hkeep ids.length
    have hlength : (remembered cap keep ids ++ [id]).length = windowSize cap keep ids.length + 1 :=
      by
      rw [List.length_append, ih, List.length_drop, List.length_singleton]
      omega
    -- the memory before the cut is a final segment of what was recorded
    have hsegment : remembered cap keep ids ++ [id]
        = (ids ++ [id]).drop (ids.length - windowSize cap keep ids.length) := by
      rw [List.drop_append_of_le_length (by omega), ih]
    rw [remembered_concat, cut, hlength, List.length_append, List.length_singleton, windowSize]
    split_ifs with hfull
    · rw [hsegment, List.drop_drop]
      congr 1
      omega
    · rw [hsegment]
      congr 1
      omega

/-- An id is remembered as long as fewer ids than the window holds were recorded after it. -/
theorem mem_remembered (hkeep : keep ≤ cap) {before recent : List α} {id : α}
    (h : recent.length < windowSize cap keep (before ++ id :: recent).length) :
    id ∈ remembered cap keep (before ++ id :: recent) := by
  rw [remembered_eq_drop hkeep]
  have hwindow := windowSize_le hkeep (before ++ id :: recent).length
  rw [List.length_append, List.length_cons] at h hwindow ⊢
  rw [List.drop_append_of_le_length (by omega)]
  exact List.mem_append_right _ List.mem_cons_self

/-- It is forgotten as soon as the window is filled by newer ids. -/
theorem not_mem_remembered (hkeep : keep ≤ cap) {before recent : List α} {id : α}
    (hrecent : id ∉ recent)
    (h : windowSize cap keep (before ++ id :: recent).length ≤ recent.length) :
    id ∉ remembered cap keep (before ++ id :: recent) := by
  rw [remembered_eq_drop hkeep]
  have hwindow := windowSize_le hkeep (before ++ id :: recent).length
  rw [List.length_append, List.length_cons] at h hwindow ⊢
  rw [show before ++ id :: recent = (before ++ [id]) ++ recent by simp,
    List.drop_append, List.drop_eq_nil_of_le (by simp; omega), List.nil_append]
  exact fun hmem => hrecent (List.mem_of_mem_drop hmem)

theorem remembered_subset (hkeep : keep ≤ cap) {ids : List α} {id : α}
    (h : id ∈ remembered cap keep ids) : id ∈ ids := by
  rw [remembered_eq_drop hkeep] at h
  exact List.mem_of_mem_drop h

end RecentWindow
