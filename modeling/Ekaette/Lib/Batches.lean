import Mathlib.Algebra.GroupWithZero.Nat
import Mathlib.Data.List.Basic

set_option autoImplicit false

/-! # Batches

A list that is worked through in batches: `for start in range(0, len(l), size)` with the slices
`l[start : start + size]`. What a batch does to a state, and a count of what has been done, are
those of the whole list. A stream is cut into batches by a buffer that is handed out whenever it is
full. -/

namespace Batches

universe u v

variable {α : Type u} {σ : Type v}

/-- The slices from `start` on, as many as the fuel allows. -/
def slicesFrom (size : ℕ) (l : List α) : ℕ → ℕ → List (List α)
  | 0, _ => []
  | fuel + 1, start =>
    if start < l.length then (l.drop start).take size :: slicesFrom size l fuel (start + size)
    else []

/-- The slices of a list. -/
def slices (size : ℕ) (l : List α) : List (List α) := slicesFrom size l l.length 0

example : slices 2 [1, 2, 3, 4, 5] = [[1, 2], [3, 4], [5]] := by decide

theorem flatten_slicesFrom {size : ℕ} (l : List α) (fuel start : ℕ)
    (hfuel : l.length ≤ start + fuel * size) : (slicesFrom size l fuel start).flatten =
    l.drop start := by
  induction fuel generalizing start with
  | zero =>
    rw [Nat.zero_mul, Nat.add_zero] at hfuel
    rw [slicesFrom, List.flatten_nil, List.drop_eq_nil_of_le hfuel]
  | succ fuel ih =>
    rw [slicesFrom]
    by_cases hstart : start < l.length
    · have hnext : l.length ≤ start + size + fuel * size := by
        rw [Nat.succ_mul] at hfuel
        omega
      rw [if_pos hstart, List.flatten_cons, ih (start + size) hnext, ← List.drop_drop,
        List.take_append_drop]
    · rw [if_neg hstart, List.flatten_nil, List.drop_eq_nil_of_le (Nat.le_of_not_lt hstart)]

/-- **The slices together** are the list. -/
theorem flatten_slices {size : ℕ} (hsize : 0 < size) (l : List α) :
    (slices size l).flatten = l := by
  have hfuel : l.length ≤ 0 + l.length * size := by
    rw [Nat.zero_add]
    exact Nat.le_mul_of_pos_right _ hsize
  rw [slices, flatten_slicesFrom l l.length 0 hfuel, List.drop_zero]

/-- Working through the batches one item after the other is working through the list. -/
theorem foldl_slices {size : ℕ} (hsize : 0 < size) (f : σ → α → σ) (s : σ) (l : List α) :
    (slices size l).foldl (fun s batch => batch.foldl f s) s = l.foldl f s := by
  rw [← List.foldl_flatten, flatten_slices hsize]

/-- The batches have as many items as the list. -/
theorem sum_length_slices {size : ℕ} (hsize : 0 < size) (l : List α) :
    ((slices size l).map List.length).sum = l.length := by
  rw [← List.length_flatten, flatten_slices hsize]

/-! ## Filling a buffer -/

/-- Write one item into a buffer; a full buffer is handed out and a new one begun. -/
def write (size : ℕ) (pending : List α) (x : α) : List α × List (List α) :=
  let pending := pending ++ [x]
  if pending.length = size then ([], [pending]) else (pending, [])

/-- Write items into a buffer one after the other. -/
def writeAll (size : ℕ) (pending : List α) : List α → List α × List (List α)
  | [] => (pending, [])
  | x :: xs =>
    let (pending, full) := write size pending x
    let (pending, later) := writeAll size pending xs
    (pending, full ++ later)

/-- The items of a stream are in the buffers handed out and, after them, in the one that is being
    filled. -/
structure Buffered (size : ℕ) (items : List α) (full : List (List α)) (pending : List α) :
    Prop where
  inOrder : full.flatten ++ pending = items
  length_eq : ∀ buffer ∈ full, buffer.length = size
  length_lt : pending.length < size

variable {size : ℕ} {items pending : List α} {full : List (List α)}

theorem buffered_nil (hsize : 0 < size) : Buffered size ([] : List α) [] [] where
  inOrder := rfl
  length_eq := fun _ hmem => absurd hmem List.not_mem_nil
  length_lt := hsize

theorem Buffered.write (h : Buffered size items full pending) (x : α) :
    Buffered size (items ++ [x]) (full ++ (Batches.write size pending x).2)
    (Batches.write size pending x).1 := by
  have hitems : full.flatten ++ (pending ++ [x]) = items ++ [x] := by
    rw [← List.append_assoc, h.inOrder]
  have hlength := h.length_lt
  simp only [Batches.write]
  split_ifs with hfull
  · refine ⟨?_, fun buffer hmem => ?_, by rw [List.length_nil]; omega⟩
    · rw [List.append_nil, List.flatten_append, List.flatten_singleton, hitems]
    · rcases List.mem_append.1 hmem with hmem | hmem
      · exact h.length_eq buffer hmem
      · rw [List.mem_singleton.1 hmem, hfull]
  · refine ⟨by rw [List.append_nil, hitems], by rw [List.append_nil]; exact h.length_eq, ?_⟩
    rw [List.length_append, List.length_singleton] at hfull ⊢
    omega

/-- **What is written is buffered** behind what was. -/
theorem Buffered.writeAll (h : Buffered size items full pending) (xs : List α) :
    Buffered size (items ++ xs) (full ++ (Batches.writeAll size pending xs).2)
      (Batches.writeAll size pending xs).1 := by
  induction xs generalizing items full pending with
  | nil => simpa only [Batches.writeAll, List.append_nil] using h
  | cons x xs ih =>
    have hnext := ih (h.write x)
    rw [List.append_assoc, List.append_assoc] at hnext
    exact hnext

theorem Buffered.map {β : Type v} (h : Buffered size items full pending) (f : α → β) :
    Buffered size (items.map f) (full.map (List.map f)) (pending.map f) where
  inOrder := by rw [← List.map_flatten, ← List.map_append, h.inOrder]
  length_eq := by
    rintro _ hmem
    obtain ⟨buffer, hbuffer, rfl⟩ := List.mem_map.1 hmem
    rw [List.length_map, h.length_eq buffer hbuffer]
  length_lt := by rw [List.length_map]; exact h.length_lt

end Batches
