import Mathlib.Data.List.Basic

set_option autoImplicit false

/-! # Ring buffers

A ring buffer keeps the values written to it and not yet read in a fixed number of cells, between a
read index and a write index that wrap around. Equal indices mean that nothing is unread, so the
last cell is never filled: a write that would fill it drops the oldest value.

What a ring buffer holds is the list of its unread values. As long as the last cell is not needed,
writing appends to that list, reading takes its head, and moving the read index forward drops from
it. -/

universe u

/-- A ring buffer. -/
structure RingBuffer (α : Type u) where
  bufferSize : ℕ
  buffer : ℕ → α
  writeIndex : ℕ
  readIndex : ℕ

namespace RingBuffer

variable {α : Type u}

variable (r : RingBuffer α)

/-- The number of unread values. -/
def available : ℕ :=
  if r.readIndex ≤ r.writeIndex then r.writeIndex - r.readIndex
  else r.bufferSize - r.readIndex + r.writeIndex

/-- Write one value; where the ring is full the oldest one is dropped. -/
def push (a : α) : RingBuffer α :=
  let writeIndex := (r.writeIndex + 1) % r.bufferSize
  { r with
    buffer := Function.update r.buffer r.writeIndex a
    writeIndex := writeIndex
    readIndex :=
      if writeIndex = r.readIndex then (r.readIndex + 1) % r.bufferSize else r.readIndex }

/-- The value at the read index. -/
def front : α := r.buffer r.readIndex

/-- Go on to the next value. -/
def advance : RingBuffer α :=
  { r with readIndex := (r.readIndex + 1) % r.bufferSize }

/-- Set the read index. -/
def seek (i : ℕ) : RingBuffer α := { r with readIndex := i }

/-- The cell `i` places after the read index. -/
def cell (i : ℕ) : ℕ := (r.readIndex + i) % r.bufferSize

/-- The values written and not yet read, oldest first. -/
def unread : List α := (List.range r.available).map fun i => r.buffer (r.cell i)

/-- Both indices are within the buffer, which has room for an unread value. -/
structure WellFormed (r : RingBuffer α) : Prop where
  size : 2 ≤ r.bufferSize
  writeIndex : r.writeIndex < r.bufferSize
  readIndex : r.readIndex < r.bufferSize

/-! ## Wrapping indices -/

/-- An index moved by less than a whole turn wraps at most once. -/
theorem wrap {n k i : ℕ} (hk : k < n) (hi : i < n) :
    (k + i) % n = if k + i < n then k + i else k + i - n := by
  split
  · next h => exact Nat.mod_eq_of_lt h
  · next h =>
      rw [Nat.mod_eq_sub_mod (Nat.le_of_not_lt h)]
      exact Nat.mod_eq_of_lt (by omega)

variable {r : RingBuffer α}

theorem WellFormed.available_lt (h : r.WellFormed) : r.available < r.bufferSize := by
  have hwrite := h.writeIndex
  have hread := h.readIndex
  unfold available
  split <;> omega

/-- The write index is where the unread values end. -/
theorem WellFormed.cell_available (h : r.WellFormed) : r.cell r.available = r.writeIndex := by
  have hwrite := h.writeIndex
  have hread := h.readIndex
  rw [cell, wrap hread h.available_lt]
  unfold available
  split <;> split <;> omega

/-- Different places less than a turn apart are different cells. -/
theorem WellFormed.cell_ne (h : r.WellFormed) {i j : ℕ} (hij : i < j) (hj : j < r.bufferSize) :
    r.cell i ≠ r.cell j := by
  have hread := h.readIndex
  rw [cell, cell, wrap hread (Nat.lt_trans hij hj), wrap hread hj]
  split <;> split <;> omega

theorem WellFormed.available_eq_zero_iff (h : r.WellFormed) :
    r.available = 0 ↔ r.readIndex = r.writeIndex := by
  have hread := h.readIndex
  unfold available
  split <;> omega

@[simp] theorem length_unread (r : RingBuffer α) : r.unread.length = r.available := by
  rw [unread, List.length_map, List.length_range]

/-! ## Writing -/

theorem WellFormed.push_readIndex (h : r.WellFormed) (a : α)
    (hroom : r.available + 1 < r.bufferSize) : (r.push a).readIndex = r.readIndex := by
  have hsize := h.size
  have hwrite := h.writeIndex
  have hread := h.readIndex
  rw [push]
  refine if_neg ?_
  rw [wrap hwrite (by omega)]
  unfold available at hroom
  split at hroom <;> split <;> omega

theorem WellFormed.pushed (h : r.WellFormed) (a : α) (hroom : r.available + 1 < r.bufferSize) :
    (r.push a).WellFormed := by
  refine ⟨h.size, Nat.mod_lt _ (by have := h.size; omega), ?_⟩
  rw [h.push_readIndex a hroom]
  exact h.readIndex

theorem WellFormed.available_push (h : r.WellFormed) (a : α)
    (hroom : r.available + 1 < r.bufferSize) : (r.push a).available = r.available + 1 := by
  have hsize := h.size
  have hwrite := h.writeIndex
  have hread := h.readIndex
  have hwriteIndex : (r.push a).writeIndex = if r.writeIndex + 1 < r.bufferSize then r.writeIndex +
      1 else r.writeIndex + 1 - r.bufferSize := wrap hwrite (by omega)
  rw [available, h.push_readIndex a hroom]
  generalize (r.push a).writeIndex = w at hwriteIndex
  show (if r.readIndex ≤ w then w - r.readIndex else r.bufferSize - r.readIndex + w) = _
  unfold available at hroom ⊢
  split at hroom <;> split at hwriteIndex <;> split <;> omega

/-- Writing never leaves fewer unread values, also where it drops the oldest one. -/
theorem WellFormed.le_push (h : r.WellFormed) (a : α) :
    (r.push a).WellFormed ∧ r.available ≤ (r.push a).available := by
  by_cases hroom : r.available + 1 < r.bufferSize
  · exact ⟨h.pushed a hroom, by rw [h.available_push a hroom]; exact Nat.le_succ _⟩
  · have hsize := h.size
    have hwrite := h.writeIndex
    have hread := h.readIndex
    have hwriteIndex : (r.push a).writeIndex = if r.writeIndex + 1 <
      r.bufferSize then r.writeIndex + 1
        else r.writeIndex + 1 - r.bufferSize := wrap hwrite (by omega)
    have hfull : (r.push a).writeIndex = r.readIndex := by
      rw [hwriteIndex]
      unfold available at hroom
      split at hroom <;> split <;> omega
    have hreadIndex : (r.push a).readIndex = (r.readIndex + 1) % r.bufferSize := if_pos hfull
    have hwf : (r.push a).WellFormed := by
      refine ⟨hsize, hfull ▸ hread, ?_⟩
      rw [hreadIndex]
      exact Nat.mod_lt _ (by omega)
    refine ⟨hwf, ?_⟩
    have hlt := h.available_lt
    rw [wrap hread (by omega)] at hreadIndex
    have havailable : (r.push a).available = r.bufferSize - 1 := by
      rw [available, hfull]
      generalize (r.push a).readIndex = i at hreadIndex
      show (if i ≤ r.readIndex then r.readIndex - i else r.bufferSize - i + r.readIndex) = _
      split at hreadIndex <;> split <;> omega
    omega

/-- **Writing** appends, while there is room. -/
theorem WellFormed.unread_push (h : r.WellFormed) (a : α) (hroom : r.available + 1 < r.bufferSize) :
    (r.push a).unread = r.unread ++ [a] := by
  have hcell : ∀ i, (r.push a).cell i = r.cell i := by
    intro i
    rw [cell, cell, h.push_readIndex a hroom]
    rfl
  rw [unread, h.available_push a hroom, List.range_succ, List.map_append, unread]
  congr 1
  · -- the cell written is none of the unread ones
    refine List.map_congr_left fun i hi => ?_
    have hne := h.cell_ne (List.mem_range.1 hi) h.available_lt
    rw [h.cell_available] at hne
    rw [hcell, push]
    exact Function.update_of_ne hne _ _
  · rw [List.map_singleton, hcell, h.cell_available, push]
    exact congrArg (fun x => [x]) (Function.update_self _ _ _)

/-! ## Reading -/

/-- Move the read index forward over `k` unread values. -/
theorem WellFormed.seek_cell (h : r.WellFormed) {k : ℕ} (hk : k ≤ r.available) :
    (r.seek (r.cell k)).WellFormed ∧ (r.seek (r.cell k)).unread = r.unread.drop k := by
  have hsize := h.size
  have hwrite := h.writeIndex
  have hread := h.readIndex
  have hlt := h.available_lt
  have hwf : (r.seek (r.cell k)).WellFormed := ⟨hsize, hwrite, Nat.mod_lt _ (by omega)⟩
  have havailable : (r.seek (r.cell k)).available = r.available - k := by
    have hindex : r.cell k =
        if r.readIndex + k < r.bufferSize then r.readIndex + k
        else r.readIndex + k - r.bufferSize :=
      wrap hread (by omega)
    generalize r.cell k = i at hindex
    show (if i ≤ r.writeIndex then r.writeIndex - i else r.bufferSize - i + r.writeIndex) = _
    unfold available at hk hlt ⊢
    split at hk <;> split at hindex <;> split <;> omega
  refine ⟨hwf, List.ext_getElem ?_ ?_⟩
  · rw [length_unread, havailable, List.length_drop, length_unread]
  · intro i hi hi'
    rw [List.getElem_drop]
    simp only [unread, List.getElem_map, List.getElem_range]
    show r.buffer _ = r.buffer _
    congr 1
    show ((r.readIndex + k) % r.bufferSize + i) % r.bufferSize = (r.readIndex + (k + i)) %
      r.bufferSize
    rw [Nat.mod_add_mod, Nat.add_assoc]

/-- **Reading** takes the oldest unread value. -/
theorem WellFormed.read (h : r.WellFormed) (hne : r.readIndex ≠ r.writeIndex) :
    r.advance.WellFormed ∧ r.unread = r.front :: r.advance.unread := by
  have hpos : 1 ≤ r.available := by
    have := h.available_eq_zero_iff
    omega
  obtain ⟨hwf, hdrop⟩ := h.seek_cell hpos
  refine ⟨hwf, ?_⟩
  have hlength : 0 < r.unread.length := by rw [length_unread]; exact hpos
  have hfront : r.unread[0] = r.front := by
    simp only [unread, List.getElem_map, List.getElem_range, cell, Nat.add_zero, front,
      Nat.mod_eq_of_lt h.readIndex]
  show r.unread = r.front :: (r.seek (r.cell 1)).unread
  rw [hdrop, ← hfront]
  exact List.drop_eq_getElem_cons hlength

end RingBuffer
