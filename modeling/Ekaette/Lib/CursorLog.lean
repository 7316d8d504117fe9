import Mathlib.Data.List.Basic

set_option autoImplicit false

/-! # Logs that are worked off

A log grows at its end, and a cursor says how much of it has been worked off. A worker takes a batch
behind the cursor; where it ends well the cursor moves behind its batch, and where it fails the
cursor stays. While one worker is out at a time, what was worked off is the log up to the cursor:
nothing twice, nothing left out, in order. -/

universe u

namespace CursorLog

variable {α : Type u}

/-- The batches that were worked off, and the worker that is out with one and where it ends. -/
structure WorkedOff (log : List α) (cursor : ℕ) (done : List (List α))
    (worker : Option (List α × ℕ)) : Prop where
  done_eq : done.flatten = log.take cursor
  cursor_le : cursor ≤ log.length
  batch_eq : ∀ batch next, worker = some (batch, next) →
    cursor ≤ next ∧ next ≤ log.length ∧ batch = (log.take next).drop cursor

variable {log : List α} {cursor next : ℕ} {done : List (List α)} {batch : List α}

theorem workedOff_start (log : List α) : WorkedOff log 0 [] none where
  done_eq := rfl
  cursor_le := Nat.zero_le _
  batch_eq := nofun

/-- The log grows; who is out keeps its batch. -/
theorem WorkedOff.append {worker : Option (List α × ℕ)} (h : WorkedOff log cursor done worker)
    (more : List α) : WorkedOff (log ++ more) cursor done worker where
  done_eq := by rw [List.take_append_of_le_length h.cursor_le, h.done_eq]
  cursor_le := by
    rw [List.length_append]
    exact Nat.le_add_right_of_le h.cursor_le
  batch_eq := by
    intro batch next hworker
    obtain ⟨hle, hnext, hbatch⟩ := h.batch_eq batch next hworker
    rw [List.length_append, List.take_append_of_le_length hnext]
    exact ⟨hle, Nat.le_add_right_of_le hnext, hbatch⟩

/-- A worker takes what stands between the cursor and `next`. -/
theorem WorkedOff.take (h : WorkedOff log cursor done none) (hle : cursor ≤ next)
    (hnext : next ≤ log.length) :
    WorkedOff log cursor done (some ((log.take next).drop cursor, next)) where
  done_eq := h.done_eq
  cursor_le := h.cursor_le
  batch_eq := by
    rintro _ _ ⟨⟩
    exact ⟨hle, hnext, rfl⟩

/-- **A worker that ends well** moves the cursor behind its batch. -/
theorem WorkedOff.commit (h : WorkedOff log cursor done (some (batch, next))) :
    WorkedOff log next (done ++ [batch]) none := by
  obtain ⟨hle, hnext, rfl⟩ := h.batch_eq batch next rfl
  refine ⟨?_, hnext, nofun⟩
  rw [List.flatten_append, List.flatten_singleton, h.done_eq]
  have htake : log.take cursor = (log.take next).take cursor := by
    rw [List.take_take, Nat.min_eq_left hle]
  rw [htake, List.take_append_drop]

/-- A worker that fails leaves the cursor where it is. -/
theorem WorkedOff.abort {worker : Option (List α × ℕ)} (h : WorkedOff log cursor done worker) :
    WorkedOff log cursor done none where
  done_eq := h.done_eq
  cursor_le := h.cursor_le
  batch_eq := nofun

end CursorLog
