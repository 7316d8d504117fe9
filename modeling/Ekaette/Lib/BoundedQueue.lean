import Mathlib.Data.List.Basic

set_option autoImplicit false

/-! # Bounded queues

A queue of bounded size refuses what it has no room for, and who puts something in counts the
refusals. The account of a queue relates it to its past: what was taken from it and what waits in it
was offered, in that order, and the refusals make up the number of the offers.

A worker between two queues takes what one holds and puts output into the other, so the accounts of
the two queues say how what leaves the second relates to what was offered to the first. -/

universe u v w

namespace BoundedQueue

variable {σ : Type u} {α : Type v} {β : Type w}

/-- Put something in a queue; `none` where it is full. -/
def putNowait (capacity : ℕ) (queue : List α) (x : α) : Option (List α) :=
  if queue.length < capacity then some (queue ++ [x]) else none

/-! ## Accounts -/

/-- What was offered, what was taken, what waits, and how many offers were refused. -/
structure Account (capacity : ℕ) (offered taken queue : List α) (drops : ℕ) : Prop where
  inOrder : (taken ++ queue).Sublist offered
  count : (taken ++ queue).length + drops = offered.length
  length_le : queue.length ≤ capacity
  /-- nothing is refused before the queue has been filled -/
  full : drops = 0 ∨ capacity ≤ (taken ++ queue).length

variable {capacity : ℕ} {offered taken queue : List α} {drops : ℕ}

theorem account_nil (capacity : ℕ) : Account capacity ([] : List α) [] [] 0 where
  inOrder := List.Sublist.slnil
  count := rfl
  length_le := Nat.zero_le _
  full := .inl rfl

/-- **An offer that is accepted**. -/
theorem Account.accepted (h : Account capacity offered taken queue drops) {x : α} {queue' : List α}
    (hput : putNowait capacity queue x = some queue') :
    Account capacity (offered ++ [x]) taken queue' drops := by
  unfold putNowait at hput
  split_ifs at hput with hroom
  obtain rfl := Option.some.inj hput
  have hcount := h.count
  constructor
  · rw [← List.append_assoc]
    exact h.inOrder.append (List.Sublist.refl _)
  · simp only [List.length_append, List.length_singleton] at hcount ⊢
    omega
  · rw [List.length_append, List.length_singleton]
    exact hroom
  · refine h.full.imp_right fun hfull => ?_
    rw [← List.append_assoc, List.length_append]
    exact Nat.le_trans hfull (Nat.le_add_right _ _)

/-- **An offer that is refused**. -/
theorem Account.refused (h : Account capacity offered taken queue drops) {x : α}
    (hput : putNowait capacity queue x = none) : Account capacity (offered ++ [x]) taken queue
    (drops + 1) := by
  unfold putNowait at hput
  split_ifs at hput with hroom
  have hcount := h.count
  refine { h with
    inOrder := h.inOrder.trans (List.sublist_append_left _ _), count := ?_, full := .inr ?_ }
  · have hone : (offered ++ [x]).length = offered.length + 1 := List.length_append
    omega
  · rw [List.length_append]
    omega

/-- What the worker has for a queue, if anything, is put in it or counted as dropped. -/
def offer (capacity : ℕ) (queue : List α) (drops : ℕ) : Option α → List α × ℕ
  | none => (queue, drops)
  | some x =>
    match putNowait capacity queue x with
    | some queue => (queue, drops)
    | none => (queue, drops + 1)

theorem Account.offer (h : Account capacity offered taken queue drops) (output : Option α) :
    Account capacity (offered ++ output.toList) taken
    (BoundedQueue.offer capacity queue drops output).1
      (BoundedQueue.offer capacity queue drops output).2 := by
  cases output with
  | none =>
    rw [Option.toList_none, List.append_nil]
    exact h
  | some x =>
    simp only [BoundedQueue.offer, Option.toList_some]
    split
    next queue' hput => exact h.accepted hput
    next hput => exact h.refused hput

/-- **Taking** what has waited longest. -/
theorem Account.took {x : α} (h : Account capacity offered taken (x :: queue) drops) :
    Account capacity offered (taken ++ [x]) queue drops := by
  have hsplit : taken ++ x :: queue = (taken ++ [x]) ++ queue := by
    rw [List.append_assoc]
    rfl
  have hinOrder := h.inOrder
  have hcount := h.count
  have hfull := h.full
  rw [hsplit] at hinOrder hcount hfull
  exact ⟨hinOrder, hcount, Nat.le_of_succ_le h.length_le, hfull⟩

/-- **A queue that refused nothing** lost nothing. -/
theorem Account.lossless (h : Account capacity offered taken queue 0) : taken ++ queue = offered :=
  h.inOrder.eq_of_length h.count

/-- A queue with room for all that was offered refused nothing. -/
theorem Account.drops_eq_zero (h : Account capacity offered taken queue drops)
    (hfew : offered.length ≤ capacity) : drops = 0 := by
  have hcount := h.count
  rcases h.full with hzero | hfull
  · exact hzero
  · omega

/-! ## The worker -/

/-- A worker on a list: its state afterwards, and its output. -/
def processAll (process : σ → α → σ × Option β) : σ → List α → σ × List β
  | s, [] => (s, [])
  | s, x :: xs =>
    let (s', ys) := processAll process (process s x).1 xs
    (s', (process s x).2.toList ++ ys)

theorem processAll_concat (process : σ → α → σ × Option β) (s : σ) (xs : List α) (x : α) :
    processAll process s (xs ++ [x]) =
      ((process (processAll process s xs).1 x).1,
        (processAll process s xs).2 ++ (process (processAll process s xs).1 x).2.toList) := by
  induction xs generalizing s with
  | nil => simp [processAll]
  | cons y xs ih => simp [processAll, ih]

theorem length_processAll_le (process : σ → α → σ × Option β) (s : σ) (xs : List α) :
    (processAll process s xs).2.length ≤ xs.length := by
  induction xs generalizing s with
  | nil => exact Nat.zero_le _
  | cons x xs ih =>
    have hone : (process s x).2.toList.length ≤ 1 := by
      cases (process s x).2 with
      | none => exact Nat.zero_le _
      | some y => exact Nat.le_refl 1
    have hrest := ih (process s x).1
    rw [processAll, List.length_append, List.length_cons]
    omega

theorem processAll_stateless (output : α → Option β) (s : σ) (xs : List α) :
    processAll (fun s x => (s, output x)) s xs = (s, xs.filterMap output) := by
  induction xs with
  | nil => rfl
  | cons x xs ih =>
    rw [processAll, ih, List.filterMap_cons]
    cases output x with
    | none => rfl
    | some y => rfl

end BoundedQueue
