import Mathlib.Algebra.Order.Group.Defs
import Mathlib.Data.List.Induction
import Mathlib.Data.List.Basic
import Mathlib.Data.List.Pairwise

set_option autoImplicit false

/-! # Sliding windows over a log of calls

Each call of a log has a key, a time and an answer. A log *slides* if each call is allowed exactly
when fewer than its key's limit of earlier calls were allowed within the last window. Then every
half-open interval of the window's length holds at most that many allowed calls.

A limiter need not remember the whole log: times that have left the window once are never counted
again. -/

universe u v

namespace RateWindow

variable {κ : Type u} {τ : Type v}

/-- One answered call. -/
structure Call (κ : Type u) (τ : Type v) where
  key : κ
  now : τ
  allowed : Bool
  deriving DecidableEq

section times

variable [DecidableEq κ]

/-- The times of the allowed calls of `k`, oldest first. -/
def allowedTimes (k : κ) (log : List (Call κ τ)) : List τ :=
  (log.filter (fun c => c.key = k ∧ c.allowed = true)).map Call.now

theorem allowedTimes_append (k : κ) (log log' : List (Call κ τ)) :
    allowedTimes k (log ++ log') = allowedTimes k log ++ allowedTimes k log' := by
  unfold allowedTimes
  rw [List.filter_append, List.map_append]

theorem allowedTimes_singleton (k : κ) (c : Call κ τ) :
    allowedTimes k [c] = if c.key = k ∧ c.allowed = true then [c.now] else [] := by
  unfold allowedTimes
  split_ifs with h
  · rw [List.filter_cons_of_pos (by simpa using h), List.filter_nil, List.map_singleton]
  · rw [List.filter_cons_of_neg (by simpa using h), List.filter_nil, List.map_nil]

end times

/-! ## The times that still count -/

variable [AddCommGroup τ] [LinearOrder τ]

/-- The times that still count at `now`. -/
def recent (window now : τ) (times : List τ) : List τ := times.filter (fun t => now - t < window)

theorem recent_append (window now : τ) (times times' : List τ) :
    recent window now (times ++ times') = recent window now times ++ recent window now times' :=
  List.filter_append times times'

/-- Times that have all left the window count no more. -/
theorem recent_eq_nil {window now : τ} {times : List τ} (h : ∀ t ∈ times, window ≤ now - t) :
    recent window now times = [] := by
  unfold recent
  refine List.filter_eq_nil_iff.2 fun t ht => ?_
  rw [decide_eq_true_eq, not_lt]
  exact h t ht

section recent

variable [IsOrderedAddMonoid τ]

/-- What counts later counts now. -/
theorem recent_recent {window now later : τ} (h : now ≤ later) (times : List τ) :
    recent window later (recent window now times) = recent window later times := by
  unfold recent
  rw [List.filter_filter]
  refine List.filter_congr fun t _ => ?_
  have hstill : later - t < window → now - t < window :=
    fun hlater => lt_of_le_of_lt (sub_le_sub_right h t) hlater
  rw [Bool.and_eq_left_iff_imp, decide_eq_true_eq, decide_eq_true_eq]
  exact hstill

end recent

/-! ## Sliding logs -/

variable [DecidableEq κ]

/-- Each call is allowed exactly when fewer than its key's limit of calls were allowed before it
    within the last window. -/
def Slides (window : τ) (limit : κ → ℤ) (log : List (Call κ τ)) : Prop :=
  ∀ h c, h ++ [c] <+: log →
    (c.allowed = true ↔ ((recent window c.now (allowedTimes c.key h)).length : ℤ) < limit c.key)

theorem Slides.of_append {window : τ} {limit : κ → ℤ} {log log' : List (Call κ τ)}
    (h : Slides window limit (log ++ log')) : Slides window limit log :=
  fun h' c hpre => h h' c (hpre.trans (List.prefix_append log log'))

theorem slides_nil (window : τ) (limit : κ → ℤ) : Slides window limit [] :=
  fun h c hpre => absurd hpre.length_le (by simp)

theorem Slides.concat {window : τ} {limit : κ → ℤ} {log : List (Call κ τ)}
    (h : Slides window limit log) {c : Call κ τ}
    (hc : c.allowed = true ↔ ((recent window c.now (allowedTimes c.key log)).length : ℤ) <
      limit c.key) :
    Slides window limit (log ++ [c]) := by
  intro h' c' hpre
  rcases List.prefix_concat_iff.1 hpre with heq | hbefore
  · obtain ⟨rfl, hcons⟩ := List.append_inj' heq rfl
    rw [(List.cons.inj hcons).1]
    exact hc
  · exact h h' c' hbefore

/-- **Any stretch of one window.** At most the limit is allowed among times less than a window
    apart. -/
theorem Slides.count_le {window : τ} {limit : κ → ℤ} {log : List (Call κ τ)}
    (h : Slides window limit log) (hclock : log.Pairwise (fun c d => c.now ≤ d.now)) (k : κ)
    (hlimit : 0 ≤ limit k) (p : τ → Bool) (hp : ∀ s t, p s = true → p t = true → t - s < window) :
    (((allowedTimes k log).filter p).length : ℤ) ≤ limit k := by
  induction log using List.reverseRecOn with
  | nil => simpa [allowedTimes] using hlimit
  | append_singleton log c ih =>
    have hbefore := ih h.of_append (List.pairwise_append.1 hclock).1
    rw [allowedTimes_append, allowedTimes_singleton, List.filter_append]
    split_ifs with hc
    · obtain ⟨rfl, hallowed⟩ := hc
      cases hpc : p c.now with
      | false =>
        rw [List.filter_cons_of_neg (by simp [hpc]), List.filter_nil, List.append_nil]
        exact hbefore
      | true =>
        -- the last call is in the stretch: whatever else is in it still counted at this call
        have hfew := (h log c List.prefix_rfl).1 hallowed
        have hsub : ((allowedTimes c.key log).filter p).length ≤
            (recent window c.now (allowedTimes c.key log)).length := by
          refine List.Sublist.length_le (List.monotone_filter_right _ fun t ht => ?_)
          rw [decide_eq_true_eq]
          exact hp t c.now ht hpc
        rw [List.filter_cons_of_pos hpc, List.filter_nil, List.length_append, List.length_singleton]
        omega
    · rw [List.filter_nil, List.append_nil]
      exact hbefore

/-! ## What a limiter keeps -/

/-- The kept times count for as much as the log, at `now` and from then on. -/
def Keeps (window now : τ) (kept : κ → List τ) (log : List (Call κ τ)) : Prop :=
  ∀ k, recent window now (kept k) = recent window now (allowedTimes k log)

/-- Times that have left the window may be forgotten. -/
theorem Keeps.forget {window now : τ} {kept kept' : κ → List τ} {log : List (Call κ τ)}
    (h : Keeps window now kept log)
    (hforget : ∀ k, kept' k = kept k ∨ (kept' k = [] ∧ ∀ t ∈ kept k, window ≤ now - t)) :
    Keeps window now kept' log := by
  intro k
  rcases hforget k with hsame | ⟨hnone, hstale⟩
  · rw [hsame]
    exact h k
  · rw [hnone, ← h k, recent_eq_nil hstale]
    rfl

variable [IsOrderedAddMonoid τ]

theorem Keeps.later {window now later : τ} {kept : κ → List τ} {log : List (Call κ τ)}
    (h : Keeps window now kept log) (hle : now ≤ later) : Keeps window later kept log := by
  intro k
  rw [← recent_recent hle (kept k), h k, recent_recent hle]

theorem Keeps.answer {window now : τ} {kept kept' : κ → List τ} {log : List (Call κ τ)} {k : κ}
    {allowed : Bool} (h : Keeps window now kept log) (hother : ∀ k', k' ≠ k → kept' k' = kept k')
    (hself : kept' k = recent window now (kept k) ++ if allowed = true then [now] else []) :
    Keeps window now kept' (log ++ [⟨k, now, allowed⟩]) := by
  intro k'
  rw [allowedTimes_append, allowedTimes_singleton]
  by_cases hk : k' = k
  · subst hk
    rw [hself, recent_append, recent_append, recent_recent (le_refl now), h k']
    cases allowed with
    | false => simp
    | true => simp
  · rw [hother k' hk, h k', if_neg (fun hc => hk hc.1.symm), List.append_nil]

/-! ## Intervals -/

/-- **Half-open intervals**, closed on either side. -/
theorem Slides.interval_le {window : τ} {limit : κ → ℤ} {log : List (Call κ τ)}
    (h : Slides window limit log) (hclock : log.Pairwise (fun c d => c.now ≤ d.now)) (k : κ)
    (hlimit : 0 ≤ limit k) (a : τ) :
    (((allowedTimes k log).filter (fun t => a ≤ t ∧ t < a + window)).length : ℤ) ≤ limit k ∧
      (((allowedTimes k log).filter (fun t => a < t ∧ t ≤ a + window)).length : ℤ) ≤ limit k := by
  constructor
  · refine h.count_le hclock k hlimit _ fun s t hs ht => ?_
    rw [decide_eq_true_eq] at hs ht
    exact sub_lt_iff_lt_add.2 (ht.2.trans_le (by rw [add_comm]; exact add_le_add_right hs.1 window))
  · refine h.count_le hclock k hlimit _ fun s t hs ht => ?_
    rw [decide_eq_true_eq] at hs ht
    exact sub_lt_iff_lt_add.2 (ht.2.trans_lt (by rw [add_comm]; exact add_lt_add_right hs.1 window))

end RateWindow
