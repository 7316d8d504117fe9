import Ekaette.Lib.CallProgram

set_option autoImplicit false

/-! # Programs run against a state

A state answers the calls of one program after the other; what the outside chooses for the answer of
each call is given beforehand. What every allowed call preserves is preserved by a program that
obeys. And from two states that allowed calls cannot tell apart, such a program returns the same. -/

namespace CallProgram

variable {σ κ : Type} {ρ : κ → Type} {α ι : Type}

/-- The state after a run, and the value if one is returned. -/
def serveAll (serve : σ → ι → (c : κ) → σ × Option (ρ c)) :
    CallProgram κ ρ α → σ → (ℕ → ι) → σ × Option α
  | .returned a, s, _ => (s, some a)
  | .raised, s, _ => (s, none)
  | .call c k, s, choices =>
    let (s', answer) := serve s (choices 0) c
    (k answer).serveAll serve s' (fun n => choices (n + 1))

variable {serve : σ → ι → (c : κ) → σ × Option (ρ c)} {P : List (Called κ ρ) → κ → Prop}
  {Q : List (Called κ ρ) → α → Prop}

/-- **What allowed calls preserve**, the program preserves. -/
theorem Obeys.serveAll_preserves {I : σ → Prop}
    (hserve : ∀ log c, P log c → ∀ s choice, I s → I (serve s choice c).1)
    {p : CallProgram κ ρ α} {log : List (Called κ ρ)} (h : p.Obeys P Q log) {s : σ} (hs : I s)
    (choices : ℕ → ι) : I (p.serveAll serve s choices).1 := by
  induction p generalizing log s choices with
  | returned a => exact hs
  | raised => exact hs
  | call c k ih =>
    show I ((k (serve s (choices 0) c).2).serveAll serve (serve s (choices 0) c).1 _).1
    exact ih _ (h.2 _) (hserve log c h.1 s (choices 0) hs) _

/-- **What allowed calls cannot tell apart**, the program cannot. -/
theorem Obeys.serveAll_related {R : σ → σ → Prop}
    (hserve : ∀ log c, P log c → ∀ s t choice, R s t →
      (serve s choice c).2 = (serve t choice c).2 ∧ R (serve s choice c).1 (serve t choice c).1)
    {p : CallProgram κ ρ α} {log : List (Called κ ρ)} (h : p.Obeys P Q log) {s t : σ} (hst : R s t)
    (choices : ℕ → ι) :
    (p.serveAll serve s choices).2 = (p.serveAll serve t choices).2 ∧
      R (p.serveAll serve s choices).1 (p.serveAll serve t choices).1 := by
  induction p generalizing log s t choices with
  | returned a => exact ⟨rfl, hst⟩
  | raised => exact ⟨rfl, hst⟩
  | call c k ih =>
    obtain ⟨hanswer, hnext⟩ := hserve log c h.1 s t (choices 0) hst
    simp only [serveAll]
    rw [hanswer]
    exact ih _ (h.2 _) hnext _

end CallProgram
