set_option autoImplicit false

/-! # Guarded systems

A system whose step is defined only where it is enabled, so that a list of actions is a schedule: it
runs, or one of its actions is not possible where it stands. -/

namespace Ekaette

universe u v

/-- A step for each action that is enabled. -/
structure Guarded (σ : Type u) (α : Type v) where
  step : σ → α → Option σ

namespace Guarded

variable {σ : Type u} {α : Type v} (m : Guarded σ α)

/-- The state after a schedule, when all of it is enabled. -/
def run (s : σ) : List α → Option σ
  | [] => some s
  | a :: as => (m.step s a).bind fun s' => run s' as

/-- Every step of a schedule meets `G`. -/
def Meets (G : σ → α → Prop) (s : σ) : List α → Prop
  | [] => True
  | a :: as => G s a ∧ ∀ s', m.step s a = some s' → Meets G s' as

@[simp] theorem run_nil (s : σ) : m.run s [] = some s := rfl

theorem run_cons {s s' : σ} {a : α} {as : List α} :
    m.run s (a :: as) = some s' ↔ ∃ mid, m.step s a = some mid ∧ m.run mid as = some s' :=
  Option.bind_eq_some_iff

/-- **Invariant rule.** What every step that meets `G` keeps holds after every schedule whose steps
    do. -/
theorem invariant_of_meets {G : σ → α → Prop} {I : σ → Prop}
    (hstep : ∀ s a s', I s → G s a → m.step s a = some s' → I s') {s s' : σ} {as : List α}
    (hI : I s) (hG : m.Meets G s as) (h : m.run s as = some s') : I s' := by
  induction as generalizing s with
  | nil =>
    cases h
    exact hI
  | cons a as ih =>
    obtain ⟨mid, hmid, h⟩ := m.run_cons.1 h
    exact ih (hstep s a mid hI hG.1 hmid) (hG.2 mid hmid) h

variable {m} in
theorem Meets.cons {G : σ → α → Prop} {s s' : σ} {a : α} {as : List α}
    (hstep : m.step s a = some s')
    (hG : G s a) (h : m.Meets G s' as) : m.Meets G s (a :: as) := by
  refine ⟨hG, fun mid hmid => ?_⟩
  rw [hstep] at hmid
  cases hmid
  exact h

variable {m} in
theorem Meets.and {G H : σ → α → Prop} {s : σ} {as : List α} (hG : m.Meets G s as)
    (hH : m.Meets H s as) : m.Meets (fun s a => G s a ∧ H s a) s as := by
  induction as generalizing s with
  | nil => trivial
  | cons a as ih => exact ⟨⟨hG.1, hH.1⟩, fun s' hs' => ih (hG.2 s' hs') (hH.2 s' hs')⟩

theorem meets_true (s : σ) (as : List α) : m.Meets (fun _ _ => True) s as := by
  induction as generalizing s with
  | nil => trivial
  | cons a as ih => exact ⟨trivial, fun s' _ => ih s'⟩

/-- **Invariant rule** for what every step keeps. -/
theorem invariant {I : σ → Prop} (hstep : ∀ s a s', I s → m.step s a = some s' → I s') {s s' : σ}
    {as : List α} (hI : I s) (h : m.run s as = some s') : I s' :=
  m.invariant_of_meets (fun s a s' hI _ => hstep s a s' hI) hI (m.meets_true s as) h

end Guarded

end Ekaette
