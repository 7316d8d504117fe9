import Ekaette.Lib.EventMachine

set_option autoImplicit false

/-! # Two machines in lockstep

Two machines that answer the same events. What relates their states may speak of the events still to
come, so that clocks and other orders on the events can be used. -/

namespace EventMachine

universe u v w x

variable {σ : Type u} {τ : Type x} {ε : Type v} {ω : Type w} (m : EventMachine σ ε ω)
  (n : EventMachine τ ε ω)

/-- The answers of a run. -/
def answers (s : σ) (es : List ε) : List ω := (m.trace s es).map (·.answer)

@[simp] theorem answers_nil (s : σ) : m.answers s [] = [] := rfl

@[simp] theorem answers_cons (s : σ) (e : ε) (es : List ε) :
    m.answers s (e :: es) = (m.step s e).2 :: m.answers (m.next s e) es := rfl

/-- **Lockstep rule.** When steps that meet `G` from related states answer alike and lead to related
    states, runs whose steps all meet `G` answer alike. -/
theorem answers_eq_of_lockstep {R : List ε → σ → τ → Prop} {G : σ → ε → Prop}
    (hstep : ∀ e es s t, R (e :: es) s t → G s e →
      (m.step s e).2 = (n.step t e).2 ∧ R es (m.next s e) (n.next t e))
    {s : σ} {t : τ} {es : List ε} (hR : R es s t) (hG : ∀ x ∈ m.trace s es, G x.pre x.event) :
    m.answers s es = n.answers t es ∧ R [] (m.run s es) (n.run t es) := by
  induction es generalizing s t with
  | nil => exact ⟨rfl, hR⟩
  | cons e es ih =>
    rw [trace_cons, List.forall_mem_cons] at hG
    obtain ⟨hanswer, hnext⟩ := hstep e es s t hR hG.1
    obtain ⟨hanswers, hrun⟩ := ih hnext hG.2
    refine ⟨?_, hrun⟩
    rw [answers_cons, answers_cons, hanswer, hanswers]

/-- **Exact lockstep rule.** When steps from related states answer alike exactly if they meet `G`,
    and then lead to related states, runs answer alike exactly if all their steps meet `G`. -/
theorem answers_eq_iff_lockstep {R : List ε → σ → τ → Prop} {G : σ → ε → Prop}
    (hanswer : ∀ e es s t, R (e :: es) s t → ((m.step s e).2 = (n.step t e).2 ↔ G s e))
    (hnext : ∀ e es s t, R (e :: es) s t → G s e → R es (m.next s e) (n.next t e))
    {s : σ} {t : τ} {es : List ε} (hR : R es s t) :
    m.answers s es = n.answers t es ↔ ∀ x ∈ m.trace s es, G x.pre x.event := by
  constructor
  · intro h
    induction es generalizing s t with
    | nil =>
      intro x hx
      cases hx
    | cons e es ih =>
      rw [answers_cons, answers_cons, List.cons.injEq] at h
      have hG := (hanswer e es s t hR).1 h.1
      rw [trace_cons, List.forall_mem_cons]
      exact ⟨hG, ih (hnext e es s t hR hG) h.2⟩
  · intro hG
    exact (m.answers_eq_of_lockstep n
      (fun e es s t hR hG => ⟨(hanswer e es s t hR).2 hG, hnext e es s t hR hG⟩) hR hG).1

end EventMachine
