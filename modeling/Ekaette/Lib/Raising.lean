import Mathlib

set_option autoImplicit false
set_option mvcgen.warning false

/-! # Handlers that may raise

A handler works on a state and may raise at any point. What it did to the state before stays done,
so a triple about it has two postconditions, and a caller that catches everything gets one or the
other. -/

open Std.Do

variable {σ ε α : Type}

/-- `try: x` with an `except Exception` that drops what was raised: the state that is left. -/
def attempt (x : ExceptT ε (StateM σ) α) (s : σ) : σ :=
  (StateT.run (ExceptT.run x) s).2

/-- A handler that returns satisfies the first postcondition of its triple, one that raises the
    second. -/
theorem run_of_triple {x : ExceptT ε (StateM σ) α} {P : σ → Prop} {Q : α → σ → Prop}
    {E : ε → σ → Prop}
    (h : ⦃fun s => ⌜P s⌝⦄ x ⦃post⟨fun a s => ⌜Q a s⌝, fun e s => ⌜E e s⌝⟩⦄) {s : σ} (hs : P s) :
    match StateT.run (ExceptT.run x) s with
    | (.ok a, s') => Q a s'
    | (.error e, s') => E e s' := by
  have hrun := h s hs
  rcases hx : ExceptT.run x s with ⟨result, s'⟩
  rw [StateT.run, hx]
  cases result with
  | ok value =>
    show Q value s'
    simpa [wp, PredTrans.apply, PredTrans.pushExcept, PredTrans.pushArg, StateT.run, hx, pure,
      PredTrans.pure, Id.run] using hrun
  | error e =>
    show E e s'
    simpa [wp, PredTrans.apply, PredTrans.pushExcept, PredTrans.pushArg, StateT.run, hx, pure,
      PredTrans.pure, Id.run] using hrun

/-- What is left by a caught handler satisfies one of the two postconditions of its triple. -/
theorem attempt_of_triple {x : ExceptT ε (StateM σ) α} {P Q E : σ → Prop}
    (h : ⦃fun s => ⌜P s⌝⦄ x ⦃post⟨fun _ s => ⌜Q s⌝, fun _ s => ⌜E s⌝⟩⦄) {s : σ} (hs : P s) :
    Q (attempt x s) ∨ E (attempt x s) := by
  have hrun := run_of_triple (Q := fun _ => Q) (E := fun _ => E) h hs
  unfold attempt
  rcases hx : StateT.run (ExceptT.run x) s with ⟨result, s'⟩
  rw [hx] at hrun
  cases result with
  | ok value => exact .inl hrun
  | error e => exact .inr hrun

/-- What a handler keeps, raising or not, is kept when it is caught. -/
theorem attempt_keeps {x : ExceptT ε (StateM σ) α} {P : σ → Prop}
    (h : ⦃fun s => ⌜P s⌝⦄ x ⦃post⟨fun _ s => ⌜P s⌝, fun _ s => ⌜P s⌝⟩⦄) {s : σ} (hs : P s) :
    P (attempt x s) :=
  (attempt_of_triple h hs).elim id id
