import Mathlib.Logic.Basic

set_option autoImplicit false

/-! # Coroutines that can be cancelled

A coroutine works on a state `σ` and suspends at points `α`. What it awaits ends in one of three
ways: it is done, it fails, or the task of the coroutine is cancelled there. A failure is an
exception that `except Exception` catches; a cancellation passes through it and runs `finally`
blocks only.

`wp` is the weakest precondition of a coroutine, with one rule for each construct. The environment
may change the state while the coroutine is suspended, and an auxiliary value `γ` follows how the
points ended. -/

/-- How what a coroutine awaits ends for it. -/
inductive Wakeup where
  | done
  | failed
  | cancelled
  deriving DecidableEq

/-- How a coroutine, or a part of one, is left. -/
inductive Exit (β : Type) where
  | returned (b : β)
  | raised
  | cancelled

/-- A coroutine: how it is left, a synchronous step, a branch on the state, or a suspension. -/
inductive Coroutine (σ α β : Type) where
  | exit (e : Exit β)
  | act (f : σ → σ) (c : Coroutine σ α β)
  | test (b : σ → Bool) (yes no : Coroutine σ α β)
  | await (a : α) (k : Wakeup → Coroutine σ α β)

namespace Coroutine

variable {σ α β β' γ : Type}

/-! ## Constructs -/

protected def pure (b : β) : Coroutine σ α β := .exit (.returned b)

/-- Await one thing. -/
def wait (a : α) : Coroutine σ α Unit :=
  .await a (fun w => match w with
    | .done => .exit (.returned ())
    | .failed => .exit .raised
    | .cancelled => .exit .cancelled)

/-- One after the other. -/
protected def bind (c : Coroutine σ α β) (g : β → Coroutine σ α β') : Coroutine σ α β' :=
  match c with
  | .exit (.returned b) => g b
  | .exit .raised => .exit .raised
  | .exit .cancelled => .exit .cancelled
  | .act f c => .act f (c.bind g)
  | .test b yes no => .test b (yes.bind g) (no.bind g)
  | .await a k => .await a (fun w => (k w).bind g)

/-- `try: … except Exception: …`. -/
def tryExcept (c handler : Coroutine σ α β) : Coroutine σ α β :=
  match c with
  | .exit .raised => handler
  | .exit e => .exit e
  | .act f c => .act f (c.tryExcept handler)
  | .test b yes no => .test b (yes.tryExcept handler) (no.tryExcept handler)
  | .await a k => .await a (fun w => (k w).tryExcept handler)

/-- `try: … finally: …`; the exit of the `finally` block wins where it is left early. -/
def tryFinally (c : Coroutine σ α β) (cleanup : Coroutine σ α Unit) : Coroutine σ α β :=
  match c with
  | .exit e => cleanup.bind (fun _ => .exit e)
  | .act f c => .act f (c.tryFinally cleanup)
  | .test b yes no => .test b (yes.tryFinally cleanup) (no.tryFinally cleanup)
  | .await a k => .await a (fun w => (k w).tryFinally cleanup)

/-- A coroutine as a task: it is suspended before its first step, too. -/
def task (start : α) (c : Coroutine σ α β) : Coroutine σ α β :=
  .await start (fun w => match w with
    | .cancelled => .exit .cancelled
    | _ => c)

/-! ## Running -/

/-- Run up to the next suspension, or to the end. -/
def advance : Coroutine σ α β → σ → Coroutine σ α β × σ
  | .exit e, s => (.exit e, s)
  | .act f c, s => c.advance (f s)
  | .test b yes no, s => if b s then yes.advance s else no.advance s
  | .await a k, s => (.await a k, s)

/-- What is awaited has ended with `w`; a coroutine that has been left stays left. -/
def resume (c : Coroutine σ α β) (w : Wakeup) (s : σ) : Coroutine σ α β × σ :=
  match c with
  | .await _ k => (k w).advance s
  | c => (c, s)

/-- Where the coroutine is suspended. -/
def suspendedAt : Coroutine σ α β → Option α
  | .await a _ => some a
  | _ => none

@[simp] theorem resume_await (a : α) (k : Wakeup → Coroutine σ α β) (w : Wakeup) (s : σ) :
    (Coroutine.await a k).resume w s = (k w).advance s := rfl

@[simp] theorem resume_exit (e : Exit β) (w : Wakeup) (s : σ) :
    (Coroutine.exit e : Coroutine σ α β).resume w s = (.exit e, s) := rfl

@[simp] theorem suspendedAt_await (a : α) (k : Wakeup → Coroutine σ α β) :
    (Coroutine.await a k).suspendedAt = some a := rfl

@[simp] theorem suspendedAt_exit (e : Exit β) :
    (Coroutine.exit e : Coroutine σ α β).suspendedAt = none := rfl

/-! ## Weakest preconditions -/

end Coroutine

/-- What is known of suspensions: `inv` holds while the coroutine is suspended at a point, `rely` is
    how the environment may have changed the state when it is resumed, `note` updates the auxiliary
    value. -/
structure AwaitSpec (σ α γ : Type) where
  inv : γ → α → σ → Prop
  rely : α → Wakeup → σ → σ → Prop
  note : γ → α → Wakeup → σ → γ

namespace Coroutine

variable {σ α β β' γ : Type} (spec : AwaitSpec σ α γ)

/-- From `s`, the invariant holds at every suspension, and `Q` holds when the coroutine is left. -/
def wp (Q : γ → Exit β → σ → Prop) : Coroutine σ α β → γ → σ → Prop
  | .exit e, g, s => Q g e s
  | .act f c, g, s => wp Q c g (f s)
  | .test b yes no, g, s => (b s = true → wp Q yes g s) ∧ (b s = false → wp Q no g s)
  | .await a k, g, s =>
    spec.inv g a s ∧ ∀ w s', spec.rely a w s s' → wp Q (k w) (spec.note g a w s') s'

/-- What has to hold after the first of two coroutines. -/
def bindPost (Q : γ → Exit β' → σ → Prop) (g : β → Coroutine σ α β') : γ → Exit β → σ → Prop
  | x, .returned b, s => (g b).wp spec Q x s
  | x, .raised, s => Q x .raised s
  | x, .cancelled, s => Q x .cancelled s

/-- What has to hold after a block with a handler. -/
def exceptPost (Q : γ → Exit β → σ → Prop) (handler : Coroutine σ α β) : γ → Exit β → σ → Prop
  | x, .raised, s => handler.wp spec Q x s
  | x, e, s => Q x e s

/-- What has to hold after a block that is left with `e`, behind its `finally` block. -/
def finallyPost (Q : γ → Exit β → σ → Prop) (e : Exit β) : γ → Exit Unit → σ → Prop
  | x, .returned _, s => Q x e s
  | x, .raised, s => Q x .raised s
  | x, .cancelled, s => Q x .cancelled s

variable (Q : γ → Exit β → σ → Prop)

@[simp] theorem wp_exit (e : Exit β) (x : γ) (s : σ) :
    (Coroutine.exit e : Coroutine σ α β).wp spec Q x s ↔ Q x e s := Iff.rfl

@[simp] theorem wp_pure (b : β) (x : γ) (s : σ) :
    (Coroutine.pure b : Coroutine σ α β).wp spec Q x s ↔ Q x (.returned b) s := Iff.rfl

@[simp] theorem wp_act (f : σ → σ) (c : Coroutine σ α β) (x : γ) (s : σ) :
    (Coroutine.act f c).wp spec Q x s ↔ c.wp spec Q x (f s) := Iff.rfl

@[simp] theorem wp_test (b : σ → Bool) (yes no : Coroutine σ α β) (x : γ) (s : σ) :
    (Coroutine.test b yes no).wp spec Q x s ↔
      (b s = true → yes.wp spec Q x s) ∧ (b s = false → no.wp spec Q x s) := Iff.rfl

theorem wp_await (a : α) (k : Wakeup → Coroutine σ α β) (x : γ) (s : σ) :
    (Coroutine.await a k).wp spec Q x s ↔
      spec.inv x a s ∧ ∀ w s', spec.rely a w s s' → (k w).wp spec Q (spec.note x a w s') s' :=
      Iff.rfl

/-- **Awaiting**: the invariant holds, and the postcondition for every way the wait can end. -/
theorem wp_wait (Q : γ → Exit Unit → σ → Prop) (a : α) (x : γ) (s : σ) :
    (Coroutine.wait a).wp spec Q x s ↔ spec.inv x a s ∧
      (∀ s', spec.rely a .done s s' → Q (spec.note x a .done s') (.returned ()) s') ∧
      (∀ s', spec.rely a .failed s s' → Q (spec.note x a .failed s') .raised s') ∧
      (∀ s', spec.rely a .cancelled s s' → Q (spec.note x a .cancelled s') .cancelled s') := by
  rw [wait, wp_await]
  refine and_congr_right (fun _ => ?_)
  constructor
  · intro h
    exact ⟨h .done, h .failed, h .cancelled⟩
  · rintro ⟨hdone, hfailed, hcancelled⟩ w
    cases w with
    | done => exact hdone
    | failed => exact hfailed
    | cancelled => exact hcancelled

/-- **Sequencing.** -/
theorem wp_bind (Q : γ → Exit β' → σ → Prop) (c : Coroutine σ α β) (g : β → Coroutine σ α β')
    (x : γ) (s : σ) : (c.bind g).wp spec Q x s ↔ c.wp spec (bindPost spec Q g) x s := by
  induction c generalizing x s with
  | exit e => cases e <;> exact Iff.rfl
  | act f c ih => exact ih x (f s)
  | test b yes no ihYes ihNo =>
    exact and_congr (imp_congr_right (fun _ => ihYes x s)) (imp_congr_right (fun _ => ihNo x s))
  | await a k ih =>
    exact and_congr_right (fun _ => forall₂_congr (fun w s' =>
      imp_congr_right (fun _ => ih w (spec.note x a w s') s')))

/-- **Handling exceptions.** -/
theorem wp_tryExcept (c handler : Coroutine σ α β) (x : γ) (s : σ) :
    (c.tryExcept handler).wp spec Q x s ↔ c.wp spec (exceptPost spec Q handler) x s := by
  induction c generalizing x s with
  | exit e => cases e <;> exact Iff.rfl
  | act f c ih => exact ih x (f s)
  | test b yes no ihYes ihNo =>
    exact and_congr (imp_congr_right (fun _ => ihYes x s)) (imp_congr_right (fun _ => ihNo x s))
  | await a k ih =>
    exact and_congr_right (fun _ => forall₂_congr (fun w s' =>
      imp_congr_right (fun _ => ih w (spec.note x a w s') s')))

theorem bindPost_returned (Q : γ → Exit β' → σ → Prop) (g : β → Coroutine σ α β') (b : β) (x : γ)
    (s : σ) : bindPost spec Q g x (.returned b) s ↔ (g b).wp spec Q x s := Iff.rfl

theorem bindPost_exit (e : Exit β) :
    bindPost spec Q (fun _ : Unit => Coroutine.exit e) = finallyPost Q e := by
  funext x e' s
  cases e' <;> rfl

/-- **Cleaning up**: the cleanup runs behind every exit of the block. -/
theorem wp_tryFinally (c : Coroutine σ α β) (cleanup : Coroutine σ α Unit) (x : γ) (s : σ) :
    (c.tryFinally cleanup).wp spec Q x s ↔
      c.wp spec (fun x e s => cleanup.wp spec (finallyPost Q e) x s) x s := by
  induction c generalizing x s with
  | exit e =>
    rw [tryFinally, wp_bind, bindPost_exit]
    exact Iff.rfl
  | act f c ih => exact ih x (f s)
  | test b yes no ihYes ihNo =>
    exact and_congr (imp_congr_right (fun _ => ihYes x s)) (imp_congr_right (fun _ => ihNo x s))
  | await a k ih =>
    exact and_congr_right (fun _ => forall₂_congr (fun w s' =>
      imp_congr_right (fun _ => ih w (spec.note x a w s') s')))

theorem wp_task (start : α) (c : Coroutine σ α β) (x : γ) (s : σ) :
    (task start c).wp spec Q x s ↔ spec.inv x start s ∧
      (∀ w s', spec.rely start w s s' → w ≠ .cancelled →
        c.wp spec Q (spec.note x start w s') s') ∧
      (∀ s', spec.rely start .cancelled s s' →
        Q (spec.note x start .cancelled s') .cancelled s') := by
  rw [task, wp_await]
  refine and_congr_right (fun _ => ?_)
  constructor
  · intro h
    refine ⟨fun w s' hrely hw => ?_, fun s' hrely => h .cancelled s' hrely⟩
    have hrun := h w s' hrely
    cases w with
    | done => exact hrun
    | failed => exact hrun
    | cancelled => exact absurd rfl hw
  · rintro ⟨hrun, hcancelled⟩ w s' hrely
    cases w with
    | done => exact hrun .done s' hrely (by decide)
    | failed => exact hrun .failed s' hrely (by decide)
    | cancelled => exact hcancelled s' hrely

variable {spec Q}

/-- What the precondition promises holds at the next suspension or exit. -/
theorem wp_advance {c : Coroutine σ α β} {x : γ} {s : σ} (h : c.wp spec Q x s) :
    (c.advance s).1.wp spec Q x (c.advance s).2 := by
  induction c generalizing s with
  | exit e => exact h
  | act f c ih => exact ih h
  | test b yes no ihYes ihNo =>
    rw [advance]
    cases hb : b s with
    | true => exact ihYes (h.1 hb)
    | false => exact ihNo (h.2 hb)
  | await a k _ => exact h

/-- **One resumption** keeps the precondition. -/
theorem wp_resume {a : α} {k : Wakeup → Coroutine σ α β} {x : γ} {s s' : σ} {w : Wakeup}
    (h : (Coroutine.await a k).wp spec Q x s) (hrely : spec.rely a w s s') :
    ((Coroutine.await a k).resume w s').1.wp spec Q (spec.note x a w s')
      ((Coroutine.await a k).resume w s').2 :=
  wp_advance (h.2 w s' hrely)

theorem advance_cases (c : Coroutine σ α β) (s : σ) :
    (∃ e, (c.advance s).1 = .exit e) ∨ ∃ a k, (c.advance s).1 = .await a k := by
  induction c generalizing s with
  | exit e => exact .inl ⟨e, rfl⟩
  | act f c ih => exact ih (f s)
  | test b yes no ihYes ihNo =>
    rw [advance]
    cases b s with
    | true => exact ihYes s
    | false => exact ihNo s
  | await a k _ => exact .inr ⟨a, k, rfl⟩

end Coroutine
