import Ekaette.Lib.ProgramPool
import Mathlib.Order.Lattice

set_option autoImplicit false

/-! # Programs that read a clock

The programs of a pool share a store and a clock `τ`. A program reads the clock by a call of its
own, and any time may pass between what it read and its next call. While the clock does not go back,
nothing that a program read is later than the clock. -/

/-- A store at a point in time: that of the last call. -/
structure Clocked (τ σ : Type) where
  clock : τ
  store : σ

/-- When a call is made, and what the outside chooses for its answer. -/
structure Moment (τ ι : Type) where
  now : τ
  choice : ι

/-- A program reads the clock, or makes a call of its own. -/
inductive ClockedCall (κ : Type) where
  | now
  | op (c : κ)

/-- What the calls answer. -/
def ClockedCall.Answer {κ : Type} (τ : Type) (ρ : κ → Type) : ClockedCall κ → Type
  | .now => τ
  | .op c => ρ c

namespace Clocked

variable {τ σ κ ι : Type} {ρ : κ → Type} {α : Type}

/-! ## Programs -/

/-- A program reads the clock. -/
def readClock : CallProgram (ClockedCall κ) (ClockedCall.Answer τ ρ) τ :=
  CallProgram.ask ClockedCall.now

/-- A program makes a call. -/
def ask (c : κ) : CallProgram (ClockedCall κ) (ClockedCall.Answer τ ρ) (ρ c) :=
  CallProgram.ask (ClockedCall.op c)

/-- A program makes a call and catches its exception. -/
def attempt (c : κ) : CallProgram (ClockedCall κ) (ClockedCall.Answer τ ρ) (Option (ρ c)) :=
  CallProgram.attempt (ClockedCall.op c)

section Obeys

variable {P : List (Called (ClockedCall κ) (ClockedCall.Answer τ ρ)) → ClockedCall κ → Prop}
  {Q : List (Called (ClockedCall κ) (ClockedCall.Answer τ ρ)) → α → Prop}
  (log : List (Called (ClockedCall κ) (ClockedCall.Answer τ ρ)))

theorem obeys_readClock (f : τ → CallProgram (ClockedCall κ) (ClockedCall.Answer τ ρ) α) :
    (readClock >>= f).Obeys P Q log ↔ P log .now ∧ ∀ now,
    (f now).Obeys P Q (log ++ [⟨.now, some now⟩]) :=
  CallProgram.obeys_ask_bind log

theorem obeys_ask (c : κ) (f : ρ c → CallProgram (ClockedCall κ) (ClockedCall.Answer τ ρ) α) :
    (ask c >>= f).Obeys P Q log ↔ P log (.op c) ∧ ∀ a, (f a).Obeys P Q (log ++ [⟨.op c, some a⟩]) :=
  CallProgram.obeys_ask_bind log

theorem obeys_attempt (c : κ) (f : Option (ρ c) → CallProgram (ClockedCall κ)
    (ClockedCall.Answer τ ρ) α) : (attempt c >>= f).Obeys P Q log ↔ P log (.op c) ∧ ∀ r,
      (f r).Obeys P Q (log ++ [⟨.op c, r⟩]) := by
  rw [CallProgram.obeys_bind]
  exact CallProgram.obeys_attempt log

end Obeys

/-! ## Side by side -/

/-- The clock shows the time of the call, which the store sees. -/
def serveAt (serveOp : σ → τ → ι → (c : κ) → σ × Option (ρ c)) (s : Clocked τ σ) (m : Moment τ ι) :
    (c : ClockedCall κ) → Clocked τ σ × Option (c.Answer τ ρ)
  | .now => (⟨m.now, s.store⟩, some m.now)
  | .op c => (⟨m.now, (serveOp s.store m.now m.choice c).1⟩, (serveOp s.store m.now m.choice c).2)

/-- The store answers whatever the time. -/
abbrev serve (serveOp : σ → ι → (c : κ) → σ × Option (ρ c)) (s : Clocked τ σ) (m : Moment τ ι)
    (c : ClockedCall κ) : Clocked τ σ × Option (c.Answer τ ρ) :=
    serveAt (fun store _ => serveOp store) s m c

/-- What a call does to the reading of its program. -/
def nextReading (reading : Option τ) (called : Called (ClockedCall κ) (ClockedCall.Answer τ ρ)) :
    Option τ :=
  match called with
  | ⟨.now, some now⟩ => some now
  | _ => reading

/-- What the program read on the clock last. -/
def reading (log : List (Called (ClockedCall κ) (ClockedCall.Answer τ ρ))) : Option τ :=
  log.foldl nextReading none

@[simp] theorem reading_nil :
    reading ([] : List (Called (ClockedCall κ) (ClockedCall.Answer τ ρ))) = none := rfl

theorem reading_concat (log : List (Called (ClockedCall κ) (ClockedCall.Answer τ ρ)))
    (called : Called (ClockedCall κ) (ClockedCall.Answer τ ρ)) :
    reading (log ++ [called]) = nextReading (reading log) called := List.foldl_concat ..

/-- Programs that share a clock and a store. -/
abbrev Programs (τ σ κ : Type) (ρ : κ → Type) (α : Type) :=
  Pool (Clocked τ σ) (ClockedCall κ) (ClockedCall.Answer τ ρ) α

variable {serveOp : σ → τ → ι → (c : κ) → σ × Option (ρ c)} {s s' : Programs τ σ κ ρ α} {i : ℕ}
    {m : Moment τ ι}

theorem clock_self (h : Pool.Calls (serveAt serveOp) s i m s') : s'.shared.clock = m.now := by
  rw [h.shared]
  cases h.call with
  | now => rfl
  | op c => rfl

theorem nextReading_serveAt {before : Option τ} {r : τ} (c : ClockedCall κ) (store : Clocked τ σ)
    (h : nextReading before ⟨c, (serveAt serveOp store m c).2⟩ = some r) : r = m.now ∨
    before = some r := by
  cases c with
  | now => exact .inl (Option.some.inj h).symm
  | op c => exact .inr h

section Order

variable [LinearOrder τ]

/-- The clock does not go back. -/
def forward {task : Type} (s : Programs τ σ κ ρ α) : PoolEvent task (Moment τ ι) → Bool
  | .start _ => true
  | .resume _ m => decide (s.shared.clock ≤ m.now)

/-- No program read a time that is still to come. -/
def ReadingsPast (s : Programs τ σ κ ρ α) : Prop :=
  ∀ (i : ℕ) (t : Thread (ClockedCall κ) (ClockedCall.Answer τ ρ) α), s.threads[i]? = some t →
    ∀ r, reading t.log = some r → r ≤ s.shared.clock

theorem readingsPast_step (hs : ReadingsPast s) (h : Pool.Calls (serveAt serveOp) s i m s')
    (hforward : s.shared.clock ≤ m.now) : ReadingsPast s' := by
  intro j t hj r hr
  rw [clock_self h]
  rcases h.thread_cases hj with ⟨-, rfl⟩ | ⟨-, hold⟩
  · rcases nextReading_serveAt h.call s.shared ((reading_concat _ _).symm.trans hr) with
      rfl | hbefore
    · exact le_rfl
    · exact (hs i _ h.found r hbefore).trans hforward
  · exact (hs j t hold r hr).trans hforward

/-- **Readings are past**, step by step. -/
theorem readingsPast_next {task : Type} {program : task → CallProgram (ClockedCall κ)
    (ClockedCall.Answer τ ρ) α} (hs : ReadingsPast s) (e : PoolEvent task (Moment τ ι))
      (hforward : forward s e = true) :
    ReadingsPast ((Pool.machine (serveAt serveOp) program).next s e) := by
  cases e with
  | start a =>
    intro j t hj r hr
    rcases Pool.start_cases hj with hold | rfl
    · exact hs j t hold r hr
    · cases hr
  | resume i m =>
    rw [Pool.machine_resume]
    rcases Pool.resume_cases (serveAt serveOp) s i m with hsame | ⟨⟨h⟩⟩
    · rw [hsame]
      exact hs
    · exact readingsPast_step hs h (of_decide_eq_true hforward)

end Order

end Clocked
