import Mathlib.Data.List.Basic

set_option autoImplicit false

/-! # Programs that call out

A program works by calls `κ` to its environment. The environment answers a call `c` with a value of
the type `ρ c`, or the call raises; what it answers may depend on everything called before. `Obeys`
is the weakest precondition of a program that makes only allowed calls and returns only good values,
with one rule for each construct, and `obeys_run` is its meaning for every run. -/

/-- A program: it has returned, it has raised, or it makes a call; `none` is the answer of a call
    that raises. -/
inductive CallProgram (κ : Type) (ρ : κ → Type) (α : Type) where
  | returned (a : α)
  | raised
  | call (c : κ) (k : Option (ρ c) → CallProgram κ ρ α)

/-- A call with its answer. -/
abbrev Called (κ : Type) (ρ : κ → Type) := (c : κ) × Option (ρ c)

namespace CallProgram

variable {κ : Type} {ρ : κ → Type} {α β : Type}

/-! ## Constructs -/

/-- One after the other. -/
protected def bind (p : CallProgram κ ρ α) (f : α → CallProgram κ ρ β) : CallProgram κ ρ β :=
  match p with
  | .returned a => f a
  | .raised => .raised
  | .call c k => .call c (fun r => (k r).bind f)

instance : Monad (CallProgram κ ρ) where
  pure := .returned
  bind := CallProgram.bind

/-- A call; the program raises where the call does. -/
def ask (c : κ) : CallProgram κ ρ (ρ c) :=
  .call c (fun r => match r with
    | some a => .returned a
    | none => .raised)

/-- A call whose exception is caught. -/
def attempt (c : κ) : CallProgram κ ρ (Option (ρ c)) := .call c .returned

/-! ## Runs -/

/-- A run in a world that answers by what was called before: all calls, and the value if one is
    returned. -/
def run (world : List (Called κ ρ) → (c : κ) → Option (ρ c)) :
    CallProgram κ ρ α → List (Called κ ρ) → List (Called κ ρ) × Option α
  | .returned a, log => (log, some a)
  | .raised, log => (log, none)
  | .call c k, log => (k (world log c)).run world (log ++ [⟨c, world log c⟩])

/-! ## Weakest preconditions -/

/-- From this log on, every call is allowed by `P` and every value is good by `Q`, whatever the
    calls answer. Both see what was called before. -/
def Obeys (P : List (Called κ ρ) → κ → Prop) (Q : List (Called κ ρ) → α → Prop) :
    CallProgram κ ρ α → List (Called κ ρ) → Prop
  | .returned a, log => Q log a
  | .raised, _ => True
  | .call c k, log => P log c ∧ ∀ r, (k r).Obeys P Q (log ++ [⟨c, r⟩])

variable {P : List (Called κ ρ) → κ → Prop} {Q : List (Called κ ρ) → α → Prop}

@[simp] theorem obeys_pure (a : α) (log : List (Called κ ρ)) :
    (pure a : CallProgram κ ρ α).Obeys P Q log ↔ Q log a := Iff.rfl

/-- **Sequencing.** -/
theorem obeys_bind (p : CallProgram κ ρ β) (f : β → CallProgram κ ρ α) (log : List (Called κ ρ)) :
    (p >>= f).Obeys P Q log ↔ p.Obeys P (fun log b => (f b).Obeys P Q log) log := by
  show (p.bind f).Obeys P Q log ↔ _
  induction p generalizing log with
  | returned b => exact Iff.rfl
  | raised => exact Iff.rfl
  | call c k ih => exact and_congr_right (fun _ => forall_congr' (fun r => ih r (log ++ [⟨c, r⟩])))

/-- **Calling.** -/
theorem obeys_ask {c : κ} {Q : List (Called κ ρ) → ρ c → Prop} (log : List (Called κ ρ)) :
    (ask c).Obeys P Q log ↔ P log c ∧ ∀ a, Q (log ++ [⟨c, some a⟩]) a := by
  refine and_congr_right (fun _ => ?_)
  constructor
  · intro h a
    exact h (some a)
  · intro h r
    cases r with
    | none => exact trivial
    | some a => exact h a

theorem obeys_attempt {c : κ} {Q : List (Called κ ρ) → Option (ρ c) → Prop}
    (log : List (Called κ ρ)) : (attempt c).Obeys P Q log ↔ P log c ∧ ∀ r, Q (log ++ [⟨c, r⟩]) r :=
    Iff.rfl

/-- **A call, and what follows.** -/
theorem obeys_ask_bind {c : κ} {f : ρ c → CallProgram κ ρ α} (log : List (Called κ ρ)) :
    (ask c >>= f).Obeys P Q log ↔ P log c ∧ ∀ a, (f a).Obeys P Q (log ++ [⟨c, some a⟩]) := by
  rw [obeys_bind, obeys_ask]

/-- What allows less and promises more. -/
theorem Obeys.mono {P' : List (Called κ ρ) → κ → Prop} {Q' : List (Called κ ρ) → α → Prop}
    {p : CallProgram κ ρ α} {log : List (Called κ ρ)} (h : p.Obeys P Q log)
    (hP : ∀ log c, P log c → P' log c) (hQ : ∀ log a, Q log a → Q' log a) : p.Obeys P' Q' log := by
  induction p generalizing log with
  | returned a => exact hQ log a h
  | raised => exact trivial
  | call c k ih => exact ⟨hP log c h.1, fun r => ih r (h.2 r)⟩

theorem obeys_trivial (p : CallProgram κ ρ α) (log : List (Called κ ρ)) :
    p.Obeys (fun _ _ => True) (fun _ _ => True) log := by
  induction p generalizing log with
  | returned a => exact trivial
  | raised => exact trivial
  | call c k ih => exact ⟨trivial, fun r => ih r (log ++ [⟨c, r⟩])⟩

/-- What no call undoes holds at every call and at the end. -/
theorem Obeys.along {S : List (Called κ ρ) → Prop} (hS : ∀ log called, S log → S (log ++ [called]))
    {p : CallProgram κ ρ α} {log : List (Called κ ρ)} (h : p.Obeys P Q log) (hlog : S log) :
    p.Obeys (fun log c => S log ∧ P log c) (fun log a => S log ∧ Q log a) log := by
  induction p generalizing log with
  | returned a => exact ⟨hlog, h⟩
  | raised => exact trivial
  | call c k ih => exact ⟨⟨hlog, h.1⟩, fun r => ih r (h.2 r) (hS log _ hlog)⟩

/-- One after the other, where the first one promises what the second one needs. -/
theorem Obeys.bind {R : List (Called κ ρ) → β → Prop} {p : CallProgram κ ρ β}
    {f : β → CallProgram κ ρ α} {log : List (Called κ ρ)} (h : p.Obeys P R log)
    (hf : ∀ log b, R log b → (f b).Obeys P Q log) : (p >>= f).Obeys P Q log :=
  (obeys_bind p f log).2 (h.mono (fun _ _ hallowed => hallowed) hf)

theorem obeys_ite (c : Prop) [Decidable c] (p p' : CallProgram κ ρ α) (log : List (Called κ ρ)) :
    (if c then p else p').Obeys P Q log ↔ (c → p.Obeys P Q log) ∧ (¬ c → p'.Obeys P Q log) := by
  by_cases hc : c
  · rw [if_pos hc]
    exact ⟨fun h => ⟨fun _ => h, fun hnot => absurd hc hnot⟩, fun h => h.1 hc⟩
  · rw [if_neg hc]
    exact ⟨fun h => ⟨fun hyes => absurd hyes hc, fun _ => h⟩, fun h => h.2 hc⟩

/-! ## The calls of a program -/

/-- All calls of the program satisfy `A`, whatever they answer. -/
def Makes (A : κ → Prop) (p : CallProgram κ ρ α) : Prop :=
  ∀ log, p.Obeys (fun _ c => A c) (fun _ _ => True) log

variable {A B : κ → Prop}

theorem makes_pure (a : α) : (pure a : CallProgram κ ρ α).Makes A := fun _ => trivial

theorem makes_ask {c : κ} (h : A c) : (ask c : CallProgram κ ρ (ρ c)).Makes A :=
  fun log => (obeys_ask log).2 ⟨h, fun _ => trivial⟩

theorem Makes.bind {p : CallProgram κ ρ β} {f : β → CallProgram κ ρ α} (hp : p.Makes A)
    (hf : ∀ b, (f b).Makes A) : (p >>= f).Makes A :=
  fun log => (hp log).bind (fun log b _ => hf b log)

theorem Makes.mono {p : CallProgram κ ρ α} (h : p.Makes A) (hAB : ∀ c, A c → B c) : p.Makes B :=
  fun log => (h log).mono (fun _ c => hAB c) (fun _ _ _ => trivial)

/-- A program that makes such calls only, where all of them are allowed, leaves a log that such
    calls have extended. -/
theorem Makes.obeys {p : CallProgram κ ρ α} (h : p.Makes A) (hP : ∀ log c, A c → P log c)
    {log : List (Called κ ρ)}
    (hQ : ∀ calls a, (∀ t ∈ calls, A t.1) → Q (log ++ calls) a) : p.Obeys P Q log := by
  replace h := h log
  induction p generalizing log with
  | returned a =>
    have hself := hQ [] a (fun t ht => absurd ht List.not_mem_nil)
    rwa [List.append_nil] at hself
  | raised => exact trivial
  | call c k ih =>
    refine ⟨hP log c h.1, fun r => ih r (fun calls a hcalls => ?_) (h.2 r)⟩
    rw [List.append_assoc]
    refine hQ _ a (fun t ht => ?_)
    rcases List.mem_append.1 ht with ht | ht
    · rw [List.mem_singleton.1 ht]
      exact h.1
    · exact hcalls t ht

theorem mem_run (world : List (Called κ ρ) → (c : κ) → Option (ρ c)) {p : CallProgram κ ρ α}
    {log : List (Called κ ρ)} {t : Called κ ρ} (h : t ∈ (p.run world log).1) :
    t ∈ log ∨ ∃ log', t.2 = world log' t.1 := by
  induction p generalizing log with
  | returned a => exact Or.inl h
  | raised => exact Or.inl h
  | call c k ih =>
    rcases ih (world log c) h with hlog | hworld
    · rcases List.mem_append.1 hlog with hlog | hlog
      · exact Or.inl hlog
      · rw [List.mem_singleton.1 hlog]
        exact Or.inr ⟨log, rfl⟩
    · exact Or.inr hworld

/-! ## Whole runs -/

/-- **Whole runs**: a program that obeys makes allowed calls only, and returns good values only. -/
theorem obeys_run (world : List (Called κ ρ) → (c : κ) → Option (ρ c)) {p : CallProgram κ ρ α}
    {log : List (Called κ ρ)} (h : p.Obeys P Q log) :
    ∃ calls, (p.run world log).1 = log ++ calls ∧
      (∀ before t after, calls = before ++ t :: after → P (log ++ before) t.1) ∧
      ∀ a, (p.run world log).2 = some a → Q (log ++ calls) a := by
  induction p generalizing log with
  | returned a =>
    refine ⟨[], (List.append_nil log).symm, fun before t after hcalls => ?_, fun b hb => ?_⟩
    · exact absurd hcalls.symm (List.append_ne_nil_of_right_ne_nil before
        (List.cons_ne_nil t after))
    · rw [List.append_nil, ← Option.some_inj.1 hb]
      exact h
  | raised =>
    refine ⟨[], (List.append_nil log).symm, fun before t after hcalls => ?_, fun b hb => ?_⟩
    · exact absurd hcalls.symm (List.append_ne_nil_of_right_ne_nil before
        (List.cons_ne_nil t after))
    · cases hb
  | call c k ih =>
    obtain ⟨calls, hlog, hallowed, hvalue⟩ := ih (world log c) (h.2 (world log c))
    refine ⟨⟨c, world log c⟩ :: calls, ?_, fun before t after hcalls => ?_, fun a ha => ?_⟩
    · rw [run, hlog, List.append_assoc, List.singleton_append]
    · cases before with
      | nil =>
        obtain ⟨rfl, -⟩ := List.cons.inj hcalls
        rw [List.append_nil]
        exact h.1
      | cons first before =>
        obtain ⟨rfl, hrest⟩ := List.cons.inj hcalls
        rw [← List.singleton_append, ← List.append_assoc]
        exact hallowed before t after hrest
    · rw [← List.singleton_append, ← List.append_assoc]
      exact hvalue a ha

/-! ## Another interface -/

/-- The program makes its calls under other names, which answer the same. -/
def relabel {κ' : Type} (ρ' : κ' → Type) (f : κ → κ') :
    CallProgram κ (fun c => ρ' (f c)) α → CallProgram κ' ρ' α
  | .returned a => .returned a
  | .raised => .raised
  | .call c k => .call (f c) (fun r => (k r).relabel ρ' f)

/-- The conditions of a program under other names. -/
theorem obeys_relabel {κ' : Type} (ρ' : κ' → Type) (f : κ → κ') {P : List (Called κ' ρ') → κ' →
    Prop} {Q : List (Called κ' ρ') → α → Prop} (p : CallProgram κ (fun c => ρ' (f c)) α)
      (before : List (Called κ' ρ'))
    (log : List (Called κ (fun c => ρ' (f c)))) :
    (p.relabel ρ' f).Obeys P Q (before ++ log.map (fun t => ⟨f t.1, t.2⟩)) ↔
      p.Obeys (fun log c => P (before ++ log.map (fun t => ⟨f t.1, t.2⟩)) (f c))
        (fun log a => Q (before ++ log.map (fun t => ⟨f t.1, t.2⟩)) a) log := by
  induction p generalizing log with
  | returned a => exact Iff.rfl
  | raised => exact Iff.rfl
  | call c k ih =>
    refine and_congr_right (fun _ => forall_congr' (fun r => ?_))
    have hnext := ih r (log ++ [⟨c, r⟩])
    rw [List.map_append, ← List.append_assoc] at hnext
    exact hnext

/-! ## Raising -/

/-- The program raises only where `E` holds of what was called, whatever the calls answer. -/
def RaisesOnly (E : List (Called κ ρ) → Prop) : CallProgram κ ρ α → List (Called κ ρ) → Prop
  | .returned _, _ => True
  | .raised, log => E log
  | .call c k, log => ∀ r, (k r).RaisesOnly E (log ++ [⟨c, r⟩])

section Raising

variable {E : List (Called κ ρ) → Prop}

theorem raisesOnly_ask {c : κ} (log : List (Called κ ρ)) (h : E (log ++ [⟨c, none⟩])) :
    (ask c : CallProgram κ ρ (ρ c)).RaisesOnly E log := by
  intro r
  cases r with
  | none => exact h
  | some a => exact trivial

theorem raisesOnly_attempt (c : κ) (log : List (Called κ ρ)) :
    (attempt c : CallProgram κ ρ (Option (ρ c))).RaisesOnly E log := fun _ => trivial

/-- **Sequencing**: where the first part returns, the second one decides. -/
theorem RaisesOnly.bind {p : CallProgram κ ρ β} {f : β → CallProgram κ ρ α}
    {log : List (Called κ ρ)} (hp : p.RaisesOnly E log)
    (hf : p.Obeys (fun _ _ => True) (fun log b => (f b).RaisesOnly E log) log) :
    (p >>= f).RaisesOnly E log := by
  show (p.bind f).RaisesOnly E log
  induction p generalizing log with
  | returned b => exact hf
  | raised => exact hp
  | call c k ih => exact fun r => ih r (hp r) (hf.2 r)

theorem RaisesOnly.mono {E' : List (Called κ ρ) → Prop} {p : CallProgram κ ρ α}
    {log : List (Called κ ρ)} (h : p.RaisesOnly E log) (hE : ∀ log, E log → E' log) :
    p.RaisesOnly E' log := by
  induction p generalizing log with
  | returned a => exact trivial
  | raised => exact hE log h
  | call c k ih => exact fun r => ih r (h r)

theorem raisesOnly_relabel {κ' : Type} (ρ' : κ' → Type) (f : κ → κ')
    {E : List (Called κ' ρ') → Prop} (p : CallProgram κ (fun c => ρ' (f c)) α)
    (before : List (Called κ' ρ')) (log : List (Called κ (fun c => ρ' (f c)))) :
    (p.relabel ρ' f).RaisesOnly E (before ++ log.map (fun t => ⟨f t.1, t.2⟩)) ↔
      p.RaisesOnly (fun log => E (before ++ log.map (fun t => ⟨f t.1, t.2⟩))) log := by
  induction p generalizing log with
  | returned a => exact Iff.rfl
  | raised => exact Iff.rfl
  | call c k ih =>
    refine forall_congr' (fun r => ?_)
    have hnext := ih r (log ++ [⟨c, r⟩])
    rw [List.map_append, ← List.append_assoc] at hnext
    exact hnext

end Raising

/-! ## Promises along a run -/

/-- Every call was allowed when it was made. -/
def Conforms (P : List (Called κ ρ) → κ → Prop) (log : List (Called κ ρ)) : Prop :=
  ∀ before called after, log = before ++ called :: after → P before called.1

theorem conforms_nil : Conforms P [] :=
  fun before called after h =>
    absurd h.symm (List.append_ne_nil_of_right_ne_nil before (List.cons_ne_nil called after))

theorem Conforms.concat {log : List (Called κ ρ)} {called : Called κ ρ} (h : Conforms P log)
    (hcalled : P log called.1) : Conforms P (log ++ [called]) := by
  intro before c after heq
  rcases List.eq_nil_or_concat after with rfl | ⟨after, last, rfl⟩
  · obtain ⟨rfl, hc⟩ := List.append_inj' heq rfl
    obtain ⟨rfl, -⟩ := List.cons.inj hc
    exact hcalled
  · rw [List.concat_eq_append, ← List.cons_append, ← List.append_assoc] at heq
    exact h before c after (List.append_inj' heq rfl).1

theorem Conforms.of_concat {log : List (Called κ ρ)} {called : Called κ ρ}
    (h : Conforms P (log ++ [called])) : Conforms P log ∧ P log called.1 := by
  refine ⟨fun before c after heq => h before c (after ++ [called]) ?_, h log called [] rfl⟩
  rw [heq, List.append_assoc, List.cons_append]

/-- A promise about a program and what it called is steady if no call breaks it. -/
def Steady (Φ : CallProgram κ ρ α → List (Called κ ρ) → Prop) : Prop :=
  ∀ c k log, Φ (.call c k) log → ∀ r, Φ (k r) (log ++ [⟨c, r⟩])

/-- The program has made allowed calls only, and goes on so; it returns good values, and raises
    where it may. -/
structure Conforming (P : List (Called κ ρ) → κ → Prop) (Q : List (Called κ ρ) → α → Prop)
    (E : List (Called κ ρ) → Prop) (p : CallProgram κ ρ α) (log : List (Called κ ρ)) : Prop where
  called : Conforms P log
  ahead : p.Obeys P Q log
  raises : p.RaisesOnly E log

theorem steady_conforming (E : List (Called κ ρ) → Prop) : Steady (Conforming P Q E) :=
  fun _ _ _ h r => ⟨h.called.concat h.ahead.1, h.ahead.2 r, h.raises r⟩

/-- **Whole runs** keep a steady promise. -/
theorem Steady.run {Φ : CallProgram κ ρ α → List (Called κ ρ) → Prop} (hsteady : Steady Φ)
    (world : List (Called κ ρ) → (c : κ) → Option (ρ c)) {p : CallProgram κ ρ α}
    {log : List (Called κ ρ)} (h : Φ p log) : match (p.run world log).2 with
      | some a => Φ (.returned a) (p.run world log).1
      | none => Φ .raised (p.run world log).1 := by
  induction p generalizing log with
  | returned a => exact h
  | raised => exact h
  | call c k ih => exact ih (world log c) (hsteady c k log h (world log c))

end CallProgram
