import Ekaette.Lib.CallProgram
import Ekaette.Lib.EventMachine
import Mathlib.Data.List.Perm.Basic

set_option autoImplicit false

/-! # Programs that run side by side

Programs that call out share a state `σ`, which answers their calls. Any number of them may be
started, and at each step one of them makes its next call; `ι` is what the outside chooses for the
answer. A program that is not resumed again is one that was given up, so runs in which programs end
early are runs as well.

Every program of a pool goes on obeying its own conditions, whatever the others do. -/

/-- A program of a pool: what it called so far, and what is left of it. -/
structure Thread (κ : Type) (ρ : κ → Type) (α : Type) where
  log : List (Called κ ρ)
  program : CallProgram κ ρ α

/-- Programs, the state they share, and all calls that were made, oldest first. -/
structure Pool (σ κ : Type) (ρ : κ → Type) (α : Type) where
  shared : σ
  threads : List (Thread κ ρ α) := []
  history : List (Called κ ρ) := []

/-- The program of a task is started, or the `i`-th program makes its next call. -/
inductive PoolEvent (τ ι : Type) where
  | start (task : τ)
  | resume (i : ℕ) (choice : ι)

namespace Pool

variable {σ κ : Type} {ρ : κ → Type} {α τ ι : Type}

/-- The `i`-th program makes its next call; one that has ended makes none. -/
def resume (serve : σ → ι → (c : κ) → σ × Option (ρ c)) (s : Pool σ κ ρ α) (i : ℕ) (choice : ι) :
    Pool σ κ ρ α :=
  match s.threads[i]? with
  | some ⟨log, .call c k⟩ =>
    let (shared, answer) := serve s.shared choice c
    { shared := shared
      threads := s.threads.set i ⟨log ++ [⟨c, answer⟩], k answer⟩
      history := s.history ++ [⟨c, answer⟩] }
  | _ => s

/-- The pool as a machine, for tasks with these programs. -/
def machine (serve : σ → ι → (c : κ) → σ × Option (ρ c)) (program : τ → CallProgram κ ρ α) :
    EventMachine (Pool σ κ ρ α) (PoolEvent τ ι) Unit where
  step s e := match e with
    | .start task => ({ s with threads := s.threads ++ [⟨[], program task⟩] }, ())
    | .resume i choice => (s.resume serve i choice, ())

variable {serve : σ → ι → (c : κ) → σ × Option (ρ c)} {program : τ → CallProgram κ ρ α}
  {s s' : Pool σ κ ρ α}

theorem machine_start (task : τ) : (machine serve program).next s (.start task) =
    { s with threads := s.threads ++ [⟨[], program task⟩] } := rfl

theorem machine_resume (i : ℕ) (choice : ι) :
    (machine serve program).next s (.resume i choice) = s.resume serve i choice := rfl

theorem start_cases {p : CallProgram κ ρ α} {j : ℕ} {t : Thread κ ρ α}
    (hj : (s.threads ++ [⟨[], p⟩])[j]? = some t) : s.threads[j]? = some t ∨ t = ⟨[], p⟩ := by
  rcases Nat.lt_or_ge j s.threads.length with hlt | hge
  · rw [List.getElem?_append_left hlt] at hj
    exact .inl hj
  · rw [List.getElem?_append_right hge] at hj
    exact .inr (List.mem_singleton.1 (List.mem_of_getElem? hj))

/-- The `i`-th program makes the call `c`, and goes on with its answer. -/
structure Calls (serve : σ → ι → (c : κ) → σ × Option (ρ c)) (s : Pool σ κ ρ α) (i : ℕ) (choice : ι)
    (s' : Pool σ κ ρ α) where
  log : List (Called κ ρ)
  call : κ
  next : Option (ρ call) → CallProgram κ ρ α
  found : s.threads[i]? = some ⟨log, .call call next⟩
  shared : s'.shared = (serve s.shared choice call).1
  threads : s'.threads = s.threads.set i
    ⟨log ++ [⟨call, (serve s.shared choice call).2⟩], next (serve s.shared choice call).2⟩
  history : s'.history = s.history ++ [⟨call, (serve s.shared choice call).2⟩]

/-- **What a step does**: nothing, or it makes one call. -/
theorem resume_cases (serve : σ → ι → (c : κ) → σ × Option (ρ c)) (s : Pool σ κ ρ α) (i : ℕ)
    (choice : ι) : s.resume serve i choice = s ∨
    Nonempty (Calls serve s i choice (s.resume serve i choice)) := by
  unfold resume
  split
  · next log c k hfound => exact .inr ⟨⟨log, c, k, hfound, rfl, rfl, rfl⟩⟩
  · exact .inl rfl

section Calls

variable {i : ℕ} {choice : ι}

/-- The answer of the call. -/
def Calls.answer (h : Calls serve s i choice s') : Option (ρ h.call) :=
  (serve s.shared choice h.call).2

/-- The program after the call. -/
def Calls.after (h : Calls serve s i choice s') : Thread κ ρ α :=
  ⟨h.log ++ [⟨h.call, h.answer⟩], h.next h.answer⟩

theorem Calls.thread_self (h : Calls serve s i choice s') : s'.threads[i]? = some h.after := by
  rw [h.threads, List.getElem?_set_self (List.getElem?_eq_some_iff.1 h.found).1]
  rfl

theorem Calls.thread_other (h : Calls serve s i choice s') {j : ℕ} (hj : j ≠ i) :
    s'.threads[j]? = s.threads[j]? := by
  rw [h.threads, List.getElem?_set_ne (Ne.symm hj)]

theorem Calls.thread_cases (h : Calls serve s i choice s') {j : ℕ} {t : Thread κ ρ α}
    (hj : s'.threads[j]? = some t) :
    (j = i ∧ t = h.after) ∨ (j ≠ i ∧ s.threads[j]? = some t) := by
  by_cases hji : j = i
  · subst hji
    rw [h.thread_self, Option.some.injEq] at hj
    exact .inl ⟨rfl, hj.symm⟩
  · rw [h.thread_other hji] at hj
    exact .inr ⟨hji, hj⟩

end Calls

/-- **Logs grow**, step by step. -/
theorem log_prefix_next (serve : σ → ι → (c : κ) → σ × Option (ρ c))
    (program : τ → CallProgram κ ρ α) (e : PoolEvent τ ι) {j : ℕ} {t : Thread κ ρ α}
    (hj : s.threads[j]? = some t) : ∃ t', ((machine serve program).next s e).threads[j]? = some t' ∧
    t.log <+: t'.log := by
  cases e with
  | start task =>
    refine ⟨t, ?_, List.prefix_rfl⟩
    show (s.threads ++ _)[j]? = some t
    rw [List.getElem?_append_left (List.getElem?_eq_some_iff.1 hj).1]
    exact hj
  | resume i choice =>
    rw [machine_resume]
    rcases resume_cases serve s i choice with hsame | ⟨⟨h⟩⟩
    · rw [hsame]
      exact ⟨t, hj, List.prefix_rfl⟩
    · by_cases hji : j = i
      · subst hji
        have hself := Option.some.inj (hj.symm.trans h.found)
        subst hself
        exact ⟨h.after, h.thread_self, List.prefix_append _ _⟩
      · exact ⟨t, (h.thread_other hji).trans hj, List.prefix_rfl⟩

theorem log_prefix_run (serve : σ → ι → (c : κ) → σ × Option (ρ c))
    (program : τ → CallProgram κ ρ α) (es : List (PoolEvent τ ι)) {j : ℕ} {t : Thread κ ρ α}
    (hj : s.threads[j]? = some t) : ∃ t', ((machine serve program).run s es).threads[j]? = some t' ∧
    t.log <+: t'.log := by
  induction es generalizing s t with
  | nil => exact ⟨t, hj, List.prefix_rfl⟩
  | cons e es ih =>
    obtain ⟨t', ht', hprefix⟩ := log_prefix_next serve program e hj
    obtain ⟨t'', ht'', hprefix'⟩ := ih ht'
    exact ⟨t'', ht'', hprefix.trans hprefix'⟩

/-- The history is what the programs called. -/
def Logged (s : Pool σ κ ρ α) : Prop :=
  ∀ called, called ∈ s.history ↔ ∃ (i : ℕ) (t : Thread κ ρ α), s.threads[i]? = some t ∧
    called ∈ t.log

theorem logged_next (hs : Logged s) (e : PoolEvent τ ι) :
    Logged ((machine serve program).next s e) := by
  intro called
  cases e with
  | start task =>
    refine (hs called).trans ⟨fun ⟨i, t, ht, hmem⟩ => ⟨i, t, ?_, hmem⟩, fun ⟨i, t, ht, hmem⟩ => ?_⟩
    · show (s.threads ++ _)[i]? = some t
      rw [List.getElem?_append_left (List.getElem?_eq_some_iff.1 ht).1]
      exact ht
    · rcases start_cases ht with hold | rfl
      · exact ⟨i, t, hold, hmem⟩
      · cases hmem
  | resume i choice =>
    rw [machine_resume]
    rcases resume_cases serve s i choice with hsame | ⟨⟨h⟩⟩
    · rw [hsame]
      exact hs called
    · rw [h.history, List.mem_append, List.mem_singleton, hs called]
      constructor
      · rintro (⟨j, t, ht, hmem⟩ | rfl)
        · by_cases hji : j = i
          · subst hji
            obtain rfl := Option.some.inj (h.found.symm.trans ht)
            exact ⟨j, h.after, h.thread_self, List.mem_append_left _ hmem⟩
          · exact ⟨j, t, (h.thread_other hji).trans ht, hmem⟩
        · exact ⟨i, h.after, h.thread_self, List.mem_append_right _ (List.mem_singleton_self _)⟩
      · rintro ⟨j, t, ht, hmem⟩
        rcases h.thread_cases ht with ⟨-, rfl⟩ | ⟨-, hold⟩
        · rcases List.mem_append.1 hmem with hbefore | hlast
          · exact .inl ⟨i, _, h.found, hbefore⟩
          · exact .inr (List.mem_singleton.1 hlast)
        · exact .inl ⟨j, t, hold, hmem⟩

/-! ## Conditions on programs -/

/-- Every program makes allowed calls only, and returns good values only, from here on. -/
def Obeyed (P : List (Called κ ρ) → κ → Prop) (Q : List (Called κ ρ) → α → Prop)
    (s : Pool σ κ ρ α) : Prop :=
  ∀ (i : ℕ) (t : Thread κ ρ α), s.threads[i]? = some t → t.program.Obeys P Q t.log

variable {P : List (Called κ ρ) → κ → Prop} {Q : List (Called κ ρ) → α → Prop}

theorem Obeyed.call (hs : Obeyed P Q s) {i : ℕ} {choice : ι} (h : Calls serve s i choice s') :
    P h.log h.call ∧ h.after.program.Obeys P Q h.after.log := by
  have hcall := hs i _ h.found
  exact ⟨hcall.1, hcall.2 h.answer⟩

/-- **Side by side**: programs that obey alone obey together. -/
theorem obeyed_next (hs : Obeyed P Q s) (e : PoolEvent τ ι)
    (hstart : ∀ task, e = .start task → (program task).Obeys P Q []) :
    Obeyed P Q ((machine serve program).next s e) := by
  intro j t hj
  cases e with
  | start task =>
    rw [machine_start] at hj
    rcases start_cases hj with hold | rfl
    · exact hs j t hold
    · exact hstart task rfl
  | resume i choice =>
    rw [machine_resume] at hj
    rcases resume_cases serve s i choice with hsame | ⟨⟨h⟩⟩
    · rw [hsame] at hj
      exact hs j t hj
    · rcases h.thread_cases hj with ⟨rfl, rfl⟩ | ⟨_, hold⟩
      · exact (hs.call h).2
      · exact hs j t hold

/-! ## Programs and their tasks -/

/-- The tasks that are started, oldest first. -/
def started : List (PoolEvent τ ι) → List τ
  | [] => []
  | .start task :: es => task :: started es
  | .resume _ _ :: es => started es

/-- The programs are those of the tasks, in this order, and each has what is promised for its own
    task. -/
structure Serving (Φ : τ → CallProgram κ ρ α → List (Called κ ρ) → Prop) (tasks : List τ)
    (s : Pool σ κ ρ α) :
    Prop where
  length : tasks.length = s.threads.length
  holds : ∀ (i : ℕ) (task : τ) (t : Thread κ ρ α), tasks[i]? = some task → s.threads[i]? = some t →
    Φ task t.program t.log

section Serving

variable {Φ : τ → CallProgram κ ρ α → List (Called κ ρ) → Prop} {tasks : List τ}

theorem Serving.start (h : Serving Φ tasks s) {task : τ} {p : CallProgram κ ρ α}
    (hprogram : Φ task p []) : Serving Φ (tasks ++ [task])
    { s with threads := s.threads ++ [⟨[], p⟩] } where
  length := by
    rw [List.length_append, List.length_append, h.length]
    rfl
  holds i task' t htask ht := by
    rcases Nat.lt_or_ge i tasks.length with hlt | hge
    · rw [List.getElem?_append_left hlt] at htask
      rw [List.getElem?_append_left (h.length ▸ hlt)] at ht
      exact h.holds i task' t htask ht
    · rw [List.getElem?_append_right hge] at htask
      rw [List.getElem?_append_right (h.length ▸ hge)] at ht
      rw [List.mem_singleton.1 (List.mem_of_getElem? htask),
        List.mem_singleton.1 (List.mem_of_getElem? ht)]
      exact hprogram

theorem Serving.resume (h : Serving Φ tasks s) (hsteady : ∀ task, CallProgram.Steady (Φ task))
    (i : ℕ) (choice : ι) : Serving Φ tasks (s.resume serve i choice) := by
  rcases resume_cases serve s i choice with hsame | ⟨⟨hcall⟩⟩
  · rw [hsame]
    exact h
  · refine ⟨by rw [hcall.threads, List.length_set, h.length], fun j task t htask ht => ?_⟩
    rcases hcall.thread_cases ht with ⟨rfl, rfl⟩ | ⟨-, hold⟩
    · exact hsteady task _ _ _ (h.holds j task _ htask hcall.found) hcall.answer
    · exact h.holds j task t htask hold

/-- **Side by side, each for its own task**: what is promised for a program alone holds of it in the
    pool. -/
theorem serving_run (hsteady : ∀ task, CallProgram.Steady (Φ task))
    (hprogram : ∀ task, Φ task (program task) [])
    (es : List (PoolEvent τ ι)) (h : Serving Φ tasks s) :
    Serving Φ (tasks ++ started es) ((machine serve program).run s es) := by
  induction es generalizing s tasks with
  | nil =>
    rw [started, List.append_nil]
    exact h
  | cons e es ih =>
    cases e with
    | start task =>
      rw [started, ← List.singleton_append, ← List.append_assoc]
      exact ih (h.start (hprogram task))
    | resume i choice => exact ih (h.resume hsteady i choice)

theorem serving_empty (shared : σ) : Serving Φ [] (⟨shared, [], []⟩ : Pool σ κ ρ α) :=
  ⟨rfl, fun _ _ _ h => nomatch h⟩

end Serving

/-- The history is made of the calls of the programs. -/
def Accounted (s : Pool σ κ ρ α) : Prop := s.history.Perm (s.threads.flatMap (·.log))

theorem accounted_next (h : Accounted s) (e : PoolEvent τ ι) :
    Accounted ((machine serve program).next s e) := by
  unfold Accounted at h ⊢
  cases e with
  | start task =>
    rw [machine_start, List.flatMap_append]
    exact (List.append_nil _).symm ▸ h
  | resume i choice =>
    rw [machine_resume]
    rcases resume_cases serve s i choice with hsame | ⟨⟨hcall⟩⟩
    · rw [hsame]
      exact h
    · obtain ⟨hlt, hget⟩ := List.getElem?_eq_some_iff.1 hcall.found
      rw [hcall.history, hcall.threads]
      -- only the log of the program that calls grows
      have hsplit : s.threads = s.threads.take i ++ ⟨hcall.log, .call hcall.call hcall.next⟩ ::
          s.threads.drop (i + 1) := by
        rw [← hget, List.getElem_cons_drop, List.take_append_drop]
      rw [List.set_eq_take_append_cons_drop, if_pos hlt, List.flatMap_append, List.flatMap_cons]
      rw [hsplit, List.flatMap_append, List.flatMap_cons] at h
      refine (h.append_right _).trans ?_
      simp only [List.append_assoc]
      refine List.Perm.append_left _ (List.Perm.append_left _ ?_)
      exact List.perm_append_comm

theorem accounted_run (es : List (PoolEvent τ ι)) (h : Accounted s) :
    Accounted ((machine serve program).run s es) := by
  induction es generalizing s with
  | nil => exact h
  | cons e es ih => exact ih (accounted_next h e)

theorem Accounted.subset (h : Accounted s) {t : Thread κ ρ α} (ht : t ∈ s.threads) :
    t.log ⊆ s.history :=
  fun _ hcalled => h.mem_iff.2 (List.mem_flatMap.2 ⟨t, ht, hcalled⟩)

theorem accounted_empty (shared : σ) : Accounted (⟨shared, [], []⟩ : Pool σ κ ρ α) :=
  List.Perm.refl _

/-! ## Contributions -/

section Contributions

section

variable {ι γ : Type} {S : ι → γ → Prop} {p : ι → Bool}

/-- Where each source contributes one thing at most, the contributions belong to sources of their
    own. -/
theorem forall₂_flatMap {f : ι → List γ} {sources : List ι}
    (hone : ∀ b ∈ sources, f b = [] ∨ ∃ c, f b = [c] ∧ p b = true ∧ S b c) :
    ∃ ts, ts.Sublist (sources.filter p) ∧ List.Forall₂ S ts (sources.flatMap f) := by
  induction sources with
  | nil => exact ⟨[], List.Sublist.refl _, .nil⟩
  | cons b sources ih =>
    obtain ⟨ts, hsub, hts⟩ := ih (fun b hb => hone b (List.mem_cons_of_mem _ hb))
    rw [List.flatMap_cons]
    rcases hone b List.mem_cons_self with hnone | ⟨c, hc, hp, hS⟩
    · rw [hnone]
      exact ⟨ts, hsub.trans ((List.sublist_cons_self b sources).filter p), hts⟩
    · rw [hc]
      exact ⟨b :: ts, by rw [List.filter_cons_of_pos hp]; exact hsub.cons_cons b, .cons hS hts⟩

theorem forall₂_of_sublist {ts : List ι} {cs cs' : List γ} (hsub : cs'.Sublist cs)
    (h : List.Forall₂ S ts cs) : ∃ ts', ts'.Sublist ts ∧ List.Forall₂ S ts' cs' := by
  induction hsub generalizing ts with
  | slnil => exact ⟨ts, List.Sublist.refl _, h⟩
  | cons c _ ih =>
    cases h with
    | cons hfirst hrest =>
      obtain ⟨ts', hts, hS⟩ := ih hrest
      exact ⟨ts', hts.cons _, hS⟩
  | cons_cons c _ ih =>
    cases h with
    | cons hfirst hrest =>
      obtain ⟨ts', hts, hS⟩ := ih hrest
      exact ⟨_ :: ts', hts.cons_cons _, .cons hfirst hS⟩

end

/-- **Contributions in any order**: what is taken from the history belongs to tasks of their own,
    with the threads that serve them, if each program contributes one thing at most. -/
theorem Serving.contributed {γ : Type} {S : τ × Thread κ ρ α → γ → Prop}
    {p : τ × Thread κ ρ α → Bool} {Φ : τ → CallProgram κ ρ α → List (Called κ ρ) → Prop}
    {tasks : List τ} {g : Called κ ρ → Option γ} (hserving : Serving Φ tasks s)
    (haccounted : Accounted s)
    (hone : ∀ task t, Φ task t.program t.log → t.log.filterMap g = [] ∨
      ∃ c, t.log.filterMap g = [c] ∧ p (task, t) = true ∧ S (task, t) c)
    {given : List γ} (hgiven : given.Sublist (s.history.filterMap g)) :
    ∃ ts, ts.Subperm ((tasks.zip s.threads).filter p) ∧ List.Forall₂ S ts given := by
  obtain ⟨ts, hsub, hts⟩ := forall₂_flatMap (S := S) (p := p)
    (f := fun b : τ × Thread κ ρ α => b.2.log.filterMap g) (fun b hb => by
      obtain ⟨i, hi, rfl⟩ := List.getElem_of_mem hb
      rw [List.length_zip] at hi
      rw [List.getElem_zip]
      exact hone _ _ (hserving.holds i _ _ (List.getElem?_eq_getElem (by omega))
        (List.getElem?_eq_getElem (by omega))))
  have hperm : ((tasks.zip s.threads).flatMap (fun b => b.2.log.filterMap g)).Perm
      (s.history.filterMap g) := by
    have hthreads : (tasks.zip s.threads).map Prod.snd = s.threads :=
      List.map_snd_zip hserving.length.ge
    have hlogs : (tasks.zip s.threads).flatMap (fun b => b.2.log.filterMap g) =
        ((tasks.zip s.threads).map Prod.snd).flatMap (fun t => t.log.filterMap g) := by
      rw [List.flatMap_map]
    rw [hlogs, hthreads, ← List.filterMap_flatMap]
    exact (haccounted.filterMap g).symm
  -- the logs of the threads, taken together, are the history in another order
  obtain ⟨ts', hts', hhistory⟩ : Relation.Comp List.Perm (List.Forall₂ S) ts
      (s.history.filterMap g) := by
    rw [← List.forall₂_comp_perm_eq_perm_comp_forall₂]
    exact ⟨_, hts, hperm⟩
  obtain ⟨ts'', hts'', hgiven'⟩ := forall₂_of_sublist hgiven hhistory
  exact ⟨ts'', (hts''.subperm.trans hts'.symm.subperm).trans hsub.subperm, hgiven'⟩

end Contributions

end Pool
