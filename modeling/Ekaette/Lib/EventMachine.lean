import Mathlib.Data.List.Infix

set_option autoImplicit false

/-! # Event machines and their runs

A server is modelled as a machine that answers one event at a time: `step s e` gives the state after
the event and the answer. Every choice the outside world makes (which call comes next, what a clock
reads, what a provider replies, which random id is drawn) is part of the event, so quantifying over
event lists quantifies over all interleavings and all environments.

A property of the reached states is proved with `always_of_guarded` / `always_iff_guarded`, a
property of the answers given along the way with `trace_induction`, whose invariant relates the
entries logged so far to the current state. -/

universe u v w

/-- A machine that answers every event and may change its state. -/
structure EventMachine (σ : Type u) (ε : Type v) (ω : Type w) where
  step : σ → ε → σ × ω

/-- An event, and what the clock reads when it happens. -/
structure Timed (τ : Type u) (ε : Type v) where
  now : τ
  event : ε

namespace EventMachine

/-- One logged step: the state the event found, the event, the answer it got. -/
structure Entry (σ : Type u) (ε : Type v) (ω : Type w) where
  pre : σ
  event : ε
  answer : ω

variable {σ : Type u} {ε : Type v} {ω : Type w} (m : EventMachine σ ε ω)

variable (s : σ)

/-- The state after one event. -/
def next (e : ε) : σ := (m.step s e).1

/-- The log entry of one event. -/
def entry (e : ε) : Entry σ ε ω := ⟨s, e, (m.step s e).2⟩

/-- The state after a list of events. -/
def run (s : σ) : List ε → σ
  | [] => s
  | e :: es => run (m.next s e) es

/-- The log of a list of events, oldest entry first. -/
def trace (s : σ) : List ε → List (Entry σ ε ω)
  | [] => []
  | e :: es => m.entry s e :: trace (m.next s e) es

@[simp] theorem entry_pre (e : ε) : (m.entry s e).pre = s := rfl

@[simp] theorem entry_event (e : ε) : (m.entry s e).event = e := rfl

@[simp] theorem entry_answer (e : ε) : (m.entry s e).answer = (m.step s e).2 := rfl

@[simp] theorem run_nil : m.run s [] = s := rfl

@[simp] theorem run_cons (e : ε) (es : List ε) :
    m.run s (e :: es) = m.run (m.next s e) es := rfl

@[simp] theorem trace_nil : m.trace s [] = [] := rfl

@[simp] theorem trace_cons (e : ε) (es : List ε) :
    m.trace s (e :: es) = m.entry s e :: m.trace (m.next s e) es := rfl

theorem run_append (es fs : List ε) : m.run s (es ++ fs) = m.run (m.run s es) fs := by
  induction es generalizing s with
  | nil => rfl
  | cons e es ih => exact ih (m.next s e)

theorem trace_append (es fs : List ε) :
    m.trace s (es ++ fs) = m.trace s es ++ m.trace (m.run s es) fs := by
  induction es generalizing s with
  | nil => rfl
  | cons e es ih =>
    simp only [List.cons_append, trace_cons, run_cons, ih (m.next s e)]

theorem run_concat (es : List ε) (e : ε) : m.run s (es ++ [e]) = m.next (m.run s es) e :=
  m.run_append s es [e]

theorem trace_concat (es : List ε) (e : ε) :
    m.trace s (es ++ [e]) = m.trace s es ++ [m.entry (m.run s es) e] :=
  m.trace_append s es [e]

@[simp] theorem trace_map_event (es : List ε) : (m.trace s es).map (·.event) = es := by
  induction es generalizing s with
  | nil => rfl
  | cons e es ih => simp only [trace_cons, List.map_cons, entry_event, ih (m.next s e)]

/-- The answer logged in an entry of a run is the machine's answer. -/
theorem eq_entry_of_mem_trace {s : σ} {es : List ε} {t : Entry σ ε ω} (h : t ∈ m.trace s es) :
    t = m.entry t.pre t.event := by
  induction es generalizing s with
  | nil => simp at h
  | cons e es ih =>
    rcases List.mem_cons.1 h with rfl | h
    · rfl
    · exact ih h

/-! ## Properties of the reached states -/

/-- `P` holds of every state the run passes through, its first and last included. -/
def Always (P : σ → Prop) (s : σ) : List ε → Prop
  | [] => P s
  | e :: es => P s ∧ Always P (m.next s e) es

variable {P : σ → Prop}

/-- `P` holds of the last state of a run all of whose states satisfy it. -/
theorem Always.run {s : σ} {es : List ε} (h : m.Always P s es) : P (m.run s es) := by
  induction es generalizing s with
  | nil => exact h
  | cons e es ih => exact ih h.2

theorem Always.pre {s : σ} {es : List ε} (h : m.Always P s es)
    {t : Entry σ ε ω} (ht : t ∈ m.trace s es) : P t.pre := by
  induction es generalizing s with
  | nil => simp at ht
  | cons e es ih =>
    rcases List.mem_cons.1 ht with rfl | ht
    · exact h.1
    · exact ih h.2 ht

theorem Always.imp {P Q : σ → Prop} {s : σ} {es : List ε} (h : m.Always P s es)
    (hPQ : ∀ s, P s → Q s) : m.Always Q s es := by
  induction es generalizing s with
  | nil => exact hPQ s h
  | cons e es ih => exact ⟨hPQ s h.1, ih h.2⟩

/-- **Guarded invariant rule.** What every step that meets `G` preserves holds along every run whose
    steps all meet `G`. -/
theorem always_of_guarded {G : σ → ε → Prop}
    (hstep : ∀ s e, P s → G s e → P (m.next s e)) {s : σ} (hs : P s) {es : List ε}
    (hG : ∀ t ∈ m.trace s es, G t.pre t.event) : m.Always P s es := by
  induction es generalizing s with
  | nil => exact hs
  | cons e es ih =>
    rw [trace_cons, List.forall_mem_cons] at hG
    exact ⟨hs, ih (hstep s e hs hG.1) hG.2⟩

/-- **Exact guard rule.** When a step from a `P`-state keeps `P` exactly if it meets `G`, a run
    stays within `P` exactly if all its steps meet `G`. -/
theorem always_iff_guarded {G : σ → ε → Prop}
    (hstep : ∀ s e, P s → (P (m.next s e) ↔ G s e)) {s : σ} (hs : P s) (es : List ε) :
    m.Always P s es ↔ ∀ t ∈ m.trace s es, G t.pre t.event := by
  constructor
  · intro h t ht
    induction es generalizing s with
    | nil => simp at ht
    | cons e es ih =>
      have hnext : P (m.next s e) := by
        cases es with
        | nil => exact h.2
        | cons f fs => exact h.2.1
      rcases List.mem_cons.1 ht with rfl | ht
      · exact (hstep s e hs).1 hnext
      · exact ih hnext h.2 ht
  · exact m.always_of_guarded (fun s e hP hG => (hstep s e hP).2 hG) hs

/-- **Exact guard rule for states and answers.** Under an invariant `I` of every step, let a step
    from a `P`-state reach a `P`-state with a log entry that satisfies `Q` exactly if it meets `G`.
    Then a run stays within `P` and logs `Q`-entries only, exactly if all its steps meet `G`. -/
theorem sound_iff_guarded {I P : σ → Prop} {Q : Entry σ ε ω → Prop} {G : σ → ε → Prop}
    (hinv : ∀ s e, I s → I (m.next s e))
    (hstep : ∀ s e, I s → P s → (P (m.next s e) ∧ Q (m.entry s e) ↔ G s e)) {s : σ} (hI : I s)
    (hs : P s) (es : List ε) :
    (m.Always P s es ∧ ∀ t ∈ m.trace s es, Q t) ↔ ∀ t ∈ m.trace s es, G t.pre t.event := by
  induction es generalizing s with
  | nil => simpa [Always] using hs
  | cons e es ih =>
    have hiff := hstep s e hI hs
    rw [trace_cons, List.forall_mem_cons, List.forall_mem_cons, entry_pre, entry_event]
    constructor
    · rintro ⟨⟨-, halways⟩, hQ, hQs⟩
      have hnext : P (m.next s e) := by
        cases es with
        | nil => exact halways
        | cons f fs => exact halways.1
      exact ⟨hiff.1 ⟨hnext, hQ⟩, (ih (hinv s e hI) hnext).1 ⟨halways, hQs⟩⟩
    · rintro ⟨hG, hGs⟩
      obtain ⟨hnext, hQ⟩ := hiff.2 hG
      obtain ⟨halways, hQs⟩ := (ih (hinv s e hI) hnext).2 hGs
      exact ⟨⟨hs, halways⟩, hQ, hQs⟩

/-- The exact guard rule for states under an invariant of every step. -/
theorem always_iff_guarded_of_invariant {I P : σ → Prop} {G : σ → ε → Prop}
    (hinv : ∀ s e, I s → I (m.next s e))
    (hstep : ∀ s e, I s → P s → (P (m.next s e) ↔ G s e)) {s : σ} (hI : I s) (hs : P s)
    (es : List ε) : m.Always P s es ↔ ∀ t ∈ m.trace s es, G t.pre t.event := by
  have h := m.sound_iff_guarded (G := G) (Q := fun _ => True) hinv
    (fun s e hI hs => by rw [and_true, hstep s e hI hs]) hI hs es
  simpa using h

/-- **Exact guard rule for answers.** When a step from a `P`-state logs a `Q`-entry exactly if it
    meets `G`, and those that do keep `P`, a run logs `Q`-entries only, exactly if all its steps
    meet `G`. -/
theorem forall_trace_iff_guarded {Q : Entry σ ε ω → Prop} {G : σ → ε → Prop}
    (hanswer : ∀ s e, P s → (Q (m.entry s e) ↔ G s e)) (hkeep : ∀ s e, P s → G s e → P (m.next s e))
    {s : σ} (hs : P s) (es : List ε) : (∀ t ∈ m.trace s es, Q t) ↔ ∀ t ∈ m.trace s es,
    G t.pre t.event := by
  induction es generalizing s with
  | nil => simp
  | cons e es ih =>
    have hiff := hanswer s e hs
    rw [trace_cons, List.forall_mem_cons, List.forall_mem_cons, entry_pre, entry_event]
    constructor
    · rintro ⟨hQ, hQs⟩
      have hG := hiff.1 hQ
      exact ⟨hG, (ih (hkeep s e hs hG)).1 hQs⟩
    · rintro ⟨hG, hGs⟩
      exact ⟨hiff.2 hG, (ih (hkeep s e hs hG)).2 hGs⟩

/-! ## Monitors -/

/-- The machine with a monitor beside it, which sees every event and its answer and changes
    neither. -/
def monitor {μ : Type w} (f : μ → ε → ω → μ) : EventMachine (σ × μ) ε ω where
  step s e := ((m.next s.1 e, f s.2 e (m.step s.1 e).2), (m.step s.1 e).2)

@[simp] theorem monitor_next {μ : Type w} (f : μ → ε → ω → μ) (s : σ × μ) (e : ε) :
    (m.monitor f).next s e = (m.next s.1 e, f s.2 e (m.step s.1 e).2) := rfl

/-! ## Properties of the log -/

/-- **History rule.** `C h s` relates the log so far to the current state. It holds of a whole run
    when it holds of the empty log and every logged step keeps it; a step may use that its entry is
    an entry of the run (`h ++ [t] <+: m.trace s₀ es`). -/
theorem trace_induction {C : List (Entry σ ε ω) → σ → Prop} {s₀ : σ} {es : List ε} (h0 : C [] s₀)
    (hstep : ∀ h s e, h ++ [m.entry s e] <+: m.trace s₀ es → C h s →
      C (h ++ [m.entry s e]) (m.next s e)) :
    C (m.trace s₀ es) (m.run s₀ es) := by
  suffices H : ∀ fs, fs <+: es → C (m.trace s₀ fs) (m.run s₀ fs) from H es List.prefix_rfl
  intro fs
  induction fs using List.reverseRecOn with
  | nil => intro _; exact h0
  | append_singleton fs e ih =>
    intro hfs
    obtain ⟨gs, rfl⟩ := hfs
    rw [trace_concat, run_concat]
    refine hstep _ _ e ?_ (ih ((List.prefix_append fs [e]).trans (List.prefix_append _ gs)))
    rw [m.trace_append s₀ (fs ++ [e]) gs, trace_concat]
    exact List.prefix_append _ _

/-- The first entries of a run are those of its first events. -/
theorem exists_events_of_initial {s : σ} {es : List ε} {l : List (Entry σ ε ω)}
    (h : l <+: m.trace s es) : ∃ fs, fs <+: es ∧ l = m.trace s fs := by
  induction es using List.reverseRecOn with
  | nil => exact ⟨[], List.nil_prefix, List.prefix_nil.1 h⟩
  | append_singleton es e ih =>
    rw [trace_concat] at h
    rcases List.prefix_concat_iff.1 h with heq | hprefix
    · exact ⟨es ++ [e], List.prefix_rfl, by rw [heq, trace_concat]⟩
    · obtain ⟨fs, hfs, hl⟩ := ih hprefix
      exact ⟨fs, hfs.trans (List.prefix_append _ _), hl⟩

/-- The history rule for a property of every entry that depends on the log before it. -/
theorem trace_forall {C : List (Entry σ ε ω) → σ → Prop} {Q : List (Entry σ ε ω) → Entry σ ε ω →
    Prop} {s₀ : σ} {es : List ε} (h0 : C [] s₀)
    (hstep : ∀ h s e, h ++ [m.entry s e] <+: m.trace s₀ es → C h s →
      Q h (m.entry s e) ∧ C (h ++ [m.entry s e]) (m.next s e)) :
    ∀ h t, h ++ [t] <+: m.trace s₀ es → Q h t := by
  -- the invariant is `C` together with `Q` for every entry logged so far
  suffices key : C (m.trace s₀ es) (m.run s₀ es) ∧
      ∀ h t, h ++ [t] <+: m.trace s₀ es → Q h t from key.2
  refine m.trace_induction (C := fun l s => C l s ∧ ∀ h t, h ++ [t] <+: l → Q h t)
    ⟨h0, fun h t hp => by simpa using hp.length_le⟩ (fun h s e hp hC => ?_)
  obtain ⟨hQ, hC'⟩ := hstep h s e hp hC.1
  refine ⟨hC', fun h' t ht => ?_⟩
  rcases List.prefix_concat_iff.1 ht with heq | hpre
  · obtain ⟨rfl, hcons⟩ := List.append_inj' heq rfl
    rw [List.cons_eq_cons.1 hcons |>.1]
    exact hQ
  · exact hC.2 h' t hpre

/-- Entries of a pairwise-ordered log are ordered before the last one. -/
theorem rel_of_prefix {α : Type u} {R : α → α → Prop} {l h : List α} {t : α} (hl : l.Pairwise R)
    (hp : h ++ [t] <+: l) : ∀ x ∈ h, R x t := by
  have hpw : (h ++ [t]).Pairwise R := hl.sublist hp.sublist
  intro x hx
  exact (List.pairwise_append.1 hpw).2.2 x hx t (List.mem_singleton_self t)

/-- A log is pairwise ordered when every entry is ordered after all entries before it. -/
theorem pairwise_of_prefix {α : Type u} {R : α → α → Prop} {l : List α}
    (hl : ∀ h t, h ++ [t] <+: l → ∀ x ∈ h, R x t) : l.Pairwise R := by
  induction l using List.reverseRecOn with
  | nil => exact List.Pairwise.nil
  | append_singleton l t ih =>
    rw [List.pairwise_append]
    refine ⟨ih (fun h t' hp => hl h t' (hp.trans (List.prefix_append l [t]))),
      List.pairwise_singleton R t, ?_⟩
    intro x hx y hy
    rw [List.mem_singleton.1 hy]
    exact hl l t List.prefix_rfl x hx

/-- A relation between the events of a run is one between its log entries. -/
theorem trace_pairwise_event {T : ε → ε → Prop} {s : σ} {es : List ε} (h : es.Pairwise T) :
    (m.trace s es).Pairwise (fun x y => T x.event y.event) := by
  rw [← List.pairwise_map, trace_map_event]
  exact h

theorem filterMap_trace_concat {γ : Type*} (f : Entry σ ε ω → Option γ) (s : σ) (es : List ε)
    (e : ε) : (m.trace s (es ++ [e])).filterMap f = (m.trace s es).filterMap f ++
    (f (m.entry (m.run s es) e)).toList := by
  rw [trace_concat, List.filterMap_append]
  refine congrArg ((m.trace s es).filterMap f ++ ·) ?_
  cases hf : f (m.entry (m.run s es) e) with
  | none => rw [List.filterMap_cons_none hf, List.filterMap_nil, Option.toList_none]
  | some c => rw [List.filterMap_cons_some hf, List.filterMap_nil, Option.toList_some]

/-! ## What happens at most once -/

/-- Once a part of the machine has ended, `f` finds nothing in the log any more. -/
theorem filterMap_trace_eq_nil {γ : Type*} {P : σ → Prop} {f : Entry σ ε ω → Option γ}
    (hstep : ∀ s e, P s → f (m.entry s e) = none ∧ P (m.next s e)) {s : σ} (hs : P s)
    (es : List ε) : (m.trace s es).filterMap f = [] := by
  induction es generalizing s with
  | nil => rfl
  | cons e es ih =>
    obtain ⟨hnone, hnext⟩ := hstep s e hs
    rw [trace_cons, List.filterMap_cons_none hnone]
    exact ih hnext

/-- **What ends a part of the machine happens at most once**: `f` finds something only in a step
    after which that part has ended. -/
theorem length_filterMap_trace_le_one {γ : Type*} {P ended : σ → Prop} {f : Entry σ ε ω → Option γ}
    (hstep : ∀ s e, P s → P (m.next s e) ∧ (f (m.entry s e) ≠ none → ended (m.next s e)))
    (hended : ∀ s e, P s → ended s → f (m.entry s e) = none ∧ ended (m.next s e)) {s : σ} (hs : P s)
    (es : List ε) : ((m.trace s es).filterMap f).length ≤ 1 := by
  induction es generalizing s with
  | nil => exact Nat.zero_le _
  | cons e es ih =>
    obtain ⟨hnext, hfound⟩ := hstep s e hs
    rw [trace_cons]
    cases hf : f (m.entry s e) with
    | none =>
      rw [List.filterMap_cons_none hf]
      exact ih hnext
    | some c =>
      have hend : ended (m.next s e) := hfound (by rw [hf]; exact Option.some_ne_none c)
      have hrest := m.filterMap_trace_eq_nil (P := fun s => P s ∧ ended s)
        (fun s e h => ⟨(hended s e h.1 h.2).1, (hstep s e h.1).1, (hended s e h.1 h.2).2⟩) ⟨hnext,
          hend⟩ es
      rw [List.filterMap_cons_some hf, hrest, List.length_singleton]

end EventMachine
