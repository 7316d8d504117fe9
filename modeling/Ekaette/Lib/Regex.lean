import Mathlib.Data.List.Chain
import Mathlib.Data.List.Infix

set_option autoImplicit false

/-! # Backtracking patterns

Regular expressions as backtracking engines run them: `run` lists all ways to match a pattern at the
start of a text, in the order in which they are tried, so the first one is the match. Repetition is
over character classes only, and greedy. -/

/-- A pattern over character classes with numbered groups. -/
inductive Rx where
  | eps
  | one (p : Char → Bool)
  | many (p : Char → Bool)
  | seq (a b : Rx)
  | alt (a b : Rx)
  | group (i : ℕ) (r : Rx)

namespace Rx

/-- A match: the text behind it, and the text of its groups. -/
structure Match where
  rest : List Char
  groups : List (ℕ × List Char)
  deriving DecidableEq

/-- The text of a group; `none` when it took no part in the match. -/
def Match.group? (m : Match) (i : ℕ) : Option String := (m.groups.lookup i).map String.ofList

/-- A literal. -/
def lit : List Char → Rx
  | [] => eps
  | c :: cs => seq (one (fun x => x = c)) (lit cs)

/-- `p+`. -/
def plus (p : Char → Bool) : Rx := seq (one p) (many p)

/-- `p{n}`. -/
def exactly (p : Char → Bool) : ℕ → Rx
  | 0 => eps
  | n + 1 => seq (one p) (exactly p n)

/-- `p{0,n}`. -/
def atMost (p : Char → Bool) : ℕ → Rx
  | 0 => eps
  | n + 1 => alt (seq (one p) (atMost p n)) eps

/-- What may be left after a run of `p`, longest run first. -/
def manyRests (p : Char → Bool) : List Char → List (List Char)
  | [] => [[]]
  | c :: cs => if p c then manyRests p cs ++ [c :: cs] else [c :: cs]

/-- The matches at the start of a text, in the order they are tried. -/
def run : Rx → List Char → List Match
  | eps, cs => [⟨cs, []⟩]
  | one _, [] => []
  | one p, c :: cs => if p c then [⟨cs, []⟩] else []
  | many p, cs => (manyRests p cs).map (⟨·, []⟩)
  | seq a b, cs => (a.run cs).flatMap (fun m =>
    (b.run m.rest).map (fun m' => ⟨m'.rest, m.groups ++ m'.groups⟩))
  | alt a b, cs => a.run cs ++ b.run cs
  | group i r, cs => (r.run cs).map (fun m =>
    ⟨m.rest, m.groups ++ [(i, cs.take (cs.length - m.rest.length))]⟩)

/-- `re.match`. -/
def matchAt (r : Rx) (cs : List Char) : Option Match := (r.run cs).head?

/-- `re.search`. -/
def search (r : Rx) : List Char → Option Match
  | [] => r.matchAt []
  | c :: cs => (r.matchAt (c :: cs)).or (search r cs)

/-- The first matches of a pattern, at most `n` of them. -/
def searchN (r : Rx) : ℕ → List Char → List Match
  | 0, _ => []
  | n + 1, cs =>
    match r.search cs with
    | none => []
    | some m => m :: searchN r n m.rest

/-- `re.finditer`, for a pattern that does not match the empty text. -/
def findAll (r : Rx) (cs : List Char) : List Match := r.searchN cs.length cs

/-! ## Equations -/

theorem matchAt_eq (r : Rx) (cs : List Char) : r.matchAt cs = (r.run cs).head? := rfl

theorem manyRests_cons (p : Char → Bool) (c : Char) (cs : List Char) :
    manyRests p (c :: cs) = if p c then manyRests p cs ++ [c :: cs] else [c :: cs] := rfl

theorem run_eps (cs : List Char) : eps.run cs = [⟨cs, []⟩] := rfl

theorem run_one_nil (p : Char → Bool) : (one p).run [] = [] := rfl

theorem run_one_cons (p : Char → Bool) (c : Char) (cs : List Char) :
    (one p).run (c :: cs) = if p c then [⟨cs, []⟩] else [] := rfl

theorem run_many (p : Char → Bool) (cs : List Char) :
    (many p).run cs = (manyRests p cs).map (⟨·, []⟩) := rfl

theorem run_seq (a b : Rx) (cs : List Char) :
    (seq a b).run cs = (a.run cs).flatMap (fun m =>
      (b.run m.rest).map (fun m' => ⟨m'.rest, m.groups ++ m'.groups⟩)) := rfl

theorem run_alt (a b : Rx) (cs : List Char) : (alt a b).run cs = a.run cs ++ b.run cs := rfl

theorem run_group (i : ℕ) (r : Rx) (cs : List Char) :
    (group i r).run cs = (r.run cs).map (fun m =>
      ⟨m.rest, m.groups ++ [(i, cs.take (cs.length - m.rest.length))]⟩) := rfl

theorem search_cons (r : Rx) (c : Char) (cs : List Char) :
    r.search (c :: cs) = (r.matchAt (c :: cs)).or (r.search cs) := rfl

/-! ## Literals and runs -/

theorem run_lit (l cs : List Char) :
    (lit l).run cs = if l <+: cs then [⟨cs.drop l.length, []⟩] else [] := by
  induction l generalizing cs with
  | nil => simp [lit, run_eps]
  | cons c l ih =>
    cases cs with
    | nil => simp [lit, run_seq, run_one_nil]
    | cons x cs =>
      by_cases h : x = c
      · subst h
        simp only [lit, run_seq, run_one_cons, decide_true, if_true, List.flatMap_cons,
          List.flatMap_nil, List.append_nil, ih, List.cons_prefix_cons, true_and]
        by_cases hl : l <+: cs <;> simp [hl]
      · simp [lit, run_seq, run_one_cons, h, List.cons_prefix_cons, Ne.symm h]

variable {p : Char → Bool}

variable {w : List Char}

/-- The longest run is tried first. -/
theorem head?_manyRests (hw : ∀ c ∈ w, p c = true) {c : Char}
    (hc : p c = false) (cs : List Char) : (manyRests p (w ++ c :: cs)).head? = some (c :: cs) := by
  induction w with
  | nil => simp [manyRests_cons, hc]
  | cons x w ih =>
    rw [List.forall_mem_cons] at hw
    rw [List.cons_append, manyRests_cons, if_pos hw.1, List.head?_append, ih hw.2]
    rfl

/-- A match of a sequence, when the first match of its first part can be continued. -/
theorem matchAt_seq {a b : Rx} {cs : List Char} {m m' : Match} (ha : a.matchAt cs = some m)
    (hb : b.matchAt m.rest = some m') :
    (seq a b).matchAt cs = some ⟨m'.rest, m.groups ++ m'.groups⟩ := by
  obtain ⟨as, has⟩ := List.head?_eq_some_iff.1 ha
  obtain ⟨bs, hbs⟩ := List.head?_eq_some_iff.1 hb
  rw [matchAt_eq, run_seq, has, List.flatMap_cons, hbs]
  rfl

theorem matchAt_many (hw : ∀ c ∈ w, p c = true) {c : Char}
    (hc : p c = false) (cs : List Char) : (many p).matchAt (w ++ c :: cs) = some ⟨c :: cs, []⟩ := by
  rw [matchAt_eq, run_many, List.head?_map, head?_manyRests hw hc]
  rfl

theorem matchAt_plus (hw : ∀ c ∈ w, p c = true) (hne : w ≠ [])
    {c : Char} (hc : p c = false) (cs : List Char) :
    (plus p).matchAt (w ++ c :: cs) = some ⟨c :: cs, []⟩ := by
  obtain ⟨x, w, rfl⟩ := List.exists_cons_of_ne_nil hne
  rw [List.forall_mem_cons] at hw
  have hone : (one p).matchAt (x :: (w ++ c :: cs)) = some ⟨w ++ c :: cs, []⟩ := by
    simp [matchAt_eq, run_one_cons, hw.1]
  exact matchAt_seq hone (matchAt_many hw.2 hc cs)

theorem matchAt_plus_end (hw : ∀ c ∈ w, p c = true)
    (hne : w ≠ []) : (plus p).matchAt w = some ⟨[], []⟩ := by
  have hmany : ∀ v : List Char, (∀ c ∈ v, p c = true) → (many p).matchAt v = some ⟨[], []⟩ := by
    intro v hv
    rw [matchAt_eq, run_many, List.head?_map]
    induction v with
    | nil => rfl
    | cons c v ih =>
      rw [List.forall_mem_cons] at hv
      have hrest := ih hv.2
      rw [manyRests_cons, if_pos hv.1, List.head?_append]
      cases hhead : (manyRests p v).head? with
      | none =>
        rw [hhead] at hrest
        cases hrest
      | some rest =>
        rw [hhead] at hrest
        exact hrest
  obtain ⟨x, w, rfl⟩ := List.exists_cons_of_ne_nil hne
  rw [List.forall_mem_cons] at hw
  have hone : (one p).matchAt (x :: w) = some ⟨w, []⟩ := by
    simp [matchAt_eq, run_one_cons, hw.1]
  exact matchAt_seq hone (hmany w hw.2)

theorem matchAt_alt_left {a b : Rx} {cs : List Char} {m : Match} (h : a.matchAt cs = some m) :
    (alt a b).matchAt cs = some m := by
  rw [matchAt_eq] at h
  rw [matchAt_eq, run_alt, List.head?_append, h]
  rfl

theorem matchAt_alt_right {a : Rx} {cs : List Char} (b : Rx) (h : a.matchAt cs = none) :
    (alt a b).matchAt cs = b.matchAt cs := by
  rw [matchAt_eq] at h
  rw [matchAt_eq, run_alt, List.head?_append, h]
  rfl

theorem matchAt_lit (l cs : List Char) : (lit l).matchAt (l ++ cs) = some ⟨cs, []⟩ := by
  rw [matchAt_eq, run_lit, if_pos (List.prefix_append l cs), List.drop_left]
  rfl

variable {r : Rx}

theorem matchAt_group {w cs : List Char} {gs : List (ℕ × List Char)} (i : ℕ)
    (h : r.matchAt (w ++ cs) = some ⟨cs, gs⟩) :
    (group i r).matchAt (w ++ cs) = some ⟨cs, gs ++ [(i, w)]⟩ := by
  rw [matchAt_eq] at h
  rw [matchAt_eq, run_group, List.head?_map, h]
  simp

/-! ## Searching for a run -/

theorem matchAt_run_seq_eq_none (i : ℕ) (r : Rx) {c : Char} (hc : p c = false)
    (cs : List Char) : (seq (group i (plus p)) r).matchAt (c :: cs) = none := by
  simp [matchAt_eq, run_seq, run_group, run_one_cons, plus, hc]

theorem search_of_matchAt {cs : List Char} {m : Match} (h : r.matchAt cs = some m) :
    r.search cs = some m := by
  cases cs with
  | nil => exact h
  | cons c cs =>
    rw [search_cons, h]
    rfl

theorem search_of_matchAt_eq_none {c : Char} {cs : List Char}
    (h : r.matchAt (c :: cs) = none) : r.search (c :: cs) = r.search cs := by
  rw [search_cons, h, Option.none_or]

/-! ## Searching for a literal -/

/-- A pattern that starts with a literal matches only where the literal stands. -/
theorem matchAt_lit_seq_eq_none {l cs : List Char} (r : Rx) (h : ¬ l <+: cs) :
    (seq (lit l) r).matchAt cs = none := by
  rw [matchAt_eq, run_seq, run_lit, if_neg h]
  rfl

/-- **The search finds the first occurrence** of the literal a pattern starts with, when the pattern
    matches there. -/
theorem search_lit_seq {l before after : List Char} {r : Rx} {m : Match}
    (hfirst : ∀ u v, before = u ++ v → v ≠ [] → ¬ l <+: v ++ (l ++ after))
    (hr : r.matchAt after = some m) : (seq (lit l) r).search (before ++ (l ++ after)) = some m := by
  have hmatch : (seq (lit l) r).matchAt (l ++ after) = some m := by
    have hseq := matchAt_seq (matchAt_lit l after) hr
    simpa using hseq
  induction before with
  | nil =>
    rw [List.nil_append]
    cases hcs : l ++ after with
    | nil =>
      rw [hcs] at hmatch
      exact hmatch
    | cons c cs => rw [search_cons, ← hcs, hmatch, Option.some_or]
  | cons c before ih =>
    have hhere : ¬ l <+: (c :: before) ++ (l ++ after) := hfirst [] _ rfl (by simp)
    rw [List.cons_append, search_cons, ← List.cons_append, matchAt_lit_seq_eq_none r hhere,
      Option.none_or]
    refine ih (fun u v hbefore hv => hfirst (c :: u) v ?_ hv)
    rw [hbefore, List.cons_append]

/-- The first two characters of a literal do not follow each other in a text. -/
abbrev NoPair (a b : Char) (cs : List Char) : Prop := cs.IsChain (fun x y => ¬ (x = a ∧ y = b))

theorem noPair_of_not_mem {a b : Char} {cs : List Char} (h : b ∉ cs) : NoPair a b cs := by
  induction cs with
  | nil => exact List.isChain_nil
  | cons x cs ih =>
    rw [List.mem_cons, not_or] at h
    cases cs with
    | nil => exact List.isChain_singleton x
    | cons y cs =>
      refine List.isChain_cons_cons.2 ⟨?_, ih h.2⟩
      rintro ⟨-, rfl⟩
      exact h.2 List.mem_cons_self

/-- The search finds the literal behind a text in which its first two characters do not follow each
    other. -/
theorem search_lit_seq_of_noPair {a b : Char} (hab : a ≠ b) {l before after : List Char} {r : Rx}
    {m : Match} (hbefore : NoPair a b before) (hr : r.matchAt after = some m) :
    (seq (lit (a :: b :: l)) r).search (before ++ (a :: b :: l ++ after)) = some m := by
  refine search_lit_seq (fun u v huv hv hpre => ?_) hr
  rw [huv] at hbefore
  have hchain : NoPair a b v := hbefore.right_of_append
  cases v with
  | nil => exact hv rfl
  | cons x v =>
    cases v with
    | nil =>
      -- the literal would have to start over at its own second character
      simp only [List.cons_append, List.nil_append, List.cons_prefix_cons] at hpre
      exact hab hpre.2.1.symm
    | cons y v =>
      simp only [List.cons_append, List.cons_prefix_cons] at hpre
      exact (List.isChain_cons_cons.1 hchain).1 ⟨hpre.1.symm, hpre.2.1.symm⟩

/-- A text without a pair between a text that does not end in its first character and one that does
    not start with its second one. -/
theorem noPair_splice {a b : Char} {xs ys zs : List Char} (hxs : NoPair a b xs)
    (hlast : a ∉ xs.getLast?) (hys : b ∉ ys) (hzs : NoPair a b zs) (hhead : b ∉ zs.head?) :
    NoPair a b (xs ++ (ys ++ zs)) := by
  refine List.isChain_append.2 ⟨hxs, List.isChain_append.2
    ⟨noPair_of_not_mem hys, hzs, fun x _ y hy => ?_⟩, fun x hx y _ => ?_⟩
  · rintro ⟨-, rfl⟩
    exact hhead hy
  · rintro ⟨rfl, -⟩
    exact hlast hx

/-- A literal does not stand in a text in which two of its characters do not follow each other. -/
theorem not_infix_of_noPair {a b : Char} {l cs : List Char} (hl : [a, b] <:+: l)
    (hcs : NoPair a b cs) : ¬ l <:+: cs := by
  intro hinside
  obtain ⟨u, v, rfl⟩ := hl.trans hinside
  rw [List.append_assoc] at hcs
  have hpair : NoPair a b ([a, b] ++ v) := hcs.right_of_append
  exact (List.isChain_cons_cons.1 hpair).1 ⟨rfl, rfl⟩

/-- A literal within one line stands in one of two parts of a text, or in the other. -/
theorem infix_of_infix_append_cons {c : Char} {l xs ys : List Char} (hc : c ∉ l)
    (h : l <:+: xs ++ c :: ys) : l <:+: xs ∨ l <:+: ys := by
  obtain ⟨u, v, huv⟩ := h
  rw [List.append_assoc] at huv
  rcases List.append_eq_append_iff.1 huv with ⟨w, hxs, hw⟩ | ⟨w, hu, hw⟩
  · rcases List.append_eq_append_iff.1 hw with ⟨w', hw', -⟩ | ⟨w', hl, hcons⟩
    · exact .inl ⟨u, w', by rw [hxs, hw', List.append_assoc]⟩
    · cases w' with
      | nil =>
        rw [List.append_nil] at hl
        exact .inl ⟨u, [], by rw [hxs, hl, List.append_nil]⟩
      | cons x w' =>
        obtain ⟨rfl, -⟩ := List.cons_eq_cons.1 hcons
        exact absurd (hl ▸ List.mem_append_right w List.mem_cons_self) hc
  · cases w with
    | nil =>
      cases l with
      | nil => exact .inl (List.nil_infix)
      | cons x l =>
        obtain ⟨rfl, -⟩ := List.cons_eq_cons.1 hw
        exact absurd List.mem_cons_self hc
    | cons x w =>
      obtain ⟨rfl, hys⟩ := List.cons_eq_cons.1 hw
      refine .inr ⟨w, v, ?_⟩
      rw [hys, List.append_assoc]
      rfl

theorem search_lit_seq_of_lines {c : Char} {l before after : List Char} {r : Rx} {m : Match}
    (hc : c ∉ l) (hinside : ¬ l <:+: before) (hr : r.matchAt after = some m) :
    (seq (lit l) r).search (before ++ [c] ++ (l ++ after)) = some m := by
  refine search_lit_seq (fun u v huv hv hpre => ?_) hr
  obtain ⟨w, x, rfl⟩ := (List.eq_nil_or_concat' v).resolve_left hv
  rw [← List.append_assoc] at huv
  obtain ⟨hbefore, hx⟩ := List.append_inj' huv rfl
  obtain ⟨rfl, -⟩ := List.cons_eq_cons.1 hx
  rcases Nat.lt_or_ge w.length l.length with hlong | hshort
  · -- the literal would have the end of the line inside
    have hinside : w ++ [c] <+: l :=
      List.prefix_of_prefix_length_le (List.prefix_append _ _) hpre
        (by rw [List.length_append]; exact hlong)
    exact hc (hinside.subset (List.mem_append_right w List.mem_cons_self))
  · rw [List.append_assoc] at hpre
    have hinitial : l <+: w := List.prefix_of_prefix_length_le hpre (List.prefix_append w _) hshort
    exact hinside (hbefore ▸ hinitial.isInfix.trans (List.suffix_append u w).isInfix)

/-- Nothing is found in a text in which the literal does not stand. -/
theorem search_lit_seq_eq_none {l cs : List Char} (r : Rx) (h : ¬ l <:+: cs) :
    (seq (lit l) r).search cs = none := by
  induction cs with
  | nil => exact matchAt_lit_seq_eq_none r (fun hinitial => h hinitial.isInfix)
  | cons c cs ih =>
    rw [search_cons, matchAt_lit_seq_eq_none r (fun hinitial => h hinitial.isInfix), Option.none_or]
    exact ih (fun hinside => h (List.infix_cons hinside))

/-! ## What a match consists of -/

theorem mem_run_of_search {cs : List Char} {m : Match} (h : r.search cs = some m) :
    ∃ u cs', cs = u ++ cs' ∧ m ∈ r.run cs' := by
  induction cs with
  | nil => exact ⟨[], [], rfl, List.mem_of_mem_head? h⟩
  | cons c cs ih =>
    rcases Option.or_eq_some_iff.1 h with hhere | ⟨-, hlater⟩
    · exact ⟨[], c :: cs, rfl, List.mem_of_mem_head? hhere⟩
    · obtain ⟨u, cs', rfl, hm⟩ := ih hlater
      exact ⟨c :: u, cs', rfl, hm⟩

/-- A text that a pattern describes as a whole, and the groups of it. -/
def Parses : Rx → List Char → List (ℕ × List Char) → Prop
  | eps, w, gs => w = [] ∧ gs = []
  | one p, w, gs => (∃ c, w = [c] ∧ p c = true) ∧ gs = []
  | many p, w, gs => (∀ c ∈ w, p c = true) ∧ gs = []
  | seq a b, w, gs => ∃ u us v vs, w = u ++ v ∧ gs = us ++ vs ∧ a.Parses u us ∧ b.Parses v vs
  | alt a b, w, gs => a.Parses w gs ∨ b.Parses w gs
  | group i r, w, gs => ∃ us, gs = us ++ [(i, w)] ∧ r.Parses w us

theorem mem_manyRests {cs rest : List Char} :
    rest ∈ manyRests p cs ↔ ∃ w, cs = w ++ rest ∧ ∀ c ∈ w, p c = true := by
  induction cs with
  | nil =>
    constructor
    · intro h
      exact ⟨[], (List.mem_singleton.1 h).symm, fun c hc => absurd hc List.not_mem_nil⟩
    · rintro ⟨w, hw, -⟩
      exact List.mem_singleton.2 (List.append_eq_nil_iff.1 hw.symm).2
  | cons c cs ih =>
    have hwhole : ∃ w, c :: cs = w ++ (c :: cs) ∧ ∀ c ∈ w, p c = true :=
      ⟨[], rfl, fun c hc => absurd hc List.not_mem_nil⟩
    rw [manyRests_cons]
    split_ifs with hp
    · rw [List.mem_append, ih, List.mem_singleton]
      constructor
      · rintro (⟨w, rfl, hall⟩ | rfl)
        · exact ⟨c :: w, rfl, List.forall_mem_cons.2 ⟨hp, hall⟩⟩
        · exact hwhole
      · rintro ⟨w, hw, hall⟩
        cases w with
        | nil => exact .inr hw.symm
        | cons x w =>
          obtain ⟨rfl, rfl⟩ := List.cons_eq_cons.1 hw
          exact .inl ⟨w, rfl, (List.forall_mem_cons.1 hall).2⟩
    · rw [List.mem_singleton]
      constructor
      · rintro rfl
        exact hwhole
      · rintro ⟨w, hw, hall⟩
        cases w with
        | nil => exact hw.symm
        | cons x w =>
          obtain ⟨rfl, rfl⟩ := List.cons_eq_cons.1 hw
          exact absurd (List.forall_mem_cons.1 hall).1 hp

/-- **The matches** at the start of a text are the prefixes of it that the pattern describes. -/
theorem mem_run_iff {cs : List Char} {m : Match} :
    m ∈ r.run cs ↔ ∃ w, cs = w ++ m.rest ∧ r.Parses w m.groups := by
  induction r generalizing cs m with
  | eps =>
    rw [run_eps, List.mem_singleton]
    constructor
    · rintro rfl
      exact ⟨[], rfl, rfl, rfl⟩
    · obtain ⟨rest, groups⟩ := m
      rintro ⟨w, rfl, rfl, rfl⟩
      rfl
  | one p =>
    obtain ⟨rest, groups⟩ := m
    constructor
    · intro h
      cases cs with
      | nil => cases h
      | cons c cs =>
        rw [run_one_cons] at h
        split_ifs at h with hp
        · cases List.mem_singleton.1 h
          exact ⟨[c], rfl, ⟨c, rfl, hp⟩, rfl⟩
        · cases h
    · rintro ⟨w, rfl, ⟨c, rfl, hp⟩, rfl⟩
      rw [List.singleton_append, run_one_cons, if_pos hp]
      exact List.mem_singleton_self _
  | many p =>
    rw [run_many, List.mem_map]
    constructor
    · rintro ⟨rest, hrest, rfl⟩
      obtain ⟨w, hw, hall⟩ := mem_manyRests.1 hrest
      exact ⟨w, hw, hall, rfl⟩
    · obtain ⟨rest, groups⟩ := m
      rintro ⟨w, hw, hall, rfl⟩
      exact ⟨rest, mem_manyRests.2 ⟨w, hw, hall⟩, rfl⟩
  | seq a b iha ihb =>
    rw [run_seq, List.mem_flatMap]
    constructor
    · rintro ⟨m₁, hm₁, hm⟩
      obtain ⟨m₂, hm₂, rfl⟩ := List.mem_map.1 hm
      obtain ⟨u, hu, hparses₁⟩ := iha.1 hm₁
      obtain ⟨v, hv, hparses₂⟩ := ihb.1 hm₂
      exact ⟨u ++ v, by rw [hu, hv, List.append_assoc], u, m₁.groups, v, m₂.groups, rfl, rfl,
        hparses₁, hparses₂⟩
    · obtain ⟨rest, groups⟩ := m
      rintro ⟨_, hcs, u, us, v, vs, rfl, rfl, hu, hv⟩
      rw [List.append_assoc] at hcs
      exact ⟨⟨v ++ rest, us⟩, iha.2 ⟨u, hcs, hu⟩,
        List.mem_map.2 ⟨⟨rest, vs⟩, ihb.2 ⟨v, rfl, hv⟩, rfl⟩⟩
  | alt a b iha ihb =>
    rw [run_alt, List.mem_append, iha, ihb, ← exists_or]
    exact exists_congr fun w => and_or_left.symm
  | group i r ih =>
    rw [run_group, List.mem_map]
    have htake : ∀ (w rest : List Char),
        (w ++ rest).take ((w ++ rest).length - rest.length) = w := by
      intro w rest
      rw [List.length_append, Nat.add_sub_cancel, List.take_left]
    constructor
    · rintro ⟨m', hm', rfl⟩
      obtain ⟨w, rfl, hparses⟩ := ih.1 hm'
      exact ⟨w, rfl, m'.groups, by rw [htake], hparses⟩
    · obtain ⟨rest, groups⟩ := m
      rintro ⟨w, rfl, us, rfl, hparses⟩
      exact ⟨⟨rest, us⟩, ih.2 ⟨w, rfl, hparses⟩, by rw [htake]⟩

/-- Where the empty text is no match, what is left behind a match is shorter. -/
theorem length_rest_lt_of_search (hr : ∀ gs, ¬ r.Parses [] gs) {cs : List Char} {m : Match}
    (h : r.search cs = some m) : m.rest.length < cs.length := by
  obtain ⟨u, cs', rfl, hm⟩ := mem_run_of_search h
  obtain ⟨w, rfl, hw⟩ := mem_run_iff.1 hm
  have hne : w ≠ [] := fun hnil => hr _ (hnil ▸ hw)
  have hpos := List.length_pos_iff.2 hne
  rw [List.length_append, List.length_append]
  omega

theorem searchN_of_length_le (hr : ∀ gs, ¬ r.Parses [] gs) {n : ℕ} {cs : List Char}
    (hn : cs.length ≤ n) : r.searchN n cs = r.findAll cs := by
  have hsame : ∀ (n k : ℕ) (cs : List Char), cs.length ≤ n → cs.length ≤ k →
      r.searchN n cs = r.searchN k cs := by
    have hzero : ∀ k, r.searchN k [] = [] := by
      intro k
      cases k with
      | zero => rfl
      | succ k =>
        rw [searchN]
        cases hsearch : r.search [] with
        | none => rfl
        | some m => exact absurd (length_rest_lt_of_search hr hsearch) (Nat.not_lt_zero _)
    intro n
    induction n with
    | zero =>
      intro k cs hn _
      rw [List.length_eq_zero_iff.1 (Nat.le_zero.1 hn), hzero, hzero]
    | succ n ih =>
      intro k cs hn hk
      cases k with
      | zero => rw [List.length_eq_zero_iff.1 (Nat.le_zero.1 hk), hzero, hzero]
      | succ k =>
        rw [searchN, searchN]
        cases hsearch : r.search cs with
        | none => rfl
        | some m =>
          -- a match takes a character, so both bounds are left above what remains
          have hlt := length_rest_lt_of_search hr hsearch
          exact congrArg (m :: ·) (ih k m.rest (by omega) (by omega))
  exact hsame n cs.length cs hn le_rfl

theorem parses_exactly {n : ℕ} {w : List Char} {gs : List (ℕ × List Char)} :
    (exactly p n).Parses w gs ↔ w.length = n ∧ (∀ c ∈ w, p c = true) ∧ gs = [] := by
  induction n generalizing w gs with
  | zero =>
    rw [List.length_eq_zero_iff]
    constructor
    · rintro ⟨rfl, rfl⟩
      exact ⟨rfl, fun c hc => absurd hc List.not_mem_nil, rfl⟩
    · rintro ⟨rfl, -, rfl⟩
      exact ⟨rfl, rfl⟩
  | succ n ih =>
    constructor
    · rintro ⟨_, _, v, vs, rfl, rfl, ⟨⟨c, rfl, hp⟩, rfl⟩, hv⟩
      obtain ⟨rfl, hall, rfl⟩ := ih.1 hv
      exact ⟨rfl, List.forall_mem_cons.2 ⟨hp, hall⟩, rfl⟩
    · rintro ⟨hlength, hall, rfl⟩
      cases w with
      | nil => cases hlength
      | cons c w =>
        rw [List.forall_mem_cons] at hall
        exact ⟨[c], [], w, [], rfl, rfl, ⟨⟨c, rfl, hall.1⟩, rfl⟩,
          ih.2 ⟨Nat.succ_inj.1 hlength, hall.2, rfl⟩⟩

theorem parses_atMost {n : ℕ} {w : List Char} {gs : List (ℕ × List Char)} :
    (atMost p n).Parses w gs ↔ w.length ≤ n ∧ (∀ c ∈ w, p c = true) ∧ gs = [] := by
  induction n generalizing w gs with
  | zero =>
    rw [Nat.le_zero, List.length_eq_zero_iff]
    constructor
    · rintro ⟨rfl, rfl⟩
      exact ⟨rfl, fun c hc => absurd hc List.not_mem_nil, rfl⟩
    · rintro ⟨rfl, -, rfl⟩
      exact ⟨rfl, rfl⟩
  | succ n ih =>
    constructor
    · rintro (⟨_, _, v, vs, rfl, rfl, ⟨⟨c, rfl, hp⟩, rfl⟩, hv⟩ | ⟨rfl, rfl⟩)
      · obtain ⟨hle, hall, rfl⟩ := ih.1 hv
        exact ⟨Nat.succ_le_succ hle, List.forall_mem_cons.2 ⟨hp, hall⟩, rfl⟩
      · exact ⟨Nat.zero_le _, fun c hc => absurd hc List.not_mem_nil, rfl⟩
    · rintro ⟨hle, hall, rfl⟩
      cases w with
      | nil => exact .inr ⟨rfl, rfl⟩
      | cons c w =>
        rw [List.forall_mem_cons] at hall
        exact .inl ⟨[c], [], w, [], rfl, rfl, ⟨⟨c, rfl, hall.1⟩, rfl⟩,
          ih.2 ⟨Nat.le_of_succ_le_succ hle, hall.2, rfl⟩⟩

theorem parses_lit {l w : List Char} {gs : List (ℕ × List Char)} (h : (lit l).Parses w gs) :
    gs = [] := by
  induction l generalizing w gs with
  | nil => exact h.2
  | cons c l ih =>
    obtain ⟨_, _, _, _, -, rfl, ⟨-, rfl⟩, h⟩ := h
    exact ih h

theorem parses_plus {gs : List (ℕ × List Char)}
    (h : (plus p).Parses w gs) : (∀ c ∈ w, p c = true) ∧ gs = [] := by
  obtain ⟨_, _, _, _, rfl, rfl, ⟨⟨c, rfl, hc⟩, rfl⟩, hall, rfl⟩ := h
  exact ⟨List.forall_mem_cons.2 ⟨hc, hall⟩, rfl⟩

end Rx
