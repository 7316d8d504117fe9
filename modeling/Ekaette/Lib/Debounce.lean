import Mathlib.Data.List.Chain
import Mathlib.Data.List.TakeWhile

set_option autoImplicit false

/-! # Debouncing

A switch that is driven by noisy observations: it rises once `riseAfter` observations in a row were
up, falls once it has been held and `fallAfter` observations in a row were down, and ignores what it
sees for a cooldown after a fall.

The switch works with counters (`step`). What it should do is said of its history (`due`): which of
the last observations were up or down since the last edge. `Tracks.step` shows that the counters
decide as the history does. -/

namespace Debounce

/-- What the switch does. -/
inductive Edge where
  | rise
  | fall
  deriving DecidableEq

/-- How many observations each decision takes. -/
structure Config where
  riseAfter : ℕ
  fallAfter : ℕ
  minHold : ℕ
  cooldown : ℕ
  rise_pos : 0 < riseAfter

/-- The state of the switch. -/
structure Counters where
  high : Bool
  rising : ℕ
  held : ℕ
  falling : ℕ
  cooldown : ℕ

/-- The switch before the first observation. -/
def Counters.start : Counters := ⟨false, 0, 0, 0, 0⟩

variable (config : Config)

/-- One observation while the switch is low, the cooldown being counted down already. -/
def Counters.low (s : Counters) (up : Bool) : Counters × Option Edge :=
  if up ∧ s.cooldown = 0 then
    let s := { s with rising := s.rising + 1 }
    if config.riseAfter ≤ s.rising then ({ s with high := true, held := 0, falling := 0 },
      some .rise) else (s, none)
  else ({ s with rising := 0 }, none)

/-- One observation while the switch is high. -/
def Counters.hold (s : Counters) (down : Bool) : Counters × Option Edge :=
  let s := { s with held := s.held + 1, falling := if down then s.falling + 1 else 0 }
  if config.minHold ≤ s.held ∧ config.fallAfter ≤ s.falling then
    ({ high := false, rising := 0, held := 0, falling := 0, cooldown := config.cooldown },
      some .fall)
  else (s, none)

/-- The cooldown is counted down. -/
def Counters.coolDown (s : Counters) : Counters := { s with cooldown := s.cooldown - 1 }

/-- One observation. -/
def step (s : Counters) (up down : Bool) : Counters × Option Edge :=
  if s.high then s.coolDown.hold config down else s.coolDown.low config up

/-! ## Histories -/

/-- One observation of the past, and what the switch did then. -/
structure Observation where
  up : Bool
  down : Bool
  edge : Option Edge

/-- The observations after the last edge, newest first. -/
def since (past : List Observation) : List Observation := past.takeWhile (·.edge.isNone)

/-- The last edge. -/
def lastEdge (past : List Observation) : Option Edge := past.findSome? (·.edge)

/-- How many of the newest observations in a row satisfy `p`. -/
def streak (p : Observation → Bool) (past : List Observation) : ℕ := (past.takeWhile p).length

/-- How many observations after the last edge are ignored before a rise. -/
def Config.deaf (last : Option Edge) : ℕ :=
  if last = none then 0 else config.cooldown - 1

/-- What the switch does at an observation, from its past: it rises where the last `riseAfter`
    observations were up, all of them after the last fall and its cooldown; it falls where it has
    been held and the last `fallAfter` observations were down. -/
def due (past : List Observation) (up down : Bool) : Option Edge :=
  let now := (⟨up, down, none⟩ : Observation) :: since past
  match lastEdge past with
  | some .rise =>
    if max config.minHold config.fallAfter ≤ now.length ∧ (now.take config.fallAfter).all (·.down)
    then some .fall else none
  | last =>
    if config.riseAfter + config.deaf last ≤ now.length ∧ (now.take config.riseAfter).all (·.up)
    then some .rise else none

/-- Every edge of the past was due, and no edge that was due is missing. -/
def Accounted (config : Config) : List Observation → Prop
  | [] => True
  | o :: past => o.edge = due config past o.up o.down ∧ Accounted config past

/-! ## Streaks -/

variable {p : Observation → Bool}

theorem le_streak_iff (n : ℕ) (l : List Observation) :
    n ≤ streak p l ↔ n ≤ l.length ∧ (l.take n).all p = true := by
  unfold streak
  induction l generalizing n with
  | nil => cases n <;> simp
  | cons o l ih =>
    cases n with
    | zero => simp
    | succ n =>
      rw [List.takeWhile_cons, List.take_succ_cons, List.all_cons]
      by_cases ho : p o = true
      · simp only [ho, if_true, List.length_cons, Nat.succ_le_succ_iff, ih n, Bool.true_and]
      · simp [ho]

theorem streak_cons_of_pos {o : Observation} (l : List Observation) (h : p o = true) :
    streak p (o :: l) = streak p l + 1 := by
  rw [streak, List.takeWhile_cons_of_pos h, List.length_cons]
  rfl

theorem streak_cons_of_neg {o : Observation} (l : List Observation) (h : ¬ p o = true) :
    streak p (o :: l) = 0 := by
  rw [streak, List.takeWhile_cons_of_neg h, List.length_nil]

theorem since_cons_none (up down : Bool) (past : List Observation) :
    since (⟨up, down, none⟩ :: past) = ⟨up, down, none⟩ :: since past := rfl

theorem lastEdge_cons_none (up down : Bool) (past : List Observation) :
    lastEdge (⟨up, down, none⟩ :: past) = lastEdge past := rfl

theorem lastEdge_cons_some (up down : Bool) (edge : Edge) (past : List Observation) :
    lastEdge (⟨up, down, some edge⟩ :: past) = some edge := rfl

/-! ## The counters and the history -/

/-- What the counters of a low switch say of the past. -/
structure Low (config : Config) (past : List Observation) (s : Counters) : Prop where
  high : s.high = false
  cooldown : s.cooldown = (if lastEdge past = none then 0 else config.cooldown) -
    (since past).length
  rising : s.rising = min (streak (·.up) (since past))
    ((since past).length - config.deaf (lastEdge past))

/-- What the counters of a high switch say of the past. -/
structure High (past : List Observation) (s : Counters) : Prop where
  high : s.high = true
  held : s.held = (since past).length
  falling : s.falling = streak (·.down) (since past)

/-- The counters say of the past what the next decision needs. -/
def Tracks (config : Config) (past : List Observation) (s : Counters) : Prop :=
  match lastEdge past with
  | some .rise => High past s
  | _ => Low config past s

variable {config : Config} {past : List Observation} {s : Counters}

theorem Tracks.start (config : Config) : Tracks config [] .start where
  high := rfl
  cooldown := rfl
  rising := rfl

theorem tracks_rise (h : lastEdge past = some .rise) : Tracks config past s ↔ High past s := by
  rw [Tracks, h]

theorem tracks_low (h : lastEdge past ≠ some .rise) : Tracks config past s ↔ Low config past s := by
  unfold Tracks
  split
  · exact absurd ‹_› h
  · rfl

theorem due_rise (h : lastEdge past = some .rise) (up down : Bool) :
    due config past up down =
      if max config.minHold config.fallAfter ≤ (since past).length + 1 ∧
        config.fallAfter ≤ streak (·.down)
        (⟨up, down, none⟩ :: since past) then some .fall else none := by
  simp only [due, h, le_streak_iff, List.length_cons]
  refine if_congr ⟨fun hdue => ⟨hdue.1, ?_, hdue.2⟩, fun hdue => ⟨hdue.1, hdue.2.2⟩⟩ rfl rfl
  exact Nat.le_trans (Nat.le_max_right _ _) hdue.1

theorem due_low (h : lastEdge past ≠ some .rise) (up down : Bool) :
    due config past up down =
      if config.riseAfter + config.deaf (lastEdge past) ≤ (since past).length + 1 ∧
        config.riseAfter ≤ streak (·.up)
        (⟨up, down, none⟩ :: since past) then some .rise else none := by
  unfold due
  split
  · exact absurd ‹_› h
  · simp only [le_streak_iff, List.length_cons]
    refine if_congr ⟨fun hdue => ⟨hdue.1, ?_, hdue.2⟩, fun hdue => ⟨hdue.1, hdue.2.2⟩⟩ rfl rfl
    exact Nat.le_trans (Nat.le_add_right _ _) hdue.1

/-- The cooldown is over once as many observations were ignored as it takes. -/
theorem Low.ready_iff (h : Low config past s) :
    s.cooldown - 1 = 0 ↔ config.deaf (lastEdge past) ≤ (since past).length := by
  rw [h.cooldown, Config.deaf]
  split_ifs <;> omega

/-- An observation that leaves the switch low counts the cooldown down. -/
theorem Low.stays (h : Low config past s) (hlast : lastEdge past ≠ some .rise) (up down : Bool)
    {rising : ℕ} (hrising : rising = min (streak (·.up) (⟨up, down, none⟩ :: since past))
      ((since past).length + 1 - config.deaf (lastEdge past))) :
    Tracks config (⟨up, down, none⟩ :: past)
      { high := false, rising := rising, held := s.held, falling := s.falling,
        cooldown := s.cooldown - 1 } := by
  have hkeep : lastEdge (⟨up, down, none⟩ :: past) ≠ some .rise := hlast
  refine (tracks_low hkeep).2 ⟨rfl, ?_, ?_⟩
  · rw [since_cons_none, lastEdge_cons_none, List.length_cons, h.cooldown]
    exact Nat.sub_sub _ _ _
  · rw [since_cons_none, lastEdge_cons_none, List.length_cons]
    exact hrising

/-- **An observation of a low switch**. -/
theorem Low.step (h : Low config past s) (hlast : lastEdge past ≠ some .rise) (up down : Bool) :
    (Debounce.step config s up down).2 = due config past up down ∧
      Tracks config (⟨up, down, due config past up down⟩ :: past)
      (Debounce.step config s up down).1 := by
  have hready := h.ready_iff
  have hrising := h.rising
  rw [due_low hlast]
  simp only [Debounce.step, h.high, Bool.false_eq_true, if_false, Counters.low, Counters.coolDown]
  by_cases hup : up = true
  · have hstreak : streak (·.up) (⟨up, down, none⟩ :: since past) = streak (·.up)
        (since past) + 1 :=
      streak_cons_of_pos _ hup
    rw [hstreak]
    by_cases hcool : s.cooldown - 1 = 0
    · have hheard := hready.1 hcool
      have hiff : config.riseAfter ≤ s.rising + 1 ↔
          config.riseAfter + config.deaf (lastEdge past) ≤ (since past).length + 1 ∧
            config.riseAfter ≤ streak (·.up) (since past) + 1 := by omega
      rw [if_pos ⟨hup, hcool⟩, if_congr hiff rfl rfl]
      by_cases hdue : config.riseAfter + config.deaf (lastEdge past) ≤ (since past).length + 1 ∧
          config.riseAfter ≤ streak (·.up) (since past) + 1
      · rw [if_pos hdue, if_pos hdue]
        exact ⟨rfl, rfl, rfl, rfl⟩
      · rw [if_neg hdue, if_neg hdue]
        exact ⟨rfl, h.stays hlast up down (by omega)⟩
    · have hdeaf : ¬ config.deaf (lastEdge past) ≤ (since past).length := fun hle =>
    hcool (hready.2 hle)
      have hpos := config.rise_pos
      rw [if_neg fun hboth => hcool hboth.2, if_neg (by omega)]
      exact ⟨rfl, h.stays hlast up down (by omega)⟩
  · have hstreak : streak (·.up) (⟨up, down, none⟩ :: since past) = 0 := streak_cons_of_neg _ hup
    have hpos := config.rise_pos
    rw [hstreak, if_neg fun hboth => hup hboth.1, if_neg fun hdue => by omega]
    exact ⟨rfl, h.stays hlast up down (by rw [hstreak, Nat.zero_min])⟩

/-- **An observation of a high switch**. -/
theorem High.step (h : High past s) (hlast : lastEdge past = some .rise) (up down : Bool) :
    (Debounce.step config s up down).2 = due config past up down ∧
      Tracks config (⟨up, down, due config past up down⟩ :: past)
      (Debounce.step config s up down).1 := by
  have hkeep : lastEdge (⟨up, down, none⟩ :: past) = some .rise := hlast
  have hfalling : (if down = true then s.falling + 1 else 0) =
      streak (·.down) (⟨up, down, none⟩ :: since past) := by
    by_cases hdown : down = true
    · rw [if_pos hdown, h.falling]
      exact (streak_cons_of_pos _ hdown).symm
    · rw [if_neg hdown]
      exact (streak_cons_of_neg _ hdown).symm
  have hstreakLe : streak (·.down) (⟨up, down, none⟩ :: since past) ≤ (since past).length + 1 :=
    (le_streak_iff _ _).1 (Nat.le_refl _) |>.1
  rw [due_rise hlast]
  simp only [Debounce.step, h.high, if_true, Counters.hold, Counters.coolDown, hfalling, h.held]
  have hiff : config.minHold ≤ (since past).length + 1 ∧
        config.fallAfter ≤ streak (·.down) (⟨up, down, none⟩ :: since past) ↔
      max config.minHold config.fallAfter ≤ (since past).length + 1 ∧
        config.fallAfter ≤ streak (·.down) (⟨up, down, none⟩ :: since past) := by omega
  rw [if_congr hiff rfl rfl]
  split_ifs with hdue
  · refine ⟨rfl, (tracks_low (by rw [lastEdge_cons_some]; decide)).2 ⟨rfl, ?_, ?_⟩⟩
    · rfl
    · exact (Nat.zero_min _).symm
  · exact ⟨rfl, (tracks_rise hkeep).2 ⟨rfl, rfl, rfl⟩⟩

/-- **The counters decide as the history does**, and go on saying of it what the next decision
    needs. -/
theorem Tracks.step (h : Tracks config past s) (up down : Bool) :
    (Debounce.step config s up down).2 = due config past up down ∧
      Tracks config (⟨up, down, due config past up down⟩ :: past)
      (Debounce.step config s up down).1 := by
  by_cases hlast : lastEdge past = some .rise
  · exact ((tracks_rise hlast).1 h).step hlast up down
  · exact ((tracks_low hlast).1 h).step hlast up down

/-! ## What follows from an accounted past -/

theorem due_ne_lastEdge (up down : Bool) : ∀ edge, due config past up down = some edge →
    lastEdge past = none ∧ edge = .rise ∨ ∃ last, lastEdge past = some last ∧ last ≠ edge := by
  intro edge hedge
  unfold due at hedge
  cases hlast : lastEdge past with
  | none =>
    rw [hlast] at hedge
    obtain ⟨-, hrise⟩ := Option.ite_none_right_eq_some.1 hedge
    exact .inl ⟨rfl, (Option.some.inj hrise).symm⟩
  | some last =>
    refine .inr ⟨last, rfl, ?_⟩
    rw [hlast] at hedge
    cases last with
    | rise =>
      obtain ⟨-, hfall⟩ := Option.ite_none_right_eq_some.1 hedge
      rw [← Option.some.inj hfall]
      decide
    | fall =>
      obtain ⟨-, hrise⟩ := Option.ite_none_right_eq_some.1 hedge
      rw [← Option.some.inj hrise]
      decide

/-- The edges of the past, newest first. -/
def edges (past : List Observation) : List Edge := past.filterMap (·.edge)

theorem edges_cons (o : Observation) (past : List Observation) :
    edges (o :: past) = o.edge.toList ++ edges past := by
  cases h : o.edge with
  | none => exact List.filterMap_cons_none h
  | some edge => exact List.filterMap_cons_some h

theorem head?_edges (past : List Observation) : (edges past).head? = lastEdge past := by
  rw [edges, List.head?_filterMap, lastEdge]

/-- **The edges alternate**, a rise being the first. -/
theorem Accounted.alternate (h : Accounted config past) :
    (edges past).IsChain (· ≠ ·) ∧ ∀ edge, (edges past).getLast? = some edge → edge = .rise := by
  induction past with
  | nil => exact ⟨List.IsChain.nil, nofun⟩
  | cons o past ih =>
    obtain ⟨hchain, hfirst⟩ := ih h.2
    rw [edges_cons]
    cases hedge : o.edge with
    | none => exact ⟨hchain, hfirst⟩
    | some edge =>
      have hdue := due_ne_lastEdge o.up o.down edge (h.1.symm.trans hedge)
      have hhead := head?_edges past
      rw [Option.toList_some, List.singleton_append]
      rcases hdue with ⟨hnone, hrise⟩ | ⟨last, hlast, hne⟩
      · have hempty : edges past = [] := List.head?_eq_none_iff.1 (hhead.trans hnone)
        rw [hempty]
        exact ⟨List.isChain_singleton _, fun e he => (Option.some.inj he).symm.trans hrise⟩
      · cases hpast : edges past with
        | nil =>
          rw [hpast, hlast] at hhead
          exact absurd hhead nofun
        | cons e es =>
          rw [hpast, hlast] at hhead
          rw [hpast] at hchain hfirst
          obtain rfl : e = last := Option.some.inj hhead
          exact ⟨List.isChain_cons_cons.2 ⟨hne.symm, hchain⟩, hfirst⟩

end Debounce
