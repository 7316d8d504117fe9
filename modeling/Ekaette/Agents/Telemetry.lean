import Ekaette.Lib.Binary64
import Ekaette.Lib.EventMachine
import Mathlib.Algebra.Group.Prod

set_option autoImplicit false

/-! # Token telemetry

After an agent has run, the token counts of the events that came in since the last time are added to
totals in the session state. A cursor in the state says how many events have been counted. It moves
on before the cost of the new tokens is computed, and this division is the one thing that can
fail. -/

namespace Ekaette

/-! ## The callback -/

/-- An event of a session; the usage metadata are a record of attributes. -/
structure AgentEvent where
  usageMetadata : Option Record

/-- The prices for a million tokens. -/
structure TokenPrices where
  promptPerMillion : PyFloat
  completionPerMillion : PyFloat

/-- `_extract_int`: the first of the attributes that is a positive number. -/
def extractInt (usage : Record) : List String → Except FloatError ℤ
  | [] => .ok 0
  | name :: names =>
    match usage.value name with
    | .int n => if 0 < n then .ok n else extractInt usage names
    | .bool b => if b then .ok 1 else extractInt usage names
    | .float (.fin q) => if 0 < q then .ok (q.num.tdiv q.den) else extractInt usage names
    | .float (.inf false) => .error .overflowError
    | _ => extractInt usage names

/-- `_state_int`; only an infinity raises. -/
def stateInt (py : StrMethods) (state : Record) (key : String) (default : ℤ) :
    Except FloatError ℤ :=
  match ((state.get? key).getD (.int default)).toInt py with
  | .ok n => .ok n
  | .error .overflowError => .error .overflowError
  | .error _ => .ok default

/-- `_state_float`. -/
def stateFloat (state : Record) (key : String) (default : PyFloat) : Except FloatError PyFloat :=
  match ((state.get? key).getD (.float default)).toFloat with
  | .ok x => .ok x
  | .error .overflowError => .error .overflowError
  | .error _ => .ok default

/-- Prompt, completion and total tokens. -/
structure TokenCounts where
  prompt : ℤ
  completion : ℤ
  total : ℤ
  deriving DecidableEq

namespace TokenCounts

instance : Zero TokenCounts := ⟨⟨0, 0, 0⟩⟩

instance : Add TokenCounts :=
  ⟨fun a b => ⟨a.prompt + b.prompt, a.completion + b.completion, a.total + b.total⟩⟩

end TokenCounts

/-- The counts of one event. -/
def eventCounts (event : AgentEvent) : Except FloatError TokenCounts :=
  match event.usageMetadata with
  | none => .ok 0
  | some usage => do
      let prompt ← extractInt usage ["prompt_token_count", "prompt_tokens"]
      let completion ← extractInt usage ["candidates_token_count", "completion_token_count",
        "completion_tokens"]
      let total ← extractInt usage ["total_token_count", "total_tokens"]
      return ⟨prompt, completion, if total ≤ 0 then prompt + completion else total⟩

/-- The loop over the new events. -/
def deltaCounts : TokenCounts → List AgentEvent → Except FloatError TokenCounts
  | delta, [] => .ok delta
  | delta, event :: events => do
      let counts ← eventCounts event
      deltaCounts (delta + counts) events

def cursorKey : String := "temp:telemetry_event_cursor"

def promptKey : String := "temp:total_prompt_tokens"

def completionKey : String := "temp:total_completion_tokens"

def totalKey : String := "temp:total_tokens"

def costKey : String := "temp:total_cost_usd"

/-- `n / 1_000_000`; a number beyond the doubles cannot be divided. -/
def perMillion (n : ℤ) : Except FloatError PyFloat :=
  match Binary64.trueDiv n 1000000 with
  | some q => .ok (.fin q)
  | none => .error .overflowError

/-- What new tokens cost. -/
def deltaCost (prices : TokenPrices) (delta : TokenCounts) : Except FloatError PyFloat := do
  let prompt ← perMillion delta.prompt
  let completion ← perMillion delta.completion
  return Binary64.add (Binary64.mul prompt prices.promptPerMillion)
    (Binary64.mul completion prices.completionPerMillion)

/-- The totals with the new tokens, as they are written. -/
def addCounts (py : StrMethods) (prices : TokenPrices) (state : Record) (delta : TokenCounts) :
    Except FloatError Record := do
  let prompt ← stateInt py state promptKey 0
  let completion ← stateInt py state completionKey 0
  let total ← stateInt py state totalKey 0
  let cost ← stateFloat state costKey (.fin 0)
  let added ← deltaCost prices delta
  return (((state.set promptKey (.int (prompt + delta.prompt))).set completionKey
    (.int (completion + delta.completion))).set totalKey (.int (total + delta.total))).set costKey
      (.float (Binary64.add cost added))

/-- `telemetry_after_agent`: the state it leaves, and what it raises. -/
def telemetryAfterAgent (py : StrMethods) (prices : TokenPrices) (events : List AgentEvent)
    (state : Record) : Record × Option FloatError :=
  if events = [] then (state, none)
  else match stateInt py state cursorKey 0 with
    | .error e => (state, some e)
    | .ok raw =>
      let cursor := if raw < 0 ∨ (events.length : ℤ) < raw then 0 else raw.toNat
      match deltaCounts 0 (events.drop cursor) with
      | .error e => (state, some e)
      | .ok delta =>
        let moved := state.set cursorKey (.int events.length)
        if delta.total ≤ 0 then (moved, none)
        else match addCounts py prices moved delta with
          | .error e => (moved, some e)
          | .ok written => (written, none)

/-! ## What is to be counted -/

namespace TokenCounts

@[ext] theorem ext' {a b : TokenCounts} (hprompt : a.prompt = b.prompt)
    (hcompletion : a.completion = b.completion) (htotal : a.total = b.total) : a = b := by
  cases a
  cases b
  simp_all

@[simp] theorem prompt_zero : (0 : TokenCounts).prompt = 0 := rfl

@[simp] theorem completion_zero : (0 : TokenCounts).completion = 0 := rfl

@[simp] theorem total_zero : (0 : TokenCounts).total = 0 := rfl

@[simp] theorem prompt_add (a b : TokenCounts) : (a + b).prompt = a.prompt + b.prompt := rfl

@[simp] theorem completion_add (a b : TokenCounts) :
    (a + b).completion = a.completion + b.completion := rfl

@[simp] theorem total_add (a b : TokenCounts) : (a + b).total = a.total + b.total := rfl

instance : AddMonoid TokenCounts where
  add_assoc a b c := TokenCounts.ext' (add_assoc _ _ _) (add_assoc _ _ _) (add_assoc _ _ _)
  zero_add a := TokenCounts.ext' (zero_add _) (zero_add _) (zero_add _)
  add_zero a := TokenCounts.ext' (add_zero _) (add_zero _) (add_zero _)
  nsmul := nsmulRec

/-- Counts as events have them: none is negative, and without a total there are no tokens. -/
structure Tallied (k : TokenCounts) : Prop where
  prompt : 0 ≤ k.prompt
  completion : 0 ≤ k.completion
  total : 0 ≤ k.total
  empty : k.total = 0 → k.prompt = 0 ∧ k.completion = 0

theorem Tallied.add {a b : TokenCounts} (ha : a.Tallied) (hb : b.Tallied) : (a + b).Tallied where
  prompt := add_nonneg ha.prompt hb.prompt
  completion := add_nonneg ha.completion hb.completion
  total := add_nonneg ha.total hb.total
  empty h := by
    have hatotal := ha.total
    have hbtotal := hb.total
    rw [total_add] at h
    have hazero := ha.empty (by omega)
    have hbzero := hb.empty (by omega)
    rw [prompt_add, completion_add, hazero.1, hbzero.1, hazero.2, hbzero.2]
    exact ⟨rfl, rfl⟩

theorem tallied_zero : (0 : TokenCounts).Tallied := ⟨le_rfl, le_rfl, le_rfl, fun _ => ⟨rfl, rfl⟩⟩

theorem tallied_sum {ks : List TokenCounts} (h : ∀ k ∈ ks, k.Tallied) : ks.sum.Tallied := by
  induction ks with
  | nil => exact tallied_zero
  | cons k ks ih =>
    rw [List.forall_mem_cons] at h
    rw [List.sum_cons]
    exact h.1.add (ih h.2)

theorem Tallied.eq_zero {k : TokenCounts} (h : k.Tallied) (htotal : k.total ≤ 0) : k = 0 := by
  have hzero := le_antisymm htotal h.total
  exact TokenCounts.ext' (h.empty hzero).1 (h.empty hzero).2 hzero

end TokenCounts

/-- The first positive number among the attributes. -/
def positiveCount (usage : Record) (names : List String) : Option ℤ :=
  (names.filterMap (fun name => (usage.value name).int?)).find? (fun n => decide (0 < n))

/-- The counts of an event: its positive prompt, completion and total counts, and prompt plus
    completion where there is no total. -/
def AgentEvent.counts (event : AgentEvent) : TokenCounts :=
  match event.usageMetadata with
  | none => 0
  | some usage =>
    let prompt := (positiveCount usage ["prompt_token_count", "prompt_tokens"]).getD 0
    let completion := (positiveCount usage
      ["candidates_token_count", "completion_token_count", "completion_tokens"]).getD 0
    ⟨prompt, completion, (positiveCount usage ["total_token_count", "total_tokens"]).getD
      (prompt + completion)⟩

/-- Usage fields are integers or none. -/
def AgentEvent.IntegerFields (event : AgentEvent) : Prop :=
  ∀ usage, event.usageMetadata = some usage → ∀ name, usage.value name = .none ∨ ∃ n,
    usage.value name = .int n

theorem pos_of_positiveCount {usage : Record} {names : List String} {n : ℤ}
    (h : positiveCount usage names = some n) : 0 < n := by
  rw [positiveCount] at h
  simpa using List.find?_some h

theorem positiveCount_nonneg (usage : Record) (names : List String) :
    0 ≤ (positiveCount usage names).getD 0 := by
  cases h : positiveCount usage names with
  | none => exact le_rfl
  | some n => exact (pos_of_positiveCount h).le

theorem extractInt_eq {usage : Record}
    (h : ∀ name, usage.value name = .none ∨ ∃ n, usage.value name = .int n) (names : List String) :
    extractInt usage names = .ok ((positiveCount usage names).getD 0) := by
  induction names with
  | nil => rfl
  | cons name names ih =>
    rcases h name with hvalue | ⟨n, hvalue⟩
    · rw [positiveCount, List.filterMap_cons_none (by rw [hvalue]; rfl), ← positiveCount,
        extractInt, hvalue]
      exact ih
    · rw [positiveCount, List.filterMap_cons_some (by rw [hvalue]; rfl), extractInt, hvalue]
      by_cases hn : 0 < n
      · rw [List.find?_cons_of_pos (by simpa using hn)]
        exact if_pos hn
      · rw [List.find?_cons_of_neg (by simpa using hn), ← positiveCount, ← ih]
        exact if_neg hn

theorem eventCounts_eq {event : AgentEvent} (h : event.IntegerFields) :
    eventCounts event = .ok event.counts := by
  unfold eventCounts AgentEvent.counts
  cases husage : event.usageMetadata with
  | none => rfl
  | some usage =>
    have hfields := h usage husage
    simp only [extractInt_eq hfields, bind, Except.bind, pure, Except.pure]
    congr 2
    cases htotal : positiveCount usage ["total_token_count", "total_tokens"] with
    | none => rw [Option.getD_none, Option.getD_none, if_pos le_rfl]
    | some n =>
      rw [Option.getD_some, Option.getD_some]
      exact if_neg (not_le.2 (pos_of_positiveCount htotal))

theorem tallied_of_counts {prompt completion : ℤ} {total : Option ℤ} (hprompt : 0 ≤ prompt)
    (hcompletion : 0 ≤ completion) (htotal : ∀ n, total = some n → 0 < n) :
    (TokenCounts.mk prompt completion (total.getD (prompt + completion))).Tallied := by
  cases total with
  | none =>
    refine ⟨hprompt, hcompletion, add_nonneg hprompt hcompletion, fun hzero => ?_⟩
    have hsum : prompt + completion = 0 := hzero
    constructor
    · show prompt = 0
      omega
    · show completion = 0
      omega
  | some n =>
    have hn := htotal n rfl
    exact ⟨hprompt, hcompletion, hn.le, fun hzero => absurd hzero hn.ne'⟩

theorem tallied_counts (event : AgentEvent) : event.counts.Tallied := by
  unfold AgentEvent.counts
  cases event.usageMetadata with
  | none => exact TokenCounts.tallied_zero
  | some usage =>
    exact tallied_of_counts (positiveCount_nonneg usage _) (positiveCount_nonneg usage _)
      (fun n h => pos_of_positiveCount h)

/-- The counts of several events together. -/
def countsOf (events : List AgentEvent) : TokenCounts := (events.map AgentEvent.counts).sum

theorem countsOf_append (events more : List AgentEvent) :
    countsOf (events ++ more) = countsOf events + countsOf more := by
  rw [countsOf, List.map_append, List.sum_append, countsOf, countsOf]

theorem tallied_countsOf (events : List AgentEvent) : (countsOf events).Tallied := by
  refine TokenCounts.tallied_sum (fun k hk => ?_)
  obtain ⟨event, -, rfl⟩ := List.mem_map.1 hk
  exact tallied_counts event

theorem deltaCounts_eq {events : List AgentEvent} (h : ∀ event ∈ events, event.IntegerFields)
    (delta : TokenCounts) : deltaCounts delta events = .ok (delta + countsOf events) := by
  induction events generalizing delta with
  | nil => exact congrArg Except.ok (add_zero delta).symm
  | cons event events ih =>
    rw [List.forall_mem_cons] at h
    rw [deltaCounts, eventCounts_eq h.1]
    show deltaCounts (delta + event.counts) events = _
    rw [ih h.2, countsOf, countsOf, List.map_cons, List.sum_cons, add_assoc]

/-! ## One call -/

/-- The totals in the state; a missing key counts as 0. -/
structure HoldsTotals (state : Record) (k : TokenCounts) : Prop where
  prompt : (state.get? promptKey).getD (.int 0) = .int k.prompt
  completion : (state.get? completionKey).getD (.int 0) = .int k.completion
  total : (state.get? totalKey).getD (.int 0) = .int k.total

/-- The cost in the state is a float. -/
def HoldsCost (state : Record) : Prop := ∃ x, (state.get? costKey).getD (.float (.fin 0)) = .float x

/-- Token counts that can be divided as floats. -/
structure TokenCounts.Divisible (k : TokenCounts) : Prop where
  prompt : (Binary64.trueDiv k.prompt 1000000).isSome = true
  completion : (Binary64.trueDiv k.completion 1000000).isSome = true

theorem divisible_zero : (0 : TokenCounts).Divisible := ⟨by decide +kernel, by decide +kernel⟩

theorem stateInt_eq {py : StrMethods} {state : Record} {key : String} {n : ℤ}
    (h : (state.get? key).getD (.int 0) = .int n) : stateInt py state key 0 = .ok n := by
  rw [stateInt, h, PyValue.toInt_int]

theorem stateFloat_eq {state : Record} {key : String} {x : PyFloat}
    (h : (state.get? key).getD (.float (.fin 0)) = .float x) :
    stateFloat state key (.fin 0) = .ok x := by
  rw [stateFloat, h]
  rfl

theorem perMillion_ok {n : ℤ} (h : (Binary64.trueDiv n 1000000).isSome = true) :
    ∃ x, perMillion n = .ok x := by
  cases hdiv : Binary64.trueDiv n 1000000 with
  | none =>
    rw [hdiv] at h
    cases h
  | some q =>
    refine ⟨.fin q, ?_⟩
    simp only [perMillion, hdiv]

theorem perMillion_error {n : ℤ} (h : ¬ (Binary64.trueDiv n 1000000).isSome = true) :
    perMillion n = .error .overflowError := by
  cases hdiv : Binary64.trueDiv n 1000000 with
  | none => simp only [perMillion, hdiv]
  | some q =>
    rw [hdiv] at h
    exact absurd rfl h

theorem deltaCost_ok {k : TokenCounts} (h : k.Divisible) (prices : TokenPrices) :
    ∃ cost, deltaCost prices k = .ok cost := by
  obtain ⟨prompt, hprompt⟩ := perMillion_ok h.prompt
  obtain ⟨completion, hcompletion⟩ := perMillion_ok h.completion
  rw [deltaCost, hprompt, hcompletion]
  exact ⟨_, rfl⟩

theorem deltaCost_error {k : TokenCounts} (h : ¬ k.Divisible) (prices : TokenPrices) :
    deltaCost prices k = .error .overflowError := by
  by_cases hprompt : (Binary64.trueDiv k.prompt 1000000).isSome = true
  · obtain ⟨prompt, hok⟩ := perMillion_ok hprompt
    rw [deltaCost, hok, perMillion_error (fun hcompletion => h ⟨hprompt, hcompletion⟩)]
    rfl
  · rw [deltaCost, perMillion_error hprompt]
    rfl

section AddCounts

variable (py : StrMethods) (prices : TokenPrices) {state : Record} {k delta : TokenCounts}

theorem addCounts_error (htotals : HoldsTotals state k) (hcost : HoldsCost state)
    (h : ¬ delta.Divisible) : addCounts py prices state delta = .error .overflowError := by
  obtain ⟨x, hx⟩ := hcost
  simp only [addCounts, stateInt_eq htotals.prompt, stateInt_eq htotals.completion,
    stateInt_eq htotals.total, stateFloat_eq hx, deltaCost_error h, bind, Except.bind]

/-- The totals grow by the new counts; the cursor stays. -/
theorem addCounts_ok (htotals : HoldsTotals state k) (hcost : HoldsCost state)
    (h : delta.Divisible) : ∃ written, addCounts py prices state delta = .ok written ∧
    HoldsTotals written (k + delta) ∧
      HoldsCost written ∧ written.get? cursorKey = state.get? cursorKey := by
  obtain ⟨x, hx⟩ := hcost
  obtain ⟨cost, hadded⟩ := deltaCost_ok h prices
  have hwritten : addCounts py prices state delta =
      .ok ((((state.set promptKey (.int (k.prompt + delta.prompt))).set completionKey
        (.int (k.completion + delta.completion))).set totalKey (.int (k.total + delta.total))).set
          costKey (.float (Binary64.add x cost))) := by
    simp only [addCounts, stateInt_eq htotals.prompt, stateInt_eq htotals.completion,
      stateInt_eq htotals.total, stateFloat_eq hx, hadded, bind, Except.bind, pure, Except.pure]
  refine ⟨_, hwritten, ⟨?_, ?_, ?_⟩, ⟨Binary64.add x cost, ?_⟩, ?_⟩
  · rw [Dict.get?_set_of_ne _ _ (by decide), Dict.get?_set_of_ne _ _ (by decide),
      Dict.get?_set_of_ne _ _ (by decide), Dict.get?_set_self]
    rfl
  · rw [Dict.get?_set_of_ne _ _ (by decide), Dict.get?_set_of_ne _ _ (by decide),
      Dict.get?_set_self]
    rfl
  · rw [Dict.get?_set_of_ne _ _ (by decide), Dict.get?_set_self]
    rfl
  · rw [Dict.get?_set_self]
    rfl
  · rw [Dict.get?_set_of_ne _ _ (by decide), Dict.get?_set_of_ne _ _ (by decide),
      Dict.get?_set_of_ne _ _ (by decide), Dict.get?_set_of_ne _ _ (by decide)]

end AddCounts

/-- A session: its events, and the state that the callback works on. -/
structure TelemetrySession where
  events : List AgentEvent
  state : Record

/-- How many events have been counted. -/
def TelemetrySession.cursor (s : TelemetrySession) : ℕ :=
  match s.state.get? cursorKey with
  | some (.int n) => n.toNat
  | _ => 0

/-- The events that have not been counted. -/
def TelemetrySession.pending (s : TelemetrySession) : List AgentEvent := s.events.drop s.cursor

/-- The invariant: the totals are those of the events up to the cursor. -/
structure CountedToCursor (s : TelemetrySession) : Prop where
  fields : ∀ event ∈ s.events, event.IntegerFields
  cursor : (s.state.get? cursorKey).getD (.int 0) = .int s.cursor
  le : s.cursor ≤ s.events.length
  totals : HoldsTotals s.state (countsOf (s.events.take s.cursor))
  cost : HoldsCost s.state

section OneCall

variable {s : TelemetrySession}

theorem countsOf_cursor (s : TelemetrySession) :
    countsOf (s.events.take s.cursor) + countsOf s.pending = countsOf s.events := by
  rw [TelemetrySession.pending, ← countsOf_append, List.take_append_drop]

theorem holds_moved {state : Record} {k : TokenCounts} (htotals : HoldsTotals state k)
    (hcost : HoldsCost state) (v : PyValue) : HoldsTotals (state.set cursorKey v) k ∧
    HoldsCost (state.set cursorKey v) := by
  obtain ⟨x, hx⟩ := hcost
  refine ⟨⟨?_, ?_, ?_⟩, ⟨x, ?_⟩⟩
  · rw [Dict.get?_set_of_ne _ _ (by decide)]
    exact htotals.prompt
  · rw [Dict.get?_set_of_ne _ _ (by decide)]
    exact htotals.completion
  · rw [Dict.get?_set_of_ne _ _ (by decide)]
    exact htotals.total
  · rw [Dict.get?_set_of_ne _ _ (by decide)]
    exact hx

/-- The call, under the invariant. -/
theorem telemetryAfterAgent_eq (py : StrMethods) (prices : TokenPrices) (hs : CountedToCursor s)
    (hne : s.events ≠ []) : telemetryAfterAgent py prices s.events s.state =
      if (countsOf s.pending).total ≤ 0 then (s.state.set cursorKey (.int s.events.length), none)
      else match addCounts py prices (s.state.set cursorKey (.int s.events.length))
      (countsOf s.pending) with
        | .error e => (s.state.set cursorKey (.int s.events.length), some e)
        | .ok written => (written, none) := by
  have hcursor : ¬ ((s.cursor : ℤ) < 0 ∨ (s.events.length : ℤ) < s.cursor) := by
    have hle := hs.le
    omega
  have hdelta : deltaCounts 0 (s.events.drop s.cursor) = .ok (countsOf s.pending) := by
    rw [deltaCounts_eq (fun event h => hs.fields event (List.mem_of_mem_drop h)), zero_add,
      TelemetrySession.pending]
  rw [telemetryAfterAgent, if_neg hne, stateInt_eq hs.cursor]
  simp only [if_neg hcursor, Int.toNat_natCast, hdelta]

theorem cursor_moved {state : Record} {n : ℕ} {events : List AgentEvent}
    (h : state.get? cursorKey = some (.int n)) : (TelemetrySession.mk events state).cursor = n := by
  rw [TelemetrySession.cursor, h]
  exact Int.toNat_natCast n

theorem countedToCursor_moved {state : Record} (hs : CountedToCursor s)
    (hcursor : state.get? cursorKey = some (.int s.events.length))
    (htotals : HoldsTotals state (countsOf s.events))
    (hcost : HoldsCost state) : CountedToCursor ⟨s.events, state⟩ := by
  have hmoved : (TelemetrySession.mk s.events state).cursor = s.events.length :=
    cursor_moved hcursor
  refine ⟨hs.fields, ?_, hmoved.le, ?_, hcost⟩
  · rw [hmoved, hcursor, Option.getD_some]
  · rw [hmoved, List.take_length]
    exact htotals

/-- **One call that can divide** counts every event. -/
theorem countedToCursor_callback (py : StrMethods) (prices : TokenPrices) (hs : CountedToCursor s)
    (h : (countsOf s.pending).Divisible) :
    CountedToCursor ⟨s.events, (telemetryAfterAgent py prices s.events s.state).1⟩ ∧
      HoldsTotals (telemetryAfterAgent py prices s.events s.state).1 (countsOf s.events) := by
  by_cases hne : s.events = []
  · have hcursor : s.cursor = 0 := by
      have hle := hs.le
      rw [hne] at hle
      exact Nat.le_zero.1 hle
    have htotals := hs.totals
    rw [telemetryAfterAgent, if_pos hne]
    refine ⟨hs, ?_⟩
    rwa [hcursor, List.take_zero, ← hne] at htotals
  · obtain ⟨htotals, hcost⟩ := holds_moved hs.totals hs.cost (.int s.events.length)
    rw [telemetryAfterAgent_eq py prices hs hne]
    split_ifs with htotal
    · have hzero := (tallied_countsOf s.pending).eq_zero htotal
      have hsum := countsOf_cursor s
      rw [hzero, add_zero] at hsum
      rw [hsum] at htotals
      exact ⟨countedToCursor_moved hs (Dict.get?_set_self _ _ _) htotals hcost, htotals⟩
    · obtain ⟨written, hwritten, hadded, hcost', hcursor⟩ := addCounts_ok py prices htotals hcost h
      rw [countsOf_cursor] at hadded
      rw [hwritten]
      refine ⟨countedToCursor_moved hs ?_ hadded hcost', hadded⟩
      rw [hcursor, Dict.get?_set_self]

theorem not_holdsTotals_callback (py : StrMethods) (prices : TokenPrices) (hs : CountedToCursor s)
    (h : ¬ (countsOf s.pending).Divisible) :
    ¬ HoldsTotals (telemetryAfterAgent py prices s.events s.state).1 (countsOf s.events) := by
  have hpending : 0 < (countsOf s.pending).total := by
    by_contra hle
    rw [(tallied_countsOf s.pending).eq_zero (not_lt.1 hle)] at h
    exact h divisible_zero
  have hne : s.events ≠ [] := by
    intro hnil
    rw [TelemetrySession.pending, hnil, List.drop_nil] at hpending
    exact absurd hpending (by decide)
  obtain ⟨htotals, hcost⟩ := holds_moved hs.totals hs.cost (.int s.events.length)
  rw [telemetryAfterAgent_eq py prices hs hne, if_neg (not_le.2 hpending),
    addCounts_error _ _ htotals hcost h]
  intro hall
  have htotal := htotals.total.symm.trans hall.total
  rw [PyValue.int.injEq, ← countsOf_cursor, TokenCounts.total_add] at htotal
  omega

end OneCall

/-! ## Whole sessions -/

/-- What happens in a session: an event comes in, or an agent has run. -/
inductive TelemetryStep where
  | append (event : AgentEvent) (h : event.IntegerFields)
  | callback

/-- A session with its telemetry. -/
def telemetryMachine (py : StrMethods) (prices : TokenPrices) :
    EventMachine TelemetrySession TelemetryStep (Option FloatError) where
  step s
    | .append event _ => ({ s with events := s.events ++ [event] }, none)
    | .callback =>
      ({ s with state := (telemetryAfterAgent py prices s.events s.state).1 },
        (telemetryAfterAgent py prices s.events s.state).2)

/-- After a call, the totals are the sums over all events. -/
def CountsEveryEvent (py : StrMethods) (prices : TokenPrices)
    (t : EventMachine.Entry TelemetrySession TelemetryStep (Option FloatError)) : Prop :=
  t.event = .callback → HoldsTotals ((telemetryMachine py prices).next t.pre t.event).state
    (countsOf t.pre.events)

/-- The new tokens of a call can be divided. -/
def NewTokensDivisible (s : TelemetrySession) (e : TelemetryStep) : Prop :=
  e = .callback → (countsOf s.pending).Divisible

/-- The keys of the telemetry. -/
def telemetryKeys : List String := [cursorKey, promptKey, completionKey, totalKey, costKey]

theorem countedToCursor_start {state : Record} (h : ∀ key ∈ telemetryKeys, state.get? key = none) :
    CountedToCursor ⟨[], state⟩ := by
  have hcursor : (TelemetrySession.mk [] state).cursor = 0 := by
    rw [TelemetrySession.cursor, h cursorKey (by decide)]
  refine ⟨by simp, ?_, hcursor.le, ⟨?_, ?_, ?_⟩, ⟨.fin 0, ?_⟩⟩
  · rw [hcursor, h cursorKey (by decide)]
    rfl
  · rw [h promptKey (by decide), List.take_nil]
    rfl
  · rw [h completionKey (by decide), List.take_nil]
    rfl
  · rw [h totalKey (by decide), List.take_nil]
    rfl
  · rw [h costKey (by decide)]
    rfl

theorem countedToCursor_append {s : TelemetrySession} (hs : CountedToCursor s) {event : AgentEvent}
    (h : event.IntegerFields) : CountedToCursor ⟨s.events ++ [event], s.state⟩ := by
  refine ⟨?_, hs.cursor, ?_, ?_, hs.cost⟩
  · intro e he
    rcases List.mem_append.1 he with hold | hnew
    · exact hs.fields e hold
    · rw [List.mem_singleton.1 hnew]
      exact h
  · rw [List.length_append]
    exact hs.le.trans (Nat.le_add_right _ _)
  · show HoldsTotals s.state (countsOf ((s.events ++ [event]).take s.cursor))
    rw [List.take_append_of_le_length hs.le]
    exact hs.totals

/-- **Every event is counted once.** After each call the totals are the sums over all events so far,
    exactly if in each call the new prompt and completion tokens can be divided as floats. -/
theorem telemetry_exact_iff (py : StrMethods) (prices : TokenPrices) (state : Record)
    (hstart : ∀ key ∈ telemetryKeys, state.get? key = none) (steps : List TelemetryStep) :
    (∀ t ∈ (telemetryMachine py prices).trace ⟨[], state⟩ steps, CountsEveryEvent py prices t) ↔
      ∀ t ∈ (telemetryMachine py prices).trace ⟨[], state⟩ steps,
      NewTokensDivisible t.pre t.event := by
  refine (telemetryMachine py prices).forall_trace_iff_guarded (P := CountedToCursor) ?_ ?_
    (countedToCursor_start hstart) steps
  · intro s e hs
    cases e with
    | append event h => exact iff_of_true (fun h => by cases h) (fun h => by cases h)
    | callback =>
      constructor
      · intro hcounts _
        by_contra hdivisible
        exact not_holdsTotals_callback py prices hs hdivisible (hcounts rfl)
      · intro hdivisible _
        exact (countedToCursor_callback py prices hs (hdivisible rfl)).2
  · intro s e hs hdivisible
    cases e with
    | append event h => exact countedToCursor_append hs h
    | callback => exact (countedToCursor_callback py prices hs (hdivisible rfl)).1

/-- An event with so many prompt tokens. -/
def promptEvent (n : ℤ) : AgentEvent := ⟨some (.ofList [("prompt_token_count", .int n)])⟩

theorem promptEvent_integerFields (n : ℤ) : (promptEvent n).IntegerFields := by
  rintro usage ⟨⟩ name
  by_cases hname : name = "prompt_token_count"
  · subst hname
    exact .inr ⟨n, rfl⟩
  · refine .inl ?_
    show ((Dict.set Dict.empty "prompt_token_count" (PyValue.int n)).get? name).getD .none = .none
    rw [Dict.get?_set_of_ne _ _ hname]
    rfl

/-- Two agents have run. -/
theorem telemetry_exact_iff_twice :
    (∀ key ∈ telemetryKeys, (Dict.empty : Record).get? key = none) ∧
      ∀ t ∈ (telemetryMachine .ascii ⟨.fin 1, .fin 2⟩).trace ⟨[], .empty⟩
        [.append (promptEvent 3) (promptEvent_integerFields 3), .callback,
          .append (promptEvent 4) (promptEvent_integerFields 4), .callback],
      CountsEveryEvent .ascii ⟨.fin 1, .fin 2⟩ t := by
  refine ⟨by decide, (telemetry_exact_iff .ascii ⟨.fin 1, .fin 2⟩ .empty (by decide) _).2 ?_⟩
  simp only [EventMachine.trace_cons, EventMachine.trace_nil, List.forall_mem_cons]
  refine ⟨(by rintro ⟨⟩), fun _ => ⟨?_, ?_⟩, (by rintro ⟨⟩), fun _ => ⟨?_, ?_⟩, by simp⟩
  all_goals decide +kernel

/-- A count of 316 digits. -/
def hugeCount : ℤ := 10 ^ 155 * 10 ^ 160

/-- It is lost: the cursor is behind its event, and the totals stay 0. -/
theorem telemetry_overflow :
    ¬ ∀ t ∈ (telemetryMachine .ascii ⟨.fin 0, .fin 0⟩).trace ⟨[], .empty⟩
        [.append (promptEvent hugeCount) (promptEvent_integerFields _), .callback],
      CountsEveryEvent .ascii ⟨.fin 0, .fin 0⟩ t := by
  intro h
  rw [EventMachine.trace_cons, EventMachine.trace_cons, List.forall_mem_cons,
    List.forall_mem_cons] at h
  have hstart : CountedToCursor ⟨[], .empty⟩ := countedToCursor_start (by decide)
  have hcounted : CountedToCursor ⟨[promptEvent hugeCount], .empty⟩ :=
    countedToCursor_append hstart (promptEvent_integerFields _)
  have hdivisible :
      ¬ (countsOf (TelemetrySession.mk [promptEvent hugeCount] .empty).pending).Divisible := by
    intro hdivisible
    exact absurd hdivisible.prompt (by decide +kernel)
  exact not_holdsTotals_callback .ascii ⟨.fin 0, .fin 0⟩ hcounted hdivisible (h.2.1 rfl)

end Ekaette
