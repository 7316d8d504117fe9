import Ekaette.Realtime.UpstreamTask

set_option autoImplicit false

/-! # Nudges of a live session

`silence_nudge_task` of `realtime/stream_tasks.py` reminds the model of a silent customer, and of a
customer who waits for an answer. What the upstream and the downstream task write into the silence
state, and a tick of the nudge task, are steps without an `await`, in any order. Times are exact. -/

namespace Ekaette

structure NudgeSettings where
  /-- `SILENCE_NUDGE_SECONDS` -/
  seconds : ℤ
  /-- `SILENCE_NUDGE_MAX` -/
  maxNudges : ℤ
  /-- `SILENCE_NUDGE_BACKOFF_MULTIPLIER` -/
  backoffMultiplier : ℚ
  /-- `SILENCE_NUDGE_MAX_INTERVAL_SECONDS` -/
  maxIntervalSeconds : ℤ

/-- `SilenceState` -/
structure SharedSilence extends SilenceState where
  userSpokeAt : ℚ

inductive SilenceNudge where
  /-- the customer is silent -/
  | hint (ordinal : ℕ)
  /-- the customer waits for a response -/
  | filler
  | reassure
  deriving DecidableEq

inductive StreamStep where
  /-- a binary frame of the client -/
  | clientAudio
  /-- a text frame of the client, with the type of its message -/
  | clientMessage (type : Option ClientMessageType)
  | agentAudio
  /-- a text part, where there is no native audio -/
  | agentText
  /-- an input transcription has been sent to the client -/
  | transcribed
  /-- an output transcription; a late part of one that is final is not sent -/
  | spoken (isLate : Bool)
  | interrupted
  | turnComplete
  /-- a tick of the nudge task, and whether the live queue accepts what it sends -/
  | tick (accepts : Bool)
  deriving DecidableEq

/-- Client activity that starts the schedule again; true when the agent has something to do now. -/
def StreamStep.activity : StreamStep → Option Bool
  | .clientAudio => some true
  | .clientMessage type => type.bind ClientMessageType.activity
  | _ => none

/-- The silence state, and whether `silence_nudge_task` runs. -/
structure NudgeRun where
  silence : SharedSilence
  nudging : Bool

section Source

variable (cfg : NudgeSettings)

/-- `_next_silence_nudge_interval` -/
def nextSilenceNudgeInterval (currentInterval : ℚ) : ℚ :=
  let multiplier := max 1 cfg.backoffMultiplier
  let grown := max (currentInterval + 1) (currentInterval * multiplier)
  let maxInterval : ℚ := max 1 cfg.maxIntervalSeconds
  min grown maxInterval

/-- `create_initial_silence_state`, and the start of the task. -/
def NudgeRun.initial (now : ℚ) : NudgeRun where
  silence :=
    { lastClientActivity := now
      silenceNudgeCount := 0
      agentBusy := false
      silenceNudgeDueAt := (resetSilenceNudgeSchedule cfg.seconds now).1
      silenceNudgeInterval := (resetSilenceNudgeSchedule cfg.seconds now).2
      awaitingAgentResponse := false
      responseNudgeCount := 0
      userSpokeAt := 0 }
  nudging := decide (0 < cfg.seconds)

/-- A reminder is sent; the task ends when the queue does not accept it. -/
def sendNudge (accepts : Bool) (nudge : SilenceNudge) (rejected sent : SharedSilence) :
    NudgeRun × Option SilenceNudge :=
  if accepts then (⟨sent, true⟩, some nudge) else (⟨rejected, false⟩, none)

/-- The part of a tick that is for a silent customer. -/
def hintTick (now : ℚ) (accepts : Bool) (s : SharedSilence) : NudgeRun × Option SilenceNudge :=
  if now < s.silenceNudgeDueAt then (⟨s, true⟩, none)
  else if s.agentBusy then (⟨s, true⟩, none)
  else if s.awaitingAgentResponse then (⟨s, true⟩, none)
  else if cfg.maxNudges ≤ s.silenceNudgeCount then (⟨s, true⟩, none)
  else
    let counted := { s with silenceNudgeCount := s.silenceNudgeCount + 1 }
    let interval := nextSilenceNudgeInterval cfg s.silenceNudgeInterval
    sendNudge accepts (.hint (s.silenceNudgeCount + 1)) counted
      { counted with silenceNudgeInterval := interval, silenceNudgeDueAt := now + interval }

/-- One round of `silence_nudge_task`. -/
def nudgeTick (now : ℚ) (accepts : Bool) (s : SharedSilence) : NudgeRun × Option SilenceNudge :=
  let elapsed := now - s.userSpokeAt
  if s.awaitingAgentResponse = true ∧ 3 ≤ elapsed ∧ s.responseNudgeCount = 0 then
    sendNudge accepts .filler { s with responseNudgeCount := 1 } { s with responseNudgeCount := 1 }
  else if s.awaitingAgentResponse = true ∧ 15 ≤ elapsed ∧ s.responseNudgeCount = 1 then
    sendNudge accepts .reassure { s with responseNudgeCount := 2 }
      { s with responseNudgeCount := 2 }
  else hintTick cfg now accepts s

/-- What the streaming tasks write. -/
def SharedSilence.write (now : ℚ) (s : SharedSilence) : StreamStep → SharedSilence
  | .clientAudio => { s with toSilenceState := s.toSilenceState.onActivity cfg.seconds now true }
  | .clientMessage type =>
    match type.bind ClientMessageType.activity with
    | some busy => { s with toSilenceState := s.toSilenceState.onActivity cfg.seconds now busy }
    | none => s
  | .agentAudio => { s with agentBusy := true, awaitingAgentResponse := false }
  | .agentText => { s with agentBusy := true, awaitingAgentResponse := false }
  | .transcribed =>
    { s with awaitingAgentResponse := true, userSpokeAt := now, responseNudgeCount := 0 }
  | .spoken isLate =>
    { s with
      agentBusy := true
      awaitingAgentResponse := if isLate then s.awaitingAgentResponse else false }
  | .interrupted => { s with agentBusy := false, awaitingAgentResponse := false }
  | .turnComplete =>
    { s with
      agentBusy := false
      silenceNudgeDueAt :=
        if s.lastClientActivity ≤ now then now + max 1 s.silenceNudgeInterval
        else s.silenceNudgeDueAt }
  | .tick _ => s

/-- One step of the session. -/
def sessionStep (s : NudgeRun) (e : Timed ℚ StreamStep) : NudgeRun × Option SilenceNudge :=
  match e.event with
  | .tick accepts => if s.nudging then nudgeTick cfg e.now accepts s.silence else (s, none)
  | event => ({ s with silence := s.silence.write cfg e.now event }, none)

/-- The tasks of a session, as far as they share the silence state. -/
def nudgeSession : EventMachine NudgeRun (Timed ℚ StreamStep) (Option SilenceNudge) :=
  ⟨sessionStep cfg⟩

end Source

/-! ## What happened so far -/

/-- A transcription of the customer's speech that was forwarded: when, whether agent audio was
    received and a turn completed since, and how many reminders it has led to. -/
structure ForwardedSpeech where
  spokenAt : ℚ
  answered : Bool
  turnCompleted : Bool
  nudges : ℕ
  deriving DecidableEq

/-- What happened so far, whatever the tasks remember of it. -/
structure NudgeHistory where
  clock : ℚ
  /-- the times of client activity and of completed turns -/
  anchors : List ℚ
  /-- agent audio was received since the last completed turn or interruption -/
  agentTurn : Bool
  /-- the hints since the last client activity -/
  hints : ℕ
  speech : Option ForwardedSpeech

namespace NudgeHistory

def initial (now : ℚ) : NudgeHistory := ⟨now, [], false, 0, none⟩

/-- A step that happened. -/
def seen (h : NudgeHistory) (now : ℚ) : StreamStep → NudgeHistory
  | .agentAudio =>
    { h with clock := now, agentTurn := true, speech := h.speech.map ({ · with answered := true }) }
  | .transcribed => { h with clock := now, speech := some ⟨now, false, false, 0⟩ }
  | .interrupted => { h with clock := now, agentTurn := false }
  | .turnComplete =>
    { h with
      clock := now, anchors := now :: h.anchors, agentTurn := false
      speech := h.speech.map ({ · with turnCompleted := true }) }
  | event =>
    if event.activity.isSome then { h with clock := now, anchors := now :: h.anchors, hints := 0 }
    else { h with clock := now }

/-- A reminder that was sent. -/
def sent (h : NudgeHistory) : Option SilenceNudge → NudgeHistory
  | none => h
  | some (.hint _) => { h with hints := h.hints + 1 }
  | some .filler =>
    { h with speech := h.speech.map fun speech => { speech with nudges := speech.nudges + 1 } }
  | some .reassure =>
    { h with speech := h.speech.map fun speech => { speech with nudges := speech.nudges + 1 } }

def observe (h : NudgeHistory) (e : Timed ℚ StreamStep) (answer : Option SilenceNudge) :
    NudgeHistory :=
  (h.seen e.now e.event).sent answer

end NudgeHistory

variable (cfg : NudgeSettings)

/-- The session, with its history beside it. -/
def observedSession :
    EventMachine (NudgeRun × NudgeHistory) (Timed ℚ StreamStep) (Option SilenceNudge) :=
  (nudgeSession cfg).monitor NudgeHistory.observe

def observedStart (now : ℚ) : NudgeRun × NudgeHistory :=
  (NudgeRun.initial cfg now, NudgeHistory.initial now)

/-- The least time between a frame or a completed turn and a hint. -/
def leastSilence : ℚ :=
  min (max 1 (cfg.seconds : ℚ)) (max 1 (cfg.maxIntervalSeconds : ℚ))

/-- A hint is sent in a pause of the agent, late enough, and not too often. -/
structure HintRight (cfg : NudgeSettings) (h : NudgeHistory) (now : ℚ) : Prop where
  pause : h.agentTurn = false
  late : ∀ anchor ∈ h.anchors, anchor + leastSilence cfg ≤ now
  few : (h.hints : ℤ) < cfg.maxNudges

/-- The customer has spoken and waits for a response, for long enough. -/
def ResponseRight (h : NudgeHistory) (now : ℚ) : Prop :=
  ∃ speech, h.speech = some speech ∧ speech.spokenAt + 3 ≤ now ∧ speech.answered = false ∧
    speech.nudges < 2

/-- **What a reminder is for.** -/
def NudgedRightly
    (t : EventMachine.Entry (NudgeRun × NudgeHistory) (Timed ℚ StreamStep) (Option SilenceNudge)) :
    Prop :=
  (∀ ordinal, t.answer = some (.hint ordinal) → HintRight cfg t.pre.2 t.event.now) ∧
    (t.answer = some .filler ∨ t.answer = some .reassure → ResponseRight t.pre.2 t.event.now)

/-! ## The invariant -/

variable {cfg : NudgeSettings}

/-- What the silence state remembers of the history. -/
structure StateKnows (cfg : NudgeSettings) (v : SharedSilence) (h : NudgeHistory) : Prop where
  pause : v.agentBusy = false → h.agentTurn = false
  due : ∀ anchor ∈ h.anchors, anchor + leastSilence cfg ≤ v.silenceNudgeDueAt
  past : ∀ anchor ∈ h.anchors, anchor ≤ h.clock
  interval : leastSilence cfg ≤ v.silenceNudgeInterval
  count : h.hints ≤ v.silenceNudgeCount
  active : v.lastClientActivity ≤ h.clock
  speech : v.awaitingAgentResponse = true → ∃ speech, h.speech = some speech ∧
    speech.spokenAt = v.userSpokeAt ∧ speech.answered = false ∧ speech.nudges ≤ v.responseNudgeCount

theorem leastSilence_le_base : leastSilence cfg ≤ max 1 (cfg.seconds : ℚ) := min_le_left _ _

/-- The next interval is long enough, too. -/
theorem leastSilence_le_next {interval : ℚ} (h : leastSilence cfg ≤ interval) :
    leastSilence cfg ≤ nextSilenceNudgeInterval cfg interval := by
  refine le_min ?_ (min_le_right _ _)
  calc leastSilence cfg ≤ interval := h
    _ ≤ interval + 1 := le_add_of_nonneg_right zero_le_one
    _ ≤ max (interval + 1) _ := le_max_left _ _

theorem stateKnows_initial (now : ℚ) :
    StateKnows cfg (NudgeRun.initial cfg now).silence (.initial now) where
  pause := fun _ => rfl
  due := by rintro _ ⟨⟩
  past := by rintro _ ⟨⟩
  interval := leastSilence_le_base
  count := le_rfl
  active := le_rfl
  speech := by rintro ⟨⟩

section Steps

variable {v : SharedSilence} {h : NudgeHistory} {now : ℚ}

theorem StateKnows.past_now (hr : StateKnows cfg v h) (hclock : h.clock ≤ now) :
    ∀ anchor ∈ h.anchors, anchor ≤ now :=
  fun anchor hanchor => (hr.past anchor hanchor).trans hclock

/-- Client activity starts the schedule again. -/
theorem StateKnows.activity (hr : StateKnows cfg v h) (hclock : h.clock ≤ now) (busy : Bool) :
    StateKnows cfg { v with toSilenceState := v.toSilenceState.onActivity cfg.seconds now busy }
      { h with clock := now, anchors := now :: h.anchors, hints := 0 } where
  pause := by
    intro hbusy
    change (busy || v.agentBusy) = false at hbusy
    exact hr.pause (Bool.or_eq_false_iff.1 hbusy).2
  due := by
    intro anchor hanchor
    -- no anchor lies in the future, and the schedule starts again now
    show anchor + leastSilence cfg ≤ now + max 1 (cfg.seconds : ℚ)
    have hle : anchor ≤ now := by
      rcases List.mem_cons.1 hanchor with rfl | hanchor
      · exact le_rfl
      · exact hr.past_now hclock anchor hanchor
    exact add_le_add hle leastSilence_le_base
  past := by
    intro anchor hanchor
    rcases List.mem_cons.1 hanchor with rfl | hanchor
    · exact le_rfl
    · exact hr.past_now hclock anchor hanchor
  interval := leastSilence_le_base
  count := Nat.zero_le _
  active := le_rfl
  speech := by rintro ⟨⟩

/-- A step that only moves the clock of the history. -/
theorem StateKnows.clock (hr : StateKnows cfg v h) (hclock : h.clock ≤ now) :
    StateKnows cfg v { h with clock := now } :=
  ⟨hr.pause, hr.due, hr.past_now hclock, hr.interval, hr.count, hr.active.trans hclock, hr.speech⟩

/-- **What the streaming tasks write.** -/
theorem StateKnows.write (hr : StateKnows cfg v h) (hclock : h.clock ≤ now) (event : StreamStep) :
    StateKnows cfg (v.write cfg now event) (h.seen now event) := by
  have hpast := hr.past_now hclock
  have hactive := hr.active.trans hclock
  cases event with
  | clientAudio => exact hr.activity hclock true
  | clientMessage type =>
    have hseen :
        h.seen now (.clientMessage type) = if (type.bind ClientMessageType.activity).isSome then
        { h with clock := now, anchors := now :: h.anchors, hints := 0 } else { h with
          clock := now } := rfl
    rw [hseen]
    unfold SharedSilence.write
    dsimp only
    split
    · next busy hbusy =>
        rw [if_pos (by rw [hbusy]; rfl)]
        exact hr.activity hclock busy
    · next hnone =>
        rw [if_neg (by rw [hnone]; exact Bool.false_ne_true)]
        exact hr.clock hclock
  | agentAudio =>
    refine ⟨?_, hr.due, hpast, hr.interval, hr.count, hactive, ?_⟩
    · rintro ⟨⟩
    · rintro ⟨⟩
  | agentText =>
    refine ⟨?_, hr.due, hpast, hr.interval, hr.count, hactive, ?_⟩
    · rintro ⟨⟩
    · rintro ⟨⟩
  | transcribed => exact ⟨hr.pause, hr.due, hpast, hr.interval, hr.count, hactive, fun _ =>
    ⟨_, rfl, rfl, rfl, le_rfl⟩⟩
  | spoken isLate =>
    refine ⟨?_, hr.due, hpast, hr.interval, hr.count, hactive, ?_⟩
    · rintro ⟨⟩
    · intro hawaiting
      cases isLate with
      | false => cases hawaiting
      | true => exact hr.speech hawaiting
  | interrupted =>
    refine ⟨fun _ => rfl, hr.due, hpast, hr.interval, hr.count, hactive, ?_⟩
    rintro ⟨⟩
  | turnComplete =>
    refine ⟨fun _ => rfl, ?_, ?_, hr.interval, hr.count, hactive, fun hawaiting => ?_⟩
    · intro anchor hanchor
      show anchor + leastSilence cfg ≤ if v.lastClientActivity ≤ now then now +
        max 1 v.silenceNudgeInterval else _
      rw [if_pos hactive]
      have hle : anchor ≤ now := by
        rcases List.mem_cons.1 hanchor with rfl | hanchor
        · exact le_rfl
        · exact hpast anchor hanchor
      exact add_le_add hle (hr.interval.trans (le_max_right _ _))
    · intro anchor hanchor
      rcases List.mem_cons.1 hanchor with rfl | hanchor
      · exact le_rfl
      · exact hpast anchor hanchor
    · -- the customer is left waiting
      obtain ⟨speech, hspeech, hknown⟩ := hr.speech hawaiting
      refine ⟨{ speech with turnCompleted := true }, ?_, hknown⟩
      rw [NudgeHistory.seen, hspeech]
      rfl
  | tick accepts => exact hr.clock hclock

/-- What a tick answers, and what is remembered then. -/
structure TickRight (cfg : NudgeSettings) (h : NudgeHistory) (now : ℚ)
    (r : NudgeRun × Option SilenceNudge) : Prop where
  remembers : StateKnows cfg r.1.silence (h.sent r.2)
  hint : ∀ ordinal, r.2 = some (.hint ordinal) → HintRight cfg h now
  response : r.2 = some .filler ∨ r.2 = some .reassure → ResponseRight h now

theorem TickRight.silent (hr : StateKnows cfg v h) (now : ℚ) :
    TickRight cfg h now (⟨v, true⟩, none) := by
  refine ⟨hr, ?_, ?_⟩
  · rintro _ ⟨⟩
  · rintro (⟨⟨⟩⟩ | ⟨⟨⟩⟩)

theorem tickRight_sendNudge {accepts : Bool} {nudge : SilenceNudge} {rejected sent : SharedSilence}
    (hrejected : StateKnows cfg rejected h) (hsent : StateKnows cfg sent (h.sent (some nudge)))
    (hhint : ∀ ordinal, nudge = .hint ordinal → HintRight cfg h now)
    (hresponse : nudge = .filler ∨ nudge = .reassure → ResponseRight h now) :
    TickRight cfg h now (sendNudge accepts nudge rejected sent) := by
  cases accepts with
  | true =>
    refine ⟨hsent, fun ordinal ho => hhint ordinal (Option.some.inj ho), fun ho => hresponse ?_⟩
    exact ho.imp Option.some.inj Option.some.inj
  | false =>
    refine ⟨hrejected, ?_, ?_⟩
    · rintro _ ⟨⟩
    · rintro (⟨⟨⟩⟩ | ⟨⟨⟩⟩)

/-- The part for a silent customer. -/
theorem tickRight_hintTick (hr : StateKnows cfg v h) (hclock : h.clock = now) (accepts : Bool) :
    TickRight cfg h now (hintTick cfg now accepts v) := by
  unfold hintTick
  split_ifs with hdue hbusy hawaiting hmax
  · exact .silent hr now
  · exact .silent hr now
  · exact .silent hr now
  · exact .silent hr now
  · have hlate : ∀ anchor ∈ h.anchors, anchor + leastSilence cfg ≤ now := fun anchor hanchor =>
      (hr.due anchor hanchor).trans (not_lt.1 hdue)
    have hinterval := leastSilence_le_next hr.interval
    refine tickRight_sendNudge ?_ ?_ (fun _ _ => ?_) ?_
    · exact ⟨hr.pause, hr.due, hr.past, hr.interval, hr.count.trans (Nat.le_succ _), hr.active,
      hr.speech⟩
    · refine ⟨hr.pause, fun anchor hanchor => ?_, hr.past, hinterval, Nat.succ_le_succ hr.count,
      hr.active, hr.speech⟩
      have hle : anchor ≤ now := hclock ▸ hr.past anchor hanchor
      exact add_le_add hle hinterval
    · refine ⟨hr.pause (Bool.eq_false_iff.2 hbusy), hlate, ?_⟩
      -- the count is never below the hints that were sent, so its bound is a bound on them
      have hcount : (h.hints : ℤ) ≤ v.silenceNudgeCount := by exact_mod_cast hr.count
      omega
    · rintro (⟨⟨⟩⟩ | ⟨⟨⟩⟩)

/-- A reminder for a customer who waits for a response. -/
theorem tickRight_response (hr : StateKnows cfg v h) (hawaiting : v.awaitingAgentResponse = true)
    {n : ℕ} (helapsed : 3 ≤ now - v.userSpokeAt) (hcount : v.responseNudgeCount = n) (hn : n < 2)
    (accepts : Bool) {nudge : SilenceNudge} (hnudge : nudge = .filler ∨ nudge = .reassure) :
    TickRight cfg h now
      (sendNudge accepts nudge { v with responseNudgeCount := n + 1 }
        { v with responseNudgeCount := n + 1 }) := by
  obtain ⟨speech, hspeech, hat, hanswered, hnudges⟩ := hr.speech hawaiting
  -- the speech that is awaited is the customer's last
  have hsent : h.sent (some nudge) =
      { h with speech := some { speech with nudges := speech.nudges + 1 } } := by
    rcases hnudge with rfl | rfl
    · rw [NudgeHistory.sent, hspeech]
      rfl
    · rw [NudgeHistory.sent, hspeech]
      rfl
  refine tickRight_sendNudge ?_ ?_ (fun ordinal ho => ?_) fun _ => ?_
  · refine ⟨hr.pause, hr.due, hr.past, hr.interval, hr.count, hr.active, fun _ =>
      ⟨speech, hspeech, hat, hanswered, ?_⟩⟩
    show speech.nudges ≤ n + 1
    omega
  · rw [hsent]
    refine ⟨hr.pause, hr.due, hr.past, hr.interval, hr.count, hr.active, fun _ =>
      ⟨_, rfl, hat, hanswered, ?_⟩⟩
    show speech.nudges + 1 ≤ n + 1
    omega
  · subst ho
    rcases hnudge with ⟨⟨⟩⟩ | ⟨⟨⟩⟩
  · refine ⟨speech, hspeech, ?_, hanswered, by omega⟩
    rw [hat]
    linarith

/-- **A tick.** -/
theorem tickRight_nudgeTick (hr : StateKnows cfg v h) (hclock : h.clock = now) (accepts : Bool) :
    TickRight cfg h now (nudgeTick cfg now accepts v) := by
  unfold nudgeTick
  dsimp only
  split_ifs with hfiller hreassure
  · exact tickRight_response hr hfiller.1 hfiller.2.1 hfiller.2.2 (by omega) accepts (.inl rfl)
  · refine tickRight_response hr hreassure.1 ?_ hreassure.2.2 (by omega) accepts (.inr rfl)
    linarith [hreassure.2.1]
  · exact tickRight_hintTick hr hclock accepts

end Steps

/-! ## Runs -/

def ClockForward (s : NudgeRun × NudgeHistory) (e : Timed ℚ StreamStep) : Prop := s.2.clock ≤ e.now

instance (s : NudgeRun × NudgeHistory) (e : Timed ℚ StreamStep) : Decidable (ClockForward s e) :=
  inferInstanceAs (Decidable (s.2.clock ≤ e.now))

theorem nudgedRightly_of_none {t : EventMachine.Entry (NudgeRun × NudgeHistory) (Timed ℚ StreamStep)
    (Option SilenceNudge)} (h : t.answer = none) : NudgedRightly cfg t := by
  refine ⟨fun ordinal ho => ?_, ?_⟩
  · rw [h] at ho
    cases ho
  · rw [h]
    rintro (⟨⟨⟩⟩ | ⟨⟨⟩⟩)

theorem step_of_ne_tick (s : NudgeRun) {e : Timed ℚ StreamStep}
    (h : ∀ accepts, e.event ≠ .tick accepts) :
    (nudgeSession cfg).step s e = ({ s with silence := s.silence.write cfg e.now e.event },
      none) := by
  obtain ⟨now, event⟩ := e
  cases event with
  | tick accepts => exact absurd rfl (h accepts)
  | clientAudio => rfl
  | clientMessage type => rfl
  | agentAudio => rfl
  | agentText => rfl
  | transcribed => rfl
  | spoken isLate => rfl
  | interrupted => rfl
  | turnComplete => rfl

theorem stateKnows_step {s : NudgeRun × NudgeHistory} (hr : StateKnows cfg s.1.silence s.2)
    (e : Timed ℚ StreamStep) (hclock : ClockForward s e) :
    StateKnows cfg ((observedSession cfg).next s e).1.silence ((observedSession cfg).next s e).2 ∧
      NudgedRightly cfg ((observedSession cfg).entry s e) := by
  by_cases htick : ∀ accepts, e.event ≠ .tick accepts
  · have hstep : (nudgeSession cfg).step s.1 e = _ := step_of_ne_tick s.1 htick
    have hwrite := hr.write hclock e.event
    refine ⟨?_, nudgedRightly_of_none ?_⟩
    · show StateKnows cfg ((nudgeSession cfg).step s.1 e).1.silence
        (s.2.observe e ((nudgeSession cfg).step s.1 e).2)
      rw [hstep]
      exact hwrite
    · show ((nudgeSession cfg).step s.1 e).2 = none
      rw [hstep]
  · obtain ⟨accepts, htick⟩ := not_forall_not.1 htick
    obtain ⟨now, event⟩ := e
    change event = .tick accepts at htick
    subst htick
    obtain ⟨⟨v, nudging⟩, h⟩ := s
    have hnow : StateKnows cfg v { h with clock := now } := hr.clock hclock
    cases nudging with
    | false => exact ⟨hnow, nudgedRightly_of_none rfl⟩
    | true =>
      have hright := tickRight_nudgeTick hnow rfl accepts
      refine ⟨hright.remembers, fun ordinal ho => ?_, hright.response⟩
      obtain ⟨hpause, hlate, hfew⟩ := hright.hint ordinal ho
      exact ⟨hpause, hlate, hfew⟩

/-- **Nudges of a session.** In every interleaving with a clock that does not go back, every
    reminder is sent rightly. -/
theorem nudges_rightly (cfg : NudgeSettings) (now : ℚ) (es : List (Timed ℚ StreamStep))
    (hclock : ∀ t ∈ (observedSession cfg).trace (observedStart cfg now) es,
      ClockForward t.pre t.event) :
    ∀ t ∈ (observedSession cfg).trace (observedStart cfg now) es, NudgedRightly cfg t := by
  have halways := (observedSession cfg).always_of_guarded (P := fun s =>
    StateKnows cfg s.1.silence s.2) (G := ClockForward)
      (fun s e hs hG => (stateKnows_step hs e hG).1) (stateKnows_initial now) hclock
  intro t ht
  rw [(observedSession cfg).eq_entry_of_mem_trace ht]
  exact (stateKnows_step (EventMachine.Always.pre _ halways ht) t.event (hclock t ht)).2

/-- Nudges after eight seconds, twice. -/
def nudgeAfterEight : NudgeSettings := ⟨8, 2, 2, 60⟩

/-- The customer speaks and waits, and then the agent answers and completes its turn. -/
def answeredLate : List (Timed ℚ StreamStep) :=
  [⟨1, .clientAudio⟩, ⟨2, .transcribed⟩, ⟨5, .tick true⟩, ⟨6, .agentAudio⟩, ⟨7, .turnComplete⟩,
    ⟨15, .tick true⟩]

/-- The transcription of what the agent has answered already comes late. -/
def transcribedLate : List (Timed ℚ StreamStep) :=
  [⟨1, .clientAudio⟩, ⟨2, .agentAudio⟩, ⟨3, .transcribed⟩, ⟨4, .turnComplete⟩, ⟨7, .tick true⟩]

theorem clockForward_of_all (cfg : NudgeSettings) (now : ℚ) (es : List (Timed ℚ StreamStep))
    (h : ((observedSession cfg).trace (observedStart cfg now) es).all (fun t =>
      decide (ClockForward t.pre t.event)) = true) :
    ∀ t ∈ (observedSession cfg).trace (observedStart cfg now) es, ClockForward t.pre t.event :=
  fun t ht => of_decide_eq_true (List.all_eq_true.1 h t ht)

/-- A customer who waits, and then is silent. -/
theorem nudges_rightly_answeredLate :
    ((observedSession nudgeAfterEight).trace (observedStart nudgeAfterEight 0) answeredLate).map
    (·.answer) =
        [none, none, some .filler, none, none, some (.hint 1)] ∧
      ∀ t ∈ (observedSession nudgeAfterEight).trace (observedStart nudgeAfterEight 0) answeredLate,
        NudgedRightly nudgeAfterEight t :=
  ⟨by decide +kernel, nudges_rightly nudgeAfterEight 0 answeredLate
    (clockForward_of_all nudgeAfterEight 0 answeredLate (by decide +kernel))⟩

/-- A turn that is completed leaves the customer waiting: the reminder comes after it, too. -/
theorem nudges_after_turnComplete :
    ¬ ∀ (cfg : NudgeSettings) (now : ℚ) (es : List (Timed ℚ StreamStep)),
      (∀ t ∈ (observedSession cfg).trace (observedStart cfg now) es, ClockForward t.pre t.event) →
        ∀ t ∈ (observedSession cfg).trace (observedStart cfg now) es, NudgedRightly cfg t ∧
          (t.answer = some .filler ∨ t.answer = some .reassure →
            ∀ speech, t.pre.2.speech = some speech → speech.turnCompleted = false) := by
  intro h
  have hright := h nudgeAfterEight 0 transcribedLate
    (clockForward_of_all nudgeAfterEight 0 transcribedLate (by decide +kernel))
  -- the tick
  let before :=
    (observedSession nudgeAfterEight).run (observedStart nudgeAfterEight 0) (transcribedLate.take 4)
  have htick : (observedSession nudgeAfterEight).entry before ⟨7, .tick true⟩ ∈
      (observedSession nudgeAfterEight).trace (observedStart nudgeAfterEight 0) transcribedLate :=
    List.mem_of_getElem? (i := 4) rfl
  have hfiller : ((observedSession nudgeAfterEight).entry before ⟨7, .tick true⟩).answer =
      some .filler := by
    decide +kernel
  have hspoken : before.2.speech = some ⟨3, false, true, 0⟩ := by decide +kernel
  cases (hright _ htick).2 (.inl hfiller) _ hspoken

end Ekaette
