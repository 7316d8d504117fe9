import Ekaette.At.WaReplies
import Ekaette.Lib.ClockedPool

set_option autoImplicit false

/-! # Silence nudges

Every reply to a customer schedules a task, which nudges the customer who stays silent. The task
checks the times of the last reply, nudge and message, sends, and marks the nudge afterwards. The
times are kept in memory, and in Firestore where it is configured. The calls are those for one
customer. -/

namespace Ekaette

structure NudgeConfig where
  /-- `_state_store_uses_firestore()` -/
  usesFirestore : Bool
  /-- `WA_NUDGE_DELAY_SECONDS` -/
  delaySeconds : ℤ

/-- The times of the last reply, nudge and message. -/
structure NudgeTimes where
  outbound : Option ℚ
  nudgeSent : Option ℚ
  inbound : Option ℚ

/-- The times in memory, and those in the two documents. -/
structure NudgeStore where
  memory : NudgeTimes
  docs : NudgeTimes

inductive NudgeOp where
  /-- `_outbound_timestamps[key] = time.time()` -/
  | recordOutbound
  | setOutbound (now : ℚ)
  | createTask
  /-- A task that was created at this time is delivered. -/
  | deliver (scheduledAt : ℚ)
  /-- the three lookups of the local check -/
  | readMemory
  | getNudge
  | getWindow
  /-- `whatsapp_send_text` of a nudge -/
  | sendNudge
  /-- `_nudge_sent[key] = time.time()` -/
  | markSent
  | setNudgeSent (now : ℚ)
  | recordInbound (now : ℚ)
  | setWindow (now : ℚ)
  /-- An old window is removed, from the memory and from Firestore. -/
  | pruneWindow

/-- Records and tasks answer with their time. -/
@[reducible] def NudgeOp.Answer : NudgeOp → Type
  | .recordOutbound => ℚ
  | .createTask => ℚ
  | .readMemory => NudgeTimes
  | .getNudge => Option ℚ × Option ℚ
  | .getWindow => Option ℚ
  | .sendNudge => Sent
  | .markSent => ℚ
  | _ => Unit

/-- What the outside chooses for an operation. -/
structure NudgeChoice where
  access : Access
  sent : Sent

/-- The memory never fails; a Firestore operation may, also after it took effect. -/
def serveNudge (store : NudgeStore) (now : ℚ) (choice : NudgeChoice) :
    (c : NudgeOp) → NudgeStore × Option c.Answer
  | .recordOutbound =>
    ({ store with memory := { store.memory with outbound := some now } }, some now)
  | .setOutbound time =>
    choice.access.perform store ({ store with docs := { store.docs with outbound := some time } },
      some ()) none
  | .createTask => choice.access.perform store (store, some now) none
  | .deliver _ => (store, some ())
  | .readMemory => (store, some store.memory)
  | .getNudge =>
    choice.access.perform store (store, some (store.docs.outbound, store.docs.nudgeSent)) none
  | .getWindow => choice.access.perform store (store, some store.docs.inbound) none
  | .sendNudge => (store, some choice.sent)
  | .markSent => ({ store with memory := { store.memory with nudgeSent := some now } }, some now)
  | .setNudgeSent time =>
    choice.access.perform store ({ store with docs := { store.docs with nudgeSent := some time } },
      some ()) none
  | .recordInbound time =>
    ({ store with memory := { store.memory with inbound := some time } }, some ())
  | .setWindow time =>
    choice.access.perform store ({ store with docs := { store.docs with inbound := some time } },
      some ()) none
  | .pruneWindow =>
    ({ memory := { store.memory with inbound := none }, docs := { store.docs with
      inbound := none } }, some ())

abbrev NudgeCall := ClockedCall NudgeOp

abbrev NudgeCall.Answer := ClockedCall.Answer ℚ NudgeOp.Answer

abbrev NudgeProgram := CallProgram NudgeCall NudgeCall.Answer

abbrev NudgeLog := List (Called NudgeCall NudgeCall.Answer)

abbrev askNudge (c : NudgeOp) : NudgeProgram c.Answer := Clocked.ask c

abbrev tryNudge (c : NudgeOp) : NudgeProgram (Option c.Answer) := Clocked.attempt c

variable (cfg : NudgeConfig)

/-- `record_outbound_timestamp` -/
def recordOutboundTimestamp : NudgeProgram Unit := do
  let now ← askNudge .recordOutbound
  if cfg.usesFirestore then
    let _ ← tryNudge (.setOutbound now)
    pure ()
  else pure ()

/-- `_schedule_nudge`, whose exceptions are dropped. -/
def scheduleNudge : NudgeProgram Unit := do
  recordOutboundTimestamp cfg
  let _ ← tryNudge .createTask
  pure ()

/-- Is a nudge needed, by the times in memory? -/
def needsNudge (times : NudgeTimes) : Bool :=
  match times.outbound with
  | none => false
  | some outbound =>
    if times.nudgeSent.any fun nudge => decide (outbound ≤ nudge) then false
    else if times.inbound.any fun inbound => decide (outbound ≤ inbound) then false
    else true

/-- Is a nudge needed, by the documents? -/
def needsNudgeFirestore (nudge : Option ℚ × Option ℚ) (window : Option ℚ) : Bool :=
  if nudge.1.getD 0 = 0 then false
  else if nudge.1.getD 0 ≤ nudge.2.getD 0 then false
  else if nudge.1.getD 0 ≤ window.getD 0 then false
  else true

/-- `check_needs_nudge` -/
def checkNeedsNudge : NudgeProgram Bool := do
  if cfg.usesFirestore then
    match ← tryNudge .getNudge with
    | none => needsNudge <$> askNudge .readMemory
    | some nudge =>
      match ← tryNudge .getWindow with
      | none => needsNudge <$> askNudge .readMemory
      | some window => pure (needsNudgeFirestore nudge window)
  else needsNudge <$> askNudge .readMemory

/-- `mark_nudge_sent` -/
def markNudgeSent : NudgeProgram Unit := do
  let now ← askNudge .markSent
  if cfg.usesFirestore then
    let _ ← tryNudge (.setNudgeSent now)
    pure ()
  else pure ()

/-- A delivery of a task: `_execute_nudge` -/
def executeNudge (scheduledAt : ℚ) : NudgeProgram Unit := do
  askNudge (.deliver scheduledAt)
  if ← checkNeedsNudge cfg then
    let sent ← askNudge .sendNudge
    match sent.response with
    | .status code => if isSuccess code then markNudgeSent cfg else .raised
    | _ => .raised
  else pure ()

/-- `record_inbound_timestamp` -/
def recordInboundMessage : NudgeProgram Unit := do
  let now ← Clocked.readClock
  if cfg.usesFirestore then
    match ← tryNudge (.setWindow now) with
    | none => askNudge (.recordInbound now)
    | some _ => pure ()
  else askNudge (.recordInbound now)

/-- A reply was sent, a task is delivered, a message comes in, or an old window is removed. -/
inductive NudgeTask where
  | reply
  | nudge (scheduledAt : ℚ)
  | message
  | prune

def NudgeTask.program : NudgeTask → NudgeProgram Unit
  | .reply => scheduleNudge cfg
  | .nudge scheduledAt => executeNudge cfg scheduledAt
  | .message => recordInboundMessage cfg
  | .prune => askNudge .pruneWindow

abbrev NudgePool := Clocked.Programs ℚ NudgeStore NudgeOp NudgeOp.Answer Unit

abbrev NudgeEvent := PoolEvent NudgeTask (Moment ℚ NudgeChoice)

/-- Calls for a customer that run side by side. -/
def nudgeMachine : EventMachine NudgePool NudgeEvent Unit :=
  Pool.machine (Clocked.serveAt serveNudge) (NudgeTask.program cfg)

/-! ## Replies and nudges -/

/-- The time of a recorded reply. -/
def reply? : Called NudgeCall NudgeCall.Answer → Option ℚ
  | ⟨.op .recordOutbound, some now⟩ => some now
  | _ => none

/-- When replies were recorded. -/
def repliedAt (history : NudgeLog) : List ℚ := history.filterMap reply?

/-- What a call does to the number of nudges since the last reply. -/
def nextNudges (nudges : ℕ) : Called NudgeCall NudgeCall.Answer → ℕ
  | ⟨.op .recordOutbound, some _⟩ => 0
  | ⟨.op .sendNudge, some sent⟩ => if Sent.accepted sent then nudges + 1 else nudges
  | _ => nudges

/-- The nudges that were accepted since the last recorded reply. -/
def nudgesSince (history : NudgeLog) : ℕ := history.foldl nextNudges 0

/-- What is read shows that a nudge was sent after the reply it shows. -/
def nextShown (shown : Bool) : Called NudgeCall NudgeCall.Answer → Bool
  | ⟨.op .readMemory, some times⟩ =>
    (NudgeTimes.outbound times).all fun outbound =>
      (NudgeTimes.nudgeSent times).any fun nudge => decide (outbound ≤ nudge)
  | ⟨.op .getNudge, some nudge⟩ => decide ((nudge : Option ℚ × Option ℚ).1.getD 0 ≤ nudge.2.getD 0)
  | _ => shown

variable (log : NudgeLog)

/-- What was read last shows that a nudge was sent. -/
def shownSent : Bool := log.foldl nextShown false

theorem shownSent_concat (called : Called NudgeCall NudgeCall.Answer) :
    shownSent (log ++ [called]) = nextShown (shownSent log) called := List.foldl_concat ..

variable (s : NudgePool)

variable (e : NudgeEvent)

/-- The call in this step is a nudge that is accepted. -/
def AcceptsNudge (i : ℕ) (m : Moment ℚ NudgeChoice) (log : NudgeLog) : Prop :=
  e = .resume i m ∧ m.choice.sent.accepted = true ∧
    ∃ k, s.threads[i]? = some ⟨log, .call (.op .sendNudge) k⟩

/-- An accepted nudge is the first one since the latest reply, and late enough after every reply. -/
def NudgesRightly : Prop :=
  ∀ i m log, AcceptsNudge s e i m log →
    nudgesSince s.history = 0 ∧ ∀ r ∈ repliedAt s.history, r + cfg.delaySeconds ≤ m.now

/-- Where nudges were accepted since the latest reply, an accepted nudge goes by a reading that
    shows it; and the replies after its task was scheduled were long enough ago. -/
def NudgesByReading : Prop :=
  ∀ i m log, AcceptsNudge s e i m log →
    (nudgesSince s.history ≠ 0 → shownSent log = true) ∧
      ∀ scheduledAt, ⟨.op (.deliver scheduledAt), some ()⟩ ∈ log →
        ∀ r ∈ repliedAt s.history, scheduledAt < r → r + cfg.delaySeconds ≤ m.now

/-- A task is delivered as late as it was scheduled, whether its creation was answered or not. -/
def DeliversLate : Prop :=
  ∀ i m log scheduledAt k, e = .resume i m →
    s.threads[i]? = some ⟨log, .call (.op (.deliver scheduledAt)) k⟩ →
    scheduledAt + cfg.delaySeconds ≤ m.now

/-! ## What a delivery does -/

/-- A nudge is sent by a delivery, and by a reading that shows none. -/
def SendsUnshown : NudgeCall → Prop
  | .op .sendNudge =>
    (∃ scheduledAt, ⟨.op (.deliver scheduledAt), some ()⟩ ∈ log) ∧ shownSent log = false
  | _ => True

theorem needsNudge_unshown {times : NudgeTimes} (h : needsNudge times = true) (shown : Bool) :
    nextShown shown ⟨.op .readMemory, some times⟩ = false := by
  obtain ⟨outbound, nudgeSent, inbound⟩ := times
  cases outbound with
  | none => cases h
  | some outbound =>
    show (nudgeSent.any fun nudge => decide (outbound ≤ nudge)) = false
    by_contra hsent
    rw [Bool.not_eq_false] at hsent
    unfold needsNudge at h
    simp only [hsent, if_true, Bool.false_eq_true] at h

theorem needsNudgeFirestore_unshown {nudge : Option ℚ × Option ℚ} {window : Option ℚ}
    (h : needsNudgeFirestore nudge window = true) (shown : Bool) :
    nextShown shown ⟨.op .getNudge, some nudge⟩ = false := by
  show decide (nudge.1.getD 0 ≤ nudge.2.getD 0) = false
  by_contra hsent
  rw [Bool.not_eq_false, decide_eq_true_eq] at hsent
  unfold needsNudgeFirestore at h
  simp only [hsent, if_true, ite_self, Bool.false_eq_true] at h

/-- What a check leaves: if a nudge is needed, what was read last shows none. -/
def CheckedUnshown (needed : Bool) : Prop :=
  needed = true → (∃ scheduledAt, ⟨.op (.deliver scheduledAt), some ()⟩ ∈ log) ∧
    shownSent log = false

theorem obeys_readMemory {log : NudgeLog}
    (hlog : ∃ scheduledAt, ⟨.op (.deliver scheduledAt), some ()⟩ ∈ log) :
    (needsNudge <$> askNudge .readMemory).Obeys SendsUnshown CheckedUnshown log := by
  show (askNudge .readMemory >>= fun times => pure (needsNudge times)).Obeys _ _ _
  rw [Clocked.obeys_ask]
  refine ⟨trivial, fun times hneeded => ⟨?_, ?_⟩⟩
  · obtain ⟨scheduledAt, hmem⟩ := hlog
    exact ⟨scheduledAt, List.mem_append_left _ hmem⟩
  · rw [shownSent_concat]
    exact needsNudge_unshown hneeded _

/-- **Checks.** -/
theorem obeys_checkNeedsNudge {log : NudgeLog}
    (hlog : ∃ scheduledAt, ⟨.op (.deliver scheduledAt), some ()⟩ ∈ log) :
    (checkNeedsNudge cfg).Obeys SendsUnshown CheckedUnshown log := by
  have hmore : ∀ (log : NudgeLog) (called : Called NudgeCall NudgeCall.Answer),
      (∃ scheduledAt, ⟨.op (.deliver scheduledAt), some ()⟩ ∈ log) →
        ∃ scheduledAt, ⟨.op (.deliver scheduledAt), some ()⟩ ∈ log ++ [called] :=
    fun _ _ ⟨scheduledAt, hmem⟩ => ⟨scheduledAt, List.mem_append_left _ hmem⟩
  unfold checkNeedsNudge
  rw [CallProgram.obeys_ite]
  refine ⟨fun _ => ?_, fun _ => obeys_readMemory hlog⟩
  rw [Clocked.obeys_attempt]
  refine ⟨trivial, fun nudge => ?_⟩
  have hnudge := hmore log ⟨.op .getNudge, nudge⟩ hlog
  cases nudge with
  | none => exact obeys_readMemory hnudge
  | some nudge =>
    show (tryNudge .getWindow >>= _).Obeys _ _ _
    rw [Clocked.obeys_attempt]
    refine ⟨trivial, fun window => ?_⟩
    have hwindow := hmore _ ⟨.op .getWindow, window⟩ hnudge
    cases window with
    | none => exact obeys_readMemory hwindow
    | some window =>
      refine fun hneeded => ⟨hwindow, ?_⟩
      rw [shownSent_concat, shownSent_concat]
      exact needsNudgeFirestore_unshown hneeded (shownSent log)

theorem obeys_markNudgeSent :
    (markNudgeSent cfg).Obeys SendsUnshown (fun _ _ => True) log := by
  unfold markNudgeSent
  rw [Clocked.obeys_ask]
  refine ⟨trivial, fun now => ?_⟩
  rw [CallProgram.obeys_ite]
  refine ⟨fun _ => ?_, fun _ => trivial⟩
  rw [Clocked.obeys_attempt]
  exact ⟨trivial, fun _ => trivial⟩

/-- **Deliveries** send by a reading that shows no nudge. -/
theorem obeys_executeNudge (scheduledAt : ℚ) :
    (executeNudge cfg scheduledAt).Obeys SendsUnshown (fun _ _ => True) [] := by
  unfold executeNudge
  rw [Clocked.obeys_ask]
  refine ⟨trivial, fun _ => ?_⟩
  refine (obeys_checkNeedsNudge cfg ⟨scheduledAt, List.mem_singleton_self _⟩).bind fun log needed
    hneeded => ?_
  rw [CallProgram.obeys_ite]
  refine ⟨fun hyes => ?_, fun _ => trivial⟩
  rw [Clocked.obeys_ask]
  refine ⟨hneeded hyes, fun sent => ?_⟩
  obtain ⟨accepted, response, sound⟩ := sent
  cases response with
  | status code =>
    dsimp only
    rw [CallProgram.obeys_ite]
    exact ⟨fun _ => obeys_markNudgeSent cfg _, fun _ => trivial⟩
  | retryable => exact trivial
  | failure => exact trivial

theorem obeys_nudgeTask (task : NudgeTask) : (task.program cfg).Obeys SendsUnshown (fun _ _ => True)
    [] := by
  cases task with
  | nudge scheduledAt => exact obeys_executeNudge cfg scheduledAt
  | prune =>
    show (askNudge .pruneWindow).Obeys _ _ _
    exact (CallProgram.obeys_ask _).2 ⟨trivial, fun _ => trivial⟩
  | reply =>
    show (scheduleNudge cfg).Obeys _ _ _
    unfold scheduleNudge
    have hcreate : ∀ log, (tryNudge .createTask >>= fun _ => pure ()).Obeys SendsUnshown (fun _ _ =>
        True) log := by
      intro log
      rw [Clocked.obeys_attempt]
      exact ⟨trivial, fun _ => trivial⟩
    have hrecord : (recordOutboundTimestamp cfg).Obeys SendsUnshown (fun _ _ => True) [] := by
      unfold recordOutboundTimestamp
      rw [Clocked.obeys_ask]
      refine ⟨trivial, fun now => ?_⟩
      rw [CallProgram.obeys_ite]
      refine ⟨fun _ => ?_, fun _ => trivial⟩
      rw [Clocked.obeys_attempt]
      exact ⟨trivial, fun _ => trivial⟩
    exact hrecord.bind fun log _ _ => hcreate log
  | message =>
    show (recordInboundMessage cfg).Obeys _ _ _
    unfold recordInboundMessage
    have hrecord : ∀ now log, (askNudge (.recordInbound now)).Obeys SendsUnshown (fun _ _ => True)
        log :=
      fun now log => (CallProgram.obeys_ask log).2 ⟨trivial, fun _ => trivial⟩
    rw [Clocked.obeys_readClock]
    refine ⟨trivial, fun now => ?_⟩
    rw [CallProgram.obeys_ite]
    refine ⟨fun _ => ?_, fun _ => hrecord now _⟩
    rw [Clocked.obeys_attempt]
    refine ⟨trivial, fun saved => ?_⟩
    cases saved with
    | none => exact hrecord now _
    | some _ => exact trivial

/-! ## Runs -/

/-- The invariant: calls obey, and tasks were delivered late enough. -/
structure NudgeSound (s : NudgePool) : Prop where
  obeyed : Pool.Obeyed SendsUnshown (fun _ _ => True) s
  delivered : ∀ (i : ℕ) (t : Thread NudgeCall NudgeCall.Answer Unit), s.threads[i]? = some t →
    ∀ scheduledAt, ⟨.op (.deliver scheduledAt), some ()⟩ ∈ t.log →
    scheduledAt + cfg.delaySeconds ≤ s.shared.clock

/-- No calls yet. -/
def noNudgeCalls (clock : ℚ) (store : NudgeStore) : NudgePool := { shared := ⟨clock, store⟩ }

theorem nudgeSound_noNudgeCalls (clock : ℚ) (store : NudgeStore) :
    NudgeSound cfg (noNudgeCalls clock store) := by
  refine ⟨fun i t ht => ?_, fun i t ht => ?_⟩
  · cases ht
  · cases ht

/-- **Step lemma.** -/
theorem nudgeSound_next {s : NudgePool} (hs : NudgeSound cfg s) (e : NudgeEvent)
    (hforward : Clocked.forward s e = true) (hlate : DeliversLate cfg s e) :
    NudgeSound cfg ((nudgeMachine cfg).next s e) := by
  refine ⟨Pool.obeyed_next hs.obeyed e fun task _ => obeys_nudgeTask cfg task,
    fun j t hj scheduledAt hmem => ?_⟩
  cases e with
  | start task =>
    rcases Pool.start_cases hj with hold | rfl
    · exact hs.delivered j t hold scheduledAt hmem
    · cases hmem
  | resume i m =>
    have hnext : (nudgeMachine cfg).next s (.resume i m) = s.resume (Clocked.serveAt serveNudge) i
      m := rfl
    rw [hnext] at hj ⊢
    rcases Pool.resume_cases (Clocked.serveAt serveNudge) s i m with hsame | ⟨⟨h⟩⟩
    · rw [hsame] at hj ⊢
      exact hs.delivered j t hj scheduledAt hmem
    · rw [Clocked.clock_self h]
      have hold : ∀ (j : ℕ) (t : Thread NudgeCall NudgeCall.Answer Unit), s.threads[j]? = some t →
          ⟨.op (.deliver scheduledAt), some ()⟩ ∈ t.log → scheduledAt + cfg.delaySeconds ≤ m.now :=
        fun j t ht hmem => (hs.delivered j t ht scheduledAt hmem).trans (of_decide_eq_true hforward)
      rcases h.thread_cases hj with ⟨-, rfl⟩ | ⟨-, hbefore⟩
      · rcases List.mem_append.1 hmem with hmem | hlast
        · exact hold i _ h.found hmem
        · -- the task is delivered in this step
          have hdue : ∀ (call : NudgeCall) (k : Option (NudgeCall.Answer call) → NudgeProgram Unit),
              s.threads[i]? = some ⟨h.log, .call call k⟩ → call = .op (.deliver scheduledAt) →
                scheduledAt + cfg.delaySeconds ≤ m.now := by
            rintro call k hfound rfl
            exact hlate i m h.log scheduledAt k rfl hfound
          exact hdue h.call h.next h.found (congrArg Sigma.fst (List.mem_singleton.1 hlast)).symm
      · exact hold j t hbefore hmem

/-- One step: a nudge is sent rightly exactly if it goes by a reading that shows those before it. -/
theorem nudgesRightly_iff_step {s : NudgePool} (hs : NudgeSound cfg s) (e : NudgeEvent)
    (hforward : Clocked.forward s e = true) : NudgesRightly cfg s e ↔ NudgesByReading cfg s e := by
  constructor
  · intro h i m log haccepts
    obtain ⟨hfirst, hlate⟩ := h i m log haccepts
    exact ⟨fun hne => absurd hfirst hne, fun _ _ r hr _ => hlate r hr⟩
  · intro h i m log haccepts
    obtain ⟨hshown, hreplies⟩ := h i m log haccepts
    obtain ⟨rfl, -, k, hfound⟩ := haccepts
    obtain ⟨⟨scheduledAt, hdelivered⟩, hunshown⟩ := (hs.obeyed i _ hfound).1
    refine ⟨?_, fun r hr => ?_⟩
    · by_contra hne
      exact Bool.false_ne_true (hunshown.symm.trans (hshown hne))
    · rcases le_or_gt r scheduledAt with hbefore | hafter
      · -- the task was scheduled after the reply
        have hdue := hs.delivered i _ hfound scheduledAt hdelivered
        exact ((add_le_add_left hbefore _).trans hdue).trans (of_decide_eq_true hforward)
      · exact hreplies scheduledAt hdelivered r hr hafter

/-- A test for late deliveries. -/
def deliversLate : NudgeEvent → Bool
  | .start _ => true
  | .resume i m =>
    match s.threads[i]? with
    | some ⟨_, .call (.op (.deliver scheduledAt)) _⟩ =>
      decide (scheduledAt + cfg.delaySeconds ≤ m.now)
    | _ => true

theorem deliversLate_of_check {s : NudgePool} {e : NudgeEvent} (h : deliversLate cfg s e = true) :
    DeliversLate cfg s e := by
  rintro i m log scheduledAt k rfl hfound
  rw [deliversLate, hfound] at h
  exact of_decide_eq_true h

/-- Nudges after two minutes, with the times in memory. -/
def nudgeAfterTwoMinutes : NudgeConfig := ⟨false, 120⟩

def noTimes : NudgeTimes := ⟨none, none, none⟩

/-- The `i`-th call takes a step at the time `now`; what it sends is accepted. -/
def nudgeStep (i : ℕ) (now : ℚ) : NudgeEvent :=
  .resume i ⟨now, .served, ⟨true, .status 200, fun _ => rfl⟩⟩

/-- A reply, and its nudge. -/
def nudgedOnce : List NudgeEvent :=
  [.start .reply, nudgeStep 0 0, nudgeStep 0 0, .start (.nudge 0), nudgeStep 1 120, nudgeStep 1 120,
    nudgeStep 1 121, nudgeStep 1 122]

/-- Another reply follows before the nudge of the first one. -/
def repliedAgain : List NudgeEvent :=
  [.start .reply, nudgeStep 0 0, nudgeStep 0 0, .start .reply, nudgeStep 1 100, nudgeStep 1 100,
    .start (.nudge 0), nudgeStep 2 120, nudgeStep 2 120]

end Ekaette
