import Ekaette.Sip.ChallengeFreshness

set_option autoImplicit false

/-! # The registry of the WhatsApp SIP server

`WaSIPServer` finds the session of a call by its Call-ID: the limit of calls counts the entries of
`active_sessions`, and a BYE stops what is registered under its Call-ID. So a session task that is
neither over nor being stopped has to stay registered. An accepted INVITE overwrites the entry of
its Call-ID, a BYE drops it before the task has wound down, and a completion drops it whoever's it
is; the run theorem below says for which runs none of this does harm. -/

namespace Ekaette

/-! ## The invariant -/

variable (s : WaServer)

/-- The number of session tasks that have not finished. -/
def WaServer.unfinishedTasks : ℕ := s.tasks.countValues (fun t => !t.finished)

/-- The session task has finished. -/
def WaServer.Finished (task : ℕ) : Prop :=
  ∃ t, s.tasks.get? task = some t ∧ t.finished = true

/-- **The call registry is sound**: the unfinished tasks are within the limit, and each of them that
    has not been asked to stop is the one registered under its Call-ID. -/
structure RegistrySound (cfg : WaConfig) (s : WaServer) : Prop where
  bounded : s.unfinishedTasks ≤ cfg.maxConcurrentCalls
  registered : ∀ n t, s.tasks.get? n = some t → t.finished = false → t.stopping = false →
    s.sessionTasks.get? t.callId = some n ∧ s.activeSessions.get? t.callId = some n

variable (cfg : WaConfig)

/-- The INVITE of an event that the server accepts in this state: well authorized, and in line with
    the pending challenge of its call. -/
def admittedInvite (s : WaServer) (e : WaEvent) : Option SipMessage :=
  (wellAuthorized cfg s e).filter (fun invite =>
    !nonceMismatch cfg.py (invite.header "proxy-authorization")
      (s.pendingChallenges.get? invite.callId))

/-- What a step must meet to keep the registry sound. An accepted INVITE must find less than the
    limit of unfinished tasks and no unfinished one under its Call-ID; a completion must not find
    another task's entry, unless that has finished too. -/
def KeepsRegistry (s : WaServer) : WaEvent → Prop
  | .message msg peerIp draws => ∀ invite,
      admittedInvite cfg s (.message msg peerIp draws) = some invite →
        s.unfinishedTasks < cfg.maxConcurrentCalls ∧
          ∀ n, s.activeSessions.get? invite.callId = some n → s.Finished n
  | .sessionEnds _ => True
  | .sessionDone task => ∀ t, s.tasks.get? task = some t → t.finished = true →
      ∀ n, s.activeSessions.get? t.callId = some n → n = task ∨ s.Finished n

/-! ## What every run keeps -/

/-- The two tables agree, what they hold are tasks of the Call-ID that have not been stopped, and
    task numbers are drawn from `created`. -/
structure TablesAgree (s : WaServer) : Prop where
  same : ∀ callId, s.sessionTasks.get? callId = s.activeSessions.get? callId
  live : ∀ callId n, s.activeSessions.get? callId = some n →
    ∃ t, s.tasks.get? n = some t ∧ t.callId = callId ∧ t.stopping = false
  fresh : ∀ n t, s.tasks.get? n = some t → n < s.created

theorem tablesAgree_empty : TablesAgree .empty where
  same _ := rfl
  live callId n h := by simp [WaServer.empty] at h
  fresh n t h := by simp [WaServer.empty] at h

theorem TablesAgree.created_not_mem {s : WaServer} (h : TablesAgree s) :
    s.created ∉ s.tasks.keys := by
  rw [Dict.mem_keys_iff]
  intro hmem
  obtain ⟨t, ht⟩ := Option.isSome_iff_exists.1 hmem
  exact absurd (h.fresh _ t ht) (lt_irrefl _)

/-! ## What a step does to the tables -/

theorem handleInvite_registry (s : WaServer) (msg : SipMessage) (draws : MessageDraws) : ∃ pending,
    (InviteAcceptable cfg msg draws s ∧ (handleInvite cfg msg draws s).1 =
        { s.startSession msg.callId with pendingChallenges := pending }) ∨
      ¬ InviteAcceptable cfg msg draws s ∧ (handleInvite cfg msg draws s).1 =
        { s with pendingChallenges := pending } := by
  cases inviteHandled cfg msg draws s with
  | challenged hauth hs hanswer => exact ⟨_, .inr ⟨fun h => h.2.1 hauth, hs⟩⟩
  | refused hs hanswer hok hrefused =>
    rcases hs with hs | hs
    · exact ⟨s.pendingChallenges, .inr ⟨hrefused, hs⟩⟩
    · exact ⟨_, .inr ⟨hrefused, hs⟩⟩
  | accepted localContact sdpBody haccept hsetup hs hanswer =>
    exact ⟨s.pendingChallenges.erase msg.callId, .inl ⟨haccept, hs⟩⟩

/-- **A message and the tables**: an accepted INVITE starts a session, a BYE stops and drops what is
    registered under its Call-ID, and nothing else touches the tables. -/
theorem message_registry (s : WaServer) (msg : SipMessage) (peerIp : String)
    (draws : MessageDraws) :
    (∃ invite pending, admittedInvite cfg s (.message msg peerIp draws) = some invite ∧
      (waMachine cfg).next s (.message msg peerIp draws)
        = { s.startSession invite.callId with pendingChallenges := pending }) ∨
    (admittedInvite cfg s (.message msg peerIp draws) = none ∧
      ((∃ pending, (waMachine cfg).next s (.message msg peerIp draws)
          = { s with pendingChallenges := pending }) ∨
        (waMachine cfg).next s (.message msg peerIp draws) = (handleBye msg s).1)) := by
  simp only [EventMachine.next, waMachine, handleSipMessage, admittedInvite, wellAuthorized]
  cases hallowed : cfg.checkIpAllowed peerIp with
  | false => exact .inr ⟨by simp, .inl ⟨s.pendingChallenges, by simp⟩⟩
  | true =>
    by_cases hinvite : msg.method = some "INVITE"
    · obtain ⟨pending, ⟨haccept, hnext⟩ | ⟨hrefused, hnext⟩⟩ :=
        handleInvite_registry cfg s msg draws
      all_goals
        simp only [hinvite, Bool.true_eq_false, if_false, if_true, true_and]
        rw [hnext]
      · refine .inl ⟨msg, pending, ?_, rfl⟩
        obtain ⟨hsize, hauth, hverify, hready, hmatch⟩ := haccept
        rw [if_pos ⟨hsize, hauth, hverify, hready⟩, Option.filter_some_pos (by simp [hmatch])]
      · refine .inr ⟨?_, .inl ⟨pending, rfl⟩⟩
        split_ifs with hauthorized
        · obtain ⟨hsize, hauth, hverify, hready⟩ := hauthorized
          refine Option.filter_some_neg ?_
          have hmismatch : nonceMismatch cfg.py (msg.header "proxy-authorization")
              (s.pendingChallenges.get? msg.callId) ≠ false :=
            fun h => hrefused ⟨hsize, hauth, hverify, hready, h⟩
          simpa using hmismatch
        · rfl
    · simp only [hinvite, Bool.true_eq_false, if_false, false_and, and_false]
      refine .inr ⟨by simp, ?_⟩
      split_ifs
      · exact .inr rfl
      · exact .inl ⟨s.pendingChallenges, rfl⟩
      · exact .inl ⟨s.pendingChallenges, rfl⟩

theorem get?_stopTask (task : Option ℕ) (n : ℕ) :
    (s.stopTask task).tasks.get? n = if task = some n then
      (s.tasks.get? n).map (fun t => { t with stopping := true }) else s.tasks.get? n := by
  unfold WaServer.stopTask
  cases task with
  | none => simp
  | some m =>
    cases hget : s.tasks.get? m with
    | none =>
      by_cases hm : m = n
      · subst hm
        simp [hget]
      · simp [hget, hm]
    | some t =>
      by_cases hm : m = n
      · subst hm
        simp [hget]
      · simp [hget, hm, Ne.symm hm]

theorem stopTask_unfinished_le (task : Option ℕ) :
    (s.stopTask task).unfinishedTasks ≤ s.unfinishedTasks := by
  unfold WaServer.stopTask
  cases task with
  | none => exact le_rfl
  | some m =>
    cases hget : s.tasks.get? m with
    | none => simp [hget]
    | some t =>
      simp only [Option.bind_some, hget, Option.map_some]
      exact Dict.countValues_set_le hget (fun h => h)

theorem stopTask_tables (task : Option ℕ) :
    (s.stopTask task).activeSessions = s.activeSessions ∧
      (s.stopTask task).sessionTasks = s.sessionTasks ∧ (s.stopTask task).created = s.created := by
  unfold WaServer.stopTask
  split
  · exact ⟨rfl, rfl, rfl⟩
  · exact ⟨rfl, rfl, rfl⟩

/-- After a BYE the registered task of its Call-ID has been stopped, all others are as before. -/
theorem get?_handleBye {s : WaServer} (h : TablesAgree s) (bye : SipMessage) (n : ℕ) :
    (handleBye bye s).1.tasks.get? n = if s.activeSessions.get? bye.callId = some n then
      (s.tasks.get? n).map (fun t => { t with stopping := true }) else s.tasks.get? n := by
  show ((s.stopTask (s.activeSessions.get? bye.callId)).stopTask
    (s.sessionTasks.get? bye.callId)).tasks.get? n = _
  rw [get?_stopTask, get?_stopTask, h.same]
  split
  · rw [Option.map_map]
    rfl
  · rfl

theorem handleBye_unfinished_le (bye : SipMessage) (s : WaServer) :
    (handleBye bye s).1.unfinishedTasks ≤ s.unfinishedTasks :=
  (stopTask_unfinished_le _ _).trans (stopTask_unfinished_le _ _)

theorem handleBye_tables (bye : SipMessage) (s : WaServer) :
    (handleBye bye s).1.activeSessions = s.activeSessions.erase bye.callId ∧
      (handleBye bye s).1.sessionTasks = s.sessionTasks.erase bye.callId ∧
      (handleBye bye s).1.created = s.created := by
  simp only [handleBye, stopTask_tables, and_self]

/-! ## The tables agree in every run -/

theorem TablesAgree.startSession {s : WaServer} (h : TablesAgree s) (callId : String)
    (pending : Dict String PendingChallenge) :
    TablesAgree { s.startSession callId with pendingChallenges := pending } where
  same other := by
    simp only [WaServer.startSession, Dict.get?_set, h.same]
  live other n hget := by
    simp only [WaServer.startSession, Dict.get?_set] at hget ⊢
    split at hget
    · next hother =>
        rw [Option.some.injEq] at hget
        subst hget hother
        exact ⟨_, if_pos rfl, rfl, rfl⟩
    · obtain ⟨t, ht, hcall, hlive⟩ := h.live other n hget
      exact ⟨t, by rw [if_neg (h.fresh n t ht).ne]; exact ht, hcall, hlive⟩
  fresh n t hget := by
    simp only [WaServer.startSession, Dict.get?_set] at hget ⊢
    split at hget
    · next hn => omega
    · exact (h.fresh n t hget).trans (Nat.lt_succ_self _)

theorem TablesAgree.bye {s : WaServer} (h : TablesAgree s) (bye : SipMessage) :
    TablesAgree (handleBye bye s).1 := by
  obtain ⟨hactive, htasks, hcreated⟩ := handleBye_tables bye s
  constructor
  · intro other
    rw [hactive, htasks, Dict.get?_erase, Dict.get?_erase, h.same]
  · intro other n hget
    rw [hactive, Dict.get?_erase] at hget
    split at hget
    · simp at hget
    · next hother =>
        obtain ⟨t, ht, hcall, hlive⟩ := h.live other n hget
        refine ⟨t, ?_, hcall, hlive⟩
        rw [get?_handleBye h, if_neg ?_, ht]
        -- the task registered under the Call-ID of the BYE is another one
        intro hbye
        obtain ⟨t', ht', hcall', _⟩ := h.live bye.callId n hbye
        rw [ht, Option.some.injEq] at ht'
        subst ht'
        exact hother (hcall.symm.trans hcall')
  · intro n t hget
    rw [hcreated]
    rw [get?_handleBye h] at hget
    split at hget
    · obtain ⟨t', ht', -⟩ := Option.map_eq_some_iff.1 hget
      exact h.fresh n t' ht'
    · exact h.fresh n t hget

theorem TablesAgree.ends {s : WaServer} (h : TablesAgree s) {task : ℕ} {t : SessionTask}
    (ht : s.tasks.get? task = some t) :
    TablesAgree { s with tasks := s.tasks.set task { t with finished := true } } where
  same := h.same
  live callId n hget := by
    obtain ⟨t', ht', hcall, hlive⟩ := h.live callId n hget
    by_cases hn : n = task
    · subst hn
      rw [ht, Option.some.injEq] at ht'
      subst ht'
      exact ⟨_, Dict.get?_set_self .., hcall, hlive⟩
    · exact ⟨t', by rw [Dict.get?_set_of_ne _ _ hn]; exact ht', hcall, hlive⟩
  fresh n t' hget := by
    simp only [Dict.get?_set] at hget
    split at hget
    · next hn => exact hn ▸ h.fresh task t ht
    · exact h.fresh n t' hget

/-- The tables after the completion of an ended task. -/
def WaServer.complete (task : ℕ) (callId : String) : WaServer :=
  { s with
    sessionTasks := s.sessionTasks.erase callId
    activeSessions := s.activeSessions.erase callId
    tasks := s.tasks.erase task }

theorem TablesAgree.complete {s : WaServer} (h : TablesAgree s) {task : ℕ} {t : SessionTask}
    (ht : s.tasks.get? task = some t) : TablesAgree (s.complete task t.callId) where
  same other := by simp only [WaServer.complete, Dict.get?_erase, h.same]
  live other n hget := by
    simp only [WaServer.complete, Dict.get?_erase] at hget ⊢
    split at hget
    · simp at hget
    · next hother =>
        obtain ⟨t', ht', hcall, hlive⟩ := h.live other n hget
        refine ⟨t', ?_, hcall, hlive⟩
        rw [if_neg ?_, ht']
        rintro rfl
        rw [ht, Option.some.injEq] at ht'
        subst ht'
        exact hother hcall.symm
  fresh n t' hget := by
    simp only [WaServer.complete, Dict.get?_erase] at hget ⊢
    split at hget
    · simp at hget
    · exact h.fresh n t' hget

/-- **What a completion does**: nothing, unless the task has ended; then it drops the task and the
    entries of its Call-ID. -/
theorem sessionDone_next (s : WaServer) (task : ℕ) :
    ((waMachine cfg).next s (.sessionDone task) = s ∧
      ∀ t, s.tasks.get? task = some t → t.finished = false) ∨
    ∃ t, s.tasks.get? task = some t ∧ t.finished = true ∧
      (waMachine cfg).next s (.sessionDone task) = s.complete task t.callId := by
  simp only [EventMachine.next, waMachine, WaServer.onDone]
  cases hget : s.tasks.get? task with
  | none => exact .inl ⟨rfl, by simp⟩
  | some t =>
    cases hfinished : t.finished with
    | false => exact .inl ⟨by simp [hfinished], by simpa using hfinished⟩
    | true => exact .inr ⟨t, rfl, hfinished, by simp [hfinished, WaServer.complete]⟩

theorem sessionEnds_next (s : WaServer) (task : ℕ) :
    (waMachine cfg).next s (.sessionEnds task) = s ∨
    ∃ t, s.tasks.get? task = some t ∧ (waMachine cfg).next s (.sessionEnds task)
      = { s with tasks := s.tasks.set task { t with finished := true } } := by
  simp only [EventMachine.next, waMachine]
  cases hget : s.tasks.get? task with
  | none => exact .inl rfl
  | some t => exact .inr ⟨t, rfl, rfl⟩

theorem tablesAgree_next (s : WaServer) (e : WaEvent) (h : TablesAgree s) :
    TablesAgree ((waMachine cfg).next s e) := by
  cases e with
  | message msg peerIp draws =>
    rcases message_registry cfg s msg peerIp draws with
      ⟨invite, pending, -, hnext⟩ | ⟨-, ⟨pending, hnext⟩ | hnext⟩
    · rw [hnext]
      exact h.startSession invite.callId pending
    · rw [hnext]
      exact ⟨h.same, h.live, h.fresh⟩
    · rw [hnext]
      exact h.bye msg
  | sessionEnds task =>
    rcases sessionEnds_next cfg s task with hnext | ⟨t, ht, hnext⟩
    · rwa [hnext]
    · rw [hnext]
      exact h.ends ht
  | sessionDone task =>
    rcases sessionDone_next cfg s task with ⟨hnext, -⟩ | ⟨t, ht, -, hnext⟩
    · rwa [hnext]
    · rw [hnext]
      exact h.complete ht

/-! ## Which steps keep the registry sound -/

/-- A started session keeps the registry sound exactly if there is room for it and its Call-ID has
    no unfinished task. -/
theorem registrySound_startSession_iff {cfg : WaConfig} {s : WaServer} (htables : TablesAgree s)
    (hsound : RegistrySound cfg s) (callId : String) (pending : Dict String PendingChallenge) :
    RegistrySound cfg { s.startSession callId with pendingChallenges := pending } ↔
      s.unfinishedTasks < cfg.maxConcurrentCalls ∧
        ∀ n, s.activeSessions.get? callId = some n → s.Finished n := by
  have hcount : WaServer.unfinishedTasks { s.startSession callId with pendingChallenges := pending }
      = s.unfinishedTasks + 1 :=
    Dict.countValues_set_of_not_mem _ _ _ htables.created_not_mem
  constructor
  · intro h
    refine ⟨by have := h.bounded; omega, fun n hn => ?_⟩
    obtain ⟨t, ht, rfl, hlive⟩ := htables.live callId n hn
    by_contra hunfinished
    have hnot : t.finished = false := by
      simpa using fun hf => hunfinished ⟨t, ht, hf⟩
    have hne : n ≠ s.created := (htables.fresh n t ht).ne
    have hnew := (h.registered n t (by
      simp only [WaServer.startSession, Dict.get?_set, if_neg hne, ht]) hnot hlive).2
    simp only [WaServer.startSession, Dict.get?_set_self, Option.some.injEq] at hnew
    exact hne hnew.symm
  · rintro ⟨hroom, hfree⟩
    refine ⟨by omega, fun n t hget hnot hlive => ?_⟩
    simp only [WaServer.startSession, Dict.get?_set] at hget ⊢
    split at hget
    · next hn =>
        rw [Option.some.injEq] at hget
        subst hn hget
        exact ⟨if_pos rfl, if_pos rfl⟩
    · obtain ⟨htask, hactive⟩ := hsound.registered n t hget hnot hlive
      have hother : t.callId ≠ callId := by
        rintro rfl
        obtain ⟨t', ht', hfinished⟩ := hfree n hactive
        rw [hget, Option.some.injEq] at ht'
        subst ht'
        simp [hnot] at hfinished
      exact ⟨by rw [if_neg hother]; exact htask, by rw [if_neg hother]; exact hactive⟩

theorem RegistrySound.bye {cfg : WaConfig} {s : WaServer} (htables : TablesAgree s)
    (h : RegistrySound cfg s) (bye : SipMessage) : RegistrySound cfg (handleBye bye s).1 := by
  obtain ⟨hactive, htasks, -⟩ := handleBye_tables bye s
  refine ⟨(handleBye_unfinished_le bye s).trans h.bounded, fun n t hget hnot hlive => ?_⟩
  rw [get?_handleBye htables] at hget
  split at hget
  · obtain ⟨t', -, rfl⟩ := Option.map_eq_some_iff.1 hget
    simp at hlive
  · next hbye =>
      obtain ⟨htask, hsession⟩ := h.registered n t hget hnot hlive
      have hother : t.callId ≠ bye.callId := fun heq => hbye (heq ▸ hsession)
      rw [hactive, htasks, Dict.get?_erase, Dict.get?_erase, if_neg hother, if_neg hother]
      exact ⟨htask, hsession⟩

theorem RegistrySound.ends {cfg : WaConfig} {s : WaServer} (h : RegistrySound cfg s) {task : ℕ}
    {t : SessionTask} (ht : s.tasks.get? task = some t) :
    RegistrySound cfg { s with tasks := s.tasks.set task { t with finished := true } } := by
  constructor
  · exact (Dict.countValues_set_le ht (by simp)).trans h.bounded
  · intro n t' hget hnot hlive
    simp only [Dict.get?_set] at hget
    split at hget
    · rw [Option.some.injEq] at hget
      subst hget
      simp at hnot
    · exact h.registered n t' hget hnot hlive

theorem registrySound_complete_iff {cfg : WaConfig} {s : WaServer} (htables : TablesAgree s)
    (hsound : RegistrySound cfg s) {task : ℕ} {t : SessionTask}
    (ht : s.tasks.get? task = some t) :
    RegistrySound cfg (s.complete task t.callId) ↔
      ∀ n, s.activeSessions.get? t.callId = some n → n = task ∨ s.Finished n := by
  constructor
  · intro h n hn
    obtain ⟨t', ht', hcall, hlive⟩ := htables.live t.callId n hn
    by_contra hother
    rw [not_or] at hother
    have hnot : t'.finished = false := by
      simpa using fun hf => hother.2 ⟨t', ht', hf⟩
    -- the task is still there, its entry is not
    have hentry := (h.registered n t' (by
      simp only [WaServer.complete, Dict.get?_erase, if_neg hother.1, ht']) hnot hlive).2
    simp [WaServer.complete, hcall] at hentry
  · intro hown
    constructor
    · exact (Dict.countValues_filter_le _ _ _).trans hsound.bounded
    · intro n t' hget hnot hlive
      simp only [WaServer.complete, Dict.get?_erase] at hget ⊢
      split at hget
      · simp at hget
      · next hn =>
          obtain ⟨htask, hactive⟩ := hsound.registered n t' hget hnot hlive
          have hother : t'.callId ≠ t.callId := by
            intro heq
            rcases hown n (heq ▸ hactive) with rfl | ⟨t'', ht'', hfinished⟩
            · exact hn rfl
            · rw [hget, Option.some.injEq] at ht''
              subst ht''
              simp [hnot] at hfinished
          rw [if_neg hother, if_neg hother]
          exact ⟨htask, hactive⟩

theorem registrySound_next_iff (s : WaServer) (e : WaEvent)
    (htables : TablesAgree s) (hsound : RegistrySound cfg s) :
    RegistrySound cfg ((waMachine cfg).next s e) ↔ KeepsRegistry cfg s e := by
  cases e with
  | message msg peerIp draws =>
    rcases message_registry cfg s msg peerIp draws with
      ⟨invite, pending, hadmitted, hnext⟩ | ⟨hadmitted, hnext⟩
    · rw [hnext, registrySound_startSession_iff htables hsound]
      simp only [KeepsRegistry, hadmitted, Option.some.injEq, forall_eq']
    · have hkeeps : KeepsRegistry cfg s (.message msg peerIp draws) := by
        intro invite hinvite
        rw [hadmitted] at hinvite
        exact absurd hinvite (by simp)
      refine iff_of_true ?_ hkeeps
      rcases hnext with ⟨pending, hnext⟩ | hnext
      · rw [hnext]
        exact ⟨hsound.bounded, hsound.registered⟩
      · rw [hnext]
        exact hsound.bye htables msg
  | sessionEnds task =>
    refine iff_of_true ?_ trivial
    rcases sessionEnds_next cfg s task with hnext | ⟨t, ht, hnext⟩
    · rwa [hnext]
    · rw [hnext]
      exact hsound.ends ht
  | sessionDone task =>
    rcases sessionDone_next cfg s task with ⟨hnext, hrunning⟩ | ⟨t, ht, hfinished, hnext⟩
    · rw [hnext]
      refine iff_of_true hsound (fun t ht hfinished => ?_)
      simp [hrunning t ht] at hfinished
    · rw [hnext, registrySound_complete_iff htables hsound ht]
      simp only [KeepsRegistry, ht, Option.some.injEq, forall_eq', hfinished, true_implies]

theorem registrySound_empty : RegistrySound cfg .empty where
  bounded := Nat.zero_le _
  registered n t h := by simp [WaServer.empty] at h

/-- **The registry along runs.** Every state of a run is sound exactly if every accepted INVITE of
    the run finds room and no unfinished task under its Call-ID, and no completion drops the entry
    of another task that is not over. -/
theorem registrySound_always_iff (es : List WaEvent) :
    (waMachine cfg).Always (RegistrySound cfg) .empty es ↔
      ∀ t ∈ (waMachine cfg).trace .empty es, KeepsRegistry cfg t.pre t.event :=
  (waMachine cfg).always_iff_guarded_of_invariant (tablesAgree_next cfg)
    (registrySound_next_iff cfg) tablesAgree_empty (registrySound_empty cfg) es

/-- The server for one call at a time. -/
def oneCallServer : WaConfig := { sandboxServer with maxConcurrentCalls := 1 }

theorem takesCall_oneCallServer : TakesCall oneCallServer :=
  ⟨takesCall_sandboxServer.allowed, takesCall_sandboxServer.params,
    takesCall_sandboxServer.verified, takesCall_sandboxServer.media⟩

theorem acceptingServer_pending (c : PendingChallenge)
    (h : acceptingServer.pendingChallenges.get? "call-1" = some c) : c.nonce = "5f3a" := by
  have hnone : acceptingServer.pendingChallenges.get? "call-1" = none := by decide +kernel
  simp [hnone] at h

/-- The BYE of the call `call-1`. -/
def callBye : WaEvent :=
  .message ⟨"BYE sip:h SIP/2.0", Dict.ofList [("call-id", "call-1")], ""⟩ "10.0.0.7"
    ⟨⟨"d4", List.all_eq_true.1 (by decide), by decide⟩, "a1", .fails⟩

/-- A second INVITE of the call leaves its first session running without an entry, and an INVITE
    right after a BYE runs two sessions where one is allowed. -/
theorem secondInvite_not_sound :
    ¬ (waMachine sandboxServer).Always (RegistrySound sandboxServer) .empty
        (challengedCall ++ [replayedInvite]) ∧
      ¬ (waMachine oneCallServer).Always (RegistrySound oneCallServer) .empty
        (challengedCall ++ [callBye, replayedInvite]) := by
  refine ⟨fun h => ?_, fun h => ?_⟩
  · have hsound := h.run
    have hrun : (waMachine sandboxServer).run .empty (challengedCall ++ [replayedInvite]) =
        (acceptingServer.forget "call-1").startSession "call-1" := by
      rw [EventMachine.run_append, takesCall_sandboxServer.challengedCall_run rfl (by decide),
        EventMachine.run_cons, EventMachine.run_nil, replayedInvite]
      exact (takesCall_sandboxServer.accepts (by decide +kernel) acceptingServer_pending _).1
    have hfinal : (((waMachine sandboxServer).run .empty
        (challengedCall ++ [replayedInvite])).tasks.get? 0).map
          (fun t => (t.callId, t.stopping, t.finished)) = some ("call-1", false, false) ∧
        ((waMachine sandboxServer).run .empty
          (challengedCall ++ [replayedInvite])).sessionTasks.get? "call-1" = some 1 := by
      rw [hrun]
      decide +kernel
    generalize (waMachine sandboxServer).run .empty (challengedCall ++ [replayedInvite]) = s
      at hsound hfinal
    obtain ⟨htask, hentry⟩ := hfinal
    obtain ⟨t, ht, hfields⟩ := Option.map_eq_some_iff.1 htask
    simp only [Prod.mk.injEq] at hfields
    obtain ⟨hcall, hlive, hnot⟩ := hfields
    have hregistered := (hsound.registered 0 t ht hnot hlive).1
    rw [hcall, hentry] at hregistered
    exact absurd hregistered (by simp)
  · have hbounded := h.run.bounded
    have hfinal : ((waMachine oneCallServer).run .empty
        (challengedCall ++ [callBye, replayedInvite])).unfinishedTasks = 2 := by
      have hbye : ((waMachine oneCallServer).next acceptingServer callBye).activeSessions.size <
          oneCallServer.maxConcurrentCalls := by
        decide +kernel
      have hpending :
        ((waMachine oneCallServer).next acceptingServer callBye).pendingChallenges.get?
          "call-1" = none := by
        decide +kernel
      rw [EventMachine.run_append, takesCall_oneCallServer.challengedCall_run rfl (by decide),
        EventMachine.run_cons, EventMachine.run_cons, EventMachine.run_nil, replayedInvite,
        (takesCall_oneCallServer.accepts hbye (fun c hc => by simp [hpending] at hc) _).1]
      decide +kernel
    rw [hfinal] at hbounded
    exact absurd hbounded (by decide)

end Ekaette
