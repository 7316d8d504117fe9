import Ekaette.Lib.Guarded
import Ekaette.Realtime.UpstreamTask

set_option autoImplicit false

/-! # The tasks of a stream

`run_stream_loop` of `realtime/orchestrator.py` starts four tasks, waits for one of the two
streaming ones to end and then stops the others. An exception leaves it before it has stopped
them. -/

namespace Ekaette

/-- The tasks that `run_stream_loop` starts. -/
inductive StreamTask where
  | upstream
  | downstream
  | keepalive
  | nudge
  deriving DecidableEq

/-- `streaming_tasks` -/
def StreamTask.streaming : StreamTask → Bool
  | .upstream => true
  | .downstream => true
  | .keepalive => false
  | .nudge => false

/-- How a task ended. -/
inductive TaskEnd where
  | returned
  /-- `WebSocketDisconnect` -/
  | disconnected
  /-- any other exception -/
  | raised
  | cancelled
  deriving DecidableEq

/-- The end of `upstream_task`. -/
def UpstreamEnd.taskEnd : UpstreamEnd → TaskEnd
  | .disconnected _ => .disconnected
  | .raised _ => .raised

/-- `task.exception()` raises, or gives an exception that is raised again. -/
def TaskEnd.raisesAgain : TaskEnd → Bool
  | .returned => false
  | .disconnected => false
  | .raised => true
  | .cancelled => true

structure StreamTaskState where
  ended : Option TaskEnd
  cancelRequested : Bool

/-- Where the tasks send to. -/
inductive StreamTarget where
  | websocket
  | liveQueue
  deriving DecidableEq

/-- Where `run_stream_loop` stands: at `asyncio.wait`, at `asyncio.gather`, or at its end. -/
inductive StreamPhase where
  | waiting
  | gathering
  | finished
  deriving DecidableEq

structure StreamLoop where
  phase : StreamPhase
  tasks : StreamTask → StreamTaskState
  sessionAlive : Bool
  queueClosed : Bool
  sent : List (StreamTask × StreamTarget)

inductive StreamAct where
  | ends (task : StreamTask) (how : TaskEnd)
  | sends (task : StreamTask) (target : StreamTarget)
  /-- `asyncio.wait` returns -/
  | wakes
  /-- `run_stream_loop` is cancelled at `asyncio.wait` -/
  | cancelsWait
  /-- `asyncio.gather` returns -/
  | gathered
  deriving DecidableEq

namespace StreamLoop

def initial : StreamLoop where
  phase := .waiting
  tasks := fun _ => ⟨none, false⟩
  sessionAlive := true
  queueClosed := false
  sent := []

def allTasks : List StreamTask := [.upstream, .downstream, .keepalive, .nudge]

variable (s : StreamLoop)

/-- `done`, when `asyncio.wait` returns. -/
def done : List StreamTask :=
  allTasks.filter fun task => task.streaming && (s.tasks task).ended.isSome

/-- `raise exc`, and what `task.exception()` raises for a task that was cancelled. -/
def raises : Bool :=
  s.done.any fun task => (s.tasks task).ended.any TaskEnd.raisesAgain

/-- The `finally` clause. -/
def finish : StreamLoop :=
  { s with phase := .finished, sessionAlive := false, queueClosed := true }

/-- `task.cancel()` for `pending | {keepalive, nudge}`; nothing is left to cancel of a task that has
    ended. -/
def cancelRemaining : StreamLoop :=
  { s with
    phase := .gathering
    tasks := fun task =>
      if (s.tasks task).ended.isSome then s.tasks task
      else { s.tasks task with cancelRequested := true } }

/-- A running task can send. `keepalive_task` and `silence_nudge_task` ask for `session_alive`
    before they do, with no `await` in between. -/
def canSend : StreamTask → StreamTarget → Bool
  | .upstream, _ => (s.tasks .upstream).ended.isNone
  | .downstream, .websocket => (s.tasks .downstream).ended.isNone
  | .keepalive, .websocket => (s.tasks .keepalive).ended.isNone && s.sessionAlive
  | .nudge, .liveQueue => (s.tasks .nudge).ended.isNone && s.sessionAlive
  | _, _ => false

def step : StreamAct → Option StreamLoop
  | .ends task how =>
    if (s.tasks task).ended.isSome then none
    else some { s with tasks := fun t => if t = task then { s.tasks task with
      ended := some how } else s.tasks t }
  | .sends task target =>
    if s.canSend task target then some { s with sent := (task, target) :: s.sent } else none
  | .wakes =>
    if s.phase = .waiting ∧ s.done ≠ [] then some (if s.raises then s.finish else s.cancelRemaining)
    else none
  | .cancelsWait => if s.phase = .waiting then some s.finish else none
  | .gathered =>
    if s.phase = .gathering ∧
      (allTasks.all fun task => (s.tasks task).ended.isSome) then some s.finish else none

/-- The tasks of a stream, and `run_stream_loop`. -/
def system : Guarded StreamLoop StreamAct := ⟨step⟩

/-- No task is left behind: each has ended or is to be cancelled, and none sends anything any
    more. -/
structure LeavesNoTask (s : StreamLoop) : Prop where
  stopped : ∀ task, (s.tasks task).ended.isSome ∨ (s.tasks task).cancelRequested
  silent : ∀ (acts : List StreamAct) (s' : StreamLoop), system.run s acts = some s' →
    s'.sent = s.sent

def AllEnded : Prop := ∀ task, (s.tasks task).ended.isSome

theorem mem_allTasks (task : StreamTask) : task ∈ allTasks := by
  cases task <;> decide

/-! ## What a step does -/

/-- The steps, with what they ask for. -/
inductive Steps (s : StreamLoop) : StreamAct → StreamLoop → Prop where
  | ends (task : StreamTask) (how : TaskEnd) (hrunning : ¬ (s.tasks task).ended.isSome) :
    Steps s (.ends task how)
      { s with tasks := fun t => if t = task then { s.tasks task with
        ended := some how } else s.tasks t }
  | sends (task : StreamTask) (target : StreamTarget) (hcan : s.canSend task target = true) :
      Steps s (.sends task target) { s with sent := (task, target) :: s.sent }
  | raises (hphase : s.phase = .waiting) (hraises : s.raises = true) : Steps s .wakes s.finish
  | stops (hphase : s.phase = .waiting) (hquiet : ¬ s.raises = true) :
    Steps s .wakes s.cancelRemaining
  | cancelsWait (hphase : s.phase = .waiting) : Steps s .cancelsWait s.finish
  | gathered (hphase : s.phase = .gathering) (hall : s.AllEnded) : Steps s .gathered s.finish

/-- **What a step can do.** -/
theorem steps_of_step {s s' : StreamLoop} {a : StreamAct} (h : s.step a = some s') :
    Steps s a s' := by
  cases a with
  | ends task how =>
    rw [step] at h
    split_ifs at h with hended
    cases h
    exact .ends task how hended
  | sends task target =>
    rw [step] at h
    split_ifs at h with hcan
    cases h
    exact .sends task target hcan
  | wakes =>
    rw [step] at h
    split_ifs at h with hwake hraises
    · cases h
      exact .raises hwake.1 hraises
    · cases h
      exact .stops hwake.1 hraises
  | cancelsWait =>
    rw [step] at h
    split_ifs at h with hphase
    cases h
    exact .cancelsWait hphase
  | gathered =>
    rw [step] at h
    split_ifs at h with hall
    cases h
    exact .gathered hall.1 fun task => List.all_eq_true.1 hall.2 task (mem_allTasks task)

/-- A task that has ended stays so. -/
theorem ended_step {s s' : StreamLoop} {a : StreamAct} {task : StreamTask}
    (hended : (s.tasks task).ended.isSome) (h : s.step a = some s') :
    (s'.tasks task).ended.isSome := by
  cases steps_of_step h with
  | ends task' how hrunning =>
    show ((if task = task' then _ else s.tasks task) : StreamTaskState).ended.isSome
    split_ifs
    · rfl
    · exact hended
  | sends task' target hcan => exact hended
  | raises hphase hraises => exact hended
  | stops hphase hquiet =>
    show ((if (s.tasks task).ended.isSome then s.tasks task else _) : StreamTaskState).ended.isSome
    rw [if_pos hended]
    exact hended
  | cancelsWait hphase => exact hended
  | gathered hphase hall => exact hended

theorem AllEnded.step {s s' : StreamLoop} {a : StreamAct} (h : s.AllEnded)
    (hstep : s.step a = some s') : s'.AllEnded := fun task => ended_step (h task) hstep

theorem not_canSend_of_allEnded {s : StreamLoop} (h : s.AllEnded) (task : StreamTask)
    (target : StreamTarget) : s.canSend task target = false := by
  have hnone : ∀ task, (s.tasks task).ended.isNone = false := fun task => by
    rw [Option.isNone_eq_false_iff]
    exact h task
  cases task with
  | upstream => exact hnone _
  | downstream =>
    cases target with
    | websocket => exact hnone _
    | liveQueue => rfl
  | keepalive =>
    cases target with
    | websocket => simp only [canSend, hnone, Bool.false_and]
    | liveQueue => rfl
  | nudge =>
    cases target with
    | websocket => rfl
    | liveQueue => simp only [canSend, hnone, Bool.false_and]

theorem sent_of_allEnded {s s' : StreamLoop} {a : StreamAct} (h : s.AllEnded)
    (hstep : s.step a = some s') : s'.sent = s.sent := by
  cases steps_of_step hstep with
  | ends task how hrunning => exact absurd (h task) hrunning
  | sends task target hcan =>
    rw [not_canSend_of_allEnded h] at hcan
    cases hcan
  | raises hphase hraises => rfl
  | stops hphase hquiet => rfl
  | cancelsWait hphase => rfl
  | gathered hphase hall => rfl

theorem leavesNoTask_of_allEnded {s : StreamLoop} (h : s.AllEnded) : s.LeavesNoTask := by
  refine ⟨fun task => .inl (h task), fun acts s' hrun => ?_⟩
  have hinv : s'.AllEnded ∧ s'.sent = s.sent := by
    refine system.invariant (I := fun t => t.AllEnded ∧ t.sent = s.sent) ?_ ⟨h, rfl⟩ hrun
    intro t a t' ht hstep
    exact ⟨ht.1.step hstep, (sent_of_allEnded ht.1 hstep).trans ht.2⟩
  exact hinv.2

/-- After the cancellations: `gather` returns only when all tasks have ended. -/
def Stopping : Prop := s.phase = .gathering ∨ s.AllEnded

theorem Stopping.step {s s' : StreamLoop} {a : StreamAct} (h : s.Stopping)
    (hstep : s.step a = some s') : s'.Stopping := by
  rcases h with hgathering | hended
  · cases steps_of_step hstep with
    | ends task how hrunning => exact .inl hgathering
    | sends task target hcan => exact .inl hgathering
    | raises hphase hraises =>
      rw [hgathering] at hphase
      cases hphase
    | stops hphase hquiet => exact .inl rfl
    | cancelsWait hphase =>
      rw [hgathering] at hphase
      cases hphase
    | gathered hphase hall => exact .inr hall
  · exact .inr (hended.step hstep)

/-! ## How the wait ends -/

/-- The steps that end the wait. -/
def EndsWait (a : StreamAct) : Prop := a = .wakes ∨ a = .cancelsWait

theorem raises_iff {s : StreamLoop} : s.raises = true ↔
    ∃ task how, task.streaming = true ∧ (s.tasks task).ended = some how ∧
    how.raisesAgain = true := by
  rw [raises, List.any_eq_true]
  constructor
  · rintro ⟨task, htask, hraise⟩
    obtain ⟨-, hdone⟩ := List.mem_filter.1 htask
    obtain ⟨hstreaming, -⟩ := Bool.and_eq_true_iff.1 hdone
    cases hended : (s.tasks task).ended with
    | none =>
      rw [hended] at hraise
      cases hraise
    | some how =>
      rw [hended] at hraise
      exact ⟨task, how, hstreaming, hended, hraise⟩
  · rintro ⟨task, how, hstreaming, hended, hagain⟩
    refine ⟨task, List.mem_filter.2 ⟨mem_allTasks task, ?_⟩, ?_⟩
    · rw [hstreaming, hended]
      rfl
    · rw [hended]
      exact hagain

theorem not_requested_of_waiting {s : StreamLoop} {acts : List StreamAct}
    (h : system.run initial acts = some s) (hphase : s.phase = .waiting) (task : StreamTask) :
    (s.tasks task).cancelRequested = false := by
  have hinv : s.phase = .waiting → ∀ task, (s.tasks task).cancelRequested = false := by
    refine system.invariant (I := fun t => t.phase = .waiting →
      ∀ task, (t.tasks task).cancelRequested = false) ?_ (fun _ _ => rfl) h
    intro t a t' ht hstep hphase' task
    cases steps_of_step hstep with
    | ends task' how hrunning =>
      show ((if task = task' then _ else t.tasks task) : StreamTaskState).cancelRequested = false
      split_ifs
      · exact ht hphase' task'
      · exact ht hphase' task
    | sends task' target hcan => exact ht hphase' task
    -- the phase is another one
    | raises hphase hraises => cases hphase'
    | stops hphase hquiet => cases hphase'
    | cancelsWait hphase => cases hphase'
    | gathered hphase hall => cases hphase'
  exact hinv hphase task

/-- The siblings are not stopped by an exception. -/
theorem leavesNoTask_finish_iff {s : StreamLoop}
    (h : ∀ task, (s.tasks task).cancelRequested = false) : s.finish.LeavesNoTask ↔ s.AllEnded := by
  constructor
  · rintro ⟨hstopped, -⟩ task
    rcases hstopped task with hended | hrequested
    · exact hended
    · exact absurd hrequested (Bool.eq_false_iff.1 (h task))
  · intro hended
    exact leavesNoTask_of_allEnded hended

end StreamLoop

open StreamLoop in
/-- **The tasks of every run.** Whatever led to the end of the wait and whatever follows it,
    `run_stream_loop` leaves no task behind when it has finished exactly if it was not cancelled at
    the wait and no streaming task that had ended by then had raised anything but
    `WebSocketDisconnect`, or else all four tasks had ended by then. -/
theorem runStreamLoop_leavesNoTask_iff (before : List StreamAct) (s s' : StreamLoop) (a : StreamAct)
    (hrun : system.run .initial before = some s) (hends : EndsWait a) (hstep : s.step a = some s') :
    (∀ (after : List StreamAct) (s'' : StreamLoop), system.run s' after = some s'' →
        s''.phase = .finished → s''.LeavesNoTask) ↔
      (a = .wakes ∧ ∀ task how, task.streaming = true → (s.tasks task).ended = some how →
        how.raisesAgain = false) ∨ ∀ task, (s.tasks task).ended.isSome := by
  have hfinish (hphase : s.phase = .waiting) (heq : s' = s.finish) :
      (∀ (after : List StreamAct) (s'' : StreamLoop), system.run s' after = some s'' →
        s''.phase = .finished → s''.LeavesNoTask) ↔ s.AllEnded := by
    subst heq
    constructor
    · intro h
      exact (leavesNoTask_finish_iff (not_requested_of_waiting hrun hphase)).1
        (h [] s.finish rfl rfl)
    · intro hended after s'' hafter _
      refine leavesNoTask_of_allEnded ?_
      have hended' : s.finish.AllEnded := hended
      exact system.invariant (I := AllEnded) (fun t a t' ht hstep => ht.step hstep) hended' hafter
  rcases hends with rfl | rfl
  · cases steps_of_step hstep with
    | raises hphase hraises =>
      -- an exception, or a cancelled task
      rw [hfinish hphase rfl]
      constructor
      · exact .inr
      · rintro (⟨-, hquiet⟩ | hended)
        · obtain ⟨task, how, hstreaming, hhow, hagain⟩ := raises_iff.1 hraises
          rw [hquiet task how hstreaming hhow] at hagain
          cases hagain
        · exact hended
    | stops hphase hraises =>
      -- the others are cancelled, and `gather` waits for them
      have hquiet : ∀ task how, task.streaming = true → (s.tasks task).ended = some how →
          how.raisesAgain = false := by
        intro task how hstreaming hhow
        rw [Bool.eq_false_iff]
        intro hagain
        exact hraises (raises_iff.2 ⟨task, how, hstreaming, hhow, hagain⟩)
      constructor
      · intro _
        exact .inl ⟨rfl, hquiet⟩
      · intro _ after s'' hafter hfinished
        have hstopping : s.cancelRemaining.Stopping := .inl rfl
        rcases system.invariant (I := Stopping) (fun t a t' ht hstep => ht.step hstep) hstopping
            hafter with
          hgathering | hended
        · rw [hgathering] at hfinished
          cases hfinished
        · exact leavesNoTask_of_allEnded hended
  · cases steps_of_step hstep with
    | cancelsWait hphase =>
      rw [hfinish hphase rfl]
      constructor
      · exact .inr
      · rintro (⟨hwakes, -⟩ | hended)
        · cases hwakes
        · exact hended

open StreamLoop in
/-- A client that disconnects. -/
theorem runStreamLoop_leavesNoTask_iff_wakes :
    ∃ s, system.run .initial [.ends .upstream (UpstreamEnd.disconnected 1000).taskEnd, .wakes] =
    some s ∧
      ∀ (after : List StreamAct) (s' : StreamLoop), system.run s after = some s' →
        s'.phase = .finished → s'.LeavesNoTask := by
  refine ⟨_, rfl, (runStreamLoop_leavesNoTask_iff
    [.ends .upstream (UpstreamEnd.disconnected 1000).taskEnd] _ _ .wakes rfl
    (.inl rfl) rfl).2 (.inl ⟨rfl, fun task how hstreaming hended => ?_⟩)⟩
  cases task with
  | upstream =>
    cases hended
    rfl
  | downstream => cases hended
  | keepalive => cases hended
  | nudge => cases hended

open StreamLoop in
/-- A text message without a text ends the upstream task with a `KeyError`, and the downstream task
    goes on. -/
theorem runStreamLoop_leaves_downstream :
    ¬ ∀ (acts : List StreamAct) (s : StreamLoop), system.run .initial acts = some s →
      s.phase = .finished → s.LeavesNoTask := by
  intro h
  have hleft := h [.ends .upstream (UpstreamEnd.raised .keyError).taskEnd, .wakes] _ rfl rfl
  rcases hleft.stopped .downstream with hended | hrequested
  · cases hended
  · cases hrequested

end Ekaette
