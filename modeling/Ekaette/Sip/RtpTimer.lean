import Ekaette.Lib.EventMachine
import Mathlib.Tactic.Linarith
import Mathlib.Tactic.Ring

set_option autoImplicit false

/-! # Pacing of RTP frames

`RTPTimer` of `sip_bridge/rtp.py`. Each frame has a deadline, 20 ms after the one before; after a
gap of more than 100 ms the deadlines start again from the present. A call that comes too late
returns at once, so frames are sent in a burst, and the threshold bounds it. The arithmetic is
exact. -/

namespace Ekaette

/-- `FRAME_DURATION_MS` -/
def FRAME_DURATION_MS : ℚ := 20

structure RtpTimer where
  start : ℚ
  frameCount : ℕ

/-- `RTPTimer()` -/
def RtpTimer.new (now : ℚ) : RtpTimer := ⟨now, 0⟩

variable (timer : RtpTimer)

/-- `next_deadline` -/
def RtpTimer.nextDeadline : RtpTimer × ℚ :=
  let timer := { timer with frameCount := timer.frameCount + 1 }
  (timer, timer.start + timer.frameCount * FRAME_DURATION_MS / 1000)

/-- The deadline that a call uses, and when it returns. -/
structure FrameWait where
  deadline : ℚ
  returnsAt : ℚ

/-- `wait_next_frame`, with what the monotonic clock reads; a sleep ends at the deadline. -/
def RtpTimer.waitNextFrame (now : ℚ) : RtpTimer × FrameWait :=
  let next := timer.nextDeadline
  let next := if now - next.2 > 1 / 10 then (RtpTimer.nextDeadline ⟨now, 0⟩) else next
  (next.1, ⟨next.2, if next.2 > now then next.2 else now⟩)

/-- One call after the other, each with its reading of the clock. -/
def rtpTimer : EventMachine RtpTimer ℚ FrameWait where
  step := RtpTimer.waitNextFrame

abbrev FrameEntry := EventMachine.Entry RtpTimer ℚ FrameWait

/-! ## One call -/

/-- The deadline of the last frame. -/
def RtpTimer.lastDeadline : ℚ :=
  timer.start + timer.frameCount * FRAME_DURATION_MS / 1000

theorem nextDeadline_snd :
    timer.nextDeadline.2 = timer.lastDeadline + 1 / 50 := by
  unfold RtpTimer.nextDeadline RtpTimer.lastDeadline FRAME_DURATION_MS
  push_cast
  ring

/-- **One call**: its deadline is the last one then, 20 ms or more after the one before, and it
    returns between the deadline and 100 ms after it. -/
structure PacedWait (timer : RtpTimer) (next : RtpTimer) (wait : FrameWait) : Prop where
  last : wait.deadline = next.lastDeadline
  spaced : timer.lastDeadline + 1 / 50 ≤ wait.deadline
  waits : wait.deadline ≤ wait.returnsAt
  prompt : wait.returnsAt ≤ wait.deadline + 1 / 10

theorem waitNextFrame_paced (now : ℚ) :
    PacedWait timer (timer.waitNextFrame now).1 (timer.waitNextFrame now).2 := by
  have hnext := nextDeadline_snd timer
  unfold RtpTimer.waitNextFrame
  dsimp only
  by_cases hgap : now - timer.nextDeadline.2 > 1 / 10
  · -- the deadlines start again
    have hagain := nextDeadline_snd ⟨now, 0⟩
    have hstart : RtpTimer.lastDeadline ⟨now, 0⟩ = now := by
      unfold RtpTimer.lastDeadline
      push_cast
      ring
    rw [hstart] at hagain
    rw [if_pos hgap]
    have hlater : (RtpTimer.nextDeadline ⟨now, 0⟩).2 > now := by linarith
    refine ⟨rfl, by linarith, ?_, ?_⟩
    · show _ ≤ if _ then _ else _
      rw [if_pos hlater]
    · show (if _ then _ else _) ≤ _
      rw [if_pos hlater]
      linarith
  · rw [if_neg hgap]
    refine ⟨rfl, hnext.ge, ?_, ?_⟩
    · show _ ≤ if _ then _ else _
      by_cases hlater : timer.nextDeadline.2 > now
      · rw [if_pos hlater]
      · rw [if_neg hlater]
        exact not_lt.1 hlater
    · show (if _ then _ else _) ≤ _
      by_cases hlater : timer.nextDeadline.2 > now
      · rw [if_pos hlater]
        linarith
      · rw [if_neg hlater]
        linarith

/-! ## Runs of calls -/

theorem deadlines_spaced (readings : List ℚ) :
    (∀ t ∈ rtpTimer.trace timer readings, timer.lastDeadline + 1 / 50 ≤ t.answer.deadline) ∧
      (rtpTimer.trace timer readings).Pairwise (fun t u => t.answer.deadline + 1 / 50 ≤
        u.answer.deadline) := by
  induction readings generalizing timer with
  | nil => exact ⟨fun t ht => (List.not_mem_nil ht).elim, List.Pairwise.nil⟩
  | cons now readings ih =>
    have hcall := waitNextFrame_paced timer now
    obtain ⟨hlater, hpairwise⟩ := ih (rtpTimer.next timer now)
    have hlast : (rtpTimer.entry timer now).answer.deadline =
      (rtpTimer.next timer now).lastDeadline := hcall.last
    rw [EventMachine.trace_cons, List.forall_mem_cons, List.pairwise_cons]
    refine ⟨⟨hcall.spaced, fun t ht => ?_⟩, fun t ht => ?_, hpairwise⟩
    · have hspaced : timer.lastDeadline + 1 / 50 ≤ (rtpTimer.entry timer now).answer.deadline :=
        hcall.spaced
      have hthen := hlater t ht
      linarith
    · rw [hlast]
      exact hlater t ht

theorem paced_of_mem_trace {timer : RtpTimer} {readings : List ℚ} {t : FrameEntry}
    (ht : t ∈ rtpTimer.trace timer readings) :
    t.answer.deadline ≤ t.answer.returnsAt ∧ t.answer.returnsAt ≤ t.answer.deadline + 1 / 10 := by
  have hentry := rtpTimer.eq_entry_of_mem_trace ht
  have hcall := waitNextFrame_paced t.pre t.event
  rw [hentry]
  exact ⟨hcall.waits, hcall.prompt⟩

/-- Between the first and the last of `n` spaced deadlines lie `n - 1` frames. -/
theorem spread_of_spaced {t : FrameEntry} {calls : List FrameEntry}
    (h : (t :: calls).Pairwise (fun t u => t.answer.deadline + 1 / 50 ≤ u.answer.deadline))
    {u : FrameEntry} (hu : (t :: calls).getLast? = some u) :
    t.answer.deadline + calls.length * (1 / 50) ≤ u.answer.deadline := by
  induction calls generalizing t with
  | nil =>
    rw [List.getLast?_singleton, Option.some_inj] at hu
    rw [← hu, List.length_nil]
    push_cast
    linarith
  | cons c calls ih =>
    rw [List.pairwise_cons] at h
    rw [List.getLast?_cons_cons] at hu
    have hfirst := h.1 c List.mem_cons_self
    have hrest := ih h.2 hu
    rw [List.length_cons]
    push_cast
    linarith

/-- **The burst is bounded**: the deadlines of successive calls are at least 20 ms apart, and of any
    calls that return within an interval all but six take 20 ms of it each. -/
theorem rtpTimer_bursts (readings : List ℚ) :
    (rtpTimer.trace timer readings).Pairwise
        (fun t u => t.answer.deadline + FRAME_DURATION_MS / 1000 ≤ u.answer.deadline) ∧
      ∀ (calls : List FrameEntry) (a b : ℚ), calls.Sublist (rtpTimer.trace timer readings) → a ≤ b →
        (∀ t ∈ calls, a ≤ t.answer.returnsAt ∧ t.answer.returnsAt ≤ b) →
          ((calls.length : ℚ) - 6) * (FRAME_DURATION_MS / 1000) ≤ b - a := by
  have hspaced := (deadlines_spaced timer readings).2
  have hframe : FRAME_DURATION_MS / 1000 = 1 / 50 := by
    unfold FRAME_DURATION_MS
    norm_num
  rw [hframe]
  refine ⟨hspaced, fun calls a b hcalls hab hwithin => ?_⟩
  cases calls with
  | nil =>
    rw [List.length_nil]
    push_cast
    linarith
  | cons t calls =>
    obtain ⟨u, hu⟩ :=
      List.getLast?_isSome.2 (List.cons_ne_nil t calls) |> Option.isSome_iff_exists.1
    have hmem : u ∈ t :: calls := List.mem_of_getLast? hu
    have hspread := spread_of_spaced (hspaced.sublist hcalls) hu
    -- the first deadline is at most 100 ms before the interval, the last one is in it at the latest
    have hfirst := (paced_of_mem_trace (hcalls.subset List.mem_cons_self)).2
    have hlast := (paced_of_mem_trace (hcalls.subset hmem)).1
    have ha := (hwithin t List.mem_cons_self).1
    have hb := (hwithin u hmem).2
    rw [List.length_cons]
    push_cast
    linarith

/-- Readings of a clock that is late for six frames. -/
def lateReadings : List ℚ := List.replicate 6 (12 / 100)

/-- The six calls return at once. -/
theorem rtpTimer_bursts_late :
    (rtpTimer.trace (.new 0) lateReadings).map (fun t => t.answer.returnsAt) = lateReadings ∧
      (((rtpTimer.trace (.new 0) lateReadings).length : ℚ) - 6) * (FRAME_DURATION_MS / 1000) ≤
        12 / 100 - 12 / 100 := by
  refine ⟨by decide +kernel, (rtpTimer_bursts (.new 0) lateReadings).2 _ _ _ (List.Sublist.refl _)
    le_rfl ?_⟩
  decide +kernel

end Ekaette
