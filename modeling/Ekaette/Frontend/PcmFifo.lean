import Ekaette.Frontend.PcmPlayer

set_option autoImplicit false

/-! # The PCM player is a queue with discard

What the player is for, without indices: samples enqueued are played in order, and an `endOfAudio`
dooms the samples that were not played yet. Doomed samples fade out for at most `fadeOutLength`
frames and are then dropped; samples enqueued later stay.

As long as the number of unread samples stays below the buffer size, every step of the ring buffer
is such a step, also when new audio or a second `endOfAudio` arrives during the fade. -/

namespace Ekaette

open RingBuffer

/-! ## The queue -/

/-- The samples not played yet: the doomed ones, which come first, and the live ones; and for how
    many more frames the doomed ones fade. -/
structure Fifo where
  doomed : List ℚ
  live : List ℚ
  fade : ℕ

/-- The samples an event enqueues. -/
def PlayerEvent.enqueued : PlayerEvent → List ℚ
  | .message m => m.int16Samples.map floatOfInt16
  | .process _ => []

/-- One step of the queue, with the frames it plays. How many live samples a block plays is open:
    the player buffers. -/
inductive FifoStep : Fifo → PlayerEvent → List Frame → Fifo → Prop where
  /-- A message other than `endOfAudio` adds its samples to the live ones. -/
  | enqueue (f : Fifo) (message : PlayerMessage) (h : message ≠ .endOfAudio) :
      FifoStep f (.message message) []
        { f with live := f.live ++ (PlayerEvent.message message).enqueued }
  /-- `endOfAudio` dooms what was enqueued before it and not played yet. -/
  | endOfAudio (f : Fifo) :
      FifoStep f (.message .endOfAudio) []
        ⟨f.doomed ++ f.live, [], min fadeOutLength (f.doomed ++ f.live).length⟩
  /-- A block of the fade plays doomed samples only; when the fade is over, the rest of them is
      dropped. -/
  | fade (f : Fifo) (frames : ℕ) (h : 0 < f.fade) :
      FifoStep f (.process frames)
        ((f.doomed.take (min frames f.fade)).mapIdx (fun i v => .faded v (f.fade - i)) ++
          List.replicate (frames - f.fade) .silence)
        ⟨if f.fade ≤ frames then [] else f.doomed.drop frames, f.live, f.fade - frames⟩
  /-- Any other block plays live samples, and nothing is doomed. -/
  | play (f : Fifo) (frames k : ℕ) (hfade : f.fade = 0) (hdoomed : f.doomed = [])
      (hframes : k ≤ frames) (hlive : k ≤ f.live.length) :
      FifoStep f (.process frames)
        ((f.live.take k).map .sample ++ List.replicate (frames - k) .silence)
        { f with live := f.live.drop k }

/-! ## The queue inside the player -/

/-- The number of doomed samples: the distance from the read index to the end mark. -/
def PCMPlayer.doomedCount (p : PCMPlayer) : ℕ :=
  match p.endOfAudioWriteIndex with
  | some index => (index + p.bufferSize - p.readIndex) % p.bufferSize
  | none => 0

/-- The queue a state of the player stands for. -/
def PCMPlayer.fifo (p : PCMPlayer) : Fifo :=
  ⟨p.unread.take p.doomedCount, p.unread.drop p.doomedCount, p.fadeOutRemaining⟩

/-- The end mark, the fade counter and the unread samples fit together: `k` samples are doomed, and
    no more of them fade. -/
structure PCMPlayer.MarksEnd (p : PCMPlayer) (k : ℕ) : Prop where
  le_available : k ≤ p.available
  fade_le : p.fadeOutRemaining ≤ k
  mark : p.endOfAudioWriteIndex = if p.fadeOutRemaining = 0 then none else some (p.cell k)
  idle : p.fadeOutRemaining = 0 → k = 0

/-- The invariant of the player. -/
structure PCMPlayer.Inv (p : PCMPlayer) : Prop where
  wellFormed : p.toRingBuffer.WellFormed
  marksEnd : ∃ k, p.MarksEnd k

variable {p : PCMPlayer}

theorem doomedCount_eq {k : ℕ} (hwf : p.toRingBuffer.WellFormed)
    (h : p.MarksEnd k) : p.doomedCount = k := by
  have hread := hwf.readIndex
  have hk := h.le_available.trans_lt hwf.available_lt
  unfold PCMPlayer.doomedCount
  rw [h.mark]
  by_cases hfade : p.fadeOutRemaining = 0
  · rw [if_pos hfade]
    exact (h.idle hfade).symm
  · rw [if_neg hfade]
    show (p.cell k + p.bufferSize - p.readIndex) % p.bufferSize = k
    rw [cell, wrap hread hk]
    split
    · rw [show p.readIndex + k + p.bufferSize - p.readIndex = k + p.bufferSize by omega,
        Nat.add_mod_right, Nat.mod_eq_of_lt hk]
    · rw [show p.readIndex + k - p.bufferSize + p.bufferSize - p.readIndex = k by omega,
        Nat.mod_eq_of_lt hk]

theorem fifo_eq {k : ℕ} (hwf : p.toRingBuffer.WellFormed) (h : p.MarksEnd k) :
    p.fifo = ⟨p.unread.take k, p.unread.drop k, p.fadeOutRemaining⟩ := by
  rw [PCMPlayer.fifo, doomedCount_eq hwf h]

/-! ## Messages -/

/-- The message leaves a free cell: the number of unread samples does not reach the buffer size. -/
def PlayerEvent.HasRoom (p : PCMPlayer) : PlayerEvent → Prop
  | .message m => p.available + m.int16Samples.length < p.bufferSize
  | .process _ => True

instance (p : PCMPlayer) (e : PlayerEvent) : Decidable (e.HasRoom p) :=
  match e with
  | .message m => inferInstanceAs (Decidable (p.available + m.int16Samples.length < p.bufferSize))
  | .process _ => inferInstanceAs (Decidable True)

/-- Enqueueing samples there is room for. -/
theorem foldl_push {r : RingBuffer ℚ} (h : r.WellFormed) (samples : List ℤ)
    (hroom : r.available + samples.length < r.bufferSize) :
    (samples.foldl (fun r sample => r.push (floatOfInt16 sample)) r).WellFormed ∧
      (samples.foldl (fun r sample => r.push (floatOfInt16 sample)) r).unread =
        r.unread ++ samples.map floatOfInt16 ∧
      (samples.foldl (fun r sample => r.push (floatOfInt16 sample)) r).readIndex = r.readIndex ∧
      (samples.foldl (fun r sample => r.push (floatOfInt16 sample)) r).bufferSize =
      r.bufferSize := by
  induction samples generalizing r with
  | nil => exact ⟨h, (List.append_nil _).symm, rfl, rfl⟩
  | cons sample samples ih =>
    rw [List.length_cons] at hroom
    have hpush : r.available + 1 < r.bufferSize := by omega
    have hroom' : (r.push (floatOfInt16 sample)).available + samples.length < r.bufferSize := by
      rw [h.available_push _ hpush]
      omega
    obtain ⟨hwf, hunread, hread, hsize⟩ := ih (h.pushed _ hpush) hroom'
    rw [List.foldl_cons]
    refine ⟨hwf, ?_, hread.trans (h.push_readIndex _ hpush), hsize⟩
    rw [hunread, h.unread_push _ hpush, List.append_assoc, List.map_cons, List.singleton_append]

/-- Whatever a message other than `endOfAudio` is, its samples are enqueued; at most the flag for
    the statistics changes besides. -/
theorem onmessage_eq (p : PCMPlayer) {message : PlayerMessage} (hne : message ≠ .endOfAudio) :
    ∃ emit, p.onmessage message = { p.enqueue message.int16Samples with
      emitPlaybackStats := emit } := by
  have hnonempty : ∀ samples, (if samples = [] then p else p.enqueue samples) = p.enqueue samples :=
    by
    intro samples
    split
    · next hnil => rw [hnil]; rfl
    · rfl
  cases message with
  | enablePlaybackStats enabled => exact ⟨enabled, rfl⟩
  | endOfAudio => exact absurd rfl hne
  | int16Array samples => exact ⟨p.emitPlaybackStats, hnonempty _⟩
  | arrayBuffer bytes => exact ⟨p.emitPlaybackStats, hnonempty _⟩
  | view bytes byteOffset => exact ⟨p.emitPlaybackStats, hnonempty _⟩
  | other => exact ⟨p.emitPlaybackStats, rfl⟩

/-- A message other than `endOfAudio` adds its samples behind the unread ones. -/
theorem onmessage_step (h : p.Inv) {message : PlayerMessage}
    (hne : message ≠ .endOfAudio) (hroom : p.available + message.int16Samples.length < p.bufferSize)
    : (p.onmessage message).Inv ∧ FifoStep p.fifo (.message message) []
    (p.onmessage message).fifo := by
  obtain ⟨hwf, k, hk⟩ := h
  obtain ⟨emit, hmessage⟩ := onmessage_eq p hne
  obtain ⟨hwf', hunread, hread, hsize⟩ := foldl_push hwf message.int16Samples hroom
  have hlength := congrArg List.length hunread
  rw [length_unread, List.length_append, length_unread] at hlength
  have hk' : k ≤ p.unread.length := by rw [length_unread]; exact hk.le_available
  rw [hmessage]
  have hmarks : PCMPlayer.MarksEnd { p.enqueue message.int16Samples with emitPlaybackStats := emit }
      k := by
    refine ⟨hk.le_available.trans (hlength ▸ Nat.le_add_right _ _), hk.fade_le, ?_, hk.idle⟩
    refine hk.mark.trans ?_
    show _ = if p.fadeOutRemaining = 0 then none else some (RingBuffer.cell _ k)
    rw [cell, cell, PCMPlayer.enqueue, hread, hsize]
  refine ⟨⟨hwf', k, hmarks⟩, ?_⟩
  have hfifo : PCMPlayer.fifo { p.enqueue message.int16Samples with emitPlaybackStats := emit } =
      ⟨p.unread.take k, p.unread.drop k ++ message.int16Samples.map floatOfInt16,
        p.fadeOutRemaining⟩ := by
    rw [fifo_eq (p := { p.enqueue message.int16Samples with emitPlaybackStats := emit }) hwf'
      hmarks]
    rw [← List.take_append_of_le_length hk', ← List.drop_append_of_le_length hk', ← hunread]
    rfl
  rw [hfifo, fifo_eq hwf hk]
  exact FifoStep.enqueue ⟨p.unread.take k, p.unread.drop k, p.fadeOutRemaining⟩ message hne

/-- `endOfAudio` dooms every unread sample. -/
theorem endOfAudio_step (h : p.Inv) :
    p.endOfAudio.Inv ∧ FifoStep p.fifo (.message .endOfAudio) [] p.endOfAudio.fifo := by
  obtain ⟨hwf, k, hk⟩ := h
  have hstep := FifoStep.endOfAudio p.fifo
  have hpending : p.fifo.doomed ++ p.fifo.live = p.unread := List.take_append_drop _ _
  rw [hpending, length_unread] at hstep
  by_cases havailable : 0 < p.available
  · -- the mark is the write index, the end of the unread samples
    have hnew : p.endOfAudio = { p with
        endOfAudioWriteIndex := some p.writeIndex
        fadeOutRemaining := min fadeOutLength p.available
        isBuffering := true
        hasPlayedAudio := false
        currentRebufferSamples := rebufferSamples } := by
      rw [PCMPlayer.endOfAudio, if_pos havailable]
    have hfade : min fadeOutLength p.available ≠ 0 := by unfold fadeOutLength; omega
    have hmarks : p.endOfAudio.MarksEnd p.available := by
      rw [hnew]
      refine ⟨le_rfl, min_le_right _ _, ?_, fun h => absurd h hfade⟩
      show some p.writeIndex = _
      rw [if_neg hfade, ← hwf.cell_available]
    have hwf' : p.endOfAudio.WellFormed := by
      rw [hnew]
      exact ⟨hwf.size, hwf.writeIndex, hwf.readIndex⟩
    have hunread : p.endOfAudio.unread = p.unread := by rw [hnew]
    refine ⟨⟨hwf', p.available, hmarks⟩, ?_⟩
    have hfifo : p.endOfAudio.fifo = ⟨p.unread, [], min fadeOutLength p.available⟩ := by
      rw [fifo_eq hwf' hmarks, hunread, ← length_unread, List.take_length, List.drop_length, hnew,
        length_unread]
    rw [hfifo]
    exact hstep
  · -- nothing is unread, so the read index is set to where it is
    have hempty : p.available = 0 := by omega
    have hread : p.writeIndex = p.readIndex := (hwf.available_eq_zero_iff.1 hempty).symm
    have hfade : p.fadeOutRemaining = 0 := by
      have := hk.fade_le
      have := hk.le_available
      omega
    have hnew : p.endOfAudio = { p with
        endOfAudioWriteIndex := none
        isBuffering := true
        hasPlayedAudio := false
        currentRebufferSamples := rebufferSamples } := by
      rw [PCMPlayer.endOfAudio, if_neg havailable]
      exact congrArg (fun i => ({ p with
        readIndex := i
        endOfAudioWriteIndex := none
        isBuffering := true
        hasPlayedAudio := false
        currentRebufferSamples := rebufferSamples } : PCMPlayer)) hread
    have hmarks : p.endOfAudio.MarksEnd 0 := by
      rw [hnew]
      refine ⟨Nat.zero_le _, hfade.le, ?_, fun _ => rfl⟩
      show none = _
      rw [if_pos hfade]
    have hwf' : p.endOfAudio.WellFormed := by
      rw [hnew]
      exact ⟨hwf.size, hwf.writeIndex, hwf.readIndex⟩
    have hnil : p.unread = [] := by
      rw [← List.length_eq_zero_iff, length_unread, hempty]
    refine ⟨⟨hwf', 0, hmarks⟩, ?_⟩
    have hfifo : p.endOfAudio.fifo = ⟨p.unread, [], min fadeOutLength p.available⟩ := by
      have hunread : p.endOfAudio.unread = p.unread := by rw [hnew]
      have hfade' : p.endOfAudio.fadeOutRemaining = 0 := by
        rw [hnew]
        exact hfade
      rw [fifo_eq hwf' hmarks, hunread, hfade', hnil, hempty]
      rfl
    rw [hfifo]
    exact hstep

/-! ## Blocks -/

/-- The queue is read off the ring, the fade counter and the end mark. -/
theorem fifo_congr {p q : PCMPlayer} (hring : q.toRingBuffer = p.toRingBuffer)
    (hfade : q.fadeOutRemaining = p.fadeOutRemaining)
    (hmark : q.endOfAudioWriteIndex = p.endOfAudioWriteIndex) :
    q.fifo = p.fifo ∧ (p.Inv → q.Inv) := by
  constructor
  · rw [PCMPlayer.fifo, PCMPlayer.fifo, PCMPlayer.doomedCount, PCMPlayer.doomedCount, hring, hfade,
      hmark]
  · rintro ⟨hwf, k, hk⟩
    refine ⟨hring ▸ hwf, k, ⟨?_, ?_, ?_, ?_⟩⟩
    · rw [hring]
      exact hk.le_available
    · rw [hfade]
      exact hk.fade_le
    · rw [hmark, hfade, hring]
      exact hk.mark
    · rw [hfade]
      exact hk.idle

theorem cell_zero {r : RingBuffer ℚ} (h : r.WellFormed) : r.seek (r.cell 0) = r := by
  rw [seek, cell, Nat.add_zero, Nat.mod_eq_of_lt h.readIndex]

theorem cell_advance (r : RingBuffer ℚ) (i : ℕ) : r.advance.cell i = r.cell (i + 1) := by
  show ((r.readIndex + 1) % r.bufferSize + i) % r.bufferSize = (r.readIndex + (i + 1)) %
    r.bufferSize
  rw [Nat.mod_add_mod, Nat.add_assoc, Nat.add_comm 1 i]

/-- **A block of the fade** plays doomed samples while the fade counter lasts, then silence. -/
theorem fadeFrames_eq (hwf : p.toRingBuffer.WellFormed)
    (hfade : p.fadeOutRemaining ≤ p.available) (frames : ℕ) :
    (p.fadeFrames frames).1 = { p with
        toRingBuffer := p.seek (p.cell (min frames p.fadeOutRemaining))
        fadeOutRemaining := p.fadeOutRemaining - frames } ∧
      (p.fadeFrames frames).2 =
        ((p.unread.take (min frames p.fadeOutRemaining)).mapIdx
          fun i v => .faded v (p.fadeOutRemaining - i)) ++
        List.replicate (frames - p.fadeOutRemaining) .silence := by
  induction frames generalizing p with
  | zero =>
    rw [Nat.zero_min, cell_zero hwf]
    exact ⟨rfl, by simp [PCMPlayer.fadeFrames]⟩
  | succ frames ih =>
    by_cases hpos : 0 < p.fadeOutRemaining
    · have hne : p.readIndex ≠ p.writeIndex := by
        have := hwf.available_eq_zero_iff
        omega
      obtain ⟨hwf', hunread⟩ := hwf.read hne
      have havailable : p.available = p.advance.available + 1 := by
        have := congrArg List.length hunread
        rwa [List.length_cons, length_unread, length_unread] at this
      obtain ⟨hstate, hframes⟩ := ih (p := p.fadeOne) hwf'
        (by show p.fadeOutRemaining - 1 ≤ p.advance.available; omega)
      have hmin : min (frames + 1) p.fadeOutRemaining = min frames (p.fadeOutRemaining - 1) + 1 :=
      by omega
      rw [PCMPlayer.fadeFrames, if_pos (by simp [hpos, hne]), hmin]
      constructor
      · rw [hstate]
        show ({ p with
          toRingBuffer := p.advance.seek (p.advance.cell (min frames (p.fadeOutRemaining - 1)))
          fadeOutRemaining := p.fadeOutRemaining - 1 - frames } : PCMPlayer) = _
        rw [cell_advance, Nat.sub_sub, Nat.add_comm 1 frames]
        rfl
      · rw [hframes, hunread, List.take_succ_cons, List.mapIdx_cons, Nat.sub_zero, List.cons_append]
        show Frame.faded p.front p.fadeOutRemaining ::
          ((p.advance.unread.take (min frames (p.fadeOutRemaining - 1))).mapIdx
            (fun i v => Frame.faded v (p.fadeOutRemaining - 1 - i)) ++
          List.replicate (frames - (p.fadeOutRemaining - 1)) Frame.silence) = _
        have hlength : frames - (p.fadeOutRemaining - 1) = frames + 1 - p.fadeOutRemaining := by
          omega
        have hgain : ∀ i, p.fadeOutRemaining - 1 - i = p.fadeOutRemaining - (i + 1) := by omega
        simp only [hlength, hgain]
    · have hzero : p.fadeOutRemaining = 0 := by omega
      obtain ⟨hstate, hframes⟩ := ih hwf hfade
      rw [PCMPlayer.fadeFrames, if_neg (by simp [hzero]), hstate, hframes, hzero]
      simp [List.replicate_succ]

/-- **A block of normal playback** plays what is unread, then silence. -/
theorem playFrames_eq (hwf : p.toRingBuffer.WellFormed) (sawUnderrun : Bool) (frames : ℕ) :
    ((p.playFrames sawUnderrun frames).1.1.toRingBuffer = p.seek (p.cell (min frames p.available)) ∧
      (p.playFrames sawUnderrun frames).1.1.fadeOutRemaining = p.fadeOutRemaining ∧
      (p.playFrames sawUnderrun frames).1.1.endOfAudioWriteIndex = p.endOfAudioWriteIndex) ∧
      (p.playFrames sawUnderrun frames).2 = (p.unread.take (min frames p.available)).map .sample ++
        List.replicate (frames - p.available) .silence := by
  induction frames generalizing p sawUnderrun with
  | zero =>
    rw [Nat.zero_min, cell_zero hwf]
    exact ⟨⟨rfl, rfl, rfl⟩, by simp [PCMPlayer.playFrames]⟩
  | succ frames ih =>
    by_cases hne : p.readIndex = p.writeIndex
    · have hzero : p.available = 0 := hwf.available_eq_zero_iff.2 hne
      obtain ⟨⟨hring, hfade, hmark⟩, hframes⟩ := ih (p := p.underrun) hwf true
      have hzero' : p.underrun.available = 0 := hzero
      rw [hzero', Nat.min_zero] at hring hframes
      rw [PCMPlayer.playFrames, if_neg (not_not.2 hne), hzero, Nat.min_zero, hframes]
      refine ⟨⟨hring, hfade, hmark⟩, ?_⟩
      simp [List.replicate_succ]
    · obtain ⟨hwf', hunread⟩ := hwf.read hne
      have havailable : p.available = p.advance.available + 1 := by
        have := congrArg List.length hunread
        rwa [List.length_cons, length_unread, length_unread] at this
      obtain ⟨⟨hring, hfade, hmark⟩, hframes⟩ := ih (p := p.playOne) hwf' sawUnderrun
      have hmin : min (frames + 1) p.available = min frames p.advance.available + 1 := by omega
      rw [PCMPlayer.playFrames, if_pos hne, hmin]
      refine ⟨⟨?_, hfade, hmark⟩, ?_⟩
      · rw [hring]
        show p.advance.seek (p.advance.cell (min frames p.advance.available)) = _
        rw [cell_advance]
        rfl
      · rw [hframes, hunread, List.take_succ_cons, List.map_cons, List.cons_append, havailable,
          Nat.add_sub_add_right]
        rfl

theorem adaptRebuffer_fifo (p : PCMPlayer) (sawUnderrun : Bool) :
    (p.adaptRebuffer sawUnderrun).fifo = p.fifo ∧ (p.Inv → (p.adaptRebuffer sawUnderrun).Inv) := by
  refine fifo_congr ?_ ?_ ?_
  all_goals
    unfold PCMPlayer.adaptRebuffer
    split
    · rfl
    · dsimp only
      split <;> rfl

theorem emitStats_fifo (p : PCMPlayer) :
    p.emitStats.1.fifo = p.fifo ∧ (p.Inv → p.emitStats.1.Inv) := by
  refine fifo_congr ?_ ?_ ?_
  all_goals
    unfold PCMPlayer.emitStats
    split <;> rfl

theorem cell_seek (r : RingBuffer ℚ) (n i : ℕ) : (r.seek (r.cell n)).cell i = r.cell (n + i) := by
  show ((r.readIndex + n) % r.bufferSize + i) % r.bufferSize = (r.readIndex + (n + i)) %
    r.bufferSize
  rw [Nat.mod_add_mod, Nat.add_assoc]

/-- A player without an end mark. -/
theorem fifo_unmarked (hwf : p.toRingBuffer.WellFormed)
    (hfade : p.fadeOutRemaining = 0) (hmark : p.endOfAudioWriteIndex = none) :
    p.Inv ∧ p.fifo = ⟨[], p.unread, 0⟩ := by
  have hmarks : p.MarksEnd 0 :=
    ⟨Nat.zero_le _, hfade.le, hmark.trans (if_pos hfade).symm, fun _ => rfl⟩
  refine ⟨⟨hwf, 0, hmarks⟩, ?_⟩
  rw [fifo_eq hwf hmarks, hfade]
  rfl

/-- A block that ends the fade: what is still doomed is dropped. -/
theorem fadeEnds_step (hwf : p.toRingBuffer.WellFormed) {k : ℕ} (hk : p.MarksEnd k)
    (hpos : 0 < p.fadeOutRemaining) {frames : ℕ} (hends : p.fadeOutRemaining ≤ frames) :
    (p.fadeFrames frames).1.finishFade.Inv ∧
      FifoStep p.fifo (.process frames)
      (p.fadeFrames frames).2 (p.fadeFrames frames).1.finishFade.fifo := by
  obtain ⟨hstate, hframes⟩ := fadeFrames_eq hwf (hk.fade_le.trans hk.le_available) frames
  obtain ⟨hwf', hunread⟩ := hwf.seek_cell hk.le_available
  have hmark : p.endOfAudioWriteIndex = some (p.cell k) := hk.mark.trans (if_neg hpos.ne')
  have hfinish : (p.fadeFrames frames).1.finishFade =
      { p with
        toRingBuffer := p.seek (p.cell k)
        fadeOutRemaining := p.fadeOutRemaining - frames
        endOfAudioWriteIndex := none } := by
    rw [hstate, PCMPlayer.finishFade, if_pos (Nat.sub_eq_zero_of_le hends)]
    simp only [hmark]
    rfl
  obtain ⟨hinv, hfifo⟩ := fifo_unmarked (p := (p.fadeFrames frames).1.finishFade)
    (by rw [hfinish]; exact hwf')
    (by rw [hfinish]; exact Nat.sub_eq_zero_of_le hends) (by rw [hfinish])
  refine ⟨hinv, ?_⟩
  have hrest : (p.fadeFrames frames).1.finishFade.unread = p.unread.drop k := by
    rw [hfinish]
    exact hunread
  have hstep := FifoStep.fade ⟨p.unread.take k, p.unread.drop k, p.fadeOutRemaining⟩ frames hpos
  have htake : (p.unread.take k).take (min frames p.fadeOutRemaining) =
      p.unread.take (min frames p.fadeOutRemaining) := by
    rw [List.take_take, min_eq_left ((min_le_right _ _).trans hk.fade_le)]
  rw [hfifo, fifo_eq hwf hk, hframes, hrest, ← htake]
  simpa only [if_pos hends, Nat.sub_eq_zero_of_le hends] using hstep

/-- A block within the fade: the rest stays doomed. -/
theorem fadeGoesOn_step (hwf : p.toRingBuffer.WellFormed) {k : ℕ}
    (hk : p.MarksEnd k) {frames : ℕ} (hgoes : frames < p.fadeOutRemaining) :
    (p.fadeFrames frames).1.finishFade.Inv ∧
      FifoStep p.fifo (.process frames)
      (p.fadeFrames frames).2 (p.fadeFrames frames).1.finishFade.fifo := by
  obtain ⟨hstate, hframes⟩ := fadeFrames_eq hwf (hk.fade_le.trans hk.le_available) frames
  have hframesk : frames ≤ k := hgoes.le.trans hk.fade_le
  have hframesle : frames ≤ p.available := hframesk.trans hk.le_available
  obtain ⟨hwf', hunread⟩ := hwf.seek_cell hframesle
  have hpos : 0 < p.fadeOutRemaining := by omega
  have hleft : p.fadeOutRemaining - frames ≠ 0 := by omega
  have hfinish : (p.fadeFrames frames).1.finishFade = { p with
      toRingBuffer := p.seek (p.cell frames)
      fadeOutRemaining := p.fadeOutRemaining - frames } := by
    rw [hstate, PCMPlayer.finishFade, if_neg hleft, min_eq_left hgoes.le]
  have hlength := congrArg List.length hunread
  rw [length_unread, List.length_drop, length_unread] at hlength
  have hmarks : (p.fadeFrames frames).1.finishFade.MarksEnd (k - frames) := by
    rw [hfinish]
    refine ⟨?_, Nat.sub_le_sub_right hk.fade_le frames, ?_, fun h => absurd h hleft⟩
    · exact (Nat.sub_le_sub_right hk.le_available frames).trans hlength.ge
    · show p.endOfAudioWriteIndex =
        if p.fadeOutRemaining - frames = 0 then none
        else some ((p.seek (p.cell frames)).cell (k - frames))
      rw [hk.mark, if_neg hpos.ne', if_neg hleft, cell_seek, Nat.add_sub_cancel' hframesk]
  have hwf'' : (p.fadeFrames frames).1.finishFade.WellFormed := by
    rw [hfinish]
    exact hwf'
  have hrest : (p.fadeFrames frames).1.finishFade.unread = p.unread.drop frames := by
    rw [hfinish]
    exact hunread
  have hfade : (p.fadeFrames frames).1.finishFade.fadeOutRemaining = p.fadeOutRemaining - frames :=
    by
    rw [hfinish]
  refine ⟨⟨hwf'', k - frames, hmarks⟩, ?_⟩
  have hstep := FifoStep.fade ⟨p.unread.take k, p.unread.drop k, p.fadeOutRemaining⟩ frames hpos
  have htake : (p.unread.take k).take (min frames p.fadeOutRemaining) =
      p.unread.take (min frames p.fadeOutRemaining) := by
    rw [List.take_take, min_eq_left ((min_le_right _ _).trans hk.fade_le)]
  have hdrop : (p.unread.drop frames).drop (k - frames) = p.unread.drop k := by
    rw [List.drop_drop, Nat.add_sub_cancel' hframesk]
  rw [fifo_eq hwf'' hmarks, fifo_eq hwf hk, hframes, hrest, hfade, ← htake, hdrop, ← List.drop_take]
  simpa only [if_neg (not_le.2 hgoes)] using hstep

/-- A block of the pre-buffering phase plays nothing. -/
theorem silence_step (hwf : p.toRingBuffer.WellFormed) {k : ℕ} (hk : p.MarksEnd k)
    (hfade : p.fadeOutRemaining = 0) (frames : ℕ) :
    FifoStep p.fifo (.process frames) (List.replicate frames .silence) p.fifo := by
  have hzero : k = 0 := hk.idle hfade
  subst hzero
  have hstep := FifoStep.play ⟨p.unread.take 0, p.unread.drop 0, p.fadeOutRemaining⟩ frames 0 hfade
    rfl (Nat.zero_le _) (Nat.zero_le _)
  rw [fifo_eq hwf hk]
  exact hstep

/-- A block of normal playback. -/
theorem playFrames_step (hwf : p.toRingBuffer.WellFormed) {k : ℕ}
    (hk : p.MarksEnd k) (hfade : p.fadeOutRemaining = 0) (frames : ℕ) :
    (p.playFrames false frames).1.1.Inv ∧
      FifoStep p.fifo (.process frames)
      (p.playFrames false frames).2 (p.playFrames false frames).1.1.fifo := by
  have hzero : k = 0 := hk.idle hfade
  subst hzero
  obtain ⟨⟨hring, hfade', hmark'⟩, hframes⟩ := playFrames_eq hwf false frames
  obtain ⟨hwf', hunread⟩ := hwf.seek_cell (min_le_right frames p.available)
  obtain ⟨hinv, hfifo⟩ := fifo_unmarked (p := (p.playFrames false frames).1.1)
    (by rw [hring]; exact hwf') (hfade'.trans hfade) (hmark'.trans (hk.mark.trans (if_pos hfade)))
  refine ⟨hinv, ?_⟩
  have hstep := FifoStep.play ⟨[], p.unread, 0⟩ frames (min frames p.available) rfl rfl
    (min_le_left _ _) (by rw [length_unread]; exact min_le_right _ _)
  have hsilent : frames - min frames p.available = frames - p.available := by omega
  have hqueue : p.fifo = ⟨[], p.unread, 0⟩ :=
    (fifo_unmarked hwf hfade (hk.mark.trans (if_pos hfade))).2
  rw [hfifo, hqueue, hframes, hring, hunread, ← hsilent]
  exact hstep

/-- A block. -/
theorem process_step (h : p.Inv) (frames : ℕ) :
    (p.process frames).1.Inv ∧
      FifoStep p.fifo (.process frames) (p.process frames).2.1 (p.process frames).1.fifo := by
  obtain ⟨hwf, k, hk⟩ := h
  let q : PCMPlayer := { p with statsBlockCounter := p.statsBlockCounter + 1 }
  have hq : q.MarksEnd k := ⟨hk.le_available, hk.fade_le, hk.mark, hk.idle⟩
  have hqueue : q.fifo = p.fifo := rfl
  rw [← hqueue]
  by_cases hfade : 0 < p.fadeOutRemaining
  · have hprocess : p.process frames = ((q.fadeFrames frames).1.finishFade, (q.fadeFrames frames).2,
        none) := by
      unfold PCMPlayer.process
      exact if_pos hfade
    rw [hprocess]
    by_cases hends : p.fadeOutRemaining ≤ frames
    · exact fadeEnds_step (p := q) hwf hq hfade hends
    · exact fadeGoesOn_step (p := q) hwf hq (not_le.1 hends)
  · have hzero : q.fadeOutRemaining = 0 := Nat.eq_zero_of_not_pos hfade
    by_cases hbuffering : (q.isBuffering && decide (q.available < q.targetBuffer)) = true
    · have hprocess : p.process frames = (q, List.replicate frames .silence, none) := by
        unfold PCMPlayer.process
        rw [if_neg hfade]
        exact if_pos hbuffering
      rw [hprocess]
      exact ⟨⟨hwf, k, hq⟩, silence_step (p := q) hwf hq hzero frames⟩
    · let block := ({ q with isBuffering := false } : PCMPlayer).playFrames false frames
      have hprocess : p.process frames =
          ((block.1.1.adaptRebuffer block.1.2).emitStats.1, block.2,
            (block.1.1.adaptRebuffer block.1.2).emitStats.2) := by
        unfold PCMPlayer.process
        rw [if_neg hfade]
        exact if_neg hbuffering
      have hq' : PCMPlayer.MarksEnd { q with isBuffering := false } k :=
        ⟨hk.le_available, hk.fade_le, hk.mark, hk.idle⟩
      obtain ⟨hinv, hstep⟩ :=
        playFrames_step (p := { q with isBuffering := false }) hwf hq' hzero frames
      obtain ⟨hadapt, hadaptInv⟩ := adaptRebuffer_fifo block.1.1 block.1.2
      obtain ⟨hstats, hstatsInv⟩ := emitStats_fifo (block.1.1.adaptRebuffer block.1.2)
      rw [hprocess]
      refine ⟨hstatsInv (hadaptInv hinv), ?_⟩
      rw [hstats, hadapt]
      exact hstep

/-! ## Runs -/

/-- **One step of the player is one step of the queue**, as long as there is room. -/
theorem pcmPlayer_step (h : p.Inv) (e : PlayerEvent) (hroom : e.HasRoom p) :
    (pcmPlayer.next p e).Inv ∧ FifoStep p.fifo e (pcmPlayer.step p e).2.1
    (pcmPlayer.next p e).fifo := by
  cases e with
  | process frames => exact process_step h frames
  | message m =>
    by_cases hm : m = .endOfAudio
    · subst hm
      exact endOfAudio_step h
    · exact onmessage_step h hm hroom

/-- The value of a frame, if it is not silent. -/
def Frame.value? : Frame → Option ℚ
  | .silence => none
  | .sample v => some v
  | .faded v _ => some v

/-- The value of a frame that plays a sample without fade-out gain. -/
def Frame.plain? : Frame → Option ℚ
  | .sample v => some v
  | _ => none

variable (vs : List ℚ)

@[simp] theorem filterMap_value?_faded (gain : ℕ → ℕ) :
    (vs.mapIdx fun i v => Frame.faded v (gain i)).filterMap Frame.value? = vs := by
  induction vs generalizing gain with
  | nil => rfl
  | cons v vs ih =>
    rw [List.mapIdx_cons, List.filterMap_cons_some (f := Frame.value?) (b := v) rfl,
      ih (fun i => gain (i + 1))]

@[simp] theorem filterMap_plain?_faded (gain : ℕ → ℕ) :
    (vs.mapIdx fun i v => Frame.faded v (gain i)).filterMap Frame.plain? = [] := by
  induction vs generalizing gain with
  | nil => rfl
  | cons v vs ih =>
    rw [List.mapIdx_cons, List.filterMap_cons_none rfl, ih (fun i => gain (i + 1))]

@[simp] theorem filterMap_value?_sample :
    (vs.map Frame.sample).filterMap Frame.value? = vs := by
  rw [List.filterMap_map]
  exact List.filterMap_some

@[simp] theorem filterMap_plain?_sample :
    (vs.map Frame.sample).filterMap Frame.plain? = vs := by
  rw [List.filterMap_map]
  exact List.filterMap_some

theorem filterMap_silence (value : Frame → Option ℚ) (h : value .silence = none) (n : ℕ) :
    (List.replicate n Frame.silence).filterMap value = [] := by
  rw [List.filterMap_replicate_of_none h]

theorem FifoStep.order {f f' : Fifo} {e : PlayerEvent} {frames : List Frame}
    (h : FifoStep f e frames f') :
    List.Sublist (frames.filterMap Frame.value? ++ (f'.doomed ++ f'.live))
      (f.doomed ++ f.live ++ e.enqueued) := by
  cases h with
  | enqueue message hne => simp
  | endOfAudio => simp [PlayerEvent.enqueued, PlayerMessage.int16Samples]
  | fade n hpos =>
    rw [List.filterMap_append, filterMap_value?_faded, filterMap_silence _ rfl, List.append_nil,
      PlayerEvent.enqueued, List.append_nil, ← List.append_assoc]
    refine List.Sublist.append_right ?_ f.live
    by_cases hends : f.fade ≤ n
    · rw [if_pos hends, List.append_nil]
      exact List.take_sublist _ _
    · rw [if_neg hends, min_eq_left (not_le.1 hends).le, List.take_append_drop]
  | play n k hfade hdoomed hframes hlive =>
    rw [List.filterMap_append, filterMap_value?_sample, filterMap_silence _ rfl, List.append_nil,
      PlayerEvent.enqueued, List.append_nil, hdoomed, List.nil_append, List.nil_append,
      List.take_append_drop]

/-- A step other than `endOfAudio` drops no live sample: it plays them in order or keeps them. -/
theorem FifoStep.live_kept {f f' : Fifo} {e : PlayerEvent} {frames : List Frame}
    (h : FifoStep f e frames f') (hne : e ≠ .message .endOfAudio) :
    frames.filterMap Frame.plain? ++ f'.live = f.live ++ e.enqueued := by
  cases h with
  | enqueue message _ => rfl
  | endOfAudio => exact absurd rfl hne
  | fade n hpos =>
    rw [List.filterMap_append, filterMap_plain?_faded, filterMap_silence _ rfl,
      PlayerEvent.enqueued, List.append_nil, List.nil_append, List.append_nil]
  | play n k hfade hdoomed hframes hlive =>
    rw [List.filterMap_append, filterMap_plain?_sample, filterMap_silence _ rfl,
      PlayerEvent.enqueued, List.append_nil, List.append_nil, List.take_append_drop]

theorem FifoStep.live_nil {f f' : Fifo} {frames : List Frame}
    (h : FifoStep f (.message .endOfAudio) frames f') : f'.live = [] := by
  cases h with
  | enqueue message hne => exact absurd rfl hne
  | endOfAudio => rfl

theorem FifoStep.played_le {f f' : Fifo} {e : PlayerEvent} {frames : List Frame}
    (h : FifoStep f e frames f') : (frames.filterMap Frame.value?).length ≤
    (f.doomed ++ f.live).length := by
  cases h with
  | enqueue message hne => exact Nat.zero_le _
  | endOfAudio => exact Nat.zero_le _
  | fade n hpos =>
    have hlength := (FifoStep.fade f n hpos).order.length_le
    rw [PlayerEvent.enqueued, List.append_nil, List.length_append] at hlength
    omega
  | play n k hfade hdoomed hframes hlive =>
    have hlength := (FifoStep.play f n k hfade hdoomed hframes hlive).order.length_le
    rw [PlayerEvent.enqueued, List.append_nil, List.length_append] at hlength
    omega

/-- The frames written along a run. -/
def output (p : PCMPlayer) (es : List PlayerEvent) : List Frame :=
  (pcmPlayer.trace p es).flatMap fun t => t.answer.1

theorem output_cons (p : PCMPlayer) (e : PlayerEvent) (es : List PlayerEvent) :
    output p (e :: es) = (pcmPlayer.step p e).2.1 ++ output (pcmPlayer.next p e) es := by
  rw [output, EventMachine.trace_cons, List.flatMap_cons]
  rfl

theorem run_steps (h : p.Inv) {es : List PlayerEvent}
    (hroom : ∀ t ∈ pcmPlayer.trace p es, t.event.HasRoom t.pre) :
    (pcmPlayer.run p es).Inv ∧
      ∀ t ∈ pcmPlayer.trace p es, FifoStep t.pre.fifo t.event t.answer.1
      (pcmPlayer.next t.pre t.event).fifo := by
  induction es generalizing p with
  | nil => exact ⟨h, fun t ht => absurd ht List.not_mem_nil⟩
  | cons e es ih =>
    rw [EventMachine.trace_cons, List.forall_mem_cons] at hroom ⊢
    obtain ⟨hinv, hstep⟩ := pcmPlayer_step h e hroom.1
    obtain ⟨hrun, hsteps⟩ := ih hinv hroom.2
    exact ⟨hrun, hstep, hsteps⟩

theorem run_order (h : p.Inv) {es : List PlayerEvent}
    (hroom : ∀ t ∈ pcmPlayer.trace p es, t.event.HasRoom t.pre) :
    List.Sublist ((output p es).filterMap Frame.value? ++
        ((pcmPlayer.run p es).fifo.doomed ++ (pcmPlayer.run p es).fifo.live))
      (p.fifo.doomed ++ p.fifo.live ++ es.flatMap PlayerEvent.enqueued) := by
  induction es generalizing p with
  | nil => exact (List.append_nil (p.fifo.doomed ++ p.fifo.live)).symm ▸ List.Sublist.refl _
  | cons e es ih =>
    rw [EventMachine.trace_cons, List.forall_mem_cons] at hroom
    obtain ⟨hinv, hstep⟩ := pcmPlayer_step h e hroom.1
    have hrest := (ih hinv hroom.2).append_left ((pcmPlayer.step p e).2.1.filterMap Frame.value?)
    have hhead := hstep.order.append_right (es.flatMap PlayerEvent.enqueued)
    rw [output_cons, List.filterMap_append, List.flatMap_cons, EventMachine.run_cons,
      List.append_assoc, ← List.append_assoc _ e.enqueued]
    refine hrest.trans ?_
    rw [← List.append_assoc]
    exact hhead

/-- Along a run without `endOfAudio` no live sample is dropped. -/
theorem run_live_kept (h : p.Inv) {es : List PlayerEvent}
    (hroom : ∀ t ∈ pcmPlayer.trace p es, t.event.HasRoom t.pre) (hne : .message .endOfAudio ∉ es) :
    (output p es).filterMap Frame.plain? ++ (pcmPlayer.run p es).fifo.live =
      p.fifo.live ++ es.flatMap PlayerEvent.enqueued := by
  induction es generalizing p with
  | nil => exact (List.append_nil p.fifo.live).symm
  | cons e es ih =>
    rw [EventMachine.trace_cons, List.forall_mem_cons] at hroom
    rw [List.mem_cons, not_or] at hne
    obtain ⟨hinv, hstep⟩ := pcmPlayer_step h e hroom.1
    have hhead := hstep.live_kept (Ne.symm hne.1)
    rw [output_cons, List.filterMap_append, EventMachine.run_cons, List.append_assoc,
      ih hinv hroom.2 hne.2, ← List.append_assoc, hhead, List.flatMap_cons, List.append_assoc]

theorem start_fifo {bufferSize : ℕ} (hsize : 2 ≤ bufferSize) (emit : Bool) :
    (PCMPlayer.start bufferSize emit).Inv ∧ (PCMPlayer.start bufferSize emit).fifo =
    ⟨[], [], 0⟩ := by
  have hwf : (PCMPlayer.start bufferSize emit).WellFormed :=
    ⟨hsize, Nat.lt_of_lt_of_le Nat.zero_lt_two hsize, Nat.lt_of_lt_of_le Nat.zero_lt_two hsize⟩
  obtain ⟨hinv, hfifo⟩ := fifo_unmarked hwf rfl rfl
  exact ⟨hinv, hfifo.trans rfl⟩

/-- **The player is a queue with discard.** For every buffer size of at least 2 and every run in
    which the unread samples never fill the buffer: the player starts as the empty queue, each of
    its steps is a step of the queue, and no block plays more samples than are unread. So the
    samples it plays are samples that were enqueued, in order and each at most once; and after
    `endOfAudio` (and before any), as long as no further one arrives, the samples played without
    fade-out gain and the live ones left are together exactly those enqueued since. -/
theorem pcmPlayer_refinesFifo {bufferSize : ℕ} (hsize : 2 ≤ bufferSize) (emit : Bool)
    (es : List PlayerEvent) (hroom : ∀ t ∈ pcmPlayer.trace (.start bufferSize emit) es,
      t.event.HasRoom t.pre) :
    (PCMPlayer.start bufferSize emit).fifo = ⟨[], [], 0⟩ ∧
      (∀ t ∈ pcmPlayer.trace (.start bufferSize emit) es,
        FifoStep t.pre.fifo t.event t.answer.1 (pcmPlayer.next t.pre t.event).fifo ∧
          (t.answer.1.filterMap Frame.value?).length ≤ t.pre.available) ∧
      List.Sublist ((output (.start bufferSize emit) es).filterMap Frame.value?)
        (es.flatMap PlayerEvent.enqueued) ∧
      ∀ before after, es = before ++ after →
        (before = [] ∨ ∃ earlier, before = earlier ++ [.message .endOfAudio]) →
        .message .endOfAudio ∉ after →
        (output (pcmPlayer.run (.start bufferSize emit) before) after).filterMap Frame.plain? ++
          (pcmPlayer.run (.start bufferSize emit) es).fifo.live =
          after.flatMap PlayerEvent.enqueued := by
  obtain ⟨hinv, hstart⟩ := start_fifo hsize emit
  refine ⟨hstart, fun t ht => ?_, ?_, ?_⟩
  · have hstep := (run_steps hinv hroom).2 t ht
    refine ⟨hstep, hstep.played_le.trans ?_⟩
    show (t.pre.unread.take _ ++ t.pre.unread.drop _).length ≤ _
    rw [List.take_append_drop, length_unread]
  · have horder := run_order hinv hroom
    rw [hstart] at horder
    exact (List.sublist_append_left _ _).trans horder
  · rintro before after rfl hbefore hafter
    rw [EventMachine.trace_append, List.forall_mem_append] at hroom
    have hlive : (pcmPlayer.run (.start bufferSize emit) before).fifo.live = [] := by
      rcases hbefore with rfl | ⟨earlier, rfl⟩
      · rw [EventMachine.run_nil, hstart]
      · rw [EventMachine.trace_append, List.forall_mem_append] at hroom
        have hend := pcmPlayer_step (run_steps hinv hroom.1.1).1 (.message .endOfAudio)
          (hroom.1.2 _ List.mem_cons_self)
        rw [EventMachine.run_concat]
        exact hend.2.live_nil
    have hkept := run_live_kept (run_steps hinv hroom.1).1 hroom.2 hafter
    rw [hlive, List.nil_append] at hkept
    rw [EventMachine.run_append]
    exact hkept

/-- A buffer of five samples: audio arrives during the fade, then a second `endOfAudio`, then audio
    that wraps around. -/
def interruptedPlayback : List PlayerEvent :=
  [.message (.int16Array [1, 2, 3]), .process 2, .message .endOfAudio, .process 1,
    .message (.int16Array [4]), .message .endOfAudio, .process 2, .message (.arrayBuffer [5, 0]),
    .process 4, .message (.int16Array [6, 7])]

theorem interruptedPlayback_hasRoom :
    ∀ t ∈ pcmPlayer.trace (.start 5 false) interruptedPlayback, t.event.HasRoom t.pre := by
  have hall : (pcmPlayer.trace (.start 5 false) interruptedPlayback).all
      (fun t => decide (t.event.HasRoom t.pre)) = true := by decide +kernel
  exact fun t ht => of_decide_eq_true (List.all_eq_true.1 hall t ht)

/-- A chunk that fills the first buffer, and a block of two frames. -/
def startedPlayback : List PlayerEvent :=
  [.message (.int16Array (List.replicate 2880 1)), .process 2]

theorem startedPlayback_hasRoom :
    ∀ t ∈ pcmPlayer.trace (.start 4800 false) startedPlayback, t.event.HasRoom t.pre := by
  have hall : (pcmPlayer.trace (.start 4800 false) startedPlayback).all
      (fun t => decide (t.event.HasRoom t.pre)) = true := by decide +kernel
  exact fun t ht => of_decide_eq_true (List.all_eq_true.1 hall t ht)

set_option maxRecDepth 20000 in
/-- What a second `endOfAudio` leaves, and two samples that are played without gain. -/
theorem playback_refinesFifo :
    ((pcmPlayer.run (.start 5 false) interruptedPlayback).fifo.live = [5 / 32768, 6 / 32768,
      7 / 32768] ∧
      List.Sublist ((output (.start 5 false) interruptedPlayback).filterMap Frame.value?)
        (interruptedPlayback.flatMap PlayerEvent.enqueued)) ∧
    (output (.start 4800 false) startedPlayback).filterMap Frame.plain? =
      [1 / 32768, 1 / 32768] := by
  refine ⟨⟨by decide +kernel, (pcmPlayer_refinesFifo (by decide) false interruptedPlayback
    interruptedPlayback_hasRoom).2.2.1⟩, ?_⟩
  have hkept := (pcmPlayer_refinesFifo (by decide) false startedPlayback
    startedPlayback_hasRoom).2.2.2 [] startedPlayback rfl (.inl rfl) (by decide +kernel)
  have henqueued : startedPlayback.flatMap PlayerEvent.enqueued =
      List.replicate 2880 (1 / 32768) := by
    show (List.replicate 2880 1).map floatOfInt16 ++ [] = _
    rw [List.map_replicate, List.append_nil]
    rfl
  have hleft : (pcmPlayer.run (.start 4800 false) startedPlayback).fifo.live.length = 2878 := by
    rw [PCMPlayer.fifo, List.length_drop, length_unread]
    decide +kernel
  rw [henqueued, EventMachine.run_nil] at hkept
  obtain ⟨-, hplain, -⟩ := List.append_eq_replicate_iff.1 hkept
  have hlength := congrArg List.length hkept
  rw [List.length_append, List.length_replicate, hleft] at hlength
  rw [hplain, Nat.add_right_cancel (hlength.trans (show 2880 = 2 + 2878 from rfl))]
  rfl

end Ekaette
