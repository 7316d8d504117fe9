import Ekaette.Frontend.PcmFifo

set_option autoImplicit false

/-! # Whether the PCM player drains

After its last message the player plays what is unread, unless it is buffering and less than its
threshold is unread: then it waits for audio that does not come. -/

namespace Ekaette

open RingBuffer

namespace PCMPlayer

/-! ## States -/

/-- What every state of the player satisfies, also after samples were overwritten. -/
structure Sound (p : PCMPlayer) : Prop where
  wellFormed : p.toRingBuffer.WellFormed
  fade_le : p.fadeOutRemaining ≤ p.available
  mark_lt : ∀ index, p.endOfAudioWriteIndex = some index → index < p.bufferSize

/-- The samples that are unread once the fade, if there is one, is complete. -/
def availableAfterFade (p : PCMPlayer) : ℕ :=
  if 0 < p.fadeOutRemaining then (p.seek (p.endOfAudioWriteIndex.getD p.writeIndex)).available
  else p.available

/-- Nothing stays unread: after the fade nothing is left, or the player does not wait, or not for
    more than what it has. -/
def Drains (p : PCMPlayer) : Prop :=
  p.availableAfterFade = 0 ∨ p.isBuffering = false ∨ p.targetBuffer ≤ p.availableAfterFade

variable {p : PCMPlayer}

theorem availableAfterFade_of_zero (hfade : p.fadeOutRemaining = 0) :
    p.availableAfterFade = p.available := by
  unfold availableAfterFade
  rw [if_neg (by omega)]

theorem Sound.mark_getD_lt (h : p.Sound) :
    p.endOfAudioWriteIndex.getD p.writeIndex < p.bufferSize := by
  cases hmark : p.endOfAudioWriteIndex with
  | none => exact h.wellFormed.writeIndex
  | some index => exact h.mark_lt index hmark

/-! ## Blocks -/

/-- A block of the fade brings its end nearer, and what is unread after it is the same. -/
structure Fades (p : PCMPlayer) (frames : ℕ) (q : PCMPlayer) : Prop where
  sound : q.Sound
  size : q.bufferSize = p.bufferSize
  fade : q.fadeOutRemaining = p.fadeOutRemaining - frames
  after : q.availableAfterFade = p.availableAfterFade
  buffering : q.isBuffering = p.isBuffering
  target : q.targetBuffer = p.targetBuffer

theorem process_fades (h : p.Sound) (hfade : 0 < p.fadeOutRemaining) (frames : ℕ) :
    p.Fades frames (p.process frames).1 := by
  let q : PCMPlayer := { p with statsBlockCounter := p.statsBlockCounter + 1 }
  have hprocess : (p.process frames).1 = (q.fadeFrames frames).1.finishFade := by
    unfold process
    rw [if_pos hfade]
  have hstate := (fadeFrames_eq (p := q) h.wellFormed h.fade_le frames).1
  have hmin : min frames p.fadeOutRemaining ≤ p.available := (min_le_right _ _).trans h.fade_le
  obtain ⟨hwf, hunread⟩ := h.wellFormed.seek_cell hmin
  have hlength := congrArg List.length hunread
  rw [length_unread, List.length_drop, length_unread] at hlength
  rw [hprocess, hstate]
  by_cases hends : p.fadeOutRemaining ≤ frames
  · -- the read index goes to the mark
    have hzero : p.fadeOutRemaining - frames = 0 := Nat.sub_eq_zero_of_le hends
    have hindex := h.mark_getD_lt
    have hafter :
        p.availableAfterFade = (p.seek (p.endOfAudioWriteIndex.getD p.writeIndex)).available :=
      if_pos hfade
    have hfinish : (({ q with
          toRingBuffer := q.seek (q.cell (min frames q.fadeOutRemaining))
          fadeOutRemaining := q.fadeOutRemaining - frames } : PCMPlayer).finishFade) =
        { q with
          toRingBuffer := p.seek (p.endOfAudioWriteIndex.getD p.writeIndex)
          fadeOutRemaining := 0
          endOfAudioWriteIndex := none } := by
      rw [show q.fadeOutRemaining - frames = 0 from hzero, finishFade, if_pos rfl]
      dsimp only
      rw [show q.endOfAudioWriteIndex = p.endOfAudioWriteIndex from rfl]
      cases hmark : p.endOfAudioWriteIndex with
      | none => rfl
      | some index => rfl
    rw [hfinish]
    refine ⟨⟨⟨h.wellFormed.size, h.wellFormed.writeIndex, hindex⟩, Nat.zero_le _, fun index hmark =>
      ?_⟩,
      rfl, hzero.symm, ?_, rfl, rfl⟩
    · cases hmark
    · rw [hafter, availableAfterFade_of_zero rfl]
  · have hleft : p.fadeOutRemaining - frames ≠ 0 := by omega
    have hfinish : (({ q with
          toRingBuffer := q.seek (q.cell (min frames q.fadeOutRemaining))
          fadeOutRemaining := q.fadeOutRemaining - frames } : PCMPlayer).finishFade) =
        { q with
          toRingBuffer := p.seek (p.cell (min frames p.fadeOutRemaining))
          fadeOutRemaining := p.fadeOutRemaining - frames } := if_neg hleft
    rw [hfinish]
    refine ⟨⟨hwf, ?_, h.mark_lt⟩, rfl, rfl, ?_, rfl, rfl⟩
    · have hle := h.fade_le
      show p.fadeOutRemaining - frames ≤ (p.seek (p.cell (min frames p.fadeOutRemaining))).available
      omega
    · unfold availableAfterFade
      rw [if_pos hfade, if_pos (by show 0 < p.fadeOutRemaining - frames; omega)]
      rfl

/-- A block of a player that waits leaves everything but the statistics counter. -/
theorem process_waits (hfade : p.fadeOutRemaining = 0)
    (hbuffering : p.isBuffering = true) (hshort : p.available < p.targetBuffer) (frames : ℕ) :
    (p.process frames).1 = { p with statsBlockCounter := p.statsBlockCounter + 1 } := by
  unfold process
  rw [if_neg (by show ¬ 0 < p.fadeOutRemaining; omega)]
  dsimp only
  rw [if_pos]
  rw [Bool.and_eq_true, decide_eq_true_iff]
  exact ⟨hbuffering, hshort⟩

/-- While samples are left, a block of playback does not go back to buffering. -/
theorem playFrames_buffering (p : PCMPlayer) (sawUnderrun : Bool) {frames : ℕ}
    (hwf : p.toRingBuffer.WellFormed) (hframes : frames ≤ p.available) :
    (p.playFrames sawUnderrun frames).1.1.isBuffering = p.isBuffering := by
  induction frames generalizing p with
  | zero => rfl
  | succ frames ih =>
    have hne : p.readIndex ≠ p.writeIndex := by
      intro heq
      have hzero := hwf.available_eq_zero_iff.2 heq
      omega
    obtain ⟨hwf', hunread⟩ := hwf.read hne
    have hlength := congrArg List.length hunread
    rw [List.length_cons, length_unread, length_unread] at hlength
    rw [playFrames, if_pos hne]
    exact ih p.playOne hwf' (by show frames ≤ p.advance.available; omega)

/-- What playback leaves unread, and whether it waits afterwards. -/
structure Plays (p : PCMPlayer) (frames : ℕ) (q : PCMPlayer) : Prop where
  sound : q.Sound
  size : q.bufferSize = p.bufferSize
  fade : q.fadeOutRemaining = 0
  available : q.available = p.available - frames
  buffering : frames ≤ p.available → q.isBuffering = false

theorem process_plays (h : p.Sound) (hfade : p.fadeOutRemaining = 0)
    (hplays : p.isBuffering = false ∨ p.targetBuffer ≤ p.available) (frames : ℕ) :
    p.Plays frames (p.process frames).1 := by
  let q : PCMPlayer := { p with statsBlockCounter := p.statsBlockCounter + 1, isBuffering := false }
  let block := q.playFrames false frames
  have hprocess : (p.process frames).1 = (block.1.1.adaptRebuffer block.1.2).emitStats.1 := by
    unfold process
    rw [if_neg (by show ¬ 0 < p.fadeOutRemaining; omega)]
    dsimp only
    rw [if_neg]
    rw [Bool.and_eq_true, decide_eq_true_iff, not_and]
    intro hbuffering hshort
    rcases hplays with hplays | hplays
    · exact absurd (hplays.symm.trans hbuffering) Bool.false_ne_true
    · exact absurd hshort (Nat.not_lt.2 hplays)
  have hkeeps : ∀ r : PCMPlayer, (r.adaptRebuffer block.1.2).emitStats.1.toRingBuffer =
    r.toRingBuffer ∧
      (r.adaptRebuffer block.1.2).emitStats.1.fadeOutRemaining = r.fadeOutRemaining ∧
      (r.adaptRebuffer block.1.2).emitStats.1.endOfAudioWriteIndex = r.endOfAudioWriteIndex ∧
      (r.adaptRebuffer block.1.2).emitStats.1.isBuffering = r.isBuffering := by
    intro r
    unfold emitStats adaptRebuffer
    refine ⟨?_, ?_, ?_, ?_⟩
    all_goals
      dsimp only
      repeat' split
      all_goals rfl
  obtain ⟨⟨hring, hfade', hmark⟩, -⟩ := playFrames_eq (p := q) h.wellFormed false frames
  obtain ⟨hringKept, hfadeKept, hmarkKept, hbufferingKept⟩ := hkeeps block.1.1
  obtain ⟨hwf, hunread⟩ := h.wellFormed.seek_cell (min_le_right frames p.available)
  have hlength := congrArg List.length hunread
  rw [length_unread, List.length_drop, length_unread] at hlength
  have havailable : (p.process frames).1.available = p.available - frames := by
    rw [hprocess, hringKept, hring]
    show (p.seek (p.cell (min frames p.available))).available = _
    omega
  have hzero : (p.process frames).1.fadeOutRemaining = 0 := by
    rw [hprocess, hfadeKept, hfade']
    exact hfade
  refine ⟨⟨?_, ?_, ?_⟩, ?_, hzero, havailable, fun hframes => ?_⟩
  · rw [hprocess, hringKept, hring]
    exact hwf
  · rw [hzero]
    exact Nat.zero_le _
  · intro index hindex
    rw [hprocess, hmarkKept, hmark] at hindex
    rw [hprocess, hringKept, hring]
    exact h.mark_lt index hindex
  · rw [hprocess, hringKept, hring]
    rfl
  · rw [hprocess, hbufferingKept]
    exact playFrames_buffering q false h.wellFormed hframes

theorem waits_or_plays (p : PCMPlayer) : (p.isBuffering = true ∧ p.available < p.targetBuffer) ∨
    (p.isBuffering = false ∨ p.targetBuffer ≤ p.available) := by
  cases p.isBuffering with
  | false => exact .inr (.inl rfl)
  | true =>
    rcases Nat.lt_or_ge p.available p.targetBuffer with hshort | hlong
    · exact .inl ⟨rfl, hshort⟩
    · exact .inr (.inr hlong)

/-- **A block** decides nothing: the player drains after it exactly if it drains before it. -/
theorem process_drains (h : p.Sound) (frames : ℕ) :
    (p.process frames).1.Sound ∧ (p.process frames).1.bufferSize = p.bufferSize ∧
      ((p.process frames).1.Drains ↔ p.Drains) := by
  rcases Nat.eq_zero_or_pos p.fadeOutRemaining with hfade | hfade
  · rcases p.waits_or_plays with ⟨hbuffering, hshort⟩ | hplays
    · rw [process_waits hfade hbuffering hshort]
      exact ⟨⟨h.wellFormed, h.fade_le, h.mark_lt⟩, rfl, Iff.rfl⟩
    · obtain ⟨hsound, hsize, hfade', havailable, hbuffering⟩ := process_plays h hfade hplays frames
      refine ⟨hsound, hsize, iff_of_true ?_ ?_⟩
      · unfold Drains
        rw [availableAfterFade_of_zero hfade', havailable]
        rcases Nat.le_total frames p.available with hframes | hframes
        · exact .inr (.inl (hbuffering hframes))
        · exact .inl (Nat.sub_eq_zero_of_le hframes)
      · unfold Drains
        rw [availableAfterFade_of_zero hfade]
        exact .inr hplays
  · obtain ⟨hsound, hsize, -, hafter, hbuffering, htarget⟩ := process_fades h hfade frames
    refine ⟨hsound, hsize, ?_⟩
    unfold Drains
    rw [hafter, hbuffering, htarget]

/-! ## Messages -/

theorem onmessage_sound (h : p.Sound) (message : PlayerMessage) :
    (p.onmessage message).Sound := by
  by_cases hend : message = .endOfAudio
  · subst hend
    show p.endOfAudio.Sound
    unfold endOfAudio
    by_cases havailable : 0 < p.available
    · rw [if_pos havailable]
      refine ⟨h.wellFormed, min_le_right _ _, fun index hindex => ?_⟩
      rw [← Option.some.inj hindex]
      exact h.wellFormed.writeIndex
    · rw [if_neg havailable]
      have hfade := h.fade_le
      refine ⟨⟨h.wellFormed.size, h.wellFormed.writeIndex, h.wellFormed.writeIndex⟩, ?_,
        fun index hindex => ?_⟩
      · show p.fadeOutRemaining ≤ _
        omega
      · cases hindex
  · obtain ⟨emit, hmessage⟩ := onmessage_eq p hend
    have hpush : ∀ (samples : List ℤ) (r : RingBuffer ℚ), r.WellFormed →
        (samples.foldl (fun r sample => r.push (floatOfInt16 sample)) r).WellFormed ∧
          r.available ≤ (samples.foldl (fun r sample => r.push (floatOfInt16 sample)) r).available ∧
          (samples.foldl (fun r sample => r.push (floatOfInt16 sample)) r).bufferSize =
          r.bufferSize := by
      intro samples
      induction samples with
      | nil => exact fun r hr => ⟨hr, le_rfl, rfl⟩
      | cons sample samples ih =>
        intro r hr
        obtain ⟨hwf, hle⟩ := hr.le_push (floatOfInt16 sample)
        obtain ⟨hwf', hle', hsize⟩ := ih _ hwf
        exact ⟨hwf', hle.trans hle', hsize⟩
    obtain ⟨hwf, hle, hsize⟩ := hpush message.int16Samples p.toRingBuffer h.wellFormed
    rw [hmessage]
    refine ⟨hwf, h.fade_le.trans hle, fun index hindex => ?_⟩
    show index < (message.int16Samples.foldl _ p.toRingBuffer).bufferSize
    rw [hsize]
    exact h.mark_lt index hindex

end PCMPlayer

variable {p : PCMPlayer}

theorem sound_run (h : p.Sound) (es : List PlayerEvent) :
    (pcmPlayer.run p es).Sound := by
  induction es generalizing p with
  | nil => exact h
  | cons e es ih =>
    rw [EventMachine.run_cons]
    refine ih ?_
    cases e with
    | message message => exact PCMPlayer.onmessage_sound h message
    | process frames => exact (PCMPlayer.process_drains h frames).1

theorem sound_start {bufferSize : ℕ} (hsize : 2 ≤ bufferSize) (emit : Bool) :
    (PCMPlayer.start bufferSize emit).Sound where
  wellFormed :=
    ⟨hsize, Nat.lt_of_lt_of_le Nat.zero_lt_two hsize, Nat.lt_of_lt_of_le Nat.zero_lt_two hsize⟩
  fade_le := Nat.zero_le _
  mark_lt := fun _ h => by cases h

/-! ## Further blocks -/

/-- The first `n` of further blocks, with no message between them. -/
def blocks (frames : ℕ → ℕ) (n : ℕ) : List PlayerEvent :=
  (List.range n).map (fun i => .process (frames i))

theorem run_blocks_succ (p : PCMPlayer) (frames : ℕ → ℕ) (n : ℕ) :
    pcmPlayer.run p (blocks frames (n + 1)) =
      pcmPlayer.run (p.process (frames 0)).1 (blocks (fun i => frames (i + 1)) n) := by
  rw [blocks, List.range_succ_eq_map, List.map_cons, List.map_map, EventMachine.run_cons]
  rfl

/-- A player without unread samples drains. -/
theorem drains_of_empty (h : p.Sound) (hempty : p.available = 0) : p.Drains := by
  have hfade : p.fadeOutRemaining = 0 := Nat.eq_zero_of_le_zero (hempty ▸ h.fade_le)
  exact .inl ((PCMPlayer.availableAfterFade_of_zero hfade).trans hempty)

theorem run_blocks_drains (h : p.Sound) (frames : ℕ → ℕ) (n : ℕ) :
    (pcmPlayer.run p (blocks frames n)).Sound ∧ ((pcmPlayer.run p (blocks frames n)).Drains ↔
      p.Drains) := by
  induction n generalizing p frames with
  | zero => exact ⟨h, Iff.rfl⟩
  | succ n ih =>
    obtain ⟨hsound, -, hdrains⟩ := PCMPlayer.process_drains h (frames 0)
    rw [run_blocks_succ]
    obtain ⟨hsound', hdrains'⟩ := ih hsound (fun i => frames (i + 1))
    exact ⟨hsound', hdrains'.trans hdrains⟩

/-- A player that drains is empty after some blocks: each of them shortens the fade, or what is
    unread. -/
theorem exists_empty (h : p.Sound) (hdrains : p.Drains) {frames : ℕ → ℕ}
    (hframes : ∀ i, 0 < frames i) : ∃ n, (pcmPlayer.run p (blocks frames n)).available = 0 := by
  generalize hmeasure : p.fadeOutRemaining * p.bufferSize + p.available = m
  induction m using Nat.strong_induction_on generalizing p frames with
  | _ m ih =>
    rcases Nat.eq_zero_or_pos p.available with hempty | havailable
    · exact ⟨0, hempty⟩
    · obtain ⟨hsound, hsize, hiff⟩ := PCMPlayer.process_drains h (frames 0)
      have hless : (p.process (frames 0)).1.fadeOutRemaining * (p.process (frames 0)).1.bufferSize +
          (p.process (frames 0)).1.available < m := by
        have hpos := hframes 0
        rcases Nat.eq_zero_or_pos p.fadeOutRemaining with hfade | hfade
        · have hplays : p.isBuffering = false ∨ p.targetBuffer ≤ p.available := by
            have hafter := PCMPlayer.availableAfterFade_of_zero hfade
            unfold PCMPlayer.Drains at hdrains
            rw [hafter] at hdrains
            exact hdrains.resolve_left (Nat.ne_of_gt havailable)
          obtain ⟨-, -, hfade', havailable', -⟩ := PCMPlayer.process_plays h hfade hplays (frames 0)
          rw [hfade', havailable', Nat.zero_mul]
          omega
        · obtain ⟨hsound', hsize', hfade', -, -, -⟩ := PCMPlayer.process_fades h hfade (frames 0)
          have hlt := hsound'.wellFormed.available_lt
          have hmul : ((p.process (frames 0)).1.fadeOutRemaining + 1) * p.bufferSize ≤
              p.fadeOutRemaining * p.bufferSize := Nat.mul_le_mul_right _ (by omega)
          rw [Nat.add_mul, Nat.one_mul] at hmul
          rw [hsize'] at hlt ⊢
          omega
      have hrest : ∀ i, 0 < (fun i => frames (i + 1)) i := fun i => hframes (i + 1)
      obtain ⟨n, hn⟩ := ih _ hless hsound (hiff.2 hdrains) hrest rfl
      exact ⟨n + 1, by rw [run_blocks_succ]; exact hn⟩

theorem empty_iff_drains (h : p.Sound) {frames : ℕ → ℕ}
    (hframes : ∀ i, 0 < frames i) : (∃ n, (pcmPlayer.run p (blocks frames n)).available = 0) ↔
    p.Drains := by
  refine ⟨fun ⟨n, hn⟩ => ?_, fun hdrains => exists_empty h hdrains hframes⟩
  obtain ⟨hsound, hiff⟩ := run_blocks_drains h frames n
  exact hiff.1 (drains_of_empty hsound hn)

/-- **When the player drains**: from a state that any messages and blocks lead to, finitely many
    further blocks leave nothing unread exactly if, once its fade is complete, nothing is left, or
    the player does not wait for audio, or it has as much as it waits for. -/
theorem pcmPlayer_empty_iff {bufferSize : ℕ} (hsize : 2 ≤ bufferSize) (emit : Bool)
    (es : List PlayerEvent) {frames : ℕ → ℕ} (hframes : ∀ i, 0 < frames i) :
    (∃ n, (pcmPlayer.run (pcmPlayer.run (.start bufferSize emit) es) (blocks frames n)).available =
      0) ↔ (pcmPlayer.run (.start bufferSize emit) es).Drains :=
  empty_iff_drains (sound_run (sound_start hsize emit) es) hframes

/-- What is unread at an `endOfAudio` fades out and is dropped. -/
theorem pcmPlayer_empty_iff_ended :
    ∃ n, (pcmPlayer.run (pcmPlayer.run (.start 4320000 false)
      [.message (.int16Array [1, 2]), .message .endOfAudio])
      (blocks (fun _ => 128) n)).available = 0 := by
  refine (pcmPlayer_empty_iff (by decide) false _ (fun _ => by decide)).2 (.inl ?_)
  decide +kernel

/-- A short last chunk is never played. -/
theorem shortChunk_stays :
    ¬∃ n, (pcmPlayer.run (pcmPlayer.run (.start 4320000 false) [.message (.int16Array [1, 2])])
      (blocks (fun _ => 128) n)).available = 0 := by
  rw [empty_iff_drains (sound_run (sound_start (by decide) false) _) (fun _ => by decide)]
  unfold PCMPlayer.Drains
  decide +kernel

end Ekaette
