import Mathlib.Data.Rat.Defs
import Ekaette.Lib.EventMachine
import Ekaette.Lib.RingBuffer

set_option autoImplicit false

/-! # The PCM player

`PCMPlayerProcessor` (`src/frontend/public/pcm-player-processor.js`) plays the chunks posted to its
port through a ring buffer, one block of frames for each call of `process`. The buffer size is a
parameter.

Samples are exact rationals (a 16-bit sample over 32768 is a float). What a block writes to its
first channel is a list of frames; a second channel gets the same frames. -/

namespace Ekaette

/-- What is posted to the port of the player. -/
inductive PlayerMessage where
  | enablePlaybackStats (enabled : Bool)
  | endOfAudio
  | int16Array (samples : List ℤ)
  | arrayBuffer (bytes : List UInt8)
  | view (bytes : List UInt8) (byteOffset : ℕ)
  | other
  deriving DecidableEq

/-- A 16-bit sample, low byte first. -/
def int16OfBytes (low high : UInt8) : ℤ :=
  let v : ℤ := low.toNat + 256 * high.toNat
  if v < 32768 then v else v - 65536

/-- The samples of a byte buffer. -/
def int16Samples : List UInt8 → List ℤ
  | low :: high :: bytes => int16OfBytes low high :: int16Samples bytes
  | _ => []

/-- The samples a message enqueues; a buffer of odd length or at an odd offset is dropped. -/
def PlayerMessage.int16Samples : PlayerMessage → List ℤ
  | .int16Array samples => samples
  | .arrayBuffer bytes =>
    if bytes.length < 2 || bytes.length % 2 ≠ 0 then [] else Ekaette.int16Samples bytes
  | .view bytes byteOffset =>
    if bytes.length < 2 || bytes.length % 2 ≠ 0 || byteOffset % 2 ≠ 0 then []
    else Ekaette.int16Samples bytes
  | _ => []

/-- `int16 / 32768` -/
def floatOfInt16 (sample : ℤ) : ℚ := sample / 32768

/-- One frame of the output: silence, a sample, or a sample with the gain
    `fadeOutRemaining / fadeOutLength`. -/
inductive Frame where
  | silence
  | sample (value : ℚ)
  | faded (value : ℚ) (fadeOutRemaining : ℕ)
  deriving DecidableEq

/-- The message the player posts about its buffer. -/
structure PlaybackStats where
  availableSamples : ℕ
  isBuffering : Bool
  startupPrebufferSamples : ℕ
  currentRebufferSamples : ℕ
  underrunCount : ℕ
  deriving DecidableEq

/-- The state of the processor. -/
structure PCMPlayer extends RingBuffer ℚ where
  currentRebufferSamples : ℕ
  isBuffering : Bool
  hasPlayedAudio : Bool
  underrunCount : ℕ
  blocksSinceLastUnderrun : ℕ
  statsBlockCounter : ℕ
  emitPlaybackStats : Bool
  fadeOutRemaining : ℕ
  endOfAudioWriteIndex : Option ℕ

/-! ## Constants -/

/-- 120 ms at 24 kHz -/
def startupPrebufferSamples : ℕ := 2880

/-- 45 ms -/
def rebufferSamples : ℕ := 1080

/-- 120 ms -/
def maxRebufferSamples : ℕ := 2880

/-- 10 ms -/
def fadeOutLength : ℕ := 240

def statsEveryBlocks : ℕ := 16

namespace PCMPlayer

/-- The constructor. -/
def start (bufferSize : ℕ) (emitPlaybackStats : Bool) : PCMPlayer where
  bufferSize := bufferSize
  buffer := fun _ => 0
  writeIndex := 0
  readIndex := 0
  currentRebufferSamples := rebufferSamples
  isBuffering := true
  hasPlayedAudio := false
  underrunCount := 0
  blocksSinceLastUnderrun := 0
  statsBlockCounter := 0
  emitPlaybackStats := emitPlaybackStats
  fadeOutRemaining := 0
  endOfAudioWriteIndex := none

/-- `_enqueue` -/
def enqueue (p : PCMPlayer) (samples : List ℤ) : PCMPlayer :=
  { p with
    toRingBuffer := samples.foldl (fun r sample => r.push (floatOfInt16 sample)) p.toRingBuffer }

/-- The `endOfAudio` command: what is unread fades out, or nothing is unread. -/
def endOfAudio (p : PCMPlayer) : PCMPlayer :=
  let p :=
    if 0 < p.available then
      { p with
        endOfAudioWriteIndex := some p.writeIndex
        fadeOutRemaining := min fadeOutLength p.available }
    else { p with readIndex := p.writeIndex, endOfAudioWriteIndex := none }
  { p with isBuffering := true, hasPlayedAudio := false, currentRebufferSamples := rebufferSamples }

/-- `port.onmessage` -/
def onmessage (p : PCMPlayer) : PlayerMessage → PCMPlayer
  | .enablePlaybackStats enabled => { p with emitPlaybackStats := enabled }
  | .endOfAudio => p.endOfAudio
  | message =>
    if message.int16Samples = [] then p else p.enqueue message.int16Samples

/-- A frame of the fade is played. -/
def fadeOne (p : PCMPlayer) : PCMPlayer :=
  { p with toRingBuffer := p.advance, fadeOutRemaining := p.fadeOutRemaining - 1 }

/-- The frames of a block in the fade-out phase. -/
def fadeFrames (p : PCMPlayer) : ℕ → PCMPlayer × List Frame
  | 0 => (p, [])
  | frames + 1 =>
    if 0 < p.fadeOutRemaining && p.readIndex ≠ p.writeIndex then
      ((p.fadeOne.fadeFrames frames).1,
        .faded p.front p.fadeOutRemaining :: (p.fadeOne.fadeFrames frames).2)
    else ((p.fadeFrames frames).1, .silence :: (p.fadeFrames frames).2)

/-- The end of a block in the fade-out phase: once the fade is complete, the audio queued before
    `endOfAudio` is discarded. -/
def finishFade (p : PCMPlayer) : PCMPlayer :=
  if p.fadeOutRemaining = 0 then
    match p.endOfAudioWriteIndex with
    | some index => { p with readIndex := index, endOfAudioWriteIndex := none }
    | none => { p with readIndex := p.writeIndex }
  else p

/-- A frame is played. -/
def playOne (p : PCMPlayer) : PCMPlayer :=
  { p with toRingBuffer := p.advance, hasPlayedAudio := true }

/-- Nothing is left to play. -/
def underrun (p : PCMPlayer) : PCMPlayer := { p with isBuffering := true, hasPlayedAudio := true }

/-- The frames of a block in normal playback, and whether the buffer ran empty. -/
def playFrames (p : PCMPlayer) (sawUnderrun : Bool) : ℕ → (PCMPlayer × Bool) × List Frame
  | 0 => ((p, sawUnderrun), [])
  | frames + 1 =>
    if p.readIndex ≠ p.writeIndex then
      ((p.playOne.playFrames sawUnderrun frames).1,
        .sample p.front :: (p.playOne.playFrames sawUnderrun frames).2)
    else ((p.underrun.playFrames true frames).1, .silence :: (p.underrun.playFrames true frames).2)

/-- The re-buffer threshold grows with each underrun and shrinks after 80 blocks without one. -/
def adaptRebuffer (p : PCMPlayer) (sawUnderrun : Bool) : PCMPlayer :=
  if sawUnderrun then
    { p with
      underrunCount := p.underrunCount + 1
      blocksSinceLastUnderrun := 0
      currentRebufferSamples :=
        min maxRebufferSamples (max p.currentRebufferSamples rebufferSamples + 240) }
  else
    let blocks := p.blocksSinceLastUnderrun + 1
    if 80 ≤ blocks && rebufferSamples < p.currentRebufferSamples then
      { p with
        currentRebufferSamples := max rebufferSamples (p.currentRebufferSamples - 120)
        blocksSinceLastUnderrun := 0 }
    else { p with blocksSinceLastUnderrun := blocks }

/-- `_emitStats`, every 16 blocks. -/
def emitStats (p : PCMPlayer) : PCMPlayer × Option PlaybackStats :=
  if statsEveryBlocks ≤ p.statsBlockCounter then
    ({ p with statsBlockCounter := 0 },
      if p.emitPlaybackStats then
        some ⟨p.available, p.isBuffering, startupPrebufferSamples, p.currentRebufferSamples,
          p.underrunCount⟩
      else none)
  else (p, none)

/-- The threshold of the pre-buffering phase. -/
def targetBuffer (p : PCMPlayer) : ℕ :=
  if p.hasPlayedAudio then p.currentRebufferSamples else startupPrebufferSamples

/-- `process`, for a block of `frames` frames. -/
def process (p : PCMPlayer) (frames : ℕ) : PCMPlayer × List Frame × Option PlaybackStats :=
  let p := { p with statsBlockCounter := p.statsBlockCounter + 1 }
  if 0 < p.fadeOutRemaining then
    let block := p.fadeFrames frames
    (block.1.finishFade, block.2, none)
  else if p.isBuffering && p.available < p.targetBuffer then
    (p, List.replicate frames .silence, none)
  else
    let block := { p with isBuffering := false }.playFrames false frames
    let stats := (block.1.1.adaptRebuffer block.1.2).emitStats
    (stats.1, block.2, stats.2)

end PCMPlayer

/-- A message arrives at the port, or a block is due. -/
inductive PlayerEvent where
  | message (message : PlayerMessage)
  | process (frames : ℕ)
  deriving DecidableEq

/-- The player, one event at a time; it answers with the frames it wrote and the statistics it
    posted. -/
def pcmPlayer : EventMachine PCMPlayer PlayerEvent (List Frame × Option PlaybackStats) where
  step p e := match e with
    | .message message => (p.onmessage message, [], none)
    | .process frames => p.process frames

end Ekaette
