import Ekaette.Lib.Batches
import Ekaette.Lib.Debounce
import Ekaette.Sip.Resamplers

set_option autoImplicit false

/-! # The PCM recorder

`PCMProcessor` (`src/frontend/public/pcm-recorder-processor.js`) takes the blocks of the microphone,
filters them, posts them as PCM16 in chunks of 512 samples, and posts when speech starts and ends.

It calculates with floats; their arithmetic is a parameter, and what is shown holds for every
arithmetic. The frames of the speech detector are counted with `Debounce`, the chunks are filled
with `Batches`. -/

namespace Ekaette

open Resamplers

/-- The arithmetic of the numbers of the script. -/
structure Arithmetic (F : Type) where
  /-- a literal -/
  ofRat : ℚ → F
  pi : F
  add : F → F → F
  sub : F → F → F
  mul : F → F → F
  div : F → F → F
  min : F → F → F
  max : F → F → F
  abs : F → F
  sqrt : F → F
  lt : F → F → Bool
  le : F → F → Bool
  eq : F → F → Bool
  /-- `Math.trunc`, and zero for what is no number -/
  trunc : F → ℤ

/-- What the processor posts when speech starts or ends. -/
inductive SpeechState where
  | speechStart
  | speechEnd
  deriving DecidableEq

/-- What the processor posts to its port. -/
inductive RecorderMessage (F : Type) where
  | pcm (bytes : Pcm)
  | vad (state : SpeechState) (rms vadLevel : F)

/-- `processorOptions`; a number is there where it is finite. -/
structure RecorderOptions (F : Type) where
  denoiseEnabled : Option Bool
  noiseGateFloor : Option F
  noiseGateMultiplier : Option F
  noiseGateResidualGain : Option F
  highPassCutoffHz : Option F

/-- The filters. -/
structure Denoiser (F : Type) where
  denoiseEnabled : Bool
  noiseGateFloor : F
  noiseGateMultiplier : F
  noiseGateResidualGain : F
  noiseFloorEma : F
  highPassEnabled : Bool
  highPassAlpha : F
  highPassPrevInput : F
  highPassPrevOutput : F

/-- The speech detector. -/
structure SpeechDetector (F : Type) where
  isSpeaking : Bool
  rmsEma : F
  speechFrames : ℕ
  speakingFrames : ℕ
  silenceFrames : ℕ
  cooldownFrames : ℕ

/-- The state of the processor; `pcm` is what is written to its buffer. -/
structure PCMRecorder (F : Type) extends Denoiser F, SpeechDetector F where
  pcm : List Sample

/-! ## Constants -/

/-- 32 ms at 16 kHz -/
def chunkSize : ℕ := 512

def vadStartThreshold : ℚ := 14 / 1000

def vadEndThreshold : ℚ := 85 / 10000

def speechFramesForStart : ℕ := 8

def silenceFramesForEnd : ℕ := 48

def minSpeakingFramesBeforeEnd : ℕ := 16

def cooldownFramesAfterEnd : ℕ := 12

/-- `DataView.setInt16`: the value modulo 2^16. -/
def setInt16 (v : ℤ) : Sample :=
  ⟨v.bmod 65536, by have := @Int.le_bmod v 65536 (by decide); omega,
    by have := @Int.bmod_lt v 65536 (by decide); omega⟩

section

variable {F : Type} (a : Arithmetic F)

/-! ## The filters -/

/-- The filters of the constructor. -/
def Denoiser.create (options : RecorderOptions F) (sampleRate : F) : Denoiser F :=
  let denoiseEnabled := options.denoiseEnabled != some false
  let noiseGateFloor :=
    options.noiseGateFloor.elim (a.ofRat (22 / 10000)) (a.max (a.ofRat (5 / 10000)))
  let highPassCutoffHz := options.highPassCutoffHz.elim (a.ofRat 85)
    fun hz => a.min (a.max hz (a.ofRat 20)) (a.ofRat 300)
  let dt := a.div (a.ofRat 1) sampleRate
  let rc := a.div (a.ofRat 1) (a.mul (a.mul (a.ofRat 2) a.pi) highPassCutoffHz)
  { denoiseEnabled := denoiseEnabled
    noiseGateFloor := noiseGateFloor
    noiseGateMultiplier := options.noiseGateMultiplier.elim (a.ofRat (18 / 10)) (a.max (a.ofRat 1))
    noiseGateResidualGain := options.noiseGateResidualGain.elim (a.ofRat (16 / 100))
      fun gain => a.min (a.max gain (a.ofRat 0)) (a.ofRat 1)
    noiseFloorEma := noiseGateFloor
    highPassEnabled := denoiseEnabled && a.lt (a.ofRat 0) highPassCutoffHz
    highPassAlpha := a.div rc (a.add rc dt)
    highPassPrevInput := a.ofRat 0
    highPassPrevOutput := a.ofRat 0 }

/-- A sample within `[-1, 1]`. -/
def clampSample (x : F) : F := a.max (a.ofRat (-1)) (a.min (a.ofRat 1) x)

/-- `Math.sqrt(energy / length)` -/
def rmsOf (energy : F) (length : ℕ) : F := a.sqrt (a.div energy (a.ofRat length))

/-- The energy of a channel before it is filtered. -/
def rawEnergy (inputChannel : List F) : F :=
  inputChannel.foldl (fun energy x => a.add energy (a.mul (clampSample a x) (clampSample a x)))
    (a.ofRat 0)

namespace Denoiser

variable (d : Denoiser F)

/-- The noise floor follows a block that is no speech. -/
def trackNoise (likelySpeech : Bool) (rawRms : F) : Denoiser F :=
  if d.denoiseEnabled && !likelySpeech then
    { d with
      noiseFloorEma :=
        a.add (a.mul d.noiseFloorEma (a.ofRat (985 / 1000))) (a.mul rawRms (a.ofRat (15 / 1000))) }
  else d

/-- `adaptiveGateThreshold` -/
def adaptiveGateThreshold : F :=
  a.max d.noiseGateFloor (a.mul d.noiseFloorEma d.noiseGateMultiplier)

/-- The high-pass filter. -/
def highPass (sample : F) : Denoiser F × F :=
  if d.highPassEnabled then
    let processed :=
      a.mul d.highPassAlpha (a.sub (a.add d.highPassPrevOutput sample) d.highPassPrevInput)
    ({ d with highPassPrevInput := sample, highPassPrevOutput := processed }, processed)
  else (d, sample)

/-- The noise gate. -/
def gate (likelySpeech : Bool) (threshold processed : F) : F :=
  if d.denoiseEnabled && !likelySpeech then
    let amplitude := a.abs processed
    if a.lt amplitude threshold then
      let normalized := if a.lt (a.ofRat 0) threshold then a.div amplitude threshold else a.ofRat 1
      a.mul processed
        (a.add d.noiseGateResidualGain
          (a.mul (a.mul (a.sub (a.ofRat 1) d.noiseGateResidualGain) normalized) normalized))
    else processed
  else processed

/-- A sample through the filters. -/
def processSample (likelySpeech : Bool) (threshold x : F) : Denoiser F × F :=
  let (d, processed) := d.highPass a (clampSample a x)
  (d, d.gate a likelySpeech threshold processed)

end Denoiser

/-- A filtered sample as PCM16. -/
def encodeSample (processed : F) : Sample :=
  let intSample := if a.lt processed (a.ofRat 0) then a.mul processed (a.ofRat 0x8000)
    else a.mul processed (a.ofRat 0x7fff)
  setInt16 (a.trunc (a.max (a.ofRat (-32768)) (a.min (a.ofRat 32767) intSample)))

/-! ## The speech detector -/

/-- The detector of the constructor. -/
def SpeechDetector.create : SpeechDetector F where
  isSpeaking := false
  rmsEma := a.ofRat 0
  speechFrames := 0
  speakingFrames := 0
  silenceFrames := 0
  cooldownFrames := 0

namespace SpeechDetector

variable (v : SpeechDetector F)

/-- The level follows the block. -/
def trackLevel (rms : F) : SpeechDetector F :=
  { v with
    rmsEma :=
      if a.eq v.rmsEma (a.ofRat 0) then rms
      else a.add (a.mul v.rmsEma (a.ofRat (8 / 10))) (a.mul rms (a.ofRat (2 / 10))) }

/-- `if (this.cooldownFrames > 0) this.cooldownFrames -= 1` -/
def coolDown : SpeechDetector F :=
  if 0 < v.cooldownFrames then { v with cooldownFrames := v.cooldownFrames - 1 } else v

/-- A block while nobody speaks. -/
def hearSilence : SpeechDetector F × Option SpeechState :=
  if a.le (a.ofRat vadStartThreshold) v.rmsEma && v.cooldownFrames = 0 then
    let v := { v with speechFrames := v.speechFrames + 1 }
    if speechFramesForStart ≤ v.speechFrames then
      ({ v with isSpeaking := true, speakingFrames := 0, silenceFrames := 0 }, some .speechStart)
    else (v, none)
  else ({ v with speechFrames := 0 }, none)

/-- A block while somebody speaks. -/
def hearSpeech : SpeechDetector F × Option SpeechState :=
  let v := { v with speakingFrames := v.speakingFrames + 1 }
  let v := { v with
    silenceFrames := if a.le v.rmsEma (a.ofRat vadEndThreshold) then v.silenceFrames + 1 else 0 }
  if minSpeakingFramesBeforeEnd ≤ v.speakingFrames && silenceFramesForEnd ≤ v.silenceFrames then
    ({ v with
        isSpeaking := false
        speechFrames := 0
        speakingFrames := 0
        silenceFrames := 0
        cooldownFrames := cooldownFramesAfterEnd }, some .speechEnd)
  else (v, none)

/-- The detector hears a block. -/
def hear (rms : F) : SpeechDetector F × Option SpeechState :=
  let v := (v.trackLevel a rms).coolDown
  if v.isSpeaking then v.hearSpeech a else v.hearSilence a

end SpeechDetector

/-! ## The processor -/

/-- The first channel of the first input, where there is one. -/
def inputChannel? (inputs : List (List (List F))) : Option (List F) := inputs.head?.bind List.head?

namespace PCMRecorder

/-- The constructor. -/
def create (options : RecorderOptions F) (sampleRate : F) : PCMRecorder F where
  toDenoiser := Denoiser.create a options sampleRate
  toSpeechDetector := SpeechDetector.create a
  pcm := []

variable (p : PCMRecorder F)

/-- Write a sample; a full chunk is posted. -/
def writeSample (encoded : Sample) : PCMRecorder F × List (RecorderMessage F) :=
  let (pcm, full) := Batches.write chunkSize p.pcm encoded
  ({ p with pcm := pcm }, full.map fun chunk => .pcm (pcmOf chunk))

/-- The loop over the samples of a block: the energy of what the filters leave, and the chunks
    posted. -/
def processSamples (likelySpeech : Bool) (threshold : F) (p : PCMRecorder F) (energy : F) :
    List F → (PCMRecorder F × F) × List (RecorderMessage F)
  | [] => ((p, energy), [])
  | x :: xs =>
    let (d, processed) := p.toDenoiser.processSample a likelySpeech threshold x
    let (p, posted) := { p with toDenoiser := d }.writeSample (encodeSample a processed)
    let (result, later) :=
      processSamples likelySpeech threshold p (a.add energy (a.mul processed processed)) xs
    (result, posted ++ later)

/-- `rawRms >= this.vadStartThreshold * 0.75` of a block, or somebody speaks. -/
def likelySpeech (rawRms : F) : Bool :=
  p.isSpeaking || a.le (a.mul (a.ofRat vadStartThreshold) (a.ofRat (75 / 100))) rawRms

/-- `process` of the first channel of the first input. -/
def processChannel (inputChannel : List F) :
    PCMRecorder F × List (RecorderMessage F) :=
  let rawRms := rmsOf a (rawEnergy a inputChannel) inputChannel.length
  let likely := p.likelySpeech a rawRms
  let p := { p with toDenoiser := p.toDenoiser.trackNoise a likely rawRms }
  let threshold := p.toDenoiser.adaptiveGateThreshold a
  let ((p, energy), posted) := processSamples a likely threshold p (a.ofRat 0) inputChannel
  let rms := rmsOf a energy inputChannel.length
  let (v, heard) := p.toSpeechDetector.hear a rms
  ({ p with toSpeechDetector := v },
    posted ++ (heard.map fun state => .vad state rms v.rmsEma).toList)

/-- `process` -/
def process (inputs : List (List (List F))) :
    PCMRecorder F × List (RecorderMessage F) :=
  (inputChannel? inputs).elim (p, []) (p.processChannel a)

end PCMRecorder

/-- A call of `process` in a log. -/
abbrev RecorderEntry (F : Type) :=
  EventMachine.Entry (PCMRecorder F) (List (List (List F))) (List (RecorderMessage F))

/-- The processor, one call of `process` after the other. -/
def pcmRecorder :
    EventMachine (PCMRecorder F) (List (List (List F))) (List (RecorderMessage F)) where
  step p inputs := p.process a inputs

/-! ## The chunks -/

/-- The samples of a block, filtered and encoded. -/
def Denoiser.codes (likelySpeech : Bool) (threshold : F) (d : Denoiser F) : List F → List Sample
  | [] => []
  | x :: xs =>
    let (d, processed) := d.processSample a likelySpeech threshold x
    encodeSample a processed :: d.codes likelySpeech threshold xs

/-- What the processor makes of the samples of a call. -/
def PCMRecorder.codes (p : PCMRecorder F) (inputs : List (List (List F))) : List Sample :=
  (inputChannel? inputs).elim [] fun inputChannel =>
    let rawRms := rmsOf a (rawEnergy a inputChannel) inputChannel.length
    let likely := p.likelySpeech a rawRms
    let d := p.toDenoiser.trackNoise a likely rawRms
    d.codes a likely (d.adaptiveGateThreshold a) inputChannel

/-- The bytes of a chunk. -/
def RecorderMessage.chunk? : RecorderMessage F → Option Pcm
  | .pcm bytes => some bytes
  | .vad .. => none

/-- The state in which a message says speech is. -/
def RecorderMessage.speech? : RecorderMessage F → Option SpeechState
  | .pcm _ => none
  | .vad state .. => some state

/-- What the loop over the samples leaves: the filters' switches and the detector are as before, and
    the codes of the samples are written. -/
structure PCMRecorder.Wrote (codes : List Sample) (p q : PCMRecorder F)
    (posted : List (RecorderMessage F)) : Prop where
  denoiseEnabled : q.denoiseEnabled = p.denoiseEnabled
  highPassEnabled : q.highPassEnabled = p.highPassEnabled
  toSpeechDetector : q.toSpeechDetector = p.toSpeechDetector
  pcm : q.pcm = (Batches.writeAll chunkSize p.pcm codes).1
  posted : posted = (Batches.writeAll chunkSize p.pcm codes).2.map fun chunk => .pcm (pcmOf chunk)

theorem Denoiser.processSample_switches (d : Denoiser F) (likelySpeech : Bool) (threshold x : F) :
    (d.processSample a likelySpeech threshold x).1.denoiseEnabled = d.denoiseEnabled ∧
      (d.processSample a likelySpeech threshold x).1.highPassEnabled = d.highPassEnabled := by
  simp only [processSample, highPass]
  split_ifs
  · exact ⟨rfl, rfl⟩
  · exact ⟨rfl, rfl⟩

theorem PCMRecorder.processSamples_wrote (likelySpeech : Bool) (threshold : F) (p : PCMRecorder F)
    (energy : F) (xs : List F) :
    Wrote (p.toDenoiser.codes a likelySpeech threshold xs) p
      (processSamples a likelySpeech threshold p energy xs).1.1
      (processSamples a likelySpeech threshold p energy xs).2 := by
  induction xs generalizing p energy with
  | nil => exact ⟨rfl, rfl, rfl, rfl, rfl⟩
  | cons x xs ih =>
    let r := p.toDenoiser.processSample a likelySpeech threshold x
    obtain ⟨hdenoise, hhighPass⟩ := p.toDenoiser.processSample_switches a likelySpeech threshold x
    have hrest := ih ({ p with toDenoiser := r.1 }.writeSample (encodeSample a r.2)).1
      (a.add energy (a.mul r.2 r.2))
    exact ⟨hrest.denoiseEnabled.trans hdenoise, hrest.highPassEnabled.trans hhighPass,
      hrest.toSpeechDetector,
      hrest.pcm, by rw [Denoiser.codes, Batches.writeAll,
        List.map_append]; exact congrArg _ hrest.posted⟩

theorem Denoiser.trackNoise_switches (d : Denoiser F) (likelySpeech : Bool) (rawRms : F) :
    (d.trackNoise a likelySpeech rawRms).denoiseEnabled = d.denoiseEnabled ∧
      (d.trackNoise a likelySpeech rawRms).highPassEnabled = d.highPassEnabled := by
  rw [trackNoise]
  split_ifs
  · exact ⟨rfl, rfl⟩
  · exact ⟨rfl, rfl⟩

/-- What a call of `process` does to everything but the detector, and what it posts of it. -/
structure PCMRecorder.Processed (codes : List Sample) (p q : PCMRecorder F)
    (posted : List (RecorderMessage F)) :
    Prop where
  denoiseEnabled : q.denoiseEnabled = p.denoiseEnabled
  highPassEnabled : q.highPassEnabled = p.highPassEnabled
  pcm : q.pcm = (Batches.writeAll chunkSize p.pcm codes).1
  chunks : posted.filterMap RecorderMessage.chunk? = (Batches.writeAll chunkSize p.pcm codes).2.map
    pcmOf

theorem PCMRecorder.processChannel_processed (p : PCMRecorder F) {inputs : List (List (List F))}
    {inputChannel : List F} (hchannel : inputChannel? inputs = some inputChannel) :
    Processed (p.codes a inputs) p (p.processChannel a inputChannel).1
    (p.processChannel a inputChannel).2 := by
  let rawRms := rmsOf a (rawEnergy a inputChannel) inputChannel.length
  let likely := p.likelySpeech a rawRms
  obtain ⟨hdenoise, hhighPass⟩ := p.toDenoiser.trackNoise_switches a likely rawRms
  let tracked : PCMRecorder F := { p with toDenoiser := p.toDenoiser.trackNoise a likely rawRms }
  have hwrote := tracked.processSamples_wrote a likely (tracked.toDenoiser.adaptiveGateThreshold a)
    (a.ofRat 0) inputChannel
  have hcodes : p.codes a inputs = tracked.toDenoiser.codes a likely
      (tracked.toDenoiser.adaptiveGateThreshold a) inputChannel := by
    rw [codes, hchannel]
    rfl
  rw [hcodes]
  refine ⟨hwrote.denoiseEnabled.trans hdenoise, hwrote.highPassEnabled.trans hhighPass, hwrote.pcm,
    ?_⟩
  have hvad : ∀ message : Option (RecorderMessage F), (∀ m ∈ message, m.chunk? = none) →
      message.toList.filterMap RecorderMessage.chunk? = [] := by
    rintro (_ | m) hm
    · rfl
    · exact List.filterMap_cons_none (hm m rfl)
  refine (List.filterMap_append ..).trans ?_
  rw [hvad _ fun m hm => ?_, List.append_nil]
  · refine (congrArg _ hwrote.posted).trans ?_
    rw [List.filterMap_map]
    exact congrFun (List.filterMap_eq_map (f := pcmOf)) _
  · obtain ⟨state, -, rfl⟩ := Option.map_eq_some_iff.1 hm
    rfl

theorem PCMRecorder.process_processed (p : PCMRecorder F) (inputs : List (List (List F))) :
    Processed (p.codes a inputs) p (p.process a inputs).1 (p.process a inputs).2 := by
  rw [process]
  cases hchannel : inputChannel? inputs with
  | none =>
    rw [codes, hchannel]
    exact ⟨rfl, rfl, rfl, rfl⟩
  | some inputChannel => exact p.processChannel_processed a hchannel

variable (options : RecorderOptions F) (sampleRate : F) (blocks : List (List (List (List F))))

/-- The log of a recorder that was called with `blocks`. -/
def recorderLog : List (RecorderEntry F) :=
  (pcmRecorder a).trace (.create a options sampleRate) blocks

/-- The state of a recorder that was called with `blocks`. -/
def recorderAfter : PCMRecorder F :=
  (pcmRecorder a).run (.create a options sampleRate) blocks

variable (log : List (RecorderEntry F))

/-- All messages of a log, in the order they are posted. -/
def postedMessages : List (RecorderMessage F) :=
  log.flatMap (·.answer)

/-- The codes of all samples of a log, in the order they were heard. -/
def heardCodes : List Sample :=
  log.flatMap fun t => t.pre.codes a t.event

theorem recorderLog_concat (inputs : List (List (List F))) :
    recorderLog a options sampleRate (blocks ++ [inputs]) =
      recorderLog a options sampleRate blocks ++
        [(pcmRecorder a).entry (recorderAfter a options sampleRate blocks) inputs] :=
  EventMachine.trace_concat ..

theorem recorderAfter_concat (inputs : List (List (List F))) :
    recorderAfter a options sampleRate (blocks ++ [inputs]) =
      ((recorderAfter a options sampleRate blocks).process a inputs).1 :=
  EventMachine.run_concat ..

theorem recorder_buffered :
    ∃ full, (postedMessages (recorderLog a options sampleRate blocks)).filterMap
    RecorderMessage.chunk? =
        full.map pcmOf ∧
      Batches.Buffered chunkSize (heardCodes a (recorderLog a options sampleRate blocks)) full
        (recorderAfter a options sampleRate blocks).pcm := by
  induction blocks using List.reverseRecOn with
  | nil => exact ⟨[], rfl, Batches.buffered_nil (by decide)⟩
  | append_singleton blocks inputs ih =>
    obtain ⟨full, hposted, hbuffered⟩ := ih
    have hstep := (recorderAfter a options sampleRate blocks).process_processed a inputs
    have hwritten := hbuffered.writeAll ((recorderAfter a options sampleRate blocks).codes a inputs)
    refine ⟨full ++ (Batches.writeAll chunkSize (recorderAfter a options sampleRate blocks).pcm
      ((recorderAfter a options sampleRate blocks).codes a inputs)).2, ?_, ?_⟩
    · rw [recorderLog_concat, postedMessages, List.flatMap_append, List.filterMap_append,
        List.flatMap_singleton, ← postedMessages, hposted, List.map_append]
      exact congrArg _ hstep.chunks
    · rw [recorderLog_concat, recorderAfter_concat, hstep.pcm, heardCodes, List.flatMap_append,
        List.flatMap_singleton]
      exact hwritten

/-- Without filters a block is encoded sample by sample. -/
theorem Denoiser.codes_plain {d : Denoiser F} (hdenoise : d.denoiseEnabled = false)
    (hhighPass : d.highPassEnabled = false) (likelySpeech : Bool) (threshold : F) (xs : List F) :
    d.codes a likelySpeech threshold xs = xs.map fun x => encodeSample a (clampSample a x) := by
  have hsample : ∀ x, d.processSample a likelySpeech threshold x = (d, clampSample a x) := by
    intro x
    rw [processSample, highPass, hhighPass]
    simp only [gate, hdenoise, Bool.false_and, Bool.false_eq_true, if_false]
  induction xs with
  | nil => rfl
  | cons x xs ih =>
    rw [codes, hsample, List.map_cons]
    exact congrArg _ ih

theorem recorderAfter_switches :
    (recorderAfter a options sampleRate blocks).denoiseEnabled =
        (Denoiser.create a options sampleRate).denoiseEnabled ∧
      (recorderAfter a options sampleRate blocks).highPassEnabled =
        (Denoiser.create a options sampleRate).highPassEnabled := by
  induction blocks using List.reverseRecOn with
  | nil => exact ⟨rfl, rfl⟩
  | append_singleton blocks inputs ih =>
    have hstep := (recorderAfter a options sampleRate blocks).process_processed a inputs
    rw [recorderAfter_concat]
    exact ⟨hstep.denoiseEnabled.trans ih.1, hstep.highPassEnabled.trans ih.2⟩

theorem heardCodes_plain {options : RecorderOptions F}
    (hplain : options.denoiseEnabled = some false) (sampleRate : F)
    (blocks : List (List (List (List F)))) :
    heardCodes a (recorderLog a options sampleRate blocks) =
      (blocks.filterMap inputChannel?).flatten.map fun x => encodeSample a (clampSample a x) := by
  have hcreate : (Denoiser.create a options sampleRate).denoiseEnabled = false := by
    simp [Denoiser.create, hplain]
  have hcreatePass : (Denoiser.create a options sampleRate).highPassEnabled = false := by
    simp [Denoiser.create, hplain]
  induction blocks using List.reverseRecOn with
  | nil => rfl
  | append_singleton blocks inputs ih =>
    obtain ⟨hdenoise, hhighPass⟩ := recorderAfter_switches a options sampleRate blocks
    rw [recorderLog_concat, heardCodes, List.flatMap_append, List.flatMap_singleton, ← heardCodes,
      ih, List.filterMap_append, List.flatten_append, List.map_append]
    refine congrArg _ ?_
    show PCMRecorder.codes a _ inputs = _
    rw [PCMRecorder.codes]
    cases hchannel : inputChannel? inputs with
    | none => rw [List.filterMap_cons_none hchannel]; rfl
    | some inputChannel =>
      rw [List.filterMap_cons_some hchannel, List.filterMap_nil, List.flatten_singleton]
      refine Denoiser.codes_plain a ?_ ?_ _ _ _
      · exact ((Denoiser.trackNoise_switches a _ _ _).1.trans hdenoise).trans hcreate
      · exact ((Denoiser.trackNoise_switches a _ _ _).2.trans hhighPass).trans hcreatePass

/-- **The chunks of a recorder**: in every run each has 512 samples, and one after the other, with
    what is written behind them, they are the samples heard, filtered and encoded; without the
    denoiser each sample is encoded by itself. -/
theorem recorder_chunks :
    (Batches.Buffered chunkSize ((heardCodes a (recorderLog a options sampleRate blocks)).map
      Subtype.val)
      (((postedMessages (recorderLog a options sampleRate blocks)).filterMap
        RecorderMessage.chunk?).map pcmSamples)
      ((recorderAfter a options sampleRate blocks).pcm.map Subtype.val)) ∧
    (∀ bytes ∈ (postedMessages (recorderLog a options sampleRate blocks)).filterMap
      RecorderMessage.chunk?, bytes.length = 2 * chunkSize) ∧
    heardCodes a (recorderLog a { options with denoiseEnabled := some false } sampleRate blocks) =
      (blocks.filterMap inputChannel?).flatten.map fun x => encodeSample a (clampSample a x) := by
  obtain ⟨full, hposted, hbuffered⟩ := recorder_buffered a options sampleRate blocks
  rw [hposted]
  refine ⟨?_, ?_, heardCodes_plain a rfl sampleRate blocks⟩
  · have hread : pcmSamples ∘ pcmOf = List.map Subtype.val := funext pcmSamples_pcmOf
    rw [List.map_map, hread]
    exact hbuffered.map Subtype.val
  · intro bytes hbytes
    obtain ⟨chunk, hchunk, rfl⟩ := List.mem_map.1 hbytes
    rw [length_pcmOf, hbuffered.length_eq chunk hchunk]

/-! ## The speech detector over a run -/

/-- The numbers of the detector, as those of a debounced switch. -/
def vadConfig : Debounce.Config where
  riseAfter := speechFramesForStart
  fallAfter := silenceFramesForEnd
  minHold := minSpeakingFramesBeforeEnd
  cooldown := cooldownFramesAfterEnd
  rise_pos := by decide

variable (v : SpeechDetector F)

/-- The frames the detector has counted. -/
def SpeechDetector.counters : Debounce.Counters where
  high := v.isSpeaking
  rising := v.speechFrames
  held := v.speakingFrames
  falling := v.silenceFrames
  cooldown := v.cooldownFrames

/-- The edge at which speech starts or ends. -/
def SpeechState.edge : SpeechState → Debounce.Edge
  | .speechStart => .rise
  | .speechEnd => .fall

/-- `vadLevel >= this.vadStartThreshold` -/
def isLoud (vadLevel : F) : Bool := a.le (a.ofRat vadStartThreshold) vadLevel

/-- `vadLevel <= this.vadEndThreshold` -/
def isQuiet (vadLevel : F) : Bool := a.le vadLevel (a.ofRat vadEndThreshold)

theorem SpeechDetector.counters_coolDown :
    v.coolDown.counters = v.counters.coolDown := by
  rw [coolDown]
  split_ifs with hcooldown
  · rfl
  · have hzero : v.cooldownFrames - 1 = v.cooldownFrames := by omega
    show v.counters = { v.counters with cooldown := v.cooldownFrames - 1 }
    rw [hzero]
    rfl

theorem SpeechDetector.low_hearSilence :
    v.counters.low vadConfig (isLoud a v.rmsEma) =
        ((v.hearSilence a).1.counters, (v.hearSilence a).2.map SpeechState.edge) ∧
      (v.hearSilence a).1.rmsEma = v.rmsEma := by
  have hiff : (isLoud a v.rmsEma = true ∧ v.counters.cooldown = 0) ↔
      (a.le (a.ofRat vadStartThreshold) v.rmsEma && decide (v.cooldownFrames = 0)) = true := by
    rw [Bool.and_eq_true, decide_eq_true_iff]
    rfl
  simp only [Debounce.Counters.low, hearSilence, if_congr hiff rfl rfl]
  by_cases hloud : (a.le (a.ofRat vadStartThreshold) v.rmsEma && decide (v.cooldownFrames = 0)) =
    true
  · rw [if_pos hloud, if_pos hloud]
    by_cases hstart : speechFramesForStart ≤ v.speechFrames + 1
    · rw [if_pos hstart]
      exact ⟨if_pos hstart, rfl⟩
    · rw [if_neg hstart]
      exact ⟨if_neg hstart, rfl⟩
  · rw [if_neg hloud, if_neg hloud]
    exact ⟨rfl, rfl⟩

theorem SpeechDetector.hold_hearSpeech :
    v.counters.hold vadConfig (isQuiet a v.rmsEma) =
        ((v.hearSpeech a).1.counters, (v.hearSpeech a).2.map SpeechState.edge) ∧
      (v.hearSpeech a).1.rmsEma = v.rmsEma := by
  let silence := if a.le v.rmsEma (a.ofRat vadEndThreshold) then v.silenceFrames + 1 else 0
  have hiff : (minSpeakingFramesBeforeEnd ≤ v.speakingFrames + 1 ∧ silenceFramesForEnd ≤ silence) ↔
      (decide (minSpeakingFramesBeforeEnd ≤ v.speakingFrames + 1) &&
        decide (silenceFramesForEnd ≤ silence)) = true := by
    rw [Bool.and_eq_true, decide_eq_true_iff, decide_eq_true_iff]
  by_cases hend : minSpeakingFramesBeforeEnd ≤ v.speakingFrames + 1 ∧ silenceFramesForEnd ≤ silence
  · rw [hearSpeech, if_pos (hiff.1 hend)]
    exact ⟨if_pos hend, rfl⟩
  · rw [hearSpeech, if_neg fun hboth => hend (hiff.2 hboth)]
    exact ⟨if_neg hend, rfl⟩

/-- **Hearing a block** is an observation of the switch. -/
theorem SpeechDetector.step_hear (rms : F) :
    Debounce.step vadConfig v.counters (isLoud a (v.hear a rms).1.rmsEma)
    (isQuiet a (v.hear a rms).1.rmsEma) =
      ((v.hear a rms).1.counters, (v.hear a rms).2.map SpeechState.edge) := by
  let w := (v.trackLevel a rms).coolDown
  obtain ⟨hlow, hlowLevel⟩ := w.low_hearSilence a
  obtain ⟨hhold, hholdLevel⟩ := w.hold_hearSpeech a
  have hw : v.counters.coolDown = w.counters := (v.trackLevel a rms).counters_coolDown.symm
  have hhigh : v.counters.high = w.isSpeaking := congrArg Debounce.Counters.high hw
  rw [Debounce.step, hw, hhigh]
  by_cases hspeaking : w.isSpeaking = true
  · have hhear : v.hear a rms = w.hearSpeech a := if_pos hspeaking
    rw [hhear, hholdLevel, if_pos hspeaking]
    exact hhold
  · have hhear : v.hear a rms = w.hearSilence a := if_neg hspeaking
    rw [hhear, hlowLevel, if_neg hspeaking]
    exact hlow

/-- What a call of `process` does to the detector, and what it posts of it. -/
theorem PCMRecorder.process_speech (p : PCMRecorder F) (inputs : List (List (List F))) :
    match inputChannel? inputs with
    | none => p.process a inputs = (p, [])
    | some _ => ∃ rms, (p.process a inputs).1.toSpeechDetector = (p.toSpeechDetector.hear a rms).1 ∧
        (p.process a inputs).2.filterMap RecorderMessage.speech? =
        (p.toSpeechDetector.hear a rms).2.toList := by
  cases hchannel : inputChannel? inputs with
  | none =>
    show p.process a inputs = (p, [])
    rw [process, hchannel]
    rfl
  | some inputChannel =>
    let rawRms := rmsOf a (rawEnergy a inputChannel) inputChannel.length
    let likely := p.likelySpeech a rawRms
    let tracked : PCMRecorder F := { p with toDenoiser := p.toDenoiser.trackNoise a likely rawRms }
    let threshold := tracked.toDenoiser.adaptiveGateThreshold a
    have hwrote := tracked.processSamples_wrote a likely threshold (a.ofRat 0) inputChannel
    let loop := processSamples a likely threshold tracked (a.ofRat 0) inputChannel
    let rms := rmsOf a loop.1.2 inputChannel.length
    have hdetector : loop.1.1.toSpeechDetector = p.toSpeechDetector := hwrote.toSpeechDetector
    have hprocess : p.process a inputs = p.processChannel a inputChannel := by
      rw [process, hchannel]
      rfl
    have hchunks : loop.2.filterMap RecorderMessage.speech? = [] := by
      refine List.filterMap_eq_nil_iff.2 fun message hmem => ?_
      rw [hwrote.posted] at hmem
      obtain ⟨chunk, -, rfl⟩ := List.mem_map.1 hmem
      rfl
    refine ⟨rms, ?_, ?_⟩
    · rw [hprocess, ← hdetector]
      rfl
    · rw [hprocess, ← hdetector]
      refine (List.filterMap_append ..).trans ?_
      rw [hchunks, List.nil_append]
      show List.filterMap _ (Option.map _ (loop.1.1.toSpeechDetector.hear a rms).2).toList = _
      cases (loop.1.1.toSpeechDetector.hear a rms).2 with
      | none => rfl
      | some state => rfl

/-- What the detector observed at a call, where there was something to hear. -/
def observation? (t : RecorderEntry F) : Option Debounce.Observation :=
  (inputChannel? t.event).map fun _ =>
    let vadLevel := (t.pre.process a t.event).1.rmsEma
    ⟨isLoud a vadLevel, isQuiet a vadLevel, (t.answer.findSome? RecorderMessage.speech?).map
      SpeechState.edge⟩

/-- The blocks that were heard, newest first. -/
def heardBlocks : List Debounce.Observation :=
  (log.filterMap (observation? a)).reverse

theorem heardBlocks_concat (t : RecorderEntry F) :
    heardBlocks a (log ++ [t]) = (observation? a t).toList ++ heardBlocks a log := by
  rw [heardBlocks, List.filterMap_append, List.reverse_append, heardBlocks]
  congr 1
  cases h : observation? a t with
  | none => rw [List.filterMap_cons_none h]; rfl
  | some o => rw [List.filterMap_cons_some h]; rfl

theorem recorder_tracks :
    Debounce.Accounted vadConfig (heardBlocks a (recorderLog a options sampleRate blocks)) ∧
    Debounce.Tracks vadConfig (heardBlocks a (recorderLog a options sampleRate blocks))
      (recorderAfter a options sampleRate blocks).counters ∧
    ((postedMessages (recorderLog a options sampleRate blocks)).filterMap
        RecorderMessage.speech?).map SpeechState.edge =
      (Debounce.edges (heardBlocks a (recorderLog a options sampleRate blocks))).reverse := by
  induction blocks using List.reverseRecOn with
  | nil => exact ⟨trivial, Debounce.Tracks.start vadConfig, rfl⟩
  | append_singleton blocks inputs ih =>
    obtain ⟨haccounted, htracks, hposted⟩ := ih
    let p := recorderAfter a options sampleRate blocks
    have hspeech := p.process_speech a inputs
    rw [recorderLog_concat, recorderAfter_concat, heardBlocks_concat, postedMessages,
      List.flatMap_append,
      List.filterMap_append, List.flatMap_singleton, ← postedMessages, List.map_append, hposted]
    cases hchannel : inputChannel? inputs with
    | none =>
      rw [hchannel] at hspeech
      have hnothing : observation? a ((pcmRecorder a).entry p inputs) = none := by
        rw [observation?, EventMachine.entry_event, hchannel]
        rfl
      have hanswer : ((pcmRecorder a).entry p inputs).answer = [] := congrArg Prod.snd hspeech
      rw [hnothing, hanswer, hspeech]
      exact ⟨haccounted, htracks, List.append_nil _⟩
    | some inputChannel =>
      rw [hchannel] at hspeech
      obtain ⟨rms, hdetector, hheard⟩ := hspeech
      have hstep := p.toSpeechDetector.step_hear a rms
      let up := isLoud a (p.toSpeechDetector.hear a rms).1.rmsEma
      let down := isQuiet a (p.toSpeechDetector.hear a rms).1.rmsEma
      let past := heardBlocks a (recorderLog a options sampleRate blocks)
      obtain ⟨hdue, hnext⟩ := htracks.step up down
      have hedge : (p.toSpeechDetector.hear a rms).2.map SpeechState.edge = Debounce.due vadConfig
          past up down :=
        (congrArg Prod.snd hstep).symm.trans hdue
      have hcounters : (Debounce.step vadConfig p.counters up down).1 =
          (p.process a inputs).1.counters := (congrArg Prod.fst hstep).trans (by rw [hdetector])
      have hanswer : ((pcmRecorder a).entry p inputs).answer.filterMap RecorderMessage.speech? =
        (p.toSpeechDetector.hear a rms).2.toList := hheard
      have hobserved : observation? a ((pcmRecorder a).entry p inputs) =
          some ⟨up, down, Debounce.due vadConfig past up down⟩ := by
        have hlevel : (p.process a inputs).1.rmsEma = (p.toSpeechDetector.hear a rms).1.rmsEma :=
          congrArg SpeechDetector.rmsEma hdetector
        rw [observation?, EventMachine.entry_event, hchannel, Option.map_some,
          EventMachine.entry_pre,
          ← List.head?_filterMap, hanswer, Option.head?_toList, hedge, hlevel]
      rw [hobserved, hanswer, ← hcounters]
      refine ⟨⟨rfl, haccounted⟩, hnext, ?_⟩
      rw [← Option.toList_map, hedge, Option.toList_some, List.singleton_append,
        Debounce.edges_cons, List.reverse_append]
      cases Debounce.due vadConfig past up down with
      | none => rfl
      | some edge => rfl

/-- **The detector of a recorder**: in every run it posts that speech starts at the blocks that
    complete eight loud ones in a row after the last end and its cooldown, that it ends at those
    that complete 48 quiet ones, and nothing else; so starts and ends alternate, a start being the
    first. -/
theorem recorder_speech :
    Debounce.Accounted vadConfig (heardBlocks a (recorderLog a options sampleRate blocks)) ∧
    ((postedMessages (recorderLog a options sampleRate blocks)).filterMap
        RecorderMessage.speech?).map SpeechState.edge =
      (Debounce.edges (heardBlocks a (recorderLog a options sampleRate blocks))).reverse ∧
    ((postedMessages (recorderLog a options sampleRate blocks)).filterMap
      RecorderMessage.speech?).IsChain (· ≠ ·) ∧
    (∀ state, ((postedMessages (recorderLog a options sampleRate blocks)).filterMap
        RecorderMessage.speech?).head? =
      some state → state = .speechStart) := by
  obtain ⟨haccounted, -, hposted⟩ := recorder_tracks a options sampleRate blocks
  obtain ⟨hchain, hfirst⟩ := haccounted.alternate
  refine ⟨haccounted, hposted, ?_, ?_⟩
  · have hedges : (((postedMessages (recorderLog a options sampleRate blocks)).filterMap
        RecorderMessage.speech?).map SpeechState.edge).IsChain (· ≠ ·) := by
      rw [hposted, List.isChain_reverse]
      exact hchain.imp fun _ _ hne => hne.symm
    exact List.isChain_of_isChain_map SpeechState.edge
      (fun _ _ hne heq => hne (congrArg _ heq)) hedges
  · intro state hstate
    have hhead := congrArg List.head? hposted
    rw [List.head?_map, hstate, List.head?_reverse] at hhead
    have hrise := hfirst _ hhead.symm
    cases state with
    | speechStart => rfl
    | speechEnd => exact absurd hrise nofun

end

end Ekaette
