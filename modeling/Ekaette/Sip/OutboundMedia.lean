import Ekaette.Lib.EventMachine
import Ekaette.Sip.Rtp
import Mathlib.Algebra.Group.Nat.Defs
import Mathlib.Data.List.Chain

set_option autoImplicit false

/-! # Outbound media of a WhatsApp call

`OpusCodecBridge` of `sip_bridge/codec_bridge.py` and `_media_outbound_loop` of
`sip_bridge/wa_session.py`. The receive loops put PCM chunks of any size on the outbound queue; the
outbound loop takes one chunk at a time, encodes it, and hands the result to `srtp_sender.protect`,
or to the socket without SRTP.

What it hands on is the encoded chunk itself: nothing cuts the PCM into frames, and nothing puts an
RTP header in front of them. So the media format is right only while there is nothing to send. -/

namespace Ekaette

/-- PCM16 at 24 kHz, as bytes. -/
abbrev Pcm := List UInt8

/-- `OUTBOUND_QUEUE_SIZE`. -/
def OUTBOUND_QUEUE_SIZE : ℕ := 10000

/-- The bytes of 20 ms of PCM16 at 24 kHz. -/
def pcmFrameBytes : ℕ := 24000 * 20 / 1000 * 2

/-- `compute_rtp_timestamp_increment`. -/
def computeRtpTimestampIncrement (clockRate frameDurationMs : ℕ) : ℕ :=
  clockRate * frameDurationMs / 1000

/-! ## The codec bridge -/

/-- The little-endian samples of PCM16; an odd byte at the end is left out. -/
def pcmSamples : Pcm → List ℤ
  | low :: high :: pcm =>
    let n : ℤ := low.toNat + 256 * high.toNat
    (if n < 32768 then n else n - 65536) :: pcmSamples pcm
  | _ => []

theorem length_pcmSamples : ∀ pcm : Pcm, (pcmSamples pcm).length = pcm.length / 2
  | [] => rfl
  | [_] => by simp [pcmSamples]
  | low :: high :: pcm => by
      have ih := length_pcmSamples pcm
      simp only [pcmSamples, List.length_cons, ih]
      omega

/-- The samples a resampler unpacks: none from less than two bytes, otherwise `struct.unpack` of
    half as many samples as there are bytes, which raises on an odd number of bytes. -/
def unpackPcm (pcm : Pcm) : Option (List ℤ) :=
  if pcm.length / 2 = 0 ∨ pcm.length % 2 = 0 then some (pcmSamples pcm) else none

/-- The sample at an output position: the two input samples around it, weighed by where between them
    it lies. The rates of Opus make every weight 0, 1/2 or 1, so nothing is rounded before `int`. -/
def resampleAt (rate : ℕ) (samples : List ℤ) (i : ℕ) : ℤ :=
  let idx := i * 24000 / rate
  let frac : ℤ := i * 24000 % rate
  let value :=
    if idx + 1 < samples.length then
      (samples.getD idx 0 * (rate - frac) + samples.getD (idx + 1) 0 * frac).tdiv rate
    else samples.getD (min idx (samples.length - 1)) 0
  max (-32768) (min 32767 value)

/-- `resample_24k_to_16k`; `none` where it raises. -/
def resample24kTo16k (pcm : Pcm) : Option (List ℤ) :=
  (unpackPcm pcm).map (fun samples =>
    (List.range (samples.length * 2 / 3)).map (resampleAt 16000 samples))

/-- `_resample_24k_to_rate`. -/
def resample24kToRate (pcm : Pcm) (rate : ℕ) : Option (List ℤ) :=
  (unpackPcm pcm).map (fun samples =>
    (List.range (samples.length * rate / 24000)).map (resampleAt rate samples))

/-- `OpusCodecBridge`. `σ` is the state of its encoder, which is outside the repository. -/
structure OpusCodecBridge (σ : Type) where
  rtpPayloadType : ℕ
  encodeRate : ℕ
  /-- the rates an Opus encoder can be made with -/
  encodeRate_legal : encodeRate ∈ [8000, 12000, 16000, 24000, 48000]
  /-- `Encoder.encode` of samples and a frame size; `none` where it raises -/
  encoder : σ → List ℤ → ℕ → Option (σ × List UInt8)
  /-- it needs exactly that many samples -/
  encoder_needs : ∀ s samples n r, encoder s samples n = some r → samples.length = n

variable {σ : Type}

variable (codec : OpusCodecBridge σ)

/-- `_encode_frame_samples`. -/
def OpusCodecBridge.encodeFrameSamples : ℕ :=
  codec.encodeRate * 20 / 1000

/-- The samples `encode_from_pcm16_24k` passes to the encoder; `none` where a resampler raises. -/
def OpusCodecBridge.pcmInput (pcm : Pcm) : Option (List ℤ) :=
  if codec.encodeRate = 24000 then some (pcmSamples pcm)
  else if codec.encodeRate = 16000 then resample24kTo16k pcm
  else resample24kToRate pcm codec.encodeRate

/-- `encode_from_pcm16_24k`; `none` where it raises. -/
def OpusCodecBridge.encodeFromPcm16 (s : σ) (pcm : Pcm) :
    Option (σ × List UInt8) :=
  (codec.pcmInput pcm).bind (fun input => codec.encoder s input codec.encodeFrameSamples)

theorem length_of_unpackPcm {pcm : Pcm} {samples : List ℤ} (h : unpackPcm pcm = some samples) :
    samples.length = pcm.length / 2 := by
  unfold unpackPcm at h
  split at h
  · rw [← Option.some.inj h, length_pcmSamples]
  · simp at h

theorem length_of_resample24kTo16k {pcm : Pcm} {output : List ℤ}
    (h : resample24kTo16k pcm = some output) : output.length = pcm.length / 2 * 2 / 3 := by
  obtain ⟨samples, hunpack, rfl⟩ := Option.map_eq_some_iff.1 h
  rw [List.length_map, List.length_range, length_of_unpackPcm hunpack]

theorem length_of_resample24kToRate {pcm : Pcm} {rate : ℕ} {output : List ℤ}
    (h : resample24kToRate pcm rate = some output) :
    output.length = pcm.length / 2 * rate / 24000 := by
  obtain ⟨samples, hunpack, rfl⟩ := Option.map_eq_some_iff.1 h
  rw [List.length_map, List.length_range, length_of_unpackPcm hunpack]

/-- Every resampler keeps the duration. -/
theorem length_of_pcmInput {codec : OpusCodecBridge σ} {pcm : Pcm} {input : List ℤ}
    (h : codec.pcmInput pcm = some input) :
    input.length = pcm.length / 2 * codec.encodeRate / 24000 := by
  unfold OpusCodecBridge.pcmInput at h
  split at h
  · next hrate =>
      rw [← Option.some.inj h, length_pcmSamples, hrate]
      omega
  · split at h
    · next hrate =>
        rw [length_of_resample24kTo16k h, hrate]
        omega
    · exact length_of_resample24kToRate h

theorem frame_le_of_encode {codec : OpusCodecBridge σ} {s : σ} {pcm : Pcm} {r : σ × List UInt8}
    (h : codec.encodeFromPcm16 s pcm = some r) : pcmFrameBytes ≤ pcm.length := by
  obtain ⟨input, hinput, hencode⟩ := Option.bind_eq_some_iff.1 h
  have hneeds := codec.encoder_needs _ _ _ _ hencode
  have hframe : pcmFrameBytes = 960 := rfl
  have hlegal := codec.encodeRate_legal
  simp only [List.mem_cons, List.not_mem_nil, or_false] at hlegal
  rw [length_of_pcmInput hinput, OpusCodecBridge.encodeFrameSamples] at hneeds
  rcases hlegal with hrate | hrate | hrate | hrate | hrate <;> rw [hrate] at hneeds <;> omega

/-! ## The queue and the loop -/

/-- What the outbound loop hands on for a chunk. -/
structure Handed where
  /-- the PCM it was encoded from -/
  pcm : Pcm
  /-- what the encoder gave for it -/
  encoded : List UInt8
  /-- the argument of `protect`, or of `sendto` without SRTP -/
  plaintext : List UInt8

structure OutboundMedia (σ : Type) where
  outboundQueue : List Pcm
  outboundDrops : ℕ
  framesSent : ℕ
  encoder : σ

/-- A session that has queued and sent nothing. -/
def OutboundMedia.start (encoder : σ) : OutboundMedia σ := ⟨[], 0, 0, encoder⟩

inductive OutboundEvent where
  /-- A receive loop puts a chunk on the queue. -/
  | put (pcm : Pcm)
  /-- The outbound loop takes a chunk, if there is one within its timeout. -/
  | take

inductive OutboundAnswer where
  | queued (pcm : Pcm)
  | dropped
  | idle
  /-- encoding the chunk raised -/
  | failed (pcm : Pcm)
  | handed (h : Handed)

variable (s : OutboundMedia σ)

/-- `outbound_queue.put_nowait`, with the caller's handler of `QueueFull`. -/
def OutboundMedia.putNowait (pcm : Pcm) : OutboundMedia σ × OutboundAnswer :=
  if s.outboundQueue.length ≥ OUTBOUND_QUEUE_SIZE then
    ({ s with outboundDrops := s.outboundDrops + 1 }, .dropped)
  else ({ s with outboundQueue := s.outboundQueue ++ [pcm] }, .queued pcm)

/-- A round of `_media_outbound_loop`. -/
def OutboundMedia.takeRound :
    OutboundMedia σ × OutboundAnswer :=
  match s.outboundQueue with
  | [] => (s, .idle)
  | pcm :: queue =>
    let s := { s with outboundQueue := queue, framesSent := s.framesSent + 1 }
    match codec.encodeFromPcm16 s.encoder pcm with
    | none => (s, .failed pcm)
    | some (encoder, encoded) => ({ s with encoder }, .handed ⟨pcm, encoded, encoded⟩)

/-- Receive loops and the outbound loop in any order. -/
def outboundMachine :
    EventMachine (OutboundMedia σ) OutboundEvent OutboundAnswer where
  step s
    | .put pcm => s.putNowait pcm
    | .take => s.takeRound codec

/-! ## The media format -/

/-- The chunks taken from the queue, oldest first. -/
def takenPcm (answers : List OutboundAnswer) : List Pcm :=
  answers.filterMap (fun
    | .failed pcm => some pcm
    | .handed h => some h.pcm
    | _ => none)

/-- What was handed on, oldest first. -/
def handedOn (answers : List OutboundAnswer) : List Handed :=
  answers.filterMap (fun
    | .handed h => some h
    | _ => none)

/-- **The outbound media format**: what is handed on are RTP packets of the negotiated payload type
    in sequence, each with an encoded 20 ms frame, and they carry all the PCM that was taken from
    the queue, in order, but for a final part shorter than a frame. -/
structure OutboundFormat (codec : OpusCodecBridge σ) (answers : List OutboundAnswer) : Prop where
  packets : ∀ h ∈ handedOn answers, ∃ p, RtpPacket.parse h.plaintext = some p ∧
    p.payloadType = codec.rtpPayloadType ∧ p.payload = h.encoded ∧ h.pcm.length = pcmFrameBytes
  sequence : (handedOn answers).IsChain (fun h h' => ∀ p p', RtpPacket.parse h.plaintext = some p →
    RtpPacket.parse h'.plaintext = some p' → p'.sequence = (p.sequence + 1) % 2 ^ 16 ∧
      p'.timestamp = (p.timestamp + computeRtpTimestampIncrement 48000 20) % 2 ^ 32)
  complete : ∃ rest, (takenPcm answers).flatten = ((handedOn answers).map (·.pcm)).flatten ++ rest ∧
    rest.length < pcmFrameBytes

/-! ## What a round hands on -/

theorem takeRound_cases :
    (s.outboundQueue = [] ∧ s.takeRound codec = (s, .idle)) ∨
    ∃ pcm queue, s.outboundQueue = pcm :: queue ∧
      (s.takeRound codec).1.outboundQueue = queue ∧
      ((s.takeRound codec).2 = .failed pcm ∨
        ∃ encoded, (s.takeRound codec).2 = .handed ⟨pcm, encoded, encoded⟩ ∧
          pcmFrameBytes ≤ pcm.length) := by
  unfold OutboundMedia.takeRound
  cases hqueue : s.outboundQueue with
  | nil => exact .inl ⟨rfl, rfl⟩
  | cons pcm queue =>
    refine .inr ⟨pcm, queue, rfl, ?_⟩
    simp only
    cases hencode : codec.encodeFromPcm16 s.encoder pcm with
    | none => exact ⟨rfl, .inl rfl⟩
    | some r => exact ⟨rfl, .inr ⟨r.2, rfl, frame_le_of_encode hencode⟩⟩

theorem bare_of_handed {codec : OpusCodecBridge σ} {s : OutboundMedia σ} {e : OutboundEvent}
    {h : Handed} (hanswer : ((outboundMachine codec).step s e).2 = .handed h) :
    h.plaintext = h.encoded ∧ pcmFrameBytes ≤ h.pcm.length := by
  cases e with
  | put pcm =>
    simp only [outboundMachine, OutboundMedia.putNowait] at hanswer
    split at hanswer <;> simp at hanswer
  | take =>
    simp only [outboundMachine] at hanswer
    rcases takeRound_cases codec s with ⟨-, hidle⟩ | ⟨pcm, queue, -, -,
      hfailed | ⟨encoded, hhanded, hle⟩⟩
    · rw [hidle] at hanswer
      simp at hanswer
    · rw [hfailed] at hanswer
      simp at hanswer
    · rw [hhanded, OutboundAnswer.handed.injEq] at hanswer
      rw [← hanswer]
      exact ⟨rfl, hle⟩

/-- The answers of a run from a session that has queued nothing. -/
def outboundAnswers (encoder : σ) (es : List OutboundEvent) :
    List OutboundAnswer :=
  ((outboundMachine codec).trace (OutboundMedia.start encoder) es).map (·.answer)

theorem bare_of_mem_handedOn {codec : OpusCodecBridge σ} {encoder : σ} {es : List OutboundEvent}
    {h : Handed} (hmem : h ∈ handedOn (outboundAnswers codec encoder es)) :
    h.plaintext = h.encoded ∧ pcmFrameBytes ≤ h.pcm.length := by
  obtain ⟨answer, hanswer, hhanded⟩ := List.mem_filterMap.1 hmem
  obtain ⟨t, ht, rfl⟩ := List.mem_map.1 hanswer
  have heq : t.answer = .handed h := by
    cases hcase : t.answer with
    | handed h' =>
      rw [hcase] at hhanded
      rw [Option.some.inj hhanded]
    | queued pcm => simp [hcase] at hhanded
    | dropped => simp [hcase] at hhanded
    | idle => simp [hcase] at hhanded
    | failed pcm => simp [hcase] at hhanded
  rw [EventMachine.eq_entry_of_mem_trace _ ht] at heq
  exact bare_of_handed heq

theorem pcm_mem_takenPcm {answers : List OutboundAnswer} {h : Handed}
    (hmem : h ∈ handedOn answers) : h.pcm ∈ takenPcm answers := by
  obtain ⟨answer, hanswer, hhanded⟩ := List.mem_filterMap.1 hmem
  refine List.mem_filterMap.2 ⟨answer, hanswer, ?_⟩
  cases answer with
  | handed h' => rw [Option.some.inj hhanded]
  | queued pcm => simp at hhanded
  | dropped => simp at hhanded
  | idle => simp at hhanded
  | failed pcm => simp at hhanded

/-! ## When the media format is right -/

/-- The bare output of an encoder is no packet that carries it. -/
theorem not_outboundFormat_of_handed {codec : OpusCodecBridge σ} {encoder : σ}
    {es : List OutboundEvent} (hhanded : handedOn (outboundAnswers codec encoder es) ≠ []) :
    ¬ OutboundFormat codec (outboundAnswers codec encoder es) := by
  intro hformat
  obtain ⟨h, hmem⟩ := List.exists_mem_of_ne_nil _ hhanded
  obtain ⟨p, hparse, -, hpayload, -⟩ := hformat.packets h hmem
  have hlength := RtpPacket.length_of_parse hparse
  rw [(bare_of_mem_handedOn hmem).1, hpayload, RTP_HEADER_SIZE] at hlength
  omega

/-- **The outbound media format holds exactly until a frame of PCM has been taken** from the
    queue. -/
theorem outboundFormat_iff (encoder : σ) (es : List OutboundEvent) :
    OutboundFormat codec (outboundAnswers codec encoder es) ↔
      (takenPcm (outboundAnswers codec encoder es)).flatten.length < pcmFrameBytes := by
  constructor
  · intro hformat
    obtain ⟨rest, htaken, hrest⟩ := hformat.complete
    have hnil : handedOn (outboundAnswers codec encoder es) = [] := by
      by_contra hne
      exact not_outboundFormat_of_handed hne hformat
    rw [hnil, List.map_nil, List.flatten_nil, List.nil_append] at htaken
    rw [htaken]
    exact hrest
  · intro hshort
    -- a chunk that was handed on would alone have the bytes of a frame
    have hnil : handedOn (outboundAnswers codec encoder es) = [] := by
      rw [List.eq_nil_iff_forall_not_mem]
      intro h hmem
      have hle := (bare_of_mem_handedOn hmem).2
      have hsub := (List.sublist_flatten_of_mem (pcm_mem_takenPcm hmem)).length_le
      omega
    exact {
      packets := fun h hmem => by simp [hnil] at hmem
      sequence := by simp [hnil]
      complete := ⟨_, by rw [hnil, List.map_nil, List.flatten_nil, List.nil_append], hshort⟩ }

/-- An encoder at 24 kHz that gives every frame of samples the same packet. -/
def steadyCodec : OpusCodecBridge Unit where
  rtpPayloadType := 111
  encodeRate := 24000
  encodeRate_legal := by decide
  encoder _ samples n := if samples.length = n then some ((), [0x78, 0x0b, 0xe4]) else none
  encoder_needs s samples n r h := by
    split at h
    · assumption
    · simp at h

/-- One frame of silence, queued and taken, is handed on without a header. -/
theorem oneFrame_misformatted :
    ¬ OutboundFormat steadyCodec
      (outboundAnswers steadyCodec () [.put (List.replicate 960 0), .take]) := by
  refine not_outboundFormat_of_handed ?_
  have hlen : (handedOn (outboundAnswers steadyCodec ()
      [.put (List.replicate 960 0), .take])).length = 1 := by
    decide +kernel
  intro hnil
  rw [hnil] at hlen
  exact absurd hlen (by decide)

end Ekaette
