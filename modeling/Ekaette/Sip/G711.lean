import Ekaette.Sip.ChunkSplitting
import Ekaette.Sip.Resamplers
import Mathlib.Tactic.IntervalCases

set_option autoImplicit false

/-! # The G.711 codecs

The tables of `sip_bridge/audio_codec.py`, and `G711CodecBridge` of `sip_bridge/codec_bridge.py` in
both directions. A byte of μ-law is a sign, a segment and a step of it; the samples of a step are
decoded to its middle, so a decoded sample is off by at most the 32nd part of its magnitude and the
bias. -/

namespace Ekaette.G711

open Resamplers

/-! ## μ-law -/

/-- An entry of `_build_ulaw_table`. -/
def ulawEntry (i : ℕ) : ℤ :=
  -- the low byte of `~i`; the shifts and masks see no other bit
  let val := 255 - i
  let exponent := val / 16 % 8
  let mantissa := val % 16
  let sample : ℤ := ((mantissa * 8 + 0x84) * 2 ^ exponent : ℕ) - 0x84
  if val / 128 % 2 = 1 then -sample else sample

/-- `_ULAW_DECODE`. -/
def ULAW_DECODE : List ℤ := (List.range 256).map ulawEntry

/-- `ulaw_to_pcm16`; `none` where it raises. -/
def ulawToPcm16 (ulawBytes : List UInt8) : Option Pcm := do
  let samples ← ulawBytes.mapM fun b => ULAW_DECODE[b.toNat]?
  structPack samples

/-- `pcm16_to_ulaw`; `none` where it raises. -/
def pcm16ToUlaw (pcm16Bytes : Pcm) : Option (List UInt8) :=
  if pcm16Bytes.length % 2 = 0 then some ((pcmSamples pcm16Bytes).map linearToUlaw) else none

/-- `resample_24k_to_8k`; `none` where it raises. -/
def resample24kTo8k (pcm16_24k : Pcm) : Option Pcm := do
  let samples ← unpackPcm pcm16_24k
  structPack (everyThird samples)

/-! ## A-law -/

/-- `_alaw_to_linear`. -/
def alawToLinear (byteVal : ℕ) : ℤ :=
  let val := byteVal ^^^ 0x55
  let t := val % 16 * 16
  let seg := val / 16 % 8
  let t : ℤ :=
    if seg = 0 then t + 8
    else if seg = 1 then t + 0x108
    else ((t + 0x108) * 2 ^ (seg - 1) : ℕ)
  if val / 128 % 2 = 1 then t else -t

/-- `_ALAW_DECODE`. -/
def ALAW_DECODE : List ℤ := (List.range 256).map alawToLinear

/-- `alaw_to_pcm16`; `none` where it raises. -/
def alawToPcm16 (alawBytes : List UInt8) : Option Pcm := do
  let samples ← alawBytes.mapM fun b => ALAW_DECODE[b.toNat]?
  structPack samples

/-! ## The bridge -/

/-- `G711CodecBridge.decode_to_pcm16_16k`; `none` where it raises. -/
def decodeToPcm16_16k (encoded : List UInt8) : Option Pcm := do
  let pcm16_8k ← ulawToPcm16 encoded
  resample8kTo16k pcm16_8k

/-- `G711CodecBridge.encode_from_pcm16_24k`; `none` where it raises. -/
def encodeFromPcm16_24k (pcm16_24k : Pcm) : Option (List UInt8) := do
  let pcm16_8k ← resample24kTo8k pcm16_24k
  pcm16ToUlaw pcm16_8k

/-! ## Segments -/

variable (sample : ℤ)

/-- The magnitude of a sample, clipped and biased. -/
def biased : ℕ := min sample.natAbs 32635 + 0x84

/-- The segment of a sample, and its step counted from the start of the segment's octave. -/
def segment : ℕ := ulawExponent (biased sample) 7

def step : ℕ := biased sample / 2 ^ (segment sample + 3)

theorem le_biased : 132 ≤ biased sample := Nat.le_add_left _ _

theorem biased_lt : biased sample < 2 ^ 15 := by
  have hclip : min sample.natAbs 32635 ≤ 32635 := min_le_right _ _
  unfold biased
  omega

/-- **The segment** is the octave of the magnitude. -/
theorem ulawExponent_spec {m : ℕ} (hlow : 128 ≤ m) (exponent : ℕ) (hhigh : m < 2 ^ (exponent + 8)) :
    2 ^ (ulawExponent m exponent + 7) ≤ m ∧ m < 2 ^ (ulawExponent m exponent + 8) ∧
      ulawExponent m exponent ≤ exponent := by
  induction exponent with
  | zero => exact ⟨hlow, hhigh, le_rfl⟩
  | succ exponent ih =>
    have hbit : m.testBit (exponent + 8) = decide (2 ^ (exponent + 8) ≤ m) := by
      rw [Nat.testBit_eq_decide_div_mod_eq]
      refine decide_eq_decide.2 ?_
      have hquotient : m / 2 ^ (exponent + 8) < 2 := by
        rw [Nat.div_lt_iff_lt_mul (by positivity), ← pow_succ']
        exact hhigh
      rw [Nat.mod_eq_of_lt hquotient, ← Nat.one_le_div_iff (by positivity)]
      omega
    rw [ulawExponent, hbit]
    by_cases hset : 2 ^ (exponent + 8) ≤ m
    · rw [decide_eq_true hset, if_pos rfl]
      exact ⟨hset, hhigh, le_rfl⟩
    · rw [decide_eq_false hset, if_neg Bool.false_ne_true]
      obtain ⟨hle, hlt, hexponent⟩ := ih (Nat.lt_of_not_le hset)
      exact ⟨hle, hlt, Nat.le_succ_of_le hexponent⟩

theorem segment_spec : 2 ^ (segment sample + 7) ≤ biased sample ∧
    biased sample < 2 ^ (segment sample + 8) ∧ segment sample ≤ 7 :=
  ulawExponent_spec (Nat.le_trans (by decide) (le_biased sample)) 7 (biased_lt sample)

/-- A step lies in the upper half of its octave. -/
theorem step_spec : step sample * 2 ^ (segment sample + 3) ≤ biased sample ∧
    biased sample < (step sample + 1) * 2 ^ (segment sample + 3) ∧ 16 ≤ step sample ∧
    step sample < 32 := by
  obtain ⟨hle, hlt, -⟩ := segment_spec sample
  refine ⟨Nat.div_mul_le_self _ _, Nat.lt_mul_of_div_lt (Nat.lt_succ_self _) (by positivity), ?_,
    ?_⟩
  · rw [step, Nat.le_div_iff_mul_le (by positivity), pow_add]
    rw [pow_add] at hle
    omega
  · rw [step, Nat.div_lt_iff_lt_mul (by positivity), pow_add]
    rw [pow_add] at hlt
    omega

/-! ## Decoding what was encoded -/

/-- A sample, clipped as the encoder clips it. -/
def clip : ℤ := max (-32635) (min 32635 sample)

theorem natAbs_clip : (clip sample).natAbs + 132 = biased sample := by
  unfold clip biased
  omega

/-- The magnitude that a sample is decoded to: the middle of its step. -/
def middle : ℕ := (step sample * 8 + 4) * 2 ^ segment sample - 132

theorem bias_le_middle : 132 ≤ (step sample * 8 + 4) * 2 ^ segment sample := by
  obtain ⟨-, -, hlow, -⟩ := step_spec sample
  have hmantissa : 132 ≤ step sample * 8 + 4 := by omega
  exact hmantissa.trans (Nat.le_mul_of_pos_right _ (by positivity))

/-- What a sample comes back as. -/
def decoded : ℤ := if sample < 0 then -(middle sample : ℤ) else middle sample

theorem toNat_linearToUlaw : (linearToUlaw sample).toNat =
    255 - ((if sample < 0 then 128 else 0) + segment sample * 16 + step sample % 16) := by
  obtain ⟨-, -, hsegment⟩ := segment_spec sample
  rw [linearToUlaw, ← biased, ← segment, ← step, UInt8.toNat_ofNat']
  refine Nat.mod_eq_of_lt ?_
  omega

theorem ulawEntry_byte {sign exponent m : ℕ} (hsign : sign = 0 ∨ sign = 128)
    (hexponent : exponent ≤ 7) (hlow : 16 ≤ m) (hhigh : m < 32)
    (hbias : 132 ≤ (m * 8 + 4) * 2 ^ exponent) : ulawEntry (255 - (sign + exponent * 16 + m % 16)) =
      if sign = 128 then -(((m * 8 + 4) * 2 ^ exponent - 132 : ℕ) : ℤ)
      else ((m * 8 + 4) * 2 ^ exponent - 132 : ℕ) := by
  have hval : 255 - (255 - (sign + exponent * 16 + m % 16)) = sign + exponent * 16 + m % 16 := by
    omega
  have hfield : (sign + exponent * 16 + m % 16) / 16 % 8 = exponent := by omega
  have hmantissa : (sign + exponent * 16 + m % 16) % 16 * 8 + 0x84 = m * 8 + 4 := by omega
  have hbit : (sign + exponent * 16 + m % 16) / 128 % 2 = 1 ↔ sign = 128 := by omega
  simp only [ulawEntry, hval, hfield, hmantissa, hbit]
  rw [Nat.cast_sub hbias]
  rfl

/-- **The table inverts the encoder** up to the step. -/
theorem ulawEntry_linearToUlaw :
    ulawEntry (linearToUlaw sample).toNat = decoded sample := by
  obtain ⟨-, -, hsegment⟩ := segment_spec sample
  obtain ⟨-, -, hlow, hhigh⟩ := step_spec sample
  have hbias := bias_le_middle sample
  rw [toNat_linearToUlaw, decoded]
  unfold middle
  generalize step sample = m at *
  generalize segment sample = exponent at *
  by_cases hneg : sample < 0
  · rw [if_pos hneg, if_pos hneg, ulawEntry_byte (.inr rfl) hsegment hlow hhigh hbias, if_pos rfl]
  · rw [if_neg hneg, if_neg hneg, ulawEntry_byte (.inl rfl) hsegment hlow hhigh hbias,
      if_neg (by decide)]

/-- The middle of a step is within half a step of its samples. -/
theorem middle_near :
    middle sample + 132 ≤ biased sample + 4 * 2 ^ segment sample ∧
      biased sample ≤ middle sample + 132 + 4 * 2 ^ segment sample := by
  obtain ⟨hle, hlt, hlow, -⟩ := step_spec sample
  have hwidth : 2 ^ (segment sample + 3) = 8 * 2 ^ segment sample := by ring
  have hmiddle : middle sample + 132 = 8 * (step sample * 2 ^ segment sample) + 4 *
      2 ^ segment sample := by
    have hexpand : (step sample * 8 + 4) * 2 ^ segment sample =
        8 * (step sample * 2 ^ segment sample) + 4 * 2 ^ segment sample := by ring
    have hbias := bias_le_middle sample
    unfold middle
    omega
  have hstart : step sample * 2 ^ (segment sample + 3) = 8 * (step sample * 2 ^ segment sample) :=
    by
    rw [hwidth]
    ring
  have hend : (step sample + 1) * 2 ^ (segment sample + 3) =
      8 * (step sample * 2 ^ segment sample) + 8 * 2 ^ segment sample := by
    rw [hwidth]
    ring
  omega

/-- **The error** of a sample is at most the 32nd part of its biased magnitude. -/
theorem decoded_near : 32 * |decoded sample - clip sample| ≤ |clip sample| + 132 := by
  obtain ⟨hle, -, -⟩ := segment_spec sample
  obtain ⟨hhigh, hlow⟩ := middle_near sample
  have hoctave : 2 ^ (segment sample + 7) = 32 * (4 * 2 ^ segment sample) := by ring
  have hclip := natAbs_clip sample
  have hsame : (decoded sample - clip sample).natAbs ≤ 4 * 2 ^ segment sample := by
    unfold decoded
    split_ifs with hneg
    · have hnonpos : clip sample ≤ 0 := by
        unfold clip
        omega
      omega
    · have hnonneg : 0 ≤ clip sample := by
        unfold clip
        omega
      omega
  rw [Int.abs_eq_natAbs, Int.abs_eq_natAbs]
  omega

theorem middle_mono {a b : ℤ} (h : biased a ≤ biased b) : middle a ≤ middle b := by
  obtain ⟨hleA, -, -⟩ := segment_spec a
  obtain ⟨-, hltB, -⟩ := segment_spec b
  obtain ⟨-, -, -, hhighA⟩ := step_spec a
  obtain ⟨-, -, hlowB, -⟩ := step_spec b
  refine Nat.sub_le_sub_right ?_ 132
  -- the octaves are in order, and within an octave so are the steps
  have hsegment : segment a ≤ segment b := by
    have hpow : 2 ^ (segment a + 7) < 2 ^ (segment b + 8) := (hleA.trans h).trans_lt hltB
    have hexp := (Nat.pow_lt_pow_iff_right (by decide : 1 < 2)).1 hpow
    omega
  rcases Nat.eq_or_lt_of_le hsegment with hsame | hless
  · have hstep : step a ≤ step b := by
      unfold step
      rw [hsame]
      exact Nat.div_le_div_right h
    rw [hsame]
    exact Nat.mul_le_mul_right _ (by omega)
  · calc (step a * 8 + 4) * 2 ^ segment a ≤ 264 * 2 ^ segment a := Nat.mul_le_mul_right _ (by omega)
      _ = 132 * 2 ^ (segment a + 1) := by ring
      _ ≤ 132 * 2 ^ segment b := Nat.mul_le_mul_left _ (Nat.pow_le_pow_right (by decide) hless)
      _ ≤ (step b * 8 + 4) * 2 ^ segment b := Nat.mul_le_mul_right _ (by omega)

/-- **Order is kept**. -/
theorem decoded_mono {a b : ℤ} (h : a ≤ b) : decoded a ≤ decoded b := by
  unfold decoded
  split_ifs with ha hb hb
  · have hmagnitude : middle b ≤ middle a := middle_mono (by unfold biased; omega)
    omega
  · omega
  · omega
  · have hmagnitude : middle a ≤ middle b := middle_mono (by unfold biased; omega)
    omega

/-! ## Bytes -/

theorem isInt16_ulawEntry : ∀ i < 256, IsInt16 (ulawEntry i) := by decide +kernel

theorem isInt16_alawToLinear : ∀ i < 256, IsInt16 (alawToLinear i) := by decide +kernel

/-- The sample of a byte. -/
def ulawSample (b : UInt8) : Sample := ⟨ulawEntry b.toNat, isInt16_ulawEntry _ b.toNat_lt⟩

def alawSample (b : UInt8) : Sample := ⟨alawToLinear b.toNat, isInt16_alawToLinear _ b.toNat_lt⟩

theorem mapM_table {table : List ℤ} {sampleOf : UInt8 → Sample} {bytes : List UInt8}
    (h : ∀ b : UInt8, table[b.toNat]? = some (sampleOf b).val) :
    bytes.mapM (fun b => table[b.toNat]?) = some ((bytes.map sampleOf).map Subtype.val) := by
  induction bytes with
  | nil => rfl
  | cons b bytes ih =>
    rw [List.mapM_cons, ih, h b]
    rfl

/-- **Decoding** never fails. -/
theorem ulawToPcm16_eq (bytes : List UInt8) :
    ulawToPcm16 bytes = some (pcmOf (bytes.map ulawSample)) := by
  have htable : ∀ b : UInt8, ULAW_DECODE[b.toNat]? = some (ulawSample b).val := by
    intro b
    rw [ULAW_DECODE, List.getElem?_map, List.getElem?_range b.toNat_lt]
    rfl
  rw [ulawToPcm16, mapM_table htable]
  exact structPack_samples _

theorem alawToPcm16_eq (bytes : List UInt8) :
    alawToPcm16 bytes = some (pcmOf (bytes.map alawSample)) := by
  have htable : ∀ b : UInt8, ALAW_DECODE[b.toNat]? = some (alawSample b).val := by
    intro b
    rw [ALAW_DECODE, List.getElem?_map, List.getElem?_range b.toNat_lt]
    rfl
  rw [alawToPcm16, mapM_table htable]
  exact structPack_samples _

variable (samples : List Sample)

theorem pcm16ToUlaw_pcmOf :
    pcm16ToUlaw (pcmOf samples) = some (samples.map fun s : Sample => linearToUlaw s.val) := by
  have heven : (pcmOf samples).length % 2 = 0 := by
    rw [length_pcmOf]
    omega
  rw [pcm16ToUlaw, if_pos heven, pcmSamples_pcmOf, List.map_map]
  rfl

/-- The byte that a byte becomes when it is decoded and encoded: there are two zeros, of which the
    encoder writes the positive one. -/
def canonical (b : UInt8) : UInt8 := if b = 0x7f then 0xff else b

theorem linearToUlaw_ulawEntry (b : UInt8) : linearToUlaw (ulawEntry b.toNat) = canonical b := by
  have hall : ∀ i < 256, linearToUlaw (ulawEntry i) = canonical (UInt8.ofNat i) := by decide +kernel
  rw [hall _ b.toNat_lt, UInt8.ofNat_toNat]

theorem ulawSample_canonical (b : UInt8) : ulawSample (canonical b) = ulawSample b := by
  unfold canonical
  split_ifs with hzero
  · rw [hzero]
    exact Subtype.ext (by decide +kernel)
  · rfl

/-! ## The round trips -/

theorem everyThird_samples :
    ∃ kept : List Sample, everyThird (samples.map Subtype.val) = kept.map Subtype.val ∧
      ∀ k, kept[k]? = samples[3 * k]? := by
  have hint16 : ∀ v ∈ everyThird (samples.map Subtype.val), IsInt16 v := by
    intro v hv
    obtain ⟨k, hk⟩ := List.mem_iff_getElem?.1 hv
    rw [getElem?_everyThird, List.getElem?_map] at hk
    obtain ⟨s, -, rfl⟩ := Option.map_eq_some_iff.1 hk
    exact s.2
  obtain ⟨kept, hkept⟩ : ∃ kept : List Sample, kept.map Subtype.val = everyThird
      (samples.map Subtype.val) :=
    CanLift.prf _ hint16
  refine ⟨kept, hkept.symm, fun k => Option.map_injective Subtype.val_injective ?_⟩
  rw [← List.getElem?_map, ← List.getElem?_map, hkept, getElem?_everyThird]

theorem encodeFromPcm16_24k_pcmOf {samples kept : List Sample}
    (h : everyThird (samples.map Subtype.val) = kept.map Subtype.val) :
    encodeFromPcm16_24k (pcmOf samples) = some (kept.map fun s : Sample => linearToUlaw s.val) := by
  rw [encodeFromPcm16_24k, resample24kTo8k, unpackPcm_pcmOf]
  simp only [Option.bind_eq_bind, Option.bind_some, h, structPack_samples, pcm16ToUlaw_pcmOf]

/-- The codec that the outbound loop is given is the bridge. -/
theorem encodeFromPcm16_eq :
    g711CodecBridge.encodeFromPcm16 (pcmOf samples) = encodeFromPcm16_24k (pcmOf samples) := by
  obtain ⟨kept, hkept, -⟩ := everyThird_samples samples
  rw [encodeFromPcm16_24k_pcmOf hkept]
  show (unpackPcm (pcmOf samples)).map (fun samples => (everyThird samples).map linearToUlaw) = _
  rw [unpackPcm_pcmOf, Option.map_some, hkept, List.map_map]
  rfl

/-- `near s d`: `d` is a sample that `s` may come back as. -/
def Near (s d : Sample) : Prop := 32 * |d.val - clip s.val| ≤ |clip s.val| + 132

theorem ulawSample_linearToUlaw (s : Sample) :
    (ulawSample (linearToUlaw s.val)).val = decoded s.val :=
  ulawEntry_linearToUlaw s.val

theorem length_pairs (pairs : List (Sample × Sample)) :
    (pairs.flatMap fun p => [p.1, p.2]).length = 2 * pairs.length := by
  induction pairs with
  | nil => rfl
  | cons p pairs ih =>
    rw [List.flatMap_cons, List.length_append, ih]
    simp only [List.length_cons, List.length_nil]
    omega

/-- **A call over G.711.** Whatever audio one side encodes, the other decodes without failing; of
    every three samples the first comes back, next to a value between it and its successor, within
    the 32nd part of its magnitude and the bias, and a larger sample does not come back smaller.
    Decoded bytes encode to themselves, but for the second zero, and decode to the same. -/
theorem g711_roundTrip (received : List UInt8) :
    (∃ encoded heard, g711CodecBridge.encodeFromPcm16 (pcmOf samples) = some encoded ∧
      decodeToPcm16_16k encoded = some (pcmOf heard) ∧
      heard.length = 2 * ((samples.length + 2) / 3) ∧
      (∀ k s, samples[3 * k]? = some s → ∃ d v, heard[2 * k]? = some d ∧
        heard[2 * k + 1]? = some v ∧ Near s d ∧
        v.val ∈ Set.uIcc d.val ((heard[2 * k + 2]?).getD d).val) ∧
      ∀ j k s t d e, samples[3 * j]? = some s → samples[3 * k]? = some t → heard[2 * j]? = some d →
        heard[2 * k]? = some e → s.val ≤ t.val → d.val ≤ e.val) ∧
    ∃ pcm, ulawToPcm16 received = some pcm ∧ pcm16ToUlaw pcm = some (received.map canonical) ∧
      ulawToPcm16 (received.map canonical) = some pcm := by
  constructor
  · obtain ⟨kept, hkept, hat⟩ := everyThird_samples samples
    have hlength : kept.length = (samples.length + 2) / 3 := by
      have hin : ∀ k, k < kept.length ↔ 3 * k < samples.length := by
        intro k
        rw [← not_le, ← not_le, ← List.getElem?_eq_none_iff, hat k, List.getElem?_eq_none_iff]
      have hlast := hin kept.length
      have hbefore := hin (kept.length - 1)
      omega
    set bytes := kept.map fun s : Sample => linearToUlaw s.val with hbytes
    obtain ⟨pairs, hpairs, hdoubles⟩ := resample8kTo16k_pcmOf (bytes.map ulawSample)
    obtain ⟨heven, hodd⟩ := doubled_between hdoubles
    set heard := pairs.flatMap fun p => [p.1, p.2] with hheard
    have hvalue : ∀ {k s d}, samples[3 * k]? = some s → heard[2 * k]? = some d →
        d.val = decoded s.val := by
      intro k s d hs hd
      rw [heven, List.getElem?_map, hbytes, List.getElem?_map, hat, hs] at hd
      rw [← Option.some.inj hd]
      exact ulawSample_linearToUlaw s
    have hcount : pairs.length = kept.length := by
      rw [← hdoubles.length_eq, List.length_range, List.length_map, List.length_map]
    refine ⟨bytes, heard, ?_, ?_, ?_, ?_, ?_⟩
    · rw [encodeFromPcm16_eq, encodeFromPcm16_24k_pcmOf hkept]
    · rw [decodeToPcm16_16k, ulawToPcm16_eq]
      exact hpairs
    · rw [length_pairs, hcount, hlength]
    · intro k s hs
      have hin : k < (bytes.map ulawSample).length := by
        rw [List.length_map, List.length_map]
        exact (List.getElem?_eq_some_iff.1 ((hat k).trans hs)).1
      obtain ⟨d, v, hd, hv, hbetween⟩ := hodd k hin
      refine ⟨d, v, hd, hv, ?_, hbetween⟩
      unfold Near
      rw [hvalue hs hd]
      exact decoded_near s.val
    · intro j k s t d e hs ht hd he hle
      rw [hvalue hs hd, hvalue ht he]
      exact decoded_mono hle
  · have hagain : (received.map ulawSample).map (fun s : Sample => linearToUlaw s.val) =
        received.map canonical := by
      rw [List.map_map]
      exact List.map_congr_left fun b _ => linearToUlaw_ulawEntry b
    have hsame : (received.map canonical).map ulawSample = received.map ulawSample := by
      rw [List.map_map]
      exact List.map_congr_left fun b _ => ulawSample_canonical b
    refine ⟨_, ulawToPcm16_eq received, ?_, ?_⟩
    · rw [pcm16ToUlaw_pcmOf, hagain]
    · rw [ulawToPcm16_eq, hsame]

end Ekaette.G711
