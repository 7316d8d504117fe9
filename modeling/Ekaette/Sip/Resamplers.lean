import Ekaette.Lib.Truncation
import Ekaette.Sip.OutboundMedia

set_option autoImplicit false

/-! # The resamplers

`resample_8k_to_16k` of `sip_bridge/audio_codec.py`, and `resample_24k_to_16k` and
`_resample_24k_to_rate` of `sip_bridge/codec_bridge.py`, from bytes to bytes, with fractions for the
floats. Reading a sample that is not there and packing a value that is no 16-bit integer raise. -/

namespace Ekaette.Resamplers

open Truncation

/-! ## Samples and bytes -/

/-- The values that `struct.pack` takes for `h`. -/
def IsInt16 (v : ℤ) : Prop := -32768 ≤ v ∧ v ≤ 32767

instance : DecidablePred IsInt16 := fun _ => inferInstanceAs (Decidable (_ ∧ _))

/-- A sample of PCM16. -/
abbrev Sample := { v : ℤ // IsInt16 v }

/-- The two bytes of a value, the low one first. -/
def int16Bytes (v : ℤ) : Pcm :=
  [UInt8.ofNat (v % 65536).toNat, UInt8.ofNat ((v % 65536).toNat / 256)]

/-- `struct.pack(f"<{len(values)}h", *values)`; `none` where it raises. -/
def structPack (values : List ℤ) : Option Pcm :=
  if ∀ v ∈ values, IsInt16 v then some (values.flatMap int16Bytes) else none

variable (samples : List Sample)

/-- The bytes of samples. -/
def pcmOf : Pcm := samples.flatMap (fun s : Sample => int16Bytes s.val)

/-- `samples[i]`; a negative index counts from the end, and one that is out of range raises. -/
def item? (samples : List ℤ) (i : ℤ) : Option ℤ :=
  if 0 ≤ i then samples[i.toNat]?
  else if 0 ≤ samples.length + i then samples[(samples.length + i).toNat]?
  else none

/-! ## The resamplers -/

/-- The body of the loop of `resample_8k_to_16k`: a sample, and the mean of it and the next. -/
def samplePair (samples : List ℤ) (i : ℕ) : Option (List ℤ) := do
  let left ← item? samples i
  let right ← item? samples (i + 1)
  return [left, (left + right).fdiv 2]

/-- `resample_8k_to_16k`; `none` where it raises. -/
def resample8kTo16k (pcm16_8k : Pcm) : Option Pcm := do
  let samples ← unpackPcm pcm16_8k
  let n := samples.length
  if n = 0 then return []
  let pairs ← (List.range (n - 1)).mapM (samplePair samples)
  let last ← item? samples (-1)
  structPack (pairs.flatten ++ [last, last])

/-- The body of the loops: the value at the fractional input index `src`. -/
def interpolate (samples : List ℤ) (src : ℚ) : Option ℤ := do
  let n : ℤ := samples.length
  let idx := truncate src
  let frac := src - idx
  let val ←
    if idx + 1 < n then do
      let left ← item? samples idx
      let right ← item? samples (idx + 1)
      pure (truncate (left * (1 - frac) + right * frac))
    else item? samples (min idx (n - 1))
  return max (-32768) (min 32767 val)

/-- `resample_24k_to_16k`; `none` where it raises. -/
def resample24kTo16k (pcm16_24k : Pcm) : Option Pcm := do
  let samples ← unpackPcm pcm16_24k
  let nOut := samples.length * 2 / 3
  let out ← (List.range nOut).mapM fun i : ℕ => interpolate samples (i * (3 / 2))
  structPack out

/-- `_resample_24k_to_rate`; `none` where it raises. -/
def resample24kToRate (pcm16_24k : Pcm) (targetRate : ℤ) : Option Pcm := do
  let samples ← unpackPcm pcm16_24k
  let ratio : ℚ := targetRate / 24000
  let nOut := (truncate (samples.length * ratio)).toNat
  let out ← (List.range nOut).mapM fun i : ℕ => interpolate samples (i / ratio)
  structPack out

/-! ## Packing -/

theorem pcmSamples_int16Bytes {v : ℤ} (hv : IsInt16 v) (pcm : Pcm) :
    pcmSamples (int16Bytes v ++ pcm) = v :: pcmSamples pcm := by
  obtain ⟨hlow, hhigh⟩ := hv
  have hlowByte : (UInt8.ofNat (v % 65536).toNat).toNat = (v % 65536).toNat % 256 :=
    UInt8.toNat_ofNat'
  have hhighByte : (UInt8.ofNat ((v % 65536).toNat / 256)).toNat = (v % 65536).toNat / 256 := by
    refine UInt8.toNat_ofNat'.trans (Nat.mod_eq_of_lt ?_)
    omega
  rw [int16Bytes, List.cons_append, List.cons_append, List.nil_append, pcmSamples.eq_1, hlowByte,
    hhighByte]
  refine congrArg (fun w => w :: pcmSamples pcm) ?_
  split_ifs <;> omega

theorem pcmSamples_pcmOf :
    pcmSamples (pcmOf samples) = samples.map Subtype.val := by
  induction samples with
  | nil => rfl
  | cons s samples ih =>
    rw [pcmOf, List.flatMap_cons, pcmSamples_int16Bytes s.2, List.map_cons, ← ih]
    rfl

theorem length_pcmOf : (pcmOf samples).length = 2 * samples.length := by
  induction samples with
  | nil => rfl
  | cons s samples ih =>
    rw [pcmOf, List.flatMap_cons, List.length_append, ← pcmOf, ih, List.length_cons]
    show 2 + 2 * samples.length = _
    omega

theorem unpackPcm_pcmOf :
    unpackPcm (pcmOf samples) = some (samples.map Subtype.val) := by
  have heven : (pcmOf samples).length % 2 = 0 := by
    rw [length_pcmOf]
    omega
  rw [unpackPcm, if_pos (.inr heven), pcmSamples_pcmOf]

/-- **Packing samples** never fails. -/
theorem structPack_samples :
    structPack (samples.map Subtype.val) = some (pcmOf samples) := by
  have hall : ∀ v ∈ samples.map Subtype.val, IsInt16 v := by
    intro v hv
    obtain ⟨s, -, rfl⟩ := List.mem_map.1 hv
    exact s.2
  rw [structPack, if_pos hall, List.flatMap_map]
  rfl

/-- What lies between two samples is one. -/
theorem isInt16_of_mem_uIcc {a b : Sample} {v : ℤ} (h : v ∈ Set.uIcc a.val b.val) : IsInt16 v := by
  obtain ⟨hlow, hhigh⟩ := h
  exact ⟨(le_min a.2.1 b.2.1).trans hlow, hhigh.trans (max_le a.2.2 b.2.2)⟩

/-! ## Reading samples -/

theorem item?_natCast (samples : List ℤ) (i : ℕ) : item? samples i = samples[i]? := by
  rw [item?, if_pos (Int.natCast_nonneg i), Int.toNat_natCast]

theorem item?_sample {samples : List Sample} {i : ℕ} {s : Sample} (h : samples[i]? = some s) :
    item? (samples.map Subtype.val) i = some s.val := by
  rw [item?_natCast, List.getElem?_map, h]
  rfl

theorem item?_last {samples : List Sample} {s : Sample}
    (h : samples[samples.length - 1]? = some s) :
    item? (samples.map Subtype.val) (-1) = some s.val := by
  have hpos : samples.length - 1 < samples.length := (List.getElem?_eq_some_iff.1 h).1
  have hindex : ((samples.map Subtype.val).length + -1 : ℤ).toNat = samples.length - 1 := by
    rw [List.length_map]
    omega
  rw [item?, if_neg (by decide), hindex, if_pos (by rw [List.length_map]; omega), List.getElem?_map,
    h]
  rfl

/-! ## From 8 kHz to 16 kHz -/

theorem getElem?_flatMap_pair {α : Type*} (pairs : List (α × α)) (i : ℕ) :
    (pairs.flatMap fun p => [p.1, p.2])[2 * i]? = (pairs[i]?).map Prod.fst ∧
      (pairs.flatMap fun p => [p.1, p.2])[2 * i + 1]? = (pairs[i]?).map Prod.snd := by
  induction pairs generalizing i with
  | nil => exact ⟨rfl, rfl⟩
  | cons p pairs ih =>
    cases i with
    | zero => exact ⟨rfl, rfl⟩
    | succ i => exact ih i

/-- The pair that a sample gives: itself, and a value between it and the next sample, if there is
    one. -/
def Doubles (i : ℕ) (p : Sample × Sample) : Prop :=
  samples[i]? = some p.1 ∧ p.2.val ∈ Set.uIcc p.1.val ((samples[i + 1]?).getD p.1).val

theorem midpoint_mem_uIcc (a b : ℤ) : (a + b).fdiv 2 ∈ Set.uIcc a b := by
  rw [Int.fdiv_eq_ediv_of_nonneg _ (by decide), Set.mem_uIcc]
  omega

theorem samplePair_doubles {samples : List Sample} {i : ℕ} (hi : i + 1 < samples.length) :
    ∃ p : Sample × Sample, samplePair (samples.map Subtype.val) i = some [p.1.val, p.2.val] ∧
    Doubles samples i p := by
  have hleft := List.getElem?_eq_getElem (Nat.lt_of_succ_lt hi)
  have hright := List.getElem?_eq_getElem hi
  have hnext := item?_sample hright
  rw [Nat.cast_succ] at hnext
  refine ⟨(samples[i],
    ⟨_, isInt16_of_mem_uIcc (midpoint_mem_uIcc samples[i].val samples[i + 1].val)⟩), ?_, hleft, ?_⟩
  · rw [samplePair, item?_sample hleft, hnext]
    rfl
  · rw [hright]
    exact midpoint_mem_uIcc _ _

/-- **Doubling**: every sample gives its pair. -/
theorem resample8kTo16k_pcmOf :
    ∃ pairs : List (Sample × Sample),
      resample8kTo16k (pcmOf samples) = some (pcmOf (pairs.flatMap fun p => [p.1, p.2])) ∧
        List.Forall₂ (Doubles samples) (List.range samples.length) pairs := by
  rw [resample8kTo16k, unpackPcm_pcmOf]
  by_cases hempty : samples.length = 0
  · obtain rfl := List.eq_nil_of_length_eq_zero hempty
    exact ⟨[], rfl, .nil⟩
  obtain ⟨k, hk⟩ := Nat.exists_eq_succ_of_ne_zero hempty
  obtain ⟨last, hlast⟩ : ∃ last, samples[k]? = some last := ⟨_, List.getElem?_eq_getElem (by omega)⟩
  obtain ⟨pairs, hpairs, hdoubles⟩ := mapM_forall₂ (R := Doubles samples)
    (f := samplePair (samples.map Subtype.val))
    (g := fun p : Sample × Sample => [p.1.val, p.2.val]) (l := List.range k)
    (fun i hi => samplePair_doubles (by rw [List.mem_range] at hi; omega))
  -- the last sample has no next one, and is doubled
  refine ⟨pairs ++ [(last, last)], ?_, ?_⟩
  · have hend : item? (samples.map Subtype.val) (-1) = some last.val :=
      item?_last (by rw [hk]; exact hlast)
    have hvalues : (pairs.map fun p => [p.1.val, p.2.val]).flatten ++ [last.val, last.val] =
        ((pairs ++ [(last, last)]).flatMap fun p => [p.1, p.2]).map Subtype.val := by
      rw [List.flatMap_append, List.map_append, List.map_flatMap, ← List.flatMap_def]
      rfl
    rw [Option.bind_eq_bind, Option.bind_some, List.length_map, if_neg hempty, hk, Nat.succ_sub_one,
      hpairs, hend]
    show structPack _ = _
    rw [hvalues]
    exact structPack_samples _
  · rw [hk, List.range_succ]
    refine List.rel_append hdoubles (.cons ⟨hlast, ?_⟩ .nil)
    rw [List.getElem?_eq_none (by omega)]
    exact Set.left_mem_uIcc

/-- Of the doubled samples the even ones are the input, and an odd one lies between its
    neighbours. -/
theorem doubled_between {samples : List Sample} {pairs : List (Sample × Sample)}
    (h : List.Forall₂ (Doubles samples) (List.range samples.length) pairs) :
    (∀ i, (pairs.flatMap fun p => [p.1, p.2])[2 * i]? = samples[i]?) ∧
      ∀ i < samples.length, ∃ left v, (pairs.flatMap fun p => [p.1, p.2])[2 * i]? = some left ∧
        (pairs.flatMap fun p => [p.1, p.2])[2 * i + 1]? = some v ∧
        v.val ∈ Set.uIcc left.val (((pairs.flatMap fun p => [p.1, p.2])[2 * i + 2]?).getD
          left).val := by
  obtain ⟨hlength, hdoubles⟩ := forall₂_range h
  have hpair : ∀ i < samples.length, ∃ p, pairs[i]? = some p ∧ Doubles samples i p := by
    intro i hi
    have hat := List.getElem?_eq_getElem (l := pairs) (i := i) (by rwa [hlength])
    exact ⟨_, hat, hdoubles i _ hat⟩
  have heven : ∀ i, (pairs.flatMap fun p => [p.1, p.2])[2 * i]? = samples[i]? := by
    intro i
    rw [(getElem?_flatMap_pair pairs i).1]
    by_cases hi : i < samples.length
    · obtain ⟨p, hp, hdouble⟩ := hpair i hi
      rw [hp, hdouble.1]
      rfl
    · rw [List.getElem?_eq_none (by omega), List.getElem?_eq_none (by omega)]
      rfl
  refine ⟨heven, fun i hi => ?_⟩
  obtain ⟨p, hp, hsample, hmem⟩ := hpair i hi
  refine ⟨p.1, p.2, ?_, ?_, ?_⟩
  · rw [heven, hsample]
  · rw [(getElem?_flatMap_pair pairs i).2, hp]
    rfl
  · -- the next even position holds the next sample, if there is one
    have hnext := heven (i + 1)
    rw [Nat.mul_succ] at hnext
    rw [hnext]
    exact hmem

example : resample8kTo16k (pcmOf [⟨-3, by decide⟩, ⟨0, by decide⟩]) =
    some (pcmOf [⟨-3, by decide⟩, ⟨-2, by decide⟩, ⟨0, by decide⟩, ⟨0, by decide⟩]) := by decide

/-! ## From 24 kHz to 16 kHz -/

/-- **Interpolation** between two samples, at a position of which the first is the integer part. -/
theorem interpolate_between {samples : List Sample} {src : ℚ} {k : ℕ} {left right : Sample}
    (hk : truncate src = k) (hlow : (k : ℚ) ≤ src) (hhigh : src ≤ k + 1)
    (hleft : samples[k]? = some left) (hright : samples[k + 1]? = some right) :
    ∃ v : Sample, interpolate (samples.map Subtype.val) src = some v.val ∧
      v.val ∈ Set.uIcc left.val right.val ∧ (src = k → v = left) := by
  have hlt : k + 1 < samples.length := (List.getElem?_eq_some_iff.1 hright).1
  have hmem : truncate (left.val * (1 - (src - k)) + right.val * (src - k)) ∈
      Set.uIcc left.val right.val :=
    truncate_mean_mem_uIcc _ _ (by linarith) (by linarith)
  have hint := isInt16_of_mem_uIcc hmem
  refine ⟨⟨_, hint⟩, ?_, hmem, fun hsrc => Subtype.ext ?_⟩
  · have hnext := item?_sample hright
    rw [Nat.cast_succ] at hnext
    rw [interpolate]
    dsimp only
    rw [hk, if_pos (by rw [List.length_map]; omega), item?_sample hleft, hnext, Int.cast_natCast]
    -- a sample is not clamped
    show some (max (-32768) (min 32767 _)) = some _
    rw [min_eq_right hint.2, max_eq_right hint.1]
  · show truncate (left.val * (1 - (src - k)) + right.val * (src - k)) = left.val
    rw [hsrc, sub_self, sub_zero, mul_one, mul_zero, add_zero, truncate_intCast]

/-- The value at an output position: between the two samples around it, and the sample at it if
    there is one. -/
def Between (i : ℕ) (v : Sample) : Prop :=
  ∃ left right, samples[3 * i / 2]? = some left ∧ samples[3 * i / 2 + 1]? = some right ∧
    v.val ∈ Set.uIcc left.val right.val ∧ (2 ∣ i → v = left)

theorem interpolate_threeHalves {samples : List Sample} {i : ℕ} (hi : i < samples.length * 2 / 3) :
    ∃ v : Sample, interpolate (samples.map Subtype.val) (i * (3 / 2)) = some v.val ∧
    Between samples i v := by
  have hleft := List.getElem?_eq_getElem (l := samples) (i := 3 * i / 2) (by omega)
  have hright := List.getElem?_eq_getElem (l := samples) (i := 3 * i / 2 + 1) (by omega)
  have hsrc : (i : ℚ) * (3 / 2) = ((3 * i : ℕ) : ℤ) / (2 : ℕ) := by
    push_cast
    ring
  have hk : truncate ((i : ℚ) * (3 / 2)) = (3 * i / 2 : ℕ) := by
    rw [hsrc, truncate_div, Int.tdiv_eq_ediv_of_nonneg (Int.natCast_nonneg _)]
    rfl
  have hlow : ((3 * i / 2 : ℕ) : ℚ) * 2 ≤ 3 * i := by exact_mod_cast Nat.div_mul_le_self (3 * i) 2
  have hhigh : (3 * i : ℚ) ≤ ((3 * i / 2 : ℕ) + 1) * 2 := by
    have hnat : 3 * i ≤ (3 * i / 2 + 1) * 2 := by omega
    exact_mod_cast hnat
  obtain ⟨v, hv, hmem, heven⟩ := interpolate_between hk (by linarith) (by linarith) hleft hright
  refine ⟨v, hv, _, _, hleft, hright, hmem, fun htwo => heven ?_⟩
  obtain ⟨j, rfl⟩ := htwo
  have hexact : 3 * (2 * j) / 2 = 3 * j := by omega
  rw [hexact]
  push_cast
  ring

/-- **Three samples give two.** -/
theorem resample24kTo16k_pcmOf :
    ∃ out : List Sample, resample24kTo16k (pcmOf samples) = some (pcmOf out) ∧
      List.Forall₂ (Between samples) (List.range (samples.length * 2 / 3)) out := by
  obtain ⟨out, hout, hbetween⟩ := mapM_forall₂ (R := Between samples) (g := Subtype.val)
    (f := fun i : ℕ => interpolate (samples.map Subtype.val) (i * (3 / 2)))
    (l := List.range (samples.length * 2 / 3))
    (fun i hi => interpolate_threeHalves (List.mem_range.1 hi))
  refine ⟨out, ?_, hbetween⟩
  rw [resample24kTo16k, unpackPcm_pcmOf, Option.bind_eq_bind, Option.bind_some, List.length_map]
  dsimp only
  rw [hout]
  exact structPack_samples out

example : resample24kTo16k (pcmOf [⟨5, by decide⟩, ⟨0, by decide⟩, ⟨-7, by decide⟩]) =
    some (pcmOf [⟨5, by decide⟩, ⟨-3, by decide⟩]) := by decide +kernel

/-! ## To any rate -/

/-- How many samples the generic resampler gives. -/
theorem toNat_truncate_rate (n rate : ℕ) :
    (truncate ((n : ℚ) * ((rate : ℚ) / 24000))).toNat = n * rate / 24000 := by
  have hquotient : (n : ℚ) * (rate / 24000) = ((n * rate : ℕ) : ℤ) / (24000 : ℕ) := by
    push_cast
    ring
  rw [hquotient, truncate_div, Int.tdiv_eq_ediv_of_nonneg (Int.natCast_nonneg _)]
  rfl

/-- **The generic resampler** at 16 kHz is the one for 16 kHz. -/
theorem resample24kToRate_16000 (pcm : Pcm) :
    resample24kToRate pcm 16000 = resample24kTo16k pcm := by
  have hcount : ∀ n : ℕ, (truncate ((n : ℚ) * (((16000 : ℤ) : ℚ) / 24000))).toNat = n * 2 / 3 := by
    intro n
    have hrate : n * 16000 / 24000 = n * 2 / 3 := by omega
    exact (toNat_truncate_rate n 16000).trans hrate
  have hsrc : ∀ i : ℕ, (i : ℚ) / (((16000 : ℤ) : ℚ) / 24000) = i * (3 / 2) := by
    intro i
    rw [div_eq_mul_inv]
    norm_num
  rw [resample24kToRate, resample24kTo16k]
  simp only [hcount, hsrc]

/-! ## All three -/

/-- **The resamplers stay in range and keep time**, for every list of samples. From 8 kHz: the even
    positions are the input, an odd one lies between its neighbours. From 24 kHz: every position
    lies between the two samples around it, and is the sample there if there is one. What is packed
    are samples. -/
theorem resamplers_inRange :
    (∃ out : List Sample, resample8kTo16k (pcmOf samples) = some (pcmOf out) ∧
      out.length = 2 * samples.length ∧ (∀ i, out[2 * i]? = samples[i]?) ∧
      ∀ i < samples.length, ∃ left v, out[2 * i]? = some left ∧ out[2 * i + 1]? = some v ∧
        v.val ∈ Set.uIcc left.val ((out[2 * i + 2]?).getD left).val) ∧
    (∃ out : List Sample, resample24kTo16k (pcmOf samples) = some (pcmOf out) ∧
      out.length = samples.length * 2 / 3 ∧ ∀ i v, out[i]? = some v → Between samples i v) ∧
    resample24kToRate (pcmOf samples) 16000 = resample24kTo16k (pcmOf samples) := by
  refine ⟨?_, ?_, resample24kToRate_16000 _⟩
  · obtain ⟨pairs, hpairs, hdoubles⟩ := resample8kTo16k_pcmOf samples
    have hlength : pairs.length = samples.length := (forall₂_range hdoubles).1
    refine ⟨_, hpairs, ?_, doubled_between hdoubles⟩
    rw [List.length_flatMap, ← hlength]
    simp [mul_comm]
  · obtain ⟨out, hout, hbetween⟩ := resample24kTo16k_pcmOf samples
    exact ⟨out, hout, forall₂_range hbetween⟩

end Ekaette.Resamplers
