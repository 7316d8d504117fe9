import Ekaette.Sip.RtpStream
import Mathlib.Algebra.BigOperators.Group.List.Basic
import Mathlib.Data.List.GetD
import Mathlib.Data.List.SplitLengths

set_option autoImplicit false

/-! # Splitting the outbound audio into chunks

`encode_from_pcm16_24k` of the G.711 bridge starts anew with every chunk: it takes every third
sample of the chunk, and nothing of a chunk with an odd number of bytes. So what is sent depends on
where the stream is cut. Whether it does is decided by the lengths of the chunks alone. -/

namespace Ekaette

/-! ## What a chunk gives -/

variable (pcm : Pcm)

/-- The encoded bytes of a chunk; none where encoding raises. -/
def g711Bytes : List UInt8 := (g711CodecBridge.encodeFromPcm16 pcm).getD []

/-- The number of bytes that a chunk of `n` bytes gives. -/
def outputs (n : ℕ) : ℕ := if n % 2 = 0 then (n + 5) / 6 else 0

/-- The sample of two bytes. -/
def int16 (low high : UInt8) : ℤ :=
  let n : ℤ := low.toNat + 256 * high.toNat
  if n < 32768 then n else n - 65536

/-- The sample at a byte position. -/
def sampleAt (i : ℕ) : ℤ := int16 (pcm.getD i 0) (pcm.getD (i + 1) 0)

theorem pcmSamples_cons (low high : UInt8) (pcm : Pcm) :
    pcmSamples (low :: high :: pcm) = int16 low high :: pcmSamples pcm := by
  rw [pcmSamples.eq_1]
  congr 1

theorem getElem?_pcmSamples (k : ℕ) :
    (pcmSamples pcm)[k]? = if 2 * k + 1 < pcm.length then some (sampleAt pcm (2 * k)) else
    none := by
  induction pcm using pcmSamples.induct generalizing k with
  | case1 low high pcm ih =>
    rw [pcmSamples_cons]
    cases k with
    | zero =>
      have hfirst : 2 * 0 + 1 < (low :: high :: pcm).length := by
        rw [List.length_cons, List.length_cons]
        omega
      rw [if_pos hfirst]
      rfl
    | succ k =>
      rw [List.getElem?_cons_succ, ih]
      have hshift : sampleAt (low :: high :: pcm) (2 * (k + 1)) = sampleAt pcm (2 * k) := rfl
      rw [hshift, List.length_cons, List.length_cons]
      exact if_congr (by omega) rfl rfl
  | case2 pcm hshort =>
    have hlength : pcm.length ≤ 1 := by
      rcases pcm with _ | ⟨low, _ | ⟨high, pcm⟩⟩
      · exact Nat.zero_le 1
      · exact le_rfl
      · exact absurd rfl (hshort low high pcm)
    have hnil : pcmSamples pcm = [] := by
      rw [← List.length_eq_zero_iff, length_pcmSamples]
      omega
    rw [hnil, if_neg (by omega), List.getElem?_nil]

theorem getElem?_everyThird (samples : List ℤ) (k : ℕ) :
    (everyThird samples)[k]? = samples[3 * k]? := by
  induction samples using everyThird.induct generalizing k with
  | case1 a b c samples ih =>
    rw [everyThird]
    cases k with
    | zero => rfl
    | succ k => rw [List.getElem?_cons_succ, ih]; rfl
  | case2 a samples hshort =>
    have hlength : samples.length ≤ 1 := by
      rcases samples with _ | ⟨b, _ | ⟨c, samples⟩⟩
      · exact Nat.zero_le 1
      · exact le_rfl
      · exact absurd rfl (hshort b c samples)
    have hone : everyThird (a :: samples) = [a] := by
      rcases samples with _ | ⟨b, _ | ⟨c, samples⟩⟩
      · rfl
      · rfl
      · exact absurd rfl (hshort b c samples)
    rw [hone]
    cases k with
    | zero => rfl
    | succ k =>
      rw [List.getElem?_eq_none (by rw [List.length_singleton]; omega),
        List.getElem?_eq_none (by rw [List.length_cons]; omega)]
  | case3 => rfl

/-- **What a chunk gives**: the encoded samples at every sixth byte. -/
theorem getElem?_g711Bytes (k : ℕ) :
    (g711Bytes pcm)[k]? =
      if k < outputs pcm.length then some (linearToUlaw (sampleAt pcm (6 * k))) else none := by
  have hcodec : g711CodecBridge.encodeFromPcm16 pcm =
      (unpackPcm pcm).map (fun samples => (everyThird samples).map linearToUlaw) := rfl
  have hindex : 2 * (3 * k) = 6 * k := by omega
  rw [g711Bytes, hcodec, unpackPcm, outputs]
  by_cases heven : pcm.length % 2 = 0
  · rw [if_pos (.inr heven), if_pos heven, Option.map_some, Option.getD_some, List.getElem?_map,
      getElem?_everyThird, getElem?_pcmSamples, hindex]
    by_cases hk : k < (pcm.length + 5) / 6
    · rw [if_pos (by omega), if_pos hk, Option.map_some]
    · rw [if_neg (by omega), if_neg hk, Option.map_none]
  · rw [if_neg heven, if_neg (Nat.not_lt_zero k)]
    by_cases hzero : pcm.length / 2 = 0
    · have hnil : pcmSamples pcm = [] := by
        rw [← List.length_eq_zero_iff, length_pcmSamples, hzero]
      rw [if_pos (.inl hzero), hnil]
      rfl
    · rw [if_neg (fun h => h.elim hzero heven)]
      rfl

theorem length_g711Bytes : (g711Bytes pcm).length = outputs pcm.length := by
  have hget := getElem?_g711Bytes pcm
  apply Nat.le_antisymm
  · rw [← List.getElem?_eq_none_iff, hget, if_neg (lt_irrefl _)]
  · by_contra hlt
    have hsome := hget (g711Bytes pcm).length
    rw [if_pos (Nat.lt_of_not_le hlt), List.getElem?_eq_none le_rfl] at hsome
    cases hsome

/-! ## What the chunks of a stream give -/

variable (lengths : List ℕ)

/-- The number of bytes that chunks of these lengths give. -/
def totalOutputs : ℕ := (lengths.map outputs).sum

/-- The encoded bytes of the chunks of a stream. -/
def g711Stream (chunks : List Pcm) : List UInt8 := chunks.flatMap g711Bytes

theorem length_g711Stream (chunks : List Pcm) :
    (g711Stream chunks).length = totalOutputs (chunks.map List.length) := by
  rw [g711Stream, List.length_flatMap, totalOutputs, List.map_map]
  exact congrArg List.sum (List.map_congr_left (fun pcm _ => length_g711Bytes pcm))

theorem sampleAt_append_left {pcm : Pcm} (rest : Pcm) {i : ℕ} (hi : i + 1 < pcm.length) :
    sampleAt (pcm ++ rest) i = sampleAt pcm i := by
  rw [sampleAt, sampleAt, List.getD_append _ _ _ _ (by omega), List.getD_append _ _ _ _ hi]

theorem sampleAt_append_right (before pcm : Pcm) (i : ℕ) :
    sampleAt (before ++ pcm) (before.length + i) = sampleAt pcm i := by
  have hget : ∀ j, (before ++ pcm).getD (before.length + j) 0 = pcm.getD j 0 := by
    intro j
    rw [List.getD_append_right _ _ _ _ (Nat.le_add_right _ j), Nat.add_sub_cancel_left]
  rw [sampleAt, sampleAt, hget, Nat.add_assoc, hget]

/-- **The byte number `k`** of the encoded chunks is a sample of the chunk it comes from. -/
theorem getElem?_g711Stream (before : List Pcm) (chunk : Pcm) (after : List Pcm) {j : ℕ}
    (hj : j < outputs chunk.length) :
    (g711Stream (before ++ chunk :: after))[totalOutputs (before.map List.length) + j]? =
      some (linearToUlaw (sampleAt (before ++ chunk :: after).flatten
        ((before.map List.length).sum + 6 * j))) := by
  have hinside : 6 * j + 1 < chunk.length := by
    rw [outputs] at hj
    split_ifs at hj with heven
    · omega
    · omega
  have hbefore : (before.map List.length).sum = before.flatten.length := (List.length_flatten).symm
  rw [g711Stream, List.flatMap_append, List.flatMap_cons, ← g711Stream, ← g711Stream,
    ← length_g711Stream, List.getElem?_append_right (Nat.le_add_right _ j), Nat.add_sub_cancel_left,
    List.getElem?_append_left (by rw [length_g711Bytes]; exact hj), getElem?_g711Bytes, if_pos hj,
    List.flatten_append, List.flatten_cons, hbefore, sampleAt_append_right,
    sampleAt_append_left _ hinside]

/-- Every byte of the encoded chunks comes from one of them. -/
theorem exists_chunk_of_lt {chunks : List Pcm} {k : ℕ}
    (hk : k < totalOutputs (chunks.map List.length)) :
    ∃ before chunk after j, chunks = before ++ chunk :: after ∧ j < outputs chunk.length ∧
      k = totalOutputs (before.map List.length) + j := by
  induction chunks generalizing k with
  | nil => exact absurd hk (Nat.not_lt_zero k)
  | cons chunk chunks ih =>
    have htotal : totalOutputs ((chunk :: chunks).map List.length) =
        outputs chunk.length + totalOutputs (chunks.map List.length) := by
      rw [totalOutputs, List.map_cons, List.map_cons, List.sum_cons, ← totalOutputs]
    by_cases hfirst : k < outputs chunk.length
    · exact ⟨[], chunk, chunks, k, rfl, hfirst, (Nat.zero_add k).symm⟩
    · obtain ⟨before, chunk', after, j, hchunks, hj, hkj⟩ :=
        ih (k := k - outputs chunk.length) (by omega)
      refine ⟨chunk :: before, chunk', after, j, by rw [hchunks]; rfl, hj, ?_⟩
      rw [totalOutputs, List.map_cons, List.map_cons, List.sum_cons, ← totalOutputs]
      omega

/-! ## Full frames -/

/-- The full frames of a stream of encoded bytes. -/
def fullFrames (bytes : List UInt8) : List UInt8 := bytes.take (160 * (bytes.length / 160))

theorem length_fullFrames (bytes : List UInt8) :
    (fullFrames bytes).length = 160 * (bytes.length / 160) := by
  rw [fullFrames, List.length_take]
  omega

/-- **The chunks are on the grid**: each chunk that gives one of the first `need` bytes starts six
    times as many bytes into the stream as bytes were given before it. -/
def OnGrid (need : ℕ) (lengths : List ℕ) : Prop :=
  ∀ before n after, lengths = before ++ n :: after → 0 < outputs n → totalOutputs before < need →
    before.sum = 6 * totalOutputs before

/-- **The condition on the chunk lengths**: as many full frames as in one piece, and on the grid
    within them. -/
def SplitsWell : Prop :=
  totalOutputs lengths / 160 = outputs lengths.sum / 160 ∧
    OnGrid (160 * (outputs lengths.sum / 160)) lengths

theorem sum_lengths (chunks : List Pcm) : (chunks.map List.length).sum = chunks.flatten.length :=
  (List.length_flatten).symm

/-- The encoded bytes of a stream in one piece. -/
theorem getElem?_g711Stream_single (stream : Pcm) {k : ℕ} (hk : k < outputs stream.length) :
    (g711Stream [stream])[k]? = some (linearToUlaw (sampleAt stream (6 * k))) := by
  rw [g711Stream, List.flatMap_singleton, getElem?_g711Bytes, if_pos hk]

theorem fullFrames_of_splitsWell {chunks : List Pcm} (h : SplitsWell (chunks.map List.length)) :
    fullFrames (g711Stream chunks) = fullFrames (g711Stream [chunks.flatten]) := by
  obtain ⟨hframes, hgrid⟩ := h
  rw [sum_lengths] at hframes hgrid
  have hsingle : (g711Stream [chunks.flatten]).length = outputs chunks.flatten.length := by
    rw [length_g711Stream]
    exact Nat.add_zero _
  rw [fullFrames, fullFrames, length_g711Stream, hsingle, hframes]
  refine List.ext_getElem? (fun k => ?_)
  rw [List.getElem?_take, List.getElem?_take]
  by_cases hk : k < 160 * (outputs chunks.flatten.length / 160)
  · rw [if_pos hk, if_pos hk, getElem?_g711Stream_single chunks.flatten (by omega)]
    have hlt : k < totalOutputs (chunks.map List.length) := by omega
    obtain ⟨before, chunk, after, j, rfl, hj, rfl⟩ := exists_chunk_of_lt hlt
    rw [getElem?_g711Stream before chunk after hj]
    have hstart := hgrid (before.map List.length) chunk.length (after.map List.length)
      (by rw [List.map_append, List.map_cons]) (by omega) (by omega)
    rw [hstart]
    congr 3
    omega
  · rw [if_neg hk, if_neg hk]

/-! ## A stream that tells positions apart -/

/-- Silence but for one high byte. -/
def markedStream (length i : ℕ) : Pcm := (List.replicate length 0).set (i + 1) 64

theorem getD_markedStream (length i j : ℕ) :
    (markedStream length i).getD j 0 = if i + 1 = j ∧ j < length then 64 else 0 := by
  rw [markedStream, List.getD_eq_getElem?_getD, List.getElem?_set, List.length_replicate]
  by_cases hj : i + 1 = j
  · rw [if_pos hj, hj]
    by_cases hlength : j < length
    · rw [if_pos hlength, if_pos ⟨rfl, hlength⟩]
      rfl
    · rw [if_neg hlength, if_neg (fun h => hlength h.2)]
      rfl
  · rw [if_neg hj, if_neg (fun h => hj h.1), List.getElem?_replicate]
    split_ifs
    · rfl
    · rfl

theorem sampleAt_markedStream {length i j : ℕ} (hi : i + 1 < length) (hj : j < i) :
    linearToUlaw (sampleAt (markedStream length i) i) ≠ linearToUlaw
    (sampleAt (markedStream length i) j) := by
  rw [sampleAt, sampleAt, getD_markedStream, getD_markedStream, getD_markedStream,
    getD_markedStream, if_neg (by omega), if_pos ⟨rfl, hi⟩, if_neg (by omega), if_neg (by omega)]
  decide +kernel

theorem length_markedStream (length i : ℕ) : (markedStream length i).length = length := by
  rw [markedStream, List.length_set, List.length_replicate]

theorem exists_stream_of_ne {length a b : ℕ} (ha : a + 1 < length) (hb : b + 1 < length)
    (hne : a ≠ b) : ∃ stream : Pcm, stream.length = length ∧
      linearToUlaw (sampleAt stream a) ≠ linearToUlaw (sampleAt stream b) := by
  rcases Nat.lt_or_gt_of_ne hne with hlt | hlt
  · exact ⟨markedStream length b, length_markedStream length b, (sampleAt_markedStream hb hlt).symm⟩
  · exact ⟨markedStream length a, length_markedStream length a, sampleAt_markedStream ha hlt⟩

theorem exists_chunks {stream : Pcm} (hstream : stream.length = lengths.sum) :
    ∃ chunks : List Pcm, chunks.map List.length = lengths ∧ chunks.flatten = stream :=
  ⟨lengths.splitLengths stream, List.map_splitLengths_length _ _ hstream.ge,
    List.flatten_splitLengths _ _ hstream.le⟩

theorem splitsWell_of_fullFrames {lengths : List ℕ}
    (h : ∀ chunks : List Pcm, chunks.map List.length = lengths →
      fullFrames (g711Stream chunks) = fullFrames (g711Stream [chunks.flatten])) :
        SplitsWell lengths := by
  have hsingle : ∀ stream : Pcm, (g711Stream [stream]).length = outputs stream.length := by
    intro stream
    rw [length_g711Stream]
    exact Nat.add_zero _
  have hlength : ∀ chunks : List Pcm, chunks.map List.length = lengths →
      totalOutputs lengths / 160 = outputs lengths.sum / 160 := by
    intro chunks hchunks
    have hsame := congrArg List.length (h chunks hchunks)
    rw [length_fullFrames, length_fullFrames, length_g711Stream, hsingle, hchunks, ← sum_lengths,
      hchunks] at hsame
    omega
  obtain ⟨silent, hsilent, -⟩ := exists_chunks lengths (length_markedStream lengths.sum 0)
  have hframes := hlength silent hsilent
  refine ⟨hframes, fun before n after hlengths hn hneed => ?_⟩
  by_contra hoff
  -- a stream in which the sample that is taken and the one that should be taken differ
  have heven : n % 2 = 0 ∧ 2 ≤ n := by
    rw [outputs] at hn
    split_ifs at hn with heven
    · omega
    · exact absurd hn (lt_irrefl 0)
  have hsum : lengths.sum = before.sum + (n + after.sum) := by
    rw [hlengths, List.sum_append, List.sum_cons]
  have hwhole : lengths.sum % 2 = 0 := by
    by_contra hodd
    rw [outputs, if_neg hodd] at hneed
    omega
  have hinside : 6 * totalOutputs before + 1 < lengths.sum := by
    rw [outputs, if_pos hwhole] at hneed
    omega
  have hstart : before.sum + 1 < lengths.sum := by omega
  obtain ⟨stream, hstream, hdiffer⟩ := exists_stream_of_ne hstart hinside hoff
  obtain ⟨chunks, hchunks, hflatten⟩ := exists_chunks lengths hstream
  have hsame := h chunks hchunks
  obtain ⟨front, back, hsplit, hfront, hback⟩ := List.map_eq_append_iff.1 (hchunks.trans hlengths)
  obtain ⟨chunk, rest, rfl, hchunk, -⟩ := List.map_eq_cons_iff.1 hback
  have hget := getElem?_g711Stream front chunk rest (j := 0) (by rw [hchunk]; exact hn)
  have hwholeGet :=
    getElem?_g711Stream_single stream (k := totalOutputs before) (by rw [hstream]; omega)
  rw [hfront, ← hsplit, hflatten, Nat.add_zero, Nat.mul_zero, Nat.add_zero] at hget
  have hk := congrArg (fun l => l[totalOutputs before]?) hsame
  rw [fullFrames, fullFrames, List.getElem?_take, List.getElem?_take, length_g711Stream, hchunks,
    hsingle,
    hflatten, hstream, hframes, if_pos hneed, if_pos hneed, hget, hwholeGet, Option.some_inj] at hk
  exact hdiffer hk

/-- **Chunk lengths decide.** What is sent of the full frames is the same as in one piece for every
    stream exactly when the lengths are on the grid. -/
theorem fullFrames_iff_splitsWell :
    (∀ chunks : List Pcm, chunks.map List.length = lengths →
      fullFrames (g711Stream chunks) = fullFrames (g711Stream [chunks.flatten])) ↔
        SplitsWell lengths :=
  ⟨splitsWell_of_fullFrames, fun h _ hchunks => fullFrames_of_splitsWell (hchunks ▸ h)⟩

/-! ## Runs of the loop -/

/-- The G.711 bridge in the outbound loop. -/
def g711Codec : OutboundCodec Unit := fun _ pcm => ((), g711CodecBridge.encodeFromPcm16 pcm)

/-- The items the loop takes from the queue. -/
def takenItems (log : List (EventMachine.Entry (RtpLoop Unit) RtpEvent RtpAnswer)) : List Pcm :=
  log.filterMap (fun t => match t.event with
    | .item pcm => if t.pre.waiting = .item then some pcm else none
    | _ => none)

/-- The payloads that are sent. -/
def sentAudio (answers : List RtpAnswer) : List UInt8 :=
  (((answers.filterMap (·.built)).filter (·.sent)).map (·.packet.payload)).flatten

/-- The loop of a call with a phone that can be reached. -/
abbrev g711Start : RtpLoop Unit := RtpLoop.start false true ()

/-- **The chunks are delivered**: the loop takes these items, and has sent what it can. -/
structure Delivered (ssrc : UInt32) (chunks : List Pcm) (es : List RtpEvent) : Prop where
  reachable : RtpEvent.transport false ∉ es
  taken : takenItems ((rtpMachine g711Codec ssrc).trace g711Start es) = chunks
  waits : ((rtpMachine g711Codec ssrc).run g711Start es).waiting = .item

variable (ssrc : UInt32)

variable (chunks : List Pcm)

/-- **Chunk independence**: the same is sent as when the stream is delivered in one piece. -/
def ChunkIndependent : Prop :=
  ∀ es es', Delivered ssrc chunks es → Delivered ssrc [chunks.flatten] es' →
    sentAudio (rtpAnswers g711Codec ssrc g711Start es) =
      sentAudio (rtpAnswers g711Codec ssrc g711Start es')

/-- What holds in a run with a phone that can be reached. -/
structure DeliveryInvariant (log : List (EventMachine.Entry (RtpLoop Unit) RtpEvent RtpAnswer))
    (s : RtpLoop Unit) : Prop where
  reachable : s.reachable = true
  sent : ∀ a ∈ log.map (·.answer), ∀ b, a.built = some b → b.sent = true
  encoded : (encodings (log.map (·.answer))).flatten = g711Stream (takenItems log)

theorem proceed_reachable {s : RtpLoop Unit} (hs : s.reachable = true) :
    (s.proceed ssrc).1.reachable = true ∧ ∀ b, (s.proceed ssrc).2 = some b → b.sent = true := by
  rw [RtpLoop.proceed]
  split_ifs
  · exact ⟨hs, fun b hb => by cases hb⟩
  · exact ⟨hs, fun b hb => by cases hb⟩
  · refine ⟨hs, fun b hb => ?_⟩
    rw [← Option.some_inj.1 hb]
    exact hs

theorem DeliveryInvariant.append {log : List (EventMachine.Entry (RtpLoop Unit) RtpEvent RtpAnswer)}
    {s s' : RtpLoop Unit} (h : DeliveryInvariant log s)
    {t : EventMachine.Entry (RtpLoop Unit) RtpEvent RtpAnswer} (hreachable : s'.reachable = true)
    (hsent : ∀ b, t.answer.built = some b → b.sent = true)
    (htaken : g711Stream (takenItems [t]) = t.answer.encoded.getD []) :
    DeliveryInvariant (log ++ [t]) s' := by
  refine ⟨hreachable, ?_, ?_⟩
  · rw [List.map_append, List.map_singleton, List.forall_mem_append, List.forall_mem_singleton]
    exact ⟨h.sent, hsent⟩
  · have hone : (encodings [t.answer]).flatten = t.answer.encoded.getD [] := by
      cases hanswer : t.answer.encoded with
      | none => simp [encodings, hanswer]
      | some bytes => simp [encodings, hanswer]
    rw [List.map_append, List.map_singleton, encodings, List.filterMap_append, List.flatten_append,
      ← encodings, ← encodings, h.encoded, hone, ← htaken, takenItems, takenItems, takenItems,
      List.filterMap_append, g711Stream, g711Stream, g711Stream, List.flatMap_append]

/-- **One event** keeps the invariant while the phone can be reached. -/
theorem deliveryInvariant_step
    {log : List (EventMachine.Entry (RtpLoop Unit) RtpEvent RtpAnswer)} {s : RtpLoop Unit}
    {e : RtpEvent} (he : e ≠ .transport false) (h : DeliveryInvariant log s) :
    DeliveryInvariant (log ++ [(rtpMachine g711Codec ssrc).entry s e])
      ((rtpMachine g711Codec ssrc).next s e) := by
  have hnothing : ∀ b : BuiltPacket, (none : Option BuiltPacket) = some b → b.sent = true :=
    fun b hb => by cases hb
  have hignored : takenItems [⟨s, e, ⟨none, none⟩⟩] = [] →
      DeliveryInvariant (log ++ [⟨s, e, ⟨none, none⟩⟩]) s := by
    intro htaken
    refine h.append h.reachable hnothing ?_
    rw [htaken]
    rfl
  have hproceeded : takenItems [⟨s, e, ⟨none, (s.proceed ssrc).2⟩⟩] = [] →
      DeliveryInvariant (log ++ [⟨s, e, ⟨none, (s.proceed ssrc).2⟩⟩]) (s.proceed ssrc).1 := by
    intro htaken
    obtain ⟨hreachable, hsent⟩ := proceed_reachable ssrc h.reachable
    refine h.append hreachable hsent ?_
    rw [htaken]
    rfl
  cases e with
  | item pcm =>
    by_cases hwait : s.waiting = .item
    · have hencode : (s.encode g711Codec pcm).1.reachable = true := h.reachable
      obtain ⟨hreachable, hsent⟩ := proceed_reachable ssrc hencode
      simp only [EventMachine.entry, EventMachine.next, rtpMachine, if_pos hwait]
      refine h.append hreachable hsent ?_
      simp only [takenItems, List.filterMap_cons, if_pos hwait, List.filterMap_nil, g711Stream,
        List.flatMap_singleton]
      rfl
    · simp only [EventMachine.entry, EventMachine.next, rtpMachine, if_neg hwait]
      refine hignored ?_
      simp only [takenItems, List.filterMap_cons, if_neg hwait, List.filterMap_nil]
  | timeout =>
    by_cases hwait : s.waiting = .item
    · simp only [EventMachine.entry, EventMachine.next, rtpMachine, if_pos hwait]
      exact hproceeded rfl
    · simp only [EventMachine.entry, EventMachine.next, rtpMachine, if_neg hwait]
      exact hignored rfl
  | frameTime =>
    by_cases hwait : s.waiting = .frameTime
    · simp only [EventMachine.entry, EventMachine.next, rtpMachine, if_pos hwait]
      exact hproceeded rfl
    · simp only [EventMachine.entry, EventMachine.next, rtpMachine, if_neg hwait]
      exact hignored rfl
  | transport reachable =>
    refine h.append ?_ hnothing rfl
    cases reachable with
    | false => exact absurd rfl he
    | true => rfl
  | stop => exact h.append h.reachable hnothing rfl
  | cancel => exact h.append h.reachable hnothing rfl

/-- **A whole run** with a phone that can be reached. -/
theorem deliveryInvariant_run {es : List RtpEvent} (hes : RtpEvent.transport false ∉ es) :
    DeliveryInvariant ((rtpMachine g711Codec ssrc).trace g711Start es)
      ((rtpMachine g711Codec ssrc).run g711Start es) := by
  refine (rtpMachine g711Codec ssrc).trace_induction (C := DeliveryInvariant)
    ⟨rfl, fun a ha => absurd ha List.not_mem_nil, rfl⟩ (fun log s e hprefix ih => ?_)
  refine deliveryInvariant_step ssrc (fun he => hes ?_) ih
  have hentry : (rtpMachine g711Codec ssrc).entry s e ∈ (rtpMachine g711Codec ssrc).trace g711Start
      es :=
    hprefix.subset (List.mem_append_right log List.mem_cons_self)
  have hmem := List.mem_map_of_mem (f := fun t => t.event) hentry
  rw [EventMachine.trace_map_event, EventMachine.entry_event, he] at hmem
  exact hmem

theorem sentAudio_eq_payloads {answers : List RtpAnswer}
    (h : ∀ a ∈ answers, ∀ b, a.built = some b → b.sent = true) :
    sentAudio answers = payloads (builtPackets answers) := by
  have hall : (answers.filterMap (·.built)).filter (·.sent) = answers.filterMap (·.built) := by
    rw [List.filter_eq_self]
    intro b hb
    obtain ⟨a, ha, hbuilt⟩ := List.mem_filterMap.1 hb
    exact h a ha b hbuilt
  have hpackets : builtPackets answers = (answers.filterMap (·.built)).map (·.packet) := by
    rw [List.map_filterMap]
    rfl
  rw [sentAudio, hall, payloads, hpackets, List.map_map]
  rfl

theorem fullFrames_payloads {packets : List RtpPacket}
    (hpackets : ∀ p ∈ packets, p.payload.length = 160)
    {rest : List UInt8} (hrest : rest.length < 160) :
    fullFrames (payloads packets ++ rest) = payloads packets := by
  have hlength : (payloads packets).length = 160 * packets.length := by
    have hmap : packets.map (List.length ∘ fun p => p.payload) = packets.map (fun _ => 160) :=
      List.map_congr_left hpackets
    rw [payloads, List.length_flatten, List.map_map, hmap, List.map_const', List.sum_replicate_nat,
      Nat.mul_comm]
  have hframes : (payloads packets ++ rest).length / 160 = packets.length := by
    rw [List.length_append, hlength]
    omega
  rw [fullFrames, hframes, ← hlength, List.take_left]

/-- **What is sent** of delivered chunks are the full frames of their encoding. -/
theorem sentAudio_of_delivered {ssrc : UInt32} {chunks : List Pcm} {es : List RtpEvent}
    (h : Delivered ssrc chunks es) :
    sentAudio (rtpAnswers g711Codec ssrc g711Start es) = fullFrames (g711Stream chunks) := by
  have hrun := rtpInvariant_run g711Codec ssrc false true () es
  have hdelivery := deliveryInvariant_run ssrc h.reachable
  have hbytes :
    g711Stream chunks = payloads (builtPackets (rtpAnswers g711Codec ssrc g711Start es)) ++
      ((rtpMachine g711Codec ssrc).run g711Start es).g711Buffer := by
    rw [← h.taken, ← hdelivery.encoded]
    exact hrun.bytes
  have hpackets : ∀ p ∈ builtPackets (rtpAnswers g711Codec ssrc g711Start es),
      p.payload.length = 160 := by
    intro p hp
    obtain ⟨k, hk⟩ := List.mem_iff_getElem?.1 hp
    exact (hrun.numbered k p hk).payload
  rw [hbytes, fullFrames_payloads hpackets (hrun.short h.waits)]
  exact sentAudio_eq_payloads hdelivery.sent

/-! ## Every stream can be delivered -/

/-- The loop has not ended. -/
def RtpLoop.Running (s : RtpLoop Unit) : Prop :=
  s.shutdown = false ∧ (s.waiting = .item ∨ s.waiting = .frameTime)

theorem running_proceed {s : RtpLoop Unit} (hshutdown : s.shutdown = false) :
    (s.proceed ssrc).1.Running ∧ ((s.proceed ssrc).1.waiting = .frameTime →
      (s.proceed ssrc).1.g711Buffer.length < s.g711Buffer.length) := by
  rw [RtpLoop.proceed, hshutdown, if_neg Bool.false_ne_true]
  split_ifs with hshort
  · exact ⟨⟨rfl, .inl rfl⟩, fun hwait => by cases hwait⟩
  · refine ⟨⟨rfl, .inr rfl⟩, fun _ => ?_⟩
    have hframe : FRAME_SIZE = 160 := rfl
    rw [List.length_drop]
    omega

/-- **Between items** the loop sends what it can, by induction on what is left. -/
theorem exists_drain (s : RtpLoop Unit) (hs : s.Running) :
    ∃ n, ((rtpMachine g711Codec ssrc).run s (List.replicate n .frameTime)).waiting = .item ∧
      ((rtpMachine g711Codec ssrc).run s (List.replicate n .frameTime)).shutdown = false := by
  induction hlength : s.g711Buffer.length using Nat.strong_induction_on generalizing s with
  | _ length ih =>
    rcases hs with ⟨hshutdown, hwait | hwait⟩
    · exact ⟨0, hwait, hshutdown⟩
    · have hnext : (rtpMachine g711Codec ssrc).next s .frameTime = (s.proceed ssrc).1 := by
        simp only [EventMachine.next, rtpMachine, if_pos hwait]
      obtain ⟨hrunning, hless⟩ := running_proceed ssrc hshutdown
      by_cases hitem : (s.proceed ssrc).1.waiting = .item
      · refine ⟨1, ?_, ?_⟩
        · rw [List.replicate_one, EventMachine.run_cons, hnext]
          exact hitem
        · rw [List.replicate_one, EventMachine.run_cons, hnext]
          exact hrunning.1
      · have hframe := hrunning.2.resolve_left hitem
        obtain ⟨n, hn⟩ := ih _ (hlength ▸ hless hframe) (s.proceed ssrc).1 hrunning rfl
        refine ⟨n + 1, ?_⟩
        rw [List.replicate_succ, EventMachine.run_cons, hnext]
        exact hn

theorem takenItems_cons_item {s : RtpLoop Unit} (hwait : s.waiting = .item) (pcm : Pcm)
    (a : RtpAnswer) (log : List (EventMachine.Entry (RtpLoop Unit) RtpEvent RtpAnswer)) :
    takenItems (⟨s, .item pcm, a⟩ :: log) = pcm :: takenItems log := by
  rw [takenItems, takenItems]
  exact List.filterMap_cons_some (if_pos hwait)

theorem exists_delivery (s : RtpLoop Unit)
    (hshutdown : s.shutdown = false) (hwait : s.waiting = .item) :
    ∃ es, RtpEvent.transport false ∉ es ∧
      takenItems ((rtpMachine g711Codec ssrc).trace s es) = chunks ∧
      ((rtpMachine g711Codec ssrc).run s es).waiting = .item := by
  induction chunks generalizing s with
  | nil => exact ⟨[], List.not_mem_nil, rfl, hwait⟩
  | cons pcm chunks ih =>
    have hnext : (rtpMachine g711Codec ssrc).next s (.item pcm) =
        ((s.encode g711Codec pcm).1.proceed ssrc).1 := by
      simp only [EventMachine.next, rtpMachine, if_pos hwait]
    have hencode : (s.encode g711Codec pcm).1.shutdown = false := hshutdown
    obtain ⟨n, hdrained, hopen⟩ := exists_drain ssrc _ (running_proceed ssrc hencode).1
    obtain ⟨es, hes, htaken, hwaits⟩ := ih _ hopen hdrained
    refine ⟨.item pcm :: (List.replicate n .frameTime ++ es), ?_, ?_, ?_⟩
    · intro hmem
      rcases List.mem_append.1 (List.mem_of_ne_of_mem (fun h => by cases h) hmem) with hmem | hmem
      · cases List.eq_of_mem_replicate hmem
      · exact hes hmem
    · have hframes :
        ∀ s, takenItems ((rtpMachine g711Codec ssrc).trace s (List.replicate n .frameTime)) =
          [] := by
        intro s
        rw [takenItems, List.filterMap_eq_nil_iff]
        intro t ht
        have hevent := List.mem_map_of_mem (f := fun t => t.event) ht
        rw [EventMachine.trace_map_event] at hevent
        rw [List.eq_of_mem_replicate hevent]
      rw [EventMachine.trace_cons, EventMachine.trace_append, hnext, EventMachine.entry,
        takenItems_cons_item hwait, takenItems, List.filterMap_append, ← takenItems, ← takenItems,
        hframes, htaken, List.nil_append]
    · rw [EventMachine.run_cons, EventMachine.run_append, hnext]
      exact hwaits

theorem exists_delivered : ∃ es, Delivered ssrc chunks es := by
  obtain ⟨es, hes, htaken, hwaits⟩ := exists_delivery ssrc chunks g711Start rfl rfl
  exact ⟨es, hes, htaken, hwaits⟩

theorem chunkIndependent_iff_fullFrames :
    ChunkIndependent ssrc chunks ↔
      fullFrames (g711Stream chunks) = fullFrames (g711Stream [chunks.flatten]) := by
  constructor
  · intro h
    obtain ⟨es, hes⟩ := exists_delivered ssrc chunks
    obtain ⟨es', hes'⟩ := exists_delivered ssrc [chunks.flatten]
    rw [← sentAudio_of_delivered hes, ← sentAudio_of_delivered hes']
    exact h es es' hes hes'
  · intro h es es' hes hes'
    rw [sentAudio_of_delivered hes, sentAudio_of_delivered hes', h]

/-- **Chunk independence.** Cutting a stream into chunks of these lengths never changes what is sent
    exactly when the chunks give as many full frames as the stream in one piece, and each chunk that
    is encoded within them starts six times as many bytes into the stream as bytes were given before
    it. -/
theorem chunkIndependent_iff (lengths : List ℕ) :
    (∀ chunks : List Pcm, chunks.map List.length = lengths → ChunkIndependent ssrc chunks) ↔
      SplitsWell lengths := by
  rw [← fullFrames_iff_splitsWell]
  exact forall₂_congr (fun chunks _ => chunkIndependent_iff_fullFrames ssrc chunks)

/-- A stream with one loud sample, its first sample in a chunk of its own. -/
def twoChunks : List Pcm := [[0, 0], (List.replicate 960 0).set 5 64]

/-- The loud sample is sent only of the stream in one piece. -/
theorem twoChunks_dependent : ¬ ChunkIndependent 0 twoChunks := by
  rw [chunkIndependent_iff_fullFrames]
  decide +kernel

end Ekaette
