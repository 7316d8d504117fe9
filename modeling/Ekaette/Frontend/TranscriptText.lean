import Ekaette.Lib.Words

set_option autoImplicit false

/-! # Merging streamed transcripts

`lib/transcript.ts` merges the chunks of a streamed transcript. The same function serves streams
that send the whole text so far, streams that send pieces, and streams that repeat themselves; which
one a chunk is, it guesses from the texts. A string is the list of its UTF-16 code units. -/

namespace Ekaette

open Words

/-- A JavaScript string. -/
abbrev JsText := List UInt16

/-- White space and line terminators: what `trim` removes and `\s` matches. -/
def isSpaceUnit (c : UInt16) : Bool :=
  (9 ≤ c && c ≤ 13) || c == 32 || c == 160 || c == 5760 || (8192 ≤ c && c ≤ 8202) || c == 8232 ||
    c == 8233 || c == 8239 || c == 8287 || c == 12288 || c == 65279

/-- `s.trim()` -/
def JsText.trim (s : JsText) : JsText := Words.trim isSpaceUnit s

/-- `s.replace(/^\s+/, '')` -/
def JsText.trimStart (s : JsText) : JsText := s.dropWhile isSpaceUnit

/-- What depends on the Unicode tables. -/
structure TextLibrary where
  /-- `s.normalize('NFKC')` -/
  nfkc : JsText → JsText
  /-- `s.toLowerCase()` -/
  toLowerCase : JsText → JsText
  /-- `s.replace(/[^\p{L}\p{N}]+/gu, '')` -/
  lettersAndNumbers : JsText → JsText
  /-- the characters that iterating over a string gives -/
  characters : JsText → List JsText
  /-- `/\p{L}/u.test(char)` -/
  isLetter : JsText → Bool
  /-- `/\p{Script=Latin}/u.test(char)` -/
  isLatin : JsText → Bool

section Source

variable (lib : TextLibrary)

/-- `canonicalTranscriptText` -/
def canonicalTranscriptText (text : JsText) : JsText :=
  lib.lettersAndNumbers (lib.toLowerCase (lib.nfkc text))

/-- `isEquivalentTranscriptText` -/
def isEquivalentTranscriptText (a b : JsText) : Bool :=
  let left := canonicalTranscriptText lib a
  let right := canonicalTranscriptText lib b
  !left.isEmpty && left == right

/-- The loop over the lengths of an overlap, longest first; 0 where there is none. -/
def overlapFrom (prev next : JsText) : ℕ → ℕ
  | 0 => 0
  | n + 1 =>
    if prev.drop (prev.length - (n + 1)) = next.take (n + 1) then n + 1 else overlapFrom prev next n

/-- The longest end of the one text that the other begins with. -/
def longestOverlap (prev next : JsText) : ℕ := overlapFrom prev next (min prev.length next.length)

/-- `mergeStreamingPartialChunk` -/
def mergeStreamingPartialChunk (previous nextChunk : JsText) : JsText :=
  let prevTrim := previous.trim
  let nextTrim := nextChunk.trim
  if prevTrim = [] then nextChunk.trimStart
  else if nextTrim = [] then previous
  -- the stream sends the text so far
  else if prevTrim.isPrefixOf nextTrim then nextTrim
  else if nextTrim.isPrefixOf prevTrim then previous
  else if isEquivalentTranscriptText lib prevTrim nextTrim then nextTrim
  -- the stream sends its end again
  else if nextChunk.isSuffixOf previous || nextTrim.isSuffixOf prevTrim then previous
  else previous ++ nextChunk.drop (longestOverlap previous nextChunk)

end Source

/-! ## Chunks that are taken for something else -/

variable (lib : TextLibrary)

/-- **A chunk resembles** what was received: it begins with it or is its beginning, says the same,
    is its end, or begins with an end of it that is not blank. -/
def Resembles (previous nextChunk : JsText) : Prop :=
  previous.trim ≠ [] ∧ nextChunk.trim ≠ [] ∧
    (previous.trim.isPrefixOf nextChunk.trim = true ∨ nextChunk.trim.isPrefixOf previous.trim =
      true ∨ isEquivalentTranscriptText lib previous.trim nextChunk.trim = true ∨
      (nextChunk.isSuffixOf previous || nextChunk.trim.isSuffixOf previous.trim) = true ∨
      JsText.trim (nextChunk.take (longestOverlap previous nextChunk)) ≠ [])

/-- A chunk is appended: nothing was received yet, or it is blank after a blank, or it does not
    resemble what was received. -/
def Appends (previous nextChunk : JsText) : Prop :=
  previous.trim = [] ∨ (nextChunk.trim = [] ∧ ∃ c, previous.getLast? = some c ∧
    isSpaceUnit c = true) ∨ (nextChunk.trim ≠ [] ∧ ¬ Resembles lib previous nextChunk)

/-- Two texts with the same words. -/
def SameWords (a b : JsText) : Prop := words isSpaceUnit a = words isSpaceUnit b

variable (chunks : List JsText)

/-- What the chunks received so far are merged to. -/
def mergedChunks : JsText :=
  chunks.foldl (mergeStreamingPartialChunk lib) []

theorem trim_eq_nil_iff (s : JsText) : s.trim = [] ↔ ∀ c ∈ s, isSpaceUnit c = true :=
  Words.trim_eq_nil_iff

theorem overlapFrom_spec (prev next : JsText) (n : ℕ) :
    ∃ before, prev = before ++ next.take (overlapFrom prev next n) := by
  induction n with
  | zero => exact ⟨prev, (List.append_nil prev).symm⟩
  | succ n ih =>
    rw [overlapFrom]
    split_ifs with hsame
    · refine ⟨prev.take (prev.length - (n + 1)), ?_⟩
      rw [← hsame, List.take_append_drop]
    · exact ih

theorem merge_of_not_resembles {lib : TextLibrary} {previous nextChunk : JsText}
    (hprev : previous.trim ≠ []) (hnext : nextChunk.trim ≠ [])
    (h : ¬ Resembles lib previous nextChunk) : mergeStreamingPartialChunk lib previous nextChunk =
        previous ++ nextChunk.drop (longestOverlap previous nextChunk) ∧
      ∀ c ∈ nextChunk.take (longestOverlap previous nextChunk), isSpaceUnit c = true := by
  have hnone := not_and.1 (not_and.1 h hprev) hnext
  simp only [not_or, not_not] at hnone
  obtain ⟨hcumulative, hbeginning, hequivalent, hend, hoverlap⟩ := hnone
  refine ⟨?_, (trim_eq_nil_iff _).1 hoverlap⟩
  unfold mergeStreamingPartialChunk
  dsimp only
  rw [if_neg hprev, if_neg hnext, if_neg hcumulative, if_neg hbeginning, if_neg hequivalent,
    if_neg hend]

/-! ## Appending keeps the words -/

/-- Two texts that have the same words whatever follows. -/
def SameSoFar (a b : JsText) : Prop := ∀ more, SameWords (a ++ more) (b ++ more)

theorem sameSoFar_merge {lib : TextLibrary} {received merged chunk : JsText}
    (h : SameSoFar merged received)
    (happends : Appends lib merged chunk) :
    SameSoFar (mergeStreamingPartialChunk lib merged chunk) (received ++ chunk) := by
  intro more
  have hreceived : words isSpaceUnit (received ++ chunk ++ more) = words isSpaceUnit
      (merged ++ (chunk ++ more)) := by
    rw [List.append_assoc]
    exact (h (chunk ++ more)).symm
  show words isSpaceUnit _ = words isSpaceUnit _
  rw [hreceived]
  by_cases hmerged : merged.trim = []
  · have hstart : mergeStreamingPartialChunk lib merged chunk = chunk.trimStart := if_pos hmerged
    rw [hstart, words_blank_append ((trim_eq_nil_iff merged).1 hmerged)]
    have hblank : ∀ c ∈ chunk.takeWhile isSpaceUnit, isSpaceUnit c = true :=
      fun c hc => List.mem_takeWhile_imp hc
    calc words isSpaceUnit (chunk.trimStart ++ more)
        = words isSpaceUnit
          (chunk.takeWhile isSpaceUnit ++ (chunk.dropWhile isSpaceUnit ++ more)) :=
          (words_blank_append hblank _).symm
      _ = words isSpaceUnit (chunk ++ more) := by
        rw [← List.append_assoc, List.takeWhile_append_dropWhile]
  · rcases happends with hnone | ⟨hblank, c, hlast, hspace⟩ | ⟨hchunk, hnot⟩
    · exact absurd hnone hmerged
    · -- blanks after a blank
      have hsame : mergeStreamingPartialChunk lib merged chunk = merged := by
        unfold mergeStreamingPartialChunk
        dsimp only
        rw [if_neg hmerged, if_pos hblank]
      obtain ⟨before, rfl⟩ := List.getLast?_eq_some_iff.1 hlast
      rw [hsame, List.append_assoc, List.append_assoc, List.singleton_append, List.singleton_append,
        words_append_cons hspace, words_append_cons hspace,
        words_blank_append ((trim_eq_nil_iff chunk).1 hblank)]
    · obtain ⟨hmerge, hoverlap⟩ := merge_of_not_resembles hmerged hchunk hnot
      rw [hmerge]
      obtain ⟨before, hbefore⟩ := overlapFrom_spec merged chunk (min merged.length chunk.length)
      have hsplit : chunk = chunk.take (longestOverlap merged chunk) ++ chunk.drop
          (longestOverlap merged chunk) :=
        (List.take_append_drop _ _).symm
      by_cases hzero : chunk.take (longestOverlap merged chunk) = []
      · rw [hzero, List.nil_append] at hsplit
        rw [← hsplit, List.append_assoc]
      · have hmerged' : merged = before ++ chunk.take (longestOverlap merged chunk) := hbefore
        have htail : words isSpaceUnit (chunk ++ more) =
            words isSpaceUnit (chunk.drop (longestOverlap merged chunk) ++ more) := by
          conv_lhs => rw [hsplit]
          rw [List.append_assoc, words_blank_append hoverlap]
        generalize chunk.take (longestOverlap merged chunk) = overlap at hmerged' hzero hoverlap
        generalize chunk.drop (longestOverlap merged chunk) = rest at htail
        rw [hmerged', List.append_assoc, List.append_assoc, List.append_assoc,
          words_append_blank hzero hoverlap, words_append_blank hzero hoverlap, htail]

theorem sameSoFar_mergedChunks {lib : TextLibrary} (chunks : List JsText)
    (h : ∀ before chunk after, chunks = before ++ chunk :: after →
      Appends lib (mergedChunks lib before) chunk) :
    SameSoFar (mergedChunks lib chunks) chunks.flatten := by
  induction chunks using List.reverseRecOn with
  | nil => exact fun more => rfl
  | append_singleton chunks chunk ih =>
    have hbefore :=
      ih fun before c after hsplit => h before c (after ++ [chunk]) (by rw [hsplit]; simp)
    have hlast := h chunks chunk [] rfl
    rw [mergedChunks, List.foldl_append, List.flatten_append, List.flatten_singleton]
    exact sameSoFar_merge hbefore hlast

/-! ## Resemblance loses characters -/

/-- How many characters are not blank. -/
def glyphCount (s : JsText) : ℕ := (glyphs isSpaceUnit s).length

theorem glyphCount_append (a b : JsText) : glyphCount (a ++ b) = glyphCount a + glyphCount b := by
  rw [glyphCount, glyphs_append, List.length_append]
  rfl

theorem glyphCount_trim (s : JsText) : glyphCount s.trim = glyphCount s := by
  rw [glyphCount, JsText.trim, glyphs_trim]
  rfl

theorem glyphCount_pos {s : JsText} (h : s.trim ≠ []) : 0 < glyphCount s :=
  List.length_pos_iff.2 (glyphs_ne_nil_of_trim h)

/-- **A chunk that resembles** what was received costs characters; no other chunk adds more than it
    has. -/
theorem glyphCount_merge (previous chunk : JsText) :
    glyphCount (mergeStreamingPartialChunk lib previous chunk) ≤ glyphCount previous +
      glyphCount chunk ∧ (Resembles lib previous chunk →
        glyphCount (mergeStreamingPartialChunk lib previous chunk) < glyphCount previous +
        glyphCount chunk) := by
  by_cases hprev : previous.trim = []
  · have hmerge : mergeStreamingPartialChunk lib previous chunk = chunk.trimStart := if_pos hprev
    have hcount : glyphCount chunk.trimStart = glyphCount chunk :=
      congrArg List.length (glyphs_dropWhile chunk)
    rw [hmerge, hcount]
    exact ⟨Nat.le_add_left _ _, fun h => absurd hprev h.1⟩
  by_cases hchunk : chunk.trim = []
  · have hmerge : mergeStreamingPartialChunk lib previous chunk = previous := by
      unfold mergeStreamingPartialChunk
      dsimp only
      rw [if_neg hprev, if_pos hchunk]
    rw [hmerge]
    exact ⟨Nat.le_add_right _ _, fun h => absurd hchunk h.2.1⟩
  have hprevPos := glyphCount_pos hprev
  have hchunkPos := glyphCount_pos hchunk
  -- the chunk or what was received is lost
  have hone : ∀ result, result = chunk.trim ∨ result = previous →
      glyphCount result ≤ glyphCount previous + glyphCount chunk ∧
        (Resembles lib previous chunk →
          glyphCount result < glyphCount previous + glyphCount chunk) := by
    rintro result (rfl | rfl)
    · rw [glyphCount_trim]
      exact ⟨by omega, fun _ => by omega⟩
    · exact ⟨by omega, fun _ => by omega⟩
  unfold mergeStreamingPartialChunk
  dsimp only
  rw [if_neg hprev, if_neg hchunk]
  split_ifs with hcumulative hbeginning hequivalent hend
  · exact hone _ (.inl rfl)
  · exact hone _ (.inr rfl)
  · exact hone _ (.inl rfl)
  · exact hone _ (.inr rfl)
  · have hsplit : glyphCount chunk = glyphCount (chunk.take (longestOverlap previous chunk)) +
        glyphCount (chunk.drop (longestOverlap previous chunk)) := by
      rw [← glyphCount_append, List.take_append_drop]
    rw [glyphCount_append]
    refine ⟨by omega, fun h => ?_⟩
    rcases h.2.2 with h | h | h | h | hoverlap
    · exact absurd h hcumulative
    · exact absurd h hbeginning
    · exact absurd h hequivalent
    · exact absurd h hend
    · have hpos := glyphCount_pos hoverlap
      omega

/-- What is lost is not made up for by later chunks. -/
theorem glyphCount_foldl_merge (merged : JsText) :
    glyphCount (chunks.foldl (mergeStreamingPartialChunk lib) merged) ≤ glyphCount merged +
    glyphCount chunks.flatten ∧
      (glyphCount (chunks.foldl (mergeStreamingPartialChunk lib) merged) =
          glyphCount merged + glyphCount chunks.flatten →
        ∀ before chunk after, chunks = before ++ chunk :: after →
          ¬ Resembles lib (before.foldl (mergeStreamingPartialChunk lib) merged) chunk) := by
  induction chunks generalizing merged with
  | nil =>
    refine ⟨Nat.le_add_right _ _, fun _ before chunk after hsplit => ?_⟩
    exact absurd hsplit.symm (List.append_ne_nil_of_right_ne_nil _ (List.cons_ne_nil _ _))
  | cons c chunks ih =>
    obtain ⟨hle, hexact⟩ := ih (mergeStreamingPartialChunk lib merged c)
    obtain ⟨hstep, hlost⟩ := glyphCount_merge lib merged c
    rw [List.foldl_cons, List.flatten_cons, glyphCount_append]
    refine ⟨by omega, fun hcount before chunk after hsplit => ?_⟩
    cases before with
    | nil =>
      obtain ⟨rfl, -⟩ := List.cons_eq_cons.1 hsplit
      intro hresembles
      have hless := hlost hresembles
      omega
    | cons b before =>
      obtain ⟨rfl, hrest⟩ := List.cons_eq_cons.1 hsplit
      exact hexact (by omega) before chunk after hrest

/-- **The streamed text is reconstructed**, up to its blanks, if every chunk is appended; and only
    if no chunk resembles what was received. -/
theorem mergedChunks_sameWords :
    ((∀ before chunk after, chunks = before ++ chunk :: after →
      Appends lib (mergedChunks lib before) chunk) →
        SameWords (mergedChunks lib chunks) chunks.flatten) ∧
      (SameWords (mergedChunks lib chunks) chunks.flatten → ∀ before chunk after,
        chunks = before ++ chunk :: after → ¬ Resembles lib (mergedChunks lib before) chunk) := by
  constructor
  · intro happends
    have hsame := sameSoFar_mergedChunks chunks happends []
    rwa [List.append_nil, List.append_nil] at hsame
  · intro hsame before chunk after hsplit
    have hglyphs : glyphs isSpaceUnit (mergedChunks lib chunks) =
        glyphs isSpaceUnit chunks.flatten := by
      rw [← flatten_words, ← flatten_words]
      exact congrArg List.flatten hsame
    refine (glyphCount_foldl_merge lib chunks []).2 ?_ before chunk after hsplit
    have hnone : glyphCount ([] : JsText) = 0 := rfl
    rw [hnone, Nat.zero_add]
    exact congrArg List.length hglyphs

/-- The code units of an ASCII string. -/
def asciiUnits (s : String) : JsText := s.toList.map fun c => c.toNat.toUInt16

def isAsciiLetter (c : UInt16) : Bool := (65 ≤ c && c ≤ 90) || (97 ≤ c && c ≤ 122)

/-- The library on ASCII strings. -/
def TextLibrary.ascii : TextLibrary where
  nfkc s := s
  toLowerCase s := s.map fun c => if 65 ≤ c && c ≤ 90 then c + 32 else c
  lettersAndNumbers s := s.filter fun c => isAsciiLetter c || (48 ≤ c && c ≤ 57)
  characters s := s.map fun c => [c]
  isLetter s := s.any isAsciiLetter
  isLatin s := s.any isAsciiLetter

example : mergedChunks .ascii [asciiUnits "boo", asciiUnits "king ", asciiUnits " hotel"] =
    asciiUnits "booking hotel" := by decide +kernel

/-- The second half of a repeated syllable is dropped. -/
theorem mergedChunks_repeated :
    ¬ ∀ chunks : List JsText, (∀ chunk ∈ chunks, chunk ≠ []) →
      SameWords (mergedChunks .ascii chunks) chunks.flatten := by
  intro h
  have hsame := h [asciiUnits "ha", asciiUnits "ha"] (by decide +kernel)
  have hdropped : words isSpaceUnit (mergedChunks .ascii [asciiUnits "ha", asciiUnits "ha"]) ≠
      words isSpaceUnit [asciiUnits "ha", asciiUnits "ha"].flatten := by
    decide +kernel
  exact hdropped hsame

end Ekaette
