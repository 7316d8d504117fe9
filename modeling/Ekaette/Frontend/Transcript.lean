import Ekaette.Frontend.TranscriptText

set_option autoImplicit false

/-! # The bubbles of a transcript

`normalizeTranscriptMessages` of `lib/transcript.ts` turns the transcription messages of a session
into bubbles. A bubble stays open for its role until the other role speaks or the transcript is
final; late and repeated messages rewrite a bubble, open it again or are ignored. -/

namespace Ekaette

open Words

/-! ## Texts -/

section Source

variable (lib : TextLibrary)

inductive TranscriptScript where
  | latin
  | nonLatin
  | mixed
  | none
  deriving DecidableEq

structure ScriptStats where
  letters : ℕ
  latinLetters : ℕ
  nonLatinLetters : ℕ
  script : TranscriptScript

/-- `getScriptStats`; a ratio of 0.75 is exact. -/
def getScriptStats (text : JsText) : ScriptStats :=
  let found := (lib.characters (lib.nfkc text)).filter lib.isLetter
  let letters := found.length
  let latinLetters := (found.filter lib.isLatin).length
  let nonLatinLetters := (found.filter (!lib.isLatin ·)).length
  { letters, latinLetters, nonLatinLetters
    script :=
      if letters < 2 then .none
      else if 3 * letters ≤ 4 * latinLetters then .latin
      else if 3 * letters ≤ 4 * nonLatinLetters then .nonLatin
      else .mixed }

/-- `s.replace(/\s+/g, ' ')`; the flag says that the last character was blank. -/
def collapseSpaces (afterSpace : Bool) : JsText → JsText
  | [] => []
  | c :: cs =>
    if isSpaceUnit c then (if afterSpace then collapseSpaces true cs else 32 :: collapseSpaces true
      cs)
    else c :: collapseSpaces false cs

/-- `mergePartialText` -/
def mergePartialText (previous next : JsText) : JsText :=
  let prev := previous.trim
  let incoming := next.trim
  if prev = [] then incoming
  else if incoming = [] then prev
  else
    let prevScript := getScriptStats lib prev
    let incomingScript := getScriptStats lib incoming
    let dominantScriptConflict := (prevScript.script = .latin ∧ incomingScript.script = .nonLatin) ∨
      (prevScript.script = .nonLatin ∧ incomingScript.script = .latin)
    if dominantScriptConflict ∧ 2 ≤ prevScript.letters ∧ 2 ≤ incomingScript.letters then
      if prev.length ≤ incoming.length then incoming else prev
    else if prev.isPrefixOf incoming then incoming
    else if incoming.isSuffixOf prev then prev
    else if incoming <:+: prev then prev
    else if longestOverlap prev incoming ≠ 0 then prev ++ incoming.drop
      (longestOverlap prev incoming)
    else JsText.trim (collapseSpaces false (prev ++ 32 :: incoming))

/-- `canonicalTranscriptLength` -/
def canonicalTranscriptLength (text : JsText) : ℕ := (canonicalTranscriptText lib text).length

/-- `hasMeaningfulTextOverlap` -/
def hasMeaningfulTextOverlap (a b : JsText) : Bool :=
  let left := a.trim
  let right := b.trim
  if left = [] ∨ right = [] then false
  else if right <:+: left ∨ left <:+: right then true
  else
    let leftCanonical := canonicalTranscriptText lib left
    let rightCanonical := canonicalTranscriptText lib right
    if leftCanonical = [] ∨ rightCanonical = [] then false
    else decide (rightCanonical <:+: leftCanonical ∨ leftCanonical <:+: rightCanonical)

/-- `finalizePartialTranscriptText` -/
def finalizePartialTranscriptText (previousPartial incomingFinal : JsText) : JsText :=
  let prev := previousPartial.trim
  let next := incomingFinal.trim
  if prev = [] then next
  else if next = [] then prev
  else if isEquivalentTranscriptText lib prev next then next
  else if hasMeaningfulTextOverlap lib prev next then mergePartialText lib prev next
  else next

end Source

/-! ## Bubbles -/

inductive Role where
  | user
  | agent
  deriving DecidableEq

/-- `role === 'user' ? 'agent' : 'user'` -/
def Role.other : Role → Role
  | .user => .agent
  | .agent => .user

/-- A transcription message, and a bubble. -/
structure TranscriptMessage where
  role : Role
  text : JsText
  isPartial : Bool
  deriving DecidableEq

/-- An entry of `normalized` with its entry of `meta`. -/
structure TranscriptItem extends TranscriptMessage where
  closedByRoleSwitch : Bool
  explicitFinalSeen : Bool

/-- The variables of the loop. -/
structure Normalizing where
  items : List TranscriptItem
  activeByRole : Role → Option ℕ

namespace Normalizing

def initial : Normalizing := ⟨[], fun _ => none⟩

def setActive (s : Normalizing) (role : Role) (index : Option ℕ) : Normalizing :=
  { s with activeByRole := fun r => if r = role then index else s.activeByRole r }

/-- An entry is assigned to. -/
def modify (s : Normalizing) (index : ℕ) (f : TranscriptItem → TranscriptItem) : Normalizing :=
  { s with items := s.items.modify index f }

/-- The loop of `findLatestSameRoleIndex`, from the end; with the entry it finds. -/
def latestFrom (items : List TranscriptItem) (role : Role) : ℕ → Option (ℕ × TranscriptItem)
  | 0 => none
  | n + 1 =>
    match items[n]? with
    | some item => if item.role = role then some (n, item) else latestFrom items role n
    | none => latestFrom items role n

/-- `findLatestSameRoleIndex` -/
def latestSameRole (s : Normalizing) (role : Role) : Option (ℕ × TranscriptItem) :=
  latestFrom s.items role s.items.length

/-- `hasInterveningFinal` -/
def hasInterveningFinal (s : Normalizing) (index : ℕ) : Bool :=
  (s.items.drop (index + 1)).any fun item => !item.isPartial || item.explicitFinalSeen

/-- `closeActiveRole` -/
def closeActiveRole (s : Normalizing) (role : Role) : Normalizing :=
  match s.activeByRole role with
  | none => s
  | some index =>
    (s.modify index fun item =>
      if item.isPartial then { item with isPartial := false, closedByRoleSwitch := true }
      else item).setActive role none

variable (lib : TextLibrary)

/-- A bubble is added for a partial transcript, and is active. -/
def pushPartial (s : Normalizing) (message : TranscriptMessage) : Normalizing :=
  setActive { s with
    items :=
      s.items ++ [⟨⟨message.role, message.text.trimStart, true⟩, false, false⟩] } message.role
    (some s.items.length)

/-- A bubble is added for a final transcript. -/
def pushFinal (s : Normalizing) (message : TranscriptMessage) : Normalizing :=
  { s with items := s.items ++ [⟨⟨message.role, message.text.trim, false⟩, false, true⟩] }

/-- A message for the active bubble. -/
def onActive (s : Normalizing) (message : TranscriptMessage) (index : ℕ) : Normalizing :=
  if message.isPartial then
    s.modify index fun active =>
      { active with text := mergeStreamingPartialChunk lib active.text message.text }
  else
    (s.modify index fun active =>
      { active with
        text := finalizePartialTranscriptText lib active.text message.text
        isPartial := false
        explicitFinalSeen := true
        closedByRoleSwitch := false }).setActive message.role none

/-- The other speaker has taken over, but has not finished. -/
def takenOver (s : Normalizing) (role : Role) : Bool :=
  match s.items.getLast? with
  | some latest =>
    decide (latest.role ≠ role) && latest.closedByRoleSwitch && !latest.explicitFinalSeen
  | none => false

/-- A partial transcript without an active bubble. -/
def onPartial (s : Normalizing) (message : TranscriptMessage) : Normalizing :=
  match s.latestSameRole message.role with
  | none => s.pushPartial message
  | some (index, latest) =>
    if isEquivalentTranscriptText lib latest.text message.text then s
    else if index + 1 = s.items.length ∧ latest.isPartial = false ∧
        latest.explicitFinalSeen = true ∧ canonicalTranscriptLength lib latest.text ≤ 12 then
      (s.modify index fun latest =>
        { latest with
          text := mergeStreamingPartialChunk lib [] message.text
          isPartial := true
          explicitFinalSeen := false
          closedByRoleSwitch := false }).setActive message.role (some index)
    else if latest.closedByRoleSwitch && s.takenOver message.role then s
    else s.pushPartial message

/-- A final transcript without an active bubble. -/
def onFinal (s : Normalizing) (message : TranscriptMessage) : Normalizing :=
  match s.latestSameRole message.role with
  | none => s.pushFinal message
  | some (index, latest) =>
    if latest.closedByRoleSwitch then
      s.modify index fun latest =>
        { latest with
          text := finalizePartialTranscriptText lib latest.text message.text
          isPartial := false
          closedByRoleSwitch := false
          explicitFinalSeen := true }
    else if isEquivalentTranscriptText lib latest.text message.text && !s.hasInterveningFinal
        index then
      s.modify index fun latest =>
        { latest with
          text := if message.text.trim = [] then latest.text else message.text.trim
          isPartial := false
          explicitFinalSeen := true }
    else if isEquivalentTranscriptText lib latest.text message.text && s.hasInterveningFinal
        index && decide (8 ≤ canonicalTranscriptLength lib message.text) then s
    else s.pushFinal message

/-- The body of the loop. -/
def next (s : Normalizing) (message : TranscriptMessage) : Normalizing :=
  if message.text.trim = [] then s
  else
    let s := s.closeActiveRole message.role.other
    match s.activeByRole message.role with
    | some index => s.onActive lib message index
    | none => if message.isPartial then s.onPartial lib message else s.onFinal lib message

/-- The bubbles. -/
def bubbles (s : Normalizing) : List TranscriptMessage :=
  s.items.map TranscriptItem.toTranscriptMessage

end Normalizing

/-- `normalizeTranscriptMessages` -/
def normalizeTranscriptMessages (lib : TextLibrary) (messages : List TranscriptMessage) :
    List TranscriptMessage :=
  (messages.foldl (Normalizing.next lib) .initial).bubbles

/-! ## Texts that are not blank -/

theorem trim_ne_nil_iff (t : JsText) : t.trim ≠ [] ↔ glyphs isSpaceUnit t ≠ [] := by
  rw [Ne, Ne, trim_eq_nil_iff, glyphs_eq_nil_iff]

theorem trim_trim_ne_nil {t : JsText} (h : t.trim ≠ []) : JsText.trim t.trim ≠ [] := by
  rw [trim_ne_nil_iff] at h ⊢
  rwa [JsText.trim, glyphs_trim]

theorem trim_append_ne_nil {t : JsText} (h : t.trim ≠ []) (more : JsText) :
    JsText.trim (t ++ more) ≠ [] := by
  rw [trim_ne_nil_iff] at h ⊢
  rw [glyphs_append]
  exact List.append_ne_nil_of_left_ne_nil h _

theorem trimStart_ne_nil {t : JsText} (h : t.trim ≠ []) : JsText.trim t.trimStart ≠ [] := by
  rw [trim_ne_nil_iff] at h ⊢
  rwa [JsText.trimStart, glyphs_dropWhile]

theorem glyphs_collapseSpaces (afterSpace : Bool) (t : JsText) :
    glyphs isSpaceUnit (collapseSpaces afterSpace t) = glyphs isSpaceUnit t := by
  induction t generalizing afterSpace with
  | nil => rfl
  | cons c cs ih =>
    have hspace : isSpaceUnit 32 = true := by decide
    unfold collapseSpaces
    by_cases hc : isSpaceUnit c = true
    · cases afterSpace with
      | true => simpa [hc, glyphs] using ih true
      | false => simpa [hc, hspace, glyphs] using ih true
    · simpa [hc, glyphs] using ih false

section Blank

variable (lib : TextLibrary)

theorem mergeStreaming_ne_blank {previous chunk : JsText} (hprev : previous.trim ≠ [])
    (hchunk : chunk.trim ≠ []) : JsText.trim (mergeStreamingPartialChunk lib previous chunk) ≠
    [] := by
  unfold mergeStreamingPartialChunk
  dsimp only
  rw [if_neg hprev, if_neg hchunk]
  split_ifs
  · exact trim_trim_ne_nil hchunk
  · exact hprev
  · exact trim_trim_ne_nil hchunk
  · exact hprev
  · exact trim_append_ne_nil hprev _

theorem mergeStreaming_first_ne_blank {chunk : JsText} (hchunk : chunk.trim ≠ []) :
    JsText.trim (mergeStreamingPartialChunk lib [] chunk) ≠ [] := trimStart_ne_nil hchunk

theorem mergePartialText_ne_blank {previous next : JsText} (hprev : previous.trim ≠ [])
    (hnext : next.trim ≠ []) : JsText.trim (mergePartialText lib previous next) ≠ [] := by
  have hprev' := trim_trim_ne_nil hprev
  have hnext' := trim_trim_ne_nil hnext
  unfold mergePartialText
  dsimp only
  rw [if_neg hprev, if_neg hnext]
  split_ifs
  · exact hnext'
  · exact hprev'
  · exact hnext'
  · exact hprev'
  · exact hprev'
  · exact trim_append_ne_nil hprev' _
  · refine trim_trim_ne_nil ?_
    rw [trim_ne_nil_iff, glyphs_collapseSpaces, ← trim_ne_nil_iff]
    exact trim_append_ne_nil hprev' _

theorem finalize_ne_blank {previous final : JsText} (hprev : previous.trim ≠ [])
    (hfinal : final.trim ≠ []) : JsText.trim (finalizePartialTranscriptText lib previous final) ≠
    [] := by
  unfold finalizePartialTranscriptText
  dsimp only
  rw [if_neg hprev, if_neg hfinal]
  split_ifs
  · exact trim_trim_ne_nil hfinal
  · exact mergePartialText_ne_blank lib (trim_trim_ne_nil hprev) (trim_trim_ne_nil hfinal)
  · exact trim_trim_ne_nil hfinal

end Blank

/-! ## Rewriting the newest bubbles -/

/-- No later bubble has the role of this one. -/
def Newest (bubbles : List TranscriptMessage) (i : ℕ) : Prop :=
  ∀ (j : ℕ) (b b' : TranscriptMessage), i < j → bubbles[i]? = some b → bubbles[j]? = some b' →
    b'.role ≠ b.role

/-- **What a message of a role may rewrite**: the newest bubble of its role, and whether the newest
    bubble of the other role is partial. -/
structure Rewrites (role : Role) (old new : List TranscriptMessage) : Prop where
  length : new.length = old.length
  bubble : ∀ (i : ℕ) (b b' : TranscriptMessage), old[i]? = some b → new[i]? = some b' →
    b'.role = b.role ∧ (b' ≠ b → Newest old i) ∧ (b.role ≠ role → b'.text = b.text)

theorem Rewrites.refl (role : Role) (bubbles : List TranscriptMessage) :
    Rewrites role bubbles bubbles := by
  refine ⟨rfl, fun i b b' hb hb' => ?_⟩
  rw [hb] at hb'
  cases hb'
  exact ⟨rfl, fun hne => absurd rfl hne, fun _ => rfl⟩

theorem exists_getElem?_of_length {α : Type} {l l' : List α} (h : l.length = l'.length) {i : ℕ}
    {a : α} (ha : l[i]? = some a) : ∃ a', l'[i]? = some a' := by
  obtain ⟨hi, -⟩ := List.getElem?_eq_some_iff.1 ha
  exact ⟨_, List.getElem?_eq_getElem (h ▸ hi)⟩

theorem Rewrites.newest {role : Role} {old new : List TranscriptMessage} (h : Rewrites role old new)
    {i : ℕ} (hnewest : Newest new i) : Newest old i := by
  intro j b b' hlt hb hb' hsame
  obtain ⟨c, hc⟩ := exists_getElem?_of_length h.length.symm hb
  obtain ⟨c', hc'⟩ := exists_getElem?_of_length h.length.symm hb'
  -- rewriting keeps the roles, so a later bubble of the role would have been one before
  refine hnewest j c c' hlt hc hc' ?_
  rw [(h.bubble i b c hb hc).1, (h.bubble j b' c' hb' hc').1, hsame]

theorem Rewrites.trans {role : Role} {old mid new : List TranscriptMessage}
    (h : Rewrites role old mid) (h' : Rewrites role mid new) : Rewrites role old new := by
  refine ⟨h'.length.trans h.length, fun i b b'' hb hb'' => ?_⟩
  obtain ⟨b', hb'⟩ := exists_getElem?_of_length h.length.symm hb
  obtain ⟨hrole, hnewest, htext⟩ := h.bubble i b b' hb hb'
  obtain ⟨hrole', hnewest', htext'⟩ := h'.bubble i b' b'' hb' hb''
  refine ⟨hrole'.trans hrole, fun hne => ?_, fun hother => ?_⟩
  · by_cases hsame : b' = b
    · exact h.newest (hnewest' (hsame ▸ hne))
    · exact hnewest hsame
  · exact (htext' (hrole ▸ hother)).trans (htext hother)

namespace Normalizing

theorem getElem?_modify (s : Normalizing) (index : ℕ) (f : TranscriptItem → TranscriptItem)
    (i : ℕ) : (s.modify index f).items[i]? = (s.items[i]?).map fun item =>
    if index = i then f item else item := by
  show (s.items.modify index f)[i]? = _
  rw [List.getElem?_modify]
  rfl

theorem length_modify (s : Normalizing) (index : ℕ) (f : TranscriptItem → TranscriptItem) :
    (s.modify index f).items.length = s.items.length := List.length_modify ..

theorem getElem?_bubbles (s : Normalizing) (i : ℕ) :
    s.bubbles[i]? = (s.items[i]?).map TranscriptItem.toTranscriptMessage := by
  rw [bubbles, List.getElem?_map]

/-- An item is the newest of its role. -/
def NewestItem (s : Normalizing) (index : ℕ) (item : TranscriptItem) : Prop :=
  s.items[index]? = some item ∧ ∀ (j : ℕ) (item' : TranscriptItem), index < j →
    s.items[j]? = some item' → item'.role ≠ item.role

theorem rewrites_modify {s : Normalizing} {index : ℕ} {item : TranscriptItem}
    (h : s.NewestItem index item) (role : Role) {f : TranscriptItem → TranscriptItem}
    (hrole : (f item).role = item.role) (htext : item.role ≠ role → (f item).text = item.text) :
    Rewrites role s.bubbles (s.modify index f).bubbles := by
  refine ⟨by rw [bubbles, bubbles, List.length_map, List.length_map, length_modify],
    fun i b b' hb hb' => ?_⟩
  rw [getElem?_bubbles] at hb hb'
  rw [getElem?_modify] at hb'
  cases hitem : s.items[i]? with
  | none =>
    rw [hitem] at hb
    cases hb
  | some found =>
    rw [hitem] at hb hb'
    cases hb
    by_cases hindex : index = i
    · subst hindex
      have hfound : found = item := Option.some.inj (hitem.symm.trans h.1)
      subst hfound
      rw [Option.map_some, Option.map_some, if_pos rfl] at hb'
      cases hb'
      refine ⟨hrole, fun _ j c c' hlt hc hc' => ?_, htext⟩
      rw [getElem?_bubbles] at hc hc'
      rw [hitem] at hc
      cases hc
      obtain ⟨item', hitem', rfl⟩ := Option.map_eq_some_iff.1 hc'
      exact h.2 j item' hlt hitem'
    · rw [Option.map_some, Option.map_some, if_neg hindex] at hb'
      cases hb'
      exact ⟨rfl, fun hne => absurd rfl hne, fun _ => rfl⟩

theorem latestFrom_spec (items : List TranscriptItem) (role : Role) (n : ℕ) {index : ℕ}
    {item : TranscriptItem} (h : latestFrom items role n = some (index, item)) :
    items[index]? = some item ∧ item.role = role ∧
      ∀ (j : ℕ) (item' : TranscriptItem), index < j → j < n → items[j]? = some item' →
      item'.role ≠ role := by
  induction n with
  | zero => cases h
  | succ n ih =>
    rw [latestFrom] at h
    cases hitem : items[n]? with
    | none =>
      rw [hitem] at h
      obtain ⟨hfound, hrole, hlater⟩ := ih h
      refine ⟨hfound, hrole, fun j item' hlt hj hitem' => ?_⟩
      rcases Nat.lt_succ_iff_lt_or_eq.1 hj with hj | rfl
      · exact hlater j item' hlt hj hitem'
      · rw [hitem] at hitem'
        cases hitem'
    | some last =>
      rw [hitem] at h
      dsimp only at h
      split_ifs at h with hsame
      · cases h
        exact ⟨hitem, hsame, fun j item' hlt hj _ => absurd hlt (by omega)⟩
      · obtain ⟨hfound, hrole, hlater⟩ := ih h
        refine ⟨hfound, hrole, fun j item' hlt hj hitem' => ?_⟩
        rcases Nat.lt_succ_iff_lt_or_eq.1 hj with hj | rfl
        · exact hlater j item' hlt hj hitem'
        · rw [hitem] at hitem'
          cases hitem'
          exact hsame

/-- What `findLatestSameRoleIndex` finds. -/
theorem newestItem_of_latest {s : Normalizing} {role : Role} {index : ℕ} {item : TranscriptItem}
    (h : s.latestSameRole role = some (index, item)) : s.NewestItem index item ∧
    item.role = role := by
  obtain ⟨hfound, hrole, hlater⟩ := latestFrom_spec s.items role s.items.length h
  refine ⟨⟨hfound, fun j item' hlt hitem' => ?_⟩, hrole⟩
  rw [hrole]
  exact hlater j item' hlt (List.getElem?_eq_some_iff.1 hitem').1 hitem'

/-! ## The shape of the bubbles -/

/-- **The invariant**: no bubble is blank, a partial one is active, and an active one is the last
    and partial. -/
structure Shape (s : Normalizing) : Prop where
  text : ∀ (i : ℕ) (item : TranscriptItem), s.items[i]? = some item → item.text.trim ≠ []
  isActive : ∀ (i : ℕ) (item : TranscriptItem), s.items[i]? = some item → item.isPartial = true →
    s.activeByRole item.role = some i
  last : ∀ (role : Role) (i : ℕ), s.activeByRole role = some i → i + 1 = s.items.length ∧
    ∃ item, s.items[i]? = some item ∧ item.role = role ∧ item.isPartial = true

/-- Both roles are without an active bubble. -/
def Idle (s : Normalizing) : Prop := ∀ role, s.activeByRole role = none

theorem Shape.not_partial {s : Normalizing} (h : s.Shape) (hidle : s.Idle) {i : ℕ}
    {item : TranscriptItem} (hitem : s.items[i]? = some item) : item.isPartial = false := by
  rw [Bool.eq_false_iff]
  intro hpartial
  have hactive := h.isActive i item hitem hpartial
  rw [hidle] at hactive
  cases hactive

/-- Without an active bubble, the shape is about the texts. -/
theorem shape_of_idle {s : Normalizing} (hidle : s.Idle)
    (hitems : ∀ (i : ℕ) (item : TranscriptItem), s.items[i]? = some item → item.text.trim ≠ [] ∧
      item.isPartial = false) :
    s.Shape := by
  refine ⟨fun i item h => (hitems i item h).1, fun i item h hpartial => ?_, fun role i hactive =>
    ?_⟩
  · rw [(hitems i item h).2] at hpartial
    cases hpartial
  · rw [hidle] at hactive
    cases hactive

theorem Shape.newest {s : Normalizing} (h : s.Shape) {role : Role} {index : ℕ}
    (hactive : s.activeByRole role = some index) :
    ∃ item, s.NewestItem index item ∧ item.role = role ∧ item.isPartial = true := by
  obtain ⟨hlast, item, hitem, hrole, hpartial⟩ := h.last role index hactive
  refine ⟨item, ⟨hitem, fun j item' hlt hitem' => ?_⟩, hrole, hpartial⟩
  -- it is the last one
  have hj := (List.getElem?_eq_some_iff.1 hitem').1
  omega

theorem modify_item {s : Normalizing} {index : ℕ} {item : TranscriptItem}
    (hitem : s.items[index]? = some item) {f : TranscriptItem → TranscriptItem} {i : ℕ}
    {item' : TranscriptItem} (h : (s.modify index f).items[i]? = some item') :
    (index = i ∧ item' = f item) ∨ (index ≠ i ∧ s.items[i]? = some item') := by
  rw [getElem?_modify] at h
  by_cases hindex : index = i
  · subst hindex
    rw [hitem, Option.map_some, if_pos rfl] at h
    exact .inl ⟨rfl, (Option.some.inj h).symm⟩
  · cases hfound : s.items[i]? with
    | none =>
      rw [hfound] at h
      cases h
    | some found =>
      rw [hfound, Option.map_some, if_neg hindex] at h
      exact .inr ⟨hindex, h⟩

/-- **The other role's bubble is closed.** -/
theorem closeActiveRole_spec {s : Normalizing} (h : s.Shape) (role closed : Role) :
    (s.closeActiveRole closed).Shape ∧ (s.closeActiveRole closed).activeByRole closed = none ∧
      Rewrites role s.bubbles (s.closeActiveRole closed).bubbles := by
  unfold closeActiveRole
  cases hactive : s.activeByRole closed with
  | none => exact ⟨h, hactive, Rewrites.refl _ _⟩
  | some index =>
    obtain ⟨item, hnewest, hrole, hpartial⟩ := h.newest hactive
    obtain ⟨hlast, -⟩ := h.last closed index hactive
    refine ⟨shape_of_idle (fun r => ?_) (fun i item' hitem' => ?_), ?_, ?_⟩
    · -- another active bubble would be the last one too
      show (if r = closed then none else s.activeByRole r) = none
      split_ifs with hr
      · rfl
      · cases hactive' : s.activeByRole r with
        | none => rfl
        | some index' =>
          obtain ⟨item', hnewest', hrole', -⟩ := h.newest hactive'
          obtain ⟨hlast', -⟩ := h.last r index' hactive'
          have hsame : index' = index := by omega
          subst hsame
          have hitem := Option.some.inj (hnewest.1.symm.trans hnewest'.1)
          subst hitem
          exact absurd (hrole'.symm.trans hrole) hr
    · rcases modify_item hnewest.1 hitem' with ⟨-, rfl⟩ | ⟨hne, hitem'⟩
      · rw [if_pos hpartial]
        exact ⟨h.text index item hnewest.1, rfl⟩
      · refine ⟨h.text i item' hitem', ?_⟩
        rw [Bool.eq_false_iff]
        intro hpartial'
        obtain ⟨hlast', -⟩ := h.last _ i (h.isActive i item' hitem' hpartial')
        omega
    · exact if_pos rfl
    · refine rewrites_modify hnewest role ?_ fun _ => ?_
      · rw [if_pos hpartial]
      · rw [if_pos hpartial]

variable {lib : TextLibrary}

/-- What one message does: the bubbles it finds are rewritten, and one may be added. -/
structure Extends (role : Role) (s s' : Normalizing) : Prop where
  shape : s'.Shape
  bubbles : ∃ kept more, s'.bubbles = kept ++ more ∧ more.length ≤ 1 ∧ Rewrites role s.bubbles kept

theorem Extends.of_rewrites {role : Role} {s s' : Normalizing} (hshape : s'.Shape)
    (h : Rewrites role s.bubbles s'.bubbles) : Extends role s s' :=
  ⟨hshape, s'.bubbles, [], (List.append_nil _).symm, Nat.zero_le _, h⟩

theorem extends_onActive {s : Normalizing} (h : s.Shape) {message : TranscriptMessage}
    (hmessage : message.text.trim ≠ []) (hother : s.activeByRole message.role.other = none)
    {index : ℕ} (hactive : s.activeByRole message.role = some index) :
    Extends message.role s (s.onActive lib message index) := by
  obtain ⟨item, hnewest, hrole, hpartial⟩ := h.newest hactive
  obtain ⟨hlast, -⟩ := h.last _ index hactive
  have htext := h.text index item hnewest.1
  unfold onActive
  split_ifs with hkind
  · refine .of_rewrites ⟨fun i item' hitem' => ?_, fun i item' hitem' hpartial' => ?_,
      fun role i hrole' => ?_⟩ (rewrites_modify hnewest _ rfl fun hne => absurd hrole hne)
    · rcases modify_item hnewest.1 hitem' with ⟨-, rfl⟩ | ⟨-, hitem'⟩
      · exact mergeStreaming_ne_blank lib htext hmessage
      · exact h.text i item' hitem'
    · rcases modify_item hnewest.1 hitem' with ⟨rfl, rfl⟩ | ⟨-, hitem'⟩
      · exact h.isActive index item hnewest.1 hpartial
      · exact h.isActive i item' hitem' hpartial'
    · obtain ⟨hlast', found, hfound, hrole'', hpartial''⟩ := h.last role i hrole'
      have hsame : i = index := by omega
      subst hsame
      have hitem := Option.some.inj (hnewest.1.symm.trans hfound)
      subst hitem
      refine ⟨by rw [length_modify]; exact hlast',
        { item with text := mergeStreamingPartialChunk lib item.text message.text }, ?_, hrole'',
        hpartial''⟩
      rw [getElem?_modify, hnewest.1, Option.map_some, if_pos rfl]
  · refine .of_rewrites (shape_of_idle (fun r => ?_) (fun i item' hitem' => ?_))
      (rewrites_modify hnewest _ rfl fun hne => absurd hrole hne)
    · show (if r = message.role then none else s.activeByRole r) = none
      split_ifs with hr
      · rfl
      · -- there are two roles, and the other one was closed
        have hrest : r = message.role.other := by
          cases r <;> cases hmr : message.role <;> simp_all [Role.other]
        rw [hrest, hother]
    · rcases modify_item hnewest.1 hitem' with ⟨-, rfl⟩ | ⟨hne, hitem'⟩
      · exact ⟨finalize_ne_blank lib htext hmessage, rfl⟩
      · refine ⟨h.text i item' hitem', ?_⟩
        rw [Bool.eq_false_iff]
        intro hpartial'
        obtain ⟨hlast', -⟩ := h.last _ i (h.isActive i item' hitem' hpartial')
        omega

/-! ## New bubbles -/

theorem item_append {items : List TranscriptItem} {added : TranscriptItem} {i : ℕ}
    {item : TranscriptItem} (h : (items ++ [added])[i]? = some item) : items[i]? = some item ∨
    (i = items.length ∧ item = added) := by
  rcases Nat.lt_trichotomy i items.length with hi | rfl | hi
  · rw [List.getElem?_append_left hi] at h
    exact .inl h
  · rw [List.getElem?_concat_length] at h
    exact .inr ⟨rfl, (Option.some.inj h).symm⟩
  · rw [List.getElem?_eq_none (by rw [List.length_append, List.length_singleton]; omega)] at h
    cases h

/-- A bubble is added after those that are there. -/
theorem Extends.of_append {role : Role} {s s' : Normalizing} {added : TranscriptItem}
    (hshape : s'.Shape) (h : s'.items = s.items ++ [added]) : Extends role s s' := by
  refine ⟨hshape, s.bubbles, [added.toTranscriptMessage], ?_, le_rfl, Rewrites.refl _ _⟩
  show s'.items.map _ = s.items.map _ ++ _
  rw [h, List.map_append]
  rfl

theorem extends_pushPartial {s : Normalizing} (h : s.Shape) (hidle : s.Idle)
    {message : TranscriptMessage} (hmessage : message.text.trim ≠ []) :
    Extends message.role s (s.pushPartial message) := by
  refine .of_append ⟨fun i item hitem => ?_, fun i item hitem hpartial => ?_, fun role i hactive =>
    ?_⟩ rfl
  · rcases item_append hitem with hitem | ⟨-, rfl⟩
    · exact h.text i item hitem
    · exact trimStart_ne_nil hmessage
  · rcases item_append hitem with hitem | ⟨rfl, rfl⟩
    · rw [h.not_partial hidle hitem] at hpartial
      cases hpartial
    · exact if_pos rfl
  · change (if role = message.role then some s.items.length else s.activeByRole role) =
      some i at hactive
    split_ifs at hactive with hrole
    · cases hactive
      refine ⟨?_, ⟨⟨message.role, message.text.trimStart, true⟩, false, false⟩, ?_, hrole.symm, rfl⟩
      · show s.items.length + 1 = (s.items ++ [_]).length
        rw [List.length_append]
        rfl
      · exact List.getElem?_concat_length
    · rw [hidle role] at hactive
      cases hactive

theorem extends_pushFinal {s : Normalizing} (h : s.Shape) (hidle : s.Idle)
    {message : TranscriptMessage} (hmessage : message.text.trim ≠ []) :
    Extends message.role s (s.pushFinal message) := by
  refine .of_append (shape_of_idle hidle fun i item hitem => ?_) rfl
  rcases item_append hitem with hitem | ⟨-, rfl⟩
  · exact ⟨h.text i item hitem, h.not_partial hidle hitem⟩
  · exact ⟨trim_trim_ne_nil hmessage, rfl⟩

theorem Extends.ignored {s : Normalizing} (h : s.Shape) (role : Role) : Extends role s s :=
  .of_rewrites h (Rewrites.refl _ _)

theorem extends_finalized {s : Normalizing} (h : s.Shape) (hidle : s.Idle) {role : Role} {index : ℕ}
    {latest : TranscriptItem} (hnewest : s.NewestItem index latest) (hrole : latest.role = role)
    {f : TranscriptItem → TranscriptItem} (hf : (f latest).role = latest.role)
    (htext : (f latest).text.trim ≠ []) (hfinal : (f latest).isPartial = false) :
    Extends role s (s.modify index f) := by
  refine .of_rewrites (shape_of_idle hidle fun i item hitem => ?_)
    (rewrites_modify hnewest role hf fun hne => absurd hrole hne)
  rcases modify_item hnewest.1 hitem with ⟨-, rfl⟩ | ⟨-, hitem⟩
  · exact ⟨htext, hfinal⟩
  · exact ⟨h.text i item hitem, h.not_partial hidle hitem⟩

theorem extends_onFinal {s : Normalizing} (h : s.Shape) (hidle : s.Idle)
    {message : TranscriptMessage} (hmessage : message.text.trim ≠ []) :
    Extends message.role s (s.onFinal lib message) := by
  unfold onFinal
  cases hlatest : s.latestSameRole message.role with
  | none => exact extends_pushFinal h hidle hmessage
  | some found =>
    obtain ⟨index, latest⟩ := found
    obtain ⟨hnewest, hrole⟩ := newestItem_of_latest hlatest
    have htext := h.text index latest hnewest.1
    dsimp only
    split_ifs with hclosed hsame hlate
    · exact extends_finalized h hidle hnewest hrole rfl (finalize_ne_blank lib htext hmessage) rfl
    · refine extends_finalized h hidle hnewest hrole rfl ?_ rfl
      show JsText.trim message.text.trim ≠ []
      exact trim_trim_ne_nil hmessage
    · exact .ignored h _
    · exact extends_pushFinal h hidle hmessage

variable (lib) in
/-- The last bubble is open again. -/
theorem extends_reopened {s : Normalizing} (h : s.Shape) (hidle : s.Idle)
    {message : TranscriptMessage} (hmessage : message.text.trim ≠ []) {index : ℕ}
    {latest : TranscriptItem} (hnewest : s.NewestItem index latest)
    (hrole : latest.role = message.role) (hlast : index + 1 = s.items.length)
    {f : TranscriptItem → TranscriptItem} (hf : (f latest).role = latest.role)
    (htext : (f latest).text = mergeStreamingPartialChunk lib [] message.text)
    (hopen : (f latest).isPartial = true) :
    Extends message.role s ((s.modify index f).setActive message.role (some index)) := by
  have hrewrites : Rewrites message.role s.bubbles (s.modify index f).bubbles :=
    rewrites_modify hnewest _ hf fun hne => absurd hrole hne
  refine .of_rewrites ⟨fun i item hitem => ?_, fun i item hitem hpartial => ?_,
    fun role i hactive => ?_⟩ hrewrites
  · rcases modify_item hnewest.1 hitem with ⟨-, rfl⟩ | ⟨-, hitem⟩
    · rw [htext]
      exact mergeStreaming_first_ne_blank lib hmessage
    · exact h.text i item hitem
  · rcases modify_item hnewest.1 hitem with ⟨rfl, rfl⟩ | ⟨-, hitem⟩
    · exact if_pos (hf.trans hrole)
    · rw [h.not_partial hidle hitem] at hpartial
      cases hpartial
  · change (if role = message.role then some index else s.activeByRole role) = some i at hactive
    split_ifs at hactive with hsame
    · cases hactive
      refine ⟨?_, f latest, ?_, ?_, hopen⟩
      · show index + 1 = (s.modify index f).items.length
        rw [length_modify]
        exact hlast
      · show (s.modify index f).items[index]? = _
        rw [getElem?_modify, hnewest.1, Option.map_some, if_pos rfl]
      · rw [hf, hrole, hsame]
    · rw [hidle role] at hactive
      cases hactive

theorem extends_onPartial {s : Normalizing} (h : s.Shape) (hidle : s.Idle)
    {message : TranscriptMessage} (hmessage : message.text.trim ≠ []) :
    Extends message.role s (s.onPartial lib message) := by
  unfold onPartial
  cases hlatest : s.latestSameRole message.role with
  | none => exact extends_pushPartial h hidle hmessage
  | some found =>
    obtain ⟨index, latest⟩ := found
    obtain ⟨hnewest, hrole⟩ := newestItem_of_latest hlatest
    dsimp only
    split_ifs with hsame hshort hover
    · exact .ignored h _
    · exact extends_reopened lib h hidle hmessage hnewest hrole hshort.1 rfl rfl rfl
    · exact .ignored h _
    · exact extends_pushPartial h hidle hmessage

/-! ## Runs -/

theorem idle_of_roles {s : Normalizing} {role : Role} (h : s.activeByRole role = none)
    (hother : s.activeByRole role.other = none) : s.Idle := by
  intro r
  cases role with
  | user =>
    cases r with
    | user => exact h
    | agent => exact hother
  | agent =>
    cases r with
    | user => exact hother
    | agent => exact h

/-- **One message.** -/
theorem extends_next {s : Normalizing} (h : s.Shape) (message : TranscriptMessage) :
    Extends message.role s (s.next lib message) := by
  unfold next
  by_cases hblank : message.text.trim = []
  · rw [if_pos hblank]
    exact .ignored h _
  · rw [if_neg hblank]
    obtain ⟨hshape, hclosed, hrewrites⟩ := closeActiveRole_spec h message.role message.role.other
    -- closing the other role's bubble first only rewrites
    suffices hstep : Extends message.role (s.closeActiveRole message.role.other) _ by
      obtain ⟨hshape', kept, more, heq, hmore, hkept⟩ := hstep
      exact ⟨hshape', kept, more, heq, hmore, hrewrites.trans hkept⟩
    dsimp only
    cases hactive : (s.closeActiveRole message.role.other).activeByRole message.role with
    | some index => exact extends_onActive hshape hblank hclosed hactive
    | none =>
      have hidle := idle_of_roles hactive hclosed
      dsimp only
      split_ifs with hpartial
      · exact extends_onPartial hshape hidle hblank
      · exact extends_onFinal hshape hidle hblank

theorem shape_initial : initial.Shape := by
  refine shape_of_idle (fun _ => rfl) fun i item hitem => ?_
  cases hitem

variable (lib) in
theorem shape_foldl (messages : List TranscriptMessage) :
    (messages.foldl (next lib) initial).Shape := by
  induction messages using List.reverseRecOn with
  | nil => exact shape_initial
  | append_singleton messages message ih =>
    rw [List.foldl_append]
    exact (extends_next ih message).shape

end Normalizing

/-- **The bubbles of every sequence of messages**: none is blank, only the last may be partial, and
    a message appended to the sequence adds at most one bubble after those already there, of which
    it rewrites at most the newest of each role: that of its own role in any way, that of the other
    role but not in its text. -/
theorem normalizeTranscriptMessages_stable (lib : TextLibrary) (messages : List TranscriptMessage) :
    (∀ bubble ∈ normalizeTranscriptMessages lib messages, bubble.text.trim ≠ []) ∧
      (∀ (i : ℕ) (bubble : TranscriptMessage), (normalizeTranscriptMessages lib messages)[i]? =
        some bubble →
        bubble.isPartial = true → i + 1 = (normalizeTranscriptMessages lib messages).length) ∧
      ∀ message : TranscriptMessage, ∃ kept more,
        normalizeTranscriptMessages lib (messages ++ [message]) = kept ++ more ∧ more.length ≤ 1 ∧
          Rewrites message.role (normalizeTranscriptMessages lib messages) kept := by
  have hshape := Normalizing.shape_foldl lib messages
  refine ⟨fun bubble hbubble => ?_, fun i bubble hbubble hpartial => ?_, fun message => ?_⟩
  · obtain ⟨i, hi⟩ := List.getElem?_of_mem hbubble
    rw [normalizeTranscriptMessages, Normalizing.getElem?_bubbles] at hi
    obtain ⟨item, hitem, rfl⟩ := Option.map_eq_some_iff.1 hi
    exact hshape.text i item hitem
  · rw [normalizeTranscriptMessages, Normalizing.getElem?_bubbles] at hbubble
    obtain ⟨item, hitem, rfl⟩ := Option.map_eq_some_iff.1 hbubble
    obtain ⟨hlast, -⟩ := hshape.last _ i (hshape.isActive i item hitem hpartial)
    rw [hlast]
    exact (List.length_map _).symm
  · rw [normalizeTranscriptMessages, List.foldl_append]
    exact (Normalizing.extends_next hshape message).bubbles

end Ekaette
