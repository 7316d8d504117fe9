import Ekaette.Lib.EventMachine
import Ekaette.Lib.PyStr
import Mathlib.Tactic.Linarith

set_option autoImplicit false

/-! # Suppressing repeated agent transfers

A transfer to an agent is suppressed when the same one has just been let through. The session state
keeps the last transfer that was let through, with a hash of a fingerprint of the user's content. So
the callback answers for that one transfer and for that fingerprint: earlier transfers are
forgotten, and contents that print alike are one. -/

namespace Ekaette

/-! ## Fingerprints -/

structure FunctionCall where
  name : PyValue
  args : PyValue

structure UserBlob where
  mimeType : PyValue
  data : Option (List UInt8)

/-- A part of a content; `other` stands for the fields that the fingerprint does not read. -/
structure UserPart where
  text : Option String
  functionCall : Option FunctionCall
  inlineData : Option UserBlob
  other : PyValue

structure UserContent where
  role : Option String
  parts : Option (List UserPart)

/-- What is used of the string library, of the printing of contents, and of `hashlib`. -/
structure DedupLib where
  py : StrMethods
  /-- `str(content)` -/
  strContent : UserContent → String
  /-- `hashlib.sha1(value.encode("utf-8")).hexdigest()` -/
  contentHash : String → String

variable (lib : DedupLib)

/-- What a part adds to the fingerprint. -/
def partChunk (part : UserPart) : Option String :=
  match part.text.filter (fun text => PyStr.strip text ≠ "") with
  | some text => some ("text:" ++ PyStr.strip text)
  | none =>
    match part.functionCall with
    | some call => some ("call:" ++ call.name.toStr lib.py ++ ":" ++ call.args.toStr lib.py)
    | none => part.inlineData.map (fun inline =>
      "blob:" ++ inline.mimeType.toStr lib.py ++ ":" ++ toString ((inline.data.getD []).length))

/-- `_content_fingerprint`. -/
def contentFingerprint : Option UserContent → String
  | none => ""
  | some content =>
    match content.parts with
    | none | some [] => lib.strContent content
    | some (part :: parts) => "|".intercalate ((part :: parts).filterMap (partChunk lib))

/-! ## The callback -/

/-- The root agent is never suppressed. -/
def rootAgentName : String := "ekaette_router"

def dedupCooldownSeconds : ℚ := 2

def lastAgentKey : String := "temp:dedup_last_agent"

def lastTsKey : String := "temp:dedup_last_ts"

def lastSignatureKey : String := "temp:dedup_last_signature"

def lastTurnHashKey : String := "temp:dedup_last_turn_hash"

/-- A call of the callback: the agent, the user's content and what the clock reads. -/
structure DedupCall where
  agent : String
  content : Option UserContent
  now : ℚ

def DedupCall.turnHash (c : DedupCall) : String :=
  lib.contentHash (contentFingerprint lib c.content)

def DedupCall.signature (c : DedupCall) : String :=
  lib.contentHash (c.agent ++ "|" ++ c.turnHash lib)

/-- A number less than the cooldown ago. -/
def withinCooldown (now : ℚ) : PyValue → Bool
  | .float (.fin ts) => decide (now - ts < dedupCooldownSeconds)
  | .float (.inf negative) => !negative
  | .int ts => decide (now - ts < dedupCooldownSeconds)
  | .bool ts => decide (now - (if ts then 1 else 0) < dedupCooldownSeconds)
  | _ => false

/-- `dedup_before_agent`: the state it leaves, and whether the call is suppressed. -/
def dedupBeforeAgent (state : Record) (c : DedupCall) : Record × Bool :=
  if c.agent = rootAgentName then (state, false)
  else if (state.value lastAgentKey).eqStr c.agent && (state.value lastSignatureKey).eqStr
    (c.signature lib) &&
      (state.value lastTurnHashKey).eqStr (c.turnHash lib) && withinCooldown c.now
      (state.value lastTsKey) then
    (state, true)
  else
    ((((state.set lastAgentKey (.str c.agent)).set lastTsKey (.float (.fin c.now))).set
      lastSignatureKey (.str (c.signature lib))).set lastTurnHashKey (.str (c.turnHash lib)), false)

/-- The calls of a session. -/
def dedupMachine : EventMachine Record DedupCall Bool where
  step := dedupBeforeAgent lib

abbrev DedupEntry := EventMachine.Entry Record DedupCall Bool

/-! ## What has been let through -/

variable (log : List DedupEntry)

/-- The calls that were let through, other than those for the root agent. -/
def letThrough : List DedupCall :=
  (log.filter (fun t => !t.answer && t.event.agent != rootAgentName)).map (·.event)

theorem letThrough_concat (t : DedupEntry) :
    letThrough (log ++ [t]) =
      if t.answer = false ∧ t.event.agent ≠ rootAgentName then letThrough log ++ [t.event]
      else letThrough log := by
  rw [letThrough, List.filter_append, List.map_append, ← letThrough]
  by_cases h : t.answer = false ∧ t.event.agent ≠ rootAgentName
  · rw [if_pos h, List.filter_cons_of_pos (by simpa using h)]
    rfl
  · rw [if_neg h, List.filter_cons_of_neg (by simpa using h)]
    exact List.append_nil _

/-- The state holds the last call that was let through. -/
structure HoldsLast (lib : DedupLib) (log : List DedupEntry) (state : Record) : Prop where
  agent : state.value lastAgentKey =
    ((letThrough log).getLast?.map (fun c => PyValue.str c.agent)).getD .none
  ts : state.value lastTsKey =
    ((letThrough log).getLast?.map (fun c => PyValue.float (.fin c.now))).getD .none
  signature : state.value lastSignatureKey =
    ((letThrough log).getLast?.map (fun c => PyValue.str (c.signature lib))).getD .none
  turnHash : state.value lastTurnHashKey =
    ((letThrough log).getLast?.map (fun c => PyValue.str (c.turnHash lib))).getD .none

/-- The keys of the callback. -/
def dedupKeys : List String := [lastAgentKey, lastTsKey, lastSignatureKey, lastTurnHashKey]

theorem holdsLast_start {state : Record}
    (h : ∀ key ∈ dedupKeys, state.get? key = none) : HoldsLast lib [] state := by
  constructor
  · rw [Record.value, h lastAgentKey (by decide)]
    rfl
  · rw [Record.value, h lastTsKey (by decide)]
    rfl
  · rw [Record.value, h lastSignatureKey (by decide)]
    rfl
  · rw [Record.value, h lastTurnHashKey (by decide)]
    rfl

theorem eqStr_str (s t : String) : (PyValue.str s).eqStr t = decide (s = t) := by
  rw [PyValue.eqStr, PyValue.str?_str]
  by_cases h : s = t
  · simp [h]
  · simp [h]

/-- **One call** is suppressed when the last one let through is the same agent's, with the same
    fingerprint, less than the cooldown ago. -/
theorem suppressed_iff {lib : DedupLib} {log : List DedupEntry} {state : Record}
    (h : HoldsLast lib log state) {c : DedupCall} (hroot : c.agent ≠ rootAgentName) :
    (dedupBeforeAgent lib state c).2 = true ↔
      ∃ last, (letThrough log).getLast? = some last ∧ last.agent = c.agent ∧
        last.turnHash lib = c.turnHash lib ∧ c.now - last.now < dedupCooldownSeconds := by
  rw [dedupBeforeAgent, if_neg hroot, h.agent, h.signature, h.turnHash, h.ts]
  cases hlast : (letThrough log).getLast? with
  | none => simp [PyValue.eqStr, PyValue.str?]
  | some last =>
    simp only [Option.map_some, Option.getD_some, eqStr_str, withinCooldown]
    constructor
    · intro hsuppressed
      split_ifs at hsuppressed with hsame
      simp only [Bool.and_eq_true, decide_eq_true_eq] at hsame
      exact ⟨last, rfl, hsame.1.1.1, hsame.1.2, hsame.2⟩
    · rintro ⟨last', hsome, hagent, hturn, hrecent⟩
      obtain rfl := Option.some.inj hsome
      have hsignature : last.signature lib = c.signature lib := by
        rw [DedupCall.signature, DedupCall.signature, hagent, hturn]
      rw [if_pos (by simp only [hagent, hsignature, hturn, hrecent, decide_true, Bool.and_self])]

theorem holdsLast_next {lib : DedupLib} {log : List DedupEntry} {state : Record}
    (h : HoldsLast lib log state) (c : DedupCall) :
    HoldsLast lib (log ++ [(dedupMachine lib).entry state c])
    ((dedupMachine lib).next state c) := by
  show HoldsLast lib (log ++ [⟨state, c, (dedupBeforeAgent lib state c).2⟩])
    (dedupBeforeAgent lib state c).1
  by_cases hroot : c.agent = rootAgentName
  · have hkept : letThrough (log ++ [⟨state, c, (dedupBeforeAgent lib state c).2⟩]) =
        letThrough log := by
      rw [letThrough_concat, if_neg (fun hlet => hlet.2 hroot)]
    have hstate : (dedupBeforeAgent lib state c).1 = state := by rw [dedupBeforeAgent, if_pos hroot]
    rw [hstate]
    exact ⟨by rw [hkept, h.agent], by rw [hkept, h.ts], by rw [hkept, h.signature],
      by rw [hkept, h.turnHash]⟩
  · cases hanswer : (dedupBeforeAgent lib state c).2 with
    | true =>
      have hkept : letThrough (log ++ [⟨state, c, true⟩]) = letThrough log := by
        rw [letThrough_concat, if_neg (by simp)]
      have hstate : (dedupBeforeAgent lib state c).1 = state := by
        rw [dedupBeforeAgent, if_neg hroot] at hanswer ⊢
        split_ifs at hanswer ⊢
        rfl
      rw [hstate]
      exact ⟨by rw [hkept, h.agent], by rw [hkept, h.ts], by rw [hkept, h.signature],
        by rw [hkept, h.turnHash]⟩
    | false =>
      have hlast : (letThrough (log ++ [⟨state, c, false⟩])).getLast? = some c := by
        rw [letThrough_concat, if_pos ⟨rfl, hroot⟩, List.getLast?_concat]
      have hstate : (dedupBeforeAgent lib state c).1 =
          (((state.set lastAgentKey (.str c.agent)).set lastTsKey (.float (.fin c.now))).set
            lastSignatureKey
            (.str (c.signature lib))).set lastTurnHashKey (.str (c.turnHash lib)) := by
        rw [dedupBeforeAgent, if_neg hroot] at hanswer ⊢
        split_ifs at hanswer ⊢
        rfl
      rw [hstate]
      refine ⟨?_, ?_, ?_, ?_⟩
      · rw [hlast, Record.value, Dict.get?_set_of_ne _ _ (by decide),
          Dict.get?_set_of_ne _ _ (by decide),
          Dict.get?_set_of_ne _ _ (by decide), Dict.get?_set_self]
        rfl
      · rw [hlast, Record.value, Dict.get?_set_of_ne _ _ (by decide),
          Dict.get?_set_of_ne _ _ (by decide), Dict.get?_set_self]
        rfl
      · rw [hlast, Record.value, Dict.get?_set_of_ne _ _ (by decide), Dict.get?_set_self]
        rfl
      · rw [hlast, Record.value, Dict.get?_set_self]
        rfl

/-! ## Whole sessions -/

/-- The parts of the content, if there is one. -/
def DedupCall.parts (c : DedupCall) : Option (Option (List UserPart)) := c.content.map (·.parts)

/-- A call that repeats another: the same agent with equal parts, less than the cooldown later. -/
structure Repeats (c earlier : DedupCall) : Prop where
  agent : earlier.agent = c.agent
  parts : earlier.parts = c.parts
  recent : c.now - earlier.now < dedupCooldownSeconds

/-- A call is suppressed exactly if it repeats one that was let through. -/
def ExactlySuppressed (t : DedupEntry) : Prop :=
  t.event.agent ≠ rootAgentName →
    (t.answer = true ↔ ∃ earlier ∈ letThrough log, Repeats t.event earlier)

/-- The last call that was let through decides: no other one has come between a call and the one it
    repeats, and a call that looks like the last one repeats one. -/
structure LastDecides (lib : DedupLib) (log : List DedupEntry) (c : DedupCall) : Prop where
  interposed : ∀ earlier ∈ letThrough log, Repeats c earlier →
    ∃ last, (letThrough log).getLast? = some last ∧ last.agent = c.agent ∧
    last.turnHash lib = c.turnHash lib
  collision : ∀ last, (letThrough log).getLast? = some last → last.agent = c.agent →
    last.turnHash lib = c.turnHash lib → c.now - last.now < dedupCooldownSeconds →
    ∃ earlier ∈ letThrough log, Repeats c earlier

theorem le_getLast {log : List DedupEntry}
    (hclock : log.Pairwise (fun x y => x.event.now ≤ y.event.now))
    {last : DedupCall} (hlast : (letThrough log).getLast? = some last) {c : DedupCall}
    (hc : c ∈ letThrough log) : c.now ≤ last.now := by
  have hpairwise : (letThrough log).Pairwise (fun x y => x.now ≤ y.now) :=
    List.pairwise_map.2 (hclock.sublist List.filter_sublist)
  obtain ⟨init, hinit⟩ := List.getLast?_eq_some_iff.1 hlast
  rw [hinit] at hc hpairwise
  rcases List.mem_append.1 hc with hearlier | hsame
  · exact (List.pairwise_append.1 hpairwise).2.2 c hearlier last List.mem_cons_self
  · rw [List.mem_singleton.1 hsame]

theorem exactlySuppressed_iff {lib : DedupLib} {log : List DedupEntry} {state : Record}
    (h : HoldsLast lib log state) (hclock : log.Pairwise (fun x y => x.event.now ≤ y.event.now))
    (c : DedupCall) : ExactlySuppressed log ((dedupMachine lib).entry state c) ↔
      (c.agent ≠ rootAgentName → LastDecides lib log c) := by
  refine forall_congr' (fun hroot => ?_)
  have hagent : c.agent ≠ rootAgentName := hroot
  show ((dedupBeforeAgent lib state c).2 = true ↔ ∃ earlier ∈ letThrough log, Repeats c earlier) ↔ _
  rw [suppressed_iff h hagent]
  constructor
  · intro hexact
    constructor
    · intro earlier hmem hrepeats
      obtain ⟨last, hlast, hagent, hturn, -⟩ := hexact.2 ⟨earlier, hmem, hrepeats⟩
      exact ⟨last, hlast, hagent, hturn⟩
    · intro last hlast hagent hturn hrecent
      exact hexact.1 ⟨last, hlast, hagent, hturn, hrecent⟩
  · intro hdecides
    constructor
    · rintro ⟨last, hlast, hagent, hturn, hrecent⟩
      exact hdecides.collision last hlast hagent hturn hrecent
    · rintro ⟨earlier, hmem, hrepeats⟩
      obtain ⟨last, hlast, hagent, hturn⟩ := hdecides.interposed earlier hmem hrepeats
      have hle := le_getLast hclock hlast hmem
      have hrecent := hrepeats.recent
      exact ⟨last, hlast, hagent, hturn, by linarith⟩

/-- **Deduplication is exact** in a session exactly if at every call the last call that was let
    through decides. -/
theorem dedup_exact_iff (state : Record) (hstart : ∀ key ∈ dedupKeys, state.get? key = none)
    (calls : List DedupCall) (hclock : calls.Pairwise (fun x y => x.now ≤ y.now)) :
    (∀ log t, log ++ [t] <+: (dedupMachine lib).trace state calls → ExactlySuppressed log t) ↔
      ∀ log t, log ++ [t] <+: (dedupMachine lib).trace state calls →
        t.event.agent ≠ rootAgentName → LastDecides lib log t.event := by
  have hpairwise := (dedupMachine lib).trace_pairwise_event (s := state) hclock
  have hsteps : ∀ log t, log ++ [t] <+: (dedupMachine lib).trace state calls →
      (ExactlySuppressed log t ↔
        (t.event.agent ≠ rootAgentName → LastDecides lib log t.event)) := by
    refine (dedupMachine lib).trace_forall (C := HoldsLast lib) (holdsLast_start lib hstart) ?_
    intro log s c hlog hs
    have hbefore := ((List.prefix_append log _).trans hlog).sublist
    exact ⟨exactlySuppressed_iff hs (hpairwise.sublist hbefore) c, holdsLast_next hs c⟩
  constructor
  · intro hexact log t hlog
    exact (hsteps log t hlog).1 (hexact log t hlog)
  · intro hdecides log t hlog
    exact (hsteps log t hlog).2 (hdecides log t hlog)

/-! ### Repeats, with and without another call in between -/

/-- A text that the user has sent. -/
def userText (text : String) : Option UserContent :=
  some ⟨some "user", some [⟨some text, none, none, .none⟩]⟩

/-- A library whose hash has no collisions. -/
def plainLib : DedupLib := ⟨.ascii, fun _ => "", id⟩

/-- A repeat one second later is suppressed. -/
theorem dedup_exact_iff_repeat :
    (∀ key ∈ dedupKeys, (Dict.empty : Record).get? key = none) ∧
      ∀ log t, log ++ [t] <+: (dedupMachine plainLib).trace .empty
        [⟨"valuation", userText "my phone", 0⟩, ⟨"valuation", userText "my phone", 1⟩] →
        ExactlySuppressed log t := by
  refine ⟨by decide, (dedup_exact_iff plainLib .empty (by decide) _ (by simp)).2 ?_⟩
  intro log t hlog hroot
  have hfirst : ∀ earlier ∈ [(⟨"valuation", userText "my phone", 0⟩ : DedupCall)],
      Repeats ⟨"valuation", userText "my phone", 1⟩ earlier := by
    intro earlier hearlier
    rw [List.mem_singleton.1 hearlier]
    exact ⟨rfl, rfl, by norm_num [dedupCooldownSeconds]⟩
  match log with
  | [] => exact ⟨by rintro earlier ⟨⟩, by rintro last ⟨⟩⟩
  | [x] =>
    obtain ⟨rfl, hrest⟩ := List.cons_prefix_cons.1 hlog
    obtain ⟨rfl, -⟩ := List.cons_prefix_cons.1 hrest
    refine ⟨fun earlier hearlier hrepeats => ?_, fun last hlast hagent hturn hrecent => ?_⟩
    · exact ⟨⟨"valuation", userText "my phone", 0⟩, rfl, rfl, rfl⟩
    · exact ⟨_, List.mem_cons_self, hfirst _ List.mem_cons_self⟩
  | x :: y :: rest =>
    have hlength := hlog.length_le
    simp at hlength

/-- With another agent's call in between, a repeat one second later is let through. -/
theorem dedup_alternating :
    ¬ ∀ log t, log ++ [t] <+: (dedupMachine plainLib).trace .empty
        [⟨"valuation", userText "my phone", 0⟩, ⟨"booking", userText "my phone", 1 / 2⟩,
          ⟨"valuation", userText "my phone", 1⟩] → ExactlySuppressed log t := by
  intro h
  rw [EventMachine.trace_cons, EventMachine.trace_cons, EventMachine.trace_cons,
    EventMachine.trace_nil] at h
  have hlast := (h [_, _] _ List.prefix_rfl (by decide)).2
    ⟨⟨"valuation", userText "my phone", 0⟩, List.mem_cons_self, rfl, rfl,
      by norm_num [dedupCooldownSeconds]⟩
  exact absurd hlast (by decide +kernel)

end Ekaette
