import Ekaette.Sip.GatewayLink

set_option autoImplicit false

/-! # Runs of the gateway link

What a whole call sees of its link. The passes of `_gateway_bidi_loop` are a budget for the call:
each time the link goes down takes one of them, and so does each attempt to connect it again that
fails. So a call is given up after six of these, also if it was connected in between. And a
`CallSession` greets whenever a session starts, which happens with every connection. -/

namespace Ekaette

/-- The link of a `WaSession`, which greets once, or of a `CallSession`. -/
def gatewayLink (greetOnce : Bool) : EventMachine GatewayLink (Timed ℚ LinkEvent) LinkAnswer where
  step := GatewayLink.step greetOnce

abbrev LinkEntry := EventMachine.Entry GatewayLink (Timed ℚ LinkEvent) LinkAnswer

/-! ## Attempts and passes -/

/-- The attempt to reconnect that a step makes, and whether it succeeds. -/
def attempt? (t : LinkEntry) : Option Bool :=
  match t.event.event with
  | .reconnect ok => if t.pre.connected || t.pre.shutdown then none else some ok
  | _ => none

/-- The attempts to reconnect, oldest first. -/
def attempts (log : List LinkEntry) : List Bool := log.filterMap attempt?

/-- The receive loop gets this message. -/
def LinkEvent.received? (s : GatewayLink) : LinkEvent → Option MessageEffect
  | .frame (.text msg) =>
    if s.connected && !s.greeting && !s.shutdown then some (textEffect msg) else none
  | _ => none

/-- A pass of `_gateway_bidi_loop` ends: the link goes down, or it cannot be connected again. -/
def passEnds (t : LinkEntry) : Bool :=
  match t.event.event with
  | .disconnect => t.pre.connected && !t.pre.shutdown
  | .reconnect _ => attempt? t = some false
  | event => event.received? t.pre = some .raise

/-- How many passes have ended. -/
def passesEnded (log : List LinkEntry) : ℕ := log.countP passEnds

/-- Nothing shuts the call down but the loop itself. -/
def LinkEvent.keepsRunning : LinkEvent → Prop
  | .stop => False
  | .frame (.text msg) => textEffect msg ≠ .shutdown
  | _ => True

/-- The call is given up at this step. -/
def GivesUp (greetOnce : Bool) (t : LinkEntry) : Prop :=
  t.pre.shutdown = false ∧ ((gatewayLink greetOnce).next t.pre t.event).shutdown = true

/-- **Reconnect as long as it works**: the call is given up only after `max_retries` consecutive
    attempts to reconnect that failed. -/
def ReconnectsWhileItWorks (greetOnce : Bool) (trace : List LinkEntry) : Prop :=
  ∀ log t, log ++ [t] <+: trace → GivesUp greetOnce t →
    List.replicate maxRetries false <:+ attempts (log ++ [t])

/-! ## One step -/

/-- What a step does to the passes: it ends one, it connects the link again, or neither. -/
inductive PassStep (t : LinkEntry) (next : GatewayLink) : Prop where
  | ends (hends : passEnds t = true) (hshutdown : t.pre.shutdown = false)
      (htried : attempt? t = if t.pre.connected then none else some false)
      (hdown : next.connected = false)
      (hbudget : if t.pre.attempt < maxRetries then next.attempt = t.pre.attempt + 1 ∧
        next.shutdown = false else next.shutdown = true)
  | connects (hends : passEnds t = false) (hshutdown : t.pre.shutdown = false)
    (hdown : t.pre.connected = false)
      (htried : attempt? t = some true) (hup : next.connected = true)
      (hattempt : next.attempt = t.pre.attempt) (hshutdown' : next.shutdown = false)
  | stays (hends : passEnds t = false) (htried : attempt? t = none)
      (hattempt : next.attempt = t.pre.attempt) (hshutdown : next.shutdown = t.pre.shutdown)
      (hconnected : t.pre.shutdown = false → next.connected = t.pre.connected)

theorem passOver_budget (s : GatewayLink) (hshutdown : s.shutdown = false) :
    s.passOver.connected = false ∧ if s.attempt < maxRetries then s.passOver.attempt = s.attempt +
      1 ∧ s.passOver.shutdown = false else s.passOver.shutdown = true := by
  unfold GatewayLink.passOver
  by_cases hleft : s.attempt < maxRetries
  · simp only [if_pos hleft]
    exact ⟨trivial, trivial, hshutdown⟩
  · simp only [if_neg hleft]
    exact ⟨trivial, trivial⟩

section PassStep

variable (greetOnce : Bool) (s : GatewayLink) (now : ℚ)

/-- A message ends a pass where reading it raises. -/
theorem passStep_text (msg : GatewayJson) (hkeeps : textEffect msg ≠ .shutdown) :
    PassStep ((gatewayLink greetOnce).entry s ⟨now, .frame (.text msg)⟩)
      ((gatewayLink greetOnce).next s ⟨now, .frame (.text msg)⟩) := by
  show PassStep ⟨s, ⟨now, .frame (.text msg)⟩, _⟩ (s.step greetOnce ⟨now, .frame (.text msg)⟩).1
  simp only [GatewayLink.step]
  by_cases hlistens : (s.connected && !s.greeting) = true
  · rw [if_pos hlistens]
    unfold GatewayLink.recv
    by_cases hshutdown : s.shutdown = true
    · rw [if_pos hshutdown]
      refine .stays ?_ rfl rfl rfl (fun h => ?_)
      · simp [passEnds, LinkEvent.received?, hshutdown]
      · rw [hshutdown] at h
        cases h
    · rw [if_neg hshutdown]
      show PassStep _ (s.recvText greetOnce now (textEffect msg)).1
      rw [Bool.not_eq_true] at hshutdown
      have hreceived : (LinkEvent.frame (.text msg)).received? s = some (textEffect msg) := by
        simp only [LinkEvent.received?, hlistens, hshutdown, Bool.not_false, Bool.and_self, if_true]
      have hconnected : s.connected = true := (Bool.and_eq_true_iff.1 hlistens).1
      cases heffect : textEffect msg with
      | raise =>
        obtain ⟨hdown, hbudget⟩ := passOver_budget s hshutdown
        refine .ends ?_ hshutdown ?_ hdown hbudget
        · simp [passEnds, hreceived, heffect]
        · show none = _
          rw [hconnected, if_pos rfl]
      | shutdown => exact absurd heffect hkeeps
      | greet =>
        refine .stays (by simp [passEnds, hreceived, heffect]) rfl ?_ ?_ fun _ => ?_
        all_goals
          simp only [GatewayLink.recvText]
          split <;> rfl
      | nothing => exact .stays (by simp [passEnds, hreceived, heffect]) rfl rfl rfl fun _ => rfl
      | endTurn => exact .stays (by simp [passEnds, hreceived, heffect]) rfl rfl rfl fun _ => rfl
  · rw [if_neg hlistens]
    refine .stays ?_ rfl rfl rfl fun _ => rfl
    rw [Bool.not_eq_true] at hlistens
    simp [passEnds, LinkEvent.received?, hlistens]

theorem passStep_disconnect :
    PassStep ((gatewayLink greetOnce).entry s ⟨now, .disconnect⟩)
      ((gatewayLink greetOnce).next s ⟨now, .disconnect⟩) := by
  show PassStep ⟨s, ⟨now, .disconnect⟩, _⟩ (s.step greetOnce ⟨now, .disconnect⟩).1
  simp only [GatewayLink.step]
  cases hconnected : s.connected with
  | false => exact .stays (by simp [passEnds, hconnected]) rfl rfl rfl fun _ => rfl
  | true =>
    cases hshutdown : s.shutdown with
    | true =>
      refine .stays (by simp [passEnds, hshutdown]) rfl rfl ?_ fun h => ?_
      · exact hshutdown.symm ▸ rfl
      · rw [show s.shutdown = false from h] at hshutdown
        cases hshutdown
    | false =>
      obtain ⟨hdown, hbudget⟩ := passOver_budget s hshutdown
      refine .ends (by simp [passEnds, hconnected, hshutdown]) hshutdown ?_ hdown hbudget
      show none = if s.connected then none else some false
      rw [hconnected, if_pos rfl]

theorem passStep_reconnect (ok : Bool) :
    PassStep ((gatewayLink greetOnce).entry s ⟨now, .reconnect ok⟩)
      ((gatewayLink greetOnce).next s ⟨now, .reconnect ok⟩) := by
  show PassStep ⟨s, ⟨now, .reconnect ok⟩, _⟩ (s.step greetOnce ⟨now, .reconnect ok⟩).1
  simp only [GatewayLink.step]
  by_cases hup : (s.connected || s.shutdown) = true
  · rw [if_pos hup]
    have htried : ∀ a, attempt? ⟨s, ⟨now, .reconnect ok⟩, a⟩ = none := fun a => if_pos hup
    exact .stays (by simp [passEnds, htried]) (htried _) rfl rfl fun _ => rfl
  · rw [if_neg hup]
    have htried : ∀ a, attempt? ⟨s, ⟨now, .reconnect ok⟩, a⟩ = some ok := fun a => if_neg hup
    rw [Bool.or_eq_true, not_or, Bool.not_eq_true, Bool.not_eq_true] at hup
    obtain ⟨hconnected, hshutdown⟩ := hup
    cases ok with
    | true =>
      exact .connects (by simp [passEnds, htried]) hshutdown hconnected (htried _) rfl rfl hshutdown
    | false =>
      obtain ⟨hdown, hbudget⟩ := passOver_budget s hshutdown
      refine .ends (by simp [passEnds, htried]) hshutdown ?_ hdown hbudget
      show attempt? _ = if s.connected then none else some false
      rw [htried, hconnected, if_neg Bool.false_ne_true]

/-- **One step** of a link that nothing shuts down from outside. -/
theorem gatewayLink_passStep (e : Timed ℚ LinkEvent) (hkeeps : e.event.keepsRunning) :
    PassStep ((gatewayLink greetOnce).entry s e) ((gatewayLink greetOnce).next s e) := by
  obtain ⟨now, event⟩ := e
  show PassStep ⟨s, ⟨now, event⟩, _⟩ (s.step greetOnce ⟨now, event⟩).1
  cases event with
  | frame f =>
    cases f with
    | audio data =>
      refine .stays rfl rfl ?_ ?_ fun _ => ?_
      all_goals
        simp only [GatewayLink.step, GatewayLink.recv]
        split
        · split <;> simp_all
        · rfl
    | text msg => exact passStep_text greetOnce s now msg hkeeps
  | greetingDone ok =>
    refine .stays rfl rfl ?_ ?_ fun _ => ?_
    all_goals
      simp only [GatewayLink.step]
      split
      · cases ok <;> rfl
      · rfl
  | callerAudio pcm16 =>
    refine .stays rfl rfl ?_ ?_ fun _ => ?_
    all_goals
      simp only [GatewayLink.step]
      split <;> rfl
  | disconnect => exact passStep_disconnect greetOnce s now
  | reconnect ok => exact passStep_reconnect greetOnce s now ok
  | stop => exact hkeeps.elim

end PassStep

/-! ## Runs -/

/-- The passes so far, as the link and its log have them. -/
structure BudgetTracked (greetOnce : Bool) (log : List LinkEntry) (s : GatewayLink) : Prop where
  running : s.shutdown = false → s.attempt = passesEnded log ∧ passesEnded log ≤ maxRetries ∧
    (attempts log).length + (if s.connected then 0 else 1) = passesEnded log
  givenUp : s.shutdown = true → passesEnded log = maxRetries + 1 ∧
    (attempts log).length = maxRetries ∧
    ∃ log' t, log' ++ [t] <+: log ∧ GivesUp greetOnce t ∧ attempts (log' ++ [t]) = attempts log

variable (log : List LinkEntry)

variable (t : LinkEntry)

theorem attempts_concat :
    attempts (log ++ [t]) = attempts log ++ (attempt? t).toList := by
  rw [attempts, List.filterMap_append, ← attempts]
  cases h : attempt? t with
  | none => rw [List.filterMap_cons_none h]; rfl
  | some ok => rw [List.filterMap_cons_some h]; rfl

theorem passesEnded_concat :
    passesEnded (log ++ [t]) = passesEnded log + if passEnds t then 1 else 0 := by
  rw [passesEnded, List.countP_append, ← passesEnded, List.countP_singleton]

/-- **The budget is tracked** by every step. -/
theorem BudgetTracked.step {greetOnce : Bool} {log : List LinkEntry} {s : GatewayLink}
    (h : BudgetTracked greetOnce log s) (e : Timed ℚ LinkEvent) (hkeeps : e.event.keepsRunning) :
    BudgetTracked greetOnce (log ++ [(gatewayLink greetOnce).entry s e])
    ((gatewayLink greetOnce).next s e) := by
  have hgive : GivesUp greetOnce ((gatewayLink greetOnce).entry s e) ↔
      s.shutdown = false ∧ ((gatewayLink greetOnce).next s e).shutdown = true := Iff.rfl
  have hstep := gatewayLink_passStep greetOnce s e hkeeps
  generalize ht : (gatewayLink greetOnce).entry s e = t at hgive hstep
  have hpre : t.pre = s := by rw [← ht]; rfl
  generalize (gatewayLink greetOnce).next s e = next at hgive hstep
  cases hstep with
  | ends hends hshutdown htried hdown hbudget =>
    rw [hpre] at hshutdown htried hbudget
    obtain ⟨hattempt, hle, hlength⟩ := h.running hshutdown
    have hpasses : passesEnded (log ++ [t]) = passesEnded log + 1 := by
      rw [passesEnded_concat, if_pos hends]
    have hattempts : (attempts (log ++ [t])).length + 1 = passesEnded log + 1 := by
      rw [attempts_concat, List.length_append, htried]
      cases hconnected : s.connected with
      | true =>
        rw [hconnected, if_pos rfl] at hlength
        rw [if_pos rfl, Option.toList_none, List.length_nil]
        omega
      | false =>
        rw [hconnected, if_neg Bool.false_ne_true] at hlength
        rw [if_neg Bool.false_ne_true, Option.toList_some, List.length_singleton]
        omega
    by_cases hleft : s.attempt < maxRetries
    · rw [if_pos hleft] at hbudget
      refine ⟨fun _ => ⟨?_, ?_, ?_⟩, fun hgiven => ?_⟩
      · rw [hbudget.1, hpasses, hattempt]
      · omega
      · rw [hdown, if_neg Bool.false_ne_true, hpasses]
        omega
      · rw [hbudget.2] at hgiven
        cases hgiven
    · rw [if_neg hleft] at hbudget
      refine ⟨fun hrunning => ?_, fun _ => ⟨by omega, by omega, log, t, List.prefix_rfl, ?_, rfl⟩⟩
      · rw [hbudget] at hrunning
        cases hrunning
      · exact hgive.2 ⟨hshutdown, hbudget⟩
  | connects hends hshutdown hdown htried hup hattempt hshutdown' =>
    rw [hpre] at hshutdown hdown hattempt
    obtain ⟨hattempt', hle, hlength⟩ := h.running hshutdown
    have hpasses : passesEnded (log ++ [t]) = passesEnded log := by
      rw [passesEnded_concat, hends]
      rfl
    rw [hdown, if_neg Bool.false_ne_true] at hlength
    refine ⟨fun _ => ⟨?_, ?_, ?_⟩, fun hgiven => ?_⟩
    · rw [hattempt, hpasses, hattempt']
    · rw [hpasses]
      exact hle
    · rw [hup, if_pos rfl, hpasses, attempts_concat, htried, List.length_append, Option.toList_some,
        List.length_singleton]
      omega
    · rw [hshutdown'] at hgiven
      cases hgiven
  | stays hends htried hattempt hshutdown hconnected =>
    rw [hpre] at hattempt hshutdown hconnected
    have hpasses : passesEnded (log ++ [t]) = passesEnded log := by
      rw [passesEnded_concat, hends]
      rfl
    have hattempts : attempts (log ++ [t]) = attempts log := by
      rw [attempts_concat, htried, Option.toList_none, List.append_nil]
    refine ⟨fun hrunning => ?_, fun hgiven => ?_⟩
    · rw [hshutdown] at hrunning
      rw [hpasses, hattempts, hattempt, hconnected hrunning]
      exact h.running hrunning
    · rw [hshutdown] at hgiven
      obtain ⟨hsix, hfive, log', t', hinitial, hgives, hsame⟩ := h.givenUp hgiven
      rw [hpasses, hattempts]
      exact ⟨hsix, hfive, log', t', hinitial.trans (List.prefix_append _ _), hgives, hsame⟩

theorem budgetTracked_start (greetOnce : Bool) : BudgetTracked greetOnce [] .start where
  running := fun _ => ⟨rfl, Nat.zero_le _, rfl⟩
  givenUp := fun h => by cases h

theorem budgetTracked_trace (greetOnce : Bool) {events : List (Timed ℚ LinkEvent)}
    (hkeeps : ∀ e ∈ events, e.event.keepsRunning) :
    BudgetTracked greetOnce ((gatewayLink greetOnce).trace .start events)
      ((gatewayLink greetOnce).run .start events) := by
  refine (gatewayLink greetOnce).trace_induction (C := BudgetTracked greetOnce)
    (budgetTracked_start greetOnce) fun log s e hinitial h => h.step e (hkeeps e ?_)
  have hmem : (gatewayLink greetOnce).entry s e ∈ (gatewayLink greetOnce).trace .start events :=
    hinitial.subset (List.mem_append_right _ (List.mem_singleton_self _))
  rw [← (gatewayLink greetOnce).trace_map_event .start events]
  exact List.mem_map.2 ⟨_, hmem, rfl⟩

/-- Attempts that all failed. -/
theorem replicate_false_suffix_iff {tried : List Bool} (hlength : tried.length = maxRetries) :
    List.replicate maxRetries false <:+ tried ↔ true ∉ tried := by
  constructor
  · intro hsuffix htrue
    rw [← hsuffix.eq_of_length (by rw [List.length_replicate, hlength])] at htrue
    exact Bool.false_ne_true (List.eq_of_mem_replicate htrue).symm
  · intro hnone
    have hall : tried = List.replicate maxRetries false := by
      rw [List.eq_replicate_iff]
      refine ⟨hlength, fun ok hok => ?_⟩
      cases ok with
      | false => rfl
      | true => exact absurd hok hnone
    rw [hall]

/-- **A call is reconnected as long as it works** exactly if at most five passes have ended, or no
    attempt to reconnect it has succeeded. -/
theorem reconnects_iff (greetOnce : Bool) {events : List (Timed ℚ LinkEvent)}
    (hkeeps : ∀ e ∈ events, e.event.keepsRunning) :
    ReconnectsWhileItWorks greetOnce ((gatewayLink greetOnce).trace .start events) ↔
      passesEnded ((gatewayLink greetOnce).trace .start events) ≤ maxRetries ∨
        true ∉ attempts ((gatewayLink greetOnce).trace .start events) := by
  have htracked := budgetTracked_trace greetOnce hkeeps
  constructor
  · intro hworks
    cases hshutdown : ((gatewayLink greetOnce).run .start events).shutdown with
    | false => exact .inl (htracked.running hshutdown).2.1
    | true =>
      obtain ⟨-, hfive, log, t, hinitial, hgives, hsame⟩ := htracked.givenUp hshutdown
      have hsuffix := hworks log t hinitial hgives
      rw [hsame] at hsuffix
      exact .inr ((replicate_false_suffix_iff hfive).1 hsuffix)
  · intro hcondition log t hinitial hgives
    -- the run up to the step that gives up
    obtain ⟨before, hbefore, hlog⟩ := (gatewayLink greetOnce).exists_events_of_initial hinitial
    have hgiven : ((gatewayLink greetOnce).run .start before).shutdown = true := by
      cases before using List.reverseRecOn with
      | nil => simp at hlog
      | append_singleton before e _ =>
        rw [EventMachine.trace_concat] at hlog
        obtain ⟨-, ht⟩ := List.append_inj' hlog rfl
        rw [List.cons_eq_cons.1 ht |>.1] at hgives
        rw [EventMachine.run_concat]
        exact hgives.2
    have htracked' := budgetTracked_trace greetOnce (fun e he => hkeeps e (hbefore.subset he))
    rw [← hlog] at htracked'
    obtain ⟨hsix, hfive, -⟩ := htracked'.givenUp hgiven
    rw [replicate_false_suffix_iff hfive]
    rcases hcondition with hle | hnone
    · have hcount :
          passesEnded (log ++ [t]) ≤ passesEnded ((gatewayLink greetOnce).trace .start events) :=
        hinitial.sublist.countP_le
      omega
    · exact fun htrue => hnone ((hinitial.sublist.filterMap attempt?).subset htrue)

/-- Five times the link goes down and is connected again, then it goes down once more. -/
def sixDrops : List (Timed ℚ LinkEvent) :=
  (List.replicate 5 [⟨0, .disconnect⟩, ⟨5, .reconnect true⟩]).flatten ++ [⟨9, .disconnect⟩]

/-- After one reconnect that worked, the call goes on. -/
theorem reconnects_iff_once :
    ReconnectsWhileItWorks true
      ((gatewayLink true).trace .start [⟨0, .disconnect⟩, ⟨1, .reconnect false⟩,
        ⟨3, .reconnect true⟩]) := by
  refine (reconnects_iff true ?_).2 (.inl (by decide))
  intro e he
  simp only [List.mem_cons, List.not_mem_nil, or_false] at he
  rcases he with rfl | rfl | rfl
  · trivial
  · trivial
  · trivial

/-- Every reconnect worked, and the call is given up. -/
theorem reconnects_sixDrops :
    (∀ e ∈ sixDrops, e.event.keepsRunning) ∧
      false ∉ attempts ((gatewayLink false).trace .start sixDrops) ∧
      ((gatewayLink false).run .start sixDrops).shutdown = true ∧
      ¬ReconnectsWhileItWorks false ((gatewayLink false).trace .start sixDrops) := by
  refine ⟨fun e he => ?_, by decide, by decide, fun hworks => ?_⟩
  · rcases List.mem_append.1 he with he | he
    · obtain ⟨pair, hpair, he⟩ := List.mem_flatten.1 he
      rw [List.eq_of_mem_replicate hpair] at he
      simp only [List.mem_cons, List.not_mem_nil, or_false] at he
      rcases he with rfl | rfl
      · trivial
      · trivial
    · rw [List.mem_singleton.1 he]
      trivial
  · rw [sixDrops, EventMachine.trace_concat] at hworks
    have hsuffix := hworks _ _ List.prefix_rfl ⟨rfl, rfl⟩
    exact absurd hsuffix (by decide)

/-! ## Greetings -/

/-- The greeting is handed to `send_text`. -/
def greets : Bool :=
  match t.answer with
  | .greeting => true
  | _ => false

/-- How often the greeting is sent. -/
def greetings : ℕ := log.countP greets

/-- The receive loop gets a `session_started`. -/
def startReceived : Bool := t.event.event.received? t.pre = some .greet

/-- The `session_started` messages that the receive loop gets. -/
def startsReceived : ℕ := log.countP startReceived

/-- **A greeting answers a `session_started`**, and `_gateway_greeting_sent` remembers it. -/
theorem gatewayLink_greets (greetOnce : Bool) (s : GatewayLink) (e : Timed ℚ LinkEvent) :
    greets ((gatewayLink greetOnce).entry s e) =
        (startReceived ((gatewayLink greetOnce).entry s e) && !(greetOnce && s.greetingSent)) ∧
      ((gatewayLink greetOnce).next s e).greetingSent =
        (s.greetingSent || greets ((gatewayLink greetOnce).entry s e)) := by
  obtain ⟨now, event⟩ := e
  have hpassOver : s.passOver.greetingSent = s.greetingSent := by
    unfold GatewayLink.passOver
    split
    · rfl
    · rfl
  show greets ⟨s, ⟨now, event⟩, (s.step greetOnce ⟨now, event⟩).2⟩ =
      (startReceived ⟨s, ⟨now, event⟩, (s.step greetOnce ⟨now, event⟩).2⟩ &&
        !(greetOnce && s.greetingSent)) ∧
    (s.step greetOnce ⟨now, event⟩).1.greetingSent =
      (s.greetingSent || greets ⟨s, ⟨now, event⟩, (s.step greetOnce ⟨now, event⟩).2⟩)
  cases event with
  | frame f =>
    simp only [GatewayLink.step, GatewayLink.recv]
    by_cases hlistens : (s.connected && !s.greeting) = true
    · rw [if_pos hlistens]
      cases hshutdown : s.shutdown with
      | true =>
        cases f with
        | audio data => simp [greets, startReceived, LinkEvent.received?]
        | text msg => simp [greets, startReceived, LinkEvent.received?, hshutdown]
      | false =>
        cases f with
        | audio data => simp [greets, startReceived, LinkEvent.received?]
        | text msg =>
          rw [if_neg Bool.false_ne_true]
          simp only [startReceived, LinkEvent.received?, hlistens, hshutdown, Bool.not_false,
            Bool.and_self, if_true, Option.some_inj]
          cases textEffect msg with
          | nothing => simp [greets, GatewayLink.recvText]
          | greet =>
            simp only [GatewayLink.recvText]
            cases hgreeted : (greetOnce && s.greetingSent) with
            | true => simp [greets]
            | false => simp [greets]
          | shutdown => simp [greets, GatewayLink.recvText]
          | endTurn => simp [greets, GatewayLink.recvText]
          | raise => simp [greets, GatewayLink.recvText, hpassOver]
    · rw [if_neg hlistens]
      rw [Bool.not_eq_true] at hlistens
      cases f with
      | audio data => simp [greets, startReceived, LinkEvent.received?]
      | text msg => simp [greets, startReceived, LinkEvent.received?, hlistens]
  | greetingDone ok =>
    simp only [GatewayLink.step]
    split
    · cases ok <;> simp [greets, startReceived, LinkEvent.received?]
    · simp [greets, startReceived, LinkEvent.received?]
  | callerAudio pcm16 =>
    simp only [GatewayLink.step]
    split <;> simp [greets, startReceived, LinkEvent.received?]
  | disconnect =>
    simp only [GatewayLink.step]
    split
    · simp [greets, startReceived, LinkEvent.received?]
    · split <;> simp [greets, startReceived, LinkEvent.received?, hpassOver]
  | reconnect ok =>
    simp only [GatewayLink.step]
    split
    · simp [greets, startReceived, LinkEvent.received?]
    · cases ok <;> simp [greets, startReceived, LinkEvent.received?, hpassOver]
  | stop => simp [GatewayLink.step, greets, startReceived, LinkEvent.received?]

theorem greetings_concat :
    greetings (log ++ [t]) = greetings log + if greets t then 1 else 0 := by
  rw [greetings, List.countP_append, ← greetings, List.countP_singleton]

variable (events : List (Timed ℚ LinkEvent))

/-- A `WaSession` has greeted once, or not at all. -/
theorem waGreetings_trace :
    greetings ((gatewayLink true).trace .start events) =
      if ((gatewayLink true).run .start events).greetingSent then 1 else 0 := by
  refine (gatewayLink true).trace_induction
    (C := fun log s => greetings log = if s.greetingSent then 1 else 0) rfl fun log s e _ h => ?_
  obtain ⟨hgreets, hsent⟩ := gatewayLink_greets true s e
  rw [greetings_concat, h, hsent, hgreets]
  cases s.greetingSent with
  | true => simp
  | false => simp

/-- A `CallSession` greets whenever a session has started. -/
theorem callGreetings_trace :
    greetings ((gatewayLink false).trace .start events) =
      startsReceived ((gatewayLink false).trace .start events) := by
  refine List.countP_congr fun t ht => ?_
  rw [(gatewayLink false).eq_entry_of_mem_trace ht, (gatewayLink_greets false _ _).1,
    Bool.false_and, Bool.not_false, Bool.and_true]

/-- **A call is greeted once**: always by a `WaSession`, and by a `CallSession` exactly if it gets
    at most one `session_started`. -/
theorem greetsOnce_iff :
    greetings ((gatewayLink true).trace .start events) ≤ 1 ∧
      (greetings ((gatewayLink false).trace .start events) ≤ 1 ↔
        startsReceived ((gatewayLink false).trace .start events) ≤ 1) := by
  constructor
  · rw [waGreetings_trace]
    split
    · exact le_rfl
    · exact Nat.zero_le 1
  · rw [callGreetings_trace]

/-- `session_started` as the server sends it. -/
def sessionStarted : GatewayFrame := .text (.parsed (.dict [("type", .str "session_started")]))

/-- A session starts, the link goes down and is connected again, and the server starts it again. -/
def restartedSession : List (Timed ℚ LinkEvent) :=
  [⟨0, .frame sessionStarted⟩, ⟨1, .greetingDone true⟩, ⟨9, .disconnect⟩, ⟨10, .reconnect true⟩,
    ⟨11, .frame sessionStarted⟩, ⟨12, .greetingDone true⟩]

/-- The caller is greeted twice. -/
theorem greetsOnce_restartedSession :
    greetings ((gatewayLink false).trace .start restartedSession) = 2 := by
  decide

end Ekaette
