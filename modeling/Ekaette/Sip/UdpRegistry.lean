import Ekaette.Sip.UdpServer

set_option autoImplicit false

/-! # The registry of the UDP SIP server

Every call answered with 200 OK should be found in `_active_sessions` until a BYE or the end of its
session, and a completion should only drop its own entry. Two steps can break this: the 200 OK is
sent before the session is built, and the completion callback pops by Call-ID. The run theorem says
that nothing else does. -/

namespace Ekaette

abbrev UdpEntry := EventMachine.Entry UdpServer UdpEvent (List UdpResponse)

/-! ## The two properties -/

/-- Every answered call that is neither shut down nor finished is registered under its Call-ID. -/
def CallsRegistered (s : UdpServer) : Prop :=
  ∀ n call, s.calls.get? n = some call → call.shutDown = false → call.finished = false →
    s.activeSessions.get? call.callId = some n

variable (cfg : UdpConfig)

/-- The completion of a session leaves the entries of all other sessions alone. -/
def CompletesOwn (t : UdpEntry) : Prop :=
  ∀ n, t.event = .sessionDone n → ∀ callId m, t.pre.activeSessions.get? callId = some m → m ≠ n →
    ((udpMachine cfg).next t.pre t.event).activeSessions.get? callId = some m

/-- Building a session cannot raise: gateway mode is off, or has its secret. -/
def UdpConfig.Builds : Prop :=
  cfg.gatewayMode = true → cfg.gatewayWsUrl ≠ "" → cfg.gatewayWsSecret ≠ ""

variable (s : UdpServer)

/-- An INVITE with these headers and this offer is answered: its call is not registered, and its
    offer can be read. -/
def Answerable (headers : DialogHeaders) (sdpBody : String) :
    Prop :=
  headers.callId ≠ "" ∧ s.activeSessions.contains headers.callId = false ∧
    cfg.hasTransport = true ∧ (remoteRtpAddr cfg.py sdpBody).isSome = true

instance (cfg : UdpConfig) (s : UdpServer) (headers : DialogHeaders) (sdpBody : String) :
    Decidable (Answerable cfg s headers sdpBody) :=
  inferInstanceAs (Decidable (_ ∧ _))

/-- The Call-ID of a datagram that is an INVITE to answer. -/
def invitedCall : UdpEvent → Option String
  | .datagram message _ =>
    let headers := coerceDialogHeaders (parseSipRequest message).headers
    if "SIP/2.0".toList.isPrefixOf (firstLine message) = false ∧
        "INVITE".toList.isPrefixOf (firstLine message) = true ∧
        Answerable cfg s headers (parseSipRequest message).body
    then some headers.callId else none
  | _ => none

/-- What a step must meet: an INVITE to answer needs a configuration that builds sessions, and a
    completion must not find another session under its Call-ID. -/
def KeepsCalls : UdpEvent → Prop
  | .datagram message draws =>
    (invitedCall cfg s (.datagram message draws)).isSome → cfg.Builds
  | .sessionEnds _ => True
  | .sessionDone n => ∀ call, s.calls.get? n = some call → call.finished = true →
      ∀ m, s.activeSessions.get? call.callId = some m → m = n

/-! ## What a datagram does -/

theorem buildGateway_ok_iff (callId callerPhone : String) :
    (∃ gateway, buildGateway cfg callId callerPhone = .ok gateway) ↔ cfg.Builds := by
  unfold buildGateway UdpConfig.Builds
  by_cases hgateway : cfg.gatewayMode = true ∧ cfg.gatewayWsUrl ≠ ""
  · by_cases hsecret : cfg.gatewayWsSecret = ""
    · simp [hgateway, hsecret]
    · simp [hgateway, hsecret]
  · rw [if_neg hgateway]
    simp only [Except.ok.injEq, exists_eq', true_iff]
    exact fun hmode hurl => absurd ⟨hmode, hurl⟩ hgateway

theorem buildSession_ok_iff (callId : String) (remote : Option (String × ℕ))
    (port : ℕ) (sipFrom : String) :
    (∃ session, buildSession cfg callId remote port sipFrom = .ok session) ↔ cfg.Builds := by
  unfold buildSession
  generalize (((phoneRe cfg.py).search sipFrom.toList).bind (·.group? 0)).getD "" = callerPhone
  rw [← buildGateway_ok_iff cfg callId callerPhone]
  cases hgateway : buildGateway cfg callId callerPhone with
  | error e => simp [hgateway, Except.map]
  | ok gateway => simp [hgateway, Except.map]

theorem udpHandleInvite_of_answerable {cfg : UdpConfig} {s : UdpServer} {headers : DialogHeaders}
    {sdpBody : String} (h : Answerable cfg s headers sdpBody) (draws : UdpDraws) :
    (∃ r ∈ (udpHandleInvite cfg headers sdpBody draws s).2, r.status = 200) ∧
      ∃ session, ((∃ built, session = .ok built) ↔ cfg.Builds) ∧
        (udpHandleInvite cfg headers sdpBody draws s).1 = s.answer headers.callId session := by
  obtain ⟨hcall, hactive, htransport, hremote⟩ := h
  obtain ⟨remote, hremote⟩ := Option.isSome_iff_exists.1 hremote
  unfold udpHandleInvite
  simp only [hcall, hactive, htransport, hremote, if_false, Bool.false_eq_true, Bool.true_eq_false]
  refine ⟨⟨_, List.mem_cons_of_mem _ (List.mem_singleton_self _), rfl⟩, _, ?_, rfl⟩
  exact buildSession_ok_iff ..

theorem udpHandleInvite_of_not_answerable {cfg : UdpConfig} {s : UdpServer}
    {headers : DialogHeaders} {sdpBody : String} (h : ¬ Answerable cfg s headers sdpBody)
    (draws : UdpDraws) : (∀ r ∈ (udpHandleInvite cfg headers sdpBody draws s).2, r.status ≠ 200) ∧
      (udpHandleInvite cfg headers sdpBody draws s).1 = s := by
  unfold udpHandleInvite
  split_ifs with hcall hactive htransport
  · simp
  · simp
  · simp
  · cases hremote : remoteRtpAddr cfg.py sdpBody with
    | none => simp
    | some remote =>
      refine absurd ⟨hcall, ?_, ?_, ?_⟩ h
      · simpa using hactive
      · simpa using htransport
      · simp [hremote]

/-- **A datagram and the calls**: an INVITE to answer is entered as a call, a BYE is handled for
    some Call-ID, and nothing else touches the server. -/
theorem datagram_next (message : String) (draws : UdpDraws) :
    (∃ callId, invitedCall cfg s (.datagram message draws) = some callId ∧
      s.activeSessions.get? callId = none ∧
      ∃ session, ((∃ built, session = .ok built) ↔ cfg.Builds) ∧
        (udpMachine cfg).next s (.datagram message draws) = s.answer callId session) ∨
    (invitedCall cfg s (.datagram message draws) = none ∧
      ((udpMachine cfg).next s (.datagram message draws) = s ∨
        ∃ callId, (udpMachine cfg).next s (.datagram message draws) = s.handleBye callId)) := by
  simp only [EventMachine.next, udpMachine, datagramReceived, invitedCall]
  generalize "SIP/2.0".toList.isPrefixOf (firstLine message) = response
  generalize "INVITE".toList.isPrefixOf (firstLine message) = invite
  generalize coerceDialogHeaders (parseSipRequest message).headers = headers
  generalize (parseSipRequest message).body = sdpBody
  generalize byeCallId cfg.py message headers = bye
  cases response with
  | true => exact .inr ⟨by simp, .inl rfl⟩
  | false =>
    cases invite with
    | true =>
      simp only [Bool.false_eq_true, if_false, if_true, true_and]
      by_cases hanswer : Answerable cfg s headers sdpBody
      · obtain ⟨-, session, hbuilt, hnext⟩ := udpHandleInvite_of_answerable hanswer draws
        refine .inl ⟨headers.callId, if_pos hanswer, ?_, session, hbuilt, hnext⟩
        simpa [Dict.contains] using hanswer.2.1
      · exact .inr ⟨if_neg hanswer, .inl (udpHandleInvite_of_not_answerable hanswer draws).2⟩
    | false =>
      refine .inr ⟨by simp, ?_⟩
      simp only [Bool.false_eq_true, if_false]
      split
      · by_cases hcall : bye = ""
        · exact .inl (if_pos hcall)
        · exact .inr ⟨bye, if_neg hcall⟩
      · exact .inl rfl

/-! ## Which steps keep the calls registered -/

/-- A new call of an unregistered Call-ID keeps the calls registered exactly if its session was
    built. -/
theorem callsRegistered_answer_iff {s : UdpServer} (h : CallsRegistered s) {callId : String}
    (hfree : s.activeSessions.get? callId = none) (session : Except Unit UdpSession) :
    CallsRegistered (s.answer callId session) ↔ ∃ built, session = .ok built := by
  cases session with
  | error e =>
    refine iff_of_false (fun hnext => ?_) (by simp)
    have hentry := hnext s.answered ⟨callId, none, false, false⟩ (Dict.get?_set_self ..) rfl rfl
    simp only [UdpServer.answer, hfree, reduceCtorEq] at hentry
  | ok built =>
    refine iff_of_true (fun n call hget hlive hrunning => ?_) ⟨built, rfl⟩
    simp only [UdpServer.answer, Dict.get?_set] at hget ⊢
    split at hget
    · next hn =>
        rw [Option.some.injEq] at hget
        subst hn hget
        exact if_pos rfl
    · -- an older call is registered, so it has another Call-ID
      have hentry := h n call hget hlive hrunning
      have hother : call.callId ≠ callId := by
        rintro rfl
        rw [hfree] at hentry
        exact absurd hentry (by simp)
      rw [if_neg hother]
      exact hentry

theorem CallsRegistered.bye {s : UdpServer} (h : CallsRegistered s) (callId : String) :
    CallsRegistered (s.handleBye callId) := by
  unfold UdpServer.handleBye
  cases hactive : s.activeSessions.get? callId with
  | none => exact h
  | some n =>
    intro m call hget hlive hrunning
    -- the call that was popped has been shut down, all others are as before
    have hold : s.calls.get? m = some call ∧ m ≠ n := by
      cases hcall : s.calls.get? n with
      | none =>
        simp only [hcall] at hget
        exact ⟨hget, fun hm => by rw [hm, hcall] at hget; exact absurd hget (by simp)⟩
      | some popped =>
        simp only [hcall, Dict.get?_set] at hget
        split at hget
        · rw [Option.some.injEq] at hget
          rw [← hget] at hlive
          exact absurd hlive (by simp)
        · next hm => exact ⟨hget, hm⟩
    have hentry := h m call hold.1 hlive hrunning
    have hother : call.callId ≠ callId := by
      rintro rfl
      rw [hactive, Option.some.injEq] at hentry
      exact hold.2 hentry.symm
    simp only [Dict.get?_erase, if_neg hother]
    exact hentry

theorem endSession_cases (n : ℕ) :
    s.endSession n = s ∨ ∃ call, s.calls.get? n = some call ∧
      s.endSession n = { s with calls := s.calls.set n { call with finished := true } } := by
  unfold UdpServer.endSession
  cases hcall : s.calls.get? n with
  | none => exact .inl rfl
  | some call =>
    cases hsession : call.session with
    | none => exact .inl (by simp [hsession])
    | some session => exact .inr ⟨call, rfl, by simp [hsession]⟩

theorem CallsRegistered.ends {s : UdpServer} (h : CallsRegistered s) (n : ℕ) :
    CallsRegistered (s.endSession n) := by
  rcases endSession_cases s n with hnext | ⟨ended, -, hnext⟩
  · rwa [hnext]
  · rw [hnext]
    intro m call hget hlive hrunning
    simp only [Dict.get?_set] at hget
    split at hget
    · rw [Option.some.injEq] at hget
      rw [← hget] at hrunning
      exact absurd hrunning (by simp)
    · exact h m call hget hlive hrunning

/-- **What a completion does**: nothing, unless the session has ended; then it drops the call and
    the entry of its Call-ID. -/
theorem onDone_cases (n : ℕ) :
    (s.onDone n = s ∧ ∀ call, s.calls.get? n = some call → call.finished = false) ∨
    ∃ call, s.calls.get? n = some call ∧ call.finished = true ∧ s.onDone n =
      { s with
        activeSessions := s.activeSessions.erase call.callId
        calls := s.calls.erase n } := by
  unfold UdpServer.onDone
  cases hcall : s.calls.get? n with
  | none => exact .inl ⟨rfl, by simp⟩
  | some call =>
    cases hfinished : call.finished with
    | false => exact .inl ⟨by simp [hfinished], by simpa using hfinished⟩
    | true => exact .inr ⟨call, rfl, hfinished, by simp [hfinished]⟩

/-- A completion that finds no other session under its Call-ID keeps the calls registered. -/
theorem CallsRegistered.done {cfg : UdpConfig} {s : UdpServer} (h : CallsRegistered s) {n : ℕ}
    (hown : KeepsCalls cfg s (.sessionDone n)) : CallsRegistered (s.onDone n) := by
  rcases onDone_cases s n with ⟨hnext, -⟩ | ⟨done, hdone, hfinished, hnext⟩
  · rwa [hnext]
  · rw [hnext]
    intro m call hget hlive hrunning
    simp only [Dict.get?_erase] at hget ⊢
    split at hget
    · simp at hget
    · next hm =>
        have hentry := h m call hget hlive hrunning
        have hother : call.callId ≠ done.callId :=
          fun heq => hm (hown done hdone hfinished m (heq ▸ hentry))
        rw [if_neg hother]
        exact hentry

/-- A completion leaves the other sessions alone exactly if it finds none of them under its
    Call-ID. -/
theorem completesOwn_done_iff (n : ℕ) :
    CompletesOwn cfg ((udpMachine cfg).entry s (.sessionDone n)) ↔
      KeepsCalls cfg s (.sessionDone n) := by
  have hstep : (udpMachine cfg).next s (.sessionDone n) = s.onDone n := rfl
  simp only [CompletesOwn, EventMachine.entry_event, EventMachine.entry_pre,
    UdpEvent.sessionDone.injEq, forall_eq', hstep]
  rcases onDone_cases s n with ⟨hnext, hrunning⟩ | ⟨done, hdone, hfinished, hnext⟩
  · rw [hnext]
    refine iff_of_true (fun _ _ hget _ => hget) (fun call hcall hfinished => ?_)
    rw [hrunning call hcall] at hfinished
    exact absurd hfinished (by simp)
  · rw [hnext]
    constructor
    · intro hkeeps call hcall _ m hget
      rw [hdone, Option.some.injEq] at hcall
      subst hcall
      by_contra hm
      have hkept := hkeeps done.callId m hget hm
      simp at hkept
    · intro hown callId m hget hm
      have hother : callId ≠ done.callId := by
        rintro rfl
        exact hm (hown done hdone hfinished m hget)
      rw [Dict.get?_erase, if_neg hother]
      exact hget

theorem completesOwn_of_ne_done {cfg : UdpConfig} {s : UdpServer} {e : UdpEvent}
    (h : ∀ n, e ≠ .sessionDone n) : CompletesOwn cfg ((udpMachine cfg).entry s e) :=
  fun n hn => absurd hn (h n)

theorem udpStep_iff (e : UdpEvent) (h : CallsRegistered s) :
    (CallsRegistered ((udpMachine cfg).next s e) ∧ CompletesOwn cfg ((udpMachine cfg).entry s e)) ↔
      KeepsCalls cfg s e := by
  cases e with
  | datagram message draws =>
    rw [and_iff_left (completesOwn_of_ne_done (fun n => by simp))]
    rcases datagram_next cfg s message draws with
      ⟨callId, hinvited, hfree, session, hbuilt, hnext⟩ | ⟨hinvited, hnext⟩
    · rw [hnext, callsRegistered_answer_iff h hfree, hbuilt]
      simp [KeepsCalls, hinvited]
    · refine iff_of_true ?_ (by simp [KeepsCalls, hinvited])
      rcases hnext with hnext | ⟨callId, hnext⟩
      · rwa [hnext]
      · rw [hnext]
        exact h.bye callId
  | sessionEnds n =>
    exact iff_of_true ⟨h.ends n, completesOwn_of_ne_done (fun n => by simp)⟩ trivial
  | sessionDone n =>
    rw [completesOwn_done_iff]
    exact ⟨And.right, fun hown => ⟨h.done hown, hown⟩⟩

theorem callsRegistered_empty : CallsRegistered .empty := by
  intro n call hget
  simp [UdpServer.empty] at hget

/-- **The registry along runs.** In all states of a run every live call is registered, and no
    completion drops the entry of another session, exactly if every answered INVITE of the run finds
    a configuration that builds sessions, and no completion finds another session under its
    Call-ID. -/
theorem udpRegistry_always_iff (es : List UdpEvent) :
    ((udpMachine cfg).Always CallsRegistered .empty es ∧
      ∀ t ∈ (udpMachine cfg).trace .empty es, CompletesOwn cfg t) ↔
    ∀ t ∈ (udpMachine cfg).trace .empty es, KeepsCalls cfg t.pre t.event :=
  (udpMachine cfg).sound_iff_guarded (I := fun _ => True) (fun _ _ _ => trivial)
    (fun s e _ h => udpStep_iff cfg s e h) trivial callsRegistered_empty es

/-- A server in direct mode. -/
def directServer : UdpConfig where
  py := .ascii
  hasTransport := true
  sipPort := 6060
  sipPublicIp := "10.0.0.1"
  sipUsername := "agent"
  tenantId := "public"
  companyId := "ekaette-electronics"
  gatewayMode := false
  gatewayWsUrl := ""
  gatewayWsSecret := ""
  normalizePhone _ := none
  phoneHmac seed := seed
  sha256 data := data

/-- A request of the call `c` without a body. -/
def callRequest (method : String) : UdpEvent :=
  .datagram (method ++ " sip:h SIP/2.0\r\nCall-ID: c\r\n\r\n") ⟨"a1", "b2", 10000⟩

/-- The call is answered, ended by BYE and invited again; then the first session's task ends. -/
def reusedCallId : List UdpEvent :=
  [callRequest "INVITE", callRequest "BYE", callRequest "INVITE", .sessionEnds 0]

/-- The late completion of the first session unregisters the second. -/
theorem lateCompletion_unregisters :
    ¬ (udpMachine directServer).Always CallsRegistered .empty (reusedCallId ++ [.sessionDone 0]) ∧
      ¬ ∀ t ∈ (udpMachine directServer).trace .empty (reusedCallId ++ [.sessionDone 0]),
        CompletesOwn directServer t := by
  have hbefore : ((udpMachine directServer).run .empty reusedCallId).activeSessions.get? "c"
        = some 1 ∧
      (((udpMachine directServer).run .empty reusedCallId).onDone 0).activeSessions.get? "c"
        = none ∧
      ((((udpMachine directServer).run .empty reusedCallId).onDone 0).calls.get? 1).map
        (fun call => (call.callId, call.shutDown, call.finished)) = some ("c", false, false) := by
    decide +kernel
  rw [EventMachine.trace_concat]
  refine ⟨fun h => ?_, fun h => ?_⟩
  · have hregistered := h.run
    rw [EventMachine.run_concat] at hregistered
    generalize (udpMachine directServer).run .empty reusedCallId = s at hbefore hregistered
    obtain ⟨-, hgone, hcall⟩ := hbefore
    obtain ⟨call, hcall, hfields⟩ := Option.map_eq_some_iff.1 hcall
    simp only [Prod.mk.injEq] at hfields
    obtain ⟨hid, hlive, hrunning⟩ := hfields
    have hentry := hregistered 1 call hcall hlive hrunning
    rw [hid] at hentry
    exact absurd (hgone.symm.trans hentry) (by simp)
  · have hown := h _ (List.mem_append_right _ (List.mem_singleton_self _))
    generalize (udpMachine directServer).run .empty reusedCallId = s at hbefore hown
    obtain ⟨hactive, hgone, -⟩ := hbefore
    exact absurd (hgone.symm.trans (hown 0 rfl "c" 1 hactive (by decide))) (by simp)

end Ekaette
