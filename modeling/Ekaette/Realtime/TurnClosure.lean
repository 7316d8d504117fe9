import Ekaette.Realtime.StreamTasks

set_option autoImplicit false
set_option mvcgen.warning false

/-! # Transcription turns are closed

In native-audio mode no turn is left open where the client takes it as over: before an `interrupted`
message, before an idle status and, for the user's turn, before the agent's speech. The flags of
`downstream_task` know of every open turn, whichever sections of an event run and wherever a failing
send cuts one short. -/

namespace Ekaette

open Std.Do

/-! ## Open turns of a log -/

/-- Is the last transcription sent for a role a partial one? The log has its newest message
    first. -/
def turnOpen (role : SpeakerRole) : List ServerMessage → Bool
  | [] => false
  | .transcription r _ isPartial :: older => if r = role then isPartial else turnOpen role older
  | _ :: older => turnOpen role older

/-- What may be sent after `older`: an interruption and an idle status when no turn is open, a
    transcription of the agent when the user's turn is not open. -/
def SentInTurn (older : List ServerMessage) : ServerMessage → Prop
  | .interrupted => turnOpen .user older = false ∧ turnOpen .agent older = false
  | .agentStatus _ .idle => turnOpen .user older = false ∧ turnOpen .agent older = false
  | .transcription .agent _ _ => turnOpen .user older = false
  | _ => True

/-- Every message of the log was sent in turn. -/
def TurnsClosed (log : List ServerMessage) : Prop :=
  ∀ newer message older, log = newer ++ message :: older → SentInTurn older message

theorem turnsClosed_nil : TurnsClosed [] := by
  intro newer message older hlog
  simp at hlog

theorem turnsClosed_cons (message : ServerMessage) (log : List ServerMessage) :
    TurnsClosed (message :: log) ↔ SentInTurn log message ∧ TurnsClosed log := by
  constructor
  · intro h
    refine ⟨h [] message log rfl, fun newer m older hlog => ?_⟩
    exact h (message :: newer) m older (by rw [hlog, List.cons_append])
  · rintro ⟨hmessage, hlog⟩ newer m older heq
    cases newer with
    | nil =>
      obtain ⟨rfl, rfl⟩ := List.cons_eq_cons.1 heq
      exact hmessage
    | cons n newer =>
      rw [List.cons_append] at heq
      exact hlog newer m older (List.cons_eq_cons.1 heq).2

/-- The flags know of every open turn. -/
structure KnowsTurns (s : DownstreamState) : Prop where
  closed : TurnsClosed s.sent
  user : turnOpen .user s.sent = true → s.receivingInput = true ∧ s.lastInputText ≠ ""
  agent : turnOpen .agent s.sent = true → s.lastOutputText ≠ ""

/-! ## What the steps keep -/

variable (ctx : StreamContext) (d : Delivery)

theorem knowsTurns_iff (s : DownstreamState) :
    KnowsTurns s ↔ TurnsClosed s.sent ∧
      (turnOpen .user s.sent = true → s.receivingInput = true ∧ s.lastInputText ≠ "") ∧
      (turnOpen .agent s.sent = true → s.lastOutputText ≠ "") :=
  ⟨fun h => ⟨h.closed, h.user, h.agent⟩, fun h => ⟨h.1, h.2.1, h.2.2⟩⟩

theorem KnowsTurns.user_closed {s : DownstreamState} (h : KnowsTurns s)
    (htext : s.receivingInput = true → s.lastInputText = "") : turnOpen .user s.sent = false := by
  rw [← Bool.not_eq_true]
  intro hopen
  obtain ⟨hreceiving, hne⟩ := h.user hopen
  exact hne (htext hreceiving)

theorem finalizeInput_knowsTurns :
    ⦃fun s => ⌜KnowsTurns s⌝⦄ finalizeInput ctx d
    ⦃post⟨fun _ s => ⌜KnowsTurns s ∧ turnOpen .user s.sent = false⌝, fun _ s =>
      ⌜KnowsTurns s⌝⟩⦄ := by
  mvcgen [finalizeInput, send_spec]
  case vc3.isFalse s h _ htext after =>
    have hclosed := h.user_closed (by simpa using htext)
    simp_all +zetaDelta [knowsTurns_iff]
  all_goals simp_all +zetaDelta [knowsTurns_iff, turnsClosed_cons, SentInTurn, turnOpen]

theorem finalizeOutput_knowsTurns :
    ⦃fun s => ⌜KnowsTurns s ∧ turnOpen .user s.sent = false⌝⦄ finalizeOutput d
    ⦃post⟨fun _ s => ⌜KnowsTurns s ∧ turnOpen .user s.sent = false ∧
      turnOpen .agent s.sent = false⌝, fun _ s => ⌜KnowsTurns s⌝⟩⦄ := by
  mvcgen [finalizeOutput, send_spec]
  all_goals simp_all +zetaDelta [knowsTurns_iff, turnsClosed_cons, SentInTurn, turnOpen]

/-! ## The sections of an event -/

/-- Audio leaves the turns alone, and text content is not transcribed in native-audio mode. -/
theorem sendContent_knowsTurns (h : ctx.isNativeAudio = true) :
    ⦃fun s => ⌜KnowsTurns s⌝⦄ sendContent ctx d
    ⦃post⟨fun _ s => ⌜KnowsTurns s⌝, fun _ s => ⌜KnowsTurns s⌝⟩⦄ := by
  mvcgen [sendContent, sendContentPart, send_spec] invariants
  · post⟨fun ⟨_, _⟩ s => ⌜KnowsTurns s⌝, fun _ s => ⌜KnowsTurns s⌝⟩
  all_goals simp_all +zetaDelta [knowsTurns_iff, turnsClosed_cons, SentInTurn, turnOpen]

theorem relayInput_knowsTurns :
    ⦃fun s => ⌜KnowsTurns s⌝⦄ relayInput ctx d
    ⦃post⟨fun _ s => ⌜KnowsTurns s⌝, fun _ s => ⌜KnowsTurns s⌝⟩⦄ := by
  mvcgen [relayInput, send_spec]
  all_goals simp_all +zetaDelta [knowsTurns_iff, turnsClosed_cons, SentInTurn, turnOpen]

/-- The agent's speech comes after the user's turn is closed: when nothing is being received, no
    turn of the user is open. -/
theorem relayOutput_knowsTurns :
    ⦃fun s => ⌜KnowsTurns s⌝⦄ relayOutput ctx d
    ⦃post⟨fun _ s => ⌜KnowsTurns s⌝, fun _ s => ⌜KnowsTurns s⌝⟩⦄ := by
  mvcgen [relayOutput, finalizeInput_knowsTurns, send_spec]
  all_goals simp_all +zetaDelta [knowsTurns_iff, turnsClosed_cons, SentInTurn, turnOpen]

theorem relayInterrupted_knowsTurns :
    ⦃fun s => ⌜KnowsTurns s⌝⦄ relayInterrupted ctx d
    ⦃post⟨fun _ s => ⌜KnowsTurns s⌝, fun _ s => ⌜KnowsTurns s⌝⟩⦄ := by
  mvcgen [relayInterrupted, finalizeInput_knowsTurns, finalizeOutput_knowsTurns, send_spec]
  all_goals simp_all +zetaDelta [knowsTurns_iff, turnsClosed_cons, SentInTurn, turnOpen]

theorem relayTurnComplete_knowsTurns :
    ⦃fun s => ⌜KnowsTurns s⌝⦄ relayTurnComplete ctx d
    ⦃post⟨fun _ s => ⌜KnowsTurns s⌝, fun _ s => ⌜KnowsTurns s⌝⟩⦄ := by
  mvcgen [relayTurnComplete, finalizeInput_knowsTurns, finalizeOutput_knowsTurns, send_spec]
  all_goals simp_all +zetaDelta [knowsTurns_iff, turnsClosed_cons, SentInTurn, turnOpen]

theorem relayTransfer_knowsTurns :
    ⦃fun s => ⌜KnowsTurns s⌝⦄ relayTransfer d
    ⦃post⟨fun _ s => ⌜KnowsTurns s⌝, fun _ s => ⌜KnowsTurns s⌝⟩⦄ := by
  mvcgen [relayTransfer, send_spec]
  all_goals simp_all +zetaDelta [knowsTurns_iff, turnsClosed_cons, SentInTurn, turnOpen]

theorem relayStructured_knowsTurns :
    ⦃fun s => ⌜KnowsTurns s⌝⦄ relayStructured ctx d
    ⦃post⟨fun _ s => ⌜KnowsTurns s⌝, fun _ s => ⌜KnowsTurns s⌝⟩⦄ := by
  mvcgen [relayStructured, send_spec]
  all_goals simp_all +zetaDelta [knowsTurns_iff, turnsClosed_cons, SentInTurn, turnOpen]

theorem countUsage_knowsTurns :
    ⦃fun s => ⌜KnowsTurns s⌝⦄ countUsage ctx d
    ⦃post⟨fun _ s => ⌜KnowsTurns s⌝, fun _ s => ⌜KnowsTurns s⌝⟩⦄ := by
  mvcgen [countUsage, send_spec]
  all_goals simp_all +zetaDelta [knowsTurns_iff, turnsClosed_cons, SentInTurn, turnOpen]

theorem relayResumption_knowsTurns :
    ⦃fun s => ⌜KnowsTurns s⌝⦄ relayResumption d
    ⦃post⟨fun _ s => ⌜KnowsTurns s⌝, fun _ s => ⌜KnowsTurns s⌝⟩⦄ := by
  mvcgen [relayResumption, send_spec]
  all_goals simp_all +zetaDelta [knowsTurns_iff, turnsClosed_cons, SentInTurn, turnOpen]

theorem relayGoAway_knowsTurns :
    ⦃fun s => ⌜KnowsTurns s⌝⦄ relayGoAway d
    ⦃post⟨fun _ s => ⌜KnowsTurns s⌝, fun _ s => ⌜KnowsTurns s⌝⟩⦄ := by
  mvcgen [relayGoAway, send_spec]
  all_goals simp_all +zetaDelta [knowsTurns_iff, turnsClosed_cons, SentInTurn, turnOpen]

theorem relayEvent_knowsTurns (h : ctx.isNativeAudio = true) :
    ⦃fun s => ⌜KnowsTurns s⌝⦄ relayEvent ctx d
    ⦃post⟨fun _ s => ⌜KnowsTurns s⌝, fun _ s => ⌜KnowsTurns s⌝⟩⦄ := by
  have hcontent := sendContent_knowsTurns ctx d h
  mvcgen [relayEvent, hcontent, relayInput_knowsTurns, relayOutput_knowsTurns,
    relayInterrupted_knowsTurns, relayTransfer_knowsTurns, relayStructured_knowsTurns,
    relayTurnComplete_knowsTurns, countUsage_knowsTurns, relayResumption_knowsTurns,
    relayGoAway_knowsTurns]

/-! ## Whole sessions -/

/-- One event keeps the flags right, however far its handling gets. -/
theorem handle_knowsTurns (h : ctx.isNativeAudio = true) {s : DownstreamState} (hs : KnowsTurns s) :
    KnowsTurns (s.handle ctx d) :=
  attempt_keeps (relayEvent_knowsTurns ctx d h) ⟨hs.closed, hs.user, hs.agent⟩

theorem relayEvents_knowsTurns (h : ctx.isNativeAudio = true) (ds : List Delivery) :
    KnowsTurns (relayEvents ctx ds) := by
  have hfold : ∀ s, KnowsTurns s → KnowsTurns (ds.foldl (fun s d => s.handle ctx d) s) := by
    induction ds with
    | nil => exact fun s hs => hs
    | cons d ds ih => exact fun s hs => ih _ (handle_knowsTurns ctx d h hs)
  exact hfold {} ⟨turnsClosed_nil, by simp [turnOpen], by simp [turnOpen]⟩

/-- **Turn closure.** In native-audio mode, whatever events a session brings and whatever the socket
    does: when an interruption or an idle status is sent, the last transcription sent for each role
    is not a partial one; and no transcription of the agent is sent while the last one sent for the
    user is partial. -/
theorem downstreamTask_turnsClosed (h : ctx.isNativeAudio = true) (ds : List Delivery)
    (clientThere : Bool) : TurnsClosed (downstreamTask ctx ds clientThere).sent := by
  have hclosed := (relayEvents_knowsTurns ctx h ds).closed
  unfold downstreamTask
  cases clientThere with
  | false => exact hclosed
  | true => exact (turnsClosed_cons _ _).2 ⟨trivial, hclosed⟩

/-- A session in which the agent is interrupted while it answers. -/
def interruptedSession : List Delivery :=
  [⟨{ inputTranscription := some ⟨"how much is", false⟩ }, fun _ => true⟩,
    ⟨{ outputTranscription := some ⟨"It costs", false⟩ }, fun _ => true⟩,
    ⟨{ interrupted := true, turnComplete := true }, fun _ => true⟩]

theorem interruptedSession_turnsClosed :
    ((downstreamTask ⟨true, id, false, .ascii⟩ interruptedSession true).sent.length = 7) ∧
      TurnsClosed (downstreamTask ⟨true, id, false, .ascii⟩ interruptedSession true).sent :=
  ⟨by decide +kernel, downstreamTask_turnsClosed _ rfl _ _⟩

end Ekaette
