import Ekaette.Firestore
import Ekaette.Lib.ProgramPool

set_option autoImplicit false

/-! # Replies to a WhatsApp message

The webhook queues a message under an id of its own, or answers it at once where there is no queue;
a queued task is delivered at least once. Each delivery makes up a reply and sends it, a voice note
or a text, and tries again where the provider does not answer. The deliveries are those of one
message. -/

namespace Ekaette

/-- What `_process_message` reads of a message. -/
structure WaMessage where
  id : String
  /-- `from` -/
  sender : String
  type : String
  textBody : String := ""
  mediaId : String := ""
  mimeType : String := ""
  caption : String := ""
  /-- the title of the button or list reply, or its id -/
  interactiveReply : String := ""

structure WaProcessing where
  /-- `WHATSAPP_ENABLED` -/
  enabled : Bool
  /-- `google.cloud.tasks_v2` is there -/
  hasTasksSdk : Bool
  /-- `K_SERVICE` is set -/
  onCloudRun : Bool
  /-- `WA_CLOUD_TASKS_MAX_ATTEMPTS` -/
  tasksMaxAttempts : ℤ
  /-- `WA_GRAPH_RETRY_MAX_ATTEMPTS` -/
  graphRetryMaxAttempts : ℕ

/-- The handler of a message, and what it is called with. -/
inductive ReplyHandler where
  | text (text : String)
  | image (mediaId mimeType caption : String)
  | video (mediaId mimeType caption : String)
  | audio (mediaId mimeType : String)

/-- The payload of a reply, to a customer without `+`. -/
inductive WaReply where
  | text (customer body : String)
  | audio (customer mediaId : String)

/-- What comes back for a request: a response, an exception that is tried again, or another one. -/
inductive GraphResponse where
  | status (code : ℕ)
  | retryable
  | failure

/-- `200 <= status < 300` -/
def isSuccess (code : ℕ) : Bool := decide (200 ≤ code) && decide (code < 300)

def GraphResponse.succeeded : GraphResponse → Bool
  | .status code => isSuccess code
  | _ => false

/-- What becomes of a request: whether the provider accepts it, which is not seen, and the
    response. -/
structure Sent where
  accepted : Bool
  response : GraphResponse
  sound : response.succeeded = true → accepted = true

inductive WaOp where
  | handle (sender : String) (handler : ReplyHandler)
  | textToSpeech (text : String)
  | uploadMedia (audio : String)
  | post (reply : WaReply)
  | sleep
  | scheduleNudge
  | writeFailureArtifacts
  /-- `create_task`, which answers whether the id is new -/
  | createTask

@[reducible] def WaOp.Answer : WaOp → Type
  | .handle _ _ => String
  | .textToSpeech _ => String
  | .uploadMedia _ => String
  | .post _ => Sent
  | .createTask => Bool
  | _ => Unit

/-- The queue remembers whether a task was created for the message. -/
structure WaQueue where
  created : Bool

/-- What the outside chooses for an operation. -/
structure WaChoice where
  access : Access
  text : String
  sent : Sent

def serveWa (queue : WaQueue) (choice : WaChoice) : (c : WaOp) → WaQueue × Option c.Answer
  | .handle _ _ => choice.access.perform queue (queue, some choice.text) none
  | .textToSpeech _ => choice.access.perform queue (queue, some choice.text) none
  | .uploadMedia _ => choice.access.perform queue (queue, some choice.text) none
  | .post _ => (queue, some choice.sent)
  | .sleep => (queue, some ())
  | .scheduleNudge => choice.access.perform queue (queue, some ()) none
  | .writeFailureArtifacts => choice.access.perform queue (queue, some ()) none
  | .createTask => choice.access.perform queue (⟨true⟩, some !queue.created) none

abbrev WaProgram := CallProgram WaOp WaOp.Answer

abbrev WaLog := List (Called WaOp WaOp.Answer)

abbrev askWa (c : WaOp) : WaProgram c.Answer := CallProgram.ask c

abbrev tryWa (c : WaOp) : WaProgram (Option c.Answer) := CallProgram.attempt c

/-- `_wa_graph_request`, with this many attempts left; `none` where it raises. -/
def waGraphRequest (reply : WaReply) : ℕ → WaProgram (Option ℕ)
  | 0 => pure (some 500)
  | n + 1 => do
      let sent ← askWa (.post reply)
      match sent.response with
      | .status code =>
        if (code = 429 ∨ 500 ≤ code) ∧ 0 < n then
          let _ ← askWa .sleep
          waGraphRequest reply n
        else pure (some code)
      | .retryable =>
        if 0 < n then
          let _ ← askWa .sleep
          waGraphRequest reply n
        else pure none
      | .failure => pure none

variable (cfg : WaProcessing)

/-- `to.lstrip("+")` -/
def customerOf (recipient : String) : String := String.ofList (recipient.toList.dropWhile (· = '+'))

/-- `whatsapp_send_text` -/
def whatsappSendText (recipient body : String) : WaProgram (Option ℕ) :=
  waGraphRequest (.text (customerOf recipient) body) cfg.graphRetryMaxAttempts

/-- `whatsapp_send_audio` -/
def whatsappSendAudio (recipient mediaId : String) : WaProgram (Option ℕ) :=
  waGraphRequest (.audio (customerOf recipient) mediaId) cfg.graphRetryMaxAttempts

/-- `_send_voice_reply` -/
def sendVoiceReply (recipient text : String) : WaProgram (Option ℕ) := do
  match ← tryWa (.textToSpeech text) with
  | none => whatsappSendText cfg recipient text
  | some audio =>
    match ← tryWa (.uploadMedia audio) with
    | none => whatsappSendText cfg recipient text
    | some mediaId =>
      match ← whatsappSendAudio cfg recipient mediaId with
      | none => whatsappSendText cfg recipient text
      | some status =>
        if isSuccess status then pure (some status)
        else whatsappSendText cfg recipient text

def UNSUPPORTED_MESSAGE_TYPES : List String :=
  ["document", "location", "contacts", "reaction", "sticker"]

/-- `handle_unsupported_message_type` -/
def handleUnsupportedMessageType (messageType : String) : String :=
  "Sorry, I can't process " ++ messageType ++
    " messages yet. Please send a text message, image, or video instead."

variable (m : WaMessage)

/-- The reply, by the type of the message; `none` for an unknown type. -/
def generateReply : Option (WaProgram (Option String)) :=
  if m.type = "text" then some (tryWa (.handle m.sender (.text m.textBody)))
  else if m.type =
    "image" then some (tryWa (.handle m.sender (.image m.mediaId m.mimeType m.caption)))
  else if m.type =
    "video" then some (tryWa (.handle m.sender (.video m.mediaId m.mimeType m.caption)))
  else if m.type = "audio" then some (tryWa (.handle m.sender (.audio m.mediaId m.mimeType)))
  else if m.type = "interactive" then
    some (tryWa (.handle m.sender (.text (if m.interactiveReply = "" then "Interactive response"
      else "Selected: " ++ m.interactiveReply))))
  else if m.type ∈
    UNSUPPORTED_MESSAGE_TYPES then some (pure (some (handleUnsupportedMessageType m.type)))
  else none

/-- The part of `_process_message` that sends the reply; `false` where it raises. -/
def sendReply (reply : String) : WaProgram Bool := do
  match ← (if m.type = "audio" ∧ reply ≠ "" then sendVoiceReply cfg m.sender reply
    else whatsappSendText cfg m.sender reply) with
  | none => pure false
  | some status =>
    if isSuccess status then
      let _ ← tryWa .scheduleNudge
      pure true
    else pure false

/-- `_process_message`; `false` where it raises. -/
def processMessage : WaProgram Bool :=
  if m.sender = "" ∨ m.type = "" then pure true
  else
    match generateReply m with
    | none => pure true
    | some generate => do
        match ← generate with
        | none => pure false
        | some reply => sendReply cfg m reply

inductive WaResult where
  | ok
  | skipped
  | failed
  | disabled
  | enqueued (count : ℕ)

/-- `wa_process` -/
def waProcess (retryCount : ℤ) : WaProgram WaResult :=
  if m.id = "" then pure .skipped
  else do
    if ← processMessage cfg m then pure .ok
    else if cfg.tasksMaxAttempts ≤ retryCount + 1 then
      let _ ← askWa .writeFailureArtifacts
      pure .failed
    else .raised

/-- `_enqueue_process_task`; `false` where it raises, but for an id that exists already. -/
def enqueueProcessTask : WaProgram Bool := do
  if cfg.hasTasksSdk then
    match ← tryWa .createTask with
    | some _ => pure true
    | none => pure false
  else if cfg.onCloudRun then pure false
  else processMessage cfg m

/-- `wa_webhook`, for this message of the configured number -/
def waWebhook : WaProgram WaResult :=
  if !cfg.enabled then pure .disabled
  else if m.id = "" ∨ m.sender = "" then pure (.enqueued 0)
  else do
    if ← enqueueProcessTask cfg m then pure (.enqueued 1) else .raised

/-- A webhook delivery of the message, or an execution of its task. -/
inductive WaDelivery where
  | webhook
  | process (retryCount : ℤ)

def WaDelivery.program : WaDelivery → WaProgram WaResult
  | .webhook => waWebhook cfg m
  | .process retryCount => waProcess cfg m retryCount

abbrev WaDeliveryPool := Pool WaQueue WaOp WaOp.Answer WaResult

abbrev WaDeliveryEvent := PoolEvent WaDelivery WaChoice

/-- Deliveries of a message that run side by side. -/
def waDeliveries : EventMachine WaDeliveryPool WaDeliveryEvent Unit :=
  Pool.machine serveWa (WaDelivery.program cfg m)

/-! ## Accepted replies -/

def isAccepted : Called WaOp WaOp.Answer → Bool
  | ⟨.post _, some sent⟩ => sent.accepted
  | _ => false

/-- How many replies the provider accepted. -/
def acceptedReplies (history : WaLog) : ℕ := history.countP isAccepted

/-- No request so far got a response of success. -/
def NoSuccess (log : WaLog) : Prop :=
  ∀ reply sent, ⟨.post reply, some sent⟩ ∈ log → sent.response.succeeded = false

/-- A reply is not sent again after a response of success. -/
def SendsAfterFailure (log : WaLog) : WaOp → Prop
  | .post _ => NoSuccess log
  | _ => True

/-- What a request leaves: a response of success, or still none. -/
def SucceededOrNot (log : WaLog) (status : Option ℕ) : Prop :=
  (∃ code, status = some code ∧ isSuccess code = true) ∨ NoSuccess log

theorem noSuccess_concat {log : WaLog} (hlog : NoSuccess log) (called : Called WaOp WaOp.Answer)
    (hcalled : ∀ reply sent, called = ⟨.post reply, some sent⟩ → sent.response.succeeded = false) :
    NoSuccess (log ++ [called]) := by
  intro reply sent hmem
  rcases List.mem_append.1 hmem with hbefore | hlast
  · exact hlog reply sent hbefore
  · exact hcalled reply sent (List.mem_singleton.1 hlast).symm

/-- **Attempts**: a request is made again only after one without success. -/
theorem obeys_waGraphRequest (reply : WaReply) (n : ℕ) {log : WaLog} (hlog : NoSuccess log) :
    (waGraphRequest reply n).Obeys SendsAfterFailure SucceededOrNot log := by
  induction n generalizing log with
  | zero => exact .inr hlog
  | succ n ih =>
    have hagain : ∀ log, NoSuccess log →
        (askWa .sleep >>= fun _ => waGraphRequest reply n).Obeys SendsAfterFailure SucceededOrNot
        log := by
      intro log hlog
      rw [CallProgram.obeys_ask_bind]
      refine ⟨trivial, fun _ => ih (noSuccess_concat hlog _ fun _ _ h => ?_)⟩
      cases h
    rw [waGraphRequest, CallProgram.obeys_ask_bind]
    refine ⟨hlog, fun sent => ?_⟩
    have hfailed : sent.response.succeeded = false →
        NoSuccess (log ++ [⟨.post reply, some sent⟩]) :=
      fun hfailed => noSuccess_concat hlog _ fun reply' sent' h => by
        cases h
        exact hfailed
    obtain ⟨accepted, response, sound⟩ := sent
    cases response with
    | status code =>
      dsimp only
      rw [CallProgram.obeys_ite]
      refine ⟨fun hcode => hagain _ (hfailed ?_), fun _ => ?_⟩
      · simp only [GraphResponse.succeeded, isSuccess, Bool.and_eq_false_iff,
          decide_eq_false_iff_not]
        omega
      · cases hcode : isSuccess code with
        | true => exact .inl ⟨code, rfl, hcode⟩
        | false => exact .inr (hfailed hcode)
    | retryable =>
      dsimp only
      rw [CallProgram.obeys_ite]
      exact ⟨fun _ => hagain _ (hfailed rfl), fun _ => .inr (hfailed rfl)⟩
    | failure => exact .inr (hfailed rfl)

theorem obeys_whatsappSendText (recipient body : String) {log : WaLog} (hlog : NoSuccess log) :
    (whatsappSendText cfg recipient body).Obeys SendsAfterFailure SucceededOrNot log :=
  obeys_waGraphRequest _ _ hlog

/-- **Voice notes**: the text is sent only where the voice note had no success. -/
theorem obeys_sendVoiceReply (recipient text : String) {log : WaLog} (hlog : NoSuccess log) :
    (sendVoiceReply cfg recipient text).Obeys SendsAfterFailure SucceededOrNot log := by
  unfold sendVoiceReply
  rw [CallProgram.obeys_bind, CallProgram.obeys_attempt]
  refine ⟨trivial, fun audio => ?_⟩
  have hspeech := noSuccess_concat hlog ⟨.textToSpeech text, audio⟩ fun _ _ h => nomatch h
  cases audio with
  | none => exact obeys_whatsappSendText cfg recipient text hspeech
  | some audio =>
    dsimp only
    rw [CallProgram.obeys_bind, CallProgram.obeys_attempt]
    refine ⟨trivial, fun mediaId => ?_⟩
    have hupload := noSuccess_concat hspeech ⟨.uploadMedia audio, mediaId⟩ fun _ _ h => nomatch h
    cases mediaId with
    | none => exact obeys_whatsappSendText cfg recipient text hupload
    | some mediaId =>
      refine (obeys_waGraphRequest _ _ hupload).bind fun log status hstatus => ?_
      cases status with
      | none =>
        refine obeys_whatsappSendText cfg recipient text (hstatus.resolve_left ?_)
        rintro ⟨code, hcode, -⟩
        cases hcode
      | some status =>
        dsimp only
        rw [CallProgram.obeys_ite]
        refine ⟨fun hsuccess => .inl ⟨status, rfl, hsuccess⟩, fun hfailed => ?_⟩
        refine obeys_whatsappSendText cfg recipient text (hstatus.resolve_left ?_)
        rintro ⟨code, hcode, hsuccess⟩
        exact hfailed (Option.some.inj hcode ▸ hsuccess)

theorem obeys_sendReply (reply : String) {log : WaLog} (hlog : NoSuccess log) :
    (sendReply cfg m reply).Obeys SendsAfterFailure (fun _ _ => True) log := by
  have hsend : (if m.type = "audio" ∧ reply ≠ "" then sendVoiceReply cfg m.sender reply
      else whatsappSendText cfg m.sender reply).Obeys SendsAfterFailure SucceededOrNot log := by
    rw [CallProgram.obeys_ite]
    exact ⟨fun _ => obeys_sendVoiceReply cfg _ _ hlog, fun _ => obeys_whatsappSendText cfg _ _ hlog⟩
  unfold sendReply
  refine hsend.bind fun log status _ => ?_
  cases status with
  | none => exact trivial
  | some status =>
    dsimp only
    rw [CallProgram.obeys_ite]
    exact ⟨fun _ => ⟨trivial, fun _ => trivial⟩, fun _ => trivial⟩

theorem obeys_generateReply {m : WaMessage} {generate : WaProgram (Option String)}
    (h : generateReply m = some generate) {log : WaLog} (hlog : NoSuccess log) :
    generate.Obeys SendsAfterFailure (fun log _ => NoSuccess log) log := by
  have hhandle : ∀ handler, (tryWa (.handle m.sender handler)).Obeys SendsAfterFailure
      (fun log _ => NoSuccess log) log := by
    intro handler
    rw [CallProgram.obeys_attempt]
    exact ⟨trivial, fun _ => noSuccess_concat hlog _ fun _ _ h => nomatch h⟩
  unfold generateReply at h
  split_ifs at h
  all_goals
    obtain rfl := Option.some.inj h
    first
    | exact hhandle _
    | exact hlog

theorem obeys_processMessage {log : WaLog} (hlog : NoSuccess log) :
    (processMessage cfg m).Obeys SendsAfterFailure (fun _ _ => True) log := by
  unfold processMessage
  rw [CallProgram.obeys_ite]
  refine ⟨fun _ => trivial, fun _ => ?_⟩
  cases hgenerate : generateReply m with
  | none => exact trivial
  | some generate =>
    refine (obeys_generateReply hgenerate hlog).bind fun log reply hlog => ?_
    cases reply with
    | none => exact trivial
    | some reply => exact obeys_sendReply cfg m reply hlog

theorem noSuccess_nil : NoSuccess [] := fun _ _ h => nomatch h

/-- **Deliveries**, of both kinds. -/
theorem obeys_waDelivery (delivery : WaDelivery) :
    (delivery.program cfg m).Obeys SendsAfterFailure (fun _ _ => True) [] := by
  cases delivery with
  | webhook =>
    show (waWebhook cfg m).Obeys _ _ _
    unfold waWebhook enqueueProcessTask
    rw [CallProgram.obeys_ite, CallProgram.obeys_ite, CallProgram.obeys_bind, CallProgram.obeys_ite,
      CallProgram.obeys_ite]
    have hfinish : ∀ (log : WaLog) (queued : Bool),
        (if queued = true then pure (.enqueued 1) else .raised : WaProgram WaResult).Obeys
          SendsAfterFailure (fun _ _ => True) log := by
      intro log queued
      rw [CallProgram.obeys_ite]
      exact ⟨fun _ => trivial, fun _ => trivial⟩
    refine ⟨fun _ => trivial, fun _ =>
      ⟨fun _ => trivial, fun _ => ⟨fun _ => ?_, fun _ => ⟨fun _ => ?_, fun _ => ?_⟩⟩⟩⟩
    · rw [CallProgram.obeys_bind, CallProgram.obeys_attempt]
      refine ⟨trivial, fun created => ?_⟩
      cases created with
      | none => exact hfinish [⟨.createTask, none⟩] false
      | some created => exact hfinish [⟨.createTask, some created⟩] true
    · exact hfinish [] false
    · exact (obeys_processMessage cfg m noSuccess_nil).mono (fun _ _ h => h) fun log queued _ =>
        hfinish log queued
  | process retryCount =>
    show (waProcess cfg m retryCount).Obeys _ _ _
    unfold waProcess
    rw [CallProgram.obeys_ite]
    refine ⟨fun _ => trivial, fun _ => ?_⟩
    refine (obeys_processMessage cfg m noSuccess_nil).bind fun log processed _ => ?_
    rw [CallProgram.obeys_ite, CallProgram.obeys_ite]
    refine ⟨fun _ => trivial, fun _ => ⟨fun _ => ?_, fun _ => trivial⟩⟩
    rw [CallProgram.obeys_ask_bind]
    exact ⟨trivial, fun _ => trivial⟩

/-! ## Runs -/

/-- If the step is a request that is accepted, no request of another delivery was accepted before,
    and those of its own delivery that were accepted got a response of success. -/
def AcceptedFirst (s : WaDeliveryPool) (e : WaDeliveryEvent) : Prop :=
  ∀ (i : ℕ) (choice : WaChoice) (log : WaLog) (reply : WaReply)
    (k : Option Sent → WaProgram WaResult),
    e = .resume i choice → choice.sent.accepted = true →
    s.threads[i]? = some ⟨log, .call (.post reply) k⟩ →
      (∀ (j : ℕ) (t : Thread WaOp WaOp.Answer WaResult), j ≠ i → s.threads[j]? = some t →
        ∀ called ∈ t.log, isAccepted called = false) ∧
      ∀ reply sent, ⟨.post reply, some sent⟩ ∈ log → sent.accepted = true →
      sent.response.succeeded = true

/-- No deliveries yet. -/
def noDeliveries (queue : WaQueue) : WaDeliveryPool := { shared := queue }

/-- The invariant: deliveries obey, and the history is theirs. -/
structure WaSound (s : WaDeliveryPool) : Prop where
  obeyed : Pool.Obeyed SendsAfterFailure (fun _ _ => True) s
  logged : s.Logged

theorem waSound_next {s : WaDeliveryPool} (hs : WaSound s) (e : WaDeliveryEvent) :
    WaSound ((waDeliveries cfg m).next s e) :=
  ⟨Pool.obeyed_next hs.obeyed e fun delivery _ => obeys_waDelivery cfg m delivery,
    Pool.logged_next hs.logged e⟩

theorem waSound_noDeliveries (queue : WaQueue) : WaSound (noDeliveries queue) := by
  refine ⟨fun i t ht => ?_, fun called => ⟨fun h => ?_, fun ⟨i, t, ht, _⟩ => ?_⟩⟩
  · cases ht
  · cases h
  · cases ht

/-- An accepted request: a request with this outcome. -/
theorem eq_post_of_isAccepted {called : Called WaOp WaOp.Answer} (h : isAccepted called = true) :
    ∃ reply sent, called = ⟨.post reply, some sent⟩ ∧ sent.accepted = true := by
  obtain ⟨c, answer⟩ := called
  cases c with
  | post reply =>
    cases answer with
    | none => cases h
    | some sent => exact ⟨reply, sent, rfl, h⟩
  | _ => cases h

/-- A request is the first that is accepted exactly if the condition holds. -/
theorem noneAccepted_iff {s : WaDeliveryPool} (hs : WaSound s) {i : ℕ} {log : WaLog}
    {reply : WaReply} {k : Option Sent → WaProgram WaResult}
    (hfound : s.threads[i]? = some ⟨log, .call (.post reply) k⟩) : acceptedReplies s.history = 0 ↔
      (∀ (j : ℕ) (t : Thread WaOp WaOp.Answer WaResult), j ≠ i → s.threads[j]? = some t →
        ∀ called ∈ t.log, isAccepted called = false) ∧
      ∀ reply sent, ⟨.post reply, some sent⟩ ∈ log → sent.accepted = true →
      sent.response.succeeded = true := by
  have hfailed : NoSuccess log := (hs.obeyed i _ hfound).1
  rw [acceptedReplies, List.countP_eq_zero]
  constructor
  · intro hnone
    refine ⟨fun j t _ ht called hmem => ?_, fun reply sent hmem haccepted => ?_⟩
    · exact Bool.eq_false_iff.2 (hnone called ((hs.logged called).2 ⟨j, t, ht, hmem⟩))
    · exact absurd haccepted (hnone _ ((hs.logged _).2 ⟨i, _, hfound, hmem⟩))
  · rintro ⟨hothers, hown⟩ called hmem haccepted
    obtain ⟨j, t, ht, hlog⟩ := (hs.logged called).1 hmem
    by_cases hji : j = i
    · subst hji
      obtain rfl := Option.some.inj (hfound.symm.trans ht)
      obtain ⟨reply', sent, rfl, hsent⟩ := eq_post_of_isAccepted haccepted
      -- the program would not have made another request after a success
      exact absurd ((hfailed reply' sent hlog).symm.trans (hown reply' sent hlog hsent))
        Bool.false_ne_true
    · exact absurd haccepted (Bool.eq_false_iff.1 (hothers j t hji ht called hlog))

/-- **Step lemma.** -/
theorem acceptedOnce_next {s : WaDeliveryPool} (e : WaDeliveryEvent)
    (hs : WaSound s) (honce : acceptedReplies s.history ≤ 1) :
    acceptedReplies ((waDeliveries cfg m).next s e).history ≤ 1 ↔ AcceptedFirst s e := by
  cases e with
  | start delivery =>
    refine ⟨fun _ i choice log reply k he => ?_, fun _ => honce⟩
    cases he
  | resume i choice =>
    have hnext : (waDeliveries cfg m).next s (.resume i choice) = s.resume serveWa i choice := rfl
    rw [hnext]
    rcases Pool.resume_cases serveWa s i choice with hsame | ⟨⟨h⟩⟩
    · -- the delivery has ended, and makes no request
      rw [hsame]
      refine ⟨fun _ j choice' log reply k he _ hfound => ?_, fun _ => honce⟩
      cases he
      have hlonger : (s.resume serveWa i choice).history.length = s.history.length + 1 := by
        unfold Pool.resume
        rw [hfound]
        exact List.length_append
      rw [hsame] at hlonger
      omega
    · rw [h.history, acceptedReplies, List.countP_append, List.countP_singleton]
      obtain ⟨log, call, k, hfound, -, -, -⟩ := h
      by_cases haccepted : isAccepted ⟨call, (serveWa s.shared choice call).2⟩ = true
      · obtain ⟨reply, sent, hcalled, hsent⟩ := eq_post_of_isAccepted haccepted
        have hcall : call = .post reply := congrArg Sigma.fst hcalled
        subst hcall
        have hchoice : choice.sent.accepted = true := haccepted
        rw [if_pos haccepted]
        refine Iff.trans ?_ ((noneAccepted_iff hs hfound).trans ⟨fun hnone => ?_, fun hfirst => ?_⟩)
        · show s.history.countP isAccepted + 1 ≤ 1 ↔ acceptedReplies s.history = 0
          rw [acceptedReplies]
          omega
        · intro j choice' log' reply' k' he _ hfound'
          cases he
          cases Option.some.inj (hfound.symm.trans hfound')
          exact hnone
        · exact hfirst i choice log reply k rfl hchoice hfound
      · rw [if_neg haccepted]
        refine ⟨fun _ j choice' log' reply k' he hsent hfound' => ?_, fun _ => honce⟩
        cases he
        cases Option.some.inj (hfound.symm.trans hfound')
        exact absurd hsent haccepted

/-- **One answer.** In every run of webhook deliveries and task executions the provider accepts at
    most one reply to a message, exactly if each request that it accepts is made before any request
    of another delivery is accepted, and after no request of its own delivery that was accepted
    without a response of success. -/
theorem answeredOnce_iff (queue : WaQueue) (es : List WaDeliveryEvent) :
    (waDeliveries cfg m).Always (fun s => acceptedReplies s.history ≤ 1) (noDeliveries queue) es ↔
      ∀ t ∈ (waDeliveries cfg m).trace (noDeliveries queue) es, AcceptedFirst t.pre t.event :=
  (waDeliveries cfg m).always_iff_guarded_of_invariant (I := WaSound) (G := AcceptedFirst)
    (fun _ e hs => waSound_next cfg m hs e) (fun _ e hs honce => acceptedOnce_next cfg m e hs honce)
    (waSound_noDeliveries queue) (Nat.zero_le 1) es

/-- A text message. -/
def helloMessage : WaMessage :=
  { id := "wamid.1", sender := "2348000001", type := "text", textBody := "Hello" }

def queuedProcessing : WaProcessing := ⟨true, true, true, 3, 3⟩

/-- The `i`-th delivery takes a step, and what it sends is accepted. -/
def waStep (i : ℕ) : WaDeliveryEvent :=
  .resume i ⟨.served, "Hi!", ⟨true, .status 200, fun _ => rfl⟩⟩

/-- The task of the message is delivered twice. -/
def deliveredTwice : List WaDeliveryEvent :=
  [.start .webhook, waStep 0, .start (.process 0), waStep 1, waStep 1, .start (.process 0),
    waStep 2, waStep 2]

/-- A task is executed only after it was created. -/
def executesCreated (s : WaDeliveryPool) : WaDeliveryEvent → Bool
  | .start (.process _) => s.shared.created
  | _ => true

theorem deliveredTwice_answered :
    ¬ ∀ (cfg : WaProcessing) (m : WaMessage) (es : List WaDeliveryEvent),
      (∀ t ∈ (waDeliveries cfg m).trace (noDeliveries ⟨false⟩) es, executesCreated t.pre t.event =
        true) →
        (waDeliveries cfg m).Always (fun s => acceptedReplies s.history ≤ 1)
        (noDeliveries ⟨false⟩) es := by
  intro h
  have hsteps :
    ((waDeliveries queuedProcessing helloMessage).trace (noDeliveries ⟨false⟩) deliveredTwice).all
      (fun t => executesCreated t.pre t.event) = true := by
    with_unfolding_all rfl
  have hone := (h queuedProcessing helloMessage deliveredTwice (List.all_eq_true.1 hsteps)).run
  have htwo : acceptedReplies ((waDeliveries queuedProcessing helloMessage).run
      (noDeliveries ⟨false⟩) deliveredTwice).history = 2 := by
    with_unfolding_all rfl
  rw [htwo] at hone
  exact absurd hone (by decide)

end Ekaette
