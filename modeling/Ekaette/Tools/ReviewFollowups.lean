import Ekaette.Lib.SendOnce
import Ekaette.Tools.ShippingOrders

set_option autoImplicit false

/-! # A review is asked for once

A follow-up goes by `requested` as it read it, sends two messages and writes `requested` after them;
an update to delivered starts another one. Two follow-ups that overlap both send, and so does one
after another whose message went out with its answer lost; an update that writes an old record back
takes `requested` back. Where none of this happens, each channel carries one message for an order at
most, whatever else the calls do. -/

namespace Ekaette

variable (cfg : ShippingConfig)

/-! ## The flag -/

/-- A review was asked for, as far as a record says so. -/
def requestedIn (order : Option Record) : Bool := order.elim false reviewRequested

/-- The flag of a follow-up part. -/
def requestedPart (followup : Record) : Bool := (followup.value "requested").truthy

theorem requestedPart_eq (followup : Record) :
    requestedPart followup = ((followup.get? "requested").map PyValue.truthy).getD false := by
  rw [requestedPart, Record.value]
  cases followup.get? "requested" <;> rfl

theorem reviewRequested_eq (order : Record) :
    reviewRequested order = match order.value "review_followup" with
      | .dict es => requestedPart (Dict.ofList es)
      | _ => false := by
  rw [reviewRequested, reviewFollowup, dictAt]
  cases order.value "review_followup" <;> rfl

theorem reviewRequested_congr {order order' : Record}
    (h : order.get? "review_followup" = order'.get? "review_followup") :
    reviewRequested order = reviewRequested order' := by
  rw [reviewRequested_eq, reviewRequested_eq, Record.value, h, Record.value]

theorem reviewRequested_set (order : Record) {key : String} (v : PyValue)
    (h : key ≠ "review_followup") : reviewRequested (order.set key v) = reviewRequested order :=
  reviewRequested_congr (Dict.get?_set_of_ne _ _ h.symm)

theorem reviewRequested_shown (place : OrderPlace) (orderId : String) {stored : Option Record}
    {order : Record} (h : place.shown orderId stored = some order) :
    reviewRequested order = requestedIn stored := by
  cases place with
  | memory id =>
    have hstored : stored = some order := h
    rw [hstored]
    rfl
  | document ref =>
    obtain ⟨data, rfl, rfl⟩ := Option.map_eq_some_iff.1 h
    exact reviewRequested_set data _ (by decide)

theorem reviewRequested_payload (orderId : String) (record : Record) (now : String) :
    reviewRequested (orderPayload orderId record now) = reviewRequested record := by
  rw [orderPayload, reviewRequested_set _ _ (by decide), reviewRequested_set _ _ (by decide)]

theorem reviewRequested_updated (a : UpdateTrackingArgs) (order : Record) (now : String) :
    reviewRequested (updatedRecord cfg a order now) = reviewRequested order := by
  unfold updatedRecord
  rw [reviewRequested_set _ _ (by decide), reviewRequested_set _ _ (by decide),
    reviewRequested_set _ _ (by decide)]

theorem reviewRequested_created (a : CreateOrderArgs) (orderId : String) (existing : Option Record)
    (now : String) : reviewRequested (createdRecord cfg a orderId existing now) =
    requestedIn existing := by
  have hfollowup : (createdRecord cfg a orderId existing now).get? "review_followup" =
      some (.dict (reviewFollowup (existing.getD Dict.empty)).entries) := by
    unfold createdRecord
    rw [Dict.get?_set_of_ne _ _ (by decide), Dict.get?_set_of_ne _ _ (by decide),
      Dict.get?_set_of_ne _ _ (by decide), Dict.get?_set_self]
    rfl
  have hsame : reviewRequested (createdRecord cfg a orderId existing now) =
      reviewRequested (existing.getD Dict.empty) := by
    rw [reviewRequested_eq, Record.value, hfollowup]
    show requestedPart (Dict.ofList (reviewFollowup (existing.getD Dict.empty)).entries) = _
    rw [Dict.ofList_entries]
    rfl
  rw [hsame]
  cases existing <;> rfl

/-- What a follow-up writes says that a review was asked for. -/
theorem sentFollowup_requested (order : Record) (message now : String)
    (smsSent whatsappSent : Bool) : (sentFollowup order message now smsSent whatsappSent).get?
    "requested" = some (.bool true) := by
  rw [sentFollowup, Dict.get?_merge]
  simp [Dict.ofList]

/-! ## The flag under a write -/

theorem requestedPart_merged (es : List (String × PyValue)) (stored : Record)
    (h : requestedPart (Dict.ofList es) = requestedPart stored) :
    requestedPart (mergeEntries es stored) = requestedPart stored := by
  have hlast := fun d : Record => Dict.get?_foldl_set_last Prod.fst Prod.snd es d "requested"
  rw [requestedPart_eq, Dict.ofList, hlast] at h
  rw [requestedPart_eq (mergeEntries es stored), truthy_mergeEntries es (fun _ => rfl), hlast]
  cases hfound : (es.filter fun e => decide (e.1 = "requested")).getLast? with
  | none => rw [Option.map_none, Option.none_or, requestedPart_eq]
  | some e =>
    rw [hfound] at h
    exact h

/-- A write that carries the stored flag keeps it, in memory and merged into a document. -/
theorem reviewRequested_put (place : OrderPlace) {stored : Option Record} {payload : Record}
    (h : reviewRequested payload = requestedIn stored) :
    reviewRequested (place.put stored payload) = requestedIn stored := by
  cases place with
  | memory id => exact h
  | document ref =>
    have hstored : requestedIn stored = reviewRequested (stored.getD Dict.empty) := by
      cases stored <;> rfl
    rw [hstored] at h ⊢
    show reviewRequested (Record.mergeDeep (stored.getD Dict.empty) payload) = _
    have hget := Record.get?_mergeDeep (stored.getD Dict.empty) payload "review_followup"
    cases hpayload : payload.get? "review_followup" with
    | none =>
      rw [hpayload] at hget
      exact reviewRequested_congr hget
    | some v =>
      rw [hpayload] at hget
      rw [reviewRequested_eq, Record.value, hpayload, Option.getD_some] at h
      rw [reviewRequested_eq, Record.value, hget]
      cases v with
      | dict es =>
        cases es with
        | nil => exact h
        | cons e es =>
          -- merged into what is stored there, if that is a dictionary
          show requestedPart (Dict.ofList (mergeEntries (e :: es) _).entries) = _
          rw [Dict.ofList_entries]
          rw [reviewRequested_eq] at h ⊢
          cases hold : Record.value (stored.getD Dict.empty) "review_followup" with
          | dict old =>
            rw [hold] at h
            exact requestedPart_merged (e :: es) _ h
          | _ =>
            rw [hold] at h
            exact requestedPart_merged (e :: es) Dict.empty h
      | _ => exact h

/-- A write that says that a review was asked for leaves it said. -/
theorem reviewRequested_put_sent (place : OrderPlace) (stored : Option Record)
    {payload followup : Record}
    (hpayload : payload.get? "review_followup" = some (.dict followup.entries))
    (hfollowup : followup.get? "requested" = some (.bool true)) :
    reviewRequested (place.put stored payload) = true := by
  cases place with
  | memory id =>
    show reviewRequested payload = true
    rw [reviewRequested_eq, Record.value, hpayload]
    show requestedPart (Dict.ofList followup.entries) = true
    rw [Dict.ofList_entries, requestedPart, Record.value, hfollowup]
    rfl
  | document ref =>
    show reviewRequested (Record.mergeDeep (stored.getD Dict.empty) payload) = true
    rw [reviewRequested_eq, Record.value, Record.get?_mergeDeep, hpayload]
    cases hentries : followup.entries with
    | nil =>
      rw [Dict.get?, hentries] at hfollowup
      cases hfollowup
    | cons e es =>
      show requestedPart (Dict.ofList (mergeEntries (e :: es) _).entries) = true
      have hlookup : (e :: es).lookup "requested" = some (.bool true) := hentries ▸ hfollowup
      rw [Dict.ofList_entries, requestedPart, Record.value,
        get?_mergeEntries (hentries ▸ followup.nodup), hlookup]
      rfl

/-! ## What a call may do -/

/-- What a call has sent and not recorded, whatever it was told. -/
def nextUnsaved (unsaved : List (OrderPlace × ReviewChannel)) :
    Called OrderOp OrderOp.Answer → List (OrderPlace × ReviewChannel)
  | ⟨.notify channel place _ _, some outcome⟩ =>
    if outcome.goesOut then (place, channel) :: unsaved else unsaved
  | ⟨.read _, _⟩ => []
  | ⟨.write _ _ _, some _⟩ => []
  | _ => unsaved

variable (log : List (Called OrderOp OrderOp.Answer))

/-- The messages a call sent and has not recorded yet. -/
def unsavedMessages :
    List (OrderPlace × ReviewChannel) :=
  log.foldl nextUnsaved []

@[simp] theorem unsavedMessages_concat (t : Called OrderOp OrderOp.Answer) :
    unsavedMessages (log ++ [t]) = nextUnsaved (unsavedMessages log) t := by
  rw [unsavedMessages, List.foldl_append]
  rfl

/-- A call sends once over each channel, if it read that no review was asked for; it records what it
    sent before it reads again, and writes the flag it read if it sent nothing. -/
def AsksOnce : OrderOp → Prop
  | .now => True
  | .read _ => unsavedMessages log = []
  | .notify channel place _ _ => (∃ order, lastRead log = some (place, some order) ∧
      reviewRequested order = false) ∧ (place, channel) ∉ unsavedMessages log ∧
      ∀ x ∈ unsavedMessages log, x.1 = place
  | .write place payload _ => ∃ old, lastRead log = some (place, old) ∧
      (∀ x ∈ unsavedMessages log, x.1 = place) ∧
      (unsavedMessages log = [] → reviewRequested payload = requestedIn old) ∧
      (unsavedMessages log ≠ [] → ∃ followup : Record,
        payload.get? "review_followup" = some (.dict followup.entries) ∧
          followup.get? "requested" = some (.bool true))

/-- The program of a call asks once, from this log on. -/
abbrev ObeysAskingOnce {α : Type} (log : List (Called OrderOp OrderOp.Answer))
    (p : OrderProgram α) : Prop :=
  p.Obeys AsksOnce (fun _ _ => True) log

section Programs

variable {log : List (Called OrderOp OrderOp.Answer)} (hlog : unsavedMessages log = [])

include hlog in
theorem askingOnce_create (uuid : String) (a : CreateOrderArgs) :
    ObeysAskingOnce log (createOrderRecord cfg uuid a) := by
  unfold ObeysAskingOnce createOrderRecord
  rw [CallProgram.obeys_ite, CallProgram.obeys_ite]
  refine ⟨fun _ => trivial, fun _ => ⟨fun _ => trivial, fun _ => ?_⟩⟩
  dsimp only
  cases cfg.orderPlace a.ctx (normalizeOrderId uuid a.orderId) with
  | none => trivial
  | some place =>
    dsimp only
    rw [obeys_readOrderRecord]
    refine ⟨hlog, fun stored => ?_⟩
    rw [obeys_nowIso]
    refine ⟨trivial, fun now => ?_⟩
    rw [obeys_writeOrderRecord]
    refine ⟨trivial, fun now' => ⟨⟨stored, ?_, ?_, fun _ => ?_, fun h => ?_⟩, fun _ => trivial⟩⟩
    · simp only [lastRead_concat, nextRead]
    · simp [-List.append_assoc, nextUnsaved]
    · rw [reviewRequested_payload, reviewRequested_created]
      cases hshown : place.shown (normalizeOrderId uuid a.orderId) stored with
      | none =>
        cases place with
        | memory id =>
          have hstored : stored = none := hshown
          rw [hstored]
        | document ref =>
          rw [Option.map_eq_none_iff.1 hshown]
      | some order => exact reviewRequested_shown place _ hshown
    · exact absurd (by simp [-List.append_assoc, nextUnsaved]) h

include hlog in
theorem askingOnce_followup (a : FollowupArgs) (hforce : a.force = false) :
    ObeysAskingOnce log (sendOrderReviewFollowup cfg a) := by
  unfold ObeysAskingOnce sendOrderReviewFollowup
  cases validatedOrderId a.orderId with
  | none => trivial
  | some orderId =>
  dsimp only
  cases cfg.orderPlace a.ctx orderId with
  | none => trivial
  | some place =>
  dsimp only
  rw [obeys_readOrderRecord]
  refine ⟨hlog, fun stored => ?_⟩
  have hread : lastRead (log ++ [⟨.read place, some stored⟩]) = some (place, stored) := by
    simp only [lastRead_concat, nextRead]
  have hunsaved : unsavedMessages (log ++ [⟨.read place, some stored⟩]) = [] := by
    simp only [unsavedMessages_concat, nextUnsaved]
  generalize log ++ [⟨.read place, some stored⟩] = log at hread hunsaved ⊢
  cases hshown : place.shown orderId stored with
  | none => trivial
  | some order =>
  have hflag := reviewRequested_shown place orderId hshown
  dsimp only
  rw [CallProgram.obeys_ite, CallProgram.obeys_ite]
  refine ⟨fun _ => trivial, fun hunset => ⟨fun _ => trivial, fun _ => ?_⟩⟩
  have hunset' : requestedIn stored = false := by
    rw [hforce, Bool.not_false, Bool.and_true, Bool.not_eq_true] at hunset
    exact hflag.symm.trans hunset
  have hsome : ∃ raw, stored = some raw ∧ reviewRequested raw = false := by
    cases stored with
    | none => cases place <;> cases hshown
    | some raw => exact ⟨raw, rfl, hunset'⟩
  obtain ⟨raw, rfl, hraw⟩ := hsome
  rw [obeys_sendMessage]
  refine ⟨⟨⟨raw, hread, hraw⟩, by simp [hunsaved], by simp [hunsaved]⟩, fun sms => ?_⟩
  rw [obeys_sendMessage]
  refine ⟨⟨⟨raw, by simp [-List.append_assoc, nextRead, hread], hraw⟩, ?_, ?_⟩, fun whatsapp => ?_⟩
  · cases sms <;> simp [-List.append_assoc, nextUnsaved, NotifyOutcome.goesOut, hunsaved]
  · cases sms <;> simp [-List.append_assoc, nextUnsaved, NotifyOutcome.goesOut, hunsaved]
  rw [CallProgram.obeys_ite]
  refine ⟨fun _ => trivial, fun hsent => ?_⟩
  rw [obeys_nowIso]
  refine ⟨trivial, fun now => ?_⟩
  rw [obeys_writeOrderRecord]
  refine ⟨trivial, fun now' => ⟨⟨some raw, ?_, ?_, fun hnone => ?_, fun _ => ?_⟩, fun _ => trivial⟩⟩
  · simp [-List.append_assoc, nextRead, hread]
  · cases sms <;> cases whatsapp <;>
      simp [-List.append_assoc, nextUnsaved, NotifyOutcome.goesOut, hunsaved]
  · -- a message that the tool is told of has gone out
    cases sms <;> cases whatsapp <;> simp [-List.append_assoc, nextUnsaved, NotifyOutcome.goesOut,
      NotifyOutcome.told, hunsaved] at hnone hsent
  · refine ⟨sentFollowup order (textOr (PyStr.strip (a.message.getD "")) (reviewMessageFor orderId))
      now sms.told whatsapp.told, ?_, ?_⟩
    · rw [orderPayload, Dict.get?_set_of_ne _ _ (by decide), Dict.get?_set_of_ne _ _ (by decide),
        Dict.get?_set_of_ne _ _ (by decide), Dict.get?_set_self]
    · exact sentFollowup_requested order _ now sms.told whatsapp.told

include hlog in
theorem askingOnce_deliveredFollowup (a : UpdateTrackingArgs) (orderId : String) :
    ObeysAskingOnce log (deliveredFollowup cfg a orderId) := by
  unfold ObeysAskingOnce deliveredFollowup
  rw [CallProgram.obeys_ite]
  refine ⟨fun _ => ?_, fun _ => trivial⟩
  exact CallProgram.Obeys.bind (askingOnce_followup cfg hlog _ rfl) fun _ _ _ => trivial

include hlog in
theorem askingOnce_update (a : UpdateTrackingArgs) :
    ObeysAskingOnce log (updateOrderTrackingStatus cfg a) := by
  unfold ObeysAskingOnce updateOrderTrackingStatus
  cases validatedOrderId a.orderId with
  | none => trivial
  | some orderId =>
  dsimp only
  cases cfg.orderPlace a.ctx orderId with
  | none => trivial
  | some place =>
  dsimp only
  rw [obeys_readOrderRecord]
  refine ⟨hlog, fun stored => ?_⟩
  cases hshown : place.shown orderId stored with
  | none => trivial
  | some order =>
  dsimp only
  rw [obeys_nowIso]
  refine ⟨trivial, fun now => ?_⟩
  rw [obeys_writeOrderRecord]
  refine ⟨trivial, fun now' => ⟨⟨stored, ?_, ?_, fun _ => ?_, fun h => ?_⟩, fun _ => ?_⟩⟩
  · simp only [lastRead_concat, nextRead]
  · simp [-List.append_assoc, nextUnsaved]
  · rw [reviewRequested_payload, reviewRequested_updated]
    exact reviewRequested_shown place orderId hshown
  · exact absurd (by simp [-List.append_assoc, nextUnsaved]) h
  · exact CallProgram.Obeys.bind
      (askingOnce_deliveredFollowup cfg (by simp [-List.append_assoc, nextUnsaved]) a orderId)
      fun _ _ _ => trivial

end Programs

/-! ## Calls side by side -/

/-- The next thing a program asks for, but the time, is to send for the order. -/
def Sends (place : OrderPlace) : OrderProgram Record → Prop
  | .call (.notify _ p _ _) _ => p = place
  | .call .now k => ∃ now, Sends place (k now)
  | _ => False

variable (place : OrderPlace)

/-- A message of a channel went out for the order. -/
def sentFor (channel : ReviewChannel) : Called OrderOp OrderOp.Answer → Bool
  | ⟨.notify c p _ _, some outcome⟩ => outcome.goesOut && decide (p = place ∧ c = channel)
  | _ => false

/-- How many messages went out. -/
def sentMessages (history : List (Called OrderOp OrderOp.Answer))
    (channel : ReviewChannel) : ℕ := history.countP (sentFor place channel)

/-- The calls as senders for one order; its record holds the flag. -/
def reviewSenders (s : OrderPool) : Senders ℕ ReviewChannel where
  recorded := requestedIn (s.shared.get? place) = true
  sent := sentMessages place s.history
  sending i := ∃ t, s.threads[i]? = some t ∧ Sends place t.program
  unrecorded i channel := ∃ t, s.threads[i]? = some t ∧ (place, channel) ∈ unsavedMessages t.log

/-- A call stands before the answer of a send for the order, or was given up there. -/
def underWay (s : OrderPool) (i : ℕ) (channel : ReviewChannel) : Prop :=
  ∃ log phone message k, s.threads[i]? = some ⟨log, .call (.notify channel place phone message) k⟩

/-- **Each channel carries at most one message for the order**: one that went out, or one that is
    under way. -/
structure AskedOnce (place : OrderPlace) (s : OrderPool) : Prop where
  sent : ∀ channel, sentMessages place s.history channel ≤ 1
  first : ∀ i channel, underWay place s i channel → sentMessages place s.history channel = 0
  single : ∀ i j channel, underWay place s i channel → underWay place s j channel → i = j

/-- A call that reads the order and is going to send finds no other call that is about to, or has
    not recorded what it sent. -/
def AsksAlone (s : OrderPool) : PoolEvent OrderCall OrderChoice → Prop
  | .start _ => True
  | .resume i choice => ∀ log p k, s.threads[i]? = some ⟨log, .call (.read p) k⟩ →
      Sends place (k (serveOrder s.shared choice (.read p)).2) →
        ∀ j, j ≠ i → ¬ (reviewSenders place s).Pending j

/-- A call that writes the order and has sent nothing finds the flag as it read it. -/
def FlagUpToDate (s : OrderPool) : PoolEvent OrderCall OrderChoice → Prop
  | .start _ => True
  | .resume i _ => ∀ log payload why k old,
      s.threads[i]? = some ⟨log, .call (.write place payload why) k⟩ →
      lastRead log = some (place, old) →
        unsavedMessages log = [] → requestedIn old = requestedIn (s.shared.get? place)

theorem lastRead_of_sends {place : OrderPlace} {p : OrderProgram Record}
    {log : List (Called OrderOp OrderOp.Answer)} (hp : ObeysAskingOnce log p)
    (hsends : Sends place p) : ∃ order, lastRead log = some (place, some order) ∧
    reviewRequested order = false := by
  induction p generalizing log with
  | returned a => exact hsends.elim
  | raised => exact hsends.elim
  | call c k ih =>
    cases c with
    | now =>
      obtain ⟨now, hnow⟩ := hsends
      obtain ⟨order, hread, hunset⟩ := ih now (hp.2 now) hnow
      rw [lastRead_concat] at hread
      exact ⟨order, hread, hunset⟩
    | notify channel p phone message =>
      have hplace : p = place := hsends
      exact hplace ▸ hp.1.1
    | read p => exact hsends.elim
    | write p payload why => exact hsends.elim

theorem serveOrder_read (store : OrderStore) (choice : OrderChoice) (place : OrderPlace) :
    (serveOrder store choice (.read place)).1 = store ∧
      ((serveOrder store choice (.read place)).2 = some (store.get? place) ∨
        (serveOrder store choice (.read place)).2 = none) := by
  cases place with
  | memory id => exact ⟨rfl, .inl rfl⟩
  | document ref =>
    rw [serveOrder]
    cases choice.access with
    | served => exact ⟨rfl, .inl rfl⟩
    | refused => exact ⟨rfl, .inr rfl⟩
    | lost => exact ⟨rfl, .inr rfl⟩

theorem serveOrder_write (store : OrderStore) (choice : OrderChoice) (place : OrderPlace)
    (payload : Record) (why : OrderWrite) :
    (serveOrder store choice (.write place payload why)).1 =
        store.set place (place.put (store.get? place) payload) ∨
      (serveOrder store choice (.write place payload why)).1 = store ∧
        (serveOrder store choice (.write place payload why)).2 = none := by
  cases place with
  | memory id => exact .inl rfl
  | document ref =>
    rw [serveOrder]
    cases choice.access with
    | served => exact .inl rfl
    | refused => exact .inr ⟨rfl, rfl⟩
    | lost => exact .inl rfl

section Step

variable {cfg} {place : OrderPlace} {s s' : OrderPool} {i : ℕ} {choice : OrderChoice}

theorem reviewSenders_frame (h : Pool.Calls serveOrder s i choice s') :
    Senders.Frame i (reviewSenders place s) (reviewSenders place s') := by
  intro j hj
  simp only [reviewSenders, h.thread_other hj, implies_true, and_self]

theorem sending_self (h : Pool.Calls serveOrder s i choice s') :
    (reviewSenders place s').sending i ↔ Sends place h.after.program := by
  simp only [reviewSenders, h.thread_self, Option.some.injEq, exists_eq_left']

theorem unrecorded_self (h : Pool.Calls serveOrder s i choice s') (channel : ReviewChannel) :
    (reviewSenders place s').unrecorded i channel ↔
    (place, channel) ∈ unsavedMessages h.after.log := by
  simp only [reviewSenders, h.thread_self, Option.some.injEq, exists_eq_left']

theorem sending_before (h : Pool.Calls serveOrder s i choice s') :
    (reviewSenders place s).sending i ↔ Sends place (.call h.call h.next) := by
  simp only [reviewSenders, h.found, Option.some.injEq, exists_eq_left']

theorem unrecorded_before (h : Pool.Calls serveOrder s i choice s') (channel : ReviewChannel) :
    (reviewSenders place s).unrecorded i channel ↔ (place, channel) ∈ unsavedMessages h.log := by
  simp only [reviewSenders, h.found, Option.some.injEq, exists_eq_left']

theorem sentMessages_unsent (h : Pool.Calls serveOrder s i choice s')
    (hsent : ∀ channel, sentFor place channel ⟨h.call, h.answer⟩ = false) :
    (reviewSenders place s').sent = (reviewSenders place s).sent := by
  funext channel
  show sentMessages place s'.history channel = sentMessages place s.history channel
  have hhistory : s'.history = s.history ++ [⟨h.call, h.answer⟩] := h.history
  rw [hhistory, sentMessages, List.countP_append, List.countP_singleton, hsent]
  rfl

/-- A call changes nothing that matters for the order. -/
theorem step_other (h : Pool.Calls serveOrder s i choice s')
    (hflag : requestedIn (s'.shared.get? place) = requestedIn (s.shared.get? place))
    (hsent : ∀ channel, sentFor place channel ⟨h.call, h.answer⟩ = false)
    (hsends : Sends place h.after.program → Sends place (.call h.call h.next))
    (hunsaved : ∀ channel, (place, channel) ∈ unsavedMessages h.after.log ↔
      (place, channel) ∈ unsavedMessages h.log) :
    (reviewSenders place s).Step (reviewSenders place s') := by
  refine .other i (reviewSenders_frame h) ?_ (sentMessages_unsent h hsent) ?_ fun channel => ?_
  · show requestedIn _ = true ↔ requestedIn _ = true
    rw [hflag]
  · rw [sending_self h, sending_before h]
    exact hsends
  · rw [unrecorded_self h, unrecorded_before h]
    exact hunsaved channel

/-- The time is asked for. -/
theorem reviewStep_now (h : Pool.Calls serveOrder s i choice s') (hcall : h.call = .now) :
    (reviewSenders place s).Step (reviewSenders place s') := by
  obtain ⟨log, call, k, hfound, hshared, hthreads, hhistory⟩ := h
  subst hcall
  refine step_other ⟨log, .now, k, hfound, hshared, hthreads, hhistory⟩ (by rw [hshared]; rfl)
    (fun _ => rfl) (fun hsends => ⟨_, hsends⟩) fun channel => ?_
  rw [Pool.Calls.after, unsavedMessages_concat]
  rfl

/-- An order is read: sending may start, as nobody else asks. -/
theorem reviewStep_read (hs : Pool.Obeyed AsksOnce (fun _ _ => True) s)
    (h : Pool.Calls serveOrder s i choice s') (halone : AsksAlone place s (.resume i choice))
    {p : OrderPlace} (hcall : h.call = .read p) :
    (reviewSenders place s).Step (reviewSenders place s') := by
  obtain ⟨hmay, hafter⟩ := hs.call h
  obtain ⟨log, call, k, hfound, hshared, hthreads, hhistory⟩ := h
  subst hcall
  let h : Pool.Calls serveOrder s i choice s' :=
    ⟨log, .read p, k, hfound, hshared, hthreads, hhistory⟩
  obtain ⟨hstore, hanswer⟩ := serveOrder_read s.shared choice p
  have hunsaved : unsavedMessages log = [] := hmay
  have hunsaved' : unsavedMessages h.after.log = [] := unsavedMessages_concat _ _
  have hsame : s'.shared = s.shared := hshared.trans hstore
  have hreads : Sends place h.after.program →
      p = place ∧ requestedIn (s.shared.get? place) = false := by
    intro hsends
    obtain ⟨order, hread, hunset⟩ := lastRead_of_sends hafter hsends
    rw [Pool.Calls.after, Pool.Calls.answer, lastRead_concat] at hread
    rcases hanswer with hsome | hnone
    · rw [hsome] at hread
      obtain ⟨rfl, hstored⟩ := Prod.mk.inj (Option.some.inj hread)
      exact ⟨rfl, by rw [hstored]; exact hunset⟩
    · rw [hnone] at hread
      cases hread
  refine .start i (reviewSenders_frame h) ?_ (sentMessages_unsent h fun _ => rfl) (fun hsends => ?_)
    (fun hsends => ?_) (fun channel => ?_) fun channel => ?_
  · show requestedIn _ = true ↔ requestedIn _ = true
    rw [hsame]
  · rw [sending_self h] at hsends
    show ¬ requestedIn _ = true
    rw [(hreads hsends).2]
    exact Bool.false_ne_true
  · rw [sending_self h] at hsends
    exact halone log p k hfound hsends
  · rw [unrecorded_before h]
    show (place, channel) ∉ unsavedMessages log
    rw [hunsaved]
    exact List.not_mem_nil
  · rw [unrecorded_self h, hunsaved']
    exact List.not_mem_nil

/-- A message goes out: for the order of the senders it is sent, and not recorded yet. -/
theorem reviewStep_notify (hs : Pool.Obeyed AsksOnce (fun _ _ => True) s)
    (h : Pool.Calls serveOrder s i choice s') {channel : ReviewChannel} {p : OrderPlace}
    {phone message : String} (hcall : h.call = .notify channel p phone message) :
    (reviewSenders place s).Step (reviewSenders place s') := by
  obtain ⟨hmay, hafter⟩ := hs.call h
  obtain ⟨log, call, k, hfound, hshared, hthreads, hhistory⟩ := h
  subst hcall
  let h : Pool.Calls serveOrder s i choice s' :=
    ⟨log, .notify channel p phone message, k, hfound, hshared, hthreads, hhistory⟩
  obtain ⟨⟨order, hread, -⟩, hnew, -⟩ := hmay
  have hafterRead : lastRead h.after.log = some (p, some order) := (lastRead_concat _ _).trans hread
  have hafterUnsaved : unsavedMessages h.after.log =
      nextUnsaved (unsavedMessages log) ⟨.notify channel p phone message, some choice.send⟩ :=
    unsavedMessages_concat _ _
  rw [nextUnsaved] at hafterUnsaved
  have hcounted : ∀ c, sentFor place c ⟨.notify channel p phone message, h.answer⟩ =
      (choice.send.goesOut && decide (p = place ∧ channel = c)) := fun _ => rfl
  cases hsent : choice.send.goesOut with
  | false =>
    -- nothing went out: the accounts stay as they are
    rw [hsent, if_neg Bool.false_ne_true] at hafterUnsaved
    refine step_other h (by rw [hshared]; rfl) (fun c => ?_) (fun hsends => ?_) fun c => ?_
    · exact (hcounted c).trans (by rw [hsent, Bool.false_and])
    · obtain ⟨order', hread', -⟩ := lastRead_of_sends hafter hsends
      exact (Prod.mk.inj (Option.some.inj (hafterRead.symm.trans hread'))).1
    · rw [hafterUnsaved]
  | true =>
    rw [hsent, if_pos rfl] at hafterUnsaved
    simp only [hsent, Bool.true_and] at hcounted
    have hmem : ∀ c, (place, c) ∈ unsavedMessages h.after.log ↔
        (p = place ∧ c = channel) ∨ (place, c) ∈ unsavedMessages log := by
      intro c
      rw [hafterUnsaved, List.mem_cons, Prod.mk.injEq, eq_comm (a := place)]
    by_cases hp : p = place
    · subst hp
      refine .send i channel (reviewSenders_frame h) (by rw [reviewSenders, hshared]; rfl) ?_ ?_ ?_
        fun c => ?_
      · rw [sending_before h]
        rfl
      · rw [unrecorded_before h]
        exact hnew
      · funext c
        show sentMessages p s'.history c = _
        rw [hhistory, sentMessages, List.countP_append, List.countP_singleton]
        show _ + (if sentFor p c ⟨.notify channel p phone message, h.answer⟩ = true then 1 else 0) =
          _
        rw [hcounted]
        by_cases hc : c = channel
        · subst hc
          rw [Function.update_self]
          simp only [and_self, decide_true, if_true]
          rfl
        · rw [Function.update_of_ne hc]
          simp only [true_and, Ne.symm hc, decide_false, Bool.false_eq_true, if_false]
          rfl
      · rw [unrecorded_self h, unrecorded_before h, hmem]
        simp only [true_and]
        rfl
    · refine step_other h (by rw [hshared]; rfl) (fun c => ?_) (fun hsends => ?_) fun c => ?_
      · exact (hcounted c).trans (decide_eq_false fun hboth => hp hboth.1)
      · obtain ⟨order', hread', -⟩ := lastRead_of_sends hafter hsends
        exact (Prod.mk.inj (Option.some.inj (hafterRead.symm.trans hread'))).1
      · rw [hmem]
        exact or_iff_right fun hboth => hp hboth.1

/-- An order is written: a write after a message records it, and any other one leaves the flag. -/
theorem reviewStep_write (hs : Pool.Obeyed AsksOnce (fun _ _ => True) s)
    (h : Pool.Calls serveOrder s i choice s') (hupToDate : FlagUpToDate place s (.resume i choice))
    {p : OrderPlace} {payload : Record} {why : OrderWrite} (hcall : h.call = .write p payload why) :
    (reviewSenders place s).Step (reviewSenders place s') := by
  obtain ⟨hmay, hafter⟩ := hs.call h
  obtain ⟨log, call, k, hfound, hshared, hthreads, hhistory⟩ := h
  subst hcall
  let h : Pool.Calls serveOrder s i choice s' :=
    ⟨log, .write p payload why, k, hfound, hshared, hthreads, hhistory⟩
  obtain ⟨old, hread, hplaces, hquiet, hrecords⟩ := hmay
  have hstill : ¬ Sends place h.after.program := by
    intro hsends
    obtain ⟨order, hread', -⟩ := lastRead_of_sends hafter hsends
    rw [Pool.Calls.after, lastRead_concat] at hread'
    cases hread'
  have hafterUnsaved : ∀ x ∈ unsavedMessages h.after.log, x ∈ unsavedMessages log := by
    intro x hx
    rw [Pool.Calls.after, unsavedMessages_concat] at hx
    cases hanswer : h.answer with
    | none =>
      rw [hanswer] at hx
      exact hx
    | some u =>
      rw [hanswer] at hx
      cases hx
  have hnone : ∀ c, sentFor place c ⟨.write p payload why, h.answer⟩ = false := fun _ => rfl
  by_cases hp : p = place
  · subst hp
    by_cases hunsaved : unsavedMessages log = []
    · -- nothing is left to record, so the flag is written as it was read
      refine step_other h ?_ hnone (fun hsends => absurd hsends hstill) fun c => ?_
      · have hold := hupToDate log payload why k old hfound hread hunsaved
        rcases serveOrder_write s.shared choice p payload why with heffect | ⟨hsame, -⟩
        · rw [hshared, heffect, Dict.get?_set_self]
          exact reviewRequested_put p ((hquiet hunsaved).trans hold)
        · rw [hshared, hsame]
      · have hempty : ∀ x, x ∉ unsavedMessages h.after.log := by
          intro x hx
          have hmem := hafterUnsaved x hx
          rw [hunsaved] at hmem
          cases hmem
        show _ ↔ (p, c) ∈ unsavedMessages log
        rw [hunsaved]
        exact iff_of_false (hempty _) List.not_mem_nil
    · -- what was sent is recorded by the payload, unless the write is refused
      rcases serveOrder_write s.shared choice p payload why with heffect | ⟨hsame, hlost⟩
      · obtain ⟨followup, hpayload, hfollowup⟩ := hrecords hunsaved
        refine .record i (reviewSenders_frame h) ?_ (sentMessages_unsent h hnone)
          ((sending_self h).not.2 hstill) ?_ fun c hc => ?_
        · show requestedIn (s'.shared.get? p) = true
          rw [hshared, heffect, Dict.get?_set_self]
          exact reviewRequested_put_sent p _ hpayload hfollowup
        · obtain ⟨x, hx⟩ := List.exists_mem_of_ne_nil _ hunsaved
          refine ⟨x.2, (unrecorded_before h x.2).2 ?_⟩
          rw [← hplaces x hx]
          exact hx
        · rw [unrecorded_self h] at hc
          exact (unrecorded_before h c).2 (hafterUnsaved _ hc)
      · refine step_other h (by rw [hshared, hsame]) hnone (fun hsends => absurd hsends hstill)
          fun c => ?_
        have hanswer : h.answer = none := hlost
        rw [Pool.Calls.after, unsavedMessages_concat, hanswer]
        rfl
  · refine step_other h ?_ hnone (fun hsends => absurd hsends hstill) fun c => ?_
    · rcases serveOrder_write s.shared choice p payload why with heffect | ⟨hsame, -⟩
      · rw [hshared, heffect, Dict.get?_set_of_ne _ _ (Ne.symm hp)]
      · rw [hshared, hsame]
    · have habsent : (place, c) ∉ unsavedMessages log := fun hmem => hp (hplaces _ hmem).symm
      exact iff_of_false (fun hmem => habsent (hafterUnsaved _ hmem)) habsent

/-- **One call.** What a call that obeys does is a step of the senders. -/
theorem reviewStep (hs : Pool.Obeyed AsksOnce (fun _ _ => True) s)
    (h : Pool.Calls serveOrder s i choice s') (halone : AsksAlone place s (.resume i choice))
    (hupToDate : FlagUpToDate place s (.resume i choice)) :
    (reviewSenders place s).Step (reviewSenders place s') := by
  cases hcall : h.call with
  | now => exact reviewStep_now h hcall
  | read p => exact reviewStep_read hs h halone hcall
  | notify channel p phone message => exact reviewStep_notify hs h hcall
  | write p payload why => exact reviewStep_write hs h hupToDate hcall

end Step

/-! ## Runs -/

/-- The call is a forced follow-up. -/
def OrderCall.forced : OrderCall → Bool
  | .followup a => a.force
  | _ => false

/-- The invariant: every call obeys, and the senders are sound. -/
structure ReviewSound (place : OrderPlace) (s : OrderPool) : Prop where
  obeyed : Pool.Obeyed AsksOnce (fun _ _ => True) s
  sound : (reviewSenders place s).Sound

theorem ReviewSound.askedOnce {place : OrderPlace} {s : OrderPool} (hs : ReviewSound place s) :
    AskedOnce place s := by
  have hsending : ∀ {i channel}, underWay place s i channel →
      (reviewSenders place s).sending i := by
    rintro i channel ⟨log, phone, message, k, hfound⟩
    exact ⟨_, hfound, rfl⟩
  refine ⟨hs.sound.once, fun i channel hi => ?_, fun i j channel hi hj =>
    hs.sound.single i j (hsending hi) (.inl (hsending hj))⟩
  by_contra hne
  -- the sender itself would have sent over the channel already
  rcases hs.sound.saved channel (Nat.pos_of_ne_zero hne) with hset | ⟨j, hj⟩
  · exact hs.sound.closed hset i (hsending hi)
  · obtain rfl := hs.sound.single i j (hsending hi) (.inr ⟨channel, hj⟩)
    obtain ⟨log, phone, message, k, hfound⟩ := hi
    obtain ⟨t, ht, hunsaved⟩ := hj
    rw [hfound] at ht
    cases ht
    exact (hs.obeyed i _ hfound).1.2.1 hunsaved

/-- Orders, and no calls yet. -/
def ordersAtRest (store : OrderStore) : OrderPool := { shared := store }

theorem reviewSound_start (place : OrderPlace) (store : OrderStore) :
    ReviewSound place (ordersAtRest store) := by
  have hnobody : ∀ (i : ℕ) (t : Thread OrderOp OrderOp.Answer Record),
      (ordersAtRest store).threads[i]? = some t → False := by
    intro i t ht
    cases ht
  refine ⟨fun i t ht => (hnobody i t ht).elim, fun i _ hi => ?_, fun _ i hi => ?_, fun _ =>
    Nat.zero_le 1,
    fun c hc => absurd hc (Nat.lt_irrefl 0)⟩
  · obtain ⟨t, ht, -⟩ := hi
    exact (hnobody i t ht).elim
  · obtain ⟨t, ht, -⟩ := hi
    exact hnobody i t ht

/-- **Step lemma.** -/
theorem reviewSound_next {place : OrderPlace} {s : OrderPool} (hs : ReviewSound place s)
    (e : PoolEvent OrderCall OrderChoice) (hcall : ∀ call, e = .start call → call.forced = false)
    (halone : AsksAlone place s e) (hupToDate : FlagUpToDate place s e) :
    ReviewSound place ((orderMachine cfg).next s e) := by
  have hobeyed : Pool.Obeyed AsksOnce (fun _ _ => True)
      ((orderMachine cfg).next s e) := by
    refine Pool.obeyed_next hs.obeyed e fun call hstart => ?_
    cases call with
    | create uuid a => exact askingOnce_create cfg rfl uuid a
    | update a => exact askingOnce_update cfg rfl a
    | followup a => exact askingOnce_followup cfg rfl a (hcall _ hstart)
  refine ⟨hobeyed, ?_⟩
  cases e with
  | start call =>
    -- a new call neither sends nor has sent anything
    have hsame : ∀ (P : Thread OrderOp OrderOp.Answer Record → Prop), ¬ P ⟨[], call.program cfg⟩ →
        ∀ i : ℕ, (∃ t, ((orderMachine cfg).next s (.start call)).threads[i]? = some t ∧ P t) ↔
          ∃ t, s.threads[i]? = some t ∧ P t := by
      intro P hnew i
      constructor
      · rintro ⟨t, ht, hP⟩
        rcases Pool.start_cases ht with hold | rfl
        · exact ⟨t, hold, hP⟩
        · exact absurd hP hnew
      · rintro ⟨t, ht, hP⟩
        refine ⟨t, ?_, hP⟩
        show (s.threads ++ [⟨[], call.program cfg⟩])[i]? = some t
        rw [List.getElem?_append_left (List.getElem?_eq_some_iff.1 ht).1, ht]
    have hquiet : ¬ Sends place (call.program cfg) := by
      intro hsends
      have hlast : ((orderMachine cfg).next s (.start call)).threads[s.threads.length]? =
          some ⟨[], call.program cfg⟩ := List.getElem?_concat_length
      obtain ⟨order, hread, -⟩ := lastRead_of_sends (hobeyed _ _ hlast) hsends
      cases hread
    have hview : reviewSenders place ((orderMachine cfg).next s (.start call)) =
        reviewSenders place s := by
      rw [reviewSenders, reviewSenders, Senders.mk.injEq]
      refine ⟨rfl, rfl, funext fun i => propext ?_, funext fun i => funext fun c => propext ?_⟩
      · exact hsame (fun t => Sends place t.program) hquiet i
      · exact hsame (fun t => (place, c) ∈ unsavedMessages t.log) List.not_mem_nil i
    rw [hview]
    exact hs.sound
  | resume i choice =>
    have hnext : (orderMachine cfg).next s (.resume i choice) = s.resume serveOrder i choice := rfl
    rw [hnext]
    rcases Pool.resume_cases serveOrder s i choice with hsame | ⟨⟨h⟩⟩
    · rw [hsame]
      exact hs.sound
    · exact hs.sound.step (reviewStep hs.obeyed h halone hupToDate)

/-- Shipping without Firestore. -/
def shippingInMemory : ShippingConfig where
  py := .ascii
  hasFirestore := false

/-- An order of a customer with a phone. -/
def deliveredOrder : OrderStore := Dict.ofList [(.memory "ord-1", Dict.ofList [
  ("order_id", .str "ord-1"),
  ("customer", .dict [("name", .str "Ada"), ("phone", .str "+2348000001")])])]

/-- A follow-up. -/
def askForReview : PoolEvent OrderCall OrderChoice := .start (.followup { orderId := "ord-1" })

/-- A step of the call `i` in which a message is sent, if it sends one. -/
def sendResumed (i : ℕ) : PoolEvent OrderCall OrderChoice := .resume i { send := .sent }

/-- The only call there is; what it writes records a message that it sent. -/
def onlyCall (s : OrderPool) : PoolEvent OrderCall OrderChoice → Bool
  | .start _ => true
  | .resume i _ =>
    s.threads.length == 1 && match s.threads[i]? with
      | some ⟨log, .call (.write _ _ _) _⟩ => !(unsavedMessages log).isEmpty
      | _ => true

theorem guards_of_onlyCall {s : OrderPool} {e : PoolEvent OrderCall OrderChoice}
    (place : OrderPlace) (h : onlyCall s e = true) : AsksAlone place s e ∧
    FlagUpToDate place s e := by
  cases e with
  | start call => exact ⟨trivial, trivial⟩
  | resume i choice =>
    rw [onlyCall, Bool.and_eq_true, beq_iff_eq] at h
    obtain ⟨hone, hrecords⟩ := h
    have hfirst : ∀ {j : ℕ} {t : Thread OrderOp OrderOp.Answer Record}, s.threads[j]? = some t →
        j = 0 := by
      intro j t ht
      have hlt := (List.getElem?_eq_some_iff.1 ht).1
      omega
    refine ⟨fun log p k hfound _ j hj hpending => ?_, fun log payload why k old hfound _ hempty =>
      ?_⟩
    · rcases hpending with ⟨t, ht, -⟩ | ⟨channel, t, ht, -⟩
      · exact hj ((hfirst ht).trans (hfirst hfound).symm)
      · exact hj ((hfirst ht).trans (hfirst hfound).symm)
    · rw [hfound] at hrecords
      simp only [hempty, List.isEmpty_nil, Bool.not_true, Bool.false_eq_true] at hrecords

/-- A follow-up that sends both messages and records them. -/
def askedForReview : List (PoolEvent OrderCall OrderChoice) :=
  askForReview :: List.replicate 6 (sendResumed 0)

/-- Two follow-ups read the order before either of them has recorded that it asked. -/
def askedTwice : List (PoolEvent OrderCall OrderChoice) :=
  [askForReview, askForReview, .resume 0 {}, .resume 1 {}, sendResumed 0, sendResumed 1]

end Ekaette
