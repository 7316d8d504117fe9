import Ekaette.Lib.Dict
import Ekaette.Lib.EventMachine
import Mathlib.Tactic.Linarith

set_option autoImplicit false

/-! # Service windows in one process

An inbound WhatsApp message opens a window of 24 hours in which the customer may be sent free-form
text; outside of it a send uses a template. The webhook records the window under a key of tenant,
company, sending number and customer, with the default tenant and company; a send looks it up under
the tenant, the company, the number and the spelling of the customer that its request has. -/

namespace Ekaette

/-- `_SERVICE_WINDOW_SECONDS`. -/
def SERVICE_WINDOW_SECONDS : ℚ := 24 * 60 * 60

/-- `_SERVICE_WINDOW_MAX_ENTRIES`. -/
@[irreducible] def SERVICE_WINDOW_MAX_ENTRIES : ℕ := 50000

theorem one_lt_serviceWindowMaxEntries : 1 < SERVICE_WINDOW_MAX_ENTRIES := by
  unfold SERVICE_WINDOW_MAX_ENTRIES
  decide

structure WindowConfig where
  /-- `WHATSAPP_PHONE_NUMBER_ID` -/
  phoneNumberId : String
  /-- `WA_UTILITY_TEMPLATE_NAME` -/
  utilityTemplateName : String

/-- `_service_windows`: when each key was recorded last. -/
abbrev ServiceWindows := Dict String ℚ

/-- `_window_key`. -/
def windowKey (userPhone phoneNumberId tenantId companyId : String) : String :=
  tenantId ++ ":" ++ companyId ++ ":" ++ phoneNumberId ++ ":" ++ userPhone

/-- `_evict_service_windows`. -/
def evictServiceWindows (now : ℚ) (windows : ServiceWindows) : ServiceWindows :=
  let live := windows.filter fun _ ts => !decide (ts < now - SERVICE_WINDOW_SECONDS)
  let oldest := (live.entries.mergeSort fun a b => decide (a.2 ≤ b.2)).map Prod.fst
  live.eraseAll (oldest.take (live.size - SERVICE_WINDOW_MAX_ENTRIES))

variable (cfg : WindowConfig)

/-- `phone_number_id or WHATSAPP_PHONE_NUMBER_ID`. -/
def WindowConfig.resolve (phoneNumberId : String) : String :=
  if phoneNumberId = "" then cfg.phoneNumberId else phoneNumberId

variable (now : ℚ)

/-- `check_service_window`, with the windows after it. -/
def checkServiceWindow (userPhone phoneNumberId tenantId companyId : String)
    (windows : ServiceWindows) : ServiceWindows × Bool :=
  let windows := evictServiceWindows now windows
  match windows.get? (windowKey userPhone (cfg.resolve phoneNumberId) tenantId companyId) with
  | none => (windows, false)
  | some lastTs => (windows, decide (now - lastTs < SERVICE_WINDOW_SECONDS))

/-- `record_inbound_timestamp`. -/
def recordInboundTimestamp (userPhone phoneNumberId tenantId companyId : String)
    (windows : ServiceWindows) : ServiceWindows :=
  evictServiceWindows now ((evictServiceWindows now windows).set
    (windowKey userPhone (cfg.resolve phoneNumberId) tenantId companyId) now)

/-- A message of an accepted webhook payload, with the number its change is for. -/
structure InboundMessage where
  phoneNumberId : String
  /-- `msg.get("id", "")` -/
  wamid : String
  /-- `msg.get("from", "")` -/
  sender : String

/-- What `wa_webhook` does with a message before it enqueues the task. -/
def receiveInbound (message : InboundMessage) (windows : ServiceWindows) :
    ServiceWindows :=
  if message.phoneNumberId ≠ cfg.phoneNumberId then windows
  else if message.wamid = "" ∨ message.sender = "" then windows
  else recordInboundTimestamp cfg now message.sender message.phoneNumberId "public"
    "ekaette-electronics" windows

/-- The request of `POST /whatsapp/send`, with its defaults. -/
structure WindowedSend where
  /-- `to` -/
  recipient : String
  text : String
  phoneNumberId : String
  tenantId : String := "public"
  companyId : String := "ekaette-electronics"

/-- `to.lstrip("+")`: the customer whom the provider is asked to send to. -/
def WindowedSend.customer (send : WindowedSend) : String :=
  String.ofList (send.recipient.toList.dropWhile (· = '+'))

/-- The key under which a send looks up the window. -/
def WindowedSend.key (send : WindowedSend) : String :=
  windowKey send.recipient (cfg.resolve send.phoneNumberId) send.tenantId send.companyId

variable (customer : String)

/-- The key under which the webhook records a customer's window. -/
def customerKey : String :=
  windowKey customer (cfg.resolve cfg.phoneNumberId) "public" "ekaette-electronics"

/-- How a send is made. -/
inductive SendForm where
  | freeForm (sendingNumber customer body : String)
  | template (sendingNumber customer name parameter : String)
  /-- no template is configured: it raises -/
  | notConfigured
  /-- 400 "Missing to or text" -/
  | badRequest

/-- The first `n` characters. -/
def firstChars (n : ℕ) (text : String) : String := String.ofList (text.toList.take n)

/-- The send of `send_with_template_fallback`: free-form within the window, else the template. -/
def WindowedSend.form (send : WindowedSend) (inWindow : Bool) : SendForm :=
  if inWindow then .freeForm (cfg.resolve send.phoneNumberId) send.customer
    (firstChars 4096 send.text)
  else if cfg.utilityTemplateName = "" then .notConfigured
  else .template (cfg.resolve send.phoneNumberId) send.customer cfg.utilityTemplateName
    (firstChars 1024 send.text)

/-- `wa_send`, and `send_with_template_fallback` in it. -/
def sendWithTemplateFallback (send : WindowedSend) (windows : ServiceWindows) :
    ServiceWindows × SendForm :=
  if send.recipient = "" ∨ send.text = "" then (windows, .badRequest)
  else
    (checkServiceWindow cfg now send.recipient (cfg.resolve send.phoneNumberId) send.tenantId
      send.companyId windows).map id (send.form cfg)

inductive WindowEvent where
  | inbound (message : InboundMessage)
  | send (send : WindowedSend)

/-- Webhook messages and sends, one after the other. -/
def windowMachine : EventMachine ServiceWindows (Timed ℚ WindowEvent) (Option SendForm) where
  step windows e := match e.event with
    | .inbound message => (receiveInbound cfg e.now message windows, none)
    | .send send =>
      let r := sendWithTemplateFallback cfg e.now send windows
      (r.1, some r.2)

/-- The message is one of the customer's, to the configured number. -/
def InboundMessage.isFrom (message : InboundMessage) (customer : String) : Bool :=
  message.phoneNumberId == cfg.phoneNumberId && message.wamid != "" && message.sender != "" &&
    message.sender == customer

variable (es : List (Timed ℚ WindowEvent))

/-- When the customer's latest message came in. -/
def latestInbound : Option ℚ :=
  es.foldl (fun latest e => match e.event with
    | .inbound message => if message.isFrom cfg customer then some e.now else latest
    | .send _ => latest) none

/-! ## Windows -/

theorem get?_evictServiceWindows {windows : ServiceWindows}
    (hsize : windows.size ≤ SERVICE_WINDOW_MAX_ENTRIES) (k : String) :
    (evictServiceWindows now windows).get? k =
      (windows.get? k).filter fun ts => !decide (ts < now - SERVICE_WINDOW_SECONDS) := by
  have hoverflow : (windows.filter fun _ ts => !decide (ts < now - SERVICE_WINDOW_SECONDS)).size -
      SERVICE_WINDOW_MAX_ENTRIES = 0 :=
    Nat.sub_eq_zero_of_le ((windows.size_filter_le _).trans hsize)
  simp only [evictServiceWindows, hoverflow, List.take_zero, Dict.eraseAll, List.foldl_nil,
    Dict.get?_filter]

theorem size_evictServiceWindows {windows : ServiceWindows}
    (hsize : windows.size ≤ SERVICE_WINDOW_MAX_ENTRIES) : (evictServiceWindows now windows).size ≤
    windows.size := by
  have hoverflow : (windows.filter fun _ ts => !decide (ts < now - SERVICE_WINDOW_SECONDS)).size -
      SERVICE_WINDOW_MAX_ENTRIES = 0 :=
    Nat.sub_eq_zero_of_le ((windows.size_filter_le _).trans hsize)
  simp only [evictServiceWindows, hoverflow, List.take_zero, Dict.eraseAll, List.foldl_nil]
  exact windows.size_filter_le _

theorem size_recordInboundTimestamp_empty (userPhone phoneNumberId tenantId companyId :
    String) : (recordInboundTimestamp cfg now userPhone phoneNumberId tenantId companyId
    .empty).size ≤ 1 := by
  have hempty : (evictServiceWindows now .empty).size ≤ 0 :=
    size_evictServiceWindows now (Nat.zero_le _)
  have hset := (Dict.size_set_le (evictServiceWindows now .empty)
    (windowKey userPhone (cfg.resolve phoneNumberId) tenantId companyId) now).trans
      (Nat.succ_le_succ hempty)
  exact (size_evictServiceWindows now (hset.trans one_lt_serviceWindowMaxEntries.le)).trans hset

theorem get?_recordInboundTimestamp (userPhone phoneNumberId tenantId companyId : String)
    {windows : ServiceWindows} (hsize : windows.size < SERVICE_WINDOW_MAX_ENTRIES) (k : String) :
    (recordInboundTimestamp cfg now userPhone phoneNumberId tenantId companyId windows).get? k =
      if k = windowKey userPhone (cfg.resolve phoneNumberId) tenantId companyId then some now
      else (windows.get? k).filter fun ts => !decide (ts < now - SERVICE_WINDOW_SECONDS) := by
  have hset : ((evictServiceWindows now windows).set
      (windowKey userPhone (cfg.resolve phoneNumberId) tenantId companyId) now).size ≤
        SERVICE_WINDOW_MAX_ENTRIES :=
    (Dict.size_set_le _ _ _).trans
      (Nat.succ_le_of_lt (lt_of_le_of_lt (size_evictServiceWindows now hsize.le) hsize))
  rw [recordInboundTimestamp, get?_evictServiceWindows now hset]
  by_cases hk : k = windowKey userPhone (cfg.resolve phoneNumberId) tenantId companyId
  · have hnow : ¬ now < now - SERVICE_WINDOW_SECONDS := by
      have hpos : 0 < SERVICE_WINDOW_SECONDS := by decide +kernel
      linarith
    rw [if_pos hk, hk, Dict.get?_set_self, Option.filter_some_pos (by simp [hnow])]
  · rw [if_neg hk, Dict.get?_set_of_ne _ _ hk, get?_evictServiceWindows now hsize.le]
    cases windows.get? k with
    | none => rfl
    | some ts =>
      by_cases hstale : ts < now - SERVICE_WINDOW_SECONDS <;> simp [Option.filter, hstale]

theorem customerKey_inj {a b : String} : customerKey cfg a = customerKey cfg b ↔ a = b := by
  refine ⟨fun h => ?_, fun h => by rw [h]⟩
  have hlist := congrArg String.toList h
  simp only [customerKey, windowKey, String.toList_append] at hlist
  exact String.toList_inj.1 (List.append_cancel_left hlist)

/-! ## Windows and messages -/

theorem latestInbound_inbound (now : ℚ) (message : InboundMessage) :
    latestInbound cfg customer (es ++ [⟨now, .inbound message⟩]) =
      if message.isFrom cfg customer then some now
      else latestInbound cfg customer es := List.foldl_concat ..

theorem latestInbound_send (now : ℚ)
    (send : WindowedSend) : latestInbound cfg customer (es ++ [⟨now, .send send⟩]) =
    latestInbound cfg customer es := List.foldl_concat ..

/-- The stored windows are those of the latest messages, and none that is open is missing. -/
structure WindowsAgree (windows : ServiceWindows) (es : List (Timed ℚ WindowEvent)) (now : ℚ) :
    Prop where
  recorded : ∀ customer t, windows.get? (customerKey cfg customer) = some t →
    latestInbound cfg customer es = some t
  keys : ∀ k t, windows.get? k = some t → ∃ customer, k = customerKey cfg customer
  kept : ∀ customer t, latestInbound cfg customer es = some t → ¬ t < now - SERVICE_WINDOW_SECONDS →
    windows.get? (customerKey cfg customer) = some t

variable {cfg}

variable {windows : ServiceWindows}

variable {es : List (Timed ℚ WindowEvent)}

theorem WindowsAgree.evict {now : ℚ}
    (h : WindowsAgree cfg windows es now) (hsize : windows.size ≤ SERVICE_WINDOW_MAX_ENTRIES) :
    WindowsAgree cfg (evictServiceWindows now windows) es now := by
  refine ⟨fun customer t ht => ?_, fun k t ht => ?_, fun customer t ht hlive => ?_⟩
  · rw [get?_evictServiceWindows now hsize] at ht
    exact h.recorded customer t (Option.filter_eq_some_iff.1 ht).1
  · rw [get?_evictServiceWindows now hsize] at ht
    exact h.keys k t (Option.filter_eq_some_iff.1 ht).1
  · rw [get?_evictServiceWindows now hsize, h.kept customer t ht hlive,
      Option.filter_some_pos (by simp [hlive])]

/-- Time passes. -/
theorem WindowsAgree.later
    {now later : ℚ} (h : WindowsAgree cfg windows es now) (hlater : now ≤ later) :
    WindowsAgree cfg windows es later := by
  refine ⟨h.recorded, h.keys, fun customer t ht hlive => h.kept customer t ht fun hstale =>
    hlive ?_⟩
  linarith

theorem windowsAgree_skipped {now : ℚ}
    (h : WindowsAgree cfg windows es now) {message : InboundMessage}
    (hskipped : message.phoneNumberId ≠ cfg.phoneNumberId ∨ message.wamid = "" ∨
      message.sender = "") :
    WindowsAgree cfg (receiveInbound cfg now message windows)
    (es ++ [⟨now, .inbound message⟩]) now := by
  have hsame : receiveInbound cfg now message windows = windows := by
    rw [receiveInbound]
    split_ifs with hnumber hempty
    · rfl
    · rfl
    · exact absurd hskipped (not_or.2 ⟨hnumber, hempty⟩)
  have hnobody : ∀ customer, message.isFrom cfg customer = false := by
    intro customer
    rw [InboundMessage.isFrom]
    rcases hskipped with hnumber | hwamid | hsender
    · simp [hnumber]
    · simp [hwamid]
    · simp [hsender]
  have hlatest : ∀ customer, latestInbound cfg customer (es ++ [⟨now, .inbound message⟩]) =
      latestInbound cfg customer es := by
    intro customer
    rw [latestInbound_inbound, hnobody]
    rfl
  rw [hsame]
  refine ⟨fun customer t ht => ?_, h.keys, fun customer t ht => ?_⟩
  · rw [hlatest]
    exact h.recorded customer t ht
  · rw [hlatest] at ht
    exact h.kept customer t ht

theorem windowsAgree_received {now : ℚ}
    (h : WindowsAgree cfg windows es now) (hsize : windows.size < SERVICE_WINDOW_MAX_ENTRIES)
    {message : InboundMessage}
    (hreceived : ¬ (message.phoneNumberId ≠ cfg.phoneNumberId ∨ message.wamid = "" ∨
      message.sender = "")) :
    WindowsAgree cfg (receiveInbound cfg now message windows)
    (es ++ [⟨now, .inbound message⟩]) now := by
  obtain ⟨hnumber, hpresent⟩ := not_or.1 hreceived
  obtain ⟨hwamid, hsender⟩ := not_or.1 hpresent
  have hsame : receiveInbound cfg now message windows =
      recordInboundTimestamp cfg now message.sender message.phoneNumberId "public"
      "ekaette-electronics" windows := by
    rw [receiveInbound, if_neg hnumber, if_neg hpresent]
  have hkey : windowKey message.sender (cfg.resolve message.phoneNumberId) "public"
      "ekaette-electronics" = customerKey cfg message.sender := by
    rw [customerKey, not_ne_iff.1 hnumber]
  have hlatest : ∀ customer, latestInbound cfg customer (es ++ [⟨now, .inbound message⟩]) =
      if customer = message.sender then some now else latestInbound cfg customer es := by
    intro customer
    have hfrom : message.isFrom cfg customer = (message.sender == customer) := by
      simp [InboundMessage.isFrom, not_ne_iff.1 hnumber, hwamid, hsender]
    rw [latestInbound_inbound, hfrom]
    by_cases hc : customer = message.sender
    · rw [if_pos hc, hc, if_pos (beq_self_eq_true _)]
    · rw [if_neg hc, if_neg (by simpa using Ne.symm hc)]
  have hget : ∀ k, (receiveInbound cfg now message windows).get? k =
      if k = customerKey cfg message.sender then some now
      else (windows.get? k).filter fun ts => !decide (ts < now - SERVICE_WINDOW_SECONDS) := by
    intro k
    rw [hsame, get?_recordInboundTimestamp cfg now _ _ _ _ hsize, hkey]
  refine ⟨fun customer t ht => ?_, fun k t ht => ?_, fun customer t ht hlive => ?_⟩
  · rw [hget] at ht
    rw [hlatest]
    by_cases hc : customer = message.sender
    · rw [if_pos (by rw [hc])] at ht
      rw [if_pos hc, ht]
    · rw [if_neg (fun heq => hc ((customerKey_inj cfg).1 heq))] at ht
      rw [if_neg hc]
      exact h.recorded customer t (Option.filter_eq_some_iff.1 ht).1
  · rw [hget] at ht
    by_cases hk : k = customerKey cfg message.sender
    · exact ⟨message.sender, hk⟩
    · rw [if_neg hk] at ht
      exact h.keys k t (Option.filter_eq_some_iff.1 ht).1
  · rw [hget]
    rw [hlatest] at ht
    by_cases hc : customer = message.sender
    · rw [if_pos hc] at ht
      rw [if_pos (by rw [hc]), ht]
    · rw [if_neg hc] at ht
      rw [if_neg (fun heq => hc ((customerKey_inj cfg).1 heq)), h.kept customer t ht hlive,
        Option.filter_some_pos (by simp [hlive])]

/-- **Step lemma**, for a message. -/
theorem windowsAgree_inbound {now : ℚ}
    (h : WindowsAgree cfg windows es now) (hsize : windows.size < SERVICE_WINDOW_MAX_ENTRIES)
    (message : InboundMessage) :
    WindowsAgree cfg (receiveInbound cfg now message windows)
    (es ++ [⟨now, .inbound message⟩]) now := by
  by_cases hskipped : message.phoneNumberId ≠ cfg.phoneNumberId ∨ message.wamid = "" ∨
    message.sender = ""
  · exact windowsAgree_skipped h hskipped
  · exact windowsAgree_received h hsize hskipped

variable (cfg) in
theorem checkServiceWindow_fst (now : ℚ) (userPhone phoneNumberId tenantId companyId : String)
    (windows : ServiceWindows) :
    (checkServiceWindow cfg now userPhone phoneNumberId tenantId companyId windows).1 =
      evictServiceWindows now windows := by
  rw [checkServiceWindow]
  generalize evictServiceWindows now windows = evicted
  cases evicted.get? (windowKey userPhone (cfg.resolve phoneNumberId) tenantId companyId) with
  | none => rfl
  | some lastTs => rfl

variable (cfg) in
theorem sendWithTemplateFallback_windows (now : ℚ) (send : WindowedSend)
    (windows : ServiceWindows) : (sendWithTemplateFallback cfg now send windows).1 = windows ∨
      (sendWithTemplateFallback cfg now send windows).1 = evictServiceWindows now windows := by
  have hcheck := checkServiceWindow_fst cfg now send.recipient (cfg.resolve send.phoneNumberId)
    send.tenantId send.companyId windows
  rw [sendWithTemplateFallback]
  by_cases hmissing : send.recipient = "" ∨ send.text = ""
  · rw [if_pos hmissing]
    exact .inl rfl
  · rw [if_neg hmissing, Prod.map_fst, id_eq, hcheck]
    exact .inr rfl

theorem windowsAgree_start (now : ℚ) : WindowsAgree cfg .empty [] now := by
  refine ⟨fun customer t ht => ?_, fun k t ht => ?_, fun customer t ht => ?_⟩
  · cases ht
  · cases ht
  · cases ht

/-- **Run lemma.** While fewer windows are stored than fit, the windows agree with the messages. -/
theorem windowsAgree_run (es : List (Timed ℚ WindowEvent))
    (hclock : es.Pairwise fun e e' => e.now ≤ e'.now)
    (hsize : ∀ t ∈ (windowMachine cfg).trace .empty es, t.pre.size < SERVICE_WINDOW_MAX_ENTRIES)
    (now : ℚ) (hnow : ∀ e ∈ es, e.now ≤ now) :
    WindowsAgree cfg ((windowMachine cfg).run .empty es) es now := by
  induction es using List.reverseRecOn generalizing now with
  | nil => exact windowsAgree_start now
  | append_singleton es e ih =>
    rw [List.pairwise_append] at hclock
    rw [EventMachine.trace_concat] at hsize
    have hbefore := ih hclock.1 (fun t ht => hsize t (List.mem_append_left _ ht)) e.now
      fun e' he' => hclock.2.2 e' he' e (List.mem_singleton_self e)
    have hsmall := hsize _ (List.mem_append_right _ (List.mem_singleton_self _))
    rw [EventMachine.run_concat]
    refine WindowsAgree.later ?_ (hnow e (List.mem_append_right _ (List.mem_singleton_self e)))
    obtain ⟨time, event⟩ := e
    cases event with
    | inbound message => exact windowsAgree_inbound hbefore hsmall message
    | send send =>
      have hagree : WindowsAgree cfg ((windowMachine cfg).next ((windowMachine cfg).run .empty es)
          ⟨time, .send send⟩) es time := by
        rcases sendWithTemplateFallback_windows cfg time send
            ((windowMachine cfg).run .empty es) with
          hsame | hevicted
        · show WindowsAgree cfg (sendWithTemplateFallback cfg time send _).1 es time
          rw [hsame]
          exact hbefore
        · show WindowsAgree cfg (sendWithTemplateFallback cfg time send _).1 es time
          rw [hevicted]
          exact hbefore.evict (le_of_lt hsmall)
      refine ⟨fun customer t ht => ?_, hagree.keys, fun customer t ht => ?_⟩
      · rw [latestInbound_send]
        exact hagree.recorded customer t ht
      · rw [latestInbound_send] at ht
        exact hagree.kept customer t ht

/-! ## Sends -/

def SendForm.isFreeForm : SendForm → Bool
  | .freeForm _ _ _ => true
  | _ => false

def SendForm.isTemplate : SendForm → Bool
  | .template _ _ _ _ => true
  | _ => false

variable (cfg)

/-- In every run, the request is sent as free-form text exactly if the customer's latest message is
    less than a day old, and as the template, if there is one, otherwise. -/
def SendsByWindow (send : WindowedSend) : Prop :=
  ∀ (es : List (Timed ℚ WindowEvent)) (now : ℚ),
    (es ++ [(⟨now, .send send⟩ : Timed ℚ WindowEvent)]).Pairwise (fun e e' => e.now ≤ e'.now) →
    (∀ t ∈ (windowMachine cfg).trace .empty (es ++ [⟨now, .send send⟩]),
      t.pre.size < SERVICE_WINDOW_MAX_ENTRIES) →
    let form := (sendWithTemplateFallback cfg now send ((windowMachine cfg).run .empty es)).2
    let fresh := ∃ t, latestInbound cfg send.customer es = some t ∧ now - t < SERVICE_WINDOW_SECONDS
    (form.isFreeForm = true ↔ fresh) ∧
    (form.isTemplate = true ↔ ¬ fresh ∧ cfg.utilityTemplateName ≠ "")

variable {cfg}

theorem resolve_resolve (phoneNumberId : String) :
    cfg.resolve (cfg.resolve phoneNumberId) = cfg.resolve phoneNumberId := by
  by_cases hempty : phoneNumberId = ""
  · have hresolve : cfg.resolve phoneNumberId = cfg.phoneNumberId := if_pos hempty
    rw [hresolve]
    by_cases hnone : cfg.phoneNumberId = ""
    · exact if_pos hnone
    · exact if_neg hnone
  · have hresolve : cfg.resolve phoneNumberId = phoneNumberId := if_neg hempty
    rw [hresolve, hresolve]

/-- A window is open if it was recorded less than a day ago. -/
theorem checkServiceWindow_iff (now : ℚ) (send : WindowedSend) {windows : ServiceWindows}
    (hsize : windows.size ≤ SERVICE_WINDOW_MAX_ENTRIES) :
    (checkServiceWindow cfg now send.recipient (cfg.resolve send.phoneNumberId) send.tenantId
        send.companyId windows).2 = true ↔
      ∃ t, windows.get? (send.key cfg) = some t ∧ now - t < SERVICE_WINDOW_SECONDS := by
  have hget := get?_evictServiceWindows now hsize (send.key cfg)
  rw [checkServiceWindow, resolve_resolve]
  rw [WindowedSend.key] at hget ⊢
  generalize evictServiceWindows now windows = evicted at hget ⊢
  rw [hget]
  cases windows.get? (windowKey send.recipient (cfg.resolve send.phoneNumberId) send.tenantId
      send.companyId) with
  | none =>
    refine iff_of_false Bool.false_ne_true ?_
    rintro ⟨t, ht, -⟩
    cases ht
  | some t =>
    by_cases hopen : now - t < SERVICE_WINDOW_SECONDS
    · have hlive : ¬ t < now - SERVICE_WINDOW_SECONDS := by linarith
      rw [Option.filter_some_pos (by simp [hlive])]
      exact iff_of_true (decide_eq_true hopen) ⟨t, rfl, hopen⟩
    · have hnone : ¬ ∃ t', some t = some t' ∧ now - t' < SERVICE_WINDOW_SECONDS := by
        rintro ⟨t', ht', hopen'⟩
        exact hopen (Option.some.inj ht' ▸ hopen')
      refine iff_of_false ?_ hnone
      cases hfiltered : Option.filter (fun ts => !decide (ts < now - SERVICE_WINDOW_SECONDS))
          (some t) with
      | none => exact Bool.false_ne_true
      | some t' =>
        obtain rfl := Option.some.inj (Option.filter_eq_some_iff.1 hfiltered).1
        simpa using hopen

variable (cfg) in
theorem sendWithTemplateFallback_form (now : ℚ) {send : WindowedSend} (windows : ServiceWindows)
    (hrecipient : send.recipient ≠ "") (htext : send.text ≠ "") :
    ((sendWithTemplateFallback cfg now send windows).2.isFreeForm = true ↔
        (checkServiceWindow cfg now send.recipient (cfg.resolve send.phoneNumberId) send.tenantId
          send.companyId windows).2 = true) ∧
      ((sendWithTemplateFallback cfg now send windows).2.isTemplate = true ↔
        ¬ (checkServiceWindow cfg now send.recipient (cfg.resolve send.phoneNumberId) send.tenantId
          send.companyId windows).2 = true ∧ cfg.utilityTemplateName ≠ "") := by
  rw [sendWithTemplateFallback, if_neg (not_or.2 ⟨hrecipient, htext⟩), Prod.map_snd]
  generalize (checkServiceWindow cfg now send.recipient (cfg.resolve send.phoneNumberId)
    send.tenantId send.companyId windows).2 = inWindow
  cases inWindow with
  | true => simp [WindowedSend.form, SendForm.isFreeForm, SendForm.isTemplate]
  | false =>
    by_cases hname : cfg.utilityTemplateName = ""
    · simp [WindowedSend.form, SendForm.isFreeForm, SendForm.isTemplate, hname]
    · simp [WindowedSend.form, SendForm.isFreeForm, SendForm.isTemplate, hname]

/-- One message of the customer and a send right after it: the send finds the window only under its
    own key. -/
theorem key_of_sendsByWindow {send : WindowedSend} (hcustomer : send.customer ≠ "")
    (hrecipient : send.recipient ≠ "") (htext : send.text ≠ "") (h : SendsByWindow cfg send) :
    send.key cfg = customerKey cfg send.customer := by
  let message : InboundMessage := ⟨cfg.phoneNumberId, "wamid", send.customer⟩
  have hagree : WindowsAgree cfg (receiveInbound cfg 0 message .empty) [⟨0, .inbound message⟩] 0 :=
    windowsAgree_inbound (windowsAgree_start 0) (Nat.zero_lt_of_lt one_lt_serviceWindowMaxEntries)
      message
  have hfrom : ∀ customer, message.isFrom cfg customer = (send.customer == customer) := by
    intro customer
    simp [message, InboundMessage.isFrom, hcustomer]
  have hlatest : ∀ customer, latestInbound cfg customer [⟨0, .inbound message⟩] =
      if send.customer == customer then some 0 else none := by
    intro customer
    rw [← hfrom]
    exact latestInbound_inbound cfg customer [] 0 message
  have hsmall : (receiveInbound cfg 0 message .empty).size < SERVICE_WINDOW_MAX_ENTRIES := by
    have hpresent : ¬ (message.wamid = "" ∨ message.sender = "") := by simp [message, hcustomer]
    rw [receiveInbound, if_neg (fun hne => hne rfl), if_neg hpresent]
    exact lt_of_le_of_lt (size_recordInboundTimestamp_empty cfg 0 _ _ _ _)
      one_lt_serviceWindowMaxEntries
  obtain ⟨hfree, -⟩ := h [⟨0, .inbound message⟩] 0 (by simp) (fun t ht => by
    rcases List.mem_cons.1 ht with rfl | hlast
    · exact Nat.zero_lt_of_lt one_lt_serviceWindowMaxEntries
    · rw [List.mem_singleton.1 hlast]
      exact hsmall)
  have hfresh : ∃ t, latestInbound cfg send.customer [⟨0, .inbound message⟩] = some t ∧
      (0 : ℚ) - t < SERVICE_WINDOW_SECONDS :=
    ⟨0, by rw [hlatest, if_pos (beq_self_eq_true _)], by decide +kernel⟩
  have hopen := (sendWithTemplateFallback_form cfg 0 (receiveInbound cfg 0 message .empty)
    hrecipient htext).1.1 (hfree.2 hfresh)
  obtain ⟨t, ht, -⟩ := (checkServiceWindow_iff 0 send hsmall.le).1 hopen
  obtain ⟨customer, hkey⟩ := hagree.keys _ t ht
  rw [hkey] at ht
  have hsame := hagree.recorded customer t ht
  rw [hlatest] at hsame
  by_cases hc : (send.customer == customer) = true
  · rw [hkey, beq_iff_eq.1 hc]
  · rw [if_neg hc] at hsame
    cases hsame

/-- **Senders see the windows of their own key.** A request is sent by the customer's window in
    every run exactly if the key it looks up is the key under which the customer's messages are
    recorded. -/
theorem sendsByWindow_iff {send : WindowedSend} (hcustomer : send.customer ≠ "")
    (htext : send.text ≠ "") : SendsByWindow cfg send ↔
    send.key cfg = customerKey cfg send.customer := by
  have hrecipient : send.recipient ≠ "" := by
    intro hempty
    exact hcustomer (by rw [WindowedSend.customer, hempty]; rfl)
  constructor
  · exact key_of_sendsByWindow hcustomer hrecipient htext
  · intro hkey es now hclock hsize
    have hagree : WindowsAgree cfg ((windowMachine cfg).run .empty es) es now := by
      rw [List.pairwise_append] at hclock
      rw [EventMachine.trace_concat] at hsize
      exact windowsAgree_run es hclock.1 (fun t ht => hsize t (List.mem_append_left _ ht)) now
        fun e he => hclock.2.2 e he _ (List.mem_singleton_self _)
    have hsmall : ((windowMachine cfg).run .empty es).size < SERVICE_WINDOW_MAX_ENTRIES := by
      rw [EventMachine.trace_concat] at hsize
      exact hsize _ (List.mem_append_right _ (List.mem_singleton_self _))
    have hopen : (∃ t, ((windowMachine cfg).run .empty es).get? (send.key cfg) = some t ∧
        now - t < SERVICE_WINDOW_SECONDS) ↔
          ∃ t, latestInbound cfg send.customer es = some t ∧ now - t < SERVICE_WINDOW_SECONDS := by
      rw [hkey]
      constructor
      · rintro ⟨t, ht, hfresh⟩
        exact ⟨t, hagree.recorded send.customer t ht, hfresh⟩
      · rintro ⟨t, ht, hfresh⟩
        exact ⟨t, hagree.kept send.customer t ht (by linarith), hfresh⟩
    obtain ⟨hfree, htemplate⟩ := sendWithTemplateFallback_form cfg now
      ((windowMachine cfg).run .empty es) hrecipient htext
    rw [checkServiceWindow_iff now send hsmall.le, hopen] at hfree htemplate
    exact ⟨hfree, htemplate⟩

/-- A number with a utility template. -/
def plainWindows : WindowConfig := ⟨"15550001", "order_update"⟩

/-- A send of the default company, in the spelling of the webhook. -/
theorem plainSend_byWindow :
    SendsByWindow plainWindows
    { recipient := "2348000001", text := "Shipped", phoneNumberId := "" } :=
  (sendsByWindow_iff (by decide +kernel) (by decide)).2 (by decide +kernel)

/-- A send with a leading `+` never finds the window of the customer. -/
theorem plusSend_notByWindow :
    ¬ ∀ (cfg : WindowConfig) (send : WindowedSend), send.customer ≠ "" → send.text ≠ "" →
    SendsByWindow cfg send := by
  intro h
  have hsend :=
    h plainWindows { recipient := "+2348000001", text := "Shipped", phoneNumberId := "" }
    (by decide +kernel) (by decide)
  have hkey := key_of_sendsByWindow (by decide +kernel) (by decide) (by decide) hsend
  exact absurd hkey (by decide +kernel)

end Ekaette
