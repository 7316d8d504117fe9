import Ekaette.Lib.EventMachine
import Ekaette.Lib.PyStr
import Ekaette.Lib.RecentWindow
import Mathlib.Data.Finset.Insert
import Mathlib.Data.List.Sort

set_option autoImplicit false

/-! # Campaign analytics

`app/api/v1/at/campaign_analytics.py`: `record_event` and what it rests on. An event with an id is
counted only when its id is not among the seen ones; the set of seen ids is cut back to the newest
5,000 when it exceeds 10,000. The in-memory event log is written but never read, so it is left out,
and with it the fields that only go there. -/

namespace Ekaette

inductive CampaignChannel where
  | sms
  | voice
  | omni
  deriving DecidableEq

def CampaignChannel.name : CampaignChannel → String
  | .sms => "sms"
  | .voice => "voice"
  | .omni => "omni"

variable (py : StrMethods)

/-- `_normalize_channel`. -/
def normalizeChannel (channel : String) : CampaignChannel :=
  let normalized := py.lower (PyStr.strip channel)
  if normalized = "sms" then .sms else if normalized = "voice" then .voice else .omni

structure CampaignState where
  campaignId : String
  channel : CampaignChannel
  tenantId : String
  companyId : String
  campaignName : String
  message : String
  createdAt : String
  updatedAt : String
  recipients : Finset String
  sentTotal : ℕ
  deliveredTotal : ℕ
  failedTotal : ℕ
  repliesTotal : ℕ
  conversionsTotal : ℕ
  revenueKobo : ℤ
  paymentsInitializedTotal : ℕ
  paymentsSuccessTotal : ℕ

/-- The module's state. -/
structure Analytics where
  campaigns : Dict String CampaignState
  seenEventIds : Dict String ℚ
  recipientLastCampaign : Dict (String × String × String) String

def Analytics.empty : Analytics := ⟨.empty, .empty, .empty⟩

/-- What a call draws from outside: the clock of the dedup set, two fresh campaign ids, the time. -/
structure AnalyticsEnv where
  dedupAt : ℚ
  builtId : String
  rebuiltId : String
  now : String

/-- The arguments of `record_event`. -/
structure RecordEventCall where
  eventType : String
  channel : String
  tenantId : String
  companyId : String
  campaignId : Option String
  campaignName : Option String
  recipient : Option String
  amountKobo : Option ℤ
  eventId : Option String

/-! ## Deduplication -/

/-- The eviction of `_event_deduped`. -/
def evictOldestIds (seen : Dict String ℚ) : Dict String ℚ :=
  if seen.size > 10000 then
    seen.eraseAll (((seen.entries.mergeSort (fun a b => decide (a.2 ≤ b.2))).take
      (seen.size - 5000)).map Prod.fst)
  else seen

/-- `_event_deduped`. -/
def eventDeduped (eventId : Option String) (now : ℚ) (seen : Dict String ℚ) :
    Dict String ℚ × Bool :=
  match eventId with
  | none => (seen, false)
  | some id =>
    if id = "" then (seen, false)
    else if seen.contains id then (seen, true)
    else (evictOldestIds (seen.set id now), false)

/-! ## Campaigns -/

/-- `(value or default).strip() or default`. -/
def stripOr (value default : String) : String :=
  let stripped := PyStr.strip (if value = "" then default else value)
  if stripped = "" then default else stripped

/-- `(value or "").strip()`. -/
def stripOpt (value : Option String) : String := PyStr.strip (value.getD "")

/-- The name of a campaign created without one. -/
def defaultCampaignName : CampaignChannel → String
  | .sms => "SMS Campaign"
  | .voice => "VOICE Campaign"
  | .omni => "OMNI Campaign"

/-- A campaign in which nothing has been counted. -/
def newCampaign (id : String) (channel : CampaignChannel) (tenant company name message now :
    String) : CampaignState where
  campaignId := id
  channel := channel
  tenantId := tenant
  companyId := company
  campaignName := if name = "" then defaultCampaignName channel else name
  message := message
  createdAt := now
  updatedAt := now
  recipients := ∅
  sentTotal := 0
  deliveredTotal := 0
  failedTotal := 0
  repliesTotal := 0
  conversionsTotal := 0
  revenueKobo := 0
  paymentsInitializedTotal := 0
  paymentsSuccessTotal := 0

/-- An existing campaign of another tenant or company. -/
def otherScope (tenant company : String) (existing : Option CampaignState) : Bool :=
  match existing with
  | none => false
  | some state => state.tenantId ≠ tenant || state.companyId ≠ company

variable (env : AnalyticsEnv)

/-- `_ensure_campaign`: the key and the state of the campaign a call works on. -/
def ensureCampaign (channel tenantId companyId message :
    String) (campaignId campaignName : Option String) (campaigns : Dict String CampaignState) :
    String × CampaignState :=
  let channel := normalizeChannel py channel
  let tenant := stripOr tenantId "public"
  let company := stripOr companyId "ekaette-electronics"
  let resolved := if stripOpt campaignId = "" then env.builtId else stripOpt campaignId
  let existing := campaigns.get? resolved
  -- a campaign id of another scope is not used: the call gets a campaign of its own
  let (resolved, existing) :=
    if otherScope tenant company existing then (env.rebuiltId, none) else (resolved, existing)
  match existing with
  | some state =>
    (resolved, { state with
      updatedAt := env.now
      message := if message ≠ "" ∧ state.message = "" then message else state.message
      campaignName := if stripOpt campaignName ≠ "" then stripOpt campaignName
        else state.campaignName })
  | none =>
    (resolved, newCampaign resolved channel tenant company (stripOpt campaignName) message env.now)

/-- The counters of one event type. -/
def CampaignState.count (state : CampaignState) (eventType : String) (amountKobo : Option ℤ) :
    CampaignState :=
  if eventType = "sent" then { state with sentTotal := state.sentTotal + 1 }
  else if eventType = "delivered" then { state with deliveredTotal := state.deliveredTotal + 1 }
  else if eventType = "failed" then { state with failedTotal := state.failedTotal + 1 }
  else if eventType = "reply" then { state with repliesTotal := state.repliesTotal + 1 }
  else if eventType = "payment_initialized" then
    { state with paymentsInitializedTotal := state.paymentsInitializedTotal + 1 }
  else if eventType = "payment_success" ∨ eventType = "conversion" then
    { state with
      conversionsTotal := state.conversionsTotal + 1
      paymentsSuccessTotal := state.paymentsSuccessTotal + 1
      revenueKobo := state.revenueKobo + max (amountKobo.getD 0) 0 }
  else state

/-- `_normalize_recipient`. -/
def normalizeRecipient (recipient : String) : String :=
  py.lower (String.ofList ((PyStr.strip recipient).toList.filter (fun c => c.isDigit || c = '+')))

variable (call : RecordEventCall)

/-- `record_event`. -/
def recordEvent (s : Analytics) :
    Analytics × String :=
  let (seen, duplicate) := eventDeduped call.eventId env.dedupAt s.seenEventIds
  if duplicate then (s, stripOpt call.campaignId)
  else
    let (id, state) := ensureCampaign py env call.channel call.tenantId call.companyId ""
      call.campaignId call.campaignName s.campaigns
    let eventType := py.lower (PyStr.strip call.eventType)
    let state := { state with updatedAt := env.now }.count eventType call.amountKobo
    let recipient := normalizeRecipient py (call.recipient.getD "")
    let index := if recipient = "" then s.recipientLastCampaign
      else s.recipientLastCampaign.set (state.tenantId, state.companyId, recipient) state.campaignId
    (⟨s.campaigns.set id state, seen, index⟩, state.campaignId)

/-! ## The seen ids are a window of the recorded ones -/

/-- The seen ids are those the bounded memory keeps of `ids`, stamped in order. -/
structure SeenIds (ids : List String) (seen : Dict String ℚ) : Prop where
  keys : seen.keys = RecentWindow.remembered 10000 5000 ids
  sorted : seen.entries.Pairwise (fun a b => a.2 ≤ b.2)

theorem seenIds_empty : SeenIds [] .empty := ⟨rfl, List.Pairwise.nil⟩

theorem evictOldestIds_sorted {seen : Dict String ℚ}
    (hsorted : seen.entries.Pairwise (fun a b => a.2 ≤ b.2)) :
    evictOldestIds seen = if seen.size > 10000 then seen.dropOldest
    (seen.size - 5000) else seen := by
  have hle : seen.entries.Pairwise (fun a b => decide (a.2 ≤ b.2) = true) :=
    hsorted.imp (fun h => decide_eq_true h)
  rw [evictOldestIds, List.mergeSort_of_pairwise hle, Dict.eraseAll_take_keys]

/-- A new id is recorded at the end, and the oldest ones are forgotten when there are too many. -/
theorem seenIds_record {ids : List String} {seen : Dict String ℚ} (h : SeenIds ids seen)
    {id : String} {now : ℚ} (hid : id ≠ "") (hnew : seen.contains id = false)
    (hpast : ∀ e ∈ seen.entries, e.2 ≤ now) :
    SeenIds (ids ++ [id]) (eventDeduped (some id) now seen).1 := by
  have hfresh : id ∉ seen.keys := by
    rw [Dict.mem_keys_iff]
    simpa [Dict.contains] using hnew
  have hentries := seen.entries_set_of_not_mem now hfresh
  have hsorted : (seen.set id now).entries.Pairwise (fun a b => a.2 ≤ b.2) := by
    rw [hentries, List.pairwise_append]
    refine ⟨h.sorted, List.pairwise_singleton _ _, ?_⟩
    intro a ha b hb
    rw [List.mem_singleton.1 hb]
    exact hpast a ha
  have hkeys : (seen.set id now).keys = RecentWindow.remembered 10000 5000 ids ++ [id] := by
    rw [Dict.keys, hentries, List.map_append, ← h.keys]
    rfl
  have hsize : (seen.set id now).size
      = (RecentWindow.remembered 10000 5000 ids ++ [id]).length := by
    rw [← hkeys, Dict.keys, List.length_map, Dict.size]
  have hrecord : (eventDeduped (some id) now seen).1 = evictOldestIds (seen.set id now) := by
    simp [eventDeduped, hid, hnew]
  rw [hrecord, evictOldestIds_sorted hsorted]
  constructor
  · rw [RecentWindow.remembered_concat, RecentWindow.cut, hsize]
    split_ifs with hfull
    · rw [Dict.keys_dropOldest, hkeys]
    · exact hkeys
  · split_ifs with hfull
    · rw [Dict.entries_dropOldest]
      exact hsorted.sublist (List.drop_sublist _ _)
    · exact hsorted

/-- **Deduplication refines the bounded memory**: an id that is neither empty nor seen is
    recorded. -/
theorem seenIds_eventDeduped {ids : List String} {seen : Dict String ℚ} (h : SeenIds ids seen)
    {eventId : Option String} {now : ℚ} (hpast : ∀ e ∈ seen.entries, e.2 ≤ now) :
    SeenIds (ids ++ (eventId.filter (fun id => id ≠ "" && !seen.contains id)).toList)
      (eventDeduped eventId now seen).1 := by
  cases eventId with
  | none => simpa [eventDeduped] using h
  | some id =>
    rw [Option.filter_some]
    by_cases hid : id = ""
    · simpa [eventDeduped, hid] using h
    · cases hseen : seen.contains id with
      | true => simpa [eventDeduped, hid, hseen] using h
      | false =>
        have hrecorded := seenIds_record h hid hseen hpast
        simpa [hid] using hrecorded

theorem mem_evictOldestIds {seen : Dict String ℚ} {e : String × ℚ}
    (h : e ∈ (evictOldestIds seen).entries) : e ∈ seen.entries := by
  unfold evictOldestIds at h
  split_ifs at h
  · rw [Dict.entries_eraseAll] at h
    exact List.mem_of_mem_filter h
  · exact h

theorem eventDeduped_stamps {eventId : Option String} {now : ℚ} {seen : Dict String ℚ}
    {e : String × ℚ} (h : e ∈ (eventDeduped eventId now seen).1.entries) :
    e ∈ seen.entries ∨ e.2 = now := by
  cases eventId with
  | none => exact .inl h
  | some id =>
    simp only [eventDeduped] at h
    split_ifs at h with hid hseen
    · exact .inl h
    · exact .inl h
    · have hset := mem_evictOldestIds h
      have hfresh : id ∉ seen.keys := by
        rw [Dict.mem_keys_iff]
        exact hseen
      rw [Dict.entries_set_of_not_mem _ _ hfresh, List.mem_append, List.mem_singleton] at hset
      rcases hset with hold | rfl
      · exact .inl hold
      · exact .inr rfl

/-! ## What a counted payment adds -/

/-- Successful payments and revenue of a campaign; nothing when there is no such campaign. -/
def Analytics.paid (s : Analytics) (campaign : String) : ℕ × ℤ :=
  match s.campaigns.get? campaign with
  | none => (0, 0)
  | some state => (state.paymentsSuccessTotal, state.revenueKobo)

/-- The payment adds one success and its amount to the campaign, and nothing to others. -/
structure Contributes (before after : Analytics) (campaign : String) (amountKobo : ℤ) : Prop where
  own : after.paid campaign = ((before.paid campaign).1 + 1, (before.paid campaign).2 + amountKobo)
  others : ∀ other, other ≠ campaign → after.paid other = before.paid other

/-- The campaign a call for this id is booked on: the one with the id, or a new one when that
    belongs to another tenant or company. -/
def creditedCampaign (tenantId companyId campaignId rebuiltId : String)
    (campaigns : Dict String CampaignState) : String :=
  if otherScope (stripOr tenantId "public") (stripOr companyId "ekaette-electronics")
      (campaigns.get? (PyStr.strip campaignId)) then rebuiltId
  else PyStr.strip campaignId

/-- `_ensure_campaign` gives the credited campaign. -/
theorem ensureCampaign_key
    (channel tenantId companyId campaignId : String) (campaignName : Option String)
    (campaigns : Dict String CampaignState) (hid : PyStr.strip campaignId ≠ "") :
    (ensureCampaign py env channel tenantId companyId "" (some campaignId) campaignName
        campaigns).1 = creditedCampaign tenantId companyId campaignId env.rebuiltId campaigns := by
  have hstrip : stripOpt (some campaignId) = PyStr.strip campaignId := rfl
  unfold ensureCampaign creditedCampaign
  simp only [hstrip, hid, if_false]
  by_cases hscope : otherScope (stripOr tenantId "public") (stripOr companyId "ekaette-electronics")
      (campaigns.get? (PyStr.strip campaignId)) = true
  · simp [hscope]
  · simp only [hscope, Bool.false_eq_true, if_false]
    cases campaigns.get? (PyStr.strip campaignId) <;> rfl

theorem ensureCampaign_totals
    (channel tenantId companyId campaignId : String) (campaignName : Option String) (s : Analytics)
    (hid : PyStr.strip campaignId ≠ "") (hfresh : s.campaigns.get? env.rebuiltId = none) :
    ((ensureCampaign py env channel tenantId companyId "" (some campaignId) campaignName
        s.campaigns).2.paymentsSuccessTotal,
      (ensureCampaign py env channel tenantId companyId "" (some campaignId) campaignName
        s.campaigns).2.revenueKobo)
      = s.paid (creditedCampaign tenantId companyId campaignId env.rebuiltId s.campaigns) := by
  have hstrip : stripOpt (some campaignId) = PyStr.strip campaignId := rfl
  unfold ensureCampaign creditedCampaign
  simp only [hstrip, hid, if_false]
  by_cases hscope : otherScope (stripOr tenantId "public") (stripOr companyId "ekaette-electronics")
      (s.campaigns.get? (PyStr.strip campaignId)) = true
  · simp only [hscope, if_true]
    rw [Analytics.paid, hfresh]
    rfl
  · simp only [hscope, Bool.false_eq_true, if_false]
    cases hexisting : s.campaigns.get? (PyStr.strip campaignId) with
    | none =>
      rw [Analytics.paid, hexisting]
      rfl
    | some state => rw [Analytics.paid, hexisting]

theorem count_paymentSuccess (state : CampaignState) (amountKobo : Option ℤ) :
    (state.count "payment_success" amountKobo).paymentsSuccessTotal
        = state.paymentsSuccessTotal + 1 ∧
      (state.count "payment_success" amountKobo).revenueKobo
        = state.revenueKobo + max (amountKobo.getD 0) 0 := by
  simp [CampaignState.count]

theorem paid_set (campaigns : Dict String CampaignState) (seen : Dict String ℚ)
    (index : Dict (String × String × String) String) (id campaign : String)
    (state : CampaignState) : Analytics.paid ⟨campaigns.set id state, seen, index⟩ campaign
      = if campaign = id then (state.paymentsSuccessTotal, state.revenueKobo)
        else match campaigns.get? campaign with
          | none => (0, 0)
          | some state => (state.paymentsSuccessTotal, state.revenueKobo) := by
  simp only [Analytics.paid, Dict.get?_set]
  split_ifs <;> rfl

/-- **A payment event whose id is new contributes** its amount to the campaign it is booked on. -/
theorem recordEvent_contributes (s : Analytics) {id campaignId : String} {amountKobo : ℤ}
    (htype : call.eventType = "payment_success")
    (hcampaign : call.campaignId = some campaignId) (hamount : call.amountKobo = some amountKobo)
    (hnonneg : 0 ≤ amountKobo) (hevent : call.eventId = some id) (hid : id ≠ "")
    (hnew : s.seenEventIds.contains id = false) (hcampaignId : PyStr.strip campaignId ≠ "")
    (hfresh : s.campaigns.get? env.rebuiltId = none) :
    Contributes s (recordEvent py env call s).1
      (creditedCampaign call.tenantId call.companyId campaignId env.rebuiltId s.campaigns)
      amountKobo := by
  have hkey := ensureCampaign_key py env call.channel call.tenantId call.companyId campaignId
    call.campaignName s.campaigns hcampaignId
  have hpaid := ensureCampaign_totals py env call.channel call.tenantId call.companyId campaignId
    call.campaignName s hcampaignId hfresh
  have hlower : py.lower (PyStr.strip "payment_success") = "payment_success" := by
    rw [py.lower_ascii _ (by decide)]
    decide
  have hdedup : (eventDeduped call.eventId env.dedupAt s.seenEventIds).2 = false := by
    simp [eventDeduped, hevent, hid, hnew]
  simp only [recordEvent, hdedup, Bool.false_eq_true, if_false, hcampaign, htype, hlower, hamount]
  generalize creditedCampaign call.tenantId call.companyId campaignId env.rebuiltId s.campaigns
    = credited at hkey hpaid ⊢
  generalize ensureCampaign py env call.channel call.tenantId call.companyId "" (some campaignId)
    call.campaignName s.campaigns = ensured at hkey hpaid ⊢
  obtain ⟨key, state⟩ := ensured
  subst hkey
  simp only at hpaid ⊢
  obtain ⟨hsuccess, hrevenue⟩ := count_paymentSuccess { state with updatedAt := env.now }
    (some amountKobo)
  constructor
  · rw [paid_set, if_pos rfl, hsuccess, hrevenue, ← hpaid]
    simp [hnonneg]
  · intro other hother
    rw [paid_set, if_neg hother, Analytics.paid]

theorem recordEvent_duplicate
    (s : Analytics) {id : String} (hevent : call.eventId = some id) (hid : id ≠ "")
    (hseen : s.seenEventIds.contains id = true) : (recordEvent py env call s).1 = s := by
  simp [recordEvent, eventDeduped, hevent, hid, hseen]

theorem recordEvent_seen (s : Analytics) : (recordEvent py env call s).1.seenEventIds
      = (eventDeduped call.eventId env.dedupAt s.seenEventIds).1 := by
  have hduplicate : (eventDeduped call.eventId env.dedupAt s.seenEventIds).2 = true →
      (eventDeduped call.eventId env.dedupAt s.seenEventIds).1 = s.seenEventIds := by
    unfold eventDeduped
    cases call.eventId with
    | none => exact fun _ => rfl
    | some id =>
      simp only
      split_ifs <;> simp
  unfold recordEvent
  by_cases h : (eventDeduped call.eventId env.dedupAt s.seenEventIds).2 = true
  · simp [h, hduplicate h]
  · simp [h]

theorem recordEvent_otherCampaign
    (s : Analytics) {campaignId other : String} (hcampaign : call.campaignId = some campaignId)
    (hid : PyStr.strip campaignId ≠ "")
    (hother : other ≠ creditedCampaign call.tenantId call.companyId campaignId env.rebuiltId
      s.campaigns) :
    (recordEvent py env call s).1.campaigns.get? other = s.campaigns.get? other := by
  rw [← ensureCampaign_key py env call.channel call.tenantId call.companyId campaignId
    call.campaignName s.campaigns hid] at hother
  unfold recordEvent
  by_cases h : (eventDeduped call.eventId env.dedupAt s.seenEventIds).2 = true
  · simp [h]
  · simp [h, hcampaign, hother]

end Ekaette
