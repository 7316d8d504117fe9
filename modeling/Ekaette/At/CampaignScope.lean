import Ekaette.At.CampaignAnalytics
import Ekaette.Lib.OwnedTable
import Mathlib.Data.Finset.Lattice.Basic

set_option autoImplicit false

/-! # Campaigns of a scope

The two other writers of `app/api/v1/at/campaign_analytics.py`, `record_outbound_campaign` and
`record_inbound_reply`, and what the three have in common: a call books on a campaign of its own
scope. The in-memory event log is left out, as for `record_event`. -/

namespace Ekaette

/-! ## What the provider reports -/

def SUCCESS_STATUS_HINTS : List String :=
  ["success", "queued", "sent", "accepted", "processing", "active"]

def FAILURE_STATUS_HINTS : List String := ["failed", "error", "invalid", "rejected", "blocked"]

variable (py : StrMethods)

/-- One of the hints is in the status, whatever its case. -/
def statusHints (hints : List String) (status : String) : Bool :=
  hints.any (fun hint => PyStr.contains hint (py.lower (PyStr.strip status)))

/-- `_status_success`. -/
def statusSuccess (status : String) : Bool :=
  statusHints py SUCCESS_STATUS_HINTS status

/-- `_status_failed`. -/
def statusFailed (status : String) : Bool :=
  statusHints py FAILURE_STATUS_HINTS status

/-- `str(item.get(key) or item.get(key') or "")`. -/
def firstText (item : List (String × PyValue)) (keys : List String) : String :=
  (keys.foldr (fun key rest => (PyValue.lookupD item key).orElse rest) (.str "")).toStr py

/-- The statuses that the items of a list report, added to those known. -/
def addStatuses (numberKeys statusKeys : List String) (items : PyValue)
    (statuses : Dict String String) : Dict String String :=
  match items with
  | .list items => items.foldl (fun statuses item =>
    match item with
    | .dict item =>
      let recipient := normalizeRecipient py (firstText py item numberKeys)
      if recipient = "" then statuses else statuses.set recipient (firstText py item statusKeys)
    | _ => statuses) statuses
  | _ => statuses

/-- `_extract_recipient_statuses`. -/
def extractRecipientStatuses (providerResult : List (String × PyValue)) :
    Dict String String :=
  let smsRecipients :=
    match PyValue.lookupD providerResult "SMSMessageData" with
    | .dict smsData => PyValue.lookupD smsData "Recipients"
    | _ => .none
  addStatuses py ["phoneNumber", "number"] ["status", "state"]
    (PyValue.lookupD providerResult "entries")
    (addStatuses py ["number", "phoneNumber"] ["status"] smsRecipients .empty)

/-! ## Outbound campaigns -/

/-- `_update_recipient_index`. -/
def updateRecipientIndex (tenantId companyId : String) (recipients : List String)
    (campaignId : String) (index : Dict (String × String × String) String) :
    Dict (String × String × String) String :=
  recipients.foldl (fun index recipient =>
    if normalizeRecipient py recipient = "" then index
    else index.set (tenantId, companyId, normalizeRecipient py recipient) campaignId) index

/-- The arguments of `record_outbound_campaign`. -/
structure OutboundCampaignCall where
  channel : String
  tenantId : String
  companyId : String
  recipients : List String
  message : String
  providerResult : List (String × PyValue)
  campaignId : Option String
  campaignName : Option String

/-- `record_outbound_campaign`; `recordedAt` is the time read after the campaign was found. -/
def recordOutboundCampaign (env : AnalyticsEnv) (recordedAt : String)
    (call : OutboundCampaignCall) (s : Analytics) : Analytics × String :=
  let (id, state) := ensureCampaign py env call.channel call.tenantId call.companyId call.message
    call.campaignId call.campaignName s.campaigns
  let recipients := call.recipients.filter (fun recipient => normalizeRecipient py recipient ≠ "")
  let statuses := extractRecipientStatuses py call.providerResult
  let reported :=
    recipients.map (fun recipient => statuses.getD (normalizeRecipient py recipient) "success")
  let state := { state with
    updatedAt := recordedAt
    sentTotal := state.sentTotal + recipients.length
    deliveredTotal := state.deliveredTotal + reported.countP (fun status =>
      !statusFailed py status && (statusSuccess py status || status = ""))
    failedTotal := state.failedTotal + reported.countP (statusFailed py)
    recipients := state.recipients ∪ (recipients.map (normalizeRecipient py)).toFinset }
  (⟨s.campaigns.set id state, s.seenEventIds,
    updateRecipientIndex py state.tenantId state.companyId recipients state.campaignId
      s.recipientLastCampaign⟩, state.campaignId)

/-! ## Inbound replies -/

/-- The arguments of `record_inbound_reply`; the message only goes to the event log. -/
structure InboundReplyCall where
  channel : String
  tenantId : String
  companyId : String
  recipient : String
  campaignId : Option String

/-- The campaign a reply names, or the last one that wrote to its sender. -/
def repliedCampaign (call : InboundReplyCall) (s : Analytics) : String :=
  if stripOpt call.campaignId = "" then
    s.recipientLastCampaign.getD (call.tenantId, call.companyId,
      normalizeRecipient py call.recipient) ""
  else stripOpt call.campaignId

/-- `record_inbound_reply`. -/
def recordInboundReply (env : AnalyticsEnv) (recordedAt : String)
    (call : InboundReplyCall) (s : Analytics) : Analytics × Option String :=
  if normalizeRecipient py call.recipient = "" then (s, none)
  else if repliedCampaign py call s = "" then (s, none)
  else
    let (id, state) := ensureCampaign py env call.channel call.tenantId call.companyId ""
      (some (repliedCampaign py call s)) none s.campaigns
    let state := { state with updatedAt := recordedAt, repliesTotal := state.repliesTotal + 1 }
    (⟨s.campaigns.set id state, s.seenEventIds, s.recipientLastCampaign⟩, some state.campaignId)

/-! ## The writers as one machine -/

/-- A call of one of the three writers. -/
inductive CampaignCall where
  | outbound (call : OutboundCampaignCall)
  | reply (call : InboundReplyCall)
  | event (call : RecordEventCall)

/-- A call, what it draws from outside and the time it records. -/
structure CampaignEvent where
  call : CampaignCall
  env : AnalyticsEnv
  recordedAt : String

/-- The three writers on the module's state. -/
def campaignMachine : EventMachine Analytics CampaignEvent (Option String) where
  step s e :=
    match e.call with
    | .outbound call =>
      let r := recordOutboundCampaign py e.env e.recordedAt call s
      (r.1, some r.2)
    | .reply call => recordInboundReply py e.env e.recordedAt call s
    | .event call =>
      let r := recordEvent py e.env call s
      (r.1, some r.2)

/-- The tenant and the company a campaign belongs to. -/
def CampaignState.scope (state : CampaignState) : String × String :=
  (state.tenantId, state.companyId)

/-- The scope a call is made for: its tenant and company, trimmed, or the defaults. -/
def requestedScope (tenantId companyId : String) : String × String :=
  (stripOr tenantId "public", stripOr companyId "ekaette-electronics")

def CampaignCall.scope : CampaignCall → String × String
  | .outbound call => requestedScope call.tenantId call.companyId
  | .reply call => requestedScope call.tenantId call.companyId
  | .event call => requestedScope call.tenantId call.companyId

/-- The scope an entry of the recipient index is filed under. -/
def indexedScope (key : String × String × String) : String × String := (key.1, key.2.1)

/-! ## What a call writes -/

/-- Every campaign is filed under its own id. -/
def KeyedByCampaignId (campaigns : Dict String CampaignState) : Prop :=
  ∀ id state, campaigns.get? id = some state → state.campaignId = id

/-- A call books on one campaign of the scope: it writes the campaign under its id, where no other
    scope has one, and files recipients of the scope under it. -/
structure BooksOn (scope : String × String) (before after : Analytics) (id : String)
    (state : CampaignState) : Prop where
  campaigns : after.campaigns = before.campaigns.set id state
  campaignId : state.campaignId = id
  ofScope : state.scope = scope
  held : ∀ old, before.campaigns.get? id = some old → old.scope = scope
  index : ∀ key id', after.recipientLastCampaign.get? key = some id' →
    before.recipientLastCampaign.get? key = some id' ∨ (id' = id ∧ indexedScope key = state.scope)

theorem scope_of_not_otherScope {tenant company : String} {existing : Option CampaignState}
    (h : otherScope tenant company existing = false) {state : CampaignState}
    (hstate : existing = some state) : state.scope = (tenant, company) := by
  subst hstate
  simp only [otherScope, Bool.or_eq_false_iff, decide_eq_false_iff_not, ne_eq, not_not] at h
  rw [CampaignState.scope, h.1, h.2]

theorem newCampaign_campaignId (id : String) (channel : CampaignChannel)
    (tenant company name message now : String) :
    (newCampaign id channel tenant company name message now).campaignId = id := rfl

theorem newCampaign_scope (id : String) (channel : CampaignChannel)
    (tenant company name message now : String) :
    (newCampaign id channel tenant company name message now).scope = (tenant, company) := rfl

/-- **The campaign of a call is one of its scope**, filed under its own id, where no other scope has
    a campaign. -/
theorem ensureCampaign_scope (env : AnalyticsEnv)
    (channel tenantId companyId message : String) (campaignId campaignName : Option String)
    {campaigns : Dict String CampaignState} (hkeyed : KeyedByCampaignId campaigns)
    (hfresh : campaigns.contains env.rebuiltId = false) {id : String} {state : CampaignState}
    (h : ensureCampaign py env channel tenantId companyId message campaignId campaignName campaigns
      = (id, state)) :
    state.campaignId = id ∧ state.scope = requestedScope tenantId companyId ∧
      ∀ old, campaigns.get? id = some old → old.scope = requestedScope tenantId companyId := by
  have hunused : campaigns.get? env.rebuiltId = none := by
    rw [Dict.contains, Option.isSome_eq_false_iff] at hfresh
    exact Option.isNone_iff_eq_none.1 hfresh
  unfold ensureCampaign at h
  dsimp only at h
  generalize (if stripOpt campaignId = "" then env.builtId else stripOpt campaignId) = resolved at h
  cases hother : otherScope (stripOr tenantId "public") (stripOr companyId "ekaette-electronics")
      (campaigns.get? resolved) with
  | true =>
    -- the id belongs to another scope: a fresh one is built
    simp only [hother, if_true, Prod.mk.injEq] at h
    obtain ⟨rfl, rfl⟩ := h
    refine ⟨newCampaign_campaignId _ _ _ _ _ _ _, newCampaign_scope _ _ _ _ _ _ _, ?_⟩
    intro old hold
    rw [hunused] at hold
    cases hold
  | false =>
    simp only [hother, Bool.false_eq_true, if_false] at h
    have hscope : ∀ old, campaigns.get? resolved = some old →
        old.scope = requestedScope tenantId companyId :=
      fun old hold => scope_of_not_otherScope hother hold
    cases hexisting : campaigns.get? resolved with
    | none =>
      simp only [hexisting, Prod.mk.injEq] at h
      obtain ⟨rfl, rfl⟩ := h
      exact ⟨newCampaign_campaignId _ _ _ _ _ _ _, newCampaign_scope _ _ _ _ _ _ _, hscope⟩
    | some existing =>
      simp only [hexisting, Prod.mk.injEq] at h
      obtain ⟨rfl, rfl⟩ := h
      exact ⟨hkeyed resolved existing hexisting, hscope existing hexisting, hscope⟩

theorem updateRecipientIndex_entries (tenantId companyId campaignId : String)
    (recipients : List String) (index : Dict (String × String × String) String)
    {key : String × String × String} {id : String}
    (h : (updateRecipientIndex py tenantId companyId recipients campaignId index).get? key =
      some id) :
    index.get? key = some id ∨ (id = campaignId ∧ indexedScope key = (tenantId, companyId)) := by
  induction recipients generalizing index with
  | nil => exact .inl h
  | cons recipient recipients ih =>
    rw [updateRecipientIndex, List.foldl_cons, ← updateRecipientIndex] at h
    rcases ih _ h with hstep | hnew
    · split_ifs at hstep with hempty
      · exact .inl hstep
      · rw [Dict.get?_set] at hstep
        split_ifs at hstep with hkey
        · rw [hkey, ← Option.some.inj hstep]
          exact .inr ⟨rfl, rfl⟩
        · exact .inl hstep
    · exact .inr hnew

/-! ## One call -/

/-- The campaigns are filed under their ids, and the recipient index under the scope of its
    campaigns. -/
structure ScopesSound (s : Analytics) : Prop where
  keyed : KeyedByCampaignId s.campaigns
  indexed : OwnedTable.IndexSound CampaignState.scope indexedScope s.recipientLastCampaign
    s.campaigns

theorem scopesSound_empty : ScopesSound .empty where
  keyed := by
    intro id state h
    cases h
  indexed := OwnedTable.indexSound_empty _ _ _

section Call

variable {scope : String × String} {s s' : Analytics} {id : String} {state : CampaignState}

theorem BooksOn.onlyRowsOf (h : BooksOn scope s s' id state) :
    OwnedTable.OnlyRowsOf CampaignState.scope scope s.campaigns s'.campaigns := by
  rw [h.campaigns]
  exact OwnedTable.onlyRowsOf_set h.ofScope h.held

theorem BooksOn.scopesSound (h : BooksOn scope s s' id state) (hs : ScopesSound s) :
    ScopesSound s' := by
  constructor
  · intro id' state' hget
    rw [h.campaigns, Dict.get?_set] at hget
    split_ifs at hget with hid
    · rw [hid, ← Option.some.inj hget]
      exact h.campaignId
    · exact hs.keyed id' state' hget
  · rw [h.campaigns]
    exact (hs.indexed.set h.ofScope h.held).extend (Dict.get?_set_self _ _ _) h.index

variable (py : StrMethods) (env : AnalyticsEnv) (recordedAt : String)

theorem recordOutboundCampaign_booksOn (call : OutboundCampaignCall) (hs : ScopesSound s)
    (hfresh : s.campaigns.contains env.rebuiltId = false) :
    ∃ id state, BooksOn (requestedScope call.tenantId call.companyId) s
      (recordOutboundCampaign py env recordedAt call s).1 id state := by
  unfold recordOutboundCampaign
  generalize hensured : ensureCampaign py env call.channel call.tenantId call.companyId call.message
    call.campaignId call.campaignName s.campaigns = ensured
  obtain ⟨id, state⟩ := ensured
  obtain ⟨hid, hscope, hheld⟩ := ensureCampaign_scope py env _ _ _ _ _ _ hs.keyed hfresh hensured
  refine ⟨id, _, rfl, hid, hscope, hheld, ?_⟩
  intro key id' hget
  rcases updateRecipientIndex_entries py _ _ _ _ _ hget with hold | ⟨hid', hkey⟩
  · exact .inl hold
  · exact .inr ⟨hid'.trans hid, hkey⟩

theorem recordInboundReply_booksOn (call : InboundReplyCall) (hs : ScopesSound s)
    (hfresh : s.campaigns.contains env.rebuiltId = false) :
    (recordInboundReply py env recordedAt call s).1 = s ∨
      ∃ id state, BooksOn (requestedScope call.tenantId call.companyId) s
        (recordInboundReply py env recordedAt call s).1 id state := by
  unfold recordInboundReply
  by_cases hrecipient : normalizeRecipient py call.recipient = ""
  · rw [if_pos hrecipient]
    exact .inl rfl
  by_cases hreplied : repliedCampaign py call s = ""
  · rw [if_neg hrecipient, if_pos hreplied]
    exact .inl rfl
  rw [if_neg hrecipient, if_neg hreplied]
  right
  generalize hensured : ensureCampaign py env call.channel call.tenantId call.companyId ""
    (some (repliedCampaign py call s)) none s.campaigns = ensured
  obtain ⟨id, state⟩ := ensured
  obtain ⟨hid, hscope, hheld⟩ := ensureCampaign_scope py env _ _ _ _ _ _ hs.keyed hfresh hensured
  exact ⟨id, _, rfl, hid, hscope, hheld, fun key id' hget => .inl hget⟩

theorem count_identity (state : CampaignState) (eventType : String) (amountKobo : Option ℤ) :
    (state.count eventType amountKobo).campaignId = state.campaignId ∧
      (state.count eventType amountKobo).tenantId = state.tenantId ∧
      (state.count eventType amountKobo).companyId = state.companyId := by
  unfold CampaignState.count
  split_ifs <;> exact ⟨rfl, rfl, rfl⟩

theorem recordEvent_booksOn (call : RecordEventCall) (hs : ScopesSound s)
    (hfresh : s.campaigns.contains env.rebuiltId = false) :
    (recordEvent py env call s).1 = s ∨
      ∃ id state, BooksOn (requestedScope call.tenantId call.companyId) s
        (recordEvent py env call s).1 id state := by
  unfold recordEvent
  generalize eventDeduped call.eventId env.dedupAt s.seenEventIds = deduped
  obtain ⟨seen, duplicate⟩ := deduped
  cases duplicate with
  | true => exact .inl rfl
  | false =>
    right
    generalize hensured : ensureCampaign py env call.channel call.tenantId call.companyId ""
      call.campaignId call.campaignName s.campaigns = ensured
    obtain ⟨id, state⟩ := ensured
    obtain ⟨hid, hscope, hheld⟩ := ensureCampaign_scope py env _ _ _ _ _ _ hs.keyed hfresh hensured
    obtain ⟨hcampaignId, htenant, hcompany⟩ := count_identity { state with updatedAt := env.now }
      (py.lower (PyStr.strip call.eventType)) call.amountKobo
    refine ⟨id, _, rfl, hcampaignId.trans hid, ?_, hheld, ?_⟩
    · rw [CampaignState.scope, htenant, hcompany]
      exact hscope
    · intro key id' hget
      simp only [Bool.false_eq_true, if_false] at hget
      split_ifs at hget with hrecipient
      · exact .inl hget
      · rw [Dict.get?_set] at hget
        split_ifs at hget with hkey
        · rw [hkey, ← Option.some.inj hget]
          exact .inr ⟨hcampaignId.trans hid, rfl⟩
        · exact .inl hget

/-- **A call books on a campaign of its scope**, or changes nothing. -/
theorem campaignCall_booksOn (e : CampaignEvent) (hs : ScopesSound s)
    (hfresh : s.campaigns.contains e.env.rebuiltId = false) :
    (campaignMachine py).next s e = s ∨
      ∃ id state, BooksOn e.call.scope s ((campaignMachine py).next s e) id state := by
  obtain ⟨call, env, recordedAt⟩ := e
  cases call with
  | outbound call => exact .inr (recordOutboundCampaign_booksOn py env recordedAt call hs hfresh)
  | reply call => exact recordInboundReply_booksOn py env recordedAt call hs hfresh
  | event call => exact recordEvent_booksOn py env call hs hfresh

theorem campaignCall_onlyRowsOf (e : CampaignEvent) (hs : ScopesSound s)
    (hfresh : s.campaigns.contains e.env.rebuiltId = false) :
    OwnedTable.OnlyRowsOf CampaignState.scope e.call.scope s.campaigns
      ((campaignMachine py).next s e).campaigns := by
  rcases campaignCall_booksOn py e hs hfresh with hsame | ⟨id, state, hbooks⟩
  · rw [hsame]
    exact OwnedTable.onlyRowsOf_refl _ _ _
  · exact hbooks.onlyRowsOf

theorem campaignCall_scopesSound (e : CampaignEvent) (hs : ScopesSound s)
    (hfresh : s.campaigns.contains e.env.rebuiltId = false) :
    ScopesSound ((campaignMachine py).next s e) := by
  rcases campaignCall_booksOn py e hs hfresh with hsame | ⟨id, state, hbooks⟩
  · rw [hsame]
    exact hs
  · exact hbooks.scopesSound hs

end Call

/-! ## Any sequence of calls -/

/-- Every campaign id a call builds is unused when it builds it. -/
def FreshCampaignIds (py : StrMethods) (es : List CampaignEvent) : Prop :=
  ∀ t ∈ (campaignMachine py).trace .empty es, t.pre.campaigns.contains t.event.env.rebuiltId = false

theorem scopesSound_always (py : StrMethods) {es : List CampaignEvent}
    (hfresh : FreshCampaignIds py es) : (campaignMachine py).Always ScopesSound .empty es :=
  (campaignMachine py).always_of_guarded
    (G := fun s e => s.campaigns.contains e.env.rebuiltId = false)
    (fun _ e hs hunused => campaignCall_scopesSound py e hs hunused) scopesSound_empty hfresh

/-- **Campaigns are isolated by scope.** Whatever calls are made, each leaves the campaigns of every
    other scope as they are, and an entry of the recipient index always names an existing campaign
    of the scope it is filed under. -/
theorem campaign_isolation (py : StrMethods) {es : List CampaignEvent}
    (hfresh : FreshCampaignIds py es) : (∀ t ∈ (campaignMachine py).trace .empty es, ∀ id state,
      state.scope ≠ t.event.call.scope →
      (((campaignMachine py).next t.pre t.event).campaigns.get? id = some state ↔
        t.pre.campaigns.get? id = some state)) ∧
    (campaignMachine py).Always (fun s => ∀ tenant company recipient id,
      s.recipientLastCampaign.get? (tenant, company, recipient) = some id →
        ∃ state, s.campaigns.get? id = some state ∧ state.scope = (tenant, company)) .empty es := by
  have halways := scopesSound_always py hfresh
  constructor
  · intro t ht
    exact campaignCall_onlyRowsOf py t.event (halways.pre _ ht) (hfresh t ht)
  · refine halways.imp _ ?_
    intro s hs tenant company recipient id hget
    exact hs.indexed (tenant, company, recipient) id hget

/-- Two companies name the same campaign, and the first hears from its recipient. -/
def sharedIdRun : List CampaignEvent :=
  [⟨.outbound ⟨"sms", "public", "acme", ["+100"], "hello", [], some "launch", none⟩,
      ⟨0, "built-1", "rebuilt-1", "t1"⟩, "t1"⟩,
    ⟨.outbound ⟨"sms", "public", "other", ["+100"], "hi", [], some "launch", none⟩,
      ⟨0, "built-2", "rebuilt-2", "t2"⟩, "t2"⟩,
    ⟨.reply ⟨"sms", "public", "acme", "+100", none⟩, ⟨0, "built-3", "rebuilt-3", "t3"⟩, "t3"⟩]

theorem sharedIdRun_fresh : FreshCampaignIds .ascii sharedIdRun := by
  have hall : ((campaignMachine .ascii).trace .empty sharedIdRun).all (fun t =>
      !t.pre.campaigns.contains t.event.env.rebuiltId) = true := by
    decide +kernel
  intro t ht
  have hunused := List.all_eq_true.1 hall t ht
  rwa [Bool.not_eq_true'] at hunused

/-- The second company gets a campaign of its own, and the reply is counted on the first one. -/
theorem sharedIdRun_isolated :
    (∃ state, ((campaignMachine .ascii).run .empty sharedIdRun).campaigns.get? "launch" =
      some state ∧ state.scope = ("public", "acme") ∧ state.repliesTotal = 1) ∧
    ∃ state, ((campaignMachine .ascii).run .empty sharedIdRun).campaigns.get? "rebuilt-2" =
      some state ∧ state.scope = ("public", "other") := by
  have hindex := (campaign_isolation .ascii sharedIdRun_fresh).2.run
  have hlaunch : (((campaignMachine .ascii).run .empty sharedIdRun).campaigns.get? "launch").map
      CampaignState.repliesTotal = some 1 := by
    decide +kernel
  obtain ⟨launch, hget, hscope⟩ := hindex "public" "acme" "+100" "launch" (by decide +kernel)
  obtain ⟨rebuilt, hget', hscope'⟩ := hindex "public" "other" "+100" "rebuilt-2" (by decide +kernel)
  refine ⟨⟨launch, hget, hscope, ?_⟩, rebuilt, hget', hscope'⟩
  rw [hget, Option.map_some] at hlaunch
  exact Option.some.inj hlaunch

end Ekaette
