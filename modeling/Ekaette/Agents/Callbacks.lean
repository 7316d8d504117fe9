import Ekaette.Agents.Dedup
import Ekaette.Agents.Telemetry
import Ekaette.Realtime.RevokedCapabilities
import Ekaette.Realtime.ServerMessages

set_option autoImplicit false

/-! # The callbacks of the agents

`app/agents/callbacks.py`: what runs before an agent and before a tool may refuse it, what runs
after a tool queues a message for the client. A callback that raises leaves what it wrote before.
What a callback only logs is left out, and so is the text that `before_model_inject_config` puts
before a model. -/

namespace Ekaette

/-! ## Refusals -/

/-- A string that is not empty. -/
def nonEmptyStr? (v : PyValue) : Option String := v.str?.filter (· ≠ "")

/-- `_industry_scope_label`. -/
def industryScopeLabel (state : Record) : String :=
  let templateId := (state.value "app:industry_template_id").coerceStr
  let industry := (state.value "app:industry").coerceStr
  if templateId ≠ "" then templateId else if industry ≠ "" then industry else "current"

/-- `_agent_not_enabled_message`. -/
def agentNotEnabledMessage (scopeLabel agentName : String) : String :=
  "This " ++ scopeLabel ++ " session is isolated and cannot switch to '" ++ agentName ++
    "'. I can only use the agents enabled for the current industry."

/-- `_agent_not_enabled_payload`. -/
def agentNotEnabledPayload (state : Record) (agentName : String) (allowedAgents : List String) :
    Record :=
  Dict.ofList ([("type", .str "error"), ("code", .str "AGENT_NOT_ENABLED"),
      ("message", .str (agentNotEnabledMessage (industryScopeLabel state) agentName)),
      ("agentName", .str agentName), ("allowedAgents", .list (allowedAgents.map .str))] ++
    ((nonEmptyStr? (state.value "app:tenant_id")).map fun tenant =>
      ("tenantId", .str tenant)).toList ++
    ((nonEmptyStr? (state.value "app:industry_template_id")).map fun id =>
      ("industryTemplateId", .str id)).toList)

/-- `_requested_transfer_agent_name`. -/
def requestedTransferAgentName (args : Record) : Option String :=
  some (args.getD "agent_name" (args.value "agentName")).coerceStr |>.filter (· ≠ "")

def transferPrefix : String := "transfer_to_"

/-- `_is_transfer_tool_name`. -/
def isTransferToolName (toolName : String) : Bool :=
  toolName = "transfer_to_agent" || transferPrefix.toList.isPrefixOf toolName.toList

/-- `_tool_transfer_target_agent_name`. -/
def toolTransferTargetAgentName (toolName : String) (args : Record) : Option String :=
  if !isTransferToolName toolName then none
  else match requestedTransferAgentName args with
    | some requested => some requested
    | none =>
      if transferPrefix.toList.isPrefixOf toolName.toList then
        some (PyStr.strip (String.ofList (toolName.toList.drop transferPrefix.length))) |>.filter
          (· ∈ knownSubAgentNames)
      else none

/-! ## Before an agent -/

variable (ctx : StreamContext)

/-- `queue_server_message` on the state that the callbacks see, and whether it raises. -/
def queueMessage (state : Record) (payload : Record) : Record × Bool :=
  match queueServerMessage ctx ⟨state, Dict.empty⟩ payload with
  | .ok (session, _) => (session.value, false)
  | .error _ => (state, true)

/-- What comes of the invocation of an agent. -/
inductive AgentAnswer where
  | runs
  /-- the content of `_agent_not_enabled_content` -/
  | notEnabled (text : String)
  /-- the content of `dedup_before_agent` -/
  | suppressed
  | raised
  deriving DecidableEq

/-- `before_agent_isolation_guard`; `runs` stands for `None`. -/
def beforeAgentIsolationGuard (state : Record) (agentName : String) : Record × AgentAnswer :=
  if agentName = rootAgentName then (state, .runs)
  else match resolveEnabledAgentsFromState ctx.py state with
    | none => (state, .runs)
    | some enabledAgents =>
      if agentName ∈ enabledAgents then (state, .runs)
      else match queueMessage ctx state (agentNotEnabledPayload state agentName enabledAgents) with
        | (state, true) => (state, .raised)
        | (state, false) =>
          (state, .notEnabled (agentNotEnabledMessage (industryScopeLabel state) agentName))

/-- `before_agent_isolation_guard_and_dedup`. -/
def beforeAgentIsolationGuardAndDedup (lib : DedupLib) (state : Record) (c : DedupCall) :
    Record × AgentAnswer :=
  match beforeAgentIsolationGuard ctx state c.agent with
  | (state, .runs) =>
    let (state, suppressed) := dedupBeforeAgent lib state c
    (state, if suppressed then .suppressed else .runs)
  | blocked => blocked

/-! ## Before a tool -/

variable (py : StrMethods)

/-- `before_tool_agent_transfer_guard`: `None` lets the call through. -/
def beforeToolAgentTransferGuard (state : Record) (toolName : String)
    (args : Record) : Option PyValue :=
  match toolTransferTargetAgentName toolName args with
  | none => none
  | some targetAgent =>
    match resolveEnabledAgentsFromState py state with
    | none => none
    | some enabledAgents =>
      if targetAgent ∈ enabledAgents then none
      else some (.dict (((agentNotEnabledPayload state targetAgent enabledAgents).set "error"
        (.str "agent_not_enabled")).set "tool" (.str toolName)).entries)

/-- `before_tool_capability_guard_and_log`. -/
def beforeToolCapabilityGuardAndLog (state : Record) (toolName : String)
    (args : Record) : Option PyValue :=
  match beforeToolAgentTransferGuard py state toolName args with
  | some blocked => some blocked
  | none => beforeToolCapabilityGuard state toolName

/-! ## After a tool -/

/-- The payload with those of the keys that the result has. -/
def copyKeys (result : Record) (keys : List String) (payload : Record) : Record :=
  keys.foldl (fun payload key => (result.get? key).elim payload (payload.set key)) payload

/-- `_tool_error_server_message`. -/
def toolErrorServerMessage (result : Record) : Record :=
  let code := (result.value "code").coerceStr
  let errorRaw := result.value "error"
  if code ≠ "" then
    let given := (result.value "message").coerceStr
    let message := if given ≠ "" then given else (errorRaw.orElse (.str "Tool error")).toStr py
    copyKeys result ["agentName", "allowedAgents", "tenantId", "industryTemplateId", "tool",
      "required"] (.ofList [("type", .str "error"), ("code", .str code), ("message", .str message)])
  else if errorRaw.eqStr "capability_not_enabled" then
    copyKeys result ["tool", "required"]
      (.ofList [("type", .str "error"), ("code", .str "CAPABILITY_NOT_ENABLED"),
        ("message", .str "This action is not enabled for the current session.")])
  else .ofList [("type", .str "error"), ("code", .str "TOOL_ERROR"),
    ("message", .str (errorRaw.toStr py))]

/-- `_format_product_description`. -/
def formatProductDescription (product : Record) : String :=
  match product.value "features" with
  | .list (feature :: features) =>
    ", ".intercalate (((feature :: features).take 3).map (·.toStr py))
  | _ => (product.value "description").str?.getD ""

/-- The price of a product as it is sent; only an infinity raises. -/
def productPrice : PyValue → Except Unit PyValue
  | .str s => .ok (.str s)
  | .int n => .ok (.int n)
  | .bool b => .ok (.int (if b then 1 else 0))
  | .float x =>
    match (PyValue.float x).toInt py with
    | .ok n => .ok (.int n)
    | .error .overflowError => .error ()
    | .error _ => .ok (.int 0)
  | _ => .ok (.int 0)

/-- A product as it is recommended. -/
def productMessage (item : Record) : Except Unit PyValue := do
  let price ← productPrice py (item.getD "price" (.int 0))
  return .dict [("name", item.getD "name" (.str "Unknown")), ("price", price),
    ("currency", item.getD "currency" (.str "NGN")),
    ("available", .bool (item.getD "in_stock" (.bool false)).truthy),
    ("description", .str (formatProductDescription py item))]

variable (state result : Record)

/-- After `analyze_device_image_tool`. -/
def emitAnalysis : Record × Bool :=
  let state := state.set "temp:last_analysis"
    (.dict [("device_name", result.getD "device_name" (.str "Unknown")),
    ("condition", result.getD "condition" (.str "Unknown")),
    ("details", result.getD "details" (.dict []))])
  queueMessage ctx state (.ofList ([("type", .str "image_received"), ("status", .str "complete")] ++
    ((nonEmptyStr? (result.value "gcs_uri")).map fun uri =>
      ("previewUrl", PyValue.str uri)).toList))

/-- After `get_device_questionnaire_tool`. -/
def emitQuestionnaire : Record × Bool :=
  let questionCount : ℤ := match result.getD "questions" (.list []) with
    | .list questions => questions.length
    | _ => 0
  queueMessage ctx state (.ofList [("type", .str "questionnaire_started"),
    ("questionCount", .int questionCount)])

/-- After `grade_and_value_tool`. -/
def emitValuation : Record × Bool :=
  match ((result.value "offer_amount").orElse (.int 0)).toInt ctx.py with
  | .error _ => (state, true)
  | .ok offerAmount =>
    let message := Dict.ofList [("type", .str "valuation_result"),
      ("deviceName", result.getD "device_name" (.str "Unknown")),
      ("condition", result.getD "grade" (.str "Fair")),
      ("price", .int offerAmount), ("currency", result.getD "currency" (.str "NGN")),
      ("details", result.getD "summary" (.str "")), ("negotiable", .bool (0 < offerAmount))]
    let message := (result.get? "original_vision_grade").elim message (message.set "originalGrade")
    queueMessage ctx (state.set "temp:last_offer_amount" (.int offerAmount))
      (copyKeys result ["adjustments"] message)

/-- After `create_booking`. -/
def emitBooking : Record × Bool :=
  queueMessage ctx state (.ofList [("type", .str "booking_confirmation"),
    ("confirmationId", result.getD "confirmation_id" (.str "")),
    ("date", result.getD "date" (.str "")),
    ("time", result.getD "time" (.str "")), ("location", result.getD "location" (.str "")),
    ("service", result.getD "service_type" (.str ""))])

/-- After `search_catalog`. -/
def emitProducts : Record × Bool :=
  match result.value "products" with
  | .list products =>
    match ((products.take 3).filterMap PyValue.dict?).mapM (fun item =>
        productMessage ctx.py (.ofList item)) with
    | .error _ => (state, true)
    | .ok messages =>
      queueMessage ctx state (.ofList [("type", .str "product_recommendation"),
        ("products", .list messages)])
  | _ => (state, false)

/-- What `after_tool_emit_messages` does with a dictionary. -/
def emitMessages (state : Record) (toolName : String) (result : Record) : Record × Bool :=
  if (result.value "error").truthy then queueMessage ctx state
    (toolErrorServerMessage ctx.py result)
  else if toolName = "analyze_device_image_tool" then emitAnalysis ctx state result
  else if toolName = "get_device_questionnaire_tool" then emitQuestionnaire ctx state result
  else if toolName = "grade_and_value_tool" then emitValuation ctx state result
  else if toolName = "create_booking" then emitBooking ctx state result
  else if toolName = "search_catalog" then emitProducts ctx state result
  else (state, false)

/-- `after_tool_emit_messages`: the state it leaves, and whether it raises. -/
def afterToolEmitMessages (state : Record) (toolName : String) (toolResponse result : PyValue) :
    Record × Bool :=
  match toolResponse.dict?.or result.dict? with
  | none => (state, false)
  | some effectiveResult => emitMessages ctx state toolName (.ofList effectiveResult)

/-- `on_tool_error_emit`. -/
def onToolErrorEmit (state : Record) (toolName : String) : Record × Bool :=
  queueMessage ctx state (.ofList [("type", .str "error"), ("code", .str "TOOL_EXCEPTION"),
    ("message", .str (toolName ++ " failed. Please try again."))])

/-! ## After a model -/

/-- `_response_text`, from the texts of the parts. -/
def responseText (parts : List (Option String)) : String :=
  PyStr.strip (" ".intercalate (parts.filterMap fun text => text.filter (· ≠ "")))

/-- `after_model_valuation_sanity`, as far as it writes. -/
def afterModelValuationSanity (state : Record) (parts : List (Option String)) : Record :=
  if responseText parts ≠ "" && !(state.value "temp:greeted").truthy then state.set "temp:greeted"
    (.bool true)
  else state

/-! ## What the callbacks write -/

/-- The second state differs from the first in the given keys only. -/
def SameBut (keys : List String) (state state' : Record) : Prop :=
  ∀ key ∉ keys, state'.value key = state.value key

namespace SameBut

variable {keys keys' : List String} {s t u : Record}

theorem refl (keys : List String) (s : Record) : SameBut keys s s := fun _ _ => rfl

theorem trans (hst : SameBut keys s t) (htu : SameBut keys t u) : SameBut keys s u :=
  fun key hkey => (htu key hkey).trans (hst key hkey)

theorem mono (h : SameBut keys s t) (hsub : keys ⊆ keys') : SameBut keys' s t :=
  fun key hkey => h key fun hmem => hkey (hsub hmem)

theorem set (s : Record) {key : String} (v : PyValue) (h : key ∈ keys) :
    SameBut keys s (s.set key v) := by
  intro key' hkey'
  rw [Record.value_set, if_neg]
  rintro rfl
  exact hkey' h

theorem sameGuardKeys (h : SameBut keys s t) (hkeys : ∀ key ∈ guardKeys, key ∉ keys) :
    SameGuardKeys s t :=
  fun key hkey => h key (hkeys key hkey)

end SameBut

/-- The keys of the message slot. -/
def messageKeys : List String := ["temp:server_message_seq", "temp:last_server_message"]

/-- The keys that the callbacks of models and tools write. -/
def callbackKeys : List String :=
  messageKeys ++ ["temp:last_analysis", "temp:last_offer_amount", "temp:greeted",
    "temp:last_image_artifact_id"]

theorem queueMessage_sameBut (state payload : Record) :
    SameBut messageKeys state (queueMessage ctx state payload).1 := by
  unfold queueMessage queueServerMessage
  split
  · rename_i session id hqueued
    split at hqueued
    · exact absurd hqueued nofun
    · obtain ⟨rfl, -⟩ := Prod.mk.inj (Except.ok.inj hqueued)
      exact (SameBut.set state _ (by decide)).trans (SameBut.set _ _ (by decide))
  · exact SameBut.refl _ _

theorem queueMessage_callbackKeys (state payload : Record) :
    SameBut callbackKeys state (queueMessage ctx state payload).1 :=
  (queueMessage_sameBut ctx state payload).mono (List.subset_append_left _ _)

theorem beforeAgentIsolationGuard_sameBut (state : Record) (agentName : String) :
    SameBut messageKeys state (beforeAgentIsolationGuard ctx state agentName).1 := by
  unfold beforeAgentIsolationGuard
  split
  · exact SameBut.refl _ _
  · split
    · exact SameBut.refl _ _
    · rename_i enabledAgents henabled
      split
      · exact SameBut.refl _ _
      · have hqueued :=
          queueMessage_sameBut ctx state (agentNotEnabledPayload state agentName enabledAgents)
        split
        · rename_i hqueue
          rw [hqueue] at hqueued
          exact hqueued
        · rename_i hqueue
          rw [hqueue] at hqueued
          exact hqueued

theorem dedupBeforeAgent_sameBut (lib : DedupLib) (state : Record) (c : DedupCall) :
    SameBut dedupKeys state (dedupBeforeAgent lib state c).1 := by
  unfold dedupBeforeAgent
  split_ifs
  · exact SameBut.refl _ _
  · exact SameBut.refl _ _
  · exact (((SameBut.set state _ (by decide)).trans (SameBut.set _ _ (by decide))).trans
      (SameBut.set _ _ (by decide))).trans (SameBut.set _ _ (by decide))

theorem beforeAgentIsolationGuardAndDedup_sameBut (lib : DedupLib) (state : Record)
    (c : DedupCall) : SameBut (messageKeys ++ dedupKeys) state
    (beforeAgentIsolationGuardAndDedup ctx lib state c).1 := by
  have hguard := beforeAgentIsolationGuard_sameBut ctx state c.agent
  unfold beforeAgentIsolationGuardAndDedup
  split
  · rename_i guarded hrun
    rw [hrun] at hguard
    exact (hguard.mono (List.subset_append_left _ _)).trans
      ((dedupBeforeAgent_sameBut lib guarded c).mono (List.subset_append_right _ _))
  · exact hguard.mono (List.subset_append_left _ _)

theorem emitAnalysis_sameBut (state result : Record) :
    SameBut callbackKeys state (emitAnalysis ctx state result).1 :=
  (SameBut.set state _ (by decide)).trans (queueMessage_callbackKeys ctx _ _)

theorem emitValuation_sameBut (state result : Record) :
    SameBut callbackKeys state (emitValuation ctx state result).1 := by
  unfold emitValuation
  split
  · exact SameBut.refl _ _
  · exact (SameBut.set state _ (by decide)).trans (queueMessage_callbackKeys ctx _ _)

theorem emitProducts_sameBut (state result : Record) :
    SameBut callbackKeys state (emitProducts ctx state result).1 := by
  unfold emitProducts
  split
  · split
    · exact SameBut.refl _ _
    · exact queueMessage_callbackKeys ctx _ _
  · exact SameBut.refl _ _

theorem afterToolEmitMessages_sameBut (state : Record) (toolName : String)
    (toolResponse result : PyValue) : SameBut callbackKeys state
    (afterToolEmitMessages ctx state toolName toolResponse result).1 := by
  unfold afterToolEmitMessages
  split
  · exact SameBut.refl _ _
  · unfold emitMessages
    split_ifs
    · exact queueMessage_callbackKeys ctx _ _
    · exact emitAnalysis_sameBut ctx _ _
    · exact queueMessage_callbackKeys ctx _ _
    · exact emitValuation_sameBut ctx _ _
    · exact queueMessage_callbackKeys ctx _ _
    · exact emitProducts_sameBut ctx _ _
    · exact SameBut.refl _ _

theorem afterModelValuationSanity_sameBut (state : Record) (parts : List (Option String)) :
    SameBut callbackKeys state (afterModelValuationSanity state parts) := by
  unfold afterModelValuationSanity
  split_ifs
  · exact SameBut.set state _ (by decide)
  · exact SameBut.refl _ _

theorem addCounts_sameBut {py : StrMethods} {prices : TokenPrices} {state written : Record}
    {delta : TokenCounts} (h : addCounts py prices state delta = .ok written) :
    SameBut telemetryKeys state written := by
  unfold addCounts at h
  cases hprompt : stateInt py state promptKey 0 with
  | error e => rw [hprompt] at h; exact absurd h nofun
  | ok prompt =>
    cases hcompletion : stateInt py state completionKey 0 with
    | error e => rw [hprompt, hcompletion] at h; exact absurd h nofun
    | ok completion =>
      cases htotal : stateInt py state totalKey 0 with
      | error e => rw [hprompt, hcompletion, htotal] at h; exact absurd h nofun
      | ok total =>
        cases hcost : stateFloat state costKey (.fin 0) with
        | error e => rw [hprompt, hcompletion, htotal, hcost] at h; exact absurd h nofun
        | ok cost =>
          cases hadded : deltaCost prices delta with
          | error e => rw [hprompt, hcompletion, htotal, hcost, hadded] at h; exact absurd h nofun
          | ok added =>
            rw [hprompt, hcompletion, htotal, hcost, hadded] at h
            obtain rfl := Except.ok.inj h
            exact (((SameBut.set state _ (by decide)).trans (SameBut.set _ _ (by decide))).trans
              (SameBut.set _ _ (by decide))).trans (SameBut.set _ _ (by decide))

theorem telemetryAfterAgent_sameBut (py : StrMethods) (prices : TokenPrices)
    (events : List AgentEvent) (state : Record) :
    SameBut telemetryKeys state (telemetryAfterAgent py prices events state).1 := by
  have hmoved : ∀ n : ℤ, SameBut telemetryKeys state (state.set cursorKey (.int n)) :=
    fun n => SameBut.set state _ (by decide)
  unfold telemetryAfterAgent
  split
  · exact SameBut.refl _ _
  · split
    · exact SameBut.refl _ _
    · dsimp only
      split
      · exact SameBut.refl _ _
      · split
        · exact hmoved _
        · split
          · exact hmoved _
          · rename_i hwritten
            exact (hmoved _).trans (addCounts_sameBut hwritten)

end Ekaette
