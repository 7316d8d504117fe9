import Ekaette.At.PaymentRecords
import Ekaette.Lib.OwnedTable
import Ekaette.Lib.PyNumber

set_option autoImplicit false

/-! # The index of account numbers

`_virtual_account_by_number` files the references of virtual accounts under their numbers, and a
transfer is attributed to the record that the index points to. The index is only added to. It stays
sound exactly as long as no account under an indexed reference gets another number. -/

namespace Ekaette

variable (py : StrMethods)

/-- The number that a virtual-account record holds. -/
def recordNumber (record : Record) : String :=
  normalizeAccountNumber py (record.value "account_number").coerceStr

variable (s : PaymentState)

/-- Every entry of the index points to a record with that number. -/
def NumbersIndexed : Prop :=
  OwnedTable.IndexSound (recordNumber py) id s.virtualAccountByNumber s.virtualAccounts

/-- A transfer is attributed to a record with the number it was paid to. -/
def NumbersAttributed : Prop :=
  ∀ accountNumber record, virtualAccountFromNumber py accountNumber s = some record →
    recordNumber py record = normalizeAccountNumber py accountNumber

theorem NumbersIndexed.attributed {py : StrMethods} {s : PaymentState} (hs : NumbersIndexed py s) :
    NumbersAttributed py s := by
  intro accountNumber record hrecord
  unfold virtualAccountFromNumber at hrecord
  simp only at hrecord
  split_ifs at hrecord with hempty
  split at hrecord
  · cases hrecord
  · next reference hindex =>
      split_ifs at hrecord
      obtain ⟨row, hrow, hnumber⟩ := hs _ reference hindex
      rw [hrow, Option.some.injEq] at hrecord
      rw [← hrecord, hnumber, id]

/-! ## Numbers -/

theorem normalizeAccountNumber_digits {py : StrMethods} {s : String} :
    ∀ c ∈ (normalizeAccountNumber py s).toList, c.isDigit = true ∧ py.isDigit c = true := by
  intro c hc
  unfold normalizeAccountNumber at hc
  simp only at hc
  split_ifs at hc with hnumber
  · rw [String.toList_ofList] at hc
    exact ⟨List.all_eq_true.1 hnumber.2.2 c hc, (List.mem_filter.1 hc).2⟩
  · cases hc

theorem normalizeAccountNumber_twice (s : String) :
    normalizeAccountNumber py (PyStr.strip (normalizeAccountNumber py s)) = normalizeAccountNumber
    py s := by
  have hdigits := @normalizeAccountNumber_digits py s
  have hstrip : PyStr.strip (normalizeAccountNumber py s) = normalizeAccountNumber py s := by
    rw [PyStr.strip, PyInt.stripChars_digits fun c hc => (hdigits c hc).1, String.ofList_toList]
  have hfilter : (normalizeAccountNumber py s).toList.filter py.isDigit =
      (normalizeAccountNumber py s).toList :=
    List.filter_eq_self.2 fun c hc => (hdigits c hc).2
  rw [hstrip]
  generalize hnumber : normalizeAccountNumber py s = number at hdigits hfilter
  unfold normalizeAccountNumber at hnumber ⊢
  simp only at hnumber ⊢
  rw [hfilter, String.ofList_toList]
  split_ifs at hnumber with hgood
  · have hsame : s.toList.filter py.isDigit = number.toList := by
      rw [← hnumber, String.toList_ofList]
    rw [hsame] at hgood
    rw [if_pos hgood]
  · rw [← hnumber, if_neg (by decide)]

/-! ## What a step files -/

/-- A reference is filed under a number, if there is one. -/
def fileNumber (number reference : String) (index : Dict String String) : Dict String String :=
  if number = "" then index else index.set number reference

/-- The index after the payloads are merged into the records of a table. -/
def fileAccounts (now : String) (writes : List RecordWrite)
    (accounts : Dict String Record) (index : Dict String String) : Dict String String :=
  writes.foldl (fun index w =>
    fileNumber (recordNumber py (mergeRecord (accounts.get? w.reference) w.reference w.payload now))
      w.reference index) index

theorem storeVirtualAccount_index (reference : String) (payload : Record)
    (now : String) (s : PaymentState) :
    (storeVirtualAccount py reference payload now s).virtualAccountByNumber =
      fileAccounts py now [⟨reference, payload⟩] s.virtualAccounts s.virtualAccountByNumber := by
  rw [fileAccounts, List.foldl_cons, List.foldl_nil, recordNumber, fileNumber]
  simp only [storeVirtualAccount]

theorem storePayment_index (reference : String) (payload : Record) (now : String)
    (s : PaymentState) : (storePayment reference payload now s).virtualAccountByNumber =
    s.virtualAccountByNumber := rfl

theorem store_index (g : GatewayEvent) (py : StrMethods) (now : String) (s : PaymentState) :
    (g.store py now s).virtualAccountByNumber = fileAccounts py now (g.writes now).virtualAccounts
    s.virtualAccounts
        s.virtualAccountByNumber := by
  unfold GatewayEvent.store GatewayEvent.writes
  generalize g.paymentPayload now = paid
  generalize g.syncPayload now = synced
  generalize g.virtualAccountPayload now = account
  cases g.context.virtualAccountReference with
  | none => rfl
  | some vaReference =>
    by_cases h : vaReference = g.reference
    · simp only [h, ne_eq, not_true_eq_false, if_false]
      rw [storeVirtualAccount_index, storePayment_index, (storePayment_tables _ _ _ _).2]
    · simp only [ne_eq, h, not_false_eq_true, if_true]
      rw [storeVirtualAccount_index, storePayment_index, storePayment_index,
        (storePayment_tables _ _ _ _).2, (storePayment_tables _ _ _ _).2]

theorem processGatewayEvent_index (env : AnalyticsEnv) (payload : JsonObject) (s : PaymentState) :
    (processGatewayEvent py env payload s).1.virtualAccountByNumber =
      fileAccounts py env.now (gatewayWrites py payload env.now s).virtualAccounts s.virtualAccounts
        s.virtualAccountByNumber := by
  unfold processGatewayEvent gatewayWrites
  cases readGatewayEvent py payload s with
  | error e => rfl
  | ok g =>
    cases hcall : g.analyticsCall with
    | none =>
      simp only [hcall]
      exact store_index g py env.now s
    | some call =>
      simp only [hcall, PaymentState.recordEvent]
      exact store_index g py env.now s

theorem settle_index (call : ℕ) (answer : PaymentAnswer) :
    (s.settle call answer).virtualAccountByNumber = s.virtualAccountByNumber := by
  cases answer <;> rfl

theorem recordOption_index (py : StrMethods) (env : AnalyticsEnv) (call : Option RecordEventCall) :
    (s.recordOption py env call).virtualAccountByNumber = s.virtualAccountByNumber := by
  cases call <;> rfl

variable (cfg : PaymentConfig)

theorem continueCall_index (call : PendingCall) (reply : ProviderReply)
    (generated : String) (env : AnalyticsEnv) (s : PaymentState) :
    (continueCall cfg call reply generated env s).1.virtualAccountByNumber =
      fileAccounts cfg.py env.now
      (continueWrites cfg call reply generated env.now s).virtualAccounts s.virtualAccounts
        s.virtualAccountByNumber := by
  cases call with
  | initializeTransaction req reference currency metadata =>
    simp only [continueCall, continueWrites, endInitialize]
    cases checkInitializeReply cfg.py reply with
    | error e => rfl
    | ok data =>
      rw [recordOption_index, storePayment_index]
      rfl
  | customer pending =>
    simp only [continueCall, continueWrites, endCustomer]
    split
    · rfl
    · simp only [customerCodeFromCreateResponse]
      split_ifs
      · rfl
      · rfl
  | dedicated p createMode =>
    simp only [continueCall, continueWrites, endDedicated]
    cases checkDedicatedReply cfg.py reply with
    | error e => rfl
    | ok data =>
      simp only
      split
      · rfl
      · rw [recordOption_index, storePayment_index, storeVirtualAccount_index]
  | verify reference =>
    simp only [continueCall, continueWrites, endVerify]
    cases checkVerifyReply cfg.py reply with
    | error e => rfl
    | ok data =>
      have hindex := processGatewayEvent_index cfg.py env (verifyPayload cfg.py data) s
      simp only
      generalize processGatewayEvent cfg.py env (verifyPayload cfg.py data) s =
        processed at hindex ⊢
      obtain ⟨s', result⟩ := processed
      cases result with
      | error e => exact hindex
      | ok g => exact hindex

variable (s : PaymentState)

/-- **What a step files** are the accounts it stores. -/
theorem next_index (e : PaymentEvent) :
    ((paymentMachine cfg).next s e).virtualAccountByNumber =
      fileAccounts cfg.py e.now (stepWrites cfg s e).virtualAccounts s.virtualAccounts
        s.virtualAccountByNumber := by
  cases e with
  | initializeTransaction call req generated => exact settle_index s call _
  | createVirtualAccount call req generated => exact settle_index s call _
  | verify call reference => exact settle_index s call _
  | reply call reply generated env =>
    simp only [EventMachine.next, paymentMachine]
    cases hcall : s.calls.get? call with
    | none => cases reply <;> simp [stepWrites, hcall, fileAccounts, StepWrites.none]
    | some pending =>
      cases reply with
      | none => exact settle_index s call _
      | some reply =>
        simp only [settle_index, stepWrites, hcall]
        exact continueCall_index cfg pending reply generated env s
  | webhook payload env =>
    simp only [EventMachine.next, paymentMachine]
    have hindex := processGatewayEvent_index cfg.py env payload s
    generalize processGatewayEvent cfg.py env payload s = processed at hindex ⊢
    obtain ⟨s', result⟩ := processed
    cases result with
    | error e => exact hindex
    | ok g => exact hindex
  | manualEvent request env => rfl

/-- The reference and the number of the account that a step provisions. -/
def provisionedAccount : PaymentEvent → Option (String × String)
  | .reply call (some reply) _ _ =>
    match s.calls.get? call with
    | some (.dedicated p _) =>
      match checkDedicatedReply cfg.py reply with
      | .ok data =>
        let number := normalizeAccountNumber cfg.py
          (PyStr.strip (extractVirtualAccountPayload cfg.py data).accountNumber)
        if number = "" then none else some (p.reference, number)
      | .error _ => none
    | _ => none
  | _ => none

/-- No other number is indexed under the reference of the account that a step provisions. -/
def ProvisionsOnce (e : PaymentEvent) : Prop :=
  ∀ reference number, provisionedAccount cfg s e = some (reference, number) →
    ∀ indexed, s.virtualAccountByNumber.get? indexed = some reference → indexed = number

/-- A step stores no virtual account, or merges a payload without a number into one, or the account
    that it provisions. -/
inductive AccountWrite (cfg : PaymentConfig) (s : PaymentState) (e : PaymentEvent) : Prop where
  | nothing (hwrites : (stepWrites cfg s e).virtualAccounts = [])
    (hprovisioned : provisionedAccount cfg s e = none)
  | unnumbered (w : RecordWrite) (hwrites : (stepWrites cfg s e).virtualAccounts = [w])
      (hpayload : w.payload.get? "account_number" = none)
      (hprovisioned : provisionedAccount cfg s e = none)
  | provisioned (w : RecordWrite) (number : String)
    (hwrites : (stepWrites cfg s e).virtualAccounts = [w])
      (hpayload : w.payload.get? "account_number" = some (.str number))
      (hnumber : normalizeAccountNumber cfg.py (PyStr.strip number) = number) (hne : number ≠ "")
      (hprovisioned : provisionedAccount cfg s e = some (w.reference, number))

theorem gatewayWrites_accounts (payload : JsonObject) (now : String)
    (s : PaymentState) : (gatewayWrites py payload now s).virtualAccounts = [] ∨
      ∃ w, (gatewayWrites py payload now s).virtualAccounts = [w] ∧
      w.payload.get? "account_number" = none := by
  unfold gatewayWrites
  cases readGatewayEvent py payload s with
  | error e => exact .inl rfl
  | ok g =>
    simp only [GatewayEvent.writes]
    cases g.context.virtualAccountReference with
    | none => exact .inl rfl
    | some vaReference =>
      exact .inr ⟨_, rfl, by simp [GatewayEvent.virtualAccountPayload, Dict.ofList]⟩

theorem accountWrite_cases (e : PaymentEvent) :
    AccountWrite cfg s e := by
  cases e with
  | initializeTransaction call req generated => exact .nothing rfl rfl
  | createVirtualAccount call req generated => exact .nothing rfl rfl
  | verify call reference => exact .nothing rfl rfl
  | manualEvent request env => exact .nothing rfl rfl
  | webhook payload env =>
    rcases gatewayWrites_accounts cfg.py payload env.now s with hnone | ⟨w, hwrites, hpayload⟩
    · exact .nothing hnone rfl
    · exact .unnumbered w hwrites hpayload rfl
  | reply call reply generated env =>
    cases reply with
    | none => exact .nothing rfl rfl
    | some reply =>
      cases hcall : s.calls.get? call with
      | none =>
        exact .nothing (by simp [stepWrites, hcall, StepWrites.none])
          (by simp [provisionedAccount, hcall])
      | some pending =>
        have hwrites : (stepWrites cfg s (.reply call (some reply) generated env)).virtualAccounts =
            (continueWrites cfg pending reply generated env.now s).virtualAccounts := by
          rw [stepWrites, hcall]
        cases pending with
        | initializeTransaction req reference currency metadata =>
          refine .nothing (hwrites.trans ?_) (by simp [provisionedAccount, hcall])
          simp only [continueWrites]
          cases checkInitializeReply cfg.py reply <;> rfl
        | customer pending => exact .nothing hwrites (by simp [provisionedAccount, hcall])
        | verify reference =>
          have hprovisioned : provisionedAccount cfg s (.reply call (some reply) generated env) =
              none := by
            simp [provisionedAccount, hcall]
          simp only [continueWrites] at hwrites
          cases hreply : checkVerifyReply cfg.py reply with
          | error e =>
            rw [hreply] at hwrites
            exact .nothing hwrites hprovisioned
          | ok data =>
            rw [hreply] at hwrites
            rcases gatewayWrites_accounts cfg.py (verifyPayload cfg.py data) env.now s with
              hnone | ⟨w, hw, hpayload⟩
            · exact .nothing (hwrites.trans hnone) hprovisioned
            · exact .unnumbered w (hwrites.trans hw) hpayload hprovisioned
        | dedicated p createMode =>
          simp only [continueWrites] at hwrites
          cases hreply : checkDedicatedReply cfg.py reply with
          | error e =>
            rw [hreply] at hwrites
            exact .nothing hwrites (by simp [provisionedAccount, hcall, hreply])
          | ok data =>
            rw [hreply] at hwrites
            simp only at hwrites
            by_cases hempty : normalizeAccountNumber cfg.py
                (PyStr.strip (extractVirtualAccountPayload cfg.py data).accountNumber) = ""
            · rw [if_pos hempty] at hwrites
              exact .nothing hwrites (by simp [provisionedAccount, hcall, hreply, hempty])
            · rw [if_neg hempty] at hwrites
              refine .provisioned _ _ hwrites ?_ (normalizeAccountNumber_twice cfg.py _) hempty
                (by simp [provisionedAccount, hcall, hreply, hempty])
              simp [PendingVirtualAccount.record, Dict.ofList]

/-! ## The index stays sound -/

theorem fileNumber_cases {number reference i k : String} {index : Dict String String}
    (h : (fileNumber number reference index).get? i = some k) :
    index.get? i = some k ∨ (k = reference ∧ id i = number) := by
  unfold fileNumber at h
  split_ifs at h with hempty
  · exact .inl h
  · by_cases hi : i = number
    · subst hi
      rw [Dict.get?_set_self, Option.some.injEq] at h
      exact .inr ⟨h.symm, rfl⟩
    · rw [Dict.get?_set_of_ne _ _ hi] at h
      exact .inl h

theorem fileNumber_kept {number reference i : String} {index : Dict String String}
    (h : index.get? i = some reference) : (fileNumber number reference index).get? i =
    some reference := by
  unfold fileNumber
  split_ifs
  · exact h
  · by_cases hi : i = number
    · subst hi
      exact Dict.get?_set_self _ _ _
    · rw [Dict.get?_set_of_ne _ _ hi, h]

/-- The number after a merge: the payload's if it has one, the old record's otherwise. -/
theorem recordNumber_merge (existing : Option Record) (w : RecordWrite)
    (now : String) : recordNumber py (mergeRecord existing w.reference w.payload now) =
      normalizeAccountNumber py
        (((w.payload.get? "account_number").or ((existing.getD .empty).get? "account_number")).getD
          .none).coerceStr := by
  rw [recordNumber, Record.value, mergeRecord_get? existing w.reference w.payload now (by decide)
    (by decide)]

theorem numbersIndexed_store_iff {s : PaymentState}
    (hs : NumbersIndexed cfg.py s) (e : PaymentEvent) {w : RecordWrite}
    (hwrites : (stepWrites cfg s e).virtualAccounts = [w]) :
    NumbersIndexed cfg.py ((paymentMachine cfg).next s e) ↔
      ∀ i, s.virtualAccountByNumber.get? i = some w.reference →
        id i = recordNumber cfg.py (mergeRecord (s.virtualAccounts.get? w.reference) w.reference
          w.payload e.now) := by
  rw [NumbersIndexed, next_index, (next_tables cfg s e).2, hwrites, applyWrites, fileAccounts]
  simp only [List.foldl_cons, List.foldl_nil]
  exact hs.store_iff (fun i k' hi => fileNumber_cases hi) fun i hi => fileNumber_kept hi

/-- **Step lemma**, exactly. -/
theorem numbersIndexed_next_iff {s : PaymentState}
    (hs : NumbersIndexed cfg.py s) (e : PaymentEvent) :
    NumbersIndexed cfg.py ((paymentMachine cfg).next s e) ↔ ProvisionsOnce cfg s e := by
  rcases accountWrite_cases cfg s e with ⟨hwrites, hnone⟩ | ⟨w, hwrites, hpayload, hnone⟩ |
    ⟨w, number, hwrites, hpayload, hnumber, -, hprovisioned⟩
  · have hquiet : ProvisionsOnce cfg s e := by
      intro reference number hsome
      rw [hnone] at hsome
      cases hsome
    rw [NumbersIndexed, next_index, (next_tables cfg s e).2, hwrites]
    exact iff_of_true hs hquiet
  · have hquiet : ProvisionsOnce cfg s e := by
      intro reference number hsome
      rw [hnone] at hsome
      cases hsome
    rw [numbersIndexed_store_iff cfg hs e hwrites]
    refine iff_of_true (fun i hi => ?_) hquiet
    -- the record keeps the number that the index has for it
    obtain ⟨row, hrow, hnumber⟩ := hs i w.reference hi
    rw [recordNumber_merge, hpayload, hrow, ← hnumber]
    rfl
  · have hmerged : recordNumber cfg.py
        (mergeRecord (s.virtualAccounts.get? w.reference) w.reference w.payload e.now) =
        number := by
      rw [recordNumber_merge, hpayload]
      exact hnumber
    rw [numbersIndexed_store_iff cfg hs e hwrites, hmerged, ProvisionsOnce, hprovisioned]
    constructor
    · intro hindexed reference number' hsome i hi
      obtain ⟨rfl, rfl⟩ := Prod.mk.inj (Option.some.inj hsome)
      exact hindexed i hi
    · intro honce i hi
      exact honce w.reference number rfl i hi

/-- **The index is sound exactly while references keep their numbers.** In a run every index entry
    points to a record with its number, and every transfer is attributed to such a record, exactly
    if no account is provisioned under a reference that another number is indexed under. -/
theorem numbersIndexed_always_iff (es : List PaymentEvent) :
    (paymentMachine cfg).Always (fun s => NumbersIndexed cfg.py s ∧ NumbersAttributed cfg.py s)
      .empty es ↔ ∀ t ∈ (paymentMachine cfg).trace .empty es, ProvisionsOnce cfg t.pre t.event := by
  have hboth : ∀ s, (NumbersIndexed cfg.py s ∧ NumbersAttributed cfg.py s) ↔
      NumbersIndexed cfg.py s := fun s =>
    ⟨fun h => h.1, fun h => ⟨h, h.attributed⟩⟩
  refine (paymentMachine cfg).always_iff_guarded (fun s e hs => ?_) ?_ es
  · rw [hboth]
    exact numbersIndexed_next_iff cfg hs.1 e
  · rw [hboth]
    exact OwnedTable.indexSound_empty _ _ _

/-- A virtual account with this number under the reference `acct-0001`. -/
def accountProvisioned (call : ℕ) (accountNumber : String) : List PaymentEvent :=
  [ .createVirtualAccount call {
      email := "ada@example.com", phone := none, preferredBankSlug := none, tenantId := "acme"
      companyId := "acme-phones", campaignId := none, expectedAmountKobo := none, reference :=
      some "acct-0001"
      customerPhone := none, metadata := [] } "ekt-1",
    .reply call (some ⟨200, []⟩) "ekt-2" (envAt 0),
    .reply call (some ⟨200,
      [("status", .bool true), ("data", .dict [("account_number", .str accountNumber)])]⟩)
      "ekt-3" (envAt 0) ]

/-- The reference is provisioned again: the old number is still indexed under it. -/
theorem reprovisioned_misattributed :
    ¬ ∀ (cfg : PaymentConfig) (es : List PaymentEvent),
      (paymentMachine cfg).Always (fun s => NumbersIndexed cfg.py s ∧ NumbersAttributed cfg.py s)
      .empty es := by
  intro h
  have hrun :=
    (h paystackConfig (accountProvisioned 0 "0123456789" ++ accountProvisioned 1 "9876543210")).run
  have hold : (virtualAccountFromNumber .ascii "0123456789"
    ((paymentMachine paystackConfig).run .empty
      (accountProvisioned 0 "0123456789" ++ accountProvisioned 1 "9876543210"))).map
        (recordNumber .ascii) = some "9876543210" := by decide +kernel
  obtain ⟨record, hrecord, hnumber⟩ := Option.map_eq_some_iff.1 hold
  have hsame := hrun.2 "0123456789" record hrecord
  rw [show recordNumber paystackConfig.py record = "9876543210" from hnumber] at hsame
  exact absurd hsame (by decide +kernel)

end Ekaette
