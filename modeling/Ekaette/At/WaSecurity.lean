import Ekaette.Firestore
import Ekaette.Lib.EventMachine
import Ekaette.Lib.PyNumber
import Mathlib.Data.Finset.Basic
import Mathlib.Tactic.Linarith

set_option autoImplicit false

/-! # Service-to-service authentication

`app/api/v1/at/wa_security.py`. A request carries a timestamp, a nonce and an HMAC over both and its
raw body. It passes when the timestamp is within the configured skew of the clock, the HMAC is
right, and the nonce is fresh. Nonces are remembered in process for `_NONCE_TTL` seconds, or created
as documents in Firestore, from which this code never deletes them.

The clock is read before the body has arrived, for the timestamp, and again after it, for the
nonce. -/

namespace Ekaette

/-- Settings, environment and the hash functions. -/
structure ServiceAuthConfig where
  secret : String
  previousSecret : String
  maxSkewSeconds : ℤ
  py : StrMethods
  /-- `os.getenv(name, "")` -/
  getenv : String → String
  /-- `hmac.new(secret, message, sha256).hexdigest()` -/
  hmacSha256Hex : String → String → String
  /-- a hex digest is 64 ASCII characters -/
  hmac_length : ∀ secret message, (hmacSha256Hex secret message).length = 64
  hmac_ascii : ∀ secret message, ∀ c ∈ (hmacSha256Hex secret message).toList, c.toNat < 128
  /-- `sha256(nonce).hexdigest()` -/
  sha256Hex : String → String
  /-- `raw_body.decode("utf-8", errors="replace")` -/
  decodeBody : List UInt8 → String

/-- The headers that `verify_service_auth` reads (empty when absent) and the raw body. -/
structure ServiceRequest where
  timestamp : String
  nonce : String
  auth : String
  rawBody : List UInt8

/-- What a replay repeats. -/
def ServiceRequest.triple (r : ServiceRequest) : String × String × List UInt8 :=
  (r.timestamp, r.nonce, r.rawBody)

/-- The outcome of `verify_service_auth`: it returns, raises an `HTTPException`, or another
    exception escapes. -/
inductive ServiceAuthOutcome where
  | passed
  | refused (status : ℕ) (detail : String)
  | raised
  deriving DecidableEq

/-! ## Timestamp and HMAC -/

variable (cfg : ServiceAuthConfig)

/-- `_verify_hmac_with_secret`; `none` where `compare_digest` raises on a non-ASCII header. -/
def verifyHmacWithSecret (secret message received : String) :
    Option Bool :=
  if secret = "" then some false
  else if received.toList.all (fun c => c.toNat < 128) then
    some (cfg.hmacSha256Hex secret message = received)
  else none

/-- `skew > WA_SERVICE_AUTH_MAX_SKEW_SECONDS`, where `skew = abs(now - ts)`; a comparison with `nan`
    is false. -/
def timestampExpired (now : ℚ) : PyFloat → Bool
  | .nan => false
  | .inf _ => true
  | .fin ts => |now - ts| > cfg.maxSkewSeconds

/-- `f"{timestamp_str}:{nonce}:{raw_body.decode('utf-8', errors='replace')}"`. -/
def serviceMessage (r : ServiceRequest) : String :=
  r.timestamp ++ ":" ++ r.nonce ++ ":" ++ cfg.decodeBody r.rawBody

/-- The current secret, or else the previous one, signs the message; `none` where it raises. -/
def verifyServiceHmac (r : ServiceRequest) : Option Bool :=
  match verifyHmacWithSecret cfg cfg.secret (serviceMessage cfg r) r.auth with
  | some false => verifyHmacWithSecret cfg cfg.previousSecret (serviceMessage cfg r) r.auth
  | result => result

/-- `verify_service_auth` before the nonce check: the outcome when it ends here. -/
def checkServiceRequest (r : ServiceRequest) (now : ℚ) :
    Option ServiceAuthOutcome :=
  if r.timestamp = "" ∨ r.nonce = "" ∨ r.auth = "" then
    some (.refused 403 "Missing service auth headers")
  else match PyFloat.parse r.timestamp with
    | none => some (.refused 403 "Invalid timestamp")
    | some ts =>
      if timestampExpired cfg now ts then some (.refused 403 "Timestamp expired")
      else match verifyServiceHmac cfg r with
        | none => some .raised
        | some false => some (.refused 403 "Invalid service auth")
        | some true => none

/-! ## The nonce store -/

def NONCE_TTL : ℚ := 300

/-- A document of the nonce collection. -/
structure NonceDoc where
  createdAt : ℚ
  expiresAt : ℚ

/-- `_nonce_store`, `_nonce_timestamps`, and the nonce collection by document id. -/
structure NonceState where
  seen : Finset String
  timestamps : Dict String ℚ
  docs : Dict String NonceDoc

/-- `_nonce_store_uses_firestore`. -/
def nonceStoreUsesFirestore : Bool :=
  -- an unset mode reads as "auto"
  let mode := cfg.py.lower (PyStr.strip (cfg.getenv "WA_NONCE_STORE_MODE"))
  if mode = "local" then false
  else if mode = "firestore" then true
  else if PyStr.strip (cfg.getenv "FIRESTORE_EMULATOR_HOST") ≠ "" then true
  else PyStr.strip (cfg.getenv "K_SERVICE") ≠ ""

/-- The nonces recorded more than `_NONCE_TTL` seconds ago. -/
def expiredNonces (now : ℚ) (timestamps : Dict String ℚ) : List String :=
  (timestamps.filter (fun _ ts => now - ts > NONCE_TTL)).keys

/-- The in-process `_check_nonce`. -/
def checkNonceLocal (nonce : String) (now : ℚ) (s : NonceState) : NonceState × Bool :=
  let expired := expiredNonces now s.timestamps
  let seen := s.seen \ expired.toFinset
  let timestamps := s.timestamps.eraseAll expired
  if nonce ∈ seen then ({ s with seen := seen, timestamps := timestamps }, false)
  else ({ s with seen := insert nonce seen, timestamps := timestamps.set nonce now }, true)

/-- `_check_nonce_firestore`; `none` where the store raises. -/
def checkNonceFirestore (nonce : String) (now : ℚ) (access : Access)
    (s : NonceState) : NonceState × Option Bool :=
  let id := cfg.sha256Hex nonce
  let created := match s.docs.get? id with
    | some _ => (s, some false)
    | none => ({ s with docs := s.docs.set id ⟨now, now + NONCE_TTL⟩ }, some true)
  access.perform s created none

/-- `_check_nonce`. -/
def checkNonce (nonce : String) (now : ℚ) (access : Access)
    (s : NonceState) : NonceState × Option Bool :=
  if nonceStoreUsesFirestore cfg then checkNonceFirestore cfg nonce now access s
  else
    let r := checkNonceLocal nonce now s
    (r.1, some r.2)

/-- A call of `verify_service_auth`: the request, the two clock readings, and how the access to
    Firestore goes if there is one. -/
structure ServiceCall where
  request : ServiceRequest
  checkedAt : ℚ
  nonceAt : ℚ
  access : Access

/-- What `verify_service_auth` makes of the nonce check. -/
def nonceOutcome : Option Bool → ServiceAuthOutcome
  | none => .refused 500 "Nonce verification failed"
  | some true => .passed
  | some false => .refused 403 "Nonce replay detected"

/-- `verify_service_auth`, the calls in the order of their nonce checks. -/
def serviceAuthMachine :
    EventMachine NonceState ServiceCall ServiceAuthOutcome where
  step s call :=
    match checkServiceRequest cfg call.request call.checkedAt with
    | some outcome => (s, outcome)
    | none =>
      let r := checkNonce cfg call.request.nonce call.nonceAt call.access s
      (r.1, nonceOutcome r.2)

/-- A logged call. -/
abbrev ServiceEntry := EventMachine.Entry NonceState ServiceCall ServiceAuthOutcome

/-- No triple passes twice in the run. -/
def ReplayFree (trace : List ServiceEntry) : Prop :=
  trace.Pairwise (fun x t => x.answer = .passed → t.answer = .passed →
    x.event.request.triple ≠ t.event.request.triple)

/-- The clock readings of a run: within a call the check comes before the nonce, and the nonce
    checks come in order. -/
structure ServiceClock (calls : List ServiceCall) : Prop where
  within : ∀ c ∈ calls, c.checkedAt ≤ c.nonceAt
  ordered : calls.Pairwise (fun c c' => c.nonceAt ≤ c'.nonceAt)

/-- The timestamp is no `nan`, and the nonce is checked at most `delay` seconds after it. -/
def NumericWithin (delay : ℚ) (c : ServiceCall) : Prop :=
  PyFloat.parse c.request.timestamp ≠ some .nan ∧ c.nonceAt - c.checkedAt ≤ delay

/-! ## What a passing call has shown -/

theorem serviceAuth_passed {cfg : ServiceAuthConfig} {s : NonceState} {call : ServiceCall}
    (h : ((serviceAuthMachine cfg).entry s call).answer = .passed) :
    checkServiceRequest cfg call.request call.checkedAt = none ∧
      (checkNonce cfg call.request.nonce call.nonceAt call.access s).2 = some true ∧
      (serviceAuthMachine cfg).next s call
        = (checkNonce cfg call.request.nonce call.nonceAt call.access s).1 := by
  simp only [EventMachine.entry, EventMachine.next, serviceAuthMachine] at h ⊢
  cases hcheck : checkServiceRequest cfg call.request call.checkedAt with
  | some outcome =>
    -- none of the early outcomes is a pass
    exfalso
    rw [hcheck] at h
    simp only at h
    subst h
    unfold checkServiceRequest at hcheck
    split at hcheck
    · simp at hcheck
    · split at hcheck
      · simp at hcheck
      · split at hcheck
        · simp at hcheck
        · split at hcheck <;> simp at hcheck
  | none =>
    rw [hcheck] at h
    refine ⟨rfl, ?_, rfl⟩
    cases hnonce : (checkNonce cfg call.request.nonce call.nonceAt call.access s).2 with
    | none => simp [hnonce, nonceOutcome] at h
    | some fresh =>
      cases fresh with
      | true => rfl
      | false => simp [hnonce, nonceOutcome] at h

theorem abs_sub_le_of_checked {cfg : ServiceAuthConfig} {r : ServiceRequest} {now : ℚ}
    (h : checkServiceRequest cfg r now = none) (hnan : PyFloat.parse r.timestamp ≠ some .nan) :
    ∃ ts, PyFloat.parse r.timestamp = some (.fin ts) ∧ |now - ts| ≤ cfg.maxSkewSeconds := by
  unfold checkServiceRequest at h
  split at h
  · exact absurd h (by simp)
  · cases hparse : PyFloat.parse r.timestamp with
    | none => simp [hparse] at h
    | some x =>
      rw [hparse] at h
      cases x with
      | nan => exact absurd hparse hnan
      | inf negative => simp [timestampExpired] at h
      | fin ts =>
        refine ⟨ts, rfl, ?_⟩
        by_contra hgt
        rw [not_le] at hgt
        simp [timestampExpired, hgt] at h

/-- Two checks of one timestamp are at most two skews apart. -/
theorem sub_le_of_checked_twice {cfg : ServiceAuthConfig} {r r' : ServiceRequest} {now now' : ℚ}
    (hts : r.timestamp = r'.timestamp) (h : checkServiceRequest cfg r now = none)
    (h' : checkServiceRequest cfg r' now' = none)
    (hnan : PyFloat.parse r.timestamp ≠ some .nan) :
    0 ≤ cfg.maxSkewSeconds ∧ now' - now ≤ 2 * cfg.maxSkewSeconds := by
  obtain ⟨ts, hparse, hle⟩ := abs_sub_le_of_checked h hnan
  obtain ⟨ts', hparse', hle'⟩ := abs_sub_le_of_checked h' (hts ▸ hnan)
  rw [← hts, hparse, Option.some.injEq, PyFloat.fin.injEq] at hparse'
  subst hparse'
  have hnonneg : (0 : ℚ) ≤ cfg.maxSkewSeconds := (abs_nonneg _).trans hle
  rw [abs_le] at hle hle'
  exact ⟨by exact_mod_cast hnonneg, by linarith [hle.1, hle'.2]⟩

/-! ## The nonces kept in process -/

theorem mem_expiredNonces {now : ℚ} {timestamps : Dict String ℚ} {nonce : String} {at' : ℚ}
    (h : timestamps.get? nonce = some at') :
    nonce ∈ expiredNonces now timestamps ↔ now - at' > NONCE_TTL := by
  rw [expiredNonces, Dict.mem_keys_iff, Dict.get?_filter, h]
  by_cases hlt : now - at' > NONCE_TTL
  · simp [hlt]
  · simp [hlt]

/-- The nonce is remembered with the time it was recorded. -/
def Remembers (s : NonceState) (nonce : String) (recorded : ℚ) : Prop :=
  nonce ∈ s.seen ∧ s.timestamps.get? nonce = some recorded

theorem Remembers.checkNonceLocal {s : NonceState} {nonce : String} {recorded : ℚ}
    (h : Remembers s nonce recorded) (other : String) {now : ℚ}
    (hnow : now - recorded ≤ NONCE_TTL) :
    Remembers (Ekaette.checkNonceLocal other now s).1 nonce recorded ∧
      (other = nonce → (Ekaette.checkNonceLocal other now s).2 = false) := by
  obtain ⟨hseen, hget⟩ := h
  have hlive : nonce ∉ expiredNonces now s.timestamps := by
    rw [mem_expiredNonces hget]
    exact not_lt.2 hnow
  unfold Ekaette.checkNonceLocal
  by_cases hother : other ∈ s.seen \ (expiredNonces now s.timestamps).toFinset
  · simp only [hother, if_true]
    exact ⟨⟨by simp [hseen, hlive], by simp [hlive, hget]⟩, fun _ => trivial⟩
  · have hne : other ≠ nonce := by
      rintro rfl
      exact hother (by simp [hseen, hlive])
    simp only [hother, if_false]
    exact ⟨⟨by simp [hseen, hlive], by simp [hne.symm, hlive, hget]⟩, fun heq => absurd heq hne⟩

theorem remembers_of_fresh {nonce : String} {now : ℚ} {s : NonceState}
    (h : (checkNonceLocal nonce now s).2 = true) :
    Remembers (checkNonceLocal nonce now s).1 nonce now := by
  unfold checkNonceLocal at h ⊢
  by_cases hmem : nonce ∈ s.seen \ (expiredNonces now s.timestamps).toFinset
  · simp [hmem] at h
  · simp only [hmem, if_false]
    exact ⟨by simp, by simp⟩

/-! ## Runs with the in-process store -/

/-- With the in-process store, a nonce that passed is remembered or its time is over. -/
theorem remembers_of_mem_trace {cfg : ServiceAuthConfig}
    (hlocal : nonceStoreUsesFirestore cfg = false) (s : NonceState) {calls : List ServiceCall}
    (hclock : ServiceClock calls) :
    ∀ h t, h ++ [t] <+: (serviceAuthMachine cfg).trace s calls →
      ∀ x ∈ h, x.answer = .passed → t.answer = .passed →
        x.event.request.nonce = t.event.request.nonce →
        t.event.nonceAt - x.event.nonceAt > NONCE_TTL := by
  have htrace := (serviceAuthMachine cfg).trace_pairwise_event (s := s) hclock.ordered
  have hcheck : ∀ nonce now access s', checkNonce cfg nonce now access s'
      = ((checkNonceLocal nonce now s').1, some (checkNonceLocal nonce now s').2) := by
    intro nonce now access s'
    simp [checkNonce, hlocal]
  refine (serviceAuthMachine cfg).trace_forall
    (C := fun h s => ∀ x ∈ h, x.answer = .passed →
      (∃ y ∈ h, y.event.nonceAt - x.event.nonceAt > NONCE_TTL) ∨
        Remembers s x.event.request.nonce x.event.nonceAt)
    (by simp) (fun h s call hpre hinv => ⟨?_, ?_⟩)
  · intro x hx hpassed hagain hnonce
    by_contra hnow
    rw [not_lt, EventMachine.entry_event] at hnow
    rcases hinv x hx hpassed with ⟨y, hy, hover⟩ | hremembers
    · have hle := EventMachine.rel_of_prefix htrace hpre y hy
      rw [EventMachine.entry_event] at hle
      linarith
    · -- the remembered nonce is refused
      obtain ⟨-, hfresh, -⟩ := serviceAuth_passed hagain
      rw [hcheck, Option.some.injEq] at hfresh
      have hstale := (hremembers.checkNonceLocal call.request.nonce hnow).2 hnonce.symm
      rw [hstale] at hfresh
      exact absurd hfresh (by simp)
  · intro x hx hpassed
    rcases List.mem_append.1 hx with hx | hx
    · rcases hinv x hx hpassed with ⟨y, hy, hover⟩ | hremembers
      · exact .inl ⟨y, List.mem_append_left _ hy, hover⟩
      · by_cases hnow : call.nonceAt - x.event.nonceAt ≤ NONCE_TTL
        · refine .inr ?_
          simp only [EventMachine.next, serviceAuthMachine]
          cases checkServiceRequest cfg call.request call.checkedAt with
          | some outcome => exact hremembers
          | none =>
            simp only [hcheck]
            exact (hremembers.checkNonceLocal call.request.nonce hnow).1
        · exact .inl ⟨_, List.mem_append_right _ (List.mem_singleton_self _), not_le.1 hnow⟩
    · rw [List.mem_singleton] at hx
      subst hx
      obtain ⟨-, hfresh, hnext⟩ := serviceAuth_passed hpassed
      rw [hcheck, Option.some.injEq] at hfresh
      refine .inr ?_
      rw [hnext, hcheck]
      exact remembers_of_fresh hfresh

/-- **Safe windows.** With the in-process store, no triple passes twice in a run of numeric
    timestamps when nonces outlive two skews and the delay between the two clock readings. -/
theorem replayFree_of_window {cfg : ServiceAuthConfig}
    (hlocal : nonceStoreUsesFirestore cfg = false) {delay : ℚ}
    (hwindow : cfg.maxSkewSeconds < 0 ∨ 2 * cfg.maxSkewSeconds + delay ≤ NONCE_TTL)
    (s : NonceState) {calls : List ServiceCall} (hclock : ServiceClock calls)
    (hcalls : ∀ c ∈ calls, NumericWithin delay c) :
    ReplayFree ((serviceAuthMachine cfg).trace s calls) := by
  have hevent : ∀ t ∈ (serviceAuthMachine cfg).trace s calls, t.event ∈ calls := by
    intro t ht
    rw [← (serviceAuthMachine cfg).trace_map_event s calls]
    exact List.mem_map_of_mem ht
  refine EventMachine.pairwise_of_prefix (fun h t hpre x hx hpassed hagain htriple => ?_)
  simp only [ServiceRequest.triple, Prod.mk.injEq] at htriple
  obtain ⟨hts, hnonce, -⟩ := htriple
  have hover := remembers_of_mem_trace hlocal s hclock h t hpre x hx hpassed hagain hnonce
  have htmem := hpre.subset (List.mem_append_right h (List.mem_singleton_self t))
  have hxmem := hpre.subset (List.mem_append_left [t] hx)
  rw [(serviceAuthMachine cfg).eq_entry_of_mem_trace hxmem] at hpassed
  rw [(serviceAuthMachine cfg).eq_entry_of_mem_trace htmem] at hagain
  -- both checks read the same timestamp
  have htwice := sub_le_of_checked_twice hts (serviceAuth_passed hpassed).1
    (serviceAuth_passed hagain).1 (hcalls _ (hevent x hxmem)).1
  have hwithin := hclock.within _ (hevent x hxmem)
  have hdelay := (hcalls _ (hevent t htmem)).2
  rcases hwindow with hneg | hwindow
  · exact absurd htwice.1 (not_le.2 hneg)
  · linarith [htwice.2]

/-! ## Runs with Firestore -/

/-- With Firestore, a nonce that passed has a document, and no document is ever deleted. -/
theorem replayFree_of_firestore {cfg : ServiceAuthConfig}
    (hfirestore : nonceStoreUsesFirestore cfg = true) (s : NonceState) (calls : List ServiceCall) :
    ReplayFree ((serviceAuthMachine cfg).trace s calls) := by
  have hcheck : ∀ nonce now access s', checkNonce cfg nonce now access s'
      = checkNonceFirestore cfg nonce now access s' := by
    intro nonce now access s'
    simp [checkNonce, hfirestore]
  have hgrows : ∀ nonce now access s' id, (s'.docs.get? id).isSome →
      ((checkNonceFirestore cfg nonce now access s').1.docs.get? id).isSome := by
    intro nonce now access s' id hsome
    rw [checkNonceFirestore, Access.perform_fst]
    split
    · exact hsome
    · cases s'.docs.get? (cfg.sha256Hex nonce) with
      | some doc => exact hsome
      | none =>
        show ((s'.docs.set _ _).get? id).isSome
        rw [Dict.get?_set]
        split
        · rfl
        · exact hsome
  have hfresh_iff : ∀ nonce now access s',
      (checkNonceFirestore cfg nonce now access s').2 = some true →
      s'.docs.get? (cfg.sha256Hex nonce) = none ∧
        ((checkNonceFirestore cfg nonce now access s').1.docs.get?
          (cfg.sha256Hex nonce)).isSome := by
    intro nonce now access s' hfresh
    unfold checkNonceFirestore at hfresh ⊢
    cases hget : s'.docs.get? (cfg.sha256Hex nonce) with
    | some doc => cases access <;> simp [hget, Access.perform] at hfresh
    | none => cases access <;> simp [hget, Access.perform] at hfresh ⊢
  refine EventMachine.pairwise_of_prefix ?_
  refine (serviceAuthMachine cfg).trace_forall
    (C := fun h s => ∀ x ∈ h, x.answer = .passed →
      (s.docs.get? (cfg.sha256Hex x.event.request.nonce)).isSome)
    (by simp) (fun h s call hpre hinv => ⟨?_, ?_⟩)
  · intro x hx hpassed hagain htriple
    simp only [ServiceRequest.triple, Prod.mk.injEq] at htriple
    obtain ⟨-, hfresh, -⟩ := serviceAuth_passed hagain
    rw [hcheck] at hfresh
    have hnone := (hfresh_iff _ _ _ _ hfresh).1
    have hsome := hinv x hx hpassed
    rw [htriple.2.1] at hsome
    simp [hnone] at hsome
  · intro x hx hpassed
    rcases List.mem_append.1 hx with hx | hx
    · have hsome := hinv x hx hpassed
      simp only [EventMachine.next, serviceAuthMachine]
      cases checkServiceRequest cfg call.request call.checkedAt with
      | some outcome => exact hsome
      | none =>
        simp only [hcheck]
        exact hgrows _ _ _ _ _ hsome
    · rw [List.mem_singleton] at hx
      subst hx
      obtain ⟨-, hfresh, hnext⟩ := serviceAuth_passed hpassed
      rw [hcheck] at hfresh
      rw [hnext, hcheck]
      exact (hfresh_iff _ _ _ _ hfresh).2

/-! ## Replays -/

/-- A request properly signed with a configured secret. -/
def signedRequest (timestamp : String) : ServiceRequest where
  timestamp := timestamp
  nonce := "n"
  auth := cfg.hmacSha256Hex (if cfg.secret = "" then cfg.previousSecret else cfg.secret)
    (timestamp ++ ":" ++ "n" ++ ":" ++ cfg.decodeBody [])
  rawBody := []

/-- Some secret is configured. -/
def HasSecret : Prop := cfg.secret ≠ "" ∨ cfg.previousSecret ≠ ""

theorem verifyServiceHmac_signed {cfg : ServiceAuthConfig} (hsecret : HasSecret cfg)
    (timestamp : String) : verifyServiceHmac cfg (signedRequest cfg timestamp) = some true := by
  have hascii : (signedRequest cfg timestamp).auth.toList.all (fun c => c.toNat < 128) = true := by
    rw [List.all_eq_true]
    intro c hc
    exact decide_eq_true (cfg.hmac_ascii _ _ c hc)
  by_cases hempty : cfg.secret = ""
  · have hprevious : cfg.previousSecret ≠ "" := hsecret.resolve_left (fun h => h hempty)
    simp only [verifyServiceHmac, verifyHmacWithSecret, hempty, if_true, hprevious, if_false,
      hascii]
    simp [signedRequest, serviceMessage, hempty]
  · simp only [verifyServiceHmac, verifyHmacWithSecret, hempty, if_false, hascii, if_true]
    simp [signedRequest, serviceMessage, hempty]

theorem checkServiceRequest_signed {cfg : ServiceAuthConfig} (hsecret : HasSecret cfg)
    {timestamp : String} {ts : PyFloat} {now : ℚ} (hparse : PyFloat.parse timestamp = some ts)
    (hfresh : timestampExpired cfg now ts = false) :
    checkServiceRequest cfg (signedRequest cfg timestamp) now = none := by
  have hts : timestamp ≠ "" := by
    rintro rfl
    have hnone : PyFloat.parse "" = none := by decide +kernel
    rw [hnone] at hparse
    exact absurd hparse (by simp)
  have hauth : (signedRequest cfg timestamp).auth ≠ "" := by
    intro hempty
    have hlen := cfg.hmac_length (if cfg.secret = "" then cfg.previousSecret else cfg.secret)
      (timestamp ++ ":" ++ "n" ++ ":" ++ cfg.decodeBody [])
    rw [show cfg.hmacSha256Hex _ _ = "" from hempty] at hlen
    exact absurd hlen (by decide)
  have hnonce : (signedRequest cfg timestamp).nonce ≠ "" := by
    show "n" ≠ ""
    decide
  simp only [checkServiceRequest, hauth, hnonce, or_false, verifyServiceHmac_signed hsecret]
  simp [signedRequest, hts, hparse, hfresh]

/-- A signed request whose checks succeed twice, the second time after its nonce has expired. -/
theorem replay_of_expired {cfg : ServiceAuthConfig}
    (hlocal : nonceStoreUsesFirestore cfg = false) {call call' : ServiceCall}
    (hrequest : call'.request = call.request)
    (hcheck : checkServiceRequest cfg call.request call.checkedAt = none)
    (hcheck' : checkServiceRequest cfg call.request call'.checkedAt = none)
    (hexpired : call'.nonceAt - call.nonceAt > NONCE_TTL) :
    ¬ ReplayFree ((serviceAuthMachine cfg).trace ⟨∅, .empty, .empty⟩ [call, call']) := by
  have hfirst : checkNonceLocal call.request.nonce call.nonceAt ⟨∅, .empty, .empty⟩
      = (⟨{call.request.nonce}, Dict.set .empty call.request.nonce call.nonceAt, .empty⟩,
          true) := by
    simp [checkNonceLocal, expiredNonces, Dict.eraseAll, Dict.filter, Dict.empty, Dict.keys]
  have hmem : call.request.nonce ∈ expiredNonces call'.nonceAt
      (Dict.set .empty call.request.nonce call.nonceAt) := by
    rw [mem_expiredNonces (Dict.get?_set_self ..)]
    exact hexpired
  have hsecond : (checkNonceLocal call.request.nonce call'.nonceAt
      ⟨{call.request.nonce}, Dict.set .empty call.request.nonce call.nonceAt, .empty⟩).2 =
        true := by
    simp [checkNonceLocal, hmem]
  have hcalls : (serviceAuthMachine cfg).next ⟨∅, .empty, .empty⟩ call
      = ⟨{call.request.nonce}, Dict.set .empty call.request.nonce call.nonceAt, .empty⟩ ∧
      ((serviceAuthMachine cfg).entry ⟨∅, .empty, .empty⟩ call).answer = .passed := by
    simp only [EventMachine.next, EventMachine.entry, serviceAuthMachine, hcheck, checkNonce,
      hlocal, Bool.false_eq_true, if_false, hfirst, nonceOutcome, and_self]
  have hagain : ((serviceAuthMachine cfg).entry
      ⟨{call.request.nonce}, Dict.set .empty call.request.nonce call.nonceAt, .empty⟩ call').answer
      = .passed := by
    simp only [EventMachine.entry, serviceAuthMachine, hrequest, hcheck', checkNonce, hlocal,
      Bool.false_eq_true, if_false, hsecond, nonceOutcome]
  intro hfree
  rw [ReplayFree, EventMachine.trace_cons, EventMachine.trace_cons, hcalls.1,
    List.pairwise_cons] at hfree
  refine hfree.1 _ List.mem_cons_self hcalls.2 hagain ?_
  rw [EventMachine.entry_event, EventMachine.entry_event, hrequest]

theorem parse_stamp : PyFloat.parse "1800000000" = some (.fin 1800000000) := by decide +kernel

theorem parse_nan : PyFloat.parse "nan" = some .nan := by decide +kernel

/-- A call made with the signed request of this timestamp. -/
def signedCall (timestamp : String) (checkedAt nonceAt : ℚ) :
    ServiceCall :=
  ⟨signedRequest cfg timestamp, checkedAt, nonceAt, .served⟩

theorem serviceClock_pair {call call' : ServiceCall} (h : call.checkedAt ≤ call.nonceAt)
    (hbetween : call.nonceAt ≤ call'.checkedAt) (h' : call'.checkedAt ≤ call'.nonceAt) :
    ServiceClock [call, call'] where
  within c hc := by
    simp only [List.mem_cons, List.not_mem_nil, or_false] at hc
    rcases hc with rfl | rfl
    · exact h
    · exact h'
  ordered := by simp [hbetween.trans h']

/-- With the in-process store, a signed `nan` passes as often as one waits for the nonce to
    expire. -/
theorem replay_of_nan {cfg : ServiceAuthConfig} (hsecret : HasSecret cfg)
    (hlocal : nonceStoreUsesFirestore cfg = false) :
    ¬ ReplayFree ((serviceAuthMachine cfg).trace ⟨∅, .empty, .empty⟩
      [signedCall cfg "nan" 0 0, signedCall cfg "nan" 301 301]) := by
  refine replay_of_expired hlocal rfl (checkServiceRequest_signed hsecret parse_nan rfl)
    (checkServiceRequest_signed hsecret parse_nan rfl) ?_
  norm_num [signedCall, NONCE_TTL]

/-- With the in-process store and windows that do not fit, the request is sent as early as the skew
    allows, and again as late as the skew and the delay allow. -/
theorem replay_of_skew {cfg : ServiceAuthConfig} (hsecret : HasSecret cfg)
    (hlocal : nonceStoreUsesFirestore cfg = false) (hskew : 0 ≤ cfg.maxSkewSeconds) {delay : ℚ}
    (hwindow : NONCE_TTL < 2 * cfg.maxSkewSeconds + delay) :
    ¬ ReplayFree ((serviceAuthMachine cfg).trace ⟨∅, .empty, .empty⟩
      [signedCall cfg "1800000000" (1800000000 - cfg.maxSkewSeconds)
          (1800000000 - cfg.maxSkewSeconds),
        signedCall cfg "1800000000" (1800000000 + cfg.maxSkewSeconds)
          (1800000000 + cfg.maxSkewSeconds + delay)]) := by
  have hskew' : (0 : ℚ) ≤ cfg.maxSkewSeconds := by exact_mod_cast hskew
  have hearly : timestampExpired cfg (1800000000 - cfg.maxSkewSeconds) (.fin 1800000000) = false :=
    by
    rw [timestampExpired, decide_eq_false_iff_not, not_lt, sub_sub_cancel_left, abs_neg,
      abs_of_nonneg hskew']
  have hlate : timestampExpired cfg (1800000000 + cfg.maxSkewSeconds) (.fin 1800000000) = false :=
    by
    rw [timestampExpired, decide_eq_false_iff_not, not_lt, add_sub_cancel_left,
      abs_of_nonneg hskew']
  refine replay_of_expired hlocal rfl (checkServiceRequest_signed hsecret parse_stamp hearly)
    (checkServiceRequest_signed hsecret parse_stamp hlate) ?_
  simp only [signedCall]
  linarith

/-- **Replay safety.** Runs of numeric timestamps in which at most `delay` seconds pass between a
    call's two clock readings are replay free exactly when nonces are kept in Firestore, no
    timestamp is ever fresh, or nonces outlive two skews and the delay. With the in-process store, a
    signed `nan` can be replayed under every setting. -/
theorem serviceAuth_replayFree_iff (hsecret : HasSecret cfg) (delay : ℚ) (hdelay : 0 ≤ delay) :
    ((∀ s calls, ServiceClock calls → (∀ c ∈ calls, NumericWithin delay c) →
        ReplayFree ((serviceAuthMachine cfg).trace s calls)) ↔
      nonceStoreUsesFirestore cfg = true ∨ cfg.maxSkewSeconds < 0 ∨
        2 * cfg.maxSkewSeconds + delay ≤ NONCE_TTL) ∧
    ((∀ s calls, ServiceClock calls → ReplayFree ((serviceAuthMachine cfg).trace s calls)) ↔
      nonceStoreUsesFirestore cfg = true) := by
  constructor
  · constructor
    · intro hfree
      by_contra hcond
      simp only [not_or, Bool.not_eq_true, not_lt, not_le] at hcond
      obtain ⟨hlocal, hskew, hwindow⟩ := hcond
      have hskew' : (0 : ℚ) ≤ cfg.maxSkewSeconds := by exact_mod_cast hskew
      refine replay_of_skew hsecret hlocal hskew hwindow (hfree _ _ ?_ ?_)
      · refine serviceClock_pair ?_ ?_ ?_
        · exact le_rfl
        · simp only [signedCall]; linarith
        · simp only [signedCall]; linarith
      · intro c hc
        simp only [List.mem_cons, List.not_mem_nil, or_false] at hc
        have hstamp : PyFloat.parse "1800000000" ≠ some .nan := by rw [parse_stamp]; simp
        rcases hc with rfl | rfl
        · exact ⟨hstamp, by simpa [signedCall] using hdelay⟩
        · exact ⟨hstamp, by simp [signedCall]⟩
    · rintro (hfirestore | hwindow) s calls hclock hcalls
      · exact replayFree_of_firestore hfirestore s calls
      · cases hstore : nonceStoreUsesFirestore cfg with
        | true => exact replayFree_of_firestore hstore s calls
        | false => exact replayFree_of_window hstore hwindow s hclock hcalls
  · constructor
    · intro hfree
      by_contra hlocal
      refine replay_of_nan hsecret (by simpa using hlocal) (hfree _ _ ?_)
      exact serviceClock_pair le_rfl (by norm_num [signedCall]) le_rfl
    · intro hfirestore s calls _
      exact replayFree_of_firestore hfirestore s calls

/-! ## The default settings -/

/-- A deployment with the default skew and an in-process store. -/
def defaultServiceAuth : ServiceAuthConfig where
  secret := "secret"
  previousSecret := ""
  maxSkewSeconds := 300
  py := .ascii
  getenv name := if name = "WA_NONCE_STORE_MODE" then "local" else ""
  hmacSha256Hex _ _ := String.ofList (List.replicate 64 '0')
  hmac_length _ _ := by rw [String.length_ofList, List.length_replicate]
  hmac_ascii _ _ c hc := by
    rw [String.toList_ofList] at hc
    rw [List.eq_of_mem_replicate hc]
    decide
  sha256Hex nonce := nonce
  decodeBody _ := ""

theorem defaultServiceAuth_local : nonceStoreUsesFirestore defaultServiceAuth = false := by decide

/-- Under the default settings a request stamped 200 seconds ahead of the clock passes when sent and
    again 400 seconds later; and so does, whenever its nonce has expired, one stamped `nan`. -/
theorem serviceAuth_replayed :
    ¬ ReplayFree ((serviceAuthMachine defaultServiceAuth).trace ⟨∅, .empty, .empty⟩
        [signedCall defaultServiceAuth "1800000000" 1799999800 1799999800,
          signedCall defaultServiceAuth "1800000000" 1800000200 1800000200]) ∧
      ¬ ReplayFree ((serviceAuthMachine defaultServiceAuth).trace ⟨∅, .empty, .empty⟩
        [signedCall defaultServiceAuth "nan" 0 0,
          signedCall defaultServiceAuth "nan" 301 301]) := by
  have hsecret : HasSecret defaultServiceAuth := .inl (by decide)
  refine ⟨?_, replay_of_nan hsecret defaultServiceAuth_local⟩
  refine replay_of_expired defaultServiceAuth_local rfl
    (checkServiceRequest_signed hsecret parse_stamp ?_)
    (checkServiceRequest_signed hsecret parse_stamp ?_) ?_
  · decide +kernel
  · decide +kernel
  · norm_num [signedCall, NONCE_TTL]

/-- The default skew is too large for the in-process store, however fast bodies arrive. -/
theorem defaultServiceAuth_not_replayFree :
    ¬ ∀ s calls, ServiceClock calls → (∀ c ∈ calls, NumericWithin 0 c) →
      ReplayFree ((serviceAuthMachine defaultServiceAuth).trace s calls) := by
  rw [(serviceAuth_replayFree_iff defaultServiceAuth (.inl (by decide)) 0 le_rfl).1,
    defaultServiceAuth_local]
  norm_num [defaultServiceAuth, NONCE_TTL]

end Ekaette
