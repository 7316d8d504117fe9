import Ekaette.Lib.EventMachine
import Ekaette.Lib.PyValue
import Mathlib.Tactic.Linarith

set_option autoImplicit false

/-! # Idempotency of the AT endpoints

`app/api/v1/at/idempotency.py`. A request claims its key with `idempotency_preflight`, runs its
business logic when told to proceed, and records its response with `idempotency_commit`. A claim is
a lease of `PENDING_TTL_SECONDS`; a recorded response is kept for `IDEMPOTENCY_TTL_SECONDS` at
least.

Both calls take the store's lock for all they do, so a call is one step. Response bodies are opaque
to this code: the model is polymorphic in them (`β`), which lets the last section tag every body
with the payload of the request that produced it. -/

namespace Ekaette

variable {Payload β : Type}

def IDEMPOTENCY_TTL_SECONDS : ℚ := 3600

def PENDING_TTL_SECONDS : ℚ := 30

/-- `_fingerprint`: sixteen hexadecimal digits of a digest of the payload's canonical JSON. -/
structure Fingerprint (Payload : Type) where
  of : Payload → String
  length_of : ∀ p, (of p).length = 16

variable (fingerprint : Fingerprint Payload)

theorem Fingerprint.of_ne_empty (p : Payload) :
    fingerprint.of p ≠ "" := by
  intro h
  have hlen := fingerprint.length_of p
  rw [h] at hlen
  exact absurd hlen (by decide)

/-! ## The two calls -/

inductive IdempotencyPhase (β : Type) where
  | pending
  | done (body : β)
  deriving DecidableEq

/-- An entry of `_store`. -/
structure IdempotencyEntry (β : Type) where
  fingerprint : String
  state : IdempotencyPhase β
  expiresAt : ℚ
  deriving DecidableEq

abbrev IdempotencyStore (β : Type) := Dict String (IdempotencyEntry β)

/-- What identifies an idempotent request. -/
structure IdempotencyKey where
  scope : String
  tenantId : String
  idempotencyKey : String

def IdempotencyKey.storeKey (k : IdempotencyKey) : String :=
  "at:" ++ k.scope ++ ":" ++ k.tenantId ++ ":" ++ k.idempotencyKey

/-- The outcome of `idempotency_preflight`: `None`, a cached body, or a 409 with its detail. -/
inductive PreflightDecision (β : Type) where
  | proceed
  | replay (body : β)
  | conflict (detail : String)
  deriving DecidableEq

/-- A freshly claimed slot. -/
def pendingEntry (fp : String) (now : ℚ) : IdempotencyEntry β :=
  ⟨fp, .pending, now + PENDING_TTL_SECONDS⟩

/-- The pruning at the head of `idempotency_preflight`: only a store of more than 100 entries is
    pruned, of the entries that have expired. -/
def pruneExpired (now : ℚ) (store : IdempotencyStore β) : IdempotencyStore β :=
  if store.size > 100 then store.filter (fun _ entry => !decide (now > entry.expiresAt)) else store

/-- `idempotency_preflight`, on the store key and the payload's fingerprint. -/
def idempotencyPreflight (storeKey fp : String) (now : ℚ) (store : IdempotencyStore β) :
    IdempotencyStore β × PreflightDecision β :=
  let store := pruneExpired now store
  match store.get? storeKey with
  | none => (store.set storeKey (pendingEntry fp now), .proceed)
  | some existing =>
    if existing.fingerprint ≠ fp then
      (store, .conflict "Idempotency key reused with different payload")
    else match existing.state with
      | .pending =>
        if now > existing.expiresAt then
          -- stale pending: the lease is taken over
          (store.set storeKey (pendingEntry fp now), .proceed)
        else (store, .conflict "Request is still being processed")
      | .done body => (store, .replay body)

/-- `idempotency_commit`: the fingerprint of the new entry is the one found in the store. -/
def idempotencyCommit (storeKey : String) (body : β) (now : ℚ) (store : IdempotencyStore β) :
    IdempotencyStore β :=
  store.set storeKey
    ⟨((store.get? storeKey).map (·.fingerprint)).getD "", .done body, now + IDEMPOTENCY_TTL_SECONDS⟩

inductive IdempotencyEvent (Payload β : Type) where
  | preflight (key : IdempotencyKey) (payload : Payload) (now : ℚ)
  | commit (key : IdempotencyKey) (body : β) (now : ℚ)

def IdempotencyEvent.time : IdempotencyEvent Payload β → ℚ
  | .preflight _ _ now => now
  | .commit _ _ now => now

/-- Any number of clients calling the two functions in any order. -/
def idempotencyMachine :
    EventMachine (IdempotencyStore β) (IdempotencyEvent Payload β)
      (Option (PreflightDecision β)) where
  step store
    | .preflight key payload now =>
      let r := idempotencyPreflight key.storeKey (fingerprint.of payload) now store
      (r.1, some r.2)
    | .commit key body now => (idempotencyCommit key.storeKey body now store, none)

@[simp] theorem idempotencyMachine_preflight
    (store : IdempotencyStore β) (key : IdempotencyKey) (payload : Payload) (now : ℚ) :
    (idempotencyMachine fingerprint).next store (.preflight key payload now)
      = (idempotencyPreflight key.storeKey (fingerprint.of payload) now store).1 := rfl

@[simp] theorem idempotencyMachine_commit
    (store : IdempotencyStore β) (key : IdempotencyKey) (body : β) (now : ℚ) :
    (idempotencyMachine fingerprint).next store (.commit key body now)
      = idempotencyCommit key.storeKey body now store := rfl

/-- A logged call. -/
abbrev IdempotencyCall (Payload β : Type) :=
  EventMachine.Entry (IdempotencyStore β) (IdempotencyEvent Payload β)
    (Option (PreflightDecision β))

/-! ## What the calls do to the store -/

theorem get?_pruneExpired_of_live {now : ℚ} {store : IdempotencyStore β} {k : String}
    {entry : IdempotencyEntry β} (h : store.get? k = some entry) (hlive : now ≤ entry.expiresAt) :
    (pruneExpired now store).get? k = some entry := by
  unfold pruneExpired
  split
  · rw [Dict.get?_filter, h]
    exact Option.filter_some_pos (by simpa using hlive)
  · exact h

theorem get?_of_get?_pruneExpired {now : ℚ} {store : IdempotencyStore β} {k : String}
    {entry : IdempotencyEntry β} (h : (pruneExpired now store).get? k = some entry) :
    store.get? k = some entry := by
  unfold pruneExpired at h
  split at h
  · rw [Dict.get?_filter, Option.filter_eq_some_iff] at h
    exact h.1
  · exact h

/-- **What a preflight does**: after pruning it either claims the key, which is then free or held by
    an expired lease of the same payload, or leaves the store alone. -/
theorem idempotencyPreflight_cases (storeKey fp : String) (now : ℚ) (store : IdempotencyStore β) :
    ((idempotencyPreflight storeKey fp now store).2 = .proceed ∧
      (idempotencyPreflight storeKey fp now store).1
        = (pruneExpired now store).set storeKey (pendingEntry fp now) ∧
      ∀ entry, (pruneExpired now store).get? storeKey = some entry →
        entry.fingerprint = fp ∧ entry.state = .pending ∧ entry.expiresAt < now) ∨
    ((idempotencyPreflight storeKey fp now store).2 ≠ .proceed ∧
      (idempotencyPreflight storeKey fp now store).1 = pruneExpired now store ∧
      ∀ body, (idempotencyPreflight storeKey fp now store).2 = .replay body →
        ∃ entry, (pruneExpired now store).get? storeKey = some entry ∧
          entry.fingerprint = fp ∧ entry.state = .done body) := by
  unfold idempotencyPreflight
  generalize pruneExpired now store = pruned
  cases hget : pruned.get? storeKey with
  | none => exact .inl ⟨by simp only [hget], by simp only [hget], by simp⟩
  | some existing =>
    by_cases hfp : existing.fingerprint = fp
    · cases hstate : existing.state with
      | pending =>
        by_cases hstale : now > existing.expiresAt
        · refine .inl ⟨by simp [hget, hfp, hstate, hstale],
            by simp [hget, hfp, hstate, hstale], ?_⟩
          intro entry hentry
          rw [Option.some.injEq] at hentry
          subst hentry
          exact ⟨hfp, hstate, hstale⟩
        · refine .inr ⟨by simp [hget, hfp, hstate, hstale],
            by simp [hget, hfp, hstate, hstale], ?_⟩
          intro body hbody
          simp [hget, hfp, hstate, hstale] at hbody
      | done body =>
        refine .inr ⟨by simp [hget, hfp, hstate], by simp [hget, hfp, hstate], ?_⟩
        intro body' hbody
        simp only [hget, hfp, hstate, ne_eq, not_true_eq_false, if_false,
          PreflightDecision.replay.injEq] at hbody
        subst hbody
        exact ⟨existing, rfl, hfp, hstate⟩
    · refine .inr ⟨by simp [hget, hfp], by simp [hget, hfp], ?_⟩
      intro body hbody
      simp [hget, hfp] at hbody

theorem idempotencyPreflight_of_free {storeKey fp : String} {now : ℚ} {store : IdempotencyStore β}
    (h : (pruneExpired now store).get? storeKey = none) :
    idempotencyPreflight storeKey fp now store
      = ((pruneExpired now store).set storeKey (pendingEntry fp now), .proceed) := by
  simp only [idempotencyPreflight, h]

theorem pruneExpired_of_live {now : ℚ} {store : IdempotencyStore β}
    (h : ∀ e ∈ store.entries, now ≤ e.2.expiresAt) :
    (pruneExpired now store).entries = store.entries := by
  unfold pruneExpired
  split
  · rw [Dict.filter]
    exact List.filter_eq_self.2 (fun e he => by simpa using h e he)
  · rfl

/-- Pruning a crowded store whose entries have all expired frees every key. -/
theorem get?_pruneExpired_of_expired {now : ℚ} {store : IdempotencyStore β}
    (hsize : store.size > 100) (h : ∀ e ∈ store.entries, e.2.expiresAt < now) (k : String) :
    (pruneExpired now store).get? k = none := by
  rw [pruneExpired, if_pos hsize, Dict.get?_filter]
  cases hget : store.get? k with
  | none => rfl
  | some entry =>
    have hexpired := h _ ((store.get?_eq_some_iff k entry).1 hget)
    exact Option.filter_some_neg (by simpa using hexpired)

/-! ## At most one execution until the deadline -/

/-- The key has an entry that lives until `deadline` at least. -/
def HeldUntil (store : IdempotencyStore β) (storeKey : String) (deadline : ℚ) : Prop :=
  ∃ entry, store.get? storeKey = some entry ∧ deadline ≤ entry.expiresAt

theorem HeldUntil.not_proceed {store : IdempotencyStore β} {storeKey fp : String}
    {deadline now : ℚ} (h : HeldUntil store storeKey deadline) (hnow : now ≤ deadline) :
    (idempotencyPreflight storeKey fp now store).2 ≠ .proceed := by
  obtain ⟨entry, hentry, hdeadline⟩ := h
  have hlive := get?_pruneExpired_of_live hentry (hnow.trans hdeadline)
  rcases idempotencyPreflight_cases storeKey fp now store with ⟨-, -, hstale⟩ | ⟨hne, -, -⟩
  · obtain ⟨-, -, hlt⟩ := hstale entry hlive
    exact absurd hlt (not_lt.2 (hnow.trans hdeadline))
  · exact hne

theorem HeldUntil.next {fingerprint : Fingerprint Payload} {store : IdempotencyStore β}
    {storeKey : String} {deadline : ℚ} (h : HeldUntil store storeKey deadline)
    (e : IdempotencyEvent Payload β) (hnow : e.time ≤ deadline)
    (hcommit : deadline ≤ e.time + IDEMPOTENCY_TTL_SECONDS) :
    HeldUntil ((idempotencyMachine fingerprint).next store e) storeKey deadline := by
  obtain ⟨entry, hentry, hdeadline⟩ := id h
  cases e with
  | preflight key payload now =>
    have hlive := get?_pruneExpired_of_live hentry (hnow.trans hdeadline)
    rw [idempotencyMachine_preflight]
    rcases idempotencyPreflight_cases key.storeKey (fingerprint.of payload) now store with
      ⟨hproceed, hnext, -⟩ | ⟨-, hnext, -⟩
    · -- a claim that succeeds is a claim of another key
      have hkey : storeKey ≠ key.storeKey := by
        rintro rfl
        exact h.not_proceed hnow hproceed
      rw [hnext]
      exact ⟨entry, by rw [Dict.get?_set_of_ne _ _ hkey]; exact hlive, hdeadline⟩
    · rw [hnext]
      exact ⟨entry, hlive, hdeadline⟩
  | commit key body now =>
    rw [idempotencyMachine_commit]
    by_cases hkey : storeKey = key.storeKey
    · subst hkey
      exact ⟨_, Dict.get?_set_self .., hcommit⟩
    · exact ⟨entry, by rw [idempotencyCommit, Dict.get?_set_of_ne _ _ hkey]; exact hentry,
        hdeadline⟩

/-- The deadline a logged call gives its store key: a preflight told to proceed leases it, a commit
    keeps its response. -/
def heldFrom (t : IdempotencyCall Payload β) : Option (String × ℚ) :=
  match t.event, t.answer with
  | .preflight key _ now, some .proceed => some (key.storeKey, now + PENDING_TTL_SECONDS)
  | .commit key _ now, _ => some (key.storeKey, now + IDEMPOTENCY_TTL_SECONDS)
  | _, _ => none

theorem heldUntil_next_of_heldFrom {fingerprint : Fingerprint Payload}
    {store : IdempotencyStore β} {e : IdempotencyEvent Payload β} {storeKey : String} {deadline : ℚ}
    (h : heldFrom ((idempotencyMachine fingerprint).entry store e) = some (storeKey, deadline)) :
    HeldUntil ((idempotencyMachine fingerprint).next store e) storeKey deadline := by
  cases e with
  | preflight key payload now =>
    rw [idempotencyMachine_preflight]
    rcases idempotencyPreflight_cases key.storeKey (fingerprint.of payload) now store with
      ⟨hproceed, hnext, -⟩ | ⟨hne, -, -⟩
    · simp only [heldFrom, EventMachine.entry, idempotencyMachine, hproceed, Option.some.injEq,
        Prod.mk.injEq] at h
      obtain ⟨rfl, rfl⟩ := h
      rw [hnext]
      exact ⟨_, Dict.get?_set_self .., le_rfl⟩
    · simp only [heldFrom, EventMachine.entry, idempotencyMachine] at h
      cases hdecision :
          (idempotencyPreflight key.storeKey (fingerprint.of payload) now store).2 with
      | proceed => exact absurd hdecision hne
      | replay body => simp [hdecision] at h
      | conflict detail => simp [hdecision] at h
  | commit key body now =>
    simp only [heldFrom, EventMachine.entry, idempotencyMachine, Option.some.injEq,
      Prod.mk.injEq] at h
    obtain ⟨rfl, rfl⟩ := h
    exact ⟨_, Dict.get?_set_self .., le_rfl⟩

/-- A deadline is at most `IDEMPOTENCY_TTL_SECONDS` after the call that gives it. -/
theorem heldFrom_le {t : IdempotencyCall Payload β} {storeKey : String} {deadline : ℚ}
    (h : heldFrom t = some (storeKey, deadline)) :
    deadline ≤ t.event.time + IDEMPOTENCY_TTL_SECONDS := by
  obtain ⟨pre, e, answer⟩ := t
  cases e with
  | preflight key payload now =>
    rcases answer with _ | (_ | body | detail) <;> simp only [heldFrom, reduceCtorEq] at h
    simp only [Option.some.injEq, Prod.mk.injEq] at h
    obtain ⟨-, rfl⟩ := h
    simp only [IdempotencyEvent.time, PENDING_TTL_SECONDS, IDEMPOTENCY_TTL_SECONDS]
    linarith
  | commit key body now =>
    simp only [heldFrom, Option.some.injEq, Prod.mk.injEq] at h
    obtain ⟨-, rfl⟩ := h
    exact le_rfl

/-- **Deadlines along runs.** With a non-decreasing clock, every deadline given so far has passed or
    its key is still held until then. -/
theorem heldUntil_of_mem_trace {fingerprint : Fingerprint Payload}
    (store : IdempotencyStore β) {es : List (IdempotencyEvent Payload β)}
    (hclock : es.Pairwise (fun e e' => e.time ≤ e'.time)) :
    ∀ h t, h ++ [t] <+: (idempotencyMachine fingerprint).trace store es →
      ∀ x ∈ h, ∀ storeKey deadline, heldFrom x = some (storeKey, deadline) →
        deadline < t.event.time ∨ HeldUntil t.pre storeKey deadline := by
  have htrace := (idempotencyMachine fingerprint).trace_pairwise_event (s := store) hclock
  refine (idempotencyMachine fingerprint).trace_forall
    (C := fun h s => ∀ x ∈ h, ∀ storeKey deadline, heldFrom x = some (storeKey, deadline) →
      (∃ y ∈ h, deadline < y.event.time) ∨ HeldUntil s storeKey deadline)
    (by simp) (fun h s e hpre hinv => ⟨?_, ?_⟩)
  · intro x hx storeKey deadline hdeadline
    rcases hinv x hx storeKey deadline hdeadline with ⟨y, hy, hlt⟩ | hheld
    · exact .inl (hlt.trans_le (EventMachine.rel_of_prefix htrace hpre y hy))
    · exact .inr hheld
  · intro x hx storeKey deadline hdeadline
    rcases List.mem_append.1 hx with hx | hx
    · rcases hinv x hx storeKey deadline hdeadline with ⟨y, hy, hlt⟩ | hheld
      · exact .inl ⟨y, List.mem_append_left _ hy, hlt⟩
      · by_cases hnow : e.time ≤ deadline
        · -- the call comes after `x`, so a commit in it cannot shorten the deadline
          have hx_le := EventMachine.rel_of_prefix htrace hpre x hx
          exact .inr (hheld.next e hnow ((heldFrom_le hdeadline).trans (by
            simpa using hx_le)))
        · exact .inl ⟨_, List.mem_append_right _ (List.mem_singleton_self _), not_le.1 hnow⟩
    · rw [List.mem_singleton] at hx
      subst hx
      exact .inr (heldUntil_next_of_heldFrom hdeadline)

/-- A logged preflight of `key` that was told to proceed. -/
def ProceedsAt (key : IdempotencyKey) (now : ℚ) (t : IdempotencyCall Payload β) : Prop :=
  ∃ payload, t.event = .preflight key payload now ∧ t.answer = some .proceed

/-- A logged commit of `key`. -/
def CommitsAt (key : IdempotencyKey) (now : ℚ) (t : IdempotencyCall Payload β) : Prop :=
  ∃ body, t.event = .commit key body now

/-- **At most once, under the lease.** With a non-decreasing clock, a request is told to proceed
    only after the lease of every earlier request with its key has run out, and after the recorded
    response of every earlier commit of its key has. -/
theorem proceed_after_deadlines (store : IdempotencyStore β)
    {es : List (IdempotencyEvent Payload β)}
    (hclock : es.Pairwise (fun e e' => e.time ≤ e'.time))
    {h : List (IdempotencyCall Payload β)} {t : IdempotencyCall Payload β}
    (hpre : h ++ [t] <+: (idempotencyMachine fingerprint).trace store es)
    {key : IdempotencyKey} {now : ℚ} (ht : ProceedsAt key now t) :
    ∀ x ∈ h, ∀ earlier,
      (ProceedsAt key earlier x → earlier + PENDING_TTL_SECONDS < now) ∧
      (CommitsAt key earlier x → earlier + IDEMPOTENCY_TTL_SECONDS < now) := by
  obtain ⟨payload, hevent, hanswer⟩ := ht
  -- whatever deadline an earlier call gave this key, it has passed
  have hpassed : ∀ x ∈ h, ∀ deadline, heldFrom x = some (key.storeKey, deadline) →
      deadline < now := by
    intro x hx deadline hdeadline
    rcases heldUntil_of_mem_trace store hclock h t hpre x hx _ _ hdeadline with hlt | hheld
    · simpa [hevent, IdempotencyEvent.time] using hlt
    · by_contra hnow
      have hmem : t ∈ (idempotencyMachine fingerprint).trace store es :=
        hpre.subset (List.mem_append_right _ (List.mem_singleton_self t))
      have hentry := (idempotencyMachine fingerprint).eq_entry_of_mem_trace hmem
      rw [hentry, hevent] at hanswer
      simp only [EventMachine.entry, idempotencyMachine, Option.some.injEq] at hanswer
      exact hheld.not_proceed (not_lt.1 hnow) hanswer
  intro x hx earlier
  constructor
  · rintro ⟨payload', hxevent, hxanswer⟩
    exact hpassed x hx _ (by simp [heldFrom, hxevent, hxanswer])
  · rintro ⟨body, hxevent⟩
    exact hpassed x hx _ (by simp [heldFrom, hxevent])

/-- The fingerprints of two payloads, each given as its canonical JSON. -/
def amountFingerprint : Fingerprint String where
  of json :=
    if json = "\x7b\"amount\": 1\x7d" then "8c37069c637bad18"
    else if json = "\x7b\"amount\": 2\x7d" then "7af26f9b6f1c0ab2"
    else "0000000000000000"
  length_of json := by
    split_ifs
    · decide
    · decide
    · decide

/-- The key of a payment initialization. -/
def initializeKey (idempotencyKey : String) : IdempotencyKey :=
  ⟨"paystack_initialize", "public", idempotencyKey⟩

/-- A preflight of the payload `1` under the key `k`. -/
def preflightOne (now : ℚ) : IdempotencyEvent String String :=
  .preflight (initializeKey "k") "\x7b\"amount\": 1\x7d" now

/-- The second request takes the first one's lease over and runs too: neither has committed. -/
theorem two_requests_proceed :
    ((idempotencyMachine amountFingerprint).trace .empty [preflightOne 0, preflightOne 31]).map
      (·.answer) = [some .proceed, some .proceed] := by
  decide +kernel

/-- The second request proceeds one second after the first one's lease has run out. -/
theorem lease_over_before_second_proceed : 0 + PENDING_TTL_SECONDS < 31 := by
  let run : List (IdempotencyEvent String String) := [preflightOne 0, preflightOne 31]
  have hclock : run.Pairwise (fun e e' => e.time ≤ e'.time) := by
    simp [run, preflightOne, IdempotencyEvent.time]
  have hlast : ProceedsAt (initializeKey "k") 31 ((idempotencyMachine amountFingerprint).entry
      ((idempotencyMachine amountFingerprint).next .empty (preflightOne 0)) (preflightOne 31)) :=
    ⟨_, rfl, by decide +kernel⟩
  have hfirst : ProceedsAt (initializeKey "k") 0
      ((idempotencyMachine amountFingerprint).entry .empty (preflightOne 0)) :=
    ⟨_, rfl, by decide +kernel⟩
  exact (proceed_after_deadlines amountFingerprint .empty hclock List.prefix_rfl hlast _
    (List.mem_singleton_self _) 0).1 hfirst

/-! ## Whose response an entry holds -/

/-- A response body with the payload of the request that produced it. The code never looks into a
    body, so the tag changes nothing it does. -/
structure Produced (Payload : Type) where
  body : Record
  request : Payload

variable (store : IdempotencyStore (Produced Payload))

/-- **Entry integrity**: a recorded response was produced by a payload with the entry's
    fingerprint. -/
def OwnResponses : Prop :=
  ∀ storeKey entry produced, store.get? storeKey = some entry → entry.state = .done produced →
    fingerprint.of produced.request = entry.fingerprint

/-- A commit finds an entry with its own payload's fingerprint under its key. -/
def CommitsOwnClaim :
    IdempotencyEvent Payload (Produced Payload) → Prop
  | .preflight _ _ _ => True
  | .commit key produced _ =>
    ∃ entry, store.get? key.storeKey = some entry ∧
      entry.fingerprint = fingerprint.of produced.request

/-- A preflight keeps entry integrity: it drops entries or adds a pending one. -/
theorem OwnResponses.preflight {fingerprint : Fingerprint Payload}
    {store : IdempotencyStore (Produced Payload)} (h : OwnResponses fingerprint store)
    (storeKey fp : String) (now : ℚ) :
    OwnResponses fingerprint (idempotencyPreflight storeKey fp now store).1 := by
  intro k entry produced hget hdone
  rcases idempotencyPreflight_cases storeKey fp now store with ⟨-, hnext, -⟩ | ⟨-, hnext, -⟩
  · rw [hnext, Dict.get?_set] at hget
    split at hget
    · rw [Option.some.injEq] at hget
      subst hget
      simp [pendingEntry] at hdone
    · exact h k entry produced (get?_of_get?_pruneExpired hget) hdone
  · rw [hnext] at hget
    exact h k entry produced (get?_of_get?_pruneExpired hget) hdone

/-- A commit keeps entry integrity exactly if it finds its own claim. -/
theorem ownResponses_commit_iff {fingerprint : Fingerprint Payload}
    {store : IdempotencyStore (Produced Payload)} (h : OwnResponses fingerprint store)
    (storeKey : String) (produced : Produced Payload) (now : ℚ) :
    OwnResponses fingerprint (idempotencyCommit storeKey produced now store) ↔
      ∃ entry, store.get? storeKey = some entry ∧
        entry.fingerprint = fingerprint.of produced.request := by
  constructor
  · intro hnext
    have hfp := hnext storeKey _ produced (Dict.get?_set_self ..) rfl
    cases hget : store.get? storeKey with
    | none =>
      rw [hget] at hfp
      exact absurd hfp (fingerprint.of_ne_empty _)
    | some entry =>
      rw [hget] at hfp
      exact ⟨entry, rfl, hfp.symm⟩
  · rintro ⟨own, hown, hfp⟩ k entry produced' hget hdone
    rw [idempotencyCommit, Dict.get?_set] at hget
    split at hget
    · rw [Option.some.injEq] at hget
      subst hget
      simp only [IdempotencyPhase.done.injEq] at hdone
      subst hdone
      simp [hown, hfp]
    · exact h k entry produced' hget hdone

theorem ownResponses_next_iff {fingerprint : Fingerprint Payload}
    (store : IdempotencyStore (Produced Payload)) (e : IdempotencyEvent Payload (Produced Payload))
    (h : OwnResponses fingerprint store) :
    OwnResponses fingerprint ((idempotencyMachine fingerprint).next store e) ↔
      CommitsOwnClaim fingerprint store e := by
  cases e with
  | preflight key payload now =>
    exact iff_true_intro (h.preflight key.storeKey (fingerprint.of payload) now)
  | commit key produced now => exact ownResponses_commit_iff h key.storeKey produced now

theorem OwnResponses.replay {fingerprint : Fingerprint Payload}
    {store : IdempotencyStore (Produced Payload)} (h : OwnResponses fingerprint store)
    {storeKey : String} {payload : Payload} {now : ℚ} {produced : Produced Payload}
    (hreplay : (idempotencyPreflight storeKey (fingerprint.of payload) now store).2
      = .replay produced) :
    fingerprint.of produced.request = fingerprint.of payload := by
  rcases idempotencyPreflight_cases storeKey (fingerprint.of payload) now store with
    ⟨hproceed, -, -⟩ | ⟨-, -, hbody⟩
  · rw [hproceed] at hreplay
    exact absurd hreplay (by simp)
  · obtain ⟨entry, hget, hfp, hdone⟩ := hbody produced hreplay
    rw [h storeKey entry produced (get?_of_get?_pruneExpired hget) hdone, hfp]

/-- **Entry integrity along runs.** From a store with entry integrity (the empty one, say), all
    states of a run have it exactly if every commit finds its own claim in the store; then every
    replayed response was produced by a payload with the caller's fingerprint. -/
theorem ownResponses_always_iff (hstore : OwnResponses fingerprint store)
    (es : List (IdempotencyEvent Payload (Produced Payload))) :
    ((idempotencyMachine fingerprint).Always (OwnResponses fingerprint) store es ↔
      ∀ t ∈ (idempotencyMachine fingerprint).trace store es,
        CommitsOwnClaim fingerprint t.pre t.event) ∧
    ((∀ t ∈ (idempotencyMachine fingerprint).trace store es,
        CommitsOwnClaim fingerprint t.pre t.event) →
      ∀ t ∈ (idempotencyMachine fingerprint).trace store es, ∀ key payload now produced,
        t.event = .preflight key payload now → t.answer = some (.replay produced) →
        fingerprint.of produced.request = fingerprint.of payload) := by
  have hiff := (idempotencyMachine fingerprint).always_iff_guarded
    (fun s e => ownResponses_next_iff s e) hstore es
  refine ⟨hiff, fun hcommits t ht key payload now produced hevent hanswer => ?_⟩
  have hpre := (hiff.2 hcommits).pre _ ht
  have hentry := (idempotencyMachine fingerprint).eq_entry_of_mem_trace ht
  rw [hentry, hevent] at hanswer
  simp only [EventMachine.entry, idempotencyMachine, Option.some.injEq] at hanswer
  exact hpre.replay hanswer

/-! ## A late commit after a reclaim -/

theorem ownResponses_empty :
    OwnResponses fingerprint .empty := by
  intro storeKey entry produced hget
  simp at hget

theorem run_claims_entries (payload : Payload) (now : ℚ)
    (keys : List IdempotencyKey) (hnodup : (keys.map IdempotencyKey.storeKey).Nodup)
    (store : IdempotencyStore β) (hlive : ∀ e ∈ store.entries, now ≤ e.2.expiresAt)
    (hfree : ∀ key ∈ keys, key.storeKey ∉ store.keys) :
    ((idempotencyMachine fingerprint).run store
        (keys.map (fun key => .preflight key payload now))).entries
      = store.entries ++ keys.map
          (fun key => (key.storeKey, pendingEntry (fingerprint.of payload) now)) := by
  induction keys generalizing store with
  | nil => simp
  | cons key keys ih =>
    rw [List.map_cons, List.nodup_cons] at hnodup
    have hpruned := pruneExpired_of_live hlive
    have hkeys : (pruneExpired now store).keys = store.keys := by rw [Dict.keys, hpruned]; rfl
    have hfree_key : key.storeKey ∉ (pruneExpired now store).keys := by
      rw [hkeys]
      exact hfree key List.mem_cons_self
    -- the store after the first claim
    have hnext : ((idempotencyMachine fingerprint).next store
        (.preflight key payload now)).entries
        = store.entries ++ [(key.storeKey, pendingEntry (fingerprint.of payload) now)] := by
      rw [idempotencyMachine_preflight,
        idempotencyPreflight_of_free ((Dict.get?_eq_none_iff ..).2 hfree_key),
        Dict.entries_set_of_not_mem _ _ hfree_key, hpruned]
    rw [List.map_cons, EventMachine.run_cons, ih hnodup.2, hnext, List.map_cons,
      List.append_assoc, List.singleton_append]
    · intro e he
      rw [hnext, List.mem_append, List.mem_singleton] at he
      rcases he with he | rfl
      · exact hlive e he
      · show now ≤ now + PENDING_TTL_SECONDS
        norm_num [PENDING_TTL_SECONDS]
    · intro key' hkey'
      rw [Dict.keys, hnext, List.map_append, List.mem_append, not_or]
      refine ⟨hfree key' (List.mem_cons_of_mem _ hkey'), ?_⟩
      intro hmem
      simp only [List.map_cons, List.map_nil, List.mem_singleton] at hmem
      exact hnodup.1 (hmem ▸ List.mem_map_of_mem hkey')

/-- The keys `k`, `kk`, and so on up to 101 letters. -/
def crowd : List IdempotencyKey :=
  (List.range 101).map (fun i => initializeKey (String.ofList (List.replicate (i + 1) 'k')))

theorem crowd_nodup : (crowd.map IdempotencyKey.storeKey).Nodup := by
  rw [crowd, List.map_map]
  refine List.nodup_range.map (fun i j hij => ?_)
  have hlen := congrArg String.length hij
  simp only [Function.comp_apply, IdempotencyKey.storeKey, initializeKey, String.length_append,
    String.length_ofList, List.length_replicate] at hlen
  omega

/-- The payload with this amount. -/
def amountPayload (amount : String) : String := "\x7b\"amount\": " ++ amount ++ "\x7d"

/-- The commit of the request with the payload `1` under the key `k`. -/
def commitOne (now : ℚ) : IdempotencyEvent String (Produced String) :=
  .commit (initializeKey "k") ⟨Dict.ofList [("status", .str "ok")], amountPayload "1"⟩ now

/-- The payload `1` claims `k`, and a hundred other keys are claimed with it; after the leases have
    run out the payload `2` claims `k`, since the crowded store is pruned; then the first request
    commits. -/
def lateCommitRun : List (IdempotencyEvent String (Produced String)) :=
  crowd.map (fun key => .preflight key (amountPayload "1") 0) ++
    [.preflight (initializeKey "k") (amountPayload "2") 31, commitOne 32]

/-- A commit after another payload's claim of a free key keeps that payload's fingerprint. -/
theorem get?_commit_after_claim {store : IdempotencyStore β} {storeKey : String}
    {claimed : ℚ} (fp : String) (now : ℚ) (body : β)
    (hfree : (pruneExpired claimed store).get? storeKey = none) :
    (idempotencyCommit storeKey body now
        (idempotencyPreflight storeKey fp claimed store).1).get? storeKey
      = some ⟨fp, .done body, now + IDEMPOTENCY_TTL_SECONDS⟩ := by
  rw [idempotencyPreflight_of_free hfree, idempotencyCommit, Dict.get?_set_self, Dict.get?_set_self]
  rfl

/-- The late commit files the response to the payload `1` under the fingerprint of the payload
    `2`. -/
theorem lateCommitRun_not_ownResponses :
    OwnResponses amountFingerprint .empty ∧
      ¬ (idempotencyMachine amountFingerprint).Always (OwnResponses amountFingerprint) .empty
        lateCommitRun := by
  refine ⟨ownResponses_empty amountFingerprint, fun h => ?_⟩
  have hfinal := h.run
  rw [lateCommitRun, EventMachine.run_append] at hfinal
  have hentries := run_claims_entries amountFingerprint (amountPayload "1") 0 crowd crowd_nodup
    (.empty : IdempotencyStore (Produced String)) (by simp [Dict.empty])
    (by simp [Dict.empty, Dict.keys])
  generalize (idempotencyMachine amountFingerprint).run .empty
    (crowd.map (fun key => .preflight key (amountPayload "1") 0)) = store at hfinal hentries
  -- 101 entries, all expired at 31: the key is free again
  have hfree : (pruneExpired 31 store).get? (initializeKey "k").storeKey = none := by
    refine get?_pruneExpired_of_expired ?_ ?_ _
    · simp [Dict.size, hentries, Dict.empty, crowd]
    · intro e he
      rw [hentries] at he
      obtain ⟨key, -, rfl⟩ := List.mem_map.1 he
      show (0 : ℚ) + PENDING_TTL_SECONDS < 31
      norm_num [PENDING_TTL_SECONDS]
  rw [commitOne, EventMachine.run_cons, EventMachine.run_cons, EventMachine.run_nil,
    idempotencyMachine_preflight, idempotencyMachine_commit] at hfinal
  have hown := hfinal _ _ _ (get?_commit_after_claim _ _ _ hfree) rfl
  exact absurd hown (by decide)

/-- A request that commits within its lease records its own response. -/
theorem ownResponses_always_commitInLease :
    (idempotencyMachine amountFingerprint).Always (OwnResponses amountFingerprint) .empty
      [.preflight (initializeKey "k") (amountPayload "1") 0, commitOne 10] := by
  refine (ownResponses_always_iff amountFingerprint .empty
    (ownResponses_empty amountFingerprint) _).1.2 ?_
  intro t ht
  simp only [EventMachine.trace_cons, EventMachine.trace_nil, List.mem_cons, List.not_mem_nil,
    or_false] at ht
  rcases ht with rfl | rfl
  · exact trivial
  · exact ⟨_, rfl, by decide⟩

end Ekaette
