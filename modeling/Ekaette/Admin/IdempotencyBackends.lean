import Ekaette.Admin.Idempotency

set_option autoImplicit false

/-! # The two idempotency backends

The preflight and the commit over the store in memory and over Firestore, with the same readings of
the clock and no failing access. The backends agree until a preflight comes for a key whose entry
has expired: in memory the entry is pruned and the request executes, in Firestore it is rejected. -/

namespace Ekaette

variable {Payload β : Type}

/-! ## The calls -/

inductive AdminEvent (Payload β : Type) where
  /-- `_idempotency_preflight`, with the key or the response of the key dependency -/
  | preflight (scope tenantId : String) (payload : Payload)
      (idempotencyKeyOrResponse : Except AdminRejection String)
  /-- `_idempotency_commit` -/
  | commit (scope tenantId : String) (idempotencyKey fingerprint : Option String) (statusCode : ℤ)
      (body : β)

inductive AdminAnswer (β : Type) where
  | decided (decision : AdminDecision β)
  | response (statusCode : ℤ) (body : β)

/-- The two operations of a backend. -/
structure AdminBackend (Payload β : Type) where
  beginWithKey : AdminKey → Payload → ℚ → AdminStore β → AdminStore β × AdminDecision β
  record : AdminKey → String → ℤ → β → ℚ → AdminStore β → AdminStore β

/-- What a commit records: nothing without a key and a fingerprint. -/
def committedKey (scope tenantId : String) (idempotencyKey fingerprint : Option String) :
    Option (AdminKey × String) :=
  match idempotencyKey, fingerprint with
  | some idempotencyKey, some fingerprint =>
    if idempotencyKey = "" ∨ fingerprint = "" then none
    else some (⟨scope, tenantId, idempotencyKey⟩, fingerprint)
  | _, _ => none

/-- `_idempotency_preflight` and `_idempotency_commit` over a backend. -/
def adminMachine (backend : AdminBackend Payload β) :
    EventMachine (AdminStore β) (Timed ℚ (AdminEvent Payload β)) (AdminAnswer β) where
  step store e :=
    match e.event with
    | .preflight scope tenantId payload idempotencyKeyOrResponse =>
      match idempotencyKeyOrResponse with
      | .error response => (store, .decided (.rejected response))
      | .ok idempotencyKey =>
        let r := backend.beginWithKey ⟨scope, tenantId, idempotencyKey⟩ payload e.now store
        (r.1, .decided r.2)
    | .commit scope tenantId idempotencyKey fingerprint statusCode body =>
      match committedKey scope tenantId idempotencyKey fingerprint with
      | none => (store, .response statusCode body)
      | some (key, fingerprint) =>
        (backend.record key fingerprint statusCode body e.now store, .response statusCode body)

section Steps

variable (backend : AdminBackend Payload β) (store : AdminStore β) (now : ℚ)
    (scope tenantId : String)

@[simp] theorem adminMachine_response (payload : Payload) (response : AdminRejection) :
    (adminMachine backend).step store ⟨now, .preflight scope tenantId payload (.error response)⟩ =
      (store, .decided (.rejected response)) := rfl

@[simp] theorem adminMachine_preflight (payload : Payload) (idempotencyKey : String) :
    (adminMachine backend).step store ⟨now, .preflight scope tenantId payload (.ok idempotencyKey)⟩
      = ((backend.beginWithKey ⟨scope, tenantId, idempotencyKey⟩ payload now store).1,
        .decided (backend.beginWithKey ⟨scope, tenantId, idempotencyKey⟩ payload now store).2) :=
          rfl

theorem adminMachine_commit (idempotencyKey fingerprint : Option String) (statusCode : ℤ)
    (body : β) : (adminMachine backend).step store
        ⟨now, .commit scope tenantId idempotencyKey fingerprint statusCode body⟩ =
      (match committedKey scope tenantId idempotencyKey fingerprint with
        | none => store
        | some (key, fingerprint) => backend.record key fingerprint statusCode body now store,
        .response statusCode body) := by
  show (match committedKey scope tenantId idempotencyKey fingerprint with
    | none => (store, AdminAnswer.response statusCode body)
    | some (key, fingerprint) => (backend.record key fingerprint statusCode body now store,
        .response statusCode body)) = _
  cases committedKey scope tenantId idempotencyKey fingerprint <;> rfl

end Steps

variable (cfg : AdminIdempotency Payload β)

def memoryBackend : AdminBackend Payload β := ⟨memoryBeginWithKey cfg, memoryRecord cfg⟩

def firestoreBackend : AdminBackend Payload β := ⟨firestoreBeginWithKey cfg, firestoreRecord cfg⟩

/-- The key whose entry an event reads or writes. -/
def AdminEvent.key? : AdminEvent Payload β → Option AdminKey
  | .preflight scope tenantId _ idempotencyKeyOrResponse =>
    idempotencyKeyOrResponse.toOption.map (fun idempotencyKey => ⟨scope, tenantId, idempotencyKey⟩)
  | .commit scope tenantId idempotencyKey fingerprint _ _ =>
    (committedKey scope tenantId idempotencyKey fingerprint).map Prod.fst

/-! ## The conditions -/

/-- A preflight finds no expired document under its key. -/
def findsLive (docs : AdminStore β) (e : Timed ℚ (AdminEvent Payload β)) : Bool :=
  match e.event with
  | .preflight scope tenantId _ (.ok idempotencyKey) =>
    (docs.get? (cfg.docId ⟨scope, tenantId, idempotencyKey⟩)).all
      (fun entry => decide (e.now < entry.expiresAt))
  | _ => true

theorem findsLive_preflight (docs : AdminStore β) (now : ℚ) (scope tenantId idempotencyKey : String)
    (payload : Payload) :
    findsLive cfg docs ⟨now, .preflight scope tenantId payload (.ok idempotencyKey)⟩ =
      (docs.get? (cfg.docId ⟨scope, tenantId, idempotencyKey⟩)).all
        (fun entry => decide (now < entry.expiresAt)) := rfl

/-- A committed body replaces the one it is merged into, as the first one committed under a key
    does. -/
def CommitReplaces (docs : AdminStore β) (e : Timed ℚ (AdminEvent Payload β)) : Prop :=
  ∀ scope tenantId idempotencyKey fingerprint statusCode body,
    e.event = .commit scope tenantId idempotencyKey fingerprint statusCode body →
    ∀ key fp entry, committedKey scope tenantId idempotencyKey fingerprint = some (key, fp) →
      docs.get? (cfg.docId key) = some entry → cfg.mergeBody entry.body body = body

/-- The store keys of the run are told apart by their digests. -/
def DigestsDistinct (es : List (Timed ℚ (AdminEvent Payload β))) : Prop :=
  ∀ e ∈ es, ∀ e' ∈ es, ∀ key key', e.event.key? = some key → e'.event.key? = some key' →
    cfg.docId key = cfg.docId key' → key.storeKey = key'.storeKey

/-! ## Agreeing stores -/

/-- The entry of a key in Firestore and in memory: the same, unless memory has pruned it as
    expired. -/
def EntriesAgree (es : List (Timed ℚ (AdminEvent Payload β))) (doc cached : Option (AdminEntry β)) :
    Prop :=
  match doc with
  | none => cached = none
  | some entry => cached = some entry ∨ (cached = none ∧ ∀ e ∈ es, entry.expiresAt ≤ e.now)

/-- The two stores before the events to come, on the store keys of the run. -/
structure StoresAgree (keys : Set String) (es : List (Timed ℚ (AdminEvent Payload β)))
    (docs store : AdminStore β) : Prop where
  distinct : Set.InjOn cfg.sha256Hex keys
  inKeys : ∀ e ∈ es, ∀ key, e.event.key? = some key → key.storeKey ∈ keys
  clock : es.Pairwise (fun e e' => e.now ≤ e'.now)
  replaces : ∀ t ∈ (adminMachine (firestoreBackend cfg)).trace docs es,
    CommitReplaces cfg t.pre t.event
  entries : ∀ k ∈ keys, EntriesAgree es (docs.get? (cfg.sha256Hex k)) (store.get? k)

section Agreement

variable {cfg} {keys : Set String} {e : Timed ℚ (AdminEvent Payload β)}
  {es : List (Timed ℚ (AdminEvent Payload β))} {docs docs' store store' : AdminStore β}
  {key : AdminKey} {payload : Payload}

theorem get?_idempotencyPrune (now : ℚ) (store : AdminStore β) (k : String) :
    (idempotencyPrune now store).get? k =
      (store.get? k).filter (fun entry => !decide (entry.expiresAt ≤ now)) := by
  rw [idempotencyPrune, Dict.get?_filter]

/-- Agreement looks at fewer events as they happen. -/
theorem EntriesAgree.tail {doc cached : Option (AdminEntry β)}
    (h : EntriesAgree (e :: es) doc cached) : EntriesAgree es doc cached := by
  cases doc with
  | none => exact h
  | some entry =>
    rcases h with hsame | ⟨hpruned, hexpired⟩
    · exact .inl hsame
    · exact .inr ⟨hpruned, fun e' he' => hexpired e' (List.mem_cons_of_mem _ he')⟩

theorem EntriesAgree.prune {doc cached : Option (AdminEntry β)}
    (h : EntriesAgree (e :: es) doc cached) (hclock : ∀ e' ∈ es, e.now ≤ e'.now) :
    EntriesAgree es doc (cached.filter (fun entry => !decide (entry.expiresAt ≤ e.now))) := by
  cases doc with
  | none =>
    have hcached : cached = none := h
    rw [hcached]
    rfl
  | some entry =>
    rcases h with rfl | ⟨rfl, hexpired⟩
    · by_cases hentry : entry.expiresAt ≤ e.now
      · refine .inr ⟨?_, fun e' he' => hentry.trans (hclock e' he')⟩
        rw [Option.filter_some_neg (by simpa using hentry)]
      · refine .inl ?_
        rw [Option.filter_some_pos (by simpa using hentry)]
    · exact .inr ⟨rfl, fun e' he' => hexpired e' (List.mem_cons_of_mem _ he')⟩

theorem StoresAgree.clock_le (h : StoresAgree cfg keys (e :: es) docs store) :
    ∀ e' ∈ es, e.now ≤ e'.now := (List.pairwise_cons.1 h.clock).1

theorem StoresAgree.next (h : StoresAgree cfg keys (e :: es) docs store)
    (hentries : ∀ k ∈ keys, EntriesAgree es
      (((adminMachine (firestoreBackend cfg)).next docs e).get? (cfg.sha256Hex k)) (store'.get? k))
        :
    StoresAgree cfg keys es ((adminMachine (firestoreBackend cfg)).next docs e) store' where
  distinct := h.distinct
  inKeys := fun e' he' => h.inKeys e' (List.mem_cons_of_mem _ he')
  clock := (List.pairwise_cons.1 h.clock).2
  replaces := fun t ht => h.replaces t (List.mem_cons_of_mem _ ht)
  entries := hentries

theorem StoresAgree.set (h : StoresAgree cfg keys (e :: es) docs store) (hkey : key.storeKey ∈ keys)
    (hothers : ∀ k ∈ keys, k ≠ key.storeKey → EntriesAgree es (docs.get? (cfg.sha256Hex k))
      (store'.get? k))
    (entry : AdminEntry β) :
    ∀ k ∈ keys, EntriesAgree es ((docs.set (cfg.docId key) entry).get? (cfg.sha256Hex k))
      ((store'.set key.storeKey entry).get? k) := by
  intro k hk
  by_cases hsame : k = key.storeKey
  · rw [hsame, Dict.get?_set_self, AdminIdempotency.docId, Dict.get?_set_self]
    exact .inl rfl
  · have hdoc : cfg.sha256Hex k ≠ cfg.docId key := fun heq => hsame (h.distinct hk hkey heq)
    rw [Dict.get?_set_of_ne _ _ hsame, Dict.get?_set_of_ne _ _ hdoc]
    exact hothers k hk hsame

variable {now : ℚ}

theorem memoryBeginWithKey_live {entry : AdminEntry β}
    (hget : store.get? key.storeKey = some entry) (hlive : now < entry.expiresAt) :
    memoryBeginWithKey cfg key payload now store =
      (idempotencyPrune now store, cfg.decideOnDoc payload now entry) := by
  have hpruned : (idempotencyPrune now store).get? key.storeKey = some entry := by
    rw [get?_idempotencyPrune, hget, Option.filter_some_pos (by simpa using hlive)]
  unfold memoryBeginWithKey AdminIdempotency.decideOnDoc
  dsimp only
  rw [hpruned]
  dsimp only
  by_cases hfp : entry.fingerprint ≠ cfg.fingerprint payload
  · rw [if_pos hfp, if_pos hfp]
  · rw [if_neg hfp, if_neg hfp]
    cases entry.state with
    | done => simp [hlive]
    | pending => simp [not_le.2 hlive]

/-- Without a live entry memory executes. -/
theorem memoryBeginWithKey_absent (hget : (idempotencyPrune now store).get? key.storeKey = none) :
    memoryBeginWithKey cfg key payload now store =
      ((idempotencyPrune now store).set key.storeKey
        (cfg.pendingRecord (cfg.fingerprint payload) now),
        .execute key.idempotencyKey (cfg.fingerprint payload)) := by
  unfold memoryBeginWithKey
  dsimp only
  rw [hget]

/-! ## One call -/

theorem StoresAgree.preflight_entries {scope tenantId idempotencyKey : String}
    (h : StoresAgree cfg keys
      (⟨now, .preflight scope tenantId payload (.ok idempotencyKey)⟩ :: es) docs store) :
    AdminKey.storeKey ⟨scope, tenantId, idempotencyKey⟩ ∈ keys ∧
      EntriesAgree (⟨now, .preflight scope tenantId payload (.ok idempotencyKey)⟩ :: es)
        (docs.get? (cfg.docId ⟨scope, tenantId, idempotencyKey⟩))
        (store.get? (AdminKey.storeKey ⟨scope, tenantId, idempotencyKey⟩)) := by
  have hkey := h.inKeys _ List.mem_cons_self ⟨scope, tenantId, idempotencyKey⟩ rfl
  exact ⟨hkey, h.entries _ hkey⟩

theorem StoresAgree.pruned (h : StoresAgree cfg keys (e :: es) docs store) :
    ∀ k ∈ keys, EntriesAgree es (docs.get? (cfg.sha256Hex k))
    ((idempotencyPrune e.now store).get? k) := by
  intro k hk
  rw [get?_idempotencyPrune]
  exact (h.entries k hk).prune h.clock_le

/-- What a preflight does to agreeing stores: without an entry both execute, on a live one both
    decide alike, and an expired one is executed in memory and rejected by Firestore. -/
theorem StoresAgree.preflight_cases {scope tenantId idempotencyKey : String}
    (h : StoresAgree cfg keys
      (⟨now, .preflight scope tenantId payload (.ok idempotencyKey)⟩ :: es) docs store) :
    (docs.get? (cfg.docId ⟨scope, tenantId, idempotencyKey⟩) = none ∧
      memoryBeginWithKey cfg ⟨scope, tenantId, idempotencyKey⟩ payload now store =
        ((idempotencyPrune now store).set (AdminKey.storeKey ⟨scope, tenantId, idempotencyKey⟩)
          (cfg.pendingRecord (cfg.fingerprint payload) now),
          .execute idempotencyKey (cfg.fingerprint payload))) ∨
    (∃ entry, docs.get? (cfg.docId ⟨scope, tenantId, idempotencyKey⟩) = some entry ∧
      now < entry.expiresAt ∧
      memoryBeginWithKey cfg ⟨scope, tenantId, idempotencyKey⟩ payload now store =
        (idempotencyPrune now store, cfg.decideOnDoc payload now entry)) ∨
    (∃ entry, docs.get? (cfg.docId ⟨scope, tenantId, idempotencyKey⟩) = some entry ∧
      entry.expiresAt ≤ now ∧
      (memoryBeginWithKey cfg ⟨scope, tenantId, idempotencyKey⟩ payload now store).2 =
        .execute idempotencyKey (cfg.fingerprint payload)) := by
  obtain ⟨hkey, hentries⟩ := h.preflight_entries
  have hpruned : EntriesAgree es (docs.get? (cfg.docId ⟨scope, tenantId, idempotencyKey⟩))
      ((idempotencyPrune now store).get? (AdminKey.storeKey ⟨scope, tenantId, idempotencyKey⟩)) :=
    h.pruned _ hkey
  cases hdoc : docs.get? (cfg.docId ⟨scope, tenantId, idempotencyKey⟩) with
  | none =>
    rw [hdoc] at hpruned
    exact .inl ⟨rfl, memoryBeginWithKey_absent hpruned⟩
  | some entry =>
    rw [hdoc] at hentries
    right
    by_cases hlive : now < entry.expiresAt
    · left
      rcases hentries with hsame | ⟨-, hexpired⟩
      · exact ⟨entry, rfl, hlive, memoryBeginWithKey_live hsame hlive⟩
      · exact absurd hlive (not_lt.2 (hexpired _ List.mem_cons_self))
    · right
      refine ⟨entry, rfl, not_lt.1 hlive, ?_⟩
      rw [memoryBeginWithKey_absent]
      rcases hentries with hsame | ⟨hnone, -⟩
      · rw [get?_idempotencyPrune, hsame,
          Option.filter_some_neg (by simpa using not_lt.1 hlive)]
      · rw [get?_idempotencyPrune, hnone]
        rfl

theorem firestoreBeginWithKey_absent (hdoc : docs.get? (cfg.docId key) = none) :
    firestoreBeginWithKey cfg key payload now docs =
      (docs.set (cfg.docId key) (cfg.pendingRecord (cfg.fingerprint payload) now),
        .execute key.idempotencyKey (cfg.fingerprint payload)) := by
  rw [firestoreBeginWithKey, hdoc]

theorem firestoreBeginWithKey_present {entry : AdminEntry β}
    (hdoc : docs.get? (cfg.docId key) = some entry) :
    firestoreBeginWithKey cfg key payload now docs = (docs, cfg.decideOnDoc payload now entry) := by
  rw [firestoreBeginWithKey, hdoc]

/-- **Agreeing stores answer alike** exactly when a preflight finds no expired entry. -/
theorem StoresAgree.answer_iff (h : StoresAgree cfg keys (e :: es) docs store) :
    ((adminMachine (firestoreBackend cfg)).step docs e).2 =
      ((adminMachine (memoryBackend cfg)).step store e).2 ↔ findsLive cfg docs e = true := by
  obtain ⟨now, event⟩ := e
  cases event with
  | commit scope tenantId idempotencyKey fingerprint statusCode body =>
    rw [adminMachine_commit, adminMachine_commit]
    exact ⟨fun _ => rfl, fun _ => rfl⟩
  | preflight scope tenantId payload idempotencyKeyOrResponse =>
    cases idempotencyKeyOrResponse with
    | error response => exact ⟨fun _ => rfl, fun _ => rfl⟩
    | ok idempotencyKey =>
      rw [adminMachine_preflight, adminMachine_preflight, AdminAnswer.decided.injEq]
      show (firestoreBeginWithKey cfg _ payload now docs).2 =
        (memoryBeginWithKey cfg _ payload now store).2 ↔ _
      rcases h.preflight_cases with ⟨hdoc, hmemory⟩ | ⟨entry, hdoc, hlive, hmemory⟩ |
        ⟨entry, hdoc, hexpired, hmemory⟩
      · rw [firestoreBeginWithKey_absent hdoc, hmemory]
        refine ⟨fun _ => ?_, fun _ => rfl⟩
        rw [findsLive_preflight, hdoc]
        rfl
      · rw [firestoreBeginWithKey_present hdoc, hmemory]
        refine ⟨fun _ => ?_, fun _ => rfl⟩
        rw [findsLive_preflight, hdoc]
        exact decide_eq_true hlive
      · rw [firestoreBeginWithKey_present hdoc, hmemory]
        refine ⟨fun hsame => absurd hsame (decideOnDoc_ne_execute _ _ _ _ _), fun hlive => ?_⟩
        rw [findsLive_preflight, hdoc] at hlive
        exact absurd (of_decide_eq_true hlive) (not_lt.2 hexpired)

theorem StoresAgree.step (h : StoresAgree cfg keys (e :: es) docs store)
    (hlive : findsLive cfg docs e = true) :
    StoresAgree cfg keys es ((adminMachine (firestoreBackend cfg)).next docs e)
      ((adminMachine (memoryBackend cfg)).next store e) := by
  apply h.next
  have hreplaces := h.replaces _ List.mem_cons_self
  obtain ⟨now, event⟩ := e
  rw [EventMachine.next, EventMachine.next]
  cases event with
  | commit scope tenantId idempotencyKey fingerprint statusCode body =>
    rw [adminMachine_commit, adminMachine_commit]
    have hin := h.inKeys _ List.mem_cons_self
    cases hcommitted : committedKey scope tenantId idempotencyKey fingerprint with
    | none => exact fun k hk => (h.entries k hk).tail
    | some committed =>
      obtain ⟨key, fp⟩ := committed
      have hkey : key.storeKey ∈ keys := hin key (by
        show (committedKey scope tenantId idempotencyKey fingerprint).map Prod.fst = some key
        rw [hcommitted]
        rfl)
      have hmerge : cfg.mergeDoc (cfg.doneRecord fp statusCode body now)
          (docs.get? (cfg.docId key)) = cfg.doneRecord fp statusCode body now := by
        cases hdoc : docs.get? (cfg.docId key) with
        | none => rfl
        | some entry =>
          have hbody := hreplaces _ _ _ _ _ _ rfl key fp entry hcommitted hdoc
          show ({ cfg.doneRecord fp statusCode body now with
            body := cfg.mergeBody entry.body body } : AdminEntry β) = _
          rw [hbody]
          rfl
      show ∀ k ∈ keys, EntriesAgree es
        ((firestoreRecord cfg key fp statusCode body now docs).get? (cfg.sha256Hex k))
        ((memoryRecord cfg key fp statusCode body now store).get? k)
      rw [firestoreRecord, hmerge, memoryRecord]
      exact h.set hkey (fun k hk _ => (h.entries k hk).tail) _
  | preflight scope tenantId payload idempotencyKeyOrResponse =>
    cases idempotencyKeyOrResponse with
    | error response => exact fun k hk => (h.entries k hk).tail
    | ok idempotencyKey =>
      rw [adminMachine_preflight, adminMachine_preflight]
      show ∀ k ∈ keys, EntriesAgree es
        ((firestoreBeginWithKey cfg _ payload now docs).1.get? (cfg.sha256Hex k))
        ((memoryBeginWithKey cfg _ payload now store).1.get? k)
      rcases h.preflight_cases with ⟨hdoc, hmemory⟩ | ⟨entry, hdoc, -, hmemory⟩ |
        ⟨entry, hdoc, hexpired, -⟩
      · rw [firestoreBeginWithKey_absent hdoc, hmemory]
        exact h.set h.preflight_entries.1 (fun k hk _ => h.pruned k hk) _
      · rw [firestoreBeginWithKey_present hdoc, hmemory]
        exact h.pruned
      · rw [findsLive_preflight, hdoc] at hlive
        exact absurd (of_decide_eq_true hlive) (not_lt.2 hexpired)

end Agreement

/-! ## Any sequence of calls -/

/-- **The backends agree up to expiry.** For every sequence of calls with non-decreasing readings of
    the clock, in which a body is committed over no other response, the two backends answer every
    call alike exactly if no preflight comes for a key whose entry has expired. -/
theorem backends_agree_iff {es : List (Timed ℚ (AdminEvent Payload β))}
    (hclock : es.Pairwise (fun e e' => e.now ≤ e'.now)) (hdistinct : DigestsDistinct cfg es)
    (hreplaces : ∀ t ∈ (adminMachine (firestoreBackend cfg)).trace .empty es,
      CommitReplaces cfg t.pre t.event) :
    (adminMachine (firestoreBackend cfg)).answers .empty es =
        (adminMachine (memoryBackend cfg)).answers .empty es ↔
      ∀ t ∈ (adminMachine (firestoreBackend cfg)).trace .empty es, findsLive cfg t.pre t.event =
      true := by
  have hagree : StoresAgree cfg {k | ∃ e ∈ es, ∃ key, e.event.key? = some key ∧ key.storeKey = k} es
      .empty .empty := by
    refine ⟨?_, fun e he key hkey => ⟨e, he, key, hkey, rfl⟩, hclock, hreplaces, fun k _ => rfl⟩
    rintro - ⟨e, he, key, hkey, rfl⟩ - ⟨e', he', key', hkey', rfl⟩ hsame
    exact hdistinct e he e' he' key key' hkey hkey' hsame
  exact (adminMachine (firestoreBackend cfg)).answers_eq_iff_lockstep
    (adminMachine (memoryBackend cfg))
    (fun e es s t h => h.answer_iff) (fun e es s t h hlive => h.step hlive) hagree

/-- A request claims a key and commits, and is repeated. -/
def committedAdminRun : List (Timed ℚ (AdminEvent String Record)) :=
  [⟨0, .preflight "admin_company" "public" "p" (.ok "k")⟩,
    ⟨1, .commit "admin_company" "public" (some "k") (some "p") 201 .empty⟩,
    ⟨2, .preflight "admin_company" "public" "p" (.ok "k")⟩]

theorem committedAdminRun_agree :
    (adminMachine (firestoreBackend defaultAdminIdempotency)).answers .empty committedAdminRun =
      (adminMachine (memoryBackend defaultAdminIdempotency)).answers .empty committedAdminRun := by
  refine (backends_agree_iff defaultAdminIdempotency ?_ ?_ ?_).2
    (List.all_eq_true.1 (by decide +kernel))
  · simp only [committedAdminRun, List.pairwise_cons, List.mem_cons, List.not_mem_nil, or_false,
      forall_eq_or_imp, forall_eq, List.Pairwise.nil]
    exact ⟨⟨by decide, by decide⟩, by decide, fun _ h => h.elim, trivial⟩
  · intro e _ e' _ key key' _ _ hsame
    exact hsame
  · intro t ht
    rcases List.mem_cons.1 ht with rfl | ht
    · intro scope tenantId idempotencyKey fingerprint statusCode body hevent
      cases hevent
    rcases List.mem_cons.1 ht with rfl | ht
    · intro scope tenantId idempotencyKey fingerprint statusCode body hevent key fp entry hkey
        hentry
      cases hevent
      have hcommitted : committedKey "admin_company" "public" (some "k") (some "p") =
          some (⟨"admin_company", "public", "k"⟩, "p") := by
        unfold committedKey
        exact if_neg (by decide)
      rw [hcommitted] at hkey
      cases hkey
      have hclaimed : (Dict.set (.empty : AdminStore Record) (defaultAdminIdempotency.docId
          ⟨"admin_company", "public", "k"⟩) (defaultAdminIdempotency.pendingRecord "p" 0)).get?
          (defaultAdminIdempotency.docId ⟨"admin_company", "public", "k"⟩) = some entry := hentry
      rw [Dict.get?_set_self] at hclaimed
      rw [← Option.some.inj hclaimed]
      exact defaultAdminIdempotency.mergeBody_empty _
    rcases List.mem_cons.1 ht with rfl | ht
    · intro scope tenantId idempotencyKey fingerprint statusCode body hevent
      cases hevent
    · cases ht

/-- A request is repeated after its claim has expired. -/
def staleAdminRun : List (Timed ℚ (AdminEvent String Record)) :=
  [⟨0, .preflight "admin_company" "public" "p" (.ok "k")⟩,
    ⟨120, .preflight "admin_company" "public" "p" (.ok "k")⟩]

/-- It is told to execute. -/
def AdminAnswer.executes {β : Type} : AdminAnswer β → Bool
  | .decided (.execute _ _) => true
  | _ => false

/-- Memory has it executed again, Firestore turns it away. -/
theorem staleAdminRun_disagree :
    staleAdminRun.Pairwise (fun e e' => e.now ≤ e'.now) ∧
    DigestsDistinct defaultAdminIdempotency staleAdminRun ∧
    (adminMachine (firestoreBackend defaultAdminIdempotency)).answers .empty staleAdminRun ≠
      (adminMachine (memoryBackend defaultAdminIdempotency)).answers .empty staleAdminRun := by
  refine ⟨?_, fun e _ e' _ key key' _ _ hsame => hsame, fun hsame => ?_⟩
  · simp only [staleAdminRun, List.pairwise_cons, List.mem_cons, List.not_mem_nil, or_false,
      forall_eq, List.Pairwise.nil]
    exact ⟨by decide, fun _ h => h.elim, trivial⟩
  · have hfirestore : ((adminMachine (firestoreBackend defaultAdminIdempotency)).answers .empty
        staleAdminRun).map AdminAnswer.executes = [true, false] := by
      decide +kernel
    have hmemory : ((adminMachine (memoryBackend defaultAdminIdempotency)).answers .empty
        staleAdminRun).map AdminAnswer.executes = [true, true] := by
      decide +kernel
    rw [hsame, hmemory] at hfirestore
    exact absurd hfirestore (by decide)

end Ekaette
