import Ekaette.At.IdempotencyIsolation

set_option autoImplicit false

/-! # Requests that commit within their lease

A claim of a key is a lease. As long as every request that was told to proceed commits before its
lease has run out, if it commits at all, nobody else proceeds from a claim until the recorded
response has expired, and the response is replayed exactly. Other keys and the pruning they cause
change nothing. -/

namespace Ekaette

variable {Payload β : Type}

/-! ## Requests -/

/-- A call by a request. -/
structure RequestEvent (Payload β : Type) where
  request : ℕ
  call : IdempotencyEvent Payload β

/-- Requests calling the two functions in any order. -/
def requestMachine (fingerprint : Fingerprint Payload) :
    EventMachine (IdempotencyStore β) (RequestEvent Payload β) (Option (PreflightDecision β)) where
  step store e := (idempotencyMachine fingerprint).step store e.call

/-- A logged call by a request. -/
abbrev RequestEntry (Payload β : Type) :=
  EventMachine.Entry (IdempotencyStore β) (RequestEvent Payload β) (Option (PreflightDecision β))

/-- The call without the request. -/
def plainCall (t : RequestEntry Payload β) : IdempotencyCall Payload β :=
  ⟨t.pre, t.event.call, t.answer⟩

theorem trace_map_plainCall (fingerprint : Fingerprint Payload) (store : IdempotencyStore β)
    (es : List (RequestEvent Payload β)) :
    ((requestMachine fingerprint).trace store es).map plainCall =
      (idempotencyMachine fingerprint).trace store (es.map (·.call)) := by
  induction es generalizing store with
  | nil => rfl
  | cons e es ih =>
    rw [EventMachine.trace_cons, List.map_cons, ih, List.map_cons, EventMachine.trace_cons]
    rfl

/-- The request is told to proceed with the key. -/
def ProceedsAs (r : ℕ) (storeKey : String) (payload : Payload) (now : ℚ)
    (t : RequestEntry Payload β) : Prop :=
  ∃ key, t.event = ⟨r, .preflight key payload now⟩ ∧ key.storeKey = storeKey ∧
    t.answer = some .proceed

/-- The request records its response under the key. -/
def CommitsAs (r : ℕ) (storeKey : String) (body : β) (now : ℚ) (t : RequestEntry Payload β) :
    Prop :=
  ∃ key, t.event = ⟨r, .commit key body now⟩ ∧ key.storeKey = storeKey

/-- **Requests in their lease**: a request makes one preflight and one commit at most, and commits
    only the key it was told to proceed with, no later than the end of its lease. -/
structure InLease (log : List (RequestEntry Payload β)) : Prop where
  preflightOnce : log.Pairwise (fun x y => ∀ r key payload now key' payload' now',
    x.event = ⟨r, .preflight key payload now⟩ → y.event ≠ ⟨r, .preflight key' payload' now'⟩)
  commitOnce : log.Pairwise (fun x y => ∀ r key body now key' body' now',
    x.event = ⟨r, .commit key body now⟩ → y.event ≠ ⟨r, .commit key' body' now'⟩)
  owned : ∀ before t after, log = before ++ t :: after → ∀ r storeKey body now,
    CommitsAs r storeKey body now t → ∃ x ∈ before, ∃ payload claimed,
      ProceedsAs r storeKey payload claimed x ∧ now ≤ claimed + PENDING_TTL_SECONDS

/-! ## Before and after -/

section Order

variable {α : Type} {R : α → α → Prop} {l before after : List α} {x t : α}

theorem rel_of_mem_before (hl : l.Pairwise R) (hsplit : l = before ++ t :: after)
    (hx : x ∈ before) : R x t := by
  rw [hsplit] at hl
  exact (List.pairwise_append.1 hl).2.2 x hx t List.mem_cons_self

theorem rel_of_mem_after (hl : l.Pairwise R) (hsplit : l = before ++ t :: after) (hx : x ∈ after) :
    R t x := by
  rw [hsplit] at hl
  exact (List.pairwise_cons.1 (List.pairwise_append.1 hl).2.1).1 x hx

/-- Where an element of a list is, seen from another. -/
theorem mem_cases (hsplit : l = before ++ t :: after) (hx : x ∈ l) :
    x ∈ before ∨ x = t ∨ x ∈ after := by
  rw [hsplit, List.mem_append, List.mem_cons] at hx
  exact hx

end Order

/-! ## What a claim and a commit hold off -/

section Runs

variable {fingerprint : Fingerprint Payload} {store : IdempotencyStore β}
  {es : List (RequestEvent Payload β)} {x y t : RequestEntry Payload β}
  {before after : List (RequestEntry Payload β)} {r : ℕ} {storeKey : String} {payload : Payload}
  {body : β} {claimed committed : ℚ}

theorem not_proceed_of_heldFrom (hclock : es.Pairwise (fun e e' => e.call.time ≤ e'.call.time))
    (hsplit : (requestMachine fingerprint).trace store es = before ++ t :: after) (hx : x ∈ before)
    {deadline : ℚ} (hheld : heldFrom (plainCall x) = some (storeKey, deadline))
    {key : IdempotencyKey} {payload : Payload} {now : ℚ}
    (ht : t.event.call = .preflight key payload now)
    (hkey : key.storeKey = storeKey) (hnow : now ≤ deadline) : t.answer ≠ some .proceed := by
  have hplain : (es.map (·.call)).Pairwise (fun e e' => e.time ≤ e'.time) :=
    List.pairwise_map.2 hclock
  have hrun : before.map plainCall ++ [plainCall t] <+:
      (idempotencyMachine fingerprint).trace store (es.map (·.call)) := by
    rw [← trace_map_plainCall, hsplit, List.map_append, List.map_cons]
    exact ⟨after.map plainCall, by rw [List.append_assoc, List.singleton_append]⟩
  have htime : (plainCall t).event.time = now := by
    show t.event.call.time = now
    rw [ht]
    rfl
  rcases heldUntil_of_mem_trace store hplain _ _ hrun _ (List.mem_map_of_mem hx) _ _ hheld with
    hpassed | hholds
  · rw [htime] at hpassed
    exact absurd hnow (not_le.2 hpassed)
  · have hmem : plainCall t ∈ (idempotencyMachine fingerprint).trace store (es.map (·.call)) :=
      hrun.subset (List.mem_append_right _ List.mem_cons_self)
    have hentry := (idempotencyMachine fingerprint).eq_entry_of_mem_trace hmem
    have hanswer :
    t.answer = some (idempotencyPreflight key.storeKey (fingerprint.of payload) now t.pre).2 := by
      have hcall := congrArg EventMachine.Entry.answer hentry
      have hevent : (plainCall t).event = .preflight key payload now := ht
      rw [hevent] at hcall
      exact hcall
    rw [hanswer, hkey]
    intro hproceed
    exact hholds.not_proceed hnow (Option.some_inj.1 hproceed)

theorem heldFrom_of_proceedsAs (h : ProceedsAs r storeKey payload claimed x) :
    heldFrom (plainCall x) = some (storeKey, claimed + PENDING_TTL_SECONDS) := by
  obtain ⟨key, hevent, rfl, hanswer⟩ := h
  rw [plainCall, hevent, hanswer]
  rfl

theorem heldFrom_of_commitsAs (h : CommitsAs r storeKey body committed y) :
    heldFrom (plainCall y) = some (storeKey, committed + IDEMPOTENCY_TTL_SECONDS) := by
  obtain ⟨key, hevent, rfl⟩ := h
  rw [plainCall, hevent]
  rfl

theorem time_of_proceedsAs (h : ProceedsAs r storeKey payload claimed x) :
    x.event.call.time = claimed := by
  obtain ⟨key, hevent, -⟩ := h
  rw [hevent]
  rfl

theorem time_of_commitsAs (h : CommitsAs r storeKey body committed y) :
    y.event.call.time = committed := by
  obtain ⟨key, hevent, -⟩ := h
  rw [hevent]
  rfl

/-! ## One call -/

variable {s : IdempotencyStore β}

/-- A call that neither proceeds with a key nor commits it leaves a live entry alone. -/
theorem get?_next_of_untouched {e : RequestEvent Payload β}
    {entry : IdempotencyEntry β} (hget : s.get? storeKey = some entry)
    (hlive : e.call.time ≤ entry.expiresAt)
    (hpreflight : ∀ key payload now, e.call = .preflight key payload now → key.storeKey = storeKey →
      ((requestMachine fingerprint).entry s e).answer ≠ some .proceed)
    (hcommit : ∀ key body now, e.call = .commit key body now → key.storeKey ≠ storeKey) :
    ((requestMachine fingerprint).next s e).get? storeKey = some entry := by
  obtain ⟨r, call⟩ := e
  cases call with
  | preflight key payload now =>
    show (idempotencyPreflight key.storeKey (fingerprint.of payload) now s).1.get? storeKey =
      some entry
    have hpruned : (pruneExpired now s).get? storeKey = some entry :=
      get?_pruneExpired_of_live hget hlive
    rcases idempotencyPreflight_cases key.storeKey (fingerprint.of payload) now s with
      ⟨hproceed, hnext, -⟩ | ⟨-, hnext, -⟩
    · have hother : storeKey ≠ key.storeKey := by
        intro hsame
        exact hpreflight key payload now rfl hsame.symm (congrArg some hproceed)
      rw [hnext, Dict.get?_set_of_ne _ _ hother, hpruned]
    · rw [hnext, hpruned]
  | commit key body now =>
    show (idempotencyCommit key.storeKey body now s).get? storeKey = some entry
    rw [idempotencyCommit, Dict.get?_set_of_ne _ _ (hcommit key body now rfl).symm, hget]

/-- What a claim leaves. -/
theorem get?_next_of_proceedsAs {e : RequestEvent Payload β}
    (h : ProceedsAs r storeKey payload claimed ((requestMachine fingerprint).entry s e)) :
    ((requestMachine fingerprint).next s e).get? storeKey =
      some (pendingEntry (fingerprint.of payload) claimed) := by
  obtain ⟨key, hevent, rfl, hanswer⟩ := h
  rw [EventMachine.entry_event] at hevent
  rw [hevent] at hanswer ⊢
  show (idempotencyPreflight key.storeKey (fingerprint.of payload) claimed s).1.get? key.storeKey =
    _
  rcases idempotencyPreflight_cases key.storeKey (fingerprint.of payload) claimed s with
    ⟨-, hnext, -⟩ | ⟨hrefused, -, -⟩
  · rw [hnext, Dict.get?_set_self]
  · exact absurd (Option.some_inj.1 hanswer) hrefused

theorem get?_next_of_commitsAs {e : RequestEvent Payload β}
    {entry : IdempotencyEntry β} (hget : s.get? storeKey = some entry)
    (h : CommitsAs r storeKey body committed ((requestMachine fingerprint).entry s e)) :
    ((requestMachine fingerprint).next s e).get? storeKey =
      some ⟨entry.fingerprint, .done body, committed + IDEMPOTENCY_TTL_SECONDS⟩ := by
  obtain ⟨key, hevent, rfl⟩ := h
  rw [EventMachine.entry_event] at hevent
  rw [hevent]
  show (idempotencyCommit key.storeKey body committed s).get? key.storeKey = _
  rw [idempotencyCommit, Dict.get?_set_self, hget]
  rfl

/-! ## From the claim to the expiry of the response -/

section Log

variable {log : List (RequestEntry Payload β)}

theorem claim_of_commit (hin : InLease log) (hx : x ∈ log)
    (hproceeds : ProceedsAs r storeKey payload claimed x)
    (hcommits : CommitsAs r storeKey body committed y) (hsplit : log = before ++ y :: after) :
    x ∈ before ∧ committed ≤ claimed + PENDING_TTL_SECONDS := by
  obtain ⟨x', hx', payload', claimed', hproceeds', hlease⟩ :=
    hin.owned before y after hsplit r storeKey body
    committed hcommits
  obtain ⟨key, hevent, -, -⟩ := hproceeds
  obtain ⟨key', hevent', -, -⟩ := hproceeds'
  have hsame : x = x' := by
    have hx'log : x' ∈ log := by
      rw [hsplit]
      exact List.mem_append_left _ hx'
    obtain ⟨front, back, hfront⟩ := List.append_of_mem hx
    rcases mem_cases hfront hx'log with hfirst | heq | hsecond
    · exact absurd hevent (rel_of_mem_before hin.preflightOnce hfront hfirst r key' payload'
        claimed' key payload claimed hevent')
    · exact heq.symm
    · exact absurd hevent' (rel_of_mem_after hin.preflightOnce hfront hsecond r key payload claimed
        key' payload' claimed' hevent)
  rw [← hsame, hevent] at hevent'
  have htime : claimed = claimed' := congrArg (fun e => e.call.time) hevent'
  rw [hsame, htime]
  exact ⟨hx', hlease⟩

end Log

/-- **Nobody else proceeds** from the claim until the response has expired. -/
theorem not_proceed_of_committed (hclock : es.Pairwise (fun e e' => e.call.time ≤ e'.call.time))
    (hin : InLease ((requestMachine fingerprint).trace store es))
    (hy : y ∈ (requestMachine fingerprint).trace store es)
    (hproceeds : ProceedsAs r storeKey payload claimed x)
    (hcommits : CommitsAs r storeKey body committed y)
    (hsplit : (requestMachine fingerprint).trace store es = before ++ t :: after) (hx : x ∈ before)
    {key : IdempotencyKey} {payload' : Payload} {now : ℚ}
    (ht : t.event.call = .preflight key payload' now)
    (hkey : key.storeKey = storeKey) (hnow : now ≤ committed + IDEMPOTENCY_TTL_SECONDS) :
    t.answer ≠ some .proceed := by
  have htime : t.event.call.time = now := by
    rw [ht]
    rfl
  have hlog := (requestMachine fingerprint).trace_pairwise_event (s := store) hclock
  rcases mem_cases hsplit hy with hbefore | hsame | hafter
  · exact not_proceed_of_heldFrom hclock hsplit hbefore (heldFrom_of_commitsAs hcommits) ht hkey
      hnow
  · obtain ⟨key', hevent, -⟩ := hcommits
    rw [← hsame, hevent] at ht
    cases ht
  · -- the lease covers what comes before the commit
    have hle := rel_of_mem_after hlog hsplit hafter
    rw [htime, time_of_commitsAs hcommits] at hle
    have hxlog : x ∈ (requestMachine fingerprint).trace store es := by
      rw [hsplit]
      exact List.mem_append_left _ hx
    obtain ⟨before', after', hsplit'⟩ := List.append_of_mem hy
    obtain ⟨-, hlease⟩ := claim_of_commit hin hxlog hproceeds hcommits hsplit'
    exact not_proceed_of_heldFrom hclock hsplit hx (heldFrom_of_proceedsAs hproceeds) ht hkey
      (hle.trans hlease)

/-- **Nobody else commits** in that time. -/
theorem eq_of_commit (hclock : es.Pairwise (fun e e' => e.call.time ≤ e'.call.time))
    (hin : InLease ((requestMachine fingerprint).trace store es))
    (hy : y ∈ (requestMachine fingerprint).trace store es)
    (hproceeds : ProceedsAs r storeKey payload claimed x)
    (hcommits : CommitsAs r storeKey body committed y)
    (hsplit : (requestMachine fingerprint).trace store es = before ++ t :: after) (hx : x ∈ before)
    {r' : ℕ} {body' : β} {now : ℚ} (ht : CommitsAs r' storeKey body' now t)
    (hnow : now ≤ committed + IDEMPOTENCY_TTL_SECONDS) : y = t ∧ y ∉ before := by
  have hlog := (requestMachine fingerprint).trace_pairwise_event (s := store) hclock
  obtain ⟨x', hx', payload', claimed', hproceeds', hlease⟩ :=
    hin.owned before t after hsplit _ _ _ _ ht
  by_cases hsame : r' = r
  · obtain ⟨key, hevent, -⟩ := hcommits
    obtain ⟨key', hevent', -⟩ := ht
    rw [hsame] at hevent'
    have honce : y ∉ before := by
      intro hbefore
      exact rel_of_mem_before hin.commitOnce hsplit hbefore r key body committed key' body' now
        hevent hevent'
    rcases mem_cases hsplit hy with hbefore | heq | hafter
    · exact absurd hbefore honce
    · exact ⟨heq, honce⟩
    · exact absurd hevent
        (rel_of_mem_after hin.commitOnce hsplit hafter r key' body' now key body committed hevent')
  · -- the claim of another request comes before `x`, its lease over, or after and is refused
    exfalso
    obtain ⟨front, back, hfront⟩ := List.append_of_mem hx
    have hsplitx : (requestMachine fingerprint).trace store es = front ++ x ::
        (back ++ t :: after) := by
      rw [hsplit, hfront, List.append_assoc, List.cons_append]
    obtain ⟨key, hevent, hkey, hanswer⟩ := id hproceeds
    obtain ⟨key', hevent', hkey', hanswer'⟩ := id hproceeds'
    rcases mem_cases hfront hx' with hearlier | heq | hlater
    · refine not_proceed_of_heldFrom hclock hsplitx hearlier (heldFrom_of_proceedsAs hproceeds')
        (congrArg RequestEvent.call hevent) hkey ?_ hanswer
      have hle := rel_of_mem_before hlog hsplit hx
      rw [time_of_proceedsAs hproceeds, time_of_commitsAs ht] at hle
      exact hle.trans hlease
    · rw [heq, hevent] at hevent'
      exact hsame (congrArg RequestEvent.request hevent').symm
    · obtain ⟨middle, rest, hback⟩ := List.append_of_mem hlater
      have hsplit' : (requestMachine fingerprint).trace store es =
          (front ++ x :: middle) ++ x' :: (rest ++ t :: after) := by
        rw [hsplitx, hback, List.append_assoc, List.append_assoc, List.cons_append,
          List.cons_append]
      have hbetween : x ∈ front ++ x :: middle := List.mem_append_right _ List.mem_cons_self
      refine not_proceed_of_committed hclock hin hy hproceeds hcommits hsplit' hbetween
        (congrArg RequestEvent.call hevent') hkey' ?_ hanswer'
      have hle := rel_of_mem_before hlog hsplit hx'
      rw [time_of_proceedsAs hproceeds', time_of_commitsAs ht] at hle
      exact hle.trans hnow

/-- **The entry of the key** from the claim to the expiry of the response: the claim until the
    commit, the response from then on. By induction over the run, with every other call leaving it
    alone. -/
theorem get?_of_committed (hclock : es.Pairwise (fun e e' => e.call.time ≤ e'.call.time))
    (hin : InLease ((requestMachine fingerprint).trace store es))
    (hy : y ∈ (requestMachine fingerprint).trace store es)
    (hproceeds : ProceedsAs r storeKey payload claimed x)
    (hcommits : CommitsAs r storeKey body committed y) :
    ∀ h t, h ++ [t] <+: (requestMachine fingerprint).trace store es →
      t.event.call.time ≤ committed + IDEMPOTENCY_TTL_SECONDS → x ∈ h →
        (y ∉ h → t.pre.get? storeKey = some (pendingEntry (fingerprint.of payload) claimed)) ∧
        (y ∈ h → t.pre.get? storeKey =
          some ⟨fingerprint.of payload, .done body, committed + IDEMPOTENCY_TTL_SECONDS⟩) := by
  have hlog := (requestMachine fingerprint).trace_pairwise_event (s := store) hclock
  refine (requestMachine fingerprint).trace_forall
    (C := fun h s => (∀ z ∈ h, z.event.call.time ≤ committed + IDEMPOTENCY_TTL_SECONDS) → x ∈ h →
      (y ∉ h → s.get? storeKey = some (pendingEntry (fingerprint.of payload) claimed)) ∧
      (y ∈ h → s.get? storeKey =
        some ⟨fingerprint.of payload, .done body, committed + IDEMPOTENCY_TTL_SECONDS⟩))
    (fun _ hx => absurd hx List.not_mem_nil) (fun h s e hrun ih => ⟨?_, ?_⟩)
  · intro htime hx
    refine ih (fun z hz => ?_) hx
    exact (EventMachine.rel_of_prefix hlog hrun z hz).trans htime
  · intro htimes hx
    obtain ⟨after, hsuffix⟩ := hrun
    have hsplit : (requestMachine fingerprint).trace store es =
        h ++ (requestMachine fingerprint).entry s e :: after := by
      rw [← hsuffix, List.append_assoc, List.singleton_append]
    have htime : e.call.time ≤ committed + IDEMPOTENCY_TTL_SECONDS :=
      htimes _ (List.mem_append_right h List.mem_cons_self)
    have hxlog : x ∈ (requestMachine fingerprint).trace store es := by
      rw [← hsuffix]
      exact List.mem_append_left after hx
    by_cases hxh : x ∈ h
    · obtain ⟨hpending, hdone⟩ := ih (fun z hz => htimes z (List.mem_append_left _ hz)) hxh
      have hrefused : ∀ key payload' now, e.call = .preflight key payload' now →
        key.storeKey = storeKey →
          ((requestMachine fingerprint).entry s e).answer ≠ some .proceed := by
        intro key payload' now hcall hkey
        refine not_proceed_of_committed hclock hin hy hproceeds hcommits hsplit hxh hcall hkey ?_
        rw [hcall] at htime
        exact htime
      by_cases hcommit : ∃ key body' now, e.call = .commit key body' now ∧ key.storeKey = storeKey
      · -- it is the commit of the request
        obtain ⟨key, body', now, hcall, hkey⟩ := hcommit
        have hcommits' :
            CommitsAs e.request storeKey body' now ((requestMachine fingerprint).entry s e) := by
          refine ⟨key, ?_, hkey⟩
          rw [EventMachine.entry_event, ← hcall]
        have hnow : now ≤ committed + IDEMPOTENCY_TTL_SECONDS := by
          rw [hcall] at htime
          exact htime
        obtain ⟨heq, honce⟩ :=
          eq_of_commit hclock hin hy hproceeds hcommits hsplit hxh hcommits' hnow
        rw [heq] at hcommits
        refine ⟨fun hnot => absurd ?_ hnot, fun _ =>
          get?_next_of_commitsAs (hpending honce) hcommits⟩
        rw [heq]
        exact List.mem_append_right h List.mem_cons_self
      · have hother : ∀ key body' now, e.call = .commit key body' now → key.storeKey ≠ storeKey :=
          fun key body' now hcall hkey => hcommit ⟨key, body', now, hcall, hkey⟩
        have hne : y ≠ (requestMachine fingerprint).entry s e := by
          intro heq
          obtain ⟨key, hevent, hkey⟩ := hcommits
          rw [heq, EventMachine.entry_event] at hevent
          exact hother key body committed (congrArg RequestEvent.call hevent) hkey
        refine ⟨fun hnot => ?_, fun hmem => ?_⟩
        · have hyh : y ∉ h := fun hyh => hnot (List.mem_append_left _ hyh)
          refine get?_next_of_untouched (hpending hyh) ?_ hrefused hother
          -- the commit is still to come, within the lease
          have hafter : y ∈ after := by
            rcases mem_cases hsplit hy with hbefore | heq | hafter
            · exact absurd hbefore hyh
            · exact absurd heq hne
            · exact hafter
          have hle := rel_of_mem_after hlog hsplit hafter
          rw [time_of_commitsAs hcommits] at hle
          obtain ⟨before', after', hsplit'⟩ := List.append_of_mem hy
          exact hle.trans (claim_of_commit hin hxlog hproceeds hcommits hsplit').2
        · have hyh : y ∈ h := by
            rcases List.mem_append.1 hmem with hyh | hlast
            · exact hyh
            · exact absurd (List.mem_singleton.1 hlast) hne
          exact get?_next_of_untouched (hdone hyh) htime hrefused hother
    · -- the claim itself
      have heq : x = (requestMachine fingerprint).entry s e := by
        rcases List.mem_append.1 hx with hmem | hlast
        · exact absurd hmem hxh
        · exact List.mem_singleton.1 hlast
      rw [heq] at hproceeds
      refine ⟨fun _ => get?_next_of_proceedsAs hproceeds, fun hmem => absurd ?_ hxh⟩
      have hyh : y ∈ h := by
        rcases List.mem_append.1 hmem with hyh | hlast
        · exact hyh
        · obtain ⟨key, hevent, -⟩ := hproceeds
          obtain ⟨key', hevent', -⟩ := hcommits
          rw [List.mem_singleton.1 hlast, hevent] at hevent'
          cases hevent'
      obtain ⟨before', after', hsplit'⟩ := List.append_of_mem hy
      obtain ⟨front, back, hfront⟩ := List.append_of_mem hyh
      have hsplity : (requestMachine fingerprint).trace store es =
          front ++ y :: (back ++ (requestMachine fingerprint).entry s e :: after) := by
        rw [hsplit, hfront, List.append_assoc, List.cons_append]
      rw [← heq] at hproceeds
      rw [hfront]
      exact List.mem_append_left _ (claim_of_commit hin hxlog hproceeds hcommits hsplity).1

/-- **Idempotency under the lease.** With a non-decreasing clock and requests that commit in their
    lease: after a request was told to proceed with a store key, and until `IDEMPOTENCY_TTL_SECONDS`
    after its commit, no preflight of that key is told to proceed, and every preflight with a
    payload of the same fingerprint is a conflict before the commit and replays exactly the
    committed body after it. -/
theorem preflight_of_committed (fingerprint : Fingerprint Payload) (store : IdempotencyStore β)
    {es : List (RequestEvent Payload β)}
    (hclock : es.Pairwise (fun e e' => e.call.time ≤ e'.call.time))
    (hin : InLease ((requestMachine fingerprint).trace store es))
    {x y : RequestEntry Payload β} {r : ℕ} {storeKey : String} {payload : Payload} {body : β}
    {claimed committed : ℚ} (hproceeds : ProceedsAs r storeKey payload claimed x)
    (hy : y ∈ (requestMachine fingerprint).trace store es)
    (hcommits : CommitsAs r storeKey body committed y) {h : List (RequestEntry Payload β)}
    {t : RequestEntry Payload β} (hrun : h ++ [t] <+: (requestMachine fingerprint).trace store es)
    (hx : x ∈ h) {key : IdempotencyKey} {payload' : Payload} {now : ℚ}
    (ht : t.event.call = .preflight key payload' now) (hkey : key.storeKey = storeKey)
    (hnow : now ≤ committed + IDEMPOTENCY_TTL_SECONDS) :
    t.answer ≠ some .proceed ∧ (fingerprint.of payload' = fingerprint.of payload →
      (y ∉ h → ∃ detail, t.answer = some (.conflict detail)) ∧
      (y ∈ h → t.answer = some (.replay body))) := by
  obtain ⟨after, hsuffix⟩ := id hrun
  have hsplit : (requestMachine fingerprint).trace store es = h ++ t :: after := by
    rw [← hsuffix, List.append_assoc, List.singleton_append]
  refine ⟨not_proceed_of_committed hclock hin hy hproceeds hcommits hsplit hx ht hkey hnow,
    fun hsame => ?_⟩
  have htime : t.event.call.time ≤ committed + IDEMPOTENCY_TTL_SECONDS := by
    rw [ht]
    exact hnow
  obtain ⟨hpending, hdone⟩ := get?_of_committed hclock hin hy hproceeds hcommits h t hrun htime hx
  have hmem : t ∈ (requestMachine fingerprint).trace store es := by
    rw [hsplit]
    exact List.mem_append_right h List.mem_cons_self
  have hanswer : t.answer = some (decisionOn (fingerprint.of payload) now
      ((pruneExpired now t.pre).get? storeKey)) := by
    have hentry := (requestMachine fingerprint).eq_entry_of_mem_trace hmem
    have hstep : ((requestMachine fingerprint).entry t.pre t.event).answer =
        ((idempotencyMachine fingerprint).step t.pre t.event.call).2 := rfl
    rw [hentry, hstep, ht, ← hkey, ← hsame, ← idempotencyPreflight_decision]
    rfl
  constructor
  · intro hyh
    have hlog := (requestMachine fingerprint).trace_pairwise_event (s := store) hclock
    have hafter : y ∈ after := by
      rcases mem_cases hsplit hy with hbefore | heq | hafter
      · exact absurd hbefore hyh
      · obtain ⟨key', hevent, -⟩ := hcommits
        rw [← heq, hevent] at ht
        cases ht
      · exact hafter
    have hle := rel_of_mem_after hlog hsplit hafter
    rw [ht, time_of_commitsAs hcommits] at hle
    have hxlog : x ∈ (requestMachine fingerprint).trace store es := by
      rw [hsplit]
      exact List.mem_append_left _ hx
    obtain ⟨before', after', hsplit'⟩ := List.append_of_mem hy
    have hlease := (claim_of_commit hin hxlog hproceeds hcommits hsplit').2
    have hlive : now ≤ claimed + PENDING_TTL_SECONDS := hle.trans hlease
    refine ⟨"Request is still being processed", ?_⟩
    rw [hanswer, get?_pruneExpired_of_live (hpending hyh) hlive, decisionOn]
    simp only [pendingEntry, ne_eq, not_true_eq_false, if_false, gt_iff_lt, if_neg (not_lt.2 hlive)]
  · intro hyh
    rw [hanswer, get?_pruneExpired_of_live (hdone hyh) hnow, decisionOn]
    simp only [ne_eq, not_true_eq_false, if_false]

end Runs

/-- A request, its commit ten seconds later, and the request again at the last moment. -/
def retriedRun : List (RequestEvent String String) :=
  [⟨0, .preflight (initializeKey "k") (amountPayload "1") 0⟩,
    ⟨0, .commit (initializeKey "k") "ok" 10⟩,
    ⟨1, .preflight (initializeKey "k") (amountPayload "1") 3610⟩]

theorem trace_retriedRun : ∃ x y t : RequestEntry String String,
    (requestMachine amountFingerprint).trace .empty retriedRun = [x, y, t] ∧
      ProceedsAs 0 (initializeKey "k").storeKey (amountPayload "1") 0 x ∧
      CommitsAs 0 (initializeKey "k").storeKey "ok" 10 y ∧
      t.event = ⟨1, .preflight (initializeKey "k") (amountPayload "1") 3610⟩ := by
  refine ⟨_, _, _, rfl, ⟨initializeKey "k", rfl, rfl, ?_⟩, ⟨initializeKey "k", rfl, rfl⟩, rfl⟩
  decide +kernel

theorem inLease_retriedRun :
    InLease ((requestMachine amountFingerprint).trace .empty retriedRun) := by
  obtain ⟨x, y, t, htrace, hproceeds, hcommits, ht⟩ := trace_retriedRun
  obtain ⟨key, hx, hkey, hanswer⟩ := id hproceeds
  obtain ⟨key', hy, hkey'⟩ := id hcommits
  rw [htrace]
  refine ⟨?_, ?_, ?_⟩
  · rw [List.pairwise_cons, List.pairwise_cons]
    simp only [List.mem_cons, List.not_mem_nil, or_false, forall_eq_or_imp, forall_eq, hx, hy, ht,
      List.pairwise_singleton, RequestEvent.mk.injEq, ne_eq, reduceCtorEq, and_false,
      not_false_eq_true, implies_true, and_true, not_and]
    refine ⟨⟨trivial, ?_⟩, fun _ _ _ _ _ _ _ h => h.elim⟩
    intro r _ _ _ _ _ _ hr hr'
    exact absurd (hr.1.trans hr'.symm) (by decide)
  · rw [List.pairwise_cons, List.pairwise_cons]
    simp only [List.mem_cons, List.not_mem_nil, or_false, forall_eq, hx, hy, ht,
      List.pairwise_singleton, RequestEvent.mk.injEq, ne_eq, reduceCtorEq, and_false,
      not_false_eq_true, implies_true, and_true, false_imp_iff]
  · intro before c after hsplit r storeKey body now hc
    have hlast : c = y → x ∈ before := by
      intro hcy
      rcases before with _ | ⟨b, before⟩
      · have hcx : x = c := (List.cons.inj hsplit).1
        rw [hcx, hcy, hy] at hx
        cases hx
      · rw [(List.cons.inj hsplit).1]
        exact List.mem_cons_self
    have hmem : c ∈ [x, y, t] := by
      rw [hsplit]
      exact List.mem_append_right before List.mem_cons_self
    obtain ⟨key'', hevent, hkey''⟩ := hc
    simp only [List.mem_cons, List.not_mem_nil, or_false] at hmem
    rcases hmem with rfl | rfl | rfl
    · rw [hx] at hevent
      cases hevent
    · rw [hy] at hevent
      cases hevent
      refine ⟨x, hlast rfl, amountPayload "1", 0, ?_, by norm_num [PENDING_TTL_SECONDS]⟩
      rw [← hkey'', hkey']
      exact hproceeds
    · rw [ht] at hevent
      cases hevent

theorem retriedRun_replays : ∃ t ∈ (requestMachine amountFingerprint).trace .empty retriedRun,
    t.event.request = 1 ∧ t.answer = some (.replay "ok") := by
  have hin := inLease_retriedRun
  obtain ⟨x, y, t, htrace, hproceeds, hcommits, ht⟩ := trace_retriedRun
  have hclock : retriedRun.Pairwise (fun e e' => e.call.time ≤ e'.call.time) := by
    simp only [retriedRun, List.pairwise_cons, List.mem_cons, List.not_mem_nil, or_false,
      forall_eq_or_imp, forall_eq, IdempotencyEvent.time, false_imp_iff, implies_true,
      List.Pairwise.nil, and_true]
    norm_num
  have hy : y ∈ (requestMachine amountFingerprint).trace .empty retriedRun := by
    rw [htrace]
    exact List.mem_cons_of_mem _ List.mem_cons_self
  have hrun : [x, y] ++ [t] <+: (requestMachine amountFingerprint).trace .empty retriedRun := by
    rw [htrace]
    exact List.prefix_rfl
  have hreplay := (preflight_of_committed amountFingerprint .empty hclock hin hproceeds hy hcommits
    hrun
    List.mem_cons_self (congrArg RequestEvent.call ht) rfl
    (by norm_num [IDEMPOTENCY_TTL_SECONDS])).2 rfl
  refine ⟨t, ?_, congrArg RequestEvent.request ht,
    hreplay.2 (List.mem_cons_of_mem _ List.mem_cons_self)⟩
  rw [htrace]
  exact List.mem_cons_of_mem _ (List.mem_cons_of_mem _ List.mem_cons_self)

end Ekaette
