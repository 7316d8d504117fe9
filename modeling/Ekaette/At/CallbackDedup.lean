import Ekaette.Lib.Dict
import Ekaette.Lib.EventMachine
import Mathlib.Tactic.Linarith

set_option autoImplicit false

/-! # Deduplication of callbacks

`is_duplicate_callback` of `app/api/v1/at/idempotency.py`. A table has the time at which a callback
was let through last; it is pruned when it has grown. What it answers is a matter of the calls
alone: the table has every time that still counts. -/

namespace Ekaette

/-! ## The table -/

/-- `CALLBACK_DEDUP_WINDOW`, in seconds. -/
def CALLBACK_DEDUP_WINDOW : ℚ := 300

/-- The arguments of a call. -/
structure CallbackCall where
  sessionId : String
  eventKey : String

/-- `dedup_key` -/
def CallbackCall.dedupKey (c : CallbackCall) : String := c.sessionId ++ ":" ++ c.eventKey

/-- `_callback_seen` -/
abbrev CallbackSeen := Dict String ℚ

/-- The old entries are pruned from a large table. -/
def pruneCallbacks (now : ℚ) (seen : CallbackSeen) : CallbackSeen :=
  if 1000 < seen.size then seen.filter (fun _ seenAt =>
    !decide (CALLBACK_DEDUP_WINDOW < now - seenAt)) else seen

/-- `is_duplicate_callback` -/
def isDuplicateCallback (seen : CallbackSeen) (now : ℚ) (c : CallbackCall) : CallbackSeen × Bool :=
  match seen.get? c.dedupKey with
  | some seenAt =>
    if now - seenAt ≤ CALLBACK_DEDUP_WINDOW then (seen, true)
    else ((pruneCallbacks now (seen.erase c.dedupKey)).set c.dedupKey now, false)
  | none => ((pruneCallbacks now seen).set c.dedupKey now, false)

/-- One call after the other. -/
def callbackDedup : EventMachine CallbackSeen (Timed ℚ CallbackCall) Bool where
  step seen e := isDuplicateCallback seen e.now e.event

abbrev CallbackEntry := EventMachine.Entry CallbackSeen (Timed ℚ CallbackCall) Bool

/-! ## What counts -/

/-- The call lets this key through, at this time. -/
def LetsThrough (u : CallbackEntry) (key : String) (time : ℚ) : Prop :=
  u.event.event.dedupKey = key ∧ u.answer = false ∧ u.event.now = time

/-- A callback with the key of this call was let through within the window. -/
def SeenWithin (log : List CallbackEntry) (now : ℚ) (key : String) : Prop :=
  ∃ u ∈ log, u.event.event.dedupKey = key ∧ u.answer = false ∧
    now - u.event.now ≤ CALLBACK_DEDUP_WINDOW

/-- The table has only times at which a call let its key through, and every such time is in it, or a
    later one, or the window has passed at some call. -/
structure TracksLog (log : List CallbackEntry) (seen : CallbackSeen) : Prop where
  sound : ∀ key seenAt, seen.get? key = some seenAt → ∃ u ∈ log, LetsThrough u key seenAt
  complete : ∀ u ∈ log, u.answer = false →
    (∃ seenAt, seen.get? u.event.event.dedupKey = some seenAt ∧ u.event.now ≤ seenAt) ∨
      ∃ t ∈ log, CALLBACK_DEDUP_WINDOW < t.event.now - u.event.now

theorem tracksLog_nil : TracksLog [] .empty where
  sound := fun _ _ h => by cases h
  complete := fun _ h => by cases h

/-- What pruning leaves, and what it drops. -/
theorem pruneCallbacks_get? (now : ℚ) (seen : CallbackSeen) (key : String) :
    (pruneCallbacks now seen).get? key = seen.get? key ∨
      (pruneCallbacks now seen).get? key = none ∧
        ∃ seenAt, seen.get? key = some seenAt ∧ CALLBACK_DEDUP_WINDOW < now - seenAt := by
  unfold pruneCallbacks
  by_cases hlarge : 1000 < seen.size
  · rw [if_pos hlarge, Dict.get?_filter]
    cases hget : seen.get? key with
    | none => exact .inl rfl
    | some seenAt =>
      by_cases hold : CALLBACK_DEDUP_WINDOW < now - seenAt
      · right
        refine ⟨?_, seenAt, rfl, hold⟩
        simp [Option.filter, hold]
      · left
        simp [Option.filter, hold]
  · rw [if_neg hlarge]
    exact .inl rfl

variable {log : List CallbackEntry}

/-- A call that lets its key through records it. -/
theorem TracksLog.record {seen seen' : CallbackSeen}
    (h : TracksLog log seen) (hseen' : ∀ key, seen'.get? key = seen.get? key ∨
      seen'.get? key = none) {t : CallbackEntry}
    (hanswer : t.answer = false) (hclock : ∀ u ∈ log, u.event.now ≤ t.event.now)
    (hdropped : ∀ key seenAt, key ≠ t.event.event.dedupKey → seen.get? key = some seenAt →
      seen'.get? key = none → CALLBACK_DEDUP_WINDOW < t.event.now - seenAt) :
    TracksLog (log ++ [t]) (seen'.set t.event.event.dedupKey t.event.now) where
  sound := by
    intro key seenAt hget
    rw [Dict.get?_set] at hget
    by_cases hkey : key = t.event.event.dedupKey
    · rw [if_pos hkey] at hget
      exact ⟨t, List.mem_append_right _ (List.mem_singleton_self t), hkey.symm, hanswer,
        Option.some_inj.1 hget⟩
    · rw [if_neg hkey] at hget
      rcases hseen' key with hsame | hnone
      · rw [hsame] at hget
        obtain ⟨u, hu, hthrough⟩ := h.sound key seenAt hget
        exact ⟨u, List.mem_append_left _ hu, hthrough⟩
      · rw [hnone] at hget
        cases hget
  complete := by
    intro u hu hfalse
    rcases List.mem_append.1 hu with hu | hu
    · by_cases hkey : u.event.event.dedupKey = t.event.event.dedupKey
      · left
        refine ⟨t.event.now, ?_, hclock u hu⟩
        rw [hkey]
        exact Dict.get?_set_self _ _ _
      · rcases h.complete u hu hfalse with ⟨seenAt, hget, hle⟩ | ⟨e, he, hpassed⟩
        · rcases hseen' u.event.event.dedupKey with hsame | hnone
          · left
            refine ⟨seenAt, ?_, hle⟩
            rw [Dict.get?_set_of_ne _ _ hkey, hsame]
            exact hget
          · right
            have hold := hdropped _ seenAt hkey hget hnone
            exact ⟨t, List.mem_append_right _ (List.mem_singleton_self t), by linarith⟩
        · exact .inr ⟨e, List.mem_append_left _ he, hpassed⟩
    · rw [List.mem_singleton.1 hu]
      exact .inl ⟨t.event.now, Dict.get?_set_self _ _ _, le_refl _⟩

/-- A call that finds its key within the window records nothing. -/
theorem TracksLog.duplicate {seen : CallbackSeen}
    (h : TracksLog log seen) {t : CallbackEntry} (hanswer : t.answer = true) :
    TracksLog (log ++ [t]) seen where
  sound := by
    intro key seenAt hget
    obtain ⟨u, hu, hthrough⟩ := h.sound key seenAt hget
    exact ⟨u, List.mem_append_left _ hu, hthrough⟩
  complete := by
    intro u hu hfalse
    rcases List.mem_append.1 hu with hu | hu
    · rcases h.complete u hu hfalse with hkept | ⟨e, he, hpassed⟩
      · exact .inl hkept
      · exact .inr ⟨e, List.mem_append_left _ he, hpassed⟩
    · rw [List.mem_singleton.1 hu, hanswer] at hfalse
      cases hfalse

/-- **One call**: its answer is exact, and the table keeps track. -/
theorem isDuplicateCallback_tracks {seen : CallbackSeen}
    (h : TracksLog log seen) (e : Timed ℚ CallbackCall) (hclock : ∀ u ∈ log, u.event.now ≤ e.now) :
    ((callbackDedup.entry seen e).answer = true ↔ SeenWithin log e.now e.event.dedupKey) ∧
      TracksLog (log ++ [callbackDedup.entry seen e]) (callbackDedup.next seen e) := by
  -- nothing counts when the table has no time within the window
  have hexpired : (∀ seenAt, seen.get? e.event.dedupKey = some seenAt →
      CALLBACK_DEDUP_WINDOW < e.now - seenAt) → ¬ SeenWithin log e.now e.event.dedupKey := by
    rintro hall ⟨u, hu, hkey, hfalse, hwithin⟩
    rcases h.complete u hu hfalse with ⟨seenAt, hget, hle⟩ | ⟨t, ht, hpassed⟩
    · rw [hkey] at hget
      have hold := hall seenAt hget
      linarith
    · have hle := hclock t ht
      linarith
  unfold EventMachine.entry EventMachine.next callbackDedup isDuplicateCallback
  dsimp only
  cases hget : seen.get? e.event.dedupKey with
  | none =>
    refine ⟨iff_of_false Bool.false_ne_true (hexpired fun seenAt hsome => ?_), ?_⟩
    · rw [hget] at hsome
      cases hsome
    · refine h.record (t := ⟨seen, e, false⟩)
        (fun key => ?_) rfl hclock (fun key seenAt _ hsome hnone => ?_)
      · exact (pruneCallbacks_get? e.now seen key).imp id (fun h => h.1)
      · rcases pruneCallbacks_get? e.now seen key with hsame | ⟨-, seenAt', hsome', hold⟩
        · rw [hsame, hsome] at hnone
          cases hnone
        · rw [hsome, Option.some_inj] at hsome'
          rw [hsome']
          exact hold
  | some seenAt =>
    dsimp only
    by_cases hwithin : e.now - seenAt ≤ CALLBACK_DEDUP_WINDOW
    · rw [if_pos hwithin]
      obtain ⟨u, hu, hkey, hfalse, htime⟩ := h.sound _ _ hget
      refine ⟨iff_of_true rfl ⟨u, hu, hkey, hfalse, ?_⟩, h.duplicate rfl⟩
      rw [htime]
      exact hwithin
    · rw [if_neg hwithin]
      refine ⟨iff_of_false Bool.false_ne_true (hexpired fun seenAt' hsome => ?_), ?_⟩
      · rw [hget, Option.some_inj] at hsome
        rw [← hsome]
        exact not_le.1 hwithin
      · refine h.record (t := ⟨seen, e, false⟩) (fun key => ?_) rfl hclock
          (fun key seenAt' hne hsome hnone => ?_)
        · rcases pruneCallbacks_get? e.now (seen.erase e.event.dedupKey) key with hsame | ⟨hnone, -⟩
          · rw [hsame, Dict.get?_erase]
            by_cases hkey : key = e.event.dedupKey
            · exact .inr (if_pos hkey)
            · exact .inl (if_neg hkey)
          · exact .inr hnone
        · have herased : (seen.erase e.event.dedupKey).get? key = some seenAt' := by
            rw [Dict.get?_erase, if_neg hne]
            exact hsome
          rcases pruneCallbacks_get? e.now (seen.erase e.event.dedupKey) key with
            hsame | ⟨-, seenAt'', hsome'', hold⟩
          · rw [hsame, herased] at hnone
            cases hnone
          · rw [herased, Option.some_inj] at hsome''
            rw [hsome'']
            exact hold

/-- **Deduplication is exact**: a call is answered with `True` exactly if an earlier call with its
    key was answered with `False` within the window, however the table was pruned in between. -/
theorem isDuplicateCallback_exact (calls : List (Timed ℚ CallbackCall))
    (hclock : calls.Pairwise (fun a b => a.now ≤ b.now)) (log : List CallbackEntry)
    (t : CallbackEntry) (ht : log ++ [t] <+: callbackDedup.trace .empty calls) :
    t.answer = true ↔ SeenWithin log t.event.now t.event.event.dedupKey := by
  have hordered := callbackDedup.trace_pairwise_event (s := .empty) hclock
  refine callbackDedup.trace_forall (C := TracksLog)
    (Q := fun log t => t.answer = true ↔ SeenWithin log t.event.now t.event.event.dedupKey)
    tracksLog_nil (fun log seen e hinitial h => ?_) log t ht
  exact isDuplicateCallback_tracks h e (EventMachine.rel_of_prefix hordered hinitial)

/-- The same callback twice, and once more when the window has passed. -/
theorem isDuplicateCallback_exact_thrice :
    (callbackDedup.trace .empty [⟨0, ⟨"s", "end"⟩⟩, ⟨300, ⟨"s", "end"⟩⟩, ⟨301, ⟨"s", "end"⟩⟩]).map
        EventMachine.Entry.answer = [false, true, false] ∧
      SeenWithin ((callbackDedup.trace .empty [⟨0, ⟨"s", "end"⟩⟩]))
        300 (CallbackCall.dedupKey ⟨"s", "end"⟩) := by
  refine ⟨by decide +kernel, ?_⟩
  have hclock : ([⟨0, ⟨"s", "end"⟩⟩, ⟨300, ⟨"s", "end"⟩⟩] : List (Timed ℚ CallbackCall)).Pairwise
      (fun a b => a.now ≤ b.now) := by
    decide +kernel
  exact (isDuplicateCallback_exact _ hclock [_] _ List.prefix_rfl).1 (by decide +kernel)

end Ekaette
