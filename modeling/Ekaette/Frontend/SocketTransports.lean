import Ekaette.Frontend.SocketHook

set_option autoImplicit false

/-! # One transport at a time

At most one transport of the hook is open or opening, and none is opened between `disconnect` and
the next `connect`, as long as the refs that the guards look at still show what there is. They do
not when an attempt is started while an earlier one, which `disconnect` or a timeout has cancelled,
is suspended; when the close event of an old session arrives while a new one is in the ref; and when
after `disconnect` an attempt fails and falls back, an overwritten timer fires, or a session that
was connecting opens. -/

namespace Ekaette

/-! ## What is under way -/

/-- Its handlers can still be called. -/
def Transport.hears (t : Transport) : Bool := t.handled && t.state ≠ .closed

theorem Transport.hears_detach (t : Transport) : t.detach.hears = false := rfl

theorem Transport.hears_close {t : Transport} (h : t.close.hears = true) : t.hears = true := by
  unfold Transport.close at h
  cases hlive : t.live with
  | false => simpa [hlive] using h
  | true =>
    rw [hlive, if_pos rfl] at h
    cases t with
    | mk mode state handled =>
      cases state with
      | closed => cases hlive
      | _ => exact h

theorem Transport.mode_close (t : Transport) : t.close.mode = t.mode := by
  unfold Transport.close
  split <;> rfl

namespace SocketHook

/-- The transport is open or opening. -/
def Live (s : SocketHook) (i : ℕ) : Prop := ∃ t, s.transports i = some t ∧ t.live = true

/-- The attempt has yet to open its transport. -/
def Waiting (s : SocketHook) (a : ℕ) : Prop :=
  ∃ attempt, s.attempts a = some attempt ∧ attempt.waiting = true

/-- No attempt is under way: none waits, and none has a live session. -/
structure Idle (s : SocketHook) : Prop where
  waiting : ∀ a, ¬ s.Waiting a
  sessions : ∀ a i, s.attempts a = some (.directConnect i) → ¬ s.Live i

variable {s s' s'' : SocketHook}

theorem isLive_iff {i : ℕ} : s.isLive i = true ↔ s.Live i := by
  unfold isLive Live
  cases s.transports i with
  | none => simp
  | some t => simp

theorem not_live_ws (h : s.ws.any s.isLive = false) {i : ℕ} (hi : s.ws = some i) : ¬ s.Live i := by
  rw [hi, Option.any_some] at h
  intro hlive
  rw [isLive_iff.2 hlive] at h
  cases h

/-! ## What changes of transports do -/

/-- No transport is new, none comes to life again, and no handler comes back. -/
def Kept (s s' : SocketHook) : Prop :=
  ∀ i t', s'.transports i = some t' → ∃ t, s.transports i = some t ∧ t.mode = t'.mode ∧
    (t'.live = true → t.live = true) ∧ (t'.hears = true → t.hears = true)

/-- Every transport that is open or opening was so before. -/
def Steady (s s' : SocketHook) : Prop :=
  ∀ i t', s'.transports i = some t' → t'.live = true →
    ∃ t, s.transports i = some t ∧ t.live = true ∧ t.state = t'.state

theorem Kept.refl (s : SocketHook) : Kept s s := fun _ t ht => ⟨t, ht, rfl, id, id⟩

theorem Kept.trans (h : Kept s s') (h' : Kept s' s'') : Kept s s'' := by
  intro i t'' ht''
  obtain ⟨t', ht', hmode', hlive', hhears'⟩ := h' i t'' ht''
  obtain ⟨t, ht, hmode, hlive, hhears⟩ := h i t' ht'
  exact ⟨t, ht, hmode.trans hmode', hlive ∘ hlive', hhears ∘ hhears'⟩

theorem Kept.live (h : Kept s s') {i : ℕ} (hi : s'.Live i) : s.Live i := by
  obtain ⟨t', ht', hlive'⟩ := hi
  obtain ⟨t, ht, -, hlive, -⟩ := h i t' ht'
  exact ⟨t, ht, hlive hlive'⟩

theorem Steady.refl (s : SocketHook) : Steady s s := fun _ t ht hlive => ⟨t, ht, hlive, rfl⟩

theorem Steady.trans (h : Steady s s') (h' : Steady s' s'') : Steady s s'' := by
  intro i t'' ht'' hlive''
  obtain ⟨t', ht', hlive', hstate'⟩ := h' i t'' ht'' hlive''
  obtain ⟨t, ht, hlive, hstate⟩ := h i t' ht' hlive'
  exact ⟨t, ht, hlive, hstate.trans hstate'⟩

theorem modify_transports (s : SocketHook) (i : ℕ) (f : Transport → Transport) (j : ℕ) :
    (s.modify i f).transports j = if j = i then (s.transports i).map f else s.transports j :=
  Function.update_apply _ _ _ _

theorem kept_modify {i : ℕ} {f : Transport → Transport}
    (hf : ∀ t, s.transports i = some t → (f t).mode = t.mode ∧ ((f t).live = true → t.live = true) ∧
      ((f t).hears = true → t.hears = true)) : Kept s (s.modify i f) := by
  intro j t' ht'
  rw [modify_transports] at ht'
  split at ht'
  · next hji =>
      obtain ⟨t, ht, rfl⟩ := Option.map_eq_some_iff.1 ht'
      obtain ⟨hmode, hlive, hhears⟩ := hf t ht
      exact ⟨t, hji ▸ ht, hmode.symm, hlive, hhears⟩
  · exact ⟨t', ht', rfl, id, id⟩

theorem steady_modify {i : ℕ} {f : Transport → Transport} (hf : ∀ t, (f t).live = false) :
    Steady s (s.modify i f) := by
  intro j t' ht' hlive'
  rw [modify_transports] at ht'
  split at ht'
  · obtain ⟨t, -, rfl⟩ := Option.map_eq_some_iff.1 ht'
    rw [hf] at hlive'
    cases hlive'
  · exact ⟨t', ht', hlive', rfl⟩

/-- A transport that is closed or detached. -/
def Dies (f : Transport → Transport) : Prop :=
  ∀ t : Transport, (f t).live = false ∧ (f t).mode = t.mode ∧ ((f t).hears = true → t.hears = true)

theorem dies_close : Dies Transport.close :=
  fun t => ⟨t.live_close, t.mode_close, Transport.hears_close⟩

theorem dies_detach : Dies Transport.detach :=
  fun t => ⟨t.live_detach, t.mode_close, fun h =>
    absurd h (by rw [t.hears_detach]; exact Bool.noConfusion)⟩

theorem dies_closed : Dies fun t => { t with state := .closed } :=
  fun t => ⟨rfl, rfl, fun h => absurd h (by simp [Transport.hears])⟩

section Dies

variable {f : Transport → Transport} (hf : Dies f) (ref : Option ℕ)
include hf

theorem Dies.kept_modify (i : ℕ) : Kept s (s.modify i f) :=
  SocketHook.kept_modify fun t _ =>
    ⟨(hf t).2.1, fun h => absurd h (by rw [(hf t).1]; exact Bool.noConfusion), (hf t).2.2⟩

theorem Dies.steady_modify (i : ℕ) : Steady s (s.modify i f) :=
  SocketHook.steady_modify fun t => (hf t).1

theorem Dies.kept_modifyRef : Kept s (s.modifyRef ref f) := by
  cases ref with
  | none => exact Kept.refl s
  | some i => exact hf.kept_modify i

theorem Dies.steady_modifyRef : Steady s (s.modifyRef ref f) := by
  cases ref with
  | none => exact Steady.refl s
  | some i => exact hf.steady_modify i

theorem Dies.not_live_modify {i : ℕ} : ¬ (s.modify i f).Live i := by
  rintro ⟨t', ht', hlive⟩
  rw [modify_transports, if_pos rfl] at ht'
  obtain ⟨t, -, rfl⟩ := Option.map_eq_some_iff.1 ht'
  rw [(hf t).1] at hlive
  cases hlive

end Dies

theorem kept_closeSession (s : SocketHook) : Kept s s.closeSession :=
  dies_close.kept_modifyRef s.directSession

theorem kept_detachSocket (s : SocketHook) : Kept s s.detachSocket :=
  dies_detach.kept_modifyRef s.ws

theorem steady_closeSession (s : SocketHook) : Steady s s.closeSession :=
  dies_close.steady_modifyRef s.directSession

theorem steady_detachSocket (s : SocketHook) : Steady s s.detachSocket :=
  dies_detach.steady_modifyRef s.ws

/-- A hook that has only changed its transports. -/
structure SameRest (s s' : SocketHook) : Prop where
  attempts : s'.attempts = s.attempts
  created : s'.created = s.created
  started : s'.started = s.started
  shouldReconnect : s'.shouldReconnect = s.shouldReconnect
  disconnected : s'.disconnected = s.disconnected
  ws : s'.ws = s.ws
  directSession : s'.directSession = s.directSession

theorem sameRest_modifyRef (s : SocketHook) (ref : Option ℕ) (f : Transport → Transport) :
    SameRest s (s.modifyRef ref f) := by
  cases ref with
  | none => exact ⟨rfl, rfl, rfl, rfl, rfl, rfl, rfl⟩
  | some i => exact ⟨rfl, rfl, rfl, rfl, rfl, rfl, rfl⟩

theorem sameRest_detachSocket (s : SocketHook) : SameRest s s.detachSocket :=
  sameRest_modifyRef s s.ws _

/-! ## The invariant -/

/-- **What the refs hold**: every live transport, and every socket with handlers. -/
structure Held (s : SocketHook) : Prop where
  createdFresh : ∀ i, s.created ≤ i → s.transports i = none
  startedFresh : ∀ a, s.started ≤ a → s.attempts a = none
  oneLive : ∀ i j, s.Live i → s.Live j → i = j
  oneWaiting : ∀ a b, s.Waiting a → s.Waiting b → a = b
  notBoth : ∀ a i, s.Waiting a → ¬ s.Live i
  /-- a socket that is live or has handlers is in its ref -/
  socketHeld : ∀ i t, s.transports i = some t → t.mode = .backendProxy → t.live = true ∨
    t.hears = true → s.ws = some i
  /-- a live session is in its ref, or an attempt waits for it -/
  sessionHeld : ∀ i t, s.transports i = some t → t.mode = .directLive → t.live = true →
    s.directSession = some i ∨ ∃ a, s.attempts a = some (.directConnect i)
  /-- while the proxy waits for its token no socket has handlers -/
  quiet : ∀ a, s.attempts a = some .proxyToken → ∀ i t, s.transports i = some t →
    t.mode = .backendProxy → t.hears = false

/-- Nothing is live where no attempt is under way and the refs hold nothing live. -/
theorem Held.noneLive (hs : s.Held) (hidle : s.Idle) (hws : ∀ i, s.ws = some i → ¬ s.Live i)
    (hsession : ∀ i, s.directSession = some i → ¬ s.Live i) (i : ℕ) : ¬ s.Live i := by
  intro hi
  have hlive := hi
  obtain ⟨t, ht, htlive⟩ := hi
  cases hmode : t.mode with
  | backendProxy => exact hws i (hs.socketHeld i t ht hmode (.inl htlive)) hlive
  | directLive =>
    rcases hs.sessionHeld i t ht hmode htlive with href | ⟨a, ha⟩
    · exact hsession i href hlive
    · exact hidle.sessions a i ha hlive

/-- **Nothing new**: steps that start and create nothing. -/
theorem Held.shrink (hs : s.Held) (hkept : Kept s s') (hcreated : s'.created = s.created)
    (hstarted : s'.started = s.started)
    (hattempts : ∀ a, s'.attempts a = s.attempts a ∨ s'.attempts a = none ∨
      s'.attempts a = some .directImport ∧ s.Waiting a)
    (hws : ∀ i t', s.ws = some i → s'.transports i = some t' → t'.mode = .backendProxy →
      s'.ws = some i ∨ t'.live = false ∧ t'.hears = false)
    (hsession : ∀ i, s.directSession = some i → s'.Live i → s'.directSession = some i)
    (hconnects : ∀ a i, s.attempts a = some (.directConnect i) → s'.Live i →
      s'.attempts a = some (.directConnect i) ∨ s'.directSession = some i) : s'.Held := by
  have hwaiting : ∀ a, s'.Waiting a → s.Waiting a := by
    rintro a ⟨attempt, ha, hwait⟩
    rcases hattempts a with hsame | hnone | ⟨-, hbefore⟩
    · exact ⟨attempt, hsame.symm.trans ha, hwait⟩
    · rw [hnone] at ha
      cases ha
    · exact hbefore
  refine ⟨fun i hi => ?_, fun a ha => ?_, fun i j hi hj => hs.oneLive i j (hkept.live hi)
    (hkept.live hj), fun a b ha hb => hs.oneWaiting a b (hwaiting a ha) (hwaiting b hb),
    fun a i ha hi => hs.notBoth a i (hwaiting a ha) (hkept.live hi), fun i t' ht' hmode hactive =>
    ?_,
    fun i t' ht' hmode hlive => ?_, fun a ha i t' ht' hmode => ?_⟩
  · rw [hcreated] at hi
    cases ht' : s'.transports i with
    | none => rfl
    | some t' =>
      obtain ⟨t, ht, -⟩ := hkept i t' ht'
      rw [hs.createdFresh i hi] at ht
      cases ht
  · rw [hstarted] at ha
    have hnone := hs.startedFresh a ha
    rcases hattempts a with hsame | hgone | ⟨-, attempt, hbefore, -⟩
    · exact hsame.trans hnone
    · exact hgone
    · rw [hnone] at hbefore
      cases hbefore
  · obtain ⟨t, ht, hsame, hlive, hhears⟩ := hkept i t' ht'
    have href := hs.socketHeld i t ht (hsame.trans hmode) (hactive.imp hlive hhears)
    rcases hws i t' href ht' hmode with hheld | ⟨hdead, hdeaf⟩
    · exact hheld
    · rcases hactive with h | h
      · rw [hdead] at h
        cases h
      · rw [hdeaf] at h
        cases h
  · obtain ⟨t, ht, hsame, hbefore, -⟩ := hkept i t' ht'
    have hlive' : s'.Live i := ⟨t', ht', hlive⟩
    rcases hs.sessionHeld i t ht (hsame.trans hmode) (hbefore hlive) with href | ⟨a, ha⟩
    · exact .inl (hsession i href hlive')
    · exact (hconnects a i ha hlive').elim (fun h => .inr ⟨a, h⟩) .inl
  · rcases hattempts a with hsame | hnone | ⟨himport, -⟩
    · obtain ⟨t, ht, hmode', -, hhears⟩ := hkept i t' ht'
      rw [Bool.eq_false_iff]
      intro hhears'
      have hbefore := hhears hhears'
      rw [hs.quiet a (hsame.symm.trans ha) i t ht (hmode'.trans hmode)] at hbefore
      cases hbefore
    · rw [hnone] at ha
      cases ha
    · rw [himport] at ha
      cases ha

theorem Held.same (hs : s.Held) (htransports : s'.transports = s.transports)
    (hcreated : s'.created = s.created) (hattempts : s'.attempts = s.attempts)
    (hstarted : s'.started = s.started) (hws : s'.ws = s.ws)
    (hsession : s'.directSession = s.directSession) : s'.Held := by
  refine hs.shrink (fun i t' ht' => ⟨t', htransports ▸ ht', rfl, id, id⟩) hcreated hstarted
    (fun a => .inl (congrFun hattempts a)) (fun i _ href _ _ => .inl (hws.trans href))
    (fun i href _ => hsession.trans href) fun a i ha _ => .inl ((congrFun hattempts a).trans ha)

/-- **An attempt starts** where nothing is under way. -/
theorem Held.startAttempt (hs : s.Held) (hnone : ∀ i, ¬ s.Live i) (hwaiting : ∀ a, ¬ s.Waiting a)
    {attempt : Attempt}
    (hquiet : attempt = .proxyToken → ∀ i t, s.transports i = some t → t.mode = .backendProxy →
      t.hears = false) : (s.startAttempt attempt).Held := by
  have hother : ∀ a, a ≠ s.started → (s.startAttempt attempt).attempts a = s.attempts a :=
    fun a ha => Function.update_of_ne ha _ _
  have honly : ∀ a, (s.startAttempt attempt).Waiting a → a = s.started := by
    rintro a ⟨attempt', ha, hwait⟩
    by_contra hne
    exact hwaiting a ⟨attempt', (hother a hne).symm.trans ha, hwait⟩
  refine ⟨hs.createdFresh, fun a ha => ?_, hs.oneLive, fun a b ha hb =>
    (honly a ha).trans (honly b hb).symm,
    fun a i _ => hnone i, hs.socketHeld, fun i t ht _ hlive => absurd ⟨t, ht, hlive⟩ (hnone i),
    fun a ha i t ht hmode => ?_⟩
  · have hlt : s.started < a := ha
    rw [hother a (Nat.ne_of_gt hlt)]
    exact hs.startedFresh a (Nat.le_of_lt hlt)
  · by_cases hnew : a = s.started
    · subst hnew
      have hself : (s.startAttempt attempt).attempts s.started = some attempt :=
        Function.update_self _ _ _
      exact hquiet (Option.some.inj (hself.symm.trans ha)) i t ht hmode
    · exact hs.quiet a ((hother a hnew).symm.trans ha) i t ht hmode

/-- **A transport is created** by the attempt that waits. -/
theorem Held.create (hs : s.Held) {a : ℕ} (ha : s.Waiting a) {mode : TransportMode}
    {rest : Option Attempt}
    (htransports : s'.transports = Function.update s.transports s.created (some { mode := mode }))
    (hattempts : s'.attempts = Function.update s.attempts a rest)
    (hcreated : s'.created = s.created + 1) (hstarted : s'.started = s.started)
    (hheld : (mode = .backendProxy ∧ rest = none ∧ s.attempts a = some .proxyToken ∧
      s'.ws = some s.created) ∨
      (mode = .directLive ∧ rest = some (.directConnect s.created) ∧ s'.ws = s.ws)) : s'.Held := by
  have hnew : s'.transports s.created = some { mode := mode } := by
    rw [htransports, Function.update_self]
  have hold : ∀ i, i ≠ s.created → s'.transports i = s.transports i := by
    intro i hi
    rw [htransports, Function.update_of_ne hi]
  have honly : ∀ i, s'.Live i → i = s.created := by
    rintro i ⟨t, ht, hlive⟩
    by_contra hne
    exact hs.notBoth a i ha ⟨t, (hold i hne).symm.trans ht, hlive⟩
  have hresting : ∀ b, ¬ s'.Waiting b := by
    rintro b ⟨attempt, hb, hwait⟩
    by_cases hba : b = a
    · subst hba
      rw [hattempts, Function.update_self] at hb
      rcases hheld with ⟨-, hrest, -⟩ | ⟨-, hrest, -⟩
      · rw [hrest] at hb
        cases hb
      · rw [hrest] at hb
        cases hb
        cases hwait
    · rw [hattempts, Function.update_of_ne hba] at hb
      exact hba (hs.oneWaiting b a ⟨attempt, hb, hwait⟩ ha)
  have hlt : a < s.started := by
    by_contra hge
    obtain ⟨attempt, hattempt, -⟩ := ha
    rw [hs.startedFresh a (Nat.le_of_not_lt hge)] at hattempt
    cases hattempt
  refine ⟨fun i hi => ?_, fun b hb => ?_, fun i j hi hj => (honly i hi).trans (honly j hj).symm,
    fun b c hb => absurd hb (hresting b), fun b i hb => absurd hb (hresting b),
    fun i t ht hmode hactive => ?_, fun i t ht hmode hlive => ?_, fun b hb =>
    absurd ⟨_, hb, rfl⟩ (hresting b)⟩
  · rw [hcreated] at hi
    rw [hold i (by omega)]
    exact hs.createdFresh i (by omega)
  · rw [hstarted] at hb
    rw [hattempts, Function.update_of_ne (by omega)]
    exact hs.startedFresh b hb
  · by_cases hi : i = s.created
    · subst hi
      rw [hnew] at ht
      obtain rfl := Option.some.inj ht
      rcases hheld with ⟨-, -, -, hws⟩ | ⟨hdirect, -⟩
      · exact hws
      · exact absurd (hdirect.symm.trans hmode) (by decide)
    · have hbefore := (hold i hi).symm.trans ht
      rcases hheld with ⟨-, -, htoken, -⟩ | ⟨-, -, hws⟩
      · rcases hactive with hlive | hhears
        · exact absurd ⟨t, hbefore, hlive⟩ (hs.notBoth a i ha)
        · rw [hs.quiet a htoken i t hbefore hmode] at hhears
          cases hhears
      · exact hws.trans (hs.socketHeld i t hbefore hmode hactive)
  · obtain rfl := honly i ⟨t, ht, hlive⟩
    rw [hnew] at ht
    obtain rfl := Option.some.inj ht
    rcases hheld with ⟨hproxy, -⟩ | ⟨-, hrest, -⟩
    · exact absurd (hproxy.symm.trans hmode) (by decide)
    · exact .inr ⟨a, by rw [hattempts, Function.update_self, hrest]⟩

/-! ## What the functions of the hook do -/

/-- The socket that was detached is dead and deaf, and stays so. -/
theorem detached (hkept : Kept s.detachSocket s') {i : ℕ} {t' : Transport} (hws : s.ws = some i)
    (ht' : s'.transports i = some t') : t'.live = false ∧ t'.hears = false := by
  obtain ⟨t, ht, -, hlive, hhears⟩ := hkept i t' ht'
  rw [detachSocket, hws, modifyRef, modify_transports, if_pos rfl] at ht
  obtain ⟨t₀, -, rfl⟩ := Option.map_eq_some_iff.1 ht
  refine ⟨Bool.eq_false_iff.2 fun h => ?_, Bool.eq_false_iff.2 fun h => ?_⟩
  · have hdead := hlive h
    rw [t₀.live_detach] at hdead
    cases hdead
  · have hdeaf := hhears h
    rw [t₀.hears_detach] at hdeaf
    cases hdeaf

/-- The session that was closed is dead, and stays so. -/
theorem not_live_closed (hkept : Kept s.closeSession s') {i : ℕ}
    (hsession : s.directSession = some i) : ¬ s'.Live i := by
  intro hlive
  have hbefore : (s.modifyRef s.directSession Transport.close).Live i := hkept.live hlive
  rw [hsession] at hbefore
  exact dies_close.not_live_modify hbefore

theorem Idle.kept (h : s.Idle) (hkept : Kept s s') (hattempts : s'.attempts = s.attempts) :
    s'.Idle := by
  refine ⟨fun a ⟨attempt, ha, hwait⟩ => h.waiting a ⟨attempt, (congrFun hattempts a) ▸ ha, hwait⟩,
    fun a i ha hlive => h.sessions a i ((congrFun hattempts a) ▸ ha) (hkept.live hlive)⟩

/-- The second part of `cleanup`. -/
theorem kept_cleanup_detached (s : SocketHook) : Kept s.clearTimers.detachSocket s.cleanup :=
  kept_closeSession { s.clearTimers.detachSocket with ws := none }

theorem kept_cleanup (s : SocketHook) : Kept s s.cleanup :=
  (kept_detachSocket s.clearTimers).trans (kept_cleanup_detached s)

theorem steady_cleanup (s : SocketHook) : Steady s s.cleanup :=
  (steady_detachSocket s.clearTimers).trans (steady_closeSession _)

theorem sameRest_closeSession (s : SocketHook) :
    SameRest { s with directSession := none } s.closeSession := by
  have h := sameRest_modifyRef s s.directSession Transport.close
  exact ⟨h.attempts, h.created, h.started, h.shouldReconnect, h.disconnected, h.ws, rfl⟩

theorem sameRest_cleanup (s : SocketHook) :
    SameRest { s with ws := none, directSession := none } s.cleanup := by
  have hdetach := sameRest_detachSocket s.clearTimers
  have hclose := sameRest_closeSession { s.clearTimers.detachSocket with ws := none }
  exact ⟨hclose.attempts.trans hdetach.attempts, hclose.created.trans hdetach.created,
    hclose.started.trans hdetach.started, hclose.shouldReconnect.trans hdetach.shouldReconnect,
    hclose.disconnected.trans hdetach.disconnected, hclose.ws, hclose.directSession⟩

theorem Held.cleanup (hs : s.Held) : s.cleanup.Held := by
  have hrest := sameRest_cleanup s
  refine hs.shrink (kept_cleanup s) hrest.created hrest.started (fun a =>
    .inl (congrFun hrest.attempts a))
    (fun i t' hws ht' _ => .inr (detached (kept_cleanup_detached s) hws ht'))
    (fun i hsession hlive => ?_) fun a i ha _ => .inl ((congrFun hrest.attempts a).trans ha)
  have hbefore : ({ s.clearTimers.detachSocket with ws := none } : SocketHook).directSession =
      some i :=
    (sameRest_detachSocket s.clearTimers).directSession.trans hsession
  exact absurd hlive (not_live_closed (Kept.refl _) hbefore)

/-! ## Attempts -/

theorem held_scheduleReconnect (hs : s.Held) (cfg : SocketOptions) :
    (s.scheduleReconnect cfg).Held := by
  unfold scheduleReconnect
  split
  · exact hs
  · split
    · exact hs.same rfl rfl rfl rfl rfl rfl
    · exact hs.same rfl rfl rfl rfl rfl rfl

theorem Held.connectBackendProxy (hs : s.Held) (hidle : s.Idle) : s.connectBackendProxy.Held := by
  unfold SocketHook.connectBackendProxy
  split
  · exact hs
  · next hguard =>
      rw [Bool.not_eq_true, Bool.or_eq_false_iff] at hguard
      have hclose := sameRest_closeSession s
      have hdetach := sameRest_detachSocket s.closeSession
      have hkept : Kept s s.closeSession.detachSocket :=
        (kept_closeSession s).trans (kept_detachSocket _)
      have hattempts : s.closeSession.detachSocket.attempts = s.attempts :=
        hdetach.attempts.trans hclose.attempts
      have hws : s.closeSession.ws = s.ws := hclose.ws
      have hheld : s.closeSession.detachSocket.Held := by
        refine hs.shrink hkept (hdetach.created.trans hclose.created)
          (hdetach.started.trans hclose.started)
          (fun a => .inl (congrFun hattempts a))
          (fun i _ hi _ _ => .inl (hdetach.ws.trans (hws.trans hi)))
          (fun i hsession hlive => absurd hlive (not_live_closed (kept_detachSocket _) hsession))
          fun a i ha _ => .inl ((congrFun hattempts a).trans ha)
      have hidle' : s.closeSession.detachSocket.Idle := hidle.kept hkept hattempts
      refine hheld.startAttempt (hheld.noneLive hidle' (fun i hi hlive => ?_) fun i hi =>
        ?_) hidle'.waiting
        fun _ i t ht hmode => ?_
      · exact not_live_ws hguard.2 (hws.symm.trans (hdetach.ws.symm.trans hi)) (hkept.live hlive)
      · rw [hdetach.directSession, hclose.directSession] at hi
        cases hi
      · rw [Bool.eq_false_iff]
        intro hhears
        have hi : s.closeSession.ws = some i :=
          hdetach.ws.symm.trans (hheld.socketHeld i t ht hmode (.inr hhears))
        rw [(detached (Kept.refl _) hi ht).2] at hhears
        cases hhears

theorem Held.connectInternal (hs : s.Held) {cfg : SocketOptions}
    (hidle : cfg.demoMode = false → s.guarded = false → s.Idle) : (s.connectInternal cfg).Held := by
  unfold SocketHook.connectInternal
  split
  · exact hs.same rfl rfl rfl rfl rfl rfl
  · next hdemo =>
      split
      · exact hs
      · next hguard =>
          rw [Bool.not_eq_true] at hdemo hguard
          have hnow := hidle hdemo hguard
          split
          · simp only [guarded, Bool.or_eq_false_iff] at hguard
            refine hs.startAttempt (hs.noneLive hnow (fun i hi => not_live_ws hguard.2 hi) fun i hi
              => ?_) hnow.waiting fun h => nomatch h
            rw [hi] at hguard
            cases hguard.1.2
          · exact hs.connectBackendProxy hnow

/-- An attempt without a live session ends. -/
theorem Held.dropAttempt (hs : s.Held) {a : ℕ} (ha : ∀ i, s.attempts a = some (.directConnect i) →
    ¬ s.Live i) : (s.setAttempt a none).Held := by
  refine hs.shrink (Kept.refl s) rfl rfl (fun b => ?_) (fun i _ hi _ _ => .inl hi)
    (fun i hi _ => hi) fun b i hb hlive => .inl ?_
  · by_cases hba : b = a
    · subst hba
      exact .inr (.inl (Function.update_self _ _ _))
    · exact .inl (Function.update_of_ne hba _ _)
  · have hba : b ≠ a := by
      rintro rfl
      exact ha i hb hlive
    exact (Function.update_of_ne hba _ _).trans hb

/-- An attempt that fails is the only one under way, and `disconnect` was not called. -/
def FailsAlone (s : SocketHook) (a : ℕ) : Prop :=
  s.disconnected = false ∧ (s.setAttempt a none).Idle

theorem Held.directFailed (hs : s.Held) {a : ℕ} (ha : ∀ i, s.attempts a = some (.directConnect i) →
    ¬ s.Live i) (hidle : (s.setAttempt a none).Idle) : (s.directFailed a).Held := by
  have hdrop := hs.dropAttempt ha
  have hheld : ({ s.setAttempt a none with connecting := false, activeTransport := .backendProxy } :
      SocketHook).Held := hdrop.same rfl rfl rfl rfl rfl rfl
  exact hheld.connectBackendProxy ⟨hidle.waiting, hidle.sessions⟩

theorem Held.endAttempt (hs : s.Held) {a : ℕ} (ha : ∀ i, s.attempts a = some (.directConnect i) →
    ¬ s.Live i) : (s.endAttempt a).Held :=
  (hs.dropAttempt ha).same rfl rfl rfl rfl rfl rfl

theorem Held.modify_dies (hs : s.Held) {f : Transport → Transport} (hf : Dies f) (i : ℕ) :
    (s.modify i f).Held :=
  hs.shrink (hf.kept_modify i) rfl rfl (fun _ => .inl rfl) (fun _ _ hj _ _ => .inl hj)
    (fun _ hj _ => hj) fun _ _ hb _ => .inl hb

theorem Held.tokenDone (hs : s.Held) {a : ℕ} {ok : Bool}
    (hfails : ok = false → s.attempts a = some .directToken → s.FailsAlone a) :
    (s.tokenDone a ok).Held := by
  unfold SocketHook.tokenDone
  split
  · next ha =>
      split
      · exact hs.create ⟨_, ha, rfl⟩ rfl rfl rfl rfl (.inl ⟨rfl, rfl, ha, rfl⟩)
      · exact hs.endAttempt fun i hi => nomatch ha.symm.trans hi
  · next ha =>
      have hno : ∀ i, s.attempts a = some (.directConnect i) → ¬ s.Live i :=
        fun i hi => nomatch ha.symm.trans hi
      cases ok with
      | false => exact hs.directFailed hno (hfails rfl ha).2
      | true =>
        rw [Bool.not_true, if_neg Bool.false_ne_true]
        split
        · refine hs.shrink (Kept.refl s) rfl rfl (fun b => ?_) (fun i _ hi _ _ => .inl hi)
            (fun i hi _ => hi) fun b i hb _ => .inl ?_
          · by_cases hba : b = a
            · subst hba
              exact .inr (.inr ⟨Function.update_self _ _ _, _, ha, rfl⟩)
            · exact .inl (Function.update_of_ne hba _ _)
          · have hba : b ≠ a := by
              rintro rfl
              exact nomatch ha.symm.trans hb
            exact (Function.update_of_ne hba _ _).trans hb
        · exact hs.endAttempt hno
  · exact hs

theorem Held.importDone (hs : s.Held) {a : ℕ} {ok : Bool}
    (hfails : ok = false → s.attempts a = some .directImport → s.FailsAlone a) :
    (s.importDone a ok).Held := by
  unfold SocketHook.importDone
  split
  · next ha =>
      have hno : ∀ i, s.attempts a = some (.directConnect i) → ¬ s.Live i :=
        fun i hi => nomatch ha.symm.trans hi
      cases ok with
      | false => exact hs.directFailed hno (hfails rfl ha).2
      | true =>
        rw [Bool.not_true, if_neg Bool.false_ne_true]
        split
        · exact hs.create ⟨_, ha, rfl⟩ rfl rfl rfl rfl (.inr ⟨rfl, rfl, rfl⟩)
        · exact hs.endAttempt hno
  · exact hs

/-- No other session that is open or opening is in the ref. -/
def NotReplaced (s : SocketHook) (i : ℕ) : Prop :=
  ∀ j, s.directSession = some j → j ≠ i → ¬ s.Live j

theorem Held.liveDone (hs : s.Held) {a : ℕ} {ok : Bool}
    (hfails : ok = false → ∀ i, s.attempts a = some (.directConnect i) → s.FailsAlone a)
    (hlate : ok = true → ∀ i, s.attempts a = some (.directConnect i) → s.NotReplaced i) :
    (s.liveDone a ok).Held := by
  unfold SocketHook.liveDone
  split
  · next i ha =>
      have hclosed : (s.modify i Transport.close).Held := hs.modify_dies dies_close i
      have hno : ∀ j, (s.modify i Transport.close).attempts a = some (.directConnect j) →
          ¬ (s.modify i Transport.close).Live j := by
        intro j hj
        obtain rfl : i = j := by simpa using ha.symm.trans hj
        exact dies_close.not_live_modify
      cases ok with
      | false =>
        have hidle : ((s.modify i Transport.close).setAttempt a none).Idle :=
          (hfails rfl i ha).2.kept (dies_close.kept_modify i) rfl
        exact hclosed.directFailed hno hidle
      | true =>
        rw [Bool.not_true, if_neg Bool.false_ne_true]
        split
        · refine hs.shrink (Kept.refl s) rfl rfl (fun b => ?_) (fun j _ hj _ _ => .inl hj)
            (fun j hj hlive => ?_) fun b j hb _ => ?_
          · by_cases hba : b = a
            · subst hba
              exact .inr (.inl (Function.update_self _ _ _))
            · exact .inl (Function.update_of_ne hba _ _)
          · by_contra hne
            exact hlate rfl i ha j hj (fun hji => hne (congrArg some hji.symm)) hlive
          · by_cases hba : b = a
            · subst hba
              exact .inr (by simpa using ha.symm.trans hb)
            · exact .inl ((Function.update_of_ne hba _ _).trans hb)
        · exact hclosed.endAttempt hno
  · exact hs

/-! ## Events of transports -/

theorem Held.socketClosed (hs : s.Held) (cfg : SocketOptions) (now : ℕ)
    (hdead : ∀ i t, s.ws = some i → s.transports i = some t → t.live = false ∧ t.hears = false) :
    (s.socketClosed cfg now).Held := by
  have hnone : ({ s with connecting := false, ws := none, rapidFailCount := s.rapidFails now } :
      SocketHook).Held :=
    hs.shrink (Kept.refl s) rfl rfl (fun _ => .inl rfl) (fun i t hi ht _ => .inr (hdead i t hi ht))
      (fun _ hj _ => hj) fun _ _ hb _ => .inl hb
  unfold SocketHook.socketClosed
  dsimp only
  split
  · exact hnone.same rfl rfl rfl rfl rfl rfl
  · split
    · exact hnone.same rfl rfl rfl rfl rfl rfl
    · exact held_scheduleReconnect hnone cfg

theorem Held.sessionClosed (hs : s.Held) (cfg : SocketOptions)
    (hdead : ∀ i, s.directSession = some i → ¬ s.Live i) : (s.sessionClosed cfg).Held := by
  have hnone : ({ s with connecting := false, directSession := none } : SocketHook).Held :=
    hs.shrink (Kept.refl s) rfl rfl (fun _ => .inl rfl) (fun _ _ hj _ _ => .inl hj)
      (fun i hi hlive => absurd hlive (hdead i hi)) fun _ _ hb _ => .inl hb
  exact held_scheduleReconnect hnone cfg

theorem Held.closed (hs : s.Held) (cfg : SocketOptions) {i now : ℕ}
    (hlate : ∀ t, s.transports i = some t → t.mode = .directLive → t.state ≠ .closed →
      s.NotReplaced i) :
    (s.closed cfg i now).Held := by
  unfold SocketHook.closed
  split
  · next t ht =>
      split
      · exact hs
      · next hstate =>
          have hmodified := hs.modify_dies dies_closed i
          dsimp only
          split
          · next hhandled =>
              split
              · next hmode =>
                  have hhears : t.hears = true := by
                    rw [Transport.hears, hhandled, Bool.true_and]
                    exact decide_eq_true hstate
                  refine hmodified.socketClosed cfg now fun j t' hj ht' => ?_
                  have hij : i = j :=
                    Option.some.inj ((hs.socketHeld i t ht hmode (.inr hhears)).symm.trans hj)
                  subst hij
                  rw [modify_transports, if_pos rfl] at ht'
                  obtain ⟨t₀, -, rfl⟩ := Option.map_eq_some_iff.1 ht'
                  exact ⟨rfl, by simp [Transport.hears]⟩
              · next hmode =>
                  refine hmodified.sessionClosed cfg fun j hj hlive => ?_
                  by_cases hji : j = i
                  · subst hji
                    exact dies_closed.not_live_modify hlive
                  · exact hlate t ht hmode hstate j hj hji ((dies_closed.kept_modify i).live hlive)
          · exact hmodified
  · exact hs

theorem Held.opened (hs : s.Held) (i now : ℕ) : (s.opened i now).Held := by
  unfold SocketHook.opened
  split
  · next t ht =>
      split
      · next hstate =>
          have hkept : Kept s (s.modify i fun t => { t with state := .opened }) := by
            refine kept_modify fun t' ht' => ⟨rfl, fun _ => ?_, fun h => ?_⟩
            · obtain rfl := Option.some.inj (ht.symm.trans ht')
              rw [Transport.live, hstate]
              rfl
            · obtain rfl := Option.some.inj (ht.symm.trans ht')
              simpa [Transport.hears, hstate] using h
          have hmodified : (s.modify i fun t => { t with state := .opened }).Held :=
            hs.shrink hkept rfl rfl (fun _ => .inl rfl) (fun _ _ hj _ _ => .inl hj)
              (fun _ hj _ => hj) fun _ _ hb _ => .inl hb
          dsimp only
          split
          · split
            · exact hmodified.same rfl rfl rfl rfl rfl rfl
            · exact hmodified.same rfl rfl rfl rfl rfl rfl
          · exact hmodified
      · exact hs
  · exact hs

theorem Held.voiceChanged (hs : s.Held) (cfg : SocketOptions) : (s.voiceChanged cfg).Held := by
  unfold SocketHook.voiceChanged
  split
  · next i _ =>
      split
      · exact (hs.modify_dies dies_close i).same rfl rfl rfl rfl rfl rfl
      · exact hs
  · exact hs

end SocketHook

/-! ## Steps -/

/-- **The order in which the guards see everything**: an attempt starts while no other is under way;
    what a late event of an old session removes from the ref is not live; and after `disconnect` no
    attempt fails, no timer that it missed fires, and no session opens. -/
def InOrder (cfg : SocketOptions) (s : SocketHook) : SocketEvent → Prop
  | .connect seen _ =>
    seen = false → s.pendingConnect = none → cfg.demoMode = false → s.guarded = false → s.Idle
  | .timerFired timer =>
    timer ∈ s.reconnectTimers → cfg.demoMode = false → s.guarded = false →
      s.Idle ∧ s.disconnected = false
  | .tokenDone a ok => ok = false → s.attempts a = some .directToken → s.FailsAlone a
  | .importDone a ok => ok = false → s.attempts a = some .directImport → s.FailsAlone a
  | .liveDone a ok => ∀ i, s.attempts a = some (.directConnect i) →
      if ok then s.NotReplaced i else s.FailsAlone a
  | .opened i _ => ∀ t, s.transports i = some t → t.mode = .directLive → t.state = .connecting →
      s.disconnected = false
  | .closed i _ =>
    ∀ t, s.transports i = some t → t.mode = .directLive → t.state ≠ .closed → s.NotReplaced i
  | _ => True

/-- **The refs keep holding** what is live. -/
theorem held_next {cfg : SocketOptions} {s : SocketHook} (hs : s.Held) {e : SocketEvent}
    (hok : InOrder cfg s e) : ((socketMachine cfg).next s e).Held := by
  cases e with
  | connect seen timed =>
    show (s.connect cfg seen timed).Held
    unfold SocketHook.connect
    dsimp only
    split
    · exact hs.same rfl rfl rfl rfl rfl rfl
    · next hseen =>
        split
        · exact hs.same rfl rfl rfl rfl rfl rfl
        · next hpending =>
            refine SocketHook.Held.connectInternal ?_ fun hdemo hguard => ?_
            · exact hs.same rfl rfl rfl rfl rfl rfl
            have hidle := hok (Bool.not_eq_true _ ▸ hseen) (by simpa using hpending) hdemo hguard
            exact ⟨hidle.waiting, hidle.sessions⟩
  | disconnect => exact SocketHook.Held.cleanup (hs.same rfl rfl rfl rfl rfl rfl)
  | connectTimeout =>
    show s.connectTimeout.Held
    unfold SocketHook.connectTimeout
    split
    · have hstopped : ({ s with shouldReconnect := false } : SocketHook).Held :=
        hs.same rfl rfl rfl rfl rfl rfl
      exact hstopped.cleanup.same rfl rfl rfl rfl rfl rfl
    · exact hs
  | tokenDone a ok => exact hs.tokenDone hok
  | importDone a ok => exact hs.importDone hok
  | liveDone a ok =>
    refine hs.liveDone (fun hbad i ha => ?_) fun hgood i ha => ?_
    · have h := hok i ha
      rw [hbad] at h
      exact h
    · have h := hok i ha
      rw [hgood] at h
      exact h
  | opened i now => exact hs.opened i now
  | remoteClosing i => exact hs.modify_dies SocketHook.dies_close i
  | closed i now => exact hs.closed cfg hok
  | voiceChanged => exact hs.voiceChanged cfg
  | timerFired timer =>
    show (s.timerFired cfg timer).Held
    unfold SocketHook.timerFired
    split
    · next hmem =>
        refine SocketHook.Held.connectInternal ?_ fun hdemo hguard => ?_
        · exact hs.same rfl rfl rfl rfl rfl rfl
        have hidle := (hok hmem hdemo hguard).1
        exact ⟨hidle.waiting, hidle.sessions⟩
    · exact hs

/-! ## After `disconnect` -/

namespace SocketHook

variable {s s' : SocketHook}

/-- After `disconnect` nothing is to be connected again, and no socket is in the ref. -/
structure Stopped (s : SocketHook) : Prop where
  shouldReconnect : s.disconnected = true → s.shouldReconnect = false
  ws : s.disconnected = true → s.ws = none

theorem scheduleReconnect_disconnected (cfg : SocketOptions) :
    (s.scheduleReconnect cfg).disconnected = s.disconnected := by
  unfold scheduleReconnect
  split
  · rfl
  · split <;> rfl

theorem connectBackendProxy_disconnected : s.connectBackendProxy.disconnected = s.disconnected := by
  unfold SocketHook.connectBackendProxy
  split
  · rfl
  · exact (sameRest_detachSocket s.closeSession).disconnected.trans
      (sameRest_closeSession s).disconnected

theorem connectInternal_disconnected (cfg : SocketOptions) :
    (s.connectInternal cfg).disconnected = s.disconnected := by
  unfold SocketHook.connectInternal
  split
  · rfl
  · split
    · rfl
    · split
      · rfl
      · exact connectBackendProxy_disconnected

theorem closed_disconnected (cfg : SocketOptions) (i now : ℕ) :
    (s.closed cfg i now).disconnected = s.disconnected := by
  unfold SocketHook.closed
  split
  · split
    · rfl
    · dsimp only
      split
      · split
        · unfold SocketHook.socketClosed
          dsimp only
          split
          · rfl
          · split
            · rfl
            · exact scheduleReconnect_disconnected cfg
        · exact scheduleReconnect_disconnected cfg
      · rfl
  · rfl

theorem opened_disconnected (i now : ℕ) : (s.opened i now).disconnected = s.disconnected := by
  unfold SocketHook.opened
  split
  · split
    · dsimp only
      split
      · split <;> rfl
      · rfl
    · rfl
  · rfl

theorem connect_disconnected (cfg : SocketOptions) (seen timed : Bool) :
    (s.connect cfg seen timed).disconnected = false := by
  unfold SocketHook.connect
  dsimp only
  split
  · rfl
  · split
    · rfl
    · exact connectInternal_disconnected cfg

/-- No step but `disconnect` makes a connected hook a disconnected one. -/
theorem connected_next {cfg : SocketOptions} (hs : s.disconnected = false) {e : SocketEvent}
    (he : e ≠ .disconnect) : ((socketMachine cfg).next s e).disconnected = false := by
  cases e with
  | connect seen timed => exact connect_disconnected cfg seen timed
  | disconnect => exact absurd rfl he
  | connectTimeout =>
    show s.connectTimeout.disconnected = false
    unfold SocketHook.connectTimeout
    split
    · exact (sameRest_cleanup { s with shouldReconnect := false }).disconnected.trans hs
    · exact hs
  | tokenDone a ok =>
    show (s.tokenDone a ok).disconnected = false
    unfold SocketHook.tokenDone
    split
    · split <;> exact hs
    · split
      · exact connectBackendProxy_disconnected.trans hs
      · split <;> exact hs
    · exact hs
  | importDone a ok =>
    show (s.importDone a ok).disconnected = false
    unfold SocketHook.importDone
    split
    · split
      · exact connectBackendProxy_disconnected.trans hs
      · split <;> exact hs
    · exact hs
  | liveDone a ok =>
    show (s.liveDone a ok).disconnected = false
    unfold SocketHook.liveDone
    split
    · split
      · exact connectBackendProxy_disconnected.trans hs
      · split <;> exact hs
    · exact hs
  | opened i now => exact (opened_disconnected i now).trans hs
  | remoteClosing i => exact hs
  | closed i now => exact (closed_disconnected cfg i now).trans hs
  | voiceChanged =>
    show (s.voiceChanged cfg).disconnected = false
    unfold SocketHook.voiceChanged
    split
    · split <;> exact hs
    · exact hs
  | timerFired timer =>
    show (s.timerFired cfg timer).disconnected = false
    unfold SocketHook.timerFired
    split
    · exact (connectInternal_disconnected cfg).trans hs
    · exact hs

/-- What a step after `disconnect` leaves: nothing opens, and the hook stays stopped. -/
structure StaysStopped (s s' : SocketHook) : Prop where
  steady : Steady s s'
  shouldReconnect : s'.shouldReconnect = false
  ws : s'.ws = none

theorem scheduleReconnect_stopped (cfg : SocketOptions) (h : s.shouldReconnect = false) :
    s.scheduleReconnect cfg = s := by
  unfold scheduleReconnect
  rw [h, Bool.not_false, Bool.or_true, if_pos rfl]

section Stopped

variable (hreconnect : s.shouldReconnect = false) (hws : s.ws = none)
include hreconnect hws

theorem staysStopped_refl : StaysStopped s s := ⟨Steady.refl s, hreconnect, hws⟩

theorem staysStopped_endAttempt (a : ℕ) : StaysStopped s (s.endAttempt a) :=
  ⟨Steady.refl s, hreconnect, hws⟩

theorem staysStopped_modify {f : Transport → Transport} (hf : Dies f) (i : ℕ) :
    StaysStopped s (s.modify i f) :=
  ⟨hf.steady_modify i, hreconnect, hws⟩

theorem staysStopped_connectTimeout : StaysStopped s s.connectTimeout := by
  unfold SocketHook.connectTimeout
  split
  · have hrest := sameRest_cleanup { s with shouldReconnect := false }
    exact ⟨steady_cleanup { s with shouldReconnect := false }, hrest.shouldReconnect, hrest.ws⟩
  · exact staysStopped_refl hreconnect hws

theorem staysStopped_tokenDone (hno : s.disconnected ≠ false) {cfg : SocketOptions} {a : ℕ}
    {ok : Bool} (hok : InOrder cfg s (.tokenDone a ok)) : StaysStopped s (s.tokenDone a ok) := by
  unfold SocketHook.tokenDone
  split
  · rw [hreconnect, if_neg Bool.false_ne_true]
    exact staysStopped_endAttempt hreconnect hws a
  · next ha =>
      cases ok with
      | false => exact absurd (hok rfl ha).1 hno
      | true =>
        rw [hreconnect, Bool.not_true, if_neg Bool.false_ne_true, if_neg Bool.false_ne_true]
        exact staysStopped_endAttempt hreconnect hws a
  · exact staysStopped_refl hreconnect hws

theorem staysStopped_importDone (hno : s.disconnected ≠ false) {cfg : SocketOptions} {a : ℕ}
    {ok : Bool} (hok : InOrder cfg s (.importDone a ok)) : StaysStopped s (s.importDone a ok) := by
  unfold SocketHook.importDone
  split
  · next ha =>
      cases ok with
      | false => exact absurd (hok rfl ha).1 hno
      | true =>
        rw [hreconnect, Bool.not_true, if_neg Bool.false_ne_true, if_neg Bool.false_ne_true]
        exact staysStopped_endAttempt hreconnect hws a
  · exact staysStopped_refl hreconnect hws

theorem staysStopped_liveDone (hno : s.disconnected ≠ false) {cfg : SocketOptions} {a : ℕ}
    {ok : Bool} (hok : InOrder cfg s (.liveDone a ok)) : StaysStopped s (s.liveDone a ok) := by
  unfold SocketHook.liveDone
  split
  · next i ha =>
      cases ok with
      | false => exact absurd (hok i ha).1 hno
      | true =>
        rw [hreconnect, Bool.not_true, if_neg Bool.false_ne_true, if_neg Bool.false_ne_true]
        exact ⟨dies_close.steady_modify (s := s.endAttempt a) i, hreconnect, hws⟩
  · exact staysStopped_refl hreconnect hws

theorem staysStopped_opened (hs : s.Held) (hno : s.disconnected ≠ false) {cfg : SocketOptions}
    {i now : ℕ} (hok : InOrder cfg s (.opened i now)) : StaysStopped s (s.opened i now) := by
  unfold SocketHook.opened
  split
  · next t ht =>
      split
      · next hstate =>
          cases hmode : t.mode with
          | backendProxy =>
            have hlive : t.live = true := by
              rw [Transport.live, hstate]
              rfl
            have href := hs.socketHeld i t ht hmode (.inl hlive)
            rw [hws] at href
            cases href
          | directLive => exact absurd (hok t ht hmode hstate) hno
      · exact staysStopped_refl hreconnect hws
  · exact staysStopped_refl hreconnect hws

theorem staysStopped_closed (hs : s.Held) (cfg : SocketOptions) (i now : ℕ) :
    StaysStopped s (s.closed cfg i now) := by
  unfold SocketHook.closed
  split
  · next t ht =>
      split
      · exact staysStopped_refl hreconnect hws
      · next hstate =>
          dsimp only
          split
          · next hhandled =>
              split
              · next hmode =>
                  have hhears : t.hears = true := by
                    rw [Transport.hears, hhandled, Bool.true_and]
                    exact decide_eq_true hstate
                  have href := hs.socketHeld i t ht hmode (.inr hhears)
                  rw [hws] at href
                  cases href
              · unfold SocketHook.sessionClosed
                rw [scheduleReconnect_stopped cfg (by exact hreconnect)]
                exact ⟨dies_closed.steady_modify i, hreconnect, hws⟩
          · exact staysStopped_modify hreconnect hws dies_closed i
  · exact staysStopped_refl hreconnect hws

theorem staysStopped_timerFired (hno : s.disconnected ≠ false) {cfg : SocketOptions} {timer : ℕ}
    (hok : InOrder cfg s (.timerFired timer)) : StaysStopped s (s.timerFired cfg timer) := by
  unfold SocketHook.timerFired
  split
  · next hmem =>
      unfold SocketHook.connectInternal
      split
      · exact ⟨Steady.refl s, hreconnect, hws⟩
      · next hdemo =>
          split
          · exact ⟨Steady.refl s, hreconnect, hws⟩
          · next hguard =>
              exact absurd (hok hmem (Bool.not_eq_true _ ▸ hdemo) (Bool.not_eq_true _ ▸ hguard)).2
                hno
  · exact staysStopped_refl hreconnect hws

/-- **After `disconnect`** no step opens a transport. -/
theorem Held.staysStopped (hs : s.Held) (hdisconnected : s.disconnected = true)
    {cfg : SocketOptions} {e : SocketEvent} (hok : InOrder cfg s e)
    (he : ∀ seen timed, e ≠ .connect seen timed) :
    StaysStopped s ((socketMachine cfg).next s e) := by
  have hno : s.disconnected ≠ false := by
    rw [hdisconnected]
    exact Bool.noConfusion
  cases e with
  | connect seen timed => exact absurd rfl (he seen timed)
  | disconnect =>
    have hrest := sameRest_cleanup
      { s with shouldReconnect := false, pendingConnect := none, disconnected := true }
    exact ⟨steady_cleanup _, hrest.shouldReconnect, hrest.ws⟩
  | connectTimeout => exact staysStopped_connectTimeout hreconnect hws
  | tokenDone a ok => exact staysStopped_tokenDone hreconnect hws hno hok
  | importDone a ok => exact staysStopped_importDone hreconnect hws hno hok
  | liveDone a ok => exact staysStopped_liveDone hreconnect hws hno hok
  | opened i now => exact staysStopped_opened hreconnect hws hs hno hok
  | remoteClosing i => exact staysStopped_modify hreconnect hws dies_close i
  | closed i now => exact staysStopped_closed hreconnect hws hs cfg i now
  | voiceChanged =>
    show StaysStopped s (s.voiceChanged cfg)
    unfold SocketHook.voiceChanged
    rw [hws]
    exact staysStopped_refl hreconnect hws
  | timerFired timer => exact staysStopped_timerFired hreconnect hws hno hok

end Stopped

end SocketHook

/-! ## Runs -/

/-- At most one transport is open or opening. -/
def OneTransport (s : SocketHook) : Prop := ∀ i j, s.Live i → s.Live j → i = j

/-- A step between `disconnect` and the next `connect` opens no transport. -/
def StaysClosed (cfg : SocketOptions) (t : EventMachine.Entry SocketHook SocketEvent Unit) : Prop :=
  t.pre.disconnected = true → (∀ seen timed, t.event ≠ .connect seen timed) →
    t.pre.Steady ((socketMachine cfg).next t.pre t.event)

/-- What the hook keeps: its refs hold what is live, and it stays stopped after `disconnect`. -/
def SocketInvariant (s : SocketHook) : Prop := s.Held ∧ s.Stopped

theorem socketInvariant_start : SocketInvariant {} := by
  refine ⟨⟨fun _ _ => rfl, fun _ _ => rfl, ?_, ?_, ?_, ?_, ?_, ?_⟩, ⟨?_, ?_⟩⟩
  · rintro i j ⟨t, ht, -⟩
    cases ht
  · rintro a b ⟨attempt, ha, -⟩
    cases ha
  · rintro a i ⟨attempt, ha, -⟩
    cases ha
  · intro i t ht
    cases ht
  · intro i t ht
    cases ht
  · intro a ha
    cases ha
  · intro h
    cases h
  · intro h
    cases h

theorem socketInvariant_next {cfg : SocketOptions} {s : SocketHook} {e : SocketEvent}
    (hs : SocketInvariant s) (hok : InOrder cfg s e) :
    SocketInvariant ((socketMachine cfg).next s e) := by
  obtain ⟨hheld, hstopped⟩ := hs
  refine ⟨held_next hheld hok, ?_⟩
  cases hd : s.disconnected with
  | true =>
    by_cases he : ∃ seen timed, e = .connect seen timed
    · obtain ⟨seen, timed, rfl⟩ := he
      have hconnected : ((socketMachine cfg).next s (.connect seen timed)).disconnected = false :=
        SocketHook.connect_disconnected cfg seen timed
      rw [← Bool.not_eq_true] at hconnected
      exact ⟨fun h => absurd h hconnected, fun h => absurd h hconnected⟩
    · have hstays := hheld.staysStopped (hstopped.shouldReconnect hd) (hstopped.ws hd) hd hok
        fun seen timed h => he ⟨seen, timed, h⟩
      exact ⟨fun _ => hstays.shouldReconnect, fun _ => hstays.ws⟩
  | false =>
    by_cases he : e = .disconnect
    · subst he
      have hrest := SocketHook.sameRest_cleanup
        { s with shouldReconnect := false, pendingConnect := none, disconnected := true }
      exact ⟨fun _ => hrest.shouldReconnect, fun _ => hrest.ws⟩
    · have hconnected : ((socketMachine cfg).next s e).disconnected = false :=
        SocketHook.connected_next hd he
      rw [← Bool.not_eq_true] at hconnected
      exact ⟨fun h => absurd h hconnected, fun h => absurd h hconnected⟩

/-- **One transport**: while everything happens in an order in which the guards see what is under
    way, at most one transport is open or opening, and none is opened between `disconnect` and the
    next `connect`. -/
theorem oneTransport_of_inOrder (cfg : SocketOptions) (es : List SocketEvent)
    (h : ∀ t ∈ (socketMachine cfg).trace {} es, InOrder cfg t.pre t.event) :
    (socketMachine cfg).Always OneTransport {} es ∧
      ∀ t ∈ (socketMachine cfg).trace {} es, StaysClosed cfg t := by
  have hinvariant : (socketMachine cfg).Always SocketInvariant {} es :=
    (socketMachine cfg).always_of_guarded (fun s e hs hok => socketInvariant_next hs hok)
      socketInvariant_start h
  refine ⟨hinvariant.imp _ fun s hs => hs.1.oneLive, fun t ht hd he => ?_⟩
  obtain ⟨hheld, hstopped⟩ := hinvariant.pre _ ht
  exact (hheld.staysStopped (hstopped.shouldReconnect hd) (hstopped.ws hd) hd (h t ht) he).steady

/-- A connection to the backend, and its end. -/
def socketSession : List SocketEvent :=
  [.connect false true, .tokenDone 0 true, .opened 0 1000, .disconnect]

theorem socketSession_oneTransport : (socketMachine {}).Always OneTransport {} socketSession ∧
    ∀ t ∈ (socketMachine {}).trace {} socketSession, StaysClosed {} t := by
  refine oneTransport_of_inOrder {} socketSession ?_
  simp only [socketSession, EventMachine.trace_cons, EventMachine.trace_nil, List.forall_mem_cons,
    EventMachine.entry_pre, EventMachine.entry_event]
  refine ⟨fun _ _ _ _ => ⟨?_, ?_⟩, fun h => (nomatch h), fun t ht hmode => ?_, trivial, fun t ht =>
    nomatch ht⟩
  · rintro a ⟨attempt, ha, -⟩
    cases ha
  · intro a i ha
    cases ha
  · cases ht
    cases hmode

/-- While an attempt waits for its token, `disconnect` and a second `connect`. -/
def reconnectedEarly : List SocketEvent :=
  [.connect false true, .disconnect, .connect false true, .tokenDone 0 true, .tokenDone 1 true]

/-- After `disconnect` the token request of a direct attempt fails. -/
def fellBackLate : List SocketEvent :=
  [.connect false true, .disconnect, .tokenDone 0 false]

/-- Both attempts open a socket; and the attempt that was cancelled falls back to the backend. -/
theorem cancelledAttempts_open :
    (¬ ∀ (cfg : SocketOptions) (es : List SocketEvent), (socketMachine cfg).Always OneTransport
      {} es) ∧ ¬ ∀ (cfg : SocketOptions) (es : List SocketEvent),
        ∀ t ∈ (socketMachine cfg).trace {} es, StaysClosed cfg t := by
  constructor
  · intro h
    have hone := (h {} reconnectedEarly).run
    have hfirst : ((socketMachine {}).run {} reconnectedEarly).isLive 0 = true := by decide +kernel
    have hsecond : ((socketMachine {}).run {} reconnectedEarly).isLive 1 = true := by decide +kernel
    exact absurd (hone 0 1 (SocketHook.isLive_iff.1 hfirst) (SocketHook.isLive_iff.1 hsecond))
      (by decide)
  · intro h
    let cfg : SocketOptions := { transportMode := .directLive }
    have hsteady := h cfg (fellBackLate ++ [.tokenDone 1 true])
      ((socketMachine cfg).entry ((socketMachine cfg).run {} fellBackLate) (.tokenDone 1 true))
      (by
        rw [EventMachine.trace_concat]
        exact List.mem_append_right _ (List.mem_singleton_self _))
      (by decide +kernel) (fun _ _ => SocketEvent.noConfusion)
    obtain ⟨t, ht, -⟩ := hsteady 0 { mode := .backendProxy } (by rfl) rfl
    have hnone : ((socketMachine cfg).run {} fellBackLate).transports 0 = none := rfl
    exact nomatch hnone.symm.trans ht

end Ekaette
