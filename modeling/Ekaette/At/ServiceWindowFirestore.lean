import Ekaette.At.ServiceWindow
import Ekaette.Lib.ClockedPool

set_option autoImplicit false

/-! # Service windows in Firestore

A check deletes the document of a window when it read it as expired. In between, a message may have
refreshed the document, and the delete takes the new window away. Calls run side by side, each
operation on Firestore a step of its own; no operation fails. -/

namespace Ekaette

/-- A document of the window collection. -/
structure WindowDoc where
  key : String
  updatedAt : ℚ
  expiresAt : ℚ

abbrev WindowDocs := Dict String WindowDoc

inductive WindowOp where
  | get (id : String)
  /-- `set` with `merge=True`, of all fields -/
  | set (id : String) (doc : WindowDoc)
  | delete (id : String)
  /-- the query of `_prune_firestore_collection` -/
  | oldest

@[reducible] def WindowOp.Answer : WindowOp → Type
  | .get _ => Option WindowDoc
  | .oldest => List String
  | _ => Unit

/-- `order_by("updated_at").limit(max_entries + 1)`: the ids that are too many. -/
def overflowWindows (docs : WindowDocs) : List String :=
  let first := (docs.entries.mergeSort fun a b => decide (a.2.updatedAt ≤ b.2.updatedAt)).take
    (SERVICE_WINDOW_MAX_ENTRIES + 1)
  (first.take (first.length - SERVICE_WINDOW_MAX_ENTRIES)).map Prod.fst

def serveWindow (docs : WindowDocs) (_ : Unit) : (c : WindowOp) → WindowDocs × Option c.Answer
  | .get id => (docs, some (docs.get? id))
  | .set id doc => (docs.set id doc, some ())
  | .delete id => (docs.erase id, some ())
  | .oldest => (docs, some (overflowWindows docs))

/-- What a call returns, with the id of its document. -/
inductive WindowResult where
  | recorded (id : String)
  | inWindow (id : String) (isOpen : Bool)

abbrev WindowProgram := CallProgram (ClockedCall WindowOp) (ClockedCall.Answer ℚ WindowOp.Answer)

abbrev askWindow (c : WindowOp) : WindowProgram c.Answer := Clocked.ask c

/-- The deletes of `_prune_firestore_collection`. -/
def deleteWindows : List String → WindowProgram Unit
  | [] => pure ()
  | id :: ids => do
      let _ ← askWindow (.delete id)
      deleteWindows ids

/-- `check_service_window` in Firestore mode, for a document. -/
def checkServiceWindowFirestore (id : String) : WindowProgram WindowResult := do
  let now ← Clocked.readClock
  let snapshot ← askWindow (.get id)
  match snapshot with
  | none => pure (.inWindow id false)
  | some data =>
    if data.expiresAt ≤ now then
      let _ ← askWindow (.delete id)
      pure (.inWindow id false)
    else pure (.inWindow id true)

/-- `record_inbound_timestamp` in Firestore mode. -/
@[irreducible] def recordInboundTimestampFirestore (id key : String) : WindowProgram WindowResult :=
  do
  let now ← Clocked.readClock
  askWindow (.set id ⟨key, now, now + SERVICE_WINDOW_SECONDS⟩)
  let overflow ← askWindow .oldest
  deleteWindows overflow
  pure (.recorded id)

/-- A message comes in, or a window is checked. -/
inductive WindowTask where
  | record (key : String)
  | check (key : String)

structure WindowStore where
  /-- `hashlib.sha256(key.encode()).hexdigest()` -/
  sha256Hex : String → String

variable (cfg : WindowStore)

def WindowTask.program : WindowTask → WindowProgram WindowResult
  | .record key => recordInboundTimestampFirestore (cfg.sha256Hex key) key
  | .check key => checkServiceWindowFirestore (cfg.sha256Hex key)

abbrev WindowPool := Clocked.Programs ℚ WindowDocs WindowOp WindowOp.Answer WindowResult

abbrev WindowCallEvent := PoolEvent WindowTask (Moment ℚ Unit)

abbrev WindowThread :=
  Thread (ClockedCall WindowOp) (ClockedCall.Answer ℚ WindowOp.Answer) WindowResult

abbrev WindowLog := List (Called (ClockedCall WindowOp) (ClockedCall.Answer ℚ WindowOp.Answer))

def windowCalls : EventMachine WindowPool WindowCallEvent Unit :=
  Pool.machine (Clocked.serve serveWindow) (WindowTask.program cfg)

/-! ## What each step must not do -/

/-- What is deleted has expired for the call that deletes it, and for every check that is going to
    read it. -/
def DeletesExpired (s : WindowPool) (e : WindowCallEvent) : Prop :=
  ∀ i m log id k doc, e = .resume i m → s.threads[i]? = some ⟨log, .call (.op (.delete id)) k⟩ →
    s.shared.store.get? id = some doc →
      (∀ r, Clocked.reading log = some r → doc.expiresAt ≤ r) ∧
        ∀ (j : ℕ) (log' : WindowLog) (k' : _ → WindowProgram WindowResult) (r : ℚ),
          s.threads[j]? = some ⟨log', .call (.op (.get id)) k'⟩ → Clocked.reading log' = some r →
          doc.expiresAt ≤ r

/-- A record does not write an older time over a newer one. -/
def SetsLater (s : WindowPool) (e : WindowCallEvent) : Prop :=
  ∀ i m log id doc k old, e = .resume i m →
    s.threads[i]? = some ⟨log, .call (.op (.set id doc)) k⟩ →
    s.shared.store.get? id = some old → old.expiresAt ≤ doc.expiresAt

/-! ## Windows last -/

/-- A window of the document lasts up to this time, or the time has come. -/
def Lasts (s : WindowPool) (id : String) (expiry : ℚ) : Prop :=
  (∃ doc, s.shared.store.get? id = some doc ∧ expiry ≤ doc.expiresAt) ∨ expiry ≤ s.shared.clock

/-- A delete comes after the call read the clock. -/
def DeletesAfterReading (log : WindowLog) : ClockedCall WindowOp → Prop
  | .op (.delete _) => ∃ r, Clocked.reading log = some r
  | _ => True

/-- A record has set its document. -/
def RecordedSet (log : WindowLog) : WindowResult → Prop
  | .recorded id => ∃ r key, Clocked.reading log = some r ∧
      ⟨.op (.set id ⟨key, r, r + SERVICE_WINDOW_SECONDS⟩), some ()⟩ ∈ log
  | .inWindow _ _ => True

theorem obeys_deleteWindows (ids : List String) {log : WindowLog} (result : WindowResult)
    (hread : ∃ r, Clocked.reading log = some r) (hset : RecordedSet log result) :
    (deleteWindows ids).Obeys DeletesAfterReading (fun log _ => RecordedSet log result) log := by
  induction ids generalizing log with
  | nil => exact hset
  | cons id ids ih =>
    rw [deleteWindows, Clocked.obeys_ask]
    refine ⟨hread, fun answer => ih ?_ ?_⟩
    · rw [Clocked.reading_concat]
      exact hread
    · cases result with
      | inWindow id isOpen => trivial
      | recorded id =>
        obtain ⟨r, key, hr, hmem⟩ := hset
        refine ⟨r, key, ?_, List.mem_append_left _ hmem⟩
        rw [Clocked.reading_concat]
        exact hr

theorem obeys_record (id key : String) :
    (recordInboundTimestampFirestore id key).Obeys DeletesAfterReading RecordedSet [] := by
  unfold recordInboundTimestampFirestore
  rw [Clocked.obeys_readClock]
  refine ⟨trivial, fun now => ?_⟩
  rw [Clocked.obeys_ask]
  refine ⟨trivial, fun _ => ?_⟩
  rw [Clocked.obeys_ask]
  refine ⟨trivial, fun overflow => ?_⟩
  refine (obeys_deleteWindows overflow (.recorded id) ⟨now, rfl⟩ ⟨now, key, rfl, ?_⟩).bind
    fun log _ h => h
  simp

theorem obeys_check (id : String) :
    (checkServiceWindowFirestore id).Obeys DeletesAfterReading RecordedSet [] := by
  unfold checkServiceWindowFirestore
  rw [Clocked.obeys_readClock]
  refine ⟨trivial, fun now => ?_⟩
  rw [Clocked.obeys_ask]
  refine ⟨trivial, fun snapshot => ?_⟩
  cases snapshot with
  | none => exact trivial
  | some data =>
    rw [CallProgram.obeys_ite]
    refine ⟨fun _ => ?_, fun _ => trivial⟩
    rw [Clocked.obeys_ask]
    exact ⟨⟨now, rfl⟩, fun _ => trivial⟩

section Step

variable {s s' : WindowPool} {i : ℕ} {m : Moment ℚ Unit}

/-- **One operation** keeps every window that lasts. -/
theorem lasts_step (hobeyed : Pool.Obeyed DeletesAfterReading RecordedSet s)
    (hpast : Clocked.ReadingsPast s) (h : Pool.Calls (Clocked.serve serveWindow) s i m s')
    (hforward : s.shared.clock ≤ m.now) (hdeletes : DeletesExpired s (.resume i m))
    (hsets : SetsLater s (.resume i m)) {id : String} {expiry : ℚ}
    (hlasts : Lasts s id expiry) : Lasts s' id expiry := by
  have hclock := Clocked.clock_self h
  rcases hlasts with ⟨doc, hdoc, hexpiry⟩ | hcome
  · obtain ⟨log, call, k, hfound, hshared, -, -⟩ := h
    have hallowed : DeletesAfterReading log call := (hobeyed i _ hfound).1
    cases call with
    | now => exact .inl ⟨doc, by rw [hshared]; exact hdoc, hexpiry⟩
    | op c =>
      cases c with
      | get id' => exact .inl ⟨doc, by rw [hshared]; exact hdoc, hexpiry⟩
      | oldest => exact .inl ⟨doc, by rw [hshared]; exact hdoc, hexpiry⟩
      | set id' doc' =>
        by_cases hid : id = id'
        · subst hid
          have hlater := hsets i m log id doc' k doc rfl hfound hdoc
          refine .inl ⟨doc', ?_, hexpiry.trans hlater⟩
          rw [hshared]
          exact Dict.get?_set_self _ _ _
        · refine .inl ⟨doc, ?_, hexpiry⟩
          rw [hshared]
          exact (Dict.get?_set_of_ne _ _ hid).trans hdoc
      | delete id' =>
        by_cases hid : id = id'
        · subst hid
          obtain ⟨r, hr⟩ := hallowed
          have hexpired := (hdeletes i m log id k doc rfl hfound hdoc).1 r hr
          refine .inr ?_
          rw [hclock]
          exact (hexpiry.trans hexpired).trans ((hpast i _ hfound r hr).trans hforward)
        · refine .inl ⟨doc, ?_, hexpiry⟩
          rw [hshared]
          exact (Dict.get?_erase _ _ _).trans (by rw [if_neg hid]; exact hdoc)
  · exact .inr (hcome.trans (hforward.trans hclock.ge))

theorem Lasts.stored {id : String} {expiry : ℚ} (h : Lasts s id expiry)
    (hclock : s.shared.clock < expiry) : ∃ doc, s.shared.store.get? id = some doc ∧
    expiry ≤ doc.expiresAt := by
  rcases h with hstored | hcome
  · exact hstored
  · exact absurd hcome (not_le_of_gt hclock)

/-- Every window that a call has set lasts. -/
def SetsLast (s : WindowPool) : Prop :=
  ∀ (i : ℕ) (t : WindowThread), s.threads[i]? = some t →
    ∀ id doc, ⟨.op (.set id doc), some ()⟩ ∈ t.log → Lasts s id doc.expiresAt

theorem setsLast_step (hs : SetsLast s) (h : Pool.Calls (Clocked.serve serveWindow) s i m s')
    (hlasts : ∀ id expiry, Lasts s id expiry → Lasts s' id expiry) : SetsLast s' := by
  intro j t hj id doc hmem
  rcases h.thread_cases hj with ⟨-, rfl⟩ | ⟨-, hold⟩
  · rcases List.mem_append.1 hmem with hbefore | hlast
    · exact hlasts id _ (hs i _ h.found id doc hbefore)
    · -- the call itself set the window
      rw [List.mem_singleton] at hlast
      have hcall : h.call = .op (.set id doc) := (congrArg Sigma.fst hlast).symm
      refine .inl ⟨doc, ?_, le_rfl⟩
      rw [h.shared, hcall]
      exact Dict.get?_set_self _ _ _
  · exact hlasts id _ (hs j t hold id doc hmem)

/-! ## Checks -/

/-- What the check does with the document that it read. -/
def answerCheck (id : String) (now : ℚ) (snapshot : Option WindowDoc) :
    WindowProgram WindowResult :=
  match snapshot with
  | none => pure (.inWindow id false)
  | some data =>
    if data.expiresAt ≤ now then
      askWindow (.delete id) >>= fun _ => pure (.inWindow id false)
    else pure (.inWindow id true)

theorem checkServiceWindowFirestore_eq (id : String) :
    checkServiceWindowFirestore id = Clocked.readClock >>= fun now =>
    askWindow (.get id) >>= answerCheck id now := by
  unfold checkServiceWindowFirestore
  refine congrArg _ (funext fun now => congrArg _ (funext fun snapshot => ?_))
  cases snapshot with
  | none => rfl
  | some data => rfl

theorem answerCheck_open {id : String} {now : ℚ} {doc : WindowDoc} (h : now < doc.expiresAt) :
    answerCheck id now (some doc) = .returned (.inWindow id true) := by
  show (if doc.expiresAt ≤ now then _ else _) = _
  rw [if_neg (not_le_of_gt h)]
  rfl

/-- How far a check of a window that lasts up to `expiry` has come. -/
inductive CheckStage (s : WindowPool) (id : String) (expiry : ℚ) (t : WindowThread) : Prop where
  | started (hlog : t.log = []) (hprogram : t.program = checkServiceWindowFirestore id)
  | read (now : ℚ) (hlog : t.log = [⟨.now, some now⟩])
    (hprogram : t.program = (askWindow (.get id) >>= answerCheck id now))
      (hearly : now < expiry) (hstored : ∃ doc, s.shared.store.get? id = some doc ∧
        expiry ≤ doc.expiresAt)
  | answered (hprogram : t.program = .returned (.inWindow id true))
  | late (now : ℚ) (hread : Clocked.reading t.log = some now) (hlate : expiry ≤ now)

theorem checkStage_self (hpast : Clocked.ReadingsPast s)
    (h : Pool.Calls (Clocked.serve serveWindow) s i m s')
    (hforward : s.shared.clock ≤ m.now) {id : String} {expiry : ℚ} (hlasts : Lasts s' id expiry)
    (hstage : CheckStage s id expiry ⟨h.log, .call h.call h.next⟩) :
    CheckStage s' id expiry h.after := by
  have hclock := Clocked.clock_self h
  obtain ⟨log, call, k, hfound, hshared, hthreads, hhistory⟩ := h
  cases hstage with
  | started hlog hprogram =>
    rw [checkServiceWindowFirestore_eq] at hprogram
    cases hlog
    cases hprogram
    by_cases hearly : m.now < expiry
    · exact .read m.now rfl rfl hearly (hlasts.stored (hclock.trans_lt hearly))
    · exact .late m.now rfl (le_of_not_gt hearly)
  | read now hlog hprogram hearly hstored =>
    cases hlog
    cases hprogram
    obtain ⟨doc, hdoc, hexpiry⟩ := hstored
    refine .answered ?_
    show answerCheck id now (s.shared.store.get? id) = _
    rw [hdoc]
    exact answerCheck_open (hearly.trans_le hexpiry)
  | answered hprogram => cases hprogram
  | late now hread hlate =>
    -- what is read from now on is not earlier
    have hlater : ∃ r,
      Clocked.reading (log ++ [⟨call, (Clocked.serve serveWindow s.shared m call).2⟩]) = some r ∧
        expiry ≤ r := by
      rw [Clocked.reading_concat]
      cases call with
      | now => exact ⟨m.now, rfl, hlate.trans ((hpast i _ hfound now hread).trans hforward)⟩
      | op c => exact ⟨now, hread, hlate⟩
    obtain ⟨r, hr, hexpiry⟩ := hlater
    exact .late r hr hexpiry

/-- A step of another call. -/
theorem checkStage_other (h : Pool.Calls (Clocked.serve serveWindow) s i m s')
    (hdeletes : DeletesExpired s (.resume i m)) (hsets : SetsLater s (.resume i m)) {j : ℕ}
    {t : WindowThread} (hj : s.threads[j]? = some t) {id : String} {expiry : ℚ}
    (hstage : CheckStage s id expiry t) : CheckStage s' id expiry t := by
  obtain ⟨log, call, k, hfound, hshared, -, -⟩ := h
  cases hstage with
  | started hlog hprogram => exact .started hlog hprogram
  | answered hprogram => exact .answered hprogram
  | late now hread hlate => exact .late now hread hlate
  | read now hlog hprogram hearly hstored =>
    refine .read now hlog hprogram hearly ?_
    obtain ⟨doc, hdoc, hexpiry⟩ := hstored
    rw [hshared]
    cases call with
    | now => exact ⟨doc, hdoc, hexpiry⟩
    | op c =>
      cases c with
      | get id' => exact ⟨doc, hdoc, hexpiry⟩
      | oldest => exact ⟨doc, hdoc, hexpiry⟩
      | set id' doc' =>
        by_cases hid : id = id'
        · subst hid
          exact ⟨doc', Dict.get?_set_self _ _ _,
            hexpiry.trans (hsets i m log id doc' k doc rfl hfound hdoc)⟩
        · exact ⟨doc, (Dict.get?_set_of_ne _ _ hid).trans hdoc, hexpiry⟩
      | delete id' =>
        by_cases hid : id = id'
        · subst hid
          obtain ⟨log', program⟩ := t
          cases hlog
          cases hprogram
          have hexpired := (hdeletes i m log id k doc rfl hfound hdoc).2 j _ _ now hj rfl
          exact absurd (hearly.trans_le (hexpiry.trans hexpired)) (lt_irrefl now)
        · exact ⟨doc, (Dict.get?_erase _ _ _).trans (by rw [if_neg hid]; exact hdoc), hexpiry⟩

end Step

/-! ## Runs -/

/-- The clock does not go back, and the two conditions. -/
def KeepsWindows (s : WindowPool) (e : WindowCallEvent) : Prop :=
  Clocked.forward s e = true ∧ DeletesExpired s e ∧ SetsLater s e

/-- The invariant: calls obey, readings are past, and the windows that were set last. -/
structure WindowsSound (s : WindowPool) : Prop where
  obeyed : Pool.Obeyed DeletesAfterReading RecordedSet s
  past : Clocked.ReadingsPast s
  sets : SetsLast s

/-- Documents from before, and no calls yet. -/
def noWindowCalls (clock : ℚ) (docs : WindowDocs) : WindowPool := { shared := ⟨clock, docs⟩ }

theorem windowsSound_noWindowCalls (clock : ℚ) (docs : WindowDocs) :
    WindowsSound (noWindowCalls clock docs) := by
  refine ⟨fun i t ht => ?_, fun i t ht => ?_, fun i t ht => ?_⟩
  · cases ht
  · cases ht
  · cases ht

/-- **Step lemma.** -/
theorem windowsSound_next {s : WindowPool} (hs : WindowsSound s) (e : WindowCallEvent)
    (he : KeepsWindows s e) : WindowsSound ((windowCalls cfg).next s e) := by
  obtain ⟨hforward, hdeletes, hsets⟩ := he
  refine ⟨Pool.obeyed_next hs.obeyed e fun task _ => ?_,
    Clocked.readingsPast_next hs.past e hforward, ?_⟩
  · cases task with
    | record key => exact obeys_record _ key
    | check key => exact obeys_check _
  · cases e with
    | start task =>
      intro j t hj id doc hmem
      rcases Pool.start_cases hj with hold | rfl
      · exact hs.sets j t hold id doc hmem
      · cases hmem
    | resume i m =>
      show SetsLast (s.resume (Clocked.serve serveWindow) i m)
      rcases Pool.resume_cases (Clocked.serve serveWindow) s i m with hsame | ⟨⟨h⟩⟩
      · rw [hsame]
        exact hs.sets
      · exact setsLast_step hs.sets h fun id expiry =>
          lasts_step hs.obeyed hs.past h (of_decide_eq_true hforward) hdeletes hsets

/-- A check is under way, and the window lasts. -/
structure Checked (id : String) (expiry : ℚ) (j : ℕ) (s : WindowPool) : Prop where
  sound : WindowsSound s
  lasts : Lasts s id expiry
  stage : ∃ t, s.threads[j]? = some t ∧ CheckStage s id expiry t

/-- **Step lemma.** -/
theorem checked_next {id : String} {expiry : ℚ} {j : ℕ} {s : WindowPool}
    (hs : Checked id expiry j s) (e : WindowCallEvent) (he : KeepsWindows s e) :
    Checked id expiry j ((windowCalls cfg).next s e) := by
  have hsound := windowsSound_next cfg hs.sound e he
  obtain ⟨hforward, hdeletes, hsets⟩ := he
  obtain ⟨t, ht, hstage⟩ := hs.stage
  cases e with
  | start task =>
    refine ⟨hsound, hs.lasts, t, ?_, ?_⟩
    · show (s.threads ++ _)[j]? = some t
      rw [List.getElem?_append_left (List.getElem?_eq_some_iff.1 ht).1]
      exact ht
    · cases hstage with
      | started hlog hprogram => exact .started hlog hprogram
      | read now hlog hprogram hearly hstored => exact .read now hlog hprogram hearly hstored
      | answered hprogram => exact .answered hprogram
      | late now hread hlate => exact .late now hread hlate
  | resume i m =>
    have hnext : (windowCalls cfg).next s (.resume i m) = s.resume (Clocked.serve serveWindow) i
      m := rfl
    rw [hnext] at hsound ⊢
    rcases Pool.resume_cases (Clocked.serve serveWindow) s i m with hsame | ⟨⟨h⟩⟩
    · rw [hsame]
      exact hs
    · have hlasts := lasts_step hs.sound.obeyed hs.sound.past h (of_decide_eq_true hforward)
        hdeletes hsets hs.lasts
      refine ⟨hsound, hlasts, ?_⟩
      by_cases hji : j = i
      · subst hji
        have hself : t = ⟨h.log, .call h.call h.next⟩ := Option.some.inj (ht.symm.trans h.found)
        subst hself
        exact ⟨h.after, h.thread_self, checkStage_self hs.sound.past h (of_decide_eq_true hforward)
          hlasts hstage⟩
      · exact ⟨t, (h.thread_other hji).trans ht, checkStage_other h hdeletes hsets ht hstage⟩

/-- **A window is not lost.** While what is deleted has expired for the calls that deal with it, and
    records do not write an older time over a newer one, a check that starts after a record
    completed, and reads the clock less than 24 hours after it, finds the window open. -/
theorem serviceWindow_kept (clock : ℚ) (docs : WindowDocs) (key : String)
    (before after : List WindowCallEvent) (hkeeps : ∀ t ∈ (windowCalls cfg).trace
      (noWindowCalls clock docs) (before ++ .start (.check key) :: after),
      KeepsWindows t.pre t.event)
    (i : ℕ) (recorded : WindowLog) (recordedAt : ℚ)
    (hrecord : ((windowCalls cfg).run (noWindowCalls clock docs) before).threads[i]? =
      some ⟨recorded, .returned (.recorded (cfg.sha256Hex key))⟩)
    (hrecordedAt : Clocked.reading recorded = some recordedAt)
    (checked : WindowLog) (id : String) (isOpen : Bool) (checkedAt : ℚ)
    (hcheck : ((windowCalls cfg).run (noWindowCalls clock docs)
      (before ++ .start (.check key) :: after)).threads[
      ((windowCalls cfg).run (noWindowCalls clock docs) before).threads.length]? =
      some ⟨checked, .returned (.inWindow id isOpen)⟩)
    (hcheckedAt : Clocked.reading checked = some checkedAt)
    (hearly : checkedAt < recordedAt + SERVICE_WINDOW_SECONDS) : isOpen = true := by
  rw [EventMachine.trace_append] at hkeeps
  rw [EventMachine.run_append] at hcheck
  have hsound : WindowsSound ((windowCalls cfg).run (noWindowCalls clock docs) before) :=
    ((windowCalls cfg).always_of_guarded (G := KeepsWindows)
      (fun s e hs he => windowsSound_next cfg hs e he)
      (windowsSound_noWindowCalls clock docs) fun t ht => hkeeps t (List.mem_append_left _ ht)).run
  generalize hs : (windowCalls cfg).run (noWindowCalls clock docs) before = s at *
  -- the record's own document lasts for 24 hours
  obtain ⟨r, k, hr, hmem⟩ := hsound.obeyed i _ hrecord
  rw [hrecordedAt, Option.some.injEq] at hr
  subst hr
  have hlasts : Lasts s (cfg.sha256Hex key) (recordedAt + SERVICE_WINDOW_SECONDS) :=
    hsound.sets i _ hrecord _ _ hmem
  have hkeeps' := fun t ht => hkeeps t (List.mem_append_right _ ht)
  rw [EventMachine.trace_cons, List.forall_mem_cons] at hkeeps'
  have hstart : Checked (cfg.sha256Hex key) (recordedAt + SERVICE_WINDOW_SECONDS) s.threads.length
      ((windowCalls cfg).next s (.start (.check key))) :=
    ⟨windowsSound_next cfg hsound _ hkeeps'.1, hlasts, _, List.getElem?_concat_length,
      .started rfl rfl⟩
  have hend := ((windowCalls cfg).always_of_guarded (G := KeepsWindows)
    (fun s e hs he => checked_next cfg hs e he) hstart hkeeps'.2).run
  obtain ⟨t, ht, hstage⟩ := hend.stage
  rw [EventMachine.run_cons] at hcheck
  rw [hcheck, Option.some.injEq] at ht
  subst ht
  cases hstage with
  | started hlog _ =>
    cases hlog
    cases hcheckedAt
  | read now _ hprogram _ _ => cases hprogram
  | answered hprogram =>
    cases hprogram
    rfl
  | late now hread hlate =>
    rw [hcheckedAt, Option.some.injEq] at hread
    subst hread
    exact absurd (hearly.trans_le hlate) (lt_irrefl _)

/-- No more documents than the cap: none is too many. -/
theorem overflowWindows_below {docs : WindowDocs} (h : docs.size ≤ SERVICE_WINDOW_MAX_ENTRIES) :
    overflowWindows docs = [] := by
  have hlength : ((docs.entries.mergeSort fun a b => decide (a.2.updatedAt ≤ b.2.updatedAt)).take
      (SERVICE_WINDOW_MAX_ENTRIES + 1)).length ≤ SERVICE_WINDOW_MAX_ENTRIES := by
    rw [List.length_take, List.length_mergeSort]
    exact (Nat.min_le_right _ _).trans h
  rw [overflowWindows]
  simp only [Nat.sub_eq_zero_of_le hlength, List.take_zero, List.map_nil]

/-- The step deletes nothing, and sets a document that is not there. -/
def addsOnly (s : WindowPool) : WindowCallEvent → Bool
  | .start _ => true
  | .resume i _ =>
    match s.threads[i]? with
    | some ⟨_, .call (.op (.delete _)) _⟩ => false
    | some ⟨_, .call (.op (.set id _)) _⟩ => !(s.shared.store.contains id)
    | _ => true

theorem keepsWindows_of_addsOnly {s : WindowPool} {e : WindowCallEvent}
    (hforward : Clocked.forward s e = true) (hadds : addsOnly s e = true) : KeepsWindows s e := by
  refine ⟨hforward, ?_, ?_⟩
  · rintro i m log id k doc rfl hfound -
    rw [addsOnly, hfound] at hadds
    cases hadds
  · rintro i m log id doc k old rfl hfound hold
    rw [addsOnly, hfound] at hadds
    simp only [Dict.contains, hold, Option.isSome_some, Bool.not_true, Bool.false_eq_true] at hadds

/-- Documents under the keys themselves. -/
def windowsByKey : WindowStore := ⟨id⟩

/-- The `i`-th call takes a step at the time `now`. -/
def windowStep (i : ℕ) (now : ℚ) : WindowCallEvent := .resume i ⟨now, ()⟩

/-- A message is recorded. -/
def windowRecorded : List WindowCallEvent :=
  [.start (.record "+234"), windowStep 0 0, windowStep 0 0, windowStep 0 0]

def recordedWindow : WindowDocs :=
  (Dict.empty : WindowDocs).set "+234" ⟨"+234", 0, 0 + SERVICE_WINDOW_SECONDS⟩

theorem recordedWindow_size : recordedWindow.size ≤ SERVICE_WINDOW_MAX_ENTRIES :=
  one_lt_serviceWindowMaxEntries.le

theorem windowRecorded_kept : ∃ isOpen,
    ((windowCalls windowsByKey).run (noWindowCalls 0 .empty)
      (windowRecorded ++ .start (.check "+234") :: [windowStep 1 10, windowStep 1 10])).threads[1]?
        =
      some ⟨[⟨.now, some (10 : ℚ)⟩, ⟨.op (.get "+234"), some (recordedWindow.get? "+234")⟩],
        .returned (.inWindow "+234" isOpen)⟩ ∧ isOpen = true := by
  refine ⟨true, by with_unfolding_all rfl, ?_⟩
  refine serviceWindow_kept windowsByKey 0 .empty "+234" windowRecorded [windowStep 1 10,
    windowStep 1 10] ?_ 0
    [⟨.now, some (0 : ℚ)⟩, ⟨.op (.set "+234" ⟨"+234", 0, 0 + SERVICE_WINDOW_SECONDS⟩), some ()⟩,
      ⟨.op .oldest, some (overflowWindows recordedWindow)⟩] 0 ?_ rfl
    [⟨.now, some (10 : ℚ)⟩, ⟨.op (.get "+234"), some (recordedWindow.get? "+234")⟩] "+234" true 10
    ?_ rfl ?_
  · have hsteps : ((windowCalls windowsByKey).trace (noWindowCalls 0 .empty)
        (windowRecorded ++ .start (.check "+234") :: [windowStep 1 10, windowStep 1 10])).all
        (fun t => Clocked.forward t.pre t.event && addsOnly t.pre t.event) = true := by
      with_unfolding_all rfl
    intro t ht
    have hstep := Bool.and_eq_true_iff.1 (List.all_eq_true.1 hsteps t ht)
    exact keepsWindows_of_addsOnly hstep.1 hstep.2
  · show _ = some (⟨_, deleteWindows [] >>= fun _ => pure (.recorded "+234")⟩ : WindowThread)
    rw [← overflowWindows_below recordedWindow_size]
    with_unfolding_all rfl
  · with_unfolding_all rfl
  · decide +kernel

/-- The window of the day before, and the new one. -/
def endedWindow : WindowDocs :=
  (Dict.empty : WindowDocs).set "+234" ⟨"+234", 0, SERVICE_WINDOW_SECONDS⟩

def renewedWindow : WindowDocs :=
  endedWindow.set "+234" ⟨"+234", 86400, 86400 + SERVICE_WINDOW_SECONDS⟩

theorem renewedWindow_size : renewedWindow.size ≤ SERVICE_WINDOW_MAX_ENTRIES :=
  one_lt_serviceWindowMaxEntries.le

/-- A check reads the ended window, a message renews it, and the check deletes it. -/
def renewedDuringCheck : List WindowCallEvent :=
  [.start (.record "+234"), .start (.check "+234"), windowStep 1 86400, windowStep 1 86400,
    windowStep 0 86400, windowStep 0 86400, windowStep 0 86400, windowStep 1 86401]

theorem renewedDuringCheck_lost :
    ¬ ∀ (cfg : WindowStore) (clock : ℚ) (docs : WindowDocs) (key : String)
    (before after : List WindowCallEvent),
      (∀ t ∈ (windowCalls cfg).trace (noWindowCalls clock docs)
        (before ++ .start (.check key) :: after),
        Clocked.forward t.pre t.event = true ∧ t.pre.shared.store.size < SERVICE_WINDOW_MAX_ENTRIES)
          →
      ∀ (i : ℕ) (recorded : WindowLog) (recordedAt : ℚ),
      ((windowCalls cfg).run (noWindowCalls clock docs) before).threads[i]? =
        some ⟨recorded, .returned (.recorded (cfg.sha256Hex key))⟩ →
      Clocked.reading recorded = some recordedAt →
      ∀ (checked : WindowLog) (id : String) (isOpen : Bool) (checkedAt : ℚ),
      ((windowCalls cfg).run (noWindowCalls clock docs)
        (before ++ .start (.check key) :: after)).threads[
        ((windowCalls cfg).run (noWindowCalls clock docs) before).threads.length]? =
        some ⟨checked, .returned (.inWindow id isOpen)⟩ →
      Clocked.reading checked = some checkedAt →
      checkedAt < recordedAt + SERVICE_WINDOW_SECONDS → isOpen = true := by
  intro h
  have hlost := h windowsByKey 86400 endedWindow "+234" renewedDuringCheck [windowStep 2 86402,
    windowStep 2 86402]
    ?_ 0 [⟨.now, some (86400 : ℚ)⟩,
      ⟨.op (.set "+234" ⟨"+234", 86400, 86400 + SERVICE_WINDOW_SECONDS⟩), some ()⟩,
      ⟨.op .oldest, some (overflowWindows renewedWindow)⟩] 86400 ?_ rfl
    [⟨.now, some (86402 : ℚ)⟩, ⟨.op (.get "+234"), some none⟩] "+234" false 86402 ?_ rfl ?_
  · cases hlost
  · have hsteps : ((windowCalls windowsByKey).trace (noWindowCalls 86400 endedWindow)
        (renewedDuringCheck ++ .start (.check "+234") :: [windowStep 2 86402,
          windowStep 2 86402])).all
        (fun t => Clocked.forward t.pre t.event && decide (t.pre.shared.store.size ≤ 1)) =
        true := by
      with_unfolding_all rfl
    intro t ht
    have hstep := Bool.and_eq_true_iff.1 (List.all_eq_true.1 hsteps t ht)
    exact ⟨hstep.1, (of_decide_eq_true hstep.2).trans_lt one_lt_serviceWindowMaxEntries⟩
  · show _ = some (⟨_, deleteWindows [] >>= fun _ => pure (.recorded "+234")⟩ : WindowThread)
    rw [← overflowWindows_below renewedWindow_size]
    with_unfolding_all rfl
  · with_unfolding_all rfl
  · decide +kernel

end Ekaette
