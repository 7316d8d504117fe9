import Ekaette.Firestore
import Ekaette.Lib.ProgramPool

set_option autoImplicit false

/-! # Connector writes

A request that creates, updates or deletes a connector takes the lock of the connector, reads the
company, and writes the one field of the connector; where that raises, it merges the whole company
as it read it into the stored one. An update of the company merges the connectors that it read as
well. Requests of one company run side by side. -/

namespace Ekaette

/-- What a request does to the connectors. -/
inductive ConnectorChange where
  | put (id : String) (connector : PyValue)
  | remove (id : String)
  | keep

/-- The connectors after the change. -/
def ConnectorChange.apply : ConnectorChange → Record → Record
  | .put id connector, connectors => connectors.set id connector
  | .remove id, connectors => connectors.erase id
  | .keep, connectors => connectors

/-- `dict(connectors) if isinstance(connectors, dict) else {}` -/
def connectorsOf (companyDoc : Record) : Record :=
  match companyDoc.get? "connectors" with
  | some (.dict entries) => Dict.ofList entries
  | _ => Dict.empty

/-- The company with these connectors. -/
def withConnectors (companyDoc connectors : Record) : Record :=
  companyDoc.set "connectors" (.dict connectors.entries)

/-- The stored company, and the locks that are held. -/
structure CompanyStore where
  doc : Record
  locks : List String

inductive ConnectorOp where
  /-- `_load_registry_company_doc` -/
  | load
  | acquire (id : String)
  | release (id : String)
  /-- `_doc_update` of the one field of a connector -/
  | updateField (change : ConnectorChange) (now : String)
  /-- `_save_registry_company_doc`, for a request with this change -/
  | save (change : ConnectorChange) (payload : Record)

@[reducible] def ConnectorOp.Answer : ConnectorOp → Type
  | .load => Record
  | .acquire _ => Bool
  | _ => Unit

/-- A read or a write that is not served raises without effect. -/
def serveCompany (store : CompanyStore) (served : Bool) :
    (c : ConnectorOp) → CompanyStore × Option c.Answer
  | .load => if served then (store, some store.doc) else (store, none)
  | .acquire id =>
    if store.locks.contains id || !served then (store, some false)
    else ({ store with locks := id :: store.locks }, some true)
  | .release id => ({ store with locks := store.locks.erase id }, some ())
  | .updateField change now =>
    if served then
      ({ store with
        doc := (withConnectors store.doc (change.apply (connectorsOf store.doc))).set "updated_at"
          (.str now) },
        some ())
    else (store, none)
  | .save _ payload =>
    if served then ({ store with doc := store.doc.mergeDeep payload }, some ()) else (store, none)

/-- The answer to a request. -/
inductive ConnectorAnswer where
  | done (change : ConnectorChange)
  | notFound
  | alreadyExists
  | writeInProgress
  | unavailable

abbrev ConnectorProgram := CallProgram ConnectorOp ConnectorOp.Answer

abbrev ConnectorLog := List (Called ConnectorOp ConnectorOp.Answer)

abbrev askConnectors (c : ConnectorOp) : ConnectorProgram c.Answer := CallProgram.ask c

abbrev tryConnectors (c : ConnectorOp) : ConnectorProgram (Option c.Answer) := CallProgram.attempt c

/-- The write itself: the field of the connector, or the whole company. -/
def writeConnector (change : ConnectorChange) (companyDoc : Record) (now : String) :
    ConnectorProgram ConnectorAnswer := do
  match ← tryConnectors (.updateField change now) with
  | some _ => pure (.done change)
  | none =>
    let payload := (withConnectors companyDoc (change.apply (connectorsOf companyDoc))).set
      "updated_at" (.str now)
    match ← tryConnectors (.save change payload) with
    | some _ => pure (.done change)
    | none => pure .unavailable

/-- What the connector routes do under the lock of the connector, if its presence is as `present`
    says. -/
def lockedWrite (id : String) (change : ConnectorChange) (present : Bool)
    (refusal : ConnectorAnswer) (now : String) : ConnectorProgram ConnectorAnswer := do
  if ← askConnectors (.acquire id) then
    let answer ← (do
      match ← tryConnectors .load with
      | none => pure .unavailable
      | some companyDoc =>
        if (connectorsOf companyDoc).contains id = present then writeConnector change companyDoc now
        else pure refusal)
    let _ ← askConnectors (.release id)
    pure answer
  else pure .writeInProgress

/-- `create_admin_company_connector_route` -/
def createConnector (id : String) (connector : PyValue) (now : String) :
    ConnectorProgram ConnectorAnswer := do
  match ← tryConnectors .load with
  | none => pure .unavailable
  | some _ => lockedWrite id (.put id connector) false .alreadyExists now

/-- `update_admin_company_connector_route` -/
def updateConnector (id : String) (connector : PyValue) (now : String) :
    ConnectorProgram ConnectorAnswer := do
  match ← tryConnectors .load with
  | none => pure .unavailable
  | some companyDoc =>
    if (connectorsOf companyDoc).contains id then
      lockedWrite id (.put id connector) true .notFound now
    else pure .notFound

/-- `delete_admin_company_connector_route` -/
def deleteConnector (id : String) (now : String) : ConnectorProgram ConnectorAnswer := do
  match ← tryConnectors .load with
  | none => pure .unavailable
  | some companyDoc =>
    if (connectorsOf companyDoc).contains id then lockedWrite id (.remove id) true .notFound now
    else pure .notFound

/-- `update_admin_company_route` without connectors; `fields` are the other fields of
    `_admin_company_payload`. -/
def updateCompany (fields : Record → Record) : ConnectorProgram ConnectorAnswer := do
  match ← tryConnectors .load with
  | none => pure .unavailable
  | some companyDoc =>
    match ← tryConnectors (.save .keep (withConnectors (fields companyDoc)
        (connectorsOf companyDoc))) with
    | some _ => pure (.done .keep)
    | none => pure .unavailable

inductive ConnectorRequest where
  | create (id : String) (connector : PyValue) (now : String)
  | update (id : String) (connector : PyValue) (now : String)
  | delete (id : String) (now : String)
  | company (fields : Record → Record)

def ConnectorRequest.program : ConnectorRequest → ConnectorProgram ConnectorAnswer
  | .create id connector now => createConnector id connector now
  | .update id connector now => updateConnector id connector now
  | .delete id now => deleteConnector id now
  | .company fields => updateCompany fields

abbrev ConnectorPool := Pool CompanyStore ConnectorOp ConnectorOp.Answer ConnectorAnswer

/-- A request comes in, or one makes its next step, which is served or raises. -/
abbrev ConnectorEvent := PoolEvent ConnectorRequest Bool

/-- Requests that run side by side. -/
def connectorRequests : EventMachine ConnectorPool ConnectorEvent Unit :=
  Pool.machine serveCompany ConnectorRequest.program

/-! ## Writes -/

/-- The change of a write that was served. -/
def written? : Called ConnectorOp ConnectorOp.Answer → Option ConnectorChange
  | ⟨.updateField change _, some _⟩ => some change
  | ⟨.save change _, some _⟩ => some change
  | _ => none

variable (log : ConnectorLog)

/-- The changes that a request wrote. -/
def writesOf : List ConnectorChange := log.filterMap written?

/-- A request that is done has written its change, once. -/
def WritesOnce (s : ConnectorPool) : Prop :=
  ∀ (i : ℕ) (log : ConnectorLog) (change : ConnectorChange),
    s.threads[i]? = some ⟨log, .returned (.done change)⟩ → writesOf log = [change]

/-- The change that a step writes. -/
def writtenAt (s : ConnectorPool) : ConnectorEvent → ConnectorChange
  | .start _ => .keep
  | .resume i served =>
    match s.threads[i]? with
    | some ⟨_, .call c _⟩ => (written? ⟨c, (serveCompany s.shared served c).2⟩).getD .keep
    | _ => .keep

/-- The step changes the connectors by what it writes, and leaves every other one as it was. -/
def ChangesExactly (t : EventMachine.Entry ConnectorPool ConnectorEvent Unit) : Prop :=
  ∀ id, (connectorsOf (connectorRequests.next t.pre t.event).shared.doc).get? id =
    ((writtenAt t.pre t.event).apply (connectorsOf t.pre.shared.doc)).get? id

/-! ## Merging a company back -/

/-- What a request writes under its own id. -/
def WritesOwn : ConnectorChange → Record → Prop
  | .put id connector, written => written.get? id = some connector
  | .remove id, written => written.get? id = none
  | .keep, _ => True

/-- A connector that is written back is still stored, and merging it in changes nothing. -/
def MergesBack (written stored : Record) (id : String) : Prop :=
  ∀ connector, written.get? id = some connector →
    stored.get? id = some (mergeValue connector (stored.value id))

/-- Merging these connectors into the stored ones makes the change, and no other. -/
def MergesExactly (change : ConnectorChange) (written stored : Record) : Prop :=
  if written.entries = [] then ∀ id, (change.apply stored).get? id = none
  else
    match change with
    | .put id connector =>
      mergeValue connector (stored.value id) = connector ∧ ∀ k, k ≠ id → MergesBack written stored k
    | .remove id => stored.get? id = none ∧ ∀ k, k ≠ id → MergesBack written stored k
    | .keep => ∀ k, MergesBack written stored k

theorem connectorsOf_withConnectors (doc connectors : Record) :
    connectorsOf (withConnectors doc connectors) = connectors := by
  rw [connectorsOf, withConnectors, Dict.get?_set_self]
  exact Dict.ofList_entries connectors

theorem connectorsOf_set (doc : Record) {key : String} (v : PyValue) (h : key ≠ "connectors") :
    connectorsOf (doc.set key v) = connectorsOf doc := by
  rw [connectorsOf, Dict.get?_set_of_ne _ _ (Ne.symm h), connectorsOf]

/-- The stored connectors, as merging sees them. -/
theorem ofList_value_connectors (doc : Record) :
    Dict.ofList (((doc.value "connectors").dict?).getD []) = connectorsOf doc := by
  rw [connectorsOf, Record.value]
  cases doc.get? "connectors" with
  | none => rfl
  | some v => cases v <;> rfl

/-- **What merging leaves**: nothing where no connectors are written, and else what was written over
    what was stored. -/
theorem get?_connectorsOf_mergeDeep {doc payload written : Record}
    (h : payload.get? "connectors" = some (.dict written.entries)) (id : String) :
    (connectorsOf (doc.mergeDeep payload)).get? id =
      if written.entries = [] then none
      else
        match written.get? id with
        | some connector => some (mergeValue connector ((connectorsOf doc).value id))
        | none => (connectorsOf doc).get? id := by
  rw [connectorsOf, Record.get?_mergeDeep, h]
  cases hentries : written.entries with
  | nil =>
    rw [if_pos rfl]
    rfl
  | cons e es =>
    rw [if_neg (List.cons_ne_nil e es)]
    show (Dict.ofList (mergeEntries (e :: es) _).entries).get? id = _
    have hnodup : ((e :: es).map Prod.fst).Nodup := hentries ▸ written.nodup
    have hlookup : written.get? id = (e :: es).lookup id := by
      rw [Dict.get?, hentries]
    rw [Dict.ofList_entries, ofList_value_connectors, hlookup]
    refine (get?_mergeEntries hnodup _ _).trans ?_
    cases (e :: es).lookup id with
    | none => rfl
    | some connector => rfl

/-- **Merging exactly**, for a request that writes its own connector. -/
theorem mergesExactly_iff {doc payload written : Record}
    (h : payload.get? "connectors" = some (.dict written.entries))
    {change : ConnectorChange} (hown : WritesOwn change written) :
    (∀ id, (connectorsOf (doc.mergeDeep payload)).get? id = (change.apply (connectorsOf doc)).get?
      id) ↔ MergesExactly change written (connectorsOf doc) := by
  simp only [get?_connectorsOf_mergeDeep h]
  generalize connectorsOf doc = stored
  unfold MergesExactly
  by_cases hempty : written.entries = []
  · simp only [if_pos hempty]
    exact forall_congr' fun id => eq_comm
  simp only [if_neg hempty]
  -- a connector that is not the request's own
  have hother : ∀ k, ((match written.get? k with
      | some connector => some (mergeValue connector (stored.value k))
      | none => stored.get? k) = stored.get? k) ↔ MergesBack written stored k := by
    intro k
    unfold MergesBack
    cases hk : written.get? k with
    | none => simp
    | some connector =>
      exact ⟨fun h _ hw => (Option.some.inj hw) ▸ h.symm, fun h => (h connector rfl).symm⟩
  cases change with
  | put id connector =>
    have hwritten : written.get? id = some connector := hown
    constructor
    · intro hall
      refine ⟨?_, fun k hk => (hother k).1 ?_⟩
      · have hid := hall id
        rw [hwritten] at hid
        exact Option.some.inj (hid.trans (Dict.get?_set_self _ _ _))
      · exact (hall k).trans (Dict.get?_set_of_ne _ _ hk)
    · rintro ⟨hmerge, hrest⟩ k
      by_cases hk : k = id
      · subst hk
        rw [hwritten]
        show some (mergeValue connector (stored.value k)) = (stored.set k connector).get? k
        rw [hmerge, Dict.get?_set_self]
      · exact ((hother k).2 (hrest k hk)).trans (Dict.get?_set_of_ne _ _ hk).symm
  | remove id =>
    have hwritten : written.get? id = none := hown
    constructor
    · intro hall
      refine ⟨?_, fun k hk => (hother k).1 ?_⟩
      · have hid := hall id
        rw [hwritten] at hid
        exact hid.trans ((Dict.get?_erase _ _ _).trans (if_pos rfl))
      · exact (hall k).trans ((Dict.get?_erase _ _ _).trans (if_neg hk))
    · rintro ⟨hgone, hrest⟩ k
      by_cases hk : k = id
      · subst hk
        rw [hwritten]
        exact hgone.trans ((Dict.get?_erase _ _ _).trans (if_pos rfl)).symm
      · exact ((hother k).2 (hrest k hk)).trans ((Dict.get?_erase _ _ _).trans (if_neg hk)).symm
  | keep => exact forall_congr' fun k => hother k

/-! ## What requests write -/

/-- A request writes once, and merges its own connector. -/
def WritesOwnOnce : ConnectorOp → Prop
  | .updateField _ _ => writesOf log = []
  | .save change payload => writesOf log = [] ∧ ∃ written : Record,
      payload.get? "connectors" = some (.dict written.entries) ∧ WritesOwn change written
  | _ => True

/-- A request that is done has written its change. -/
def DoneWritten : ConnectorAnswer → Prop
  | .done change => writesOf log = [change]
  | _ => True

theorem writesOf_concat (called : Called ConnectorOp ConnectorOp.Answer) :
    writesOf (log ++ [called]) = writesOf log ++ (written? called).toList := by
  rw [writesOf, List.filterMap_append, writesOf]
  cases h : written? called with
  | none => rw [List.filterMap_cons_none h]; rfl
  | some change => rw [List.filterMap_cons_some h]; rfl

theorem writesOf_quiet {log : ConnectorLog} (hlog : writesOf log = [])
    (called : Called ConnectorOp ConnectorOp.Answer)
    (h : written? called = none) : writesOf (log ++ [called]) = [] := by
  rw [writesOf_concat, hlog, h]
  rfl

theorem writesOwn_apply {change : ConnectorChange} (connectors : Record) :
    WritesOwn change (change.apply connectors) := by
  cases change with
  | put id connector => exact Dict.get?_set_self _ _ _
  | remove id => exact (Dict.get?_erase _ _ _).trans (if_pos rfl)
  | keep => trivial

theorem obeys_writeConnector (change : ConnectorChange) (companyDoc : Record) (now : String)
    {log : ConnectorLog} (hlog : writesOf log = []) :
    (writeConnector change companyDoc now).Obeys WritesOwnOnce DoneWritten log := by
  unfold writeConnector
  rw [CallProgram.obeys_bind, CallProgram.obeys_attempt]
  refine ⟨hlog, fun updated => ?_⟩
  cases updated with
  | some _ =>
    show writesOf _ = [change]
    rw [writesOf_concat, hlog]
    rfl
  | none =>
    have hquiet := writesOf_quiet hlog ⟨.updateField change now, none⟩ rfl
    dsimp only
    rw [CallProgram.obeys_bind, CallProgram.obeys_attempt]
    refine ⟨⟨hquiet, change.apply (connectorsOf companyDoc), ?_, writesOwn_apply _⟩, fun saved =>
      ?_⟩
    · rw [Dict.get?_set_of_ne _ _ (by decide), withConnectors, Dict.get?_set_self]
    · cases saved with
      | none => exact trivial
      | some _ =>
        show writesOf _ = [change]
        rw [writesOf_concat, hquiet]
        rfl

theorem obeys_lockedWrite (id : String) (change : ConnectorChange) (present : Bool)
    {refusal : ConnectorAnswer} (hrefusal : ∀ change, refusal ≠ .done change) (now : String)
    {log : ConnectorLog} (hlog : writesOf log = []) :
    (lockedWrite id change present refusal now).Obeys WritesOwnOnce DoneWritten log := by
  unfold lockedWrite
  rw [CallProgram.obeys_ask_bind]
  refine ⟨trivial, fun acquired => ?_⟩
  have hacquired := writesOf_quiet hlog ⟨.acquire id, some acquired⟩ rfl
  rw [CallProgram.obeys_ite]
  refine ⟨fun _ => ?_, fun _ => trivial⟩
  have hrelease : ∀ (log : ConnectorLog) (answer : ConnectorAnswer), DoneWritten log answer →
      (askConnectors (.release id) >>= fun _ => pure answer).Obeys WritesOwnOnce DoneWritten
      log := by
    intro log answer hanswer
    rw [CallProgram.obeys_ask_bind]
    refine ⟨trivial, fun released => ?_⟩
    cases answer with
    | done change =>
      show writesOf _ = [change]
      have hwritten : writesOf log = [change] := hanswer
      rw [writesOf_concat, hwritten]
      rfl
    | _ => trivial
  rw [CallProgram.obeys_bind, CallProgram.obeys_bind, CallProgram.obeys_attempt]
  refine ⟨trivial, fun loaded => ?_⟩
  have hloaded := writesOf_quiet hacquired ⟨.load, loaded⟩ rfl
  cases loaded with
  | none => exact hrelease _ .unavailable trivial
  | some companyDoc =>
    dsimp only
    rw [CallProgram.obeys_ite]
    refine ⟨fun _ => ?_, fun _ => hrelease _ refusal ?_⟩
    · exact (obeys_writeConnector change companyDoc now hloaded).mono (fun _ _ h => h) fun log
          answer =>
        hrelease log answer
    · cases refusal with
      | done change => exact absurd rfl (hrefusal change)
      | _ => trivial

/-- **Requests**, of every kind. -/
theorem obeys_connectorRequest (request : ConnectorRequest) :
    request.program.Obeys WritesOwnOnce DoneWritten [] := by
  have hloaded : ∀ loaded, writesOf [⟨.load, loaded⟩] = [] := fun loaded =>
    @writesOf_quiet [] rfl ⟨.load, loaded⟩ rfl
  cases request with
  | create id connector now =>
    show (createConnector id connector now).Obeys _ _ _
    unfold createConnector
    rw [CallProgram.obeys_bind, CallProgram.obeys_attempt]
    refine ⟨trivial, fun loaded => ?_⟩
    cases loaded with
    | none => exact trivial
    | some companyDoc => exact obeys_lockedWrite id _ false (by simp) now (hloaded _)
  | update id connector now =>
    show (updateConnector id connector now).Obeys _ _ _
    unfold updateConnector
    rw [CallProgram.obeys_bind, CallProgram.obeys_attempt]
    refine ⟨trivial, fun loaded => ?_⟩
    cases loaded with
    | none => exact trivial
    | some companyDoc =>
      dsimp only
      rw [CallProgram.obeys_ite]
      exact ⟨fun _ => obeys_lockedWrite id _ true (by simp) now (hloaded _), fun _ => trivial⟩
  | delete id now =>
    show (deleteConnector id now).Obeys _ _ _
    unfold deleteConnector
    rw [CallProgram.obeys_bind, CallProgram.obeys_attempt]
    refine ⟨trivial, fun loaded => ?_⟩
    cases loaded with
    | none => exact trivial
    | some companyDoc =>
      dsimp only
      rw [CallProgram.obeys_ite]
      exact ⟨fun _ => obeys_lockedWrite id _ true (by simp) now (hloaded _), fun _ => trivial⟩
  | company fields =>
    show (updateCompany fields).Obeys _ _ _
    unfold updateCompany
    rw [CallProgram.obeys_bind, CallProgram.obeys_attempt]
    refine ⟨trivial, fun loaded => ?_⟩
    cases loaded with
    | none => exact trivial
    | some companyDoc =>
      dsimp only
      rw [CallProgram.obeys_bind, CallProgram.obeys_attempt]
      refine ⟨⟨hloaded _, connectorsOf companyDoc, ?_, trivial⟩, fun saved => ?_⟩
      · rw [withConnectors, Dict.get?_set_self]
      · cases saved with
        | none => exact trivial
        | some _ =>
          show writesOf _ = [.keep]
          rw [writesOf_concat, List.nil_append, hloaded]
          rfl

/-! ## Runs -/

/-- A merge of the whole company that is served makes its change, and no other. -/
def SavesExactly (s : ConnectorPool) (e : ConnectorEvent) : Prop :=
  ∀ (i : ℕ) (log : ConnectorLog) (change : ConnectorChange) (payload : Record)
    (k : Option Unit → ConnectorProgram ConnectorAnswer),
    e = .resume i true → s.threads[i]? = some ⟨log, .call (.save change payload) k⟩ →
      MergesExactly change (connectorsOf payload) (connectorsOf s.shared.doc)

/-- Requests of the company, and none so far. -/
def noRequests (doc : Record) : ConnectorPool := { shared := ⟨doc, []⟩ }

theorem writesOnce_of_obeyed {s : ConnectorPool} (hs : Pool.Obeyed WritesOwnOnce DoneWritten s) :
    WritesOnce s :=
  fun i _ _ hdone => hs i _ hdone

theorem connectorsOf_payload {payload written : Record}
    (h : payload.get? "connectors" = some (.dict written.entries)) :
    connectorsOf payload = written := by
  rw [connectorsOf, h]
  exact Dict.ofList_entries written

/-- **One operation** changes the connectors by what it writes, exactly if a merge does. -/
theorem serveCompany_changes {store : CompanyStore} {served : Bool} {log : ConnectorLog}
    (c : ConnectorOp) (hallowed : WritesOwnOnce log c) :
    (∀ id, (connectorsOf (serveCompany store served c).1.doc).get? id =
      (((written? ⟨c, (serveCompany store served c).2⟩).getD .keep).apply
        (connectorsOf store.doc)).get? id) ↔
      ∀ change payload, c = .save change payload → served = true →
        MergesExactly change (connectorsOf payload) (connectorsOf store.doc) := by
  cases served with
  | false =>
    -- nothing takes effect
    have hsame : (serveCompany store false c).1.doc = store.doc ∧
        written? ⟨c, (serveCompany store false c).2⟩ = none := by
      cases c with
      | acquire id =>
        rw [serveCompany, Bool.not_false, Bool.or_true, if_pos rfl]
        exact ⟨rfl, rfl⟩
      | _ => exact ⟨rfl, rfl⟩
    rw [hsame.1, hsame.2]
    exact ⟨fun _ _ _ _ h => absurd h Bool.false_ne_true, fun _ _ => rfl⟩
  | true =>
    cases c with
    | save change payload =>
      obtain ⟨-, written, hpayload, hown⟩ := hallowed
      refine (mergesExactly_iff hpayload hown).trans ⟨fun h change' payload' hcall _ => ?_, fun h =>
        ?_⟩
      · cases hcall
        rw [connectorsOf_payload hpayload]
        exact h
      · rw [← connectorsOf_payload hpayload]
        exact h change payload rfl rfl
    | updateField change now =>
      refine ⟨fun _ _ _ h => (by cases h), fun _ id => ?_⟩
      show (connectorsOf ((withConnectors store.doc _).set "updated_at" _)).get? id = _
      rw [connectorsOf_set _ _ (by decide), connectorsOf_withConnectors]
      rfl
    | acquire id =>
      refine ⟨fun _ _ _ h => (by cases h), fun _ k => ?_⟩
      rw [serveCompany]
      split
      · rfl
      · rfl
    | load => exact ⟨fun _ _ _ h => (by cases h), fun _ _ => rfl⟩
    | release id => exact ⟨fun _ _ _ h => (by cases h), fun _ _ => rfl⟩

/-- **Step lemma.** -/
theorem changesExactly_iff {s : ConnectorPool} (hs : Pool.Obeyed WritesOwnOnce DoneWritten s)
    (e : ConnectorEvent) : ChangesExactly (connectorRequests.entry s e) ↔ SavesExactly s e := by
  cases e with
  | start request =>
    refine ⟨fun _ i log change payload k he => ?_, fun _ _ => rfl⟩
    cases he
  | resume i served =>
    show (∀ id, (connectorsOf (s.resume serveCompany i served).shared.doc).get? id =
      ((writtenAt s (.resume i served)).apply (connectorsOf s.shared.doc)).get? id) ↔ _
    rw [writtenAt, Pool.resume]
    split
    · next log c k hfound =>
        rw [hfound]
        refine (serveCompany_changes c (hs i _ hfound).1).trans
          ⟨fun h j log' change payload k' he hfound' => ?_, ?_⟩
        · cases he
          cases Option.some.inj (hfound.symm.trans hfound')
          exact h change payload rfl rfl
        · rintro h change payload rfl rfl
          exact h i log change payload k rfl hfound
    · next hnone =>
        refine ⟨fun _ j log change payload k he hfound => ?_, fun _ id => ?_⟩
        · cases he
          exact absurd hfound (hnone log (.save change payload) k)
        · split
          · next log c k hfound => exact absurd hfound (hnone log c k)
          · rfl

/-- **Connector writes take exactly their effect.** In every run of requests, every request that is
    done has written its change once, and every step changes the connectors by what it writes and no
    others, exactly if every merge of the whole company that is served makes its change and no
    other. -/
theorem connectorWrites_exact_iff (doc : Record) (es : List ConnectorEvent) :
    (connectorRequests.Always WritesOnce (noRequests doc) es ∧
        ∀ t ∈ connectorRequests.trace (noRequests doc) es, ChangesExactly t) ↔
      ∀ t ∈ connectorRequests.trace (noRequests doc) es, SavesExactly t.pre t.event := by
  refine connectorRequests.sound_iff_guarded (I := Pool.Obeyed WritesOwnOnce DoneWritten)
    (fun s e hs => Pool.obeyed_next hs e fun request _ => obeys_connectorRequest request)
    (fun s e hs _ => ?_) (fun i t ht => ?_) (fun i log change hdone => ?_) es
  · have hnext : Pool.Obeyed WritesOwnOnce DoneWritten (connectorRequests.next s e) :=
      Pool.obeyed_next hs e fun request _ => obeys_connectorRequest request
    exact (and_iff_right (writesOnce_of_obeyed hnext)).trans (changesExactly_iff hs e)
  · cases ht
  · cases hdone

/-- A company with two connectors. -/
def shopCompany : Record :=
  Dict.ofList [("connectors", .dict [("crm", .dict [("provider", .str "mock")]),
    ("mail-1", .dict [("provider", .str "mock")])])]

/-- The update of the field raises, as the Firestore client does for an id with a hyphen. -/
def deleteHyphened : List ConnectorEvent :=
  [.start (.delete "mail-1" "2026-03-01"), .resume 0 true, .resume 0 true, .resume 0 true,
    .resume 0 false, .resume 0 true]

theorem deleteHyphened_keeps :
    ¬ ∀ (doc : Record) (es : List ConnectorEvent),
      connectorRequests.Always WritesOnce (noRequests doc) es ∧
        ∀ t ∈ connectorRequests.trace (noRequests doc) es, ChangesExactly t := by
  intro h
  have hexact := (h shopCompany deleteHyphened).2
  have hkept : (connectorRequests.trace (noRequests shopCompany) deleteHyphened).all (fun t =>
      ((connectorsOf (connectorRequests.next t.pre t.event).shared.doc).get? "mail-1").isSome ==
        (((writtenAt t.pre t.event).apply (connectorsOf t.pre.shared.doc)).get? "mail-1").isSome) =
          true := by
    rw [List.all_eq_true]
    intro t ht
    rw [hexact t ht "mail-1"]
    exact beq_self_eq_true _
  exact absurd hkept (by decide +kernel)

end Ekaette
