import Ekaette.Lib.ServedRun
import Ekaette.Tools.OrderUpdates

set_option autoImplicit false

/-! # Order records of other tenants

Calls of the order tools one after the other, each on behalf of a tenant and a company. A call reads
and writes under one place only, that of its own order id, and nothing of a tenant goes into the
place unless the tool context names one. So a call keeps away from the records of other tenants as
long as it brings an order id of its own; where the id is another tenant's, the record of that
tenant is returned and overwritten. -/

namespace Ekaette

variable (cfg : ShippingConfig)

/-! ## Where a call works -/

/-- The place a call reads and writes; a call that is refused before has none. -/
def OrderCall.place? : OrderCall → Option OrderPlace
  | .create uuid a =>
    if PyStr.strip a.customerName = "" ∨
      (a.orderId.isSome ∧ a.orderId.bind validatedOrderId = none) then none
    else cfg.orderPlace a.ctx (normalizeOrderId uuid a.orderId)
  | .update a => (validatedOrderId a.orderId).bind (cfg.orderPlace a.ctx)
  | .followup a => (validatedOrderId a.orderId).bind (cfg.orderPlace a.ctx)

/-- The operation reads or writes nothing but this place. -/
def OrderOp.At (place : OrderPlace) : OrderOp → Prop
  | .read p => p = place
  | .write p _ _ => p = place
  | _ => True

/-- From this log on, a program works at this place only. -/
abbrev WorksAt {α : Type} (place : OrderPlace) (log : List (Called OrderOp OrderOp.Answer))
    (p : OrderProgram α) : Prop :=
  p.Obeys (fun _ op => op.At place) (fun _ _ => True) log

theorem validatedOrderId_validated {s orderId : String} (h : validatedOrderId s = some orderId) :
    validatedOrderId orderId = some orderId := by
  unfold validatedOrderId at h
  split at h
  · next hmatches =>
      obtain rfl := Option.some.inj h
      rw [validatedOrderId, PyStr.strip_strip, if_pos hmatches]
  · cases h

theorem OrderCall.program_refused {call : OrderCall} (h : call.place? cfg = none) :
    ∃ result, call.program cfg = pure result := by
  cases call with
  | create uuid a =>
    simp only [OrderCall.place?] at h
    show ∃ result, createOrderRecord cfg uuid a = pure result
    unfold createOrderRecord
    by_cases hname : PyStr.strip a.customerName = ""
    · exact ⟨_, if_pos hname⟩
    · rw [if_neg hname]
      by_cases hid : a.orderId.isSome ∧ a.orderId.bind validatedOrderId = none
      · exact ⟨_, if_pos hid⟩
      · rw [if_neg (not_or.2 ⟨hname, hid⟩)] at h
        rw [if_neg hid]
        simp only [h]
        exact ⟨_, rfl⟩
  | update a =>
    simp only [OrderCall.place?] at h
    show ∃ result, updateOrderTrackingStatus cfg a = pure result
    unfold updateOrderTrackingStatus
    cases hid : validatedOrderId a.orderId with
    | none => exact ⟨_, rfl⟩
    | some orderId =>
      rw [hid, Option.bind_some] at h
      simp only [h]
      exact ⟨_, rfl⟩
  | followup a =>
    simp only [OrderCall.place?] at h
    show ∃ result, sendOrderReviewFollowup cfg a = pure result
    unfold sendOrderReviewFollowup
    cases hid : validatedOrderId a.orderId with
    | none => exact ⟨_, rfl⟩
    | some orderId =>
      rw [hid, Option.bind_some] at h
      simp only [h]
      exact ⟨_, rfl⟩

section Programs

variable {cfg} {place : OrderPlace} (log : List (Called OrderOp OrderOp.Answer))

/-- **What every call does**: it reads at its place first, and works there only. -/
def StartsAt (place : OrderPlace) (p : OrderProgram Record) : Prop :=
  ∃ orderId f, p = readOrderRecord place orderId >>= f ∧ ∀ stored log, WorksAt place log (f stored)

theorem StartsAt.worksAt {p : OrderProgram Record} (h : StartsAt place p) :
    WorksAt place log p := by
  obtain ⟨orderId, f, rfl, hf⟩ := h
  rw [WorksAt, obeys_readOrderRecord]
  exact ⟨rfl, fun stored => hf _ _⟩

theorem startsAt_create {uuid : String} {a : CreateOrderArgs}
    (h : (OrderCall.create uuid a).place? cfg = some place) :
    StartsAt place (createOrderRecord cfg uuid a) := by
  simp only [OrderCall.place?] at h
  unfold createOrderRecord
  split at h
  · cases h
  · next hvalid =>
      obtain ⟨hname, hid⟩ := not_or.1 hvalid
      rw [if_neg hname, if_neg hid]
      simp only [h]
      refine ⟨_, _, rfl, fun stored log => ?_⟩
      rw [WorksAt, obeys_nowIso]
      refine ⟨trivial, fun now => ?_⟩
      rw [obeys_writeOrderRecord]
      exact ⟨trivial, fun now' => ⟨rfl, fun _ => trivial⟩⟩

theorem startsAt_followup {a : FollowupArgs} (h : (OrderCall.followup a).place? cfg = some place) :
    StartsAt place (sendOrderReviewFollowup cfg a) := by
  simp only [OrderCall.place?] at h
  unfold sendOrderReviewFollowup
  cases hid : validatedOrderId a.orderId with
  | none =>
    rw [hid] at h
    cases h
  | some orderId =>
    rw [hid, Option.bind_some] at h
    simp only [h]
    refine ⟨_, _, rfl, fun stored log => ?_⟩
    cases stored with
    | none => trivial
    | some order =>
      dsimp only
      rw [WorksAt, CallProgram.obeys_ite]
      refine ⟨fun _ => trivial, fun _ => ?_⟩
      rw [CallProgram.obeys_ite]
      refine ⟨fun _ => trivial, fun _ => ?_⟩
      rw [obeys_sendMessage]
      refine ⟨trivial, fun smsSent => ?_⟩
      rw [obeys_sendMessage]
      refine ⟨trivial, fun whatsappSent => ?_⟩
      rw [CallProgram.obeys_ite]
      refine ⟨fun _ => trivial, fun _ => ?_⟩
      rw [obeys_nowIso]
      refine ⟨trivial, fun now => ?_⟩
      rw [obeys_writeOrderRecord]
      exact ⟨trivial, fun now' => ⟨rfl, fun _ => trivial⟩⟩

/-- The follow-up of an update works where the update works. -/
theorem worksAt_deliveredFollowup (a : UpdateTrackingArgs) {orderId : String}
    (hid : validatedOrderId a.orderId = some orderId)
    (hplace : cfg.orderPlace a.ctx orderId = some place) :
    WorksAt place log (deliveredFollowup cfg a orderId) := by
  have hsame : (OrderCall.followup { orderId := orderId, ctx := a.ctx }).place? cfg = some place :=
    by
    simp only [OrderCall.place?]
    rw [validatedOrderId_validated hid, Option.bind_some]
    exact hplace
  unfold deliveredFollowup
  rw [WorksAt, CallProgram.obeys_ite]
  refine ⟨fun _ => ?_, fun _ => trivial⟩
  exact CallProgram.Obeys.bind ((startsAt_followup hsame).worksAt log) fun _ _ _ => trivial

theorem startsAt_update {a : UpdateTrackingArgs} (h : (OrderCall.update a).place? cfg = some place)
    : StartsAt place (updateOrderTrackingStatus cfg a) := by
  simp only [OrderCall.place?] at h
  unfold updateOrderTrackingStatus
  cases hid : validatedOrderId a.orderId with
  | none =>
    rw [hid] at h
    cases h
  | some orderId =>
    rw [hid, Option.bind_some] at h
    simp only [h]
    refine ⟨_, _, rfl, fun stored log => ?_⟩
    cases stored with
    | none => trivial
    | some order =>
      dsimp only
      rw [WorksAt, obeys_nowIso]
      refine ⟨trivial, fun now => ?_⟩
      rw [obeys_writeOrderRecord]
      refine ⟨trivial, fun now' => ⟨rfl, fun _ => ?_⟩⟩
      exact CallProgram.Obeys.bind (worksAt_deliveredFollowup _ a hid h) fun _ _ _ => trivial

theorem OrderCall.startsAt {call : OrderCall} (h : call.place? cfg = some place) :
    StartsAt place (call.program cfg) := by
  cases call with
  | create uuid a => exact startsAt_create h
  | update a => exact startsAt_update h
  | followup a => exact startsAt_followup h

end Programs

/-! ## Calls one after the other -/

/-- A tenant and a company. -/
abbrev OrderScope := String × String

/-- A call on behalf of a scope, and what the outside chooses while it runs. -/
structure OrderRequest where
  scope : OrderScope
  call : OrderCall
  choices : ℕ → OrderChoice := fun _ => {}

/-- All records, and the scope that each of them was created for. -/
structure OrderBook where
  store : OrderStore
  createdFor : OrderPlace → Option OrderScope := fun _ => none

/-- The records after a call on these, and its result; `none` where it raises. -/
def OrderRequest.serve (r : OrderRequest) (store : OrderStore) : OrderStore × Option Record :=
  (r.call.program cfg).serveAll serveOrder store r.choices

/-- Order calls one after the other. -/
def orderBookMachine : EventMachine OrderBook OrderRequest (Option Record) where
  step b r :=
    let (store, result) := r.serve cfg b.store
    ({ store := store
       createdFor := fun place =>
        if (b.store.get? place).isSome then b.createdFor place
        else if (store.get? place).isSome then some r.scope
        else none },
      result)

/-- No orders. -/
def noOrderBook : OrderBook := { store := Dict.empty }

/-! ## Isolation -/

/-- The records that were not created for other scopes are the same. -/
def OrderBook.SameFor (scope : OrderScope) (b : OrderBook) (store : OrderStore) : Prop :=
  ∀ place, (∀ owner, b.createdFor place = some owner → owner = scope) →
    store.get? place = b.store.get? place

/-- A step neither returns nor changes what was created for another scope. -/
structure OrderIsolated (t : EventMachine.Entry OrderBook OrderRequest (Option Record)) : Prop where
  /-- the records of others stay -/
  unchanged : ∀ place owner, t.pre.createdFor place = some owner → owner ≠ t.event.scope →
    ((orderBookMachine cfg).next t.pre t.event).store.get? place = t.pre.store.get? place
  /-- the result is the same whatever the records of others are -/
  hidden : ∀ store, t.pre.SameFor t.event.scope store → (t.event.serve cfg store).2 = t.answer

/-- The outside answers a read of this place. -/
def OrderChoice.answersRead (choice : OrderChoice) : OrderPlace → Bool
  | .memory _ => true
  | .document _ => choice.access == .served

/-- The call finds no record at its place, or one that was created for its own scope, or no
    answer. -/
def OwnRecord (b : OrderBook) (r : OrderRequest) : Prop :=
  ∀ place owner, r.call.place? cfg = some place → (r.choices 0).answersRead place = true →
    b.createdFor place = some owner → owner = r.scope

/-! ## One call -/

section Steps

variable {place : OrderPlace}

/-- What happens at one place leaves the others. -/
theorem serveOrder_get?_of_ne {op : OrderOp} (hop : op.At place) {place' : OrderPlace}
    (hne : place' ≠ place) (store : OrderStore) (choice : OrderChoice) :
    (serveOrder store choice op).1.get? place' = store.get? place' := by
  cases op with
  | now => rfl
  | notify channel p phone message => rfl
  | read p =>
    cases p with
    | memory orderId => rfl
    | document ref =>
      unfold serveOrder
      cases choice.access with
      | served => rfl
      | refused => rfl
      | lost => rfl
  | write p payload why =>
    obtain rfl : p = place := hop
    cases p with
    | memory orderId => exact Dict.get?_set_of_ne _ _ hne
    | document ref =>
      unfold serveOrder
      cases choice.access with
      | served => exact Dict.get?_set_of_ne _ _ hne
      | refused => rfl
      | lost => exact Dict.get?_set_of_ne _ _ hne

/-- Stores with the same record at a place give the same answers there, and the same record. -/
theorem serveOrder_related {op : OrderOp} (hop : op.At place) {store store' : OrderStore}
    (hsame : store.get? place = store'.get? place) (choice : OrderChoice) :
    (serveOrder store choice op).2 = (serveOrder store' choice op).2 ∧
      (serveOrder store choice op).1.get? place = (serveOrder store' choice op).1.get? place := by
  cases op with
  | now => exact ⟨rfl, hsame⟩
  | notify channel p phone message => exact ⟨rfl, hsame⟩
  | read p =>
    obtain rfl : p = place := hop
    cases p with
    | memory orderId => exact ⟨congrArg some hsame, hsame⟩
    | document ref =>
      unfold serveOrder
      cases choice.access with
      | served => exact ⟨congrArg some hsame, hsame⟩
      | refused => exact ⟨rfl, hsame⟩
      | lost => exact ⟨rfl, hsame⟩
  | write p payload why =>
    obtain rfl : p = place := hop
    have hwritten : (store.set p (p.put (store.get? p) payload)).get? p =
        (store'.set p (p.put (store'.get? p) payload)).get? p := by
      rw [Dict.get?_set_self, Dict.get?_set_self, hsame]
    cases p with
    | memory orderId => exact ⟨rfl, hwritten⟩
    | document ref =>
      unfold serveOrder
      cases choice.access with
      | served => exact ⟨rfl, hwritten⟩
      | refused => exact ⟨rfl, hsame⟩
      | lost => exact ⟨rfl, hwritten⟩

variable {cfg} {p : OrderProgram Record}

theorem StartsAt.serveAll_unanswered (h : StartsAt place p) {choices : ℕ → OrderChoice}
    (hread : (choices 0).answersRead place = false) (store : OrderStore) :
    p.serveAll serveOrder store choices = (store, none) := by
  obtain ⟨orderId, f, rfl, -⟩ := h
  cases place with
  | memory orderId => cases hread
  | document ref =>
    have hserve : serveOrder store (choices 0) (.read (.document ref)) = (store, none) := by
      unfold serveOrder
      unfold OrderChoice.answersRead at hread
      cases haccess : (choices 0).access with
      | served =>
        rw [haccess] at hread
        cases hread
      | refused => rfl
      | lost => rfl
    show CallProgram.serveAll serveOrder (.call (.read (.document ref)) _) store choices = _
    unfold CallProgram.serveAll
    rw [hserve]
    rfl

/-- **What a call does to the records**: nothing at all, or it works at its place. -/
theorem OrderRequest.serve_cases (r : OrderRequest) :
    (∃ result, ∀ store, r.serve cfg store = (store, result)) ∨
      ∃ place, r.call.place? cfg = some place ∧ (r.choices 0).answersRead place = true ∧
        WorksAt place [] (r.call.program cfg) := by
  cases hplace : r.call.place? cfg with
  | none =>
    obtain ⟨result, hresult⟩ := OrderCall.program_refused cfg hplace
    refine .inl ⟨some result, fun store => ?_⟩
    rw [OrderRequest.serve, hresult]
    rfl
  | some place =>
    have hstarts : StartsAt place (r.call.program cfg) := OrderCall.startsAt hplace
    cases hread : (r.choices 0).answersRead place with
    | false => exact .inl ⟨none, hstarts.serveAll_unanswered hread⟩
    | true => exact .inr ⟨place, rfl, hread, hstarts.worksAt []⟩

section Serve

variable {r : OrderRequest} (hworks : WorksAt place [] (r.call.program cfg))
include hworks

/-- The other places stay as they are. -/
theorem serve_get?_of_ne {place' : OrderPlace} (hne : place' ≠ place) (store : OrderStore) :
    (r.serve cfg store).1.get? place' = store.get? place' := by
  unfold OrderRequest.serve
  refine hworks.serveAll_preserves (I := fun (s : OrderStore) => s.get? place' = store.get? place')
    ?_ rfl r.choices
  intro log op hop s choice hs
  exact (serveOrder_get?_of_ne hop hne s choice).trans hs

/-- The result, and the record that is left, depend on the record at the place only. -/
theorem serve_related {store store' : OrderStore} (hsame : store.get? place = store'.get? place) :
    (r.serve cfg store).2 = (r.serve cfg store').2 ∧
      (r.serve cfg store).1.get? place = (r.serve cfg store').1.get? place := by
  unfold OrderRequest.serve
  refine hworks.serveAll_related (R := fun (s s' : OrderStore) => s.get? place = s'.get? place) ?_
    hsame r.choices
  intro log op hop s s' choice hs
  exact serveOrder_related hop hs choice

end Serve

/-- **One call**: with a record of its own, or none, it keeps away from the records of others. -/
theorem orderIsolated_of_ownRecord {b : OrderBook} {r : OrderRequest} (h : OwnRecord cfg b r) :
    OrderIsolated cfg ((orderBookMachine cfg).entry b r) := by
  rcases r.serve_cases with ⟨result, hserve⟩ | ⟨place, hplace, hread, hworks⟩
  · refine ⟨fun place owner _ _ => ?_, fun store _ => ?_⟩
    · show (r.serve cfg b.store).1.get? place = _
      rw [hserve]
      rfl
    · show (r.serve cfg store).2 = (r.serve cfg b.store).2
      rw [hserve, hserve]
  · refine ⟨fun place' owner hcreated hother => ?_, fun store hsame => ?_⟩
    · have hne : place' ≠ place := by
        rintro rfl
        exact hother (h place' owner hplace hread hcreated)
      exact serve_get?_of_ne hworks hne b.store
    · exact (serve_related hworks (hsame place fun owner => h place owner hplace hread)).1

end Steps

/-! ## Runs -/

/-- **Isolation**: in every run in which no call finds a record of another scope under its order id,
    no call returns or changes a record that was created for another scope. -/
theorem orders_isolated (requests : List OrderRequest)
    (h : ∀ t ∈ (orderBookMachine cfg).trace noOrderBook requests, OwnRecord cfg t.pre t.event) :
    ∀ t ∈ (orderBookMachine cfg).trace noOrderBook requests, OrderIsolated cfg t := by
  intro t ht
  rw [(orderBookMachine cfg).eq_entry_of_mem_trace ht]
  exact orderIsolated_of_ownRecord (h t ht)

/-! ## A scope on its own -/

section Alone

variable {cfg} {place : OrderPlace}

/-- No operation removes a record. -/
theorem serveOrder_isSome {store : OrderStore} (h : (store.get? place).isSome) (op : OrderOp)
    (choice : OrderChoice) : ((serveOrder store choice op).1.get? place).isSome := by
  have hset : ∀ (p : OrderPlace) (record : Record), ((store.set p record).get? place).isSome := by
    intro p record
    rw [Dict.get?_set]
    split
    · rfl
    · exact h
  cases op with
  | now => exact h
  | notify channel p phone message => exact h
  | read p =>
    cases p with
    | memory orderId => exact h
    | document ref =>
      unfold serveOrder
      cases choice.access with
      | served => exact h
      | refused => exact h
      | lost => exact h
  | write p payload why =>
    cases p with
    | memory orderId => exact hset _ _
    | document ref =>
      unfold serveOrder
      cases choice.access with
      | served => exact hset _ _
      | refused => exact h
      | lost => exact hset _ _

/-- Every record was created for somebody. -/
def AllCreated (b : OrderBook) : Prop :=
  ∀ place, b.createdFor place = none ↔ b.store.get? place = none

theorem createdFor_next (b : OrderBook) (r : OrderRequest) (place : OrderPlace) :
    ((orderBookMachine cfg).next b r).createdFor place =
      if (b.store.get? place).isSome then b.createdFor place
      else if ((r.serve cfg b.store).1.get? place).isSome then some r.scope
      else none := rfl

theorem serve_isSome {store : OrderStore} (h : (store.get? place).isSome) (r : OrderRequest) :
    ((r.serve cfg store).1.get? place).isSome := by
  rcases r.serve_cases with ⟨result, hserve⟩ | ⟨_, -, -, hworks⟩
  · rw [hserve]
    exact h
  · unfold OrderRequest.serve
    refine hworks.serveAll_preserves (I := fun (s : OrderStore) => (s.get? place).isSome) ?_ h
      r.choices
    intro log op _ s choice hs
    exact serveOrder_isSome hs op choice

theorem allCreated_next {b : OrderBook} (h : AllCreated b) (r : OrderRequest) :
    AllCreated ((orderBookMachine cfg).next b r) := by
  intro place
  show _ ↔ (r.serve cfg b.store).1.get? place = none
  rw [createdFor_next]
  cases hbefore : b.store.get? place with
  | some record =>
    have hafter : ((r.serve cfg b.store).1.get? place).isSome := serve_isSome (hbefore ▸ rfl) r
    rw [if_pos (show (some record).isSome = true from rfl)]
    constructor
    · intro hnone
      rw [(h place).1 hnone] at hbefore
      cases hbefore
    · intro hnone
      rw [hnone] at hafter
      cases hafter
  | none =>
    rw [if_neg (show ¬ (none : Option Record).isSome = true from Bool.false_ne_true)]
    cases hafter : (r.serve cfg b.store).1.get? place with
    | some record => simp
    | none => simp

variable {scope : OrderScope} {b alone : OrderBook} {r : OrderRequest}

theorem createdFor_kept (hb : AllCreated b) (h : b.createdFor place = some scope) :
    ((orderBookMachine cfg).next b r).createdFor place = some scope := by
  have hstored : (b.store.get? place).isSome := by
    rw [Option.isSome_iff_ne_none]
    intro hnone
    rw [(hb place).2 hnone] at h
    cases h
  rw [createdFor_next, if_pos hstored]
  exact h

/-- A record that was created for a scope was so before, or the call of the scope has created it
    now. -/
theorem createdFor_cases (h : ((orderBookMachine cfg).next b r).createdFor place = some scope) :
    b.createdFor place = some scope ∨
      r.scope = scope ∧ b.store.get? place = none ∧ (r.serve cfg b.store).1.get? place ≠ none := by
  rw [createdFor_next] at h
  split at h
  · exact .inl h
  · next hnew =>
      split at h
      · next hafter =>
          refine .inr ⟨Option.some.inj h, ?_, Option.isSome_iff_ne_none.1 hafter⟩
          rw [Option.isSome_iff_ne_none, not_not] at hnew
          exact hnew
      · cases h

/-- The records of a scope, and no others. -/
structure OnlyFor (scope : OrderScope) (b alone : OrderBook) : Prop where
  own : ∀ place, b.createdFor place = some scope → alone.store.get? place = b.store.get? place
  others : ∀ place, b.createdFor place ≠ some scope → alone.store.get? place = none

/-- A call of another scope leaves the records of the scope. -/
theorem OnlyFor.other (h : OnlyFor scope b alone) (hb : AllCreated b) (hr : r.scope ≠ scope)
    (hown : OwnRecord cfg b r) : OnlyFor scope ((orderBookMachine cfg).next b r) alone := by
  refine ⟨fun place hcreated => ?_, fun place hcreated => ?_⟩
  · rcases createdFor_cases hcreated with hbefore | ⟨hsame, -⟩
    · rw [h.own place hbefore]
      exact ((orderIsolated_of_ownRecord hown).unchanged place scope hbefore (Ne.symm hr)).symm
    · exact absurd hsame hr
  · exact h.others place fun hbefore => hcreated (createdFor_kept hb hbefore)

/-- A call of the scope returns and leaves the same. -/
theorem OnlyFor.same (h : OnlyFor scope b alone) (hb : AllCreated b) (hr : r.scope = scope)
    (hown : OwnRecord cfg b r) :
    (r.serve cfg b.store).2 = (r.serve cfg alone.store).2 ∧
      OnlyFor scope ((orderBookMachine cfg).next b r) ((orderBookMachine cfg).next alone r) := by
  rcases r.serve_cases with ⟨result, hserve⟩ | ⟨place, hplace, hread, hworks⟩
  · refine ⟨by rw [hserve, hserve], fun place hcreated => ?_, fun place hcreated => ?_⟩
    · show (r.serve cfg alone.store).1.get? place = (r.serve cfg b.store).1.get? place
      rcases createdFor_cases hcreated with hbefore | ⟨-, hnone, hafter⟩
      · rw [hserve, hserve]
        exact h.own place hbefore
      · rw [hserve] at hafter
        exact absurd hnone hafter
    · show (r.serve cfg alone.store).1.get? place = none
      rw [hserve]
      exact h.others place fun hbefore => hcreated (createdFor_kept hb hbefore)
  · have hsame : b.store.get? place = alone.store.get? place := by
      cases hcreated : b.createdFor place with
      | none =>
        rw [(hb place).1 hcreated, h.others place (by simp [hcreated])]
      | some owner =>
        obtain rfl : owner = scope := (hown place owner hplace hread hcreated).trans hr
        exact (h.own place hcreated).symm
    obtain ⟨hresult, hrecord⟩ := serve_related hworks hsame
    refine ⟨hresult, fun place' hcreated => ?_, fun place' hcreated => ?_⟩
    · show (r.serve cfg alone.store).1.get? place' = (r.serve cfg b.store).1.get? place'
      by_cases hp : place' = place
      · rw [hp]
        exact hrecord.symm
      · rw [serve_get?_of_ne hworks hp, serve_get?_of_ne hworks hp]
        rcases createdFor_cases hcreated with hbefore | ⟨-, hnone, hafter⟩
        · exact h.own place' hbefore
        · rw [serve_get?_of_ne hworks hp] at hafter
          exact absurd hnone hafter
    · show (r.serve cfg alone.store).1.get? place' = none
      have hbefore : b.createdFor place' ≠ some scope :=
        fun hbefore => hcreated (createdFor_kept hb hbefore)
      by_cases hp : place' = place
      · subst hp
        -- the record would have been created for the scope now
        cases hafter : (r.serve cfg b.store).1.get? place' with
        | none => exact hrecord.symm.trans hafter
        | some record =>
          cases hnone : b.createdFor place' with
          | some owner =>
            have hscope := (hown place' owner hplace hread hnone).trans hr
            exact absurd (hnone.trans (congrArg some hscope)) hbefore
          | none =>
            refine absurd ?_ hcreated
            rw [createdFor_next, (hb place').1 hnone, hafter, hr]
            rfl
      · rw [serve_get?_of_ne hworks hp]
        exact h.others place' hbefore

theorem scope_alone (scope : OrderScope) (requests : List OrderRequest) {b alone : OrderBook}
    (hb : AllCreated b) (h : OnlyFor scope b alone)
    (hown : ∀ t ∈ (orderBookMachine cfg).trace b requests, OwnRecord cfg t.pre t.event) :
    (((orderBookMachine cfg).trace b requests).filter (·.event.scope == scope)).map (·.answer) =
        ((orderBookMachine cfg).trace alone (requests.filter (·.scope == scope))).map (·.answer) ∧
      OnlyFor scope ((orderBookMachine cfg).run b requests)
        ((orderBookMachine cfg).run alone (requests.filter (·.scope == scope))) := by
  induction requests generalizing b alone with
  | nil => exact ⟨rfl, h⟩
  | cons r requests ih =>
    rw [EventMachine.trace_cons, List.forall_mem_cons] at hown
    have hb' : AllCreated ((orderBookMachine cfg).next b r) := allCreated_next hb r
    by_cases hr : r.scope = scope
    · obtain ⟨hresult, hnext⟩ := h.same hb hr hown.1
      obtain ⟨hanswers, hrecords⟩ := ih hb' hnext hown.2
      rw [EventMachine.trace_cons, List.filter_cons_of_pos (by simpa using hr),
        List.filter_cons_of_pos (by simpa using hr), EventMachine.trace_cons, List.map_cons,
        List.map_cons]
      exact ⟨congrArg₂ List.cons hresult hanswers, hrecords⟩
    · obtain ⟨hanswers, hrecords⟩ := ih hb' (h.other hb hr hown.1) hown.2
      rw [EventMachine.trace_cons, List.filter_cons_of_neg (by simpa using hr),
        List.filter_cons_of_neg (by simpa using hr)]
      exact ⟨hanswers, hrecords⟩

/-- **A scope on its own**: in a run in which every call keeps to its own records, the calls of a
    scope return what they return when nobody else calls, and its records end the same. -/
theorem orders_alone (scope : OrderScope) (requests : List OrderRequest)
    (hown : ∀ t ∈ (orderBookMachine cfg).trace noOrderBook requests, OwnRecord cfg t.pre t.event) :
    (((orderBookMachine cfg).trace noOrderBook requests).filter (·.event.scope == scope)).map
    (·.answer) =
        ((orderBookMachine cfg).trace noOrderBook (requests.filter (·.scope == scope))).map
        (·.answer) ∧
      OnlyFor scope ((orderBookMachine cfg).run noOrderBook requests)
        ((orderBookMachine cfg).run noOrderBook (requests.filter (·.scope == scope))) :=
  scope_alone scope requests (fun _ => iff_of_true rfl rfl) ⟨fun _ h => (nomatch h), fun _ _ =>
    rfl⟩ hown

end Alone

/-- `OwnRecord`, decided. -/
def ownsRecord (b : OrderBook) (r : OrderRequest) : Bool :=
  match r.call.place? cfg with
  | none => true
  | some place => !(r.choices 0).answersRead place || (b.createdFor place).all (· == r.scope)

theorem ownRecord_of_ownsRecord {b : OrderBook} {r : OrderRequest} (h : ownsRecord cfg b r = true) :
    OwnRecord cfg b r := by
  intro place owner hplace hread hcreated
  rw [ownsRecord, hplace] at h
  simpa [hread, hcreated] using h

/-- Ada's company creates an order. -/
def adasOrder (orderId : String) : OrderRequest where
  scope := ("tenant-a", "acme")
  call := .create "" {
    customerName := "Ada"
    customerPhone := some "+2348000001"
    orderId := some orderId
    tenantId := some "tenant-a"
    companyId := some "acme" }

/-- Bola's company creates an order. -/
def bolasOrder (orderId : String) : OrderRequest where
  scope := ("tenant-b", "bravo")
  call := .create "" {
    customerName := "Bola"
    orderId := some orderId
    tenantId := some "tenant-b"
    companyId := some "bravo" }

theorem ownIds_isolated :
    ((orderBookMachine memoryShipping).trace noOrderBook [adasOrder "ord-1",
      bolasOrder "ord-2"]).length = 2 ∧
      ∀ t ∈ (orderBookMachine memoryShipping).trace noOrderBook [adasOrder "ord-1",
        bolasOrder "ord-2"], OrderIsolated memoryShipping t := by
  have hown : ((orderBookMachine memoryShipping).trace noOrderBook [adasOrder "ord-1",
    bolasOrder "ord-2"]).all
      (fun t => ownsRecord memoryShipping t.pre t.event) = true := by decide +kernel
  refine ⟨rfl, ?_⟩
  exact orders_isolated memoryShipping _ fun t ht =>
    ownRecord_of_ownsRecord memoryShipping (List.all_eq_true.1 hown t ht)

/-- Ada's company is answered as if Bola's had not called. -/
theorem orders_alone_ada :
    (((orderBookMachine memoryShipping).trace noOrderBook [adasOrder "ord-1",
        bolasOrder "ord-2"]).filter (·.event.scope == ("tenant-a", "acme"))).map (·.answer) =
      ((orderBookMachine memoryShipping).trace noOrderBook [adasOrder "ord-1"]).map (·.answer) := by
  have hown : ((orderBookMachine memoryShipping).trace noOrderBook [adasOrder "ord-1",
    bolasOrder "ord-2"]).all
      (fun t => ownsRecord memoryShipping t.pre t.event) = true := by decide +kernel
  exact (orders_alone ("tenant-a", "acme") [adasOrder "ord-1", bolasOrder "ord-2"] fun t ht =>
    ownRecord_of_ownsRecord memoryShipping (List.all_eq_true.1 hown t ht)).1

/-- Both bring the same order id: Ada's record is returned to Bola's company, and overwritten. -/
theorem sameId_leaks :
    ¬ ∀ (cfg : ShippingConfig) (requests : List OrderRequest),
      ∀ t ∈ (orderBookMachine cfg).trace noOrderBook requests, OrderIsolated cfg t := by
  intro h
  let adas : OrderBook := (orderBookMachine memoryShipping).next noOrderBook (adasOrder "ord-1")
  let tenantOf : Option Record → Option String := fun stored =>
    stored.map fun record => (Record.value record "tenant_id").coerceStr
  have hisolated := h memoryShipping [adasOrder "ord-1", bolasOrder "ord-1"]
    ((orderBookMachine memoryShipping).entry adas (bolasOrder "ord-1"))
    (List.mem_cons_of_mem _ (List.mem_singleton_self _))
  have hsame :=
    hisolated.unchanged (.memory "ord-1") ("tenant-a", "acme") (by decide +kernel) (by decide)
  have hbefore : tenantOf (adas.store.get? (.memory "ord-1")) = some "tenant-a" := by decide +kernel
  have hafter :
    tenantOf (((orderBookMachine memoryShipping).next adas (bolasOrder "ord-1")).store.get?
      (.memory "ord-1")) = some "tenant-b" := by decide +kernel
  have htenants := (congrArg tenantOf hsame).symm.trans hafter
  exact absurd (hbefore.symm.trans htenants) (by decide)

end Ekaette
