import Ekaette.Lib.EventMachine
import Ekaette.Tools.ScopedQueries

set_option autoImplicit false

/-! # Bookings

`app/tools/booking_tools.py`. `create_booking` runs as one transaction: it reads the slot, refuses
an unavailable one, writes the booking and closes the slot. `cancel_booking` is not a transaction:
it reads the booking, sets its status and re-opens the slot in three separate accesses, and other
calls run in between.

The invariant is `BookingSafe`: a slot has at most one confirmed booking, and a slot with one is
closed. Everything keeps it except a re-opening write that finds a confirmed booking on its slot. -/

namespace Ekaette

/-! ## create_booking -/

/-- The arguments of `create_booking`. -/
structure BookingRequest where
  slotId : String
  userId : String
  userName : String
  deviceName : String
  serviceType : String

/-- `{"error": message}`. -/
def errorAnswer (message : String) : Record := Dict.ofList [("error", .str message)]

/-- A non-empty string under `key` of the context's state. -/
def provenanceFromContext (key : String) (ctx : ToolContext) : Option String :=
  match ctx with
  | none => none
  | some state =>
    match state.value key with
    | .str value => if value = "" then none else some value
    | _ => none

variable (ctx : ToolContext)

/-- `booking_data_base`. -/
def bookingDataBase (req : BookingRequest) (confirmationId now : String) :
    Record :=
  let base : Record := Dict.ofList
    [ ("confirmation_id", .str confirmationId), ("slot_id", .str req.slotId),
      ("user_id", .str req.userId), ("user_name", .str req.userName),
      ("device_name", .str req.deviceName), ("service_type", .str req.serviceType),
      ("status", .str "confirmed"), ("created_at", .str now) ]
  let base := match provenanceFromContext "app:tenant_id" ctx with
    | some tenant => base.set "tenant_id" (.str tenant)
    | none => base
  match provenanceFromContext "app:company_id" ctx with
  | some company => base.set "company_id" (.str company)
  | none => base

/-- The booking document: the base data and the slot's date, time and location. -/
def bookingData (base slotData : Record) : Record :=
  ((base.set "date" (slotData.getD "date" (.str ""))).set "time"
    (slotData.getD "time" (.str ""))).set "location" (slotData.getD "location" (.str ""))

/-- What `_commit_booking_transaction` raises. -/
inductive BookingTxError where
  | slotNotFound
  | slotUnavailable

/-- `_commit_booking_transaction`. -/
def commitBookingTransaction (slotRef bookingRef : DocPath) (base : Record) (db : Firestore) :
    Except BookingTxError (Firestore × Record) :=
  match db.get? slotRef with
  | none => .error .slotNotFound
  | some slotData =>
    if (slotData.getD "available" (.bool false)).truthy then
      let data := bookingData base slotData
      .ok ((db.set bookingRef data).set slotRef
        (slotData.merge (Dict.ofList [("available", .bool false)])), data)
    else .error .slotUnavailable

/-- The answer to a refused transaction. -/
def BookingTxError.answer (slotId : String) : BookingTxError → Record
  | .slotNotFound => errorAnswer ("Slot '" ++ slotId ++ "' not found")
  | .slotUnavailable => errorAnswer ("Slot '" ++ slotId ++ "' is no longer available")

/-- `create_booking`, with the confirmation id and the time it draws. -/
def createBooking (req : BookingRequest) (confirmationId now : String)
    (access : Access) (db : Firestore) : Firestore × Record :=
  match scopedCollection ctx "booking_slots", scopedCollection ctx "bookings" with
  | some slotsCol, some bookingsCol =>
    let result := match commitBookingTransaction (slotsCol.document req.slotId)
        (bookingsCol.document confirmationId) (bookingDataBase ctx req confirmationId now) db with
      | .ok committed => committed
      | .error e => (db, e.answer req.slotId)
    access.perform db result (errorAnswer "Booking creation failed")
  | _, _ => (db, errorAnswer "Booking service unavailable")

/-! ## cancel_booking -/

/-- Where a `cancel_booking` call waits: before its status update, or before re-opening the slot. -/
inductive CancelPc where
  | setStatus (docRef : DocPath) (slotsCol : Option DocPath) (slotId : PyValue)
      (confirmationId : String)
  | reopenSlot (slotRef : DocPath) (confirmationId : String)

/-- A call either answers or waits for its next store access. -/
inductive CancelProgress where
  | answered (answer : Record)
  | waiting (pc : CancelPc)

def cancellationFailed : CancelProgress := .answered (errorAnswer "Booking cancellation failed")

/-- `{"confirmation_id": …, "status": "cancelled"}`. -/
def cancellationAnswer (confirmationId : String) : Record :=
  Dict.ofList [("confirmation_id", .str confirmationId), ("status", .str "cancelled")]

/-- The cross-company guard: both sides name a company and the names differ. -/
def otherCompany (booking : Record) : Bool :=
  match provenanceFromContext "app:company_id" ctx, booking.value "company_id" with
  | some caller, .str company => company ≠ "" && caller ≠ company
  | _, _ => false

/-- `cancel_booking` up to and including the read of the booking and the checks on it. -/
def cancelBookingRead (confirmationId userId : String) (access : Access)
    (db : Firestore) : CancelProgress :=
  match scopedCollection ctx "bookings" with
  | none => .answered (errorAnswer "Booking service unavailable")
  | some bookingsCol =>
    if access ≠ .served then cancellationFailed
    else match db.get? (bookingsCol.document confirmationId) with
      | none => .answered (errorAnswer ("Booking '" ++ confirmationId ++ "' not found"))
      | some booking =>
        if (booking.value "user_id").eqStr userId = false then
          .answered (errorAnswer "You can only cancel your own bookings")
        else if otherCompany ctx booking then
          .answered (errorAnswer "Cannot cancel bookings belonging to another company")
        else .waiting (.setStatus (bookingsCol.document confirmationId)
          (scopedCollection ctx "booking_slots") (booking.value "slot_id") confirmationId)

/-- What follows the status update: on to the slot when the booking names one. -/
def cancelBookingNext (slotsCol : Option DocPath) (slotId : PyValue) (confirmationId : String) :
    CancelProgress :=
  if slotId.truthy then
    match slotsCol, slotId with
    | some col, .str slot => .waiting (.reopenSlot (col.document slot) confirmationId)
    | some _, _ => cancellationFailed
    | none, _ => .answered (cancellationAnswer confirmationId)
  else .answered (cancellationAnswer confirmationId)

/-- One of the two writes of `cancel_booking`. -/
def cancelBookingWrite (pc : CancelPc) (access : Access) (db : Firestore) :
    Firestore × CancelProgress :=
  match pc with
  | .setStatus docRef slotsCol slotId confirmationId =>
    match db.update? docRef (Dict.ofList [("status", .str "cancelled")]) with
    | none => (db, cancellationFailed)
    | some db' =>
      access.perform db (db', cancelBookingNext slotsCol slotId confirmationId)
        cancellationFailed
  | .reopenSlot slotRef confirmationId =>
    match db.update? slotRef (Dict.ofList [("available", .bool true)]) with
    | none => (db, cancellationFailed)
    | some db' =>
      access.perform db (db', .answered (cancellationAnswer confirmationId)) cancellationFailed

/-! ## Interleavings -/

/-- The store and the cancellations in flight. -/
structure BookingState where
  db : Firestore
  cancels : Dict ℕ CancelPc

inductive BookingEvent where
  /-- A whole `create_booking` call (its transaction is one step). -/
  | create (ctx : ToolContext) (req : BookingRequest) (confirmationId now : String)
      (access : Access)
  /-- A `cancel_booking` call reads its booking. -/
  | cancel (call : ℕ) (ctx : ToolContext) (confirmationId userId : String) (access : Access)
  /-- A waiting `cancel_booking` call performs its next write. -/
  | resume (call : ℕ) (access : Access)

variable (s : BookingState)

/-- A call's progress: its answer, or the table with its new waiting point. -/
def BookingState.record (db : Firestore) (call : ℕ) :
    CancelProgress → BookingState × Option Record
  | .answered answer => (⟨db, s.cancels.erase call⟩, some answer)
  | .waiting pc => (⟨db, s.cancels.set call pc⟩, none)

/-- All clients' calls against one store, in any order. The answer is `none` for a step after which
    its call still runs. -/
def bookingMachine : EventMachine BookingState BookingEvent (Option Record) where
  step s
    | .create ctx req confirmationId now access =>
      let r := createBooking ctx req confirmationId now access s.db
      (⟨r.1, s.cancels⟩, some r.2)
    | .cancel call ctx confirmationId userId access =>
      s.record s.db call (cancelBookingRead ctx confirmationId userId access s.db)
    | .resume call access =>
      match s.cancels.get? call with
      | none => (s, none)
      | some pc =>
        let r := cancelBookingWrite pc access s.db
        s.record r.1 call r.2

/-! ## The invariant -/

/-- The document of a slot. -/
def slotPath (tenant company slotId : String) : DocPath :=
  (companyCollection tenant company "booking_slots").document slotId

/-- The document of a booking. -/
def bookingPath (tenant company confirmationId : String) : DocPath :=
  (companyCollection tenant company "bookings").document confirmationId

@[simp] theorem slotPath_inj {t c s t' c' s' : String} :
    slotPath t c s = slotPath t' c' s' ↔ t = t' ∧ c = c' ∧ s = s' := by
  simp [slotPath, companyCollection, DocPath.document]

@[simp] theorem bookingPath_inj {t c b t' c' b' : String} :
    bookingPath t c b = bookingPath t' c' b' ↔ t = t' ∧ c = c' ∧ b = b' := by
  simp [bookingPath, companyCollection, DocPath.document]

@[simp] theorem bookingPath_ne_slotPath (t c b t' c' s : String) :
    bookingPath t c b ≠ slotPath t' c' s := by
  simp [bookingPath, slotPath, companyCollection, DocPath.document]

@[simp] theorem slotPath_ne_bookingPath (t c b t' c' s : String) :
    slotPath t' c' s ≠ bookingPath t c b :=
  (bookingPath_ne_slotPath t c b t' c' s).symm

/-- The record is a confirmed booking of the slot. -/
def confirmsSlot (slotId : String) (booking : Record) : Bool :=
  (booking.value "status").eqStr "confirmed" && (booking.value "slot_id").eqStr slotId

/-- Booking `b` of the company is confirmed for the slot. -/
def ConfirmedOn (db : Firestore) (tenant company slotId b : String) : Prop :=
  (db.get? (bookingPath tenant company b)).any (confirmsSlot slotId) = true

instance (db : Firestore) (tenant company slotId b : String) :
    Decidable (ConfirmedOn db tenant company slotId b) :=
  inferInstanceAs (Decidable (_ = true))

/-- The slot exists and its `available` is `False`. -/
def SlotClosed (db : Firestore) (tenant company slotId : String) : Prop :=
  ∃ slot, db.get? (slotPath tenant company slotId) = some slot ∧
    slot.get? "available" = some (.bool false)

/-- **Booking safety**: at most one confirmed booking a slot, and a slot with one is closed. -/
structure BookingSafe (db : Firestore) : Prop where
  unique : ∀ t c slotId b b', ConfirmedOn db t c slotId b → ConfirmedOn db t c slotId b' → b = b'
  closed : ∀ t c slotId b, ConfirmedOn db t c slotId b → SlotClosed db t c slotId

/-- No booking is confirmed for the slot at this path. -/
def NoConfirmedBooking (db : Firestore) (slotRef : DocPath) : Prop :=
  ∀ t c slotId b, slotRef = slotPath t c slotId → ¬ ConfirmedOn db t c slotId b

/-! ## What the calls do to the store -/

theorem scopedCollection_both {ctx : ToolContext} {slotsCol bookingsCol : DocPath}
    (hs : scopedCollection ctx "booking_slots" = some slotsCol)
    (hb : scopedCollection ctx "bookings" = some bookingsCol) :
    ∃ t c, (∀ slotId, slotsCol.document slotId = slotPath t c slotId) ∧
      ∀ b, bookingsCol.document b = bookingPath t c b := by
  obtain ⟨t, c, ht, hc, rfl⟩ := scopedCollection_eq_some hs
  obtain ⟨t', c', ht', hc', rfl⟩ := scopedCollection_eq_some hb
  rw [ht, Option.some.injEq] at ht'
  rw [hc, Option.some.injEq] at hc'
  subst ht' hc'
  exact ⟨t, c, fun _ => rfl, fun _ => rfl⟩

theorem confirmsSlot_bookingData (req : BookingRequest)
    (confirmationId now : String) (slot : Record) (slotId : String) :
    confirmsSlot slotId (bookingData (bookingDataBase ctx req confirmationId now) slot)
      = decide (slotId = req.slotId) := by
  have hstatus : (bookingDataBase ctx req confirmationId now).get? "status"
      = some (.str "confirmed") := by
    unfold bookingDataBase
    cases provenanceFromContext "app:tenant_id" ctx <;>
      cases provenanceFromContext "app:company_id" ctx <;> simp [Dict.ofList]
  have hslot : (bookingDataBase ctx req confirmationId now).get? "slot_id"
      = some (.str req.slotId) := by
    unfold bookingDataBase
    cases provenanceFromContext "app:tenant_id" ctx <;>
      cases provenanceFromContext "app:company_id" ctx <;> simp [Dict.ofList]
  by_cases h : slotId = req.slotId
  · simp [confirmsSlot, bookingData, Record.value, hstatus, hslot, PyValue.eqStr, h]
  · simp [confirmsSlot, bookingData, Record.value, hstatus, hslot, PyValue.eqStr, h, Ne.symm h]

/-- **What `create_booking` does**: nothing, or it found the slot open, wrote a booking confirmed
    for it and closed it. -/
theorem createBooking_cases (req : BookingRequest)
    (confirmationId now : String) (access : Access) (db : Firestore) :
    (createBooking ctx req confirmationId now access db).1 = db ∨
    ∃ t c slot data, db.get? (slotPath t c req.slotId) = some slot ∧
      (slot.getD "available" (.bool false)).truthy = true ∧
      (∀ slotId, confirmsSlot slotId data = decide (slotId = req.slotId)) ∧
      (createBooking ctx req confirmationId now access db).1
        = (db.set (bookingPath t c confirmationId) data).set (slotPath t c req.slotId)
            (slot.merge (Dict.ofList [("available", .bool false)])) := by
  unfold createBooking
  split
  · next slotsCol bookingsCol hs hb =>
      obtain ⟨t, c, hslots, hbookings⟩ := scopedCollection_both hs hb
      simp only [hslots, hbookings, Access.perform_fst, commitBookingTransaction]
      cases hslot : db.get? (slotPath t c req.slotId) with
      | none => exact .inl (by simp)
      | some slot =>
        by_cases havail : (slot.getD "available" (.bool false)).truthy = true
        · by_cases haccess : access = .refused
          · exact .inl (by simp [haccess])
          · refine .inr ⟨t, c, slot, _, hslot, havail,
              confirmsSlot_bookingData ctx req confirmationId now slot, ?_⟩
            simp [haccess, havail]
        · exact .inl (by simp [havail])
  · exact .inl rfl

/-- The document a waiting call writes next. -/
def CancelPc.ref : CancelPc → DocPath
  | .setStatus docRef _ _ _ => docRef
  | .reopenSlot slotRef _ => slotRef

/-- The field a waiting call writes next. -/
def CancelPc.field : CancelPc → String × PyValue
  | .setStatus .. => ("status", .str "cancelled")
  | .reopenSlot .. => ("available", .bool true)

/-- **What a write of `cancel_booking` does**: it merges its one field into its document, unless the
    write is refused or the document does not exist. -/
theorem cancelBookingWrite_db (pc : CancelPc) (access : Access) (db : Firestore) :
    (cancelBookingWrite pc access db).1 =
      match db.get? pc.ref with
      | none => db
      | some doc =>
        if access = .refused then db
        else db.set pc.ref (doc.merge (Dict.ofList [pc.field])) := by
  cases pc with
  | setStatus docRef slotsCol slotId confirmationId =>
    simp only [cancelBookingWrite, Firestore.update?, CancelPc.ref, CancelPc.field]
    cases db.get? docRef with
    | none => rfl
    | some doc => exact Access.perform_fst ..
  | reopenSlot slotRef confirmationId =>
    simp only [cancelBookingWrite, Firestore.update?, CancelPc.ref, CancelPc.field]
    cases db.get? slotRef with
    | none => rfl
    | some doc => exact Access.perform_fst ..

theorem BookingState.record_db (db : Firestore) (call : ℕ)
    (progress : CancelProgress) : (s.record db call progress).1.db = db := by
  cases progress <;> rfl

/-! ## Keeping the invariant -/

theorem BookingSafe.mono {db db' : Firestore} (h : BookingSafe db)
    (hconf : ∀ t c slotId b, ConfirmedOn db' t c slotId b → ConfirmedOn db t c slotId b)
    (hclosed : ∀ t c slotId b, ConfirmedOn db t c slotId b → SlotClosed db t c slotId →
      SlotClosed db' t c slotId) : BookingSafe db' where
  unique t c slotId b b' hb hb' := h.unique t c slotId b b' (hconf _ _ _ _ hb) (hconf _ _ _ _ hb')
  closed t c slotId b hb :=
    hclosed t c slotId b (hconf _ _ _ _ hb) (h.closed t c slotId b (hconf _ _ _ _ hb))

theorem confirmsSlot_merge_other {slotId key : String} {v : PyValue} (doc : Record)
    (hstatus : key ≠ "status") (hslot : key ≠ "slot_id") :
    confirmsSlot slotId (doc.merge (Dict.ofList [(key, v)])) = confirmsSlot slotId doc := by
  simp [confirmsSlot, Record.value, Dict.ofList, hstatus.symm, hslot.symm]

theorem confirmsSlot_merge_cancelled (slotId : String) (doc : Record) :
    confirmsSlot slotId (doc.merge (Dict.ofList [("status", .str "cancelled")])) = false := by
  simp [confirmsSlot, Record.value, Dict.ofList, PyValue.eqStr]

variable {db : Firestore}

/-- Setting a document's status to cancelled keeps safety, whichever document it is. -/
theorem BookingSafe.setCancelled (h : BookingSafe db) {ref : DocPath}
    {doc : Record} (hdoc : db.get? ref = some doc) :
    BookingSafe (db.set ref (doc.merge (Dict.ofList [("status", .str "cancelled")]))) := by
  refine h.mono (fun t c slotId b hb => ?_) (fun t c slotId b _ hslot => ?_)
  · by_cases href : bookingPath t c b = ref
    · simp [ConfirmedOn, href, confirmsSlot_merge_cancelled] at hb
    · simpa [ConfirmedOn, href] using hb
  · obtain ⟨slot, hslot, havail⟩ := hslot
    by_cases href : slotPath t c slotId = ref
    · rw [href, hdoc, Option.some.injEq] at hslot
      subst hslot
      exact ⟨_, by rw [href]; exact Dict.get?_set_self .., by simp [Dict.ofList, havail]⟩
    · exact ⟨slot, by simp [href, hslot], havail⟩

/-- Re-opening a slot keeps safety exactly if no confirmed booking is on it. -/
theorem bookingSafe_reopen_iff (h : BookingSafe db) {ref : DocPath}
    {doc : Record} (hdoc : db.get? ref = some doc) :
    BookingSafe (db.set ref (doc.merge (Dict.ofList [("available", .bool true)]))) ↔
      NoConfirmedBooking db ref := by
  have hconf : ∀ t c slotId b,
      ConfirmedOn (db.set ref (doc.merge (Dict.ofList [("available", .bool true)]))) t c slotId b ↔
        ConfirmedOn db t c slotId b := by
    intro t c slotId b
    by_cases href : bookingPath t c b = ref
    · subst href
      simp [ConfirmedOn, hdoc, confirmsSlot_merge_other]
    · simp [ConfirmedOn, href]
  constructor
  · rintro hsafe t c slotId b rfl hb
    obtain ⟨slot, hslot, havail⟩ := hsafe.closed t c slotId b ((hconf t c slotId b).2 hb)
    rw [Dict.get?_set_self, Option.some.injEq] at hslot
    subst hslot
    simp [Dict.ofList] at havail
  · intro hno
    refine h.mono (fun t c slotId b => (hconf t c slotId b).1) (fun t c slotId b hb hslot => ?_)
    have href : slotPath t c slotId ≠ ref := fun heq => hno t c slotId b heq.symm hb
    obtain ⟨slot, hslot, havail⟩ := hslot
    exact ⟨slot, by simp [href, hslot], havail⟩

/-- The transaction of `create_booking` keeps safety: an open slot has no confirmed booking. -/
theorem BookingSafe.book (h : BookingSafe db) {t c slotId b : String}
    {slot data : Record} (hslot : db.get? (slotPath t c slotId) = some slot)
    (havail : (slot.getD "available" (.bool false)).truthy = true)
    (hdata : ∀ slotId', confirmsSlot slotId' data = decide (slotId' = slotId)) :
    BookingSafe ((db.set (bookingPath t c b) data).set (slotPath t c slotId)
      (slot.merge (Dict.ofList [("available", .bool false)]))) := by
  -- the slot was open, so nothing was confirmed for it
  have hfree : ∀ b', ¬ ConfirmedOn db t c slotId b' := by
    intro b' hb'
    obtain ⟨slot', hslot', hclosed⟩ := h.closed t c slotId b' hb'
    rw [hslot, Option.some.injEq] at hslot'
    subst hslot'
    simp [Dict.getD, hclosed] at havail
  have hconf : ∀ t' c' slotId' b', ConfirmedOn ((db.set (bookingPath t c b) data).set
      (slotPath t c slotId) (slot.merge (Dict.ofList [("available", .bool false)])))
      t' c' slotId' b' →
      (t' = t ∧ c' = c ∧ slotId' = slotId ∧ b' = b) ∨ ConfirmedOn db t' c' slotId' b' := by
    intro t' c' slotId' b' hb
    by_cases hpath : t' = t ∧ c' = c ∧ b' = b
    · obtain ⟨rfl, rfl, rfl⟩ := hpath
      exact .inl (by simpa [ConfirmedOn, hdata] using hb)
    · exact .inr (by simpa [ConfirmedOn, hpath] using hb)
  constructor
  · intro t' c' slotId' b₁ b₂ h₁ h₂
    rcases hconf _ _ _ _ h₁ with ⟨rfl, rfl, rfl, rfl⟩ | hold₁
    · rcases hconf _ _ _ _ h₂ with ⟨-, -, -, rfl⟩ | hold₂
      · rfl
      · exact absurd hold₂ (hfree b₂)
    · rcases hconf _ _ _ _ h₂ with ⟨rfl, rfl, rfl, rfl⟩ | hold₂
      · exact absurd hold₁ (hfree b₁)
      · exact h.unique t' c' slotId' b₁ b₂ hold₁ hold₂
  · intro t' c' slotId' b' hb
    by_cases hpath : t' = t ∧ c' = c ∧ slotId' = slotId
    · obtain ⟨rfl, rfl, rfl⟩ := hpath
      exact ⟨_, Dict.get?_set_self .., by simp [Dict.ofList]⟩
    · rcases hconf _ _ _ _ hb with ⟨rfl, rfl, rfl, rfl⟩ | hb
      · exact absurd ⟨rfl, rfl, rfl⟩ hpath
      · obtain ⟨slot', hslot', hclosed⟩ := h.closed t' c' slotId' b' hb
        exact ⟨slot', by simpa [hpath] using hslot', hclosed⟩

/-! ## Booking safety along runs -/

/-- The event is not a re-opening write that meets a confirmed booking on its slot. -/
def ReopensFreeSlot : BookingEvent → Prop
  | .resume call access =>
    match s.cancels.get? call with
    | some (.reopenSlot slotRef _) => access = .refused ∨ NoConfirmedBooking s.db slotRef
    | _ => True
  | _ => True

theorem BookingSafe.noConfirmedBooking (h : BookingSafe db) {ref : DocPath}
    (hnone : db.get? ref = none) : NoConfirmedBooking db ref := by
  rintro t c slotId b rfl hb
  obtain ⟨slot, hslot, -⟩ := h.closed t c slotId b hb
  simp [hnone] at hslot

/-- **One write of `cancel_booking`** keeps booking safety exactly if it is refused, sets a status,
    or re-opens a slot without a confirmed booking. -/
theorem bookingSafe_cancelBookingWrite_iff (h : BookingSafe db) (pc : CancelPc) (access : Access) :
    BookingSafe (cancelBookingWrite pc access db).1 ↔
      match pc with
      | .setStatus .. => True
      | .reopenSlot slotRef _ => access = .refused ∨ NoConfirmedBooking db slotRef := by
  rw [cancelBookingWrite_db]
  cases hdoc : db.get? pc.ref with
  | none =>
    cases pc with
    | setStatus docRef slotsCol slotId confirmationId => exact iff_true_intro h
    | reopenSlot slotRef confirmationId =>
      exact iff_of_true h (.inr (h.noConfirmedBooking hdoc))
  | some doc =>
    by_cases haccess : access = .refused
    · cases pc <;> simp [haccess, h]
    · simp only [haccess, if_false, false_or]
      cases pc with
      | setStatus docRef slotsCol slotId confirmationId =>
        exact iff_true_intro (h.setCancelled hdoc)
      | reopenSlot slotRef confirmationId => exact bookingSafe_reopen_iff h hdoc

/-- **One step** keeps booking safety exactly if it does not re-open a booked slot. -/
theorem bookingSafe_next_iff (e : BookingEvent) (h : BookingSafe s.db) :
    BookingSafe (bookingMachine.next s e).db ↔ ReopensFreeSlot s e := by
  cases e with
  | create ctx req confirmationId now access =>
    refine iff_true_intro ?_
    change BookingSafe (createBooking ctx req confirmationId now access s.db).1
    rcases createBooking_cases ctx req confirmationId now access s.db with
      heq | ⟨t, c, slot, data, hslot, havail, hdata, heq⟩
    · rw [heq]; exact h
    · rw [heq]; exact h.book hslot havail hdata
  | cancel call ctx confirmationId userId access =>
    simp only [ReopensFreeSlot, iff_true, EventMachine.next, bookingMachine,
      BookingState.record_db]
    exact h
  | resume call access =>
    simp only [EventMachine.next, bookingMachine, ReopensFreeSlot]
    cases s.cancels.get? call with
    | none => simpa using h
    | some pc =>
      simp only [BookingState.record_db]
      rw [bookingSafe_cancelBookingWrite_iff h]
      cases pc <;> rfl

/-- **Booking safety of interleavings.** From a safe store, every state of a run is safe exactly if
    no re-opening write of a cancellation meets a confirmed booking on its slot. -/
theorem bookingSafe_always_iff (h : BookingSafe s.db) (es : List BookingEvent) :
    bookingMachine.Always (fun s => BookingSafe s.db) s es ↔
      ∀ t ∈ bookingMachine.trace s es, ReopensFreeSlot t.pre t.event :=
  bookingMachine.always_iff_guarded bookingSafe_next_iff h es

/-! ## Cancelling twice around a rebooking -/

/-- The tool context of a session of the shop. -/
def shopContext : ToolContext :=
  some (Dict.ofList [("app:tenant_id", .str "public"), ("app:company_id", .str "acme")])

/-- One open slot, no bookings, no calls in flight. -/
def oneOpenSlot : BookingState where
  db := Dict.ofList [(slotPath "public" "acme" "s1", Dict.ofList [("available", .bool true)])]
  cancels := .empty

/-- A store no record of which has the status `confirmed` confirms no slot. -/
theorem not_confirmedOn_of_entries
    (h : db.entries.all (fun e => !(e.2.value "status").eqStr "confirmed") = true)
    (t c slotId b : String) : ¬ ConfirmedOn db t c slotId b := by
  intro hb
  obtain ⟨booking, hbooking, hconf⟩ := (Option.any_eq_true _ _).1 hb
  have hmem := (db.get?_eq_some_iff _ _).1 hbooking
  have hstatus := List.all_eq_true.1 h _ hmem
  simp only [confirmsSlot, Bool.and_eq_true] at hconf
  simp [hconf.1] at hstatus

theorem oneOpenSlot_safe : BookingSafe oneOpenSlot.db := by
  have hnone : ∀ t c slotId b, ¬ ConfirmedOn oneOpenSlot.db t c slotId b :=
    not_confirmedOn_of_entries (by decide)
  exact ⟨fun t c slotId b _ hb => absurd hb (hnone t c slotId b),
    fun t c slotId b hb => absurd hb (hnone t c slotId b)⟩

/-- `user` books the slot `s1`. -/
def bookSlot (user confirmationId : String) : BookingEvent :=
  .create shopContext ⟨"s1", user, user, "phone", "pickup"⟩ confirmationId "2026-01-01" .served

/-- Ada books and cancels, Bo books the re-opened slot, Ada cancels her old booking again, and Chi
    books the slot that this re-opened. -/
def cancelTwiceRun : List BookingEvent :=
  [ bookSlot "ada" "b1",
    .cancel 0 shopContext "b1" "ada" .served, .resume 0 .served, .resume 0 .served,
    bookSlot "bo" "b2",
    .cancel 1 shopContext "b1" "ada" .served, .resume 1 .served, .resume 1 .served,
    bookSlot "chi" "b3" ]

/-- The second cancellation re-opens a slot that has been rebooked; it is then booked twice. -/
theorem cancelTwiceRun_not_safe :
    BookingSafe oneOpenSlot.db ∧
      ¬ bookingMachine.Always (fun s => BookingSafe s.db) oneOpenSlot cancelTwiceRun := by
  refine ⟨oneOpenSlot_safe, fun h => ?_⟩
  have hb2 : ConfirmedOn (bookingMachine.run oneOpenSlot cancelTwiceRun).db "public" "acme" "s1"
      "b2" := by decide
  have hb3 : ConfirmedOn (bookingMachine.run oneOpenSlot cancelTwiceRun).db "public" "acme" "s1"
      "b3" := by decide
  exact absurd (h.run.unique _ _ _ _ _ hb2 hb3) (by decide)

/-- One booking and its cancellation re-open only a slot without a confirmed booking. -/
theorem bookingSafe_always_bookAndCancel :
    bookingMachine.Always (fun s => BookingSafe s.db) oneOpenSlot (cancelTwiceRun.take 4) := by
  refine (bookingSafe_always_iff oneOpenSlot oneOpenSlot_safe _).2 ?_
  have hlast : NoConfirmedBooking (bookingMachine.run oneOpenSlot (cancelTwiceRun.take 3)).db
      (slotPath "public" "acme" "s1") :=
    fun t c slotId b _ => not_confirmedOn_of_entries (by decide) t c slotId b
  intro t ht
  simp only [cancelTwiceRun, List.take_succ_cons, List.take_zero, EventMachine.trace_cons,
    EventMachine.trace_nil, List.mem_cons, List.not_mem_nil, or_false] at ht
  rcases ht with rfl | rfl | rfl | rfl
  · exact trivial
  · exact trivial
  · exact trivial
  · exact .inr hlast

end Ekaette
