import Ekaette.Configs.RegistrySchema
import Ekaette.Firestore
import Ekaette.Lib.Batches
import Ekaette.Lib.PyEquality

set_option autoImplicit false

/-! # Importing runtime documents

Products and booking slots are imported from a list. Every item is compared with the store as it was
before the import, and what differs is written afterwards in batches. So items with one id know
nothing of each other: the last one may be the same as the old document and not be written, while an
earlier one is. -/

namespace Ekaette

/-! ## The import -/

inductive ImportError where
  | storageUnavailable
  | invalidPath
  deriving DecidableEq

/-- `collection.document(id)`: slashes in the id separate parts of the path, and a path with an odd
    number of parts names no document. -/
def documentRef (col : DocPath) (id : String) : Except ImportError DocPath :=
  let path := col ++ PyStr.split '/' id
  if path.length % 2 = 0 then .ok path else .error .invalidPath

structure ImportOperations where
  created : ℕ
  updated : ℕ
  unchanged : ℕ
  failed : ℕ
  deriving DecidableEq

structure ImportReport where
  written : ℕ
  operations : ImportOperations
  errors : List String
  deriving DecidableEq

/-- What an import is given besides the store and the items. -/
structure ImportJob where
  py : StrMethods
  collection : DocPath
  dataTier : String
  validator : Record → List String

variable (job : ImportJob)

/-- What the checks make of an item: an error, or the id and the document. -/
def checkItem (item : PyValue) : Except String (String × Record) :=
  match item with
  | .dict es =>
    let given : Record := Dict.ofList es
    let entryId := PyStr.strip (((given.get? "id").getD (.str "")).toStr job.py)
    if entryId = "" then .error "entry: missing required field 'id'"
    else
      let normalized := given.setDefault "data_tier" (.str job.dataTier)
      let errors := job.validator normalized
      if errors = [] then .ok (entryId, normalized)
      else .error ("entry '" ++ entryId ++ "': " ++ "; ".intercalate errors)
  | _ => .error "entry: item must be an object"

/-- `existing_data == normalized`; a document that does not exist has no data. -/
def sameDoc (existing : Option Record) (normalized : Record) : Bool :=
  PyValue.pyEq (.dict (existing.getD .empty).entries) (.dict normalized.entries)

/-- What the loop has collected. -/
structure ImportProgress where
  operations : ImportOperations
  errors : List String
  docPayloads : List (DocPath × Record)

/-- The body of the loop; `db` is the store before the import. -/
def importItem (db : Firestore) (p : ImportProgress) (item : PyValue) :
    Except ImportError ImportProgress :=
  match checkItem job item with
  | .error e =>
    .ok { p with operations := { p.operations with
      failed := p.operations.failed + 1 }, errors := p.errors ++ [e] }
  | .ok (entryId, normalized) => do
      let docRef ← documentRef job.collection entryId
      if sameDoc (db.get? docRef) normalized then
        return { p with
          operations := { p.operations with unchanged := p.operations.unchanged + 1 } }
      let operations :=
        if (db.get? docRef).isSome then { p.operations with updated := p.operations.updated + 1 }
        else { p.operations with created := p.operations.created + 1 }
      return { p with
        operations := operations, docPayloads := p.docPayloads ++ [(docRef, normalized)] }

/-- The loop. -/
def importItems (job : ImportJob) (db : Firestore) :
    ImportProgress → List PyValue → Except ImportError ImportProgress
  | p, [] => .ok p
  | p, item :: items => do
      let p ← importItem job db p item
      importItems job db p items

/-- `_batch_set_documents`, without merging. -/
def batchSetDocuments (db : Firestore) (docPayloads : List (DocPath × Record)) : Firestore :=
  docPayloads.foldl (fun db e => db.set e.1 e.2) db

/-- `_import_company_runtime_docs`: the store it leaves, and its answer. -/
def importCompanyRuntimeDocs (storage : Option Firestore) (items : List PyValue) :
    Option Firestore × Except ImportError ImportReport :=
  match storage with
  | none => (none, .error .storageUnavailable)
  | some db =>
    match importItems job db ⟨⟨0, 0, 0, 0⟩, [], []⟩ items with
    | .error e => (some db, .error e)
    | .ok p =>
      (some ((Batches.slices 500 p.docPayloads).foldl batchSetDocuments db),
        .ok ⟨p.docPayloads.length, p.operations, p.errors⟩)

/-- A collection of a company. -/
def companyDocs (tenantId companyId collectionName : String) : DocPath :=
  ["tenants", tenantId, "companies", companyId, collectionName]

/-- `_import_company_products`. -/
def importCompanyProducts (py : StrMethods) (tenantId companyId dataTier : String)
    (storage : Option Firestore) (products : List PyValue) :
    Option Firestore × Except ImportError ImportReport :=
  importCompanyRuntimeDocs ⟨py, companyDocs tenantId companyId "products", dataTier,
    validateProduct⟩ storage products

/-- `_import_company_booking_slots`. -/
def importCompanyBookingSlots (py : StrMethods) (tenantId companyId dataTier : String)
    (storage : Option Firestore) (slots : List PyValue) :
    Option Firestore × Except ImportError ImportReport :=
  importCompanyRuntimeDocs ⟨py, companyDocs tenantId companyId "booking_slots", dataTier,
    validateBookingSlot py⟩ storage slots

/-! ## The valid items -/

/-- The valid items, with their ids. -/
def validItems (items : List PyValue) : List (String × Record) :=
  items.filterMap (fun item => (checkItem job item).toOption)

/-- The path that an id stands for. -/
def refOf (id : String) : DocPath := job.collection ++ PyStr.split '/' id

/-- The id stands for a document. -/
def NamesDocument (id : String) : Prop := (refOf job id).length % 2 = 0

instance (job : ImportJob) (id : String) : Decidable (NamesDocument job id) :=
  inferInstanceAs (Decidable (_ = _))

/-- What is to be written: the valid items that differ from the store. -/
def docPayloadsOf (db : Firestore) (items : List PyValue) :
    List (DocPath × Record) :=
  ((validItems job items).filter (fun e => !sameDoc (db.get? (refOf job e.1)) e.2)).map
    (fun e => (refOf job e.1, e.2))

/-- How many of the valid items are the same in the store. -/
def unchangedCount (db : Firestore) (items : List PyValue) : ℕ :=
  (validItems job items).countP (fun e => sameDoc (db.get? (refOf job e.1)) e.2)

theorem documentRef_eq (id : String) :
    documentRef job.collection id = if NamesDocument job id then .ok (refOf job id) else .error
    .invalidPath := rfl

theorem refOf_injective : Function.Injective (refOf job) := by
  intro a b h
  have hsplit : PyStr.split '/' a = PyStr.split '/' b := List.append_cancel_left h
  rw [PyStr.split, PyStr.split] at hsplit
  have hparts := List.map_injective_iff.2 (fun _ _ h => String.ofList_injective h) hsplit
  have hjoined := congrArg (['/'].intercalate) hparts
  rw [List.intercalate_splitOn, List.intercalate_splitOn] at hjoined
  exact String.toList_injective hjoined

theorem ne_nil_of_valid {job : ImportJob} {items : List PyValue} {e : String × Record}
    (h : e ∈ validItems job items) : e.2.entries ≠ [] := by
  obtain ⟨item, -, hcheck⟩ := List.mem_filterMap.1 h
  cases item with
  | dict es =>
    rw [checkItem] at hcheck
    dsimp only at hcheck
    split_ifs at hcheck
    · cases hcheck
    · rw [← Option.some.inj hcheck]
      intro hnil
      have htier :=
        Dict.get?_setDefault (Dict.ofList es : Record) "data_tier" "data_tier" (.str job.dataTier)
      rw [if_pos rfl, Dict.get?, hnil] at htier
      cases htier
    · cases hcheck
  | _ => cases hcheck

theorem exists_of_sameDoc {existing : Option Record} {doc : Record} (hdoc : doc.entries ≠ [])
    (h : sameDoc existing doc = true) : ∃ stored, existing = some stored := by
  cases existing with
  | some stored => exact ⟨stored, rfl⟩
  | none =>
    have hlength := PyValue.pyEq_dict_length h
    exact absurd (List.eq_nil_of_length_eq_zero hlength.symm) hdoc

/-! ## The loop -/

section Loop

variable {job : ImportJob} (db : Firestore)

theorem validItems_singleton (job : ImportJob) (item : PyValue) :
    validItems job [item] = (checkItem job item).toOption.toList := by
  rw [validItems, List.filterMap_cons]
  cases checkItem job item <;> rfl

theorem validItems_cons (job : ImportJob) (item : PyValue) (items : List PyValue) :
    validItems job (item :: items) = validItems job [item] ++ validItems job items :=
  List.filterMap_append (l := [item])

/-- What the loop adds to what it has collected. -/
structure Collects (job : ImportJob) (db : Firestore) (items : List PyValue)
    (p q : ImportProgress) : Prop where
  docPayloads : q.docPayloads = p.docPayloads ++ docPayloadsOf job db items
  written : q.operations.created + q.operations.updated =
    p.operations.created + p.operations.updated + (docPayloadsOf job db items).length
  unchanged : q.operations.unchanged = p.operations.unchanged + unchangedCount job db items
  failed : q.operations.failed + (validItems job items).length = p.operations.failed + items.length

theorem docPayloadsOf_cons (job : ImportJob) (db : Firestore) (item : PyValue)
    (items : List PyValue) : docPayloadsOf job db (item :: items) = docPayloadsOf job db [item] ++
    docPayloadsOf job db items := by
  rw [docPayloadsOf, validItems_cons, List.filter_append, List.map_append]
  rfl

theorem unchangedCount_cons (job : ImportJob) (db : Firestore) (item : PyValue)
    (items : List PyValue) : unchangedCount job db (item :: items) = unchangedCount job db [item] +
    unchangedCount job db items := by
  rw [unchangedCount, validItems_cons, List.countP_append]
  rfl

/-- **One item.** -/
theorem importItem_collects (p : ImportProgress) (item : PyValue)
    (h : ∀ e ∈ validItems job [item], NamesDocument job e.1) :
    ∃ q, importItem job db p item = .ok q ∧ Collects job db [item] p q := by
  have hvalid := validItems_singleton job item
  rw [hvalid] at h
  rw [importItem]
  cases hcheck : checkItem job item with
  | error e =>
    rw [hcheck] at hvalid
    refine ⟨_, rfl, ⟨?_, ?_, ?_, ?_⟩⟩
    · rw [docPayloadsOf, hvalid]
      exact (List.append_nil _).symm
    · rw [docPayloadsOf, hvalid]
      rfl
    · rw [unchangedCount, hvalid]
      rfl
    · rw [hvalid]
      rfl
  | ok e =>
    obtain ⟨entryId, doc⟩ := e
    rw [hcheck] at hvalid h
    have href : documentRef job.collection entryId = .ok (refOf job entryId) := by
      rw [documentRef_eq, if_pos (h (entryId, doc) List.mem_cons_self)]
    have hpayloads : docPayloadsOf job db [item] =
        if sameDoc (db.get? (refOf job entryId)) doc = true then []
        else [(refOf job entryId, doc)] := by
      rw [docPayloadsOf, hvalid]
      cases hsame : sameDoc (db.get? (refOf job entryId)) doc with
      | true => simp [Except.toOption, hsame]
      | false => simp [Except.toOption, hsame]
    have hunchanged : unchangedCount job db [item] =
        if sameDoc (db.get? (refOf job entryId)) doc = true then 1 else 0 := by
      rw [unchangedCount, hvalid]
      cases hsame : sameDoc (db.get? (refOf job entryId)) doc with
      | true => simp [Except.toOption, hsame]
      | false => simp [Except.toOption, hsame]
    dsimp only
    rw [href]
    simp only [bind, Except.bind, pure, Except.pure]
    by_cases hsame : sameDoc (db.get? (refOf job entryId)) doc = true
    · rw [if_pos hsame]
      rw [if_pos hsame] at hpayloads hunchanged
      refine ⟨_, rfl, ⟨?_, ?_, ?_, ?_⟩⟩
      · rw [hpayloads, List.append_nil]
      · rw [hpayloads]
        rfl
      · rw [hunchanged]
      · rw [hvalid]
        rfl
    · rw [if_neg hsame]
      rw [if_neg hsame] at hpayloads hunchanged
      refine ⟨_, rfl, ⟨?_, ?_, ?_, ?_⟩⟩
      · rw [hpayloads]
      · rw [hpayloads]
        dsimp only
        split_ifs
        · show p.operations.created + (p.operations.updated + 1) = p.operations.created +
            p.operations.updated + 1
          omega
        · show p.operations.created + 1 + p.operations.updated = p.operations.created +
            p.operations.updated + 1
          omega
      · rw [hunchanged]
        dsimp only
        split_ifs <;> rfl
      · rw [hvalid]
        dsimp only
        split_ifs <;> rfl

theorem importItem_error {p : ImportProgress} {item : PyValue} {e : String × Record}
    (he : e ∈ validItems job [item]) (h : ¬ NamesDocument job e.1) :
    importItem job db p item = .error .invalidPath := by
  rw [validItems_singleton] at he
  rw [importItem]
  cases hcheck : checkItem job item with
  | error text =>
    rw [hcheck] at he
    cases he
  | ok e' =>
    rw [hcheck] at he
    have heq : e = e' := List.mem_singleton.1 he
    subst heq
    dsimp only
    rw [documentRef_eq, if_neg h]
    rfl

/-- **All items**, when the ids name documents. -/
theorem importItems_collects (items : List PyValue)
    (h : ∀ e ∈ validItems job items, NamesDocument job e.1)
    (p : ImportProgress) : ∃ q, importItems job db p items = .ok q ∧ Collects job db items p q := by
  induction items generalizing p with
  | nil => exact ⟨p, rfl, ⟨(List.append_nil _).symm, rfl, rfl, rfl⟩⟩
  | cons item items ih =>
    have hmem : ∀ e, e ∈ validItems job [item] ∨ e ∈ validItems job items →
        e ∈ validItems job (item :: items) := by
      intro e he
      rw [validItems_cons, List.mem_append]
      exact he
    obtain ⟨q, hq, hfirst⟩ := importItem_collects db p item (fun e he => h e (hmem e (.inl he)))
    obtain ⟨r, hr, hrest⟩ := ih (fun e he => h e (hmem e (.inr he))) q
    refine ⟨r, ?_, ⟨?_, ?_, ?_, ?_⟩⟩
    · rw [importItems, hq]
      exact hr
    · rw [hrest.docPayloads, hfirst.docPayloads, docPayloadsOf_cons job db item items,
        List.append_assoc]
    · rw [hrest.written, hfirst.written, docPayloadsOf_cons job db item items, List.length_append,
        Nat.add_assoc]
    · rw [hrest.unchanged, hfirst.unchanged, unchangedCount_cons job db item items, Nat.add_assoc]
    · have hfailed := hfirst.failed
      have hfailed' := hrest.failed
      have hlength : (validItems job (item :: items)).length =
          (validItems job [item]).length + (validItems job items).length := by
        rw [validItems_cons, List.length_append]
      rw [hlength, List.length_cons]
      rw [List.length_singleton] at hfailed
      omega

theorem importItems_error {items : List PyValue} {e : String × Record}
    (he : e ∈ validItems job items) (h : ¬ NamesDocument job e.1) (p : ImportProgress) :
    importItems job db p items = .error .invalidPath := by
  induction items generalizing p with
  | nil => cases he
  | cons item items ih =>
    rw [importItems]
    by_cases hfirst : ∀ e ∈ validItems job [item], NamesDocument job e.1
    · obtain ⟨q, hq, -⟩ := importItem_collects db p item hfirst
      rw [hq]
      rw [validItems_cons, List.mem_append] at he
      exact ih (he.resolve_left (fun hitem => h (hfirst e hitem))) q
    · rw [not_forall₂] at hfirst
      obtain ⟨e', he', h'⟩ := hfirst
      rw [importItem_error db he' h']
      rfl

end Loop

/-! ## The whole import -/

/-- The last valid item with an id. -/
def lastValid (job : ImportJob) (items : List PyValue) (id : String) : Option Record :=
  ((validItems job items).filter (fun e => e.1 = id)).getLast?.map Prod.snd

/-- The import applies the list, and applying it again changes and reports nothing new. -/
structure ImportApplies (job : ImportJob) (db : Firestore) (items : List PyValue)
    (imported : Firestore)
    (report again : ImportReport) : Prop where
  imports : importCompanyRuntimeDocs job (some db) items = (some imported, .ok report)
  holds : ∀ id doc, lastValid job items id = some doc → ∃ stored, imported.get? (refOf job id) =
    some stored ∧ (stored = doc ∨ sameDoc (some stored) doc = true)
  frame : ∀ path, (∀ e ∈ validItems job items, refOf job e.1 ≠ path) →
    imported.get? path = db.get? path
  operations : report.operations.created + report.operations.updated + report.operations.unchanged +
    report.operations.failed = items.length
  written : report.written = report.operations.created + report.operations.updated
  repeated : importCompanyRuntimeDocs job (some imported) items = (some imported, .ok again)
  unchanged : again.operations.unchanged = (validItems job items).length

/-- Valid items name documents, and those with one id are equal (to themselves too: they have no
    `nan`). -/
structure ItemsAgree (job : ImportJob) (items : List PyValue) : Prop where
  named : ∀ e ∈ validItems job items, NamesDocument job e.1
  same : ∀ e ∈ validItems job items, ∀ f ∈ validItems job items, e.1 = f.1 →
    sameDoc (some e.2) f.2 = true

section Import

variable {job : ImportJob} (db : Firestore) {items : List PyValue}

theorem importCompanyRuntimeDocs_ok (h : ∀ e ∈ validItems job items, NamesDocument job e.1) :
    ∃ report, importCompanyRuntimeDocs job (some db) items =
        (some (batchSetDocuments db (docPayloadsOf job db items)), .ok report) ∧
      report.operations.created + report.operations.updated + report.operations.unchanged +
        report.operations.failed = items.length ∧
      report.written = report.operations.created + report.operations.updated ∧
      report.operations.unchanged = unchangedCount job db items := by
  obtain ⟨q, hq, hcollects⟩ := importItems_collects db items h ⟨⟨0, 0, 0, 0⟩, [], []⟩
  have hpayloads : q.docPayloads = docPayloadsOf job db items := hcollects.docPayloads
  have hwritten : q.operations.created + q.operations.updated =
      (docPayloadsOf job db items).length := by
    simpa using hcollects.written
  have hunchanged : q.operations.unchanged = unchangedCount job db items := by
    simpa using hcollects.unchanged
  have hfailed : q.operations.failed + (validItems job items).length = items.length := by
    simpa using hcollects.failed
  have hsplit : (docPayloadsOf job db items).length + unchangedCount job db items =
      (validItems job items).length := by
    rw [docPayloadsOf, List.length_map, ← List.countP_eq_length_filter, unchangedCount,
      Nat.add_comm,
      List.length_eq_countP_add_countP (fun e : String × Record =>
        sameDoc (db.get? (refOf job e.1)) e.2)]
    simp
  refine ⟨⟨q.docPayloads.length, q.operations, q.errors⟩, ?_, ?_, ?_, ?_⟩
  · rw [importCompanyRuntimeDocs]
    simp only [hq, hpayloads]
    exact congrArg (fun db => (some db, _)) (Batches.foldl_slices (by decide) _ db _)
  · show q.operations.created + q.operations.updated + q.operations.unchanged +
      q.operations.failed = items.length
    omega
  · show q.docPayloads.length = q.operations.created + q.operations.updated
    rw [hpayloads]
    omega
  · show q.operations.unchanged = _
    omega

/-- The store after the import: the last payload for a path, or what was there. -/
theorem get?_imported (job : ImportJob) (db : Firestore) (items : List PyValue) (path : DocPath) :
    (batchSetDocuments db (docPayloadsOf job db items)).get? path =
      (((docPayloadsOf job db items).filter (fun e => e.1 = path)).getLast?.map Prod.snd).or
      (db.get? path) :=
  Dict.get?_foldl_set_last Prod.fst Prod.snd (docPayloadsOf job db items) db path

theorem mem_docPayloadsOf {w : DocPath × Record} (h : w ∈ docPayloadsOf job db items) :
    ∃ e ∈ validItems job items, refOf job e.1 = w.1 ∧ e.2 = w.2 := by
  obtain ⟨e, he, heq⟩ := List.mem_map.1 h
  rw [← heq]
  exact ⟨e, List.mem_of_mem_filter he, rfl, rfl⟩

/-- **After the import** every valid item is the same as what its document holds. -/
theorem sameDoc_imported (h : ItemsAgree job items) {e : String × Record}
    (he : e ∈ validItems job items) : sameDoc
    ((batchSetDocuments db (docPayloadsOf job db items)).get? (refOf job e.1)) e.2 = true := by
  rw [get?_imported]
  cases hlast : ((docPayloadsOf job db items).filter (fun w => w.1 = refOf job e.1)).getLast? with
  | some w =>
    obtain ⟨hw, hpath⟩ := List.mem_filter.1 (List.mem_of_getLast? hlast)
    obtain ⟨f, hf, href, hdoc⟩ := mem_docPayloadsOf db hw
    have hid : f.1 = e.1 := refOf_injective job (href.trans (of_decide_eq_true hpath))
    rw [Option.map_some, Option.some_or, ← hdoc]
    exact h.same f hf e he hid
  | none =>
    rw [Option.map_none, Option.none_or]
    by_contra hnot
    have hmem : (refOf job e.1, e.2) ∈ (docPayloadsOf job db items).filter (fun w =>
        w.1 = refOf job e.1) := by
      refine List.mem_filter.2 ⟨List.mem_map.2 ⟨e, List.mem_filter.2 ⟨he, ?_⟩, rfl⟩,
        decide_eq_true rfl⟩
      simpa using hnot
    rw [List.getLast?_eq_none_iff.1 hlast] at hmem
    cases hmem

/-- Items that are all the same in the store are not written. -/
theorem docPayloadsOf_eq_nil (h : ∀ e ∈ validItems job items,
    sameDoc (db.get? (refOf job e.1)) e.2 = true) :
    docPayloadsOf job db items = [] ∧ unchangedCount job db items =
    (validItems job items).length := by
  constructor
  · rw [docPayloadsOf, List.map_eq_nil_iff, List.filter_eq_nil_iff]
    intro e he
    simp [h e he]
  · rw [unchangedCount, List.countP_eq_length]
    exact h

/-- What an import that applies a list says about the list. -/
theorem itemsAgree_of_applies {imported : Firestore} {report again : ImportReport}
    (h : ImportApplies job db items imported report again) : ItemsAgree job items := by
  have hnamed : ∀ e ∈ validItems job items, NamesDocument job e.1 := by
    intro e he
    by_contra hnot
    have himports := h.imports
    rw [importCompanyRuntimeDocs] at himports
    simp only [importItems_error db he hnot] at himports
    cases (Prod.mk.inj himports).2
  obtain ⟨report', hagain, -, -, hcount⟩ := importCompanyRuntimeDocs_ok imported hnamed
  have hreport : again = report' := Except.ok.inj (Prod.mk.inj (h.repeated.symm.trans hagain)).2
  have hall : ∀ e ∈ validItems job items, sameDoc (imported.get? (refOf job e.1)) e.2 = true := by
    rw [← List.countP_eq_length (p := fun e : String × Record =>
      sameDoc (imported.get? (refOf job e.1)) e.2),
      ← unchangedCount, ← hcount, ← hreport]
    exact h.unchanged
  refine ⟨hnamed, fun e he f hf hid => ?_⟩
  have he' := hall e he
  have hf' := hall f hf
  rw [← hid] at hf'
  exact PyValue.pyEq_trans (PyValue.pyEq_symm he') hf'

/-- **Importing applies the list** exactly if the valid items name documents and those with one id
    are equal. -/
theorem importApplies_iff (job : ImportJob) (db : Firestore) (items : List PyValue) :
    (∃ imported report again, ImportApplies job db items imported report again) ↔
    ItemsAgree job items := by
  constructor
  · rintro ⟨imported, report, again, h⟩
    exact itemsAgree_of_applies db h
  · intro h
    obtain ⟨report, himports, hoperations, hwritten, -⟩ := importCompanyRuntimeDocs_ok db h.named
    obtain ⟨again, hagain, -, -, hcount⟩ := importCompanyRuntimeDocs_ok
      (batchSetDocuments db (docPayloadsOf job db items)) h.named
    obtain ⟨hnil, hall⟩ := docPayloadsOf_eq_nil _ (fun e he => sameDoc_imported db h he)
    refine ⟨_, report, again, himports, ?_, ?_, hoperations, hwritten, ?_, hcount.trans hall⟩
    · intro id doc hlast
      obtain ⟨e, he, hdoc⟩ := Option.map_eq_some_iff.1 hlast
      obtain ⟨hmem, hid⟩ := List.mem_filter.1 (List.mem_of_getLast? he)
      have hsame := sameDoc_imported db h hmem
      rw [of_decide_eq_true hid, hdoc] at hsame
      obtain ⟨stored, hstored⟩ := exists_of_sameDoc (hdoc ▸ ne_nil_of_valid hmem) hsame
      refine ⟨stored, hstored, .inr ?_⟩
      rwa [hstored] at hsame
    · intro path hpath
      rw [get?_imported]
      have hnone : (docPayloadsOf job db items).filter (fun w => w.1 = path) = [] := by
        rw [List.filter_eq_nil_iff]
        intro w hw hwpath
        obtain ⟨e, he, href, -⟩ := mem_docPayloadsOf db hw
        exact hpath e he (href.trans (of_decide_eq_true hwpath))
      rw [hnone]
      rfl
    · rw [hagain, hnil]
      rfl

end Import

/-! ### Two items with one id -/

/-- A product with a name. -/
def namedProduct (name : String) : PyValue :=
  .dict [("id", .str "p1"), ("name", .str name), ("category", .str "phones"), ("price", .int 5),
    ("currency", .str "NGN"), ("in_stock", .bool true)]

/-- The import of products of one company. -/
def productJob : ImportJob :=
  ⟨.ascii, companyDocs "acme" "shop" "products", "admin", validateProduct⟩

/-- Two valid products with one id and different names: the import into the empty store does not
    apply the list. -/
theorem importApplies_twoNames :
    ¬ ∃ imported report again,
      ImportApplies productJob .empty [namedProduct "Phone", namedProduct "Tablet"] imported report
      again := by
  rintro ⟨imported, report, again, h⟩
  have hvalid : validItems productJob [namedProduct "Phone", namedProduct "Tablet"] =
      [("p1", (Dict.ofList ((namedProduct "Phone").dict?.getD [])).setDefault "data_tier"
        (.str "admin")),
        ("p1", (Dict.ofList ((namedProduct "Tablet").dict?.getD [])).setDefault "data_tier"
          (.str "admin"))] := by
    rfl
  have hsame := (itemsAgree_of_applies _ h).same
  rw [hvalid] at hsame
  have hpair := hsame _ List.mem_cons_self _ (List.mem_cons_of_mem _ List.mem_cons_self) rfl
  exact absurd hpair (by decide +kernel)

end Ekaette
