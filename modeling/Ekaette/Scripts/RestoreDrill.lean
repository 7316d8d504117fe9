import Ekaette.Admin.CompanyDeletion

set_option autoImplicit false

/-! # The restore drill

`scripts/dr_restore_drill.py`: the documents of a company are exported, deleted and restored, and
what is there then is exported again and compared. An exported document has an `id`: the one it
stores, or else its name. It is restored under that id, without the field. -/

namespace Ekaette.RestoreDrill

/-- `SUBCOLLECTIONS`. -/
def SUBCOLLECTIONS : List String := ["knowledge", "products", "booking_slots"]

/-! ## Exporting -/

/-- A document of a collection, with an id. -/
def exportDoc (doc : DocSnapshot) : Record :=
  if doc.data.contains "id" then doc.data
  else doc.data.set "id" (.str ((doc.reference.bind List.getLast?).getD ""))

/-- `_list_collection_docs`. -/
def listCollectionDocs (db : Firestore) (col : DocPath) : List Record :=
  (collectQueryDocs db col).map exportDoc

structure CompanySnapshot where
  tenantId : String
  companyId : String
  companyDoc : Record
  collections : List (String × List Record)
  counts : List (String × ℕ)

variable (tenantId companyId : String)

/-- `export_company_snapshot`; `none` where there is no company and it raises. -/
def exportCompanySnapshot (db : Firestore) : Option CompanySnapshot :=
  (db.get? (purgedCompany tenantId companyId)).map fun companyDoc =>
    let collections := SUBCOLLECTIONS.map fun name =>
      (name, listCollectionDocs db (purgedCompany tenantId companyId ++ [name]))
    { tenantId, companyId, companyDoc, collections
      counts := collections.map fun c => (c.1, c.2.length) }

/-! ## Deleting -/

/-- The body of the loop of `delete_company_bundle`. -/
def deleteDocs (companyRef : DocPath) (acc : Firestore × Dict String ℕ) (name : String) :
    Firestore × Dict String ℕ :=
  let refs := (collectQueryDocs acc.1 (companyRef ++ [name])).filterMap DocSnapshot.reference
  (acc.1.eraseAll refs, acc.2.set name (acc.2.getD name 0 + refs.length))

/-- `delete_company_bundle`: the documents, and `deleted`. -/
def deleteCompanyDocs (db : Firestore) : Firestore × Dict String ℕ :=
  let companyRef := purgedCompany tenantId companyId
  let deleted : Dict String ℕ :=
    Dict.ofList [("company", 0), ("knowledge", 0), ("products", 0), ("booking_slots", 0)]
  let (db, deleted) := SUBCOLLECTIONS.foldl (deleteDocs companyRef) (db, deleted)
  if (db.get? companyRef).isSome then (db.erase companyRef, deleted.set "company" 1)
  else (db, deleted)

/-! ## Restoring -/

variable (py : StrMethods)

/-- `str(d.get("id", ""))`. -/
def entryKey (entry : Record) : String :=
  ((entry.get? "id").getD (.str "")).toStr py

/-- `str(entry.get("id", "")).strip()`. -/
def entryId (entry : Record) : String := PyStr.strip (entryKey py entry)

/-- The body of the loop of `restore_company_snapshot` over the entries of a collection. -/
def restoreEntry (col : DocPath) (acc : Firestore × ℕ) (entry : Record) :
    Firestore × ℕ :=
  if entryId py entry = "" then acc
  else (acc.1.set (DocPath.document col (entryId py entry)) (entry.erase "id"), acc.2 + 1)

variable (companyRef : DocPath)

/-- The body of its loop over the collections. -/
def restoreCollection (acc : Firestore × Dict String ℕ)
    (c : String × List Record) : Firestore × Dict String ℕ :=
  let (db, restored) := c.2.foldl (restoreEntry py (companyRef ++ [c.1])) (acc.1, acc.2.getD c.1 0)
  (db, acc.2.set c.1 restored)

/-- `restore_company_snapshot`: the documents, and `restored`. -/
def restoreCompanySnapshot (db : Firestore) (snapshot : CompanySnapshot) :
    Firestore × Dict String ℕ :=
  let companyRef := purgedCompany snapshot.tenantId snapshot.companyId
  let restored : Dict String ℕ :=
    Dict.ofList [("company", 1), ("knowledge", 0), ("products", 0), ("booking_slots", 0)]
  snapshot.collections.foldl (restoreCollection py companyRef)
    (db.set companyRef snapshot.companyDoc, restored)

/-! ## The drill -/

structure DrillReport where
  success : Bool
  dryRun : Bool
  deleted : Dict String ℕ
  restored : Dict String ℕ
  snapshotCounts : List (String × ℕ)
  verifyCounts : List (String × ℕ)
  contentMatch : Bool
  mismatches : List String

/-- `set(orig_docs.keys()) == set(verify_docs.keys())`. -/
def sameKeys (original verify : List Record) : Bool :=
  original.all (fun d => decide (entryKey py d ∈ verify.map (entryKey py))) &&
    verify.all (fun d => decide (entryKey py d ∈ original.map (entryKey py)))

/-- The mismatches of the deep verification. -/
def mismatchesOf (original verify : List (String × List Record)) : List String :=
  SUBCOLLECTIONS.filterMap fun name =>
    if sameKeys py ((original.lookup name).getD []) ((verify.lookup name).getD []) then none
    else some (name ++ ": document IDs differ")

/-- `run_restore_drill`: the documents, and the report; `none` where it raises. -/
def runRestoreDrill (tenantId companyId : String) (dryRun : Bool)
    (db : Firestore) : Option (Firestore × DrillReport) := do
  let snapshot ← exportCompanySnapshot tenantId companyId db
  if dryRun then return (db, ⟨true, true, .empty, .empty, snapshot.counts, [], true, []⟩)
  let (db, deleted) := deleteCompanyDocs tenantId companyId db
  let (db, restored) := restoreCompanySnapshot py db snapshot
  let verify ← exportCompanySnapshot tenantId companyId db
  let mismatches := mismatchesOf py snapshot.collections verify.collections
  return (db,
    { success := decide (verify.counts = snapshot.counts) && mismatches.isEmpty
      dryRun := false
      deleted, restored
      snapshotCounts := snapshot.counts
      verifyCounts := verify.counts
      contentMatch := mismatches.isEmpty
      mismatches })

/-! ## What is deleted -/

theorem deleteDocs_get? (names : List String) (db : Firestore)
    (deleted : Dict String ℕ) (path : DocPath) :
    (names.foldl (deleteDocs companyRef) (db, deleted)).1.get? path =
      if inCollections companyRef names path then none else db.get? path := by
  induction names generalizing db deleted with
  | nil => rfl
  | cons name names ih =>
    rw [List.foldl_cons, deleteDocs, ih, filterMap_collectQueryDocs, Dict.get?_eraseAll]
    have hcons : inCollections companyRef (name :: names) path =
        (decide (path.dropLast = companyRef ++ [name]) || inCollections companyRef names path) :=
        List.any_cons
    rw [hcons]
    by_cases hin : inCollections companyRef names path = true
    · rw [if_pos hin, hin, Bool.or_true, if_pos rfl]
    · rw [Bool.not_eq_true] at hin
      rw [hin, Bool.or_false, if_neg Bool.false_ne_true]
      by_cases hcol : path.dropLast = companyRef ++ [name]
      · rw [decide_eq_true hcol, if_pos rfl]
        split_ifs with hmem
        · rfl
        · by_contra hsome
          exact hmem (mem_refsIn.2 ⟨hcol, Option.isSome_iff_ne_none.2 hsome⟩)
      · rw [decide_eq_false hcol, if_neg Bool.false_ne_true, if_neg fun h =>
          hcol (mem_refsIn.1 h).1]

/-- **Deleting** empties the three collections and takes the company away. -/
theorem deleteCompanyDocs_get? (db : Firestore) (path : DocPath) :
    (deleteCompanyDocs tenantId companyId db).1.get? path =
      if InBundle tenantId companyId path then none else db.get? path := by
  have hdocs := deleteDocs_get? (purgedCompany tenantId companyId) SUBCOLLECTIONS db
    (Dict.ofList [("company", 0), ("knowledge", 0), ("products", 0), ("booking_slots", 0)])
  have hbundle : ∀ path, InBundle tenantId companyId path ↔
    path = purgedCompany tenantId companyId ∨
      inCollections (purgedCompany tenantId companyId) SUBCOLLECTIONS path = true := fun _ =>
      Iff.rfl
  simp only [deleteCompanyDocs]
  generalize (SUBCOLLECTIONS.foldl (deleteDocs (purgedCompany tenantId companyId))
    (db, Dict.ofList [("company", 0),
    ("knowledge", 0), ("products", 0), ("booking_slots", 0)])).1 = docs at hdocs ⊢
  by_cases hpath : path = purgedCompany tenantId companyId
  · rw [if_pos ((hbundle path).2 (.inl hpath))]
    split_ifs with hexists
    · exact (Dict.get?_erase _ _ _).trans (if_pos hpath)
    · rw [hpath]
      exact Option.not_isSome_iff_eq_none.1 hexists
  · have hkept : docs.get? path = if InBundle tenantId companyId path then none else db.get? path :=
      by
      rw [hdocs]
      exact if_congr ⟨.inr, fun h => h.resolve_left hpath⟩ rfl rfl
    rw [← hkept]
    split_ifs with hexists
    · exact (Dict.get?_erase _ _ _).trans (if_neg hpath)
    · rfl

/-! ## What is written -/

/-- The documents that are written for the entries of a collection. -/
def restoreWrites (col : DocPath) (entries : List Record) :
    List (DocPath × Record) :=
  (entries.filter fun entry => entryId py entry ≠ "").map fun entry =>
    (col ++ [entryId py entry], entry.erase "id")

theorem restoreEntries_eq (col : DocPath) (entries : List Record) (db : Firestore)
    (n : ℕ) : entries.foldl (restoreEntry py col) (db, n) =
      ((restoreWrites py col entries).foldl (fun db w => db.set w.1 w.2) db,
        n + (restoreWrites py col entries).length) := by
  induction entries generalizing db n with
  | nil => rfl
  | cons entry entries ih =>
    rw [List.foldl_cons, restoreEntry, restoreWrites]
    by_cases hid : entryId py entry = ""
    · rw [if_pos hid, List.filter_cons_of_neg (by simpa using hid)]
      exact ih db n
    · rw [if_neg hid, List.filter_cons_of_pos (by simpa using hid), List.map_cons, List.foldl_cons,
        List.length_cons]
      refine (ih _ _).trans (Prod.ext rfl ?_)
      show n + 1 + (restoreWrites py col entries).length =
        n + ((restoreWrites py col entries).length + 1)
      omega

theorem restoreCollections_fst
    (collections : List (String × List Record)) (db : Firestore) (restored : Dict String ℕ) :
    (collections.foldl (restoreCollection py companyRef) (db, restored)).1 =
      (collections.flatMap fun c => restoreWrites py (companyRef ++ [c.1]) c.2).foldl (fun db w =>
        db.set w.1 w.2)
        db := by
  induction collections generalizing db restored with
  | nil => rfl
  | cons c collections ih =>
    rw [List.foldl_cons, restoreCollection, List.flatMap_cons, List.foldl_append, restoreEntries_eq]
    exact ih _ _

/-! ## What is restored -/

/-- The store after the deletion and the restoration of a company. -/
def restoredStore (tenantId companyId : String) (companyDoc : Record)
    (db : Firestore) : Firestore :=
  (SUBCOLLECTIONS.flatMap fun name => restoreWrites py (purgedCompany tenantId companyId ++ [name])
      (listCollectionDocs db (purgedCompany tenantId companyId ++ [name]))).foldl (fun db w =>
      db.set w.1 w.2)
    ((deleteCompanyDocs tenantId companyId db).1.set (purgedCompany tenantId companyId) companyDoc)

section Restored

variable (py : StrMethods) {tenantId companyId : String} {companyDoc : Record} {db : Firestore}

/-- A collection of a company. -/
def collectionRef (tenantId companyId name : String) : DocPath :=
  purgedCompany tenantId companyId ++ [name]

theorem inBundle_document {name : String} (hname : name ∈ SUBCOLLECTIONS) (id : String) :
    InBundle tenantId companyId (collectionRef tenantId companyId name ++ [id]) := by
  refine .inr (List.any_eq_true.2 ⟨name, hname, decide_eq_true ?_⟩)
  rw [List.dropLast_concat]
  rfl

theorem document_ne_company (name id : String) :
    collectionRef tenantId companyId name ++ [id] ≠ purgedCompany tenantId companyId := by
  intro h
  have hlength := congrArg List.length h
  simp [collectionRef, purgedCompany] at hlength

theorem collectionRef_concat_inj {name name' id id' : String} :
    collectionRef tenantId companyId name ++ [id] = collectionRef tenantId companyId name' ++
      [id'] ↔ name = name' ∧ id = id' := by
  constructor
  · intro h
    obtain ⟨hcol, hid⟩ := List.append_inj' h rfl
    obtain ⟨-, hname⟩ := List.append_inj' hcol rfl
    exact ⟨List.singleton_inj.1 hname, List.singleton_inj.1 hid⟩
  · rintro ⟨rfl, rfl⟩
    rfl

theorem writes_document (tenantId companyId : String) {name : String}
    (hname : name ∈ SUBCOLLECTIONS) (entries : String → List Record) (id : String) :
    ((SUBCOLLECTIONS.flatMap fun name => restoreWrites py (collectionRef tenantId companyId name)
        (entries name)).filter fun w => w.1 = collectionRef tenantId companyId name ++ [id]) =
      ((entries name).filter fun entry => entryId py entry ≠ "" ∧ entryId py entry = id).map
      fun entry =>
        (collectionRef tenantId companyId name ++ [id], entry.erase "id") := by
  have hfilter :
    ∀ name', ((restoreWrites py (collectionRef tenantId companyId name') (entries name')).filter
        fun w => w.1 = collectionRef tenantId companyId name ++ [id]) =
      if name' = name then ((entries name).filter fun entry => entryId py entry ≠ "" ∧
        entryId py entry = id).map
        fun entry => (collectionRef tenantId companyId name ++ [id], entry.erase "id") else [] := by
    intro name'
    rw [restoreWrites, List.filter_map, List.filter_filter]
    split_ifs with hsame
    · subst hsame
      have hpred : (fun entry : Record => ((fun w : DocPath × Record => decide (w.1 =
            collectionRef tenantId companyId name' ++ [id])) ∘ fun entry : Record =>
              (collectionRef tenantId companyId name' ++ [entryId py entry], entry.erase "id"))
                entry &&
            decide (entryId py entry ≠ "")) =
          fun entry => decide (entryId py entry ≠ "" ∧ entryId py entry = id) := by
        funext entry
        show (decide (collectionRef tenantId companyId name' ++ [entryId py entry] =
          collectionRef tenantId companyId name' ++ [id]) && _) = _
        rw [decide_eq_decide.2 collectionRef_concat_inj, ← Bool.decide_and, decide_eq_decide]
        exact ⟨fun h => ⟨h.2, h.1.2⟩, fun h => ⟨⟨rfl, h.2⟩, h.1⟩⟩
      rw [hpred]
      refine List.map_congr_left fun entry hentry => ?_
      rw [(of_decide_eq_true (List.mem_filter.1 hentry).2).2]
    · rw [List.map_eq_nil_iff, List.filter_eq_nil_iff]
      intro entry _ hentry
      rw [Bool.and_eq_true] at hentry
      exact hsame (collectionRef_concat_inj.1 (of_decide_eq_true hentry.1)).1
  simp only [List.filter_flatMap, hfilter]
  simp only [SUBCOLLECTIONS, List.mem_cons, List.not_mem_nil, or_false] at hname
  rcases hname with rfl | rfl | rfl <;> simp [SUBCOLLECTIONS, List.flatMap_cons]

/-- **A restored document** is the last entry exported with its id. -/
theorem restoredStore_document {name : String} (hname : name ∈ SUBCOLLECTIONS) (id : String) :
    (restoredStore py tenantId companyId companyDoc db).get?
    (collectionRef tenantId companyId name ++ [id]) =
      (((listCollectionDocs db (collectionRef tenantId companyId name)).filter fun entry =>
        entryId py entry ≠ "" ∧ entryId py entry = id).getLast?).map fun entry =>
            entry.erase "id" := by
  have hdeleted : ((deleteCompanyDocs tenantId companyId db).1.set
    (purgedCompany tenantId companyId) companyDoc).get?
      (collectionRef tenantId companyId name ++ [id]) = none := by
    rw [Dict.get?_set_of_ne _ _ (document_ne_company name id), deleteCompanyDocs_get?,
      if_pos (inBundle_document hname id)]
  have hwrites := writes_document py tenantId companyId hname
    (fun name => listCollectionDocs db (collectionRef tenantId companyId name)) id
  unfold restoredStore
  rw [Dict.get?_foldl_set_last Prod.fst Prod.snd, hdeleted, Option.or_none]
  refine (congrArg (fun ws : List (DocPath × Record) => ws.getLast?.map Prod.snd) hwrites).trans ?_
  rw [List.getLast?_map, Option.map_map]
  rfl

theorem mem_restoreWrites {col : DocPath} {entries : List Record} {w : DocPath × Record}
    (hw : w ∈ restoreWrites py col entries) : ∃ id, w.1 = col ++ [id] := by
  obtain ⟨entry, -, rfl⟩ := List.mem_map.1 hw
  exact ⟨_, rfl⟩

/-- What is no document of the three collections is not written. -/
theorem restoredStore_other {path : DocPath}
    (hpath : inCollections (purgedCompany tenantId companyId) SUBCOLLECTIONS path = false) :
    (restoredStore py tenantId companyId companyDoc db).get? path =
      if path = purgedCompany tenantId companyId then some companyDoc else db.get? path := by
  have hnone :
    ((SUBCOLLECTIONS.flatMap fun name =>
      restoreWrites py (purgedCompany tenantId companyId ++ [name])
      (listCollectionDocs db (purgedCompany tenantId companyId ++ [name]))).filter fun w =>
          w.1 = path) = [] := by
    rw [List.filter_eq_nil_iff]
    intro w hw hsame
    obtain ⟨name, hname, hwrite⟩ := List.mem_flatMap.1 hw
    obtain ⟨id, hid⟩ := mem_restoreWrites py hwrite
    have hin : inCollections (purgedCompany tenantId companyId) SUBCOLLECTIONS path = true := by
      refine List.any_eq_true.2 ⟨name, hname, decide_eq_true ?_⟩
      rw [← of_decide_eq_true hsame, hid, List.dropLast_concat]
    rw [hpath] at hin
    cases hin
  unfold restoredStore
  rw [Dict.get?_foldl_set_last Prod.fst Prod.snd, hnone, List.getLast?_nil, Option.map_none,
    Option.none_or, Dict.get?_set]
  split_ifs with hcompany
  · rfl
  · rw [deleteCompanyDocs_get?]
    refine if_neg fun h => ?_
    rcases h with h | h
    · exact hcompany h
    · exact Bool.false_ne_true (hpath.symm.trans h)

end Restored

/-! ## What is exported -/

section Exported

variable (py : StrMethods)

/-- The id that a document is exported under. -/
def documentKey (id : String) (data : Record) : String :=
  ((data.get? "id").map (PyValue.toStr py)).getD id

theorem entryKey_exportDoc (col : DocPath) (id : String) (data : Record) :
    entryKey py (exportDoc ⟨some (col ++ [id]), data⟩) = documentKey py id data := by
  unfold entryKey exportDoc documentKey Dict.contains
  cases hid : data.get? "id" with
  | none =>
    rw [Option.isSome_none, if_neg Bool.false_ne_true, Dict.get?_set_self, Option.bind_some,
      List.getLast?_concat]
    rfl
  | some v =>
    rw [Option.isSome_some, if_pos rfl, hid]
    rfl

theorem erase_exportDoc (doc : DocSnapshot) : (exportDoc doc).erase "id" = doc.data.erase "id" := by
  unfold exportDoc
  split_ifs with hid
  · rfl
  · ext1
    exact Dict.filter_entries_set _ _ _

theorem path_of_dropLast {path col : DocPath} (hcol : col ≠ []) (h : path.dropLast = col) :
    ∃ id, path = col ++ [id] := by
  have hne : path ≠ [] := by
    rintro rfl
    exact hcol h.symm
  refine ⟨path.getLast hne, ?_⟩
  rw [← h, List.dropLast_append_getLast]

theorem mem_listCollectionDocs {db : Firestore} {col : DocPath} (hcol : col ≠ []) {entry : Record} :
    entry ∈ listCollectionDocs db col ↔
      ∃ id data, db.get? (col ++ [id]) = some data ∧ entry = exportDoc ⟨some (col ++ [id]),
        data⟩ := by
  rw [listCollectionDocs, List.mem_map]
  constructor
  · rintro ⟨doc, hdoc, rfl⟩
    obtain ⟨e, he, rfl⟩ := List.mem_map.1 hdoc
    obtain ⟨hentry, hdrop⟩ := List.mem_filter.1 he
    obtain ⟨id, hid⟩ := path_of_dropLast hcol (of_decide_eq_true hdrop)
    exact ⟨id, e.2, by rw [← hid]; exact (Dict.get?_eq_some_iff db e.1 e.2).2 hentry, by rw [hid]⟩
  · rintro ⟨id, data, hdata, rfl⟩
    refine ⟨_, List.mem_map.2 ⟨(col ++ [id], data),
      List.mem_filter.2 ⟨(Dict.get?_eq_some_iff db _ data).1 hdata, ?_⟩, rfl⟩, rfl⟩
    exact decide_eq_true List.dropLast_concat

/-- No document of a collection stores an id. -/
def Clean (db : Firestore) (col : DocPath) : Prop :=
  ∀ id data, db.get? (col ++ [id]) = some data → data.get? "id" = none

/-- Documents that store no id are exported under their names. -/
theorem Clean.keys {db : Firestore} {col : DocPath} (hcol : col ≠ []) (h : Clean db col) :
    ((listCollectionDocs db col).map (entryKey py)).Nodup ∧
      ∀ id, id ∈ (listCollectionDocs db col).map (entryKey py) ↔
      (db.get? (col ++ [id])).isSome = true := by
  have hkey : ∀ {id data}, db.get? (col ++ [id]) = some data →
      entryKey py (exportDoc ⟨some (col ++ [id]), data⟩) = id := by
    intro id data hdata
    rw [entryKey_exportDoc, documentKey, h id data hdata]
    rfl
  constructor
  · rw [listCollectionDocs, collectQueryDocs, List.map_map, List.map_map]
    have hpaths : ((db.entries.filter fun e => decide (e.1.dropLast = col)).map Prod.fst).Nodup :=
      db.nodup.sublist (List.filter_sublist.map Prod.fst)
    refine List.Nodup.map_on ?_ (List.Nodup.of_map Prod.fst hpaths)
    intro e he e' he' hsame
    obtain ⟨hentry, hdrop⟩ := List.mem_filter.1 he
    obtain ⟨hentry', hdrop'⟩ := List.mem_filter.1 he'
    obtain ⟨path, data⟩ := e
    obtain ⟨path', data'⟩ := e'
    obtain ⟨id, rfl⟩ := path_of_dropLast hcol (of_decide_eq_true hdrop)
    obtain ⟨id', rfl⟩ := path_of_dropLast hcol (of_decide_eq_true hdrop')
    have hdata := (Dict.get?_eq_some_iff db _ data).2 hentry
    have hdata' := (Dict.get?_eq_some_iff db _ data').2 hentry'
    have hid : id = id' := by
      calc id = entryKey py (exportDoc ⟨some (col ++ [id]), data⟩) := (hkey hdata).symm
        _ = entryKey py (exportDoc ⟨some (col ++ [id']), data'⟩) := hsame
        _ = id' := hkey hdata'
    subst hid
    rw [Option.some.inj (hdata.symm.trans hdata')]
  · intro id
    rw [List.mem_map]
    constructor
    · rintro ⟨entry, hentry, rfl⟩
      obtain ⟨id', data, hdata, rfl⟩ := (mem_listCollectionDocs hcol).1 hentry
      rw [hkey hdata, hdata]
      rfl
    · intro hsome
      obtain ⟨data, hdata⟩ := Option.isSome_iff_exists.1 hsome
      exact ⟨_, (mem_listCollectionDocs hcol).2 ⟨id, data, hdata, rfl⟩, hkey hdata⟩

end Exported

/-! ## What the verification finds -/

/-- The entries of a collection have ids that can be restored, each its own. -/
def Restorable (py : StrMethods) (entries : List Record) : Prop :=
  (entries.map (entryKey py)).Nodup ∧ ∀ entry ∈ entries, entryId py entry = entryKey py entry ∧
    entryKey py entry ≠ ""

instance (py : StrMethods) (entries : List Record) : Decidable (Restorable py entries) :=
  inferInstanceAs (Decidable (_ ∧ _))

theorem sameKeys_iff {py : StrMethods} {original verify : List Record} :
    sameKeys py original verify = true ↔ ∀ key, key ∈ original.map (entryKey py) ↔
    key ∈ verify.map (entryKey py) := by
  rw [sameKeys, Bool.and_eq_true, List.all_eq_true, List.all_eq_true]
  constructor
  · rintro ⟨hto, hfrom⟩ key
    constructor
    · intro hkey
      obtain ⟨entry, hentry, rfl⟩ := List.mem_map.1 hkey
      exact of_decide_eq_true (hto entry hentry)
    · intro hkey
      obtain ⟨entry, hentry, rfl⟩ := List.mem_map.1 hkey
      exact of_decide_eq_true (hfrom entry hentry)
  · intro h
    exact ⟨fun entry hentry => decide_eq_true ((h _).1 (List.mem_map_of_mem hentry)),
      fun entry hentry => decide_eq_true ((h _).2 (List.mem_map_of_mem hentry))⟩

/-- **The verification of a collection** passes just when its entries were restorable. -/
theorem verified_iff {py : StrMethods} {entries verify : List Record}
    (hnodup : (verify.map (entryKey py)).Nodup)
    (hkeys : ∀ id, id ∈ verify.map (entryKey py) ↔ ∃ entry ∈ entries, entryId py entry ≠ "" ∧
      entryId py entry = id) :
    (verify.length = entries.length ∧ sameKeys py entries verify = true) ↔
    Restorable py entries := by
  constructor
  · rintro ⟨hlength, hsame⟩
    rw [sameKeys_iff] at hsame
    -- as many different keys as there are entries
    have hperm : (verify.map (entryKey py)).Perm (entries.map (entryKey py)) := by
      refine (List.subperm_of_subset hnodup fun key hkey => (hsame key).2 hkey).perm_of_length_le ?_
      rw [List.length_map, List.length_map, hlength]
    refine ⟨hperm.nodup_iff.1 hnodup, fun entry hentry => ?_⟩
    obtain ⟨source, -, hne, hid⟩ := (hkeys _).1 ((hsame _).1 (List.mem_map_of_mem hentry))
    rw [← hid]
    refine ⟨?_, hne⟩
    rw [entryId, ← hid, entryId, PyStr.strip_strip]
  · rintro ⟨hdistinct, hids⟩
    have hsame : ∀ key, key ∈ entries.map (entryKey py) ↔ key ∈ verify.map (entryKey py) := by
      intro key
      rw [hkeys, List.mem_map]
      constructor
      · rintro ⟨entry, hentry, rfl⟩
        obtain ⟨hid, hne⟩ := hids entry hentry
        exact ⟨entry, hentry, hid ▸ hne, hid⟩
      · rintro ⟨entry, hentry, -, rfl⟩
        exact ⟨entry, hentry, (hids entry hentry).1.symm⟩
    have hperm := (List.perm_ext_iff_of_nodup hdistinct hnodup).2 hsame
    refine ⟨?_, sameKeys_iff.2 hsame⟩
    have hlength := hperm.length_eq
    rw [List.length_map, List.length_map] at hlength
    exact hlength.symm

section Verified

variable (py : StrMethods) {tenantId companyId : String} {companyDoc : Record} {db : Firestore}

theorem collectionRef_ne_nil (tenantId companyId name : String) :
    collectionRef tenantId companyId name ≠ [] :=
  List.append_ne_nil_of_right_ne_nil _ (List.cons_ne_nil _ _)

variable (tenantId companyId companyDoc db) in
theorem clean_restoredStore {name : String} (hname : name ∈ SUBCOLLECTIONS) :
    Clean (restoredStore py tenantId companyId companyDoc db)
    (collectionRef tenantId companyId name) := by
  intro id data hdata
  rw [restoredStore_document py hname] at hdata
  obtain ⟨entry, -, rfl⟩ := Option.map_eq_some_iff.1 hdata
  rw [Dict.get?_erase, if_pos rfl]

variable (tenantId companyId companyDoc db) in
theorem restoredStore_isSome {name : String} (hname : name ∈ SUBCOLLECTIONS) (id : String) :
    ((restoredStore py tenantId companyId companyDoc db).get?
      (collectionRef tenantId companyId name ++ [id])).isSome =
        true ↔ ∃ entry ∈ listCollectionDocs db (collectionRef tenantId companyId name),
      entryId py entry ≠ "" ∧ entryId py entry = id := by
  rw [restoredStore_document py hname, Option.isSome_map, Option.isSome_iff_ne_none, ne_eq,
    List.getLast?_eq_none_iff, List.filter_eq_nil_iff]
  simp only [not_forall, decide_eq_true_eq, not_not, exists_prop]

variable (tenantId companyId companyDoc db) in
theorem restored_verified {name : String} (hname : name ∈ SUBCOLLECTIONS) :
    ((listCollectionDocs (restoredStore py tenantId companyId companyDoc db)
            (collectionRef tenantId companyId name)).length =
          (listCollectionDocs db (collectionRef tenantId companyId name)).length ∧
        sameKeys py (listCollectionDocs db (collectionRef tenantId companyId name))
          (listCollectionDocs (restoredStore py tenantId companyId companyDoc db)
            (collectionRef tenantId companyId name)) = true) ↔
      Restorable py (listCollectionDocs db (collectionRef tenantId companyId name)) := by
  obtain ⟨hnodup, hkeys⟩ := (clean_restoredStore py tenantId companyId companyDoc db hname).keys py
    (collectionRef_ne_nil tenantId companyId name)
  exact verified_iff hnodup fun id =>
    (hkeys id).trans (restoredStore_isSome py tenantId companyId companyDoc db hname id)

theorem lookup_map_names (f : String → List Record) {name : String}
    (hname : name ∈ SUBCOLLECTIONS) :
    ((SUBCOLLECTIONS.map fun name => (name, f name)).lookup name).getD [] = f name := by
  rcases List.mem_cons.1 hname with rfl | hname
  · rfl
  rcases List.mem_pair.1 hname with rfl | rfl
  · rfl
  · rfl

theorem exportCompanySnapshot_eq (hexists : db.get? (purgedCompany tenantId companyId) =
    some companyDoc) : exportCompanySnapshot tenantId companyId db = some
      { tenantId, companyId, companyDoc
        collections := SUBCOLLECTIONS.map fun name =>
          (name, listCollectionDocs db (collectionRef tenantId companyId name))
        counts := SUBCOLLECTIONS.map fun name =>
          (name, (listCollectionDocs db (collectionRef tenantId companyId name)).length) } := by
  rw [exportCompanySnapshot, hexists]
  rfl

theorem map_length_eq_iff (f g : String → List Record) :
    (SUBCOLLECTIONS.map fun name => (name, (f name).length)) = (SUBCOLLECTIONS.map fun name =>
      (name, (g name).length)) ↔
      ∀ name ∈ SUBCOLLECTIONS, (f name).length = (g name).length := by
  rw [List.map_inj_left]
  exact forall₂_congr fun name _ => Prod.mk_right_injective name |>.eq_iff

/-- **The drill** on a company that exists: it leaves the restored store, and succeeds just when the
    entries of every collection were restorable. -/
theorem runRestoreDrill_eq (hexists : db.get? (purgedCompany tenantId companyId) = some companyDoc)
    : ∃ report, runRestoreDrill py tenantId companyId false db =
        some (restoredStore py tenantId companyId companyDoc db, report) ∧
      (report.success = true ↔ ∀ name ∈ SUBCOLLECTIONS,
        Restorable py (listCollectionDocs db (collectionRef tenantId companyId name))) := by
  set restored := restoredStore py tenantId companyId companyDoc db with hrestored
  have hstored : restored.get? (purgedCompany tenantId companyId) = some companyDoc := by
    rw [hrestored, restoredStore_other py (inCollections_company _ _ _ _ _), if_pos rfl]
  have hrestore : ∀ counts, (restoreCompanySnapshot py (deleteCompanyDocs tenantId companyId db).1
      { tenantId, companyId, companyDoc, counts
        collections := SUBCOLLECTIONS.map fun name =>
          (name, listCollectionDocs db (collectionRef tenantId companyId name)) }).1 =
              restored := by
    intro counts
    refine (restoreCollections_fst _ _ _ _ _).trans ?_
    rw [List.flatMap_map, hrestored]
    rfl
  have hrun : ∃ report, runRestoreDrill py tenantId companyId false db = some (restored, report) ∧
      report.success = (decide ((SUBCOLLECTIONS.map fun name =>
          (name, (listCollectionDocs restored (collectionRef tenantId companyId name)).length)) =
        SUBCOLLECTIONS.map fun name =>
        (name, (listCollectionDocs db (collectionRef tenantId companyId name)).length)) &&
        (mismatchesOf py
          (SUBCOLLECTIONS.map fun name =>
            (name, listCollectionDocs db (collectionRef tenantId companyId name)))
          (SUBCOLLECTIONS.map fun name =>
            (name, listCollectionDocs restored
                (collectionRef tenantId companyId name)))).isEmpty) := by
    rw [runRestoreDrill, exportCompanySnapshot_eq hexists]
    simp only [Option.bind_eq_bind, Option.bind_some, Bool.false_eq_true, if_false, hrestore,
      exportCompanySnapshot_eq hstored]
    exact ⟨_, rfl, rfl⟩
  obtain ⟨report, hreport, hsuccess⟩ := hrun
  refine ⟨report, hreport, ?_⟩
  rw [hsuccess, Bool.and_eq_true, decide_eq_true_eq, map_length_eq_iff, List.isEmpty_iff,
    mismatchesOf, List.filterMap_eq_nil_iff, ← forall₂_and]
  refine forall₂_congr fun name hname => ?_
  rw [lookup_map_names _ hname, lookup_map_names _ hname,
    ← restored_verified py tenantId companyId companyDoc db hname]
  refine and_congr_right' ?_
  split_ifs with hsame
  · exact iff_of_true rfl hsame
  · exact iff_of_false not_false hsame

/-! ## What the drill leaves -/

variable (tenantId companyId companyDoc db) in
/-- **Restorable documents** come back under their ids, without the field, and nothing else does. -/
theorem restored_exact {name : String} (hname : name ∈ SUBCOLLECTIONS)
    (h : Restorable py (listCollectionDocs db (collectionRef tenantId companyId name))) :
    (∀ id data, db.get? (collectionRef tenantId companyId name ++ [id]) = some data →
      (restoredStore py tenantId companyId companyDoc db).get?
        (collectionRef tenantId companyId name ++ [documentKey py id data]) =
        some (data.erase "id")) ∧
    ∀ key, ((restoredStore py tenantId companyId companyDoc db).get?
        (collectionRef tenantId companyId name ++ [key])).isSome = true →
      ∃ id data, db.get? (collectionRef tenantId companyId name ++ [id]) = some data ∧
      documentKey py id data = key := by
  have hcol := collectionRef_ne_nil tenantId companyId name
  obtain ⟨hdistinct, hids⟩ := h
  constructor
  · intro id data hdata
    set entry :=
      exportDoc ⟨some (collectionRef tenantId companyId name ++ [id]), data⟩ with hentryDef
    have hentry : entry ∈ listCollectionDocs db (collectionRef tenantId companyId name) :=
      (mem_listCollectionDocs hcol).2 ⟨id, data, hdata, rfl⟩
    have hkey : entryKey py entry = documentKey py id data := entryKey_exportDoc py _ id data
    -- the entry is the only one with its id
    have honly : ∀ other ∈ (listCollectionDocs db (collectionRef tenantId companyId name)).filter
        fun entry =>
        entryId py entry ≠ "" ∧ entryId py entry = documentKey py id data, other = entry := by
      intro other hother
      obtain ⟨hmem, hid⟩ := List.mem_filter.1 hother
      refine List.inj_on_of_nodup_map hdistinct hmem hentry ?_
      rw [hkey, ← (hids other hmem).1]
      exact (of_decide_eq_true hid).2
    have hmem : entry ∈ (listCollectionDocs db (collectionRef tenantId companyId name)).filter
        fun entry =>
        entryId py entry ≠ "" ∧ entryId py entry = documentKey py id data := by
      obtain ⟨hid, hne⟩ := hids entry hentry
      refine List.mem_filter.2 ⟨hentry, decide_eq_true ⟨hid ▸ hne, hid.trans hkey⟩⟩
    rw [restoredStore_document py hname,
      ← erase_exportDoc ⟨some (collectionRef tenantId companyId name ++ [id]), data⟩, ← hentryDef]
    have hlast := List.getLast?_eq_some_getLast (List.ne_nil_of_mem hmem)
    rw [hlast, honly _ (List.getLast_mem _)]
    rfl
  · intro key hsome
    obtain ⟨entry, hentry, -, rfl⟩ :=
      (restoredStore_isSome py tenantId companyId companyDoc db hname key).1 hsome
    obtain ⟨id, data, hdata, rfl⟩ := (mem_listCollectionDocs hcol).1 hentry
    refine ⟨id, data, hdata, ?_⟩
    rw [(hids _ hentry).1, entryKey_exportDoc]

variable (tenantId companyId companyDoc db) in
theorem restorable_restoredStore {name : String} (hname : name ∈ SUBCOLLECTIONS) :
    Restorable py (listCollectionDocs (restoredStore py tenantId companyId companyDoc db)
      (collectionRef tenantId companyId name)) := by
  obtain ⟨hnodup, hkeys⟩ := (clean_restoredStore py tenantId companyId companyDoc db hname).keys py
    (collectionRef_ne_nil tenantId companyId name)
  refine ⟨hnodup, fun entry hentry => ?_⟩
  obtain ⟨source, -, hne, hid⟩ :=
    (restoredStore_isSome py tenantId companyId companyDoc db hname _).1
    ((hkeys _).1 (List.mem_map_of_mem hentry))
  rw [← hid]
  refine ⟨?_, hne⟩
  rw [entryId, ← hid, entryId, PyStr.strip_strip]

theorem restoredStore_again (path : DocPath) :
    (restoredStore py tenantId companyId companyDoc
      (restoredStore py tenantId companyId companyDoc db)).get? path =
      (restoredStore py tenantId companyId companyDoc db).get? path := by
  set once := restoredStore py tenantId companyId companyDoc db with honce
  by_cases hpath : inCollections (purgedCompany tenantId companyId) SUBCOLLECTIONS path = true
  · obtain ⟨name, hname, hdrop⟩ := List.any_eq_true.1 hpath
    obtain ⟨key, rfl⟩ :=
      path_of_dropLast (collectionRef_ne_nil tenantId companyId name) (of_decide_eq_true hdrop)
    have hclean : Clean once (collectionRef tenantId companyId name) :=
      clean_restoredStore py _ _ _ _ hname
    obtain ⟨hkept, hfound⟩ := restored_exact py tenantId companyId companyDoc once hname
      (restorable_restoredStore py tenantId companyId companyDoc db hname)
    have hname' : ∀ {id data}, once.get? (collectionRef tenantId companyId name ++ [id]) =
        some data → documentKey py id data = id := by
      intro id data hdata
      rw [documentKey, hclean id data hdata]
      rfl
    cases hdata : once.get? (collectionRef tenantId companyId name ++ [key]) with
    | some data =>
      have hagain := hkept key data hdata
      rw [hname' hdata] at hagain
      rw [hagain]
      refine congrArg some (Dict.ext (List.filter_eq_self.2 fun e he => ?_))
      refine decide_eq_true fun hid => ?_
      have hnone := hclean key data hdata
      rw [Dict.get?_eq_none_iff] at hnone
      exact hnone (hid ▸ List.mem_map_of_mem he)
    | none =>
      by_contra hsome
      obtain ⟨id, data, hfirst, hkey⟩ := hfound key (Option.isSome_iff_ne_none.2 hsome)
      rw [hname' hfirst] at hkey
      rw [hkey, hdata] at hfirst
      cases hfirst
  · rw [Bool.not_eq_true] at hpath
    rw [restoredStore_other py hpath, honce, restoredStore_other py hpath]
    split_ifs <;> rfl

end Verified

/-- A company with a product that stores its id. -/
def drillStore : Firestore := Dict.ofList
  [(purgedCompany "public" "ekaette-hotel", Dict.ofList [("schema_version", .int 1)]),
    (collectionRef "public" "ekaette-hotel" "knowledge" ++ ["kb-1"],
      Dict.ofList [("title", .str "FAQ")]),
    (collectionRef "public" "ekaette-hotel" "products" ++ ["p-1"],
      Dict.ofList [("id", .str "p-1"), ("name", .str "Phone")])]

end Ekaette.RestoreDrill
