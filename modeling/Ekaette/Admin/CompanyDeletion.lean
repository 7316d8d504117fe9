import Ekaette.Admin.DataRoutes
import Ekaette.Admin.Mutations
import Ekaette.Admin.RetentionPurge
import Ekaette.Admin.RuntimeImport
import Ekaette.Tools.Booking
import Ekaette.Tools.GlobalLessons

set_option autoImplicit false

/-! # Deleting a company

`delete_admin_company_route` with `_delete_company_bundle`. The documents of three subcollections
are deleted in batches, and then the document of the company. Firestore keeps the subcollections of
a deleted document: what stands in any other one, or deeper, is left. -/

namespace Ekaette

/-! ## The companies among the documents -/

/-- The tenant and the company whose document stands at a path. -/
def companyKey (path : DocPath) : Option (String × String) :=
  if path = purgedCompany (path.getD 1 "") (path.getD 3 "") then some (path.getD 1 "",
    path.getD 3 "") else none

theorem companyKey_eq_some_iff {path : DocPath} {key : String × String} :
    companyKey path = some key ↔ path = purgedCompany key.1 key.2 := by
  constructor
  · intro h
    unfold companyKey at h
    split_ifs at h with hpath
    obtain rfl := Option.some.inj h
    exact hpath
  · rintro rfl
    exact if_pos rfl

/-- The registry that the documents of the companies are. -/
def registryOf (db : Firestore) : AdminRegistry where
  entries := db.entries.filterMap (fun e => (companyKey e.1).map (fun key => (key, e.2)))
  nodup := by
    have hkeys : (db.entries.filterMap (fun e => (companyKey e.1).map (fun key => (key, e.2)))).map
        Prod.fst = (db.entries.map Prod.fst).filterMap companyKey := by
      rw [List.map_filterMap, List.filterMap_map]
      refine congrArg (fun f => List.filterMap f db.entries) (funext fun e => ?_)
      show Option.map Prod.fst (Option.map (fun key => (key, e.2)) (companyKey e.1)) =
        companyKey e.1
      cases companyKey e.1 <;> rfl
    rw [hkeys]
    refine db.nodup.filterMap fun path path' key h h' => ?_
    rw [companyKey_eq_some_iff.1 h, companyKey_eq_some_iff.1 h']

theorem get?_registryOf (db : Firestore) (key : String × String) :
    (registryOf db).get? key = db.get? (purgedCompany key.1 key.2) := by
  refine Option.ext fun doc => ?_
  rw [Dict.get?_eq_some_iff, Dict.get?_eq_some_iff]
  show (key, doc) ∈ db.entries.filterMap _ ↔ _
  rw [List.mem_filterMap]
  constructor
  · rintro ⟨e, he, hkey⟩
    obtain ⟨key', hcompany, hpair⟩ := Option.map_eq_some_iff.1 hkey
    obtain ⟨rfl, rfl⟩ := Prod.mk.inj hpair
    rwa [← companyKey_eq_some_iff.1 hcompany]
  · intro hentry
    exact ⟨_, hentry, Option.map_eq_some_iff.2 ⟨key, companyKey_eq_some_iff.2 rfl, rfl⟩⟩

/-- `_upsert_registry_company_doc`: the documents, and whether the company is new. -/
def upsertCompanyDoc (py : StrMethods) (tenantId companyId : String) (fields : CompanyFields)
    (nowIso : String) (db : Firestore) : Firestore × Bool :=
  let stored := (db.get? (purgedCompany tenantId companyId)).getD .empty
  let payload := withCreatedAt (adminCompanyPayload py tenantId companyId fields nowIso)
    (some (upsertCreatedAt stored nowIso))
  (db.set (purgedCompany tenantId companyId) (stored.mergeDeep payload), stored.entries.isEmpty)

/-! ## The deletion -/

/-- Where a deletion has got to: the store, `deleted_counts`, and the number of accesses made. -/
structure BundleDeletion where
  db : Firestore
  deletedCounts : Dict String ℕ
  accesses : ℕ

section Bundle

variable (storage : ℕ → Access)

/-- The next access to the store. Where it is not served it raises, and leaves a store. -/
def BundleDeletion.access (effect : Firestore → Firestore) (s : BundleDeletion) :
    Except Firestore BundleDeletion :=
  match storage s.accesses with
  | .served => .ok { s with db := effect s.db, accesses := s.accesses + 1 }
  | .refused => .error s.db
  | .lost => .error (effect s.db)

/-- `_batch_delete_documents` of a chunk, which is counted. -/
def deleteChunk (subcollection : String) (s : BundleDeletion) (chunk : List DocPath) :
    Except Firestore BundleDeletion := do
  let s ← s.access storage (fun db => db.eraseAll chunk)
  return { s with deletedCounts :=
    s.deletedCounts.set subcollection (s.deletedCounts.getD subcollection 0 + chunk.length) }

/-- The body of the loop over the subcollections. -/
def deleteSubcollection (companyDocRef : DocPath) (s : BundleDeletion) (subcollection : String) :
    Except Firestore BundleDeletion := do
  let s ← s.access storage id
  let docRefs :=
    (collectQueryDocs s.db (companyDocRef ++ [subcollection])).filterMap DocSnapshot.reference
  (Batches.slices 500 docRefs).foldlM (deleteChunk storage subcollection) s

/-- The subcollections that are deleted. -/
def bundleSubcollections : List String := ["knowledge", "products", "booking_slots"]

/-- `_delete_company_bundle`, with a client. -/
def deleteCompanyBundle (tenantId companyId : String) (db : Firestore) :
    Except Firestore BundleDeletion := do
  let companyDocRef := purgedCompany tenantId companyId
  let deletedCounts : Dict String ℕ :=
    Dict.ofList [("knowledge", 0), ("products", 0), ("booking_slots", 0), ("company", 0)]
  let s ← bundleSubcollections.foldlM (deleteSubcollection storage companyDocRef) ⟨db,
    deletedCounts, 0⟩
  let s ← s.access storage id
  if (s.db.get? companyDocRef).isSome then
    let s ← s.access storage (fun db => db.erase companyDocRef)
    return { s with deletedCounts := s.deletedCounts.set "company" 1 }
  else return s

end Bundle

/-! ## The route -/

structure DeletionServer where
  routes : DataRoutes
  idempotency : AdminIdempotency PyValue PyValue
  /-- `IDEMPOTENCY_STORE_BACKEND == "firestore"` -/
  idempotencyUsesFirestore : Bool

def DeletionServer.backend (server : DeletionServer) : AdminBackend PyValue PyValue :=
  if server.idempotencyUsesFirestore then firestoreBackend server.idempotency
  else memoryBackend server.idempotency

/-- What a request meets when it is handled. -/
structure DeletionHandling where
  /-- `_check_rate_limit` says no. -/
  rateLimited : Bool
  /-- the registry is read -/
  reads : Bool
  /-- the accesses of the deletion -/
  storage : ℕ → Access
  /-- `time.time()` in the preflight -/
  began : ℚ
  /-- `time.time()` in the commit -/
  ended : ℚ

/-- The documents, and apart from them the idempotency entries, which are documents of `_runtime` or
    in memory. -/
structure DeletionState where
  docs : Firestore
  entries : AdminStore PyValue

/-- The answer to a request. -/
inductive DeletionReply where
  | refused (refusal : AdminRefusal)
  | answered (response : AdminResponse)
  | replayed (response : AdminResponse)
  | deleted (response : AdminResponse)

namespace DeletionReply

/-- It is a success: the company has been deleted now, or a recorded success is replayed. -/
def Succeeds : DeletionReply → Prop
  | .deleted _ => True
  | .replayed response => response.status < 400
  | _ => False

instance : DecidablePred Succeeds
  | .deleted _ => inferInstanceAs (Decidable True)
  | .replayed response => inferInstanceAs (Decidable (response.status < 400))
  | .refused _ => inferInstanceAs (Decidable False)
  | .answered _ => inferInstanceAs (Decidable False)

def isReplay : DeletionReply → Bool
  | .replayed _ => true
  | _ => false

end DeletionReply

/-- The idempotency key of a request, in its scope. -/
def deletionKey (tenantId idempotencyKey : String) : AdminKey :=
  ⟨"admin_company_delete", tenantId, idempotencyKey⟩

/-- From the preflight to the commit. -/
def DeletionServer.deleteOnce (server : DeletionServer) (handling : DeletionHandling)
    (tenantId companyId idempotencyKey : String) (s : DeletionState) :
    DeletionState × DeletionReply :=
  let begun := server.backend.beginWithKey (deletionKey tenantId idempotencyKey)
    (.dict [("companyId", .str companyId)]) handling.began s.entries
  match begun.2 with
  | .replay statusCode body => (⟨s.docs, begun.1⟩, .replayed ⟨statusCode, body⟩)
  | .rejected rejection => (⟨s.docs, begun.1⟩, .answered rejection.response)
  | .execute idempotencyKey fingerprint =>
    match if server.routes.hasClient then deleteCompanyBundle handling.storage tenantId companyId
        s.docs else .error s.docs with
    | .error left => (⟨left, begun.1⟩, .answered (storageUnavailable []))
    | .ok done =>
      let response :
        AdminResponse := ⟨200, .dict [("apiVersion", .str "v1"), ("tenantId", .str tenantId),
        ("companyId", .str companyId),
        ("deleted", .dict (done.deletedCounts.entries.map fun e => (e.1, .int e.2)))]⟩
      let entries := match committedKey "admin_company_delete" tenantId (some idempotencyKey)
          (some fingerprint) with
        | none => begun.1
        | some (key, fingerprint) =>
          server.backend.record key fingerprint response.status response.body handling.ended begun.1
      (⟨done.db, entries⟩, .deleted response)

/-- The tenant and the company of a request that is let through. -/
def DeletionServer.target (server : DeletionServer) (req : AdminDataRequest)
    (handling : DeletionHandling) : Except DeletionReply (String × String) :=
  match dataTenant server.routes .deleteCompany req ⟨handling.rateLimited, none, none, 0⟩ with
  | .error refusal => .error (.refused refusal)
  | .ok tenantId =>
    match normalizeCompanyIdStrict server.routes.py req.companyId with
    | none =>
      .error (.answered (adminError 404 "Company not found for tenant" "COMPANY_NOT_FOUND" []))
    | some companyId => .ok (tenantId, companyId)

/-- `delete_admin_company_route`. -/
def DeletionServer.deleteAdminCompanyRoute (server : DeletionServer) (req : AdminDataRequest)
    (handling : DeletionHandling) (s : DeletionState) : DeletionState × DeletionReply :=
  match server.target req handling with
  | .error reply => (s, reply)
  | .ok (tenantId, companyId) =>
    match loadRegistryCompanyDoc ⟨"", handling.reads && server.routes.hasClient, true⟩
        (registryOf s.docs) tenantId companyId with
    | .error response => (s, .answered response)
    | .ok _ =>
      match idempotencyKeyDependency (req.headers.get? "idempotency-key") with
      | .error rejection => (s, .answered rejection.response)
      | .ok idempotencyKey => server.deleteOnce handling tenantId companyId idempotencyKey s

/-! ## What is deleted -/

theorem bind_eq_ok_iff {ε α β : Type} {x : Except ε α} {f : α → Except ε β} {b : β} :
    x >>= f = .ok b ↔ ∃ a, x = .ok a ∧ f a = .ok b := by
  constructor
  · intro h
    cases x with
    | error e => cases h
    | ok a => exact ⟨a, rfl, h⟩
  · rintro ⟨a, rfl, h⟩
    exact h

/-- The documents of a collection. -/
def refsIn (db : Firestore) (col : DocPath) : List DocPath :=
  (db.entries.filter (fun e => e.1.dropLast = col)).map Prod.fst

theorem mem_refsIn {db : Firestore} {col path : DocPath} :
    path ∈ refsIn db col ↔ path.dropLast = col ∧ (db.get? path).isSome = true := by
  rw [refsIn, List.mem_map]
  constructor
  · rintro ⟨e, he, rfl⟩
    obtain ⟨hentry, hcol⟩ := List.mem_filter.1 he
    rw [(Dict.get?_eq_some_iff db e.1 e.2).2 hentry]
    exact ⟨of_decide_eq_true hcol, rfl⟩
  · rintro ⟨hcol, hsome⟩
    obtain ⟨doc, hdoc⟩ := Option.isSome_iff_exists.1 hsome
    exact ⟨(path, doc), List.mem_filter.2 ⟨(Dict.get?_eq_some_iff db path doc).1 hdoc,
      decide_eq_true hcol⟩, rfl⟩

theorem filterMap_collectQueryDocs (db : Firestore) (col : DocPath) :
    (collectQueryDocs db col).filterMap DocSnapshot.reference = refsIn db col := by
  rw [collectQueryDocs, List.filterMap_map, refsIn, ← List.filterMap_eq_map]
  rfl

/-- Another collection keeps its documents. -/
theorem refsIn_eraseAll (db : Firestore) {col col' : DocPath} (hne : col ≠ col') :
    refsIn (db.eraseAll (refsIn db col')) col = refsIn db col := by
  show List.map Prod.fst ((db.eraseAll (refsIn db col')).entries.filter fun e =>
    decide (e.1.dropLast = col)) =
    List.map Prod.fst (db.entries.filter fun e => decide (e.1.dropLast = col))
  rw [Dict.entries_eraseAll, List.filter_filter]
  refine congrArg (List.map Prod.fst) (List.filter_congr fun e _ => ?_)
  by_cases hcol : e.1.dropLast = col
  · have hkept : e.1 ∉ refsIn db col' := fun hmem => hne (hcol.symm.trans (mem_refsIn.1 hmem).1)
    simp [hcol, hkept]
  · rw [decide_eq_false hcol, Bool.false_and]

/-- Documents of a subcollection have been deleted and counted. -/
structure Deletes (subcollection : String) (refs : List DocPath) (s s' : BundleDeletion) :
    Prop where
  db : s'.db = s.db.eraseAll refs
  counted : ∀ name, s'.deletedCounts.getD name 0 =
    s.deletedCounts.getD name 0 + if name = subcollection then refs.length else 0

section Steps

variable {storage : ℕ → Access} {s s' s'' : BundleDeletion}

theorem access_ok {effect : Firestore → Firestore} (h : s.access storage effect = .ok s') :
    s'.db = effect s.db ∧ s'.deletedCounts = s.deletedCounts := by
  unfold BundleDeletion.access at h
  cases haccess : storage s.accesses with
  | served =>
    rw [haccess] at h
    obtain rfl := Except.ok.inj h
    exact ⟨rfl, rfl⟩
  | refused =>
    rw [haccess] at h
    cases h
  | lost =>
    rw [haccess] at h
    cases h

variable {subcollection : String}

theorem Deletes.trans {refs refs' : List DocPath}
    (h : Deletes subcollection refs s s') (h' : Deletes subcollection refs' s' s'') :
    Deletes subcollection (refs ++ refs') s s'' where
  db := by rw [h'.db, h.db, Dict.eraseAll, Dict.eraseAll, Dict.eraseAll, List.foldl_append]
  counted name := by
    rw [h'.counted, h.counted, List.length_append]
    split_ifs <;> omega

theorem deleteChunk_ok {chunk : List DocPath}
    (h : deleteChunk storage subcollection s chunk = .ok s') :
    Deletes subcollection chunk s s' := by
  obtain ⟨s₁, haccess, hreturn⟩ := bind_eq_ok_iff.1 h
  obtain ⟨hdb, hcounts⟩ := access_ok haccess
  obtain rfl := Except.ok.inj hreturn
  refine ⟨hdb, fun name => ?_⟩
  rw [Dict.getD, Dict.get?_set, hcounts]
  split_ifs with hname
  · rw [hname]
    rfl
  · rfl

/-- **The chunks** delete the references, and count them. -/
theorem deleteChunks_ok {chunks : List (List DocPath)}
    (h : chunks.foldlM (deleteChunk storage subcollection) s = .ok s') :
    Deletes subcollection chunks.flatten s s' := by
  induction chunks generalizing s with
  | nil =>
    obtain rfl := Except.ok.inj h
    exact ⟨rfl, fun name => by split_ifs <;> rfl⟩
  | cons chunk chunks ih =>
    rw [List.foldlM_cons] at h
    obtain ⟨s₁, hchunk, hrest⟩ := bind_eq_ok_iff.1 h
    exact (deleteChunk_ok hchunk).trans (ih hrest)

/-- **A subcollection** is deleted. -/
theorem deleteSubcollection_ok {companyDocRef : DocPath} {subcollection : String}
    (h : deleteSubcollection storage companyDocRef s subcollection = .ok s') :
    Deletes subcollection (refsIn s.db (companyDocRef ++ [subcollection])) s s' := by
  obtain ⟨s₁, haccess, hchunks⟩ := bind_eq_ok_iff.1 h
  obtain ⟨hdb, hcounts⟩ := access_ok haccess
  have hdeletes := deleteChunks_ok hchunks
  rw [filterMap_collectQueryDocs, Batches.flatten_slices (by decide), hdb] at hdeletes
  exact ⟨by rw [hdeletes.db, hdb, id], fun name => by rw [hdeletes.counted, hcounts, id]⟩

/-- **All subcollections** are deleted, each with its count. -/
theorem deleteSubcollections_ok {companyDocRef : DocPath} {names : List String}
    (hnames : names.Nodup) (h : names.foldlM (deleteSubcollection storage companyDocRef) s = .ok s')
    : (∀ path, s'.db.get? path = if inCollections companyDocRef names path then none else s.db.get?
      path) ∧ ∀ name, s'.deletedCounts.getD name 0 = s.deletedCounts.getD name 0 +
        if name ∈ names then (refsIn s.db (companyDocRef ++ [name])).length else 0 := by
  induction names generalizing s with
  | nil =>
    obtain rfl := Except.ok.inj h
    exact ⟨fun path => rfl, fun name => rfl⟩
  | cons name names ih =>
    rw [List.foldlM_cons] at h
    obtain ⟨s₁, hfirst, hrest⟩ := bind_eq_ok_iff.1 h
    obtain ⟨hnew, hnodup⟩ := List.nodup_cons.1 hnames
    have hdeletes := deleteSubcollection_ok hfirst
    obtain ⟨hget, hcounted⟩ := ih hnodup hrest
    refine ⟨fun path => ?_, fun name' => ?_⟩
    · rw [hget, hdeletes.db, Dict.get?_eraseAll, inCollections, inCollections, List.any_cons]
      by_cases hcol : path.dropLast = companyDocRef ++ [name]
      · -- what is not listed there was not stored
        rw [decide_eq_true hcol, Bool.true_or, if_pos rfl]
        by_cases hstored : path ∈ refsIn s.db (companyDocRef ++ [name])
        · rw [if_pos hstored, ite_self]
        · have hnone : s.db.get? path = none := by
            by_contra hsome
            exact hstored (mem_refsIn.2 ⟨hcol, Option.isSome_iff_ne_none.2 hsome⟩)
          rw [if_neg hstored, hnone, ite_self]
      · rw [decide_eq_false hcol, Bool.false_or, if_neg fun hmem => hcol (mem_refsIn.1 hmem).1]
    · rw [hcounted, hdeletes.counted, hdeletes.db]
      by_cases hname : name' = name
      · rw [hname, if_pos rfl, if_neg hnew, if_pos List.mem_cons_self, Nat.add_zero]
      · -- the first subcollection is gone, and the others are counted as before
        have hcols : companyDocRef ++ [name'] ≠ companyDocRef ++ [name] := by
          rw [Ne, List.append_cancel_left_eq, List.singleton_inj]
          exact hname
        rw [if_neg hname, Nat.add_zero, refsIn_eraseAll _ hcols]
        exact congrArg _ (if_congr ⟨List.mem_cons_of_mem _, fun h =>
          (List.mem_cons.1 h).resolve_left hname⟩ rfl rfl)

end Steps

/-! ## The bundle -/

/-- A document that is deleted with its company: its own, or one in a subcollection of the
    bundle. -/
def InBundle (tenantId companyId : String) (path : DocPath) : Prop :=
  path = purgedCompany tenantId companyId ∨
    inCollections (purgedCompany tenantId companyId) bundleSubcollections path = true

instance (tenantId companyId : String) : DecidablePred (InBundle tenantId companyId) :=
  fun _ => inferInstanceAs (Decidable (_ ∨ _))

/-- What the deletion of a bundle makes of the store, and what it counts. -/
structure DeletesBundle (tenantId companyId : String) (before : Firestore) (done : BundleDeletion) :
    Prop where
  get? : ∀ path, done.db.get? path = if InBundle tenantId companyId path then none else before.get?
    path
  counted : ∀ name ∈ bundleSubcollections, done.deletedCounts.getD name 0 =
    (refsIn before (purgedCompany tenantId companyId ++ [name])).length
  company : done.deletedCounts.getD "company" 0 =
    if (before.get? (purgedCompany tenantId companyId)).isSome then 1 else 0

theorem inCollections_company (tenantId companyId tenantId' companyId' : String)
    (names : List String) : inCollections (purgedCompany tenantId companyId) names
    (purgedCompany tenantId' companyId') = false := by
  rw [inCollections, List.any_eq_false]
  intro name _ hname
  have hlength := congrArg List.length (of_decide_eq_true hname)
  simp [purgedCompany] at hlength

/-- **The bundle** is deleted, and nothing else. -/
theorem deleteCompanyBundle_ok {storage : ℕ → Access} {tenantId companyId : String} {db : Firestore}
    {done : BundleDeletion} (h : deleteCompanyBundle storage tenantId companyId db = .ok done) :
    DeletesBundle tenantId companyId db done := by
  obtain ⟨s₁, hsubcollections, hrest⟩ := bind_eq_ok_iff.1 h
  obtain ⟨s₂, hread, hlast⟩ := bind_eq_ok_iff.1 hrest
  obtain ⟨hget, hcounted⟩ := deleteSubcollections_ok (by decide) hsubcollections
  obtain ⟨hdb, hcounts⟩ := access_ok hread
  have hcompany := hget (purgedCompany tenantId companyId)
  rw [inCollections_company, if_neg Bool.false_ne_true] at hcompany
  dsimp only [id] at hdb
  have hnames : ∀ name ∈ bundleSubcollections, s₁.deletedCounts.getD name 0 =
      (refsIn db (purgedCompany tenantId companyId ++ [name])).length := by
    intro name hname
    rw [hcounted, if_pos hname]
    rcases List.mem_cons.1 hname with rfl | hname
    · exact Nat.zero_add _
    rcases List.mem_pair.1 hname with rfl | rfl
    · exact Nat.zero_add _
    · exact Nat.zero_add _
  have hnone : s₁.deletedCounts.getD "company" 0 = 0 := by
    rw [hcounted, if_neg (by decide)]
    rfl
  rw [hdb, hcompany] at hlast
  by_cases hexists : (db.get? (purgedCompany tenantId companyId)).isSome = true
  · rw [if_pos hexists] at hlast
    obtain ⟨s₃, hdelete, hreturn⟩ := bind_eq_ok_iff.1 hlast
    obtain ⟨hdb', hcounts'⟩ := access_ok hdelete
    obtain rfl := Except.ok.inj hreturn
    refine ⟨fun path => ?_, fun name hname => ?_, ?_⟩
    · show s₃.db.get? path = _
      rw [hdb', hdb, Dict.get?_erase, hget]
      by_cases hpath : path = purgedCompany tenantId companyId
      · rw [if_pos hpath, if_pos (.inl hpath)]
      · rw [if_neg hpath]
        exact if_congr ⟨.inr, fun h => h.resolve_left hpath⟩ rfl rfl
    · have hne : name ≠ "company" := by
        rintro rfl
        exact absurd hname (by decide)
      rw [Dict.getD, Dict.get?_set_of_ne _ _ hne, ← Dict.getD, hcounts', hcounts, hnames name hname]
    · rw [if_pos hexists, Dict.getD, Dict.get?_set_self]
      rfl
  · rw [if_neg hexists] at hlast
    obtain rfl := Except.ok.inj hlast
    refine ⟨fun path => ?_, fun name hname => ?_, ?_⟩
    · rw [hdb, hget]
      by_cases hpath : path = purgedCompany tenantId companyId
      · rw [hpath, inCollections_company, if_neg Bool.false_ne_true, if_pos (.inl rfl)]
        exact Option.not_isSome_iff_eq_none.1 hexists
      · exact if_congr ⟨.inr, fun h => h.resolve_left hpath⟩ rfl rfl
    · rw [hcounts, hnames name hname]
    · rw [hcounts, hnone, if_neg hexists]

/-! ## Companies after a deletion -/

theorem purgedCompany_injective {key key' : String × String}
    (h : purgedCompany key.1 key.2 = purgedCompany key'.1 key'.2) : key = key' := by
  simp only [purgedCompany, List.cons.injEq, true_and, and_true] at h
  exact Prod.ext h.1 h.2

/-- **The registry** loses the company, as where only the companies are kept. -/
theorem DeletesBundle.registry {tenantId companyId : String} {before : Firestore}
    {done : BundleDeletion} (h : DeletesBundle tenantId companyId before done)
    (key : String × String) :
    (registryOf done.db).get? key = ((registryOf before).erase (tenantId, companyId)).get? key := by
  rw [get?_registryOf, h.get?, Dict.get?_erase, get?_registryOf]
  refine if_congr ⟨?_, ?_⟩ rfl rfl
  · rintro (hsame | hin)
    · exact purgedCompany_injective hsame
    · rw [inCollections_company] at hin
      cases hin
  · rintro rfl
    exact .inl rfl

/-- At or below the document of a company. -/
def AtOrBelow (tenantId companyId : String) (path : DocPath) : Prop :=
  purgedCompany tenantId companyId <+: path

/-- A company that is created starts empty: at and below its document the store is then as if it had
    been empty. -/
def StartsEmpty (py : StrMethods) (tenantId companyId : String) (db : Firestore) : Prop :=
  ∀ (fields : CompanyFields) (nowIso : String) (path : DocPath), AtOrBelow tenantId companyId path →
    (upsertCompanyDoc py tenantId companyId fields nowIso db).1.get? path =
      (upsertCompanyDoc py tenantId companyId fields nowIso .empty).1.get? path

section Creation

variable {py : StrMethods} {tenantId companyId : String} {db : Firestore}

theorem upsertCompanyDoc_new (habsent : db.get? (purgedCompany tenantId companyId) = none)
    (fields : CompanyFields) (nowIso : String) :
    (upsertCompanyDoc py tenantId companyId fields nowIso db).1.get?
    (purgedCompany tenantId companyId) =
      (upsertCompanyDoc py tenantId companyId fields nowIso .empty).1.get?
      (purgedCompany tenantId companyId) := by
  rw [upsertCompanyDoc, upsertCompanyDoc, Dict.get?_set_self, Dict.get?_set_self, habsent,
    Dict.get?_empty]

theorem startsEmpty_iff (habsent : db.get? (purgedCompany tenantId companyId) = none) :
    StartsEmpty py tenantId companyId db ↔ ∀ path, AtOrBelow tenantId companyId path →
    db.get? path = none := by
  have hother : ∀ (db : Firestore) fields nowIso {path : DocPath},
    path ≠ purgedCompany tenantId companyId →
      (upsertCompanyDoc py tenantId companyId fields nowIso db).1.get? path = db.get? path := by
    intro db fields nowIso path hpath
    exact Dict.get?_set_of_ne _ _ hpath
  constructor
  · intro h path hbelow
    by_cases hpath : path = purgedCompany tenantId companyId
    · rw [hpath, habsent]
    · have hsame := h ⟨"", "", "", .empty, "", .empty, []⟩ "" path hbelow
      rwa [hother _ _ _ hpath, hother _ _ _ hpath, Dict.get?_empty] at hsame
  · intro h fields nowIso path hbelow
    by_cases hpath : path = purgedCompany tenantId companyId
    · rw [hpath, upsertCompanyDoc_new habsent]
    · rw [hother _ _ _ hpath, hother _ _ _ hpath, h path hbelow, Dict.get?_empty]

end Creation

/-! ## Answered requests -/

/-- In Firestore only the entry of the key is another one. -/
def DeletionServer.KeepsEntries (server : DeletionServer) (key : AdminKey) (s s' : DeletionState) :
    Prop :=
  server.idempotencyUsesFirestore = true →
    ∀ id, id ≠ server.idempotency.docId key → s'.entries.get? id = s.entries.get? id

section Answers

variable {server : DeletionServer} {handling : DeletionHandling}
  {tenantId companyId idempotencyKey : String} {s : DeletionState}

theorem beginWithKey_keeps (key : AdminKey) (payload : PyValue) (now : ℚ)
    (hfirestore : server.idempotencyUsesFirestore = true) {id : String}
    (hid : id ≠ server.idempotency.docId key) :
    (server.backend.beginWithKey key payload now s.entries).1.get? id = s.entries.get? id := by
  rw [DeletionServer.backend, if_pos hfirestore]
  show (firestoreBeginWithKey server.idempotency key payload now s.entries).1.get? id = _
  unfold firestoreBeginWithKey
  cases s.entries.get? (server.idempotency.docId key) with
  | none => exact Dict.get?_set_of_ne _ _ hid
  | some entry => rfl

theorem record_keeps (key : AdminKey) (fingerprint : String) (statusCode : ℤ) (body : PyValue)
    (now : ℚ) (store : AdminStore PyValue) (hfirestore : server.idempotencyUsesFirestore = true)
    {id : String} (hid : id ≠ server.idempotency.docId key) :
    (server.backend.record key fingerprint statusCode body now store).get? id = store.get? id := by
  rw [DeletionServer.backend, if_pos hfirestore]
  exact Dict.get?_set_of_ne _ _ hid

/-- A preflight that lets a request through gives its key back. -/
theorem beginWithKey_execute {key : AdminKey} {payload : PyValue} {now : ℚ}
    {store : AdminStore PyValue} {idempotencyKey fingerprint : String}
    (h : (server.backend.beginWithKey key payload now store).2 = .execute idempotencyKey
      fingerprint) :
    idempotencyKey = key.idempotencyKey := by
  unfold DeletionServer.backend at h
  split_ifs at h
  · change (firestoreBeginWithKey server.idempotency key payload now store).2 = _ at h
    unfold firestoreBeginWithKey at h
    cases hget : store.get? (server.idempotency.docId key) with
    | none =>
      rw [hget] at h
      obtain ⟨rfl, -⟩ := AdminDecision.execute.inj h
      rfl
    | some entry =>
      rw [hget] at h
      exact absurd h (decideOnDoc_ne_execute _ _ _ _ _)
  · change (memoryBeginWithKey server.idempotency key payload now store).2 = _ at h
    cases hget : (idempotencyPrune now store).get? key.storeKey with
    | none =>
      rw [memoryBeginWithKey_absent hget] at h
      obtain ⟨rfl, -⟩ := AdminDecision.execute.inj h
      rfl
    | some entry =>
      rw [memoryBeginWithKey_found hget] at h
      exact absurd h (decideOnDoc_ne_execute _ _ _ _ _)

/-- **From the preflight on** a request that is answered with success is a replay, which leaves the
    documents, or the bundle has been deleted. -/
theorem deleteOnce_succeeds
    (h : (server.deleteOnce handling tenantId companyId idempotencyKey s).2.Succeeds) :
    server.KeepsEntries (deletionKey tenantId idempotencyKey) s
        (server.deleteOnce handling tenantId companyId idempotencyKey s).1 ∧
      ((∃ response, (server.deleteOnce handling tenantId companyId idempotencyKey s).2 =
        .replayed response ∧
        (server.deleteOnce handling tenantId companyId idempotencyKey s).1.docs = s.docs) ∨
      ∃ response done, (server.deleteOnce handling tenantId companyId idempotencyKey s).2 =
      .deleted response ∧
        deleteCompanyBundle handling.storage tenantId companyId s.docs = .ok done ∧
        (server.deleteOnce handling tenantId companyId idempotencyKey s).1.docs = done.db) := by
  unfold DeletionServer.deleteOnce at h ⊢
  dsimp only at h ⊢
  cases hdecided : (server.backend.beginWithKey (deletionKey tenantId idempotencyKey)
      (.dict [("companyId", .str companyId)]) handling.began s.entries).2 with
  | replay statusCode body => exact ⟨beginWithKey_keeps _ _ _, .inl ⟨_, rfl, rfl⟩⟩
  | rejected rejection =>
    rw [hdecided] at h
    cases h
  | execute key fingerprint =>
    rw [hdecided] at h
    dsimp only at h ⊢
    obtain rfl := beginWithKey_execute hdecided
    by_cases hclient : server.routes.hasClient = true
    · rw [if_pos hclient] at h ⊢
      cases hbundle : deleteCompanyBundle handling.storage tenantId companyId s.docs with
      | error left =>
        rw [hbundle] at h
        cases h
      | ok done =>
        refine ⟨fun hfirestore id hid => ?_, .inr ⟨_, done, rfl, rfl, rfl⟩⟩
        dsimp only [committedKey]
        split_ifs
        · exact beginWithKey_keeps _ _ _ hfirestore hid
        · exact (record_keeps _ _ _ _ _ _ hfirestore hid).trans
            (beginWithKey_keeps _ _ _ hfirestore hid)
    · rw [if_neg hclient] at h
      cases h

end Answers

/-- A request without a target is turned away. -/
theorem not_succeeds_of_target {server : DeletionServer} {req : AdminDataRequest}
    {handling : DeletionHandling} {reply : DeletionReply}
    (h : server.target req handling = .error reply) : ¬ reply.Succeeds := by
  unfold DeletionServer.target at h
  cases htenant : dataTenant server.routes .deleteCompany req ⟨handling.rateLimited, none, none,
      0⟩ with
  | error refusal =>
    rw [htenant] at h
    obtain rfl := Except.error.inj h
    exact id
  | ok tenantId =>
    rw [htenant] at h
    dsimp only at h
    cases hcompany : normalizeCompanyIdStrict server.routes.py req.companyId with
    | none =>
      rw [hcompany] at h
      obtain rfl := Except.error.inj h
      exact id
    | some companyId =>
      rw [hcompany] at h
      cases h

/-- What a deletion has done that is answered with success, and is no replay. -/
structure DeletesCompany (server : DeletionServer) (tenantId companyId idempotencyKey : String)
    (s s' : DeletionState) : Prop where
  /-- The documents of the bundle are gone; every other document is as it was. -/
  get? : ∀ path, s'.docs.get? path = if InBundle tenantId companyId path then none else s.docs.get?
    path
  /-- Of the idempotency entries only the request's own is another one. -/
  entries : server.KeepsEntries (deletionKey tenantId idempotencyKey) s s'
  /-- A company that is created later gets a new document. -/
  newDocument : ∀ later : Firestore,
    (∀ path, AtOrBelow tenantId companyId path → later.get? path = s'.docs.get? path) →
    ∀ fields nowIso,
      (upsertCompanyDoc server.routes.py tenantId companyId fields nowIso later).1.get?
          (purgedCompany tenantId companyId) =
        (upsertCompanyDoc server.routes.py tenantId companyId fields nowIso .empty).1.get?
          (purgedCompany tenantId companyId)
  /-- It starts empty exactly if nothing stood below the company outside the bundle. -/
  startsEmpty_iff : ∀ later : Firestore,
    (∀ path, AtOrBelow tenantId companyId path → later.get? path = s'.docs.get? path) →
      (StartsEmpty server.routes.py tenantId companyId later ↔
        ∀ path, AtOrBelow tenantId companyId path → ¬ InBundle tenantId companyId path →
        s.docs.get? path = none)

theorem deletesCompany_of_get? {server : DeletionServer} {tenantId companyId idempotencyKey :
    String} {s s' : DeletionState}
    (hget : ∀ path, s'.docs.get? path = if InBundle tenantId companyId
      path then none else s.docs.get? path)
    (hentries : server.KeepsEntries (deletionKey tenantId idempotencyKey) s s') :
    DeletesCompany server tenantId companyId idempotencyKey s s' := by
  have habsent : ∀ later : Firestore,
      (∀ path, AtOrBelow tenantId companyId path → later.get? path = s'.docs.get? path) →
        later.get? (purgedCompany tenantId companyId) = none := by
    intro later hlater
    rw [hlater _ List.prefix_rfl, hget, if_pos (.inl rfl)]
  refine ⟨hget, hentries, fun later hlater fields nowIso =>
    upsertCompanyDoc_new (habsent later hlater) fields nowIso,
    fun later hlater => (startsEmpty_iff (habsent later hlater)).trans ⟨fun h path hbelow hout =>
      ?_,
      fun h path hbelow => ?_⟩⟩
  · have hnone := h path hbelow
    rwa [hlater path hbelow, hget, if_neg hout] at hnone
  · rw [hlater path hbelow, hget]
    split_ifs with hin
    · rfl
    · exact h path hbelow hin

/-- **A company deletion** that is answered with success is a replay, which leaves the documents as
    they are, or it deletes the bundle of its company and nothing else. -/
theorem companyDeletion_exact (server : DeletionServer) (req : AdminDataRequest)
    (handling : DeletionHandling) (s : DeletionState)
    (hsuccess : (server.deleteAdminCompanyRoute req handling s).2.Succeeds) :
    ∃ tenantId companyId idempotencyKey, server.target req handling = .ok (tenantId, companyId) ∧
      idempotencyKeyDependency (req.headers.get? "idempotency-key") = .ok idempotencyKey ∧
      ((∃ response, (server.deleteAdminCompanyRoute req handling s).2 = .replayed response ∧
        (server.deleteAdminCompanyRoute req handling s).1.docs = s.docs) ∨
      ∃ response, (server.deleteAdminCompanyRoute req handling s).2 = .deleted response ∧
        DeletesCompany server tenantId companyId idempotencyKey s
          (server.deleteAdminCompanyRoute req handling s).1) := by
  unfold DeletionServer.deleteAdminCompanyRoute at hsuccess ⊢
  cases htarget : server.target req handling with
  | error reply =>
    rw [htarget] at hsuccess
    exact absurd hsuccess (not_succeeds_of_target htarget)
  | ok target =>
    obtain ⟨tenantId, companyId⟩ := target
    rw [htarget] at hsuccess
    dsimp only at hsuccess ⊢
    cases hload : loadRegistryCompanyDoc ⟨"", handling.reads && server.routes.hasClient, true⟩
        (registryOf s.docs) tenantId companyId with
    | error response =>
      rw [hload] at hsuccess
      cases hsuccess
    | ok company =>
      rw [hload] at hsuccess
      dsimp only at hsuccess ⊢
      cases hkey : idempotencyKeyDependency (req.headers.get? "idempotency-key") with
      | error rejection =>
        rw [hkey] at hsuccess
        cases hsuccess
      | ok idempotencyKey =>
        rw [hkey] at hsuccess
        dsimp only at hsuccess ⊢
        refine ⟨tenantId, companyId, idempotencyKey, rfl, rfl, ?_⟩
        obtain ⟨hentries, hreplayed | ⟨response, done, hreply, hbundle, hdocs⟩⟩ :=
          deleteOnce_succeeds hsuccess
        · exact .inl hreplayed
        · have hget := (deleteCompanyBundle_ok hbundle).get?
          rw [← hdocs] at hget
          exact .inr ⟨response, hreply, deletesCompany_of_get? hget hentries⟩

/-! ## What is left of a shop -/

/-- A write of the program at or below the document of a company. -/
inductive TenantWrite where
  | company (tenantId companyId : String) (fields : CompanyFields) (nowIso : String)
  | products (tenantId companyId dataTier : String) (items : List PyValue)
  | slots (tenantId companyId dataTier : String) (items : List PyValue)
  | booking (ctx : ToolContext) (req : BookingRequest) (confirmationId now : String)
  | lesson (tenantId companyId : String) (draft : LessonDraft) (hex createdAt : String)

/-- The documents after a write that is served. -/
def TenantWrite.apply (py : StrMethods) (db : Firestore) : TenantWrite → Firestore
  | .company tenantId companyId fields nowIso =>
    (upsertCompanyDoc py tenantId companyId fields nowIso db).1
  | .products tenantId companyId dataTier items =>
    (importCompanyProducts py tenantId companyId dataTier (some db) items).1.getD db
  | .slots tenantId companyId dataTier items =>
    (importCompanyBookingSlots py tenantId companyId dataTier (some db) items).1.getD db
  | .booking ctx req confirmationId now => (createBooking ctx req confirmationId now .served db).1
  | .lesson tenantId companyId draft hex createdAt =>
    (submitGlobalLesson tenantId companyId draft hex createdAt .served db).1

def written (py : StrMethods) (writes : List TenantWrite) : Firestore :=
  writes.foldl (TenantWrite.apply py) .empty

/-- The administrators of a tenant delete companies; a payload tells its company apart. -/
def deletionServer : DeletionServer where
  routes := headerRoutes
  idempotency := {
    ttlSeconds := 86400
    pendingTtlSeconds := 120
    fingerprint := fun v => "company " ++ (PyValue.lookupD (v.dict?.getD []) "companyId").coerceStr
    sha256Hex := id
    emptyBody := .dict []
    mergeBody := fun _ body => body
    mergeBody_empty := fun _ => rfl }
  idempotencyUsesFirestore := true

/-- A shop with a slot that is booked, and a lesson. -/
def shopWrites : List TenantWrite :=
  [.company "public" "acme" ⟨"electronics", "Acme", "active", .empty, "", .empty,
    []⟩ "2026-01-01T00:00:00+00:00",
    .slots "public" "acme" "admin" [.dict [("id", .str "s1"), ("date", .str "2026-02-01"),
      ("time", .str "10:00"), ("available", .bool true)]],
    .booking shopContext ⟨"s1", "ada", "Ada", "phone", "pickup"⟩ "b1" "2026-01-02T00:00:00+00:00",
    .lesson "public" "acme" ⟨"Always ask for the storage size first.", "general", [],
      "admin"⟩ "0123456789ab" "2026-01-03T00:00:00+00:00"]

def deleteShop : AdminDataRequest where
  headers := Dict.ofList [("x-user-id", "ada"), ("x-tenant-id", "public"),
    ("x-roles", "tenant_admin"), ("idempotency-key", "delete-1")]
  queryTenantId := some "public"
  companyId := "acme"

/-- Everything is served. -/
def servedHandling : DeletionHandling := ⟨false, true, fun _ => .served, 0, 1⟩

/-- The shop is deleted, and not by a replay. -/
theorem companyDeletion_exact_shop : ∃ tenantId companyId idempotencyKey response,
    (deletionServer.deleteAdminCompanyRoute deleteShop servedHandling ⟨written .ascii shopWrites,
        .empty⟩).2 = .deleted response ∧
      DeletesCompany deletionServer tenantId companyId idempotencyKey ⟨written .ascii shopWrites,
        .empty⟩
        (deletionServer.deleteAdminCompanyRoute deleteShop servedHandling
          ⟨written .ascii shopWrites, .empty⟩).1 := by
  obtain ⟨tenantId, companyId, idempotencyKey, -, -, ⟨response, hreplayed, -⟩ | ⟨response, hdeleted,
      hexact⟩⟩ :=
    companyDeletion_exact deletionServer deleteShop servedHandling ⟨written .ascii shopWrites,
      .empty⟩ (by decide +kernel)
  · have hnew : (deletionServer.deleteAdminCompanyRoute deleteShop servedHandling
        ⟨written .ascii shopWrites, .empty⟩).2.isReplay = false := by
      decide +kernel
    rw [hreplayed] at hnew
    cases hnew
  · exact ⟨tenantId, companyId, idempotencyKey, response, hdeleted, hexact⟩

/-- The booking and the lesson are left when the shop has been deleted. -/
theorem deletedShop_leaves :
    ¬ ∀ (server : DeletionServer) (writes : List TenantWrite) (req : AdminDataRequest)
    (handling : DeletionHandling)
      (tenantId companyId : String), server.target req handling = .ok (tenantId, companyId) →
        (server.deleteAdminCompanyRoute req handling ⟨written server.routes.py writes,
          .empty⟩).2.Succeeds → ∀ path, AtOrBelow tenantId companyId path →
            (server.deleteAdminCompanyRoute req handling ⟨written server.routes.py writes,
              .empty⟩).1.docs.get? path = none := by
  intro h
  have hleft : ∀ path ∈ [["tenants", "public", "companies", "acme", "bookings", "b1"],
      ["tenants", "public", "companies", "acme", "global_lessons", "lesson-0123456789ab"]],
      ((deletionServer.deleteAdminCompanyRoute deleteShop servedHandling
        ⟨written .ascii shopWrites, .empty⟩).1.docs.get? path).isSome = true := by
    decide +kernel
  have hnone := h deletionServer shopWrites deleteShop servedHandling "public" "acme"
    (by with_unfolding_all rfl)
    (by decide +kernel) ["tenants", "public", "companies", "acme", "bookings", "b1"]
    ⟨["bookings", "b1"], rfl⟩
  have hbooking := hleft _ List.mem_cons_self
  have hsame : (deletionServer.deleteAdminCompanyRoute deleteShop servedHandling
      ⟨written .ascii shopWrites, .empty⟩).1.docs.get?
        ["tenants", "public", "companies", "acme", "bookings", "b1"] = none := hnone
  rw [hsame] at hbooking
  cases hbooking

end Ekaette
