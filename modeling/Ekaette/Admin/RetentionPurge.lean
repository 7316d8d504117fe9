import Ekaette.Firestore
import Ekaette.Lib.Batches
import Ekaette.Lib.PyStr

set_option autoImplicit false

/-! # Purging old documents

The retention purge goes through the named collections of a company, deletes what is old enough and
has the tier that was asked for, and counts. The age of a document is that of its last update, or of
its creation where there is no readable update. Everything is exact as long as the cutoff is a
date. -/

namespace Ekaette

/-! ## Timestamps -/

/-- A datetime: microseconds on the wall since the first day of year 1, and the offset from UTC if
    there is one. -/
structure IsoDatetime where
  wall : ℤ
  utcOffset : Option ℤ

/-- What is used of the standard library; `fromisoformat` gives none where it raises
    `ValueError`. -/
structure PurgeLib where
  py : StrMethods
  fromisoformat : String → Option IsoDatetime

inductive PurgeError where
  | storageUnavailable
  | dateOverflow
  deriving DecidableEq

def microsPerDay : ℤ := 86400000000

/-- The days from the first of year 1 to the last of year 9999. -/
def maxOrdinal : ℤ := 3652059

/-- A point in time that is a datetime. -/
def representable (instant : ℤ) : Bool := decide (0 ≤ instant ∧ instant < maxOrdinal * microsPerDay)

/-- `parsed.astimezone(timezone.utc)`, where no offset means UTC. -/
def astimezoneUtc (parsed : IsoDatetime) : Except PurgeError ℤ :=
  match parsed.utcOffset with
  | none => .ok parsed.wall
  | some offset => if representable (parsed.wall - offset) then .ok
    (parsed.wall - offset) else .error .dateOverflow

/-- `value.replace("Z", "+00:00")` -/
def replaceZ (value : String) : String :=
  String.ofList (value.toList.flatMap (fun c => if c = 'Z' then "+00:00".toList else [c]))

variable (lib : PurgeLib)

/-- The datetime that a value is read as. -/
def readDatetime : PyValue → Option IsoDatetime
  | .str s => if PyStr.strip s = "" then none else lib.fromisoformat (replaceZ (PyStr.strip s))
  | _ => none

/-- `_parse_timestamp_utc`. -/
def parseTimestampUtc (rawValue : PyValue) : Except PurgeError (Option ℤ) :=
  match readDatetime lib rawValue with
  | none => .ok none
  | some parsed => (astimezoneUtc parsed).map some

/-! ## The purge -/

/-- A document as a query yields it. -/
structure DocSnapshot where
  reference : Option DocPath
  data : Record

/-- The documents of a collection. -/
def collectQueryDocs (db : Firestore) (col : DocPath) : List DocSnapshot :=
  (db.entries.filter (fun e => e.1.dropLast = col)).map (fun e => ⟨some e.1, e.2⟩)

structure PurgeCounters where
  scanned : ℕ
  deleted : ℕ
  skipped : ℕ
  missingTimestamp : ℕ

/-- What becomes of a document. -/
inductive PurgeChoice where
  | skip
  | skipMissing
  | delete (ref : DocPath)

/-- `str(item.get("data_tier", "")).strip().lower()` -/
def itemTier (py : StrMethods) (item : Record) : String :=
  py.lower (PyStr.strip (((item.get? "data_tier").getD (.str "")).toStr py))

/-- The first timestamp that can be read. -/
def itemTimestamp (item : Record) : Except PurgeError (Option ℤ) := do
  match ← parseTimestampUtc lib (item.value "updated_at") with
  | some instant => return some instant
  | none => parseTimestampUtc lib (item.value "created_at")

/-- The body of the loop over the documents. -/
def choose (targetTier : Option String) (cutoff : ℤ) (doc : DocSnapshot) :
    Except PurgeError PurgeChoice := do
  if targetTier.any (fun tier => itemTier lib.py doc.data ≠ tier) then return .skip
  match ← itemTimestamp lib doc.data with
  | none => return .skipMissing
  | some timestamp =>
    if cutoff ≤ timestamp then return .skip
    match doc.reference with
    | none => return .skip
    | some ref => return .delete ref

/-- The loop over the documents: the counters, and the references to delete. -/
def scanDocs (lib : PurgeLib) (targetTier : Option String) (cutoff : ℤ) :
    PurgeCounters → List DocPath → List DocSnapshot →
    Except PurgeError (PurgeCounters × List DocPath)
  | counters, refs, [] => .ok (counters, refs)
  | counters, refs, doc :: docs => do
      let counted := { counters with scanned := counters.scanned + 1 }
      match ← choose lib targetTier cutoff doc with
      | .skip =>
        scanDocs lib targetTier cutoff { counted with skipped := counted.skipped + 1 } refs docs
      | .skipMissing =>
        scanDocs lib targetTier cutoff
          { counted with
            skipped :=
              counted.skipped + 1, missingTimestamp := counted.missingTimestamp + 1 } refs docs
      | .delete ref => scanDocs lib targetTier cutoff counted (refs ++ [ref]) docs

/-- The deletion in batches of 500; each batch is counted. -/
def deleteBatches (db : Firestore) (counters : PurgeCounters) (refs : List DocPath) :
    Firestore × PurgeCounters :=
  (Batches.slices 500 refs).foldl (fun acc batch =>
    (acc.1.eraseAll batch, { acc.2 with deleted := acc.2.deleted + batch.length })) (db, counters)

/-- The document of a company. -/
def purgedCompany (tenantId companyId : String) : DocPath :=
  ["tenants", tenantId, "companies", companyId]

/-- The loop over the collections: the store, and the report. -/
def purgeCollections (lib : PurgeLib) (targetTier : Option String) (cutoff : ℤ)
    (company : DocPath) : List String → Firestore → Dict String PurgeCounters →
    Firestore × Except PurgeError (Dict String PurgeCounters)
  | [], db, report => (db, .ok report)
  | name :: names, db, report =>
    match scanDocs lib targetTier cutoff ⟨0, 0, 0, 0⟩ []
        (collectQueryDocs db (company ++ [name])) with
    | .error e => (db, .error e)
    | .ok (counters, refs) =>
      let deleted := deleteBatches db counters refs
      purgeCollections lib targetTier cutoff company names deleted.1 (report.set name deleted.2)

/-- `datetime.now(timezone.utc) - timedelta(days=max(1, older_than_days))` -/
def purgeCutoff (now olderThanDays : ℤ) : Except PurgeError ℤ :=
  let cutoff := now - max 1 olderThanDays * microsPerDay
  if representable cutoff then .ok cutoff else .error .dateOverflow

/-- `(data_tier or "").strip().lower() or None` -/
def targetTier (py : StrMethods) (dataTier : Option String) : Option String :=
  (dataTier.map (fun tier => py.lower (PyStr.strip tier))).filter (fun tier => tier ≠ "")

/-- `_purge_company_retention_data`. -/
def purgeCompanyRetentionData (storage : Option Firestore) (now : ℤ)
    (tenantId companyId : String) (olderThanDays : ℤ) (collections : List String)
    (dataTier : Option String) : Option Firestore × Except PurgeError (Dict String PurgeCounters) :=
  match storage with
  | none => (none, .error .storageUnavailable)
  | some db =>
    match purgeCutoff now olderThanDays with
    | .error e => (some db, .error e)
    | .ok cutoff =>
      let purged := purgeCollections lib (targetTier lib.py dataTier) cutoff
        (purgedCompany tenantId companyId) collections db .empty
      (some purged.1, purged.2)

/-! ## What is to be purged -/

/-- The point in time that a value names. -/
def instantOf (v : PyValue) : Option ℤ :=
  (readDatetime lib v).map (fun parsed => parsed.wall - parsed.utcOffset.getD 0)

/-- A document to purge: its tier matches, and its update (or, if that cannot be read, its creation)
    lies before the cutoff. -/
def purgeable (targetTier : Option String) (cutoff : ℤ) (item : Record) : Bool :=
  targetTier.all (fun tier => itemTier lib.py item = tier) &&
    ((instantOf lib (item.value "updated_at")).or (instantOf lib (item.value "created_at"))).any
    (fun i => i < cutoff)

/-- The timestamps of a document are datetimes in UTC. -/
def RepresentableTimestamps (item : Record) : Prop :=
  ∀ key ∈ ["updated_at", "created_at"], ∀ instant, instantOf lib (item.value key) = some instant →
    representable instant = true

theorem parseTimestampUtc_eq {lib : PurgeLib} {v : PyValue}
    (h : ∀ instant, instantOf lib v = some instant → representable instant = true) :
    parseTimestampUtc lib v = .ok (instantOf lib v) := by
  rw [parseTimestampUtc]
  rw [instantOf] at h ⊢
  cases hread : readDatetime lib v with
  | none => rfl
  | some parsed =>
    rw [hread] at h
    dsimp only [Option.map_some]
    rw [astimezoneUtc]
    cases hoffset : parsed.utcOffset with
    | none =>
      rw [Option.getD_none, sub_zero]
      rfl
    | some offset =>
      have hrep := h _ rfl
      dsimp only at hrep ⊢
      rw [hoffset, Option.getD_some] at hrep
      rw [if_pos hrep, Option.getD_some]
      rfl

theorem itemTimestamp_eq {lib : PurgeLib} {item : Record} (h : RepresentableTimestamps lib item) :
    itemTimestamp lib item =
      .ok ((instantOf lib (item.value "updated_at")).or
        (instantOf lib (item.value "created_at"))) := by
  have hupdated := parseTimestampUtc_eq (h "updated_at" List.mem_cons_self)
  have hcreated := parseTimestampUtc_eq (h "created_at" (by simp))
  rw [itemTimestamp, hupdated, hcreated]
  cases instantOf lib (item.value "updated_at") with
  | none => rfl
  | some instant => rfl

/-- **One document** is deleted exactly if it is to be purged. -/
theorem choose_eq {lib : PurgeLib} (tier : Option String) (cutoff : ℤ) (ref : DocPath)
    {item : Record} (h : RepresentableTimestamps lib item) :
    ∃ choice, choose lib tier cutoff ⟨some ref, item⟩ = .ok choice ∧
      (purgeable lib tier cutoff item = true → choice = .delete ref) ∧
      (purgeable lib tier cutoff item = false → choice = .skip ∨ choice = .skipMissing) := by
  rw [choose, itemTimestamp_eq h, purgeable]
  by_cases htier : tier.any (fun tier => itemTier lib.py item ≠ tier) = true
  · have hall : tier.all (fun tier => itemTier lib.py item = tier) = false := by
      cases tier with
      | none => cases htier
      | some tier => simpa using htier
    rw [if_pos htier, hall]
    exact ⟨.skip, rfl, by simp, by simp⟩
  · have hall : tier.all (fun tier => itemTier lib.py item = tier) = true := by
      cases tier with
      | none => rfl
      | some tier => simpa using htier
    rw [if_neg htier, hall, Bool.true_and]
    cases (instantOf lib (item.value "updated_at")).or
        (instantOf lib (item.value "created_at")) with
    | none => exact ⟨.skipMissing, rfl, by simp, by simp⟩
    | some instant =>
      by_cases hold : cutoff ≤ instant
      · refine ⟨.skip, ?_, ?_, by simp⟩
        · show (if cutoff ≤ instant then _ else _) = _
          exact if_pos hold
        · intro hany
          have hlt : instant < cutoff := by simpa using hany
          omega
      · refine ⟨.delete ref, ?_, fun _ => rfl, ?_⟩
        · show (if cutoff ≤ instant then _ else _) = _
          exact if_neg hold
        · intro hany
          have hle : cutoff ≤ instant := by simpa using hany
          exact absurd hle hold

/-! ## One collection -/

/-- The counters of a scan, and the references it has found: what is not found is skipped. -/
structure Tallies (counters : PurgeCounters) (refs : List DocPath) : Prop where
  scanned : counters.scanned = refs.length + counters.skipped
  missing : counters.missingTimestamp ≤ counters.skipped
  deleted : counters.deleted = 0

theorem scanDocs_eq {lib : PurgeLib} (tier : Option String) (cutoff : ℤ)
    (es : List (DocPath × Record)) (hes : ∀ e ∈ es, RepresentableTimestamps lib e.2)
    (counters : PurgeCounters) (refs : List DocPath) (h : Tallies counters refs) : ∃ counted,
      scanDocs lib tier cutoff counters refs (es.map (fun e => ⟨some e.1, e.2⟩)) =
        .ok (counted, refs ++ (es.filter (fun e => purgeable lib tier cutoff e.2)).map Prod.fst) ∧
      Tallies counted (refs ++ (es.filter (fun e => purgeable lib tier cutoff e.2)).map
        Prod.fst) := by
  induction es generalizing counters refs with
  | nil =>
    refine ⟨counters, ?_, ?_⟩
    · rw [List.filter_nil, List.map_nil, List.map_nil, List.append_nil]
      rfl
    · rw [List.filter_nil, List.map_nil, List.append_nil]
      exact h
  | cons e es ih =>
    obtain ⟨ref, item⟩ := e
    rw [List.forall_mem_cons] at hes
    obtain ⟨choice, hchoice, hdelete, hskip⟩ := choose_eq tier cutoff ref hes.1
    have hscanned := h.scanned
    have hmissing := h.missing
    cases hpurge : purgeable lib tier cutoff item with
    | true =>
      rw [List.filter_cons_of_pos (by exact hpurge), List.map_cons, List.map_cons, scanDocs,
        hchoice, hdelete hpurge, List.append_cons]
      refine ih hes.2 _ _ ⟨?_, hmissing, h.deleted⟩
      rw [List.length_append, List.length_singleton]
      show counters.scanned + 1 = refs.length + 1 + counters.skipped
      omega
    | false =>
      rw [List.filter_cons_of_neg (by simp [hpurge]), List.map_cons, scanDocs, hchoice]
      rcases hskip hpurge with rfl | rfl
      · refine ih hes.2 _ _ ⟨?_, ?_, h.deleted⟩
        · show counters.scanned + 1 = refs.length + (counters.skipped + 1)
          omega
        · show counters.missingTimestamp ≤ counters.skipped + 1
          omega
      · refine ih hes.2 _ _ ⟨?_, ?_, h.deleted⟩
        · show counters.scanned + 1 = refs.length + (counters.skipped + 1)
          omega
        · show counters.missingTimestamp + 1 ≤ counters.skipped + 1
          omega

theorem deleteBatches_eq (db : Firestore) (counters : PurgeCounters) (refs : List DocPath) :
    deleteBatches db counters refs =
      (db.eraseAll refs, { counters with deleted := counters.deleted + refs.length }) := by
  have hfold : ∀ (batches : List (List DocPath)) (db : Firestore) (counters : PurgeCounters),
      batches.foldl (fun acc batch =>
        (acc.1.eraseAll batch, { acc.2 with deleted := acc.2.deleted + batch.length }))
          (db, counters) =
        (batches.foldl (fun db batch => batch.foldl Dict.erase db) db,
          { counters with deleted := counters.deleted + (batches.map List.length).sum }) := by
    intro batches
    induction batches with
    | nil => exact fun db counters => rfl
    | cons batch batches ih =>
      intro db counters
      rw [List.foldl_cons, ih, List.foldl_cons, List.map_cons, List.sum_cons, ← Nat.add_assoc]
      rfl
  rw [deleteBatches, hfold, Batches.foldl_slices (by decide), Batches.sum_length_slices (by decide)]
  rfl

/-- A document of one of the collections. -/
def inCollections (company : DocPath) (names : List String) (path : DocPath) : Bool :=
  names.any (fun name => path.dropLast = company ++ [name])

/-- The references that a scan of a collection finds. -/
def foundRefs (tier : Option String) (cutoff : ℤ) (db : Firestore) (col : DocPath) : List DocPath :=
  ((db.entries.filter (fun e => e.1.dropLast = col)).filter (fun e =>
    purgeable lib tier cutoff e.2)).map Prod.fst

/-- What is left of a collection. -/
theorem get?_eraseAll_found (tier : Option String) (cutoff : ℤ) (db : Firestore)
    (col path : DocPath) : (db.eraseAll (foundRefs lib tier cutoff db col)).get? path =
      (db.get? path).filter (fun item =>
        !(decide (path.dropLast = col) && purgeable lib tier cutoff item)) := by
  rw [Dict.get?_eraseAll]
  cases hdoc : db.get? path with
  | none =>
    rw [Option.filter_none]
    exact ite_self _
  | some item =>
    have hentry := (Dict.get?_eq_some_iff db path item).1 hdoc
    have hmem : path ∈ foundRefs lib tier cutoff db col ↔
        path.dropLast = col ∧ purgeable lib tier cutoff item = true := by
      rw [foundRefs, List.filter_filter, List.mem_map]
      constructor
      · rintro ⟨e, he, rfl⟩
        obtain ⟨he, hp⟩ := List.mem_filter.1 he
        rw [Bool.and_eq_true] at hp
        have hsame : e.2 = item := by
          have hget := (Dict.get?_eq_some_iff db e.1 e.2).2 he
          rw [hdoc] at hget
          exact (Option.some.inj hget).symm
        exact ⟨of_decide_eq_true hp.2, hsame ▸ hp.1⟩
      · rintro ⟨hcol, hpurge⟩
        exact ⟨(path, item), List.mem_filter.2 ⟨hentry, by simp [hcol, hpurge]⟩, rfl⟩
    by_cases hfound : path.dropLast = col ∧ purgeable lib tier cutoff item = true
    · rw [if_pos (hmem.2 hfound), Option.filter_some_neg (by simp [hfound.1, hfound.2])]
    · rw [if_neg (fun h => hfound (hmem.1 h)), Option.filter_some_pos]
      rw [Bool.not_eq_true', Bool.and_eq_false_iff, decide_eq_false_iff_not]
      rcases not_and_or.1 hfound with hcol | hpurge
      · exact .inl hcol
      · exact .inr (Bool.not_eq_true _ ▸ hpurge)

/-! ## All collections -/

/-- The counters of a finished collection add up. -/
structure Balanced (counters : PurgeCounters) : Prop where
  scanned : counters.scanned = counters.deleted + counters.skipped
  missing : counters.missingTimestamp ≤ counters.skipped

section Purge

variable {lib : PurgeLib} (tier : Option String) (cutoff : ℤ) {company : DocPath}

theorem purgeCollections_exact (names : List String) (db : Firestore)
    (report : Dict String PurgeCounters) (hdb : ∀ path item, db.get? path = some item →
      inCollections company names path = true →
      RepresentableTimestamps lib item)
        (hreport : ∀ name counters, report.get? name = some counters → Balanced counters) :
    ∃ purged, (purgeCollections lib tier cutoff company names db report).2 = .ok purged ∧
      (∀ name counters, purged.get? name = some counters → Balanced counters) ∧
      (∀ name, name ∈ names ∨ (report.get? name).isSome = true → (purged.get? name).isSome = true) ∧
      ∀ path, (purgeCollections lib tier cutoff company names db report).1.get? path =
        (db.get? path).filter (fun item =>
          !(inCollections company names path && purgeable lib tier cutoff item)) := by
  induction names generalizing db report with
  | nil =>
    refine ⟨report, rfl, hreport, ?_, fun path => ?_⟩
    · rintro name (hname | hname)
      · cases hname
      · exact hname
    · show db.get? path = (db.get? path).filter (fun _ => true)
      cases db.get? path <;> rfl
  | cons name names ih =>
    have hcol : ∀ e ∈ db.entries.filter (fun e => e.1.dropLast = company ++ [name]),
        RepresentableTimestamps lib e.2 := by
      intro e he
      obtain ⟨he, hdrop⟩ := List.mem_filter.1 he
      refine hdb e.1 e.2 ((Dict.get?_eq_some_iff db _ _).2 he) ?_
      rw [inCollections, List.any_cons, hdrop, Bool.true_or]
    obtain ⟨counted, hscan, htally⟩ := scanDocs_eq tier cutoff _ hcol
      ⟨0, 0, 0, 0⟩ [] ⟨rfl, le_rfl, rfl⟩
    rw [List.nil_append, ← foundRefs] at hscan htally
    have hbalanced : Balanced { counted with deleted := counted.deleted +
        (foundRefs lib tier cutoff db (company ++ [name])).length } := by
      refine ⟨?_, htally.missing⟩
      show counted.scanned = counted.deleted + _ + counted.skipped
      rw [htally.scanned, htally.deleted, Nat.zero_add]
    have hleft : ∀ path item, (db.eraseAll (foundRefs lib tier cutoff db (company ++ [name]))).get?
        path = some item → db.get? path = some item := by
      intro path item h
      rw [get?_eraseAll_found] at h
      exact (Option.filter_eq_some_iff.1 h).1
    obtain ⟨purged, hpurged, hall, hnames, hget⟩ := ih
      (db.eraseAll (foundRefs lib tier cutoff db (company ++ [name])))
      (report.set name { counted with deleted := counted.deleted +
        (foundRefs lib tier cutoff db (company ++ [name])).length })
      (fun path item h hin => hdb path item (hleft path item h) (by
        rw [inCollections, List.any_cons, ← inCollections, hin, Bool.or_true]))
      (fun name' counters h => by
        rw [Dict.get?_set] at h
        split_ifs at h
        · exact Option.some.inj h ▸ hbalanced
        · exact hreport name' counters h)
    rw [purgeCollections, collectQueryDocs, hscan]
    simp only [deleteBatches_eq]
    refine ⟨purged, hpurged, hall, ?_, fun path => ?_⟩
    · rintro name' (hname | hname)
      · rcases List.mem_cons.1 hname with rfl | hname
        · exact hnames _ (.inr (by rw [Dict.get?_set_self]; rfl))
        · exact hnames _ (.inl hname)
      · refine hnames _ (.inr ?_)
        rw [Dict.get?_set]
        split_ifs
        · rfl
        · exact hname
    · rw [hget, get?_eraseAll_found, Option.filter_filter]
      refine congrArg (fun p => (db.get? path).filter p) (funext fun item => ?_)
      rw [inCollections, inCollections, List.any_cons]
      cases purgeable lib tier cutoff item <;> cases decide (path.dropLast = company ++ [name]) <;>
        simp

/-- **Retention purge is exact**, for every cutoff that is a date: the documents to purge are
    deleted, no other is, and the counters of every collection add up. -/
theorem retentionPurge_exact (lib : PurgeLib) (db : Firestore) (now : ℤ)
    (tenantId companyId : String) (olderThanDays : ℤ) (hdays : 1 ≤ olderThanDays)
    (hcutoff : representable (now - olderThanDays * microsPerDay) = true)
    (collections : List String) (dataTier : Option String)
    (hdb : ∀ path item, db.get? path = some item →
      inCollections (purgedCompany tenantId companyId) collections path = true →
      RepresentableTimestamps lib item) :
    ∃ purged report,
      purgeCompanyRetentionData lib (some db) now tenantId companyId olderThanDays collections
        dataTier = (some purged, .ok report) ∧
      (∀ path, purged.get? path = (db.get? path).filter (fun item =>
        !(inCollections (purgedCompany tenantId companyId) collections path &&
          purgeable lib (targetTier lib.py dataTier) (now - olderThanDays * microsPerDay) item))) ∧
      ∀ name ∈ collections, ∃ counters, report.get? name = some counters ∧
        counters.scanned = counters.deleted + counters.skipped ∧ counters.missingTimestamp ≤
        counters.skipped := by
  obtain ⟨report, hreport, hbalanced, hnames, hget⟩ := purgeCollections_exact
    (targetTier lib.py dataTier) (now - olderThanDays * microsPerDay) collections _ .empty hdb
    (fun name counters h => by cases h)
  refine ⟨_, report, ?_, hget, fun name hname => ?_⟩
  · rw [purgeCompanyRetentionData, purgeCutoff, max_eq_right hdays]
    simp only [if_pos hcutoff, hreport]
  · obtain ⟨counters, hcounters⟩ := Option.isSome_iff_exists.1 (hnames name (.inl hname))
    have hb := hbalanced name counters hcounters
    exact ⟨counters, hcounters, hb.scanned, hb.missing⟩

end Purge

/-! ### A purge, and a cutoff before year 1 -/

/-- `fromisoformat` on the days below. -/
def dayLib : PurgeLib where
  py := .ascii
  fromisoformat s :=
    if s = "2020-01-01" then some ⟨737424 * microsPerDay, none⟩
    else if s = "2026-01-01" then some ⟨739616 * microsPerDay, none⟩
    else none

/-- Two products of a company. -/
def twoProducts : Firestore :=
  .ofList [(["tenants", "acme", "companies", "shop", "products", "old"],
      .ofList [("data_tier", .str "demo"), ("updated_at", .str "2020-01-01")]),
    (["tenants", "acme", "companies", "shop", "products", "new"],
      .ofList [("data_tier", .str "demo"), ("updated_at", .str ""),
        ("created_at", .str "2026-01-01")])]

theorem instantOf_dayLib {v : PyValue} {instant : ℤ} (h : instantOf dayLib v = some instant) :
    representable instant = true := by
  obtain ⟨parsed, hread, rfl⟩ := Option.map_eq_some_iff.1 h
  unfold readDatetime at hread
  split at hread
  · split_ifs at hread
    simp only [dayLib] at hread
    split_ifs at hread
    · rw [← Option.some.inj hread]
      decide
    · rw [← Option.some.inj hread]
      decide
  · cases hread

/-- A year before the second day of 2026, one of the two is old. -/
theorem retentionPurge_exact_old : ∃ purged report,
    purgeCompanyRetentionData dayLib (some twoProducts) (739617 * microsPerDay) "acme" "shop" 365
      ["products"] (some "Demo") = (some purged, .ok report) ∧
    purged.get? ["tenants", "acme", "companies", "shop", "products", "old"] = none ∧
    (purged.get? ["tenants", "acme", "companies", "shop", "products", "new"]).isSome = true := by
  obtain ⟨purged, report, hpurge, hget, -⟩ := retentionPurge_exact dayLib twoProducts
    (739617 * microsPerDay) "acme"
    "shop" 365 (by decide) (by decide) ["products"] (some "Demo")
    (fun _ _ _ _ _ _ _ h => instantOf_dayLib h)
  refine ⟨purged, report, hpurge, ?_, ?_⟩
  · rw [hget]
    decide +kernel
  · rw [hget]
    decide +kernel

/-- With a billion days, no cutoff is computed and nothing is reported. -/
theorem retentionPurge_overflow :
    purgeCompanyRetentionData dayLib (some twoProducts)
    (739617 * microsPerDay) "acme" "shop" 1000000000 ["products"]
      none = (some twoProducts, .error .dateOverflow) := by
  have hcutoff : purgeCutoff (739617 * microsPerDay) 1000000000 = .error .dateOverflow := by decide
  rw [purgeCompanyRetentionData, hcutoff]

end Ekaette
