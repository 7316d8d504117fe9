import Ekaette.Lib.PyStr
import Ekaette.Lib.Raising

set_option autoImplicit false
set_option mvcgen.warning false

/-! # Migration to tenant-scoped paths

`src/scripts/migrate_to_tenant_scoped.py` copies the documents of four flat collections to paths
under a tenant and a company. A run skips what already exists at its target and, with `--resume`,
what its checkpoint file lists.

A run is a computation over the target database and the checkpoint files that may end at any
database or file operation: each operation has a fate of its own. The source collections do not
change. A checkpoint file holds the JSON value written to it; what is only printed is left out. -/

namespace Ekaette

open Std.Do

/-! ## Databases, files, runs -/

/-- The choices of `--collections`. -/
inductive MigrationSection where
  | profiles
  | knowledge
  | products
  | slots
  deriving DecidableEq

/-- The key of a section in a checkpoint file. -/
def MigrationSection.label : MigrationSection → String
  | .profiles => "profiles"
  | .knowledge => "knowledge"
  | .products => "products"
  | .slots => "slots"

/-- The flat collections: documents by id. -/
structure SourceDatabase where
  companyProfiles : Dict String Record
  companyKnowledge : Dict String Record
  products : Dict String Record
  bookingSlots : Dict String Record

/-- A checkpoint file: a JSON value, or text that is cut off. -/
inductive CheckpointFile where
  | torn
  | json (value : PyValue)

/-- What a run reads and writes: the documents under the tenants, by their path, and the checkpoint
    files, by theirs. `operations` counts the operations of the run so far. -/
structure MigrationWorld where
  target : Dict (List String) Record
  checkpoints : Dict String CheckpointFile
  operations : ℕ := 0

/-- What becomes of an operation: it is done; it is done, but the run ends there; it is not done and
    the run ends; or it is done in part, and the run ends. -/
inductive Fate where
  | lands
  | lost
  | cut
  | torn

/-- The command line. -/
structure MigrationArgs where
  tenant : String := "public"
  company : Option String := none
  dryRun : Bool := false
  verify : Bool := false
  resume : Bool := false
  force : Bool := false
  checkpointFile : String := ".data/migrate_to_tenant_scoped.checkpoint.json"
  collections : List MigrationSection := [.profiles, .knowledge, .products, .slots]

/-- One run of the script, and the fates of its operations. -/
structure MigrationRun where
  args : MigrationArgs
  fate : ℕ → Fate

/-- Why a run ends early: it is interrupted, or it exits with code 1. -/
inductive Halt where
  | interrupted
  | exit
  deriving DecidableEq

abbrev Migration := ExceptT Halt (StateM MigrationWorld)

variable (py : StrMethods) (src : SourceDatabase) (run : MigrationRun)

/-- One database or file operation; `torn` is what it leaves when it is done in part. -/
def operation (effect torn : MigrationWorld → MigrationWorld) : Migration Unit := do
  let w ← get
  set { w with operations := w.operations + 1 }
  match run.fate w.operations with
  | .lands => modify effect
  | .lost => do
      modify effect
      throw .interrupted
  | .cut => throw .interrupted
  | .torn => do
      modify torn
      throw .interrupted

/-- `target_ref.get()` -/
def targetExists (path : List String) : Migration Bool := do
  operation run id id
  return ((← get).target.get? path).isSome

/-- `target_ref.set(data)`; a document is written whole or not at all. -/
def targetSet (path : List String) (data : Record) : Migration Unit :=
  operation run (fun w => { w with target := w.target.set path data }) id

/-! ## The sections -/

inductive MigrationOp where
  | create
  | alreadyExists
  | resumeSkipped
  | invalidSource
  deriving DecidableEq

/-- The result of a section. -/
structure MigrationResult where
  migrated : ℕ := 0
  skipped : ℕ := 0
  errors : List String := []
  processedIds : List String := []
  operations : MigrationOp → ℕ := fun _ => 0
  sampleIds : MigrationOp → List String := fun _ => []

namespace MigrationResult

/-- `_record_result_op`; five ids are kept as samples. -/
def recordOp (result : MigrationResult) (op : MigrationOp) (docId : String) : MigrationResult :=
  { result with
    operations := Function.update result.operations op (result.operations op + 1)
    sampleIds :=
      if (result.sampleIds op).length < 5 then
        Function.update result.sampleIds op (result.sampleIds op ++ [docId])
      else result.sampleIds }

/-- A document is skipped. -/
def skip (result : MigrationResult) (op : MigrationOp) (docId : String) : MigrationResult :=
  { result with
    skipped := result.skipped + 1
    processedIds := result.processedIds ++ [docId] }.recordOp op docId

/-- A document is migrated. -/
def create (result : MigrationResult) (docId : String) : MigrationResult :=
  { result with
    migrated := result.migrated + 1
    processedIds := result.processedIds ++ [docId] }.recordOp .create docId

/-- A document has no id. -/
def error (result : MigrationResult) (message : String) : MigrationResult :=
  { result with errors := result.errors ++ [message] }

/-- A document lacks a field. -/
def invalid (result : MigrationResult) (message docId : String) : MigrationResult :=
  (result.error message).recordOp .invalidSource docId

end MigrationResult

/-- What the sections do not have in common: the error for a document without id, the target path or
    the error for an invalid document, and what is written. -/
structure MigrationSpec where
  noId : String
  target : String → Record → Except String (List String)
  migratedData : String → Record → Record

/-- The loop over the documents of a section. -/
def migrateDocs (spec : MigrationSpec) (docs : Dict String Record) (dryRun force : Bool)
    (resumeIds : List String) : Migration MigrationResult := do
  let mut result : MigrationResult := {}
  for (docId, data) in docs.entries do
    if docId = "" then
      result := result.error spec.noId
    else if !force && resumeIds.contains docId then
      result := result.skip .resumeSkipped docId
    else
      match spec.target docId data with
      | .error message => result := result.invalid message docId
      | .ok path =>
        if ← targetExists run path then
          result := result.skip .alreadyExists docId
        else
          if !dryRun then
            targetSet run path (spec.migratedData docId data)
          result := result.create docId
  return result

/-- A field that must be a string with more than blanks in it. -/
def textField (data : Record) (key : String) : Option String :=
  match (data.get? key).getD (.str "") with
  | .str s => if PyStr.strip s = "" then none else some s
  | _ => none

/-- `REGISTRY_SCHEMA_VERSION` -/
def registrySchemaVersion : ℤ := 1

/-- A company profile in its tenant-scoped shape. -/
def migratedProfile (tenantId docId : String) (data : Record) : Record :=
  Dict.ofList [
    ("schema_version", .int registrySchemaVersion),
    ("company_id", .str docId),
    ("tenant_id", .str tenantId),
    ("industry_template_id", .str (py.lower (PyStr.strip ((textField data "industry").getD "")))),
    ("display_name", (data.get? "name").getD (.str docId)),
    ("overview", (data.get? "overview").getD (.str "")),
    ("facts", (data.get? "facts").getD (.dict [])),
    ("links", (data.get? "links").getD (.list [])),
    ("connectors", (data.get? "system_connectors").getD (.dict [])),
    ("capability_overrides", .dict []),
    ("ui_overrides", .dict []),
    ("status", .str "active")]

/-- `migrate_company_profiles` -/
def companyProfilesSpec (tenantId : String) : MigrationSpec where
  noId := "company profile doc has no ID"
  target docId data := match textField data "industry" with
    | some _ => .ok ["tenants", tenantId, "companies", docId]
    | none =>
      .error ("company '" ++ docId ++ "' missing 'industry' field — cannot determine template")
  migratedData docId data := migratedProfile py tenantId docId data

/-- `migrate_company_knowledge` -/
def companyKnowledgeSpec (tenantId : String) : MigrationSpec where
  noId := "knowledge doc has no ID"
  target docId data := match textField data "company_id" with
    | some companyId =>
      .ok ["tenants", tenantId, "companies", PyStr.strip companyId, "knowledge", docId]
    | none => .error ("knowledge '" ++ docId ++ "' missing 'company_id'")
  migratedData _ data := data

/-- `migrate_products` -/
def productsSpec (tenantId companyId : String) : MigrationSpec where
  noId := "product doc has no ID"
  target docId _ := .ok ["tenants", tenantId, "companies", companyId, "catalog_items", docId]
  migratedData _ data := data

/-- `migrate_booking_slots` -/
def bookingSlotsSpec (tenantId companyId : String) : MigrationSpec where
  noId := "booking slot doc has no ID"
  target docId _ := .ok ["tenants", tenantId, "companies", companyId, "booking_slots", docId]
  migratedData _ data := data

/-- `args.company` where it is given. -/
def MigrationArgs.companyId (args : MigrationArgs) : String := args.company.getD ""

/-- The source collection of a section. -/
def SourceDatabase.docs : MigrationSection → Dict String Record
  | .profiles => src.companyProfiles
  | .knowledge => src.companyKnowledge
  | .products => src.products
  | .slots => src.bookingSlots

/-- What a section does. -/
def MigrationArgs.spec (args : MigrationArgs) : MigrationSection → MigrationSpec
  | .profiles => companyProfilesSpec py args.tenant
  | .knowledge => companyKnowledgeSpec args.tenant
  | .products => productsSpec args.tenant args.companyId
  | .slots => bookingSlotsSpec args.tenant args.companyId

/-- The sections that need `--company`. -/
def MigrationSection.needsCompany : MigrationSection → Bool
  | .products => true
  | .slots => true
  | _ => false

/-! ## Checkpoint files -/

/-- The ids a checkpoint lists, by section. -/
abbrev Completed := Dict String (List String)

/-- The value `_save_checkpoint` writes. -/
def checkpointJson (tenantId companyId : String) (completed : Completed) : PyValue :=
  .dict [
    ("meta", .dict [("tenant_id", .str tenantId), ("company_id", .str companyId)]),
    ("completed", .dict (completed.entries.map fun e => (e.1, .list (e.2.map .str))))]

/-- Write a checkpoint file. -/
def MigrationWorld.writeCheckpoint (w : MigrationWorld) (path : String) (file : CheckpointFile) :
    MigrationWorld :=
  { w with checkpoints := w.checkpoints.set path file }

/-- `_save_checkpoint`; a file write can be cut off. -/
def saveCheckpoint (completed : Completed) : Migration Unit :=
  operation run
    (fun w => w.writeCheckpoint run.args.checkpointFile
      (.json (checkpointJson run.args.tenant run.args.companyId completed)))
    (fun w => w.writeCheckpoint run.args.checkpointFile .torn)

/-- The checks of `_load_checkpoint` on the `meta` of a file. -/
def checkMeta (args : MigrationArgs) (fileMeta : PyValue) : Except String Unit :=
  match fileMeta with
  | .dict es =>
    match (PyValue.lookupD es "tenant_id").str?, (PyValue.lookupD es "company_id").str? with
    | some tenantInFile, companyInFile =>
      if tenantInFile ≠ args.tenant then
        .error ("checkpoint tenant_id mismatch (expected " ++ args.tenant ++ ", found " ++
          tenantInFile ++ ")")
      else checkCompany companyInFile
    | none, companyInFile => checkCompany companyInFile
  | _ => .ok ()
where
  checkCompany : Option String → Except String Unit
    | some companyInFile =>
      if args.companyId ≠ "" ∧ companyInFile ≠ args.companyId then
        .error ("checkpoint company_id mismatch (expected " ++ args.companyId ++ ", found " ++
          companyInFile ++ ")")
      else .ok ()
    | none => .ok ()

/-- One item of a `completed` dictionary; what is no list is dropped. -/
def completedItem (e : String × PyValue) : Option (String × List String) :=
  match e.2 with
  | .list vs => some (e.1, vs.map (PyValue.toStr py))
  | _ => none

/-- The lists of a `completed` dictionary. -/
def completedOf (es : List (String × PyValue)) : Completed :=
  Dict.ofList (es.filterMap (completedItem py))

/-- `_load_checkpoint`; text that is cut off is no JSON. -/
def loadCheckpoint (args : MigrationArgs) : Option CheckpointFile → Except String Completed
  | none => .ok Dict.empty
  | some .torn => .error "invalid JSON"
  | some (.json (.dict data)) =>
    match checkMeta args (PyValue.lookupD data "meta") with
    | .error message => .error message
    | .ok () =>
      match PyValue.lookupOr data "completed" (.dict data) with
      | .dict es => .ok (completedOf py es)
      | _ => .ok Dict.empty
  | some (.json _) => .ok Dict.empty

/-- `_merge_checkpoint_ids` -/
def mergeCheckpointIds (existing newIds : List String) : List String :=
  newIds.foldl (fun merged id => if id ∈ merged then merged else merged ++ [id]) existing

/-! ## The command -/

/-- One section: the documents, then the checkpoint. The state is what the checkpoint lists, and the
    errors so far. -/
def runSection (kind : MigrationSection) (state : Completed × List String) :
    Migration (Completed × List String) := do
  if kind ∉ run.args.collections then
    return state
  if kind.needsCompany && run.args.companyId = "" then
    throw .exit
  let result ← migrateDocs run (run.args.spec py kind)
    (src.docs kind) run.args.dryRun run.args.force (state.1.getD kind.label [])
  let errors := state.2 ++ result.errors
  if run.args.resume then
    let completed := state.1.set kind.label
      (mergeCheckpointIds (state.1.getD kind.label []) result.processedIds)
    saveCheckpoint run completed
    return (completed, errors)
  return (state.1, errors)

/-- The target `verify_migration` looks for; `none` where it does not look. -/
def MigrationArgs.verifyTarget (args : MigrationArgs) (kind : MigrationSection) (docId : String)
    (data : Record) : Option (List String) :=
  match kind with
  | .profiles => some ["tenants", args.tenant, "companies", docId]
  | .knowledge =>
    let companyId := PyStr.strip (((data.get? "company_id").getD (.str "")).toStr py)
    if companyId = "" then none
    else some ["tenants", args.tenant, "companies", companyId, "knowledge", docId]
  | .products =>
    if args.companyId = "" then none
    else some ["tenants", args.tenant, "companies", args.companyId, "catalog_items", docId]
  | .slots =>
    if args.companyId = "" then none
    else some ["tenants", args.tenant, "companies", args.companyId, "booking_slots", docId]

/-- One section of `verify_migration`: is every target there? -/
def verifySection (kind : MigrationSection) : Migration Bool := do
  let mut success := true
  if kind ∈ run.args.collections then
    for (docId, data) in (src.docs kind).entries do
      if docId ≠ "" then
        if let some path := run.args.verifyTarget py kind docId data then
          if !(← targetExists run path) then
            success := false
  return success

/-- The sections in the order of the script. -/
def migrationSections : List MigrationSection := [.profiles, .knowledge, .products, .slots]

/-- `verify_migration` -/
def verifyMigration : Migration Bool := do
  let mut success := true
  for kind in migrationSections do
    if !(← verifySection py src run kind) then
      success := false
  return success

/-- The checkpoint `main` starts from. -/
def resumeCheckpoint : Migration Completed := do
  if run.args.resume then
    match loadCheckpoint py run.args ((← get).checkpoints.get? run.args.checkpointFile) with
    | .ok loaded => return loaded
    | .error _ => throw .exit
  return Dict.empty

/-- `main` -/
def migrationMain : Migration Unit := do
  let mut state : Completed × List String := (← resumeCheckpoint py run, [])
  for kind in migrationSections do
    state ← runSection py src run kind state
  if state.2 ≠ [] then
    throw .exit
  if !run.args.dryRun && run.args.verify then
    if !(← verifyMigration py src run) then
      throw .exit

/-- A run of the script: how it ends, and what it leaves. -/
def migrationRun (w : MigrationWorld) : Except Halt Unit × MigrationWorld :=
  StateT.run (ExceptT.run (migrationMain py src run)) { w with operations := 0 }

/-- What a run leaves. -/
def afterRun (w : MigrationWorld) : MigrationWorld := (migrationRun py src run w).2

/-- What a sequence of runs leaves. -/
def afterRuns (w : MigrationWorld) (runs : List MigrationRun) : MigrationWorld :=
  runs.foldl (fun w run => afterRun py src run w) w

end Ekaette
