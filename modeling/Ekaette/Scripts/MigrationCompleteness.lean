import Ekaette.Scripts.MigrateToTenantScoped

set_option autoImplicit false
set_option mvcgen.warning false

/-! # What a sequence of migration runs leaves

No run changes a document that exists at its target, and a dry run writes none. A run that finishes
copies every valid document of its collections, except those it skips because the checkpoint lists
them. A dry run with `--resume` lists the documents it would have created: a later run that resumes
skips them. -/

namespace Ekaette

open Std.Do

variable (py : StrMethods) (src : SourceDatabase) (run : MigrationRun)

/-! ## Operations -/

/-- Nothing but the count of operations differs. -/
def MigrationWorld.Same (w w' : MigrationWorld) : Prop :=
  w'.target = w.target ∧ w'.checkpoints = w.checkpoints

theorem targetExists_spec (path : List String) (w₀ : MigrationWorld) :
    ⦃fun w => ⌜w = w₀⌝⦄ targetExists run path
    ⦃post⟨fun found w => ⌜w₀.Same w ∧ found = (w₀.target.get? path).isSome⌝, fun _ w =>
      ⌜w₀.Same w⌝⟩⦄ := by
  mvcgen [targetExists, operation]
  all_goals simp_all +zetaDelta [MigrationWorld.Same]

theorem targetSet_spec (path : List String) (data : Record) (w₀ : MigrationWorld) :
    ⦃fun w => ⌜w = w₀⌝⦄ targetSet run path data
    ⦃post⟨fun _ w => ⌜w.target = w₀.target.set path data ∧ w.checkpoints = w₀.checkpoints⌝,
      fun _ w => ⌜(w.target = w₀.target.set path data ∨ w.target = w₀.target) ∧
        w.checkpoints = w₀.checkpoints⌝⟩⦄ := by
  mvcgen [targetSet, operation]
  all_goals simp_all +zetaDelta

theorem saveCheckpoint_spec (completed : Completed) (w₀ : MigrationWorld) :
    ⦃fun w => ⌜w = w₀⌝⦄ saveCheckpoint run completed
    ⦃post⟨fun _ w => ⌜w.target = w₀.target ∧
      w.checkpoints = w₀.checkpoints.set run.args.checkpointFile
        (.json (checkpointJson run.args.tenant run.args.companyId completed))⌝,
      fun _ w => ⌜w.target = w₀.target ∧ (w.checkpoints = w₀.checkpoints.set run.args.checkpointFile
        (.json (checkpointJson run.args.tenant run.args.companyId completed)) ∨
          w.checkpoints = w₀.checkpoints.set run.args.checkpointFile .torn ∨
          w.checkpoints = w₀.checkpoints)⌝⟩⦄ := by
  mvcgen [saveCheckpoint, operation, MigrationWorld.writeCheckpoint]
  all_goals simp_all +zetaDelta

/-! ## The documents of a section -/

/-- What a part of a run may do to the target database: documents stay, a dry run writes nothing,
    and new documents have paths of a certain kind. -/
structure Moved (dryRun : Bool) (allowed : List String → Prop) (w w' : MigrationWorld) : Prop where
  kept : ∀ p d, w.target.get? p = some d → w'.target.get? p = some d
  dry : dryRun = true → w'.target = w.target
  only : ∀ p, w'.target.get? p ≠ w.target.get? p → allowed p

section Moved

variable {dryRun : Bool} {allowed allowed' : List String → Prop} {w₀ w w' : MigrationWorld}

theorem Moved.of_same (h : w'.target = w.target) : Moved dryRun allowed w w' :=
  ⟨fun p d hp => by rw [h]; exact hp, fun _ => h, fun p hp => absurd (by rw [h]) hp⟩

theorem Moved.trans (h : Moved dryRun allowed w₀ w) (h' : Moved dryRun allowed w w') :
    Moved dryRun allowed w₀ w' := by
  refine ⟨fun p d hp => h'.kept p d (h.kept p d hp), fun hdry => (h'.dry hdry).trans (h.dry hdry),
    ?_⟩
  intro p hp
  by_cases hsame : w'.target.get? p = w.target.get? p
  · exact h.only p (hsame ▸ hp)
  · exact h'.only p hsame

theorem Moved.mono (h : Moved dryRun allowed w w') (hallowed : ∀ p, allowed p → allowed' p) :
    Moved dryRun allowed' w w' :=
  ⟨h.kept, h.dry, fun p hp => hallowed p (h.only p hp)⟩

/-- A new document is written. -/
theorem Moved.of_set {path : List String} {data : Record} (hdry : dryRun = false)
    (hnew : w.target.get? path = none) (hset : w'.target = w.target.set path data)
    (hallowed : allowed path) : Moved dryRun allowed w w' := by
  have hother : ∀ p, p ≠ path → w'.target.get? p = w.target.get? p := by
    intro p hp
    rw [hset, Dict.get?_set_of_ne _ _ hp]
  refine ⟨fun p d hp => ?_, fun h => absurd (hdry.symm.trans h) Bool.false_ne_true, fun p hp => ?_⟩
  · have hne : p ≠ path := by
      rintro rfl
      rw [hnew] at hp
      cases hp
    rw [hother p hne]
    exact hp
  · by_cases hpath : p = path
    · exact hpath ▸ hallowed
    · exact absurd (hother p hpath) hp

theorem Moved.isSome (h : Moved dryRun allowed w w') {p : List String}
    (hp : (w.target.get? p).isSome = true) : (w'.target.get? p).isSome = true := by
  obtain ⟨d, hd⟩ := Option.isSome_iff_exists.1 hp
  rw [h.kept p d hd]
  rfl

end Moved

/-- The targets a section may create: those of documents that the checkpoint does not list. -/
def Creatable (spec : MigrationSpec) (docs : List (String × Record)) (force : Bool)
    (resumeIds : List String) (p : List String) : Prop :=
  ∃ e ∈ docs, spec.target e.1 e.2 = .ok p ∧ ¬ (force = false ∧ e.1 ∈ resumeIds)

/-- What is known after the documents `done` of a section. -/
structure DocsDone (spec : MigrationSpec) (done : List (String × Record)) (dryRun force : Bool)
    (resumeIds : List String) (w₀ : MigrationWorld) (result : MigrationResult)
        (w : MigrationWorld) : Prop where
  moved : Moved dryRun (Creatable spec done force resumeIds) w₀ w
  files : w.checkpoints = w₀.checkpoints
  /-- a valid document is at its target, unless the checkpoint lists it -/
  complete : dryRun = false → ∀ e ∈ done, ∀ p, e.1 ≠ "" → spec.target e.1 e.2 = .ok p →
    ¬ (force = false ∧ e.1 ∈ resumeIds) → (w.target.get? p).isSome = true
  /-- a processed document was listed or is at its target -/
  processed : dryRun = false → ∀ id ∈ result.processedIds, id ∈ resumeIds ∨
    ∃ e ∈ done, ∃ p, e.1 = id ∧ spec.target e.1 e.2 = .ok p ∧ (w.target.get? p).isSome = true

section DocsDone

variable {spec : MigrationSpec} {done : List (String × Record)} {dryRun force : Bool}
  {resumeIds : List String} {w₀ w w' : MigrationWorld} {result result' : MigrationResult}

theorem Creatable.mono {docs docs' : List (String × Record)} (h : ∀ e ∈ docs, e ∈ docs')
    {p : List String} (hp : Creatable spec docs force resumeIds p) :
    Creatable spec docs' force resumeIds p := by
  obtain ⟨e, he, hpath⟩ := hp
  exact ⟨e, h e he, hpath⟩

/-- **One more document.** -/
theorem DocsDone.snoc (h : DocsDone spec done dryRun force resumeIds w₀ result w)
    {e : String × Record} (hmoved : Moved dryRun (Creatable spec [e] force resumeIds) w w')
    (hfiles : w'.checkpoints = w.checkpoints)
    (hcomplete : dryRun = false → ∀ p, e.1 ≠ "" → spec.target e.1 e.2 = .ok p →
      ¬ (force = false ∧ e.1 ∈ resumeIds) → (w'.target.get? p).isSome = true)
    (hprocessed : dryRun = false → ∀ id ∈ result'.processedIds, id ∈ result.processedIds ∨
      id ∈ resumeIds ∨
      (e.1 = id ∧ ∃ p, spec.target e.1 e.2 = .ok p ∧ (w'.target.get? p).isSome = true)) :
    DocsDone spec (done ++ [e]) dryRun force resumeIds w₀ result' w' := by
  have hleft : ∀ x ∈ done, x ∈ done ++ [e] := fun x hx => List.mem_append_left _ hx
  have hright : ∀ x ∈ [e], x ∈ done ++ [e] := fun x hx => List.mem_append_right _ hx
  refine ⟨?_, hfiles.trans h.files, fun hdry x hx p hid hp hnot => ?_, fun hdry id hid => ?_⟩
  · exact (h.moved.mono fun p => Creatable.mono hleft).trans (hmoved.mono fun p =>
      Creatable.mono hright)
  · rcases List.mem_append.1 hx with hx | hx
    · exact hmoved.isSome (h.complete hdry x hx p hid hp hnot)
    · rw [List.mem_singleton.1 hx] at hid hp hnot
      exact hcomplete hdry p hid hp hnot
  · rcases hprocessed hdry id hid with hold | hlisted | ⟨rfl, p, hp, hthere⟩
    · rcases h.processed hdry id hold with hlisted | ⟨x, hx, p, hxid, hp, hthere⟩
      · exact .inl hlisted
      · exact .inr ⟨x, hleft x hx, p, hxid, hp, hmoved.isSome hthere⟩
    · exact .inl hlisted
    · exact .inr ⟨e, hright e (List.mem_singleton_self e), p, rfl, hp, hthere⟩

/-- A document that is not tried: it has no id, is listed, or is invalid. -/
theorem DocsDone.untried (h : DocsDone spec done dryRun force resumeIds w₀ result w)
    {e : String × Record} (huntried : e.1 = "" ∨ (force = false ∧ e.1 ∈ resumeIds) ∨ ∃ message,
      spec.target e.1 e.2 = .error message)
    (hprocessed : ∀ id ∈ result'.processedIds, id ∈ result.processedIds ∨ id ∈ resumeIds) :
    DocsDone spec (done ++ [e]) dryRun force resumeIds w₀ result' w := by
  refine h.snoc (.of_same rfl) rfl (fun _ p hid hp hnot => ?_) (fun _ id hid => ?_)
  · rcases huntried with hempty | hlisted | ⟨message, hinvalid⟩
    · exact absurd hempty hid
    · exact absurd hlisted hnot
    · rw [hinvalid] at hp
      cases hp
  · rcases hprocessed id hid with h | h
    · exact .inl h
    · exact .inr (.inl h)

theorem DocsDone.tried (h : DocsDone spec done dryRun force resumeIds w₀ result w)
    {e : String × Record} {path : List String} (hpath : spec.target e.1 e.2 = .ok path)
    (hmoved : Moved dryRun (Creatable spec [e] force resumeIds) w w')
    (hfiles : w'.checkpoints = w.checkpoints)
    (hthere : dryRun = false → (w'.target.get? path).isSome = true)
    (hprocessed : ∀ id ∈ result'.processedIds, id ∈ result.processedIds ∨ e.1 = id) :
    DocsDone spec (done ++ [e]) dryRun force resumeIds w₀ result' w' := by
  refine h.snoc hmoved hfiles (fun hdry p _ hp _ => ?_) (fun hdry id hid => ?_)
  · rw [hpath, Except.ok.injEq] at hp
    exact hp ▸ hthere hdry
  · rcases hprocessed id hid with h | h
    · exact .inl h
    · exact .inr (.inr ⟨h, path, hpath, hthere hdry⟩)

end DocsDone

theorem migrateDocs_spec (spec : MigrationSpec) (docs : Dict String Record) (dryRun force : Bool)
    (resumeIds : List String) (w₀ : MigrationWorld) :
    ⦃fun w => ⌜w = w₀⌝⦄ migrateDocs run spec docs dryRun force resumeIds
    ⦃post⟨fun result w => ⌜DocsDone spec docs.entries dryRun force resumeIds w₀ result w⌝,
      fun _ w => ⌜Moved dryRun (Creatable spec docs.entries force resumeIds) w₀ w ∧
        w.checkpoints = w₀.checkpoints⌝⟩⦄ := by
  have hskip : ∀ (result : MigrationResult) (op : MigrationOp) (id : String),
      ∀ i ∈ (result.skip op id).processedIds, i ∈ result.processedIds ∨ id = i := by
    intro result op id i hi
    rcases List.mem_append.1 hi with hi | hi
    · exact .inl hi
    · exact .inr (List.mem_singleton.1 hi).symm
  have hunlisted : ∀ e : String × Record, ¬ ((!force && resumeIds.contains e.1) = true) →
      ¬ (force = false ∧ e.1 ∈ resumeIds) := by
    intro e he
    rwa [Bool.and_eq_true, Bool.not_eq_true', List.contains_iff_mem] at he
  have hsome : ∀ {done rest : List (String × Record)} {e : String × Record},
      docs.entries = done ++ e :: rest → ∀ x ∈ done, x ∈ docs.entries := by
    intro done rest e hdocs x hx
    rw [hdocs]
    exact List.mem_append_left _ hx
  mvcgen [migrateDocs, targetExists_spec, targetSet_spec] invariants
  · post⟨fun (cursor, result) w => ⌜DocsDone spec cursor.prefix dryRun force resumeIds w₀ result w⌝,
      fun _ w => ⌜Moved dryRun (Creatable spec docs.entries force resumeIds) w₀ w ∧
        w.checkpoints = w₀.checkpoints⌝⟩
  case vc1.step.isTrue e _ _ result hid _ w hdone =>
    exact hdone.untried (.inl hid) fun i hi => .inl hi
  case vc2.step.isFalse.isTrue e _ _ result _ hlisted _ w hdone =>
    rw [Bool.and_eq_true, Bool.not_eq_true', List.contains_iff_mem] at hlisted
    refine hdone.untried (.inr (.inl hlisted)) fun i hi => ?_
    rcases hskip result _ _ i hi with h | rfl
    · exact .inl h
    · exact .inr hlisted.2
  case vc3.step.isFalse.isFalse.h_1 e _ _ result _ _ message hinvalid _ w hdone =>
    exact hdone.untried (.inr (.inr ⟨message, hinvalid⟩)) fun i hi => .inl hi
  case vc4.step.isFalse.isFalse.h_2.post.success.isTrue e _ _ result _ _ path hpath w hdone found
      hfound _ w' h =>
    obtain ⟨⟨htarget, hfiles⟩, rfl⟩ := h
    exact hdone.tried hpath (.of_same htarget) hfiles (fun _ => htarget ▸ hfound) (hskip result _ _)
  case vc5.step.isFalse.isFalse.h_2.post.success.isFalse.isTrue.post.success e _ _ result _ hlisted
      path hpath w hdone found hfound _ hdry w₁ h _ _ w' hset =>
    obtain ⟨⟨htarget, hfiles⟩, rfl⟩ := h
    have hdry' : dryRun = false := by simpa using hdry
    have hnew : w₁.target.get? path = none := by simpa [htarget] using hfound
    have hmoved : Moved dryRun (Creatable spec [e] force resumeIds) w₁ w' :=
      Moved.of_set hdry' hnew hset.1
      ⟨e, List.mem_singleton_self e, hpath, hunlisted e hlisted⟩
    refine hdone.tried hpath (Moved.trans (.of_same htarget) hmoved) (hset.2.trans hfiles)
      (fun _ => ?_) (hskip result .create _)
    rw [hset.1, Dict.get?_set_self]
    rfl
  case vc6.step.isFalse.isFalse.h_2.post.success.isFalse.isTrue.post.except.handle e _ hdocs result
      _ hlisted path hpath w hdone found hfound _ hdry w₁ h _ =>
    obtain ⟨⟨htarget, hfiles⟩, rfl⟩ := h
    intro w' hset hfiles'
    have hdry' : dryRun = false := by simpa using hdry
    have hnew : w₁.target.get? path = none := by simpa [htarget] using hfound
    have he : e ∈ docs.entries := by rw [hdocs]; simp
    refine ⟨?_, hfiles'.trans (hfiles.trans hdone.files)⟩
    have hbefore :=
      (hdone.moved.mono fun p => Creatable.mono (hsome hdocs)).trans (.of_same htarget)
    rcases hset with hset | hsame
    · exact hbefore.trans (.of_set hdry' hnew hset ⟨e, he, hpath, hunlisted e hlisted⟩)
    · exact hbefore.trans (.of_same hsame)
  case vc7.step.isFalse.isFalse.h_2.post.success.isFalse.isFalse e _ _ result _ _ path hpath w hdone
      found _ _ hdry _ w' h =>
    have hdry' : dryRun = true := by simpa using hdry
    refine hdone.tried hpath (.of_same h.1.1) h.1.2 (fun hreal => ?_) (hskip result .create _)
    rw [hdry'] at hreal
    cases hreal
  case vc8.step.isFalse.isFalse.h_2.post.except.handle e _ hdocs result _ _ path hpath w hdone _ =>
    rintro w' ⟨htarget, hfiles⟩
    refine ⟨(hdone.moved.mono fun p => Creatable.mono (hsome hdocs)).trans (.of_same htarget), ?_⟩
    exact hfiles.trans hdone.files
  case vc9.pre _ w hw =>
    subst hw
    exact ⟨.of_same rfl, rfl, fun _ e he => absurd he List.not_mem_nil,
      fun _ id hid => absurd hid List.not_mem_nil⟩

/-! ## Targets -/

/-- The collection under a company that a section writes to; profiles are the companies
    themselves. -/
def MigrationSection.collection : MigrationSection → Option String
  | .profiles => none
  | .knowledge => some "knowledge"
  | .products => some "catalog_items"
  | .slots => some "booking_slots"

theorem target_shape {args : MigrationArgs} {kind : MigrationSection} {id : String} {data : Record}
    {p : List String} (h : (args.spec py kind).target id data = .ok p) :
    p[4]? = kind.collection ∧ p.getLast? = some id := by
  cases kind with
  | profiles =>
    unfold MigrationArgs.spec companyProfilesSpec at h
    dsimp only at h
    split at h
    · rw [← Except.ok.inj h]
      exact ⟨rfl, rfl⟩
    · cases h
  | knowledge =>
    unfold MigrationArgs.spec companyKnowledgeSpec at h
    dsimp only at h
    split at h
    · rw [← Except.ok.inj h]
      exact ⟨rfl, rfl⟩
    · cases h
  | products =>
    rw [← Except.ok.inj h]
    exact ⟨rfl, rfl⟩
  | slots =>
    rw [← Except.ok.inj h]
    exact ⟨rfl, rfl⟩

/-- Different documents have different targets. -/
theorem target_inj {args : MigrationArgs} {kind kind' : MigrationSection} {id id' : String}
    {data data' : Record} {p : List String} (h : (args.spec py kind).target id data = .ok p)
    (h' : (args.spec py kind').target id' data' = .ok p) : kind = kind' ∧ id = id' := by
  obtain ⟨hcollection, hid⟩ := target_shape py h
  obtain ⟨hcollection', hid'⟩ := target_shape py h'
  refine ⟨?_, Option.some.inj (hid.symm.trans hid')⟩
  have hcollections := hcollection.symm.trans hcollection'
  cases kind <;> cases kind' <;> first | rfl | exact absurd hcollections (by decide)

/-! ## Checkpoints -/

theorem mem_mergeCheckpointIds {existing newIds : List String} {id : String}
    (h : id ∈ mergeCheckpointIds existing newIds) : id ∈ existing ∨ id ∈ newIds := by
  unfold mergeCheckpointIds at h
  induction newIds generalizing existing with
  | nil => exact .inl h
  | cons n newIds ih =>
    rw [List.foldl_cons] at h
    rcases ih h with h | h
    · split at h
      · exact .inl h
      · rcases List.mem_append.1 h with h | h
        · exact .inl h
        · exact .inr (List.mem_cons.2 (.inl (List.mem_singleton.1 h)))
    · exact .inr (List.mem_cons_of_mem n h)

/-- A checkpoint is read back as it was saved, by runs for its tenant and its company. -/
theorem loadCheckpoint_checked (args : MigrationArgs) (tenantId companyId : String)
    (completed : Completed) :
    loadCheckpoint py args (some (.json (checkpointJson tenantId companyId completed))) =
      match checkMeta args (.dict [("tenant_id", .str tenantId), ("company_id", .str companyId)])
      with
      | .error message => .error message
      | .ok () =>
        .ok (completedOf py (completed.entries.map fun e => (e.1, .list (e.2.map .str)))) :=
  rfl

theorem loadCheckpoint_saved {args : MigrationArgs} {tenantId companyId : String}
    {completed loaded : Completed}
    (h : loadCheckpoint py args (some (.json (checkpointJson tenantId companyId completed))) =
      .ok loaded) :
    loaded = completed ∧ tenantId = args.tenant ∧
    (args.companyId ≠ "" → companyId = args.companyId) := by
  have hlists : completedOf py (completed.entries.map fun e => (e.1, .list (e.2.map .str))) =
      completed := by
    have hstr : ∀ ids : List String, (ids.map PyValue.str).map (PyValue.toStr py) = ids := by
      intro ids
      rw [List.map_map]
      exact List.map_id ids
    have hitem : completedItem py ∘ (fun e : String × List String =>
      (e.1, PyValue.list (e.2.map .str))) =
        some := by
      funext e
      show some (e.1, (e.2.map PyValue.str).map (PyValue.toStr py)) = some e
      rw [hstr]
    rw [completedOf, List.filterMap_map, hitem, List.filterMap_some, Dict.ofList_entries]
  have hmeta : checkMeta args (.dict [("tenant_id", .str tenantId), ("company_id", .str companyId)])
      = if tenantId ≠ args.tenant then
        .error ("checkpoint tenant_id mismatch (expected " ++ args.tenant ++ ", found " ++
          tenantId ++ ")")
      else checkMeta.checkCompany args (some companyId) := rfl
  rw [loadCheckpoint_checked, hmeta, hlists] at h
  by_cases htenant : tenantId = args.tenant
  · rw [if_neg (not_not.2 htenant)] at h
    by_cases hcompany : args.companyId ≠ "" ∧ companyId ≠ args.companyId
    · rw [checkMeta.checkCompany, if_pos hcompany] at h
      cases h
    · rw [checkMeta.checkCompany, if_neg hcompany] at h
      refine ⟨(Except.ok.inj h).symm, htenant, fun hgiven => ?_⟩
      by_contra hne
      exact hcompany ⟨hgiven, hne⟩
  · rw [if_pos htenant] at h
    cases h

/-- Every document listed is at its target, as far as the run knows the company. -/
def Honest (args : MigrationArgs) (completed : Completed) (w : MigrationWorld) : Prop :=
  ∀ kind : MigrationSection, (kind.needsCompany = true → args.companyId ≠ "") →
    ∀ id ∈ completed.getD kind.label [], ∀ data, id ≠ "" → (id, data) ∈ (src.docs kind).entries →
      ∀ p, (args.spec py kind).target id data = .ok p → (w.target.get? p).isSome = true

/-- Whatever a run could load lists only documents that are at their targets. -/
def FilesHonest (w : MigrationWorld) : Prop :=
  ∀ (args : MigrationArgs) (completed : Completed),
    loadCheckpoint py args (w.checkpoints.get? args.checkpointFile) = .ok completed →
      Honest py src args completed w

section Honest

variable {py src} {args : MigrationArgs} {completed : Completed} {w w' : MigrationWorld}
  {dryRun : Bool} {allowed : List String → Prop}

theorem Honest.moved (h : Honest py src args completed w) (hmoved : Moved dryRun allowed w w') :
    Honest py src args completed w' :=
  fun kind hkind id hid data hne hdata p hp =>
    hmoved.isSome (h kind hkind id hid data hne hdata p hp)

theorem FilesHonest.moved (h : FilesHonest py src w) (hmoved : Moved dryRun allowed w w')
    (hfiles : w'.checkpoints = w.checkpoints) : FilesHonest py src w' := by
  intro args completed hload
  rw [hfiles] at hload
  exact (h args completed hload).moved hmoved

/-- What one run knows of its documents, a run for the same tenant and company knows as well. -/
theorem Honest.of_args {args' : MigrationArgs} (h : Honest py src args completed w)
    (htenant : args.tenant = args'.tenant)
    (hcompany : args'.companyId ≠ "" → args.companyId = args'.companyId) :
    Honest py src args' completed w := by
  intro kind hkind id hid data hne hdata p hp
  have hspec : kind.needsCompany = true → args.companyId = args'.companyId := fun hneeds =>
    hcompany (hkind hneeds)
  have hkind' : kind.needsCompany = true → args.companyId ≠ "" := by
    intro hneeds
    rw [hspec hneeds]
    exact hkind hneeds
  refine h kind hkind' id hid data hne hdata p ?_
  cases kind with
  | profiles => simpa only [MigrationArgs.spec, htenant] using hp
  | knowledge => simpa only [MigrationArgs.spec, htenant] using hp
  | products => simpa only [MigrationArgs.spec, htenant, hspec rfl] using hp
  | slots => simpa only [MigrationArgs.spec, htenant, hspec rfl] using hp

theorem FilesHonest.saved (h : FilesHonest py src w) (hhonest : Honest py src args completed w)
    (htarget : w'.target = w.target)
    (hfiles : w'.checkpoints = w.checkpoints.set args.checkpointFile
      (.json (checkpointJson args.tenant args.companyId completed))) : FilesHonest py src w' := by
  have hmoved : Moved false (fun _ => True) w w' := .of_same htarget
  intro args' loaded hload
  rw [hfiles, Dict.get?_set] at hload
  split at hload
  · obtain ⟨rfl, htenant, hcompany⟩ := loadCheckpoint_saved py hload
    exact (hhonest.of_args htenant hcompany).moved hmoved
  · exact (h args' loaded hload).moved hmoved

/-- A checkpoint file is cut off. -/
theorem FilesHonest.torn (h : FilesHonest py src w) (htarget : w'.target = w.target) {path : String}
    (hfiles : w'.checkpoints = w.checkpoints.set path .torn) : FilesHonest py src w' := by
  have hmoved : Moved false (fun _ => True) w w' := .of_same htarget
  intro args' loaded hload
  rw [hfiles, Dict.get?_set] at hload
  split at hload
  · cases hload
  · exact (h args' loaded hload).moved hmoved

end Honest

/-! ## The sections of a run -/

/-- Every valid document of the selected collections is at its target. -/
def Complete (args : MigrationArgs) (w : MigrationWorld) : Prop :=
  ∀ kind ∈ args.collections, ∀ id data, id ≠ "" → (id, data) ∈ (src.docs kind).entries →
    ∀ p, (args.spec py kind).target id data = .ok p → (w.target.get? p).isSome = true

variable (kind : MigrationSection)

/-- The targets a section may create. -/
def SectionCreates (completed : Completed) (p : List String) : Prop :=
  kind ∈ run.args.collections ∧ Creatable (run.args.spec py kind)
    (src.docs kind).entries run.args.force (completed.getD kind.label []) p

/-- What is known after a section. -/
structure SectionDone (kind : MigrationSection) (completed completed' : Completed)
    (w w' : MigrationWorld) :
    Prop where
  moved : Moved run.args.dryRun (SectionCreates py src run kind completed) w w'
  complete : kind ∈ run.args.collections → run.args.dryRun = false → ∀ e ∈ (src.docs kind).entries,
    ∀ p, e.1 ≠ "" → (run.args.spec py kind).target e.1 e.2 = .ok p →
      ¬ (run.args.force = false ∧ e.1 ∈ completed.getD kind.label []) →
      (w'.target.get? p).isSome = true
  company : kind ∈ run.args.collections → kind.needsCompany = true → run.args.companyId ≠ ""
  others : ∀ k : MigrationSection, k ≠ kind → completed'.get? k.label = completed.get? k.label

/-- A run that lists no document before it is at its target: what it loaded is honest, and if it is
    a dry run that saves its checkpoint, all its documents are there already. -/
structure Careful (completed : Completed) (w : MigrationWorld) : Prop where
  files : FilesHonest py src w
  loaded : run.args.resume = true → Honest py src run.args completed w
  dry : run.args.dryRun = true → run.args.resume = true → Complete py src run.args w

theorem Complete.moved {args : MigrationArgs} {w w' : MigrationWorld} {dryRun : Bool}
    {allowed : List String → Prop} (h : Complete py src args w)
    (hmoved : Moved dryRun allowed w w') : Complete py src args w' :=
  fun kind hkind id data hne hdata p hp => hmoved.isSome (h kind hkind id data hne hdata p hp)

theorem label_inj {k kind : MigrationSection} (h : k.label = kind.label) : k = kind := by
  cases k <;> cases kind <;> first | rfl | exact absurd h (by decide)

theorem honest_merged {kind : MigrationSection} {completed : Completed} {w w' : MigrationWorld}
    {result : MigrationResult} (hcareful : Careful py src run completed w)
    (hresume : run.args.resume = true) (hkind : kind ∈ run.args.collections)
    (hdone : DocsDone (run.args.spec py kind) (src.docs kind).entries run.args.dryRun run.args.force
      (completed.getD kind.label []) w result w') :
    Honest py src run.args
      (completed.set kind.label
        (mergeCheckpointIds (completed.getD kind.label []) result.processedIds)) w' := by
  intro k hk id hid data hne hdata p hp
  have hloaded := (hcareful.loaded hresume).moved hdone.moved
  by_cases hsame : k = kind
  · subst hsame
    rw [Dict.getD, Dict.get?_set_self, Option.getD_some] at hid
    rcases mem_mergeCheckpointIds hid with hold | hnew
    · exact hloaded k hk id hold data hne hdata p hp
    · cases hdry : run.args.dryRun with
      | true => exact hdone.moved.isSome (hcareful.dry hdry hresume k hkind id data hne hdata p hp)
      | false =>
        rcases hdone.processed hdry id hnew with hold | ⟨e, he, q, rfl, hq, hthere⟩
        · exact hloaded k hk id hold data hne hdata p hp
        · have hget := ((src.docs k).get?_eq_some_iff e.1 data).2 hdata
          have hget' := ((src.docs k).get?_eq_some_iff e.1 e.2).2 he
          rw [hget, Option.some.injEq] at hget'
          rw [← hget', hp, Except.ok.injEq] at hq
          exact hq ▸ hthere
  · have hlabel : k.label ≠ kind.label := fun h => hsame (label_inj h)
    rw [Dict.getD, Dict.get?_set_of_ne _ _ hlabel] at hid
    exact hloaded k hk id hid data hne hdata p hp

/-- The check for `--company` is passed. -/
theorem company_of_not {kind : MigrationSection}
    (h : ¬ (kind.needsCompany && decide (run.args.companyId = "")) = true)
    (hneeds : kind.needsCompany = true) : run.args.companyId ≠ "" := by
  intro hempty
  exact h (by rw [hneeds, hempty]; rfl)

theorem runSection_spec (state : Completed × List String)
    (w₀ : MigrationWorld) : ⦃fun w => ⌜w = w₀⌝⦄ runSection py src run kind state
    ⦃post⟨fun state' w => ⌜SectionDone py src run kind state.1 state'.1 w₀ w ∧
        (Careful py src run state.1 w₀ → Careful py src run state'.1 w)⌝,
      fun _ w => ⌜Moved run.args.dryRun (SectionCreates py src run kind state.1) w₀ w ∧
        (Careful py src run state.1 w₀ → FilesHonest py src w)⌝⟩⦄ := by
  mvcgen [runSection, migrateDocs_spec, saveCheckpoint_spec]
  case vc1.isTrue hkind w hw =>
    subst hw
    exact ⟨⟨.of_same rfl, fun h => absurd h hkind, fun h => absurd h hkind, fun _ _ => rfl⟩, id⟩
  case vc2.isFalse.isTrue _ w hw =>
    subst hw
    exact ⟨.of_same rfl, fun h => h.files⟩
  case vc3.isFalse.isFalse.post.success.isTrue.post.success hkind _ hcompany w hw result _ hresume
      completed w₁ hdone _ w' h =>
    subst hw
    have hkind' := not_not.1 hkind
    have hsame : Moved run.args.dryRun (SectionCreates py src run kind state.1) w₁ w' :=
      .of_same h.1
    refine ⟨⟨(hdone.moved.mono fun p hp => ⟨hkind', hp⟩).trans hsame, ?_,
      fun _ => company_of_not run hcompany, ?_⟩, fun hcareful => ?_⟩
    · intro _ hdry e he p hid hp hnot
      exact hsame.isSome (hdone.complete hdry e he p hid hp hnot)
    · intro k hk
      exact Dict.get?_set_of_ne _ _ fun hlabel => hk (label_inj hlabel)
    · have hmerged := honest_merged py src run hcareful hresume hkind' hdone
      have hfiles := (hcareful.files.moved hdone.moved hdone.files).saved hmerged h.1 h.2
      exact ⟨hfiles, fun _ => hmerged.moved hsame, fun hdry _ =>
        ((hcareful.dry hdry hresume).moved py src hdone.moved).moved py src hsame⟩
  case vc4.isFalse.isFalse.post.success.isTrue.post.except.handle hkind _ _ w hw result _ hresume
      completed w₁ hdone _ w' =>
    subst hw
    intro htarget hfiles
    have hkind' := not_not.1 hkind
    have hsame : Moved run.args.dryRun (SectionCreates py src run kind state.1) w₁ w' :=
      .of_same htarget
    refine ⟨(hdone.moved.mono fun p hp => ⟨hkind', hp⟩).trans hsame, fun hcareful => ?_⟩
    have hbefore := hcareful.files.moved hdone.moved hdone.files
    rcases hfiles with hsaved | htorn | hkept
    · exact hbefore.saved (honest_merged py src run hcareful hresume hkind' hdone) htarget hsaved
    · exact hbefore.torn htarget htorn
    · exact hbefore.moved hsame hkept
  case vc5.isFalse.isFalse.post.success.isFalse hkind _ hcompany w hw result _ hresume w' hdone =>
    subst hw
    have hkind' := not_not.1 hkind
    refine ⟨⟨hdone.moved.mono fun p hp => ⟨hkind', hp⟩, fun _ => hdone.complete,
      fun _ => company_of_not run hcompany, fun _ _ => rfl⟩, fun hcareful => ?_⟩
    exact ⟨hcareful.files.moved hdone.moved hdone.files, fun h => absurd h hresume,
      fun _ h => absurd h hresume⟩
  case vc6.isFalse.isFalse.post.except.handle hkind _ _ w hw _ w' =>
    subst hw
    intro hmoved hfiles
    refine ⟨hmoved.mono fun p hp => ⟨not_not.1 hkind, hp⟩, fun hcareful => ?_⟩
    exact hcareful.files.moved hmoved hfiles

theorem verifySection_spec (w₀ : MigrationWorld) :
    ⦃fun w => ⌜w = w₀⌝⦄ verifySection py src run kind
    ⦃post⟨fun _ w => ⌜w₀.Same w⌝, fun _ w => ⌜w₀.Same w⌝⟩⦄ := by
  mvcgen [verifySection, targetExists_spec] invariants
  · post⟨fun _ w => ⌜w₀.Same w⌝, fun _ w => ⌜w₀.Same w⌝⟩
  all_goals simp_all [MigrationWorld.Same]

theorem verifyMigration_spec (w₀ : MigrationWorld) :
    ⦃fun w => ⌜w = w₀⌝⦄ verifyMigration py src run
    ⦃post⟨fun _ w => ⌜w₀.Same w⌝, fun _ w => ⌜w₀.Same w⌝⟩⦄ := by
  mvcgen [verifyMigration, verifySection_spec] invariants
  · post⟨fun _ w => ⌜w₀.Same w⌝, fun _ w => ⌜w₀.Same w⌝⟩
  all_goals simp_all [MigrationWorld.Same]

/-! ## Whole runs -/

/-- The targets a run may create. -/
def RunCreates (completed : Completed) (p : List String) : Prop :=
  ∃ kind, SectionCreates py src run kind completed p

/-- What is known after the sections `done` of a run that loaded the checkpoint `loaded`. -/
structure SectionsDone (done : List MigrationSection) (loaded completed : Completed)
    (w w' : MigrationWorld) :
    Prop where
  moved : Moved run.args.dryRun (RunCreates py src run loaded) w w'
  complete : run.args.dryRun = false → ∀ kind ∈ done, kind ∈ run.args.collections →
    ∀ e ∈ (src.docs kind).entries, ∀ p, e.1 ≠ "" → (run.args.spec py kind).target e.1 e.2 = .ok p →
      ¬ (run.args.force = false ∧ e.1 ∈ loaded.getD kind.label []) →
      (w'.target.get? p).isSome = true
  company : ∀ kind ∈ done, kind ∈ run.args.collections → kind.needsCompany = true →
    run.args.companyId ≠ ""
  others : ∀ k : MigrationSection, k ∉ done → completed.get? k.label = loaded.get? k.label
  careful : Careful py src run loaded w → Careful py src run completed w'

theorem SectionsDone.nil (loaded : Completed) (w : MigrationWorld) :
    SectionsDone py src run [] loaded loaded w w :=
  ⟨.of_same rfl, fun _ _ h => absurd h List.not_mem_nil, fun _ h => absurd h List.not_mem_nil,
    fun _ _ => rfl, id⟩

variable {done : List MigrationSection}

theorem SectionsDone.creates {loaded completed : Completed}
    {w₀ w : MigrationWorld} (h : SectionsDone py src run done loaded completed w₀ w)
    {kind : MigrationSection} (hkind : kind ∉ done) {p : List String}
    (hp : SectionCreates py src run kind completed p) : RunCreates py src run loaded p := by
  refine ⟨kind, hp.1, ?_⟩
  have hsame : completed.getD kind.label [] = loaded.getD kind.label [] := by
    rw [Dict.getD, Dict.getD, h.others kind hkind]
  exact hsame ▸ hp.2

/-- **One more section.** -/
theorem SectionsDone.snoc {loaded completed completed' : Completed}
    {w₀ w w' : MigrationWorld} (h : SectionsDone py src run done loaded completed w₀ w)
    {kind : MigrationSection} (hkind : kind ∉ done)
    (hsection : SectionDone py src run kind completed completed' w w')
    (hcareful : Careful py src run completed w → Careful py src run completed' w') :
    SectionsDone py src run (done ++ [kind]) loaded completed' w₀ w' := by
  have hsame : completed.getD kind.label [] = loaded.getD kind.label [] := by
    rw [Dict.getD, Dict.getD, h.others kind hkind]
  have hmoved := hsection.moved.mono fun p => h.creates py src run hkind
  refine ⟨h.moved.trans hmoved, fun hdry k hk hselected e he p hid hp hnot => ?_,
    fun k hk hselected hneeds => ?_, fun k hk => ?_, fun hloaded => hcareful (h.careful hloaded)⟩
  · rcases List.mem_append.1 hk with hk | hk
    · exact hmoved.isSome (h.complete hdry k hk hselected e he p hid hp hnot)
    · rw [List.mem_singleton.1 hk] at hselected he hp hnot
      rw [← hsame] at hnot
      exact hsection.complete hselected hdry e he p hid hp hnot
  · rcases List.mem_append.1 hk with hk | hk
    · exact h.company k hk hselected hneeds
    · rw [List.mem_singleton.1 hk] at hselected hneeds
      exact hsection.company hselected hneeds
  · rw [List.mem_append, List.mem_singleton, not_or] at hk
    exact (hsection.others k hk.2).trans (h.others k hk.1)

variable (w : MigrationWorld)

/-- The checkpoint a run goes by. -/
def Loaded (completed : Completed) : Prop :=
  if run.args.resume = true then
    loadCheckpoint py run.args (w.checkpoints.get? run.args.checkpointFile) = .ok completed
  else completed = Dict.empty

/-- What is known after a run that finished. -/
structure RunDone (completed : Completed) (w w' : MigrationWorld) : Prop where
  loaded : Loaded py run w completed
  moved : Moved run.args.dryRun (RunCreates py src run completed) w w'
  complete : run.args.dryRun = false → ∀ kind ∈ run.args.collections, ∀ e ∈ (src.docs kind).entries,
    ∀ p, e.1 ≠ "" → (run.args.spec py kind).target e.1 e.2 = .ok p →
      ¬ (run.args.force = false ∧ e.1 ∈ completed.getD kind.label []) →
      (w'.target.get? p).isSome = true
  company : ∀ kind ∈ run.args.collections, kind.needsCompany = true → run.args.companyId ≠ ""

/-- No dry run that saves its checkpoint before all its documents are at their targets. -/
def DryRunHonest : Prop :=
  run.args.dryRun = true → run.args.resume = true → Complete py src run.args w

theorem resumeCheckpoint_spec (w₀ : MigrationWorld) :
    ⦃fun w => ⌜w = w₀⌝⦄ resumeCheckpoint py run
    ⦃post⟨fun loaded w => ⌜w = w₀ ∧ Loaded py run w₀ loaded⌝, fun _ w => ⌜w = w₀⌝⟩⦄ := by
  mvcgen [resumeCheckpoint]
  all_goals simp_all [Loaded]

/-- What every run keeps, however it ends. -/
def RunKeeps (w w' : MigrationWorld) : Prop :=
  Moved run.args.dryRun (fun _ => True) w w' ∧
    (FilesHonest py src w → DryRunHonest py src run w → FilesHonest py src w')

theorem RunKeeps.refl : RunKeeps py src run w w := ⟨.of_same rfl, fun h _ => h⟩

theorem RunKeeps.of_same {w₀ w w' : MigrationWorld} (h : RunKeeps py src run w₀ w)
    (hsame : w.Same w') : RunKeeps py src run w₀ w' := by
  have hmoved : Moved run.args.dryRun (fun _ => True) w w' := .of_same hsame.1
  exact ⟨h.1.trans hmoved, fun hfiles hhonest => (h.2 hfiles hhonest).moved hmoved hsame.2⟩

theorem careful_start {w : MigrationWorld} {loaded : Completed} (hloaded : Loaded py run w loaded)
    (hfiles : FilesHonest py src w) (hhonest : DryRunHonest py src run w) :
    Careful py src run loaded w := by
  refine ⟨hfiles, fun hresume => ?_, hhonest⟩
  rw [Loaded, if_pos hresume] at hloaded
  exact hfiles run.args loaded hloaded

theorem SectionsDone.keeps {loaded completed : Completed}
    {w₀ w : MigrationWorld} (h : SectionsDone py src run done loaded completed w₀ w)
    (hloaded : Loaded py run w₀ loaded) : RunKeeps py src run w₀ w :=
  ⟨h.moved.mono fun _ _ => trivial, fun hfiles hhonest =>
    (h.careful (careful_start py src run hloaded hfiles hhonest)).files⟩

theorem SectionsDone.runDone {loaded completed : Completed} {w₀ w w' : MigrationWorld}
    (h : SectionsDone py src run migrationSections loaded completed w₀ w)
    (hloaded : Loaded py run w₀ loaded) (hsame : w.Same w') : RunDone py src run loaded w₀ w' := by
  have hall : ∀ kind : MigrationSection, kind ∈ migrationSections := by
    intro kind
    cases kind <;> decide
  have hmoved : Moved run.args.dryRun (RunCreates py src run loaded) w w' := .of_same hsame.1
  refine ⟨hloaded, h.moved.trans hmoved, fun hdry kind hkind e he p hid hp hnot => ?_,
    fun kind hkind => h.company kind (hall kind) hkind⟩
  exact hmoved.isSome (h.complete hdry kind (hall kind) hkind e he p hid hp hnot)

theorem migrationMain_spec (w₀ : MigrationWorld) :
    ⦃fun w => ⌜w = w₀⌝⦄ migrationMain py src run
    ⦃post⟨fun _ w => ⌜(∃ loaded, RunDone py src run loaded w₀ w) ∧ RunKeeps py src run w₀ w⌝,
      fun _ w => ⌜RunKeeps py src run w₀ w⌝⟩⦄ := by
  mvcgen [migrationMain, resumeCheckpoint_spec, runSection_spec, verifyMigration_spec] invariants
  · post⟨fun (cursor, state) w => ⌜∃ loaded, Loaded py run w₀ loaded ∧
        SectionsDone py src run cursor.prefix loaded state.1 w₀ w⌝,
      fun _ w => ⌜RunKeeps py src run w₀ w⌝⟩
  case vc1.step.post.success done kind rest hsections _ _ hdone state' w' hsection =>
    obtain ⟨loaded, hloaded, hdone⟩ := hdone
    have hnodup : (done ++ kind :: rest).Nodup := hsections ▸ (by decide : migrationSections.Nodup)
    have hkind : kind ∉ done := fun hmem =>
      (List.nodup_append.1 hnodup).2.2 kind hmem kind List.mem_cons_self rfl
    exact ⟨loaded, hloaded, hdone.snoc py src run hkind hsection.1 hsection.2⟩
  case vc2.step.post.except.handle _ _ _ _ state _ hdone _ =>
    obtain ⟨loaded, hloaded, hdone⟩ := hdone
    intro w' hmoved hfiles
    have hkept := hdone.keeps py src run hloaded
    refine ⟨hkept.1.trans (hmoved.mono fun _ _ => trivial), fun hstart hhonest => ?_⟩
    exact hfiles (hdone.careful (careful_start py src run hloaded hstart hhonest))
  case vc3.post.success.pre hstart loaded _ w hloaded =>
    obtain ⟨rfl, hloaded⟩ := hloaded
    subst hstart
    exact ⟨loaded, hloaded, .nil py src run loaded _⟩
  case vc4.post.success.post.success.isTrue hdone =>
    obtain ⟨loaded, hloaded, hdone⟩ := hdone
    exact hdone.keeps py src run hloaded
  case vc5.post.success.post.success.isFalse.isTrue.post.success.isTrue hdone _ _ _ hsame =>
    obtain ⟨loaded, hloaded, hdone⟩ := hdone
    exact (hdone.keeps py src run hloaded).of_same py src run hsame
  case vc6.post.success.post.success.isFalse.isTrue.post.success.isFalse hdone _ _ _ hsame =>
    obtain ⟨loaded, hloaded, hdone⟩ := hdone
    exact ⟨⟨loaded, hdone.runDone py src run hloaded hsame⟩,
      (hdone.keeps py src run hloaded).of_same py src run hsame⟩
  case vc7.post.success.post.success.isFalse.isTrue.post.except.handle hdone _ w' =>
    obtain ⟨loaded, hloaded, hdone⟩ := hdone
    intro hsame
    exact (hdone.keeps py src run hloaded).of_same py src run hsame
  case vc8.post.success.post.success.isFalse.isFalse hdone =>
    obtain ⟨loaded, hloaded, hdone⟩ := hdone
    exact ⟨⟨loaded, hdone.runDone py src run hloaded ⟨rfl, rfl⟩⟩, hdone.keeps py src run hloaded⟩
  case vc10.post.except.handle hstart _ w' =>
    rintro rfl
    subst hstart
    exact .refl py src run _

theorem migrationRun_ok {w : MigrationWorld} (h : (migrationRun py src run w).1 = .ok ()) :
    ∃ loaded, RunDone py src run loaded w (afterRun py src run w) := by
  have hrun := run_of_triple (migrationMain_spec py src run { w with operations := 0 }) rfl
  unfold afterRun migrationRun at *
  rcases hx : StateT.run (ExceptT.run (migrationMain py src run)) { w with operations := 0 } with
    ⟨result, w'⟩
  rw [hx] at hrun h
  cases result with
  | ok value =>
    obtain ⟨⟨loaded, hdone⟩, -⟩ := hrun
    exact ⟨loaded, hdone.loaded, ⟨hdone.moved.kept, hdone.moved.dry, hdone.moved.only⟩,
      hdone.complete, hdone.company⟩
  | error e => cases h

theorem afterRun_keeps : RunKeeps py src run w (afterRun py src run w) := by
  have hrun := run_of_triple (migrationMain_spec py src run { w with operations := 0 }) rfl
  unfold afterRun migrationRun
  rcases hx : StateT.run (ExceptT.run (migrationMain py src run)) { w with operations := 0 } with
    ⟨result, w'⟩
  rw [hx] at hrun
  have hkeeps : RunKeeps py src run { w with operations := 0 } w' := by
    cases result with
    | ok value => exact hrun.2
    | error e => exact hrun
  exact ⟨⟨hkeeps.1.kept, hkeeps.1.dry, hkeeps.1.only⟩, hkeeps.2⟩

theorem afterRuns_append (runs runs' : List MigrationRun) :
    afterRuns py src w (runs ++ runs') = afterRuns py src (afterRuns py src w runs) runs' :=
  List.foldl_append

variable (runs : List MigrationRun)

/-- **No run changes a document that exists at its target.** -/
theorem afterRuns_kept {p : List String}
    {d : Record} (hp : w.target.get? p = some d) : (afterRuns py src w runs).target.get? p =
    some d := by
  induction runs generalizing w with
  | nil => exact hp
  | cons run runs ih =>
    exact ih (afterRun py src run w) ((afterRun_keeps py src run w).1.kept p d hp)

/-- No run of the sequence is a dry run that lists documents that are not at their targets. -/
def DryRunsHonest : Prop :=
  ∀ before run after, runs = before ++ run :: after →
    DryRunHonest py src run (afterRuns py src w before)

theorem afterRuns_honest {w : MigrationWorld} {runs : List MigrationRun}
    (hfiles : FilesHonest py src w) (hruns : DryRunsHonest py src w runs) :
    FilesHonest py src (afterRuns py src w runs) := by
  induction runs generalizing w with
  | nil => exact hfiles
  | cons run runs ih =>
    have hfirst : DryRunHonest py src run w := hruns [] run runs rfl
    refine ih ((afterRun_keeps py src run w).2 hfiles hfirst) fun before run' after hsplit => ?_
    exact hruns (run :: before) run' after (congrArg (run :: ·) hsplit)

/-! ## Completeness -/

/-- What the migration is to do: in the end, every valid document of the last run's collections is
    at its target; what existed at any time is unchanged; and no dry run wrote anything. -/
structure Migrated (w : MigrationWorld) (runs : List MigrationRun) (last : MigrationRun) :
    Prop where
  complete : Complete py src last.args (afterRuns py src w (runs ++ [last]))
  kept : ∀ before after, runs ++ [last] = before ++ after → ∀ p d,
    (afterRuns py src w before).target.get? p = some d →
      (afterRuns py src w (runs ++ [last])).target.get? p = some d
  dry : ∀ before run after, runs ++ [last] = before ++ run :: after → run.args.dryRun = true →
    (afterRuns py src w (before ++ [run])).target = (afterRuns py src w before).target

/-- What a run would skip because its checkpoint lists it is at its target. -/
def SkipsMigrated : Prop :=
  run.args.resume = true → run.args.force = false → ∀ completed,
    loadCheckpoint py run.args (w.checkpoints.get? run.args.checkpointFile) = .ok completed →
      ∀ kind ∈ run.args.collections, ∀ id ∈ completed.getD kind.label [], ∀ data, id ≠ "" →
        (id, data) ∈ (src.docs kind).entries → ∀ p, (run.args.spec py kind).target id data = .ok p →
          (w.target.get? p).isSome = true

/-- **A real run is complete exactly if it skips nothing that is missing.** -/
theorem complete_iff {w w' : MigrationWorld} {loaded : Completed} (hreal : run.args.dryRun = false)
    (hdone : RunDone py src run loaded w w') :
    Complete py src run.args w' ↔ SkipsMigrated py src run w := by
  have hloaded := hdone.loaded
  constructor
  · intro hcomplete hresume hforce completed hload kind hkind id hid data hne hdata p hp
    rw [Loaded, if_pos hresume, hload, Except.ok.injEq] at hloaded
    subst hloaded
    have hthere := hcomplete kind hkind id data hne hdata p hp
    by_contra hmissing
    -- the run created the target, so it belongs to a document that is not listed
    have hcreated := hdone.moved.only p fun hsame => hmissing (hsame ▸ hthere)
    obtain ⟨kind', _, ⟨id', data'⟩, _, hp', hunlisted⟩ := hcreated
    obtain ⟨rfl, rfl⟩ := target_inj py hp hp'
    exact hunlisted ⟨hforce, hid⟩
  · intro hskips kind hkind id data hne hdata p hp
    by_cases hlisted : run.args.force = false ∧ id ∈ loaded.getD kind.label []
    · by_cases hresume : run.args.resume = true
      · rw [Loaded, if_pos hresume] at hloaded
        have hthere :=
          hskips hresume hlisted.1 loaded hloaded kind hkind id hlisted.2 data hne hdata p hp
        exact hdone.moved.isSome hthere
      · rw [Loaded, if_neg hresume] at hloaded
        rw [hloaded] at hlisted
        exact absurd hlisted.2 List.not_mem_nil
    · exact hdone.complete hreal kind hkind (id, data) hdata p hne hp hlisted

/-- Where no checkpoint file exists, nothing that could be loaded is wrong. -/
theorem filesHonest_of_none {w : MigrationWorld} (h : w.checkpoints = Dict.empty) :
    FilesHonest py src w := by
  intro args completed hload kind _ id hid
  rw [h] at hload
  rw [← Except.ok.inj hload] at hid
  exact absurd hid List.not_mem_nil

/-- **Migration completeness.** A sequence of runs that ends with a real run that finishes has
    migrated everything exactly if that run skips nothing that is missing at its target. It does
    not, if the sequence starts without checkpoint files and no dry run saved a checkpoint before
    its documents were at their targets. -/
theorem migrationRuns_complete (last : MigrationRun) (hreal : last.args.dryRun = false)
    (hfinished : (migrationRun py src last (afterRuns py src w runs)).1 = .ok ()) :
    (Migrated py src w runs last ↔ SkipsMigrated py src last (afterRuns py src w runs)) ∧
      (w.checkpoints = Dict.empty → DryRunsHonest py src w runs → Migrated py src w runs last) := by
  obtain ⟨loaded, hdone⟩ := migrationRun_ok py src last hfinished
  have hlast : afterRuns py src w (runs ++ [last]) = afterRun py src last
      (afterRuns py src w runs) :=
    afterRuns_append py src w runs [last]
  have hiff : Migrated py src w runs last ↔ SkipsMigrated py src last (afterRuns py src w runs) :=
    by
    rw [← complete_iff py src last hreal hdone, ← hlast]
    refine ⟨fun h => h.complete, fun h => ⟨h, fun before after hsplit p d hp => ?_, ?_⟩⟩
    · rw [hsplit, afterRuns_append]
      exact afterRuns_kept py src _ after hp
    · intro before run after _ hdry
      rw [afterRuns_append]
      exact (afterRun_keeps py src run _).1.dry hdry
  refine ⟨hiff, fun hnone hruns => hiff.2 fun _ _ completed hload kind hkind => ?_⟩
  have hfiles := afterRuns_honest py src (filesHonest_of_none py src hnone) hruns
  exact hfiles last.args completed hload kind (hdone.company kind hkind)

/-- One company profile to migrate. -/
def oneProfile : SourceDatabase where
  companyProfiles := Dict.ofList [("acme", Dict.ofList [("industry", .str "electronics")])]
  companyKnowledge := Dict.empty
  products := Dict.empty
  bookingSlots := Dict.empty

def emptyTarget : MigrationWorld where
  target := Dict.empty
  checkpoints := Dict.empty

/-- `--resume --collections profiles` -/
def resumedRun : MigrationRun where
  args := { resume := true, collections := [.profiles] }
  fate := fun _ => .lands

/-- `--dry-run --resume --collections profiles` -/
def previewRun : MigrationRun where
  args := { dryRun := true, resume := true, collections := [.profiles] }
  fate := fun _ => .lands

/-- The run is interrupted after it wrote the profile, before it saved the checkpoint. -/
def interruptedRun : MigrationRun where
  args := { resume := true, collections := [.profiles] }
  fate := fun n => if n = 1 then .lost else .lands

theorem interruptedMigration_complete :
    Migrated .ascii oneProfile emptyTarget [interruptedRun] resumedRun := by
  have h := migrationRuns_complete .ascii oneProfile emptyTarget [interruptedRun] resumedRun rfl rfl
  refine h.2 rfl fun before run after hsplit hdry => ?_
  have hrun : run ∈ [interruptedRun] := hsplit ▸ List.mem_append_right before List.mem_cons_self
  rw [List.mem_singleton.1 hrun] at hdry
  cases hdry

/-- A preview lists the profile in the checkpoint, and the run after it skips it. -/
theorem previewedMigration_incomplete :
    ¬ ∀ (py : StrMethods) (src : SourceDatabase) (w : MigrationWorld) (runs : List MigrationRun)
      (last : MigrationRun), w.checkpoints = Dict.empty → last.args.dryRun = false →
        (migrationRun py src last (afterRuns py src w runs)).1 = .ok () →
        Migrated py src w runs last := by
  intro h
  have hmigrated := h .ascii oneProfile emptyTarget [previewRun] resumedRun rfl rfl rfl
  have hthere := hmigrated.complete .profiles (List.mem_singleton_self _) "acme" _ (by decide)
    (List.mem_singleton_self _) ["tenants", "public", "companies", "acme"] rfl
  exact absurd hthere (by decide)

end Ekaette
