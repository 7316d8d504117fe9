import Ekaette.Lib.EventMachine
import Ekaette.Tools.ScopedQueries
import Mathlib.Data.List.Sort

set_option autoImplicit false

/-! # Global lessons

`app/tools/global_lessons.py`: lessons that hold for all customers of a company, in its
`global_lessons` collection. A session loads the active ones that pass the schema, and its agents
are instructed to follow those that apply to them. -/

namespace Ekaette

/-! ## The schema -/

/-- `LESSON_CATEGORIES` -/
def LESSON_CATEGORIES : List String :=
  ["vision_behavior", "questionnaire_logic", "greeting", "general", "routing", "tone"]

/-- `_VALID_STATUSES` -/
def lessonStatuses : List String := ["active", "pending_review", "retired"]

/-- `isinstance(value, str) and value in allowed` -/
def isOneOf (allowed : List String) (value : PyValue) : Bool := value.str?.any (· ∈ allowed)

/-- What is wrong with `applicable_agents`. -/
def agentsErrors : PyValue → List String
  | .none => []
  | .list agents =>
    if agents.all (fun agent => agent.str?.isSome) then []
    else ["applicable_agents items must be strings"]
  | _ => ["applicable_agents must be a list if present"]

/-- `validate_global_lesson` of a map; `repr` prints a value. -/
def validateGlobalLesson (repr : PyValue → String) (data : Record) : List String :=
  ((["id", "lesson"].filter fun field => !(data.value field).str?.any (PyStr.strip · ≠ "")).map
    ("missing or empty required string field: " ++ ·)) ++
  (if isOneOf LESSON_CATEGORIES (data.value "category") then []
    else ["invalid category: " ++ repr (data.value "category") ++ " (must be one of " ++
      "['general', 'greeting', 'questionnaire_logic', 'routing', 'tone', 'vision_behavior'])"]) ++
  (if isOneOf lessonStatuses (data.value "status") then []
    else ["invalid status: " ++ repr (data.value "status") ++ " (must be one of " ++
      "['active', 'pending_review', 'retired'])"]) ++
  agentsErrors (data.value "applicable_agents")

/-! ## Submitting and loading -/

/-- The arguments of `submit_global_lesson`. -/
structure LessonDraft where
  lessonText : String
  category : String
  /-- the empty list for `None` -/
  applicableAgents : List String
  source : String

variable (tenantId companyId : String)

/-- The collection of the lessons. -/
def lessonsCollection : DocPath :=
  companyCollection tenantId companyId "global_lessons"

/-- The lesson of a draft. -/
def LessonDraft.lesson (draft : LessonDraft) (lessonId createdAt : String) : Record :=
  let lesson : Record := Dict.ofList
    [("id", .str lessonId), ("lesson", .str draft.lessonText), ("category", .str draft.category),
      ("status", .str (if draft.source = "admin" then "active" else "pending_review")),
      ("source", .str draft.source), ("trigger_count", .int 0), ("created_at", .str createdAt)]
  if draft.applicableAgents = [] then lesson
  else lesson.set "applicable_agents" (.list (draft.applicableAgents.map .str))

/-- `submit_global_lesson`, with the digits of `uuid4` and the time it draws. -/
def submitGlobalLesson (draft : LessonDraft) (hex createdAt : String)
    (access : Access) (db : Firestore) : Firestore × Option Record :=
  if PyStr.strip draft.lessonText = "" then (db, none)
  else if draft.category ∉ LESSON_CATEGORIES then (db, none)
  else
    let lessonId := "lesson-" ++ hex
    let lesson := draft.lesson lessonId createdAt
    access.perform db (db.set ((lessonsCollection tenantId companyId).document lessonId) lesson,
      some lesson) none

/-- The active lessons of a company in the order of their ids, at most fifty. -/
def activeLessons (db : Firestore) : List Record :=
  (((db.entries.filter fun e => decide (e.1.dropLast = lessonsCollection tenantId companyId) &&
    (e.2.value "status").eqStr "active").mergeSort fun a b =>
      decide (a.1.getLastD "" ≤ b.1.getLastD "")).take 50).map
      Prod.snd

/-- `load_global_lessons`, where the query is served. -/
def loadGlobalLessons (repr : PyValue → String) (tenantId companyId : String) (db : Firestore) :
    List Record :=
  (activeLessons tenantId companyId db).filter fun data => validateGlobalLesson repr data = []

/-! ## Instructions -/

/-- `_lesson_applies_to_agent` -/
def lessonAppliesToAgent (agentName : String) (lesson : Record) : Bool :=
  match lesson.value "applicable_agents" with
  | .list (agent :: agents) => (agent :: agents).any fun a => a.eqStr "*" || a.eqStr agentName
  | _ => true

/-- The heading, and an entry for each text. -/
def instructionOf (texts : List String) : String :=
  "\n".intercalate ("LEARNED BEHAVIORS (apply these in every conversation):" :: texts.map
    ("- " ++ ·))

/-- `lesson.get("lesson", "").strip()`; `none` where it raises. -/
def lessonText (lesson : Record) : Option String :=
  ((lesson.get? "lesson").getD (.str "")).str?.map PyStr.strip

/-- `format_lessons_for_instruction`; `none` where it raises. -/
def formatLessonsForInstruction (lessons : List Record) (agentName : String) : Option String :=
  match lessons.filter (lessonAppliesToAgent agentName) with
  | [] => some ""
  | matching => (matching.mapM lessonText).map fun texts => instructionOf (texts.filter (· ≠ ""))

/-! ## Submitted lessons -/

/-- The fields of a submitted lesson that are read. -/
theorem lesson_values (draft : LessonDraft) (lessonId createdAt : String) :
    let lesson := draft.lesson lessonId createdAt
    lesson.value "id" = .str lessonId ∧ lesson.get? "lesson" = some (.str draft.lessonText) ∧
      lesson.value "category" = .str draft.category ∧
      lesson.value "status" = .str (if draft.source = "admin" then "active" else "pending_review") ∧
      agentsErrors (lesson.value "applicable_agents") = [] := by
  unfold LessonDraft.lesson
  by_cases hagents : draft.applicableAgents = []
  · simp [hagents, Dict.ofList, Record.value, agentsErrors]
  · simp [hagents, Dict.ofList, Record.value, agentsErrors]

/-- **A submitted lesson passes the schema.** -/
theorem validateGlobalLesson_lesson (repr : PyValue → String) {draft : LessonDraft}
    (htext : PyStr.strip draft.lessonText ≠ "") (hcategory : draft.category ∈ LESSON_CATEGORIES)
    (hex createdAt : String) :
    validateGlobalLesson repr (draft.lesson ("lesson-" ++ hex) createdAt) = [] := by
  obtain ⟨hid, hlesson, hcategories, hstatus, hagents⟩ :=
    lesson_values draft ("lesson-" ++ hex) createdAt
  have hne : PyStr.strip ("lesson-" ++ hex) ≠ "" := by
    refine PyStr.strip_ne_empty_of_mem (c := 'l') (by decide) ?_
    rw [String.toList_append, List.mem_append]
    exact .inl (by decide)
  have hvalue : (draft.lesson ("lesson-" ++ hex) createdAt).value "lesson" =
      .str draft.lessonText := by
    rw [Record.value, hlesson]
    rfl
  rw [validateGlobalLesson, hcategories, hstatus, hagents]
  by_cases hadmin : draft.source = "admin" <;>
    simp [isOneOf, PyValue.str?, lessonStatuses, hadmin, hid, hvalue, hne, htext, hcategory]

theorem lesson_active (draft : LessonDraft) (lessonId createdAt : String) :
    ((draft.lesson lessonId createdAt).value "status").eqStr "active" = true ↔
    draft.source = "admin" := by
  rw [(lesson_values draft lessonId createdAt).2.2.2.1]
  by_cases hadmin : draft.source = "admin" <;> simp [PyValue.eqStr, PyValue.str?, hadmin]

/-- **What a session loads** is stored for the company, active, and passes the schema. -/
theorem mem_loadGlobalLessons {repr : PyValue → String} {tenantId companyId : String}
    {db : Firestore} {lesson : Record} (h : lesson ∈ loadGlobalLessons repr tenantId companyId db) :
    (∃ path, path.dropLast = lessonsCollection tenantId companyId ∧ db.get? path = some lesson) ∧
      (lesson.value "status").eqStr "active" = true ∧ validateGlobalLesson repr lesson = [] := by
  obtain ⟨hactive, hvalid⟩ := List.mem_filter.1 h
  obtain ⟨e, he, rfl⟩ := List.mem_map.1 hactive
  obtain ⟨hentry, hmatches⟩ := List.mem_filter.1 (List.mem_mergeSort.1 (List.mem_of_mem_take he))
  rw [Bool.and_eq_true] at hmatches
  exact ⟨⟨e.1, of_decide_eq_true hmatches.1, (Dict.get?_eq_some_iff db _ _).2 hentry⟩, hmatches.2,
    of_decide_eq_true hvalid⟩

/-! ## Runs of submissions -/

/-- A call of `submit_global_lesson`. -/
structure LessonRequest where
  tenantId : String
  companyId : String
  draft : LessonDraft
  hex : String
  createdAt : String
  access : Access

def LessonRequest.lesson (r : LessonRequest) : Record :=
  r.draft.lesson ("lesson-" ++ r.hex) r.createdAt

def LessonRequest.path (r : LessonRequest) : DocPath :=
  (lessonsCollection r.tenantId r.companyId).document ("lesson-" ++ r.hex)

/-- The lesson is written. -/
def LessonRequest.writes (r : LessonRequest) : Bool :=
  decide (PyStr.strip r.draft.lessonText ≠ "" ∧ r.draft.category ∈ LESSON_CATEGORIES) &&
    r.access != .refused

/-- Submissions for any companies, one after the other. -/
def lessonMachine : EventMachine Firestore LessonRequest (Option Record) where
  step db r := submitGlobalLesson r.tenantId r.companyId r.draft r.hex r.createdAt r.access db

theorem lessonMachine_next (db : Firestore) (r : LessonRequest) :
    lessonMachine.next db r = if r.writes then db.set r.path r.lesson else db := by
  simp only [EventMachine.next, lessonMachine, submitGlobalLesson]
  by_cases htext : PyStr.strip r.draft.lessonText = ""
  · simp [LessonRequest.writes, htext]
  · by_cases hcategory : r.draft.category ∈ LESSON_CATEGORIES
    · have hwrites : r.writes = (r.access != .refused) := by
        rw [LessonRequest.writes, decide_eq_true ⟨htext, hcategory⟩, Bool.true_and]
      rw [if_neg htext, if_neg (not_not.2 hcategory), hwrites]
      cases r.access with
      | refused => rfl
      | served => rfl
      | lost => rfl
    · simp [LessonRequest.writes, htext, hcategory]

theorem lessons_run (db : Firestore) (requests : List LessonRequest) (path : DocPath) :
    (lessonMachine.run db requests).get? path =
      (((requests.filter (·.writes)).filter (fun r => r.path = path)).getLast?.map
        LessonRequest.lesson).or (db.get? path) := by
  have hrun : lessonMachine.run db requests =
      (requests.filter (·.writes)).foldl (fun db r => db.set r.path r.lesson) db := by
    induction requests generalizing db with
    | nil => rfl
    | cons r requests ih =>
      rw [EventMachine.run_cons, ih, lessonMachine_next]
      by_cases hwrites : r.writes = true
      · rw [if_pos hwrites, List.filter_cons_of_pos hwrites, List.foldl_cons]
      · rw [if_neg hwrites, List.filter_cons_of_neg hwrites]
  rw [hrun, Dict.get?_foldl_set_last]

theorem lessonText_of_valid {repr : PyValue → String} {lesson : Record}
    (h : validateGlobalLesson repr lesson = []) :
    ∃ text, lessonText lesson = some text ∧ text ≠ "" := by
  obtain ⟨⟨⟨hstrings, -⟩, -⟩, -⟩ := by
    simpa only [validateGlobalLesson, List.append_eq_nil_iff] using h
  have hlesson := List.filter_eq_nil_iff.1 (List.map_eq_nil_iff.1 hstrings) "lesson" (by decide)
  rw [Bool.not_eq_true', Bool.not_eq_false, Option.any_eq_true] at hlesson
  obtain ⟨raw, hraw, hne⟩ := hlesson
  refine ⟨PyStr.strip raw, ?_, of_decide_eq_true hne⟩
  unfold lessonText
  unfold Record.value at hraw
  cases hget : lesson.get? "lesson" with
  | none =>
    rw [hget] at hraw
    cases hraw
  | some v =>
    rw [hget] at hraw
    rw [Option.getD_some, show v.str? = some raw from hraw]
    rfl

theorem formatLessons_eq {lessons : List Record} {agentName : String} {texts : List String}
    (h : List.Forall₂ (fun lesson text => lessonText lesson = some text ∧ text ≠ "")
      (lessons.filter (lessonAppliesToAgent agentName)) texts) :
    formatLessonsForInstruction lessons agentName =
    some (if texts = [] then "" else instructionOf texts) := by
  have hmapM : ∀ {matching : List Record} {texts : List String},
      List.Forall₂ (fun lesson text => lessonText lesson = some text ∧ text ≠ "") matching texts →
        matching.mapM lessonText = some texts ∧ texts.filter (· ≠ "") = texts := by
    intro matching texts hmatching
    induction hmatching with
    | nil => exact ⟨rfl, rfl⟩
    | cons hlesson _ ih =>
      refine ⟨by simp [List.mapM_cons, hlesson.1, ih.1], ?_⟩
      rw [List.filter_cons_of_pos (by simpa using hlesson.2), ih.2]
  unfold formatLessonsForInstruction
  generalize lessons.filter (lessonAppliesToAgent agentName) = matching at h
  obtain ⟨hall, hfull⟩ := hmapM h
  cases h with
  | nil => rfl
  | cons hlesson hrest =>
    dsimp only
    rw [hall, Option.map_some, hfull, if_neg (List.cons_ne_nil _ _)]

/-- **Lessons reach the instructions** only as they may. Whatever is submitted for any companies, a
    lesson that a session of a company loads was stored for it before, or was submitted by an
    administrator for it; what an administrator submits, unless it is overwritten, is loaded while
    there are no more than fifty active lessons; and the instructions of an agent have one entry for
    each loaded lesson that applies to it, and nothing else. -/
theorem lessons_learned (repr : PyValue → String) (db : Firestore) (requests : List LessonRequest)
    (tenantId companyId agentName : String) :
    let db' := lessonMachine.run db requests
    let lessons := loadGlobalLessons repr tenantId companyId db'
    (∀ lesson ∈ lessons,
      (∃ path, path.dropLast = lessonsCollection tenantId companyId ∧ db.get? path = some lesson) ∨
      ∃ r ∈ requests, r.writes = true ∧ r.draft.source = "admin" ∧ r.tenantId = tenantId ∧
        r.companyId = companyId ∧ lesson = r.lesson) ∧
    ((db'.entries.filter fun e => decide (e.1.dropLast = lessonsCollection tenantId companyId) &&
        (e.2.value "status").eqStr "active").length ≤ 50 →
      ∀ r, ((requests.filter (·.writes)).filter fun r' => r'.path = r.path).getLast? = some r →
        r.draft.source = "admin" → r.tenantId = tenantId → r.companyId = companyId →
        r.lesson ∈ lessons) ∧
    ∃ texts, List.Forall₂ (fun lesson text => lessonText lesson = some text ∧ text ≠ "")
        (lessons.filter (lessonAppliesToAgent agentName)) texts ∧
      formatLessonsForInstruction lessons agentName =
      some (if texts = [] then "" else instructionOf texts) := by
  intro db' lessons
  have hwritten : ∀ {path r}, ((requests.filter (·.writes)).filter fun r' =>
    r'.path = path).getLast? = some r →
      r ∈ requests ∧ r.writes = true ∧ r.path = path := by
    intro path r hlast
    obtain ⟨hr, hpath⟩ := List.mem_filter.1 (List.mem_of_getLast? hlast)
    exact ⟨(List.mem_filter.1 hr).1, (List.mem_filter.1 hr).2, of_decide_eq_true hpath⟩
  refine ⟨fun lesson hlesson => ?_, ?_, ?_⟩
  · obtain ⟨⟨path, hpath, hstored⟩, hactive, -⟩ := mem_loadGlobalLessons hlesson
    rw [lessons_run, Option.or_eq_some_iff] at hstored
    rcases hstored with hrequest | ⟨-, hbefore⟩
    · obtain ⟨r, hlast, rfl⟩ := Option.map_eq_some_iff.1 hrequest
      obtain ⟨hmem, hwrites, rfl⟩ := hwritten hlast
      rw [LessonRequest.path, DocPath.document, List.dropLast_concat] at hpath
      simp only [lessonsCollection, companyCollection, List.cons.injEq, true_and, and_true] at hpath
      exact .inr ⟨r, hmem, hwrites, (lesson_active _ _ _).1 hactive, hpath.1, hpath.2, rfl⟩
    · exact .inl ⟨path, hpath, hbefore⟩
  · rintro hfew r hlast hadmin rfl rfl
    have hstored : db'.get? r.path = some r.lesson := by
      rw [lessons_run, hlast]
      rfl
    have hwrites := (hwritten hlast).2.1
    rw [LessonRequest.writes, Bool.and_eq_true, decide_eq_true_iff] at hwrites
    refine List.mem_filter.2 ⟨?_,
      decide_eq_true (validateGlobalLesson_lesson repr hwrites.1.1 hwrites.1.2 _ _)⟩
    rw [activeLessons, List.take_of_length_le (by rwa [List.length_mergeSort])]
    refine List.mem_map.2 ⟨(r.path, r.lesson), List.mem_mergeSort.2 (List.mem_filter.2
      ⟨(Dict.get?_eq_some_iff db' _ _).1 hstored, ?_⟩), rfl⟩
    rw [Bool.and_eq_true, decide_eq_true_iff]
    exact ⟨List.dropLast_concat, (lesson_active _ _ _).2 hadmin⟩
  · have htexts : List.Forall₂ (fun lesson text => lessonText lesson = some text ∧ text ≠ "")
        (lessons.filter (lessonAppliesToAgent agentName))
        ((lessons.filter (lessonAppliesToAgent agentName)).map fun lesson =>
          (lessonText lesson).getD "") := by
      rw [List.forall₂_map_right_iff, List.forall₂_same]
      intro lesson hlesson
      obtain ⟨-, -, hvalid⟩ := mem_loadGlobalLessons (List.mem_of_mem_filter hlesson)
      obtain ⟨text, htext, hne⟩ := lessonText_of_valid hvalid
      rw [htext]
      exact ⟨rfl, hne⟩
    exact ⟨_, htexts, formatLessons_eq htexts⟩

end Ekaette
