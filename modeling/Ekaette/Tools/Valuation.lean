import Ekaette.Lib.Binary64
import Mathlib.Algebra.Order.BigOperators.Group.List

set_option autoImplicit false

/-! # Grading and valuing a device

A device gets the grade that was seen on its pictures, lowered by what the customer answers to the
questions for its brand, and from the grade its value. The grading reads a fixed set of answers,
those that were asked for and those that were not; an answer that was not asked for is read without
the inversion its question would have. -/

namespace Ekaette

/-! ## Grades -/

/-- `VALID_GRADES` and `GRADE_ORDER`, best first. -/
inductive Grade where
  | excellent
  | good
  | fair
  | poor
  deriving DecidableEq

namespace Grade

def name : Grade → String
  | excellent => "Excellent"
  | good => "Good"
  | fair => "Fair"
  | poor => "Poor"

def all : List Grade := [excellent, good, fair, poor]

/-- `GRADE_ORDER.index(grade)` -/
def index : Grade → ℕ
  | excellent => 0
  | good => 1
  | fair => 2
  | poor => 3

/-- `GRADE_ORDER[min(i, len(GRADE_ORDER) - 1)]` -/
def atIndex : ℕ → Grade
  | 0 => excellent
  | 1 => good
  | 2 => fair
  | _ => poor

/-- `_downgrade`. -/
def downgrade (grade : Grade) (steps : ℕ) : Grade := atIndex (grade.index + steps)

@[simp] theorem atIndex_index (grade : Grade) : atIndex grade.index = grade := by
  cases grade <;> rfl

theorem index_atIndex (i : ℕ) : (atIndex i).index = min i 3 := by
  match i with
  | 0 => rfl
  | 1 => rfl
  | 2 => rfl
  | i + 3 => exact (min_eq_right (Nat.le_add_left 3 i)).symm

theorem atIndex_eq_iff (i j : ℕ) : atIndex i = atIndex j ↔ min i 3 = min j 3 := by
  constructor
  · intro h
    rw [← index_atIndex, h, index_atIndex]
  · intro h
    rw [← atIndex_index (atIndex i), index_atIndex, h, ← index_atIndex, atIndex_index]

theorem downgrade_atIndex (i steps : ℕ) : (atIndex i).downgrade steps = atIndex (i + steps) := by
  rw [downgrade, index_atIndex, atIndex_eq_iff]
  omega

theorem name_injective : Function.Injective name := by
  intro a b h
  cases a <;> cases b <;> first | rfl | exact absurd h (by decide)

end Grade

/-! ## The questionnaire -/

inductive AnswerType where
  | boolean
  | number
  deriving DecidableEq

structure DeviceQuestion where
  id : String
  question : String
  type : AnswerType
  invert : Bool

/-- `UNIVERSAL_QUESTIONS` -/
def universalQuestions : List DeviceQuestion :=
  [⟨"does_not_power_on", "Does the device power on and hold a charge?", .boolean, true⟩,
    ⟨"water_damage", "Has the device ever been exposed to water damage?", .boolean, false⟩,
    ⟨"buttons_not_functional", "Are all physical buttons working?", .boolean, true⟩,
    ⟨"previous_repair", "Has the device been repaired before?", .boolean, false⟩]

/-- `BRAND_QUESTIONS` -/
def brandQuestions : List (String × List DeviceQuestion) :=
  [("apple",
      [⟨"battery_health_pct", "What's the battery health %? (Settings → Battery → Battery Health)",
        .number, false⟩,
        ⟨"account_locked", "Have you signed out of iCloud and disabled Find My?", .boolean, true⟩,
        ⟨"biometric_not_working", "Does Face ID / Touch ID work?", .boolean, true⟩]),
    ("samsung",
      [⟨"screen_burn_in", "Do you notice any ghost images or burn-in on the display?", .boolean,
        false⟩, ⟨"account_locked", "Have you removed your Samsung account?", .boolean, true⟩])]

variable (py : StrMethods)

/-- `get_device_questionnaire`. -/
def getDeviceQuestionnaire (deviceBrand : PyValue) : List DeviceQuestion :=
  let brandKey := match deviceBrand with
    | .str s => py.lower (PyStr.strip s)
    | _ => ""
  universalQuestions ++ (brandQuestions.lookup brandKey).getD []

/-- `_coerce_bool`. -/
def coerceBool : PyValue → Option Bool
  | .bool b => some b
  | .str s =>
    let word := py.lower (PyStr.strip s)
    if word ∈ ["yes", "true", "1", "y"] then some true
    else if word ∈ ["no", "false", "0", "n"] then some false
    else none
  | _ => none

/-- One answer, coerced and inverted as its question says; a key without a question is a boolean as
    it is. -/
def normalizedAnswer (questions : List DeviceQuestion) (key : String)
    (value : PyValue) : Option PyValue :=
  match questions.find? (fun q => q.id = key) with
  | some q =>
    match q.type with
    | .number => some value
    | .boolean => (coerceBool py value).map (fun b => .bool (if q.invert then !b else b))
  | none => (coerceBool py value).map .bool

/-- `normalize_questionnaire_answers`. -/
def normalizeQuestionnaireAnswers (rawAnswers : Record)
    (questions : List DeviceQuestion) : Record :=
  rawAnswers.entries.foldl (fun result e =>
    match normalizedAnswer py questions e.1 e.2 with
    | some v => result.set e.1 v
    | none => result) .empty

/-! ## Adjusting the grade -/

/-- `_INTEGER_RE`: blanks, an optional minus, digits, blanks. -/
def isIntegerText (s : String) : Bool :=
  let digits := match PyStr.stripChars s.toList with
    | '-' :: ds => ds
    | ds => ds
  !digits.isEmpty && digits.all (fun c => (py.decimal c).isSome)

/-- A percentage. -/
def percentage? (n : ℤ) : Option ℤ := if 0 ≤ n ∧ n ≤ 100 then some n else none

/-- `_parse_battery`. -/
def parseBattery : PyValue → Option ℤ
  | .int n => percentage? n
  | .str s => if isIntegerText py s then (PyInt.parse py s).bind percentage? else none
  | _ => none

/-- Answers that make a device poor. -/
def forcePoorRules : List (String × String) :=
  [("does_not_power_on", "Device does not power on"), ("water_damage", "Water damage detected"),
    ("account_locked", "Account locked")]

/-- Answers that cost a step each. -/
def downgradeRules : List (String × String) :=
  [("previous_repair", "Previous repair"), ("biometric_not_working", "Biometric not working"),
    ("screen_burn_in", "Screen burn-in"), ("buttons_not_functional", "Buttons not functional")]

structure GradeAdjustment where
  finalGrade : Grade
  originalVisionGrade : Grade
  adjustments : List String

/-- `answers.get(key) is True`. -/
def isTrue (answers : Record) (key : String) : Bool :=
  match answers.get? key with
  | some (.bool true) => true
  | _ => false

/-- The steps that the battery costs, and what is noted about it. -/
def batteryAdjustment : Option ℤ → ℕ × List String
  | some pct =>
    if pct < 60 then (2, ["Battery at " ++ toString pct ++ "% → -2 steps"])
    else if pct < 80 then (1, ["Battery at " ++ toString pct ++ "% → -1 step"])
    else (0, [])
  | none => (0, [])

/-- `adjust_grade_from_questionnaire`. -/
def adjustGradeFromQuestionnaire (visionGrade : Grade) (answers : Record) :
    GradeAdjustment :=
  match forcePoorRules.find? (fun rule => isTrue answers rule.1) with
  | some rule => ⟨.poor, visionGrade, [rule.2 ++ " → forced Poor"]⟩
  | none =>
    let battery := batteryAdjustment (parseBattery py (answers.value "battery_health_pct"))
    downgradeRules.foldl (fun r rule =>
      if isTrue answers rule.1 then
        { r with
          finalGrade := r.finalGrade.downgrade 1
          adjustments := r.adjustments ++ [rule.2 ++ " → -1 step"] }
      else r) ⟨visionGrade.downgrade battery.1, visionGrade, battery.2⟩

/-! ## The value -/

/-- `TRADE_IN_MULTIPLIERS` -/
def tradeInMultiplier : Grade → PyFloat
  | .excellent => Binary64.round (68 / 100)
  | .good => Binary64.round (58 / 100)
  | .fair => Binary64.round (45 / 100)
  | .poor => Binary64.round (29 / 100)

/-- The prices of a device by grade. -/
def gradePrices (excellent good fair poor : ℤ) : PyValue :=
  .dict [("Excellent", .int excellent), ("Good", .int good), ("Fair", .int fair),
    ("Poor", .int poor)]

/-- `DEFAULT_PRICING` -/
def defaultPricing : List (String × PyValue) :=
  [("iPhone 15 Pro Max", gradePrices 650000 550000 430000 280000),
    ("iPhone 15 Pro", gradePrices 520000 440000 340000 220000),
    ("iPhone 15", gradePrices 380000 320000 250000 160000),
    ("iPhone 14 Pro Max", gradePrices 420000 350000 270000 175000),
    ("iPhone 14 Pro", gradePrices 350000 290000 225000 145000),
    ("iPhone 14", gradePrices 280000 230000 180000 115000),
    ("iPhone 13", gradePrices 200000 165000 125000 80000),
    ("Samsung S24 Ultra", gradePrices 550000 460000 360000 235000),
    ("Samsung S24", gradePrices 320000 270000 210000 140000),
    ("Samsung S23", gradePrices 230000 190000 150000 95000),
    ("Google Pixel 8 Pro", gradePrices 280000 230000 180000 115000),
    ("Google Pixel 8", gradePrices 200000 165000 130000 85000)]

/-- What leaves the tool as an exception. -/
inductive ValuationError where
  | loads
  | unhashable
  | overflow
  | tooManyDigits
  deriving DecidableEq

/-- Digits in groups of three, from the right. -/
def groupThousands (digits : List Char) : List Char :=
  ((digits.reverse.zipIdx.flatMap (fun d => if d.2 % 3 = 0 ∧
    d.2 ≠ 0 then [',', d.1] else [d.1]))).reverse

/-- The naira format of an amount; at most 4300 digits are written. -/
def formatNaira (offer : ℤ) : Except ValuationError String :=
  let digits := (toString offer.natAbs).toList
  if 4300 < digits.length then .error .tooManyDigits
  else .ok ("₦" ++ String.ofList ((if offer < 0 then ['-'] else []) ++ groupThousands digits))

example : formatNaira (-1234567) = .ok "₦-1,234,567" := by decide +kernel

/-- `int(raw_offer)` in a `try`; only an infinity raises. -/
def tableOffer (rawOffer : PyValue) : Except ValuationError ℤ :=
  match rawOffer.toInt py with
  | .ok n => .ok n
  | .error .overflowError => .error .overflow
  | .error _ => .ok 0

/-- `round(retail_price * multiplier)`. -/
def retailOffer (retailPrice : ℤ) (grade : Grade) : Except ValuationError ℤ :=
  match (Binary64.ofInt retailPrice).map (fun q => Binary64.mul (.fin q)
      (tradeInMultiplier grade)) with
  | some (.fin q) => .ok (Binary64.roundEven q)
  | _ => .error .overflow

structure TradeInValue where
  offerAmount : ℤ
  currency : String
  formatted : String
  /-- the retail price, where the value is a percentage of it -/
  retailPrice : Option ℤ
  error : Option String

/-- The prices of the device in the table; a name that has no hash cannot be looked up. -/
def devicePrices (deviceName : PyValue) (table : List (String × PyValue)) :
    Except ValuationError (Option (List (String × PyValue))) :=
  match deviceName with
  | .str s => .ok (if s = "Unknown" then none else (table.lookup s).bind (·.dict?))
  | .list _ => .error .unhashable
  | .dict _ => .error .unhashable
  | _ => .ok none

/-- `calculate_trade_in_value`. -/
def calculateTradeInValue (deviceName : PyValue) (grade : Grade)
    (pricingTable : Option (List (String × PyValue))) (retailPrice : PyValue) :
    Except ValuationError TradeInValue := do
  match ← devicePrices deviceName (pricingTable.getD defaultPricing) with
  | some prices =>
    let offer ← tableOffer py (PyValue.lookupOr prices grade.name (.int 0))
    return ⟨offer, "NGN", ← formatNaira offer, none, none⟩
  | none =>
    match retailPrice.int?.filter (fun n => 0 < n) with
    | some retail =>
      let offer ← retailOffer retail grade
      return ⟨offer, "NGN", ← formatNaira offer, some retail, none⟩
    | none => return ⟨0, "NGN", "₦0", none,
      some ("Device '" ++ deviceName.toStr py ++ "' not found in pricing table")⟩

/-! ## The tool -/

/-- How `json.loads` fails: with a `JSONDecodeError`, which prints so, or otherwise (too many
    digits, too deep). -/
inductive JsonFailure where
  | decode (text : String)
  | other

structure ValuationLib where
  py : StrMethods
  loads : String → Except JsonFailure PyValue

structure DeviceGrade where
  deviceName : PyValue
  grade : Grade
  summary : String

/-- What the details say about one aspect. -/
def detailPart (details : List (String × PyValue)) (key : String) :
    Option String :=
  let val := PyValue.lookupD details key
  if val.truthy then
    match val with
    | .dict es =>
      let desc := PyValue.lookupOr es "description" (.str "")
      if desc.truthy then some (key ++ ": " ++ desc.toStr py) else none
    | v => some (key ++ ": " ++ v.toStr py)
  else none

/-- `grade_device`. -/
def gradeDevice (analysis : List (String × PyValue)) : DeviceGrade :=
  let condition := PyValue.lookupOr analysis "condition" (.str "Unknown")
  let details := ((PyValue.lookupD analysis "details").dict?).getD []
  let grade := (Grade.all.find? (fun g => condition.eqStr g.name)).getD .fair
  let parts := ["screen", "body", "battery", "functionality"].filterMap (detailPart py details)
  ⟨PyValue.lookupOr analysis "device_name" (.str "Unknown"), grade,
    if parts = [] then "Graded as " ++ grade.name else "; ".intercalate parts⟩

structure ValuationResult where
  deviceName : PyValue
  grade : String
  offerAmount : ℤ
  currency : String
  formatted : String
  summary : Option String
  adjustment : Option GradeAdjustment
  retailPrice : Option ℤ
  error : Option String

/-- A result without a value. -/
def valuationFailure (deviceName grade error : String) : ValuationResult :=
  ⟨.str deviceName, grade, 0, "NGN", "₦0", none, none, none, some error⟩

/-- What an argument is read as: something usable, or a result that is returned at once. -/
abbrev ReadArgument (α : Type) : Type := Except ValuationError (ValuationResult ⊕ α)

variable (lib : ValuationLib)

/-- The analysis, an object or its text. -/
def readAnalysis : PyValue → ReadArgument (List (String × PyValue))
  | .dict es => .ok (.inr es)
  | .str text =>
    match lib.loads text with
    | .ok (.dict es) => .ok (.inr es)
    | .ok _ =>
      .ok (.inl (valuationFailure "Unknown" "Fair" "analysis must decode to a JSON object"))
    | .error (.decode exc) =>
      .ok (.inl (valuationFailure "Unknown" "Fair" ("Invalid analysis JSON: " ++ exc)))
    | .error .other => .error .loads
  | _ => .ok (.inl (valuationFailure "Unknown" "Fair" "analysis must be a JSON string"))

variable (analysis : List (String × PyValue))

/-- The pricing table, an object, its text, or nothing. -/
def readPricingTable :
    PyValue → ReadArgument (Option (List (String × PyValue)))
  | .dict es => .ok (.inr (some es))
  | .str text =>
    if PyStr.strip text = "" then .ok (.inr none)
    else match lib.loads text with
      | .ok v => .ok (.inr v.dict?)
      | .error (.decode exc) =>
        .ok (.inl (valuationFailure
          ((PyValue.lookupOr analysis "device_name" (.str "Unknown")).toStr lib.py)
          ((PyValue.lookupOr analysis "condition" (.str "Fair")).toStr lib.py)
          ("Invalid pricing_table JSON: " ++ exc)))
      | .error .other => .error .loads
  | _ => .ok (.inr none)

/-- The answers, if they are the text of an object. -/
def readAnswers : PyValue → Except ValuationError (Option Record)
  | .str text =>
    if PyStr.strip text = "" then .ok none
    else match lib.loads text with
      | .ok v => .ok (v.dict?.map Dict.ofList)
      | .error (.decode _) => .ok none
      | .error .other => .error .loads
  | _ => .ok none

variable (answers : Record)

/-- The adjustment by the answers to the questions for the brand of the analysis. -/
def adjustmentFor :
    GradeAdjustment :=
  let questions := getDeviceQuestionnaire py (PyValue.lookupOr analysis "brand" (.str "Unknown"))
  adjustGradeFromQuestionnaire py (gradeDevice py analysis).grade
    (normalizeQuestionnaireAnswers py answers questions)

variable (table : Option (List (String × PyValue)))

/-- The value of the device as graded. -/
def valueDevice (retailPrice : PyValue) (adjustment : Option GradeAdjustment) :
    Except ValuationError ValuationResult := do
  let graded := gradeDevice py analysis
  let grade := (adjustment.map (·.finalGrade)).getD graded.grade
  let value ← calculateTradeInValue py graded.deviceName grade table retailPrice
  return ⟨graded.deviceName, grade.name, value.offerAmount, value.currency, value.formatted,
    some graded.summary, adjustment, value.retailPrice, value.error⟩

/-- `grade_and_value_tool`. -/
def gradeAndValueTool (analysis pricingTable questionnaireAnswers retailPrice :
    PyValue) : Except ValuationError ValuationResult := do
  match ← readAnalysis lib analysis with
  | .inl result => return result
  | .inr es =>
    match ← readPricingTable lib es pricingTable with
    | .inl result => return result
    | .inr table =>
      let answers ← readAnswers lib questionnaireAnswers
      valueDevice lib.py es table retailPrice (answers.map (adjustmentFor lib.py es))

/-! ## What the grade depends on -/

/-- The keys that the grading reads. -/
def gradedKeys : List String :=
  forcePoorRules.map Prod.fst ++ "battery_health_pct" :: downgradeRules.map Prod.fst

/-- The steps that one key costs; three make every device poor. -/
def keyPenalty (key : String) : ℕ :=
  if key = "battery_health_pct" then (batteryAdjustment (parseBattery py (answers.value key))).1
  else if isTrue answers key then (if key ∈ forcePoorRules.map Prod.fst then 3 else 1)
  else 0

/-- The steps that some of the keys cost together. -/
def penalty (keys : List String) : ℕ :=
  (keys.map (keyPenalty py answers)).sum

theorem finalGrade_foldl (rules : List (String × String)) {r : GradeAdjustment}
    {i : ℕ} (h : r.finalGrade = Grade.atIndex i) :
    (rules.foldl (fun r rule =>
      if isTrue answers rule.1 then
        { r with
          finalGrade := r.finalGrade.downgrade 1
          adjustments := r.adjustments ++ [rule.2 ++ " → -1 step"] }
      else r) r).finalGrade =
        Grade.atIndex
        (i + (rules.map (fun rule => if isTrue answers rule.1 then 1 else 0)).sum) := by
  induction rules generalizing r i with
  | nil => exact h
  | cons rule rules ih =>
    rw [List.foldl_cons, List.map_cons, List.sum_cons, ← add_assoc]
    refine ih ?_
    split_ifs with htrue
    · show r.finalGrade.downgrade 1 = _
      rw [h, Grade.downgrade_atIndex]
    · exact h

/-- **The adjusted grade**: the steps of all keys count, down to poor. -/
theorem finalGrade_eq (visionGrade : Grade) (answers : Record) :
    (adjustGradeFromQuestionnaire py visionGrade answers).finalGrade =
      Grade.atIndex (visionGrade.index + penalty py answers gradedKeys) := by
  rw [adjustGradeFromQuestionnaire]
  cases hforced : forcePoorRules.find? (fun rule => isTrue answers rule.1) with
  | some rule =>
    have htrue : isTrue answers rule.1 = true := by simpa using List.find?_some hforced
    have hmem : rule.1 ∈ forcePoorRules.map Prod.fst :=
      List.mem_map_of_mem (List.mem_of_find?_eq_some hforced)
    have hbattery : rule.1 ≠ "battery_health_pct" := by
      intro h
      rw [h] at hmem
      exact absurd hmem (by decide)
    have hkey : keyPenalty py answers rule.1 = 3 := by
      rw [keyPenalty, if_neg hbattery, if_pos htrue, if_pos hmem]
    have hle : 3 ≤ penalty py answers gradedKeys := by
      rw [← hkey]
      exact List.le_sum_of_mem (List.mem_map_of_mem (List.mem_append_left _ hmem))
    show Grade.poor = _
    rw [show Grade.poor = Grade.atIndex 3 from rfl, Grade.atIndex_eq_iff]
    omega
  | none =>
    have hfree : ∀ rule ∈ forcePoorRules, isTrue answers rule.1 = false := by
      intro rule hrule
      simpa using List.find?_eq_none.1 hforced rule hrule
    have hforcedSum : ((forcePoorRules.map Prod.fst).map (keyPenalty py answers)).sum = 0 := by
      refine List.sum_eq_zero (fun x hx => ?_)
      obtain ⟨key, hkey, rfl⟩ := List.mem_map.1 hx
      obtain ⟨rule, hrule, rfl⟩ := List.mem_map.1 hkey
      have hbattery : rule.1 ≠ "battery_health_pct" := by
        intro h
        rw [h] at hkey
        exact absurd hkey (by decide)
      rw [keyPenalty, if_neg hbattery, if_neg (by simp [hfree rule hrule])]
    have hrules : (downgradeRules.map Prod.fst).map (keyPenalty py answers) =
        downgradeRules.map (fun rule => if isTrue answers rule.1 then 1 else 0) := by
      rw [List.map_map]
      refine List.map_congr_left (fun rule hrule => ?_)
      have hkey : rule.1 ≠ "battery_health_pct" ∧ rule.1 ∉ forcePoorRules.map Prod.fst := by
        revert rule
        decide
      rw [Function.comp_apply, keyPenalty, if_neg hkey.1, if_neg hkey.2]
    refine (finalGrade_foldl answers downgradeRules rfl).trans ?_
    rw [penalty, gradedKeys, List.map_append, List.sum_append, hforcedSum, List.map_cons,
      List.sum_cons, hrules, zero_add, ← add_assoc]
    rfl

theorem get?_normalizeQuestionnaireAnswers (rawAnswers : Record)
    (questions : List DeviceQuestion) (key : String) :
    (normalizeQuestionnaireAnswers py rawAnswers questions).get? key =
      (rawAnswers.get? key).bind (normalizedAnswer py questions key) := by
  -- what is found in the rest of the answers comes before what has been collected
  have hfold : ∀ (es : List (String × PyValue)) (acc : Record), (es.map Prod.fst).Nodup →
      (es.foldl (fun (result : Record) e =>
        match normalizedAnswer py questions e.1 e.2 with
        | some v => result.set e.1 v
        | none => result) acc).get? key =
          ((es.lookup key).bind (normalizedAnswer py questions key)).or (acc.get? key) := by
    intro es
    induction es with
    | nil => exact fun acc _ => rfl
    | cons e es ih =>
      obtain ⟨key', v⟩ := e
      intro acc hes
      rw [List.map_cons, List.nodup_cons] at hes
      rw [List.foldl_cons, ih _ hes.2]
      by_cases hkey : key = key'
      · subst hkey
        have hnone : es.lookup key = none := by
          rw [List.lookup_eq_none_iff]
          intro e he
          rw [bne_iff_ne]
          rintro rfl
          exact hes.1 (List.mem_map.2 ⟨e, he, rfl⟩)
        rw [hnone, List.lookup_cons_self, Option.bind_some, Option.bind_none, Option.none_or]
        cases hanswer : normalizedAnswer py questions key v with
        | none => rw [Option.none_or]
        | some w => exact Dict.get?_set_self _ _ _
      · rw [List.lookup_cons, beq_eq_false_iff_ne.2 hkey]
        refine congrArg _ ?_
        dsimp only
        split
        · rw [Dict.get?_set_of_ne _ _ hkey]
        · rfl
  have hall := hfold rawAnswers.entries .empty rawAnswers.nodup
  rwa [Dict.get?_empty, Option.or_none] at hall

/-! ## Asked and unasked keys -/

/-- The grading reads this key, and a question asks for it. -/
def askedKeys (questions : List DeviceQuestion) : List String :=
  gradedKeys.filter (fun key => questions.any (fun q => q.id = key))

/-- The grading reads this key, and no question asks for it. -/
def unaskedKeys (questions : List DeviceQuestion) : List String :=
  gradedKeys.filter (fun key => !questions.any (fun q => q.id = key))

theorem penalty_split (p : String → Bool) (keys : List String) : penalty py answers keys =
      penalty py answers (keys.filter p) + penalty py answers
      (keys.filter (fun key => !p key)) := by
  induction keys with
  | nil => rfl
  | cons key keys ih =>
    rw [penalty, List.map_cons, List.sum_cons, ← penalty, ih]
    cases hkey : p key with
    | true =>
      rw [List.filter_cons_of_pos hkey, List.filter_cons_of_neg (by simp [hkey]), penalty, penalty,
        penalty, List.map_cons, List.sum_cons]
      omega
    | false =>
      rw [List.filter_cons_of_neg (by simp [hkey]), List.filter_cons_of_pos (by simp [hkey]),
        penalty, penalty, penalty, List.map_cons, List.sum_cons]
      omega

theorem penalty_congr {answers answers' : Record} {keys : List String}
    (h : ∀ key ∈ keys, answers.get? key = answers'.get? key) :
    penalty py answers keys = penalty py answers' keys := by
  rw [penalty, penalty]
  refine congrArg List.sum (List.map_congr_left (fun key hkey => ?_))
  have hkey' := h key hkey
  rw [keyPenalty, keyPenalty, isTrue, isTrue, Record.value, Record.value, hkey']

/-! ## Two sets of answers -/

/-- The questions for the brand of an analysis. -/
def analysedQuestions :
    List DeviceQuestion :=
  getDeviceQuestionnaire py (PyValue.lookupOr analysis "brand" (.str "Unknown"))

/-- The place in the order of grades that the pictures and the asked keys give. -/
def askedIndex : ℕ :=
  (gradeDevice py analysis).grade.index +
    penalty py (normalizeQuestionnaireAnswers py answers (analysedQuestions py analysis))
      (askedKeys (analysedQuestions py analysis))

/-- The steps that keys cost which were not asked for. -/
def unaskedPenalty : ℕ :=
  penalty py (normalizeQuestionnaireAnswers py answers (analysedQuestions py analysis))
    (unaskedKeys (analysedQuestions py analysis))

theorem finalGrade_adjustmentFor : (adjustmentFor py analysis answers).finalGrade =
      Grade.atIndex (askedIndex py analysis answers + unaskedPenalty py analysis answers) := by
  rw [adjustmentFor, finalGrade_eq,
    penalty_split py _ (fun key => (analysedQuestions py analysis).any (fun q => q.id = key)),
    ← add_assoc]
  rfl

theorem askedIndex_congr {answers answers' : Record} (h : ∀ q ∈ analysedQuestions py analysis,
      answers.get? q.id = answers'.get? q.id) :
    askedIndex py analysis answers = askedIndex py analysis answers' := by
  rw [askedIndex, askedIndex]
  refine congrArg _ (penalty_congr py (fun key hkey => ?_))
  obtain ⟨q, hq, hid⟩ := List.any_eq_true.1 (List.mem_filter.1 hkey).2
  rw [get?_normalizeQuestionnaireAnswers, get?_normalizeQuestionnaireAnswers,
    ← of_decide_eq_true hid, h q hq]

/-- The grade and the offer of a result. -/
def gradeAndOffer (result : Except ValuationError ValuationResult) :
    Except ValuationError (String × ℤ) :=
  result.map (fun r => (r.grade, r.offerAmount))

/-- The steps of unasked keys end at the same grade, or the value cannot be computed for either
    grade. -/
def UnaskedAlike (retailPrice : PyValue) (answers answers' : Record) : Prop :=
  min (askedIndex py analysis answers + unaskedPenalty py analysis answers) 3 =
      min (askedIndex py analysis answers + unaskedPenalty py analysis answers') 3 ∨
    ∃ e, ∀ steps ∈ [unaskedPenalty py analysis answers, unaskedPenalty py analysis answers'],
      calculateTradeInValue py (gradeDevice py analysis).deviceName
        (Grade.atIndex (askedIndex py analysis answers + steps)) table retailPrice = .error e

theorem gradeAndOffer_valueDevice (retailPrice : PyValue) (adjustment : GradeAdjustment) :
    gradeAndOffer (valueDevice py analysis table retailPrice (some adjustment)) =
      (calculateTradeInValue py (gradeDevice py analysis).deviceName adjustment.finalGrade table
        retailPrice).map (fun v => (adjustment.finalGrade.name, v.offerAmount)) := by
  rw [valueDevice]
  show gradeAndOffer (Except.bind (calculateTradeInValue py (gradeDevice py analysis).deviceName
    adjustment.finalGrade table retailPrice) _) = _
  cases calculateTradeInValue py (gradeDevice py analysis).deviceName adjustment.finalGrade table
      retailPrice with
  | error e => rfl
  | ok v => rfl

/-- Two adjustments give one grade and offer: the grades are the same, or both values fail alike. -/
theorem gradeAndOffer_valueDevice_eq_iff (retailPrice : PyValue)
    (adjustment adjustment' : GradeAdjustment) :
    gradeAndOffer (valueDevice py analysis table retailPrice (some adjustment)) =
        gradeAndOffer (valueDevice py analysis table retailPrice (some adjustment')) ↔
      adjustment.finalGrade = adjustment'.finalGrade ∨
        ∃ e, ∀ grade ∈ [adjustment.finalGrade, adjustment'.finalGrade],
          calculateTradeInValue py (gradeDevice py analysis).deviceName grade table retailPrice =
          .error e := by
  rw [gradeAndOffer_valueDevice, gradeAndOffer_valueDevice]
  by_cases hgrade : adjustment.finalGrade = adjustment'.finalGrade
  · rw [hgrade]
    exact iff_of_true rfl (.inl rfl)
  · rw [or_iff_right hgrade]
    cases hvalue : calculateTradeInValue py (gradeDevice py analysis).deviceName
        adjustment.finalGrade table retailPrice with
    | error e =>
      cases hvalue' : calculateTradeInValue py (gradeDevice py analysis).deviceName
          adjustment'.finalGrade table retailPrice with
      | error e' => simp [Except.map, hvalue, hvalue', eq_comm]
      | ok v' => simp [Except.map, hvalue, hvalue']
    | ok v =>
      cases hvalue' : calculateTradeInValue py (gradeDevice py analysis).deviceName
          adjustment'.finalGrade table retailPrice with
      | error e' => simp [Except.map, hvalue]
      | ok v' =>
        have hname : adjustment.finalGrade.name ≠ adjustment'.finalGrade.name :=
          fun h => hgrade (Grade.name_injective h)
        simp [Except.map, hvalue, hname]

theorem readAnswers_dict {lib : ValuationLib} {text : String} {es : List (String × PyValue)}
    (htext : PyStr.strip text ≠ "") (h : lib.loads text = .ok (.dict es)) :
    readAnswers lib (.str text) = .ok (some (Dict.ofList es)) := by
  simp only [readAnswers, if_neg htext, h, PyValue.dict?, Option.map_some]

/-- **Only asked questions count** exactly if the keys that were not asked for end at the same
    grade. -/
theorem onlyAskedCount_iff (analysis pricingTable retailPrice : PyValue)
    {text text' : String} {answers answers' : List (String × PyValue)}
    (htext : PyStr.strip text ≠ "") (htext' : PyStr.strip text' ≠ "")
    (hloads : lib.loads text = .ok (.dict answers))
    (hloads' : lib.loads text' = .ok (.dict answers'))
    (hagree : ∀ es, readAnalysis lib analysis = .ok (.inr es) → ∀ q ∈ analysedQuestions lib.py es,
      (Dict.ofList answers).get? q.id = (Dict.ofList answers').get? q.id) :
    gradeAndOffer (gradeAndValueTool lib analysis pricingTable (.str text) retailPrice) =
        gradeAndOffer (gradeAndValueTool lib analysis pricingTable (.str text') retailPrice) ↔
      ∀ es table, readAnalysis lib analysis = .ok (.inr es) → readPricingTable lib es pricingTable =
      .ok (.inr table) →
        UnaskedAlike lib.py es table retailPrice (Dict.ofList answers) (Dict.ofList answers') := by
  rw [gradeAndValueTool, gradeAndValueTool, readAnswers_dict htext hloads,
    readAnswers_dict htext' hloads']
  cases hanalysis : readAnalysis lib analysis with
  | error e => exact iff_of_true rfl (fun es table h => by cases h)
  | ok read =>
    cases read with
    | inl result => exact iff_of_true rfl (fun es table h => by cases h)
    | inr es =>
      cases htable : readPricingTable lib es pricingTable with
      | error e =>
        refine iff_of_true ?_ (fun es' table h h' => ?_)
        · simp only [bind, Except.bind, htable]
        · cases h
          rw [htable] at h'
          cases h'
      | ok readTable =>
        cases readTable with
        | inl result =>
          refine iff_of_true ?_ (fun es' table h h' => ?_)
          · simp only [bind, Except.bind, htable]
          · cases h
            rw [htable] at h'
            cases h'
        | inr table =>
          have hindex := askedIndex_congr lib.py es (hagree es hanalysis)
          simp only [bind, Except.bind, htable, Option.map_some]
          rw [gradeAndOffer_valueDevice_eq_iff, finalGrade_adjustmentFor, finalGrade_adjustmentFor,
            ← hindex, Grade.atIndex_eq_iff]
          constructor
          · intro h es' table' hes htable'
            cases hes
            rw [htable] at htable'
            cases htable'
            simpa [UnaskedAlike] using h
          · intro h
            simpa [UnaskedAlike] using h es table rfl htable

/-! ### A key that is not asked for -/

/-- A phone of a brand without questions of its own. -/
def pixelAnalysis : PyValue :=
  .dict [("device_name", .str "Google Pixel 8"), ("condition", .str "Excellent"),
    ("brand", .str "Google")]

/-- `json.loads` on the texts below. -/
def pixelLib : ValuationLib where
  py := .ascii
  loads text :=
    if text = "\x7b\x7d" then .ok (.dict [])
    else if text = "\x7b\"color\": \"yes\"\x7d" then .ok (.dict [("color", .str "yes")])
    else if text = "\x7b\"account_locked\": \"yes\"\x7d" then .ok
      (.dict [("account_locked", .str "yes")])
    else .error (.decode "Expecting value: line 1 column 1 (char 0)")

/-- A key that the grading does not read changes nothing. -/
theorem onlyAskedCount_iff_color :
    gradeAndOffer (gradeAndValueTool pixelLib pixelAnalysis .none (.str "\x7b\x7d") .none) =
      gradeAndOffer (gradeAndValueTool pixelLib pixelAnalysis .none
        (.str "\x7b\"color\": \"yes\"\x7d") .none) := by
  have hasked : ∀ es, readAnalysis pixelLib pixelAnalysis = .ok (.inr es) →
    ∀ q ∈ analysedQuestions pixelLib.py es,
      (Dict.ofList ([] : List (String × PyValue))).get? q.id =
      (Dict.ofList [("color", PyValue.str "yes")]).get? q.id := by
    rintro es ⟨⟩ q hq
    have hid : q.id ≠ "color" := by
      revert q
      decide +kernel
    show none = (Dict.set Dict.empty "color" (PyValue.str "yes")).get? q.id
    rw [Dict.get?_set_of_ne _ _ hid]
    rfl
  refine (onlyAskedCount_iff pixelLib pixelAnalysis .none .none (by decide +kernel)
    (by decide +kernel) rfl rfl hasked).2 ?_
  rintro es table ⟨⟩ ⟨⟩
  exact .inl (by decide +kernel)

/-- The Google questionnaire does not ask about the account; a "yes" makes the phone poor all the
    same. -/
theorem unaskedAccount_counts :
    (∀ q ∈ getDeviceQuestionnaire .ascii (.str "Google"), q.id ≠ "account_locked") ∧
      gradeAndOffer (gradeAndValueTool pixelLib pixelAnalysis .none (.str "\x7b\x7d") .none) =
        .ok ("Excellent", 200000) ∧
      gradeAndOffer (gradeAndValueTool pixelLib pixelAnalysis .none
        (.str "\x7b\"account_locked\": \"yes\"\x7d") .none) = .ok ("Poor", 85000) :=
  ⟨by decide +kernel, by decide +kernel, by decide +kernel⟩

end Ekaette
