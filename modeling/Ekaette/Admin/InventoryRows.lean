import Ekaette.Configs.RegistrySchema
import Ekaette.Lib.FloatLiteral

set_option autoImplicit false

/-! # Inventory rows

The rows of an inventory sheet become products or error messages. Header names are folded and looked
up under aliases, and the cells are read with the number syntax of `float()`, which knows `nan` and
`inf`. -/

namespace Ekaette

/-! ## Reading a sheet -/

/-- The row `csv.DictReader` makes of a record: a later column replaces an earlier one of the same
    name, columns without a cell hold `None`, and cells without a column are dropped. -/
def csvRow (fieldnames record : List String) : Record :=
  (fieldnames.drop record.length).foldl (fun row key => row.set key .none)
    ((fieldnames.zip record).foldl (fun row e => row.set e.1 (.str e.2)) .empty)

/-- `any(str(value or "").strip() for value in row.values())`, where the values are strings and
    `None`. -/
def hasText (row : Record) : Bool := row.entries.any (fun e => PyValue.coerceStr e.2 ≠ "")

/-- `_parse_csv_rows`, of the header and the records that `csv.reader` finds in the text. -/
def parseCsvRows (fieldnames : List String) (records : List (List String)) : List Record :=
  if fieldnames = [] then []
  else ((records.filter (· ≠ [])).map (csvRow fieldnames)).filter hasText

/-! ## Reading a row -/

/-- The characters of the pattern class `[a-z0-9]`. -/
def isKeyChar (c : Char) : Bool := c.isLower || c.isDigit

/-- `re.sub(r"[^a-z0-9]+", sep, text)`; the flag says that the character before was replaced. -/
def replaceRuns (sep : Char) : Bool → List Char → List Char
  | _, [] => []
  | inRun, c :: cs =>
    if isKeyChar c then c :: replaceRuns sep false cs
    else if inRun then replaceRuns sep true cs
    else sep :: replaceRuns sep true cs

variable (py : StrMethods)

/-- Fold a text to its letters and digits, with one separator for what stood between them. -/
def foldText (sep : Char) (rawValue : PyValue) : String :=
  let text := py.lower (PyStr.strip ((rawValue.orElse (.str "")).toStr py))
  String.ofList (((replaceRuns sep false text.toList).dropWhile (· = sep)).rdropWhile (· = sep))

/-- `_header_key` -/
def headerKey (rawValue : PyValue) : String := foldText py '_' rawValue

/-- `_slugify` -/
def slugify (rawValue : PyValue) : String := foldText py '-' rawValue

/-- `_INVENTORY_HEADER_ALIASES` -/
def inventoryHeaderAliases : String → List String
  | "id" => ["id", "sku", "product_id", "productid", "item_id", "itemid"]
  | "name" => ["name", "product_name", "productname", "item_name", "itemname", "title"]
  | "category" => ["category", "product_category", "productcategory", "department"]
  | "price" => ["price", "unit_price", "unitprice", "amount"]
  | "currency" => ["currency", "currency_code", "currencycode"]
  | "in_stock" =>
    ["in_stock", "instock", "available", "availability", "stock_status", "stockstatus"]
  | "quantity" => ["quantity", "qty", "stock", "inventory", "on_hand", "onhand"]
  | "description" => ["description", "details", "summary"]
  | "brand" => ["brand", "maker"]
  | "warehouse" => ["warehouse", "location", "warehouse_location", "warehouselocation"]
  | _ => []

/-- The row with folded header names; of two columns with one name the later stays. -/
def normalizedRow (row : Record) : Record :=
  row.entries.foldl
    (fun acc e => if headerKey py (.str e.1) = "" then acc else acc.set (headerKey py (.str e.1))
      e.2) .empty

/-- `_first_non_empty` -/
def firstNonEmptyCell (row : Record) : List String → PyValue
  | [] => .none
  | key :: aliases =>
    match row.value key with
    | .str s => if PyStr.strip s = "" then firstNonEmptyCell row aliases else .str (PyStr.strip s)
    | .none => firstNonEmptyCell row aliases
    | value => value

/-- What a row has under the aliases of a field. -/
def inventoryCell (row : Record) (field : String) : PyValue :=
  firstNonEmptyCell (normalizedRow py row) (inventoryHeaderAliases field)

/-- `_parse_float` -/
def parseFloat : PyValue → Except FloatError (Option PyFloat)
  | .str s =>
    if PyStr.strip s = "" then .ok none
    else .ok (PyFloat.parseText py (String.ofList ((PyStr.strip s).toList.filter (· ≠ ','))))
  | .int n => (PyValue.toFloat (.int n)).map some
  | .bool b => (PyValue.toFloat (.bool b)).map some
  | .float x => .ok (some x)
  | _ => .ok none

/-- `_parse_int` -/
def parseInt (rawValue : PyValue) : Except FloatError (Option ℤ) := do
  match ← parseFloat py rawValue with
  | none => return none
  | some parsed => return some (← (PyValue.float parsed).toInt py)

/-- `_TRUTHY` -/
def truthyWords : List String := ["1", "true", "yes", "y", "on", "available", "in_stock", "instock"]

/-- `_FALSY` -/
def falsyWords : List String :=
  ["0", "false", "no", "n", "off", "out_of_stock", "outofstock", "sold_out"]

/-- `_parse_bool` -/
def parseBool : PyValue → Option Bool
  | .bool b => some b
  | .int n => some (PyValue.int n).truthy
  | .float x => some (PyValue.float x).truthy
  | .str s =>
    if headerKey py (.str s) ∈ truthyWords then some true
    else if headerKey py (.str s) ∈ falsyWords then some false
    else none
  | _ => none

/-! ## A product of a row -/

def rowError (index : ℕ) (text : String) : String := "row " ++ toString index ++ ": " ++ text

/-- `str(raw).strip().<case>() or default`; the default too without a cell. -/
def caseOr (convert : String → String) (default : String) : PyValue → String
  | .none => default
  | raw =>
    if convert (PyStr.strip (raw.toStr py)) = "" then default
    else convert (PyStr.strip (raw.toStr py))

/-- The id in the row, or one made of the name and the index. -/
def productId (row : Record) (index : ℕ) (name : String) : String :=
  let given := caseOr py py.lower "" (inventoryCell py row "id")
  if given = "" then
    let slug := slugify py (.str name)
    (if slug = "" then "product-" ++ toString index else slug) ++ "-" ++ toString index
  else given

/-- `bool(quantity and quantity > 0)` -/
def hasQuantity : Option ℤ → Bool
  | some n => decide (0 < n)
  | none => false

/-- Set a text field when the cell holds a text. -/
def setText (product : Record) (field : String) (raw : PyValue) : Record :=
  if raw.coerceStr = "" then product else product.set field (.str raw.coerceStr)

/-- The fields every product has. -/
def requiredFields (row : Record) (index : ℕ) (dataTier name : String)
    (price : PyFloat) (quantity : Option ℤ) : List (String × PyValue) :=
  [("id", .str (productId py row index name)), ("name", .str name),
    ("category", .str (caseOr py py.lower "general" (inventoryCell py row "category"))),
    ("price", .float price),
    ("currency", .str (caseOr py py.upper "NGN" (inventoryCell py row "currency"))),
    ("in_stock",
      .bool ((parseBool py (inventoryCell py row "in_stock")).getD (hasQuantity quantity))),
    ("data_tier", .str dataTier)]

/-- The product of a row with a name, a price and a quantity. -/
def inventoryProduct (row : Record) (index : ℕ) (dataTier name : String)
    (price : PyFloat) (quantity : Option ℤ) : Record :=
  let product : Record := Dict.ofList (requiredFields py row index dataTier name price quantity)
  let product := setText product "description" (inventoryCell py row "description")
  let product := setText product "brand" (inventoryCell py row "brand")
  let product := setText product "warehouse" (inventoryCell py row "warehouse")
  match quantity with
  | some n => product.set "quantity" (.int n)
  | none => product

/-- `x < 0` -/
def negative (x : PyFloat) : Bool := (PyFloat.fin 0).gt x

/-- `_normalize_inventory_row`: a product or an error text, unless a conversion raises. -/
def normalizeInventoryRow (dataTier : String) (index : ℕ) (row : Record) :
    Except FloatError (Except String Record) :=
  -- the name is a text that is not blank, or there is none
  let name := (inventoryCell py row "name").coerceStr
  if name = "" then .ok (.error (rowError index "missing product name"))
  else do
    match ← parseFloat py (inventoryCell py row "price") with
    | none => return .error (rowError index "missing or invalid price")
    | some price =>
      if negative price = true then return .error (rowError index "missing or invalid price")
      else
        let quantity ← parseInt py (inventoryCell py row "quantity")
        let product := inventoryProduct py row index dataTier name price quantity
        let validationErrors := validateProduct product
        if validationErrors = [] then return .ok product
        else return .error (rowError index ("; ".intercalate validationErrors))

/-- The loop of `_normalize_inventory_rows`. -/
def normalizeFrom (py : StrMethods) (dataTier : String) :
    ℕ → List Record → Except FloatError (List Record × List String)
  | _, [] => .ok ([], [])
  | index, row :: rows => do
      let result ← normalizeInventoryRow py dataTier index row
      let (products, errors) ← normalizeFrom py dataTier (index + 1) rows
      match result with
      | .ok product => return (product :: products, errors)
      | .error text => return (products, text :: errors)

/-- `_normalize_inventory_rows`: the products and the errors. -/
def normalizeInventoryRows (dataTier : String) (rows : List Record) :
    Except FloatError (List Record × List String) :=
  normalizeFrom py dataTier 1 rows

/-! ## What a product holds -/

/-- Folding the case of a text that is not blank leaves one that is not blank. -/
structure CaseKeepsText (py : StrMethods) : Prop where
  lower : ∀ s, PyStr.strip s ≠ "" → PyStr.strip (py.lower s) ≠ ""
  upper : ∀ s, PyStr.strip s ≠ "" → PyStr.strip (py.upper s) ≠ ""
  upper_empty : py.upper "" = ""

theorem exists_of_strip_ne_empty {s : String} (h : PyStr.strip s ≠ "") :
    ∃ c ∈ s.toList, PyStr.isSpace c = false := by
  by_contra hnone
  have hall : ∀ c ∈ s.toList, PyStr.isSpace c = true := by
    intro c hc
    by_contra hspace
    exact hnone ⟨c, hc, Bool.eq_false_iff.2 hspace⟩
  refine h ?_
  rw [PyStr.strip, PyStr.stripChars, List.dropWhile_eq_nil_iff.2 hall]
  rfl

/-- Only ASCII letters have another upper case here. -/
theorem toUpper_eq_self {c : Char} (hc : ¬ c.toNat < 128) : c.toUpper = c := by
  have hlower : ¬ (c.val ≥ 'a'.val ∧ c.val ≤ 'z'.val) := by
    rintro ⟨-, hz⟩
    have hz' : c.toNat ≤ 'z'.toNat := UInt32.le_iff_toNat_le.1 hz
    have hZ : 'z'.toNat = 122 := by decide
    omega
  exact dif_neg hlower

theorem lower_empty : py.lower "" = "" := py.lower_ascii "" (by decide)

section Product

variable {py : StrMethods} (row : Record) (index : ℕ) (dataTier name : String) (price : PyFloat)
    (quantity : Option ℤ)

theorem value_setText (product : Record) {field key : String} (raw : PyValue) (h : key ≠ field) :
    (setText product field raw).value key = product.value key := by
  rw [setText]
  split_ifs
  · rfl
  · rw [Record.value, Dict.get?_set_of_ne _ _ h]
    rfl

/-- The optional fields come on top of the required ones. -/
theorem value_inventoryProduct (py : StrMethods) {key : String}
    (h : key ∉ ["description", "brand", "warehouse", "quantity"]) :
    (inventoryProduct py row index dataTier name price quantity).value key =
      PyValue.lookupD (requiredFields py row index dataTier name price quantity) key := by
  simp only [List.mem_cons, List.not_mem_nil, or_false, not_or] at h
  obtain ⟨hdescription, hbrand, hwarehouse, hquantity⟩ := h
  have htexts :
    (setText (setText
      (setText (Dict.ofList (requiredFields py row index dataTier name price quantity))
      "description" (inventoryCell py row "description")) "brand" (inventoryCell py row "brand"))
      "warehouse" (inventoryCell py row "warehouse")).value key =
      PyValue.lookupD (requiredFields py row index dataTier name price quantity) key := by
    have hkeys :
    ((requiredFields py row index dataTier name price quantity).map Prod.fst).Nodup := by
      simp [requiredFields]
    rw [value_setText _ _ hwarehouse, value_setText _ _ hbrand, value_setText _ _ hdescription,
      Record.value, Dict.ofList, Dict.get?_foldl_set _ hkeys, Dict.get?_empty, Option.or_none]
    rfl
  cases quantity with
  | none => exact htexts
  | some n =>
    show (((setText _ _ _).set "quantity" (.int n)).get? key).getD .none = _
    rw [Dict.get?_set_of_ne _ _ hquantity]
    exact htexts

theorem value_price_inventoryProduct :
    (inventoryProduct py row index dataTier name price quantity).value "price" = .float price := by
  rw [value_inventoryProduct row index dataTier name price quantity py (by decide)]
  rfl

theorem strip_caseOr {convert : String → String} {default : String} (raw : PyValue)
    (hempty : convert "" = "") (hconvert : ∀ s, PyStr.strip s ≠ "" → PyStr.strip (convert s) ≠ "") :
    caseOr py convert default raw = default ∨ PyStr.strip (caseOr py convert default raw) ≠ "" := by
  have hother : ∀ s : String, ∀ out,
      out = (if convert (PyStr.strip s) = "" then default else convert (PyStr.strip s)) →
        out = default ∨ PyStr.strip out ≠ "" := by
    rintro s out rfl
    split_ifs with h
    · exact .inl rfl
    · refine .inr (hconvert _ (fun hblank => h ?_))
      rw [PyStr.strip_strip] at hblank
      rw [hblank, hempty]
  cases raw with
  | none => exact .inl rfl
  | bool b => exact hother _ _ rfl
  | int n => exact hother _ _ rfl
  | float x => exact hother _ _ rfl
  | str s => exact hother _ _ rfl
  | list xs => exact hother _ _ rfl
  | dict es => exact hother _ _ rfl

theorem strip_productId (hpy : CaseKeepsText py) :
    PyStr.strip (productId py row index name) ≠ "" := by
  rw [productId]
  dsimp only
  split_ifs with hgiven hslug
  · exact PyStr.strip_ne_empty_of_mem (c := '-') (by decide) (by simp)
  · exact PyStr.strip_ne_empty_of_mem (c := '-') (by decide) (by simp)
  · exact (strip_caseOr (inventoryCell py row "id") (lower_empty py) hpy.lower).resolve_left hgiven

theorem validateProduct_inventoryProduct (hpy : CaseKeepsText py) (hname : PyStr.strip name ≠ "")
    (hprice : negative price = false) :
    validateProduct (inventoryProduct py row index dataTier name price quantity) = [] := by
  have hid := strip_productId row index name hpy
  have hcategory : PyStr.strip (caseOr py py.lower "general" (inventoryCell py row "category")) ≠
      "" := by
    rcases strip_caseOr (inventoryCell py row "category") (lower_empty py) hpy.lower with h | h
    · rw [h]
      decide
    · exact h
  have hcurrency : PyStr.strip (caseOr py py.upper "NGN" (inventoryCell py row "currency")) ≠ "" :=
    by
    rcases strip_caseOr (inventoryCell py row "currency") hpy.upper_empty hpy.upper with h | h
    · rw [h]
      decide
    · exact h
  have hvalue := fun key => @value_inventoryProduct row index dataTier name price quantity py key
  have hvalid : invalidPrice (.float price) = false := by
    cases price with
    | nan => rfl
    | inf negative => exact hprice
    | fin q => exact hprice
  rw [validateProduct, dataTierErrors, hvalue "price" (by decide), hvalue "in_stock" (by decide),
    hvalue "data_tier" (by decide)]
  simp only [requiredStringErrors, List.filter_cons, List.filter_nil, hvalue "id" (by decide),
    hvalue "name" (by decide), hvalue "category" (by decide), hvalue "currency" (by decide)]
  simp [PyValue.lookupD, PyValue.lookupOr, requiredFields, List.lookup_cons, emptyString, notBool,
    hid, hname, hcategory, hcurrency, hvalid]

end Product

/-! ## What the rows must hold -/

/-- The value is a finite number. -/
def isFinite : PyFloat → Bool
  | .fin _ => true
  | _ => false

/-- The quantity of a row is no number, or a finite one. -/
def quantityConverts (py : StrMethods) (row : Record) : Bool :=
  match parseFloat py (inventoryCell py row "quantity") with
  | .ok (some x) => isFinite x
  | .ok none => true
  | .error _ => false

/-- A row without a name, without a price or with a negative one is refused; else the price and the
    quantity have to be finite. -/
def rowConverts (py : StrMethods) (row : Record) : Bool :=
  if (inventoryCell py row "name").coerceStr = "" then true
  else match parseFloat py (inventoryCell py row "price") with
    | .ok (some price) => negative price || (isFinite price && quantityConverts py row)
    | .ok none => true
    | .error _ => false

/-- A product has a finite price that is not negative. -/
def PriceOk (product : Record) : Prop := ∃ q : ℚ, product.value "price" = .float (.fin q) ∧ 0 ≤ q

/-- The product a row gives on its own. -/
def productOf (py : StrMethods) (dataTier : String) (e : Record × ℕ) : Option Record :=
  match normalizeInventoryRow py dataTier e.2 e.1 with
  | .ok (.ok product) => some product
  | _ => none

/-- The error a row gives on its own. -/
def errorOf (py : StrMethods) (dataTier : String) (e : Record × ℕ) : Option String :=
  match normalizeInventoryRow py dataTier e.2 e.1 with
  | .ok (.error text) => some text
  | _ => none

/-- **The rows are kept apart**: nothing is raised, every row gives a product or an error that it
    would give on its own, and the prices are in order. -/
structure RowsKeptApart (py : StrMethods) (dataTier : String) (rows products : List Record)
    (errors : List String) :
    Prop where
  returns : normalizeInventoryRows py dataTier rows = .ok (products, errors)
  counted : products.length + errors.length = rows.length
  products_eq : products = (rows.zipIdx 1).filterMap (productOf py dataTier)
  errors_eq : errors = (rows.zipIdx 1).filterMap (errorOf py dataTier)
  prices : ∀ product ∈ products, PriceOk product

theorem strip_coerceStr (v : PyValue) : PyStr.strip v.coerceStr = v.coerceStr := by
  cases v with
  | str s => exact PyStr.strip_strip s
  | _ => rfl

section Rows

variable {py : StrMethods} (dataTier : String)

theorem isFinite_iff {x : PyFloat} : isFinite x = true ↔ ∃ q, x = .fin q := by
  cases x with
  | nan => simp [isFinite]
  | inf negative => simp [isFinite]
  | fin q => simp [isFinite]

theorem parseInt_ok_iff (raw : PyValue) : (∃ r, parseInt py raw = .ok r) ↔
    match parseFloat py raw with
    | .ok (some x) => isFinite x = true
    | .ok none => True
    | .error _ => False := by
  rw [parseInt]
  cases parseFloat py raw with
  | error e => exact iff_of_false (fun ⟨r, h⟩ => by cases h) id
  | ok parsed =>
    cases parsed with
    | none => exact iff_of_true ⟨none, rfl⟩ trivial
    | some x =>
      cases x with
      | nan => exact iff_of_false (fun ⟨r, h⟩ => by cases h) (by simp [isFinite])
      | inf negative => exact iff_of_false (fun ⟨r, h⟩ => by cases h) (by simp [isFinite])
      | fin q => exact iff_of_true ⟨_, rfl⟩ rfl

theorem quantityConverts_iff (row : Record) :
    quantityConverts py row = true ↔ ∃ r, parseInt py (inventoryCell py row "quantity") =
    .ok r := by
  rw [parseInt_ok_iff, quantityConverts]
  cases parseFloat py (inventoryCell py row "quantity") with
  | error e => simp
  | ok parsed => cases parsed <;> simp

/-- **A row that converts** gives a product with a price in order, or an error. -/
theorem normalizeInventoryRow_of_converts {row : Record} (h : rowConverts py row = true)
    (index : ℕ) : ∃ r, normalizeInventoryRow py dataTier index row = .ok r ∧ ∀ product,
    r = .ok product → PriceOk product := by
  rw [rowConverts] at h
  rw [normalizeInventoryRow]
  dsimp only
  by_cases hname : (inventoryCell py row "name").coerceStr = ""
  · rw [if_pos hname]
    exact ⟨_, rfl, fun product hp => by cases hp⟩
  · rw [if_neg hname] at h ⊢
    cases hprice : parseFloat py (inventoryCell py row "price") with
    | error e =>
      rw [hprice] at h
      cases h
    | ok parsed =>
      rw [hprice] at h
      cases parsed with
      | none => exact ⟨_, rfl, fun product hp => by cases hp⟩
      | some price =>
        simp only [bind, Except.bind, pure, Except.pure]
        cases hnegative : negative price with
        | true => exact ⟨_, rfl, fun product hp => by cases hp⟩
        | false =>
          simp only [hnegative, Bool.false_or, Bool.and_eq_true] at h
          obtain ⟨q, rfl⟩ := isFinite_iff.1 h.1
          obtain ⟨quantity, hquantity⟩ := (quantityConverts_iff row).1 h.2
          rw [hquantity, if_neg Bool.false_ne_true]
          dsimp only
          split_ifs
          · refine ⟨_, rfl, fun product hp => ⟨q, ?_, ?_⟩⟩
            · rw [← Except.ok.inj hp]
              exact value_price_inventoryProduct _ _ _ _ _ _
            · rw [negative, PyFloat.gt_fin, decide_eq_false_iff_not, not_lt] at hnegative
              exact hnegative
          · exact ⟨_, rfl, fun product hp => by cases hp⟩

/-- **A row that does not convert** raises, or gives a product whose price is not in order. -/
theorem normalizeInventoryRow_of_not (hpy : CaseKeepsText py) {row : Record}
    (h : rowConverts py row = false) (index : ℕ) :
    (∃ e, normalizeInventoryRow py dataTier index row = .error e) ∨
      ∃ product, normalizeInventoryRow py dataTier index row = .ok (.ok product) ∧
      ¬ PriceOk product := by
  rw [rowConverts] at h
  rw [normalizeInventoryRow]
  dsimp only
  by_cases hname : (inventoryCell py row "name").coerceStr = ""
  · rw [if_pos hname] at h
    cases h
  · rw [if_neg hname] at h ⊢
    cases hprice : parseFloat py (inventoryCell py row "price") with
    | error e => exact .inl ⟨e, rfl⟩
    | ok parsed =>
      rw [hprice] at h
      cases parsed with
      | none => cases h
      | some price =>
        simp only [Bool.or_eq_false_iff] at h
        obtain ⟨hnegative, hconverts⟩ := h
        simp only [bind, Except.bind, pure, Except.pure]
        rw [hnegative, if_neg Bool.false_ne_true]
        cases hquantity : parseInt py (inventoryCell py row "quantity") with
        | error e => exact .inl ⟨e, rfl⟩
        | ok quantity =>
          have hfinite : isFinite price = false := by
            rw [(quantityConverts_iff row).2 ⟨quantity, hquantity⟩, Bool.and_true] at hconverts
            exact hconverts
          have hstrip : PyStr.strip (inventoryCell py row "name").coerceStr ≠ "" := by
            rw [strip_coerceStr]
            exact hname
          refine .inr ⟨_,
            if_pos (validateProduct_inventoryProduct _ _ _ _ _ _ hpy hstrip hnegative), ?_⟩
          rintro ⟨q, hq, -⟩
          rw [value_price_inventoryProduct] at hq
          rw [PyValue.float.inj hq] at hfinite
          cases hfinite

/-- **The loop** returns exactly if no row raises, with what the rows give on their own. -/
theorem normalizeFrom_eq_ok_iff (index : ℕ) (rows products : List Record) (errors : List String) :
    normalizeFrom py dataTier index rows = .ok (products, errors) ↔
      (∀ e ∈ rows.zipIdx index, ∃ r, normalizeInventoryRow py dataTier e.2 e.1 = .ok r) ∧
        products = (rows.zipIdx index).filterMap (productOf py dataTier) ∧
        errors = (rows.zipIdx index).filterMap (errorOf py dataTier) := by
  induction rows generalizing index products errors with
  | nil => simp [normalizeFrom, eq_comm]
  | cons row rows ih =>
    rw [normalizeFrom, List.zipIdx_cons, List.forall_mem_cons, List.filterMap_cons,
      List.filterMap_cons, productOf, errorOf]
    dsimp only
    cases hrow : normalizeInventoryRow py dataTier index row with
    | error e =>
      exact iff_of_false (fun h => by cases h) (fun h => by obtain ⟨⟨⟨r, hr⟩, -⟩, -⟩ := h; cases hr)
    | ok result =>
      simp only [bind, Except.bind, pure, Except.pure]
      cases hrest : normalizeFrom py dataTier (index + 1) rows with
      | error e =>
        refine iff_of_false (fun h => by cases h) (fun h => ?_)
        have hok := (ih (index + 1) _ _).2 ⟨h.1.2, rfl, rfl⟩
        rw [hrest] at hok
        cases hok
      | ok out =>
        obtain ⟨hreturn, hproducts, herrors⟩ := (ih (index + 1) out.1 out.2).1 hrest
        have hreturns : ∃ r, (.ok result : Except FloatError (Except String Record)) = .ok r :=
          ⟨result, rfl⟩
        rw [← hproducts, ← herrors, and_iff_right ⟨hreturns, hreturn⟩]
        cases result with
        | ok product => simp [eq_comm]
        | error text => simp [eq_comm]

/-- Every row that does not raise counts once. -/
theorem length_products_errors {es : List (Record × ℕ)}
    (h : ∀ e ∈ es, ∃ r, normalizeInventoryRow py dataTier e.2 e.1 = .ok r) :
    (es.filterMap (productOf py dataTier)).length + (es.filterMap (errorOf py dataTier)).length =
    es.length := by
  induction es with
  | nil => rfl
  | cons e es ih =>
    rw [List.forall_mem_cons] at h
    obtain ⟨⟨result, hresult⟩, hrest⟩ := h
    have hlength := ih hrest
    cases result with
    | ok product =>
      have hproduct : productOf py dataTier e = some product := by simp only [productOf, hresult]
      have herror : errorOf py dataTier e = none := by simp only [errorOf, hresult]
      rw [List.filterMap_cons_some hproduct, List.filterMap_cons_none herror, List.length_cons,
        List.length_cons]
      omega
    | error text =>
      have hproduct : productOf py dataTier e = none := by simp only [productOf, hresult]
      have herror : errorOf py dataTier e = some text := by simp only [errorOf, hresult]
      rw [List.filterMap_cons_none hproduct, List.filterMap_cons_some herror, List.length_cons,
        List.length_cons]
      omega

/-- **The rows are kept apart** exactly if each of them converts. -/
theorem rowsKeptApart_iff (hpy : CaseKeepsText py) (dataTier : String) (rows : List Record) :
    (∃ products errors, RowsKeptApart py dataTier rows products errors) ↔ ∀ row ∈ rows,
    rowConverts py row = true := by
  constructor
  · rintro ⟨products, errors, h⟩ row hrow
    obtain ⟨hreturn, hproducts, -⟩ :=
      (normalizeFrom_eq_ok_iff dataTier 1 rows products errors).1 h.returns
    by_contra hconverts
    obtain ⟨index, hmem⟩ : ∃ index, (row, index) ∈ rows.zipIdx 1 := by
      obtain ⟨i, hi, hget⟩ := List.mem_iff_getElem.1 hrow
      exact ⟨1 + i, List.mem_iff_getElem.2 ⟨i, by simpa using hi, by simp [hget]⟩⟩
    rcases normalizeInventoryRow_of_not dataTier hpy (Bool.eq_false_iff.2 hconverts) index with
      ⟨e, he⟩ | ⟨product, hproduct, hprice⟩
    · obtain ⟨r, hr⟩ := hreturn _ hmem
      rw [he] at hr
      cases hr
    · refine hprice (h.prices product ?_)
      rw [hproducts]
      exact List.mem_filterMap.2 ⟨(row, index), hmem, by simp only [productOf, hproduct]⟩
  · intro h
    have hrow : ∀ e ∈ rows.zipIdx 1, rowConverts py e.1 = true := by
      intro e he
      exact h e.1 (List.fst_mem_of_mem_zipIdx he)
    have hreturn : ∀ e ∈ rows.zipIdx 1, ∃ r, normalizeInventoryRow py dataTier e.2 e.1 = .ok r := by
      intro e he
      obtain ⟨r, hr, -⟩ := normalizeInventoryRow_of_converts dataTier (hrow e he) e.2
      exact ⟨r, hr⟩
    refine ⟨_, _, ⟨(normalizeFrom_eq_ok_iff dataTier 1 rows _ _).2 ⟨hreturn, rfl, rfl⟩, ?_, rfl,
      rfl, ?_⟩⟩
    · rw [length_products_errors dataTier hreturn, List.length_zipIdx]
    · intro product hproduct
      obtain ⟨e, he, hof⟩ := List.mem_filterMap.1 hproduct
      obtain ⟨r, hr, hprice⟩ := normalizeInventoryRow_of_converts dataTier (hrow e he) e.2
      rw [productOf, hr] at hof
      cases r with
      | error text => cases hof
      | ok product' => exact hprice product (by rw [Option.some.inj hof])

end Rows

/-! ### A quantity that is not a number -/

theorem caseKeepsText_ascii : CaseKeepsText .ascii := by
  have hmap : ∀ (f : Char → Char), (∀ c, PyStr.isSpace c = false → PyStr.isSpace (f c) = false) →
      ∀ s : String, PyStr.strip s ≠ "" → PyStr.strip (String.ofList (s.toList.map f)) ≠ "" := by
    intro f hf s hs
    obtain ⟨c, hc, hspace⟩ := exists_of_strip_ne_empty hs
    exact PyStr.strip_ne_empty_of_mem (hf c hspace) (by simpa using ⟨c, hc, rfl⟩)
  refine ⟨hmap Char.toLower (fun c hc => ?_), hmap Char.toUpper (fun c hc => ?_), rfl⟩
  · by_cases hascii : c.toNat < 128
    · exact PyStr.forall_ascii (P := fun c => PyStr.isSpace c = false →
        PyStr.isSpace c.toLower = false) (by decide +kernel) hascii hc
    · rw [toLower_eq_self hascii]
      exact hc
  · by_cases hascii : c.toNat < 128
    · exact PyStr.forall_ascii (P := fun c => PyStr.isSpace c = false →
        PyStr.isSpace c.toUpper = false) (by decide +kernel) hascii hc
    · rw [toUpper_eq_self hascii]
      exact hc

/-- A sheet of two phones. -/
def phoneSheet (quantity : String) : List Record :=
  parseCsvRows ["name", "price", "quantity"] [["Phone", "5", "1"], ["Tablet", "7", quantity]]

theorem rowsKeptApart_iff_phones :
    CaseKeepsText .ascii ∧ ∃ products errors, RowsKeptApart .ascii "admin" (phoneSheet "3") products
    errors :=
  ⟨caseKeepsText_ascii, (rowsKeptApart_iff caseKeepsText_ascii "admin" (phoneSheet "3")).2
    (by decide +kernel)⟩

/-- One cell with the text `nan` makes the whole sheet raise. -/
theorem normalizeInventoryRows_nan :
    ¬ ∃ products errors, RowsKeptApart .ascii "admin" (phoneSheet "nan") products errors := by
  rintro ⟨products, errors, h⟩
  have hraises : (normalizeInventoryRows .ascii "admin" (phoneSheet "nan")).toOption.isNone =
      true := by
    decide +kernel
  rw [h.returns] at hraises
  cases hraises

end Ekaette
