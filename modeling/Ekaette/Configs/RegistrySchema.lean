import Ekaette.Lib.PyStr

set_option autoImplicit false

/-! # Validation of runtime documents

Products and booking slots are checked field by field; the answer is the list of what is wrong. -/

namespace Ekaette

/-- `not isinstance(value, str) or not value.strip()` -/
def emptyString : PyValue → Bool
  | .str s => decide (PyStr.strip s = "")
  | _ => true

/-- The required string fields that are missing or empty. -/
def requiredStringErrors (fields : List String) (data : Record) : List String :=
  (fields.filter (fun field => emptyString (data.value field))).map
    ("missing or empty required string field: " ++ ·)

/-- `not isinstance(price, (int, float)) or price < 0` -/
def invalidPrice : PyValue → Bool
  | .int n => decide (n < 0)
  | .bool _ => false
  | .float (.fin q) => decide (q < 0)
  | .float (.inf negative) => negative
  | .float .nan => false
  | _ => true

def notBool : PyValue → Bool
  | .bool _ => false
  | _ => true

/-- `data_tier is not None and not isinstance(data_tier, str)` -/
def dataTierErrors (data : Record) : List String :=
  match data.value "data_tier" with
  | .none => []
  | .str _ => []
  | _ => ["data_tier must be a string if present"]

/-- `validate_product`, of a dictionary. -/
def validateProduct (data : Record) : List String :=
  requiredStringErrors ["id", "name", "category"] data ++
    (if invalidPrice (data.value "price") then
      ["missing or invalid required field: price (must be a non-negative number)"] else []) ++
    requiredStringErrors ["currency"] data ++
    (if notBool (data.value "in_stock") then
      ["missing or invalid required field: in_stock (must be a boolean)"] else []) ++
    dataTierErrors data

/-- A text of the form `YYYY-MM-DD`, with the decimal digits of any script. -/
def isDateText (py : StrMethods) : List Char → Bool
  | [y₁, y₂, y₃, y₄, '-', m₁, m₂, '-', d₁, d₂] =>
    [y₁, y₂, y₃, y₄, m₁, m₂, d₁, d₂].all (fun c => (py.decimal c).isSome)
  | _ => false

def dateErrors (py : StrMethods) : PyValue → List String
  | .str s =>
    if PyStr.strip s ≠ "" ∧ isDateText py (PyStr.stripChars s.toList) = false then
      ["date must be in YYYY-MM-DD format"]
    else []
  | _ => []

/-- `validate_booking_slot`, of a dictionary. -/
def validateBookingSlot (py : StrMethods) (data : Record) : List String :=
  requiredStringErrors ["id", "date", "time"] data ++ dateErrors py (data.value "date") ++
    (if notBool (data.value "available") then
      ["missing or invalid required field: available (must be a boolean)"] else []) ++
    dataTierErrors data

end Ekaette
