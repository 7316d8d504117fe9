import Ekaette.Lib.Dict
import Mathlib.Algebra.Order.Ring.Rat

set_option autoImplicit false

/-! # Dynamically typed values

The values a JSON-speaking dynamic program passes around, with the truth test and the type tests it
branches on. Dictionaries inside a value are plain entry lists (a value is a nested inductive type);
records a program stores and updates are `Dict String PyValue`.

Finite floats are exact rationals: rounding is not modelled, `nan` and the infinities are. -/

/-- A float: not a number, an infinity, or a finite value. -/
inductive PyFloat where
  | nan
  | inf (negative : Bool)
  | fin (q : ℚ)
  deriving DecidableEq

namespace PyFloat

/-- `x > y`; false as soon as one side is `nan`. -/
def gt : PyFloat → PyFloat → Bool
  | .nan, _ => false
  | _, .nan => false
  | .fin x, .fin y => decide (y < x)
  | .fin _, .inf neg => neg
  | .inf neg, .fin _ => !neg
  | .inf a, .inf b => !a && b

@[simp] theorem gt_fin (x y : ℚ) : gt (.fin x) (.fin y) = decide (y < x) := rfl

@[simp] theorem gt_nan (x : PyFloat) : gt x .nan = false := by cases x <;> rfl

/-- What a number exceeds, every larger number exceeds. -/
theorem gt_of_le {x y : ℚ} {z : PyFloat} (hxy : x ≤ y) (h : gt (.fin x) z = true) :
    gt (.fin y) z = true := by
  cases z with
  | nan => simp at h
  | inf negative => exact h
  | fin q =>
    rw [gt_fin, decide_eq_true_eq] at h ⊢
    exact h.trans_le hxy

end PyFloat

inductive PyValue where
  | none
  | bool (b : Bool)
  | int (n : ℤ)
  | float (x : PyFloat)
  | str (s : String)
  | list (xs : List PyValue)
  | dict (entries : List (String × PyValue))

namespace PyValue

/-- `bool(v)`. -/
def truthy : PyValue → Bool
  | .none => false
  | .bool b => b
  | .int n => n ≠ 0
  | .float (.fin q) => q ≠ 0
  | .float _ => true
  | .str s => s ≠ ""
  | .list xs => !xs.isEmpty
  | .dict es => !es.isEmpty

/-- `v or w`. -/
def orElse (v w : PyValue) : PyValue := if v.truthy then v else w

/-- `isinstance(v, dict)`, with the entries. -/
def dict? : PyValue → Option (List (String × PyValue))
  | .dict es => some es
  | _ => Option.none

/-- `isinstance(v, str)`, with the string. -/
def str? : PyValue → Option String
  | .str s => some s
  | _ => Option.none

/-- `isinstance(v, int)`, with the number; booleans are integers. -/
def int? : PyValue → Option ℤ
  | .int n => some n
  | .bool b => some (if b then 1 else 0)
  | _ => Option.none

/-- `v == s` for a string `s`. -/
def eqStr (v : PyValue) (s : String) : Bool := v.str? == some s

/-- `d.get(key, default)` on the entries of a dictionary value. -/
def lookupOr (es : List (String × PyValue)) (key : String) (default : PyValue) : PyValue :=
  (es.lookup key).getD default

/-- `d.get(key)` on the entries of a dictionary value: `None` when the key is absent. -/
def lookupD (es : List (String × PyValue)) (key : String) : PyValue := lookupOr es key .none

@[simp] theorem truthy_none : truthy .none = false := rfl

@[simp] theorem truthy_bool (b : Bool) : truthy (.bool b) = b := rfl

@[simp] theorem truthy_str (s : String) : truthy (.str s) = decide (s ≠ "") := rfl

@[simp] theorem str?_str (s : String) : str? (.str s) = some s := rfl

theorem str?_eq_some {v : PyValue} {s : String} (h : v.str? = some s) : v = .str s := by
  cases v <;> simp_all [str?]

end PyValue

/-- A stored record: `dict[str, Any]`. -/
abbrev Record := Dict String PyValue

/-- `record.get(key)`: `None` when the key is absent. -/
def Record.value (r : Record) (key : String) : PyValue := (r.get? key).getD .none

/-! ## Merging -/

mutual

/-- A field of a payload merged into the stored one: a map field by field, anything else as a
    whole. -/
def mergeValue : PyValue → PyValue → PyValue
  | .dict (e :: es), stored =>
    .dict (mergeEntries (e :: es) (Dict.ofList (stored.dict?.getD []))).entries
  | new, _ => new

/-- The fields of a payload, one after the other. -/
def mergeEntries : List (String × PyValue) → Record → Record
  | [], stored => stored
  | (key, v) :: es, stored => mergeEntries es (stored.set key (mergeValue v (stored.value key)))

end

/-- A payload merged deeply into a record. -/
def Record.mergeDeep (stored payload : Record) : Record := mergeEntries payload.entries stored

theorem get?_mergeEntries {es : List (String × PyValue)} (hes : (es.map Prod.fst).Nodup)
    (stored : Record) (key : String) : (mergeEntries es stored).get? key =
      match es.lookup key with
      | some v => some (mergeValue v (stored.value key))
      | none => stored.get? key := by
  induction es generalizing stored with
  | nil => rfl
  | cons e es ih =>
    obtain ⟨key', v⟩ := e
    rw [List.map_cons, List.nodup_cons] at hes
    rw [mergeEntries, ih hes.2]
    by_cases hkey : key = key'
    · subst hkey
      have hnone : es.lookup key = none := by
        rw [List.lookup_eq_none_iff]
        intro e he
        rw [bne_iff_ne]
        rintro rfl
        exact hes.1 (List.mem_map.2 ⟨e, he, rfl⟩)
      rw [hnone, List.lookup_cons_self, Dict.get?_set_self]
    · have hvalue : Record.value (stored.set key' (mergeValue v (stored.value key'))) key =
          stored.value key := by
        rw [Record.value, Dict.get?_set_of_ne _ _ hkey, Record.value]
      rw [List.lookup_cons, beq_eq_false_iff_ne.2 hkey, hvalue, Dict.get?_set_of_ne _ _ hkey]

theorem Record.get?_mergeDeep (stored payload : Record) (key : String) :
    (stored.mergeDeep payload).get? key =
      match payload.get? key with
      | some v => some (mergeValue v (stored.value key))
      | none => stored.get? key :=
  get?_mergeEntries payload.nodup stored key

theorem mergeEntries_keeps (es : List (String × PyValue)) {stored : Record} {key : String}
    (h : (stored.get? key).isSome = true) : ((mergeEntries es stored).get? key).isSome = true := by
  induction es generalizing stored with
  | nil => exact h
  | cons e es ih =>
    obtain ⟨key', v⟩ := e
    refine ih ?_
    rw [Dict.get?_set]
    split
    · rfl
    · exact h

/-- Merging a field does not change whether it is truthy. -/
theorem truthy_mergeValue (v stored : PyValue) : (mergeValue v stored).truthy = v.truthy := by
  cases v with
  | dict es =>
    cases es with
    | nil => rfl
    | cons e es =>
      obtain ⟨key, v⟩ := e
      have hkey : ((mergeEntries ((key, v) :: es) (Dict.ofList (stored.dict?.getD []))).get?
          key).isSome :=
        mergeEntries_keeps es (by rw [Dict.get?_set_self]; rfl)
      have hne : (mergeEntries ((key, v) :: es) (Dict.ofList (stored.dict?.getD []))).entries ≠
          [] := by
        intro hnil
        rw [Dict.get?, hnil] at hkey
        cases hkey
      rw [mergeValue, PyValue.truthy, PyValue.truthy, List.isEmpty_eq_false_iff.2 hne]
      rfl
  | _ => rfl

/-- Merged field by field or assigned one by one: the same fields are truthy. -/
theorem truthy_mergeEntries (es : List (String × PyValue)) {d d' : Record}
    (h : ∀ key, (d.get? key).map PyValue.truthy = (d'.get? key).map PyValue.truthy) (key : String) :
    ((mergeEntries es d).get? key).map PyValue.truthy =
      ((es.foldl (fun acc e => acc.set e.1 e.2) d').get? key).map PyValue.truthy := by
  induction es generalizing d d' with
  | nil => exact h key
  | cons e es ih =>
    obtain ⟨key', v⟩ := e
    refine ih fun k => ?_
    rw [Dict.get?_set, Dict.get?_set]
    split
    · exact congrArg some (truthy_mergeValue v _)
    · exact h k
