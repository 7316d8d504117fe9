import Ekaette.Lib.PyValue
import Mathlib.Data.List.Sort
import Mathlib.Data.String.Basic

set_option autoImplicit false

/-! # Equality of dynamic values

`v == w` compares numbers by value whatever their type, lists item by item and maps key by key in
any order; `nan` is equal to nothing. A value is written as a list of tokens, in which numbers have
lost their type and the keys of maps are sorted, and values are equal when their tokens are. -/

namespace PyValue

inductive Token where
  | none
  | number (q : ℚ)
  | infinity (negative : Bool)
  | nan
  | text (s : String)
  | list (length : ℕ)
  | dict (size : ℕ)
  | key (s : String)
  deriving DecidableEq

mutual

/-- A value as tokens. -/
def tokens : PyValue → List Token
  | .none => [.none]
  | .bool b => [.number (if b then 1 else 0)]
  | .int n => [.number n]
  | .float (.fin q) => [.number q]
  | .float (.inf negative) => [.infinity negative]
  | .float .nan => [.nan]
  | .str s => [.text s]
  | .list xs => .list xs.length :: tokensOfItems xs
  | .dict es =>
    .dict es.length :: ((tokensOfEntries es).insertionSort (fun a b => a.1 ≤ b.1)).flatMap (fun e =>
      .key e.1 :: e.2)

def tokensOfItems : List PyValue → List Token
  | [] => []
  | v :: vs => tokens v ++ tokensOfItems vs

def tokensOfEntries : List (String × PyValue) → List (String × List Token)
  | [] => []
  | (key, v) :: es => (key, tokens v) :: tokensOfEntries es

end

/-- `v == w` -/
def pyEq (v w : PyValue) : Bool := decide (tokens v = tokens w ∧ Token.nan ∉ tokens v)

example : pyEq (.dict [("a", .int 1), ("b", .bool true)])
    (.dict [("b", .float (.fin 1)), ("a", .int 1)]) = true := by
  decide +kernel

theorem pyEq_iff (v w : PyValue) : pyEq v w = true ↔ tokens v = tokens w ∧ Token.nan ∉ tokens v :=
  decide_eq_true_iff

theorem pyEq_symm {v w : PyValue} (h : pyEq v w = true) : pyEq w v = true := by
  rw [pyEq_iff] at h ⊢
  exact ⟨h.1.symm, h.1 ▸ h.2⟩

theorem pyEq_trans {u v w : PyValue} (h : pyEq u v = true) (h' : pyEq v w = true) :
    pyEq u w = true := by
  rw [pyEq_iff] at h h' ⊢
  exact ⟨h.1.trans h'.1, h.2⟩

/-- Maps of different sizes are not equal. -/
theorem pyEq_dict_length {es es' : List (String × PyValue)}
    (h : pyEq (.dict es) (.dict es') = true) : es.length = es'.length := by
  rw [pyEq_iff, tokens, tokens] at h
  exact Token.dict.inj (List.cons.inj h.1).1

end PyValue
