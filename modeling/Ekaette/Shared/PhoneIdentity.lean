import Ekaette.Lib.PyStr

set_option autoImplicit false

/-! # Masked phone numbers

`mask_phone` of `shared/phone_identity.py`. How many characters it shows at either end follows from
the length of the stripped value alone: a window that leaves three characters in the middle, of a
value that has as many. -/

namespace Ekaette

/-! ## Slices -/

section Slices

variable {α : Type*} (l : List α)

/-- `l[:stop]`; a negative index counts from the end. -/
def sliceTo (stop : ℤ) : List α := l.take (if stop < 0 then l.length + stop else stop).toNat

/-- `l[start:]`; a negative index counts from the end, and `-0` is the start. -/
def sliceFrom (start : ℤ) : List α := l.drop (if start < 0 then l.length + start else start).toNat

theorem sliceTo_natCast (stop : ℕ) : sliceTo l stop = l.take stop := by
  rw [sliceTo, if_neg (by omega), Int.toNat_natCast]

theorem sliceFrom_neg {k : ℕ} (hk : 0 < k) : sliceFrom l (-k) = l.drop (l.length - k) := by
  have hstart : ((l.length : ℤ) + -k).toNat = l.length - k := by omega
  rw [sliceFrom, if_pos (by omega), hstart]

end Slices

/-! ## The mask -/

/-- `mask_phone`. -/
def maskPhone (raw : String) : String :=
  let stripped := (PyStr.strip raw).toList
  let n : ℤ := stripped.length
  if n ≤ 4 then "***"
  else
    let maxVisible := n - 3
    let tail := min 4 maxVisible
    let head := min 4 (maxVisible - tail)
    if head > 0 then String.ofList (sliceTo stripped head ++ "***".toList ++ sliceFrom stripped
      (-tail))
    else String.ofList ("***".toList ++ sliceFrom stripped (-tail))

example : maskPhone "  +2348001234567  " = "+234***4567" := by decide

/-- How much of a value is shown at its two ends. -/
structure MaskWindow where
  head : ℕ
  tail : ℕ

namespace MaskWindow

/-- The value with everything between the two ends masked. -/
def mask (w : MaskWindow) (cs : List Char) : String :=
  String.ofList (cs.take w.head ++ "***".toList ++ cs.drop (cs.length - w.tail))

/-- The two values are the same where the window shows them. -/
def Agree (w : MaskWindow) (cs ds : List Char) : Prop :=
  cs.take w.head = ds.take w.head ∧ cs.drop (cs.length - w.tail) = ds.drop (ds.length - w.tail)

theorem mask_congr {w : MaskWindow} {cs ds : List Char} (h : w.Agree cs ds) :
    w.mask cs = w.mask ds := by
  rw [mask, mask, h.1, h.2]

/-- The window of a value with `n` characters. -/
def ofLength (n : ℕ) : MaskWindow :=
  if n ≤ 4 then ⟨0, 0⟩ else ⟨min 4 (n - 3 - min 4 (n - 3)), min 4 (n - 3)⟩

theorem head_ofLength_le (n : ℕ) : (ofLength n).head ≤ 4 := by
  rw [ofLength]
  split_ifs
  · exact Nat.zero_le 4
  · exact min_le_left _ _

theorem tail_ofLength_le (n : ℕ) : (ofLength n).tail ≤ 4 := by
  rw [ofLength]
  split_ifs
  · exact Nat.zero_le 4
  · exact min_le_left _ _

/-- **The window leaves three characters**, or all that there are. -/
theorem ofLength_hides (n : ℕ) : (ofLength n).head + min 3 n + (ofLength n).tail ≤ n := by
  rw [ofLength]
  split_ifs with hshort
  · show 0 + min 3 n + 0 ≤ n
    omega
  · show min 4 (n - 3 - min 4 (n - 3)) + min 3 n + min 4 (n - 3) ≤ n
    omega

end MaskWindow

/-- `mask_phone` masks the stripped value in the window of its length. -/
theorem maskPhone_eq (raw : String) :
    maskPhone raw =
      (MaskWindow.ofLength (PyStr.strip raw).toList.length).mask (PyStr.strip raw).toList := by
  unfold maskPhone MaskWindow.ofLength
  generalize (PyStr.strip raw).toList = stripped
  dsimp only
  by_cases hshort : stripped.length ≤ 4
  · have hnone : stripped.drop (stripped.length - 0) = [] := by rw [Nat.sub_zero, List.drop_length]
    rw [if_pos (by omega), if_pos hshort, MaskWindow.mask, List.take_zero, hnone]
    rfl
  · have htail : min 4 ((stripped.length : ℤ) - 3) = (min 4 (stripped.length - 3) : ℕ) := by omega
    have hhead : min 4 ((stripped.length : ℤ) - 3 - min 4 ((stripped.length : ℤ) - 3)) =
        (min 4 (stripped.length - 3 - min 4 (stripped.length - 3)) : ℕ) := by omega
    -- a tail of no characters would be a slice from the start
    have hpos : 0 < min 4 (stripped.length - 3) := by omega
    rw [if_neg (by omega), if_neg hshort, hhead, htail, sliceFrom_neg _ hpos, sliceTo_natCast,
      MaskWindow.mask]
    split_ifs with hshown
    · rfl
    · have hzero : min 4 (stripped.length - 3 - min 4 (stripped.length - 3)) = 0 := by omega
      rw [hzero]
      rfl

/-! ## What a mask tells -/

/-- A mask shows at most four characters of the stripped value at either end and hides `hidden`
    between them, and it is the same for every other value of that length with the same characters
    there. -/
def MaskHides (hidden : ℕ) (raw : String) : Prop :=
  ∃ w : MaskWindow, w.head ≤ 4 ∧ w.tail ≤ 4 ∧
    w.head + hidden + w.tail ≤ (PyStr.strip raw).toList.length ∧
    maskPhone raw = w.mask (PyStr.strip raw).toList ∧
    ∀ other : String, (PyStr.strip other).toList.length = (PyStr.strip raw).toList.length →
      w.Agree (PyStr.strip other).toList (PyStr.strip raw).toList → maskPhone other = maskPhone raw

/-- **Masked phones hide three characters**, or the whole value where it has fewer. -/
theorem maskPhone_hides (raw : String) : MaskHides (min 3 (PyStr.strip raw).toList.length) raw := by
  refine ⟨.ofLength _, MaskWindow.head_ofLength_le _, MaskWindow.tail_ofLength_le _,
    MaskWindow.ofLength_hides _, maskPhone_eq raw, fun other hlength hagree => ?_⟩
  rw [maskPhone_eq, maskPhone_eq, hlength]
  exact MaskWindow.mask_congr hagree

/-- A value of two characters has no three to hide. -/
theorem maskPhone_twoDigits : ¬ MaskHides 3 "12" := by
  rintro ⟨w, -, -, hhidden, -⟩
  have hlength : (PyStr.strip "12").toList.length = 2 := by decide
  omega

end Ekaette
