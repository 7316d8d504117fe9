import Ekaette.Lib.Binary64

set_option autoImplicit false

/-! # Negotiating a trade-in price

A customer's counter-offer is accepted, countered or rejected. The margins of five and fifteen
percent are computed with doubles, the midpoint with integers; the ask that the five percent let
pass is not compared with the maximum. -/

namespace Ekaette

/-! ## The decision -/

/-- What `process_negotiation` decides, with its amounts. -/
inductive Negotiation where
  | accept (offerAmount finalAmount : ℤ)
  | reject (offerAmount maxAmount rejectThreshold : ℤ)
  | counter (offerAmount counterAmount : ℤ)
  deriving DecidableEq

/-- `ACCEPT_THRESHOLD` -/
def acceptThreshold : PyFloat := Binary64.round (5 / 100)

/-- `REJECT_THRESHOLD_ABOVE_MAX` -/
def rejectThresholdAboveMax : PyFloat := Binary64.round (15 / 100)

/-- `amount * (1 + threshold)`. -/
def withMargin (amount : ℤ) (threshold : PyFloat) : Except FloatError PyFloat :=
  match Binary64.ofInt amount with
  | some q => .ok (Binary64.mul (.fin q) (Binary64.add (.fin 1) threshold))
  | none => .error .overflowError

/-- `int(x)` of a float that is a number. -/
def truncated (x : PyFloat) : Except FloatError ℤ :=
  match Binary64.toInt? x with
  | some n => .ok n
  | none => .error .overflowError

variable (offerAmount customerAsk maxAmount : ℤ)

/-- `process_negotiation`. -/
def processNegotiation : Except FloatError Negotiation :=
  if customerAsk ≤ 0 then .ok (.accept offerAmount offerAmount)
  else if customerAsk ≤ offerAmount then .ok (.accept offerAmount offerAmount)
  else do
    let threshold ← withMargin offerAmount acceptThreshold
    if Binary64.intLe customerAsk threshold then return .accept offerAmount customerAsk
    let hardRejectCeiling ← truncated (← withMargin maxAmount rejectThresholdAboveMax)
    if hardRejectCeiling < customerAsk then return .reject offerAmount maxAmount hardRejectCeiling
    return .counter offerAmount (min ((offerAmount + customerAsk) / 2) maxAmount)

/-- `negotiate_tool`. -/
def negotiateTool : Except FloatError Negotiation :=
  processNegotiation offerAmount customerAsk maxAmount

/-! ## The budget -/

/-- An answer within the budget: amounts lie between the offer and the maximum, and an ask up to the
    maximum is not rejected. -/
def Negotiation.WithinBudget : Negotiation → Prop
  | .accept _ finalAmount => offerAmount ≤ finalAmount ∧ finalAmount ≤ maxAmount
  | .counter _ counterAmount => offerAmount ≤ counterAmount ∧ counterAmount ≤ maxAmount
  | .reject _ _ _ => maxAmount < customerAsk

/-- The ask lies within the five percent above the offer. -/
def withinAcceptMargin (offerAmount customerAsk : ℤ) : Bool :=
  match withMargin offerAmount acceptThreshold with
  | .ok threshold => Binary64.intLe customerAsk threshold
  | .error _ => false

theorem rejectFactor_eq :
    Binary64.add (.fin 1) rejectThresholdAboveMax = .fin (5179139571476070 / 2 ^ 52) := by
  decide +kernel

/-- The ceiling is not below the maximum, whatever the rounding does. -/
theorem le_hardRejectCeiling {maxAmount ceiling : ℤ} {x : PyFloat} (hmax : 1 ≤ maxAmount)
    (hmargin : withMargin maxAmount rejectThresholdAboveMax = .ok x)
    (hceiling : truncated x = .ok ceiling) : maxAmount ≤ ceiling := by
  have hone : (1 : ℚ) ≤ maxAmount := by exact_mod_cast hmax
  rw [withMargin] at hmargin
  cases hfloat : Binary64.ofInt maxAmount with
  | none => rw [hfloat] at hmargin; cases hmargin
  | some q =>
    rw [hfloat, rejectFactor_eq] at hmargin
    have hx : Binary64.round (q * (5179139571476070 / 2 ^ 52)) = x := Except.ok.inj hmargin
    have hround := Binary64.finite?_eq_some hfloat
    have hq : (maxAmount : ℚ) * (1 - 1 / 2 ^ 53) ≤ q :=
      Binary64.le_of_round_eq_fin (Binary64.normal_of_one_le hone) hround
    cases x with
    | nan => cases hceiling
    | inf negative => cases hceiling
    | fin v =>
      have hproduct : (maxAmount : ℚ) * (11 / 10) ≤ q * (5179139571476070 / 2 ^ 52) := by
        norm_num at hq ⊢
        linarith
      have hv : q * (5179139571476070 / 2 ^ 52) * (1 - 1 / 2 ^ 53) ≤ v :=
        Binary64.le_of_round_eq_fin (Binary64.normal_of_one_le (by linarith)) hx
      have hle : (maxAmount : ℚ) ≤ v := by
        norm_num at hv hproduct
        linarith
      rw [truncated] at hceiling
      cases hint : Binary64.toInt? (.fin v) with
      | none => rw [hint] at hceiling; cases hceiling
      | some n =>
        rw [hint] at hceiling
        rw [← Except.ok.inj hceiling]
        exact Binary64.le_toInt (by omega) hle hint

/-- **The budget is kept** by whatever is answered, exactly if the ask is not above the maximum and
    within the five percent. -/
theorem negotiation_withinBudget_iff (hoffer : 0 ≤ offerAmount) (hmax : offerAmount ≤ maxAmount) :
    (∀ answer, negotiateTool offerAmount customerAsk maxAmount = .ok answer →
        answer.WithinBudget offerAmount customerAsk maxAmount) ↔
      ¬ (maxAmount < customerAsk ∧ withinAcceptMargin offerAmount customerAsk = true) := by
  have hhalf : ∀ ask : ℤ, offerAmount < ask → offerAmount ≤ (offerAmount + ask) / 2 := by
    intro ask hask
    omega
  constructor
  · rintro hbudget ⟨habove, hmargin⟩
    rw [withinAcceptMargin] at hmargin
    cases hthreshold : withMargin offerAmount acceptThreshold with
    | error e => rw [hthreshold] at hmargin; cases hmargin
    | ok threshold =>
      rw [hthreshold] at hmargin
      have haccept : negotiateTool offerAmount customerAsk maxAmount =
          .ok (.accept offerAmount customerAsk) := by
        rw [negotiateTool, processNegotiation, if_neg (by omega), if_neg (by omega), hthreshold]
        show (if Binary64.intLe customerAsk threshold = true then _ else _) = _
        exact if_pos hmargin
      have hle := (hbudget _ haccept).2
      omega
  · intro hcond answer hanswer
    rw [negotiateTool, processNegotiation] at hanswer
    split_ifs at hanswer with hzero hbelow
    · rw [← Except.ok.inj hanswer]
      exact ⟨le_rfl, hmax⟩
    · rw [← Except.ok.inj hanswer]
      exact ⟨le_rfl, hmax⟩
    · cases hthreshold : withMargin offerAmount acceptThreshold with
      | error e => rw [hthreshold] at hanswer; cases hanswer
      | ok threshold =>
        rw [hthreshold] at hanswer
        rw [withinAcceptMargin, hthreshold] at hcond
        simp only [bind, Except.bind, pure, Except.pure] at hanswer
        split_ifs at hanswer with haccept
        · -- accepted within the margin
          rw [← Except.ok.inj hanswer]
          exact ⟨by omega, not_lt.1 (fun habove => hcond ⟨habove, haccept⟩)⟩
        · cases hmargin : withMargin maxAmount rejectThresholdAboveMax with
          | error e => rw [hmargin] at hanswer; cases hanswer
          | ok x =>
            rw [hmargin] at hanswer
            dsimp only at hanswer
            cases hceiling : truncated x with
            | error e => rw [hceiling] at hanswer; cases hanswer
            | ok ceiling =>
              rw [hceiling] at hanswer
              dsimp only at hanswer
              split_ifs at hanswer with hreject
              · rw [← Except.ok.inj hanswer]
                show maxAmount < customerAsk
                by_contra hle
                have hle' := le_hardRejectCeiling (by omega) hmargin hceiling
                omega
              · rw [← Except.ok.inj hanswer]
                have hask := hhalf customerAsk (by omega)
                exact ⟨le_min hask hmax, min_le_right _ _⟩

/-- An ask above the maximum and beyond the five percent. -/
theorem negotiation_withinBudget_iff_counter :
    (400000 : ℤ) ≤ 420000 ∧
      ∀ answer, negotiateTool 400000 430000 420000 = .ok answer →
      answer.WithinBudget 400000 430000 420000 :=
  ⟨by decide, (negotiation_withinBudget_iff 400000 430000 420000 (by decide) (by decide)).2
    (by decide +kernel)⟩

/-- An offer at the maximum, and an ask four percent above it: it is accepted. -/
theorem negotiation_overBudget :
    ¬ ∀ answer, negotiateTool 420000 436800 420000 = .ok answer →
    answer.WithinBudget 420000 436800 420000 := by
  intro h
  have haccept : negotiateTool 420000 436800 420000 = .ok (.accept 420000 436800) := by
    decide +kernel
  exact absurd (h _ haccept).2 (by decide)

end Ekaette
