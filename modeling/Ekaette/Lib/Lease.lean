import Mathlib.Order.Lattice

set_option autoImplicit false

/-! # Leases

Clients `ι` hold leases on keys `κ` until they give them up or the leases expire, on a clock `τ`. A
store holds the expiry of the current lease of each key. A client takes a key only where the store
holds no unexpired lease, and an unexpired lease leaves the store only when its own client gives it
up; then no two clients hold a key at the same time. -/

/-- The clock, the stored expiry of every key, and the expiry of what every client was granted. -/
structure Leases (ι κ τ : Type) where
  clock : τ
  stored : κ → Option τ
  held : ι → κ → Option τ

namespace Leases

variable {ι κ τ : Type} [LinearOrder τ]

/-- The client was granted the key, and the grant has not expired. -/
def Holds (v : Leases ι κ τ) (i : ι) (k : κ) : Prop := ∃ x, v.held i k = some x ∧ v.clock < x

/-- A step of the client `i`. -/
structure Step (i : ι) (v v' : Leases ι κ τ) : Prop where
  forward : v.clock ≤ v'.clock
  frame : ∀ j, j ≠ i → v'.held j = v.held j
  /-- An unexpired lease stays, unless the client gives up its own. -/
  keeps : ∀ k x, v.stored k = some x → v'.clock < x →
    v'.stored k = some x ∨ v.held i k = some x ∧ v'.held i k = none
  /-- What the client is granted is stored, and nothing unexpired was. -/
  grants : ∀ k x, v'.held i k = some x →
    v.held i k = some x ∨ v'.stored k = some x ∧ ∀ y, v.stored k = some y → y ≤ v'.clock

/-- Unexpired grants are stored, and nobody shares one. -/
structure Sound (v : Leases ι κ τ) : Prop where
  backed : ∀ i k x, v.held i k = some x → v.clock < x → v.stored k = some x
  once : ∀ i j k, v.Holds i k → v.Holds j k → i = j

variable {i : ι} {v v' : Leases ι κ τ}

theorem Step.holds (h : Step i v v') {j : ι} {k : κ} (hj : v'.Holds j k) :
    v.Holds j k ∨ j = i ∧ ∀ y, v.stored k = some y → y ≤ v'.clock := by
  obtain ⟨x, hx, hclock⟩ := hj
  by_cases hji : j = i
  · subst hji
    rcases h.grants k x hx with hold | ⟨-, hexpired⟩
    · exact .inl ⟨x, hold, lt_of_le_of_lt h.forward hclock⟩
    · exact .inr ⟨rfl, hexpired⟩
  · rw [h.frame j hji] at hx
    exact .inl ⟨x, hx, lt_of_le_of_lt h.forward hclock⟩

/-- **Step lemma.** -/
theorem Sound.step (hv : Sound v) (h : Step i v v') : Sound v' := by
  have hfresh : ∀ j k, v'.Holds j k → (∀ y, v.stored k = some y → y ≤ v'.clock) → j = i := by
    intro j k hj hexpired
    by_contra hji
    obtain ⟨x, hx, hclock⟩ := hj
    rw [h.frame j hji] at hx
    have hstored := hv.backed j k x hx (lt_of_le_of_lt h.forward hclock)
    exact absurd (hexpired x hstored) (not_le_of_gt hclock)
  refine ⟨fun j k x hx hclock => ?_, fun j j' k hj hj' => ?_⟩
  · by_cases hji : j = i
    · subst hji
      rcases h.grants k x hx with hold | ⟨hnew, -⟩
      · have hstored := hv.backed j k x hold (lt_of_le_of_lt h.forward hclock)
        rcases h.keeps k x hstored hclock with hkept | ⟨-, hnone⟩
        · exact hkept
        · rw [hnone] at hx
          cases hx
      · exact hnew
    · rw [h.frame j hji] at hx
      have hbefore := lt_of_le_of_lt h.forward hclock
      have hstored := hv.backed j k x hx hbefore
      rcases h.keeps k x hstored hclock with hkept | ⟨hown, -⟩
      · exact hkept
      · exact absurd (hv.once j i k ⟨x, hx, hbefore⟩ ⟨x, hown, hbefore⟩) hji
  · rcases h.holds hj with hold | ⟨rfl, hexpired⟩
    · rcases h.holds hj' with hold' | ⟨rfl, hexpired⟩
      · exact hv.once j j' k hold hold'
      · exact hfresh j k hj hexpired
    · exact (hfresh j' k hj' hexpired).symm

end Leases
