import Ekaette.Lib.Dict

set_option autoImplicit false

/-! # Owned rows and an index into them

A table whose rows each belong to an owner, and an index that files keys of rows under the owner
they belong to. A write on behalf of an owner touches rows of that owner only, and an index entry
points to a row of the owner it is filed under. -/

namespace OwnedTable

universe u v w x

variable {κ : Type u} {α : Type v} {σ : Type w} {ι : Type x} [DecidableEq κ] [DecidableEq ι]

/-- The rows of all other owners are the same before and after. -/
def OnlyRowsOf (owner : α → σ) (o : σ) (before after : Dict κ α) : Prop :=
  ∀ k a, owner a ≠ o → (after.get? k = some a ↔ before.get? k = some a)

/-- Every entry of the index points to a row of the owner it is filed under. -/
def IndexSound (owner : α → σ) (filed : ι → σ) (index : Dict ι κ) (table : Dict κ α) : Prop :=
  ∀ i k, index.get? i = some k → ∃ a, table.get? k = some a ∧ owner a = filed i

variable {owner : α → σ} {filed : ι → σ} {o : σ} {table : Dict κ α} {index index' : Dict ι κ}
  {k : κ} {a : α}

theorem onlyRowsOf_refl (owner : α → σ) (o : σ) (table : Dict κ α) :
    OnlyRowsOf owner o table table :=
  fun _ _ _ => Iff.rfl

theorem onlyRowsOf_set (ha : owner a = o) (hheld : ∀ old, table.get? k = some old → owner old = o) :
    OnlyRowsOf owner o table (table.set k a) := by
  intro k' b hb
  by_cases hk : k' = k
  · subst hk
    rw [Dict.get?_set_self]
    constructor
    · intro hab
      rw [← Option.some.inj hab] at hb
      exact absurd ha hb
    · intro hold
      exact absurd (hheld b hold) hb
  · rw [Dict.get?_set_of_ne _ _ hk]

theorem indexSound_empty (owner : α → σ) (filed : ι → σ) (table : Dict κ α) :
    IndexSound owner filed (.empty : Dict ι κ) table := by
  intro i k hi
  rw [Dict.get?_empty] at hi
  cases hi

theorem IndexSound.set (h : IndexSound owner filed index table) (ha : owner a = o)
    (hheld : ∀ old, table.get? k = some old → owner old = o) :
    IndexSound owner filed index (table.set k a) := by
  intro i k' hi
  obtain ⟨b, hget, hfiled⟩ := h i k' hi
  by_cases hk : k' = k
  · subst hk
    refine ⟨a, Dict.get?_set_self _ _ _, ?_⟩
    rw [ha, ← hheld b hget, hfiled]
  · refine ⟨b, ?_, hfiled⟩
    rw [Dict.get?_set_of_ne _ _ hk, hget]

/-- So does filing a row under its owner. -/
theorem IndexSound.extend (h : IndexSound owner filed index table) (hrow : table.get? k = some a)
    (hentries : ∀ i k', index'.get? i = some k' → index.get? i = some k' ∨
      (k' = k ∧ filed i = owner a)) :
    IndexSound owner filed index' table := by
  intro i k' hi
  rcases hentries i k' hi with hold | ⟨rfl, hfiled⟩
  · exact h i k' hold
  · exact ⟨a, hrow, hfiled.symm⟩

/-- **Storing a row** under a key, filed under its owner or not at all, keeps the index sound
    exactly if whatever is filed under other owners does not point to the key. -/
theorem IndexSound.store_iff (h : IndexSound owner filed index table)
    (hentries : ∀ i k', index'.get? i = some k' → index.get? i = some k' ∨
      (k' = k ∧ filed i = owner a))
    (hkept : ∀ i, index.get? i = some k → index'.get? i = some k) :
    IndexSound owner filed index' (table.set k a) ↔ ∀ i, index.get? i = some k →
    filed i = owner a := by
  constructor
  · intro hafter i hi
    obtain ⟨b, hget, hfiled⟩ := hafter i k (hkept i hi)
    rw [Dict.get?_set_self, Option.some.injEq] at hget
    rw [hget, hfiled]
  · intro hothers i k' hi
    by_cases hk : k' = k
    · subst hk
      refine ⟨a, Dict.get?_set_self _ _ _, ?_⟩
      rcases hentries i k' hi with hold | ⟨-, hfiled⟩
      · exact (hothers i hold).symm
      · exact hfiled.symm
    · rcases hentries i k' hi with hold | ⟨hsame, -⟩
      · obtain ⟨b, hget, hfiled⟩ := h i k' hold
        exact ⟨b, by rw [Dict.get?_set_of_ne _ _ hk, hget], hfiled⟩
      · exact absurd hsame hk

end OwnedTable
