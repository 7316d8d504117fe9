import Ekaette.Configs.RegistryLoader

set_option autoImplicit false

/-! # Capability overrides as sets

The company's document adds capabilities to those of its template and removes some. The list is
edited in place: an added capability is appended once, and an entry of the remove list removes one
occurrence. -/

namespace Ekaette

/-- A list of the company's overrides. -/
def overrideList (company : Record) (key : String) : List String :=
  (((company.value "capability_overrides").dict?).map fun overrides =>
    listOfStrings (PyValue.lookupD overrides key)).getD []

/-- The capabilities of a template, trimmed. -/
def templateCapabilities (template : Record) : List String :=
  listOfStrings (template.value "capabilities")

/-- **Set algebra**: the capabilities of the template and of the add list, without those of the
    remove list. -/
structure SetAlgebra (template company : Record) : Prop where
  mem : ∀ cap, cap ∈ resolveCapabilities template company ↔
    (cap ∈ templateCapabilities template ∨ cap ∈ overrideList company "add") ∧
    cap ∉ overrideList company "remove"
  nodup : (resolveCapabilities template company).Nodup

variable (template company : Record)

theorem resolveCapabilities_eq :
    resolveCapabilities template company =
      (overrideList company "remove").foldl List.erase ((overrideList company "add").foldl
        (fun base cap => if cap ∈ base then base else base ++ [cap])
        (templateCapabilities template)) := by
  unfold resolveCapabilities overrideList
  cases (company.value "capability_overrides").dict? with
  | none => rfl
  | some overrides => rfl

/-- What is added occurs once where it did not occur. -/
theorem count_foldl_add (cap : String) (added base : List String) :
    (added.foldl (fun base cap => if cap ∈ base then base else base ++ [cap]) base).count cap =
      max (base.count cap) (if cap ∈ added then 1 else 0) := by
  induction added generalizing base with
  | nil => simp
  | cons a added ih =>
    rw [List.foldl_cons, ih]
    by_cases hcap : cap = a
    · subst hcap
      rw [if_pos List.mem_cons_self]
      split_ifs with hbase hadded hadded
      · rfl
      · have hpos := List.one_le_count_iff.2 hbase
        omega
      · rw [List.count_append, List.count_eq_zero.2 hbase, List.count_singleton_self]
        rfl
      · rw [List.count_append, List.count_eq_zero.2 hbase, List.count_singleton_self]
        rfl
    · have hmem : cap ∈ a :: added ↔ cap ∈ added := by simp [hcap]
      have hcount : (if a ∈ base then base else base ++ [a]).count cap = base.count cap := by
        split_ifs
        · rfl
        · rw [List.count_append, List.count_singleton, if_neg (by simpa using Ne.symm hcap),
            Nat.add_zero]
      rw [hcount]
      simp only [hmem]

/-- Each removal takes one occurrence. -/
theorem count_foldl_erase (cap : String) (removed base : List String) :
    (removed.foldl List.erase base).count cap = base.count cap - removed.count cap := by
  induction removed generalizing base with
  | nil => rfl
  | cons r removed ih =>
    rw [List.foldl_cons, ih, List.count_erase, List.count_cons]
    omega

theorem count_resolveCapabilities (cap : String) :
    (resolveCapabilities template company).count cap =
      max ((templateCapabilities template).count cap)
      (if cap ∈ overrideList company "add" then 1 else 0) -
        (overrideList company "remove").count cap := by
  rw [resolveCapabilities_eq, count_foldl_erase, count_foldl_add]

/-- **Capability resolution is set algebra** exactly if the template repeats no capability, or no
    more often than the remove list does. -/
theorem setAlgebra_iff :
    SetAlgebra template company ↔ ∀ cap, (templateCapabilities template).count cap ≤
      max 1 ((overrideList company "remove").count cap) := by
  constructor
  · intro h cap
    have hcount := count_resolveCapabilities template company cap
    have honce := List.nodup_iff_count_le_one.1 h.nodup cap
    by_cases hremoved : cap ∈ overrideList company "remove"
    · have hnone : cap ∉ resolveCapabilities template company :=
        fun hmem => ((h.mem cap).1 hmem).2 hremoved
      rw [List.count_eq_zero.2 hnone] at hcount
      omega
    · rw [List.count_eq_zero.2 hremoved] at hcount ⊢
      omega
  · intro h
    refine ⟨fun cap => ?_, List.nodup_iff_count_le_one.2 fun cap => ?_⟩
    · have hcap := h cap
      rw [← List.count_pos_iff, count_resolveCapabilities,
        ← List.count_pos_iff (l := templateCapabilities template),
        ← List.count_eq_zero (l := overrideList company "remove")]
      split_ifs with hadded
      · simp only [hadded, or_true, true_and]
        omega
      · simp only [hadded, or_false]
        omega
    · have hcap := h cap
      rw [count_resolveCapabilities]
      split_ifs
      · omega
      · omega

/-- A capability that the template lists twice stays after it is removed. -/
theorem setAlgebra_repeated :
    ¬ SetAlgebra
    (.ofList [("capabilities", .list [.str "booking_reservations", .str " booking_reservations "])])
      (.ofList [("capability_overrides",
        .dict [("remove", .list [.str "booking_reservations"])])]) := by
  intro h
  have hresolved : "booking_reservations" ∈ resolveCapabilities
      (.ofList [("capabilities",
        .list [.str "booking_reservations", .str " booking_reservations "])])
      (.ofList [("capability_overrides",
        .dict [("remove", .list [.str "booking_reservations"])])]) := by
    decide +kernel
  exact ((h.mem _).1 hresolved).2 (by decide +kernel)

end Ekaette
