import Ekaette.Lib.PyValue

set_option autoImplicit false

/-! # Merged maps

Maps are equal when they have the same keys with equal values, in whatever order. A map that is
merged into a stored one replaces it exactly if it has every key that the stored one has, and so on
in the maps inside. -/

namespace PyValue

/-! ## Equality -/

/-- `v == w` of values as JSON has them: the order of keys does not matter. -/
inductive Same : PyValue → PyValue → Prop where
  | none : Same .none .none
  | bool (b : Bool) : Same (.bool b) (.bool b)
  | int (n : ℤ) : Same (.int n) (.int n)
  | float (x : PyFloat) : Same (.float x) (.float x)
  | str (s : String) : Same (.str s) (.str s)
  | list {xs ys : List PyValue} (hlength : xs.length = ys.length)
      (hitems : ∀ (i : ℕ) (v w : PyValue), xs[i]? = some v → ys[i]? = some w → Same v w) :
      Same (.list xs) (.list ys)
  | dict {es es' : List (String × PyValue)}
      (hkeys : ∀ key, es.lookup key = Option.none ↔ es'.lookup key = Option.none)
      (hvalues : ∀ key v w, es.lookup key = some v → es'.lookup key = some w → Same v w) :
      Same (.dict es) (.dict es')

mutual

theorem Same.refl : ∀ v : PyValue, Same v v
  | .none => .none
  | .bool b => .bool b
  | .int n => .int n
  | .float x => .float x
  | .str s => .str s
  | .list xs => .list rfl (fun i v w hv hw => by
      rw [hv] at hw
      rw [← Option.some_inj.1 hw]
      exact same_refl_items xs i v hv)
  | .dict es => .dict (fun _ => Iff.rfl) (fun key v w hv hw => by
      rw [hv] at hw
      rw [← Option.some_inj.1 hw]
      exact same_refl_entries es key v hv)

theorem same_refl_items : ∀ (xs : List PyValue) (i : ℕ) (v : PyValue), xs[i]? = some v → Same v v
  | [], _, _, h => by cases h
  | x :: _, 0, _, h => by
      rw [← Option.some_inj.1 h]
      exact Same.refl x
  | _ :: xs, i + 1, v, h => same_refl_items xs i v h

theorem same_refl_entries : ∀ (es : List (String × PyValue)) (key : String) (v : PyValue),
    es.lookup key = some v → Same v v
  | [], _, _, h => by cases h
  | (key', x) :: es, key, v, h => by
      by_cases hkey : key = key'
      · rw [hkey, List.lookup_cons_self] at h
        rw [← Option.some_inj.1 h]
        exact Same.refl x
      · rw [List.lookup_cons, beq_eq_false_iff_ne.2 hkey] at h
        exact same_refl_entries es key v h

end

@[simp] theorem same_str {s t : String} : Same (.str s) (.str t) ↔ s = t := by
  constructor
  · rintro ⟨⟩
    rfl
  · rintro rfl
    exact .str s

/-- **Maps with the same keys** are the same if the values are. -/
theorem same_dict_zip {es : List (String × PyValue × PyValue)} (hkeys : (es.map Prod.fst).Nodup) :
    Same (.dict (es.map (fun e => (e.1, e.2.1)))) (.dict (es.map (fun e => (e.1, e.2.2)))) ↔
      ∀ e ∈ es, Same e.2.1 e.2.2 := by
  have hlookup : ∀ (f : PyValue × PyValue → PyValue) (key : String),
      (es.map (fun e => (e.1, f e.2))).lookup key = (es.lookup key).map f := by
    intro f key
    clear hkeys
    induction es with
    | nil => rfl
    | cons e es ih =>
      rw [List.map_cons, List.lookup_cons, List.lookup_cons]
      cases key == e.1 with
      | true => rfl
      | false => exact ih
  have hfst := hlookup Prod.fst
  have hsnd := hlookup Prod.snd
  constructor
  · intro h e he
    have hfound : es.lookup e.1 = some e.2 := (Dict.lookup_eq_some_iff_mem hkeys e.1 e.2).2 he
    cases h with
    | dict _ hvalues =>
      refine hvalues e.1 _ _ ?_ ?_
      · rw [hfst, hfound, Option.map_some]
      · rw [hsnd, hfound, Option.map_some]
  · intro h
    refine .dict (fun key => ?_) (fun key v w hv hw => ?_)
    · rw [hfst, hsnd, Option.map_eq_none_iff, Option.map_eq_none_iff]
    · rw [hfst] at hv
      rw [hsnd] at hw
      obtain ⟨p, hp, rfl⟩ := Option.map_eq_some_iff.1 hv
      rw [hp, Option.map_some] at hw
      rw [← Option.some_inj.1 hw]
      exact h (key, p) ((Dict.lookup_eq_some_iff_mem hkeys key p).1 hp)

/-! ## Keys at any depth -/

/-- The key occurs in the value: in a map, or in what a map or a list holds. -/
inductive HasKey (key : String) : PyValue → Prop where
  | here {es : List (String × PyValue)} {v : PyValue} (h : (key, v) ∈ es) : HasKey key (.dict es)
  | inDict {es : List (String × PyValue)} {key' : String} {v : PyValue} (h : (key', v) ∈ es)
      (hv : HasKey key v) : HasKey key (.dict es)
  | inList {xs : List PyValue} {v : PyValue} (h : v ∈ xs) (hv : HasKey key v) :
    HasKey key (.list xs)

theorem HasKey.cons {key : String} {es : List (String × PyValue)} (h : HasKey key (.dict es))
    (e : String × PyValue) : HasKey key (.dict (e :: es)) := by
  cases h with
  | here h => exact .here (List.mem_cons_of_mem e h)
  | inDict h hv => exact .inDict (List.mem_cons_of_mem e h) hv

theorem hasKey_record_iff {key : String} (r : Record) :
    HasKey key (.dict r.entries) ↔ ∃ key' v, r.get? key' = some v ∧
    (key' = key ∨ HasKey key v) := by
  constructor
  · intro h
    cases h with
    | here h => exact ⟨_, _, (r.get?_eq_some_iff _ _).2 h, .inl rfl⟩
    | inDict h hv => exact ⟨_, _, (r.get?_eq_some_iff _ _).2 h, .inr hv⟩
  · rintro ⟨key', v, hget, rfl | hv⟩
    · exact .here ((r.get?_eq_some_iff _ _).1 hget)
    · exact .inDict ((r.get?_eq_some_iff _ _).1 hget) hv

mutual

/-- No map has a key twice, in the maps inside either. -/
def DistinctKeys : PyValue → Prop
  | .dict es => (es.map Prod.fst).Nodup ∧ DistinctKeysIn es
  | _ => True

def DistinctKeysIn : List (String × PyValue) → Prop
  | [] => True
  | (_, v) :: es => DistinctKeys v ∧ DistinctKeysIn es

end

mutual

/-- Every key of the stored map is a key of the new one, in the maps inside as well; an empty map
    and what is no map replaces whatever is stored. -/
def Covers : PyValue → PyValue → Prop
  | .dict (e :: es), stored =>
    (∀ key, key ∈ ((stored.dict?).getD []).map Prod.fst → key ∈ (e :: es).map Prod.fst) ∧
      CoversEntries (e :: es) (Dict.ofList ((stored.dict?).getD []))
  | _, _ => True

def CoversEntries : List (String × PyValue) → Record → Prop
  | [], _ => True
  | (key, v) :: es, stored => Covers v (stored.value key) ∧ CoversEntries es stored

end

end PyValue

theorem Dict.mem_keys_ofList {κ ν : Type*} [DecidableEq κ] (l : List (κ × ν)) (key : κ) :
    ((Dict.ofList l).get? key).isSome = true ↔ key ∈ l.map Prod.fst := by
  have hfold : ∀ (l : List (κ × ν)) (d : Dict κ ν),
      ((l.foldl (fun acc e => acc.set e.1 e.2) d).get? key).isSome = true ↔
        (d.get? key).isSome = true ∨ key ∈ l.map Prod.fst := by
    intro l
    induction l with
    | nil => exact fun d => (or_iff_left List.not_mem_nil).symm
    | cons e l ih =>
      intro d
      rw [List.foldl_cons, ih, Dict.get?_set, List.map_cons, List.mem_cons]
      by_cases hkey : key = e.1
      · rw [if_pos hkey]
        exact ⟨fun _ => Or.inr (Or.inl hkey), fun _ => Or.inl rfl⟩
      · rw [if_neg hkey, ← or_assoc, or_right_comm, or_iff_left hkey]
  refine (hfold l Dict.empty).trans (or_iff_right ?_)
  rw [Dict.get?_empty]
  exact Bool.false_ne_true

theorem Dict.mem_of_get?_ofList {κ ν : Type*} [DecidableEq κ] {l : List (κ × ν)} {key : κ} {v : ν}
    (h : (Dict.ofList l).get? key = some v) : (key, v) ∈ l := by
  rw [Dict.ofList, Dict.get?_foldl_set_last Prod.fst Prod.snd, Dict.get?_empty, Option.or_none] at h
  obtain ⟨e, hlast, rfl⟩ := Option.map_eq_some_iff.1 h
  obtain ⟨hmem, hkey⟩ := List.mem_filter.1 (List.mem_of_getLast? hlast)
  rw [← of_decide_eq_true hkey]
  exact hmem

namespace PyValue

/-! ## Merging -/

/-- What is no map, or an empty one, covers everything. -/
theorem covers_of_not_cons {v : PyValue} (h : ∀ e es, v ≠ .dict (e :: es)) (stored : PyValue) :
    Covers v stored := by
  rw [Covers]
  · exact trivial
  · exact h

/-- It replaces what it is merged into. -/
theorem same_mergeValue_of_not_cons {v : PyValue} (h : ∀ e es, v ≠ .dict (e :: es))
    (stored : PyValue) : Same (mergeValue v stored) v ↔ Covers v stored := by
  refine iff_of_true ?_ (covers_of_not_cons h stored)
  rw [mergeValue]
  · exact Same.refl v
  · exact h

/-- The empty map has no entry. -/
theorem dict_nil_ne_cons (e : String × PyValue) (es : List (String × PyValue)) :
    PyValue.dict [] ≠ .dict (e :: es) := fun h => List.cons_ne_nil e es (PyValue.dict.inj h).symm

/-- The entries of a merged map. -/
theorem mergeValue_dict_cons (e : String × PyValue) (es : List (String × PyValue))
    (stored : PyValue) : mergeValue (.dict (e :: es)) stored =
      .dict (mergeEntries (e :: es) (Dict.ofList ((stored.dict?).getD []))).entries := by
  rw [mergeValue]

mutual

/-- **Merging replaces** the stored map exactly if the new one covers it. -/
theorem same_mergeValue_iff : ∀ v stored : PyValue, DistinctKeys v →
    (Same (mergeValue v stored) v ↔ Covers v stored)
  | .dict [], stored, _ => same_mergeValue_of_not_cons dict_nil_ne_cons stored
  | .dict (e :: es), stored, h => by
      rw [DistinctKeys] at h
      rw [mergeValue_dict_cons, Covers, ← sameEntries_iff (e :: es) _ h.2]
      have hget := get?_mergeEntries h.1 (Dict.ofList ((stored.dict?).getD []))
      constructor
      · rintro ⟨⟩
        rename_i hkeys hvalues
        refine ⟨fun key hkey => ?_, fun key v hv => ?_⟩
        · by_contra hnot
          have hnone : (e :: es).lookup key = Option.none := by
            by_contra hne
            obtain ⟨w, hw⟩ := Option.ne_none_iff_exists'.1 hne
            exact hnot (List.mem_map.2 ⟨(key, w), (Dict.lookup_eq_some_iff_mem h.1 key w).1 hw,
              rfl⟩)
          have hmerged : (mergeEntries (e :: es) (Dict.ofList ((stored.dict?).getD []))).get? key =
              Option.none := (hkeys key).2 hnone
          rw [hget, hnone] at hmerged
          have hsome := (Dict.mem_keys_ofList _ key).2 hkey
          rw [show (Dict.ofList ((stored.dict?).getD [])).get? key = Option.none from hmerged]
            at hsome
          cases hsome
        · have hlookup := (Dict.lookup_eq_some_iff_mem h.1 key v).2 hv
          refine hvalues key _ v ?_ hlookup
          show (mergeEntries (e :: es) _).get? key = _
          rw [hget, hlookup]
      · rintro ⟨hkeys, hvalues⟩
        refine .dict (fun key => ?_) (fun key v w hv hw => ?_)
        · show (mergeEntries (e :: es) _).get? key = Option.none ↔ _
          rw [hget]
          cases hlookup : (e :: es).lookup key with
          | some v => exact iff_of_false (Option.some_ne_none _) (Option.some_ne_none _)
          | none =>
            refine iff_of_true ?_ rfl
            by_contra hne
            have hmem :=
              hkeys key ((Dict.mem_keys_ofList _ key).1 (Option.isSome_iff_ne_none.2 hne))
            obtain ⟨⟨k, v⟩, hkv, rfl⟩ := List.mem_map.1 hmem
            rw [(Dict.lookup_eq_some_iff_mem h.1 k v).2 hkv] at hlookup
            cases hlookup
        · replace hv : (mergeEntries (e :: es) (Dict.ofList ((stored.dict?).getD []))).get? key =
            some v := hv
          rw [hget, hw] at hv
          rw [← Option.some_inj.1 hv]
          exact hvalues key w ((Dict.lookup_eq_some_iff_mem h.1 key w).1 hw)
  | .none, _, _ => same_mergeValue_of_not_cons (fun _ _ => PyValue.noConfusion) _
  | .bool b, _, _ => same_mergeValue_of_not_cons (fun _ _ => PyValue.noConfusion) _
  | .int n, _, _ => same_mergeValue_of_not_cons (fun _ _ => PyValue.noConfusion) _
  | .float x, _, _ => same_mergeValue_of_not_cons (fun _ _ => PyValue.noConfusion) _
  | .str s, _, _ => same_mergeValue_of_not_cons (fun _ _ => PyValue.noConfusion) _
  | .list xs, _, _ => same_mergeValue_of_not_cons (fun _ _ => PyValue.noConfusion) _

theorem sameEntries_iff : ∀ (es : List (String × PyValue)) (stored : Record), DistinctKeysIn es →
    ((∀ key v, (key, v) ∈ es → Same (mergeValue v (stored.value key)) v) ↔ CoversEntries es stored)
  | [], _, _ => ⟨fun _ => by rw [CoversEntries]; exact trivial, fun _ key v hv => by cases hv⟩
  | (key, v) :: es, stored, h => by
      rw [DistinctKeysIn] at h
      rw [CoversEntries, ← same_mergeValue_iff v (stored.value key) h.1,
        ← sameEntries_iff es stored h.2]
      constructor
      · intro hall
        exact ⟨hall key v List.mem_cons_self, fun k w hw => hall k w (List.mem_cons_of_mem _ hw)⟩
      · rintro ⟨hhead, htail⟩ k w hw
        rcases List.mem_cons.1 hw with heq | hw
        · obtain ⟨rfl, rfl⟩ := Prod.mk.inj heq
          exact hhead
        · exact htail k w hw

end

mutual

/-- **Merging brings in no key**: every one comes from the new value or from the stored one. -/
theorem hasKey_mergeValue {key : String} : ∀ v stored : PyValue, HasKey key (mergeValue v stored) →
    HasKey key v ∨ HasKey key stored
  | .dict [], _, h => .inl h
  | .dict (e :: es), stored, h => by
      rw [mergeValue_dict_cons] at h
      rcases hasKey_mergeEntries (e :: es) _ h with h | h
      · exact .inl h
      · obtain ⟨key', v, hget, hkey⟩ := (hasKey_record_iff _).1 h
        have hmem := Dict.mem_of_get?_ofList hget
        right
        cases stored with
        | dict entries =>
          rcases hkey with rfl | hv
          · exact .here hmem
          · exact .inDict hmem hv
        | _ => cases hmem
  | .none, _, h => .inl h
  | .bool _, _, h => .inl h
  | .int _, _, h => .inl h
  | .float _, _, h => .inl h
  | .str _, _, h => .inl h
  | .list _, _, h => .inl h

theorem hasKey_mergeEntries {key : String} : ∀ (es : List (String × PyValue)) (stored : Record),
    HasKey key (.dict (mergeEntries es stored).entries) →
      HasKey key (.dict es) ∨ HasKey key (.dict stored.entries)
  | [], _, h => .inr h
  | (key', v) :: es, stored, h => by
      rw [mergeEntries] at h
      rcases hasKey_mergeEntries es _ h with h | h
      · exact .inl (h.cons _)
      obtain ⟨k, w, hget, hkey⟩ := (hasKey_record_iff _).1 h
      rw [Dict.get?_set] at hget
      by_cases hk : k = key'
      · rw [if_pos hk] at hget
        subst hk
        rcases hkey with rfl | hw
        · exact .inl (.here List.mem_cons_self)
        rw [← Option.some_inj.1 hget] at hw
        rcases hasKey_mergeValue v _ hw with hv | hstored
        · exact .inl (.inDict List.mem_cons_self hv)
        · right
          rw [Record.value] at hstored
          cases hfound : stored.get? k with
          | none => rw [hfound] at hstored; cases hstored
          | some u =>
            rw [hfound] at hstored
            exact (hasKey_record_iff stored).2 ⟨k, u, hfound, .inr hstored⟩
      · rw [if_neg hk] at hget
        exact .inr ((hasKey_record_iff stored).2 ⟨k, w, hget, hkey⟩)

end

mutual

theorem covers_self : ∀ v : PyValue, DistinctKeys v → Covers v v
  | .dict [], _ => covers_of_not_cons dict_nil_ne_cons _
  | .dict (e :: es), h => by
      rw [DistinctKeys] at h
      rw [Covers]
      refine ⟨fun _ hkey => hkey, coversEntries_self (e :: es) _ h.2 (fun key v hv => ?_)⟩
      have hentries := Dict.entries_ofList (e :: es) h.1
      rw [Record.value]
      show ((Dict.ofList (e :: es)).get? key).getD .none = v
      rw [Dict.get?, hentries, (Dict.lookup_eq_some_iff_mem h.1 key v).2 hv, Option.getD_some]
  | .none, _ => covers_of_not_cons (fun _ _ => PyValue.noConfusion) _
  | .bool b, _ => covers_of_not_cons (fun _ _ => PyValue.noConfusion) _
  | .int n, _ => covers_of_not_cons (fun _ _ => PyValue.noConfusion) _
  | .float x, _ => covers_of_not_cons (fun _ _ => PyValue.noConfusion) _
  | .str s, _ => covers_of_not_cons (fun _ _ => PyValue.noConfusion) _
  | .list xs, _ => covers_of_not_cons (fun _ _ => PyValue.noConfusion) _

theorem coversEntries_self : ∀ (es : List (String × PyValue)) (stored : Record), DistinctKeysIn es →
    (∀ key v, (key, v) ∈ es → stored.value key = v) → CoversEntries es stored
  | [], _, _, _ => by rw [CoversEntries]; exact trivial
  | (key, v) :: es, stored, h, hstored => by
      rw [DistinctKeysIn] at h
      rw [CoversEntries]
      refine ⟨?_, coversEntries_self es stored h.2 (fun k w hw =>
        hstored k w (List.mem_cons_of_mem _ hw))⟩
      rw [hstored key v List.mem_cons_self]
      exact covers_self v h.1

end

end PyValue
