import Mathlib.Data.List.Induction
import Mathlib.Data.List.Nodup

set_option autoImplicit false

/-! # Insertion-ordered dictionaries

A `Dict` is a list of key/value pairs with distinct keys, in the order in which the keys were first
inserted: assigning to a present key keeps its position, assigning to an absent one appends. This is
the dictionary of languages whose maps iterate in insertion order, so "the oldest entry" and "the
first of equal entries" mean here what they mean there. -/

universe u v

/-- A finite map that remembers the order in which its keys were inserted. -/
@[ext] structure Dict (κ : Type u) (ν : Type v) where
  entries : List (κ × ν)
  nodup : (entries.map Prod.fst).Nodup

namespace Dict

variable {κ : Type u} {ν : Type v}

/-- The dictionary without entries. -/
def empty : Dict κ ν := ⟨[], List.nodup_nil⟩

/-- The keys, oldest first. -/
def keys (d : Dict κ ν) : List κ := d.entries.map Prod.fst

def size (d : Dict κ ν) : ℕ := d.entries.length

/-- Keep the entries that satisfy `p`, in order. -/
def filter (d : Dict κ ν) (p : κ → ν → Bool) : Dict κ ν :=
  ⟨d.entries.filter (fun e => p e.1 e.2), d.nodup.sublist (List.filter_sublist.map Prod.fst)⟩

/-- Drop the `n` oldest entries. -/
def dropOldest (d : Dict κ ν) (n : ℕ) : Dict κ ν :=
  ⟨d.entries.drop n, d.nodup.sublist ((List.drop_sublist n d.entries).map Prod.fst)⟩

theorem keys_dropOldest (d : Dict κ ν) (n : ℕ) : (d.dropOldest n).keys = d.keys.drop n :=
  List.map_drop

theorem entries_dropOldest (d : Dict κ ν) (n : ℕ) : (d.dropOldest n).entries = d.entries.drop n :=
  rfl

variable [DecidableEq κ]

def get? (d : Dict κ ν) (k : κ) : Option ν := d.entries.lookup k

/-- The value of `k`, or `v` when `k` is absent. -/
def getD (d : Dict κ ν) (k : κ) (v : ν) : ν := (d.get? k).getD v

def contains (d : Dict κ ν) (k : κ) : Bool := (d.get? k).isSome

/-- Replace the value of `k` in a list of entries. -/
def replaceValue (k : κ) (v : ν) (l : List (κ × ν)) : List (κ × ν) :=
  l.map (fun e => if e.1 = k then (k, v) else e)

theorem replaceValue_keys (k : κ) (v : ν) (l : List (κ × ν)) :
    (replaceValue k v l).map Prod.fst = l.map Prod.fst := by
  rw [replaceValue, List.map_map]
  apply List.map_congr_left
  intro e _
  by_cases h : e.1 = k
  · simp [h]
  · simp [h]

/-- `d[k] = v`: overwrite in place, or append. -/
def set (d : Dict κ ν) (k : κ) (v : ν) : Dict κ ν :=
  if h : k ∈ d.keys then ⟨replaceValue k v d.entries, by rw [replaceValue_keys]; exact d.nodup⟩
  else ⟨d.entries ++ [(k, v)], by
    rw [List.map_append]
    exact d.nodup.append (List.nodup_singleton k) (List.disjoint_singleton.2 h)⟩

/-- `d.setdefault(k, v)`. -/
def setDefault (d : Dict κ ν) (k : κ) (v : ν) : Dict κ ν :=
  if d.contains k then d else d.set k v

/-- `d.pop(k, None)`. -/
def erase (d : Dict κ ν) (k : κ) : Dict κ ν := d.filter (fun k' _ => k' ≠ k)

/-- `for k in ks: del d[k]`. -/
def eraseAll (d : Dict κ ν) (ks : List κ) : Dict κ ν := ks.foldl erase d

/-- `{**d, **u}`: the entries of `u` assigned one after the other. -/
def merge (d u : Dict κ ν) : Dict κ ν := u.entries.foldl (fun acc e => acc.set e.1 e.2) d

/-- A dictionary display: later entries overwrite earlier ones with the same key. -/
def ofList (l : List (κ × ν)) : Dict κ ν := l.foldl (fun acc e => acc.set e.1 e.2) empty

/-! ## Lookup after each operation -/

@[simp] theorem get?_empty (k : κ) : (empty : Dict κ ν).get? k = none := rfl

theorem mem_keys_iff (d : Dict κ ν) (k : κ) : k ∈ d.keys ↔ (d.get? k).isSome := by
  rw [get?, List.lookup_isSome_iff, keys, List.mem_map]
  constructor
  · rintro ⟨e, he, rfl⟩
    exact ⟨e, he, by simp⟩
  · rintro ⟨e, he, hk⟩
    exact ⟨e, he, (by simpa using hk : k = e.1).symm⟩

theorem get?_eq_none_iff (d : Dict κ ν) (k : κ) : d.get? k = none ↔ k ∉ d.keys := by
  rw [mem_keys_iff, Option.isSome_iff_ne_none, not_not]

theorem lookup_eq_some_iff_mem {l : List (κ × ν)} (hl : (l.map Prod.fst).Nodup) (k : κ) (v : ν) :
    l.lookup k = some v ↔ (k, v) ∈ l := by
  induction l with
  | nil => simp
  | cons e l ih =>
    obtain ⟨k', v'⟩ := e
    rw [List.map_cons, List.nodup_cons] at hl
    by_cases hk : k = k'
    · subst hk
      have hnot : (k, v) ∉ l := fun h => hl.1 (List.mem_map.2 ⟨(k, v), h, rfl⟩)
      simp [hnot, eq_comm]
    · have hbeq : (k == k') = false := by simpa using hk
      simp [List.lookup_cons, hbeq, ih hl.2, hk]

theorem get?_eq_some_iff (d : Dict κ ν) (k : κ) (v : ν) :
    d.get? k = some v ↔ (k, v) ∈ d.entries :=
  lookup_eq_some_iff_mem d.nodup k v

theorem lookup_replaceValue (k : κ) (v : ν) (l : List (κ × ν)) (k' : κ) :
    (replaceValue k v l).lookup k'
      = if k' = k then (l.lookup k).map (fun _ => v) else l.lookup k' := by
  induction l with
  | nil => simp [replaceValue]
  | cons e l ih =>
    obtain ⟨a, b⟩ := e
    rw [replaceValue, List.map_cons, ← replaceValue]
    by_cases ha : a = k
    · subst ha
      by_cases hk : k' = a
      · subst hk; simp
      · have hbeq : (k' == a) = false := by simpa using hk
        simp [List.lookup_cons, hbeq, ih, hk]
    · have hka : (k == a) = false := by simpa using fun h : k = a => ha h.symm
      by_cases hk : k' = k
      · subst hk
        simp [List.lookup_cons, ha, hka, ih]
      · rw [if_neg ha, if_neg hk, List.lookup_cons, List.lookup_cons, ih, if_neg hk]

@[simp] theorem get?_set (d : Dict κ ν) (k k' : κ) (v : ν) :
    (d.set k v).get? k' = if k' = k then some v else d.get? k' := by
  unfold set
  split
  · next hk =>
      obtain ⟨w, hw⟩ := Option.isSome_iff_exists.1 ((d.mem_keys_iff k).1 hk)
      rw [get?] at hw
      simp only [get?, lookup_replaceValue, hw, Option.map_some]
  · next hk =>
      have hnone : d.entries.lookup k = none := (d.get?_eq_none_iff k).2 hk
      simp only [get?, List.lookup_append]
      by_cases hkk : k' = k
      · subst hkk; simp [hnone]
      · have hbeq : (k' == k) = false := by simpa using hkk
        simp [List.lookup_cons, hbeq, hkk]

theorem get?_set_self (d : Dict κ ν) (k : κ) (v : ν) : (d.set k v).get? k = some v := by simp

/-- An assignment touches no entry of another key. -/
theorem filter_entries_set (d : Dict κ ν) (k : κ) (v : ν) :
    (d.set k v).entries.filter (fun e => e.1 ≠ k) = d.entries.filter (fun e => e.1 ≠ k) := by
  have hreplace : ∀ l : List (κ × ν),
      (replaceValue k v l).filter (fun e => e.1 ≠ k) = l.filter (fun e => e.1 ≠ k) := by
    intro l
    induction l with
    | nil => rfl
    | cons e l ih =>
      rw [replaceValue] at ih ⊢
      rw [List.map_cons, List.filter_cons, List.filter_cons, ih]
      by_cases he : e.1 = k <;> simp [he]
  rw [set]
  split
  · exact hreplace d.entries
  · simp [List.filter_append]

theorem get?_set_of_ne (d : Dict κ ν) {k k' : κ} (v : ν) (h : k' ≠ k) :
    (d.set k v).get? k' = d.get? k' := by simp [h]

@[simp] theorem get?_filter (d : Dict κ ν) (p : κ → ν → Bool) (k : κ) :
    (d.filter p).get? k = (d.get? k).filter (p k) := by
  cases hk : d.get? k with
  | none =>
    rw [Option.filter_none, get?_eq_none_iff]
    intro hmem
    obtain ⟨e, he, rfl⟩ := List.mem_map.1 hmem
    have : e.1 ∈ d.keys := List.mem_map.2 ⟨e, List.mem_of_mem_filter he, rfl⟩
    exact (d.get?_eq_none_iff e.1).1 hk this
  | some v =>
    have hmem : (k, v) ∈ d.entries := (d.get?_eq_some_iff k v).1 hk
    by_cases hp : p k v = true
    · rw [Option.filter_some_pos hp, get?_eq_some_iff]
      exact List.mem_filter.2 ⟨hmem, hp⟩
    · rw [Option.filter_some_neg (by simpa using hp), get?_eq_none_iff]
      intro hk'
      obtain ⟨e, he, rfl⟩ := List.mem_map.1 hk'
      obtain ⟨he, hpe⟩ := List.mem_filter.1 he
      have hev : e.2 = v := by
        have := (d.get?_eq_some_iff e.1 e.2).2 he
        rw [hk] at this
        exact (Option.some.inj this).symm
      exact hp (hev ▸ hpe)

@[simp] theorem get?_erase (d : Dict κ ν) (k k' : κ) :
    (d.erase k).get? k' = if k' = k then none else d.get? k' := by
  rw [erase, get?_filter]
  by_cases h : k' = k
  · subst h
    cases d.get? k' <;> simp
  · cases d.get? k' <;> simp [h]

/-- What the newest entries hold, the dictionary holds. -/
theorem get?_of_dropOldest {d : Dict κ ν} {n : ℕ} {k : κ} {v : ν}
    (h : (d.dropOldest n).get? k = some v) : d.get? k = some v := by
  rw [get?_eq_some_iff, entries_dropOldest] at h
  exact (d.get?_eq_some_iff k v).2 (List.mem_of_mem_drop h)

@[simp] theorem get?_eraseAll (d : Dict κ ν) (ks : List κ) (k : κ) :
    (d.eraseAll ks).get? k = if k ∈ ks then none else d.get? k := by
  induction ks generalizing d with
  | nil => simp [eraseAll]
  | cons a ks ih =>
    rw [eraseAll, List.foldl_cons, ← eraseAll, ih, get?_erase]
    by_cases h : k = a
    · simp [h]
    · simp [h]

theorem get?_setDefault (d : Dict κ ν) (k k' : κ) (v : ν) :
    (d.setDefault k v).get? k' = if k' = k then some ((d.get? k).getD v) else d.get? k' := by
  unfold setDefault contains
  cases hk : d.get? k with
  | none => simp
  | some w =>
    by_cases h : k' = k
    · subst h; simp [hk]
    · simp [h]

theorem get?_foldl_set (l : List (κ × ν)) (hl : (l.map Prod.fst).Nodup) (d : Dict κ ν) (k : κ) :
    (l.foldl (fun acc e => acc.set e.1 e.2) d).get? k = (l.lookup k).or (d.get? k) := by
  induction l generalizing d with
  | nil => simp
  | cons e l ih =>
    obtain ⟨a, b⟩ := e
    rw [List.map_cons, List.nodup_cons] at hl
    rw [List.foldl_cons, ih hl.2]
    by_cases h : k = a
    · subst h
      have hnone : l.lookup k = none := by
        rw [List.lookup_eq_none_iff]
        intro p hp
        simpa using fun h : k = p.1 => hl.1 (List.mem_map.2 ⟨p, hp, h.symm⟩)
      simp [hnone]
    · have hbeq : (k == a) = false := by simpa using h
      simp [List.lookup_cons, hbeq, h]

theorem get?_foldl_set_last {α : Type*} (key : α → κ) (value : α → ν) (l : List α) (d : Dict κ ν)
    (k : κ) : (l.foldl (fun acc a => acc.set (key a) (value a)) d).get? k =
      ((l.filter (fun a => key a = k)).getLast?.map value).or (d.get? k) := by
  induction l using List.reverseRecOn with
  | nil => rfl
  | append_singleton l a ih =>
    rw [List.foldl_append, List.foldl_cons, List.foldl_nil, get?_set, List.filter_append]
    by_cases hk : k = key a
    · subst hk
      simp
    · have hne : ¬ key a = k := fun h => hk h.symm
      simp [hk, hne, ih]

/-- Assignments to other keys, made later, change nothing. -/
theorem get?_ofList_append {l l' : List (κ × ν)} {k : κ} (h : ∀ e ∈ l', e.1 ≠ k) :
    (ofList (l ++ l')).get? k = (ofList l).get? k := by
  have hnone : l'.filter (fun e => e.1 = k) = [] :=
    List.filter_eq_nil_iff.2 fun e he => by simpa using h e he
  rw [ofList, ofList, get?_foldl_set_last Prod.fst Prod.snd, get?_foldl_set_last Prod.fst Prod.snd,
    List.filter_append, hnone, List.append_nil]

@[simp] theorem get?_merge (d u : Dict κ ν) (k : κ) :
    (d.merge u).get? k = (u.get? k).or (d.get? k) :=
  get?_foldl_set u.entries u.nodup d k

/-- Assigning the entries of a list with distinct keys that a dictionary does not have appends
    them. -/
theorem entries_foldl_set (l : List (κ × ν)) (d : Dict κ ν)
    (hl : (d.entries ++ l).map Prod.fst |>.Nodup) :
    (l.foldl (fun acc e => acc.set e.1 e.2) d).entries = d.entries ++ l := by
  induction l generalizing d with
  | nil => simp
  | cons e l ih =>
    have hnew : e.1 ∉ d.keys := by
      rw [List.map_append, List.map_cons, List.nodup_append] at hl
      exact fun h => hl.2.2 e.1 h e.1 List.mem_cons_self rfl
    have hset : (d.set e.1 e.2).entries = d.entries ++ [e] := by rw [set, dif_neg hnew]
    rw [List.foldl_cons, ih, hset, List.append_assoc, List.singleton_append]
    rw [hset, List.append_assoc, List.singleton_append]
    exact hl

theorem entries_ofList (l : List (κ × ν)) (hl : (l.map Prod.fst).Nodup) :
    (ofList l).entries = l := by
  rw [ofList, entries_foldl_set l empty hl]
  rfl

theorem ofList_entries (d : Dict κ ν) : ofList d.entries = d := by
  ext1
  exact entries_ofList d.entries d.nodup

/-! ## Order and size -/

theorem entries_eraseAll (d : Dict κ ν) (ks : List κ) :
    (d.eraseAll ks).entries = d.entries.filter (fun e => e.1 ∉ ks) := by
  induction ks generalizing d with
  | nil => simp [eraseAll]
  | cons k ks ih =>
    rw [eraseAll, List.foldl_cons, ← eraseAll, ih, erase, filter, List.filter_filter]
    apply List.filter_congr
    intro e _
    simp [Bool.and_comm]

/-- Erasing the `n` oldest keys drops the `n` oldest entries. -/
theorem eraseAll_take_keys (d : Dict κ ν) (n : ℕ) :
    d.eraseAll ((d.entries.take n).map Prod.fst) = d.dropOldest n := by
  ext1
  rw [entries_eraseAll, dropOldest]
  have hnodup := d.nodup
  rw [← List.take_append_drop n d.entries, List.map_append, List.nodup_append] at hnodup
  have hfilter : (d.entries.take n ++ d.entries.drop n).filter
      (fun e => e.1 ∉ (d.entries.take n).map Prod.fst) = d.entries.drop n := by
    rw [List.filter_append, List.filter_eq_nil_iff.2, List.filter_eq_self.2, List.nil_append]
    · intro e he
      rw [decide_eq_true_eq]
      exact fun hmem => hnodup.2.2 _ hmem _ (List.mem_map_of_mem he) rfl
    · intro e he
      rw [decide_eq_true_eq, not_not]
      exact List.mem_map_of_mem he
  rwa [List.take_append_drop] at hfilter

theorem size_set_of_mem (d : Dict κ ν) {k : κ} (v : ν) (h : k ∈ d.keys) :
    (d.set k v).size = d.size := by
  simp [set, h, size, replaceValue]

theorem entries_set_of_not_mem (d : Dict κ ν) {k : κ} (v : ν) (h : k ∉ d.keys) :
    (d.set k v).entries = d.entries ++ [(k, v)] := by
  simp [set, h]

theorem size_set_of_not_mem (d : Dict κ ν) {k : κ} (v : ν) (h : k ∉ d.keys) :
    (d.set k v).size = d.size + 1 := by
  simp [size, entries_set_of_not_mem d v h]

theorem size_set_le (d : Dict κ ν) (k : κ) (v : ν) : (d.set k v).size ≤ d.size + 1 := by
  by_cases h : k ∈ d.keys
  · rw [size_set_of_mem d v h]
    exact Nat.le_succ _
  · exact Nat.le_of_eq (size_set_of_not_mem d v h)

omit [DecidableEq κ] in
theorem size_filter_le (d : Dict κ ν) (p : κ → ν → Bool) : (d.filter p).size ≤ d.size :=
  List.length_filter_le _ _

/-! ## Counting values -/

/-- How many values satisfy `p`. -/
def countValues (d : Dict κ ν) (p : ν → Bool) : ℕ := d.entries.countP (fun e => p e.2)

theorem countValues_set_of_not_mem (d : Dict κ ν) {k : κ} (v : ν) (p : ν → Bool) (h : k ∉ d.keys) :
    (d.set k v).countValues p = d.countValues p + if p v then 1 else 0 := by
  rw [countValues, entries_set_of_not_mem d v h, List.countP_append, List.countP_singleton]
  rfl

theorem countValues_set_le {d : Dict κ ν} {k : κ} {v w : ν} {p : ν → Bool} (h : d.get? k = some w)
    (hp : p v = true → p w = true) : (d.set k v).countValues p ≤ d.countValues p := by
  have hmem : k ∈ d.keys := (d.mem_keys_iff k).2 (by simp [h])
  simp only [countValues, set, dif_pos hmem, replaceValue, List.countP_map]
  refine List.countP_mono_left (fun e he hcount => ?_)
  by_cases hk : e.1 = k
  · have hw : e.2 = w := by
      have hget := (d.get?_eq_some_iff e.1 e.2).2 he
      rw [hk, h] at hget
      exact (Option.some.inj hget).symm
    rw [hw]
    exact hp (by simpa [hk] using hcount)
  · simpa [hk] using hcount

omit [DecidableEq κ] in
theorem countValues_filter_le (d : Dict κ ν) (q : κ → ν → Bool) (p : ν → Bool) :
    (d.filter q).countValues p ≤ d.countValues p :=
  (List.filter_sublist).countP_le

end Dict
