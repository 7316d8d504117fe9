import Ekaette.Lib.PyStr

set_option autoImplicit false

/-! # The egress allowlist

`configs/host_allowlist.py` compares hosts as texts: an entry `*.base` is compared with the end of
the host. Split at their dots, the labels of the base are then the last ones of the host, and some
are left. -/

/-! ## Splitting at a separator -/

namespace List

universe u

variable {α : Type u}

theorem intercalate_append (x : α) {parts rest : List (List α)} (hparts : parts ≠ [])
    (hrest : rest ≠ []) : [x].intercalate (parts ++ rest) = [x].intercalate parts ++ x ::
    [x].intercalate rest := by
  induction parts with
  | nil => exact absurd rfl hparts
  | cons part parts ih =>
    by_cases hlast : parts = []
    · rw [hlast, List.cons_append, List.nil_append, List.intercalate_cons_of_ne_nil hrest,
        List.intercalate_singleton, List.append_assoc, List.singleton_append]
    · rw [List.cons_append,
        List.intercalate_cons_of_ne_nil (List.append_ne_nil_of_left_ne_nil hlast _), ih hlast,
        List.intercalate_cons_of_ne_nil hlast, List.append_assoc, List.append_assoc,
        List.append_assoc]

/-- **A separated suffix** is a proper suffix of the parts. -/
theorem separator_suffix_iff [BEq α] [LawfulBEq α] (x : α) (l base : List α) :
    x :: base <:+ l ↔ ∃ parts, parts ≠ [] ∧ l.splitOn x = parts ++ base.splitOn x := by
  constructor
  · rintro ⟨before, rfl⟩
    exact ⟨before.splitOn x, List.splitOn_ne_nil x before,
      List.splitOn_append_cons_self before base⟩
  · rintro ⟨parts, hne, hsplit⟩
    refine ⟨[x].intercalate parts, ?_⟩
    have hjoined : [x].intercalate (l.splitOn x) = l := List.intercalate_splitOn x
    rw [← hjoined, hsplit, intercalate_append x hne (List.splitOn_ne_nil x base),
      List.intercalate_splitOn]

end List

namespace Ekaette

/-! ## The source -/

variable (py : StrMethods)

/-- `_normalize_hostname`. -/
def normalizeHostname (value : String) : String :=
  String.ofList ((py.lower (PyStr.strip value)).toList.rdropWhile (· = '.'))

/-- The body of the loop over the entries. -/
def candidateMatches (host normalized : String) : Bool :=
  if normalized = "" then false
  else
    match normalized.toList with
    | '*' :: '.' :: base =>
      if base = [] then false
      else if host.toList = base then false
      else ('.' :: base).isSuffixOf host.toList
    | _ => host = normalized

/-- `host_matches_allowlist`. -/
def hostMatchesAllowlist (hostname : String) (allowedHosts : List PyValue) :
    Bool :=
  let host := normalizeHostname py hostname
  if host = "" then false
  else allowedHosts.any fun candidate =>
    candidateMatches host (normalizeHostname py (candidate.toStr py))

/-! ## Whole labels -/

/-- The labels of a host. -/
def labels (host : String) : List (List Char) := host.toList.splitOn '.'

/-- An entry stands for a host: it is the host, or it is a wildcard whose base has the last labels
    of the host, and not all. -/
inductive Allows (host : String) : String → Prop where
  | exact (h : ¬ ['*', '.'] <+: host.toList) : Allows host host
  | wildcard (base : String) (more : List (List Char)) (hmore : more ≠ [])
      (h : labels host = more ++ labels base) : Allows host ("*." ++ base)

theorem normalizeHostname_getLast? (value : String) :
    (normalizeHostname py value).toList.getLast? ≠ some '.' := by
  unfold normalizeHostname
  rw [String.toList_ofList]
  intro hlast
  obtain ⟨hne, hdot⟩ := List.mem_getLast?_eq_getLast hlast
  have hnot := List.rdropWhile_last_not (fun c => decide (c = '.')) _ hne
  rw [← hdot] at hnot
  exact hnot (by decide)

theorem allows_wildcard_iff (host : String) {normalized : String} {base : List Char}
    (h : normalized.toList = '*' :: '.' :: base) : Allows host normalized ↔
    '.' :: base <:+ host.toList := by
  have hentry : normalized = "*." ++ String.ofList base := by
    rw [← String.toList_inj, h, String.toList_append]
    show '*' :: '.' :: base = ['*', '.'] ++ (String.ofList base).toList
    rw [String.toList_ofList]
    rfl
  rw [List.separator_suffix_iff]
  constructor
  · intro hallows
    cases hallows with
    | exact hnot => exact absurd ⟨base, h.symm⟩ hnot
    | wildcard base' more hmore hlabels =>
      have hbase : base'.toList = base := by
        rw [String.toList_append] at h
        exact (List.append_right_inj ['*', '.']).1 h
      rw [labels, labels, hbase] at hlabels
      exact ⟨more, hmore, hlabels⟩
  · rintro ⟨more, hmore, hlabels⟩
    rw [hentry]
    refine .wildcard (String.ofList base) more hmore ?_
    rw [labels, labels, String.toList_ofList]
    exact hlabels

/-- Another entry stands for itself. -/
theorem allows_plain_iff (host : String) {normalized : String}
    (h : ¬ ['*', '.'] <+: normalized.toList) : Allows host normalized ↔ host = normalized := by
  constructor
  · intro hallows
    cases hallows with
    | exact hnot => rfl
    | wildcard base more hmore hlabels =>
      refine absurd ⟨base.toList, ?_⟩ h
      rw [String.toList_append]
      rfl
  · rintro rfl
    exact .exact h

theorem candidateMatches_iff {host normalized : String} (hhost : host ≠ "")
    (hnormalized : normalized.toList.getLast? ≠ some '.') :
    candidateMatches host normalized = true ↔ Allows host normalized := by
  unfold candidateMatches
  by_cases hempty : normalized = ""
  · have hplain : ¬ ['*', '.'] <+: normalized.toList := by
      rw [hempty]
      decide
    rw [if_pos hempty, allows_plain_iff host hplain, hempty]
    exact iff_of_false (by decide) hhost
  · rw [if_neg hempty]
    split
    · rename_i base hwild
      -- a wildcard without a base would end with a dot, and those are stripped
      have hbase : base ≠ [] := by
        rintro rfl
        rw [hwild] at hnormalized
        exact hnormalized rfl
      rw [if_neg hbase, allows_wildcard_iff host hwild]
      by_cases hsame : host.toList = base
      · rw [if_pos hsame, hsame]
        -- the base itself has no label more
        refine iff_of_false (by decide) fun hsuffix => ?_
        have hlength := hsuffix.length_le
        rw [List.length_cons] at hlength
        omega
      · rw [if_neg hsame, List.isSuffixOf_iff_suffix]
    · rename_i hnot
      have hplain : ¬ ['*', '.'] <+: normalized.toList := by
        rintro ⟨base, hbase⟩
        exact hnot base hbase.symm
      rw [allows_plain_iff host hplain, decide_eq_true_iff]

theorem hostMatchesAllowlist_iff (hostname : String)
    (allowedHosts : List PyValue) : hostMatchesAllowlist py hostname allowedHosts = true ↔
    normalizeHostname py hostname ≠ "" ∧
      ∃ candidate ∈ allowedHosts, Allows (normalizeHostname py hostname)
        (normalizeHostname py (candidate.toStr py)) := by
  unfold hostMatchesAllowlist
  dsimp only
  by_cases hhost : normalizeHostname py hostname = ""
  · rw [if_pos hhost]
    exact iff_of_false (by decide) fun h => h.1 hhost
  · rw [if_neg hhost, List.any_eq_true, and_iff_right hhost]
    refine exists_congr fun candidate => and_congr_right fun _ => ?_
    exact candidateMatches_iff hhost (normalizeHostname_getLast? py _)

/-- **Whole labels**: a host that is not empty is matched exactly if an entry stands for it; a
    longer list matches no less; and an end of the host that does not begin at a dot is not
    enough. -/
theorem hostMatchesAllowlist_labels (hostname : String)
    (allowedHosts : List PyValue) : (hostMatchesAllowlist py hostname allowedHosts = true ↔
      normalizeHostname py hostname ≠ "" ∧
        ∃ candidate ∈ allowedHosts, Allows (normalizeHostname py hostname)
          (normalizeHostname py (candidate.toStr py))) ∧
      (∀ longer, allowedHosts ⊆ longer → hostMatchesAllowlist py hostname allowedHosts = true →
        hostMatchesAllowlist py hostname longer = true) ∧
      ∀ (candidate : PyValue) (base before : List Char),
        (normalizeHostname py (candidate.toStr py)).toList = '*' :: '.' :: base →
        (normalizeHostname py hostname).toList = before ++ base → before.getLast? ≠ some '.' →
          hostMatchesAllowlist py hostname [candidate] = false := by
  refine ⟨hostMatchesAllowlist_iff py hostname allowedHosts, fun longer hlonger hmatches => ?_, ?_⟩
  · rw [hostMatchesAllowlist_iff] at hmatches ⊢
    obtain ⟨hhost, candidate, hcandidate, hallows⟩ := hmatches
    exact ⟨hhost, candidate, hlonger hcandidate, hallows⟩
  · intro candidate base before hwild hhost hdot
    rw [Bool.eq_false_iff]
    intro hmatches
    obtain ⟨-, candidate', hcandidate, hallows⟩ :=
      (hostMatchesAllowlist_iff py hostname [candidate]).1 hmatches
    rw [List.mem_singleton.1 hcandidate, allows_wildcard_iff _ hwild, hhost] at hallows
    -- what stands before the base would end with the wildcard's dot
    obtain ⟨more, hmore⟩ := hallows
    have hbefore : more ++ ['.'] = before := by
      refine (List.append_left_inj base).1 ?_
      rw [List.append_assoc]
      exact hmore
    rw [← hbefore] at hdot
    exact hdot List.getLast?_concat

example : hostMatchesAllowlist .ascii "API.Example.com." [.str " *.example.com"] = true :=
    by decide +kernel

/-- The empty host is not matched, although the list has it. -/
theorem hostMatchesAllowlist_empty :
    ¬ (hostMatchesAllowlist .ascii "." [.str ""] = true ↔ ∃ candidate ∈ [PyValue.str ""],
      Allows (normalizeHostname .ascii ".")
      (normalizeHostname .ascii (candidate.toStr .ascii))) := by
  have hempty : normalizeHostname .ascii "." = "" := by decide +kernel
  have hentry : normalizeHostname .ascii ((PyValue.str "").toStr .ascii) = "" := by decide +kernel
  intro h
  have hmatches :=
    h.2 ⟨.str "", List.mem_cons_self, by rw [hempty, hentry]; exact .exact (by decide)⟩
  exact absurd hmatches (by decide +kernel)

end Ekaette
