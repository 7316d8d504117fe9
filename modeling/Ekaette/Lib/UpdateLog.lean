import Ekaette.Lib.Dict

set_option autoImplicit false

/-! # Logs of updates

A dictionary that several writers update: each update belongs to a writer and assigns some keys.
What a key holds is what the last update that assigns it assigned. -/

namespace UpdateLog

universe u v w

variable {α : Type u} {κ : Type v} {ν : Type w} [DecidableEq κ]

variable (log : List (α × Dict κ ν))

/-- The dictionary after the updates of a log, oldest first. -/
def replay : Dict κ ν := log.foldl (fun d u => d.merge u.2) .empty

/-- The last update of the log that assigns the key. -/
def lastUpdate (k : κ) : Option (α × Dict κ ν) :=
  log.reverse.find? (fun u => u.2.contains k)

@[simp] theorem replay_nil : replay ([] : List (α × Dict κ ν)) = .empty := rfl

theorem replay_concat (u : α × Dict κ ν) :
    replay (log ++ [u]) = (replay log).merge u.2 := by
  rw [replay, List.foldl_append]
  rfl

theorem lastUpdate_concat (u : α × Dict κ ν) (k : κ) :
    lastUpdate (log ++ [u]) k = if u.2.contains k then some u else lastUpdate log k := by
  rw [lastUpdate, List.reverse_append, List.reverse_singleton, List.singleton_append,
    List.find?_cons]
  cases u.2.contains k <;> rfl

/-- **The last update decides**: a key holds what the last update that assigns it assigned. -/
theorem get?_replay (k : κ) :
    (replay log).get? k = (lastUpdate log k).bind (fun u => u.2.get? k) := by
  induction log using List.reverseRecOn with
  | nil => rfl
  | append_singleton log u ih =>
    rw [replay_concat, Dict.get?_merge, lastUpdate_concat]
    cases hget : u.2.get? k with
    | none => simp [Dict.contains, hget, ih]
    | some v => simp [Dict.contains, hget]

theorem mem_of_lastUpdate {log : List (α × Dict κ ν)} {k : κ} {u : α × Dict κ ν}
    (h : lastUpdate log k = some u) : u ∈ log :=
  List.mem_reverse.1 (List.mem_of_find?_eq_some h)

/-- The update that a key's value comes from. -/
theorem exists_lastUpdate {log : List (α × Dict κ ν)} {k : κ} {v : ν}
    (h : (replay log).get? k = some v) :
    ∃ u ∈ log, lastUpdate log k = some u ∧ u.2.get? k = some v := by
  rw [get?_replay, Option.bind_eq_some_iff] at h
  obtain ⟨u, hlast, hv⟩ := h
  exact ⟨u, mem_of_lastUpdate hlast, hlast, hv⟩

end UpdateLog
