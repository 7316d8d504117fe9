import Mathlib.Data.Finset.Card
import Mathlib.Data.List.MinMax
import Mathlib.Tactic.Linarith
import Ekaette.Lib.Dict
import Ekaette.Lib.EventMachine
import Ekaette.Lib.RateWindow

set_option autoImplicit false

/-! # The in-memory rate limiter

`check_rate_limit` keeps, for each key, the times of the calls it allowed. A call prunes the buckets
that have been idle for a window (at most once a window), evicts the bucket with the oldest last
time when a new key finds the table full, filters its own bucket and compares what is left with the
limit. A bucket that goes early takes a caller's history with it; while no more keys call within a
window than the table holds, none does, and the table decides as the whole log would. -/

namespace Ekaette

/-- The settings of one table: `window_seconds` and `max_buckets`. -/
structure RateLimits where
  windowSeconds : ℤ
  maxBuckets : ℤ

/-- The arguments of one call, and what `time.time()` returns in it. -/
structure RateCall where
  clientIp : String
  bucket : String
  limit : ℤ
  now : ℚ

/-- `f"{bucket}:{client_ip}"` -/
def RateCall.key (c : RateCall) : String := c.bucket ++ ":" ++ c.clientIp

/-- `buckets` and `last_global_prune`. -/
structure RateTable where
  buckets : Dict String (List ℚ)
  lastGlobalPrune : ℚ

variable (windowSeconds : ℤ)

/-- `not values or (now - values[-1]) >= window_seconds` -/
def isStaleBucket (now : ℚ) (values : List ℚ) : Bool :=
  match values.getLast? with
  | none => true
  | some last => now - last ≥ windowSeconds

/-- The global prune, at most once a window. -/
def pruneStaleKeys (now : ℚ) (t : RateTable) : RateTable :=
  if now - t.lastGlobalPrune ≥ windowSeconds then
    { buckets := t.buckets.filter (fun _ values => !isStaleBucket windowSeconds now values)
      lastGlobalPrune := now }
  else t

/-- `min(buckets.keys(), key=..., default=None)`: the first key with the least last time. -/
def oldestKey (buckets : Dict String (List ℚ)) : Option String :=
  (buckets.entries.argmin (fun e => e.2.getLast?.getD 0)).map Prod.fst

/-- Room for a new key in a full table. -/
def evictOldest (maxBuckets : ℤ) (key : String) (buckets : Dict String (List ℚ)) :
    Dict String (List ℚ) :=
  if ¬ buckets.contains key ∧ (buckets.size : ℤ) ≥ maxBuckets then
    match oldestKey buckets with
    | some oldest => buckets.erase oldest
    | none => buckets
  else buckets

variable (cfg : RateLimits)

variable (t : RateTable)

variable (c : RateCall)

/-- `check_rate_limit` -/
def checkRateLimit : RateTable × Bool :=
  let pruned := pruneStaleKeys cfg.windowSeconds c.now t
  let buckets := evictOldest cfg.maxBuckets c.key pruned.buckets
  let timestamps := (buckets.getD c.key []).filter (fun s => c.now - s < cfg.windowSeconds)
  if (timestamps.length : ℤ) ≥ c.limit then
    ({ pruned with buckets := buckets.set c.key timestamps }, false)
  else
    ({ pruned with buckets := buckets.set c.key (timestamps ++ [c.now]) }, true)

/-- `_check_rate_limit` of the admin routes: the same steps on the table of the admin settings,
    under its lock. -/
def adminCheckRateLimit (settings : RateLimits) (t : RateTable) (clientIp bucket : String)
    (limit : ℤ) (now : ℚ) : RateTable × Bool :=
  checkRateLimit settings t { clientIp, bucket, limit, now }

/-- The calls of one table, one after the other; each gets the prune time that the last one
    returned. -/
def rateMachine : EventMachine RateTable RateCall Bool where
  step := checkRateLimit cfg

/-- A call and its answer, as an entry of the log. -/
def rateEntry (x : EventMachine.Entry RateTable RateCall Bool) : RateWindow.Call String ℚ :=
  ⟨x.event.key, x.event.now, x.answer⟩

/-- The log of a run that starts with an empty table. -/
def rateLog (lastGlobalPrune : ℚ) (calls : List RateCall) :
    List (RateWindow.Call String ℚ) :=
  ((rateMachine cfg).trace ⟨.empty, lastGlobalPrune⟩ calls).map rateEntry

/-- No more distinct keys call within any window than the table holds. -/
def FewKeys (calls : List RateCall) : Prop :=
  ∀ a : ℚ, (((calls.filter (fun c => a < c.now ∧ c.now ≤ a + cfg.windowSeconds)).map
    RateCall.key).toFinset.card : ℤ) ≤ cfg.maxBuckets

theorem FewKeys.of_sublist {cfg : RateLimits} {calls calls' : List RateCall} (h : FewKeys cfg calls)
    (hsub : List.Sublist calls' calls) : FewKeys cfg calls' := by
  intro a
  refine le_trans ?_ (h a)
  exact_mod_cast Finset.card_le_card fun k hk =>
    List.mem_toFinset.2 (((hsub.filter _).map RateCall.key).subset (List.mem_toFinset.1 hk))

/-! ## What the table knows -/

/-- The kept times of a key. -/
def RateTable.kept (k : String) : List ℚ := t.buckets.getD k []

/-- Buckets are never empty, in the order of time, and hold times of calls of their key. -/
structure BucketsOrdered (log : List (RateWindow.Call String ℚ)) (buckets : Dict String (List ℚ)) :
    Prop where
  nonempty : ∀ k values, buckets.get? k = some values → values ≠ []
  ordered : ∀ k values, buckets.get? k = some values → values.Pairwise (· ≤ ·)
  logged : ∀ k values, buckets.get? k = some values → ∀ v ∈ values, ∃ c ∈ log, c.key = k ∧ c.now = v

/-- Some buckets may be gone, all of whose times have left the window. -/
def OnlyStaleDropped (now : ℚ) (buckets buckets' : Dict String (List ℚ)) :
    Prop :=
  ∀ k, buckets'.get? k = buckets.get? k ∨
    (buckets'.get? k = none ∧ ∀ v ∈ buckets.getD k [], (windowSeconds : ℚ) ≤ now - v)

theorem OnlyStaleDropped.trans {windowSeconds : ℤ} {now : ℚ} {b b' b'' : Dict String (List ℚ)}
    (h : OnlyStaleDropped windowSeconds now b b') (h' : OnlyStaleDropped windowSeconds now b' b'') :
    OnlyStaleDropped windowSeconds now b b'' := by
  intro k
  rcases h k with hsame | hgone
  · rcases h' k with hsame' | ⟨hnone, hstale⟩
    · exact .inl (hsame'.trans hsame)
    · unfold Dict.getD at hstale
      rw [hsame] at hstale
      exact .inr ⟨hnone, hstale⟩
  · rcases h' k with hsame' | ⟨hnone, -⟩
    · exact .inr ⟨hsame'.trans hgone.1, hgone.2⟩
    · exact .inr ⟨hnone, hgone.2⟩

theorem BucketsOrdered.of_dropped {log : List (RateWindow.Call String ℚ)} {windowSeconds : ℤ}
    {now : ℚ} {b b' : Dict String (List ℚ)} (h : BucketsOrdered log b)
    (hdrop : OnlyStaleDropped windowSeconds now b b') : BucketsOrdered log b' := by
  have hkept : ∀ k values, b'.get? k = some values → b.get? k = some values := by
    intro k values hget
    rcases hdrop k with hsame | ⟨hnone, -⟩
    · rw [← hsame, hget]
    · rw [hnone] at hget
      cases hget
  exact ⟨fun k values hget => h.nonempty k values (hkept k values hget),
    fun k values hget => h.ordered k values (hkept k values hget),
    fun k values hget => h.logged k values (hkept k values hget)⟩

/-- In the order of time, every time of a bucket is at most its last. -/
theorem le_of_getLast? {values : List ℚ} (h : values.Pairwise (· ≤ ·)) {last v : ℚ}
    (hlast : values.getLast? = some last) (hv : v ∈ values) : v ≤ last := by
  obtain ⟨before, rfl⟩ := List.getLast?_eq_some_iff.1 hlast
  rcases List.mem_append.1 hv with hbefore | hself
  · exact (List.pairwise_append.1 h).2.2 v hbefore last List.mem_cons_self
  · rw [List.mem_singleton.1 hself]

theorem stale_of_isStaleBucket {windowSeconds : ℤ} {now : ℚ} {values : List ℚ}
    (h : values.Pairwise (· ≤ ·)) (hstale : isStaleBucket windowSeconds now values = true) :
    ∀ v ∈ values, (windowSeconds : ℚ) ≤ now - v := by
  intro v hv
  unfold isStaleBucket at hstale
  split at hstale
  · next hnone =>
      rw [List.getLast?_eq_none_iff.1 hnone] at hv
      cases hv
  · next last hlast =>
      have hle := le_of_getLast? h hlast hv
      rw [decide_eq_true_eq] at hstale
      linarith

/-! ## Pruning and eviction -/

theorem pruneStaleKeys_dropped {log : List (RateWindow.Call String ℚ)} (windowSeconds : ℤ) (now : ℚ)
    {t : RateTable} (h : BucketsOrdered log t.buckets) :
    OnlyStaleDropped windowSeconds now t.buckets (pruneStaleKeys windowSeconds now t).buckets := by
  intro k
  unfold pruneStaleKeys
  split_ifs with hdue
  · show (t.buckets.filter _).get? k = _ ∨ (t.buckets.filter _).get? k = none ∧ _
    rw [Dict.get?_filter]
    unfold Dict.getD
    cases hget : t.buckets.get? k with
    | none => exact .inl rfl
    | some values =>
      cases hstale : isStaleBucket windowSeconds now values with
      | false => exact .inl (Option.filter_some_pos (by rw [hstale]; rfl))
      | true =>
        refine .inr ⟨Option.filter_some_neg (by rw [hstale]; decide), ?_⟩
        exact stale_of_isStaleBucket (h.ordered k values hget) hstale
  · exact .inl rfl

/-- The evicted bucket is the one whose last time is the least. -/
theorem oldestKey_spec {buckets : Dict String (List ℚ)} {oldest : String}
    (h : oldestKey buckets = some oldest) :
    ∃ values, buckets.get? oldest = some values ∧
      ∀ e ∈ buckets.entries, values.getLast?.getD 0 ≤ e.2.getLast?.getD 0 := by
  obtain ⟨e, he, rfl⟩ := Option.map_eq_some_iff.1 h
  refine ⟨e.2, (buckets.get?_eq_some_iff e.1 e.2).2 (List.argmin_mem he), fun e' he' => ?_⟩
  exact List.le_of_mem_argmin he' he

/-- A full table with a bucket for each key that could evict it: some bucket has left the window. -/
theorem evicted_stale {cfg : RateLimits} {calls : List RateCall}
    {log : List (RateWindow.Call String ℚ)} {buckets : Dict String (List ℚ)} {c : RateCall}
    (hfew : FewKeys cfg calls) (hlog : ∀ x ∈ log, ∃ d ∈ calls, d.key = x.key ∧ d.now = x.now)
    (hc : c ∈ calls) (hclock : ∀ x ∈ log, x.now ≤ c.now) (hwindow : 0 < cfg.windowSeconds)
    (h : BucketsOrdered log buckets) (habsent : c.key ∉ buckets.keys)
    (hfull : (buckets.size : ℤ) ≥ cfg.maxBuckets) :
    ∃ e ∈ buckets.entries, isStaleBucket cfg.windowSeconds c.now e.2 = true := by
  by_contra hfresh
  push Not at hfresh
  -- every key of the table has called within the last window, and so has the new one
  have hsub : insert c.key buckets.keys.toFinset ⊆
      ((calls.filter (fun d => c.now - cfg.windowSeconds < d.now ∧
        d.now ≤ c.now - cfg.windowSeconds + cfg.windowSeconds)).map RateCall.key).toFinset := by
    intro k hk
    rw [List.mem_toFinset, List.mem_map]
    rcases Finset.mem_insert.1 hk with rfl | hk
    · refine ⟨c, List.mem_filter.2 ⟨hc, ?_⟩, rfl⟩
      have hpos : (0 : ℚ) < cfg.windowSeconds := by exact_mod_cast hwindow
      rw [decide_eq_true_eq]
      exact ⟨by linarith, by linarith⟩
    · obtain ⟨⟨k, values⟩, he, rfl⟩ := List.mem_map.1 (List.mem_toFinset.1 hk)
      have hget := (buckets.get?_eq_some_iff k values).2 he
      have hnotstale := hfresh _ he
      unfold isStaleBucket at hnotstale
      cases hlast : values.getLast? with
      | none => exact absurd (List.getLast?_eq_none_iff.1 hlast) (h.nonempty k values hget)
      | some last =>
        rw [hlast, Ne, decide_eq_true_eq, ge_iff_le, not_le] at hnotstale
        obtain ⟨x, hx, hxkey, hxnow⟩ :=
          h.logged k values hget last (List.mem_of_getLast? hlast)
        obtain ⟨d, hd, hdkey, hdnow⟩ := hlog x hx
        have hle := hclock x hx
        refine ⟨d, List.mem_filter.2 ⟨hd, ?_⟩, hdkey.trans hxkey⟩
        rw [decide_eq_true_eq, hdnow, hxnow]
        rw [hxnow] at hle
        exact ⟨by linarith, by linarith⟩
  have hcard := Finset.card_le_card hsub
  rw [Finset.card_insert_of_notMem (fun hmem => habsent (List.mem_toFinset.1 hmem))] at hcard
  have hkeys := hfew (c.now - cfg.windowSeconds)
  have hsize : buckets.keys.toFinset.card = buckets.size :=
    (List.toFinset_card_of_nodup buckets.nodup).trans (List.length_map _)
  omega

theorem evictOldest_dropped {cfg : RateLimits} {calls : List RateCall}
    {log : List (RateWindow.Call String ℚ)} {buckets : Dict String (List ℚ)} {c : RateCall}
    (hfew : FewKeys cfg calls) (hlog : ∀ x ∈ log, ∃ d ∈ calls, d.key = x.key ∧ d.now = x.now)
    (hc : c ∈ calls) (hclock : ∀ x ∈ log, x.now ≤ c.now) (h : BucketsOrdered log buckets) :
    OnlyStaleDropped cfg.windowSeconds c.now buckets
    (evictOldest cfg.maxBuckets c.key buckets) := by
  intro k
  unfold evictOldest
  split_ifs with hfull
  · cases holdest : oldestKey buckets with
    | none => exact .inl rfl
    | some oldest =>
      show (buckets.erase oldest).get? k = _ ∨ (buckets.erase oldest).get? k = none ∧ _
      rw [Dict.get?_erase]
      by_cases hk : k = oldest
      · subst hk
        rw [if_pos rfl]
        obtain ⟨values, hget, hleast⟩ := oldestKey_spec holdest
        refine .inr ⟨rfl, fun v hv => ?_⟩
        unfold Dict.getD at hv
        rw [hget, Option.getD_some] at hv
        rcases le_or_gt cfg.windowSeconds 0 with hwindow | hwindow
        · -- an empty window holds nothing
          obtain ⟨x, hx, -, rfl⟩ := h.logged k values hget v hv
          have hnonpos : (cfg.windowSeconds : ℚ) ≤ 0 := by exact_mod_cast hwindow
          have hle := hclock x hx
          linarith
        · have habsent : c.key ∉ buckets.keys := by
            rw [Dict.mem_keys_iff]
            exact hfull.1
          obtain ⟨⟨k', values'⟩, he, hstale⟩ :=
            evicted_stale hfew hlog hc hclock hwindow h habsent hfull.2
          have hget' := (buckets.get?_eq_some_iff k' values').2 he
          obtain ⟨last, hlast⟩ := Option.ne_none_iff_exists'.1
            (mt List.getLast?_eq_none_iff.1 (h.nonempty k values hget))
          obtain ⟨last', hlast'⟩ := Option.ne_none_iff_exists'.1
            (mt List.getLast?_eq_none_iff.1 (h.nonempty k' values' hget'))
          have hle := hleast _ he
          rw [hlast, hlast', Option.getD_some, Option.getD_some] at hle
          have hgone := stale_of_isStaleBucket (h.ordered k' values' hget') hstale last'
            (List.mem_of_getLast? hlast')
          have hv := le_of_getLast? (h.ordered k values hget) hlast hv
          linarith
      · rw [if_neg hk]
        exact .inl rfl
  · exact .inl rfl

theorem size_pruneStaleKeys_le (now : ℚ) (t : RateTable) :
    (pruneStaleKeys windowSeconds now t).buckets.size ≤ t.buckets.size := by
  unfold pruneStaleKeys
  split_ifs
  · exact Dict.size_filter_le _ _
  · exact Nat.le_refl _

theorem size_set_evictOldest_le {maxBuckets : ℤ} (hmax : 1 ≤ maxBuckets) (key : String)
    {buckets : Dict String (List ℚ)} (hsize : (buckets.size : ℤ) ≤ maxBuckets) (values : List ℚ) :
    (((evictOldest maxBuckets key buckets).set key values).size : ℤ) ≤ maxBuckets := by
  unfold evictOldest
  split_ifs with hfull
  · cases holdest : oldestKey buckets with
    | none =>
      have hempty : buckets.entries = [] := by
        unfold oldestKey at holdest
        rwa [Option.map_eq_none_iff, List.argmin_eq_none] at holdest
      have hle := buckets.size_set_le key values
      have hzero : buckets.size = 0 := by rw [Dict.size, hempty, List.length_nil]
      show ((buckets.set key values).size : ℤ) ≤ maxBuckets
      omega
    | some oldest =>
      obtain ⟨old, hget, -⟩ := oldestKey_spec holdest
      have hlt : (buckets.erase oldest).size < buckets.size := by
        refine List.length_filter_lt_length_iff_exists.2 ⟨(oldest, old), ?_, by simp⟩
        exact (buckets.get?_eq_some_iff oldest old).1 hget
      have hle := (buckets.erase oldest).size_set_le key values
      show (((buckets.erase oldest).set key values).size : ℤ) ≤ maxBuckets
      omega
  · by_cases hmem : key ∈ buckets.keys
    · rw [Dict.size_set_of_mem _ _ hmem]
      exact hsize
    · have hroom : (buckets.size : ℤ) < maxBuckets := by
        rw [Dict.mem_keys_iff] at hmem
        rw [not_and, ge_iff_le, not_le] at hfull
        exact hfull hmem
      have hle := buckets.size_set_le key values
      omega

/-! ## One call -/

/-- What the table knows of the log. -/
structure RateInv (cfg : RateLimits) (log : List (RateWindow.Call String ℚ)) (t : RateTable) :
    Prop where
  buckets : BucketsOrdered log t.buckets
  keeps : ∀ now : ℚ, (∀ x ∈ log, x.now ≤ now) → RateWindow.Keeps (cfg.windowSeconds :
    ℚ) now t.kept log
  size : (t.buckets.size : ℤ) ≤ cfg.maxBuckets

/-- The buckets that pruning and eviction leave for a call. -/
def bucketsLeft : Dict String (List ℚ) :=
  evictOldest cfg.maxBuckets c.key (pruneStaleKeys cfg.windowSeconds c.now t).buckets

/-- The times of its key that a call finds in the window. -/
def timesLeft : List ℚ :=
  RateWindow.recent (cfg.windowSeconds : ℚ) c.now ((bucketsLeft cfg t c).getD c.key [])

theorem checkRateLimit_cases :
    (c.limit ≤ (timesLeft cfg t c).length ∧ (checkRateLimit cfg t c).2 = false ∧
        (checkRateLimit cfg t c).1.buckets = (bucketsLeft cfg t c).set c.key (timesLeft cfg t c)) ∨
      ((timesLeft cfg t c).length < c.limit ∧ (checkRateLimit cfg t c).2 = true ∧
        (checkRateLimit cfg t c).1.buckets =
          (bucketsLeft cfg t c).set c.key (timesLeft cfg t c ++ [c.now])) := by
  by_cases hfull : c.limit ≤ (timesLeft cfg t c).length
  · have heq : checkRateLimit cfg t c = _ := if_pos hfull
    rw [heq]
    exact .inl ⟨hfull, rfl, rfl⟩
  · have heq : checkRateLimit cfg t c = _ := if_neg hfull
    rw [heq]
    exact .inr ⟨not_le.1 hfull, rfl, rfl⟩

theorem checkRateLimit_buckets :
    (checkRateLimit cfg t c).1.buckets = (bucketsLeft cfg t c).set c.key
      (timesLeft cfg t c ++ if (checkRateLimit cfg t c).2 = true then [c.now] else []) := by
  rcases checkRateLimit_cases cfg t c with ⟨-, hanswer, hbuckets⟩ | ⟨-, hanswer, hbuckets⟩
  · rw [hbuckets, hanswer, if_neg Bool.false_ne_true, List.append_nil]
  · rw [hbuckets, hanswer, if_pos rfl]

theorem checkRateLimit_allowed_iff :
    (checkRateLimit cfg t c).2 = true ↔ ((timesLeft cfg t c).length : ℤ) < c.limit := by
  rcases checkRateLimit_cases cfg t c with ⟨hfull, hanswer, -⟩ | ⟨hroom, hanswer, -⟩
  · rw [hanswer]
    exact ⟨fun h => absurd h Bool.false_ne_true, fun h => absurd h (not_lt.2 hfull)⟩
  · rw [hanswer]
    exact ⟨fun _ => hroom, fun _ => rfl⟩

theorem BucketsOrdered.set {log log' : List (RateWindow.Call String ℚ)}
    {buckets : Dict String (List ℚ)} (h : BucketsOrdered log buckets) (hsub : log ⊆ log')
    {key : String} {values : List ℚ} (hnonempty : values ≠ [])
    (hordered : values.Pairwise (· ≤ ·)) (hlogged : ∀ v ∈ values, ∃ c ∈ log', c.key = key ∧
      c.now = v) :
    BucketsOrdered log' (buckets.set key values) := by
  refine ⟨fun k vs hget => ?_, fun k vs hget => ?_, fun k vs hget => ?_⟩
  all_goals
    rw [Dict.get?_set] at hget
    split_ifs at hget with hk
  · rw [← Option.some.inj hget]
    exact hnonempty
  · exact h.nonempty k vs hget
  · rw [← Option.some.inj hget]
    exact hordered
  · exact h.ordered k vs hget
  · rw [← Option.some.inj hget, hk]
    exact hlogged
  · intro v hv
    obtain ⟨c, hc, hcv⟩ := h.logged k vs hget v hv
    exact ⟨c, hsub hc, hcv⟩

theorem timesLeft_spec {cfg : RateLimits} {log : List (RateWindow.Call String ℚ)} {t : RateTable}
    {c : RateCall} (h : BucketsOrdered log (bucketsLeft cfg t c))
    (hclock : ∀ x ∈ log, x.now ≤ c.now) : (timesLeft cfg t c).Pairwise (· ≤ ·) ∧
      (∀ v ∈ timesLeft cfg t c, ∃ x ∈ log, x.key = c.key ∧ x.now = v) ∧ ∀ v ∈ timesLeft cfg t c,
      v ≤ c.now := by
  have hlogged : ∀ v ∈ timesLeft cfg t c, ∃ x ∈ log, x.key = c.key ∧ x.now = v := by
    intro v hv
    have hmem := List.mem_of_mem_filter hv
    unfold Dict.getD at hmem
    cases hget : (bucketsLeft cfg t c).get? c.key with
    | none =>
      rw [hget, Option.getD_none] at hmem
      cases hmem
    | some values =>
      rw [hget, Option.getD_some] at hmem
      exact h.logged c.key values hget v hmem
  refine ⟨?_, hlogged, fun v hv => ?_⟩
  · unfold timesLeft Dict.getD
    refine List.Pairwise.filter _ ?_
    cases hget : (bucketsLeft cfg t c).get? c.key with
    | none => exact List.Pairwise.nil
    | some values => exact h.ordered c.key values hget
  · obtain ⟨x, hx, -, rfl⟩ := hlogged v hv
    exact hclock x hx

/-- **One call.** It is allowed as the whole log says, and the table knows the longer log. -/
theorem checkRateLimit_step {cfg : RateLimits} {calls : List RateCall}
    {log : List (RateWindow.Call String ℚ)} {t : RateTable} {c : RateCall}
    (hmax : 1 ≤ cfg.maxBuckets) (hlimit : 1 ≤ c.limit) (hfew : FewKeys cfg calls)
    (hlog : ∀ x ∈ log, ∃ d ∈ calls, d.key = x.key ∧ d.now = x.now) (hc : c ∈ calls)
    (hclock : ∀ x ∈ log, x.now ≤ c.now) (h : RateInv cfg log t) :
    ((checkRateLimit cfg t c).2 = true ↔
        ((RateWindow.recent (cfg.windowSeconds : ℚ) c.now
          (RateWindow.allowedTimes c.key log)).length : ℤ) < c.limit) ∧
      RateInv cfg (log ++ [⟨c.key, c.now, (checkRateLimit cfg t c).2⟩])
      (checkRateLimit cfg t c).1 := by
  have hpruned := pruneStaleKeys_dropped cfg.windowSeconds c.now h.buckets
  have hdropped : OnlyStaleDropped cfg.windowSeconds c.now t.buckets (bucketsLeft cfg t c) :=
    hpruned.trans (evictOldest_dropped hfew hlog hc hclock (h.buckets.of_dropped hpruned))
  have hordered := h.buckets.of_dropped hdropped
  have hkeeps : RateWindow.Keeps (cfg.windowSeconds : ℚ) c.now (fun k =>
      (bucketsLeft cfg t c).getD k []) log := by
    refine (h.keeps c.now hclock).forget fun k => ?_
    unfold RateTable.kept Dict.getD
    rcases hdropped k with hsame | ⟨hnone, hstale⟩
    · exact .inl (by rw [hsame])
    · exact .inr ⟨by rw [hnone, Option.getD_none], hstale⟩
  have hcount : timesLeft cfg t c =
      RateWindow.recent (cfg.windowSeconds : ℚ) c.now (RateWindow.allowedTimes c.key log) :=
      hkeeps c.key
  have hallowed := checkRateLimit_allowed_iff cfg t c
  obtain ⟨hsorted, htimes, hpast⟩ := timesLeft_spec hordered hclock
  rw [← hcount]
  refine ⟨hallowed, ?_, ?_, ?_⟩
  · rw [checkRateLimit_buckets]
    refine hordered.set (List.subset_append_left _ _) ?_ ?_ ?_
    · -- a refusal found `limit` times, an allowed call adds its own
      intro hnil
      rw [List.append_eq_nil_iff] at hnil
      rcases checkRateLimit_cases cfg t c with ⟨hfull, -⟩ | ⟨-, hanswer, -⟩
      · rw [hnil.1, List.length_nil] at hfull
        omega
      · rw [hanswer, if_pos rfl] at hnil
        cases hnil.2
    · refine List.pairwise_append.2 ⟨hsorted, ?_, fun v hv w hw => ?_⟩
      · split_ifs
        · exact List.pairwise_singleton _ _
        · exact List.Pairwise.nil
      · split_ifs at hw
        · rw [List.mem_singleton.1 hw]
          exact hpast v hv
        · cases hw
    · intro v hv
      rcases List.mem_append.1 hv with hbefore | hself
      · obtain ⟨x, hx, hxv⟩ := htimes v hbefore
        exact ⟨x, List.mem_append_left _ hx, hxv⟩
      · split_ifs at hself
        · rw [List.mem_singleton.1 hself]
          exact ⟨_, List.mem_append_right _ List.mem_cons_self, rfl, rfl⟩
        · cases hself
  · intro now hnow
    have hlater : c.now ≤ now := hnow _ (List.mem_append_right _ List.mem_cons_self)
    refine (hkeeps.answer (fun k' hk' => ?_) ?_).later hlater
    · unfold RateTable.kept Dict.getD
      rw [checkRateLimit_buckets, Dict.get?_set, if_neg hk']
    · unfold RateTable.kept
      rw [checkRateLimit_buckets]
      unfold Dict.getD
      rw [Dict.get?_set, if_pos rfl, Option.getD_some]
      rfl
  · rw [checkRateLimit_buckets]
    refine size_set_evictOldest_le hmax c.key ?_ _
    exact le_trans (by exact_mod_cast size_pruneStaleKeys_le cfg.windowSeconds c.now t) h.size

/-! ## Runs -/

theorem rateLog_now (last : ℚ) (calls : List RateCall) :
    (rateLog cfg last calls).map RateWindow.Call.now = calls.map RateCall.now := by
  unfold rateLog
  rw [List.map_map, ← (rateMachine cfg).trace_map_event ⟨.empty, last⟩ calls, List.map_map,
    EventMachine.trace_map_event]
  rfl

theorem rateLog_concat (last : ℚ) (calls : List RateCall) (c : RateCall) :
    rateLog cfg last (calls ++ [c]) = rateLog cfg last calls ++
      [⟨c.key, c.now, (checkRateLimit cfg ((rateMachine cfg).run ⟨.empty, last⟩ calls) c).2⟩] := by
  unfold rateLog
  rw [EventMachine.trace_concat, List.map_append]
  rfl

theorem exists_of_mem_rateLog {cfg : RateLimits} {last : ℚ} {calls : List RateCall}
    {x : RateWindow.Call String ℚ} (h : x ∈ rateLog cfg last calls) :
    ∃ c ∈ calls, c.key = x.key ∧ c.now = x.now := by
  obtain ⟨y, hy, rfl⟩ := List.mem_map.1 h
  refine ⟨y.event, ?_, rfl, rfl⟩
  rw [← (rateMachine cfg).trace_map_event ⟨.empty, last⟩ calls]
  exact List.mem_map_of_mem hy

theorem rateInv_empty {cfg : RateLimits} (hmax : 1 ≤ cfg.maxBuckets) (last : ℚ) :
    RateInv cfg [] ⟨.empty, last⟩ := by
  refine ⟨⟨?_, ?_, ?_⟩, fun _ _ _ => rfl, ?_⟩
  · intro k values hget
    cases hget
  · intro k values hget
    cases hget
  · intro k values hget
    cases hget
  · show ((0 : ℕ) : ℤ) ≤ cfg.maxBuckets
    omega

/-- Along a run, each call is answered as the log before it says, and the table knows the log. -/
theorem rateMachine_sound {cfg : RateLimits} {calls : List RateCall} {limit : String → ℤ}
    (hmax : 1 ≤ cfg.maxBuckets) (hlimit : ∀ c ∈ calls, c.limit = limit c.key ∧ 1 ≤ c.limit)
    (hclock : calls.Pairwise (fun c d => c.now ≤ d.now)) (hfew : FewKeys cfg calls) (last : ℚ) :
    RateWindow.Slides (cfg.windowSeconds : ℚ) limit (rateLog cfg last calls) ∧
      RateInv cfg (rateLog cfg last calls) ((rateMachine cfg).run ⟨.empty, last⟩ calls) := by
  suffices hprefix : ∀ fs, fs <+: calls → RateWindow.Slides (cfg.windowSeconds : ℚ) limit
    (rateLog cfg last fs) ∧
      RateInv cfg (rateLog cfg last fs) ((rateMachine cfg).run ⟨.empty, last⟩ fs) from
    hprefix calls List.prefix_rfl
  intro fs
  induction fs using List.reverseRecOn with
  | nil =>
    intro _
    exact ⟨RateWindow.slides_nil _ _, rateInv_empty hmax last⟩
  | append_singleton fs c ih =>
    intro hfs
    have hbefore : fs <+: calls := (List.prefix_append fs [c]).trans hfs
    obtain ⟨hslides, hinv⟩ := ih hbefore
    have hc : c ∈ calls := hfs.subset (List.mem_append_right _ List.mem_cons_self)
    have hlog : ∀ x ∈ rateLog cfg last fs, ∃ d ∈ calls, d.key = x.key ∧ d.now = x.now := by
      intro x hx
      obtain ⟨d, hd, hdx⟩ := exists_of_mem_rateLog hx
      exact ⟨d, hbefore.subset hd, hdx⟩
    have hpast : ∀ x ∈ rateLog cfg last fs, x.now ≤ c.now := by
      intro x hx
      obtain ⟨d, hd, -, hdnow⟩ := exists_of_mem_rateLog hx
      rw [← hdnow]
      exact (List.pairwise_append.1 (hclock.sublist hfs.sublist)).2.2 d hd c List.mem_cons_self
    obtain ⟨hallowed, hnext⟩ := checkRateLimit_step hmax (hlimit c hc).2 hfew hlog hc hpast hinv
    rw [rateLog_concat, EventMachine.run_concat]
    rw [(hlimit c hc).1] at hallowed
    exact ⟨hslides.concat hallowed, hnext⟩

/-- **The sliding window.** While no more keys call within a window than the table holds: every
    half-open interval of a window holds at most `limit` allowed calls of a key; a refused call
    found `limit` calls of its key allowed within the last window; and the table never exceeds its
    size. -/
theorem checkRateLimit_sliding (limit : String → ℤ) (calls : List RateCall)
    (last : ℚ) (hmax : 1 ≤ cfg.maxBuckets) (hpositive : ∀ k, 1 ≤ limit k)
    (hlimit : ∀ c ∈ calls, c.limit = limit c.key)
    (hclock : calls.Pairwise (fun c d => c.now ≤ d.now)) (hfew : FewKeys cfg calls) :
    (∀ k, ∀ a : ℚ,
        (((RateWindow.allowedTimes k (rateLog cfg last calls)).filter
          (fun t => a ≤ t ∧ t < a + cfg.windowSeconds)).length : ℤ) ≤ limit k ∧
        (((RateWindow.allowedTimes k (rateLog cfg last calls)).filter
          (fun t => a < t ∧ t ≤ a + cfg.windowSeconds)).length : ℤ) ≤ limit k) ∧
      (∀ (log : List (RateWindow.Call String ℚ)) (c : RateWindow.Call String ℚ), log ++ [c] <+:
        rateLog cfg last calls → c.allowed = false →
        limit c.key ≤ (((RateWindow.allowedTimes c.key log).filter
          (fun t => c.now - t < cfg.windowSeconds)).length : ℤ)) ∧
      ∀ fs, fs <+: calls →
        (((rateMachine cfg).run ⟨.empty, last⟩ fs).buckets.size : ℤ) ≤ cfg.maxBuckets := by
  have hcalls : ∀ c ∈ calls, c.limit = limit c.key ∧ 1 ≤ c.limit := by
    intro c hc
    exact ⟨hlimit c hc, by rw [hlimit c hc]; exact hpositive c.key⟩
  obtain ⟨hslides, -⟩ := rateMachine_sound hmax hcalls hclock hfew last
  refine ⟨fun k a => ?_, fun log c hpre hrefused => ?_, fun fs hfs => ?_⟩
  · have hnonneg : 0 ≤ limit k := le_trans (by decide) (hpositive k)
    refine hslides.interval_le ?_ k hnonneg a
    rw [← List.pairwise_map, rateLog_now, List.pairwise_map]
    exact hclock
  · refine not_lt.1 fun hroom => ?_
    have hallowed := (hslides log c hpre).2 hroom
    rw [hrefused] at hallowed
    cases hallowed
  · refine (rateMachine_sound hmax (fun c hc => hcalls c (hfs.subset hc))
      (hclock.sublist hfs.sublist) (hfew.of_sublist hfs.sublist) last).2.size

/-- Three calls of one client, ten seconds apart. -/
def threeCalls : List RateCall :=
  [⟨"10.0.0.1", "token", 2, 0⟩, ⟨"10.0.0.1", "token", 2, 10⟩, ⟨"10.0.0.1", "token", 2, 20⟩]

theorem fewKeys_threeCalls : FewKeys ⟨60, 1⟩ threeCalls := by
  intro a
  have hsub : ((threeCalls.filter (fun c => a < c.now ∧ c.now ≤ a + ((60 : ℤ) : ℚ))).map
      RateCall.key).toFinset ⊆ {"token:10.0.0.1"} := by
    intro k hk
    obtain ⟨c, hc, rfl⟩ := List.mem_map.1 (List.mem_toFinset.1 hk)
    have hkeys : ∀ d ∈ threeCalls, d.key = "token:10.0.0.1" := by decide
    rw [Finset.mem_singleton]
    exact hkeys c (List.mem_of_mem_filter hc)
  have hone := (Finset.card_le_card hsub).trans_eq (Finset.card_singleton _)
  show (_ : ℤ) ≤ 1
  exact Int.ofNat_le.2 hone

/-- The third call in a minute is one too many for a limit of two. -/
theorem checkRateLimit_sliding_threeCalls :
    rateLog ⟨60, 1⟩ 0 threeCalls = [⟨"token:10.0.0.1", 0, true⟩, ⟨"token:10.0.0.1", 10, true⟩,
        ⟨"token:10.0.0.1", 20, false⟩] ∧
      (2 : ℤ) ≤ (((RateWindow.allowedTimes "token:10.0.0.1"
        [⟨"token:10.0.0.1", 0, true⟩, ⟨"token:10.0.0.1", 10, true⟩]).filter
          (fun t => (20 : ℚ) - t < ((60 : ℤ) : ℚ))).length : ℤ) := by
  have hlog : rateLog ⟨60, 1⟩ 0 threeCalls = [⟨"token:10.0.0.1", 0, true⟩,
      ⟨"token:10.0.0.1", 10, true⟩, ⟨"token:10.0.0.1", 20, false⟩] := by
    decide +kernel
  refine ⟨hlog, ?_⟩
  have hsliding := checkRateLimit_sliding ⟨60, 1⟩ (fun _ => 2) threeCalls 0 (by decide)
    (fun _ => by decide) (by decide) (by decide +kernel) fewKeys_threeCalls
  exact hsliding.2.1 [⟨"token:10.0.0.1", 0, true⟩, ⟨"token:10.0.0.1", 10, true⟩] ⟨"token:10.0.0.1",
    20, false⟩ (by rw [hlog]; exact List.prefix_rfl) rfl

end Ekaette
