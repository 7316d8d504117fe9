import Ekaette.Lib.Dict
import Ekaette.Lib.EventMachine
import Mathlib.Data.Finset.Card
import Mathlib.Tactic.Linarith

set_option autoImplicit false

/-! # The cache of latest images

`tools/vision_tools.py` keeps the latest image of each user and session in one dictionary, under a
joined key. Old images expire; when the dictionary is full, its first key is dropped, and a key that
is written again keeps its place. So the customer whose image is dropped is the one who came first,
not the one who has been silent longest. -/

namespace Ekaette

/-! ## The source -/

/-- A cached image: the bytes, the type, and when it was cached. -/
structure LatestImage where
  imageData : List UInt8
  mimeType : String
  cachedAt : ℚ
  deriving DecidableEq

/-- `_MAX_LATEST_IMAGES` and `_LATEST_IMAGE_TTL`, both at least 1. -/
structure ImageCacheConfig where
  maxImages : ℕ
  ttl : ℚ
  one_le_max : 1 ≤ maxImages
  one_le_ttl : 1 ≤ ttl

/-- `_cache_key`. -/
def cacheKey (userId sessionId : String) : String := userId ++ ":" ++ sessionId

section Source

variable (cfg : ImageCacheConfig)

/-- `_prune_latest_images`; every payload was written by `cache_latest_image`, so none is
    malformed. -/
def pruneLatestImages (now : ℚ) (images : Dict String LatestImage) : Dict String LatestImage :=
  images.filter fun _ image => ¬ image.cachedAt < now - cfg.ttl

/-- The dictionary after the image is written, before it is cut to size. -/
def grownImages (now : ℚ) (userId sessionId : String) (imageData : List UInt8) (mimeType : String)
    (images : Dict String LatestImage) : Dict String LatestImage :=
  (pruneLatestImages cfg now images).set (cacheKey userId sessionId) ⟨imageData, mimeType, now⟩

/-- `cache_latest_image`. -/
def cacheLatestImage (now : ℚ) (userId sessionId : String) (imageData : List UInt8)
    (mimeType : String) (images : Dict String LatestImage) : Dict String LatestImage :=
  let grown := grownImages cfg now userId sessionId imageData mimeType images
  grown.dropOldest (grown.size - cfg.maxImages)

/-- `get_latest_image`. -/
def getLatestImage (now : ℚ) (userId sessionId : String) (images : Dict String LatestImage) :
    Dict String LatestImage × Option LatestImage :=
  let images := pruneLatestImages cfg now images
  (images, images.get? (cacheKey userId sessionId))

end Source

/-! ## Calls -/

inductive ImageCall where
  | cache (userId sessionId : String) (imageData : List UInt8) (mimeType : String)
  | get (userId sessionId : String)

/-- The user and the session of a call. -/
def ImageCall.pair : ImageCall → String × String
  | .cache userId sessionId _ _ => (userId, sessionId)
  | .get userId sessionId => (userId, sessionId)

/-- Whose image a call caches. -/
def ImageCall.cached? : ImageCall → Option (String × String)
  | .cache userId sessionId _ _ => some (userId, sessionId)
  | .get _ _ => none

/-- The calls, at the time that the clock reads. -/
def imageCache (cfg : ImageCacheConfig) :
    EventMachine (Dict String LatestImage) (Timed ℚ ImageCall) (Option LatestImage) where
  step images c :=
    match c.event with
    | .cache userId sessionId imageData mimeType =>
      (cacheLatestImage cfg c.now userId sessionId imageData mimeType images, none)
    | .get userId sessionId => getLatestImage cfg c.now userId sessionId images

abbrev ImageCalls := List (Timed ℚ ImageCall)

/-- The latest image that was cached for a pair, and the calls since. -/
structure LatestCached (past : ImageCalls) (p : String × String) (image : LatestImage)
    (since : ImageCalls) : Prop where
  past_eq : ∃ before,
    past = before ++ ⟨image.cachedAt, .cache p.1 p.2 image.imageData image.mimeType⟩ :: since
  since : ∀ c ∈ since, c.event.cached? ≠ some p

/-- The pairs that were cached. -/
def cachedPairs (calls : ImageCalls) : Finset (String × String) :=
  (calls.filterMap (·.event.cached?)).toFinset

/-- **An answer is faithful**: it is nothing or the pair's latest image, and it is that image as
    long as it has not expired and too few other pairs have been cached since. -/
structure FaithfulImage (cfg : ImageCacheConfig) (past : ImageCalls) (p : String × String) (now : ℚ)
    (answer : Option LatestImage) : Prop where
  sound : ∀ image, answer = some image → ∃ since, LatestCached past p image since
  kept : ∀ image since, LatestCached past p image since → now ≤ image.cachedAt + cfg.ttl →
    (cachedPairs since).card < cfg.maxImages → answer = some image

/-- **The least recent is dropped**: where a call finds no room, every other entry was cached since
    the first one. -/
def DropsLeastRecent (cfg : ImageCacheConfig) (past : ImageCalls) (images : Dict String LatestImage)
    (c : Timed ℚ ImageCall) : Prop :=
  match c.event with
  | .get _ _ => True
  | .cache userId sessionId imageData mimeType =>
    let grown := grownImages cfg c.now userId sessionId imageData mimeType images
    cfg.maxImages < grown.size → ∃ before since first rest, past ++ [c] = before ++ since ∧
      grown.entries = first :: rest ∧ (∀ p ∈ cachedPairs since, cacheKey p.1 p.2 ≠ first.1) ∧
      ∀ e ∈ rest, ∃ p ∈ cachedPairs since, cacheKey p.1 p.2 = e.1

/-! ## What the dictionary holds -/

/-- What is found is a pair's latest image; a pair's latest image is found, unless it has expired or
    enough others were cached since. -/
structure HoldsLatest (cfg : ImageCacheConfig) (past : ImageCalls)
    (images : Dict String LatestImage) : Prop where
  sound : ∀ key image, images.get? key = some image → ∃ p since, key = cacheKey p.1 p.2 ∧
    LatestCached past p image since
  kept : ∀ p image since, LatestCached past p image since →
    images.get? (cacheKey p.1 p.2) = some image ∨
    (∃ c ∈ past, image.cachedAt + cfg.ttl < c.now) ∨ cfg.maxImages ≤ (cachedPairs since).card

theorem mem_cachedPairs {calls : ImageCalls} {p : String × String} :
    p ∈ cachedPairs calls ↔ ∃ c ∈ calls, c.event.cached? = some p := by
  rw [cachedPairs, List.mem_toFinset, List.mem_filterMap]

theorem cachedPairs_subset {calls calls' : ImageCalls} (h : calls ⊆ calls') :
    cachedPairs calls ⊆ cachedPairs calls' := by
  intro p hp
  obtain ⟨c, hc, hcached⟩ := mem_cachedPairs.1 hp
  exact mem_cachedPairs.2 ⟨c, h hc, hcached⟩

theorem LatestCached.append {past since : ImageCalls} {p : String × String} {image : LatestImage}
    (h : LatestCached past p image since) {c : Timed ℚ ImageCall} (hc : c.event.cached? ≠ some p) :
    LatestCached (past ++ [c]) p image (since ++ [c]) := by
  obtain ⟨before, rfl⟩ := h.past_eq
  refine ⟨⟨before, by rw [List.append_assoc]; rfl⟩, fun c' hc' => ?_⟩
  rcases List.mem_append.1 hc' with hc' | hc'
  · exact h.since c' hc'
  · rw [List.mem_singleton.1 hc']
    exact hc

/-- The last call caches the image, or it is about another pair. -/
theorem LatestCached.of_append {past since : ImageCalls} {p : String × String} {image : LatestImage}
    {c : Timed ℚ ImageCall} (h : LatestCached (past ++ [c]) p image since) :
    (since = [] ∧ c = ⟨image.cachedAt, .cache p.1 p.2 image.imageData image.mimeType⟩) ∨
      ∃ since', since = since' ++ [c] ∧ LatestCached past p image since' ∧
      c.event.cached? ≠ some p := by
  obtain ⟨before, hpast⟩ := h.past_eq
  rcases List.eq_nil_or_concat since with rfl | ⟨since', last, rfl⟩
  · obtain ⟨-, hc⟩ := List.append_inj' hpast rfl
    exact .inl ⟨rfl, List.cons_eq_cons.1 hc |>.1⟩
  · rw [List.concat_eq_append, ← List.cons_append, ← List.append_assoc] at hpast
    -- the last call came after the image was cached
    obtain ⟨hbefore, hc⟩ := List.append_inj' hpast rfl
    have hlast : c = last := List.cons_eq_cons.1 hc |>.1
    subst hlast
    refine .inr ⟨since', List.concat_eq_append, ⟨⟨before, hbefore⟩, fun c' hc' => ?_⟩, ?_⟩
    · exact h.since c' (by simp [hc'])
    · exact h.since c (by simp)

section Steps

variable {cfg : ImageCacheConfig} {past : ImageCalls} {images : Dict String LatestImage}

theorem get?_pruneLatestImages (now : ℚ) (images : Dict String LatestImage) (key : String)
    (image : LatestImage) : (pruneLatestImages cfg now images).get? key = some image ↔
      images.get? key = some image ∧ now - cfg.ttl ≤ image.cachedAt := by
  unfold pruneLatestImages
  rw [Dict.get?_filter, Option.filter_eq_some_iff]
  simp

/-- A lookup leaves the rest as it is, up to what has expired. -/
theorem HoldsLatest.get (h : HoldsLatest cfg past images) (now : ℚ) (userId sessionId : String) :
    HoldsLatest cfg (past ++ [⟨now, .get userId sessionId⟩])
    (pruneLatestImages cfg now images) := by
  constructor
  · intro key image hfound
    obtain ⟨p, since, hkey, hlatest⟩ :=
      h.sound key image ((get?_pruneLatestImages now images key image).1 hfound).1
    exact ⟨p, _, hkey, hlatest.append (by rintro ⟨⟩)⟩
  · intro p image since hlatest
    rcases hlatest.of_append with ⟨-, hc⟩ | ⟨since', rfl, hlatest', -⟩
    · cases hc
    · rcases h.kept p image since' hlatest' with hfound | ⟨c, hc, hexpired⟩ | hmany
      · by_cases hfresh : now - cfg.ttl ≤ image.cachedAt
        · exact .inl ((get?_pruneLatestImages now images _ image).2 ⟨hfound, hfresh⟩)
        · refine .inr (.inl ⟨_, List.mem_append_right _ List.mem_cons_self, ?_⟩)
          show image.cachedAt + cfg.ttl < now
          linarith
      · exact .inr (.inl ⟨c, List.mem_append_left _ hc, hexpired⟩)
      · exact .inr (.inr
          (hmany.trans (Finset.card_le_card (cachedPairs_subset (List.subset_append_left _ _)))))

theorem get?_grownImages (now : ℚ) (userId sessionId : String) (imageData : List UInt8)
    (mimeType : String) (images : Dict String LatestImage) (key : String) :
    (grownImages cfg now userId sessionId imageData mimeType images).get? key =
      if key = cacheKey userId sessionId then some ⟨imageData, mimeType, now⟩
      else (pruneLatestImages cfg now images).get? key := by
  unfold grownImages
  rw [Dict.get?_set]

theorem size_grownImages_le (hsize : images.size ≤ cfg.maxImages) (now : ℚ)
    (userId sessionId : String) (imageData : List UInt8) (mimeType : String) :
    (grownImages cfg now userId sessionId imageData mimeType images).size ≤ cfg.maxImages + 1 :=
  (Dict.size_set_le _ _ _).trans (Nat.succ_le_succ ((Dict.size_filter_le _ _).trans hsize))

theorem get?_dropOldest_or_first {grown : Dict String LatestImage} {n : ℕ}
    (hsize : grown.size ≤ n + 1) {key : String}
    {image : LatestImage} (h : grown.get? key = some image) :
    (grown.dropOldest (grown.size - n)).get? key = some image ∨
      (n < grown.size ∧ ∃ rest, grown.entries = (key, image) :: rest) := by
  by_cases hfits : grown.size ≤ n
  · left
    rw [Nat.sub_eq_zero_of_le hfits]
    exact h
  · have hone : grown.size - n = 1 := by omega
    rw [Dict.get?_eq_some_iff] at h
    cases hentries : grown.entries with
    | nil =>
      rw [hentries] at h
      cases h
    | cons first rest =>
      rw [hentries] at h
      rcases List.mem_cons.1 h with rfl | hrest
      · exact .inr ⟨Nat.lt_of_not_le hfits, rest, rfl⟩
      · left
        rw [Dict.get?_eq_some_iff, Dict.entries_dropOldest, hone, hentries]
        exact hrest

/-- The call of a pair is no later than the last calls that leave its key alone. -/
theorem since_subset {before before' since since' : ImageCalls} {p : String × String}
    {c : Timed ℚ ImageCall} (hc : c.event.cached? = some p)
    (h : before ++ c :: since = before' ++ since') (hnot : p ∉ cachedPairs since') :
    since' ⊆ since := by
  rcases List.append_eq_append_iff.1 h with ⟨as, -, hsince⟩ | ⟨as, -, hsince⟩
  · cases as with
    | nil =>
      refine absurd (mem_cachedPairs.2 ⟨c, ?_, hc⟩) hnot
      rw [List.nil_append] at hsince
      rw [← hsince]
      exact List.mem_cons_self
    | cons a as =>
      obtain ⟨-, hrest⟩ := List.cons_eq_cons.1 hsince
      rw [hrest]
      exact List.subset_append_right _ _
  · refine absurd (mem_cachedPairs.2 ⟨c, ?_, hc⟩) hnot
    rw [hsince]
    exact List.mem_append_right _ List.mem_cons_self

theorem length_le_card_cachedPairs {since : ImageCalls} {rest : List (String × LatestImage)}
    (hnodup : (rest.map Prod.fst).Nodup)
    (hcached : ∀ e ∈ rest, ∃ p ∈ cachedPairs since, cacheKey p.1 p.2 = e.1) :
    rest.length ≤ (cachedPairs since).card := by
  have hsub : (rest.map Prod.fst).toFinset ⊆ (cachedPairs since).image fun p => cacheKey p.1 p.2 :=
    by
    intro key hkey
    obtain ⟨e, he, rfl⟩ := List.mem_map.1 (List.mem_toFinset.1 hkey)
    obtain ⟨p, hp, heq⟩ := hcached e he
    exact Finset.mem_image.2 ⟨p, hp, heq⟩
  calc rest.length = (rest.map Prod.fst).toFinset.card := by
        rw [List.toFinset_card_of_nodup hnodup, List.length_map]
    _ ≤ ((cachedPairs since).image fun p => cacheKey p.1 p.2).card := Finset.card_le_card hsub
    _ ≤ (cachedPairs since).card := Finset.card_image_le

theorem get?_cacheLatestImage_self (hsize : images.size ≤ cfg.maxImages) {p : String × String}
    {image : LatestImage} (hdrops : DropsLeastRecent cfg past images
      ⟨image.cachedAt, .cache p.1 p.2 image.imageData image.mimeType⟩) :
    (cacheLatestImage cfg image.cachedAt p.1 p.2 image.imageData image.mimeType images).get?
      (cacheKey p.1 p.2) = some image := by
  have hself : (grownImages cfg image.cachedAt p.1 p.2 image.imageData image.mimeType images).get?
      (cacheKey p.1 p.2) = some image := by
    rw [get?_grownImages, if_pos rfl]
  rcases get?_dropOldest_or_first (size_grownImages_le hsize _ _ _ _ _) hself with
    hfound | ⟨hfull, rest, hentries⟩
  · exact hfound
  · obtain ⟨before, since, first, rest', hpast, hentries', hfirst, hrest⟩ := hdrops hfull
    rw [hentries] at hentries'
    obtain ⟨rfl, rfl⟩ := List.cons_eq_cons.1 hentries'
    -- the first entry is this call's, so no other pair was cached since, and the entry is alone
    have hnone : since = [] := by
      rcases List.eq_nil_or_concat since with hnil | ⟨since', last, rfl⟩
      · exact hnil
      · rw [List.concat_eq_append, ← List.append_assoc] at hpast
        obtain ⟨-, hlast⟩ := List.append_inj' hpast rfl
        obtain ⟨rfl, -⟩ := List.cons_eq_cons.1 hlast
        refine absurd rfl (hfirst p (mem_cachedPairs.2
          ⟨⟨image.cachedAt, .cache p.1 p.2 image.imageData image.mimeType⟩, ?_, rfl⟩))
        rw [List.concat_eq_append]
        exact List.mem_append_right _ List.mem_cons_self
    subst hnone
    have hempty : rest = [] := by
      refine List.eq_nil_iff_forall_not_mem.2 fun e he => ?_
      obtain ⟨q, hq, -⟩ := hrest e he
      obtain ⟨c, hcmem, -⟩ := mem_cachedPairs.1 hq
      cases hcmem
    have hlength : (grownImages cfg image.cachedAt p.1 p.2 image.imageData image.mimeType
        images).size = 1 := by
      rw [Dict.size, hentries, hempty]
      rfl
    have hone := cfg.one_le_max
    omega

/-- **An image is cached**, and if there is no room the least recent one is dropped. -/
theorem HoldsLatest.cache (h : HoldsLatest cfg past images) (hsize : images.size ≤ cfg.maxImages)
    {now : ℚ} {userId sessionId : String} {imageData : List UInt8} {mimeType : String}
    (hkeys : ∀ p ∈ cachedPairs past, cacheKey p.1 p.2 = cacheKey userId sessionId →
      p = (userId, sessionId))
    (hdrops : DropsLeastRecent cfg past images ⟨now, .cache userId sessionId imageData mimeType⟩) :
    HoldsLatest cfg (past ++ [⟨now, .cache userId sessionId imageData mimeType⟩])
      (cacheLatestImage cfg now userId sessionId imageData mimeType images) := by
  have hgrown : ∀ key, (grownImages cfg now userId sessionId imageData mimeType images).get? key =
      _ :=
    get?_grownImages now userId sessionId imageData mimeType images
  have hgrownSize := size_grownImages_le hsize now userId sessionId imageData mimeType
  constructor
  · intro key image hfound
    have hfound' := Dict.get?_of_dropOldest hfound
    rw [hgrown key] at hfound'
    split_ifs at hfound' with hkey
    · refine ⟨(userId, sessionId), [], hkey, ⟨past, ?_⟩, by rintro c ⟨⟩⟩
      rw [← Option.some.inj hfound']
    · obtain ⟨p, since, hp, hlatest⟩ :=
        h.sound key image ((get?_pruneLatestImages now images key image).1 hfound').1
      refine ⟨p, _, hp, hlatest.append fun hsame => hkey ?_⟩
      rw [hp, ← Option.some.inj hsame]
  · intro p image since hlatest
    rcases hlatest.of_append with ⟨rfl, hc⟩ | ⟨since', rfl, hlatest', hother⟩
    · obtain ⟨rfl, hcall⟩ := Timed.mk.inj hc
      obtain ⟨rfl, rfl, rfl, rfl⟩ := ImageCall.cache.inj hcall
      exact .inl (get?_cacheLatestImage_self hsize hdrops)
    · -- the image of another pair: it is kept, it has expired, or it was the first entry
      have hpair : p ∈ cachedPairs past := by
        obtain ⟨before, hpast⟩ := hlatest'.past_eq
        refine mem_cachedPairs.2 ⟨⟨image.cachedAt, .cache p.1 p.2 image.imageData image.mimeType⟩,
          ?_, rfl⟩
        rw [hpast]
        exact List.mem_append_right _ List.mem_cons_self
      have hkey : cacheKey p.1 p.2 ≠ cacheKey userId sessionId := by
        intro hsame
        rw [hkeys p hpair hsame] at hother
        exact hother rfl
      rcases h.kept p image since' hlatest' with hfound | ⟨c, hc, hexpired⟩ | hmany
      · by_cases hfresh : now - cfg.ttl ≤ image.cachedAt
        · have hself : (grownImages cfg now userId sessionId imageData mimeType images).get?
              (cacheKey p.1 p.2) = some image := by
            rw [hgrown, if_neg hkey]
            exact (get?_pruneLatestImages now images _ image).2 ⟨hfound, hfresh⟩
          rcases get?_dropOldest_or_first hgrownSize hself with hfound' | ⟨hfull, rest, hentries⟩
          · exact .inl hfound'
          · -- every other entry was cached since
            obtain ⟨before, since, first, rest', hpast, hentries', hfirst, hrest⟩ := hdrops hfull
            rw [hentries] at hentries'
            obtain ⟨rfl, rfl⟩ := List.cons_eq_cons.1 hentries'
            obtain ⟨before', hbefore⟩ := hlatest.past_eq
            -- so they were cached after the image was
            have hsub :=
              since_subset (p := p) rfl (hbefore.symm.trans hpast) (fun hp => hfirst p hp rfl)
            have hnodup : (rest.map Prod.fst).Nodup := by
              have hall := (grownImages cfg now userId sessionId imageData mimeType images).nodup
              rw [hentries, List.map_cons] at hall
              exact (List.nodup_cons.1 hall).2
            have hlength : cfg.maxImages ≤ rest.length := by
              rw [Dict.size, hentries, List.length_cons] at hfull
              omega
            exact .inr (.inr ((hlength.trans (length_le_card_cachedPairs hnodup hrest)).trans
              (Finset.card_le_card (cachedPairs_subset hsub))))
        · refine .inr (.inl ⟨_, List.mem_append_right _ List.mem_cons_self, ?_⟩)
          show image.cachedAt + cfg.ttl < now
          linarith
      · exact .inr (.inl ⟨c, List.mem_append_left _ hc, hexpired⟩)
      · exact .inr (.inr
          (hmany.trans (Finset.card_le_card (cachedPairs_subset (List.subset_append_left _ _)))))

/-- What a lookup answers. -/
theorem HoldsLatest.faithful (h : HoldsLatest cfg past images) {now : ℚ}
    (hclock : ∀ c ∈ past, c.now ≤ now) {p : String × String}
    (hkeys : ∀ q ∈ cachedPairs past, cacheKey q.1 q.2 = cacheKey p.1 p.2 → q = p) :
    FaithfulImage cfg past p now ((pruneLatestImages cfg now images).get? (cacheKey p.1 p.2)) := by
  constructor
  · intro image hfound
    obtain ⟨q, since, hq, hlatest⟩ :=
      h.sound _ image ((get?_pruneLatestImages now images _ image).1 hfound).1
    obtain ⟨before, hpast⟩ := hlatest.past_eq
    have hmem : q ∈ cachedPairs past := by
      refine mem_cachedPairs.2 ⟨⟨image.cachedAt, .cache q.1 q.2 image.imageData image.mimeType⟩, ?_,
        rfl⟩
      rw [hpast]
      exact List.mem_append_right _ List.mem_cons_self
    rw [← hkeys q hmem hq.symm]
    exact ⟨since, hlatest⟩
  · intro image since hlatest hfresh hfew
    rcases h.kept p image since hlatest with hfound | ⟨c, hc, hexpired⟩ | hmany
    · exact (get?_pruneLatestImages now images _ image).2 ⟨hfound, by linarith⟩
    · have hle := hclock c hc
      linarith
    · omega

end Steps

/-! ## Runs -/

section Runs

variable (cfg : ImageCacheConfig)

theorem size_next_le (images : Dict String LatestImage) (hsize : images.size ≤ cfg.maxImages)
    (c : Timed ℚ ImageCall) : ((imageCache cfg).next images c).size ≤ cfg.maxImages := by
  obtain ⟨now, call⟩ := c
  cases call with
  | cache userId sessionId imageData mimeType =>
    show (cacheLatestImage cfg now userId sessionId imageData mimeType images).size ≤ cfg.maxImages
    rw [cacheLatestImage, Dict.size, Dict.entries_dropOldest, List.length_drop]
    show (grownImages cfg now userId sessionId imageData mimeType images).entries.length -
      ((grownImages cfg now userId sessionId imageData mimeType images).entries.length -
        cfg.maxImages) ≤ _
    omega
  | get userId sessionId =>
    show (pruneLatestImages cfg now images).size ≤ cfg.maxImages
    exact (Dict.size_filter_le _ _).trans hsize

/-- **The cache never exceeds its size.** -/
theorem size_always_le (calls : ImageCalls) :
    (imageCache cfg).Always (fun images => images.size ≤ cfg.maxImages) .empty calls :=
  (imageCache cfg).always_of_guarded (G := fun _ _ => True)
    (fun s c hs _ => size_next_le cfg s hs c) (Nat.zero_le _) (fun _ _ => trivial)

/-- **Every answer is faithful** in a run whose pairs have different keys, and in which a full cache
    drops its least recent entry. -/
theorem latestImage_run (calls : ImageCalls) (hclock : calls.Pairwise (fun c c' => c.now ≤ c'.now))
    (hkeys : ∀ c ∈ calls, ∀ c' ∈ calls, cacheKey c.event.pair.1 c.event.pair.2 =
      cacheKey c'.event.pair.1 c'.event.pair.2 → c.event.pair = c'.event.pair)
    (hdrops : ∀ log t, log ++ [t] <+: (imageCache cfg).trace .empty calls →
      DropsLeastRecent cfg (log.map (·.event)) t.pre t.event) :
    (∀ log t, log ++ [t] <+: (imageCache cfg).trace .empty calls → ∀ userId sessionId,
        t.event.event = .get userId sessionId →
          FaithfulImage cfg (log.map (·.event)) (userId, sessionId) t.event.now t.answer) ∧
      (imageCache cfg).Always (fun images => images.size ≤ cfg.maxImages) .empty calls := by
  refine ⟨?_, size_always_le cfg calls⟩
  have hevents := (imageCache cfg).trace_pairwise_event (s := .empty) hclock
  refine (imageCache cfg).trace_forall
    (C := fun log images => HoldsLatest cfg (log.map (·.event)) images ∧
      images.size ≤ cfg.maxImages) ?_ ?_
  · refine ⟨⟨by rintro key image ⟨⟩, ?_⟩, Nat.zero_le _⟩
    rintro p image since ⟨⟨before, hpast⟩, -⟩
    exact absurd hpast.symm (List.append_ne_nil_of_right_ne_nil _ (List.cons_ne_nil _ _))
  · rintro log images ⟨now, call⟩ hlog ⟨hholds, hsize⟩
    have hbefore : ∀ c ∈ log.map (·.event), c.now ≤ now := by
      intro c hc
      obtain ⟨entry, hentry, rfl⟩ := List.mem_map.1 hc
      exact EventMachine.rel_of_prefix hevents hlog entry hentry
    have hcalls : log.map (·.event) ++ [⟨now, call⟩] ⊆ calls := by
      have hprefix := hlog.map (·.event)
      rw [List.map_append, EventMachine.trace_map_event] at hprefix
      exact hprefix.subset
    have hpairs : ∀ p ∈ cachedPairs (log.map (·.event)),
        cacheKey p.1 p.2 = cacheKey call.pair.1 call.pair.2 → p = call.pair := by
      intro p hp hkey
      obtain ⟨c, hc, hcached⟩ := mem_cachedPairs.1 hp
      have hpair : c.event.pair = p := by
        obtain ⟨time, event⟩ := c
        cases event with
        | cache userId sessionId imageData mimeType => exact Option.some.inj hcached
        | get userId sessionId => cases hcached
      rw [← hpair] at hkey ⊢
      exact hkeys c (hcalls (List.mem_append_left _ hc)) ⟨now, call⟩
        (hcalls (List.mem_append_right _ List.mem_cons_self)) hkey
    rw [List.map_append]
    cases call with
    | cache userId sessionId imageData mimeType =>
      refine ⟨?_, hholds.cache hsize hpairs (hdrops log _ hlog), size_next_le cfg images hsize _⟩
      rintro userId' sessionId' ⟨⟩
    | get userId sessionId =>
      refine ⟨?_, hholds.get now userId sessionId, size_next_le cfg images hsize _⟩
      rintro userId' sessionId' hcall
      obtain ⟨rfl, rfl⟩ := ImageCall.get.inj hcall
      exact hholds.faithful hbefore hpairs

/-- A cache for two images. -/
def smallImageCache : ImageCacheConfig := ⟨2, 900, by decide, by norm_num⟩

/-- A customer's photo. -/
def cachePhoto (now : ℚ) (userId : String) : Timed ℚ ImageCall :=
  ⟨now, .cache userId "s" [0] "image/png"⟩

def getPhoto (now : ℚ) (userId : String) : Timed ℚ ImageCall := ⟨now, .get userId "s"⟩

end Runs

/-- A photo is found a second after it was cached. -/
theorem latestImage_run_photo :
    (1 : ℕ) ≤ smallImageCache.maxImages ∧
      (∀ log t, log ++ [t] <+: (imageCache smallImageCache).trace .empty [cachePhoto 0 "a",
        getPhoto 1 "a"] → ∀ userId sessionId, t.event.event = .get userId sessionId →
          FaithfulImage smallImageCache (log.map (·.event))
          (userId, sessionId) t.event.now t.answer) ∧
      (imageCache smallImageCache).Always (fun images => images.size ≤ smallImageCache.maxImages)
        .empty [cachePhoto 0 "a", getPhoto 1 "a"] := by
  refine ⟨by decide, latestImage_run smallImageCache _ (by simp [cachePhoto, getPhoto]) ?_ ?_⟩
  · intro c hc c' hc' _
    have hpair : ∀ c ∈ [cachePhoto 0 "a", getPhoto 1 "a"], c.event.pair = ("a", "s") := by
      intro c hc
      rcases List.mem_cons.1 hc with rfl | hc
      · rfl
      · rw [List.mem_singleton.1 hc]
        rfl
    rw [hpair c hc, hpair c' hc']
  · intro log t hlog
    match log with
    | [] =>
      obtain ⟨rfl, -⟩ := List.cons_prefix_cons.1 hlog
      intro hfull
      exact absurd hfull (by decide +kernel)
    | [x] =>
      obtain ⟨rfl, hrest⟩ := List.cons_prefix_cons.1 hlog
      obtain ⟨rfl, -⟩ := List.cons_prefix_cons.1 hrest
      exact trivial
    | x :: y :: rest =>
      have hlength := hlog.length_le
      simp at hlength

/-- The calls of three customers: the first one's photo is cached again before the third one's. -/
def threeCustomers : ImageCalls :=
  [cachePhoto 0 "a", cachePhoto 1 "b", cachePhoto 2 "a", cachePhoto 3 "c", getPhoto 4 "a"]

/-- The first customer's new photo is dropped, with one other cached since; and a photo is found
    under another user's name. -/
theorem latestImage_dropped :
    (¬ ∀ log t, log ++ [t] <+: (imageCache smallImageCache).trace .empty threeCustomers →
      ∀ userId sessionId, t.event.event = .get userId sessionId →
        FaithfulImage smallImageCache (log.map (·.event)) (userId, sessionId) t.event.now t.answer)
          ∧
    ¬ ∀ log t, log ++ [t] <+: (imageCache smallImageCache).trace .empty
        [⟨0, .cache "a" "b:c" [0] "image/png"⟩, ⟨1, .get "a:b" "c"⟩] → ∀ userId sessionId,
      t.event.event = .get userId sessionId →
        FaithfulImage smallImageCache (log.map (·.event))
        (userId, sessionId) t.event.now t.answer := by
  constructor
  · intro h
    have hanswer : ((imageCache smallImageCache).trace .empty threeCustomers)[4]?.map (·.answer) =
        some none := by
      decide +kernel
    have hlog : ((imageCache smallImageCache).trace .empty threeCustomers).take 4 ++
        [((imageCache smallImageCache).entry
          ((imageCache smallImageCache).run .empty (threeCustomers.take 4)) (getPhoto 4 "a"))] <+:
          (imageCache smallImageCache).trace .empty threeCustomers := List.prefix_rfl
    have hkept := (h _ _ hlog "a" "s" rfl).kept ⟨[0], "image/png", 2⟩ [cachePhoto 3 "c"]
      ⟨⟨[cachePhoto 0 "a", cachePhoto 1 "b"], rfl⟩, by simp [cachePhoto, ImageCall.cached?]⟩
      (by decide +kernel) (by decide +kernel)
    have hnone : ((imageCache smallImageCache).entry
        ((imageCache smallImageCache).run .empty (threeCustomers.take 4)) (getPhoto 4 "a")).answer =
          none :=
      Option.some.inj hanswer
    rw [hnone] at hkept
    cases hkept
  · intro h
    have hlog : [(imageCache smallImageCache).entry .empty ⟨0, .cache "a" "b:c" [0] "image/png"⟩] ++
        [(imageCache smallImageCache).entry ((imageCache smallImageCache).next .empty
          ⟨0, .cache "a" "b:c" [0] "image/png"⟩) ⟨1, .get "a:b" "c"⟩] <+:
            (imageCache smallImageCache).trace .empty
        [⟨0, .cache "a" "b:c" [0] "image/png"⟩, ⟨1, .get "a:b" "c"⟩] := List.prefix_rfl
    have hanswer : ((imageCache smallImageCache).entry ((imageCache smallImageCache).next .empty
        ⟨0, .cache "a" "b:c" [0] "image/png"⟩) ⟨1, .get "a:b" "c"⟩).answer = some ⟨[0], "image/png",
          0⟩ := by
      decide +kernel
    obtain ⟨since, hlatest⟩ := (h _ _ hlog "a:b" "c" rfl).sound _ hanswer
    obtain ⟨before, hpast⟩ := hlatest.past_eq
    have hmem : (⟨0, .cache "a:b" "c" [0] "image/png"⟩ : Timed ℚ ImageCall) ∈
        [(⟨0, .cache "a" "b:c" [0] "image/png"⟩ : Timed ℚ ImageCall)] := by
      have hsame : [(⟨0, .cache "a" "b:c" [0] "image/png"⟩ : Timed ℚ ImageCall)] =
          before ++ ⟨0, .cache "a:b" "c" [0] "image/png"⟩ :: since := hpast
      rw [hsame]
      exact List.mem_append_right _ List.mem_cons_self
    simp at hmem

end Ekaette
