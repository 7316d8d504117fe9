import Mathlib.Order.Basic

set_option autoImplicit false

/-! # Sending once under a flag

Participants `ι` send over channels `χ`. Whoever finds a shared flag unset may send, once over each
channel, and sets the flag afterwards. Finding and setting are no single step, so the flag alone
does not keep two participants from sending; it does if whoever starts to send is alone. -/

/-- The flag, what was sent, who is about to send, and what has been sent while the flag is not set
    yet. -/
structure Senders (ι χ : Type) where
  recorded : Prop
  sent : χ → ℕ
  sending : ι → Prop
  unrecorded : ι → χ → Prop

namespace Senders

variable {ι χ : Type}

/-- A participant that is about to send, or has not set the flag for what it sent. -/
def Pending (v : Senders ι χ) (i : ι) : Prop := v.sending i ∨ ∃ c, v.unrecorded i c

/-- Only the participant `i` differs. -/
def Frame (i : ι) (v v' : Senders ι χ) : Prop :=
  ∀ j, j ≠ i → (v'.sending j ↔ v.sending j) ∧ ∀ c, v'.unrecorded j c ↔ v.unrecorded j c

/-- A participant does something else, starts to send alone, sends, or sets the flag for what it
    sent. -/
inductive Step [DecidableEq χ] (v v' : Senders ι χ) : Prop where
  | other (i : ι) (frame : Frame i v v') (recorded : v'.recorded ↔ v.recorded)
    (sent : v'.sent = v.sent)
      (sending : v'.sending i → v.sending i) (unrecorded : ∀ c, v'.unrecorded i c ↔
        v.unrecorded i c)
  | start (i : ι) (frame : Frame i v v') (recorded : v'.recorded ↔ v.recorded)
    (sent : v'.sent = v.sent)
      (unset : v'.sending i → ¬ v.recorded) (alone : v'.sending i → ∀ j, j ≠ i → ¬ v.Pending j)
      (before : ∀ c, ¬ v.unrecorded i c) (after : ∀ c, ¬ v'.unrecorded i c)
  | send (i : ι) (c : χ) (frame : Frame i v v') (recorded : v'.recorded ↔ v.recorded)
      (sending : v.sending i) (new : ¬ v.unrecorded i c)
      (sent : v'.sent = Function.update v.sent c (v.sent c + 1))
      (unrecorded : ∀ c', v'.unrecorded i c' ↔ c' = c ∨ v.unrecorded i c')
  | record (i : ι) (frame : Frame i v v') (recorded : v'.recorded) (sent : v'.sent = v.sent)
      (sending : ¬ v'.sending i) (before : ∃ c, v.unrecorded i c)
      (after : ∀ c, v'.unrecorded i c → v.unrecorded i c)

/-- The invariant: a sender is alone, none is left when the flag is set, and nothing was sent
    twice. -/
structure Sound (v : Senders ι χ) : Prop where
  single : ∀ i j, v.sending i → v.Pending j → i = j
  closed : v.recorded → ∀ i, ¬ v.sending i
  once : ∀ c, v.sent c ≤ 1
  saved : ∀ c, 0 < v.sent c → v.recorded ∨ ∃ i, v.unrecorded i c

theorem Frame.pending {i : ι} {v v' : Senders ι χ} (h : Frame i v v') {j : ι} (hj : j ≠ i) :
    v'.Pending j ↔ v.Pending j :=
  or_congr (h j hj).1 (exists_congr (h j hj).2)

variable [DecidableEq χ] {v v' : Senders ι χ}

/-- **Nothing is sent twice.** -/
theorem Sound.step (hv : Sound v) (h : Step v v') : Sound v' := by
  cases h with
  | other i hframe hrecorded hsent hsending hunrecorded =>
    have hpending : ∀ j, v'.Pending j → v.Pending j := by
      intro j hj
      by_cases hji : j = i
      · subst hji
        exact hj.imp hsending fun ⟨c, hc⟩ => ⟨c, (hunrecorded c).1 hc⟩
      · exact (hframe.pending hji).1 hj
    have hsends : ∀ j, v'.sending j → v.sending j := by
      intro j hj
      by_cases hji : j = i
      · exact hji ▸ hsending (hji ▸ hj)
      · exact (hframe j hji).1.1 hj
    refine ⟨fun j k hj hk => hv.single j k (hsends j hj) (hpending k hk),
      fun hset j hj => hv.closed (hrecorded.1 hset) j (hsends j hj), ?_, fun c hc => ?_⟩
    · rw [hsent]
      exact hv.once
    · rw [hsent] at hc
      refine (hv.saved c hc).imp hrecorded.2 fun ⟨j, hj⟩ => ⟨j, ?_⟩
      by_cases hji : j = i
      · exact hji ▸ (hunrecorded c).2 (hji ▸ hj)
      · exact ((hframe j hji).2 c).2 hj
  | start i hframe hrecorded hsent hunset halone hbefore hafter =>
    have hself : v'.Pending i → v'.sending i :=
      fun h => h.elim id fun ⟨c, hc⟩ => absurd hc (hafter c)
    refine ⟨fun j k hj hk => ?_, fun hset j hj => ?_, ?_, fun c hc => ?_⟩
    · by_cases hji : j = i
      · subst hji
        by_contra hne
        exact halone hj k (Ne.symm hne) ((hframe.pending (Ne.symm hne)).1 hk)
      · have hj' := (hframe j hji).1.1 hj
        by_cases hki : k = i
        · subst hki
          exact absurd (.inl hj') (halone (hself hk) j hji)
        · exact hv.single j k hj' ((hframe.pending hki).1 hk)
    · by_cases hji : j = i
      · subst hji
        exact hunset hj (hrecorded.1 hset)
      · exact hv.closed (hrecorded.1 hset) j ((hframe j hji).1.1 hj)
    · rw [hsent]
      exact hv.once
    · rw [hsent] at hc
      refine (hv.saved c hc).imp hrecorded.2 fun ⟨j, hj⟩ => ⟨j, ?_⟩
      have hji : j ≠ i := by
        rintro rfl
        exact hbefore c hj
      exact ((hframe j hji).2 c).2 hj
  | send i c hframe hrecorded hsending hnew hsent hunrecorded =>
    have hunset : ¬ v.recorded := fun hset => hv.closed hset i hsending
    -- whoever else was pending would have to be the sender
    have halone : ∀ j, j ≠ i → ¬ v.Pending j := fun j hji hj => hji (hv.single i j hsending hj).symm
    have honly : ∀ j, v'.Pending j → j = i := by
      intro j hj
      by_contra hji
      exact halone j hji ((hframe.pending hji).1 hj)
    refine ⟨fun j k hj hk => (honly j (.inl hj)).trans (honly k hk).symm,
      fun hset => absurd (hrecorded.1 hset) hunset, fun c' => ?_, fun c' hc' => .inr ⟨i, ?_⟩⟩
    · rw [hsent]
      by_cases hcc : c' = c
      · subst hcc
        have hzero : v.sent c' = 0 := by
          by_contra hne
          rcases hv.saved c' (Nat.pos_of_ne_zero hne) with hset | ⟨j, hj⟩
          · exact hunset hset
          · have hji : j = i := by
              by_contra hji
              exact halone j hji (.inr ⟨c', hj⟩)
            exact hnew (hji ▸ hj)
        have hone : Function.update v.sent c' (v.sent c' + 1) c' = 1 := by
          rw [Function.update_self, hzero]
        exact Nat.le_of_eq hone
      · rw [Function.update_of_ne hcc]
        exact hv.once c'
    · rw [hunrecorded]
      by_cases hcc : c' = c
      · exact .inl hcc
      · rw [hsent, Function.update_of_ne hcc] at hc'
        rcases hv.saved c' hc' with hset | ⟨j, hj⟩
        · exact absurd hset hunset
        · have hji : j = i := by
            by_contra hji
            exact halone j hji (.inr ⟨c', hj⟩)
          exact .inr (hji ▸ hj)
  | record i hframe hrecorded hsent hsending hbefore hafter =>
    have hnone : ∀ j, ¬ v'.sending j := by
      intro j hj
      by_cases hji : j = i
      · exact hsending (hji ▸ hj)
      · exact hji (hv.single j i ((hframe j hji).1.1 hj) (.inr hbefore))
    refine ⟨fun j k hj _ => absurd hj (hnone j), fun _ => hnone, ?_, fun _ _ => .inl hrecorded⟩
    rw [hsent]
    exact hv.once

end Senders
