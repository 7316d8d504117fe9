import Ekaette.Lib.PyStr
import Ekaette.Lib.Regex

set_option autoImplicit false

/-! # Contact data in a text

`tools/pii_redaction.py`: the patterns of phone numbers and e-mail addresses, and what `redact_pii`
writes for what they match. -/

namespace Ekaette

/-- `\d` and `\w` of `re`, for all of Unicode. -/
structure CharClasses where
  digit : Char → Bool
  word : Char → Bool

/-- `p{m,n}` -/
def repeated (p : Char → Bool) (m n : ℕ) : Rx := .seq (.exactly p m) (.atMost p (n - m))

/-- `p{m,}` -/
def repeatedFrom (p : Char → Bool) (m : ℕ) : Rx := .seq (.exactly p m) (.many p)

/-- A pattern, and whether it begins and ends at a `\b`, beside a `\w` of its own. -/
structure BoundedPattern where
  rx : Rx
  bounded : Bool

section Patterns

variable (cls : CharClasses)

/-- `[\s\-]?` -/
def separator : Rx := .atMost (fun c => PyStr.isSpace c || c = '-') 1

/-- `[\d\s\-]` -/
def phoneChar (c : Char) : Bool := cls.digit c || PyStr.isSpace c || c = '-'

/-- `_PHONE_INTL_RE` -/
def phoneIntl : BoundedPattern where
  rx := .seq (.one (· = '+')) (.seq (.group 1 (repeated cls.digit 1 3)) (.seq separator
    (.seq (.group 2 (repeated cls.digit 1 4)) (.seq separator
      (.seq (.one cls.digit) (.seq (repeated (phoneChar cls) 4 10) (.one cls.digit)))))))
  bounded := false

/-- `_PHONE_NG_LOCAL_RE` -/
def phoneNgLocal : BoundedPattern where
  rx := .seq (.group 1 (.seq (.one (· = '0')) (.seq (.one fun c => c = '7' || c = '8' || c = '9')
    (.one cls.digit))))
    (.seq separator (.seq (.one cls.digit) (.seq (repeated (phoneChar cls) 5 8) (.one cls.digit))))
  bounded := true

/-- `[a-zA-Z]` -/
def asciiLetter (c : Char) : Bool := ('a' ≤ c && c ≤ 'z') || ('A' ≤ c && c ≤ 'Z')

/-- `[a-zA-Z0-9.-]` -/
def domainChar (c : Char) : Bool := asciiLetter c || ('0' ≤ c && c ≤ '9') || c = '.' || c = '-'

/-- `[a-zA-Z0-9._%+-]` -/
def localChar (c : Char) : Bool := domainChar c || c = '_' || c = '%' || c = '+'

/-- `[a-zA-Z0-9.-]{1,253}\.[a-zA-Z]{2,}` -/
def emailDomain : Rx :=
  .seq (repeated domainChar 1 253) (.seq (.one (· = '.')) (repeatedFrom asciiLetter 2))

/-- `_EMAIL_RE` -/
def email : BoundedPattern where
  rx := .seq (repeated localChar 1 64) (.group 1 (.seq (.one (· = '@')) emailDomain))
  bounded := false

/-- No word goes on here. -/
def atBoundary (c : Option Char) : Bool := !c.any cls.word

/-- The match at the start of a text, behind the character `before`. -/
def BoundedPattern.matchAt (r : BoundedPattern) (before : Option Char) (text : List Char) :
    Option Rx.Match :=
  if r.bounded then
    if atBoundary cls before then (r.rx.run text).find? fun m => atBoundary cls m.rest.head?
    else none
  else r.rx.matchAt text

/-- `re.search(text) is not None`, for what is behind the character `before`. -/
def BoundedPattern.found (r : BoundedPattern) : Option Char → List Char → Bool
  | _, [] => false
  | before, c :: cs => (r.matchAt cls before (c :: cs)).isSome || r.found (some c) cs

/-- `re.sub(mask, text)`; the first `skip` characters belong to the match before. -/
def BoundedPattern.sub (r : BoundedPattern) (mask : Rx.Match → List Char) :
    ℕ → Option Char → List Char → List Char
  | _, _, [] => []
  | skip + 1, _, c :: cs => r.sub mask skip (some c) cs
  | 0, before, c :: cs =>
    match r.matchAt cls before (c :: cs) with
    | none => c :: r.sub mask 0 (some c) cs
    | some m => mask m ++ r.sub mask (cs.length - m.rest.length) (some c) cs

/-- `match.group(i)` -/
def groupText (m : Rx.Match) (i : ℕ) : List Char := (m.groups.lookup i).getD []

def stars : List Char := ['*', '*', '*']

/-- `_mask_intl_phone` -/
def maskIntlPhone (m : Rx.Match) : List Char := '+' :: (groupText m 1 ++ groupText m 2 ++ stars)

/-- `_mask_ng_local_phone` -/
def maskNgLocalPhone (m : Rx.Match) : List Char := groupText m 1 ++ stars

/-- `_mask_email` -/
def maskEmail (m : Rx.Match) : List Char := stars ++ groupText m 1

/-- The text matches one of the patterns. -/
def matchesPii (text : String) : Bool :=
  (phoneIntl cls).found cls none text.toList || (phoneNgLocal cls).found cls none text.toList ||
    email.found cls none text.toList

/-- `redact_pii` -/
def redactPii (text : String) : String :=
  let result := (phoneIntl cls).sub cls maskIntlPhone 0 none text.toList
  let result := (phoneNgLocal cls).sub cls maskNgLocalPhone 0 none result
  String.ofList (email.sub cls maskEmail 0 none result)

end Patterns

/-! ## Texts of the patterns -/

/-- What is relied on of the classes: which characters of ASCII they hold. -/
structure CharClasses.Lawful (cls : CharClasses) : Prop where
  digit_ascii : ∀ c, c.toNat < 128 → cls.digit c = c.isDigit
  word_ascii : ∀ c, c.toNat < 128 → cls.word c = (c.isAlphanum || c = '_')

/-- A text that a pattern describes, whatever is around it. -/
def BoundedPattern.Accepts (r : BoundedPattern) (w : List Char) : Prop := ∃ gs, r.rx.Parses w gs

section Texts

variable {cls : CharClasses} {w : List Char} {gs : List (ℕ × List Char)} {m : Rx.Match}

theorem parses_repeated {p : Char → Bool} {k n : ℕ} (hkn : k ≤ n) : (repeated p k n).Parses w gs ↔
    (k ≤ w.length ∧ w.length ≤ n) ∧ (∀ c ∈ w, p c = true) ∧ gs = [] := by
  constructor
  · rintro ⟨u, _, v, _, rfl, rfl, hu, hv⟩
    obtain ⟨hlength, hall, rfl⟩ := Rx.parses_exactly.1 hu
    obtain ⟨hle, hall', rfl⟩ := Rx.parses_atMost.1 hv
    rw [List.length_append]
    exact ⟨by omega, List.forall_mem_append.2 ⟨hall, hall'⟩, rfl⟩
  · rintro ⟨hlength, hall, rfl⟩
    refine ⟨w.take k, [], w.drop k, [], (List.take_append_drop k w).symm, rfl,
      Rx.parses_exactly.2 ⟨List.length_take_of_le hlength.1, ?_, rfl⟩,
      Rx.parses_atMost.2 ⟨?_, ?_, rfl⟩⟩
    · exact fun c hc => hall c (List.mem_of_mem_take hc)
    · rw [List.length_drop]
      omega
    · exact fun c hc => hall c (List.mem_of_mem_drop hc)

theorem parses_separator (h : separator.Parses w gs) :
    (∀ c ∈ w, phoneChar cls c = true) ∧ gs = [] := by
  obtain ⟨-, hall, rfl⟩ := Rx.parses_atMost.1 h
  refine ⟨fun c hc => ?_, rfl⟩
  rw [phoneChar, Bool.or_assoc, hall c hc, Bool.or_true]

theorem phoneChar_of_digit {c : Char} (h : cls.digit c = true) : phoneChar cls c = true := by
  rw [phoneChar, h, Bool.true_or, Bool.true_or]

/-- An international number, and what its mask shows. -/
theorem parses_phoneIntl (h : (phoneIntl cls).rx.Parses w m.groups) :
    (∃ v, w = '+' :: v ∧ 8 ≤ v.length ∧ ∀ c ∈ v, phoneChar cls c = true) ∧
      ∃ ds, maskIntlPhone m = '+' :: ds ++ stars ∧ ds.length ≤ 7 ∧
        ∀ d ∈ ds, cls.digit d = true := by
  obtain ⟨rest, groups⟩ := m
  obtain ⟨_, _, _, _, rfl, hgroups, ⟨⟨c, rfl, hc⟩, rfl⟩, g₁, _, _, _, rfl, rfl, ⟨_, rfl, hg₁⟩, s₁,
    _, _, _, rfl, rfl, hs₁, g₂, _, _, _, rfl, rfl, ⟨_, rfl, hg₂⟩, s₂, _, _, _, rfl, rfl, hs₂, _, _,
    _, _, rfl, rfl, ⟨⟨d, rfl, hd⟩, rfl⟩, v, _, _, _, rfl, rfl, hv, ⟨e, rfl, he⟩, rfl⟩ := h
  obtain ⟨hlen₁, hcountry, rfl⟩ := (parses_repeated (by decide)).1 hg₁
  obtain ⟨hsep₁, rfl⟩ := parses_separator (h := hs₁)
  obtain ⟨hlen₂, harea, rfl⟩ := (parses_repeated (by decide)).1 hg₂
  obtain ⟨hsep₂, rfl⟩ := parses_separator (h := hs₂)
  obtain ⟨hlen, hall, rfl⟩ := (parses_repeated (by decide)).1 hv
  obtain rfl : c = '+' := of_decide_eq_true hc
  change groups = [(1, g₁), (2, g₂)] at hgroups
  subst hgroups
  refine ⟨⟨g₁ ++ (s₁ ++ (g₂ ++ (s₂ ++ ([d] ++ (v ++ [e]))))), rfl, ?_, ?_⟩, g₁ ++ g₂, rfl, ?_,
    List.forall_mem_append.2 ⟨hcountry, harea⟩⟩
  · simp only [List.length_append, List.length_singleton]
    omega
  · simp only [List.forall_mem_append, List.forall_mem_singleton]
    exact ⟨fun c hc => phoneChar_of_digit (hcountry c hc), hsep₁,
      fun c hc => phoneChar_of_digit (harea c hc), hsep₂, phoneChar_of_digit hd, hall,
      phoneChar_of_digit he⟩
  · rw [List.length_append]
    omega

theorem parses_phoneNgLocal (hcls : cls.Lawful) (h : (phoneNgLocal cls).rx.Parses w m.groups) :
    (10 ≤ w.length ∧ ∀ c ∈ w, phoneChar cls c = true) ∧
      ∃ g, maskNgLocalPhone m = g ++ stars ∧ g.length = 3 ∧ g <+: w := by
  obtain ⟨rest, groups⟩ := m
  obtain ⟨g, _, _, _, rfl, hgroups, ⟨_, rfl, _, _, _, _, rfl, rfl, ⟨⟨x, rfl, hx⟩, rfl⟩, _, _, _, _,
    rfl, rfl, ⟨⟨y, rfl, hy⟩, rfl⟩, ⟨z, rfl, hz⟩, rfl⟩, s, _, _, _, rfl, rfl, hs, _, _, _, _, rfl,
    rfl, ⟨⟨d, rfl, hd⟩, rfl⟩, v, _, _, _, rfl, rfl, hv, ⟨e, rfl, he⟩, rfl⟩ := h
  obtain ⟨hsep, rfl⟩ := parses_separator (h := hs)
  obtain ⟨hlen, hall, rfl⟩ := (parses_repeated (by decide)).1 hv
  change groups = [(1, [x, y, z])] at hgroups
  subst hgroups
  have hx : cls.digit x = true := of_decide_eq_true hx ▸ hcls.digit_ascii '0' (by decide)
  have hy : cls.digit y = true := by
    simp only [Bool.or_eq_true, decide_eq_true_eq] at hy
    rcases hy with (rfl | rfl) | rfl
    · exact hcls.digit_ascii '7' (by decide)
    · exact hcls.digit_ascii '8' (by decide)
    · exact hcls.digit_ascii '9' (by decide)
  refine ⟨⟨?_, ?_⟩, [x, y, z], rfl, rfl, List.prefix_append _ _⟩
  · simp only [List.length_append, List.length_singleton]
    omega
  · simp only [List.forall_mem_append, List.forall_mem_singleton]
    exact ⟨⟨phoneChar_of_digit hx, phoneChar_of_digit hy, phoneChar_of_digit hz⟩, hsep,
      phoneChar_of_digit hd, hall, phoneChar_of_digit he⟩

theorem domainChar_of_asciiLetter {c : Char} (h : asciiLetter c = true) : domainChar c = true := by
  rw [domainChar, h, Bool.true_or, Bool.true_or, Bool.true_or]

theorem parses_emailDomain (h : emailDomain.Parses w gs) : (∀ c ∈ w, domainChar c = true) ∧
    (∃ u c, w = u ++ [c] ∧ asciiLetter c = true) ∧ gs = [] := by
  obtain ⟨a, _, _, _, rfl, rfl, ha, _, _, _, _, rfl, rfl, ⟨⟨d, rfl, hd⟩, rfl⟩, u, _, v, _, rfl, rfl,
    hu, hv, rfl⟩ := h
  obtain ⟨-, hall, rfl⟩ := (parses_repeated (by decide)).1 ha
  obtain ⟨hlength, hletters, rfl⟩ := Rx.parses_exactly.1 hu
  replace hletters : ∀ c ∈ u ++ v, asciiLetter c = true :=
    List.forall_mem_append.2 ⟨hletters, hv⟩
  refine ⟨?_, ?_, rfl⟩
  · rw [List.forall_mem_append, List.forall_mem_append, List.forall_mem_singleton]
    refine ⟨hall, ?_, fun c hc => domainChar_of_asciiLetter (hletters c hc)⟩
    rw [of_decide_eq_true hd]
    decide
  · rcases List.eq_nil_or_concat' (u ++ v) with hnil | ⟨l, c, hl⟩
    · rw [(List.append_eq_nil_iff.1 hnil).1] at hlength
      cases hlength
    · refine ⟨a ++ ([d] ++ l), c, ?_, hletters c (by simp [hl])⟩
      rw [hl]
      simp only [List.append_assoc]

theorem parses_email : email.rx.Parses w gs ↔ ∃ name domain, w = name ++ '@' :: domain ∧
    gs = [(1, '@' :: domain)] ∧ (1 ≤ name.length ∧ name.length ≤ 64) ∧
      (∀ c ∈ name, localChar c = true) ∧ emailDomain.Parses domain [] := by
  constructor
  · rintro ⟨name, _, _, _, rfl, rfl, hname, _, rfl, _, _, domain, _, rfl, rfl, ⟨⟨c, rfl, hc⟩, rfl⟩,
      hdomain⟩
    obtain ⟨hlength, hchars, rfl⟩ := (parses_repeated (by decide)).1 hname
    obtain rfl : c = '@' := of_decide_eq_true hc
    obtain rfl := (parses_emailDomain hdomain).2.2
    exact ⟨name, domain, rfl, rfl, hlength, hchars, hdomain⟩
  · rintro ⟨name, domain, rfl, rfl, hlength, hname, hdomain⟩
    exact ⟨name, [], _, _, rfl, rfl, (parses_repeated (by decide)).2 ⟨hlength, hname, rfl⟩, [], rfl,
      ['@'], [], domain, [], rfl, rfl, ⟨⟨'@', rfl, by decide⟩, rfl⟩, hdomain⟩

end Texts

/-! ## What a substitution leaves -/

/-- What a substitution makes of a text, behind the text before it. -/
inductive Redacts (cls : CharClasses) (r : BoundedPattern) (mask : Rx.Match → List Char) :
    List Char → List Char → List Char → Prop where
  | nil (pre : List Char) : Redacts cls r mask pre [] []
  | keep {pre cs out : List Char} {c : Char}
      (hnone : r.matchAt cls pre.getLast? (c :: cs) = none)
      (h : Redacts cls r mask (pre ++ [c]) cs out) : Redacts cls r mask pre (c :: cs) (c :: out)
  | mask {pre w out : List Char} {m : Rx.Match} (hm : r.rx.Parses w m.groups)
      (h : Redacts cls r mask (pre ++ w) m.rest out) :
      Redacts cls r mask pre (w ++ m.rest) (mask m ++ out)

/-- What a mask shows of a text `n` is in what it replaces: what is before its stars, where all of
    `n` is shown only if `S` holds, and what is behind them. -/
structure Shows (r : BoundedPattern) (mask tail : Rx.Match → List Char) (S : List Char → Prop)
    (n : List Char) : Prop where
  star : '*' ∉ n
  parts : ∀ w m, r.rx.Parses w m.groups → w ≠ [] ∧ tail m <:+ w ∧
    ∃ x, mask m = x ++ stars ++ tail m ∧ (∀ v, v <:+ n → v <+: x → v <+: w) ∧ (n <:+: x → S w)

/-- Where a text of the result comes from: a place where there is no match, or a mask. -/
inductive Located (cls : CharClasses) (r : BoundedPattern) (tail : Rx.Match → List Char)
    (S : List Char → Prop) (n whole : List Char) : Prop where
  | kept (a b : List Char) (hwhole : a ++ (n ++ b) = whole)
      (hnone : r.matchAt cls a.getLast? (n ++ b) = none)
  | shown (w : List Char) (hwhole : w <:+: whole) (hw : S w)
  | behind (w u v p q : List Char) (m : Rx.Match) (hm : r.rx.Parses w m.groups) (hn : u ++ v = n)
      (hne : u ≠ []) (htail : p ++ u ++ q = tail m) (hq : q = [] ∨ v = [])
      (hwhole : w ++ v <:+: whole)

section Substitution

variable {cls : CharClasses} {r : BoundedPattern} {mask tail : Rx.Match → List Char}
  {S : List Char → Prop} {n pre text out : List Char}

theorem parses_of_matchAt {before : Option Char} {m : Rx.Match}
    (h : r.matchAt cls before text = some m) :
    ∃ w, text = w ++ m.rest ∧ r.rx.Parses w m.groups := by
  refine Rx.mem_run_iff.1 ?_
  unfold BoundedPattern.matchAt at h
  split_ifs at h
  · exact List.mem_of_find?_eq_some h
  · exact List.mem_of_mem_head? h

theorem matchAt_ne_none {before : Option Char} {w rest : List Char} (hw : r.Accepts w)
    (hbounds : r.bounded = true →
      atBoundary cls before = true ∧ atBoundary cls rest.head? = true) :
    r.matchAt cls before (w ++ rest) ≠ none := by
  obtain ⟨gs, hw⟩ := hw
  have hmem : (⟨rest, gs⟩ : Rx.Match) ∈ r.rx.run (w ++ rest) := Rx.mem_run_iff.2 ⟨w, rfl, hw⟩
  unfold BoundedPattern.matchAt
  split_ifs with hbounded hbefore
  · intro hnone
    exact List.find?_eq_none.1 hnone _ hmem (hbounds hbounded).2
  · exact absurd (hbounds hbounded).1 hbefore
  · rw [Rx.matchAt_eq, Ne, List.head?_eq_none_iff]
    exact List.ne_nil_of_mem hmem

theorem getLast?_concat_cons (c : Char) (w : List Char) :
    (pre ++ c :: w).getLast? = w.getLast?.or (some c) := by
  rw [List.getLast?_append, List.getLast?_cons]
  cases w.getLast? with
  | none => rfl
  | some x => rfl

theorem sub_skip (w rest : List Char) (before : Option Char) : r.sub cls mask w.length before
    (w ++ rest) = r.sub cls mask 0 (w.getLast?.or before) rest := by
  induction w generalizing before with
  | nil => rfl
  | cons c w ih =>
    have hlast : ([] ++ c :: w).getLast? = w.getLast?.or (some c) := getLast?_concat_cons c w
    rw [List.nil_append] at hlast
    show r.sub cls mask w.length (some c) (w ++ rest) = _
    rw [ih, hlast, Option.or_assoc]
    rfl

theorem redacts_sub (hn : Shows r mask tail S n) (pre text : List Char) :
    Redacts cls r mask pre text (r.sub cls mask 0 pre.getLast? text) := by
  induction hlength : text.length using Nat.strong_induction_on generalizing pre text with
  | _ k ih =>
    cases text with
    | nil => exact .nil pre
    | cons c cs =>
      rw [BoundedPattern.sub]
      cases hm : r.matchAt cls pre.getLast? (c :: cs) with
      | none =>
        have hrest := ih cs.length (by rw [← hlength]; exact Nat.lt_succ_self _) (pre ++ [c]) cs rfl
        rw [List.getLast?_concat] at hrest
        exact .keep hm hrest
      | some m =>
        obtain ⟨w, hw, hparses⟩ := parses_of_matchAt hm
        cases w with
        | nil => exact absurd rfl (hn.parts [] m hparses).1
        | cons x w =>
          obtain ⟨rfl, rfl⟩ := List.cons_eq_cons.1 hw
          change (c :: (w ++ m.rest)).length = k at hlength
          rw [List.length_cons, List.length_append] at hlength
          have hrest := ih m.rest.length (by omega) (pre ++ c :: w) m.rest rfl
          show Redacts cls r mask pre (c :: w ++ m.rest) (mask m ++
            r.sub cls mask ((w ++ m.rest).length - m.rest.length) (some c) (w ++ m.rest))
          rw [List.length_append, Nat.add_sub_cancel, sub_skip, ← getLast?_concat_cons]
          exact .mask hparses hrest

theorem prefix_of_star {v x y : List Char} (hstar : '*' ∉ v) (h : v <+: x ++ '*' :: y) :
    v <+: x := by
  rcases Nat.lt_or_ge x.length v.length with hlong | hshort
  · have hinside : x ++ ['*'] <+: v := List.prefix_of_prefix_length_le (by simp) h (by
      rw [List.length_append]
      exact hlong)
    exact absurd (hinside.subset (List.mem_append_right x (List.mem_singleton_self _))) hstar
  · exact List.prefix_of_prefix_length_le h (List.prefix_append x _) hshort

theorem suffix_of_star {u x y : List Char} (hstar : '*' ∉ u) (h : u <:+ x ++ '*' :: y) :
    u <:+ y := by
  rw [← List.reverse_prefix] at h ⊢
  rw [List.reverse_append, List.reverse_cons, List.append_assoc] at h
  exact prefix_of_star (by rwa [List.mem_reverse]) h

theorem infix_of_stars {x y : List Char} (hstar : '*' ∉ n) (h : n <:+: x ++ stars ++ y) :
    n <:+: x ∨ n <:+: y := by
  have hone : ∀ z, n <:+: [] ++ '*' :: z → n <:+: z := fun z hz =>
    (Rx.infix_of_infix_append_cons hstar hz).elim (·.trans List.nil_infix) id
  rw [List.append_assoc] at h
  exact (Rx.infix_of_infix_append_cons hstar h).imp_right fun h => hone _ (hone _ h)

theorem Shows.isPrefix (hn : Shows r mask tail S n) (h : Redacts cls r mask pre text out)
    {v : List Char} (hv : v <:+ n) (hout : v <+: out) : v <+: text := by
  induction h generalizing v with
  | nil pre => exact hout
  | keep hnone h ih =>
    cases v with
    | nil => exact List.nil_prefix
    | cons x v =>
      obtain ⟨rfl, hrest⟩ := List.cons_prefix_cons.1 hout
      exact List.cons_prefix_cons.2 ⟨rfl, ih ((List.suffix_cons x v).trans hv) hrest⟩
  | @mask pre w out m hm h ih =>
    obtain ⟨-, -, x, hmask, hbegins, -⟩ := hn.parts w m hm
    rw [hmask, List.append_assoc, List.append_assoc] at hout
    have hx := prefix_of_star (fun hmem => hn.star (hv.subset hmem)) hout
    exact (hbegins v hv hx).trans (List.prefix_append w m.rest)

theorem Shows.located (hn : Shows r mask tail S n) (h : Redacts cls r mask pre text out)
    (hne : n ≠ []) (hout : n <:+: out) : Located cls r tail S n (pre ++ text) := by
  induction h with
  | nil pre => exact absurd (List.infix_nil.1 hout) hne
  | @keep pre cs out c hnone h ih =>
    rcases List.infix_cons_iff.1 hout with hhere | hlater
    · obtain ⟨b, hb⟩ := hn.isPrefix (.keep hnone h) (List.suffix_refl n) hhere
      rw [← hb] at hnone ⊢
      exact .kept pre b rfl hnone
    · have hlocated := ih hlater
      rwa [List.append_assoc] at hlocated
  | @mask pre w out m hm h ih =>
    obtain ⟨-, -, x, hmask, -, hx⟩ := hn.parts w m hm
    rw [← List.append_assoc]
    rcases List.infix_append_iff.1 hout with hinside | hlater | ⟨u, v, rfl, hu, hv⟩
    · -- inside the mask: on one side of the stars
      rw [hmask] at hinside
      rcases infix_of_stars hn.star hinside with hinside | ⟨p, q, htail⟩
      · exact .shown w (List.infix_append pre w m.rest) (hx hinside)
      · refine .behind w n [] p q m hm (List.append_nil n) hne htail (.inr rfl) ?_
        rw [List.append_nil]
        exact List.infix_append pre w m.rest
    · exact ih hlater
    · by_cases hnil : u = []
      · subst hnil
        exact ih hv.isInfix
      · -- across the end of the mask: the part in the mask has no star, so it ends its tail
        have hstar : '*' ∉ u := fun hmem => hn.star (List.mem_append_left v hmem)
        have hassoc : x ++ stars ++ tail m = (x ++ ['*', '*']) ++ '*' :: tail m := by simp [stars]
        rw [hmask, hassoc] at hu
        obtain ⟨p, hp⟩ := suffix_of_star hstar hu
        obtain ⟨b, hb⟩ := hn.isPrefix h (List.suffix_append u v) hv
        refine .behind w u v p [] m hm rfl hnil (by rw [List.append_nil, hp]) (.inl rfl) ?_
        exact ⟨pre, b, by rw [← hb]; simp only [List.append_assoc]⟩

theorem Shows.isInfix (hn : Shows r mask tail (n <:+: ·) n)
    (h : n <:+: r.sub cls mask 0 none text) : n <:+: text := by
  by_cases hne : n = []
  · subst hne
    exact List.nil_infix
  · cases hn.located (redacts_sub hn [] text) hne h with
    | kept a b hwhole hnone => exact ⟨a, b, by rw [List.append_assoc]; exact hwhole⟩
    | shown w hwhole hw => exact hw.trans hwhole
    | behind w u v p q m hm hsplit hu htail hq hwhole =>
      obtain ⟨x, rfl⟩ := (hn.parts w m hm).2.1
      refine List.IsInfix.trans ?_ hwhole
      rw [← hsplit, ← htail]
      rcases hq with rfl | rfl
      · exact ⟨x ++ p, [], by simp⟩
      · exact ⟨x ++ p, q, by simp⟩

theorem Shows.kept (hn : Shows r mask (fun _ => []) (fun _ => False) n) (hne : n ≠ [])
    (h : n <:+: r.sub cls mask 0 none text) :
    ∃ a b, a ++ (n ++ b) = text ∧ r.matchAt cls a.getLast? (n ++ b) = none := by
  cases hn.located (redacts_sub hn [] text) hne h with
  | kept a b hwhole hnone => exact ⟨a, b, hwhole, hnone⟩
  | shown w hwhole hw => exact hw.elim
  | behind w u v p q m hm hsplit hu htail =>
    rw [List.append_eq_nil_iff, List.append_eq_nil_iff] at htail
    exact absurd htail.1.2 hu

end Substitution

/-! ## What redaction leaves -/

/-- A text stands beside a word character. -/
def Beside (cls : CharClasses) (n text : List Char) : Prop :=
  ∃ d, cls.word d = true ∧ (d :: n <:+: text ∨ n ++ [d] <:+: text)

/-- A text stands in the domain of an address, or behind it, as in `x@b.co@c.de`. -/
def Behind (e text : List Char) : Prop :=
  ∃ p, (∀ c ∈ p, domainChar c = true) ∧ '@' :: (p ++ e) <:+: text

/-- A string that the redaction of a text may leave: it holds no international number, only local
    numbers that stand beside a word character in the text, and only addresses that stand behind the
    sign of another one. -/
structure MayRemain (cls : CharClasses) (text t : List Char) : Prop where
  international : ∀ i, i <:+: t → ¬ (phoneIntl cls).Accepts i
  numbers : ∀ n, n <:+: t → (phoneNgLocal cls).Accepts n → Beside cls n text
  addresses : ∀ e, e <:+: t → email.Accepts e → Behind e text

theorem not_behind_self {e : List Char} : ¬ Behind e e := by
  rintro ⟨p, -, h⟩
  have hle := h.length_le
  rw [List.length_cons, List.length_append] at hle
  omega

section Stages

variable {cls : CharClasses} {n e text : List Char}

theorem not_mem_of_phoneChar (hcls : cls.Lawful) (h : ∀ c ∈ n, phoneChar cls c = true) {c : Char}
    (hc : c.toNat < 128 ∧ (c.isDigit || PyStr.isSpace c || c = '-') = false) : c ∉ n := by
  intro hmem
  have hclass := h c hmem
  rw [phoneChar, hcls.digit_ascii c hc.1, hc.2] at hclass
  cases hclass

/-! ### International numbers -/

/-- A text that no mask of an international number shows, or begins. -/
structure Solid (cls : CharClasses) (n : List Char) : Prop where
  star : '*' ∉ n
  inside : ∀ ds, ds.length ≤ 7 → (∀ d ∈ ds, cls.digit d = true) → ¬ n <:+: '+' :: ds
  begins : ∀ ds, ds.length ≤ 7 → (∀ d ∈ ds, cls.digit d = true) →
    ∀ v, v <:+ n → v <+: '+' :: ds → v = []

theorem Solid.shows (hn : Solid cls n) (S : List Char → Prop) :
    Shows (phoneIntl cls) maskIntlPhone (fun _ => []) S n := by
  refine ⟨hn.star, fun w m hm => ?_⟩
  obtain ⟨⟨v, rfl, -⟩, ds, hmask, hlength, hdigits⟩ := parses_phoneIntl hm
  refine ⟨List.cons_ne_nil _ _, List.nil_suffix, '+' :: ds, ?_, fun v hv hbegins => ?_, ?_⟩
  · rw [hmask, List.append_nil]
  · rw [hn.begins ds hlength hdigits v hv hbegins]
    exact List.nil_prefix
  · exact fun hinside => absurd hinside (hn.inside ds hlength hdigits)

theorem solid_of_not_plus (hstar : '*' ∉ n) (hplus : '+' ∉ n)
    (h : 8 < n.length ∨ ∃ c ∈ n, cls.digit c = false) : Solid cls n := by
  refine ⟨hstar, fun ds hlength hdigits hinside => ?_, fun ds hlength hdigits v hv hbegins => ?_⟩
  · rcases h with hlong | ⟨c, hc, hdigit⟩
    · have hle := hinside.length_le
      rw [List.length_cons] at hle
      omega
    · rcases List.mem_cons.1 (hinside.subset hc) with rfl | hmem
      · exact hplus hc
      · rw [hdigits c hmem] at hdigit
        cases hdigit
  · cases v with
    | nil => rfl
    | cons x v =>
      obtain ⟨rfl, -⟩ := List.cons_prefix_cons.1 hbegins
      exact absurd (hv.subset List.mem_cons_self) hplus

theorem digit_of_asciiLetter (hcls : cls.Lawful) {c : Char} (h : asciiLetter c = true) :
    cls.digit c = false := by
  simp only [asciiLetter, Bool.or_eq_true, Bool.and_eq_true, decide_eq_true_eq] at h
  have hrange : (97 ≤ c.toNat ∧ c.toNat ≤ 122) ∨ (65 ≤ c.toNat ∧ c.toNat ≤ 90) := h
  rw [hcls.digit_ascii c (by omega), Char.isDigit, Bool.and_eq_false_iff, decide_eq_false_iff_not,
    decide_eq_false_iff_not]
  exact .inr fun hle => absurd (show c.toNat ≤ 57 from hle) (by omega)

theorem solid_of_letter (hcls : cls.Lawful) {u : List Char} {c : Char} (hstar : '*' ∉ u ++ [c])
    (hc : asciiLetter c = true) : Solid cls (u ++ [c]) := by
  have hnot : ∀ ds, (∀ d ∈ ds, cls.digit d = true) → c ∉ '+' :: ds := by
    intro ds hdigits hmem
    rcases List.mem_cons.1 hmem with rfl | hmem
    · revert hc
      decide
    · have hdigit := hdigits c hmem
      rw [digit_of_asciiLetter hcls hc] at hdigit
      cases hdigit
  refine ⟨hstar, fun ds _ hdigits hinside => ?_, fun ds _ hdigits v hv hbegins => ?_⟩
  · exact hnot ds hdigits (hinside.subset (List.mem_append_right u (List.mem_singleton_self c)))
  · rcases List.suffix_concat_iff.1 hv with hnil | ⟨t, rfl, -⟩
    · exact hnil
    · have hmem := hbegins.subset (List.mem_append_right t (List.mem_singleton_self c))
      exact absurd hmem (hnot ds hdigits)

theorem solid_intl (hcls : cls.Lawful) (hn : (phoneIntl cls).Accepts n) : Solid cls n := by
  obtain ⟨gs, hn⟩ := hn
  obtain ⟨⟨v, rfl, hlong, hv⟩, -⟩ := parses_phoneIntl (m := ⟨[], gs⟩) hn
  refine ⟨?_, fun ds hlength _ hinside => ?_, fun ds hlength _ u hu hbegins => ?_⟩
  · exact List.not_mem_cons_of_ne_of_not_mem (by decide)
      (not_mem_of_phoneChar hcls hv (by decide))
  · have hle := hinside.length_le
    rw [List.length_cons, List.length_cons] at hle
    omega
  · rcases List.suffix_cons_iff.1 hu with rfl | hu
    · have hle := hbegins.length_le
      rw [List.length_cons, List.length_cons] at hle
      omega
    · cases u with
      | nil => rfl
      | cons x u =>
        obtain ⟨rfl, -⟩ := List.cons_prefix_cons.1 hbegins
        exact absurd (hu.subset List.mem_cons_self) (not_mem_of_phoneChar hcls hv (by decide))

/-- **International numbers** are all replaced. -/
theorem not_isInfix_of_phoneIntl (hcls : cls.Lawful) (hn : (phoneIntl cls).Accepts n) :
    ¬ n <:+: (phoneIntl cls).sub cls maskIntlPhone 0 none text := by
  intro h
  have hsolid := solid_intl hcls hn
  have hne : n ≠ [] := by
    rintro rfl
    exact hsolid.inside [] (Nat.zero_le _) (fun d hd => absurd hd List.not_mem_nil) List.nil_infix
  obtain ⟨a, b, -, hnone⟩ := (hsolid.shows _).kept hne h
  exact matchAt_ne_none hn (by rintro ⟨⟩) hnone

/-! ### Local numbers -/

theorem shows_phoneNgLocal (hcls : cls.Lawful) (hstar : '*' ∉ n) {S : List Char → Prop}
    (hS : ∀ g w, g.length = 3 → g <+: w → n <:+: g → S w) :
    Shows (phoneNgLocal cls) maskNgLocalPhone (fun _ => []) S n := by
  refine ⟨hstar, fun w m hm => ?_⟩
  obtain ⟨⟨hlong, -⟩, g, hmask, hlength, hg⟩ := parses_phoneNgLocal hcls hm
  refine ⟨?_, List.nil_suffix, g, ?_, fun v _ hv => hv.trans hg, hS g w hlength hg⟩
  · rintro rfl
    cases hlong
  · rw [hmask, List.append_nil]

theorem isInfix_of_phoneNgLocal (hcls : cls.Lawful) (hstar : '*' ∉ n)
    (h : n <:+: (phoneNgLocal cls).sub cls maskNgLocalPhone 0 none text) : n <:+: text :=
  (shows_phoneNgLocal hcls hstar fun _ _ _ hg hn => hn.trans hg.isInfix).isInfix h

/-- **A local number** is left only beside a word character. -/
theorem beside_of_phoneNgLocal (hcls : cls.Lawful) (hn : (phoneNgLocal cls).Accepts n)
    (h : n <:+: (phoneNgLocal cls).sub cls maskNgLocalPhone 0 none text) : Beside cls n text := by
  obtain ⟨gs, hparses⟩ := id hn
  obtain ⟨⟨hlong, hchars⟩, -⟩ := parses_phoneNgLocal hcls (m := ⟨[], gs⟩) hparses
  have hshows := shows_phoneNgLocal (S := fun _ => False) hcls
    (not_mem_of_phoneChar hcls hchars (by decide)) fun g w hg _ hinside => by
      have hle := hinside.length_le
      omega
  obtain ⟨a, b, hwhole, hnone⟩ := hshows.kept (List.ne_nil_of_length_pos (by omega)) h
  by_cases hbefore : atBoundary cls a.getLast? = true
  · by_cases hafter : atBoundary cls b.head? = true
    · exact absurd hnone (matchAt_ne_none hn fun _ => ⟨hbefore, hafter⟩)
    · cases b with
      | nil => exact absurd rfl hafter
      | cons d b =>
        refine ⟨d, ?_, .inr ⟨a, b, by rw [← hwhole]; simp⟩⟩
        simpa [atBoundary] using hafter
  · rcases List.eq_nil_or_concat' a with rfl | ⟨a, d, rfl⟩
    · exact absurd rfl hbefore
    · refine ⟨d, ?_, .inl ⟨a, b, by rw [← hwhole]; simp⟩⟩
      simpa [atBoundary] using hbefore

theorem Beside.of_phoneIntl (hcls : cls.Lawful) (hn : (phoneNgLocal cls).Accepts n)
    (h : Beside cls n ((phoneIntl cls).sub cls maskIntlPhone 0 none text)) :
    Beside cls n text := by
  obtain ⟨gs, hparses⟩ := hn
  obtain ⟨⟨hlong, hchars⟩, -⟩ := parses_phoneNgLocal hcls (m := ⟨[], gs⟩) hparses
  obtain ⟨d, hword, h⟩ := h
  -- the number and its neighbour hold no character of a mask
  have hsolid : ∀ l : List Char, (∀ c ∈ l, c ∈ n ∨ c = d) → 8 < l.length → Solid cls l := by
    intro l hl hlength
    refine solid_of_not_plus (fun hmem => ?_) (fun hmem => ?_) (.inl hlength)
    · rcases hl _ hmem with hmem | rfl
      · exact not_mem_of_phoneChar hcls hchars (by decide) hmem
      · rw [hcls.word_ascii _ (by decide)] at hword
        revert hword
        decide
    · rcases hl _ hmem with hmem | rfl
      · exact not_mem_of_phoneChar hcls hchars (by decide) hmem
      · rw [hcls.word_ascii _ (by decide)] at hword
        revert hword
        decide
  refine ⟨d, hword, h.imp (((hsolid _ ?_ ?_).shows _).isInfix) (((hsolid _ ?_ ?_).shows _).isInfix)⟩
  · exact fun c hc => (List.mem_cons.1 hc).symm
  · rw [List.length_cons]
    omega
  · exact fun c hc => (List.mem_append.1 hc).imp_right List.mem_singleton.1
  · rw [List.length_append]
    omega

/-! ### Addresses -/

theorem star_not_mem_address (he : email.Accepts e) : '*' ∉ e := by
  obtain ⟨gs, he⟩ := he
  obtain ⟨name, domain, rfl, -, -, hname, hdomain⟩ := parses_email.1 he
  rw [List.mem_append, List.mem_cons]
  rintro (hmem | hmem | hmem)
  · exact absurd (hname '*' hmem) (by decide)
  · exact absurd hmem (by decide)
  · exact absurd ((parses_emailDomain hdomain).1 '*' hmem) (by decide)

theorem shows_email {S : List Char → Prop} (hstar : '*' ∉ n) (hS : n = [] → ∀ w, S w) :
    Shows email maskEmail (groupText · 1) S n := by
  refine ⟨hstar, fun w m hm => ?_⟩
  obtain ⟨name, domain, rfl, hgroups, -⟩ := parses_email.1 hm
  refine ⟨by simp, ?_, [], rfl, fun v _ hv => hv.trans List.nil_prefix, fun hinside => ?_⟩
  · rw [groupText, hgroups]
    exact List.suffix_append name _
  · exact hS (List.infix_nil.1 hinside) _

theorem isInfix_of_email (hstar : '*' ∉ n) (h : n <:+: email.sub cls maskEmail 0 none text) :
    n <:+: text := by
  refine (shows_email hstar fun hnil w => ?_).isInfix h
  rw [hnil]
  exact List.nil_infix

theorem shows_address (he : email.Accepts e) :
    e ≠ [] ∧ Shows email maskEmail (groupText · 1) (fun _ => False) e := by
  have hne : e ≠ [] := by
    rintro rfl
    obtain ⟨gs, he⟩ := he
    obtain ⟨name, domain, hnil, -⟩ := parses_email.1 he
    simp at hnil
  exact ⟨hne, shows_email (star_not_mem_address he) fun hnil => absurd hnil hne⟩

/-- **An address** is left only in or behind the domain of another one. -/
theorem behind_of_email (he : email.Accepts e)
    (h : e <:+: email.sub cls maskEmail 0 none text) : Behind e text := by
  obtain ⟨hne, hshows⟩ := shows_address he
  cases hshows.located (redacts_sub hshows [] text) hne h with
  | kept a b hwhole hnone => exact absurd hnone (matchAt_ne_none he (by rintro ⟨⟩))
  | shown w hwhole hw => exact hw.elim
  | behind w u v p q m hm hsplit hu htail hq hwhole =>
    obtain ⟨name, domain, rfl, hgroups, -, -, hdomain⟩ := parses_email.1 hm
    have htail : p ++ u ++ q = '@' :: domain := by
      rw [htail, groupText, hgroups]
      rfl
    cases p with
    | nil =>
      -- a name does not begin with the sign
      obtain ⟨c, u, rfl⟩ := List.exists_cons_of_ne_nil hu
      obtain ⟨gs, he⟩ := he
      obtain ⟨name', domain', rfl, -, hlength, hname, -⟩ := parses_email.1 he
      obtain ⟨x, name', rfl⟩ := List.exists_cons_of_ne_nil (List.ne_nil_of_length_pos hlength.1)
      obtain rfl := (List.cons_eq_cons.1 hsplit).1
      obtain rfl := (List.cons_eq_cons.1 htail).1
      exact absurd (hname '@' List.mem_cons_self) (by decide)
    | cons x p =>
      obtain ⟨rfl, rfl⟩ := List.cons_eq_cons.1 htail
      have hp : ∀ c ∈ p, domainChar c = true := fun c hc =>
        (parses_emailDomain hdomain).1 c (List.mem_append_left q (List.mem_append_left u hc))
      refine ⟨p, hp, List.IsInfix.trans ?_ hwhole⟩
      rw [← hsplit]
      rcases hq with rfl | rfl
      · exact ⟨name, [], by simp⟩
      · exact ⟨name, q, by simp⟩

theorem Behind.of_phones (hcls : cls.Lawful) (he : email.Accepts e)
    (h : Behind e ((phoneNgLocal cls).sub cls maskNgLocalPhone 0 none
      ((phoneIntl cls).sub cls maskIntlPhone 0 none text))) : Behind e text := by
  obtain ⟨p, hp, h⟩ := h
  have hstar : '*' ∉ '@' :: (p ++ e) := by
    rw [List.mem_cons, List.mem_append]
    rintro (hmem | hmem | hmem)
    · exact absurd hmem (by decide)
    · exact absurd (hp '*' hmem) (by decide)
    · exact star_not_mem_address he hmem
  obtain ⟨gs, he⟩ := he
  obtain ⟨name, domain, rfl, -, -, -, hdomain⟩ := parses_email.1 he
  obtain ⟨u, c, rfl, hc⟩ := (parses_emailDomain hdomain).2.1
  have hletter : '@' :: (p ++ (name ++ '@' :: (u ++ [c]))) =
      ('@' :: (p ++ (name ++ '@' :: u))) ++ [c] := by simp
  have hinside := isInfix_of_phoneNgLocal hcls hstar h
  rw [hletter] at hstar hinside
  refine ⟨p, hp, ?_⟩
  rw [hletter]
  exact ((solid_of_letter hcls hstar hc).shows _).isInfix hinside

/-- **What redaction leaves** of a string. -/
theorem mayRemain_of_redactPii (hcls : cls.Lawful) {text t : String}
    (h : t.toList <:+: (redactPii cls text).toList) : MayRemain cls text.toList t.toList := by
  rw [redactPii, String.toList_ofList] at h
  refine ⟨fun i hinside hi => ?_, fun n hinside hn => ?_, fun e hinside he => ?_⟩
  · have hstar := (solid_intl hcls hi).star
    exact not_isInfix_of_phoneIntl hcls hi
      (isInfix_of_phoneNgLocal hcls hstar (isInfix_of_email hstar (hinside.trans h)))
  · obtain ⟨gs, hparses⟩ := id hn
    have hchars := (parses_phoneNgLocal hcls (m := ⟨[], gs⟩) hparses).1.2
    have hstar := not_mem_of_phoneChar hcls hchars (c := '*') (by decide)
    exact (beside_of_phoneNgLocal hcls hn
      (isInfix_of_email hstar (hinside.trans h))).of_phoneIntl hcls hn
  · exact (behind_of_email he (hinside.trans h)).of_phones hcls he

end Stages

end Ekaette
