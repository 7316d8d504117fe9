import Ekaette.Lib.EventMachine
import Ekaette.Lib.PyNumber
import Mathlib.Data.List.Sort
import Mathlib.Tactic.Linarith

set_option autoImplicit false

/-! # WebSocket tokens

`app/api/v1/public/ws_auth.py`. A token is checked (signature, payload, expiry, user) and then
consumed: its id goes into the table of used ids, which holds each id until its token's expiry. The
table is pruned before every look-up, first of the ids whose expiry has passed, then, as a safety
cap, of the ids that expire first while more than `_MAX_USED_JTIS` are left.

The clock is read twice in a call, once for the expiry check and once for the pruning; both readings
are part of the call. -/

namespace Ekaette

abbrev Bytes := List UInt8

/-- What the token code takes from the standard library. -/
structure WsCodec where
  /-- `hmac.new(secret, message, sha256).digest()` -/
  hmacSha256 : String → String → Bytes
  /-- `_b64url_decode`; `none` where it raises -/
  b64urlDecode : String → Option Bytes
  /-- `json.loads`; `none` where it raises -/
  jsonLoads : Bytes → Option PyValue

/-- How `validate_ws_token` turns a token down: it returns `None` or an exception escapes. -/
inductive WsRefusal where
  | none
  | raised
  deriving DecidableEq

/-- `WsTokenClaims`. -/
structure WsTokenClaims where
  sub : PyValue
  tenantId : PyValue
  companyId : PyValue
  exp : PyFloat
  jti : PyValue
  callerPhone : PyValue

/-! ## Checking a token -/

/-- `float(exp_raw)`: an overflow is the one exception the code does not catch. -/
def parseExp (exp : PyValue) : Except WsRefusal PyFloat :=
  match exp.toFloat with
  | .ok x => .ok x
  | .error .overflowError => .error .raised
  | .error _ => .error .none

/-- The checks on the decoded payload, the clock reading `now`. -/
def checkWsClaims (payload : List (String × PyValue)) (expectedUserId : String)
    (now : ℚ) : Except WsRefusal WsTokenClaims :=
  match parseExp (PyValue.lookupOr payload "exp" (.int 0)) with
  | .error refusal => .error refusal
  | .ok exp =>
    let sub := PyValue.lookupOr payload "sub" (.str "")
    let jti := PyValue.lookupOr payload "jti" (.str "")
    if (PyFloat.fin now).gt exp then .error .none
    else if sub.eqStr expectedUserId = false then .error .none
    else if jti.truthy = false then .error .none
    else .ok {
      sub := sub
      tenantId := PyValue.lookupOr payload "tenant_id" (.str "")
      companyId := PyValue.lookupOr payload "company_id" (.str "")
      exp := exp
      jti := jti
      callerPhone := PyValue.lookupOr payload "caller_phone" (.str "") }

variable (codec : WsCodec)

/-- `validate_ws_token` before it takes the lock. -/
def checkWsToken (secret token expectedUserId : String) (now : ℚ) :
    Except WsRefusal WsTokenClaims :=
  if secret = "" ∨ token = "" then .error .none
  else match PyStr.split '.' token with
    | [header, payload, sig] =>
      match codec.b64urlDecode sig with
      | none => .error .none
      | some actualSig =>
        if codec.hmacSha256 secret (header ++ "." ++ payload) ≠ actualSig then .error .none
        else match (codec.b64urlDecode payload).bind codec.jsonLoads with
          | none => .error .none
          | some (.dict claims) => checkWsClaims claims expectedUserId now
          -- a payload that is no object has no `get`
          | some _ => .error .raised
    | _ => .error .none

/-! ## Consuming it -/

/-- A token id as a dictionary key. Numbers that compare equal are one key; a `nan` is only equal to
    the very object it is. -/
inductive JtiKey where
  | str (s : String)
  | num (q : ℚ)
  | inf (negative : Bool)
  | nan (object : ℕ)
  deriving DecidableEq

/-- The key of a token id parsed as object `object`; `none` where hashing raises. -/
def jtiKey? (object : ℕ) : PyValue → Option JtiKey
  | .str s => some (.str s)
  | .bool b => some (.num (if b then 1 else 0))
  | .int n => some (.num n)
  | .float (.fin q) => some (.num q)
  | .float (.inf negative) => some (.inf negative)
  | .float .nan => some (.nan object)
  | _ => none

/-- `_used_jtis`. -/
abbrev UsedJtis := Dict JtiKey PyFloat

def MAX_USED_JTIS : ℕ := 10000

/-- The ids whose expiry has not passed. -/
def dropExpired (now : ℚ) (used : UsedJtis) : UsedJtis :=
  used.filter (fun _ exp => !(PyFloat.fin now).gt exp)

/-- `sorted(_used_jtis, key=_used_jtis.get)[:len(_used_jtis) - _MAX_USED_JTIS]`. -/
def oldestJtis (used : UsedJtis) : List JtiKey :=
  ((used.entries.mergeSort (fun a b => !a.2.gt b.2)).map Prod.fst).take
    (used.size - MAX_USED_JTIS)

/-- `_prune_used_jtis`. -/
def pruneUsedJtis (now : ℚ) (used : UsedJtis) : UsedJtis :=
  let live := dropExpired now used
  if live.size > MAX_USED_JTIS then live.eraseAll (oldestJtis live) else live

/-- A call of `validate_ws_token`, with its two clock readings and the identity of the id object it
    parses. -/
structure WsCall where
  token : String
  expectedUserId : String
  object : ℕ
  checkedAt : ℚ
  prunedAt : ℚ

/-- `validate_ws_token` under the lock: prune, look the id up, and record it. -/
def consumeWsToken (call : WsCall) (claims : WsTokenClaims) (used : UsedJtis) :
    UsedJtis × Except WsRefusal WsTokenClaims :=
  let used := pruneUsedJtis call.prunedAt used
  match jtiKey? call.object claims.jti with
  | none => (used, .error .raised)
  | some jti =>
    if used.contains jti then (used, .error .none)
    else (used.set jti claims.exp, .ok claims)

variable (secret : String)

/-- `validate_ws_token`, one call after the other. -/
def wsAuthMachine :
    EventMachine UsedJtis WsCall (Except WsRefusal WsTokenClaims) where
  step used call :=
    match checkWsToken codec secret call.token call.expectedUserId call.checkedAt with
    | .error refusal => (used, .error refusal)
    | .ok claims => consumeWsToken call claims used

/-! ## What a call does to the table -/

/-- A logged call of `validate_ws_token`. -/
abbrev WsEntry := EventMachine.Entry UsedJtis WsCall (Except WsRefusal WsTokenClaims)

/-- The call returned claims whose id is `jti` and whose expiry is `exp`. -/
def Accepts (t : WsEntry) (jti : JtiKey) (exp : PyFloat) : Prop :=
  ∃ claims, t.answer = .ok claims ∧ jtiKey? t.event.object claims.jti = some jti ∧
    claims.exp = exp

/-- The call's token passes the checks, so the call prunes the table and looks its id up. -/
def ReachesTable (call : WsCall) : Prop :=
  ∃ claims, checkWsToken codec secret call.token call.expectedUserId call.checkedAt = .ok claims

/-- The pruning of this call dropped the unexpired id because of the safety cap. -/
def EvictsAtCap (t : WsEntry) (jti : JtiKey) : Prop :=
  ReachesTable codec secret t.event ∧
    (dropExpired t.event.prunedAt t.pre).size > MAX_USED_JTIS ∧
    jti ∈ oldestJtis (dropExpired t.event.prunedAt t.pre)

/-- An id in the table survives a pruning before its expiry unless the cap drops it. -/
theorem get?_pruneUsedJtis {used : UsedJtis} {now : ℚ} {jti : JtiKey} {exp : PyFloat}
    (h : used.get? jti = some exp) (hnow : (PyFloat.fin now).gt exp = false) :
    ((dropExpired now used).size > MAX_USED_JTIS ∧ jti ∈ oldestJtis (dropExpired now used)) ∨
      (pruneUsedJtis now used).get? jti = some exp := by
  have hlive : (dropExpired now used).get? jti = some exp := by
    rw [dropExpired, Dict.get?_filter, h]
    exact Option.filter_some_pos (by simpa using hnow)
  unfold pruneUsedJtis
  by_cases hsize : (dropExpired now used).size > MAX_USED_JTIS
  · by_cases hmem : jti ∈ oldestJtis (dropExpired now used)
    · exact .inl ⟨hsize, hmem⟩
    · exact .inr (by simp [hsize, hmem, hlive])
  · exact .inr (by simp [hsize, hlive])

/-- **What one call does**: it is turned down before it touches the table, or it prunes the table;
    then it is turned down too, or it accepts an id that the pruned table does not hold. -/
theorem wsAuth_cases (used : UsedJtis) (call : WsCall) :
    ((wsAuthMachine codec secret).next used call = used ∧
      ∀ jti exp, ¬ Accepts ((wsAuthMachine codec secret).entry used call) jti exp) ∨
    ReachesTable codec secret call ∧
      (((wsAuthMachine codec secret).next used call = pruneUsedJtis call.prunedAt used ∧
        ∀ jti exp, ¬ Accepts ((wsAuthMachine codec secret).entry used call) jti exp) ∨
      ∃ jti exp, (pruneUsedJtis call.prunedAt used).get? jti = none ∧
        (wsAuthMachine codec secret).next used call
          = (pruneUsedJtis call.prunedAt used).set jti exp ∧
        ∀ jti' exp', Accepts ((wsAuthMachine codec secret).entry used call) jti' exp' →
          jti' = jti ∧ exp' = exp) := by
  simp only [EventMachine.next, EventMachine.entry, Accepts, wsAuthMachine, ReachesTable]
  cases checkWsToken codec secret call.token call.expectedUserId call.checkedAt with
  | error refusal => exact .inl ⟨rfl, by simp⟩
  | ok claims =>
    refine .inr ⟨⟨claims, rfl⟩, ?_⟩
    simp only [consumeWsToken]
    cases hkey : jtiKey? call.object claims.jti with
    | none => exact .inl ⟨rfl, by simp⟩
    | some jti =>
      cases hget : (pruneUsedJtis call.prunedAt used).get? jti with
      | some exp => exact .inl (by simp [Dict.contains, hget])
      | none =>
        refine .inr ⟨jti, claims.exp, hget, by simp [Dict.contains, hget], ?_⟩
        rintro jti' exp' ⟨claims', hanswer, hkey', rfl⟩
        simp only [Dict.contains, hget, Option.isSome_none, Bool.false_eq_true, if_false,
          Except.ok.injEq] at hanswer
        subst hanswer
        rw [hkey, Option.some.injEq] at hkey'
        exact ⟨hkey'.symm, rfl⟩

/-- **One call and an id in the table**, before the id's expiry: the call keeps the id and does not
    accept it, unless the cap drops it. -/
theorem wsAuth_keeps {used : UsedJtis} {call : WsCall}
    {jti : JtiKey} {exp : PyFloat} (h : used.get? jti = some exp)
    (hnow : (PyFloat.fin call.prunedAt).gt exp = false) :
    EvictsAtCap codec secret ((wsAuthMachine codec secret).entry used call) jti ∨
      ((wsAuthMachine codec secret).next used call).get? jti = some exp ∧
        ∀ exp', ¬ Accepts ((wsAuthMachine codec secret).entry used call) jti exp' := by
  rcases wsAuth_cases codec secret used call with ⟨hnext, hno⟩ | ⟨hreach, hprune⟩
  · exact .inr ⟨by rw [hnext, h], hno jti⟩
  · rcases get?_pruneUsedJtis h hnow with ⟨hsize, hmem⟩ | hkept
    · exact .inl ⟨hreach, hsize, hmem⟩
    · refine .inr ?_
      rcases hprune with ⟨hnext, hno⟩ | ⟨jti₀, exp₀, hfree, hnext, haccept⟩
      · exact ⟨by rw [hnext, hkept], hno jti⟩
      · -- the accepted id is free in the pruned table, so it is another one
        have hne : jti ≠ jti₀ := by
          rintro rfl
          rw [hkept] at hfree
          exact absurd hfree (by simp)
        exact ⟨by rw [hnext, Dict.get?_set_of_ne _ _ hne, hkept],
          fun exp' hacc => hne (haccept jti exp' hacc).1⟩

theorem get?_next_of_accepts {codec : WsCodec} {secret : String} {used : UsedJtis} {call : WsCall}
    {jti : JtiKey} {exp : PyFloat}
    (h : Accepts ((wsAuthMachine codec secret).entry used call) jti exp) :
    ((wsAuthMachine codec secret).next used call).get? jti = some exp := by
  rcases wsAuth_cases codec secret used call with
    ⟨-, hno⟩ | ⟨-, ⟨-, hno⟩ | ⟨jti₀, exp₀, -, hnext, haccept⟩⟩
  · exact absurd h (hno jti exp)
  · exact absurd h (hno jti exp)
  · obtain ⟨rfl, rfl⟩ := haccept jti exp h
    rw [hnext, Dict.get?_set_self]

/-! ## Single use along runs -/

/-- **Single use up to the cap.** With a non-decreasing clock, an id accepted by an earlier call is
    accepted again by a call that prunes before the id's recorded expiry only if the safety cap
    dropped the id in between, or in that very call. -/
theorem ws_single_use (used : UsedJtis) {calls : List WsCall}
    (hclock : calls.Pairwise (fun c c' => c.prunedAt ≤ c'.prunedAt)) {h g : List WsEntry}
    {x t : WsEntry} (hpre : h ++ [t] <+: (wsAuthMachine codec secret).trace used calls)
    (hx : x :: g <:+ h) {jti : JtiKey} {exp exp' : PyFloat} (hfirst : Accepts x jti exp)
    (hagain : Accepts t jti exp') (hnow : (PyFloat.fin t.event.prunedAt).gt exp = false) :
    ∃ y ∈ g ++ [t], EvictsAtCap codec secret y jti := by
  have htrace := (wsAuthMachine codec secret).trace_pairwise_event (s := used) hclock
  -- an id accepted so far has expired, was dropped by the cap, or is in the table
  refine (wsAuthMachine codec secret).trace_forall
    (C := fun h s => ∀ x g, x :: g <:+ h → ∀ jti exp, Accepts x jti exp →
      (∃ y ∈ h, (PyFloat.fin y.event.prunedAt).gt exp = true) ∨
      (∃ y ∈ g, EvictsAtCap codec secret y jti) ∨ s.get? jti = some exp)
    (Q := fun h t => ∀ x g, x :: g <:+ h → ∀ jti exp exp', Accepts x jti exp → Accepts t jti exp' →
      (PyFloat.fin t.event.prunedAt).gt exp = false →
      ∃ y ∈ g ++ [t], EvictsAtCap codec secret y jti)
    (by simp) (fun h s call hpre hinv => ⟨?_, ?_⟩) h t hpre x g hx jti exp exp' hfirst hagain hnow
  · intro x g hx jti exp exp' hfirst hagain hnow
    rcases hinv x g hx jti exp hfirst with ⟨y, hy, hexpired⟩ | ⟨y, hy, hevict⟩ | hget
    · have hle := EventMachine.rel_of_prefix htrace hpre y hy
      rw [PyFloat.gt_of_le hle hexpired] at hnow
      exact absurd hnow (by simp)
    · exact ⟨y, List.mem_append_left _ hy, hevict⟩
    · rcases wsAuth_keeps codec secret hget hnow with hevict | ⟨-, hno⟩
      · exact ⟨_, List.mem_append_right _ (List.mem_singleton_self _), hevict⟩
      · exact absurd hagain (hno exp')
  · intro x g hx jti exp hfirst
    rcases List.suffix_concat_iff.1 hx with hnil | ⟨l, hl, hsuffix⟩
    · exact absurd hnil (by simp)
    · cases l with
      | nil =>
        -- `x` is the new call itself
        obtain ⟨rfl, rfl⟩ := List.cons_eq_cons.1 hl
        exact .inr (.inr (get?_next_of_accepts hfirst))
      | cons x' g' =>
        obtain ⟨rfl, rfl⟩ := List.cons_eq_cons.1 hl
        rcases hinv x g' hsuffix jti exp hfirst with ⟨y, hy, hexpired⟩ | ⟨y, hy, hevict⟩ | hget
        · exact .inl ⟨y, List.mem_append_left _ hy, hexpired⟩
        · exact .inr (.inl ⟨y, List.mem_append_left _ hy, hevict⟩)
        · cases hnow : (PyFloat.fin call.prunedAt).gt exp with
          | true =>
            exact .inl ⟨_, List.mem_append_right _ (List.mem_singleton_self _), hnow⟩
          | false =>
            rcases wsAuth_keeps codec secret hget hnow with hevict | ⟨hkept, -⟩
            · exact .inr (.inl ⟨_, List.mem_append_right _ (List.mem_singleton_self _), hevict⟩)
            · exact .inr (.inr hkept)

/-! ## Two ways to use a token twice -/

/-- A codec under which the payload segment `k…k` reads as a token of Ada's with that id; the
    one-letter token expires at 100, the others at 200. -/
def letterCodec : WsCodec where
  hmacSha256 _ _ := []
  b64urlDecode s := some (s.toList.map (fun c => UInt8.ofNat c.toNat))
  jsonLoads bytes := some (.dict
    [ ("sub", .str "ada"), ("exp", .int (if bytes.length = 1 then 100 else 200)),
      ("jti", .str (String.ofList (List.replicate bytes.length 'k'))) ])

/-- The id of the token of `n` letters. -/
def letterJti (n : ℕ) : JtiKey := .str (String.ofList (List.replicate n 'k'))

/-- The expiry of the token of `n` letters. -/
def letterExp (n : ℕ) : PyFloat := .fin (if n = 1 then 100 else 200)

/-- Ada presents the token of `n` letters; the clock reads `checkedAt`, then `prunedAt`. -/
def letterCall (n : ℕ) (checkedAt prunedAt : ℚ) : WsCall where
  token := String.ofList (['.'].intercalate [['h'], List.replicate n 'k', []])
  expectedUserId := "ada"
  object := 0
  checkedAt := checkedAt
  prunedAt := prunedAt

theorem letterJti_injective : Function.Injective letterJti := by
  intro m n h
  have hlen := congrArg List.length (congrArg String.toList (JtiKey.str.inj h))
  simpa using hlen

theorem checkWsToken_letterCall {n : ℕ} (hn : n ≠ 0) {checkedAt : ℚ} (prunedAt : ℚ)
    (hnow : checkedAt ≤ 100) :
    ∃ claims, checkWsToken letterCodec "secret" (letterCall n checkedAt prunedAt).token "ada"
        checkedAt = .ok claims ∧
      jtiKey? 0 claims.jti = some (letterJti n) ∧ claims.exp = letterExp n := by
  have hsplit : PyStr.split '.' (letterCall n checkedAt prunedAt).token
      = ["h", String.ofList (List.replicate n 'k'), ""] := by
    rw [letterCall, PyStr.split_intercalate]
    · rfl
    · intro l hl
      simp only [List.mem_cons, List.not_mem_nil, or_false] at hl
      rcases hl with rfl | rfl | rfl
      · decide
      · intro hdot
        exact absurd (List.eq_of_mem_replicate hdot) (by decide)
      · simp
    · simp
  have hne : (letterCall n checkedAt prunedAt).token ≠ "" := by
    intro hempty
    rw [hempty, PyStr.split] at hsplit
    simp at hsplit
  have hexp : (PyFloat.fin checkedAt).gt (letterExp n) = false := by
    rw [letterExp, PyFloat.gt_fin, decide_eq_false_iff_not]
    split <;> linarith
  have hfloat : parseExp (.int (if n = 1 then 100 else 200)) = .ok (letterExp n) := by
    by_cases h1 : n = 1
    · simp only [h1, letterExp, if_true]
      decide +kernel
    · simp only [h1, letterExp, if_false]
      decide +kernel
  refine ⟨⟨.str "ada", .str "", .str "", letterExp n, .str (String.ofList (List.replicate n 'k')),
    .str ""⟩, ?_, rfl, rfl⟩
  simp [checkWsToken, hne, hsplit, letterCodec, checkWsClaims, PyValue.lookupOr, List.lookup_cons,
    hfloat, hexp, PyValue.eqStr, hn]

theorem wsAuth_accepts {codec : WsCodec} {secret : String} {used : UsedJtis} {call : WsCall}
    {claims : WsTokenClaims} {jti : JtiKey}
    (hcheck : checkWsToken codec secret call.token call.expectedUserId call.checkedAt = .ok claims)
    (hkey : jtiKey? call.object claims.jti = some jti)
    (hfree : (pruneUsedJtis call.prunedAt used).get? jti = none) :
    (wsAuthMachine codec secret).next used call
        = (pruneUsedJtis call.prunedAt used).set jti claims.exp ∧
      Accepts ((wsAuthMachine codec secret).entry used call) jti claims.exp := by
  simp only [EventMachine.next, EventMachine.entry, Accepts, wsAuthMachine, hcheck,
    consumeWsToken, hkey, Dict.contains, hfree]
  exact ⟨rfl, claims, rfl, hkey, rfl⟩

theorem letterCall_accepts {n : ℕ} (hn : n ≠ 0) {checkedAt prunedAt : ℚ} (hnow : checkedAt ≤ 100)
    {used : UsedJtis} (hfree : (pruneUsedJtis prunedAt used).get? (letterJti n) = none) :
    (wsAuthMachine letterCodec "secret").next used (letterCall n checkedAt prunedAt)
        = (pruneUsedJtis prunedAt used).set (letterJti n) (letterExp n) ∧
      Accepts ((wsAuthMachine letterCodec "secret").entry used (letterCall n checkedAt prunedAt))
        (letterJti n) (letterExp n) := by
  obtain ⟨claims, hcheck, hkey, hexp⟩ := checkWsToken_letterCall hn prunedAt hnow
  rw [← hexp]
  exact wsAuth_accepts hcheck hkey hfree

theorem dropExpired_of_live {now : ℚ} {used : UsedJtis}
    (h : ∀ e ∈ used.entries, (PyFloat.fin now).gt e.2 = false) : dropExpired now used = used := by
  ext1
  exact List.filter_eq_self.2 (fun e he => by simpa using h e he)

theorem pruneUsedJtis_of_live {now : ℚ} {used : UsedJtis}
    (h : ∀ e ∈ used.entries, (PyFloat.fin now).gt e.2 = false) (hsize : used.size ≤ MAX_USED_JTIS) :
    pruneUsedJtis now used = used := by
  simp only [pruneUsedJtis, dropExpired_of_live h]
  rw [if_neg (not_lt.2 hsize)]

/-- The expiry of a letter token has not passed at 0. -/
theorem letterExp_live (n : ℕ) : (PyFloat.fin 0).gt (letterExp n) = false := by
  rw [letterExp, PyFloat.gt_fin, decide_eq_false_iff_not]
  split <;> norm_num

/-- Distinct letter tokens, presented at 0 while they fit under the cap, are all recorded. -/
theorem run_letterCalls_entries (ns : List ℕ) (hnodup : ns.Nodup) (hpos : ∀ n ∈ ns, n ≠ 0)
    (used : UsedJtis) (hlive : ∀ e ∈ used.entries, (PyFloat.fin 0).gt e.2 = false)
    (hfree : ∀ n ∈ ns, letterJti n ∉ used.keys)
    (hsize : used.size + ns.length ≤ MAX_USED_JTIS + 1) :
    ((wsAuthMachine letterCodec "secret").run used (ns.map (fun n => letterCall n 0 0))).entries
      = used.entries ++ ns.map (fun n => (letterJti n, letterExp n)) := by
  induction ns generalizing used with
  | nil => simp
  | cons n ns ih =>
    rw [List.nodup_cons] at hnodup
    rw [List.length_cons] at hsize
    have hprune : pruneUsedJtis 0 used = used := pruneUsedJtis_of_live hlive (by omega)
    have hnot : letterJti n ∉ used.keys := hfree n List.mem_cons_self
    have hnext : (wsAuthMachine letterCodec "secret").next used (letterCall n 0 0)
        = used.set (letterJti n) (letterExp n) := by
      have haccepts := letterCall_accepts (hpos n List.mem_cons_self)
        (by norm_num : (0 : ℚ) ≤ 100)
        (by rw [hprune]; exact (Dict.get?_eq_none_iff ..).2 hnot)
      rw [haccepts.1, hprune]
    have hentries := Dict.entries_set_of_not_mem used (letterExp n) hnot
    rw [List.map_cons, EventMachine.run_cons, hnext,
      ih hnodup.2 (fun m hm => hpos m (List.mem_cons_of_mem _ hm)), hentries, List.map_cons,
      List.append_assoc, List.singleton_append]
    · intro e he
      rw [hentries, List.mem_append, List.mem_singleton] at he
      rcases he with he | rfl
      · exact hlive e he
      · exact letterExp_live n
    · intro m hm
      rw [Dict.keys, hentries, List.map_append, List.mem_append, not_or]
      refine ⟨hfree m (List.mem_cons_of_mem _ hm), ?_⟩
      intro hmem
      simp only [List.map_cons, List.map_nil, List.mem_singleton] at hmem
      exact hnodup.1 (letterJti_injective hmem ▸ hm)
    · rw [Dict.size_set_of_not_mem used _ hnot]
      omega

/-- The tokens of 1 up to `_MAX_USED_JTIS + 1` letters, one after the other at 0. -/
def crowdCalls : List WsCall :=
  (List.range' 1 (MAX_USED_JTIS + 1)).map (fun n => letterCall n 0 0)

/-- After these calls the table is one over the cap, the one-letter token first to expire. -/
theorem run_crowdCalls :
    ((wsAuthMachine letterCodec "secret").run .empty crowdCalls).entries
      = (List.range' 1 (MAX_USED_JTIS + 1)).map (fun n => (letterJti n, letterExp n)) := by
  have hrun := run_letterCalls_entries (List.range' 1 (MAX_USED_JTIS + 1)) List.nodup_range'
    (fun n hn => by rw [List.mem_range'_1] at hn; omega) .empty (by simp [Dict.empty])
    (by simp [Dict.empty, Dict.keys]) (by simp [Dict.empty, Dict.size])
  rw [crowdCalls, hrun]
  rfl

/-- The next pruning drops the one-letter token, which has not expired. -/
theorem get?_prune_crowd {used : UsedJtis}
    (h : used.entries = (List.range' 1 (MAX_USED_JTIS + 1)).map (fun n =>
      (letterJti n, letterExp n))) :
    (pruneUsedJtis 0 used).get? (letterJti 1) = none := by
  have hlive : dropExpired 0 used = used := by
    refine dropExpired_of_live (fun e he => ?_)
    rw [h] at he
    obtain ⟨n, -, rfl⟩ := List.mem_map.1 he
    exact letterExp_live n
  have hsize : used.size = MAX_USED_JTIS + 1 := by
    rw [Dict.size, h, List.length_map, List.length_range']
  -- the table is already sorted by expiry
  have hsorted : used.entries.mergeSort (fun a b => !a.2.gt b.2) = used.entries := by
    refine List.mergeSort_of_pairwise ?_
    rw [h, List.pairwise_map]
    refine List.Pairwise.imp_of_mem (fun {m n} hm _ hlt => ?_)
      (List.pairwise_lt_range' : (List.range' 1 (MAX_USED_JTIS + 1)).Pairwise (· < ·))
    rw [List.mem_range'_1] at hm
    have hn1 : n ≠ 1 := by omega
    simp only [letterExp, hn1, if_false, PyFloat.gt_fin, Bool.not_eq_true',
      decide_eq_false_iff_not, not_lt]
    split <;> norm_num
  simp only [pruneUsedJtis, hlive]
  rw [if_pos (by omega), Dict.get?_eraseAll, if_pos]
  rw [oldestJtis, hsorted, hsize, h, List.range'_succ]
  simp

/-- The one-letter token is accepted, crowded out of the table, and accepted again. -/
theorem crowdCalls_accept_again :
    ∃ h g : List WsEntry, ∃ x t : WsEntry,
      h ++ [t] <+: (wsAuthMachine letterCodec "secret").trace .empty
        (crowdCalls ++ [letterCall 1 0 0]) ∧
      x :: g <:+ h ∧ Accepts x (letterJti 1) (.fin 100) ∧ Accepts t (letterJti 1) (.fin 100) ∧
      t.event.prunedAt = 0 := by
  have hfirst := (letterCall_accepts one_ne_zero (by norm_num : (0 : ℚ) ≤ 100)
    (show (pruneUsedJtis 0 .empty).get? (letterJti 1) = none from rfl)).2
  have hlast := (letterCall_accepts one_ne_zero (by norm_num : (0 : ℚ) ≤ 100)
    (get?_prune_crowd run_crowdCalls)).2
  have hcons : crowdCalls = letterCall 1 0 0 ::
      (List.range' 2 MAX_USED_JTIS).map (fun n => letterCall n 0 0) := by
    rw [crowdCalls, List.range'_succ, List.map_cons]
  refine ⟨(wsAuthMachine letterCodec "secret").trace .empty crowdCalls,
    (wsAuthMachine letterCodec "secret").trace
      ((wsAuthMachine letterCodec "secret").next .empty (letterCall 1 0 0))
      ((List.range' 2 MAX_USED_JTIS).map (fun n => letterCall n 0 0)),
    _, _, ?_, ?_, hfirst, hlast, rfl⟩
  · rw [EventMachine.trace_concat]
  · rw [hcons, EventMachine.trace_cons]

theorem crowdCalls_clock :
    (crowdCalls ++ [letterCall 1 0 0]).Pairwise (fun c c' => c.prunedAt ≤ c'.prunedAt) := by
  have hzero : ∀ c ∈ crowdCalls ++ [letterCall 1 0 0], c.prunedAt = 0 := by
    intro c hc
    rcases List.mem_append.1 hc with hc | hc
    · obtain ⟨n, -, rfl⟩ := List.mem_map.1 hc
      rfl
    · rw [List.mem_singleton.1 hc]
      rfl
  exact List.pairwise_of_forall_mem_list (fun c hc c' hc' => by rw [hzero c hc, hzero c' hc'])

/-- In a run of more than `_MAX_USED_JTIS` accepted tokens one is accepted twice before its
    expiry. -/
theorem wsToken_used_twice :
    ∃ calls : List WsCall, calls.Pairwise (fun c c' => c.prunedAt ≤ c'.prunedAt) ∧
      ∃ h g : List WsEntry, ∃ x t : WsEntry,
        h ++ [t] <+: (wsAuthMachine letterCodec "secret").trace .empty calls ∧ x :: g <:+ h ∧
        Accepts x (letterJti 1) (.fin 100) ∧ Accepts t (letterJti 1) (.fin 100) := by
  obtain ⟨h, g, x, t, hpre, hx, hfirst, hagain, -⟩ := crowdCalls_accept_again
  exact ⟨_, crowdCalls_clock, h, g, x, t, hpre, hx, hfirst, hagain⟩

/-- In that run the cap drops the token's id before its expiry. -/
theorem ws_single_use_crowd :
    ∃ y ∈ (wsAuthMachine letterCodec "secret").trace .empty (crowdCalls ++ [letterCall 1 0 0]),
      EvictsAtCap letterCodec "secret" y (letterJti 1) := by
  obtain ⟨h, g, x, t, hpre, hx, hfirst, hagain, hnow⟩ := crowdCalls_accept_again
  obtain ⟨y, hy, hevict⟩ := ws_single_use letterCodec "secret" .empty crowdCalls_clock hpre hx
    hfirst hagain (by rw [hnow]; exact letterExp_live 1)
  refine ⟨y, hpre.subset ?_, hevict⟩
  rcases List.mem_append.1 hy with hy | hy
  · exact List.mem_append_left _ (hx.subset (List.mem_cons_of_mem _ hy))
  · exact List.mem_append_right _ hy

end Ekaette
