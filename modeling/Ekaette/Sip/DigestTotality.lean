import Ekaette.Sip.DigestAgreement

set_option autoImplicit false

/-! # Verification of a header ends

`verify_digest` refuses headers that it cannot parse, that have another username, that have no
response or another one, and headers whose response cannot be computed. It compares with
`hmac.compare_digest`, which takes ASCII texts only, and what it raises on others is not caught. -/

namespace Ekaette

variable {py : StrMethods} {hashes : DigestHashes}

/-- The response that the parameters and the configured credentials determine. -/
def expectedResponse (py : StrMethods) (hashes : DigestHashes) (params : Dict String String)
    (username password method : String) : Option String :=
  computeDigestResponse py hashes (digestRequestOf params username password method)

/-- **A valid header**: it has the configured username and the response that the credentials
    determine. -/
def ValidHeader (py : StrMethods) (hashes : DigestHashes) (header username password method :
    String) : Prop :=
  ∃ params response, parseChallenge py header = some params ∧
    params.get? "username" = some username ∧ params.get? "response" = some response ∧
    expectedResponse py hashes params username password method = some response

/-- **Exact and total**: a `bool` is returned, and it is `True` exactly for a valid header. -/
def VerifiesExactly (py : StrMethods) (hashes : DigestHashes) (header username password method :
    String) : Prop :=
  ∃ verified, verifyDigest py hashes header username password method = some verified ∧
    (verified = true ↔ ValidHeader py hashes header username password method)

/-- The texts of a header that are compared are ASCII: its username and the configured one; and its
    response, when the usernames are the same and the parameters determine a response to compare it
    with. -/
def ComparesAscii (py : StrMethods) (hashes : DigestHashes) (header username password method :
    String) : Prop :=
  ∀ params, parseChallenge py header = some params →
    ∀ provided, params.get? "username" = some provided →
      PyStr.IsAscii provided ∧ PyStr.IsAscii username ∧
        ∀ response, provided = username →
          (expectedResponse py hashes params username password method).isSome = true →
          params.get? "response" = some response → PyStr.IsAscii response

/-! ## Comparison -/

theorem compareDigest_eq_none_iff (a b : String) :
    compareDigest a b = none ↔ ¬(PyStr.IsAscii a ∧ PyStr.IsAscii b) := by
  unfold compareDigest
  split_ifs with hascii
  · exact iff_of_false (by simp) (not_not.2 hascii)
  · exact iff_of_true rfl hascii

theorem compareDigest_of_ascii {a b : String} (ha : PyStr.IsAscii a) (hb : PyStr.IsAscii b) :
    compareDigest a b = some (decide (a = b)) :=
  if_pos ⟨ha, hb⟩

theorem computeDigestResponse_hash {r : DigestRequest} {response : String}
    (h : computeDigestResponse py hashes r = some response) :
    ∃ data, hashWith py hashes r.algorithm data = some response := by
  obtain ⟨ha1, -, h⟩ := Option.bind_eq_some_iff.1 h
  obtain ⟨ha2, -, h⟩ := Option.bind_eq_some_iff.1 h
  cases hqop : selectQop r.qop with
  | none =>
    rw [hqop] at h
    exact ⟨_, h⟩
  | some qop =>
    rw [hqop] at h
    dsimp only at h
    split_ifs at h with hauth
    · cases hnc : r.nc with
      | none =>
        rw [hnc] at h
        cases h
      | some nc =>
        cases hcnonce : r.cnonce with
        | none =>
          rw [hnc, hcnonce] at h
          cases h
        | some cnonce =>
          rw [hnc, hcnonce] at h
          exact ⟨_, h⟩
    · exact ⟨_, h⟩

theorem hashWith_ascii (hhex : hashes.Hex) {algorithm data digest : String}
    (h : hashWith py hashes algorithm data = some digest) : PyStr.IsAscii digest := by
  obtain ⟨hmd5, -, hsha256, -⟩ := hhex data
  unfold hashWith at h
  dsimp only at h
  split_ifs at h with hname hname'
  · rw [← Option.some.inj h]
    exact fun c hc => toNat_lt_of_isAlphanum (hmd5 c hc)
  · rw [← Option.some.inj h]
    exact fun c hc => toNat_lt_of_isAlphanum (hsha256 c hc)

theorem expectedResponse_ascii (hhex : hashes.Hex) {params : Dict String String}
    {username password method response : String}
    (h : expectedResponse py hashes params username password method = some response) :
    PyStr.IsAscii response := by
  obtain ⟨data, hdata⟩ := computeDigestResponse_hash h
  exact hashWith_ascii hhex hdata

/-! ## The stages -/

variable {header username password method : String}

theorem verifyDigest_of_params {params : Dict String String}
    (hparams : parseChallenge py header = some params)
    {provided : String} (hprovided : params.get? "username" = some provided) :
    verifyDigest py hashes header username password method =
      (compareDigest provided username).bind (fun same =>
        if same then
          match expectedResponse py hashes params username password method,
              params.get? "response" with
          | some expected, some response => compareDigest expected response
          | _, _ => some false
        else some false) := by
  unfold verifyDigest
  rw [hparams]
  dsimp only
  rw [hprovided]
  dsimp only
  cases compareDigest provided username with
  | none => rfl
  | some same =>
    cases same with
    | false => rfl
    | true =>
      rw [Option.bind_some, if_pos rfl]
      have hcomputed :
        computeDigestResponse py hashes (digestRequestOf params username password method) =
          expectedResponse py hashes params username password method := rfl
      rw [hcomputed]
      cases expectedResponse py hashes params username password method with
      | none => rfl
      | some expected =>
        cases params.get? "response" with
        | none => rfl
        | some response => rfl

theorem verifiesExactly_of_ascii (hhex : hashes.Hex)
    (hascii : ComparesAscii py hashes header username password method) :
    VerifiesExactly py hashes header username password method := by
  -- the header fails before the responses are compared
  have hrefused : ∀ {verified : Option Bool}, verified = some false →
      ¬ValidHeader py hashes header username password method →
      ∃ b, verified = some b ∧ (b = true ↔ ValidHeader py hashes header username password method) :=
    fun hfalse hinvalid => ⟨false, hfalse, iff_of_false Bool.false_ne_true hinvalid⟩
  unfold VerifiesExactly
  cases hparams : parseChallenge py header with
  | none =>
    refine hrefused ?_ ?_
    · unfold verifyDigest
      rw [hparams]
    · rintro ⟨params, response, hsome, -⟩
      rw [hparams] at hsome
      cases hsome
  | some params =>
    cases hprovided : params.get? "username" with
    | none =>
      refine hrefused ?_ ?_
      · unfold verifyDigest
        rw [hparams]
        dsimp only
        rw [hprovided]
      · rintro ⟨params', response, hsome, huser, -⟩
        rw [hparams] at hsome
        cases hsome
        rw [hprovided] at huser
        cases huser
    | some provided =>
      obtain ⟨hprovided', husername, hresponse⟩ := hascii params hparams provided hprovided
      rw [verifyDigest_of_params hparams hprovided, compareDigest_of_ascii hprovided' husername,
        Option.bind_some]
      by_cases hsame : provided = username
      · rw [if_pos (decide_eq_true hsame)]
        have hvalid : ValidHeader py hashes header username password method ↔
            ∃ response, params.get? "response" = some response ∧
              expectedResponse py hashes params username password method = some response := by
          constructor
          · rintro ⟨params', response, hsome, -, hget, hexpected⟩
            rw [hparams] at hsome
            cases hsome
            exact ⟨response, hget, hexpected⟩
          · rintro ⟨response, hget, hexpected⟩
            exact ⟨params, response, hparams, hsame ▸ hprovided, hget, hexpected⟩
        rw [hvalid]
        cases hexpected : expectedResponse py hashes params username password method with
        | none => exact ⟨false, rfl, by simp⟩
        | some expected =>
          cases hget : params.get? "response" with
          | none => exact ⟨false, rfl, by simp⟩
          | some response =>
            have hgot := hresponse response hsame (by rw [hexpected]; rfl) hget
            refine ⟨_, compareDigest_of_ascii (expectedResponse_ascii hhex hexpected) hgot, ?_⟩
            rw [decide_eq_true_iff]
            constructor
            · intro h
              exact ⟨response, rfl, by rw [h]⟩
            · rintro ⟨r, hr, he⟩
              rw [Option.some.inj he, Option.some.inj hr]
      · rw [if_neg (by simpa using hsame)]
        refine hrefused rfl ?_
        rintro ⟨params', response, hsome, huser, -⟩
        rw [hparams] at hsome
        cases hsome
        rw [hprovided] at huser
        exact hsame (Option.some.inj huser)

/-- **`verify_digest` is exact and total** on a header exactly if the texts of it that are compared
    are ASCII. -/
theorem verifyDigest_exact_iff (py : StrMethods) (hashes : DigestHashes) (hhex : hashes.Hex)
    (header username password method : String) :
    VerifiesExactly py hashes header username password method ↔
      ComparesAscii py hashes header username password method := by
  refine ⟨fun hexact params hparams provided hprovided => ?_, verifiesExactly_of_ascii hhex⟩
  obtain ⟨verified, hverified, -⟩ := hexact
  rw [verifyDigest_of_params hparams hprovided] at hverified
  -- the usernames were compared
  have hboth : PyStr.IsAscii provided ∧ PyStr.IsAscii username := by
    by_contra hnot
    rw [(compareDigest_eq_none_iff _ _).2 hnot] at hverified
    cases hverified
  refine ⟨hboth.1, hboth.2, fun response hsame hsome hget => ?_⟩
  rw [compareDigest_of_ascii hboth.1 hboth.2, Option.bind_some, if_pos (decide_eq_true hsame),
    hget] at hverified
  obtain ⟨expected, hexpected⟩ := Option.isSome_iff_exists.1 hsome
  rw [hexpected] at hverified
  dsimp only at hverified
  by_contra hnot
  rw [(compareDigest_eq_none_iff expected response).2 (fun h => hnot h.2)] at hverified
  cases hverified

/-- Another user is refused. -/
theorem verifyDigest_exact_iff_other :
    VerifiesExactly .ascii aliceHashes "Digest realm=r, nonce=n, username=bob" "alice" "secret"
    "INVITE" := by
  refine (verifyDigest_exact_iff .ascii aliceHashes aliceHashes_hex _ _ _ _).2 fun params hparams
    provided hget => ?_
  have hparsed : (parseChallenge .ascii "Digest realm=r, nonce=n, username=bob").bind
      (·.get? "username") = some "bob" := by
    decide +kernel
  rw [hparams, Option.bind_some, hget] at hparsed
  rw [Option.some.inj hparsed]
  exact ⟨by decide, by decide, fun response h => by simp at h⟩

/-- A username that is not ASCII, and such a response of the configured user: both raise. -/
theorem verifyDigest_raises :
    verifyDigest .ascii aliceHashes "Digest realm=r, nonce=n, username=é" "alice" "secret"
    "INVITE" = none ∧
      verifyDigest .ascii aliceHashes "Digest realm=r, nonce=n, username=alice, response=é" "alice"
        "secret" "INVITE" = none := by
  decide +kernel

end Ekaette
