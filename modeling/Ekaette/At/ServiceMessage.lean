import Ekaette.At.WaSecurity
import Ekaette.Lib.FloatLiteral
import Ekaette.Lib.Utf8

set_option autoImplicit false

/-! # What a service signature covers

The HMAC of a service request covers its timestamp, its nonce and its decoded body, joined by
colons. No timestamp contains a colon; so two requests have one message only if their bodies decode
alike although they are different, or if a part of the body of one, up to a colon, is the end of the
nonce of the other. -/

namespace Ekaette

variable (cfg : ServiceAuthConfig)

/-- The settings, with the body decoded by `raw_body.decode("utf-8", errors="replace")`. -/
def ServiceAuthConfig.decoding : ServiceAuthConfig :=
  { cfg with decodeBody := fun rawBody => String.ofList (Utf8.decode rawBody) }

/-- The end of the nonce of `r'` is what the body of `r` has before a colon, and the rest of this
    body is the body of `r'`. -/
def ServiceRequest.Shifted (r r' : ServiceRequest) : Prop :=
  ∃ moved : List Char, r'.nonce.toList = r.nonce.toList ++ ':' :: moved ∧
    Utf8.decode r.rawBody = moved ++ ':' :: Utf8.decode r'.rawBody

/-- What keeps two requests with one timestamp apart: bodies that decode alike are the same, and no
    part of a body is the end of the other nonce. -/
structure ServiceRequest.Distinguished (r r' : ServiceRequest) : Prop where
  decoded : r.nonce = r'.nonce → Utf8.decode r.rawBody = Utf8.decode r'.rawBody →
    r.rawBody = r'.rawBody
  left : ¬ r.Shifted r'
  right : ¬ r'.Shifted r

theorem serviceMessage_toList (r : ServiceRequest) :
    (serviceMessage cfg.decoding r).toList =
      r.timestamp.toList ++ ':' :: (r.nonce.toList ++ ':' :: Utf8.decode r.rawBody) := by
  have hcolon : (":" : String).toList = [':'] := rfl
  simp only [serviceMessage, ServiceAuthConfig.decoding, String.toList_append, String.toList_ofList,
    hcolon, List.append_assoc, List.cons_append, List.nil_append]

/-- What stands before the first colon is read off. -/
theorem append_colon_inj {ts ts' rest rest' : List Char} (hts : ':' ∉ ts) (hts' : ':' ∉ ts')
    (h : ts ++ ':' :: rest = ts' ++ ':' :: rest') : ts = ts' ∧ rest = rest' := by
  have hsplit := (PyStr.splitFirst_append hts rest).symm.trans
    ((congrArg (PyStr.splitFirst [':']) h).trans (PyStr.splitFirst_append hts' rest'))
  exact Prod.mk.inj (Option.some.inj hsplit)

theorem append_colon_cases {n n' b b' : List Char} (h : n ++ ':' :: b = n' ++ ':' :: b') :
    (n = n' ∧ b = b') ∨ (∃ moved, n' = n ++ ':' :: moved ∧ b = moved ++ ':' :: b') ∨
      ∃ moved, n = n' ++ ':' :: moved ∧ b' = moved ++ ':' :: b := by
  rcases List.append_eq_append_iff.1 h with ⟨as, hn', hb⟩ | ⟨as, hn, hb⟩
  · cases as with
    | nil =>
      obtain ⟨-, hrest⟩ := List.cons.inj hb
      exact .inl ⟨by rw [hn', List.append_nil], hrest⟩
    | cons a moved =>
      obtain ⟨rfl, hrest⟩ := List.cons.inj hb
      exact .inr (.inl ⟨moved, hn', hrest⟩)
  · cases as with
    | nil =>
      obtain ⟨-, hrest⟩ := List.cons.inj hb
      exact .inl ⟨by rw [hn, List.append_nil], hrest.symm⟩
    | cons a moved =>
      obtain ⟨rfl, hrest⟩ := List.cons.inj hb
      exact .inr (.inr ⟨moved, hn, hrest⟩)

variable {r r' : ServiceRequest}

/-- Two requests with one message and timestamps that `float()` accepts. -/
theorem serviceMessage_eq_iff (ht : PyFloat.parseText cfg.py r.timestamp ≠ none)
    (ht' : PyFloat.parseText cfg.py r'.timestamp ≠ none) :
    serviceMessage cfg.decoding r = serviceMessage cfg.decoding r' ↔
      r.timestamp = r'.timestamp ∧
        ((r.nonce = r'.nonce ∧ Utf8.decode r.rawBody = Utf8.decode r'.rawBody) ∨
          r.Shifted r' ∨ r'.Shifted r) := by
  rw [← String.toList_inj, serviceMessage_toList, serviceMessage_toList]
  constructor
  · intro h
    obtain ⟨hstamp, hrest⟩ := append_colon_inj (PyFloat.colon_not_mem_of_parseText ht)
      (PyFloat.colon_not_mem_of_parseText ht') h
    refine ⟨String.toList_inj.1 hstamp, ?_⟩
    rcases append_colon_cases hrest with ⟨hnonce, hbody⟩ | hleft | hright
    · exact .inl ⟨String.toList_inj.1 hnonce, hbody⟩
    · exact .inr (.inl hleft)
    · exact .inr (.inr hright)
  · rintro ⟨hstamp, ⟨hnonce, hbody⟩ | ⟨moved, hnonce, hbody⟩ | ⟨moved, hnonce, hbody⟩⟩
    · rw [hstamp, hnonce, hbody]
    · rw [hstamp, hnonce, hbody, List.append_assoc, List.cons_append]
    · rw [hstamp, hnonce, hbody, List.append_assoc, List.cons_append]

theorem ServiceRequest.Shifted.nonce_ne (h : r.Shifted r') :
    r.nonce ≠ r'.nonce := by
  obtain ⟨moved, hnonce, -⟩ := h
  intro hsame
  have hlength := congrArg List.length hnonce
  rw [hsame, List.length_append, List.length_cons] at hlength
  omega

/-- **What a signature authenticates.** Two requests with one signed message are the same request,
    in timestamp, nonce and raw body, exactly if nothing of what the message leaves open tells them
    apart. -/
theorem serviceMessage_unambiguous_iff (r r' : ServiceRequest)
    (ht : PyFloat.parseText cfg.py r.timestamp ≠ none)
    (ht' : PyFloat.parseText cfg.py r'.timestamp ≠ none) :
    (serviceMessage cfg.decoding r = serviceMessage cfg.decoding r' → r.triple = r'.triple) ↔
      (r.timestamp = r'.timestamp → r.Distinguished r') := by
  rw [serviceMessage_eq_iff cfg ht ht']
  unfold ServiceRequest.triple
  constructor
  · intro h hstamp
    refine ⟨fun hnonce hbody => ?_, fun hshift => ?_, fun hshift => ?_⟩
    · exact (Prod.mk.inj (Prod.mk.inj (h ⟨hstamp, .inl ⟨hnonce, hbody⟩⟩)).2).2
    · exact hshift.nonce_ne (Prod.mk.inj (Prod.mk.inj (h ⟨hstamp, .inr (.inl hshift)⟩)).2).1
    · exact hshift.nonce_ne (Prod.mk.inj (Prod.mk.inj (h ⟨hstamp, .inr (.inr hshift)⟩)).2).1.symm
  · rintro h ⟨hstamp, ⟨hnonce, hbody⟩ | hshift | hshift⟩
    · rw [hstamp, hnonce, (h hstamp).decoded hnonce hbody]
    · exact absurd hshift (h hstamp).left
    · exact absurd hshift (h hstamp).right

/-! ## Two messages that are one -/

/-- A request with this nonce and this body, stamped `1`. -/
def stampedRequest (nonce : String) (rawBody : List UInt8) : ServiceRequest where
  timestamp := "1"
  nonce := nonce
  auth := ""
  rawBody := rawBody

theorem stampedRequest_parses (py : StrMethods) (hpy : py.decimal '1' = some 1) (nonce : String)
    (rawBody : List UInt8) : PyFloat.parseText py (stampedRequest nonce rawBody).timestamp ≠
    none := by
  have hdigits : ("1" : String).toList.map (PyFloat.asciiDigit py) = ['1'] := by
    show [PyFloat.asciiDigit py '1'] = ['1']
    unfold PyFloat.asciiDigit
    rw [hpy]
    rfl
  show PyFloat.parse (String.ofList (("1" : String).toList.map (PyFloat.asciiDigit py))) ≠ none
  rw [hdigits]
  decide +kernel

/-- A colon in the nonce, and a byte that is no UTF-8: each gives two requests with one message. -/
theorem serviceMessage_ambiguous :
    PyFloat.parseText defaultServiceAuth.py "1" ≠ none ∧
    (serviceMessage defaultServiceAuth.decoding (stampedRequest "a:b" (Utf8.encode ['c'])) =
          serviceMessage defaultServiceAuth.decoding
          (stampedRequest "a" (Utf8.encode ['b', ':', 'c'])) ∧
        (stampedRequest "a:b" (Utf8.encode ['c'])).triple ≠
          (stampedRequest "a" (Utf8.encode ['b', ':', 'c'])).triple) ∧
      serviceMessage defaultServiceAuth.decoding (stampedRequest "a" [0xFF]) =
          serviceMessage defaultServiceAuth.decoding (stampedRequest "a" [0xFE]) ∧
        (stampedRequest "a" [0xFF]).triple ≠ (stampedRequest "a" [0xFE]).triple := by
  decide +kernel

/-- The two requests with a colon in the nonce are not kept apart by what the message leaves
    open. -/
theorem serviceMessage_unambiguous_stamped :
    ¬ (stampedRequest "a:b" (Utf8.encode ['c'])).Distinguished
        (stampedRequest "a" (Utf8.encode ['b', ':', 'c'])) := by
  intro hdistinguished
  have hpy : defaultServiceAuth.py.decimal '1' = some 1 := by decide +kernel
  have hiff := serviceMessage_unambiguous_iff defaultServiceAuth
    (stampedRequest "a:b" (Utf8.encode ['c'])) (stampedRequest "a" (Utf8.encode ['b', ':', 'c']))
    (stampedRequest_parses _ hpy _ _) (stampedRequest_parses _ hpy _ _)
  have hsame := hiff.2 (fun _ => hdistinguished) (by decide +kernel)
  revert hsame
  decide +kernel

/-! ## As the bridge signs -/

/-- The bridge signs hex nonces and encoded texts, which the message keeps apart. -/
theorem distinguished_of_bridge {text text' : List Char}
    (hnonce : ':' ∉ r.nonce.toList) (hnonce' : ':' ∉ r'.nonce.toList)
    (hbody : r.rawBody = Utf8.encode text) (hbody' : r'.rawBody = Utf8.encode text') :
    r.Distinguished r' := by
  have hcolon : ∀ nonce moved : List Char, ':' ∈ nonce ++ ':' :: moved := fun _ _ =>
    List.mem_append_right _ List.mem_cons_self
  refine ⟨fun _ hsame => ?_, fun hshift => ?_, fun hshift => ?_⟩
  · rw [hbody, hbody', Utf8.decode_encode, Utf8.decode_encode] at hsame
    rw [hbody, hbody', hsame]
  · obtain ⟨moved, hcontinued, -⟩ := hshift
    exact hnonce' (hcontinued ▸ hcolon _ moved)
  · obtain ⟨moved, hcontinued, -⟩ := hshift
    exact hnonce (hcontinued ▸ hcolon _ moved)

end Ekaette
