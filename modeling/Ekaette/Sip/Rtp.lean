import Mathlib.Data.List.Basic

set_option autoImplicit false

/-! # RTP packets

`RTPPacket` of `sip_bridge/rtp.py`: twelve bytes of header, then the payload. -/

namespace Ekaette

/-- `RTP_HEADER_SIZE`. -/
def RTP_HEADER_SIZE : ℕ := 12

structure RtpPacket where
  version : ℕ
  payloadType : ℕ
  sequence : ℕ
  timestamp : ℕ
  /-- a number that fits its four bytes -/
  ssrc : UInt32
  payload : List UInt8
  marker : Bool
  deriving DecidableEq

/-- The number two bytes stand for, most significant first. -/
def word16 (a b : UInt8) : ℕ := a.toNat * 256 + b.toNat

/-- The number four bytes stand for. -/
def word32 (a b c d : UInt8) : ℕ := word16 a b * 65536 + word16 c d

/-- The low 16 bits of a number, as two bytes. -/
def bytes16 (n : ℕ) : List UInt8 := [UInt8.ofNat (n / 256), UInt8.ofNat n]

/-- The low 32 bits of a number, as four bytes. -/
def bytes32 (n : ℕ) : List UInt8 := bytes16 (n / 65536) ++ bytes16 n

/-- `RTPPacket.parse`. -/
def RtpPacket.parse : List UInt8 → Option RtpPacket
  | byte0 :: byte1 :: q0 :: q1 :: t0 :: t1 :: t2 :: t3 :: s0 :: s1 :: s2 :: s3 :: payload =>
    if byte0.toNat / 64 ≠ 2 then none
    else some
      { version := byte0.toNat / 64
        payloadType := byte1.toNat % 128
        sequence := word16 q0 q1
        timestamp := word32 t0 t1 t2 t3
        ssrc := UInt32.ofNat (word32 s0 s1 s2 s3)
        payload
        marker := decide (byte1.toNat / 128 = 1) }
  | _ => none

/-- `RTPPacket.serialize`. -/
def RtpPacket.serialize (p : RtpPacket) : List UInt8 :=
  [0x80, UInt8.ofNat (p.payloadType % 128 + if p.marker then 128 else 0)] ++ bytes16 p.sequence
    ++ bytes32 p.timestamp ++ bytes32 p.ssrc.toNat ++ p.payload

theorem word16_bytes16 (n : ℕ) :
    word16 (UInt8.ofNat (n / 256)) (UInt8.ofNat n) = n % 65536 := by
  simp only [word16, UInt8.toNat_ofNat']
  omega

theorem word32_bytes32 (n : ℕ) :
    word32 (UInt8.ofNat (n / 65536 / 256)) (UInt8.ofNat (n / 65536)) (UInt8.ofNat (n / 256))
      (UInt8.ofNat n) = n % 4294967296 := by
  rw [word32, word16_bytes16, word16_bytes16]
  omega

/-- **Round trip**: a serialized packet parses to itself, with its numbers cut to their fields. -/
theorem RtpPacket.parse_serialize (p : RtpPacket) :
    RtpPacket.parse p.serialize = some
      { p with
        version := 2
        payloadType := p.payloadType % 128
        sequence := p.sequence % 65536
        timestamp := p.timestamp % 4294967296 } := by
  have hssrc : UInt32.ofNat (p.ssrc.toNat % 4294967296) = p.ssrc := by
    rw [Nat.mod_eq_of_lt p.ssrc.toNat_lt]
    exact UInt32.ofNat_toNat
  have hmarker : ∀ pt, pt < 128 →
      (UInt8.ofNat (pt + if p.marker then 128 else 0)).toNat % 128 = pt ∧
        decide ((UInt8.ofNat (pt + if p.marker then 128 else 0)).toNat / 128 = 1) = p.marker := by
    intro pt hpt
    rw [UInt8.toNat_ofNat']
    cases p.marker with
    | true =>
      simp only [if_true, decide_eq_true_eq]
      omega
    | false =>
      simp only [Bool.false_eq_true, if_false, decide_eq_false_iff_not]
      omega
  obtain ⟨hpt, hm⟩ := hmarker (p.payloadType % 128) (Nat.mod_lt _ (by decide))
  have hversion : (0x80 : UInt8).toNat / 64 = 2 := by decide
  simp only [serialize, bytes16, bytes32, List.cons_append, List.nil_append, parse, hversion, ne_eq,
    not_true_eq_false, if_false, word16_bytes16, word32_bytes32, hpt, hm, hssrc]

/-- What is parsed has a header in front of its payload. -/
theorem RtpPacket.length_of_parse {data : List UInt8} {p : RtpPacket}
    (h : RtpPacket.parse data = some p) : data.length = RTP_HEADER_SIZE + p.payload.length := by
  unfold RtpPacket.parse at h
  split at h
  · split at h
    · simp at h
    · rw [Option.some.injEq] at h
      subst h
      simp [RTP_HEADER_SIZE]
      omega
  · simp at h

end Ekaette
