import Ekaette.Sip.RtpStream

set_option autoImplicit false

/-! # Payloads of received packets

A packet of RFC 3550 has contributing sources and an extension between its fixed header and its
media, and padding behind. The receivers of the bridge cut off the twelve bytes of the fixed header:
`CallSession` with `RTPPacket.parse`, `WaSession` by itself. -/

namespace Ekaette

/-! ## Packets -/

structure HeaderExtension where
  profile : UInt16
  words : List UInt32
  words_lt : words.length < 65536

/-- A packet of RFC 3550. Padding is counted by its last byte, which stands behind the given
    ones. -/
structure RfcPacket where
  marker : Bool
  payloadType : ℕ
  payloadType_lt : payloadType < 128
  sequence : ℕ
  sequence_lt : sequence < 65536
  timestamp : ℕ
  timestamp_lt : timestamp < 4294967296
  ssrc : UInt32
  csrcs : List UInt32
  csrcs_le : csrcs.length ≤ 15
  extension : Option HeaderExtension
  payload : List UInt8
  padding : Option (List UInt8)
  padding_lt : ∀ bytes, padding = some bytes → bytes.length < 255

namespace RfcPacket

variable (r : RfcPacket)

/-- Version, padding bit, extension bit and the number of contributing sources. -/
def firstByte : ℕ :=
  128 + (if r.padding.isSome then 32 else 0) + (if r.extension.isSome then 16 else 0) +
    r.csrcs.length

def csrcBytes : List UInt8 := r.csrcs.flatMap (fun csrc => bytes32 csrc.toNat)

def extensionBytes : List UInt8 :=
  match r.extension with
  | none => []
  | some e =>
    bytes16 e.profile.toNat ++ bytes16 e.words.length ++ e.words.flatMap (fun w => bytes32 w.toNat)

def paddingBytes : List UInt8 :=
  match r.padding with
  | none => []
  | some bytes => bytes ++ [UInt8.ofNat (bytes.length + 1)]

/-- What stands behind the fixed header. -/
def body : List UInt8 :=
  r.csrcBytes ++ r.extensionBytes ++ r.payload ++ r.paddingBytes

/-- The packet on the wire. -/
def bytes : List UInt8 :=
  [UInt8.ofNat r.firstByte, UInt8.ofNat (r.payloadType + if r.marker then 128 else 0)] ++
    bytes16 r.sequence ++ bytes32 r.timestamp ++ bytes32 r.ssrc.toNat ++ r.body

/-- No contributing sources, no extension and no padding. -/
def Plain : Prop := r.csrcs = [] ∧ r.extension = none ∧ r.padding = none

end RfcPacket

/-- The number of a field fits it. -/
structure RtpPacket.Fits (p : RtpPacket) : Prop where
  version : p.version = 2
  payloadType : p.payloadType < 128
  sequence : p.sequence < 65536
  timestamp : p.timestamp < 4294967296

/-! ## Receivers -/

/-- What the receive loop of `CallSession` decodes. -/
def callPayload (frame : List UInt8) : Option (List UInt8) :=
  (RtpPacket.parse frame).map (·.payload)

/-- What the receive loop of `WaSession` decodes. -/
def waPayload (rtpPacket : List UInt8) : List UInt8 :=
  if 12 < rtpPacket.length then rtpPacket.drop 12 else rtpPacket

/-! ## What they take for the payload -/

/-- Of the first byte only the version is looked at. -/
theorem RtpPacket.parse_version {a b : UInt8} (h : a.toNat / 64 = b.toNat / 64)
    (rest : List UInt8) : RtpPacket.parse (a :: rest) = RtpPacket.parse (b :: rest) := by
  unfold RtpPacket.parse
  rcases rest with
    _ | ⟨b1, _ | ⟨q0, _ | ⟨q1, _ | ⟨t0, _ | ⟨t1, _ | ⟨t2, _ | ⟨t3, _ | ⟨s0, _ | ⟨s1, _ |
    ⟨s2, _ | ⟨s3, payload⟩⟩⟩⟩⟩⟩⟩⟩⟩⟩⟩
  all_goals simp only [h]

variable (r : RfcPacket)

theorem RfcPacket.firstByte_version :
    (UInt8.ofNat r.firstByte).toNat / 64 = (0x80 : UInt8).toNat / 64 := by
  have hle := r.csrcs_le
  have htwo : (0x80 : UInt8).toNat / 64 = 2 := by decide
  rw [htwo, UInt8.toNat_ofNat']
  unfold RfcPacket.firstByte
  split <;> split <;> omega

/-- **What is parsed**: the fields of the header, and all that stands behind it. -/
theorem RfcPacket.parse_bytes :
    RtpPacket.parse r.bytes = some ⟨2, r.payloadType, r.sequence, r.timestamp, r.ssrc, r.body,
      r.marker⟩ := by
  have hserialized := RtpPacket.parse_serialize_of_fits
    (p := ⟨2, r.payloadType, r.sequence, r.timestamp, r.ssrc, r.body, r.marker⟩) rfl
    r.payloadType_lt r.sequence_lt r.timestamp_lt
  rw [← hserialized]
  unfold RtpPacket.serialize
  rw [Nat.mod_eq_of_lt r.payloadType_lt]
  exact RtpPacket.parse_version r.firstByte_version _

theorem RfcPacket.length_bytes : r.bytes.length = 12 + r.body.length := by
  rw [RfcPacket.bytes, List.length_append]
  rfl

theorem RfcPacket.drop_bytes : r.bytes.drop 12 = r.body := rfl

theorem flatMap_bytes32_eq_nil (words : List UInt32) :
    words.flatMap (fun w => bytes32 w.toNat) = [] ↔ words = [] := by
  rw [List.flatMap_eq_nil_iff]
  constructor
  · intro h
    cases words with
    | nil => rfl
    | cons w words => exact absurd (h w List.mem_cons_self) (by simp [bytes32, bytes16])
  · rintro rfl w hw
    cases hw

/-- **The body is the payload** exactly if the packet is plain. -/
theorem RfcPacket.body_eq_payload_iff : r.body = r.payload ↔ r.Plain := by
  have hextension : r.extensionBytes = [] ↔ r.extension = none := by
    unfold RfcPacket.extensionBytes
    cases r.extension with
    | none => exact iff_of_true rfl rfl
    | some e => exact iff_of_false (by simp [bytes16]) (Option.some_ne_none e)
  have hpadding : r.paddingBytes = [] ↔ r.padding = none := by
    unfold RfcPacket.paddingBytes
    cases r.padding with
    | none => exact iff_of_true rfl rfl
    | some bytes => exact iff_of_false (by simp) (Option.some_ne_none bytes)
  rw [RfcPacket.Plain, ← flatMap_bytes32_eq_nil, ← hextension, ← hpadding]
  show r.csrcBytes ++ r.extensionBytes ++ r.payload ++ r.paddingBytes = r.payload ↔
    r.csrcBytes = [] ∧ r.extensionBytes = [] ∧ r.paddingBytes = []
  constructor
  · intro h
    have hlength := congrArg List.length h
    rw [List.length_append, List.length_append, List.length_append] at hlength
    refine ⟨?_, ?_, ?_⟩
    · exact List.length_eq_zero_iff.1 (by omega)
    · exact List.length_eq_zero_iff.1 (by omega)
    · exact List.length_eq_zero_iff.1 (by omega)
  · rintro ⟨hcsrc, hext, hpad⟩
    rw [hcsrc, hext, hpad, List.append_nil]
    rfl

/-- `WaSession` decodes the header of a packet that has nothing else. -/
theorem waPayload_bytes :
    waPayload r.bytes = if r.body = [] then r.bytes else r.body := by
  unfold waPayload
  rw [r.length_bytes, r.drop_bytes]
  by_cases hempty : r.body = []
  · rw [if_pos hempty, hempty, if_neg (by simp)]
  · have hpos := List.length_pos_iff.2 hempty
    rw [if_neg hempty, if_pos (by omega)]

/-- **Payloads are taken out exactly** from plain packets, which for `WaSession` must not be empty;
    and a packet whose numbers fit their fields is parsed from what it serializes to. -/
theorem rtpPayload_exact (p : RtpPacket) :
    (callPayload r.bytes = some r.payload ↔ r.Plain) ∧
      (waPayload r.bytes = r.payload ↔ r.Plain ∧ r.payload ≠ []) ∧
      (p.Fits → RtpPacket.parse p.serialize = some p) := by
  refine ⟨?_, ?_, fun hp => ?_⟩
  · rw [callPayload, r.parse_bytes, Option.map_some, Option.some_inj]
    exact r.body_eq_payload_iff
  · rw [waPayload_bytes, ← r.body_eq_payload_iff]
    by_cases hempty : r.body = []
    · rw [if_pos hempty]
      refine iff_of_false (fun h => ?_) (fun h => h.2 (h.1 ▸ hempty))
      -- the packet is longer than its payload
      have hlength := congrArg List.length h
      have hpayload : r.payload.length ≤ r.body.length := by
        unfold RfcPacket.body
        rw [List.length_append, List.length_append]
        omega
      rw [r.length_bytes] at hlength
      omega
    · rw [if_neg hempty]
      exact ⟨fun h => ⟨h, h ▸ hempty⟩, fun h => h.1⟩
  · exact RtpPacket.parse_serialize_of_fits hp.version hp.payloadType hp.sequence hp.timestamp

/-- A packet of silence, with one contributing source or with none. -/
def silencePacket (csrcs : List UInt32) (h : csrcs.length ≤ 15) : RfcPacket where
  marker := false
  payloadType := 0
  payloadType_lt := by decide
  sequence := 1
  sequence_lt := by decide
  timestamp := 160
  timestamp_lt := by decide
  ssrc := 7
  csrcs := csrcs
  csrcs_le := h
  extension := none
  payload := [0xff, 0xff]
  padding := none
  padding_lt := fun _ h => by cases h

/-- The packet of silence, as `RtpPacket` builds it. -/
def silenceRtp : RtpPacket := ⟨2, 0, 1, 160, 7, [0xff, 0xff], false⟩

theorem rtpPayload_exact_silence :
    callPayload (silencePacket [] (by decide)).bytes = some [0xff, 0xff] ∧
      RtpPacket.parse silenceRtp.serialize = some silenceRtp := by
  have hexact := rtpPayload_exact (silencePacket [] (by decide)) silenceRtp
  exact ⟨hexact.1.2 ⟨rfl, rfl, rfl⟩, hexact.2.2 ⟨rfl, by decide, by decide, by decide⟩⟩

/-- The contributing source is decoded as audio. -/
theorem rtpPayload_csrc :
    callPayload (silencePacket [9] (by decide)).bytes = some [0, 0, 0, 9, 0xff, 0xff] ∧
      waPayload (silencePacket [9] (by decide)).bytes = [0, 0, 0, 9, 0xff, 0xff] ∧
      (silencePacket [9] (by decide)).payload = [0xff, 0xff] := by
  decide

end Ekaette
