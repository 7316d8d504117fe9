import Ekaette.Lib.BoundedQueue
import Ekaette.Sip.CallSession

set_option autoImplicit false

/-! # The outbound RTP stream of a phone call

`_media_outbound_loop` of `sip_bridge/session.py`, from one await to the next: it waits for an item
of the queue, encodes it, and sends frames of 160 bytes until less than a frame is left, waiting for
the time of the next frame after each. Everything else may happen while it waits. -/

namespace Ekaette

/-- The codec bridge with its state, as the loop calls it: `none` where encoding raises. -/
abbrev OutboundCodec (σ : Type) := σ → Pcm → σ × Option (List UInt8)

/-- The codec of a session: its bridge, or no encoding without one. -/
def CallConfig.outboundCodec (config : CallConfig) : OutboundCodec Unit := fun _ pcm =>
  ((), match config.codecBridge with
    | some bridge => bridge.encodeFromPcm16 pcm
    | none => some pcm)

/-- What the loop waits for. -/
inductive RtpWait where
  /-- `outbound_queue.get()` -/
  | item
  /-- `timer.wait_next_frame()` -/
  | frameTime
  /-- nothing, it has ended -/
  | ended
  deriving DecidableEq

structure RtpLoop (σ : Type) where
  waiting : RtpWait
  /-- `_shutdown` is set -/
  shutdown : Bool
  /-- there is a transport and a remote address, and `sendto` raises nothing -/
  reachable : Bool
  codec : σ
  g711Buffer : List UInt8
  framesSent : ℕ
  seq : ℕ
  timestamp : ℕ

/-- A packet, and whether it is handed to the transport. -/
structure BuiltPacket where
  packet : RtpPacket
  sent : Bool

inductive RtpEvent where
  /-- The queue gives an item. -/
  | item (pcm : Pcm)
  /-- Waiting for an item times out. -/
  | timeout
  /-- The time of the next frame has come. -/
  | frameTime
  /-- The transport or the remote address changes. -/
  | transport (reachable : Bool)
  /-- `shutdown` is called. -/
  | stop
  /-- The task is cancelled. -/
  | cancel

/-- What the loop does about an event. -/
structure RtpAnswer where
  /-- an item that was encoded -/
  encoded : Option (List UInt8)
  built : Option BuiltPacket

variable {σ : Type}

/-- The packet of the next frame. -/
def RtpLoop.packet (ssrc : UInt32) (s : RtpLoop σ) : RtpPacket where
  version := 2
  payloadType := PCMU_PAYLOAD_TYPE
  sequence := s.seq % 2 ^ 16
  timestamp := s.timestamp % 2 ^ 32
  ssrc
  payload := s.g711Buffer.take FRAME_SIZE
  marker := s.framesSent = 0

/-- Both loop heads, up to the next await. -/
def RtpLoop.proceed (ssrc : UInt32) (s : RtpLoop σ) : RtpLoop σ × Option BuiltPacket :=
  if s.shutdown then ({ s with waiting := .ended }, none)
  else if s.g711Buffer.length < FRAME_SIZE then ({ s with waiting := .item }, none)
  else
    ({ s with
        waiting := .frameTime
        g711Buffer := s.g711Buffer.drop FRAME_SIZE
        framesSent := s.framesSent + 1
        seq := s.seq + 1
        timestamp := s.timestamp + FRAME_SIZE },
      some ⟨s.packet ssrc, s.reachable⟩)

variable (codec : OutboundCodec σ)

/-- An item of the queue is encoded; it is left out where this raises. -/
def RtpLoop.encode (s : RtpLoop σ) (pcm : Pcm) :
    RtpLoop σ × Option (List UInt8) :=
  let (state, encoded) := codec s.codec pcm
  ({ s with codec := state, g711Buffer := s.g711Buffer ++ encoded.getD [] }, encoded)

/-- `_media_outbound_loop`. -/
def rtpMachine (ssrc : UInt32) :
    EventMachine (RtpLoop σ) RtpEvent RtpAnswer where
  step s
    | .item pcm =>
      if s.waiting = .item then
        let (s, encoded) := s.encode codec pcm
        let (s, built) := s.proceed ssrc
        (s, ⟨encoded, built⟩)
      else (s, ⟨none, none⟩)
    | .timeout =>
      if s.waiting = .item then
        let (s, built) := s.proceed ssrc
        (s, ⟨none, built⟩)
      else (s, ⟨none, none⟩)
    | .frameTime =>
      if s.waiting = .frameTime then
        let (s, built) := s.proceed ssrc
        (s, ⟨none, built⟩)
      else (s, ⟨none, none⟩)
    | .transport reachable => ({ s with reachable }, ⟨none, none⟩)
    | .stop => ({ s with shutdown := true }, ⟨none, none⟩)
    | .cancel => ({ s with waiting := .ended }, ⟨none, none⟩)

/-- The loop as it is started. -/
def RtpLoop.start (shutdown reachable : Bool) (codec : σ) : RtpLoop σ where
  waiting := if shutdown then .ended else .item
  shutdown
  reachable
  codec
  g711Buffer := []
  framesSent := 0
  seq := 0
  timestamp := 0

/-! ## The loop of a session -/

/-- The loop variables of a session. -/
def CallSession.rtpLoop (s : CallSession) (waiting : RtpWait) (reachable : Bool) : RtpLoop Unit :=
  ⟨waiting, s.link.shutdown, reachable, (), s.g711Buffer, s.framesSent, s.seq, s.timestamp⟩

/-- What a session answers when the loop builds a packet. -/
def BuiltPacket.answer (built : Option BuiltPacket) : CallAnswer :=
  match built with
  | some b => if b.sent then .toPhone b.packet.serialize else .none
  | none => .none

theorem CallSession.outboundRound_proceed (config : CallConfig) (reachable : Bool)
    (s : CallSession) (waiting : RtpWait) :
    let r := ((s.fillG711 config).rtpLoop waiting reachable).proceed config.ssrc
    (s.outboundRound config reachable).1.rtpLoop r.1.waiting reachable = r.1 ∧
      (s.outboundRound config reachable).2 = BuiltPacket.answer r.2 := by
  unfold outboundRound RtpLoop.proceed
  simp only [rtpLoop, Bool.or_eq_true, decide_eq_true_eq]
  by_cases hshutdown : (s.fillG711 config).link.shutdown = true
  · simp [hshutdown, BuiltPacket.answer]
  · by_cases hshort : (s.fillG711 config).g711Buffer.length < FRAME_SIZE
    · simp [hshutdown, hshort, BuiltPacket.answer]
    · simp [hshutdown, hshort, BuiltPacket.answer, RtpLoop.packet, packet]

/-- What a round of a session is for the loop. -/
def CallSession.roundEvent (s : CallSession) : RtpEvent :=
  if s.g711Buffer.length < FRAME_SIZE then s.outboundQueue.head?.elim .timeout .item else .frameTime

/-- **A round of a session** is a step of the loop. -/
theorem CallSession.outboundRound_rtpMachine (config : CallConfig) (reachable : Bool)
    (s : CallSession) :
    let waiting := if s.g711Buffer.length < FRAME_SIZE then .item else .frameTime
    let r := (rtpMachine config.outboundCodec config.ssrc).step (s.rtpLoop waiting reachable)
      s.roundEvent
    (s.outboundRound config reachable).1.rtpLoop r.1.waiting reachable = r.1 ∧
      (s.outboundRound config reachable).2 = BuiltPacket.answer r.2.built := by
  by_cases hshort : s.g711Buffer.length < FRAME_SIZE
  · have hround := s.outboundRound_proceed config reachable .item
    simp only [roundEvent, if_pos hshort]
    cases hqueue : s.outboundQueue with
    | nil =>
      have hfill : s.fillG711 config = s := by simp [fillG711, hshort, hqueue]
      rw [hfill] at hround
      exact hround
    | cons pcm queue =>
      have hfill : (s.fillG711 config).rtpLoop .item reachable =
          ((s.rtpLoop .item reachable).encode config.outboundCodec pcm).1 := by
        rw [fillG711, if_pos hshort, hqueue]
        rfl
      rw [hfill] at hround
      exact hround
  · have hround := s.outboundRound_proceed config reachable .frameTime
    have hfill : s.fillG711 config = s := by rw [fillG711, if_neg hshort]
    rw [hfill] at hround
    simp only [roundEvent, if_neg hshort]
    exact hround

/-! ## What a run builds -/

variable (answers : List RtpAnswer)

/-- The packets of a run, in order. -/
def builtPackets : List RtpPacket :=
  answers.filterMap (fun a => a.built.map (·.packet))

/-- The successful encodings of a run, in order. -/
def encodings : List (List UInt8) := answers.filterMap (·.encoded)

/-- The bytes in some packets. -/
def payloads (packets : List RtpPacket) : List UInt8 := (packets.map (·.payload)).flatten

/-- **The packet number `k`** of a stream. -/
structure StreamPacket (ssrc : UInt32) (k : ℕ) (p : RtpPacket) : Prop where
  sequence : p.sequence = k % 2 ^ 16
  timestamp : p.timestamp = 160 * k % 2 ^ 32
  ssrc : p.ssrc = ssrc
  marker : p.marker = true ↔ k = 0
  payload : p.payload.length = 160
  /-- and it is this packet on the wire, too -/
  wire : RtpPacket.parse p.serialize = some p

/-- The counters stand at the number of the next packet, and no byte is lost. -/
structure RtpInvariant (ssrc : UInt32) (answers : List RtpAnswer) (s : RtpLoop σ) : Prop where
  framesSent : s.framesSent = (builtPackets answers).length
  seq : s.seq = (builtPackets answers).length
  timestamp : s.timestamp = 160 * (builtPackets answers).length
  numbered : ∀ k p, (builtPackets answers)[k]? = some p → StreamPacket ssrc k p
  bytes : (encodings answers).flatten = payloads (builtPackets answers) ++ s.g711Buffer
  short : s.waiting = .item → s.g711Buffer.length < 160

/-- A packet whose numbers fit their fields is read back from the wire. -/
theorem RtpPacket.parse_serialize_of_fits {p : RtpPacket} (hversion : p.version = 2)
    (htype : p.payloadType < 128) (hsequence : p.sequence < 65536)
    (htimestamp : p.timestamp < 4294967296) : RtpPacket.parse p.serialize = some p := by
  rw [RtpPacket.parse_serialize, ← hversion, Nat.mod_eq_of_lt htype, Nat.mod_eq_of_lt hsequence,
    Nat.mod_eq_of_lt htimestamp]

variable {ssrc : UInt32}

/-- **The next packet** has the number the counters stand at. -/
theorem RtpLoop.packet_numbered {s : RtpLoop σ} {k : ℕ} (hframes : s.framesSent = k)
    (hseq : s.seq = k) (htimestamp : s.timestamp = 160 * k)
    (hlength : FRAME_SIZE ≤ s.g711Buffer.length) : StreamPacket ssrc k (s.packet ssrc) := by
  refine ⟨by rw [packet, hseq], by rw [packet, htimestamp], rfl, ?_, ?_, ?_⟩
  · rw [packet, decide_eq_true_iff, hframes]
  · show (s.g711Buffer.take FRAME_SIZE).length = 160
    rw [List.length_take_of_le hlength]
    rfl
  · exact RtpPacket.parse_serialize_of_fits rfl (by show (0 : ℕ) < 128; omega)
      (Nat.mod_lt _ (by decide)) (Nat.mod_lt _ (by decide))

theorem builtPackets_concat (encoded : Option (List UInt8)) (built : Option BuiltPacket) :
    builtPackets (answers ++ [⟨encoded, built⟩]) =
      builtPackets answers ++ (built.map (·.packet)).toList := by
  rw [builtPackets, List.filterMap_append, ← builtPackets]
  cases built with
  | none => rfl
  | some b => rfl

theorem encodings_concat (encoded : Option (List UInt8)) (built : Option BuiltPacket) :
    encodings (answers ++ [⟨encoded, built⟩]) = encodings answers ++ encoded.toList := by
  rw [encodings, List.filterMap_append, ← encodings]
  cases encoded with
  | none => rfl
  | some b => rfl

/-- What holds between an encoded item and the next await. -/
structure RtpCounted (ssrc : UInt32) (packets : List RtpPacket) (encoded : List UInt8)
    (s : RtpLoop σ) :
    Prop where
  framesSent : s.framesSent = packets.length
  seq : s.seq = packets.length
  timestamp : s.timestamp = 160 * packets.length
  numbered : ∀ k p, packets[k]? = some p → StreamPacket ssrc k p
  bytes : encoded = payloads packets ++ s.g711Buffer

/-- **The loop heads** build the next packet, or wait for an item with less than a frame left. -/
theorem RtpCounted.proceed {packets : List RtpPacket} {encoded : List UInt8}
    {s : RtpLoop σ} (h : RtpCounted ssrc packets encoded s) :
    RtpCounted ssrc (packets ++ ((s.proceed ssrc).2.map (·.packet)).toList) encoded
    (s.proceed ssrc).1 ∧
      ((s.proceed ssrc).1.waiting = .item → (s.proceed ssrc).1.g711Buffer.length < 160) := by
  rw [RtpLoop.proceed]
  split_ifs with hshutdown hshort
  · rw [Option.map_none, Option.toList_none, List.append_nil]
    exact ⟨⟨h.framesSent, h.seq, h.timestamp, h.numbered, h.bytes⟩, fun hwait => by cases hwait⟩
  · rw [Option.map_none, Option.toList_none, List.append_nil]
    exact ⟨⟨h.framesSent, h.seq, h.timestamp, h.numbered, h.bytes⟩, fun _ => hshort⟩
  · have hlength : (packets ++ [s.packet ssrc]).length = packets.length + 1 := by
      rw [List.length_append, List.length_singleton]
    refine ⟨⟨?_, ?_, ?_, ?_, ?_⟩, fun hwait => by cases hwait⟩
    · exact (congrArg (· + 1) h.framesSent).trans hlength.symm
    · exact (congrArg (· + 1) h.seq).trans hlength.symm
    · show s.timestamp + FRAME_SIZE = 160 * (packets ++ [s.packet ssrc]).length
      rw [hlength, h.timestamp, FRAME_SIZE]
      omega
    · show ∀ k p, (packets ++ [s.packet ssrc])[k]? = some p → StreamPacket ssrc k p
      intro k p hp
      rcases Nat.lt_trichotomy k packets.length with hk | hk | hk
      · rw [List.getElem?_append_left hk] at hp
        exact h.numbered k p hp
      · rw [hk, List.getElem?_concat_length, Option.some_inj] at hp
        rw [← hp, hk]
        exact RtpLoop.packet_numbered h.framesSent h.seq h.timestamp (Nat.le_of_not_lt hshort)
      · rw [List.getElem?_eq_none (by omega)] at hp
        cases hp
    · show encoded = payloads (packets ++ [s.packet ssrc]) ++ s.g711Buffer.drop FRAME_SIZE
      rw [payloads, List.map_append, List.flatten_append, ← payloads, h.bytes, List.append_assoc]
      congr 1
      rw [List.map_singleton, List.flatten_singleton]
      exact (List.take_append_drop FRAME_SIZE s.g711Buffer).symm

theorem RtpInvariant.counted {answers : List RtpAnswer} {s : RtpLoop σ}
    (h : RtpInvariant ssrc answers s) :
    RtpCounted ssrc (builtPackets answers) (encodings answers).flatten s :=
  ⟨h.framesSent, h.seq, h.timestamp, h.numbered, h.bytes⟩

theorem RtpCounted.answered {answers : List RtpAnswer} {s : RtpLoop σ}
    (encoded : Option (List UInt8))
    (h : RtpCounted ssrc (builtPackets answers) ((encodings answers).flatten ++ encoded.getD []) s)
    : RtpInvariant ssrc (answers ++ [⟨encoded, (s.proceed ssrc).2⟩]) (s.proceed ssrc).1 := by
  obtain ⟨hcounted, hshort⟩ := h.proceed
  have hencoded : (encodings answers ++ encoded.toList).flatten =
      (encodings answers).flatten ++ encoded.getD [] := by
    cases encoded with
    | none => simp
    | some bytes => simp
  refine ⟨?_, ?_, ?_, ?_, ?_, hshort⟩
  · rw [builtPackets_concat]
    exact hcounted.framesSent
  · rw [builtPackets_concat]
    exact hcounted.seq
  · rw [builtPackets_concat]
    exact hcounted.timestamp
  · rw [builtPackets_concat]
    exact hcounted.numbered
  · rw [builtPackets_concat, encodings_concat, hencoded]
    exact hcounted.bytes

/-- An answer without an item and without a packet changes nothing. -/
theorem RtpInvariant.quiet {answers : List RtpAnswer} {s s' : RtpLoop σ}
    (h : RtpInvariant ssrc answers s) (hframes : s'.framesSent = s.framesSent)
    (hseq : s'.seq = s.seq) (htimestamp : s'.timestamp = s.timestamp)
    (hbuffer : s'.g711Buffer = s.g711Buffer) (hwaiting : s'.waiting = .item → s.waiting = .item) :
    RtpInvariant ssrc (answers ++ [⟨none, none⟩]) s' := by
  have hpackets : builtPackets (answers ++ [⟨none, none⟩]) = builtPackets answers := by
    rw [builtPackets_concat]
    exact List.append_nil _
  have hencodings : encodings (answers ++ [⟨none, none⟩]) = encodings answers := by
    rw [encodings_concat]
    exact List.append_nil _
  refine ⟨?_, ?_, ?_, ?_, ?_, fun hwait => ?_⟩
  · rw [hpackets, hframes, h.framesSent]
  · rw [hpackets, hseq, h.seq]
  · rw [hpackets, htimestamp, h.timestamp]
  · rw [hpackets]
    exact h.numbered
  · rw [hpackets, hencodings, hbuffer]
    exact h.bytes
  · rw [hbuffer]
    exact h.short (hwaiting hwait)

/-- **One event** keeps the invariant. -/
theorem rtpInvariant_step (ssrc : UInt32) {answers : List RtpAnswer}
    {s : RtpLoop σ} (e : RtpEvent) (h : RtpInvariant ssrc answers s) :
    RtpInvariant ssrc (answers ++ [((rtpMachine codec ssrc).step s e).2])
      ((rtpMachine codec ssrc).step s e).1 := by
  have hsame : RtpInvariant ssrc (answers ++ [⟨none, none⟩]) s :=
    h.quiet rfl rfl rfl rfl (fun hwait => hwait)
  have hproceed :
      RtpInvariant ssrc (answers ++ [⟨none, (s.proceed ssrc).2⟩]) (s.proceed ssrc).1 := by
    refine RtpCounted.answered none ?_
    rw [Option.getD_none, List.append_nil]
    exact h.counted
  cases e with
  | item pcm =>
    simp only [rtpMachine]
    split
    · -- the encoded bytes join the buffer before packets are cut off it
      refine RtpCounted.answered (s.encode codec pcm).2 ?_
      refine ⟨h.framesSent, h.seq, h.timestamp, h.numbered, ?_⟩
      show (encodings answers).flatten ++ (codec s.codec pcm).2.getD [] =
        payloads (builtPackets answers) ++ (s.g711Buffer ++ (codec s.codec pcm).2.getD [])
      rw [h.bytes, List.append_assoc]
    · exact hsame
  | timeout =>
    simp only [rtpMachine]
    split
    · exact hproceed
    · exact hsame
  | frameTime =>
    simp only [rtpMachine]
    split
    · exact hproceed
    · exact hsame
  | transport reachable => exact h.quiet rfl rfl rfl rfl (fun hwait => hwait)
  | stop => exact h.quiet rfl rfl rfl rfl (fun hwait => hwait)
  | cancel => exact h.quiet rfl rfl rfl rfl (fun hwait => by cases hwait)

theorem rtpInvariant_start (ssrc : UInt32) (shutdown reachable : Bool) (codec : σ) :
    RtpInvariant ssrc [] (RtpLoop.start shutdown reachable codec) :=
  ⟨rfl, rfl, rfl, fun k p hp => by simp [builtPackets] at hp, rfl, fun _ => Nat.zero_lt_succ 159⟩

/-- The answers of a run of the loop. -/
def rtpAnswers (ssrc : UInt32) (s : RtpLoop σ) (es : List RtpEvent) :
    List RtpAnswer :=
  ((rtpMachine codec ssrc).trace s es).map (·.answer)

/-- **A whole run** keeps the invariant. -/
theorem rtpInvariant_run (ssrc : UInt32) (shutdown reachable : Bool)
    (state : σ) (es : List RtpEvent) :
    RtpInvariant ssrc (rtpAnswers codec ssrc (RtpLoop.start shutdown reachable state) es)
      ((rtpMachine codec ssrc).run (RtpLoop.start shutdown reachable state) es) := by
  refine (rtpMachine codec ssrc).trace_induction
    (C := fun log s => RtpInvariant ssrc (log.map (·.answer)) s)
    (rtpInvariant_start ssrc shutdown reachable state) (fun log s e _ ih => ?_)
  rw [List.map_append, List.map_singleton]
  exact rtpInvariant_step codec ssrc e ih

/-- The items of a log that the loop took. -/
def rtpItems (log : List (EventMachine.Entry (RtpLoop σ) RtpEvent RtpAnswer)) : List Pcm :=
  log.filterMap fun t =>
    match t.event with
    | .item pcm => if t.pre.waiting = .item then some pcm else none
    | _ => none

/-- The loop encodes what it takes: a step takes an item and gives it to the codec, or does
    neither. -/
theorem rtpMachine_encodes (ssrc : UInt32) (s : RtpLoop σ) (e : RtpEvent) :
    (∃ pcm, rtpItems [(rtpMachine codec ssrc).entry s e] = [pcm] ∧
      ((rtpMachine codec ssrc).next s e).codec = (codec s.codec pcm).1 ∧
        ((rtpMachine codec ssrc).entry s e).answer.encoded = (codec s.codec pcm).2) ∨
    rtpItems [(rtpMachine codec ssrc).entry s e] = [] ∧
      ((rtpMachine codec ssrc).next s e).codec = s.codec ∧
        ((rtpMachine codec ssrc).entry s e).answer.encoded = none := by
  have hproceed : ∀ loop : RtpLoop σ, (loop.proceed ssrc).1.codec = loop.codec := by
    intro loop
    rw [RtpLoop.proceed]
    split_ifs <;> rfl
  cases e with
  | item pcm =>
    by_cases hwaiting : s.waiting = .item
    · refine .inl ⟨pcm, ?_, ?_, ?_⟩
      · simp [rtpItems, hwaiting]
      · simp [EventMachine.next, rtpMachine, hwaiting, hproceed, RtpLoop.encode]
      · simp [EventMachine.entry, rtpMachine, hwaiting, RtpLoop.encode]
    · refine .inr ⟨?_, ?_, ?_⟩
      · simp [rtpItems, hwaiting]
      · simp [EventMachine.next, rtpMachine, hwaiting]
      · simp [EventMachine.entry, rtpMachine, hwaiting]
  | timeout =>
    refine .inr ⟨rfl, ?_, ?_⟩
    · simp only [EventMachine.next, rtpMachine]
      split_ifs
      · exact hproceed s
      · rfl
    · simp only [EventMachine.entry, rtpMachine]
      split_ifs <;> rfl
  | frameTime =>
    refine .inr ⟨rfl, ?_, ?_⟩
    · simp only [EventMachine.next, rtpMachine]
      split_ifs
      · exact hproceed s
      · rfl
    · simp only [EventMachine.entry, rtpMachine]
      split_ifs <;> rfl
  | transport reachable => exact .inr ⟨rfl, rfl, rfl⟩
  | stop => exact .inr ⟨rfl, rfl, rfl⟩
  | cancel => exact .inr ⟨rfl, rfl, rfl⟩

/-- **The encodings of a run** are what the codec makes of the items that the loop took. -/
theorem encodings_run (ssrc : UInt32) (s : RtpLoop σ) (es : List RtpEvent) :
    (((rtpMachine codec ssrc).run s es).codec, encodings (rtpAnswers codec ssrc s es)) =
      BoundedQueue.processAll codec s.codec (rtpItems ((rtpMachine codec ssrc).trace s es)) := by
  induction es using List.reverseRecOn with
  | nil => rfl
  | append_singleton es e ih =>
    obtain ⟨hcodec, hencodings⟩ := Prod.mk.inj ih
    have hconcat : encodings (rtpAnswers codec ssrc s (es ++ [e])) =
        encodings (rtpAnswers codec ssrc s es) ++ Option.toList
          ((rtpMachine codec ssrc).entry ((rtpMachine codec ssrc).run s es) e).answer.encoded := by
      rw [rtpAnswers, EventMachine.trace_concat, List.map_append, List.map_singleton, ← rtpAnswers]
      exact encodings_concat _ _ _
    rw [hconcat, EventMachine.run_concat, EventMachine.trace_concat, rtpItems,
      List.filterMap_append, ← rtpItems, ← rtpItems]
    rcases rtpMachine_encodes codec ssrc ((rtpMachine codec ssrc).run s es) e with
      ⟨pcm, htaken, hnext, hencoded⟩ | ⟨htaken, hnext, hencoded⟩
    · rw [htaken, BoundedQueue.processAll_concat, ← hcodec, ← hencodings, hnext, hencoded]
    · rw [htaken, List.append_nil, ← ih, hnext, hencoded, Option.toList_none, List.append_nil]

/-- **The outbound RTP stream.** For every codec and every run, the packets are numbered from 0 with
    their wrapped sequence numbers and timestamps, one ssrc, the marker on the first and 160 bytes
    each, and their payloads are the encoded bytes but for a rest, which is less than a frame
    whenever the loop waits for an item. -/
theorem rtpStream_numbered (ssrc : UInt32) (shutdown reachable : Bool)
    (state : σ) (es : List RtpEvent) :
    (∀ k p, (builtPackets (rtpAnswers codec ssrc (RtpLoop.start shutdown reachable state) es))[k]? =
      some p → StreamPacket ssrc k p) ∧
    ∃ rest, (encodings (rtpAnswers codec ssrc (RtpLoop.start shutdown reachable state) es)).flatten
    =
        payloads (builtPackets (rtpAnswers codec ssrc (RtpLoop.start shutdown reachable state) es))
        ++ rest ∧
      (((rtpMachine codec ssrc).run (RtpLoop.start shutdown reachable state) es).waiting = .item →
        rest.length < 160) :=
  have h := rtpInvariant_run codec ssrc shutdown reachable state es
  ⟨h.numbered, _, h.bytes, h.short⟩

example : (builtPackets (rtpAnswers (fun _ pcm => ((), some pcm)) 7 (.start false true ())
    [.item (List.replicate 100 1), .item (List.replicate 250 2), .frameTime])).map
      (fun p => (p.sequence, p.timestamp, p.marker, p.payload.length)) =
    [(0, 0, true, 160), (1, 160, false, 160)] := by
  decide +kernel

end Ekaette
