import Mt7612u.Transmit.TxSkb

/-! `STA_AMSDU_Frame_Tx` and `AP_AMSDU_Frame_Tx` with the bytes they leave in the bulk ring, and
what a receiver makes of them. -/

namespace Mt7612u.Transmit
open BlockAck (OpMode)
open Receive (Memory Msdu DeaggContext align4 encodeAmsdu)

def amsduSubheadLen : Nat := 14

namespace MpduFront

/-- The QoS control of `STA_Build_AMSDU_Frame_Header`. -/
def staAmsdu (front : MpduFront) (userPriority ackPolicy : UInt8) : MpduFront :=
  { front with
    control := [(userPriority &&& 0x0f) ||| (ackPolicy <<< (5 : UInt8)) ||| 0x80, 0] }

end MpduFront

/-- `subFramePayloadLen` of a packet. -/
def subFramePayloadLen (pPacket : TxSkb) : Nat :=
  pPacket.srcBufLen +
    if (extraLlcSnapEncap pPacket.mem (pPacket.srcBufData - 2)).isSome then length8021H else 0

/-- The header of a sub-frame: the addresses, the length, and the encapsulation. -/
def amsduSubFrameHeader (pPacket : TxSkb) : List UInt8 :=
  pPacket.mem.bytes 0 12 ++ Receive.llcLen (subFramePayloadLen pPacket) ++ extraLlcSnap pPacket

/-- An A-MSDU that is being written. -/
structure AmsduWrite where
  ring : BulkRing
  pTxBlk : TxBlk
  frameNum : Nat
  subFramePayloadLen : Nat
  totalMPDUSize : Nat

/-- `HeaderBuf` for a later sub-frame, which is built from `position` on, behind its padding. -/
def laterSubFrame (position : Nat) (s : AmsduWrite) (pPacket : TxSkb) : TxBlk :=
  let unpadded := amsduSubheadLen + s.subFramePayloadLen
  let padding := align4 unpadded - unpadded
  let cleared := s.pTxBlk.headerBuf.write position (List.replicate (padding + amsduSubheadLen) 0)
  { s.pTxBlk with headerBuf := cleared, mpduHeaderLen := padding }.putSubFrame
    (position + padding) (amsduSubFrameHeader pPacket)

/-- One turn of the loops. -/
def amsduFrame (front : MpduFront) (position : Nat) (s : AmsduWrite) (pPacket : TxSkb) :
    AmsduWrite :=
  let pTxBlk :=
    if s.frameNum = 0 then
      (front.put s.pTxBlk).putSubFrame front.bodyStart (amsduSubFrameHeader pPacket)
    else laterSubFrame position s pPacket
  let written := s.ring.writeMultiTxResource pTxBlk (UInt8.ofNat s.frameNum) pPacket.srcBuf
  { ring := written.2
    pTxBlk := written.1
    frameNum := s.frameNum + 1
    subFramePayloadLen := subFramePayloadLen pPacket
    totalMPDUSize := (s.totalMPDUSize + (pTxBlk.mpduHeaderLen + pPacket.srcBufLen)) % 65536 }

/-- The loops, from the first packet on. -/
def amsduFrames (front : MpduFront) (position : Nat) (ring : BulkRing) (pTxBlk : TxBlk)
    (packets : List TxSkb) : AmsduWrite :=
  packets.foldl (amsduFrame front position) ⟨ring, pTxBlk, 0, 0, 0⟩

/-- `STA_AMSDU_Frame_Tx`. -/
def BulkRing.staAmsduFrameTx (ring : BulkRing) (front : MpduFront)
    (userPriority ackPolicy : UInt8) (pTxBlk : TxBlk) (packets : List TxSkb) : BulkRing :=
  let written := amsduFrames (front.staAmsdu userPriority ackPolicy) 0 ring pTxBlk packets
  written.ring.finalWriteTxResource written.pTxBlk written.totalMPDUSize

/-- `AP_AMSDU_Frame_Tx`, for packets that `RTMP_FillTxBlkInfo` accepts. -/
def BulkRing.apAmsduFrameTx (ring : BulkRing) (front : MpduFront) (pTxBlk : TxBlk)
    (packets : List TxSkb) : BulkRing :=
  let written := amsduFrames front mtDmaHdrLen ring pTxBlk packets
  written.ring.finalWriteTxResource written.pTxBlk written.totalMPDUSize

namespace TxSkb.Carries

variable {pPacket : TxSkb} {packet : EthernetPacket}

theorem subFramePayloadLen_eq (carries : pPacket.Carries packet) :
    subFramePayloadLen pPacket = packet.msdu.body.length := by
  unfold subFramePayloadLen
  rw [carries.extraLlcSnapEncap_eq, carries.srcBufLen_eq, Receive.length_body, Nat.add_comm]
  cases packet.msdu.isEtherType <;> rfl

/-- The header built for a packet and the bytes behind it are its sub-frame. -/
theorem subFrame_eq (carries : pPacket.Carries packet) :
    amsduSubFrameHeader pPacket ++ pPacket.srcBuf = packet.msdu.subFrame := by
  unfold amsduSubFrameHeader Msdu.subFrame Msdu.body
  rw [carries.addresses_eq, carries.subFramePayloadLen_eq, carries.extraLlcSnap_eq,
    carries.srcBuf_eq]
  simp only [Msdu.body, List.append_assoc]

end TxSkb.Carries

/-- One more sub-frame goes behind the padding of the one before it. -/
theorem encodeAmsdu_concat (msdus : List Msdu) (last next : Msdu) :
    encodeAmsdu (msdus ++ [last] ++ [next]) =
      encodeAmsdu (msdus ++ [last]) ++ Receive.padding last.subFrame.length ++ next.subFrame := by
  induction msdus with
  | nil => rfl
  | cons msdu rest ih =>
    cases rest with
    | nil => simp [encodeAmsdu]
    | cons second rest =>
      simp only [List.cons_append] at ih ⊢
      rw [encodeAmsdu, ih, encodeAmsdu]
      simp only [List.append_assoc]

/-- The A-MSDU of these packets stands in the ring, behind its header. -/
structure AmsduWritten (front : MpduFront) (start : Nat) (s : AmsduWrite) (msdus : List Msdu) :
    Prop where
  writing : ∃ head pad : List UInt8, head.length = mtDmaHdrLen + txwiSize ∧
    pad.length = front.bodyStart - (mtDmaHdrLen + txwiSize + front.headerLen) ∧
    s.ring.Writing s.pTxBlk start (head ++ (front.header ++ pad ++ encodeAmsdu msdus))
  frameNum : s.frameNum = msdus.length
  payloadLen : ∀ last ∈ msdus.getLast?, s.subFramePayloadLen = last.body.length
  total : s.totalMPDUSize = (front.headerLen + (encodeAmsdu msdus).length) % 65536

/-- The first packet takes the place in the ring. -/
theorem amsduWritten_first (front : MpduFront) (position : Nat) {ring : BulkRing} (pTxBlk : TxBlk)
    {pPacket : TxSkb} {packet : EthernetPacket} (carries : pPacket.Carries packet)
    (room : ring.canDoWrite = true) (unsaved : ring.inSavedPad = false) :
    AmsduWritten front ring.reserve.curWritePosition
      (amsduFrame front position ⟨ring, pTxBlk, 0, 0, 0⟩ pPacket) [packet.msdu] := by
  obtain ⟨pad, padded, copied⟩ := front.put_bytes pTxBlk (amsduSubFrameHeader pPacket)
  obtain ⟨txinfo, four, writing⟩ := BulkRing.writing_first
    ((front.put pTxBlk).putSubFrame front.bodyStart (amsduSubFrameHeader pPacket)) pPacket.srcBuf
    room unsaved
  have frame : txinfo ++ (front.txwi ++ (front.header ++ pad ++ amsduSubFrameHeader pPacket)) ++
      pPacket.srcBuf = txinfo ++ front.txwi ++ (front.header ++ pad ++ packet.msdu.subFrame) := by
    rw [← carries.subFrame_eq]
    simp only [List.append_assoc]
  rw [copied, frame] at writing
  constructor
  · refine ⟨txinfo ++ front.txwi, pad, ?_, padded, writing⟩
    rw [List.length_append, four, front.txwi_length]
  · rfl
  · intro last member
    rw [← Option.mem_some_iff.mp member]
    exact carries.subFramePayloadLen_eq
  · have size := congrArg List.length carries.subFrame_eq
    rw [List.length_append, carries.srcBuf_eq] at size
    simp only [amsduFrame, ↓reduceIte, TxBlk.putSubFrame, MpduFront.put, encodeAmsdu,
      carries.srcBufLen_eq, ← size]
    omega

/-- A later sub-frame in `HeaderBuf`: its padding, then its header. -/
theorem laterSubFrame_bytes (position : Nat) (s : AmsduWrite) (pPacket : TxSkb) {size : Nat}
    (unpadded : amsduSubheadLen + s.subFramePayloadLen = size) :
    (laterSubFrame position s pPacket).headerBuf.bytes position
        (laterSubFrame position s pPacket).mpduHeaderLen =
      Receive.padding size ++ amsduSubFrameHeader pPacket := by
  subst unpadded
  let padding := align4 (amsduSubheadLen + s.subFramePayloadLen) -
    (amsduSubheadLen + s.subFramePayloadLen)
  have cleared := s.pTxBlk.headerBuf.write_holds position
    (List.replicate (padding + amsduSubheadLen) 0)
  rw [List.replicate_add, Memory.holds_append] at cleared
  have stored := Memory.holds_write_behind cleared.1 (amsduSubFrameHeader pPacket)
  rw [List.length_replicate, ← List.replicate_add] at stored
  unfold Memory.Holds at stored
  rw [List.length_append, List.length_replicate] at stored
  exact stored

theorem ofNat_ne_zero {n : Nat} (pos : n ≠ 0) (small : n < 256) : UInt8.ofNat n ≠ 0 := by
  intro zero
  have value := congrArg UInt8.toNat zero
  rw [UInt8.toNat_ofNat', UInt8.toNat_zero] at value
  omega

/-- What a later turn adds to the ring: the front of `HeaderBuf`, then the packet. -/
theorem writing_later (front : MpduFront) (position : Nat) {s : AmsduWrite} (pPacket : TxSkb)
    {start : Nat} {frame : List UInt8} (writing : s.ring.Writing s.pTxBlk start frame)
    (later : s.frameNum ≠ 0) (few : s.frameNum < 256) :
    (amsduFrame front position s pPacket).ring.Writing
      (amsduFrame front position s pPacket).pTxBlk start
      (frame ++ (laterSubFrame position s pPacket).headerBuf.bytes 0
        (laterSubFrame position s pPacket).mpduHeaderLen ++ pPacket.srcBuf) := by
  have step := writing.next (ofNat_ne_zero later few) pPacket.srcBuf
    (rfl : (laterSubFrame position s pPacket).priv = s.pTxBlk.priv)
  unfold amsduFrame
  rw [if_neg later]
  exact step

/-- A later packet goes behind the padding of the one before it. -/
theorem AmsduWritten.next {front : MpduFront} {start : Nat} {s : AmsduWrite} {msdus : List Msdu}
    (written : AmsduWritten front start s msdus) {pPacket : TxSkb} {packet : EthernetPacket}
    (carries : pPacket.Carries packet) (some : msdus ≠ []) (few : msdus.length < 256) :
    AmsduWritten front start (amsduFrame front 0 s pPacket) (msdus ++ [packet.msdu]) := by
  obtain ⟨others, last, rfl⟩ := (List.eq_nil_or_concat' msdus).resolve_left some
  have later : s.frameNum ≠ 0 := by
    rw [written.frameNum, List.length_append]
    exact Nat.succ_ne_zero _
  have payloadLen : s.subFramePayloadLen = last.body.length :=
    written.payloadLen last (by rw [List.getLast?_concat]; exact rfl)
  have unpadded : amsduSubheadLen + s.subFramePayloadLen = last.subFrame.length := by
    rw [payloadLen, Receive.length_subFrame, amsduSubheadLen]
  have copied := laterSubFrame_bytes 0 s pPacket unpadded
  have headerLen := congrArg List.length copied
  rw [Memory.length_bytes, List.length_append] at headerLen
  have size := congrArg List.length carries.subFrame_eq
  rw [List.length_append, carries.srcBuf_eq] at size
  constructor
  · obtain ⟨head, pad, front24, padded, writing⟩ := written.writing
    have step := writing_later front 0 pPacket writing later
      (by rw [written.frameNum]; exact few)
    rw [copied] at step
    refine ⟨head, pad, front24, padded, ?_⟩
    rw [encodeAmsdu_concat, ← carries.subFrame_eq]
    simp only [List.append_assoc] at step ⊢
    exact step
  · rw [List.length_append, ← written.frameNum]
    rfl
  · intro final member
    rw [List.getLast?_concat] at member
    rw [← Option.mem_some_iff.mp member]
    exact carries.subFramePayloadLen_eq
  · have total := written.total
    unfold amsduFrame
    rw [if_neg later]
    dsimp only
    rw [encodeAmsdu_concat, List.length_append, List.length_append, ← size, carries.srcBufLen_eq,
      headerLen]
    omega

/-- The packets that follow one another in the batch. -/
theorem AmsduWritten.frames {front : MpduFront} {start : Nat} {s : AmsduWrite} {msdus : List Msdu}
    (written : AmsduWritten front start s msdus) (some : msdus ≠ []) {packets : List TxSkb}
    {carried : List EthernetPacket} (carries : List.Forall₂ TxSkb.Carries packets carried)
    (few : msdus.length + packets.length ≤ 256) :
    AmsduWritten front start (packets.foldl (amsduFrame front 0) s)
      (msdus ++ carried.map EthernetPacket.msdu) := by
  induction carries generalizing s msdus with
  | nil =>
    rw [List.map_nil, List.append_nil]
    exact written
  | @cons pPacket packet packets carried one _ ih =>
    rw [List.length_cons] at few
    have step := written.next one some (by omega)
    have rest := ih step (by simp) (by rw [List.length_append]; simp only [List.length_singleton]; omega)
    rw [List.append_assoc, List.singleton_append] at rest
    exact rest

/-- What the dequeue loop adds is at least fifteen bytes long, and the batch stays short of the
buffer of a receiver. -/
theorem aggregated_bound {opMode : OpMode} {infraOn : Bool} {pTxBlkPacket : TxSkb}
    {number totalFrameLen : Nat} {packets : List TxSkb}
    (batch : aggregated opMode infraOn .amsdu pTxBlkPacket number totalFrameLen packets = true)
    (some : packets ≠ []) :
    totalFrameLen + (packets.map TxSkb.len).sum ≤ rxBufferAggresize - 100 ∧
      15 * packets.length ≤ (packets.map TxSkb.len).sum := by
  induction packets generalizing number totalFrameLen with
  | nil => exact absurd rfl some
  | cons pPacket rest ih =>
    rw [aggregated, Bool.and_eq_true] at batch
    obtain ⟨admitted, others⟩ := batch
    obtain ⟨long, fits, -⟩ := canDoAggregateTransmit_fits admitted
    have header : length8023 ≤ pPacket.srcBufData := Nat.le_add_right _ _
    simp only [true_and, not_lt, rxBufferAggresize] at fits
    simp only [length8023] at header
    rw [List.map_cons, List.sum_cons, List.length_cons]
    by_cases last : rest = []
    · subst last
      simp only [List.map_nil, List.sum_nil, List.length_nil, rxBufferAggresize]
      omega
    · rw [Nat.mod_eq_of_lt (by omega)] at others
      obtain ⟨total, each⟩ := ih others last
      omega

/-- A sub-frame takes up at most twice the bytes of its packet. -/
theorem length_encodeAmsdu_le {packets : List TxSkb} {carried : List EthernetPacket}
    (carries : List.Forall₂ TxSkb.Carries packets carried) :
    (encodeAmsdu (carried.map EthernetPacket.msdu)).length ≤ 2 * (packets.map TxSkb.len).sum := by
  induction carries with
  | nil => exact Nat.zero_le _
  | @cons pPacket packet packets carried one others ih =>
    have len := one.len
    rw [packet.length_bytes] at len
    have sub := Receive.length_subFrame packet.msdu
    rw [Receive.length_body] at sub
    have own : packet.msdu.subFrame.length ≤ 22 + packet.msdu.payload.length := by
      rw [sub]
      split_ifs <;> omega
    have padded : (Receive.padding packet.msdu.subFrame.length).length ≤ 3 := by
      rw [Receive.padding, List.length_replicate, align4]
      omega
    simp only [length8023] at len
    rw [List.map_cons, List.map_cons, List.sum_cons]
    cases carried with
    | nil =>
      rw [List.map_nil, encodeAmsdu]
      omega
    | cons next carried =>
      rw [List.map_cons] at ih ⊢
      rw [encodeAmsdu, List.length_append, List.length_append]
      omega

/-- What `STA_AMSDU_Frame_Tx` leaves in a ring that has room for it. -/
theorem staAmsduFrameTx_finished (front : MpduFront) (userPriority ackPolicy : UInt8)
    {ring : BulkRing} (pTxBlk : TxBlk) {opMode : OpMode} {infraOn : Bool} {pPacket : TxSkb}
    {packets : List TxSkb} {carried : List EthernetPacket}
    (carries : List.Forall₂ TxSkb.Carries (pPacket :: packets) carried) (some : packets ≠ [])
    (batch : aggregated opMode infraOn .amsdu pPacket 1 pPacket.len packets = true)
    (room : ring.canDoWrite = true) (unsaved : ring.inSavedPad = false) :
    ∃ pad : List UInt8, pad.length = 2 ∧
      (ring.staAmsduFrameTx front userPriority ackPolicy pTxBlk (pPacket :: packets)).Finished
        ring.reserve.curWritePosition
        (26 + (encodeAmsdu (carried.map EthernetPacket.msdu)).length)
        ((front.staAmsdu userPriority ackPolicy).header ++ pad ++
          encodeAmsdu (carried.map EthernetPacket.msdu)) := by
  obtain ⟨total, each⟩ := aggregated_bound batch some
  have size := length_encodeAmsdu_le carries
  rw [List.map_cons, List.sum_cons] at size
  simp only [rxBufferAggresize] at total
  cases carries with
  | @cons _ packet _ carried one others =>
    let header := front.staAmsdu userPriority ackPolicy
    have first := amsduWritten_first header 0 pTxBlk one room unsaved
    have written := first.frames (List.cons_ne_nil _ _) others
      (by rw [List.length_singleton]; omega)
    rw [List.singleton_append, ← List.map_cons (f := EthernetPacket.msdu)] at written
    obtain ⟨head, pad, front24, padded, writing⟩ := written.writing
    have count := written.total
    have length : header.headerLen = 26 := rfl
    rw [length, Nat.mod_eq_of_lt (by omega)] at count
    have two : pad.length = 2 := by
      rw [padded, MpduFront.bodyStart, length]
      rfl
    have whole : (header.header ++ pad ++ encodeAmsdu ((packet :: carried).map
        EthernetPacket.msdu)).length =
          28 + (encodeAmsdu ((packet :: carried).map EthernetPacket.msdu)).length := by
      rw [List.length_append, List.length_append, header.length_header, length, two]
    refine ⟨pad, two, ?_⟩
    rw [← count]
    apply writing.final front24
    · rw [whole, align4, txwiSize]
      omega
    · apply lt_of_eq_of_lt count
      omega

/-- The A-MSDU of a station is taken apart again: behind TXINFO, TXWI, the 802.11 header and its
padding stands the encoding of the packets without their VLAN tags, the two length fields say how
long it is, and whoever receives these bytes announces the packets. -/
theorem staAmsduFrameTx_deaggregated (pAd : TxSetting) {wdev : Wdev} (own : wdev.vlanVid = 0)
    (front : MpduFront) (userPriority ackPolicy : UInt8) {ring : BulkRing} (pTxBlk : TxBlk)
    {infraOn : Bool} {pPacket : TxSkb} {packets : List TxSkb} {carried : List EthernetPacket}
    (handed : List.Forall₂ (HandedOver pAd wdev) (pPacket :: packets) carried)
    (typed : ∀ packet ∈ carried, packet.msdu.isEtherType = true) (several : packets ≠ [])
    (batch : aggregated .sta infraOn .amsdu pPacket 1 pPacket.len packets = true)
    (room : ring.canDoWrite = true) (unsaved : ring.inSavedPad = false) :
    let sent := ring.staAmsduFrameTx front userPriority ackPolicy pTxBlk (pPacket :: packets)
    let start := ring.reserve.curWritePosition
    let body := encodeAmsdu (carried.map EthernetPacket.msdu)
    mpduTotalByteCnt sent.wirelessPacket (start + mtDmaHdrLen) = 26 + body.length ∧
      pktLen sent.wirelessPacket start = align4 (txwiSize + 26 + 2 + body.length) ∧
      (sent.curWritePosition = start + mtDmaHdrLen + pktLen sent.wirelessPacket start ∨
        sent.curWritePosition = 8) ∧
      sent.wirelessPacket.Holds (start + mtDmaHdrLen + txwiSize)
        (front.staAmsdu userPriority ackPolicy).header ∧
      sent.wirelessPacket.Holds (start + mtDmaHdrLen + txwiSize + 28) body ∧
      ∀ (c : DeaggContext) (mem : Memory) (pData : Nat),
        mem.bytes pData body.length =
            sent.wirelessPacket.bytes (start + mtDmaHdrLen + txwiSize + 28) body.length →
          (∀ packet ∈ carried.dropLast, 7 ≤ packet.msdu.payload.length) →
          (∀ i < carried.length, c.cloned i = true) →
          Receive.RoundTrips c (Receive.deaggregateAMSDUAnnounce c mem pData body.length 0) 0
            (carried.map EthernetPacket.msdu) := by
  have carries := forall_carries own handed typed
  obtain ⟨pad, two, finished⟩ := staAmsduFrameTx_finished front userPriority ackPolicy pTxBlk
    carries several batch room unsaved
  have length : (front.staAmsdu userPriority ackPolicy).header.length = 26 :=
    MpduFront.length_header _
  have size : ((front.staAmsdu userPriority ackPolicy).header ++ pad ++
      encodeAmsdu (carried.map EthernetPacket.msdu)).length =
        28 + (encodeAmsdu (carried.map EthernetPacket.msdu)).length := by
    rw [List.length_append, List.length_append, length, two]
  have held := finished.holds
  rw [← Nat.add_assoc, Memory.holds_append, Memory.holds_append, Memory.holds_append, length,
    List.length_append, length, two] at held
  obtain ⟨⟨⟨header, -⟩, body⟩, -⟩ := held
  have pkt := finished.pktLen
  rw [size, ← Nat.add_assoc] at pkt
  refine ⟨finished.byteCnt, pkt, ?_, header, body, ?_⟩
  · rw [finished.pktLen, Nat.add_assoc]
    exact finished.position
  · intro c mem pData same long cloned
    cases carries with
    | @cons _ packet _ others one rest =>
      apply (Receive.walk_roundTrips_iff c packet.msdu (others.map EthernetPacket.msdu) 0
        (same.trans body)).mpr
      refine ⟨?_, ?_, ?_⟩
      · intro msdu member
        rw [← List.map_cons (f := EthernetPacket.msdu)] at member
        obtain ⟨source, inside, rfl⟩ := List.mem_map.mp member
        exact typed source inside
      · intro msdu member
        rw [← List.map_cons (f := EthernetPacket.msdu), ← List.map_dropLast] at member
        obtain ⟨source, inside, rfl⟩ := List.mem_map.mp member
        exact long source inside
      · intro i inside
        rw [← List.map_cons (f := EthernetPacket.msdu), List.length_map] at inside
        rw [Nat.zero_add]
        exact cloned i inside

theorem smallPackets_aggregated (tag : Option (UInt8 × UInt8)) :
    aggregated .sta true .amsdu (handOver (smallPacket tag)) 1 (handOver (smallPacket tag)).len
      [handOver (smallPacket none)] = true := by
  cases tag <;> rfl

theorem smallPackets_handedOver (tag : Option (UInt8 × UInt8)) :
    List.Forall₂ (HandedOver stationSetting stationWdev)
      [handOver (smallPacket tag), handOver (smallPacket none)]
      [smallPacket tag, smallPacket none] :=
  .cons (handedOver _) (.cons (handedOver _) .nil)

/-- A tagged packet and one without a tag. -/
theorem smallPackets_deaggregated :
    let sent := roomyRing.staAmsduFrameTx zeroFront 0 0 clearedTxBlk
      [handOver (smallPacket (some (0, 5))), handOver (smallPacket none)]
    mpduTotalByteCnt sent.wirelessPacket 20 = 90 ∧
      (Receive.deaggregateAMSDUAnnounce Receive.stationContext sent.wirelessPacket 68 64 0).announced
        = [(smallPacket none).bytes, (smallPacket none).bytes] := by
  obtain ⟨count, -, -, -, -, received⟩ := staAmsduFrameTx_deaggregated stationSetting rfl zeroFront 0
    0 clearedTxBlk (smallPackets_handedOver (some (0, 5))) (by decide) (List.cons_ne_nil _ _)
    (smallPackets_aggregated _) (by decide : roomyRing.canDoWrite = true) rfl
  have walk := received Receive.stationContext
    (roomyRing.staAmsduFrameTx zeroFront 0 0 clearedTxBlk
      [handOver (smallPacket (some (0, 5))), handOver (smallPacket none)]).wirelessPacket 68 rfl
    (by decide) (fun _ _ => rfl)
  exact ⟨count, walk.1⟩

/-- The tag of the first packet does not come back. -/
theorem smallPackets_lose_tag :
    let sent := roomyRing.staAmsduFrameTx zeroFront 0 0 clearedTxBlk
      [handOver (smallPacket (some (0, 5))), handOver (smallPacket none)]
    aggregated .sta true .amsdu (handOver (smallPacket (some (0, 5)))) 1
        (handOver (smallPacket (some (0, 5)))).len [handOver (smallPacket none)] = true ∧
      (Receive.deaggregateAMSDUAnnounce Receive.stationContext sent.wirelessPacket 68
          (mpduTotalByteCnt sent.wirelessPacket 20 - 26) 0).announced ≠
        [(smallPacket (some (0, 5))).bytes, (smallPacket none).bytes] := by
  have batch := smallPackets_aggregated (some (0, 5))
  apply And.intro batch
  have carries := forall_carries rfl (smallPackets_handedOver (some (0, 5))) (by decide)
  obtain ⟨pad, two, finished⟩ := staAmsduFrameTx_finished zeroFront 0 0 clearedTxBlk carries
    (List.cons_ne_nil _ _) batch (by decide : roomyRing.canDoWrite = true) rfl
  have count := finished.byteCnt
  have held := finished.holds
  rw [Memory.holds_append, Memory.holds_append, List.length_append, two,
    MpduFront.length_header] at held
  have walk := (Receive.walk_roundTrips_iff Receive.stationContext _ _ 0 held.1.2).mpr
    ⟨by decide, by decide, fun _ _ => rfl⟩
  intro same
  have announced := walk.1.symm.trans ((congrArg (fun size =>
    (Receive.deaggregateAMSDUAnnounce Receive.stationContext
      (roomyRing.staAmsduFrameTx zeroFront 0 0 clearedTxBlk
        [handOver (smallPacket (some (0, 5))), handOver (smallPacket none)]).wirelessPacket 68 size
      0).announced) (congrArg (· - 26) count)).symm.trans same)
  exact absurd announced (by decide)

end Mt7612u.Transmit
