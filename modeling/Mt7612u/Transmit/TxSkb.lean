import Mt7612u.Transmit.BulkRing

/-! The Ethernet packets that the aggregating and fragmenting functions take: what is read of
them, which of them share a frame, and the header that `HeaderBuf` holds in front of them. -/

namespace Mt7612u.Transmit
open BlockAck (Wcid OpMode)
open Receive (Memory Msdu align4)

def rxBufferAggresize : Nat := 3840

/-- A packet to send, with what `RTMPCheckEtherType` left in its control block. -/
structure TxSkb where
  mem : Memory
  len : Nat
  wcid : Wcid
  mark : EtherCheck

namespace TxSkb

/-- Where `pSrcBufData` points once the 802.3 header and the VLAN tag are skipped. -/
def srcBufData (pPacket : TxSkb) : Nat :=
  length8023 + if pPacket.mark.vlan then length8021Q else 0

def srcBufLen (pPacket : TxSkb) : Nat := pPacket.len - pPacket.srcBufData

/-- The `SrcBufLen` bytes at `pSrcBufData`. -/
def srcBuf (pPacket : TxSkb) : List UInt8 := pPacket.mem.bytes pPacket.srcBufData pPacket.srcBufLen

end TxSkb

/-- `EXTRA_LLCSNAP_ENCAP_FROM_PKT_OFFSET`; `none` for a null pointer. -/
def extraLlcSnapEncap (mem : Memory) (pBufVA : Nat) : Option (List UInt8) :=
  if 1500 < be16 mem pBufVA then
    if mem.equal pBufVA Receive.ipx || mem.equal pBufVA Receive.appleTalk then
      some Receive.snapBridgeTunnel
    else some Receive.snap8021H
  else none

/-- The encapsulation that is inserted, with the type behind it. -/
def extraLlcSnap (pPacket : TxSkb) : List UInt8 :=
  match extraLlcSnapEncap pPacket.mem (pPacket.srcBufData - 2) with
  | none => []
  | some pExtraLlcSnapEncap =>
      pExtraLlcSnapEncap ++ pPacket.mem.bytes (pPacket.srcBufData - 2) 2

/-- `CanDoAggregateTransmit`. -/
def canDoAggregateTransmit (opMode : OpMode) (infraOn : Bool) (txFrameType : FrameKind)
    (pTxBlkPacket : TxSkb) (number totalFrameLen : Nat) (pPacket : TxSkb) : Bool :=
  let minLen := length8023 +
    if pPacket.mark.vlan then length8021Q else if pPacket.mark.llcSnap then 8 else 0
  if pPacket.wcid = mcastWcid then false
  else if pPacket.mark.dhcp || pPacket.mark.eapol then false
  else if pPacket.len ≤ minLen then false
  else if txFrameType = .amsdu ∧ rxBufferAggresize - 100 < totalFrameLen + pPacket.len then false
  else if txFrameType = .ralink ∧ number = 2 then false
  else if infraOn ∧ opMode = .sta then true
  else decide (pTxBlkPacket.mem.bytes 0 6 = pPacket.mem.bytes 0 6 ∧ opMode = .ap)

/-- The packets that the dequeue loop adds to the batch of `pTxBlkPacket`. -/
def aggregated (opMode : OpMode) (infraOn : Bool) (txFrameType : FrameKind)
    (pTxBlkPacket : TxSkb) : Nat → Nat → List TxSkb → Bool
  | _, _, [] => true
  | number, totalFrameLen, pPacket :: rest =>
      canDoAggregateTransmit opMode infraOn txFrameType pTxBlkPacket number totalFrameLen pPacket &&
        aggregated opMode infraOn txFrameType pTxBlkPacket (number + 1)
          ((totalFrameLen + pPacket.len) % 65536) rest

/-- What goes in front of the frames of a batch: the TXWI, the common 802.11 header, and the
control fields behind it. -/
structure MpduFront where
  txwi : List UInt8
  wifiHdr : List UInt8
  control : List UInt8
  txwi_length : txwi.length = txwiSize
  wifiHdr_length : wifiHdr.length = sizeofHeader80211

namespace MpduFront

/-- `MpduHeaderLen` before anything of the packets is added. -/
def headerLen (front : MpduFront) : Nat := sizeofHeader80211 + front.control.length

/-- The place behind the header, "at 4-octets aligment"; `HeaderBuf` is aligned itself. -/
def bodyStart (front : MpduFront) : Nat := align4 (mtDmaHdrLen + txwiSize + front.headerLen)

/-- The header builders and `RTMPWriteTxWI_Data`. -/
def put (front : MpduFront) (pTxBlk : TxBlk) : TxBlk :=
  { pTxBlk with
    headerBuf :=
      (pTxBlk.headerBuf.write (mtDmaHdrLen + txwiSize) (front.wifiHdr ++ front.control)).write
        mtDmaHdrLen front.txwi
    mpduHeaderLen := front.headerLen
    hdrPadLen := front.bodyStart - (mtDmaHdrLen + txwiSize + front.headerLen) }

end MpduFront

/-- The header of a frame goes to `HeaderBuf`. -/
def TxBlk.putSubFrame (pTxBlk : TxBlk) (position : Nat) (header : List UInt8) : TxBlk :=
  { pTxBlk with
    headerBuf := pTxBlk.headerBuf.write position header
    mpduHeaderLen := pTxBlk.mpduHeaderLen + header.length }

/-- An Ethernet packet, with the control information of its VLAN tag where it has one. -/
structure EthernetPacket where
  msdu : Msdu
  tag : Option (UInt8 × UInt8)
  untagged : tag = none → msdu.octets ≠ [0x81, 0x00]

namespace EthernetPacket

def tagBytes (packet : EthernetPacket) : List UInt8 :=
  match packet.tag with
  | none => []
  | some (tci0, tci1) => [0x81, 0x00, tci0, tci1]

def bytes (packet : EthernetPacket) : List UInt8 :=
  packet.msdu.da ++ packet.msdu.sa ++ packet.tagBytes ++ packet.msdu.octets ++ packet.msdu.payload

theorem length_tagBytes (packet : EthernetPacket) :
    packet.tagBytes.length = if packet.tag.isSome then length8021Q else 0 := by
  unfold tagBytes
  cases packet.tag <;> rfl

theorem length_bytes (packet : EthernetPacket) :
    packet.bytes.length = length8023 + packet.tagBytes.length + packet.msdu.payload.length := by
  simp only [bytes, List.length_append, packet.msdu.da_length, packet.msdu.sa_length,
    Receive.macAddrLen, Msdu.octets, List.length_cons, List.length_nil, length8023]
  omega

end EthernetPacket

/-- The packet, marked as what it is, is what the control block and the data say. -/
structure TxSkb.Carries (pPacket : TxSkb) (packet : EthernetPacket) : Prop where
  data : pPacket.mem.Holds 0 packet.bytes
  len : pPacket.len = packet.bytes.length
  vlan : pPacket.mark.vlan = packet.tag.isSome

namespace TxSkb.Carries

variable {pPacket : TxSkb} {packet : EthernetPacket}

theorem srcBufData_eq (carries : pPacket.Carries packet) :
    pPacket.srcBufData = length8023 + packet.tagBytes.length := by
  rw [TxSkb.srcBufData, carries.vlan, packet.length_tagBytes]

theorem srcBufLen_eq (carries : pPacket.Carries packet) :
    pPacket.srcBufLen = packet.msdu.payload.length := by
  rw [TxSkb.srcBufLen, carries.srcBufData_eq, carries.len, packet.length_bytes,
    Nat.add_sub_cancel_left]

/-- The parts of the packet in memory: its addresses, the type or length, and the payload. -/
theorem parts (carries : pPacket.Carries packet) :
    pPacket.mem.Holds 0 (packet.msdu.da ++ packet.msdu.sa) ∧
      pPacket.mem.Holds (pPacket.srcBufData - 2) packet.msdu.octets ∧
      pPacket.mem.Holds pPacket.srcBufData packet.msdu.payload := by
  have data := carries.data
  unfold EthernetPacket.bytes at data
  rw [Memory.holds_append, Memory.holds_append, Memory.holds_append] at data
  obtain ⟨⟨⟨addresses, -⟩, type⟩, payload⟩ := data
  have place := carries.srcBufData_eq
  simp only [List.length_append, packet.msdu.da_length, packet.msdu.sa_length, Receive.macAddrLen,
    Msdu.octets, List.length_cons, List.length_nil, zero_add] at type payload
  simp only [length8023] at place
  refine ⟨addresses, ?_, ?_⟩
  · rw [show pPacket.srcBufData - 2 = 6 + 6 + packet.tagBytes.length by omega]
    exact type
  · rw [show pPacket.srcBufData = 6 + 6 + packet.tagBytes.length + (1 + 1) by omega]
    exact payload

theorem srcBuf_eq (carries : pPacket.Carries packet) :
    pPacket.srcBuf = packet.msdu.payload := by
  have payload := carries.parts.2.2
  unfold Memory.Holds at payload
  rw [TxSkb.srcBuf, carries.srcBufLen_eq, payload]

theorem extraLlcSnapEncap_eq (carries : pPacket.Carries packet) :
    extraLlcSnapEncap pPacket.mem (pPacket.srcBufData - 2) =
      if packet.msdu.isEtherType then
        some (if packet.msdu.octets = Receive.ipx ∨ packet.msdu.octets = Receive.appleTalk then
          Receive.snapBridgeTunnel else Receive.snap8021H)
      else none := by
  have type := carries.parts.2.1
  have value : be16 pPacket.mem (pPacket.srcBufData - 2) = packet.msdu.typeOrLength :=
    Receive.be16_of_holds type
  have compared : ∀ first second : UInt8,
      pPacket.mem.equal (pPacket.srcBufData - 2) [first, second] = true ↔
        packet.msdu.octets = [first, second] := by
    intro first second
    rw [Memory.equal_iff_holds]
    constructor
    · intro other
      exact type.unique other rfl
    · intro same
      rw [← same]
      exact type
  unfold extraLlcSnapEncap Msdu.isEtherType Receive.ipx Receive.appleTalk
  rw [value]
  simp only [Bool.or_eq_true, compared, decide_eq_true_eq]
  split_ifs <;> rfl

theorem extraLlcSnap_eq (carries : pPacket.Carries packet) :
    extraLlcSnap pPacket = packet.msdu.llcSnap := by
  have octets : pPacket.mem.bytes (pPacket.srcBufData - 2) 2 = packet.msdu.octets :=
    carries.parts.2.1
  unfold extraLlcSnap Msdu.llcSnap
  rw [carries.extraLlcSnapEncap_eq, octets]
  cases packet.msdu.isEtherType <;> rfl

theorem addresses_eq (carries : pPacket.Carries packet) :
    pPacket.mem.bytes 0 12 = packet.msdu.da ++ packet.msdu.sa := by
  have size : (packet.msdu.da ++ packet.msdu.sa).length = 12 := by
    rw [List.length_append, packet.msdu.da_length, packet.msdu.sa_length]
    rfl
  rw [← size]
  exact carries.parts.1

end TxSkb.Carries

namespace MpduFront

variable (front : MpduFront)

def header (front : MpduFront) : List UInt8 := front.wifiHdr ++ front.control

theorem length_header : front.header.length = front.headerLen := by
  rw [header, List.length_append, front.wifiHdr_length, headerLen]

theorem bodyStart_le : mtDmaHdrLen + txwiSize + front.headerLen ≤ front.bodyStart := by
  unfold bodyStart align4
  omega

/-- What is copied behind the TXINFO for the first frame. -/
theorem put_bytes (pTxBlk : TxBlk) (header : List UInt8) :
    ∃ pad : List UInt8,
      pad.length = front.bodyStart - (mtDmaHdrLen + txwiSize + front.headerLen) ∧
      ((front.put pTxBlk).putSubFrame front.bodyStart header).headerBuf.bytes mtDmaHdrLen
          (txwiSize + (((front.put pTxBlk).putSubFrame front.bodyStart header).mpduHeaderLen +
            ((front.put pTxBlk).putSubFrame front.bodyStart header).hdrPadLen)) =
        front.txwi ++ (front.header ++ pad ++ header) := by
  let put := (front.put pTxBlk).headerBuf
  let mem := put.write front.bodyStart header
  let pad := mem.bytes (mtDmaHdrLen + txwiSize + front.headerLen)
    (front.bodyStart - (mtDmaHdrLen + txwiSize + front.headerLen))
  have behind := front.bodyStart_le
  have padded : pad.length = front.bodyStart - (mtDmaHdrLen + txwiSize + front.headerLen) :=
    Memory.length_bytes _ _ _
  have txwi : mem.Holds mtDmaHdrLen front.txwi := by
    apply Memory.holds_write_apart (Memory.write_holds _ _ _)
    right
    rw [front.txwi_length]
    omega
  have wifiHdr : mem.Holds (mtDmaHdrLen + txwiSize) front.header := by
    apply Memory.holds_write_apart
    · apply Memory.holds_write_apart (Memory.write_holds _ _ _)
      left
      rw [front.txwi_length]
    · right
      rw [front.length_header]
      exact behind
  have padding : mem.Holds (mtDmaHdrLen + txwiSize + front.headerLen) pad := by
    unfold Memory.Holds
    rw [padded]
  have body : mem.Holds front.bodyStart header := Memory.write_holds _ _ _
  have whole : mem.Holds mtDmaHdrLen (front.txwi ++ (front.header ++ pad ++ header)) := by
    rw [Memory.holds_append, Memory.holds_append, Memory.holds_append, front.txwi_length,
      List.length_append, front.length_header, padded]
    refine ⟨txwi, ⟨wifiHdr, padding⟩, ?_⟩
    rw [← Nat.add_assoc, Nat.add_sub_cancel' behind]
    exact body
  apply Exists.intro pad
  apply And.intro padded
  apply Eq.trans _ whole
  congr 1
  simp only [List.length_append, front.txwi_length, front.length_header, padded,
    MpduFront.put, TxBlk.putSubFrame]
  omega

end MpduFront

/-- A packet that is added has a byte of payload, and fits. -/
theorem canDoAggregateTransmit_fits {opMode : OpMode} {infraOn : Bool} {txFrameType : FrameKind}
    {pTxBlkPacket : TxSkb} {number totalFrameLen : Nat} {pPacket : TxSkb}
    (admitted : canDoAggregateTransmit opMode infraOn txFrameType pTxBlkPacket number totalFrameLen
      pPacket = true) :
    pPacket.srcBufData < pPacket.len ∧
      ¬(txFrameType = .amsdu ∧ rxBufferAggresize - 100 < totalFrameLen + pPacket.len) ∧
      ¬(txFrameType = .ralink ∧ number = 2) := by
  have least : pPacket.srcBufData ≤ length8023 +
      if pPacket.mark.vlan then length8021Q else if pPacket.mark.llcSnap then 8 else 0 := by
    unfold TxSkb.srcBufData
    split_ifs <;> omega
  unfold canDoAggregateTransmit at admitted
  dsimp only at admitted
  generalize length8023 + _ = minLen at admitted least
  split_ifs at admitted with group marked short full pair
  · exact ⟨by omega, full, pair⟩
  · exact ⟨by omega, full, pair⟩

/-- The tag is noticed where the packet begins with its type. -/
theorem rtmpCheckEtherType_vlan (pAd : TxSetting) {mem : Memory} {wdev : Wdev}
    (typed : 1500 < be16 mem 12) (own : wdev.vlanVid = 0) :
    (rtmpCheckEtherType pAd mem wdev).vlan = (be16 mem 12 == ethTypeVlan) := by
  have outer : llcSnapType mem = some (⟨be16 mem 12, length8023⟩, false) := by
    unfold llcSnapType
    rw [if_neg (by omega)]
  have mine : otherVlan wdev mem ⟨be16 mem 12, length8023⟩ = false := by
    unfold otherVlan
    rw [own]
    simp
  unfold rtmpCheckEtherType
  rw [outer]
  dsimp only
  rw [mine, if_neg Bool.false_ne_true]
  split_ifs <;> rfl

/-- The packet as the system hands it to the driver, and the driver marks it. -/
structure HandedOver (pAd : TxSetting) (wdev : Wdev) (pPacket : TxSkb) (packet : EthernetPacket) :
    Prop where
  data : pPacket.mem.Holds 0 packet.bytes
  len : pPacket.len = packet.bytes.length
  mark : pPacket.mark = rtmpCheckEtherType pAd pPacket.mem wdev

theorem HandedOver.carries {pAd : TxSetting} {wdev : Wdev} {pPacket : TxSkb}
    {packet : EthernetPacket} (handed : HandedOver pAd wdev pPacket packet)
    (own : wdev.vlanVid = 0) (typed : packet.msdu.isEtherType = true) :
    pPacket.Carries packet := by
  have data := handed.data
  unfold EthernetPacket.bytes at data
  rw [List.append_assoc, List.append_assoc, Memory.holds_append, List.length_append,
    packet.msdu.da_length, packet.msdu.sa_length] at data
  have type := data.2
  have above : 1500 < packet.msdu.typeOrLength := of_decide_eq_true typed
  refine ⟨handed.data, handed.len, ?_⟩
  rw [handed.mark]
  cases tag : packet.tag with
  | none =>
    have octets : packet.msdu.octets ≠ [0x81, 0x00] := packet.untagged tag
    have value : be16 pPacket.mem 12 = packet.msdu.typeOrLength := by
      unfold EthernetPacket.tagBytes at type
      rw [tag, List.nil_append, Memory.holds_append] at type
      exact Receive.be16_of_holds type.1
    rw [rtmpCheckEtherType_vlan pAd (by rw [value]; exact above) own, value]
    simp only [Option.isSome_none, beq_eq_false_iff_ne, ne_eq]
    intro same
    apply octets
    unfold Msdu.typeOrLength ethTypeVlan at same
    have low := packet.msdu.octet1.toNat_lt
    have first : packet.msdu.octet0 = 0x81 := by
      apply UInt8.toNat.inj
      change packet.msdu.octet0.toNat = 0x81
      omega
    have second : packet.msdu.octet1 = 0x00 := by
      apply UInt8.toNat.inj
      change packet.msdu.octet1.toNat = 0x00
      omega
    unfold Msdu.octets
    rw [first, second]
  | some tci =>
    have value : be16 pPacket.mem 12 = ethTypeVlan := by
      unfold EthernetPacket.tagBytes at type
      rw [tag] at type
      have split : ([0x81, 0x00, tci.1, tci.2] : List UInt8) = [0x81, 0x00] ++ [tci.1, tci.2] := rfl
      dsimp only at type
      rw [split, List.append_assoc, Memory.holds_append] at type
      exact Receive.be16_of_holds type.1
    rw [rtmpCheckEtherType_vlan pAd (by rw [value]; decide) own, value]
    rfl

theorem forall_carries {pAd : TxSetting} {wdev : Wdev} (own : wdev.vlanVid = 0)
    {packets : List TxSkb} {carried : List EthernetPacket}
    (handed : List.Forall₂ (HandedOver pAd wdev) packets carried)
    (typed : ∀ packet ∈ carried, packet.msdu.isEtherType = true) :
    List.Forall₂ TxSkb.Carries packets carried := by
  induction handed with
  | nil => exact List.Forall₂.nil
  | cons one _ ih =>
    obtain ⟨first, others⟩ := List.forall_mem_cons.mp typed
    exact List.Forall₂.cons (one.carries own first) (ih others)

/-- The device of a station, as it is set up. -/
def stationWdev : Wdev where
  wdevTypeAp := false
  authMode := .open
  ieee8021X := false
  portSecured := true
  vlanVid := 0
  bWmmCapable := true
  filterUnusedPacket := 0

def stationSetting : TxSetting where
  wdevList := fun _ => none
  txSwQMaxLen := 1024
  bACM := fun _ => false
  bssInfra := true
  adhocOn := false
  staWdev := stationWdev
  micErrCnt := 0
  macTableLookup := fun _ => none

/-- A packet in the memory of the system. -/
def handOver (packet : EthernetPacket) : TxSkb where
  mem := Memory.write (fun _ => 0) 0 packet.bytes
  len := packet.bytes.length
  wcid := bssidWcid
  mark := rtmpCheckEtherType stationSetting (Memory.write (fun _ => 0) 0 packet.bytes) stationWdev

theorem handedOver (packet : EthernetPacket) :
    HandedOver stationSetting stationWdev (handOver packet) packet :=
  ⟨Memory.write_holds (fun _ => 0) 0 packet.bytes, rfl, rfl⟩

/-- An EtherType frame with ten bytes of payload, and the same in a VLAN. -/
def smallPacket (tag : Option (UInt8 × UInt8)) : EthernetPacket where
  msdu := {
    da := [2, 0, 0, 0, 0, 1]
    sa := [2, 0, 0, 0, 0, 2]
    octet0 := 0x88
    octet1 := 0xb5
    payload := [1, 2, 3, 4, 5, 6, 7, 8, 9, 10]
    da_length := rfl
    sa_length := rfl
    payload_le := by simp
    length_field := by simp }
  tag := tag
  untagged _ := by simp [Msdu.octets]

/-- A bulk ring with room at 16. -/
def roomyRing : BulkRing where
  bCurWriting := false
  curWritePosition := 16
  nextBulkOutPosition := 8
  eNextBulkOutPosition := 8
  wirelessPacket := fun _ => 0
  bCopySavePad := false
  savedPad := fun _ => 0

def zeroFront : MpduFront where
  txwi := List.replicate txwiSize 0
  wifiHdr := List.replicate sizeofHeader80211 0
  control := []
  txwi_length := List.length_replicate
  wifiHdr_length := List.length_replicate

def clearedTxBlk : TxBlk := ⟨fun _ => 0, 0, 0, 0⟩

end Mt7612u.Transmit
