import Mt7612u.Receive.RalinkSplit
import Mt7612u.Transmit.TxSkb

/-! `AP_ARalink_Frame_Tx` and `STA_ARalink_Frame_Tx`: two packets behind one 802.11 header, and
how the other end takes them apart. -/

namespace Mt7612u.Transmit
open BlockAck (OpMode)
open Receive (Memory Msdu RxAdapter RxData align4 ralinkBody ralinkFrames)

def aralinkSubheadLen : Nat := 14

/-- What the two functions take from elsewhere for the TXWI and the 802.11 header. -/
structure WifiFields where
  txwi : List UInt8
  fc0 : UInt8
  fc1 : UInt8
  duration : List UInt8
  bssid : List UInt8
  currentAddress : List UInt8
  seqCtrl : List UInt8
  bWMM : Bool
  userPriority : UInt8
  txwi_length : txwi.length = txwiSize
  duration_length : duration.length = 2
  bssid_length : bssid.length = 6
  currentAddress_length : currentAddress.length = 6
  seqCtrl_length : seqCtrl.length = 2

namespace WifiFields

variable (f : WifiFields)

/-- `HEADER_802_11`, the Order bit "to mark aggregation". -/
def header80211 (addr1 addr2 addr3 : List UInt8) : List UInt8 :=
  [f.fc0, f.fc1 ||| 0x80] ++ f.duration ++ addr1 ++ addr2 ++ addr3 ++ f.seqCtrl

theorem length_header80211 {addr1 addr2 addr3 : List UInt8} (one : addr1.length = 6)
    (two : addr2.length = 6) (three : addr3.length = 6) :
    (f.header80211 addr1 addr2 addr3).length = sizeofHeader80211 := by
  simp only [header80211, List.length_append, List.length_cons, List.length_nil, one, two, three,
    f.duration_length, f.seqCtrl_length, sizeofHeader80211]

def qosControl : List UInt8 := if f.bWMM then [f.userPriority &&& 0x0f, 0] else []

/-- The header that `AP_Build_ARalink_Frame_Header` puts in front of a packet. -/
def apARalink (pPacket : TxSkb) : MpduFront where
  txwi := f.txwi
  wifiHdr := f.header80211 (pPacket.mem.bytes 0 6) f.bssid (pPacket.mem.bytes 6 6)
  control := f.qosControl
  txwi_length := f.txwi_length
  wifiHdr_length :=
    f.length_header80211 (Memory.length_bytes _ _ _) f.bssid_length (Memory.length_bytes _ _ _)

/-- The same of `STA_Build_ARalink_Frame_Header`, for a station in an infrastructure. -/
def staARalink (pPacket : TxSkb) : MpduFront where
  txwi := f.txwi
  wifiHdr := f.header80211 f.bssid f.currentAddress (pPacket.mem.bytes 0 6)
  control := f.qosControl
  txwi_length := f.txwi_length
  wifiHdr_length :=
    f.length_header80211 f.bssid_length f.currentAddress_length (Memory.length_bytes _ _ _)

end WifiFields

/-- The header in front of the packets in either mode. -/
def WifiFields.aRalink (f : WifiFields) : OpMode → TxSkb → MpduFront
  | .ap => f.apARalink
  | .sta => f.staARalink

/-- The length of the second packet "in little endian format", and the encapsulation of the
first. -/
def ralinkHeader (pPacket pNextPacket : TxSkb) : List UInt8 :=
  let nextBufLen := pNextPacket.len - if pNextPacket.mark.vlan then length8021Q else 0
  [lowByte nextBufLen, highByte nextBufLen] ++ extraLlcSnap pPacket

/-- `DA(6)+SA(6)+FrameType(2)` of the second packet. -/
def ralinkSubheader (pPacket : TxSkb) : List UInt8 :=
  pPacket.mem.bytes 0 12 ++ pPacket.mem.bytes (pPacket.srcBufData - 2) 2

/-- The loops of the two functions, over the two packets in `TxPacketList`. -/
def BulkRing.aRalinkFrames (ring : BulkRing) (front : MpduFront) (pTxBlk : TxBlk)
    (pPacket pNextPacket : TxSkb) : BulkRing :=
  let first := (front.put pTxBlk).putSubFrame front.bodyStart (ralinkHeader pPacket pNextPacket)
  let written := ring.writeMultiTxResource first 0 pPacket.srcBuf
  let second :=
    { written.1 with
      headerBuf := written.1.headerBuf.write 0 (ralinkSubheader pNextPacket)
      mpduHeaderLen := aralinkSubheadLen }
  let final := written.2.writeMultiTxResource second 1 pNextPacket.srcBuf
  final.2.finalWriteTxResource final.1
    ((first.mpduHeaderLen + pPacket.srcBufLen + (aralinkSubheadLen + pNextPacket.srcBufLen)) % 65536)

/-- `AP_ARalink_Frame_Tx`, for packets that `RTMP_FillTxBlkInfo` accepts. -/
def BulkRing.apARalinkFrameTx (ring : BulkRing) (f : WifiFields) (pTxBlk : TxBlk)
    (pPacket pNextPacket : TxSkb) : BulkRing :=
  ring.aRalinkFrames (f.apARalink pPacket) pTxBlk pPacket pNextPacket

/-- `STA_ARalink_Frame_Tx`. -/
def BulkRing.staARalinkFrameTx (ring : BulkRing) (f : WifiFields) (pTxBlk : TxBlk)
    (pPacket pNextPacket : TxSkb) : BulkRing :=
  ring.aRalinkFrames (f.staARalink pPacket) pTxBlk pPacket pNextPacket

theorem length_ralinkSubheader (pPacket : TxSkb) :
    (ralinkSubheader pPacket).length = aralinkSubheadLen := by
  rw [ralinkSubheader, List.length_append, Memory.length_bytes, Memory.length_bytes]
  rfl

/-- What is laid out for the two packets. -/
theorem ralinkBody_eq {pPacket pNextPacket : TxSkb} {first second : EthernetPacket}
    (carries : pPacket.Carries first) (next : pNextPacket.Carries second) :
    ralinkHeader pPacket pNextPacket ++ pPacket.srcBuf ++
        (ralinkSubheader pNextPacket ++ pNextPacket.srcBuf) =
      ralinkBody first.msdu second.msdu := by
  have len : pNextPacket.len - (if pNextPacket.mark.vlan then length8021Q else 0) =
      Receive.length8023 + second.msdu.payload.length := by
    rw [next.len, next.vlan, second.length_bytes, second.length_tagBytes]
    simp only [length8023, Receive.length8023]
    omega
  have type : pNextPacket.mem.bytes (pNextPacket.srcBufData - 2) 2 = second.msdu.octets :=
    next.parts.2.1
  unfold ralinkHeader ralinkSubheader ralinkBody Msdu.body Msdu.header lowByte highByte
  rw [len, carries.extraLlcSnap_eq, carries.srcBuf_eq, next.addresses_eq, next.srcBuf_eq, type]
  simp only [List.append_assoc]

/-- What the loops leave in a ring that has room. -/
theorem aRalinkFrames_finished (front : MpduFront) {ring : BulkRing} (pTxBlk : TxBlk)
    {pPacket pNextPacket : TxSkb} {first second : EthernetPacket}
    (carries : pPacket.Carries first) (next : pNextPacket.Carries second)
    (short : front.control.length ≤ 2)
    (room : ring.canDoWrite = true) (unsaved : ring.inSavedPad = false) :
    ∃ pad : List UInt8, pad.length = front.bodyStart - (mtDmaHdrLen + txwiSize + front.headerLen) ∧
      (ring.aRalinkFrames front pTxBlk pPacket pNextPacket).Finished ring.reserve.curWritePosition
        (front.headerLen + (ralinkBody first.msdu second.msdu).length)
        (front.header ++ pad ++ ralinkBody first.msdu second.msdu) := by
  obtain ⟨pad, padded, copied⟩ := front.put_bytes pTxBlk (ralinkHeader pPacket pNextPacket)
  let blk := (front.put pTxBlk).putSubFrame front.bodyStart (ralinkHeader pPacket pNextPacket)
  let written := ring.writeMultiTxResource blk 0 pPacket.srcBuf
  let later : TxBlk :=
    { written.1 with
      headerBuf := written.1.headerBuf.write 0 (ralinkSubheader pNextPacket)
      mpduHeaderLen := aralinkSubheadLen }
  obtain ⟨txinfo, four, writing⟩ := BulkRing.writing_first blk pPacket.srcBuf room unsaved
  have step := writing.next (by decide : (1 : UInt8) ≠ 0) pNextPacket.srcBuf
    (rfl : later.priv = written.1.priv)
  have subheader : later.headerBuf.bytes 0 later.mpduHeaderLen = ralinkSubheader pNextPacket := by
    have stored := written.1.headerBuf.bytes_write 0 (ralinkSubheader pNextPacket)
    rw [length_ralinkSubheader] at stored
    exact stored
  have body := ralinkBody_eq carries next
  have whole : txinfo ++ (front.txwi ++ (front.header ++ pad ++ ralinkHeader pPacket pNextPacket)) ++
      pPacket.srcBuf ++ ralinkSubheader pNextPacket ++ pNextPacket.srcBuf =
        txinfo ++ front.txwi ++ (front.header ++ pad ++ ralinkBody first.msdu second.msdu) := by
    rw [← body]
    simp only [List.append_assoc]
  rw [copied, subheader, whole] at step
  have size := congrArg List.length body
  have bound := Receive.length_ralinkBody first.msdu second.msdu
  have small := Receive.body_small first.msdu
  have short2 := second.msdu.payload_le
  have header : front.headerLen ≤ 26 := by
    unfold MpduFront.headerLen sizeofHeader80211
    omega
  have padding : pad.length ≤ 3 := by
    rw [padded, MpduFront.bodyStart, align4]
    omega
  simp only [Receive.length8023] at bound
  simp only [List.length_append, length_ralinkSubheader, TxSkb.srcBuf, Memory.length_bytes] at size
  have total : (blk.mpduHeaderLen + pPacket.srcBufLen + (aralinkSubheadLen +
      pNextPacket.srcBufLen)) % 65536 =
        front.headerLen + (ralinkBody first.msdu second.msdu).length := by
    have built : blk.mpduHeaderLen =
        front.headerLen + (ralinkHeader pPacket pNextPacket).length := rfl
    rw [built]
    omega
  apply Exists.intro pad
  apply And.intro padded
  unfold BulkRing.aRalinkFrames
  dsimp only
  rw [total]
  apply step.final
  · rw [List.length_append, four, front.txwi_length]
  · rw [List.length_append, List.length_append, front.length_header, align4, txwiSize]
    omega
  · omega

/-- `AP_ARalink_Frame_Tx` or `STA_ARalink_Frame_Tx`. -/
def BulkRing.aRalinkFrameTx (ring : BulkRing) : OpMode → WifiFields → TxBlk → TxSkb → TxSkb → BulkRing
  | .ap => ring.apARalinkFrameTx
  | .sta => ring.staARalinkFrameTx

/-- The adapter takes frames from one that runs in this mode: a station those of its access
point, an access point those of its stations. -/
def TakesFrom (opMode : OpMode) (pAd : RxAdapter) : Prop :=
  match opMode with
  | .ap => pAd.deagg.opMode = .sta ∧ pAd.sta.infra = true
  | .sta => pAd.deagg.opMode = .ap

/-- The source that the three addresses of the header leave to the first packet: an access point
sends its own, a station puts its address in the place of the packet's. -/
def sourceAddress (opMode : OpMode) (f : WifiFields) (first : EthernetPacket) : List UInt8 :=
  match opMode with
  | .ap => first.msdu.sa
  | .sta => f.currentAddress

/-- The three addresses in the header. -/
theorem header80211_addresses {f : WifiFields} {mem : Memory} {addr1 addr2 addr3 : List UInt8}
    (one : addr1.length = 6) (two : addr2.length = 6) (three : addr3.length = 6)
    (holds : mem.Holds 0 (f.header80211 addr1 addr2 addr3)) :
    mem.bytes 4 6 = addr1 ∧ mem.bytes 10 6 = addr2 ∧ mem.bytes 16 6 = addr3 := by
  unfold WifiFields.header80211 at holds
  simp only [Memory.holds_append, List.length_append, one, two, three, f.duration_length,
    List.length_cons, List.length_nil] at holds
  obtain ⟨⟨⟨⟨_, first⟩, second⟩, third⟩, _⟩ := holds
  unfold Memory.Holds at first second third
  rw [one] at first
  rw [two] at second
  rw [three] at third
  exact ⟨first, second, third⟩

/-- The other end finds the addresses of the first packet in the 802.11 header. -/
theorem received_addresses {opMode : OpMode} {f : WifiFields} {pPacket : TxSkb}
    {first : EthernetPacket} (carries : pPacket.Carries first) {pAd : RxAdapter} {mem : Memory}
    (takes : TakesFrom opMode pAd) (holds : mem.Holds 0 (f.aRalink opMode pPacket).wifiHdr) :
    ∃ da sa : Nat,
      (∀ pData dataSize, Receive.removeLLC pAd mem pData dataSize =
        Receive.convertTo8023 mem da sa pData dataSize) ∧
      mem.bytes da Receive.macAddrLen = first.msdu.da ∧
      mem.bytes sa Receive.macAddrLen = sourceAddress opMode f first := by
  have addresses := carries.addresses_eq
  rw [show 12 = 6 + 6 from rfl, Memory.bytes_append] at addresses
  obtain ⟨da, sa⟩ := List.append_inj addresses
    ((Memory.length_bytes _ _ _).trans first.msdu.da_length.symm)
  cases opMode with
  | ap =>
    obtain ⟨station, infra⟩ := takes
    obtain ⟨one, -, three⟩ := header80211_addresses (Memory.length_bytes _ _ _) f.bssid_length
      (Memory.length_bytes _ _ _) holds
    refine ⟨4, 16, ?_, one.trans da, three.trans sa⟩
    intro pData dataSize
    unfold Receive.removeLLC
    rw [station, infra]
    rfl
  | sta =>
    obtain ⟨-, two, three⟩ := header80211_addresses f.bssid_length f.currentAddress_length
      (Memory.length_bytes _ _ _) holds
    refine ⟨16, 10, ?_, three.trans da, two⟩
    intro pData dataSize
    unfold Receive.removeLLC
    rw [show pAd.deagg.opMode = .ap from takes]

/-- Two packets that share a frame come apart again: behind TXINFO, TXWI, the 802.11 header and its
padding stands the layout of the two packets, and the other end, given the header and these bytes,
passes on the first packet with the addresses of the header, then the second one as it was. -/
theorem aRalinkFrameTx_split (pAd : TxSetting) {wdev : Wdev} (own : wdev.vlanVid = 0)
    (opMode : OpMode) (f : WifiFields) {ring : BulkRing} (pTxBlk : TxBlk)
    {pPacket pNextPacket : TxSkb} {first second : EthernetPacket}
    (handed : HandedOver pAd wdev pPacket first) (next : HandedOver pAd wdev pNextPacket second)
    (typed : first.msdu.isEtherType = true)
    (marked : pNextPacket.mark.vlan = second.tag.isSome)
    (room : ring.canDoWrite = true) (unsaved : ring.inSavedPad = false) :
    let sent := ring.aRalinkFrameTx opMode f pTxBlk pPacket pNextPacket
    let front := f.aRalink opMode pPacket
    let start := ring.reserve.curWritePosition
    let body := ralinkBody first.msdu second.msdu
    mpduTotalByteCnt sent.wirelessPacket (start + mtDmaHdrLen) = front.headerLen + body.length ∧
      sent.wirelessPacket.Holds (start + mtDmaHdrLen + txwiSize) front.header ∧
      sent.wirelessPacket.Holds (start + front.bodyStart) body ∧
      ∀ (other : RxAdapter) (blk : RxData), TakesFrom opMode other → other.pPacket2 = true →
        blk.mem.bytes 0 sizeofHeader80211 =
            sent.wirelessPacket.bytes (start + mtDmaHdrLen + txwiSize) sizeofHeader80211 →
          blk.dataSize.toNat = body.length →
            blk.mem.bytes blk.pData body.length =
                sent.wirelessPacket.bytes (start + front.bodyStart) body.length →
              ralinkFrames other blk =
                [Receive.frame8023 other.deagg
                    (first.msdu.da ++ sourceAddress opMode f first ++ first.msdu.octets)
                    first.msdu.payload,
                  second.msdu.frame8023 other.deagg] := by
  have carries := handed.carries own typed
  have later : pNextPacket.Carries second := ⟨next.data, next.len, marked⟩
  have short : (f.aRalink opMode pPacket).control.length ≤ 2 := by
    have qos : f.qosControl.length ≤ 2 := by
      unfold WifiFields.qosControl
      split_ifs <;> simp
    cases opMode <;> exact qos
  obtain ⟨pad, padded, finished⟩ :=
    aRalinkFrames_finished (f.aRalink opMode pPacket) pTxBlk carries later short room unsaved
  have sent : ring.aRalinkFrameTx opMode f pTxBlk pPacket pNextPacket =
      ring.aRalinkFrames (f.aRalink opMode pPacket) pTxBlk pPacket pNextPacket := by
    cases opMode <;> rfl
  rw [← sent] at finished
  have behind := (f.aRalink opMode pPacket).bodyStart_le
  have held := finished.holds
  rw [← Nat.add_assoc, Memory.holds_append, Memory.holds_append, Memory.holds_append,
    MpduFront.length_header, List.length_append, MpduFront.length_header, padded] at held
  obtain ⟨⟨⟨header, -⟩, body⟩, -⟩ := held
  have place : ring.reserve.curWritePosition + mtDmaHdrLen + txwiSize +
      ((f.aRalink opMode pPacket).headerLen + ((f.aRalink opMode pPacket).bodyStart -
        (mtDmaHdrLen + txwiSize + (f.aRalink opMode pPacket).headerLen))) =
          ring.reserve.curWritePosition + (f.aRalink opMode pPacket).bodyStart := by
    omega
  rw [place] at body
  refine ⟨finished.byteCnt, header, body, ?_⟩
  intro other blk takes allocated sameHeader size sameBody
  rw [MpduFront.header, Memory.holds_append] at header
  have wifiHdr : blk.mem.Holds 0 (f.aRalink opMode pPacket).wifiHdr := by
    have copied := header.1
    unfold Memory.Holds at copied ⊢
    rw [MpduFront.wifiHdr_length] at copied ⊢
    exact sameHeader.trans copied
  obtain ⟨da, sa, addresses, destination, source⟩ := received_addresses carries takes wifiHdr
  have split := Receive.ralinkSplit_body typed allocated (sameBody.trans body) size addresses
  unfold ralinkFrames
  rw [split, destination, source]
  rfl

/-- A station of the access point. -/
def joinedStation : RxAdapter where
  deagg := Receive.stationContext
  ap :=
    { banClass3Data := false
      associated := false
      aggregationCapable := false
      wepStatus := .aesEnable
      privacyFilter := .acceptAll
      forward := ⟨0, fun _ => 0, fun _ => false, fun _ => false, false, fun _ => none, false⟩ }
  sta :=
    { infra := true
      bssid := [2, 0, 0, 0, 0, 9]
      currentAddress := [2, 0, 0, 0, 0, 1]
      macTableLookup := fun _ => false
      aggregationInUsed := true
      mediaStateConnected := true
      entryWepStatus := .aesEnable
      wepStatus := .aesEnable
      portSecured := true
      wpaSupplicantUP := false }
  osHz := 100
  bDisableReordering := false
  pPacket2 := true

theorem length_zeroTxwi : (List.replicate txwiSize (0 : UInt8)).length = txwiSize :=
  List.length_replicate

def zeroFields : WifiFields where
  txwi := List.replicate txwiSize 0
  fc0 := 0x88
  fc1 := 0x02
  duration := [0, 0]
  bssid := [2, 0, 0, 0, 0, 9]
  currentAddress := [2, 0, 0, 0, 0, 9]
  seqCtrl := [0, 0]
  bWMM := true
  userPriority := 0
  txwi_length := length_zeroTxwi
  duration_length := rfl
  bssid_length := rfl
  currentAddress_length := rfl
  seqCtrl_length := rfl

/-- The two packets as an access point leaves them in its ring. -/
def sentPair (tag : Option (UInt8 × UInt8)) : BulkRing :=
  roomyRing.aRalinkFrameTx .ap zeroFields clearedTxBlk (handOver (smallPacket tag))
    (handOver (smallPacket none))

theorem room_le_pData : 24 ≤ 28 ∧ 28 < 256 := by decide

/-- The frame as the station receives it, padding and all. -/
def receivedPair (tag : Option (UInt8 × UInt8)) : RxData where
  mem := fun i => (sentPair tag).wirelessPacket (40 + i)
  pData := 28
  dataSize := 44
  fRXAMSDU := false
  fRXAMPDU := false
  fRXARALINK := true
  pRxPacket := 0
  wcid := 1
  tid := ⟨0, BlockAck.numOfTid_pos⟩
  pData_room := room_le_pData

theorem receivedPair_bytes (tag : Option (UInt8 × UInt8)) (start count : Nat) :
    (receivedPair tag).mem.bytes start count =
      (sentPair tag).wirelessPacket.bytes (40 + start) count := by
  apply List.map_congr_left
  intro i _
  exact congrArg (sentPair tag).wirelessPacket (Nat.add_assoc 40 start i).symm

/-- A tagged packet and one without a tag. -/
theorem smallPair_split :
    mpduTotalByteCnt (sentPair (some (0, 5))).wirelessPacket 20 = 70 ∧
      ralinkFrames joinedStation (receivedPair (some (0, 5))) =
        [(smallPacket none).bytes, (smallPacket none).bytes] := by
  obtain ⟨count, -, -, received⟩ := aRalinkFrameTx_split stationSetting rfl .ap zeroFields
    clearedTxBlk (handedOver (smallPacket (some (0, 5)))) (handedOver (smallPacket none)) (by decide)
    (by decide) (by decide : roomyRing.canDoWrite = true) rfl
  have frames := received joinedStation (receivedPair (some (0, 5))) ⟨rfl, rfl⟩ rfl
    (receivedPair_bytes _ _ _) rfl (receivedPair_bytes _ _ _)
  exact ⟨count, frames⟩

/-- The tag of the first packet does not come back. -/
theorem smallPair_loses_tag :
    aggregated .ap false .ralink (handOver (smallPacket (some (0, 5)))) 1
        (handOver (smallPacket (some (0, 5)))).len [handOver (smallPacket none)] = true ∧
      ralinkFrames joinedStation (receivedPair (some (0, 5))) ≠
        [(smallPacket (some (0, 5))).bytes, (smallPacket none).bytes] := by
  apply And.intro rfl
  decide

end Mt7612u.Transmit
