import Mt7612u.BlockAck.Reorder
import Mt7612u.Receive.Deaggregate
import Mt7612u.Receive.Defragment

/-! The way of a received data frame: `APHandleRxDataFrame` and `STAHandleRxDataFrame` down to
what is announced to the operating system, forwarded to a station or put on the reorder list. -/

namespace Mt7612u.Receive
open BlockAck (Session RxBlk maxLenOfMacTable lengthEapolH eapolASFAlert)

/-- `NDIS_802_11_WEP_STATUS`. -/
inductive WepStatus where
  | wepEnabled
  | encryptionDisabled
  | wepKeyAbsent
  | wepNotSupported
  | tkipEnable
  | encryption2KeyAbsent
  | aesEnable
  | encryption3KeyAbsent
  | tkipAesMix
  | encryption4KeyAbsent
  | groupWep40Enabled
  | groupWep104Enabled
  deriving DecidableEq

/-- `NDIS_802_11_PRIVACY_FILTER`. -/
inductive PrivacyFilter where
  | acceptAll
  | filter8021xWEP
  deriving DecidableEq

/-- What `APFowardWirelessStaToWirelessSta` reads of the entry it looks up. -/
structure Destination where
  associated : Bool
  client : Bool
  apidx : Nat

structure ForwardCfg where
  maxMbssidNum : Nat
  staCount : Nat → Nat
  isolateInterStaMBCast : Nat → Bool
  isolateInterStaTraffic : Nat → Bool
  isolateInterStaTrafficBTNBSSID : Bool
  macTableLookup : List UInt8 → Option Destination
  /-- `RTMP_DUPLICATE_PACKET` succeeds. -/
  duplicated : Bool

/-- What an access point reads of its configuration and of the station's entry. -/
structure ApRx where
  banClass3Data : Bool
  associated : Bool
  aggregationCapable : Bool
  wepStatus : WepStatus
  privacyFilter : PrivacyFilter
  forward : ForwardCfg

/-- What a station reads. -/
structure StaRx where
  infra : Bool
  /-- The BSSID it is joined to: of the access point, or of its IBSS. -/
  bssid : List UInt8
  currentAddress : List UInt8
  macTableLookup : List UInt8 → Bool
  aggregationInUsed : Bool
  mediaStateConnected : Bool
  entryWepStatus : WepStatus
  wepStatus : WepStatus
  portSecured : Bool
  wpaSupplicantUP : Bool

structure RxAdapter where
  deagg : DeaggContext
  ap : ApRx
  sta : StaRx
  osHz : Nat
  bDisableReordering : Bool
  /-- `duplicate_pkt` of the second packet of a Ralink aggregate succeeds. -/
  pPacket2 : Bool

def RxAdapter.env (pAd : RxAdapter) : BlockAck.Env where
  osHz := pAd.osHz
  opMode := match pAd.deagg.opMode with
    | .ap => .ap
    | .sta => .sta
  wpaSupplicantUP := pAd.sta.wpaSupplicantUP
  bDisableReordering := pAd.bDisableReordering

/-- A frame as `rtmp_rx_done_handle` finds it: the bytes from `pHeader` on, and what the
hardware says of them. -/
structure RxMpdu (rxwiSize : Nat) where
  rxWI : List UInt8
  mem : Memory
  mpduTotalByteCnt : BitVec 16
  pRxPacket : BlockAck.Packet
  wcid : BitVec 8
  tid : Fin BlockAck.numOfTid
  u2m : Bool
  bcast : Bool
  mcast : Bool
  myBss : Bool
  l2Pad : Bool
  ba : Bool
  decrypted : Bool
  /-- The PHY mode is CCK or OFDM. -/
  legacyRate : Bool
  rxWI_length : rxWI.length = rxwiSize

variable {rxwiSize : Nat}

namespace RxMpdu
variable (rx : RxMpdu rxwiSize)

def subType : BitVec 4 := (rx.mem 0).toBitVec.extractLsb' 4 4
def toDs : Bool := (rx.mem 1).toBitVec.getLsbD 0
def frDs : Bool := (rx.mem 1).toBitVec.getLsbD 1
def moreFrag : Bool := (rx.mem 1).toBitVec.getLsbD 2
def wep : Bool := (rx.mem 1).toBitVec.getLsbD 6
def order : Bool := (rx.mem 1).toBitVec.getLsbD 7
def frag : BitVec 4 := (rx.mem 22).toBitVec.extractLsb' 0 4
def addr2 : List UInt8 := rx.mem.bytes 10 macAddrLen
def addr3 : List UInt8 := rx.mem.bytes 16 macAddrLen

/-- One of several fragments. -/
def fragmented : Bool := !(rx.frag == 0 && !rx.moreFrag)

end RxMpdu

/-- `RX_BLK` once the header has been skipped: `pData` is counted from `pHeader`. -/
structure RxData where
  mem : Memory
  pData : Nat
  dataSize : BitVec 16
  fRXAMSDU : Bool
  fRXAMPDU : Bool
  fRXARALINK : Bool
  pRxPacket : BlockAck.Packet
  wcid : BitVec 8
  tid : Fin BlockAck.numOfTid
  pData_room : 24 ≤ pData ∧ pData < 256

namespace RxData

def wep (blk : RxData) : Bool := (blk.mem 1).toBitVec.getLsbD 6

def sequence (blk : RxData) : BitVec 12 :=
  ((blk.mem 23).toBitVec ++ (blk.mem 22).toBitVec : BitVec 16).extractLsb' 4 12

/-- What the reorder functions get. -/
def toRxBlk (blk : RxData) (pAd : RxAdapter) (fRXEAP : Bool) : RxBlk where
  pRxPacket := blk.pRxPacket
  sequence := blk.sequence
  pData := fun i => blk.mem (blk.pData + i)
  dataSize := blk.dataSize
  fRXAMSDU := blk.fRXAMSDU
  fRXEAP := fRXEAP
  wcid := blk.wcid
  tid := blk.tid
  opMode := pAd.env.opMode

end RxData

/-- The header, QoS control, HT control and padding are skipped, and the flags set. `aralink` is
whether an Order bit means a Ralink aggregate. -/
def skipHeader (rx : RxMpdu rxwiSize) (aralink : Bool) : RxData :=
  let qos := rx.subType.getLsbD 3
  let fRXARALINK := rx.order && rx.legacyRate && aralink
  let fRXHTC := rx.order && !(rx.legacyRate && aralink)
  let header := 24 + (if qos then 2 else 0) + (if fRXHTC then 4 else 0)
  { mem := rx.mem
    pData := header + if rx.l2Pad then 2 else 0
    dataSize := rx.mpduTotalByteCnt - BitVec.ofNat 16 header
    fRXAMSDU := qos && (rx.mem 24).toBitVec.getLsbD 7
    fRXAMPDU := rx.ba
    fRXARALINK := fRXARALINK
    pRxPacket := rx.pRxPacket
    wcid := rx.wcid
    tid := rx.tid
    pData_room := by
      simp only [header]
      split_ifs <;> omega }

def RxData.toFragment (blk : RxData) (rx : RxMpdu rxwiSize) : RxFragment rxwiSize where
  rxWI := rx.rxWI
  header := blk.mem.bytes 0 blk.pData
  pData := fun i => blk.mem (blk.pData + i)
  dataSize := blk.dataSize.toNat
  rxWI_length := rx.rxWI_length
  header_room := by
    rw [Memory.length_bytes]
    exact blk.pData_room

/-- What `RTMPDeFragmentDataFrame` makes of `pRxBlk` for a finished packet. -/
def RxData.reassembled (blk : RxData) (frame : FragmentFrame) (rx : RxMpdu rxwiSize) : RxData :=
  let done := frame.concatenate (blk.toFragment rx)
  { blk with
    mem := fun i => done.pFragPacket (rxwiSize + i)
    dataSize := BitVec.ofInt 16 ((done.rxSize : Int) - blk.pData - rxwiSize) }

/-- What comes with a frame from outside the driver: the record of fragments and the reorder
session it finds, the clock, and the outcome of an allocation and of a MIC check. -/
structure RxState (rxwiSize : Nat) where
  fragFrame : FragmentFrame
  session : Session
  now32 : BitVec 64
  pNewFragPacket : Option Memory
  compareMICValue : RxData → Bool

/-- The complete frame: the MPDU itself, or what its last fragment completes. -/
def completeFrame (st : RxState rxwiSize) (rx : RxMpdu rxwiSize) (blk : RxData) : Option RxData :=
  if rx.fragmented then
    (rtmpDeFragmentDataFrame st.fragFrame (blk.toFragment rx) st.pNewFragPacket).2.map
      fun _ => blk.reassembled st.fragFrame rx
  else some blk

/-- The Michael check of a reassembled frame. -/
def checkTkipMICValue (st : RxState rxwiSize) (rx : RxMpdu rxwiSize) (tkip : Bool) (blk : RxData) :
    Option RxData :=
  if rx.fragmented && tkip then
    let blk := { blk with dataSize := blk.dataSize - 8 }
    if st.compareMICValue blk then some blk else none
  else some blk

/-- `RTMPCheckWPAframe`, less the timer it stops. -/
def rtmpCheckWPAframe (mem : Memory) (pData dataByteCount : Nat) : Bool :=
  if dataByteCount < length8021H + lengthEapolH then false
  else
    let pData := if hasSnap mem pData then pData + 6 else pData
    if mem.equal pData eapol then decide ((mem (pData + 3)).toNat ≤ eapolASFAlert) else false

/-- An MSDU that gets past the driver, by its 802.3 header. -/
inductive Delivery where
  /-- announced to the operating system or forwarded to other stations -/
  | passedOn (header : List UInt8)
  /-- put on the reorder list -/
  | reordered (header : List UInt8)
  deriving DecidableEq

def Delivery.header : Delivery → List UInt8
  | .passedOn header => header
  | .reordered header => header

/-- `APFowardWirelessStaToWirelessSta`: whether the packet is forwarded and whether it is
announced. -/
def apForward (pAd : RxAdapter) (header : List UInt8) : Bool × Bool :=
  let cfg := pAd.ap.forward
  let bss := pAd.deagg.fromWhichBSSID
  let valid := decide (bss < cfg.maxMbssidNum) && decide (bss < hwBeaconMaxNum)
  if (header.getD 0 0).toBitVec.getLsbD 0 then
    (valid && decide (1 < cfg.staCount bss) && !cfg.isolateInterStaMBCast bss, true)
  else
    match cfg.macTableLookup (header.take macAddrLen) with
    | some pEntry =>
        if pEntry.associated && pEntry.client then
          if bss = pEntry.apidx then (!cfg.isolateInterStaTraffic pEntry.apidx, false)
          else
            (!(cfg.isolateInterStaTrafficBTNBSSID ||
              valid && pAd.deagg.apCfg.vlanVID pEntry.apidx != pAd.deagg.apCfg.vlanVID bss), false)
        else (false, true)
    | none => (false, true)

/-- `AP_ANNOUNCE_OR_FORWARD_802_3_PACKET` or `ANNOUNCE_OR_FORWARD_802_3_PACKET` lets it through. -/
def passesOn (pAd : RxAdapter) (header : List UInt8) : Bool :=
  match pAd.deagg.opMode with
  | .ap => ((apForward pAd header).1 && pAd.ap.forward.duplicated) || (apForward pAd header).2
  | .sta => true

def announceOrForward (pAd : RxAdapter) (header : List UInt8) : List Delivery :=
  if passesOn pAd header then [.passedOn header] else []

/-- `RTMP_AP_802_11_REMOVE_LLC_AND_CONVERT_TO_802_3`, or the same for a station. -/
def removeLLC (pAd : RxAdapter) (mem : Memory) (pData dataSize : Nat) : Converted :=
  match pAd.deagg.opMode with
  | .ap => convertTo8023 mem 16 10 pData dataSize
  | .sta => convertTo8023 mem 4 (if pAd.sta.infra then 16 else 10) pData dataSize

/-- `Indicate_Legacy_Packet`, less the flush of other frames. -/
def indicateLegacyPacket (pAd : RxAdapter) (blk : RxData) : List Delivery :=
  let converted := removeLLC pAd blk.mem blk.pData blk.dataSize.toNat
  if maxRxPktLen < converted.dataSize then [] else announceOrForward pAd converted.p8023hdr

/-- The sub-frames that `deaggregate_AMSDU_announce` clones. -/
def clonedSubFrames (c : DeaggContext) (mem : Memory) (pData dataSize : Nat) : List Nat :=
  ((subFrames mem pData dataSize).zipIdx.filter fun subFrame => c.cloned subFrame.2).map Prod.fst

/-- `Indicate_AMSDU_Packet`. -/
def indicateAMSDUPacket (pAd : RxAdapter) (blk : RxData) : List Delivery :=
  (clonedSubFrames pAd.deagg blk.mem blk.pData blk.dataSize.toNat).flatMap fun start =>
    announceOrForward pAd (convertSubFrame blk.mem start).p8023hdr

/-- `APRxEAPOLFrameIndicate`, as built with cfg80211. -/
def apRxEAPOLFrameIndicate (pAd : RxAdapter) (blk : RxData) : List Delivery :=
  if blk.dataSize.toNat < length8021H + lengthEapolH then []
  else if !blk.mem.equal blk.pData snap8021H then []
  else if !blk.mem.equal (blk.pData + 6) eapol then []
  else if eapolASFAlert < (blk.mem (blk.pData + 9)).toNat then []
  else indicateLegacyPacket pAd blk

/-- `STARxEAPOLFrameIndicate`; without a supplicant the frame goes to the MLME alone. -/
def staRxEAPOLFrameIndicate (pAd : RxAdapter) (blk : RxData) : List Delivery :=
  if pAd.sta.wpaSupplicantUP then indicateLegacyPacket pAd blk else []

def rxEAPOLFrameIndicate (pAd : RxAdapter) (blk : RxData) : List Delivery :=
  match pAd.deagg.opMode with
  | .ap => apRxEAPOLFrameIndicate pAd blk
  | .sta => staRxEAPOLFrameIndicate pAd blk

/-- `Indicate_EAPOL_Packet`. -/
def indicateEAPOLPacket (pAd : RxAdapter) (blk : RxData) : List Delivery :=
  if maxLenOfMacTable ≤ blk.wcid.toNat then [] else rxEAPOLFrameIndicate pAd blk

/-- `INDICATE_LEGACY_OR_AMSDU`. -/
def indicateLegacyOrAMSDU (pAd : RxAdapter) (blk : RxData) (fRXEAP : Bool) : List Delivery :=
  if blk.fRXAMSDU then indicateAMSDUPacket pAd blk
  else if fRXEAP then indicateEAPOLPacket pAd blk
  else indicateLegacyPacket pAd blk

/-- What becomes of a frame in `Indicate_AMPDU_Packet`. -/
inductive AmpduFate where
  | dropped
  | indicated
  | reordered
  deriving DecidableEq

/-- `ba_enqueue_reordering_packet`. -/
def enqueueFate (s : Session) (pRxBlk : RxBlk) : AmpduFate :=
  match BlockAck.baMpduBlkAlloc s with
  | (some mpduBlk, s) =>
      if !pRxBlk.fRXEAP then
        if (BlockAck.baReorderingMpduInsertsorted s.entry.list (pRxBlk.toMpdu mpduBlk)).1 then
          .reordered
        else .dropped
      else .indicated
  | (none, _) => .indicated

/-- `Indicate_AMPDU_Packet`, as far as it decides over the frame itself. -/
def ampduFate (env : BlockAck.Env) (s : Session) (pRxBlk : RxBlk) (now32 : BitVec 64) : AmpduFate :=
  if !pRxBlk.fRXAMSDU ∧ maxRxPktLen < pRxBlk.dataSize.toNat then .dropped
  else if maxLenOfMacTable ≤ pRxBlk.wcid.toNat then .dropped
  else if s.idx = 0 then .indicated
  else
    let s := BlockAck.meetFrame env s pRxBlk now32
    match BlockAck.arrival s.entry pRxBlk.sequence.toNat with
    | .first => .indicated
    | .inOrder => .indicated
    | .duplicated => .dropped
    | .old => .dropped
    | .withinWindow => enqueueFate s pRxBlk
    | .surpasses => enqueueFate (BlockAck.shiftWindow s pRxBlk.sequence.toNat now32) pRxBlk

/-- `convert_reordering_packet_to_preAMSDU_or_802_3_packet`: the MSDUs of the packet on the
list. The conversion comes first, for an A-MSDU as well. -/
def reorderedMsdus (pAd : RxAdapter) (blk : RxData) : List Delivery :=
  let converted := removeLLC pAd blk.mem blk.pData blk.dataSize.toNat
  if blk.fRXAMSDU then
    (subFrames blk.mem converted.pData converted.dataSize).map fun start =>
      .reordered (convertSubFrame blk.mem start).p8023hdr
  else [.reordered converted.p8023hdr]

/-- `Indicate_AMPDU_Packet`. -/
def indicateAMPDUPacket (pAd : RxAdapter) (st : RxState rxwiSize) (blk : RxData) (fRXEAP : Bool) :
    List Delivery :=
  match ampduFate pAd.env st.session (blk.toRxBlk pAd fRXEAP) st.now32 with
  | .dropped => []
  | .indicated => indicateLegacyOrAMSDU pAd blk fRXEAP
  | .reordered => reorderedMsdus pAd blk

/-- The test in front of `Indicate_AMPDU_Packet`. -/
def RxData.reorders (blk : RxData) (pAd : RxAdapter) : Bool :=
  blk.fRXAMPDU && !pAd.bDisableReordering

/-- `CmmRxnonRalinkFrameIndicate`. -/
def cmmRxnonRalinkFrameIndicate (pAd : RxAdapter) (st : RxState rxwiSize) (blk : RxData) :
    List Delivery :=
  if blk.reorders pAd then indicateAMPDUPacket pAd st blk false
  else if blk.fRXAMSDU then indicateAMSDUPacket pAd blk
  else indicateLegacyPacket pAd blk

/-- The headers of the two packets of `CmmRxRalinkFrameIndicate`; none when the length field does
not fit or the second packet cannot be had. -/
def ralinkHeaders (pAd : RxAdapter) (blk : RxData) : List (List UInt8) :=
  let msdu2Size := (blk.mem blk.pData).toNat + (blk.mem (blk.pData + 1)).toNat * 256
  if msdu2Size ≤ 1536 ∧ msdu2Size < blk.dataSize.toNat ∧ pAd.pPacket2 then
    let converted := removeLLC pAd blk.mem (blk.pData + 2) (u16 ((blk.dataSize.toNat : Int) - 2))
    let payload1Size := u16 ((converted.dataSize : Int) - msdu2Size)
    [converted.p8023hdr, blk.mem.bytes (converted.pData + payload1Size) length8023]
  else []

/-- `CmmRxRalinkFrameIndicate`. -/
def cmmRxRalinkFrameIndicate (pAd : RxAdapter) (blk : RxData) : List Delivery :=
  (ralinkHeaders pAd blk).flatMap (announceOrForward pAd)

def cmmRxFrameIndicate (pAd : RxAdapter) (st : RxState rxwiSize) (blk : RxData) : List Delivery :=
  if blk.fRXARALINK then cmmRxRalinkFrameIndicate pAd blk
  else cmmRxnonRalinkFrameIndicate pAd st blk

/-- The EAPOL branch of the two announcing functions. -/
def announceEapol (pAd : RxAdapter) (st : RxState rxwiSize) (blk : RxData) : List Delivery :=
  if blk.reorders pAd then indicateAMPDUPacket pAd st blk true else rxEAPOLFrameIndicate pAd blk

/-- `APRxDataFrameAnnounce`. -/
def apRxDataFrameAnnounce (pAd : RxAdapter) (st : RxState rxwiSize) (blk : RxData) :
    List Delivery :=
  if rtmpCheckWPAframe blk.mem blk.pData blk.dataSize.toNat then announceEapol pAd st blk
  else if pAd.ap.privacyFilter = .filter8021xWEP then []
  else cmmRxFrameIndicate pAd st blk

/-- The tests `STARxDataFrameAnnounce` makes of a frame that is not EAPOL. -/
def staAdmits (pAd : RxAdapter) (blk : RxData) : Bool :=
  if !pAd.sta.mediaStateConnected then false
  else if blk.wep then decide (pAd.sta.wepStatus ≠ .encryptionDisabled)
  else !(decide (pAd.sta.wepStatus ≠ .encryptionDisabled) && !pAd.sta.portSecured)

/-- `STARxDataFrameAnnounce`. -/
def staRxDataFrameAnnounce (pAd : RxAdapter) (st : RxState rxwiSize) (blk : RxData) :
    List Delivery :=
  if rtmpCheckWPAframe blk.mem blk.pData blk.dataSize.toNat then announceEapol pAd st blk
  else if staAdmits pAd blk then cmmRxFrameIndicate pAd st blk
  else []

/-- `APCheckVaildDataFrame`, `PACInquiry` and the other tests up to the payload. -/
def apAccepts (pAd : RxAdapter) (rx : RxMpdu rxwiSize) : Bool :=
  rx.toDs && !rx.frDs && decide (rx.wcid.toNat < maxLenOfMacTable) && pAd.ap.associated &&
    !pAd.ap.banClass3Data && !(rx.subType.getLsbD 2 && !rx.order)

/-- The frame that `APHandleRxDataFrame` comes to announce. -/
def apCompleteFrame (pAd : RxAdapter) (st : RxState rxwiSize) (rx : RxMpdu rxwiSize) :
    Option RxData :=
  if apAccepts pAd rx then
    (completeFrame st rx (skipHeader rx pAd.ap.aggregationCapable)).bind
      (checkTkipMICValue st rx (rx.wep && decide (pAd.ap.wepStatus = .tkipEnable)))
  else none

/-- `APHandleRxDataFrame`. -/
def apHandleRxDataFrame (pAd : RxAdapter) (st : RxState rxwiSize) (rx : RxMpdu rxwiSize) :
    List Delivery :=
  match apCompleteFrame pAd st rx with
  | some blk => apRxDataFrameAnnounce pAd st blk
  | none => []

/-- The tests of `STAHandleRxDataFrame` up to the payload. -/
def staAccepts (pAd : RxAdapter) (rx : RxMpdu rxwiSize) : Bool :=
  !(rx.frDs && rx.toDs) && rx.myBss && !rx.subType.getLsbD 2 &&
    (if pAd.sta.infra then rx.addr2 == pAd.sta.bssid else rx.addr3 == pAd.sta.bssid) &&
    (decide (rx.wcid.toNat < maxLenOfMacTable) || pAd.sta.macTableLookup rx.addr2)

/-- Case I: a broadcast or multicast frame that goes straight to `Indicate_Legacy_Packet`. -/
def staGroupFrame (pAd : RxAdapter) (rx : RxMpdu rxwiSize) : Option RxData :=
  if staAccepts pAd rx ∧ (rx.bcast || rx.mcast) ∧ !rx.moreFrag ∧
      !(rx.frDs && rx.addr3 == pAd.sta.currentAddress) then
    some (skipHeader rx pAd.sta.aggregationInUsed)
  else none

/-- The unicast frame that `STAHandleRxDataFrame` comes to announce. -/
def staCompleteFrame (pAd : RxAdapter) (st : RxState rxwiSize) (rx : RxMpdu rxwiSize) :
    Option RxData :=
  if staAccepts pAd rx ∧ !(rx.bcast || rx.mcast) ∧ rx.u2m then
    (completeFrame st rx (skipHeader rx pAd.sta.aggregationInUsed)).bind
      (checkTkipMICValue st rx (rx.decrypted && decide (pAd.sta.entryWepStatus = .tkipEnable)))
  else none

/-- `STAHandleRxDataFrame`. -/
def staHandleRxDataFrame (pAd : RxAdapter) (st : RxState rxwiSize) (rx : RxMpdu rxwiSize) :
    List Delivery :=
  match staGroupFrame pAd rx, staCompleteFrame pAd st rx with
  | some blk, _ => indicateLegacyPacket pAd blk
  | none, some blk => staRxDataFrameAnnounce pAd st blk
  | none, none => []

/-- The data frames of `rtmp_rx_done_handle`. -/
def handleRxDataFrame (pAd : RxAdapter) (st : RxState rxwiSize) (rx : RxMpdu rxwiSize) :
    List Delivery :=
  match pAd.deagg.opMode with
  | .ap => apHandleRxDataFrame pAd st rx
  | .sta => staHandleRxDataFrame pAd st rx

end Mt7612u.Receive
