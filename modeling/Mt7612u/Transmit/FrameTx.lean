import Mt7612u.Transmit.SendPacket
import Mt7612u.Library.Ownership

/-! The frame transmit functions of both modes and the functions that write into the bulk ring,
as traces of what they do with the packets of `TxPacketList`. -/

namespace Mt7612u.Transmit
open BlockAck (Packet Wcid OpMode)
open Receive (Memory)

def localTxbufSize : Nat := 2048
def bulkaggreSize : Nat := 100
def maxTxbulkLimit : Nat := localTxbufSize * (bulkaggreSize - 1)
def length8021H : Nat := 8
def length8021Q : Nat := 4
def lengthCrc : Nat := 4
def minFragThreshold : Nat := 256
def tkipTxMicSize : Nat := 8
def cipherNone : BitVec 8 := 0
def cipherTkip : BitVec 8 := 3

/-- `sizeof(HEADER_802_11)`. -/
def sizeofHeader80211 : Nat := 24

/-- `HT_TX_CONTEXT`, as far as it decides whether a frame may be written. -/
structure HtTxContext where
  bCurWriting : Bool
  curWritePosition : Nat
  nextBulkOutPosition : Nat
  eNextBulkOutPosition : Nat

/-- `RtmpUSBCanDoWrite` answers with success. -/
def HtTxContext.canDoWrite (pHTTXContext : HtTxContext) : Bool :=
  if pHTTXContext.curWritePosition < pHTTXContext.nextBulkOutPosition ∧
      pHTTXContext.nextBulkOutPosition < pHTTXContext.curWritePosition + localTxbufSize then false
  else if pHTTXContext.curWritePosition = 8 ∧ pHTTXContext.nextBulkOutPosition < localTxbufSize then
    false
  else if pHTTXContext.bCurWriting then false
  else if pHTTXContext.eNextBulkOutPosition = 8 ∧
      maxTxbulkLimit < pHTTXContext.curWritePosition + 7912 then false
  else true

/-- What these functions read of a packet. One that has a VLAN tag is long enough for it. -/
structure FramePacket where
  mem : Memory
  len : Nat
  wcid : Wcid
  vlan : Bool
  tailroom : Nat
  long : length8023 + (if vlan then length8021Q else 0) ≤ len

/-- What is left of a packet behind the 802.3 header and the VLAN tag. -/
def FramePacket.srcBufLen (p : FramePacket) : Nat :=
  p.len - (length8023 + if p.vlan then length8021Q else 0)

/-- `EXTRA_LLCSNAP_ENCAP_FROM_PKT_START` finds an encapsulation to insert. -/
def FramePacket.extraLlcSnapEncap (p : FramePacket) : Bool := decide (1500 < be16 p.mem 12)

/-- What these functions read of a `MAC_TABLE_ENTRY`. -/
structure FrameEntry where
  entryType : EntryType
  /-- `none` for a null pointer. -/
  pMbss : Option (BitVec 8)
  wmmCapable : Bool

/-- What the functions find when they run. The lock of the bulk ring is open between two writes,
so each of them meets a ring of its own. -/
structure FrameSetting where
  packet : Packet → FramePacket
  content : Wcid → FrameEntry
  /-- The ring as the write number `n` for a packet finds it. -/
  ring : Packet → Nat → HtTxContext
  wmmInUsed : Bool
  fragmentThreshold : Nat
  threshold_ge : minFragThreshold ≤ fragmentThreshold
  /-- `CipherAlg`, as `APFindCipherAlgorithm` or `STAFindCipherAlgorithm` leaves it. -/
  cipherAlg : Packet → BitVec 8
  /-- `skb_copy_expand`. -/
  copyExpand : Packet → Option Packet
  copy_fresh : ∀ pPacket, copyExpand pPacket ≠ some pPacket

/-- What is done with a packet. -/
inductive TxEvent where
  | read (pPacket : Packet)
  /-- Bytes behind its header are copied into the bulk ring. -/
  | written (pPacket : Packet) (offset len : Nat)
  /-- A function answers that it does not take the packet. -/
  | refused (pPacket : Packet)
  /-- A copy takes its place. -/
  | copied (pPacket newskb : Packet)
  /-- `dev_kfree_skb_any`. -/
  | freed (pPacket : Packet)
  deriving DecidableEq, Repr

def TxEvent.packet : TxEvent → Packet
  | .read pPacket => pPacket
  | .written pPacket _ _ => pPacket
  | .refused pPacket => pPacket
  | .copied pPacket _ => pPacket
  | .freed pPacket => pPacket

/-- What `RTMP_FillTxBlkInfo` leaves in `TX_BLK`; null pointers are `none`. -/
structure TxBlkInfo where
  pMacEntry : Option FrameEntry
  pMbss : Option (BitVec 8)
  bWMM : Bool

/-- `RTMP_FillTxBlkInfo`; `none` when it answers `false`. -/
def rtmpFillTxBlkInfo (opMode : OpMode) (setting : FrameSetting) (pPacket : Packet) :
    Option TxBlkInfo :=
  if (setting.packet pPacket).wcid = mcastWcid then some ⟨none, none, false⟩
  else
    let pMacEntry := setting.content (setting.packet pPacket).wcid
    if opMode = .ap ∧ pMacEntry.entryType ≠ .client then none
    else some ⟨some pMacEntry, pMacEntry.pMbss, setting.wmmInUsed && pMacEntry.wmmCapable⟩

/-- What is done when `RTMP_FillTxBlkInfo` answers `false`. -/
def dropFrame (pPacket : Packet) : List TxEvent := [.read pPacket, .refused pPacket, .freed pPacket]

def srcBufLen (setting : FrameSetting) (pPacket : Packet) : Nat :=
  (setting.packet pPacket).srcBufLen

/-- `RtmpUSB_WriteSubTxResource`: "Dummy function. Should be removed in the future." -/
def writeSubTxResource (_ : FrameSetting) (_ : Packet) : List TxEvent := []

/-- `RtmpUSB_WriteSingleTxResource`. -/
def writeSingleTxResource (setting : FrameSetting) (pPacket : Packet) : List TxEvent :=
  if (setting.ring pPacket 0).canDoWrite then
    [.written pPacket 0 (srcBufLen setting pPacket), .freed pPacket]
  else [.refused pPacket, .freed pPacket]

/-- `RtmpUSB_WriteMultiTxResource`. -/
def writeMultiTxResource (setting : FrameSetting) (pPacket : Packet) (frmNum : Nat) :
    List TxEvent :=
  let pHTTXContext := setting.ring pPacket 0
  if if frmNum = 0 then pHTTXContext.canDoWrite else pHTTXContext.bCurWriting then
    [.written pPacket 0 (srcBufLen setting pPacket), .freed pPacket]
  else [.refused pPacket, .freed pPacket]

/-- The write number `n` for the fragments of a packet finds the ring ready; `fragNum` has eight
bits. -/
def fragmentAccepted (setting : FrameSetting) (pPacket : Packet) (n : Nat) : Bool :=
  if BitVec.ofNat 8 n = 0 then (setting.ring pPacket n).canDoWrite
  else (setting.ring pPacket n).bCurWriting

/-- `RtmpUSB_WriteFragTxResource`. -/
def writeFragTxResource (setting : FrameSetting) (pPacket : Packet) (n : Nat)
    (totalFragNum : BitVec 8) (offset len : Nat) : List TxEvent :=
  if fragmentAccepted setting pPacket n then
    .written pPacket offset len ::
      if BitVec.ofNat 8 n = totalFragNum then [.freed pPacket] else []
  else [.refused pPacket, .freed pPacket]

/-- A function that takes one packet off `TxPacketList`; `none` when it follows a null pointer. -/
def headFrame (frame : Packet → Option (List TxEvent)) :
    List Packet → Option (List TxEvent × List Packet)
  | [] => none
  | pPacket :: rest => (frame pPacket).map fun events => (events, rest)

/-- A function that goes on as long as there are packets in `TxPacketList`. What it does with one
says also how many frames are in the batch then. -/
def frameLoop (frame : Nat → Packet → List Packet → Option (List TxEvent × Nat)) :
    Nat → List Packet → Option (List TxEvent)
  | _, [] => some []
  | frameNum, pPacket :: rest =>
      match frame frameNum pPacket rest with
      | none => none
      | some (events, frameNum') =>
          (frameLoop frame frameNum' rest).map fun later => events ++ later

/-- A loop leaves no packet in `TxPacketList`. -/
def loopFrames (frame : Nat → Packet → List Packet → Option (List TxEvent × Nat))
    (packets : List Packet) : Option (List TxEvent × List Packet) :=
  (frameLoop frame 0 packets).map fun events => (events, [])

/-- What `AP_AMPDU_Frame_Tx` does with the packet it takes. -/
def apAmpduFrame (setting : FrameSetting) (pPacket : Packet) : Option (List TxEvent) :=
  match rtmpFillTxBlkInfo .ap setting pPacket with
  | none => some (dropFrame pPacket)
  | some pTxBlk =>
      match pTxBlk.pMacEntry with
      -- `pMacEntry->isCached`
      | none => none
      | some _ => some (.read pPacket :: writeSubTxResource setting pPacket)

/-- `AP_AMPDU_Frame_Tx`. -/
def apAmpduFrameTx (setting : FrameSetting) : List Packet → Option (List TxEvent × List Packet) :=
  headFrame (apAmpduFrame setting)

/-- One turn of `STA_AMPDU_Frame_Tx`. -/
def staAmpduFrame (setting : FrameSetting) (frameNum : Nat) (pPacket : Packet) (_ : List Packet) :
    Option (List TxEvent × Nat) :=
  match rtmpFillTxBlkInfo .sta setting pPacket with
  | none => some (dropFrame pPacket, frameNum)
  | some pTxBlk =>
      match pTxBlk.pMacEntry with
      -- `pMacEntry->isCached`
      | none => none
      | some _ => some (.read pPacket :: writeSingleTxResource setting pPacket, frameNum)

/-- `STA_AMPDU_Frame_Tx`. -/
def staAmpduFrameTx (setting : FrameSetting) : List Packet → Option (List TxEvent × List Packet) :=
  loopFrames (staAmpduFrame setting)

/-- What the legacy functions do with the packet they take. -/
def legacyFrame (opMode : OpMode) (setting : FrameSetting) (pPacket : Packet) :
    Option (List TxEvent) :=
  match rtmpFillTxBlkInfo opMode setting pPacket with
  | none => some (dropFrame pPacket)
  | some _ => some (.read pPacket :: writeSingleTxResource setting pPacket)

/-- `AP_Legacy_Frame_Tx`. -/
def apLegacyFrameTx (setting : FrameSetting) : List Packet → Option (List TxEvent × List Packet) :=
  headFrame (legacyFrame .ap setting)

/-- `STA_Legacy_Frame_Tx`. -/
def staLegacyFrameTx (setting : FrameSetting) :
    List Packet → Option (List TxEvent × List Packet) :=
  headFrame (legacyFrame .sta setting)

/-- The counters of a BSS look at the destination address of the frame. -/
def countPerBss (pTxBlk : TxBlkInfo) (pPacket : Packet) : List TxEvent :=
  if pTxBlk.pMbss = none then [] else [.read pPacket]

/-- One turn of `AP_AMSDU_Frame_Tx`. -/
def apAmsduFrame (setting : FrameSetting) (frameNum : Nat) (pPacket : Packet) (_ : List Packet) :
    Option (List TxEvent × Nat) :=
  match rtmpFillTxBlkInfo .ap setting pPacket with
  | none => some (dropFrame pPacket, frameNum)
  | some pTxBlk =>
      match pTxBlk.pMacEntry with
      -- `pMacEntry->Sst`
      | none => none
      | some _ =>
          some (.read pPacket ::
            (writeMultiTxResource setting pPacket frameNum ++ countPerBss pTxBlk pPacket),
            frameNum + 1)

/-- `AP_AMSDU_Frame_Tx`. -/
def apAmsduFrameTx (setting : FrameSetting) : List Packet → Option (List TxEvent × List Packet) :=
  loopFrames (apAmsduFrame setting)

/-- One turn of `STA_AMSDU_Frame_Tx`. -/
def staAmsduFrame (setting : FrameSetting) (frameNum : Nat) (pPacket : Packet) (_ : List Packet) :
    Option (List TxEvent × Nat) :=
  match rtmpFillTxBlkInfo .sta setting pPacket with
  | none => some (dropFrame pPacket, frameNum)
  | some _ =>
      some (.read pPacket :: writeMultiTxResource setting pPacket frameNum, frameNum + 1)

/-- `STA_AMSDU_Frame_Tx`. -/
def staAmsduFrameTx (setting : FrameSetting) : List Packet → Option (List TxEvent × List Packet) :=
  loopFrames (staAmsduFrame setting)

/-- The header of the first frame of a Ralink aggregate holds the length of the packet that is
now the head of `TxPacketList`. -/
def nextBufLenRead (frameNum : Nat) (rest : List Packet) : Option (List TxEvent) :=
  if frameNum = 0 then
    match rest with
    | [] => none
    | pNextPacket :: _ => some [.read pNextPacket]
  else some []

/-- One turn of `AP_ARalink_Frame_Tx`. -/
def apARalinkFrame (setting : FrameSetting) (frameNum : Nat) (pPacket : Packet)
    (rest : List Packet) : Option (List TxEvent × Nat) :=
  match rtmpFillTxBlkInfo .ap setting pPacket with
  | none => some (dropFrame pPacket, frameNum)
  | some pTxBlk =>
      match nextBufLenRead frameNum rest with
      | none => none
      | some next =>
          some (.read pPacket :: (next ++ (writeMultiTxResource setting pPacket frameNum ++
            countPerBss pTxBlk pPacket)), frameNum + 1)

/-- `AP_ARalink_Frame_Tx`. -/
def apARalinkFrameTx (setting : FrameSetting) :
    List Packet → Option (List TxEvent × List Packet) :=
  loopFrames (apARalinkFrame setting)

/-- One turn of `STA_ARalink_Frame_Tx`. -/
def staARalinkFrame (setting : FrameSetting) (frameNum : Nat) (pPacket : Packet)
    (rest : List Packet) : Option (List TxEvent × Nat) :=
  match rtmpFillTxBlkInfo .sta setting pPacket with
  | none => some (dropFrame pPacket, frameNum)
  | some _ =>
      match nextBufLenRead frameNum rest with
      | none => none
      | some next =>
          some (.read pPacket :: (next ++ writeMultiTxResource setting pPacket frameNum),
            frameNum + 1)

/-- `STA_ARalink_Frame_Tx`. -/
def staARalinkFrameTx (setting : FrameSetting) :
    List Packet → Option (List TxEvent × List Packet) :=
  loopFrames (staARalinkFrame setting)

/-- `FreeMpduSize`. -/
def freeMpduSize (setting : FrameSetting) (mpduHeaderLen : Nat) : Nat :=
  setting.fragmentThreshold - lengthCrc - mpduHeaderLen

/-- The loop over the fragments of a packet; every turn but the last one takes a byte or more of
`SrcRemainingBytes`. -/
def fragmentLoop (setting : FrameSetting) (pPacket : Packet) (encap : Bool) :
    Nat → Nat → Nat → Nat → Nat → List TxEvent
  | 0, _, _, _, _ => []
  | turns + 1, n, mpduHeaderLen, offset, srcRemainingBytes =>
      let room := freeMpduSize setting mpduHeaderLen
      if srcRemainingBytes ≤ room then
        .read pPacket ::
          writeFragTxResource setting pPacket n (BitVec.ofNat 8 n) offset srcRemainingBytes
      else
        .read pPacket :: (writeFragTxResource setting pPacket n 0xff offset room ++
          fragmentLoop setting pPacket encap turns (n + 1)
            (if BitVec.ofNat 8 n = 0 ∧ encap then mpduHeaderLen - length8021H else mpduHeaderLen)
            (offset + room) (srcRemainingBytes - room))

/-- `MpduHeaderLen` of the first fragment. -/
def fragmentHeaderLen (bWMM encap : Bool) : Nat :=
  sizeofHeader80211 + (if bWMM then 2 else 0) + if encap then length8021H else 0

/-- The bytes to send in fragments, with the MIC of TKIP behind those of the packet. -/
def fragmentedLen (setting : FrameSetting) (pPacket : Packet) : Nat :=
  srcBufLen setting pPacket +
    if setting.cipherAlg pPacket = cipherTkip then tkipTxMicSize else 0

/-- `duplicate_pkt_with_TKIP_MIC`; no packet when the copy fails. -/
def duplicatePktWithTkipMic (setting : FrameSetting) (skb : Packet) :
    List TxEvent × Option Packet :=
  if (setting.packet skb).tailroom < tkipTxMicSize then
    match setting.copyExpand skb with
    | none => ([.refused skb, .freed skb], none)
    | some newskb => ([.copied skb newskb, .freed skb], some newskb)
  else ([], some skb)

/-- The fragments of a packet, or of the copy that took its place. -/
def sendFragments (setting : FrameSetting) (pTxBlk : TxBlkInfo) (pPacket skb : Packet) :
    List TxEvent :=
  let encap := (setting.packet pPacket).extraLlcSnapEncap
  fragmentLoop setting skb encap (fragmentedLen setting pPacket + 1) 0
    (fragmentHeaderLen pTxBlk.bWMM encap) 0 (fragmentedLen setting pPacket)

/-- What the fragment functions do with the packet they take. -/
def fragmentFrame (opMode : OpMode) (setting : FrameSetting) (pPacket : Packet) :
    Option (List TxEvent) :=
  match rtmpFillTxBlkInfo opMode setting pPacket with
  | none => some (dropFrame pPacket)
  | some pTxBlk =>
      if setting.cipherAlg pPacket = cipherTkip then
        match duplicatePktWithTkipMic setting pPacket with
        | (events, none) => some (.read pPacket :: events)
        | (events, some skb) =>
            some (.read pPacket :: (events ++ sendFragments setting pTxBlk pPacket skb))
      else some (.read pPacket :: sendFragments setting pTxBlk pPacket pPacket)

/-- `AP_Fragment_Frame_Tx`. -/
def apFragmentFrameTx (setting : FrameSetting) :
    List Packet → Option (List TxEvent × List Packet) :=
  headFrame (fragmentFrame .ap setting)

/-- `STA_Fragment_Frame_Tx`. -/
def staFragmentFrameTx (setting : FrameSetting) :
    List Packet → Option (List TxEvent × List Packet) :=
  headFrame (fragmentFrame .sta setting)

/-- The kinds of frames that have a transmit function of their own. -/
inductive FrameKind where
  | ampdu
  | amsdu
  | legacy
  | ralink
  | fragment
  deriving DecidableEq, Repr

/-- The transmit function that `APHardTransmit` or `STAHardTransmit` calls. -/
def frameTx : OpMode → FrameKind → FrameSetting → List Packet →
    Option (List TxEvent × List Packet)
  | .ap, .ampdu => apAmpduFrameTx
  | .ap, .amsdu => apAmsduFrameTx
  | .ap, .legacy => apLegacyFrameTx
  | .ap, .ralink => apARalinkFrameTx
  | .ap, .fragment => apFragmentFrameTx
  | .sta, .ampdu => staAmpduFrameTx
  | .sta, .amsdu => staAmsduFrameTx
  | .sta, .legacy => staLegacyFrameTx
  | .sta, .ralink => staARalinkFrameTx
  | .sta, .fragment => staFragmentFrameTx

end Mt7612u.Transmit
