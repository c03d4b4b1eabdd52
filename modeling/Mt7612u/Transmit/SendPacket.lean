import Mt7612u.Transmit.Adapter

/-! `APSendPacket` and `STASendPacket`: from the packet the operating system hands over to the
software queue it waits in. -/

namespace Mt7612u.Transmit
open BlockAck (Packet Wcid OpMode)
open Mgmt (MacAddr)
open Receive (Memory)

def ethTypeVlan : Nat := 0x8100
def ethTypeIPv4 : Nat := 0x0800
def ethTypeIPv6 : Nat := 0x86dd
def ethTypeArp : Nat := 0x0806
def ethTypeEapol : Nat := 0x888e
def length8023 : Nat := 14

/-- A packet to send: its bytes, and what its control block says when it is handed over. -/
structure TxPacket where
  pPacket : Packet
  /-- `none` for a null `data` pointer. -/
  data : Option Memory
  len : Nat
  wcid : Wcid
  /-- `RTMP_GET_PACKET_WDEV`. -/
  ifIdx : Nat
  /-- `RTMP_GET_PACKET_NET_DEVICE_MBSSID`. -/
  mbssid : BitVec 8

/-- What the two functions read beside the stations and the queues. -/
structure TxSetting where
  wdevList : Fin wdevNumMax → Option Wdev
  txSwQMaxLen : Nat
  /-- `APEdcaParm.bACM`. -/
  bACM : QueIdx → Bool
  /-- `StaCfg.BssType == BSS_INFRA`. -/
  bssInfra : Bool
  adhocOn : Bool
  staWdev : Wdev
  micErrCnt : Nat
  macTableLookup : MacAddr → Option Wcid

/-- `WMM_UP2AC_MAP`. -/
def wmmUp2AcMap (up : Nat) : QueIdx :=
  [qidAcBe, qidAcBk, qidAcBk, qidAcBe, qidAcVi, qidAcVi, qidAcVo, qidAcVo].getD up qidAcBe

/-- Two bytes in network order. -/
def be16 (mem : Memory) (offset : Nat) : Nat :=
  (mem offset).toNat * 256 + (mem (offset + 1)).toNat

/-- What `RTMPCheckEtherType` leaves in the packet's control block and in its arguments. -/
structure EtherCheck where
  accepted : Bool
  llcSnap : Bool
  vlan : Bool
  ipv4 : Bool
  dhcp : Bool
  eapol : Bool
  protocol : Option Nat
  userPriority : Nat
  queIdx : QueIdx

/-- The packet is refused with the marks it has so far. -/
def EtherCheck.refused (llcSnap vlan : Bool) : EtherCheck where
  accepted := false
  llcSnap := llcSnap
  vlan := vlan
  ipv4 := false
  dhcp := false
  eapol := false
  protocol := none
  userPriority := 0
  queIdx := qidAcBe

/-- The type of a frame and the offset of what it announces. -/
structure FrameType where
  typeLen : Nat
  offset : Nat

/-- The type field, behind an LLC/SNAP header when the frame has a length in its place. -/
def llcSnapType (mem : Memory) : Option (FrameType × Bool) :=
  if be16 mem 12 ≤ 1500 then
    if mem 14 = 0xAA ∧ mem 15 = 0xAA ∧ mem 16 = 0x03 then some (⟨be16 mem 20, 22⟩, true)
    else none
  else some (⟨be16 mem 12, length8023⟩, false)

/-- The type field behind a VLAN tag. -/
def vlanType (mem : Memory) (frame : FrameType) : FrameType :=
  if frame.typeLen = ethTypeVlan then ⟨be16 mem (frame.offset + 2), frame.offset + 4⟩ else frame

/-- The tag names another VLAN than the one the device is in. -/
def otherVlan (wdev : Wdev) (mem : Memory) (frame : FrameType) : Bool :=
  frame.typeLen == ethTypeVlan && wdev.vlanVid != 0 && be16 mem frame.offset % 4096 != wdev.vlanVid

/-- The priority that the tag, or the header of an IP packet, asks for. -/
def taggedPriority (mem : Memory) (frame : FrameType) : Nat :=
  if frame.typeLen = ethTypeVlan then ((mem frame.offset &&& 0xe0) >>> 5).toNat
  else if frame.typeLen = ethTypeIPv4 then ((mem (frame.offset + 1) &&& 0xe0) >>> 5).toNat
  else if frame.typeLen = ethTypeIPv6 then ((mem frame.offset &&& 0x0e) >>> 1).toNat
  else 0

/-- `IS_MULTICAST_MAC_ADDR`. -/
def isMulticast (mem : Memory) : Bool := mem 0 &&& 0x01 == 0x01 && mem 0 != 0xff

/-- `FilterUnusedPacket` of the BSS keeps the packet back. -/
def filterUnused (wdev : Wdev) (isMcast : Bool) (typeLen : Nat) : Bool :=
  wdev.wdevTypeAp &&
    ((wdev.filterUnusedPacket.getLsbD 0 && isMcast && typeLen == ethTypeIPv6) ||
      (wdev.filterUnusedPacket.getLsbD 1 && isMcast && typeLen == ethTypeIPv4) ||
      (wdev.filterUnusedPacket.getLsbD 2 && typeLen == ethTypeIPv6))

/-- A UDP packet between the ports of BOOTP. -/
def isDhcp (mem : Memory) (offset : Nat) : Bool :=
  mem (offset + 9) == 0x11 &&
    ((be16 mem (offset + 20) == 0x44 && be16 mem (offset + 22) == 0x43) ||
      (be16 mem (offset + 20) == 0x43 && be16 mem (offset + 22) == 0x44))

/-- `RTMPCheckEtherType`. -/
def rtmpCheckEtherType (pAd : TxSetting) (mem : Memory) (wdev : Wdev) : EtherCheck :=
  match llcSnapType mem with
  | none => .refused false false
  | some (outer, llcSnap) =>
      if otherVlan wdev mem outer then .refused llcSnap false
      else
        let vlan := outer.typeLen == ethTypeVlan
        let frame := vlanType mem outer
        if filterUnused wdev (isMulticast mem) frame.typeLen then .refused llcSnap vlan
        else
          let tagged := taggedPriority mem outer
          let stated :=
            if frame.typeLen = ethTypeIPv6 ∧ mem frame.offset &&& 0xf0 ≠ 0x60 then 0 else tagged
          let up := if pAd.bACM (wmmUp2AcMap stated) then 0 else stated
          { accepted := true
            llcSnap := llcSnap
            vlan := vlan
            ipv4 := frame.typeLen == ethTypeIPv4
            dhcp := frame.typeLen == ethTypeArp ||
              (frame.typeLen == ethTypeIPv4 && isDhcp mem frame.offset)
            eapol := frame.typeLen == ethTypeEapol
            protocol := some frame.typeLen
            userPriority := if wdev.bWmmCapable then up else 0
            queIdx := if wdev.bWmmCapable then wmmUp2AcMap up else qidAcBe }

/-- Where a packet is to go. -/
inductive Route where
  | drop
  | txSwQueue (queIdx : QueIdx)
  | mcastPsQueue (apidx : BitVec 8)
  | psQueue
  deriving DecidableEq, Repr

/-- `*pSrcBufVA & 0x01`. -/
def toGroup (mem : Memory) : Bool := mem 0 &&& 0x01 != 0

/-- "AP does not send packets before port secured." -/
def apPortShut (wdev : Wdev) (pMacEntry : StationEntry) (pPacket : TxPacket) (eapol : Bool) :
    Bool :=
  (decide (AuthMode.wpa.toNat ≤ wdev.authMode.toNat) || wdev.ieee8021X) && !eapol &&
    if pPacket.wcid = mcastWcid then !wdev.portSecured else !pMacEntry.portSecured

/-- The queue of a packet that may be sent. -/
def apQueue (pAd : TxAdapter) (mem : Memory) (pPacket : TxPacket) (queIdx : QueIdx) : Route :=
  let pMacEntry := pAd.content pPacket.wcid
  if pMacEntry.entryType = .wds ∨ pMacEntry.entryType = .apcli ∨ pMacEntry.entryType = .mesh then
    .txSwQueue queIdx
  else if toGroup mem && pAd.fAnyStationInPsm then
    .mcastPsQueue (if pPacket.wcid = mcastWcid then pPacket.mbssid else pMacEntry.apidx)
  else if pMacEntry.psMode = .pwrSave ∧ pMacEntry.entryType = .client ∧ pMacEntry.associated then
    .psQueue
  else .txSwQueue queIdx

/-- What `APSendPacket` decides for a packet of a known device. -/
def apRouteOn (setting : TxSetting) (pAd : TxAdapter) (mem : Memory) (pPacket : TxPacket)
    (wdev : Wdev) : Route :=
  let pMacEntry := pAd.content pPacket.wcid
  let check := rtmpCheckEtherType setting mem wdev
  if !check.accepted then .drop
  else if pMacEntry.entryType = .none ∧ pPacket.wcid ≠ mcastWcid then .drop
  else if apPortShut wdev pMacEntry pPacket check.eapol then .drop
  else apQueue pAd mem pPacket check.queIdx

/-- `APSendPacket` up to the choice of the queue; `none` when it follows a null pointer. -/
def apRoute (setting : TxSetting) (pAd : TxAdapter) (pPacket : TxPacket) : Option Route :=
  match pPacket.data with
  | none => some .drop
  | some mem =>
      if pPacket.len ≤ 14 then some .drop
      else if pPacket.wcid = mcastWcid then
        if inside : pPacket.ifIdx < wdevNumMax then
          match setting.wdevList ⟨pPacket.ifIdx, inside⟩ with
          | none => some .drop
          | some wdev => some (apRouteOn setting pAd mem pPacket wdev)
        else some .drop
      else
        match (pAd.content pPacket.wcid).wdev with
        -- `RTMPCheckEtherType` reads through `wdev` unless it refuses the frame before that.
        | none => if (llcSnapType mem).isSome then none else some .drop
        | some wdev => some (apRouteOn setting pAd mem pPacket wdev)

/-- `APInsertPsQueue`, and `RtmpInsertPsQueue` does the same. -/
def apInsertPsQueue (pAd : TxAdapter) (pPacket : Packet) (wcid : Wcid) :
    TxAdapter × NdisStatus :=
  if maxPacketsInPsQueue ≤ (pAd.psQueue wcid).number then (pAd.kfree pPacket, .failure)
  else
    let pMacEntry := pAd.content wcid
    ((pAd.insertPsQueue wcid pPacket).setTim pMacEntry.apidx
      ((pAd.timBitmaps pMacEntry.apidx).timBitSet pMacEntry.aid), .success)

/-- The packet is put into the queue chosen for it. -/
def enqueue (setting : TxSetting) (pAd : TxAdapter) (pPacket : Packet) (wcid : Wcid) :
    Route → TxAdapter × NdisStatus
  | .drop => (pAd.kfree pPacket, .failure)
  | .txSwQueue queIdx =>
      if setting.txSwQMaxLen ≤ (pAd.txSwQueue queIdx).number then (pAd.kfree pPacket, .failure)
      else (pAd.insertTxSwQueue queIdx pPacket, .success)
  | .mcastPsQueue apidx =>
      if maxPacketsInMcastPsQueue ≤ pAd.mcastPsQueue.number then (pAd.kfree pPacket, .failure)
      else ((pAd.insertMcastPsQueue pPacket).setTim apidx (pAd.timBitmaps apidx).timBcmcSet,
        .success)
  | .psQueue => apInsertPsQueue pAd pPacket wcid

/-- `APSendPacket`; `none` when it follows a null pointer. -/
def apSendPacket (setting : TxSetting) (pAd : TxAdapter) (pPacket : TxPacket) :
    Option (TxAdapter × NdisStatus) :=
  (apRoute setting pAd pPacket).map (enqueue setting pAd pPacket.pPacket pPacket.wcid)

/-- The destination address at the start of a frame. -/
def destination (mem : Memory) : MacAddr := fun i => (mem i).toBitVec

/-- The entry that `STASendPacket` takes for a packet. -/
def staEntry (setting : TxSetting) (mem : Memory) : Option Wcid :=
  if setting.bssInfra then some bssidWcid
  else if setting.adhocOn then
    if toGroup mem then some mcastWcid else setting.macTableLookup (destination mem)
  else none

/-- "WPA 802.1x secured port control - drop all non-802.1x frame before port secured". -/
def staPortShut (setting : TxSetting) (eapol : Bool) : Bool :=
  (setting.staWdev.authMode == .wpa || setting.staWdev.authMode == .wpaPsk ||
      setting.staWdev.authMode == .wpa2 || setting.staWdev.authMode == .wpa2Psk ||
      setting.staWdev.ieee8021X) &&
    (!setting.staWdev.portSecured || decide (2 ≤ setting.micErrCnt)) && !eapol

/-- `STASendPacket` up to the choice of the queue. -/
def staRoute (setting : TxSetting) (pPacket : TxPacket) : Route :=
  match pPacket.data with
  | none => .drop
  | some mem =>
      if pPacket.len ≤ 14 then .drop
      else
        match staEntry setting mem with
        | none => .drop
        | some _ =>
            -- The answer of `RTMPCheckEtherType` is not looked at, only what it leaves behind.
            let check := rtmpCheckEtherType setting mem setting.staWdev
            if staPortShut setting check.eapol then .drop else .txSwQueue check.queIdx

/-- `STASendPacket`. -/
def staSendPacket (setting : TxSetting) (pAd : TxAdapter) (pPacket : TxPacket) :
    TxAdapter × NdisStatus :=
  enqueue setting pAd pPacket.pPacket pPacket.wcid (staRoute setting pPacket)

/-- The send function of the mode the adapter is in. -/
def sendPacket (opMode : OpMode) (setting : TxSetting) (pAd : TxAdapter) (pPacket : TxPacket) :
    Option (TxAdapter × NdisStatus) :=
  match opMode with
  | .ap => apSendPacket setting pAd pPacket
  | .sta => some (staSendPacket setting pAd pPacket)

end Mt7612u.Transmit
