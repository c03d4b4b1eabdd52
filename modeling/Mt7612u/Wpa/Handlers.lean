import Mt7612u.Wpa.Construct

/-! The handlers of the messages of the four-way handshake and of the group key handshake. `none` is
a null pointer that is followed. -/

namespace Mt7612u.Wpa
open BlockAck (Wcid OpMode)
open Mgmt (MacAddr)
open Receive (Memory WepStatus PrivacyFilter)
open Transmit (bssidWcid)

/-- `LENGTH_802_11 + LENGTH_802_1_H`. -/
def eapolOffset : Nat := 32

/-- The length that a frame with all fixed fields has at least. -/
def minKeyFrameLen : Nat := eapolOffset + lengthEapolH + minLenOfEapolKeyMsg

/-- `MLME_QUEUE_ELEM`; `MsgLen` is an unsigned long. -/
structure EapolElem where
  addr2 : MacAddr
  packet : EapolPacket
  msgLen : BitVec 64

/-- A message is built and sent. -/
def sendEapolMsg (crypto : KeyCrypto) (env : BuildEnv) (pAd : WpaAdapter) (wcid : Wcid)
    (groupCipher : WepStatus) (msgType : MsgType) (args : MsgArgs) : Option WpaAdapter :=
  (constructEapolMsg crypto env (pAd.content wcid) groupCipher msgType args).map fun p =>
    pAd.record (.sent wcid p)

section Authenticator

/-- The KDE of a PMKID. -/
def pmkidKde (pmkid : Bytes 16) : List UInt8 := [0xdd, 0x14] ++ ouiWpa2 ++ [0x04] ++ pmkid.val

/-- "If PMKID match in WPA2-enterprise mode, fill PMKID into Key data field and update PMK here". -/
def addPmkid (pAd : WpaAdapter) (entry : WpaEntry) (p : EapolPacket) : WpaAdapter × EapolPacket :=
  match entry.authMode, entry.pmkidCache with
  | .wpa2, some (pmkid, pmk) =>
    (pAd.setMbss entry.apidx { pAd.mbssid entry.apidx with pmk := pmk },
      { p with
        keyData := p.keyData.write 0 (pmkidKde pmkid)
        keyDataLen := p.keyDataLen + 22
        bodyLen := p.bodyLen + 22 })
  | _, _ => (pAd, p)

/-- A new message 1: the counter goes up, and the nonce is a new one. -/
def WpaEntry.restart (random : Bytes 32) (entry : WpaEntry) : WpaEntry :=
  { entry with rCounter := Counter.addOne entry.rCounter, aNonce := random }

/-- `WPAStart4WayHS`. A station has no BSS to do it for. -/
def wpaStart4WayHs (crypto : KeyCrypto) (env : BuildEnv) (random : Bytes 32) (pAd : WpaAdapter)
    (wcid : Wcid) : Option WpaAdapter :=
  let entry := pAd.content wcid
  if pAd.closed then some pAd
  else if pAd.opMode ≠ .ap ∨ !entry.isClient then some pAd
  else if WpaState.asPtkStart.toNat < entry.wpaState.toNat ∨
      entry.wpaState.toNat < WpaState.asInitPmk.toNat then some pAd
  else if !env.txEapolBuffer then some (pAd.modify wcid (·.restart random))
  else
    (constructEapolMsg crypto env (entry.restart random)
      (pAd.mbssid entry.apidx).groupKeyWepStatus .pairMsg1
      ⟨0, some random, none, none, noRsnIe⟩).map fun p =>
        let sent := addPmkid (pAd.modify wcid (·.restart random)) entry p
        (sent.1.modify wcid fun entry => { entry with wpaState := .asPtkStart }).record
          (.sent wcid sent.2)

/-- The counter of a message that the authenticator sends. -/
def WpaEntry.countUp (entry : WpaEntry) : WpaEntry :=
  { entry with rCounter := Counter.addOne entry.rCounter }

/-- `WPAStart2WayGroupHS`. A station has neither nonce nor key to send, and no BSS. -/
def wpaStart2WayGroupHs (crypto : KeyCrypto) (env : BuildEnv) (pAd : WpaAdapter) (wcid : Wcid) :
    Option WpaAdapter :=
  let entry := pAd.content wcid
  if !entry.isClient then some pAd
  else if pAd.opMode = .ap ∧ pAd.bssidNum ≤ entry.apidx then some pAd
  else if !env.txEapolBuffer then some pAd
  else
    let started := pAd.modify wcid WpaEntry.countUp
    if pAd.opMode = .ap then
      let mbss := pAd.mbssid entry.apidx
      sendEapolMsg crypto env started wcid mbss.groupKeyWepStatus .groupMsg1
        ⟨mbss.defaultKeyId, some mbss.gNonce, some env.txTsc, some mbss.gtk, noRsnIe⟩
    else
      (constructEapolMsg crypto env (started.content wcid) .encryptionDisabled .groupMsg1
        ⟨0, none, some env.txTsc, none, noRsnIe⟩).map fun _ => started

/-- The element that the AP sends in message 3. -/
def apRsnIe (mbss : Mbss) (entry : WpaEntry) : RsnIe :=
  if entry.authMode = .wpa ∨ entry.authMode = .wpaPsk then mbss.rsnIe.1
  else if mbss.authMode = .wpa1PskWpa2Psk ∨ mbss.authMode = .wpa1Wpa2 then mbss.rsnIe.2
  else mbss.rsnIe.1

/-- `PEER_MSG3_RETRY_TIMER_CTR` and `GROUP_MSG1_RETRY_TIMER_CTR`. -/
def peerMsg3RetryTimerCtr : Nat := 10
def groupMsg1RetryTimerCtr : Nat := 20

/-- `SNonce` and `PTK` of message 2 are stored before the frame is checked. -/
def storeSNonce (crypto : KeyCrypto) (pAd : WpaAdapter) (packet : EapolPacket) (entry : WpaEntry) :
    WpaEntry :=
  let mbss := pAd.mbssid entry.apidx
  { entry with
    sNonce := packet.keyNonce
    ptk :=
      if pAd.opMode = .ap then
        crypto.wpaDerivePtk mbss.pmk entry.aNonce mbss.bssid packet.keyNonce entry.addr
      else entry.ptk }

/-- The entry when message 3 is sent. -/
def WpaEntry.startMsg3 (entry : WpaEntry) : WpaEntry :=
  { entry with
    wpaState := .asPtkInitNegotiating
    rCounter := Counter.addOne entry.rCounter
    reTryCounter := peerMsg3RetryTimerCtr }

def peerPairMsg2Action (crypto : KeyCrypto) (env : HandleEnv) (pAd : WpaAdapter) (wcid : Wcid)
    (elem : EapolElem) : Option WpaAdapter :=
  let entry := pAd.content wcid
  if !entry.isClient then some pAd
  else if elem.msgLen.toNat < minKeyFrameLen then some pAd
  else if entry.wpaState.toNat < WpaState.asPtkStart.toNat then some pAd
  else if pAd.opMode = .ap ∧ pAd.bssidNum ≤ entry.apidx then some pAd
  else
    let stored := pAd.modify wcid (storeSNonce crypto pAd elem.packet)
    if pAd.opMode ≠ .ap then some stored
    else
      let checked := peerWpaMessageSanity crypto env stored wcid elem.packet .pairMsg2
      if !checked.1 then some checked.2
      else if !(env.build wcid).txEapolBuffer then some checked.2
      else
        let mbss := pAd.mbssid entry.apidx
        sendEapolMsg crypto (env.build wcid) (checked.2.modify wcid WpaEntry.startMsg3) wcid
          mbss.groupKeyWepStatus .pairMsg3
          ⟨mbss.defaultKeyId, some entry.aNonce, some (env.build wcid).txTsc, some mbss.gtk,
            apRsnIe mbss entry⟩

/-- "upgrade state". -/
def WpaEntry.upgrade (entry : WpaEntry) : WpaEntry :=
  { entry with privacyFilter := .acceptAll, wpaState := .asPtkInitDone, portSecured := true }

def WpaEntry.establish (entry : WpaEntry) : WpaEntry :=
  { entry with gtkState := .rekeyEstablished }

/-- The retry counter of the group handshake. -/
def WpaEntry.retryGroup (entry : WpaEntry) : WpaEntry :=
  { entry with reTryCounter := groupMsg1RetryTimerCtr }

def peerPairMsg4Action (crypto : KeyCrypto) (env : HandleEnv) (pAd : WpaAdapter) (wcid : Wcid)
    (elem : EapolElem) : Option WpaAdapter :=
  let entry := pAd.content wcid
  if !entry.isClient then some pAd
  else if elem.msgLen.toNat < minKeyFrameLen then some pAd
  else if entry.wpaState.toNat < WpaState.asPtkInitNegotiating.toNat then some pAd
  else if pAd.opMode = .ap ∧ pAd.bssidNum ≤ entry.apidx then some pAd
  else
    let checked := peerWpaMessageSanity crypto env pAd wcid elem.packet .pairMsg4
    if !checked.1 then some checked.2
    else
      let done := (wpaInstallPairwiseKey checked.2 wcid true).modify wcid WpaEntry.upgrade
      if entry.wpa2 then some (done.modify wcid WpaEntry.establish)
      else (wpaStart2WayGroupHs crypto (env.build wcid) done wcid).map fun started =>
        started.modify wcid WpaEntry.retryGroup

/-- `MsgLen`, an unsigned int here, is what lies behind the 802.11 header. -/
def peerGroupMsg2Action (crypto : KeyCrypto) (env : HandleEnv) (pAd : WpaAdapter) (wcid : Wcid)
    (elem : EapolElem) : Option WpaAdapter :=
  let entry := pAd.content wcid
  if !entry.isClient then some pAd
  else if ((elem.msgLen - 24).setWidth 32).toNat < 8 + lengthEapolH + minLenOfEapolKeyMsg then
    some pAd
  else if entry.wpaState ≠ .asPtkInitDone then some pAd
  else if pAd.opMode = .ap ∧ pAd.bssidNum ≤ entry.apidx then some pAd
  else
    let checked := peerWpaMessageSanity crypto env pAd wcid elem.packet .groupMsg2
    if !checked.1 then some checked.2
    else some (checked.2.modify wcid WpaEntry.establish)

end Authenticator

section Supplicant

/-- "open 802.1x port control and privacy filter". -/
def WpaEntry.openPort (entry : WpaEntry) : WpaEntry :=
  { entry with portSecured := true, privacyFilter := .acceptAll }

/-- With `STA_PORT_SECURED`: the port of the station and of the entry of its AP. -/
def openPort (pAd : WpaAdapter) (wcid : Wcid) : WpaAdapter :=
  { (pAd.modify wcid WpaEntry.openPort).modify bssidWcid WpaEntry.openPort with
    staCfg := { pAd.staCfg with portSecured := true } }

/-- The counter of a message that the supplicant has accepted. -/
def WpaEntry.count (packet : EapolPacket) (entry : WpaEntry) : WpaEntry :=
  { entry with rCounter := packet.replayCounter }

/-- The two nonces and the PTK that they make. -/
def storeMsg1 (crypto : KeyCrypto) (pAd : WpaAdapter) (random : Bytes 32) (packet : EapolPacket)
    (entry : WpaEntry) : WpaEntry :=
  { entry with
    rCounter := packet.replayCounter
    aNonce := packet.keyNonce
    sNonce := random
    ptk := crypto.wpaDerivePtk pAd.staCfg.pmk packet.keyNonce entry.addr random pAd.currentAddress
    wpaState := .asPtkInitNegotiating }

/-- An AP has no address to answer from. -/
def peerPairMsg1Action (crypto : KeyCrypto) (env : HandleEnv) (pAd : WpaAdapter) (wcid : Wcid)
    (elem : EapolElem) : Option WpaAdapter :=
  let entry := pAd.content wcid
  if !entry.isClient ∧ !entry.isApcli then some pAd
  else if elem.msgLen.toNat < minKeyFrameLen then some pAd
  else if pAd.opMode ≠ .sta then some pAd
  else
    let checked := peerWpaMessageSanity crypto env pAd wcid elem.packet .pairMsg1
    if !checked.1 then some checked.2
    else
      let stored := checked.2.modify wcid (storeMsg1 crypto pAd env.random elem.packet)
      if !(env.build wcid).txEapolBuffer then some stored
      else sendEapolMsg crypto (env.build wcid) stored wcid pAd.staCfg.groupCipher .pairMsg2
        ⟨0, some env.random, none, none, pAd.staCfg.rsnIe⟩

/-- `StaCfg.PTK`, the state and the pairwise key once message 3 is accepted. -/
def finishMsg3 (pAd : WpaAdapter) (wcid : Wcid) : WpaAdapter :=
  let entry := pAd.content wcid
  let done := pAd.modify wcid fun entry => { entry with wpaState := .asPtkInitDone }
  let installed := wpaInstallPairwiseKey
    { done with staCfg := { done.staCfg with ptk := entry.ptk } } wcid false
  if entry.wpa2 then openPort installed wcid else installed

def peerPairMsg3Action (crypto : KeyCrypto) (env : HandleEnv) (pAd : WpaAdapter) (wcid : Wcid)
    (elem : EapolElem) : Option WpaAdapter :=
  let entry := pAd.content wcid
  if !entry.isClient ∧ !entry.isApcli then some pAd
  else if elem.msgLen.toNat < minKeyFrameLen then some pAd
  else if pAd.opMode ≠ .sta then some pAd
  else
    let checked := peerWpaMessageSanity crypto env pAd wcid elem.packet .pairMsg3
    if !checked.1 then some checked.2
    else
      let counted := checked.2.modify wcid (WpaEntry.count elem.packet)
      if entry.aNonce ≠ elem.packet.keyNonce then some counted
      else if !(env.build wcid).txEapolBuffer then some counted
      else
        (constructEapolMsg crypto (env.build wcid) (entry.count elem.packet) pAd.staCfg.groupCipher
          .pairMsg4 ⟨0, none, none, none, noRsnIe⟩).map fun p =>
            (finishMsg3 counted wcid).record (.sent wcid p)

/-- The length of the frame is not looked at. -/
def peerGroupMsg1Action (crypto : KeyCrypto) (env : HandleEnv) (pAd : WpaAdapter) (wcid : Wcid)
    (elem : EapolElem) : Option WpaAdapter :=
  let entry := pAd.content wcid
  if !entry.isClient ∧ !entry.isApcli then some pAd
  else if pAd.opMode ≠ .sta then some pAd
  else
    let checked := peerWpaMessageSanity crypto env pAd wcid elem.packet .groupMsg1
    if !checked.1 then some checked.2
    else
      let counted := checked.2.modify wcid (WpaEntry.count elem.packet)
      if !(env.build wcid).txEapolBuffer then some counted
      else
        (constructEapolMsg crypto (env.build wcid) (entry.count elem.packet) pAd.staCfg.groupCipher
          .groupMsg2 ⟨pAd.staCfg.defaultKeyId, none, none, none, noRsnIe⟩).map fun p =>
            (openPort counted wcid).record (.sent wcid p)

end Supplicant

end Mt7612u.Wpa
