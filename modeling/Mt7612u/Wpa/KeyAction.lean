import Mt7612u.Wpa.Handlers

/-! `WpaEAPOLKeyAction`, which passes a frame on to the handler of its message, and the retries of
the authenticator. -/

namespace Mt7612u.Wpa
open BlockAck (Wcid maxLenOfMacTable)
open Receive (Memory WepStatus)

/-- What is done with a frame, as its `KeyInfo` says. -/
inductive KeyBranch where
  | pairMsg1
  | pairMsg3
  | groupMsg1
  | counterMeasure
  | pairMsg2
  | pairMsg4
  | groupMsg2
  | groupRequest
  | pairwiseRequest
  | ignored
  deriving DecidableEq, Repr

/-- "Check the Key Ack (bit 7) of the Key Information to determine the Authenticator or not." -/
def keyBranch (info : KeyInfo) (keyDataLen : BitVec 16) : KeyBranch :=
  if info.keyAck then
    if !info.secure && !info.request && !info.error && info.pairwise then
      if !info.keyMic then .pairMsg1 else .pairMsg3
    else if info.secure && info.keyMic && !info.request && !info.error then
      if info.pairwise then .pairMsg3 else .groupMsg1
    else .ignored
  else if info.keyMic && info.request && info.error then .counterMeasure
  else if !info.request && !info.error && info.keyMic then
    if !info.secure && info.pairwise then
      if keyDataLen = 0 then .pairMsg4 else .pairMsg2
    else if info.secure && info.pairwise then .pairMsg4
    else if info.secure && !info.pairwise then .groupMsg2
    else .ignored
  else if info.request && !info.error then
    if !info.pairwise then .groupRequest else .pairwiseRequest
  else .ignored

def EapolPacket.branch (p : EapolPacket) : KeyBranch := keyBranch p.keyInfo p.keyDataLen

/-- "Key descripter version not match". -/
def descVerFits (wepStatus : WepStatus) (keyDescVer : BitVec 3) : Bool :=
  if wepStatus = .tkipEnable then keyDescVer == keyDescTkip
  else if wepStatus = .aesEnable then keyDescVer == keyDescAes || keyDescVer == keyDescExt
  else true

/-- The checks in front of the handlers. `MsgLen` may be less than what is taken off it. -/
def admits (entry : WpaEntry) (elem : EapolElem) : Bool :=
  (entry.isClient || entry.isApcli) &&
    decide (Transmit.AuthMode.wpa.toNat ≤ entry.authMode.toNat) &&
    decide (elem.packet.eapolLen ≤ (elem.msgLen - BitVec.ofNat 64 eapolOffset).toNat) &&
    (elem.packet.proVer == eapolVer || elem.packet.proVer == eapolVer2) &&
    (elem.packet.type == wpa1KeyDesc || elem.packet.type == wpa2KeyDesc) &&
    descVerFits entry.wepStatus elem.packet.keyInfo.keyDescVer &&
    entry.associated && decide (WpaState.asInitPsk.toNat ≤ entry.wpaState.toNat)

section Request

/-- A new group nonce and a new group key, under the other of the indices 1 and 2. -/
def renewGroupKey (crypto : KeyCrypto) (random : Bytes 32) (mbss : Mbss) : Mbss :=
  { mbss with
    gNonce := random
    defaultKeyId := if mbss.defaultKeyId = 1 then 2 else 1
    gtk := crypto.wpaDeriveGtk mbss.gmk random mbss.bssid }

/-- The group handshake with one entry of the table, if it takes part in it. -/
def rekeyEntry (crypto : KeyCrypto) (env : HandleEnv) (apidx : Nat) (pAd : WpaAdapter)
    (wcid : Wcid) : Option WpaAdapter :=
  let entry := pAd.content wcid
  if entry.isClient ∧ entry.wpaState = .asPtkInitDone ∧ entry.apidx = apidx then
    (wpaStart2WayGroupHs crypto (env.build wcid)
      (pAd.modify wcid fun entry => { entry with gtkState := .rekeyNegotiating }) wcid).map
        fun started => started.modify wcid WpaEntry.retryGroup
  else some pAd

/-- "REQUEST=1, ERROR=0, update group key". -/
def groupRequest (crypto : KeyCrypto) (env : HandleEnv) (pAd : WpaAdapter) (apidx : Nat) :
    Option WpaAdapter :=
  let mbss := renewGroupKey crypto env.random (pAd.mbssid apidx)
  ((List.finRange maxLenOfMacTable).foldlM (rekeyEntry crypto env apidx)
    (pAd.setMbss apidx mbss)).map fun pAd =>
      wpaInstallSharedKey pAd mbss.groupKeyWepStatus apidx mbss.defaultKeyId true
        (fun i => mbss.gtk.val.getD i 0) lenTkipGtk

/-- The entry as it is before its first handshake. -/
def restartEntry (entry : WpaEntry) : WpaEntry :=
  { entry with
    pairwiseKey := .zero
    associated := true
    wpaState :=
      if entry.authMode = .wpa ∨ entry.authMode = .wpa2 then .asInitPmk
      else if entry.authMode = .wpaPsk ∨ entry.authMode = .wpa2Psk then .asInitPsk
      else entry.wpaState
    gtkState := .rekeyNegotiating
    privacyFilter := .filter8021xWEP
    reTryCounter := 0
    portSecured := false
    rCounter := Bytes.zero 8 }

/-- "REQUEST=1, ERROR= 0, update pairwise key". -/
def pairwiseRequest (crypto : KeyCrypto) (env : HandleEnv) (pAd : WpaAdapter) (wcid : Wcid) :
    Option WpaAdapter :=
  wpaStart4WayHs crypto (env.build wcid) env.random
    ((pAd.modify wcid restartEntry).record (.pairwiseKeyRemoved wcid)) wcid

end Request

def KeyBranch.perform (crypto : KeyCrypto) (env : HandleEnv) (pAd : WpaAdapter) (wcid : Wcid)
    (elem : EapolElem) : KeyBranch → Option WpaAdapter
  | pairMsg1 => peerPairMsg1Action crypto env pAd wcid elem
  | pairMsg3 => peerPairMsg3Action crypto env pAd wcid elem
  | groupMsg1 => peerGroupMsg1Action crypto env pAd wcid elem
  | counterMeasure => some (pAd.record (.counterMeasure wcid))
  | pairMsg2 => peerPairMsg2Action crypto env pAd wcid elem
  | pairMsg4 => peerPairMsg4Action crypto env pAd wcid elem
  | groupMsg2 => peerGroupMsg2Action crypto env pAd wcid elem
  | groupRequest => Wpa.groupRequest crypto env pAd (pAd.content wcid).apidx
  | pairwiseRequest => Wpa.pairwiseRequest crypto env pAd wcid
  | ignored => some pAd

def wpaEapolKeyAction (crypto : KeyCrypto) (env : HandleEnv) (pAd : WpaAdapter) (elem : EapolElem) :
    Option WpaAdapter :=
  match pAd.macTableLookup elem.addr2 with
  | none => some pAd
  | some wcid =>
    if admits (pAd.content wcid) elem then
      elem.packet.branch.perform crypto env pAd wcid elem
    else some pAd

section Retry

/-- An entry that is in use no more. -/
def WpaEntry.cleared : WpaEntry where
  entryType := .none
  addr := fun _ => 0
  apidx := 0
  authMode := .open
  wepStatus := .wepEnabled
  associated := false
  wpaState := .asNotUse
  gtkState := .rekeyNegotiating
  portSecured := false
  privacyFilter := .acceptAll
  rCounter := Bytes.zero 8
  aNonce := Bytes.zero 32
  sNonce := Bytes.zero 32
  ptk := Bytes.zero 64
  pairwiseKey := .zero
  rsnIe := noRsnIe
  pmkidCache := none
  reTryCounter := 0

/-- `MlmeDeAuthAction`, which deletes the entry when there is memory for the frame. -/
def mlmeDeAuthAction (pAd : WpaAdapter) (wcid : Wcid) (memory : Bool) : WpaAdapter :=
  if memory then
    { pAd.setEntry wcid .cleared with
      macTableLookup := Function.update pAd.macTableLookup (pAd.content wcid).addr none }
  else pAd

/-- The modes in which `WPARetryExec` does something. -/
def retriedMode (entry : WpaEntry) : Bool :=
  entry.authMode == .wpa || entry.authMode == .wpaPsk || entry.wpa2

/-- `WPARetryExec`. With `PEER_MSG1_RETRY_TIMER_CTR` 0 message 1 is sent again up to the third
time. -/
def wpaRetryExec (crypto : KeyCrypto) (env : BuildEnv) (random : Bytes 32) (memory : Bool)
    (pAd : WpaAdapter) (wcid : Wcid) : Option WpaAdapter :=
  let tried := pAd.modify wcid fun entry => { entry with reTryCounter := entry.reTryCounter + 1 }
  let entry := tried.content wcid
  if !entry.isClient then some pAd
  else if !retriedMode entry then some tried
  else if groupMsg1RetryTimerCtr + 1 < entry.reTryCounter then
    some (mlmeDeAuthAction tried wcid memory)
  else if groupMsg1RetryTimerCtr < entry.reTryCounter then
    if entry.gtkState = .rekeyNegotiating then wpaStart2WayGroupHs crypto env tried wcid
    else some tried
  else if 3 < entry.reTryCounter then some (mlmeDeAuthAction tried wcid memory)
  else if entry.reTryCounter = 3 then wpaStart4WayHs crypto env random tried wcid
  else if entry.wpaState = .asPtkStart ∨ entry.wpaState = .asInitPsk ∨
      entry.wpaState = .asInitPmk then
    wpaStart4WayHs crypto env random tried wcid
  else some tried

end Retry

end Mt7612u.Wpa
