import Mt7612u.Library.Run
import Mt7612u.Sta.AssocSanity

/-! The control machine of the station, `connect.c`, from a new SSID to the end of the attempt:
it asks SYNC, AUTH and ASSOC one thing at a time, and goes on with their confirmations. -/

namespace Mt7612u.Sta
open Library.Run

/-- `NDIS_802_11_WEP_STATUS`. -/
inductive WepStatus where
  | wepEnabled
  | wepDisabled
  | wepKeyAbsent
  | wepNotSupported
  | tkipEnable
  | encryption2KeyAbsent
  | aesEnable
  | encryption3KeyAbsent
  | tkipAesMix
  | encryption4KeyAbsent
  | groupWep40Enabled
  | groupWep104Enabled
  deriving DecidableEq, Repr

inductive BssType where
  | adhoc
  | infra
  | any
  | monitor
  deriving DecidableEq, Repr

/-- `AUTH_MODE_OPEN` and `AUTH_MODE_KEY`. -/
inductive AuthAlg where
  | open
  | key
  deriving DecidableEq, Repr

structure CipherSuite where
  pairCipher : WepStatus
  pairCipherAux : WepStatus
  groupCipher : WepStatus
  rsnCapability : BitVec 16

structure BssEntry where
  bssid : Address
  bssType : BssType
  channel : UInt8
  ssid : List UInt8
  wpa : CipherSuite
  wpa2 : CipherSuite

structure BssTable where
  bssNr : UInt8
  bssEntry : Nat → BssEntry

/-- What is configured, and stays as it is during an attempt. -/
structure StaCfg where
  bssType : BssType
  authMode : AuthMode
  wepStatus : WepStatus
  /-- `WpaSupplicantUP`. -/
  wpaSupplicantUp : UInt8
  bAutoReconnect : Bool
  /-- `PortSecured` is not `WPA_802_1X_PORT_NOT_SECURED`. -/
  portSecured : Bool
  bConfigChanged : Bool
  /-- `ConnectinfoChannel` is not 0 and `Connectinfoflag` is set. -/
  connectinfo : Bool
  /-- `CountryRegion` is `REGION_33_BG_BAND`. -/
  region33 : Bool
  /-- `fRTMP_ADAPTER_BSS_SCAN_IN_PROGRESS`. -/
  scanInProgress : Bool

def wpaSupplicantDisable : UInt8 := 0
def wpaSupplicantEnableWithWebUi : UInt8 := 2

inductive CntlState where
  | idle
  | waitDisassoc
  | waitJoin
  | waitStart
  | waitAuth
  | waitAuth2
  | waitAssoc
  | waitOidListScan
  | waitScanForConnect
  deriving DecidableEq, Repr

inductive CntlRequest where
  | disassocReq
  | scanReq
  | forceScanReq
  | joinReq (bssIdx : BitVec 64)
  | startReq
  | authReq (alg : AuthAlg)
  | assocReq
  deriving DecidableEq, Repr

inductive CntlConf where
  | disassocConf
  | scanConf
  | joinConf
  | startConf
  | authConf
  | assocConf
  deriving DecidableEq, Repr

/-- The confirmation of each request. -/
def CntlRequest.conf : CntlRequest → CntlConf
  | .disassocReq => .disassocConf
  | .scanReq => .scanConf
  | .forceScanReq => .scanConf
  | .joinReq _ => .joinConf
  | .startReq => .startConf
  | .authReq _ => .authConf
  | .assocReq => .assocConf

/-- What an attempt does with the candidates. -/
inductive CntlEvent where
  /-- `BssEntry[BssIdx]` is read before `BssIdx` is set. -/
  | examined (bssIdx : BitVec 64)
  | joined (bssIdx : BitVec 64) (pairCipher groupCipher : WepStatus)
  /-- The joined IBSS is given up for its channel. -/
  | refused
  | noMoreBss
  deriving DecidableEq, Repr

/-- The machine with what it reads and writes of the adapter, the request that waits for its
confirmation, the number of candidates that the last sort has found, and the events so far. -/
structure CntlMachine where
  currState : CntlState
  outstanding : Option CntlRequest
  /-- `MlmeAux.BssIdx`. -/
  bssIdx : BitVec 64
  ssidBssTab : BssTable
  /-- `MlmeAux.BssType`. -/
  auxBssType : BssType
  /-- `MlmeAux.Alg`. -/
  alg : AuthAlg
  pairCipher : WepStatus
  groupCipher : WepStatus
  rsnCapability : BitVec 16
  bMixCipher : Bool
  infraOn : Bool
  adhocOn : Bool
  /-- `fOP_STATUS_MEDIA_STATE_CONNECTED`. -/
  mediaConnected : Bool
  /-- `CommonCfg.Ssid`. -/
  ssid : List UInt8
  /-- `CommonCfg.Bssid`. -/
  bssid : Address
  bNotFirstScan : Bool
  matched : Nat
  trace : List CntlEvent

/-- A confirmation, with what the other machines and the scan have written by then. -/
structure Confirmation where
  status : BitVec 16
  /-- AUTH has written `MlmeAux.Alg` for this request. -/
  algRecorded : Bool
  /-- `bIEEE80211H` is 1 and `RadarChannelCheck` holds of the channel. -/
  radarChannel : Bool
  /-- `IndicateMediaState` is `NdisMediaStateConnected`. -/
  indicateConnected : Bool
  /-- `SsidBssTab` as `BssTableSsidSort` fills it from the scan. -/
  sorted : BssTable

namespace CntlMachine

def enter (state : CntlState) (s : CntlMachine) : CntlMachine := { s with currState := state }

/-- `MlmeEnqueue` of a request, and the state that waits for its confirmation. -/
def ask (request : CntlRequest) (state : CntlState) (s : CntlMachine) : CntlMachine :=
  { s with outstanding := some request, currState := state }

def note (event : CntlEvent) (s : CntlMachine) : CntlMachine :=
  { s with trace := s.trace ++ [event] }

/-- `BssTableSsidSort` into `SsidBssTab`. -/
def sort (tab : BssTable) (s : CntlMachine) : CntlMachine :=
  { s with ssidBssTab := tab, matched := tab.bssNr.toNat }

/-- `LinkDown`, as far as this machine sees it. -/
def linkDown (s : CntlMachine) : CntlMachine :=
  { s with infraOn := false, adhocOn := false, mediaConnected := false }

/-- `LinkUp`, as far as this machine sees it. -/
def linkUp (bssType : BssType) (s : CntlMachine) : CntlMachine :=
  { s with infraOn := bssType == .infra, adhocOn := bssType == .adhoc, mediaConnected := true }

/-- Both ciphers from the suite of the AP. -/
def takeCiphers (wepStatus : WepStatus) (suite : CipherSuite) (s : CntlMachine) : CntlMachine :=
  { s with
    groupCipher := suite.groupCipher
    pairCipher :=
      if wepStatus = suite.pairCipher then suite.pairCipher
      else if suite.pairCipherAux ≠ .wepDisabled then suite.pairCipherAux
      else .tkipEnable }

end CntlMachine

/-- The part of `IterateOnBssTab` before the `if`. -/
def originalCiphers (cfg : StaCfg) (s : CntlMachine) : CntlMachine :=
  if cfg.wpaSupplicantUp = wpaSupplicantDisable then
    { s with pairCipher := cfg.wepStatus, groupCipher := cfg.wepStatus }
  else { s with pairCipher := cfg.wepStatus }

/-- The ciphers for an AP. -/
def matchCiphers (cfg : StaCfg) (pInBss : BssEntry) (s : CntlMachine) : CntlMachine :=
  let s :=
    if cfg.authMode.isWpa then s.takeCiphers cfg.wepStatus pInBss.wpa
    else if cfg.authMode.isWpa2 then
      { s.takeCiphers cfg.wepStatus pInBss.wpa2 with rsnCapability := pInBss.wpa2.rsnCapability }
    else s
  { s with bMixCipher := s.pairCipher != s.groupCipher }

/-- `MT2_MLME_JOIN_REQ` for `BssEntry[BssIdx]`. -/
def joinBss (s : CntlMachine) : CntlMachine :=
  (s.note (.joined s.bssIdx s.pairCipher s.groupCipher)).ask (.joinReq s.bssIdx) .waitJoin

def iterateOnBssTab (cfg : StaCfg) (s : CntlMachine) : CntlMachine :=
  let s := originalCiphers cfg s
  if cfg.bssType = .adhoc then
    if s.bssIdx.toNat < s.ssidBssTab.bssNr.toNat then joinBss s
    else (s.note .noMoreBss).ask .startReq .waitStart
  else if s.bssIdx.toNat < s.ssidBssTab.bssNr.toNat ∧ cfg.bssType = .infra then
    joinBss (matchCiphers cfg (s.ssidBssTab.bssEntry s.bssIdx.toNat) s)
  else
    ({ s with ssidBssTab := { s.ssidBssTab with bssNr := 0 } }.note .noMoreBss).enter .idle

def mlmeValidateSsid (ssid : List UInt8) : Bool :=
  ssid.length ≤ Mlme.maxLenOfSsid && ssid.all fun octet => 0x20 ≤ octet

/-- The AP the station is associated with is the first candidate. -/
def CntlMachine.connectedToFirst (s : CntlMachine) : Bool :=
  s.infraOn && s.mediaConnected && s.ssid == (s.ssidBssTab.bssEntry 0).ssid &&
    s.bssid == (s.ssidBssTab.bssEntry 0).bssid

/-- No candidate, and a scan may find some. -/
def scansFirst (cfg : StaCfg) (ssid : List UInt8) (s : CntlMachine) : Bool :=
  s.ssidBssTab.bssNr == 0 && cfg.bAutoReconnect &&
    (s.auxBssType == .infra && !cfg.scanInProgress ||
      s.auxBssType == .adhoc && !s.bNotFirstScan) &&
    mlmeValidateSsid ssid

/-- The channel of `BssEntry[BssIdx]` decides on the PHY mode in this region. -/
def examineChannel (cfg : StaCfg) (s : CntlMachine) : CntlMachine :=
  if cfg.region33 then s.note (.examined s.bssIdx) else s

/-- `CntlOidSsidProc` without an association. -/
def connectOrScan (cfg : StaCfg) (ssid : List UInt8) (s : CntlMachine) : CntlMachine :=
  if scansFirst cfg ssid s then
    if cfg.connectinfo then
      { s with bNotFirstScan := true }.ask .forceScanReq .waitScanForConnect
    else { s with bNotFirstScan := true }.ask .scanReq .waitOidListScan
  else iterateOnBssTab cfg { examineChannel cfg s with bssIdx := 0 }

/-- A new SSID; `tab` is what `BssTableSsidSort` finds for it. -/
def cntlOidSsidProc (cfg : StaCfg) (ssid : List UInt8) (tab : BssTable) (s : CntlMachine) :
    CntlMachine :=
  let s := { s with auxBssType := cfg.bssType }.sort tab
  if s.connectedToFirst then
    if (cfg.authMode.isWpa || cfg.authMode.isWpa2) && !cfg.portSecured then
      s.ask .disassocReq .waitDisassoc
    else if cfg.bConfigChanged then s.ask .disassocReq .waitDisassoc
    else s.enter .idle
  else if s.infraOn then s.ask .disassocReq .waitDisassoc
  else connectOrScan cfg ssid (if s.adhocOn then s.linkDown else s)

/-- Failed, try the next BSS. -/
def tryNextBss (cfg : StaCfg) (s : CntlMachine) : CntlMachine :=
  iterateOnBssTab cfg { s with bssIdx := s.bssIdx + 1 }

def cntlWaitDisassocProc (cfg : StaCfg) (s : CntlMachine) : CntlMachine :=
  let s := s.linkDown
  if s.ssidBssTab.bssNr = 0 ∧ cfg.bssType = .adhoc then
    (s.note .noMoreBss).ask .startReq .waitStart
  else tryNextBss cfg s

/-- Shared key and auto switch try the shared key first. -/
def firstAlg (cfg : StaCfg) : AuthAlg :=
  if cfg.authMode = .shared ∨ cfg.authMode = .autoSwitch then .key else .open

def cntlWaitJoinProc (cfg : StaCfg) (conf : Confirmation) (s : CntlMachine) : CntlMachine :=
  if conf.status = mlmeSuccess then
    if s.auxBssType = .adhoc then
      if conf.radarChannel then (s.note .refused).enter .idle
      else (s.linkUp .adhoc).enter .idle
    else s.ask (.authReq (firstAlg cfg)) .waitAuth
  else tryNextBss cfg s

def cntlWaitStartProc (conf : Confirmation) (s : CntlMachine) : CntlMachine :=
  if conf.status = mlmeSuccess then
    if conf.radarChannel then s.enter .idle else (s.linkUp .adhoc).enter .idle
  else s.enter .idle

def cntlWaitAuthProc (cfg : StaCfg) (conf : Confirmation) (s : CntlMachine) : CntlMachine :=
  if conf.status = mlmeSuccess then s.ask .assocReq .waitAssoc
  else s.ask (.authReq (firstAlg cfg)) .waitAuth2

def cntlWaitAuthProc2 (cfg : StaCfg) (conf : Confirmation) (s : CntlMachine) : CntlMachine :=
  if conf.status = mlmeSuccess then s.ask .assocReq .waitAssoc
  else if cfg.authMode = .autoSwitch ∧ s.alg = .key then s.ask (.authReq .open) .waitAuth2
  else tryNextBss cfg (s.enter .idle)

def cntlWaitAssocProc (cfg : StaCfg) (conf : Confirmation) (s : CntlMachine) : CntlMachine :=
  if conf.status = mlmeSuccess then (s.linkUp .infra).enter .idle
  else tryNextBss cfg s

/-- The candidates of the new scan, from the first. -/
def connectAfterScan (cfg : StaCfg) (conf : Confirmation) (s : CntlMachine) : CntlMachine :=
  iterateOnBssTab cfg { s.sort conf.sorted with bssIdx := 0 }

/-- `CNTL_WAIT_OID_LIST_SCAN`. -/
def cntlWaitOidListScan (cfg : StaCfg) (conf : Confirmation) (s : CntlMachine) : CntlMachine :=
  let s := s.enter .idle
  if cfg.bAutoReconnect ∧ conf.indicateConnected = false ∧
      cfg.wpaSupplicantUp ≠ wpaSupplicantEnableWithWebUi then
    connectAfterScan cfg conf s
  else s

/-- `CNTL_WAIT_SCAN_FOR_CONNECT`. -/
def cntlWaitScanForConnect (cfg : StaCfg) (conf : Confirmation) (s : CntlMachine) : CntlMachine :=
  connectAfterScan cfg conf (s.enter .idle)

/-- `MlmeCntlMachinePerformAction` for a confirmation; one that the state does not wait for is
ignored. -/
def cntlPerformAction (cfg : StaCfg) (msgType : CntlConf) (conf : Confirmation) (s : CntlMachine) :
    CntlMachine :=
  match s.currState, msgType with
  | .waitDisassoc, .disassocConf => cntlWaitDisassocProc cfg s
  | .waitJoin, .joinConf => cntlWaitJoinProc cfg conf s
  | .waitStart, .startConf => cntlWaitStartProc conf s
  | .waitAuth, .authConf => cntlWaitAuthProc cfg conf s
  | .waitAuth2, .authConf => cntlWaitAuthProc2 cfg conf s
  | .waitAssoc, .assocConf => cntlWaitAssocProc cfg conf s
  | .waitOidListScan, .scanConf => cntlWaitOidListScan cfg conf s
  | .waitScanForConnect, .scanConf => cntlWaitScanForConnect cfg conf s
  | _, _ => s

/-- What the asked machine writes before it confirms: SYNC the type of the BSS it joins, AUTH the
algorithm, unless it answers before it has come to that. -/
def carriedOut (conf : Confirmation) (s : CntlMachine) : CntlRequest → CntlMachine
  | .joinReq bssIdx => { s with auxBssType := (s.ssidBssTab.bssEntry bssIdx.toNat).bssType }
  | .authReq alg => if conf.algRecorded then { s with alg := alg } else s
  | _ => s

/-- The request that waits is confirmed; a machine that waits for nothing gets no confirmation. -/
def cntlStep (cfg : StaCfg) (s : CntlMachine) (conf : Confirmation) : CntlMachine :=
  match s.outstanding with
  | none => s
  | some request =>
      cntlPerformAction cfg request.conf conf (carriedOut conf { s with outstanding := none } request)

end Mt7612u.Sta
