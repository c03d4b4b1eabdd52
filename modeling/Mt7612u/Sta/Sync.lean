import Mt7612u.Channel.BuildList
import Mt7612u.Sta.Auth

/-! The synchronization machine of the station, `sync.c` with `ScanNextChannel` of `scan.c`: scanning,
joining and starting a network, with the two timers and the messages that are queued for it. In every
run each request has one confirmation, and a state that waits for one is left in the end. -/

namespace Mt7612u.Sta
open Library.Requests Library.Run
open Channel.BuildList (Channels)

inductive SyncState where
  | syncIdle
  | joinWaitBeacon
  | scanListen
  | scanPending
  deriving DecidableEq, Repr

/-- The messages that are answered: `MT2_SCAN_CONF`, `MT2_JOIN_CONF` and `MT2_START_CONF`. -/
inductive SyncKind where
  | scan
  | join
  | start
  deriving DecidableEq, Repr

def bssAdhoc : BitVec 8 := 0
def bssInfra : BitVec 8 := 1
def bssAny : BitVec 8 := 2

def scanActiveType : BitVec 8 := 0
def scanCiscoActive : BitVec 8 := 1
def fastScanActive : BitVec 8 := 2
def scan2040BssCoexist : BitVec 8 := 4
def scanActiveMax : BitVec 8 := 5
def scanPassive : BitVec 8 := 0x80
def scanCiscoPassive : BitVec 8 := 0x81
def scanCiscoNoise : BitVec 8 := 0x82
def scanCiscoChannelLoad : BitVec 8 := 0x83
def scanPassiveMax : BitVec 8 := 0x84

/-- `SCAN_MODE_ACT`. -/
def scanModeAct (scanType : BitVec 8) : Bool := scanType &&& 0x80 == 0

/-- `SCAN_MODE_VALID`. -/
def scanModeValid (scanType : BitVec 8) : Bool :=
  scanModeAct scanType && decide (scanType < scanActiveMax) ||
    scanType &&& 0x80 == 0x80 && decide (scanType < scanPassiveMax)

def ciscoScan (scanType : BitVec 8) : Bool :=
  scanType == scanCiscoActive || scanType == scanCiscoPassive || scanType == scanCiscoNoise ||
    scanType == scanCiscoChannelLoad

/-- `MLME_SCAN_REQ_STRUCT`, as far as the machine reads it. -/
structure ScanReq where
  bssType : BitVec 8
  scanType : BitVec 8

def mlmeScanReqSanity (info : ScanReq) : Bool :=
  (info.bssType == bssInfra || info.bssType == bssAdhoc || info.bssType == bssAny) &&
    scanModeValid info.scanType

/-- What `PeerBeaconAndProbeRspSanity` finds in a beacon, as far as joining depends on it. -/
structure JoinBeacon where
  bssid : Address
  bssType : BitVec 8
  /-- `SupRateLen + ExtRateLen`. -/
  rates : Nat
  channel : Nat
  capabilityInfo : BitVec 16

/-- An element of `SsidBssTab`. -/
structure JoinBss where
  bssid : Address
  channel : Nat

/-- An element of the queue with the type of its message. `asked` says whether the sender of a scan
request waits for its confirmation. -/
inductive SyncElem where
  | mlmeScanReq (info : ScanReq) (asked : Bool)
  | mlmeForceScanReq (info : ScanReq)
  | mlmeJoinReq (bssIdx : Nat)
  | mlmeForceJoinReq
  | mlmeStartReq (ssidLen : Nat)
  | peerBeacon (ieList : Option JoinBeacon)
  | peerProbeRsp
  | peerProbeReq
  | scanTimeout
  | beaconTimeout

/-- What the machine reads and others write. -/
structure SyncConfig where
  channels : Channels
  bIEEE80211H : Bool
  bFastConnect : Bool
  /-- `CommonCfg.Channel`. -/
  commonChannel : Nat
  connectinfoChannel : Nat
  connectinfoBssType : BitVec 8
  connectinfoBssid : Address
  ssidBssTab : Nat → JoinBss
  /-- `WMODE_EQUAL(PhyMode, WMODE_G)`. -/
  onlyG : Bool
  /-- `MlmeAux.SsidLen`. -/
  ssidLen : Nat
  /-- `BssSsidTableSearch` finds the network in `ScanTab`. -/
  inScanTab : JoinBeacon → Bool
  /-- `WPA_SUPPLICANT_ENABLE_WPS`. -/
  enableWps : Bool
  /-- `WepStatus != Ndis802_11WEPDisabled`. -/
  wepOn : Bool

/-- What an action finds: flags of the adapter, which of its allocations succeed, and the address that
`MacAddrRandomBssid` draws. -/
structure SyncResources where
  startUp : Bool
  monitorOn : Bool
  nicNotExist : Bool
  outBuffer : Bool
  ieList : Bool
  varIe : Bool
  randomBssid : Address

/-- The machine with its timers, what it keeps in `MlmeAux` and `StaCfg`, the channels that
`cfg80211` asked for while its scan runs, the queue, and a record of the run: the requests with
their confirmations, the channels visited since the scan began, those it is to visit, and both for
every scan that was confirmed as done. -/
structure SyncMachine where
  currState : SyncState
  scanTimer : Bool
  beaconTimer : Bool
  cfg : SyncConfig
  bssid : Address
  channel : Nat
  scanType : BitVec 8
  bImprovedScan : Bool
  bNotFirstScan : Bool
  scanChannelCnt : BitVec 8
  lastScanChannel : Nat
  opsScan : Option (List Nat)
  queue : List SyncElem
  trace : List (Event SyncKind (BitVec 16))
  visited : List Nat
  planned : List Nat
  scans : List (List Nat × List Nat)

/-- The first entry of `ChannelList` for a channel. -/
def Channels.entry (chans : Channels) (channel : Nat) : Option Nat :=
  (List.range chans.num).find? fun i => channel == (chans.list i).channel

def radarChannelCheck (chans : Channels) (channel : Nat) : Bool :=
  (Channels.entry chans channel).any fun i => (chans.list i).dfsReq

def chanPropertyCheck (chans : Channels) (channel : Nat) (property : BitVec 8) : Bool :=
  (Channels.entry chans channel).any fun i => (chans.list i).flags &&& property == property

def channelPassiveScan : BitVec 8 := 0x02
def channelNoIbss : BitVec 8 := 0x04

namespace SyncMachine

def enter (state : SyncState) (s : SyncMachine) : SyncMachine := { s with currState := state }

/-- A confirmation is queued for the control machine. -/
def confirm (kind : SyncKind) (status : BitVec 16) (s : SyncMachine) : SyncMachine :=
  { s with trace := s.trace ++ [.confirmed kind status] }

def cancelTimers (s : SyncMachine) : SyncMachine := { s with scanTimer := false, beaconTimer := false }

/-- The type of the scan on the channel, which the rules for radars and regions make passive. -/
def scanTypeHere (s : SyncMachine) : BitVec 8 :=
  if decide (14 < s.channel) && s.cfg.bIEEE80211H && radarChannelCheck s.cfg.channels s.channel ||
      chanPropertyCheck s.cfg.channels s.channel channelPassiveScan then scanPassive
  else s.scanType

end SyncMachine

/-- `scan_ch_restore` for the station. -/
def scanChRestore (s : SyncMachine) : SyncMachine :=
  let s := { s with lastScanChannel := s.channel, scanChannelCnt := 0 }
  if s.channel ≠ 0 ∧ s.bImprovedScan = true then s.enter .scanPending
  else
    let s := { s with bImprovedScan := false, scans := s.scans ++ [(s.planned, s.visited)] }
    (s.enter .syncIdle).confirm .scan mlmeSuccess

/-- `CFG80211DRV_OpsScanGetNextChannel`: the channel of eight bits, and the list after it. -/
def opsScanGetNextChannel : List Nat → Nat × List Nat
  | [] => (0, [])
  | channel :: rest => (channel % 256, rest)

/-- The channel that `ScanNextChannel` goes to: the list of `cfg80211` comes first. -/
def scanChannel (s : SyncMachine) : SyncMachine :=
  match s.opsScan with
  | none => s
  | some list =>
      { s with
        channel := (opsScanGetNextChannel list).1
        opsScan := some (opsScanGetNextChannel list).2 }

/-- The last branch of `ScanNextChannel`: the channel is visited. -/
def visitChannel (r : SyncResources) (s : SyncMachine) : SyncMachine :=
  let scanType := s.scanTypeHere
  let s := { s with
    visited := s.visited ++ [s.channel]
    scanChannelCnt := if scanType = fastScanActive then s.scanChannelCnt else s.scanChannelCnt + 1
    scanTimer := true }
  if scanModeAct scanType && !r.outBuffer then
    (s.enter .syncIdle).confirm .scan mlmeFailNoResource
  else s.enter .scanListen

/-- `ScanNextChannel` with `OPMODE_STA`. -/
def scanNextChannel (r : SyncResources) (s : SyncMachine) : SyncMachine :=
  if r.monitorOn then s
  else
    let pending := s.bImprovedScan && decide (7 ≤ s.scanChannelCnt.toNat)
    let s := scanChannel s
    if s.channel = 0 ∨ pending = true then scanChRestore s
    else if r.nicNotExist then (s.enter .syncIdle).confirm .scan mlmeFailNoResource
    else visitChannel r s

/-- The channel that a scan begins with. -/
def SyncMachine.firstScanChannel (s : SyncMachine) : Nat :=
  if s.cfg.bFastConnect = true ∧ s.cfg.commonChannel ≠ 0 ∧ s.bNotFirstScan = false then
    s.cfg.commonChannel
  else s.cfg.channels.firstChannel

/-- The channels that a scan from here has to visit. -/
def SyncMachine.plan (forced : Bool) (s : SyncMachine) : List Nat :=
  match s.opsScan with
  | some list => (list.map (· % 256)).takeWhile (· ≠ 0)
  | none =>
    if s.firstScanChannel = 0 then []
    else if s.cfg.bFastConnect && !s.bNotFirstScan || ciscoScan s.scanType ||
        forced && decide (s.cfg.connectinfoChannel ≠ 0) then [s.firstScanChannel]
    else if s.scanType = scan2040BssCoexist then
      s.cfg.channels.firstChannel :: s.cfg.channels.listed.tail.filter (· ≤ 14)
    else s.cfg.channels.listed

/-- A pending scan goes on where it was suspended. -/
def resumeScan (info : ScanReq) (s : SyncMachine) : SyncMachine :=
  { s.cancelTimers with scanType := info.scanType, channel := s.lastScanChannel }

def beginScan (forced : Bool) (info : ScanReq) (s : SyncMachine) : SyncMachine :=
  let s := { s.cancelTimers with scanType := info.scanType }
  { s with channel := s.firstScanChannel, visited := [], planned := s.plan forced }

/-- What the two scan requests do before `ScanNextChannel`. -/
def scanSetup (forced : Bool) (info : ScanReq) (s : SyncMachine) : SyncMachine :=
  if s.bImprovedScan = true ∧ s.currState = .scanPending then resumeScan info s
  else beginScan forced info s

def mlmeScanReqAction (r : SyncResources) (info : ScanReq) (s : SyncMachine) : SyncMachine :=
  if !r.startUp then s
  else if mlmeScanReqSanity info then scanNextChannel r (scanSetup false info s)
  else (s.enter .syncIdle).confirm .scan mlmeInvalidFormat

def mlmeForceScanReqAction (r : SyncResources) (info : ScanReq) (s : SyncMachine) : SyncMachine :=
  if !r.startUp then s
  else if mlmeScanReqSanity info then
    let s := scanNextChannel r (scanSetup true info s)
    if s.cfg.connectinfoChannel ≠ 0 then { s with channel := 0 } else s
  else (s.enter .syncIdle).confirm .scan mlmeInvalidFormat

def mlmeJoinReqAction (bssIdx : Nat) (s : SyncMachine) : SyncMachine :=
  let bss := s.cfg.ssidBssTab bssIdx
  let s := { s.cancelTimers with bssid := bss.bssid, channel := bss.channel, beaconTimer := true }
  s.enter .joinWaitBeacon

/-- The address is recorded where the probe request is built. -/
def mlmeForceJoinReqAction (r : SyncResources) (s : SyncMachine) : SyncMachine :=
  let known := s.cfg.connectinfoBssType = bssInfra ∧ s.cfg.connectinfoBssid ≠ fun _ => 0
  let s := { s.cancelTimers with
    bssid := if r.outBuffer = true ∧ known then s.cfg.connectinfoBssid else s.bssid
    channel := s.cfg.connectinfoChannel
    beaconTimer := true }
  s.enter .joinWaitBeacon

/-- `MAX_LEN_OF_SSID`. -/
def maxLenOfSsid : Nat := 32

def mlmeStartReqAction (r : SyncResources) (ssidLen : Nat) (s : SyncMachine) : SyncMachine :=
  if !r.varIe then s
  else if decide (ssidLen ≤ maxLenOfSsid) &&
      !chanPropertyCheck s.cfg.channels s.channel channelNoIbss then
    let s := { s.cancelTimers with bssid := r.randomBssid, channel := s.cfg.commonChannel }
    (s.enter .syncIdle).confirm .start mlmeSuccess
  else (s.enter .syncIdle).confirm .start mlmeInvalidFormat

/-- The network has changed its privacy since it was scanned. -/
def JoinBeacon.privacyDiffers (ieList : JoinBeacon) (cfg : SyncConfig) : Bool :=
  cfg.ssidLen != 0 && cfg.inScanTab ieList && !cfg.enableWps &&
    cfg.wepOn != ieList.capabilityInfo.getLsbD 4

def peerBeaconAtJoinAction (r : SyncResources) (ieList : Option JoinBeacon) (s : SyncMachine) :
    SyncMachine :=
  if !r.ieList then s
  else if !r.varIe then s
  else
    match ieList with
    | none => s
    | some ieList =>
      if ieList.bssType = bssAdhoc ∧ s.cfg.onlyG = true ∧ ieList.rates < 12 then s
      else if s.bssid = ieList.bssid then
        let s := { s with beaconTimer := false }
        if ieList.privacyDiffers s.cfg then
          let scan := SyncElem.mlmeScanReq ⟨bssAny, scanActiveType⟩ false
          let s := { s with queue := s.queue ++ [scan] }
          s.enter .syncIdle
        else
          let s := { s with channel := ieList.channel }
          (s.enter .syncIdle).confirm .join mlmeSuccess
      else s

def beaconTimeoutAtJoinAction (s : SyncMachine) : SyncMachine :=
  (s.enter .syncIdle).confirm .join mlmeRejTimeout

/-- Where `ScanTimeoutAction` goes from the channel. -/
def timeoutChannel (s : SyncMachine) : SyncMachine :=
  let s :=
    if s.cfg.bFastConnect = true ∧ s.bNotFirstScan = false then
      { s with channel := 0, bNotFirstScan := true }
    else
      { s with
        channel := s.cfg.channels.nextChannel (s.scanType == scan2040BssCoexist) s.channel }
  if ciscoScan s.scanType then { s with channel := 0 } else s

def scanTimeoutAction (r : SyncResources) (s : SyncMachine) : SyncMachine :=
  scanNextChannel r (timeoutChannel s)

def invalidStateWhenStart (s : SyncMachine) : SyncMachine :=
  (s.enter .syncIdle).confirm .start mlmeStateMachineReject

/-- The actions that `SyncStateMachineInit` sets; the others are `Drop`. Reading a beacon or a probe
request does not change what is kept here. -/
def syncPerformAction (r : SyncResources) (elem : SyncElem) (s : SyncMachine) : SyncMachine :=
  match s.currState, elem with
  | .syncIdle, .mlmeScanReq info _ => mlmeScanReqAction r info s
  | .syncIdle, .mlmeForceScanReq info => mlmeForceScanReqAction r info s
  | .syncIdle, .mlmeJoinReq bssIdx => mlmeJoinReqAction bssIdx s
  | .syncIdle, .mlmeForceJoinReq => mlmeForceJoinReqAction r s
  | .syncIdle, .mlmeStartReq ssidLen => mlmeStartReqAction r ssidLen s
  | .joinWaitBeacon, .mlmeJoinReq bssIdx => mlmeJoinReqAction bssIdx s
  | .joinWaitBeacon, .mlmeStartReq _ => invalidStateWhenStart s
  | .joinWaitBeacon, .peerBeacon ieList => peerBeaconAtJoinAction r ieList s
  | .joinWaitBeacon, .beaconTimeout => beaconTimeoutAtJoinAction s
  | .scanListen, .mlmeJoinReq bssIdx => mlmeJoinReqAction bssIdx s
  | .scanListen, .mlmeStartReq _ => invalidStateWhenStart s
  | .scanListen, .scanTimeout => scanTimeoutAction r s
  | .scanPending, .mlmeScanReq info _ => mlmeScanReqAction r info s
  | _, _ => s

/-- The kind of answer that an element asks for. -/
def SyncElem.kind : SyncElem → Option SyncKind
  | .mlmeScanReq _ true => some .scan
  | .mlmeForceScanReq _ => some .scan
  | .mlmeJoinReq _ => some .join
  | .mlmeForceJoinReq => some .join
  | .mlmeStartReq _ => some .start
  | _ => none

/-- The element leaves the queue; a request counts as taken from here on. -/
def SyncMachine.dequeue (elem : SyncElem) (rest : List SyncElem) (s : SyncMachine) : SyncMachine :=
  { s with
    queue := rest
    trace := s.trace ++ (elem.kind.map Event.taken).toList }

inductive SyncStep where
  /-- `MlmeEnqueue` of a request of another machine, or of a frame. -/
  | enqueue (elem : SyncElem)
  /-- `BeaconTimeout`, when the timer runs; the queue may be full. -/
  | expireBeacon (queued : Bool)
  /-- `ScanTimeout`, when the timer runs; the queue may be full. -/
  | expireScan (queued : Bool) (resources : SyncResources)
  /-- `MlmePeriodicExec` resumes an improved scan. -/
  | resume
  /-- `MlmeHandler` takes the first element. -/
  | perform (resources : SyncResources)
  /-- Others write the configuration, ask for a scan to be cut into pieces or to be the first again,
  and begin or end a scan of `cfg80211`. -/
  | others (cfg : SyncConfig) (bImprovedScan bNotFirstScan : Bool) (opsScan : Option (List Nat))
  /-- `MlmeRestartStateMachine`. -/
  | restart
  /-- `LinkDown`, with `CFG80211DRV_OpsScanInLinkDownAction`. -/
  | linkDown (resources : SyncResources)

def syncStep (s : SyncMachine) : SyncStep → SyncMachine
  | .enqueue elem => { s with queue := s.queue ++ [elem] }
  | .expireBeacon queued =>
      if s.beaconTimer then
        let s := { s with beaconTimer := false }
        if queued then { s with queue := s.queue ++ [.beaconTimeout] } else s
      else s
  | .expireScan queued resources =>
      if s.scanTimer then
        let s := { s with scanTimer := false }
        if queued then { s with queue := s.queue ++ [.scanTimeout] }
        else scanNextChannel resources { s with channel := 0 }
      else s
  | .resume =>
      if s.bImprovedScan = true ∧ s.currState = .scanPending then
        { s with queue := s.queue ++ [.mlmeScanReq ⟨bssAny, scanActiveType⟩ false] }
      else s
  | .perform resources =>
      match s.queue with
      | [] => s
      | elem :: rest => syncPerformAction resources elem (s.dequeue elem rest)
  | .others cfg bImprovedScan bNotFirstScan opsScan =>
      { s with
        cfg := cfg, bImprovedScan := bImprovedScan, bNotFirstScan := bNotFirstScan
        opsScan := opsScan }
  | .restart => s.cancelTimers.enter .syncIdle
  | .linkDown resources =>
      if resources.monitorOn then s
      else
        let s := { s with bImprovedScan := false }
        if s.opsScan.isSome then
          scanNextChannel resources { s with scanTimer := false, channel := 0, opsScan := none }
        else s

/-- The machine as `SyncStateMachineInit` leaves it. -/
def syncStateMachineInit (cfg : SyncConfig) : SyncMachine where
  currState := .syncIdle
  scanTimer := false
  beaconTimer := false
  cfg := cfg
  bssid := fun _ => 0
  channel := 0
  scanType := 0
  bImprovedScan := false
  bNotFirstScan := false
  scanChannelCnt := 0
  lastScanChannel := 0
  opsScan := none
  queue := []
  trace := []
  visited := []
  planned := []
  scans := []

/-- The requests that a state waits to answer. -/
def SyncState.pending : SyncState → List SyncKind
  | .syncIdle => []
  | .joinWaitBeacon => [.join]
  | .scanListen => [.scan]
  | .scanPending => [.scan]

namespace SyncMachine

/-- What brings the machine out of a state: a timer that runs or has run off, or the periodic
execution. -/
structure Timed (s : SyncMachine) : Prop where
  joins : s.currState = .joinWaitBeacon → s.beaconTimer = true ∨ .beaconTimeout ∈ s.queue
  listens : s.currState = .scanListen → s.scanTimer = true ∨ .scanTimeout ∈ s.queue
  suspended : s.currState = .scanPending → s.bImprovedScan = true

/-- Every request that was taken has one confirmation, but for the one that the state waits to
answer. -/
structure AnswersOnce (s : SyncMachine) : Prop where
  answered : unanswered s.trace = some s.currState.pending
  timed : s.Timed

/-- An element comes when the machine can take it: requests while it is idle and the adapter is up,
a scan goes on when it is pending, and nothing ends a wait without a confirmation. -/
def Ready (r : SyncResources) (s : SyncMachine) : SyncElem → Prop
  | .mlmeScanReq info true =>
      s.currState = .syncIdle ∧ r.startUp = true ∧ (mlmeScanReqSanity info = true → r.monitorOn = false)
  | .mlmeScanReq _ false => s.currState ≠ .syncIdle
  | .mlmeForceScanReq info =>
      s.currState = .syncIdle ∧ r.startUp = true ∧ (mlmeScanReqSanity info = true → r.monitorOn = false)
  | .mlmeJoinReq _ => s.currState = .syncIdle
  | .mlmeForceJoinReq => s.currState = .syncIdle
  | .mlmeStartReq _ => s.currState = .syncIdle ∧ r.varIe = true
  | .peerBeacon (some ieList) =>
      s.currState = .joinWaitBeacon → s.bssid = ieList.bssid → ieList.privacyDiffers s.cfg = false
  | .scanTimeout => s.currState = .scanListen → r.monitorOn = false
  | _ => True

/-- The queue has room for the timeouts, a wait is neither reset nor is the pending scan given up,
and the elements come when the machine is ready. -/
def Orderly (s : SyncMachine) : SyncStep → Prop
  | .enqueue _ => True
  | .expireBeacon queued => s.currState = .joinWaitBeacon → queued = true
  | .expireScan queued r =>
      queued = false → s.scanTimer = true → s.currState = .scanListen ∧ r.monitorOn = false
  | .resume => True
  | .perform r => ∀ elem rest, s.queue = elem :: rest → s.Ready r elem
  | .others _ bImprovedScan _ _ => s.currState = .scanPending → bImprovedScan = true
  | .restart => s.currState = .syncIdle
  | .linkDown _ =>
      s.currState ≠ .scanPending ∧ (s.opsScan.isSome = true → s.currState = .scanListen)

section Actions

variable {s : SyncMachine} {r : SyncResources}

@[simp] theorem enter_trace (state : SyncState) : (s.enter state).trace = s.trace := rfl
@[simp] theorem enter_currState (state : SyncState) : (s.enter state).currState = state := rfl
@[simp] theorem confirm_trace (kind : SyncKind) (status : BitVec 16) :
    (s.confirm kind status).trace = s.trace ++ [.confirmed kind status] := rfl
@[simp] theorem confirm_currState (kind : SyncKind) (status : BitVec 16) :
    (s.confirm kind status).currState = s.currState := rfl

theorem timed_of_idle (idle : s.currState = .syncIdle) : s.Timed := by
  constructor <;> rw [idle] <;> nofun

/-- Confirming the one request that waits settles the idle machine. -/
theorem answersOnce_confirm {kind : SyncKind} {status : BitVec 16}
    (waits : unanswered s.trace = some [kind]) :
    ((s.enter .syncIdle).confirm kind status).AnswersOnce where
  answered := by
    rw [confirm_trace, enter_trace, unanswered_append, waits, settleAll_confirmed_self]
    rfl
  timed := timed_of_idle rfl

theorem answersOnce_scanChRestore (waits : unanswered s.trace = some [.scan]) :
    (scanChRestore s).AnswersOnce := by
  unfold scanChRestore
  dsimp only
  split_ifs with suspended
  · exact ⟨waits, nofun, nofun, fun _ => suspended.2⟩
  · exact answersOnce_confirm waits

theorem answersOnce_visitChannel (waits : unanswered s.trace = some [.scan]) :
    (visitChannel r s).AnswersOnce := by
  unfold visitChannel
  dsimp only
  by_cases missing : (scanModeAct s.scanTypeHere && !r.outBuffer) = true
  · rw [if_pos missing]
    exact answersOnce_confirm waits
  · rw [if_neg missing]
    exact ⟨waits, nofun, fun _ => Or.inl rfl, nofun⟩

theorem scanChannel_trace : (scanChannel s).trace = s.trace := by
  unfold scanChannel
  split <;> rfl

/-- Wherever the scan stands, it goes on with its timer set, is suspended or confirmed. -/
theorem answersOnce_scanNextChannel (off : r.monitorOn = false)
    (waits : unanswered s.trace = some [.scan]) : (scanNextChannel r s).AnswersOnce := by
  rw [← scanChannel_trace] at waits
  unfold scanNextChannel
  rw [off, if_neg Bool.false_ne_true]
  dsimp only
  split_ifs
  · exact answersOnce_scanChRestore waits
  · exact answersOnce_confirm waits
  · exact answersOnce_visitChannel waits

theorem scanSetup_trace (forced : Bool) (info : ScanReq) :
    (scanSetup forced info s).trace = s.trace := by
  unfold scanSetup
  split_ifs <;> rfl

theorem timeoutChannel_trace : (timeoutChannel s).trace = s.trace := by
  unfold timeoutChannel
  dsimp only
  split_ifs <;> rfl

/-- A request for a scan that finds the adapter up. -/
theorem answersOnce_mlmeScanReqAction {info : ScanReq} (up : r.startUp = true)
    (off : mlmeScanReqSanity info = true → r.monitorOn = false)
    (waits : unanswered s.trace = some [.scan]) : (mlmeScanReqAction r info s).AnswersOnce := by
  unfold mlmeScanReqAction
  rw [up, Bool.not_true, if_neg Bool.false_ne_true]
  split_ifs with sane
  · exact answersOnce_scanNextChannel (off sane) ((congrArg _ (scanSetup_trace false info)).trans waits)
  · exact answersOnce_confirm waits

theorem answersOnce_mlmeForceScanReqAction {info : ScanReq} (up : r.startUp = true)
    (off : mlmeScanReqSanity info = true → r.monitorOn = false)
    (waits : unanswered s.trace = some [.scan]) : (mlmeForceScanReqAction r info s).AnswersOnce := by
  unfold mlmeForceScanReqAction
  rw [up, Bool.not_true, if_neg Bool.false_ne_true]
  split_ifs with sane
  · have scanned := answersOnce_scanNextChannel (off sane)
      ((congrArg _ (scanSetup_trace true info)).trans waits)
    dsimp only
    split_ifs
    · exact ⟨scanned.answered, scanned.timed.joins, scanned.timed.listens, scanned.timed.suspended⟩
    · exact scanned
  · exact answersOnce_confirm waits

theorem answersOnce_of_suspended (suspended : s.currState = .scanPending)
    (improved : s.bImprovedScan = true) (waits : unanswered s.trace = some [.scan]) :
    s.AnswersOnce where
  answered := by rw [waits, suspended]; rfl
  timed := by
    constructor
    · rw [suspended]
      nofun
    · rw [suspended]
      nofun
    · exact fun _ => improved

/-- The suspended scan goes on, or stays suspended while the adapter is not up or monitors. -/
theorem answersOnce_resumed {info : ScanReq} (suspended : s.currState = .scanPending)
    (once : s.AnswersOnce) : (mlmeScanReqAction r info s).AnswersOnce := by
  have waits : unanswered s.trace = some [.scan] := by rw [once.answered, suspended]; rfl
  have improved := once.timed.suspended suspended
  cases up : r.startUp with
  | false =>
    unfold mlmeScanReqAction
    rw [up, Bool.not_false, if_pos rfl]
    exact once
  | true =>
    cases on : r.monitorOn with
    | false => exact answersOnce_mlmeScanReqAction up (fun _ => on) waits
    | true =>
      unfold mlmeScanReqAction scanNextChannel scanSetup
      rw [up, Bool.not_true, if_neg Bool.false_ne_true, on, if_pos rfl]
      split_ifs with sane goes
      · exact answersOnce_of_suspended suspended improved waits
      · exact absurd ⟨improved, suspended⟩ goes
      · exact answersOnce_confirm waits

theorem answersOnce_peerBeaconAtJoin {ieList : Option JoinBeacon}
    (joining : s.currState = .joinWaitBeacon) (once : s.AnswersOnce)
    (ready : s.Ready r (.peerBeacon ieList)) :
    (peerBeaconAtJoinAction r ieList s).AnswersOnce := by
  have waits : unanswered s.trace = some [.join] := by rw [once.answered, joining]; rfl
  unfold peerBeaconAtJoinAction
  split_ifs
  · exact once
  · exact once
  · cases ieList with
    | none => exact once
    | some ieList =>
      dsimp only
      split_ifs with disqualified own differs
      · exact once
      · have same := ready joining own
        rw [same] at differs
        cases differs
      · exact answersOnce_confirm waits
      · exact once

/-- Taking an element that is no request leaves what is waited for. -/
theorem answersOnce_dequeue {elem : SyncElem} {rest : List SyncElem} (queued : s.queue = elem :: rest)
    (plain : elem.kind = none) (noBeacon : s.currState = .joinWaitBeacon → elem ≠ .beaconTimeout)
    (noScan : s.currState = .scanListen → elem ≠ .scanTimeout) (once : s.AnswersOnce) :
    (s.dequeue elem rest).AnswersOnce := by
  have trace : (s.dequeue elem rest).trace = s.trace := by
    unfold dequeue
    rw [plain]
    exact List.append_nil _
  constructor
  · rw [trace]
    exact once.answered
  · constructor
    · intro state
      have waiting := once.timed.joins state
      rw [queued] at waiting
      exact waiting.imp_right fun member =>
        (List.mem_cons.mp member).resolve_left (noBeacon state).symm
    · intro state
      have waiting := once.timed.listens state
      rw [queued] at waiting
      exact waiting.imp_right fun member =>
        (List.mem_cons.mp member).resolve_left (noScan state).symm
    · exact once.timed.suspended

theorem unanswered_dequeue {elem : SyncElem} {kind : SyncKind} (rest : List SyncElem)
    (request : elem.kind = some kind) (idle : s.currState = .syncIdle) (once : s.AnswersOnce) :
    unanswered (s.dequeue elem rest).trace = some [kind] := by
  unfold dequeue
  rw [request, unanswered_append, once.answered, idle]
  rfl

end Actions

/-- A request that finds the machine idle. -/
theorem answersOnce_request {s : SyncMachine} {r : SyncResources} {elem : SyncElem}
    {kind : SyncKind} (rest : List SyncElem) (request : elem.kind = some kind)
    (ready : s.Ready r elem) (once : s.AnswersOnce) :
    (syncPerformAction r elem (s.dequeue elem rest)).AnswersOnce := by
  have waits := fun idle => unanswered_dequeue rest request idle once
  have state : (s.dequeue elem rest).currState = s.currState := rfl
  unfold syncPerformAction
  rw [state]
  cases elem with
  | mlmeScanReq info asked =>
    cases asked with
    | true =>
      obtain rfl := Option.some.inj request
      rw [ready.1]
      exact answersOnce_mlmeScanReqAction ready.2.1 ready.2.2 (waits ready.1)
    | false => cases request
  | mlmeForceScanReq info =>
    obtain rfl := Option.some.inj request
    rw [ready.1]
    exact answersOnce_mlmeForceScanReqAction ready.2.1 ready.2.2 (waits ready.1)
  | mlmeJoinReq bssIdx =>
    obtain rfl := Option.some.inj request
    rw [show s.currState = .syncIdle from ready]
    exact ⟨waits ready, fun _ => Or.inl rfl, nofun, nofun⟩
  | mlmeForceJoinReq =>
    obtain rfl := Option.some.inj request
    rw [show s.currState = .syncIdle from ready]
    exact ⟨waits ready, fun _ => Or.inl rfl, nofun, nofun⟩
  | mlmeStartReq ssidLen =>
    obtain rfl := Option.some.inj request
    rw [ready.1]
    dsimp only
    unfold mlmeStartReqAction
    rw [ready.2, Bool.not_true, if_neg Bool.false_ne_true]
    split_ifs <;> exact answersOnce_confirm (waits ready.1)
  | peerBeacon ieList => cases request
  | peerProbeRsp => cases request
  | peerProbeReq => cases request
  | scanTimeout => cases request
  | beaconTimeout => cases request

/-- The timeout of the scan, taken while the machine listens. -/
theorem answersOnce_scanTimeout {s : SyncMachine} {r : SyncResources} (rest : List SyncElem)
    (listens : s.currState = .scanListen) (off : r.monitorOn = false) (once : s.AnswersOnce) :
    (scanTimeoutAction r (s.dequeue .scanTimeout rest)).AnswersOnce := by
  apply answersOnce_scanNextChannel off
  rw [timeoutChannel_trace]
  change unanswered (s.trace ++ []) = _
  rw [List.append_nil, once.answered, listens]
  rfl

/-- The element at the head of the queue is handled. -/
theorem answersOnce_perform {s : SyncMachine} {r : SyncResources} {elem : SyncElem}
    {rest : List SyncElem} (queued : s.queue = elem :: rest) (ready : s.Ready r elem)
    (once : s.AnswersOnce) : (syncPerformAction r elem (s.dequeue elem rest)).AnswersOnce := by
  cases request : elem.kind with
  | some kind => exact answersOnce_request rest request ready once
  | none =>
    have kept := answersOnce_dequeue queued request
    have state : (s.dequeue elem rest).currState = s.currState := rfl
    unfold syncPerformAction
    rw [state]
    cases elem with
    | mlmeScanReq info asked =>
      cases asked with
      | true => cases request
      | false =>
        have kept := kept nofun nofun once
        cases at_ : s.currState with
        | syncIdle => exact absurd at_ ready
        | joinWaitBeacon => exact kept
        | scanListen => exact kept
        | scanPending => exact answersOnce_resumed at_ kept
    | mlmeForceScanReq info => cases request
    | mlmeJoinReq bssIdx => cases request
    | mlmeForceJoinReq => cases request
    | mlmeStartReq ssidLen => cases request
    | peerBeacon ieList =>
      have kept := kept nofun nofun once
      cases at_ : s.currState with
      | syncIdle => exact kept
      | joinWaitBeacon => exact answersOnce_peerBeaconAtJoin at_ kept ready
      | scanListen => exact kept
      | scanPending => exact kept
    | peerProbeRsp =>
      cases s.currState <;> exact kept nofun nofun once
    | peerProbeReq =>
      cases s.currState <;> exact kept nofun nofun once
    | scanTimeout =>
      by_cases listens : s.currState = .scanListen
      · rw [listens]
        exact answersOnce_scanTimeout rest listens (ready listens) once
      · have kept := kept nofun (absurd · listens) once
        cases state : s.currState with
        | scanListen => exact absurd state listens
        | _ => exact kept
    | beaconTimeout =>
      by_cases joining : s.currState = .joinWaitBeacon
      · rw [joining]
        apply answersOnce_confirm
        change unanswered (s.trace ++ []) = _
        rw [List.append_nil, once.answered, joining]
        rfl
      · have kept := kept (absurd · joining) nofun once
        cases state : s.currState with
        | joinWaitBeacon => exact absurd state joining
        | _ => exact kept

/-- More elements in the queue take nothing away. -/
theorem answersOnce_append {s : SyncMachine} (elems : List SyncElem) (once : s.AnswersOnce) :
    ({ s with queue := s.queue ++ elems } : SyncMachine).AnswersOnce where
  answered := once.answered
  timed := by
    constructor
    · exact fun state => (once.timed.joins state).imp_right (List.mem_append_left _)
    · exact fun state => (once.timed.listens state).imp_right (List.mem_append_left _)
    · exact once.timed.suspended

/-- One step of the machine. -/
theorem answersOnce_syncStep {s : SyncMachine} {step : SyncStep} (once : s.AnswersOnce)
    (orderly : s.Orderly step) : (syncStep s step).AnswersOnce := by
  have timed := once.timed
  cases step with
  | enqueue elem => exact answersOnce_append [elem] once
  | expireBeacon queued =>
    unfold syncStep
    dsimp only
    split_ifs with runs room
    · refine ⟨once.answered, fun _ => Or.inr List.mem_concat_self, ?_, timed.suspended⟩
      exact fun state => (timed.listens state).imp_right (List.mem_append_left _)
    · refine ⟨once.answered, fun state => ?_, timed.listens, timed.suspended⟩
      exact absurd (orderly state) room
    · exact once
  | expireScan queued r =>
    unfold syncStep
    dsimp only
    split_ifs with runs room
    · refine ⟨once.answered, ?_, fun _ => Or.inr List.mem_concat_self, timed.suspended⟩
      exact fun state => (timed.joins state).imp_right (List.mem_append_left _)
    · obtain ⟨listens, off⟩ := orderly (Bool.not_eq_true _ ▸ room) runs
      apply answersOnce_scanNextChannel off
      change unanswered s.trace = _
      rw [once.answered, listens]
      rfl
    · exact once
  | resume =>
    unfold syncStep
    dsimp only
    split_ifs
    · exact answersOnce_append _ once
    · exact once
  | perform r =>
    unfold syncStep
    cases queued : s.queue with
    | nil => exact once
    | cons elem rest => exact answersOnce_perform queued (orderly elem rest queued) once
  | others cfg bImprovedScan bNotFirstScan opsScan =>
    exact ⟨once.answered, timed.joins, timed.listens, orderly⟩
  | restart =>
    have idle : s.currState = .syncIdle := orderly
    have answered := once.answered
    rw [idle] at answered
    exact ⟨answered, timed_of_idle rfl⟩
  | linkDown r =>
    have notSuspended : s.currState = .scanPending → false = true := fun state =>
      absurd state orderly.1
    unfold syncStep
    dsimp only
    split_ifs with on running
    · exact once
    · apply answersOnce_scanNextChannel (Bool.not_eq_true _ ▸ on)
      change unanswered s.trace = _
      rw [once.answered, orderly.2 running]
      rfl
    · exact ⟨once.answered, timed.joins, timed.listens, notSuspended⟩

end SyncMachine

/-- Two channels, and nothing that would make a scan passive. -/
def twoChannels : SyncConfig where
  channels := ⟨fun i => { Channel.BuildList.cleared with channel := i + 1 }, 2⟩
  bIEEE80211H := false
  bFastConnect := false
  commonChannel := 0
  connectinfoChannel := 0
  connectinfoBssType := bssInfra
  connectinfoBssid _ := 0
  ssidBssTab _ := ⟨fun _ => 0, 1⟩
  onlyG := false
  ssidLen := 0
  inScanTab _ := false
  enableWps := false
  wepOn := false

/-- The adapter is up and has memory. -/
def ready : SyncResources := ⟨true, false, false, true, true, true, fun _ => 0⟩

/-- A scan of the two channels. -/
def twoChannelScan : List SyncStep :=
  [.enqueue (.mlmeScanReq ⟨bssAny, scanActiveType⟩ true), .perform ready, .expireScan true ready,
    .perform ready, .expireScan true ready, .perform ready]

end Mt7612u.Sta
