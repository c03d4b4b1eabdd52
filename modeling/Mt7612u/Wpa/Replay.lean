import Mt7612u.Library.Run
import Mt7612u.Wpa.Steps

/-! The replay counters of the messages that a station accepts, along runs of received frames. -/

namespace Mt7612u.Wpa
open BlockAck (Wcid)
open Library.Run
open Mgmt (MacAddr)

/-- A frame from the peer, with what its handling finds. -/
structure ReceivedFrame where
  env : HandleEnv
  packet : EapolPacket
  msgLen : BitVec 64

/-- A frame that comes from `addr`. -/
def receive (crypto : KeyCrypto) (addr : MacAddr) (pAd : WpaAdapter) (frame : ReceivedFrame) :
    Option WpaAdapter :=
  wpaEapolKeyAction crypto frame.env pAd ⟨addr, frame.packet, frame.msgLen⟩

/-- The message that a frame is handled as. -/
def KeyBranch.msgType : KeyBranch → Option MsgType
  | pairMsg1 => some .pairMsg1
  | pairMsg2 => some .pairMsg2
  | pairMsg3 => some .pairMsg3
  | pairMsg4 => some .pairMsg4
  | groupMsg1 => some .groupMsg1
  | groupMsg2 => some .groupMsg2
  | _ => none

/-- The counter of a message to the supplicant that is accepted from a station. -/
def WpaEvent.acceptedCounter (wcid : Wcid) : WpaEvent → Option Nat
  | accepted peer msgType packet =>
    if peer = wcid ∧ msgType.toSupplicant then some (Counter.value packet.replayCounter) else none
  | _ => none

def acceptedCounters (wcid : Wcid) (log : List WpaEvent) : List Nat :=
  log.filterMap (WpaEvent.acceptedCounter wcid)

/-- What the counters need of a frame: a zero counter opens the association, a message that counts up
does not start again at zero, and the peer does not ask for a new handshake after the first one. -/
structure CountsOn (crypto : KeyCrypto) (wcid : Wcid) (pAd : WpaAdapter) (frame : ReceivedFrame) :
    Prop where
  zero : ∀ msgType, frame.packet.branch.msgType = some msgType → msgType.toSupplicant →
    frame.packet.replayCounter = Bytes.zero 8 →
    micAccepted crypto (pAd.content wcid) frame.packet msgType →
      (pAd.content wcid).rCounter = Bytes.zero 8 ∧ acceptedCounters wcid pAd.log = []
  groupRequest : frame.packet.branch = .groupRequest →
    Counter.value (pAd.content wcid).rCounter + 1 < 2 ^ 64
  pairwiseRequest : frame.packet.branch = .pairwiseRequest →
    (pAd.content wcid).rCounter = Bytes.zero 8

/-- The accepted counters go up, and none of them is above `R_Counter`. -/
structure Counted (addr : MacAddr) (wcid : Wcid) (pAd : WpaAdapter) : Prop where
  station : pAd.opMode = .sta
  found : pAd.macTableLookup addr = some wcid
  increasing : (acceptedCounters wcid pAd.log).Pairwise (· < ·)
  bounded : ∀ counter ∈ acceptedCounters wcid pAd.log,
    counter ≤ Counter.value (pAd.content wcid).rCounter

section Counters

variable {wcid : Wcid}

theorem acceptedCounters_append (log more : List WpaEvent) :
    acceptedCounters wcid (log ++ more) = acceptedCounters wcid log ++ acceptedCounters wcid more :=
  List.filterMap_append

/-- Installed keys and sent messages are no accepted ones. -/
theorem acceptedCounters_eq_nil {events : List WpaEvent}
    (others : ∀ event ∈ events, event.acceptedCounter wcid = none) :
    acceptedCounters wcid events = [] := List.filterMap_eq_nil_iff.mpr others

theorem acceptedCounters_others {log events : List WpaEvent}
    (others : ∀ event ∈ events, event.acceptedCounter wcid = none) :
    acceptedCounters wcid (log ++ events) = acceptedCounters wcid log := by
  rw [acceptedCounters_append, acceptedCounters_eq_nil others, List.append_nil]

theorem acceptedCounters_mapped {α : Type} {log : List WpaEvent} {items : List α}
    {event : α → WpaEvent} (other : ∀ item, (event item).acceptedCounter wcid = none) :
    acceptedCounters wcid (log ++ items.map event) = acceptedCounters wcid log := by
  apply acceptedCounters_others
  intro made among
  obtain ⟨item, _, rfl⟩ := List.mem_map.mp among
  exact other item

theorem acceptedCounters_taken (pAd : WpaAdapter) (key : Option GroupKey) :
    acceptedCounters wcid (takeKey pAd key).log = acceptedCounters wcid pAd.log := by
  rw [takeKey_log]
  exact acceptedCounters_mapped fun _ => rfl

theorem acceptedCounters_accepted (log : List WpaEvent) {msgType : MsgType} (packet : EapolPacket)
    (supplicant : msgType.toSupplicant = true) :
    acceptedCounters wcid (log ++ [.accepted wcid msgType packet]) =
      acceptedCounters wcid log ++ [Counter.value packet.replayCounter] := by
  rw [acceptedCounters_append]
  apply congrArg (acceptedCounters wcid log ++ ·)
  exact List.filterMap_cons_some (if_pos ⟨rfl, supplicant⟩)

end Counters

section Step

variable {crypto : KeyCrypto} {env : HandleEnv} {pAd pAd' : WpaAdapter} {wcid : Wcid}
  {elem : EapolElem}

/-- What a handler does at a station to the counters of the peer. -/
inductive CounterStep (crypto : KeyCrypto) (wcid : Wcid) (packet : EapolPacket) (branch : KeyBranch)
    (pAd pAd' : WpaAdapter) : Prop where
  | accepted (msgType : MsgType) (handled : branch.msgType = some msgType)
      (supplicant : msgType.toSupplicant = true)
      (replay : replayAccepted msgType packet.replayCounter (pAd.content wcid).rCounter = true)
      (mic : micAccepted crypto (pAd.content wcid) packet msgType = true)
      (log : acceptedCounters wcid pAd'.log =
        acceptedCounters wcid pAd.log ++ [Counter.value packet.replayCounter])
      (counter : (pAd'.content wcid).rCounter = packet.replayCounter)
  | kept (log : acceptedCounters wcid pAd'.log = acceptedCounters wcid pAd.log)
      (counter : (pAd'.content wcid).rCounter = (pAd.content wcid).rCounter)
  | countedUp (request : branch = .groupRequest)
      (log : acceptedCounters wcid pAd'.log = acceptedCounters wcid pAd.log)
      (counter : (pAd'.content wcid).rCounter = Counter.addOne (pAd.content wcid).rCounter)
  | restarted (request : branch = .pairwiseRequest)
      (log : acceptedCounters wcid pAd'.log = acceptedCounters wcid pAd.log)
      (counter : (pAd'.content wcid).rCounter = Bytes.zero 8)

theorem peerPairMsg1Action_counters
    (stepped : peerPairMsg1Action crypto env pAd wcid elem = some pAd') :
    CounterStep crypto wcid elem.packet .pairMsg1 pAd pAd' := by
  obtain rfl | ⟨_, accepted, sent, _, rfl⟩ := peerPairMsg1Action_cases stepped
  · exact .kept rfl rfl
  · obtain ⟨_, replay, mic⟩ := verdict_eq_some accepted
    apply CounterStep.accepted .pairMsg1 rfl rfl replay mic
    · rw [WpaAdapter.recordSent_log, acceptedCounters_mapped fun _ => rfl]
      exact acceptedCounters_accepted pAd.log elem.packet rfl
    · rw [WpaAdapter.recordSent_content, WpaAdapter.modify_content]
      rfl

theorem peerPairMsg3Action_counters
    (stepped : peerPairMsg3Action crypto env pAd wcid elem = some pAd') :
    CounterStep crypto wcid elem.packet .pairMsg3 pAd pAd' := by
  obtain rfl | ⟨_, key, accepted, ending⟩ := peerPairMsg3Action_cases stepped
  · exact .kept rfl rfl
  have counted : acceptedCounters wcid ((takeKey pAd key).record
      (.accepted wcid .pairMsg3 elem.packet)).log =
        acceptedCounters wcid pAd.log ++ [Counter.value elem.packet.replayCounter] := by
    rw [WpaAdapter.record_log, acceptedCounters_accepted _ _ rfl, acceptedCounters_taken]
  obtain ⟨_, replay, mic⟩ := verdict_eq_some accepted
  apply CounterStep.accepted .pairMsg3 rfl rfl replay mic
  · obtain rfl | ⟨_, p, _, rfl⟩ := ending
    · exact counted
    · rw [WpaAdapter.record_log, acceptedCounters_others (by simp [WpaEvent.acceptedCounter]),
        finishMsg3_log, acceptedCounters_mapped fun _ => rfl]
      exact counted
  · obtain rfl | ⟨_, p, _, rfl⟩ := ending
    · rw [WpaAdapter.modify_content]
      rfl
    · rw [WpaAdapter.record_content, finishMsg3_content, WpaAdapter.modify_content]
      unfold WpaEntry.finish
      dsimp only
      split_ifs <;> rfl

theorem peerGroupMsg1Action_counters
    (stepped : peerGroupMsg1Action crypto env pAd wcid elem = some pAd') :
    CounterStep crypto wcid elem.packet .groupMsg1 pAd pAd' := by
  obtain rfl | ⟨_, key, accepted, ending⟩ := peerGroupMsg1Action_cases stepped
  · exact .kept rfl rfl
  have counted : acceptedCounters wcid ((takeKey pAd key).record
      (.accepted wcid .groupMsg1 elem.packet)).log =
        acceptedCounters wcid pAd.log ++ [Counter.value elem.packet.replayCounter] := by
    rw [WpaAdapter.record_log, acceptedCounters_accepted _ _ rfl, acceptedCounters_taken]
  obtain ⟨_, replay, mic⟩ := verdict_eq_some accepted
  apply CounterStep.accepted .groupMsg1 rfl rfl replay mic
  · obtain rfl | ⟨p, _, rfl⟩ := ending
    · exact counted
    · rw [WpaAdapter.record_log, acceptedCounters_others (by simp [WpaEvent.acceptedCounter])]
      exact counted
  · obtain rfl | ⟨p, _, rfl⟩ := ending
    · rw [WpaAdapter.modify_content]
      rfl
    · rw [WpaAdapter.record_content, openPort_content, WpaAdapter.modify_content]
      rfl

/-- The messages to the authenticator leave the counter of a station alone. -/
theorem peerPairMsg2Action_counters (station : pAd.opMode = .sta)
    (stepped : peerPairMsg2Action crypto env pAd wcid elem = some pAd') :
    CounterStep crypto wcid elem.packet .pairMsg2 pAd pAd' := by
  obtain rfl | ⟨_, _, rfl | ⟨ap, _⟩⟩ := peerPairMsg2Action_cases stepped
  · exact .kept rfl rfl
  · apply CounterStep.kept
    · rfl
    · rw [WpaAdapter.modify_content]
      rfl
  · rw [station] at ap
    cases ap

theorem peerPairMsg4Action_counters (station : pAd.opMode = .sta)
    (stepped : peerPairMsg4Action crypto env pAd wcid elem = some pAd') :
    CounterStep crypto wcid elem.packet .pairMsg4 pAd pAd' := by
  obtain rfl | ⟨_, _, _, ending⟩ := peerPairMsg4Action_cases stepped
  · exact .kept rfl rfl
  have log : acceptedCounters wcid (wpaInstallPairwiseKey
      (pAd.record (.accepted wcid .pairMsg4 elem.packet)) wcid true).log =
        acceptedCounters wcid pAd.log := by
    rw [wpaInstallPairwiseKey_log, acceptedCounters_mapped fun _ => rfl]
    exact acceptedCounters_others (by simp [WpaEvent.acceptedCounter, MsgType.toSupplicant])
  have counter : ((wpaInstallPairwiseKey (pAd.record (.accepted wcid .pairMsg4 elem.packet)) wcid
      true).content wcid).rCounter = (pAd.content wcid).rCounter := by
    rw [wpaInstallPairwiseKey_content]
    rfl
  obtain ⟨_, rfl⟩ | ⟨version, started, run, rfl⟩ := ending
  · apply CounterStep.kept
    · exact log
    · rw [WpaAdapter.modify_content, WpaAdapter.modify_content]
      exact counter
  · obtain rfl := wpaStart2WayGroupHs_station
      (by rw [wpaInstallPairwiseKey_frame]; exact station)
      (by rw [WpaAdapter.modify_content, wpaInstallPairwiseKey_content]; exact version) run
    apply CounterStep.kept
    · exact log
    · rw [WpaAdapter.modify_content, WpaAdapter.modify_content]
      exact counter

theorem peerGroupMsg2Action_counters
    (stepped : peerGroupMsg2Action crypto env pAd wcid elem = some pAd') :
    CounterStep crypto wcid elem.packet .groupMsg2 pAd pAd' := by
  obtain rfl | ⟨_, rfl⟩ := peerGroupMsg2Action_cases stepped
  · exact .kept rfl rfl
  · apply CounterStep.kept
    · exact acceptedCounters_others (by simp [WpaEvent.acceptedCounter, MsgType.toSupplicant])
    · rw [WpaAdapter.modify_content]
      rfl

theorem groupRequest_counters {apidx : Nat} (packet : EapolPacket)
    (stepped : groupRequest crypto env pAd apidx = some pAd') :
    CounterStep crypto wcid packet .groupRequest pAd pAd' := by
  obtain ⟨rekeyed, rekeys, rfl⟩ := groupRequest_cases stepped
  obtain ⟨events, log, sent⟩ := rekeys.log
  have kept : acceptedCounters wcid (wpaInstallSharedKey rekeyed
      (renewGroupKey crypto env.random (pAd.mbssid apidx)).groupKeyWepStatus apidx
      (renewGroupKey crypto env.random (pAd.mbssid apidx)).defaultKeyId true
      (fun i => (renewGroupKey crypto env.random (pAd.mbssid apidx)).gtk.val.getD i 0)
      lenTkipGtk).log = acceptedCounters wcid pAd.log := by
    rw [wpaInstallSharedKey_eq, acceptedCounters_mapped fun _ => rfl, log]
    apply acceptedCounters_others
    intro event among
    obtain ⟨_, peer, p, rfl⟩ := sent event among
    rfl
  have content : (wpaInstallSharedKey rekeyed
      (renewGroupKey crypto env.random (pAd.mbssid apidx)).groupKeyWepStatus apidx
      (renewGroupKey crypto env.random (pAd.mbssid apidx)).defaultKeyId true
      (fun i => (renewGroupKey crypto env.random (pAd.mbssid apidx)).gtk.val.getD i 0)
      lenTkipGtk).content = rekeyed.content := by rw [wpaInstallSharedKey_eq]
  rcases rekeys.entries wcid with same | negotiated | counted
  · apply CounterStep.kept kept
    rw [content, same]
    rfl
  · apply CounterStep.kept kept
    rw [content, negotiated]
    rfl
  · apply CounterStep.countedUp rfl kept
    rw [content, counted]
    rfl

theorem pairwiseRequest_counters (packet : EapolPacket) (station : pAd.opMode = .sta)
    (stepped : pairwiseRequest crypto env pAd wcid = some pAd') :
    CounterStep crypto wcid packet .pairwiseRequest pAd pAd' := by
  obtain rfl | ⟨ap, _⟩ := wpaStart4WayHs_cases stepped
  · apply CounterStep.restarted rfl
    · exact acceptedCounters_others (by simp [WpaEvent.acceptedCounter])
    · rw [WpaAdapter.record_content, WpaAdapter.modify_content]
      rfl
  · rw [WpaAdapter.record_opMode, WpaAdapter.modify_opMode, station] at ap
    cases ap

/-- A frame does no more than its handler does. -/
theorem receive_counters {addr : MacAddr} {frame : ReceivedFrame} (station : pAd.opMode = .sta)
    (found : pAd.macTableLookup addr = some wcid)
    (stepped : receive crypto addr pAd frame = some pAd') :
    CounterStep crypto wcid frame.packet frame.packet.branch pAd pAd' := by
  unfold receive wpaEapolKeyAction at stepped
  rw [found] at stepped
  dsimp only at stepped
  split_ifs at stepped with admitted
  · revert stepped
    cases frame.packet.branch with
    | pairMsg1 => exact peerPairMsg1Action_counters
    | pairMsg3 => exact peerPairMsg3Action_counters
    | groupMsg1 => exact peerGroupMsg1Action_counters
    | counterMeasure =>
      rintro ⟨⟩
      exact .kept (acceptedCounters_others (by simp [WpaEvent.acceptedCounter])) rfl
    | pairMsg2 => exact peerPairMsg2Action_counters station
    | pairMsg4 => exact peerPairMsg4Action_counters station
    | groupMsg2 => exact peerGroupMsg2Action_counters
    | groupRequest => exact groupRequest_counters frame.packet
    | pairwiseRequest => exact pairwiseRequest_counters frame.packet station
    | ignored =>
      rintro ⟨⟩
      exact .kept rfl rfl
  · obtain rfl := Option.some.inj stepped
    exact .kept rfl rfl

end Step

section Run

variable {crypto : KeyCrypto} {addr : MacAddr} {wcid : Wcid} {pAd pAd' : WpaAdapter}
  {frame : ReceivedFrame}

/-- A message to the supplicant is accepted with a larger counter or with zero. -/
theorem lt_or_zero_of_replayAccepted {msgType : MsgType} {counter rCounter : Bytes 8}
    (supplicant : msgType.toSupplicant = true)
    (accepted : replayAccepted msgType counter rCounter = true) :
    Counter.value rCounter < Counter.value counter ∨ counter = Bytes.zero 8 := by
  unfold replayAccepted at accepted
  rw [if_pos supplicant, Bool.or_eq_true, beq_iff_eq, beq_iff_eq] at accepted
  rcases accepted with larger | zero
  · exact .inl ((rtmpCompareMemory_eq_one (counter.property.trans rCounter.property.symm)).mp larger)
  · have length := counter.property.trans (Bytes.zero 8).property.symm
    exact .inr (Subtype.ext ((rtmpCompareMemory_eq_zero length).mp zero))

/-- A frame keeps the counters in order, and does not lower `R_Counter`. -/
theorem Counted.receive (counted : Counted addr wcid pAd)
    (countsOn : CountsOn crypto wcid pAd frame)
    (stepped : receive crypto addr pAd frame = some pAd') :
    Counted addr wcid pAd' ∧
      Counter.value (pAd.content wcid).rCounter ≤ Counter.value (pAd'.content wcid).rCounter := by
  have config := config_eapolKeyAction stepped
  have station : pAd'.opMode = .sta := (congrArg Config.opMode config).trans counted.station
  have found : pAd'.macTableLookup addr = some wcid :=
    (congrArg (Config.macTableLookup · addr) config).trans counted.found
  -- where nothing is accepted, it is enough that `R_Counter` does not go down
  have raised (log : acceptedCounters wcid pAd'.log = acceptedCounters wcid pAd.log)
      (up : Counter.value (pAd.content wcid).rCounter ≤ Counter.value (pAd'.content wcid).rCounter) :
      Counted addr wcid pAd' ∧
        Counter.value (pAd.content wcid).rCounter ≤
          Counter.value (pAd'.content wcid).rCounter := by
    refine ⟨⟨station, found, log ▸ counted.increasing, ?_⟩, up⟩
    intro counter among
    exact (counted.bounded counter (log ▸ among)).trans up
  cases receive_counters counted.station counted.found stepped with
  | accepted msgType handled supplicant replay mic log counter =>
    have above : (∀ earlier ∈ acceptedCounters wcid pAd.log,
        earlier < Counter.value frame.packet.replayCounter) ∧
        Counter.value (pAd.content wcid).rCounter ≤ Counter.value frame.packet.replayCounter := by
      rcases lt_or_zero_of_replayAccepted supplicant replay with larger | zero
      · exact ⟨fun earlier among => (counted.bounded earlier among).trans_lt larger, larger.le⟩
      · obtain ⟨first, nothing⟩ := countsOn.zero msgType handled supplicant zero mic
        rw [nothing, first, zero]
        exact ⟨by simp, le_rfl⟩
    refine ⟨⟨station, found, ?_, ?_⟩, by rw [counter]; exact above.2⟩
    · rw [log, List.pairwise_append]
      refine ⟨counted.increasing, List.pairwise_singleton _ _, ?_⟩
      intro earlier among last here
      rw [List.mem_singleton.mp here]
      exact above.1 earlier among
    · rw [log, counter]
      intro value among
      rcases List.mem_append.mp among with earlier | here
      · exact (above.1 value earlier).le
      · exact (List.mem_singleton.mp here).le
  | kept log counter => exact raised log (by rw [counter])
  | countedUp request log counter =>
    apply raised log
    rw [counter, Counter.value_addOne_of_lt (countsOn.groupRequest request)]
    exact Nat.le_succ _
  | restarted request log counter =>
    apply raised log
    rw [counter, countsOn.pairwiseRequest request]

/-- In a run of frames that count on, the accepted counters go up from each to the next, and
`R_Counter` goes down nowhere. -/
theorem acceptedCounters_increase (crypto : KeyCrypto) (addr : MacAddr) (wcid : Wcid)
    (pAd mid pAd' : WpaAdapter) (front back : List ReceivedFrame) (station : pAd.opMode = .sta)
    (found : pAd.macTableLookup addr = some wcid) (start : acceptedCounters wcid pAd.log = [])
    (alongFront : ThroughoutOption (receive crypto addr) (CountsOn crypto wcid) pAd front)
    (atMid : runOption (receive crypto addr) pAd front = some mid)
    (alongBack : ThroughoutOption (receive crypto addr) (CountsOn crypto wcid) mid back)
    (atEnd : runOption (receive crypto addr) mid back = some pAd') :
    (acceptedCounters wcid pAd'.log).Pairwise (· < ·) ∧
      Counter.value (mid.content wcid).rCounter ≤ Counter.value (pAd'.content wcid).rCounter := by
  have first : Counted addr wcid pAd := by
    refine ⟨station, found, ?_, ?_⟩
    · rw [start]
      exact List.Pairwise.nil
    · rw [start]
      simp
  have middle : Counted addr wcid mid :=
    runOption_invariant (Counted addr wcid)
      (fun _ _ _ counted countsOn stepped => (counted.receive countsOn stepped).1)
      first front alongFront atMid
  have last := runOption_invariant
    (fun later => Counted addr wcid later ∧
      Counter.value (mid.content wcid).rCounter ≤ Counter.value (later.content wcid).rCounter)
    (fun _ _ _ invariant countsOn stepped =>
      ⟨(invariant.1.receive countsOn stepped).1,
        invariant.2.trans (invariant.1.receive countsOn stepped).2⟩)
    ⟨middle, le_rfl⟩ back alongBack atEnd
  exact ⟨last.1.increasing, last.2⟩

end Run

section Example

/-- Functions that all give zeros. -/
def zeroCrypto : KeyCrypto where
  hmacMd5 _ _ := Bytes.zero 16
  hmacSha1 _ _ := Bytes.zero 20
  aesCmac _ _ := Bytes.zero 16
  aes := ⟨fun _ block => block, fun _ block => block⟩
  wpaDerivePtk _ _ _ _ _ := Bytes.zero 64
  wpaDeriveGtk _ _ _ := Bytes.zero 32

/-- An entry of WPA2 with AES that is ready for its first handshake. -/
def WpaEntry.ready : WpaEntry :=
  { WpaEntry.cleared with
    entryType := .client
    authMode := .wpa2Psk
    wepStatus := .aesEnable
    associated := true
    wpaState := .asInitPsk }

def emptyMbss : Mbss where
  bssid := fun _ => 0
  pmk := Bytes.zero 32
  gmk := Bytes.zero 32
  gNonce := Bytes.zero 32
  gtk := Bytes.zero 32
  groupKeyWepStatus := .aesEnable
  defaultKeyId := 1
  authMode := .wpa2Psk
  rsnIe := (noRsnIe, noRsnIe)

/-- A station whose peer is its AP. -/
def newStation : WpaAdapter where
  opMode := .sta
  closed := false
  currentAddress := fun _ => 0
  staCfg := ⟨Bytes.zero 32, .aesEnable, noRsnIe, Bytes.zero 64, fun _ => 0, 0, false⟩
  bssidNum := 1
  maxMbssidNum := 1
  mbssid _ := emptyMbss
  macTableLookup _ := some Transmit.bssidWcid
  content _ := .ready
  sharedKey _ _ := .zero
  log := []

/-- All allocations fail but those of `KEYDATA` and of the unwrapping. -/
def silentEnv : HandleEnv where
  keyDataBuffer := true
  keyUnwrap _ := true
  arc4Ctx := true
  random := Bytes.zero 32
  build _ := ⟨false, false, fun _ => false, false, fun _ => 0, false, Bytes.zero 6⟩

/-- Message 1 with nothing but a counter. -/
def plainMsg1 (counter : UInt8) : EapolPacket :=
  { initialMsg .ready .aesEnable .pairMsg1 0 with
    replayCounter := Bytes.ofList 8 [0, 0, 0, 0, 0, 0, 0, counter] }

/-- A frame of the fixed length. -/
def ReceivedFrame.plain (packet : EapolPacket) : ReceivedFrame := ⟨silentEnv, packet, 131⟩

/-- A message with a counter that is not zero counts on in any state. -/
theorem plainMsg1_countsOn {counter : UInt8} (pAd : WpaAdapter)
    (branch : (plainMsg1 counter).branch = .pairMsg1)
    (positive : (plainMsg1 counter).replayCounter ≠ Bytes.zero 8) :
    CountsOn zeroCrypto Transmit.bssidWcid pAd (.plain (plainMsg1 counter)) where
  zero _ _ _ zero _ := absurd zero positive
  groupRequest request := by cases branch.symm.trans request
  pairwiseRequest request := by cases branch.symm.trans request

theorem acceptedCounters_increase_plain :
    ∃ mid pAd', runOption (receive zeroCrypto fun _ => 0) newStation [.plain (plainMsg1 5)] =
        some mid ∧
      runOption (receive zeroCrypto fun _ => 0) mid [.plain (plainMsg1 7)] = some pAd' ∧
      (acceptedCounters Transmit.bssidWcid pAd'.log).Pairwise (· < ·) ∧
      Counter.value (mid.content Transmit.bssidWcid).rCounter ≤
        Counter.value (pAd'.content Transmit.bssidWcid).rCounter := by
  have runs : ((runOption (receive zeroCrypto fun _ => 0) newStation
      [.plain (plainMsg1 5)]).bind fun mid =>
        runOption (receive zeroCrypto fun _ => 0) mid [.plain (plainMsg1 7)]).isSome = true := by
    decide +kernel
  obtain ⟨pAd', both⟩ := Option.isSome_iff_exists.mp runs
  obtain ⟨mid, atMid, atEnd⟩ := Option.bind_eq_some_iff.mp both
  refine ⟨mid, pAd', atMid, atEnd, acceptedCounters_increase zeroCrypto (fun _ => 0)
    Transmit.bssidWcid newStation mid pAd' [.plain (plainMsg1 5)] [.plain (plainMsg1 7)]
    rfl rfl rfl ⟨?_, fun _ _ => trivial⟩ atMid ⟨?_, fun _ _ => trivial⟩ atEnd⟩
  · exact plainMsg1_countsOn newStation (by decide) (by decide)
  · exact plainMsg1_countsOn mid (by decide) (by decide)

/-- A message 1 with the counter 0 is accepted after one with the counter 5, and then the first one
once more. -/
theorem zeroCounter_starts_again :
    ∃ pAd', runOption (receive zeroCrypto fun _ => 0) newStation
        ([5, 0, 5].map fun counter => .plain (plainMsg1 counter)) = some pAd' ∧
      acceptedCounters Transmit.bssidWcid pAd'.log = [5, 0, 5] ∧
      ¬ (acceptedCounters Transmit.bssidWcid pAd'.log).Pairwise (· < ·) := by
  have counters : (runOption (receive zeroCrypto fun _ => 0) newStation
      ([5, 0, 5].map fun counter => .plain (plainMsg1 counter))).map
        (fun pAd => acceptedCounters Transmit.bssidWcid pAd.log) = some [5, 0, 5] := by
    decide +kernel
  obtain ⟨pAd', ends, accepted⟩ := Option.map_eq_some_iff.mp counters
  refine ⟨pAd', ends, accepted, ?_⟩
  rw [accepted]
  decide

end Example

end Mt7612u.Wpa
