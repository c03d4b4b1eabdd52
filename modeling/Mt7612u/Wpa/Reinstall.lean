import Mt7612u.Wpa.Replay

/-! Which keys come into the key tables of the chip one after the other. -/

namespace Mt7612u.Wpa
open BlockAck (Wcid)
open Library.Run
open Mgmt (MacAddr)
open Receive (WepStatus)

/-- A place for a key: that of a station, or one of a BSS. -/
inductive KeySlot where
  | pairwise (wcid : Wcid)
  | group (bssIdx keyIdx : Nat)
  deriving DecidableEq

/-- The key that an event puts into a slot. -/
def WpaEvent.keyAt (slot : KeySlot) : WpaEvent → Option CipherKey
  | pairwiseKey wcid key => if slot = .pairwise wcid then some key else none
  | sharedKey bssIdx keyIdx key => if slot = .group bssIdx keyIdx then some key else none
  | _ => none

/-- All keys that were installed in a slot, the last one last. -/
def keysOf (slot : KeySlot) (log : List WpaEvent) : List CipherKey :=
  log.filterMap (WpaEvent.keyAt slot)

/-- No key is installed that is in the slot already. -/
def NeverReinstalled (log : List WpaEvent) : Prop :=
  ∀ slot, (keysOf slot log).IsChain (· ≠ ·)

/-- What a frame asks to install, as it stands in the frame or follows from the PTK. -/
inductive Brings (crypto : KeyCrypto) (wcid : Wcid) (pAd : WpaAdapter) (frame : ReceivedFrame) :
    KeySlot → CipherKey → Prop where
  | message3 {key : CipherKey} (branch : frame.packet.branch = .pairMsg3)
      (replay : replayAccepted .pairMsg3 frame.packet.replayCounter (pAd.content wcid).rCounter)
      (mic : micAccepted crypto (pAd.content wcid) frame.packet .pairMsg3)
      (nonce : (pAd.content wcid).aNonce = frame.packet.keyNonce)
      (made : pairwiseKeyOf (pAd.content wcid).wepStatus (pAd.content wcid).ptk false = some key) :
      Brings crypto wcid pAd frame (.pairwise wcid) key
  | message4 {key : CipherKey} (branch : frame.packet.branch = .pairMsg4)
      (replay : replayAccepted .pairMsg4 frame.packet.replayCounter (pAd.content wcid).rCounter)
      (mic : micAccepted crypto (pAd.content wcid) frame.packet .pairMsg4)
      (made : pairwiseKeyOf (pAd.content wcid).wepStatus (pAd.content wcid).ptk true = some key) :
      Brings crypto wcid pAd frame (.pairwise wcid) key
  | groupKey {key : CipherKey} {msgType : MsgType} {brought : GroupKey}
      (branch : frame.packet.branch.msgType = some msgType)
      (carried : verdict crypto frame.env (pAd.content wcid) frame.packet msgType =
        some (some brought))
      (made : takenKey pAd (some brought) = some key) :
      Brings crypto wcid pAd frame (.group 0 brought.defaultIdx) key
  | request {key : CipherKey} {mbss : Mbss} (branch : frame.packet.branch = .groupRequest)
      (renewed : mbss =
        renewGroupKey crypto frame.env.random (pAd.mbssid (pAd.content wcid).apidx))
      (made : installedSharedKey pAd mbss.groupKeyWepStatus (pAd.content wcid).apidx true
        (fun i => mbss.gtk.val.getD i 0) lenTkipGtk = some key) :
      Brings crypto wcid pAd frame (.group (pAd.content wcid).apidx mbss.defaultKeyId) key

/-- What a frame brings is not what was installed last in its slot. -/
def Renews (crypto : KeyCrypto) (wcid : Wcid) (pAd : WpaAdapter) (frame : ReceivedFrame) : Prop :=
  ∀ slot key, Brings crypto wcid pAd frame slot key → (keysOf slot pAd.log).getLast? ≠ some key

section Keys

variable (slot : KeySlot) (log : List WpaEvent)

theorem keysOf_append (more : List WpaEvent) :
    keysOf slot (log ++ more) = keysOf slot log ++ keysOf slot more := List.filterMap_append

theorem keysOf_others {events : List WpaEvent} (others : ∀ event ∈ events, event.keyAt slot = none) :
    keysOf slot (log ++ events) = keysOf slot log := by
  rw [keysOf_append]
  exact (congrArg (_ ++ ·) (List.filterMap_eq_nil_iff.mpr others)).trans (List.append_nil _)

theorem keysOf_pairwise (wcid : Wcid) (key : Option CipherKey) :
    keysOf slot (log ++ key.toList.map (.pairwiseKey wcid)) =
      keysOf slot log ++ if slot = .pairwise wcid then key.toList else [] := by
  rw [keysOf_append]
  apply congrArg (keysOf slot log ++ ·)
  cases key with
  | none => rw [Option.toList_none, ite_self]; rfl
  | some key =>
    by_cases same : slot = .pairwise wcid
    · rw [if_pos same]
      exact List.filterMap_cons_some (if_pos same)
    · rw [if_neg same]
      exact List.filterMap_cons_none (if_neg same)

theorem keysOf_shared (bssIdx keyIdx : Nat) (key : Option CipherKey) :
    keysOf slot (log ++ key.toList.map (.sharedKey bssIdx keyIdx)) =
      keysOf slot log ++ if slot = .group bssIdx keyIdx then key.toList else [] := by
  rw [keysOf_append]
  apply congrArg (keysOf slot log ++ ·)
  cases key with
  | none => rw [Option.toList_none, ite_self]; rfl
  | some key =>
    by_cases same : slot = .group bssIdx keyIdx
    · rw [if_pos same]
      exact List.filterMap_cons_some (if_pos same)
    · rw [if_neg same]
      exact List.filterMap_cons_none (if_neg same)

end Keys

/-- At most one key comes into a slot, and it was brought. -/
def SlotStep (brings : KeySlot → CipherKey → Prop) (slot : KeySlot) (keys keys' : List CipherKey) :
    Prop :=
  keys' = keys ∨ ∃ key, brings slot key ∧ keys' = keys ++ [key]

theorem SlotStep.one {brings : KeySlot → CipherKey → Prop} {slot place : KeySlot}
    (keys : List CipherKey) {key : Option CipherKey}
    (brought : ∀ made, key = some made → brings place made) :
    SlotStep brings slot keys (keys ++ if slot = place then key.toList else []) := by
  by_cases same : slot = place
  · subst same
    rw [if_pos rfl]
    cases key with
    | none => exact .inl (List.append_nil _)
    | some made => exact .inr ⟨made, brought made rfl, rfl⟩
  · rw [if_neg same]
    exact .inl (List.append_nil _)

def InstallStep (brings : KeySlot → CipherKey → Prop) (log log' : List WpaEvent) : Prop :=
  ∀ slot, SlotStep brings slot (keysOf slot log) (keysOf slot log')

theorem InstallStep.others {brings : KeySlot → CipherKey → Prop} {log events : List WpaEvent}
    (others : ∀ slot, ∀ event ∈ events, event.keyAt slot = none) :
    InstallStep brings log (log ++ events) := by
  intro slot
  exact .inl (keysOf_others slot log (others slot))

/-- A chain stays one if the last key is not the next one. -/
theorem InstallStep.neverReinstalled {brings : KeySlot → CipherKey → Prop}
    {log log' : List WpaEvent} (step : InstallStep brings log log')
    (fresh : ∀ slot key, brings slot key → (keysOf slot log).getLast? ≠ some key)
    (never : NeverReinstalled log) : NeverReinstalled log' := by
  intro slot
  rcases step slot with same | ⟨key, brought, added⟩
  · rw [same]
    exact never slot
  · rw [added, List.isChain_append]
    refine ⟨never slot, .singleton key, ?_⟩
    rintro last isLast _ ⟨⟩ rfl
    exact fresh slot last brought isLast

section Step

variable {crypto : KeyCrypto} {addr : MacAddr} {wcid : Wcid} {pAd pAd' : WpaAdapter}
  {frame : ReceivedFrame}

/-- The frame as its handler gets it. -/
abbrev ReceivedFrame.elem (frame : ReceivedFrame) (addr : MacAddr) : EapolElem :=
  ⟨addr, frame.packet, frame.msgLen⟩

theorem sent_keyAt (slot : KeySlot) (sent : Option EapolPacket) :
    ∀ event ∈ sent.toList.map (WpaEvent.sent wcid), event.keyAt slot = none := by
  intro event among
  obtain ⟨p, _, rfl⟩ := List.mem_map.mp among
  rfl

theorem peerPairMsg1Action_installs
    (stepped : peerPairMsg1Action crypto frame.env pAd wcid (frame.elem addr) = some pAd') :
    InstallStep (Brings crypto wcid pAd frame) pAd.log pAd'.log := by
  obtain rfl | ⟨_, _, sent, _, rfl⟩ := peerPairMsg1Action_cases stepped
  · exact fun slot => .inl rfl
  · intro slot
    rw [WpaAdapter.recordSent_log, keysOf_others slot _ (sent_keyAt slot sent)]
    exact .inl (keysOf_others slot pAd.log (by simp [WpaEvent.keyAt]))

theorem takenKey_brought {key : Option GroupKey} {msgType : MsgType}
    (branch : frame.packet.branch.msgType = some msgType)
    (accepted : verdict crypto frame.env (pAd.content wcid) frame.packet msgType = some key)
    (made : CipherKey) (taken : takenKey pAd key = some made) :
    Brings crypto wcid pAd frame (.group 0 (keyIdxOf key)) made := by
  cases key with
  | none => cases taken
  | some brought => exact .groupKey branch accepted taken

/-- What has been installed when a message with a group key is accepted. -/
theorem keysOf_taken (slot : KeySlot) (key : Option GroupKey) (msgType : MsgType) :
    keysOf slot ((takeKey pAd key).record (.accepted wcid msgType frame.packet)).log =
      keysOf slot pAd.log ++
        if slot = .group 0 (keyIdxOf key) then (takenKey pAd key).toList else [] := by
  rw [WpaAdapter.record_log, keysOf_others slot _ (by simp [WpaEvent.keyAt]), takeKey_log,
    keysOf_shared]

/-- Message 3 brings a group key and the pairwise key, which go to different slots. -/
theorem peerPairMsg3Action_installs (branch : frame.packet.branch = .pairMsg3)
    (stepped : peerPairMsg3Action crypto frame.env pAd wcid (frame.elem addr) = some pAd') :
    InstallStep (Brings crypto wcid pAd frame) pAd.log pAd'.log := by
  obtain rfl | ⟨_, key, accepted, ending⟩ := peerPairMsg3Action_cases stepped
  · exact fun slot => .inl rfl
  have brought := takenKey_brought (by rw [branch]; rfl) accepted
  obtain ⟨_, replay, mic⟩ := verdict_eq_some accepted
  intro slot
  obtain rfl | ⟨nonce, p, _, rfl⟩ := ending
  · rw [WpaAdapter.modify_log, keysOf_taken]
    exact .one _ brought
  · rw [WpaAdapter.record_log, keysOf_others slot _ (by simp [WpaEvent.keyAt]), finishMsg3_log,
      keysOf_pairwise, WpaAdapter.modify_content, WpaAdapter.record_content, takeKey_content,
      WpaAdapter.modify_log, keysOf_taken]
    cases slot with
    | pairwise other =>
      rw [if_neg (c := KeySlot.pairwise other = .group 0 (keyIdxOf key)) (by simp), List.append_nil]
      exact .one _ fun made same => .message3 branch replay mic nonce same
    | group bssIdx keyIdx =>
      rw [if_neg (c := KeySlot.group bssIdx keyIdx = .pairwise wcid) (by simp), List.append_nil]
      exact .one _ brought

theorem peerGroupMsg1Action_installs (branch : frame.packet.branch = .groupMsg1)
    (stepped : peerGroupMsg1Action crypto frame.env pAd wcid (frame.elem addr) = some pAd') :
    InstallStep (Brings crypto wcid pAd frame) pAd.log pAd'.log := by
  obtain rfl | ⟨_, key, accepted, ending⟩ := peerGroupMsg1Action_cases stepped
  · exact fun slot => .inl rfl
  have brought := takenKey_brought (by rw [branch]; rfl) accepted
  intro slot
  obtain rfl | ⟨p, _, rfl⟩ := ending
  · rw [WpaAdapter.modify_log, keysOf_taken]
    exact .one _ brought
  · rw [WpaAdapter.record_log, keysOf_others slot _ (by simp [WpaEvent.keyAt])]
    change SlotStep _ slot _ (keysOf slot ((takeKey pAd key).record _).log)
    rw [keysOf_taken]
    exact .one _ brought

theorem peerPairMsg2Action_installs
    (stepped : peerPairMsg2Action crypto frame.env pAd wcid (frame.elem addr) = some pAd') :
    InstallStep (Brings crypto wcid pAd frame) pAd.log pAd'.log := by
  obtain rfl | ⟨_, _, rfl | ⟨_, _, rfl | ⟨p, _, rfl⟩⟩⟩ := peerPairMsg2Action_cases stepped
  · exact fun slot => .inl rfl
  · exact fun slot => .inl rfl
  · exact .others (by simp [WpaEvent.keyAt])
  · intro slot
    rw [WpaAdapter.record_log, keysOf_others slot _ (by simp [WpaEvent.keyAt])]
    exact .inl (keysOf_others slot pAd.log (by simp [WpaEvent.keyAt]))

theorem wpaStart2WayGroupHs_keys {build : BuildEnv} (slot : KeySlot)
    (stepped : wpaStart2WayGroupHs crypto build pAd wcid = some pAd') :
    keysOf slot pAd'.log = keysOf slot pAd.log := by
  obtain rfl | ⟨_, sent, _, rfl⟩ := wpaStart2WayGroupHs_cases stepped
  · rfl
  · exact keysOf_others slot pAd.log (sent_keyAt slot sent)

theorem peerPairMsg4Action_installs (branch : frame.packet.branch = .pairMsg4)
    (stepped : peerPairMsg4Action crypto frame.env pAd wcid (frame.elem addr) = some pAd') :
    InstallStep (Brings crypto wcid pAd frame) pAd.log pAd'.log := by
  obtain rfl | ⟨_, _, accepted, ending⟩ := peerPairMsg4Action_cases stepped
  · exact fun slot => .inl rfl
  obtain ⟨_, replay, mic⟩ := verdict_eq_some accepted
  intro slot
  have installed : keysOf slot (wpaInstallPairwiseKey
      (pAd.record (.accepted wcid .pairMsg4 (frame.elem addr).packet)) wcid true).log =
        keysOf slot pAd.log ++ if slot = .pairwise wcid then
          (pairwiseKeyOf (pAd.content wcid).wepStatus (pAd.content wcid).ptk true).toList
        else [] := by
    rw [wpaInstallPairwiseKey_log, keysOf_pairwise, WpaAdapter.record_log,
      keysOf_others slot pAd.log (by simp [WpaEvent.keyAt])]
    rfl
  have log : keysOf slot pAd'.log = keysOf slot (wpaInstallPairwiseKey
      (pAd.record (.accepted wcid .pairMsg4 (frame.elem addr).packet)) wcid true).log := by
    obtain ⟨_, rfl⟩ | ⟨_, started, run, rfl⟩ := ending
    · rfl
    · rw [WpaAdapter.modify_log, wpaStart2WayGroupHs_keys slot run]
      rfl
  rw [log, installed]
  exact .one _ fun made same => .message4 branch replay mic same

theorem peerGroupMsg2Action_installs
    (stepped : peerGroupMsg2Action crypto frame.env pAd wcid (frame.elem addr) = some pAd') :
    InstallStep (Brings crypto wcid pAd frame) pAd.log pAd'.log := by
  obtain rfl | ⟨_, rfl⟩ := peerGroupMsg2Action_cases stepped
  · exact fun slot => .inl rfl
  · exact .others (by simp [WpaEvent.keyAt])

theorem groupRequest_installs (branch : frame.packet.branch = .groupRequest)
    (stepped : groupRequest crypto frame.env pAd (pAd.content wcid).apidx = some pAd') :
    InstallStep (Brings crypto wcid pAd frame) pAd.log pAd'.log := by
  obtain ⟨rekeyed, rekeys, rfl⟩ := groupRequest_cases stepped
  obtain ⟨events, log, sent⟩ := rekeys.log
  intro slot
  have quiet : keysOf slot rekeyed.log = keysOf slot pAd.log := by
    rw [log]
    apply keysOf_others slot pAd.log
    intro event among
    obtain ⟨_, peer, p, rfl⟩ := sent event among
    rfl
  rw [wpaInstallSharedKey_eq, keysOf_shared, quiet]
  apply SlotStep.one
  intro made same
  apply Brings.request branch rfl
  rw [← same, rekeys.frame]
  rfl

theorem pairwiseRequest_installs
    (stepped : pairwiseRequest crypto frame.env pAd wcid = some pAd') :
    InstallStep (Brings crypto wcid pAd frame) pAd.log pAd'.log := by
  intro slot
  obtain rfl | ⟨_, _, _, rfl | ⟨p, _, rfl⟩⟩ := wpaStart4WayHs_cases stepped
  · exact .inl (keysOf_others slot pAd.log (by simp [WpaEvent.keyAt]))
  · exact .inl (keysOf_others slot pAd.log (by simp [WpaEvent.keyAt]))
  · rw [WpaAdapter.record_log, keysOf_others slot _ (by simp [WpaEvent.keyAt]),
      WpaAdapter.modify_log, addPmkid_log, WpaAdapter.modify_log]
    exact .inl (keysOf_others slot pAd.log (by simp [WpaEvent.keyAt]))

/-- A frame installs what it brings, and nothing else. -/
theorem receive_installs (found : pAd.macTableLookup addr = some wcid)
    (stepped : receive crypto addr pAd frame = some pAd') :
    InstallStep (Brings crypto wcid pAd frame) pAd.log pAd'.log := by
  unfold receive wpaEapolKeyAction at stepped
  rw [found] at stepped
  dsimp only at stepped
  split_ifs at stepped with admitted
  · cases branch : frame.packet.branch with
    | pairMsg1 =>
      rw [branch] at stepped
      exact peerPairMsg1Action_installs stepped
    | pairMsg3 =>
      rw [branch] at stepped
      exact peerPairMsg3Action_installs branch stepped
    | groupMsg1 =>
      rw [branch] at stepped
      exact peerGroupMsg1Action_installs branch stepped
    | counterMeasure =>
      rw [branch] at stepped
      obtain rfl := Option.some.inj stepped
      exact .others (by simp [WpaEvent.keyAt])
    | pairMsg2 =>
      rw [branch] at stepped
      exact peerPairMsg2Action_installs stepped
    | pairMsg4 =>
      rw [branch] at stepped
      exact peerPairMsg4Action_installs branch stepped
    | groupMsg2 =>
      rw [branch] at stepped
      exact peerGroupMsg2Action_installs stepped
    | groupRequest =>
      rw [branch] at stepped
      exact groupRequest_installs branch stepped
    | pairwiseRequest =>
      rw [branch] at stepped
      exact pairwiseRequest_installs stepped
    | ignored =>
      rw [branch] at stepped
      obtain rfl := Option.some.inj stepped
      exact fun slot => .inl rfl
  · obtain rfl := Option.some.inj stepped
    exact fun slot => .inl rfl

end Step

section Run

end Run

section Example

/-- All allocations succeed. -/
def fullEnv : HandleEnv where
  keyDataBuffer := true
  keyUnwrap _ := true
  arc4Ctx := true
  random := Bytes.zero 32
  build _ := ⟨true, true, fun _ => true, true, fun _ => 0, true, Bytes.zero 6⟩

/-- Message 3 with nothing but a counter. -/
def plainMsg3 (counter : UInt8) : ReceivedFrame where
  env := fullEnv
  packet := { initialMsg .ready .aesEnable .pairMsg3 0 with
    replayCounter := Bytes.ofList 8 [0, 0, 0, 0, 0, 0, 0, counter] }
  msgLen := 131

/-- The pairwise key of a PTK of zeros. -/
def zeroAesKey : CipherKey := { CipherKey.zero with cipherAlg := .aes, keyLen := lenTk }

end Example

end Mt7612u.Wpa
