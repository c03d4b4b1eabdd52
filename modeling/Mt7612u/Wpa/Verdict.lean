import Mt7612u.Wpa.KeyAction

/-! What `PeerWpaMessageSanity` comes to: a frame is rejected and nothing has changed, or it is
accepted and a station may have a new group key. -/

namespace Mt7612u.Wpa
open BlockAck (Wcid)

/-- The group key that parsed key data brings; `none` where the key data is refused. -/
def parsedKey (keyData : KeyData) (groupKeyIndex : Nat) (msgType : MsgType) (bWPA2 : Bool) :
    Option (Option GroupKey) :=
  if msgType = .pairMsg2 ∨ msgType = .pairMsg3 ∧ !bWPA2 then some none
  else match groupKeyOf keyData groupKeyIndex bWPA2 with
    | none => none
    | some key => if 3 < key.defaultIdx then none else some (some key)

/-- The group key that a frame brings; `none` where the frame is rejected. -/
def verdict (crypto : KeyCrypto) (env : HandleEnv) (entry : WpaEntry) (packet : EapolPacket)
    (msgType : MsgType) : Option (Option GroupKey) :=
  if !env.keyDataBuffer then none
  else if !replayAccepted msgType packet.replayCounter entry.rCounter then none
  else if !micAccepted crypto entry packet msgType then none
  else if packet.keyDataLen = 0 then some none
  else match keyDataOf crypto env entry packet msgType with
    | none => some none
    | some keyData => parsedKey keyData (groupKeyIndexOf entry packet msgType) msgType entry.wpa2

/-- Only a station takes a group key. -/
def takeKey (pAd : WpaAdapter) : Option GroupKey → WpaAdapter
  | none => pAd
  | some key => if pAd.opMode = .sta then installGroupKey pAd key else pAd

theorem rtmpParseEapolKeyData_eq (pAd : WpaAdapter) (keyData : KeyData) (groupKeyIndex : Nat)
    (msgType : MsgType) (bWPA2 : Bool) :
    rtmpParseEapolKeyData pAd keyData groupKeyIndex msgType bWPA2 =
      match parsedKey keyData groupKeyIndex msgType bWPA2 with
      | none => (false, pAd)
      | some key => (true, takeKey pAd key) := by
  unfold rtmpParseEapolKeyData parsedKey
  by_cases ignored : msgType = .pairMsg2 ∨ msgType = .pairMsg3 ∧ !bWPA2
  · rw [if_pos ignored, if_pos ignored]
    rfl
  · rw [if_neg ignored, if_neg ignored]
    cases groupKeyOf keyData groupKeyIndex bWPA2 with
    | none => rfl
    | some key =>
      dsimp only
      by_cases wide : 3 < key.defaultIdx
      · rw [if_pos wide, if_pos wide]
      · rw [if_neg wide, if_neg wide]
        by_cases station : pAd.opMode = .sta
        · exact (if_pos station).trans (Prod.ext rfl (if_pos station).symm)
        · exact (if_neg station).trans (Prod.ext rfl (if_neg station).symm)

theorem peerWpaMessageSanity_eq (crypto : KeyCrypto) (env : HandleEnv) (pAd : WpaAdapter)
    (wcid : Wcid) (packet : EapolPacket) (msgType : MsgType) :
    peerWpaMessageSanity crypto env pAd wcid packet msgType =
      match verdict crypto env (pAd.content wcid) packet msgType with
      | none => (false, pAd)
      | some key => (true, (takeKey pAd key).record (.accepted wcid msgType packet)) := by
  unfold peerWpaMessageSanity verdict
  dsimp only
  split_ifs with memory replayed forged empty
  · rfl
  · rfl
  · rfl
  · rfl
  · cases keyDataOf crypto env (pAd.content wcid) packet msgType with
    | none => rfl
    | some keyData =>
      dsimp only
      rw [rtmpParseEapolKeyData_eq]
      cases parsedKey keyData (groupKeyIndexOf (pAd.content wcid) packet msgType) msgType
        (pAd.content wcid).wpa2 with
      | none => rfl
      | some key => rfl

section Accepted

variable {crypto : KeyCrypto} {env : HandleEnv} {entry : WpaEntry} {packet : EapolPacket}
  {msgType : MsgType} {key : Option GroupKey}

/-- What a frame has passed that is not rejected. -/
theorem verdict_eq_some (accepted : verdict crypto env entry packet msgType = some key) :
    env.keyDataBuffer = true ∧ replayAccepted msgType packet.replayCounter entry.rCounter = true ∧
      micAccepted crypto entry packet msgType = true := by
  unfold verdict at accepted
  split_ifs at accepted with memory replayed forged
  all_goals
    rw [Bool.not_eq_true', Bool.not_eq_false] at memory replayed forged
    exact ⟨memory, replayed, forged⟩

/-- Only two messages bring a group key. -/
theorem gtkIncluded_of_verdict {brought : GroupKey}
    (accepted : verdict crypto env entry packet msgType = some (some brought)) :
    gtkIncluded entry msgType = true := by
  unfold verdict at accepted
  split_ifs at accepted with memory replayed forged empty
  · cases accepted
  · revert accepted
    unfold keyDataOf gtkIncluded parsedKey
    cases msgType <;> cases entry.wpa2 <;> simp

/-- A message that brings no group key is accepted or rejected, and that is all. -/
theorem verdict_of_not_gtkIncluded (without : gtkIncluded entry msgType = false)
    (accepted : verdict crypto env entry packet msgType = some key) : key = none := by
  cases key with
  | none => rfl
  | some brought =>
    rw [gtkIncluded_of_verdict accepted] at without
    cases without

end Accepted

section Install

/-- The key that is handed to the chip. -/
def installedSharedKey (pAd : WpaAdapter) (groupCipher : Receive.WepStatus) (bssIdx : Nat)
    (bAE : Bool) (gtk : Receive.Memory) (gtkLen : Nat) : Option CipherKey :=
  if pAd.maxMbssidNum ≤ bssIdx then none
  else (groupCipherAlg groupCipher).bind fun cipherAlg =>
    sharedKeyOf groupCipher cipherAlg bAE gtk gtkLen

/-- An installation changes the slot and the log, and nothing else. -/
theorem wpaInstallSharedKey_eq (pAd : WpaAdapter) (groupCipher : Receive.WepStatus)
    (bssIdx keyIdx : Nat) (bAE : Bool) (gtk : Receive.Memory) (gtkLen : Nat) :
    wpaInstallSharedKey pAd groupCipher bssIdx keyIdx bAE gtk gtkLen =
      { pAd with
        sharedKey := (wpaInstallSharedKey pAd groupCipher bssIdx keyIdx bAE gtk gtkLen).sharedKey
        log := pAd.log ++ (installedSharedKey pAd groupCipher bssIdx bAE gtk gtkLen).toList.map
          (.sharedKey bssIdx keyIdx) } := by
  unfold wpaInstallSharedKey installedSharedKey
  by_cases wide : pAd.maxMbssidNum ≤ bssIdx
  · rw [if_pos wide, if_pos wide, Option.toList_none, List.map_nil, List.append_nil]
  · rw [if_neg wide, if_neg wide]
    cases groupCipherAlg groupCipher with
    | none => rw [Option.bind_none, Option.toList_none, List.map_nil, List.append_nil]; rfl
    | some cipherAlg =>
      rw [Option.bind_some]
      dsimp only
      cases sharedKeyOf groupCipher cipherAlg bAE gtk gtkLen with
      | none => rw [Option.toList_none, List.map_nil, List.append_nil]; rfl
      | some key => rfl

variable (pAd : WpaAdapter) (key : Option GroupKey)

/-- The key of a station that the group key of a frame becomes. -/
def takenKey : Option GroupKey → Option CipherKey
  | none => none
  | some key =>
    if pAd.opMode = .sta then
      installedSharedKey pAd pAd.staCfg.groupCipher 0 false
        (pAd.staCfg.gtk.write 0 (key.gtk.bytes 0 key.gtkLen.toNat)) key.gtkLen.toNat
    else none

/-- The slots that a group key may go to. -/
def keyIdxOf : Option GroupKey → Nat
  | none => 0
  | some key => key.defaultIdx

theorem takeKey_eq :
    takeKey pAd key =
      { pAd with
        staCfg := { pAd.staCfg with
          gtk := (takeKey pAd key).staCfg.gtk
          defaultKeyId := (takeKey pAd key).staCfg.defaultKeyId }
        sharedKey := (takeKey pAd key).sharedKey
        log := pAd.log ++ (takenKey pAd key).toList.map (.sharedKey 0 (keyIdxOf key)) } := by
  cases key with
  | none => exact congrArg (fun log => { pAd with log := log }) (List.append_nil pAd.log).symm
  | some key =>
    unfold takeKey takenKey
    by_cases station : pAd.opMode = .sta
    · dsimp only
      rw [if_pos station, if_pos station]
      unfold installGroupKey
      dsimp only
      rw [wpaInstallSharedKey_eq]
      rfl
    · dsimp only
      rw [if_neg station, if_neg station]
      exact congrArg (fun log => { pAd with log := log }) (List.append_nil pAd.log).symm

@[simp] theorem takeKey_content : (takeKey pAd key).content = pAd.content := by rw [takeKey_eq]
@[simp] theorem takeKey_opMode : (takeKey pAd key).opMode = pAd.opMode := by rw [takeKey_eq]
@[simp] theorem takeKey_mbssid : (takeKey pAd key).mbssid = pAd.mbssid := by rw [takeKey_eq]
@[simp] theorem takeKey_lookup : (takeKey pAd key).macTableLookup = pAd.macTableLookup := by
  rw [takeKey_eq]

theorem takeKey_log : (takeKey pAd key).log =
    pAd.log ++ (takenKey pAd key).toList.map (.sharedKey 0 (keyIdxOf key)) := by
  rw [takeKey_eq]

end Install

end Mt7612u.Wpa
