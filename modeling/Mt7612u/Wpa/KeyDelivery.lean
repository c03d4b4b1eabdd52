import Mt7612u.Wpa.KeyDataPath
import Mt7612u.Wpa.Message
import Mt7612u.Wpa.Replay

/-! The group key on its way: message 3 and group message 1 as `ConstructEapolMsg` builds them, at a
station with the same PTK. -/

namespace Mt7612u.Wpa
open BlockAck (Wcid)
open Receive (Memory WepStatus)

section Message

variable {crypto : KeyCrypto} {build : BuildEnv} {sender : WpaEntry} {groupKeyWepStatus : WepStatus}
  {msgType : MsgType} {args : MsgArgs}

theorem fillNonce_keyData {nonce : Bytes 32} (p : EapolPacket) :
    ∃ q, fillNonce sender msgType (some nonce) p = some q ∧ q.keyData = p.keyData := by
  unfold fillNonce
  by_cases filling : msgType.toNat ≤ MsgType.pairMsg3.toNat ∨
      (!sender.wpa2) = true ∧ msgType = .groupMsg1
  · rw [if_pos filling]
    refine ⟨_, rfl, ?_⟩
    dsimp only
    split_ifs <;> rfl
  · rw [if_neg filling]
    exact ⟨p, rfl, rfl⟩

theorem fillRsc_keyData {rsc : Bytes 6} (p : EapolPacket) :
    ∃ q, fillRsc sender msgType (some rsc) p = some q ∧ q.keyData = p.keyData := by
  unfold fillRsc
  split_ifs
  · exact ⟨_, rfl, rfl⟩
  · exact ⟨p, rfl, rfl⟩

theorem gtkIncluded_iff : gtkIncluded sender msgType = true ↔
    msgType = .pairMsg3 ∧ sender.wpa2 = true ∨ msgType = .groupMsg1 := by
  unfold gtkIncluded
  rw [Bool.or_eq_true, Bool.and_eq_true, beq_iff_eq, beq_iff_eq]

/-- A message with a GTK carries the encrypted key data. -/
theorem constructEapolMsg_gtk (builds : build.Ready) (included : gtkIncluded sender msgType = true)
    {nonce : Bytes 32} {rsc : Bytes 6} (given : args.keyNonce = some nonce)
    (counted : args.txRsc = some rsc) {text : List UInt8}
    (keyed : keyDataText sender groupKeyWepStatus msgType args = some text) :
    ∃ p : EapolPacket, p.keyData = (fun _ => 0) ∧
      p.keyInfo = keyInfoOf sender groupKeyWepStatus msgType args.defaultKeyIdx ∧
      p.replayCounter = sender.rCounter ∧
      constructEapolMsg crypto build sender groupKeyWepStatus msgType args =
        some (calculateMic crypto build sender (p.addKeyData
          ((encryptKeyData crypto build sender (keyDescVerOf sender groupKeyWepStatus) p.keyIv
            text).1.bytes 0 (encryptKeyData crypto build sender
              (keyDescVerOf sender groupKeyWepStatus) p.keyIv text).2))) := by
  obtain ⟨first, nonced, firstData⟩ := @fillNonce_keyData sender msgType nonce
    (initialMsg sender groupKeyWepStatus msgType args.defaultKeyIdx)
  obtain ⟨second, rsced, secondData⟩ := @fillRsc_keyData sender msgType rsc first
  have same := (fillNonce_same nonced).trans (fillRsc_same rsced).1
  have kind := gtkIncluded_iff.mp included
  have others : ¬(msgType = .pairMsg1 ∨ msgType = .pairMsg4 ∨ msgType = .groupMsg2) := by
    rcases kind with ⟨rfl, -⟩ | rfl <;> decide
  have early : msgType ≠ .pairMsg1 := fun early => others (Or.inl early)
  refine ⟨second, secondData.trans firstData, same.keyInfo, same.replayCounter, ?_⟩
  unfold constructEapolMsg constructEapolKeyData
  rw [given, nonced, counted, Option.bind_some, rsced, Option.bind_some, if_neg others,
    builds.keyDataPool, keyed, included, same.keyInfo]
  simp only [Bool.not_true, Bool.false_eq_true, ↓reduceIte, Option.map_some, if_neg early]
  rfl

/-- What a message with a GTK carries, before it is padded. -/
theorem keyDataText_gtk (included : gtkIncluded sender msgType = true) {gtk : Bytes 32}
    (given : args.gtk = some gtk)
    (rsn : args.rsnIe.len = 0 ∨ args.rsnIe.octets.bytes 2 3 = ouiWpa2) :
    ∃ element, RsnElement element ∧
      element.length = (if msgType = .pairMsg3 ∧ args.rsnIe.len ≠ 0 then 2 + args.rsnIe.len.toNat
        else 0) ∧
      keyDataText sender groupKeyWepStatus msgType args = some (element ++
        ((if sender.wpa2 then gtkKdeHeader (gtkLenOf groupKeyWepStatus) args.defaultKeyIdx else []) ++
          gtk.slice 0 (gtkLenOf groupKeyWepStatus))) := by
  refine ⟨if msgType = .pairMsg2 ∨ msgType = .pairMsg3 then rtmpInsertRsnIe args.rsnIe else [],
    ?_, ?_, ?_⟩
  · split_ifs
    · unfold rtmpInsertRsnIe
      split_ifs with none oui
      · exact Or.inl rfl
      · exact Or.inr ⟨_, _, rfl, Memory.length_bytes _ _ _⟩
      · exact absurd (rsn.resolve_left none) oui
    · exact Or.inl rfl
  · rcases gtkIncluded_iff.mp included with ⟨rfl, -⟩ | rfl
    · rw [if_pos (Or.inr rfl)]
      unfold rtmpInsertRsnIe
      by_cases none : args.rsnIe.len = 0
      · rw [if_pos none, if_neg (fun both => both.2 none)]
        rfl
      · rw [if_neg none, if_pos (show MsgType.pairMsg3 = .pairMsg3 ∧ args.rsnIe.len ≠ 0 from
          ⟨rfl, none⟩), List.length_cons, List.length_cons, Memory.length_bytes]
        omega
    · rw [if_neg (by decide), if_neg (fun both => MsgType.noConfusion both.1)]
      rfl
  · unfold keyDataText
    rw [included, given]
    rfl

end Message

section Delivery

/-- The group key is in `StaCfg` with these bytes under this index, and the key in the slot of that
index is made of it. -/
structure Installs (pAd pAd' : WpaAdapter) (gtk : List UInt8) (keyIdx : Nat) : Prop where
  bytes : pAd'.staCfg.gtk.bytes 0 gtk.length = gtk
  defaultKeyId : pAd'.staCfg.defaultKeyId = keyIdx
  sharedKey : ∃ cipherAlg, groupCipherAlg pAd.staCfg.groupCipher = some cipherAlg ∧
    sharedKeyOf pAd.staCfg.groupCipher cipherAlg false pAd'.staCfg.gtk gtk.length =
      some (pAd'.sharedKey 0 keyIdx)

/-- How long the key data of the message is before it is encrypted, with its padding. -/
def keyDataSize (entry : WpaEntry) (groupKeyWepStatus : WepStatus) (msgType : MsgType)
    (rsnIe : RsnIe) : Nat :=
  let length := (if msgType = .pairMsg3 ∧ rsnIe.len ≠ 0 then 2 + rsnIe.len.toNat else 0) +
    (if entry.wpa2 then 8 else 0) + gtkLenOf groupKeyWepStatus
  if keyDescVerOf entry groupKeyWepStatus = keyDescAes then (length + 7) / 8 * 8 else length

theorem length_padded (keyDescVer : BitVec 3) (text : List UInt8) :
    (text ++ padFor keyDescVer text.length).length =
      if keyDescVer = keyDescAes then (text.length + 7) / 8 * 8 else text.length := by
  rw [List.length_append]
  unfold padFor padding
  split_ifs with aes whole
  · rw [List.length_nil]
    omega
  · rw [List.length_cons, List.length_replicate]
    omega
  · rfl

variable {pAd : WpaAdapter} {gtk : List UInt8} {keyIdx : Nat}

theorem wpaInstallSharedKey_staCfg (groupCipher : WepStatus) (bssIdx keyIdx : Nat) (bAE : Bool)
    (mem : Memory) (gtkLen : Nat) :
    (wpaInstallSharedKey pAd groupCipher bssIdx keyIdx bAE mem gtkLen).staCfg = pAd.staCfg := by
  rw [wpaInstallSharedKey_eq]

theorem wpaInstallSharedKey_slot {groupCipher : WepStatus} {bssIdx : Nat} (keyIdx : Nat) (bAE : Bool)
    (mem : Memory) (gtkLen : Nat) (room : bssIdx < pAd.maxMbssidNum) {cipherAlg : CipherAlg}
    (known : groupCipherAlg groupCipher = some cipherAlg) :
    (wpaInstallSharedKey pAd groupCipher bssIdx keyIdx bAE mem gtkLen).sharedKey bssIdx keyIdx =
      (sharedKeyOf groupCipher cipherAlg bAE mem gtkLen).getD
        { CipherKey.zero with cipherAlg := cipherAlg } := by
  unfold wpaInstallSharedKey
  rw [if_neg (by omega), known]
  dsimp only
  cases sharedKeyOf groupCipher cipherAlg bAE mem gtkLen <;>
    simp [WpaAdapter.setSharedKey, WpaAdapter.record]

/-- TKIP and AES take a group key of 16 bytes or more. -/
theorem sharedKeyOf_some {groupCipher : WepStatus}
    (cipher : groupCipher = .tkipEnable ∨ groupCipher = .aesEnable) (cipherAlg : CipherAlg)
    (bAE : Bool) (mem : Memory) {gtkLen : Nat} (enough : 16 ≤ gtkLen) :
    ∃ key, sharedKeyOf groupCipher cipherAlg bAE mem gtkLen = some key ∧ key.keyLen = lenTk := by
  have plain : groupWep groupCipher = false := by
    rcases cipher with rfl | rfl <;> rfl
  unfold sharedKeyOf
  rw [plain, if_neg Bool.false_ne_true, if_neg (by change ¬gtkLen < 16; omega)]
  dsimp only
  split_ifs <;> exact ⟨_, rfl, rfl⟩

section Install

theorem groupCipherAlg_some {groupCipher : WepStatus}
    (cipher : groupCipher = .tkipEnable ∨ groupCipher = .aesEnable) :
    ∃ cipherAlg, groupCipherAlg groupCipher = some cipherAlg := by
  rcases cipher with rfl | rfl <;> exact ⟨_, rfl⟩

variable (room : 0 < pAd.maxMbssidNum)
  (cipher : pAd.staCfg.groupCipher = .tkipEnable ∨ pAd.staCfg.groupCipher = .aesEnable)
include room cipher

/-- A group key with the length of its cipher is installed. -/
theorem installGroupKey_installs (size : gtk.length = 16 ∨ gtk.length = 32) :
    Installs pAd (installGroupKey pAd
      ⟨Memory.write (fun _ => 0) 0 gtk, UInt8.ofNat gtk.length, keyIdx⟩) gtk keyIdx := by
  have count : (UInt8.ofNat gtk.length).toNat = gtk.length := by
    rcases size with size | size <;> rw [size] <;> rfl
  have bytes := Memory.bytes_write (fun _ => 0) 0 gtk
  obtain ⟨cipherAlg, known⟩ := groupCipherAlg_some cipher
  unfold installGroupKey
  dsimp only
  rw [count, bytes]
  constructor
  · rw [wpaInstallSharedKey_staCfg]
    exact Memory.bytes_write _ 0 gtk
  · rw [wpaInstallSharedKey_staCfg]
  · obtain ⟨key, made, -⟩ := sharedKeyOf_some cipher cipherAlg false (pAd.staCfg.gtk.write 0 gtk)
      (show 16 ≤ gtk.length by omega)
    refine ⟨cipherAlg, known, ?_⟩
    rw [wpaInstallSharedKey_staCfg, wpaInstallSharedKey_slot _ _ _ _ ?_ known]
    · dsimp only
      rw [made]
      rfl
    · exact room

/-- Without a group key in the key data none is installed. -/
theorem not_installs_zero (size : gtk.length = 16 ∨ gtk.length = 32) :
    ¬Installs pAd (installGroupKey pAd .zero) gtk keyIdx := by
  rintro ⟨-, index, cipherAlg, known, installed⟩
  obtain ⟨key, made, keyLen⟩ := sharedKeyOf_some cipher cipherAlg false
    (installGroupKey pAd .zero).staCfg.gtk (show 16 ≤ gtk.length by omega)
  rw [made] at installed
  unfold installGroupKey at installed index
  rw [wpaInstallSharedKey_staCfg] at index
  change 0 = keyIdx at index
  subst index
  dsimp only at installed
  have slot := wpaInstallSharedKey_slot 0 false (pAd.staCfg.gtk.write 0
    (GroupKey.zero.gtk.bytes 0 GroupKey.zero.gtkLen.toNat)) GroupKey.zero.gtkLen.toNat
    (show 0 < ({ pAd with staCfg := { pAd.staCfg with
      gtk := pAd.staCfg.gtk.write 0 (GroupKey.zero.gtk.bytes 0 GroupKey.zero.gtkLen.toNat)
      defaultKeyId := GroupKey.zero.defaultIdx } } : WpaAdapter).maxMbssidNum from room) known
  have none : sharedKeyOf pAd.staCfg.groupCipher cipherAlg false (pAd.staCfg.gtk.write 0
      (GroupKey.zero.gtk.bytes 0 GroupKey.zero.gtkLen.toNat)) GroupKey.zero.gtkLen.toNat = none := by
    unfold sharedKeyOf
    rcases cipher with status | status <;> rw [status] <;> rfl
  rw [none] at slot
  have same := (Option.some.inj installed).trans slot
  rw [same] at keyLen
  exact absurd keyLen (show ¬(0 : Nat) = 16 by decide)

end Install

section Found

variable {sender : WpaEntry} {groupKeyWepStatus : WepStatus} {args : MsgArgs}

theorem length_gtk (bytes : Bytes 32) (groupKeyWepStatus : WepStatus) :
    (bytes.slice 0 (gtkLenOf groupKeyWepStatus)).length = gtkLenOf groupKeyWepStatus ∧
      (gtkLenOf groupKeyWepStatus = 16 ∨ gtkLenOf groupKeyWepStatus = 32) := by
  have some : gtkLenOf groupKeyWepStatus = 16 ∨ gtkLenOf groupKeyWepStatus = 32 := by
    unfold gtkLenOf
    split_ifs
    · exact Or.inl rfl
    · exact Or.inr rfl
  refine ⟨?_, some⟩
  unfold Bytes.slice
  rw [List.length_take, List.length_drop, bytes.property]
  omega

/-- The station finds the key if the length of the key data is a byte, and else it finds none. -/
theorem groupKeyOf_delivered {bytes : Bytes 32}
    {element : List UInt8} (rsn : RsnElement element) (small : element.length ≤ 257)
    (keyIdx : args.defaultKeyIdx < 4) {keyDescVer : BitVec 3} {data : List UInt8}
    (padded : data = (element ++
      ((if sender.wpa2 then gtkKdeHeader (gtkLenOf groupKeyWepStatus) args.defaultKeyIdx else []) ++
        bytes.slice 0 (gtkLenOf groupKeyWepStatus))) ++ padFor keyDescVer (element ++
      ((if sender.wpa2 then gtkKdeHeader (gtkLenOf groupKeyWepStatus) args.defaultKeyIdx else []) ++
        bytes.slice 0 (gtkLenOf groupKeyWepStatus))).length)
    (alone : sender.wpa2 = false → element = []) :
    groupKeyOf ⟨Memory.write (fun _ => 0) 0 data, BitVec.ofNat 16 data.length⟩
        (if sender.wpa2 then 0 else args.defaultKeyIdx) sender.wpa2 =
      some (if data.length ≤ 255 then
        ⟨Memory.write (fun _ => 0) 0 (bytes.slice 0 (gtkLenOf groupKeyWepStatus)),
          UInt8.ofNat (bytes.slice 0 (gtkLenOf groupKeyWepStatus)).length, args.defaultKeyIdx⟩
      else .zero) := by
  obtain ⟨gtkLen, size⟩ := length_gtk bytes groupKeyWepStatus
  generalize bytes.slice 0 (gtkLenOf groupKeyWepStatus) = gtk at padded gtkLen ⊢
  rw [← gtkLen] at padded size
  unfold groupKeyOf KeyData.length
  dsimp only
  cases version : sender.wpa2 with
  | true =>
    rw [version, if_pos rfl] at padded
    generalize pads : padFor keyDescVer
      (element ++ (gtkKdeHeader gtk.length args.defaultKeyIdx ++ gtk)).length = pad at padded
    have short : pad.length < 8 := pads ▸ length_padFor _ _
    have zeros : ∀ i, 0 < i → pad.getD i 0 = 0 := fun i behind => pads ▸ padFor_zeros _ _ behind
    have whole : data.length = element.length + (8 + gtk.length) + pad.length := by
      rw [padded, List.length_append, List.length_append, List.length_append]
      rfl
    have toNat : (BitVec.ofNat 16 data.length).toNat = data.length := by
      rw [BitVec.toNat_ofNat, Nat.mod_eq_of_lt (by omega)]
    rw [toNat, if_pos rfl]
    by_cases fits : data.length ≤ 255
    · rw [Nat.mod_eq_of_lt (by omega), if_pos fits, kdeWalk_keyData rsn size zeros padded,
        Nat.mod_eq_of_lt keyIdx]
    · rw [if_neg fits]
      have holds : (Memory.write (fun _ => 0) 0 data).Holds 0 element := by
        have holds := Memory.write_holds (fun _ => 0) 0 data
        generalize Memory.write (fun _ => 0) 0 data = keyData at holds ⊢
        rw [padded, List.append_assoc] at holds
        exact (Memory.holds_append.mp holds).1
      rw [kdeWalk_cut rsn holds (by omega)]
  | false =>
    rw [version, alone version, if_neg Bool.false_ne_true, List.nil_append, List.nil_append] at padded
    have none : padFor keyDescVer gtk.length = [] := by
      unfold padFor padding
      rcases size with size | size <;> rw [size] <;> simp
    rw [none, List.append_nil] at padded
    subst padded
    have toNat : (BitVec.ofNat 16 data.length).toNat = data.length := by
      rw [BitVec.toNat_ofNat, Nat.mod_eq_of_lt (by omega)]
    rw [toNat, Nat.mod_eq_of_lt (by omega), if_neg Bool.false_ne_true, if_neg Bool.false_ne_true,
      if_pos (show data.length ≤ 255 by omega), Memory.bytes_write]

end Found

section Handled

variable {crypto : KeyCrypto} {env : HandleEnv} {packet : EapolPacket} {msgType : MsgType}
  {wcid : Wcid} {keyData : KeyData} {key : GroupKey}

/-- A message that the checks let through, and in whose key data a group key is found. -/
theorem peerWpaMessageSanity_found (handles : env.Ready)
    (replay : replayAccepted msgType packet.replayCounter (pAd.content wcid).rCounter = true)
    (mic : packet.keyMic =
      micOf crypto packet.keyInfo.keyDescVer (pAd.content wcid).kck packet.micText)
    (some : packet.keyDataLen ≠ 0) (included : gtkIncluded (pAd.content wcid) msgType = true)
    (unwrapped : unwrapKeyData crypto env (pAd.content wcid) packet = keyData)
    (found : groupKeyOf keyData (groupKeyIndexOf (pAd.content wcid) packet msgType)
      (pAd.content wcid).wpa2 = .some key) (index : key.defaultIdx < 4) (sta : pAd.opMode = .sta) :
    peerWpaMessageSanity crypto env pAd wcid packet msgType =
      (true, (installGroupKey pAd key).record (.accepted wcid msgType packet)) := by
  have kind := gtkIncluded_iff.mp included
  have accepted : micAccepted crypto (pAd.content wcid) packet msgType = true := by
    unfold micAccepted
    rw [mic, beq_self_eq_true, Bool.or_true]
  have looked : keyDataOf crypto env (pAd.content wcid) packet msgType = .some keyData := by
    unfold keyDataOf
    rw [if_pos kind, unwrapped]
  have parsed : rtmpParseEapolKeyData pAd keyData
      (groupKeyIndexOf (pAd.content wcid) packet msgType) msgType (pAd.content wcid).wpa2 =
        (true, installGroupKey pAd key) := by
    unfold rtmpParseEapolKeyData
    have other : ¬(msgType = .pairMsg2 ∨
        msgType = .pairMsg3 ∧ (!(pAd.content wcid).wpa2) = true) := by
      rcases kind with ⟨rfl, version⟩ | rfl
      · simp [version]
      · simp
    rw [if_neg other, found]
    dsimp only
    rw [if_neg (by omega), if_pos sta]
  unfold peerWpaMessageSanity
  simp only [handles.keyDataBuffer, replay, accepted, looked, parsed, some, Bool.not_true,
    Bool.false_eq_true, ↓reduceIte]

end Handled

section Sent

variable {sender receiver : WpaEntry} {groupKeyWepStatus : WepStatus} {msgType : MsgType}

theorem keyDescVerOf_known (entry : WpaEntry) (groupKeyWepStatus : WepStatus) :
    keyDescVerOf entry groupKeyWepStatus = keyDescAes ∨
      keyDescVerOf entry groupKeyWepStatus = keyDescTkip := by
  unfold keyDescVerOf
  split_ifs
  · exact Or.inl rfl
  · exact Or.inr rfl

theorem calculateMic_eq {crypto : KeyCrypto} {build : BuildEnv} (builds : build.Ready)
    (entry : WpaEntry) (p : EapolPacket) : calculateMic crypto build entry p =
      { p with keyMic := micOf crypto p.keyInfo.keyDescVer entry.kck p.micText } := by
  unfold calculateMic
  rw [builds.micBuffer, if_pos rfl]

/-- A larger counter is accepted in a message to the supplicant. -/
theorem replayAccepted_newer (included : gtkIncluded sender msgType = true) {counter rCounter : Bytes 8}
    (newer : Counter.value rCounter < Counter.value counter) :
    replayAccepted msgType counter rCounter = true := by
  have later : rtmpCompareMemory counter.val rCounter.val = 1 :=
    (rtmpCompareMemory_eq_one (counter.property.trans rCounter.property.symm)).mpr newer
  unfold replayAccepted
  rw [later]
  rcases gtkIncluded_iff.mp included with ⟨rfl, -⟩ | rfl <;> rfl

/-- WPA says the index of the group key in the frame itself. -/
theorem groupKeyIndexOf_sent (included : gtkIncluded sender msgType = true)
    (version : receiver.wpa2 = sender.wpa2) {defaultKeyIdx : Nat} (small : defaultKeyIdx < 4)
    {packet : EapolPacket}
    (info : packet.keyInfo = keyInfoOf sender groupKeyWepStatus msgType defaultKeyIdx) :
    groupKeyIndexOf receiver packet msgType = if sender.wpa2 then 0 else defaultKeyIdx := by
  unfold groupKeyIndexOf
  rw [version, info]
  cases other : sender.wpa2 with
  | true => rfl
  | false =>
    rcases gtkIncluded_iff.mp included with ⟨-, wpa2⟩ | rfl
    · exact absurd (other.symm.trans wpa2) Bool.false_ne_true
    · unfold keyInfoOf
      rw [other]
      change (BitVec.ofNat 2 defaultKeyIdx).toNat = defaultKeyIdx
      rw [BitVec.toNat_ofNat, Nat.mod_eq_of_lt small]

end Sent

/-- A station with the same PTK accepts message 3 of WPA2 and group message 1, and it finds the group
key in it or, if the padded key data is longer than a byte can say, none. -/
theorem groupKey_outcome (crypto : KeyCrypto)
    (inverse : ∀ key block, crypto.aes.decrypt key (crypto.aes.encrypt key block) = block)
    (build : BuildEnv) (builds : build.Ready) (env : HandleEnv) (handles : env.Ready)
    (sender : WpaEntry) (groupKeyWepStatus : WepStatus)
    (args : MsgArgs) (nonce : Bytes 32) (nonced : args.keyNonce = some nonce) (rsc : Bytes 6)
    (counted : args.txRsc = some rsc) (gtk : Bytes 32) (keyed : args.gtk = some gtk)
    (rsn : args.rsnIe.len = 0 ∨ args.rsnIe.octets.bytes 2 3 = ouiWpa2)
    (keyIdx : args.defaultKeyIdx < 4) (msgType : MsgType)
    (included : gtkIncluded sender msgType = true) (pAd : WpaAdapter) (wcid : Wcid)
    (sta : pAd.opMode = .sta) (version : (pAd.content wcid).wpa2 = sender.wpa2)
    (ptk : (pAd.content wcid).ptk = sender.ptk)
    (newer : Counter.value (pAd.content wcid).rCounter < Counter.value sender.rCounter) :
    ∃ packet, constructEapolMsg crypto build sender groupKeyWepStatus msgType args = some packet ∧
      peerWpaMessageSanity crypto env pAd wcid packet msgType = (true, (installGroupKey pAd
        (if keyDataSize sender groupKeyWepStatus msgType args.rsnIe ≤ 255 then
          ⟨Memory.write (fun _ => 0) 0 (gtk.slice 0 (gtkLenOf groupKeyWepStatus)),
            UInt8.ofNat (gtk.slice 0 (gtkLenOf groupKeyWepStatus)).length, args.defaultKeyIdx⟩
        else .zero)).record (.accepted wcid msgType packet)) := by
  obtain ⟨element, single, elementLen, text⟩ := @keyDataText_gtk sender groupKeyWepStatus msgType
    args included gtk keyed rsn
  obtain ⟨p, empty, info, counter, built⟩ := @constructEapolMsg_gtk crypto build sender
    groupKeyWepStatus msgType args builds included nonce rsc nonced counted _ text
  obtain ⟨gtkLen, size⟩ := length_gtk gtk groupKeyWepStatus
  have kind := gtkIncluded_iff.mp included
  have alone : sender.wpa2 = false → element = [] := by
    intro version
    rcases kind with ⟨-, other⟩ | rfl
    · exact absurd (version.symm.trans other) Bool.false_ne_true
    · rw [if_neg (fun both => MsgType.noConfusion both.1)] at elementLen
      exact List.length_eq_zero_iff.mp elementLen
  have short : element.length ≤ 257 := by
    have := args.rsnIe.len.toNat_lt
    rw [elementLen]
    split_ifs <;> omega
  have textLen : (element ++
      ((if sender.wpa2 then gtkKdeHeader (gtkLenOf groupKeyWepStatus) args.defaultKeyIdx else []) ++
        gtk.slice 0 (gtkLenOf groupKeyWepStatus))).length =
      element.length + ((if sender.wpa2 then 8 else 0) + gtkLenOf groupKeyWepStatus) := by
    rw [List.length_append, List.length_append, gtkLen]
    cases sender.wpa2 <;> rfl
  have kck : (pAd.content wcid).kck = sender.kck := by
    unfold WpaEntry.kck
    rw [ptk]
  have kek : (pAd.content wcid).kek = sender.kek := by
    unfold WpaEntry.kek
    rw [ptk]
  have found := @groupKeyOf_delivered sender groupKeyWepStatus args gtk element single
    short keyIdx (keyDescVerOf sender groupKeyWepStatus) _ rfl alone
  generalize element ++
    ((if sender.wpa2 then gtkKdeHeader (gtkLenOf groupKeyWepStatus) args.defaultKeyIdx else []) ++
      gtk.slice 0 (gtkLenOf groupKeyWepStatus)) = plain at built textLen found
  have padded := length_padded (keyDescVerOf sender groupKeyWepStatus) plain
  have sized : (plain ++ padFor (keyDescVerOf sender groupKeyWepStatus) plain.length).length =
      keyDataSize sender groupKeyWepStatus msgType args.rsnIe := by
    unfold keyDataSize
    rw [padded, textLen, elementLen]
    simp only [Nat.add_assoc]
  generalize enc : encryptKeyData crypto build sender (keyDescVerOf sender groupKeyWepStatus) p.keyIv
    plain = encrypted at built
  obtain ⟨packet, is⟩ : ∃ packet, packet = calculateMic crypto build sender
    (p.addKeyData (encrypted.1.bytes 0 encrypted.2)) := ⟨_, rfl⟩
  rw [← is] at built
  rw [calculateMic_eq builds] at is
  have sentInfo : packet.keyInfo = keyInfoOf sender groupKeyWepStatus msgType args.defaultKeyIdx := by
    rw [is]
    exact info
  have ver : packet.keyInfo.keyDescVer = keyDescVerOf sender groupKeyWepStatus := by
    rw [sentInfo]
    rfl
  have data : packet.keyData = Memory.write (fun _ => 0) 0 (encrypted.1.bytes 0 encrypted.2) := by
    rw [is, ← empty]
    rfl
  have dataLen : packet.keyDataLen = BitVec.ofNat 16 encrypted.2 := by
    rw [is]
    change BitVec.ofNat 16 (encrypted.1.bytes 0 encrypted.2).length = _
    rw [Memory.length_bytes]
  have iv : packet.keyIv = p.keyIv := by
    rw [is]
    rfl
  have mic : packet.keyMic =
      micOf crypto packet.keyInfo.keyDescVer (pAd.content wcid).kck packet.micText := by
    rw [kck, is]
    rfl
  have replay : replayAccepted msgType packet.replayCounter (pAd.content wcid).rCounter = true := by
    apply replayAccepted_newer included
    rw [is]
    change Counter.value (pAd.content wcid).rCounter < Counter.value p.replayCounter
    rw [counter]
    exact newer
  rw [← iv] at enc
  obtain ⟨some, unwrapped⟩ := unwrapKeyData_encrypt inverse builds handles kek
    (keyDescVerOf_known sender groupKeyWepStatus)
    (show 0 < plain.length by omega) (show plain.length < 512 by split_ifs at textLen <;> omega) ver
    (by rw [enc]; exact data) (by rw [enc]; exact dataLen)
  have theirs : gtkIncluded (pAd.content wcid) msgType = true := by
    unfold gtkIncluded
    rw [version]
    exact included
  rw [← groupKeyIndexOf_sent included version keyIdx sentInfo, ← version, sized] at found
  have small : (if keyDataSize sender groupKeyWepStatus msgType args.rsnIe ≤ 255 then
      (⟨Memory.write (fun _ => 0) 0 (gtk.slice 0 (gtkLenOf groupKeyWepStatus)),
        UInt8.ofNat (gtk.slice 0 (gtkLenOf groupKeyWepStatus)).length, args.defaultKeyIdx⟩ : GroupKey)
      else .zero).defaultIdx < 4 := by
    split_ifs
    · exact keyIdx
    · decide
  rw [sized] at unwrapped
  refine ⟨packet, built, ?_⟩
  rw [peerWpaMessageSanity_found handles replay mic some theirs unwrapped found small sta]

/-- A message with a group key, and the station that it is sent to. -/
structure Delivery where
  crypto : KeyCrypto
  build : BuildEnv
  env : HandleEnv
  sender : WpaEntry
  groupKeyWepStatus : WepStatus
  msgType : MsgType
  args : MsgArgs
  nonce : Bytes 32
  rsc : Bytes 6
  gtk : Bytes 32
  pAd : WpaAdapter
  wcid : Wcid

/-- The sender has all that the message needs, and the station has the same PTK and ciphers and an
older replay counter. -/
structure Delivery.Proper (d : Delivery) : Prop where
  inverse : ∀ key block, d.crypto.aes.decrypt key (d.crypto.aes.encrypt key block) = block
  builds : d.build.Ready
  handles : d.env.Ready
  cipher : d.groupKeyWepStatus = .tkipEnable ∨ d.groupKeyWepStatus = .aesEnable
  included : gtkIncluded d.sender d.msgType = true
  nonced : d.args.keyNonce = some d.nonce
  counted : d.args.txRsc = some d.rsc
  keyed : d.args.gtk = some d.gtk
  rsn : d.args.rsnIe.len = 0 ∨ d.args.rsnIe.octets.bytes 2 3 = ouiWpa2
  keyIdx : d.args.defaultKeyIdx < 4
  sta : d.pAd.opMode = .sta
  room : 0 < d.pAd.maxMbssidNum
  groupCipher : d.pAd.staCfg.groupCipher = d.groupKeyWepStatus
  version : (d.pAd.content d.wcid).wpa2 = d.sender.wpa2
  ptk : (d.pAd.content d.wcid).ptk = d.sender.ptk
  newer : Counter.value (d.pAd.content d.wcid).rCounter < Counter.value d.sender.rCounter

/-- The message is built and accepted, and the station then has the sender's group key. -/
def Delivery.Succeeds (d : Delivery) : Prop :=
  ∃ packet, constructEapolMsg d.crypto d.build d.sender d.groupKeyWepStatus d.msgType d.args =
      some packet ∧
    (peerWpaMessageSanity d.crypto d.env d.pAd d.wcid packet d.msgType).1 = true ∧
    Installs d.pAd (peerWpaMessageSanity d.crypto d.env d.pAd d.wcid packet d.msgType).2
      (d.gtk.slice 0 (gtkLenOf d.groupKeyWepStatus)) d.args.defaultKeyIdx

theorem Delivery.Proper.outcome {d : Delivery} (proper : d.Proper) :
    ∃ packet, constructEapolMsg d.crypto d.build d.sender d.groupKeyWepStatus d.msgType d.args =
        some packet ∧
      peerWpaMessageSanity d.crypto d.env d.pAd d.wcid packet d.msgType =
        (true, (installGroupKey d.pAd
          (if keyDataSize d.sender d.groupKeyWepStatus d.msgType d.args.rsnIe ≤ 255 then
            ⟨Memory.write (fun _ => 0) 0 (d.gtk.slice 0 (gtkLenOf d.groupKeyWepStatus)),
              UInt8.ofNat (d.gtk.slice 0 (gtkLenOf d.groupKeyWepStatus)).length,
              d.args.defaultKeyIdx⟩
          else .zero)).record (.accepted d.wcid d.msgType packet)) :=
  groupKey_outcome d.crypto proper.inverse d.build proper.builds d.env proper.handles d.sender
    d.groupKeyWepStatus d.args d.nonce proper.nonced d.rsc proper.counted d.gtk proper.keyed proper.rsn
    proper.keyIdx d.msgType proper.included d.pAd d.wcid proper.sta proper.version proper.ptk
    proper.newer

/-- Key data that is too long for a byte loses its group key. -/
theorem Delivery.Proper.lost {d : Delivery} (proper : d.Proper)
    (long : ¬keyDataSize d.sender d.groupKeyWepStatus d.msgType d.args.rsnIe ≤ 255) :
    ¬d.Succeeds := by
  rintro ⟨packet, built, -, installs⟩
  obtain ⟨packet', built', outcome⟩ := proper.outcome
  obtain rfl := Option.some.inj (built.symm.trans built')
  obtain ⟨gtkLen, size⟩ := length_gtk d.gtk d.groupKeyWepStatus
  rw [outcome, if_neg long] at installs
  rw [← gtkLen] at size
  exact not_installs_zero proper.room (proper.groupCipher ▸ proper.cipher) size
    ⟨installs.bytes, installs.defaultKeyId, installs.sharedKey⟩

/-- What `ConstructEapolMsg` encodes is decoded exactly if the padded key data is not longer than a
byte can say. -/
theorem delivery_succeeds_iff (d : Delivery) (proper : d.Proper) :
    d.Succeeds ↔ keyDataSize d.sender d.groupKeyWepStatus d.msgType d.args.rsnIe ≤ 255 := by
  constructor
  · intro succeeds
    by_contra long
    exact proper.lost long succeeds
  · intro fits
    obtain ⟨packet, built, outcome⟩ := proper.outcome
    obtain ⟨gtkLen, size⟩ := length_gtk d.gtk d.groupKeyWepStatus
    rw [if_pos fits] at outcome
    refine ⟨packet, built, ?_, ?_⟩
    · rw [outcome]
    · rw [outcome]
      rw [← gtkLen] at size
      have installs := @installGroupKey_installs d.pAd _ d.args.defaultKeyIdx proper.room
        (proper.groupCipher ▸ proper.cipher) size
      exact ⟨installs.bytes, installs.defaultKeyId, installs.sharedKey⟩

/-- Message 3 with AES, zeros for keys, and an RSN IE of a length. -/
def msg3WithRsn (len : UInt8) : Delivery where
  crypto := zeroCrypto
  build := ⟨true, true, fun _ => true, true, fun _ => 0, true, Bytes.zero 6⟩
  env := silentEnv
  sender := { WpaEntry.ready with rCounter := Bytes.ofList 8 [0, 0, 0, 0, 0, 0, 0, 1] }
  groupKeyWepStatus := .aesEnable
  msgType := .pairMsg3
  args := ⟨1, some (Bytes.zero 32), some (Bytes.zero 6), some (Bytes.zero 32),
    ⟨Memory.write (fun _ => 0) 2 ouiWpa2, len⟩⟩
  nonce := Bytes.zero 32
  rsc := Bytes.zero 6
  gtk := Bytes.zero 32
  pAd := newStation
  wcid := Transmit.bssidWcid

theorem msg3WithRsn_proper (len : UInt8) : (msg3WithRsn len).Proper where
  inverse _ _ := rfl
  builds := ⟨rfl, fun _ => rfl, rfl, rfl⟩
  handles := ⟨rfl, fun _ => rfl, rfl⟩
  cipher := Or.inr rfl
  included := rfl
  nonced := rfl
  counted := rfl
  keyed := rfl
  rsn := Or.inr rfl
  keyIdx := (by decide : 1 < 4)
  sta := rfl
  room := Nat.one_pos
  groupCipher := rfl
  version := rfl
  ptk := rfl
  newer := show Counter.value WpaEntry.ready.rCounter <
    Counter.value (Bytes.ofList 8 [0, 0, 0, 0, 0, 0, 0, 1]) by decide

theorem delivery_succeeds_iff_shortRsn : (msg3WithRsn 20).Succeeds :=
  (delivery_succeeds_iff (msg3WithRsn 20) (msg3WithRsn_proper 20)).mpr (by decide)

/-- With an RSN IE of 230 bytes the key data has 256, and the station ends without a group key. -/
theorem not_delivery_succeeds : ¬∀ d : Delivery, d.Proper → d.Succeeds := by
  intro succeeds
  exact (msg3WithRsn_proper 230).lost (by decide) (succeeds _ (msg3WithRsn_proper 230))

end Delivery

end Mt7612u.Wpa
