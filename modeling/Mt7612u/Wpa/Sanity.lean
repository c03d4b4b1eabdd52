import Mt7612u.Wpa.Adapter

/-! `PeerWpaMessageSanity` and `RTMPParseEapolKeyData`: the replay counter, the MIC and the key data
of a received frame. -/

namespace Mt7612u.Wpa
open BlockAck (Wcid)
open Crypto (Arc4Ctx aesKeyUnwrap)
open Receive (Memory)

/-- The MIC of a version of the key descriptor; it stays zero for the versions that are not
known. -/
def micOf (crypto : KeyCrypto) (keyDescVer : BitVec 3) (kck text : List UInt8) : Bytes 16 :=
  if keyDescVer = keyDescTkip then crypto.hmacMd5 kck text
  else if keyDescVer = keyDescAes then Bytes.ofList 16 (crypto.hmacSha1 kck text).val
  else if keyDescVer = keyDescExt then crypto.aesCmac kck text
  else Bytes.zero 16

/-- `TKIP_GTK_KEY_WRAP`, and `TKIP_GTK_KEY_UNWRAP` as well. -/
def tkipGtkKeyWrap (kek iv text : List UInt8) : List UInt8 :=
  ((Arc4Ctx.init (iv ++ kek)).discardKeyLength 256).compute text

/-- "only accept message with larger replay counter. Let equal pass, some AP start with all zero
replay counter"; the answer to a message must carry the counter of the message. -/
def replayAccepted (msgType : MsgType) (counter rCounter : Bytes 8) : Bool :=
  if msgType.toSupplicant then
    rtmpCompareMemory counter.val rCounter.val == 1 ||
      rtmpCompareMemory counter.val (Bytes.zero 8).val == 0
  else counter == rCounter

def micAccepted (crypto : KeyCrypto) (entry : WpaEntry) (packet : EapolPacket) (msgType : MsgType) :
    Bool :=
  msgType == .pairMsg1 ||
    packet.keyMic == micOf crypto packet.keyInfo.keyDescVer entry.kck packet.micText

section KeyData

/-- `KEYDATA`, and `KeyDataLen` as it is when `KEYDATA` is parsed. -/
structure KeyData where
  keyData : Memory
  keyDataLen : BitVec 16

/-- Where the unwrapping gets no memory, `KEYDATA` stays zero. -/
def unwrapKeyData (crypto : KeyCrypto) (env : HandleEnv) (entry : WpaEntry) (packet : EapolPacket) :
    KeyData :=
  if packet.keyInfo.keyDescVer = keyDescExt ∨ packet.keyInfo.keyDescVer = keyDescAes then
    match aesKeyUnwrap crypto.aes env.keyUnwrap packet.keyData (packet.keyDataLen.setWidth 32)
      entry.kek (fun _ => 0) with
    | .ok out => ⟨out.text, out.length.setWidth 16⟩
    | .error _ => ⟨fun _ => 0, 0⟩
  else if env.arc4Ctx then
    ⟨Memory.write (fun _ => 0) 0 (tkipGtkKeyWrap entry.kek packet.keyIv.val
      (packet.keyData.bytes 0 packet.keyDataLen.toNat)), packet.keyDataLen⟩
  else ⟨fun _ => 0, packet.keyDataLen⟩

/-- The key data of a message; `none` where it is not looked at. -/
def keyDataOf (crypto : KeyCrypto) (env : HandleEnv) (entry : WpaEntry) (packet : EapolPacket)
    (msgType : MsgType) : Option KeyData :=
  if msgType = .pairMsg3 ∧ entry.wpa2 ∨ msgType = .groupMsg1 then
    some (unwrapKeyData crypto env entry packet)
  else if msgType = .pairMsg2 ∨ msgType = .pairMsg3 ∧ !entry.wpa2 then
    some ⟨Memory.write (fun _ => 0) 0 (packet.keyData.bytes 0 packet.keyDataLen.toNat),
      packet.keyDataLen⟩
  else none

end KeyData

section Parse

/-- `GTK`, `GTKLEN` and `DefaultIdx`. -/
structure GroupKey where
  gtk : Memory
  gtkLen : UInt8
  defaultIdx : Nat

def GroupKey.zero : GroupKey := ⟨fun _ => 0, 0, 0⟩

def ouiWpa2 : List UInt8 := [0x00, 0x0f, 0xac]
def wpaKdeType : UInt8 := 0xdd
def kdeGtk : UInt8 := 1

/-- The place of a KDE is one of a GTK. -/
def isGtkKde (keyData : Memory) (place : Nat) : Bool :=
  keyData place == wpaKdeType && keyData.bytes (place + 2) 3 == ouiWpa2 &&
    keyData (place + 5) == kdeGtk

/-- `GTKLEN`, a difference of bytes. -/
def gtkLenAt (keyData : Memory) (place : Nat) : UInt8 := keyData (place + 1) - 6

/-- A KDE is taken over if it is a GTK; `none` for a GTK that is too short. -/
def readKde (keyData : Memory) (place : Nat) (found : GroupKey) : Option GroupKey :=
  if isGtkKde keyData place then
    if (gtkLenAt keyData place).toNat < lenWep64 then none
    else some {
      gtk := found.gtk.write 0 (keyData.bytes (place + 8) (gtkLenAt keyData place).toNat)
      gtkLen := gtkLenAt keyData place
      defaultIdx := (keyData (place + 6)).toNat % 4 }
  else some found

/-- How the walk over the KDEs ends. -/
inductive KdeWalk where
  | endless
  | tooShort
  | done (key : GroupKey)

def kdeWalk (keyData : Memory) (keyDataLength : Nat) : Nat → Nat → GroupKey → KdeWalk
  | 0, _, _ => .endless
  | fuel + 1, skipOffset, found =>
    let next := skipOffset + 2 + (keyData (skipOffset + 1)).toNat
    if next ≤ keyDataLength then
      match readKde keyData skipOffset found with
      | none => .tooShort
      | some found => kdeWalk keyData keyDataLength fuel next found
    else .done found

/-- `KeyDataLen` is a byte from here on. -/
def KeyData.length (keyData : KeyData) : Nat := keyData.keyDataLen.toNat % 256

/-- The group key of message 3 of WPA2 and of group message 1; `none` where there is an error in
it. -/
def groupKeyOf (keyData : KeyData) (groupKeyIndex : Nat) (bWPA2 : Bool) : Option GroupKey :=
  if bWPA2 then
    match kdeWalk keyData.keyData keyData.length (keyData.length + 1) 0 .zero with
    | .done key => some key
    | _ => none
  else
    some ⟨Memory.write (fun _ => 0) 0 (keyData.keyData.bytes 0 keyData.length),
      UInt8.ofNat keyData.length, groupKeyIndex⟩

/-- "set key material, TxMic and RxMic". -/
def installGroupKey (pAd : WpaAdapter) (key : GroupKey) : WpaAdapter :=
  let gtk := pAd.staCfg.gtk.write 0 (key.gtk.bytes 0 key.gtkLen.toNat)
  wpaInstallSharedKey
    { pAd with staCfg := { pAd.staCfg with gtk := gtk, defaultKeyId := key.defaultIdx } }
    pAd.staCfg.groupCipher 0 key.defaultIdx false gtk key.gtkLen.toNat

def rtmpParseEapolKeyData (pAd : WpaAdapter) (keyData : KeyData) (groupKeyIndex : Nat)
    (msgType : MsgType) (bWPA2 : Bool) : Bool × WpaAdapter :=
  if msgType = .pairMsg2 ∨ msgType = .pairMsg3 ∧ !bWPA2 then (true, pAd)
  else match groupKeyOf keyData groupKeyIndex bWPA2 with
    | none => (false, pAd)
    | some key =>
      if 3 < key.defaultIdx then (false, pAd)
      else if pAd.opMode = .sta then (true, installGroupKey pAd key)
      else (true, pAd)

end Parse

/-- The index of the group key in the frame itself, which only WPA has. -/
def groupKeyIndexOf (entry : WpaEntry) (packet : EapolPacket) (msgType : MsgType) : Nat :=
  if !entry.wpa2 ∧ msgType = .groupMsg1 then packet.keyInfo.keyIndex.toNat else 0

/-- The handlers read no field of the frame again that this function writes. -/
def peerWpaMessageSanity (crypto : KeyCrypto) (env : HandleEnv) (pAd : WpaAdapter) (wcid : Wcid)
    (packet : EapolPacket) (msgType : MsgType) : Bool × WpaAdapter :=
  let entry := pAd.content wcid
  if !env.keyDataBuffer then (false, pAd)
  else if !replayAccepted msgType packet.replayCounter entry.rCounter then (false, pAd)
  else if !micAccepted crypto entry packet msgType then (false, pAd)
  else if packet.keyDataLen = 0 then (true, pAd.record (.accepted wcid msgType packet))
  else match keyDataOf crypto env entry packet msgType with
    | none => (true, pAd.record (.accepted wcid msgType packet))
    | some keyData =>
      let parsed := rtmpParseEapolKeyData pAd keyData (groupKeyIndexOf entry packet msgType) msgType
        entry.wpa2
      if parsed.1 then (true, parsed.2.record (.accepted wcid msgType packet)) else (false, parsed.2)

end Mt7612u.Wpa
