import Mt7612u.Wpa.Sanity

/-! `ConstructEapolMsg`: the frames of the handshakes. `none` is a null pointer that is followed. -/

namespace Mt7612u.Wpa
open Crypto (aesKeyWrap)
open Receive (Memory WepStatus)

/-- The arguments of `ConstructEapolMsg` that are not the same for all messages; a pointer may be
null. -/
structure MsgArgs where
  defaultKeyIdx : Nat
  keyNonce : Option (Bytes 32)
  txRsc : Option (Bytes 6)
  gtk : Option (Bytes 32)
  rsnIe : RsnIe

/-- The null pointer with length 0. -/
def noRsnIe : RsnIe := ⟨fun _ => 0, 0⟩

section KeyInfo

/-- "When either the pairwise or the group cipher is AES, the KEY_DESC_AES shall be used." -/
def keyDescVerOf (entry : WpaEntry) (groupKeyWepStatus : WepStatus) : BitVec 3 :=
  if entry.wepStatus = .aesEnable ∨ groupKeyWepStatus = .aesEnable then keyDescAes else keyDescTkip

/-- `MsgType >= EAPOL_GROUP_MSG_1`. -/
def MsgType.group (msgType : MsgType) : Bool := MsgType.groupMsg1.toNat ≤ msgType.toNat

/-- "The field ... is encrypted" where a GTK is included. -/
def gtkIncluded (entry : WpaEntry) (msgType : MsgType) : Bool :=
  msgType == .pairMsg3 && entry.wpa2 || msgType == .groupMsg1

def keyInfoOf (entry : WpaEntry) (groupKeyWepStatus : WepStatus) (msgType : MsgType)
    (defaultKeyIdx : Nat) : KeyInfo where
  keyMic := msgType != .pairMsg1
  secure := entry.wpa2 && decide (MsgType.pairMsg3.toNat ≤ msgType.toNat) ||
    !entry.wpa2 && msgType.group
  error := false
  request := false
  ekdDl := entry.wpa2 && (msgType == .pairMsg3 || msgType == .groupMsg1)
  rsvd := 0
  keyDescVer := keyDescVerOf entry groupKeyWepStatus
  pairwise := !msgType.group
  keyIndex := if !entry.wpa2 && msgType.group then BitVec.ofNat 2 defaultKeyIdx else 0
  install := msgType == .pairMsg3
  keyAck := msgType == .pairMsg1 || msgType == .pairMsg3 || msgType == .groupMsg1

/-- `KeyLength[1]`. -/
def keyLengthOf (entry : WpaEntry) (groupKeyWepStatus : WepStatus) (msgType : MsgType) : Nat :=
  if entry.wpa2 then
    if msgType = .pairMsg1 ∨ msgType = .pairMsg3 then
      if entry.wepStatus = .tkipEnable then lenTkipTk else lenAesTk
    else 0
  else if msgType.group then
    if groupKeyWepStatus = .tkipEnable then lenTkipGtk else lenAesGtk
  else if entry.wepStatus = .tkipEnable then lenTkipTk else lenAesTk

end KeyInfo

section KeyData

def ieWpa : UInt8 := 221
def ieRsn : UInt8 := 48

/-- `RTMPInsertRSNIE` without a PMKID list. -/
def rtmpInsertRsnIe (rsnIe : RsnIe) : List UInt8 :=
  if rsnIe.len = 0 then []
  else (if rsnIe.octets.bytes 2 3 = ouiWpa2 then ieRsn else ieWpa) :: rsnIe.len ::
    rsnIe.octets.bytes 0 rsnIe.len.toNat

/-- `gtk_len`. -/
def gtkLenOf (groupKeyWepStatus : WepStatus) : Nat :=
  if groupKeyWepStatus = .aesEnable then lenAesGtk else lenTkipGtk

/-- The KDE of a GTK: `WPA_ConstructKdeHdr`, the index of the key and a reserved byte. -/
def gtkKdeHeader (gtkLen defaultKeyIdx : Nat) : List UInt8 :=
  [wpaKdeType, UInt8.ofNat (4 + (2 + gtkLen))] ++ ouiWpa2 ++
    [kdeGtk, UInt8.ofNat (defaultKeyIdx % 4), 0]

/-- `Key_Data` before it is encrypted. -/
def keyDataText (entry : WpaEntry) (groupKeyWepStatus : WepStatus) (msgType : MsgType)
    (args : MsgArgs) : Option (List UInt8) :=
  let rsnIe := if msgType = .pairMsg2 ∨ msgType = .pairMsg3 then rtmpInsertRsnIe args.rsnIe else []
  if gtkIncluded entry msgType then
    args.gtk.map fun gtk =>
      rsnIe ++
        ((if entry.wpa2 then gtkKdeHeader (gtkLenOf groupKeyWepStatus) args.defaultKeyIdx else []) ++
          gtk.slice 0 (gtkLenOf groupKeyWepStatus))
  else some rsnIe

/-- "appending a single octet 0xdd followed by zero or more 0x00 octets". -/
def padding (length : Nat) : List UInt8 :=
  if length % 8 = 0 then [] else 0xdd :: List.replicate (8 - length % 8 - 1) 0

/-- `eGTK` and `data_offset`. -/
def encryptKeyData (crypto : KeyCrypto) (env : BuildEnv) (entry : WpaEntry) (keyDescVer : BitVec 3)
    (keyIv : Bytes 16) (text : List UInt8) : Memory × Nat :=
  if keyDescVer = keyDescAes then
    let padded := text ++ padding text.length
    match aesKeyWrap crypto.aes env.keyWrap (Memory.write (fun _ => 0) 0 padded)
      (BitVec.ofNat 32 padded.length) entry.kek env.stale with
    | .ok out => (out.text, out.length.toNat)
    | .error _ => (env.stale, 0)
  else if env.arc4Ctx then
    (env.stale.write 0 (tkipGtkKeyWrap entry.kek keyIv.val text), text.length)
  else (env.stale, text.length)

/-- The key data goes into the frame, and its length into two fields. -/
def EapolPacket.addKeyData (p : EapolPacket) (data : List UInt8) : EapolPacket :=
  { p with
    keyData := p.keyData.write 0 data
    keyDataLen := BitVec.ofNat 16 data.length
    bodyLen := p.bodyLen + BitVec.ofNat 16 data.length }

def constructEapolKeyData (crypto : KeyCrypto) (env : BuildEnv) (entry : WpaEntry)
    (groupKeyWepStatus : WepStatus) (msgType : MsgType) (args : MsgArgs) (p : EapolPacket) :
    Option EapolPacket :=
  if msgType = .pairMsg1 ∨ msgType = .pairMsg4 ∨ msgType = .groupMsg2 then some p
  else if !env.keyDataPool then some p
  else (keyDataText entry groupKeyWepStatus msgType args).map fun text =>
    if gtkIncluded entry msgType then
      let encrypted := encryptKeyData crypto env entry p.keyInfo.keyDescVer p.keyIv text
      p.addKeyData (encrypted.1.bytes 0 encrypted.2)
    else p.addKeyData text

end KeyData

section Message

/-- The frame with all that is not taken from a pointer. -/
def initialMsg (entry : WpaEntry) (groupKeyWepStatus : WepStatus) (msgType : MsgType)
    (defaultKeyIdx : Nat) : EapolPacket where
  proVer := eapolVer
  proType := eapolKey
  bodyLen := BitVec.ofNat 16 minLenOfEapolKeyMsg
  type := if entry.wpa2 then wpa2KeyDesc else wpa1KeyDesc
  keyInfo := keyInfoOf entry groupKeyWepStatus msgType defaultKeyIdx
  keyLength := Bytes.ofList 2 [0, UInt8.ofNat (keyLengthOf entry groupKeyWepStatus msgType)]
  replayCounter := entry.rCounter
  keyNonce := Bytes.zero 32
  keyIv := Bytes.zero 16
  keyRsc := Bytes.zero 8
  keyId := Bytes.zero 8
  keyMic := Bytes.zero 16
  keyDataLen := 0
  keyData := fun _ => 0

/-- The nonce, and the IV that WPA makes of it. -/
def fillNonce (entry : WpaEntry) (msgType : MsgType) (keyNonce : Option (Bytes 32))
    (p : EapolPacket) : Option EapolPacket :=
  if msgType.toNat ≤ MsgType.pairMsg3.toNat ∨ !entry.wpa2 ∧ msgType = .groupMsg1 then
    keyNonce.map fun nonce =>
      if !entry.wpa2 ∧ msgType = .groupMsg1 then
        { p with
          keyNonce := nonce
          keyIv := Bytes.ofList 16 (nonce.slice 16 15 ++ [nonce.val.getD 31 0 + 2]) }
      else { p with keyNonce := nonce }
  else some p

/-- "It contains the RSC for the GTK being installed." -/
def fillRsc (entry : WpaEntry) (msgType : MsgType) (txRsc : Option (Bytes 6)) (p : EapolPacket) :
    Option EapolPacket :=
  if msgType = .pairMsg3 ∧ entry.wpa2 ∨ msgType = .groupMsg1 then
    txRsc.map fun rsc => { p with keyRsc := Bytes.ofList 8 rsc.val }
  else some p

/-- `CalculateMIC`. -/
def calculateMic (crypto : KeyCrypto) (env : BuildEnv) (entry : WpaEntry) (p : EapolPacket) :
    EapolPacket :=
  if env.micBuffer then
    { p with keyMic := micOf crypto p.keyInfo.keyDescVer entry.kck p.micText }
  else p

def constructEapolMsg (crypto : KeyCrypto) (env : BuildEnv) (entry : WpaEntry)
    (groupKeyWepStatus : WepStatus) (msgType : MsgType) (args : MsgArgs) : Option EapolPacket :=
  ((fillNonce entry msgType args.keyNonce
      (initialMsg entry groupKeyWepStatus msgType args.defaultKeyIdx)).bind fun p =>
    (fillRsc entry msgType args.txRsc p).bind fun p =>
      constructEapolKeyData crypto env entry groupKeyWepStatus msgType args p).map fun p =>
        if msgType = .pairMsg1 then p else calculateMic crypto env entry p

end Message

end Mt7612u.Wpa
