import Mt7612u.Crypto.Ccm
import Mt7612u.Wpa.Adapter

/-! `RTMPSoftDecryptionAction` and the three decryptors it dispatches to. -/

namespace Mt7612u.Wpa
open Crypto (Arc4Ctx CcmParameters Cipher aesCcmDecrypt)
open Receive (Memory)

def lenWepIvHdr : Nat := 4
def lenTkipIvHdr : Nat := 8
def lenCcmpHdr : Nat := 8
def lenIcv : Nat := 4
def lenCcmpMic : Nat := 8

/-- `NDIS_STATUS_SUCCESS`, `NDIS_STATUS_FAILURE` and `NDIS_STATUS_MICERROR`. -/
def ndisStatusSuccess : Nat := 0
def ndisStatusFailure : Nat := 1
def ndisStatusMicError : Nat := 4

/-- What an int becomes as a bool, and a bool as an int. -/
def asBool (value : Nat) : Bool := value != 0
def asInt (value : Bool) : Nat := if value then 1 else 0

/-- `RTMPTkipMixKey`, whose S-boxes are left out, and `RT_AES_Encrypt`. -/
structure SoftCrypto where
  /-- Temporal key, `TA`, `pnl` and `pnh`. -/
  tkipMixKey : Bytes 16 → List UInt8 → BitVec 16 → BitVec 32 → Bytes 16
  aesEncrypt : Bytes 16 → Cipher

/-- Which allocations of WEP succeed, what stands in an `ARC4_CTX` that is not set up, and on the
stack. -/
structure SoftEnv where
  arc4Ctx : Bool
  seed : Bool
  stale : Arc4Ctx
  stack : Library.CcmFormat.Block

/-- A received frame with the key it is decrypted with. -/
structure SoftFrame where
  hdr : Memory
  userPriority : UInt8
  key : CipherKey
  data : Memory
  dataByteCnt : BitVec 16

section Icv

/-- An entry of `FCSTAB_32`: eight steps with the polynomial of the CRC. -/
def fcsTab32 (index : BitVec 32) : BitVec 32 :=
  Nat.repeat (fun fcs => if fcs.getLsbD 0 then (fcs >>> 1) ^^^ 0xEDB88320 else fcs >>> 1) 8 index

/-- `RTMP_CALC_FCS32`. -/
def rtmpCalcFcs32 (fcs : BitVec 32) (text : List UInt8) : BitVec 32 :=
  text.foldl (fun fcs byte =>
    (fcs >>> 8) ^^^ fcsTab32 ((fcs ^^^ byte.toBitVec.setWidth 32) &&& 0xff)) fcs

/-- The ICV of a text: from `PPPINITFCS32` on, and the complement. -/
def icvOf (text : List UInt8) : BitVec 32 := rtmpCalcFcs32 0xffffffff text ^^^ 0xffffffff

/-- Four bytes as a number, the least significant first. -/
def le32 (bytes : List UInt8) : BitVec 32 :=
  bytes.foldr (fun byte sum => (sum <<< 8) ||| byte.toBitVec.setWidth 32) 0

def le32Bytes (value : BitVec 32) : List UInt8 :=
  (List.range 4).map fun i => UInt8.ofBitVec ((value >>> (8 * i)).setWidth 8)

end Icv

section Michael

/-- `TKIP_KEY_INFO`. Of the unsigned longs the lower 32 bits, which depend on no others. -/
structure TkipKeyInfo where
  l : BitVec 32
  r : BitVec 32
  m : BitVec 32
  nBytesInM : Nat

/-- `RTMPTkipAppendByte`. -/
def TkipKeyInfo.appendByte (tkip : TkipKeyInfo) (byte : UInt8) : TkipKeyInfo :=
  let m := tkip.m ||| (byte.toBitVec.setWidth 32 <<< (8 * tkip.nBytesInM))
  if 4 ≤ tkip.nBytesInM + 1 then
    let l := tkip.l ^^^ m
    let r := tkip.r ^^^ l.rotateLeft 17
    let l := l + r
    let r := r ^^^ (((l &&& 0xff00ff00) >>> 8) ||| ((l &&& 0x00ff00ff) <<< 8))
    let l := l + r
    let r := r ^^^ l.rotateLeft 3
    let l := l + r
    let r := r ^^^ l.rotateLeft 30
    ⟨l + r, r, 0, 0⟩
  else ⟨tkip.l, tkip.r, m, tkip.nBytesInM + 1⟩

/-- `RTMPTkipAppend`. -/
def TkipKeyInfo.append (tkip : TkipKeyInfo) (bytes : List UInt8) : TkipKeyInfo :=
  bytes.foldl TkipKeyInfo.appendByte tkip

/-- The zeros until the length is a multiple of 4. -/
def TkipKeyInfo.pad : Nat → TkipKeyInfo → TkipKeyInfo
  | 0, tkip => tkip
  | turns + 1, tkip => if tkip.nBytesInM ≠ 0 then pad turns (tkip.appendByte 0) else tkip

/-- `RTMPTkipGetMIC`. -/
def TkipKeyInfo.getMic (tkip : TkipKeyInfo) : List UInt8 :=
  let padded := TkipKeyInfo.pad 3 (tkip.append [0x5a, 0, 0, 0, 0])
  le32Bytes padded.l ++ le32Bytes padded.r

/-- `RTMPInitMICEngine`. -/
def rtmpInitMicEngine (da sa : List UInt8) (userPriority : UInt8) (micKey : Bytes 8) : TkipKeyInfo :=
  (⟨le32 (micKey.slice 0 4), le32 (micKey.slice 4 4), 0, 0⟩ : TkipKeyInfo).append
    (da ++ sa ++ [userPriority, 0, 0, 0])

end Michael

section Wep

/-- `RTMPInitWepEngine`. -/
def rtmpInitWepEngine (env : SoftEnv) (iv : List UInt8) (key : CipherKey) : Arc4Ctx :=
  if env.seed then Arc4Ctx.init (iv ++ key.key.val.take key.keyLen) else env.stale

/-- The comparison of the ICV with the one behind the text. -/
def icvRight (data : Memory) (plainTextLen : Nat) : Bool :=
  icvOf (data.bytes 0 plainTextLen) == le32 (data.bytes plainTextLen lenIcv)

/-- The buffer once its text is decrypted over the IV header. -/
def decryptedOver (ctx : Arc4Ctx) (data : Memory) (header count : Nat) : Memory :=
  data.write 0 (ctx.compute (data.bytes header count))

/-- `RTMPSoftDecryptWEP`: the buffer and the length of the text in it. The lengths have 16 bits. -/
def rtmpSoftDecryptWep (env : SoftEnv) (frame : SoftFrame) : Option (Memory × BitVec 16) :=
  if !env.arc4Ctx then none
  else if frame.key.keyLen = 0 then none
  else if frame.dataByteCnt.toNat ≤ lenWepIvHdr then none
  else
    let cipherTextLen := frame.dataByteCnt - BitVec.ofNat 16 lenWepIvHdr
    let data := decryptedOver (rtmpInitWepEngine env (frame.data.bytes 0 3) frame.key) frame.data
      lenWepIvHdr cipherTextLen.toNat
    let plainTextLen := cipherTextLen - BitVec.ofNat 16 lenIcv
    if icvRight data plainTextLen.toNat then some (data, plainTextLen) else none

end Wep

section Tkip

def fromDs (hdr : Memory) : Bool := hdr 1 &&& 2 != 0
def toDs (hdr : Memory) : Bool := hdr 1 &&& 1 != 0

/-- `DA` and `SA`; `TA` is always the second address. -/
def tkipDa (hdr : Memory) : List UInt8 :=
  if toDs hdr then hdr.bytes 16 6 else hdr.bytes 4 6
def tkipSa (hdr : Memory) : List UInt8 :=
  if fromDs hdr then if toDs hdr then hdr.bytes 24 6 else hdr.bytes 16 6
  else hdr.bytes 10 6

/-- The key stream of a TKIP frame. -/
def tkipCtx (crypto : SoftCrypto) (frame : SoftFrame) : Arc4Ctx :=
  Arc4Ctx.init (crypto.tkipMixKey frame.key.key (frame.hdr.bytes 10 6)
    ((frame.data 0).toBitVec.setWidth 16 <<< 8 ||| (frame.data 2).toBitVec.setWidth 16)
    (le32 (frame.data.bytes 4 4))).val

/-- The comparison of the Michael MIC with the one behind the text. -/
def micRight (frame : SoftFrame) (data : Memory) (plainTextLen : Nat) : Bool :=
  ((rtmpInitMicEngine (tkipDa frame.hdr) (tkipSa frame.hdr) frame.userPriority
    frame.key.rxMic).append (data.bytes 0 plainTextLen)).getMic ==
      data.bytes plainTextLen lenTkipMic

/-- What is returned, as a bool, with the buffer and `DataByteCnt`. -/
structure TkipResult where
  returned : Bool
  data : Memory
  dataByteCnt : BitVec 16

/-- `RTMPSoftDecryptTKIP`; its lengths have 32 bits. Each status goes through the type bool. -/
def rtmpSoftDecryptTkip (crypto : SoftCrypto) (frame : SoftFrame) : TkipResult :=
  if frame.key.keyLen = 0 then ⟨asBool ndisStatusFailure, frame.data, frame.dataByteCnt⟩
  else if frame.dataByteCnt.toNat ≤ lenTkipIvHdr then
    ⟨asBool ndisStatusFailure, frame.data, frame.dataByteCnt⟩
  else
    let cipherTextLen := frame.dataByteCnt.setWidth 32 - BitVec.ofNat 32 lenTkipIvHdr
    let data := decryptedOver (tkipCtx crypto frame) frame.data lenTkipIvHdr cipherTextLen.toNat
    let plainTextLen := cipherTextLen - BitVec.ofNat 32 lenIcv
    if !icvRight data plainTextLen.toNat then
      ⟨asBool ndisStatusFailure, data, frame.dataByteCnt⟩
    else
      let plainTextLen := plainTextLen - BitVec.ofNat 32 lenTkipMic
      if !micRight frame data plainTextLen.toNat then
        ⟨asBool ndisStatusMicError, data, frame.dataByteCnt⟩
      else ⟨true, data, plainTextLen.setWidth 16⟩

end Tkip

section Ccmp

def isDataFrame (hdr : Memory) : Bool := (hdr 0 >>> 2) &&& 3 == 2
def a4Exists (hdr : Memory) : Bool := fromDs hdr && toDs hdr

/-- One of the four QoS data subtypes of a data frame. -/
def qcExists (hdr : Memory) : Bool :=
  isDataFrame hdr && ([8, 9, 10, 11] : List UInt8).contains ((hdr 0 >>> 4) &&& 0x0f)

/-- The TID of the QoS control field. -/
def qosTid (hdr : Memory) : UInt8 := (if a4Exists hdr then hdr 30 else hdr 24) &&& 0x0f

/-- `RTMPConstructCCMPAAD`. -/
def rtmpConstructCcmpAad (hdr : Memory) : List UInt8 :=
  [if isDataFrame hdr then hdr 0 &&& 0x8f else hdr 0, hdr 1 &&& 0xc7 ||| 0x40] ++
    hdr.bytes 4 18 ++ [hdr 22 &&& 0x0f, 0] ++ (if a4Exists hdr then hdr.bytes 24 6 else []) ++
    (if qcExists hdr then [qosTid hdr, 0] else [])

/-- `RTMPConstructCCMPNonce`, with the packet number of the CCMP header. -/
def rtmpConstructCcmpNonce (hdr data : Memory) : List UInt8 :=
  [if qcExists hdr then qosTid hdr else 0] ++ hdr.bytes 10 6 ++
    [data 7, data 6, data 5, data 4, data 1, data 0]

def ccmpOf (frame : SoftFrame) : CcmParameters where
  keyLength := 16
  nonce := Memory.write (fun _ => 0) 0 (rtmpConstructCcmpNonce frame.hdr frame.data)
  nonceLength := (rtmpConstructCcmpNonce frame.hdr frame.data).length
  aad := Memory.write (fun _ => 0) 0 (rtmpConstructCcmpAad frame.hdr)
  aadLength := BitVec.ofNat 32 (rtmpConstructCcmpAad frame.hdr).length
  macLength := lenCcmpMic

/-- `RTMPSoftDecryptCCMP`. -/
def rtmpSoftDecryptCcmp (crypto : SoftCrypto) (env : SoftEnv) (frame : SoftFrame) :
    Option (Memory × BitVec 16) :=
  if frame.key.keyLen = 0 then none
  else if frame.dataByteCnt.toNat ≤ lenCcmpHdr then none
  else
    match aesCcmDecrypt (crypto.aesEncrypt frame.key.key) (ccmpOf frame)
        (fun address => frame.data (lenCcmpHdr + address))
        (frame.dataByteCnt.setWidth 32 - BitVec.ofNat 32 lenCcmpHdr) frame.data
        (frame.dataByteCnt.setWidth 32) env.stack with
    | .ok (data, outLen) => some (data, outLen.setWidth 16)
    | .error _ => none

end Ccmp

/-- `data` is what stands in the buffer when the frame goes on. -/
structure SoftResult where
  status : Nat
  dataByteCnt : BitVec 16
  data : Option Memory

/-- What is made of a bool that a decryptor returns. -/
def softResult (frame : SoftFrame) : Option (Memory × BitVec 16) → SoftResult
  | none => ⟨ndisStatusFailure, frame.dataByteCnt, none⟩
  | some (data, count) => ⟨ndisStatusSuccess, count, some data⟩

/-- `RTMPSoftDecryptionAction`. -/
def rtmpSoftDecryptionAction (crypto : SoftCrypto) (env : SoftEnv) (frame : SoftFrame) : SoftResult :=
  match frame.key.cipherAlg with
  | .wep64 => softResult frame (rtmpSoftDecryptWep env frame)
  | .wep128 => softResult frame (rtmpSoftDecryptWep env frame)
  | .tkip =>
    let result := rtmpSoftDecryptTkip crypto frame
    let nStatus := asInt result.returned
    if nStatus = ndisStatusFailure then ⟨ndisStatusFailure, result.dataByteCnt, none⟩
    else if nStatus = ndisStatusMicError then ⟨ndisStatusMicError, result.dataByteCnt, none⟩
    else ⟨ndisStatusSuccess, result.dataByteCnt, some result.data⟩
  | .aes => softResult frame (rtmpSoftDecryptCcmp crypto env frame)
  | .none => ⟨ndisStatusFailure, frame.dataByteCnt, none⟩

end Mt7612u.Wpa
