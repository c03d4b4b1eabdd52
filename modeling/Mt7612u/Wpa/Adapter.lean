import Mt7612u.Crypto.Arc4
import Mt7612u.Crypto.KeyWrap
import Mt7612u.Receive.DataFrame
import Mt7612u.Transmit.Adapter
import Mt7612u.Wpa.Eapol

/-! What the key handshakes read and write: the keys of an entry, of the station and of a BSS, and
the two functions that hand keys to the chip. -/

namespace Mt7612u.Wpa
open BlockAck (Wcid OpMode)
open Crypto (BlockCipher Kmalloc)
open Mgmt (MacAddr)
open Receive (Memory WepStatus PrivacyFilter)
open Transmit (AuthMode EntryType)

/-- `AP_WPA_STATE`. -/
inductive WpaState where
  | asNotUse
  | asDisconnect
  | asDisconnected
  | asInitialize
  | asAuthentication
  | asAuthentication2
  | asInitPmk
  | asInitPsk
  | asPtkStart
  | asPtkInitNegotiating
  | asPtkInitDone
  | asUpdateKeys
  | asIntegrityFailure
  | asKeyUpdate
  deriving DecidableEq, Repr

/-- The place of a state in the enumeration, on which its comparisons go. -/
def WpaState.toNat : WpaState → Nat
  | asNotUse => 0
  | asDisconnect => 1
  | asDisconnected => 2
  | asInitialize => 3
  | asAuthentication => 4
  | asAuthentication2 => 5
  | asInitPmk => 6
  | asInitPsk => 7
  | asPtkStart => 8
  | asPtkInitNegotiating => 9
  | asPtkInitDone => 10
  | asUpdateKeys => 11
  | asIntegrityFailure => 12
  | asKeyUpdate => 13

/-- `GTK_STATE`. -/
inductive GtkState where
  | rekeyNegotiating
  | rekeyEstablished
  | keyError
  deriving DecidableEq, Repr

inductive CipherAlg where
  | none
  | wep64
  | wep128
  | tkip
  | aes
  deriving DecidableEq, Repr

/-- `CIPHER_KEY`, less the sequence counters, which the chip keeps. -/
structure CipherKey where
  cipherAlg : CipherAlg
  keyLen : Nat
  key : Bytes 16
  txMic : Bytes 8
  rxMic : Bytes 8
  deriving DecidableEq

def CipherKey.zero : CipherKey := ⟨.none, 0, Bytes.zero 16, Bytes.zero 8, Bytes.zero 8⟩

/-- `RSN_IE` with `RSNIE_Len`, the length of what is stored in it. -/
structure RsnIe where
  octets : Memory
  len : UInt8

/-- `MAC_TABLE_ENTRY`, as far as the key handshakes read it. -/
structure WpaEntry where
  entryType : EntryType
  addr : MacAddr
  apidx : Nat
  authMode : AuthMode
  wepStatus : WepStatus
  /-- `Sst == SST_ASSOC`. -/
  associated : Bool
  wpaState : WpaState
  gtkState : GtkState
  /-- `PortSecured == WPA_802_1X_PORT_SECURED`. -/
  portSecured : Bool
  privacyFilter : PrivacyFilter
  rCounter : Bytes 8
  aNonce : Bytes 32
  sNonce : Bytes 32
  ptk : Bytes 64
  pairwiseKey : CipherKey
  rsnIe : RsnIe
  /-- The PMKID and the PMK at `PMKID_CacheIdx`; `none` for `ENTRY_NOT_FOUND`. -/
  pmkidCache : Option (Bytes 16 × Bytes 32)
  reTryCounter : Nat

/-- `StaCfg`. -/
structure StaCfg where
  pmk : Bytes 32
  groupCipher : WepStatus
  rsnIe : RsnIe
  ptk : Bytes 64
  gtk : Memory
  defaultKeyId : Nat
  portSecured : Bool

/-- `MULTISSID_STRUCT` with its `wdev`. -/
structure Mbss where
  bssid : MacAddr
  pmk : Bytes 32
  gmk : Bytes 32
  gNonce : Bytes 32
  gtk : Bytes 32
  groupKeyWepStatus : WepStatus
  defaultKeyId : Nat
  authMode : AuthMode
  /-- `RSN_IE[0]` and `RSN_IE[1]`. -/
  rsnIe : RsnIe × RsnIe

/-- What others see of the handshakes. -/
inductive WpaEvent where
  /-- `PeerWpaMessageSanity` has returned true for a frame. -/
  | accepted (wcid : Wcid) (msgType : MsgType) (packet : EapolPacket)
  /-- `AsicAddPairwiseKeyEntry`, with which the IV of the station starts at 1. -/
  | pairwiseKey (wcid : Wcid) (key : CipherKey)
  /-- `AsicRemovePairwiseKeyEntry`. -/
  | pairwiseKeyRemoved (wcid : Wcid)
  /-- `AsicAddSharedKeyEntry`. -/
  | sharedKey (bssIdx keyIdx : Nat) (key : CipherKey)
  /-- `RTMPToWirelessSta` with as many bytes of the packet as `Body_Len` says. -/
  | sent (wcid : Wcid) (packet : EapolPacket)
  /-- `CMDTHREAD_802_11_COUNTER_MEASURE` is put on the queue. -/
  | counterMeasure (wcid : Wcid)

structure WpaAdapter where
  opMode : OpMode
  /-- A reset or a halt is in progress. -/
  closed : Bool
  currentAddress : MacAddr
  staCfg : StaCfg
  bssidNum : Nat
  maxMbssidNum : Nat
  mbssid : Nat → Mbss
  /-- What `MacTableLookup` finds. -/
  macTableLookup : MacAddr → Option Wcid
  content : Wcid → WpaEntry
  /-- `SharedKey[BssIdx][KeyIdx]`. -/
  sharedKey : Nat → Nat → CipherKey
  log : List WpaEvent

/-- The functions of `crypt_hmac.c`, `crypt_aes.c` and `cmm_wpa.c` that keys go through. -/
structure KeyCrypto where
  hmacMd5 : List UInt8 → List UInt8 → Bytes 16
  hmacSha1 : List UInt8 → List UInt8 → Bytes 20
  aesCmac : List UInt8 → List UInt8 → Bytes 16
  aes : BlockCipher
  /-- PMK, `ANonce`, `AA`, `SNonce` and `SA`. -/
  wpaDerivePtk : Bytes 32 → Bytes 32 → MacAddr → Bytes 32 → MacAddr → Bytes 64
  /-- GMK, `GNonce` and `AA`. -/
  wpaDeriveGtk : Bytes 32 → Bytes 32 → MacAddr → Bytes 32

/-- What the building of a frame finds: which of its allocations succeed, what stands in the
memory they return, and the sequence counter of the group key. -/
structure BuildEnv where
  txEapolBuffer : Bool
  keyDataPool : Bool
  keyWrap : Kmalloc
  arc4Ctx : Bool
  stale : Memory
  micBuffer : Bool
  txTsc : Bytes 6

/-- The same for the handling of a received frame, with the random bytes that it draws. -/
structure HandleEnv where
  /-- Of `KEYDATA`. -/
  keyDataBuffer : Bool
  keyUnwrap : Kmalloc
  arc4Ctx : Bool
  random : Bytes 32
  /-- For each station that is sent a frame. -/
  build : Wcid → BuildEnv

namespace WpaEntry

/-- `bWPA2`. -/
def wpa2 (entry : WpaEntry) : Bool := entry.authMode == .wpa2 || entry.authMode == .wpa2Psk

def isClient (entry : WpaEntry) : Bool := entry.entryType == .client
def isApcli (entry : WpaEntry) : Bool := entry.entryType == .apcli

def kck (entry : WpaEntry) : List UInt8 := entry.ptk.slice 0 lenPtkKck
def kek (entry : WpaEntry) : List UInt8 := entry.ptk.slice lenPtkKck lenPtkKek

end WpaEntry

namespace WpaAdapter

def setEntry (pAd : WpaAdapter) (wcid : Wcid) (entry : WpaEntry) : WpaAdapter :=
  { pAd with content := Function.update pAd.content wcid entry }

def setMbss (pAd : WpaAdapter) (apidx : Nat) (mbss : Mbss) : WpaAdapter :=
  { pAd with mbssid := Function.update pAd.mbssid apidx mbss }

def setSharedKey (pAd : WpaAdapter) (bssIdx keyIdx : Nat) (key : CipherKey) : WpaAdapter :=
  { pAd with
    sharedKey := Function.update pAd.sharedKey bssIdx
      (Function.update (pAd.sharedKey bssIdx) keyIdx key) }

def record (pAd : WpaAdapter) (event : WpaEvent) : WpaAdapter :=
  { pAd with log := pAd.log ++ [event] }

/-- An entry is changed in place. -/
def modify (pAd : WpaAdapter) (wcid : Wcid) (change : WpaEntry → WpaEntry) : WpaAdapter :=
  pAd.setEntry wcid (change (pAd.content wcid))

@[simp] theorem setEntry_content (pAd : WpaAdapter) (wcid : Wcid) (entry : WpaEntry) :
    (pAd.setEntry wcid entry).content wcid = entry := Function.update_self ..

theorem setEntry_other (pAd : WpaAdapter) {wcid other : Wcid} (entry : WpaEntry)
    (apart : other ≠ wcid) : (pAd.setEntry wcid entry).content other = pAd.content other :=
  Function.update_of_ne apart ..

section Frame

variable (pAd : WpaAdapter) (wcid : Wcid) (change : WpaEntry → WpaEntry)

@[simp] theorem modify_content : (pAd.modify wcid change).content wcid = change (pAd.content wcid) :=
  setEntry_content ..

theorem modify_other {wcid other : Wcid} (apart : other ≠ wcid) :
    (pAd.modify wcid change).content other = pAd.content other := setEntry_other _ _ apart

@[simp] theorem modify_log : (pAd.modify wcid change).log = pAd.log := rfl
@[simp] theorem modify_staCfg : (pAd.modify wcid change).staCfg = pAd.staCfg := rfl
@[simp] theorem modify_opMode : (pAd.modify wcid change).opMode = pAd.opMode := rfl
@[simp] theorem modify_mbssid : (pAd.modify wcid change).mbssid = pAd.mbssid := rfl
@[simp] theorem modify_lookup : (pAd.modify wcid change).macTableLookup = pAd.macTableLookup := rfl

@[simp] theorem record_content (event : WpaEvent) : (pAd.record event).content = pAd.content := rfl
@[simp] theorem record_log (event : WpaEvent) : (pAd.record event).log = pAd.log ++ [event] := rfl
@[simp] theorem record_staCfg (event : WpaEvent) : (pAd.record event).staCfg = pAd.staCfg := rfl
@[simp] theorem record_opMode (event : WpaEvent) : (pAd.record event).opMode = pAd.opMode := rfl
@[simp] theorem record_mbssid (event : WpaEvent) : (pAd.record event).mbssid = pAd.mbssid := rfl
@[simp] theorem record_lookup (event : WpaEvent) :
    (pAd.record event).macTableLookup = pAd.macTableLookup := rfl

end Frame

end WpaAdapter

section Install

/-- The key that `WPAInstallPairwiseKey` makes of a PTK; `none` where the cipher has none. `bAE`
tells the authenticator's side from the supplicant's. -/
def pairwiseKeyOf (wepStatus : WepStatus) (ptk : Bytes 64) (bAE : Bool) : Option CipherKey :=
  let first := Bytes.ofList 8 (ptk.slice 48 lenTkipMic)
  let second := Bytes.ofList 8 (ptk.slice 56 lenTkipMic)
  let key : CipherKey := { CipherKey.zero with
    keyLen := lenTk, key := Bytes.ofList 16 (ptk.slice 32 lenTk) }
  if wepStatus = .tkipEnable then
    if bAE then some { key with cipherAlg := .tkip, txMic := first, rxMic := second }
    else some { key with cipherAlg := .tkip, txMic := second, rxMic := first }
  else if wepStatus = .aesEnable then some { key with cipherAlg := .aes }
  else none

/-- `WPAInstallPairwiseKey`. -/
def wpaInstallPairwiseKey (pAd : WpaAdapter) (wcid : Wcid) (bAE : Bool) : WpaAdapter :=
  let entry := pAd.content wcid
  match pairwiseKeyOf entry.wepStatus entry.ptk bAE with
  | some key =>
    (pAd.setEntry wcid { entry with pairwiseKey := key }).record (.pairwiseKey wcid key)
  | none => pAd.setEntry wcid { entry with pairwiseKey := .zero }

/-- The cipher of a group key, and whether it is WEP; `none` where there is no such cipher. -/
def groupCipherAlg : WepStatus → Option CipherAlg
  | .groupWep40Enabled => some .wep64
  | .groupWep104Enabled => some .wep128
  | .tkipEnable => some .tkip
  | .aesEnable => some .aes
  | _ => none

def groupWep (groupCipher : WepStatus) : Bool :=
  groupCipher == .groupWep40Enabled || groupCipher == .groupWep104Enabled

/-- `LEN_WEP64` and `LEN_WEP128`. -/
def lenWep64 : Nat := 5
def lenWep128 : Nat := 13

/-- The key that `WPAInstallSharedKey` makes of a GTK; `none` for a length it refuses. -/
def sharedKeyOf (groupCipher : WepStatus) (cipherAlg : CipherAlg) (bAE : Bool) (gtk : Memory)
    (gtkLen : Nat) : Option CipherKey :=
  if groupWep groupCipher then
    if gtkLen ≠ lenWep64 ∧ gtkLen ≠ lenWep128 then none
    else some { CipherKey.zero with
      cipherAlg := cipherAlg, keyLen := gtkLen, key := Bytes.ofList 16 (gtk.bytes 0 gtkLen) }
  else if gtkLen < lenTk then none
  else
    let first := Bytes.ofList 8 (gtk.bytes 16 lenTkipMic)
    let second := Bytes.ofList 8 (gtk.bytes 24 lenTkipMic)
    let key : CipherKey := { CipherKey.zero with
      cipherAlg := cipherAlg, keyLen := lenTk, key := Bytes.ofList 16 (gtk.bytes 0 lenTk) }
    if cipherAlg = .tkip then
      if bAE then some { key with txMic := first, rxMic := second }
      else some { key with txMic := second, rxMic := first }
    else some key

/-- `WPAInstallSharedKey`. The slot is cleared first, and left so where no key comes in. -/
def wpaInstallSharedKey (pAd : WpaAdapter) (groupCipher : WepStatus) (bssIdx keyIdx : Nat)
    (bAE : Bool) (gtk : Memory) (gtkLen : Nat) : WpaAdapter :=
  if pAd.maxMbssidNum ≤ bssIdx then pAd
  else match groupCipherAlg groupCipher with
    | none => pAd.setSharedKey bssIdx keyIdx .zero
    | some cipherAlg =>
      match sharedKeyOf groupCipher cipherAlg bAE gtk gtkLen with
      | none => pAd.setSharedKey bssIdx keyIdx { CipherKey.zero with cipherAlg := cipherAlg }
      | some key => (pAd.setSharedKey bssIdx keyIdx key).record (.sharedKey bssIdx keyIdx key)

end Install

end Mt7612u.Wpa
