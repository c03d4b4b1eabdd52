import Mt7612u.Library.Run
import Mt7612u.Mgmt.MacTable
import Mt7612u.Receive.Convert8023
import Mt7612u.Security.CipherParse

/-! The authentication frames that an access point answers: `APPeerAuthSanity` of `ap_sanity.c`,
`APPeerAuthReqAtIdleAction` and `APPeerAuthConfirmAction` of `ap_auth.c`. -/

namespace Mt7612u.Ap
open Receive (Memory Span)
open Mgmt (MacAddr MacTable macTableLookup macTableInsertEntry deleteEntry vacancy)
open BlockAck (Wcid maxLenOfMacTable)
open Security (AuthMode)

def cipherTextLen : Nat := 128
def authModeOpen : BitVec 16 := 0
def authModeKey : BitVec 16 := 1

/-- `AuthState` of an entry. -/
inductive AuthState where
  | notAuth
  | authOpen
  | authKey
  | authenticating
  deriving DecidableEq, Repr

/-- `Sst` of an entry. -/
inductive Sst where
  | notAuth
  | auth
  | assoc
  deriving DecidableEq, Repr

structure EntryAuth where
  authState : AuthState
  sst : Sst
  deriving DecidableEq, Repr

/-- What the two actions read of a `MULTISSID_STRUCT`. `ifDev` is whether the interface runs, when
there is one, and `allows` its access control list. -/
structure Mbss where
  bssid : MacAddr
  ifDev : Option Bool
  authMode : AuthMode
  authFailRssiThreshold : Int
  authNoRspRssiThreshold : Int
  allows : MacAddr → Bool

structure ApConfig where
  setting : Mgmt.Setting
  mbssid : List Mbss

/-- The table, what its entries have of authentication, and `ApMlmeAux`. -/
structure AuthAdapter where
  table : MacTable
  auth : Wcid → EntryAuth
  auxAddr : MacAddr
  auxChallenge : List UInt8

/-- An element of the queue: the frame, the index its sender was found under, and what is drawn
from outside when it is handled. -/
structure AuthElem where
  msg : Memory
  msgLen : Nat
  wcid : BitVec 8
  rssi : Int
  randomBytes : Memory
  kmalloc : Bool

/-- An authentication frame that is sent. -/
structure AuthRsp where
  addr : MacAddr
  alg : BitVec 16
  seq : BitVec 16
  status : BitVec 16
  challenge : Option (List UInt8) := none

/-- What an action does beside its changes to the table: a frame goes out, `ApMlmeAux` is written,
an entry is set to `AS_AUTH_KEY` and `SST_AUTH`. -/
inductive AuthEffect where
  | send (rsp : AuthRsp)
  | log (addr : MacAddr) (challenge : List UInt8)
  | authenticate (wcid : Wcid)

def mlmeSuccess : BitVec 16 := 0
def mlmeUnspecifyFail : BitVec 16 := 1
def mlmeAlgNotSupport : BitVec 16 := 13
def mlmeRejChallengeFailure : BitVec 16 := 15

def addrAt (msg : Memory) (start : Nat) : MacAddr := fun i => (msg (start + i)).toBitVec

def shortAt (msg : Memory) (start : Nat) : BitVec 16 :=
  BitVec.ofNat 16 ((msg start).toNat + 256 * (msg (start + 1)).toNat)

/-- `FC.Wep`. -/
def wepBit (msg : Memory) : Bool := msg 1 &&& 0x40 != 0

/-- What `APPeerAuthSanity` hands out. -/
structure AuthFields where
  addr1 : MacAddr
  addr2 : MacAddr
  alg : BitVec 16
  seq : BitVec 16
  status : BitVec 16
  chlgText : List UInt8

/-- `APPeerAuthSanity`; `MsgLen` is handed in and not looked at. -/
def apPeerAuthSanity (msg : Memory) : Option AuthFields :=
  let alg := shortAt msg 24
  let seq := shortAt msg 26
  let fields : AuthFields := {
    addr1 := addrAt msg 4
    addr2 := addrAt msg 10
    alg := alg
    seq := seq
    status := shortAt msg 28
    chlgText := [] }
  if alg = authModeOpen then if seq = 1 ∨ seq = 2 then some fields else none
  else if alg = authModeKey then
    if seq = 1 ∨ seq = 4 then some fields
    else if seq = 2 ∨ seq = 3 then some { fields with chlgText := msg.bytes 32 cipherTextLen }
    else none
  else none

/-- The algorithm field, and the challenge text where it is copied. -/
def authReads (msg : Memory) : List Span :=
  ⟨24, 2⟩ ::
    if shortAt msg 24 = authModeKey ∧ (shortAt msg 26 = 2 ∨ shortAt msg 26 = 3) then
      [⟨32, cipherTextLen⟩]
    else []

section actions
variable (c : ApConfig)

/-- `get_apidx_by_addr`. -/
def getApidxByAddr (addr : MacAddr) : Nat :=
  (c.mbssid.findIdx? fun bss => bss.bssid = addr).getD c.mbssid.length

/-- `MacTableDeleteEntry` for an entry and its own address. -/
def AuthAdapter.delete (s : AuthAdapter) (wcid : Wcid) : Option AuthAdapter :=
  (deleteEntry s.table wcid (s.table.addr wcid)).map fun table => { s with table := table }

def AuthAdapter.deleteIf (s : AuthAdapter) : Option Wcid → Option AuthAdapter
  | some wcid => s.delete wcid
  | none => some s

def AuthAdapter.setAuth (s : AuthAdapter) (wcid : Wcid) (entry : EntryAuth) : AuthAdapter :=
  { s with auth := Function.update s.auth wcid entry }

/-- `MacTableInsertEntry`: the entry it takes is cleared, also where the BSS is full. -/
def AuthAdapter.insert (s : AuthAdapter) (addr : MacAddr) (apidx : Nat) :
    Option (Option Wcid × AuthAdapter) :=
  (macTableInsertEntry c.setting s.table addr (BitVec.ofNat 8 apidx)).map
    fun (wcid, table) =>
      let s' := { s with table := table }
      if maxLenOfMacTable ≤ s.table.size.toNat then (wcid, s')
      else
        match vacancy c.setting s.table with
        | some i => (wcid, s'.setAuth i ⟨.notAuth, .notAuth⟩)
        | none => (wcid, s')

/-- An entry of another BSS than the frame is for is deleted, and forgotten. -/
def AuthAdapter.checkBssid (s : AuthAdapter) (addr1 : MacAddr) :
    Option Wcid → Option (Option Wcid × AuthAdapter)
  | some wcid =>
    if (s.table.content wcid).entryType = .client ∧
        (c.mbssid[(s.table.content wcid).apidx.toNat]?.map Mbss.bssid) ≠ some addr1 then
      (s.delete wcid).map fun s => (none, s)
    else some (some wcid, s)
  | none => some (none, s)

/-- `APPeerAuthSimpleRspGenAndSend`, when it has a buffer. -/
def simpleRsp (elem : AuthElem) (fields : AuthFields) (status : BitVec 16) : List AuthEffect :=
  if elem.kmalloc then [.send ⟨fields.addr2, fields.alg, fields.seq + 1, status, none⟩] else []

/-- The challenge that is drawn. -/
def AuthElem.challenge (elem : AuthElem) : List UInt8 := elem.randomBytes.bytes 0 cipherTextLen

/-- The entry of the frame, or a new one. -/
def AuthAdapter.findOrInsert (s : AuthAdapter) (addr : MacAddr) (apidx : Nat) :
    Option Wcid → Option (Option Wcid × AuthAdapter)
  | some wcid => some (some wcid, s)
  | none => s.insert c addr apidx

/-- The part of `APPeerAuthReqAtIdleAction` behind the signal and the access control list. -/
def authAlgAction (s : AuthAdapter) (elem : AuthElem) (fields : AuthFields) (bss : Mbss)
    (apidx : Nat) (pEntry : Option Wcid) : Option (AuthAdapter × List AuthEffect) :=
  if fields.alg = authModeOpen ∧ bss.authMode ≠ .shared then
    (s.findOrInsert c fields.addr2 apidx pEntry).map fun
      | (some wcid, s) =>
        (s.setAuth wcid ⟨.authOpen, .auth⟩, simpleRsp elem fields mlmeSuccess)
      | (none, s) => (s, [])
  else if fields.alg = authModeKey ∧ (bss.authMode = .shared ∨ bss.authMode = .autoSwitch) then
    (s.findOrInsert c fields.addr2 apidx pEntry).map fun
      | (some wcid, s) =>
        ({ s.setAuth wcid ⟨.authenticating, .notAuth⟩ with
          auxAddr := fields.addr2
          auxChallenge := elem.challenge },
        .log fields.addr2 elem.challenge ::
          if elem.kmalloc then
            [.send ⟨fields.addr2, fields.alg, fields.seq + 1, mlmeSuccess, some elem.challenge⟩]
          else [])
      | (none, s) => (s, [])
  else (s.deleteIf pEntry).map fun s => (s, simpleRsp elem fields mlmeAlgNotSupport)

/-- A threshold that is set is not reached. -/
def weakSignal (threshold rssi : Int) : Bool := threshold != 0 && decide (rssi < threshold)

/-- `APPeerAuthReqAtIdleAction`. -/
def apPeerAuthReqAtIdleAction (s : AuthAdapter) (elem : AuthElem) :
    Option (AuthAdapter × List AuthEffect) :=
  match apPeerAuthSanity elem.msg with
  | none => some (s, [])
  | some fields =>
    let apidx := getApidxByAddr c fields.addr1
    match c.mbssid[apidx]? with
    | none => some (s, [])
    | some bss =>
      if bss.ifDev ≠ some true then some (s, [])
      else
        (macTableLookup s.table fields.addr2).bind fun found =>
        (s.checkBssid c fields.addr1 found).bind fun (pEntry, s) =>
          if weakSignal bss.authFailRssiThreshold elem.rssi ∨
              weakSignal bss.authNoRspRssiThreshold elem.rssi then
            (s.deleteIf pEntry).map fun s =>
              (s, if weakSignal bss.authFailRssiThreshold elem.rssi then
                simpleRsp elem fields mlmeUnspecifyFail else [])
          else if bss.allows fields.addr2 = false then
            (s.deleteIf pEntry).map fun s => (s, simpleRsp elem fields mlmeUnspecifyFail)
          else authAlgAction c s elem fields bss apidx pEntry

/-- `APPeerAuthConfirmAction`. The entry is that of the index the frame came with. -/
def apPeerAuthConfirmAction (s : AuthAdapter) (elem : AuthElem) :
    Option (AuthAdapter × List AuthEffect) :=
  match apPeerAuthSanity elem.msg with
  | none => some (s, [])
  | some fields =>
    match c.mbssid[getApidxByAddr c fields.addr1]? with
    | none => some (s, [])
    | some bss =>
      if bss.ifDev = some false then some (s, [])
      else if known : elem.wcid.toNat < maxLenOfMacTable then
        (s.checkBssid c fields.addr1 (some ⟨elem.wcid.toNat, known⟩)).bind fun (pEntry, s) =>
          match pEntry with
          | some wcid =>
            if fields.addr2 = s.auxAddr then
              if wepBit elem.msg ∧ fields.chlgText = s.auxChallenge then
                some (s.setAuth wcid ⟨.authKey, .auth⟩,
                  .authenticate wcid :: simpleRsp elem fields mlmeSuccess)
              else
                (s.delete wcid).map fun s => (s, simpleRsp elem fields mlmeRejChallengeFailure)
            else (s.delete wcid).map fun s => (s, simpleRsp elem fields mlmeUnspecifyFail)
          | none => some (s, simpleRsp elem fields mlmeUnspecifyFail)
      else some (s, [])

/-- The part of `APMsgTypeSubst` for these frames, and the state machine behind it. -/
def apAuthAction (s : AuthAdapter) (elem : AuthElem) : Option (AuthAdapter × List AuthEffect) :=
  if shortAt elem.msg 26 = 1 then apPeerAuthReqAtIdleAction c s elem
  else if shortAt elem.msg 26 = 3 then apPeerAuthConfirmAction c s elem
  else some (s, [])

end actions

end Mt7612u.Ap
