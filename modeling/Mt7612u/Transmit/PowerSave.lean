import Mt7612u.Transmit.SendPacket

/-! The power-save queues of `ps.c`: PS-Polls, changes of a station's power mode, the clean-up of
a queue, and what the MAC table does to the queue of an entry it makes or deletes. -/

namespace Mt7612u.Transmit
open BlockAck (Packet Wcid maxLenOfMacTable)
open Mgmt (MacAddr)

/-- A loop `while (PsQueue.Head)` whose body takes the head off; `fuel` bounds its rounds. -/
def whileHead (body : TxAdapter → TxAdapter) (wcid : Wcid) : Nat → TxAdapter → TxAdapter
  | 0, pAd => pAd
  | fuel + 1, pAd =>
      if (pAd.psQueue wcid).entries = [] then pAd else whileHead body wcid fuel (body pAd)

/-- `RtmpCleanupPsQueue`, and `APCleanupPsQueue`, for the queue of a station. -/
def rtmpCleanupPsQueue (pAd : TxAdapter) (wcid : Wcid) : TxAdapter :=
  whileHead (·.freePsQueueHead wcid) wcid (pAd.psQueue wcid).entries.length pAd

/-- The move of all packets to the software queue when a station wakes. -/
def moveAll (pAd : TxAdapter) (wcid : Wcid) : TxAdapter :=
  whileHead (·.movePsQueueHead wcid) wcid (pAd.psQueue wcid).entries.length pAd

/-- The answer to one PS-Poll: a packet, marked when more wait, or a null frame. -/
def answerPoll (pAd : TxAdapter) (wcid : Wcid) : TxAdapter :=
  match (pAd.psQueue wcid).removeHeadQueue with
  | some (pPacket, rest) =>
      let pAd' := pAd.movePsQueueHead wcid
      if 1 ≤ rest.number then
        { pAd' with moreData := Function.update pAd'.moreData pPacket true }
      else pAd'
  | none =>
      let pMacEntry := pAd.content wcid
      { pAd with
        nullFrames := pAd.nullFrames ++
          [⟨pMacEntry.addr, pMacEntry.aid, pMacEntry.apidx, pMacEntry.wmmCapable⟩] }

def setPsQIdleCount (pAd : TxAdapter) (wcid : Wcid) (count : Nat) : TxAdapter :=
  pAd.setEntry wcid { pAd.content wcid with psQIdleCount := count }

/-- `WLAN_MR_TIM_BIT_CLEAR` for a station. -/
def clearTim (pAd : TxAdapter) (wcid : Wcid) : TxAdapter :=
  let pMacEntry := pAd.content wcid
  pAd.setTim pMacEntry.apidx ((pAd.timBitmaps pMacEntry.apidx).timBitClear pMacEntry.aid)

/-- The end of `RtmpHandleRxPsPoll`; `none` when it follows a null `wdev`. -/
def clearWhenEmpty (pAd : TxAdapter) (wcid : Wcid) : Option TxAdapter :=
  let pMacEntry := pAd.content wcid
  if 0 < pMacEntry.aid.toNat ∧ pMacEntry.aid.toNat < maxLenOfMacTable ∧
      pMacEntry.psQueue.number = 0 then
    pMacEntry.wdev.map fun wdev =>
      setPsQIdleCount (if wdev.wdevTypeAp then clearTim pAd wcid else pAd) wcid 0
  else some pAd

/-- `RtmpHandleRxPsPoll`, less the dequeuing at its end. -/
def rtmpHandleRxPsPoll (pAd : TxAdapter) (pAddr : MacAddr) (wcid : Wcid) (isActive : Bool) :
    Option TxAdapter :=
  if (pAd.content wcid).addr = pAddr then
    clearWhenEmpty (if isActive then moveAll pAd wcid else answerPoll pAd wcid) wcid
  else some pAd

def setPsMode (pAd : TxAdapter) (wcid : Wcid) (psm : PsMode) : TxAdapter :=
  pAd.setEntry wcid { pAd.content wcid with psMode := psm }

/-- `RtmpPsIndicate`. -/
def rtmpPsIndicate (pAd : TxAdapter) (pAddr : MacAddr) (wcid : Nat) (psm : PsMode) :
    Option TxAdapter :=
  if inside : wcid < maxLenOfMacTable then
    let index : Wcid := ⟨wcid, inside⟩
    if (pAd.content index).psMode = .pwrSave ∧ psm = .pwrActive then
      rtmpHandleRxPsPoll (setPsMode pAd index psm) pAddr index true
    else some (setPsMode pAd index psm)
  else some pAd

/-- `MacTableMaintenance`: "garbage collect the PsQueue if the STA has being idle for a while". -/
def collectPsQueue (pAd : TxAdapter) (wcid : Wcid) : TxAdapter :=
  if (pAd.psQueue wcid).entries = [] then setPsQIdleCount pAd wcid 0
  else
    let idle := (pAd.content wcid).psQIdleCount + 1
    if 3 < idle then clearTim (setPsQIdleCount (rtmpCleanupPsQueue pAd wcid) wcid 0) wcid
    else setPsQIdleCount pAd wcid idle

/-- `MacTableDeleteEntry`, as far as the entry and its queue go. -/
def macTableDeleteEntry (pAd : TxAdapter) (wcid : Nat) (pAddr : MacAddr) : TxAdapter :=
  if inside : wcid < maxLenOfMacTable then
    let index : Wcid := ⟨wcid, inside⟩
    if (pAd.content index).entryType ≠ .none ∧ (pAd.content index).addr = pAddr then
      let pAd' := rtmpCleanupPsQueue pAd index
      pAd'.setEntry index
        { pAd'.content index with
          addr := fun _ => 0
          entryType := .none
          portSecured := false }
    else pAd
  else pAd

/-- `MacTableInsertEntry`, as far as the entry and its queue go, at the vacancy it has found.
The entry at index 0 is no vacancy: "so that entry index == AID". -/
def macTableInsertEntry (pAd : TxAdapter) (i : Wcid) (pAddr : MacAddr) (wdev : Wdev)
    (apidx : BitVec 8) : TxAdapter :=
  if (pAd.content i).entryType = .none ∧ i ≠ mcastWcid then
    pAd.setEntry i
      { entryType := .client
        wdev := some wdev
        addr := pAddr
        aid := BitVec.ofNat 16 i
        apidx := apidx
        associated := false
        portSecured := false
        psMode := .pwrActive
        wmmCapable := false
        psQIdleCount := 0
        psQueue := .empty }
  else pAd

/-- `RTMPDeQueuePacket` takes the head of a software queue. -/
def rtmpDeQueuePacket (pAd : TxAdapter) (queIdx : QueIdx) : TxAdapter :=
  match (pAd.txSwQueue queIdx).removeHeadQueue with
  | none => pAd
  | some (_, rest) => { pAd with txSwQueue := Function.update pAd.txSwQueue queIdx rest }

/-- The calls of a run. The last two stand for the state machines of association and of the
handshake, and for `MacTableMaintenance`, which write these fields. -/
inductive PsCall where
  | apSendPacket (pPacket : TxPacket)
  | apInsertPsQueue (pPacket : Packet) (wcid : Wcid)
  | rtmpHandleRxPsPoll (pAddr : MacAddr) (wcid : Wcid) (isActive : Bool)
  | rtmpPsIndicate (pAddr : MacAddr) (wcid : Nat) (psm : PsMode)
  | collectPsQueue (wcid : Wcid)
  | macTableDeleteEntry (wcid : Nat) (pAddr : MacAddr)
  | macTableInsertEntry (i : Wcid) (pAddr : MacAddr) (wdev : Wdev) (apidx : BitVec 8)
  | rtmpDeQueuePacket (queIdx : QueIdx)
  | writeEntry (wcid : Wcid) (associated portSecured wmmCapable : Bool)
  | writeAnyStationInPsm (fAnyStationInPsm : Bool)

/-- One call; `none` when it follows a null pointer. -/
def psStep (setting : TxSetting) (pAd : TxAdapter) : PsCall → Option TxAdapter
  | .apSendPacket pPacket => (apSendPacket setting pAd pPacket).map Prod.fst
  | .apInsertPsQueue pPacket wcid => some (apInsertPsQueue pAd pPacket wcid).1
  | .rtmpHandleRxPsPoll pAddr wcid isActive => rtmpHandleRxPsPoll pAd pAddr wcid isActive
  | .rtmpPsIndicate pAddr wcid psm => rtmpPsIndicate pAd pAddr wcid psm
  | .collectPsQueue wcid => some (collectPsQueue pAd wcid)
  | .macTableDeleteEntry wcid pAddr => some (macTableDeleteEntry pAd wcid pAddr)
  | .macTableInsertEntry i pAddr wdev apidx => some (macTableInsertEntry pAd i pAddr wdev apidx)
  | .rtmpDeQueuePacket queIdx => some (rtmpDeQueuePacket pAd queIdx)
  | .writeEntry wcid associated portSecured wmmCapable =>
      some (pAd.setEntry wcid
        { pAd.content wcid with
          associated := associated
          portSecured := portSecured
          wmmCapable := wmmCapable })
  | .writeAnyStationInPsm fAnyStationInPsm =>
      some { pAd with fAnyStationInPsm := fAnyStationInPsm }

end Mt7612u.Transmit
