import Mt7612u.BlockAck.Adapter

/-! The functions of `ba_action.c` that set sessions up and tear them down. -/

namespace Mt7612u.BlockAck

/-- `ORI_SESSION_MAX_RETRY`. -/
def oriSessionMaxRetry : Nat := 8

/-- The fields of `FRAME_ADDBA_REQ` that `BARecSessionAdd` reads. -/
structure AddbaReq where
  tid : Tid
  bufSize : BitVec 10
  timeOutValue : BitVec 16

/-- The bit `1 << TID`. -/
def tidBit (tid : Tid) : BitVec 16 := 1#16 <<< tid.val

/-- The first entry from 1 on that is free. -/
def firstFree (free : BaIdx → Bool) : Option BaIdx :=
  (List.finRange maxLenOfBaTable).find? fun i => decide (i ≠ 0) && free i

/-- `BATableAllocRecEntry`: the entry it returns, `*Idx`, and the adapter. A loop that finds
no free entry leaves the last one in `pBAEntry`. -/
def baTableAllocRecEntry (pAd : RtmpAdapter) (idx : BaIdx) : Option BaIdx × BaIdx × RtmpAdapter :=
  if pAd.numAsRecipient ≥ maxLenOfBaTable - 1 then (none, idx, pAd)
  else
    match firstFree fun i => (pAd.baRecEntry i).recBAStatus == .none with
    | some i =>
        (some i, i, (pAd.setNumAsRecipient (pAd.numAsRecipient + 1)).setRecEntry i
          { pAd.baRecEntry i with recBAStatus := .used })
    | none => (some lastEntry, idx, pAd)

/-- `BATableAllocOriEntry`. -/
def baTableAllocOriEntry (pAd : RtmpAdapter) (idx : BaIdx) : Option BaIdx × BaIdx × RtmpAdapter :=
  if pAd.numAsOriginator ≥ maxLenOfBaTable - 1 then (none, idx, pAd)
  else
    match firstFree fun i => (pAd.baOriEntry i).oriBAStatus == .none with
    | some i =>
        (some i, i, (pAd.setNumAsOriginator (pAd.numAsOriginator + 1)).setOriEntry i
          { pAd.baOriEntry i with oriBAStatus := .used })
    | none => (some lastEntry, idx, pAd)

/-- `BATableFreeOriEntry`. -/
def baTableFreeOriEntry (pAd : RtmpAdapter) (idx : BaIdx) : RtmpAdapter :=
  let pBAEntry := pAd.baOriEntry idx
  if idx = 0 then pAd
  else if pBAEntry.oriBAStatus ≠ .none then
    let pAd := pAd.onStation pBAEntry.wcid fun pEntry =>
      { pEntry with baOriWcidArray := Function.update pEntry.baOriWcidArray pBAEntry.tid 0 }
    let pAd := if pBAEntry.oriBAStatus = .done then
        (pAd.setNumDoneOriginator (pAd.numDoneOriginator - 1)).onStation pBAEntry.wcid
          fun pEntry => { pEntry with txBAbitmap := pEntry.txBAbitmap &&& ~~~tidBit pBAEntry.tid }
      else pAd
    let pAd := pAd.assert (pAd.numAsOriginator != 0)
    (pAd.setNumAsOriginator (pAd.numAsOriginator - 1)).setOriEntry idx
      { pBAEntry with oriBAStatus := .none, token := 0 }
  else pAd

/-- `BATableFreeRecEntry`. -/
def baTableFreeRecEntry (pAd : RtmpAdapter) (idx : BaIdx) : RtmpAdapter :=
  let pBAEntry := pAd.baRecEntry idx
  if idx = 0 then pAd
  else if pBAEntry.recBAStatus ≠ .none then
    let pAd := pAd.onStation pBAEntry.wcid fun pEntry =>
      { pEntry with baRecWcidArray := Function.update pEntry.baRecWcidArray pBAEntry.tid 0 }
    let pAd := pAd.assert (pAd.numAsRecipient != 0)
    (pAd.setNumAsRecipient (pAd.numAsRecipient - 1)).setRecEntry idx
      { pBAEntry with recBAStatus := .none }
  else pAd

/-- `BAOriSessionSetUp` for the station `pEntry`. `fixedTxModeHT` is what
`RTMPStaFixedTxMode` says of it; the delay of the timer it starts is left out. -/
def baOriSessionSetUp (pAd : RtmpAdapter) (pEntry : Wcid) (tid : Tid)
    (isForced fixedTxModeHT : Bool) : RtmpAdapter :=
  if !pAd.autoBA && !isForced then pAd
  else if !fixedTxModeHT then pAd
  else
    let idx := (pAd.content pEntry).baOriWcidArray tid
    let (pBAEntry, idx, pAd) :=
      if idx = 0 then baTableAllocOriEntry pAd idx else (some idx, idx, pAd)
    match pBAEntry with
    | none => pAd
    | some pBAEntry =>
        let status := (pAd.baOriEntry pBAEntry).oriBAStatus
        if status = .waitRes ∨ status = .done then pAd
        else
          let pAd := pAd.onStation pEntry fun station =>
            { station with baOriWcidArray := Function.update station.baOriWcidArray tid idx }
          pAd.setOriEntry pBAEntry ⟨pEntry, tid, 1, .waitRes⟩

/-- `BAOriSessionAdd` for a response with the TID `tid`. -/
def baOriSessionAdd (pAd : RtmpAdapter) (pEntry : Wcid) (tid : Tid) : RtmpAdapter :=
  let idx := (pAd.content pEntry).baOriWcidArray tid
  let pBAEntry := pAd.baOriEntry idx
  if idx ≠ 0 ∧ pBAEntry.tid = tid ∧ pBAEntry.oriBAStatus = .waitRes then
    ((pAd.setOriEntry idx { pBAEntry with oriBAStatus := .done }).setNumDoneOriginator
      (pAd.numDoneOriginator + 1)).onStation pEntry fun station =>
        { station with txBAbitmap := station.txBAbitmap ||| tidBit tid }
  else pAd

/-- What `BARecSessionAdd` writes into the entry. -/
def startRecSession (pEntry : Wcid) (tid : Tid) (baWinSize timeOutValue : Nat) (s : Session) :
    Session :=
  let s := s.assert (s.entry.list.qlen == 0)
  let entry : BaRecEntry :=
    { s.entry with
      recBAStatus := .accept, baWinSize := baWinSize, wcid := pEntry, tid := tid
      timeOutValue := timeOutValue }
  { s with entry := entry }.setLastIndSeq resetRcvSeq

/-- The window `BARecSessionAdd` grants. -/
def grantedWinSize (pAd : RtmpAdapter) (pFrame : AddbaReq) : Nat :=
  let baWinSize := min (pFrame.bufSize.toNat % 256) pAd.rxBAWinLimit.toNat
  if baWinSize = 0 then 64 else baWinSize

/-- `BARecSessionAdd`. -/
def baRecSessionAdd (pAd : RtmpAdapter) (pEntry : Wcid) (pFrame : AddbaReq) : Bool × RtmpAdapter :=
  let tid := pFrame.tid
  let baWinSize := grantedWinSize pAd pFrame
  let idx := (pAd.content pEntry).baRecWcidArray tid
  let (pBAEntry, idx, pAd) :=
    if idx = 0 then baTableAllocRecEntry pAd idx
    else (some idx, idx, pAd.onSession idx baRefreshReorderingMpdus)
  match pBAEntry with
  | none => (false, pAd)
  | some pBAEntry =>
      let pAd := pAd.onSession pBAEntry
        (startRecSession pEntry tid baWinSize pFrame.timeOutValue.toNat)
      (true, pAd.onStation pEntry fun station =>
        { station with
          rxBAbitmap := station.rxBAbitmap ||| tidBit tid
          baRecWcidArray := Function.update station.baRecWcidArray tid idx
          baDeclineBitmap := station.baDeclineBitmap &&& ~~~tidBit tid })

/-- `BAOriSessionTearDown`. `elem` is whether `kmalloc` had memory for the DELBA message;
sending it changes nothing here, and so does a DELBA sent for want of a session. -/
def baOriSessionTearDown (pAd : RtmpAdapter) (wcid : BitVec 8) (tid : Tid) (bPassive elem : Bool) :
    RtmpAdapter :=
  if known : wcid.toNat < maxLenOfMacTable then
    let idx := (pAd.content ⟨wcid.toNat, known⟩).baOriWcidArray tid
    if idx = 0 then pAd
    else
      let pBAEntry := pAd.baOriEntry idx
      if !bPassive ∧ tid = pBAEntry.tid ∧ pBAEntry.oriBAStatus = .done ∧ !elem then pAd
      else baTableFreeOriEntry pAd idx
  else pAd

/-- What `BARecSessionTearDown` writes into the entry, after the refresh. -/
def stopRecSession (s : Session) : Session :=
  let s := baRefreshReorderingMpdus s
  { s with entry := { s.entry with baWinSize := 0 } }.setLastIndSeq resetRcvSeq

/-- `BARecSessionTearDown`. -/
def baRecSessionTearDown (pAd : RtmpAdapter) (wcid : BitVec 8) (tid : Tid) (bPassive elem : Bool) :
    RtmpAdapter :=
  if known : wcid.toNat < maxLenOfMacTable then
    let idx := (pAd.content ⟨wcid.toNat, known⟩).baRecWcidArray tid
    let pBAEntry := pAd.baRecEntry idx
    if idx = 0 then pAd
    else if tid = pBAEntry.tid ∧ pBAEntry.recBAStatus = .accept then
      if !bPassive ∧ !elem then pAd
      else
        let pAd := (pAd.onSession idx stopRecSession).onStation ⟨wcid.toNat, known⟩ fun station =>
          { station with
            rxBAbitmap := station.rxBAbitmap &&& ~~~tidBit pBAEntry.tid
            baRecWcidArray := Function.update station.baRecWcidArray tid 0 }
        baTableFreeRecEntry pAd idx
    else baTableFreeRecEntry pAd idx
  else pAd

/-- `BASessionTearDownALL`; `elem` says for each TID whether its two messages got memory. -/
def baSessionTearDownALL (pAd : RtmpAdapter) (wcid : BitVec 8) (elem : Tid → Bool × Bool) :
    RtmpAdapter :=
  (List.finRange numOfTid).foldl (fun pAd i =>
    baRecSessionTearDown (baOriSessionTearDown pAd wcid i false (elem i).1) wcid i false (elem i).2)
    pAd

/-- `BAOriSessionSetupTimeout` of the entry `idx`; it does nothing in the monitor mode, and
during a scan it only waits on. -/
def baOriSessionSetupTimeout (pAd : RtmpAdapter) (idx : BaIdx) (monitor scanning : Bool) :
    RtmpAdapter :=
  let pBAEntry := pAd.baOriEntry idx
  if monitor then pAd
  else if pBAEntry.oriBAStatus = .waitRes ∧ pBAEntry.token.toNat < oriSessionMaxRetry then
    if scanning then pAd
    else pAd.setOriEntry idx { pBAEntry with token := pBAEntry.token + 1 }
  else baTableFreeOriEntry pAd ((pAd.content pBAEntry.wcid).baOriWcidArray pBAEntry.tid)

end Mt7612u.BlockAck
