import Mt7612u.BlockAck.ReorderList
import Mt7612u.Receive.Convert8023

/-! The receive reorder buffer of `ba_action.c`, as one recipient session sees it.
The functions that take `pAd` and `pBAEntry` work on a `Session`: the entry, the free
list of the block pool, and a log of what they did to packets and to `LastIndSeq`. -/

namespace Mt7612u.BlockAck
open Receive

def maxLenOfMacTable : Nat := 116
def numOfTid : Nat := 8

theorem maxLenOfMacTable_pos : 0 < maxLenOfMacTable := by decide
theorem one_lt_maxLenOfMacTable : 1 < maxLenOfMacTable := by decide
theorem numOfTid_pos : 0 < numOfTid := by decide

inductive RecBAStatus where
  | none
  | used
  | handleRes
  | accept
  deriving DecidableEq, Repr

/-- `BA_REC_ENTRY`. -/
structure BaRecEntry where
  wcid : Fin maxLenOfMacTable
  tid : Fin numOfTid
  baWinSize : Nat
  lastIndSeq : Nat
  timeOutValue : Nat
  lastIndSeqAtTimer : BitVec 64
  nDropPacket : Nat
  rcvSeq : Nat
  recBAStatus : RecBAStatus
  list : ReorderingList
  deriving DecidableEq

/-- The fields of `RX_BLK` that the reorder path reads. `pData` are the bytes from
`pRxBlk->pData` on, `sequence` is `pRxBlk->pHeader->Sequence`. -/
structure RxBlk where
  pRxPacket : Packet
  sequence : BitVec 12
  pData : Memory
  dataSize : BitVec 16
  fRXAMSDU : Bool
  fRXEAP : Bool
  wcid : BitVec 8
  tid : Fin numOfTid
  opMode : OpMode

/-- What the reorder path does that can be seen from outside it. -/
inductive Outcome where
  /-- handed to the upper layer, an A-MSDU through `deaggregate_AMSDU_announce` -/
  | indicate (packet : Packet) (sequence : Nat)
  /-- its bytes copied to the MLME queue -/
  | reportMlme (packet : Packet) (sequence : Nat)
  /-- turned away at the hand-off by its size or its EAPOL header -/
  | refused (sequence : Nat)
  | kfree (packet : Packet)
  | lastIndSeq (value : Nat)
  /-- a BAR moved the window -/
  | bar (startSeq : Nat)
  | assertFailed
  deriving DecidableEq, Repr

/-- What stays fixed while frames come in. -/
structure Env where
  osHz : Nat
  opMode : OpMode
  wpaSupplicantUP : Bool
  bDisableReordering : Bool

structure Session where
  idx : Nat
  entry : BaRecEntry
  freelist : ReorderingList
  log : List Outcome

/-- `RTMP_TIME_AFTER`. -/
def rtmpTimeAfter (a b : BitVec 64) : Bool := (b - a).slt 0

def reorderingPacketTimeout (env : Env) : BitVec 64 := .ofNat 64 (100 * env.osHz / 1000)
def maxReorderingPacketTimeout (env : Env) : BitVec 64 := .ofNat 64 (3000 * env.osHz / 1000)
def recBASessionIdleTimeout : BitVec 64 := 1000

namespace Session

def record (s : Session) (outcome : Outcome) : Session := { s with log := s.log ++ [outcome] }

def assert (s : Session) (holds : Bool) : Session := if holds then s else s.record .assertFailed

def setList (s : Session) (list : ReorderingList) : Session :=
  { s with entry := { s.entry with list := list } }

def setTimer (s : Session) (now32 : BitVec 64) : Session :=
  { s with entry := { s.entry with lastIndSeqAtTimer := now32 } }

def setLastIndSeq (s : Session) (value : Nat) : Session :=
  { s with entry := { s.entry with lastIndSeq := value }, log := s.log ++ [.lastIndSeq value] }

def dropPacket (s : Session) (packet : Packet) : Session :=
  { s with entry := { s.entry with nDropPacket := s.entry.nDropPacket + 1 },
           log := s.log ++ [.kfree packet] }

end Session

/-- `ANNOUNCE_REORDERING_PACKET`. -/
def announceReorderingPacket (s : Session) (mpdu : ReorderingMpdu) : Session :=
  s.record (.indicate mpdu.pPacket mpdu.sequence)

/-- `ba_mpdu_blk_alloc`. The block comes back zeroed. -/
def baMpduBlkAlloc (s : Session) : Option ReorderingMpdu × Session :=
  let taken := baDequeue s.freelist
  (taken.1.map fun mpduBlk => ⟨mpduBlk.addr, 0, 0, false, .sta⟩, { s with freelist := taken.2 })

def baMpduBlkFree (s : Session) (mpduBlk : ReorderingMpdu) : Session :=
  { s with freelist := baEnqueue s.freelist mpduBlk }

/-- The loop of `ba_indicate_reordering_mpdus_in_order`; the fuel is the chain's length. -/
def inOrderLoop : Nat → Session → Nat → Nat → Session × Nat
  | 0, s, _, lastIndSeq => (s, lastIndSeq)
  | fuel + 1, s, startSeq, lastIndSeq =>
      match baReorderingMpduProbe s.entry.list with
      | none => (s, lastIndSeq)
      | some mpduBlk =>
          if seqStepOne mpduBlk.sequence startSeq maxSeq then
            match baReorderingMpduDequeue s.entry.list with
            -- the driver would dereference NULL: the counter never runs out before the chain
            | (none, _) => (s, lastIndSeq)
            | (some mpduBlk, list) =>
                inOrderLoop fuel (baMpduBlkFree (announceReorderingPacket (s.setList list) mpduBlk)
                  mpduBlk) mpduBlk.sequence mpduBlk.sequence
          else (s, lastIndSeq)

def baIndicateReorderingMpdusInOrder (s : Session) (startSeq : Nat) : Session × Nat :=
  inOrderLoop s.entry.list.next.length s startSeq resetRcvSeq

/-- The in-order run above `LastIndSeq` is indicated and `LastIndSeq` follows it. -/
def indicateInOrder (s : Session) : Session :=
  let (s, lastIndSeq) := baIndicateReorderingMpdusInOrder s s.entry.lastIndSeq
  if lastIndSeq ≠ resetRcvSeq then s.setLastIndSeq lastIndSeq else s

/-- The loop of `ba_indicate_reordering_mpdus_le_seq`. -/
def leSeqLoop : Nat → Session → Nat → Session
  | 0, s, _ => s
  | fuel + 1, s, sequence =>
      match baReorderingMpduProbe s.entry.list with
      | none => s
      | some mpduBlk =>
          if mpduBlk.sequence = sequence ∨ seqSmaller mpduBlk.sequence sequence maxSeq = true then
            match baReorderingMpduDequeue s.entry.list with
            | (none, _) => s
            | (some mpduBlk, list) =>
                leSeqLoop fuel (baMpduBlkFree (announceReorderingPacket (s.setList list) mpduBlk)
                  mpduBlk) sequence
          else s

def baIndicateReorderingMpdusLeSeq (s : Session) (sequence : Nat) : Session :=
  leSeqLoop s.entry.list.next.length s sequence

/-- The loop of `ba_refresh_reordering_mpdus`. -/
def refreshLoop : Nat → Session → Session
  | 0, s => s
  | fuel + 1, s =>
      match baReorderingMpduDequeue s.entry.list with
      | (none, _) => s
      | (some mpduBlk, list) =>
          refreshLoop fuel (baMpduBlkFree ((announceReorderingPacket (s.setList list)
            mpduBlk).setLastIndSeq mpduBlk.sequence) mpduBlk)

def baRefreshReorderingMpdus (s : Session) : Session :=
  let s := refreshLoop s.entry.list.next.length s
  (s.assert (s.entry.list.qlen == 0)).setLastIndSeq resetRcvSeq

/-- The first test of `ba_flush_reordering_timeout_mpdus`: everything is flushed. -/
def flushAllDue (env : Env) (s : Session) (now32 : BitVec 64) : Bool :=
  rtmpTimeAfter now32 (s.entry.lastIndSeqAtTimer + maxReorderingPacketTimeout env / 6) &&
    decide (s.entry.list.qlen > 1)

/-- Its second test: the window is forced one number on. -/
def flushOneDue (env : Env) (s : Session) (now32 : BitVec 64) : Bool :=
  rtmpTimeAfter now32 (s.entry.lastIndSeqAtTimer + reorderingPacketTimeout env) &&
    decide (s.entry.list.qlen > 0)

def baFlushReorderingTimeoutMpdus (env : Env) (s : Session) (now32 : BitVec 64) : Session :=
  if s.entry.list.qlen = 0 then s
  else if flushAllDue env s now32 then (baRefreshReorderingMpdus s).setTimer now32
  else if flushOneDue env s now32 then
    let sequence := (s.entry.lastIndSeq + 1) &&& maxSeq
    indicateInOrder
      (((baIndicateReorderingMpdusLeSeq s sequence).setTimer now32).setLastIndSeq sequence)
  else s

/-- `BARecSessionIdleTimeout`. -/
def baRecSessionIdleTimeout (s : Session) (now32 : BitVec 64) : Session :=
  if s.entry.recBAStatus = .accept ∧
      rtmpTimeAfter now32 (s.entry.lastIndSeqAtTimer + recBASessionIdleTimeout) = true then
    baRefreshReorderingMpdus s
  else s

/-- `Indicate_AMSDU_Packet`. -/
def indicateAMSDUPacket (s : Session) (pRxBlk : RxBlk) : Session :=
  s.record (.indicate pRxBlk.pRxPacket pRxBlk.sequence.toNat)

/-- `DataSize` once `CFG80211_Convert802_3Packet` has run. -/
def RxBlk.convertedSize (pRxBlk : RxBlk) : Nat :=
  (convertTo8023 pRxBlk.pData 0 0 0 pRxBlk.dataSize.toNat).dataSize

/-- A packet turned away where it should be handed up. -/
def refusePacket (s : Session) (pRxBlk : RxBlk) : Session :=
  (s.record (.refused pRxBlk.sequence.toNat)).record (.kfree pRxBlk.pRxPacket)

/-- `Indicate_Legacy_Packet`. It reads the clock again and may flush the very session
whose frame it is about to hand up. -/
def indicateLegacyPacket (env : Env) (s : Session) (pRxBlk : RxBlk) (now32 : BitVec 64) : Session :=
  if pRxBlk.convertedSize > maxRxPktLen then refusePacket s pRxBlk
  else
    let flushes := !env.bDisableReordering && decide (s.idx ≠ 0) &&
      decide (s.entry.list.qlen > 0) &&
      rtmpTimeAfter now32 (s.entry.lastIndSeqAtTimer + reorderingPacketTimeout env)
    let s := if flushes then baFlushReorderingTimeoutMpdus env s now32 else s
    s.record (.indicate pRxBlk.pRxPacket pRxBlk.sequence.toNat)

def lengthEapolH : Nat := 4
def eapolASFAlert : Nat := 4

/-- `APRxEAPOLFrameIndicate`, as built with cfg80211. -/
def apRxEAPOLFrameIndicate (env : Env) (s : Session) (pRxBlk : RxBlk) (now32 : BitVec 64) :
    Session :=
  if pRxBlk.dataSize.toNat < length8021H + lengthEapolH then refusePacket s pRxBlk
  else if !pRxBlk.pData.equal 0 snap8021H then refusePacket s pRxBlk
  else if !pRxBlk.pData.equal 6 eapol then refusePacket s pRxBlk
  else if (pRxBlk.pData 9).toNat > eapolASFAlert then refusePacket s pRxBlk
  else indicateLegacyPacket env s pRxBlk now32

/-- `STARxEAPOLFrameIndicate`, less the key and port state it also sets. -/
def staRxEAPOLFrameIndicate (env : Env) (s : Session) (pRxBlk : RxBlk) (now32 : BitVec 64) :
    Session :=
  if env.wpaSupplicantUP then indicateLegacyPacket env s pRxBlk now32
  else (s.record (.reportMlme pRxBlk.pRxPacket pRxBlk.sequence.toNat)).record
    (.kfree pRxBlk.pRxPacket)

/-- `Indicate_EAPOL_Packet`. -/
def indicateEAPOLPacket (env : Env) (s : Session) (pRxBlk : RxBlk) (now32 : BitVec 64) : Session :=
  if pRxBlk.wcid.toNat ≥ maxLenOfMacTable then refusePacket s pRxBlk
  else
    match env.opMode with
    | .ap => apRxEAPOLFrameIndicate env s pRxBlk now32
    | .sta => staRxEAPOLFrameIndicate env s pRxBlk now32

/-- `INDICATE_LEGACY_OR_AMSDU`. -/
def indicateLegacyOrAMSDU (env : Env) (s : Session) (pRxBlk : RxBlk) (now32 : BitVec 64) :
    Session :=
  if pRxBlk.fRXAMSDU then indicateAMSDUPacket s pRxBlk
  else if pRxBlk.fRXEAP then indicateEAPOLPacket env s pRxBlk now32
  else indicateLegacyPacket env s pRxBlk now32

/-- The other branch of `ba_enqueue_reordering_packet`: the frame is not buffered, and
what the buffer holds up to it goes up before it. -/
def indicateThrough (env : Env) (s : Session) (pRxBlk : RxBlk) (now32 : BitVec 64) : Session :=
  let sequence := pRxBlk.sequence.toNat
  indicateLegacyOrAMSDU env
    ((baIndicateReorderingMpdusLeSeq s sequence).setLastIndSeq sequence) pRxBlk now32

/-- A block filled in for a frame. -/
def RxBlk.toMpdu (pRxBlk : RxBlk) (mpduBlk : ReorderingMpdu) : ReorderingMpdu :=
  { mpduBlk with
    sequence := pRxBlk.sequence.toNat
    opMode := pRxBlk.opMode
    bAMSDU := pRxBlk.fRXAMSDU
    pPacket := pRxBlk.pRxPacket }

/-- The filled block goes into the list, or back to the pool if its number is there already. -/
def insertMpdu (s : Session) (mpduBlk : ReorderingMpdu) : Session :=
  match baReorderingMpduInsertsorted s.entry.list mpduBlk with
  | (true, list) => s.setList list
  | (false, list) => baMpduBlkFree ((s.setList list).record (.kfree mpduBlk.pPacket)) mpduBlk

/-- `ba_enqueue_reordering_packet`. `now32` is the clock as `Indicate_Legacy_Packet`
reads it, should the frame be indicated after all. -/
def baEnqueueReorderingPacket (env : Env) (s : Session) (pRxBlk : RxBlk) (now32 : BitVec 64) :
    Session :=
  match baMpduBlkAlloc s with
  | (some mpduBlk, s) =>
      if !pRxBlk.fRXEAP then
        let s := insertMpdu s (pRxBlk.toMpdu mpduBlk)
        s.assert (decide (s.entry.list.qlen ≤ s.entry.baWinSize))
      else indicateThrough env s pRxBlk now32
  | (none, s) => indicateThrough env s pRxBlk now32

/-- The cases `Indicate_AMPDU_Packet` tells apart, I to V in its own numbering. -/
inductive Arrival where
  | first
  | inOrder
  | duplicated
  | old
  | withinWindow
  | surpasses
  deriving DecidableEq, Repr

def arrival (pBAEntry : BaRecEntry) (sequence : Nat) : Arrival :=
  if pBAEntry.lastIndSeq = resetRcvSeq then .first
  else if seqStepOne sequence pBAEntry.lastIndSeq maxSeq then .inOrder
  else if sequence = pBAEntry.lastIndSeq then .duplicated
  else if seqSmaller sequence pBAEntry.lastIndSeq maxSeq then .old
  else if seqSmaller sequence ((pBAEntry.lastIndSeq + pBAEntry.baWinSize + 1) &&& maxSeq) maxSeq then
    .withinWindow
  else .surpasses

/-- The session as the frame finds it, after the timeout flush that comes first. -/
def meetFrame (env : Env) (s : Session) (pRxBlk : RxBlk) (now32 : BitVec 64) : Session :=
  let s := { s with entry := { s.entry with rcvSeq := pRxBlk.sequence.toNat } }
  (baFlushReorderingTimeoutMpdus env s now32).setTimer now32

/-- The window start that puts `sequence` at the window's end. -/
def winStartSeq (pBAEntry : BaRecEntry) (sequence : Nat) : Nat :=
  let tmpSeq : Int := (sequence : Int) - pBAEntry.baWinSize - 1
  let tmpSeq := if tmpSeq < 0 then (maxSeq + 1) + tmpSeq else tmpSeq
  (tmpSeq + 1).toNat &&& maxSeq

/-- The window moved so that `sequence` is its last number. -/
def shiftWindow (s : Session) (sequence : Nat) (now32 : BitVec 64) : Session :=
  let winStartSeq := winStartSeq s.entry sequence
  ((baIndicateReorderingMpdusLeSeq s winStartSeq).setLastIndSeq winStartSeq).setTimer now32

/-- `Indicate_AMPDU_Packet`, once the session of the frame is known. -/
def reorderAMPDUPacket (env : Env) (s : Session) (pRxBlk : RxBlk) (now32 legacyNow32 : BitVec 64) :
    Session :=
  let sequence := pRxBlk.sequence.toNat
  let s := meetFrame env s pRxBlk now32
  match arrival s.entry sequence with
  | .first =>
      let s := s.assert (s.entry.list.qlen == 0 && s.entry.list.next.isEmpty)
      indicateLegacyOrAMSDU env ((s.setLastIndSeq sequence).setTimer now32) pRxBlk legacyNow32
  | .inOrder =>
      let s := indicateLegacyOrAMSDU env (s.setLastIndSeq sequence) pRxBlk legacyNow32
      (indicateInOrder s).setTimer now32
  | .duplicated => s.dropPacket pRxBlk.pRxPacket
  | .old => s.dropPacket pRxBlk.pRxPacket
  | .withinWindow => baEnqueueReorderingPacket env s pRxBlk legacyNow32
  | .surpasses =>
      indicateInOrder (baEnqueueReorderingPacket env (shiftWindow s sequence now32) pRxBlk legacyNow32)

/-- `Indicate_AMPDU_Packet`. `now32` and `legacyNow32` are the two readings of the clock. -/
def indicateAMPDUPacket (env : Env) (s : Session) (pRxBlk : RxBlk) (now32 legacyNow32 : BitVec 64) :
    Session :=
  if !pRxBlk.fRXAMSDU ∧ pRxBlk.dataSize.toNat > maxRxPktLen then
    s.record (.kfree pRxBlk.pRxPacket)
  else if pRxBlk.wcid.toNat < maxLenOfMacTable then
    if s.idx = 0 then indicateLegacyOrAMSDU env s pRxBlk legacyNow32
    else reorderAMPDUPacket env s pRxBlk now32 legacyNow32
  else (s.record .assertFailed).record (.kfree pRxBlk.pRxPacket)

/-- The work of `CntlEnqueueForRecv` on the entry it found, for a BAR whose starting
sequence number is `startSeq`. -/
def barReorderingMpdus (s : Session) (startSeq : BitVec 12) : Session :=
  let startSeq := startSeq.toNat
  if seqSmaller s.entry.lastIndSeq startSeq maxSeq then
    ((baIndicateReorderingMpdusLeSeq s startSeq).record (.bar startSeq)).setLastIndSeq
      (if startSeq = 0 then maxSeq else startSeq - 1)
  else s

end Mt7612u.BlockAck
