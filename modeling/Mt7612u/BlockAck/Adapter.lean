import Mt7612u.BlockAck.Reorder

/-! The block-ack state of the adapter: the session table, the stations' indices into it,
and the pool of reordering blocks that all sessions share. -/

namespace Mt7612u.BlockAck
open Receive

abbrev Wcid := Fin maxLenOfMacTable
abbrev Tid := Fin numOfTid

/-- `MAX_LEN_OF_BA_REC_TABLE`, and `MAX_LEN_OF_BA_ORI_TABLE` as well. -/
def maxLenOfBaTable : Nat := numOfTid * maxLenOfMacTable / 2

/-- An index into one of the two tables. Index 0 is reserved. -/
abbrev BaIdx := Fin maxLenOfBaTable

instance : NeZero maxLenOfBaTable := ⟨by decide⟩

def lastEntry : BaIdx := ⟨maxLenOfBaTable - 1, by decide⟩

inductive OriBAStatus where
  | none
  | used
  | waitRes
  | done
  deriving DecidableEq, Repr

/-- `BA_ORI_ENTRY`, less what only the transmit path reads. -/
structure BaOriEntry where
  wcid : Wcid
  tid : Tid
  token : BitVec 8
  oriBAStatus : OriBAStatus

/-- The block-ack fields of `MAC_TABLE_ENTRY`. -/
structure MacTableEntry where
  rxBAbitmap : BitVec 16
  txBAbitmap : BitVec 16
  baDeclineBitmap : BitVec 16
  baRecWcidArray : Tid → BaIdx
  baOriWcidArray : Tid → BaIdx

structure RtmpAdapter where
  baRecEntry : BaIdx → BaRecEntry
  baOriEntry : BaIdx → BaOriEntry
  numAsRecipient : Nat
  numAsOriginator : Nat
  numDoneOriginator : Nat
  content : Wcid → MacTableEntry
  autoBA : Bool
  rxBAWinLimit : BitVec 8
  freelist : ReorderingList
  log : List Outcome

namespace RtmpAdapter

/-- One recipient entry together with the pool and the log. -/
def session (pAd : RtmpAdapter) (idx : BaIdx) : Session :=
  ⟨idx.val, pAd.baRecEntry idx, pAd.freelist, pAd.log⟩

/-- Runs a session function on the entry at `idx`. -/
def onSession (pAd : RtmpAdapter) (idx : BaIdx) (act : Session → Session) : RtmpAdapter :=
  let s := act (pAd.session idx)
  { pAd with
    baRecEntry := Function.update pAd.baRecEntry idx s.entry
    freelist := s.freelist
    log := s.log }

def onStation (pAd : RtmpAdapter) (wcid : Wcid) (act : MacTableEntry → MacTableEntry) :
    RtmpAdapter :=
  { pAd with content := Function.update pAd.content wcid (act (pAd.content wcid)) }

def record (pAd : RtmpAdapter) (outcome : Outcome) : RtmpAdapter :=
  { pAd with log := pAd.log ++ [outcome] }

def assert (pAd : RtmpAdapter) (holds : Bool) : RtmpAdapter :=
  if holds then pAd else pAd.record .assertFailed

def setRecEntry (pAd : RtmpAdapter) (idx : BaIdx) (entry : BaRecEntry) : RtmpAdapter :=
  { pAd with baRecEntry := Function.update pAd.baRecEntry idx entry }

def setOriEntry (pAd : RtmpAdapter) (idx : BaIdx) (entry : BaOriEntry) : RtmpAdapter :=
  { pAd with baOriEntry := Function.update pAd.baOriEntry idx entry }

def setNumAsRecipient (pAd : RtmpAdapter) (num : Nat) : RtmpAdapter :=
  { pAd with numAsRecipient := num }

def setNumAsOriginator (pAd : RtmpAdapter) (num : Nat) : RtmpAdapter :=
  { pAd with numAsOriginator := num }

def setNumDoneOriginator (pAd : RtmpAdapter) (num : Nat) : RtmpAdapter :=
  { pAd with numDoneOriginator := num }

end RtmpAdapter

/-- The state `BATableInit` leaves in zeroed memory. -/
structure RtmpAdapter.Blank (pAd : RtmpAdapter) : Prop where
  baRecEntry : ∀ idx, (pAd.baRecEntry idx).recBAStatus = .none ∧ (pAd.baRecEntry idx).list = .empty
  baOriEntry : ∀ idx, (pAd.baOriEntry idx).oriBAStatus = .none
  numAsRecipient : pAd.numAsRecipient = 0
  numAsOriginator : pAd.numAsOriginator = 0
  numDoneOriginator : pAd.numDoneOriginator = 0
  content : ∀ wcid, (pAd.content wcid).rxBAbitmap = 0 ∧ (pAd.content wcid).txBAbitmap = 0 ∧
    ∀ tid, (pAd.content wcid).baRecWcidArray tid = 0 ∧ (pAd.content wcid).baOriWcidArray tid = 0
  log : pAd.log = []

/-- The blocks `ba_reordering_resource_init` puts into the free list, the last one first. -/
def freshBlocks (num : Nat) : ReorderingList :=
  (List.range num).foldl (fun list addr => baEnqueue list ⟨addr, 0, 0, false, .sta⟩) .empty

/-- `ba_reordering_resource_init`; `mem` is whether the memory could be had. -/
def baReorderingResourceInit (pAd : RtmpAdapter) (num : Nat) (mem : Bool) : Bool × RtmpAdapter :=
  if mem then (true, { pAd with freelist := freshBlocks num })
  else (false, { pAd with freelist := .empty })

/-- The loop of `ba_reordering_resource_release` over one list. -/
def releaseLoop : Nat → Session → Session
  | 0, s => s
  | fuel + 1, s =>
      match baReorderingMpduDequeue s.entry.list with
      | (none, _) => s
      | (some mpduBlk, list) =>
          releaseLoop fuel (baMpduBlkFree (((s.setList list).assert (mpduBlk.pPacket != 0)).record
            (.kfree mpduBlk.pPacket)) mpduBlk)

def releaseSession (s : Session) : Session :=
  if s.entry.recBAStatus ≠ .none then releaseLoop s.entry.list.next.length s else s

/-- `ba_reordering_resource_release`, up to the point where the blocks' memory is given back. -/
def baReorderingResourceRelease (pAd : RtmpAdapter) : RtmpAdapter :=
  let pAd := (List.finRange maxLenOfBaTable).foldl
    (fun pAd idx => pAd.onSession idx releaseSession) pAd
  -- the driver's `pBAEntry` is left at the last entry
  pAd.assert ((pAd.baRecEntry lastEntry).list.qlen == 0)

/-- The recipient entry `Indicate_AMPDU_Packet` looks up, 0 where there is none. -/
def recIdx (pAd : RtmpAdapter) (wcid : Nat) (tid : Tid) : BaIdx :=
  if known : wcid < maxLenOfMacTable then (pAd.content ⟨wcid, known⟩).baRecWcidArray tid else 0

/-- `Indicate_AMPDU_Packet` from the station's entry on. -/
def indicateAMPDU (env : Env) (pAd : RtmpAdapter) (pRxBlk : RxBlk) (now32 legacyNow32 : BitVec 64) :
    RtmpAdapter :=
  pAd.onSession (recIdx pAd pRxBlk.wcid.toNat pRxBlk.tid)
    fun s => indicateAMPDUPacket env s pRxBlk now32 legacyNow32

/-- `sizeof(FRAME_BA_REQ)`. -/
def sizeofFrameBaReq : Nat := 20

/-- `CntlEnqueueForRecv`; `halted` is either of the two flags it tests. -/
def cntlEnqueueForRecv (pAd : RtmpAdapter) (halted : Bool) (wcid msgLen : Nat) (tid : BitVec 4)
    (startSeq : BitVec 12) : Bool × RtmpAdapter :=
  if halted then (false, pAd)
  else if msgLen ≠ sizeofFrameBaReq then (false, pAd)
  else if known : wcid < maxLenOfMacTable ∧ tid.toNat < numOfTid then
    let idx := (pAd.content ⟨wcid, known.1⟩).baRecWcidArray ⟨tid.toNat, known.2⟩
    (true, pAd.onSession idx fun s => barReorderingMpdus s startSeq)
  else (false, pAd)

end Mt7612u.BlockAck
