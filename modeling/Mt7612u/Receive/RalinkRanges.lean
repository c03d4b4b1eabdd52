import Mt7612u.Receive.PortControl
import Mt7612u.Receive.RalinkSplit

/-! The two payloads of `CmmRxRalinkFrameIndicate` as ranges of the data that was received. -/

namespace Mt7612u.Receive

/-- `Payload1Size` and `Payload2Size` with the ranges they are announced for, and the sizes that
they were computed from. -/
structure RalinkRanges where
  dataSize : Nat
  msdu2Size : Nat
  payload1 : Span
  payload2 : Span

/-- The ranges of `CmmRxRalinkFrameIndicate`; `none` when the frame is rejected. -/
def ralinkRanges (pAd : RxAdapter) (blk : RxData) : Option RalinkRanges :=
  let msdu2Size := (blk.mem blk.pData).toNat + (blk.mem (blk.pData + 1)).toNat * 256
  if msdu2Size ≤ 1536 ∧ msdu2Size < blk.dataSize.toNat ∧ pAd.pPacket2 then
    let converted := removeLLC pAd blk.mem (blk.pData + 2) (u16 ((blk.dataSize.toNat : Int) - 2))
    let payload1Size := u16 ((converted.dataSize : Int) - msdu2Size)
    let payload2Size := u16 ((msdu2Size : Int) - length8023)
    let pData2 := converted.pData + payload1Size + length8023
    some ⟨converted.dataSize, msdu2Size, ⟨converted.pData, payload1Size⟩, ⟨pData2, payload2Size⟩⟩
  else none

/-- `Msdu2Size` of the frame. -/
def ralinkMsdu2Size (blk : RxData) : Nat :=
  (blk.mem blk.pData).toNat + (blk.mem (blk.pData + 1)).toNat * 256

/-- What is taken off the first packet. -/
def ralinkLlcSize (blk : RxData) : Nat :=
  if removesSnap blk.mem (blk.pData + 2) then length8021H else 0

/-- Both payloads lie in the data and apart from each other, and no size has wrapped. -/
structure RalinkRanges.Safe (blk : RxData) (ranges : RalinkRanges) : Prop where
  payload1 : ranges.payload1.Within ⟨blk.pData, blk.dataSize.toNat⟩
  payload2 : ranges.payload2.Within ⟨blk.pData, blk.dataSize.toNat⟩
  apart : ranges.payload1.start + ranges.payload1.count ≤ ranges.payload2.start ∨
    ranges.payload2.start + ranges.payload2.count ≤ ranges.payload1.start
  size1 : ranges.msdu2Size ≤ ranges.dataSize
  size2 : length8023 ≤ ranges.msdu2Size

/-- A frame that is not rejected has room for the header of its second packet, and for what stands
in front of it. -/
def RalinkFits (pAd : RxAdapter) (blk : RxData) : Prop :=
  ralinkMsdu2Size blk ≤ 1536 → ralinkMsdu2Size blk < blk.dataSize.toNat → pAd.pPacket2 = true →
    length8023 ≤ ralinkMsdu2Size blk ∧
      2 + ralinkLlcSize blk + ralinkMsdu2Size blk ≤ blk.dataSize.toNat

section Ranges

variable {pAd : RxAdapter} {blk : RxData}

theorem removeLLC_dataSize (mem : Memory) (pData dataSize : Nat) :
    (removeLLC pAd mem pData dataSize).dataSize =
      if removesSnap mem pData then u16 (dataSize - length8021H) else dataSize := by
  unfold removeLLC
  split <;> exact convertTo8023_dataSize _ _ _ _ _

theorem convertTo8023_pData (mem : Memory) (pDA pSA pData dataSize : Nat) :
    (convertTo8023 mem pDA pSA pData dataSize).pData =
      pData + if removesSnap mem pData then length8021H else 0 := by
  unfold convertTo8023 removesSnap
  cases hasSnap mem pData <;> cases keepsSnap mem pData <;> simp

theorem removeLLC_pData (mem : Memory) (pData dataSize : Nat) :
    (removeLLC pAd mem pData dataSize).pData =
      pData + if removesSnap mem pData then length8021H else 0 := by
  unfold removeLLC
  split <;> exact convertTo8023_pData _ _ _ _ _

/-- The ranges in numbers: three subtractions of sixteen bits, one of them only under a prefix. -/
theorem ralinkRanges_eq (fits : ralinkMsdu2Size blk ≤ 1536)
    (below : ralinkMsdu2Size blk < blk.dataSize.toNat) (allocated : pAd.pPacket2 = true) :
    let data := u16 ((blk.dataSize.toNat : Int) - 2)
    let dataSize := if removesSnap blk.mem (blk.pData + 2) then u16 (data - length8021H) else data
    let pData := blk.pData + 2 + ralinkLlcSize blk
    let payload1Size := u16 ((dataSize : Int) - ralinkMsdu2Size blk)
    ralinkRanges pAd blk = some ⟨dataSize, ralinkMsdu2Size blk, ⟨pData, payload1Size⟩,
      ⟨pData + payload1Size + length8023, u16 ((ralinkMsdu2Size blk : Int) - length8023)⟩⟩ := by
  dsimp only
  have accepted : (blk.mem blk.pData).toNat + (blk.mem (blk.pData + 1)).toNat * 256 ≤ 1536 ∧
      (blk.mem blk.pData).toNat + (blk.mem (blk.pData + 1)).toNat * 256 < blk.dataSize.toNat ∧
        pAd.pPacket2 = true := ⟨fits, below, allocated⟩
  rw [ralinkRanges]
  dsimp only
  rw [if_pos accepted, removeLLC_dataSize, removeLLC_pData]
  rfl

/-- The ranges are safe exactly when the lengths fit. -/
theorem ralinkRanges_safe_iff :
    (∀ ranges, ralinkRanges pAd blk = some ranges → ranges.Safe blk) ↔ RalinkFits pAd blk := by
  have small := blk.dataSize.isLt
  constructor
  · intro safe fits below allocated
    obtain ⟨inside1, inside2, -, size1, size2⟩ := safe _ (ralinkRanges_eq fits below allocated)
    refine ⟨size2, ?_⟩
    simp only [Span.Within, ralinkLlcSize, u16, length8021H, length8023] at *
    split_ifs at * with removed
    · omega
    · omega
  · intro fit ranges found
    by_cases accepted : ralinkMsdu2Size blk ≤ 1536 ∧ ralinkMsdu2Size blk < blk.dataSize.toNat ∧
        pAd.pPacket2 = true
    · obtain ⟨fits, below, allocated⟩ := accepted
      obtain ⟨header, room⟩ := fit fits below allocated
      rw [ralinkRanges_eq fits below allocated] at found
      obtain rfl := Option.some.inj found
      refine ⟨?_, ?_, Or.inl ?_, ?_, header⟩ <;>
        simp only [Span.Within, ralinkLlcSize, u16, length8021H, length8023] at * <;>
        split_ifs at * with removed <;> omega
    · have rejected : ralinkRanges pAd blk = none := if_neg accepted
      rw [rejected] at found
      cases found

end Ranges

/-- Zeros behind a header: a second packet of no bytes, less a header of 14. -/
def emptyAggregate : RxData where
  mem _ := 0
  pData := 24
  dataSize := 100
  fRXAMSDU := false
  fRXAMPDU := false
  fRXARALINK := true
  pRxPacket := 0
  wcid := 1
  tid := ⟨0, BlockAck.numOfTid_pos⟩
  pData_room := by decide

theorem emptyAggregate_not_safe :
    ¬ ∀ ranges, ralinkRanges closedAp emptyAggregate = some ranges → ranges.Safe emptyAggregate := by
  intro safe
  have header := (safe _ (ralinkRanges_eq (by decide) (by decide) rfl)).size2
  exact absurd header (by decide)

end Mt7612u.Receive
