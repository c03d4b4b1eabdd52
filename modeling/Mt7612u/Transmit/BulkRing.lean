import Mt7612u.Receive.AmsduRoundTrip
import Mt7612u.Transmit.FrameTx

/-! The bytes of the bulk ring: what `RtmpUSB_WriteMultiTxResource`, `RtmpUSB_FinalWriteTxResource`
and `RtmpUSB_WriteFragTxResource` copy out of `HeaderBuf` and out of a packet. -/

namespace Mt7612u.Transmit
open Receive (Memory align4)

def mtDmaHdrLen : Nat := 4
def txwiSize : Nat := 20
def savedPadSize : Nat := 8

/-- `TX_BLK`, as far as the header builders and the ring writers use it. -/
structure TxBlk where
  headerBuf : Memory
  mpduHeaderLen : Nat
  hdrPadLen : Nat
  priv : Nat

/-- `HT_TX_CONTEXT` with its bytes. What lies behind the eight bytes of `SavedPad` is whatever
follows them. -/
structure BulkRing extends HtTxContext where
  wirelessPacket : Memory
  bCopySavePad : Bool
  savedPad : Memory

/-- The low byte of a 16-bit field, and the high one. -/
def lowByte (n : Nat) : UInt8 := UInt8.ofNat n
def highByte (n : Nat) : UInt8 := UInt8.ofNat (n / 256)

/-- `rlt_usb_write_txinfo` with `MT_QSEL_EDCA`: `pkt_80211` is set and `rsv1` left alone. -/
def rltUsbWriteTxinfo (mem : Memory) (usbDmaPktLen : Nat) : Memory :=
  mem.write 0
    [lowByte usbDmaPktLen, highByte usbDmaPktLen, mem 2 &&& 0xc0 ||| 0x08, 0x04]

/-- `txinfo->pkt_len`. -/
def pktLen (mem : Memory) (txinfo : Nat) : Nat :=
  (mem txinfo).toNat + 256 * (mem (txinfo + 1)).toNat

/-- `txwi->MPDUtotalByteCnt`, fourteen bits of the second word. -/
def mpduTotalByteCnt (mem : Memory) (txwi : Nat) : Nat :=
  (mem (txwi + 6)).toNat + 256 * (mem (txwi + 7) &&& 0x3f).toNat

def setPktLen (mem : Memory) (txinfo usbDmaPktLen : Nat) : Memory :=
  mem.write txinfo [lowByte usbDmaPktLen, highByte usbDmaPktLen]

def setMpduTotalByteCnt (mem : Memory) (txwi count : Nat) : Memory :=
  mem.write (txwi + 6)
    [lowByte count, mem (txwi + 7) &&& 0xc0 ||| highByte count &&& 0x3f]

/-- `txinfo->sw_lst_rnd = 1`. -/
def setSwLstRnd (mem : Memory) (txinfo : Nat) : Memory :=
  mem.write (txinfo + 2) [mem (txinfo + 2) ||| 0x04]

/-- The lengths that are known when the last frame is written. -/
def finalLengths (mem : Memory) (txinfo usbDmaPktLen totalMPDUSize : Nat) (last : Bool) : Memory :=
  let mem := setMpduTotalByteCnt (setPktLen mem txinfo usbDmaPktLen) (txinfo + mtDmaHdrLen)
    totalMPDUSize
  if last then setSwLstRnd mem txinfo else mem

namespace BulkRing

/-- "Reserve space for 8 bytes padding." -/
def reserve (ring : BulkRing) : BulkRing :=
  if ring.eNextBulkOutPosition = ring.curWritePosition then
    { ring with
      curWritePosition := ring.curWritePosition + 8
      eNextBulkOutPosition := ring.eNextBulkOutPosition + 8 }
  else ring

/-- Bytes are copied to the ring. -/
def store (ring : BulkRing) (position : Nat) (bytes : List UInt8) : BulkRing :=
  { ring with wirelessPacket := ring.wirelessPacket.write position bytes }

/-- `RtmpUSB_WriteMultiTxResource`; `srcBuf` are the `SrcBufLen` bytes at `pSrcBufData`. -/
def writeMultiTxResource (ring : BulkRing) (pTxBlk : TxBlk) (frmNum : UInt8)
    (srcBuf : List UInt8) : TxBlk × BulkRing :=
  if frmNum = 0 then
    if ring.canDoWrite then
      let hwHdrLen := pTxBlk.mpduHeaderLen + pTxBlk.hdrPadLen
      let priv := mtDmaHdrLen + txwiSize + hwHdrLen
      let headerBuf := rltUsbWriteTxinfo pTxBlk.headerBuf priv
      let ring := { ring.reserve with bCurWriting := true }
      ({ pTxBlk with headerBuf := headerBuf, priv := priv + srcBuf.length },
        (ring.store ring.curWritePosition (headerBuf.bytes 0 priv)).store
          (ring.curWritePosition + priv) srcBuf)
    else (pTxBlk, ring)
  else if ring.bCurWriting then
    let fillOffset := ring.curWritePosition + pTxBlk.priv
    ({ pTxBlk with priv := pTxBlk.priv + pTxBlk.mpduHeaderLen + srcBuf.length },
      (ring.store fillOffset (pTxBlk.headerBuf.bytes 0 pTxBlk.mpduHeaderLen)).store
        (fillOffset + pTxBlk.mpduHeaderLen) srcBuf)
  else (pTxBlk, ring)

/-- The first bytes of the frame that is written are looked for in `SavedPad`. -/
def inSavedPad (ring : BulkRing) : Bool :=
  (ring.eNextBulkOutPosition == ring.curWritePosition ||
    (ring.eNextBulkOutPosition : Int) - 8 == ring.curWritePosition) && ring.bCopySavePad

/-- `RtmpUSB_FinalWriteTxResource`. -/
def finalWriteTxResource (ring : BulkRing) (pTxBlk : TxBlk) (totalMPDUSize : Nat) : BulkRing :=
  if ring.bCurWriting then
    let fillOffset := ring.curWritePosition
    let unpadded := pTxBlk.priv - mtDmaHdrLen
    let usbDmaPktLen := align4 unpadded
    let next := fillOffset + (mtDmaHdrLen + usbDmaPktLen)
    -- "Add 3906 for prevent the NextBulkOut packet size is a A-RALINK/A-MSDU Frame."
    let last := decide (maxTxbulkLimit < next + 3906)
    let patched :=
      if ring.inSavedPad then
        { ring with savedPad := finalLengths ring.savedPad 0 usbDmaPktLen totalMPDUSize last }
      else
        { ring with
          wirelessPacket :=
            finalLengths ring.wirelessPacket fillOffset usbDmaPktLen totalMPDUSize last }
    { patched.store (fillOffset + pTxBlk.priv)
        (List.replicate (usbDmaPktLen - unpadded + 8) 0) with
      curWritePosition := if last then 8 else next
      bCurWriting := false }
  else ring

/-- A frame is being written: these are its bytes so far, from `start` on. -/
structure Writing (ring : BulkRing) (pTxBlk : TxBlk) (start : Nat) (frame : List UInt8) : Prop where
  curWriting : ring.bCurWriting = true
  position : ring.curWritePosition = start
  unsaved : ring.inSavedPad = false
  priv : pTxBlk.priv = frame.length
  holds : ring.wirelessPacket.Holds start frame

theorem reserve_inSavedPad (ring : BulkRing) : ring.reserve.inSavedPad = ring.inSavedPad := by
  unfold reserve
  split_ifs with same
  · unfold inSavedPad
    simp only [same, beq_self_eq_true, Bool.true_or]
  · rfl

/-- Two blocks stored one behind the other. -/
theorem holds_store_store {ring : BulkRing} {start position : Nat} {frame : List UInt8}
    (holds : ring.wirelessPacket.Holds start frame) (behind : position = start + frame.length)
    (first second : List UInt8) :
    ((ring.store position first).store (position + first.length) second).wirelessPacket.Holds start
      (frame ++ first ++ second) := by
  have one := Receive.Memory.holds_write_behind holds first
  rw [← behind] at one
  have two := Receive.Memory.holds_write_behind one second
  rw [List.length_append, ← Nat.add_assoc, ← behind] at two
  exact two

end BulkRing

theorem bytes_rltUsbWriteTxinfo (mem : Memory) (usbDmaPktLen count : Nat) :
    (rltUsbWriteTxinfo mem usbDmaPktLen).bytes mtDmaHdrLen count =
      mem.bytes mtDmaHdrLen count := by
  apply List.map_congr_left
  intro i _
  apply Memory.write_after
  simp only [mtDmaHdrLen, List.length_cons, List.length_nil]
  omega

namespace BulkRing

/-- The first frame: the TXINFO, what `HeaderBuf` holds behind it, and the bytes of the packet. -/
theorem writing_first {ring : BulkRing} (pTxBlk : TxBlk) (srcBuf : List UInt8)
    (room : ring.canDoWrite = true) (unsaved : ring.inSavedPad = false) :
    ∃ txinfo : List UInt8, txinfo.length = mtDmaHdrLen ∧
      Writing (ring.writeMultiTxResource pTxBlk 0 srcBuf).2
        (ring.writeMultiTxResource pTxBlk 0 srcBuf).1 ring.reserve.curWritePosition
        (txinfo ++ pTxBlk.headerBuf.bytes mtDmaHdrLen
          (txwiSize + (pTxBlk.mpduHeaderLen + pTxBlk.hdrPadLen)) ++ srcBuf) := by
  let rest := txwiSize + (pTxBlk.mpduHeaderLen + pTxBlk.hdrPadLen)
  let headerBuf := rltUsbWriteTxinfo pTxBlk.headerBuf (mtDmaHdrLen + rest)
  have copied : headerBuf.bytes 0 (mtDmaHdrLen + rest) =
      headerBuf.bytes 0 mtDmaHdrLen ++ pTxBlk.headerBuf.bytes mtDmaHdrLen rest := by
    rw [Memory.bytes_append, Nat.zero_add, bytes_rltUsbWriteTxinfo]
  have length : (headerBuf.bytes 0 (mtDmaHdrLen + rest)).length = mtDmaHdrLen + rest :=
    Memory.length_bytes _ _ _
  have empty : ring.reserve.wirelessPacket.Holds ring.reserve.curWritePosition [] := rfl
  have stored := holds_store_store empty rfl (headerBuf.bytes 0 (mtDmaHdrLen + rest)) srcBuf
  rw [List.length_nil, Nat.add_zero, List.nil_append, length] at stored
  apply Exists.intro (headerBuf.bytes 0 mtDmaHdrLen)
  apply And.intro (Memory.length_bytes _ _ _)
  have front : mtDmaHdrLen + txwiSize + (pTxBlk.mpduHeaderLen + pTxBlk.hdrPadLen) =
      mtDmaHdrLen + rest := Nat.add_assoc _ _ _
  unfold writeMultiTxResource
  rw [if_pos rfl, if_pos room, ← copied]
  dsimp only
  rw [front]
  constructor
  · rfl
  · rfl
  · exact (reserve_inSavedPad ring).trans unsaved
  · rw [List.length_append, length]
  · exact stored

/-- A later frame goes behind what is written: its header from the front of `HeaderBuf`, then the
bytes of the packet. -/
theorem Writing.next {ring : BulkRing} {pTxBlk : TxBlk} {start : Nat} {frame : List UInt8}
    (written : Writing ring pTxBlk start frame) {frmNum : UInt8} (later : frmNum ≠ 0)
    (srcBuf : List UInt8) {blk : TxBlk} (priv : blk.priv = pTxBlk.priv) :
    Writing (ring.writeMultiTxResource blk frmNum srcBuf).2
      (ring.writeMultiTxResource blk frmNum srcBuf).1 start
      (frame ++ blk.headerBuf.bytes 0 blk.mpduHeaderLen ++ srcBuf) := by
  have stored := holds_store_store written.holds rfl (blk.headerBuf.bytes 0 blk.mpduHeaderLen) srcBuf
  rw [Memory.length_bytes, ← written.priv, ← written.position, ← priv] at stored
  unfold writeMultiTxResource
  rw [if_neg later, if_pos written.curWriting]
  constructor
  · exact written.curWriting
  · exact written.position
  · exact written.unsaved
  · simp only [List.length_append, Memory.length_bytes, priv, written.priv]
  · rw [← written.position]
    exact stored

end BulkRing

theorem lowByte_highByte {n : Nat} (small : n < 65536) :
    (lowByte n).toNat + 256 * (highByte n).toNat = n := by
  unfold lowByte highByte
  rw [UInt8.toNat_ofNat', UInt8.toNat_ofNat']
  omega

/-- The six low bits of the high byte survive the two above them. -/
theorem maskedHighByte (other high : UInt8) :
    (other &&& 0xc0 ||| high &&& 0x3f) &&& 0x3f = high &&& 0x3f := by
  apply UInt8.toBitVec_inj.mp
  have apart : other.toBitVec &&& 0xc0#8 &&& 0x3f#8 = 0#8 := by
    rw [BitVec.and_assoc]
    exact BitVec.and_zero
  have same : high.toBitVec &&& 0x3f#8 &&& 0x3f#8 = high.toBitVec &&& 0x3f#8 := by
    rw [BitVec.and_assoc, BitVec.and_self]
  calc (other.toBitVec &&& 0xc0#8 ||| high.toBitVec &&& 0x3f#8) &&& 0x3f#8
      = other.toBitVec &&& 0xc0#8 &&& 0x3f#8 ||| high.toBitVec &&& 0x3f#8 &&& 0x3f#8 :=
        BitVec.and_or_distrib_right
    _ = high.toBitVec &&& 0x3f#8 := by rw [apart, same, BitVec.zero_or]

/-- Fourteen bits are what the field keeps. -/
theorem mpduTotalByteCnt_set (mem : Memory) (txwi : Nat) {count : Nat} (small : count < 16384) :
    mpduTotalByteCnt (setMpduTotalByteCnt mem txwi count) txwi = count := by
  obtain ⟨low, high⟩ := Memory.holds_pair (mem.write_holds (txwi + 6)
    [lowByte count, mem (txwi + 7) &&& 0xc0 ||| highByte count &&& 0x3f])
  unfold mpduTotalByteCnt setMpduTotalByteCnt
  rw [low, show txwi + 7 = txwi + 6 + 1 from rfl, high]
  rw [show txwi + 6 + 1 = txwi + 7 from rfl, maskedHighByte, UInt8.toNat_and]
  have mask := Nat.and_two_pow_sub_one_eq_mod (highByte count).toNat 6
  rw [show (0x3f : UInt8).toNat = 2 ^ 6 - 1 from rfl, mask]
  unfold lowByte highByte
  rw [UInt8.toNat_ofNat', UInt8.toNat_ofNat']
  omega

theorem pktLen_set (mem : Memory) (txinfo : Nat) {len : Nat} (small : len < 65536) :
    pktLen (setPktLen mem txinfo len) txinfo = len := by
  obtain ⟨low, high⟩ := Memory.holds_pair (mem.write_holds txinfo [lowByte len, highByte len])
  unfold pktLen setPktLen
  rw [low, high, lowByte_highByte small]

/-- What is stored behind the length leaves it alone. -/
theorem pktLen_write {mem : Memory} {txinfo address : Nat} (stored : List UInt8)
    (behind : txinfo + 2 ≤ address) : pktLen (mem.write address stored) txinfo = pktLen mem txinfo := by
  unfold pktLen
  rw [mem.write_before stored (by omega : txinfo < address),
    mem.write_before stored (by omega : txinfo + 1 < address)]

theorem mpduTotalByteCnt_write {mem : Memory} {txwi address : Nat} {stored : List UInt8}
    (apart : address + stored.length ≤ txwi + 6 ∨ txwi + 8 ≤ address) :
    mpduTotalByteCnt (mem.write address stored) txwi = mpduTotalByteCnt mem txwi := by
  unfold mpduTotalByteCnt
  rcases apart with before | behind
  · rw [mem.write_after (by omega), mem.write_after (by omega)]
  · rw [mem.write_before stored (by omega), mem.write_before stored (by omega)]

/-- The lengths are found where they belong, and the bytes behind the TXWI stay. -/
theorem finalLengths_spec (mem : Memory) (txinfo : Nat) (last : Bool) {usbDmaPktLen total : Nat}
    (fits : usbDmaPktLen < 65536) (small : total < 16384) {data : List UInt8}
    (holds : mem.Holds (txinfo + (mtDmaHdrLen + txwiSize)) data) :
    pktLen (finalLengths mem txinfo usbDmaPktLen total last) txinfo = usbDmaPktLen ∧
      mpduTotalByteCnt (finalLengths mem txinfo usbDmaPktLen total last) (txinfo + mtDmaHdrLen) =
        total ∧
      (finalLengths mem txinfo usbDmaPktLen total last).Holds
        (txinfo + (mtDmaHdrLen + txwiSize)) data := by
  let counted := setMpduTotalByteCnt (setPktLen mem txinfo usbDmaPktLen) (txinfo + mtDmaHdrLen)
    total
  have length : pktLen counted txinfo = usbDmaPktLen :=
    (pktLen_write _ (by simp only [mtDmaHdrLen]; omega)).trans (pktLen_set mem txinfo fits)
  have count : mpduTotalByteCnt counted (txinfo + mtDmaHdrLen) = total :=
    mpduTotalByteCnt_set _ _ small
  have kept : counted.Holds (txinfo + (mtDmaHdrLen + txwiSize)) data := by
    apply Memory.holds_write_apart
    · apply Memory.holds_write_apart holds
      left
      simp only [mtDmaHdrLen, txwiSize, List.length_cons, List.length_nil]
      omega
    · left
      simp only [mtDmaHdrLen, txwiSize, List.length_cons, List.length_nil]
      omega
  cases last with
  | false => exact ⟨length, count, kept⟩
  | true =>
    refine ⟨?_, ?_, ?_⟩
    · exact (pktLen_write _ le_rfl).trans length
    · apply Eq.trans _ count
      apply mpduTotalByteCnt_write
      left
      simp only [mtDmaHdrLen, List.length_cons, List.length_nil]
      omega
    · apply Memory.holds_write_apart kept
      left
      simp only [mtDmaHdrLen, txwiSize, List.length_cons, List.length_nil]
      omega

/-- What the last write leaves in the ring: the bytes behind TXINFO and TXWI as they were, zeros
behind them, and the lengths. -/
structure BulkRing.Finished (ring : BulkRing) (start total : Nat) (mpdu : List UInt8) : Prop where
  holds : ring.wirelessPacket.Holds (start + (mtDmaHdrLen + txwiSize))
    (mpdu ++ List.replicate (align4 (txwiSize + mpdu.length) - (txwiSize + mpdu.length)) 0)
  pktLen : pktLen ring.wirelessPacket start = align4 (txwiSize + mpdu.length)
  byteCnt : mpduTotalByteCnt ring.wirelessPacket (start + mtDmaHdrLen) = total
  writes : ring.bCurWriting = false
  position : ring.curWritePosition = start + (mtDmaHdrLen + align4 (txwiSize + mpdu.length)) ∨
    ring.curWritePosition = 8

theorem BulkRing.Writing.final {ring : BulkRing} {pTxBlk : TxBlk} {start total : Nat}
    {front mpdu : List UInt8} (written : ring.Writing pTxBlk start (front ++ mpdu))
    (header : front.length = mtDmaHdrLen + txwiSize)
    (fits : align4 (txwiSize + mpdu.length) < 65536) (small : total < 16384) :
    (ring.finalWriteTxResource pTxBlk total).Finished start total mpdu := by
  have priv : pTxBlk.priv = mtDmaHdrLen + (txwiSize + mpdu.length) := by
    rw [written.priv, List.length_append, header, Nat.add_assoc]
  have held := written.holds
  rw [Memory.holds_append, header] at held
  have unpadded : pTxBlk.priv - mtDmaHdrLen = txwiSize + mpdu.length := by
    rw [priv, Nat.add_sub_cancel_left]
  unfold finalWriteTxResource
  rw [if_pos written.curWriting]
  dsimp only
  rw [written.unsaved, unpadded, written.position, if_neg Bool.false_ne_true]
  generalize decide (maxTxbulkLimit < _) = last
  obtain ⟨length, count, kept⟩ := finalLengths_spec ring.wirelessPacket start last fits small held.2
  let zeros : List UInt8 :=
    List.replicate (align4 (txwiSize + mpdu.length) - (txwiSize + mpdu.length) + 8) 0
  have behind := Memory.holds_write_behind kept zeros
  have place : start + (mtDmaHdrLen + txwiSize) + mpdu.length = start + pTxBlk.priv := by
    rw [priv]
    omega
  have cut : mpdu ++ zeros = mpdu ++ List.replicate
      (align4 (txwiSize + mpdu.length) - (txwiSize + mpdu.length)) 0 ++ List.replicate 8 0 := by
    rw [List.append_assoc, ← List.replicate_add]
  rw [place, cut, Memory.holds_append] at behind
  constructor
  · exact behind.1
  · apply Eq.trans _ length
    apply pktLen_write
    rw [priv]
    simp only [mtDmaHdrLen]
    omega
  · apply Eq.trans _ count
    apply mpduTotalByteCnt_write
    right
    rw [priv]
    simp only [mtDmaHdrLen, txwiSize]
    omega
  · rfl
  · dsimp only
    split_ifs
    · exact Or.inr rfl
    · exact Or.inl rfl

end Mt7612u.Transmit
