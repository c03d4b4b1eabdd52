import Mt7612u.Library.Run
import Mt7612u.Transmit.BulkRing
import Mt7612u.Transmit.TxQueue

/-! The bulk ring of one AC: the calls that write frames into it, `RTUSBBulkOutDataPacket` that
takes batches of them out, and the transfers that leave. -/

namespace Mt7612u.Transmit
open Receive (Memory Span align4)

def maxTxbulkSize : Nat := localTxbufSize * bulkaggreSize

/-- A frame and its place in the ring. -/
structure Placed where
  start : Nat
  frame : List UInt8

/-- Frames one behind the other. -/
def placesFrom : Nat → List (List UInt8) → List Placed
  | _, [] => []
  | start, frame :: rest => ⟨start, frame⟩ :: placesFrom (start + frame.length) rest

/-- What a call still copies when it has left the lock. The zeros follow where the frame ends with
this packet. -/
structure Copy where
  position : Nat
  srcBuf : List UInt8
  padding : Option Nat

/-- The writer that has set `bCurWriting`. `frames` are its complete fragments and `laid` the bytes
of the frame it is at, as they were given to it. -/
structure Writer where
  /-- What was asked of `RTUSBFreeDescRequest` before. -/
  reqCnt : Nat
  priv : Nat
  frames : List (List UInt8)
  laid : List UInt8
  copy : Option Copy
  /-- `TxQLastRound`, when the last call for the packet has been made. -/
  ending : Option Bool

/-- `HT_TX_CONTEXT` with its bytes and its writer. The fields from `written` on are the record of
the run, which the code does not read. -/
structure UsbRing extends BulkRing where
  curWriteRealPos : Nat
  bulkOutPending : Bool
  bulkOutSize : Nat
  writer : Option Writer
  written : List (List UInt8)
  unsent : List Placed
  inFlight : List Placed
  transfers : List (List UInt8)
  /-- Where the last step stored bytes. -/
  stored : List Span

/-- `txinfo->tx_burst = 1`. -/
def setTxBurst (mem : Memory) (txinfo : Nat) : Memory :=
  mem.write (txinfo + 2) [mem (txinfo + 2) ||| 0x02]

/-- The length of a frame behind its TXINFO before it is rounded up. -/
def dmaLen (pTxBlk : TxBlk) (srcBuf : List UInt8) : Nat :=
  txwiSize + (pTxBlk.mpduHeaderLen + pTxBlk.hdrPadLen) + srcBuf.length

/-- What a frame takes in the ring. -/
def privLen (pTxBlk : TxBlk) (srcBuf : List UInt8) : Nat :=
  mtDmaHdrLen + align4 (dmaLen pTxBlk srcBuf)

def hdrCopyLen (pTxBlk : TxBlk) : Nat :=
  mtDmaHdrLen + (txwiSize + (pTxBlk.mpduHeaderLen + pTxBlk.hdrPadLen))

/-- The bytes of `HeaderBuf` that are copied for a frame written by a single call. -/
def singleHeader (pTxBlk : TxBlk) (srcBuf : List UInt8) (last : Bool) : List UInt8 :=
  let txinfo := rltUsbWriteTxinfo pTxBlk.headerBuf (align4 (dmaLen pTxBlk srcBuf))
  (if last then setSwLstRnd txinfo 0 else txinfo).bytes 0 (hdrCopyLen pTxBlk)

/-- The same for a fragment; behind all but the last one follows another. -/
def fragHeader (pTxBlk : TxBlk) (srcBuf : List UInt8) (more last : Bool) : List UInt8 :=
  let headerBuf := pTxBlk.headerBuf.write 0 (List.replicate mtDmaHdrLen 0)
  let txinfo := rltUsbWriteTxinfo headerBuf (align4 (dmaLen pTxBlk srcBuf))
  (if more then setTxBurst txinfo 0
    else if last then setSwLstRnd txinfo 0 else txinfo).bytes 0 (hdrCopyLen pTxBlk)

/-- A block of bytes as memory. -/
def ofBytes (bytes : List UInt8) : Memory := fun address => bytes.getD address 0

/-- A frame of several packets, when its lengths are known. -/
def finalFrame (laid : List UInt8) (totalMPDUSize : Nat) (last : Bool) : List UInt8 :=
  let unpadded := laid.length - mtDmaHdrLen
  (finalLengths (ofBytes laid) 0 (align4 unpadded) totalMPDUSize last).bytes 0 laid.length ++
    List.replicate (align4 unpadded - unpadded) 0

namespace UsbRing

def put (ring : UsbRing) (position : Nat) (bytes : List UInt8) : UsbRing :=
  { ring with
    toBulkRing := ring.toBulkRing.store position bytes
    stored := ring.stored ++ [⟨position, bytes.length⟩] }

/-- There is room: `bCurWriting` is set, and eight bytes are reserved where a batch has ended. -/
def enter (ring : UsbRing) : UsbRing :=
  { ring with
    toBulkRing := { ring.toBulkRing.reserve with bCurWriting := true }
    curWriteRealPos := ring.toBulkRing.reserve.curWritePosition }

/-- The header goes to the ring behind what the writer has there. -/
def lay (ring : UsbRing) (writer : Writer) (priv : Nat) (header srcBuf : List UInt8)
    (padding : Option Nat) (ending : Option Bool) : UsbRing :=
  let position := ring.curWritePosition + writer.priv
  { ring.put position header with
    writer := some
      { writer with
        priv := priv
        laid := writer.laid ++ header
        copy := some ⟨position + header.length, srcBuf, padding⟩
        ending := ending } }

def newWriter (reqCnt : Nat) : Writer := ⟨reqCnt, 0, [], [], none, none⟩

/-- A frame that one call writes to its end; `3906` leaves room for the largest aggregate. -/
def layFrame (ring : UsbRing) (writer : Writer) (pTxBlk : TxBlk) (srcBuf : List UInt8)
    (header : Bool → List UInt8) (more : Bool) : UsbRing :=
  let priv := writer.priv + privLen pTxBlk srcBuf
  let last := decide (maxTxbulkLimit < ring.curWritePosition + priv + 3906)
  let padding := align4 (dmaLen pTxBlk srcBuf) - dmaLen pTxBlk srcBuf
  { ring.lay writer priv (header last) srcBuf (some padding) (if more then none else some last) with
    curWriteRealPos := ring.curWriteRealPos + hdrCopyLen pTxBlk }

/-- `RtmpUSB_WriteSingleTxResource` up to where it leaves the lock. -/
def writeSingleTxResource (ring : UsbRing) (reqCnt : Nat) (pTxBlk : TxBlk)
    (srcBuf : List UInt8) : UsbRing :=
  if ring.canDoWrite then
    ring.enter.layFrame (newWriter reqCnt) pTxBlk srcBuf (singleHeader pTxBlk srcBuf) false
  else ring

/-- `RtmpUSB_WriteFragTxResource` up to where it leaves the lock. -/
def writeFragTxResource (ring : UsbRing) (reqCnt : Nat) (pTxBlk : TxBlk)
    (fragNum totalFragNum : UInt8) (srcBuf : List UInt8) : UsbRing :=
  let more := fragNum != totalFragNum
  if fragNum = 0 then
    if ring.canDoWrite then
      ring.enter.layFrame (newWriter reqCnt) pTxBlk srcBuf (fragHeader pTxBlk srcBuf more) more
    else ring
  else
    match ring.writer with
    | none => ring
    | some writer => ring.layFrame writer pTxBlk srcBuf (fragHeader pTxBlk srcBuf more) more

/-- `RtmpUSB_WriteMultiTxResource` up to where it leaves the lock. -/
def writeMultiTxResource (ring : UsbRing) (reqCnt : Nat) (pTxBlk : TxBlk) (frmNum : UInt8)
    (srcBuf : List UInt8) : UsbRing :=
  if frmNum = 0 then
    if ring.canDoWrite then
      let priv := hdrCopyLen pTxBlk
      let header := (rltUsbWriteTxinfo pTxBlk.headerBuf priv).bytes 0 priv
      { ring.enter.lay (newWriter reqCnt) priv header srcBuf none none with
        curWriteRealPos := ring.enter.curWriteRealPos + priv }
    else ring
  else
    match ring.writer with
    | none => ring
    | some writer =>
      ring.lay writer (writer.priv + pTxBlk.mpduHeaderLen)
        (pTxBlk.headerBuf.bytes 0 pTxBlk.mpduHeaderLen) srcBuf none none

/-- The copy of the packet outside the lock, with the zeros behind it. -/
def copySrcBuf (ring : UsbRing) (writer : Writer) (copy : Copy) : UsbRing :=
  let copied := ring.put copy.position copy.srcBuf
  match copy.padding with
  | none =>
    { copied with
      writer := some
        { writer with
          priv := writer.priv + copy.srcBuf.length
          laid := writer.laid ++ copy.srcBuf
          copy := none } }
  | some padding =>
    { copied.put (copy.position + copy.srcBuf.length) (List.replicate (padding + 8) 0) with
      writer := some
        { writer with
          frames := writer.frames ++ [writer.laid ++ copy.srcBuf ++ List.replicate padding 0]
          laid := []
          copy := none } }

/-- The frames of the writer are in the ring from `CurWritePosition` on, and it moves behind
them. -/
def finish (ring : UsbRing) (frames : List (List UInt8)) (next : Nat) : UsbRing :=
  { ring with
    curWritePosition := next
    curWriteRealPos := next
    bCurWriting := false
    writer := none
    written := ring.written ++ frames
    unsent := ring.unsent ++ placesFrom ring.curWritePosition frames }

/-- The second part under the lock of the call that writes the last byte of a packet. -/
def leave (ring : UsbRing) (writer : Writer) (last : Bool) : UsbRing :=
  ring.finish writer.frames (if last then 8 else ring.curWritePosition + writer.priv)

/-- `RtmpUSB_FinalWriteTxResource`. -/
def finalWriteTxResource (ring : UsbRing) (writer : Writer) (pTxBlk : TxBlk)
    (totalMPDUSize : Nat) : UsbRing :=
  let start := ring.curWritePosition
  let unpadded := writer.priv - mtDmaHdrLen
  let next := start + (mtDmaHdrLen + align4 unpadded)
  let last := decide (maxTxbulkLimit < next + 3906)
  let wrote := ring.toBulkRing.finalWriteTxResource { pTxBlk with priv := writer.priv } totalMPDUSize
  let lengths : List Span :=
    if ring.inSavedPad then []
    else [⟨start, 2⟩, ⟨start + mtDmaHdrLen + 6, 2⟩] ++ if last then [⟨start + 2, 1⟩] else []
  { ring.finish [finalFrame writer.laid totalMPDUSize last] wrote.curWritePosition with
    toBulkRing := wrote
    stored := ring.stored ++ lengths ++ [⟨start + writer.priv, align4 unpadded - unpadded + 8⟩] }

end UsbRing

/-- What `RTUSBBulkOutDataPacket` finds besides the ring. -/
structure BulkSetting where
  /-- One of the media state flags is set. -/
  connected : Bool
  needStopTx : Bool
  usbAggregation : Bool
  outMaxPacket : Nat

/-- `txwi->PHYMODE == MODE_CCK`. -/
def modeCck (mem : Memory) (txwi : Nat) : Bool := mem (txwi + 3) >>> 5 == 0

/-- `txinfo->QSEL = MT_QSEL_EDCA`. -/
def setQselEdca (mem : Memory) (txinfo : Nat) : Memory :=
  mem.write (txinfo + 3) [mem (txinfo + 3) &&& 0xf9 ||| 0x04]

def setNextVld (mem : Memory) (txinfo : Nat) : Memory :=
  mem.write (txinfo + 2) [mem (txinfo + 2) ||| 0x01]

def clearNextVld (mem : Memory) (txinfo : Nat) : Memory :=
  mem.write (txinfo + 2) [mem (txinfo + 2) &&& 0xfe]

def clearSwLstRnd (mem : Memory) (txinfo : Nat) : Memory :=
  mem.write (txinfo + 2) [mem (txinfo + 2) &&& 0xfb]

def swLstRnd (mem : Memory) (txinfo : Nat) : Bool := mem (txinfo + 2) &&& 0x04 == 0x04

/-- The variables of the loop over the frames of a batch. -/
structure Batch where
  mem : Memory
  tmpBulkEndPos : Nat
  thisBulkSize : Nat
  pLastTxInfo : Option Nat
  aggregationNum : Nat

/-- How the loop is left: at `ENextBulkOutPosition`, behind the last frame of the round, or by the
error of a frame without a length. -/
inductive BatchEnd where
  | cut
  | lastRound
  | noLength
  deriving DecidableEq

/-- The sizes at which a batch is closed. -/
def Batch.isFull (batch : Batch) (setting : BulkSetting) : Bool :=
  let size := batch.thisBulkSize
  let usb11 := decide (setting.outMaxPacket < 512) && decide (0x800 ≤ size)
  if size != 0 && modeCck batch.mem (batch.tmpBulkEndPos + mtDmaHdrLen) then
    decide (0x8000 ≤ size) || size.testBit 12 || usb11
  else decide (0x2000 ≤ size) || size &&& 0x6000 == 0x6000 || usb11

/-- One frame goes into the batch. -/
def Batch.take (batch : Batch) (curWritePosition : Nat) : Batch :=
  let txinfo := batch.tmpBulkEndPos
  let len := pktLen batch.mem txinfo + 4
  let mem := setQselEdca batch.mem txinfo
  let mem := if txinfo + len ≠ curWritePosition then setNextVld mem txinfo else mem
  let mem :=
    if swLstRnd mem txinfo then
      clearSwLstRnd (if curWritePosition = 8 then clearNextVld mem txinfo else mem) txinfo
    else mem
  { mem := mem
    tmpBulkEndPos := txinfo + len
    thisBulkSize := batch.thisBulkSize + len
    pLastTxInfo := some txinfo
    aggregationNum := batch.aggregationNum + 1 }

/-- "adjust the txinfo->mt7612_txinfo_pkt.next_vld value of last txinfo" -/
def Batch.adjust (batch : Batch) : Memory :=
  match batch.pLastTxInfo with
  | none => batch.mem
  | some txinfo => clearNextVld batch.mem txinfo

/-- A frame has nine bytes at least and none is taken at `0x8000`, so that many turns are enough. -/
def bulkTurns : Nat := 0x8000

/-- The loop of `RTUSBBulkOutDataPacket`. -/
def fillBatch (setting : BulkSetting) (curWritePosition : Nat) : Nat → Batch → Batch × BatchEnd
  | 0, batch => (batch, .noLength)
  | turns + 1, batch =>
      if batch.isFull setting then (batch, .cut)
      else if batch.tmpBulkEndPos = curWritePosition then (batch, .cut)
      else if pktLen batch.mem batch.tmpBulkEndPos ≤ 8 then (batch, .noLength)
      else if swLstRnd batch.mem batch.tmpBulkEndPos then (batch.take curWritePosition, .lastRound)
      else if batch.aggregationNum = 0 ∧ ¬setting.usbAggregation then
        (batch.take curWritePosition, .cut)
      else fillBatch setting curWritePosition turns (batch.take curWritePosition)

namespace UsbRing

/-- Nothing is to be sent: "druing writing". -/
def nothingToSend (ring : UsbRing) : Bool :=
  ring.eNextBulkOutPosition == ring.curWritePosition ||
    (ring.eNextBulkOutPosition : Int) - 8 == ring.curWritePosition

/-- The bytes in `SavedPad` go back to the ring. -/
def restore (ring : UsbRing) : UsbRing :=
  if ring.bCopySavePad then
    { ring.put ring.eNextBulkOutPosition (ring.savedPad.bytes 0 savedPadSize) with
      bCopySavePad := false }
  else ring

/-- The bytes of the TXINFO that the loop changes, frame by frame. -/
def txinfoSpans (frames : List Placed) : List Span :=
  frames.map fun placed => ⟨placed.start + 2, 2⟩

/-- The batch is made: the last `next_vld` is cleared, the bytes behind it are saved if they belong
to a frame, and eight zeros go there. -/
def submit (ring : UsbRing) (batch : Batch) (lastRound : Bool) : UsbRing :=
  let mem := batch.adjust
  let eNext := if lastRound then 8 else batch.tmpBulkEndPos
  let save := !lastRound && (eNext == ring.curWritePosition &&
    decide (ring.curWritePosition < ring.curWriteRealPos) || eNext != ring.curWritePosition)
  let taken := ring.unsent.take batch.aggregationNum
  let marked : UsbRing :=
    { ring with
      wirelessPacket := mem
      savedPad := if save then ring.savedPad.write 0 (mem.bytes eNext savedPadSize) else ring.savedPad
      bCopySavePad := ring.bCopySavePad || save
      eNextBulkOutPosition := eNext
      bulkOutSize := batch.thisBulkSize + 4
      bulkOutPending := true
      unsent := ring.unsent.drop batch.aggregationNum
      inFlight := taken
      stored := ring.stored ++ txinfoSpans taken }
  marked.put batch.tmpBulkEndPos (List.replicate 8 0)

/-- What follows the loop; a frame without a length ends the call. -/
def leaveLoop (ring : UsbRing) : Batch × BatchEnd → UsbRing
  | (batch, .cut) => ring.submit batch false
  | (batch, .lastRound) => ring.submit batch true
  | (batch, .noLength) => { ring with wirelessPacket := batch.mem }

/-- `RTUSBBulkOutDataPacket`, where `usb_submit_urb` takes the transfer. -/
def bulkOutDataPacket (ring : UsbRing) (setting : BulkSetting) : UsbRing :=
  if ring.bulkOutPending || setting.needStopTx then ring
  else if !setting.connected then ring
  else if ring.nothingToSend then ring
  else
    let restored := { ring.restore with nextBulkOutPosition := ring.eNextBulkOutPosition }
    let first : Batch := ⟨restored.wirelessPacket, restored.nextBulkOutPosition, 0, none, 0⟩
    restored.leaveLoop (fillBatch setting restored.curWritePosition bulkTurns first)

/-- The transfer is done: its bytes, as the device has read them from the ring, are the last of the
record. -/
def bulkOutComplete (ring : UsbRing) : UsbRing :=
  if ring.bulkOutPending then
    { ring with
      bulkOutPending := false
      inFlight := []
      transfers := ring.transfers ++
        [ring.wirelessPacket.bytes ring.nextBulkOutPosition ring.bulkOutSize] }
  else ring

end UsbRing

/-- What happens to the ring. The parts of a call that the lock does not hold together are events of
their own. -/
inductive RingEvent where
  | writeSingle (reqCnt : Nat) (pTxBlk : TxBlk) (srcBuf : List UInt8)
  | writeFrag (reqCnt : Nat) (pTxBlk : TxBlk) (fragNum totalFragNum : UInt8) (srcBuf : List UInt8)
  | writeMulti (reqCnt : Nat) (pTxBlk : TxBlk) (frmNum : UInt8) (srcBuf : List UInt8)
  | copySrcBuf
  | leave
  | finalWrite (pTxBlk : TxBlk) (totalMPDUSize : Nat)
  | bulkOut (setting : BulkSetting)
  | bulkOutComplete

def UsbRing.handle (ring : UsbRing) : RingEvent → UsbRing
  | .writeSingle reqCnt pTxBlk srcBuf => ring.writeSingleTxResource reqCnt pTxBlk srcBuf
  | .writeFrag reqCnt pTxBlk fragNum totalFragNum srcBuf =>
      ring.writeFragTxResource reqCnt pTxBlk fragNum totalFragNum srcBuf
  | .writeMulti reqCnt pTxBlk frmNum srcBuf => ring.writeMultiTxResource reqCnt pTxBlk frmNum srcBuf
  | .copySrcBuf =>
      match ring.writer with
      | some writer =>
        match writer.copy with
        | some copy => ring.copySrcBuf writer copy
        | none => ring
      | none => ring
  | .leave =>
      match ring.writer with
      | some writer =>
        match writer.copy, writer.ending with
        | none, some last => ring.leave writer last
        | _, _ => ring
      | none => ring
  | .finalWrite pTxBlk totalMPDUSize =>
      match ring.writer with
      | some writer => ring.finalWriteTxResource writer pTxBlk totalMPDUSize
      | none => ring
  | .bulkOut setting => ring.bulkOutDataPacket setting
  | .bulkOutComplete => ring.bulkOutComplete

/-- A step; what it stores is recorded anew. -/
def UsbRing.step (ring : UsbRing) (event : RingEvent) : UsbRing :=
  { ring with stored := [] }.handle event

/-- `TxContext` as `NICInitTransmit` leaves it: `memset` with zeros, whatever the buffer holds. -/
def UsbRing.cleared (wirelessPacket savedPad : Memory) : UsbRing where
  bCurWriting := false
  curWritePosition := 0
  nextBulkOutPosition := 0
  eNextBulkOutPosition := 0
  wirelessPacket := wirelessPacket
  bCopySavePad := false
  savedPad := savedPad
  curWriteRealPos := 0
  bulkOutPending := false
  bulkOutSize := 0
  writer := none
  written := []
  unsent := []
  inFlight := []
  transfers := []
  stored := []

end Mt7612u.Transmit
