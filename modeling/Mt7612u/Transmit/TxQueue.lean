import Mt7612u.Library.Run
import Mt7612u.Transmit.FragmentDisposal

/-! `TxSwQueue` and `RTMPDeQueuePacket` of `cmm_data.c`. Several callers enqueue and dequeue side by side;
each section under a lock is a step of its own, and so is the transmission of a block. -/

namespace Mt7612u.Transmit
open BlockAck (Packet OpMode)

section Resources

def maxAggregationSize : Nat := 3840

/-- `RTUSBFreeDescRequest`. -/
def HtTxContext.freeDescRequest (pHTTXContext : HtTxContext) (reqCnt : Nat) : Bool :=
  if pHTTXContext.curWritePosition < pHTTXContext.nextBulkOutPosition &&
      pHTTXContext.curWritePosition + reqCnt + localTxbufSize > pHTTXContext.nextBulkOutPosition then
    false
  else if pHTTXContext.curWritePosition == 8 &&
      pHTTXContext.nextBulkOutPosition < reqCnt + localTxbufSize then false
  else if pHTTXContext.bCurWriting then false
  else true

/-- `RTUSBNeedQueueBackForAgg`. -/
def HtTxContext.needQueueBackForAgg (pHTTXContext : HtTxContext) (irpPending : Bool) : Bool :=
  let cur := pHTTXContext.curWritePosition
  let eNext := pHTTXContext.eNextBulkOutPosition
  if irpPending then
    if cur < eNext &&
        (eNext + maxAggregationSize < maxTxbulkLimit || cur > maxAggregationSize) then true
    else if cur > eNext && eNext + maxAggregationSize < cur then true
    else false
  else false

end Resources

section FrameTypes

def txMcastFrame : UInt8 := 0x01
def txLegacyFrame : UInt8 := 0x02
def txAmpduFrame : UInt8 := 0x04
def txAmsduFrame : UInt8 := 0x08
def txRalinkFrame : UInt8 := 0x10
def txFragFrame : UInt8 := 0x20
def txNdpaFrame : UInt8 := 0x40

/-- The `switch` of `APHardTransmit` and `STAHardTransmit`, behind the announcement of an NDP. -/
def frameKind (txFrameType : UInt8) : Option FrameKind :=
  let txFrameType := txFrameType &&& ~~~txNdpaFrame
  if txFrameType = txAmpduFrame then some .ampdu
  else if txFrameType = txLegacyFrame then some .legacy
  else if txFrameType = txMcastFrame then some .legacy
  else if txFrameType = txAmsduFrame then some .amsdu
  else if txFrameType = txRalinkFrame then some .ralink
  else if txFrameType = txFragFrame then some .fragment
  else none

end FrameTypes

section HardTransmit

/-- A call of `APHardTransmit` or `STAHardTransmit`: the block it gets and what it finds. -/
structure HardTransmit where
  opMode : OpMode
  /-- `RDMode` is `RD_NORMAL_MODE`. -/
  rdNormal : Bool
  setting : FrameSetting
  txFrameType : UInt8
  txPacketList : List Packet

/-- The frame function that is called; with none of them the packets are freed. -/
def HardTransmit.kind (call : HardTransmit) : Option FrameKind :=
  if call.opMode = .ap ∧ call.rdNormal = false then none else frameKind call.txFrameType

/-- What is done with the packets, and what stays in `TxPacketList`. -/
def HardTransmit.run (call : HardTransmit) : Option (List TxEvent × List Packet) :=
  match call.kind with
  | none =>
      some (call.txPacketList.flatMap fun pPacket => [.refused pPacket, .freed pPacket], [])
  | some kind => frameTx call.opMode kind call.setting call.txPacketList

end HardTransmit

/-- `TX_BLK`, as far as `RTMPDeQueuePacket` fills it. -/
structure DequeuedBlock where
  txFrameType : UInt8
  txPacketList : List Packet

/-- What a turn of the loop finds. The ring has its own lock, so each look at it may find another. -/
structure TurnInput where
  /-- A flag of the adapter that stops the dequeuing. -/
  stopped : Bool
  /-- `RTMP_GET_PACKET_MGMT_PKT`. -/
  mgmtPkt : Packet → Bool
  /-- `MlmeHardTransmitMgmtRing` answers with success. -/
  mgmtRingTakes : Bool
  /-- `ContinueTxFailCnt` is at its bound, and the time to try again has not come. -/
  jammed : Packet → Bool
  len : Packet → Nat
  ring : Nat → HtTxContext
  irpPending : Nat → Bool
  /-- `TxPktClassification`. -/
  txFrameType : Packet → UInt8
  /-- `CanDoAggregateTransmit`. -/
  canDoAggregateTransmit : DequeuedBlock → Packet → Bool

/-- `RTMP_HAS_ENOUGH_FREE_DESC`. -/
def TurnInput.hasEnoughFreeDesc (input : TurnInput) (look totalFrameLen : Nat) (pPacket : Packet) :
    Bool :=
  (input.ring look).freeDescRequest (totalFrameLen + input.len pPacket)

/-- `NEED_QUEUE_BACK_FOR_AGG`. -/
def TurnInput.needQueueBack (input : TurnInput) (look : Nat) (txFrameType : UInt8) : Bool :=
  txFrameType == txRalinkFrame &&
    (input.ring look).needQueueBackForAgg (input.irpPending look)

/-- The inner loop: the packets that go into one aggregate with those of the block. -/
def aggregate (input : TurnInput) :
    Nat → Nat → Nat → DequeuedBlock → QueueHeader → DequeuedBlock × QueueHeader
  | 0, _, _, pTxBlk, pQueue => (pTxBlk, pQueue)
  | turns + 1, look, totalFrameLen, pTxBlk, pQueue =>
      match pQueue.removeHeadQueue with
      | none => (pTxBlk, pQueue)
      | some (pPacket, rest) =>
          if !input.hasEnoughFreeDesc look totalFrameLen pPacket ||
              !input.canDoAggregateTransmit pTxBlk pPacket then (pTxBlk, pQueue)
          else
            aggregate input turns (look + 1) (totalFrameLen + input.len pPacket)
              { pTxBlk with txPacketList := pTxBlk.txPacketList ++ [pPacket] } rest

/-- How a turn of the loop ends. -/
inductive TurnResult where
  /-- `break`. -/
  | done (pQueue : QueueHeader)
  | mgmtRing (pPacket : Packet) (pQueue : QueueHeader)
  | freed (pPacket : Packet) (pQueue : QueueHeader)
  | block (pTxBlk : DequeuedBlock) (pQueue : QueueHeader)

/-- The first packet is in the block; here it is put back, or others join it. -/
def dequeueBlock (input : TurnInput) (pPacket : Packet) (rest : QueueHeader) : TurnResult :=
  let pTxBlk : DequeuedBlock := ⟨input.txFrameType pPacket, [pPacket]⟩
  if pTxBlk.txFrameType &&& (txRalinkFrame ||| txAmsduFrame) != 0 &&
      input.needQueueBack 1 pTxBlk.txFrameType then
    .done (rest.insertHeadQueue pPacket)
  else if pTxBlk.txFrameType == txRalinkFrame || pTxBlk.txFrameType == txAmsduFrame then
    if input.needQueueBack 2 pTxBlk.txFrameType then .done (rest.insertHeadQueue pPacket)
    else
      let (pTxBlk, rest) :=
        aggregate input rest.entries.length 3 (input.len pPacket) pTxBlk rest
      if pTxBlk.txPacketList.length = 1 then .block { pTxBlk with txFrameType := txLegacyFrame } rest
      else .block pTxBlk rest
  else .block pTxBlk rest

/-- The part of a turn that is under `irq_lock`. -/
def dequeueTurn (input : TurnInput) (pQueue : QueueHeader) : TurnResult :=
  match pQueue.removeHeadQueue with
  | none => .done pQueue
  | some (pPacket, rest) =>
      if input.mgmtPkt pPacket then
        if input.mgmtRingTakes then .mgmtRing pPacket rest else .freed pPacket rest
      else if input.jammed pPacket then .freed pPacket rest
      else if !input.hasEnoughFreeDesc 0 0 pPacket then .done pQueue
      else dequeueBlock input pPacket rest

/-- Where a caller of `RTMPDeQueuePacket` stands; `later` are the queues it goes on with. -/
inductive Dequeuer where
  | idle
  | starting (later : List QueIdx) (maxTxPackets : Int)
  | looping (queIdx : QueIdx) (later : List QueIdx) (maxTxPackets : Int) (count : UInt8)
  | transmitting (queIdx : QueIdx) (later : List QueIdx) (maxTxPackets : Int) (count : UInt8)
      (pTxBlk : DequeuedBlock)

/-- How packets have left a queue for good. -/
inductive Departure where
  | mgmtRing (pPacket : Packet)
  | freed (pPacket : Packet)
  | transmitted (call : HardTransmit)

def Departure.packets : Departure → List Packet
  | .mgmtRing pPacket => [pPacket]
  | .freed pPacket => [pPacket]
  | .transmitted call => call.txPacketList

/-- `placed` and `departed` are the packets put into a queue and those that have left it, so far. -/
structure TxQueues where
  txSwQueue : QueIdx → QueueHeader
  deQueueRunning : QueIdx → Bool
  dequeuer : Nat → Dequeuer
  placed : QueIdx → List Packet
  departed : QueIdx → List Departure

inductive TxQueueEvent where
  /-- `InsertTailQueueAc` with a packet that has not been in a queue before. -/
  | enqueue (queIdx : QueIdx) (pPacket : Packet)
  /-- `RTMPDeQueuePacket` is called; without an index, for the four ACs. -/
  | call (who : Nat) (qIdx : Option QueIdx) (maxTxPackets : Int)
  /-- `RTMP_START_DEQUEUE`. -/
  | start (who : Nat)
  | turn (who : Nat) (input : TurnInput)
  | hardTransmit (who : Nat) (opMode : OpMode) (rdNormal : Bool) (setting : FrameSetting)

namespace TxQueues

def setDequeuer (s : TxQueues) (who : Nat) (dequeuer : Dequeuer) : TxQueues :=
  { s with dequeuer := Function.update s.dequeuer who dequeuer }

/-- `RTMP_STOP_DEQUEUE`. -/
def stopDequeue (s : TxQueues) (queIdx : QueIdx) : TxQueues :=
  { s with deQueueRunning := Function.update s.deQueueRunning queIdx false }

def setQueue (s : TxQueues) (queIdx : QueIdx) (pQueue : QueueHeader) : TxQueues :=
  { s with txSwQueue := Function.update s.txSwQueue queIdx pQueue }

def depart (s : TxQueues) (queIdx : QueIdx) (departure : Departure) : TxQueues :=
  { s with departed := Function.update s.departed queIdx (s.departed queIdx ++ [departure]) }

/-- The end of the loop over one queue. -/
def leave (s : TxQueues) (who : Nat) (queIdx : QueIdx) (next : Dequeuer) : TxQueues :=
  (s.stopDequeue queIdx).setDequeuer who next

def turn (s : TxQueues) (who : Nat) (input : TurnInput) (queIdx : QueIdx) (later : List QueIdx)
    (maxTxPackets : Int) (count : UInt8) : TxQueues :=
  if input.stopped then s.leave who queIdx .idle
  else if (count.toNat : Int) ≥ maxTxPackets then
    s.leave who queIdx (.starting later maxTxPackets)
  else
    match dequeueTurn input (s.txSwQueue queIdx) with
    | .done pQueue => (s.setQueue queIdx pQueue).leave who queIdx (.starting later maxTxPackets)
    | .mgmtRing pPacket pQueue =>
        ((s.setQueue queIdx pQueue).depart queIdx (.mgmtRing pPacket)).setDequeuer who
          (.looping queIdx later maxTxPackets (count + 1))
    | .freed pPacket pQueue =>
        ((s.setQueue queIdx pQueue).depart queIdx (.freed pPacket)).setDequeuer who
          (.looping queIdx later maxTxPackets (count + 1))
    | .block pTxBlk pQueue =>
        (s.setQueue queIdx pQueue).setDequeuer who
          (.transmitting queIdx later maxTxPackets
            (count + UInt8.ofNat pTxBlk.txPacketList.length) pTxBlk)

def step (s : TxQueues) : TxQueueEvent → TxQueues
  | .enqueue queIdx pPacket =>
      if ∃ other, pPacket ∈ s.placed other then s
      else
        { s.setQueue queIdx ((s.txSwQueue queIdx).insertTailQueue pPacket) with
          placed := Function.update s.placed queIdx (s.placed queIdx ++ [pPacket]) }
  | .call who qIdx maxTxPackets =>
      match s.dequeuer who with
      | .idle =>
          let queues := match qIdx with
            | some queIdx => [queIdx]
            | none => [qidAcVo, qidAcVi, qidAcBk, qidAcBe]
          s.setDequeuer who (.starting queues maxTxPackets)
      | _ => s
  | .start who =>
      match s.dequeuer who with
      | .starting [] _ => s.setDequeuer who .idle
      | .starting (queIdx :: later) maxTxPackets =>
          if s.deQueueRunning queIdx then s.setDequeuer who (.starting later maxTxPackets)
          else
            { s.setDequeuer who (.looping queIdx later maxTxPackets 0) with
              deQueueRunning := Function.update s.deQueueRunning queIdx true }
      | _ => s
  | .turn who input =>
      match s.dequeuer who with
      | .looping queIdx later maxTxPackets count =>
          s.turn who input queIdx later maxTxPackets count
      | _ => s
  | .hardTransmit who opMode rdNormal setting =>
      match s.dequeuer who with
      | .transmitting queIdx later maxTxPackets count pTxBlk =>
          (s.depart queIdx (.transmitted
            ⟨opMode, rdNormal, setting, pTxBlk.txFrameType, pTxBlk.txPacketList⟩)).setDequeuer who
              (.looping queIdx later maxTxPackets count)
      | _ => s

def start : TxQueues where
  txSwQueue _ := .empty
  deQueueRunning _ := false
  dequeuer _ := .idle
  placed _ := []
  departed _ := []

end TxQueues

end Mt7612u.Transmit
