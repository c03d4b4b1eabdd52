import Mt7612u.Library.Ring
import Mt7612u.Library.Run

/-! The management ring: `RtmpUSBMgmtKickOut` puts a packet into a cell, `RTUSBBulkOutMLMEPacket`
hands the cells to the USB core one at a time, and the tasklet of their completion frees the packets.
Each call is finished before the next one begins. -/

namespace Mt7612u.Transmit
open Library.Ring Library.Run

def mgmtRingSize : Nat := 32

/-- A cell of the ring and its `TX_CONTEXT`. -/
structure MgmtCell (Packet : Type) where
  pNdisPacket : Option Packet
  transferBuffer : Option Packet
  inUse : Bool
  bWaitingBulkOut : Bool
  irpPending : Bool
  /-- The USB core has the URB. -/
  submitted : Bool

/-- `RTMP_MGMT_RING` and what its functions use of the adapter, with the packets that came into the
ring, that went to the USB core, and that were freed, in order. -/
structure MgmtRing (Packet : Type) where
  cell : Nat → MgmtCell Packet
  txCpuIdx : Nat
  txDmaIdx : Nat
  txSwFreeIdx : BitVec 32
  bulkOutPending : Bool
  /-- `fRTUSB_BULK_OUT_MLME`. -/
  bulkOutMlme : Bool
  /-- `fRTMP_ADAPTER_BULKOUT_RESET`, for the pipe of the ring. -/
  bulkOutReset : Bool
  accepted : List Packet
  sent : List Packet
  freed : List Packet

/-- What `RTUSBKickBulkOut` finds outside of the ring. -/
structure Kick where
  needStopTx : Bool
  psPoll : Bool
  /-- `usb_submit_urb` takes the URB. -/
  submits : Bool

/-- What the tasklet of a completion finds outside of the ring. -/
structure Completion where
  failed : Bool
  /-- One of `RESET_IN_PROGRESS`, `HALT_IN_PROGRESS` and `NIC_NOT_EXIST`. -/
  halted : Bool
  /-- `fRTMP_ADAPTER_BULKOUT_RESET`, for another pipe. -/
  otherReset : Bool

variable {Packet : Type}

namespace MgmtRing

/-- The ring as the driver allocates it. -/
def init (Packet : Type) : MgmtRing Packet where
  cell := fun _ => ⟨none, none, false, false, false, false⟩
  txCpuIdx := 0
  txDmaIdx := 0
  txSwFreeIdx := BitVec.ofNat 32 mgmtRingSize
  bulkOutPending := false
  bulkOutMlme := false
  bulkOutReset := false
  accepted := []
  sent := []
  freed := []

def setCell (r : MgmtRing Packet) (index : Nat) (cell : MgmtCell Packet) : MgmtRing Packet :=
  { r with cell := Function.update r.cell index cell }

/-- `GET_MGMTRING_FREENO`. -/
def freeNo (r : MgmtRing Packet) : Nat := r.txSwFreeIdx.toNat

/-- `RTUSBBulkOutMLMEPacket`. -/
def rtusbBulkOutMLMEPacket (r : MgmtRing Packet) (needStopTx submits : Bool) : MgmtRing Packet :=
  let pMLMEContext := r.cell r.txDmaIdx
  if mgmtRingSize ≤ r.txSwFreeIdx.toNat ∨ pMLMEContext.inUse = false ∨
      pMLMEContext.bWaitingBulkOut = false then
    { r with bulkOutMlme := false }
  else if r.bulkOutPending ∨ needStopTx then r
  else if submits then
    { r.setCell r.txDmaIdx
        { pMLMEContext with irpPending := true, bWaitingBulkOut := false, submitted := true } with
      bulkOutPending := true
      bulkOutMlme := false
      sent := r.sent ++ pMLMEContext.transferBuffer.toList }
  else
    { r.setCell r.txDmaIdx { pMLMEContext with irpPending := false, bWaitingBulkOut := true } with
      bulkOutPending := false
      bulkOutMlme := false }

/-- `RTUSBKickBulkOut`, as far as it goes to this ring. -/
def rtusbKickBulkOut (r : MgmtRing Packet) (kick : Kick) : MgmtRing Packet :=
  if kick.needStopTx then r
  else if kick.psPoll then r
  else if r.bulkOutMlme ∨ r.txSwFreeIdx.toNat < mgmtRingSize then
    r.rtusbBulkOutMLMEPacket kick.needStopTx kick.submits
  else r

/-- What `RtmpUSBMgmtKickOut` does under the lock. -/
def accept (r : MgmtRing Packet) (pPacket : Packet) : MgmtRing Packet :=
  { r.setCell r.txCpuIdx { r.cell r.txCpuIdx with
      pNdisPacket := some pPacket
      transferBuffer := some pPacket
      inUse := true
      bWaitingBulkOut := true } with
    txSwFreeIdx := r.txSwFreeIdx - 1
    txCpuIdx := (r.txCpuIdx + 1) % mgmtRingSize
    accepted := r.accepted ++ [pPacket] }

/-- `RtmpUSBMgmtKickOut`. It does not look whether there is a free cell. -/
def rtmpUSBMgmtKickOut (r : MgmtRing Packet) (pPacket : Packet) (kick : Kick) : MgmtRing Packet :=
  { r.accept pPacket with bulkOutMlme := true }.rtusbKickBulkOut kick

/-- What the tasklet does with the cell of the URB. -/
def release (r : MgmtRing Packet) (index : Nat) : MgmtRing Packet :=
  let pMLMEContext := r.cell index
  { r.setCell index { pMLMEContext with
      irpPending := false
      inUse := false
      bWaitingBulkOut := false
      pNdisPacket := none
      submitted := false } with
    bulkOutPending := false
    txDmaIdx := (r.txDmaIdx + 1) % mgmtRingSize
    txSwFreeIdx := r.txSwFreeIdx + 1
    freed := r.freed ++ pMLMEContext.pNdisPacket.toList }

/-- `rtusb_mgmt_dma_done_tasklet`. -/
def rtusbMgmtDmaDoneTasklet (r : MgmtRing Packet) (index : Nat) (completion : Completion)
    (kick : Kick) : MgmtRing Packet :=
  let broken := completion.failed && !completion.halted && !(r.bulkOutReset || completion.otherReset)
  let r := { r with bulkOutReset := r.bulkOutReset || broken }.release index
  if completion.halted then r
  else if r.bulkOutReset then r
  else { r with bulkOutMlme := r.bulkOutMlme || decide (r.txSwFreeIdx.toNat < mgmtRingSize) }
    |>.rtusbKickBulkOut kick

/-- `ResetBulkOutHdlr`, when it is for the pipe of the ring. -/
def resetBulkOutHdlr (r : MgmtRing Packet) (kick : Kick) : MgmtRing Packet :=
  { r with
    bulkOutReset := false
    bulkOutMlme := r.bulkOutMlme || decide (r.txSwFreeIdx.toNat < mgmtRingSize) }
    |>.rtusbKickBulkOut kick

end MgmtRing

/-- What comes of a packet in `MiniportMMRequest`. -/
inductive MMRequest where
  | failure
  /-- There is no free cell; the status is a success all the same. -/
  | ringFull
  | transmitted
  deriving DecidableEq

/-- `MiniportMMRequest`. `stopped` is what its first test says, `pPacket` what
`RTMPAllocateNdisPacket` gives; `MlmeHardTransmit` may refuse a packet before it comes to the ring. -/
def MgmtRing.miniportMMRequest (r : MgmtRing Packet) (stopped : Bool) (pPacket : Option Packet)
    (refused : Bool) (kick : Kick) : MMRequest × MgmtRing Packet :=
  if stopped then (.failure, r)
  else if 0 < r.freeNo then
    match pPacket with
    | none => (.failure, r)
    | some pPacket =>
        if refused then (.failure, r) else (.transmitted, r.rtmpUSBMgmtKickOut pPacket kick)
  else (.ringFull, r)

/-- A call. Packets for the ring come from `MiniportMMRequest`, and from others that do not test for a
free cell, or did so before: `RTMPDeQueuePacket`, and a `MiniportMMRequest` of another thread. -/
inductive MgmtEvent (Packet : Type) where
  | mmRequest (stopped : Bool) (pPacket : Option Packet) (refused : Bool) (kick : Kick)
  | kickOut (pPacket : Packet) (kick : Kick)
  | kickBulkOut (kick : Kick)
  | dmaDone (index : Fin mgmtRingSize) (completion : Completion) (kick : Kick)
  | resetBulkOut (kick : Kick)

/-- The USB core completes only a URB that it has. -/
def mgmtStep (r : MgmtRing Packet) : MgmtEvent Packet → MgmtRing Packet
  | .mmRequest stopped pPacket refused kick => (r.miniportMMRequest stopped pPacket refused kick).2
  | .kickOut pPacket kick => r.rtmpUSBMgmtKickOut pPacket kick
  | .kickBulkOut kick => r.rtusbKickBulkOut kick
  | .dmaDone index completion kick =>
      if (r.cell index).submitted then r.rtusbMgmtDmaDoneTasklet index completion kick else r
  | .resetBulkOut kick => r.resetBulkOutHdlr kick

namespace MgmtRing

/-- The cells that hold a packet. -/
def used (r : MgmtRing Packet) : Finset Nat :=
  (Finset.range mgmtRingSize).filter fun i => (r.cell i).pNdisPacket.isSome

/-- The packets in the cells in use, from `TxDmaIdx` on. -/
def contents (r : MgmtRing Packet) : List Packet :=
  (window mgmtRingSize r.txDmaIdx r.used.card r.cell).filterMap (·.pNdisPacket)

/-- The counters agree with the cells, packets go out in order, each is freed once, and none is
refused while there is a cell for it. -/
structure Orderly (r : MgmtRing Packet) : Prop where
  txSwFreeIdx : r.txSwFreeIdx.toNat = mgmtRingSize - r.used.card
  inUse : ∀ i, i < mgmtRingSize → ((r.cell i).inUse = true ↔ (r.cell i).pNdisPacket.isSome)
  cells : ∀ i, i ∈ r.used ↔ ∃ k, k < r.used.card ∧ i = (r.txDmaIdx + k) % mgmtRingSize
  txCpuIdx : r.txCpuIdx = (r.txDmaIdx + r.used.card) % mgmtRingSize
  inOrder : r.sent <+: r.accepted
  freedOnce : r.accepted = r.freed ++ r.contents
  refused : ∀ pPacket refused kick,
    (r.miniportMMRequest false pPacket refused kick).1 = .ringFull ↔ r.used.card = mgmtRingSize

/-- The call does not bring a packet to a full ring. -/
def Fits (r : MgmtRing Packet) : MgmtEvent Packet → Prop
  | .kickOut _ _ => 0 < r.freeNo
  | _ => True

end MgmtRing

end Mt7612u.Transmit
