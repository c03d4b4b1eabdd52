import Mt7612u.Library.Ring
import Mt7612u.Receive.Memory

/-! The queue of the MLME, `mlme.c`: what is put in by `MlmeEnqueue` and `MlmeEnqueueForRecv`, and
what `MlmeHandler` takes out. -/

namespace Mt7612u.Mlme
open Library Receive

/-- Which of `CONFIG_AP_SUPPORT` and `CONFIG_STA_SUPPORT` the driver is built with. -/
inductive Build where
  | apOnly
  | sta
  deriving DecidableEq, Repr

def maxLenOfMlmeQueue : Build → Nat
  | .apOnly => 20
  | .sta => 40

def mgmtDmaBufferSize : Nat := 1600
def reservedWcid : UInt8 := 0xff

structure QueueElem where
  msg : Memory
  machine : Nat
  msgType : Nat
  msgLen : Nat
  timeStampHigh : Nat
  timeStampLow : Nat
  rssi0 : UInt8
  rssi1 : UInt8
  rssi2 : UInt8
  signal : UInt8
  channel : UInt8
  wcid : UInt8
  occupied : Bool
  opMode : UInt8
  priv : Nat

structure MlmeQueue where
  num : Nat
  head : Nat
  tail : Nat
  entry : Nat → QueueElem

def mlmeQueueInit (build : Build) (queue : MlmeQueue) : MlmeQueue where
  num := 0
  head := 0
  tail := 0
  entry i :=
    if i < maxLenOfMlmeQueue build then
      { queue.entry i with
        occupied := false
        msgLen := 0
        msg := (queue.entry i).msg.write 0 (List.replicate mgmtDmaBufferSize 0) }
    else queue.entry i

def mlmeQueueEmpty (queue : MlmeQueue) : Bool := queue.num = 0

def mlmeQueueFull (build : Build) (queue : MlmeQueue) (sendId : UInt8) : Bool :=
  if sendId = 0 then
    queue.num ≥ maxLenOfMlmeQueue build / 2 || (queue.entry queue.tail).occupied
  else queue.num = maxLenOfMlmeQueue build

/-- `memmove` of a message into an entry, when there is one. -/
def copyMsg (old : Memory) (msg : Option Memory) (msgLen : Nat) : Memory :=
  match msg with
  | none => old
  | some msg => old.write 0 (msg.bytes 0 msgLen)

/-- The arguments of `MlmeEnqueue`. -/
structure EnqueueRequest where
  machine : Nat
  msgType : Nat
  msgLen : Nat
  msg : Option Memory
  priv : Nat

def EnqueueRequest.fill (request : EnqueueRequest) (elem : QueueElem) : QueueElem :=
  { elem with
    wcid := reservedWcid
    occupied := true
    machine := request.machine
    msgType := request.msgType
    msgLen := request.msgLen
    priv := request.priv
    msg := copyMsg elem.msg request.msg request.msgLen }

/-- The arguments of `MlmeEnqueueForRecv`. -/
structure RecvRequest where
  wcid : Nat
  timeStampHigh : Nat
  timeStampLow : Nat
  rssi0 : UInt8
  rssi1 : UInt8
  rssi2 : UInt8
  msgLen : Nat
  msg : Option Memory
  signal : UInt8
  opMode : UInt8
  /-- The machine and the type that `APMsgTypeSubst` or `MsgTypeSubst` finds for the frame. -/
  subst : Option (Nat × Nat)
  /-- `LatchRfRegs.Channel`. -/
  channel : UInt8

def RecvRequest.fill (request : RecvRequest) (machine msgType : Nat) (elem : QueueElem) :
    QueueElem :=
  { elem with
    occupied := true
    machine := machine
    msgType := msgType
    msgLen := request.msgLen
    timeStampLow := request.timeStampLow
    timeStampHigh := request.timeStampHigh
    rssi0 := request.rssi0
    rssi1 := request.rssi1
    rssi2 := request.rssi2
    signal := request.signal
    wcid := UInt8.ofNat request.wcid
    opMode := request.opMode
    channel := request.channel
    priv := 0
    msg := copyMsg elem.msg request.msg request.msgLen }

/-- The part of both under the lock: the entry at the tail is filled. -/
def MlmeQueue.put (build : Build) (queue : MlmeQueue) (fill : QueueElem → QueueElem) :
    MlmeQueue where
  num := queue.num + 1
  head := queue.head
  tail := Ring.next (maxLenOfMlmeQueue build) queue.tail
  entry := Function.update queue.entry queue.tail (fill (queue.entry queue.tail))

/-- What is tested before the lock is taken; `halted` is `fRTMP_ADAPTER_HALT_IN_PROGRESS` or
`fRTMP_ADAPTER_NIC_NOT_EXIST`. -/
def mlmeAdmits (build : Build) (halted : Bool) (msgLen : Nat) (sendId : UInt8)
    (queue : MlmeQueue) : Bool :=
  !halted && !(msgLen > mgmtDmaBufferSize) && !mlmeQueueFull build queue sendId

def mlmeEnqueue (build : Build) (halted : Bool) (queue : MlmeQueue) (request : EnqueueRequest) :
    Option MlmeQueue :=
  if mlmeAdmits build halted request.msgLen 1 queue then some (queue.put build request.fill)
  else none

def mlmeEnqueueForRecv (build : Build) (halted : Bool) (queue : MlmeQueue)
    (request : RecvRequest) : Option MlmeQueue :=
  if mlmeAdmits build halted request.msgLen 0 queue then
    match request.subst with
    | none => none
    | some (machine, msgType) => some (queue.put build (request.fill machine msgType))
  else none

/-- The queue afterwards, and the index of the entry that `Elem` points to. -/
def mlmeDequeue (build : Build) (queue : MlmeQueue) : MlmeQueue × Nat :=
  ({ queue with
      num := queue.num - 1
      head := Ring.next (maxLenOfMlmeQueue build) queue.head }, queue.head)

/-- What `MlmeHandler` does with an element after its action. -/
def MlmeQueue.free (queue : MlmeQueue) (slot : Nat) : MlmeQueue :=
  { queue with
    entry := Function.update queue.entry slot
      { queue.entry slot with occupied := false, msgLen := 0 } }

/-- The elements in the queue. -/
def MlmeQueue.elems (build : Build) (queue : MlmeQueue) : List QueueElem :=
  Ring.window (maxLenOfMlmeQueue build) queue.head queue.num queue.entry

theorem maxLenOfMlmeQueue_pos (build : Build) : 0 < maxLenOfMlmeQueue build := by
  cases build <;> decide

/-- The queue has a free entry when `MlmeEnqueue` finds it not full. -/
theorem mlmeAdmits_one {build : Build} {halted : Bool} {msgLen : Nat} {queue : MlmeQueue}
    (admits : mlmeAdmits build halted msgLen 1 queue) :
    queue.num ≠ maxLenOfMlmeQueue build := by
  unfold mlmeAdmits mlmeQueueFull at admits
  rw [if_neg (by decide)] at admits
  simp only [Bool.and_eq_true, Bool.not_eq_true', decide_eq_false_iff_not] at admits
  exact admits.2

/-- A frame from the air only gets the first half of the queue. -/
theorem mlmeAdmits_zero {build : Build} {halted : Bool} {msgLen : Nat} {queue : MlmeQueue}
    (admits : mlmeAdmits build halted msgLen 0 queue) :
    queue.num < maxLenOfMlmeQueue build / 2 ∧ (queue.entry queue.tail).occupied = false := by
  unfold mlmeAdmits mlmeQueueFull at admits
  rw [if_pos rfl] at admits
  simp only [Bool.and_eq_true, Bool.not_eq_true', Bool.or_eq_false_iff,
    decide_eq_false_iff_not, not_le] at admits
  exact admits.2

theorem mlmeEnqueue_eq_some {build : Build} {halted : Bool} {queue queue' : MlmeQueue}
    {request : EnqueueRequest} (accepted : mlmeEnqueue build halted queue request = some queue') :
    mlmeAdmits build halted request.msgLen 1 queue ∧ queue' = queue.put build request.fill := by
  unfold mlmeEnqueue at accepted
  split_ifs at accepted with admits
  exact ⟨admits, (Option.some.inj accepted).symm⟩

theorem mlmeEnqueueForRecv_eq_some {build : Build} {halted : Bool} {queue queue' : MlmeQueue}
    {request : RecvRequest}
    (accepted : mlmeEnqueueForRecv build halted queue request = some queue') :
    mlmeAdmits build halted request.msgLen 0 queue ∧
      ∃ machine msgType, queue' = queue.put build (request.fill machine msgType) := by
  unfold mlmeEnqueueForRecv at accepted
  split_ifs at accepted with admits
  apply And.intro admits
  cases found : request.subst with
  | none =>
    rw [found] at accepted
    cases accepted
  | some pair =>
    rw [found] at accepted
    exact ⟨pair.1, pair.2, (Option.some.inj accepted).symm⟩

/-- The two indices and the number of a ring. -/
structure MlmeQueue.IsRing (build : Build) (queue : MlmeQueue) : Prop where
  headLt : queue.head < maxLenOfMlmeQueue build
  tailEq : queue.tail = (queue.head + queue.num) % maxLenOfMlmeQueue build
  numLe : queue.num ≤ maxLenOfMlmeQueue build

namespace MlmeQueue

theorem isRing_init (build : Build) (queue : MlmeQueue) : (mlmeQueueInit build queue).IsRing build where
  headLt := maxLenOfMlmeQueue_pos build
  tailEq := by
    change 0 = (0 + 0) % maxLenOfMlmeQueue build
    rw [Nat.zero_mod]
  numLe := Nat.zero_le _

namespace IsRing

variable {build : Build} {queue : MlmeQueue}

theorem tailLt (ring : queue.IsRing build) : queue.tail < maxLenOfMlmeQueue build := by
  rw [ring.tailEq]
  exact Nat.mod_lt _ (maxLenOfMlmeQueue_pos build)

/-- The number is the distance of the indices, or the queue is full. -/
theorem numEq (ring : queue.IsRing build) :
    queue.num =
        (queue.tail + maxLenOfMlmeQueue build - queue.head) % maxLenOfMlmeQueue build ∨
      queue.num = maxLenOfMlmeQueue build ∧ queue.tail = queue.head := by
  have headLt := ring.headLt
  have bounded := ring.numLe
  rw [ring.tailEq]
  rcases Nat.lt_or_ge queue.num (maxLenOfMlmeQueue build) with below | full
  · left
    rcases Nat.lt_or_ge (queue.head + queue.num) (maxLenOfMlmeQueue build) with flat | wrap
    · have shift : queue.head + queue.num + maxLenOfMlmeQueue build - queue.head =
          queue.num + maxLenOfMlmeQueue build := by omega
      rw [Nat.mod_eq_of_lt flat, shift, Nat.add_mod_right, Nat.mod_eq_of_lt below]
    · have tail : (queue.head + queue.num) % maxLenOfMlmeQueue build =
          queue.head + queue.num - maxLenOfMlmeQueue build := by
        rw [Nat.mod_eq_sub_mod wrap]
        exact Nat.mod_eq_of_lt (by omega)
      have shift : queue.head + queue.num - maxLenOfMlmeQueue build +
          maxLenOfMlmeQueue build - queue.head = queue.num := by omega
      rw [tail, shift, Nat.mod_eq_of_lt below]
  · right
    have whole : queue.num = maxLenOfMlmeQueue build := by omega
    apply And.intro whole
    rw [whole, Nat.add_mod_right, Nat.mod_eq_of_lt headLt]

theorem put (ring : queue.IsRing build) (room : queue.num < maxLenOfMlmeQueue build)
    (fill : QueueElem → QueueElem) : (queue.put build fill).IsRing build where
  headLt := ring.headLt
  tailEq := by
    change Ring.next _ queue.tail = (queue.head + (queue.num + 1)) % _
    rw [Ring.next_eq ring.tailLt, ring.tailEq, Nat.mod_add_mod, Nat.add_assoc]
  numLe := room

/-- What is put in stands at the end of the queue. -/
theorem elems_put (ring : queue.IsRing build) (room : queue.num < maxLenOfMlmeQueue build)
    (fill : QueueElem → QueueElem) :
    (queue.put build fill).elems build =
      queue.elems build ++ [fill (queue.entry queue.tail)] := by
  unfold MlmeQueue.elems MlmeQueue.put
  dsimp only
  rw [ring.tailEq]
  exact Ring.window_push room _

theorem dequeue (ring : queue.IsRing build) (filled : queue.num ≠ 0) :
    (mlmeDequeue build queue).1.IsRing build where
  headLt := Ring.next_lt ring.headLt
  tailEq := by
    change queue.tail = (Ring.next _ queue.head + (queue.num - 1)) % _
    rw [Ring.next_eq ring.headLt, Nat.mod_add_mod, ring.tailEq]
    congr 1
    omega
  numLe := by
    change queue.num - 1 ≤ _
    have := ring.numLe
    omega

/-- What `MlmeDequeue` takes is a head of the ring, whatever is kept in the slots. -/
theorem window_dequeue {α : Type*} (ring : queue.IsRing build) (filled : queue.num ≠ 0)
    (slot : Nat → α) :
    Ring.window (maxLenOfMlmeQueue build) queue.head queue.num slot =
      slot queue.head ::
        Ring.window (maxLenOfMlmeQueue build) (mlmeDequeue build queue).1.head
          (mlmeDequeue build queue).1.num slot := by
  obtain ⟨rest, numEq⟩ := Nat.exists_eq_succ_of_ne_zero filled
  change _ = slot queue.head :: Ring.window _ (Ring.next _ queue.head) (queue.num - 1) slot
  rw [numEq, Ring.window_pop, Nat.mod_eq_of_lt ring.headLt, Ring.next_eq ring.headLt]
  rfl

theorem elems_dequeue (ring : queue.IsRing build) (filled : queue.num ≠ 0) :
    queue.elems build =
      queue.entry queue.head :: (mlmeDequeue build queue).1.elems build :=
  ring.window_dequeue filled queue.entry

/-- The slot in front of the head is behind the queue when no other is free. -/
theorem tail_eq (ring : queue.IsRing build) {slot : Nat} (slotLt : slot < maxLenOfMlmeQueue build)
    (front : queue.head = Ring.next (maxLenOfMlmeQueue build) slot)
    (last : queue.num + 1 = maxLenOfMlmeQueue build) : queue.tail = slot := by
  have whole : slot + 1 + queue.num = slot + (queue.num + 1) := by omega
  rw [ring.tailEq, front, Ring.next_eq slotLt, Nat.mod_add_mod, whole, last, Nat.add_mod_right,
    Nat.mod_eq_of_lt slotLt]

theorem tail_ne (ring : queue.IsRing build) {slot : Nat} (slotLt : slot < maxLenOfMlmeQueue build)
    (front : queue.head = Ring.next (maxLenOfMlmeQueue build) slot)
    (spare : queue.num + 1 < maxLenOfMlmeQueue build) : queue.tail ≠ slot := by
  rw [ring.tailEq, front, Ring.next_eq slotLt, Nat.mod_add_mod]
  exact Ring.window_outside slotLt spare

/-- The slot in front of the head is outside of a queue that is not full. -/
theorem elems_free {slot : Nat} (slotLt : slot < maxLenOfMlmeQueue build)
    (front : queue.head = Ring.next (maxLenOfMlmeQueue build) slot)
    (room : queue.num < maxLenOfMlmeQueue build) :
    (queue.free slot).elems build = queue.elems build := by
  have apart : ∀ i, i < queue.num → (queue.head + i) % maxLenOfMlmeQueue build ≠ slot := by
    intro i inside
    rw [front, Ring.next_eq slotLt, Nat.mod_add_mod]
    exact Ring.window_outside slotLt (by omega)
  exact Ring.window_update _ apart

end IsRing

end MlmeQueue

section Small

def blankElem : QueueElem where
  msg _ := 0
  machine := 0
  msgType := 0
  msgLen := 0
  timeStampHigh := 0
  timeStampLow := 0
  rssi0 := 0
  rssi1 := 0
  rssi2 := 0
  signal := 0
  channel := 0
  wcid := 0
  occupied := false
  opMode := 0
  priv := 0

def blankQueue : MlmeQueue where
  num := 0
  head := 0
  tail := 0
  entry _ := blankElem

/-- A message of one byte. -/
def smallRequest (msgType : Nat) : EnqueueRequest where
  machine := 1
  msgType := msgType
  msgLen := 1
  msg := some fun _ => 7
  priv := 0

end Small

end Mt7612u.Mlme
