import Mt7612u.Library.Ring
import Mt7612u.Library.Run

/-! The ring of bulk-in contexts: `DoBulkIn` and `ResetBulkInHdlr` hand a buffer to the USB core, the
tasklet of the completion marks it readable, and `RTUSBBulkReceive` processes the readable ones. What
each of them does under `BulkInLock` is one step. -/

namespace Mt7612u.Receive.BulkIn
open Library.Ring Library.Run

def rxRingSize : Nat := 8

/-- `RX_CONTEXT`. A byte of the buffer is the number of the transfer that brought it. -/
structure RxContext where
  transferBuffer : Nat → Option Nat
  bulkInOffset : Nat
  inUse : Bool
  irpPending : Bool
  readable : Bool
  bRxHandling : Bool
  /-- The USB core has the URB. -/
  submitted : Bool
  /-- Where in the buffer the transfer of the URB starts. -/
  start : Nat
  /-- The number of the last transfer. -/
  transfer : Nat

/-- What the bulk-in functions use of the adapter, and what happened so far: how many transfers were
begun, and which of them became readable and were processed. -/
structure Adapter where
  rxContext : Nat → RxContext
  pendingRx : BitVec 8
  nextRxBulkInIndex : Nat
  nextRxBulkInReadIndex : Nat
  nextRxBulkInPosition : Nat
  /-- The contexts that a thread has claimed and not submitted yet. -/
  claimed : List Nat
  begun : Nat
  arrived : List Nat
  processed : List Nat

namespace Adapter

/-- `NICInitRecv`. -/
def nicInitRecv : Adapter where
  rxContext := fun _ => ⟨fun _ => none, 0, false, false, false, false, false, 0, 0⟩
  pendingRx := 0
  nextRxBulkInIndex := 0
  nextRxBulkInReadIndex := 0
  nextRxBulkInPosition := 0
  claimed := []
  begun := 0
  arrived := []
  processed := []

def setContext (r : Adapter) (index : Nat) (pRxContext : RxContext) : Adapter :=
  { r with rxContext := Function.update r.rxContext index pRxContext }

/-- The first locked section of `DoBulkIn`, and the same in `ResetBulkInHdlr`. -/
def claim (r : Adapter) : Adapter :=
  let pRxContext := r.rxContext r.nextRxBulkInIndex
  if 0 < r.pendingRx.toNat ∨ pRxContext.readable ∨ pRxContext.inUse then r
  else
    { r.setContext r.nextRxBulkInIndex { pRxContext with inUse := true, irpPending := true } with
      pendingRx := r.pendingRx + 1
      claimed := r.nextRxBulkInIndex :: r.claimed }

/-- `RTUSBInitRxDesc` and `usb_submit_urb`, which does not take a URB that it has. `DoBulkIn` clears
the buffer first. -/
def submit (r : Adapter) (index : Nat) (clears takes : Bool) : Adapter :=
  let pRxContext := r.rxContext index
  let r := { r with claimed := r.claimed.erase index }
  let transferBuffer := fun i =>
    if clears ∧ i < pRxContext.bulkInOffset then none else pRxContext.transferBuffer i
  if takes ∧ !pRxContext.submitted then
    { r.setContext index { pRxContext with
        transferBuffer := transferBuffer
        submitted := true
        start := r.nextRxBulkInPosition
        transfer := r.begun } with
      begun := r.begun + 1 }
  else
    { r.setContext index { pRxContext with
        transferBuffer := transferBuffer
        inUse := false
        irpPending := false } with
      pendingRx := r.pendingRx - 1 }

/-- What a transfer of `actualLength` bytes leaves in its context, and the tasklet changes in it in
any case. -/
def received (pRxContext : RxContext) (actualLength : Nat) : RxContext :=
  { pRxContext with
    transferBuffer := fun i =>
      if pRxContext.start ≤ i ∧ i < pRxContext.start + actualLength then some pRxContext.transfer
      else pRxContext.transferBuffer i
    submitted := false
    inUse := false
    irpPending := false
    bulkInOffset := pRxContext.bulkInOffset + actualLength }

/-- `rx_done_tasklet`, as far as it holds the lock. -/
def rxDoneTasklet (r : Adapter) (index : Nat) (failed : Bool) (actualLength : Nat) : Adapter :=
  let pRxContext := received (r.rxContext index) actualLength
  let r := { r with pendingRx := if 0 < r.pendingRx.toNat then r.pendingRx - 1 else r.pendingRx }
  if failed then r.setContext index { pRxContext with readable := false }
  else
    let r := { r with nextRxBulkInPosition := 0 }
    -- a transfer may succeed without bringing a byte
    if pRxContext.bulkInOffset ≠ 0 then
      { r.setContext index { pRxContext with readable := true } with
        nextRxBulkInIndex := (r.nextRxBulkInIndex + 1) % rxRingSize
        arrived := r.arrived ++ [pRxContext.transfer] }
    else r.setContext index pRxContext

/-- `RTUSBBulkReceive` begins to process a context. -/
def beginHandling (r : Adapter) : Adapter :=
  let pRxContext := r.rxContext r.nextRxBulkInReadIndex
  if pRxContext.inUse = false ∧ pRxContext.readable = true ∧ pRxContext.bRxHandling = false then
    r.setContext r.nextRxBulkInReadIndex { pRxContext with bRxHandling := true }
  else r

/-- It has processed it. -/
def endHandling (r : Adapter) : Adapter :=
  let pRxContext := r.rxContext r.nextRxBulkInReadIndex
  { r.setContext r.nextRxBulkInReadIndex
      { pRxContext with bulkInOffset := 0, readable := false, bRxHandling := false } with
    nextRxBulkInReadIndex := (r.nextRxBulkInReadIndex + 1) % rxRingSize
    processed := r.processed ++ [pRxContext.transfer] }

/-- One round of `RTUSBCancelPendingBulkInIRP`. `usb_kill_urb` waits for the completion, and its
tasklet has run when the driver goes on. -/
def cancelContext (pRxContext : RxContext) (actualLength : Nat) : RxContext :=
  if pRxContext.irpPending then
    let pRxContext :=
      if pRxContext.submitted then { received pRxContext actualLength with readable := false }
      else pRxContext
    { pRxContext with irpPending := false, inUse := false }
  else pRxContext

/-- What `ResetBulkInHdlr` does while there is a pending transfer. -/
def cancel (r : Adapter) (actualLength : Nat → Nat) : Adapter :=
  if 0 < r.pendingRx.toNat then
    { r with
      rxContext := fun i => cancelContext (r.rxContext i) (actualLength i)
      pendingRx := 0 }
  else r

/-- `ResetBulkInHdlr` lets the next transfer continue behind the bytes there are. -/
def setPosition (r : Adapter) : Adapter :=
  { r with nextRxBulkInPosition := (r.rxContext r.nextRxBulkInIndex).bulkInOffset }

end Adapter

/-- A step of one of the functions. The flags of the adapter only decide which steps a function comes
to, so that all orders of steps are considered. -/
inductive BulkInEvent where
  | claim
  | submit (index : Fin rxRingSize) (clears takes : Bool)
  | complete (index : Fin rxRingSize) (failed : Bool) (actualLength : Nat)
  | beginHandling
  | endHandling
  | cancel (actualLength : Nat → Nat)
  | setPosition

/-- A context is submitted by the thread that claimed it, a URB that the USB core has completes, and
a thread ends to process what it began. -/
def bulkInStep (r : Adapter) : BulkInEvent → Adapter
  | .claim => r.claim
  | .submit index clears takes =>
      if index.val ∈ r.claimed then r.submit index clears takes else r
  | .complete index failed actualLength =>
      if (r.rxContext index).submitted then r.rxDoneTasklet index failed actualLength else r
  | .beginHandling => r.beginHandling
  | .endHandling =>
      if (r.rxContext r.nextRxBulkInReadIndex).bRxHandling then r.endHandling else r
  | .cancel actualLength => r.cancel actualLength
  | .setPosition => r.setPosition

namespace Adapter

/-- One transfer is pending at most, no context is in use and readable, the readable ones are those
between the two indices, and each is read with what its transfer brought. -/
structure Ordered (r : Adapter) : Prop where
  pendingRx : r.pendingRx.toNat ≤ 1
  onePending : ∀ i j, i < rxRingSize → j < rxRingSize → (r.rxContext i).submitted = true →
    (r.rxContext j).submitted = true → i = j
  exclusive : ∀ i, i < rxRingSize →
    ¬((r.rxContext i).inUse = true ∧ (r.rxContext i).readable = true)
  ring : ∃ num, num ≤ rxRingSize ∧
    r.nextRxBulkInIndex = (r.nextRxBulkInReadIndex + num) % rxRingSize ∧
    (∀ i, i < rxRingSize → ((r.rxContext i).readable = true ↔
      ∃ k, k < num ∧ i = (r.nextRxBulkInReadIndex + k) % rxRingSize)) ∧
    r.arrived = r.processed ++
      window rxRingSize r.nextRxBulkInReadIndex num fun i => (r.rxContext i).transfer
  received : ∀ i, i < rxRingSize → (r.rxContext i).readable = true →
    ∀ place, place < (r.rxContext i).bulkInOffset →
      (r.rxContext i).transferBuffer place = some (r.rxContext i).transfer

/-- A transfer that fails has brought nothing, the pending transfer is not cancelled between its claim
and its submission, and `ResetBulkInHdlr` does not run while the ring is full. -/
def Clean (r : Adapter) : BulkInEvent → Prop
  | .complete _ failed actualLength => failed = true → actualLength = 0
  | .cancel actualLength => r.claimed = [] ∧ ∀ i, i < rxRingSize →
      (r.rxContext i).submitted = true → actualLength i = 0
  | .setPosition => (r.rxContext r.nextRxBulkInIndex).readable = false
  | _ => True

end Adapter

end Mt7612u.Receive.BulkIn

/-! Runs of the steps of the bulk-in functions, with the invariant that clean steps keep. -/

namespace Mt7612u.Receive.BulkIn
open Library.Ring Library.Run

/-- How far the next transfer has come. -/
inductive Stage where
  | idle
  | claimed
  | flying
  deriving DecidableEq

namespace RxContext

/-- A context that can be read, with what its transfer brought. -/
structure Full (c : RxContext) : Prop where
  readable : c.readable = true
  inUse : c.inUse = false
  irpPending : c.irpPending = false
  submitted : c.submitted = false
  received : ∀ place, place < c.bulkInOffset → c.transferBuffer place = some c.transfer

/-- A context with nothing to read, in the stage of the next transfer. -/
structure Empty (c : RxContext) (stage : Stage) : Prop where
  readable : c.readable = false
  bRxHandling : c.bRxHandling = false
  bulkInOffset : c.bulkInOffset = 0
  inUse : c.inUse = decide (stage ≠ .idle)
  irpPending : c.irpPending = decide (stage ≠ .idle)
  submitted : c.submitted = decide (stage = .flying)
  start : stage = .flying → c.start = 0

end RxContext

namespace Adapter

/-- The `num` contexts from the read index on are full, and the others are empty; only the one at
the other index may be on its way. -/
structure Holds (r : Adapter) (num : Nat) (stage : Stage) : Prop where
  readIndex : r.nextRxBulkInReadIndex < rxRingSize
  room : num ≤ rxRingSize
  index : r.nextRxBulkInIndex = (r.nextRxBulkInReadIndex + num) % rxRingSize
  full : ∀ k, k < num → (r.rxContext ((r.nextRxBulkInReadIndex + k) % rxRingSize)).Full
  handling : ∀ k, 0 < k → k < num →
    (r.rxContext ((r.nextRxBulkInReadIndex + k) % rxRingSize)).bRxHandling = false
  empty : ∀ i, i < rxRingSize → (∀ k, k < num → (r.nextRxBulkInReadIndex + k) % rxRingSize ≠ i) →
    (r.rxContext i).Empty (if i = r.nextRxBulkInIndex then stage else .idle)
  busy : stage ≠ .idle → num < rxRingSize
  claimed : r.claimed = if stage = .claimed then [r.nextRxBulkInIndex] else []
  pendingRx : r.pendingRx = if stage = .idle then 0 else 1
  position : r.nextRxBulkInPosition = 0
  arrived : r.arrived = r.processed ++
    window rxRingSize r.nextRxBulkInReadIndex num fun i => (r.rxContext i).transfer

theorem nicInitRecv_holds : nicInitRecv.Holds 0 .idle where
  readIndex := (by decide : 0 < rxRingSize)
  room := Nat.zero_le _
  index := rfl
  full _ before := absurd before (Nat.not_lt_zero _)
  handling _ _ before := absurd before (Nat.not_lt_zero _)
  empty i _ _ := by
    rw [ite_self]
    exact ⟨rfl, rfl, rfl, rfl, rfl, rfl, Stage.noConfusion⟩
  busy other := absurd rfl other
  claimed := rfl
  pendingRx := rfl
  position := rfl
  arrived := rfl

variable {r : Adapter} {num : Nat} {stage : Stage}

/-- The next context is behind the full ones. -/
theorem Holds.behind (holds : r.Holds num stage) (room : num < rxRingSize) (k : Nat) (before : k < num) :
    (r.nextRxBulkInReadIndex + k) % rxRingSize ≠ r.nextRxBulkInIndex := by
  intro same
  rw [holds.index] at same
  have := mod_inj (by omega) room same
  omega

theorem Holds.indexLt (holds : r.Holds num stage) : r.nextRxBulkInIndex < rxRingSize := by
  rw [holds.index]
  exact Nat.mod_lt _ (by decide)

/-- The context of the next transfer. -/
theorem Holds.next (holds : r.Holds num stage) (room : num < rxRingSize) :
    (r.rxContext r.nextRxBulkInIndex).Empty stage := by
  have empty := holds.empty _ holds.indexLt (holds.behind room)
  rwa [if_pos rfl] at empty

/-- With a full ring the next context is the one that is read. -/
theorem Holds.wrapped (holds : r.Holds num stage) (full : ¬num < rxRingSize) :
    r.nextRxBulkInIndex = r.nextRxBulkInReadIndex ∧
      (r.rxContext r.nextRxBulkInIndex).Full ∧ stage = .idle := by
  have whole : num = rxRingSize := le_antisymm holds.room (not_lt.mp full)
  have index : r.nextRxBulkInIndex = r.nextRxBulkInReadIndex := by
    rw [holds.index, whole, Nat.add_mod_right, Nat.mod_eq_of_lt holds.readIndex]
  have first := holds.full 0 (by rw [whole]; decide)
  rw [Nat.add_zero, Nat.mod_eq_of_lt holds.readIndex] at first
  refine ⟨index, index ▸ first, ?_⟩
  by_contra other
  exact full (holds.busy other)

/-- The next transfer comes into another stage. -/
theorem Holds.restage (holds : r.Holds num stage) (room : num < rxRingSize) {after : Adapter}
    {stage' : Stage} {c : RxContext} (c_empty : c.Empty stage')
    (context : ∀ i, i < rxRingSize →
      after.rxContext i = Function.update r.rxContext r.nextRxBulkInIndex c i)
    (readIndex : after.nextRxBulkInReadIndex = r.nextRxBulkInReadIndex)
    (index : after.nextRxBulkInIndex = r.nextRxBulkInIndex)
    (claimed : after.claimed = if stage' = .claimed then [r.nextRxBulkInIndex] else [])
    (pendingRx : after.pendingRx = if stage' = .idle then 0 else 1)
    (position : after.nextRxBulkInPosition = 0)
    (arrived : after.arrived = r.arrived) (processed : after.processed = r.processed) :
    after.Holds num stage' := by
  have kept : ∀ k, k < num → after.rxContext ((r.nextRxBulkInReadIndex + k) % rxRingSize) =
      r.rxContext ((r.nextRxBulkInReadIndex + k) % rxRingSize) := by
    intro k before
    rw [context _ (Nat.mod_lt _ (by decide))]
    exact Function.update_of_ne (holds.behind room k before) ..
  constructor
  · rw [readIndex]
    exact holds.readIndex
  · exact holds.room
  · rw [index, readIndex]
    exact holds.index
  · intro k before
    rw [readIndex, kept k before]
    exact holds.full k before
  · intro k later before
    rw [readIndex, kept k before]
    exact holds.handling k later before
  · intro i small outside
    rw [readIndex] at outside
    rw [index, context i small]
    by_cases mine : i = r.nextRxBulkInIndex
    · subst mine
      rw [Function.update_self, if_pos rfl]
      exact c_empty
    · rw [Function.update_of_ne mine, if_neg mine]
      have empty := holds.empty i small outside
      rwa [if_neg mine] at empty
  · exact fun _ => room
  · rw [index]
    exact claimed
  · exact pendingRx
  · exact position
  · rw [arrived, processed, holds.arrived, readIndex]
    congr 1
    apply (window_congr _).symm
    intro k before
    exact congrArg RxContext.transfer (kept k before)

/-- Only the next context is ever claimed. -/
theorem Holds.ofClaimed (holds : r.Holds num stage) {index : Nat} (member : index ∈ r.claimed) :
    stage = .claimed ∧ index = r.nextRxBulkInIndex := by
  rw [holds.claimed] at member
  split_ifs at member with claims
  · exact ⟨claims, List.mem_singleton.mp member⟩
  · exact absurd member List.not_mem_nil

/-- A context is full or it is empty, and only the next one may be on its way. -/
theorem Holds.cases (holds : r.Holds num stage) {i : Nat} (small : i < rxRingSize) :
    (∃ k, k < num ∧ i = (r.nextRxBulkInReadIndex + k) % rxRingSize ∧ (r.rxContext i).Full) ∨
      (r.rxContext i).Empty (if i = r.nextRxBulkInIndex then stage else .idle) := by
  by_cases outside : ∀ k, k < num → (r.nextRxBulkInReadIndex + k) % rxRingSize ≠ i
  · exact Or.inr (holds.empty i small outside)
  · push Not at outside
    obtain ⟨k, before, rfl⟩ := outside
    exact Or.inl ⟨k, before, rfl, holds.full k before⟩

/-- Only the next context is ever with the USB core. -/
theorem Holds.ofSubmitted (holds : r.Holds num stage) {i : Nat} (small : i < rxRingSize)
    (urb : (r.rxContext i).submitted = true) : stage = .flying ∧ i = r.nextRxBulkInIndex := by
  rcases holds.cases small with ⟨k, before, -, full⟩ | empty
  · exact absurd (full.submitted.symm.trans urb) Bool.false_ne_true
  · have state := of_decide_eq_true (empty.submitted.symm.trans urb)
    split_ifs at state with mine
    · exact ⟨state, mine⟩

theorem Holds.claim (holds : r.Holds num stage) : ∃ stage', r.claim.Holds num stage' := by
  unfold Adapter.claim
  dsimp only
  by_cases gate : 0 < r.pendingRx.toNat ∨ (r.rxContext r.nextRxBulkInIndex).readable = true ∨
      (r.rxContext r.nextRxBulkInIndex).inUse = true
  · rw [if_pos gate]
    exact ⟨stage, holds⟩
  · rw [if_neg gate]
    obtain ⟨quiet, unread, -⟩ : _ ∧ _ ∧ _ := by simpa only [not_or] using gate
    have room : num < rxRingSize := by
      by_contra full
      exact unread (holds.wrapped full).2.1.readable
    have rests : stage = .idle := by
      by_contra other
      rw [holds.pendingRx, if_neg other] at quiet
      exact quiet (by decide)
    subst rests
    have next := holds.next room
    have none := holds.pendingRx
    have unclaimed := holds.claimed
    rw [if_pos rfl] at none
    rw [if_neg (by decide)] at unclaimed
    refine ⟨.claimed, holds.restage room (c := { r.rxContext r.nextRxBulkInIndex with
      inUse := true, irpPending := true }) ?_ (fun _ _ => rfl) rfl rfl ?_ ?_
      holds.position rfl rfl⟩
    · exact ⟨next.readable, next.bRxHandling, next.bulkInOffset, rfl, rfl, next.submitted,
        Stage.noConfusion⟩
    · rw [if_pos rfl, unclaimed]
    · rw [if_neg (by decide), none]
      rfl

theorem Holds.submit (holds : r.Holds num .claimed) (clears takes : Bool) :
    ∃ stage', (r.submit r.nextRxBulkInIndex clears takes).Holds num stage' := by
  have room := holds.busy (by decide)
  have next := holds.next room
  have pending := holds.pendingRx
  have claimed := holds.claimed
  rw [if_neg (by decide)] at pending
  rw [if_pos rfl] at claimed
  have erased : r.claimed.erase r.nextRxBulkInIndex = [] := by
    rw [claimed, List.erase_cons_head]
  unfold Adapter.submit
  dsimp only
  split_ifs
  · refine ⟨.flying, holds.restage room (c := _) ?_ (fun _ _ => rfl) rfl rfl erased ?_
      holds.position rfl rfl⟩
    · exact ⟨next.readable, next.bRxHandling, next.bulkInOffset, next.inUse, next.irpPending, rfl,
        fun _ => holds.position⟩
    · exact pending
  · refine ⟨.idle, holds.restage room (c := _) ?_ (fun _ _ => rfl) rfl rfl erased ?_
      holds.position rfl rfl⟩
    · exact ⟨next.readable, next.bRxHandling, next.bulkInOffset, rfl, rfl, next.submitted,
        Stage.noConfusion⟩
    · rw [if_pos rfl]
      change r.pendingRx - 1 = 0
      rw [pending]
      rfl

/-- A transfer that brought nothing leaves its context as it was before. -/
theorem Holds.fruitless (holds : r.Holds num .flying) {after : Adapter}
    (context : ∀ i, i < rxRingSize → after.rxContext i =
      Function.update r.rxContext r.nextRxBulkInIndex
        { received (r.rxContext r.nextRxBulkInIndex) 0 with readable := false } i)
    (readIndex : after.nextRxBulkInReadIndex = r.nextRxBulkInReadIndex)
    (index : after.nextRxBulkInIndex = r.nextRxBulkInIndex) (claimed : after.claimed = [])
    (pendingRx : after.pendingRx = 0) (position : after.nextRxBulkInPosition = 0)
    (arrived : after.arrived = r.arrived) (processed : after.processed = r.processed) :
    after.Holds num .idle := by
  have room := holds.busy (by decide)
  have next := holds.next room
  refine holds.restage room ?_ context readIndex index claimed pendingRx position arrived processed
  exact ⟨rfl, next.bRxHandling, next.bulkInOffset, rfl, rfl, rfl, Stage.noConfusion⟩

/-- A write to a context that leaves the number of its transfer leaves all of them. -/
theorem window_transfers (contexts : Nat → RxContext) (index : Nat) (c : RxContext)
    (same : c.transfer = (contexts index).transfer) (head num : Nat) :
    (window rxRingSize head num fun i => (Function.update contexts index c i).transfer) =
      window rxRingSize head num fun i => (contexts i).transfer := by
  have moved := Function.comp_update RxContext.transfer contexts index c
  rw [same] at moved
  exact congrArg (window rxRingSize head num)
    (moved.trans (Function.update_eq_self index fun i => (contexts i).transfer))

/-- A transfer that brought bytes makes its context the last one that is full. -/
theorem Holds.fruitful (holds : r.Holds num .flying) {actualLength : Nat} (some : actualLength ≠ 0) :
    (r.rxDoneTasklet r.nextRxBulkInIndex false actualLength).Holds (num + 1) .idle := by
  have room := holds.busy (by decide)
  have next := holds.next room
  have pending := holds.pendingRx
  have claimed := holds.claimed
  have index := holds.index
  rw [if_neg (by decide)] at pending claimed
  have offset : (received (r.rxContext r.nextRxBulkInIndex) actualLength).bulkInOffset =
      actualLength := by
    rw [received, next.bulkInOffset, Nat.zero_add]
  have filled : (received (r.rxContext r.nextRxBulkInIndex) actualLength).bulkInOffset ≠ 0 := by
    rw [offset]
    exact some
  unfold rxDoneTasklet
  dsimp only
  rw [if_neg (by decide), if_pos filled]
  have full : RxContext.Full { received (r.rxContext r.nextRxBulkInIndex) actualLength with
      readable := true } := by
    refine ⟨rfl, rfl, rfl, rfl, ?_⟩
    intro place before
    have inside : place < actualLength := offset ▸ before
    simp only [received, next.start rfl, Nat.zero_le, Nat.zero_add, inside, and_self, ↓reduceIte]
  constructor
  · exact holds.readIndex
  · exact room
  · simp only [setContext, index, Nat.mod_add_mod]
    rfl
  · intro k before
    simp only [setContext]
    by_cases last : k = num
    · rw [last, ← index, Function.update_self]
      exact full
    · rw [Function.update_of_ne (holds.behind room k (by omega))]
      exact holds.full k (by omega)
  · intro k later before
    simp only [setContext]
    by_cases last : k = num
    · rw [last, ← index, Function.update_self]
      exact next.bRxHandling
    · rw [Function.update_of_ne (holds.behind room k (by omega))]
      exact holds.handling k later (by omega)
  · intro i small outside
    have other : i ≠ r.nextRxBulkInIndex := by
      rw [index]
      exact (outside num (Nat.lt_succ_self num)).symm
    have empty := holds.empty i small fun k before => outside k (by omega)
    rw [if_neg other] at empty
    rw [ite_self]
    simp only [setContext, Function.update_of_ne other]
    exact empty
  · exact fun other => absurd rfl other
  · exact claimed
  · simp only [setContext, pending]
    decide
  · rfl
  · have pushed : window rxRingSize r.nextRxBulkInReadIndex (num + 1)
        (Function.update (fun i => (r.rxContext i).transfer)
          ((r.nextRxBulkInReadIndex + num) % rxRingSize)
          (r.rxContext r.nextRxBulkInIndex).transfer) =
        window rxRingSize r.nextRxBulkInReadIndex num (fun i => (r.rxContext i).transfer) ++
          [(r.rxContext r.nextRxBulkInIndex).transfer] := window_push room _
    have moved : (fun i => (Function.update r.rxContext r.nextRxBulkInIndex
          { received (r.rxContext r.nextRxBulkInIndex) actualLength with readable := true }
          i).transfer) =
        Function.update (fun i => (r.rxContext i).transfer) r.nextRxBulkInIndex
          (r.rxContext r.nextRxBulkInIndex).transfer :=
      Function.comp_update RxContext.transfer r.rxContext _ _
    rw [← index] at pushed
    simp only [setContext, holds.arrived, List.append_assoc]
    rw [moved, pushed]
    rfl

theorem Holds.complete (holds : r.Holds num .flying) (failed : Bool) (actualLength : Nat)
    (clean : failed = true → actualLength = 0) :
    ∃ num' stage', (r.rxDoneTasklet r.nextRxBulkInIndex failed actualLength).Holds num' stage' := by
  by_cases some : actualLength = 0
  · subst some
    have next := holds.next (holds.busy (by decide))
    have pending := holds.pendingRx
    have claimed := holds.claimed
    rw [if_neg (by decide)] at pending claimed
    have offset : (received (r.rxContext r.nextRxBulkInIndex) 0).bulkInOffset = 0 := by
      rw [received, next.bulkInOffset]
    have unread : received (r.rxContext r.nextRxBulkInIndex) 0 =
        { received (r.rxContext r.nextRxBulkInIndex) 0 with readable := false } := by
      simp only [received, next.readable]
    have fewer : (if 0 < r.pendingRx.toNat then r.pendingRx - 1 else r.pendingRx) = 0 := by
      rw [pending]
      decide
    refine ⟨num, .idle, ?_⟩
    unfold rxDoneTasklet
    dsimp only
    cases failed with
    | true =>
      exact holds.fruitless (fun _ _ => rfl) rfl rfl claimed fewer holds.position rfl rfl
    | false =>
      rw [if_neg (by decide), offset, if_neg (by decide)]
      refine holds.fruitless (fun i _ => ?_) rfl rfl claimed fewer rfl rfl rfl
      exact congrArg (fun c => Function.update r.rxContext r.nextRxBulkInIndex c i) unread
  · cases failed with
    | true => exact absurd (clean rfl) some
    | false => exact ⟨num + 1, .idle, holds.fruitful some⟩

/-- The read index is at a full context, if there is one. -/
theorem Holds.first (holds : r.Holds num stage) (some : 0 < num) :
    (r.rxContext r.nextRxBulkInReadIndex).Full := by
  have first := holds.full 0 some
  rwa [Nat.add_zero, Nat.mod_eq_of_lt holds.readIndex] at first

/-- Without a full context both indices are the same. -/
theorem Holds.none (holds : r.Holds 0 stage) :
    (r.rxContext r.nextRxBulkInReadIndex).Empty stage := by
  have index := holds.index
  rw [Nat.add_zero, Nat.mod_eq_of_lt holds.readIndex] at index
  rw [← index]
  exact holds.next (by decide)

/-- The later full contexts are not the first one. -/
theorem Holds.later (holds : r.Holds num stage) {k : Nat} (before : k + 1 < num) :
    (r.nextRxBulkInReadIndex + (k + 1)) % rxRingSize ≠ r.nextRxBulkInReadIndex := by
  have room := holds.room
  rw [Nat.add_comm k 1, ← Nat.add_assoc]
  exact window_outside holds.readIndex (by omega)

theorem Holds.beginHandling (holds : r.Holds num stage) : r.beginHandling.Holds num stage := by
  unfold Adapter.beginHandling
  dsimp only
  split_ifs with readable
  · obtain _ | num := num
    · exact absurd (holds.none.readable.symm.trans readable.2.1) Bool.false_ne_true
    · have first := holds.first (Nat.succ_pos num)
      constructor
      · exact holds.readIndex
      · exact holds.room
      · exact holds.index
      · intro k before
        simp only [setContext]
        cases k with
        | zero =>
          rw [Nat.add_zero, Nat.mod_eq_of_lt holds.readIndex, Function.update_self]
          exact { first with }
        | succ k =>
          rw [Function.update_of_ne (holds.later before)]
          exact holds.full _ before
      · intro k later before
        obtain ⟨k, rfl⟩ := Nat.exists_eq_succ_of_ne_zero later.ne'
        simp only [setContext]
        rw [Function.update_of_ne (holds.later before)]
        exact holds.handling _ later before
      · intro i small outside
        have other : i ≠ r.nextRxBulkInReadIndex := by
          have first := outside 0 (Nat.succ_pos num)
          simp only [setContext, Nat.add_zero] at first
          rw [Nat.mod_eq_of_lt holds.readIndex] at first
          exact first.symm
        simp only [setContext, Function.update_of_ne other]
        exact holds.empty i small outside
      · exact holds.busy
      · exact holds.claimed
      · exact holds.pendingRx
      · exact holds.position
      · refine holds.arrived.trans (congrArg (r.processed ++ ·) ?_)
        exact (window_transfers r.rxContext r.nextRxBulkInReadIndex
          { r.rxContext r.nextRxBulkInReadIndex with bRxHandling := true } rfl _ _).symm
  · exact holds

theorem Holds.endHandling (holds : r.Holds num stage)
    (handled : (r.rxContext r.nextRxBulkInReadIndex).bRxHandling = true) :
    ∃ num', r.endHandling.Holds num' stage := by
  obtain _ | num := num
  · exact absurd (holds.none.bRxHandling.symm.trans handled) Bool.false_ne_true
  · have first := holds.first (Nat.succ_pos num)
    have room := holds.room
    have place : ∀ k, ((r.nextRxBulkInReadIndex + 1) % rxRingSize + k) % rxRingSize =
        (r.nextRxBulkInReadIndex + (k + 1)) % rxRingSize := by
      intro k
      rw [Nat.mod_add_mod]
      congr 1
      omega
    refine ⟨num, ?_⟩
    constructor
    · exact Nat.mod_lt _ (by decide)
    · omega
    · simp only [Adapter.endHandling, setContext]
      rw [place]
      exact holds.index
    · intro k before
      simp only [Adapter.endHandling, setContext]
      rw [place, Function.update_of_ne (holds.later (by omega))]
      exact holds.full _ (by omega)
    · intro k later before
      simp only [Adapter.endHandling, setContext]
      rw [place, Function.update_of_ne (holds.later (by omega))]
      exact holds.handling _ (by omega) (by omega)
    · intro i small outside
      simp only [Adapter.endHandling, setContext] at outside ⊢
      by_cases mine : i = r.nextRxBulkInReadIndex
      · subst mine
        rw [Function.update_self]
        have rests : (if r.nextRxBulkInReadIndex = r.nextRxBulkInIndex then stage else .idle) =
            Stage.idle := by
          split_ifs with same
          · by_contra other
            have below := holds.busy other
            exact holds.behind below 0 (Nat.succ_pos num) (by
              rw [Nat.add_zero, Nat.mod_eq_of_lt holds.readIndex, same])
          · rfl
        change RxContext.Empty _
          (if r.nextRxBulkInReadIndex = r.nextRxBulkInIndex then stage else .idle)
        rw [rests]
        exact ⟨rfl, rfl, rfl, first.inUse, first.irpPending, first.submitted, Stage.noConfusion⟩
      · rw [Function.update_of_ne mine]
        apply holds.empty i small
        intro k before
        cases k with
        | zero =>
          rw [Nat.add_zero, Nat.mod_eq_of_lt holds.readIndex]
          exact Ne.symm mine
        | succ k =>
          rw [← place]
          exact outside k (by omega)
    · intro other
      have := holds.busy other
      omega
    · exact holds.claimed
    · exact holds.pendingRx
    · exact holds.position
    · simp only [Adapter.endHandling, setContext]
      rw [window_transfers r.rxContext r.nextRxBulkInReadIndex
        { r.rxContext r.nextRxBulkInReadIndex with
          bulkInOffset := 0, readable := false, bRxHandling := false } rfl, holds.arrived, window_pop,
        Nat.mod_eq_of_lt holds.readIndex, List.append_assoc]
      rfl

theorem Holds.cancel (holds : r.Holds num stage) (actualLength : Nat → Nat)
    (clean : r.Clean (.cancel actualLength)) : ∃ stage', (r.cancel actualLength).Holds num stage' := by
  unfold Adapter.cancel
  split_ifs with pending
  · have flies : stage = .flying := by
      cases stage with
      | idle =>
        rw [holds.pendingRx] at pending
        exact absurd pending (by decide)
      | claimed =>
        have claims := holds.claimed
        rw [clean.1] at claims
        cases claims
      | flying => rfl
    subst flies
    have next := holds.next (holds.busy (by decide))
    refine ⟨.idle, holds.fruitless ?_ rfl rfl holds.claimed rfl holds.position rfl rfl⟩
    intro i small
    by_cases mine : i = r.nextRxBulkInIndex
    · subst mine
      have urb : (r.rxContext r.nextRxBulkInIndex).submitted = true := next.submitted
      have irp : (r.rxContext r.nextRxBulkInIndex).irpPending = true := next.irpPending
      rw [Function.update_self]
      unfold cancelContext
      dsimp only
      rw [if_pos irp, if_pos urb, clean.2 _ small urb]
      rfl
    · rw [Function.update_of_ne mine]
      have quiet : (r.rxContext i).irpPending = false := by
        rcases holds.cases small with ⟨_, -, -, full⟩ | empty
        · exact full.irpPending
        · rw [if_neg mine] at empty
          exact empty.irpPending
      exact if_neg (quiet ▸ Bool.false_ne_true)
  · exact ⟨stage, holds⟩

theorem Holds.setPosition (holds : r.Holds num stage)
    (clean : (r.rxContext r.nextRxBulkInIndex).readable = false) :
    r.setPosition.Holds num stage := by
  have room : num < rxRingSize := by
    by_contra full
    exact Bool.false_ne_true (clean.symm.trans (holds.wrapped full).2.1.readable)
  exact { holds with position := (holds.next room).bulkInOffset }

/-- The contexts are in one of the states between clean steps. -/
def Sound (r : Adapter) : Prop := ∃ num stage, r.Holds num stage

theorem bulkInStep_sound (r : Adapter) (event : BulkInEvent) (sound : r.Sound)
    (clean : r.Clean event) : (bulkInStep r event).Sound := by
  obtain ⟨num, stage, holds⟩ := sound
  cases event with
  | claim =>
    obtain ⟨stage', after⟩ := holds.claim
    exact ⟨num, stage', after⟩
  | submit index clears takes =>
    rw [bulkInStep]
    split_ifs with member
    · obtain ⟨rfl, next⟩ := holds.ofClaimed member
      obtain ⟨stage', after⟩ := holds.submit clears takes
      rw [next]
      exact ⟨num, stage', after⟩
    · exact ⟨num, stage, holds⟩
  | complete index failed actualLength =>
    rw [bulkInStep]
    split_ifs with urb
    · obtain ⟨rfl, next⟩ := holds.ofSubmitted index.isLt urb
      rw [next]
      exact holds.complete failed actualLength clean
    · exact ⟨num, stage, holds⟩
  | beginHandling => exact ⟨num, stage, holds.beginHandling⟩
  | endHandling =>
    rw [bulkInStep]
    split_ifs with handled
    · obtain ⟨num', after⟩ := holds.endHandling handled
      exact ⟨num', stage, after⟩
    · exact ⟨num, stage, holds⟩
  | cancel actualLength =>
    obtain ⟨stage', after⟩ := holds.cancel actualLength clean
    exact ⟨num, stage', after⟩
  | setPosition => exact ⟨num, stage, holds.setPosition clean⟩

theorem Holds.ordered (holds : r.Holds num stage) : r.Ordered where
  pendingRx := by
    rw [holds.pendingRx]
    split_ifs <;> decide
  onePending := by
    intro i j first second one other
    rw [(holds.ofSubmitted first one).2, (holds.ofSubmitted second other).2]
  exclusive := by
    rintro i small ⟨used, readable⟩
    rcases holds.cases small with ⟨_, -, -, full⟩ | empty
    · exact Bool.false_ne_true (full.inUse.symm.trans used)
    · exact Bool.false_ne_true (empty.readable.symm.trans readable)
  ring := by
    refine ⟨num, holds.room, holds.index, ?_, holds.arrived⟩
    intro i small
    constructor
    · intro readable
      rcases holds.cases small with ⟨k, before, place, -⟩ | empty
      · exact ⟨k, before, place⟩
      · exact absurd (empty.readable.symm.trans readable) Bool.false_ne_true
    · rintro ⟨k, before, rfl⟩
      exact (holds.full k before).readable
  received := by
    intro i small readable
    rcases holds.cases small with ⟨_, -, -, full⟩ | empty
    · exact full.received
    · exact absurd (empty.readable.symm.trans readable) Bool.false_ne_true

end Adapter

/-- A transfer that is received and processed, and another one behind it that brings nothing. -/
def twoTransfers : List BulkInEvent :=
  [.claim, .submit ⟨0, by decide⟩ true true, .complete ⟨0, by decide⟩ false 12, .beginHandling,
    .claim, .endHandling, .submit ⟨1, by decide⟩ true true, .complete ⟨1, by decide⟩ true 0]

/-- A transfer fails behind 8 bytes, and the next one into the same buffer brings 4. -/
def failedTransfer : List BulkInEvent :=
  [.claim, .submit ⟨0, by decide⟩ true true, .complete ⟨0, by decide⟩ true 8,
    .claim, .submit ⟨0, by decide⟩ true true, .complete ⟨0, by decide⟩ false 4]

end Mt7612u.Receive.BulkIn
