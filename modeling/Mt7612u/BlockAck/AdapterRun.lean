import Mt7612u.BlockAck.Originator
import Mt7612u.BlockAck.Recipient

/-! Runs of the whole adapter: frames, BARs, timers and the set-up and teardown of sessions,
for any stations and in any order, with the invariant that every event keeps. -/

namespace Mt7612u.BlockAck
open Receive
open Library.Run

/-- An event, with what it reads besides the adapter. The timers name their entry; `elem`
says whether memory could be had for a DELBA message. -/
inductive AdapterEvent where
  /-- `Indicate_AMPDU_Packet` -/
  | frame (env : Env) (pRxBlk : RxBlk) (now32 legacyNow32 : BitVec 64)
  | bar (halted : Bool) (wcid msgLen : Nat) (tid : BitVec 4) (startSeq : BitVec 12)
  | flushTimeout (idx : BaIdx) (env : Env) (now32 : BitVec 64)
  | idleTimeout (idx : BaIdx) (now32 : BitVec 64)
  | recSessionAdd (pEntry : Wcid) (pFrame : AddbaReq)
  | recSessionTearDown (wcid : BitVec 8) (tid : Tid) (bPassive elem : Bool)
  | oriSessionSetUp (pEntry : Wcid) (tid : Tid) (isForced fixedTxModeHT : Bool)
  | oriSessionAdd (pEntry : Wcid) (tid : Tid)
  | oriSessionSetupTimeout (idx : BaIdx) (monitor scanning : Bool)
  | oriSessionTearDown (wcid : BitVec 8) (tid : Tid) (bPassive elem : Bool)
  | sessionTearDownALL (wcid : BitVec 8) (elem : Tid → Bool × Bool)
  /-- `ba_reordering_resource_release`, with which the driver ends -/
  | resourceRelease

def adapterStep (pAd : RtmpAdapter) : AdapterEvent → RtmpAdapter
  | .frame env pRxBlk now32 legacyNow32 => indicateAMPDU env pAd pRxBlk now32 legacyNow32
  | .bar halted wcid msgLen tid startSeq =>
      (cntlEnqueueForRecv pAd halted wcid msgLen tid startSeq).2
  | .flushTimeout idx env now32 =>
      pAd.onSession idx fun s => baFlushReorderingTimeoutMpdus env s now32
  | .idleTimeout idx now32 => pAd.onSession idx fun s => baRecSessionIdleTimeout s now32
  | .recSessionAdd pEntry pFrame => (baRecSessionAdd pAd pEntry pFrame).2
  | .recSessionTearDown wcid tid bPassive elem => baRecSessionTearDown pAd wcid tid bPassive elem
  | .oriSessionSetUp pEntry tid isForced fixedTxModeHT =>
      baOriSessionSetUp pAd pEntry tid isForced fixedTxModeHT
  | .oriSessionAdd pEntry tid => baOriSessionAdd pAd pEntry tid
  | .oriSessionSetupTimeout idx monitor scanning =>
      baOriSessionSetupTimeout pAd idx monitor scanning
  | .oriSessionTearDown wcid tid bPassive elem => baOriSessionTearDown pAd wcid tid bPassive elem
  | .sessionTearDownALL wcid elem => baSessionTearDownALL pAd wcid elem
  | .resourceRelease => baReorderingResourceRelease pAd

/-- The packet the event hands to `Indicate_AMPDU_Packet`. -/
def AdapterEvent.handed : AdapterEvent → Multiset Packet
  | .frame _ pRxBlk _ _ => {pRxBlk.pRxPacket}
  | _ => 0

structure AdapterInvariant (pAd : RtmpAdapter) : Prop where
  recipient : RecInvariant pAd
  originator : OriInvariant pAd

/-- An event keeps the invariant and takes in the packets `handed`, no more and no fewer. -/
structure Kept (pAd pAd' : RtmpAdapter) (handed : Multiset Packet) : Prop where
  invariant : AdapterInvariant pAd'
  packets : pAd'.packets = pAd.packets + handed

theorem Kept.trans {pAd pAd' pAd'' : RtmpAdapter} {handed handed' : Multiset Packet}
    (first : Kept pAd pAd' handed) (second : Kept pAd' pAd'' handed') :
    Kept pAd pAd'' (handed + handed') where
  invariant := second.invariant
  packets := by rw [second.packets, first.packets, add_assoc]

theorem Receives.kept {pAd pAd' : RtmpAdapter} {handed : Multiset Packet}
    (received : Receives pAd pAd' handed) (invariant : AdapterInvariant pAd) :
    Kept pAd pAd' handed :=
  ⟨⟨received.invariant, invariant.originator.same received.transmit⟩, received.packets⟩

/-- What only the transmit side sees keeps the receive side as it is. -/
theorem SameReceive.kept {pAd pAd' : RtmpAdapter} (same : SameReceive pAd pAd')
    (invariant : AdapterInvariant pAd) (ori : OriInvariant pAd') : Kept pAd pAd' 0 :=
  ⟨⟨invariant.recipient.same same, ori⟩, (same.lists.books invariant.recipient.counted).packets⟩

section
variable {pAd : RtmpAdapter} (invariant : AdapterInvariant pAd)
include invariant

theorem indicateAMPDU_kept (env : Env) (pRxBlk : RxBlk) (now32 legacyNow32 : BitVec 64) :
    Kept pAd (indicateAMPDU env pAd pRxBlk now32 legacyNow32) {pRxBlk.pRxPacket} := by
  apply Receives.kept _ invariant
  unfold indicateAMPDU
  generalize slot : recIdx pAd pRxBlk.wcid.toNat pRxBlk.tid = idx
  have counted := invariant.recipient.counted.session idx
  by_cases unordered : idx = 0
  · subst unordered
    exact invariant.recipient.settles 0 _ (settles_unordered counted env pRxBlk now32 legacyNow32 rfl)
  · obtain ⟨leaked, work⟩ := indicateAMPDUPacket_ledger counted env pRxBlk now32 legacyNow32
    apply invariant.recipient.traffic idx _ work
    intro free
    -- an entry the station knows is accepted
    unfold recIdx at slot
    split_ifs at slot with known
    · have found : (recTable pAd).slotOf (⟨pRxBlk.wcid.toNat, known⟩, pRxBlk.tid) ≠ 0 := by
        rw [← slot] at unordered
        exact unordered
      have accepted := invariant.recipient.accepted found
      rw [← slot] at free
      exact absurd accepted free
    · exact absurd slot.symm unordered

theorem cntlEnqueueForRecv_kept (halted : Bool) (wcid msgLen : Nat) (tid : BitVec 4)
    (startSeq : BitVec 12) :
    Kept pAd (cntlEnqueueForRecv pAd halted wcid msgLen tid startSeq).2 0 := by
  apply Receives.kept _ invariant
  unfold cntlEnqueueForRecv
  dsimp only
  split_ifs
  · exact .refl invariant.recipient
  · exact .refl invariant.recipient
  · exact invariant.recipient.settles _ _ (settles_bar (invariant.recipient.counted.session _) startSeq)
  · exact .refl invariant.recipient

theorem baOriSessionTearDown_kept (wcid : BitVec 8) (tid : Tid) (bPassive elem : Bool) :
    Kept pAd (baOriSessionTearDown pAd wcid tid bPassive elem) 0 :=
  (sameReceive_oriSessionTearDown pAd wcid tid bPassive elem).kept invariant
    (invariant.originator.oriSessionTearDown wcid tid bPassive elem)

theorem baRecSessionTearDown_kept (wcid : BitVec 8) (tid : Tid) (bPassive elem : Bool) :
    Kept pAd (baRecSessionTearDown pAd wcid tid bPassive elem) 0 :=
  (invariant.recipient.recSessionTearDown wcid tid bPassive elem).kept invariant

theorem baSessionTearDownALL_kept (wcid : BitVec 8) (elem : Tid → Bool × Bool) :
    Kept pAd (baSessionTearDownALL pAd wcid elem) 0 := by
  unfold baSessionTearDownALL
  generalize List.finRange numOfTid = tids
  induction tids generalizing pAd with
  | nil => exact ⟨invariant, (add_zero _).symm⟩
  | cons tid rest ih =>
    have ori := baOriSessionTearDown_kept invariant wcid tid false (elem tid).1
    have received := baRecSessionTearDown_kept ori.invariant wcid tid false (elem tid).2
    simpa using (ori.trans received).trans (ih received.invariant)

theorem adapterStep_kept (event : AdapterEvent) :
    Kept pAd (adapterStep pAd event) event.handed := by
  cases event with
  | frame env pRxBlk now32 legacyNow32 =>
    exact indicateAMPDU_kept invariant env pRxBlk now32 legacyNow32
  | bar halted wcid msgLen tid startSeq =>
    exact cntlEnqueueForRecv_kept invariant halted wcid msgLen tid startSeq
  | flushTimeout idx env now32 =>
    apply Receives.kept _ invariant
    exact invariant.recipient.settles idx (fun s => baFlushReorderingTimeoutMpdus env s now32)
      (settles_flush (invariant.recipient.counted.session idx) env now32)
  | idleTimeout idx now32 =>
    apply Receives.kept _ invariant
    exact invariant.recipient.settles idx (fun s => baRecSessionIdleTimeout s now32)
      (settles_idleTimeout (invariant.recipient.counted.session idx) now32)
  | recSessionAdd pEntry pFrame =>
    exact (invariant.recipient.recSessionAdd pEntry pFrame).kept invariant
  | recSessionTearDown wcid tid bPassive elem =>
    exact baRecSessionTearDown_kept invariant wcid tid bPassive elem
  | oriSessionSetUp pEntry tid isForced fixedTxModeHT =>
    exact (sameReceive_oriSessionSetUp invariant.originator pEntry tid isForced fixedTxModeHT).kept
      invariant (invariant.originator.oriSessionSetUp pEntry tid isForced fixedTxModeHT)
  | oriSessionAdd pEntry tid =>
    exact (sameReceive_oriSessionAdd pAd pEntry tid).kept invariant
      (invariant.originator.oriSessionAdd pEntry tid)
  | oriSessionSetupTimeout idx monitor scanning =>
    exact (sameReceive_oriSessionSetupTimeout pAd idx monitor scanning).kept invariant
      (invariant.originator.oriSessionSetupTimeout idx monitor scanning)
  | oriSessionTearDown wcid tid bPassive elem =>
    exact baOriSessionTearDown_kept invariant wcid tid bPassive elem
  | sessionTearDownALL wcid elem => exact baSessionTearDownALL_kept invariant wcid elem
  | resourceRelease => exact invariant.recipient.resourceRelease.1.kept invariant

theorem run_kept (events : List AdapterEvent) :
    Kept pAd (run adapterStep pAd events) (events.map AdapterEvent.handed).sum := by
  induction events generalizing pAd with
  | nil => exact ⟨invariant, (add_zero _).symm⟩
  | cons event rest ih =>
    have step := adapterStep_kept invariant event
    simpa using step.trans (ih step.invariant)

end

theorem tally_vacant {Stage : Type*} {stage : BaIdx → Stage} {counts : Stage → Bool}
    (vacant : ∀ idx, counts (stage idx) = false) : Library.Directory.tally stage counts = 0 := by
  apply Finset.sum_eq_zero
  intro idx _
  rw [vacant idx]
  rfl

/-- The driver starts with consistent tables. -/
theorem RtmpAdapter.Blank.invariant {pAd : RtmpAdapter} (blank : pAd.Blank) (num : Nat)
    (mem : Bool) : AdapterInvariant (baReorderingResourceInit pAd num mem).2 := by
  have recTable : recTable (baReorderingResourceInit pAd num mem).2 = recTable pAd := by
    cases mem <;> rfl
  have oriTable : oriTable (baReorderingResourceInit pAd num mem).2 = oriTable pAd := by
    cases mem <;> rfl
  have recEntries : (baReorderingResourceInit pAd num mem).2.baRecEntry = pAd.baRecEntry := by
    cases mem <;> rfl
  have numDone : (baReorderingResourceInit pAd num mem).2.numDoneOriginator =
      pAd.numDoneOriginator := by
    cases mem <;> rfl
  have recFree : ∀ idx, (BlockAck.recTable pAd).stage idx = .none := fun idx =>
    (blank.baRecEntry idx).1
  have oriFree : ∀ idx, (BlockAck.oriTable pAd).stage idx = .none := blank.baOriEntry
  constructor
  · constructor
    · rw [recTable]
      constructor
      · exact recFree 0
      · exact blank.numAsRecipient.trans (tally_vacant fun idx => by simp [recFree idx]).symm
      · intro idx inside key
        have slot : (BlockAck.recTable pAd).slotOf key = 0 := ((blank.content key.1).2.2 key.2).1
        simp [recFree idx, slot, Ne.symm inside]
      · intro key
        have flag : (BlockAck.recTable pAd).flag key = false := by
          simp [BlockAck.recTable, (blank.content key.1).1]
        simp [flag, recFree]
    · rw [recTable]
      exact fun idx => Or.inl (recFree idx)
    · exact baReorderingResourceInit_counted (fun idx => (blank.baRecEntry idx).2) num mem
    · intro idx _
      rw [recEntries, (blank.baRecEntry idx).2]
      rfl
  · constructor
    · rw [oriTable]
      constructor
      · exact oriFree 0
      · exact blank.numAsOriginator.trans (tally_vacant fun idx => by simp [oriFree idx]).symm
      · intro idx inside key
        have slot : (BlockAck.oriTable pAd).slotOf key = 0 := ((blank.content key.1).2.2 key.2).2
        simp [oriFree idx, slot, Ne.symm inside]
      · intro key
        have flag : (BlockAck.oriTable pAd).flag key = false := by
          simp [BlockAck.oriTable, (blank.content key.1).2.1]
        simp [flag, oriFree]
    · rw [oriTable]
      intro idx
      rw [oriFree idx]
      decide
    · rw [oriTable, numDone, blank.numDoneOriginator]
      exact (tally_vacant fun idx => by simp [oriFree idx]).symm

end Mt7612u.BlockAck
