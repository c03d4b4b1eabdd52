import Mt7612u.BlockAck.Ledger
import Mt7612u.BlockAck.SessionTable
import Mt7612u.Library.Directory
import Mt7612u.Library.Run

/-! The books of the whole adapter, and what becomes of the pool's blocks in a run of the
reorder buffer's own operations on any of the sessions. -/

namespace Mt7612u.BlockAck
open Receive
open Library.Directory (sum_update)
open Library.Run

namespace RtmpAdapter

def bufferedPackets (pAd : RtmpAdapter) : Multiset Packet :=
  ∑ idx, (pAd.baRecEntry idx).list.packets

def bufferedBlocks (pAd : RtmpAdapter) : Multiset Nat :=
  ∑ idx, (pAd.baRecEntry idx).list.blocks

def packets (pAd : RtmpAdapter) : Multiset Packet := settled pAd.log + pAd.bufferedPackets

/-- Every block that some list still holds, as often as it is held. -/
def blocks (pAd : RtmpAdapter) : Multiset Nat := pAd.freelist.blocks + pAd.bufferedBlocks

structure Counted (pAd : RtmpAdapter) : Prop where
  lists : ∀ idx, (pAd.baRecEntry idx).list.Counted
  pool : pAd.freelist.Counted

theorem Counted.session {pAd : RtmpAdapter} (counted : pAd.Counted) (idx : BaIdx) :
    (pAd.session idx).Counted :=
  ⟨counted.lists idx, counted.pool⟩

end RtmpAdapter

/-- The balance of `Balanced`, over all sessions. -/
structure Books (pAd pAd' : RtmpAdapter) (handed : Multiset Packet) (leaked : Multiset Nat) :
    Prop where
  counted : pAd'.Counted
  packets : pAd'.packets = pAd.packets + handed
  blocks : pAd'.blocks + leaked = pAd.blocks

theorem Books.trans {pAd pAd' pAd'' : RtmpAdapter} {handed handed' : Multiset Packet}
    {leaked leaked' : Multiset Nat} (first : Books pAd pAd' handed leaked)
    (second : Books pAd' pAd'' handed' leaked') :
    Books pAd pAd'' (handed + handed') (leaked + leaked') where
  counted := second.counted
  packets := by rw [second.packets, first.packets, add_assoc]
  blocks := by rw [← first.blocks, ← second.blocks, add_assoc, add_comm leaked']

theorem Books.then {pAd pAd' pAd'' : RtmpAdapter} {handed : Multiset Packet}
    {leaked : Multiset Nat} (first : Books pAd pAd' handed leaked)
    (second : Books pAd' pAd'' 0 0) : Books pAd pAd'' handed leaked := by
  simpa using first.trans second

/-- Writes that leave every list alone, and of the log only the assertions. -/
structure KeepsLists (pAd pAd' : RtmpAdapter) : Prop where
  lists : ∀ idx, (pAd'.baRecEntry idx).list = (pAd.baRecEntry idx).list
  freelist : pAd'.freelist = pAd.freelist
  log : settled pAd'.log = settled pAd.log

theorem KeepsLists.refl (pAd : RtmpAdapter) : KeepsLists pAd pAd := ⟨fun _ => rfl, rfl, rfl⟩

theorem KeepsLists.books {pAd pAd' : RtmpAdapter} (kept : KeepsLists pAd pAd')
    (counted : pAd.Counted) : Books pAd pAd' 0 0 where
  counted := ⟨fun idx => kept.lists idx ▸ counted.lists idx, kept.freelist ▸ counted.pool⟩
  packets := by
    simp only [RtmpAdapter.packets, RtmpAdapter.bufferedPackets, kept.lists, kept.log, add_zero]
  blocks := by
    simp only [RtmpAdapter.blocks, RtmpAdapter.bufferedBlocks, kept.lists, kept.freelist, add_zero]

namespace KeepsLists

variable {pAd pAd' : RtmpAdapter} (kept : KeepsLists pAd pAd')
include kept

theorem onStation (wcid : Wcid) (act : MacTableEntry → MacTableEntry) :
    KeepsLists pAd (pAd'.onStation wcid act) := ⟨kept.lists, kept.freelist, kept.log⟩

theorem setNumAsRecipient (num : Nat) : KeepsLists pAd (pAd'.setNumAsRecipient num) :=
  ⟨kept.lists, kept.freelist, kept.log⟩

theorem setNumAsOriginator (num : Nat) : KeepsLists pAd (pAd'.setNumAsOriginator num) :=
  ⟨kept.lists, kept.freelist, kept.log⟩

theorem setNumDoneOriginator (num : Nat) : KeepsLists pAd (pAd'.setNumDoneOriginator num) :=
  ⟨kept.lists, kept.freelist, kept.log⟩

theorem setOriEntry (idx : BaIdx) (entry : BaOriEntry) :
    KeepsLists pAd (pAd'.setOriEntry idx entry) := ⟨kept.lists, kept.freelist, kept.log⟩

theorem assert (holds : Bool) : KeepsLists pAd (pAd'.assert holds) := by
  cases holds with
  | true => exact kept
  | false =>
    refine ⟨kept.lists, kept.freelist, ?_⟩
    simp only [RtmpAdapter.assert, RtmpAdapter.record, Bool.false_eq_true, ↓reduceIte,
      settled_append]
    exact (add_zero _).trans kept.log

theorem setRecEntry (idx : BaIdx) (entry : BaRecEntry)
    (list : entry.list = (pAd.baRecEntry idx).list) :
    KeepsLists pAd (pAd'.setRecEntry idx entry) := by
  refine ⟨fun other => ?_, kept.freelist, kept.log⟩
  by_cases same : other = idx
  · subst same
    simpa [RtmpAdapter.setRecEntry] using list
  · simpa [RtmpAdapter.setRecEntry, Function.update_of_ne same] using kept.lists other

/-- Freeing an entry leaves its list alone. -/
theorem freeRecEntry (idx : BaIdx) : KeepsLists pAd (baTableFreeRecEntry pAd' idx) := by
  unfold baTableFreeRecEntry
  dsimp only
  split_ifs
  · exact kept
  · apply KeepsLists.setRecEntry
    · apply KeepsLists.setNumAsRecipient
      apply KeepsLists.assert
      apply KeepsLists.onStation
      exact kept
    · exact kept.lists idx
  · exact kept

end KeepsLists

/-- What one session balances, the adapter balances. -/
theorem books_onSession {pAd : RtmpAdapter} (counted : pAd.Counted) (idx : BaIdx)
    (act : Session → Session) {handed : Multiset Packet} {leaked : Multiset Nat}
    (balanced : Balanced (pAd.session idx) (act (pAd.session idx)) handed leaked) :
    Books pAd (pAd.onSession idx act) handed leaked where
  counted := by
    refine ⟨fun other => ?_, balanced.counted.pool⟩
    by_cases same : other = idx
    · subst same
      simpa [RtmpAdapter.onSession] using balanced.counted.list
    · simpa [RtmpAdapter.onSession, Function.update_of_ne same] using counted.lists other
  packets := by
    have changed := sum_update (fun entry : BaRecEntry => entry.list.packets) pAd.baRecEntry idx
      (act (pAd.session idx)).entry
    have local' := balanced.packets
    simp only [Session.packets, RtmpAdapter.session] at local' changed
    apply add_right_cancel (b := (pAd.baRecEntry idx).list.packets)
    simp only [RtmpAdapter.packets, RtmpAdapter.bufferedPackets, RtmpAdapter.onSession,
      RtmpAdapter.session]
    rw [add_assoc, changed, add_left_comm, local']
    abel
  blocks := by
    have changed := sum_update (fun entry : BaRecEntry => entry.list.blocks) pAd.baRecEntry idx
      (act (pAd.session idx)).entry
    have local' := balanced.blocks
    simp only [Session.blocks, RtmpAdapter.session] at local' changed
    apply add_right_cancel (b := (pAd.baRecEntry idx).list.blocks)
    simp only [RtmpAdapter.blocks, RtmpAdapter.bufferedBlocks, RtmpAdapter.onSession,
      RtmpAdapter.session]
    rw [add_right_comm, add_assoc _ _ (pAd.baRecEntry idx).list.blocks, changed, add_left_comm,
      add_assoc, local']
    abel

theorem stopRecSession_ledger {s : Session} (counted : s.Counted) :
    Ledger s (stopRecSession s) 0 0 := by
  have refreshed := settles_refresh counted
  have closed : Settles s { baRefreshReorderingMpdus s with
      entry := { (baRefreshReorderingMpdus s).entry with baWinSize := 0 } } 0 :=
    ⟨{ refreshed.ledger with counted := ⟨refreshed.counted.list, refreshed.counted.pool⟩ },
      refreshed.drained⟩
  exact (closed.then (settles_setLastIndSeq closed.counted resetRcvSeq)).ledger

theorem baRecSessionTearDown_books {pAd : RtmpAdapter} (counted : pAd.Counted) (wcid : BitVec 8)
    (tid : Tid) (bPassive elem : Bool) :
    Books pAd (baRecSessionTearDown pAd wcid tid bPassive elem) 0 0 := by
  unfold baRecSessionTearDown
  dsimp only
  split_ifs with known absent accepted refused
  · exact (KeepsLists.refl _).books counted
  · exact (KeepsLists.refl _).books counted
  · have stopped := books_onSession counted
      ((pAd.content ⟨wcid.toNat, known⟩).baRecWcidArray tid) stopRecSession
      (stopRecSession_ledger (counted.session _)).balanced
    refine stopped.then (KeepsLists.books ?_ stopped.counted)
    apply KeepsLists.freeRecEntry
    apply KeepsLists.onStation
    exact .refl _
  · exact ((KeepsLists.refl _).freeRecEntry _).books counted
  · exact (KeepsLists.refl _).books counted

/-- The operations of the reorder buffer on one session. -/
inductive ReorderOp where
  | enqueue (env : Env) (pRxBlk : RxBlk) (now32 : BitVec 64)
  | inOrder (startSeq : Nat)
  | leSeq (sequence : Nat)
  | refresh
  | flushTimeout (env : Env) (now32 : BitVec 64)
  | idleTimeout (now32 : BitVec 64)

def ReorderOp.act (s : Session) : ReorderOp → Session
  | .enqueue env pRxBlk now32 => baEnqueueReorderingPacket env s pRxBlk now32
  | .inOrder startSeq => (baIndicateReorderingMpdusInOrder s startSeq).1
  | .leSeq sequence => baIndicateReorderingMpdusLeSeq s sequence
  | .refresh => baRefreshReorderingMpdus s
  | .flushTimeout env now32 => baFlushReorderingTimeoutMpdus env s now32
  | .idleTimeout now32 => baRecSessionIdleTimeout s now32

inductive PoolEvent where
  | reorder (idx : BaIdx) (op : ReorderOp)
  | tearDown (wcid : BitVec 8) (tid : Tid) (bPassive elem : Bool)

def poolStep (pAd : RtmpAdapter) : PoolEvent → RtmpAdapter
  | .reorder idx op => pAd.onSession idx fun s => op.act s
  | .tearDown wcid tid bPassive elem => baRecSessionTearDown pAd wcid tid bPassive elem

/-- An EAPOL frame that is to be buffered finds no free block. -/
def ReorderOp.EapolUnbuffered (s : Session) : ReorderOp → Prop
  | .enqueue _ pRxBlk _ => pRxBlk.fRXEAP = true → s.freelist.qlen = 0
  | _ => True

def EapolUnbuffered (pAd : RtmpAdapter) : PoolEvent → Prop
  | .reorder idx op => op.EapolUnbuffered (pAd.session idx)
  | .tearDown .. => True

theorem ReorderOp.ledger {s : Session} (counted : s.Counted) (op : ReorderOp)
    (unbuffered : op.EapolUnbuffered s) : ∃ handed, Ledger s (op.act s) handed 0 := by
  cases op with
  | enqueue env pRxBlk now32 =>
    have kept : lostBlocks s pRxBlk = 0 := by
      unfold lostBlocks
      split_ifs with eap
      · have none : s.freelist.next = [] :=
          List.eq_nil_of_length_eq_zero (counted.pool.symm.trans (unbuffered eap))
        simp [none]
      · rfl
    have work := baEnqueueReorderingPacket_ledger counted env pRxBlk now32
    rw [kept] at work
    exact ⟨_, work⟩
  | inOrder startSeq => exact ⟨0, (settles_inOrderMpdus counted startSeq).ledger⟩
  | leSeq sequence => exact ⟨0, (settles_leSeq counted sequence).ledger⟩
  | refresh => exact ⟨0, (settles_refresh counted).ledger⟩
  | flushTimeout env now32 => exact ⟨0, (settles_flush counted env now32).ledger⟩
  | idleTimeout now32 => exact ⟨0, (settles_idleTimeout counted now32).ledger⟩

theorem poolStep_books {pAd : RtmpAdapter} (counted : pAd.Counted) (event : PoolEvent)
    (unbuffered : EapolUnbuffered pAd event) :
    ∃ handed, Books pAd (poolStep pAd event) handed 0 := by
  cases event with
  | tearDown wcid tid bPassive elem =>
    exact ⟨0, baRecSessionTearDown_books counted wcid tid bPassive elem⟩
  | reorder idx op =>
    obtain ⟨handed, work⟩ := op.ledger (counted.session idx) unbuffered
    exact ⟨handed, books_onSession counted idx (fun s => op.act s) work.balanced⟩

theorem freshBlocks_succ (num : Nat) :
    freshBlocks (num + 1) = baEnqueue (freshBlocks num) ⟨num, 0, 0, false, .sta⟩ := by
  simp only [freshBlocks, List.range_succ, List.foldl_append, List.foldl_cons, List.foldl_nil]

theorem freshBlocks_counted (num : Nat) : (freshBlocks num).Counted := by
  induction num with
  | zero => exact ReorderingList.counted_empty
  | succ num ih =>
    rw [freshBlocks_succ]
    exact baEnqueue_counted _ ih _

theorem freshBlocks_blocks (num : Nat) : (freshBlocks num).blocks = Multiset.range num := by
  induction num with
  | zero => rfl
  | succ num ih =>
    rw [freshBlocks_succ, Multiset.range_succ, ← ih]
    simp only [ReorderingList.blocks, baEnqueue, List.map_cons, ← Multiset.cons_coe]

theorem baReorderingResourceInit_counted {pAd : RtmpAdapter}
    (emptied : ∀ idx, (pAd.baRecEntry idx).list = .empty) (num : Nat) (mem : Bool) :
    (baReorderingResourceInit pAd num mem).2.Counted := by
  have lists : ∀ idx, (pAd.baRecEntry idx).list.Counted := by
    intro idx
    rw [emptied idx]
    exact ReorderingList.counted_empty
  cases mem with
  | true => exact ⟨lists, freshBlocks_counted num⟩
  | false => exact ⟨lists, ReorderingList.counted_empty⟩

theorem baReorderingResourceInit_blocks {pAd : RtmpAdapter}
    (emptied : ∀ idx, (pAd.baRecEntry idx).list = .empty) (num : Nat) :
    (baReorderingResourceInit pAd num true).2.blocks = Multiset.range num := by
  have buffered : ∑ idx, (pAd.baRecEntry idx).list.blocks = 0 := by
    apply Finset.sum_eq_zero
    intro idx _
    rw [emptied idx]
    rfl
  change (freshBlocks num).blocks + ∑ idx, (pAd.baRecEntry idx).list.blocks = _
  rw [buffered, add_zero, freshBlocks_blocks]

/-- The `num` blocks stay shared out between the free list and the sessions' lists. -/
theorem run_blocksShared (pAd : RtmpAdapter) (num : Nat) (events : List PoolEvent)
    (blank : pAd.Blank)
    (unbuffered : Throughout poolStep EapolUnbuffered
      (baReorderingResourceInit pAd num true).2 events) :
    let final := run poolStep (baReorderingResourceInit pAd num true).2 events
    final.freelist.blocks + ∑ idx, (final.baRecEntry idx).list.blocks = Multiset.range num ∧
      final.freelist.Counted ∧ ∀ idx, (final.baRecEntry idx).list.Counted := by
  have emptied := fun idx => (blank.baRecEntry idx).2
  have whole := run_invariant
    (fun pAd : RtmpAdapter => pAd.Counted ∧ pAd.blocks = Multiset.range num)
    (fun pAd event holds unbuffered => by
      obtain ⟨handed, books⟩ := poolStep_books holds.1 event unbuffered
      refine ⟨books.counted, ?_⟩
      rw [← holds.2, ← books.blocks, add_zero])
    ⟨baReorderingResourceInit_counted emptied num true,
      baReorderingResourceInit_blocks emptied num⟩ events unbuffered
  exact ⟨whole.2, whole.1.pool, whole.1.lists⟩

/-- An adapter in zeroed memory. -/
def zeroedAdapter : RtmpAdapter where
  baRecEntry _ := ⟨⟨0, maxLenOfMacTable_pos⟩, ⟨0, numOfTid_pos⟩, 0, 0, 0, 0, 0, 0, .none, .empty⟩
  baOriEntry _ := ⟨⟨0, maxLenOfMacTable_pos⟩, ⟨0, numOfTid_pos⟩, 0, .none⟩
  numAsRecipient := 0
  numAsOriginator := 0
  numDoneOriginator := 0
  content _ := ⟨0, 0, 0, fun _ => 0, fun _ => 0⟩
  autoBA := true
  rxBAWinLimit := 64
  freelist := .empty
  log := []

theorem zeroedAdapter_blank : zeroedAdapter.Blank :=
  ⟨fun _ => ⟨rfl, rfl⟩, fun _ => rfl, rfl, rfl, rfl, fun _ => ⟨rfl, rfl, fun _ => ⟨rfl, rfl⟩⟩, rfl⟩

/-- A frame of 64 zero bytes for TID 0 of station 1. -/
def zeroFrame (pRxPacket : Packet) (sequence : BitVec 12) (fRXEAP : Bool) : RxBlk :=
  ⟨pRxPacket, sequence, fun _ => 0, 64, false, fRXEAP, 1, ⟨0, numOfTid_pos⟩, .sta⟩

def enqueueFrame (pRxBlk : RxBlk) : PoolEvent :=
  .reorder ⟨1, by decide⟩ (.enqueue ⟨250, .sta, true, false⟩ pRxBlk 0)

/-- The EAPOL frame comes when the only block is in use. -/
theorem run_blocksShared_fallBack :
    let final := run poolStep (baReorderingResourceInit zeroedAdapter 1 true).2
      [enqueueFrame (zeroFrame 1 5 false), enqueueFrame (zeroFrame 2 6 true)]
    final.freelist.blocks + ∑ idx, (final.baRecEntry idx).list.blocks = Multiset.range 1 ∧
      final.freelist.Counted ∧ ∀ idx, (final.baRecEntry idx).list.Counted :=
  run_blocksShared zeroedAdapter 1 _ zeroedAdapter_blank
    ⟨fun eapol => by simp [zeroFrame] at eapol, fun _ => rfl, trivial⟩

/-- An EAPOL frame that finds the pool's only block free loses it. -/
theorem eapol_losesBlock :
    ¬∀ (pAd : RtmpAdapter) (num : Nat) (events : List PoolEvent), pAd.Blank →
      let final := run poolStep (baReorderingResourceInit pAd num true).2 events
      final.freelist.blocks + ∑ idx, (final.baRecEntry idx).list.blocks = Multiset.range num ∧
        final.freelist.Counted ∧ ∀ idx, (final.baRecEntry idx).list.Counted := by
  intro always
  have emptied := fun idx => (zeroedAdapter_blank.baRecEntry idx).2
  have counted := baReorderingResourceInit_counted emptied 1 true
  have shared := (always zeroedAdapter 1 [enqueueFrame (zeroFrame 1 5 true)] zeroedAdapter_blank).1
  have lost : (run poolStep (baReorderingResourceInit zeroedAdapter 1 true).2
      [enqueueFrame (zeroFrame 1 5 true)]).blocks + {0} = Multiset.range 1 :=
    (books_onSession counted ⟨1, by decide⟩
      (fun s => baEnqueueReorderingPacket ⟨250, .sta, true, false⟩ s (zeroFrame 1 5 true) 0)
      (baEnqueueReorderingPacket_ledger (counted.session ⟨1, by decide⟩) _ _ _).balanced).blocks.trans
      (baReorderingResourceInit_blocks emptied 1)
  rw [RtmpAdapter.blocks, RtmpAdapter.bufferedBlocks, shared] at lost
  exact absurd (congrArg Multiset.card lost) (by decide)

end Mt7612u.BlockAck
