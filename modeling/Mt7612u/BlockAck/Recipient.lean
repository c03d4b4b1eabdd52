import Mt7612u.BlockAck.SlotTables

/-! The recipient sessions: what setting them up, tearing them down and the traffic on them
does to the table and to the lists, and that it leaves the transmit side alone. -/

namespace Mt7612u.BlockAck
open Receive
open Library.Directory

/-- Between two events a recipient entry is free or accepted, and only an accepted one holds
frames. -/
structure RecInvariant (pAd : RtmpAdapter) : Prop where
  consistent : (recTable pAd).Consistent 0 .none .accept
  atRest : ∀ idx, (recTable pAd).stage idx = .none ∨ (recTable pAd).stage idx = .accept
  counted : pAd.Counted
  idle : ∀ idx, (recTable pAd).stage idx ≠ .accept → (pAd.baRecEntry idx).list.next = []

theorem RecInvariant.same {pAd pAd' : RtmpAdapter} (invariant : RecInvariant pAd)
    (same : SameReceive pAd pAd') : RecInvariant pAd' where
  consistent := same.table ▸ invariant.consistent
  atRest := same.table ▸ invariant.atRest
  counted := (same.lists.books invariant.counted).counted
  idle idx := by
    rw [same.table, same.lists.lists idx]
    exact invariant.idle idx

theorem RecInvariant.accepted {pAd : RtmpAdapter} (invariant : RecInvariant pAd)
    {key : Wcid × Tid} (known : (recTable pAd).slotOf key ≠ 0) :
    (recTable pAd).stage ((recTable pAd).slotOf key) = .accept :=
  (invariant.atRest _).resolve_left (invariant.consistent.taken known).1

@[simp] theorem recTable_setNumAsRecipient (pAd : RtmpAdapter) (num : Nat) :
    recTable (pAd.setNumAsRecipient num) = { recTable pAd with used := num } := rfl

@[simp] theorem recTable_setRecEntry (pAd : RtmpAdapter) (idx : BaIdx) (entry : BaRecEntry) :
    recTable (pAd.setRecEntry idx entry) =
    { recTable pAd with
      stage := Function.update (recTable pAd).stage idx entry.recBAStatus
      holder := Function.update (recTable pAd).holder idx (entry.wcid, entry.tid) } := by
  apply SlotTable.ext
  · exact column_update (fun entry => entry.recBAStatus) pAd.baRecEntry idx entry
  · exact column_update (fun entry => (entry.wcid, entry.tid)) pAd.baRecEntry idx entry
  · rfl
  · rfl
  · rfl

theorem recTable_onSession (pAd : RtmpAdapter) (idx : BaIdx) (act : Session → Session) :
    recTable (pAd.onSession idx act) =
    { recTable pAd with
      stage := Function.update (recTable pAd).stage idx (act (pAd.session idx)).entry.recBAStatus
      holder := Function.update (recTable pAd).holder idx
        ((act (pAd.session idx)).entry.wcid, (act (pAd.session idx)).entry.tid) } :=
  recTable_setRecEntry pAd idx (act (pAd.session idx)).entry

/-- Traffic on a session does not move it. -/
theorem Ledger.recTable {pAd : RtmpAdapter} {idx : BaIdx} {act : Session → Session}
    {handed : Multiset Packet} {leaked : Multiset Nat}
    (work : Ledger (pAd.session idx) (act (pAd.session idx)) handed leaked) :
    recTable (pAd.onSession idx act) = recTable pAd := by
  have status : (pAd.session idx).entry.recBAStatus = (BlockAck.recTable pAd).stage idx := rfl
  have held : ((pAd.session idx).entry.wcid, (pAd.session idx).entry.tid) =
      (BlockAck.recTable pAd).holder idx := rfl
  rw [recTable_onSession, work.recBAStatus, work.wcid, work.tid, status, held,
    Function.update_eq_self, Function.update_eq_self]

@[simp] theorem recTable_array (pAd : RtmpAdapter) (wcid : Wcid) (tid : Tid) (idx : BaIdx) :
    recTable (pAd.onStation wcid fun pEntry =>
      { pEntry with baRecWcidArray := Function.update pEntry.baRecWcidArray tid idx }) =
    { recTable pAd with slotOf := Function.update (recTable pAd).slotOf (wcid, tid) idx } := by
  apply SlotTable.ext
  · rfl
  · rfl
  · exact station_update (fun entry => entry.baRecWcidArray) pAd.content wcid tid idx _ rfl
  · exact station_same (fun entry tid => entry.rxBAbitmap.getLsbD tid.val) pAd.content wcid _ rfl
  · rfl

/-- The write of `BARecSessionAdd` to the station. -/
@[simp] theorem recTable_raise (pAd : RtmpAdapter) (wcid : Wcid) (tid : Tid) (idx : BaIdx)
    (declined : BitVec 16 → BitVec 16) :
    recTable (pAd.onStation wcid fun station =>
      { station with
        rxBAbitmap := station.rxBAbitmap ||| tidBit tid
        baRecWcidArray := Function.update station.baRecWcidArray tid idx
        baDeclineBitmap := declined station.baDeclineBitmap }) =
    { recTable pAd with
      slotOf := Function.update (recTable pAd).slotOf (wcid, tid) idx
      flag := Function.update (recTable pAd).flag (wcid, tid) true } := by
  apply SlotTable.ext
  · rfl
  · rfl
  · exact station_update (fun entry => entry.baRecWcidArray) pAd.content wcid tid idx _ rfl
  · exact station_update (fun entry tid => entry.rxBAbitmap.getLsbD tid.val) pAd.content wcid tid
      true _ (setBit_update _ tid)
  · rfl

/-- The write of `BARecSessionTearDown` to the station. -/
@[simp] theorem recTable_lower (pAd : RtmpAdapter) (wcid : Wcid) (tid : Tid) (idx : BaIdx) :
    recTable (pAd.onStation wcid fun station =>
      { station with
        rxBAbitmap := station.rxBAbitmap &&& ~~~tidBit tid
        baRecWcidArray := Function.update station.baRecWcidArray tid idx }) =
    { recTable pAd with
      slotOf := Function.update (recTable pAd).slotOf (wcid, tid) idx
      flag := Function.update (recTable pAd).flag (wcid, tid) false } := by
  apply SlotTable.ext
  · rfl
  · rfl
  · exact station_update (fun entry => entry.baRecWcidArray) pAd.content wcid tid idx _ rfl
  · exact station_update (fun entry tid => entry.rxBAbitmap.getLsbD tid.val) pAd.content wcid tid
      false _ (clearBit_update _ tid)
  · rfl

theorem baTableFreeRecEntry_table (pAd : RtmpAdapter) {idx : BaIdx} (inside : idx ≠ 0)
    (taken : (recTable pAd).stage idx ≠ .none) :
    recTable (baTableFreeRecEntry pAd idx) =
    { recTable pAd with
      stage := Function.update (recTable pAd).stage idx .none
      slotOf := Function.update (recTable pAd).slotOf ((recTable pAd).holder idx) 0
      used := (recTable pAd).used - 1 } := by
  have status : (pAd.baRecEntry idx).recBAStatus ≠ .none := taken
  have held : ((pAd.baRecEntry idx).wcid, (pAd.baRecEntry idx).tid) = (recTable pAd).holder idx := rfl
  have count (pAd : RtmpAdapter) : pAd.numAsRecipient = (recTable pAd).used := rfl
  unfold baTableFreeRecEntry
  dsimp only
  rw [if_neg inside, if_pos status]
  simp only [count, recTable_setRecEntry, recTable_setNumAsRecipient, recTable_assert,
    recTable_array, held, Function.update_eq_self]

theorem SameTransmit.onStation {pAd pAd' : RtmpAdapter} (same : SameTransmit pAd pAd') (wcid : Wcid)
    (act : MacTableEntry → MacTableEntry)
    (array : (act (pAd'.content wcid)).baOriWcidArray = (pAd'.content wcid).baOriWcidArray)
    (bitmap : (act (pAd'.content wcid)).txBAbitmap = (pAd'.content wcid).txBAbitmap) :
    SameTransmit pAd (pAd'.onStation wcid act) :=
  ⟨(oriTable_onStation pAd' wcid act array bitmap).trans same.table, same.done⟩

theorem sameTransmit_freeRecEntry (pAd : RtmpAdapter) (idx : BaIdx) :
    SameTransmit pAd (baTableFreeRecEntry pAd idx) := by
  unfold baTableFreeRecEntry
  dsimp only
  split_ifs
  · exact .refl pAd
  · have erased := (SameTransmit.refl pAd).onStation (pAd.baRecEntry idx).wcid (fun pEntry =>
      { pEntry with
        baRecWcidArray := Function.update pEntry.baRecWcidArray (pAd.baRecEntry idx).tid 0 }) rfl rfl
    exact erased.trans ⟨oriTable_assert _ _, assert_numDoneOriginator _ _⟩
  · exact .refl pAd

theorem baTableAllocRecEntry_cases {pAd : RtmpAdapter} (invariant : RecInvariant pAd) (idx : BaIdx) :
    ((∀ other, other ≠ 0 → (pAd.baRecEntry other).recBAStatus ≠ .none) ∧
      baTableAllocRecEntry pAd idx = (none, idx, pAd)) ∨
    ∃ found, found ≠ 0 ∧ (pAd.baRecEntry found).recBAStatus = .none ∧
      baTableAllocRecEntry pAd idx = (some found, found,
        (pAd.setNumAsRecipient (pAd.numAsRecipient + 1)).setRecEntry found
          { pAd.baRecEntry found with recBAStatus := .used }) := by
  unfold baTableAllocRecEntry
  rcases firstFree_cases invariant.consistent with ⟨full, taken⟩ | ⟨room, found, inside, free, first⟩
  · exact Or.inl ⟨taken, if_pos full⟩
  · refine Or.inr ⟨found, inside, free, ?_⟩
    simp only [recTable] at room first
    rw [if_neg room, first]

/-- What an event of the receive side keeps, with the packets it takes in. -/
structure Receives (pAd pAd' : RtmpAdapter) (handed : Multiset Packet) : Prop where
  invariant : RecInvariant pAd'
  packets : pAd'.packets = pAd.packets + handed
  transmit : SameTransmit pAd pAd'

theorem Receives.trans {pAd pAd' pAd'' : RtmpAdapter} {handed handed' : Multiset Packet}
    (first : Receives pAd pAd' handed) (second : Receives pAd' pAd'' handed') :
    Receives pAd pAd'' (handed + handed') where
  invariant := second.invariant
  packets := by rw [second.packets, first.packets, add_assoc]
  transmit := first.transmit.trans second.transmit

theorem Receives.refl {pAd : RtmpAdapter} (invariant : RecInvariant pAd) : Receives pAd pAd 0 :=
  ⟨invariant, (add_zero _).symm, .refl pAd⟩

theorem RecInvariant.traffic {pAd : RtmpAdapter} (invariant : RecInvariant pAd) (idx : BaIdx)
    (act : Session → Session) {handed : Multiset Packet} {leaked : Multiset Nat}
    (work : Ledger (pAd.session idx) (act (pAd.session idx)) handed leaked)
    (idle : (recTable pAd).stage idx ≠ .accept → (act (pAd.session idx)).entry.list.next = []) :
    Receives pAd (pAd.onSession idx act) handed := by
  have books := books_onSession invariant.counted idx act work.balanced
  refine ⟨?_, books.packets, ⟨rfl, rfl⟩⟩
  constructor
  · rw [work.recTable]
    exact invariant.consistent
  · rw [work.recTable]
    exact invariant.atRest
  · exact books.counted
  · intro other free
    rw [work.recTable] at free
    by_cases same : other = idx
    · subst same
      simpa [RtmpAdapter.onSession] using idle free
    · simpa [RtmpAdapter.onSession, Function.update_of_ne same] using invariant.idle other free

theorem RecInvariant.settles {pAd : RtmpAdapter} (invariant : RecInvariant pAd) (idx : BaIdx)
    (act : Session → Session) {handed : Multiset Packet}
    (work : Settles (pAd.session idx) (act (pAd.session idx)) handed) :
    Receives pAd (pAd.onSession idx act) handed :=
  invariant.traffic idx act work.ledger fun free => work.drained (invariant.idle idx free)

theorem RecInvariant.retable {pAd pAd' : RtmpAdapter} (invariant : RecInvariant pAd)
    (kept : KeepsLists pAd pAd') (transmit : SameTransmit pAd pAd')
    (consistent : (recTable pAd').Consistent 0 .none .accept)
    (atRest : ∀ idx, (recTable pAd').stage idx = .none ∨ (recTable pAd').stage idx = .accept)
    (idle : ∀ idx, (recTable pAd').stage idx ≠ .accept → (pAd.baRecEntry idx).list.next = []) :
    Receives pAd pAd' 0 := by
  have books := kept.books invariant.counted
  refine ⟨⟨consistent, atRest, books.counted, fun idx free => ?_⟩, books.packets, transmit⟩
  rw [kept.lists idx]
  exact idle idx free

theorem RecInvariant.atRest_update {pAd : RtmpAdapter} (invariant : RecInvariant pAd) (idx : BaIdx)
    {stage : RecBAStatus} (settled : stage = .none ∨ stage = .accept) (other : BaIdx) :
    Function.update (recTable pAd).stage idx stage other = .none ∨
      Function.update (recTable pAd).stage idx stage other = .accept :=
  (Function.forall_update_iff _ fun _ stage => stage = RecBAStatus.none ∨ stage = .accept).2
    ⟨settled, fun other _ => invariant.atRest other⟩ other

theorem startRecSession_lists (s : Session) (pEntry : Wcid) (tid : Tid)
    (baWinSize timeOutValue : Nat) :
    (startRecSession pEntry tid baWinSize timeOutValue s).entry.list = s.entry.list ∧
    (startRecSession pEntry tid baWinSize timeOutValue s).freelist = s.freelist ∧
    settled (startRecSession pEntry tid baWinSize timeOutValue s).log = settled s.log := by
  unfold startRecSession
  generalize (s.entry.list.qlen == 0) = emptied
  have started : settled (s.log ++ [.lastIndSeq resetRcvSeq]) = settled s.log :=
    (settled_append _ _).trans (add_zero _)
  cases emptied with
  | true => exact ⟨rfl, rfl, started⟩
  | false =>
    refine ⟨rfl, rfl, ?_⟩
    have failed : settled (s.log ++ [.assertFailed]) = settled s.log :=
      (settled_append _ _).trans (add_zero _)
    exact ((settled_append _ _).trans (add_zero _)).trans failed

theorem KeepsLists.startSession {pAd pAd' : RtmpAdapter} (kept : KeepsLists pAd pAd')
    (idx : BaIdx) (pEntry : Wcid) (tid : Tid) (baWinSize timeOutValue : Nat) :
    KeepsLists pAd (pAd'.onSession idx
      (startRecSession pEntry tid baWinSize timeOutValue)) := by
  obtain ⟨list, freelist, log⟩ :=
    startRecSession_lists (pAd'.session idx) pEntry tid baWinSize timeOutValue
  refine ⟨fun other => ?_, freelist.trans kept.freelist, log.trans kept.log⟩
  by_cases same : other = idx
  · subst same
    simp only [RtmpAdapter.onSession, Function.update_self]
    exact list.trans (kept.lists other)
  · simpa [RtmpAdapter.onSession, Function.update_of_ne same] using kept.lists other

theorem recTable_startRecSession (pAd : RtmpAdapter) (idx : BaIdx) (pEntry : Wcid) (tid : Tid)
    (baWinSize timeOutValue : Nat) :
    recTable (pAd.onSession idx (startRecSession pEntry tid baWinSize timeOutValue)) =
    { recTable pAd with
      stage := Function.update (recTable pAd).stage idx .accept
      holder := Function.update (recTable pAd).holder idx (pEntry, tid) } :=
  recTable_onSession pAd idx _

/-- `BARecSessionAdd` refuses, takes a free entry, or starts the session there is anew. -/
theorem RecInvariant.recSessionAdd {pAd : RtmpAdapter} (invariant : RecInvariant pAd)
    (pEntry : Wcid) (pFrame : AddbaReq) : Receives pAd (baRecSessionAdd pAd pEntry pFrame).2 0 := by
  unfold baRecSessionAdd
  dsimp only
  by_cases absent : (pAd.content pEntry).baRecWcidArray pFrame.tid = 0
  · rw [if_pos absent]
    rcases baTableAllocRecEntry_cases invariant ((pAd.content pEntry).baRecWcidArray pFrame.tid) with
      ⟨-, allocated⟩ | ⟨found, inside, free, allocated⟩
    · rw [allocated]
      exact .refl invariant
    · rw [allocated]
      dsimp only
      have table : ∀ declined : BitVec 16 → BitVec 16,
          recTable ((((pAd.setNumAsRecipient (pAd.numAsRecipient + 1)).setRecEntry found
            { pAd.baRecEntry found with recBAStatus := .used }).onSession found
            (startRecSession pEntry pFrame.tid (grantedWinSize pAd pFrame)
              pFrame.timeOutValue.toNat)).onStation pEntry fun station =>
              { station with
                rxBAbitmap := station.rxBAbitmap ||| tidBit pFrame.tid
                baRecWcidArray := Function.update station.baRecWcidArray pFrame.tid found
                baDeclineBitmap := declined station.baDeclineBitmap }) =
          (recTable pAd).assign found (pEntry, pFrame.tid) .accept true := by
        intro declined
        simp only [recTable_raise, recTable_startRecSession, recTable_setRecEntry,
          recTable_setNumAsRecipient, Function.update_idem, SlotTable.assign]
        rfl
      apply invariant.retable
      · apply KeepsLists.onStation
        apply KeepsLists.startSession
        apply KeepsLists.setRecEntry
        · apply KeepsLists.setNumAsRecipient
          exact .refl pAd
        · rfl
      · apply SameTransmit.onStation
        · exact ⟨rfl, rfl⟩
        · rfl
        · rfl
      · rw [table fun declined => declined &&& ~~~tidBit pFrame.tid]
        exact invariant.consistent.assign inside free absent (by decide) (by decide)
      · rw [table fun declined => declined &&& ~~~tidBit pFrame.tid]
        exact invariant.atRest_update found (Or.inr rfl)
      · intro idx
        rw [table fun declined => declined &&& ~~~tidBit pFrame.tid]
        by_cases same : idx = found
        · simp [SlotTable.assign, same]
        · simpa [SlotTable.assign, Function.update_of_ne same] using invariant.idle idx
  · rw [if_neg absent]
    dsimp only
    have slot : (pAd.content pEntry).baRecWcidArray pFrame.tid =
        (recTable pAd).slotOf (pEntry, pFrame.tid) := rfl
    rw [slot] at absent ⊢
    generalize found : (recTable pAd).slotOf (pEntry, pFrame.tid) = idx at absent ⊢
    have known : (recTable pAd).slotOf (pEntry, pFrame.tid) ≠ 0 := found ▸ absent
    have held := (invariant.consistent.taken known).2
    rw [found] at held
    have refreshed := settles_refresh (invariant.counted.session idx)
    have emptied := invariant.settles idx baRefreshReorderingMpdus refreshed
    have table : ∀ declined : BitVec 16 → BitVec 16,
        recTable (((pAd.onSession idx baRefreshReorderingMpdus).onSession idx
          (startRecSession pEntry pFrame.tid (grantedWinSize pAd pFrame)
            pFrame.timeOutValue.toNat)).onStation pEntry fun station =>
            { station with
              rxBAbitmap := station.rxBAbitmap ||| tidBit pFrame.tid
              baRecWcidArray := Function.update station.baRecWcidArray pFrame.tid idx
              baDeclineBitmap := declined station.baDeclineBitmap }) =
        (recTable pAd).advance (pEntry, pFrame.tid) .accept true := by
      intro declined
      simp only [recTable_raise, recTable_startRecSession, refreshed.ledger.recTable,
        SlotTable.advance, found]
      rw [← held, Function.update_eq_self, held]
      nth_rewrite 2 [← found]
      rw [Function.update_eq_self]
    refine emptied.trans (emptied.invariant.retable ?_ ?_ ?_ ?_ ?_)
    · apply KeepsLists.onStation
      apply KeepsLists.startSession
      exact .refl _
    · apply SameTransmit.onStation
      · exact ⟨rfl, rfl⟩
      · rfl
      · rfl
    · rw [table fun declined => declined &&& ~~~tidBit pFrame.tid]
      exact invariant.consistent.advance known (by decide) (by decide)
    · rw [table fun declined => declined &&& ~~~tidBit pFrame.tid]
      exact invariant.atRest_update _ (Or.inr rfl)
    · intro other free
      rw [table fun declined => declined &&& ~~~tidBit pFrame.tid] at free
      apply emptied.invariant.idle
      rw [refreshed.ledger.recTable]
      by_cases same : other = idx
      · simp [SlotTable.advance, found, same] at free
      · simpa [SlotTable.advance, found, Function.update_of_ne same] using free

theorem stopRecSession_list {s : Session} (counted : s.entry.list.Counted) :
    (stopRecSession s).entry.list = .empty := by
  rw [stopRecSession, baRefreshReorderingMpdus_eq s counted]
  rfl

/-- The table once `BARecSessionTearDown` has given the entry `idx` of a session up. -/
theorem RecInvariant.recTable_tornDown {pAd : RtmpAdapter} (invariant : RecInvariant pAd)
    {wcid : Wcid} {tid : Tid} {idx : BaIdx} (found : (recTable pAd).slotOf (wcid, tid) = idx)
    (absent : idx ≠ 0) :
    recTable (baTableFreeRecEntry ((pAd.onSession idx stopRecSession).onStation wcid fun station =>
        { station with
          rxBAbitmap := station.rxBAbitmap &&& ~~~tidBit tid
          baRecWcidArray := Function.update station.baRecWcidArray tid 0 }) idx) =
      (recTable pAd).release 0 .none idx := by
  obtain ⟨taken, held⟩ := found ▸ invariant.consistent.taken (found ▸ absent)
  have stopped := stopRecSession_ledger (invariant.counted.session idx)
  have lowered := recTable_lower (pAd.onSession idx stopRecSession) wcid tid 0
  rw [stopped.recTable] at lowered
  rw [baTableFreeRecEntry_table _ absent (by rw [lowered]; exact taken), lowered]
  simp only [SlotTable.release, held, Function.update_idem]

/-- `BARecSessionTearDown` flushes the session before it gives the entry up. -/
theorem RecInvariant.recSessionTearDown {pAd : RtmpAdapter} (invariant : RecInvariant pAd)
    (wcid : BitVec 8) (tid : Tid) (bPassive elem : Bool) :
    Receives pAd (baRecSessionTearDown pAd wcid tid bPassive elem) 0 := by
  unfold baRecSessionTearDown
  dsimp only
  by_cases known : wcid.toNat < maxLenOfMacTable
  · rw [dif_pos known]
    have slot : (pAd.content ⟨wcid.toNat, known⟩).baRecWcidArray tid =
        (recTable pAd).slotOf (⟨wcid.toNat, known⟩, tid) := rfl
    rw [slot]
    by_cases absent : (recTable pAd).slotOf (⟨wcid.toNat, known⟩, tid) = 0
    · rw [if_pos absent]
      exact .refl invariant
    · have accepted := invariant.accepted absent
      have held := (invariant.consistent.taken absent).2
      rw [if_neg absent]
      generalize found : (recTable pAd).slotOf (⟨wcid.toNat, known⟩, tid) = idx at absent accepted held ⊢
      have owner : tid = (pAd.baRecEntry idx).tid := (congrArg Prod.snd held).symm
      rw [if_pos ⟨owner, accepted⟩]
      split_ifs with refused
      · exact .refl invariant
      · have stopped := stopRecSession_ledger (invariant.counted.session idx)
        have emptied : (stopRecSession (pAd.session idx)).entry.list.next = [] :=
          congrArg ReorderingList.next (stopRecSession_list (invariant.counted.lists idx))
        have flushed := invariant.traffic idx stopRecSession stopped fun _ => emptied
        have taken : (recTable pAd).stage idx ≠ .none := by
          rw [accepted]
          decide
        have table := invariant.recTable_tornDown found absent
        rw [← owner]
        refine flushed.trans (flushed.invariant.retable ?_ ?_ ?_ ?_ ?_)
        · apply KeepsLists.freeRecEntry
          apply KeepsLists.onStation
          exact .refl _
        · apply SameTransmit.trans _ (sameTransmit_freeRecEntry _ _)
          apply SameTransmit.onStation
          · exact ⟨rfl, rfl⟩
          · rfl
          · rfl
        · rw [table]
          exact invariant.consistent.release (by decide) taken
        · rw [table]
          exact invariant.atRest_update idx (Or.inl rfl)
        · intro other free
          rw [table] at free
          by_cases same : other = idx
          · subst same
            simpa [RtmpAdapter.onSession] using emptied
          · apply flushed.invariant.idle
            rw [stopped.recTable]
            simpa [SlotTable.release, Function.update_of_ne same] using free
  · rw [dif_neg known]
    exact .refl invariant

/-- One round of the loop of `ba_reordering_resource_release`. -/
theorem releaseRound_settles {s : Session} (counted : s.Counted) (mpdu : ReorderingMpdu)
    (rest : List ReorderingMpdu) (chain : s.entry.list.next = mpdu :: rest) (holds : Bool) :
    Settles s (baMpduBlkFree (((s.setList ⟨rest, s.entry.list.qlen - 1⟩).assert holds).record
      (.kfree mpdu.pPacket)) mpdu) 0 := by
  have taken : Settles s (baMpduBlkFree ((s.setList ⟨rest, s.entry.list.qlen - 1⟩).record
      (.kfree mpdu.pPacket)) mpdu) 0 := by
    refine ⟨⟨rfl, rfl, rfl, rfl, ⟨counted.list.tail chain, baEnqueue_counted _ counted.pool mpdu⟩,
      ?_, ?_⟩, ?_⟩
    · have freed : settled [.kfree mpdu.pPacket] = {mpdu.pPacket} := rfl
      simp only [Session.packets, baMpduBlkFree, Session.record, Session.setList, settled_append,
        freed, ReorderingList.packets, chain, List.map_cons, ← Multiset.cons_coe,
        ← Multiset.singleton_add]
      abel
    · simp only [Session.blocks, baMpduBlkFree, Session.record, Session.setList, baEnqueue,
        ReorderingList.blocks, chain, List.map_cons, ← Multiset.cons_coe, ← Multiset.singleton_add]
      abel
    · intro empty
      simp [chain] at empty
  cases holds with
  | true => exact taken
  | false =>
    have failed : settled (s.log ++ [.assertFailed] ++ [.kfree mpdu.pPacket]) =
        settled (s.log ++ [.kfree mpdu.pPacket]) := by
      have none : settled [.assertFailed] = 0 := rfl
      simp only [settled_append, none, add_zero]
    exact ⟨{ taken.ledger with
      counted := ⟨taken.counted.list, taken.counted.pool⟩
      packets := (congrArg (· + _) failed).trans taken.ledger.packets }, taken.drained⟩

theorem releaseLoop_settles (fuel : Nat) {s : Session} (counted : s.Counted)
    (enough : s.entry.list.next.length ≤ fuel) :
    Settles s (releaseLoop fuel s) 0 ∧ (releaseLoop fuel s).entry.list.next = [] := by
  induction fuel generalizing s with
  | zero => exact ⟨settles_refl counted, List.eq_nil_of_length_eq_zero (Nat.le_zero.mp enough)⟩
  | succ fuel ih =>
    cases chain : s.entry.list.next with
    | nil =>
      simp only [releaseLoop, baReorderingMpduDequeue, baDequeue_nil _ counted.list chain]
      exact ⟨settles_refl counted, chain⟩
    | cons mpdu rest =>
      have round := releaseRound_settles counted mpdu rest chain (mpdu.pPacket != 0)
      have left : (baMpduBlkFree (((s.setList ⟨rest, s.entry.list.qlen - 1⟩).assert
          (mpdu.pPacket != 0)).record (.kfree mpdu.pPacket)) mpdu).entry.list.next.length ≤ fuel := by
        rw [chain, List.length_cons] at enough
        cases present : mpdu.pPacket != 0 <;> exact Nat.le_of_succ_le_succ enough
      have tail := ih round.counted left
      simp only [releaseLoop, baReorderingMpduDequeue, baDequeue_cons _ counted.list mpdu rest chain]
      exact ⟨round.then tail.1, tail.2⟩

theorem RecInvariant.releasing {pAd : RtmpAdapter} (invariant : RecInvariant pAd)
    (idx : BaIdx) : Receives pAd (pAd.onSession idx releaseSession) 0 ∧
      ((pAd.onSession idx releaseSession).baRecEntry idx).list.next = [] := by
  have counted := invariant.counted.session idx
  obtain ⟨loop, emptied⟩ := releaseLoop_settles _ counted le_rfl
  have work : Settles (pAd.session idx) (releaseSession (pAd.session idx)) 0 ∧
      (releaseSession (pAd.session idx)).entry.list.next = [] := by
    unfold releaseSession
    split_ifs with used
    · exact ⟨loop, emptied⟩
    · refine ⟨settles_refl counted, invariant.idle idx ?_⟩
      have status : (recTable pAd).stage idx = .none := not_not.mp used
      rw [status]
      decide
  refine ⟨invariant.settles idx _ work.1, ?_⟩
  simpa [RtmpAdapter.onSession] using work.2

theorem releaseSessions_receives (idxs : List BaIdx) {pAd : RtmpAdapter}
    (invariant : RecInvariant pAd) :
    Receives pAd (idxs.foldl (fun pAd idx => pAd.onSession idx releaseSession) pAd) 0 ∧
    ∀ idx, (idx ∈ idxs ∨ (pAd.baRecEntry idx).list.next = []) →
      ((idxs.foldl (fun pAd idx => pAd.onSession idx releaseSession) pAd).baRecEntry
        idx).list.next = [] := by
  induction idxs generalizing pAd with
  | nil => exact ⟨.refl invariant, fun idx empty => empty.resolve_left List.not_mem_nil⟩
  | cons first rest ih =>
    obtain ⟨received, emptied⟩ := invariant.releasing first
    obtain ⟨others, all⟩ := ih received.invariant
    refine ⟨by simpa using received.trans others, fun idx either => all idx ?_⟩
    by_cases same : idx = first
    · subst same
      exact Or.inr emptied
    · rcases either with member | empty
      · exact Or.inl (List.mem_of_ne_of_mem same member)
      · right
        simpa [RtmpAdapter.onSession, Function.update_of_ne same] using empty

/-- `ba_reordering_resource_release` frees every buffered packet. -/
theorem RecInvariant.resourceRelease {pAd : RtmpAdapter} (invariant : RecInvariant pAd) :
    Receives pAd (baReorderingResourceRelease pAd) 0 ∧
      (baReorderingResourceRelease pAd).bufferedPackets = 0 := by
  obtain ⟨received, emptied⟩ := releaseSessions_receives (List.finRange maxLenOfBaTable) invariant
  unfold baReorderingResourceRelease
  dsimp only
  generalize (List.finRange maxLenOfBaTable).foldl (fun pAd idx => pAd.onSession idx releaseSession)
    pAd = final at received emptied
  have kept : SameReceive final (final.assert ((final.baRecEntry lastEntry).list.qlen == 0)) :=
    ⟨recTable_assert _ _, (KeepsLists.refl final).assert _⟩
  have books := kept.lists.books received.invariant.counted
  constructor
  · refine ⟨received.invariant.same kept, ?_, received.transmit.trans ⟨oriTable_assert _ _,
      assert_numDoneOriginator _ _⟩⟩
    rw [books.packets, received.packets, add_zero]
  · apply Finset.sum_eq_zero
    intro idx _
    rw [kept.lists.lists idx, ReorderingList.packets, emptied idx (Or.inl (List.mem_finRange idx))]
    rfl

end Mt7612u.BlockAck
