import Mt7612u.BlockAck.SlotTables

/-! The originator sessions: what `BAOriSessionSetUp`, `BAOriSessionAdd`, the timeout of a
request and the teardown do to the table, and that they leave the receive side alone. -/

namespace Mt7612u.BlockAck
open Receive
open Library.Directory

structure OriInvariant (pAd : RtmpAdapter) : Prop where
  consistent : (oriTable pAd).Consistent 0 .none .done
  atRest : ∀ idx, (oriTable pAd).stage idx ≠ .used
  done : pAd.numDoneOriginator = tally (oriTable pAd).stage fun stage => decide (stage = .done)

theorem OriInvariant.same {pAd pAd' : RtmpAdapter} (invariant : OriInvariant pAd)
    (same : SameTransmit pAd pAd') : OriInvariant pAd' :=
  ⟨same.table ▸ invariant.consistent, same.table ▸ invariant.atRest,
    same.table ▸ same.done ▸ invariant.done⟩

/-- While its entry is not done, a key's bit is down. -/
theorem OriInvariant.bitDown {pAd : RtmpAdapter} (invariant : OriInvariant pAd)
    (key : Wcid × Tid) (undone : (oriTable pAd).stage ((oriTable pAd).slotOf key) ≠ .done) :
    (oriTable pAd).flag key = false := by
  apply Bool.eq_false_of_not_eq_true
  rw [invariant.consistent.flagged key]
  exact undone

theorem OriInvariant.atRest_update {pAd : RtmpAdapter} (invariant : OriInvariant pAd) (idx : BaIdx)
    {stage : OriBAStatus} (settled : stage ≠ .used) (other : BaIdx) :
    Function.update (oriTable pAd).stage idx stage other ≠ .used :=
  (Function.forall_update_iff _ fun _ stage => stage ≠ OriBAStatus.used).2
    ⟨settled, fun other _ => invariant.atRest other⟩ other

@[simp] theorem oriTable_setNumDoneOriginator (pAd : RtmpAdapter) (num : Nat) :
    oriTable (pAd.setNumDoneOriginator num) = oriTable pAd := rfl

@[simp] theorem oriTable_setNumAsOriginator (pAd : RtmpAdapter) (num : Nat) :
    oriTable (pAd.setNumAsOriginator num) = { oriTable pAd with used := num } := rfl

@[simp] theorem oriTable_setOriEntry (pAd : RtmpAdapter) (idx : BaIdx) (entry : BaOriEntry) :
    oriTable (pAd.setOriEntry idx entry) =
    { oriTable pAd with
      stage := Function.update (oriTable pAd).stage idx entry.oriBAStatus
      holder := Function.update (oriTable pAd).holder idx (entry.wcid, entry.tid) } := by
  apply SlotTable.ext
  · exact column_update (fun entry => entry.oriBAStatus) pAd.baOriEntry idx entry
  · exact column_update (fun entry => (entry.wcid, entry.tid)) pAd.baOriEntry idx entry
  · rfl
  · rfl
  · rfl

@[simp] theorem oriTable_array (pAd : RtmpAdapter) (wcid : Wcid) (tid : Tid) (idx : BaIdx) :
    oriTable (pAd.onStation wcid fun pEntry =>
      { pEntry with baOriWcidArray := Function.update pEntry.baOriWcidArray tid idx }) =
    { oriTable pAd with slotOf := Function.update (oriTable pAd).slotOf (wcid, tid) idx } := by
  apply SlotTable.ext
  · rfl
  · rfl
  · exact station_update (fun entry => entry.baOriWcidArray) pAd.content wcid tid idx _ rfl
  · exact station_same (fun entry tid => entry.txBAbitmap.getLsbD tid.val) pAd.content wcid _ rfl
  · rfl

@[simp] theorem oriTable_clearBit (pAd : RtmpAdapter) (wcid : Wcid) (tid : Tid) :
    oriTable (pAd.onStation wcid fun pEntry =>
      { pEntry with txBAbitmap := pEntry.txBAbitmap &&& ~~~tidBit tid }) =
    { oriTable pAd with flag := Function.update (oriTable pAd).flag (wcid, tid) false } := by
  apply SlotTable.ext
  · rfl
  · rfl
  · exact station_same (fun entry => entry.baOriWcidArray) pAd.content wcid _ rfl
  · exact station_update (fun entry tid => entry.txBAbitmap.getLsbD tid.val) pAd.content wcid tid
      false _ (clearBit_update _ tid)
  · rfl

@[simp] theorem oriTable_setBit (pAd : RtmpAdapter) (wcid : Wcid) (tid : Tid) :
    oriTable (pAd.onStation wcid fun pEntry =>
      { pEntry with txBAbitmap := pEntry.txBAbitmap ||| tidBit tid }) =
    { oriTable pAd with flag := Function.update (oriTable pAd).flag (wcid, tid) true } := by
  apply SlotTable.ext
  · rfl
  · rfl
  · exact station_same (fun entry => entry.baOriWcidArray) pAd.content wcid _ rfl
  · exact station_update (fun entry tid => entry.txBAbitmap.getLsbD tid.val) pAd.content wcid tid
      true _ (setBit_update _ tid)
  · rfl

@[simp] theorem recTable_setOriEntry (pAd : RtmpAdapter) (idx : BaIdx) (entry : BaOriEntry) :
    recTable (pAd.setOriEntry idx entry) = recTable pAd := rfl

@[simp] theorem recTable_setNumAsOriginator (pAd : RtmpAdapter) (num : Nat) :
    recTable (pAd.setNumAsOriginator num) = recTable pAd := rfl

@[simp] theorem recTable_setNumDoneOriginator (pAd : RtmpAdapter) (num : Nat) :
    recTable (pAd.setNumDoneOriginator num) = recTable pAd := rfl

theorem baTableFreeOriEntry_table {pAd : RtmpAdapter} (invariant : OriInvariant pAd) {idx : BaIdx}
    (taken : (oriTable pAd).stage idx ≠ .none) :
    oriTable (baTableFreeOriEntry pAd idx) = (oriTable pAd).release 0 .none idx := by
  have inside : idx ≠ 0 := by
    rintro rfl
    exact taken invariant.consistent.reserved
  have status : (pAd.baOriEntry idx).oriBAStatus ≠ .none := taken
  have held : ((pAd.baOriEntry idx).wcid, (pAd.baOriEntry idx).tid) = (oriTable pAd).holder idx := rfl
  unfold baTableFreeOriEntry
  dsimp only
  rw [if_neg inside, if_pos status]
  have count (pAd : RtmpAdapter) : pAd.numAsOriginator = (oriTable pAd).used := rfl
  split_ifs with done
  · simp only [count, oriTable_setOriEntry, oriTable_setNumAsOriginator, oriTable_assert,
      oriTable_clearBit, oriTable_setNumDoneOriginator, oriTable_array, held, SlotTable.release,
      Function.update_eq_self]
  · have down := invariant.bitDown ((oriTable pAd).holder idx)
      (by rw [invariant.consistent.slotOf_holder taken]; exact done)
    have unflagged : Function.update (oriTable pAd).flag ((oriTable pAd).holder idx) false =
        (oriTable pAd).flag := by
      rw [← down]
      exact Function.update_eq_self _ _
    simp only [count, oriTable_setOriEntry, oriTable_setNumAsOriginator, oriTable_assert,
      oriTable_array, held, SlotTable.release, Function.update_eq_self, unflagged]

theorem baTableFreeOriEntry_done (pAd : RtmpAdapter) {idx : BaIdx} (inside : idx ≠ 0)
    (taken : (pAd.baOriEntry idx).oriBAStatus ≠ .none) :
    (baTableFreeOriEntry pAd idx).numDoneOriginator =
      pAd.numDoneOriginator - if (pAd.baOriEntry idx).oriBAStatus = .done then 1 else 0 := by
  unfold baTableFreeOriEntry
  dsimp only
  rw [if_neg inside, if_pos taken]
  split_ifs with done
  · exact assert_numDoneOriginator _ _
  · exact assert_numDoneOriginator _ _

theorem OriInvariant.freeOriEntry {pAd : RtmpAdapter} (invariant : OriInvariant pAd) (idx : BaIdx) :
    OriInvariant (baTableFreeOriEntry pAd idx) := by
  by_cases taken : (oriTable pAd).stage idx = .none
  · have status : (pAd.baOriEntry idx).oriBAStatus = .none := taken
    have idle : baTableFreeOriEntry pAd idx = pAd := by
      unfold baTableFreeOriEntry
      simp [status]
    rw [idle]
    exact invariant
  · have inside : idx ≠ 0 := by
      rintro rfl
      exact taken invariant.consistent.reserved
    have table := baTableFreeOriEntry_table invariant taken
    constructor
    · rw [table]
      exact invariant.consistent.release (by decide) taken
    · rw [table]
      exact invariant.atRest_update _ (by decide)
    · have change := tally_update (oriTable pAd).stage (fun stage => decide (stage = .done)) idx .none
      rw [baTableFreeOriEntry_done pAd inside taken, table, invariant.done]
      simp only [reduceCtorEq, decide_false, Bool.false_eq_true, ↓reduceIte, decide_eq_true_eq,
        add_zero] at change
      exact Nat.sub_eq_of_eq_add change.symm

theorem sameReceive_freeOriEntry (pAd : RtmpAdapter) (idx : BaIdx) :
    SameReceive pAd (baTableFreeOriEntry pAd idx) := by
  unfold baTableFreeOriEntry
  dsimp only
  split_ifs
  · exact .refl pAd
  · refine ⟨by simp [recTable_onStation], ?_⟩
    apply KeepsLists.setOriEntry
    apply KeepsLists.setNumAsOriginator
    apply KeepsLists.assert
    apply KeepsLists.onStation
    apply KeepsLists.setNumDoneOriginator
    apply KeepsLists.onStation
    exact .refl pAd
  · refine ⟨by simp [recTable_onStation], ?_⟩
    apply KeepsLists.setOriEntry
    apply KeepsLists.setNumAsOriginator
    apply KeepsLists.assert
    apply KeepsLists.onStation
    exact .refl pAd
  · exact .refl pAd

theorem baTableAllocOriEntry_cases {pAd : RtmpAdapter} (invariant : OriInvariant pAd) (idx : BaIdx) :
    ((∀ other, other ≠ 0 → (pAd.baOriEntry other).oriBAStatus ≠ .none) ∧
      baTableAllocOriEntry pAd idx = (none, idx, pAd)) ∨
    ∃ found, found ≠ 0 ∧ (pAd.baOriEntry found).oriBAStatus = .none ∧
      baTableAllocOriEntry pAd idx = (some found, found,
        (pAd.setNumAsOriginator (pAd.numAsOriginator + 1)).setOriEntry found
          { pAd.baOriEntry found with oriBAStatus := .used }) := by
  unfold baTableAllocOriEntry
  rcases firstFree_cases invariant.consistent with ⟨full, taken⟩ | ⟨room, found, inside, free, first⟩
  · exact Or.inl ⟨taken, if_pos full⟩
  · refine Or.inr ⟨found, inside, free, ?_⟩
    simp only [oriTable] at room first
    rw [if_neg room, first]

/-- What `BAOriSessionSetUp` does to a consistent table: nothing, or it takes a free entry. -/
theorem baOriSessionSetUp_cases {pAd : RtmpAdapter} (invariant : OriInvariant pAd) (pEntry : Wcid)
    (tid : Tid) (isForced fixedTxModeHT : Bool) :
    baOriSessionSetUp pAd pEntry tid isForced fixedTxModeHT = pAd ∨
    ∃ found, found ≠ 0 ∧ (oriTable pAd).stage found = .none ∧
      (oriTable pAd).slotOf (pEntry, tid) = 0 ∧
      baOriSessionSetUp pAd pEntry tid isForced fixedTxModeHT =
        (((pAd.setNumAsOriginator (pAd.numAsOriginator + 1)).setOriEntry found
          { pAd.baOriEntry found with oriBAStatus := .used }).onStation pEntry fun station =>
            { station with
              baOriWcidArray := Function.update station.baOriWcidArray tid found }).setOriEntry found
          ⟨pEntry, tid, 1, .waitRes⟩ := by
  unfold baOriSessionSetUp
  by_cases off : (!pAd.autoBA && !isForced) = true
  · exact Or.inl (if_pos off)
  rw [if_neg off]
  by_cases legacy : (!fixedTxModeHT) = true
  · exact Or.inl (if_pos legacy)
  rw [if_neg legacy]
  dsimp only
  by_cases absent : (pAd.content pEntry).baOriWcidArray tid = 0
  · rw [if_pos absent]
    rcases baTableAllocOriEntry_cases invariant ((pAd.content pEntry).baOriWcidArray tid) with
      ⟨-, allocated⟩ | ⟨found, inside, free, allocated⟩
    · rw [allocated]
      exact Or.inl rfl
    · rw [allocated]
      refine Or.inr ⟨found, inside, free, absent, ?_⟩
      simp [RtmpAdapter.setOriEntry]
  · rw [if_neg absent]
    left
    have known : (oriTable pAd).slotOf (pEntry, tid) ≠ 0 := absent
    have taken := (invariant.consistent.taken known).1
    have rest := invariant.atRest ((oriTable pAd).slotOf (pEntry, tid))
    apply if_pos
    simp only [oriTable] at taken rest ⊢
    cases status : (pAd.baOriEntry ((pAd.content pEntry).baOriWcidArray tid)).oriBAStatus with
    | none => exact absurd status taken
    | used => exact absurd status rest
    | waitRes => exact Or.inl rfl
    | done => exact Or.inr rfl

theorem OriInvariant.oriSessionSetUp {pAd : RtmpAdapter} (invariant : OriInvariant pAd)
    (pEntry : Wcid) (tid : Tid) (isForced fixedTxModeHT : Bool) :
    OriInvariant (baOriSessionSetUp pAd pEntry tid isForced fixedTxModeHT) := by
  rcases baOriSessionSetUp_cases invariant pEntry tid isForced fixedTxModeHT with
    same | ⟨found, inside, free, absent, assigned⟩
  · rw [same]
    exact invariant
  · have down := invariant.bitDown (pEntry, tid)
      (by rw [absent, invariant.consistent.reserved]; decide)
    have table : oriTable (baOriSessionSetUp pAd pEntry tid isForced fixedTxModeHT) =
        (oriTable pAd).assign found (pEntry, tid) .waitRes false := by
      have unflagged : Function.update (oriTable pAd).flag (pEntry, tid) false =
          (oriTable pAd).flag := by
        rw [← down]
        exact Function.update_eq_self _ _
      rw [assigned]
      simp only [oriTable_setOriEntry, oriTable_array, oriTable_setNumAsOriginator,
        Function.update_idem, SlotTable.assign, unflagged]
      rfl
    constructor
    · rw [table]
      exact invariant.consistent.assign inside free absent (by decide) (by decide)
    · rw [table]
      exact invariant.atRest_update _ (by decide)
    · have change := tally_update (oriTable pAd).stage (fun stage => decide (stage = .done)) found
        .waitRes
      have num : (baOriSessionSetUp pAd pEntry tid isForced fixedTxModeHT).numDoneOriginator =
          pAd.numDoneOriginator := by
        rw [assigned]
        rfl
      rw [num, table, invariant.done]
      simpa [SlotTable.assign, free] using change.symm

theorem sameReceive_oriSessionSetUp {pAd : RtmpAdapter} (invariant : OriInvariant pAd)
    (pEntry : Wcid) (tid : Tid) (isForced fixedTxModeHT : Bool) :
    SameReceive pAd (baOriSessionSetUp pAd pEntry tid isForced fixedTxModeHT) := by
  rcases baOriSessionSetUp_cases invariant pEntry tid isForced fixedTxModeHT with
    same | ⟨found, -, -, -, assigned⟩
  · rw [same]
    exact .refl pAd
  · rw [assigned]
    refine ⟨by simp [recTable_onStation], ?_⟩
    apply KeepsLists.setOriEntry
    apply KeepsLists.onStation
    apply KeepsLists.setOriEntry
    apply KeepsLists.setNumAsOriginator
    exact .refl pAd

theorem OriInvariant.oriSessionAdd {pAd : RtmpAdapter} (invariant : OriInvariant pAd)
    (pEntry : Wcid) (tid : Tid) : OriInvariant (baOriSessionAdd pAd pEntry tid) := by
  unfold baOriSessionAdd
  dsimp only
  split_ifs with waiting
  · obtain ⟨known, -, status⟩ := waiting
    have slot : (pAd.content pEntry).baOriWcidArray tid = (oriTable pAd).slotOf (pEntry, tid) := rfl
    rw [slot] at known status ⊢
    generalize found : (oriTable pAd).slotOf (pEntry, tid) = idx at known status ⊢
    have held : ((pAd.baOriEntry idx).wcid, (pAd.baOriEntry idx).tid) = (oriTable pAd).holder idx := rfl
    have table : oriTable (((pAd.setOriEntry idx
        { pAd.baOriEntry idx with oriBAStatus := .done }).setNumDoneOriginator
          (pAd.numDoneOriginator + 1)).onStation pEntry fun station =>
            { station with txBAbitmap := station.txBAbitmap ||| tidBit tid }) =
        (oriTable pAd).advance (pEntry, tid) .done true := by
      simp only [oriTable_setBit, oriTable_setNumDoneOriginator, oriTable_setOriEntry, held,
        Function.update_eq_self, SlotTable.advance, found]
    have advanced := invariant.consistent.advance (found ▸ known : (oriTable pAd).slotOf (pEntry, tid) ≠ 0)
      (by decide : OriBAStatus.done ≠ .none) (by decide : true = true ↔ OriBAStatus.done = .done)
    constructor
    · rw [table]
      exact advanced
    · rw [table]
      exact invariant.atRest_update _ (by decide)
    · have change := tally_update (oriTable pAd).stage (fun stage => decide (stage = .done)) idx .done
      have stage : (oriTable pAd).stage idx = .waitRes := status
      rw [table]
      simp only [SlotTable.advance, found]
      simp only [stage, reduceCtorEq, decide_false, Bool.false_eq_true, ↓reduceIte, decide_true,
        add_zero] at change
      rw [change, ← invariant.done]
      rfl
  · exact invariant

theorem sameReceive_oriSessionAdd (pAd : RtmpAdapter) (pEntry : Wcid) (tid : Tid) :
    SameReceive pAd (baOriSessionAdd pAd pEntry tid) := by
  unfold baOriSessionAdd
  dsimp only
  split_ifs
  · refine ⟨by simp [recTable_onStation], ?_⟩
    apply KeepsLists.onStation
    apply KeepsLists.setNumDoneOriginator
    apply KeepsLists.setOriEntry
    exact .refl pAd
  · exact .refl pAd

theorem OriInvariant.oriSessionSetupTimeout {pAd : RtmpAdapter} (invariant : OriInvariant pAd)
    (idx : BaIdx) (monitor scanning : Bool) :
    OriInvariant (baOriSessionSetupTimeout pAd idx monitor scanning) := by
  unfold baOriSessionSetupTimeout
  dsimp only
  split_ifs
  · exact invariant
  · exact invariant
  · apply invariant.same
    refine ⟨?_, rfl⟩
    have held : ((pAd.baOriEntry idx).wcid, (pAd.baOriEntry idx).tid) = (oriTable pAd).holder idx := rfl
    have status : (pAd.baOriEntry idx).oriBAStatus = (oriTable pAd).stage idx := rfl
    simp only [oriTable_setOriEntry, held, status, Function.update_eq_self]
  · exact invariant.freeOriEntry _

theorem sameReceive_oriSessionSetupTimeout (pAd : RtmpAdapter) (idx : BaIdx)
    (monitor scanning : Bool) :
    SameReceive pAd (baOriSessionSetupTimeout pAd idx monitor scanning) := by
  unfold baOriSessionSetupTimeout
  dsimp only
  split_ifs
  · exact .refl pAd
  · exact .refl pAd
  · exact ⟨rfl, (KeepsLists.refl pAd).setOriEntry _ _⟩
  · exact sameReceive_freeOriEntry pAd _

theorem OriInvariant.oriSessionTearDown {pAd : RtmpAdapter} (invariant : OriInvariant pAd)
    (wcid : BitVec 8) (tid : Tid) (bPassive elem : Bool) :
    OriInvariant (baOriSessionTearDown pAd wcid tid bPassive elem) := by
  unfold baOriSessionTearDown
  dsimp only
  split_ifs
  · exact invariant
  · exact invariant
  · exact invariant.freeOriEntry _
  · exact invariant

theorem sameReceive_oriSessionTearDown (pAd : RtmpAdapter) (wcid : BitVec 8) (tid : Tid)
    (bPassive elem : Bool) : SameReceive pAd (baOriSessionTearDown pAd wcid tid bPassive elem) := by
  unfold baOriSessionTearDown
  dsimp only
  split_ifs
  · exact .refl pAd
  · exact .refl pAd
  · exact sameReceive_freeOriEntry pAd _
  · exact .refl pAd

end Mt7612u.BlockAck
