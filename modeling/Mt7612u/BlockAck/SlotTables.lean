import Mt7612u.BlockAck.Pool

/-! The two halves of the session table as slot tables, and what the writes to the adapter
do to them. -/

namespace Mt7612u.BlockAck
open Receive
open Library.Directory

/-- The recipient sessions, each at its station and TID. -/
def recTable (pAd : RtmpAdapter) : SlotTable BaIdx (Wcid × Tid) RecBAStatus where
  stage idx := (pAd.baRecEntry idx).recBAStatus
  holder idx := ((pAd.baRecEntry idx).wcid, (pAd.baRecEntry idx).tid)
  slotOf key := (pAd.content key.1).baRecWcidArray key.2
  flag key := (pAd.content key.1).rxBAbitmap.getLsbD key.2.val
  used := pAd.numAsRecipient

/-- The originator sessions. -/
def oriTable (pAd : RtmpAdapter) : SlotTable BaIdx (Wcid × Tid) OriBAStatus where
  stage idx := (pAd.baOriEntry idx).oriBAStatus
  holder idx := ((pAd.baOriEntry idx).wcid, (pAd.baOriEntry idx).tid)
  slotOf key := (pAd.content key.1).baOriWcidArray key.2
  flag key := (pAd.content key.1).txBAbitmap.getLsbD key.2.val
  used := pAd.numAsOriginator

/-- Nothing of the receive side changed but the failed assertions in the log. -/
structure SameReceive (pAd pAd' : RtmpAdapter) : Prop where
  table : recTable pAd' = recTable pAd
  lists : KeepsLists pAd pAd'

structure SameTransmit (pAd pAd' : RtmpAdapter) : Prop where
  table : oriTable pAd' = oriTable pAd
  done : pAd'.numDoneOriginator = pAd.numDoneOriginator

theorem SameReceive.refl (pAd : RtmpAdapter) : SameReceive pAd pAd := ⟨rfl, .refl pAd⟩

theorem SameTransmit.refl (pAd : RtmpAdapter) : SameTransmit pAd pAd := ⟨rfl, rfl⟩

theorem SameTransmit.trans {pAd pAd' pAd'' : RtmpAdapter} (first : SameTransmit pAd pAd')
    (second : SameTransmit pAd' pAd'') : SameTransmit pAd pAd'' :=
  ⟨second.table.trans first.table, second.done.trans first.done⟩

theorem getLsbD_tidBit (tid other : Tid) :
    (tidBit tid).getLsbD other.val = decide (other = tid) := by
  revert tid other
  decide

theorem setBit_update (bitmap : BitVec 16) (tid : Tid) :
    (fun other : Tid => (bitmap ||| tidBit tid).getLsbD other.val) =
      Function.update (fun other : Tid => bitmap.getLsbD other.val) tid true := by
  funext other
  rw [BitVec.getLsbD_or, getLsbD_tidBit]
  by_cases same : other = tid
  · subst same
    simp
  · simp [same]

theorem clearBit_update (bitmap : BitVec 16) (tid : Tid) :
    (fun other : Tid => (bitmap &&& ~~~tidBit tid).getLsbD other.val) =
      Function.update (fun other : Tid => bitmap.getLsbD other.val) tid false := by
  funext other
  have within : other.val < 16 := Nat.lt_of_lt_of_le other.isLt (by decide)
  rw [BitVec.getLsbD_and, BitVec.getLsbD_not, getLsbD_tidBit]
  by_cases same : other = tid
  · subst same
    simp
  · simp [same, within]

/-- One column of a table under a write to one entry. -/
theorem column_update {Entry Value : Type*} (column : Entry → Value) (table : BaIdx → Entry)
    (idx : BaIdx) (entry : Entry) :
    (fun i => column (Function.update table idx entry i)) =
      Function.update (fun i => column (table i)) idx (column entry) := by
  funext i
  exact Function.apply_update (fun _ => column) table idx entry i

/-- A write to one station's value for one TID, as a write for the pair. -/
theorem station_update {Value : Type*} (field : MacTableEntry → Tid → Value)
    (content : Wcid → MacTableEntry) (wcid : Wcid) (tid : Tid) (value : Value)
    (entry : MacTableEntry)
    (written : field entry = Function.update (field (content wcid)) tid value) :
    (fun key : Wcid × Tid => field (Function.update content wcid entry key.1) key.2) =
      Function.update (fun key : Wcid × Tid => field (content key.1) key.2) (wcid, tid) value := by
  funext ⟨other, tid'⟩
  by_cases same : other = wcid
  · subst same
    by_cases hit : tid' = tid
    · subst hit
      simp [written]
    · have apart : (other, tid') ≠ (other, tid) := fun equal => hit (Prod.mk.inj equal).2
      simp [written, Function.update_of_ne hit, Function.update_of_ne apart]
  · have apart : (other, tid') ≠ (wcid, tid) := fun equal => same (Prod.mk.inj equal).1
    simp [Function.update_of_ne same, Function.update_of_ne apart]

theorem station_same {Value : Type*} (field : MacTableEntry → Tid → Value)
    (content : Wcid → MacTableEntry) (wcid : Wcid) (entry : MacTableEntry)
    (kept : field entry = field (content wcid)) :
    (fun key : Wcid × Tid => field (Function.update content wcid entry key.1) key.2) =
      fun key : Wcid × Tid => field (content key.1) key.2 := by
  funext ⟨other, tid⟩
  by_cases same : other = wcid
  · subst same
    simp [kept]
  · simp [Function.update_of_ne same]

/-- The loop over the entries finds a free one if there is one. -/
theorem firstFree_some {free : BaIdx → Bool} {idx : BaIdx} (found : firstFree free = some idx) :
    idx ≠ 0 ∧ free idx = true := by
  have holds := List.find?_some found
  simpa using holds

theorem firstFree_none {free : BaIdx → Bool} (nowhere : firstFree free = none) (idx : BaIdx)
    (inside : idx ≠ 0) : free idx = false := by
  have fails := List.find?_eq_none.mp nowhere idx (List.mem_finRange idx)
  simpa [inside] using fails

/-- The counter says whether the loop of an allocator finds a free entry. -/
theorem firstFree_cases {Stage : Type*} [DecidableEq Stage]
    {d : SlotTable BaIdx (Wcid × Tid) Stage} {vacant live : Stage}
    (consistent : d.Consistent 0 vacant live) :
    (d.used ≥ maxLenOfBaTable - 1 ∧ ∀ idx, idx ≠ 0 → d.stage idx ≠ vacant) ∨
    (¬d.used ≥ maxLenOfBaTable - 1 ∧ ∃ found, found ≠ 0 ∧ d.stage found = vacant ∧
      firstFree (fun idx => d.stage idx == vacant) = some found) := by
  have size : Fintype.card BaIdx = maxLenOfBaTable := Fintype.card_fin _
  have room := consistent.exists_free
  rw [size] at room
  by_cases full : d.used ≥ maxLenOfBaTable - 1
  · refine Or.inl ⟨full, fun idx inside free => ?_⟩
    exact absurd (room.1 ⟨idx, inside, free⟩) (not_lt.mpr full)
  · refine Or.inr ⟨full, ?_⟩
    obtain ⟨free, inside, vacant⟩ := room.2 (not_le.mp full)
    cases found : firstFree fun idx => d.stage idx == _ with
    | none =>
      have missed := firstFree_none found free inside
      simp [vacant] at missed
    | some first =>
      obtain ⟨real, holds⟩ := firstFree_some found
      exact ⟨first, real, by simpa using holds, rfl⟩

theorem recTable_onStation (pAd : RtmpAdapter) (wcid : Wcid) (act : MacTableEntry → MacTableEntry)
    (array : (act (pAd.content wcid)).baRecWcidArray = (pAd.content wcid).baRecWcidArray)
    (bitmap : (act (pAd.content wcid)).rxBAbitmap = (pAd.content wcid).rxBAbitmap) :
    recTable (pAd.onStation wcid act) = recTable pAd := by
  apply SlotTable.ext
  · rfl
  · rfl
  · exact station_same (fun entry => entry.baRecWcidArray) pAd.content wcid _ array
  · apply station_same (fun entry tid => entry.rxBAbitmap.getLsbD tid.val) pAd.content wcid
    rw [bitmap]
  · rfl

theorem oriTable_onStation (pAd : RtmpAdapter) (wcid : Wcid) (act : MacTableEntry → MacTableEntry)
    (array : (act (pAd.content wcid)).baOriWcidArray = (pAd.content wcid).baOriWcidArray)
    (bitmap : (act (pAd.content wcid)).txBAbitmap = (pAd.content wcid).txBAbitmap) :
    oriTable (pAd.onStation wcid act) = oriTable pAd := by
  apply SlotTable.ext
  · rfl
  · rfl
  · exact station_same (fun entry => entry.baOriWcidArray) pAd.content wcid _ array
  · apply station_same (fun entry tid => entry.txBAbitmap.getLsbD tid.val) pAd.content wcid
    rw [bitmap]
  · rfl

@[simp] theorem oriTable_assert (pAd : RtmpAdapter) (holds : Bool) :
    oriTable (pAd.assert holds) = oriTable pAd := by
  cases holds <;> rfl

@[simp] theorem recTable_assert (pAd : RtmpAdapter) (holds : Bool) :
    recTable (pAd.assert holds) = recTable pAd := by
  cases holds <;> rfl

@[simp] theorem assert_numDoneOriginator (pAd : RtmpAdapter) (holds : Bool) :
    (pAd.assert holds).numDoneOriginator = pAd.numDoneOriginator := by
  cases holds <;> rfl

end Mt7612u.BlockAck
