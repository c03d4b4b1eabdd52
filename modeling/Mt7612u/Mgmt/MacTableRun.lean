import Mt7612u.Mgmt.MacTable

/-! What every run of calls keeps of the MAC table: the hash chains hold the valid entries, each
once and in the bucket of its address, and `Size` counts them. -/

namespace Mt7612u.Mgmt
open Library.HashChains Library.Directory Library.Run
open BlockAck (Wcid maxLenOfMacTable)

/-- `MCAST_WCID`. -/
def mcastWcid : Wcid := ⟨0, BlockAck.maxLenOfMacTable_pos⟩

namespace MacTable

/-- The abstract table: which station an index stands for. -/
def station (t : MacTable) (wcid : Wcid) : Option MacAddr :=
  if t.Valid wcid then some (t.addr wcid) else none

structure Consistent (t : MacTable) : Prop where
  reserved : ¬t.Valid mcastWcid
  linked : Linked t.hash t.pNext t.bucket t.Valid
  counted : t.size.toNat = tally (fun wcid => (t.content wcid).entryType) fun type => type != .none

/-- No two valid entries have the same address. -/
def Distinct (t : MacTable) : Prop :=
  ∀ one other pAddr, t.station one = some pAddr → t.station other = some pAddr → one = other

theorem station_eq_some {t : MacTable} {wcid : Wcid} {pAddr : MacAddr} :
    t.station wcid = some pAddr ↔ t.Valid wcid ∧ t.addr wcid = pAddr := by
  unfold station
  split
  next valid => simp [valid]
  next vacant => simp [vacant]

theorem Distinct.mono {t after : MacTable} (distinct : t.Distinct)
    (fewer : ∀ wcid, after.station wcid = t.station wcid ∨ after.station wcid = none) :
    after.Distinct := by
  intro one other pAddr first second
  apply distinct one other pAddr
  · rcases fewer one with same | none
    · rw [← same, first]
    · rw [none] at first
      cases first
  · rcases fewer other with same | none
    · rw [← same, second]
    · rw [none] at second
      cases second

/-- Only links have changed. -/
structure Relinked (t after : MacTable) : Prop where
  entryType : ∀ wcid, (after.content wcid).entryType = (t.content wcid).entryType
  addr : ∀ wcid, after.addr wcid = t.addr wcid
  size : after.size = t.size

theorem Relinked.valid {t after : MacTable} (relinked : Relinked t after) (wcid : Wcid) :
    after.Valid wcid ↔ t.Valid wcid := by
  rw [Valid, Valid, relinked.entryType]

theorem Relinked.station {t after : MacTable} (relinked : Relinked t after) :
    after.station = t.station := by
  funext wcid
  unfold MacTable.station
  rw [relinked.addr wcid]
  exact if_congr (relinked.valid wcid) rfl rfl

theorem relinked_setHash (t : MacTable) (index : BitVec 8) (head : Option Wcid) :
    Relinked t (t.setHash index head) := ⟨fun _ => rfl, fun _ => rfl, rfl⟩

theorem setPNext_content (t : MacTable) (wcid other : Wcid) (next : Option Wcid) :
    ((t.setPNext wcid next).content other).entryType = (t.content other).entryType ∧
      (t.setPNext wcid next).addr other = t.addr other := by
  unfold setPNext setEntry addr
  by_cases same : other = wcid
  · subst same
    simp only [Function.update_self, and_self]
  · simp only [Function.update_of_ne same, and_self]

theorem relinked_setPNext (t : MacTable) (wcid : Wcid) (next : Option Wcid) :
    Relinked t (t.setPNext wcid next) :=
  ⟨fun other => (t.setPNext_content wcid other next).1,
    fun other => (t.setPNext_content wcid other next).2, rfl⟩

theorem pNext_setPNext (t : MacTable) (wcid : Wcid) (next : Option Wcid) :
    (t.setPNext wcid next).pNext = Function.update t.pNext wcid next := by
  funext other
  unfold setPNext setEntry pNext
  by_cases same : other = wcid
  · subst same
    simp only [Function.update_self]
  · simp only [Function.update_of_ne same]

theorem Relinked.bucket {t after : MacTable} (relinked : Relinked t after) :
    after.bucket = t.bucket := by
  funext wcid
  rw [MacTable.bucket, MacTable.bucket, relinked.addr]

end MacTable

open MacTable

/-- A chain is no longer than the table. -/
theorem length_lt_walkFuel {next : Wcid → Option Wcid} {head : Option Wcid} {nodes : List Wcid}
    (chain : Chain next head nodes) : nodes.length < walkFuel := by
  have bound := chain.nodup.length_le_card
  rw [Fintype.card_fin] at bound
  exact Nat.lt_succ_of_le bound

theorem linkEntry_linked {t : MacTable} {i : Wcid} {valid : Wcid → Prop}
    (linked : Linked t.hash t.pNext t.bucket valid) (fresh : ¬valid i) (ends : t.pNext i = none) :
    ∃ after, linkEntry t i (t.addr i) = some after ∧ Relinked t after ∧
      Linked after.hash after.pNext after.bucket fun wcid => valid wcid ∨ wcid = i := by
  unfold linkEntry
  cases head : t.hash (macAddrHashIndex (t.addr i)) with
  | none =>
    refine ⟨_, rfl, relinked_setHash t _ _, ?_⟩
    exact linked.link_empty ends head
  | some first =>
    have start : t.hash (t.bucket i) = some first := head
    obtain ⟨front, last, chain, members⟩ := linked.exists_last start
    have walk := follow_eq (fun pCurrEntry => (t.pNext pCurrEntry).isNone) chain
      (length_lt_walkFuel chain)
    rw [chain.find_last, bucket, head] at walk
    simp only [walk]
    refine ⟨_, rfl, relinked_setPNext t _ _, ?_⟩
    rw [pNext_setPNext, (relinked_setPNext t last (some i)).bucket]
    exact linked.link_last fresh ends chain members

theorem unlinkEntry_linked {t : MacTable} {wcid : Wcid} {valid : Wcid → Prop}
    (linked : Linked t.hash t.pNext t.bucket valid) (known : valid wcid) :
    ∃ after, unlinkEntry t wcid (t.addr wcid) = some after ∧ Relinked t after ∧
      Linked after.hash after.pNext after.bucket fun other => valid other ∧ other ≠ wcid := by
  obtain ⟨front, back, chain, members⟩ := linked.exists_split known
  have search := findPrevious_eq chain (length_lt_walkFuel chain) none
  unfold unlinkEntry
  rw [show macAddrHashIndex (t.addr wcid) = t.bucket wcid from rfl, search]
  rcases List.eq_nil_or_concat front with rfl | ⟨front, previous, rfl⟩
  · refine ⟨_, rfl, relinked_setHash t _ _, ?_⟩
    exact linked.unlink_first chain members
  · rw [List.concat_eq_append] at chain members ⊢
    rw [List.getLast?_concat, Option.some_or]
    refine ⟨_, rfl, relinked_setPNext t _ _, ?_⟩
    rw [pNext_setPNext, (relinked_setPNext t previous _).bucket]
    exact linked.unlink_behind chain members

/-- The count when one entry changes its type. -/
theorem tally_setEntry (t : MacTable) (wcid : Wcid) (entry : MacTableEntry) :
    (tally (fun other => ((t.setEntry wcid entry).content other).entryType) fun type =>
        type != .none) + (if (t.content wcid).entryType != .none then 1 else 0) =
      (tally (fun other => (t.content other).entryType) fun type => type != .none) +
        if entry.entryType != .none then 1 else 0 := by
  have types : (fun other => ((t.setEntry wcid entry).content other).entryType) =
      Function.update (fun other => (t.content other).entryType) wcid entry.entryType := by
    funext other
    unfold setEntry
    by_cases same : other = wcid
    · subst same
      simp only [Function.update_self]
    · simp only [Function.update_of_ne same]
  rw [types]
  exact tally_update _ (fun type : EntryType => type != .none) wcid entry.entryType

/-- The count sees only the types of the entries. -/
theorem MacTable.Relinked.tally_eq {t after : MacTable} (relinked : Relinked t after) :
    (tally (fun wcid => (after.content wcid).entryType) fun type => type != .none) =
      tally (fun wcid => (t.content wcid).entryType) fun type => type != .none := by
  apply congrArg (tally · _)
  funext wcid
  exact relinked.entryType wcid

theorem pNext_setEntry_of_ne (t : MacTable) {wcid other : Wcid} (entry : MacTableEntry)
    (different : other ≠ wcid) :
    (t.setEntry wcid entry).pNext other = t.pNext other ∧
      (t.setEntry wcid entry).addr other = t.addr other ∧
      ((t.setEntry wcid entry).Valid other ↔ t.Valid other) := by
  simp only [setEntry, pNext, addr, Valid, Function.update_of_ne different, and_self]

theorem station_setEntry (t : MacTable) (wcid : Wcid) (entry : MacTableEntry) :
    (t.setEntry wcid entry).station = Function.update t.station wcid
      (if entry.entryType ≠ .none then some entry.addr else none) := by
  funext other
  by_cases same : other = wcid
  · subst same
    simp only [Function.update_self, station, setEntry, Valid, addr]
  · obtain ⟨-, address, valid⟩ := pNext_setEntry_of_ne t entry same
    rw [Function.update_of_ne same, station, station, address]
    exact if_congr valid rfl rfl

/-- A vacant entry may be written: no chain goes through it. -/
theorem MacTable.Consistent.linked_setEntry {t : MacTable} (consistent : t.Consistent) {i : Wcid}
    (vacant : ¬t.Valid i) (entry : MacTableEntry) :
    Linked (t.setEntry i entry).hash (t.setEntry i entry).pNext (t.setEntry i entry).bucket
      t.Valid := by
  have different : ∀ wcid, t.Valid wcid → wcid ≠ i := by
    rintro wcid valid rfl
    exact vacant valid
  apply consistent.linked.congr
  · intro wcid valid
    exact (pNext_setEntry_of_ne t entry (different wcid valid)).1
  · intro wcid valid
    rw [bucket, bucket, (pNext_setEntry_of_ne t entry (different wcid valid)).2.1]
  · exact fun wcid => Iff.rfl

theorem vacancy_some {pAd : Setting} {t : MacTable} {i : Wcid} (found : vacancy pAd t = some i) :
    ¬t.Valid i ∧ i ≠ mcastWcid := by
  have test := List.find?_some found
  rw [Bool.and_eq_true, decide_eq_true_eq, beq_iff_eq] at test
  refine ⟨fun valid => valid test.2, ?_⟩
  rintro rfl
  have first : 1 ≤ firstWcid pAd := by
    unfold firstWcid
    split <;> omega
  exact absurd (first.trans test.1) (by decide)

theorem allocEntry_fields (pAd : Setting) (t : MacTable) (i : Wcid) (pAddr : MacAddr)
    (apidx : BitVec 8) :
    (allocEntry pAd t i pAddr apidx).hash = t.hash ∧
      (allocEntry pAd t i pAddr apidx).content =
        (t.setEntry i ⟨.client, pAddr, none, apidx⟩).content ∧
      (allocEntry pAd t i pAddr apidx).size = t.size + 1 := by
  unfold allocEntry
  by_cases ap : pAd.opMode = .ap
  · simp only [if_pos ap]
    exact ⟨rfl, rfl, rfl⟩
  · simp only [if_neg ap]
    exact ⟨rfl, rfl, rfl⟩

theorem allocEntry_linkEntry {pAd : Setting} {t : MacTable} (consistent : t.Consistent) {i : Wcid}
    (room : t.size.toNat < maxLenOfMacTable) (vacant : ¬t.Valid i) (inside : i ≠ mcastWcid)
    (pAddr : MacAddr) (apidx : BitVec 8) :
    ∃ after, linkEntry (allocEntry pAd t i pAddr apidx) i pAddr = some after ∧
      after.Consistent ∧ after.station = Function.update t.station i (some pAddr) := by
  obtain ⟨hash, content, size⟩ := allocEntry_fields pAd t i pAddr apidx
  generalize allocEntry pAd t i pAddr apidx = grown at hash content size ⊢
  obtain ⟨growing, growingContent, growingSize, staCount⟩ := grown
  subst hash content size
  have linked := consistent.linked_setEntry vacant ⟨.client, pAddr, none, apidx⟩
  have own : (t.setEntry i ⟨.client, pAddr, none, apidx⟩).content i =
      ⟨.client, pAddr, none, apidx⟩ := Function.update_self (f := t.content) i _
  have ends : (t.setEntry i ⟨.client, pAddr, none, apidx⟩).pNext i = none := by rw [pNext, own]
  have address : (t.setEntry i ⟨.client, pAddr, none, apidx⟩).addr i = pAddr := by
    rw [addr, own]
  obtain ⟨after, linkedTo, relinked, chains⟩ := linkEntry_linked
    (t := ⟨t.hash, (t.setEntry i ⟨.client, pAddr, none, apidx⟩).content, t.size + 1, staCount⟩)
    linked vacant ends
  have valid : ∀ wcid, after.Valid wcid ↔ t.Valid wcid ∨ wcid = i := by
    intro wcid
    apply (relinked.valid wcid).trans
    by_cases same : wcid = i
    · subst same
      change ((t.setEntry wcid _).content wcid).entryType ≠ .none ↔ _
      rw [own]
      simp
    · rw [or_iff_left same]
      exact (pNext_setEntry_of_ne t _ same).2.2
  refine ⟨after, ?_, ⟨?_, ?_, ?_⟩, ?_⟩
  · exact (congrArg _ address.symm).trans linkedTo
  · rw [valid]
    rintro (taken | same)
    · exact consistent.reserved taken
    · exact inside same.symm
  · exact chains.congr (fun _ _ => rfl) (fun _ _ => rfl) valid
  · have change := tally_setEntry t i ⟨.client, pAddr, none, apidx⟩
    rw [not_not.mp vacant, ← consistent.counted] at change
    have counts : (t.size + 1).toNat = t.size.toNat + 1 := by
      have limit : maxLenOfMacTable = 116 := rfl
      bv_omega
    have one : (if EntryType.client != .none then 1 else 0) = 1 := rfl
    simp only [bne_self_eq_false, Bool.false_eq_true, ↓reduceIte, Nat.add_zero, one] at change
    rw [relinked.size, relinked.tally_eq, counts]
    exact change.symm
  · rw [relinked.station]
    exact station_setEntry t i _

/-- What an insertion does: nothing, or one vacant index now stands for the address. -/
theorem insertEntry_consistent {t : MacTable} (consistent : t.Consistent) (pAd : Setting)
    (pAddr : MacAddr) (apidx : BitVec 8) :
    ∃ found after, macTableInsertEntry pAd t pAddr apidx = some (found, after) ∧
      after.Consistent ∧
      (found = none ∧ after.station = t.station ∨
        ∃ i, found = some i ∧ t.station i = none ∧
          after.station = Function.update t.station i (some pAddr)) := by
  unfold macTableInsertEntry
  by_cases full : maxLenOfMacTable ≤ t.size.toNat
  · rw [if_pos full]
    exact ⟨none, t, rfl, consistent, Or.inl ⟨rfl, rfl⟩⟩
  rw [if_neg full]
  cases found : vacancy pAd t with
  | none => exact ⟨none, t, rfl, consistent, Or.inl ⟨rfl, rfl⟩⟩
  | some i =>
    obtain ⟨vacant, inside⟩ := vacancy_some found
    have unknown : t.station i = none := if_neg vacant
    by_cases limit : bssFull pAd t apidx = true
    · simp only [if_pos limit]
      refine ⟨none, _, rfl, ?_, Or.inl ⟨rfl, ?_⟩⟩
      · have valid : ∀ wcid, (t.setEntry i clearedEntry).Valid wcid ↔ t.Valid wcid := by
          intro wcid
          by_cases same : wcid = i
          · subst same
            simp [Valid, setEntry, clearedEntry, not_not.mp vacant]
          · exact (pNext_setEntry_of_ne t clearedEntry same).2.2
        refine ⟨?_, ?_, ?_⟩
        · rw [valid]
          exact consistent.reserved
        · exact (consistent.linked_setEntry vacant clearedEntry).congr (fun _ _ => rfl)
            (fun _ _ => rfl) valid
        · have change := tally_setEntry t i clearedEntry
          rw [not_not.mp vacant, ← consistent.counted] at change
          exact (Nat.add_right_cancel change).symm
      · rw [station_setEntry, ← unknown]
        exact Function.update_eq_self i t.station
    · simp only [if_neg limit]
      obtain ⟨after, done, kept, stations⟩ :=
        @allocEntry_linkEntry pAd t consistent i (not_le.mp full) vacant inside pAddr apidx
      rw [done]
      exact ⟨some i, after, rfl, kept, Or.inr ⟨i, rfl, unknown, stations⟩⟩

theorem discountEntry_fields (t : MacTable) (wcid : Wcid) :
    (discountEntry t wcid).hash = t.hash ∧ (discountEntry t wcid).content = t.content ∧
      (discountEntry t wcid).size = t.size := by
  unfold discountEntry
  split
  next => exact ⟨rfl, rfl, rfl⟩
  next => exact ⟨rfl, rfl, rfl⟩

theorem unlinkEntry_discountEntry {t : MacTable} (consistent : t.Consistent) {wcid : Wcid}
    (known : t.Valid wcid) :
    ∃ after, unlinkEntry (discountEntry t wcid) wcid (t.addr wcid) = some after ∧
      Relinked t after ∧
      Linked after.hash after.pNext after.bucket fun other => t.Valid other ∧ other ≠ wcid := by
  obtain ⟨hash, content, size⟩ := discountEntry_fields t wcid
  generalize discountEntry t wcid = discounted at hash content size ⊢
  obtain ⟨fewer, fewerContent, fewerSize, staCount⟩ := discounted
  subst hash content size
  obtain ⟨after, done, relinked, chains⟩ := unlinkEntry_linked
    (t := ⟨t.hash, t.content, t.size, staCount⟩) consistent.linked known
  exact ⟨after, done, ⟨relinked.entryType, relinked.addr, relinked.size⟩, chains⟩

/-- What a deletion does: if the index stands for the address, it now stands for none. -/
theorem deleteEntry_consistent {t : MacTable} (consistent : t.Consistent) (wcid : Wcid)
    (pAddr : MacAddr) :
    ∃ after, deleteEntry t wcid pAddr = some after ∧ after.Consistent ∧
      after.station =
        if t.station wcid = some pAddr then Function.update t.station wcid none
        else t.station := by
  have test : ((t.content wcid).entryType ≠ .none ∧ t.addr wcid = pAddr) ↔
      t.station wcid = some pAddr := station_eq_some.symm
  unfold deleteEntry
  by_cases found : t.station wcid = some pAddr
  · obtain ⟨known, rfl⟩ := station_eq_some.mp found
    obtain ⟨unlinked, done, relinked, chains⟩ := unlinkEntry_discountEntry consistent known
    rw [if_pos (test.mpr found), if_pos found, done]
    have valid : ∀ other, (invalidateEntry unlinked wcid).Valid other ↔
        t.Valid other ∧ other ≠ wcid := by
      intro other
      by_cases same : other = wcid
      · subst same
        simp [invalidateEntry, Valid, setSize, setEntry]
      · rw [and_iff_left same, ← relinked.valid]
        exact (pNext_setEntry_of_ne unlinked _ same).2.2
    refine ⟨_, rfl, ⟨?_, ?_, ?_⟩, ?_⟩
    · rw [valid]
      exact fun taken => consistent.reserved taken.1
    · apply chains.congr _ _ valid
      · intro other rest
        exact (pNext_setEntry_of_ne unlinked _ rest.2).1
      · intro other rest
        exact congrArg macAddrHashIndex (pNext_setEntry_of_ne unlinked _ rest.2).2.1
    · have change := tally_setEntry unlinked wcid
        { unlinked.content wcid with addr := fun _ => 0, entryType := .none }
      have one : (if (t.content wcid).entryType != .none then 1 else 0) = 1 :=
        if_pos (bne_iff_ne.mpr known)
      rw [relinked.entryType, one, relinked.tally_eq, ← consistent.counted] at change
      simp only [bne_self_eq_false, Bool.false_eq_true, ↓reduceIte, Nat.add_zero] at change
      have counts : (unlinked.size - 1).toNat + 1 = t.size.toNat := by
        rw [relinked.size]
        bv_omega
      exact Nat.add_right_cancel (counts.trans change.symm)
    · have stations := station_setEntry unlinked wcid
        { unlinked.content wcid with addr := fun _ => 0, entryType := .none }
      rw [relinked.station] at stations
      exact stations
  · rw [if_neg (fun holds => found (test.mp holds)), if_neg found]
    exact ⟨t, rfl, consistent, rfl⟩

theorem station_deleted {t after : MacTable} {wcid : Wcid} {pAddr : MacAddr}
    (stations : after.station =
      if t.station wcid = some pAddr then Function.update t.station wcid none else t.station)
    (other : Wcid) : after.station other = t.station other ∨ after.station other = none := by
  rw [stations]
  split
  next =>
    by_cases same : other = wcid
    · subst same
      exact Or.inr (Function.update_self other none t.station)
    · exact Or.inl (Function.update_of_ne same none t.station)
  next => exact Or.inl rfl

/-- The loop of `MacTableReset` takes stations out, all of them if it comes to its end. -/
theorem resetLoop_consistent {t : MacTable} (consistent : t.Consistent) (pAd : Setting)
    (associated kmalloc : Wcid → Bool) (wcids : List Wcid) :
    ∃ done after, resetLoop pAd associated kmalloc wcids t = some (done, after) ∧
      after.Consistent ∧
      (∀ wcid, after.station wcid = t.station wcid ∨ after.station wcid = none) ∧
      (done = true → ∀ wcid ∈ wcids, after.station wcid = none) := by
  induction wcids generalizing t with
  | nil =>
    exact ⟨true, t, rfl, consistent, fun wcid => Or.inl rfl,
      fun _ wcid member => absurd member List.not_mem_nil⟩
  | cons i rest ih =>
    unfold resetLoop
    split
    next => exact ⟨false, t, rfl, consistent, fun wcid => Or.inl rfl, fun left => by cases left⟩
    next =>
      obtain ⟨middle, deleted, kept, stations⟩ := deleteEntry_consistent consistent i (t.addr i)
      obtain ⟨done, after, looped, keeps, fewer, emptied⟩ := ih kept
      have gone : middle.station i = none := by
        rw [stations]
        split
        next => exact Function.update_self i none t.station
        next other =>
          by_contra taken
          obtain ⟨pAddr, found⟩ := Option.ne_none_iff_exists'.mp taken
          have address := (station_eq_some.mp found).2
          rw [address] at other
          exact other found
      rw [deleted]
      refine ⟨done, after, looped, keeps, fun wcid => ?_, fun whole wcid member => ?_⟩
      · rcases fewer wcid with same | none
        · rw [same]
          exact station_deleted stations wcid
        · exact Or.inr none
      · rcases List.mem_cons.mp member with rfl | later
        · rcases fewer wcid with same | none
          · rw [same, gone]
          · exact none
        · exact emptied whole wcid later

theorem mem_tail_or (wcid : Wcid) :
    wcid = mcastWcid ∨ wcid ∈ (List.finRange maxLenOfMacTable).tail := by
  have whole : List.finRange maxLenOfMacTable =
      mcastWcid :: (List.finRange maxLenOfMacTable).tail := by
    change List.finRange (115 + 1) = _ :: (List.finRange (115 + 1)).tail
    rw [List.finRange_succ, List.tail_cons]
    rfl
  have member := List.mem_finRange wcid
  rw [whole] at member
  exact List.mem_cons.mp member

theorem macTableReset_consistent {t : MacTable} (consistent : t.Consistent) (pAd : Setting)
    (associated kmalloc : Wcid → Bool) :
    ∃ after, macTableReset pAd associated kmalloc t = some after ∧ after.Consistent ∧
      ∀ wcid, after.station wcid = t.station wcid ∨ after.station wcid = none := by
  unfold macTableReset
  obtain ⟨done, after, looped, kept, fewer, emptied⟩ := resetLoop_consistent consistent pAd
    associated kmalloc (List.finRange maxLenOfMacTable).tail
  rw [looped]
  cases done with
  | false => exact ⟨after, rfl, kept, fewer⟩
  | true =>
    by_cases ap : pAd.opMode = .ap
    · simp only [Option.map_some, if_pos ap]
      refine ⟨_, rfl, ⟨kept.reserved, kept.linked, ?_⟩, fewer⟩
      have vacant : ∀ wcid, ¬after.Valid wcid := by
        intro wcid valid
        rcases mem_tail_or wcid with rfl | member
        · exact kept.reserved valid
        · have none := emptied rfl wcid member
          rw [station, if_pos valid] at none
          cases none
      rw [tally_eq_card]
      apply (Finset.card_eq_zero.mpr _).symm
      apply Finset.filter_eq_empty_iff.mpr
      intro wcid _ taken
      exact vacant wcid (bne_iff_ne.mp taken)
    · simp only [Option.map_some, if_neg ap]
      exact ⟨after, rfl, kept, fewer⟩

/-- `MacTableLookup` ends, and finds an entry with the address if and only if there is one. -/
theorem macTableLookup_spec {t : MacTable} (consistent : t.Consistent) (pAddr : MacAddr) :
    ∃ found, macTableLookup t pAddr = some found ∧
      (∀ wcid, found = some wcid → t.station wcid = some pAddr) ∧
      (found = none → ∀ wcid, t.station wcid ≠ some pAddr) := by
  obtain ⟨nodes, chain, members⟩ := consistent.linked (macAddrHashIndex pAddr)
  refine ⟨nodes.find? (lookupStops t pAddr), follow_eq _ chain (length_lt_walkFuel chain), ?_, ?_⟩
  · intro wcid found
    have stops := List.find?_some found
    obtain ⟨valid, -⟩ := (members wcid).mp (List.mem_of_find?_eq_some found)
    rw [lookupStops, Bool.or_eq_true, beq_iff_eq, beq_iff_eq] at stops
    exact station_eq_some.mpr ⟨valid, stops.resolve_left valid⟩
  · intro absent wcid known
    obtain ⟨valid, address⟩ := station_eq_some.mp known
    have member : wcid ∈ nodes := by
      apply (members wcid).mpr
      refine ⟨valid, ?_⟩
      rw [bucket, address]
    have passed := List.find?_eq_none.mp absent wcid member
    rw [lookupStops, Bool.or_eq_true, beq_iff_eq, beq_iff_eq] at passed
    exact passed (Or.inr address)

theorem empty_consistent : MacTable.empty.Consistent := by
  have vacant : ∀ wcid, ¬MacTable.empty.Valid wcid := fun wcid valid => valid rfl
  refine ⟨vacant _, fun bucket => ⟨[], .nil, fun wcid => ?_⟩, ?_⟩
  · constructor
    · exact fun member => absurd member List.not_mem_nil
    · exact fun holds => absurd holds.1 (vacant wcid)
  · simp [MacTable.empty, tally]

/-- An insertion is for an address that no entry has. -/
def Unknown : Option MacTable → MacTableCall → Prop
  | some t, .insertEntry _ pAddr _ => ∀ wcid, t.station wcid ≠ some pAddr
  | _, _ => True

/-- Each call returns, keeps the table consistent, and keeps the addresses distinct unless it
inserts one that is known. -/
theorem perform_consistent {t : MacTable} (consistent : t.Consistent) (call : MacTableCall) :
    ∃ after, call.perform t = some after ∧ after.Consistent ∧
      (t.Distinct → Unknown (some t) call → after.Distinct) := by
  cases call with
  | insertEntry pAd pAddr apidx =>
    obtain ⟨found, after, inserted, kept, result⟩ :=
      insertEntry_consistent consistent pAd pAddr apidx
    refine ⟨after, by rw [MacTableCall.perform, inserted]; rfl, kept, fun distinct fresh => ?_⟩
    rcases result with ⟨-, same⟩ | ⟨i, -, -, stations⟩
    · unfold Distinct
      rw [same]
      exact distinct
    · intro one other address
      rw [stations]
      by_cases first : one = i
      · by_cases second : other = i
        · exact fun _ _ => first.trans second.symm
        · subst first
          rw [Function.update_self, Function.update_of_ne second]
          rintro ⟨⟩ known
          exact absurd known (fresh other)
      · by_cases second : other = i
        · subst second
          rw [Function.update_self, Function.update_of_ne first]
          rintro known ⟨⟩
          exact absurd known (fresh one)
        · rw [Function.update_of_ne first, Function.update_of_ne second]
          exact distinct one other address
  | deleteEntry wcid pAddr =>
    unfold MacTableCall.perform macTableDeleteEntry
    by_cases known : wcid.toNat < maxLenOfMacTable
    · obtain ⟨after, deleted, kept, stations⟩ :=
        deleteEntry_consistent consistent ⟨wcid.toNat, known⟩ pAddr
      simp only [dif_pos known, deleted]
      exact ⟨after, rfl, kept, fun distinct _ => distinct.mono (station_deleted stations)⟩
    · simp only [dif_neg known]
      exact ⟨t, rfl, consistent, fun distinct _ => distinct⟩
  | reset pAd associated kmalloc =>
    obtain ⟨after, reset, kept, fewer⟩ :=
      macTableReset_consistent consistent pAd associated kmalloc
    exact ⟨after, reset, kept, fun distinct _ => distinct.mono fewer⟩

/-- The state after a run: every call has returned and the table is consistent. -/
def Returned (t : Option MacTable) : Prop := ∃ after, t = some after ∧ after.Consistent

theorem macTableStep_returned (t : Option MacTable) (call : MacTableCall) (returned : Returned t) :
    Returned (macTableStep t call) := by
  obtain ⟨before, rfl, consistent⟩ := returned
  obtain ⟨after, done, kept, -⟩ := perform_consistent consistent call
  exact ⟨after, done, kept⟩

theorem run_returned (calls : List MacTableCall) :
    Returned (run macTableStep (some MacTable.empty) calls) := by
  apply run_invariant Returned (fun t call returned _ => macTableStep_returned t call returned)
  · exact ⟨_, rfl, empty_consistent⟩
  · exact throughout_always _ calls

/-- With insertions of unknown addresses only, the addresses stay distinct. -/
theorem run_distinct (calls : List MacTableCall)
    (fresh : Throughout macTableStep Unknown (some MacTable.empty) calls) :
    ∃ t, run macTableStep (some MacTable.empty) calls = some t ∧ t.Distinct := by
  have both := run_invariant
    (fun t : Option MacTable => ∃ after, t = some after ∧ after.Consistent ∧ after.Distinct)
    ?_ ?_ calls fresh
  · obtain ⟨t, done, -, distinct⟩ := both
    exact ⟨t, done, distinct⟩
  · rintro _ call ⟨before, rfl, consistent, distinct⟩ unknown
    obtain ⟨after, done, kept, keeps⟩ := perform_consistent consistent call
    exact ⟨after, done, kept, keeps distinct unknown⟩
  · refine ⟨_, rfl, empty_consistent, ?_⟩
    intro one other pAddr known
    cases known

/-- After every run the chains end and hold the valid entries, each once and in the bucket of its
address, `Size` counts these, and `MacTableLookup` ends and finds the entries there are. If every
insertion was for an address that no valid entry had, no two of them have the same address. -/
theorem macTable_consistent (calls : List MacTableCall) :
    ∃ t, run macTableStep (some MacTable.empty) calls = some t ∧
      (∀ bucket, ∃ nodes, Chain t.pNext (t.hash bucket) nodes ∧ nodes.Nodup ∧
        ∀ wcid, wcid ∈ nodes ↔ t.Valid wcid ∧ macAddrHashIndex (t.addr wcid) = bucket) ∧
      t.size.toNat = (Finset.univ.filter t.Valid).card ∧
      (∀ pAddr, ∃ found, macTableLookup t pAddr = some found ∧
        (∀ wcid, found = some wcid → t.Valid wcid ∧ t.addr wcid = pAddr) ∧
        (found = none → ∀ wcid, ¬(t.Valid wcid ∧ t.addr wcid = pAddr))) ∧
      (Throughout macTableStep Unknown (some MacTable.empty) calls →
        ∀ one other, t.Valid one → t.Valid other → t.addr one = t.addr other → one = other) := by
  obtain ⟨t, done, consistent⟩ := run_returned calls
  refine ⟨t, done, ?_, ?_, ?_, ?_⟩
  · intro bucket
    obtain ⟨nodes, chain, members⟩ := consistent.linked bucket
    exact ⟨nodes, chain, chain.nodup, members⟩
  · rw [consistent.counted, tally_eq_card]
    apply congrArg Finset.card
    ext wcid
    simp only [Finset.mem_filter, Finset.mem_univ, true_and, bne_iff_ne, Valid]
  · intro pAddr
    obtain ⟨found, looked, finds, misses⟩ := macTableLookup_spec consistent pAddr
    refine ⟨found, looked, ?_, ?_⟩
    · exact fun wcid some => station_eq_some.mp (finds wcid some)
    · exact fun none wcid known => misses none wcid (station_eq_some.mpr known)
  · intro fresh one other first second same
    obtain ⟨again, done', distinct⟩ := run_distinct calls fresh
    obtain rfl : t = again := Option.some.inj (done.symm.trans done')
    exact distinct one other (t.addr other) (station_eq_some.mpr ⟨first, same⟩)
      (station_eq_some.mpr ⟨second, rfl⟩)

/-- An access point with one BSS and no limit on its stations. -/
def openSetting : Setting := ⟨.ap, true, 1, 8, fun _ => 0⟩

/-- One station inserted a second time. -/
def doubleInsertion : List MacTableCall :=
  [.insertEntry openSetting ![2, 0, 0, 0, 0, 1] 0, .insertEntry openSetting ![2, 0, 0, 0, 0, 1] 0]

/-- Insertion itself does not look for the address: the second one takes another entry. -/
theorem doubleInsertion_twice :
    ¬∀ calls t, run macTableStep (some MacTable.empty) calls = some t →
      ∀ one other, t.Valid one → t.Valid other → t.addr one = t.addr other → one = other := by
  intro distinct
  have view : (run macTableStep (some MacTable.empty) doubleInsertion).map
      (fun t => (t.station ⟨1, by decide⟩, t.station ⟨2, by decide⟩)) =
        some (some ![2, 0, 0, 0, 0, 1], some ![2, 0, 0, 0, 0, 1]) := by decide +kernel
  obtain ⟨t, done, stations⟩ := Option.map_eq_some_iff.mp view
  obtain ⟨first, second⟩ := Prod.mk.inj stations
  have one := station_eq_some.mp first
  have other := station_eq_some.mp second
  have same := distinct doubleInsertion t done _ _ one.1 other.1 (one.2.trans other.2.symm)
  exact absurd same (by decide)

end Mt7612u.Mgmt
