import Mt7612u.Library.Run
import Mt7612u.Mlme.BssTable

/-! Runs of the operations on a table of BSSs: the pairs of BSSID and band in the table, and the owners
of the buffers. -/

namespace Mt7612u.Mlme
open Library.Run

section Buffers

/-- A turn of the loop of `RTMPAllocAdapterBlock` over `ProbeRespIE`. -/
def allocProbeRespIe (kmalloc : Nat → Nat) (pIe : Nat → Nat) (index : Nat) :
    Option (Nat → Nat) :=
  let pIe := Function.update pIe index (kmalloc index)
  -- `RTMPZeroMemory` at NULL does not return.
  if pIe index = null then none
  else some (Function.update pIe index null)

/-- `ProbeRespIE` behind the loop; the adapter was cleared before. -/
def probeRespIe (build : TableBuild) (kmalloc : Nat → Nat) : Option (Nat → Nat) :=
  (List.range (maxLenOfBssTable build)).foldlM (allocProbeRespIe kmalloc) fun _ => null

/-- The cleared `ScanTab` once `UserCfgInit` has gone over its entries. -/
def scanTabInit (build : TableBuild) (pIe : Nat → Nat) : BssTable where
  bssNr := 0
  bssOverlapNr := 0
  bssEntry i :=
    if i < maxLenOfBssTable build then { BssEntry.zero with pVarIeFromProbRsp := pIe i }
    else BssEntry.zero

/-- Each entry has one of the allocated buffers, which no other entry has. -/
structure OwnsBuffers (build : TableBuild) (allocated : Nat → Nat) (tab : BssTable) : Prop where
  kept : ∀ i < maxLenOfBssTable build, ∃ j < maxLenOfBssTable build,
    (tab.bssEntry j).pVarIeFromProbRsp = allocated i
  unshared : ∀ i < maxLenOfBssTable build, ∀ j < maxLenOfBssTable build,
    (tab.bssEntry i).pVarIeFromProbRsp = (tab.bssEntry j).pVarIeFromProbRsp → i = j

end Buffers

inductive TableEvent where
  | init
  | set (request : SetRequest)
  | delete (bssid : List UInt8) (channel : UInt8)

def tableStep (build : TableBuild) (state : BssTable × Heap) : TableEvent → BssTable × Heap
  | .init => bssTableInit build state.1 state.2
  | .set request => ((bssTableSetEntry build state.1 request).1, state.2)
  | .delete bssid channel => bssTableDeleteEntry state.1 state.2 bssid channel

/-- The table is full, and the BSS that is not in it is looked for. -/
def Overwrites (build : TableBuild) (tab : BssTable) (request : SetRequest) : Prop :=
  bssTableSearch tab request.bssid request.channel = none ∧
    tab.bssNr ≥ maxLenOfBssTable build ∧ (!request.connected || !request.apConnected) = true ∧
    request.desired = true

/-- The table is within its bound and has each pair of BSSID and band once; it is searched by these
pairs, and what is set for one BSS is set in its own entry alone. -/
structure BssTable.Sound (build : TableBuild) (tab : BssTable) : Prop where
  bssNrLe : tab.bssNr ≤ maxLenOfBssTable build
  distinct : ∀ i < tab.bssNr, ∀ j < tab.bssNr,
    (tab.bssEntry i).isAt (tab.bssEntry j).bssid (tab.bssEntry j).channel → i = j
  found : ∀ bssid channel idx,
    bssTableSearch tab bssid channel = some idx ↔
      idx < tab.bssNr ∧ (tab.bssEntry idx).isAt bssid channel
  others : ∀ request j, (bssTableSetEntry build tab request).2 ≠ some j →
    (bssTableSetEntry build tab request).1.bssEntry j = tab.bssEntry j

theorem bssTableSetEntry_cases (build : TableBuild) (tab : BssTable) (request : SetRequest) :
    (∃ idx, bssTableSearch tab request.bssid request.channel = some idx ∧
      bssTableSetEntry build tab request =
        (tab.set idx (bssEntrySet (tab.bssEntry idx) request), some idx)) ∨
    (bssTableSearch tab request.bssid request.channel = none ∧
      tab.bssNr < maxLenOfBssTable build ∧
      bssTableSetEntry build tab request =
        ({ tab.set tab.bssNr (bssEntrySet (tab.bssEntry tab.bssNr) request) with
          bssNr := tab.bssNr + 1 }, some tab.bssNr)) ∨
    (Overwrites build tab request ∧
      bssTableSetEntry build tab request =
        ({ tab.set tab.bssOverlapNr (bssEntrySet BssEntry.zero request) with
          bssOverlapNr := (tab.bssOverlapNr + 1) % maxLenOfBssTable build },
          some tab.bssOverlapNr)) ∨
    (¬ Overwrites build tab request ∧ bssTableSetEntry build tab request = (tab, none)) := by
  unfold bssTableSetEntry Overwrites
  cases search : bssTableSearch tab request.bssid request.channel with
  | some idx => exact .inl ⟨idx, rfl, rfl⟩
  | none =>
    apply Or.inr
    by_cases full : tab.bssNr ≥ maxLenOfBssTable build
    · apply Or.inr
      by_cases apart : (!request.connected || !request.apConnected) = true
      · by_cases desired : request.desired = true
        · exact .inl ⟨⟨rfl, full, apart, desired⟩, by simp only [full, apart, desired, if_true]⟩
        · apply Or.inr
          apply And.intro fun overwrites => desired overwrites.2.2.2
          simp only [full, apart, desired, if_true, Bool.false_eq_true, if_false]
      · apply Or.inr
        apply And.intro fun overwrites => apart overwrites.2.2.1
        simp only [full, apart, if_true, Bool.false_eq_true, if_false]
    · exact .inl ⟨rfl, not_le.mp full, by simp only [full, if_false]⟩

section Keys
variable {entry other : BssEntry} {bssid : List UInt8} {channel : UInt8}

theorem BssEntry.isAt_iff : entry.isAt bssid channel = true ↔
    decide (entry.channel ≤ 14) = decide (channel ≤ 14) ∧ entry.bssid = bssid := by
  unfold BssEntry.isAt
  rw [sameBand_eq, Bool.and_eq_true, beq_iff_eq, beq_iff_eq]

/-- Two entries for one pair are entries for each other's pair. -/
theorem BssEntry.isAt_of_both (first : entry.isAt bssid channel = true)
    (second : other.isAt bssid channel = true) : entry.isAt other.bssid other.channel = true := by
  rw [BssEntry.isAt_iff] at *
  exact ⟨first.1.trans second.1.symm, first.2.trans second.2.symm⟩

theorem BssEntry.isAt_symm (at_ : entry.isAt other.bssid other.channel = true) :
    other.isAt entry.bssid entry.channel = true := by
  rw [BssEntry.isAt_iff] at *
  exact ⟨at_.1.symm, at_.2.symm⟩

end Keys

/-- What every operation keeps. -/
structure TableInv (build : TableBuild) (tab : BssTable) : Prop where
  bssNrLe : tab.bssNr ≤ maxLenOfBssTable build
  overlapLt : tab.bssOverlapNr < maxLenOfBssTable build
  distinct : ∀ i < tab.bssNr, ∀ j < tab.bssNr,
    (tab.bssEntry i).isAt (tab.bssEntry j).bssid (tab.bssEntry j).channel → i = j

namespace TableInv
variable {build : TableBuild} {tab : BssTable}

theorem empty (overlapLt : tab.bssOverlapNr < maxLenOfBssTable build) (none : tab.bssNr = 0) :
    TableInv build tab where
  bssNrLe := by omega
  overlapLt := overlapLt
  distinct i below := by omega

theorem sound (inv : TableInv build tab) : tab.Sound build where
  bssNrLe := inv.bssNrLe
  distinct := inv.distinct
  found bssid channel idx := by
    constructor
    · exact bssTableSearch_some
    · intro stored
      cases search : bssTableSearch tab bssid channel with
      | none =>
        have absent := bssTableSearch_none.mp search idx stored.1
        rw [stored.2] at absent
        cases absent
      | some idx' =>
        have first := bssTableSearch_some search
        rw [inv.distinct idx' first.1 idx stored.1 (BssEntry.isAt_of_both first.2 stored.2)]
  others request j unset := by
    rcases bssTableSetEntry_cases build tab request with
      ⟨idx, _, result⟩ | ⟨_, _, result⟩ | ⟨_, result⟩ | ⟨_, result⟩
    · rw [result] at unset ⊢
      exact Function.update_of_ne (fun same => unset (congrArg some same.symm)) _ _
    · rw [result] at unset ⊢
      exact Function.update_of_ne (fun same => unset (congrArg some same.symm)) _ _
    · rw [result] at unset ⊢
      exact Function.update_of_ne (fun same => unset (congrArg some same.symm)) _ _
    · rw [result]

/-- An entry may be replaced by one whose pair no other entry has. -/
theorem distinct_set {idx count : Nat} {entry : BssEntry}
    (distinct : ∀ i < count, ∀ j < count, i ≠ idx → j ≠ idx →
      (tab.bssEntry i).isAt (tab.bssEntry j).bssid (tab.bssEntry j).channel → i = j)
    (alone : ∀ j < count, j ≠ idx →
      (tab.bssEntry j).isAt entry.bssid entry.channel = false) :
    ∀ i < count, ∀ j < count,
      ((tab.set idx entry).bssEntry i).isAt ((tab.set idx entry).bssEntry j).bssid
        ((tab.set idx entry).bssEntry j).channel → i = j := by
  intro i below j below' same
  unfold BssTable.set at same
  dsimp only at same
  by_cases first : i = idx
  · by_cases second : j = idx
    · exact first.trans second.symm
    · rw [first, Function.update_self, Function.update_of_ne second] at same
      have back := BssEntry.isAt_symm same
      rw [alone j below' second] at back
      cases back
  · rw [Function.update_of_ne first] at same
    by_cases second : j = idx
    · rw [second, Function.update_self, alone i below first] at same
      cases same
    · rw [Function.update_of_ne second] at same
      exact distinct i below j below' first second same

theorem set (inv : TableInv build tab) (request : SetRequest) :
    TableInv build (bssTableSetEntry build tab request).1 := by
  rcases bssTableSetEntry_cases build tab request with
    ⟨idx, search, result⟩ | ⟨search, room, result⟩ | ⟨⟨search, full, _, _⟩, result⟩ | ⟨_, result⟩
  · rw [result]
    obtain ⟨below, here⟩ := bssTableSearch_some search
    constructor
    · exact inv.bssNrLe
    · exact inv.overlapLt
    · apply distinct_set
      · exact fun i below j below' _ _ => inv.distinct i below j below'
      · intro j below' other
        by_contra stored
        apply other
        apply inv.distinct j below' idx below
        exact BssEntry.isAt_of_both (Bool.not_eq_false _ ▸ stored) here
  · rw [result]
    have absent := bssTableSearch_none.mp search
    constructor
    · exact room
    · exact inv.overlapLt
    · apply distinct_set
      · intro i below j below' other other'
        apply inv.distinct
        · dsimp only at below
          omega
        · dsimp only at below'
          omega
      · intro j below other
        apply absent
        dsimp only at below
        omega
  · rw [result]
    have absent := bssTableSearch_none.mp search
    have positive := Nat.zero_lt_of_lt inv.overlapLt
    constructor
    · exact inv.bssNrLe
    · exact Nat.mod_lt _ positive
    · apply distinct_set
      · exact fun i below j below' _ _ => inv.distinct i below j below'
      · exact fun j below _ => absent j below
  · rw [result]
    exact inv

/-- Behind a deletion an entry has the pair of the entry that it was, in front of or behind the
deleted one. -/
theorem delete (inv : TableInv build tab) (heap : Heap) (bssid : List UInt8) (channel : UInt8) :
    TableInv build (bssTableDeleteEntry tab heap bssid channel).1 := by
  cases search : deletedIndex tab bssid channel with
  | none =>
    unfold bssTableDeleteEntry
    rw [search]
    exact inv
  | some i =>
    have below := deletedIndex_some search
    rw [bssTableDeleteEntry_tab heap search]
    constructor
    · have bounded := inv.bssNrLe
      dsimp only
      omega
    · exact inv.overlapLt
    · have pair (k : Nat) (stays : k < tab.bssNr - 1) (entry : BssEntry)
          (here : entry = if i ≤ k ∧ k < tab.bssNr - 1 then tab.moved k
            else if k = tab.bssNr - 1 then
              { BssEntry.zero with pVarIeFromProbRsp := (tab.bssEntry k).pVarIeFromProbRsp }
            else tab.bssEntry k) :
          entry.bssid = (tab.bssEntry (if i ≤ k then k + 1 else k)).bssid ∧
            entry.channel = (tab.bssEntry (if i ≤ k then k + 1 else k)).channel := by
        rw [here]
        by_cases behind : i ≤ k
        · rw [if_pos ⟨behind, stays⟩, if_pos behind]
          unfold BssTable.moved
          dsimp only
          split_ifs <;> exact ⟨rfl, rfl⟩
        · have front : ¬ (i ≤ k ∧ k < tab.bssNr - 1) := fun both => behind both.1
          rw [if_neg front, if_neg behind, if_neg (by omega)]
          exact ⟨rfl, rfl⟩
      intro k stays l stays' same
      dsimp only at stays stays'
      obtain ⟨_, channelK⟩ := pair k stays _ rfl
      obtain ⟨bssidL, channelL⟩ := pair l stays' _ rfl
      have bssidK := (pair k stays _ rfl).1
      rw [BssEntry.isAt_iff] at same
      dsimp only at same
      rw [bssidK, channelK, bssidL, channelL, ← BssEntry.isAt_iff] at same
      have before := inv.distinct _ (by split_ifs <;> omega) _ (by split_ifs <;> omega) same
      split_ifs at before <;> omega

theorem step (inv : TableInv build tab) (heap : Heap) (event : TableEvent) :
    TableInv build (tableStep build (tab, heap) event).1 := by
  cases event with
  | init =>
    unfold tableStep
    rw [bssTableInit_tab]
    exact .empty (Nat.zero_lt_of_lt inv.overlapLt) rfl
  | set request => exact inv.set request
  | delete bssid channel => exact inv.delete heap bssid channel

theorem init (build : TableBuild) (pIe : Nat → Nat) :
    TableInv build (scanTabInit build pIe) := by
  apply empty _ rfl
  cases build with
  | memoryOptimization => exact Nat.one_pos
  | standard => exact Nat.succ_pos 127

end TableInv

section Attached

/-- Every entry has the buffer that was allocated for its place. -/
structure Attached (build : TableBuild) (allocated : Nat → Nat) (tab : BssTable) : Prop where
  inv : TableInv build tab
  pointer : ∀ i < maxLenOfBssTable build, (tab.bssEntry i).pVarIeFromProbRsp = allocated i

variable {build : TableBuild} {allocated : Nat → Nat}

theorem Attached.owns {tab : BssTable} (attached : Attached build allocated tab)
    (separate : ∀ i < maxLenOfBssTable build, ∀ j < maxLenOfBssTable build,
      allocated i = allocated j → i = j) : OwnsBuffers build allocated tab where
  kept i below := ⟨i, below, attached.pointer i below⟩
  unshared i below j below' same := by
    rw [attached.pointer i below, attached.pointer j below'] at same
    exact separate i below j below' same

/-- What an event does to a table that is full of buffers. -/
def KeepsBuffers (build : TableBuild) (state : BssTable × Heap) : TableEvent → Prop
  | .set request => ¬ Overwrites build state.1 request
  | _ => True

theorem Attached.step {state : BssTable × Heap} (attached : Attached build allocated state.1)
    (present : ∀ i < maxLenOfBssTable build, allocated i ≠ null) (event : TableEvent)
    (keeps : KeepsBuffers build state event) :
    Attached build allocated (tableStep build state event).1 := by
  apply Attached.mk (attached.inv.step state.2 event)
  intro i below
  cases event with
  | init =>
    unfold tableStep
    dsimp only
    rw [bssTableInit_tab]
    dsimp only
    rw [if_pos below]
    exact attached.pointer i below
  | set request =>
    rw [← attached.pointer i below]
    have entryKept (idx : Nat) :
        ((state.1.set idx (bssEntrySet (state.1.bssEntry idx) request)).bssEntry i).pVarIeFromProbRsp =
          (state.1.bssEntry i).pVarIeFromProbRsp := by
      unfold BssTable.set
      dsimp only
      by_cases here : i = idx
      · rw [here, Function.update_self]
        rfl
      · rw [Function.update_of_ne here]
    unfold tableStep
    dsimp only
    rcases bssTableSetEntry_cases build state.1 request with
      ⟨idx, _, result⟩ | ⟨_, _, result⟩ | ⟨overwrites, _⟩ | ⟨_, result⟩
    · rw [result]
      exact entryKept idx
    · rw [result]
      exact entryKept _
    · exact absurd overwrites keeps
    · rw [result]
  | delete bssid channel =>
    unfold tableStep
    dsimp only
    cases search : deletedIndex state.1 bssid channel with
    | none =>
      unfold bssTableDeleteEntry
      rw [search]
      exact attached.pointer i below
    | some first =>
      have own : state.1.moved i =
          { state.1.bssEntry (i + 1) with
            pVarIeFromProbRsp := (state.1.bssEntry i).pVarIeFromProbRsp } := by
        unfold BssTable.moved
        rw [attached.pointer i below]
        exact if_pos (present i below)
      rw [bssTableDeleteEntry_tab _ search, ← attached.pointer i below]
      dsimp only
      split_ifs
      · rw [own]
      · rfl
      · rfl

/-- An overwritten entry loses its buffer. -/
theorem Attached.lost {state : BssTable × Heap} (attached : Attached build allocated state.1)
    (present : ∀ i < maxLenOfBssTable build, allocated i ≠ null)
    (separate : ∀ i < maxLenOfBssTable build, ∀ j < maxLenOfBssTable build,
      allocated i = allocated j → i = j)
    {event : TableEvent} (loses : ¬ KeepsBuffers build state event) :
    ¬ OwnsBuffers build allocated (tableStep build state event).1 := by
  cases event with
  | init => exact absurd trivial loses
  | delete bssid channel => exact absurd trivial loses
  | set request =>
    have overwrites : Overwrites build state.1 request := not_not.mp loses
    intro owns
    have victim := attached.inv.overlapLt
    obtain ⟨j, below, kept⟩ := owns.kept _ victim
    unfold tableStep at kept
    dsimp only at kept
    rcases bssTableSetEntry_cases build state.1 request with
      ⟨idx, search, _⟩ | ⟨_, room, _⟩ | ⟨_, result⟩ | ⟨not, _⟩
    · rw [overwrites.1] at search
      cases search
    · exact absurd overwrites.2.1 (not_le.mpr room)
    · rw [result] at kept
      unfold BssTable.set at kept
      dsimp only at kept
      by_cases here : j = state.1.bssOverlapNr
      · rw [here, Function.update_self] at kept
        exact present _ victim kept.symm
      · rw [Function.update_of_ne here, attached.pointer j below] at kept
        exact here (separate j below _ victim kept)
    · exact not overwrites

/-- Were the buffers attached, they would stay with their entries in every state exactly when no entry of
the full table is overwritten. -/
theorem ownsBuffers_iff (present : ∀ i < maxLenOfBssTable build, allocated i ≠ null)
    (separate : ∀ i < maxLenOfBssTable build, ∀ j < maxLenOfBssTable build,
      allocated i = allocated j → i = j) (heap : Heap) (events : List TableEvent) :
    (∀ n, OwnsBuffers build allocated
      (run (tableStep build) (scanTabInit build allocated, heap) (events.take n)).1) ↔
      Throughout (tableStep build) (KeepsBuffers build) (scanTabInit build allocated, heap)
        events := by
  apply forall_take_iff_throughout (fun state : BssTable × Heap => Attached build allocated state.1)
    (fun state : BssTable × Heap => OwnsBuffers build allocated state.1)
  · exact fun _ attached => attached.owns separate
  · exact fun _ event attached keeps => attached.step present event keeps
  · exact fun _ _ attached loses => attached.lost present separate loses
  · apply Attached.mk (.init build allocated)
    intro i below
    unfold scanTabInit
    dsimp only
    rw [if_pos below]

end Attached

section Lost

/-- The loop returns when every buffer is there, and then it has dropped them all. -/
theorem probeRespIe_iff {build : TableBuild} {kmalloc pIe : Nat → Nat} :
    probeRespIe build kmalloc = some pIe ↔
      (∀ i < maxLenOfBssTable build, kmalloc i ≠ null) ∧ pIe = fun _ => null := by
  unfold probeRespIe
  generalize maxLenOfBssTable build = count
  induction count generalizing pIe with
  | zero =>
    constructor
    · intro returns
      exact ⟨fun i below => absurd below (Nat.not_lt_zero i), (Option.some.inj returns).symm⟩
    · rintro ⟨_, rfl⟩
      rfl
  | succ count ih =>
    have turn : allocProbeRespIe kmalloc (fun _ => null) count =
        if kmalloc count = null then none else some fun _ => null := by
      unfold allocProbeRespIe
      dsimp only
      rw [Function.update_self, Function.update_idem, Function.update_eq_self]
    rw [List.range_succ, List.foldlM_append, Option.bind_eq_bind, Option.bind_eq_some_iff]
    simp only [ih, List.foldlM_cons, List.foldlM_nil, Option.bind_eq_bind, Option.pure_def]
    constructor
    · rintro ⟨_, ⟨allocated, rfl⟩, last⟩
      have missing : kmalloc count ≠ null := by
        intro none
        rw [turn, if_pos none] at last
        cases last
      rw [turn, if_neg missing] at last
      apply And.intro _ (Option.some.inj last).symm
      intro i below
      rcases Nat.lt_succ_iff_lt_or_eq.mp below with before | rfl
      · exact allocated i before
      · exact missing
    · rintro ⟨allocated, rfl⟩
      apply Exists.intro fun _ => null
      apply And.intro ⟨fun i below => allocated i (by omega), rfl⟩
      rw [turn, if_neg (allocated count (by omega))]
      rfl

/-- No entry of the table has a buffer. -/
structure Bare (build : TableBuild) (tab : BssTable) : Prop where
  inv : TableInv build tab
  pointer : ∀ i, (tab.bssEntry i).pVarIeFromProbRsp = null

theorem Bare.step {build : TableBuild} {state : BssTable × Heap} (bare : Bare build state.1)
    (event : TableEvent) : Bare build (tableStep build state event).1 := by
  apply Bare.mk (bare.inv.step state.2 event)
  intro i
  cases event with
  | init =>
    unfold tableStep
    dsimp only
    rw [bssTableInit_tab]
    dsimp only
    split_ifs
    · exact bare.pointer i
    · exact bare.pointer i
  | set request =>
    have entryNull (idx : Nat) {entry : BssEntry} (blank : entry.pVarIeFromProbRsp = null) :
        ((state.1.set idx (bssEntrySet entry request)).bssEntry i).pVarIeFromProbRsp = null := by
      unfold BssTable.set
      dsimp only
      by_cases here : i = idx
      · rw [here, Function.update_self]
        exact blank
      · rw [Function.update_of_ne here]
        exact bare.pointer i
    unfold tableStep
    dsimp only
    rcases bssTableSetEntry_cases build state.1 request with
      ⟨idx, _, result⟩ | ⟨_, _, result⟩ | ⟨_, result⟩ | ⟨_, result⟩
    · rw [result]
      exact entryNull idx (bare.pointer idx)
    · rw [result]
      exact entryNull _ (bare.pointer _)
    · rw [result]
      exact entryNull _ rfl
    · rw [result]
      exact bare.pointer i
  | delete bssid channel =>
    unfold tableStep
    dsimp only
    cases search : deletedIndex state.1 bssid channel with
    | none =>
      unfold bssTableDeleteEntry
      rw [search]
      exact bare.pointer i
    | some first =>
      have next : state.1.moved i = state.1.bssEntry (i + 1) := by
        unfold BssTable.moved
        rw [bare.pointer i]
        exact if_neg (not_not.mpr rfl)
      rw [bssTableDeleteEntry_tab _ search]
      dsimp only
      split_ifs
      · rw [next]
        exact bare.pointer (i + 1)
      · exact bare.pointer i
      · exact bare.pointer i

theorem bare_run {build : TableBuild} {kmalloc pIe : Nat → Nat}
    (returns : probeRespIe build kmalloc = some pIe) (heap : Heap) (events : List TableEvent) :
    Bare build (run (tableStep build) (scanTabInit build pIe, heap) events).1 := by
  obtain rfl := (probeRespIe_iff.mp returns).2
  apply run_invariant (fun state : BssTable × Heap => Bare build state.1)
    (fun _ event bare _ => bare.step event) _ events (throughout_always _ events)
  apply Bare.mk (.init build _)
  intro i
  unfold scanTabInit
  dsimp only
  split_ifs <;> rfl

theorem Bare.lost {build : TableBuild} {kmalloc pIe : Nat → Nat}
    (returns : probeRespIe build kmalloc = some pIe) {tab : BssTable} (bare : Bare build tab) :
    ¬ OwnsBuffers build kmalloc tab := by
  intro owns
  have first := Nat.zero_lt_of_lt bare.inv.overlapLt
  obtain ⟨j, _, kept⟩ := owns.kept 0 first
  rw [bare.pointer j] at kept
  exact (probeRespIe_iff.mp returns).1 0 first kept.symm

/-- The entries of the table are kept apart in every run, but in no state has the table the buffers that
were allocated. -/
theorem bssTable_buffersLost {build : TableBuild} {kmalloc pIe : Nat → Nat}
    (returns : probeRespIe build kmalloc = some pIe) (heap : Heap) (events : List TableEvent)
    (n : Nat) :
    (run (tableStep build) (scanTabInit build pIe, heap) (events.take n)).1.Sound build ∧
      ¬ OwnsBuffers build kmalloc
        (run (tableStep build) (scanTabInit build pIe, heap) (events.take n)).1 :=
  have bare := bare_run returns heap (events.take n)
  ⟨bare.inv.sound, bare.lost returns⟩

theorem bssTable_buffersLost_allocated :
    ¬ OwnsBuffers .standard (fun i => i + 1)
      (run (tableStep .standard) (scanTabInit .standard fun _ => null, fun _ _ => 0) [.init]).1 :=
  (bssTable_buffersLost (probeRespIe_iff.mpr ⟨fun i _ => Nat.succ_ne_zero i, rfl⟩)
    (fun _ _ => 0) [.init] 1).2

theorem not_bssTable_ownsBuffers :
    ¬ ∀ (build : TableBuild) (kmalloc pIe : Nat → Nat) (heap : Heap) (events : List TableEvent),
      probeRespIe build kmalloc = some pIe → ∀ n,
        (run (tableStep build) (scanTabInit build pIe, heap) (events.take n)).1.Sound build ∧
          OwnsBuffers build kmalloc
            (run (tableStep build) (scanTabInit build pIe, heap) (events.take n)).1 := by
  intro always
  have returns : probeRespIe .standard (fun i => i + 1) = some fun _ => null :=
    probeRespIe_iff.mpr ⟨fun i _ => Nat.succ_ne_zero i, rfl⟩
  have owns := (always .standard _ _ (fun _ _ => 0) [] returns 0).2
  exact (bare_run returns (fun _ _ => 0) []).lost returns owns

end Lost

end Mt7612u.Mlme
