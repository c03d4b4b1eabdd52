import Mt7612u.Wpa.PmkidCache

/-! Runs of the PMKID cache, and which entry an addition to a full cache costs. -/

namespace Mt7612u.Wpa
open Library.Run
open Mgmt (MacAddr)

section Evict

variable {cache : PmkidCache}

/-- Once there is a timestamp, the scan goes on to ever later ones. -/
theorem evictScan_max (full : ∀ i, (cache i).valid = true) (slots : List CacheIdx)
    (found : BitVec 64 × CacheIdx) (set : found.1 ≠ 0)
    (stamped : found.1 = (cache found.2).refreshTime) :
    found.1 ≤ (cache (slots.foldl (evictTurn cache) found).2).refreshTime ∧
      ∀ i ∈ slots, (cache i).refreshTime ≤
        (cache (slots.foldl (evictTurn cache) found).2).refreshTime := by
  induction slots generalizing found with
  | nil =>
    apply And.intro (BitVec.le_of_eq stamped)
    intro i among
    cases among
  | cons i rest ih =>
    rw [List.foldl_cons]
    have turn : evictTurn cache found i =
        if found.1 < (cache i).refreshTime then ((cache i).refreshTime, i) else found := by
      unfold evictTurn
      rw [if_pos (full i)]
      apply if_congr _ rfl rfl
      constructor
      · rintro (⟨zero, _⟩ | ⟨_, later⟩)
        · exact absurd zero set
        · exact later
      · exact fun later => .inr ⟨set, later⟩
    rw [turn]
    by_cases later : found.1 < (cache i).refreshTime
    · rw [if_pos later]
      have positive : (cache i).refreshTime ≠ 0 := by
        intro zero
        rw [zero] at later
        exact absurd later (by simp)
      obtain ⟨below, others⟩ := ih ((cache i).refreshTime, i) positive rfl
      refine ⟨BitVec.le_trans (BitVec.le_of_lt later) below, ?_⟩
      intro j among
      rcases List.mem_cons.mp among with rfl | among
      · exact below
      · exact others j among
    · rw [if_neg later]
      obtain ⟨below, others⟩ := ih found set stamped
      refine ⟨below, ?_⟩
      intro j among
      rcases List.mem_cons.mp among with rfl | among
      · exact BitVec.le_trans (BitVec.not_lt.mp later) below
      · exact others j among

/-- With the timestamp 0 it does not leave a slot but the first. -/
theorem evictScan_stuck (slots : List CacheIdx) {idx : CacheIdx} (later : idx ≠ firstSlot) :
    slots.foldl (evictTurn cache) (0, idx) = (0, idx) := by
  induction slots with
  | nil => rfl
  | cons i rest ih =>
    have turn : evictTurn cache (0, idx) i = (0, idx) := by
      unfold evictTurn
      split_ifs with valid passed
      · rcases passed with ⟨_, first⟩ | ⟨set, _⟩
        · exact absurd first later
        · exact absurd rfl set
      · rfl
      · rfl
    rw [List.foldl_cons, turn, ih]

theorem finRange_slots : List.finRange maxPmkidCount =
    firstSlot :: secondSlot :: (List.finRange maxPmkidCount).drop 2 := by decide

theorem evictTurn_first (full : ∀ i, (cache i).valid = true) (i : CacheIdx) :
    evictTurn cache (0, firstSlot) i = ((cache i).refreshTime, i) := by
  unfold evictTurn
  rw [if_pos (full i), if_pos (.inl ⟨rfl, rfl⟩)]

theorem evictSlot_zero (full : ∀ i, (cache i).valid = true)
    (first : (cache firstSlot).refreshTime = 0) (second : (cache secondSlot).refreshTime = 0) :
    evictSlot cache = secondSlot := by
  unfold evictSlot
  rw [finRange_slots, List.foldl_cons, evictTurn_first full, first, List.foldl_cons,
    evictTurn_first full, second, evictScan_stuck _ (by decide)]

/-- The scan ends at the entry that was refreshed last. -/
theorem evictSlot_last (full : ∀ i, (cache i).valid = true)
    (set : ¬ ((cache firstSlot).refreshTime = 0 ∧ (cache secondSlot).refreshTime = 0))
    (i : CacheIdx) : (cache i).refreshTime ≤ (cache (evictSlot cache)).refreshTime := by
  have among := List.mem_finRange i
  unfold evictSlot
  by_cases first : (cache firstSlot).refreshTime = 0
  · have second : (cache secondSlot).refreshTime ≠ 0 := fun zero => set ⟨first, zero⟩
    rw [finRange_slots] at among ⊢
    rw [List.foldl_cons, evictTurn_first full, first, List.foldl_cons, evictTurn_first full]
    obtain ⟨below, others⟩ := evictScan_max full ((List.finRange maxPmkidCount).drop 2)
      ((cache secondSlot).refreshTime, secondSlot) second rfl
    rcases List.mem_cons.mp among with rfl | among
    · rw [first]
      exact BitVec.le_def.mpr (Nat.zero_le _)
    rcases List.mem_cons.mp among with rfl | among
    · exact below
    · exact others i among
  · rw [finRange_slots] at among ⊢
    rw [List.foldl_cons, evictTurn_first full]
    obtain ⟨below, others⟩ := evictScan_max full (secondSlot :: (List.finRange maxPmkidCount).drop 2)
      ((cache firstSlot).refreshTime, firstSlot) first rfl
    rcases List.mem_cons.mp among with rfl | among
    · exact below
    · exact others i among

end Evict

section Run

inductive CacheOp where
  | add (now : BitVec 64) (apidx : Nat) (addr : MacAddr) (pair : PmkPair)
  | search (apidx : Nat) (addr : MacAddr)
  | delete (apidx : Nat) (idx : CacheIdx)
  | maintain (now : Nat → CacheIdx → BitVec 64)

def cacheStep (pAd : CacheAdapter) : CacheOp → CacheAdapter
  | .add now apidx addr pair => rtmpAddPmkidCache pAd now apidx addr pair
  | .search _ _ => pAd
  | .delete apidx idx => rtmpDeletePmkidCache pAd apidx idx
  | .maintain now => rtmpMaintainPmkidCache pAd now

/-- An addition to a full cache costs the entry that was refreshed first, and no other one. -/
def EvictsOldest (pAd : CacheAdapter) : CacheOp → Prop
  | .add now apidx addr pair =>
    rtmpSearchPmkidCache pAd apidx addr = none → freeSlot (pAd.pmkidCache apidx) = none →
      ∃ idx, (∀ i, (pAd.pmkidCache apidx idx).refreshTime ≤ (pAd.pmkidCache apidx i).refreshTime) ∧
        (rtmpAddPmkidCache pAd now apidx addr pair).pmkidCache =
          (setSlot pAd apidx idx ⟨addr, pair, now, true⟩).pmkidCache
  | _ => True

/-- All entries of a cache were refreshed at one time, or the first two at the time 0. -/
def SameAge (cache : PmkidCache) : Prop :=
  (∀ i, (cache i).refreshTime = (cache firstSlot).refreshTime) ∨
    (cache firstSlot).refreshTime = 0 ∧ (cache secondSlot).refreshTime = 0

instance (cache : PmkidCache) : Decidable (SameAge cache) := inferInstanceAs (Decidable (_ ∨ _))

/-- No address is added to a full cache whose entries are not of one age. -/
def AddsInTime (pAd : CacheAdapter) : CacheOp → Prop
  | .add _ apidx addr _ =>
    rtmpSearchPmkidCache pAd apidx addr = none → freeSlot (pAd.pmkidCache apidx) = none →
      SameAge (pAd.pmkidCache apidx)
  | _ => True

instance (pAd : CacheAdapter) (op : CacheOp) : Decidable (AddsInTime pAd op) :=
  match op with
  | .add _ apidx addr _ => inferInstanceAs (Decidable
      (rtmpSearchPmkidCache pAd apidx addr = none → freeSlot (pAd.pmkidCache apidx) = none →
        SameAge (pAd.pmkidCache apidx)))
  | .search .. => inferInstanceAs (Decidable True)
  | .delete .. => inferInstanceAs (Decidable True)
  | .maintain .. => inferInstanceAs (Decidable True)

theorem addPmkid_full {pAd : CacheAdapter} {apidx : Nat} {addr : MacAddr}
    (absent : rtmpSearchPmkidCache pAd apidx addr = none)
    (full : freeSlot (pAd.pmkidCache apidx) = none) (now : BitVec 64) (pair : PmkPair) :
    (rtmpAddPmkidCache pAd now apidx addr pair).pmkidCache =
      (setSlot pAd apidx (evictSlot (pAd.pmkidCache apidx)) ⟨addr, pair, now, true⟩).pmkidCache := by
  unfold rtmpAddPmkidCache
  dsimp only
  rw [absent]
  dsimp only
  rw [full]
  rfl

theorem evictsOldest_iff (pAd : CacheAdapter) (op : CacheOp) :
    EvictsOldest pAd op ↔ AddsInTime pAd op := by
  cases op with
  | search => exact Iff.rfl
  | delete => exact Iff.rfl
  | maintain => exact Iff.rfl
  | add now apidx addr pair =>
    apply forall_congr'
    intro absent
    apply forall_congr'
    intro full
    have valid := valid_of_freeSlot full
    rw [addPmkid_full absent full]
    constructor
    · rintro ⟨idx, oldest, same⟩
      -- the slot that changed can be read off the caches
      have place : evictSlot (pAd.pmkidCache apidx) = idx := by
        by_contra apart
        have written := congrFun (congrFun same apidx) (evictSlot (pAd.pmkidCache apidx))
        rw [setSlot_self, setSlot_slot _ apart] at written
        apply search_eq_none absent (evictSlot (pAd.pmkidCache apidx)) (valid _)
        rw [← written]
      by_cases zero : (pAd.pmkidCache apidx firstSlot).refreshTime = 0 ∧
          (pAd.pmkidCache apidx secondSlot).refreshTime = 0
      · exact .inr zero
      · left
        have last := evictSlot_last valid zero
        rw [place] at last
        intro i
        exact BitVec.le_antisymm (BitVec.le_trans (last i) (oldest firstSlot))
          (BitVec.le_trans (last firstSlot) (oldest i))
    · intro age
      refine ⟨evictSlot (pAd.pmkidCache apidx), ?_, rfl⟩
      intro i
      rcases age with same | ⟨first, second⟩
      · rw [same i, same (evictSlot _)]
        exact BitVec.le_refl _
      · rw [evictSlot_zero valid first second, second]
        exact BitVec.le_def.mpr (Nat.zero_le _)

theorem CacheAdapter.Tracked.step {pAd : CacheAdapter} (tracked : pAd.Tracked) (op : CacheOp) :
    (cacheStep pAd op).Tracked := by
  cases op with
  | add now apidx addr pair => exact tracked.add now apidx addr pair
  | search => exact tracked
  | delete apidx idx => exact tracked.delete apidx idx
  | maintain now => exact tracked.maintain now

/-- Caches in which nothing was added yet. -/
def emptyCaches (maxMbssidNum : Nat) (pmkCachePeriod : Nat → BitVec 64) : CacheAdapter where
  maxMbssidNum := maxMbssidNum
  pmkCachePeriod := pmkCachePeriod
  pmkidCache _ _ := ⟨fun _ => 0, (Bytes.zero 16, Bytes.zero 32), 0, false⟩
  log := []

theorem emptyCaches_tracked (maxMbssidNum : Nat) (pmkCachePeriod : Nat → BitVec 64) :
    (emptyCaches maxMbssidNum pmkCachePeriod).Tracked := by
  constructor
  · intro apidx first second never
    cases never
  · intro apidx addr pair
    constructor
    · rintro ⟨i, never, _⟩
      cases never
    · intro never
      cases never

/-- After the operations addresses are distinct and found with what was added last for them, and
each addition to a full cache has cost the entry that was refreshed first. -/
structure CacheServes (start : CacheAdapter) (ops : List CacheOp) : Prop where
  distinct : (run cacheStep start ops).Distinct
  search : ∀ apidx addr,
    (rtmpSearchPmkidCache (run cacheStep start ops) apidx addr).map (fun i =>
      ((run cacheStep start ops).pmkidCache apidx i).pair) =
        lastAdded apidx addr (run cacheStep start ops).log
  evicts : Throughout cacheStep EvictsOldest start ops

theorem cacheServes_iff (maxMbssidNum : Nat) (pmkCachePeriod : Nat → BitVec 64)
    (ops : List CacheOp) :
    CacheServes (emptyCaches maxMbssidNum pmkCachePeriod) ops ↔
      Throughout cacheStep AddsInTime (emptyCaches maxMbssidNum pmkCachePeriod) ops := by
  have tracked : (run cacheStep (emptyCaches maxMbssidNum pmkCachePeriod) ops).Tracked :=
    run_invariant CacheAdapter.Tracked (fun _ op tracked _ => tracked.step op)
      (emptyCaches_tracked maxMbssidNum pmkCachePeriod) ops (throughout_always _ ops)
  constructor
  · intro serves
    exact serves.evicts.mono fun pAd op => (evictsOldest_iff pAd op).mp
  · intro inTime
    exact ⟨tracked.distinct, tracked.search,
      inTime.mono fun pAd op => (evictsOldest_iff pAd op).mpr⟩

/-- Nine stations, one after the other. -/
def nineStations : List CacheOp :=
  (List.range 9).map fun i => .add (BitVec.ofNat 64 (i + 1)) 0 (fun _ => BitVec.ofNat 8 i)
    (Bytes.zero 16, Bytes.zero 32)

/-- The ninth costs the eighth, which was refreshed last. -/
theorem nineStations_evict_newest :
    ¬ CacheServes (emptyCaches 1 fun _ => 0) nineStations := by
  intro serves
  have inTime : Throughout cacheStep AddsInTime (emptyCaches 1 fun _ => 0) nineStations :=
    serves.evicts.mono fun pAd op => (evictsOldest_iff pAd op).mp
  exact absurd inTime (by decide +kernel)

end Run

end Mt7612u.Wpa
