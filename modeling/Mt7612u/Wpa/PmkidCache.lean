import Mt7612u.Library.Run
import Mt7612u.Mgmt.MacTable
import Mt7612u.Wpa.Eapol

/-! The PMKID cache of `ap_wpa.c`. What was added and what was removed is recorded. -/

namespace Mt7612u.Wpa
open Mgmt (MacAddr)

/-- `MAX_PMKID_COUNT`. -/
def maxPmkidCount : Nat := 8

/-- A slot of `PMKIDCache.BSSIDInfo`. -/
abbrev CacheIdx := Fin maxPmkidCount

def firstSlot : CacheIdx := ⟨0, Nat.succ_pos 7⟩
def secondSlot : CacheIdx := ⟨1, Nat.succ_lt_succ (Nat.succ_pos 6)⟩

/-- The PMKID and the PMK of an address. -/
abbrev PmkPair := Bytes 16 × Bytes 32

/-- `AP_BSSID_INFO`; `RefreshTime` is an unsigned long. -/
structure BssidInfo where
  mac : MacAddr
  pair : PmkPair
  refreshTime : BitVec 64
  valid : Bool

abbrev PmkidCache := CacheIdx → BssidInfo

inductive CacheEvent where
  | added (apidx : Nat) (addr : MacAddr) (pair : PmkPair)
  | removed (apidx : Nat) (addr : MacAddr)

structure CacheAdapter where
  /-- `MAX_MBSSID_NUM`. -/
  maxMbssidNum : Nat
  pmkCachePeriod : Nat → BitVec 64
  pmkidCache : Nat → PmkidCache
  log : List CacheEvent

section Operations

/-- `RTMPSearchPMKIDCache`. -/
def rtmpSearchPmkidCache (pAd : CacheAdapter) (apidx : Nat) (addr : MacAddr) : Option CacheIdx :=
  (List.finRange maxPmkidCount).find? fun i =>
    (pAd.pmkidCache apidx i).valid && decide ((pAd.pmkidCache apidx i).mac = addr)

def setSlot (pAd : CacheAdapter) (apidx : Nat) (idx : CacheIdx) (info : BssidInfo) : CacheAdapter :=
  { pAd with
    pmkidCache := Function.update pAd.pmkidCache apidx
      (Function.update (pAd.pmkidCache apidx) idx info) }

def CacheAdapter.record (pAd : CacheAdapter) (event : CacheEvent) : CacheAdapter :=
  { pAd with log := pAd.log ++ [event] }

/-- The first slot that is not valid. -/
def freeSlot (cache : PmkidCache) : Option CacheIdx :=
  (List.finRange maxPmkidCount).find? fun i => !(cache i).valid

/-- A turn of the scan of a full cache, with `timestamp` and `idx`. -/
def evictTurn (cache : PmkidCache) (found : BitVec 64 × CacheIdx) (i : CacheIdx) :
    BitVec 64 × CacheIdx :=
  if (cache i).valid then
    if found.1 = 0 ∧ found.2 = firstSlot ∨ found.1 ≠ 0 ∧ found.1 < (cache i).refreshTime then
      ((cache i).refreshTime, i)
    else found
  else found

def evictSlot (cache : PmkidCache) : CacheIdx :=
  ((List.finRange maxPmkidCount).foldl (evictTurn cache) (0, firstSlot)).2

/-- `RTMPAddPMKIDCache`. -/
def rtmpAddPmkidCache (pAd : CacheAdapter) (now : BitVec 64) (apidx : Nat) (addr : MacAddr)
    (pair : PmkPair) : CacheAdapter :=
  let cache := pAd.pmkidCache apidx
  match rtmpSearchPmkidCache pAd apidx addr with
  | some idx =>
    (setSlot pAd apidx idx { cache idx with refreshTime := now, pair := pair }).record
      (.added apidx addr pair)
  | none =>
    match freeSlot cache with
    | some idx => (setSlot pAd apidx idx ⟨addr, pair, now, true⟩).record (.added apidx addr pair)
    | none =>
      ((setSlot pAd apidx (evictSlot cache) ⟨addr, pair, now, true⟩).record
        (.removed apidx (cache (evictSlot cache)).mac)).record (.added apidx addr pair)

/-- `RTMPDeletePMKIDCache`. -/
def rtmpDeletePmkidCache (pAd : CacheAdapter) (apidx : Nat) (idx : CacheIdx) : CacheAdapter :=
  let info := pAd.pmkidCache apidx idx
  if info.valid then
    (setSlot pAd apidx idx { info with valid := false }).record (.removed apidx info.mac)
  else pAd

/-- `RTMP_TIME_AFTER`. -/
def rtmpTimeAfter (a b : BitVec 64) : Bool := (b - a).slt 0

/-- A turn of the loops below. -/
def maintainTurn (now : Nat → CacheIdx → BitVec 64) (pAd : CacheAdapter) (place : Nat × CacheIdx) :
    CacheAdapter :=
  let info := pAd.pmkidCache place.1 place.2
  if info.valid && rtmpTimeAfter (now place.1 place.2)
      (info.refreshTime + pAd.pmkCachePeriod place.1) then
    rtmpDeletePmkidCache pAd place.1 place.2
  else pAd

/-- `RTMPMaintainPMKIDCache`, which reads the time for each slot. -/
def rtmpMaintainPmkidCache (pAd : CacheAdapter) (now : Nat → CacheIdx → BitVec 64) : CacheAdapter :=
  ((List.range pAd.maxMbssidNum).product (List.finRange maxPmkidCount)).foldl (maintainTurn now) pAd

end Operations

section Distinct

/-- No two valid entries have the same interface and address. -/
def CacheAdapter.Distinct (pAd : CacheAdapter) : Prop :=
  ∀ apidx first second, (pAd.pmkidCache apidx first).valid = true →
    (pAd.pmkidCache apidx second).valid = true →
    (pAd.pmkidCache apidx first).mac = (pAd.pmkidCache apidx second).mac → first = second

/-- What the cache has for an address. -/
def CacheAdapter.Holds (pAd : CacheAdapter) (apidx : Nat) (addr : MacAddr) (pair : PmkPair) : Prop :=
  ∃ i, (pAd.pmkidCache apidx i).valid = true ∧ (pAd.pmkidCache apidx i).mac = addr ∧
    (pAd.pmkidCache apidx i).pair = pair

/-- What the last event about an address leaves. -/
def CacheEvent.after (apidx : Nat) (addr : MacAddr) (kept : Option PmkPair) :
    CacheEvent → Option PmkPair
  | added other addr' pair => if other = apidx ∧ addr' = addr then some pair else kept
  | removed other addr' => if other = apidx ∧ addr' = addr then none else kept

theorem after_added (apidx : Nat) (addr : MacAddr) (kept : Option PmkPair) (other : Nat)
    (addr' : MacAddr) (pair : PmkPair) :
    (CacheEvent.added other addr' pair).after apidx addr kept =
      if other = apidx ∧ addr' = addr then some pair else kept := rfl

theorem after_removed (apidx : Nat) (addr : MacAddr) (kept : Option PmkPair) (other : Nat)
    (addr' : MacAddr) :
    (CacheEvent.removed other addr').after apidx addr kept =
      if other = apidx ∧ addr' = addr then none else kept := rfl

/-- The pair that was added last for an address, unless it was removed since. -/
def lastAdded (apidx : Nat) (addr : MacAddr) (log : List CacheEvent) : Option PmkPair :=
  log.foldl (CacheEvent.after apidx addr) none

theorem lastAdded_append (apidx : Nat) (addr : MacAddr) (log : List CacheEvent)
    (event : CacheEvent) :
    lastAdded apidx addr (log ++ [event]) = event.after apidx addr (lastAdded apidx addr log) :=
  List.foldl_concat ..

/-- The invariant of the cache. -/
structure CacheAdapter.Tracked (pAd : CacheAdapter) : Prop where
  distinct : pAd.Distinct
  holds : ∀ apidx addr pair, pAd.Holds apidx addr pair ↔ lastAdded apidx addr pAd.log = some pair

variable {pAd : CacheAdapter} {apidx : Nat} {addr : MacAddr} {idx : CacheIdx}

theorem search_eq_none (absent : rtmpSearchPmkidCache pAd apidx addr = none) (i : CacheIdx)
    (valid : (pAd.pmkidCache apidx i).valid = true) : (pAd.pmkidCache apidx i).mac ≠ addr := by
  intro same
  have passed := List.find?_eq_none.mp absent i (List.mem_finRange i)
  rw [valid, same, decide_eq_true rfl] at passed
  exact passed rfl

theorem search_eq_some (found : rtmpSearchPmkidCache pAd apidx addr = some idx) :
    (pAd.pmkidCache apidx idx).valid = true ∧ (pAd.pmkidCache apidx idx).mac = addr := by
  have passed := List.find?_some found
  rw [Bool.and_eq_true, decide_eq_true_eq] at passed
  exact passed

/-- A search returns what was added last. -/
theorem CacheAdapter.Tracked.search (tracked : pAd.Tracked) (apidx : Nat) (addr : MacAddr) :
    (rtmpSearchPmkidCache pAd apidx addr).map (fun i => (pAd.pmkidCache apidx i).pair) =
      lastAdded apidx addr pAd.log := by
  cases found : rtmpSearchPmkidCache pAd apidx addr with
  | none =>
    cases last : lastAdded apidx addr pAd.log with
    | none => rfl
    | some pair =>
      obtain ⟨i, valid, same, _⟩ := (tracked.holds apidx addr pair).mpr last
      exact absurd same (search_eq_none found i valid)
  | some i =>
    obtain ⟨valid, same⟩ := search_eq_some found
    exact ((tracked.holds apidx addr _).mp ⟨i, valid, same, rfl⟩).symm

theorem setSlot_self (info : BssidInfo) : (setSlot pAd apidx idx info).pmkidCache apidx idx = info := by
  unfold setSlot
  dsimp only
  rw [Function.update_self, Function.update_self]

theorem setSlot_slot (info : BssidInfo) {i : CacheIdx} (apart : i ≠ idx) :
    (setSlot pAd apidx idx info).pmkidCache apidx i = pAd.pmkidCache apidx i := by
  unfold setSlot
  dsimp only
  rw [Function.update_self, Function.update_of_ne apart]

theorem setSlot_other (info : BssidInfo) {other : Nat} (apart : other ≠ apidx) :
    (setSlot pAd apidx idx info).pmkidCache other = pAd.pmkidCache other :=
  Function.update_of_ne apart ..

/-- What the caches hold when a slot is written whose address stands in no other one. -/
theorem holds_setSlot (info : BssidInfo) (other : Nat) (addr : MacAddr) (pair : PmkPair) :
    (setSlot pAd apidx idx info).Holds other addr pair ↔
      if other = apidx then
        (info.valid = true ∧ info.mac = addr ∧ info.pair = pair) ∨
          ∃ i ≠ idx, (pAd.pmkidCache apidx i).valid = true ∧ (pAd.pmkidCache apidx i).mac = addr ∧
            (pAd.pmkidCache apidx i).pair = pair
      else pAd.Holds other addr pair := by
  by_cases same : other = apidx
  · subst same
    rw [if_pos rfl]
    constructor
    · rintro ⟨i, held⟩
      by_cases own : i = idx
      · rw [own, setSlot_self] at held
        exact .inl held
      · rw [setSlot_slot info own] at held
        exact .inr ⟨i, own, held⟩
    · rintro (own | ⟨i, apart, held⟩)
      · refine ⟨idx, ?_⟩
        rw [setSlot_self]
        exact own
      · refine ⟨i, ?_⟩
        rw [setSlot_slot info apart]
        exact held
  · rw [if_neg same, CacheAdapter.Holds, CacheAdapter.Holds, setSlot_other info same]

/-- Addresses stay distinct when the one that is written stands in no other valid slot. -/
theorem CacheAdapter.Distinct.setSlot (distinct : pAd.Distinct) {info : BssidInfo}
    (alone : info.valid = true → ∀ i ≠ idx, (pAd.pmkidCache apidx i).valid = true →
      (pAd.pmkidCache apidx i).mac ≠ info.mac) :
    (setSlot pAd apidx idx info).Distinct := by
  intro other first second
  by_cases same : other = apidx
  · subst same
    by_cases one : first = idx
    · by_cases two : second = idx
      · intro _ _ _
        exact one.trans two.symm
      · rw [one, setSlot_self, setSlot_slot info two]
        intro valid validSecond macs
        exact absurd macs.symm (alone valid second two validSecond)
    · by_cases two : second = idx
      · rw [two, setSlot_self, setSlot_slot info one]
        intro validFirst valid macs
        exact absurd macs (alone valid first one validFirst)
      · rw [setSlot_slot info one, setSlot_slot info two]
        exact distinct other first second
  · rw [setSlot_other info same]
    exact distinct other first second

/-- A slot is given to an address that no other valid slot has. -/
theorem CacheAdapter.Tracked.write (tracked : pAd.Tracked) {info : BssidInfo}
    (valid : info.valid = true)
    (alone : ∀ i ≠ idx, (pAd.pmkidCache apidx i).valid = true →
      (pAd.pmkidCache apidx i).mac ≠ info.mac)
    (own : (pAd.pmkidCache apidx idx).valid = true → (pAd.pmkidCache apidx idx).mac = info.mac) :
    ((setSlot pAd apidx idx info).record (.added apidx info.mac info.pair)).Tracked := by
  have distinct : (setSlot pAd apidx idx info).Distinct := tracked.distinct.setSlot fun _ => alone
  refine ⟨distinct, ?_⟩
  intro other addr pair
  change (setSlot pAd apidx idx info).Holds other addr pair ↔
    lastAdded other addr (pAd.log ++ [.added apidx info.mac info.pair]) = some pair
  rw [lastAdded_append, holds_setSlot, after_added]
  by_cases same : other = apidx
  · subst same
    rw [if_pos rfl]
    by_cases named : info.mac = addr
    · subst named
      rw [if_pos ⟨rfl, rfl⟩, Option.some.injEq]
      constructor
      · rintro (⟨_, _, stored⟩ | ⟨i, apart, set, mac, _⟩)
        · exact stored
        · exact absurd mac (alone i apart set)
      · intro stored
        exact .inl ⟨valid, rfl, stored⟩
    · rw [if_neg (fun both => named both.2), ← tracked.holds]
      constructor
      · rintro (⟨_, mac, _⟩ | ⟨i, _, held⟩)
        · exact absurd mac named
        · exact ⟨i, held⟩
      · rintro ⟨i, held⟩
        refine .inr ⟨i, ?_, held⟩
        rintro rfl
        exact named ((own held.1).symm.trans held.2.1)
  · rw [if_neg same, if_neg (fun both => same both.1.symm)]
    exact tracked.holds other addr pair

/-- A valid slot is given up. -/
theorem CacheAdapter.Tracked.clear (tracked : pAd.Tracked)
    (valid : (pAd.pmkidCache apidx idx).valid = true) :
    ((setSlot pAd apidx idx { pAd.pmkidCache apidx idx with valid := false }).record
      (.removed apidx (pAd.pmkidCache apidx idx).mac)).Tracked := by
  have distinct : (setSlot pAd apidx idx
      { pAd.pmkidCache apidx idx with valid := false }).Distinct :=
    tracked.distinct.setSlot fun never => absurd never Bool.false_ne_true
  refine ⟨distinct, ?_⟩
  intro other addr pair
  change (setSlot pAd apidx idx { pAd.pmkidCache apidx idx with valid := false }).Holds other addr
    pair ↔ lastAdded other addr (pAd.log ++ [.removed apidx _]) = some pair
  rw [lastAdded_append, holds_setSlot, after_removed]
  by_cases same : other = apidx
  · subst same
    rw [if_pos rfl]
    by_cases named : (pAd.pmkidCache other idx).mac = addr
    · rw [if_pos ⟨rfl, named⟩]
      constructor
      · rintro (⟨never, _⟩ | ⟨i, apart, set, mac, _⟩)
        · cases never
        · exact absurd (tracked.distinct other i idx set valid (mac.trans named.symm)) apart
      · intro never
        cases never
    · rw [if_neg (fun both => named both.2), ← tracked.holds]
      constructor
      · rintro (⟨never, _⟩ | ⟨i, _, held⟩)
        · cases never
        · exact ⟨i, held⟩
      · rintro ⟨i, held⟩
        refine .inr ⟨i, ?_, held⟩
        rintro rfl
        exact named held.2.1
  · rw [if_neg same, if_neg (fun both => same both.1.symm)]
    exact tracked.holds other addr pair

/-- A slot that is overwritten is given up first. -/
theorem setSlot_setSlot (first second : BssidInfo) :
    setSlot (setSlot pAd apidx idx first) apidx idx second = setSlot pAd apidx idx second := by
  unfold setSlot
  dsimp only
  rw [Function.update_self, Function.update_idem, Function.update_idem]

theorem setSlot_record (event : CacheEvent) (info : BssidInfo) :
    setSlot (pAd.record event) apidx idx info = (setSlot pAd apidx idx info).record event := rfl

/-- A valid slot is given to a new address. -/
theorem CacheAdapter.Tracked.evict (tracked : pAd.Tracked) {info : BssidInfo}
    (valid : info.valid = true) (used : (pAd.pmkidCache apidx idx).valid = true)
    (absent : ∀ i, (pAd.pmkidCache apidx i).valid = true →
      (pAd.pmkidCache apidx i).mac ≠ info.mac) :
    (((setSlot pAd apidx idx info).record (.removed apidx (pAd.pmkidCache apidx idx).mac)).record
      (.added apidx info.mac info.pair)).Tracked := by
  rw [← setSlot_setSlot { pAd.pmkidCache apidx idx with valid := false } info, ← setSlot_record]
  apply (tracked.clear used).write valid
  · intro i apart set
    change ((setSlot pAd apidx idx _).pmkidCache apidx i).valid = true at set
    change ((setSlot pAd apidx idx _).pmkidCache apidx i).mac ≠ info.mac
    rw [setSlot_slot _ apart] at set ⊢
    exact absent i set
  · intro set
    change ((setSlot pAd apidx idx _).pmkidCache apidx idx).valid = true at set
    rw [setSlot_self] at set
    cases set

theorem CacheAdapter.Tracked.delete (tracked : pAd.Tracked) (apidx : Nat) (idx : CacheIdx) :
    (rtmpDeletePmkidCache pAd apidx idx).Tracked := by
  unfold rtmpDeletePmkidCache
  dsimp only
  split_ifs with valid
  · exact tracked.clear valid
  · exact tracked

/-- In a full cache all slots are valid. -/
theorem valid_of_freeSlot {cache : PmkidCache} (full : freeSlot cache = none) (i : CacheIdx) :
    (cache i).valid = true := by
  have passed := List.find?_eq_none.mp full i (List.mem_finRange i)
  rw [Bool.not_eq_true', Bool.not_eq_false] at passed
  exact passed

theorem CacheAdapter.Tracked.add (tracked : pAd.Tracked) (now : BitVec 64) (apidx : Nat)
    (addr : MacAddr) (pair : PmkPair) : (rtmpAddPmkidCache pAd now apidx addr pair).Tracked := by
  unfold rtmpAddPmkidCache
  dsimp only
  cases found : rtmpSearchPmkidCache pAd apidx addr with
  | some idx =>
    obtain ⟨valid, rfl⟩ := search_eq_some found
    have refreshed : ({ pAd.pmkidCache apidx idx with
      refreshTime := now, pair := pair } : BssidInfo).valid = true := valid
    apply tracked.write refreshed
    · intro i apart set mac
      exact apart (tracked.distinct apidx i idx set valid mac)
    · intro _
      rfl
  | none =>
    have absent := search_eq_none found
    cases free : freeSlot (pAd.pmkidCache apidx) with
    | some idx =>
      have invalid := List.find?_some free
      rw [Bool.not_eq_true'] at invalid
      have fresh : (⟨addr, pair, now, true⟩ : BssidInfo).valid = true := rfl
      apply tracked.write fresh
      · intro i _ set
        exact absent i set
      · intro set
        rw [invalid] at set
        cases set
    | none =>
      have fresh : (⟨addr, pair, now, true⟩ : BssidInfo).valid = true := rfl
      exact tracked.evict fresh (valid_of_freeSlot free _) absent

theorem CacheAdapter.Tracked.maintain (tracked : pAd.Tracked) (now : Nat → CacheIdx → BitVec 64) :
    (rtmpMaintainPmkidCache pAd now).Tracked := by
  unfold rtmpMaintainPmkidCache
  generalize (List.range pAd.maxMbssidNum).product (List.finRange maxPmkidCount) = places
  induction places generalizing pAd with
  | nil => exact tracked
  | cons place rest ih =>
    rw [List.foldl_cons]
    apply ih
    unfold maintainTurn
    dsimp only
    split_ifs
    · exact tracked.delete place.1 place.2
    · exact tracked

end Distinct

end Mt7612u.Wpa
