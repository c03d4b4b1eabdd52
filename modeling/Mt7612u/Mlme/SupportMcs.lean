import Mathlib

/-! `RTMPSetSupportMCS`: the two lists of rates of a peer are merged into a local array, and the
array is scanned for the rates of 11b and 11a/g. -/

namespace Mt7612u.Mlme.SupportMcs

/-- `MAX_LEN_OF_SUPPORTED_RATES`. -/
def maxLenOfSupportedRates : Nat := 12

def rateDefault : List (BitVec 8) := [0x82, 0x84, 0x8b, 0x96, 0x12, 0x24, 0x48, 0x6c]

/-- The rates of `SupportCCKMCS` and `SupportOFDMMCS` in units of 500 kbit/s. -/
def cckRates : List (BitVec 8) := [2, 4, 11, 22]

def ofdmRates : List (BitVec 8) := [12, 18, 24, 36, 48, 72, 96, 108]

/-- What the scan writes of `MAC_TABLE_ENTRY`. -/
structure MacTableEntry where
  supportCCKMCS : Nat → Bool
  supportOFDMMCS : Nat → Bool
  supportRateMode : BitVec 8

def supportCCKMode : BitVec 8 := 1

def supportOFDMMode : BitVec 8 := 2

def MacTableEntry.cleared : MacTableEntry := ⟨fun _ => false, fun _ => false, 0⟩

def MacTableEntry.setCCK (pEntry : MacTableEntry) (mcs : Nat) : MacTableEntry :=
  { pEntry with
    supportCCKMCS := Function.update pEntry.supportCCKMCS mcs true
    supportRateMode := pEntry.supportRateMode ||| supportCCKMode }

def MacTableEntry.setOFDM (pEntry : MacTableEntry) (mcs : Nat) : MacTableEntry :=
  { pEntry with
    supportOFDMMCS := Function.update pEntry.supportOFDMMCS mcs true
    supportRateMode := pEntry.supportRateMode ||| supportOFDMMode }

/-- The switch for one rate. -/
def MacTableEntry.record (pEntry : MacTableEntry) (rate : BitVec 8) : MacTableEntry :=
  match (rate &&& 0x7f).toNat * 5 with
  | 10 => pEntry.setCCK 0
  | 20 => pEntry.setCCK 1
  | 55 => pEntry.setCCK 2
  | 110 => pEntry.setCCK 3
  | 60 => pEntry.setOFDM 0
  | 90 => pEntry.setOFDM 1
  | 120 => pEntry.setOFDM 2
  | 180 => pEntry.setOFDM 3
  | 240 => pEntry.setOFDM 4
  | 360 => pEntry.setOFDM 5
  | 480 => pEntry.setOFDM 6
  | 540 => pEntry.setOFDM 7
  | _ => pEntry

/-- `SupportedRates` and its length, with the ranges written in it and how many bytes were read of
the two lists. -/
structure Merge where
  supportedRates : Nat → BitVec 8
  supportedRatesLen : Nat
  /-- Offset and number of bytes of each `memmove`. -/
  writes : List (Nat × Nat)
  supRead : Nat
  extRead : Nat

/-- `memmove(&SupportedRates[offset], source, count)`. -/
def Merge.copy (merge : Merge) (offset count : Nat) (source : Nat → BitVec 8) : Merge :=
  { merge with
    supportedRates := fun i =>
      if offset ≤ i ∧ i < offset + count then source (i - offset) else merge.supportedRates i
    writes := merge.writes ++ [(offset, count)] }

/-- A list in the caller's memory, with what lies behind it. -/
def inMemory (rates : List (BitVec 8)) (behind : Nat → BitVec 8) (i : Nat) : BitVec 8 :=
  rates.getD i (behind i)

/-- The `size_t` of `MAX_LEN_OF_SUPPORTED_RATES - ExtRateLen`. -/
def truncated (extRateLen : Nat) : Nat :=
  if extRateLen ≤ maxLenOfSupportedRates then maxLenOfSupportedRates - extRateLen
  else 2 ^ 64 - (extRateLen - maxLenOfSupportedRates)

/-- The first list. -/
def copySupRate (stack behind : Nat → BitVec 8) (supRate : List (BitVec 8)) : Merge :=
  let merge : Merge := ⟨stack, 0, [], 0, 0⟩
  if 0 < supRate.length then
    if supRate.length ≤ maxLenOfSupportedRates then
      { merge.copy 0 supRate.length (inMemory supRate behind) with
        supportedRatesLen := supRate.length
        supRead := supRate.length }
    else
      { merge.copy 0 8 (inMemory rateDefault behind) with supportedRatesLen := 8 }
  else merge

/-- The second list behind the first. -/
def copyExtRate (merge : Merge) (behind : Nat → BitVec 8) (supRateLen : Nat)
    (extRate : List (BitVec 8)) : Merge :=
  if 0 < extRate.length then
    if supRateLen + extRate.length ≤ maxLenOfSupportedRates then
      { merge.copy supRateLen extRate.length (inMemory extRate behind) with
        supportedRatesLen := merge.supportedRatesLen + extRate.length
        extRead := extRate.length }
    else
      { merge.copy supRateLen (truncated extRate.length) (inMemory extRate behind) with
        supportedRatesLen := maxLenOfSupportedRates
        extRead := truncated extRate.length }
  else merge

/-- The array as it is scanned. `stack` is what it held before. -/
def mergeRates (stack behind : Nat → BitVec 8) (supRate extRate : List (BitVec 8)) : Merge :=
  copyExtRate (copySupRate stack behind supRate) behind supRate.length extRate

def Merge.scanned (merge : Merge) : List (BitVec 8) :=
  (List.range merge.supportedRatesLen).map merge.supportedRates

/-- `RTMPSetSupportMCS` up to the HT rates. -/
def rtmpSetSupportMCS (stack behind : Nat → BitVec 8) (supRate extRate : List (BitVec 8)) :
    MacTableEntry :=
  (mergeRates stack behind supRate extRate).scanned.foldl MacTableEntry.record .cleared

/-- Writes stay in the array, reads in the two lists. -/
structure Merge.Inside (merge : Merge) (supRateLen extRateLen : Nat) : Prop where
  writes : ∀ write ∈ merge.writes, 0 < write.2 → write.1 + write.2 ≤ maxLenOfSupportedRates
  supRead : merge.supRead ≤ supRateLen
  extRead : merge.extRead ≤ extRateLen

/-- The flags are those of the rates, without the bit for a basic rate. -/
structure MacTableEntry.Records (pEntry : MacTableEntry) (rates : List (BitVec 8)) : Prop where
  cck : ∀ mcs, pEntry.supportCCKMCS mcs = true ↔
    ∃ rate ∈ rates, cckRates[mcs]? = some (rate &&& 0x7f)
  ofdm : ∀ mcs, pEntry.supportOFDMMCS mcs = true ↔
    ∃ rate ∈ rates, ofdmRates[mcs]? = some (rate &&& 0x7f)
  cckMode : pEntry.supportRateMode.getLsbD 0 = true ↔ ∃ rate ∈ rates, rate &&& 0x7f ∈ cckRates
  ofdmMode : pEntry.supportRateMode.getLsbD 1 = true ↔ ∃ rate ∈ rates, rate &&& 0x7f ∈ ofdmRates

section Scan
variable (pEntry : MacTableEntry) (rate : BitVec 8)

/-- What the switch does with a rate: nothing, or one of the flags. -/
theorem record_cases :
    (∃ mcs, cckRates[mcs]? = some (rate &&& 0x7f) ∧ pEntry.record rate = pEntry.setCCK mcs) ∨
      (∃ mcs, ofdmRates[mcs]? = some (rate &&& 0x7f) ∧ pEntry.record rate = pEntry.setOFDM mcs) ∨
      (rate &&& 0x7f ∉ cckRates ∧ rate &&& 0x7f ∉ ofdmRates ∧ pEntry.record rate = pEntry) := by
  have value : ∀ {n : Nat} (masked : BitVec 8), n < 256 → masked.toNat * 5 = n * 5 →
      masked = BitVec.ofNat 8 n := by
    intro n masked small same
    apply BitVec.eq_of_toNat_eq
    rw [BitVec.toNat_ofNat]
    omega
  unfold MacTableEntry.record
  generalize rate &&& 0x7f = masked
  split
  next same => exact Or.inl ⟨0, by rw [@value 2 masked (by decide) same]; decide, rfl⟩
  next same => exact Or.inl ⟨1, by rw [@value 4 masked (by decide) same]; decide, rfl⟩
  next same => exact Or.inl ⟨2, by rw [@value 11 masked (by decide) same]; decide, rfl⟩
  next same => exact Or.inl ⟨3, by rw [@value 22 masked (by decide) same]; decide, rfl⟩
  next same => exact Or.inr (Or.inl ⟨0, by rw [@value 12 masked (by decide) same]; decide, rfl⟩)
  next same => exact Or.inr (Or.inl ⟨1, by rw [@value 18 masked (by decide) same]; decide, rfl⟩)
  next same => exact Or.inr (Or.inl ⟨2, by rw [@value 24 masked (by decide) same]; decide, rfl⟩)
  next same => exact Or.inr (Or.inl ⟨3, by rw [@value 36 masked (by decide) same]; decide, rfl⟩)
  next same => exact Or.inr (Or.inl ⟨4, by rw [@value 48 masked (by decide) same]; decide, rfl⟩)
  next same => exact Or.inr (Or.inl ⟨5, by rw [@value 72 masked (by decide) same]; decide, rfl⟩)
  next same => exact Or.inr (Or.inl ⟨6, by rw [@value 96 masked (by decide) same]; decide, rfl⟩)
  next same => exact Or.inr (Or.inl ⟨7, by rw [@value 108 masked (by decide) same]; decide, rfl⟩)
  next =>
    apply Or.inr ∘ Or.inr
    constructor
    · intro listed
      simp only [cckRates, List.mem_cons, List.not_mem_nil, or_false] at listed
      rcases listed with rfl | rfl | rfl | rfl <;> simp_all
    · constructor
      · intro listed
        simp only [ofdmRates, List.mem_cons, List.not_mem_nil, or_false] at listed
        rcases listed with rfl | rfl | rfl | rfl | rfl | rfl | rfl | rfl <;> simp_all
      · rfl

variable {pEntry rate} {rates : List (BitVec 8)}

theorem cckRates_not_ofdmRates {masked : BitVec 8} (listed : masked ∈ cckRates) :
    masked ∉ ofdmRates := by
  have disjoint : ∀ masked ∈ cckRates, masked ∉ ofdmRates := by decide
  exact disjoint masked listed

/-- A flag after one more rate: the last rate's, or one from before. -/
theorem exists_concat {holds : BitVec 8 → Prop} :
    (∃ found ∈ rates ++ [rate], holds found) ↔ (∃ found ∈ rates, holds found) ∨ holds rate := by
  constructor
  · intro ⟨found, listed, held⟩
    rcases List.mem_append.mp listed with before | last
    · exact Or.inl ⟨found, before, held⟩
    · exact Or.inr (List.mem_singleton.mp last ▸ held)
  · intro either
    rcases either with ⟨found, before, held⟩ | held
    · exact ⟨found, List.mem_append_left _ before, held⟩
    · exact ⟨rate, List.mem_append_right _ (List.mem_singleton_self rate), held⟩

/-- A rate that a table does not have stands at no place of it. -/
theorem unlisted_at {table : List (BitVec 8)} {masked : BitVec 8} (unlisted : masked ∉ table)
    (mcs : Nat) : table[mcs]? ≠ some masked := by
  intro at_mcs
  exact unlisted (List.mem_of_getElem? at_mcs)

theorem update_iff {flags : Nat → Bool} {table : List (BitVec 8)} {place mcs : Nat}
    {masked : BitVec 8} (distinct : table.Nodup) (at_place : table[place]? = some masked) :
    Function.update flags place true mcs = true ↔
      flags mcs = true ∨ table[mcs]? = some masked := by
  by_cases same : mcs = place
  · subst same
    rw [Function.update_self]
    exact iff_of_true rfl (Or.inr at_place)
  · rw [Function.update_of_ne same]
    have other : table[mcs]? ≠ some masked := by
      intro found
      have bound := (List.getElem?_eq_some_iff.mp found).1
      exact same ((List.getElem?_inj bound distinct).mp (found.trans at_place.symm))
    simp only [other, or_false]

theorem setCCK_mode {mcs : Nat} :
    (pEntry.setCCK mcs).supportRateMode.getLsbD 0 = true ∧
      (pEntry.setCCK mcs).supportRateMode.getLsbD 1 = pEntry.supportRateMode.getLsbD 1 := by
  simp [MacTableEntry.setCCK, supportCCKMode]

theorem setOFDM_mode {mcs : Nat} :
    (pEntry.setOFDM mcs).supportRateMode.getLsbD 0 = pEntry.supportRateMode.getLsbD 0 ∧
      (pEntry.setOFDM mcs).supportRateMode.getLsbD 1 = true := by
  simp [MacTableEntry.setOFDM, supportOFDMMode]

/-- One rate adds its flag and no other. -/
theorem record_records (before : pEntry.Records rates) :
    (pEntry.record rate).Records (rates ++ [rate]) := by
  rcases record_cases pEntry rate with ⟨place, found, step⟩ | ⟨place, found, step⟩ |
    ⟨notCck, notOfdm, step⟩
  · have listed : rate &&& 0x7f ∈ cckRates := List.mem_of_getElem? found
    have other := cckRates_not_ofdmRates listed
    rw [step]
    constructor
    · intro mcs
      rw [exists_concat, ← before.cck mcs]
      exact update_iff (by decide) found
    · intro mcs
      have unlisted := unlisted_at other mcs
      rw [exists_concat, ← before.ofdm mcs]
      simp only [unlisted, or_false]
      rfl
    · rw [exists_concat]
      exact iff_of_true setCCK_mode.1 (Or.inr listed)
    · rw [exists_concat, ← before.ofdmMode, setCCK_mode.2]
      exact (or_iff_left other).symm
  · have listed : rate &&& 0x7f ∈ ofdmRates := List.mem_of_getElem? found
    have other : rate &&& 0x7f ∉ cckRates := fun cck => cckRates_not_ofdmRates cck listed
    rw [step]
    constructor
    · intro mcs
      have unlisted := unlisted_at other mcs
      rw [exists_concat, ← before.cck mcs]
      simp only [unlisted, or_false]
      rfl
    · intro mcs
      rw [exists_concat, ← before.ofdm mcs]
      exact update_iff (by decide) found
    · rw [exists_concat, ← before.cckMode, setOFDM_mode.1]
      exact (or_iff_left other).symm
    · rw [exists_concat]
      exact iff_of_true setOFDM_mode.2 (Or.inr listed)
  · rw [step]
    constructor
    · intro mcs
      have unlisted := unlisted_at notCck mcs
      rw [exists_concat, ← before.cck mcs]
      simp only [unlisted, or_false]
    · intro mcs
      have unlisted := unlisted_at notOfdm mcs
      rw [exists_concat, ← before.ofdm mcs]
      simp only [unlisted, or_false]
    · rw [exists_concat, ← before.cckMode]
      simp only [notCck, or_false]
    · rw [exists_concat, ← before.ofdmMode]
      simp only [notOfdm, or_false]

theorem foldl_records (before : pEntry.Records rates) (later : List (BitVec 8)) :
    (later.foldl MacTableEntry.record pEntry).Records (rates ++ later) := by
  induction later generalizing pEntry rates with
  | nil => simpa using before
  | cons rate later ih =>
    have step : (pEntry.record rate).Records (rates ++ [rate]) := record_records before
    have next := ih step
    rwa [List.append_assoc, List.singleton_append] at next

theorem cleared_records : MacTableEntry.cleared.Records [] := by
  constructor <;> simp [MacTableEntry.cleared]

/-- The flags that are recorded are those of the bytes that were scanned. -/
theorem scan_records (later : List (BitVec 8)) :
    (later.foldl MacTableEntry.record .cleared).Records later := by
  simpa using foldl_records cleared_records later

/-- Two lists with the same flags have the same rates. -/
theorem Records.same {other : List (BitVec 8)} (one : pEntry.Records rates)
    (two : pEntry.Records other) {masked : BitVec 8} (listed : masked ∈ cckRates ++ ofdmRates) :
    (∃ rate ∈ rates, rate &&& 0x7f = masked) ↔ ∃ rate ∈ other, rate &&& 0x7f = masked := by
  rcases List.mem_append.mp listed with cck | ofdm
  · obtain ⟨mcs, found⟩ := List.mem_iff_getElem?.mp cck
    have flags := (one.cck mcs).symm.trans (two.cck mcs)
    simpa only [found, Option.some.injEq, eq_comm] using flags
  · obtain ⟨mcs, found⟩ := List.mem_iff_getElem?.mp ofdm
    have flags := (one.ofdm mcs).symm.trans (two.ofdm mcs)
    simpa only [found, Option.some.injEq, eq_comm] using flags

end Scan

section Merged
variable (stack behind : Nat → BitVec 8) (supRate extRate : List (BitVec 8))

/-- The two lists, as far as the array has room. -/
def merged : List (BitVec 8) := (supRate ++ extRate).take maxLenOfSupportedRates

/-- The accesses are inside and the flags exact, whatever was on the stack and behind the lists. -/
def Exact : Prop :=
  ∀ stack behind : Nat → BitVec 8,
    (mergeRates stack behind supRate extRate).Inside supRate.length extRate.length ∧
      (rtmpSetSupportMCS stack behind supRate extRate).Records (merged supRate extRate)

variable {stack behind supRate extRate}

theorem copySupRate_of_le (short : supRate.length ≤ maxLenOfSupportedRates) :
    (copySupRate stack behind supRate).supportedRatesLen = supRate.length ∧
      (copySupRate stack behind supRate).supRead = supRate.length ∧
      (copySupRate stack behind supRate).extRead = 0 ∧
      (∀ write ∈ (copySupRate stack behind supRate).writes,
        write.1 + write.2 ≤ maxLenOfSupportedRates) ∧
      ∀ i, (copySupRate stack behind supRate).supportedRates i = supRate.getD i (stack i) := by
  unfold copySupRate
  by_cases some_rates : 0 < supRate.length
  · simp only [if_pos some_rates, if_pos short]
    refine ⟨trivial, trivial, rfl, ?_, ?_⟩
    · intro write found
      simp only [Merge.copy, List.nil_append, List.mem_singleton] at found
      rw [found, Nat.zero_add]
      exact short
    · intro i
      by_cases inside : i < supRate.length
      · simp [Merge.copy, inMemory, inside]
      · simp [Merge.copy, inside]
  · have none : supRate = [] := List.eq_nil_of_length_eq_zero (by omega)
    subst none
    simp

/-- The array after the second list: `count` bytes of it stand behind the first. -/
theorem scanned_of_count {count : Nat} {merge : Merge} (len : Nat)
    (within : supRate.length + count ≤ len) (available : count ≤ extRate.length)
    (first : ∀ i, merge.supportedRates i = supRate.getD i (stack i)) :
    ({ merge.copy supRate.length count (inMemory extRate behind) with
        supportedRatesLen := len } : Merge).scanned =
      supRate ++ extRate.take count ++
        (List.range' (supRate.length + count) (len - (supRate.length + count))).map stack := by
  apply List.ext_getElem?
  intro i
  unfold Merge.scanned
  rcases Nat.lt_or_ge i supRate.length with inSup | afterSup
  · have below : i < len := by omega
    simp [Merge.copy, below, inSup, first, Nat.not_le.mpr inSup, List.getElem?_append]
  · rcases Nat.lt_or_ge i (supRate.length + count) with inExt | afterExt
    · have below : i < len := by omega
      have place : i - supRate.length < count := by omega
      have inside : i - supRate.length < extRate.length := by omega
      simp [Merge.copy, below, Nat.not_lt.mpr afterSup, afterSup, inExt, List.getElem?_append,
        inMemory, place, inside, available]
    · have beyond : ¬i - supRate.length < count := by omega
      have whole : min count extRate.length = count := by omega
      rcases Nat.lt_or_ge i len with below | above
      · have place : i - supRate.length - count < len - (supRate.length + count) := by omega
        have same : supRate.length + count + (i - supRate.length - count) = i := by omega
        simp [Merge.copy, below, Nat.not_lt.mpr afterExt, first, List.getElem?_append, beyond,
          whole, place, same, Nat.not_lt.mpr afterSup]
      · have place : len - (supRate.length + count) ≤ i - supRate.length - count := by omega
        simp [Nat.not_lt.mpr above, List.getElem?_append, beyond, whole, place,
          Nat.not_lt.mpr afterSup]

/-- When the array has room the lists are copied whole. -/
theorem mergeRates_room (room : supRate.length + extRate.length ≤ maxLenOfSupportedRates) :
    (mergeRates stack behind supRate extRate).Inside supRate.length extRate.length ∧
      (mergeRates stack behind supRate extRate).scanned = supRate ++ extRate := by
  have short : supRate.length ≤ maxLenOfSupportedRates := by omega
  obtain ⟨len, supRead, extRead, writes, bytes⟩ :=
    @copySupRate_of_le stack behind supRate short
  unfold mergeRates copyExtRate
  by_cases extended : 0 < extRate.length
  · rw [if_pos extended, if_pos room, len]
    constructor
    · constructor
      · intro write found _
        rcases List.mem_append.mp found with first | second
        · exact writes write first
        · rw [List.mem_singleton.mp second]
          exact room
      · exact supRead.le
      · exact le_refl _
    · have whole := @scanned_of_count stack behind supRate extRate extRate.length _
        (supRate.length + extRate.length) le_rfl le_rfl bytes
      rw [List.take_length, Nat.sub_self, List.range'_zero, List.map_nil, List.append_nil] at whole
      exact whole
  · have none : extRate = [] := List.eq_nil_of_length_eq_zero (by omega)
    subst none
    rw [if_neg extended]
    constructor
    · constructor
      · intro write found _
        exact writes write found
      · exact supRead.le
      · exact extRead.le
    · apply List.ext_getElem?
      intro i
      unfold Merge.scanned
      rw [len]
      by_cases inside : i < supRate.length
      · simp [inside, bytes]
      · simp [inside]

/-- When it has not, `MAX_LEN_OF_SUPPORTED_RATES - ExtRateLen` bytes are copied. -/
theorem mergeRates_crowded (short : supRate.length ≤ maxLenOfSupportedRates)
    (extShort : extRate.length ≤ maxLenOfSupportedRates)
    (crowded : maxLenOfSupportedRates < supRate.length + extRate.length) :
    mergeRates stack behind supRate extRate =
      { (copySupRate stack behind supRate).copy supRate.length
          (maxLenOfSupportedRates - extRate.length) (inMemory extRate behind) with
        supportedRatesLen := maxLenOfSupportedRates
        extRead := maxLenOfSupportedRates - extRate.length } := by
  have extended : 0 < extRate.length := by omega
  unfold mergeRates copyExtRate truncated
  rw [if_pos extended, if_neg (by omega), if_pos extShort]

theorem scanned_crowded (short : supRate.length ≤ maxLenOfSupportedRates)
    (extShort : extRate.length ≤ maxLenOfSupportedRates)
    (crowded : maxLenOfSupportedRates < supRate.length + extRate.length)
    (ordered : supRate.length ≤ extRate.length) :
    (mergeRates stack behind supRate extRate).scanned =
      supRate ++ extRate.take (maxLenOfSupportedRates - extRate.length) ++
        (List.range' (supRate.length + (maxLenOfSupportedRates - extRate.length))
          (extRate.length - supRate.length)).map stack := by
  obtain ⟨-, -, -, -, bytes⟩ := @copySupRate_of_le stack behind supRate short
  have available : maxLenOfSupportedRates - extRate.length ≤ extRate.length := by omega
  have count := @scanned_of_count stack behind supRate extRate
    (maxLenOfSupportedRates - extRate.length) _ maxLenOfSupportedRates (by omega) available bytes
  have rest : maxLenOfSupportedRates - (supRate.length + (maxLenOfSupportedRates - extRate.length)) =
      extRate.length - supRate.length := by omega
  rw [rest] at count
  rw [mergeRates_crowded short extShort crowded]
  exact count

/-- Fewer bytes than there are rates miss one of the rates. -/
theorem exists_missing (found : List (BitVec 8)) (few : found.length < maxLenOfSupportedRates) :
    ∃ masked ∈ cckRates ++ ofdmRates, ∀ rate ∈ found, rate &&& 0x7f ≠ masked := by
  have card : (found.map (· &&& 0x7f)).toFinset.card < (cckRates ++ ofdmRates).toFinset.card := by
    calc
      (found.map (· &&& 0x7f)).toFinset.card ≤ (found.map (· &&& 0x7f)).length :=
        List.toFinset_card_le _
      _ = found.length := List.length_map _
      _ < maxLenOfSupportedRates := few
      _ = (cckRates ++ ofdmRates).toFinset.card := by decide
  obtain ⟨masked, listed, missing⟩ := Finset.exists_mem_notMem_of_card_lt_card card
  refine ⟨masked, List.mem_toFinset.mp listed, ?_⟩
  intro rate inFound same
  apply missing
  rw [List.mem_toFinset, List.mem_map]
  exact ⟨rate, inFound, same⟩

/-- Where bytes of the stack are scanned, some of them change the flags. -/
theorem not_exact_of_stack (short : supRate.length ≤ maxLenOfSupportedRates)
    (extShort : extRate.length ≤ maxLenOfSupportedRates)
    (crowded : maxLenOfSupportedRates < supRate.length + extRate.length)
    (below : supRate.length < extRate.length) : ¬Exact supRate extRate := by
  intro exact_flags
  let copied := supRate ++ extRate.take (maxLenOfSupportedRates - extRate.length)
  have few : copied.length < maxLenOfSupportedRates := by
    simp only [copied, List.length_append, List.length_take]
    omega
  obtain ⟨masked, listed, missing⟩ := exists_missing copied few
  have scanned := fun byte : BitVec 8 => @scanned_crowded (fun _ => byte) (fun _ => 0) supRate
    extRate short extShort crowded below.le
  have flags : ∀ byte : BitVec 8, (∃ rate ∈ (mergeRates (fun _ => byte) (fun _ => 0) supRate
      extRate).scanned, rate &&& 0x7f = masked) ↔
      ∃ rate ∈ merged supRate extRate, rate &&& 0x7f = masked :=
    fun byte => Records.same (scan_records _) (exact_flags (fun _ => byte) (fun _ => 0)).2 listed
  have range : ∀ rate ∈ cckRates ++ ofdmRates, rate &&& 0x7f = rate ∧ rate ≠ 0 := by decide
  by_cases wanted : ∃ rate ∈ merged supRate extRate, rate &&& 0x7f = masked
  · -- a rate that was lost is not made up for by a stack of zeros
    obtain ⟨rate, inScan, same⟩ := (flags 0).mpr wanted
    rw [scanned] at inScan
    rcases List.mem_append.mp inScan with inCopied | inStack
    · exact missing rate inCopied same
    · obtain ⟨_, _, zero⟩ := List.mem_map.mp inStack
      apply (range masked listed).2
      rw [← same, ← zero]
      decide
  · -- and one that the peer does not have is found on the stack
    apply wanted
    apply (flags masked).mp
    refine ⟨masked, ?_, (range masked listed).1⟩
    rw [scanned]
    apply List.mem_append_right
    rw [List.mem_map]
    refine ⟨supRate.length + (maxLenOfSupportedRates - extRate.length), ?_, rfl⟩
    rw [List.mem_range'_1]
    omega

/-- `RTMPSetSupportMCS` stays in its array and in the lists of its caller, and records the rates of
the merged list, exactly when the lists fit the array together or are equally long: it truncates by
the length of the second list where the length of the first is meant. -/
theorem rtmpSetSupportMCS_exact_iff (supRate extRate : List (BitVec 8))
    (short : supRate.length ≤ maxLenOfSupportedRates)
    (extShort : extRate.length ≤ maxLenOfSupportedRates) :
    Exact supRate extRate ↔ supRate.length + extRate.length ≤ maxLenOfSupportedRates ∨
      supRate.length = extRate.length := by
  rcases Nat.lt_or_ge maxLenOfSupportedRates (supRate.length + extRate.length) with crowded | room
  · rcases Nat.lt_trichotomy supRate.length extRate.length with below | same | above
    · apply iff_of_false (not_exact_of_stack short extShort crowded below)
      omega
    · apply iff_of_true _ (Or.inr same)
      intro stack behind
      have scanned := @scanned_crowded stack behind supRate extRate short extShort crowded same.le
      constructor
      · rw [mergeRates_crowded short extShort crowded]
        obtain ⟨-, supRead, -, writes, -⟩ := @copySupRate_of_le stack behind supRate short
        constructor
        · intro write found _
          rcases List.mem_append.mp found with first | second
          · exact writes write first
          · rw [List.mem_singleton.mp second]
            simp only
            omega
        · exact supRead.le
        · simp only
          omega
      · have whole : merged supRate extRate =
            supRate ++ extRate.take (maxLenOfSupportedRates - extRate.length) := by
          unfold merged
          rw [List.take_append, List.take_of_length_le short, same]
        rw [same, Nat.sub_self, List.range'_zero, List.map_nil, List.append_nil] at scanned
        rw [whole, ← scanned]
        exact scan_records _
    · apply iff_of_false
      · intro exact_flags
        have inside := (exact_flags (fun _ => 0) (fun _ => 0)).1
        rw [mergeRates_crowded short extShort crowded] at inside
        have last := inside.writes
          (supRate.length, maxLenOfSupportedRates - extRate.length)
          (List.mem_append_right _ (List.mem_singleton_self _))
        by_cases copies : 0 < maxLenOfSupportedRates - extRate.length
        · have bound := last copies
          simp only at bound
          omega
        · omega
      · omega
  · apply iff_of_true _ (Or.inl room)
    intro stack behind
    obtain ⟨inside, scanned⟩ := @mergeRates_room stack behind supRate extRate room
    apply And.intro inside
    have whole : merged supRate extRate = supRate ++ extRate := by
      unfold merged
      rw [List.take_of_length_le]
      rw [List.length_append]
      exact room
    rw [whole, ← scanned]
    exact scan_records _

end Merged

/-- The eight rates of 11g and four more behind them. -/
def rates11g : List (BitVec 8) := [0x82, 0x84, 0x8b, 0x96, 0x0c, 0x12, 0x18, 0x24]

theorem rtmpSetSupportMCS_exact_11g :
    rates11g.length ≤ maxLenOfSupportedRates ∧
      [0x30, 0x48, 0x60, (0x6c : BitVec 8)].length ≤ maxLenOfSupportedRates ∧
      (Exact rates11g [0x30, 0x48, 0x60, 0x6c] ↔
        rates11g.length + [0x30, 0x48, 0x60, (0x6c : BitVec 8)].length ≤ maxLenOfSupportedRates ∨
          rates11g.length = [0x30, 0x48, 0x60, (0x6c : BitVec 8)].length) :=
  ⟨by decide, by decide, rtmpSetSupportMCS_exact_iff rates11g [0x30, 0x48, 0x60, 0x6c] (by decide)
    (by decide)⟩

/-- Twelve rates and one more: eleven bytes are written behind the array. -/
theorem not_rtmpSetSupportMCS_exact :
    ¬∀ supRate extRate : List (BitVec 8), supRate.length ≤ maxLenOfSupportedRates →
      extRate.length ≤ maxLenOfSupportedRates → Exact supRate extRate := by
  intro always
  have inside := (always (List.replicate 12 0x82) [0x6c] (by decide) (by decide) (fun _ => 0)
    (fun _ => 0)).1
  exact absurd (inside.writes (12, 11) (by decide)) (by decide)

end Mt7612u.Mlme.SupportMcs
