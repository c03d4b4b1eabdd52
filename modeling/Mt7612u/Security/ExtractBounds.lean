import Mt7612u.Security.ExtractSuite

/-! The offsets that `WPA_ExtractSuiteFromRSNIE` adds up over an element: none goes beyond what is
left of it, and what is returned lies inside. -/

namespace Mt7612u.Security
open Receive (Memory)
open Mlme (lenAt)

/-- One `pBuf += offset; len -= offset`, with what held in front of it. -/
structure Skip where
  pBuf : Nat
  len : Int
  offset : Int
  deriving DecidableEq, Repr

/-- No offset is negative or exceeds the length, which is what is left of the element. -/
def Skip.Within (rsnieLen : Nat) (skip : Skip) : Prop :=
  0 ≤ skip.offset ∧ skip.offset ≤ skip.len ∧ skip.pBuf + skip.len = rsnieLen

/-- How long one entry of a list is; the capabilities are one field of two bytes. -/
def SuiteType.width : SuiteType → Nat
  | .rsnCapInfo => 2
  | .pmkidList => 16
  | _ => 4

/-- `NULL` and no count, or so many entries that lie in the element. -/
def Inside (rsnieLen width : Nat) : Extracted → Prop
  | (none, count) => count = 0
  | (some place, count) => 2 ≤ place ∧ place + width * count ≤ rsnieLen

section walk
-- A `size_t` has `32 + wider` bits.
variable (wider : Nat)

/-- `len < sizeof(..)`: the comparison converts `len` to a `size_t`. -/
def lessThanSize (len : Int) (size : Nat) : Prop := len % 2 ^ (32 + wider) < size

instance (len : Int) (size : Nat) : Decidable (lessThanSize wider len size) :=
  inferInstanceAs (Decidable (len % 2 ^ (32 + wider) < (size : Int)))

/-- `sizeof(..) + unit * (count - 1)`, a `size_t` that is stored in an `INT`. -/
def offsetOf (size unit count : Nat) : Int :=
  (((size : Int) + unit * ((count : Int) - 1)) % 2 ^ (32 + wider)).bmod (2 ^ 32)

variable (rsnie : Memory) (type : SuiteType)

/-- From the capability field on. -/
def walkTail (pBuf : Nat) (len : Int) : List Skip × Extracted :=
  if lessThanSize wider len 2 then ([], (none, 0))
  else if type = .rsnCapInfo then ([], (some pBuf, 1))
  else
    let capability : Skip := ⟨pBuf, len, 2⟩
    let pBuf := pBuf + 2
    let len := len - 2
    if lessThanSize wider len 2 then ([capability], (none, 0))
    else
      let pCount := countAt rsnie pBuf
      let offset := if 0 < pCount then offsetOf wider 18 16 pCount else 2
      if 0 < pCount ∧ len < offset then ([capability], (none, 0))
      else if type = .pmkidList then
        ([capability], (if 0 < pCount then some (pBuf + 2) else none, pCount % 256))
      else ([capability, ⟨pBuf, len, offset⟩], (none, 0))

/-- From the AKM list on. -/
def walkAkm (kind : IeKind) (pBuf : Nat) (len : Int) : List Skip × Extracted :=
  if lessThanSize wider len 6 then ([], (none, 0))
  else
    let aCnt := countAt rsnie pBuf
    let offset := offsetOf wider 6 4 aCnt
    if len < offset then ([], (none, 0))
    else if type = .akmSuite then ([], (some (pBuf + 2), aCnt % 256))
    else
      match kind with
      | .wpaIe => ([], (none, 0))
      | .wpa2Ie =>
        let (skips, found) := walkTail wider rsnie type (pBuf + offset.toNat) (len - offset)
        (⟨pBuf, len, offset⟩ :: skips, found)

/-- One of the two layouts, whose octets start behind the id and the length. -/
def walkSuites (kind : IeKind) (len : Int) : List Skip × Extracted :=
  if lessThanSize wider len kind.size then ([], (none, 0))
  else
    let uCnt := countAt rsnie (2 + kind.version + 6)
    let offset := offsetOf wider kind.size 4 uCnt
    if len < offset then ([], (none, 0))
    else
      match type with
      | .groupSuite => ([], (some (2 + kind.version + 2), 1))
      | .pairwiseSuite => ([], (some (2 + kind.version + 8), uCnt % 256))
      | _ =>
        let (skips, found) := walkAkm wider rsnie type kind (2 + offset.toNat) (len - offset)
        (⟨2, len, offset⟩ :: skips, found)

/-- `WPA_ExtractSuiteFromRSNIE` in the integers of the code, with the offsets it skips. -/
def wpaExtractSuiteWalk (rsnieLen : BitVec 32) : List Skip × Extracted :=
  let len := (rsnieLen - 2).toInt
  if len ≤ 0 ∨ (lenAt rsnie 0 : Int) ≠ len then ([], (none, 0))
  else if (rsnie 0).toNat = ieWpa then walkSuites wider rsnie type .wpaIe len
  else if (rsnie 0).toNat = ieRsn then walkSuites wider rsnie type .wpa2Ie len
  else ([], (none, 0))

end walk

section ints
variable {wider : Nat}

/-- A length that is not negative compares as it is. -/
theorem lessThanSize_natCast {len size : Nat} (small : len < 256) :
    lessThanSize wider (len : Int) size ↔ len < size := by
  have wide : (2 : Int) ^ 32 ≤ 2 ^ (32 + wider) :=
    pow_le_pow_right₀ (by decide) (Nat.le_add_right 32 wider)
  unfold lessThanSize
  rw [Int.emod_eq_of_lt (Int.natCast_nonneg len) (by omega)]
  omega

/-- No count of sixteen bits makes an offset leave an `INT`. -/
theorem offsetOf_eq {size unit count : Nat} (room : unit ≤ size) (few : count < 65536)
    (small : size ≤ 18) : offsetOf wider size unit count = ((size - unit + unit * count : Nat) : Int) := by
  have wide : (2 : Int) ^ 32 ≤ 2 ^ (32 + wider) :=
    pow_le_pow_right₀ (by decide) (Nat.le_add_right 32 wider)
  have product : unit * count ≤ 18 * 65535 := Nat.mul_le_mul (by omega) (by omega)
  have value : (size : Int) + unit * ((count : Int) - 1) =
      ((size - unit + unit * count : Nat) : Int) := by
    push_cast [room]
    ring
  unfold offsetOf
  rw [value, Int.emod_eq_of_lt (Int.natCast_nonneg _) (by omega),
    Int.bmod_eq_of_le (by omega) (by omega)]

theorem countAt_lt (rsnie : Memory) (place : Nat) : countAt rsnie place < 65536 := by
  have high := (rsnie (place + 1)).toNat_lt
  have low := (rsnie place).toNat_lt
  unfold countAt
  omega

end ints

section within
variable {wider rsnieLen : Nat} {rsnie : Memory} {type : SuiteType}

/-- What a walk has to be: as the function on natural numbers, inside the element. -/
structure Walked (rsnieLen : Nat) (type : SuiteType) (walk : List Skip × Extracted)
    (found : Extracted) : Prop where
  same : walk.2 = found
  skips : ∀ skip ∈ walk.1, skip.Within rsnieLen
  inside : Inside rsnieLen type.width found

theorem Walked.nothing : Walked rsnieLen type ([], (none, 0)) (none, 0) :=
  ⟨rfl, by simp, rfl⟩

/-- One more offset in front, which leaves a length that is not negative. -/
theorem Walked.skip {skips : List Skip} {found result : Extracted} {first : Skip}
    (within : first.Within rsnieLen) (rest : Walked rsnieLen type (skips, found) result) :
    Walked rsnieLen type (first :: skips, found) result :=
  ⟨rest.same, List.forall_mem_cons.mpr ⟨within, rest.skips⟩, rest.inside⟩

theorem walkTail_walked {pBuf len : Nat} (behind : 2 ≤ pBuf) (whole : pBuf + len = rsnieLen)
    (small : len < 256) :
    Walked rsnieLen type (walkTail wider rsnie type pBuf len) (extractTail rsnie type pBuf len) := by
  unfold walkTail extractTail
  simp only [lessThanSize_natCast small]
  by_cases short : len < 2
  · rw [if_pos short, if_pos short]
    exact .nothing
  rw [if_neg short, if_neg short]
  by_cases isCap : type = .rsnCapInfo
  · rw [if_pos isCap, if_pos isCap]
    subst isCap
    refine ⟨rfl, by simp, behind, ?_⟩
    show pBuf + 2 * 1 ≤ rsnieLen
    omega
  · rw [if_neg isCap, if_neg isCap]
    have left : ((len : Int) - 2) = ((len - 2 : Nat) : Int) := by omega
    have capability : Skip.Within rsnieLen ⟨pBuf, len, 2⟩ := by
      refine ⟨by simp, ?_, ?_⟩ <;> simp only <;> omega
    rw [left]
    simp only [lessThanSize_natCast (show len - 2 < 256 by omega)]
    have few := countAt_lt rsnie (pBuf + 2)
    rcases Nat.eq_zero_or_pos (countAt rsnie (pBuf + 2)) with zero | some
    · simp only [zero, Nat.lt_irrefl, if_false, false_and]
      split_ifs with noCount isList
      · exact .skip capability .nothing
      · exact .skip capability ⟨rfl, by simp, rfl⟩
      · refine .skip capability (.skip ?_ .nothing)
        refine ⟨by simp, ?_, ?_⟩ <;> simp only <;> omega
    · rw [offsetOf_eq (by decide) few (by decide)]
      simp only [some, if_true, true_and]
      have fits : ((len - 2 : Nat) : Int) < ((18 - 16 + 16 * countAt rsnie (pBuf + 2) : Nat) : Int)
          ↔ len - 2 < 2 + 16 * countAt rsnie (pBuf + 2) := by omega
      simp only [fits]
      split_ifs with noCount long isList
      · exact .skip capability .nothing
      · exact .skip capability .nothing
      · subst isList
        refine .skip capability ⟨rfl, by simp, by omega, ?_⟩
        show pBuf + 4 + 16 * (countAt rsnie (pBuf + 2) % 256) ≤ rsnieLen
        omega
      · refine .skip capability (.skip ?_ .nothing)
        refine ⟨?_, ?_, ?_⟩ <;> simp only <;> omega

theorem walkAkm_walked {kind : IeKind} {pBuf len : Nat} (behind : 2 ≤ pBuf)
    (whole : pBuf + len = rsnieLen) (small : len < 256) :
    Walked rsnieLen type (walkAkm wider rsnie type kind pBuf len)
      (extractAkm rsnie type kind pBuf len) := by
  have few := countAt_lt rsnie pBuf
  unfold walkAkm extractAkm
  simp only [lessThanSize_natCast small]
  rw [offsetOf_eq (by decide) few (by decide)]
  have same : 6 - 4 + 4 * countAt rsnie pBuf = 2 + 4 * countAt rsnie pBuf := by omega
  rw [same]
  simp only [Nat.cast_lt, Int.toNat_natCast]
  split_ifs with short long isAkm
  · exact .nothing
  · exact .nothing
  · subst isAkm
    refine ⟨rfl, by simp, by omega, ?_⟩
    show pBuf + 2 + 4 * (countAt rsnie pBuf % 256) ≤ rsnieLen
    omega
  · cases kind with
    | wpaIe => exact .nothing
    | wpa2Ie =>
      have left : (len : Int) - ((2 + 4 * countAt rsnie pBuf : Nat) : Int) =
          ((len - (2 + 4 * countAt rsnie pBuf) : Nat) : Int) := by omega
      simp only [left]
      refine .skip ?_ (walkTail_walked (by omega) (by omega) (by omega))
      refine ⟨?_, ?_, ?_⟩ <;> simp only <;> omega

theorem walkSuites_walked {kind : IeKind} {len : Nat} (whole : 2 + len = rsnieLen)
    (small : len < 256) :
    Walked rsnieLen type (walkSuites wider rsnie type kind len)
      (extractSuites rsnie type kind len) := by
  have few := countAt_lt rsnie (2 + kind.version + 6)
  have size : kind.size = kind.version + 12 := rfl
  have version : kind.version ≤ 4 := by
    cases kind <;> decide
  unfold walkSuites extractSuites
  simp only [lessThanSize_natCast small]
  rw [offsetOf_eq (by omega) few (by omega)]
  have same : kind.size - 4 + 4 * countAt rsnie (2 + kind.version + 6) =
      kind.version + 8 + 4 * countAt rsnie (2 + kind.version + 6) := by omega
  rw [same]
  simp only [Nat.cast_lt, Int.toNat_natCast]
  generalize countAt rsnie (2 + kind.version + 6) = uCnt at few ⊢
  split_ifs with short long
  · exact .nothing
  · exact .nothing
  · have left : (len : Int) - ((kind.version + 8 + 4 * uCnt : Nat) : Int) =
        ((len - (kind.version + 8 + 4 * uCnt) : Nat) : Int) := by omega
    have first : Skip.Within rsnieLen ⟨2, len, ((kind.version + 8 + 4 * uCnt : Nat) : Int)⟩ := by
      refine ⟨?_, ?_, ?_⟩ <;> simp only <;> omega
    cases type with
    | groupSuite =>
      refine ⟨rfl, by simp, by omega, ?_⟩
      show 2 + kind.version + 2 + 4 * 1 ≤ rsnieLen
      omega
    | pairwiseSuite =>
      refine ⟨rfl, by simp, by omega, ?_⟩
      show 2 + kind.version + 8 + 4 * (uCnt % 256) ≤ rsnieLen
      omega
    | akmSuite | rsnCapInfo | pmkidList | gMgmtSuite =>
      simp only [left]
      exact .skip first (walkAkm_walked (by omega) (by omega) (by omega))

theorem walk_walked (rsnieLen : BitVec 32) :
    Walked rsnieLen.toNat type (wpaExtractSuiteWalk wider rsnie type rsnieLen)
      (wpaExtractSuiteFromRsnie rsnie type rsnieLen.toNat) := by
  have octet : lenAt rsnie 0 < 256 := (rsnie (0 + 1)).toNat_lt
  have bound : rsnieLen.toNat < 2 ^ 32 := rsnieLen.isLt
  have difference : (rsnieLen - 2).toNat = (2 ^ 32 - 2 + rsnieLen.toNat) % 2 ^ 32 := by
    simp [BitVec.toNat_sub]
  have value := BitVec.toInt_eq_toNat_cond (rsnieLen - 2)
  unfold wpaExtractSuiteWalk wpaExtractSuiteFromRsnie
  -- A length that the octet confirms is neither negative nor wrapped.
  have confirmed : ((rsnieLen - 2).toInt ≤ 0 ∨ (lenAt rsnie 0 : Int) ≠ (rsnieLen - 2).toInt) ↔
      (rsnieLen.toNat - 2 = 0 ∨ lenAt rsnie 0 ≠ rsnieLen.toNat - 2) := by
    omega
  simp only [confirmed]
  by_cases invalid : rsnieLen.toNat - 2 = 0 ∨ lenAt rsnie 0 ≠ rsnieLen.toNat - 2
  · rw [if_pos invalid, if_pos invalid]
    exact .nothing
  · rw [if_neg invalid, if_neg invalid]
    have len : (rsnieLen - 2).toInt = ((rsnieLen.toNat - 2 : Nat) : Int) := by
      omega
    rw [len]
    split_ifs with wpa rsn
    · exact walkSuites_walked (by omega) (by omega)
    · exact walkSuites_walked (by omega) (by omega)
    · exact .nothing

end within

section reads
variable {rsnie other : Memory} {type : SuiteType} {rsnieLen : Nat}
  (agree : ∀ i < rsnieLen, other i = rsnie i)

include agree in
theorem countAt_agree {place : Nat} (inside : place + 2 ≤ rsnieLen) :
    countAt other place = countAt rsnie place := by
  unfold countAt
  rw [agree _ (by omega), agree _ (by omega)]

include agree in
theorem extractTail_agree {pBuf len : Nat} (whole : pBuf + len ≤ rsnieLen) :
    extractTail other type pBuf len = extractTail rsnie type pBuf len := by
  unfold extractTail
  by_cases short : len - 2 < 2
  · simp only [short, if_true]
  · rw [countAt_agree agree (by omega)]

include agree in
theorem extractAkm_agree {kind : IeKind} {pBuf len : Nat} (whole : pBuf + len ≤ rsnieLen) :
    extractAkm other type kind pBuf len = extractAkm rsnie type kind pBuf len := by
  unfold extractAkm
  by_cases short : len < 6
  · rw [if_pos short, if_pos short]
  · rw [if_neg short, if_neg short, countAt_agree agree (by omega)]
    by_cases long : len < 2 + 4 * countAt rsnie pBuf
    · simp only [long, if_true]
    · cases kind with
      | wpaIe => rfl
      | wpa2Ie =>
        have rest (offset : Nat) (fits : ¬ len < offset) :
            extractTail other type (pBuf + offset) (len - offset) =
              extractTail rsnie type (pBuf + offset) (len - offset) :=
          extractTail_agree agree (by omega)
        simp only [rest _ long]

include agree in
theorem extractSuites_agree {kind : IeKind} {len : Nat} (whole : 2 + len ≤ rsnieLen) :
    extractSuites other type kind len = extractSuites rsnie type kind len := by
  have size : kind.size = kind.version + 12 := rfl
  unfold extractSuites
  by_cases short : len < kind.size
  · rw [if_pos short, if_pos short]
  · rw [if_neg short, if_neg short, countAt_agree agree (by omega)]
    by_cases long : len < kind.version + 8 + 4 * countAt rsnie (2 + kind.version + 6)
    · simp only [long, if_true]
    · have rest (offset : Nat) (fits : ¬ len < offset) :
          extractAkm other type kind (2 + offset) (len - offset) =
            extractAkm rsnie type kind (2 + offset) (len - offset) :=
        extractAkm_agree agree (by omega)
      simp only [rest _ long]

include agree in
/-- Nothing behind the element is read. -/
theorem extractSuite_agree :
    wpaExtractSuiteFromRsnie other type rsnieLen = wpaExtractSuiteFromRsnie rsnie type rsnieLen := by
  unfold wpaExtractSuiteFromRsnie
  by_cases empty : rsnieLen - 2 = 0
  · rw [if_pos (.inl empty), if_pos (.inl empty)]
  · have octet : lenAt other 0 = lenAt rsnie 0 := by
      unfold lenAt
      rw [agree _ (by omega)]
    have layouts (kind : IeKind) : extractSuites other type kind (rsnieLen - 2) =
        extractSuites rsnie type kind (rsnieLen - 2) :=
      extractSuites_agree agree (by omega)
    simp only [octet, agree 0 (by omega), layouts]

end reads

/-- For every element, length and request: no offset exceeds what is left, what is returned lies in
the element (with two bytes for the capabilities), and nothing behind it is read. -/
theorem extractSuite_inside (wider : Nat) (rsnie : Memory) (type : SuiteType)
    (rsnieLen : BitVec 32) :
    (∀ skip ∈ (wpaExtractSuiteWalk wider rsnie type rsnieLen).1, skip.Within rsnieLen.toNat) ∧
      Inside rsnieLen.toNat type.width (wpaExtractSuiteWalk wider rsnie type rsnieLen).2 ∧
      (wpaExtractSuiteWalk wider rsnie type rsnieLen).2 =
        wpaExtractSuiteFromRsnie rsnie type rsnieLen.toNat ∧
      ∀ other : Memory, (∀ i < rsnieLen.toNat, other i = rsnie i) →
        (wpaExtractSuiteWalk wider other type rsnieLen).2 =
          (wpaExtractSuiteWalk wider rsnie type rsnieLen).2 := by
  have walked : Walked rsnieLen.toNat type (wpaExtractSuiteWalk wider rsnie type rsnieLen) _ :=
    walk_walked rsnieLen
  refine ⟨walked.skips, walked.same ▸ walked.inside, walked.same, fun other agree => ?_⟩
  rw [walked.same, (walk_walked rsnieLen).same, extractSuite_agree agree]

/-- An RSN element that ends with its capabilities. -/
def capabilitiesLast : Memory := fun i =>
  [48, 20, 1, 0, 0, 15, 172, 4, 1, 0, 0, 15, 172, 4, 1, 0, 0, 15, 172, 2, 0, 0].getD i 0

/-- The one capability field has not the four bytes of a suite. -/
theorem capabilities_notFour :
    ¬ Inside 22 4 (wpaExtractSuiteWalk 0 capabilitiesLast .rsnCapInfo 22).2 := by
  have found : (wpaExtractSuiteWalk 0 capabilitiesLast .rsnCapInfo 22).2 = (some 20, 1) := by
    decide
  rw [found]
  rintro ⟨-, inside⟩
  omega

end Mt7612u.Security
