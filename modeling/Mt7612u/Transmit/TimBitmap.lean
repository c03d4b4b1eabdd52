import Mathlib

/-! The traffic bitmap of a BSS and the macros of `rtmp.h` that mark a bit of it. -/

namespace Mt7612u.Transmit

/-- `WLAN_MAX_NUM_OF_TIM`, one byte more than the bits of all MAC table entries fill. -/
def wlanMaxNumOfTim : Nat := 15

/-- `TimBitmaps` of `MULTISSID_STRUCT`. -/
abbrev TimBitmaps := Fin wlanMaxNumOfTim → BitVec 8

namespace TimBitmaps

/-- The bit of an association identifier. -/
def bit (pTim : TimBitmaps) (aid : Nat) : Bool :=
  if inside : aid / 8 < wlanMaxNumOfTim then (pTim ⟨aid / 8, inside⟩).getLsbD (aid % 8) else false

/-- `NUM_BIT8`. -/
def numBit8 (bitOffset : Nat) : BitVec 8 := 1#8 <<< bitOffset

/-- One byte of the array changed; a write behind the array is not modelled. -/
def modify (pTim : TimBitmaps) (timOffset : Nat) (change : BitVec 8 → BitVec 8) : TimBitmaps :=
  if inside : timOffset < wlanMaxNumOfTim then
    Function.update pTim ⟨timOffset, inside⟩ (change (pTim ⟨timOffset, inside⟩))
  else pTim

def timOffset (aid : BitVec 16) : Nat := ((aid >>> 3).setWidth 8).toNat
def bitOffset (aid : BitVec 16) : Nat := (aid &&& 7).toNat

/-- `WLAN_MR_TIM_BIT_SET`. -/
def timBitSet (pTim : TimBitmaps) (aid : BitVec 16) : TimBitmaps :=
  pTim.modify (timOffset aid) (· ||| numBit8 (bitOffset aid))

/-- `WLAN_MR_TIM_BIT_CLEAR`. -/
def timBitClear (pTim : TimBitmaps) (aid : BitVec 16) : TimBitmaps :=
  pTim.modify (timOffset aid) (· &&& ~~~ numBit8 (bitOffset aid))

/-- `WLAN_MR_TIM_BCMC_SET`. -/
def timBcmcSet (pTim : TimBitmaps) : TimBitmaps := pTim.modify 0 (· ||| numBit8 0)

theorem timOffset_eq (aid : BitVec 16) (bounded : aid.toNat < 8 * wlanMaxNumOfTim) :
    timOffset aid = aid.toNat / 8 := by
  simp only [wlanMaxNumOfTim] at bounded
  simp only [timOffset, BitVec.toNat_setWidth, BitVec.toNat_ushiftRight, Nat.shiftRight_eq_div_pow]
  omega

theorem bitOffset_eq (aid : BitVec 16) : bitOffset aid = aid.toNat % 8 := by
  have mask := Nat.and_two_pow_sub_one_eq_mod aid.toNat 3
  simpa [bitOffset] using mask

theorem getLsbD_numBit8 (bitOffset i : Nat) (inside : i < 8) :
    (numBit8 bitOffset).getLsbD i = decide (i = bitOffset) := by
  by_cases same : i = bitOffset
  · subst same
    simp [numBit8, inside]
  · rcases Nat.lt_or_gt_of_ne same with below | above
    · simp [numBit8, below, same]
    · have apart : i - bitOffset ≠ 0 := by omega
      simp [numBit8, BitVec.getLsbD_one, same, apart]

/-- A change of one byte that acts on its bits separately acts on the bits of the array. -/
theorem bit_modify (pTim : TimBitmaps) (timOffset : Nat) (inside : timOffset < wlanMaxNumOfTim)
    (change : BitVec 8 → BitVec 8) (aid : Nat) :
    (pTim.modify timOffset change).bit aid =
      if aid / 8 = timOffset then (change (pTim ⟨timOffset, inside⟩)).getLsbD (aid % 8)
      else pTim.bit aid := by
  unfold modify bit
  rw [dif_pos inside]
  by_cases here : aid / 8 = timOffset
  · subst here
    rw [if_pos rfl, dif_pos inside, Function.update_self]
  · rw [if_neg here]
    split
    next within =>
      rw [Function.update_of_ne]
      intro same
      exact here (Fin.mk.inj_iff.mp same)
    next => rfl

theorem bit_timBitSet (pTim : TimBitmaps) (aid : BitVec 16)
    (bounded : aid.toNat < 8 * wlanMaxNumOfTim) (a : Nat) :
    (pTim.timBitSet aid).bit a = (decide (a = aid.toNat) || pTim.bit a) := by
  have inside : aid.toNat / 8 < wlanMaxNumOfTim := by omega
  unfold timBitSet
  rw [timOffset_eq aid bounded, bitOffset_eq, bit_modify _ _ inside]
  by_cases here : a / 8 = aid.toNat / 8
  · have same : (a % 8 = aid.toNat % 8) = (a = aid.toNat) := by
      apply propext
      omega
    rw [if_pos here, BitVec.getLsbD_or, getLsbD_numBit8 _ _ (Nat.mod_lt _ (by decide))]
    simp only [same, bit, here, inside, ↓reduceDIte, Bool.or_comm]
  · have apart : a ≠ aid.toNat := by
      intro same
      exact here (congrArg (· / 8) same)
    simp [here, apart]

theorem bit_timBitClear (pTim : TimBitmaps) (aid : BitVec 16)
    (bounded : aid.toNat < 8 * wlanMaxNumOfTim) (a : Nat) :
    (pTim.timBitClear aid).bit a = (!decide (a = aid.toNat) && pTim.bit a) := by
  have inside : aid.toNat / 8 < wlanMaxNumOfTim := by omega
  unfold timBitClear
  rw [timOffset_eq aid bounded, bitOffset_eq, bit_modify _ _ inside]
  by_cases here : a / 8 = aid.toNat / 8
  · have same : (a % 8 = aid.toNat % 8) = (a = aid.toNat) := by
      apply propext
      omega
    have small : a % 8 < 8 := Nat.mod_lt _ (by decide)
    rw [if_pos here, BitVec.getLsbD_and, BitVec.getLsbD_not, getLsbD_numBit8 _ _ small]
    simp only [same, bit, here, inside, small, ↓reduceDIte, decide_true, Bool.true_and,
      Bool.and_comm]
  · have apart : a ≠ aid.toNat := by
      intro same
      exact here (congrArg (· / 8) same)
    simp [here, apart]

/-- Group traffic has the bit that no station has. -/
theorem bit_timBcmcSet (pTim : TimBitmaps) (a : Nat) (station : 0 < a) :
    pTim.timBcmcSet.bit a = pTim.bit a := by
  have inside : 0 < wlanMaxNumOfTim := by decide
  unfold timBcmcSet
  rw [bit_modify _ _ inside]
  by_cases here : a / 8 = 0
  · have apart : a % 8 ≠ 0 := by omega
    rw [if_pos here, BitVec.getLsbD_or, getLsbD_numBit8 _ _ (Nat.mod_lt _ (by decide))]
    simp [apart, bit, here, inside]
  · rw [if_neg here]

end TimBitmaps

end Mt7612u.Transmit
