import Mathlib

/-! The 12-bit sequence space of `mlme.h`. The driver compares sequence numbers
with the `SEQ_` macros, which test one bit of a 32-bit difference. -/

namespace Mt7612u.BlockAck

/-- `MAXSEQ`. -/
def maxSeq : Nat := 0xFFF

/-- `RESET_RCV_SEQ`: not a sequence number, it marks a session without a window. -/
def resetRcvSeq : Nat := 0xFFFF

/-- `SEQ_STEPONE`. -/
def seqStepOne (seq1 seq2 limit : Nat) : Bool := seq1 == ((seq2 + 1) &&& limit)

/-- `SEQ_SMALLER`. The operands are promoted to `int` before they are subtracted. -/
def seqSmaller (seq1 seq2 limit : Nat) : Bool :=
  (BitVec.ofInt 32 ((seq1 : Int) - seq2) &&& BitVec.ofNat 32 ((limit + 1) >>> 1)) != 0

/-- `SEQ_LARGER`. -/
def seqLarger (seq1 seq2 limit : Nat) : Bool :=
  seq1 != seq2 && !seqSmaller seq1 seq2 limit

theorem mask_maxSeq (n : Nat) : n &&& maxSeq = n % 4096 :=
  Nat.and_two_pow_sub_one_eq_mod n 12

theorem halfBit_set (n : Nat) : n &&& 2048 ≠ 0 ↔ 2048 ≤ n % 4096 := by
  have bit := Nat.and_two_pow n 11
  rw [Nat.testBit_eq_decide_div_mod_eq] at bit
  norm_num at bit
  rw [bit]
  by_cases odd : n / 2048 % 2 = 1
  · simp only [odd, decide_true, Bool.toNat_true]
    omega
  · simp only [odd, decide_false, Bool.toNat_false]
    omega

theorem seqStepOne_iff (seq1 seq2 : Nat) :
    seqStepOne seq1 seq2 maxSeq = true ↔ seq1 = (seq2 + 1) % 4096 := by
  simp only [seqStepOne, beq_iff_eq, mask_maxSeq]

/-- Bit 11 of the promoted difference is the upper half of the circle. -/
theorem seqSmaller_iff (seq1 seq2 : Nat) :
    seqSmaller seq1 seq2 maxSeq = true ↔ 2048 ≤ ((seq1 : Int) - seq2) % 4096 := by
  have half : BitVec.ofNat 32 ((maxSeq + 1) >>> 1) = 2048#32 := by decide
  have word : (BitVec.ofInt 32 ((seq1 : Int) - seq2)).toNat % 4096 =
      (((seq1 : Int) - seq2) % 4096).toNat := by
    rw [BitVec.toNat_ofInt]
    omega
  have zero : ∀ x : BitVec 32, (x != 0) = true ↔ x.toNat ≠ 0 := by
    intro x
    rw [bne_iff_ne, ne_eq, ne_eq, ← BitVec.toNat_inj]
    rfl
  rw [seqSmaller, half, zero, BitVec.toNat_and]
  change _ &&& 2048 ≠ 0 ↔ _
  rw [halfBit_set, word]
  omega

theorem seqSmaller_eq_false (seq1 seq2 : Nat) :
    seqSmaller seq1 seq2 maxSeq = false ↔ ((seq1 : Int) - seq2) % 4096 < 2048 := by
  rw [← Bool.not_eq_true, seqSmaller_iff]
  omega

/-- Two positions of an unbounded count that lie at most half a circle apart
compare as their residues do. -/
theorem seqSmaller_mod (a b : Nat) (below : a < b + 2048) (above : b ≤ a + 2048) :
    seqSmaller (a % 4096) (b % 4096) maxSeq = true ↔ a < b := by
  rw [seqSmaller_iff]
  omega

theorem seqLarger_mod (a b : Nat) (after : b < a) (near : a < b + 2048) :
    seqLarger (a % 4096) (b % 4096) maxSeq = true := by
  have larger := (seqSmaller_eq_false (a % 4096) (b % 4096)).2 (by omega)
  have different : a % 4096 ≠ b % 4096 := by omega
  simp [seqLarger, larger, different]

end Mt7612u.BlockAck
