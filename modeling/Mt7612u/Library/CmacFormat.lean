import Mt7612u.Library.CcmFormat

/-! The CMAC of a message over a cipher on blocks of sixteen bytes, after RFC 4493. -/

namespace Mt7612u.Library.CmacFormat
open CcmFormat (Block ofList byte)

/-- A block as the number whose most significant byte comes first. -/
def value (block : Block) : BitVec 128 :=
  .ofFnLE fun bit => (block ⟨15 - bit.val / 8, by omega⟩).toBitVec.getLsbD (bit.val % 8)

def ofValue (number : BitVec 128) : Block := fun i =>
  .ofBitVec (number.extractLsb' (8 * (15 - i.val)) 8)

/-- The product with `x` in GF(2^128), reduced by `x^128 + x^7 + x^2 + x + 1`. -/
def fieldDouble (number : BitVec 128) : BitVec 128 :=
  (number <<< 1) ^^^ (if number.msb then 0x87 else 0)

def doubled (block : Block) : Block := ofValue (fieldDouble (value block))

def add (first second : Block) : Block := fun i => first i ^^^ second i

variable (cipher : Block → Block)

def subKey1 : Block := doubled (cipher fun _ => 0)
def subKey2 : Block := doubled (subKey1 cipher)

/-- The blocks in front of the last one, none for a message of no more than one block. -/
def frontCount (message : List UInt8) : Nat := (message.length - 1) / 16

def block (message : List UInt8) (j : Nat) : Block := ofList (message.drop (16 * j))

/-- `M_last`: a complete block under the first sub-key, any other one with a one bit and zeros
behind it under the second. -/
def lastBlock (message : List UInt8) : Block :=
  let last := message.drop (16 * frontCount message)
  if last.length = 16 then add (ofList last) (subKey1 cipher)
  else add (ofList (last ++ [0x80])) (subKey2 cipher)

/-- The chained encryption of the first `count` blocks. -/
def chained (message : List UInt8) (count : Nat) : Block :=
  (List.range count).foldl (fun x j => cipher (add (block message j) x)) fun _ => 0

def cmac (message : List UInt8) : Block :=
  cipher (add (lastBlock cipher message) (chained cipher message (frontCount message)))

theorem getLsbD_value (block : Block) {i j : Nat} (inside : i < 16) (bit : j < 8) :
    (value block).getLsbD (8 * (15 - i) + j) = (block ⟨i, inside⟩).toBitVec.getLsbD j := by
  have place : 15 - (8 * (15 - i) + j) / 8 = i ∧ (8 * (15 - i) + j) % 8 = j := by omega
  rw [value, BitVec.getLsbD_ofFnLE, dif_pos (by omega)]
  simp only [place]

theorem msb_value (block : Block) : (value block).msb = (block 0).toBitVec.msb := by
  rw [BitVec.msb_eq_getLsbD_last, BitVec.msb_eq_getLsbD_last]
  exact @getLsbD_value block 0 7 (by decide) (by decide)

/-- The bytes of the reduction: only the last one is changed. -/
theorem getLsbD_reduction {i j : Nat} (inside : i < 16) (bit : j < 8) :
    (0x87 : BitVec 128).getLsbD (8 * (15 - i) + j) =
      (if i = 15 then (0x87 : BitVec 8) else 0).getLsbD j := by
  have every : ∀ i < 16, ∀ j < 8, (0x87 : BitVec 128).getLsbD (8 * (15 - i) + j) =
      (if i = 15 then (0x87 : BitVec 8) else 0).getLsbD j := by decide
  exact every i inside j bit

theorem top_bit (b : UInt8) : b.toBitVec.msb = decide (128 ≤ b) := by
  rw [BitVec.msb_eq_decide]
  exact decide_eq_decide.mpr Iff.rfl

/-- A byte with the bits moved up by one, the lowest one taken from the top of the next. -/
def carried (b next : UInt8) : UInt8 := (b <<< 1) ||| (if 128 ≤ next then 1 else 0)

theorem getLsbD_carried (b next : UInt8) {j : Nat} (bit : j < 8) :
    (carried b next).toBitVec.getLsbD j =
      if j = 0 then decide (128 ≤ next) else b.toBitVec.getLsbD (j - 1) := by
  have shifted : (b <<< 1).toBitVec = b.toBitVec <<< 1 := rfl
  rw [carried, UInt8.toBitVec_or, BitVec.getLsbD_or, shifted, BitVec.getLsbD_shiftLeft]
  cases j with
  | zero => split <;> simp [*]
  | succ j =>
    have low : ((if 128 ≤ next then 1 else 0 : UInt8)).toBitVec.getLsbD (j + 1) = false := by
      split
      · exact BitVec.getLsbD_one.trans (by simp)
      · exact BitVec.getLsbD_zero
    rw [low]
    simp [bit]

theorem getLsbD_shifted (block : Block) {i j : Nat} (inside : i < 16) (bit : j < 8) :
    (value block <<< 1).getLsbD (8 * (15 - i) + j) =
      (carried (block ⟨i, inside⟩) (byte block (i + 1))).toBitVec.getLsbD j := by
  rw [BitVec.getLsbD_shiftLeft, getLsbD_carried _ _ bit]
  cases j with
  | zero =>
    by_cases last : i = 15
    · subst last
      rfl
    · have place : 8 * (15 - i) + 0 - 1 = 8 * (15 - (i + 1)) + 7 := by omega
      have next : i + 1 < 16 := by omega
      rw [place, getLsbD_value block next (by decide), if_pos rfl, byte, dif_pos next, ← top_bit,
        BitVec.msb_eq_getLsbD_last]
      simp
      omega
  | succ j =>
    have place : 8 * (15 - i) + (j + 1) - 1 = 8 * (15 - i) + j := by omega
    rw [place, getLsbD_value block inside (by omega), if_neg (Nat.succ_ne_zero j),
      Nat.add_sub_cancel]
    simp
    omega

/-- The doubling byte by byte. -/
theorem doubled_apply (block : Block) (i : Fin 16) :
    doubled block i = carried (block i) (byte block (i.val + 1)) ^^^
      (if 128 ≤ block 0 ∧ i.val = 15 then 0x87 else 0) := by
  apply UInt8.toBitVec_inj.mp
  apply BitVec.eq_of_getLsbD_eq
  intro j bit
  rw [UInt8.toBitVec_xor, BitVec.getLsbD_xor, ← getLsbD_shifted block i.isLt bit]
  show ((fieldDouble (value block)).extractLsb' (8 * (15 - i.val)) 8).getLsbD j = _
  rw [BitVec.getLsbD_extractLsb', fieldDouble, BitVec.getLsbD_xor, msb_value, top_bit]
  by_cases top : 128 ≤ block 0
  · have reduced := getLsbD_reduction i.isLt bit
    simp only [top, decide_true, if_true, reduced, bit, true_and, Bool.true_and]
    congr 1
    split <;> rfl
  · simp [top, bit]

end Mt7612u.Library.CmacFormat
