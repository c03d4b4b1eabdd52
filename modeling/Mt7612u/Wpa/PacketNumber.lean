import Mt7612u.Library.ByteNumber

/-! `inc_iv_byte` and `inc_byte_array`: the numbers of packets and of replay counters, as arrays of
bytes that are stepped in place. -/

namespace Mt7612u.Wpa
open Library.ByteNumber (value value_cons value_append value_lt value_inj addOne length_addOne value_addOne)

/-- The loop of `inc_iv_byte` from one of the bytes on; `carry` is set behind the first. -/
def incIvByteFrom (cnt : Nat) : List UInt8 → Bool → List UInt8
  | [], _ => []
  | preIv :: rest, carry =>
      let byte := if carry then preIv + 1 else preIv + UInt8.ofNat cnt
      if byte > preIv then byte :: rest else byte :: incIvByteFrom cnt rest true

/-- `inc_iv_byte`, over the first `len` bytes at `iv`. -/
def incIvByte (cnt : Nat) (iv : List UInt8) : List UInt8 := incIvByteFrom cnt iv false

/-- The loop of `inc_byte_array`, with `pos + 1` bytes to go. -/
def incByteArrayFrom (counter : List UInt8) : Nat → List UInt8
  | 0 => counter
  | pos + 1 =>
      let byte := counter.getD pos 0 + 1
      if byte ≠ 0 then counter.set pos byte else incByteArrayFrom (counter.set pos byte) pos

/-- `inc_byte_array`, over the first `len` bytes at `counter`. -/
def incByteArray (counter : List UInt8) : List UInt8 := incByteArrayFrom counter counter.length

/-- The number whose least significant byte comes first. -/
def littleEndian (bytes : List UInt8) : Nat := value bytes.reverse

theorem littleEndian_cons (byte : UInt8) (rest : List UInt8) :
    littleEndian (byte :: rest) = byte.toNat + 256 * littleEndian rest := by
  have single : value [byte] = byte.toNat := by
    rw [value_cons, List.length_nil, Nat.pow_zero, Nat.mul_one]
    rfl
  rw [littleEndian, List.reverse_cons, value_append, single, List.length_singleton, Nat.pow_one,
    Nat.add_comm, Nat.mul_comm]
  rfl

theorem littleEndian_lt (bytes : List UInt8) : littleEndian bytes < 256 ^ bytes.length := by
  have bound := value_lt bytes.reverse
  rwa [List.length_reverse] at bound

theorem littleEndian_inj {first second : List UInt8} (length : first.length = second.length)
    (same : littleEndian first = littleEndian second) : first = second :=
  List.reverse_injective (value_inj (by rwa [List.length_reverse, List.length_reverse]) same)

theorem littleEndian_addOne (bytes : List UInt8) :
    littleEndian (addOne bytes) = (littleEndian bytes + 1) % 256 ^ bytes.length :=
  value_addOne bytes

theorem mod_digit {digit : Nat} (small : digit < 256) (high size : Nat) :
    (digit + 256 * high) % (256 * size) = digit + 256 * (high % size) := by
  rw [Nat.mod_mul, Nat.add_mul_mod_self_left, Nat.mod_eq_of_lt small,
    Nat.add_mul_div_left _ _ (by decide), Nat.div_eq_of_lt small, Nat.zero_add]

/-- A byte that is added to comes out larger exactly when it has not wrapped. -/
theorem byte_added_iff (byte : UInt8) {cnt : Nat} (positive : 0 < cnt) (small : cnt < 256) :
    byte + UInt8.ofNat cnt > byte ↔ byte.toNat + cnt < 256 := by
  have bound := byte.toNat_lt
  rw [gt_iff_lt, UInt8.lt_iff_toNat_lt, UInt8.toNat_add, UInt8.toNat_ofNat',
    Nat.mod_eq_of_lt small]
  omega

theorem toNat_byte_added (byte : UInt8) {cnt : Nat} (small : cnt < 256) :
    (byte + UInt8.ofNat cnt).toNat = (byte.toNat + cnt) % 256 := by
  rw [UInt8.toNat_add, UInt8.toNat_ofNat', Nat.mod_eq_of_lt small]

/-- The carry: one is added to the bytes behind the first. -/
theorem incIvByteFrom_carry (cnt : Nat) (bytes : List UInt8) :
    incIvByteFrom cnt bytes true = addOne bytes := by
  induction bytes with
  | nil => rfl
  | cons preIv rest ih =>
    have grows : preIv + 1 > preIv ↔ preIv.toNat + 1 < 256 :=
      byte_added_iff preIv (by decide) (by decide)
    have bound := preIv.toNat_lt
    rw [incIvByteFrom, addOne]
    rw [if_pos rfl, ih]
    by_cases last : preIv + 1 = 0
    · have zero := congrArg UInt8.toNat last
      rw [UInt8.toNat_add] at zero
      simp only [UInt8.toNat_one, UInt8.toNat_zero] at zero
      rw [if_pos last, if_neg (by rw [grows]; omega), last]
    · have below : preIv.toNat + 1 < 256 := by
        by_contra wraps
        apply last
        apply UInt8.toNat_inj.mp
        rw [UInt8.toNat_add, UInt8.toNat_one, UInt8.toNat_zero]
        omega
      rw [if_neg last, if_pos (grows.mpr below)]

@[simp] theorem length_incIvByte (cnt : Nat) (iv : List UInt8) :
    (incIvByte cnt iv).length = iv.length := by
  cases iv with
  | nil => rfl
  | cons preIv rest =>
    rw [incIvByte, incIvByteFrom, if_neg Bool.false_ne_true]
    split
    · rfl
    · rw [List.length_cons, incIvByteFrom_carry, length_addOne, List.length_cons]

theorem littleEndian_incIvByte {cnt : Nat} (positive : 0 < cnt) (small : cnt < 256)
    (iv : List UInt8) :
    littleEndian (incIvByte cnt iv) = (littleEndian iv + cnt) % 256 ^ iv.length := by
  cases iv with
  | nil => simp [incIvByte, incIvByteFrom, littleEndian, value, Nat.mod_one]
  | cons preIv rest =>
    have grows := byte_added_iff preIv positive small
    have byte := toNat_byte_added preIv small
    have bound := littleEndian_lt rest
    rw [incIvByte, incIvByteFrom]
    rw [if_neg Bool.false_ne_true, incIvByteFrom_carry, List.length_cons, Nat.pow_succ']
    split_ifs with below
    · have sum := grows.mp below
      have added : preIv.toNat + 256 * littleEndian rest + cnt =
        (preIv.toNat + cnt) + 256 * littleEndian rest := by omega
      rw [littleEndian_cons, littleEndian_cons, byte, Nat.mod_eq_of_lt sum, added, mod_digit sum,
        Nat.mod_eq_of_lt bound]
    · have wraps := not_lt.mp (mt grows.mpr below)
      have first := preIv.toNat_lt
      have carried : preIv.toNat + 256 * littleEndian rest + cnt =
        (preIv.toNat + cnt - 256) + 256 * (littleEndian rest + 1) := by omega
      have low : (preIv.toNat + cnt) % 256 = preIv.toNat + cnt - 256 := by omega
      rw [littleEndian_cons, littleEndian_cons, byte, littleEndian_addOne, carried, low,
        mod_digit (by omega)]

/-- The loop of `inc_byte_array` leaves the bytes behind its place alone. -/
theorem incByteArrayFrom_append (front back : List UInt8) :
    incByteArrayFrom (front ++ back) front.length = (addOne front.reverse).reverse ++ back := by
  induction front using List.reverseRecOn generalizing back with
  | nil => rfl
  | append_singleton front byte ih =>
    have found : (front ++ [byte] ++ back).getD front.length 0 = byte := by
      simp [List.getD_eq_getElem?_getD]
    have stored (new : UInt8) :
        (front ++ [byte] ++ back).set front.length new = front ++ new :: back := by
      simp [List.append_assoc]
    rw [List.length_append, List.length_singleton, incByteArrayFrom, found, stored,
      List.reverse_append, List.reverse_singleton, List.singleton_append, addOne]
    by_cases wraps : byte + 1 = 0
    · rw [if_pos wraps, if_neg (not_not.mpr wraps), ih, wraps, List.reverse_cons,
        List.append_assoc]
      rfl
    · rw [if_neg wraps, if_pos wraps, List.reverse_cons, List.reverse_reverse, List.append_assoc]
      rfl

theorem incByteArray_eq (counter : List UInt8) :
    incByteArray counter = (addOne counter.reverse).reverse := by
  have all := incByteArrayFrom_append counter []
  rwa [List.append_nil, List.append_nil] at all

@[simp] theorem length_incByteArray (counter : List UInt8) :
    (incByteArray counter).length = counter.length := by
  rw [incByteArray_eq, List.length_reverse, length_addOne, List.length_reverse]

theorem value_incByteArray (counter : List UInt8) :
    value (incByteArray counter) = (value counter + 1) % 256 ^ counter.length := by
  have sum := value_addOne counter.reverse
  rwa [← incByteArray_eq, List.reverse_reverse, List.length_reverse] at sum

section Steps

/-- A number of fixed size that is stepped by `cnt` over and over. -/
theorem iterate_number {number : List UInt8 → Nat} {step : List UInt8 → List UInt8} {cnt : Nat}
    (length : ∀ bytes, (step bytes).length = bytes.length)
    (stepped : ∀ bytes, number (step bytes) = (number bytes + cnt) % 256 ^ bytes.length)
    (bytes : List UInt8) (bound : number bytes < 256 ^ bytes.length) (n : Nat) :
    (step^[n] bytes).length = bytes.length ∧
      number (step^[n] bytes) = (number bytes + n * cnt) % 256 ^ bytes.length := by
  induction n with
  | zero =>
    rw [Nat.zero_mul, Nat.add_zero, Nat.mod_eq_of_lt bound]
    exact ⟨rfl, rfl⟩
  | succ n ih =>
    obtain ⟨same, sum⟩ := ih
    rw [Function.iterate_succ_apply', length, stepped, same, sum, Nat.mod_add_mod, Nat.succ_mul,
      Nat.add_assoc]
    exact ⟨rfl, rfl⟩

/-- Two of its values are the same exactly when the steps between them add up to a multiple of
the number of all values. -/
theorem iterate_eq_iff {number : List UInt8 → Nat} {step : List UInt8 → List UInt8} {cnt : Nat}
    (length : ∀ bytes, (step bytes).length = bytes.length)
    (stepped : ∀ bytes, number (step bytes) = (number bytes + cnt) % 256 ^ bytes.length)
    (inj : ∀ first second : List UInt8, first.length = second.length →
      number first = number second → first = second)
    (bytes : List UInt8) (bound : number bytes < 256 ^ bytes.length) (m n : Nat) :
    step^[m] bytes = step^[n] bytes ↔ m * cnt ≡ n * cnt [MOD 256 ^ bytes.length] := by
  obtain ⟨lengthM, valueM⟩ := iterate_number length stepped bytes bound m
  obtain ⟨lengthN, valueN⟩ := iterate_number length stepped bytes bound n
  constructor
  · intro same
    have values := congrArg number same
    rw [valueM, valueN] at values
    exact Nat.ModEq.add_left_cancel' _ values
  · intro same
    apply inj _ _ (lengthM.trans lengthN.symm)
    rw [valueM, valueN]
    exact Nat.ModEq.add_left _ same

end Steps

/-- Both functions step the number by what they should, modulo the number of all arrays of that
length, which a packet number stepped by one therefore goes through before it repeats. -/
theorem packetNumber_steps {cnt : Nat} (positive : 0 < cnt) (small : cnt < 256)
    (bytes : List UInt8) :
    ((incIvByte cnt bytes).length = bytes.length ∧
      littleEndian (incIvByte cnt bytes) =
        (littleEndian bytes + cnt) % 2 ^ (8 * bytes.length)) ∧
    ((incByteArray bytes).length = bytes.length ∧
      value (incByteArray bytes) = (value bytes + 1) % 2 ^ (8 * bytes.length)) ∧
    (∀ m n, (incIvByte cnt)^[m] bytes = (incIvByte cnt)^[n] bytes ↔
      m * cnt ≡ n * cnt [MOD 2 ^ (8 * bytes.length)]) ∧
    (∀ m n, (incIvByte 1)^[m] bytes = (incIvByte 1)^[n] bytes ↔
      m ≡ n [MOD 2 ^ (8 * bytes.length)]) ∧
    ∀ m n, incByteArray^[m] bytes = incByteArray^[n] bytes ↔
      m ≡ n [MOD 2 ^ (8 * bytes.length)] := by
  have little (step : Nat) (positive : 0 < step) (small : step < 256) (m n : Nat) :=
    iterate_eq_iff (length_incIvByte step) (littleEndian_incIvByte positive small)
      (fun _ _ => littleEndian_inj) bytes (littleEndian_lt bytes) m n
  have big (m n : Nat) := iterate_eq_iff length_incByteArray value_incByteArray
    (fun _ _ => value_inj) bytes (value_lt bytes) m n
  have one (m n : Nat) := little 1 (by decide) (by decide) m n
  simp only [Nat.mul_one] at big one
  rw [Nat.pow_mul, show 2 ^ 8 = 256 from rfl]
  exact ⟨⟨length_incIvByte cnt bytes, littleEndian_incIvByte positive small bytes⟩,
    ⟨length_incByteArray bytes, value_incByteArray bytes⟩, little cnt positive small, one, big⟩

/-- A carry through two bytes of `0xff`. -/
theorem packetNumber_steps_carry :
    littleEndian (incIvByte 2 [0xff, 0xff, 0x00]) =
      (littleEndian [0xff, 0xff, 0x00] + 2) % 2 ^ (8 * [(0xff : UInt8), 0xff, 0x00].length) :=
  (packetNumber_steps (by decide) (by decide) [0xff, 0xff, 0x00]).1.2

/-- By an even step only half of the numbers are taken. -/
theorem evenStep_repeats :
    ¬∀ (cnt : Nat) (bytes : List UInt8), 0 < cnt → cnt < 256 →
      ∀ m < 2 ^ (8 * bytes.length), ∀ n < 2 ^ (8 * bytes.length),
        (incIvByte cnt)^[m] bytes = (incIvByte cnt)^[n] bytes → m = n := by
  intro distinct
  have again : (incIvByte 2)^[128] [0] = (incIvByte 2)^[0] [0] :=
    (iterate_eq_iff (length_incIvByte 2)
      (littleEndian_incIvByte (by decide) (by decide))
      (fun _ _ => littleEndian_inj) [0] (littleEndian_lt [0]) 128 0).mpr rfl
  have same := distinct 2 [0] (by decide) (by decide) 128 (by decide) 0 (by decide) again
  exact absurd same (by decide)

end Mt7612u.Wpa
