import Mathlib

/-! Numbers written as bytes with the most significant one first: their order is the order of the
first bytes in which they differ, and one is added from the last byte on. -/

namespace Mt7612u.Library.ByteNumber

def value (bytes : List UInt8) : Nat := bytes.foldl (fun sum byte => 256 * sum + byte.toNat) 0

theorem foldl_eq (bytes : List UInt8) (start : Nat) :
    bytes.foldl (fun sum byte => 256 * sum + byte.toNat) start =
      start * 256 ^ bytes.length + value bytes := by
  induction bytes generalizing start with
  | nil => simp [value]
  | cons byte rest ih =>
    rw [value, List.foldl_cons, List.foldl_cons, ih, ih (256 * 0 + byte.toNat), List.length_cons,
      Nat.pow_succ]
    ring

theorem value_cons (byte : UInt8) (rest : List UInt8) :
    value (byte :: rest) = byte.toNat * 256 ^ rest.length + value rest := by
  rw [value, List.foldl_cons, foldl_eq, Nat.mul_zero, Nat.zero_add]

theorem value_append (front back : List UInt8) :
    value (front ++ back) = value front * 256 ^ back.length + value back := by
  rw [value, List.foldl_append, foldl_eq]
  rfl

theorem value_lt (bytes : List UInt8) : value bytes < 256 ^ bytes.length := by
  induction bytes with
  | nil => decide
  | cons byte rest ih =>
    rw [value_cons, List.length_cons]
    calc byte.toNat * 256 ^ rest.length + value rest
        < byte.toNat * 256 ^ rest.length + 256 ^ rest.length := Nat.add_lt_add_left ih _
      _ = (byte.toNat + 1) * 256 ^ rest.length := (Nat.succ_mul _ _).symm
      _ ≤ 256 * 256 ^ rest.length := Nat.mul_le_mul_right _ byte.toNat_lt
      _ = 256 ^ (rest.length + 1) := (Nat.pow_succ').symm

/-- A smaller leading byte makes a smaller number, whatever follows. -/
theorem value_cons_lt {byte byte' : UInt8} {rest rest' : List UInt8}
    (length : rest.length = rest'.length) (smaller : byte < byte') :
    value (byte :: rest) < value (byte' :: rest') := by
  rw [value_cons, value_cons, ← length]
  have below : byte.toNat + 1 ≤ byte'.toNat := smaller
  calc byte.toNat * 256 ^ rest.length + value rest
      < (byte.toNat + 1) * 256 ^ rest.length := by
        rw [Nat.succ_mul]
        exact Nat.add_lt_add_left (value_lt rest) _
    _ ≤ byte'.toNat * 256 ^ rest.length := Nat.mul_le_mul_right _ below
    _ ≤ byte'.toNat * 256 ^ rest.length + value rest' := Nat.le_add_right _ _

theorem value_inj {first second : List UInt8} (length : first.length = second.length)
    (same : value first = value second) : first = second := by
  induction first generalizing second with
  | nil => exact (List.length_eq_zero_iff.mp length.symm).symm
  | cons byte rest ih =>
    cases second with
    | nil => cases length
    | cons byte' rest' =>
      have lengths : rest.length = rest'.length := Nat.succ.inj length
      rcases lt_trichotomy byte.toNat byte'.toNat with smaller | equal | larger
      · exact absurd same (value_cons_lt lengths smaller).ne
      · obtain rfl := UInt8.toNat_inj.mp equal
        rw [value_cons, value_cons, lengths] at same
        rw [ih lengths (Nat.add_left_cancel same)]
      · exact absurd same (value_cons_lt lengths.symm larger).ne'

theorem value_replicate_zero (count : Nat) : value (List.replicate count 0) = 0 := by
  induction count with
  | zero => rfl
  | succ count ih => rw [List.replicate_succ, value_cons, ih, UInt8.toNat_zero, Nat.zero_mul]

/-- One is added to a number whose least significant byte comes first. -/
def addOne : List UInt8 → List UInt8
  | [] => []
  | byte :: rest => if byte + 1 = 0 then 0 :: addOne rest else (byte + 1) :: rest

@[simp] theorem length_addOne (bytes : List UInt8) : (addOne bytes).length = bytes.length := by
  induction bytes with
  | nil => rfl
  | cons byte rest ih =>
    rw [addOne]
    split_ifs
    · rw [List.length_cons, ih, List.length_cons]
    · rfl

/-- The sum, unless all bytes were 255 and are 0 now. -/
theorem value_addOne (bytes : List UInt8) :
    value (addOne bytes).reverse = (value bytes.reverse + 1) % 256 ^ bytes.length := by
  induction bytes with
  | nil => rfl
  | cons byte rest ih =>
    have bound := value_lt rest.reverse
    rw [List.length_reverse] at bound
    have single (last : UInt8) : value [last] = last.toNat := by
      rw [value_cons, List.length_nil, Nat.pow_zero, Nat.mul_one]
      rfl
    rw [addOne, List.reverse_cons, value_append, single, List.length_singleton, Nat.pow_one,
      List.length_cons, Nat.pow_succ]
    have small := byte.toNat_lt
    split_ifs with full
    · have carried : byte.toNat = 255 := by
        have sum := congrArg UInt8.toNat full
        rw [UInt8.toNat_add] at sum
        simp only [UInt8.toNat_one, UInt8.toNat_zero] at sum
        omega
      rw [List.reverse_cons, value_append, single, List.length_singleton, ih, carried,
        UInt8.toNat_zero, Nat.add_zero, Nat.pow_one, Nat.add_assoc,
        show value rest.reverse * 256 + (255 + 1) = (value rest.reverse + 1) * 256 by ring,
        Nat.mul_mod_mul_right]
    · have differs : byte.toNat ≠ 255 := by
        intro last
        apply full
        apply UInt8.toNat_inj.mp
        rw [UInt8.toNat_add, last]
        rfl
      have stays : (byte + 1).toNat = byte.toNat + 1 := by
        rw [UInt8.toNat_add, UInt8.toNat_one, Nat.mod_eq_of_lt (by omega)]
      have below : value rest.reverse * 256 + (byte.toNat + 1) < 256 ^ rest.length * 256 := by
        omega
      rw [List.reverse_cons, value_append, single, List.length_singleton, Nat.pow_one, stays,
        Nat.add_assoc, Nat.mod_eq_of_lt below]

end Mt7612u.Library.ByteNumber
