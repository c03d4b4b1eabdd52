import Mathlib

/-! Counter mode with CBC-MAC over a cipher on blocks of sixteen bytes: how the blocks of the
MAC and the counter blocks are made from the message, after RFC 3610. -/

namespace Mt7612u.Library.CcmFormat

abbrev Block := Fin 16 → UInt8

/-- A block that begins with the bytes of a list, with zeros behind them. -/
def ofList (bytes : List UInt8) : Block := fun i => bytes.getD i 0

/-- The bytes of a block by number. -/
def byte (block : Block) (i : Nat) : UInt8 := if inside : i < 16 then block ⟨i, inside⟩ else 0

/-- Bytes cut into blocks, the last one filled up with zeros. -/
def blocksOf (bytes : List UInt8) : List Block :=
  (List.range ((bytes.length + 15) / 16)).map fun j => ofList (bytes.drop (16 * j))

/-- A number in `width` bytes, the most significant one first. -/
def bigEndian : Nat → Nat → List UInt8
  | 0, _ => []
  | width + 1, value => bigEndian width (value / 256) ++ [UInt8.ofNat value]

/-- `L`: the bytes that a nonce leaves for a length or a counter. -/
def lengthField (nonce : List UInt8) : Nat := 15 - nonce.length

/-- `A_i`. -/
def counterBlock (nonce : List UInt8) (i : Nat) : Block :=
  ofList (UInt8.ofNat (lengthField nonce - 1) :: (nonce ++ bigEndian (lengthField nonce) i))

/-- `B_0`. -/
def firstBlock (nonce : List UInt8) (macLength : Nat) (adata : Bool) (length : Nat) : Block :=
  ofList (UInt8.ofNat (64 * adata.toNat + 8 * ((macLength - 2) / 2) + (lengthField nonce - 1)) ::
    (nonce ++ bigEndian (lengthField nonce) length))

/-- The length in front of the associated data. -/
def encodedLength (length : Nat) : List UInt8 :=
  if length < 2 ^ 16 - 2 ^ 8 then bigEndian 2 length
  else if length < 2 ^ 32 then 0xff :: 0xfe :: bigEndian 4 length
  else 0xff :: 0xff :: bigEndian 8 length

/-- `B_0`, `B_1` and so on. -/
def macBlocks (nonce : List UInt8) (macLength : Nat) (aad payload : List UInt8) : List Block :=
  firstBlock nonce macLength (!aad.isEmpty) payload.length ::
    ((if aad.isEmpty then [] else blocksOf (encodedLength aad.length ++ aad)) ++ blocksOf payload)

@[simp] theorem length_bigEndian (width value : Nat) : (bigEndian width value).length = width := by
  induction width generalizing value with
  | zero => rfl
  | succ width ih => rw [bigEndian, List.length_append, ih, List.length_singleton]

/-- The bytes of a number, counted from the most significant one. -/
theorem getElem_bigEndian (width value k : Nat) (inside : k < (bigEndian width value).length) :
    (bigEndian width value)[k] = UInt8.ofNat (value / 256 ^ (width - 1 - k)) := by
  induction width generalizing value with
  | zero => exact absurd inside (Nat.not_lt_zero k)
  | succ width ih =>
    have below : k < width + 1 := by rwa [length_bigEndian] at inside
    simp only [bigEndian]
    by_cases high : k < width
    · have place : width + 1 - 1 - k = width - 1 - k + 1 := by omega
      have front : k < (bigEndian width (value / 256)).length := by rwa [length_bigEndian]
      rw [List.getElem_append_left front, ih _ front, place, Nat.pow_succ',
        Nat.div_div_eq_div_mul]
    · have place : width + 1 - 1 - k = 0 := by omega
      rw [List.getElem_append_right (by rw [length_bigEndian]; omega), List.getElem_singleton,
        place, Nat.pow_zero, Nat.div_one]

/-- The bytes of a block of flags, nonce and number. -/
theorem ofList_flags {nonce : List UInt8} (bound : nonce.length < 15) (flags : UInt8) (value : Nat)
    (i : Fin 16) :
    ofList (flags :: (nonce ++ bigEndian (lengthField nonce) value)) i =
      if i.val = 0 then flags
      else if i.val ≤ nonce.length then nonce.getD (i.val - 1) 0
      else UInt8.ofNat (value / 256 ^ (15 - i.val)) := by
  have last := i.isLt
  unfold ofList lengthField
  by_cases first : i.val = 0
  · rw [if_pos first, first, List.getD_cons_zero]
  · obtain ⟨k, next⟩ := Nat.exists_eq_succ_of_ne_zero first
    rw [if_neg first, next, List.getD_cons_succ, Nat.succ_sub_one]
    by_cases inside : k.succ ≤ nonce.length
    · rw [if_pos inside, List.getD_append _ _ _ _ inside]
    · have width : 15 - nonce.length - 1 - (k - nonce.length) = 15 - k.succ := by omega
      rw [if_neg inside, List.getD_append_right _ _ _ _ (by omega),
        List.getD_eq_getElem _ _ (by rw [length_bigEndian]; omega), getElem_bigEndian, width]

theorem blocksOf_nil : blocksOf [] = [] := rfl

/-- The first block, and those of what is left. -/
theorem blocksOf_cons {bytes : List UInt8} (some : bytes ≠ []) :
    blocksOf bytes = ofList bytes :: blocksOf (bytes.drop 16) := by
  have positive := List.length_pos_iff.mpr some
  have count : (bytes.length + 15) / 16 = ((bytes.drop 16).length + 15) / 16 + 1 := by
    rw [List.length_drop]
    omega
  rw [blocksOf, count, List.range_succ_eq_map, List.map_cons, List.map_map, blocksOf]
  congr 1
  apply List.map_congr_left
  intro j _
  rw [Function.comp_apply, List.drop_drop, Nat.mul_succ, Nat.add_comm]

end Mt7612u.Library.CcmFormat
