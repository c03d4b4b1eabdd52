import Mathlib

/-! Iterated hashes: a compression function folded over the blocks of a padded message, and how far
the fold has come when only a part of the message is known. -/

namespace Mt7612u.Library.PaddedHash

variable {Chain : Type*} {size : Nat}

/-- The bytes of a message that do not fill a block. -/
def rest (size : Nat) (message : List UInt8) : List UInt8 :=
  message.drop (size * (message.length / size))

/-- The fold over the blocks that are full. -/
def absorb (size : Nat) (compress : Chain → List UInt8 → Chain) (chain : Chain)
    (message : List UInt8) : Chain :=
  (List.range (message.length / size)).foldl
    (fun chain i => compress chain ((message.drop (size * i)).take size)) chain

/-- How many zeros bring a message with its end mark and a length field of `width` bytes to full
blocks. -/
def paddingZeros (size width length : Nat) : Nat :=
  (2 * size - 1 - width - length % size) % size

/-- The message, `0x80`, zeros and the field that holds its length. -/
def pad (size : Nat) (lengthField message : List UInt8) : List UInt8 :=
  message ++ 0x80 :: (List.replicate (paddingZeros size lengthField.length message.length) 0 ++
    lengthField)

section Cut

theorem length_rest (size : Nat) (message : List UInt8) :
    (rest size message).length = message.length % size := by
  rw [rest, List.length_drop, Nat.mod_eq_sub_mul_div]

theorem rest_lt (positive : 0 < size) (message : List UInt8) :
    (rest size message).length < size := by
  rw [length_rest]
  exact Nat.mod_lt _ positive

/-- Full blocks in front do not change what is left over. -/
theorem rest_append (positive : 0 < size) {front : List UInt8} (full : size ∣ front.length)
    (back : List UInt8) : rest size (front ++ back) = rest size back := by
  obtain ⟨count, length⟩ := full
  have blocks : size * ((front ++ back).length / size) =
      front.length + size * (back.length / size) := by
    rw [List.length_append, length, Nat.mul_add_div positive, Nat.mul_add]
  rw [rest, blocks, List.drop_append, List.drop_eq_nil_of_le (Nat.le_add_right _ _),
    Nat.add_sub_cancel_left, List.nil_append]
  rfl

theorem rest_of_lt {message : List UInt8} (short : message.length < size) :
    rest size message = message := by
  rw [rest, Nat.div_eq_of_lt short, Nat.mul_zero, List.drop_zero]

/-- Every message is full blocks and what is left over. -/
theorem exists_blocks (size : Nat) (message : List UInt8) :
    ∃ front, size ∣ front.length ∧ message = front ++ rest size message := by
  refine ⟨message.take (size * (message.length / size)), ?_, (List.take_append_drop _ _).symm⟩
  rw [List.length_take, Nat.min_eq_left (Nat.mul_div_le _ _)]
  exact Nat.dvd_mul_right _ _

end Cut

section Fold

variable {compress : Chain → List UInt8 → Chain} {chain : Chain}

theorem absorb_of_lt {message : List UInt8} (short : message.length < size) :
    absorb size compress chain message = chain := by
  rw [absorb, Nat.div_eq_of_lt short, List.range_zero, List.foldl_nil]

theorem absorb_block {block : List UInt8} (positive : 0 < size) (full : block.length = size) :
    absorb size compress chain block = compress chain block := by
  rw [absorb, full, Nat.div_self positive, List.range_one, List.foldl_cons, List.foldl_nil,
    Nat.mul_zero, List.drop_zero, List.take_of_length_le full.le]

/-- Full blocks are folded first, then the rest from there. -/
theorem absorb_append (positive : 0 < size) {front : List UInt8} (full : size ∣ front.length)
    (back : List UInt8) :
    absorb size compress chain (front ++ back) =
      absorb size compress (absorb size compress chain front) back := by
  obtain ⟨count, length⟩ := full
  have blocks : (front ++ back).length / size = count + back.length / size := by
    rw [List.length_append, length, Nat.mul_add_div positive]
  have own : front.length / size = count := by
    rw [length, Nat.mul_div_cancel_left _ positive]
  rw [absorb, blocks, List.range_add, List.foldl_append, List.foldl_map]
  conv_rhs => rw [absorb, absorb, own]
  congr 1
  · funext chain i
    have place : size * (count + i) = front.length + size * i := by rw [length, Nat.mul_add]
    rw [place, List.drop_append, List.drop_eq_nil_of_le (Nat.le_add_right _ _),
      Nat.add_sub_cancel_left, List.nil_append]
  · apply List.foldl_ext
    intro chain i member
    have below : size * i + size ≤ front.length := by
      rw [length, ← Nat.mul_succ]
      exact Nat.mul_le_mul_left _ (List.mem_range.mp member)
    rw [List.drop_append_of_le_length (by omega), List.take_append_of_le_length (by
      rw [List.length_drop]
      omega)]

/-- Bytes that do not fill the block are left for later. -/
theorem append_short (positive : 0 < size) {message piece : List UInt8}
    (short : (rest size message).length + piece.length < size) :
    absorb size compress chain (message ++ piece) = absorb size compress chain message ∧
      rest size (message ++ piece) = rest size message ++ piece := by
  obtain ⟨front, full, cut⟩ := exists_blocks size message
  have joined : (rest size message ++ piece).length < size := by rwa [List.length_append]
  have chained : absorb size compress chain message = absorb size compress chain front := by
    rw [cut, absorb_append positive full, absorb_of_lt]
    exact rest_lt positive message
  constructor
  · rw [chained, cut, List.append_assoc, absorb_append positive full, absorb_of_lt joined]
  · conv_lhs => rw [cut, List.append_assoc]
    rw [rest_append positive full, rest_of_lt joined]

/-- Bytes that just fill the block are folded with what was left over. -/
theorem append_full (positive : 0 < size) {message piece : List UInt8}
    (full : (rest size message).length + piece.length = size) :
    absorb size compress chain (message ++ piece) =
        compress (absorb size compress chain message) (rest size message ++ piece) ∧
      rest size (message ++ piece) = [] := by
  obtain ⟨front, blocks, cut⟩ := exists_blocks size message
  have joined : (rest size message ++ piece).length = size := by rwa [List.length_append]
  have chained : absorb size compress chain message = absorb size compress chain front := by
    rw [cut, absorb_append positive blocks, absorb_of_lt]
    exact rest_lt positive message
  constructor
  · rw [chained]
    conv_lhs => rw [cut, List.append_assoc]
    rw [absorb_append positive blocks, absorb_block positive joined]
  · rw [← List.length_eq_zero_iff, length_rest, List.length_append, Nat.add_mod,
      ← length_rest, Nat.add_mod_mod, full, Nat.mod_self]

end Fold

section Padded

variable {compress : Chain → List UInt8 → Chain} {chain : Chain}
variable {lengthField message : List UInt8}

/-- The end mark and the length fit behind what is left over. -/
theorem absorb_pad_same (positive : 0 < size)
    (room : (rest size message).length + 1 + lengthField.length ≤ size) :
    absorb size compress chain (pad size lengthField message) =
      compress (absorb size compress chain message) (rest size message ++ 0x80 ::
        (List.replicate (size - 1 - lengthField.length - (rest size message).length) 0 ++
          lengthField)) := by
  have zeros : paddingZeros size lengthField.length message.length =
      size - 1 - lengthField.length - (rest size message).length := by
    rw [paddingZeros, ← length_rest, Nat.mod_eq_sub_mod (by omega), Nat.mod_eq_of_lt (by omega)]
    omega
  rw [pad, zeros]
  apply (append_full positive _).1
  simp only [List.length_cons, List.length_append, List.length_replicate]
  omega

/-- They do not fit, and a block more is needed. -/
theorem absorb_pad_next (width : lengthField.length < size)
    (full : size < (rest size message).length + 1 + lengthField.length) :
    absorb size compress chain (pad size lengthField message) =
      compress
        (compress (absorb size compress chain message) (rest size message ++ 0x80 ::
          List.replicate (size - 1 - (rest size message).length) 0))
        (List.replicate (size - lengthField.length) 0 ++ lengthField) := by
  have positive : 0 < size := Nat.zero_lt_of_lt width
  have left : (rest size message).length < size := rest_lt positive message
  have zeros : paddingZeros size lengthField.length message.length =
      (size - 1 - (rest size message).length) + (size - lengthField.length) := by
    rw [paddingZeros, ← length_rest, Nat.mod_eq_of_lt (by omega)]
    omega
  have cut : pad size lengthField message =
      (message ++ 0x80 :: List.replicate (size - 1 - (rest size message).length) 0) ++
        (List.replicate (size - lengthField.length) 0 ++ lengthField) := by
    rw [pad, zeros, List.replicate_add, List.append_assoc, List.append_assoc, List.cons_append]
  have first := @append_full _ _ compress chain positive message
    (0x80 :: List.replicate (size - 1 - (rest size message).length) 0) (by
      simp only [List.length_cons, List.length_replicate]
      omega)
  have second := @append_full _ _ compress chain positive
    (message ++ 0x80 :: List.replicate (size - 1 - (rest size message).length) 0)
    (List.replicate (size - lengthField.length) 0 ++ lengthField) (by
      rw [first.2, List.length_nil, List.length_append, List.length_replicate]
      omega)
  rw [cut, second.1, first.1, first.2, List.nil_append]

end Padded

end Mt7612u.Library.PaddedHash
