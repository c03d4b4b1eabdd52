import Mathlib

/-! Sequences of elements, each an identifier, a length byte and so many octets. -/

namespace Mt7612u.Library.TaggedElements

structure Element where
  id : UInt8
  octets : List UInt8
  short : octets.length < 256

def Element.encode (element : Element) : List UInt8 :=
  element.id :: UInt8.ofNat element.octets.length :: element.octets

def encode (elements : List Element) : List UInt8 := elements.flatMap Element.encode

@[simp] theorem encode_nil : encode [] = [] := rfl

@[simp] theorem encode_cons (element : Element) (rest : List Element) :
    encode (element :: rest) = element.encode ++ encode rest := rfl

@[simp] theorem encode_append (front back : List Element) :
    encode (front ++ back) = encode front ++ encode back :=
  List.flatMap_append

/-- The walk from length byte to length byte, that has to end with the bytes. -/
def decode : List UInt8 → Option (List Element)
  | [] => some []
  | [_] => none
  | id :: length :: rest =>
      if length.toNat ≤ rest.length then
        (decode (rest.drop length.toNat)).map
          (⟨id, rest.take length.toNat, (List.length_take_le _ _).trans_lt length.toNat_lt⟩ :: ·)
      else none
termination_by bytes => bytes.length

theorem decode_append (element : Element) (bytes : List UInt8) :
    decode (element.encode ++ bytes) = (decode bytes).map (element :: ·) := by
  have length : (UInt8.ofNat element.octets.length).toNat = element.octets.length := by
    rw [UInt8.toNat_ofNat']
    exact Nat.mod_eq_of_lt element.short
  have whole : (UInt8.ofNat element.octets.length).toNat ≤ (element.octets ++ bytes).length := by
    rw [length, List.length_append]
    exact Nat.le_add_right _ _
  rw [Element.encode, List.cons_append, List.cons_append, decode, if_pos whole]
  simp only [length, List.drop_left, List.take_left]

theorem decode_encode (elements : List Element) : decode (encode elements) = some elements := by
  induction elements with
  | nil => rw [encode_nil, decode]
  | cons element rest ih => rw [encode_cons, decode_append, ih, Option.map_some]

end Mt7612u.Library.TaggedElements
