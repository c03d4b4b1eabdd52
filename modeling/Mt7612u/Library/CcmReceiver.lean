import Mt7612u.Library.CcmFormat

/-! What a receiver of CCM does, over any block cipher and any way to count: the text under the
counters, the chain of the MAC, and the verdict. -/

namespace Mt7612u.Library.CcmReceiver
open CcmFormat

variable {cipher : Block → Block} {counters counters' : Nat → Block} {body : Nat → UInt8}
  {nonce aad : List UInt8} {macLength length : Nat}

def nullBlock : Block := fun _ => 0

def xorBlock (first second : Block) : Block := fun i => first i ^^^ second i

theorem null_xorBlock (block : Block) : xorBlock nullBlock block = block :=
  funext fun _ => UInt8.zero_xor

theorem byte_xorBlock (first second : Block) (i : Nat) :
    byte (xorBlock first second) i = byte first i ^^^ byte second i := by
  unfold byte xorBlock
  split_ifs
  · rfl
  · rfl

theorem byte_ofList {bytes : List UInt8} {i : Nat} (inside : i < 16) :
    byte (ofList bytes) i = bytes.getD i 0 :=
  dif_pos inside

/-- A block takes no more than sixteen bytes of a list. -/
theorem ofList_append {first : List UInt8} (full : first.length = 16) (rest : List UInt8) :
    ofList (first ++ rest) = ofList first := by
  funext i
  exact List.getD_append _ _ _ _ (by rw [full]; exact i.isLt)

/-- Two blocks. -/
theorem blocksOf_two {first second : List UInt8} (full : first.length = 16) (some_ : second ≠ [])
    (short : second.length ≤ 16) : blocksOf (first ++ second) = [ofList first, ofList second] := by
  have front : first ++ second ≠ [] := List.append_ne_nil_of_right_ne_nil _ some_
  rw [blocksOf_cons front, List.drop_left' full, blocksOf_cons some_,
    List.drop_eq_nil_of_le short, blocksOf_nil, ofList_append full]

/-- The blocks of a MAC, each added to what the last one has left and encrypted. -/
def chained (cipher : Block → Block) (blocks : List Block) (mac : Block) : Block :=
  blocks.foldl (fun mac block => cipher (xorBlock mac block)) mac

theorem chained_append (first second : List Block) (mac : Block) :
    chained cipher (first ++ second) mac = chained cipher second (chained cipher first mac) :=
  List.foldl_append

theorem chained_one (block : Block) : chained cipher [block] nullBlock = cipher block :=
  congrArg cipher (null_xorBlock block)

/-- Where every block of the chain becomes the same, so does its end. -/
theorem chained_const {blocks : List Block} {mac : Block}
    (same : ∀ block ∈ blocks, cipher (xorBlock mac block) = mac) : chained cipher blocks mac = mac := by
  induction blocks with
  | nil => rfl
  | cons block rest ih =>
    unfold chained
    rw [List.foldl_cons, same block List.mem_cons_self]
    exact ih fun block member => same block (List.mem_cons_of_mem _ member)

/-- The text under the counters from 1 on. -/
def plainText (cipher : Block → Block) (counters : Nat → Block) (body : Nat → UInt8) (k : Nat) :
    UInt8 :=
  body k ^^^ byte (cipher (counters (k / 16 + 1))) (k % 16)

def plainBytes (cipher : Block → Block) (counters : Nat → Block) (body : Nat → UInt8)
    (length : Nat) : List UInt8 :=
  (List.range length).map (plainText cipher counters body)

theorem length_plainBytes : (plainBytes cipher counters body length).length = length := by
  rw [plainBytes, List.length_map, List.length_range]

theorem getD_plainBytes {k : Nat} (inside : k < length) :
    (plainBytes cipher counters body length).getD k 0 = plainText cipher counters body k := by
  rw [List.getD_eq_getElem _ _ (by rwa [length_plainBytes])]
  simp [plainBytes]

/-- The MAC behind the text, under counter 0, is the one of the text. -/
def Accepts (cipher : Block → Block) (counters : Nat → Block) (nonce aad : List UInt8)
    (macLength : Nat) (body : Nat → UInt8) (length : Nat) : Prop :=
  ∀ i : Fin 16, i.val < macLength →
    chained cipher (macBlocks nonce macLength aad (plainBytes cipher counters body length))
        nullBlock i =
      body (length + i) ^^^ cipher (counters 0) i

/-- Counters that are the same as far as the text goes. -/
theorem plainBytes_congr (same : ∀ i ≤ (length + 15) / 16, counters i = counters' i) :
    plainBytes cipher counters body length = plainBytes cipher counters' body length := by
  apply List.map_congr_left
  intro k member
  have inside := List.mem_range.mp member
  unfold plainText
  rw [same _ (by omega)]

theorem accepts_congr (same : ∀ i ≤ (length + 15) / 16, counters i = counters' i) :
    Accepts cipher counters nonce aad macLength body length ↔
      Accepts cipher counters' nonce aad macLength body length := by
  unfold Accepts
  rw [plainBytes_congr same, same 0 (Nat.zero_le _)]

end Mt7612u.Library.CcmReceiver
