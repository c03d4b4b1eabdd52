import Mt7612u.Crypto.Ccm

/-! What the loops of the CCM functions leave behind: the text added to the key stream, the counter
blocks one after the other, and the blocks of the MAC. -/

namespace Mt7612u.Crypto
open Library.CcmFormat
open Receive (Memory)

/-- `Block_CTR` after it was counted up `n` times. -/
def counterAt (ctr : Block) (n : Nat) : Block :=
  Function.update ctr (Fin.last 15) (ctr (Fin.last 15) + UInt8.ofNat n)

theorem counterAt_eq (ctr : Block) (n : Nat) :
    counterAt ctr n = Function.update ctr 15 (ctr 15 + UInt8.ofNat n) := rfl

theorem counterAt_zero (ctr : Block) : counterAt ctr 0 = ctr := by
  simp [counterAt]

theorem nextCtr_counterAt (ctr : Block) (n : Nat) :
    nextCtr (counterAt ctr n) = counterAt ctr (n + 1) := by
  simp only [nextCtr, counterAt_eq, Function.update_self, Function.update_idem, UInt8.ofNat_add,
    add_assoc]
  rfl

/-- The byte of the key stream for a place in the text. -/
def keyStream (cipher : Cipher) (ctr : Block) (i : Nat) : UInt8 :=
  byte (cipher (counterAt ctr (i / 16 + 1))) (i % 16)

section loop

variable {cipher : Cipher} {text : Memory} {length : Nat}

theorem ctrLoop_done {turns index : Nat} {ctr : Block} {s : CtrState} (done : length ≤ index) :
    ctrLoop cipher text length turns index ctr s = s := by
  cases turns with
  | zero => rfl
  | succ turns => rw [ctrLoop, if_neg (not_lt.mpr done)]

/-- One turn of the loop. -/
theorem ctrLoop_turn {turns index : Nat} {ctr : Block} {s : CtrState} (more : index < length) :
    ctrLoop cipher text length (turns + 1) index ctr s =
      ctrLoop cipher text length turns (index + min (length - index) aesBlockSizes) (nextCtr ctr)
        ⟨s.out.write index ((List.range (min (length - index) aesBlockSizes)).map fun i =>
          text (index + i) ^^^ byte (cipher (nextCtr ctr)) i), s.counters ++ [nextCtr ctr]⟩ := by
  rw [ctrLoop, if_pos more]

theorem write_map_range (mem : Memory) (start count : Nat) (value : Nat → UInt8) (address : Nat) :
    mem.write start ((List.range count).map value) address =
      if start ≤ address ∧ address < start + count then value (address - start)
      else mem address := by
  unfold Memory.write
  by_cases behind : start ≤ address
  · by_cases inside : address < start + count
    · have small : address - start < count := by omega
      simp [behind, inside, small]
    · have large : ¬ address - start < count := by omega
      simp [behind, inside, large]
  · simp [behind]

/-- The loop from the start of a block on. -/
theorem ctrLoop_spec (turns j : Nat) (ctr : Block) (s : CtrState) (enough : length - 16 * j ≤ turns) :
    (∀ address, (ctrLoop cipher text length turns (16 * j) (counterAt ctr j) s).out address =
      if 16 * j ≤ address ∧ address < length then text address ^^^ keyStream cipher ctr address
      else s.out address) ∧
    (ctrLoop cipher text length turns (16 * j) (counterAt ctr j) s).counters =
      s.counters ++ (List.range' (j + 1) ((length - 16 * j + 15) / 16)).map (counterAt ctr) := by
  induction turns generalizing j s with
  | zero =>
    have none : length - 16 * j = 0 := by omega
    constructor
    · intro address
      rw [if_neg (by omega)]
      rfl
    · rw [none]
      simp [ctrLoop]
  | succ turns ih =>
    by_cases more : 16 * j < length
    · rw [ctrLoop_turn more, nextCtr_counterAt]
      have stream : ∀ address, 16 * j ≤ address → address < 16 * j + 16 →
          text (16 * j + (address - 16 * j)) ^^^
            byte (cipher (counterAt ctr (j + 1))) (address - 16 * j) =
          text address ^^^ keyStream cipher ctr address := by
        intro address above below
        have block : address / 16 = j := by omega
        have place : address % 16 = address - 16 * j := by omega
        rw [keyStream, block, place, Nat.add_sub_cancel' above]
      by_cases last : length - 16 * j ≤ 16
      · have size : min (length - 16 * j) aesBlockSizes = length - 16 * j := min_eq_left last
        have count : (length - 16 * j + 15) / 16 = 1 := by omega
        rw [size, ctrLoop_done (by omega), count]
        constructor
        · intro address
          dsimp only
          rw [write_map_range]
          by_cases inside : 16 * j ≤ address ∧ address < length
          · rw [if_pos (by omega), if_pos inside, stream address inside.1 (by omega)]
          · rw [if_neg (by omega), if_neg inside]
        · simp
      · have size : min (length - 16 * j) aesBlockSizes = 16 := by
          unfold aesBlockSizes
          omega
        have next : 16 * j + 16 = 16 * (j + 1) := by omega
        have count : (length - 16 * j + 15) / 16 = (length - 16 * (j + 1) + 15) / 16 + 1 := by omega
        rw [size, next]
        obtain ⟨out, counters⟩ := ih (j + 1)
          ⟨s.out.write (16 * j) ((List.range 16).map fun i =>
            text (16 * j + i) ^^^ byte (cipher (counterAt ctr (j + 1))) i),
            s.counters ++ [counterAt ctr (j + 1)]⟩ (by omega)
        constructor
        · intro address
          rw [out address]
          dsimp only
          rw [write_map_range]
          by_cases later : 16 * (j + 1) ≤ address ∧ address < length
          · rw [if_pos later, if_pos (by omega)]
          · rw [if_neg later]
            by_cases inside : 16 * j ≤ address ∧ address < 16 * j + 16
            · rw [if_pos inside, if_pos (by omega), stream address inside.1 inside.2]
            · rw [if_neg inside, if_neg (by omega)]
        · rw [counters, count, List.range'_succ, List.map_cons, List.append_assoc]
          rfl
    · rw [ctrLoop_done (not_lt.mp more)]
      have none : (length - 16 * j + 15) / 16 = 0 := by omega
      constructor
      · intro address
        rw [if_neg (by omega)]
      · rw [none]
        simp

/-- The text that the loop writes from the first block on. -/
theorem ctrLoop_out (ctr : Block) (out : Memory) (counters : List Block) (address : Nat) :
    (ctrLoop cipher text length length 0 ctr ⟨out, counters⟩).out address =
      if address < length then text address ^^^ keyStream cipher ctr address else out address := by
  have spec := (@ctrLoop_spec cipher text length length 0 ctr ⟨out, counters⟩ (by omega)).1 address
  rw [counterAt_zero] at spec
  simpa using spec

theorem ctrLoop_counters (ctr : Block) (out : Memory) (counters : List Block) :
    (ctrLoop cipher text length length 0 ctr ⟨out, counters⟩).counters =
      counters ++ (List.range' 1 ((length + 15) / 16)).map (counterAt ctr) := by
  have spec := (@ctrLoop_spec cipher text length length 0 ctr ⟨out, counters⟩ (by omega)).2
  rw [counterAt_zero] at spec
  simpa using spec

end loop

section absorb

variable {cipher : Cipher} {length : Nat}

theorem absorb_done {data : Memory} {turns index : Nat} {header : List UInt8} {s : MacState}
    (done : length ≤ index) : absorb cipher data length turns index header s = s := by
  cases turns with
  | zero => rfl
  | succ turns => rw [absorb, if_neg (not_lt.mpr done)]

theorem absorb_turn {data : Memory} {turns index : Nat} {header : List UInt8} {s : MacState}
    (more : index < length) :
    absorb cipher data length (turns + 1) index header s =
      absorb cipher data length turns
        (index + min (length - index) (aesBlockSizes - header.length)) []
        (s.chain cipher (ofList (header ++
          data.bytes index (min (length - index) (aesBlockSizes - header.length))))) := by
  rw [absorb, if_pos more]

/-- A block holds no more than the first sixteen bytes. -/
theorem ofList_take (bytes : List UInt8) : ofList (bytes.take 16) = ofList bytes := by
  funext i
  simp [ofList, List.getD_eq_getElem?_getD, i.isLt]

/-- The blocks that a loop chains are those of the data with its header in front. -/
theorem absorb_input {data : Memory} (turns index : Nat) (header : List UInt8) (s : MacState)
    (enough : length - index ≤ turns) (room : header.length < 16) (more : index < length) :
    (absorb cipher data length turns index header s).input =
      s.input ++ blocksOf (header ++ data.bytes index (length - index)) := by
  induction turns generalizing index header s with
  | zero => omega
  | succ turns ih =>
    have some : header ++ data.bytes index (length - index) ≠ [] := by
      apply List.ne_nil_of_length_pos
      rw [List.length_append, Memory.length_bytes]
      omega
    rw [absorb_turn more, blocksOf_cons some]
    by_cases last : length - index ≤ aesBlockSizes - header.length
    · rw [min_eq_left last, absorb_done (by omega), List.drop_eq_nil_of_le, blocksOf_nil]
      · rfl
      · rw [List.length_append, Memory.length_bytes]
        unfold aesBlockSizes at last
        omega
    · unfold aesBlockSizes at last ⊢
      obtain ⟨count, sum⟩ : ∃ count, header.length + count = 16 := ⟨16 - header.length, by omega⟩
      have size : 16 - header.length = count := by omega
      obtain ⟨rest, split⟩ : ∃ rest, length - index = count + rest :=
        ⟨length - index - count, by omega⟩
      rw [size, min_eq_right (by omega), split, Memory.bytes_append, ← List.append_assoc,
        ih _ _ _ (by omega) (by decide) (by omega), List.nil_append]
      have front : (header ++ data.bytes index count).length = 16 := by
        rw [List.length_append, Memory.length_bytes, sum]
      have back : length - (index + count) = rest := by omega
      have first : ofList ((header ++ data.bytes index count) ++ data.bytes (index + count) rest) =
          ofList (header ++ data.bytes index count) := by
        rw [← ofList_take, List.take_left' front]
      rw [List.drop_left' front, back, first, MacState.chain, List.append_assoc]
      rfl

/-- Only the data that is there counts. -/
theorem absorb_congr {data data' : Memory} (agree : ∀ i < length, data i = data' i)
    (turns index : Nat) (header : List UInt8) (s : MacState) :
    absorb cipher data length turns index header s =
      absorb cipher data' length turns index header s := by
  induction turns generalizing index header s with
  | zero => rfl
  | succ turns ih =>
    by_cases more : index < length
    · have same : ∀ count ≤ length - index, data.bytes index count = data'.bytes index count := by
        intro count below
        apply List.map_congr_left
        intro i inside
        exact agree _ (by have := List.mem_range.mp inside; omega)
      rw [absorb_turn more, absorb_turn more, ih, same _ (min_le_left _ _)]
    · rw [absorb_done (not_lt.mp more), absorb_done (not_lt.mp more)]

end absorb

theorem aesCcmMac_congr {cipher : Cipher} {c : CcmParameters} {payload payload' : Memory}
    {payloadLength : BitVec 32} (agree : ∀ i < payloadLength.toNat, payload i = payload' i) :
    aesCcmMac cipher c payload payloadLength = aesCcmMac cipher c payload' payloadLength :=
  absorb_congr agree _ _ _ _

end Mt7612u.Crypto
