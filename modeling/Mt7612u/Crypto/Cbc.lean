import Mt7612u.Crypto.Aes

/-! `AES_CBC_Encrypt` and `AES_CBC_Decrypt`, over a text and a buffer that lie apart. -/

namespace Mt7612u.Crypto
open Library.CcmFormat (Block byte)
open Receive (Memory)

def aesCbcIvLength : Nat := 16

/-- A buffer and the place in it that a run has come to. -/
structure CbcState where
  text : Memory
  blockStart : Nat

/-- A block function called with `Text + start` and `size` in the place of its own buffer. -/
def intoBuffer (text : Memory) (start : Nat) (size : BitVec 32) (call : BlockOut → BlockOut) :
    Memory × BitVec 32 :=
  let out := call ⟨fun address => text (start + address), size⟩
  (fun address => if address < start then text address else out.block (address - start), out.size)

/-- The block in front of `CipherBlockStart`, by an index that wraps like an unsigned one. -/
def blockBefore (cipherText : Memory) (cipherBlockStart : Nat) : Block := fun index =>
  cipherText ((cipherBlockStart + (2 ^ 32 - aesBlockSizes) + index.val) % 2 ^ 32)

/-- What a block is chained with. -/
def chainedWith (first : Bool) (iv : Block) (cipherText : Memory) (cipherBlockStart : Nat) :
    Block :=
  if first then iv else blockBefore cipherText cipherBlockStart

/-- A block of text is chained and encrypted behind the ones that are there. -/
def cbcEncryptBlock (kmalloc : Bool) (key : List UInt8) (iv : Block) (cipherTextLength : BitVec 32)
    (block : Block) (s : CbcState) : CbcState :=
  let previous := chainedWith (s.blockStart == 0) iv s.text s.blockStart
  let out := intoBuffer s.text s.blockStart (cipherTextLength - BitVec.ofNat 32 s.blockStart)
    (rtAesEncrypt kmalloc (fun index => block index ^^^ previous index) 16 key)
  ⟨out.1, s.blockStart + out.2.toNat⟩

/-- `PaddingSize`. -/
def cbcPaddingSize (plainTextLength : BitVec 32) : Nat :=
  aesBlockSizes - plainTextLength.toNat % aesBlockSizes

/-- `Block` behind the whole ones: what is left of the text, and the padding. -/
def cbcLastBlock (plainText : Memory) (plainTextLength : BitVec 32) : Block := fun index =>
  let paddingSize := cbcPaddingSize plainTextLength
  if aesBlockSizes - paddingSize ≤ index.val then UInt8.ofNat paddingSize
  else plainText (16 * (plainTextLength.toNat / 16) + index.val)

/-- The blocks of `AES_CBC_Encrypt`; the one at byte `16 * n` asks for memory as call `n`. -/
def cbcEncryptBlocks (kmalloc : Nat → Bool) (plainText : Memory) (plainTextLength : BitVec 32)
    (key : List UInt8) (iv : Block) (cipher : BlockOut) : CbcState :=
  let wholeBlocks := plainTextLength.toNat / aesBlockSizes
  let s := (List.range wholeBlocks).foldl (fun s n =>
    cbcEncryptBlock (kmalloc n) key iv cipher.size (blockAt plainText (16 * n)) s)
    ⟨cipher.block, 0⟩
  cbcEncryptBlock (kmalloc wholeBlocks) key iv cipher.size
    (cbcLastBlock plainText plainTextLength) s

/-- `AES_CBC_Encrypt`. -/
def aesCbcEncrypt (kmalloc : Nat → Bool) (plainText : Memory) (plainTextLength : BitVec 32)
    (key : List UInt8) (iv : Block) (ivLength : Nat) (cipher : BlockOut) : BlockOut :=
  let paddingSize := BitVec.ofNat 32 (cbcPaddingSize plainTextLength)
  if cipher.size < plainTextLength + paddingSize then cipher
  else if !validKeyLength key.length then cipher
  else if ivLength ≠ aesCbcIvLength then cipher
  else
    let s := cbcEncryptBlocks kmalloc plainText plainTextLength key iv cipher
    ⟨s.text, BitVec.ofNat 32 s.blockStart⟩

/-- The exclusive or of sixteen bytes of `PlainText`, by an index that wraps like an unsigned
one. -/
def xorAt (text : Memory) (start : Nat) (block : Block) : Memory := fun address =>
  let index := (address + 2 ^ 32 - start) % 2 ^ 32
  if inside : index < 16 then
    if address < 2 ^ 32 then text address ^^^ block ⟨index, inside⟩ else text address
  else text address

/-- A turn of the loop of `AES_CBC_Decrypt`, with `CipherBlockStart` at byte `16 * n`. -/
def cbcDecryptTurn (kmalloc : Nat → Bool) (cipherText : Memory) (key : List UInt8) (iv : Block)
    (plainTextLength : BitVec 32) (s : CbcState) (n : Nat) : CbcState :=
  let out := intoBuffer s.text s.blockStart (plainTextLength - BitVec.ofNat 32 s.blockStart)
    (rtAesDecrypt (kmalloc n) (blockAt cipherText (16 * n)) 16 key)
  ⟨xorAt out.1 s.blockStart (chainedWith (s.blockStart == 0) iv cipherText (16 * n)),
    s.blockStart + out.2.toNat⟩

/-- What `AES_CBC_Decrypt` leaves, and what it took away from what, if it came so far. -/
structure CbcPlain where
  out : BlockOut
  subtracted : Option (Nat × Nat)

/-- The check of the cipher text's length: `%` binds `AES_STATE_ROWS` of `AES_BLOCK_SIZES`, and the
remainder is multiplied by `AES_STATE_COLUMNS`. -/
def cbcRemainder (cipherTextLength : BitVec 32) : Nat := cipherTextLength.toNat % 4 * 4

/-- `AES_CBC_Decrypt`. -/
def aesCbcDecrypt (kmalloc : Nat → Bool) (cipherText : Memory) (cipherTextLength : BitVec 32)
    (key : List UInt8) (iv : Block) (ivLength : Nat) (plain : BlockOut) : CbcPlain :=
  if cbcRemainder cipherTextLength ≠ 0 then ⟨plain, none⟩
  else if !validKeyLength key.length then ⟨plain, none⟩
  else if ivLength ≠ aesCbcIvLength then ⟨plain, none⟩
  else
    let s := (List.range (cipherTextLength.toNat / aesBlockSizes)).foldl
      (cbcDecryptTurn kmalloc cipherText key iv plain.size) ⟨plain.block, 0⟩
    let plainBlockStart := BitVec.ofNat 32 s.blockStart
    let paddingSize := s.text (plainBlockStart - 1).toNat
    ⟨⟨s.text, plainBlockStart - BitVec.ofNat 32 paddingSize.toNat⟩,
      some (s.blockStart, paddingSize.toNat)⟩

section Buffers

variable {kmalloc : Bool} {key : List UInt8} {text : Memory} {start : Nat} {size : BitVec 32}

theorem into_written (data : List UInt8) : (fun address => if address < start then text address
    else Memory.write (fun address => text (start + address)) 0 data (address - start)) =
      text.write start data := by
  funext address
  by_cases before : address < start
  · rw [if_pos before, Memory.write_before text data before]
  · have inside : start + (address - start) = address := by omega
    rw [if_neg before, Memory.write, Memory.write, if_pos (Nat.zero_le _), if_pos (by omega),
      Nat.sub_zero, inside]

theorem into_same : (fun address => if address < start then text address
    else text (start + (address - start))) = text := by
  funext address
  by_cases before : address < start
  · rw [if_pos before]
  · have inside : start + (address - start) = address := by omega
    rw [if_neg before, inside]

theorem intoBuffer_encrypt (block : Block) (memory : kmalloc = true)
    (valid : validKeyLength key.length = true) (room : 16 ≤ size.toNat) :
    intoBuffer text start size (rtAesEncrypt kmalloc block 16 key) =
      (text.write start (List.ofFn (rtAes.encrypt key block)), 16) := by
  rw [intoBuffer, rtAesEncrypt_eq block memory valid room]
  dsimp only
  rw [into_written]

theorem intoBuffer_decrypt (block : Block) (memory : kmalloc = true)
    (valid : validKeyLength key.length = true) (room : 16 ≤ size.toNat) :
    intoBuffer text start size (rtAesDecrypt kmalloc block 16 key) =
      (text.write start (List.ofFn (rtAes.decrypt key block)), 16) := by
  rw [intoBuffer, rtAesDecrypt_eq block memory valid room]
  dsimp only
  rw [into_written]

theorem rtAesDecrypt_refused {plain : BlockOut} (block : Block)
    (refused : ¬ (16 ≤ plain.size.toNat ∧ kmalloc = true)) :
    rtAesDecrypt kmalloc block 16 key plain = plain := by
  rw [rtAesDecrypt]
  split
  · rfl
  · next room =>
    split
    · rfl
    · rw [if_neg (by decide), if_pos]
      have enough : 16 ≤ plain.size.toNat := not_lt.mp room
      cases kmalloc
      · rfl
      · exact absurd ⟨enough, rfl⟩ refused

theorem intoBuffer_refused (block : Block) (refused : ¬ (16 ≤ size.toNat ∧ kmalloc = true)) :
    intoBuffer text start size (rtAesDecrypt kmalloc block 16 key) = (text, size) := by
  rw [intoBuffer, rtAesDecrypt_refused block refused]
  dsimp only
  rw [into_same]

theorem xorAt_inside (text : Memory) {start : Nat} (bound : start + 16 ≤ 2 ^ 32) (block : Block)
    (k : Fin 16) : xorAt text start block (start + k.val) = text (start + k.val) ^^^ block k := by
  have below := k.isLt
  have index : (start + k.val + 2 ^ 32 - start) % 2 ^ 32 = k.val := by omega
  simp only [xorAt, index]
  rw [dif_pos below, if_pos (by omega)]

theorem xorAt_outside (text : Memory) {start address : Nat} (bound : start < 2 ^ 32)
    (block : Block) (outside : 16 ≤ (address + 2 ^ 32 - start) % 2 ^ 32 ∨ 2 ^ 32 ≤ address) :
    xorAt text start block address = text address := by
  simp only [xorAt]
  split
  · rw [if_neg (by omega)]
  · rfl

theorem blockBefore_succ (cipherText : Memory) {n : Nat} (bound : 16 * n + 16 ≤ 2 ^ 32) :
    blockBefore cipherText (16 * (n + 1)) = blockAt cipherText (16 * n) := by
  funext index
  have below := index.isLt
  have place : (16 * (n + 1) + (2 ^ 32 - aesBlockSizes) + index.val) % 2 ^ 32 =
      16 * n + index.val := by
    simp only [aesBlockSizes]
    omega
  rw [blockBefore, blockAt, place]

theorem blockAt_write_apart (text : Memory) {start other : Nat} (block : Block)
    (apart : other + 16 ≤ start) : blockAt (text.write start (List.ofFn block)) other =
      blockAt text other := by
  funext k
  have below := k.isLt
  rw [blockAt, blockAt, Memory.write_before text _ (by omega)]

theorem toNat_room {size : BitVec 32} {start : Nat} (inside : start ≤ size.toNat) :
    (size - BitVec.ofNat 32 start).toNat = size.toNat - start := by
  have bound := size.isLt
  have small : start % 2 ^ 32 = start := Nat.mod_eq_of_lt (by omega)
  rw [BitVec.toNat_sub, BitVec.toNat_ofNat, small]
  omega

end Buffers

section Encrypt

/-- The block that a block of text is chained with, from the texts before it. -/
def cbcPrevious (key : List UInt8) (iv : Block) (blocks : Nat → Block) : Nat → Block
  | 0 => iv
  | n + 1 => rtAes.encrypt key fun index =>
      blocks n index ^^^ cbcPrevious key iv blocks n index

/-- The first `n` blocks stand encrypted in the buffer. -/
structure Encrypted (key : List UInt8) (iv : Block) (blocks : Nat → Block) (n : Nat)
    (s : CbcState) : Prop where
  start : s.blockStart = 16 * n
  block : ∀ j < n, blockAt s.text (16 * j) = cbcPrevious key iv blocks (j + 1)

variable {key : List UInt8} {iv : Block} {blocks : Nat → Block}

theorem Encrypted.chained {n : Nat} {s : CbcState} (encrypted : Encrypted key iv blocks n s)
    (bound : 16 * n ≤ 2 ^ 32) :
    chainedWith (s.blockStart == 0) iv s.text s.blockStart = cbcPrevious key iv blocks n := by
  rw [encrypted.start]
  cases n with
  | zero => rfl
  | succ n =>
    have later : (16 * (n + 1) == 0) = false := rfl
    rw [later, chainedWith, if_neg Bool.false_ne_true, blockBefore_succ _ (by omega)]
    exact encrypted.block n (Nat.lt_succ_self n)

theorem Encrypted.succ {kmalloc : Bool} {n : Nat} {s : CbcState} {size : BitVec 32}
    (encrypted : Encrypted key iv blocks n s) (memory : kmalloc = true)
    (valid : validKeyLength key.length = true) (room : 16 * (n + 1) ≤ size.toNat) :
    Encrypted key iv blocks (n + 1) (cbcEncryptBlock kmalloc key iv size (blocks n) s) := by
  have bound := size.isLt
  have start := encrypted.start
  have left : 16 ≤ (size - BitVec.ofNat 32 s.blockStart).toNat := by
    rw [toNat_room (by omega)]
    omega
  have result : cbcEncryptBlock kmalloc key iv size (blocks n) s =
      ⟨s.text.write (16 * n) (List.ofFn (cbcPrevious key iv blocks (n + 1))), 16 * n + 16⟩ := by
    rw [cbcEncryptBlock, encrypted.chained (by omega), intoBuffer_encrypt _ memory valid left,
      start]
    rfl
  rw [result]
  refine ⟨rfl, fun j below => ?_⟩
  dsimp only
  obtain before | rfl := Nat.lt_succ_iff_lt_or_eq.mp below
  · rw [blockAt_write_apart _ _ (by omega), encrypted.block j before]
  · rw [blockAt_write]

end Encrypt

section Decrypt

/-- What a block of the cipher text decrypts to. -/
def cbcPlainBlock (cipherText : Memory) (key : List UInt8) (iv : Block) (j : Nat) : Block :=
  fun index => rtAes.decrypt key (blockAt cipherText (16 * j)) index ^^^
    chainedWith (j == 0) iv cipherText (16 * j) index

/-- The first `n` blocks stand decrypted in the buffer, with nothing changed behind them. -/
structure Decrypted (cipherText : Memory) (key : List UInt8) (iv : Block) (before : Memory)
    (n : Nat) (s : CbcState) : Prop where
  start : s.blockStart = 16 * n
  block : ∀ j < n, blockAt s.text (16 * j) = cbcPlainBlock cipherText key iv j
  behind : ∀ address, 16 * n ≤ address → s.text address = before address

variable {kmalloc : Nat → Bool} {cipherText before : Memory} {key : List UInt8} {iv : Block}
  {size : BitVec 32}

theorem Decrypted.succ {n : Nat} {s : CbcState}
    (decrypted : Decrypted cipherText key iv before n s) (memory : kmalloc n = true)
    (valid : validKeyLength key.length = true) (room : 16 * (n + 1) ≤ size.toNat) :
    Decrypted cipherText key iv before (n + 1)
      (cbcDecryptTurn kmalloc cipherText key iv size s n) := by
  have bound := size.isLt
  have start := decrypted.start
  have first : (s.blockStart == 0) = (n == 0) := by
    rw [start]
    cases n <;> rfl
  have left : 16 ≤ (size - BitVec.ofNat 32 s.blockStart).toNat := by
    rw [toNat_room (by omega)]
    omega
  have result : cbcDecryptTurn kmalloc cipherText key iv size s n =
      ⟨xorAt (s.text.write (16 * n)
          (List.ofFn (rtAes.decrypt key (blockAt cipherText (16 * n))))) (16 * n)
        (chainedWith (n == 0) iv cipherText (16 * n)), 16 * n + 16⟩ := by
    rw [cbcDecryptTurn, intoBuffer_decrypt _ memory valid left, first, start]
    rfl
  rw [result]
  refine ⟨rfl, fun j below => ?_, fun address after => ?_⟩
  · obtain earlier | rfl := Nat.lt_succ_iff_lt_or_eq.mp below
    · rw [← decrypted.block j earlier]
      funext k
      have inside := k.isLt
      dsimp only [blockAt]
      rw [xorAt_outside _ (by omega) _ (by omega), Memory.write_before _ _ (by omega)]
    · funext k
      dsimp only [blockAt]
      rw [xorAt_inside _ (by omega), cbcPlainBlock]
      have stored := congrFun (blockAt_write s.text (16 * j)
        (rtAes.decrypt key (blockAt cipherText (16 * j)))) k
      rw [blockAt] at stored
      rw [stored]
  · dsimp only
    rw [xorAt_outside _ (by omega) _ (by omega), Memory.write_after]
    · exact decrypted.behind address (by omega)
    · rw [List.length_ofFn]
      omega

/-- The turns up to a refusal, or all of them. -/
theorem decrypted_turns (valid : validKeyLength key.length = true) (n : Nat)
    (served : ∀ j < n, 16 * (j + 1) ≤ size.toNat ∧ kmalloc j = true) :
    Decrypted cipherText key iv before n ((List.range n).foldl
      (cbcDecryptTurn kmalloc cipherText key iv size) ⟨before, 0⟩) := by
  induction n with
  | zero => exact ⟨rfl, fun _ none => absurd none (Nat.not_lt_zero _), fun _ _ => rfl⟩
  | succ n ih =>
    have last := served n (Nat.lt_succ_self n)
    rw [List.range_succ, List.foldl_append]
    exact (ih fun j below => served j (Nat.lt_succ_of_lt below)).succ last.2 valid last.1

theorem cbcDecryptTurn_refused {n : Nat} {s : CbcState} (inside : s.blockStart ≤ size.toNat)
    (refused : ¬ (s.blockStart + 16 ≤ size.toNat ∧ kmalloc n = true)) :
    cbcDecryptTurn kmalloc cipherText key iv size s n =
      ⟨xorAt s.text s.blockStart (chainedWith (s.blockStart == 0) iv cipherText (16 * n)),
        size.toNat⟩ := by
  have left : ¬ (16 ≤ (size - BitVec.ofNat 32 s.blockStart).toNat ∧ kmalloc n = true) := by
    rw [toNat_room inside]
    rintro ⟨room, memory⟩
    exact refused ⟨by omega, memory⟩
  rw [cbcDecryptTurn, intoBuffer_refused _ left]
  dsimp only
  rw [toNat_room inside, Nat.add_sub_cancel' inside]

/-- The byte before a place, by an index that wraps. -/
def lastBefore (start : Nat) : Nat := (BitVec.ofNat 32 start - 1).toNat

theorem lastBefore_eq {start : Nat} (bound : start < 2 ^ 32) :
    lastBefore start = if start = 0 then 2 ^ 32 - 1 else start - 1 := by
  have small : start % 2 ^ 32 = start := Nat.mod_eq_of_lt bound
  rw [lastBefore, BitVec.toNat_sub, BitVec.toNat_ofNat, small]
  split <;> simp <;> omega

/-- Once the buffer is used up, the turns that are left change neither the place nor the byte
before it. -/
theorem refused_turns (turns : List Nat) (s : CbcState) (full : s.blockStart = size.toNat) :
    let later := turns.foldl (cbcDecryptTurn kmalloc cipherText key iv size) s
    later.blockStart = size.toNat ∧
      later.text (lastBefore size.toNat) = s.text (lastBefore size.toNat) := by
  have bound := size.isLt
  induction turns generalizing s with
  | nil => exact ⟨full, rfl⟩
  | cons n rest ih =>
    have turn := @cbcDecryptTurn_refused kmalloc cipherText key iv size n s (by omega) (by omega)
    obtain ⟨place, byte⟩ := ih (cbcDecryptTurn kmalloc cipherText key iv size s n) (by rw [turn])
    refine ⟨place, byte.trans ?_⟩
    rw [turn, full]
    refine xorAt_outside _ bound _ (Or.inl ?_)
    rw [lastBefore_eq bound]
    split <;> omega

/-- How many of the blocks find room and memory before the first that does not. -/
def cbcServed (kmalloc : Nat → Bool) (size : BitVec 32) (blocks : Nat) : Nat :=
  (List.range blocks).findIdx fun n => !(decide (16 * (n + 1) ≤ size.toNat) && kmalloc n)

/-- The data that the loop leaves: whole blocks, or all of a buffer that was refused. -/
def cbcDataLength (kmalloc : Nat → Bool) (size : BitVec 32) (blocks : Nat) : Nat :=
  if cbcServed kmalloc size blocks = blocks then 16 * blocks else size.toNat

/-- The last byte of the data: of the last block decrypted; or what stood in the buffer, under the
chaining where the refused block lies. -/
def cbcPaddingByte (kmalloc : Nat → Bool) (cipherText : Memory) (key : List UInt8) (iv : Block)
    (plain : BlockOut) (blocks : Nat) : UInt8 :=
  let served := cbcServed kmalloc plain.size blocks
  let last := cbcDataLength kmalloc plain.size blocks
  if last = 16 * served then
    if served = 0 then plain.block (2 ^ 32 - 1)
    else byte (cbcPlainBlock cipherText key iv (served - 1)) 15
  else if inside : last - 1 - 16 * served < 16 then
    plain.block (last - 1) ^^^
      chainedWith (served == 0) iv cipherText (16 * served) ⟨last - 1 - 16 * served, inside⟩
  else plain.block (last - 1)

theorem cbcServed_le (kmalloc : Nat → Bool) (size : BitVec 32) (blocks : Nat) :
    cbcServed kmalloc size blocks ≤ blocks :=
  List.findIdx_le_length.trans (by rw [List.length_range])

theorem served_before {blocks j : Nat} (below : j < cbcServed kmalloc size blocks) :
    16 * (j + 1) ≤ size.toNat ∧ kmalloc j = true := by
  have served := List.not_of_lt_findIdx below
  rw [List.getElem_range] at served
  simpa using served

theorem refused_at {blocks : Nat} (below : cbcServed kmalloc size blocks < blocks) :
    ¬ (16 * (cbcServed kmalloc size blocks + 1) ≤ size.toNat ∧
      kmalloc (cbcServed kmalloc size blocks) = true) := by
  have found : cbcServed kmalloc size blocks < (List.range blocks).length := by
    rwa [List.length_range]
  have refused : (!(decide (16 * ((List.range blocks)[cbcServed kmalloc size blocks] + 1) ≤
      size.toNat) && kmalloc ((List.range blocks)[cbcServed kmalloc size blocks]))) = true :=
    @List.findIdx_getElem _ (fun n => !(decide (16 * (n + 1) ≤ size.toNat) && kmalloc n)) _ found
  simp only [List.getElem_range] at refused
  intro both
  simp [both.1, both.2] at refused

theorem served_room (blocks : Nat) : 16 * cbcServed kmalloc size blocks ≤ size.toNat := by
  cases count : cbcServed kmalloc size blocks with
  | zero => exact Nat.zero_le _
  | succ n => exact (served_before (by rw [count]; exact Nat.lt_succ_self n)).1

/-- The byte before the blocks that were decrypted. -/
theorem Decrypted.last {n : Nat} {s : CbcState}
    (decrypted : Decrypted cipherText key iv before n s) (bound : 16 * n < 2 ^ 32) :
    s.text (lastBefore (16 * n)) =
      if n = 0 then before (2 ^ 32 - 1)
      else byte (cbcPlainBlock cipherText key iv (n - 1)) 15 := by
  rw [lastBefore_eq bound]
  cases n with
  | zero => exact decrypted.behind (2 ^ 32 - 1) (Nat.zero_le _)
  | succ n =>
    rw [if_neg (by omega), if_neg (Nat.succ_ne_zero n), Nat.add_sub_cancel,
      ← decrypted.block n (Nat.lt_succ_self n)]
    rfl

theorem range_around {i n : Nat} (inside : i < n) :
    List.range n = List.range i ++ i :: List.range' (i + 1) (n - i - 1) := by
  have joined := @List.range'_append_1 0 i (n - i - 1 + 1)
  rw [Nat.zero_add] at joined
  rw [List.range_eq_range', List.range_eq_range', ← List.range'_succ, joined]
  congr 1
  omega

/-- What the loop leaves, for every buffer and whatever memory there was. -/
theorem cbcDecrypt_loop {plain : BlockOut} (valid : validKeyLength key.length = true)
    {blocks : Nat} (bound : 16 * blocks < 2 ^ 32) :
    let s := (List.range blocks).foldl (cbcDecryptTurn kmalloc cipherText key iv plain.size)
      ⟨plain.block, 0⟩
    s.blockStart = cbcDataLength kmalloc plain.size blocks ∧
      s.text (lastBefore s.blockStart) =
        cbcPaddingByte kmalloc cipherText key iv plain blocks := by
  have below := plain.size.isLt
  have fits := @served_room kmalloc plain.size blocks
  have run := @decrypted_turns kmalloc cipherText plain.block key iv plain.size valid
    (cbcServed kmalloc plain.size blocks) fun j early => served_before early
  dsimp only
  obtain all | some := (cbcServed_le kmalloc plain.size blocks).eq_or_lt
  · have length : cbcDataLength kmalloc plain.size blocks = 16 * blocks := if_pos all
    rw [all] at run
    refine ⟨run.start.trans length.symm, ?_⟩
    simp only [run.start, run.last bound, cbcPaddingByte, length, all, if_true]
  · have length : cbcDataLength kmalloc plain.size blocks = plain.size.toNat :=
      if_neg some.ne
    have refused := refused_at some
    rw [range_around some, List.foldl_append, List.foldl_cons, cbcPaddingByte, length]
    generalize cbcServed kmalloc plain.size blocks = served at *
    generalize (List.range served).foldl (cbcDecryptTurn kmalloc cipherText key iv plain.size)
      ⟨plain.block, 0⟩ = s at *
    have place := run.start
    have turn := @cbcDecryptTurn_refused kmalloc cipherText key iv plain.size served s
      (by omega) (by rw [place]; exact refused)
    have first : (s.blockStart == 0) = (served == 0) := by
      rw [place]
      cases served <;> rfl
    obtain ⟨later, same⟩ := @refused_turns kmalloc cipherText key iv plain.size
      (List.range' (served + 1) (blocks - served - 1))
      (cbcDecryptTurn kmalloc cipherText key iv plain.size s served) (by rw [turn])
    refine ⟨later, ?_⟩
    rw [later, same, turn, first, place]
    dsimp only
    by_cases full : plain.size.toNat = 16 * served
    · have outside : 16 ≤ (lastBefore (16 * served) + 2 ^ 32 - 16 * served) % 2 ^ 32 := by
        rw [lastBefore_eq (by omega)]
        split <;> omega
      rw [if_pos full, full, xorAt_outside _ (by omega) _ (Or.inl outside), run.last (by omega)]
    · have last : lastBefore plain.size.toNat = plain.size.toNat - 1 := by
        rw [lastBefore_eq below, if_neg (by omega)]
      have same := run.behind (plain.size.toNat - 1) (by omega)
      rw [if_neg full, last]
      by_cases inside : plain.size.toNat - 1 - 16 * served < 16
      · have chained := xorAt_inside s.text (by omega : 16 * served + 16 ≤ 2 ^ 32)
          (chainedWith (served == 0) iv cipherText (16 * served))
          ⟨plain.size.toNat - 1 - 16 * served, inside⟩
        have address : 16 * served + (plain.size.toNat - 1 - 16 * served) =
            plain.size.toNat - 1 := by omega
        dsimp only at chained
        rw [address] at chained
        rw [dif_pos inside, chained, same]
      · rw [dif_neg inside, xorAt_outside _ (by omega) _ (Or.inl (by omega)), same]

end Decrypt

section Claims

/-- The cipher text passes the checks at the head of `AES_CBC_Decrypt`. -/
def cbcAccepted (cipherTextLength : BitVec 32) (key : List UInt8) (ivLength : Nat) : Prop :=
  cbcRemainder cipherTextLength = 0 ∧ validKeyLength key.length = true ∧
    ivLength = aesCbcIvLength

instance (cipherTextLength : BitVec 32) (key : List UInt8) (ivLength : Nat) :
    Decidable (cbcAccepted cipherTextLength key ivLength) :=
  inferInstanceAs (Decidable (_ ∧ _ ∧ _))

/-- No length above that of the cipher text is left behind, and no more is taken away than there
is. -/
def CbcPlain.Bounded (plain : CbcPlain) (cipherTextLength : BitVec 32) : Prop :=
  plain.out.size.toNat ≤ cipherTextLength.toNat ∧
    ∀ data padding, plain.subtracted = some (data, padding) → padding ≤ data

/-- The padding byte does not exceed the data before it. -/
def cbcBounded (kmalloc : Nat → Bool) (cipherText : Memory) (cipherTextLength : BitVec 32)
    (key : List UInt8) (iv : Block) (ivLength : Nat) (plain : BlockOut) : Prop :=
  let blocks := cipherTextLength.toNat / 16
  let data := cbcDataLength kmalloc plain.size blocks
  let padding := (cbcPaddingByte kmalloc cipherText key iv plain blocks).toNat
  if cbcAccepted cipherTextLength key ivLength then
    padding ≤ data ∧ data - padding ≤ cipherTextLength.toNat
  else plain.size.toNat ≤ cipherTextLength.toNat

variable {kmalloc : Nat → Bool} {cipherText : Memory} {cipherTextLength : BitVec 32}
  {key : List UInt8} {iv : Block} {ivLength : Nat} {plain : BlockOut}

theorem aesCbcDecrypt_refused (refused : ¬ cbcAccepted cipherTextLength key ivLength) :
    aesCbcDecrypt kmalloc cipherText cipherTextLength key iv ivLength plain = ⟨plain, none⟩ := by
  rw [aesCbcDecrypt]
  split
  · rfl
  · next whole =>
    split
    · rfl
    · next valid =>
      split
      · rfl
      · next length =>
        exact absurd ⟨not_not.mp whole, by simpa using valid, not_not.mp length⟩ refused

theorem aesCbcDecrypt_accepted (accepted : cbcAccepted cipherTextLength key ivLength) :
    let blocks := cipherTextLength.toNat / 16
    let data := cbcDataLength kmalloc plain.size blocks
    let padding := (cbcPaddingByte kmalloc cipherText key iv plain blocks).toNat
    let s := (List.range blocks).foldl (cbcDecryptTurn kmalloc cipherText key iv plain.size)
      ⟨plain.block, 0⟩
    aesCbcDecrypt kmalloc cipherText cipherTextLength key iv ivLength plain =
      ⟨⟨s.text, BitVec.ofNat 32 data - BitVec.ofNat 32 padding⟩, some (data, padding)⟩ := by
  have bound := cipherTextLength.isLt
  obtain ⟨whole, valid, length⟩ := accepted
  obtain ⟨place, byte⟩ := @cbcDecrypt_loop kmalloc cipherText key iv plain valid
    (cipherTextLength.toNat / 16) (by omega)
  dsimp only
  rw [aesCbcDecrypt, if_neg (not_not.mpr whole), if_neg (by simp [valid]),
    if_neg (by exact not_not.mpr length)]
  dsimp only [aesBlockSizes]
  rw [← byte, ← place]
  rfl

theorem cbcDataLength_lt (kmalloc : Nat → Bool) (size : BitVec 32) {blocks : Nat}
    (bound : 16 * blocks < 2 ^ 32) : cbcDataLength kmalloc size blocks < 2 ^ 32 := by
  unfold cbcDataLength
  split
  · exact bound
  · exact size.isLt

theorem aesCbcDecrypt_bounded_iff :
    (aesCbcDecrypt kmalloc cipherText cipherTextLength key iv ivLength plain).Bounded
        cipherTextLength ↔
      cbcBounded kmalloc cipherText cipherTextLength key iv ivLength plain := by
  have bound := cipherTextLength.isLt
  unfold cbcBounded
  dsimp only
  by_cases accepted : cbcAccepted cipherTextLength key ivLength
  · have below := cbcDataLength_lt kmalloc plain.size
      (by omega : 16 * (cipherTextLength.toNat / 16) < 2 ^ 32)
    rw [if_pos accepted, aesCbcDecrypt_accepted accepted]
    generalize cbcDataLength kmalloc plain.size (cipherTextLength.toNat / 16) = data at *
    generalize (cbcPaddingByte kmalloc cipherText key iv plain
      (cipherTextLength.toNat / 16)).toNat = padding
    have taken : padding ≤ data →
        (BitVec.ofNat 32 data - BitVec.ofNat 32 padding).toNat = data - padding := by
      intro enough
      have whole : (BitVec.ofNat 32 data).toNat = data := Nat.mod_eq_of_lt below
      rw [toNat_room (by omega), whole]
    constructor
    · rintro ⟨reported, subtracted⟩
      have enough := subtracted data padding rfl
      exact ⟨enough, taken enough ▸ reported⟩
    · rintro ⟨enough, reported⟩
      refine ⟨(taken enough).trans_le reported, fun _ _ same => ?_⟩
      cases same
      exact enough
  · rw [if_neg accepted, aesCbcDecrypt_refused accepted]
    exact ⟨And.left, fun reported => ⟨reported, fun _ _ none => nomatch none⟩⟩

/-- The whole text as blocks, with the padding in the last. -/
def cbcBlocks (plainText : Memory) (plainTextLength : BitVec 32) (n : Nat) : Block :=
  if n = plainTextLength.toNat / 16 then cbcLastBlock plainText plainTextLength
  else blockAt plainText (16 * n)

theorem cbcEncryptBlocks_encrypted {encryptMemory : Nat → Bool} {plainText : Memory}
    {plainTextLength : BitVec 32} {cipher : BlockOut} (memory : ∀ call, encryptMemory call = true)
    (valid : validKeyLength key.length = true)
    (room : 16 * (plainTextLength.toNat / 16 + 1) ≤ cipher.size.toNat) :
    Encrypted key iv (cbcBlocks plainText plainTextLength) (plainTextLength.toNat / 16 + 1)
      (cbcEncryptBlocks encryptMemory plainText plainTextLength key iv cipher) := by
  have turns : ∀ n ≤ plainTextLength.toNat / 16,
      Encrypted key iv (cbcBlocks plainText plainTextLength) n
        ((List.range n).foldl (fun s n => cbcEncryptBlock (encryptMemory n) key iv cipher.size
          (blockAt plainText (16 * n)) s) ⟨cipher.block, 0⟩) := by
    intro n
    induction n with
    | zero => exact fun _ => ⟨rfl, fun _ none => absurd none (Nat.not_lt_zero _)⟩
    | succ n ih =>
      intro inside
      have block : cbcBlocks plainText plainTextLength n = blockAt plainText (16 * n) :=
        if_neg (by omega)
      have turn := (ih (by omega)).succ (memory n) valid
        (by omega : 16 * (n + 1) ≤ cipher.size.toNat)
      rw [List.range_succ, List.foldl_append]
      rwa [block] at turn
  have block : cbcBlocks plainText plainTextLength (plainTextLength.toNat / 16) =
      cbcLastBlock plainText plainTextLength := if_pos rfl
  have last := (turns _ le_rfl).succ (memory (plainTextLength.toNat / 16)) valid room
  rwa [block] at last

/-- What was encrypted from the blocks decrypts to them. -/
theorem cbcPlainBlock_encrypted {blocks : Nat → Block} {n j : Nat} {s : CbcState}
    (encrypted : Encrypted key iv blocks n s) (below : j < n) (bound : 16 * n ≤ 2 ^ 32) :
    cbcPlainBlock s.text key iv j = blocks j := by
  have chained : chainedWith (j == 0) iv s.text (16 * j) = cbcPrevious key iv blocks j := by
    cases j with
    | zero => rfl
    | succ j =>
      have later : (j + 1 == 0) = false := rfl
      rw [later, chainedWith, if_neg Bool.false_ne_true, blockBefore_succ _ (by omega)]
      exact encrypted.block j (by omega)
  funext index
  rw [cbcPlainBlock, encrypted.block j below, chained, cbcPrevious, rtAes_decrypt_encrypt,
    UInt8.xor_assoc, UInt8.xor_self, UInt8.xor_zero]

theorem cbcServed_all {size : BitVec 32} {blocks : Nat} (memory : ∀ call, kmalloc call = true)
    (room : 16 * blocks ≤ size.toNat) : cbcServed kmalloc size blocks = blocks := by
  obtain all | some := (cbcServed_le kmalloc size blocks).eq_or_lt
  · exact all
  · exact absurd ⟨by omega, memory _⟩ (refused_at some)

theorem cbcPaddingSize_eq (plainTextLength : BitVec 32) :
    cbcPaddingSize plainTextLength = 16 - plainTextLength.toNat % 16 := rfl

theorem cbcBlocks_apply (plainText : Memory) (plainTextLength : BitVec 32) {address : Nat}
    (inside : address < plainTextLength.toNat) :
    cbcBlocks plainText plainTextLength (address / 16) ⟨address % 16, Nat.mod_lt _ (by decide)⟩ =
      plainText address := by
  have place : 16 * (address / 16) + address % 16 = address := Nat.div_add_mod address 16
  unfold cbcBlocks
  split
  · next last =>
    have paddingSize := cbcPaddingSize_eq plainTextLength
    have front : ¬ aesBlockSizes - cbcPaddingSize plainTextLength ≤ address % 16 := by
      simp only [aesBlockSizes]
      omega
    rw [cbcLastBlock]
    dsimp only
    rw [if_neg front, ← last, place]
  · rw [blockAt, place]

/-- The byte at the end of encrypted data is the size of its padding. -/
theorem cbcPaddingByte_encrypted {plainText : Memory} {plainTextLength : BitVec 32}
    {s : CbcState} (memory : ∀ call, kmalloc call = true)
    (room : 16 * (plainTextLength.toNat / 16 + 1) ≤ plain.size.toNat)
    (encrypted : Encrypted key iv (cbcBlocks plainText plainTextLength)
      (plainTextLength.toNat / 16 + 1) s)
    (bound : 16 * (plainTextLength.toNat / 16 + 1) < 2 ^ 32) :
    cbcPaddingByte kmalloc s.text key iv plain (plainTextLength.toNat / 16 + 1) =
      UInt8.ofNat (cbcPaddingSize plainTextLength) := by
  have paddingSize := cbcPaddingSize_eq plainTextLength
  have served := cbcServed_all memory room
  have data : cbcDataLength kmalloc plain.size (plainTextLength.toNat / 16 + 1) =
      16 * (plainTextLength.toNat / 16 + 1) := if_pos served
  have final : aesBlockSizes - cbcPaddingSize plainTextLength ≤ (15 : Fin 16).val := by
    simp only [aesBlockSizes]
    show _ ≤ 15
    omega
  have last : cbcBlocks plainText plainTextLength (plainTextLength.toNat / 16) =
    cbcLastBlock plainText plainTextLength := if_pos rfl
  simp only [cbcPaddingByte, served, data, if_true, Nat.succ_ne_zero, if_false,
    Nat.add_sub_cancel]
  rw [cbcPlainBlock_encrypted encrypted (Nat.lt_succ_self _) (by omega), last]
  exact if_pos final

/-- Decryption of what encryption has made gives the text and its length back. -/
theorem aesCbcDecrypt_aesCbcEncrypt {encryptMemory decryptMemory : Nat → Bool}
    {plainText : Memory} {plainTextLength : BitVec 32} {cipher : BlockOut}
    (encryptServed : ∀ call, encryptMemory call = true)
    (decryptServed : ∀ call, decryptMemory call = true)
    (valid : validKeyLength key.length = true)
    (cipherRoom : 16 * (plainTextLength.toNat / 16 + 1) ≤ cipher.size.toNat)
    (plainRoom : 16 * (plainTextLength.toNat / 16 + 1) ≤ plain.size.toNat) :
    let sent := aesCbcEncrypt encryptMemory plainText plainTextLength key iv 16 cipher
    let received := aesCbcDecrypt decryptMemory sent.block sent.size key iv 16 plain
    received.out.size = plainTextLength ∧
      received.out.block.bytes 0 plainTextLength.toNat =
        plainText.bytes 0 plainTextLength.toNat := by
  have bound := cipher.size.isLt
  have paddingSize := cbcPaddingSize_eq plainTextLength
  have encrypted := @cbcEncryptBlocks_encrypted key iv encryptMemory plainText plainTextLength
    cipher encryptServed valid cipherRoom
  have padded : ¬ cipher.size <
      plainTextLength + BitVec.ofNat 32 (cbcPaddingSize plainTextLength) := by
    rw [BitVec.lt_def, BitVec.toNat_add, BitVec.toNat_ofNat]
    omega
  dsimp only
  rw [aesCbcEncrypt, if_neg padded, if_neg (by simp [valid]), if_neg (by decide)]
  dsimp only
  generalize cbcEncryptBlocks encryptMemory plainText plainTextLength key iv cipher = s at *
  have size : (BitVec.ofNat 32 s.blockStart).toNat = 16 * (plainTextLength.toNat / 16 + 1) := by
    rw [encrypted.start, BitVec.toNat_ofNat]
    omega
  have blocks : (BitVec.ofNat 32 s.blockStart).toNat / 16 = plainTextLength.toNat / 16 + 1 := by
    rw [size]
    omega
  have accepted : cbcAccepted (BitVec.ofNat 32 s.blockStart) key 16 := by
    refine ⟨?_, valid, rfl⟩
    rw [cbcRemainder, size]
    omega
  have served := cbcServed_all decryptServed plainRoom
  have data : cbcDataLength decryptMemory plain.size (plainTextLength.toNat / 16 + 1) =
      16 * (plainTextLength.toNat / 16 + 1) := if_pos served
  have padding := cbcPaddingByte_encrypted decryptServed plainRoom encrypted (by omega)
  have run := @decrypted_turns decryptMemory s.text plain.block key iv plain.size valid
    (plainTextLength.toNat / 16 + 1) fun j below => ⟨by omega, decryptServed j⟩
  rw [aesCbcDecrypt_accepted accepted, blocks, data, padding]
  dsimp only
  constructor
  · have small : (UInt8.ofNat (cbcPaddingSize plainTextLength)).toNat =
        cbcPaddingSize plainTextLength := by
      apply Nat.mod_eq_of_lt
      omega
    apply BitVec.eq_of_toNat_eq
    rw [small, BitVec.toNat_sub, BitVec.toNat_ofNat, BitVec.toNat_ofNat]
    omega
  · apply List.map_congr_left
    intro address member
    have inside := List.mem_range.mp member
    have place : 16 * (address / 16) + address % 16 = address := Nat.div_add_mod address 16
    have block := congrFun (run.block (address / 16) (by omega))
      ⟨address % 16, Nat.mod_lt _ (by decide)⟩
    rw [cbcPlainBlock_encrypted encrypted (by omega) (by omega), cbcBlocks_apply _ _ inside,
      blockAt, place] at block
    rw [Nat.zero_add]
    exact block

end Claims

/-- `AES_CBC_Decrypt` gives back what `AES_CBC_Encrypt` was given, and over every cipher text it
keeps to the data exactly when the padding byte at its end does. -/
theorem aesCbc_roundTrip_and_bounded_iff (encryptMemory kmalloc : Nat → Bool)
    (plainText cipherText : Memory) (plainTextLength cipherTextLength : BitVec 32)
    (key : List UInt8) (iv : Block) (ivLength : Nat) (cipher plain : BlockOut) :
    ((∀ call, encryptMemory call = true) → (∀ call, kmalloc call = true) →
      validKeyLength key.length = true →
      16 * (plainTextLength.toNat / 16 + 1) ≤ cipher.size.toNat →
      16 * (plainTextLength.toNat / 16 + 1) ≤ plain.size.toNat →
      let sent := aesCbcEncrypt encryptMemory plainText plainTextLength key iv 16 cipher
      let received := aesCbcDecrypt kmalloc sent.block sent.size key iv 16 plain
      received.out.size = plainTextLength ∧
        received.out.block.bytes 0 plainTextLength.toNat =
          plainText.bytes 0 plainTextLength.toNat) ∧
    ((aesCbcDecrypt kmalloc cipherText cipherTextLength key iv ivLength plain).Bounded
        cipherTextLength ↔
      cbcBounded kmalloc cipherText cipherTextLength key iv ivLength plain) :=
  ⟨fun encryptServed decryptServed valid cipherRoom plainRoom =>
      aesCbcDecrypt_aesCbcEncrypt encryptServed decryptServed valid cipherRoom plainRoom,
    aesCbcDecrypt_bounded_iff⟩

theorem aesCbc_roundTrip_and_bounded_iff_short :
    let sent := aesCbcEncrypt (fun _ => true) (fun _ => 5) 3 (List.replicate 16 1) zeroBlock 16
      ⟨fun _ => 0, 16⟩
    let received := aesCbcDecrypt (fun _ => true) sent.block sent.size (List.replicate 16 1)
      zeroBlock 16 ⟨fun _ => 0, 16⟩
    received.out.size = 3 ∧ received.out.block.bytes 0 (3 : BitVec 32).toNat =
      Memory.bytes (fun _ => 5) 0 (3 : BitVec 32).toNat :=
  (aesCbc_roundTrip_and_bounded_iff (fun _ => true) (fun _ => true) (fun _ => 5) (fun _ => 0) 3 0
    (List.replicate 16 1) zeroBlock 16 ⟨fun _ => 0, 16⟩ ⟨fun _ => 0, 16⟩).1 (fun _ => rfl)
    (fun _ => rfl) (by decide) (by decide) (by decide)

/-- A block that decrypts to bytes of `0xff`: 255 bytes are taken away from sixteen. -/
theorem aesCbcDecrypt_not_bounded : ¬ (aesCbcDecrypt (fun _ => true)
    (byte (rtAes.encrypt (List.replicate 16 1) fun _ => 0xff)) 16
    (List.replicate 16 1) zeroBlock 16 ⟨fun _ => 0, 16⟩).Bounded 16 := by
  have padding : cbcPaddingByte (fun _ => true)
      (byte (rtAes.encrypt (List.replicate 16 1) fun _ => 0xff))
      (List.replicate 16 1) zeroBlock ⟨fun _ => 0, 16⟩ 1 = 0xff := by
    have block : blockAt (byte (rtAes.encrypt (List.replicate 16 1)
        fun _ => 0xff)) (16 * 0) = rtAes.encrypt (List.replicate 16 1) fun _ => 0xff := by
      funext k
      have below := k.isLt
      simp [blockAt, byte]
    have served : cbcServed (fun _ => true) 16 1 = 1 := by decide
    have data : cbcDataLength (fun _ => true) 16 1 = 16 := by decide
    simp only [cbcPaddingByte, served, data, if_true, Nat.one_ne_zero, if_false, Nat.sub_self]
    rw [byte, dif_pos (by decide), cbcPlainBlock, block, rtAes_decrypt_encrypt]
    rfl
  rw [aesCbcDecrypt_bounded_iff, cbcBounded]
  dsimp only
  rw [if_pos (by decide), (by decide : (16 : BitVec 32).toNat / 16 = 1), padding]
  decide

end Mt7612u.Crypto
