import Mt7612u.Library.Undo
import Mt7612u.Crypto.AesTables
import Mt7612u.Crypto.KeyWrap

/-! `RT_AES_Encrypt` and `RT_AES_Decrypt`: the rounds on the state block, under the schedule of
`RT_AES_KeyExpansion`, and what they undo of each other. -/

namespace Mt7612u.Crypto
open Library.CcmFormat (Block)
open Library.ColumnMix (mixRow unmixRow unmixRow_mixRow xor_left_comm)
open Receive (Memory)

/-- `State[AES_STATE_ROWS][AES_STATE_COLUMNS]`. -/
abbrev State := Fin 4 → Fin 4 → UInt8

/-- A column of `KeyWordExpansion`. -/
abbrev KeyWord := Vector UInt8 4

/-- `aes_rcon`. -/
def aesRcon : List (BitVec 32) := [
  0x00000000, 0x01000000, 0x02000000, 0x04000000,
  0x08000000, 0x10000000, 0x20000000, 0x40000000,
  0x80000000, 0x1B000000, 0x36000000]

/-- A byte of `Temprcon`. -/
def rconByte (temprcon : BitVec 32) (shift : Nat) : UInt8 :=
  UInt8.ofBitVec ((temprcon >>> shift).setWidth 8)

/-- `TempWord`, before it is added to the word a key length back. -/
def tempWord (numberOfWordOfKey keyIndex : Nat) (last : KeyWord) : KeyWord :=
  if keyIndex % numberOfWordOfKey = 0 then
    let temprcon := aesRcon.getD (keyIndex / numberOfWordOfKey) 0
    #v[entry aesSboxEnc last[1] ^^^ rconByte temprcon 24,
      entry aesSboxEnc last[2] ^^^ rconByte temprcon 16,
      entry aesSboxEnc last[3] ^^^ rconByte temprcon 8,
      entry aesSboxEnc last[0] ^^^ rconByte temprcon 0]
  else if numberOfWordOfKey > 6 ∧ keyIndex % numberOfWordOfKey = 4 then
    last.map (entry aesSboxEnc)
  else last

/-- The words that the key is copied to. -/
def keyWords (key : List UInt8) : List KeyWord :=
  (List.range (key.length / 4)).map fun keyIndex =>
    #v[key.getD (4 * keyIndex) 0, key.getD (4 * keyIndex + 1) 0, key.getD (4 * keyIndex + 2) 0,
      key.getD (4 * keyIndex + 3) 0]

def expandWord (numberOfWordOfKey : Nat) (words : List KeyWord) (keyIndex : Nat) :
    List KeyWord :=
  let temp := tempWord numberOfWordOfKey keyIndex (words.getD (keyIndex - 1) (.replicate 4 0))
  words ++ [(words.getD (keyIndex - numberOfWordOfKey) (.replicate 4 0)).zipWith (· ^^^ ·) temp]

/-- `RT_AES_KeyExpansion`. -/
def rtAesKeyExpansion (key : List UInt8) : List KeyWord :=
  let numberOfWordOfKey := key.length / 4
  (List.range' numberOfWordOfKey (4 * (numberOfWordOfKey + 6 + 1) - numberOfWordOfKey)).foldl
    (expandWord numberOfWordOfKey) (keyWords key)

/-- `KeyWordExpansion`, by row and column. -/
abbrev KeyWordExpansion := Fin 4 → Nat → UInt8

/-- The schedule as the rounds read it. -/
def scheduleOf (words : List KeyWord) : KeyWordExpansion := fun row column =>
  (words.getD column (.replicate 4 0))[row]

/-- "Transfer the plain block to state block". -/
def stateOf (block : Block) : State := fun row column =>
  block ⟨row.val + 4 * column.val, by omega⟩

/-- "Transfer the state block to cipher block". -/
def blockOf (state : State) : Block := fun k => state ⟨k.val % 4, by omega⟩ ⟨k.val / 4, by omega⟩

/-- `AES_SubBytes` and `AES_InvSubBytes`, each with its table. -/
def substitute (table : List UInt8) (state : State) : State := fun row column =>
  entry table (state row column)

def subBytes : State → State := substitute aesSboxEnc
def invSubBytes : State → State := substitute aesSboxDec

/-- `AES_ShiftRows`. -/
def shiftRows (state : State) : State := ![
  state 0,
  ![state 1 1, state 1 2, state 1 3, state 1 0],
  ![state 2 2, state 2 3, state 2 0, state 2 1],
  ![state 3 3, state 3 0, state 3 1, state 3 2]]

/-- `AES_InvShiftRows`. -/
def invShiftRows (state : State) : State := ![
  state 0,
  ![state 1 3, state 1 0, state 1 1, state 1 2],
  ![state 2 2, state 2 3, state 2 0, state 2 1],
  ![state 3 1, state 3 2, state 3 3, state 3 0]]

/-- `AES_MixColumns`. -/
def mixColumns (state : State) : State := fun row column =>
  let row0 := state 0 column
  let row1 := state 1 column
  let row2 := state 2 column
  let row3 := state 3 column
  ![entry aesMul2 row0 ^^^ entry aesMul3 row1 ^^^ row2 ^^^ row3,
    row0 ^^^ entry aesMul2 row1 ^^^ entry aesMul3 row2 ^^^ row3,
    row0 ^^^ row1 ^^^ entry aesMul2 row2 ^^^ entry aesMul3 row3,
    entry aesMul3 row0 ^^^ row1 ^^^ row2 ^^^ entry aesMul2 row3] row

/-- `AES_InvMixColumns`. -/
def invMixColumns (state : State) : State := fun row column =>
  let row0 := state 0 column
  let row1 := state 1 column
  let row2 := state 2 column
  let row3 := state 3 column
  ![entry aesMulE row0 ^^^ entry aesMulB row1 ^^^ entry aesMulD row2 ^^^ entry aesMul9 row3,
    entry aesMul9 row0 ^^^ entry aesMulE row1 ^^^ entry aesMulB row2 ^^^ entry aesMulD row3,
    entry aesMulD row0 ^^^ entry aesMul9 row1 ^^^ entry aesMulE row2 ^^^ entry aesMulB row3,
    entry aesMulB row0 ^^^ entry aesMulD row1 ^^^ entry aesMul9 row2 ^^^ entry aesMulE row3] row

/-- `AES_AddRoundKey`. -/
def addRoundKey (expansion : KeyWordExpansion) (roundIndex : Nat) (state : State) : State :=
  fun row column => state row column ^^^ expansion row (roundIndex * 4 + column.val)

def encryptRound (expansion : KeyWordExpansion) (state : State) (roundIndex : Nat) : State :=
  addRoundKey expansion roundIndex (mixColumns (shiftRows (subBytes state)))

def decryptRound (expansion : KeyWordExpansion) (state : State) (roundIndex : Nat) : State :=
  invMixColumns (addRoundKey expansion roundIndex (invSubBytes (invShiftRows state)))

/-- The rounds 1 to `NumberOfRound - 1`. -/
def middleRounds (numberOfRound : Nat) : List Nat := List.range' 1 (numberOfRound - 1)

/-- "Main encryption rounds". -/
def encryptState (expansion : KeyWordExpansion) (numberOfRound : Nat) (state : State) : State :=
  let state := addRoundKey expansion 0 state
  let state := (middleRounds numberOfRound).foldl (encryptRound expansion) state
  addRoundKey expansion numberOfRound (shiftRows (subBytes state))

/-- "Main decryption rounds". -/
def decryptState (expansion : KeyWordExpansion) (numberOfRound : Nat) (state : State) : State :=
  let state := addRoundKey expansion numberOfRound state
  let state := (middleRounds numberOfRound).reverse.foldl (decryptRound expansion) state
  addRoundKey expansion 0 (invSubBytes (invShiftRows state))

/-- What both functions do once their checks have passed. -/
def rtAes : BlockCipher where
  encrypt key block := blockOf
    (encryptState (scheduleOf (rtAesKeyExpansion key)) (key.length / 4 + 6) (stateOf block))
  decrypt key block := blockOf
    (decryptState (scheduleOf (rtAesKeyExpansion key)) (key.length / 4 + 6) (stateOf block))

/-- A buffer with the block put into it, and how much of it is used. -/
structure BlockOut where
  block : Memory
  size : BitVec 32

/-- `RT_AES_Encrypt`; `kmalloc` tells whether there was memory for the context. -/
def rtAesEncrypt (kmalloc : Bool) (plainBlock : Block) (plainBlockSize : BitVec 32)
    (key : List UInt8) (cipher : BlockOut) : BlockOut :=
  if plainBlockSize.toNat ≠ aesBlockSizes then cipher
  else if !validKeyLength key.length then cipher
  else if cipher.size.toNat < aesBlockSizes then cipher
  else if !kmalloc then cipher
  else ⟨cipher.block.write 0 (List.ofFn (rtAes.encrypt key plainBlock)), 16⟩

/-- `RT_AES_Decrypt`. -/
def rtAesDecrypt (kmalloc : Bool) (cipherBlock : Block) (cipherBlockSize : BitVec 32)
    (key : List UInt8) (plain : BlockOut) : BlockOut :=
  if plain.size.toNat < aesBlockSizes then plain
  else if !validKeyLength key.length then plain
  else if cipherBlockSize.toNat ≠ aesBlockSizes then plain
  else if !kmalloc then plain
  else ⟨plain.block.write 0 (List.ofFn (rtAes.decrypt key cipherBlock)), 16⟩

section Rounds

theorem invSubBytes_subBytes (state : State) : invSubBytes (subBytes state) = state := by
  funext row column
  exact aesSboxDec_aesSboxEnc (state row column)

theorem invShiftRows_shiftRows (state : State) : invShiftRows (shiftRows state) = state := by
  funext row column
  fin_cases row <;> fin_cases column <;> rfl

theorem addRoundKey_addRoundKey (expansion : KeyWordExpansion) (roundIndex : Nat)
    (state : State) : addRoundKey expansion roundIndex (addRoundKey expansion roundIndex state) =
      state := by
  funext row column
  show state row column ^^^ _ ^^^ _ = state row column
  rw [UInt8.xor_assoc, UInt8.xor_self, UInt8.xor_zero]

/-- The four rows of a column are the same row of the matrix, turned on by one each time. -/
theorem mixColumns_apply (state : State) (row column : Fin 4) :
    mixColumns state row column = mixRow double (state row column) (state (row + 1) column)
      (state (row + 2) column) (state (row + 3) column) := by
  simp only [mixColumns, mixRow, aesMul2_eq, aesMul3_eq]
  fin_cases row <;>
    simp [UInt8.xor_assoc, UInt8.xor_comm, xor_left_comm]

theorem invMixColumns_apply (state : State) (row column : Fin 4) :
    invMixColumns state row column = unmixRow double (state row column) (state (row + 1) column)
      (state (row + 2) column) (state (row + 3) column) := by
  simp only [invMixColumns, unmixRow, aesMul9_eq, aesMulB_eq, aesMulD_eq, aesMulE_eq]
  fin_cases row <;>
    simp [UInt8.xor_assoc, UInt8.xor_comm, xor_left_comm]

theorem invMixColumns_mixColumns (state : State) : invMixColumns (mixColumns state) = state := by
  funext row column
  rw [invMixColumns_apply]
  simp only [mixColumns_apply]
  have turned : row + 1 + 3 = row ∧ row + 2 + 2 = row ∧ row + 2 + 3 = row + 1 ∧
      row + 3 + 1 = row ∧ row + 3 + 2 = row + 1 ∧ row + 3 + 3 = row + 2 ∧
      row + 1 + 1 = row + 2 ∧ row + 1 + 2 = row + 3 ∧ row + 2 + 1 = row + 3 := by
    fin_cases row <;> decide
  simp only [turned]
  exact unmixRow_mixRow double_xor _ _ _ _

end Rounds

/-- Decryption goes through the states of encryption backwards, each behind `AES_ShiftRows`. -/
theorem decryptState_encryptState (expansion : KeyWordExpansion) (numberOfRound : Nat)
    (state : State) :
    decryptState expansion numberOfRound (encryptState expansion numberOfRound state) = state := by
  have round : ∀ state roundIndex,
      decryptRound expansion (shiftRows (subBytes (encryptRound expansion state roundIndex)))
        roundIndex = shiftRows (subBytes state) := by
    intro state roundIndex
    simp only [decryptRound, invShiftRows_shiftRows, invSubBytes_subBytes]
    rw [encryptRound, addRoundKey_addRoundKey, invMixColumns_mixColumns]
  simp only [decryptState, encryptState, addRoundKey_addRoundKey]
  rw [Library.Undo.foldl_undo_view (fun state => shiftRows (subBytes state)) round,
    invShiftRows_shiftRows, invSubBytes_subBytes, addRoundKey_addRoundKey]

theorem stateOf_blockOf (state : State) : stateOf (blockOf state) = state := by
  funext row column
  have place : (row.val + 4 * column.val) % 4 = row.val ∧
      (row.val + 4 * column.val) / 4 = column.val := by omega
  simp only [stateOf, blockOf, place]

theorem blockOf_stateOf (block : Block) : blockOf (stateOf block) = block := by
  funext k
  show block _ = block k
  congr 1
  ext
  simp only
  omega

/-- The two functions on blocks, under every key. -/
theorem rtAes_decrypt_encrypt (key : List UInt8) (block : Block) :
    rtAes.decrypt key (rtAes.encrypt key block) = block := by
  simp only [rtAes, stateOf_blockOf, decryptState_encryptState, blockOf_stateOf]

theorem rtAesEncrypt_eq {kmalloc : Bool} {key : List UInt8} {cipher : BlockOut} (plainBlock : Block)
    (memory : kmalloc = true) (valid : validKeyLength key.length = true)
    (room : 16 ≤ cipher.size.toNat) : rtAesEncrypt kmalloc plainBlock 16 key cipher =
      ⟨cipher.block.write 0 (List.ofFn (rtAes.encrypt key plainBlock)), 16⟩ := by
  subst memory
  rw [rtAesEncrypt, if_neg (by decide), if_neg (by simp [valid]), if_neg (by exact not_lt_of_ge room),
    if_neg (by decide)]

theorem rtAesDecrypt_eq {kmalloc : Bool} {key : List UInt8} {plain : BlockOut} (cipherBlock : Block)
    (memory : kmalloc = true) (valid : validKeyLength key.length = true)
    (room : 16 ≤ plain.size.toNat) : rtAesDecrypt kmalloc cipherBlock 16 key plain =
      ⟨plain.block.write 0 (List.ofFn (rtAes.decrypt key cipherBlock)), 16⟩ := by
  subst memory
  rw [rtAesDecrypt, if_neg (by exact not_lt_of_ge room), if_neg (by simp [valid]), if_neg (by decide),
    if_neg (by decide)]

/-- The block at the start of a buffer. -/
def blockAt (mem : Memory) (start : Nat) : Block := fun k => mem (start + k.val)

theorem blockAt_write (mem : Memory) (start : Nat) (block : Block) :
    blockAt (mem.write start (List.ofFn block)) start = block := by
  funext k
  show Memory.write mem start (List.ofFn block) (start + k.val) = block k
  rw [Memory.write, if_pos (Nat.le_add_right _ _), Nat.add_sub_cancel_left,
    List.getD_eq_getElem _ _ (by rw [List.length_ofFn]; exact k.isLt), List.getElem_ofFn]

/-- What `RT_AES_Encrypt` made of a block, `RT_AES_Decrypt` takes back, and over every schedule of
every number of rounds the main rounds do. -/
theorem rtAesDecrypt_rtAesEncrypt :
    (∀ (expansion : KeyWordExpansion) (numberOfRound : Nat) (state : State),
      decryptState expansion numberOfRound (encryptState expansion numberOfRound state) = state) ∧
    ∀ (key : List UInt8) (block : Block) (cipher plain : BlockOut),
      validKeyLength key.length = true → 16 ≤ cipher.size.toNat → 16 ≤ plain.size.toNat →
      let sent := rtAesEncrypt true block 16 key cipher
      let received := rtAesDecrypt true (blockAt sent.block 0) sent.size key plain
      blockAt received.block 0 = block ∧ sent.size = 16 ∧ received.size = 16 := by
  refine ⟨decryptState_encryptState, ?_⟩
  intro key block cipher plain valid cipher_room plain_room
  dsimp only
  rw [rtAesEncrypt_eq block rfl valid cipher_room]
  dsimp only
  rw [blockAt_write, rtAesDecrypt_eq _ rfl valid plain_room]
  exact ⟨by rw [blockAt_write, rtAes_decrypt_encrypt], rfl, rfl⟩

theorem rtAesDecrypt_rtAesEncrypt_zero :
    let cipher : BlockOut := ⟨fun _ => 0, 16⟩
    let sent := rtAesEncrypt true zeroBlock 16 (List.replicate 24 1) cipher
    let received := rtAesDecrypt true (blockAt sent.block 0) sent.size (List.replicate 24 1) cipher
    blockAt received.block 0 = zeroBlock ∧ sent.size = 16 ∧ received.size = 16 :=
  rtAesDecrypt_rtAesEncrypt.2 (List.replicate 24 1) zeroBlock ⟨fun _ => 0, 16⟩ ⟨fun _ => 0, 16⟩
    (by decide) (by decide) (by decide)

end Mt7612u.Crypto
