import Mt7612u.Library.CmacFormat
import Mt7612u.Crypto.Aes

/-! `AES_CMAC` and `AES_CMAC_GenerateSubKey`, against the CMAC of the message. -/

namespace Mt7612u.Crypto
open Library.CcmFormat (Block ofList byte)
open Library.CmacFormat (add carried doubled subKey1 subKey2 frontCount lastBlock chained cmac)
open Receive (Memory)

def aesMacLength : Nat := 16

/-- `Const_Rb`. -/
def constRb : Block := fun i => if i.val = 15 then 0x87 else 0

/-- `RT_AES_Encrypt` into a block of the caller's stack, which keeps what it held if there is no
memory. -/
def encryptInto (kmalloc : Bool) (key : List UInt8) (plainBlock old : Block) : Block :=
  blockAt (rtAesEncrypt kmalloc plainBlock 16 key ⟨byte old, 16⟩).block 0

/-- `Top_Bit`. -/
def topBit (b : UInt8) : UInt8 := if b &&& 0x80 ≠ 0 then 1 else 0

/-- The loop that moves a block up by one bit, and the exclusive or with `Const_Rb`. Each byte is
read before the turn that changes it, so that the loop in place is the one into `SubKey2`. -/
def shiftedKey (block : Block) : Block := fun i =>
  let shifted := if i.val < 15 then (block i <<< 1) ||| topBit (byte block (i.val + 1))
    else block i <<< 1
  if byte block 0 &&& 0x80 > 0 then shifted ^^^ constRb i else shifted

/-- `AES_CMAC_GenerateSubKey`. -/
def aesCmacGenerateSubKey (kmalloc : Bool) (key : List UInt8) (oldKeys : Block × Block) :
    Block × Block :=
  if key.length ≠ aesKey128Length then oldKeys
  else
    let l := encryptInto kmalloc key zeroBlock oldKeys.1
    let subKey1 := shiftedKey l
    (subKey1, shiftedKey subKey1)

/-- Where the loop over the blocks stands: `PlainBlockStart` and `X`. -/
structure CmacState where
  plainBlockStart : Nat
  x : Block

/-- The loop of `AES_CMAC`. `PlainBlockStart` never passes the length, so that the difference does
not wrap; the turn at byte `16 * n` asks for memory as call `n + 1`. -/
def cmacLoop (kmalloc : Nat → Bool) (key : List UInt8) (plainText : Memory)
    (plainTextLength : Nat) (s : CmacState) : CmacState :=
  if plainTextLength - s.plainBlockStart > aesBlockSizes then
    let y : Block := fun index => plainText (s.plainBlockStart + index.val) ^^^ s.x index
    cmacLoop kmalloc key plainText plainTextLength
      ⟨s.plainBlockStart + aesBlockSizes,
        encryptInto (kmalloc (s.plainBlockStart / aesBlockSizes + 1)) key y s.x⟩
  else s
termination_by plainTextLength - s.plainBlockStart
decreasing_by simp only [aesBlockSizes] at *; omega

/-- `Y` of the last turn. -/
def cmacLast (plainText : Memory) (plainTextLength : Nat) (s : CmacState)
    (subKeys : Block × Block) : Block := fun index =>
  let rest := plainTextLength - s.plainBlockStart
  if rest = aesBlockSizes then
    plainText (s.plainBlockStart + index.val) ^^^ s.x index ^^^ subKeys.1 index
  else
    let y := if index.val = rest then 0x80
      else if index.val < rest then plainText (s.plainBlockStart + index.val) else 0
    y ^^^ s.x index ^^^ subKeys.2 index

/-- `AES_CMAC`. -/
def aesCmac (kmalloc : Nat → Bool) (plainText : Memory) (plainTextLength : BitVec 32)
    (key : List UInt8) (mac : BlockOut) : BlockOut :=
  if mac.size.toNat < aesMacLength then mac
  else if key.length ≠ aesKey128Length then mac
  else
    let length := plainTextLength.toNat
    let subKeys := aesCmacGenerateSubKey (kmalloc 0) key (zeroBlock, zeroBlock)
    let s := cmacLoop kmalloc key plainText length ⟨0, zeroBlock⟩
    rtAesEncrypt (kmalloc (s.plainBlockStart / aesBlockSizes + 1))
      (cmacLast plainText length s subKeys) 16 key mac

/-- How often `AES_CMAC` asks for memory over a text. -/
def cmacCalls (plainTextLength : BitVec 32) : Nat := (plainTextLength.toNat - 1) / 16 + 2

theorem topBit_eq (b : UInt8) : topBit b = if 128 ≤ b then 1 else 0 := by
  have every : ∀ n < 256, topBit (UInt8.ofNat n) = if 128 ≤ UInt8.ofNat n then 1 else 0 := by
    decide +kernel
  have at_byte := every b.toNat b.toNat_lt
  rwa [UInt8.ofNat_toNat] at at_byte

theorem top_set (b : UInt8) : b &&& 0x80 > 0 ↔ 128 ≤ b := by
  have every : ∀ n < 256, UInt8.ofNat n &&& 0x80 > 0 ↔ 128 ≤ UInt8.ofNat n := by decide +kernel
  have at_byte := every b.toNat b.toNat_lt
  rwa [UInt8.ofNat_toNat] at at_byte

theorem shiftedKey_eq (block : Block) : shiftedKey block = doubled block := by
  funext i
  rw [Library.CmacFormat.doubled_apply, shiftedKey]
  have moved : (if i.val < 15 then (block i <<< 1) ||| topBit (byte block (i.val + 1))
      else block i <<< 1) = carried (block i) (byte block (i.val + 1)) := by
    rw [carried, topBit_eq]
    split
    · rfl
    · rw [byte, dif_neg (by omega)]
      simp
  have front : byte block 0 = block 0 := rfl
  rw [moved, front]
  by_cases top : 128 ≤ block 0
  · rw [if_pos ((top_set _).mpr top), constRb]
    simp only [top, true_and]
  · rw [if_neg (mt (top_set _).mp top)]
    simp [top]

theorem encryptInto_eq {key : List UInt8} (valid : validKeyLength key.length = true)
    (plainBlock old : Block) :
    encryptInto true key plainBlock old = rtAes.encrypt key plainBlock := by
  rw [encryptInto, rtAesEncrypt_eq plainBlock rfl valid le_rfl]
  exact blockAt_write _ 0 _

section Cmac

variable {kmalloc : Nat → Bool} {key : List UInt8} {plainText : Memory}
  {plainTextLength : BitVec 32}

theorem aesCmacGenerateSubKey_eq (length : key.length = 16) (old : Block × Block) :
    aesCmacGenerateSubKey true key old = (subKey1 (rtAes.encrypt key), subKey2 (rtAes.encrypt key))
    := by
  have valid : validKeyLength key.length = true := by rw [length]; rfl
  rw [aesCmacGenerateSubKey, if_neg (by exact not_not.mpr length), encryptInto_eq valid]
  simp only [shiftedKey_eq]
  rfl

theorem getElem_drop_bytes {start count : Nat} (index : Nat)
    (inside : index < ((plainText.bytes 0 count).drop start).length) :
    ((plainText.bytes 0 count).drop start)[index] = plainText (start + index) := by
  rw [List.getElem_drop]
  simp only [Memory.bytes, List.getElem_map, List.getElem_range, Nat.zero_add]

theorem length_drop_bytes (start count : Nat) :
    ((plainText.bytes 0 count).drop start).length = count - start := by
  rw [List.length_drop, Memory.length_bytes]

theorem chained_succ (cipher : Block → Block) (message : List UInt8) (j : Nat) :
    chained cipher message (j + 1) =
      cipher (add (Library.CmacFormat.block message j) (chained cipher message j)) := by
  rw [chained, List.range_succ, List.foldl_append]
  rfl

/-- A turn of the loop takes the chained encryption on by a block. -/
theorem cmacLoop_turn (valid : validKeyLength key.length = true) {count j : Nat}
    (more : 16 * j + 16 < count) (memory : kmalloc (j + 1) = true) :
    cmacLoop kmalloc key plainText count
        ⟨16 * j, chained (rtAes.encrypt key) (plainText.bytes 0 count) j⟩ =
      cmacLoop kmalloc key plainText count
        ⟨16 * (j + 1), chained (rtAes.encrypt key) (plainText.bytes 0 count) (j + 1)⟩ := by
  have turn : count - 16 * j > aesBlockSizes := by
    show count - 16 * j > 16
    omega
  have call : 16 * j / aesBlockSizes = j := Nat.mul_div_cancel_left j (by decide)
  rw [cmacLoop, if_pos turn]
  dsimp only
  rw [call, memory, encryptInto_eq valid, chained_succ]
  congr 3
  funext index
  have inside : index.val < ((plainText.bytes 0 count).drop (16 * j)).length := by
    rw [length_drop_bytes]
    omega
  rw [add, Library.CmacFormat.block, ofList, List.getD_eq_getElem _ _ inside, getElem_drop_bytes]

/-- The whole loop, from any of its turns on. -/
theorem cmacLoop_eq (valid : validKeyLength key.length = true) {count : Nat}
    (memory : ∀ call ≤ (count - 1) / 16, kmalloc call = true) (j : Nat)
    (reached : j ≤ (count - 1) / 16) :
    cmacLoop kmalloc key plainText count
        ⟨16 * j, chained (rtAes.encrypt key) (plainText.bytes 0 count) j⟩ =
      ⟨16 * ((count - 1) / 16),
        chained (rtAes.encrypt key) (plainText.bytes 0 count) ((count - 1) / 16)⟩ := by
  induction remaining : (count - 1) / 16 - j generalizing j with
  | zero =>
    have last : j = (count - 1) / 16 := by omega
    have stop : ¬ count - 16 * j > aesBlockSizes := by
      show ¬ count - 16 * j > 16
      omega
    rw [cmacLoop, if_neg stop, last]
  | succ remaining ih =>
    rw [cmacLoop_turn valid (by omega) (memory (j + 1) (by omega))]
    exact ih (j + 1) (by omega) (by omega)

/-- The last turn covers what the loop has left, with the sub-key for it. -/
theorem cmacLast_eq (count : Nat) (x : Block) (cipher : Block → Block) :
    cmacLast plainText count ⟨16 * ((count - 1) / 16), x⟩ (subKey1 cipher, subKey2 cipher) =
      add (lastBlock cipher (plainText.bytes 0 count)) x := by
  have front : frontCount (plainText.bytes 0 count) = (count - 1) / 16 := by
    rw [frontCount, Memory.length_bytes]
  funext index
  simp only [cmacLast, add, lastBlock, front, length_drop_bytes, aesBlockSizes]
  by_cases complete : count - 16 * ((count - 1) / 16) = 16
  · have inside : index.val < ((plainText.bytes 0 count).drop (16 * ((count - 1) / 16))).length :=
      by rw [length_drop_bytes]; omega
    rw [if_pos complete, if_pos complete, add, ofList, List.getD_eq_getElem _ _ inside,
      getElem_drop_bytes, UInt8.xor_assoc, UInt8.xor_assoc, UInt8.xor_comm (x index)]
  · rw [if_neg complete, if_neg complete, add, ofList, UInt8.xor_assoc, UInt8.xor_assoc,
      UInt8.xor_comm (x index)]
    congr 1
    rw [List.getD_eq_getElem?_getD, List.getElem?_append, length_drop_bytes]
    by_cases front : index.val < count - 16 * ((count - 1) / 16)
    · have inside :
          index.val < ((plainText.bytes 0 count).drop (16 * ((count - 1) / 16))).length := by
        rw [length_drop_bytes]; exact front
      rw [if_neg (by omega), if_pos front, if_pos front, List.getElem?_eq_getElem inside,
        getElem_drop_bytes]
      rfl
    · rw [if_neg front, if_neg front]
      by_cases mark : index.val = count - 16 * ((count - 1) / 16)
      · rw [if_pos mark, mark, Nat.sub_self]
        rfl
      · rw [if_neg mark, List.getElem?_eq_none (by simp; omega)]
        rfl

end Cmac

/-- Under every key of 128 bits `AES_CMAC` puts out the CMAC of the text, whatever its length. -/
theorem aesCmac_eq_cmac (kmalloc : Nat → Bool) (plainText : Memory) (plainTextLength : BitVec 32)
    (key : List UInt8) (mac : BlockOut) (keyLength : key.length = 16)
    (room : 16 ≤ mac.size.toNat)
    (memory : ∀ call < cmacCalls plainTextLength, kmalloc call = true) :
    let out := aesCmac kmalloc plainText plainTextLength key mac
    blockAt out.block 0 =
        cmac (rtAes.encrypt key) (plainText.bytes 0 plainTextLength.toNat) ∧
      out.size = 16 ∧ ∀ address, 16 ≤ address → out.block address = mac.block address := by
  have valid : validKeyLength key.length = true := by rw [keyLength]; rfl
  have start : (⟨0, zeroBlock⟩ : CmacState) = ⟨16 * 0, chained (rtAes.encrypt key)
      (plainText.bytes 0 plainTextLength.toNat) 0⟩ := rfl
  have first : kmalloc 0 = true := memory 0 (by unfold cmacCalls; omega)
  have last : kmalloc ((plainTextLength.toNat - 1) / 16 + 1) = true :=
    memory _ (by unfold cmacCalls; omega)
  have call : 16 * ((plainTextLength.toNat - 1) / 16) / aesBlockSizes =
      (plainTextLength.toNat - 1) / 16 := Nat.mul_div_cancel_left _ (by decide)
  dsimp only
  rw [aesCmac, if_neg (by exact not_lt_of_ge room), if_neg (by exact not_not.mpr keyLength)]
  dsimp only
  rw [start, cmacLoop_eq valid (fun call below => memory call (by unfold cmacCalls; omega)) 0
    (Nat.zero_le _), first, aesCmacGenerateSubKey_eq keyLength]
  dsimp only
  rw [call, last, cmacLast_eq, rtAesEncrypt_eq _ rfl valid room]
  refine ⟨?_, rfl, fun address behind => ?_⟩
  · rw [blockAt_write, cmac, frontCount, Memory.length_bytes]
  · dsimp only
    rw [Memory.write_after mac.block]
    rw [List.length_ofFn]
    omega

theorem aesCmac_eq_cmac_empty :
    let out := aesCmac (fun _ => true) (fun _ => 0) 0 (List.replicate 16 7) ⟨fun _ => 0, 16⟩
    blockAt out.block 0 = cmac (rtAes.encrypt (List.replicate 16 7))
        (Memory.bytes (fun _ => 0) 0 (0 : BitVec 32).toNat) ∧
      out.size = 16 ∧ ∀ address, 16 ≤ address → out.block address = 0 :=
  aesCmac_eq_cmac (fun _ => true) (fun _ => 0) 0 (List.replicate 16 7) ⟨fun _ => 0, 16⟩
    (by decide) (by decide) (fun _ _ => rfl)

end Mt7612u.Crypto
