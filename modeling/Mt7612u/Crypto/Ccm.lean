import Mt7612u.Library.CcmFormat
import Mt7612u.Receive.Memory

/-! `AES_CCM_MAC`, `AES_CCM_Encrypt` and `AES_CCM_Decrypt` over an arbitrary block function in the
place of `RT_AES_Encrypt`. The blocks it is given are recorded; the code does not read them. -/

namespace Mt7612u.Crypto
open Library.CcmFormat
open Receive (Memory)

def aesBlockSizes : Nat := 16
def aesKey128Length : Nat := 16

/-- What encryption and decryption are given beside the text. -/
structure CcmParameters where
  keyLength : Nat
  nonce : Memory
  nonceLength : Nat
  aad : Memory
  aadLength : BitVec 32
  macLength : Nat

/-- `RT_AES_Encrypt` under the key. -/
abbrev Cipher := Block → Block

def zeroBlock : Block := fun _ => 0

/-- `Block_MAC`, and the blocks that went into it. -/
structure MacState where
  blockMac : Block
  input : List Block

/-- `Block` is added to `Block_MAC` and both are encrypted. -/
def MacState.chain (cipher : Cipher) (s : MacState) (block : Block) : MacState :=
  ⟨cipher fun i => block i ^^^ s.blockMac i, s.input ++ [block]⟩

/-- The control information and the nonce, with the length of the payload behind it. -/
def controlBlock (c : CcmParameters) (payloadLength : BitVec 32) : Block := fun i =>
  if i.val = 0 then
    (if 0 < c.aadLength.toNat then 0x40 else 0) ||| UInt8.ofNat ((c.macLength - 2) / 2 * 8) |||
      UInt8.ofNat (15 - c.nonceLength - 1)
  else if i.val = 15 then UInt8.ofNat payloadLength.toNat
  else if i.val = 14 then UInt8.ofNat (payloadLength.toNat / 2 ^ 8)
  else if i.val = 13 ∧ c.nonceLength < 13 then UInt8.ofNat (payloadLength.toNat / 2 ^ 16)
  else if i.val = 12 ∧ c.nonceLength < 12 then UInt8.ofNat (payloadLength.toNat / 2 ^ 24)
  else if i.val ≤ c.nonceLength then c.nonce (i.val - 1)
  else 0

/-- The length of the associated data at the start of a block, and where it ends there. -/
def aadHeader (aadLength : BitVec 32) : List UInt8 :=
  if 0 < aadLength.toNat ∧ aadLength.toNat < 0xFF00 then
    [UInt8.ofNat (aadLength.toNat / 2 ^ 8), UInt8.ofNat aadLength.toNat]
  else
    [0, 0, UInt8.ofNat (aadLength.toNat / 2 ^ 24), UInt8.ofNat (aadLength.toNat / 2 ^ 16),
      UInt8.ofNat (aadLength.toNat / 2 ^ 8), UInt8.ofNat aadLength.toNat]

/-- The loops over the associated data and over the payload: each turn copies as much as there is
room for behind what stands in `Block` already, which is nothing from the second turn on. -/
def absorb (cipher : Cipher) (data : Memory) (length : Nat) :
    Nat → Nat → List UInt8 → MacState → MacState
  | 0, _, _, s => s
  | turns + 1, index, header, s =>
      if index < length then
        let copyLength := min (length - index) (aesBlockSizes - header.length)
        absorb cipher data length turns (index + copyLength) []
          (s.chain cipher (ofList (header ++ data.bytes index copyLength)))
      else s

/-- `AES_CCM_MAC`, before the first `MACLength` bytes are taken. -/
def aesCcmMac (cipher : Cipher) (c : CcmParameters) (payload : Memory)
    (payloadLength : BitVec 32) : MacState :=
  let control := MacState.chain cipher ⟨zeroBlock, []⟩ (controlBlock c payloadLength)
  let associated := absorb cipher c.aad c.aadLength.toNat c.aadLength.toNat 0
    (aadHeader c.aadLength) control
  absorb cipher payload payloadLength.toNat payloadLength.toNat 0 [] associated

/-- `Block_CTR` as it is set up. -/
def blockCtr (c : CcmParameters) : Block := fun i =>
  if i.val = 0 then UInt8.ofNat (15 - c.nonceLength - 1)
  else if i.val ≤ c.nonceLength then c.nonce (i.val - 1)
  else 0

/-- `Block_CTR[15] += 1`. -/
def nextCtr (ctr : Block) : Block := Function.update ctr 15 (ctr 15 + 1)

/-- The text that was written, and the counter blocks that were encrypted for it. -/
structure CtrState where
  out : Memory
  counters : List Block

/-- The loop that encrypts and decrypts the payload. -/
def ctrLoop (cipher : Cipher) (text : Memory) (length : Nat) :
    Nat → Nat → Block → CtrState → CtrState
  | 0, _, _, s => s
  | turns + 1, index, ctr, s =>
      if index < length then
        let used := nextCtr ctr
        let copyLength := min (length - index) aesBlockSizes
        let written := s.out.write index
          ((List.range copyLength).map fun i => text (index + i) ^^^ byte (cipher used) i)
        ctrLoop cipher text length turns (index + copyLength) used ⟨written, s.counters ++ [used]⟩
      else s

/-- The checks both functions begin with, and what they return when one fails. -/
def checkParameters (c : CcmParameters) : Option Int :=
  if c.keyLength ≠ aesKey128Length then some (-1)
  else if c.nonceLength < 7 ∨ 13 < c.nonceLength then some (-2)
  else if c.macLength ∉ [4, 6, 8, 10, 12, 14, 16] then some (-3)
  else none

/-- `CipherText[PlainTextLength + Temp_Index]` is given the bytes of the MAC; the index has 32
bits. -/
def storeMac (blockMac : Block) (start : BitVec 32) : Nat → Memory → Memory
  | 0, mem => mem
  | count + 1, mem =>
      (storeMac blockMac start count mem).write (start + BitVec.ofNat 32 count).toNat
        [byte blockMac count]

structure CcmOutput where
  cipherText : Memory
  cipherTextLength : BitVec 32
  /-- The blocks that were chained for the MAC. -/
  macInput : List Block
  /-- The counter blocks that were encrypted. -/
  counters : List Block

/-- `AES_CCM_Encrypt`. -/
def aesCcmEncrypt (cipher : Cipher) (c : CcmParameters) (plainText : Memory)
    (plainTextLength : BitVec 32) (cipherText : Memory) (cipherTextLength : BitVec 32) :
    Except Int CcmOutput :=
  match checkParameters c with
  | some code => .error code
  | none =>
      if cipherTextLength < plainTextLength + BitVec.ofNat 32 c.macLength then .error (-4)
      else
        let mac := aesCcmMac cipher c plainText plainTextLength
        let blockMac := fun i => mac.blockMac i ^^^ cipher (blockCtr c) i
        let body := ctrLoop cipher plainText plainTextLength.toNat plainTextLength.toNat 0
          (blockCtr c) ⟨cipherText, [blockCtr c]⟩
        .ok
          { cipherText := storeMac blockMac plainTextLength c.macLength body.out
            cipherTextLength := plainTextLength + BitVec.ofNat 32 c.macLength
            macInput := mac.input
            counters := body.counters }

/-- `AES_CCM_Decrypt`: the plain text and its length. `Block_MAC_From_Cipher` is not set up before
bytes are put into it, so it begins as what is on the stack. -/
def aesCcmDecrypt (cipher : Cipher) (c : CcmParameters) (cipherText : Memory)
    (cipherTextLength : BitVec 32) (plainText : Memory) (plainTextLength : BitVec 32)
    (stack : Block) : Except Int (Memory × BitVec 32) :=
  match checkParameters c with
  | some code => .error code
  | none =>
      let length := cipherTextLength - BitVec.ofNat 32 c.macLength
      if plainTextLength < length then .error (-4)
      else
        let blockMacFromCipher : Block := fun i =>
          if length.toNat + i < cipherTextLength.toNat then
            cipherText (length.toNat + i) ^^^ cipher (blockCtr c) i
          else stack i
        let body := ctrLoop cipher cipherText length.toNat length.toNat 0 (blockCtr c)
          ⟨plainText, [blockCtr c]⟩
        let mac := aesCcmMac cipher c body.out length
        if ∀ i : Fin 16, i.val < c.macLength → blockMacFromCipher i = mac.blockMac i then
          .ok (body.out, length)
        else .error (-5)

end Mt7612u.Crypto
