import Mt7612u.Crypto.StreamHashRun
import Mt7612u.Library.KeyedHash

/-! `RT_HMAC_SHA1`, `RT_HMAC_SHA256` and `RT_HMAC_MD5`: one buffer holds the key under the inner and
then under the outer pad, and two contexts hash what stands behind it. -/

namespace Mt7612u.Crypto
open Library Library.KeyedHash
open Library.CcmFormat (length_bigEndian)
open Receive (Memory)

namespace HashAlgorithm

/-- `SHA1_DIGEST_SIZE`, `SHA256_DIGEST_SIZE` and `MD5_DIGEST_SIZE`. -/
def digestSize : HashAlgorithm → Nat
  | sha1 => 20
  | sha256 => 32
  | md5 => 16

end HashAlgorithm

/-- `K0[index] ^= mask`, for every index below `count`. -/
def maskLoop (mask : UInt8) (k0 : Memory) (count : Nat) : Memory :=
  (List.range count).foldl (fun k0 index => k0.write index [k0 index ^^^ mask]) k0

/-- `Init`, two times `Append`, and `End`. -/
def hashTwo {Chain : Type} (hash : StreamHash Chain) (first second : List UInt8) :
    Option (List UInt8) :=
  (hash.append hash.init first).bind fun ctx => (hash.append ctx second).bind hash.finish

/-- The bytes that are stored at `MAC`. A hash that reads beyond what it is given has no result. -/
def rtHmac (algorithm : HashAlgorithm) (key message : StreamHash.Piece) (macLen : Nat) :
    Option (List UInt8) :=
  let hash := algorithm.hash
  let zero : Memory := fun _ => 0
  let filled :=
    if key.val.length ≤ blockSize then some (zero.write 0 key.val)
    else (hash.oneShot key.val).map (zero.write 0)
  filled.bind fun k0 =>
    let inner := maskLoop 0x36 k0 blockSize
    (hashTwo hash (inner.bytes 0 blockSize) message.val).bind fun digest =>
      let outer := maskLoop (0x36 ^^^ 0x5c) inner blockSize
      (hashTwo hash (outer.bytes 0 blockSize) (digest.take algorithm.digestSize)).map fun digest =>
        if algorithm.digestSize < macLen then digest.take algorithm.digestSize
        else digest.take macLen

def rtHmacSha1 : StreamHash.Piece → StreamHash.Piece → Nat → Option (List UInt8) := rtHmac .sha1
def rtHmacSha256 : StreamHash.Piece → StreamHash.Piece → Nat → Option (List UInt8) := rtHmac .sha256
def rtHmacMd5 : StreamHash.Piece → StreamHash.Piece → Nat → Option (List UInt8) := rtHmac .md5

section Block

variable {mask : UInt8} {k0 : Memory}

/-- A loop that changes byte after byte from `place` on changes each of them once. -/
theorem changeLoop_apply (place : Nat) (change : Nat → UInt8 → UInt8) (mem : Memory)
    (count address : Nat) :
    (List.range count).foldl (fun mem i => mem.write (place + i) [change i (mem (place + i))]) mem
        address =
      if place ≤ address ∧ address < place + count then change (address - place) (mem address)
      else mem address := by
  induction count generalizing address with
  | zero => rw [if_neg (by omega)]; rfl
  | succ count ih =>
    rw [List.range_succ, List.foldl_append, List.foldl_cons, List.foldl_nil, ih (place + count),
      if_neg (by omega)]
    rcases lt_trichotomy address (place + count) with before | rfl | behind
    · rw [Memory.write_before _ _ before, ih]
      by_cases inside : place ≤ address
      · rw [if_pos ⟨inside, before⟩, if_pos ⟨inside, by omega⟩]
      · rw [if_neg (inside ·.1), if_neg (inside ·.1)]
    · rw [if_pos (by omega), Memory.write, if_pos le_rfl, Nat.sub_self, Nat.add_sub_cancel_left]
      rfl
    · rw [Memory.write_after _ (Nat.succ_le_of_lt behind), ih, if_neg (by omega),
        if_neg (by omega)]

theorem maskLoop_apply (mask : UInt8) (k0 : Memory) (count address : Nat) :
    maskLoop mask k0 count address = if address < count then k0 address ^^^ mask else k0 address := by
  have changed := changeLoop_apply 0 (fun _ byte => byte ^^^ mask) k0 count address
  simp only [Nat.zero_add, Nat.zero_le, true_and] at changed
  exact changed

theorem maskLoop_bytes (mask : UInt8) (k0 : Memory) (count : Nat) :
    (maskLoop mask k0 count).bytes 0 count = masked mask (k0.bytes 0 count) := by
  unfold Memory.bytes masked
  rw [List.map_map]
  apply List.map_congr_left
  intro i member
  rw [maskLoop_apply, Nat.zero_add, if_pos (List.mem_range.mp member)]
  simp only [Function.comp_apply, Nat.zero_add]

end Block

namespace HashAlgorithm

theorem length_words {bytes : BitVec 32 → List UInt8} (four : ∀ word, (bytes word).length = 4)
    (words : List (BitVec 32)) : (words.flatMap bytes).length = 4 * words.length := by
  induction words with
  | nil => rfl
  | cons word rest ih =>
    rw [List.flatMap_cons, List.length_append, four, ih, List.length_cons, Nat.mul_succ, Nat.add_comm]

/-- The digest that a standard gives for a message. -/
def standard (algorithm : HashAlgorithm) : List UInt8 → List UInt8 := algorithm.hash.standard

theorem length_standard (algorithm : HashAlgorithm) (message : List UInt8) :
    (algorithm.standard message).length = algorithm.digestSize := by
  cases algorithm with
  | sha1 => exact length_words (fun _ => length_bigEndian _ _) _
  | sha256 => exact length_words (fun _ => length_bigEndian _ _) _
  | md5 => exact length_words (fun _ => List.length_reverse.trans (length_bigEndian _ _)) _

theorem length_standard_le (algorithm : HashAlgorithm) (message : List UInt8) :
    (algorithm.standard message).length ≤ blockSize := by
  rw [length_standard]
  cases algorithm <;> decide

theorem take_standard (algorithm : HashAlgorithm) (message : List UInt8) :
    (algorithm.standard message).take algorithm.digestSize = algorithm.standard message :=
  List.take_of_length_le (algorithm.length_standard message).le

/-- The standard of a keyed hash over one of the three. -/
def standardHmac (algorithm : HashAlgorithm) : List UInt8 → List UInt8 → List UInt8 :=
  hmac algorithm.standard blockSize

theorem length_standardHmac (algorithm : HashAlgorithm) (key text : List UInt8) :
    (algorithm.standardHmac key text).length = algorithm.digestSize :=
  algorithm.length_standard _

end HashAlgorithm

/-- A whole block leaves nothing in the context, so that any text fits behind it. -/
theorem hashTwo_eq (algorithm : HashAlgorithm) {block text : List UInt8}
    (full : block.length = blockSize) (sized : text.length < 2 ^ 32) :
    hashTwo algorithm.hash block text = some (algorithm.standard (block ++ text)) := by
  have alone : ([] : List UInt8).length % blockSize + block.length < 2 ^ 32 := by
    rw [full]
    decide
  have behind : ([] ++ block).length % blockSize + text.length < 2 ^ 32 := by
    rw [List.nil_append, full, Nat.mod_self, Nat.zero_add]
    exact sized
  obtain ⟨ctx, first, streamed⟩ := (StreamHash.streamed_init algorithm.hash).append alone
  obtain ⟨last, second, whole⟩ := streamed.append behind
  rw [hashTwo, first, Option.bind_some, second, Option.bind_some]
  exact whole.finish

/-- The buffer holds the key as a block, whether it is stored or hashed into it. -/
theorem blockKey_bytes (algorithm : HashAlgorithm) (key : StreamHash.Piece) :
    ∃ k0 : Memory, (if key.val.length ≤ blockSize then some (Memory.write (fun _ => 0) 0 key.val)
        else (algorithm.hash.oneShot key.val).map (Memory.write (fun _ => 0) 0)) = some k0 ∧
      k0.bytes 0 blockSize = blockKey algorithm.standard blockSize key.val := by
  have zeros : ∀ address, (fun _ => 0 : Memory) address = ([] : List UInt8).getD address 0 :=
    fun _ => rfl
  have stored : ∀ bytes : List UInt8, bytes.length ≤ blockSize →
      (Memory.write (fun _ => 0) 0 bytes).bytes 0 blockSize =
        bytes ++ List.replicate (blockSize - bytes.length) 0 := by
    intro bytes short
    exact bytes_getD (write_getD zeros bytes) short
  unfold blockKey
  by_cases short : key.val.length ≤ blockSize
  · rw [if_pos short, if_pos short]
    exact ⟨_, rfl, stored key.val short⟩
  · rw [if_neg short, if_neg short, StreamHash.oneShot_eq _ key.property]
    exact ⟨_, rfl, stored _ (algorithm.length_standard_le key.val)⟩

/-- What one of the three functions computes, whichever its hash. -/
theorem rtHmac_eq (algorithm : HashAlgorithm) (key message : StreamHash.Piece) (macLen : Nat) :
    rtHmac algorithm key message macLen =
      some ((algorithm.standardHmac key.val message.val).take macLen) := by
  obtain ⟨k0, filled, holds⟩ := blockKey_bytes algorithm key
  have block := length_blockKey algorithm.length_standard_le key.val
  have inner := maskLoop_bytes 0x36 k0 blockSize
  have outer := maskLoop_bytes (0x36 ^^^ 0x5c) (maskLoop 0x36 k0 blockSize) blockSize
  rw [holds] at inner
  rw [inner, masked_masked] at outer
  unfold rtHmac
  dsimp only
  rw [filled, Option.bind_some, inner,
    hashTwo_eq algorithm ((length_masked _ _).trans block) message.property, Option.bind_some, outer,
    algorithm.take_standard,
    hashTwo_eq algorithm ((length_masked _ _).trans block)
      ((algorithm.length_standard_le _).trans_lt (by decide)),
    Option.map_some]
  congr 1
  split_ifs with long
  · rw [algorithm.take_standard]
    exact (List.take_of_length_le ((algorithm.length_standardHmac _ _).trans_le long.le)).symm
  · rfl

/-- Every key and every message that an unsigned int can count have the code that the standard gives
them, cut to the length asked for. -/
theorem rtHmacs_standard (key message : StreamHash.Piece) (macLen : Nat) :
    rtHmacSha1 key message macLen =
        some ((HashAlgorithm.sha1.standardHmac key.val message.val).take macLen) ∧
      rtHmacSha256 key message macLen =
        some ((HashAlgorithm.sha256.standardHmac key.val message.val).take macLen) ∧
      rtHmacMd5 key message macLen =
        some ((HashAlgorithm.md5.standardHmac key.val message.val).take macLen) :=
  ⟨rtHmac_eq .sha1 key message macLen, rtHmac_eq .sha256 key message macLen,
    rtHmac_eq .md5 key message macLen⟩

end Mt7612u.Crypto
