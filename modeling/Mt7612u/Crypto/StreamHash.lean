import Mt7612u.Crypto.HashBlocks
import Mt7612u.Library.PaddedHash
import Mt7612u.Receive.Memory

/-! `RT_SHA1_Append`, `RT_SHA256_Append` and `RT_MD5_Append` with what stands around them: a message
is collected in `Block` and hashed whenever the block is full. -/

namespace Mt7612u.Crypto
open Library
open Library.CcmFormat (bigEndian getElem_bigEndian length_bigEndian)
open Receive (Memory)

/-- `SHA1_BLOCK_SIZE`, `SHA256_BLOCK_SIZE` and `MD5_BLOCK_SIZE`. -/
def blockSize : Nat := 64

/-- What the three implementations do not share. -/
structure StreamHash (Chain : Type) where
  defaultHashValue : Chain
  compress : Chain → List UInt8 → Chain
  /-- The bytes of `message_length_bits` in the order in which they are stored. -/
  lengthBytes : BitVec 64 → List UInt8
  digest : Chain → List UInt8
  length_lengthBytes : ∀ bits, (lengthBytes bits).length = 8

/-- `SHA1_CTX_STRUC`, `SHA256_CTX_STRUC` and `MD5_CTX_STRUC`. -/
structure HashContext (Chain : Type) where
  hashValue : Chain
  messageLen : BitVec 64
  block : Memory
  blockLen : BitVec 32

variable {Chain : Type}

namespace StreamHash

def init (hash : StreamHash Chain) : HashContext Chain where
  hashValue := hash.defaultHashValue
  messageLen := 0
  block := fun _ => 0
  blockLen := 0

def hashBlock (hash : StreamHash Chain) (ctx : HashContext Chain) : HashContext Chain :=
  { ctx with
    hashValue := hash.compress ctx.hashValue (ctx.block.bytes 0 blockSize)
    block := fun _ => 0
    blockLen := 0 }

end StreamHash

/-- `memmove(Block + BlockLen, Message + start, count)`, which leaves neither of the two. -/
def HashContext.move (ctx : HashContext Chain) (message : List UInt8) (start count : Nat) :
    Option (HashContext Chain) :=
  if start + count ≤ message.length ∧ ctx.blockLen.toNat + count ≤ blockSize then
    some { ctx with block := ctx.block.write ctx.blockLen.toNat ((message.drop start).take count) }
  else none

namespace StreamHash

/-- The loop of `Append`; every turn moves at least one byte. -/
def appendLoop (hash : StreamHash Chain) (message : List UInt8) (messageLen : BitVec 32) :
    Nat → BitVec 32 → HashContext Chain → Option (HashContext Chain)
  | 0, _, _ => none
  | fuel + 1, appendLen, ctx =>
    if appendLen = messageLen then some ctx
    else
      let diffLen := messageLen - appendLen
      if (ctx.blockLen + diffLen).toNat < blockSize then
        (ctx.move message appendLen.toNat diffLen.toNat).bind fun moved =>
          hash.appendLoop message messageLen fuel (appendLen + diffLen)
            { moved with blockLen := moved.blockLen + diffLen }
      else
        let free := BitVec.ofNat 32 blockSize - ctx.blockLen
        (ctx.move message appendLen.toNat free.toNat).bind fun moved =>
          hash.appendLoop message messageLen fuel (appendLen + free)
            (hash.hashBlock { moved with blockLen := BitVec.ofNat 32 blockSize })

/-- `MessageLen` is an unsigned int, the length in the context is of 64 bits. -/
def append (hash : StreamHash Chain) (ctx : HashContext Chain) (message : List UInt8) :
    Option (HashContext Chain) :=
  let messageLen := BitVec.ofNat 32 message.length
  (hash.appendLoop message messageLen (message.length + 1) 0 ctx).map fun ctx =>
    { ctx with messageLen := ctx.messageLen + messageLen.setWidth 64 }

/-- `End`; the mark is written behind the message, which must not fill the block. -/
def finish (hash : StreamHash Chain) (ctx : HashContext Chain) : Option (List UInt8) :=
  if ctx.blockLen.toNat < blockSize then
    let marked := { ctx with block := ctx.block.write ctx.blockLen.toNat [0x80] }
    let ready := if 55 < ctx.blockLen.toNat then hash.hashBlock marked else marked
    let last := { ready with block := ready.block.write 56 (hash.lengthBytes (ready.messageLen * 8)) }
    some (hash.digest (hash.hashBlock last).hashValue)
  else none

/-- The one-shot function. -/
def oneShot (hash : StreamHash Chain) (message : List UInt8) : Option (List UInt8) :=
  (hash.append hash.init message).bind hash.finish

/-- The padded-block fold of the standard. -/
def standard (hash : StreamHash Chain) (message : List UInt8) : List UInt8 :=
  hash.digest (PaddedHash.absorb blockSize hash.compress hash.defaultHashValue
    (PaddedHash.pad blockSize (hash.lengthBytes (BitVec.ofNat 64 (8 * message.length))) message))

end StreamHash

def sha1 : StreamHash Sha1Words where
  defaultHashValue := sha1DefaultHashValue
  compress := sha1Compress
  lengthBytes := fun bits => bigEndian 8 bits.toNat
  digest := sha1Digest
  length_lengthBytes := fun bits => length_bigEndian 8 bits.toNat

def rtSha1Init : HashContext Sha1Words := sha1.init
def rtSha1Hash : HashContext Sha1Words → HashContext Sha1Words := sha1.hashBlock
def rtSha1Append : HashContext Sha1Words → List UInt8 → Option (HashContext Sha1Words) := sha1.append
def rtSha1End : HashContext Sha1Words → Option (List UInt8) := sha1.finish
def rtSha1 : List UInt8 → Option (List UInt8) := sha1.oneShot

def sha256 : StreamHash Sha256Words where
  defaultHashValue := sha256DefaultHashValue
  compress := sha256Compress
  lengthBytes := fun bits => bigEndian 8 bits.toNat
  digest := sha256Digest
  length_lengthBytes := fun bits => length_bigEndian 8 bits.toNat

def rtSha256Init : HashContext Sha256Words := sha256.init
def rtSha256Hash : HashContext Sha256Words → HashContext Sha256Words := sha256.hashBlock
def rtSha256Append : HashContext Sha256Words → List UInt8 → Option (HashContext Sha256Words) :=
  sha256.append
def rtSha256End : HashContext Sha256Words → Option (List UInt8) := sha256.finish
def rtSha256 : List UInt8 → Option (List UInt8) := sha256.oneShot

theorem length_reverse_bigEndian (bits : BitVec 64) :
    (bigEndian 8 bits.toNat).reverse.length = 8 := by
  rw [List.length_reverse, length_bigEndian]

/-- The one of the three that stores its words with the least significant byte first. -/
def md5 : StreamHash Md5Words where
  defaultHashValue := md5DefaultHashValue
  compress := md5Compress
  lengthBytes := fun bits => (bigEndian 8 bits.toNat).reverse
  digest := md5Digest
  length_lengthBytes := length_reverse_bigEndian

def rtMd5Init : HashContext Md5Words := md5.init
def rtMd5Hash : HashContext Md5Words → HashContext Md5Words := md5.hashBlock
def rtMd5Append : HashContext Md5Words → List UInt8 → Option (HashContext Md5Words) := md5.append
def rtMd5End : HashContext Md5Words → Option (List UInt8) := md5.finish
def rtMd5 : List UInt8 → Option (List UInt8) := md5.oneShot

end Mt7612u.Crypto
