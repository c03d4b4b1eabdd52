import Mt7612u.Library.CcmFormat

/-! The computation for one block of 64 bytes: `RT_SHA1_Hash`, `RT_SHA256_Hash` and
`RT_MD5_Hash`. -/

namespace Mt7612u.Crypto
open Library.CcmFormat (bigEndian)

def rotl32 (x : BitVec 32) (n : Nat) : BitVec 32 := x <<< n ||| x >>> (32 - n)
def rotr32 (x : BitVec 32) (n : Nat) : BitVec 32 := x >>> n ||| x <<< (32 - n)

def ch (x y z : BitVec 32) : BitVec 32 := (x &&& y) ^^^ (~~~x &&& z)
def maj (x y z : BitVec 32) : BitVec 32 := (x &&& y) ^^^ (x &&& z) ^^^ (y &&& z)
def parity (x y z : BitVec 32) : BitVec 32 := x ^^^ y ^^^ z

/-- A word of a block whose bytes stand with the most significant one first. -/
def wordOf (bytes : List UInt8) : BitVec 32 :=
  bytes.foldl (fun word byte => word <<< 8 ||| byte.toBitVec.setWidth 32) 0

/-- `cpu2be32`. -/
def beWord (block : List UInt8) (i : Nat) : BitVec 32 := wordOf ((block.drop (4 * i)).take 4)

/-- `cpu2le32`. -/
def leWord (block : List UInt8) (i : Nat) : BitVec 32 :=
  wordOf ((block.drop (4 * i)).take 4).reverse

def beBytes (words : List (BitVec 32)) : List UInt8 := words.flatMap fun w => bigEndian 4 w.toNat
def leBytes (words : List (BitVec 32)) : List UInt8 :=
  words.flatMap fun w => (bigEndian 4 w.toNat).reverse

section Sha1

/-- `HashValue[5]`, and the working variables. -/
structure Sha1Words where
  a : BitVec 32
  b : BitVec 32
  c : BitVec 32
  d : BitVec 32
  e : BitVec 32

def sha1DefaultHashValue : Sha1Words :=
  ⟨0x67452301, 0xefcdab89, 0x98badcfe, 0x10325476, 0xc3d2e1f0⟩

/-- `W[80]`. -/
def sha1Schedule (block : List UInt8) : Array (BitVec 32) :=
  (List.range' 16 64).foldl
    (fun w i => w.push
      (rotl32 (w.getD (i - 3) 0 ^^^ w.getD (i - 8) 0 ^^^ w.getD (i - 14) 0 ^^^ w.getD (i - 16) 0) 1))
    ((List.range 16).map (beWord block)).toArray

def sha1Round (f : BitVec 32 → BitVec 32 → BitVec 32 → BitVec 32) (k : BitVec 32)
    (w : Array (BitVec 32)) (v : Sha1Words) (t : Nat) : Sha1Words where
  a := rotl32 v.a 5 + f v.b v.c v.d + v.e + k + w.getD t 0
  b := v.a
  c := rotl32 v.b 30
  d := v.c
  e := v.d

def sha1Compress (hashValue : Sha1Words) (block : List UInt8) : Sha1Words :=
  let w := sha1Schedule block
  let v := (List.range' 0 20).foldl (sha1Round ch 0x5a827999 w) hashValue
  let v := (List.range' 20 20).foldl (sha1Round parity 0x6ed9eba1 w) v
  let v := (List.range' 40 20).foldl (sha1Round maj 0x8f1bbcdc w) v
  let v := (List.range' 60 20).foldl (sha1Round parity 0xca62c1d6 w) v
  ⟨hashValue.a + v.a, hashValue.b + v.b, hashValue.c + v.c, hashValue.d + v.d, hashValue.e + v.e⟩

def sha1Digest (hashValue : Sha1Words) : List UInt8 :=
  beBytes [hashValue.a, hashValue.b, hashValue.c, hashValue.d, hashValue.e]

end Sha1

section Sha256

/-- `HashValue[8]`, and the working variables. -/
structure Sha256Words where
  a : BitVec 32
  b : BitVec 32
  c : BitVec 32
  d : BitVec 32
  e : BitVec 32
  f : BitVec 32
  g : BitVec 32
  h : BitVec 32

def sha256DefaultHashValue : Sha256Words where
  a := 0x6a09e667
  b := 0xbb67ae85
  c := 0x3c6ef372
  d := 0xa54ff53a
  e := 0x510e527f
  f := 0x9b05688c
  g := 0x1f83d9ab
  h := 0x5be0cd19

def sha256K : List (BitVec 32) :=
  [0x428a2f98, 0x71374491, 0xb5c0fbcf, 0xe9b5dba5, 0x3956c25b, 0x59f111f1, 0x923f82a4, 0xab1c5ed5,
   0xd807aa98, 0x12835b01, 0x243185be, 0x550c7dc3, 0x72be5d74, 0x80deb1fe, 0x9bdc06a7, 0xc19bf174,
   0xe49b69c1, 0xefbe4786, 0x0fc19dc6, 0x240ca1cc, 0x2de92c6f, 0x4a7484aa, 0x5cb0a9dc, 0x76f988da,
   0x983e5152, 0xa831c66d, 0xb00327c8, 0xbf597fc7, 0xc6e00bf3, 0xd5a79147, 0x06ca6351, 0x14292967,
   0x27b70a85, 0x2e1b2138, 0x4d2c6dfc, 0x53380d13, 0x650a7354, 0x766a0abb, 0x81c2c92e, 0x92722c85,
   0xa2bfe8a1, 0xa81a664b, 0xc24b8b70, 0xc76c51a3, 0xd192e819, 0xd6990624, 0xf40e3585, 0x106aa070,
   0x19a4c116, 0x1e376c08, 0x2748774c, 0x34b0bcb5, 0x391c0cb3, 0x4ed8aa4a, 0x5b9cca4f, 0x682e6ff3,
   0x748f82ee, 0x78a5636f, 0x84c87814, 0x8cc70208, 0x90befffa, 0xa4506ceb, 0xbef9a3f7, 0xc67178f2]

def zsigma2560 (x : BitVec 32) : BitVec 32 := rotr32 x 2 ^^^ rotr32 x 13 ^^^ rotr32 x 22
def zsigma2561 (x : BitVec 32) : BitVec 32 := rotr32 x 6 ^^^ rotr32 x 11 ^^^ rotr32 x 25
def sigma2560 (x : BitVec 32) : BitVec 32 := rotr32 x 7 ^^^ rotr32 x 18 ^^^ x >>> 3
def sigma2561 (x : BitVec 32) : BitVec 32 := rotr32 x 17 ^^^ rotr32 x 19 ^^^ x >>> 10

/-- A round; from the sixteenth on it adds its word to the schedule first. -/
def sha256Round (state : Array (BitVec 32) × Sha256Words) (t : Nat) :
    Array (BitVec 32) × Sha256Words :=
  let w := if 15 < t then
      state.1.push (sigma2561 (state.1.getD (t - 2) 0) + state.1.getD (t - 7) 0 +
        sigma2560 (state.1.getD (t - 15) 0) + state.1.getD (t - 16) 0)
    else state.1
  let v := state.2
  let t1 := v.h + zsigma2561 v.e + ch v.e v.f v.g + sha256K.getD t 0 + w.getD t 0
  let t2 := zsigma2560 v.a + maj v.a v.b v.c
  (w, ⟨t1 + t2, v.a, v.b, v.c, v.d + t1, v.e, v.f, v.g⟩)

def sha256Compress (hashValue : Sha256Words) (block : List UInt8) : Sha256Words :=
  let v := ((List.range 64).foldl sha256Round
    (((List.range 16).map (beWord block)).toArray, hashValue)).2
  ⟨hashValue.a + v.a, hashValue.b + v.b, hashValue.c + v.c, hashValue.d + v.d, hashValue.e + v.e,
    hashValue.f + v.f, hashValue.g + v.g, hashValue.h + v.h⟩

def sha256Digest (hashValue : Sha256Words) : List UInt8 :=
  beBytes [hashValue.a, hashValue.b, hashValue.c, hashValue.d, hashValue.e, hashValue.f,
    hashValue.g, hashValue.h]

end Sha256

section Md5

/-- `HashValue[4]`, and the working variables. -/
structure Md5Words where
  a : BitVec 32
  b : BitVec 32
  c : BitVec 32
  d : BitVec 32

def md5DefaultHashValue : Md5Words := ⟨0x67452301, 0xefcdab89, 0x98badcfe, 0x10325476⟩

def md5F (x y z : BitVec 32) : BitVec 32 := (x &&& y) ||| (~~~x &&& z)
def md5G (x y z : BitVec 32) : BitVec 32 := (x &&& z) ||| (y &&& ~~~z)
def md5H (x y z : BitVec 32) : BitVec 32 := x ^^^ y ^^^ z
def md5I (x y z : BitVec 32) : BitVec 32 := y ^^^ (x ||| ~~~z)

/-- The index into `X`, the shift and the constant of every step. -/
def md5Round1 : List (Nat × Nat × BitVec 32) :=
  [(0, 7, 0xd76aa478), (1, 12, 0xe8c7b756), (2, 17, 0x242070db), (3, 22, 0xc1bdceee),
   (4, 7, 0xf57c0faf), (5, 12, 0x4787c62a), (6, 17, 0xa8304613), (7, 22, 0xfd469501),
   (8, 7, 0x698098d8), (9, 12, 0x8b44f7af), (10, 17, 0xffff5bb1), (11, 22, 0x895cd7be),
   (12, 7, 0x6b901122), (13, 12, 0xfd987193), (14, 17, 0xa679438e), (15, 22, 0x49b40821)]

def md5Round2 : List (Nat × Nat × BitVec 32) :=
  [(1, 5, 0xf61e2562), (6, 9, 0xc040b340), (11, 14, 0x265e5a51), (0, 20, 0xe9b6c7aa),
   (5, 5, 0xd62f105d), (10, 9, 0x2441453), (15, 14, 0xd8a1e681), (4, 20, 0xe7d3fbc8),
   (9, 5, 0x21e1cde6), (14, 9, 0xc33707d6), (3, 14, 0xf4d50d87), (8, 20, 0x455a14ed),
   (13, 5, 0xa9e3e905), (2, 9, 0xfcefa3f8), (7, 14, 0x676f02d9), (12, 20, 0x8d2a4c8a)]

def md5Round3 : List (Nat × Nat × BitVec 32) :=
  [(5, 4, 0xfffa3942), (8, 11, 0x8771f681), (11, 16, 0x6d9d6122), (14, 23, 0xfde5380c),
   (1, 4, 0xa4beea44), (4, 11, 0x4bdecfa9), (7, 16, 0xf6bb4b60), (10, 23, 0xbebfbc70),
   (13, 4, 0x289b7ec6), (0, 11, 0xeaa127fa), (3, 16, 0xd4ef3085), (6, 23, 0x4881d05),
   (9, 4, 0xd9d4d039), (12, 11, 0xe6db99e5), (15, 16, 0x1fa27cf8), (2, 23, 0xc4ac5665)]

def md5Round4 : List (Nat × Nat × BitVec 32) :=
  [(0, 6, 0xf4292244), (7, 10, 0x432aff97), (14, 15, 0xab9423a7), (5, 21, 0xfc93a039),
   (12, 6, 0x655b59c3), (3, 10, 0x8f0ccc92), (10, 15, 0xffeff47d), (1, 21, 0x85845dd1),
   (8, 6, 0x6fa87e4f), (15, 10, 0xfe2ce6e0), (6, 15, 0xa3014314), (13, 21, 0x4e0811a1),
   (4, 6, 0xf7537e82), (11, 10, 0xbd3af235), (2, 15, 0x2ad7d2bb), (9, 21, 0xeb86d391)]

/-- `ROUND1` to `ROUND4`. The next step is written with its four variables turned by one place, so
they are turned here instead. -/
def md5Step (f : BitVec 32 → BitVec 32 → BitVec 32 → BitVec 32) (block : List UInt8) (v : Md5Words)
    (step : Nat × Nat × BitVec 32) : Md5Words where
  a := v.d
  b := rotl32 (v.a + (f v.b v.c v.d + leWord block step.1 + step.2.2)) step.2.1 + v.b
  c := v.b
  d := v.c

def md5Compress (hashValue : Md5Words) (block : List UInt8) : Md5Words :=
  let v := md5Round1.foldl (md5Step md5F block) hashValue
  let v := md5Round2.foldl (md5Step md5G block) v
  let v := md5Round3.foldl (md5Step md5H block) v
  let v := md5Round4.foldl (md5Step md5I block) v
  ⟨hashValue.a + v.a, hashValue.b + v.b, hashValue.c + v.c, hashValue.d + v.d⟩

def md5Digest (hashValue : Md5Words) : List UInt8 :=
  leBytes [hashValue.a, hashValue.b, hashValue.c, hashValue.d]

end Md5

end Mt7612u.Crypto
