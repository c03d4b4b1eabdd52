import Mt7612u.Library.CcmFormat

/-! A hash turned into a keyed one by two pads, and the keys that an iterated keyed hash derives from
a password and a salt. -/

namespace Mt7612u.Library.KeyedHash
open CcmFormat (bigEndian)

section Keyed
variable (hash : List UInt8 → List UInt8) (size : Nat)

/-- A key as long as a block: a longer one is hashed first, zeros fill it up. -/
def blockKey (key : List UInt8) : List UInt8 :=
  let short := if key.length ≤ size then key else hash key
  short ++ List.replicate (size - short.length) 0

def masked (mask : UInt8) (bytes : List UInt8) : List UInt8 := bytes.map (· ^^^ mask)

def innerPad : UInt8 := 0x36
def outerPad : UInt8 := 0x5c

/-- The hash of the key under the outer pad and of the hash of the key under the inner pad and of
the text. -/
def hmac (key text : List UInt8) : List UInt8 :=
  let block := blockKey hash size key
  hash (masked outerPad block ++ hash (masked innerPad block ++ text))

variable {hash size}

@[simp] theorem length_masked (mask : UInt8) (bytes : List UInt8) :
    (masked mask bytes).length = bytes.length :=
  List.length_map ..

/-- A second mask that holds the difference takes the first one away. -/
theorem masked_masked (first second : UInt8) (bytes : List UInt8) :
    masked (first ^^^ second) (masked first bytes) = masked second bytes := by
  rw [masked, masked, List.map_map]
  apply List.map_congr_left
  intro byte _
  change byte ^^^ first ^^^ (first ^^^ second) = byte ^^^ second
  rw [UInt8.xor_assoc, ← UInt8.xor_assoc first, UInt8.xor_self, UInt8.zero_xor]

theorem length_blockKey (digests : ∀ message, (hash message).length ≤ size) (key : List UInt8) :
    (blockKey hash size key).length = size := by
  unfold blockKey
  dsimp only
  split_ifs with short
  · rw [List.length_append, List.length_replicate, Nat.add_sub_cancel' short]
  · rw [List.length_append, List.length_replicate, Nat.add_sub_cancel' (digests key)]

end Keyed

section Derived
variable (prf : List UInt8 → List UInt8)

def xorBytes (left right : List UInt8) : List UInt8 := List.zipWith (· ^^^ ·) left right

/-- The values that a block of the key is made of: each is computed from the one before. -/
def link (salt : List UInt8) : Nat → List UInt8
  | 0 => prf salt
  | n + 1 => prf (link salt n)

/-- The first `count + 1` of them under exclusive or. -/
def mixed (salt : List UInt8) : Nat → List UInt8
  | 0 => link prf salt 0
  | n + 1 => xorBytes (mixed salt n) (link prf salt (n + 1))

/-- The blocks of a derived key, numbered from one on by four bytes behind the salt. -/
def derivedKey (salt : List UInt8) (iterations blocks : Nat) : List UInt8 :=
  (List.range' 1 blocks).flatMap fun i => mixed prf (salt ++ bigEndian 4 i) (iterations - 1)

variable {prf} {width : Nat}

theorem derivedKey_two (salt : List UInt8) (iterations : Nat) :
    derivedKey prf salt iterations 2 =
      mixed prf (salt ++ bigEndian 4 1) (iterations - 1) ++
        mixed prf (salt ++ bigEndian 4 2) (iterations - 1) := by
  rw [derivedKey, List.range'_succ, List.range'_one, List.flatMap_cons, List.flatMap_singleton]

theorem length_link (whole : ∀ text, (prf text).length = width) (salt : List UInt8) (n : Nat) :
    (link prf salt n).length = width := by
  cases n with
  | zero => exact whole salt
  | succ n => exact whole _

theorem length_mixed (whole : ∀ text, (prf text).length = width) (salt : List UInt8) (n : Nat) :
    (mixed prf salt n).length = width := by
  induction n with
  | zero => exact length_link whole salt 0
  | succ n ih =>
    rw [mixed, xorBytes, List.length_zipWith, ih, length_link whole, Nat.min_self]

end Derived

end Mt7612u.Library.KeyedHash
