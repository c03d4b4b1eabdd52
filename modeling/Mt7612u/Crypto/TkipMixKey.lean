import Mt7612u.Crypto.AesTables
import Mt7612u.Receive.Memory

/-! `RTMPTkipMixKey` of `cmm_tkip.c`, whose words have 32 bits, and the two phases of the key mixing
in 16 bits. -/

namespace Mt7612u.Crypto
open Receive (Memory)

def tkipSboxLower : List (BitVec 32) := [
  0xa5, 0x84, 0x99, 0x8d, 0x0d, 0xbd, 0xb1, 0x54, 0x50, 0x03, 0xa9, 0x7d, 0x19, 0x62, 0xe6, 0x9a,
  0x45, 0x9d, 0x40, 0x87, 0x15, 0xeb, 0xc9, 0x0b, 0xec, 0x67, 0xfd, 0xea, 0xbf, 0xf7, 0x96, 0x5b,
  0xc2, 0x1c, 0xae, 0x6a, 0x5a, 0x41, 0x02, 0x4f, 0x5c, 0xf4, 0x34, 0x08, 0x93, 0x73, 0x53, 0x3f,
  0x0c, 0x52, 0x65, 0x5e, 0x28, 0xa1, 0x0f, 0xb5, 0x09, 0x36, 0x9b, 0x3d, 0x26, 0x69, 0xcd, 0x9f,
  0x1b, 0x9e, 0x74, 0x2e, 0x2d, 0xb2, 0xee, 0xfb, 0xf6, 0x4d, 0x61, 0xce, 0x7b, 0x3e, 0x71, 0x97,
  0xf5, 0x68, 0x00, 0x2c, 0x60, 0x1f, 0xc8, 0xed, 0xbe, 0x46, 0xd9, 0x4b, 0xde, 0xd4, 0xe8, 0x4a,
  0x6b, 0x2a, 0xe5, 0x16, 0xc5, 0xd7, 0x55, 0x94, 0xcf, 0x10, 0x06, 0x81, 0xf0, 0x44, 0xba, 0xe3,
  0xf3, 0xfe, 0xc0, 0x8a, 0xad, 0xbc, 0x48, 0x04, 0xdf, 0xc1, 0x75, 0x63, 0x30, 0x1a, 0x0e, 0x6d,
  0x4c, 0x14, 0x35, 0x2f, 0xe1, 0xa2, 0xcc, 0x39, 0x57, 0xf2, 0x82, 0x47, 0xac, 0xe7, 0x2b, 0x95,
  0xa0, 0x98, 0xd1, 0x7f, 0x66, 0x7e, 0xab, 0x83, 0xca, 0x29, 0xd3, 0x3c, 0x79, 0xe2, 0x1d, 0x76,
  0x3b, 0x56, 0x4e, 0x1e, 0xdb, 0x0a, 0x6c, 0xe4, 0x5d, 0x6e, 0xef, 0xa6, 0xa8, 0xa4, 0x37, 0x8b,
  0x32, 0x43, 0x59, 0xb7, 0x8c, 0x64, 0xd2, 0xe0, 0xb4, 0xfa, 0x07, 0x25, 0xaf, 0x8e, 0xe9, 0x18,
  0xd5, 0x88, 0x6f, 0x72, 0x24, 0xf1, 0xc7, 0x51, 0x23, 0x7c, 0x9c, 0x21, 0xdd, 0xdc, 0x86, 0x85,
  0x90, 0x42, 0xc4, 0xaa, 0xd8, 0x05, 0x01, 0x12, 0xa3, 0x5f, 0xf9, 0xd0, 0x91, 0x58, 0x27, 0xb9,
  0x38, 0x13, 0xb3, 0x33, 0xbb, 0x70, 0x89, 0xa7, 0xb6, 0x22, 0x92, 0x20, 0x49, 0xff, 0x78, 0x7a,
  0x8f, 0xf8, 0x80, 0x17, 0xda, 0x31, 0xc6, 0xb8, 0xc3, 0xb0, 0x77, 0x11, 0xcb, 0xfc, 0xd6, 0x3a]

def tkipSboxUpper : List (BitVec 32) := [
  0xc6, 0xf8, 0xee, 0xf6, 0xff, 0xd6, 0xde, 0x91, 0x60, 0x02, 0xce, 0x56, 0xe7, 0xb5, 0x4d, 0xec,
  0x8f, 0x1f, 0x89, 0xfa, 0xef, 0xb2, 0x8e, 0xfb, 0x41, 0xb3, 0x5f, 0x45, 0x23, 0x53, 0xe4, 0x9b,
  0x75, 0xe1, 0x3d, 0x4c, 0x6c, 0x7e, 0xf5, 0x83, 0x68, 0x51, 0xd1, 0xf9, 0xe2, 0xab, 0x62, 0x2a,
  0x08, 0x95, 0x46, 0x9d, 0x30, 0x37, 0x0a, 0x2f, 0x0e, 0x24, 0x1b, 0xdf, 0xcd, 0x4e, 0x7f, 0xea,
  0x12, 0x1d, 0x58, 0x34, 0x36, 0xdc, 0xb4, 0x5b, 0xa4, 0x76, 0xb7, 0x7d, 0x52, 0xdd, 0x5e, 0x13,
  0xa6, 0xb9, 0x00, 0xc1, 0x40, 0xe3, 0x79, 0xb6, 0xd4, 0x8d, 0x67, 0x72, 0x94, 0x98, 0xb0, 0x85,
  0xbb, 0xc5, 0x4f, 0xed, 0x86, 0x9a, 0x66, 0x11, 0x8a, 0xe9, 0x04, 0xfe, 0xa0, 0x78, 0x25, 0x4b,
  0xa2, 0x5d, 0x80, 0x05, 0x3f, 0x21, 0x70, 0xf1, 0x63, 0x77, 0xaf, 0x42, 0x20, 0xe5, 0xfd, 0xbf,
  0x81, 0x18, 0x26, 0xc3, 0xbe, 0x35, 0x88, 0x2e, 0x93, 0x55, 0xfc, 0x7a, 0xc8, 0xba, 0x32, 0xe6,
  0xc0, 0x19, 0x9e, 0xa3, 0x44, 0x54, 0x3b, 0x0b, 0x8c, 0xc7, 0x6b, 0x28, 0xa7, 0xbc, 0x16, 0xad,
  0xdb, 0x64, 0x74, 0x14, 0x92, 0x0c, 0x48, 0xb8, 0x9f, 0xbd, 0x43, 0xc4, 0x39, 0x31, 0xd3, 0xf2,
  0xd5, 0x8b, 0x6e, 0xda, 0x01, 0xb1, 0x9c, 0x49, 0xd8, 0xac, 0xf3, 0xcf, 0xca, 0xf4, 0x47, 0x10,
  0x6f, 0xf0, 0x4a, 0x5c, 0x38, 0x57, 0x73, 0x97, 0xcb, 0xa1, 0xe8, 0x3e, 0x96, 0x61, 0x0d, 0x0f,
  0xe0, 0x7c, 0x71, 0xcc, 0x90, 0x06, 0xf7, 0x1c, 0xc2, 0x6a, 0xae, 0x69, 0x17, 0x99, 0x3a, 0x27,
  0xd9, 0xeb, 0x2b, 0x22, 0xd2, 0xa9, 0x07, 0x33, 0x2d, 0x3c, 0x15, 0xc9, 0x87, 0xaa, 0x50, 0xa5,
  0x03, 0x59, 0x09, 0x1a, 0x65, 0xd7, 0x84, 0xd0, 0x82, 0x29, 0x5a, 0x1e, 0x7b, 0xa8, 0x6d, 0x2c]

/-- `tkip_sbox`. -/
def tkipSbox (index : BitVec 32) : BitVec 32 :=
  let indexLow := (index % 256).toNat
  let indexHigh := ((index >>> 8) % 256).toNat
  let left := tkipSboxLower.getD indexLow 0 + tkipSboxUpper.getD indexLow 0 * 256
  let right := tkipSboxUpper.getD indexHigh 0 + tkipSboxLower.getD indexHigh 0 * 256
  left ^^^ right

/-- `rotr1`. -/
def rotr1 (a : BitVec 32) : BitVec 32 :=
  let b := if a &&& 0x01 = 0x01 then (a >>> 1) ||| 0x8000 else (a >>> 1) &&& 0x7fff
  b % 65536

/-- `(256*key[1]) + key[0]`, wherever the pair stands. -/
def pairAt (key : Memory) (place : Nat) : BitVec 32 :=
  256 * (key (place + 1)).toBitVec.setWidth 32 + (key place).toBitVec.setWidth 32

/-- Five words of any width: `p1k`. -/
structure Words5 (width : Nat) where
  p0 : BitVec width
  p1 : BitVec width
  p2 : BitVec width
  p3 : BitVec width
  p4 : BitVec width

/-- Six: `ppk0` to `ppk5`. -/
structure Words6 (width : Nat) extends Words5 width where
  p5 : BitVec width

section source
variable (key ta : Memory)

/-- One turn of phase 1, step 2. -/
def p1kTurn (p1k : Words5 32) (i : Nat) : Words5 32 :=
  let j := 2 * (i % 2)
  let p0 := (p1k.p0 + tkipSbox ((p1k.p4 ^^^ pairAt key j) % 65536)) % 65536
  let p1 := (p1k.p1 + tkipSbox ((p0 ^^^ pairAt key (4 + j)) % 65536)) % 65536
  let p2 := (p1k.p2 + tkipSbox ((p1 ^^^ pairAt key (8 + j)) % 65536)) % 65536
  let p3 := (p1k.p3 + tkipSbox ((p2 ^^^ pairAt key (12 + j)) % 65536)) % 65536
  let p4 := (p1k.p4 + tkipSbox ((p3 ^^^ pairAt key j) % 65536)) % 65536
  ⟨p0, p1, p2, p3, (p4 + BitVec.ofNat 32 i) % 65536⟩

/-- Phase 1, step 1. -/
def p1kStart (pnh : Nat) : Words5 32 where
  p0 := BitVec.ofNat 32 (pnh % 65536)
  p1 := BitVec.ofNat 32 ((pnh >>> 16) % 65536)
  p2 := (ta 0).toBitVec.setWidth 32 + (ta 1).toBitVec.setWidth 32 * 256
  p3 := (ta 2).toBitVec.setWidth 32 + (ta 3).toBitVec.setWidth 32 * 256
  p4 := (ta 4).toBitVec.setWidth 32 + (ta 5).toBitVec.setWidth 32 * 256

/-- Phase 2, step 2: the words are not reduced. -/
def ppkMix (p1k : Words5 32) (tsc2 : BitVec 32) : Words6 32 :=
  let p5 := (p1k.p4 + tsc2) % 65536
  let p0 := p1k.p0 + tkipSbox ((p5 ^^^ pairAt key 0) % 65536)
  let p1 := p1k.p1 + tkipSbox ((p0 ^^^ pairAt key 2) % 65536)
  let p2 := p1k.p2 + tkipSbox ((p1 ^^^ pairAt key 4) % 65536)
  let p3 := p1k.p3 + tkipSbox ((p2 ^^^ pairAt key 6) % 65536)
  let p4 := p1k.p4 + tkipSbox ((p3 ^^^ pairAt key 8) % 65536)
  let p5 := p5 + tkipSbox ((p4 ^^^ pairAt key 10) % 65536)
  let p0 := p0 + rotr1 (p5 ^^^ pairAt key 12)
  let p1 := p1 + rotr1 (p0 ^^^ pairAt key 14)
  let p2 := p2 + rotr1 p1
  let p3 := p3 + rotr1 p2
  let p4 := p4 + rotr1 p3
  let p5 := p5 + rotr1 p4
  ⟨⟨p0, p1, p2, p3, p4⟩, p5⟩

/-- A value below 256 that is stored in a `u8`. -/
def lowByte (value : BitVec 32) : UInt8 := ⟨(value % 256).setWidth 8⟩

/-- `RTMPTkipMixKey`: the bytes of `rc4key`, and what is left in `p1k`. -/
def rtmpTkipMixKey (pnl pnh : Nat) : List UInt8 × Words5 32 :=
  let tsc2 := BitVec.ofNat 32 (pnl % 65536)
  let p1k := (List.range 8).foldl (p1kTurn key) (p1kStart ta pnh)
  let ppk := ppkMix key p1k tsc2
  ([lowByte (tsc2 >>> 8), (lowByte (tsc2 >>> 8) ||| 0x20) &&& 0x7f, lowByte tsc2,
    lowByte ((ppk.p5 ^^^ pairAt key 0) >>> 1),
    lowByte ppk.p0, lowByte (ppk.p0 >>> 8), lowByte ppk.p1, lowByte (ppk.p1 >>> 8),
    lowByte ppk.p2, lowByte (ppk.p2 >>> 8), lowByte ppk.p3, lowByte (ppk.p3 >>> 8),
    lowByte ppk.p4, lowByte (ppk.p4 >>> 8), lowByte ppk.p5, lowByte (ppk.p5 >>> 8)], p1k)

end source

/-! ### The mixing in 16 bits -/

def lo8 (word : BitVec 16) : UInt8 := ⟨word.setWidth 8⟩
def hi8 (word : BitVec 16) : UInt8 := ⟨(word >>> 8).setWidth 8⟩
def mk16 (high low : UInt8) : BitVec 16 := high.toBitVec ++ low.toBitVec

/-- The 16-bit S-box: the substitution of the block cipher times two and times three, and with the
bytes swapped for the high byte. -/
def mixingSbox (word : BitVec 16) : BitVec 16 :=
  let low := entry aesSboxEnc (lo8 word)
  let high := entry aesSboxEnc (hi8 word)
  mk16 (Library.ColumnMix.twice double low) (Library.ColumnMix.thrice double low) ^^^
    mk16 (Library.ColumnMix.thrice double high) (Library.ColumnMix.twice double high)

section mixing
variable (tk ta : Memory)

/-- A pair of bytes of the temporal key. -/
def tkPair (place : Nat) : BitVec 16 := mk16 (tk (place + 1)) (tk place)

def phase1Turn (ttak : Words5 16) (i : Nat) : Words5 16 :=
  let j := 2 * (i % 2)
  let ttak0 := ttak.p0 + mixingSbox (ttak.p4 ^^^ tkPair tk j)
  let ttak1 := ttak.p1 + mixingSbox (ttak0 ^^^ tkPair tk (4 + j))
  let ttak2 := ttak.p2 + mixingSbox (ttak1 ^^^ tkPair tk (8 + j))
  let ttak3 := ttak.p3 + mixingSbox (ttak2 ^^^ tkPair tk (12 + j))
  let ttak4 := ttak.p4 + mixingSbox (ttak3 ^^^ tkPair tk j)
  ⟨ttak0, ttak1, ttak2, ttak3, ttak4 + BitVec.ofNat 16 i⟩

/-- Phase 1, of the transmitter and the upper 32 bits of the sequence counter. -/
def phase1 (iv32 : BitVec 32) : Words5 16 :=
  (List.range 8).foldl (phase1Turn tk)
    ⟨iv32.setWidth 16, (iv32 >>> 16).setWidth 16, mk16 (ta 1) (ta 0), mk16 (ta 3) (ta 2),
      mk16 (ta 5) (ta 4)⟩

/-- Steps 1 and 2 of phase 2. -/
def phase2Words (ttak : Words5 16) (iv16 : BitVec 16) : Words6 16 :=
  let ppk5 := ttak.p4 + iv16
  let ppk0 := ttak.p0 + mixingSbox (ppk5 ^^^ tkPair tk 0)
  let ppk1 := ttak.p1 + mixingSbox (ppk0 ^^^ tkPair tk 2)
  let ppk2 := ttak.p2 + mixingSbox (ppk1 ^^^ tkPair tk 4)
  let ppk3 := ttak.p3 + mixingSbox (ppk2 ^^^ tkPair tk 6)
  let ppk4 := ttak.p4 + mixingSbox (ppk3 ^^^ tkPair tk 8)
  let ppk5 := ppk5 + mixingSbox (ppk4 ^^^ tkPair tk 10)
  let ppk0 := ppk0 + (ppk5 ^^^ tkPair tk 12).rotateRight 1
  let ppk1 := ppk1 + (ppk0 ^^^ tkPair tk 14).rotateRight 1
  let ppk2 := ppk2 + ppk1.rotateRight 1
  let ppk3 := ppk3 + ppk2.rotateRight 1
  let ppk4 := ppk4 + ppk3.rotateRight 1
  let ppk5 := ppk5 + ppk4.rotateRight 1
  ⟨⟨ppk0, ppk1, ppk2, ppk3, ppk4⟩, ppk5⟩

/-- Phase 2: the seed of the stream cipher. -/
def phase2 (ttak : Words5 16) (iv16 : BitVec 16) : List UInt8 :=
  let ppk := phase2Words tk ttak iv16
  [hi8 iv16, (hi8 iv16 ||| 0x20) &&& 0x7f, lo8 iv16,
    lo8 ((ppk.p5 ^^^ tkPair tk 0) >>> 1),
    lo8 ppk.p0, hi8 ppk.p0, lo8 ppk.p1, hi8 ppk.p1, lo8 ppk.p2, hi8 ppk.p2,
    lo8 ppk.p3, hi8 ppk.p3, lo8 ppk.p4, hi8 ppk.p4, lo8 ppk.p5, hi8 ppk.p5]

end mixing

/-! ### The low halves -/

/-- The word of the mixing that a word of the code stands for. -/
abbrev half (word : BitVec 32) : BitVec 16 := word.setWidth 16

def Words5.half (words : Words5 32) : Words5 16 :=
  ⟨words.p0.setWidth 16, words.p1.setWidth 16, words.p2.setWidth 16, words.p3.setWidth 16,
    words.p4.setWidth 16⟩

theorem half_add (a b : BitVec 32) : half (a + b) = half a + half b :=
  BitVec.setWidth_add a b (by decide)

theorem half_xor (a b : BitVec 32) : half (a ^^^ b) = half a ^^^ half b := BitVec.setWidth_xor

theorem half_mod (a : BitVec 32) : half (a % 65536) = half a := by
  apply BitVec.eq_of_toNat_eq
  simp

theorem half_pair (high low : UInt8) :
    half (low.toBitVec.setWidth 32 + high.toBitVec.setWidth 32 * 256) = mk16 high low := by
  have := high.toNat_lt
  have := low.toNat_lt
  apply BitVec.eq_of_toNat_eq
  unfold mk16
  rw [BitVec.toNat_append, ← Nat.shiftLeft_add_eq_or_of_lt low.toBitVec.isLt, Nat.shiftLeft_eq]
  simp
  omega

theorem half_pairAt (key : Memory) (place : Nat) : half (pairAt key place) = tkPair key place := by
  unfold pairAt tkPair
  rw [← half_pair, BitVec.add_comm, BitVec.mul_comm]

theorem tkipSboxLower_eq : tkipSboxLower = (List.range 256).map fun n =>
    (Library.ColumnMix.thrice double (entry aesSboxEnc (UInt8.ofNat n))).toBitVec.setWidth 32 := by
  decide +kernel

theorem tkipSboxUpper_eq : tkipSboxUpper = (List.range 256).map fun n =>
    (Library.ColumnMix.twice double (entry aesSboxEnc (UInt8.ofNat n))).toBitVec.setWidth 32 := by
  decide +kernel

theorem getD_byteTable (f : UInt8 → BitVec 32) (b : UInt8) :
    ((List.range 256).map fun n => f (UInt8.ofNat n)).getD b.toNat 0 = f b := by
  have inside : b.toNat < ((List.range 256).map fun n => f (UInt8.ofNat n)).length := by
    rw [List.length_map, List.length_range]
    exact b.toNat_lt
  rw [List.getD_eq_getElem _ _ inside, List.getElem_map, List.getElem_range, UInt8.ofNat_toNat]

theorem indexLow_eq (index : BitVec 32) : (index % 256).toNat = (lo8 (half index)).toNat := by
  unfold lo8
  simp

theorem indexHigh_eq (index : BitVec 32) :
    ((index >>> 8) % 256).toNat = (hi8 (half index)).toNat := by
  unfold hi8
  simp [Nat.shiftRight_eq_div_pow]
  omega

/-- Only the low half of an index counts. -/
theorem half_tkipSbox (index : BitVec 32) :
    half (tkipSbox index) = mixingSbox (half index) := by
  unfold tkipSbox mixingSbox
  simp only [indexHigh_eq]
  simp only [indexLow_eq, tkipSboxLower_eq, tkipSboxUpper_eq]
  rw [getD_byteTable fun b => (Library.ColumnMix.thrice double (entry aesSboxEnc b)).toBitVec.setWidth 32,
    getD_byteTable fun b => (Library.ColumnMix.twice double (entry aesSboxEnc b)).toBitVec.setWidth 32,
    getD_byteTable fun b => (Library.ColumnMix.thrice double (entry aesSboxEnc b)).toBitVec.setWidth 32,
    getD_byteTable fun b => (Library.ColumnMix.twice double (entry aesSboxEnc b)).toBitVec.setWidth 32,
    half_xor, half_pair, half_pair]

theorem lowest_eq (a : BitVec 32) : a &&& 0x01 = 0x01 ↔ a.getLsbD 0 = true := by
  have value : (a &&& 1).toNat = a.toNat % 2 := by
    rw [BitVec.toNat_and]
    exact Nat.and_one_is_mod a.toNat
  rw [← BitVec.toNat_inj, value, BitVec.getLsbD, Nat.testBit_zero]
  simp

/-- The rotation looks at the low half only, whatever stands above it. -/
theorem half_rotr1 (a : BitVec 32) : half (rotr1 a) = (half a).rotateRight 1 := by
  unfold rotr1
  simp only [half_mod, lowest_eq]
  ext i below
  cases bit : a.getLsbD 0 <;> interval_cases i <;>
    simp_all [BitVec.getElem_rotateRight]

theorem lo8_half (a : BitVec 32) : lowByte a = lo8 (half a) := by
  unfold lowByte lo8
  congr 1
  apply BitVec.eq_of_toNat_eq
  simp

theorem hi8_half (a : BitVec 32) : lowByte (a >>> 8) = hi8 (half a) := by
  unfold lowByte hi8
  congr 1
  apply BitVec.eq_of_toNat_eq
  simp [Nat.shiftRight_eq_div_pow]
  omega

/-- The one bit that is shifted out of the high byte is below the carries. -/
theorem lo8_shift (a : BitVec 32) : lowByte (a >>> 1) = lo8 (half a >>> 1) := by
  unfold lowByte lo8
  congr 1
  apply BitVec.eq_of_toNat_eq
  simp [Nat.shiftRight_eq_div_pow]
  omega

section steps
variable {key ta : Memory}

theorem half_p1kTurn (p1k : Words5 32) (i : Nat) :
    (p1kTurn key p1k i).half = phase1Turn key p1k.half i := by
  unfold p1kTurn phase1Turn Words5.half
  simp only [half_mod, half_add, half_tkipSbox, half_xor, half_pairAt,
    BitVec.setWidth_ofNat_of_le (show 16 ≤ 32 by decide)]

theorem half_turns (turns : List Nat) (p1k : Words5 32) :
    (turns.foldl (p1kTurn key) p1k).half = turns.foldl (phase1Turn key) p1k.half := by
  induction turns generalizing p1k with
  | nil => rfl
  | cons i rest ih => rw [List.foldl_cons, List.foldl_cons, ih, half_p1kTurn]

theorem half_p1kStart (pnh : BitVec 32) : (p1kStart ta pnh.toNat).half =
    ⟨pnh.setWidth 16, (pnh >>> 16).setWidth 16, mk16 (ta 1) (ta 0), mk16 (ta 3) (ta 2),
      mk16 (ta 5) (ta 4)⟩ := by
  unfold p1kStart Words5.half
  simp only [half_pair]
  congr 1
  · apply BitVec.eq_of_toNat_eq
    simp
  · apply BitVec.eq_of_toNat_eq
    simp

/-- Each of the twelve steps of phase 2. -/
theorem half_ppkMix (p1k : Words5 32) (tsc2 : BitVec 32) :
    (ppkMix key p1k tsc2).toWords5.half = (phase2Words key p1k.half (half tsc2)).toWords5 ∧
      half (ppkMix key p1k tsc2).p5 = (phase2Words key p1k.half (half tsc2)).p5 := by
  unfold ppkMix phase2Words Words5.half
  simp only [half_mod, half_add, half_tkipSbox, half_xor, half_pairAt, half_rotr1, and_self]

end steps

/-- For every temporal key, transmitter and sequence counter, the key and the words of phase 1 are
those of the mixing in 16 bits. -/
theorem tkipMixKey_mixing (key ta : Memory) (iv16 : BitVec 16) (iv32 : BitVec 32) :
    (rtmpTkipMixKey key ta iv16.toNat iv32.toNat).1 = phase2 key (phase1 key ta iv32) iv16 ∧
      (rtmpTkipMixKey key ta iv16.toNat iv32.toNat).2.half = phase1 key ta iv32 := by
  have words : ((List.range 8).foldl (p1kTurn key) (p1kStart ta iv32.toNat)).half =
      phase1 key ta iv32 := by
    rw [half_turns, half_p1kStart]
    rfl
  have counter : half (BitVec.ofNat 32 (iv16.toNat % 65536)) = iv16 := by
    apply BitVec.eq_of_toNat_eq
    have := iv16.isLt
    simp
    omega
  refine ⟨?_, words⟩
  unfold rtmpTkipMixKey phase2
  obtain ⟨front, last⟩ := @half_ppkMix key
    ((List.range 8).foldl (p1kTurn key) (p1kStart ta iv32.toNat))
    (BitVec.ofNat 32 (iv16.toNat % 65536))
  rw [words, counter] at front last
  simp only [hi8_half, lo8_shift]
  simp only [lo8_half, half_xor, half_pairAt, counter]
  simp only [← last, ← front]
  rfl

end Mt7612u.Crypto
