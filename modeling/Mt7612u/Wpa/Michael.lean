import Mt7612u.Wpa.SoftDecrypt

/-! Michael of `cmm_tkip.c`, whose words are in unsigned longs of 32 bits or more: the upper bits
never reach the lower ones, and these are the function on 32-bit words. -/

namespace Mt7612u.Wpa
open Receive (Memory)

/-! ### Michael on 32-bit words -/

/-- The bytes of a word change places in pairs. -/
def xswap (word : BitVec 32) : BitVec 32 :=
  word.extractLsb' 16 8 ++ word.extractLsb' 24 8 ++ word.extractLsb' 0 8 ++ word.extractLsb' 8 8

/-- The block function. -/
def michaelBlock (state : BitVec 32 × BitVec 32) : BitVec 32 × BitVec 32 :=
  let (l, r) := state
  let r := r ^^^ l.rotateLeft 17
  let l := l + r
  let r := r ^^^ xswap l
  let l := l + r
  let r := r ^^^ l.rotateLeft 3
  let l := l + r
  let r := r ^^^ l.rotateRight 2
  (l + r, r)

/-- Four bytes as a word, the least significant first. -/
def leWord (a b c d : UInt8) : BitVec 32 := d.toBitVec ++ c.toBitVec ++ b.toBitVec ++ a.toBitVec

/-- One word after the other, as far as there are four bytes. -/
def michaelRun : List UInt8 → BitVec 32 × BitVec 32 → BitVec 32 × BitVec 32
  | a :: b :: c :: d :: rest, (l, r) => michaelRun rest (michaelBlock (l ^^^ leWord a b c d, r))
  | _, state => state

/-- A `5a` and four to seven zeros. -/
def michaelPadding (count : Nat) : List UInt8 := 0x5a :: List.replicate (7 - count % 4) 0

/-- The eight bytes for a message. -/
def michael (micKey : Memory) (message : List UInt8) : List UInt8 :=
  let (l, r) := michaelRun (message ++ michaelPadding message.length)
    (leWord (micKey 0) (micKey 1) (micKey 2) (micKey 3),
      leWord (micKey 4) (micKey 5) (micKey 6) (micKey 7))
  [⟨l.extractLsb' 0 8⟩, ⟨l.extractLsb' 8 8⟩, ⟨l.extractLsb' 16 8⟩, ⟨l.extractLsb' 24 8⟩,
    ⟨r.extractLsb' 0 8⟩, ⟨r.extractLsb' 8 8⟩, ⟨r.extractLsb' 16 8⟩, ⟨r.extractLsb' 24 8⟩]

/-! ### The functions of the code -/

/-- `TKIP_KEY_INFO` as the code has it: an unsigned long has `32 + wider` bits. -/
structure TkipKeyInfoLong (wider : Nat) where
  nBytesInM : Nat
  k0 : BitVec (32 + wider)
  k1 : BitVec (32 + wider)
  l : BitVec (32 + wider)
  r : BitVec (32 + wider)
  m : BitVec (32 + wider)
  mic : List UInt8

section source
variable {wider : Nat}

/-- `byte << shift`, an int, as an unsigned long. -/
def shiftedByte (wider : Nat) (byte : UInt8) (shift : Nat) : BitVec (32 + wider) :=
  (byte.toBitVec.setWidth 32 <<< shift).signExtend (32 + wider)

/-- `RTMPTkipGetUInt32`. -/
def rtmpTkipGetUInt32 (wider : Nat) (pMicKey : Memory) (start : Nat) : BitVec (32 + wider) :=
  (List.range 4).foldl (fun res i => res ||| shiftedByte wider (pMicKey (start + i)) (8 * i)) 0

/-- `RTMPTkipPutUInt32`, the bytes that it stores. -/
def rtmpTkipPutUInt32 : Nat → BitVec (32 + wider) → List UInt8
  | 0, _ => []
  | count + 1, val => ⟨(val &&& 0xff).setWidth 8⟩ :: rtmpTkipPutUInt32 count (val >>> 8)

/-- `ROL32` and `ROR32`. -/
def rol32 (a : BitVec (32 + wider)) (n : Nat) : BitVec (32 + wider) :=
  (a <<< n) ||| ((a >>> (32 - n)) &&& ((BitVec.ofNat (32 + wider) 1 <<< n) - BitVec.ofNat (32 + wider) 1))

def ror32 (a : BitVec (32 + wider)) (n : Nat) : BitVec (32 + wider) := rol32 a (32 - n)

namespace TkipKeyInfoLong

/-- `RTMPTkipSetMICKey`. -/
def setMicKey (tkip : TkipKeyInfoLong wider) (pMicKey : Memory) : TkipKeyInfoLong wider :=
  let k0 := rtmpTkipGetUInt32 wider pMicKey 0
  let k1 := rtmpTkipGetUInt32 wider pMicKey 4
  { tkip with k0 := k0, k1 := k1, l := k0, r := k1, nBytesInM := 0, m := 0 }

/-- `RTMPTkipAppendByte`. -/
def appendByte (tkip : TkipKeyInfoLong wider) (uChar : UInt8) : TkipKeyInfoLong wider :=
  let m := tkip.m ||| shiftedByte wider uChar (8 * tkip.nBytesInM)
  let nBytesInM := tkip.nBytesInM + 1
  if 4 ≤ nBytesInM then
    let l := tkip.l ^^^ m
    let r := tkip.r ^^^ rol32 l 17
    let l := l + r
    let r := r ^^^ (((l &&& 0xff00ff00) >>> 8) ||| ((l &&& 0x00ff00ff) <<< 8))
    let l := l + r
    let r := r ^^^ rol32 l 3
    let l := l + r
    let r := r ^^^ ror32 l 2
    { tkip with l := l + r, r := r, m := 0, nBytesInM := 0 }
  else { tkip with m := m, nBytesInM := nBytesInM }

/-- `RTMPTkipAppend`. -/
def append (tkip : TkipKeyInfoLong wider) (src : List UInt8) : TkipKeyInfoLong wider :=
  src.foldl appendByte tkip

/-- "and then zeroes until the length is a multiple of 4" -/
def zeroes : Nat → TkipKeyInfoLong wider → TkipKeyInfoLong wider
  | 0, tkip => tkip
  | turns + 1, tkip => if tkip.nBytesInM ≠ 0 then zeroes turns (tkip.appendByte 0) else tkip

/-- `RTMPTkipGetMIC`: a word is full after three zeros at most. -/
def getMic (tkip : TkipKeyInfoLong wider) : TkipKeyInfoLong wider :=
  let padded := zeroes 3 (tkip.append [0x5a, 0, 0, 0, 0])
  { padded with mic := rtmpTkipPutUInt32 4 padded.l ++ rtmpTkipPutUInt32 4 padded.r }

/-- `RTMPInitMICEngine`: of `Priority`, an unsigned long, the first four bytes in memory. -/
def initMicEngine (tkip : TkipKeyInfoLong wider) (pDa pSa : Memory) (userPriority : UInt8)
    (pMicKey : Memory) : TkipKeyInfoLong wider :=
  (((tkip.setMicKey pMicKey).append (pDa.bytes 0 6)).append (pSa.bytes 0 6)).append
    [userPriority, 0, 0, 0]

/-- `RTMPTkipCompareMICValue`, with the key info of the receiver. -/
def compareMicValue (rx : TkipKeyInfoLong wider) (pSrc pDa pSa pMicKey : Memory)
    (userPriority : UInt8) (len : Nat) : Bool :=
  let rx := (rx.initMicEngine pDa pSa userPriority pMicKey).append (pSrc.bytes 0 len)
  let oldMic := pSrc.bytes len 8
  rx.getMic.mic == oldMic

end TkipKeyInfoLong

end source

/-! ### The lower halves -/

section low
variable {wider : Nat}

def TkipKeyInfoLong.low (tkip : TkipKeyInfoLong wider) : TkipKeyInfo :=
  ⟨tkip.l.setWidth 32, tkip.r.setWidth 32, tkip.m.setWidth 32, tkip.nBytesInM⟩

theorem low_add (a b : BitVec (32 + wider)) :
    (a + b).setWidth 32 = a.setWidth 32 + b.setWidth 32 :=
  BitVec.setWidth_add a b (Nat.le_add_right 32 wider)

/-- A byte that is shifted as an int sets upper bits, and the same lower ones. -/
theorem low_shiftedByte (byte : UInt8) (shift : Nat) :
    (shiftedByte wider byte shift).setWidth 32 = byte.toBitVec.setWidth 32 <<< shift := by
  apply BitVec.eq_of_getLsbD_eq
  intro i below
  have wide : i < 32 + wider := by
    omega
  rw [shiftedByte, BitVec.getLsbD_setWidth, BitVec.getLsbD_signExtend, if_pos below]
  simp [below, wide]

theorem mask_bit {n i : Nat} (small : n < 32) :
    ((BitVec.ofNat (32 + wider) 1 <<< n) - BitVec.ofNat (32 + wider) 1).getLsbD i = decide (i < n) := by
  have room : 2 ^ n < 2 ^ (32 + wider) := Nat.pow_lt_pow_right (by decide) (by omega)
  have value : ((BitVec.ofNat (32 + wider) 1 <<< n) - BitVec.ofNat (32 + wider) 1).toNat = 2 ^ n - 1 := by
    have positive := Nat.two_pow_pos n
    have one : (BitVec.ofNat (32 + wider) 1).toNat = 1 := by
      rw [BitVec.toNat_ofNat]
      exact Nat.mod_eq_of_lt (by omega)
    have power : (BitVec.ofNat (32 + wider) 1 <<< n).toNat = 2 ^ n := by
      rw [BitVec.toNat_shiftLeft, one, Nat.shiftLeft_eq, Nat.one_mul, Nat.mod_eq_of_lt room]
    rw [BitVec.toNat_sub, one, power, ← Nat.sub_add_comm (by omega),
      show 2 ^ (32 + wider) + 2 ^ n - 1 = 2 ^ (32 + wider) + (2 ^ n - 1) by omega,
      Nat.add_mod_left, Nat.mod_eq_of_lt (by omega)]
  rw [BitVec.getLsbD, value, Nat.testBit_two_pow_sub_one]

/-- The rotation takes the upper bits of the lower half, not of the whole. -/
theorem low_rol32 (a : BitVec (32 + wider)) {n : Nat} (positive : 0 < n) (small : n < 32) :
    (rol32 a n).setWidth 32 = (a.setWidth 32).rotateLeft n := by
  apply BitVec.eq_of_getLsbD_eq
  intro i below
  unfold rol32
  rw [BitVec.getLsbD_setWidth, BitVec.getLsbD_or, BitVec.getLsbD_and, mask_bit small,
    BitVec.getLsbD_rotateLeft, Nat.mod_eq_of_lt small, BitVec.getLsbD_shiftLeft,
    BitVec.getLsbD_ushiftRight, BitVec.getLsbD_setWidth, BitVec.getLsbD_setWidth]
  by_cases early : i < n
  · have inside : 32 - n + i < 32 := by omega
    simp [early, below, inside]
  · have inside : i - n < 32 := by omega
    have wide : i < 32 + wider := by omega
    simp [early, below, inside, wide]

theorem low_xswap (a : BitVec (32 + wider)) :
    (((a &&& 0xff00ff00) >>> 8) ||| ((a &&& 0x00ff00ff) <<< 8)).setWidth 32 =
      ((a.setWidth 32 &&& 0xff00ff00) >>> 8) ||| ((a.setWidth 32 &&& 0x00ff00ff) <<< 8) := by
  apply BitVec.eq_of_getLsbD_eq
  intro i below
  simp only [BitVec.ofNat_eq_ofNat, BitVec.getLsbD_setWidth, BitVec.getLsbD_or, BitVec.getLsbD_and,
    BitVec.getLsbD_ushiftRight, BitVec.getLsbD_shiftLeft, BitVec.getLsbD_ofNat]
  have wide : ∀ j < 32, j < 32 + wider := fun j small => by omega
  interval_cases i <;> simp [Nat.testBit, wide]

/-- The step lemma: what a byte does to the lower halves is what it does to words of 32 bits. -/
theorem low_appendByte (tkip : TkipKeyInfoLong wider) (uChar : UInt8) :
    (tkip.appendByte uChar).low = tkip.low.appendByte uChar := by
  unfold TkipKeyInfoLong.appendByte TkipKeyInfo.appendByte TkipKeyInfoLong.low
  by_cases full : 4 ≤ tkip.nBytesInM + 1
  · simp only [full, if_true, ror32, low_add, BitVec.setWidth_xor, low_xswap,
      low_rol32 _ (show 0 < 17 by decide) (show 17 < 32 by decide),
      low_rol32 _ (show 0 < 3 by decide) (show 3 < 32 by decide),
      low_rol32 _ (show 0 < 32 - 2 by decide) (show 32 - 2 < 32 by decide)]
    simp [low_shiftedByte]
  · simp only [full, if_false, BitVec.setWidth_or, low_shiftedByte]

theorem low_append (bytes : List UInt8) (tkip : TkipKeyInfoLong wider) :
    (tkip.append bytes).low = tkip.low.append bytes := by
  unfold TkipKeyInfoLong.append TkipKeyInfo.append
  induction bytes generalizing tkip with
  | nil => rfl
  | cons first rest ih => rw [List.foldl_cons, List.foldl_cons, ih, low_appendByte]

theorem low_zeroes (turns : Nat) (tkip : TkipKeyInfoLong wider) :
    (tkip.zeroes turns).low = tkip.low.pad turns := by
  induction turns generalizing tkip with
  | zero => rfl
  | succ turns ih =>
    unfold TkipKeyInfoLong.zeroes TkipKeyInfo.pad
    have same : tkip.low.nBytesInM = tkip.nBytesInM := rfl
    rw [same, ← low_appendByte]
    split_ifs
    · exact ih _
    · rfl

theorem putUInt32_low (val : BitVec (32 + wider)) :
    rtmpTkipPutUInt32 4 val = le32Bytes (val.setWidth 32) := by
  have byte (i : Nat) (below : i + 8 ≤ 32) :
      ((val >>> i) &&& 0xff).setWidth 8 = ((val.setWidth 32) >>> i).setWidth 8 := by
    apply BitVec.eq_of_getLsbD_eq
    intro j small
    have wide : i + j < 32 := by omega
    have mask : (0xff : BitVec (32 + wider)).getLsbD j = true := by
      have far : j < 32 + wider := by omega
      rw [BitVec.ofNat_eq_ofNat, BitVec.getLsbD_ofNat]
      interval_cases j <;> simp [far, Nat.testBit]
    simp only [BitVec.getLsbD_setWidth, BitVec.getLsbD_and, BitVec.getLsbD_ushiftRight, mask, wide]
    simp
  have shifts (i : Nat) : val >>> i >>> 8 = val >>> (i + 8) := (BitVec.shiftRight_add val i 8).symm
  have first : (val &&& 0xff).setWidth 8 = ((val.setWidth 32) >>> 0).setWidth 8 := by
    rw [← byte 0 (by decide), BitVec.ushiftRight_zero]
  unfold le32Bytes
  rw [show List.range 4 = [0, 1, 2, 3] from rfl]
  simp only [rtmpTkipPutUInt32, List.map_cons, List.map_nil, shifts, first, byte 8 (by decide),
    byte (8 + 8) (by decide), byte (8 + 8 + 8) (by decide)]

theorem low_getMic (tkip : TkipKeyInfoLong wider) : tkip.getMic.mic = tkip.low.getMic := by
  unfold TkipKeyInfoLong.getMic TkipKeyInfo.getMic
  simp only [putUInt32_low]
  rw [← low_append, ← low_zeroes]
  rfl

end low

/-! ### Words of 32 bits -/

theorem leWord_eq (a b c d : UInt8) : leWord a b c d =
    a.toBitVec.setWidth 32 ||| b.toBitVec.setWidth 32 <<< 8 ||| c.toBitVec.setWidth 32 <<< 16 |||
      d.toBitVec.setWidth 32 <<< 24 := by
  unfold leWord
  apply BitVec.eq_of_getLsbD_eq
  intro i below
  simp only [BitVec.getLsbD_append, BitVec.getLsbD_or, BitVec.getLsbD_shiftLeft,
    BitVec.getLsbD_setWidth]
  interval_cases i <;> simp

theorem xswap_eq (word : BitVec 32) :
    ((word &&& 0xff00ff00) >>> 8) ||| ((word &&& 0x00ff00ff) <<< 8) = xswap word := by
  unfold xswap
  apply BitVec.eq_of_getLsbD_eq
  intro i below
  simp only [BitVec.ofNat_eq_ofNat, BitVec.getLsbD_or, BitVec.getLsbD_and,
    BitVec.getLsbD_ushiftRight, BitVec.getLsbD_shiftLeft, BitVec.getLsbD_ofNat,
    BitVec.getLsbD_append, BitVec.getLsbD_extractLsb']
  interval_cases i <;> simp [Nat.testBit]

theorem rotateRight_two (word : BitVec 32) : word.rotateRight 2 = word.rotateLeft 30 := by
  apply BitVec.eq_of_getLsbD_eq
  intro i below
  rw [BitVec.getLsbD_rotateRight, BitVec.getLsbD_rotateLeft]

namespace TkipKeyInfo

/-- Four bytes make a word for the block function. -/
theorem append_four (l r : BitVec 32) (a b c d : UInt8) :
    (⟨l, r, 0, 0⟩ : TkipKeyInfo).append [a, b, c, d] =
      ⟨(michaelBlock (l ^^^ leWord a b c d, r)).1, (michaelBlock (l ^^^ leWord a b c d, r)).2, 0,
        0⟩ := by
  unfold michaelBlock append
  simp [appendByte, leWord_eq, rotateRight_two, ← xswap_eq]

theorem append_append (tkip : TkipKeyInfo) (first second : List UInt8) :
    (tkip.append first).append second = tkip.append (first ++ second) :=
  (List.foldl_append ..).symm

/-- Whole words, one after the other. -/
theorem append_run : ∀ (bytes : List UInt8) (l r : BitVec 32), bytes.length % 4 = 0 →
    (⟨l, r, 0, 0⟩ : TkipKeyInfo).append bytes =
      ⟨(michaelRun bytes (l, r)).1, (michaelRun bytes (l, r)).2, 0, 0⟩
  | [], l, r, _ => rfl
  | [_], _, _, whole => by simp at whole
  | [_, _], _, _, whole => by simp at whole
  | [_, _, _], _, _, whole => by simp at whole
  | a :: b :: c :: d :: rest, l, r, whole => by
    have later : rest.length % 4 = 0 := by
      simp only [List.length_cons] at whole
      omega
    have split : a :: b :: c :: d :: rest = [a, b, c, d] ++ rest := rfl
    rw [split, ← append_append, append_four, append_run rest _ _ later]
    rfl

theorem nBytesInM_append (bytes : List UInt8) {tkip : TkipKeyInfo} (short : tkip.nBytesInM < 4) :
    (tkip.append bytes).nBytesInM = (tkip.nBytesInM + bytes.length) % 4 := by
  induction bytes generalizing tkip with
  | nil => exact (Nat.mod_eq_of_lt short).symm
  | cons first rest ih =>
    have step : (tkip.appendByte first).nBytesInM = (tkip.nBytesInM + 1) % 4 := by
      unfold appendByte
      split_ifs <;> simp only <;> omega
    have below : (tkip.appendByte first).nBytesInM < 4 := by
      omega
    change ((tkip.appendByte first).append rest).nBytesInM = _
    rw [ih below, step, List.length_cons]
    omega

/-- The zeros of the loop, counted. -/
theorem pad_eq {tkip : TkipKeyInfo} {filled : Nat} (count : tkip.nBytesInM = filled)
    (short : filled < 4) : tkip.pad 3 = tkip.append (List.replicate ((4 - filled) % 4) 0) := by
  have step (tkip : TkipKeyInfo) (part : tkip.nBytesInM < 3) :
      (tkip.appendByte 0).nBytesInM = tkip.nBytesInM + 1 := by
    unfold appendByte
    rw [if_neg (by omega)]
  have last (tkip : TkipKeyInfo) (part : tkip.nBytesInM = 3) :
      (tkip.appendByte 0).nBytesInM = 0 := by
    unfold appendByte
    rw [if_pos (by omega)]
  interval_cases filled
  · unfold pad
    rw [if_neg (not_not.mpr count)]
    rfl
  · have one := step tkip (by omega)
    have two := step (tkip.appendByte 0) (by omega)
    have three := last ((tkip.appendByte 0).appendByte 0) (by omega)
    simp [pad, append, count, one, two, List.replicate]
  · have one := step tkip (by omega)
    have two := last (tkip.appendByte 0) (by omega)
    simp [pad, append, count, one, two, List.replicate]
  · have one := last tkip count
    simp [pad, append, count, one]

/-- The message is closed by a `5a` and zeros up to a whole word. -/
theorem getMic_append (k0 k1 : BitVec 32) (message : List UInt8) :
    ((⟨k0, k1, 0, 0⟩ : TkipKeyInfo).append message).getMic =
      le32Bytes (michaelRun (message ++ michaelPadding message.length) (k0, k1)).1 ++
        le32Bytes (michaelRun (message ++ michaelPadding message.length) (k0, k1)).2 := by
  have filled : (((⟨k0, k1, 0, 0⟩ : TkipKeyInfo).append message).append
      [0x5a, 0, 0, 0, 0]).nBytesInM = (message.length + 5) % 4 := by
    rw [append_append, nBytesInM_append _ (show 0 < 4 by decide), List.length_append]
    simp
  have padding : [0x5a, 0, 0, 0, 0] ++
      List.replicate ((4 - (message.length + 5) % 4) % 4) 0 = michaelPadding message.length := by
    have count : 7 - message.length % 4 = 4 + (4 - (message.length + 5) % 4) % 4 := by
      omega
    rw [michaelPadding, count, List.replicate_add]
    rfl
  have whole : (message ++ michaelPadding message.length).length % 4 = 0 := by
    rw [michaelPadding, List.length_append, List.length_cons, List.length_replicate]
    omega
  unfold getMic
  rw [pad_eq filled (Nat.mod_lt _ (by decide)), append_append, append_append, padding,
    append_run _ _ _ whole]

end TkipKeyInfo

theorem le32Bytes_eq (value : BitVec 32) : le32Bytes value =
    [⟨value.extractLsb' 0 8⟩, ⟨value.extractLsb' 8 8⟩, ⟨value.extractLsb' 16 8⟩,
      ⟨value.extractLsb' 24 8⟩] := by
  have byte (i : Nat) : (value >>> i).setWidth 8 = value.extractLsb' i 8 := by
    apply BitVec.eq_of_toNat_eq
    simp
  unfold le32Bytes
  rw [show List.range 4 = [0, 1, 2, 3] from rfl]
  simp only [List.map_cons, List.map_nil, byte]

section whole
variable {wider : Nat}

theorem low_getUInt32 (pMicKey : Memory) (start : Nat) :
    (rtmpTkipGetUInt32 wider pMicKey start).setWidth 32 = leWord (pMicKey start)
      (pMicKey (start + 1)) (pMicKey (start + 2)) (pMicKey (start + 3)) := by
  rw [leWord_eq, rtmpTkipGetUInt32, show List.range 4 = [0, 1, 2, 3] from rfl]
  simp [BitVec.setWidth_or, low_shiftedByte]

namespace TkipKeyInfoLong

theorem append_flatten (tkip : TkipKeyInfoLong wider) (pieces : List (List UInt8)) :
    pieces.foldl append tkip = tkip.append pieces.flatten := by
  induction pieces generalizing tkip with
  | nil => rfl
  | cons first rest ih =>
    rw [List.foldl_cons, ih, List.flatten_cons]
    exact (List.foldl_append ..).symm

/-- The header of the message, as the engine is fed with it. -/
def micHeader (pDa pSa : Memory) (userPriority : UInt8) : List UInt8 :=
  pDa.bytes 0 6 ++ pSa.bytes 0 6 ++ [userPriority, 0, 0, 0]

theorem low_initMicEngine (tkip : TkipKeyInfoLong wider) (pDa pSa : Memory) (userPriority : UInt8)
    (pMicKey : Memory) : (tkip.initMicEngine pDa pSa userPriority pMicKey).low =
      (⟨leWord (pMicKey 0) (pMicKey 1) (pMicKey 2) (pMicKey 3),
        leWord (pMicKey 4) (pMicKey 5) (pMicKey 6) (pMicKey 7), 0, 0⟩ : TkipKeyInfo).append
          (micHeader pDa pSa userPriority) := by
  have start : (tkip.setMicKey pMicKey).low =
      ⟨leWord (pMicKey 0) (pMicKey 1) (pMicKey 2) (pMicKey 3),
        leWord (pMicKey 4) (pMicKey 5) (pMicKey 6) (pMicKey 7), 0, 0⟩ := by
    unfold setMicKey low
    simp only [low_getUInt32]
    simp
  unfold initMicEngine micHeader
  rw [low_append, low_append, low_append, start, TkipKeyInfo.append_append,
    TkipKeyInfo.append_append, List.append_assoc]

/-- However the message is cut. -/
theorem getMic_pieces (tkip : TkipKeyInfoLong wider) (pDa pSa : Memory) (userPriority : UInt8)
    (pMicKey : Memory) (pieces : List (List UInt8)) :
    (pieces.foldl append (tkip.initMicEngine pDa pSa userPriority pMicKey)).getMic.mic =
      michael pMicKey (micHeader pDa pSa userPriority ++ pieces.flatten) := by
  rw [append_flatten, low_getMic, low_append, low_initMicEngine, TkipKeyInfo.append_append,
    TkipKeyInfo.getMic_append, le32Bytes_eq, le32Bytes_eq]
  rfl

end TkipKeyInfoLong

/-- With unsigned longs of any width: the eight bytes are those of Michael for every cut of the
message, and a received text is accepted exactly with the bytes that are made for it. -/
theorem tkipMic_michael (wider : Nat) (tx rx : TkipKeyInfoLong wider) (pSrc pDa pSa pMicKey : Memory)
    (userPriority : UInt8) (pieces : List (List UInt8)) (len : Nat) :
    (pieces.foldl TkipKeyInfoLong.append
        (tx.initMicEngine pDa pSa userPriority pMicKey)).getMic.mic =
      michael pMicKey (TkipKeyInfoLong.micHeader pDa pSa userPriority ++ pieces.flatten) ∧
    (rx.compareMicValue pSrc pDa pSa pMicKey userPriority len = true ↔ pSrc.bytes len 8 =
      ((tx.initMicEngine pDa pSa userPriority pMicKey).append (pSrc.bytes 0 len)).getMic.mic) := by
  have one (tkip : TkipKeyInfoLong wider) : ((tkip.initMicEngine pDa pSa userPriority
      pMicKey).append (pSrc.bytes 0 len)).getMic.mic =
        michael pMicKey (TkipKeyInfoLong.micHeader pDa pSa userPriority ++ pSrc.bytes 0 len) := by
    have single := tkip.getMic_pieces pDa pSa userPriority pMicKey [pSrc.bytes 0 len]
    rw [List.flatten_singleton] at single
    exact single
  refine ⟨TkipKeyInfoLong.getMic_pieces .., ?_⟩
  unfold TkipKeyInfoLong.compareMicValue
  simp only [one, beq_iff_eq]
  exact eq_comm

end whole

end Mt7612u.Wpa
