import Mt7612u.Crypto.CcmLoops

/-! `AES_CCM_Decrypt` of what `AES_CCM_Encrypt` returned, for every length a caller may pass. -/

namespace Mt7612u.Crypto
open Library.CcmFormat
open Receive (Memory)

theorem macLength_of_checkParameters {c : CcmParameters} (passed : checkParameters c = none) :
    4 ≤ c.macLength ∧ c.macLength ≤ 16 := by
  unfold checkParameters at passed
  split_ifs at passed with key nonce mac
  simp only [List.mem_cons, List.not_mem_nil, or_false] at mac
  omega

theorem nonceLength_of_checkParameters {c : CcmParameters} (passed : checkParameters c = none) :
    7 ≤ c.nonceLength ∧ c.nonceLength ≤ 13 := by
  unfold checkParameters at passed
  split_ifs at passed
  omega

theorem toNat_add_macLength {length : BitVec 32} {count : Nat}
    (room : length.toNat + count < 2 ^ 32) :
    (length + BitVec.ofNat 32 count).toNat = length.toNat + count := by
  have small : count < 2 ^ 32 := by omega
  rw [BitVec.toNat_add, BitVec.toNat_ofNat, Nat.mod_eq_of_lt small, Nat.mod_eq_of_lt room]

/-- What `AES_CCM_Encrypt` has stored when it returns 0. -/
def encrypted (cipher : Cipher) (c : CcmParameters) (plainText : Memory)
    (plainTextLength : BitVec 32) (cipherText : Memory) : CcmOutput :=
  let body := ctrLoop cipher plainText plainTextLength.toNat plainTextLength.toNat 0
    (blockCtr c) ⟨cipherText, [blockCtr c]⟩
  { cipherText := storeMac (fun i =>
      (aesCcmMac cipher c plainText plainTextLength).blockMac i ^^^ cipher (blockCtr c) i)
        plainTextLength c.macLength body.out
    cipherTextLength := plainTextLength + BitVec.ofNat 32 c.macLength
    macInput := (aesCcmMac cipher c plainText plainTextLength).input
    counters := body.counters }

section encrypt

variable {cipher : Cipher} {c : CcmParameters} {plainText cipherText : Memory}
  {plainTextLength cipherTextLength : BitVec 32} {out : CcmOutput}

theorem aesCcmEncrypt_ok
    (accepted : aesCcmEncrypt cipher c plainText plainTextLength cipherText cipherTextLength =
      .ok out) :
    checkParameters c = none ∧
      out = encrypted cipher c plainText plainTextLength cipherText := by
  unfold aesCcmEncrypt at accepted
  cases check : checkParameters c with
  | some code =>
    rw [check] at accepted
    cases accepted
  | none =>
    rw [check] at accepted
    dsimp only at accepted
    split at accepted
    next => cases accepted
    next =>
      cases accepted
      exact ⟨rfl, rfl⟩

theorem aesCcmEncrypt_eq_ok (passed : checkParameters c = none)
    (room : plainTextLength + BitVec.ofNat 32 c.macLength ≤ cipherTextLength) :
    aesCcmEncrypt cipher c plainText plainTextLength cipherText cipherTextLength =
      .ok (encrypted cipher c plainText plainTextLength cipherText) := by
  unfold aesCcmEncrypt
  rw [passed]
  dsimp only
  rw [if_neg (BitVec.not_lt.mpr room)]
  rfl

/-- The MAC stands behind the text, as long as the index does not wrap. -/
theorem storeMac_apply (blockMac : Block) (start : BitVec 32) (count : Nat) (mem : Memory)
    (room : start.toNat + count ≤ 2 ^ 32) (address : Nat) :
    storeMac blockMac start count mem address =
      if start.toNat ≤ address ∧ address < start.toNat + count then
        byte blockMac (address - start.toNat)
      else mem address := by
  induction count with
  | zero =>
    rw [if_neg (by omega)]
    rfl
  | succ count ih =>
    rw [storeMac, toNat_add_macLength (by omega)]
    rcases lt_trichotomy address (start.toNat + count) with before | last | after
    · rw [Memory.write_before _ _ before, ih (by omega)]
      by_cases behind : start.toNat ≤ address
      · rw [if_pos ⟨behind, before⟩, if_pos ⟨behind, by omega⟩]
      · rw [if_neg (fun inside => behind inside.1), if_neg (fun inside => behind inside.1)]
    · rw [if_pos (by omega), last, Nat.add_sub_cancel_left]
      unfold Memory.write
      rw [if_pos (le_refl _), Nat.sub_self]
      rfl
    · rw [Memory.write_after _ (by simp only [List.length_singleton]; omega), ih (by omega),
        if_neg (by omega), if_neg (by omega)]

/-- What the caller of `AES_CCM_Decrypt` is promised: the call succeeds with the plain text and
its length, in every buffer that is large enough. -/
def RoundTrips (cipher : Cipher) (c : CcmParameters) (plainText : Memory)
    (plainTextLength : BitVec 32) (out : CcmOutput) : Prop :=
  ∀ (stack : Block) (buffer : Memory) (capacity : BitVec 32), plainTextLength ≤ capacity →
    ∃ plain, aesCcmDecrypt cipher c out.cipherText out.cipherTextLength buffer capacity stack =
        .ok (plain, plainTextLength) ∧
      ∀ i < plainTextLength.toNat, plain i = plainText i

theorem xor_xor_self (a b : UInt8) : a ^^^ b ^^^ b = a := by
  rw [UInt8.xor_assoc, UInt8.xor_self, UInt8.xor_zero]

/-- The text that the loop of the decryption writes. -/
theorem encrypted_decrypts (room : plainTextLength.toNat + c.macLength ≤ 2 ^ 32)
    (counters : List Block) (buffer : Memory) (i : Nat) (inside : i < plainTextLength.toNat) :
    (ctrLoop cipher (encrypted cipher c plainText plainTextLength cipherText).cipherText
      plainTextLength.toNat plainTextLength.toNat 0 (blockCtr c) ⟨buffer, counters⟩).out i =
        plainText i := by
  rw [ctrLoop_out, if_pos inside]
  unfold encrypted
  dsimp only
  rw [storeMac_apply _ _ _ _ room, if_neg (by omega), ctrLoop_out, if_pos inside, xor_xor_self]

/-- As long as text and MAC together have a length of 32 bits, the text comes back. -/
theorem roundTrips_of_length (passed : checkParameters c = none)
    (short : plainTextLength.toNat + c.macLength < 2 ^ 32) :
    RoundTrips cipher c plainText plainTextLength
      (encrypted cipher c plainText plainTextLength cipherText) := by
  intro stack buffer capacity enough
  have mac := macLength_of_checkParameters passed
  have text := @encrypted_decrypts cipher c plainText cipherText plainTextLength short.le
    [blockCtr c] buffer
  use (ctrLoop cipher (encrypted cipher c plainText plainTextLength cipherText).cipherText
    plainTextLength.toNat plainTextLength.toNat 0 (blockCtr c) ⟨buffer, [blockCtr c]⟩).out
  apply And.intro _ text
  have length : (encrypted cipher c plainText plainTextLength cipherText).cipherTextLength =
      plainTextLength + BitVec.ofNat 32 c.macLength := rfl
  unfold aesCcmDecrypt
  rw [passed, length, BitVec.add_sub_cancel]
  dsimp only
  rw [if_neg (BitVec.not_lt.mpr enough), if_pos]
  intro i inside
  -- The bytes behind the text are the MAC of the plain text under the first counter block.
  rw [toNat_add_macLength short, if_pos (by omega), aesCcmMac_congr text]
  unfold encrypted
  dsimp only
  rw [storeMac_apply _ _ _ _ short.le, if_pos (by omega), Nat.add_sub_cancel_left, byte,
    dif_pos i.isLt]
  exact xor_xor_self _ _

/-- When the sum of the lengths wraps, the MAC of the cipher text is never read. -/
theorem not_roundTrips_of_length (passed : checkParameters c = none)
    (long : 2 ^ 32 ≤ plainTextLength.toNat + c.macLength) :
    ¬ RoundTrips cipher c plainText plainTextLength
      (encrypted cipher c plainText plainTextLength cipherText) := by
  intro promised
  have mac := macLength_of_checkParameters passed
  have wrapped : (plainTextLength + BitVec.ofNat 32 c.macLength).toNat =
      plainTextLength.toNat + c.macLength - 2 ^ 32 := by
    rw [BitVec.toNat_add, BitVec.toNat_ofNat, Nat.mod_eq_of_lt (by omega : c.macLength < 2 ^ 32)]
    omega
  let computed := (aesCcmMac cipher c
    (ctrLoop cipher (encrypted cipher c plainText plainTextLength cipherText).cipherText
      plainTextLength.toNat plainTextLength.toNat 0 (blockCtr c) ⟨plainText, [blockCtr c]⟩).out
    plainTextLength).blockMac
  obtain ⟨plain, succeeds, _⟩ :=
    promised (fun i => computed i + 1) plainText plainTextLength (BitVec.le_refl _)
  have length : (encrypted cipher c plainText plainTextLength cipherText).cipherTextLength =
      plainTextLength + BitVec.ofNat 32 c.macLength := rfl
  unfold aesCcmDecrypt at succeeds
  rw [passed, length, BitVec.add_sub_cancel] at succeeds
  dsimp only at succeeds
  rw [if_neg (BitVec.not_lt.mpr (BitVec.le_refl _))] at succeeds
  split at succeeds
  next same =>
    have first := same 0 (by rw [Fin.val_zero]; omega)
    rw [wrapped, if_neg (by rw [Fin.val_zero]; omega)] at first
    exact absurd (add_eq_left.mp first) (by decide)
  next => cases succeeds

/-- Whatever `AES_CCM_Encrypt` accepts comes back from `AES_CCM_Decrypt`, if and only if the length
of text and MAC together fits the 32 bits it is kept in. -/
theorem aesCcmDecrypt_aesCcmEncrypt
    (accepted : aesCcmEncrypt cipher c plainText plainTextLength cipherText cipherTextLength =
      .ok out) :
    RoundTrips cipher c plainText plainTextLength out ↔
      plainTextLength.toNat + c.macLength < 2 ^ 32 := by
  obtain ⟨passed, rfl⟩ := aesCcmEncrypt_ok accepted
  constructor
  · intro promised
    by_contra long
    exact not_roundTrips_of_length passed (not_lt.mp long) promised
  · intro short
    exact roundTrips_of_length passed short

end encrypt

/-- The lengths that CCMP uses, over zeros. -/
def ccmpParameters : CcmParameters where
  keyLength := 16
  nonce := fun _ => 0
  nonceLength := 13
  aad := fun _ => 0
  aadLength := 22
  macLength := 8

theorem aesCcmDecrypt_aesCcmEncrypt_ccmp :
    RoundTrips id ccmpParameters (fun _ => 1) 20#32
      (encrypted id ccmpParameters (fun _ => 1) 20#32 fun _ => 0) :=
  (@aesCcmDecrypt_aesCcmEncrypt id ccmpParameters (fun _ => 1) (fun _ => 0) 20#32 28#32 _
    (aesCcmEncrypt_eq_ok rfl (by decide))).mpr (by decide)

/-- Four bytes below the end of the range, a cipher text of four bytes is large enough for the
check, and the text does not come back. -/
theorem long_text_not_decrypted :
    aesCcmEncrypt id ccmpParameters (fun _ => 1) 4294967292#32 (fun _ => 0) 4#32 =
        .ok (encrypted id ccmpParameters (fun _ => 1) 4294967292#32 fun _ => 0) ∧
      ¬ RoundTrips id ccmpParameters (fun _ => 1) 4294967292#32
        (encrypted id ccmpParameters (fun _ => 1) 4294967292#32 fun _ => 0) := by
  constructor
  · apply aesCcmEncrypt_eq_ok
    · rfl
    · decide
  · apply not_roundTrips_of_length
    · rfl
    · decide

end Mt7612u.Crypto
