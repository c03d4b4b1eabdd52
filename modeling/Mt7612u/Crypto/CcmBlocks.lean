import Mt7612u.Crypto.CcmRoundTrip

/-! The counter blocks of one message, and the blocks that go into its MAC. -/

namespace Mt7612u.Crypto
open Library.CcmFormat
open Receive (Memory)

def CcmParameters.nonceBytes (c : CcmParameters) : List UInt8 := c.nonce.bytes 0 c.nonceLength

def CcmParameters.aadBytes (c : CcmParameters) : List UInt8 := c.aad.bytes 0 c.aadLength.toNat

@[simp] theorem length_nonceBytes (c : CcmParameters) : c.nonceBytes.length = c.nonceLength :=
  Memory.length_bytes _ _ _

@[simp] theorem length_aadBytes (c : CcmParameters) : c.aadBytes.length = c.aadLength.toNat :=
  Memory.length_bytes _ _ _

/-- Counter 0 and one counter for each block of the text are `A_0`, `A_1` and so on, no two of them
are the same, and the MAC is taken over `B_0`, `B_1` and so on. -/
def FollowsFormat (c : CcmParameters) (plainText : Memory) (plainTextLength : BitVec 32)
    (out : CcmOutput) : Prop :=
  out.counters.Nodup ∧
    out.counters =
      (List.range ((plainTextLength.toNat + 15) / 16 + 1)).map (counterBlock c.nonceBytes) ∧
    out.macInput =
      macBlocks c.nonceBytes c.macLength c.aadBytes (plainText.bytes 0 plainTextLength.toNat)

theorem getD_bytes {mem : Memory} {count k : Nat} (inside : k < count) :
    (mem.bytes 0 count).getD k 0 = mem k := by
  rw [List.getD_eq_getElem _ _ (by rwa [Memory.length_bytes])]
  simp [Memory.bytes]

section blocks

variable {cipher : Cipher} {c : CcmParameters} {plainText cipherText : Memory}
  {plainTextLength cipherTextLength : BitVec 32} {out : CcmOutput}

/-- The last byte counts up to 255 as the field of RFC 3610 does. -/
theorem counterAt_blockCtr (passed : checkParameters c = none) {i : Nat} (small : i < 256) :
    counterAt (blockCtr c) i = counterBlock c.nonceBytes i := by
  have nonce := nonceLength_of_checkParameters passed
  funext place
  have last := place.isLt
  rw [counterBlock, ofList_flags (by rw [length_nonceBytes]; omega), length_nonceBytes]
  by_cases counted : place = 15
  · have fifteen : place.val = 15 := by rw [counted]; rfl
    rw [if_neg (by omega), if_neg (by omega), fifteen, Nat.sub_self, Nat.pow_zero, Nat.div_one,
      counterAt_eq, counted, Function.update_self]
    unfold blockCtr
    rw [if_neg (by decide), if_neg (by show ¬ 15 ≤ c.nonceLength; omega), UInt8.zero_add]
  · have before : place.val < 15 := by
      have : place.val ≠ 15 := fun same => counted (Fin.ext same)
      omega
    rw [counterAt_eq, Function.update_of_ne counted]
    unfold blockCtr lengthField
    rw [length_nonceBytes]
    by_cases first : place.val = 0
    · rw [if_pos first, if_pos first]
    · rw [if_neg first, if_neg first]
      by_cases inside : place.val ≤ c.nonceLength
      · rw [if_pos inside, if_pos inside]
        exact (getD_bytes (by omega)).symm
      · have high : i / 256 ^ (15 - place.val) = 0 := by
          apply Nat.div_eq_of_lt
          exact small.trans_le (Nat.le_self_pow (by omega) 256)
        rw [if_neg inside, if_neg inside, high]
        rfl

theorem encrypted_counters :
    (encrypted cipher c plainText plainTextLength cipherText).counters =
      (List.range ((plainTextLength.toNat + 15) / 16 + 1)).map (counterAt (blockCtr c)) := by
  unfold encrypted
  dsimp only
  rw [ctrLoop_counters, List.range_succ_eq_map, List.map_cons, counterAt_zero,
    List.range'_eq_map_range, List.map_map, List.map_map, List.singleton_append]
  congr 1
  apply List.map_congr_left
  intro i _
  exact congrArg _ (Nat.add_comm 1 i)

/-- The counters are distinct as long as the last byte did not come back to 0. -/
theorem counters_nodup_iff (ctr : Block) (blocks : Nat) :
    ((List.range (blocks + 1)).map (counterAt ctr)).Nodup ↔ blocks ≤ 255 := by
  constructor
  · intro distinct
    by_contra many
    have again : counterAt ctr 0 = counterAt ctr 256 := rfl
    have same := List.inj_on_of_nodup_map distinct (List.mem_range.mpr (by omega))
      (List.mem_range.mpr (by omega)) again
    omega
  · intro few
    apply List.Nodup.map_on _ List.nodup_range
    intro i first j second same
    rw [List.mem_range] at first second
    have last := congrFun same 15
    simp only [counterAt_eq, Function.update_self] at last
    have number := congrArg UInt8.toNat (add_left_cancel last)
    simp only [UInt8.toNat_ofNat'] at number
    omega

theorem isEmpty_aadBytes (c : CcmParameters) :
    c.aadBytes.isEmpty = decide (c.aadLength.toNat = 0) := by
  rw [Bool.eq_iff_iff, List.isEmpty_iff, ← List.length_eq_zero_iff, length_aadBytes,
    decide_eq_true_eq]

/-- The flags in front of the nonce. -/
theorem controlBlock_flags (passed : checkParameters c = none) :
    ((if 0 < c.aadLength.toNat then 0x40 else 0) ||| UInt8.ofNat ((c.macLength - 2) / 2 * 8) |||
        UInt8.ofNat (15 - c.nonceLength - 1)) =
      UInt8.ofNat (64 * (!c.aadBytes.isEmpty).toNat + 8 * ((c.macLength - 2) / 2) +
        (lengthField c.nonceBytes - 1)) := by
  have mac := macLength_of_checkParameters passed
  have nonce := nonceLength_of_checkParameters passed
  have flags : ∀ m ≤ 16, ∀ n ≤ 13, 4 ≤ m → 7 ≤ n → ∀ adata : Bool,
      (if adata then (0x40 : UInt8) else 0) ||| UInt8.ofNat ((m - 2) / 2 * 8) |||
          UInt8.ofNat (15 - n - 1) =
        UInt8.ofNat (64 * adata.toNat + 8 * ((m - 2) / 2) + (15 - n - 1)) := by
    decide
  unfold lengthField
  rw [length_nonceBytes, isEmpty_aadBytes, ← flags _ mac.2 _ nonce.2 mac.1 nonce.1]
  simp only [Bool.not_eq_true', decide_eq_false_iff_not, Nat.pos_iff_ne_zero, ne_eq]

theorem controlBlock_eq (passed : checkParameters c = none) :
    controlBlock c plainTextLength =
      firstBlock c.nonceBytes c.macLength (!c.aadBytes.isEmpty) plainTextLength.toNat := by
  have nonce := nonceLength_of_checkParameters passed
  have bound := plainTextLength.isLt
  funext place
  have last := place.isLt
  rw [firstBlock, ofList_flags (by rw [length_nonceBytes]; omega), ← controlBlock_flags passed,
    length_nonceBytes]
  unfold controlBlock
  by_cases first : place.val = 0
  · rw [if_pos first, if_pos first]
  · rw [if_neg first, if_neg first]
    by_cases inside : place.val ≤ c.nonceLength
    · rw [if_pos inside, if_neg (by omega), if_neg (by omega), if_neg (by omega),
        if_neg (by omega), if_pos inside]
      exact (getD_bytes (by omega)).symm
    · rw [if_neg inside, if_neg inside]
      by_cases fifteen : place.val = 15
      · rw [if_pos fifteen, fifteen, Nat.sub_self, Nat.pow_zero, Nat.div_one]
      rw [if_neg fifteen]
      by_cases fourteen : place.val = 14
      · rw [if_pos fourteen, fourteen]
        rfl
      rw [if_neg fourteen]
      by_cases thirteen : place.val = 13
      · rw [if_pos ⟨thirteen, by omega⟩, thirteen]
        rfl
      rw [if_neg (fun both => thirteen both.1)]
      by_cases twelve : place.val = 12
      · rw [if_pos ⟨twelve, by omega⟩, twelve]
        rfl
      -- The length has no more than four bytes.
      have high : plainTextLength.toNat / 256 ^ (15 - place.val) = 0 := by
        apply Nat.div_eq_of_lt
        have wide : 4 ≤ 15 - place.val := by omega
        exact bound.trans_le (Nat.pow_le_pow_right (Nat.zero_lt_succ 255) wide)
      rw [if_neg (fun both => twelve both.1), high]
      rfl

/-- The control block, the associated data behind its length, and the text. -/
theorem aesCcmMac_input (passed : checkParameters c = none) :
    (aesCcmMac cipher c plainText plainTextLength).input =
      firstBlock c.nonceBytes c.macLength (!c.aadBytes.isEmpty) plainTextLength.toNat ::
        ((if c.aadBytes.isEmpty then [] else blocksOf (aadHeader c.aadLength ++ c.aadBytes)) ++
          blocksOf (plainText.bytes 0 plainTextLength.toNat)) := by
  have payload : ∀ s : MacState,
      (absorb cipher plainText plainTextLength.toNat plainTextLength.toNat 0 [] s).input =
        s.input ++ blocksOf (plainText.bytes 0 plainTextLength.toNat) := by
    intro s
    rcases Nat.eq_zero_or_pos plainTextLength.toNat with none | some
    · have nothing : plainText.bytes 0 0 = [] := rfl
      rw [absorb_done none.le, none, nothing, blocksOf_nil, List.append_nil]
    · rw [absorb_input _ _ _ _ (by omega) (by decide) some]
      rfl
  have associated : ∀ s : MacState,
      (absorb cipher c.aad c.aadLength.toNat c.aadLength.toNat 0 (aadHeader c.aadLength) s).input =
        s.input ++
          if c.aadBytes.isEmpty then [] else blocksOf (aadHeader c.aadLength ++ c.aadBytes) := by
    intro s
    rw [isEmpty_aadBytes]
    rcases Nat.eq_zero_or_pos c.aadLength.toNat with none | some
    · rw [absorb_done none.le, none]
      exact (List.append_nil _).symm
    · have room : (aadHeader c.aadLength).length < 16 := by
        unfold aadHeader
        split
        · exact Nat.lt_of_sub_pos (Nat.zero_lt_succ 13)
        · exact Nat.lt_of_sub_pos (Nat.zero_lt_succ 9)
      rw [absorb_input _ _ _ _ (by omega) room some, decide_eq_false (by omega)]
      rfl
  unfold aesCcmMac
  dsimp only
  rw [payload, associated, MacState.chain, controlBlock_eq passed, List.append_assoc]
  rfl

/-- The length is encoded as in RFC 3610 below 0xFF00. -/
theorem aadHeader_eq (short : c.aadLength.toNat < 0xFF00) (some : c.aadLength.toNat ≠ 0) :
    aadHeader c.aadLength = encodedLength c.aadLength.toNat := by
  unfold aadHeader encodedLength
  rw [if_pos ⟨Nat.pos_of_ne_zero some, short⟩, if_pos (show _ < 2 ^ 16 - 2 ^ 8 from short)]
  rfl

/-- From 0xFF00 on, the bytes 0xFF and 0xFE in front of the length are left out. -/
theorem blocksOf_aadHeader_ne (long : 0xFF00 ≤ c.aadLength.toNat) :
    blocksOf (aadHeader c.aadLength ++ c.aadBytes) ≠
      blocksOf (encodedLength c.aadBytes.length ++ c.aadBytes) := by
  have bound := c.aadLength.isLt
  rw [length_aadBytes]
  unfold aadHeader encodedLength
  rw [if_neg (by omega), if_neg (by omega), if_pos bound]
  simp only [List.cons_append]
  rw [blocksOf_cons (List.cons_ne_nil 0 _), blocksOf_cons (List.cons_ne_nil 0xff _)]
  intro same
  have first := congrFun (List.cons.inj same).1 0
  exact absurd first (by decide : (0 : UInt8) ≠ 0xff)

/-- The blocks of the MAC are those of RFC 3610 if and only if the associated data is short. -/
theorem aesCcmMac_input_eq_macBlocks_iff (passed : checkParameters c = none) :
    (aesCcmMac cipher c plainText plainTextLength).input =
        macBlocks c.nonceBytes c.macLength c.aadBytes
          (plainText.bytes 0 plainTextLength.toNat) ↔
      c.aadLength.toNat < 0xFF00 := by
  rw [aesCcmMac_input passed, macBlocks, Memory.length_bytes]
  constructor
  · intro same
    by_contra long
    have rest := List.append_cancel_right (List.cons.inj same).2
    rw [isEmpty_aadBytes, decide_eq_false (by omega)] at rest
    exact blocksOf_aadHeader_ne (not_lt.mp long) rest
  · intro short
    congr 2
    by_cases empty : c.aadBytes.isEmpty
    · rw [if_pos empty, if_pos empty]
    · rw [if_neg empty, if_neg empty, length_aadBytes, aadHeader_eq short]
      rw [isEmpty_aadBytes, decide_eq_true_eq] at empty
      exact empty

/-- The blocks of one message are those of RFC 3610 if and only if the counter fits one byte and
the length of the associated data two. -/
theorem aesCcmEncrypt_blocks
    (accepted : aesCcmEncrypt cipher c plainText plainTextLength cipherText cipherTextLength =
      .ok out) :
    FollowsFormat c plainText plainTextLength out ↔
      plainTextLength.toNat ≤ 255 * 16 ∧ c.aadLength.toNat < 0xFF00 := by
  obtain ⟨passed, rfl⟩ := aesCcmEncrypt_ok accepted
  have input : (encrypted cipher c plainText plainTextLength cipherText).macInput =
      (aesCcmMac cipher c plainText plainTextLength).input := rfl
  unfold FollowsFormat
  rw [input, aesCcmMac_input_eq_macBlocks_iff passed, encrypted_counters, counters_nodup_iff]
  constructor
  · rintro ⟨few, _, short⟩
    exact ⟨by omega, short⟩
  · rintro ⟨fits, short⟩
    have few : (plainTextLength.toNat + 15) / 16 ≤ 255 := by omega
    refine ⟨few, ?_, short⟩
    apply List.map_congr_left
    intro i member
    have below := List.mem_range.mp member
    exact counterAt_blockCtr passed (by omega)

end blocks

theorem aesCcmEncrypt_blocks_ccmp :
    FollowsFormat ccmpParameters (fun _ => 1) 20#32
      (encrypted id ccmpParameters (fun _ => 1) 20#32 fun _ => 0) :=
  (@aesCcmEncrypt_blocks id ccmpParameters (fun _ => 1) (fun _ => 0) 20#32 28#32 _
    (aesCcmEncrypt_eq_ok rfl (by decide))).mpr (by decide)

/-- In a text of 4096 bytes the last block is encrypted with the counter of the MAC. -/
theorem last_counter_of_long_text :
    aesCcmEncrypt id ccmpParameters (fun _ => 1) 4096#32 (fun _ => 0) 4104#32 =
        .ok (encrypted id ccmpParameters (fun _ => 1) 4096#32 fun _ => 0) ∧
      ¬ FollowsFormat ccmpParameters (fun _ => 1) 4096#32
        (encrypted id ccmpParameters (fun _ => 1) 4096#32 fun _ => 0) := by
  constructor
  · apply aesCcmEncrypt_eq_ok
    · rfl
    · decide
  · intro follows
    have few : (4096 + 15) / 16 ≤ 255 := by
      rw [← counters_nodup_iff (blockCtr ccmpParameters)]
      have distinct := follows.1
      rw [encrypted_counters] at distinct
      exact distinct
    exact absurd few (by decide)

end Mt7612u.Crypto
