import Mt7612u.Wpa.SoftDecryptAes
import Mt7612u.Wpa.SoftEncrypt

/-! The two decryptors of CCMP side by side. They agree as long as a frame has no block that the
counter of one byte does not reach. -/

namespace Mt7612u.Wpa
open Crypto (Cipher CcmParameters MacState aesCcmMac aesCcmDecrypt blockCtr counterAt ctrLoop zeroBlock)
open Library.CcmFormat Library.CcmReceiver
open Receive (Memory)

/-- The frame as `RTMPSoftDecryptCCMP` is given it. -/
def mpduFrame (mpdu : Memory) (dataLen : BitVec 16) (key : CipherKey) : SoftFrame where
  hdr := mpdu
  userPriority := 0
  key := key
  data := mpduBody mpdu
  dataByteCnt := dataLen

@[simp] theorem mpduFrame_key (mpdu : Memory) (dataLen : BitVec 16) (key : CipherKey) :
    (mpduFrame mpdu dataLen key).key = key := rfl

/-- Both accept the frame or neither does, and the text is the same. -/
def DecryptorsAgree (crypto : SoftCrypto) (env : SoftEnv) (mpdu : Memory) (dataLen : BitVec 16)
    (key : CipherKey) : Prop :=
  let whole := rtmpSoftDecryptAes crypto mpdu
    (BitVec.ofNat 32 (mpduHeaderLen mpdu + dataLen.toNat)) key
  let parts := rtmpSoftDecryptCcmp crypto env (mpduFrame mpdu dataLen key)
  (whole.returned = true ↔ parts.isSome = true) ∧
    ∀ data outLen, parts = some (data, outLen) →
      outLen.toNat + (lenCcmpHdr + lenCcmpMic) = dataLen.toNat ∧
        data.bytes 0 outLen.toNat = whole.pData.bytes (mpduHeaderLen mpdu) outLen.toNat

section Ccm

variable {cipher : Cipher}

/-- `Block_MAC` is what the blocks that went into it make. -/
def MacState.Chains (cipher : Cipher) (s : MacState) : Prop :=
  s.blockMac = chained cipher s.input nullBlock

theorem chain_chains {s : MacState} (chains : MacState.Chains cipher s) (block : Block) :
    MacState.Chains cipher (s.chain cipher block) := by
  unfold MacState.Chains MacState.chain
  rw [chained_append, ← chains]
  apply congrArg cipher
  funext i
  exact UInt8.xor_comm _ _

theorem absorb_chains {data : Memory} {length : Nat} (turns index : Nat) (header : List UInt8)
    {s : MacState} (chains : MacState.Chains cipher s) :
    MacState.Chains cipher (Crypto.absorb cipher data length turns index header s) := by
  induction turns generalizing index header s with
  | zero => exact chains
  | succ turns ih =>
    unfold Crypto.absorb
    split_ifs
    · exact ih _ _ (chain_chains chains _)
    · exact chains

theorem aesCcmMac_blockMac (c : CcmParameters) (payload : Memory) (payloadLength : BitVec 32) :
    (aesCcmMac cipher c payload payloadLength).blockMac =
      chained cipher (aesCcmMac cipher c payload payloadLength).input nullBlock :=
  absorb_chains _ _ _ (absorb_chains _ _ _ (chain_chains (s := ⟨zeroBlock, []⟩) rfl _))

/-- What `AES_CCM_Decrypt` returns when the MAC is right. -/
theorem aesCcmDecrypt_ok {c : CcmParameters} {cipherText plainText data : Memory}
    {cipherTextLength plainTextLength outLen : BitVec 32} {stack : Block}
    (decrypted : aesCcmDecrypt cipher c cipherText cipherTextLength plainText plainTextLength stack =
      .ok (data, outLen)) :
    outLen = cipherTextLength - BitVec.ofNat 32 c.macLength ∧
      data = (ctrLoop cipher cipherText outLen.toNat outLen.toNat 0 (blockCtr c)
        ⟨plainText, [blockCtr c]⟩).out := by
  unfold aesCcmDecrypt at decrypted
  split at decrypted
  · cases decrypted
  · dsimp only at decrypted
    split_ifs at decrypted
    cases decrypted
    exact ⟨rfl, rfl⟩

end Ccm

section Parts

variable {mpdu : Memory} {dataLen : BitVec 16} {key : CipherKey} {crypto : SoftCrypto}
  {env : SoftEnv} {n : Nat}

theorem ccmpOf_mpduFrame (data : isDataFrame mpdu = true) :
    (ccmpOf (mpduFrame mpdu dataLen key)).nonceBytes = mpduNonce mpdu ∧
      (ccmpOf (mpduFrame mpdu dataLen key)).aadBytes = rtmpConstructCcmpAad mpdu ∧
      (ccmpOf (mpduFrame mpdu dataLen key)).aadLength.toNat < 0xFF00 := by
  have length := length_aad data
  have most := mpduHeaderLen_le mpdu
  have count : (BitVec.ofNat 32 (rtmpConstructCcmpAad mpdu).length).toNat =
      (rtmpConstructCcmpAad mpdu).length := by
    rw [BitVec.toNat_ofNat, Nat.mod_eq_of_lt (by omega)]
  refine ⟨Memory.bytes_write _ 0 _, ?_, ?_⟩
  · change Memory.bytes _ 0 (BitVec.ofNat 32 (rtmpConstructCcmpAad mpdu).length).toNat = _
    rw [count]
    exact Memory.bytes_write _ 0 _
  · change (BitVec.ofNat 32 (rtmpConstructCcmpAad mpdu).length).toNat < _
    omega

/-- The counters of `AES_CCM_Decrypt`. -/
def partsCounters (mpdu : Memory) (dataLen : BitVec 16) (key : CipherKey) : Nat → Block :=
  counterAt (blockCtr (ccmpOf (mpduFrame mpdu dataLen key)))

theorem partsCounters_eq (data : isDataFrame mpdu = true) {i : Nat} (small : i < 256) :
    partsCounters mpdu dataLen key i = counterBlock (mpduNonce mpdu) i := by
  rw [← (ccmpOf_mpduFrame data).1]
  exact Crypto.counterAt_blockCtr checkParameters_ccmpOf small

/-- The text that `AES_CCM_Decrypt` writes. -/
theorem ctrLoop_plainBytes (cipher : Cipher) (out : Memory) :
    (ctrLoop cipher (fun address => (mpduFrame mpdu dataLen key).data (lenCcmpHdr + address)) n n 0
      (blockCtr (ccmpOf (mpduFrame mpdu dataLen key)))
      ⟨out, [blockCtr (ccmpOf (mpduFrame mpdu dataLen key))]⟩).out.bytes 0 n =
        plainBytes cipher (partsCounters mpdu dataLen key) (ccmpText mpdu) n := by
  unfold Memory.bytes plainBytes
  apply List.map_congr_left
  intro k member
  rw [Nat.zero_add, Crypto.ctrLoop_out, if_pos (List.mem_range.mp member)]
  rfl

theorem ccmRight_iff (data : isDataFrame mpdu = true) (length : dataLen.toNat = n + 16) :
    CcmRight crypto (mpduFrame mpdu dataLen key) ↔
      Accepts (crypto.aesEncrypt key.key) (partsCounters mpdu dataLen key) (mpduNonce mpdu)
        (rtmpConstructCcmpAad mpdu) lenCcmpMic (ccmpText mpdu) n := by
  obtain ⟨nonce, aad, short⟩ := @ccmpOf_mpduFrame mpdu dataLen key data
  have bound := dataLen.isLt
  have count : ccmpLength (mpduFrame mpdu dataLen key) = n := by
    change dataLen.toNat - 16 = n
    omega
  have small : (BitVec.ofNat 32 n).toNat = n := by
    rw [BitVec.toNat_ofNat, Nat.mod_eq_of_lt (by omega)]
  have first : blockCtr (ccmpOf (mpduFrame mpdu dataLen key)) =
      partsCounters mpdu dataLen key 0 := (Crypto.counterAt_zero _).symm
  unfold CcmRight Accepts
  dsimp only
  rw [count, mpduFrame_key]
  apply forall_congr'
  intro i
  apply forall_congr'
  intro inside
  rw [aesCcmMac_blockMac,
    (Crypto.aesCcmMac_input_eq_macBlocks_iff checkParameters_ccmpOf).mpr short, nonce, aad, small,
    ctrLoop_plainBytes, first]
  exact eq_comm

theorem rtmpSoftDecryptCcmp_spec (keyed : key.keyLen ≠ 0) (data : isDataFrame mpdu = true)
    (length : dataLen.toNat = n + 16) :
    let parts := rtmpSoftDecryptCcmp crypto env (mpduFrame mpdu dataLen key)
    let cipher := crypto.aesEncrypt key.key
    let counters := partsCounters mpdu dataLen key
    (parts.isSome = true ↔ Accepts cipher counters (mpduNonce mpdu) (rtmpConstructCcmpAad mpdu)
        lenCcmpMic (ccmpText mpdu) n) ∧
      ∀ text outLen, parts = some (text, outLen) →
        outLen.toNat = n ∧ text.bytes 0 n = plainBytes cipher counters (ccmpText mpdu) n := by
  constructor
  · rw [rtmpSoftDecryptCcmp_isSome, ccmRight_iff data length]
    have long : lenCcmpHdr + lenCcmpMic ≤ dataLen.toNat := by
      unfold lenCcmpHdr lenCcmpMic
      omega
    exact ⟨fun both => both.2.2, fun right => ⟨keyed, long, right⟩⟩
  · intro text outLen accepted
    unfold rtmpSoftDecryptCcmp at accepted
    split_ifs at accepted
    split at accepted
    · next out count decrypted =>
      cases accepted
      obtain ⟨last, written⟩ := aesCcmDecrypt_ok decrypted
      have size : count.toNat = n := by
        rw [last]
        change (dataLen.setWidth 32 - BitVec.ofNat 32 8 - BitVec.ofNat 32 8).toNat = n
        bv_omega
      refine ⟨by rw [BitVec.toNat_setWidth, size]; omega, ?_⟩
      rw [written, size]
      exact ctrLoop_plainBytes _ _
    · cases accepted

end Parts

section Agree

variable {mpdu : Memory} {dataLen : BitVec 16} {key : CipherKey} {n : Nat}

/-- The last block that a counter of one byte reaches. -/
def oneByteLimit : Nat := 16 * 255

theorem toNat_of_long (long : lenCcmpHdr + lenCcmpMic ≤ dataLen.toNat) :
    dataLen.toNat = dataLen.toNat - 16 + 16 := by
  unfold lenCcmpHdr lenCcmpMic at long
  omega

theorem agree_of_short (crypto : SoftCrypto) (env : SoftEnv) (data : isDataFrame mpdu = true)
    (payload : mpdu 0 &&& 0x40 = 0) (keyed : key.keyLen ≠ 0) (length : dataLen.toNat = n + 16)
    (short : n ≤ oneByteLimit) : DecryptorsAgree crypto env mpdu dataLen key := by
  have bound := dataLen.isLt
  obtain ⟨returned, whole⟩ := @rtmpSoftDecryptAes_spec mpdu n crypto key keyed data payload (by omega)
  obtain ⟨accepted, parts⟩ := @rtmpSoftDecryptCcmp_spec mpdu dataLen key crypto env n keyed data length
  have same : ∀ i ≤ (n + 15) / 16,
      counterBlock (mpduNonce mpdu) i = partsCounters mpdu dataLen key i := by
    unfold oneByteLimit at short
    intro i inside
    exact (partsCounters_eq data (by omega)).symm
  unfold DecryptorsAgree
  rw [length]
  dsimp only
  refine ⟨returned.trans ((accepts_congr same).trans accepted.symm), fun out outLen found => ?_⟩
  obtain ⟨count, stands⟩ := parts out outLen found
  rw [count]
  refine ⟨rfl, ?_⟩
  calc out.bytes 0 n
    _ = plainBytes _ (partsCounters mpdu dataLen key) (ccmpText mpdu) n := stands
    _ = plainBytes _ (counterBlock (mpduNonce mpdu)) (ccmpText mpdu) n :=
      (plainBytes_congr same).symm
    _ = _ := whole.symm

/-- A block cipher for one frame: under every counter of two bytes its text is zero, the MIC block
makes the MIC right, and every other block becomes `filler`. -/
def fittingCipher (mpdu : Memory) (n : Nat) (filler : UInt8) : Cipher := fun block =>
  if byte block 0 = 1 then
    let counter := (byte block 14).toNat * 256 + (byte block 15).toNat
    if counter = 0 then fun i => ccmpText mpdu (n + i) ^^^ filler
    else fun i => ccmpText mpdu (16 * (counter - 1) + i)
  else fun _ => filler

variable {filler : UInt8}

theorem counterBlock_bytes (c : Nat) :
    byte (counterBlock (mpduNonce mpdu) c) 0 = 1 ∧
      byte (counterBlock (mpduNonce mpdu) c) 14 = UInt8.ofNat (c / 256) ∧
      byte (counterBlock (mpduNonce mpdu) c) 15 = UInt8.ofNat (c % 256) := by
  have width : lengthField (mpduNonce mpdu) = 2 := by
    unfold lengthField mpduNonce
    rw [length_nonce]
  unfold counterBlock
  rw [width, bigEndian_two]
  exact ⟨rfl, rfl, rfl⟩

/-- Of a counter of two bytes the cipher makes the block of the cipher text. -/
theorem fittingCipher_counter {c : Nat} (small : c < 2 ^ 16) :
    fittingCipher mpdu n filler (counterBlock (mpduNonce mpdu) c) =
      if c = 0 then fun i : Fin 16 => ccmpText mpdu (n + i) ^^^ filler
      else fun i : Fin 16 => ccmpText mpdu (16 * (c - 1) + i) := by
  obtain ⟨flags, high, low⟩ := @counterBlock_bytes mpdu c
  have counter : (UInt8.ofNat (c / 256)).toNat * 256 + (UInt8.ofNat (c % 256)).toNat = c := by
    rw [UInt8.toNat_ofNat', UInt8.toNat_ofNat']
    omega
  unfold fittingCipher
  dsimp only
  rw [if_pos flags, high, low, counter]

/-- The text of the frame is zero. -/
theorem fittingCipher_text (small : n + 16 < 2 ^ 16) {k : Nat} (inside : k < n) :
    plainText (fittingCipher mpdu n filler) (counterBlock (mpduNonce mpdu)) (ccmpText mpdu) k = 0 := by
  have place : 16 * (k / 16 + 1 - 1) + k % 16 = k := by omega
  have below : k % 16 < 16 := Nat.mod_lt _ (Nat.succ_pos 15)
  unfold plainText
  rw [fittingCipher_counter (by omega), if_neg (Nat.succ_ne_zero _), byte, dif_pos below]
  dsimp only
  rw [place, UInt8.xor_self]

/-- A chain of blocks that do not look like counters. -/
theorem chained_filler {blocks : List Block} (other : ∀ block ∈ blocks, filler ^^^ byte block 0 ≠ 1) :
    chained (fittingCipher mpdu n filler) blocks (fun _ => filler) = fun _ => filler :=
  chained_const fun block member => if_neg (other block member)

theorem exists_other (first second third : UInt8) :
    ∃ other : UInt8, other ≠ first ∧ other ≠ second ∧ other ≠ third := by
  by_contra none
  push Not at none
  have zero := none 0
  have one := none 1
  have two := none 2
  have three := none 3
  grind

/-- `RTMPSoftDecryptAES` takes the MIC for right. -/
theorem fittingCipher_mic (data : isDataFrame mpdu = true) (payload : mpdu 0 &&& 0x40 = 0)
    (small : n + 16 < 2 ^ 16) (one : filler ≠ 1) (address : filler ^^^ mpdu 16 ≠ 1) :
    Accepts (fittingCipher mpdu n filler) (counterBlock (mpduNonce mpdu)) (mpduNonce mpdu)
      (rtmpConstructCcmpAad mpdu) lenCcmpMic (ccmpText mpdu) n := by
  have long := mpduHeaderLen_ge mpdu
  have most := mpduHeaderLen_le mpdu
  have same := @protected_write mpdu mpdu fun _ _ => rfl
  have control : fittingCipher mpdu n filler (constructMicIv mpdu (qosSubtype mpdu)
      (a4Exists mpdu) (plainBytes (fittingCipher mpdu n filler)
        (counterBlock (mpduNonce mpdu)) (ccmpText mpdu) n).length
      (ccmpHeaderPn mpdu (mpduHeaderLen mpdu))) = fun _ => filler :=
    if_neg (show (0x59 : UInt8) ≠ 1 by decide)
  have header1 : byte (constructMicHeader1 (mpduHeaderLen mpdu)
      (mpdu.write 1 [mpdu 1 ||| 0x40])) 0 = 0 := by
    have short : (mpduHeaderLen mpdu - 2) / 256 = 0 := by omega
    change UInt8.ofNat ((mpduHeaderLen mpdu - 2) / 256) = 0
    rw [short]
    rfl
  have header2 : byte (constructMicHeader2 (mpdu.write 1 [mpdu 1 ||| 0x40]) (a4Exists mpdu)
      (qosSubtype mpdu)) 0 = mpdu 16 := same.header 16 (by omega) (by omega)
  have text : ∀ block ∈ blocksOf (plainBytes (fittingCipher mpdu n filler)
      (counterBlock (mpduNonce mpdu)) (ccmpText mpdu) n), byte block 0 = 0 := by
    intro block member
    obtain ⟨j, _, rfl⟩ := List.mem_map.mp member
    change List.getD (List.drop (16 * j) _) 0 0 = 0
    rw [List.getD_eq_getElem?_getD, List.getElem?_drop, ← List.getD_eq_getElem?_getD]
    by_cases inside : 16 * j + 0 < n
    · rw [getD_plainBytes inside, fittingCipher_text small inside]
    · exact List.getD_eq_default _ _ (by rw [length_plainBytes]; omega)
  have chain : chained (fittingCipher mpdu n filler)
      (macBlocks (mpduNonce mpdu) lenCcmpMic (rtmpConstructCcmpAad mpdu)
        (plainBytes (fittingCipher mpdu n filler) (counterBlock (mpduNonce mpdu)) (ccmpText mpdu) n))
      nullBlock = fun _ => filler := by
    rw [macBlocks_mpdu data payload same, chained_append, chained_one, control]
    apply chained_filler
    intro block member
    rcases List.mem_append.mp member with header | body
    · rcases List.mem_pair.mp header with rfl | rfl
      · rw [header1, UInt8.xor_zero]
        exact one
      · rw [header2]
        exact address
    · rw [text block body, UInt8.xor_zero]
      exact one
  intro i _
  rw [chain, fittingCipher_counter (Nat.two_pow_pos 16), if_pos rfl, ← UInt8.xor_assoc,
    UInt8.xor_self, UInt8.zero_xor]

/-- With a counter of one byte, block 256 is decrypted by the block of the MIC. -/
theorem partsCounters_wraps : partsCounters mpdu dataLen key 256 = partsCounters mpdu dataLen key 0 :=
  rfl

theorem fittingCipher_wrapped (data : isDataFrame mpdu = true) :
    plainText (fittingCipher mpdu n filler) (partsCounters mpdu dataLen key) (ccmpText mpdu)
        oneByteLimit =
      ccmpText mpdu oneByteLimit ^^^ (ccmpText mpdu n ^^^ filler) := by
  change _ ^^^ byte (fittingCipher mpdu n filler (partsCounters mpdu dataLen key 256)) 0 = _
  rw [partsCounters_wraps, partsCounters_eq data (Nat.succ_pos 255),
    fittingCipher_counter (Nat.two_pow_pos 16), if_pos rfl]
  rfl

def fittingCrypto (mpdu : Memory) (n : Nat) (filler : UInt8) : SoftCrypto where
  tkipMixKey _ _ _ _ := Bytes.zero 16
  aesEncrypt _ := fittingCipher mpdu n filler

/-- A frame with more blocks is decrypted to different texts, or only by one of the two. -/
theorem not_agree_of_long (env : SoftEnv) (data : isDataFrame mpdu = true)
    (payload : mpdu 0 &&& 0x40 = 0) (keyed : key.keyLen ≠ 0) (length : dataLen.toNat = n + 16)
    (long : oneByteLimit < n) : ∃ crypto, ¬DecryptorsAgree crypto env mpdu dataLen key := by
  have bound := dataLen.isLt
  have small : n + 16 < 2 ^ 16 := by omega
  obtain ⟨filler, one, address, wrapped⟩ := exists_other 1 (1 ^^^ mpdu 16)
    (ccmpText mpdu oneByteLimit ^^^ ccmpText mpdu n)
  refine ⟨fittingCrypto mpdu n filler, ?_⟩
  intro agree
  obtain ⟨returned, whole⟩ :=
    @rtmpSoftDecryptAes_spec mpdu n (fittingCrypto mpdu n filler) key keyed data payload small
  obtain ⟨_, parts⟩ :=
    @rtmpSoftDecryptCcmp_spec mpdu dataLen key (fittingCrypto mpdu n filler) env n keyed data length
  have separate : filler ^^^ mpdu 16 ≠ 1 := by
    intro same
    apply address
    rw [← same, UInt8.xor_assoc, UInt8.xor_self, UInt8.xor_zero]
  have right := fittingCipher_mic data payload small one separate
  unfold DecryptorsAgree at agree
  rw [length] at agree
  obtain ⟨accepted, texts⟩ := agree
  obtain ⟨⟨text, outLen⟩, found⟩ := Option.isSome_iff_exists.mp (accepted.mp (returned.mpr right))
  obtain ⟨count, stands⟩ := parts text outLen found
  obtain ⟨_, same⟩ := texts text outLen found
  rw [count, whole, stands] at same
  have byte256 := congrArg (fun bytes : List UInt8 => bytes.getD oneByteLimit 0) same
  rw [getD_plainBytes long, getD_plainBytes long] at byte256
  change plainText (fittingCipher mpdu n filler) _ _ _ =
    plainText (fittingCipher mpdu n filler) _ _ _ at byte256
  rw [fittingCipher_wrapped data, fittingCipher_text small long, ← UInt8.xor_assoc,
    UInt8.xor_eq_zero_iff] at byte256
  exact wrapped byte256.symm

/-- The two agree under every block cipher if and only if the text has no more than 255 blocks, or
there is no key. -/
theorem decryptorsAgree_iff (mpdu : Memory) (dataLen : BitVec 16) (key : CipherKey) (env : SoftEnv)
    (data : isDataFrame mpdu = true) (payload : mpdu 0 &&& 0x40 = 0)
    (long : lenCcmpHdr + lenCcmpMic ≤ dataLen.toNat) :
    (∀ crypto, DecryptorsAgree crypto env mpdu dataLen key) ↔
      key.keyLen = 0 ∨ dataLen.toNat ≤ lenCcmpHdr + lenCcmpMic + 4080 := by
  have length := toNat_of_long long
  unfold lenCcmpHdr lenCcmpMic
  by_cases empty : key.keyLen = 0
  · refine iff_of_true (fun crypto => ?_) (Or.inl empty)
    have whole : (rtmpSoftDecryptAes crypto mpdu
        (BitVec.ofNat 32 (mpduHeaderLen mpdu + dataLen.toNat)) key).returned = false := by
      unfold rtmpSoftDecryptAes
      dsimp only
      rw [if_pos empty]
    have parts : rtmpSoftDecryptCcmp crypto env (mpduFrame mpdu dataLen key) = none := if_pos empty
    unfold DecryptorsAgree
    dsimp only
    rw [whole, parts]
    exact ⟨iff_of_false Bool.false_ne_true Bool.false_ne_true, fun _ _ found => by cases found⟩
  constructor
  · intro agree
    by_contra outside
    push Not at outside
    obtain ⟨crypto, other⟩ := not_agree_of_long env data payload empty length
      (by unfold oneByteLimit; omega)
    exact other (agree crypto)
  · rintro (none | short) crypto
    · exact absurd none empty
    · exact agree_of_short crypto env data payload empty length (by unfold oneByteLimit; omega)

/-- A frame of type Data without QoS, of zeros. -/
def zeroMpdu : Memory := fun address => if address = 0 then 0x08 else 0

def zeroCcmpKey : CipherKey := ⟨.aes, 16, Bytes.zero 16, Bytes.zero 8, Bytes.zero 8⟩

theorem decryptorsAgree_iff_zeroMpdu :
    (isDataFrame zeroMpdu = true ∧ zeroMpdu 0 &&& 0x40 = 0 ∧ lenCcmpHdr + lenCcmpMic ≤ 4096) ∧
      ((∀ crypto, DecryptorsAgree crypto readySoftEnv zeroMpdu 4096 zeroCcmpKey) ↔
        zeroCcmpKey.keyLen = 0 ∨ (4096 : BitVec 16).toNat ≤ lenCcmpHdr + lenCcmpMic + 4080) :=
  ⟨⟨rfl, rfl, by decide⟩,
    decryptorsAgree_iff zeroMpdu 4096 zeroCcmpKey readySoftEnv rfl rfl (by decide)⟩

/-- A text of 4081 bytes. -/
theorem not_decryptorsAgree :
    ¬∀ (crypto : SoftCrypto) (env : SoftEnv) (mpdu : Memory) (dataLen : BitVec 16)
        (key : CipherKey), isDataFrame mpdu = true → mpdu 0 &&& 0x40 = 0 →
      lenCcmpHdr + lenCcmpMic ≤ dataLen.toNat → DecryptorsAgree crypto env mpdu dataLen key := by
  intro always
  obtain ⟨crypto, other⟩ := @not_agree_of_long zeroMpdu 4097 zeroCcmpKey 4081 readySoftEnv rfl rfl
    (by decide) (by decide) (by decide)
  exact other (always crypto readySoftEnv zeroMpdu 4097 zeroCcmpKey rfl rfl (by decide))

end Agree

end Mt7612u.Wpa
