import Mt7612u.Crypto.CcmBlocks
import Mt7612u.Library.CcmReceiver
import Mt7612u.Wpa.SoftAccept

/-! `RTMPSoftDecryptAES`: the CCMP decryptor that is given a frame in one piece and chains its blocks
by itself. It is CCM, with a counter of two bytes. -/

namespace Mt7612u.Wpa
open Crypto (Cipher)
open Library.CcmFormat Library.CcmReceiver
open Receive (Memory)

section Model

/-- `qc_exists` of `RTMPSoftDecryptAES`, which does not look at the type of the frame. -/
def qosSubtype (mpdu : Memory) : Bool :=
  ([8, 9, 10, 11] : List UInt8).contains ((mpdu 0 >>> 4) &&& 0x0f)

/-- `HeaderLen`. -/
def mpduHeaderLen (mpdu : Memory) : Nat :=
  24 + (if a4Exists mpdu then 6 else 0) + if qosSubtype mpdu then 2 else 0

/-- The octet behind the flags, in the counters and in the IV of the MIC. -/
def qosPriority (mpdu : Memory) (a4Exists qcExists : Bool) : UInt8 :=
  if qcExists && a4Exists then mpdu 30 &&& 0x0f
  else if qcExists && !a4Exists then mpdu 24 &&& 0x0f
  else 0

/-- `construct_mic_header1`. -/
def constructMicHeader1 (headerLength : Nat) (mpdu : Memory) : Block :=
  ofList ([UInt8.ofNat ((headerLength - 2) / 256), UInt8.ofNat ((headerLength - 2) % 256),
    mpdu 0 &&& 0xcf, mpdu 1 &&& 0xc7] ++ mpdu.bytes 4 12)

/-- `construct_mic_header2`. -/
def constructMicHeader2 (mpdu : Memory) (a4Exists qcExists : Bool) : Block :=
  ofList (mpdu.bytes 16 6 ++ [mpdu 22 &&& 0x0f, 0] ++
    if !qcExists && a4Exists then mpdu.bytes 24 6
    else if qcExists && !a4Exists then [mpdu 24 &&& 0x0f, 0]
    else if qcExists && a4Exists then mpdu.bytes 24 6 ++ [mpdu 30 &&& 0x0f, 0]
    else [])

/-- `construct_mic_iv`; `CONSISTENT_PN_ORDER` is nowhere defined. -/
def constructMicIv (mpdu : Memory) (qcExists a4Exists : Bool) (payloadLength : Nat)
    (pnVector : List UInt8) : Block :=
  ofList ([0x59, qosPriority mpdu a4Exists qcExists] ++ mpdu.bytes 10 6 ++ pnVector.reverse ++
    [UInt8.ofNat (payloadLength / 256), UInt8.ofNat (payloadLength % 256)])

/-- `construct_ctr_preload`. -/
def constructCtrPreload (mpdu : Memory) (a4Exists qcExists : Bool) (pnVector : List UInt8)
    (c : Nat) : Block :=
  ofList ([0x01, qosPriority mpdu a4Exists qcExists] ++ mpdu.bytes 10 6 ++ pnVector.reverse ++
    [UInt8.ofNat (c / 256), UInt8.ofNat (c % 256)])

/-- `bitwise_xor`. -/
def bitwiseXor (first second : Block) : Block := fun i => first i ^^^ second i

theorem bitwiseXor_eq (first second : Block) : bitwiseXor first second = xorBlock first second := rfl

/-- `PN`, behind the header. -/
def ccmpHeaderPn (mpdu : Memory) (headerLen : Nat) : List UInt8 :=
  [mpdu headerLen, mpdu (headerLen + 1), mpdu (headerLen + 4), mpdu (headerLen + 5),
    mpdu (headerLen + 6), mpdu (headerLen + 7)]

/-- A block is decrypted and stored eight bytes before, where the CCMP header was. -/
def decryptAt (cipher : Cipher) (preload : Memory → Nat → Block) (pData : Memory)
    (payloadIndex count c : Nat) : Memory :=
  let aesOut := cipher (preload pData c)
  let chainBuffer := bitwiseXor aesOut (ofList (pData.bytes payloadIndex count))
  pData.write (payloadIndex - 8) ((List.range count).map (byte chainBuffer))

/-- The whole blocks of the payload and the short one. -/
def decryptPayload (cipher : Cipher) (preload : Memory → Nat → Block) (pData : Memory)
    (headerLen payloadLen : Nat) : Memory :=
  let numBlocks := payloadLen / 16
  let payloadRemainder := payloadLen % 16
  let whole := (List.range numBlocks).foldl (fun pData i =>
    decryptAt cipher preload pData (headerLen + 8 + 16 * i) 16 (i + 1)) pData
  if 0 < payloadRemainder then
    decryptAt cipher preload whole (headerLen + 8 + 16 * numBlocks) payloadRemainder (numBlocks + 1)
  else whole

/-- `aes_out` behind the blocks of the payload. -/
def chainPayload (cipher : Cipher) (pData : Memory) (headerLen payloadLen : Nat)
    (aesOut : Block) : Block :=
  let numBlocks := payloadLen / 16
  let payloadRemainder := payloadLen % 16
  let whole := (List.range numBlocks).foldl (fun aesOut i =>
    cipher (bitwiseXor aesOut (ofList (pData.bytes (headerLen + 16 * i) 16)))) aesOut
  if 0 < payloadRemainder then
    cipher (bitwiseXor whole (ofList (pData.bytes (headerLen + 16 * numBlocks) payloadRemainder)))
  else whole

structure AesResult where
  returned : Bool
  pData : Memory

/-- `RTMPSoftDecryptAES`; of `DataByteCnt` the lower 32 bits, which go into `payload_len`. -/
def rtmpSoftDecryptAes (crypto : SoftCrypto) (pData : Memory) (dataByteCnt : BitVec 32)
    (pWpaKey : CipherKey) : AesResult :=
  let a4 := a4Exists pData
  let qc := qosSubtype pData
  let headerLen := mpduHeaderLen pData
  if pWpaKey.keyLen = 0 then ⟨false, pData⟩
  else
    let cipher := crypto.aesEncrypt pWpaKey.key
    let pn := ccmpHeaderPn pData headerLen
    let payloadLen := (dataByteCnt - BitVec.ofNat 32 headerLen - 8 - 8).toNat
    let preload := fun mpdu => constructCtrPreload mpdu a4 qc pn
    let decrypted := decryptPayload cipher preload pData headerLen payloadLen
    let trailMic := bitwiseXor (cipher (preload decrypted 0))
      (ofList (decrypted.bytes (headerLen + 8 + payloadLen) 8))
    -- "Force the protected frame bit on"
    let mpdu := decrypted.write 1 [decrypted 1 ||| 0x40]
    let aesOut := cipher (constructMicIv mpdu qc a4 payloadLen pn)
    let aesOut := cipher (bitwiseXor aesOut (constructMicHeader1 headerLen mpdu))
    let aesOut := cipher (bitwiseXor aesOut (constructMicHeader2 mpdu a4 qc))
    let mic := chainPayload cipher mpdu headerLen payloadLen aesOut
    ⟨decide (∀ i : Fin 16, i.val < lenCcmpMic → mic i = trailMic i), mpdu⟩

end Model

section Payload

variable {cipher : Cipher} {preload : Memory → Nat → Block} {mpdu pData : Memory}
  {headerLen length : Nat}

/-- The first bytes of the payload stand decrypted behind the header; nothing else is changed. -/
def DecryptedTo (cipher : Cipher) (counter : Nat → Block) (mpdu : Memory)
    (headerLen length : Nat) (pData : Memory) : Prop :=
  ∀ address, pData address =
    if headerLen ≤ address ∧ address < headerLen + length then
      mpdu (address + 8) ^^^
        byte (cipher (counter ((address - headerLen) / 16 + 1))) ((address - headerLen) % 16)
    else mpdu address

/-- What the counters are made of is not in the payload. -/
def ReadsHeader (preload : Memory → Nat → Block) (mpdu : Memory) (headerLen : Nat) : Prop :=
  ∀ pData : Memory, (∀ address < headerLen, pData address = mpdu address) →
    preload pData = preload mpdu

theorem getD_bytes_from {mem : Memory} {start count k : Nat} (inside : k < count) :
    (mem.bytes start count).getD k 0 = mem (start + k) := by
  rw [List.getD_eq_getElem _ _ (by rwa [Memory.length_bytes])]
  simp [Memory.bytes]

/-- One more block, which may be shorter. -/
theorem DecryptedTo.decryptAt (reads : ReadsHeader preload mpdu headerLen) {blocks count : Nat}
    (done : DecryptedTo cipher (preload mpdu) mpdu headerLen (16 * blocks) pData)
    (short : count ≤ 16) :
    DecryptedTo cipher (preload mpdu) mpdu headerLen (16 * blocks + count)
      (decryptAt cipher preload pData (headerLen + 8 + 16 * blocks) count (blocks + 1)) := by
  have same : preload pData = preload mpdu := by
    apply reads
    intro address before
    rw [done address, if_neg (by omega)]
  intro address
  unfold Wpa.decryptAt
  rw [same, Crypto.write_map_range]
  by_cases inside : headerLen + 16 * blocks ≤ address ∧ address < headerLen + 16 * blocks + count
  · obtain ⟨k, rfl⟩ : ∃ k, address = headerLen + 16 * blocks + k :=
      ⟨address - (headerLen + 16 * blocks), by omega⟩
    have place : headerLen + 16 * blocks + k - (headerLen + 8 + 16 * blocks - 8) = k := by omega
    have block : (headerLen + 16 * blocks + k - headerLen) / 16 + 1 = blocks + 1 := by omega
    have offset : (headerLen + 16 * blocks + k - headerLen) % 16 = k := by omega
    have ahead : headerLen + 8 + 16 * blocks + k = headerLen + 16 * blocks + k + 8 := by omega
    rw [if_pos (by omega), if_pos (by omega), place, block, offset, bitwiseXor_eq, byte_xorBlock,
      byte_ofList (by omega), getD_bytes_from (by omega), ahead, done, if_neg (by omega),
      UInt8.xor_comm]
  · rw [if_neg (by omega), done address]
    by_cases before : headerLen ≤ address ∧ address < headerLen + 16 * blocks
    · rw [if_pos before, if_pos (by omega)]
    · rw [if_neg before, if_neg (by omega)]

/-- The whole blocks. -/
theorem decryptedTo_blocks (reads : ReadsHeader preload mpdu headerLen) (blocks : Nat) :
    DecryptedTo cipher (preload mpdu) mpdu headerLen (16 * blocks)
      ((List.range blocks).foldl (fun pData i =>
        decryptAt cipher preload pData (headerLen + 8 + 16 * i) 16 (i + 1)) mpdu) := by
  induction blocks with
  | zero =>
    intro address
    rw [if_neg (by omega)]
    rfl
  | succ blocks ih =>
    rw [List.range_succ, List.foldl_append]
    exact ih.decryptAt reads le_rfl

theorem decryptedTo_payload (reads : ReadsHeader preload mpdu headerLen) :
    DecryptedTo cipher (preload mpdu) mpdu headerLen length
      (decryptPayload cipher preload mpdu headerLen length) := by
  have whole := @decryptedTo_blocks cipher _ _ _ reads (length / 16)
  unfold decryptPayload
  dsimp only
  split_ifs with more
  · have last := whole.decryptAt reads (Nat.mod_lt length (Nat.succ_pos 15)).le
    rwa [Nat.div_add_mod] at last
  · have even : 16 * (length / 16) = length := by omega
    rwa [even] at whole

end Payload

section Chain

variable {cipher : Cipher} {pData : Memory} {headerLen length : Nat}

/-- The bytes of one block of a text. -/
theorem ofList_drop_bytes {k : Nat} (inside : 16 * k ≤ length) :
    ofList ((pData.bytes headerLen length).drop (16 * k)) =
      ofList (pData.bytes (headerLen + 16 * k) (min (length - 16 * k) 16)) := by
  obtain ⟨rest, rfl⟩ : ∃ rest, length = 16 * k + rest := ⟨length - 16 * k, by omega⟩
  rw [Memory.bytes_append, List.drop_left' (Memory.length_bytes ..), Nat.add_sub_cancel_left,
    ← Crypto.ofList_take]
  by_cases short : rest ≤ 16
  · rw [min_eq_left short, List.take_of_length_le (by rw [Memory.length_bytes]; exact short)]
  · obtain ⟨more, rfl⟩ : ∃ more, rest = 16 + more := ⟨rest - 16, by omega⟩
    rw [min_eq_right (by omega), Memory.bytes_append, List.take_left' (Memory.length_bytes ..)]

/-- The payload is chained block by block. -/
theorem chainPayload_eq (aesOut : Block) :
    chainPayload cipher pData headerLen length aesOut =
      chained cipher (blocksOf (pData.bytes headerLen length)) aesOut := by
  have whole : ∀ blocks, 16 * blocks ≤ length →
      (List.range blocks).foldl (fun aesOut i =>
          cipher (bitwiseXor aesOut (ofList (pData.bytes (headerLen + 16 * i) 16)))) aesOut =
        chained cipher ((List.range blocks).map fun j =>
          ofList ((pData.bytes headerLen length).drop (16 * j))) aesOut := by
    intro blocks inside
    unfold chained
    rw [List.foldl_map]
    apply List.foldl_ext
    intro mac k member
    have before := List.mem_range.mp member
    rw [ofList_drop_bytes (by omega), min_eq_right (by omega), bitwiseXor_eq]
  unfold chainPayload blocksOf
  dsimp only
  rw [Memory.length_bytes, whole _ (by omega)]
  split_ifs with more
  · have count : (length + 15) / 16 = length / 16 + 1 := by omega
    have rest : min (length - 16 * (length / 16)) 16 = length % 16 := by omega
    rw [count, List.range_succ, List.map_append, chained_append, List.map_singleton,
      ofList_drop_bytes (by omega), rest]
    rfl
  · have count : (length + 15) / 16 = length / 16 := by omega
    rw [count]

end Chain

section Header

variable {mpdu pData : Memory}

/-- What stands behind the header. -/
def mpduBody (mpdu : Memory) : Memory := fun address => mpdu (mpduHeaderLen mpdu + address)

theorem qcExists_of_data (data : isDataFrame mpdu = true) : qcExists mpdu = qosSubtype mpdu := by
  unfold qcExists qosSubtype
  rw [data, Bool.true_and]

theorem qosPriority_eq (qc : Bool) :
    qosPriority mpdu (a4Exists mpdu) qc = if qc then qosTid mpdu else 0 := by
  unfold qosPriority qosTid
  cases a4Exists mpdu <;> cases qc <;> rfl

/-- The nonce, as the other decryptor makes it. -/
theorem nonce_eq (data : isDataFrame mpdu = true) :
    rtmpConstructCcmpNonce mpdu (mpduBody mpdu) =
      qosPriority mpdu (a4Exists mpdu) (qosSubtype mpdu) ::
        (mpdu.bytes 10 6 ++ (ccmpHeaderPn mpdu (mpduHeaderLen mpdu)).reverse) := by
  rw [qosPriority_eq, ← qcExists_of_data data]
  rfl

theorem length_nonce (mpdu body : Memory) : (rtmpConstructCcmpNonce mpdu body).length = 13 := by
  unfold rtmpConstructCcmpNonce
  simp

theorem bigEndian_two (value : Nat) :
    bigEndian 2 value = [UInt8.ofNat (value / 256), UInt8.ofNat (value % 256)] := by
  have last : UInt8.ofNat value = UInt8.ofNat (value % 256) := by
    apply UInt8.toNat_inj.mp
    simp
  rw [← last]
  rfl

/-- Flags, nonce and a number of two bytes. -/
theorem ofList_nonce (data : isDataFrame mpdu = true) (flags : UInt8) (value : Nat) :
    ofList (flags :: (rtmpConstructCcmpNonce mpdu (mpduBody mpdu) ++ bigEndian 2 value)) =
      ofList ([flags, qosPriority mpdu (a4Exists mpdu) (qosSubtype mpdu)] ++ mpdu.bytes 10 6 ++
        (ccmpHeaderPn mpdu (mpduHeaderLen mpdu)).reverse ++
          [UInt8.ofNat (value / 256), UInt8.ofNat (value % 256)]) := by
  rw [nonce_eq data, bigEndian_two]
  congr 1

theorem constructCtrPreload_eq (data : isDataFrame mpdu = true) (c : Nat) :
    constructCtrPreload mpdu (a4Exists mpdu) (qosSubtype mpdu)
        (ccmpHeaderPn mpdu (mpduHeaderLen mpdu)) c =
      counterBlock (rtmpConstructCcmpNonce mpdu (mpduBody mpdu)) c := by
  unfold counterBlock lengthField
  rw [length_nonce]
  exact (ofList_nonce data _ c).symm

theorem constructMicIv_eq (data : isDataFrame mpdu = true) (payloadLength : Nat) :
    constructMicIv mpdu (qosSubtype mpdu) (a4Exists mpdu) payloadLength
        (ccmpHeaderPn mpdu (mpduHeaderLen mpdu)) =
      firstBlock (rtmpConstructCcmpNonce mpdu (mpduBody mpdu)) lenCcmpMic true payloadLength := by
  unfold firstBlock lengthField
  rw [length_nonce]
  exact (ofList_nonce data _ payloadLength).symm

/-- The frame with its header as it was, but for the protected bit. -/
structure Protected (mpdu pData : Memory) : Prop where
  bit : pData 1 = mpdu 1 ||| 0x40
  header : ∀ address < mpduHeaderLen mpdu, address ≠ 1 → pData address = mpdu address

theorem bytes_congr_within {first second : Memory} {start count : Nat}
    (agree : ∀ address, start ≤ address → address < start + count → first address = second address) :
    first.bytes start count = second.bytes start count := by
  apply List.map_congr_left
  intro i member
  have inside := List.mem_range.mp member
  exact agree _ (by omega) (by omega)

theorem mpduHeaderLen_ge (mpdu : Memory) : 24 ≤ mpduHeaderLen mpdu := by
  unfold mpduHeaderLen
  omega

theorem mpduHeaderLen_le (mpdu : Memory) : mpduHeaderLen mpdu ≤ 32 := by
  unfold mpduHeaderLen
  split_ifs <;> omega

/-- The bit is set where the header was left as it is. -/
theorem protected_write (header : ∀ address < mpduHeaderLen mpdu, pData address = mpdu address) :
    Protected mpdu (pData.write 1 [pData 1 ||| 0x40]) := by
  have long := mpduHeaderLen_ge mpdu
  constructor
  · rw [← header 1 (by omega)]
    rfl
  · intro address inside other
    rw [← header address inside]
    rcases Nat.lt_or_gt_of_ne other with before | behind
    · exact Memory.write_before _ _ before
    · exact Memory.write_after _ behind

theorem Protected.bytes (same : Protected mpdu pData) {start count : Nat} (behind : 2 ≤ start)
    (inside : start + count ≤ mpduHeaderLen mpdu) :
    pData.bytes start count = mpdu.bytes start count :=
  bytes_congr_within fun address above below => same.header address (by omega) (by omega)

/-- The octet is in the header when it is read. -/
theorem qosPriority_congr (agree : ∀ address < mpduHeaderLen mpdu, address ≠ 1 →
      pData address = mpdu address) :
    qosPriority pData (a4Exists mpdu) (qosSubtype mpdu) =
      qosPriority mpdu (a4Exists mpdu) (qosSubtype mpdu) := by
  unfold mpduHeaderLen at agree
  unfold qosPriority
  cases four : a4Exists mpdu <;> cases qos : qosSubtype mpdu
  · rfl
  · rw [four, qos] at agree
    exact congrArg (· &&& 0x0f) (agree 24 (by decide) (by decide))
  · rfl
  · rw [four, qos] at agree
    exact congrArg (· &&& 0x0f) (agree 30 (by decide) (by decide))

theorem constructCtrPreload_readsHeader (pn : List UInt8) :
    ReadsHeader (fun pData => constructCtrPreload pData (a4Exists mpdu) (qosSubtype mpdu) pn) mpdu
      (mpduHeaderLen mpdu) := by
  intro pData agree
  have long := mpduHeaderLen_ge mpdu
  funext c
  dsimp only
  unfold constructCtrPreload
  rw [qosPriority_congr fun address inside _ => agree address inside,
    bytes_congr_within fun address _ below => agree address (by omega)]

theorem constructMicIv_protected (same : Protected mpdu pData) (payloadLength : Nat)
    (pn : List UInt8) :
    constructMicIv pData (qosSubtype mpdu) (a4Exists mpdu) payloadLength pn =
      constructMicIv mpdu (qosSubtype mpdu) (a4Exists mpdu) payloadLength pn := by
  have long := mpduHeaderLen_ge mpdu
  unfold constructMicIv
  rw [qosPriority_congr same.header, same.bytes (by omega) (by omega)]

theorem length_aad (data : isDataFrame mpdu = true) :
    (rtmpConstructCcmpAad mpdu).length + 2 = mpduHeaderLen mpdu := by
  unfold rtmpConstructCcmpAad mpduHeaderLen
  rw [qcExists_of_data data]
  cases a4Exists mpdu <;> cases qosSubtype mpdu <;> simp

/-- The muted bits of the first octet, where the subtype is one with a payload. -/
theorem mute_subtype {octet : UInt8} (payload : octet &&& 0x40 = 0) :
    octet &&& 0xcf = octet &&& 0x8f := by
  have both : octet &&& 0xcf = octet &&& 0x8f ||| octet &&& 0x40 := by
    apply UInt8.toBitVec_inj.mp
    simp only [UInt8.toBitVec_and, UInt8.toBitVec_or, ← BitVec.and_or_distrib_left]
    rfl
  rw [both, payload, UInt8.or_zero]

theorem mute_flags (octet : UInt8) : (octet ||| 0x40) &&& 0xc7 = octet &&& 0xc7 ||| 0x40 := by
  apply UInt8.toBitVec_inj.mp
  simp only [UInt8.toBitVec_and, UInt8.toBitVec_or, BitVec.and_or_distrib_right]
  rfl

/-- The fields that not every header has. -/
def headerTail (mpdu : Memory) : List UInt8 :=
  (if a4Exists mpdu then mpdu.bytes 24 6 else []) ++
    if qosSubtype mpdu then [qosTid mpdu, 0] else []

theorem micHeader2_tail (same : Protected mpdu pData) :
    constructMicHeader2 pData (a4Exists mpdu) (qosSubtype mpdu) =
      ofList (mpdu.bytes 16 6 ++ [mpdu 22 &&& 0x0f, 0] ++ headerTail mpdu) := by
  have long := mpduHeaderLen_ge mpdu
  have third : pData.bytes 16 6 = mpdu.bytes 16 6 := same.bytes (by omega) (by omega)
  have sequence : pData 22 = mpdu 22 := same.header 22 (by omega) (by omega)
  have fourth : a4Exists mpdu = true → pData.bytes 24 6 = mpdu.bytes 24 6 := by
    intro four
    apply same.bytes (by omega)
    unfold mpduHeaderLen
    rw [if_pos four]
    omega
  unfold constructMicHeader2 headerTail qosTid
  rw [third, sequence]
  cases four : a4Exists mpdu with
  | false =>
    cases qos : qosSubtype mpdu with
    | false => rfl
    | true =>
      have control : pData 24 = mpdu 24 := by
        apply same.header _ _ (by omega)
        unfold mpduHeaderLen
        rw [if_pos qos]
        omega
      rw [control]
      rfl
  | true =>
    rw [fourth four]
    cases qos : qosSubtype mpdu with
    | false => simp
    | true =>
      have control : pData 30 = mpdu 30 := by
        apply same.header _ _ (by omega)
        unfold mpduHeaderLen
        rw [if_pos four, if_pos qos]
        omega
      rw [control]
      rfl

/-- The associated data, as the other decryptor makes them. -/
theorem aad_eq (data : isDataFrame mpdu = true) :
    rtmpConstructCcmpAad mpdu = [mpdu 0 &&& 0x8f, mpdu 1 &&& 0xc7 ||| 0x40] ++ mpdu.bytes 4 12 ++
      (mpdu.bytes 16 6 ++ [mpdu 22 &&& 0x0f, 0] ++ headerTail mpdu) := by
  have addresses : mpdu.bytes 4 18 = mpdu.bytes 4 12 ++ mpdu.bytes 16 6 :=
    mpdu.bytes_append 4 12 6
  unfold rtmpConstructCcmpAad headerTail
  rw [qcExists_of_data data, if_pos data, addresses]
  simp only [List.append_assoc, List.cons_append, List.nil_append]

/-- The blocks in front of the payload are those of the associated data. -/
theorem micHeaders_eq (data : isDataFrame mpdu = true) (payload : mpdu 0 &&& 0x40 = 0)
    (same : Protected mpdu pData) :
    blocksOf (encodedLength (rtmpConstructCcmpAad mpdu).length ++ rtmpConstructCcmpAad mpdu) =
      [constructMicHeader1 (mpduHeaderLen mpdu) pData,
        constructMicHeader2 pData (a4Exists mpdu) (qosSubtype mpdu)] := by
  have long := mpduHeaderLen_ge mpdu
  have length := length_aad data
  have most := mpduHeaderLen_le mpdu
  have size : (rtmpConstructCcmpAad mpdu).length = mpduHeaderLen mpdu - 2 := by omega
  have encoded : encodedLength (rtmpConstructCcmpAad mpdu).length =
      bigEndian 2 (rtmpConstructCcmpAad mpdu).length := if_pos (by omega)
  have first : pData 0 = mpdu 0 := same.header 0 (by omega) (by omega)
  have addresses : pData.bytes 4 12 = mpdu.bytes 4 12 := same.bytes (by omega) (by omega)
  have rest : (mpdu.bytes 16 6 ++ [mpdu 22 &&& 0x0f, 0] ++ headerTail mpdu).length + 16 =
      mpduHeaderLen mpdu := by
    rw [aad_eq data, List.length_append, List.length_append, Memory.length_bytes] at length
    simp only [List.length_cons, List.length_nil] at length
    omega
  rw [encoded, bigEndian_two, size, aad_eq data, ← List.append_assoc, blocksOf_two _ _ (by omega),
    micHeader2_tail same]
  · unfold constructMicHeader1
    rw [first, same.bit, mute_flags, mute_subtype payload, addresses]
    rfl
  · simp
  · simp

end Header

section Verdict

variable (cipher : Cipher) (mpdu : Memory) (n : Nat)

/-- The nonce of a frame. -/
def mpduNonce : List UInt8 := rtmpConstructCcmpNonce mpdu (mpduBody mpdu)

/-- What stands behind the CCMP header. -/
def ccmpText : Memory := fun k => mpduBody mpdu (lenCcmpHdr + k)

variable {cipher mpdu n}

/-- The blocks of the MIC, header by header. -/
theorem macBlocks_mpdu {pData : Memory} (data : isDataFrame mpdu = true)
    (payload : mpdu 0 &&& 0x40 = 0) (same : Protected mpdu pData) (text : List UInt8) :
    macBlocks (mpduNonce mpdu) lenCcmpMic (rtmpConstructCcmpAad mpdu) text =
      [constructMicIv mpdu (qosSubtype mpdu) (a4Exists mpdu) text.length
        (ccmpHeaderPn mpdu (mpduHeaderLen mpdu))] ++
      ([constructMicHeader1 (mpduHeaderLen mpdu) pData,
        constructMicHeader2 pData (a4Exists mpdu) (qosSubtype mpdu)] ++ blocksOf text) := by
  have some_ : (rtmpConstructCcmpAad mpdu).isEmpty = false := by
    have count := length_aad data
    have long := mpduHeaderLen_ge mpdu
    rw [List.isEmpty_eq_false_iff]
    apply List.ne_nil_of_length_pos
    omega
  unfold macBlocks
  rw [some_, if_neg Bool.false_ne_true, micHeaders_eq data payload same, constructMicIv_eq data]
  rfl

/-- The chain of `RTMPSoftDecryptAES` is the one of CCM. -/
theorem aesMic_eq {pData : Memory} (data : isDataFrame mpdu = true)
    (payload : mpdu 0 &&& 0x40 = 0) (same : Protected mpdu pData) {text : List UInt8}
    (length : text.length = n) (stands : pData.bytes (mpduHeaderLen mpdu) n = text) :
    chainPayload cipher pData (mpduHeaderLen mpdu) n
        (cipher (bitwiseXor
          (cipher (bitwiseXor
            (cipher (constructMicIv pData (qosSubtype mpdu) (a4Exists mpdu) n
              (ccmpHeaderPn mpdu (mpduHeaderLen mpdu))))
            (constructMicHeader1 (mpduHeaderLen mpdu) pData)))
          (constructMicHeader2 pData (a4Exists mpdu) (qosSubtype mpdu)))) =
      chained cipher (macBlocks (mpduNonce mpdu) lenCcmpMic (rtmpConstructCcmpAad mpdu) text)
        nullBlock := by
  rw [macBlocks_mpdu data payload same, length, constructMicIv_protected same, chainPayload_eq,
    stands, chained_append, chained_append, chained_one]
  rfl

/-- The text stands behind the header. -/
theorem DecryptedTo.bytes {counters : Nat → Block} {pData : Memory}
    (done : DecryptedTo cipher counters mpdu (mpduHeaderLen mpdu) n pData) :
    pData.bytes (mpduHeaderLen mpdu) n = plainBytes cipher counters (ccmpText mpdu) n := by
  unfold plainBytes Memory.bytes
  apply List.map_congr_left
  intro k member
  have inside := List.mem_range.mp member
  rw [done, if_pos (by omega), Nat.add_sub_cancel_left]
  unfold plainText ccmpText mpduBody lenCcmpHdr
  rw [Nat.add_assoc, Nat.add_comm k 8]

/-- The MIC is left where it was. -/
theorem DecryptedTo.mic {counters : Nat → Block} {pData : Memory}
    (done : DecryptedTo cipher counters mpdu (mpduHeaderLen mpdu) n pData) {i : Fin 16}
    (inside : i.val < 8) :
    ofList (pData.bytes (mpduHeaderLen mpdu + 8 + n) 8) i = ccmpText mpdu (n + i) := by
  have place : mpduHeaderLen mpdu + 8 + n + i = mpduHeaderLen mpdu + (8 + (n + i)) := by omega
  refine (getD_bytes_from inside).trans ?_
  rw [done, if_neg (by omega), place]
  rfl

theorem toNat_payloadLen (fits : n + 16 < 2 ^ 16) :
    (BitVec.ofNat 32 (mpduHeaderLen mpdu + (n + 16)) - BitVec.ofNat 32 (mpduHeaderLen mpdu) - 8 -
      8).toNat = n := by
  have most := mpduHeaderLen_le mpdu
  bv_omega

/-- `RTMPSoftDecryptAES` is the decryption of CCM. -/
theorem rtmpSoftDecryptAes_spec {crypto : SoftCrypto} {key : CipherKey} (keyed : key.keyLen ≠ 0)
    (data : isDataFrame mpdu = true) (payload : mpdu 0 &&& 0x40 = 0) (fits : n + 16 < 2 ^ 16) :
    let result := rtmpSoftDecryptAes crypto mpdu
      (BitVec.ofNat 32 (mpduHeaderLen mpdu + (n + 16))) key
    let cipher := crypto.aesEncrypt key.key
    let counters := counterBlock (mpduNonce mpdu)
    (result.returned = true ↔ Accepts cipher counters (mpduNonce mpdu) (rtmpConstructCcmpAad mpdu)
        lenCcmpMic (ccmpText mpdu) n) ∧
      result.pData.bytes (mpduHeaderLen mpdu) n = plainBytes cipher counters (ccmpText mpdu) n := by
  have long := mpduHeaderLen_ge mpdu
  unfold rtmpSoftDecryptAes
  dsimp only
  rw [if_neg keyed, toNat_payloadLen fits]
  dsimp only
  have reads := @constructCtrPreload_readsHeader mpdu (ccmpHeaderPn mpdu (mpduHeaderLen mpdu))
  have done := @decryptedTo_payload (crypto.aesEncrypt key.key) _ mpdu (mpduHeaderLen mpdu) n reads
  generalize decryptPayload (crypto.aesEncrypt key.key) _ mpdu (mpduHeaderLen mpdu) n =
    decrypted at done ⊢
  have header : ∀ address < mpduHeaderLen mpdu, decrypted address = mpdu address := by
    intro address before
    rw [done address, if_neg (by omega)]
  have counting : constructCtrPreload mpdu (a4Exists mpdu) (qosSubtype mpdu)
      (ccmpHeaderPn mpdu (mpduHeaderLen mpdu)) = counterBlock (mpduNonce mpdu) :=
    funext (constructCtrPreload_eq data)
  have preload : constructCtrPreload decrypted (a4Exists mpdu) (qosSubtype mpdu)
      (ccmpHeaderPn mpdu (mpduHeaderLen mpdu)) = counterBlock (mpduNonce mpdu) :=
    (reads decrypted header).trans counting
  have same := protected_write header
  rw [counting] at done
  have stands : (decrypted.write 1 [decrypted 1 ||| 0x40]).bytes (mpduHeaderLen mpdu) n =
      plainBytes (crypto.aesEncrypt key.key) (counterBlock (mpduNonce mpdu)) (ccmpText mpdu) n := by
    rw [← done.bytes]
    exact bytes_congr_within fun address above _ => Memory.write_after _ (by
      rw [List.length_singleton]
      omega)
  refine ⟨?_, stands⟩
  rw [decide_eq_true_iff, aesMic_eq data payload same length_plainBytes stands, preload]
  apply forall_congr'
  intro i
  apply forall_congr'
  intro inside
  unfold bitwiseXor
  rw [done.mic inside, UInt8.xor_comm]

end Verdict

end Mt7612u.Wpa
