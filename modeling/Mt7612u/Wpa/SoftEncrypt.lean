import Mt7612u.Crypto.CcmRoundTrip
import Mt7612u.Wpa.SoftAccept

/-! `RTMPSoftConstructIVHdr` and `RTMPSoftEncryptionAction`, and what becomes of their frames in
`RTMPSoftDecryptionAction`. -/

namespace Mt7612u.Wpa
open Crypto (Arc4Ctx CcmParameters aesCcmEncrypt)
open Receive (Memory)

def lenWepTsc : Nat := 3

/-- `RTMPConstructWEPIVHdr`. -/
def rtmpConstructWepIvHdr (keyIdx : UInt8) (pn : Memory) : List UInt8 :=
  pn.bytes 0 lenWepTsc ++ [keyIdx <<< 6]

/-- `RTMPConstructCCMPHdr`. -/
def rtmpConstructCcmpHdr (keyIdx : UInt8) (pn : Memory) : List UInt8 :=
  [pn 0, pn 1, 0, (keyIdx <<< 6) ||| 0x20, pn 2, pn 3, pn 4, pn 5]

/-- `RTMPSoftConstructIVHdr`: the IV header, and with it its length. -/
def rtmpSoftConstructIvHdr (cipherAlg : CipherAlg) (keyId : UInt8) (pTxIv : Memory) : List UInt8 :=
  match cipherAlg with
  | .wep64 | .wep128 => rtmpConstructWepIvHdr keyId pTxIv
  | .aes => rtmpConstructCcmpHdr keyId pTxIv
  | .tkip | .none => []

/-- `RTMPSoftEncryptWEP`: whether it succeeds, and the buffer. -/
def rtmpSoftEncryptWep (env : SoftEnv) (pIvHdr : Memory) (key : CipherKey) (data : Memory)
    (dataByteCnt : Nat) : Bool × Memory :=
  if !env.arc4Ctx then (false, data)
  else if key.keyLen = 0 then (false, data)
  else
    let ctx := rtmpInitWepEngine env (pIvHdr.bytes 0 3) key
    let data := data.write dataByteCnt (le32Bytes (icvOf (data.bytes 0 dataByteCnt)))
    (true, data.write 0 (ctx.compute (data.bytes 0 (dataByteCnt + lenIcv))))

/-- The parameters of CCM that `RTMPSoftEncryptCCMP` makes of a header and a packet number. -/
def ccmpEncryptOf (hdr pn : Memory) : CcmParameters :=
  let nonce := [if qcExists hdr then qosTid hdr else 0] ++ hdr.bytes 10 6 ++
    [pn 5, pn 4, pn 3, pn 2, pn 1, pn 0]
  { keyLength := 16
    nonce := Memory.write (fun _ => 0) 0 nonce
    nonceLength := nonce.length
    aad := Memory.write (fun _ => 0) 0 (rtmpConstructCcmpAad hdr)
    aadLength := BitVec.ofNat 32 (rtmpConstructCcmpAad hdr).length
    macLength := lenCcmpMic }

/-- `RTMPSoftEncryptCCMP`. -/
def rtmpSoftEncryptCcmp (crypto : SoftCrypto) (hdr pIv : Memory) (key : Bytes 16) (data : Memory)
    (dataLen : BitVec 32) : Bool × Memory :=
  match aesCcmEncrypt (crypto.aesEncrypt key) (ccmpEncryptOf hdr pIv) data dataLen data
      (dataLen + 8) with
  | .ok out => (true, out.cipherText)
  | .error _ => (false, data)

/-- `RTMPSoftEncryptionAction`: the buffer and `ext_len`. What the encryption returns is not looked at. -/
def rtmpSoftEncryptionAction (crypto : SoftCrypto) (env : SoftEnv) (cipherAlg : CipherAlg)
    (hdr data : Memory) (srcBufLen : BitVec 32) (key : CipherKey) (txTsc : Memory) :
    Memory × Nat :=
  match cipherAlg with
  | .wep64 | .wep128 => ((rtmpSoftEncryptWep env txTsc key data srcBufLen.toNat).2, lenIcv)
  | .aes => ((rtmpSoftEncryptCcmp crypto hdr txTsc key.key data srcBufLen).2, lenCcmpMic)
  | .tkip | .none => (data, 0)

/-- An MPDU that is to be sent, with its key and the `TxTsc` of the key. -/
structure PlainFrame where
  hdr : Memory
  key : CipherKey
  keyId : UInt8
  txTsc : Memory
  data : Memory
  srcBufLen : BitVec 32

/-- A body behind an IV header. -/
def behindIv (iv : List UInt8) (body : Memory) : Memory := fun address =>
  if address < iv.length then iv.getD address 0 else body (address - iv.length)

variable (crypto : SoftCrypto) (env : SoftEnv) (plain : PlainFrame)

def PlainFrame.iv : List UInt8 :=
  rtmpSoftConstructIvHdr plain.key.cipherAlg plain.keyId plain.txTsc

/-- The encrypted body and what was added to its length. -/
def PlainFrame.sealed : Memory × Nat :=
  rtmpSoftEncryptionAction crypto env plain.key.cipherAlg plain.hdr plain.data plain.srcBufLen
    plain.key plain.txTsc

/-- The length of the frame behind its header. -/
def PlainFrame.length : Nat :=
  plain.iv.length + plain.srcBufLen.toNat + (plain.sealed crypto env).2

/-- The frame as it is received, with the header that it has then. -/
def PlainFrame.received (hdr : Memory) (userPriority : UInt8) : SoftFrame where
  hdr := hdr
  userPriority := userPriority
  key := plain.key
  data := behindIv plain.iv (plain.sealed crypto env).1
  dataByteCnt := BitVec.ofNat 16 (plain.length crypto env)

/-- A header in which no more was changed than Retry, Power Management and More Data, the sequence
number and, of a QoS field, all but the TID. -/
structure SameMpdu (hdr hdr' : Memory) : Prop where
  frameType : hdr' 0 = hdr 0
  flags : hdr' 1 &&& 0xc7 = hdr 1 &&& 0xc7
  addresses : ∀ i, 2 ≤ i → i < 22 → hdr' i = hdr i
  fragment : hdr' 22 &&& 0x0f = hdr 22 &&& 0x0f
  tid : qcExists hdr = true → qosTid hdr' = qosTid hdr
  rest : ∀ i, 24 ≤ i → ¬ (qcExists hdr = true ∧
    (i = (if a4Exists hdr then 30 else 24) ∨ i = (if a4Exists hdr then 31 else 25))) →
      hdr' i = hdr i

/-- What is received is decrypted to the text and its length. -/
def ComesBack (env' : SoftEnv) (hdr' : Memory) (userPriority : UInt8) : Prop :=
  let result := rtmpSoftDecryptionAction crypto env'
    (plain.received crypto env hdr' userPriority)
  result.status = ndisStatusSuccess ∧ result.dataByteCnt.toNat = plain.srcBufLen.toNat ∧
    ∃ data, result.data = some data ∧
      data.bytes 0 plain.srcBufLen.toNat = plain.data.bytes 0 plain.srcBufLen.toNat

section Header

namespace SameMpdu

variable {hdr hdr' : Memory}

/-- Bits that are covered by the mask of the flags are the same. -/
theorem flag (same : SameMpdu hdr hdr') {mask : UInt8} (covered : 0xc7 &&& mask = mask) :
    hdr' 1 &&& mask = hdr 1 &&& mask := by
  rw [← covered, ← UInt8.and_assoc, ← UInt8.and_assoc, same.flags]

theorem toDs (same : SameMpdu hdr hdr') : toDs hdr' = toDs hdr := by
  unfold Wpa.toDs
  rw [same.flag (by decide)]

theorem fromDs (same : SameMpdu hdr hdr') : fromDs hdr' = fromDs hdr := by
  unfold Wpa.fromDs
  rw [same.flag (by decide)]

theorem a4Exists (same : SameMpdu hdr hdr') : a4Exists hdr' = a4Exists hdr := by
  unfold Wpa.a4Exists
  rw [same.toDs, same.fromDs]

theorem isDataFrame (same : SameMpdu hdr hdr') : isDataFrame hdr' = isDataFrame hdr := by
  unfold Wpa.isDataFrame
  rw [same.frameType]

theorem qcExists (same : SameMpdu hdr hdr') : qcExists hdr' = qcExists hdr := by
  unfold Wpa.qcExists
  rw [same.isDataFrame, same.frameType]

theorem bytes (same : SameMpdu hdr hdr') {start count : Nat} (behind : 2 ≤ start)
    (before : start + count ≤ 22) : hdr'.bytes start count = hdr.bytes start count := by
  apply List.map_congr_left
  intro i member
  have inside := List.mem_range.mp member
  exact same.addresses _ (by omega) (by omega)

/-- The fourth address, where there is one. -/
theorem address4 (same : SameMpdu hdr hdr') (four : Wpa.a4Exists hdr = true) :
    hdr'.bytes 24 6 = hdr.bytes 24 6 := by
  apply List.map_congr_left
  intro i member
  have inside := List.mem_range.mp member
  apply same.rest _ (by omega)
  rintro ⟨_, place⟩
  rw [if_pos four, if_pos four] at place
  omega

/-- The associated data do not show what may be changed. -/
theorem aad (same : SameMpdu hdr hdr') :
    rtmpConstructCcmpAad hdr' = rtmpConstructCcmpAad hdr := by
  have four : (if Wpa.a4Exists hdr = true then hdr'.bytes 24 6 else []) =
      if Wpa.a4Exists hdr = true then hdr.bytes 24 6 else [] := by
    split_ifs with four
    · exact same.address4 four
    · rfl
  have qos : (if Wpa.qcExists hdr = true then [qosTid hdr', 0] else []) =
      if Wpa.qcExists hdr = true then [qosTid hdr, 0] else [] := by
    split_ifs with control
    · rw [same.tid control]
    · rfl
  unfold rtmpConstructCcmpAad
  rw [same.isDataFrame, same.frameType, same.flags, same.bytes (by decide) (by decide),
    same.fragment, same.a4Exists, same.qcExists, four, qos]

/-- Nor does the nonce. -/
theorem priority (same : SameMpdu hdr hdr') :
    (if Wpa.qcExists hdr' then qosTid hdr' else 0) =
      if Wpa.qcExists hdr then qosTid hdr else 0 := by
  rw [same.qcExists]
  split_ifs with control
  · exact same.tid control
  · rfl

end SameMpdu

end Header

section Body

theorem behindIv_apply (iv : List UInt8) (body : Memory) (address : Nat) :
    behindIv iv body (iv.length + address) = body address := by
  unfold behindIv
  rw [if_neg (by omega), Nat.add_sub_cancel_left]

theorem bytes_behindIv (iv : List UInt8) (body : Memory) (count : Nat) :
    (behindIv iv body).bytes iv.length count = body.bytes 0 count := by
  apply List.map_congr_left
  intro i _
  rw [behindIv_apply, Nat.zero_add]

end Body

section Ccmp

variable {crypto env plain}

/-- Both directions of CCMP use the same parameters. -/
theorem ccmpOf_received (aes : plain.key.cipherAlg = .aes) {hdr' : Memory}
    (same : SameMpdu plain.hdr hdr') (userPriority : UInt8) :
    ccmpOf (plain.received crypto env hdr' userPriority) =
      ccmpEncryptOf plain.hdr plain.txTsc := by
  have iv : plain.iv = rtmpConstructCcmpHdr plain.keyId plain.txTsc := by
    unfold PlainFrame.iv
    rw [aes]
    rfl
  have nonce : rtmpConstructCcmpNonce hdr' (plain.received crypto env hdr' userPriority).data =
      [if qcExists plain.hdr then qosTid plain.hdr else 0] ++ plain.hdr.bytes 10 6 ++
        [plain.txTsc 5, plain.txTsc 4, plain.txTsc 3, plain.txTsc 2, plain.txTsc 1,
          plain.txTsc 0] := by
    change [if qcExists hdr' then qosTid hdr' else 0] ++ hdr'.bytes 10 6 ++
      [behindIv plain.iv _ 7, behindIv plain.iv _ 6, behindIv plain.iv _ 5, behindIv plain.iv _ 4,
        behindIv plain.iv _ 1, behindIv plain.iv _ 0] = _
    rw [same.priority, same.bytes (by decide) (by decide), iv]
    rfl
  unfold ccmpOf ccmpEncryptOf
  change CcmParameters.mk 16 (Memory.write (fun _ => 0) 0 (rtmpConstructCcmpNonce hdr' _))
    (rtmpConstructCcmpNonce hdr' _).length (Memory.write (fun _ => 0) 0 (rtmpConstructCcmpAad hdr'))
    (BitVec.ofNat 32 (rtmpConstructCcmpAad hdr').length) lenCcmpMic = _
  rw [nonce, same.aad]

theorem checkParameters_ccmpEncryptOf (hdr pn : Memory) :
    Crypto.checkParameters (ccmpEncryptOf hdr pn) = none := by
  rfl

theorem decryptionAction_ccmp {frame : SoftFrame} (aes : frame.key.cipherAlg = .aes)
    (keyed : frame.key.keyLen ≠ 0) (long : lenCcmpHdr < frame.dataByteCnt.toNat) {data : Memory}
    {outLen : BitVec 32}
    (decrypted : Crypto.aesCcmDecrypt (crypto.aesEncrypt frame.key.key) (ccmpOf frame)
      (fun address => frame.data (lenCcmpHdr + address))
      (frame.dataByteCnt.setWidth 32 - BitVec.ofNat 32 lenCcmpHdr) frame.data
      (frame.dataByteCnt.setWidth 32) env.stack = .ok (data, outLen)) :
    rtmpSoftDecryptionAction crypto env frame =
      ⟨ndisStatusSuccess, outLen.setWidth 16, some data⟩ := by
  unfold rtmpSoftDecryptionAction
  rw [aes]
  dsimp only
  unfold rtmpSoftDecryptCcmp
  rw [if_neg keyed, if_neg (not_le.mpr long), decrypted]
  rfl

theorem ccmp_comesBack (aes : plain.key.cipherAlg = .aes) (keyed : plain.key.keyLen ≠ 0)
    (fits : plain.length crypto env < 2 ^ 16) (env' : SoftEnv) {hdr' : Memory}
    (same : SameMpdu plain.hdr hdr') (userPriority : UInt8) :
    ComesBack crypto env plain env' hdr' userPriority := by
  have passed := checkParameters_ccmpEncryptOf plain.hdr plain.txTsc
  have sealedBody : plain.sealed crypto env =
      ((Crypto.encrypted (crypto.aesEncrypt plain.key.key) (ccmpEncryptOf plain.hdr plain.txTsc)
        plain.data plain.srcBufLen plain.data).cipherText, lenCcmpMic) := by
    have accepts := @Crypto.aesCcmEncrypt_eq_ok (crypto.aesEncrypt plain.key.key)
      (ccmpEncryptOf plain.hdr plain.txTsc) plain.data plain.data plain.srcBufLen
      (plain.srcBufLen + 8) passed (BitVec.le_refl _)
    unfold PlainFrame.sealed rtmpSoftEncryptionAction
    rw [aes]
    dsimp only
    unfold rtmpSoftEncryptCcmp
    rw [accepts]
  have iv : plain.iv.length = lenCcmpHdr := by
    unfold PlainFrame.iv
    rw [aes]
    rfl
  have count : plain.length crypto env = lenCcmpHdr + plain.srcBufLen.toNat + lenCcmpMic := by
    unfold PlainFrame.length
    rw [iv, sealedBody]
  rw [count] at fits
  unfold lenCcmpHdr lenCcmpMic at fits
  have received : (BitVec.ofNat 16 (plain.length crypto env)).toNat =
      plain.srcBufLen.toNat + 16 := by
    rw [count, BitVec.toNat_ofNat, Nat.mod_eq_of_lt (by unfold lenCcmpHdr lenCcmpMic; omega)]
    unfold lenCcmpHdr lenCcmpMic
    omega
  have cipherLength : (BitVec.ofNat 16 (plain.length crypto env)).setWidth 32 -
      BitVec.ofNat 32 lenCcmpHdr = plain.srcBufLen + BitVec.ofNat 32 lenCcmpMic := by
    unfold lenCcmpHdr lenCcmpMic
    bv_omega
  have capacity : plain.srcBufLen ≤ (BitVec.ofNat 16 (plain.length crypto env)).setWidth 32 := by
    rw [BitVec.le_def, BitVec.toNat_setWidth, received, Nat.mod_eq_of_lt (by omega)]
    omega
  have short : plain.srcBufLen.toNat + lenCcmpMic < 2 ^ 32 := by
    unfold lenCcmpMic
    omega
  have cipherText : (fun address => (plain.received crypto env hdr' userPriority).data
      (lenCcmpHdr + address)) = (plain.sealed crypto env).1 := by
    funext address
    rw [← iv]
    exact behindIv_apply _ _ _
  obtain ⟨text, decrypted, same_text⟩ :=
    @Crypto.roundTrips_of_length (crypto.aesEncrypt plain.key.key)
      (ccmpEncryptOf plain.hdr plain.txTsc) plain.data plain.data plain.srcBufLen passed short
      env'.stack (plain.received crypto env hdr' userPriority).data _ capacity
  have action : rtmpSoftDecryptionAction crypto env'
      (plain.received crypto env hdr' userPriority) =
        ⟨ndisStatusSuccess, plain.srcBufLen.setWidth 16, some text⟩ := by
    apply decryptionAction_ccmp aes keyed
    · change lenCcmpHdr < (BitVec.ofNat 16 (plain.length crypto env)).toNat
      rw [received]
      unfold lenCcmpHdr
      omega
    · rw [ccmpOf_received aes same, cipherText, sealedBody]
      change Crypto.aesCcmDecrypt _ _ _
        ((BitVec.ofNat 16 (plain.length crypto env)).setWidth 32 - BitVec.ofNat 32 lenCcmpHdr) _
        ((BitVec.ofNat 16 (plain.length crypto env)).setWidth 32) _ = _
      rw [cipherLength]
      exact decrypted
  unfold ComesBack
  rw [action]
  refine ⟨rfl, ?_, text, rfl, ?_⟩
  · rw [BitVec.toNat_setWidth, Nat.mod_eq_of_lt (by omega)]
  · apply List.map_congr_left
    intro i member
    rw [Nat.zero_add]
    exact same_text i (List.mem_range.mp member)

end Ccmp

section Wep

variable {crypto env plain}

theorem le32_le32Bytes (value : BitVec 32) : le32 (le32Bytes value) = value := by
  apply BitVec.eq_of_getLsbD_eq
  intro i inside
  simp only [le32, le32Bytes, List.range, List.range.loop, List.map_cons, List.map_nil,
    List.foldr_cons, List.foldr_nil]
  simp only [BitVec.getLsbD_or, BitVec.getLsbD_shiftLeft, BitVec.getLsbD_setWidth,
    BitVec.getLsbD_ushiftRight, BitVec.ofNat_eq_ofNat, BitVec.getLsbD_zero]
  -- The byte that a bit comes from.
  have place : i < 8 ∨ (8 ≤ i ∧ i < 16) ∨ (16 ≤ i ∧ i < 24) ∨ 24 ≤ i := by omega
  rcases place with first | second | third | fourth <;> grind

theorem length_le32Bytes (value : BitVec 32) : (le32Bytes value).length = lenIcv := by
  simp [le32Bytes, lenIcv]

/-- A text with its ICV behind it. -/
def withIcv (text : List UInt8) : List UInt8 := text ++ le32Bytes (icvOf text)

theorem length_withIcv (text : List UInt8) : (withIcv text).length = text.length + lenIcv := by
  rw [withIcv, List.length_append, length_le32Bytes]

theorem icvRight_withIcv {data : Memory} {text : List UInt8} (holds : data.Holds 0 (withIcv text)) :
    icvRight data text.length = true ∧ data.bytes 0 text.length = text := by
  obtain ⟨front, back⟩ := Memory.holds_append.mp holds
  unfold Memory.Holds at front back
  rw [Nat.zero_add, length_le32Bytes] at back
  constructor
  · unfold icvRight
    rw [front, back, le32_le32Bytes, beq_iff_eq]
  · exact front

/-- What `RTMPSoftEncryptWEP` leaves in the buffer. -/
theorem rtmpSoftEncryptWep_bytes (memory : env.arc4Ctx = true) {pIvHdr : Memory} {key : CipherKey}
    (keyed : key.keyLen ≠ 0) (data : Memory) (count : Nat) :
    (rtmpSoftEncryptWep env pIvHdr key data count).2.bytes 0 (count + lenIcv) =
      (rtmpInitWepEngine env (pIvHdr.bytes 0 3) key).compute (withIcv (data.bytes 0 count)) := by
  have text : data.Holds 0 (data.bytes 0 count) := by
    unfold Memory.Holds
    rw [Memory.length_bytes]
  have stored := Memory.holds_write_behind text (le32Bytes (icvOf (data.bytes 0 count)))
  rw [Memory.length_bytes, Nat.zero_add] at stored
  change _ = withIcv (data.bytes 0 count) at stored
  rw [← withIcv, length_withIcv, Memory.length_bytes] at stored
  unfold rtmpSoftEncryptWep
  rw [if_neg (by simp [memory]), if_neg keyed]
  dsimp only
  rw [stored]
  have written := Memory.bytes_write
    (data.write count (le32Bytes (icvOf (data.bytes 0 count)))) 0
    ((rtmpInitWepEngine env (pIvHdr.bytes 0 3) key).compute (withIcv (data.bytes 0 count)))
  rw [Arc4Ctx.length_compute, length_withIcv, Memory.length_bytes] at written
  exact written

theorem decryptionAction_wep {frame : SoftFrame}
    (wep : frame.key.cipherAlg = .wep64 ∨ frame.key.cipherAlg = .wep128) :
    rtmpSoftDecryptionAction crypto env frame = softResult frame (rtmpSoftDecryptWep env frame) := by
  unfold rtmpSoftDecryptionAction
  rcases wep with wep64 | wep128
  · rw [wep64]
  · rw [wep128]

/-- A frame whose bytes behind the IV are a text with its ICV under the key stream. -/
theorem rtmpSoftDecryptWep_eq_some {frame : SoftFrame} {text : List UInt8}
    (memory : env.arc4Ctx = true) (keyed : frame.key.keyLen ≠ 0)
    (count : frame.dataByteCnt.toNat = lenWepIvHdr + (text.length + lenIcv))
    (body : frame.data.bytes lenWepIvHdr (text.length + lenIcv) =
      (rtmpInitWepEngine env (frame.data.bytes 0 3) frame.key).compute (withIcv text)) :
    ∃ data length, rtmpSoftDecryptWep env frame = some (data, length) ∧
      length.toNat = text.length ∧ data.bytes 0 text.length = text := by
  have cipherText : (frame.dataByteCnt - BitVec.ofNat 16 lenWepIvHdr).toNat =
      text.length + lenIcv := by
    unfold lenWepIvHdr lenIcv at count ⊢
    bv_omega
  have plainText : (frame.dataByteCnt - BitVec.ofNat 16 lenWepIvHdr -
      BitVec.ofNat 16 lenIcv).toNat = text.length := by
    unfold lenWepIvHdr lenIcv at count ⊢
    bv_omega
  let data := decryptedOver (rtmpInitWepEngine env (frame.data.bytes 0 3) frame.key) frame.data
    lenWepIvHdr (text.length + lenIcv)
  have holds : data.Holds 0 (withIcv text) := by
    change (decryptedOver _ _ _ _).Holds 0 _
    unfold decryptedOver
    rw [body, Arc4Ctx.compute_compute]
    exact Memory.write_holds _ _ _
  obtain ⟨right, front⟩ := icvRight_withIcv holds
  refine ⟨data, frame.dataByteCnt - BitVec.ofNat 16 lenWepIvHdr - BitVec.ofNat 16 lenIcv, ?_,
    plainText, front⟩
  unfold rtmpSoftDecryptWep
  rw [if_neg (by simp [memory]), if_neg keyed, if_neg (by rw [count]; unfold lenWepIvHdr lenIcv; omega)]
  dsimp only
  rw [cipherText, plainText, if_pos right]

theorem wep_comesBack (wep : plain.key.cipherAlg = .wep64 ∨ plain.key.cipherAlg = .wep128)
    (keyed : plain.key.keyLen ≠ 0) (fits : plain.length crypto env < 2 ^ 16) {env' : SoftEnv}
    (memory : env.arc4Ctx = true ∧ env.seed = true) (memory' : env'.arc4Ctx = true ∧ env'.seed = true)
    (hdr' : Memory) (userPriority : UInt8) :
    ComesBack crypto env plain env' hdr' userPriority := by
  have iv : plain.iv = rtmpConstructWepIvHdr plain.keyId plain.txTsc := by
    unfold PlainFrame.iv
    rcases wep with wep64 | wep128
    · rw [wep64]
      rfl
    · rw [wep128]
      rfl
  have sealedBody : plain.sealed crypto env =
      ((rtmpSoftEncryptWep env plain.txTsc plain.key plain.data plain.srcBufLen.toNat).2,
        lenIcv) := by
    unfold PlainFrame.sealed rtmpSoftEncryptionAction
    rcases wep with wep64 | wep128
    · rw [wep64]
    · rw [wep128]
  have ivLength : plain.iv.length = lenWepIvHdr := by
    rw [iv]
    rfl
  have length : (plain.data.bytes 0 plain.srcBufLen.toNat).length = plain.srcBufLen.toNat :=
    Memory.length_bytes ..
  have count : plain.length crypto env = lenWepIvHdr + plain.srcBufLen.toNat + lenIcv := by
    unfold PlainFrame.length
    rw [ivLength, sealedBody]
  -- The receiver reads the IV that the key stream was made of.
  have seed : (plain.received crypto env hdr' userPriority).data.bytes 0 3 =
      plain.txTsc.bytes 0 3 := by
    change (behindIv plain.iv _).bytes 0 3 = _
    rw [iv]
    rfl
  have engine : rtmpInitWepEngine env' (plain.txTsc.bytes 0 3) plain.key =
      rtmpInitWepEngine env (plain.txTsc.bytes 0 3) plain.key := by
    unfold rtmpInitWepEngine
    rw [if_pos memory.2, if_pos memory'.2]
  obtain ⟨data, outLen, decrypted, outLength, text⟩ :=
    @rtmpSoftDecryptWep_eq_some env' (plain.received crypto env hdr' userPriority)
      (plain.data.bytes 0 plain.srcBufLen.toNat) memory'.1 keyed
      (by
        change (BitVec.ofNat 16 (plain.length crypto env)).toNat = _
        rw [BitVec.toNat_ofNat, Nat.mod_eq_of_lt fits, count, length, Nat.add_assoc])
      (by
        rw [seed, length, ← ivLength]
        change (behindIv plain.iv (plain.sealed crypto env).1).bytes plain.iv.length _ =
          (rtmpInitWepEngine env' _ plain.key).compute _
        rw [bytes_behindIv, sealedBody, rtmpSoftEncryptWep_bytes memory.1 keyed, engine])
  rw [length] at outLength text
  unfold ComesBack
  rw [decryptionAction_wep wep, decrypted]
  exact ⟨rfl, outLength, data, rfl, text⟩

end Wep

/-- The cipher that a key is for has its memory in both directions; only WEP takes any. -/
def HasMemory (cipherAlg : CipherAlg) (env : SoftEnv) : Prop :=
  cipherAlg = .aes ∨ env.arc4Ctx = true ∧ env.seed = true

/-- What is encrypted under a key of WEP or CCMP comes back, behind every header that differs from
the one it was sent with only where it may. -/
theorem softEncryption_comesBack (crypto : SoftCrypto) (env env' : SoftEnv) (plain : PlainFrame)
    (hdr' : Memory) (userPriority : UInt8)
    (cipher : plain.key.cipherAlg = .wep64 ∨ plain.key.cipherAlg = .wep128 ∨
      plain.key.cipherAlg = .aes)
    (same : SameMpdu plain.hdr hdr') (fits : plain.length crypto env < 2 ^ 16)
    (keyed : plain.key.keyLen ≠ 0)
    (memory : HasMemory plain.key.cipherAlg env ∧ HasMemory plain.key.cipherAlg env') :
    ComesBack crypto env plain env' hdr' userPriority := by
  by_cases aes : plain.key.cipherAlg = .aes
  · exact ccmp_comesBack aes keyed fits env' same userPriority
  · have wep : plain.key.cipherAlg = .wep64 ∨ plain.key.cipherAlg = .wep128 := by
      rcases cipher with wep64 | wep128 | ccmp
      · exact .inl wep64
      · exact .inr wep128
      · exact absurd ccmp aes
    exact wep_comesBack wep keyed fits (memory.1.resolve_left aes) (memory.2.resolve_left aes) hdr'
      userPriority

section Example

def readySoftEnv : SoftEnv := ⟨true, true, Arc4Ctx.init [], fun _ => 0⟩

/-- No memory for an `ARC4_CTX`. -/
def fullSoftEnv : SoftEnv := { readySoftEnv with arc4Ctx := false }

/-- A QoS data frame of two bytes under a key of the given cipher and length. -/
def smallFrame (cipherAlg : CipherAlg) (keyLen : Nat) : PlainFrame where
  hdr address := if address = 0 then 0x88 else 0
  key := ⟨cipherAlg, keyLen, Bytes.zero 16, Bytes.zero 8, Bytes.zero 8⟩
  keyId := 0
  txTsc _ := 0
  data _ := 0
  srcBufLen := 2

/-- It is sent again with the Retry bit, another sequence number and other QoS bits. -/
def retriedHdr : Memory := fun address =>
  if address = 0 then 0x88 else if address = 1 then 0x08 else if address = 22 then 0x30
  else if address = 24 then 0x50 else if address = 25 then 7 else 0

theorem smallFrame_retried : SameMpdu (smallFrame .aes 16).hdr retriedHdr where
  frameType := rfl
  flags := rfl
  addresses i behind before := by
    simp only [retriedHdr, smallFrame]
    split_ifs <;> first | rfl | omega
  fragment := rfl
  tid _ := rfl
  rest i behind kept := by
    have data : i ≠ 24 ∧ i ≠ 25 := by
      constructor
      · rintro rfl
        exact kept ⟨rfl, .inl rfl⟩
      · rintro rfl
        exact kept ⟨rfl, .inr rfl⟩
    simp only [retriedHdr, smallFrame]
    split_ifs <;> first | rfl | omega

theorem softEncryption_comesBack_retried :
    ComesBack zeroSoftCrypto readySoftEnv (smallFrame .aes 16) readySoftEnv retriedHdr 0 :=
  softEncryption_comesBack zeroSoftCrypto readySoftEnv readySoftEnv (smallFrame .aes 16) retriedHdr 0
    (.inr (.inr rfl)) smallFrame_retried (by decide) (by decide) ⟨.inl rfl, .inl rfl⟩

theorem SameMpdu.refl (hdr : Memory) : SameMpdu hdr hdr :=
  ⟨rfl, rfl, fun _ _ _ => rfl, rfl, fun _ => rfl, fun _ _ _ => rfl⟩

/-- Without a key length nothing is decrypted, nor is it when WEP finds no memory. -/
theorem softEncryption_lost :
    (¬ ∀ (crypto : SoftCrypto) (env env' : SoftEnv) (plain : PlainFrame) (hdr' : Memory)
      (userPriority : UInt8), plain.key.cipherAlg = .aes → SameMpdu plain.hdr hdr' →
        plain.length crypto env < 2 ^ 16 → ComesBack crypto env plain env' hdr' userPriority) ∧
    ¬ ∀ (crypto : SoftCrypto) (env env' : SoftEnv) (plain : PlainFrame) (hdr' : Memory)
      (userPriority : UInt8), plain.key.cipherAlg = .wep64 → SameMpdu plain.hdr hdr' →
        plain.length crypto env < 2 ^ 16 → plain.key.keyLen ≠ 0 →
          ComesBack crypto env plain env' hdr' userPriority := by
  constructor
  · intro always
    have back := always zeroSoftCrypto readySoftEnv readySoftEnv (smallFrame .aes 0) _ 0 rfl
      (.refl _) (by decide)
    exact absurd back.1 (by decide)
  · intro always
    have back := always zeroSoftCrypto readySoftEnv fullSoftEnv (smallFrame .wep64 5) _ 0 rfl
      (.refl _) (by decide) (by decide)
    exact absurd back.1 (by decide)

end Example

end Mt7612u.Wpa
