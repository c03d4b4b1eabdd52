import Mt7612u.Wpa.SoftDecrypt

/-! Which frames the software decryption accepts, beside those that are valid under the key. -/

namespace Mt7612u.Wpa
open Crypto (Arc4Ctx aesCcmDecrypt aesCcmMac blockCtr ctrLoop)
open Receive (Memory)

section Valid

/-- The ICV stands behind a text and is right. -/
def IcvRight (text : List UInt8) : Prop :=
  icvOf (text.take (text.length - lenIcv)) = le32 (text.drop (text.length - lenIcv))

variable (crypto : SoftCrypto) (frame : SoftFrame)

/-- The ARC4 state of a WEP frame. -/
def wepCtx : Arc4Ctx :=
  Arc4Ctx.init (frame.data.bytes 0 3 ++ frame.key.key.val.take frame.key.keyLen)

/-- A WEP frame as it was before encryption, with its ICV. -/
def wepText (ctx : Arc4Ctx) : List UInt8 :=
  ctx.compute (frame.data.bytes lenWepIvHdr (frame.dataByteCnt.toNat - lenWepIvHdr))

/-- The same for TKIP, with its Michael MIC before the ICV. -/
def tkipText : List UInt8 :=
  (tkipCtx crypto frame).compute
    (frame.data.bytes lenTkipIvHdr (frame.dataByteCnt.toNat - lenTkipIvHdr))

/-- The Michael MIC stands between text and ICV and is right. -/
def MicRight (text : List UInt8) : Prop :=
  ((rtmpInitMicEngine (tkipDa frame.hdr) (tkipSa frame.hdr) frame.userPriority
    frame.key.rxMic).append (text.take (text.length - (lenTkipMic + lenIcv)))).getMic =
      (text.drop (text.length - (lenTkipMic + lenIcv))).take lenTkipMic

/-- The length of the text of a CCMP frame. -/
def ccmpLength : Nat := frame.dataByteCnt.toNat - (lenCcmpHdr + lenCcmpMic)

/-- The encrypted MIC of a CCMP frame is the one of its text. -/
def CcmRight : Prop :=
  let cipher := crypto.aesEncrypt frame.key.key
  let cipherText : Memory := fun address => frame.data (lenCcmpHdr + address)
  let plainText := ctrLoop cipher cipherText (ccmpLength frame) (ccmpLength frame) 0
    (blockCtr (ccmpOf frame)) ⟨frame.data, [blockCtr (ccmpOf frame)]⟩
  ∀ i : Fin 16, i.val < lenCcmpMic →
    cipherText (ccmpLength frame + i) ^^^ cipher (blockCtr (ccmpOf frame)) i =
      (aesCcmMac cipher (ccmpOf frame) plainText.out
        (BitVec.ofNat 32 (ccmpLength frame))).blockMac i

/-- The frame is long enough and verifies under its key, if there is one. -/
def Verifies : Prop :=
  frame.key.keyLen ≠ 0 ∧
    match frame.key.cipherAlg with
    | .wep64 | .wep128 =>
      lenWepIvHdr + lenIcv ≤ frame.dataByteCnt.toNat ∧ IcvRight (wepText frame (wepCtx frame))
    | .tkip =>
      lenTkipIvHdr + (lenTkipMic + lenIcv) ≤ frame.dataByteCnt.toNat ∧
        IcvRight (tkipText crypto frame) ∧ MicRight frame (tkipText crypto frame)
    | .aes => lenCcmpHdr + lenCcmpMic ≤ frame.dataByteCnt.toNat ∧ CcmRight crypto frame
    | .none => False

/-- Exactly the valid frames are accepted, a wrong MIC is told from a wrong ICV, and the length of
a frame that is not accepted is left as it is. -/
structure DecryptsExactly (env : SoftEnv) : Prop where
  accepts : (rtmpSoftDecryptionAction crypto env frame).status = ndisStatusSuccess ↔
    Verifies crypto frame
  micError : frame.key.cipherAlg = .tkip → frame.key.keyLen ≠ 0 →
    lenTkipIvHdr + (lenTkipMic + lenIcv) ≤ frame.dataByteCnt.toNat →
    IcvRight (tkipText crypto frame) → ¬ MicRight frame (tkipText crypto frame) →
      (rtmpSoftDecryptionAction crypto env frame).status = ndisStatusMicError
  count : (rtmpSoftDecryptionAction crypto env frame).status ≠ ndisStatusSuccess →
    (rtmpSoftDecryptionAction crypto env frame).dataByteCnt = frame.dataByteCnt

end Valid

section Text

variable (ctx : Arc4Ctx) (data : Memory) {header count : Nat}

/-- The decrypted bytes stand at the start of the buffer. -/
theorem bytes_decryptedOver {first : Nat} (fits : first ≤ count) :
    (decryptedOver ctx data header count).bytes 0 first =
      (ctx.compute (data.bytes header count)).take first ∧
    (decryptedOver ctx data header count).bytes first (count - first) =
      (ctx.compute (data.bytes header count)).drop first := by
  have whole : (decryptedOver ctx data header count).bytes 0 count =
      ctx.compute (data.bytes header count) := by
    have held := Memory.bytes_write data 0 (ctx.compute (data.bytes header count))
    rw [Arc4Ctx.length_compute, Memory.length_bytes] at held
    exact held
  have cut := Memory.bytes_append (decryptedOver ctx data header count) 0 first (count - first)
  rw [Nat.add_sub_cancel' fits, whole, Nat.zero_add] at cut
  have length : ((decryptedOver ctx data header count).bytes 0 first).length = first :=
    Memory.length_bytes ..
  constructor
  · rw [cut, List.take_left' length]
  · rw [cut, List.drop_left' length]

/-- The comparison in the buffer is the one of the text. -/
theorem icvRight_iff {first : Nat} (whole : first + lenIcv = count) :
    icvRight (decryptedOver ctx data header count) first = true ↔
      IcvRight (ctx.compute (data.bytes header count)) := by
  obtain ⟨front, back⟩ := @bytes_decryptedOver ctx data header _ _ (Nat.le.intro whole)
  have last : count - first = lenIcv := by omega
  have place : (ctx.compute (data.bytes header count)).length - lenIcv = first := by
    rw [Arc4Ctx.length_compute, Memory.length_bytes]
    omega
  rw [last] at back
  unfold icvRight IcvRight
  rw [beq_iff_eq, front, back, place]

theorem micRight_iff (frame : SoftFrame) {first : Nat}
    (whole : first + (lenTkipMic + lenIcv) = count) :
    micRight frame (decryptedOver ctx data header count) first = true ↔
      MicRight frame (ctx.compute (data.bytes header count)) := by
  obtain ⟨front, back⟩ := @bytes_decryptedOver ctx data header _ _ (Nat.le.intro whole)
  have last : count - first = lenTkipMic + lenIcv := by omega
  have place : (ctx.compute (data.bytes header count)).length - (lenTkipMic + lenIcv) = first := by
    rw [Arc4Ctx.length_compute, Memory.length_bytes]
    omega
  have mic : (decryptedOver ctx data header count).bytes first lenTkipMic =
      ((ctx.compute (data.bytes header count)).drop first).take lenTkipMic := by
    rw [← back, last, Memory.bytes_append]
    exact (List.take_left' (Memory.length_bytes ..)).symm
  unfold micRight MicRight
  rw [beq_iff_eq, front, mic, place]

end Text

section Condition

variable (crypto : SoftCrypto) (env : SoftEnv) (frame : SoftFrame)

/-- The buffer of a WEP frame when its ICV is compared, and the place of the ICV in it. -/
def wepBuffer : Memory :=
  decryptedOver (rtmpInitWepEngine env (frame.data.bytes 0 3) frame.key) frame.data lenWepIvHdr
    (frame.dataByteCnt - BitVec.ofNat 16 lenWepIvHdr).toNat
def wepPlainLen : BitVec 16 :=
  frame.dataByteCnt - BitVec.ofNat 16 lenWepIvHdr - BitVec.ofNat 16 lenIcv

/-- The same for TKIP. -/
def tkipBuffer : Memory :=
  decryptedOver (tkipCtx crypto frame) frame.data lenTkipIvHdr
    (frame.dataByteCnt.setWidth 32 - BitVec.ofNat 32 lenTkipIvHdr).toNat
def tkipPlainLen : BitVec 32 :=
  frame.dataByteCnt.setWidth 32 - BitVec.ofNat 32 lenTkipIvHdr - BitVec.ofNat 32 lenIcv

/-- A WEP frame without memory for the state must not be valid. Of a frame that is too short for an
ICV the lengths wrap, and what stands behind it must not look right; the seed must get its memory,
or what the state holds without it must not make a difference. -/
def WepSound : Prop :=
  if !env.arc4Ctx then ¬ Verifies crypto frame
  else if frame.dataByteCnt.toNat < lenWepIvHdr + lenIcv then
    lenWepIvHdr < frame.dataByteCnt.toNat →
      icvRight (wepBuffer env frame) (wepPlainLen frame).toNat = false
  else env.seed = true ∨
    (IcvRight (wepText frame env.stale) ↔ IcvRight (wepText frame (wepCtx frame)))

/-- A TKIP frame has a wrong ICV, or it is too short for a MIC and what is compared instead is not
right either. -/
def TkipUnsound : Prop :=
  lenTkipIvHdr < frame.dataByteCnt.toNat ∧
    icvRight (tkipBuffer crypto frame) (tkipPlainLen frame).toNat = true ∧
    (lenTkipIvHdr + (lenTkipMic + lenIcv) ≤ frame.dataByteCnt.toNat ∨
      micRight frame (tkipBuffer crypto frame)
        (tkipPlainLen frame - BitVec.ofNat 32 lenTkipMic).toNat = true)

def DecryptsWhen : Prop :=
  frame.key.keyLen = 0 ∨
    match frame.key.cipherAlg with
    | .wep64 | .wep128 => WepSound crypto env frame
    | .tkip => ¬ TkipUnsound crypto frame
    | .aes | .none => True

end Condition

section Wep

variable {crypto : SoftCrypto} {env : SoftEnv} {frame : SoftFrame}

/-- A decryptor that returns a bool leaves the length as it is when it fails. -/
theorem softResult_exact (result : Option (Memory × BitVec 16)) :
    ((softResult frame result).status = ndisStatusSuccess ↔ result.isSome = true) ∧
      ((softResult frame result).status ≠ ndisStatusSuccess →
        (softResult frame result).dataByteCnt = frame.dataByteCnt) := by
  cases result with
  | none => exact ⟨iff_of_false Nat.one_ne_zero Bool.false_ne_true, fun _ => rfl⟩
  | some decrypted => exact ⟨iff_of_true rfl rfl, fun failed => absurd rfl failed⟩

theorem rtmpSoftDecryptWep_isSome :
    (rtmpSoftDecryptWep env frame).isSome = true ↔
      env.arc4Ctx = true ∧ frame.key.keyLen ≠ 0 ∧ lenWepIvHdr < frame.dataByteCnt.toNat ∧
        icvRight (wepBuffer env frame) (wepPlainLen frame).toNat = true := by
  unfold rtmpSoftDecryptWep
  change (if _ then none else if _ then none else if _ then none else
    if icvRight (wepBuffer env frame) (wepPlainLen frame).toNat = true then
      some (wepBuffer env frame, wepPlainLen frame) else none).isSome = true ↔ _
  split_ifs with memory empty short right
  · rw [Bool.not_eq_true'] at memory
    simp [memory]
  · simp [empty]
  · simp [short]
  · simp only [Option.isSome_some, true_iff]
    simp only [Bool.not_eq_true', Bool.not_eq_false] at memory
    exact ⟨memory, empty, not_le.mp short, right⟩
  · simp [right]

theorem wepPlainLen_of_le (long : lenWepIvHdr + lenIcv ≤ frame.dataByteCnt.toNat) :
    (frame.dataByteCnt - BitVec.ofNat 16 lenWepIvHdr).toNat =
        frame.dataByteCnt.toNat - lenWepIvHdr ∧
      (wepPlainLen frame).toNat + lenIcv = frame.dataByteCnt.toNat - lenWepIvHdr := by
  have first : (frame.dataByteCnt - BitVec.ofNat 16 lenWepIvHdr).toNat =
      frame.dataByteCnt.toNat - lenWepIvHdr := by
    unfold lenWepIvHdr lenIcv at long
    unfold lenWepIvHdr
    bv_omega
  refine ⟨first, ?_⟩
  unfold wepPlainLen
  have small : (BitVec.ofNat 16 lenIcv).toNat = lenIcv := rfl
  rw [BitVec.toNat_sub_of_le, first, small]
  · omega
  · rw [BitVec.le_def, first, small]
    omega

/-- The text in the buffer of a frame that is long enough. -/
theorem icvRight_wepBuffer (long : lenWepIvHdr + lenIcv ≤ frame.dataByteCnt.toNat) :
    icvRight (wepBuffer env frame) (wepPlainLen frame).toNat = true ↔
      IcvRight (wepText frame (if env.seed then wepCtx frame else env.stale)) := by
  obtain ⟨first, whole⟩ := wepPlainLen_of_le long
  unfold wepBuffer wepText
  rw [first]
  exact icvRight_iff _ _ whole

theorem wep_exact_iff (keyed : frame.key.keyLen ≠ 0)
    (verifies : Verifies crypto frame ↔ lenWepIvHdr + lenIcv ≤ frame.dataByteCnt.toNat ∧
      IcvRight (wepText frame (wepCtx frame))) :
    ((rtmpSoftDecryptWep env frame).isSome = true ↔ Verifies crypto frame) ↔
      WepSound crypto env frame := by
  rw [rtmpSoftDecryptWep_isSome]
  unfold WepSound
  cases memory : env.arc4Ctx with
  | false => simp
  | true =>
    simp only [Bool.not_true, Bool.false_eq_true, if_false, true_and]
    by_cases short : frame.dataByteCnt.toNat < lenWepIvHdr + lenIcv
    · have invalid : ¬ Verifies crypto frame := by
        rw [verifies]
        omega
      rw [if_pos short, iff_false_right invalid]
      constructor
      · intro never above
        by_contra right
        rw [Bool.not_eq_false] at right
        exact never ⟨keyed, above, right⟩
      · rintro never ⟨_, above, right⟩
        rw [never above] at right
        cases right
    · have long : lenWepIvHdr + lenIcv ≤ frame.dataByteCnt.toNat := not_lt.mp short
      have above : lenWepIvHdr < frame.dataByteCnt.toNat := by
        unfold lenWepIvHdr lenIcv at long
        unfold lenWepIvHdr
        omega
      rw [if_neg short, icvRight_wepBuffer long, verifies]
      cases env.seed with
      | true => simp [keyed, above, long]
      | false => simp [keyed, above, long]

end Wep

section Tkip

variable {crypto : SoftCrypto} {env : SoftEnv} {frame : SoftFrame}

/-- Whatever status TKIP comes to, the bool it becomes is the failure. -/
theorem tkip_status (tkip : frame.key.cipherAlg = .tkip) :
    (rtmpSoftDecryptionAction crypto env frame).status = ndisStatusFailure ∧
      (rtmpSoftDecryptionAction crypto env frame).dataByteCnt =
        (rtmpSoftDecryptTkip crypto frame).dataByteCnt := by
  have returned : (rtmpSoftDecryptTkip crypto frame).returned = true := by
    unfold rtmpSoftDecryptTkip
    split_ifs
    all_goals dsimp only
    · rfl
    · rfl
    · split_ifs <;> rfl
  have failure : asInt (rtmpSoftDecryptTkip crypto frame).returned = ndisStatusFailure := by
    rw [returned]
    rfl
  unfold rtmpSoftDecryptionAction
  rw [tkip]
  dsimp only
  rw [if_pos failure]
  exact ⟨rfl, rfl⟩

/-- The length is changed when ICV and MIC look right. -/
theorem rtmpSoftDecryptTkip_count (keyed : frame.key.keyLen ≠ 0) :
    (rtmpSoftDecryptTkip crypto frame).dataByteCnt = frame.dataByteCnt ↔
      ¬ (lenTkipIvHdr < frame.dataByteCnt.toNat ∧
        icvRight (tkipBuffer crypto frame) (tkipPlainLen frame).toNat = true ∧
        micRight frame (tkipBuffer crypto frame)
          (tkipPlainLen frame - BitVec.ofNat 32 lenTkipMic).toNat = true) := by
  have shorter : (tkipPlainLen frame - BitVec.ofNat 32 lenTkipMic).setWidth 16 ≠
      frame.dataByteCnt := by
    unfold tkipPlainLen lenTkipIvHdr lenIcv lenTkipMic
    bv_omega
  unfold rtmpSoftDecryptTkip
  rw [if_neg keyed]
  by_cases short : frame.dataByteCnt.toNat ≤ lenTkipIvHdr
  · rw [if_pos short]
    exact iff_of_true rfl fun reached => absurd reached.1 (not_lt.mpr short)
  rw [if_neg short]
  change (if (!icvRight (tkipBuffer crypto frame) (tkipPlainLen frame).toNat) = true then _ else
    if (!micRight frame (tkipBuffer crypto frame)
      (tkipPlainLen frame - BitVec.ofNat 32 lenTkipMic).toNat) = true then _ else
    (⟨true, _, (tkipPlainLen frame - BitVec.ofNat 32 lenTkipMic).setWidth 16⟩ :
      TkipResult)).dataByteCnt = _ ↔ _
  cases icv : icvRight (tkipBuffer crypto frame) (tkipPlainLen frame).toNat with
  | false => simp
  | true =>
    cases mic : micRight frame (tkipBuffer crypto frame)
        (tkipPlainLen frame - BitVec.ofNat 32 lenTkipMic).toNat with
    | false => simp
    | true => simp [shorter, not_le.mp short]

/-- The comparisons in the buffer of a frame that is long enough. -/
theorem tkipBuffer_right (long : lenTkipIvHdr + (lenTkipMic + lenIcv) ≤ frame.dataByteCnt.toNat) :
    (icvRight (tkipBuffer crypto frame) (tkipPlainLen frame).toNat = true ↔
        IcvRight (tkipText crypto frame)) ∧
      (micRight frame (tkipBuffer crypto frame)
        (tkipPlainLen frame - BitVec.ofNat 32 lenTkipMic).toNat = true ↔
          MicRight frame (tkipText crypto frame)) := by
  have first : (frame.dataByteCnt.setWidth 32 - BitVec.ofNat 32 lenTkipIvHdr).toNat =
      frame.dataByteCnt.toNat - lenTkipIvHdr := by
    unfold lenTkipIvHdr lenTkipMic lenIcv at long
    unfold lenTkipIvHdr
    bv_omega
  have icv : (tkipPlainLen frame).toNat + lenIcv = frame.dataByteCnt.toNat - lenTkipIvHdr := by
    unfold lenTkipIvHdr lenTkipMic lenIcv at long
    unfold tkipPlainLen lenTkipIvHdr lenIcv
    bv_omega
  have mic : (tkipPlainLen frame - BitVec.ofNat 32 lenTkipMic).toNat + (lenTkipMic + lenIcv) =
      frame.dataByteCnt.toNat - lenTkipIvHdr := by
    unfold lenTkipIvHdr lenTkipMic lenIcv at long
    unfold tkipPlainLen lenTkipIvHdr lenTkipMic lenIcv
    bv_omega
  unfold tkipBuffer tkipText
  rw [first]
  exact ⟨icvRight_iff _ _ icv, micRight_iff _ _ frame mic⟩

theorem tkip_exact_iff (tkip : frame.key.cipherAlg = .tkip) (keyed : frame.key.keyLen ≠ 0) :
    DecryptsExactly crypto frame env ↔ ¬ TkipUnsound crypto frame := by
  obtain ⟨failed, count⟩ := @tkip_status crypto env frame tkip
  have refused : (rtmpSoftDecryptionAction crypto env frame).status ≠ ndisStatusSuccess := by
    rw [failed]
    decide
  have unreported : (rtmpSoftDecryptionAction crypto env frame).status ≠ ndisStatusMicError := by
    rw [failed]
    decide
  have verifies : Verifies crypto frame ↔
      lenTkipIvHdr + (lenTkipMic + lenIcv) ≤ frame.dataByteCnt.toNat ∧
        IcvRight (tkipText crypto frame) ∧ MicRight frame (tkipText crypto frame) := by
    unfold Verifies
    rw [tkip]
    exact and_iff_right keyed
  constructor
  · rintro exactly ⟨above, icv, reached⟩
    by_cases mic : micRight frame (tkipBuffer crypto frame)
        (tkipPlainLen frame - BitVec.ofNat 32 lenTkipMic).toNat = true
    · have kept := exactly.count refused
      rw [count, rtmpSoftDecryptTkip_count keyed] at kept
      exact kept ⟨above, icv, mic⟩
    · have long := reached.resolve_right mic
      obtain ⟨icvIff, micIff⟩ := @tkipBuffer_right crypto frame long
      exact unreported (exactly.micError tkip keyed long (icvIff.mp icv) (mic ∘ micIff.mpr))
  · intro sound
    have right (long : lenTkipIvHdr + (lenTkipMic + lenIcv) ≤ frame.dataByteCnt.toNat)
        (icv : IcvRight (tkipText crypto frame)) : False := by
      have above : lenTkipIvHdr < frame.dataByteCnt.toNat := by
        unfold lenTkipIvHdr lenTkipMic lenIcv at long
        unfold lenTkipIvHdr
        omega
      exact sound ⟨above, (tkipBuffer_right long).1.mpr icv, .inl long⟩
    refine ⟨?_, ?_, ?_⟩
    · apply iff_of_false refused
      intro valid
      obtain ⟨long, icv, _⟩ := verifies.mp valid
      exact right long icv
    · intro _ _ long icv
      exact absurd (right long icv) not_false
    · intro _
      rw [count, rtmpSoftDecryptTkip_count keyed]
      rintro ⟨above, icv, mic⟩
      exact sound ⟨above, icv, .inr mic⟩

end Tkip

section Ccmp

variable {crypto : SoftCrypto} {env : SoftEnv} {frame : SoftFrame}

theorem checkParameters_ccmpOf : Crypto.checkParameters (ccmpOf frame) = none := by
  have length : (ccmpOf frame).nonceLength = 13 := by
    simp [ccmpOf, rtmpConstructCcmpNonce]
  unfold Crypto.checkParameters
  rw [length]
  rfl

theorem rtmpSoftDecryptCcmp_isSome :
    (rtmpSoftDecryptCcmp crypto env frame).isSome = true ↔
      frame.key.keyLen ≠ 0 ∧ lenCcmpHdr + lenCcmpMic ≤ frame.dataByteCnt.toNat ∧
        CcmRight crypto frame := by
  unfold rtmpSoftDecryptCcmp
  by_cases empty : frame.key.keyLen = 0
  · simp [empty]
  rw [if_neg empty]
  by_cases short : frame.dataByteCnt.toNat ≤ lenCcmpHdr
  · rw [if_pos short]
    apply iff_of_false Bool.false_ne_true
    rintro ⟨_, long, _⟩
    unfold lenCcmpHdr lenCcmpMic at *
    omega
  rw [if_neg short]
  unfold aesCcmDecrypt
  rw [checkParameters_ccmpOf]
  dsimp only
  by_cases long : lenCcmpHdr + lenCcmpMic ≤ frame.dataByteCnt.toNat
  · have length : frame.dataByteCnt.setWidth 32 - BitVec.ofNat 32 lenCcmpHdr -
        BitVec.ofNat 32 (ccmpOf frame).macLength = BitVec.ofNat 32 (ccmpLength frame) := by
      change _ - BitVec.ofNat 32 lenCcmpMic = _
      unfold lenCcmpHdr lenCcmpMic at long
      unfold ccmpLength lenCcmpHdr lenCcmpMic
      bv_omega
    have whole : (frame.dataByteCnt.setWidth 32 - BitVec.ofNat 32 lenCcmpHdr).toNat =
        ccmpLength frame + lenCcmpMic := by
      unfold lenCcmpHdr lenCcmpMic at long
      unfold ccmpLength lenCcmpHdr lenCcmpMic
      bv_omega
    have small : (BitVec.ofNat 32 (ccmpLength frame)).toNat = ccmpLength frame := by
      unfold ccmpLength
      rw [BitVec.toNat_ofNat, Nat.mod_eq_of_lt]
      omega
    have room : ¬ frame.dataByteCnt.setWidth 32 < BitVec.ofNat 32 (ccmpLength frame) := by
      rw [BitVec.lt_def, small]
      unfold ccmpLength
      bv_omega
    rw [length, if_neg room, small, whole]
    have same : (∀ i : Fin 16, i.val < (ccmpOf frame).macLength →
        (if ccmpLength frame + i.val < ccmpLength frame + lenCcmpMic then
          frame.data (lenCcmpHdr + (ccmpLength frame + i.val)) ^^^
            crypto.aesEncrypt frame.key.key (blockCtr (ccmpOf frame)) i
        else env.stack i) =
          (aesCcmMac (crypto.aesEncrypt frame.key.key) (ccmpOf frame)
            (ctrLoop (crypto.aesEncrypt frame.key.key)
              (fun address => frame.data (lenCcmpHdr + address)) (ccmpLength frame)
              (ccmpLength frame) 0 (blockCtr (ccmpOf frame))
              ⟨frame.data, [blockCtr (ccmpOf frame)]⟩).out
            (BitVec.ofNat 32 (ccmpLength frame))).blockMac i) ↔ CcmRight crypto frame := by
      apply forall_congr'
      intro i
      apply forall_congr'
      intro inside
      have before : ccmpLength frame + i.val < ccmpLength frame + lenCcmpMic :=
        Nat.add_lt_add_left inside _
      rw [if_pos before]
    by_cases right : CcmRight crypto frame
    · rw [if_pos (same.mpr right)]
      exact iff_of_true rfl ⟨empty, long, right⟩
    · rw [if_neg (right ∘ same.mp)]
      exact iff_of_false Bool.false_ne_true fun both => right both.2.2
  · have wraps : frame.dataByteCnt.setWidth 32 < frame.dataByteCnt.setWidth 32 -
        BitVec.ofNat 32 lenCcmpHdr - BitVec.ofNat 32 (ccmpOf frame).macLength := by
      change _ < _ - BitVec.ofNat 32 lenCcmpMic
      unfold lenCcmpHdr at short
      unfold lenCcmpHdr lenCcmpMic at long
      unfold lenCcmpHdr lenCcmpMic
      bv_omega
    rw [if_pos wraps]
    exact iff_of_false Bool.false_ne_true fun both => long both.2.1

end Ccmp

section Exact

variable {crypto : SoftCrypto} {env : SoftEnv} {frame : SoftFrame}

/-- A decryptor that returns a bool has only its verdict to answer for. -/
theorem exact_of_softResult (other : frame.key.cipherAlg ≠ .tkip)
    {result : Option (Memory × BitVec 16)}
    (action : rtmpSoftDecryptionAction crypto env frame = softResult frame result) :
    DecryptsExactly crypto frame env ↔ (result.isSome = true ↔ Verifies crypto frame) := by
  obtain ⟨accepted, kept⟩ := @softResult_exact frame result
  rw [← action] at accepted kept
  constructor
  · intro exactly
    exact accepted.symm.trans exactly.accepts
  · intro right
    exact ⟨accepted.trans right, fun tkip => absurd tkip other, kept⟩

theorem wep_decryptsExactly_iff (other : frame.key.cipherAlg ≠ .tkip)
    (action : rtmpSoftDecryptionAction crypto env frame =
      softResult frame (rtmpSoftDecryptWep env frame))
    (verifies : Verifies crypto frame ↔ frame.key.keyLen ≠ 0 ∧
      lenWepIvHdr + lenIcv ≤ frame.dataByteCnt.toNat ∧ IcvRight (wepText frame (wepCtx frame))) :
    DecryptsExactly crypto frame env ↔ frame.key.keyLen = 0 ∨ WepSound crypto env frame := by
  rw [exact_of_softResult other action]
  by_cases empty : frame.key.keyLen = 0
  · apply iff_of_true _ (.inl empty)
    apply iff_of_false
    · intro decrypted
      exact (rtmpSoftDecryptWep_isSome.mp decrypted).2.1 empty
    · intro valid
      exact (verifies.mp valid).1 empty
  · rw [or_iff_right empty]
    exact wep_exact_iff empty (verifies.trans (and_iff_right empty))

theorem softDecryption_exact_iff (crypto : SoftCrypto) (env : SoftEnv) (frame : SoftFrame) :
    DecryptsExactly crypto frame env ↔ DecryptsWhen crypto env frame := by
  unfold DecryptsWhen
  cases alg : frame.key.cipherAlg with
  | none =>
    apply iff_of_true _ (.inr trivial)
    have action : rtmpSoftDecryptionAction crypto env frame = softResult frame none := by
      unfold rtmpSoftDecryptionAction
      rw [alg]
      rfl
    rw [exact_of_softResult (by rw [alg]; decide) action]
    apply iff_of_false Bool.false_ne_true
    unfold Verifies
    rw [alg]
    exact And.right
  | wep64 =>
    apply wep_decryptsExactly_iff (by rw [alg]; decide)
    · unfold rtmpSoftDecryptionAction
      rw [alg]
    · unfold Verifies
      rw [alg]
  | wep128 =>
    apply wep_decryptsExactly_iff (by rw [alg]; decide)
    · unfold rtmpSoftDecryptionAction
      rw [alg]
    · unfold Verifies
      rw [alg]
  | tkip =>
    by_cases empty : frame.key.keyLen = 0
    · apply iff_of_true _ (.inl empty)
      obtain ⟨failed, count⟩ := @tkip_status crypto env frame alg
      refine ⟨?_, ?_, ?_⟩
      · rw [failed]
        exact iff_of_false Nat.one_ne_zero fun valid => valid.1 empty
      · intro _ keyed
        exact absurd empty keyed
      · intro _
        rw [count]
        unfold rtmpSoftDecryptTkip
        rw [if_pos empty]
    · rw [or_iff_right empty]
      exact tkip_exact_iff alg empty
  | aes =>
    apply iff_of_true _ (.inr trivial)
    have action : rtmpSoftDecryptionAction crypto env frame =
        softResult frame (rtmpSoftDecryptCcmp crypto env frame) := by
      unfold rtmpSoftDecryptionAction
      rw [alg]
    rw [exact_of_softResult (by rw [alg]; decide) action, rtmpSoftDecryptCcmp_isSome]
    unfold Verifies
    rw [alg]

end Exact

section Example

/-- A mixed key of zeros, and a block function that changes nothing. -/
def zeroSoftCrypto : SoftCrypto := ⟨fun _ _ _ _ => Bytes.zero 16, fun _ block => block⟩

/-- The MIC and the ICV of a frame without text. -/
def emptyTkipText : List UInt8 :=
  let mic := (rtmpInitMicEngine (List.replicate 6 0) (List.replicate 6 0) 0 (Bytes.zero 8)).getMic
  mic ++ le32Bytes (icvOf mic)

/-- The frame as it is received. -/
def emptyTkipFrame : SoftFrame where
  hdr _ := 0
  userPriority := 0
  key := ⟨.tkip, 16, Bytes.zero 16, Bytes.zero 8, Bytes.zero 8⟩
  data := Memory.write (fun _ => 0) lenTkipIvHdr
    ((Arc4Ctx.init (Bytes.zero 16).val).compute emptyTkipText)
  dataByteCnt := 20

theorem tkipText_emptyTkipFrame : tkipText zeroSoftCrypto emptyTkipFrame = emptyTkipText := by
  have sent : emptyTkipFrame.data.bytes lenTkipIvHdr 12 =
      (Arc4Ctx.init (Bytes.zero 16).val).compute emptyTkipText := by
    have held := Memory.bytes_write (fun _ => 0) lenTkipIvHdr
      ((Arc4Ctx.init (Bytes.zero 16).val).compute emptyTkipText)
    rw [Arc4Ctx.length_compute] at held
    exact held
  change (Arc4Ctx.init (Bytes.zero 16).val).compute (emptyTkipFrame.data.bytes lenTkipIvHdr 12) = _
  rw [sent, Arc4Ctx.compute_compute]

/-- A valid TKIP frame is given up. -/
theorem emptyTkipFrame_refused (env : SoftEnv) :
    Verifies zeroSoftCrypto emptyTkipFrame ∧
      (rtmpSoftDecryptionAction zeroSoftCrypto env emptyTkipFrame).status = ndisStatusFailure := by
  have failed := (@tkip_status zeroSoftCrypto env emptyTkipFrame rfl).1
  refine ⟨⟨by decide, ?_⟩, failed⟩
  change _ ∧ IcvRight (tkipText zeroSoftCrypto emptyTkipFrame) ∧
    MicRight emptyTkipFrame (tkipText zeroSoftCrypto emptyTkipFrame)
  rw [tkipText_emptyTkipFrame]
  unfold IcvRight MicRight
  exact ⟨by decide, by decide +kernel, by decide +kernel⟩

theorem emptyTkipFrame_not_exact :
    ¬ DecryptsExactly zeroSoftCrypto emptyTkipFrame ⟨true, true, ⟨0, 0, id⟩, fun _ => 0⟩ := by
  intro exactly
  obtain ⟨valid, failed⟩ := emptyTkipFrame_refused ⟨true, true, ⟨0, 0, id⟩, fun _ => 0⟩
  rw [← exactly.accepts, failed] at valid
  cases valid

end Example

end Mt7612u.Wpa
