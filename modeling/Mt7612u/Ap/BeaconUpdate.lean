import Mt7612u.Receive.Memory

/-! `RT28xx_UpdateBeaconToAsic`: the beacon of a BSS goes word by word to the beacon memory of the
chip, as far as it differs from a shadow copy. -/

namespace Mt7612u.Ap
open Receive (Memory)

/-- `chipCap.TXWISize`. -/
def txwiSize : Nat := 20

def beaconBitmapMask : BitVec 8 := 0xff

/-- The registers of the chip, the beacon memory among them. -/
abbrev Registers := Nat → BitVec 32

/-- `mt76u_reg_write`. -/
def regWrite (asic : Registers) (offset : Nat) (value : BitVec 32) : Registers :=
  Function.update asic offset value

/-- `BEACON_SYNC_STRUCT`. -/
structure BeaconSync where
  beaconBuf : Nat → Memory
  beaconTxWI : Nat → Memory
  beaconBitMap : BitVec 8
  dtimBitOn : BitVec 8

/-- The adapter as the update finds it. -/
structure BeaconAdapter where
  bssidNum : Nat
  maxMbssidNum : Nat
  bcnBufIdx : Nat → Nat
  beaconBuf : Nat → Memory
  timIELocationInBeacon : Nat → Nat
  beaconTransmitRequired : Nat → Bool
  beaconOffset : Nat → Nat
  beaconTxWI : Memory
  pBeaconSync : Option BeaconSync
  asic : Registers

/-- `dword` as the code computes it: of the four terms the first two are added, the other two are
statements of their own. -/
def dword (ptr : Memory) (start : Nat) : BitVec 32 :=
  BitVec.ofNat 32 ((ptr start).toNat + (ptr (start + 1)).toNat <<< 8)

/-- Four bytes as a little-endian word. -/
def leWord (ptr : Memory) (start : Nat) : BitVec 32 :=
  BitVec.ofNat 32 ((ptr start).toNat + (ptr (start + 1)).toNat * 256 +
    (ptr (start + 2)).toNat * 65536 + (ptr (start + 3)).toNat * 16777216)

/-- How often a loop with steps of four runs below a length. -/
def wordCount (length : Nat) : Nat := (length + 3) / 4

/-- The loop that writes the TXWI. -/
def writeTxwi (offset : Nat) (ptr : Memory) : Nat → Registers → Registers
  | 0, asic => asic
  | k + 1, asic => regWrite (writeTxwi offset ptr k asic) (offset + 4 * k) (dword ptr (4 * k))

/-- The loop that compares the frame with its shadow and writes the words that differ. -/
def writeFrame (offset : Nat) (pBeaconFrame : Memory) : Nat → Memory × Registers → Memory × Registers
  | 0, state => state
  | k + 1, state =>
      let (ptr, asic) := writeFrame offset pBeaconFrame k state
      if ptr.bytes (4 * k) 4 = pBeaconFrame.bytes (4 * k) 4 then (ptr, asic)
      else
        let ptr := ptr.write (4 * k) (pBeaconFrame.bytes (4 * k) 4)
        (ptr, regWrite asic (offset + 4 * k) (dword ptr (4 * k)))

/-- The loop that clears the TXWI of a beacon that is not sent. -/
def clearTxwi (offset : Nat) : Nat → Registers → Registers
  | 0, asic => asic
  | k + 1, asic => regWrite (clearTxwi offset k asic) (offset + 4 * k) 0

/-- `1 << bcn_idx` in the bitmap. -/
def bitOf (bcnIdx : Nat) : BitVec 8 := 1#8 <<< bcnIdx

namespace BeaconSync

/-- The TXWI has changed, or has not been written yet. -/
def txwiChanged (sync : BeaconSync) (bcnIdx : Nat) (txwi : Memory) : Bool :=
  (sync.beaconTxWI bcnIdx).bytes 0 txwiSize != txwi.bytes 0 txwiSize

/-- The shadow of a changed TXWI. -/
def noteTxwi (sync : BeaconSync) (bcnIdx : Nat) (txwi : Memory) : BeaconSync :=
  if sync.txwiChanged bcnIdx txwi then
    { sync with
      beaconBitMap := sync.beaconBitMap &&& ~~~(beaconBitmapMask &&& bitOf bcnIdx)
      beaconTxWI := Function.update sync.beaconTxWI bcnIdx
        ((sync.beaconTxWI bcnIdx).write 0 (txwi.bytes 0 txwiSize)) }
  else sync

/-- `(BeaconBitMap & (1 << bcn_idx)) != (1 << bcn_idx)`, where the shift is one of integers. -/
def isUnwritten (sync : BeaconSync) (bcnIdx : Nat) : Bool :=
  sync.beaconBitMap.toNat &&& 1 <<< bcnIdx != 1 <<< bcnIdx

end BeaconSync

/-- "the ra interface is down": the slot is cleared. -/
def clearBeacon (pAd : BeaconAdapter) (sync : BeaconSync) (bcnIdx : Nat) : BeaconAdapter :=
  { pAd with
    asic := clearTxwi (pAd.beaconOffset bcnIdx) (wordCount txwiSize) pAd.asic
    pBeaconSync := some { sync with
      beaconBitMap := sync.beaconBitMap &&& ~~~(beaconBitmapMask &&& bitOf bcnIdx)
      beaconTxWI := Function.update sync.beaconTxWI bcnIdx
        ((sync.beaconTxWI bcnIdx).write 0 (List.replicate txwiSize 0)) } }

/-- The frame with its padding, as the loop reads it. -/
def padFrame (pBeaconFrame : Memory) (frameLen : Nat) : Memory :=
  pBeaconFrame.write frameLen (List.replicate (frameLen &&& 3) 0)

def writeBeacon (pAd : BeaconAdapter) (sync : BeaconSync) (apidx bcnIdx frameLen : Nat) :
    BeaconAdapter :=
  let noted := sync.noteTxwi bcnIdx pAd.beaconTxWI
  let offset := pAd.beaconOffset bcnIdx
  let asic :=
    if noted.isUnwritten bcnIdx then writeTxwi offset pAd.beaconTxWI (wordCount txwiSize) pAd.asic
    else pAd.asic
  let pBeaconFrame := padFrame (pAd.beaconBuf apidx) frameLen
  let written := writeFrame (offset + txwiSize) pBeaconFrame
    (wordCount (frameLen + (frameLen &&& 3))) (noted.beaconBuf bcnIdx, asic)
  let dtim := pBeaconFrame (pAd.timIELocationInBeacon apidx + 4) &&& 0x01 != 0
  { pAd with
    asic := written.2
    beaconBuf := Function.update pAd.beaconBuf apidx pBeaconFrame
    pBeaconSync := some
      { noted with
        beaconBuf := Function.update noted.beaconBuf bcnIdx written.1
        beaconBitMap := noted.beaconBitMap ||| bitOf bcnIdx
        dtimBitOn :=
          if dtim then noted.dtimBitOn ||| bitOf apidx else noted.dtimBitOn &&& ~~~bitOf apidx } }

/-- `RT28xx_UpdateBeaconToAsic`. -/
def rt28xxUpdateBeaconToAsic (pAd : BeaconAdapter) (apidx frameLen : Nat) : BeaconAdapter :=
  if apidx < pAd.bssidNum ∧ apidx < pAd.maxMbssidNum then
    match pAd.pBeaconSync with
    | none => pAd
    | some sync =>
        if pAd.beaconTransmitRequired apidx then
          writeBeacon pAd sync apidx (pAd.bcnBufIdx apidx) frameLen
        else clearBeacon pAd sync (pAd.bcnBufIdx apidx)
  else pAd

theorem dword_eq_leWord {ptr : Memory} {start : Nat} :
    dword ptr start = leWord ptr start ↔ ptr (start + 2) = 0 ∧ ptr (start + 3) = 0 := by
  have first := (ptr start).toNat_lt
  have second := (ptr (start + 1)).toNat_lt
  have third := (ptr (start + 2)).toNat_lt
  have fourth := (ptr (start + 3)).toNat_lt
  unfold dword leWord
  rw [← BitVec.toNat_inj, BitVec.toNat_ofNat, BitVec.toNat_ofNat, Nat.mod_eq_of_lt (by omega),
    Nat.mod_eq_of_lt (by omega), ← UInt8.toNat_inj, ← UInt8.toNat_inj]
  have zero : (0 : UInt8).toNat = 0 := rfl
  rw [zero, Nat.shiftLeft_eq]
  omega

/-- A byte of a word. -/
def wordByte (word : BitVec 32) (i : Nat) : Nat := word.toNat / 256 ^ i % 256

theorem wordByte_leWord (ptr : Memory) (start : Nat) {i : Nat} (inside : i < 4) :
    wordByte (leWord ptr start) i = (ptr (start + i)).toNat := by
  have first := (ptr start).toNat_lt
  have second := (ptr (start + 1)).toNat_lt
  have third := (ptr (start + 2)).toNat_lt
  have fourth := (ptr (start + 3)).toNat_lt
  have value : (leWord ptr start).toNat = (ptr start).toNat + (ptr (start + 1)).toNat * 256 +
      (ptr (start + 2)).toNat * 65536 + (ptr (start + 3)).toNat * 16777216 := by
    unfold leWord
    rw [BitVec.toNat_ofNat, Nat.mod_eq_of_lt (by omega)]
  unfold wordByte
  rw [value]
  interval_cases i
  · have here : ptr (start + 0) = ptr start := rfl
    rw [here, pow_zero, Nat.div_one]
    omega
  · rw [pow_one]
    omega
  · norm_num
    omega
  · norm_num
    omega

section loops

variable {offset : Nat} {ptr : Memory} {asic : Registers}

theorem writeTxwi_at {n j : Nat} (inside : j < n) :
    writeTxwi offset ptr n asic (offset + 4 * j) = dword ptr (4 * j) := by
  induction n with
  | zero => exact absurd inside (Nat.not_lt_zero j)
  | succ n ih =>
    rw [writeTxwi, regWrite]
    by_cases last : j = n
    · rw [last, Function.update_self]
    · rw [Function.update_of_ne (by omega)]
      exact ih (by omega)

theorem writeTxwi_behind {n address : Nat} (behind : offset + 4 * n ≤ address) :
    writeTxwi offset ptr n asic address = asic address := by
  induction n with
  | zero => rfl
  | succ n ih =>
    rw [writeTxwi, regWrite, Function.update_of_ne (by omega)]
    exact ih (by omega)

variable {pBeaconFrame : Memory}

/-- The shadow is the frame as far as the loop has come. -/
theorem writeFrame_shadow (n address : Nat) :
    (writeFrame offset pBeaconFrame n (ptr, asic)).1 address =
      if address < 4 * n then pBeaconFrame address else ptr address := by
  induction n generalizing address with
  | zero => rfl
  | succ n ih =>
    rw [writeFrame]
    have same (i : Nat) (inside : i < 4) (equal : (writeFrame offset pBeaconFrame n (ptr, asic)).1.bytes
        (4 * n) 4 = pBeaconFrame.bytes (4 * n) 4) : ptr (4 * n + i) = pBeaconFrame (4 * n + i) := by
      have byte := congrArg (fun bytes => bytes.getD i 0) equal
      simp only [Memory.bytes] at byte
      rw [List.getD_eq_getElem _ _ (by simpa using inside),
        List.getD_eq_getElem _ _ (by simpa using inside)] at byte
      simp only [List.getElem_map, List.getElem_range, ih] at byte
      rwa [if_neg (by omega)] at byte
    dsimp only
    split_ifs with equal now later
    · rw [ih]
      split_ifs with before
      · rfl
      · obtain ⟨i, rfl⟩ := Nat.exists_eq_add_of_le (Nat.not_lt.mp before)
        exact same i (by omega) equal
    · rw [ih, if_neg (by omega)]
    · dsimp only
      by_cases before : address < 4 * n
      · rw [Memory.write_before _ _ before, ih, if_pos before]
      · obtain ⟨i, rfl⟩ := Nat.exists_eq_add_of_le (Nat.not_lt.mp before)
        unfold Memory.write
        rw [if_pos (Nat.le_add_right _ _), Nat.add_sub_cancel_left,
          List.getD_eq_getElem _ _ (by rw [Memory.length_bytes]; omega)]
        simp only [Memory.bytes, List.getElem_map, List.getElem_range]
    · dsimp only
      rw [Memory.write_after _ (by rw [Memory.length_bytes]; omega), ih, if_neg (by omega)]

/-- A word of the chip behind the loop. -/
theorem writeFrame_asic (n j : Nat) :
    (writeFrame offset pBeaconFrame n (ptr, asic)).2 (offset + 4 * j) =
      if j < n ∧ ptr.bytes (4 * j) 4 ≠ pBeaconFrame.bytes (4 * j) 4 then dword pBeaconFrame (4 * j)
      else asic (offset + 4 * j) := by
  induction n with
  | zero => exact (if_neg fun both => Nat.not_lt_zero j both.1).symm
  | succ n ih =>
    rw [writeFrame]
    have unseen : (writeFrame offset pBeaconFrame n (ptr, asic)).1.bytes (4 * n) 4 =
        ptr.bytes (4 * n) 4 := by
      apply List.map_congr_left
      intro i _
      rw [writeFrame_shadow, if_neg (by omega)]
    dsimp only
    simp only [unseen]
    by_cases here : j = n
    · subst here
      rw [if_neg fun both => Nat.lt_irrefl j both.1] at ih
      split_ifs with equal now later
      · exact absurd equal now.2
      · exact ih
      · dsimp only
        rw [regWrite, Function.update_self]
        unfold dword
        have stored (i : Nat) (inside : i < 4) : (writeFrame offset pBeaconFrame j (ptr, asic)).1.write
            (4 * j) (pBeaconFrame.bytes (4 * j) 4) (4 * j + i) = pBeaconFrame (4 * j + i) := by
          unfold Memory.write
          rw [if_pos (Nat.le_add_right _ _), Nat.add_sub_cancel_left,
            List.getD_eq_getElem _ _ (by rw [Memory.length_bytes]; exact inside)]
          simp only [Memory.bytes, List.getElem_map, List.getElem_range]
        have zero := stored 0 (by omega)
        rw [Nat.add_zero] at zero
        rw [zero, stored 1 (by omega)]
      · exact absurd ⟨Nat.lt_succ_self j, equal⟩ later
    · have bound : j < n + 1 ↔ j < n := by omega
      simp only [bound]
      rw [← ih]
      split_ifs with equal
      · rfl
      · dsimp only
        rw [regWrite, Function.update_of_ne (by omega)]

/-- Below the frame the loop writes nothing. -/
theorem writeFrame_before {n address : Nat} (before : address < offset) :
    (writeFrame offset pBeaconFrame n (ptr, asic)).2 address = asic address := by
  induction n with
  | zero => rfl
  | succ n ih =>
    rw [writeFrame]
    dsimp only
    split_ifs
    · exact ih
    · dsimp only
      rw [regWrite, Function.update_of_ne (by omega)]
      exact ih

end loops

/-- The words of a slot in the chip are those of the shadow buffers. -/
structure Mirrors (pAd : BeaconAdapter) (sync : BeaconSync) (bcnIdx : Nat) : Prop where
  txwi : ∀ k < wordCount txwiSize,
    pAd.asic (pAd.beaconOffset bcnIdx + 4 * k) = leWord (sync.beaconTxWI bcnIdx) (4 * k)
  frame : ∀ k,
    pAd.asic (pAd.beaconOffset bcnIdx + txwiSize + 4 * k) = leWord (sync.beaconBuf bcnIdx) (4 * k)

/-- The slot holds the new TXWI and behind it the frame, and the shadow buffers mirror it. -/
structure Rewritten (pAd after : BeaconAdapter) (apidx frameLen : Nat) : Prop where
  txwi : ∀ k < wordCount txwiSize,
    after.asic (pAd.beaconOffset (pAd.bcnBufIdx apidx) + 4 * k) = leWord pAd.beaconTxWI (4 * k)
  frame : ∀ n < frameLen,
    wordByte (after.asic (pAd.beaconOffset (pAd.bcnBufIdx apidx) + txwiSize + 4 * (n / 4))) (n % 4) =
      (pAd.beaconBuf apidx n).toNat
  mirrors : ∃ sync, after.pBeaconSync = some sync ∧ Mirrors after sync (pAd.bcnBufIdx apidx)

/-- The words that an update writes have nothing in their upper halves. -/
structure UpperHalvesZero (pAd : BeaconAdapter) (sync : BeaconSync) (apidx frameLen : Nat) :
    Prop where
  txwi : sync.isUnwritten (pAd.bcnBufIdx apidx) = true ∨
      sync.txwiChanged (pAd.bcnBufIdx apidx) pAd.beaconTxWI = true →
    ∀ k < wordCount txwiSize, pAd.beaconTxWI (4 * k + 2) = 0 ∧ pAd.beaconTxWI (4 * k + 3) = 0
  frame : ∀ k < wordCount (frameLen + (frameLen &&& 3)),
    (sync.beaconBuf (pAd.bcnBufIdx apidx)).bytes (4 * k) 4 ≠
        (padFrame (pAd.beaconBuf apidx) frameLen).bytes (4 * k) 4 →
      padFrame (pAd.beaconBuf apidx) frameLen (4 * k + 2) = 0 ∧
        padFrame (pAd.beaconBuf apidx) frameLen (4 * k + 3) = 0

theorem bytes_eq_iff {first second : Memory} {start count : Nat} :
    first.bytes start count = second.bytes start count ↔
      ∀ i < count, first (start + i) = second (start + i) := by
  unfold Memory.bytes
  rw [List.map_inj_left]
  simp only [List.mem_range]

theorem leWord_congr {first second : Memory} {start : Nat}
    (same : first.bytes start 4 = second.bytes start 4) : leWord first start = leWord second start := by
  have byte := bytes_eq_iff.mp same
  have zero := byte 0 (by omega)
  rw [Nat.add_zero] at zero
  unfold leWord
  rw [zero, byte 1 (by omega), byte 2 (by omega), byte 3 (by omega)]

namespace BeaconSync

variable {sync : BeaconSync} {bcnIdx : Nat} {txwi : Memory}

theorem isUnwritten_eq : sync.isUnwritten bcnIdx = !sync.beaconBitMap.getLsbD bcnIdx := by
  have same : sync.beaconBitMap.toNat &&& 1 <<< bcnIdx = 1 <<< bcnIdx ↔
      sync.beaconBitMap.getLsbD bcnIdx = true := by
    rw [Nat.one_shiftLeft, Nat.and_two_pow, BitVec.getLsbD]
    cases sync.beaconBitMap.toNat.testBit bcnIdx with
    | true => simp
    | false => simp [(Nat.two_pow_pos bcnIdx).ne]
  unfold isUnwritten
  cases bit : sync.beaconBitMap.getLsbD bcnIdx with
  | true => simp [same.mpr bit]
  | false =>
    have different := mt same.mp (by rw [bit]; exact Bool.false_ne_true)
    simp [different]

/-- A TXWI that has changed is written again. -/
theorem noteTxwi_isUnwritten (sync : BeaconSync) (bcnIdx : Nat) (txwi : Memory) :
    (sync.noteTxwi bcnIdx txwi).isUnwritten bcnIdx = true ↔
      sync.isUnwritten bcnIdx = true ∨ sync.txwiChanged bcnIdx txwi = true := by
  unfold noteTxwi
  split_ifs with changed
  · rw [isUnwritten_eq]
    simp only [changed, or_true, iff_true, Bool.not_eq_true']
    unfold beaconBitmapMask bitOf
    rw [BitVec.getLsbD_and, BitVec.getLsbD_not, BitVec.getLsbD_and, BitVec.getLsbD_shiftLeft]
    by_cases inside : bcnIdx < 8
    · have full : (255#8).getLsbD bcnIdx = true := by
        interval_cases bcnIdx <;> rfl
      simp [inside, full]
    · rw [BitVec.getLsbD_of_ge _ _ (Nat.not_lt.mp inside), Bool.false_and]
  · simp [changed]

/-- The shadow of the TXWI is the new one, whether it has changed or not. -/
theorem noteTxwi_leWord (sync : BeaconSync) (bcnIdx : Nat) (txwi : Memory) {k : Nat}
    (inside : k < wordCount txwiSize) :
    leWord ((sync.noteTxwi bcnIdx txwi).beaconTxWI bcnIdx) (4 * k) = leWord txwi (4 * k) := by
  have within : 4 * k + 4 ≤ txwiSize := by
    unfold wordCount txwiSize at inside
    unfold txwiSize
    omega
  apply leWord_congr
  rw [bytes_eq_iff]
  intro i below
  unfold noteTxwi
  split_ifs with changed
  · dsimp only
    rw [Function.update_self]
    have stored := bytes_eq_iff.mp (((sync.beaconTxWI bcnIdx).bytes_write 0 (txwi.bytes 0 txwiSize)).trans
      (by rw [Memory.length_bytes])) (4 * k + i) (by rw [Memory.length_bytes]; omega)
    rwa [Nat.zero_add] at stored
  · have same : (sync.beaconTxWI bcnIdx).bytes 0 txwiSize = txwi.bytes 0 txwiSize := by
      simpa [txwiChanged] using changed
    have byte := bytes_eq_iff.mp same (4 * k + i) (by omega)
    rwa [Nat.zero_add] at byte

theorem noteTxwi_beaconBuf : (sync.noteTxwi bcnIdx txwi).beaconBuf = sync.beaconBuf := by
  unfold noteTxwi
  split_ifs <;> rfl

end BeaconSync

section update

variable {pAd : BeaconAdapter} {sync : BeaconSync} {apidx frameLen : Nat}

/-- A word of the TXWI in the chip behind the update. -/
theorem writeBeacon_txwi (frameLen : Nat) (mirrors : Mirrors pAd sync (pAd.bcnBufIdx apidx)) {k : Nat}
    (inside : k < wordCount txwiSize) :
    (writeBeacon pAd sync apidx (pAd.bcnBufIdx apidx) frameLen).asic
        (pAd.beaconOffset (pAd.bcnBufIdx apidx) + 4 * k) =
      if sync.isUnwritten (pAd.bcnBufIdx apidx) = true ∨
          sync.txwiChanged (pAd.bcnBufIdx apidx) pAd.beaconTxWI = true then
        dword pAd.beaconTxWI (4 * k)
      else leWord pAd.beaconTxWI (4 * k) := by
  have before : pAd.beaconOffset (pAd.bcnBufIdx apidx) + 4 * k <
      pAd.beaconOffset (pAd.bcnBufIdx apidx) + txwiSize := by
    unfold wordCount txwiSize at inside
    unfold txwiSize
    omega
  have noted := sync.noteTxwi_isUnwritten (pAd.bcnBufIdx apidx) pAd.beaconTxWI
  unfold writeBeacon
  dsimp only
  rw [writeFrame_before before]
  split_ifs with unwritten now later
  · exact writeTxwi_at inside
  · exact absurd (noted.mp unwritten) now
  · exact absurd (noted.mpr later) unwritten
  · have unchanged : ¬sync.txwiChanged (pAd.bcnBufIdx apidx) pAd.beaconTxWI = true :=
      fun changed => unwritten (noted.mpr (Or.inr changed))
    have word := sync.noteTxwi_leWord (pAd.bcnBufIdx apidx) pAd.beaconTxWI inside
    unfold BeaconSync.noteTxwi at word
    rw [if_neg unchanged] at word
    rw [mirrors.txwi k inside, word]

/-- A word of the frame in the chip behind the update. -/
theorem writeBeacon_frame (frameLen : Nat) (mirrors : Mirrors pAd sync (pAd.bcnBufIdx apidx)) (k : Nat) :
    (writeBeacon pAd sync apidx (pAd.bcnBufIdx apidx) frameLen).asic
        (pAd.beaconOffset (pAd.bcnBufIdx apidx) + txwiSize + 4 * k) =
      if k < wordCount (frameLen + (frameLen &&& 3)) ∧
          (sync.beaconBuf (pAd.bcnBufIdx apidx)).bytes (4 * k) 4 ≠
            (padFrame (pAd.beaconBuf apidx) frameLen).bytes (4 * k) 4 then
        dword (padFrame (pAd.beaconBuf apidx) frameLen) (4 * k)
      else leWord (sync.beaconBuf (pAd.bcnBufIdx apidx)) (4 * k) := by
  have behind : pAd.beaconOffset (pAd.bcnBufIdx apidx) + 4 * wordCount txwiSize ≤
      pAd.beaconOffset (pAd.bcnBufIdx apidx) + txwiSize + 4 * k := by
    unfold wordCount txwiSize
    omega
  unfold writeBeacon
  dsimp only
  rw [writeFrame_asic, BeaconSync.noteTxwi_beaconBuf, ← mirrors.frame k]
  congr 1
  split_ifs
  · exact writeTxwi_behind behind
  · rfl

/-- The shadow of the frame behind the update. -/
theorem shadow_leWord (bcnIdx k : Nat) {asic : Registers} {offset : Nat} {frame ptr : Memory}
    {words : Nat} :
    leWord (Function.update sync.beaconBuf bcnIdx (writeFrame offset frame words (ptr, asic)).1
        bcnIdx) (4 * k) =
      if k < words then leWord frame (4 * k) else leWord ptr (4 * k) := by
  rw [Function.update_self]
  split_ifs with inside
  · apply leWord_congr
    rw [bytes_eq_iff]
    intro i below
    rw [writeFrame_shadow, if_pos (by omega)]
  · apply leWord_congr
    rw [bytes_eq_iff]
    intro i below
    rw [writeFrame_shadow, if_neg (by omega)]

end update

/-- Buffers and beacon memory that hold nothing. -/
def clearedSync : BeaconSync := ⟨fun _ _ => 0, fun _ _ => 0, 0, 0⟩

/-- An adapter with a beacon frame to be sent. -/
def beaconAdapter (frame : List UInt8) : BeaconAdapter where
  bssidNum := 1
  maxMbssidNum := 1
  bcnBufIdx := fun _ => 0
  beaconBuf := fun _ address => frame.getD address 0
  timIELocationInBeacon := fun _ => 36
  beaconTransmitRequired := fun _ => true
  beaconOffset := fun _ => 0xc000
  beaconTxWI := fun _ => 0
  pBeaconSync := some clearedSync
  asic := fun _ => 0

theorem leWord_zero (start : Nat) : leWord (fun _ => 0) start = 0 := by
  unfold leWord
  rw [UInt8.toNat_zero]
  rfl

theorem clearedSync_mirrors (frame : List UInt8) : Mirrors (beaconAdapter frame) clearedSync 0 :=
  ⟨fun _ _ => (leWord_zero _).symm, fun _ => (leWord_zero _).symm⟩

end Mt7612u.Ap
