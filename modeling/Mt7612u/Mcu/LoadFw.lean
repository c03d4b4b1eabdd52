import Mathlib

/-! The download of the firmware and of the ROM patch: what is read of the image, what is written to
the transfer buffer, and which bytes were transferred where. -/

namespace Mt7612u.Mcu.LoadFw

def enoent : Int := 2
def eagain : Int := 11
def enomem : Int := 12
def etimedout : Int := 110

/-- `UPLOAD_PATCH_UNIT`. -/
def uploadPatchUnit : Nat := 2048

/-- `UPLOAD_FW_UNIT`. -/
def uploadFwUnit : Nat := 14592

/-- `PATCH_INFO_SIZE`. -/
def patchInfoSize : Nat := 30

/-- `FW_INFO_SIZE`. -/
def fwInfoSize : Nat := 32

/-- `UPLOAD_PATCH_UNIT - MT_DMA_HDR_LEN - USB_END_PADDING`. -/
def sentLenMax : Nat := 2040

/-- Where `__mt76u_dma_fw` leaves, or that the chunk was transferred. -/
inductive DmaOutcome where
  | fceDescriptorLow
  | fceDescriptorHigh
  | fceLengthLow
  | fceLengthHigh
  | submit
  | timeout
  | sent
  deriving DecidableEq

/-- What was read of the image, as offset and length, how much of the buffer was used for each chunk,
and which byte of the image was transferred to which address. -/
structure Dma where
  reads : List (Int × Nat)
  filled : List Nat
  sent : List (Int × BitVec 32)

/-- A range of the image, byte by byte, with the addresses from `dst` on. -/
def bytes (data : Int) (len : Nat) (dst : BitVec 32) : List (Int × BitVec 32) :=
  (List.range len).map fun i : Nat => (data + (i : Int), dst + BitVec.ofNat 32 i)

/-- `__mt76u_dma_fw`, with its status. The URB has the TXINFO, the chunk rounded up to four bytes and
the padding. -/
def dmaFwChunk (outcome : DmaOutcome) (data : Int) (len : Nat) (dst : BitVec 32) : Int × Dma :=
  (if outcome = .sent then 0 else if outcome = .timeout then -etimedout else -1,
    { reads := [(data, len)]
      filled := [4 + len + 4, 4 + (len + 3) / 4 * 4 + 4]
      sent := if outcome = .sent then bytes data len dst else [] })

/-- The loop of `mt76u_dma_fw`; outcomes are given by the position of their chunk. The status of a
chunk is not looked at. -/
def dmaFwLoop (outcome : Nat → DmaOutcome) (data : Int) (dst : BitVec 32) :
    (rounds pos len : Nat) → Dma
  | 0, _, _ => ⟨[], [], []⟩
  | rounds + 1, pos, len =>
      if 0 < len then
        let sentLen := min len sentLenMax
        let (_, chunk) := dmaFwChunk (outcome pos) (data + pos) sentLen (dst + BitVec.ofNat 32 pos)
        let rest := dmaFwLoop outcome data dst rounds (pos + sentLen) (len - sentLen)
        { reads := chunk.reads ++ rest.reads
          filled := chunk.filled ++ rest.filled
          sent := chunk.sent ++ rest.sent }
      else ⟨[], [], []⟩

/-- `mt76u_dma_fw`. Its `ret` keeps the value it is declared with. -/
def mt76uDmaFw (outcome : Nat → DmaOutcome) (data len : Int) (dst : BitVec 32) : Int × Dma :=
  (0, dmaFwLoop outcome data dst len.toNat 0 len.toNat)

/-- Every chunk of a range is transferred. -/
def AllSent (outcome : Nat → DmaOutcome) (len : Nat) : Prop :=
  ∀ pos, pos < len → pos % sentLenMax = 0 → outcome pos = .sent

/-- A firmware file, and what is in memory behind it. -/
structure Image where
  data : List (BitVec 8)
  behind : Nat → BitVec 8

def Image.byte (image : Image) (i : Nat) : BitVec 8 := image.data.getD i (image.behind i)

/-- Four bytes as the code puts them together. -/
def Image.word (image : Image) (i : Nat) : BitVec 32 :=
  (image.byte (i + 3)).setWidth 32 <<< 24 ||| (image.byte (i + 2)).setWidth 32 <<< 16 |||
    (image.byte (i + 1)).setWidth 32 <<< 8 ||| (image.byte i).setWidth 32

def Image.ilmLen (image : Image) : BitVec 32 := image.word 0

def Image.dlmLen (image : Image) : BitVec 32 := image.word 4

/-- What a loader returns and did. `ivSent` is whether the interrupt vectors were uploaded. -/
structure Load where
  ret : Int
  reads : List (Int × Nat)
  filled : List Nat
  ilm : List (Int × BitVec 32)
  dlm : List (Int × BitVec 32)
  ivSent : Bool

/-- What `mt7612u_mcu_usb_loadfw` finds. -/
structure FwEnv where
  image : Image
  found : Bool
  ramCodeProtect : Bool
  loadIv : Bool
  /-- The semaphore is obtained. -/
  semaphore : Bool
  /-- `COM_REG0` has the ready bit before the load. -/
  running : Bool
  versionOk : Bool
  allocates : Bool
  ilmOffset : BitVec 32
  /-- `dlm_offset`, with `0x800` more for the chips from E3 on. -/
  dlmAddr : BitVec 32
  ilm : Nat → DmaOutcome
  dlm : Nat → DmaOutcome
  ivb : Bool
  /-- `COM_REG0` has the ready bit after the load. -/
  ready : Bool

namespace FwEnv

/-- Where the ILM starts: behind the interrupt vectors when they are loaded apart. -/
def pos (env : FwEnv) : Nat := if env.loadIv then 0x40 else 0

/-- `mt7612u_mcu_usb_loadfw`. -/
def mt7612uMcuUsbLoadfw (env : FwEnv) : Load :=
  if !env.found then ⟨-enoent, [], [], [], [], false⟩
  else if env.ramCodeProtect && !env.semaphore then ⟨-etimedout, [], [], [], [], false⟩
  else if env.running && env.ramCodeProtect then ⟨0, [], [], [], [], false⟩
  else
    let header : List (Int × Nat) := [(0, 12), (16, 16)]
    if !env.versionOk then ⟨-eagain, header, [], [], [], false⟩
    else if !env.allocates then ⟨-enomem, header, [], [], [], false⟩
    else
      let ilmChunk := (env.image.ilmLen - BitVec.ofNat 32 env.pos).toInt
      let (ret, ilm) := mt76uDmaFw env.ilm (fwInfoSize + env.pos) ilmChunk
        (BitVec.ofNat 32 env.pos + env.ilmOffset)
      if ret < 0 then ⟨ret, header ++ ilm.reads, ilm.filled, ilm.sent, [], false⟩
      else
        let (ret, dlm) := mt76uDmaFw env.dlm (fwInfoSize + env.image.ilmLen.toInt)
          env.image.dlmLen.toInt env.dlmAddr
        if ret < 0 then
          ⟨ret, header ++ ilm.reads ++ dlm.reads, ilm.filled ++ dlm.filled, ilm.sent, dlm.sent, false⟩
        else
          { ret := if env.ready then ret else -etimedout
            reads := header ++ ilm.reads ++ dlm.reads ++ if env.loadIv then [(32, 64)] else []
            filled := ilm.filled ++ dlm.filled
            ilm := ilm.sent
            dlm := dlm.sent
            ivSent := env.loadIv && env.ivb }

end FwEnv

/-- What `mt7612u_mcu_usb_load_rom_patch` finds. -/
structure PatchEnv where
  image : Image
  found : Bool
  romCodeProtect : Bool
  semaphore : Bool
  /-- The ready bit of the patch is set before the load. -/
  patched : Bool
  versionOk : Bool
  allocates : Bool
  romPatchOffset : BitVec 32
  chunks : Nat → DmaOutcome
  crcMatches : Bool
  enables : Bool
  ready : Bool

/-- How far `checksume16` reads: the last byte is taken whenever the length is not zero. -/
def checksumRead (len : Int) : Nat := if 0 < len then len.toNat else if len = 0 then 0 else 1

namespace PatchEnv

/-- The `int` in which the length is kept. -/
def patchLen (env : PatchEnv) : BitVec 32 :=
  BitVec.ofNat 32 env.image.data.length - BitVec.ofNat 32 patchInfoSize

/-- `mt7612u_mcu_usb_load_rom_patch`. -/
def mt7612uMcuUsbLoadRomPatch (env : PatchEnv) : Load :=
  if !env.found then ⟨-enoent, [], [], [], [], false⟩
  else if env.romCodeProtect && !env.semaphore then ⟨-etimedout, [], [], [], [], false⟩
  else if env.patched && env.romCodeProtect then ⟨0, [], [], [], [], false⟩
  else if !env.versionOk then ⟨-eagain, [(0, 16)], [], [], [], false⟩
  else
    let header : List (Int × Nat) := [(0, 16), (16, 12)]
    if !env.allocates then ⟨-enomem, header, [], [], [], false⟩
    else
      let (ret, patch) := mt76uDmaFw env.chunks patchInfoSize env.patchLen.toInt env.romPatchOffset
      if ret < 0 then ⟨ret, header ++ patch.reads, patch.filled, patch.sent, [], false⟩
      else
        let ret := if !env.crcMatches then -eagain else if !env.enables then -eagain
          else if !env.ready then -eagain else 0
        ⟨ret, header ++ patch.reads ++ [((patchInfoSize : Int), checksumRead env.patchLen.toInt)],
          patch.filled, patch.sent, [], false⟩

end PatchEnv

/-- Reads stay in the image. -/
def ReadsInside (reads : List (Int × Nat)) (size : Nat) : Prop :=
  ∀ read ∈ reads, read.2 ≠ 0 → 0 ≤ read.1 ∧ read.1 + read.2 ≤ size

/-- Only the image is read, only the buffer is written, and success means that every byte of the
ranges that the header declares was transferred once to its address, and the interrupt vectors where
they are loaded apart. -/
structure FwEnv.Faithful (env : FwEnv) : Prop where
  reads : ReadsInside env.mt7612uMcuUsbLoadfw.reads env.image.data.length
  filled : ∀ used ∈ env.mt7612uMcuUsbLoadfw.filled, used ≤ uploadFwUnit
  transferred : 0 ≤ env.mt7612uMcuUsbLoadfw.ret →
    env.mt7612uMcuUsbLoadfw.ilm = bytes (fwInfoSize + env.pos) (env.image.ilmLen.toNat - env.pos)
        (BitVec.ofNat 32 env.pos + env.ilmOffset) ∧
      env.mt7612uMcuUsbLoadfw.dlm = bytes (fwInfoSize + env.image.ilmLen.toNat)
        env.image.dlmLen.toNat env.dlmAddr ∧
      (env.loadIv = true → env.mt7612uMcuUsbLoadfw.ivSent = true)

structure PatchEnv.Faithful (env : PatchEnv) : Prop where
  reads : ReadsInside env.mt7612uMcuUsbLoadRomPatch.reads env.image.data.length
  filled : ∀ used ∈ env.mt7612uMcuUsbLoadRomPatch.filled, used ≤ uploadPatchUnit
  transferred : 0 ≤ env.mt7612uMcuUsbLoadRomPatch.ret →
    env.mt7612uMcuUsbLoadRomPatch.ilm =
      bytes patchInfoSize (env.image.data.length - patchInfoSize) env.romPatchOffset

section Chunks
variable {outcome : Nat → DmaOutcome} {data : Int} {dst : BitVec 32}

theorem length_bytes (data : Int) (len : Nat) (dst : BitVec 32) : (bytes data len dst).length = len := by
  rw [bytes, List.length_map, List.length_range]

theorem bytes_add (data : Int) (first second : Nat) (dst : BitVec 32) :
    bytes data (first + second) dst =
      bytes data first dst ++ bytes (data + first) second (dst + BitVec.ofNat 32 first) := by
  unfold bytes
  rw [List.range_add, List.map_append, List.map_map]
  apply congrArg (List.map _ (List.range first) ++ ·)
  apply List.map_congr_left
  intro i _
  simp only [Function.comp_apply, Nat.cast_add, BitVec.ofNat_add, Int.add_assoc, BitVec.add_assoc]

theorem length_sent_le (rounds pos len : Nat) :
    (dmaFwLoop outcome data dst rounds pos len).sent.length ≤ len := by
  induction rounds generalizing pos len with
  | zero => exact Nat.zero_le len
  | succ rounds ih =>
    unfold dmaFwLoop
    split
    next =>
      have rest := ih (pos + min len sentLenMax) (len - min len sentLenMax)
      simp only [dmaFwChunk, List.length_append]
      split
      next =>
        rw [length_bytes]
        omega
      next =>
        rw [List.length_nil]
        omega
    next => exact Nat.zero_le len

/-- A range whose chunks are all transferred is transferred whole. -/
theorem sent_of_all {rounds pos len : Nat} (enough : len ≤ rounds) (aligned : pos % sentLenMax = 0)
    (all : ∀ place, pos ≤ place → place < pos + len → place % sentLenMax = 0 →
      outcome place = .sent) :
    (dmaFwLoop outcome data dst rounds pos len).sent =
      bytes (data + pos) len (dst + BitVec.ofNat 32 pos) := by
  induction rounds generalizing pos len with
  | zero =>
    obtain rfl := Nat.le_zero.mp enough
    rfl
  | succ rounds ih =>
    unfold dmaFwLoop
    split
    next positive =>
      have sent := all pos le_rfl (by omega) aligned
      have whole : min len sentLenMax + (len - min len sentLenMax) = len := by omega
      have shifted : data + (pos : Int) + (min len sentLenMax : Nat) =
          data + (pos + min len sentLenMax : Nat) := by
        rw [Nat.cast_add, Int.add_assoc]
      have moved : dst + BitVec.ofNat 32 pos + BitVec.ofNat 32 (min len sentLenMax) =
          dst + BitVec.ofNat 32 (pos + min len sentLenMax) := by
        rw [BitVec.ofNat_add, BitVec.add_assoc]
      have split_bytes := bytes_add (data + pos) (min len sentLenMax) (len - min len sentLenMax)
        (dst + BitVec.ofNat 32 pos)
      rw [whole, shifted, moved] at split_bytes
      simp only [dmaFwChunk, if_pos sent]
      rw [split_bytes, List.append_cancel_left_eq]
      by_cases last : len ≤ sentLenMax
      · have none_left : len - min len sentLenMax = 0 := by omega
        rw [none_left]
        cases rounds <;> rfl
      · have full : min len sentLenMax = sentLenMax := by omega
        rw [full]
        apply ih
        · unfold sentLenMax at *
          omega
        · rw [Nat.add_mod_right]
          exact aligned
        · intro place above below multiple
          exact all place (by omega) (by omega) multiple
    next none_left =>
      obtain rfl : len = 0 := by omega
      rfl

/-- When as much was transferred as there was, each chunk was. -/
theorem all_of_length {rounds pos len : Nat} (enough : len ≤ rounds)
    (aligned : pos % sentLenMax = 0)
    (whole : (dmaFwLoop outcome data dst rounds pos len).sent.length = len) :
    ∀ place, pos ≤ place → place < pos + len → place % sentLenMax = 0 → outcome place = .sent := by
  induction rounds generalizing pos len with
  | zero =>
    obtain rfl := Nat.le_zero.mp enough
    intro place above below
    omega
  | succ rounds ih =>
    unfold dmaFwLoop at whole
    split at whole
    next positive =>
      have short := @length_sent_le outcome data dst rounds (pos + min len sentLenMax)
        (len - min len sentLenMax)
      simp only [dmaFwChunk, List.length_append] at whole
      split at whole
      next sent =>
        rw [length_bytes] at whole
        have later := @ih (pos + min len sentLenMax) (len - min len sentLenMax)
          (by unfold sentLenMax; omega)
        intro place above below multiple
        by_cases same : place = pos
        · exact same ▸ sent
        · by_cases last : len ≤ sentLenMax
          · unfold sentLenMax at *
            omega
          · have full : min len sentLenMax = sentLenMax := by omega
            rw [full] at later whole
            apply later _ (by omega) place _ (by omega) multiple
            · rw [Nat.add_mod_right]
              exact aligned
            · unfold sentLenMax at *
              omega
      next =>
        rw [List.length_nil] at whole
        unfold sentLenMax at *
        omega
    next none_left =>
      intro place above below
      omega

theorem reads_inside_iff {rounds pos len : Nat} (size : Nat) (enough : len ≤ rounds) :
    ReadsInside (dmaFwLoop outcome data dst rounds pos len).reads size ↔
      (0 < len → 0 ≤ data + pos ∧ data + pos + len ≤ size) := by
  induction rounds generalizing pos len with
  | zero =>
    obtain rfl := Nat.le_zero.mp enough
    exact iff_of_true (fun _ found => absurd found List.not_mem_nil) (fun absent => by omega)
  | succ rounds ih =>
    unfold dmaFwLoop
    split
    next positive =>
      have some_bytes : min len sentLenMax ≠ 0 := by
        unfold sentLenMax
        omega
      have rest := @ih (pos + min len sentLenMax) (len - min len sentLenMax) (by omega)
      simp only [dmaFwChunk]
      constructor
      · intro inside _
        have first := inside (data + pos, min len sentLenMax) List.mem_cons_self some_bytes
        have later := rest.mp fun read found => inside read (List.mem_cons_of_mem _ found)
        simp only at first
        push_cast at later
        by_cases last : 0 < len - min len sentLenMax
        · have bound := later last
          omega
        · omega
      · intro range read found nonzero
        have bounds := range positive
        rcases List.mem_cons.mp found with rfl | later
        · simp only
          omega
        · apply rest.mpr _ read later nonzero
          intro more
          push_cast
          omega
    next none_left =>
      obtain rfl : len = 0 := by omega
      exact iff_of_true (fun _ found => absurd found List.not_mem_nil) (fun absent => by omega)

theorem filled_le (rounds pos len : Nat) :
    ∀ used ∈ (dmaFwLoop outcome data dst rounds pos len).filled, used ≤ uploadPatchUnit := by
  induction rounds generalizing pos len with
  | zero => exact fun used found => absurd found List.not_mem_nil
  | succ rounds ih =>
    unfold dmaFwLoop
    split
    next =>
      intro used found
      rcases List.mem_append.mp found with chunk | later
      · simp only [dmaFwChunk, List.mem_cons, List.not_mem_nil, or_false] at chunk
        unfold sentLenMax at chunk
        unfold uploadPatchUnit
        omega
      · exact ih _ _ used later
    next => exact fun used found => absurd found List.not_mem_nil

theorem readsInside_append {first second : List (Int × Nat)} {size : Nat} :
    ReadsInside (first ++ second) size ↔ ReadsInside first size ∧ ReadsInside second size := by
  constructor
  · intro inside
    exact ⟨fun read found => inside read (List.mem_append_left _ found),
      fun read found => inside read (List.mem_append_right _ found)⟩
  · intro ⟨one, two⟩ read found
    exact (List.mem_append.mp found).elim (one read) (two read)

theorem readsInside_single {start : Int} {len size : Nat} :
    ReadsInside [(start, len)] size ↔ (len ≠ 0 → 0 ≤ start ∧ start + len ≤ size) := by
  constructor
  · intro inside
    exact inside (start, len) (List.mem_singleton_self _)
  · intro bound read found
    rw [List.mem_singleton.mp found]
    exact bound

theorem readsInside_nil {size : Nat} : ReadsInside [] size :=
  fun _ found => absurd found List.not_mem_nil

/-- What `mt76u_dma_fw` reads. -/
theorem dma_reads_iff (len : Int) (size : Nat) :
    ReadsInside (mt76uDmaFw outcome data len dst).2.reads size ↔
      (0 < len → 0 ≤ data ∧ data + len ≤ size) := by
  unfold mt76uDmaFw
  rw [reads_inside_iff size le_rfl, Nat.cast_zero, Int.add_zero]
  by_cases positive : 0 < len
  · have same : (len.toNat : Int) = len := Int.toNat_of_nonneg positive.le
    have nonzero : 0 < len.toNat := by omega
    simp only [same, positive, nonzero, true_imp_iff]
  · have none_left : ¬0 < len.toNat := by omega
    simp only [positive, none_left, false_imp_iff]

theorem dma_filled {len : Int} {unit : Nat} (large : uploadPatchUnit ≤ unit) :
    ∀ used ∈ (mt76uDmaFw outcome data len dst).2.filled, used ≤ unit :=
  fun used found => (filled_le _ _ _ used found).trans large

theorem bytes_eq_iff {start : Int} (len : Nat) :
    bytes data len dst = bytes start len dst ↔ len = 0 ∨ start = data := by
  constructor
  · intro same
    cases len with
    | zero => exact Or.inl rfl
    | succ len =>
      right
      have first := congrArg (fun list => list[0]?) same
      simp only [bytes, List.getElem?_map, List.getElem?_range (Nat.succ_pos len), Option.map_some,
        Option.some.injEq, Prod.mk.injEq] at first
      omega
  · intro either
    rcases either with rfl | rfl
    · rfl
    · rfl

/-- What `mt76u_dma_fw` transfers is the declared range exactly when that is as long as the range
given to it, each chunk was transferred, and the two start together if there is anything in them. -/
theorem dma_sent_iff {len start : Int} {declared : Nat} (longer : len.toNat ≤ declared) :
    (mt76uDmaFw outcome data len dst).2.sent = bytes start declared dst ↔
      declared = len.toNat ∧ AllSent outcome declared ∧ (declared = 0 ∨ start = data) := by
  have aligned : 0 % sentLenMax = 0 := Nat.zero_mod _
  have base : data + ((0 : Nat) : Int) = data := Int.add_zero data
  have same_dst : dst + BitVec.ofNat 32 0 = dst := BitVec.add_zero dst
  unfold mt76uDmaFw
  constructor
  · intro sent
    have short := @length_sent_le outcome data dst len.toNat 0 len.toNat
    have lengths := congrArg List.length sent
    rw [length_bytes] at lengths
    have whole : declared = len.toNat := by
      simp only at lengths
      omega
    have all := all_of_length le_rfl aligned (lengths.trans whole)
    have full := @sent_of_all outcome data dst len.toNat 0 len.toNat le_rfl aligned all
    rw [base, same_dst] at full
    simp only at sent
    rw [full, ← whole] at sent
    refine ⟨whole, ?_, (bytes_eq_iff declared).mp sent⟩
    intro pos below multiple
    exact all pos (Nat.zero_le pos) (by omega) multiple
  · intro ⟨whole, all, together⟩
    have full := @sent_of_all outcome data dst len.toNat 0 len.toNat le_rfl aligned
      (fun place _ below multiple => all place (by omega) multiple)
    rw [base, same_dst] at full
    simp only
    rw [full, ← whole]
    exact (bytes_eq_iff declared).mpr together

end Chunks

section Lengths

/-- A length as a signed number, without the negative ones. -/
theorem toInt_toNat (len : BitVec 32) :
    len.toInt.toNat = if len.toNat < 2 ^ 31 then len.toNat else 0 := by
  have small := len.isLt
  rw [BitVec.toInt_eq_toNat_cond]
  split_ifs <;> omega

theorem toInt_toNat_le (len : BitVec 32) : len.toInt.toNat ≤ len.toNat := by
  rw [toInt_toNat]
  split <;> omega

theorem toInt_whole (len : BitVec 32) : len.toNat = len.toInt.toNat ↔ len.toNat < 2 ^ 31 := by
  rw [toInt_toNat]
  split_ifs <;> omega

theorem toInt_eq (len : BitVec 32) : (len.toNat : Int) = len.toInt ↔ len.toNat < 2 ^ 31 := by
  have small := len.isLt
  rw [BitVec.toInt_eq_toNat_cond]
  split_ifs <;> omega

/-- The ILM without the vectors: what is left of its length, in 32 bits. -/
theorem chunk_toNat (len : BitVec 32) {pos : Nat} (small : pos ≤ 64) :
    (len - BitVec.ofNat 32 pos).toNat = if pos ≤ len.toNat then len.toNat - pos
      else 2 ^ 32 - (pos - len.toNat) := by
  have bound := len.isLt
  rw [BitVec.toNat_sub, BitVec.toNat_ofNat]
  split_ifs <;> omega

theorem chunk_le (len : BitVec 32) {pos : Nat} (small : pos ≤ 64) :
    (len - BitVec.ofNat 32 pos).toInt.toNat ≤ len.toNat - pos := by
  have bound := len.isLt
  rw [toInt_toNat, chunk_toNat len small]
  split_ifs <;> omega

theorem chunk_whole (len : BitVec 32) {pos : Nat} (small : pos ≤ 64) :
    len.toNat - pos = (len - BitVec.ofNat 32 pos).toInt.toNat ↔ len.toNat - pos < 2 ^ 31 := by
  have bound := len.isLt
  rw [toInt_toNat, chunk_toNat len small]
  split_ifs <;> omega

end Lengths

namespace FwEnv

/-- What the load needs when it comes to the two transfers. -/
structure Fits (env : FwEnv) : Prop where
  ilm : 0 < (env.image.ilmLen - BitVec.ofNat 32 env.pos).toInt →
    (fwInfoSize : Int) + env.pos + (env.image.ilmLen - BitVec.ofNat 32 env.pos).toInt ≤
      env.image.data.length
  dlm : 0 < env.image.dlmLen.toInt → 0 ≤ (fwInfoSize : Int) + env.image.ilmLen.toInt ∧
    (fwInfoSize : Int) + env.image.ilmLen.toInt + env.image.dlmLen.toInt ≤ env.image.data.length
  iv : env.loadIv = true → 96 ≤ env.image.data.length

/-- Every chunk is transferred, and the lengths are ones that the loops go through. -/
structure Transfers (env : FwEnv) : Prop where
  ilm : env.image.ilmLen.toNat - env.pos < 2 ^ 31 ∧
    AllSent env.ilm (env.image.ilmLen.toNat - env.pos)
  dlm : env.image.dlmLen.toNat < 2 ^ 31 ∧ AllSent env.dlm env.image.dlmLen.toNat ∧
    (env.image.dlmLen.toNat = 0 ∨ env.image.ilmLen.toNat < 2 ^ 31)
  iv : env.loadIv = true → env.ivb = true

/-- The condition for the firmware. -/
def Sound (env : FwEnv) : Prop :=
  if env.found = false ∨ env.ramCodeProtect = true ∧ env.semaphore = false then True
  else if env.running = true ∧ env.ramCodeProtect = true then
    env.image.ilmLen.toNat ≤ env.pos ∧ env.image.dlmLen.toNat = 0 ∧ env.loadIv = false
  else
    fwInfoSize ≤ env.image.data.length ∧ (env.versionOk = true → env.allocates = true →
      env.Fits ∧ (env.ready = true → env.Transfers))

variable {env : FwEnv}

theorem pos_le : env.pos ≤ 64 := by
  unfold pos
  split <;> omega

theorem header_inside (size : Nat) :
    ReadsInside [(0, 12), (16, 16)] size ↔ fwInfoSize ≤ size := by
  unfold fwInfoSize
  constructor
  · intro inside
    have last := inside (16, 16) (by simp) (by decide)
    simp only at last
    omega
  · intro long read found _
    simp only [List.mem_cons, List.not_mem_nil, or_false] at found
    rcases found with rfl | rfl <;> simp only <;> omega

/-- `mt7612u_mcu_usb_loadfw` from the first transfer on. -/
theorem loadfw_transfers (found : env.found = true)
    (semaphore : ¬(env.ramCodeProtect = true ∧ env.semaphore = false))
    (idle : ¬(env.running = true ∧ env.ramCodeProtect = true)) (version : env.versionOk = true)
    (memory : env.allocates = true) :
    env.mt7612uMcuUsbLoadfw =
      let ilm := (mt76uDmaFw env.ilm (fwInfoSize + env.pos)
        (env.image.ilmLen - BitVec.ofNat 32 env.pos).toInt
        (BitVec.ofNat 32 env.pos + env.ilmOffset)).2
      let dlm := (mt76uDmaFw env.dlm (fwInfoSize + env.image.ilmLen.toInt) env.image.dlmLen.toInt
        env.dlmAddr).2
      { ret := if env.ready then 0 else -etimedout
        reads := [(0, 12), (16, 16)] ++ ilm.reads ++ dlm.reads ++
          if env.loadIv then [(32, 64)] else []
        filled := ilm.filled ++ dlm.filled
        ilm := ilm.sent
        dlm := dlm.sent
        ivSent := env.loadIv && env.ivb } := by
  have sem : (env.ramCodeProtect && !env.semaphore) = false := by
    simpa using semaphore
  have run : (env.running && env.ramCodeProtect) = false := by
    simpa using idle
  unfold mt7612uMcuUsbLoadfw
  simp only [found, sem, run, version, memory, Bool.not_true, Bool.false_eq_true, if_false,
    mt76uDmaFw, Int.lt_irrefl]

theorem fits_iff (env : FwEnv) :
    (ReadsInside [(0, 12), (16, 16)] env.image.data.length ∧
      ReadsInside (mt76uDmaFw env.ilm (fwInfoSize + env.pos)
        (env.image.ilmLen - BitVec.ofNat 32 env.pos).toInt
        (BitVec.ofNat 32 env.pos + env.ilmOffset)).2.reads env.image.data.length ∧
      ReadsInside (mt76uDmaFw env.dlm (fwInfoSize + env.image.ilmLen.toInt)
        env.image.dlmLen.toInt env.dlmAddr).2.reads env.image.data.length ∧
      ReadsInside (if env.loadIv then [(32, 64)] else []) env.image.data.length) ↔
      fwInfoSize ≤ env.image.data.length ∧ env.Fits := by
  rw [header_inside, dma_reads_iff, dma_reads_iff]
  apply and_congr_right
  intro _
  constructor
  · intro ⟨ilm, dlm, iv⟩
    refine ⟨fun positive => (ilm positive).2, dlm, ?_⟩
    intro loads
    rw [loads, if_pos rfl, readsInside_single] at iv
    have bound := iv (by decide)
    omega
  · intro fits
    refine ⟨fun positive => ⟨by omega, fits.ilm positive⟩, fits.dlm, ?_⟩
    cases loads : env.loadIv with
    | false => exact readsInside_nil
    | true =>
      rw [if_pos rfl, readsInside_single]
      intro _
      have bound := fits.iv loads
      omega

theorem transfers_iff (env : FwEnv) :
    ((mt76uDmaFw env.ilm (fwInfoSize + env.pos)
        (env.image.ilmLen - BitVec.ofNat 32 env.pos).toInt
        (BitVec.ofNat 32 env.pos + env.ilmOffset)).2.sent =
        bytes (fwInfoSize + env.pos) (env.image.ilmLen.toNat - env.pos)
          (BitVec.ofNat 32 env.pos + env.ilmOffset) ∧
      (mt76uDmaFw env.dlm (fwInfoSize + env.image.ilmLen.toInt) env.image.dlmLen.toInt
        env.dlmAddr).2.sent =
        bytes (fwInfoSize + env.image.ilmLen.toNat) env.image.dlmLen.toNat env.dlmAddr ∧
      (env.loadIv = true → (env.loadIv && env.ivb) = true)) ↔ env.Transfers := by
  have together : ((fwInfoSize : Int) + env.image.ilmLen.toNat =
      fwInfoSize + env.image.ilmLen.toInt) ↔ env.image.ilmLen.toNat < 2 ^ 31 := by
    rw [Int.add_right_inj, toInt_eq]
  rw [dma_sent_iff (chunk_le env.image.ilmLen pos_le), chunk_whole env.image.ilmLen pos_le,
    dma_sent_iff (toInt_toNat_le env.image.dlmLen), toInt_whole, together]
  constructor
  · intro ⟨ilm, dlm, iv⟩
    refine ⟨⟨ilm.1, ilm.2.1⟩, dlm, ?_⟩
    intro loads
    simpa [loads] using iv loads
  · intro transfers
    refine ⟨⟨transfers.ilm.1, transfers.ilm.2, Or.inr rfl⟩, transfers.dlm, ?_⟩
    intro loads
    rw [loads, transfers.iv loads]
    rfl

/-- A load that ends before the transfers and reports a failure. -/
theorem faithful_of_failed {header : List (Int × Nat)} {ret : Int} (negative : ret < 0)
    (load : env.mt7612uMcuUsbLoadfw = ⟨ret, header, [], [], [], false⟩) :
    env.Faithful ↔ ReadsInside header env.image.data.length := by
  constructor
  · intro faithful
    simpa only [load] using faithful.reads
  · intro inside
    exact {
      reads := by simpa only [load] using inside
      filled := by simp [load]
      transferred := by
        intro success
        rw [load] at success
        simp only at success
        omega }

/-- The loader of the firmware does what is claimed exactly when its condition holds. -/
theorem faithful_iff (env : FwEnv) : env.Faithful ↔ env.Sound := by
  unfold Sound
  by_cases refused : env.found = false ∨ env.ramCodeProtect = true ∧ env.semaphore = false
  · rw [if_pos refused]
    have load : ∃ ret, ret < 0 ∧ env.mt7612uMcuUsbLoadfw = ⟨ret, [], [], [], [], false⟩ := by
      unfold mt7612uMcuUsbLoadfw
      cases found : env.found with
      | false => exact ⟨-enoent, by decide, rfl⟩
      | true =>
        obtain ⟨protect, none_got⟩ := refused.resolve_left (by simp [found])
        exact ⟨-etimedout, by decide, by simp [protect, none_got]⟩
    obtain ⟨ret, negative, load⟩ := load
    rw [faithful_of_failed negative load]
    exact iff_of_true readsInside_nil trivial
  rw [if_neg refused]
  rw [not_or, Bool.not_eq_false] at refused
  obtain ⟨found, semaphore⟩ := refused
  have sem : (env.ramCodeProtect && !env.semaphore) = false := by simpa using semaphore
  by_cases running : env.running = true ∧ env.ramCodeProtect = true
  · rw [if_pos running]
    have load : env.mt7612uMcuUsbLoadfw = ⟨0, [], [], [], [], false⟩ := by
      unfold mt7612uMcuUsbLoadfw
      rw [found, sem, running.1, running.2]
      rfl
    have empty : ∀ start len dst, ([] : List (Int × BitVec 32)) = bytes start len dst ↔ len = 0 := by
      intro start len dst
      constructor
      · intro same
        rw [← length_bytes start len dst, ← same]
        rfl
      · rintro rfl
        rfl
    constructor
    · intro faithful
      have transferred := faithful.transferred (by rw [load])
      rw [load] at transferred
      simp only [empty, Bool.false_eq_true, imp_false, Bool.not_eq_true] at transferred
      exact ⟨by omega, transferred.2.1, transferred.2.2⟩
    · intro ⟨ilm, dlm, iv⟩
      exact {
        reads := by
          rw [load]
          exact readsInside_nil
        filled := by simp [load]
        transferred := by
          intro _
          rw [load]
          simp only [empty, Bool.false_eq_true, imp_false, Bool.not_eq_true]
          exact ⟨by omega, dlm, iv⟩ }
  rw [if_neg running]
  have run : (env.running && env.ramCodeProtect) = false := by simpa using running
  cases version : env.versionOk with
  | false =>
    have load : env.mt7612uMcuUsbLoadfw = ⟨-eagain, [(0, 12), (16, 16)], [], [], [], false⟩ := by
      unfold mt7612uMcuUsbLoadfw
      rw [found, sem, run, version]
      rfl
    rw [faithful_of_failed (by decide) load, header_inside]
    simp
  | true =>
    cases memory : env.allocates with
    | false =>
      have load : env.mt7612uMcuUsbLoadfw = ⟨-enomem, [(0, 12), (16, 16)], [], [], [], false⟩ := by
        unfold mt7612uMcuUsbLoadfw
        rw [found, sem, run, version, memory]
        rfl
      rw [faithful_of_failed (by decide) load, header_inside]
      simp
    | true =>
      have load := loadfw_transfers found semaphore running version memory
      have reads := fits_iff env
      have sent := transfers_iff env
      have unit : uploadPatchUnit ≤ uploadFwUnit := by decide
      simp only [true_imp_iff]
      rw [← and_assoc, ← reads, ← sent]
      constructor
      · intro faithful
        have inside := faithful.reads
        have transferred := faithful.transferred
        rw [load] at inside transferred
        simp only [readsInside_append] at inside
        refine ⟨⟨inside.1.1.1, inside.1.1.2, inside.1.2, inside.2⟩, ?_⟩
        intro ready
        exact transferred (by simp [ready])
      · intro ⟨inside, transferred⟩
        exact {
          reads := by
            rw [load]
            simp only [readsInside_append]
            exact ⟨⟨⟨inside.1, inside.2.1⟩, inside.2.2.1⟩, inside.2.2.2⟩
          filled := by
            rw [load]
            intro used found_used
            exact (List.mem_append.mp found_used).elim (dma_filled unit used) (dma_filled unit used)
          transferred := by
            rw [load]
            intro success
            cases ready : env.ready with
            | false =>
              simp [ready, etimedout] at success
            | true => exact transferred ready }

end FwEnv

namespace PatchEnv

/-- The condition for the ROM patch. -/
def Sound (env : PatchEnv) : Prop :=
  if env.found = false ∨ env.romCodeProtect = true ∧ env.semaphore = false then True
  else if env.patched = true ∧ env.romCodeProtect = true then
    env.image.data.length ≤ patchInfoSize
  else if env.versionOk = false then 16 ≤ env.image.data.length
  else if env.allocates = false then 28 ≤ env.image.data.length
  else
    patchInfoSize ≤ env.image.data.length ∧
      (env.crcMatches = true ∧ env.enables = true ∧ env.ready = true →
        env.image.data.length - patchInfoSize < 2 ^ 31 ∧
          AllSent env.chunks (env.image.data.length - patchInfoSize))

variable {env : PatchEnv}

theorem patchHeader_inside (size : Nat) : ReadsInside [(0, 16), (16, 12)] size ↔ 28 ≤ size := by
  constructor
  · intro inside
    have last := inside (16, 12) (by simp) (by decide)
    simp only at last
    omega
  · intro long read found _
    simp only [List.mem_cons, List.not_mem_nil, or_false] at found
    rcases found with rfl | rfl <;> simp only <;> omega

/-- `mt7612u_mcu_usb_load_rom_patch` from the transfer on. -/
theorem loadRomPatch_transfers (found : env.found = true)
    (semaphore : ¬(env.romCodeProtect = true ∧ env.semaphore = false))
    (unpatched : ¬(env.patched = true ∧ env.romCodeProtect = true)) (version : env.versionOk = true)
    (memory : env.allocates = true) :
    env.mt7612uMcuUsbLoadRomPatch =
      let patch := (mt76uDmaFw env.chunks patchInfoSize env.patchLen.toInt env.romPatchOffset).2
      { ret := if !env.crcMatches then -eagain else if !env.enables then -eagain
          else if !env.ready then -eagain else 0
        reads := [(0, 16), (16, 12)] ++ patch.reads ++
          [((patchInfoSize : Int), checksumRead env.patchLen.toInt)]
        filled := patch.filled
        ilm := patch.sent
        dlm := []
        ivSent := false } := by
  have sem : (env.romCodeProtect && !env.semaphore) = false := by simpa using semaphore
  have pat : (env.patched && env.romCodeProtect) = false := by simpa using unpatched
  unfold mt7612uMcuUsbLoadRomPatch
  simp only [found, sem, pat, version, memory, Bool.not_true, Bool.false_eq_true, if_false,
    mt76uDmaFw, Int.lt_irrefl]

/-- The length of the patch as the transfer takes it. -/
theorem patchLen_cases (long : patchInfoSize ≤ env.image.data.length) :
    env.patchLen.toInt.toNat ≤ env.image.data.length - patchInfoSize ∧
      (env.image.data.length - patchInfoSize = env.patchLen.toInt.toNat ↔
        env.image.data.length - patchInfoSize < 2 ^ 31) := by
  have wrapped : env.patchLen.toNat = (env.image.data.length - patchInfoSize) % 2 ^ 32 := by
    unfold patchLen patchInfoSize at *
    rw [BitVec.toNat_sub, BitVec.toNat_ofNat, BitVec.toNat_ofNat]
    omega
  rw [toInt_toNat, wrapped]
  constructor
  · split_ifs <;> omega
  · split_ifs <;> omega

/-- The transfer and the checksum read the image when it is not shorter than its header. -/
theorem patchReads_iff (env : PatchEnv) :
    (ReadsInside [(0, 16), (16, 12)] env.image.data.length ∧
      ReadsInside (mt76uDmaFw env.chunks patchInfoSize env.patchLen.toInt
        env.romPatchOffset).2.reads env.image.data.length ∧
      ReadsInside [((patchInfoSize : Int), checksumRead env.patchLen.toInt)]
        env.image.data.length) ↔ patchInfoSize ≤ env.image.data.length := by
  rw [patchHeader_inside, dma_reads_iff, readsInside_single]
  constructor
  · intro ⟨header, _, checksum⟩
    by_contra short
    -- the length has wrapped to a negative number, and its last byte is read
    have negative : env.patchLen.toInt < 0 := by
      have wrapped : env.patchLen.toNat = 2 ^ 32 - (patchInfoSize - env.image.data.length) := by
        unfold patchLen patchInfoSize at *
        rw [BitVec.toNat_sub, BitVec.toNat_ofNat, BitVec.toNat_ofNat]
        omega
      rw [BitVec.toInt_eq_toNat_cond, wrapped]
      unfold patchInfoSize at *
      split_ifs <;> omega
    have reads : checksumRead env.patchLen.toInt = 1 := by
      unfold checksumRead
      rw [if_neg (by omega), if_neg (by omega)]
    have bound := checksum (by rw [reads]; decide)
    rw [reads] at bound
    omega
  · intro long
    have cases_len := (@patchLen_cases env long).1
    refine ⟨le_trans (by decide) long, ?_, ?_⟩
    · intro positive
      omega
    · intro reads
      unfold checksumRead at reads ⊢
      split_ifs at reads ⊢ with positive zero
      · omega
      · exact absurd rfl reads
      · have some_bytes : patchInfoSize < env.image.data.length := by
          by_contra exactly
          have same : env.image.data.length = patchInfoSize := by omega
          apply zero
          unfold patchLen
          rw [same, BitVec.sub_self]
          rfl
        omega

theorem patch_faithful_of_failed {header : List (Int × Nat)} {ret : Int} (negative : ret < 0)
    (load : env.mt7612uMcuUsbLoadRomPatch = ⟨ret, header, [], [], [], false⟩) :
    env.Faithful ↔ ReadsInside header env.image.data.length := by
  constructor
  · intro faithful
    simpa only [load] using faithful.reads
  · intro inside
    exact {
      reads := by simpa only [load] using inside
      filled := by simp [load]
      transferred := by
        intro success
        rw [load] at success
        simp only at success
        omega }

/-- The loader of the ROM patch does what is claimed exactly when its condition holds. -/
theorem patch_faithful_iff (env : PatchEnv) : env.Faithful ↔ env.Sound := by
  unfold Sound
  by_cases refused : env.found = false ∨ env.romCodeProtect = true ∧ env.semaphore = false
  · rw [if_pos refused]
    have load : ∃ ret, ret < 0 ∧ env.mt7612uMcuUsbLoadRomPatch = ⟨ret, [], [], [], [], false⟩ := by
      unfold mt7612uMcuUsbLoadRomPatch
      cases found : env.found with
      | false => exact ⟨-enoent, by decide, rfl⟩
      | true =>
        obtain ⟨protect, none_got⟩ := refused.resolve_left (by simp [found])
        exact ⟨-etimedout, by decide, by simp [protect, none_got]⟩
    obtain ⟨ret, negative, load⟩ := load
    rw [patch_faithful_of_failed negative load]
    exact iff_of_true readsInside_nil trivial
  rw [if_neg refused]
  rw [not_or, Bool.not_eq_false] at refused
  obtain ⟨found, semaphore⟩ := refused
  have sem : (env.romCodeProtect && !env.semaphore) = false := by simpa using semaphore
  by_cases patched : env.patched = true ∧ env.romCodeProtect = true
  · rw [if_pos patched]
    have load : env.mt7612uMcuUsbLoadRomPatch = ⟨0, [], [], [], [], false⟩ := by
      unfold mt7612uMcuUsbLoadRomPatch
      rw [found, sem, patched.1, patched.2]
      rfl
    constructor
    · intro faithful
      have transferred := faithful.transferred (by rw [load])
      rw [load] at transferred
      have lengths := congrArg List.length transferred
      rw [length_bytes] at lengths
      simp only [List.length_nil] at lengths
      omega
    · intro short
      exact {
        reads := by
          rw [load]
          exact readsInside_nil
        filled := by simp [load]
        transferred := by
          intro _
          rw [load, Nat.sub_eq_zero_of_le short]
          rfl }
  rw [if_neg patched]
  have pat : (env.patched && env.romCodeProtect) = false := by simpa using patched
  cases version : env.versionOk with
  | false =>
    have load : env.mt7612uMcuUsbLoadRomPatch = ⟨-eagain, [(0, 16)], [], [], [], false⟩ := by
      unfold mt7612uMcuUsbLoadRomPatch
      rw [found, sem, pat, version]
      rfl
    rw [patch_faithful_of_failed (by decide) load, readsInside_single, if_pos rfl]
    constructor
    · intro inside
      have bound := inside (by decide)
      omega
    · intro long _
      omega
  | true =>
    rw [if_neg (by decide)]
    cases memory : env.allocates with
    | false =>
      have load : env.mt7612uMcuUsbLoadRomPatch =
          ⟨-enomem, [(0, 16), (16, 12)], [], [], [], false⟩ := by
        unfold mt7612uMcuUsbLoadRomPatch
        rw [found, sem, pat, version, memory]
        rfl
      rw [patch_faithful_of_failed (by decide) load, patchHeader_inside, if_pos rfl]
    | true =>
      have load := loadRomPatch_transfers found semaphore patched version memory
      have reads := patchReads_iff env
      rw [if_neg (by decide)]
      constructor
      · intro faithful
        have inside := faithful.reads
        have transferred := faithful.transferred
        rw [load] at inside transferred
        simp only [readsInside_append] at inside
        have long := reads.mp ⟨inside.1.1, inside.1.2, inside.2⟩
        apply And.intro long
        intro ⟨crc, enables, ready⟩
        have sent := transferred (by simp [crc, enables, ready])
        have lengths := @patchLen_cases env long
        obtain ⟨whole, all, _⟩ := (dma_sent_iff lengths.1).mp sent
        exact ⟨lengths.2.mp whole, all⟩
      · intro ⟨long, condition⟩
        have lengths := @patchLen_cases env long
        obtain ⟨header, patch, checksum⟩ := reads.mpr long
        exact {
          reads := by
            rw [load]
            simp only [readsInside_append]
            exact ⟨⟨header, patch⟩, checksum⟩
          filled := by
            rw [load]
            exact dma_filled le_rfl
          transferred := by
            rw [load]
            intro success
            have good : env.crcMatches = true ∧ env.enables = true ∧ env.ready = true := by
              cases crc : env.crcMatches with
              | false => simp [crc, eagain] at success
              | true =>
                cases enables : env.enables with
                | false => simp [crc, enables, eagain] at success
                | true =>
                  cases ready : env.ready with
                  | false => simp [crc, enables, ready, eagain] at success
                  | true => exact ⟨rfl, rfl, rfl⟩
            obtain ⟨small, all⟩ := condition good
            exact (dma_sent_iff lengths.1).mpr ⟨lengths.2.mpr small, all, Or.inr rfl⟩ }

end PatchEnv

/-- Where each of the two loaders does what is claimed. -/
theorem loaders_faithful_iff (firmware : FwEnv) (patch : PatchEnv) :
    (firmware.Faithful ↔ firmware.Sound) ∧ (patch.Faithful ↔ patch.Sound) :=
  ⟨firmware.faithful_iff, patch.patch_faithful_iff⟩

/-- An image with four bytes of ILM whose only chunk is not transferred. -/
def lostChunk : FwEnv where
  image := ⟨[4, 0, 0, 0] ++ List.replicate 32 0, fun _ => 0⟩
  found := true
  ramCodeProtect := false
  loadIv := false
  semaphore := true
  running := false
  versionOk := true
  allocates := true
  ilmOffset := 0x80000
  dlmAddr := 0x110800
  ilm := fun _ => .timeout
  dlm := fun _ => .sent
  ivb := true
  ready := true

theorem not_loadfw_faithful : ¬∀ env : FwEnv, env.Faithful := by
  intro always
  have sent := ((always lostChunk).transferred (by decide)).1
  have lengths := congrArg List.length sent
  rw [length_bytes] at lengths
  exact absurd lengths (by decide)

end Mt7612u.Mcu.LoadFw
