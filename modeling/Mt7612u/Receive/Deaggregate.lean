import Mt7612u.Receive.Convert8023

/-! `deaggregate_AMSDU_announce` of `cmm_data.c`: the walk over the sub-frames of an A-MSDU,
with a record of every byte range it touches and every unsigned difference it takes. -/

namespace Mt7612u.Receive

/-- A big-endian 16-bit field. -/
def be16 (mem : Memory) (offset : Nat) : Nat := (mem offset).toNat * 256 + (mem (offset + 1)).toNat

theorem be16_lt (mem : Memory) (offset : Nat) : be16 mem offset < 65536 := by
  have high := (mem offset).toNat_lt
  have low := (mem (offset + 1)).toNat_lt
  unfold be16
  omega

inductive OpMode where
  | ap
  | sta
  deriving DecidableEq

def hwBeaconMaxNum : Nat := 16
def length8021Q : Nat := 4

/-- The fields of `ApCfg` read here. -/
structure ApCfg where
  bssidNum : Nat
  bssidNum_le : bssidNum ≤ hwBeaconMaxNum
  vlanVID : Nat → BitVec 16
  vlanPriority : Nat → BitVec 16

/-- What the walk reads besides the bytes, and which of its allocations succeed. -/
structure DeaggContext where
  opMode : OpMode
  apCfg : ApCfg
  fromWhichBSSID : Nat
  tpid : UInt8 × UInt8
  elemAllocated : Nat → Bool
  cloned : Nat → Bool

namespace DeaggContext

def vlanSize (c : DeaggContext) : Nat :=
  if c.fromWhichBSSID < c.apCfg.bssidNum then
    if c.apCfg.vlanVID c.fromWhichBSSID ≠ 0 then length8021Q else 0
  else 0

/-- `MBSS_VLAN_INFO_GET`, the VID and the priority being 0 before. -/
def mbssVlanInfo (c : DeaggContext) : BitVec 16 × BitVec 16 :=
  if c.fromWhichBSSID < c.apCfg.bssidNum ∧ c.fromWhichBSSID < hwBeaconMaxNum ∧
      c.apCfg.vlanVID c.fromWhichBSSID ≠ 0 then
    (c.apCfg.vlanVID c.fromWhichBSSID, c.apCfg.vlanPriority c.fromWhichBSSID)
  else (0, 0)

end DeaggContext

/-- `VLAN_8023_Header_Copy` of a 14-byte header: the bytes it stores. -/
def vlan8023HeaderCopy (vid priority : BitVec 16) (header : List UInt8) (tpid : UInt8 × UInt8) :
    List UInt8 :=
  if vid ≠ 0 then
    let tci := vid &&& 0x0fff#16 ||| (priority &&& 7#16) <<< 13
    header.take length8023NoType ++
      [tpid.1, tpid.2, UInt8.ofNat (tci.toNat / 256), UInt8.ofNat (tci.toNat % 256)] ++
      header.drop length8023NoType
  else header

/-- What one pass of the loop touches and computes. `frame` is the sub-frame as its own length
field declares it. -/
structure Pass where
  frame : Span
  touched : List Span
  sizes : List Int

structure Deaggregated where
  nMSDU : Nat
  announced : List (List UInt8)
  passes : List Pass
  mem : Memory

namespace Deaggregated

/-- A pass before the rest of the walk. -/
def after (pass : Pass) (frames : List (List UInt8)) (rest : Deaggregated) : Deaggregated :=
  { rest with announced := frames ++ rest.announced, passes := pass :: rest.passes }

end Deaggregated

def isEapolHeader (header : List UInt8) : Bool := header.drop length8023NoType == eapol

/-- The bytes put in front of the payload. -/
def storedHeader (c : DeaggContext) (converted : Converted) : List UInt8 :=
  match c.opMode with
  | .ap => vlan8023HeaderCopy c.mbssVlanInfo.1 c.mbssVlanInfo.2 converted.p8023hdr c.tpid
  | .sta => if converted.pRemovedLLCSNAP.isSome then converted.p8023hdr else []

/-- `pPayload` and `PayloadSize` as they are handed to `ClonePacket`. -/
def announcedSpan (c : DeaggContext) (converted : Converted) : Span :=
  match c.opMode, converted.pRemovedLLCSNAP.isSome with
  | .ap, true =>
      ⟨converted.pData - (length8023 + c.vlanSize),
        u16 (converted.dataSize + (length8023 + c.vlanSize))⟩
  | .ap, false => ⟨converted.pData - c.vlanSize, u16 (converted.dataSize + c.vlanSize)⟩
  | .sta, true => ⟨converted.pData - length8023, u16 (converted.dataSize + length8023)⟩
  | .sta, false => ⟨converted.pData, converted.dataSize⟩

/-- The conversion of the sub-frame at `pData`. -/
def convertSubFrame (mem : Memory) (pData : Nat) : Converted :=
  convertTo8023 mem pData (pData + macAddrLen) (pData + length8023)
    (be16 mem (pData + length8023NoType))

/-- Memory after the header has been stored. -/
def storeHeader (c : DeaggContext) (mem : Memory) (pData : Nat) : Memory :=
  mem.write (announcedSpan c (convertSubFrame mem pData)).start
    (storedHeader c (convertSubFrame mem pData))

/-- The frame announced for the sub-frame at `pData`, where the clone succeeds. -/
def announcedFrames (c : DeaggContext) (mem : Memory) (pData nMSDU : Nat) : List (List UInt8) :=
  let span := announcedSpan c (convertSubFrame mem pData)
  if c.cloned nMSDU then [(storeHeader c mem pData).bytes span.start span.count] else []

/-- The byte ranges touched for the sub-frame at `pData`. -/
def touchedSpans (c : DeaggContext) (mem : Memory) (pData nMSDU : Nat) : List Span :=
  let converted := convertSubFrame mem pData
  let span := announcedSpan c converted
  [⟨pData, length8023⟩, ⟨pData + length8023, 6⟩] ++
    (if hasSnap mem (pData + length8023) then [⟨pData + length8023 + 6, 2⟩] else []) ++
    (if isEapolHeader converted.p8023hdr && c.elemAllocated nMSDU then
      [⟨converted.pData, converted.dataSize⟩] else []) ++
    [⟨span.start, (storedHeader c converted).length⟩] ++
    (if c.cloned nMSDU then [span] else [])

/-- The unsigned differences taken for the sub-frame at `pData`. -/
def differences (mem : Memory) (pData dataSize subFrameSize : Nat) : List Int :=
  let payloadSize : Int := be16 mem (pData + length8023NoType)
  (if removesSnap mem (pData + length8023) then [payloadSize - length8021H] else []) ++
    (if subFrameSize < dataSize then [(dataSize : Int) - subFrameSize] else [])

/-- `(SubFrameSize + 3) & ~3`. -/
def align4 (n : Nat) : Nat := (n + 3) / 4 * 4

/-- `deaggregate_AMSDU_announce`, from its loop's head on. -/
def deaggregateAMSDUAnnounce (c : DeaggContext) (mem : Memory) (pData dataSize nMSDU : Nat) :
    Deaggregated :=
  if length8023 < dataSize then
    let payloadSize := be16 mem (pData + length8023NoType)
    let subFrameSize := u16 (payloadSize + length8023)
    let frame : Span := ⟨pData, length8023 + payloadSize⟩
    if dataSize < subFrameSize ∨ 1518 < payloadSize then
      ⟨nMSDU + 1, [], [⟨frame, [⟨pData, length8023⟩], []⟩], mem⟩
    else
      let pass : Pass := ⟨frame, touchedSpans c mem pData nMSDU,
        differences mem pData dataSize (align4 subFrameSize)⟩
      let frames := announcedFrames c mem pData nMSDU
      let mem := storeHeader c mem pData
      if 1528 < align4 subFrameSize ∨ align4 subFrameSize < 32 then
        Deaggregated.after pass frames ⟨nMSDU + 1, [], [], mem⟩
      else if align4 subFrameSize < dataSize then
        Deaggregated.after pass frames
          (deaggregateAMSDUAnnounce c mem (pData + align4 subFrameSize)
            (dataSize - align4 subFrameSize) (nMSDU + 1))
      else Deaggregated.after pass frames ⟨nMSDU + 1, [], [], mem⟩
  else ⟨nMSDU, [], [], mem⟩
termination_by dataSize
decreasing_by
  simp only [subFrameSize, payloadSize] at *
  omega

/-- The sub-frames that the length fields of the received bytes lay out, as far as the walk
goes. -/
def subFrames (mem : Memory) (pData dataSize : Nat) : List Nat :=
  if length8023 < dataSize then
    let payloadSize := be16 mem (pData + length8023NoType)
    let subFrameSize := u16 (payloadSize + length8023)
    if dataSize < subFrameSize ∨ 1518 < payloadSize then []
    else if 1528 < align4 subFrameSize ∨ align4 subFrameSize < 32 then [pData]
    else if align4 subFrameSize < dataSize then
      pData :: subFrames mem (pData + align4 subFrameSize) (dataSize - align4 subFrameSize)
    else [pData]
  else []
termination_by dataSize
decreasing_by
  simp only [subFrameSize, payloadSize] at *
  omega

/-- The payload is as long as the header conversion takes for granted: the six bytes of the
SNAP test, the eight of a SNAP header, and for an access point the fourteen that the header is
stored over when nothing has been taken off. -/
def Fits (c : DeaggContext) (mem : Memory) (pData : Nat) : Prop :=
  let payloadSize := be16 mem (pData + length8023NoType)
  6 ≤ payloadSize ∧ (hasSnap mem (pData + length8023) = true → 8 ≤ payloadSize) ∧
    (c.opMode = .ap → removesSnap mem (pData + length8023) = false → 14 ≤ payloadSize)

/-- All that a pass touches is received and its own, and no difference falls below zero. -/
def Pass.Inside (received : Span) (pass : Pass) : Prop :=
  (∀ span ∈ pass.touched, span.Within received ∧ span.Within pass.frame) ∧
    ∀ size ∈ pass.sizes, 0 ≤ size

theorem convertSubFrame_removed {mem : Memory} {pData : Nat}
    (removed : removesSnap mem (pData + length8023) = true) :
    (convertSubFrame mem pData).pData = pData + 22 ∧
      (convertSubFrame mem pData).dataSize =
        u16 ((be16 mem (pData + length8023NoType) : Int) - length8021H) ∧
      (convertSubFrame mem pData).pRemovedLLCSNAP.isSome = true := by
  unfold removesSnap at removed
  unfold convertSubFrame convertTo8023
  cases snap : hasSnap mem (pData + length8023) <;>
    cases keeps : keepsSnap mem (pData + length8023) <;> simp_all [length8023, length8021H]

theorem convertSubFrame_kept {mem : Memory} {pData : Nat}
    (kept : removesSnap mem (pData + length8023) = false) :
    (convertSubFrame mem pData).pData = pData + length8023 ∧
      (convertSubFrame mem pData).dataSize = be16 mem (pData + length8023NoType) ∧
      (convertSubFrame mem pData).pRemovedLLCSNAP.isSome = false := by
  unfold removesSnap at kept
  unfold convertSubFrame convertTo8023
  cases snap : hasSnap mem (pData + length8023) <;>
    cases keeps : keepsSnap mem (pData + length8023) <;> simp_all

theorem length_convertSubFrame (mem : Memory) (pData : Nat) :
    (convertSubFrame mem pData).p8023hdr.length = length8023 := by
  unfold convertSubFrame convertTo8023
  split_ifs <;> simp [make8023Header, llcLen, macAddrLen, length8023]

theorem vlanSize_le (c : DeaggContext) : c.vlanSize ≤ 4 := by
  unfold DeaggContext.vlanSize length8021Q
  split_ifs <;> omega

/-- Room for a tag is made exactly when one is stored. -/
theorem vlan_cases (c : DeaggContext) :
    c.mbssVlanInfo.1 ≠ 0 ∧ c.vlanSize = 4 ∨ c.mbssVlanInfo.1 = 0 ∧ c.vlanSize = 0 := by
  have room := c.apCfg.bssidNum_le
  unfold DeaggContext.mbssVlanInfo DeaggContext.vlanSize
  by_cases own : c.fromWhichBSSID < c.apCfg.bssidNum
  · have beacon : c.fromWhichBSSID < hwBeaconMaxNum := by omega
    by_cases vid : c.apCfg.vlanVID c.fromWhichBSSID = 0
    · simp [vid]
    · rw [if_pos ⟨own, beacon, vid⟩, if_pos own, if_pos vid]
      exact Or.inl ⟨vid, rfl⟩
  · simp [own]

theorem length_vlan8023HeaderCopy (c : DeaggContext) {header : List UInt8}
    (whole : header.length = length8023) :
    (vlan8023HeaderCopy c.mbssVlanInfo.1 c.mbssVlanInfo.2 header c.tpid).length =
      length8023 + c.vlanSize := by
  unfold vlan8023HeaderCopy
  obtain ⟨vid, size⟩ | ⟨vid, size⟩ := vlan_cases c
  · rw [if_pos vid, size]
    simp [whole, length8023, length8023NoType]
  · rw [if_neg (not_not.mpr vid), size, whole, add_zero]

/-- Where the header is stored and how long it is, whatever is announced. -/
theorem storedHeader_end (c : DeaggContext) (mem : Memory) (pData : Nat) :
    pData ≤ (announcedSpan c (convertSubFrame mem pData)).start ∧
      (announcedSpan c (convertSubFrame mem pData)).start +
          (storedHeader c (convertSubFrame mem pData)).length =
        if removesSnap mem (pData + length8023) then pData + 22
        else if c.opMode = .ap then pData + 28 else pData + length8023 := by
  have tag := vlanSize_le c
  have copied := length_vlan8023HeaderCopy c (length_convertSubFrame mem pData)
  have plain := length_convertSubFrame mem pData
  cases removed : removesSnap mem (pData + length8023) with
  | true =>
      obtain ⟨start, -, some⟩ := convertSubFrame_removed removed
      unfold announcedSpan storedHeader
      cases c.opMode <;>
        simp only [some, start, copied, plain, length8023, ↓reduceIte] <;> omega
  | false =>
      obtain ⟨start, -, none⟩ := convertSubFrame_kept removed
      unfold announcedSpan storedHeader
      cases c.opMode <;>
        simp only [none, start, copied, length8023, Bool.false_eq_true, reduceCtorEq, ↓reduceIte,
          List.length_nil, add_zero, and_true] <;> omega

theorem announcedSpan_end (c : DeaggContext) (mem : Memory) (pData : Nat)
    (bounded : be16 mem (pData + length8023NoType) ≤ 1518)
    (enough : removesSnap mem (pData + length8023) = true →
      8 ≤ be16 mem (pData + length8023NoType)) :
    (announcedSpan c (convertSubFrame mem pData)).start +
        (announcedSpan c (convertSubFrame mem pData)).count =
      pData + length8023 + be16 mem (pData + length8023NoType) := by
  have tag := vlanSize_le c
  cases removed : removesSnap mem (pData + length8023) with
  | true =>
      obtain ⟨start, size, some⟩ := convertSubFrame_removed removed
      have room := enough removed
      unfold announcedSpan
      cases c.opMode <;> simp only [some, start, size, u16, length8023, length8021H] <;> omega
  | false =>
      obtain ⟨start, size, none⟩ := convertSubFrame_kept removed
      unfold announcedSpan
      cases c.opMode <;> simp only [none, start, size, u16, length8023] <;> omega

theorem hasSnap_of_removesSnap {mem : Memory} {pData : Nat}
    (removed : removesSnap mem pData = true) : hasSnap mem pData = true := by
  unfold removesSnap at removed
  exact (Bool.and_eq_true_iff.mp removed).1

/-- The payload read for EAPOL is what the conversion left. -/
theorem convertSubFrame_end {mem : Memory} {pData : Nat}
    (enough : removesSnap mem (pData + length8023) = true →
      8 ≤ be16 mem (pData + length8023NoType)) :
    pData ≤ (convertSubFrame mem pData).pData ∧
      (convertSubFrame mem pData).pData + (convertSubFrame mem pData).dataSize =
        pData + length8023 + be16 mem (pData + length8023NoType) := by
  have word := be16_lt mem (pData + length8023NoType)
  cases removed : removesSnap mem (pData + length8023) with
  | true =>
      obtain ⟨start, size, -⟩ := convertSubFrame_removed removed
      have room := enough removed
      simp only [start, size, u16, length8023, length8021H]
      omega
  | false =>
      obtain ⟨start, size, -⟩ := convertSubFrame_kept removed
      rw [start, size]
      exact ⟨Nat.le_add_right _ _, rfl⟩

theorem touchedSpans_within {c : DeaggContext} {mem : Memory} {pData : Nat} (nMSDU : Nat)
    (bounded : be16 mem (pData + length8023NoType) ≤ 1518) (fits : Fits c mem pData) :
    ∀ span ∈ touchedSpans c mem pData nMSDU,
      span.Within ⟨pData, length8023 + be16 mem (pData + length8023NoType)⟩ := by
  obtain ⟨tested, encapsulated, stored⟩ := fits
  have enough : removesSnap mem (pData + length8023) = true →
      8 ≤ be16 mem (pData + length8023NoType) := fun removed =>
    encapsulated (hasSnap_of_removesSnap removed)
  obtain ⟨headerStart, headerEnd⟩ := storedHeader_end c mem pData
  have frameEnd := announcedSpan_end c mem pData bounded enough
  obtain ⟨eapolStart, eapolEnd⟩ := convertSubFrame_end enough
  intro span touched
  simp only [touchedSpans, List.mem_append, List.mem_cons, List.not_mem_nil, or_false,
    List.mem_ite_nil_right] at touched
  obtain ((((rfl | rfl) | ⟨snap, rfl⟩) | ⟨-, rfl⟩) | rfl) | ⟨-, rfl⟩ := touched
  · exact ⟨le_rfl, by simp only [length8023]; omega⟩
  · exact ⟨by simp only [length8023]; omega, by simp only [length8023]; omega⟩
  · have room := encapsulated snap
    exact ⟨by simp only [length8023]; omega, by simp only [length8023]; omega⟩
  · exact ⟨eapolStart, by simp only [length8023] at *; omega⟩
  · apply And.intro headerStart
    rw [headerEnd]
    split_ifs with removed ap
    · have room := enough removed
      simp only [length8023]
      omega
    · have room := stored ap (by simpa using removed)
      simp only [length8023]
      omega
    · simp only [length8023]
      omega
  · exact ⟨headerStart, by simp only [length8023] at *; omega⟩

/-- One pass stays inside exactly when the payload is long enough. -/
theorem pass_inside_iff (c : DeaggContext) {mem : Memory} {pData : Nat} (nMSDU dataSize next : Nat)
    {received : Span} (bounded : be16 mem (pData + length8023NoType) ≤ 1518)
    (inside : Span.Within ⟨pData, length8023 + be16 mem (pData + length8023NoType)⟩ received) :
    Pass.Inside received ⟨⟨pData, length8023 + be16 mem (pData + length8023NoType)⟩,
        touchedSpans c mem pData nMSDU, differences mem pData dataSize next⟩ ↔
      Fits c mem pData := by
  constructor
  · rintro ⟨touched, -⟩
    have ends : ∀ span ∈ touchedSpans c mem pData nMSDU, span.start + span.count ≤
        pData + (length8023 + be16 mem (pData + length8023NoType)) :=
      fun span member => (touched span member).2.2
    refine ⟨?_, fun snap => ?_, fun ap kept => ?_⟩
    · have test := ends ⟨pData + length8023, 6⟩ (by simp [touchedSpans])
      dsimp only at test
      omega
    · have proto := ends ⟨pData + length8023 + 6, 2⟩ (by simp [touchedSpans, snap])
      dsimp only at proto
      omega
    · have header := ends ⟨_, (storedHeader c (convertSubFrame mem pData)).length⟩
        (by unfold touchedSpans; simp only [List.mem_append, List.mem_singleton]; tauto)
      dsimp only at header
      rw [(storedHeader_end c mem pData).2, kept, if_neg (by decide), if_pos ap] at header
      simp only [length8023] at header
      omega
  · intro fits
    have within := touchedSpans_within nMSDU bounded fits
    refine ⟨fun span member => ⟨(within span member).trans inside, within span member⟩, ?_⟩
    intro size computed
    simp only [differences, List.mem_append, List.mem_ite_nil_right, List.mem_singleton] at computed
    obtain ⟨removed, rfl⟩ | ⟨more, rfl⟩ := computed
    · have room := fits.2.1 (hasSnap_of_removesSnap removed)
      simp only [length8021H]
      omega
    · omega

/-- A stored header that fits leaves everything behind its sub-frame alone. -/
theorem storeHeader_after {c : DeaggContext} {mem : Memory} {pData : Nat} (fits : Fits c mem pData)
    {address : Nat}
    (behind : pData + length8023 + be16 mem (pData + length8023NoType) ≤ address) :
    storeHeader c mem pData address = mem address := by
  obtain ⟨tested, encapsulated, stored⟩ := fits
  apply Memory.write_after
  rw [(storedHeader_end c mem pData).2]
  split_ifs with removed ap
  · have room := encapsulated (hasSnap_of_removesSnap removed)
    simp only [length8023] at behind
    omega
  · have room := stored ap (by simpa using removed)
    simp only [length8023] at behind
    omega
  · omega

theorem Memory.equal_congr {mem mem' : Memory} {start : Nat}
    (agree : ∀ address, start ≤ address → mem' address = mem address) (pattern : List UInt8) :
    mem'.equal start pattern = mem.equal start pattern := by
  unfold Memory.equal Memory.bytes
  congr 1
  apply List.map_congr_left
  intro i _
  exact agree _ (by omega)

theorem be16_congr {mem mem' : Memory} {start : Nat}
    (agree : ∀ address, start ≤ address → mem' address = mem address) :
    be16 mem' start = be16 mem start := by
  unfold be16
  rw [agree start le_rfl, agree (start + 1) (by omega)]

theorem fits_congr (c : DeaggContext) {mem mem' : Memory} {pData : Nat}
    (agree : ∀ address, pData ≤ address → mem' address = mem address) :
    Fits c mem' pData ↔ Fits c mem pData := by
  have from' : ∀ start, pData ≤ start → ∀ address, start ≤ address → mem' address = mem address :=
    fun start behind address above => agree address (behind.trans above)
  have snap : hasSnap mem' (pData + length8023) = hasSnap mem (pData + length8023) := by
    unfold hasSnap
    simp only [Memory.equal_congr (from' (pData + length8023) (by omega))]
  have keeps : keepsSnap mem' (pData + length8023) = keepsSnap mem (pData + length8023) := by
    unfold keepsSnap
    simp only [Memory.equal_congr (from' (pData + length8023) (by omega)),
      Memory.equal_congr (from' (pData + length8023 + 6) (by omega))]
  unfold Fits removesSnap
  simp only [snap, keeps, be16_congr (from' (pData + length8023NoType) (by omega))]

theorem subFrames_congr {mem mem' : Memory} {pData : Nat} (dataSize : Nat)
    (agree : ∀ address, pData ≤ address → mem' address = mem address) :
    subFrames mem' pData dataSize = subFrames mem pData dataSize := by
  induction dataSize using Nat.strong_induction_on generalizing pData with
  | _ dataSize ih =>
    have field : be16 mem' (pData + length8023NoType) = be16 mem (pData + length8023NoType) :=
      be16_congr fun address above => agree address (by omega)
    rw [subFrames, subFrames, field]
    dsimp only
    split_ifs with more broken last next
    · rfl
    · rfl
    · rw [ih _ (by omega) fun address above => agree address (by omega)]
    · rfl
    · rfl

theorem le_of_mem_subFrames {mem : Memory} {pData dataSize start : Nat}
    (visited : start ∈ subFrames mem pData dataSize) : pData ≤ start := by
  induction dataSize using Nat.strong_induction_on generalizing pData with
  | _ dataSize ih =>
    rw [subFrames] at visited
    dsimp only at visited
    split_ifs at visited with more broken last next
    · simp at visited
    · simp_all
    · obtain rfl | later := List.mem_cons.mp visited
      · rfl
      · exact (Nat.le_add_right _ _).trans (ih _ (by omega) later)
    · simp_all
    · simp at visited

@[simp] theorem after_passes (pass : Pass) (frames : List (List UInt8)) (rest : Deaggregated) :
    (Deaggregated.after pass frames rest).passes = pass :: rest.passes := rfl

/-- The walk from any sub-frame on, inside what has been received. -/
theorem walk_inside_iff (c : DeaggContext) (mem : Memory) {pData dataSize : Nat} (nMSDU : Nat)
    {received : Span} (inside : Span.Within ⟨pData, dataSize⟩ received) :
    (∀ pass ∈ (deaggregateAMSDUAnnounce c mem pData dataSize nMSDU).passes, pass.Inside received) ↔
      ∀ start ∈ subFrames mem pData dataSize, Fits c mem start := by
  induction dataSize using Nat.strong_induction_on generalizing pData mem nMSDU with
  | _ dataSize ih =>
    rw [deaggregateAMSDUAnnounce, subFrames]
    dsimp only
    by_cases more : length8023 < dataSize
    · rw [if_pos more, if_pos more]
      by_cases broken : dataSize < u16 ((be16 mem (pData + length8023NoType) : Int) + length8023) ∨
          1518 < be16 mem (pData + length8023NoType)
      · -- only the header has been read, and it is received
        rw [if_pos broken, if_pos broken]
        have header : Span.Within ⟨pData, length8023⟩ received :=
          ⟨inside.1, (Nat.add_le_add_left more.le pData).trans inside.2⟩
        have own : Span.Within ⟨pData, length8023⟩
            ⟨pData, length8023 + be16 mem (pData + length8023NoType)⟩ :=
          ⟨le_rfl, Nat.add_le_add_left (Nat.le_add_right _ _) pData⟩
        simp [Pass.Inside, header, own]
      · rw [if_neg broken, if_neg broken]
        obtain ⟨whole, bounded⟩ := not_or.mp broken
        rw [not_lt] at whole bounded
        have exact_size : u16 ((be16 mem (pData + length8023NoType) : Int) + length8023) =
            be16 mem (pData + length8023NoType) + length8023 := by
          unfold u16
          simp only [length8023]
          omega
        rw [exact_size] at whole ⊢
        have frame : Span.Within ⟨pData, length8023 + be16 mem (pData + length8023NoType)⟩
            received := by
          refine ⟨inside.1, le_trans ?_ inside.2⟩
          dsimp only
          omega
        have pass := pass_inside_iff c nMSDU dataSize
          (align4 (be16 mem (pData + length8023NoType) + length8023)) bounded frame
        by_cases odd : 1528 < align4 (be16 mem (pData + length8023NoType) + length8023) ∨
            align4 (be16 mem (pData + length8023NoType) + length8023) < 32
        · rw [if_pos odd, if_pos odd]
          simpa using pass
        · rw [if_neg odd, if_neg odd]
          by_cases next : align4 (be16 mem (pData + length8023NoType) + length8023) < dataSize
          · rw [if_pos next, if_pos next, after_passes, List.forall_mem_cons, List.forall_mem_cons,
              pass]
            apply and_congr_right
            intro fits
            -- nothing from the next sub-frame on has changed
            have agree : ∀ address,
                pData + align4 (be16 mem (pData + length8023NoType) + length8023) ≤ address →
                  storeHeader c mem pData address = mem address := by
              intro address behind
              apply storeHeader_after fits
              unfold align4 at behind
              omega
            rw [ih _ (by omega), subFrames_congr _ agree]
            · apply forall₂_congr
              intro start visited
              exact fits_congr c fun address above =>
                agree address ((le_of_mem_subFrames visited).trans above)
            · refine ⟨inside.1.trans (Nat.le_add_right _ _), le_trans ?_ inside.2⟩
              dsimp only
              omega
          · rw [if_neg next, if_neg next]
            simpa using pass
    · rw [if_neg more, if_neg more]
      simp

/-- The walk over any received bytes ends, and it stays inside them and inside its sub-frames,
with no difference below zero, exactly when every payload it visits is long enough. -/
theorem deaggregateAMSDUAnnounce_inside_iff (c : DeaggContext) (mem : Memory)
    (pData dataSize : Nat) :
    (∀ pass ∈ (deaggregateAMSDUAnnounce c mem pData dataSize 0).passes,
        pass.Inside ⟨pData, dataSize⟩) ↔
      ∀ start ∈ subFrames mem pData dataSize, Fits c mem start :=
  walk_inside_iff c mem 0 ⟨le_rfl, le_rfl⟩

def stationContext : DeaggContext where
  opMode := .sta
  apCfg := ⟨0, by decide, fun _ => 0, fun _ => 0⟩
  fromWhichBSSID := 0
  tpid := (0x81, 0x00)
  elemAllocated _ := true
  cloned _ := true

/-- Fifteen zero bytes: a sub-frame without payload, whose SNAP test reads past the last one. -/
theorem emptySubFrame_outside :
    ¬∀ pass ∈ (deaggregateAMSDUAnnounce stationContext (fun _ => 0) 0 15 0).passes,
      pass.Inside ⟨0, 15⟩ := by
  intro inside
  have fits := (walk_inside_iff stationContext (fun _ => 0) 0 ⟨le_rfl, le_rfl⟩).mp inside
  have visited : subFrames (fun _ => 0) 0 15 = [0] := by
    rw [subFrames]
    simp [length8023, be16, u16, align4]
  have tested := (fits 0 (by simp [visited])).1
  simp [be16] at tested

end Mt7612u.Receive
