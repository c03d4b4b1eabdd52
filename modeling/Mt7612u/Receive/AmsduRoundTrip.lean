import Mt7612u.Receive.Deaggregate

/-! The A-MSDU format, and when `deaggregate_AMSDU_announce` gives back the Ethernet frames that
were laid out in it. -/

namespace Mt7612u.Receive

/-- An Ethernet frame: `octet0` and `octet1` are a type above 1500 or the payload's length. -/
structure Msdu where
  da : List UInt8
  sa : List UInt8
  octet0 : UInt8
  octet1 : UInt8
  payload : List UInt8
  da_length : da.length = macAddrLen
  sa_length : sa.length = macAddrLen
  payload_le : payload.length ≤ 1500
  length_field : octet0.toNat * 256 + octet1.toNat ≤ 1500 →
    octet0.toNat * 256 + octet1.toNat = payload.length

namespace Msdu

def typeOrLength (msdu : Msdu) : Nat := msdu.octet0.toNat * 256 + msdu.octet1.toNat

def isEtherType (msdu : Msdu) : Bool := decide (1500 < msdu.typeOrLength)

def octets (msdu : Msdu) : List UInt8 := [msdu.octet0, msdu.octet1]

/-- `EXTRA_LLCSNAP_ENCAP_FROM_PKT_START`, and the type behind it. -/
def llcSnap (msdu : Msdu) : List UInt8 :=
  if msdu.isEtherType then
    (if msdu.octets = ipx ∨ msdu.octets = appleTalk then snapBridgeTunnel else snap8021H) ++
      msdu.octets
  else []

def body (msdu : Msdu) : List UInt8 := msdu.llcSnap ++ msdu.payload

def subFrame (msdu : Msdu) : List UInt8 :=
  msdu.da ++ msdu.sa ++ llcLen msdu.body.length ++ msdu.body

def header (msdu : Msdu) : List UInt8 := msdu.da ++ msdu.sa ++ msdu.octets

/-- The 802.3 frame of an MSDU, with the VLAN tag of its BSS where an access point has one. -/
def frame8023 (c : DeaggContext) (msdu : Msdu) : List UInt8 :=
  (match c.opMode with
    | .ap => vlan8023HeaderCopy c.mbssVlanInfo.1 c.mbssVlanInfo.2 msdu.header c.tpid
    | .sta => msdu.header) ++ msdu.payload

end Msdu

/-- Zero bytes up to a multiple of four. -/
def padding (length : Nat) : List UInt8 := List.replicate (align4 length - length) 0

/-- The A-MSDU of a list of frames: every sub-frame but the last is padded. -/
def encodeAmsdu : List Msdu → List UInt8
  | [] => []
  | [last] => last.subFrame
  | msdu :: next :: rest =>
      msdu.subFrame ++ padding msdu.subFrame.length ++ encodeAmsdu (next :: rest)

theorem Memory.holds_pair {mem : Memory} {start : Nat} {first second : UInt8}
    (holds : mem.Holds start [first, second]) : mem start = first ∧ mem (start + 1) = second := by
  unfold Memory.Holds Memory.bytes at holds
  simpa only [List.length_cons, List.length_nil, List.range_succ, List.range_zero,
    List.nil_append, List.map_cons, List.map_nil, List.cons_append, List.cons.injEq, and_true,
    add_zero, zero_add] using holds

theorem be16_of_holds {mem : Memory} {start : Nat} {high low : UInt8}
    (holds : mem.Holds start [high, low]) :
    be16 mem start = high.toNat * 256 + low.toNat := by
  obtain ⟨first, second⟩ := Memory.holds_pair holds
  rw [be16, first, second]

theorem length_llcSnap (msdu : Msdu) :
    msdu.llcSnap.length = if msdu.isEtherType then 8 else 0 := by
  unfold Msdu.llcSnap
  split_ifs <;> simp [snapBridgeTunnel, snap8021H, Msdu.octets]

theorem length_body (msdu : Msdu) :
    msdu.body.length = (if msdu.isEtherType then 8 else 0) + msdu.payload.length := by
  rw [Msdu.body, List.length_append, length_llcSnap]

theorem length_subFrame (msdu : Msdu) : msdu.subFrame.length = 14 + msdu.body.length := by
  simp only [Msdu.subFrame, List.length_append, msdu.da_length, msdu.sa_length, llcLen, macAddrLen,
    List.length_cons, List.length_nil]

theorem length_header (msdu : Msdu) : msdu.header.length = length8023 := by
  simp only [Msdu.header, List.length_append, msdu.da_length, msdu.sa_length, macAddrLen,
    Msdu.octets, List.length_cons, List.length_nil, length8023]

theorem length_frame8023 (c : DeaggContext) (msdu : Msdu) :
    (msdu.frame8023 c).length =
      14 + msdu.payload.length + if c.opMode = .ap then c.vlanSize else 0 := by
  have tagged := length_vlan8023HeaderCopy c (length_header msdu)
  have plain := length_header msdu
  unfold Msdu.frame8023
  cases c.opMode <;> simp only [List.length_append, tagged, plain, length8023, ↓reduceIte,
    reduceCtorEq] <;> omega

theorem encodeAmsdu_pos (msdu : Msdu) (rest : List Msdu) :
    14 ≤ (encodeAmsdu (msdu :: rest)).length := by
  cases rest with
  | nil =>
      rw [encodeAmsdu, length_subFrame]
      omega
  | cons next rest =>
      rw [encodeAmsdu, List.length_append, List.length_append, length_subFrame]
      omega

/-- The length field that the encoding writes is read back. -/
theorem be16_llcLen {mem : Memory} {start n : Nat} (small : n < 65536)
    (holds : mem.Holds start (llcLen n)) : be16 mem start = n := by
  rw [be16_of_holds holds, Nat.shiftRight_eq_div_pow, show n &&& 255 = n % 256 from
    Nat.and_two_pow_sub_one_eq_mod n 8, UInt8.toNat_ofNat', UInt8.toNat_ofNat']
  omega

theorem Memory.equal_iff_holds {mem : Memory} {start : Nat} {pattern : List UInt8} :
    mem.equal start pattern = true ↔ mem.Holds start pattern := by
  unfold Memory.equal Memory.Holds
  exact beq_iff_eq

/-- Two blocks of one length at one address are the same. -/
theorem Memory.Holds.unique {mem : Memory} {start : Nat} {first second : List UInt8}
    (one : mem.Holds start first) (other : mem.Holds start second)
    (same : first.length = second.length) : first = second := by
  rw [← one, ← other, same]

/-- The parts of a sub-frame in memory. -/
structure SubFrameAt (mem : Memory) (start : Nat) (msdu : Msdu) : Prop where
  da : mem.Holds start msdu.da
  sa : mem.Holds (start + macAddrLen) msdu.sa
  size : be16 mem (start + length8023NoType) = msdu.body.length
  body : mem.Holds (start + length8023) msdu.body

theorem body_small (msdu : Msdu) : msdu.body.length ≤ 1508 := by
  have short := msdu.payload_le
  rw [length_body]
  split_ifs <;> omega

theorem subFrameAt_of_holds {mem : Memory} {start : Nat} {msdu : Msdu}
    (holds : mem.Holds start msdu.subFrame) : SubFrameAt mem start msdu := by
  have small := body_small msdu
  unfold Msdu.subFrame at holds
  rw [Memory.holds_append, Memory.holds_append, Memory.holds_append] at holds
  obtain ⟨⟨⟨da, sa⟩, field⟩, body⟩ := holds
  rw [msdu.da_length] at sa
  rw [List.length_append, msdu.da_length, msdu.sa_length] at field
  simp only [List.length_append, msdu.da_length, msdu.sa_length] at body
  exact ⟨da, sa, be16_llcLen (by omega) field, body⟩

/-- An encapsulated EtherType is recognised, and its encapsulation taken off. -/
theorem removesSnap_of_body {mem : Memory} {start : Nat} {msdu : Msdu}
    (body : mem.Holds start msdu.body) (typed : msdu.isEtherType = true) :
    removesSnap mem start = true ∧ mem.Holds (start + 6) msdu.octets ∧
      mem.Holds (start + 8) msdu.payload := by
  rw [Msdu.body, Memory.holds_append, length_llcSnap, if_pos typed] at body
  obtain ⟨encapsulation, payload⟩ := body
  rw [Msdu.llcSnap, if_pos typed, Memory.holds_append] at encapsulation
  unfold removesSnap hasSnap keepsSnap
  rw [Bool.and_eq_true, Bool.or_eq_true, Memory.equal_iff_holds, Memory.equal_iff_holds,
    Bool.not_eq_true', Bool.and_eq_false_iff, Bool.or_eq_false_iff]
  by_cases special : msdu.octets = ipx ∨ msdu.octets = appleTalk
  · rw [if_pos special] at encapsulation
    obtain ⟨front, type⟩ := encapsulation
    refine ⟨⟨Or.inr front, Or.inr ?_⟩, type, payload⟩
    rw [Bool.eq_false_iff, ne_eq, Memory.equal_iff_holds]
    intro other
    exact absurd (front.unique other rfl) (by decide)
  · rw [if_neg special] at encapsulation
    obtain ⟨front, type⟩ := encapsulation
    obtain ⟨notIpx, notAppleTalk⟩ := not_or.mp special
    refine ⟨⟨Or.inl front, Or.inl ⟨?_, ?_⟩⟩, type, payload⟩
    · rw [Bool.eq_false_iff, ne_eq, Memory.equal_iff_holds]
      intro other
      exact notIpx (type.unique other rfl)
    · rw [Bool.eq_false_iff, ne_eq, Memory.equal_iff_holds]
      intro other
      exact notAppleTalk (type.unique other rfl)

theorem SubFrameAt.removesSnap {mem : Memory} {start : Nat} {msdu : Msdu}
    (frame : SubFrameAt mem start msdu) (typed : msdu.isEtherType = true) :
    removesSnap mem (start + length8023) = true ∧
      mem.Holds (start + length8023 + 6) msdu.octets ∧ mem.Holds (start + 22) msdu.payload :=
  removesSnap_of_body frame.body typed

theorem SubFrameAt.fits {c : DeaggContext} {mem : Memory} {start : Nat} {msdu : Msdu}
    (frame : SubFrameAt mem start msdu) (typed : msdu.isEtherType = true) : Fits c mem start := by
  have removed := (frame.removesSnap typed).1
  have room : 8 ≤ be16 mem (start + length8023NoType) := by
    rw [frame.size, length_body, if_pos typed]
    exact Nat.le_add_right _ _
  refine ⟨by omega, fun _ => room, fun _ kept => ?_⟩
  rw [removed] at kept
  exact absurd kept (by decide)

/-- The header built for an encapsulated EtherType is the frame's own. -/
theorem SubFrameAt.header {mem : Memory} {start : Nat} {msdu : Msdu}
    (frame : SubFrameAt mem start msdu) (typed : msdu.isEtherType = true) :
    (convertSubFrame mem start).p8023hdr = msdu.header := by
  obtain ⟨removed, type, -⟩ := frame.removesSnap typed
  have da := frame.da
  have sa := frame.sa
  unfold Memory.Holds at da sa type
  rw [msdu.da_length] at da
  rw [msdu.sa_length] at sa
  obtain ⟨snap, kept⟩ := Bool.and_eq_true_iff.mp removed
  unfold convertSubFrame convertTo8023
  rw [if_pos snap, if_neg (by simpa using kept)]
  simp only [make8023Header, Msdu.header, da, sa]
  exact congrArg _ type

/-- An EtherType frame is announced as it was laid out. -/
theorem SubFrameAt.announced {c : DeaggContext} {mem : Memory} {start nMSDU : Nat} {msdu : Msdu}
    (frame : SubFrameAt mem start msdu) (typed : msdu.isEtherType = true) :
    announcedFrames c mem start nMSDU = if c.cloned nMSDU then [msdu.frame8023 c] else [] := by
  obtain ⟨removed, type, payload⟩ := frame.removesSnap typed
  obtain ⟨-, -, some⟩ := convertSubFrame_removed removed
  have header := frame.header typed
  have small := body_small msdu
  have long : 8 ≤ be16 mem (start + length8023NoType) := by
    rw [frame.size, length_body, if_pos typed]
    exact Nat.le_add_right _ _
  have front := (storedHeader_end c mem start).2
  rw [if_pos removed] at front
  have whole := announcedSpan_end c mem start
    (by rw [frame.size]; omega) fun _ => long
  rw [frame.size, length_body, if_pos typed] at whole
  rw [← front] at payload
  have behind := Memory.holds_write (storedHeader c (convertSubFrame mem start)) payload
  have stored : storedHeader c (convertSubFrame mem start) ++ msdu.payload = msdu.frame8023 c := by
    unfold storedHeader Msdu.frame8023
    rw [header]
    cases c.opMode <;> simp [some]
  have count : (announcedSpan c (convertSubFrame mem start)).count =
      (storedHeader c (convertSubFrame mem start) ++ msdu.payload).length := by
    rw [List.length_append]
    simp only [length8023] at whole
    omega
  unfold announcedFrames storeHeader
  dsimp only
  rw [count, show Memory.bytes _ _ _ = _ from behind, stored]

/-- A frame with a length field is announced short of its header. -/
theorem SubFrameAt.announced_short (c : DeaggContext) {mem : Memory} {start : Nat} {msdu : Msdu}
    (nMSDU : Nat) (frame : SubFrameAt mem start msdu) (untyped : msdu.isEtherType = false) :
    ∀ announced ∈ announcedFrames c mem start nMSDU,
      announced.length ≠ (msdu.frame8023 c).length := by
  have tag := vlanSize_le c
  have short := msdu.payload_le
  have size : be16 mem (start + length8023NoType) = msdu.payload.length := by
    rw [frame.size, length_body, untyped]
    simp
  intro announced member
  unfold announcedFrames at member
  dsimp only at member
  split_ifs at member with cloned
  · rw [List.mem_singleton.mp member, Memory.length_bytes, length_frame8023]
    cases removed : Receive.removesSnap mem (start + length8023) with
    | true =>
        obtain ⟨-, count, some⟩ := convertSubFrame_removed removed
        rw [size] at count
        unfold announcedSpan
        cases c.opMode <;>
          simp only [some, count, u16, length8023, length8021H, ↓reduceIte, reduceCtorEq] <;> omega
    | false =>
        obtain ⟨-, count, none⟩ := convertSubFrame_kept removed
        rw [size] at count
        unfold announcedSpan
        cases c.opMode <;>
          simp only [none, count, u16, ↓reduceIte, reduceCtorEq] <;> omega
  · exact absurd member (by simp)

/-- No pass announces more than one frame. -/
theorem walk_count_le (c : DeaggContext) (mem : Memory) (pData dataSize nMSDU : Nat) :
    nMSDU + (deaggregateAMSDUAnnounce c mem pData dataSize nMSDU).announced.length ≤
      (deaggregateAMSDUAnnounce c mem pData dataSize nMSDU).nMSDU := by
  have single : ∀ mem pData nMSDU, (announcedFrames c mem pData nMSDU).length ≤ 1 := by
    intro mem pData nMSDU
    unfold announcedFrames
    dsimp only
    split_ifs <;> simp
  induction dataSize using Nat.strong_induction_on generalizing pData mem nMSDU with
  | _ dataSize ih =>
    have one := single mem pData nMSDU
    rw [deaggregateAMSDUAnnounce]
    dsimp only
    split_ifs with more broken odd next
    · simp
    · simpa [Deaggregated.after] using one
    · have rest := ih _ (by omega : dataSize - align4
        (u16 ((be16 mem (pData + length8023NoType) : Int) + length8023)) < dataSize)
        (storeHeader c mem pData) (pData + align4
          (u16 ((be16 mem (pData + length8023NoType) : Int) + length8023))) (nMSDU + 1)
      simp only [Deaggregated.after, List.length_append]
      omega
    · simpa [Deaggregated.after] using one
    · simp

theorem SubFrameAt.subFrameSize {mem : Memory} {start : Nat} {msdu : Msdu}
    (frame : SubFrameAt mem start msdu) :
    u16 ((be16 mem (start + length8023NoType) : Int) + length8023) = msdu.subFrame.length := by
  have small := body_small msdu
  rw [frame.size, length_subFrame]
  unfold u16
  simp only [length8023]
  omega

/-- The walk at a sub-frame that another one follows. -/
theorem SubFrameAt.walk_next {c : DeaggContext} {mem : Memory} {start dataSize : Nat} {msdu : Msdu}
    (frame : SubFrameAt mem start msdu) (nMSDU : Nat)
    (wide : 32 ≤ align4 msdu.subFrame.length) (more : align4 msdu.subFrame.length < dataSize) :
    ∃ pass, deaggregateAMSDUAnnounce c mem start dataSize nMSDU =
      Deaggregated.after pass (announcedFrames c mem start nMSDU)
        (deaggregateAMSDUAnnounce c (storeHeader c mem start)
          (start + align4 msdu.subFrame.length) (dataSize - align4 msdu.subFrame.length)
          (nMSDU + 1)) := by
  have small := body_small msdu
  have size := length_subFrame msdu
  have padded : msdu.subFrame.length ≤ align4 msdu.subFrame.length ∧
      align4 msdu.subFrame.length ≤ 1528 := by
    unfold align4
    omega
  rw [deaggregateAMSDUAnnounce]
  dsimp only
  rw [frame.subFrameSize, if_pos (by simp only [length8023]; omega),
    if_neg (by rw [frame.size]; omega), if_neg (by omega), if_pos more]
  exact ⟨_, rfl⟩

/-- The walk ends at a sub-frame that is short or the last one. -/
theorem SubFrameAt.walk_end {c : DeaggContext} {mem : Memory} {start dataSize : Nat} {msdu : Msdu}
    (frame : SubFrameAt mem start msdu) (nMSDU : Nat) (received : msdu.subFrame.length ≤ dataSize)
    (some : length8023 < dataSize)
    (last : align4 msdu.subFrame.length < 32 ∨ dataSize ≤ align4 msdu.subFrame.length) :
    (deaggregateAMSDUAnnounce c mem start dataSize nMSDU).announced =
        announcedFrames c mem start nMSDU ∧
      (deaggregateAMSDUAnnounce c mem start dataSize nMSDU).nMSDU = nMSDU + 1 := by
  have small := body_small msdu
  rw [deaggregateAMSDUAnnounce]
  dsimp only
  rw [frame.subFrameSize, if_pos some, if_neg (by rw [frame.size]; omega)]
  split_ifs with odd next
  · simp [Deaggregated.after]
  · omega
  · simp [Deaggregated.after]

/-- Every MSDU is announced as it was laid out, and counted. -/
def RoundTrips (c : DeaggContext) (walk : Deaggregated) (nMSDU : Nat) (msdus : List Msdu) : Prop :=
  walk.announced = msdus.map (Msdu.frame8023 c) ∧ walk.nMSDU = nMSDU + msdus.length

/-- The lists that survive: EtherType frames only, none but the last one with a payload below
seven bytes, and no clone refused. -/
def Announceable (c : DeaggContext) (nMSDU : Nat) (msdus : List Msdu) : Prop :=
  (∀ msdu ∈ msdus, msdu.isEtherType = true) ∧ (∀ msdu ∈ msdus.dropLast, 7 ≤ msdu.payload.length) ∧
    ∀ i < msdus.length, c.cloned (nMSDU + i) = true

theorem announceable_cons (c : DeaggContext) (nMSDU : Nat) (msdu next : Msdu) (rest : List Msdu) :
    Announceable c nMSDU (msdu :: next :: rest) ↔
      (msdu.isEtherType = true ∧ 7 ≤ msdu.payload.length ∧ c.cloned nMSDU = true) ∧
        Announceable c (nMSDU + 1) (next :: rest) := by
  unfold Announceable
  rw [List.forall_mem_cons, List.dropLast_cons_cons, List.length_cons, Nat.forall_lt_succ_left]
  have shift : ∀ i, nMSDU + 1 + i = nMSDU + (i + 1) := fun i => by omega
  simp only [add_zero, shift]
  constructor
  · rintro ⟨⟨typed, others⟩, lengths, cloned, clones⟩
    obtain ⟨long, later⟩ := List.forall_mem_cons.mp lengths
    exact ⟨⟨typed, long, cloned⟩, others, later, clones⟩
  · rintro ⟨⟨typed, long, cloned⟩, others, later, clones⟩
    exact ⟨⟨typed, others⟩, List.forall_mem_cons.mpr ⟨long, later⟩, cloned, clones⟩

/-- One frame at the head comes back, and the rest of the walk gives the others. -/
theorem roundTrips_after {c : DeaggContext} {pass : Pass} {mem : Memory} {start nMSDU : Nat}
    {msdu : Msdu} {rest : List Msdu} {walk : Deaggregated} (frame : SubFrameAt mem start msdu)
    (typed : msdu.isEtherType = true) (counted : nMSDU + 1 + walk.announced.length ≤ walk.nMSDU) :
    RoundTrips c (Deaggregated.after pass (announcedFrames c mem start nMSDU) walk) nMSDU
        (msdu :: rest) ↔
      c.cloned nMSDU = true ∧ RoundTrips c walk (nMSDU + 1) rest := by
  unfold RoundTrips Deaggregated.after
  dsimp only
  rw [frame.announced typed, List.map_cons, List.length_cons]
  cases cloned : c.cloned nMSDU with
  | true =>
      simp only [↓reduceIte, List.cons_append, List.nil_append, List.cons.injEq, true_and]
      apply and_congr_right
      intro _
      omega
  | false =>
      simp only [Bool.false_eq_true, ↓reduceIte, List.nil_append, false_and, iff_false, not_and]
      intro same total
      have length := congrArg List.length same
      rw [List.length_cons, List.length_map] at length
      omega

theorem not_roundTrips_of_untyped {c : DeaggContext} (pass : Pass) {mem : Memory}
    {start nMSDU : Nat} {msdu : Msdu} (rest : List Msdu) {walk : Deaggregated}
    (frame : SubFrameAt mem start msdu) (untyped : msdu.isEtherType = false)
    (counted : nMSDU + 1 + walk.announced.length ≤ walk.nMSDU) :
    ¬RoundTrips c (Deaggregated.after pass (announcedFrames c mem start nMSDU) walk) nMSDU
      (msdu :: rest) := by
  rintro ⟨same, total⟩
  have short := frame.announced_short c nMSDU untyped
  simp only [Deaggregated.after, List.map_cons, List.length_cons] at same total
  unfold announcedFrames at same short
  dsimp only at same short
  split_ifs at same short with cloned
  · have head := (List.cons.inj same).1
    exact short _ (List.mem_singleton.mpr rfl) (congrArg List.length head)
  · have length := congrArg List.length same
    simp only [List.nil_append, List.length_cons, List.length_map] at length
    omega

/-- The walk over the encoding of a list, wherever it stands and whatever was counted before. -/
theorem walk_roundTrips_iff (c : DeaggContext) (msdu : Msdu) (rest : List Msdu) {mem : Memory}
    {start : Nat} (nMSDU : Nat) (holds : mem.Holds start (encodeAmsdu (msdu :: rest))) :
    RoundTrips c (deaggregateAMSDUAnnounce c mem start (encodeAmsdu (msdu :: rest)).length nMSDU)
        nMSDU (msdu :: rest) ↔
      Announceable c nMSDU (msdu :: rest) := by
  induction rest generalizing msdu mem start nMSDU with
  | nil =>
      rw [encodeAmsdu] at holds ⊢
      have frame := subFrameAt_of_holds holds
      have size := length_subFrame msdu
      by_cases empty : msdu.body.length = 0
      · -- a bare sub-header is not even counted
        have untyped : msdu.isEtherType = false := by
          rw [length_body] at empty
          by_contra typed
          rw [Bool.not_eq_false] at typed
          rw [if_pos typed] at empty
          omega
        have uncounted : ¬length8023 < msdu.subFrame.length := by
          simp only [length8023]
          omega
        rw [deaggregateAMSDUAnnounce, if_neg uncounted]
        simp [RoundTrips, Announceable, untyped]
      · obtain ⟨announced, counted⟩ := frame.walk_end (c := c) nMSDU le_rfl
          (by simp only [length8023]; omega) (Or.inr (by unfold align4; omega))
        unfold RoundTrips Announceable
        rw [announced, counted]
        cases typed : msdu.isEtherType with
        | true =>
            rw [frame.announced typed]
            cases cloned : c.cloned nMSDU <;> simp [typed, cloned]
        | false =>
            have short := frame.announced_short c nMSDU typed
            simp only [List.map_cons, List.map_nil, List.mem_singleton, forall_eq, typed,
              Bool.false_eq_true, false_and, iff_false, not_and]
            intro same
            exact absurd rfl (short (msdu.frame8023 c) (by simp [same]))
  | cons next rest ih =>
      rw [encodeAmsdu, Memory.holds_append, Memory.holds_append] at holds
      obtain ⟨⟨own, -⟩, others⟩ := holds
      have frame := subFrameAt_of_holds own
      have size := length_subFrame msdu
      have later := encodeAmsdu_pos next rest
      have up : msdu.subFrame.length ≤ align4 msdu.subFrame.length := by
        unfold align4
        omega
      have padded : (msdu.subFrame ++ padding msdu.subFrame.length).length =
          align4 msdu.subFrame.length := by
        rw [List.length_append, padding, List.length_replicate]
        omega
      rw [encodeAmsdu, List.length_append, padded]
      rw [padded] at others
      by_cases wide : 32 ≤ align4 msdu.subFrame.length
      · obtain ⟨pass, walk⟩ := frame.walk_next (c := c) nMSDU wide
          (by omega : align4 msdu.subFrame.length <
            align4 msdu.subFrame.length + (encodeAmsdu (next :: rest)).length)
        have counted := walk_count_le c (storeHeader c mem start)
          (start + align4 msdu.subFrame.length)
          (align4 msdu.subFrame.length + (encodeAmsdu (next :: rest)).length -
            align4 msdu.subFrame.length) (nMSDU + 1)
        rw [walk, announceable_cons]
        cases typed : msdu.isEtherType with
        | true =>
            rw [roundTrips_after frame typed counted, Nat.add_sub_cancel_left, ih]
            · have long : 7 ≤ msdu.payload.length := by
                rw [size, length_body, if_pos typed] at wide
                unfold align4 at wide
                omega
              simp only [long, true_and]
            · apply Memory.holds_of_agree others
              intro address behind
              apply storeHeader_after (frame.fits typed)
              rw [frame.size]
              simp only [length8023]
              omega
        | false =>
            have lost := not_roundTrips_of_untyped (c := c) pass (next :: rest) frame typed counted
            simp only [lost, false_and, Bool.false_eq_true]
      · -- the walk gives up after a sub-frame of less than 32 bytes
        obtain ⟨-, counted⟩ := frame.walk_end (c := c) nMSDU
          (by omega : msdu.subFrame.length ≤
            align4 msdu.subFrame.length + (encodeAmsdu (next :: rest)).length)
          (by simp only [length8023]; omega) (Or.inl (by omega))
        rw [announceable_cons]
        apply iff_of_false
        · rintro ⟨-, total⟩
          rw [counted, List.length_cons, List.length_cons] at total
          omega
        · rintro ⟨⟨typed, long, -⟩, -⟩
          rw [size, length_body, if_pos typed] at wide
          unfold align4 at wide
          omega

/-- A-MSDU decoding gives back what was encoded, frame for frame, exactly for the lists of
EtherType frames in which every payload but the last has seven bytes or more. -/
theorem deaggregate_encode_iff (c : DeaggContext) (mem : Memory) (start : Nat) (msdu : Msdu)
    (rest : List Msdu) :
    RoundTrips c (deaggregateAMSDUAnnounce c (mem.write start (encodeAmsdu (msdu :: rest))) start
        (encodeAmsdu (msdu :: rest)).length 0) 0 (msdu :: rest) ↔
      Announceable c 0 (msdu :: rest) :=
  walk_roundTrips_iff c msdu rest 0 (mem.write_holds start _)

/-- A frame with a length field and three bytes of 802.2 payload. -/
def llcMsdu : Msdu where
  da := [1, 2, 3, 4, 5, 6]
  sa := [7, 8, 9, 10, 11, 12]
  octet0 := 0
  octet1 := 3
  payload := [0x42, 0x42, 0x03]
  da_length := by decide
  sa_length := by decide
  payload_le := by decide
  length_field _ := by decide

/-- It is announced without its header. -/
theorem llcMsdu_losesHeader :
    ¬RoundTrips stationContext (deaggregateAMSDUAnnounce stationContext
      (Memory.write (fun _ => 0) 0 (encodeAmsdu [llcMsdu])) 0 (encodeAmsdu [llcMsdu]).length 0) 0
      [llcMsdu] := by
  intro roundTrips
  have survives := (walk_roundTrips_iff stationContext llcMsdu [] 0
    (Memory.write_holds _ 0 _)).mp roundTrips
  have typed := survives.1 llcMsdu (by simp)
  exact absurd typed (by decide)

end Mt7612u.Receive
