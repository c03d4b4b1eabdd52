import Mt7612u.Library.Run
import Mt7612u.Receive.Convert8023

/-! `RTMPDeFragmentDataFrame` of `cmm_data.c`: one adapter-wide record puts the fragments of
every transmitter together. -/

namespace Mt7612u.Receive
open Library.Run

def maxFrameSize : Nat := 2346

/-- What the function reads of an `RX_BLK`: the RXWI, the bytes from `pHeader` up to `pData`,
and the `DataSize` bytes at `pData`. -/
structure RxFragment (rxwiSize : Nat) where
  rxWI : List UInt8
  header : List UInt8
  pData : Memory
  dataSize : Nat
  rxWI_length : rxWI.length = rxwiSize
  header_room : 24 ≤ header.length ∧ header.length < 256

variable {rxwiSize : Nat}

namespace RxFragment

def moreFrag (rx : RxFragment rxwiSize) : Bool := (rx.header.getD 1 0).toBitVec.getLsbD 2
def addr2 (rx : RxFragment rxwiSize) : List UInt8 := (rx.header.drop 10).take macAddrLen

/-- The sequence control field, the fragment number in its low bits. -/
def seqCtrl (rx : RxFragment rxwiSize) : BitVec 16 :=
  (rx.header.getD 23 0).toBitVec ++ (rx.header.getD 22 0).toBitVec

def frag (rx : RxFragment rxwiSize) : Nat := (rx.seqCtrl.extractLsb' 0 4).toNat
def sequence (rx : RxFragment rxwiSize) : Nat := (rx.seqCtrl.extractLsb' 4 12).toNat
def payload (rx : RxFragment rxwiSize) : List UInt8 := rx.pData.bytes 0 rx.dataSize

end RxFragment

/-- `FRAGMENT_FRAME`, less the flags nobody reads. -/
structure FragmentFrame where
  pFragPacket : Memory
  rxSize : Nat
  sequence : Nat
  lastFrag : Nat

/-- `RESET_FRAGFRAME`. -/
def FragmentFrame.reset (frame : FragmentFrame) : FragmentFrame :=
  { frame with rxSize := 0, sequence := 0, lastFrag := 0 }

/-- The packet given back, as `pRxBlk` then describes it. -/
structure RxPacket where
  rxWI : List UInt8
  header : List UInt8
  data : List UInt8

/-- The first of several fragments is recorded. -/
def FragmentFrame.record (frame : FragmentFrame) (rx : RxFragment rxwiSize) : FragmentFrame where
  pFragPacket :=
    (frame.pFragPacket.write 0 rx.rxWI).write rxwiSize (rx.header ++ rx.payload)
  rxSize := rx.dataSize + rx.header.length + rxwiSize
  sequence := rx.sequence
  lastFrag := rx.frag

/-- A later fragment goes behind what is there. -/
def FragmentFrame.concatenate (frame : FragmentFrame) (rx : RxFragment rxwiSize) :
    FragmentFrame :=
  { frame with
    pFragPacket := frame.pFragPacket.write frame.rxSize rx.payload
    rxSize := frame.rxSize + rx.dataSize
    lastFrag := rx.frag }

/-- What `pRxBlk` says of the finished packet: the place of the data comes from the last
fragment. -/
def FragmentFrame.finish (frame : FragmentFrame) (rx : RxFragment rxwiSize) : RxPacket where
  rxWI := frame.pFragPacket.bytes 0 rxwiSize
  header := frame.pFragPacket.bytes rxwiSize rx.header.length
  data := frame.pFragPacket.bytes (rxwiSize + rx.header.length)
    (u16 ((frame.rxSize : Int) - rx.header.length - rxwiSize))

/-- The fragment has the Sequence and the number that the record waits for. -/
def FragmentFrame.awaits (frame : FragmentFrame) (rx : RxFragment rxwiSize) : Bool :=
  rx.sequence == frame.sequence && rx.frag == frame.lastFrag + 1

def FragmentFrame.tooLarge (frame : FragmentFrame) (rx : RxFragment rxwiSize) : Bool :=
  decide (maxFrameSize + rxwiSize < frame.rxSize + rx.dataSize)

/-- `RTMPDeFragmentDataFrame`; `pNewFragPacket` is what `dev_alloc_skb` would give. -/
def rtmpDeFragmentDataFrame (frame : FragmentFrame) (rx : RxFragment rxwiSize)
    (pNewFragPacket : Option Memory) : FragmentFrame × Option RxPacket :=
  if rx.frag = 0 then
    if rx.moreFrag then (frame.record rx, none) else (frame, none)
  else if !frame.awaits rx then (frame.reset, none)
  else if frame.tooLarge rx then (frame.reset, none)
  else if rx.pData.equal 0 snap8021H then (frame, none)
  else
    let frame := frame.concatenate rx
    if rx.moreFrag then (frame, none)
    else
      match pNewFragPacket with
      | some fresh => ({ frame with pFragPacket := fresh }, some (frame.finish rx))
      | none => (frame.reset, none)

/-- A fragment that comes in, and the buffer there is for the next reassembly. -/
structure Arrival (rxwiSize : Nat) where
  rx : RxFragment rxwiSize
  pNewFragPacket : Option Memory

/-- The record, with what has come in, what has been given back, and which of the arrivals were
stored since the last fragment 0, reset or finished packet. -/
structure Reassembly (rxwiSize : Nat) where
  fragFrame : FragmentFrame
  arrived : List (RxFragment rxwiSize)
  stored : List (Nat × RxFragment rxwiSize)
  returned : List RxPacket

/-- The fragment is put behind the recorded ones. -/
def FragmentFrame.accepts (frame : FragmentFrame) (rx : RxFragment rxwiSize) : Bool :=
  rx.frag != 0 && frame.awaits rx && !frame.tooLarge rx && !rx.pData.equal 0 snap8021H

/-- What is stored after one more arrival. -/
def nextStored (frame : FragmentFrame) (stored : List (Nat × RxFragment rxwiSize)) (index : Nat)
    (rx : RxFragment rxwiSize) : List (Nat × RxFragment rxwiSize) :=
  if rx.frag = 0 then
    if rx.moreFrag then [(index, rx)] else stored
  else if frame.accepts rx then
    if rx.moreFrag then stored ++ [(index, rx)] else []
  else if frame.awaits rx && !frame.tooLarge rx then stored
  else []

def reassemblyStep (s : Reassembly rxwiSize) (arrival : Arrival rxwiSize) :
    Reassembly rxwiSize where
  fragFrame := (rtmpDeFragmentDataFrame s.fragFrame arrival.rx arrival.pNewFragPacket).1
  arrived := s.arrived ++ [arrival.rx]
  stored := nextStored s.fragFrame s.stored s.arrived.length arrival.rx
  returned := s.returned ++
    (rtmpDeFragmentDataFrame s.fragFrame arrival.rx arrival.pNewFragPacket).2.toList

def Reassembly.start (fragFrame : FragmentFrame) : Reassembly rxwiSize := ⟨fragFrame, [], [], []⟩

/-- The packet is the header of fragment 0 and the payloads of the fragments 0, 1, …, n of one
transmitter and one Sequence, the last of which has MoreFrag clear. -/
structure Assembles (parts : List (RxFragment rxwiSize)) (packet : RxPacket) : Prop where
  numbered : parts.map RxFragment.frag = List.range parts.length
  last : ∃ front, ∃ final : RxFragment rxwiSize, parts = front ++ [final] ∧
    final.moreFrag = false ∧ ∀ rx ∈ front, rx.moreFrag = true
  addr2 : ∃ transmitter, ∀ rx ∈ parts, rx.addr2 = transmitter
  sequence : ∃ number, ∀ rx ∈ parts, rx.sequence = number
  header : parts.head?.map RxFragment.header = some packet.header
  data : packet.data = parts.flatMap RxFragment.payload

/-- Every packet given back has been assembled, and each arrival was used for at most one. -/
def Reassembly.Sound (s : Reassembly rxwiSize) : Prop :=
  ∃ used : List (List (Nat × RxFragment rxwiSize)),
    List.Forall₂ (fun parts packet => Assembles (parts.map Prod.snd) packet) used s.returned ∧
      used.flatten.Pairwise (fun one other => one.1 < other.1) ∧
      ∀ part ∈ used.flatten, s.arrived[part.1]? = some part.2

/-- A fragment that the record accepts follows, since the last fragment 0, reset or finished
packet, one of its own transmitter; and the last one has a header as long as the first's. -/
def Follows (s : Reassembly rxwiSize) (arrival : Arrival rxwiSize) : Prop :=
  s.fragFrame.accepts arrival.rx = true →
    (∃ previous ∈ s.stored.getLast?, previous.2.addr2 = arrival.rx.addr2) ∧
      (arrival.rx.moreFrag = false →
        ∃ first ∈ s.stored.head?, first.2.header.length = arrival.rx.header.length)

/-- What the buffer holds of the stored fragments. -/
def content : List (RxFragment rxwiSize) → List UInt8
  | [] => []
  | first :: rest => first.rxWI ++ (first.header ++ (first :: rest).flatMap RxFragment.payload)

/-- The record is that of the stored fragments. -/
structure Recorded (stored : List (RxFragment rxwiSize)) (frame : FragmentFrame) : Prop where
  numbered : stored.map RxFragment.frag = List.range stored.length
  more : ∀ rx ∈ stored, rx.moreFrag = true
  addr2 : ∃ transmitter, ∀ rx ∈ stored, rx.addr2 = transmitter
  sequence : ∀ rx ∈ stored, rx.sequence = frame.sequence
  lastFrag : frame.lastFrag + 1 = stored.length
  rxSize : frame.rxSize = (content stored).length
  buffer : frame.pFragPacket.Holds 0 (content stored)

theorem content_concat {stored : List (RxFragment rxwiSize)} (some : stored ≠ [])
    (rx : RxFragment rxwiSize) : content (stored ++ [rx]) = content stored ++ rx.payload := by
  cases stored with
  | nil => exact absurd rfl some
  | cons first rest => simp [content]

theorem recorded_first (frame : FragmentFrame) {rx : RxFragment rxwiSize} (first : rx.frag = 0)
    (more : rx.moreFrag = true) : Recorded [rx] (frame.record rx) := by
  have whole : content [rx] = rx.rxWI ++ (rx.header ++ rx.payload) := by simp [content]
  refine ⟨by simp [first], by simp [more], ⟨rx.addr2, by simp⟩, by simp [FragmentFrame.record],
    by simp [FragmentFrame.record, first], ?_, ?_⟩
  · have payload : rx.payload.length = rx.dataSize := Memory.length_bytes _ _ _
    simp only [whole, FragmentFrame.record, List.length_append, rx.rxWI_length, payload]
    omega
  · rw [whole]
    have front := Memory.write_holds frame.pFragPacket 0 rx.rxWI
    have behind := Memory.holds_write_behind front (rx.header ++ rx.payload)
    rw [zero_add, rx.rxWI_length] at behind
    exact behind

/-- The buffer and its size after a fragment has been put behind the others. -/
theorem Recorded.concatenated {stored : List (RxFragment rxwiSize)} {frame : FragmentFrame}
    (recorded : Recorded stored frame) (rx : RxFragment rxwiSize) :
    (frame.concatenate rx).pFragPacket.Holds 0 (content (stored ++ [rx])) ∧
      (frame.concatenate rx).rxSize = (content (stored ++ [rx])).length := by
  have some : stored ≠ [] := by
    rintro rfl
    exact absurd recorded.lastFrag (by simp)
  have behind := Memory.holds_write_behind recorded.buffer rx.payload
  rw [zero_add, ← recorded.rxSize] at behind
  have payload : rx.payload.length = rx.dataSize := Memory.length_bytes _ _ _
  rw [content_concat some, List.length_append, ← recorded.rxSize, payload]
  exact ⟨behind, rfl⟩

/-- What the tests of the function give for an accepted fragment. -/
theorem accepts_iff {frame : FragmentFrame} {rx : RxFragment rxwiSize} :
    frame.accepts rx = true ↔ rx.frag ≠ 0 ∧ (rx.sequence = frame.sequence ∧
      rx.frag = frame.lastFrag + 1) ∧ frame.rxSize + rx.dataSize ≤ maxFrameSize + rxwiSize ∧
      rx.pData.equal 0 snap8021H = false := by
  unfold FragmentFrame.accepts FragmentFrame.awaits FragmentFrame.tooLarge
  simp only [Bool.and_eq_true, bne_iff_ne, ne_eq, beq_iff_eq, Bool.not_eq_true',
    decide_eq_false_iff_not, not_lt, and_assoc]

/-- The fragments stored so far and an accepted one are numbered without a gap. -/
theorem Recorded.numbered_concat {stored : List (RxFragment rxwiSize)} {frame : FragmentFrame}
    (recorded : Recorded stored frame) {rx : RxFragment rxwiSize}
    (accepted : frame.accepts rx = true) :
    (stored ++ [rx]).map RxFragment.frag = List.range (stored ++ [rx]).length := by
  obtain ⟨-, ⟨-, number⟩, -⟩ := accepts_iff.mp accepted
  rw [List.map_append, recorded.numbered, List.length_append, List.map_singleton,
    List.length_singleton, List.range_succ, number, recorded.lastFrag]

theorem Recorded.addr2_concat {stored : List (RxFragment rxwiSize)} {frame : FragmentFrame}
    (recorded : Recorded stored frame) {rx previous : RxFragment rxwiSize}
    (member : previous ∈ stored) (same : previous.addr2 = rx.addr2) :
    ∃ transmitter, ∀ part ∈ stored ++ [rx], part.addr2 = transmitter := by
  obtain ⟨transmitter, all⟩ := recorded.addr2
  refine ⟨transmitter, fun part belongs => ?_⟩
  obtain earlier | last := List.mem_append.mp belongs
  · exact all part earlier
  · rw [List.mem_singleton.mp last, ← same]
    exact all previous member

theorem Recorded.sequence_concat {stored : List (RxFragment rxwiSize)} {frame : FragmentFrame}
    (recorded : Recorded stored frame) {rx : RxFragment rxwiSize}
    (accepted : frame.accepts rx = true) :
    ∀ part ∈ stored ++ [rx], part.sequence = frame.sequence := by
  obtain ⟨-, ⟨sequence, -⟩, -⟩ := accepts_iff.mp accepted
  intro part belongs
  obtain earlier | last := List.mem_append.mp belongs
  · exact recorded.sequence part earlier
  · rw [List.mem_singleton.mp last]
    exact sequence

theorem Recorded.concatenate {stored : List (RxFragment rxwiSize)} {frame : FragmentFrame}
    (recorded : Recorded stored frame) {rx previous : RxFragment rxwiSize}
    (accepted : frame.accepts rx = true) (more : rx.moreFrag = true)
    (member : previous ∈ stored) (same : previous.addr2 = rx.addr2) :
    Recorded (stored ++ [rx]) (frame.concatenate rx) := by
  obtain ⟨buffer, size⟩ := recorded.concatenated rx
  refine ⟨recorded.numbered_concat accepted, ?_, recorded.addr2_concat member same,
    recorded.sequence_concat accepted, ?_, size, buffer⟩
  · intro part belongs
    obtain earlier | last := List.mem_append.mp belongs
    · exact recorded.more part earlier
    · rw [List.mem_singleton.mp last]
      exact more
  · obtain ⟨-, ⟨-, number⟩, -⟩ := accepts_iff.mp accepted
    rw [List.length_append, ← recorded.lastFrag, List.length_singleton, ← number]
    rfl

/-- The packet given back for the last fragment. -/
theorem Recorded.assembles {stored : List (RxFragment rxwiSize)} {frame : FragmentFrame}
    (recorded : Recorded stored frame) {rx previous first : RxFragment rxwiSize}
    (accepted : frame.accepts rx = true) (last : rx.moreFrag = false)
    (member : previous ∈ stored) (same : previous.addr2 = rx.addr2)
    (head : stored.head? = some first) (room : first.header.length = rx.header.length) :
    Assembles (stored ++ [rx]) ((frame.concatenate rx).finish rx) := by
  obtain ⟨buffer, size⟩ := recorded.concatenated rx
  obtain ⟨-, -, small, -⟩ := accepts_iff.mp accepted
  obtain ⟨rest, rfl⟩ : ∃ rest, stored = first :: rest := by
    cases stored with
    | nil => exact absurd head (by simp)
    | cons other rest =>
        rw [Option.some.inj head]
        exact ⟨rest, rfl⟩
  rw [List.cons_append, content, Memory.holds_append, Memory.holds_append, zero_add,
    first.rxWI_length, room] at buffer
  obtain ⟨-, header, data⟩ := buffer
  have total : (frame.concatenate rx).rxSize = frame.rxSize + rx.dataSize := rfl
  have payload : u16 (((frame.concatenate rx).rxSize : Int) - rx.header.length - rxwiSize) =
      ((first :: (rest ++ [rx])).flatMap RxFragment.payload).length := by
    rw [List.cons_append, content, List.length_append, List.length_append, first.rxWI_length,
      room] at size
    unfold u16
    simp only [maxFrameSize] at small
    omega
  refine ⟨recorded.numbered_concat accepted, ⟨first :: rest, rx, rfl, last, recorded.more⟩,
    recorded.addr2_concat member same, ⟨frame.sequence, recorded.sequence_concat accepted⟩, ?_, ?_⟩
  · simp only [List.cons_append, List.head?_cons, Option.map_some, FragmentFrame.finish,
      Option.some.injEq]
    rw [← room]
    exact header.symm
  · simp only [FragmentFrame.finish, payload]
    exact data

/-- Arrivals in the order they came in. -/
def Ordered (arrived : List (RxFragment rxwiSize)) (parts : List (Nat × RxFragment rxwiSize)) :
    Prop :=
  parts.Pairwise (fun one other => one.1 < other.1) ∧ ∀ part ∈ parts, arrived[part.1]? = some part.2

theorem Ordered.sublist {arrived : List (RxFragment rxwiSize)}
    {parts fewer : List (Nat × RxFragment rxwiSize)} (ordered : Ordered arrived parts)
    (sublist : fewer.Sublist parts) : Ordered arrived fewer :=
  ⟨ordered.1.sublist sublist, fun part member => ordered.2 part (sublist.subset member)⟩

theorem Ordered.later {arrived : List (RxFragment rxwiSize)}
    {parts : List (Nat × RxFragment rxwiSize)} (ordered : Ordered arrived parts)
    (rx : RxFragment rxwiSize) : Ordered (arrived ++ [rx]) parts := by
  refine ⟨ordered.1, fun part member => ?_⟩
  have present := ordered.2 part member
  have inside := (List.getElem?_eq_some_iff.mp present).1
  rw [List.getElem?_append_left inside, present]

theorem Ordered.concat {arrived : List (RxFragment rxwiSize)}
    {parts : List (Nat × RxFragment rxwiSize)} (ordered : Ordered arrived parts)
    (rx : RxFragment rxwiSize) : Ordered (arrived ++ [rx]) (parts ++ [(arrived.length, rx)]) := by
  constructor
  · rw [List.pairwise_append]
    refine ⟨ordered.1, List.pairwise_singleton _ _, fun one member other last => ?_⟩
    rw [List.mem_singleton.mp last]
    exact (List.getElem?_eq_some_iff.mp (ordered.2 one member)).1
  · intro part member
    obtain earlier | last := List.mem_append.mp member
    · exact (ordered.later rx).2 part earlier
    · rw [List.mem_singleton.mp last]
      exact List.getElem?_concat_length

/-- The record is that of the stored arrivals, and no arrival is used twice. -/
structure ReassemblyInvariant (s : Reassembly rxwiSize) : Prop where
  recorded : s.stored ≠ [] → Recorded (s.stored.map Prod.snd) s.fragFrame
  used : ∃ used : List (List (Nat × RxFragment rxwiSize)),
    List.Forall₂ (fun parts packet => Assembles (parts.map Prod.snd) packet) used s.returned ∧
      Ordered s.arrived (used.flatten ++ s.stored)

/-- An arrival that gives nothing back and stores a prefix of what was stored. -/
theorem ReassemblyInvariant.quiet {s : Reassembly rxwiSize} (invariant : ReassemblyInvariant s)
    (rx : RxFragment rxwiSize) (fragFrame : FragmentFrame)
    {stored : List (Nat × RxFragment rxwiSize)} (fewer : stored.Sublist s.stored)
    (recorded : stored ≠ [] → Recorded (stored.map Prod.snd) fragFrame) :
    ReassemblyInvariant ⟨fragFrame, s.arrived ++ [rx], stored, s.returned⟩ := by
  obtain ⟨used, assembled, ordered⟩ := invariant.used
  exact ⟨recorded, used, assembled,
    (ordered.sublist (fewer.append_left used.flatten)).later rx⟩

/-- An accepted fragment, under the condition, finds its predecessors stored. -/
theorem Follows.predecessors {s : Reassembly rxwiSize} {arrival : Arrival rxwiSize}
    (follows : Follows s arrival) (invariant : ReassemblyInvariant s)
    (accepted : s.fragFrame.accepts arrival.rx = true) :
    Recorded (s.stored.map Prod.snd) s.fragFrame ∧
      ∃ previous ∈ s.stored.map Prod.snd, previous.addr2 = arrival.rx.addr2 := by
  obtain ⟨⟨previous, found, same⟩, -⟩ := follows accepted
  have member := List.mem_of_getLast? found
  exact ⟨invariant.recorded (List.ne_nil_of_mem member), previous.2,
    List.mem_map_of_mem member, same⟩

theorem reassemblyStep_first {s : Reassembly rxwiSize} (invariant : ReassemblyInvariant s)
    {arrival : Arrival rxwiSize} (first : arrival.rx.frag = 0) :
    ReassemblyInvariant (reassemblyStep s arrival) := by
  unfold reassemblyStep rtmpDeFragmentDataFrame nextStored
  rw [if_pos first, if_pos first]
  by_cases more : arrival.rx.moreFrag = true
  · rw [if_pos more, if_pos more]
    obtain ⟨used, assembled, ordered⟩ := invariant.used
    refine ⟨fun _ => recorded_first s.fragFrame first more, used, ?_, ?_⟩
    · simpa using assembled
    · exact (ordered.sublist (List.sublist_append_left _ _)).concat arrival.rx
  · rw [if_neg more, if_neg more]
    simpa using invariant.quiet arrival.rx s.fragFrame (List.Sublist.refl s.stored) invariant.recorded

theorem reassemblyStep_accepted {s : Reassembly rxwiSize} (invariant : ReassemblyInvariant s)
    {arrival : Arrival rxwiSize} (follows : Follows s arrival)
    (accepted : s.fragFrame.accepts arrival.rx = true) :
    ReassemblyInvariant (reassemblyStep s arrival) := by
  obtain ⟨recorded, previous, member, same⟩ := follows.predecessors invariant accepted
  obtain ⟨used, assembled, ordered⟩ := invariant.used
  have tests := accepted
  unfold FragmentFrame.accepts at tests
  simp only [Bool.and_eq_true, bne_iff_ne, ne_eq, Bool.not_eq_true'] at tests
  obtain ⟨⟨⟨numbered, awaited⟩, fits⟩, plain⟩ := tests
  unfold reassemblyStep rtmpDeFragmentDataFrame nextStored
  simp only [numbered, awaited, fits, plain, accepted, ↓reduceIte, Bool.not_true,
    Bool.false_eq_true]
  by_cases more : arrival.rx.moreFrag = true
  · simp only [more, ↓reduceIte]
    refine ⟨fun _ => ?_, used, by simpa using assembled, ?_⟩
    · rw [List.map_append]
      exact recorded.concatenate accepted more member same
    · rw [← List.append_assoc]
      exact ordered.concat arrival.rx
  · have last : arrival.rx.moreFrag = false := by simpa using more
    obtain ⟨-, room⟩ := follows accepted
    obtain ⟨first, head, length⟩ := room last
    have packet := recorded.assembles accepted last member same
      (by rw [List.head?_map, Option.mem_def.mp head, Option.map_some]) length
    simp only [last, Bool.false_eq_true, ↓reduceIte]
    cases arrival.pNewFragPacket with
    | none =>
        refine ⟨fun some => absurd rfl some, used, by simpa using assembled, ?_⟩
        exact (ordered.sublist (List.Sublist.append_left (List.nil_sublist _) _)).later arrival.rx
    | some fresh =>
        refine ⟨fun some => absurd rfl some,
          used ++ [s.stored ++ [(s.arrived.length, arrival.rx)]], ?_, ?_⟩
        · apply List.rel_append assembled
          refine List.Forall₂.cons ?_ List.Forall₂.nil
          rw [List.map_append]
          exact packet
        · rw [List.flatten_append, List.flatten_singleton, List.append_nil, ← List.append_assoc]
          exact ordered.concat arrival.rx

theorem reassemblyStep_rejected {s : Reassembly rxwiSize} (invariant : ReassemblyInvariant s)
    {arrival : Arrival rxwiSize} (later : arrival.rx.frag ≠ 0)
    (rejected : s.fragFrame.accepts arrival.rx = false) :
    ReassemblyInvariant (reassemblyStep s arrival) := by
  have reset := invariant.quiet arrival.rx s.fragFrame.reset
    (List.nil_sublist s.stored) fun some => absurd rfl some
  unfold reassemblyStep rtmpDeFragmentDataFrame nextStored
  rw [if_neg later, if_neg later, rejected]
  cases awaited : s.fragFrame.awaits arrival.rx with
  | false => simpa using reset
  | true =>
      cases large : s.fragFrame.tooLarge arrival.rx with
      | true => simpa using reset
      | false =>
          -- only another LLC header in the middle is left to reject it
          have llc : arrival.rx.pData.equal 0 snap8021H = true := by
            simpa [FragmentFrame.accepts, later, awaited, large] using rejected
          simpa [llc] using
            invariant.quiet arrival.rx s.fragFrame (List.Sublist.refl s.stored) invariant.recorded

theorem reassemblyStep_invariant {s : Reassembly rxwiSize} (arrival : Arrival rxwiSize)
    (invariant : ReassemblyInvariant s) (follows : Follows s arrival) :
    ReassemblyInvariant (reassemblyStep s arrival) := by
  by_cases first : arrival.rx.frag = 0
  · exact reassemblyStep_first invariant first
  · cases accepted : s.fragFrame.accepts arrival.rx with
    | true => exact reassemblyStep_accepted invariant follows accepted
    | false => exact reassemblyStep_rejected invariant first accepted

theorem start_invariant (fragFrame : FragmentFrame) :
    ReassemblyInvariant (Reassembly.start fragFrame : Reassembly rxwiSize) :=
  ⟨fun some => absurd rfl some, [], List.Forall₂.nil, List.Pairwise.nil,
    fun _ member => absurd member (by simp [Reassembly.start])⟩

/-- From any record on, and for fragments of any number of transmitters in any order, every packet
given back has been assembled as it should be, as long as each fragment the record accepts follows
one of its own transmitter. -/
theorem run_reassembled (fragFrame : FragmentFrame) (arrivals : List (Arrival rxwiSize))
    (along : Throughout reassemblyStep Follows (Reassembly.start fragFrame) arrivals) :
    (run reassemblyStep (Reassembly.start fragFrame) arrivals).Sound := by
  have final := run_invariant ReassemblyInvariant
    (fun s arrival invariant follows => reassemblyStep_invariant arrival invariant follows)
    (start_invariant fragFrame) arrivals along
  obtain ⟨used, assembled, ordered⟩ := final.used
  have own := ordered.sublist (List.sublist_append_left used.flatten _)
  exact ⟨used, assembled, own.1, own.2⟩

/-- A data fragment of Sequence 0 with four bytes of payload. -/
def fragmentOf (station number : UInt8) (more : Bool) : RxFragment 28 where
  rxWI := List.replicate 28 0
  header := [8, if more then 4 else 0] ++ List.replicate 8 0 ++ List.replicate 6 station ++
    List.replicate 6 0 ++ [number, 0]
  pData address := number * 16 + UInt8.ofNat address
  dataSize := 4
  rxWI_length := rfl
  header_room := by simp

def zeroedFragFrame : FragmentFrame := ⟨fun _ => 0, 0, 0, 0⟩

theorem run_reassembled_pair :
    (run reassemblyStep (Reassembly.start zeroedFragFrame)
        [⟨fragmentOf 1 0 true, none⟩, ⟨fragmentOf 1 1 false, some fun _ => 0⟩]).Sound ∧
      (run reassemblyStep (Reassembly.start zeroedFragFrame)
        [⟨fragmentOf 1 0 true, none⟩, ⟨fragmentOf 1 1 false, some fun _ => 0⟩]).returned.length = 1 :=
  ⟨run_reassembled zeroedFragFrame _ (by unfold Follows; decide), by decide⟩

/-- The record starts as if fragment 0 of Sequence 0 had come in: a lone last fragment is given
back as a packet. -/
theorem loneFragment_returned :
    ¬(run reassemblyStep (Reassembly.start zeroedFragFrame)
      [⟨fragmentOf 1 1 false, some fun _ => 0⟩]).Sound := by
  rintro ⟨used, assembled, -, members⟩
  have arrived : (run reassemblyStep (Reassembly.start zeroedFragFrame)
      [⟨fragmentOf 1 1 false, some fun _ => 0⟩]).arrived = [fragmentOf 1 1 false] := rfl
  have one : (run reassemblyStep (Reassembly.start zeroedFragFrame)
      [⟨fragmentOf 1 1 false, some fun _ => 0⟩]).returned.length = 1 := by decide
  rw [arrived] at members
  obtain ⟨packet, returned⟩ := List.length_eq_one_iff.mp one
  rw [returned] at assembled
  obtain ⟨parts, none, whole, empty, rfl⟩ := List.forall₂_cons_right_iff.mp assembled
  obtain ⟨front, final, split, -⟩ := whole.last
  -- whatever the parts are, the first of them is a fragment 0, and none has come in
  cases parts with
  | nil => exact absurd split (by simp)
  | cons first rest =>
      have numbered := whole.numbered
      rw [List.map_map, List.length_map, List.length_cons, List.range_succ_eq_map, List.map_cons]
        at numbered
      have zero : first.2.frag = 0 := (List.cons.inj numbered).1
      have present := members first (by simp)
      have only : first.2 = fragmentOf 1 1 false := by
        have inside := (List.getElem?_eq_some_iff.mp present).1
        have index : first.1 = 0 := by simpa using inside
        rw [index] at present
        exact (Option.some.inj present).symm
      rw [only] at zero
      exact absurd zero (by decide)

end Mt7612u.Receive
