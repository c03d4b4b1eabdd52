import Mt7612u.Transmit.MgmtRing

/-! Runs of the calls of the management ring: the invariant, what each call does to it, and the exact
condition under which the ring stays in order. -/

namespace Mt7612u.Transmit
open Library.Ring Library.Run

variable {Packet : Type}

namespace MgmtCell

/-- A cell whose packet waits. -/
def waiting (pPacket : Packet) : MgmtCell Packet :=
  ⟨some pPacket, some pPacket, true, true, false, false⟩

/-- A cell whose packet the USB core has. -/
def inFlight (pPacket : Packet) : MgmtCell Packet :=
  ⟨some pPacket, some pPacket, true, false, true, true⟩

/-- A free cell, whatever its buffer was. -/
structure Vacant (c : MgmtCell Packet) : Prop where
  pNdisPacket : c.pNdisPacket = none
  inUse : c.inUse = false
  irpPending : c.irpPending = false
  submitted : c.submitted = false

end MgmtCell

namespace MgmtRing

/-- At most one packet is with the USB core, the others wait behind it. -/
structure Holds (r : MgmtRing Packet) (flying : Option Packet) (queued : List Packet) : Prop where
  room : (flying.toList ++ queued).length ≤ mgmtRingSize
  txDmaIdx : r.txDmaIdx < mgmtRingSize
  txCpuIdx : r.txCpuIdx = (r.txDmaIdx + (flying.toList ++ queued).length) % mgmtRingSize
  txSwFreeIdx : r.txSwFreeIdx = BitVec.ofNat 32 (mgmtRingSize - (flying.toList ++ queued).length)
  cells : window mgmtRingSize r.txDmaIdx (flying.toList ++ queued).length r.cell =
    flying.toList.map MgmtCell.inFlight ++ queued.map MgmtCell.waiting
  vacant : ∀ i, i < mgmtRingSize →
    (∀ k, k < (flying.toList ++ queued).length → (r.txDmaIdx + k) % mgmtRingSize ≠ i) →
    (r.cell i).Vacant
  bulkOutPending : r.bulkOutPending = flying.isSome
  accepted : r.accepted = r.freed ++ (flying.toList ++ queued)
  sent : r.sent = r.freed ++ flying.toList

variable {r : MgmtRing Packet} {flying : Option Packet} {queued : List Packet}

theorem init_holds : (init Packet).Holds none [] where
  room := Nat.zero_le _
  txDmaIdx := (by decide : 0 < mgmtRingSize)
  txCpuIdx := rfl
  txSwFreeIdx := rfl
  cells := rfl
  vacant _ _ _ := ⟨rfl, rfl, rfl, rfl⟩
  bulkOutPending := rfl
  accepted := rfl
  sent := rfl

/-- The flags of the adapter are no part of it. -/
theorem Holds.flags (holds : r.Holds flying queued) (mlme reset : Bool) :
    { r with bulkOutMlme := mlme, bulkOutReset := reset }.Holds flying queued :=
  { holds with }

theorem Holds.freeNo (holds : r.Holds flying queued) :
    r.txSwFreeIdx.toNat = mgmtRingSize - (flying.toList ++ queued).length := by
  rw [holds.txSwFreeIdx, BitVec.toNat_ofNat]
  apply Nat.mod_eq_of_lt
  have small : mgmtRingSize < 2 ^ 32 := by decide
  omega

/-- The cell at `TxDmaIdx` is the first of those in use. -/
theorem Holds.head (holds : r.Holds flying queued) {a : MgmtCell Packet} {l : List (MgmtCell Packet)}
    (cells : flying.toList.map MgmtCell.inFlight ++ queued.map MgmtCell.waiting = a :: l) :
    r.cell r.txDmaIdx = a ∧
      window mgmtRingSize ((r.txDmaIdx + 1) % mgmtRingSize) l.length r.cell = l := by
  have view := holds.cells.trans cells
  have size : (flying.toList ++ queued).length = l.length + 1 := by
    have := congrArg List.length cells
    simpa using this
  rw [size, window_pop, Nat.mod_eq_of_lt holds.txDmaIdx] at view
  exact List.cons.inj view

/-- `RtmpUSBMgmtKickOut` puts the packet behind the others, if there is a free cell. -/
theorem Holds.accept (holds : r.Holds flying queued) (room : 0 < r.freeNo) (pPacket : Packet) :
    (r.accept pPacket).Holds flying (queued ++ [pPacket]) := by
  have free := holds.freeNo
  have total := holds.room
  have inside := holds.txDmaIdx
  have size : (flying.toList ++ (queued ++ [pPacket])).length =
      (flying.toList ++ queued).length + 1 := by
    simp only [List.length_append, List.length_singleton]
    omega
  have accepted := holds.accepted
  unfold MgmtRing.freeNo at room
  rw [free] at room
  generalize num : (flying.toList ++ queued).length = n at *
  have cpu := holds.txCpuIdx
  rw [num] at cpu
  have vacant : (r.cell r.txCpuIdx).Vacant := by
    apply holds.vacant
    · rw [cpu]
      exact Nat.mod_lt _ (by decide)
    · intro k before same
      rw [num] at before
      rw [cpu] at same
      have := mod_inj (by omega) (by omega) same
      omega
  have cell : { r.cell r.txCpuIdx with
      pNdisPacket := some pPacket
      transferBuffer := some pPacket
      inUse := true
      bWaitingBulkOut := true } = MgmtCell.waiting pPacket := by
    simp only [MgmtCell.waiting, vacant.irpPending, vacant.submitted]
  constructor
  · omega
  · exact inside
  · rw [size]
    simp only [MgmtRing.accept, cpu, Nat.mod_add_mod]
    rfl
  · rw [size]
    have before := holds.txSwFreeIdx
    rw [num] at before
    simp only [MgmtRing.accept, before, MgmtRing.setCell]
    apply BitVec.eq_of_toNat_eq
    have small : mgmtRingSize < 2 ^ 32 := by decide
    have one : (1 : BitVec 32).toNat = 1 := rfl
    simp only [BitVec.toNat_sub, BitVec.toNat_ofNat, one]
    omega
  · rw [size]
    have pushed : window mgmtRingSize r.txDmaIdx (n + 1) (Function.update r.cell
        ((r.txDmaIdx + n) % mgmtRingSize) (MgmtCell.waiting pPacket)) = _ :=
      window_push (by omega) _
    have cells := holds.cells
    rw [num] at cells
    rw [cells, ← cpu, ← cell] at pushed
    refine pushed.trans ?_
    rw [cell, List.map_append, List.map_singleton, List.append_assoc]
  · intro i inside apart
    rw [size] at apart
    have other : i ≠ r.txCpuIdx := by
      rw [cpu]
      exact (apart n (Nat.lt_succ_self n)).symm
    simp only [MgmtRing.accept, MgmtRing.setCell, Function.update_of_ne other]
    apply holds.vacant i inside
    intro k before
    rw [num] at before
    exact apart k (by omega)
  · exact holds.bulkOutPending
  · simp only [MgmtRing.accept, accepted, List.append_assoc]
    rfl
  · exact holds.sent

/-- The packet at `TxDmaIdx` goes to the USB core, or it still waits. -/
theorem Holds.bulkOut (holds : r.Holds flying queued) (needStopTx submits : Bool) :
    ∃ flying' queued', flying'.toList ++ queued' = flying.toList ++ queued ∧
      (r.rtusbBulkOutMLMEPacket needStopTx submits).Holds flying' queued' := by
  unfold rtusbBulkOutMLMEPacket
  dsimp only
  cases flying with
  | some pPacket =>
    obtain ⟨first, -⟩ := holds.head (a := .inFlight pPacket) (l := queued.map MgmtCell.waiting) rfl
    rw [if_pos (Or.inr (Or.inr (by rw [first]; rfl)))]
    exact ⟨_, _, rfl, { holds with }⟩
  | none =>
    cases queued with
    | nil =>
      have unused : mgmtRingSize ≤ r.txSwFreeIdx.toNat := holds.freeNo.ge
      rw [if_pos (Or.inl unused)]
      exact ⟨_, _, rfl, { holds with }⟩
    | cons pPacket rest =>
      obtain ⟨first, others⟩ := holds.head (a := .waiting pPacket) (l := rest.map MgmtCell.waiting) rfl
      have free := holds.freeNo
      have total := holds.room
      have inside := holds.txDmaIdx
      simp only [Option.toList_none, List.nil_append, List.length_cons] at free total
      have idle := holds.bulkOutPending
      rw [first]
      have gate : ¬(mgmtRingSize ≤ r.txSwFreeIdx.toNat ∨
          (MgmtCell.waiting pPacket).inUse = false ∨
          (MgmtCell.waiting pPacket).bWaitingBulkOut = false) := by
        simp only [MgmtCell.waiting, reduceCtorEq, or_false]
        omega
      rw [if_neg gate]
      split_ifs
      · exact ⟨_, _, rfl, holds⟩
      · refine ⟨some pPacket, rest, rfl, ?_⟩
        have replaced : window mgmtRingSize r.txDmaIdx (rest.length + 1)
            (Function.update r.cell r.txDmaIdx (MgmtCell.inFlight pPacket)) = _ :=
          window_setHead inside (by omega) _
        simp only [List.length_map] at others
        rw [others] at replaced
        refine ⟨total, inside, holds.txCpuIdx, holds.txSwFreeIdx, replaced, ?_, rfl,
          holds.accepted, ?_⟩
        · intro i small apart
          have other : i ≠ r.txDmaIdx := by
            have first := apart 0 (by simp)
            rw [Nat.add_zero] at first
            exact (Nat.mod_eq_of_lt inside ▸ first).symm
          simp only [setCell, Function.update_of_ne other]
          exact holds.vacant i small apart
        · have before := holds.sent
          simp only [Option.toList_none, List.append_nil] at before
          simp only [before]
          rfl
      · refine ⟨none, pPacket :: rest, rfl, ?_⟩
        have same : r.setCell r.txDmaIdx { MgmtCell.waiting pPacket with
            irpPending := false, bWaitingBulkOut := true } = r := by
          simp only [setCell]
          have unchanged : { MgmtCell.waiting pPacket with
              irpPending := false, bWaitingBulkOut := true } = r.cell r.txDmaIdx := first.symm
          rw [unchanged, Function.update_eq_self]
        rw [same]
        exact { holds with bulkOutPending := rfl }

/-- The tasklet frees the packet that the USB core had. -/
theorem Holds.release {pPacket : Packet} (holds : r.Holds (some pPacket) queued) :
    (r.release r.txDmaIdx).Holds none queued := by
  obtain ⟨first, others⟩ := holds.head (a := .inFlight pPacket) (l := queued.map MgmtCell.waiting) rfl
  have total := holds.room
  have inside := holds.txDmaIdx
  have cpu := holds.txCpuIdx
  have free := holds.txSwFreeIdx
  have accepted := holds.accepted
  have sent := holds.sent
  simp only [Option.toList_some, List.singleton_append, List.length_cons] at total cpu free
  simp only [List.length_map] at others
  have taken : (r.cell r.txDmaIdx).pNdisPacket = some pPacket := by
    rw [first]
    rfl
  constructor
  · simp only [Option.toList_none, List.nil_append]
    omega
  · exact Nat.mod_lt _ (by decide)
  · simp only [MgmtRing.release, setCell, Option.toList_none, List.nil_append, cpu, Nat.mod_add_mod]
    congr 1
    omega
  · simp only [MgmtRing.release, setCell, Option.toList_none, List.nil_append, free]
    apply BitVec.eq_of_toNat_eq
    have small : mgmtRingSize < 2 ^ 32 := by decide
    have one : (1 : BitVec 32).toNat = 1 := rfl
    simp only [BitVec.toNat_add, BitVec.toNat_ofNat, one]
    omega
  · simp only [MgmtRing.release, setCell, Option.toList_none, List.nil_append, List.map_nil]
    rw [window_setPopped inside (by omega)]
    exact others
  · intro i small apart
    simp only [MgmtRing.release, setCell]
    by_cases mine : i = r.txDmaIdx
    · subst mine
      rw [Function.update_self]
      exact ⟨rfl, rfl, rfl, rfl⟩
    · rw [Function.update_of_ne mine]
      apply holds.vacant i small
      intro k before
      cases k with
      | zero =>
        rw [Nat.add_zero, Nat.mod_eq_of_lt inside]
        exact Ne.symm mine
      | succ k =>
        have later := apart k (by simpa using before)
        simp only [MgmtRing.release, setCell, Nat.mod_add_mod] at later
        rwa [Nat.add_comm k 1, ← Nat.add_assoc]
  · rfl
  · simp only [MgmtRing.release, setCell, taken, accepted, Option.toList_some, Option.toList_none,
      List.nil_append, List.append_assoc]
  · simp only [MgmtRing.release, setCell, taken, sent, Option.toList_some, Option.toList_none,
      List.append_nil]

/-- Some packets are in the ring, as they should be. -/
def InOrder (r : MgmtRing Packet) : Prop := ∃ flying queued, r.Holds flying queued

theorem Holds.kick (holds : r.Holds flying queued) (kick : Kick) :
    (r.rtusbKickBulkOut kick).InOrder := by
  unfold rtusbKickBulkOut
  split_ifs
  · exact ⟨_, _, holds⟩
  · exact ⟨_, _, holds⟩
  · obtain ⟨flying', queued', -, after⟩ := holds.bulkOut kick.needStopTx kick.submits
    exact ⟨_, _, after⟩
  · exact ⟨_, _, holds⟩

theorem Holds.kickOut (holds : r.Holds flying queued) (room : 0 < r.freeNo) (pPacket : Packet)
    (kick : Kick) : (r.rtmpUSBMgmtKickOut pPacket kick).InOrder :=
  ((holds.accept room pPacket).flags true _).kick kick

/-- Only the URB of the cell at `TxDmaIdx` is ever with the USB core. -/
theorem Holds.submitted (holds : r.Holds flying queued) {index : Nat} (small : index < mgmtRingSize)
    (urb : (r.cell index).submitted = true) :
    index = r.txDmaIdx ∧ ∃ pPacket, flying = some pPacket := by
  have inside := holds.txDmaIdx
  by_cases outside : ∀ k, k < (flying.toList ++ queued).length →
      (r.txDmaIdx + k) % mgmtRingSize ≠ index
  · have idle := (holds.vacant index small outside).submitted
    exact absurd (urb.symm.trans idle) (by decide)
  · push Not at outside
    obtain ⟨k, before, rfl⟩ := outside
    have cell : (window mgmtRingSize r.txDmaIdx (flying.toList ++ queued).length r.cell)[k]? =
        some (r.cell ((r.txDmaIdx + k) % mgmtRingSize)) := by
      rw [window, List.getElem?_map, List.getElem?_range before, Option.map_some]
    rw [holds.cells] at cell
    cases flying with
    | none =>
      have waits := List.mem_of_getElem? cell
      simp only [Option.toList_none, List.map_nil, List.nil_append, List.mem_map] at waits
      obtain ⟨pPacket, -, same⟩ := waits
      rw [← same] at urb
      cases urb
    | some pPacket =>
      refine ⟨?_, pPacket, rfl⟩
      cases k with
      | zero => rw [Nat.add_zero, Nat.mod_eq_of_lt inside]
      | succ k =>
        simp only [Option.toList_some, List.map_cons, List.map_nil, List.singleton_append,
          List.getElem?_cons_succ] at cell
        have waits := List.mem_of_getElem? cell
        obtain ⟨other, -, same⟩ := List.mem_map.mp waits
        rw [← same] at urb
        cases urb

/-- Every call that does not bring a packet to a full ring leaves the ring in order. -/
theorem mgmtStep_inOrder (r : MgmtRing Packet) (event : MgmtEvent Packet) (inOrder : r.InOrder)
    (fits : r.Fits event) : (mgmtStep r event).InOrder := by
  obtain ⟨flying, queued, holds⟩ := inOrder
  cases event with
  | mmRequest stopped pPacket refused kick =>
    rw [mgmtStep]
    unfold miniportMMRequest
    by_cases room : 0 < r.freeNo
    · rw [if_pos room]
      cases stopped with
      | true => exact ⟨_, _, holds⟩
      | false =>
        cases pPacket with
        | none => exact ⟨_, _, holds⟩
        | some pPacket =>
          cases refused with
          | true => exact ⟨_, _, holds⟩
          | false => exact holds.kickOut room pPacket kick
    · rw [if_neg room]
      cases stopped <;> exact ⟨_, _, holds⟩
  | kickOut pPacket kick => exact holds.kickOut fits pPacket kick
  | kickBulkOut kick => exact holds.kick kick
  | dmaDone index completion kick =>
    simp only [mgmtStep]
    split_ifs with urb
    · obtain ⟨first, pPacket, rfl⟩ := holds.submitted index.isLt urb
      have released : ∀ reset, ({ r with bulkOutReset := reset }.release index).Holds none queued := by
        intro reset
        rw [first]
        exact (holds.flags r.bulkOutMlme reset).release
      unfold rtusbMgmtDmaDoneTasklet
      dsimp only
      split_ifs
      · exact ⟨_, _, released _⟩
      · exact ⟨_, _, released _⟩
      · exact ((released _).flags _ _).kick kick
    · exact ⟨_, _, holds⟩
  | resetBulkOut kick => exact (holds.flags _ _).kick kick

/-- The cell of a packet in the ring is that of one in flight or of one that waits. -/
theorem Holds.cell (holds : r.Holds flying queued) {k : Nat}
    (before : k < (flying.toList ++ queued).length) :
    ∃ pPacket, r.cell ((r.txDmaIdx + k) % mgmtRingSize) = .inFlight pPacket ∨
      r.cell ((r.txDmaIdx + k) % mgmtRingSize) = .waiting pPacket := by
  have member : r.cell ((r.txDmaIdx + k) % mgmtRingSize) ∈
      window mgmtRingSize r.txDmaIdx (flying.toList ++ queued).length r.cell :=
    List.mem_map.mpr ⟨k, List.mem_range.mpr before, rfl⟩
  rw [holds.cells, List.mem_append, List.mem_map, List.mem_map] at member
  rcases member with ⟨pPacket, -, same⟩ | ⟨pPacket, -, same⟩
  · exact ⟨pPacket, Or.inl same.symm⟩
  · exact ⟨pPacket, Or.inr same.symm⟩

/-- The cells of the packets in the ring are those that hold one. -/
theorem Holds.used (holds : r.Holds flying queued) (i : Nat) :
    i ∈ r.used ↔
      ∃ k, k < (flying.toList ++ queued).length ∧ i = (r.txDmaIdx + k) % mgmtRingSize := by
  have total := holds.room
  rw [MgmtRing.used, Finset.mem_filter, Finset.mem_range]
  constructor
  · rintro ⟨small, held⟩
    by_contra outside
    push Not at outside
    have vacant := holds.vacant i small fun k before same => outside k before same.symm
    rw [vacant.pNdisPacket] at held
    cases held
  · rintro ⟨k, before, rfl⟩
    refine ⟨Nat.mod_lt _ (by decide), ?_⟩
    obtain ⟨pPacket, flies | waits⟩ := holds.cell before
    · rw [flies]
      rfl
    · rw [waits]
      rfl

theorem Holds.card (holds : r.Holds flying queued) :
    r.used.card = (flying.toList ++ queued).length :=
  card_occupied holds.room holds.used

theorem Holds.contents (holds : r.Holds flying queued) :
    r.contents = flying.toList ++ queued := by
  rw [MgmtRing.contents, holds.card, holds.cells, List.filterMap_append, List.filterMap_map,
    List.filterMap_map]
  have flies : (fun cell : MgmtCell Packet => cell.pNdisPacket) ∘ MgmtCell.inFlight = some := rfl
  have waits : (fun cell : MgmtCell Packet => cell.pNdisPacket) ∘ MgmtCell.waiting = some := rfl
  rw [flies, waits, List.filterMap_some, List.filterMap_some]

theorem Holds.orderly (holds : r.Holds flying queued) : r.Orderly where
  txSwFreeIdx := by rw [holds.freeNo, holds.card]
  inUse := by
    intro i small
    by_cases held : i ∈ r.used
    · obtain ⟨k, before, rfl⟩ := (holds.used i).mp held
      obtain ⟨pPacket, flies | waits⟩ := holds.cell before
      · rw [flies]
        simp [MgmtCell.inFlight]
      · rw [waits]
        simp [MgmtCell.waiting]
    · have vacant := holds.vacant i small fun k before same =>
        held ((holds.used i).mpr ⟨k, before, same.symm⟩)
      rw [vacant.inUse, vacant.pNdisPacket]
      simp
  cells := by
    intro i
    rw [holds.card]
    exact holds.used i
  txCpuIdx := by rw [holds.card, holds.txCpuIdx]
  inOrder := by
    rw [holds.accepted, holds.sent, ← List.append_assoc]
    exact List.prefix_append _ _
  freedOnce := by rw [holds.contents, holds.accepted]
  refused := by
    intro pPacket refused kick
    have free := holds.freeNo
    have total := holds.room
    rw [holds.card]
    unfold miniportMMRequest MgmtRing.freeNo
    rw [free]
    rw [if_neg Bool.false_ne_true]
    by_cases room : 0 < mgmtRingSize - (flying.toList ++ queued).length
    · rw [if_pos room]
      apply iff_of_false _ (by omega)
      cases pPacket with
      | none => exact MMRequest.noConfusion
      | some pPacket => cases refused <;> exact MMRequest.noConfusion
    · rw [if_neg room]
      exact iff_of_true rfl (by omega)

theorem kick_txSwFreeIdx (r : MgmtRing Packet) (kick : Kick) :
    (r.rtusbKickBulkOut kick).txSwFreeIdx = r.txSwFreeIdx := by
  unfold rtusbKickBulkOut rtusbBulkOutMLMEPacket
  dsimp only
  split_ifs <;> rfl

/-- A packet brought to a full ring takes the cell of another, and the count of the free cells falls
below zero. -/
theorem kickOut_full (r : MgmtRing Packet) (pPacket : Packet) (kick : Kick) (full : ¬0 < r.freeNo) :
    ¬(r.rtmpUSBMgmtKickOut pPacket kick).Orderly := by
  intro orderly
  have count := orderly.txSwFreeIdx
  have none : r.txSwFreeIdx = 0 := BitVec.eq_of_toNat_eq (by simpa [freeNo] using full)
  rw [rtmpUSBMgmtKickOut, kick_txSwFreeIdx] at count
  simp only [MgmtRing.accept, none] at count
  have wrapped : (0 - 1 : BitVec 32).toNat = 2 ^ 32 - 1 := by decide
  have size : mgmtRingSize = 32 := rfl
  omega

end MgmtRing

/-- From the ring as it is allocated, the counters agree with the cells in every state of a run, the
packets go out in order, each is freed once and none is refused while there is a cell for it, exactly
when no call brings a packet to a full ring. -/
theorem mgmtRing_orderly_iff (events : List (MgmtEvent Packet)) :
    (∀ n, (run mgmtStep (MgmtRing.init Packet) (events.take n)).Orderly) ↔
      Throughout mgmtStep MgmtRing.Fits (MgmtRing.init Packet) events := by
  apply forall_take_iff_throughout MgmtRing.InOrder MgmtRing.Orderly
  · rintro r ⟨_, _, holds⟩
    exact holds.orderly
  · exact fun r event inOrder fits => MgmtRing.mgmtStep_inOrder r event inOrder fits
  · intro r event _ full
    cases event with
    | kickOut pPacket kick => exact MgmtRing.kickOut_full r pPacket kick full
    | mmRequest => exact absurd trivial full
    | kickBulkOut => exact absurd trivial full
    | dmaDone => exact absurd trivial full
    | resetBulkOut => exact absurd trivial full
  · exact ⟨_, _, MgmtRing.init_holds⟩

/-- One packet more than there are cells, while none of them is sent. -/
def overfull : List (MgmtEvent Nat) :=
  (List.range (mgmtRingSize + 1)).map fun pPacket => .kickOut pPacket ⟨true, false, true⟩

/-- The ring takes a packet when it is full. -/
theorem not_mgmtRing_orderly :
    ¬∀ events : List (MgmtEvent Nat), (run mgmtStep (MgmtRing.init Nat) events).Orderly := by
  intro orderly
  have count := (orderly overfull).txSwFreeIdx
  have wrapped : (run mgmtStep (MgmtRing.init Nat) overfull).txSwFreeIdx.toNat = 2 ^ 32 - 1 := by
    decide +kernel
  have size : mgmtRingSize = 32 := rfl
  omega

end Mt7612u.Transmit
