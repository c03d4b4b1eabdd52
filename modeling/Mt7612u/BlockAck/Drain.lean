import Mt7612u.BlockAck.Reorder

/-! What the loops over a reorder list do to a session: each of them takes some first
part of the list, indicates it in order and gives the blocks back. -/

namespace Mt7612u.BlockAck
open Receive

def indications (mpdus : List ReorderingMpdu) : List Outcome :=
  mpdus.map fun mpdu => .indicate mpdu.pPacket mpdu.sequence

theorem indications_clean (mpdus : List ReorderingMpdu) :
    Outcome.assertFailed ∉ indications mpdus := by
  simp [indications]

namespace Session

/-- The first `count` buffered frames indicated. -/
def drain (s : Session) (count : Nat) : Session :=
  { s with
    entry := { s.entry with list := ⟨s.entry.list.next.drop count, s.entry.list.qlen - count⟩ }
    freelist := ⟨(s.entry.list.next.take count).reverse ++ s.freelist.next,
      s.freelist.qlen + count⟩
    log := s.log ++ indications (s.entry.list.next.take count) }

/-- Every buffered frame indicated, `LastIndSeq` after it, and then no window at all. -/
def refreshed (s : Session) : Session :=
  { s with
    entry := { s.entry with list := .empty, lastIndSeq := resetRcvSeq }
    freelist := ⟨s.entry.list.next.reverse ++ s.freelist.next,
      s.freelist.qlen + s.entry.list.next.length⟩
    log := s.log ++ s.entry.list.next.flatMap (fun mpdu =>
      [.indicate mpdu.pPacket mpdu.sequence, .lastIndSeq mpdu.sequence]) ++
        [.lastIndSeq resetRcvSeq] }

def append (s : Session) (outcomes : List Outcome) : Session :=
  { s with log := s.log ++ outcomes }

@[simp] theorem drain_zero (s : Session) : s.drain 0 = s := by
  simp [drain, indications]

@[simp] theorem drain_idx (s : Session) (count : Nat) : (s.drain count).idx = s.idx := rfl

@[simp] theorem drain_lastIndSeq (s : Session) (count : Nat) :
    (s.drain count).entry.lastIndSeq = s.entry.lastIndSeq := rfl

@[simp] theorem drain_baWinSize (s : Session) (count : Nat) :
    (s.drain count).entry.baWinSize = s.entry.baWinSize := rfl

@[simp] theorem drain_next (s : Session) (count : Nat) :
    (s.drain count).entry.list.next = s.entry.list.next.drop count := rfl

theorem drain_counted {s : Session} (counted : s.entry.list.Counted) (count : Nat) :
    (s.drain count).entry.list.Counted := by
  simp only [ReorderingList.Counted, drain, List.length_drop] at counted ⊢
  omega

theorem drain_succ (s : Session) (mpdu : ReorderingMpdu) (rest : List ReorderingMpdu)
    (chain : s.entry.list.next = mpdu :: rest) (count : Nat) :
    s.drain (count + 1) =
      (baMpduBlkFree (announceReorderingPacket (s.setList ⟨rest, s.entry.list.qlen - 1⟩) mpdu)
        mpdu).drain count := by
  simp [drain, baMpduBlkFree, announceReorderingPacket, setList, record, baEnqueue, chain,
    indications, Nat.sub_sub, Nat.add_comm, Nat.add_left_comm]

end Session

/-- How many buffered frames `ba_indicate_reordering_mpdus_le_seq` takes. -/
def leSeqCount (sequence : Nat) : List ReorderingMpdu → Nat
  | [] => 0
  | mpdu :: rest =>
      if mpdu.sequence = sequence ∨ seqSmaller mpdu.sequence sequence maxSeq = true then
        leSeqCount sequence rest + 1
      else 0

/-- How many buffered frames `ba_indicate_reordering_mpdus_in_order` takes. -/
def inOrderCount (startSeq : Nat) : List ReorderingMpdu → Nat
  | [] => 0
  | mpdu :: rest =>
      if seqStepOne mpdu.sequence startSeq maxSeq then inOrderCount mpdu.sequence rest + 1 else 0

theorem leSeqLoop_eq (fuel : Nat) (s : Session) (sequence : Nat) (counted : s.entry.list.Counted)
    (enough : s.entry.list.next.length ≤ fuel) :
    leSeqLoop fuel s sequence = s.drain (leSeqCount sequence s.entry.list.next) := by
  induction fuel generalizing s with
  | zero =>
    have empty : s.entry.list.next = [] := List.eq_nil_of_length_eq_zero (by omega)
    simp [leSeqLoop, empty, leSeqCount]
  | succ fuel ih =>
    cases chain : s.entry.list.next with
    | nil => simp [leSeqLoop, baReorderingMpduProbe, chain, leSeqCount]
    | cons mpdu rest =>
      by_cases passed : mpdu.sequence = sequence ∨ seqSmaller mpdu.sequence sequence maxSeq = true
      · simp only [leSeqLoop, baReorderingMpduProbe, chain, List.head?_cons, if_pos passed,
          baReorderingMpduDequeue, baDequeue_cons _ counted mpdu rest chain, leSeqCount]
        rw [Session.drain_succ s mpdu rest chain]
        apply ih
        · exact counted.tail chain
        · simpa [chain, baMpduBlkFree, announceReorderingPacket, Session.setList, Session.record]
            using enough
      · simp [leSeqLoop, baReorderingMpduProbe, chain, passed, leSeqCount]

theorem baIndicateReorderingMpdusLeSeq_eq (s : Session) (sequence : Nat)
    (counted : s.entry.list.Counted) :
    baIndicateReorderingMpdusLeSeq s sequence =
      s.drain (leSeqCount sequence s.entry.list.next) :=
  leSeqLoop_eq _ s sequence counted le_rfl

theorem inOrderLoop_eq (fuel : Nat) (s : Session) (startSeq lastIndSeq : Nat)
    (counted : s.entry.list.Counted) (enough : s.entry.list.next.length ≤ fuel) :
    inOrderLoop fuel s startSeq lastIndSeq =
      (s.drain (inOrderCount startSeq s.entry.list.next),
        if inOrderCount startSeq s.entry.list.next = 0 then lastIndSeq
        else (startSeq + inOrderCount startSeq s.entry.list.next) % 4096) := by
  induction fuel generalizing s startSeq lastIndSeq with
  | zero =>
    have empty : s.entry.list.next = [] := List.eq_nil_of_length_eq_zero (by omega)
    simp [inOrderLoop, empty, inOrderCount]
  | succ fuel ih =>
    cases chain : s.entry.list.next with
    | nil => simp [inOrderLoop, baReorderingMpduProbe, chain, inOrderCount]
    | cons mpdu rest =>
      by_cases next : seqStepOne mpdu.sequence startSeq maxSeq = true
      · simp only [inOrderLoop, baReorderingMpduProbe, chain, List.head?_cons, if_pos next,
          baReorderingMpduDequeue, baDequeue_cons _ counted mpdu rest chain, inOrderCount]
        rw [Session.drain_succ s mpdu rest chain, ih]
        · have following := (seqStepOne_iff mpdu.sequence startSeq).1 next
          refine Prod.ext rfl ?_
          change (if inOrderCount mpdu.sequence rest = 0 then mpdu.sequence
            else (mpdu.sequence + inOrderCount mpdu.sequence rest) % 4096) = _
          rw [if_neg (Nat.add_one_ne_zero _)]
          split_ifs with last <;> omega
        · exact counted.tail chain
        · simpa [chain, baMpduBlkFree, announceReorderingPacket, Session.setList, Session.record]
            using enough
      · simp [inOrderLoop, baReorderingMpduProbe, chain, next, inOrderCount]

theorem indicateInOrder_eq (s : Session) (counted : s.entry.list.Counted) :
    indicateInOrder s =
      if inOrderCount s.entry.lastIndSeq s.entry.list.next = 0 then s
      else (s.drain (inOrderCount s.entry.lastIndSeq s.entry.list.next)).setLastIndSeq
        ((s.entry.lastIndSeq + inOrderCount s.entry.lastIndSeq s.entry.list.next) % 4096) := by
  unfold indicateInOrder baIndicateReorderingMpdusInOrder
  rw [inOrderLoop_eq _ s _ _ counted le_rfl]
  by_cases none : inOrderCount s.entry.lastIndSeq s.entry.list.next = 0
  · simp [none]
  · have number : (s.entry.lastIndSeq + inOrderCount s.entry.lastIndSeq s.entry.list.next) % 4096 ≠
        resetRcvSeq := by
      unfold resetRcvSeq
      omega
    simp [none, number]

theorem refreshLoop_eq (fuel : Nat) (s : Session) (counted : s.entry.list.Counted)
    (enough : s.entry.list.next.length ≤ fuel) :
    (refreshLoop fuel s).setLastIndSeq resetRcvSeq = s.refreshed ∧
      (refreshLoop fuel s).entry.list.qlen = 0 := by
  induction fuel generalizing s with
  | zero =>
    have empty : s.entry.list.next = [] := List.eq_nil_of_length_eq_zero (by omega)
    have zero : s.entry.list.qlen = 0 := by rw [counted, empty]; rfl
    obtain ⟨idx, ⟨wcid, tid, win, last, timeOut, timer, drop, rcv, status, ⟨next, qlen⟩⟩, free, log⟩ := s
    simp only at empty zero
    simp [refreshLoop, Session.setLastIndSeq, Session.refreshed, empty, zero, ReorderingList.empty]
  | succ fuel ih =>
    cases chain : s.entry.list.next with
    | nil =>
      have zero : s.entry.list.qlen = 0 := by rw [counted, chain]; rfl
      obtain ⟨idx, ⟨wcid, tid, win, last, timeOut, timer, drop, rcv, status, ⟨next, qlen⟩⟩, free, log⟩ := s
      simp only at chain zero
      simp [refreshLoop, baReorderingMpduDequeue, baDequeue, chain, zero, Session.setLastIndSeq,
        Session.refreshed, ReorderingList.empty]
    | cons mpdu rest =>
      simp only [refreshLoop, baReorderingMpduDequeue, baDequeue_cons _ counted mpdu rest chain]
      have step := ih (baMpduBlkFree ((announceReorderingPacket
          (s.setList ⟨rest, s.entry.list.qlen - 1⟩) mpdu).setLastIndSeq mpdu.sequence) mpdu)
        (counted.tail chain)
        (by simpa [chain, baMpduBlkFree, announceReorderingPacket, Session.setList, Session.record,
          Session.setLastIndSeq] using enough)
      rw [step.1]
      refine ⟨?_, step.2⟩
      simp [Session.refreshed, baMpduBlkFree, announceReorderingPacket, Session.setList,
        Session.record, Session.setLastIndSeq, baEnqueue, chain, Nat.add_comm, Nat.add_left_comm]

theorem baRefreshReorderingMpdus_eq (s : Session) (counted : s.entry.list.Counted) :
    baRefreshReorderingMpdus s = s.refreshed := by
  have loop := refreshLoop_eq _ s counted le_rfl
  simp only [baRefreshReorderingMpdus, loop.2, BEq.rfl, Session.assert, ↓reduceIte, loop.1]

theorem insertMpdu_none (s : Session) (mpduBlk : ReorderingMpdu)
    (present : insertScan mpduBlk s.entry.list.next = none) :
    insertMpdu s mpduBlk = baMpduBlkFree (s.record (.kfree mpduBlk.pPacket)) mpduBlk := by
  simp only [insertMpdu, baReorderingMpduInsertsorted, present]
  rfl

theorem insertMpdu_some (s : Session) (mpduBlk : ReorderingMpdu) (next : List ReorderingMpdu)
    (inserted : insertScan mpduBlk s.entry.list.next = some next) :
    insertMpdu s mpduBlk = s.setList ⟨next, s.entry.list.qlen + 1⟩ := by
  simp only [insertMpdu, baReorderingMpduInsertsorted, inserted]

/-- The pool has a block for the frame, and it is not an EAPOL frame. -/
def Buffers (s : Session) (pRxBlk : RxBlk) : Prop :=
  pRxBlk.fRXEAP = false ∧ (baMpduBlkAlloc s).1.isSome

instance (s : Session) (pRxBlk : RxBlk) : Decidable (Buffers s pRxBlk) :=
  inferInstanceAs (Decidable (_ ∧ _))

theorem baEnqueueReorderingPacket_fallBack (env : Env) (s : Session) (pRxBlk : RxBlk)
    (now32 : BitVec 64) (turned : ¬Buffers s pRxBlk) :
    baEnqueueReorderingPacket env s pRxBlk now32 =
      indicateThrough env (baMpduBlkAlloc s).2 pRxBlk now32 := by
  unfold baEnqueueReorderingPacket
  unfold Buffers at turned
  generalize baMpduBlkAlloc s = allocated at turned
  obtain ⟨block, t⟩ := allocated
  cases block with
  | none => rfl
  | some mpduBlk =>
    have eap : pRxBlk.fRXEAP = true := by simpa using turned
    simp [eap]

theorem baEnqueueReorderingPacket_buffers (env : Env) (s : Session) (pRxBlk : RxBlk)
    (now32 : BitVec 64) (buffers : Buffers s pRxBlk) :
    ∃ mpduBlk, (baMpduBlkAlloc s).1 = some mpduBlk ∧
      baEnqueueReorderingPacket env s pRxBlk now32 =
        (insertMpdu (baMpduBlkAlloc s).2 (pRxBlk.toMpdu mpduBlk)).assert
          (decide ((insertMpdu (baMpduBlkAlloc s).2 (pRxBlk.toMpdu mpduBlk)).entry.list.qlen ≤
            (insertMpdu (baMpduBlkAlloc s).2 (pRxBlk.toMpdu mpduBlk)).entry.baWinSize)) := by
  obtain ⟨eap, allocated⟩ := buffers
  unfold baEnqueueReorderingPacket
  generalize baMpduBlkAlloc s = result at allocated
  obtain ⟨block, t⟩ := result
  obtain ⟨mpduBlk, rfl⟩ := Option.isSome_iff_exists.mp allocated
  refine ⟨mpduBlk, rfl, ?_⟩
  simp [eap]

/-- What becomes of a frame at the hand-off, short of a flush. -/
inductive HandOff (pRxBlk : RxBlk) : List Outcome → Prop
  | indicated : HandOff pRxBlk [.indicate pRxBlk.pRxPacket pRxBlk.sequence.toNat]
  | refused : HandOff pRxBlk [.refused pRxBlk.sequence.toNat, .kfree pRxBlk.pRxPacket]
  | reported : HandOff pRxBlk
      [.reportMlme pRxBlk.pRxPacket pRxBlk.sequence.toNat, .kfree pRxBlk.pRxPacket]

theorem HandOff.clean {pRxBlk : RxBlk} {outcomes : List Outcome} (handed : HandOff pRxBlk outcomes) :
    Outcome.assertFailed ∉ outcomes := by
  cases handed <;> simp

/-- The second clock reading of `Indicate_Legacy_Packet` finds the timeout passed. -/
def LegacyFlushDue (env : Env) (s : Session) (now32 : BitVec 64) : Prop :=
  rtmpTimeAfter now32 (s.entry.lastIndSeqAtTimer + reorderingPacketTimeout env) = true

theorem refusePacket_eq (s : Session) (pRxBlk : RxBlk) :
    refusePacket s pRxBlk =
      s.append [.refused pRxBlk.sequence.toNat, .kfree pRxBlk.pRxPacket] := by
  simp [refusePacket, Session.append, Session.record]

theorem indicateLegacyPacket_cases (env : Env) (s : Session) (pRxBlk : RxBlk) (now32 : BitVec 64) :
    (∃ outcomes, HandOff pRxBlk outcomes ∧
      indicateLegacyPacket env s pRxBlk now32 = s.append outcomes) ∨
    (LegacyFlushDue env s now32 ∧ indicateLegacyPacket env s pRxBlk now32 =
      (baFlushReorderingTimeoutMpdus env s now32).append
        [.indicate pRxBlk.pRxPacket pRxBlk.sequence.toNat]) := by
  unfold indicateLegacyPacket
  by_cases large : pRxBlk.convertedSize > maxRxPktLen
  · rw [if_pos large]
    exact Or.inl ⟨_, .refused, refusePacket_eq s pRxBlk⟩
  · rw [if_neg large]
    dsimp only
    split_ifs with due
    · simp only [Bool.and_eq_true] at due
      exact Or.inr ⟨due.2, rfl⟩
    · exact Or.inl ⟨_, .indicated, rfl⟩

theorem indicateLegacyOrAMSDU_cases (env : Env) (s : Session) (pRxBlk : RxBlk)
    (now32 : BitVec 64) :
    (∃ outcomes, HandOff pRxBlk outcomes ∧
      indicateLegacyOrAMSDU env s pRxBlk now32 = s.append outcomes) ∨
    (LegacyFlushDue env s now32 ∧ indicateLegacyOrAMSDU env s pRxBlk now32 =
      (baFlushReorderingTimeoutMpdus env s now32).append
        [.indicate pRxBlk.pRxPacket pRxBlk.sequence.toNat]) := by
  have refused : ∃ outcomes, HandOff pRxBlk outcomes ∧
      refusePacket s pRxBlk = s.append outcomes :=
    ⟨_, .refused, refusePacket_eq s pRxBlk⟩
  unfold indicateLegacyOrAMSDU indicateEAPOLPacket
  split_ifs with amsdu eap unknown
  · exact Or.inl ⟨_, .indicated, rfl⟩
  · exact Or.inl refused
  · cases env.opMode with
    | ap =>
      simp only [apRxEAPOLFrameIndicate]
      split_ifs
      · exact Or.inl refused
      · exact Or.inl refused
      · exact Or.inl refused
      · exact Or.inl refused
      · exact indicateLegacyPacket_cases env s pRxBlk now32
    | sta =>
      simp only [staRxEAPOLFrameIndicate]
      split_ifs with supplicant
      · exact indicateLegacyPacket_cases env s pRxBlk now32
      · refine Or.inl ⟨_, .reported, ?_⟩
        simp [Session.append, Session.record]
  · exact indicateLegacyPacket_cases env s pRxBlk now32

end Mt7612u.BlockAck
