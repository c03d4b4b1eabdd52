import Mt7612u.BlockAck.Pool

/-! A BAR against the recipient entry that `CntlEnqueueForRecv` finds, the reserved entry and the
reset mark among them. -/

namespace Mt7612u.BlockAck
open Receive

/-- The entry that a BAR is applied to; `none` where `CntlEnqueueForRecv` turns it away. -/
def barIdx (pAd : RtmpAdapter) (halted : Bool) (wcid msgLen : Nat) (tid : BitVec 4) :
    Option BaIdx :=
  if halted then none
  else if msgLen ≠ sizeofFrameBaReq then none
  else if station : wcid < maxLenOfMacTable then
    if queue : tid.toNat < numOfTid then
      some ((pAd.content ⟨wcid, station⟩).baRecWcidArray ⟨tid.toNat, queue⟩)
    else none
  else none

theorem cntlEnqueueForRecv_eq (pAd : RtmpAdapter) (halted : Bool) (wcid msgLen : Nat)
    (tid : BitVec 4) (startSeq : BitVec 12) :
    (cntlEnqueueForRecv pAd halted wcid msgLen tid startSeq).2 =
      match barIdx pAd halted wcid msgLen tid with
      | none => pAd
      | some idx => pAd.onSession idx fun s => barReorderingMpdus s startSeq := by
  unfold cntlEnqueueForRecv barIdx
  dsimp only
  by_cases known : wcid < maxLenOfMacTable ∧ tid.toNat < numOfTid
  · rw [dif_pos known, dif_pos known.1, dif_pos known.2]
    split_ifs <;> rfl
  · rw [dif_neg known]
    by_cases station : wcid < maxLenOfMacTable
    · rw [dif_pos station, dif_neg fun queue => known ⟨station, queue⟩]
      split_ifs <;> rfl
    · rw [dif_neg station]
      split_ifs <;> rfl

/-- The operands of the `SEQ_SMALLER` that a BAR comes to. -/
def barCompared (pAd : RtmpAdapter) (halted : Bool) (wcid msgLen : Nat) (tid : BitVec 4)
    (startSeq : BitVec 12) : Option (Nat × Nat) :=
  (barIdx pAd halted wcid msgLen tid).map fun idx =>
    ((pAd.baRecEntry idx).lastIndSeq, startSeq.toNat)

/-- A BAR changes no entry but that of an existing session, and compares sequence numbers only, so
that a session without a window takes every BAR in the same way. -/
structure BarConfined (pAd : RtmpAdapter) (halted : Bool) (wcid msgLen : Nat) (tid : BitVec 4)
    (startSeq : BitVec 12) : Prop where
  entries : ∀ idx, (cntlEnqueueForRecv pAd halted wcid msgLen tid startSeq).2.baRecEntry idx ≠
      pAd.baRecEntry idx → idx ≠ 0 ∧ barIdx pAd halted wcid msgLen tid = some idx
  compared : ∀ operands, barCompared pAd halted wcid msgLen tid startSeq = some operands →
    operands.1 ≤ maxSeq ∧ operands.2 ≤ maxSeq
  reset : ∀ idx, barIdx pAd halted wcid msgLen tid = some idx →
    (pAd.baRecEntry idx).lastIndSeq = resetRcvSeq → ∀ other,
      (cntlEnqueueForRecv pAd halted wcid msgLen tid startSeq).2.baRecEntry =
        (cntlEnqueueForRecv pAd halted wcid msgLen tid other).2.baRecEntry

/-- The head of a list that a BAR takes off it. -/
def barReleases (list : ReorderingList) (startSeq : Nat) : Bool :=
  match list.next.head? with
  | none => false
  | some mpduBlk =>
      decide (list.qlen ≠ 0) &&
        (decide (mpduBlk.sequence = startSeq) || seqSmaller mpduBlk.sequence startSeq maxSeq)

/-- `LastIndSeq` behind a BAR that moved the window. -/
def barLastIndSeq (startSeq : Nat) : Nat := if startSeq = 0 then maxSeq else startSeq - 1

/-- The entry is not the reset mark's, and the reserved one has nothing that the BAR would move. -/
def BarMeetsSession (pAd : RtmpAdapter) (halted : Bool) (wcid msgLen : Nat) (tid : BitVec 4)
    (startSeq : BitVec 12) : Prop :=
  ∀ idx, barIdx pAd halted wcid msgLen tid = some idx →
    (pAd.baRecEntry idx).lastIndSeq ≤ maxSeq ∧
      (idx = 0 → seqSmaller (pAd.baRecEntry idx).lastIndSeq startSeq.toNat maxSeq = false ∨
        barReleases (pAd.baRecEntry idx).list startSeq.toNat = false ∧
          (pAd.baRecEntry idx).lastIndSeq = barLastIndSeq startSeq.toNat)

section Release

theorem baDequeue_length (list : ReorderingList) :
    (baDequeue list).2.next.length ≤ list.next.length := by
  unfold baDequeue
  split
  · split <;> next chain => simp [chain]
  · exact le_rfl

theorem leSeqLoop_length (fuel : Nat) (s : Session) (sequence : Nat) :
    (leSeqLoop fuel s sequence).entry.list.next.length ≤ s.entry.list.next.length := by
  induction fuel generalizing s with
  | zero => exact le_rfl
  | succ fuel ih =>
    unfold leSeqLoop
    split
    · exact le_rfl
    · split
      · have shorter := baDequeue_length s.entry.list
        split
        · exact le_rfl
        · next mpduBlk list taken =>
          rw [baReorderingMpduDequeue] at taken
          rw [taken] at shorter
          exact (ih _).trans shorter
      · exact le_rfl

theorem leSeqLoop_lastIndSeq (fuel : Nat) (s : Session) (sequence : Nat) :
    (leSeqLoop fuel s sequence).entry.lastIndSeq = s.entry.lastIndSeq := by
  induction fuel generalizing s with
  | zero => rfl
  | succ fuel ih =>
    unfold leSeqLoop
    split
    · rfl
    · split
      · split
        · rfl
        · rw [ih]
          rfl
      · rfl

/-- Nothing happens to a list whose head is above the BAR. -/
theorem leSeq_unreleased {s : Session} {sequence : Nat}
    (kept : barReleases s.entry.list sequence = false) :
    baIndicateReorderingMpdusLeSeq s sequence = s := by
  unfold baIndicateReorderingMpdusLeSeq
  cases chain : s.entry.list.next with
  | nil => rfl
  | cons mpduBlk rest =>
    rw [barReleases, chain, List.head?_cons] at kept
    dsimp only at kept
    rw [List.length_cons, leSeqLoop, baReorderingMpduProbe, chain, List.head?_cons]
    dsimp only
    by_cases due : mpduBlk.sequence = sequence ∨ seqSmaller mpduBlk.sequence sequence maxSeq = true
    · have empty : s.entry.list.qlen = 0 := by
        by_contra some
        obtain same | below := due <;> simp_all
      rw [if_pos due, baReorderingMpduDequeue, baDequeue, if_neg (not_not.mpr empty)]
    · rw [if_neg due]

/-- A head that the BAR covers is gone. -/
theorem leSeq_released {s : Session} {sequence : Nat}
    (released : barReleases s.entry.list sequence = true) :
    (baIndicateReorderingMpdusLeSeq s sequence).entry.list.next.length <
      s.entry.list.next.length := by
  unfold baIndicateReorderingMpdusLeSeq
  cases chain : s.entry.list.next with
  | nil => rw [barReleases, chain] at released; exact absurd released Bool.false_ne_true
  | cons mpduBlk rest =>
    rw [barReleases, chain, List.head?_cons] at released
    dsimp only at released
    obtain ⟨queued, due⟩ := Bool.and_eq_true_iff.mp released
    have taken : baReorderingMpduDequeue s.entry.list =
        (some mpduBlk, ⟨rest, s.entry.list.qlen - 1⟩) := by
      rw [baReorderingMpduDequeue, baDequeue, if_pos (by simpa using queued), chain]
    rw [List.length_cons, leSeqLoop, baReorderingMpduProbe, chain, List.head?_cons]
    dsimp only
    rw [if_pos (by simpa using due), taken]
    exact Nat.lt_succ_of_le (leSeqLoop_length _ _ _)

/-- A BAR leaves an entry as it is when it is not above `LastIndSeq`, or has nothing to move. -/
theorem barReorderingMpdus_entry_iff (s : Session) (startSeq : BitVec 12) :
    (barReorderingMpdus s startSeq).entry = s.entry ↔
      seqSmaller s.entry.lastIndSeq startSeq.toNat maxSeq = false ∨
        barReleases s.entry.list startSeq.toNat = false ∧
          s.entry.lastIndSeq = barLastIndSeq startSeq.toNat := by
  unfold barReorderingMpdus
  dsimp only
  cases smaller : seqSmaller s.entry.lastIndSeq startSeq.toNat maxSeq
  · simp
  · simp only [if_true, Bool.true_eq_false, false_or]
    show { (baIndicateReorderingMpdusLeSeq s startSeq.toNat).entry with
      lastIndSeq := barLastIndSeq startSeq.toNat } = s.entry ↔ _
    constructor
    · intro same
      cases released : barReleases s.entry.list startSeq.toNat
      · refine ⟨rfl, ?_⟩
        rw [← same]
      · have shorter := leSeq_released released
        have list := congrArg (fun entry => entry.list.next.length) same
        dsimp only at list
        omega
    · rintro ⟨kept, last⟩
      rw [leSeq_unreleased kept, ← last]

end Release

/-- A BAR is confined exactly when it meets a session with a sequence number in it, or finds
nothing to move in the reserved entry. -/
theorem barConfined_iff (pAd : RtmpAdapter) (halted : Bool) (wcid msgLen : Nat) (tid : BitVec 4)
    (startSeq : BitVec 12) : BarConfined pAd halted wcid msgLen tid startSeq ↔
      BarMeetsSession pAd halted wcid msgLen tid startSeq := by
  have field : startSeq.toNat ≤ maxSeq := Nat.le_pred_of_lt startSeq.isLt
  cases found : barIdx pAd halted wcid msgLen tid with
  | none =>
    apply iff_of_true
    · refine ⟨fun idx changed => absurd ?_ changed, fun operands some => ?_, fun idx same => ?_⟩
      · rw [cntlEnqueueForRecv_eq, found]
      · rw [barCompared, found] at some
        exact nomatch some
      · rw [found] at same
        exact nomatch same
    · intro idx some
      rw [found] at some
      exact nomatch some
  | some idx =>
    have after : (cntlEnqueueForRecv pAd halted wcid msgLen tid startSeq).2 =
        pAd.onSession idx fun s => barReorderingMpdus s startSeq := by
      rw [cntlEnqueueForRecv_eq, found]
    have entry : (cntlEnqueueForRecv pAd halted wcid msgLen tid startSeq).2.baRecEntry idx =
        (barReorderingMpdus (pAd.session idx) startSeq).entry := by
      rw [after]
      exact Function.update_self _ _ _
    have kept := barReorderingMpdus_entry_iff (pAd.session idx) startSeq
    constructor
    · rintro ⟨entries, compared, -⟩ other same
      obtain rfl := Option.some.inj (found.symm.trans same)
      refine ⟨(compared (_, _) (by rw [barCompared, found]; rfl)).1, fun reserved => ?_⟩
      apply kept.mp
      by_contra changed
      rw [← entry] at changed
      exact (entries idx changed).1 reserved
    · intro meets
      obtain ⟨number, reserved⟩ := meets idx found
      refine ⟨fun other changed => ?_, fun operands same => ?_, fun other same mark => ?_⟩
      · have own : other = idx := by
          by_contra apart
          refine changed ?_
          rw [after]
          exact Function.update_of_ne apart _ _
        subst own
        refine ⟨fun zero => changed ?_, found⟩
        rw [entry]
        exact kept.mpr (reserved zero)
      · rw [barCompared, found] at same
        obtain rfl := Option.some.inj same
        exact ⟨number, field⟩
      · obtain rfl := Option.some.inj (found.symm.trans same)
        rw [mark] at number
        exact absurd number (by decide)

/-- Without a session the reserved entry follows the BAR. -/
theorem zeroedAdapter_not_confined : ¬ BarConfined zeroedAdapter false 1 20 0 5 := by
  rintro ⟨entries, -, -⟩
  exact (entries 0 (by decide)).1 rfl

end Mt7612u.BlockAck
