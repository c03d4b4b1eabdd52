import Mt7612u.BlockAck.Sequence

/-! The linked list of `struct reordering_mpdu` blocks. The chain of `next` pointers is
a list; `qlen` stays the separate counter the driver keeps beside it. -/

namespace Mt7612u.BlockAck

/-- A `struct sk_buff *`. -/
abbrev Packet := Nat

inductive OpMode where
  | sta
  | ap
  deriving DecidableEq, Repr

/-- `addr` names the block among those cut from the pool's memory. -/
structure ReorderingMpdu where
  addr : Nat
  pPacket : Packet
  sequence : Nat
  bAMSDU : Bool
  opMode : OpMode
  deriving DecidableEq, Repr

structure ReorderingList where
  next : List ReorderingMpdu
  qlen : Nat
  deriving DecidableEq, Repr

def ReorderingList.empty : ReorderingList := ⟨[], 0⟩

/-- The counter agrees with the chain. -/
def ReorderingList.Counted (list : ReorderingList) : Prop := list.qlen = list.next.length

/-- The scan of `ba_reordering_mpdu_insertsorted`; `none` when the number is there already. -/
def insertScan (mpdu : ReorderingMpdu) : List ReorderingMpdu → Option (List ReorderingMpdu)
  | [] => some [mpdu]
  | scan :: rest =>
      if seqSmaller scan.sequence mpdu.sequence maxSeq then
        (insertScan mpdu rest).map (scan :: ·)
      else if scan.sequence = mpdu.sequence then none
      else some (mpdu :: scan :: rest)

def baReorderingMpduInsertsorted (list : ReorderingList) (mpdu : ReorderingMpdu) :
    Bool × ReorderingList :=
  match insertScan mpdu list.next with
  | none => (false, list)
  | some next => (true, ⟨next, list.qlen + 1⟩)

def baEnqueue (list : ReorderingList) (mpduBlk : ReorderingMpdu) : ReorderingList :=
  ⟨mpduBlk :: list.next, list.qlen + 1⟩

/-- The counter, not the chain, decides whether there is a block to take. -/
def baDequeue (list : ReorderingList) : Option ReorderingMpdu × ReorderingList :=
  if list.qlen ≠ 0 then
    match list.next with
    | [] => (none, ⟨[], list.qlen - 1⟩)
    | mpduBlk :: rest => (some mpduBlk, ⟨rest, list.qlen - 1⟩)
  else (none, list)

def baReorderingMpduDequeue (list : ReorderingList) : Option ReorderingMpdu × ReorderingList :=
  baDequeue list

def baReorderingMpduProbe (list : ReorderingList) : Option ReorderingMpdu := list.next.head?

theorem ReorderingList.counted_empty : ReorderingList.empty.Counted := rfl

theorem ReorderingList.Counted.tail {list : ReorderingList} (counted : list.Counted)
    {mpduBlk : ReorderingMpdu} {rest : List ReorderingMpdu} (chain : list.next = mpduBlk :: rest) :
    (⟨rest, list.qlen - 1⟩ : ReorderingList).Counted := by
  simp only [Counted] at counted ⊢
  rw [counted, chain, List.length_cons, Nat.add_sub_cancel]

theorem baDequeue_cons (list : ReorderingList) (counted : list.Counted)
    (mpduBlk : ReorderingMpdu) (rest : List ReorderingMpdu) (chain : list.next = mpduBlk :: rest) :
    baDequeue list = (some mpduBlk, ⟨rest, list.qlen - 1⟩) := by
  have positive : list.qlen ≠ 0 := by rw [counted, chain]; simp
  simp only [baDequeue, if_pos positive, chain]

theorem baDequeue_nil (list : ReorderingList) (counted : list.Counted) (chain : list.next = []) :
    baDequeue list = (none, list) := by
  have zero : list.qlen = 0 := by rw [counted, chain]; rfl
  simp only [baDequeue, zero, ne_eq, not_true_eq_false, ↓reduceIte]

theorem baDequeue_counted (list : ReorderingList) (counted : list.Counted) :
    (baDequeue list).2.Counted := by
  cases chain : list.next with
  | nil => rw [baDequeue_nil list counted chain]; exact counted
  | cons mpduBlk rest =>
    rw [baDequeue_cons list counted mpduBlk rest chain]
    exact counted.tail chain

theorem baEnqueue_counted (list : ReorderingList) (counted : list.Counted)
    (mpduBlk : ReorderingMpdu) : (baEnqueue list mpduBlk).Counted := by
  simp only [ReorderingList.Counted, baEnqueue, List.length_cons] at counted ⊢
  omega

theorem insertScan_length (mpdu : ReorderingMpdu) (list next : List ReorderingMpdu)
    (inserted : insertScan mpdu list = some next) : next.length = list.length + 1 := by
  induction list generalizing next with
  | nil =>
    simp only [insertScan, Option.some.injEq] at inserted
    simp [← inserted]
  | cons scan rest ih =>
    simp only [insertScan] at inserted
    split_ifs at inserted with before same
    · obtain ⟨tail, found, rfl⟩ := Option.map_eq_some_iff.mp inserted
      simp [ih tail found]
    · simp only [Option.some.injEq] at inserted
      simp [← inserted]

/-- Insertion keeps every block that was there and adds the new one. -/
theorem insertScan_perm (mpdu : ReorderingMpdu) (list next : List ReorderingMpdu)
    (inserted : insertScan mpdu list = some next) : next.Perm (mpdu :: list) := by
  induction list generalizing next with
  | nil =>
    simp only [insertScan, Option.some.injEq] at inserted
    simp [← inserted]
  | cons scan rest ih =>
    simp only [insertScan] at inserted
    split_ifs at inserted with before same
    · obtain ⟨tail, found, rfl⟩ := Option.map_eq_some_iff.mp inserted
      exact ((ih tail found).cons scan).trans (List.Perm.swap mpdu scan rest)
    · simp only [Option.some.injEq] at inserted
      simp [← inserted]

theorem baReorderingMpduInsertsorted_counted (list : ReorderingList) (counted : list.Counted)
    (mpdu : ReorderingMpdu) : (baReorderingMpduInsertsorted list mpdu).2.Counted := by
  unfold baReorderingMpduInsertsorted
  cases found : insertScan mpdu list.next with
  | none => exact counted
  | some next =>
    have longer := insertScan_length mpdu list.next next found
    simp only [ReorderingList.Counted] at counted ⊢
    omega

end Mt7612u.BlockAck
