import Mt7612u.BlockAck.SessionRun

/-! What every run keeps of the reorder list, in the driver's own numbers. -/

namespace Mt7612u.BlockAck
open Receive Library.Resequencer Library.Run

instance (env : Env) (s : Session) (pRxBlk : RxBlk) (now32 : BitVec 64) :
    Decidable (FallsBackWithin env s pRxBlk now32) :=
  inferInstanceAs (Decidable (_ ∧ _ ∧ _))

instance (env : Env) (s : Session) (event : Event) : Decidable (FallsBack env s event) :=
  match event with
  | .frame .. => inferInstanceAs (Decidable ((_ ∧ _ ∧ _) ∨ (_ ∧ _ ∧ _)))
  | .bar _ => inferInstanceAs (Decidable False)
  | .timeout _ => inferInstanceAs (Decidable False)
  | .idleTimeout _ => inferInstanceAs (Decidable False)
  | .refresh => inferInstanceAs (Decidable False)

instance (env : Env) (s : Session) (event : Event) : Decidable (Strands env s event) :=
  match event with
  | .frame .. => inferInstanceAs (Decidable ((_ ∧ _ ∧ _) ∧ _))
  | .bar _ => inferInstanceAs (Decidable False)
  | .timeout _ => inferInstanceAs (Decidable False)
  | .idleTimeout _ => inferInstanceAs (Decidable False)
  | .refresh => inferInstanceAs (Decidable False)

def ReorderingList.sequences (list : ReorderingList) : List Nat := list.next.map (·.sequence)

/-- The reorder list as `Indicate_AMPDU_Packet` relies on it. -/
structure WindowInvariant (s : Session) : Prop where
  ascending : s.entry.list.sequences.Pairwise fun seq1 seq2 => seqSmaller seq1 seq2 maxSeq = true
  distinct : s.entry.list.sequences.Nodup
  counted : s.entry.list.qlen = s.entry.list.next.length
  fits : s.entry.list.qlen ≤ s.entry.baWinSize
  within : s.entry.lastIndSeq ≠ resetRcvSeq → ∀ sequence ∈ s.entry.list.sequences,
    sequence ≤ maxSeq ∧ 2 ≤ ((sequence : Int) - s.entry.lastIndSeq) % 4096 ∧
      ((sequence : Int) - s.entry.lastIndSeq) % 4096 ≤ s.entry.baWinSize
  reset : s.entry.lastIndSeq = resetRcvSeq → s.entry.list.next = []
  unfailed : Outcome.assertFailed ∉ s.log

/-- No buffered frame is at or behind the next number in order. -/
def NothingDeliverable (s : Session) : Prop :=
  ∀ sequence ∈ s.entry.list.sequences,
    sequence ≠ (s.entry.lastIndSeq + 1) &&& maxSeq ∧
      seqSmaller sequence ((s.entry.lastIndSeq + 1) &&& maxSeq) maxSeq = false

instance (s : Session) : Decidable (NothingDeliverable s) :=
  inferInstanceAs (Decidable (∀ _ ∈ _, _))

variable {s : Session}

theorem Holds.windowInvariant {last : Nat} {held : List Nat} (holds : Holds 2 s last held) :
    WindowInvariant s where
  ascending := by
    have size := holds.sound.small
    rw [ReorderingList.sequences, holds.sequences, List.pairwise_map]
    refine holds.window.ascending.imp_of_mem ?_
    intro a b memberA memberB less
    have low := holds.window.low_le a memberA
    have high := holds.window.le_high b memberB
    exact (seqSmaller_mod a b (by omega) (by omega)).2 less
  distinct := by
    have size := holds.sound.small
    rw [ReorderingList.sequences, holds.sequences]
    refine List.pairwise_map.mpr (holds.window.ascending.imp_of_mem ?_)
    intro a b memberA memberB less
    have low := holds.window.low_le a memberA
    have high := holds.window.le_high b memberB
    omega
  counted := holds.counted
  fits := by
    rw [holds.counted, holds.next_length]
    rcases holds.window.length_le with short | empty
    · omega
    · simp only [empty, List.length_nil, Nat.zero_le]
  within := by
    intro _ sequence member
    have size := holds.sound.small
    rw [ReorderingList.sequences, holds.sequences] at member
    obtain ⟨q, inside, rfl⟩ := List.mem_map.mp member
    have low := holds.window.low_le q inside
    have high := holds.window.le_high q inside
    rw [holds.lastIndSeq, maxSeq]
    omega
  reset := fun lost => absurd lost holds.not_reset
  unfailed := holds.sound.unfailed

theorem Idle.windowInvariant (idle : Idle s) : WindowInvariant s where
  ascending := by simp [ReorderingList.sequences, idle.empty]
  distinct := by simp [ReorderingList.sequences, idle.empty]
  counted := idle.counted
  fits := by
    rw [idle.counted, idle.empty]
    exact Nat.zero_le _
  within := fun started => absurd idle.lastIndSeq started
  reset := fun _ => idle.empty
  unfailed := idle.sound.unfailed

theorem Ordered.windowInvariant (ordered : Ordered 2 s) : WindowInvariant s := by
  rcases ordered with idle | ⟨last, held, holds⟩
  · exact idle.windowInvariant
  · exact holds.windowInvariant

theorem Ordered.nothingDeliverable (ordered : Ordered 2 s) : NothingDeliverable s := by
  rcases ordered with idle | ⟨last, held, holds⟩
  · simp [NothingDeliverable, ReorderingList.sequences, idle.empty]
  · intro sequence member
    have size := holds.sound.small
    rw [ReorderingList.sequences, holds.sequences] at member
    obtain ⟨q, inside, rfl⟩ := List.mem_map.mp member
    have low := holds.window.low_le q inside
    have high := holds.window.le_high q inside
    rw [holds.lastIndSeq, mask_maxSeq, seqSmaller_eq_false]
    omega

theorem Started.ordered (started : Started s) : Ordered 2 s := Or.inl started.idle

theorem run_ordered (env : Env) (started : Started s) (events : List Event)
    (kept : Throughout (sessionStep env) (fun s event => ¬Strands env s event) s events) :
    Ordered 2 (run (sessionStep env) s events) :=
  run_invariant (Ordered 2) (fun _ event ordered fits => ordered.step env event fits)
    started.ordered events kept

theorem Strands.fallsBack {env : Env} {event : Event} (strands : Strands env s event) :
    FallsBack env s event := by
  cases event with
  | frame freelist pRxBlk now32 legacyNow32 => exact Or.inl strands.1
  | bar startSeq => exact strands
  | timeout now32 => exact strands
  | idleTimeout now32 => exact strands
  | refresh => exact strands

/-- Without the fall-back the list stays sorted, counted and inside the window, and no
assertion of the reorder path fails. -/
theorem run_windowInvariant (env : Env) (s : Session) (started : Started s) (events : List Event)
    (buffered : Throughout (sessionStep env) (fun s event => ¬FallsBack env s event) s events) :
    WindowInvariant (run (sessionStep env) s events) :=
  (run_ordered env started events
    (buffered.mono fun _ _ keeps strands => keeps strands.fallsBack)).windowInvariant

/-- A session with its number, as `BARecSessionAdd` leaves it. -/
def freshSession (baWinSize : Nat) : Session where
  idx := 1
  entry :=
    { wcid := ⟨1, one_lt_maxLenOfMacTable⟩, tid := ⟨0, numOfTid_pos⟩, baWinSize := baWinSize,
      lastIndSeq := resetRcvSeq, timeOutValue := 0, lastIndSeqAtTimer := 0, nDropPacket := 0,
      rcvSeq := 0, recBAStatus := .accept, list := .empty }
  freelist := .empty
  log := []

theorem freshSession_started (baWinSize : Nat) (positive : 0 < baWinSize)
    (small : baWinSize ≤ 255) : Started (freshSession baWinSize) :=
  ⟨⟨⟨by simp [freshSession], positive, small, by simp [freshSession]⟩, rfl, rfl, rfl⟩, rfl⟩

/-- A data frame of 64 zero bytes. -/
def plainFrame (pRxPacket : Packet) (sequence : BitVec 12) : SessionFrame where
  pRxPacket := pRxPacket
  sequence := sequence
  pData := fun _ => 0
  dataSize := 64
  fRXAMSDU := false
  fRXEAP := false
  wcid := 1
  tid := ⟨0, numOfTid_pos⟩
  opMode := .sta
  known := by decide

def stationEnv : Env := ⟨250, .sta, false, false⟩

/-- A pool of one free block. -/
def onePool : ReorderingList := ⟨[⟨0, 0, 0, false, .sta⟩], 1⟩

def plainArrival (freelist : ReorderingList) (pRxPacket : Packet) (sequence : BitVec 12) : Event :=
  .frame freelist (plainFrame pRxPacket sequence) 0 0

theorem run_windowInvariant_wrap :
    WindowInvariant (run (sessionStep stationEnv) (freshSession 64)
      [plainArrival onePool 0 4094, plainArrival onePool 1 1, plainArrival onePool 2 0, .bar 0,
        plainArrival onePool 3 100]) :=
  run_windowInvariant stationEnv (freshSession 64) (freshSession_started 64 (by decide) (by decide))
    _ (by decide)

/-- As long as no frame falls back inside the window with its successor buffered, nothing
deliverable is left in the list. -/
theorem run_nothingDeliverable (env : Env) (s : Session) (started : Started s)
    (events : List Event)
    (kept : Throughout (sessionStep env) (fun s event => ¬Strands env s event) s events) :
    NothingDeliverable (run (sessionStep env) s events) :=
  (run_ordered env started events kept).nothingDeliverable

theorem run_nothingDeliverable_fallBack :
    NothingDeliverable (run (sessionStep stationEnv) (freshSession 64)
      [plainArrival onePool 0 10, plainArrival onePool 1 14, plainArrival .empty 2 12]) :=
  run_nothingDeliverable stationEnv (freshSession 64)
    (freshSession_started 64 (by decide) (by decide)) _ (by decide)

/-- With 13 buffered and no free block, 12 falls back and 13 stays behind. -/
theorem fallBack_strands :
    ¬∀ (env : Env) (s : Session) (events : List Event), Started s →
      NothingDeliverable (run (sessionStep env) s events) := by
  intro always
  have stranded : ¬NothingDeliverable (run (sessionStep stationEnv) (freshSession 64)
      [plainArrival onePool 0 10, plainArrival onePool 1 13, plainArrival .empty 2 12]) := by
    decide
  exact stranded (always stationEnv (freshSession 64) _
    (freshSession_started 64 (by decide) (by decide)))

end Mt7612u.BlockAck
