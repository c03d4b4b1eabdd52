import Mt7612u.BlockAck.Window
import Mt7612u.Library.Run

/-! Whole runs of one recipient session, with frames, BARs and timeouts in any order. -/

namespace Mt7612u.BlockAck
open Receive Library.Resequencer Library.Run

/-- A frame for which `Indicate_AMPDU_Packet` finds a MAC entry. -/
structure SessionFrame extends RxBlk where
  known : wcid.toNat < maxLenOfMacTable

inductive Event where
  /-- `freelist` is the pool as the frame finds it: other sessions take and return blocks. -/
  | frame (freelist : ReorderingList) (pRxBlk : SessionFrame) (now32 legacyNow32 : BitVec 64)
  | bar (startSeq : BitVec 12)
  | timeout (now32 : BitVec 64)
  | idleTimeout (now32 : BitVec 64)
  | refresh

def Session.withPool (s : Session) (freelist : ReorderingList) : Session :=
  { s with freelist := freelist }

def sessionStep (env : Env) (s : Session) : Event → Session
  | .frame freelist pRxBlk now32 legacyNow32 =>
      indicateAMPDUPacket env (s.withPool freelist) pRxBlk.toRxBlk now32 legacyNow32
  | .bar startSeq => barReorderingMpdus s startSeq
  | .timeout now32 => baFlushReorderingTimeoutMpdus env s now32
  | .idleTimeout now32 => baRecSessionIdleTimeout s now32
  | .refresh => baRefreshReorderingMpdus s

/-- A session as `BARecSessionAdd` leaves it. -/
structure Started (s : Session) : Prop where
  idle : Idle s
  log : s.log = []

/-- The first check of `Indicate_AMPDU_Packet` lets the frame through. -/
def RxBlk.Admitted (pRxBlk : RxBlk) : Prop :=
  pRxBlk.fRXAMSDU = true ∨ pRxBlk.dataSize.toNat ≤ maxRxPktLen

instance (pRxBlk : RxBlk) : Decidable pRxBlk.Admitted := inferInstanceAs (Decidable (_ ∨ _))

theorem RxBlk.admitted_iff (pRxBlk : RxBlk) :
    ¬((!pRxBlk.fRXAMSDU) = true ∧ pRxBlk.dataSize.toNat > maxRxPktLen) ↔ pRxBlk.Admitted := by
  unfold Admitted
  cases pRxBlk.fRXAMSDU <;> simp

/-- The frame lies in the window it meets, and is not buffered there. -/
def FallsBackWithin (env : Env) (s : Session) (pRxBlk : RxBlk) (now32 : BitVec 64) : Prop :=
  pRxBlk.Admitted ∧
    arrival (meetFrame env s pRxBlk now32).entry pRxBlk.sequence.toNat = .withinWindow ∧
    ¬Buffers (meetFrame env s pRxBlk now32) pRxBlk

/-- The frame lies beyond the window, and is not buffered in the window moved for it. -/
def FallsBackBeyond (env : Env) (s : Session) (pRxBlk : RxBlk) (now32 : BitVec 64) : Prop :=
  pRxBlk.Admitted ∧
    arrival (meetFrame env s pRxBlk now32).entry pRxBlk.sequence.toNat = .surpasses ∧
    ¬Buffers (shiftWindow (meetFrame env s pRxBlk now32) pRxBlk.sequence.toNat now32) pRxBlk

/-- The event makes `ba_enqueue_reordering_packet` take its other branch. -/
def FallsBack (env : Env) (s : Session) : Event → Prop
  | .frame freelist pRxBlk now32 _ =>
      FallsBackWithin env (s.withPool freelist) pRxBlk.toRxBlk now32 ∨
        FallsBackBeyond env (s.withPool freelist) pRxBlk.toRxBlk now32
  | _ => False

/-- A frame falls back inside the window while its successor is buffered. -/
def Strands (env : Env) (s : Session) : Event → Prop
  | .frame freelist pRxBlk now32 _ =>
      FallsBackWithin env (s.withPool freelist) pRxBlk.toRxBlk now32 ∧
        (pRxBlk.sequence.toNat + 1) &&& maxSeq ∈
          (meetFrame env (s.withPool freelist) pRxBlk.toRxBlk now32).entry.list.next.map (·.sequence)
  | _ => False

/-- No window, or a window whose first number is not buffered. -/
def Ordered (slack : Nat) (s : Session) : Prop :=
  Idle s ∨ ∃ last held, Holds slack s last held

variable {s : Session}

theorem Ordered.congr {slack : Nat} (ordered : Ordered slack s) {t : Session}
    (same : SameWindow t s) : Ordered slack t := by
  rcases ordered with idle | ⟨last, held, holds⟩
  · exact Or.inl (idle.congr same)
  · exact Or.inr ⟨last, held, holds.congr same⟩

theorem Ordered.append {slack : Nat} (ordered : Ordered slack s) (outcomes : List Outcome)
    (clean : Outcome.assertFailed ∉ outcomes) : Ordered slack (s.append outcomes) := by
  rcases ordered with idle | ⟨last, held, holds⟩
  · exact Or.inl (idle.append _ clean)
  · exact Or.inr ⟨last, held, holds.append _ clean⟩

theorem Ordered.sound {slack : Nat} (ordered : Ordered slack s) : Sound s := by
  rcases ordered with idle | ⟨last, held, holds⟩
  · exact idle.sound
  · exact holds.sound

theorem Ordered.counted {slack : Nat} (ordered : Ordered slack s) : s.entry.list.Counted := by
  rcases ordered with idle | ⟨last, held, holds⟩
  · exact idle.counted
  · exact holds.counted

theorem Ordered.settle (ordered : Ordered 1 s) : Ordered 2 (indicateInOrder s) := by
  rcases ordered with idle | ⟨last, held, holds⟩
  · rw [idle.settle]
    exact Or.inl idle
  · exact Or.inr ⟨_, _, holds.settle⟩

theorem Ordered.refreshed {slack : Nat} (ordered : Ordered slack s) :
    Idle (baRefreshReorderingMpdus s) := by
  rw [baRefreshReorderingMpdus_eq s ordered.counted]
  rcases ordered with idle | ⟨last, held, holds⟩
  · exact idle.refreshed
  · exact holds.refreshed

theorem Ordered.flush {slack : Nat} (apart : 1 ≤ slack) (close : slack ≤ 2)
    (ordered : Ordered slack s) (env : Env) (now32 : BitVec 64) :
    Ordered slack (baFlushReorderingTimeoutMpdus env s now32) := by
  rcases ordered with idle | ⟨last, held, holds⟩
  · rw [idle.flush]
    exact Or.inl idle
  · rcases (holds.mono apart).flush_cases env now32 with same | all | ⟨_, one⟩
    · rw [same]
      exact Or.inr ⟨last, held, holds⟩
    · rw [all]
      exact Or.inl (holds.refreshed.congr ⟨rfl, rfl, rfl, rfl, rfl⟩)
    · rw [one]
      exact Or.inr ⟨_, _, (holds.forceOne now32).settle.mono close⟩

theorem Ordered.handOff {slack : Nat} (apart : 1 ≤ slack) (close : slack ≤ 2)
    (ordered : Ordered slack s) (env : Env) (pRxBlk : RxBlk) (now32 : BitVec 64) :
    Ordered slack (indicateLegacyOrAMSDU env s pRxBlk now32) := by
  rcases indicateLegacyOrAMSDU_cases env s pRxBlk now32 with ⟨outcomes, handed, same⟩ | ⟨_, flushed⟩
  · rw [same]
    exact ordered.append _ handed.clean
  · rw [flushed]
    exact (ordered.flush apart close env now32).append _ (by simp)

theorem Ordered.meet (ordered : Ordered 2 s) (env : Env) (pRxBlk : RxBlk) (now32 : BitVec 64) :
    Ordered 2 (meetFrame env s pRxBlk now32) := by
  have updated : Ordered 2 { s with entry := { s.entry with rcvSeq := pRxBlk.sequence.toNat } } :=
    ordered.congr ⟨rfl, rfl, rfl, rfl, rfl⟩
  exact (updated.flush (by omega) le_rfl env now32).congr ⟨rfl, rfl, rfl, rfl, rfl⟩

theorem Ordered.bar (ordered : Ordered 2 s) (startSeq : BitVec 12) :
    Ordered 2 (barReorderingMpdus s startSeq) := by
  rcases ordered with idle | ⟨last, held, holds⟩
  · rw [idle.bar_eq]
    split_ifs
    · have recorded := idle.append [.bar startSeq.toNat] (by simp)
      exact Or.inr ⟨startSeq.toNat + 4095, [], recorded.opened _⟩
    · exact Or.inl idle
  · rw [holds.bar_eq (by omega)]
    have low := le_ahead (last + 1) startSeq.toNat
    generalize ahead (last + 1) startSeq.toNat = q at low
    split_ifs with moves
    · have moved := holds.advance q (q - 1) (by omega) (by omega)
      rw [show q + 1 - (q - 1) = 2 by omega] at moved
      have sound := holds.sound.drain (upTo q held)
      have recorded := (sound.append [.bar startSeq.toNat] (by simp)).setLastIndSeq
        ((q - 1) % 4096)
      exact Or.inr ⟨_, _, recorded, moved.lastIndSeq, moved.sequences, moved.counted, moved.window⟩
    · exact Or.inr ⟨last, held, holds⟩

theorem Idle.arrival_eq (idle : Idle s) (sequence : Nat) : arrival s.entry sequence = .first := by
  simp only [arrival, if_pos idle.lastIndSeq]

/-- What is left after a fall-back still leaves a gap above `LastIndSeq`, unless the
frame's successor was buffered. -/
theorem Holds.through_apart {last q : Nat} {held : List Nat} (holds : Holds 2 s last held)
    (above : last ≤ q) (absent : (q + 1) % 4096 ∉ s.entry.list.next.map (·.sequence)) :
    Holds 2 ((s.drain (upTo q held)).setLastIndSeq (q % 4096)) q (held.drop (upTo q held)) := by
  have through := holds.through q above
  refine ⟨through.sound, through.lastIndSeq, through.sequences, through.counted,
    through.window.ascending, ?_, through.window.le_high⟩
  intro x member
  have low := through.window.low_le x member
  have other : x ≠ q + 1 := by
    intro same
    rw [holds.sequences] at absent
    exact absent (List.mem_map.mpr ⟨x, List.mem_of_mem_drop member, by rw [same]⟩)
  omega

theorem Idle.started (idle : Idle s) (sequence : Nat) (number : sequence < 4096) :
    Holds 2 ((s.assert (s.entry.list.qlen == 0 && s.entry.list.next.isEmpty)).setLastIndSeq sequence)
      sequence [] := by
  have zero : s.entry.list.qlen = 0 := by rw [idle.counted, idle.empty]; rfl
  have opened := idle.opened sequence
  rw [Nat.mod_eq_of_lt number] at opened
  simp only [Session.assert, zero, idle.empty, BEq.rfl, List.isEmpty_nil, Bool.and_self, ↓reduceIte]
  exact opened

/-- The window once the in-order frame has moved it, before what follows is indicated. -/
theorem Holds.step {last : Nat} {held : List Nat} (holds : Holds 2 s last held) (sequence : Nat)
    (number : sequence < 4096) (next : ahead last sequence = last + 1) :
    Holds 1 (s.setLastIndSeq sequence) (last + 1) held := by
  have residue := ahead_mod last sequence number
  rw [next] at residue
  refine ⟨holds.sound.setLastIndSeq _, residue.symm, holds.sequences, holds.counted,
    holds.window.mono (by omega) ?_⟩
  simp only [Session.setLastIndSeq]
  omega

/-- A frame within the window, whichever branch `ba_enqueue_reordering_packet` takes. -/
theorem Holds.within {last : Nat} {held : List Nat} (holds : Holds 2 s last held) (env : Env)
    (pRxBlk : RxBlk) (now32 : BitVec 64) (low : last + 2 ≤ ahead last pRxBlk.sequence.toNat)
    (high : ahead last pRxBlk.sequence.toNat ≤ last + s.entry.baWinSize)
    (kept : Buffers s pRxBlk ∨ (pRxBlk.sequence.toNat + 1) &&& maxSeq ∉
      s.entry.list.next.map (·.sequence)) :
    Ordered 2 (baEnqueueReorderingPacket env s pRxBlk now32) := by
  have residue := ahead_mod last pRxBlk.sequence.toNat pRxBlk.sequence.isLt
  have size := holds.sound.small
  generalize ahead last pRxBlk.sequence.toNat = q at residue low high
  by_cases buffers : Buffers s pRxBlk
  · exact Or.inr ⟨_, _, (holds.store (by omega) env pRxBlk now32 buffers residue.symm low high).1⟩
  · have absent := kept.resolve_left buffers
    rw [mask_maxSeq, ← residue, Nat.mod_add_mod] at absent
    have allocated : Holds 2 (baMpduBlkAlloc s).2 last held := holds.congr ⟨rfl, rfl, rfl, rfl, rfl⟩
    rw [baEnqueueReorderingPacket_fallBack env s pRxBlk now32 buffers,
      allocated.indicateThrough_eq (by omega) env pRxBlk now32 residue.symm (by omega) (by omega)]
    have left : Ordered 2 _ := Or.inr ⟨_, _, allocated.through_apart (q := q) (by omega) absent⟩
    exact left.handOff (by omega) le_rfl env pRxBlk now32

/-- A frame that takes the last place of a window moved for it. -/
theorem Holds.atEnd {last : Nat} {held : List Nat} (holds : Holds 1 s last held) (env : Env)
    (pRxBlk : RxBlk) (now32 : BitVec 64)
    (same : pRxBlk.sequence.toNat = (last + s.entry.baWinSize) % 4096) :
    Ordered 1 (baEnqueueReorderingPacket env s pRxBlk now32) := by
  have size := holds.sound
  have positive := size.positive
  have small := size.small
  by_cases buffers : Buffers s pRxBlk
  · exact Or.inr ⟨_, _, (holds.store le_rfl env pRxBlk now32 buffers same (by omega) le_rfl).1⟩
  · have allocated : Holds 1 (baMpduBlkAlloc s).2 last held := holds.congr ⟨rfl, rfl, rfl, rfl, rfl⟩
    rw [baEnqueueReorderingPacket_fallBack env s pRxBlk now32 buffers,
      allocated.indicateThrough_eq le_rfl env pRxBlk now32 same (by omega) (by omega)]
    have left : Ordered 1 _ :=
      Or.inr ⟨_, _, allocated.through (last + s.entry.baWinSize) (by omega)⟩
    exact left.handOff le_rfl (by omega) env pRxBlk now32

theorem Ordered.reorder (ordered : Ordered 2 s) (env : Env) (pRxBlk : RxBlk)
    (now32 legacyNow32 : BitVec 64)
    (kept : arrival (meetFrame env s pRxBlk now32).entry pRxBlk.sequence.toNat = .withinWindow →
      Buffers (meetFrame env s pRxBlk now32) pRxBlk ∨
        (pRxBlk.sequence.toNat + 1) &&& maxSeq ∉
          (meetFrame env s pRxBlk now32).entry.list.next.map (·.sequence)) :
    Ordered 2 (reorderAMPDUPacket env s pRxBlk now32 legacyNow32) := by
  have met := ordered.meet env pRxBlk now32
  have number : pRxBlk.sequence.toNat < 4096 := pRxBlk.sequence.isLt
  simp only [reorderAMPDUPacket]
  generalize meetFrame env s pRxBlk now32 = t at met kept
  rcases met with idle | ⟨last, held, holds⟩
  · simp only [idle.arrival_eq]
    have started : Ordered 2 _ := Or.inr ⟨_, _, idle.started _ number⟩
    refine Ordered.handOff (by omega) le_rfl ?_ env pRxBlk legacyNow32
    exact started.congr ⟨rfl, rfl, rfl, rfl, rfl⟩
  · have placed := holds.placed pRxBlk.sequence.toNat number
    cases place : arrival t.entry pRxBlk.sequence.toNat with
    | first =>
      rw [place] at placed
      exact placed.elim
    | inOrder =>
      rw [place] at placed
      have moved : Ordered 1 _ := Or.inr ⟨_, _, holds.step _ number placed⟩
      have handed := moved.handOff le_rfl (by omega) env pRxBlk legacyNow32
      exact handed.settle.congr ⟨rfl, rfl, rfl, rfl, rfl⟩
    | duplicated =>
      exact Or.inr ⟨last, held, (holds.append [.kfree _] (by simp)).congr
        ⟨rfl, rfl, rfl, rfl, rfl⟩⟩
    | old =>
      exact Or.inr ⟨last, held, (holds.append [.kfree _] (by simp)).congr
        ⟨rfl, rfl, rfl, rfl, rfl⟩⟩
    | withinWindow =>
      rw [place] at placed
      exact holds.within env pRxBlk legacyNow32 placed.1 placed.2 (kept place)
    | surpasses =>
      rw [place] at placed
      have residue := ahead_mod last pRxBlk.sequence.toNat number
      have shifted := holds.shift (by omega) _ number placed.1 placed.2 now32
      refine (shifted.atEnd env pRxBlk legacyNow32 ?_).settle
      have sizeSame : (shiftWindow t pRxBlk.sequence.toNat now32).entry.baWinSize =
          t.entry.baWinSize := by
        rw [holds.shiftWindow_eq (by omega) _ number placed.1 placed.2]
        rfl
      rw [sizeSame, Nat.sub_add_cancel (by omega), residue]

/-- An event that strands no frame keeps the gap above `LastIndSeq`. -/
theorem Ordered.step (ordered : Ordered 2 s) (env : Env) (event : Event)
    (kept : ¬Strands env s event) : Ordered 2 (sessionStep env s event) := by
  cases event with
  | bar startSeq => exact ordered.bar startSeq
  | timeout now32 => exact ordered.flush (by omega) le_rfl env now32
  | refresh => exact Or.inl ordered.refreshed
  | idleTimeout now32 =>
    simp only [sessionStep, baRecSessionIdleTimeout]
    split_ifs
    · exact Or.inl ordered.refreshed
    · exact ordered
  | frame freelist pRxBlk now32 legacyNow32 =>
    have pooled : Ordered 2 (s.withPool freelist) := ordered.congr ⟨rfl, rfl, rfl, rfl, rfl⟩
    have known : (s.withPool freelist).idx ≠ 0 := pooled.sound.known
    simp only [sessionStep, indicateAMPDUPacket, if_pos pRxBlk.known, if_neg known]
    split_ifs with large
    · exact pooled.append [.kfree _] (by simp)
    · refine pooled.reorder env pRxBlk.toRxBlk now32 legacyNow32 fun within => ?_
      by_contra stranded
      simp only [not_or, not_not] at stranded
      exact kept ⟨⟨pRxBlk.admitted_iff.1 large, within, stranded.1⟩, stranded.2⟩

end Mt7612u.BlockAck
