import Mt7612u.BlockAck.DeliveryOrder

/-! Frames leave a session in the order of their numbers, along whole runs. -/

namespace Mt7612u.BlockAck
open Receive Library.Resequencer Library.Run

/-- Each indicated number is larger than the one indicated before it since the last reset. -/
def Ascending : Option Nat → List Outcome → Prop
  | _, [] => True
  | previous, .indicate _ sequence :: rest =>
      (∀ p ∈ previous, seqLarger sequence p maxSeq = true) ∧ Ascending (some sequence) rest
  | previous, .lastIndSeq value :: rest =>
      Ascending (if value = resetRcvSeq then none else previous) rest
  | previous, .reportMlme _ _ :: rest => Ascending previous rest
  | previous, .refused _ :: rest => Ascending previous rest
  | previous, .kfree _ :: rest => Ascending previous rest
  | previous, .bar _ :: rest => Ascending previous rest
  | previous, .assertFailed :: rest => Ascending previous rest

/-- The clock does not reach the timeout between its two readings, a frame that falls back
inside the window finds neither its own number nor the next one buffered, and a BAR does
not name a buffered frame. -/
def Undisturbed (env : Env) (s : Session) : Event → Prop
  | .frame freelist pRxBlk now32 legacyNow32 =>
      rtmpTimeAfter legacyNow32 (now32 + reorderingPacketTimeout env) = false ∧
        (FallsBackWithin env (s.withPool freelist) pRxBlk.toRxBlk now32 →
          pRxBlk.sequence.toNat ∉
              (meetFrame env (s.withPool freelist) pRxBlk.toRxBlk now32).entry.list.sequences ∧
            (pRxBlk.sequence.toNat + 1) &&& maxSeq ∉
              (meetFrame env (s.withPool freelist) pRxBlk.toRxBlk now32).entry.list.sequences)
  | .bar startSeq => startSeq.toNat ∉ s.entry.list.sequences
  | _ => True

instance (env : Env) (s : Session) (event : Event) : Decidable (Undisturbed env s event) :=
  match event with
  | .frame .. => inferInstanceAs (Decidable (_ ∧ (_ → _)))
  | .bar _ => inferInstanceAs (Decidable (_ ∉ _))
  | .timeout _ => inferInstanceAs (Decidable True)
  | .idleTimeout _ => inferInstanceAs (Decidable True)
  | .refresh => inferInstanceAs (Decidable True)

variable {s : Session}

theorem Traced.meet (traced : Traced s) (env : Env) (pRxBlk : RxBlk) (now32 : BitVec 64) :
    Traced (meetFrame env s pRxBlk now32) := by
  have updated : Traced { s with entry := { s.entry with rcvSeq := pRxBlk.sequence.toNat } } :=
    traced.congr ⟨rfl, rfl, rfl, rfl, rfl⟩
  exact (updated.flush env now32).congr ⟨rfl, rfl, rfl, rfl, rfl⟩

theorem Traced.reorder (traced : Traced s) (env : Env) (pRxBlk : RxBlk)
    (now32 legacyNow32 : BitVec 64)
    (timely : rtmpTimeAfter legacyNow32 (now32 + reorderingPacketTimeout env) = false)
    (kept : arrival (meetFrame env s pRxBlk now32).entry pRxBlk.sequence.toNat = .withinWindow →
      Buffers (meetFrame env s pRxBlk now32) pRxBlk ∨
        (pRxBlk.sequence.toNat ∉ (meetFrame env s pRxBlk now32).entry.list.sequences ∧
          (pRxBlk.sequence.toNat + 1) &&& maxSeq ∉
            (meetFrame env s pRxBlk now32).entry.list.sequences)) :
    Traced (reorderAMPDUPacket env s pRxBlk now32 legacyNow32) := by
  have met := traced.meet env pRxBlk now32
  have timer : (meetFrame env s pRxBlk now32).entry.lastIndSeqAtTimer = now32 := rfl
  have number : pRxBlk.sequence.toNat < 4096 := pRxBlk.sequence.isLt
  have early : ∀ t : Session, t.entry.lastIndSeqAtTimer = now32 →
      ¬LegacyFlushDue env t legacyNow32 := by
    intro t same
    rw [LegacyFlushDue, same, timely]
    simp
  simp only [reorderAMPDUPacket]
  generalize meetFrame env s pRxBlk now32 = t at met timer kept
  rcases met with ⟨idle, blank⟩ | ⟨last, held, holds, tracked⟩
  · have zero : t.entry.list.qlen = 0 := by rw [idle.counted, idle.empty]; rfl
    have asserted : t.assert (t.entry.list.qlen == 0 && t.entry.list.next.isEmpty) = t := by
      simp [Session.assert, zero, idle.empty]
    have started := idle.started _ number
    have opened := blank.open [] (Or.inl rfl) number 0 pRxBlk.sequence.toNat
    rw [List.append_nil] at opened
    simp only [idle.arrival_eq]
    rw [asserted] at started ⊢
    have set : Holds 2 ((t.setLastIndSeq pRxBlk.sequence.toNat).setTimer now32)
        pRxBlk.sequence.toNat [] := started.congr ⟨rfl, rfl, rfl, rfl, rfl⟩
    exact Or.inr ⟨_, _, Tracked.handedOff (s := (t.setLastIndSeq _).setTimer now32) opened set env
      pRxBlk legacyNow32 (early _ rfl) (Nat.mod_eq_of_lt number).symm (Nat.zero_le _) le_rfl⟩
  · have placed := holds.placed pRxBlk.sequence.toNat number
    have residue := ahead_mod last pRxBlk.sequence.toNat number
    have size := holds.sound.small
    cases place : arrival t.entry pRxBlk.sequence.toNat with
    | first =>
      rw [place] at placed
      exact placed.elim
    | inOrder =>
      rw [place] at placed
      have moved := holds.step _ number placed
      have set := tracked.setLast (last + 1) (by omega) (by omega)
      rw [placed] at residue
      rw [residue] at set
      have near : last + 1 ≤ restReach last held := by
        cases held with
        | nil =>
          simp only [restReach, List.headD_nil]
          omega
        | cons first rest =>
          have low := holds.window.low_le first (List.mem_cons_self ..)
          simp only [restReach, List.headD_cons]
          omega
      have handed := Tracked.handedOff (s := t.setLastIndSeq pRxBlk.sequence.toNat) set moved env
        pRxBlk legacyNow32 (early _ timer) residue.symm le_rfl near
      exact (handed.2.settle handed.1).congr ⟨rfl, rfl, rfl, rfl, rfl⟩
    | duplicated =>
      have dropped : Traced t := Or.inr ⟨last, held, holds, tracked⟩
      exact (dropped.kfree pRxBlk.pRxPacket).congr ⟨rfl, rfl, rfl, rfl, rfl⟩
    | old =>
      have dropped : Traced t := Or.inr ⟨last, held, holds, tracked⟩
      exact (dropped.kfree pRxBlk.pRxPacket).congr ⟨rfl, rfl, rfl, rfl, rfl⟩
    | withinWindow =>
      rw [place] at placed
      exact tracked.within holds env pRxBlk legacyNow32 (early t timer) placed.1 placed.2 (kept place)
    | surpasses =>
      rw [place] at placed
      have shifted := holds.shift (by omega) _ number placed.1 placed.2 now32
      obtain ⟨reach, moved, first, alone⟩ :=
        tracked.shift holds _ number placed.1 placed.2 now32
      have sizeSame : (shiftWindow t pRxBlk.sequence.toNat now32).entry.baWinSize =
          t.entry.baWinSize := by
        rw [holds.shiftWindow_eq (by omega) _ number placed.1 placed.2]
        rfl
      have last' : ahead last pRxBlk.sequence.toNat - t.entry.baWinSize +
          (shiftWindow t pRxBlk.sequence.toNat now32).entry.baWinSize =
            ahead last pRxBlk.sequence.toNat := by
        rw [sizeSame]
        omega
      refine moved.atEnd shifted env pRxBlk legacyNow32 (early _ rfl) ?_ ?_ first ?_
      · rw [last', residue]
      · intro x member
        have high := holds.window.le_high x (List.mem_of_mem_drop member)
        rw [last']
        omega
      · rw [last']
        exact alone

theorem Traced.bar (traced : Traced s) (startSeq : BitVec 12)
    (absent : startSeq.toNat ∉ s.entry.list.sequences) :
    Traced (barReorderingMpdus s startSeq) := by
  have number : startSeq.toNat < 4096 := startSeq.isLt
  rcases traced with ⟨idle, blank⟩ | ⟨last, held, holds, tracked⟩
  · rw [idle.bar_eq]
    split_ifs
    · have recorded := idle.append [.bar startSeq.toNat] (by simp)
      have opened := recorded.opened (startSeq.toNat + 4095)
      have value : (startSeq.toNat + 4095) % 4096 % 4096 = (startSeq.toNat + 4095) % 4096 :=
        Nat.mod_mod _ _
      have fromStart := recorded.opened ((startSeq.toNat + 4095) % 4096)
      rw [value] at fromStart
      exact Or.inr ⟨_, [], fromStart, blank.open [_] (Or.inr ⟨_, rfl⟩) (by omega) _ _⟩
    · exact Or.inl ⟨idle, blank⟩
  · have residue := ahead_mod (last + 1) startSeq.toNat number
    rw [holds.bar_eq (by omega)]
    have low := le_ahead (last + 1) startSeq.toNat
    generalize ahead (last + 1) startSeq.toNat = q at residue low
    split_ifs with moves
    · have outside : q ∉ held := by
        intro member
        rw [ReorderingList.sequences, holds.sequences, ← residue] at absent
        exact absent (List.mem_map_of_mem member)
      have fewer := upTo_absent (q - 1) held
        (by rwa [Nat.sub_add_cancel (by omega)])
      rw [Nat.sub_add_cancel (by omega)] at fewer
      have moved := holds.advance q (q - 1) (by omega) (by omega)
      rw [show q + 1 - (q - 1) = 2 by omega] at moved
      have sound := holds.sound.drain (upTo q held)
      have recorded := (sound.append [.bar startSeq.toNat] (by simp)).setLastIndSeq
        ((q - 1) % 4096)
      refine Or.inr ⟨_, _,
        ⟨recorded, moved.lastIndSeq, moved.sequences, moved.counted, moved.window⟩, ?_⟩
      rcases tracked.drain holds (by omega) (q - 1) restReach_first with
        ⟨_, kept⟩ | ⟨x, _, upper, kept⟩
      · rw [← fewer] at kept
        exact ((kept.bar startSeq.toNat _).setLast (q - 1) (by omega) (by omega)).mono
          (by omega) le_rfl
      · rw [← fewer] at kept
        exact ((kept.bar startSeq.toNat _).setLast (q - 1) (by omega) (by omega)).mono
          (by omega) le_rfl
    · exact Or.inr ⟨last, held, holds, tracked⟩

theorem Traced.known (traced : Traced s) : s.idx ≠ 0 := by
  rcases traced with ⟨idle, _⟩ | ⟨last, held, holds, _⟩
  · exact idle.sound.known
  · exact holds.sound.known

theorem Traced.step (traced : Traced s) (env : Env) (event : Event)
    (calm : Undisturbed env s event) : Traced (sessionStep env s event) := by
  cases event with
  | bar startSeq => exact traced.bar startSeq calm
  | timeout now32 => exact traced.flush env now32
  | refresh => exact traced.refreshed
  | idleTimeout now32 =>
    simp only [sessionStep, baRecSessionIdleTimeout]
    split_ifs
    · exact traced.refreshed
    · exact traced
  | frame freelist pRxBlk now32 legacyNow32 =>
    have pooled : Traced (s.withPool freelist) := traced.congr ⟨rfl, rfl, rfl, rfl, rfl⟩
    have known : (s.withPool freelist).idx ≠ 0 := pooled.known
    simp only [sessionStep, indicateAMPDUPacket, if_pos pRxBlk.known, if_neg known]
    split_ifs with large
    · exact pooled.kfree pRxBlk.pRxPacket
    · refine pooled.reorder env pRxBlk.toRxBlk now32 legacyNow32 calm.1 fun within => ?_
      by_cases buffers : Buffers (meetFrame env (s.withPool freelist) pRxBlk.toRxBlk now32)
          pRxBlk.toRxBlk
      · exact Or.inl buffers
      · exact Or.inr (calm.2 ⟨pRxBlk.admitted_iff.1 large, within, buffers⟩)

theorem Started.traced (started : Started s) : Traced s := by
  refine Or.inl ⟨started.idle, ?_⟩
  rw [started.log]
  exact ⟨trivial, rfl, rfl⟩

theorem Traced.advancing (traced : Traced s) : Advancing .start s.log := by
  rcases traced with ⟨_, blank⟩ | ⟨_, _, _, tracked⟩
  · exact blank.advancing
  · exact tracked.advancing

/-- Between two resets every frame handed on lies ahead of the one before it, and its number
is larger unless a BAR moved the window in between. -/
theorem run_advancing (env : Env) (s : Session) (started : Started s) (events : List Event)
    (calm : Throughout (sessionStep env) (Undisturbed env) s events) :
    Advancing .start (run (sessionStep env) s events).log :=
  (run_invariant Traced (fun _ event traced calm => traced.step env event calm)
    started.traced events calm).advancing

theorem run_advancing_wrap :
    Advancing .start (run (sessionStep stationEnv) (freshSession 64)
      [plainArrival onePool 0 4094, plainArrival onePool 1 1, plainArrival .empty 2 3000,
        .bar 1000, plainArrival onePool 3 4095]).log :=
  run_advancing stationEnv (freshSession 64) (freshSession_started 64 (by decide) (by decide)) _
    (by decide)

/-- A BAR may move the window so far ahead that the next number is not larger than the last. -/
theorem bar_not_ascending :
    ¬∀ (env : Env) (s : Session) (events : List Event), Started s →
      Ascending none (run (sessionStep env) s events).log := by
  intro always
  have log : (run (sessionStep stationEnv) (freshSession 64)
      [plainArrival onePool 0 0, .bar 2048, plainArrival onePool 1 2048]).log =
      [.lastIndSeq 0, .indicate 0 0, .bar 2048, .lastIndSeq 2047, .lastIndSeq 2048,
        .indicate 1 2048] := by
    decide
  have ascending := always stationEnv (freshSession 64)
    [plainArrival onePool 0 0, .bar 2048, plainArrival onePool 1 2048]
    (freshSession_started 64 (by decide) (by decide))
  rw [log] at ascending
  have larger : seqLarger 2048 0 maxSeq = true := ascending.2.1 0 rfl
  exact absurd larger (by decide)

end Mt7612u.BlockAck
