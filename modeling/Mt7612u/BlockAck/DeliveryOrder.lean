import Mt7612u.BlockAck.Delivery

/-! Each operation of a session, as a reader of its log sees it. -/

namespace Mt7612u.BlockAck
open Receive Library.Resequencer Library.Run

variable {s : Session} {slack last ceiling reach : Nat} {held : List Nat} {log : List Outcome}

/-- Frames indicated at ascending positions. -/
theorem Tracked.indications (tracked : Tracked log last ceiling reach)
    (mpdus : List ReorderingMpdu) (positions : List Nat)
    (sequences : mpdus.map (·.sequence) = positions.map (· % 4096)) (nonempty : positions ≠ [])
    {high : Nat} (within : Between ceiling high positions) (above : last < ceiling)
    (near : high ≤ last + 2047) (first : ∀ q ∈ positions.head?, q ≤ reach) :
    ∃ q ∈ positions, (∀ x ∈ positions, x ≤ q) ∧
      Tracked (log ++ indications mpdus) last (q + 1) (q + 2047) := by
  induction positions generalizing mpdus log ceiling reach with
  | nil => exact absurd rfl nonempty
  | cons q rest ih =>
    cases mpdus with
    | nil => simp at sequences
    | cons mpdu mpdus =>
      simp only [List.map_cons, List.cons.injEq] at sequences
      have low := within.low_le q (List.mem_cons_self ..)
      have upper := within.le_high q (List.mem_cons_self ..)
      have handed := tracked.handOn (.indicate mpdu.pPacket mpdu.sequence) (q := q)
        (by rw [← sequences.1]; rfl) (by omega) (by omega) low (first q (by simp))
      cases rest with
      | nil =>
        have nothing : mpdus = [] := by simpa using sequences.2
        subst nothing
        exact ⟨q, List.mem_cons_self .., by simp, handed⟩
      | cons next rest =>
        have later := within.tail
        have nextHigh := later.le_high next (List.mem_cons_self ..)
        obtain ⟨top, member, greatest, reached⟩ := ih handed mpdus sequences.2 (by simp) later
          (by omega) (by
            intro x found
            simp only [List.head?_cons, Option.mem_some_iff] at found
            omega)
        refine ⟨top, List.mem_cons_of_mem _ member, ?_, ?_⟩
        · intro x found
          rcases List.mem_cons.mp found with same | among
          · have lowest := later.low_le top member
            omega
          · exact greatest x among
        · simpa [BlockAck.indications] using reached

/-- The same frames, with `LastIndSeq` set after each: the loop of a refresh. -/
theorem Tracked.refresh (tracked : Tracked log last ceiling reach) (mpdus : List ReorderingMpdu)
    (positions : List Nat) (sequences : mpdus.map (·.sequence) = positions.map (· % 4096))
    {low high : Nat} (within : Between low high positions) (above : last < low)
    (later : ceiling ≤ low) (near : high ≤ last + 2047) (first : ∀ q ∈ positions.head?, q ≤ reach) :
    ∃ last' ceiling' reach', Tracked (log ++ mpdus.flatMap fun mpdu =>
      [.indicate mpdu.pPacket mpdu.sequence, .lastIndSeq mpdu.sequence]) last' ceiling' reach' := by
  induction positions generalizing mpdus log last ceiling reach low with
  | nil =>
    have nothing : mpdus = [] := by simpa using sequences
    subst nothing
    simp only [List.flatMap_nil, List.append_nil]
    exact ⟨last, ceiling, reach, tracked⟩
  | cons q rest ih =>
    cases mpdus with
    | nil => simp at sequences
    | cons mpdu mpdus =>
      simp only [List.map_cons, List.cons.injEq] at sequences
      have lowest := within.low_le q (List.mem_cons_self ..)
      have upper := within.le_high q (List.mem_cons_self ..)
      have handed := tracked.handOn (.indicate mpdu.pPacket mpdu.sequence) (q := q)
        (by rw [← sequences.1]; rfl) (by omega) (by omega) (by omega) (first q (by simp))
      have set := handed.setLast q (by omega) (by omega)
      rw [← sequences.1] at set
      obtain ⟨last', ceiling', reach', done⟩ := ih set mpdus sequences.2 within.tail (by omega) le_rfl
        (by omega) (by
          intro x found
          have bound := within.le_high x (List.mem_cons_of_mem _ (List.mem_of_mem_head? found))
          omega)
      exact ⟨last', ceiling', reach', by simpa using done⟩

/-- What `reach` has to be when a session rests. -/
def restReach (last : Nat) (held : List Nat) : Nat := held.headD (last + 2047)

theorem restReach_le (within : Between (last + slack) (last + 255) held) :
    restReach last held ≤ last + 2047 := by
  cases held with
  | nil => exact le_rfl
  | cons first rest =>
    have upper := within.le_high first (List.mem_cons_self ..)
    simp only [restReach, List.headD_cons]
    omega

theorem Holds.close (holds : Holds slack s last held) : Between (last + slack) (last + 255) held :=
  holds.window.mono le_rfl (by have size := holds.sound.small; omega)

/-- A session between two events. -/
def Traced (s : Session) : Prop :=
  (Idle s ∧ Blank s.log) ∨
    ∃ last held, Holds 2 s last held ∧ Tracked s.log last (last + 1) (restReach last held)

/-- The drain up to `limit`, of which the reader sees nothing or sees it end at a
position that was held. -/
theorem Tracked.drain (tracked : Tracked s.log last (last + 1) reach)
    (holds : Holds slack s last held) (apart : 1 ≤ slack) (limit : Nat)
    (first : ∀ q ∈ held.head?, q ≤ reach) :
    (upTo limit held = 0 ∧ Tracked (s.drain (upTo limit held)).log last (last + 1) reach) ∨
    ∃ q ∈ held, q ≤ limit ∧ Tracked (s.drain (upTo limit held)).log last (q + 1) (q + 2047) := by
  by_cases nothing : upTo limit held = 0
  · left
    rw [nothing, Session.drain_zero]
    exact ⟨rfl, tracked⟩
  · right
    have close := holds.close
    have taken := take_upTo limit close
    have sequences : (s.entry.list.next.take (upTo limit held)).map (·.sequence) =
        (held.take (upTo limit held)).map (· % 4096) := by
      rw [List.map_take, holds.sequences, List.map_take]
    have whole : Between (last + 1) (last + 255) (held.take (upTo limit held)) :=
      ⟨taken.ascending, fun q member => (by omega : last + 1 ≤ last + slack).trans
        (taken.low_le q member), fun q member => close.le_high q (List.mem_of_mem_take member)⟩
    obtain ⟨q, member, _, reached⟩ := tracked.indications _ _ sequences
      (by
        intro empty
        have lengths := congrArg List.length empty
        have short := upTo_le_length limit held
        simp only [List.length_take, List.length_nil] at lengths
        omega)
      whole (by omega) (by omega) (by
        intro x found
        apply first x
        cases held with
        | nil => simp at found
        | cons head rest =>
          cases count : upTo limit (head :: rest) with
          | zero => exact absurd count nothing
          | succ n => simpa [count] using found)
    exact ⟨q, List.mem_of_mem_take member, taken.le_high q member, reached⟩

/-- The in-order run brings the session to rest. -/
theorem Tracked.settle (tracked : Tracked s.log last (last + 1) (restReach last held))
    (holds : Holds 1 s last held) : Traced (indicateInOrder s) := by
  have settled := holds.settle
  refine Or.inr ⟨_, _, settled, ?_⟩
  rw [holds.indicateInOrder_eq]
  by_cases nothing : streak last held = 0
  · simp only [nothing, ↓reduceIte, Nat.add_zero, List.drop_zero]
    exact tracked
  · rw [if_neg nothing]
    have close := holds.close
    have sequences : (s.entry.list.next.take (streak last held)).map (·.sequence) =
        (held.take (streak last held)).map (· % 4096) := by
      rw [List.map_take, holds.sequences, List.map_take]
    have run := take_streak last held
    have whole : Between (last + 1) (last + 255) (held.take (streak last held)) :=
      ⟨close.ascending.sublist (List.take_sublist ..),
        fun q member => close.low_le q (List.mem_of_mem_take member),
        fun q member => close.le_high q (List.mem_of_mem_take member)⟩
    obtain ⟨q, member, greatest, reached⟩ := tracked.indications _ _ sequences
      (by
        rw [run]
        intro empty
        exact nothing (by simpa using congrArg List.length empty))
      whole (by omega) (by omega) (by
        intro x found
        cases held with
        | nil => simp at found
        | cons head rest =>
          cases count : streak last (head :: rest) with
          | zero => exact absurd count nothing
          | succ n =>
            simp only [count, List.take_succ_cons, List.head?_cons, Option.mem_some_iff] at found
            simp only [restReach, List.headD_cons, found, le_refl])
    have ends : q = last + streak last held := by
      have top := greatest (last + streak last held) (by rw [run, List.mem_range'_1]; omega)
      rw [run, List.mem_range'_1] at member
      omega
    subst ends
    have length := streak_le_length last held
    have set := reached.setLast (last + streak last held) (by omega) (by
      have bound := whole.le_high _ member
      omega)
    refine set.mono le_rfl ?_
    have small := settled.close
    exact restReach_le small

theorem Traced.congr (traced : Traced s) {t : Session} (same : SameWindow t s) : Traced t := by
  rcases traced with ⟨idle, blank⟩ | ⟨last, held, holds, tracked⟩
  · exact Or.inl ⟨idle.congr same, same.log ▸ blank⟩
  · exact Or.inr ⟨last, held, holds.congr same, same.log ▸ tracked⟩

theorem Traced.kfree (traced : Traced s) (packet : Packet) : Traced (s.append [.kfree packet]) := by
  rcases traced with ⟨idle, blank⟩ | ⟨last, held, holds, tracked⟩
  · refine Or.inl ⟨idle.append _ (by simp), ?_⟩
    have same : readLog (s.log ++ [.kfree packet]) = readLog s.log := by
      rw [readLog_append]
      rfl
    exact ⟨advancing_silent blank.advancing _ rfl, same ▸ blank.last, same ▸ blank.previous⟩
  · exact Or.inr ⟨last, held, holds.append _ (by simp), tracked.kfree packet⟩

theorem Traced.counted (traced : Traced s) : s.entry.list.Counted := by
  rcases traced with ⟨idle, _⟩ | ⟨last, held, holds, _⟩
  · exact idle.counted
  · exact holds.counted

theorem restReach_first : ∀ q ∈ held.head?, q ≤ restReach last held := by
  intro q found
  cases held with
  | nil => simp at found
  | cons first rest =>
    simp only [List.head?_cons, Option.mem_some_iff] at found
    exact found.ge

theorem Traced.refreshed (traced : Traced s) : Traced (baRefreshReorderingMpdus s) := by
  rw [baRefreshReorderingMpdus_eq s traced.counted]
  rcases traced with ⟨idle, blank⟩ | ⟨last, held, holds, tracked⟩
  · refine Or.inl ⟨idle.refreshed, ?_⟩
    simpa [Session.refreshed, idle.empty] using blank.reset
  · refine Or.inl ⟨holds.refreshed, ?_⟩
    obtain ⟨_, _, _, done⟩ := tracked.refresh s.entry.list.next held holds.sequences holds.close
      (by omega) (by omega) (by omega) restReach_first
    exact done.reset

theorem Traced.flush (traced : Traced s) (env : Env) (now32 : BitVec 64) :
    Traced (baFlushReorderingTimeoutMpdus env s now32) := by
  have refreshed := traced.refreshed
  rw [baRefreshReorderingMpdus_eq s traced.counted] at refreshed
  rcases traced with ⟨idle, blank⟩ | ⟨last, held, holds, tracked⟩
  · rw [idle.flush]
    exact Or.inl ⟨idle, blank⟩
  · rcases (holds.mono (by omega)).flush_cases env now32 with same | all | ⟨nonempty, one⟩
    · rw [same]
      exact Or.inr ⟨last, held, holds, tracked⟩
    · rw [all]
      exact refreshed.congr ⟨rfl, rfl, rfl, rfl, rfl⟩
    · have forced := holds.forceOne now32
      have nothing : upTo (last + 1) held = 0 := upTo_none holds.window (by omega)
      rw [one]
      simp only [nothing, List.drop_zero] at forced
      refine Tracked.settle ?_ forced
      simp only [forceOne, nothing, Session.drain_zero]
      refine (tracked.setLast (last + 1) (by omega) (by omega)).mono (by omega) ?_
      cases held with
      | nil => exact absurd rfl nonempty
      | cons first rest => exact le_rfl

theorem Tracked.handOff (tracked : Tracked log last ceiling reach) {pRxBlk : RxBlk}
    {outcomes : List Outcome} (handed : HandOff pRxBlk outcomes) {q : Nat}
    (same : pRxBlk.sequence.toNat = q % 4096) (above : last ≤ q) (near : q < last + 4096)
    (later : ceiling ≤ q) (within : q ≤ reach) :
    Tracked (log ++ outcomes) last (q + 1) (q + 2047) := by
  cases handed with
  | indicated =>
    exact tracked.handOn _ (congrArg some same) above near later within
  | refused =>
    have first := tracked.handOn (.refused pRxBlk.sequence.toNat) (congrArg some same) above near
      later within
    simpa using first.kfree pRxBlk.pRxPacket
  | reported =>
    have first := tracked.handOn (.reportMlme pRxBlk.pRxPacket pRxBlk.sequence.toNat)
      (congrArg some same) above near later within
    simpa using first.kfree pRxBlk.pRxPacket

/-- A frame handed off at `LastIndSeq` itself, with the clock short of the timeout. -/
theorem Tracked.handedOff (tracked : Tracked s.log last ceiling reach)
    (holds : Holds slack s last held) (env : Env) (pRxBlk : RxBlk) (now32 : BitVec 64)
    (timely : ¬LegacyFlushDue env s now32) (same : pRxBlk.sequence.toNat = last % 4096)
    (later : ceiling ≤ last) (within : last ≤ reach) :
    Holds slack (indicateLegacyOrAMSDU env s pRxBlk now32) last held ∧
      Tracked (indicateLegacyOrAMSDU env s pRxBlk now32).log last (last + 1)
        (restReach last held) := by
  rcases indicateLegacyOrAMSDU_cases env s pRxBlk now32 with ⟨outcomes, handed, result⟩ | ⟨due, _⟩
  · rw [result]
    refine ⟨holds.append _ handed.clean, ?_⟩
    exact (tracked.handOff handed same le_rfl (by omega) later within).mono le_rfl
      (restReach_le holds.close)
  · exact absurd due timely

/-- The fall-back of a frame whose own number is not held. -/
theorem Tracked.through (tracked : Tracked s.log last (last + 1) reach)
    (holds : Holds slack s last held) (apart : 1 ≤ slack) (env : Env) (pRxBlk : RxBlk)
    (now32 : BitVec 64) (timely : ¬LegacyFlushDue env s now32) {q : Nat}
    (same : pRxBlk.sequence.toNat = q % 4096) (above : last < q) (near : q ≤ last + 2047)
    (absent : q ∉ held) (first : ∀ x ∈ held.head?, x ≤ reach) (alone : held = [] → q ≤ reach)
    {slack' : Nat}
    (left : Holds slack' ((s.drain (upTo q held)).setLastIndSeq (q % 4096)) q
      (held.drop (upTo q held))) :
    Holds slack' (indicateThrough env s pRxBlk now32) q (held.drop (upTo q held)) ∧
      Tracked (indicateThrough env s pRxBlk now32).log q (q + 1)
        (restReach q (held.drop (upTo q held))) := by
  rw [holds.indicateThrough_eq apart env pRxBlk now32 same (by omega) (by omega)]
  rcases tracked.drain holds apart q first with ⟨nothing, kept⟩ | ⟨x, member, upper, kept⟩
  · have set := kept.setLast q (by omega) (by omega)
    refine set.handedOff left env pRxBlk now32 timely same (by omega) ?_
    cases held with
    | nil => exact alone rfl
    | cons head rest =>
      have lowest := first head rfl
      by_cases reached : head ≤ q
      · simp [upTo, reached] at nothing
      · omega
  · have set := kept.setLast q (by omega) (by omega)
    have other : x ≠ q := fun equal => absent (equal ▸ member)
    have low := holds.window.low_le x member
    exact set.handedOff left env pRxBlk now32 timely same (by omega) (by omega)

/-- The window moved for a frame beyond it. -/
theorem Tracked.shift (tracked : Tracked s.log last (last + 1) (restReach last held))
    (holds : Holds 2 s last held) (sequence : Nat) (number : sequence < 4096)
    (beyond : last + s.entry.baWinSize < ahead last sequence)
    (near : ahead last sequence < last + 2048) (now32 : BitVec 64) :
    ∃ reach, Tracked (shiftWindow s sequence now32).log (ahead last sequence - s.entry.baWinSize)
        (ahead last sequence - s.entry.baWinSize + 1) reach ∧
      (∀ x ∈ (held.drop (upTo (ahead last sequence - s.entry.baWinSize) held)).head?, x ≤ reach) ∧
      (held.drop (upTo (ahead last sequence - s.entry.baWinSize) held) = [] →
        ahead last sequence ≤ reach) := by
  rw [holds.shiftWindow_eq (by omega) sequence number beyond near]
  have size := holds.sound.small
  generalize ahead last sequence = q at beyond near
  rcases tracked.drain holds (by omega) (q - s.entry.baWinSize) restReach_first with
    ⟨nothing, kept⟩ | ⟨x, member, upper, kept⟩
  · refine ⟨restReach last held, ?_, ?_, ?_⟩
    · exact (kept.setLast (q - s.entry.baWinSize) (by omega) (by omega)).mono (by omega) le_rfl
    · rw [nothing, List.drop_zero]
      exact restReach_first
    · rw [nothing, List.drop_zero]
      rintro rfl
      simp only [restReach, List.headD_nil]
      omega
  · have low := holds.window.low_le x member
    refine ⟨x + 2047, ?_, ?_, fun _ => by omega⟩
    · exact (kept.setLast (q - s.entry.baWinSize) (by omega) (by omega)).mono (by omega) le_rfl
    · intro head found
      have high := holds.window.le_high head (List.mem_of_mem_drop (List.mem_of_mem_head? found))
      omega

theorem restReach_place {q : Nat} (first : ∀ x ∈ held.head?, x ≤ reach)
    (alone : held = [] → q ≤ reach) : restReach last (place q held) ≤ reach := by
  cases held with
  | nil => exact alone rfl
  | cons head rest =>
    have bound := first head rfl
    simp only [place]
    split_ifs <;> simp only [restReach, List.headD_cons] <;> omega

/-- A frame buffered at its position is not handed on yet. -/
theorem Tracked.store (tracked : Tracked s.log last ceiling reach) {t : Session} {pRxBlk : RxBlk}
    {present : Prop} (stored : Stored s t pRxBlk present) : Tracked t.log last ceiling reach := by
  rcases stored.2 with ⟨_, same⟩ | ⟨same, _⟩
  · rw [same]
    exact tracked.kfree pRxBlk.pRxPacket
  · rw [same]
    exact tracked

theorem Tracked.within (tracked : Tracked s.log last (last + 1) (restReach last held))
    (holds : Holds 2 s last held) (env : Env) (pRxBlk : RxBlk) (now32 : BitVec 64)
    (timely : ¬LegacyFlushDue env s now32) (low : last + 2 ≤ ahead last pRxBlk.sequence.toNat)
    (high : ahead last pRxBlk.sequence.toNat ≤ last + s.entry.baWinSize)
    (kept : Buffers s pRxBlk ∨ (pRxBlk.sequence.toNat ∉ s.entry.list.sequences ∧
      (pRxBlk.sequence.toNat + 1) &&& maxSeq ∉ s.entry.list.sequences)) :
    Traced (baEnqueueReorderingPacket env s pRxBlk now32) := by
  have residue := ahead_mod last pRxBlk.sequence.toNat pRxBlk.sequence.isLt
  have size := holds.sound.small
  generalize ahead last pRxBlk.sequence.toNat = q at residue low high
  by_cases buffers : Buffers s pRxBlk
  · have stored := holds.store (by omega) env pRxBlk now32 buffers residue.symm low high
    refine Or.inr ⟨_, _, stored.1, (tracked.store stored.2).mono le_rfl ?_⟩
    refine restReach_place restReach_first ?_
    rintro rfl
    simp only [restReach, List.headD_nil]
    omega
  · obtain ⟨own, successor⟩ := kept.resolve_left buffers
    rw [mask_maxSeq, ← residue, Nat.mod_add_mod] at successor
    have absent : q ∉ held := by
      intro member
      rw [ReorderingList.sequences, holds.sequences, ← residue] at own
      exact own (List.mem_map_of_mem member)
    have allocated : Holds 2 (baMpduBlkAlloc s).2 last held :=
      holds.congr ⟨rfl, rfl, rfl, rfl, rfl⟩
    have same : Tracked (baMpduBlkAlloc s).2.log last (last + 1) (restReach last held) := tracked
    rw [baEnqueueReorderingPacket_fallBack env s pRxBlk now32 buffers]
    refine Or.inr ⟨_, _, same.through allocated (by omega) env pRxBlk now32 timely residue.symm
      (by omega) (by omega) absent restReach_first ?_
      (allocated.through_apart (by omega) successor)⟩
    rintro rfl
    simp only [restReach, List.headD_nil]
    omega

theorem Tracked.atEnd (tracked : Tracked s.log last (last + 1) reach) (holds : Holds 1 s last held)
    (env : Env) (pRxBlk : RxBlk) (now32 : BitVec 64) (timely : ¬LegacyFlushDue env s now32)
    (same : pRxBlk.sequence.toNat = (last + s.entry.baWinSize) % 4096)
    (below : ∀ x ∈ held, x < last + s.entry.baWinSize) (first : ∀ x ∈ held.head?, x ≤ reach)
    (alone : held = [] → last + s.entry.baWinSize ≤ reach) :
    Traced (indicateInOrder (baEnqueueReorderingPacket env s pRxBlk now32)) := by
  have positive := holds.sound.positive
  have small := holds.sound.small
  by_cases buffers : Buffers s pRxBlk
  · have stored := holds.store le_rfl env pRxBlk now32 buffers same (by omega) le_rfl
    exact ((tracked.store stored.2).mono le_rfl (restReach_place first alone)).settle stored.1
  · have allocated : Holds 1 (baMpduBlkAlloc s).2 last held :=
      holds.congr ⟨rfl, rfl, rfl, rfl, rfl⟩
    have kept : Tracked (baMpduBlkAlloc s).2.log last (last + 1) reach := tracked
    rw [baEnqueueReorderingPacket_fallBack env s pRxBlk now32 buffers]
    have handed := kept.through allocated le_rfl env pRxBlk now32 timely same (by omega) (by omega)
      (fun member => lt_irrefl _ (below _ member)) first alone (allocated.through _ (by omega))
    exact handed.2.settle handed.1

end Mt7612u.BlockAck
