import Mt7612u.BlockAck.Drain
import Mt7612u.Library.Resequencer

/-! The receive window without its wrap-around. `LastIndSeq` and the buffered numbers are
the residues of positions in an unbounded count, and on positions the reorder buffer is
a resequencer. -/

namespace Mt7612u.BlockAck
open Receive Library.Resequencer

/-- A session in use, in which no assertion has failed. `BAWinSize` is a byte, and
`BARecSessionAdd` does not leave it zero. -/
structure Sound (s : Session) : Prop where
  known : s.idx ≠ 0
  positive : 0 < s.entry.baWinSize
  small : s.entry.baWinSize ≤ 255
  unfailed : Outcome.assertFailed ∉ s.log

/-- `last` and `held` are positions that `LastIndSeq` and the buffered numbers stand for.
Nothing is held closer than `slack` above `last`. -/
structure Holds (slack : Nat) (s : Session) (last : Nat) (held : List Nat) : Prop where
  sound : Sound s
  lastIndSeq : s.entry.lastIndSeq = last % 4096
  sequences : s.entry.list.next.map (·.sequence) = held.map (· % 4096)
  counted : s.entry.list.Counted
  window : Between (last + slack) (last + s.entry.baWinSize) held

/-- No frame has come since the window was last given up. -/
structure Idle (s : Session) : Prop where
  sound : Sound s
  lastIndSeq : s.entry.lastIndSeq = resetRcvSeq
  empty : s.entry.list.next = []
  counted : s.entry.list.Counted

/-- The first position from `last` on that has the residue `sequence`. -/
def ahead (last sequence : Nat) : Nat := last + (sequence + 4096 - last % 4096) % 4096

theorem le_ahead (last sequence : Nat) : last ≤ ahead last sequence := Nat.le_add_right ..

theorem ahead_lt (last sequence : Nat) : ahead last sequence < last + 4096 := by
  unfold ahead
  omega

theorem ahead_mod (last sequence : Nat) (number : sequence < 4096) :
    ahead last sequence % 4096 = sequence := by
  unfold ahead
  omega

theorem ahead_of_le {last position : Nat} (reached : last ≤ position)
    (near : position < last + 4096) : ahead last (position % 4096) = position := by
  unfold ahead
  omega

variable {slack last : Nat} {held : List Nat} {s : Session}

theorem Sound.append (sound : Sound s) (outcomes : List Outcome)
    (clean : Outcome.assertFailed ∉ outcomes) : Sound (s.append outcomes) :=
  ⟨sound.known, sound.positive, sound.small, by
    simpa [Session.append, clean] using sound.unfailed⟩

theorem Sound.setLastIndSeq (sound : Sound s) (value : Nat) : Sound (s.setLastIndSeq value) :=
  ⟨sound.known, sound.positive, sound.small, by
    simpa [Session.setLastIndSeq] using sound.unfailed⟩

theorem Sound.drain (sound : Sound s) (count : Nat) : Sound (s.drain count) :=
  ⟨sound.known, sound.positive, sound.small, by
    simpa [Session.drain, indications_clean] using sound.unfailed⟩

theorem Sound.refreshed (sound : Sound s) : Sound s.refreshed :=
  ⟨sound.known, sound.positive, sound.small, by
    simpa [Session.refreshed] using sound.unfailed⟩

/-- Two sessions that differ in nothing the window depends on. -/
structure SameWindow (t s : Session) : Prop where
  idx : t.idx = s.idx
  lastIndSeq : t.entry.lastIndSeq = s.entry.lastIndSeq
  list : t.entry.list = s.entry.list
  baWinSize : t.entry.baWinSize = s.entry.baWinSize
  log : t.log = s.log

theorem Sound.congr (sound : Sound s) {t : Session} (same : SameWindow t s) : Sound t :=
  ⟨same.idx ▸ sound.known, same.baWinSize ▸ sound.positive, same.baWinSize ▸ sound.small,
    same.log ▸ sound.unfailed⟩

theorem Holds.congr (holds : Holds slack s last held) {t : Session} (same : SameWindow t s) :
    Holds slack t last held :=
  ⟨holds.sound.congr same, same.lastIndSeq.trans holds.lastIndSeq, same.list ▸ holds.sequences,
    same.list ▸ holds.counted, same.baWinSize ▸ holds.window⟩

theorem Holds.append (holds : Holds slack s last held) (outcomes : List Outcome)
    (clean : Outcome.assertFailed ∉ outcomes) : Holds slack (s.append outcomes) last held :=
  ⟨holds.sound.append _ clean, holds.lastIndSeq, holds.sequences, holds.counted, holds.window⟩

theorem Idle.congr (idle : Idle s) {t : Session} (same : SameWindow t s) : Idle t :=
  ⟨idle.sound.congr same, same.lastIndSeq.trans idle.lastIndSeq, same.list ▸ idle.empty,
    same.list ▸ idle.counted⟩

theorem Idle.append (idle : Idle s) (outcomes : List Outcome)
    (clean : Outcome.assertFailed ∉ outcomes) : Idle (s.append outcomes) :=
  ⟨idle.sound.append _ clean, idle.lastIndSeq, idle.empty, idle.counted⟩

theorem Holds.mono {slack' : Nat} (holds : Holds slack s last held) (less : slack' ≤ slack) :
    Holds slack' s last held :=
  ⟨holds.sound, holds.lastIndSeq, holds.sequences, holds.counted,
    holds.window.mono (by omega) le_rfl⟩

theorem Holds.next_length (holds : Holds slack s last held) :
    s.entry.list.next.length = held.length := by
  have lengths := congrArg List.length holds.sequences
  simpa using lengths

theorem Holds.not_reset (holds : Holds slack s last held) : s.entry.lastIndSeq ≠ resetRcvSeq := by
  rw [holds.lastIndSeq, resetRcvSeq]
  omega

/-- On a stretch of at most half the circle the drain up to a number is the drain up to
its position. -/
theorem leSeqCount_eq (limit : Nat) (next : List ReorderingMpdu) (held : List Nat)
    (sequences : next.map (·.sequence) = held.map (· % 4096))
    (near : ∀ q ∈ held, q < limit + 2048 ∧ limit ≤ q + 2048) :
    leSeqCount (limit % 4096) next = upTo limit held := by
  induction next generalizing held with
  | nil =>
    cases held with
    | nil => rfl
    | cons q rest => simp at sequences
  | cons mpdu next ih =>
    cases held with
    | nil => simp at sequences
    | cons q rest =>
      simp only [List.map_cons, List.cons.injEq] at sequences
      have bounds := near q (List.mem_cons_self ..)
      have passed : (mpdu.sequence = limit % 4096 ∨
          seqSmaller mpdu.sequence (limit % 4096) maxSeq = true) ↔ q ≤ limit := by
        rw [sequences.1, seqSmaller_mod q limit bounds.1 bounds.2]
        omega
      simp only [leSeqCount, upTo, passed]
      rw [ih rest sequences.2 fun x member => near x (List.mem_cons_of_mem _ member)]

theorem inOrderCount_eq (start : Nat) (next : List ReorderingMpdu) (held : List Nat)
    (sequences : next.map (·.sequence) = held.map (· % 4096)) {high : Nat}
    (near : Between (start + 1) high held) (short : high ≤ start + 4096) :
    inOrderCount (start % 4096) next = streak start held := by
  induction next generalizing held start with
  | nil =>
    cases held with
    | nil => rfl
    | cons q rest => simp at sequences
  | cons mpdu next ih =>
    cases held with
    | nil => simp at sequences
    | cons q rest =>
      simp only [List.map_cons, List.cons.injEq] at sequences
      have low := near.low_le q (List.mem_cons_self ..)
      have upper := near.le_high q (List.mem_cons_self ..)
      have follows : seqStepOne mpdu.sequence (start % 4096) maxSeq = true ↔ q = start + 1 := by
        rw [seqStepOne_iff, sequences.1]
        omega
      simp only [inOrderCount, streak, follows]
      rw [sequences.1]
      by_cases following : q = start + 1
      · simp only [if_pos following]
        rw [ih q rest sequences.2 near.tail (by omega)]
      · simp only [if_neg following]

theorem Holds.leSeq (holds : Holds slack s last held) (apart : 1 ≤ slack) {limit : Nat}
    (above : last ≤ limit) (near : limit ≤ last + 2048) :
    baIndicateReorderingMpdusLeSeq s (limit % 4096) = s.drain (upTo limit held) := by
  rw [baIndicateReorderingMpdusLeSeq_eq s _ holds.counted,
    leSeqCount_eq limit _ held holds.sequences]
  intro q member
  have low := holds.window.low_le q member
  have upper := holds.window.le_high q member
  have size := holds.sound.small
  omega

/-- Draining up to `limit` lets `LastIndSeq` move anywhere between where it is and `limit`. -/
theorem Holds.advance (holds : Holds slack s last held) (limit next : Nat)
    (above : last ≤ next) (within : next ≤ limit) :
    Holds (limit + 1 - next) ((s.drain (upTo limit held)).setLastIndSeq (next % 4096)) next
      (held.drop (upTo limit held)) where
  sound := (holds.sound.drain _).setLastIndSeq _
  lastIndSeq := rfl
  sequences := by
    simp only [Session.setLastIndSeq, Session.drain, List.map_drop, holds.sequences]
  counted := Session.drain_counted holds.counted _
  window := (drop_upTo limit holds.window).mono (by omega)
    (by simp only [Session.setLastIndSeq, Session.drain]; omega)

theorem Holds.inOrderCount_eq (holds : Holds 1 s last held) :
    inOrderCount s.entry.lastIndSeq s.entry.list.next = streak last held := by
  have size := holds.sound.small
  rw [holds.lastIndSeq]
  exact BlockAck.inOrderCount_eq last _ held holds.sequences holds.window (by omega)

theorem Holds.indicateInOrder_eq (holds : Holds 1 s last held) :
    indicateInOrder s = if streak last held = 0 then s
      else (s.drain (streak last held)).setLastIndSeq ((last + streak last held) % 4096) := by
  rw [BlockAck.indicateInOrder_eq s holds.counted, holds.inOrderCount_eq, holds.lastIndSeq,
    Nat.mod_add_mod]

/-- After the in-order run the first held position is at least two above `LastIndSeq`. -/
theorem Holds.settle (holds : Holds 1 s last held) :
    Holds 2 (indicateInOrder s) (last + streak last held) (held.drop (streak last held)) := by
  have left := drop_streak holds.window
  rw [holds.indicateInOrder_eq]
  by_cases none : streak last held = 0
  · rw [none] at left ⊢
    simp only [Nat.add_zero, List.drop_zero, ↓reduceIte] at left ⊢
    exact ⟨holds.sound, holds.lastIndSeq, holds.sequences, holds.counted, left⟩
  · rw [if_neg none]
    refine ⟨(holds.sound.drain _).setLastIndSeq _, rfl, ?_,
      Session.drain_counted holds.counted _, left.mono le_rfl ?_⟩
    · simp only [Session.setLastIndSeq, Session.drain, List.map_drop, holds.sequences]
    · simp only [Session.setLastIndSeq, Session.drain]
      omega

theorem Idle.settle (idle : Idle s) : indicateInOrder s = s := by
  rw [indicateInOrder_eq s idle.counted, idle.empty]
  rfl

theorem Holds.refreshed (holds : Holds slack s last held) : Idle s.refreshed :=
  ⟨holds.sound.refreshed, rfl, rfl, rfl⟩

theorem Idle.refreshed (idle : Idle s) : Idle s.refreshed :=
  ⟨idle.sound.refreshed, rfl, rfl, rfl⟩

theorem Idle.flush (idle : Idle s) (env : Env) (now32 : BitVec 64) :
    baFlushReorderingTimeoutMpdus env s now32 = s := by
  have zero : s.entry.list.qlen = 0 := by rw [idle.counted, idle.empty]; rfl
  simp only [baFlushReorderingTimeoutMpdus, if_pos zero]

/-- The session once the timeout has forced `LastIndSeq` one number on. -/
def forceOne (s : Session) (now32 : BitVec 64) (last : Nat) (held : List Nat) : Session :=
  ((s.drain (upTo (last + 1) held)).setTimer now32).setLastIndSeq ((last + 1) % 4096)

theorem Holds.flush_cases (holds : Holds 1 s last held) (env : Env) (now32 : BitVec 64) :
    baFlushReorderingTimeoutMpdus env s now32 = s ∨
    baFlushReorderingTimeoutMpdus env s now32 = s.refreshed.setTimer now32 ∨
    (held ≠ [] ∧
      baFlushReorderingTimeoutMpdus env s now32 = indicateInOrder (forceOne s now32 last held)) := by
  unfold baFlushReorderingTimeoutMpdus
  split_ifs with empty all one
  · exact Or.inl rfl
  · rw [baRefreshReorderingMpdus_eq s holds.counted]
    exact Or.inr (Or.inl rfl)
  · refine Or.inr (Or.inr ⟨?_, ?_⟩)
    · intro none
      rw [holds.counted, holds.next_length, none] at empty
      exact empty rfl
    · have number : (s.entry.lastIndSeq + 1) &&& maxSeq = (last + 1) % 4096 := by
        rw [mask_maxSeq, holds.lastIndSeq]
        omega
      simp only [number, forceOne]
      rw [holds.leSeq le_rfl (by omega) (by omega)]
  · exact Or.inl rfl

theorem Holds.forceOne (holds : Holds slack s last held) (now32 : BitVec 64) :
    Holds 1 (forceOne s now32 last held) (last + 1) (held.drop (upTo (last + 1) held)) := by
  have moved := holds.advance (last + 1) (last + 1) (by omega) le_rfl
  rw [Nat.add_sub_cancel_left] at moved
  exact moved.congr ⟨rfl, rfl, rfl, rfl, rfl⟩

/-- The tests of `Indicate_AMPDU_Packet` read on positions. -/
theorem Holds.arrival_eq (holds : Holds slack s last held) (sequence : Nat)
    (number : sequence < 4096) :
    arrival s.entry sequence =
      if ahead last sequence = last + 1 then .inOrder
      else if ahead last sequence = last then .duplicated
      else if last + 2048 ≤ ahead last sequence then .old
      else if ahead last sequence ≤ last + s.entry.baWinSize then .withinWindow
      else .surpasses := by
  have size := holds.sound.small
  have residue := ahead_mod last sequence number
  have low := le_ahead last sequence
  have near := ahead_lt last sequence
  generalize ahead last sequence = q at residue low near
  subst residue
  have step : seqStepOne (q % 4096) (last % 4096) maxSeq = true ↔ q = last + 1 := by
    rw [seqStepOne_iff]
    omega
  have same : q % 4096 = last % 4096 ↔ q = last := by omega
  have behind : seqSmaller (q % 4096) (last % 4096) maxSeq = true ↔ last + 2048 ≤ q := by
    rw [seqSmaller_iff]
    omega
  have started : last % 4096 ≠ resetRcvSeq := by
    unfold resetRcvSeq
    omega
  simp only [arrival, holds.lastIndSeq, if_neg started, step, same, behind, mask_maxSeq]
  by_cases next : q = last + 1
  · simp only [if_pos next]
  by_cases repeated : q = last
  · simp only [if_neg next, if_pos repeated]
  by_cases past : last + 2048 ≤ q
  · simp only [if_neg next, if_neg repeated, if_pos past]
  have inside : seqSmaller (q % 4096) ((last % 4096 + s.entry.baWinSize + 1) % 4096) maxSeq = true ↔
      q ≤ last + s.entry.baWinSize := by
    rw [seqSmaller_iff]
    omega
  simp only [if_neg next, if_neg repeated, if_neg past, inside]

/-- Where the position of a frame lies, read off the case it falls in. -/
theorem Holds.placed (holds : Holds slack s last held) (sequence : Nat)
    (number : sequence < 4096) :
    match arrival s.entry sequence with
    | .first => False
    | .inOrder => ahead last sequence = last + 1
    | .duplicated => ahead last sequence = last
    | .old => last + 2048 ≤ ahead last sequence
    | .withinWindow => last + 2 ≤ ahead last sequence ∧
        ahead last sequence ≤ last + s.entry.baWinSize
    | .surpasses => last + s.entry.baWinSize < ahead last sequence ∧
        ahead last sequence < last + 2048 := by
  have low := le_ahead last sequence
  rw [holds.arrival_eq sequence number]
  split_ifs <;> simp only <;> omega

/-- A number beyond the window becomes its last one. -/
theorem Holds.winStartSeq_eq (holds : Holds slack s last held) (sequence : Nat)
    (number : sequence < 4096) (beyond : last + s.entry.baWinSize < ahead last sequence) :
    winStartSeq s.entry sequence = (ahead last sequence - s.entry.baWinSize) % 4096 := by
  have size := holds.sound.small
  have residue := ahead_mod last sequence number
  generalize ahead last sequence = q at residue beyond
  simp only [winStartSeq, mask_maxSeq]
  unfold maxSeq
  split_ifs <;> omega

theorem Holds.shiftWindow_eq (holds : Holds slack s last held) (apart : 1 ≤ slack) (sequence : Nat)
    (number : sequence < 4096) (beyond : last + s.entry.baWinSize < ahead last sequence)
    (near : ahead last sequence < last + 2048) (now32 : BitVec 64) :
    shiftWindow s sequence now32 =
      (((s.drain (upTo (ahead last sequence - s.entry.baWinSize) held)).setLastIndSeq
        ((ahead last sequence - s.entry.baWinSize) % 4096)).setTimer now32) := by
  simp only [shiftWindow]
  rw [holds.winStartSeq_eq sequence number beyond, holds.leSeq apart (by omega) (by omega)]

theorem Holds.shift (holds : Holds slack s last held) (apart : 1 ≤ slack) (sequence : Nat)
    (number : sequence < 4096) (beyond : last + s.entry.baWinSize < ahead last sequence)
    (near : ahead last sequence < last + 2048) (now32 : BitVec 64) :
    Holds 1 (shiftWindow s sequence now32) (ahead last sequence - s.entry.baWinSize)
      (held.drop (upTo (ahead last sequence - s.entry.baWinSize) held)) := by
  have moved := holds.advance (ahead last sequence - s.entry.baWinSize)
    (ahead last sequence - s.entry.baWinSize) (by omega) le_rfl
  rw [Nat.add_sub_cancel_left] at moved
  rw [holds.shiftWindow_eq apart sequence number beyond near]
  exact moved.congr ⟨rfl, rfl, rfl, rfl, rfl⟩

/-- The sorted insertion by number is the sorted insertion by position, whatever else the
blocks carry for their positions. -/
theorem insertScan_place {α : Type} (tag : ReorderingMpdu → α) (mark : Nat → α)
    (mpdu : ReorderingMpdu) (q : Nat) (same : mpdu.sequence = q % 4096) (tagged : tag mpdu = mark q)
    (next : List ReorderingMpdu) (held : List Nat)
    (sequences : next.map (·.sequence) = held.map (· % 4096)) (tags : next.map tag = held.map mark)
    (near : ∀ x ∈ held, x < q + 2048 ∧ q < x + 2048) :
    match insertScan mpdu next with
    | none => q ∈ held ∧ place q held = held
    | some next' => next'.map tag = (place q held).map mark := by
  induction next generalizing held with
  | nil =>
    cases held with
    | nil => simp [insertScan, place, tagged]
    | cons first rest => simp at sequences
  | cons scan next ih =>
    cases held with
    | nil => simp at sequences
    | cons first rest =>
      simp only [List.map_cons, List.cons.injEq] at sequences tags
      have bounds := near first (List.mem_cons_self ..)
      have before : seqSmaller scan.sequence mpdu.sequence maxSeq = true ↔ first < q := by
        rw [sequences.1, same, seqSmaller_mod first q bounds.1 (by omega)]
      have equal : scan.sequence = mpdu.sequence ↔ first = q := by
        rw [sequences.1, same]
        omega
      have deeper := ih rest sequences.2 tags.2 fun x member =>
        near x (List.mem_cons_of_mem _ member)
      simp only [insertScan, place, before, equal]
      by_cases earlier : first < q
      · simp only [if_pos earlier]
        cases found : insertScan mpdu next with
        | none =>
          rw [found] at deeper
          exact ⟨List.mem_cons_of_mem _ deeper.1, congrArg _ deeper.2⟩
        | some next' => simpa [found, tags.1] using deeper
      · by_cases present : first = q
        · simp only [if_neg earlier, if_pos present]
          exact ⟨present ▸ List.mem_cons_self .., trivial⟩
        · simp [if_neg earlier, if_neg present, tags, tagged]

/-- What buffering a frame did: its number was `present` and it was freed, or its block
went into the list. -/
def Stored (s t : Session) (pRxBlk : RxBlk) (present : Prop) : Prop :=
  t.entry.baWinSize = s.entry.baWinSize ∧
    ((present ∧ t.log = s.log ++ [.kfree pRxBlk.pRxPacket]) ∨
      (t.log = s.log ∧ ∃ mpduBlk,
        insertScan (pRxBlk.toMpdu mpduBlk) s.entry.list.next = some t.entry.list.next))

/-- A buffered frame joins the list at its position, or is freed if it is there already. -/
theorem Holds.store (holds : Holds slack s last held) (apart : 1 ≤ slack) (env : Env)
    (pRxBlk : RxBlk) (now32 : BitVec 64) (buffers : Buffers s pRxBlk) {q : Nat}
    (same : pRxBlk.sequence.toNat = q % 4096) (low : last + slack ≤ q)
    (high : q ≤ last + s.entry.baWinSize) :
    Holds slack (baEnqueueReorderingPacket env s pRxBlk now32) last (place q held) ∧
      Stored s (baEnqueueReorderingPacket env s pRxBlk now32) pRxBlk (q ∈ held) := by
  have size := holds.sound.small
  have near : ∀ x ∈ held, x < q + 2048 ∧ q < x + 2048 := by
    intro x member
    have lower := holds.window.low_le x member
    have upper := holds.window.le_high x member
    omega
  have placed := between_place holds.window low high
  have short : ∀ list : List Nat, Between (last + slack) (last + s.entry.baWinSize) list →
      list.length ≤ s.entry.baWinSize := by
    intro list within
    rcases within.length_le with bound | empty
    · omega
    · simp only [empty, List.length_nil, Nat.zero_le]
  obtain ⟨mpduBlk, taken, stored⟩ := baEnqueueReorderingPacket_buffers env s pRxBlk now32 buffers
  have scanned := insertScan_place (·.sequence) (· % 4096) (pRxBlk.toMpdu mpduBlk) q same same
    s.entry.list.next held holds.sequences holds.sequences near
  have chain : (baMpduBlkAlloc s).2.entry.list.next = s.entry.list.next := rfl
  rw [stored]
  cases found : insertScan (pRxBlk.toMpdu mpduBlk) s.entry.list.next with
  | none =>
    rw [found] at scanned
    have fits : s.entry.list.qlen ≤ s.entry.baWinSize := by
      rw [holds.counted, holds.next_length]
      exact short held holds.window
    rw [insertMpdu_none _ _ (chain ▸ found)]
    simp only [baMpduBlkFree, Session.record, baMpduBlkAlloc, Session.assert, fits, decide_true,
      ↓reduceIte]
    rw [scanned.2]
    exact ⟨(holds.append [.kfree _] (by simp)).congr ⟨rfl, rfl, rfl, rfl, rfl⟩,
      rfl, Or.inl ⟨scanned.1, rfl⟩⟩
  | some next =>
    rw [found] at scanned
    have counted : s.entry.list.qlen + 1 = next.length := by
      rw [insertScan_length _ _ _ found, holds.counted]
    have fits : s.entry.list.qlen + 1 ≤ s.entry.baWinSize := by
      have lengths := congrArg List.length scanned
      simp only [List.length_map] at lengths
      rw [counted, lengths]
      exact short _ placed
    rw [insertMpdu_some _ _ _ (chain ▸ found)]
    simp only [Session.setList, baMpduBlkAlloc, Session.assert, fits, decide_true, ↓reduceIte]
    have sound := holds.sound
    exact ⟨⟨⟨sound.known, sound.positive, sound.small, sound.unfailed⟩, holds.lastIndSeq, scanned,
      counted, placed⟩, rfl, Or.inr ⟨rfl, mpduBlk, found⟩⟩

/-- The frame that is not buffered takes everything up to itself along. -/
theorem Holds.indicateThrough_eq (holds : Holds slack s last held) (apart : 1 ≤ slack) (env : Env)
    (pRxBlk : RxBlk) (now32 : BitVec 64) {q : Nat} (same : pRxBlk.sequence.toNat = q % 4096)
    (above : last ≤ q) (near : q ≤ last + 2048) :
    indicateThrough env s pRxBlk now32 = indicateLegacyOrAMSDU env
      ((s.drain (upTo q held)).setLastIndSeq (q % 4096)) pRxBlk now32 := by
  simp only [indicateThrough, same]
  rw [holds.leSeq apart above near]

theorem Holds.through (holds : Holds slack s last held) (q : Nat) (above : last ≤ q) :
    Holds 1 ((s.drain (upTo q held)).setLastIndSeq (q % 4096)) q
      (held.drop (upTo q held)) := by
  have moved := holds.advance q q above le_rfl
  rwa [Nat.add_sub_cancel_left] at moved

theorem Holds.bar_eq (holds : Holds slack s last held) (apart : 1 ≤ slack)
    (startSeq : BitVec 12) :
    barReorderingMpdus s startSeq =
      if ahead (last + 1) startSeq.toNat ≤ last + 2048 then
        ((s.drain (upTo (ahead (last + 1) startSeq.toNat) held)).record
          (.bar startSeq.toNat)).setLastIndSeq ((ahead (last + 1) startSeq.toNat - 1) % 4096)
      else s := by
  have number : startSeq.toNat < 4096 := startSeq.isLt
  have residue := ahead_mod (last + 1) startSeq.toNat number
  have low := le_ahead (last + 1) startSeq.toNat
  have high := ahead_lt (last + 1) startSeq.toNat
  simp only [barReorderingMpdus]
  generalize ahead (last + 1) startSeq.toNat = q at residue low high
  rw [← residue, holds.lastIndSeq]
  have moves : seqSmaller (last % 4096) (q % 4096) maxSeq = true ↔ q ≤ last + 2048 := by
    rw [seqSmaller_iff]
    omega
  by_cases reached : q ≤ last + 2048
  · rw [if_pos (moves.2 reached), if_pos reached, holds.leSeq apart (by omega) reached]
    congr 1
    unfold maxSeq
    split_ifs <;> omega
  · rw [if_neg (mt moves.1 reached), if_neg reached]

/-- A BAR opens the window of a session that has none, for half of its numbers. -/
theorem Idle.bar_eq (idle : Idle s) (startSeq : BitVec 12) :
    barReorderingMpdus s startSeq =
      if seqSmaller resetRcvSeq startSeq.toNat maxSeq then
        (s.record (.bar startSeq.toNat)).setLastIndSeq ((startSeq.toNat + 4095) % 4096)
      else s := by
  have number : startSeq.toNat < 4096 := startSeq.isLt
  have value : (if startSeq.toNat = 0 then maxSeq else startSeq.toNat - 1) =
      (startSeq.toNat + 4095) % 4096 := by
    unfold maxSeq
    split_ifs <;> omega
  simp only [barReorderingMpdus, value]
  rw [baIndicateReorderingMpdusLeSeq_eq s _ idle.counted, idle.empty, idle.lastIndSeq]
  simp only [leSeqCount, Session.drain_zero]

theorem Idle.opened (idle : Idle s) (last : Nat) :
    Holds 2 (s.setLastIndSeq (last % 4096)) last [] :=
  ⟨idle.sound.setLastIndSeq _, rfl, by simp [Session.setLastIndSeq, idle.empty], idle.counted,
    between_nil _ _⟩

end Mt7612u.BlockAck
