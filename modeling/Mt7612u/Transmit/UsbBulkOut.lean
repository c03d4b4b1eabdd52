import Mt7612u.Transmit.UsbFinish

/-! `RTUSBBulkOutDataPacket` keeps the invariant: the frames it takes are in flight as they were
written, and those it leaves are still in the ring or in `SavedPad`. -/

namespace Mt7612u.Transmit
open Receive (Memory Span align4)

theorem placesFrom_eq_nil {start : Nat} {frames : List (List UInt8)} :
    placesFrom start frames = [] ↔ frames = [] := by
  cases frames with
  | nil => exact ⟨fun _ => rfl, fun _ => rfl⟩
  | cons frame rest => exact ⟨fun none => absurd none (List.cons_ne_nil _ _),
      fun none => absurd none (List.cons_ne_nil _ _)⟩

theorem Rounds.frame_pos {wraps : Bool} {frames : List (List UInt8)} (rounds : Rounds wraps frames) :
    ∀ frame ∈ frames, 24 ≤ frame.length := by
  intro frame member
  obtain ⟨_, framed⟩ := rounds.framed member
  exact framed.header

theorem Writer.Phase.bytes_le {cur total : Nat} {writer : Writer}
    (phase : writer.Phase cur total) : writer.bytes.length ≤ total := by
  cases phase with
  | fragment _ _ =>
    unfold Writer.bytes
    rw [List.append_nil]
  | copying _ _ whole _ =>
    unfold Writer.bytes
    rw [whole]
    simp only [List.flatten_append, List.flatten_singleton, List.length_append]
    omega
  | @aggregate _ _ laid long _ _ same =>
    have up := (align4_le (laid.length - mtDmaHdrLen)).1
    subst same
    change laid.length ≤ _
    omega
  | @aggregating _ _ _ laid srcBuf long _ _ same _ =>
    have up := (align4_le (laid.length + srcBuf.length - mtDmaHdrLen)).1
    subst same
    change laid.length ≤ _
    omega

namespace UsbRing

variable {ring : UsbRing} {wraps : Bool} {upper lower flight : List (List UInt8)} {base : Nat}

/-- Empty and full are told apart: nothing is to be sent exactly when no frame is left. -/
theorem Layout.nothingToSend_iff (layout : ring.Layout wraps upper lower base) :
    ring.nothingToSend = true ↔ ring.unsent = [] := by
  have cur := layout.cur
  unfold nothingToSend
  rw [Bool.or_eq_true, beq_iff_eq, beq_iff_eq, layout.unsent, List.append_eq_nil_iff,
    placesFrom_eq_nil, placesFrom_eq_nil]
  cases wraps with
  | true =>
    obtain ⟨round, _⟩ := layout.round rfl
    constructor
    · intro same
      cases layout.shape with
      | wrapped first behind place _ => omega
    · intro none
      exact absurd none.1 round.ne_nil
  | false =>
    obtain ⟨rfl, rfl⟩ := layout.straight rfl
    constructor
    · intro same
      refine ⟨rfl, ?_⟩
      by_contra some_
      have long := layout.lower_pos some_
      omega
    · rintro ⟨_, rfl⟩
      rw [List.flatten_nil, List.length_nil] at cur
      exact Or.inl (by omega)

theorem restore_fields (ring : UsbRing) :
    ring.restore =
      { ring with
        wirelessPacket := ring.view
        bCopySavePad := false
        stored := ring.restore.stored } := by
  unfold restore view
  cases saved : ring.bCopySavePad with
  | true =>
    rw [if_pos rfl, if_pos rfl]
    rfl
  | false =>
    rw [if_neg Bool.false_ne_true, if_neg Bool.false_ne_true, ← saved]

/-- The bytes behind the batch go to `SavedPad`. -/
def saves (ring : UsbRing) (batch : Batch) (lastRound : Bool) : Bool :=
  !lastRound && (batch.tmpBulkEndPos == ring.curWritePosition &&
    decide (ring.curWritePosition < ring.curWriteRealPos) ||
      batch.tmpBulkEndPos != ring.curWritePosition)

/-- The ring behind a batch, field by field. -/
def afterBatch (ring : UsbRing) (batch : Batch) (lastRound : Bool) : UsbRing :=
  { ring with
    nextBulkOutPosition := ring.eNextBulkOutPosition
    eNextBulkOutPosition := if lastRound then 8 else batch.tmpBulkEndPos
    wirelessPacket := batch.adjust.write batch.tmpBulkEndPos (List.replicate 8 0)
    savedPad :=
      if ring.saves batch lastRound then
        ring.savedPad.write 0 (batch.adjust.bytes batch.tmpBulkEndPos savedPadSize)
      else ring.savedPad
    bCopySavePad := ring.saves batch lastRound
    bulkOutSize := batch.thisBulkSize + 4
    bulkOutPending := true
    unsent := ring.unsent.drop batch.aggregationNum
    inFlight := ring.unsent.take batch.aggregationNum
    stored := ring.restore.stored ++ txinfoSpans (ring.unsent.take batch.aggregationNum) ++
      [⟨batch.tmpBulkEndPos, 8⟩] }

theorem submit_restored (ring : UsbRing) (batch : Batch) (lastRound : Bool) :
    { ring.restore with nextBulkOutPosition := ring.eNextBulkOutPosition }.submit batch lastRound =
      ring.afterBatch batch lastRound := by
  rw [restore_fields]
  cases lastRound with
  | true => rfl
  | false => rfl

/-- The variables of the loop when it starts. -/
def firstBatch (ring : UsbRing) : Batch := ⟨ring.view, ring.eNextBulkOutPosition, 0, none, 0⟩

section After

variable {batch : Batch} {lastRound : Bool} {sent : List (List UInt8)}

theorem afterBatch_view_saved (saved : ring.saves batch lastRound = true) :
    (ring.afterBatch batch lastRound).view = batch.adjust := by
  have cut : lastRound = false := by
    unfold saves at saved
    cases lastRound with
    | true => exact absurd saved Bool.false_ne_true
    | false => rfl
  subst cut
  unfold view
  rw [if_pos (show (ring.afterBatch batch false).bCopySavePad = true from saved)]
  have pad : (ring.afterBatch batch false).savedPad.bytes 0 savedPadSize =
      batch.adjust.bytes batch.tmpBulkEndPos savedPadSize := by
    change (if ring.saves batch false = true then _ else _ : Memory).bytes 0 savedPadSize = _
    rw [if_pos saved]
    have stored := Memory.bytes_write ring.savedPad 0
      (batch.adjust.bytes batch.tmpBulkEndPos savedPadSize)
    rwa [Memory.length_bytes] at stored
  rw [pad]
  apply write_bytes
  intro address away
  rcases away with before | behind
  · exact (Memory.write_before _ _ before).symm
  · exact (Memory.write_after _ behind).symm

theorem afterBatch_view_unsaved (saved : ring.saves batch lastRound = false) :
    (ring.afterBatch batch lastRound).view =
      batch.adjust.write batch.tmpBulkEndPos (List.replicate 8 0) := by
  unfold view
  rw [if_neg (by
    change ¬ring.saves batch lastRound = true
    rw [saved]
    exact Bool.false_ne_true)]
  rfl

/-- What stands outside the batch stays, and the zeros hide it only if it is saved. -/
theorem afterBatch_holds (taken : ring.firstBatch.Sent batch sent) {start : Nat}
    {data : List UInt8} (holds : ring.view.Holds start data)
    (away : start + data.length ≤ ring.eNextBulkOutPosition ∨
      ring.eNextBulkOutPosition + sent.flatten.length ≤ start)
    (kept : ring.saves batch lastRound = true ∨
      start + data.length ≤ ring.eNextBulkOutPosition) :
    (ring.afterBatch batch lastRound).view.Holds start data := by
  have position : batch.tmpBulkEndPos = ring.eNextBulkOutPosition + sent.flatten.length :=
    taken.position
  have adjusted : batch.adjust.Holds start data := by
    rw [holds_iff] at holds ⊢
    intro i below
    rw [← holds i below]
    apply taken.outside
    rcases away with before | behind
    · exact Or.inl (by change _ < ring.eNextBulkOutPosition; omega)
    · exact Or.inr (by change ring.eNextBulkOutPosition + _ ≤ _; omega)
  cases saved : ring.saves batch lastRound with
  | true =>
    rw [afterBatch_view_saved saved]
    exact adjusted
  | false =>
    rw [afterBatch_view_unsaved saved]
    apply Memory.holds_write_apart adjusted
    rcases kept with both | before
    · rw [saved] at both
      exact absurd both Bool.false_ne_true
    · exact Or.inr (by omega)

/-- The batch is in flight, with four zeros behind it. -/
theorem afterBatch_flight (lastRound still : Bool) (taken : ring.firstBatch.Sent batch sent) {places : List Placed}
    (unsent : ring.unsent = placesFrom ring.eNextBulkOutPosition sent ++ places)
    (inside : ring.eNextBulkOutPosition + sent.flatten.length + 8 ≤ maxTxbulkSize)
    (apart : ring.saves batch lastRound = true ∧ lastRound = false ∨
      lastRound = false ∧ batch.tmpBulkEndPos = ring.curWritePosition ∧ ring.bCurWriting = false ∨
      still = false ∧ ring.curWritePosition + 8 ≤ ring.eNextBulkOutPosition) :
    (ring.afterBatch batch lastRound).Flight still sent ∧
      (ring.afterBatch batch lastRound).unsent = places := by
  have position : batch.tmpBulkEndPos = ring.eNextBulkOutPosition + sent.flatten.length :=
    taken.position
  have size : batch.thisBulkSize = 0 + sent.flatten.length := taken.size
  have count : batch.aggregationNum = (placesFrom ring.eNextBulkOutPosition sent).length := by
    rw [length_placesFrom]
    exact taken.count.trans (Nat.zero_add _)
  refine ⟨⟨?_, ?_, ?_, inside, ?_⟩, ?_⟩
  · change ring.unsent.take batch.aggregationNum = _
    rw [unsent, count]
    exact List.take_left
  · change batch.thisBulkSize + 4 = _
    omega
  · change (batch.adjust.write batch.tmpBulkEndPos (List.replicate 8 0)).Holds
      ring.eNextBulkOutPosition _
    have front : batch.adjust.Holds ring.eNextBulkOutPosition (asSent sent) := taken.holds
    have whole := Memory.holds_write_behind front (List.replicate 8 0)
    rw [length_asSent, ← position] at whole
    have parts : asSent sent ++ List.replicate 8 0 =
        asSent sent ++ List.replicate 4 0 ++ List.replicate 4 0 := by
      rw [List.append_assoc]
      rfl
    rw [parts] at whole
    exact (Memory.holds_append.mp whole).1
  · change _ ≤ (if lastRound = true then 8 else batch.tmpBulkEndPos) ∨
      _ = (if lastRound = true then 8 else batch.tmpBulkEndPos) ∧ (ring.saves batch lastRound = true ∨
        (if lastRound = true then 8 else batch.tmpBulkEndPos) = ring.curWritePosition ∧ _) ∨ _
    rcases apart with ⟨saved, rfl⟩ | ⟨rfl, same, idle⟩ | below
    · exact Or.inr (Or.inl ⟨position.symm, Or.inl saved⟩)
    · exact Or.inr (Or.inl ⟨position.symm, Or.inr ⟨same, idle⟩⟩)
    · exact Or.inr (Or.inr below)
  · change ring.unsent.drop batch.aggregationNum = _
    rw [unsent, count]
    exact List.drop_left

end After

section Cases

variable {batch : Batch} {sent rest : List (List UInt8)}

/-- What a batch stores besides the frames it takes: the eight zeros, on bytes that are saved or on
bytes that belong to nothing. -/
structure Ends (ring next : UsbRing) (span : Span) : Prop where
  inside : span.start + span.count ≤ maxTxbulkSize
  saved : span.start = next.eNextBulkOutPosition ∧ span.count = savedPadSize ∧
      next.bCopySavePad = true ∧
      next.savedPad.bytes 0 savedPadSize = ring.view.bytes span.start savedPadSize ∨
    (∀ placed ∈ next.unsent, span.start + span.count ≤ placed.start ∨
      placed.start + placed.frame.length ≤ span.start) ∧
    ∀ writer, next.writer = some writer → span.start + span.count ≤ next.curWritePosition ∨
      next.curWritePosition + writer.bytes.length ≤ span.start

/-- The eight zeros hide bytes that are in `SavedPad`. -/
theorem ends_saved (taken : ring.firstBatch.Sent batch sent)
    (saved : ring.saves batch false = true)
    (inside : ring.eNextBulkOutPosition + sent.flatten.length + 8 ≤ maxTxbulkSize) :
    Ends ring (ring.afterBatch batch false) ⟨batch.tmpBulkEndPos, 8⟩ := by
  have position : batch.tmpBulkEndPos = ring.eNextBulkOutPosition + sent.flatten.length :=
    taken.position
  constructor
  · change batch.tmpBulkEndPos + 8 ≤ _
    omega
  · refine Or.inl ⟨rfl, rfl, saved, ?_⟩
    change (if ring.saves batch false = true then _ else _ : Memory).bytes 0 savedPadSize = _
    rw [if_pos saved]
    have stored := Memory.bytes_write ring.savedPad 0
      (batch.adjust.bytes batch.tmpBulkEndPos savedPadSize)
    rw [Memory.length_bytes] at stored
    rw [stored]
    apply List.map_congr_left
    intro i _
    apply taken.outside
    right
    change ring.eNextBulkOutPosition + _ ≤ batch.tmpBulkEndPos + i
    omega

/-- Or they stand behind all that is left. -/
theorem ends_free {lastRound : Bool}
    (inside : batch.tmpBulkEndPos + 8 ≤ maxTxbulkSize)
    (unsent : ∀ placed ∈ (ring.afterBatch batch lastRound).unsent,
      placed.start + placed.frame.length ≤ batch.tmpBulkEndPos)
    (writers : ∀ writer, ring.writer = some writer →
      ring.curWritePosition + writer.bytes.length ≤ batch.tmpBulkEndPos) :
    Ends ring (ring.afterBatch batch lastRound) ⟨batch.tmpBulkEndPos, 8⟩ where
  inside := inside
  saved := Or.inr ⟨fun placed member => Or.inr (unsent placed member),
    fun writer found => Or.inr (writers writer found)⟩

/-- The writer goes on where it was. -/
theorem Writing.afterBatch {writer : Writer} {total : Nat} {lastRound : Bool}
    (writing : ring.Writing wraps writer total) (taken : ring.firstBatch.Sent batch sent)
    (first : 8 ≤ ring.eNextBulkOutPosition)
    (place : wraps = true ∧ ring.nextBulkOutPosition ≤ ring.eNextBulkOutPosition ∨
      wraps = false ∧ ring.eNextBulkOutPosition + sent.flatten.length ≤ ring.curWritePosition ∧
        ring.saves batch lastRound = true)
    {still : Bool} (stays : still = true → wraps = true) :
    (ring.afterBatch batch lastRound).Writing still writer total := by
  obtain ⟨phase, room, fits, holds, ahead, ending, starts, start⟩ := writing
  have short := phase.bytes_le
  have above : wraps = true → ring.curWritePosition < ring.nextBulkOutPosition ∧
      ring.curWritePosition + writer.bytes.length ≤ ring.nextBulkOutPosition := by
    intro wrapped
    have under := room.apart wrapped
    have granted := room.below under
    have asked := fits.below under
    exact ⟨under, by omega⟩
  refine ⟨phase, ⟨?_, ?_, ?_⟩, ⟨fits.short, ?_⟩, ?_, ahead, ending, starts, start⟩
  · change ring.curWritePosition < ring.eNextBulkOutPosition →
      ring.curWritePosition + writer.reqCnt + localTxbufSize ≤ ring.eNextBulkOutPosition + 8
    intro under
    rcases place with ⟨wrapped, le⟩ | ⟨_, le, _⟩
    · have granted := room.below (room.apart wrapped)
      omega
    · omega
  · intro stay
    change ring.curWritePosition < ring.eNextBulkOutPosition
    have under := (above (stays stay)).1
    rcases place with ⟨_, le⟩ | ⟨straight, _⟩
    · omega
    · rw [stays stay] at straight
      exact absurd straight.symm Bool.false_ne_true
  · intro zero
    change ring.eNextBulkOutPosition = 0 at zero
    omega
  · change ring.curWritePosition < ring.eNextBulkOutPosition → _
    intro under
    rcases place with ⟨wrapped, _⟩ | ⟨_, le, _⟩
    · exact fits.below (room.apart wrapped)
    · omega
  · apply afterBatch_holds taken holds
    · rcases place with ⟨wrapped, le⟩ | ⟨_, le, _⟩
      · exact Or.inl ((above wrapped).2.trans le)
      · exact Or.inr le
    · rcases place with ⟨wrapped, le⟩ | ⟨_, _, saved⟩
      · exact Or.inr ((above wrapped).2.trans le)
      · exact Or.inl saved

theorem Delivered.take {left : List (List UInt8)} {next : UsbRing} (delivered : ring.Delivered left)
    (transfers : next.transfers = ring.transfers) (written : next.written = ring.written)
    {others : List (List UInt8)} (same : left = others) : next.Delivered others := by
  obtain ⟨batches, done, all⟩ := delivered
  exact ⟨batches, transfers.trans done, written.trans (same ▸ all)⟩

/-- The batch starts with a frame, and those that are left were there before. -/
theorem Layout.starts_after (layout : ring.Layout wraps upper lower base)
    {places : List Placed} (unsent : ring.unsent = placesFrom ring.eNextBulkOutPosition sent ++ places)
    (some_ : sent ≠ []) {count : Nat} :
    (∀ placed ∈ ring.unsent.drop count, StartsIn placed) ∧
      ring.eNextBulkOutPosition + 3898 ≤ maxTxbulkLimit := by
  refine ⟨fun placed member => layout.starts placed (List.mem_of_mem_drop member), ?_⟩
  obtain ⟨frame, rest, rfl⟩ := List.exists_cons_of_ne_nil some_
  apply layout.starts ⟨ring.eNextBulkOutPosition, frame⟩
  rw [unsent]
  exact List.mem_append_left _ List.mem_cons_self

/-- A batch from a ring that is not wrapped. -/
theorem Inv.straight (inv : ring.Inv false upper lower [] base)
    (taken : ring.firstBatch.Sent batch sent) (split : lower = sent ++ rest) (some_ : sent ≠ []) :
    (ring.afterBatch batch false).Inv false [] rest sent (ring.eNextBulkOutPosition +
        sent.flatten.length) ∧
      Ends ring (ring.afterBatch batch false) ⟨batch.tmpBulkEndPos, 8⟩ := by
  obtain ⟨⟨layout, flying, landed, delivered⟩, cur, idle, writing⟩ := inv
  obtain ⟨rfl, rfl⟩ := layout.straight rfl
  have position : batch.tmpBulkEndPos = ring.eNextBulkOutPosition + sent.flatten.length :=
    taken.position
  subst split
  have rounds := layout.rounds.split (fun wrapped => absurd wrapped Bool.false_ne_true)
  have long := rounds.1.flatten_pos some_
  have limit : maxTxbulkLimit = 202752 := by decide
  have size : maxTxbulkSize = 204800 := by decide
  have le := layout.cur_le
  have whole := layout.cur
  rw [List.flatten_append, List.length_append] at whole
  have first : 8 ≤ ring.eNextBulkOutPosition := by
    cases layout.shape with
    | fresh _ zeros => omega
    | straight _ _ _ => omega
    | taken first _ _ => exact first
  have saved : rest ≠ [] ∨ ring.bCurWriting = true → ring.saves batch false = true := by
    intro more
    unfold saves
    rw [Bool.not_false, Bool.true_and, Bool.or_eq_true, Bool.and_eq_true, beq_iff_eq,
      decide_eq_true_eq, bne_iff_ne]
    by_cases same : batch.tmpBulkEndPos = ring.curWritePosition
    · left
      refine ⟨same, ?_⟩
      rcases more with more | busy
      · have behind := rounds.2.flatten_pos more
        omega
      · rw [cur] at busy
        obtain ⟨writer, found⟩ := Option.isSome_iff_exists.mp busy
        obtain ⟨_, at_⟩ := writing writer found
        exact at_.ahead
    · exact Or.inr same
  have unsent : ring.unsent = placesFrom ring.eNextBulkOutPosition sent ++
      placesFrom (ring.eNextBulkOutPosition + sent.flatten.length) rest := by
    rw [layout.unsent, placesFrom_append]
    rfl
  obtain ⟨flight, left⟩ := afterBatch_flight false false taken unsent
    (by omega) (by
      by_cases more : rest ≠ [] ∨ ring.bCurWriting = true
      · exact Or.inl ⟨saved more, rfl⟩
      · obtain ⟨none, idle⟩ := not_or.mp more
        rw [not_not.mp none, List.flatten_nil, List.length_nil] at whole
        exact Or.inr (Or.inl ⟨rfl, by omega, Bool.eq_false_iff.mpr idle⟩))
  have next : (ring.afterBatch batch false).eNextBulkOutPosition =
      ring.eNextBulkOutPosition + sent.flatten.length := position
  have ends : Ends ring (ring.afterBatch batch false) ⟨batch.tmpBulkEndPos, 8⟩ := by
    by_cases more : rest ≠ [] ∨ ring.bCurWriting = true
    · exact ends_saved taken (saved more) (by omega)
    · obtain ⟨none, still⟩ := not_or.mp more
      apply ends_free (by omega)
      · intro placed member
        rw [left, not_not.mp none] at member
        exact absurd member List.not_mem_nil
      · intro writer found
        rw [cur, found] at still
        exact absurd rfl still
  obtain ⟨starts, next_le⟩ := layout.starts_after unsent some_
  refine ⟨⟨⟨⟨?_, le, layout.idle_le, fun _ => ⟨rfl, next.symm⟩,
    fun wrapped => absurd wrapped Bool.false_ne_true, rounds.2, rfl, ?_, ?_, ?_,
    fun wrapped => absurd wrapped Bool.false_ne_true, ?_, starts, next_le⟩, fun _ => flight,
    fun idle => absurd idle.symm Bool.false_ne_true, ?_⟩, cur, idle, ?_⟩, ends⟩
  · apply Shape.straight
    · exact first
    · change ring.eNextBulkOutPosition + 12 < batch.tmpBulkEndPos
      omega
    · change batch.tmpBulkEndPos ≤ ring.curWritePosition
      omega
  · by_cases none : rest = []
    · rw [none]
      rfl
    · have behind := layout.lowerHolds
      rw [List.flatten_append, Memory.holds_append] at behind
      exact afterBatch_holds taken behind.2 (Or.inr le_rfl) (Or.inl (saved (Or.inl none)))
  · change ring.curWritePosition = _
    omega
  · rw [left]
    rfl
  · intro pad
    by_cases none : rest = []
    · right
      right
      have flag : ring.saves batch false = true := pad
      unfold saves at flag
      rw [Bool.not_false, Bool.true_and, Bool.or_eq_true, Bool.and_eq_true, beq_iff_eq,
        decide_eq_true_eq, bne_iff_ne] at flag
      rw [none, List.flatten_nil, List.length_nil] at whole
      change ring.bCurWriting = true
      rw [cur]
      cases found : ring.writer with
      | some writer => rfl
      | none =>
        have still := idle found
        omega
    · exact Or.inr (Or.inl none)
  · apply delivered.take rfl rfl
    simp only [List.nil_append]
  · intro writer found
    obtain ⟨total, at_⟩ := writing writer found
    refine ⟨total, at_.afterBatch taken first (Or.inr ⟨rfl, by omega, saved (Or.inr ?_)⟩) id⟩
    rw [cur, show ring.writer = some writer from found]
    rfl

theorem Layout.wrapped_shape (layout : ring.Layout true upper lower base) :
    8 ≤ ring.nextBulkOutPosition ∧ ring.nextBulkOutPosition + 12 < ring.eNextBulkOutPosition ∧
      ring.curWritePosition + 8 ≤ ring.eNextBulkOutPosition ∧ 8 ≤ ring.curWritePosition := by
  cases layout.shape with
  | wrapped first behind place after => exact ⟨first, behind, by omega, after⟩

/-- A batch that does not reach the end of the round. -/
theorem Inv.wrapped (inv : ring.Inv true upper lower [] base)
    (taken : ring.firstBatch.Sent batch sent) (split : upper = sent ++ rest) (some_ : sent ≠ [])
    (more : rest ≠ []) :
    (ring.afterBatch batch false).Inv true rest lower sent base ∧
      Ends ring (ring.afterBatch batch false) ⟨batch.tmpBulkEndPos, 8⟩ := by
  obtain ⟨⟨layout, flying, landed, delivered⟩, cur, idle, writing⟩ := inv
  obtain ⟨round, based⟩ := layout.round rfl
  obtain ⟨first, behind, below, after⟩ := layout.wrapped_shape
  have position : batch.tmpBulkEndPos = ring.eNextBulkOutPosition + sent.flatten.length :=
    taken.position
  subst split
  have rounds := round.split (fun _ => more)
  have long := rounds.1.flatten_pos some_
  have inside := layout.inside rfl
  rw [List.flatten_append, List.length_append] at inside
  have saved : ring.saves batch false = true := by
    unfold saves
    rw [Bool.not_false, Bool.true_and, Bool.or_eq_true, bne_iff_ne]
    exact Or.inr (by omega)
  have unsent : ring.unsent = placesFrom ring.eNextBulkOutPosition sent ++
      (placesFrom (ring.eNextBulkOutPosition + sent.flatten.length) rest ++
        placesFrom base lower) := by
    rw [layout.unsent, placesFrom_append, List.append_assoc]
  obtain ⟨flight, left⟩ := afterBatch_flight false true taken unsent
    (by omega) (Or.inl ⟨saved, rfl⟩)
  have next : (ring.afterBatch batch false).eNextBulkOutPosition =
      ring.eNextBulkOutPosition + sent.flatten.length := position
  obtain ⟨starts, next_le⟩ := layout.starts_after unsent some_
  refine ⟨⟨⟨⟨?_, layout.cur_le, layout.idle_le, fun open_ => absurd open_.symm Bool.false_ne_true,
    fun _ => ⟨rounds.2, based⟩, layout.rounds, ?_, ?_, layout.cur, ?_, ?_, fun _ => Or.inl rfl,
    starts, next_le⟩, fun _ => flight, fun idle => absurd idle.symm Bool.false_ne_true, ?_⟩, cur, idle, ?_⟩,
    ends_saved taken saved (by omega)⟩
  · apply Shape.wrapped
    · change 8 ≤ ring.eNextBulkOutPosition
      omega
    · change ring.eNextBulkOutPosition + 12 < batch.tmpBulkEndPos
      omega
    · exact Or.inr below
    · exact after
  · rw [next]
    have high := layout.upperHolds
    rw [List.flatten_append, Memory.holds_append] at high
    exact afterBatch_holds taken high.2 (Or.inr le_rfl) (Or.inl saved)
  · apply afterBatch_holds taken layout.lowerHolds
    · left
      rw [← layout.cur]
      omega
    · exact Or.inl saved
  · rw [left, next]
  · intro _
    rw [next]
    omega
  · apply delivered.take rfl rfl
    simp only [List.nil_append, List.append_assoc]
  · intro writer found
    obtain ⟨total, at_⟩ := writing writer found
    exact ⟨total, at_.afterBatch taken (by omega) (Or.inl ⟨rfl, by omega⟩) id⟩

/-- The last batch of a round: `ENextBulkOutPosition` is at the start again. -/
theorem Inv.lastOfRound (inv : ring.Inv true upper lower [] base)
    (taken : ring.firstBatch.Sent batch upper) :
    (ring.afterBatch batch true).Inv false [] lower upper 8 ∧
      Ends ring (ring.afterBatch batch true) ⟨batch.tmpBulkEndPos, 8⟩ := by
  obtain ⟨⟨layout, flying, landed, delivered⟩, cur, idle, writing⟩ := inv
  obtain ⟨round, rfl⟩ := layout.round rfl
  obtain ⟨first, behind, below, after⟩ := layout.wrapped_shape
  have long := round.flatten_pos round.ne_nil
  obtain ⟨flight, left⟩ := afterBatch_flight true false taken
    layout.unsent (layout.inside rfl) (Or.inr (Or.inr ⟨rfl, below⟩))
  have position : batch.tmpBulkEndPos = ring.eNextBulkOutPosition + upper.flatten.length :=
    taken.position
  have ends : Ends ring (ring.afterBatch batch true) ⟨batch.tmpBulkEndPos, 8⟩ := by
    apply ends_free (by rw [position]; exact layout.inside rfl)
    · intro placed member
      rw [left] at member
      have before := (mem_placesFrom member).2.1
      rw [← layout.cur] at before
      omega
    · intro writer found
      obtain ⟨total, at_⟩ := writing writer found
      have short := at_.phase.bytes_le
      have granted := at_.room.below (at_.room.apart rfl)
      have asked := at_.fits.below (at_.room.apart rfl)
      omega
  obtain ⟨starts, next_le⟩ := layout.starts_after layout.unsent round.ne_nil
  refine ⟨⟨⟨⟨?_, layout.cur_le, layout.idle_le, fun _ => ⟨rfl, rfl⟩,
    fun wrapped => absurd wrapped Bool.false_ne_true, layout.rounds, rfl, ?_, layout.cur, ?_,
    fun wrapped => absurd wrapped Bool.false_ne_true,
    fun saved => absurd saved Bool.false_ne_true, starts, next_le⟩, fun _ => flight,
    fun idle => absurd idle.symm Bool.false_ne_true, ?_⟩, cur, idle, ?_⟩, ends⟩
  · apply Shape.taken
    · exact le_refl 8
    · exact after
    · exact below
  · apply afterBatch_holds taken layout.lowerHolds
    · left
      rw [← layout.cur]
      omega
    · right
      rw [← layout.cur]
      omega
  · rw [left]
    rfl
  · apply delivered.take rfl rfl
    simp only [List.nil_append]
  · intro writer found
    obtain ⟨total, at_⟩ := writing writer found
    exact ⟨total, at_.afterBatch taken (by omega) (Or.inl ⟨rfl, by omega⟩)
      (fun wrapped => absurd wrapped Bool.false_ne_true)⟩

end Cases

/-- Where a bulk-out stores: in the frames that it takes, and behind them. -/
def BatchStores (ring next : UsbRing) : Prop :=
  ∀ span ∈ next.stored, span ∈ ring.stored ∨
    span.start + span.count ≤ maxTxbulkSize ∧
      (∃ placed ∈ ring.unsent, placed ∈ next.inFlight ∧
        span.Within ⟨placed.start, placed.frame.length⟩) ∨
    Ends ring next span

theorem bulkOut_idle {setting : BulkSetting}
    (stop : ring.bulkOutPending = true ∨ setting.needStopTx = true ∨ setting.connected = false ∨
      ring.nothingToSend = true) : ring.bulkOutDataPacket setting = ring := by
  unfold bulkOutDataPacket
  rcases stop with pending | halted | apart | nothing
  · rw [pending, Bool.true_or, if_pos rfl]
  · rw [halted, Bool.or_true, if_pos rfl]
  · rw [apart, Bool.not_false, if_pos rfl, ite_self]
  · rw [nothing, if_pos rfl, ite_self, ite_self]

theorem restored_loop {setting : BulkSetting} (turns : Nat) :
    fillBatch setting ring.restore.curWritePosition turns
      ⟨ring.restore.wirelessPacket, ring.eNextBulkOutPosition, 0, none, 0⟩ =
        fillBatch setting ring.curWritePosition turns ring.firstBatch := by
  rw [restore_fields]
  rfl

theorem bulkOut_loop {setting : BulkSetting} (pending : ring.bulkOutPending = false)
    (going : setting.needStopTx = false) (connected : setting.connected = true)
    (some_ : ring.nothingToSend = false) :
    ring.bulkOutDataPacket setting =
      { ring.restore with nextBulkOutPosition := ring.eNextBulkOutPosition }.leaveLoop
        (fillBatch setting ring.curWritePosition bulkTurns ring.firstBatch) := by
  rw [← restored_loop]
  unfold bulkOutDataPacket
  rw [pending, going, connected, some_, Bool.or_self, Bool.not_true, if_neg Bool.false_ne_true,
    if_neg Bool.false_ne_true, if_neg Bool.false_ne_true]

theorem leaveLoop_restored {batch : Batch} (lastRound : Bool) :
    { ring.restore with nextBulkOutPosition := ring.eNextBulkOutPosition }.leaveLoop
      (batch, if lastRound = true then .lastRound else .cut) = ring.afterBatch batch lastRound := by
  rw [← submit_restored]
  cases lastRound <;> rfl

theorem bulkOut_batch {setting : BulkSetting} {batch : Batch} (lastRound : Bool)
    (pending : ring.bulkOutPending = false) (going : setting.needStopTx = false)
    (connected : setting.connected = true) (some_ : ring.nothingToSend = false)
    (filled : fillBatch setting ring.curWritePosition bulkTurns ring.firstBatch =
      (batch, if lastRound = true then .lastRound else .cut)) :
    ring.bulkOutDataPacket setting = ring.afterBatch batch lastRound := by
  rw [bulkOut_loop pending going connected some_, filled, leaveLoop_restored]

/-- A batch that is taken, with the ring that it leaves. -/
structure Took (ring : UsbRing) (batch : Batch) (lastRound : Bool) (sent : List (List UInt8)) :
    Prop where
  taken : ring.firstBatch.Sent batch sent
  some_ : sent ≠ []
  long : ∀ frame ∈ sent, 24 ≤ frame.length
  holds : ring.view.Holds ring.eNextBulkOutPosition sent.flatten
  unsent : ∃ places, ring.unsent = placesFrom ring.eNextBulkOutPosition sent ++ places
  inside : ring.eNextBulkOutPosition + sent.flatten.length + 8 ≤ maxTxbulkSize
  good : (ring.afterBatch batch lastRound).Good
  ends : Ends ring (ring.afterBatch batch lastRound) ⟨batch.tmpBulkEndPos, 8⟩

theorem Took.inFlight {batch : Batch} {lastRound : Bool} {sent : List (List UInt8)}
    (took : ring.Took batch lastRound sent) :
    ring.unsent.take batch.aggregationNum = placesFrom ring.eNextBulkOutPosition sent := by
  obtain ⟨places, unsent⟩ := took.unsent
  have count : batch.aggregationNum = (placesFrom ring.eNextBulkOutPosition sent).length := by
    rw [length_placesFrom]
    exact took.taken.count.trans (Nat.zero_add _)
  rw [unsent, count]
  exact List.take_left

theorem Took.stores {batch : Batch} {lastRound : Bool} {sent : List (List UInt8)}
    (took : ring.Took batch lastRound sent) :
    BatchStores ring (ring.afterBatch batch lastRound) := by
  have inFlight : (ring.afterBatch batch lastRound).inFlight =
      placesFrom ring.eNextBulkOutPosition sent := took.inFlight
  have inside := took.inside
  have frames : ∀ placed ∈ placesFrom ring.eNextBulkOutPosition sent, ∀ span : Span,
      span.Within ⟨placed.start, placed.frame.length⟩ →
        span.start + span.count ≤ maxTxbulkSize ∧
          (∃ placed ∈ ring.unsent, placed ∈ (ring.afterBatch batch lastRound).inFlight ∧
            span.Within ⟨placed.start, placed.frame.length⟩) := by
    intro placed member span within
    obtain ⟨_, before, _⟩ := mem_placesFrom member
    refine ⟨?_, placed, ?_, ?_, within⟩
    · have last := within.2
      dsimp only at last
      omega
    · obtain ⟨places, unsent⟩ := took.unsent
      rw [unsent]
      exact List.mem_append_left _ member
    · rw [inFlight]
      exact member
  intro span member
  have listed : span ∈ ring.restore.stored ++
      txinfoSpans (ring.unsent.take batch.aggregationNum) ++ [⟨batch.tmpBulkEndPos, 8⟩] := member
  rcases List.mem_append.mp listed with front | zeros
  · rcases List.mem_append.mp front with restored | flags
    · unfold restore at restored
      split_ifs at restored
      · rcases List.mem_append.mp restored with old | pad
        · exact Or.inl old
        · rw [List.mem_singleton.mp pad]
          right
          left
          obtain ⟨frame, rest, rfl⟩ := List.exists_cons_of_ne_nil took.some_
          apply frames ⟨ring.eNextBulkOutPosition, frame⟩ List.mem_cons_self
          have long := took.long frame List.mem_cons_self
          rw [Memory.length_bytes]
          exact ⟨le_rfl, by dsimp only; unfold savedPadSize; omega⟩
      · exact Or.inl restored
    · right
      left
      rw [took.inFlight] at flags
      obtain ⟨placed, place, rfl⟩ := List.mem_map.mp flags
      have long := took.long placed.frame (mem_placesFrom place).2.2
      exact frames placed place _ ⟨by dsimp only; omega, by dsimp only; omega⟩
  · rw [List.mem_singleton.mp zeros]
    exact Or.inr (Or.inr took.ends)

/-- `RTUSBBulkOutDataPacket` leaves the ring, or takes a batch out of it. -/
theorem Good.bulkOut_cases (good : ring.Good) (setting : BulkSetting) :
    ring.bulkOutDataPacket setting = ring ∨
      ∃ batch lastRound sent, ring.Took batch lastRound sent ∧
        ring.bulkOutDataPacket setting = ring.afterBatch batch lastRound := by
  cases pending : ring.bulkOutPending with
  | true => exact Or.inl (bulkOut_idle (Or.inl pending))
  | false =>
  cases going : setting.needStopTx with
  | true => exact Or.inl (bulkOut_idle (Or.inr (Or.inl going)))
  | false =>
  cases connected : setting.connected with
  | false => exact Or.inl (bulkOut_idle (Or.inr (Or.inr (Or.inl connected))))
  | true =>
  cases nothing : ring.nothingToSend with
  | true => exact Or.inl (bulkOut_idle (Or.inr (Or.inr (Or.inr nothing))))
  | false =>
  right
  obtain ⟨wraps, upper, lower, flight, base, inv⟩ := good
  obtain ⟨rfl, _⟩ := inv.held.landed pending
  have layout := inv.held.layout
  have left : ring.unsent ≠ [] := by
    intro none
    rw [layout.nothingToSend_iff.mpr none] at nothing
    exact absurd nothing.symm Bool.false_ne_true
  have turn : 1 ≤ bulkTurns ∧ 0x8000 ≤ 0 + 2 * (bulkTurns - 1) := by
    unfold bulkTurns
    omega
  cases wraps with
  | true =>
    obtain ⟨round, _⟩ := layout.round rfl
    have below := layout.wrapped_shape.2.2.1
    have reaches : Reaches true ring.eNextBulkOutPosition ring.curWritePosition upper := by
      change ring.curWritePosition < ring.eNextBulkOutPosition
      omega
    have holds := layout.upperHolds
    obtain ⟨sent, rest, split, _, taken, more, ended⟩ := fillBatch_sent setting _ round
      (show ring.firstBatch.mem.Holds ring.firstBatch.tmpBulkEndPos _ from holds)
      reaches turn.1 turn.2
    have some_ := more rfl round.ne_nil
    have taken := taken some_
    have inside := layout.inside rfl
    by_cases none : rest = []
    · subst none
      rw [List.append_nil] at split
      subst split
      rw [if_pos ⟨rfl, rfl⟩] at ended
      obtain ⟨kept, ends⟩ := inv.lastOfRound taken
      exact ⟨_, true, _, ⟨taken, some_, round.frame_pos, holds, ⟨_, layout.unsent⟩, inside,
        kept.good, ends⟩, bulkOut_batch true pending going connected nothing (Prod.ext rfl ended)⟩
    · rw [if_neg fun both => none both.2] at ended
      obtain ⟨kept, ends⟩ := inv.wrapped taken split some_ none
      subst split
      rw [List.flatten_append, List.length_append] at inside
      rw [List.flatten_append, Memory.holds_append] at holds
      have unsent := layout.unsent
      rw [placesFrom_append, List.append_assoc] at unsent
      exact ⟨_, false, _, ⟨taken, some_, (round.split fun _ => none).1.frame_pos, holds.1,
        ⟨_, unsent⟩, by omega, kept.good, ends⟩,
        bulkOut_batch false pending going connected nothing (Prod.ext rfl ended)⟩
  | false =>
    obtain ⟨rfl, rfl⟩ := layout.straight rfl
    have reaches : Reaches false ring.eNextBulkOutPosition ring.curWritePosition lower := layout.cur
    have unsent := layout.unsent
    have remaining : lower ≠ [] := by
      rintro rfl
      exact left unsent
    have holds := layout.lowerHolds
    obtain ⟨sent, rest, split, _, taken, more, ended⟩ := fillBatch_sent setting _ layout.rounds
      (show ring.firstBatch.mem.Holds ring.firstBatch.tmpBulkEndPos _ from holds)
      reaches turn.1 turn.2
    have some_ := more rfl remaining
    have taken := taken some_
    rw [if_neg fun both => Bool.false_ne_true both.1] at ended
    obtain ⟨kept, ends⟩ := inv.straight taken split some_
    have cur := layout.cur
    have le := layout.cur_le
    have limit : maxTxbulkLimit = 202752 := by decide
    have size : maxTxbulkSize = 204800 := by decide
    subst split
    rw [List.flatten_append, List.length_append] at cur
    rw [List.flatten_append, Memory.holds_append] at holds
    rw [placesFrom_append] at unsent
    exact ⟨_, false, _, ⟨taken, some_,
      (layout.rounds.split fun wrapped => absurd wrapped Bool.false_ne_true).1.frame_pos, holds.1,
      ⟨_, unsent⟩, by omega, kept.good, ends⟩,
      bulkOut_batch false pending going connected nothing (Prod.ext rfl ended)⟩

/-- `RTUSBBulkOutDataPacket` keeps the invariant. -/
theorem Good.bulkOut (good : ring.Good) (setting : BulkSetting) :
    (ring.bulkOutDataPacket setting).Good ∧
      BatchStores ring (ring.bulkOutDataPacket setting) := by
  rcases good.bulkOut_cases setting with same | ⟨batch, lastRound, sent, took, after⟩
  · rw [same]
    exact ⟨good, fun span member => Or.inl member⟩
  · rw [after]
    exact ⟨took.good, took.stores⟩

/-- The transfer is done. -/
theorem Good.bulkOutComplete (good : ring.Good) :
    ring.bulkOutComplete.Good ∧ ring.bulkOutComplete.stored = ring.stored := by
  unfold UsbRing.bulkOutComplete
  split_ifs with pending
  · obtain ⟨wraps, upper, lower, flight, base, ⟨layout, flying, landed, delivered⟩, cur, idle,
      writing⟩ := good
    obtain ⟨_, size, holds, _, _⟩ := flying pending
    obtain ⟨shape, cur_le, idle_le, straight, round, rounds, upperHolds, lowerHolds, place, unsent,
      inside, saved, starts, next_le⟩ := layout
    refine ⟨⟨wraps, upper, lower, [], base, ⟨⟨shape, cur_le, idle_le, straight, round, rounds,
      upperHolds, lowerHolds, place, unsent, inside, saved, starts, next_le⟩, ?_,
      fun _ => ⟨rfl, rfl⟩, ?_⟩, cur, idle, ?_⟩, rfl⟩
    · exact fun still => absurd still Bool.false_ne_true
    · obtain ⟨batches, transfers, written⟩ := delivered
      refine ⟨batches ++ [flight], ?_, ?_⟩
      · change ring.transfers ++ [ring.wirelessPacket.bytes ring.nextBulkOutPosition
          ring.bulkOutSize] = _
        have sent : ring.wirelessPacket.bytes ring.nextBulkOutPosition ring.bulkOutSize =
            asSent flight ++ List.replicate 4 0 := by
          have length : ring.bulkOutSize = (asSent flight ++ List.replicate 4 (0 : UInt8)).length := by
            rw [size, List.length_append, length_asSent, List.length_replicate]
          rw [length]
          exact holds
        rw [transfers, sent, List.map_append]
        rfl
      · change ring.written = _
        rw [written, List.flatten_append, List.flatten_singleton, List.nil_append,
          List.append_assoc]
    · intro writer found
      obtain ⟨total, phase, room, fits, holds, ahead, ending, starts, start⟩ := writing writer found
      exact ⟨total, phase, room, fits, holds, ahead, ending, starts, start⟩
  · exact ⟨good, rfl⟩

end UsbRing

end Mt7612u.Transmit
