import Mt7612u.Transmit.UsbWriters

/-! How a write ends: the packet is copied, the lengths are filled in, and the frames are handed
over to `RTUSBBulkOutDataPacket`. -/

namespace Mt7612u.Transmit
open Receive (Memory Span align4)

/-- What `RtmpUSB_FinalWriteTxResource` makes of the byte number `i` of a frame. -/
def finalByte (usbDmaPktLen totalMPDUSize : Nat) (last : Bool) (byte : UInt8) (i : Nat) : UInt8 :=
  if i = 0 then lowByte usbDmaPktLen
  else if i = 1 then highByte usbDmaPktLen
  else if i = 2 then if last then byte ||| 0x04 else byte
  else if i = 10 then lowByte totalMPDUSize
  else if i = 11 then byte &&& 0xc0 ||| highByte totalMPDUSize &&& 0x3f
  else byte

theorem write_two (mem : Memory) (at_ : Nat) (first second : UInt8) (address : Nat) :
    mem.write at_ [first, second] address =
      if address = at_ then first else if address = at_ + 1 then second else mem address := by
  split_ifs with one two
  · subst one
    simp [Memory.write]
  · subst two
    simp [Memory.write]
  · rcases Nat.lt_or_ge address at_ with before | behind
    · exact mem.write_before _ before
    · exact mem.write_after (by simp only [List.length_cons, List.length_nil]; omega)

theorem finalLengths_at (mem : Memory) (start usbDmaPktLen totalMPDUSize : Nat) (last : Bool)
    (i : Nat) :
    finalLengths mem start usbDmaPktLen totalMPDUSize last (start + i) =
      finalByte usbDmaPktLen totalMPDUSize last (mem (start + i)) i := by
  have counted : setMpduTotalByteCnt (setPktLen mem start usbDmaPktLen) (start + mtDmaHdrLen)
      totalMPDUSize (start + i) = finalByte usbDmaPktLen totalMPDUSize false (mem (start + i)) i := by
    unfold setMpduTotalByteCnt setPktLen finalByte mtDmaHdrLen
    have zero : start + i = start ↔ i = 0 := by omega
    have one : start + i = start + 1 ↔ i = 1 := by omega
    have ten : start + i = start + 4 + 6 ↔ i = 10 := by omega
    have eleven : start + i = start + 4 + 6 + 1 ↔ i = 11 := by omega
    simp only [write_two, zero, one, ten, eleven, Bool.false_eq_true, if_false]
    by_cases last : i = 11
    · subst last
      rw [if_neg (by decide), if_pos rfl, if_neg (by omega), if_neg (by omega)]
      rfl
    · split_ifs <;> first | rfl | omega
  cases last with
  | false => exact counted
  | true =>
    have flagged : finalLengths mem start usbDmaPktLen totalMPDUSize true =
        setSwLstRnd (setMpduTotalByteCnt (setPktLen mem start usbDmaPktLen) (start + mtDmaHdrLen)
          totalMPDUSize) start := rfl
    rw [flagged, setSwLstRnd, Batch.write_one]
    by_cases two : i = 2
    · subst two
      rw [if_pos rfl, counted]
      rfl
    · rw [if_neg (by omega), counted]
      unfold finalByte
      rw [if_neg two, if_neg two]

/-- Behind its TXWI a frame stays. -/
theorem finalByte_behind {usbDmaPktLen totalMPDUSize i : Nat} {last : Bool} {byte : UInt8}
    (behind : 12 ≤ i) : finalByte usbDmaPktLen totalMPDUSize last byte i = byte := by
  unfold finalByte
  rw [if_neg (by omega), if_neg (by omega), if_neg (by omega), if_neg (by omega),
    if_neg (by omega)]

theorem finalLengths_before (mem : Memory) {start usbDmaPktLen totalMPDUSize address : Nat}
    {last : Bool} (before : address < start) :
    finalLengths mem start usbDmaPktLen totalMPDUSize last address = mem address := by
  have counted : setMpduTotalByteCnt (setPktLen mem start usbDmaPktLen) (start + mtDmaHdrLen)
      totalMPDUSize address = mem address := by
    unfold setMpduTotalByteCnt setPktLen
    rw [Memory.write_before _ _ (by omega), Memory.write_before _ _ before]
  cases last with
  | false => exact counted
  | true => exact (Memory.write_before _ _ (by omega)).trans counted

/-- A frame is finished in the ring as it is finished by itself. -/
theorem finalLengths_holds {mem : Memory} {start : Nat} {laid : List UInt8}
    (holds : mem.Holds start laid) (usbDmaPktLen totalMPDUSize : Nat) (last : Bool) :
    (finalLengths mem start usbDmaPktLen totalMPDUSize last).Holds start
      ((finalLengths (ofBytes laid) 0 usbDmaPktLen totalMPDUSize last).bytes 0 laid.length) := by
  rw [holds_iff, Memory.length_bytes]
  intro i below
  have alone := holds_bytes_zero
    (finalLengths (ofBytes laid) 0 usbDmaPktLen totalMPDUSize last) [] below
  rw [List.append_nil] at alone
  have shifted := finalLengths_at (ofBytes laid) 0 usbDmaPktLen totalMPDUSize last i
  rw [Nat.zero_add] at shifted
  rw [alone, finalLengths_at, shifted, holds_iff.mp holds i below]

theorem framed_final {laid : List UInt8} (headed : UsbRing.Headed laid) (totalMPDUSize : Nat) (last : Bool)
    (short : mtDmaHdrLen + align4 (laid.length - mtDmaHdrLen) ≤ maxFrameLen) :
    Framed last (finalFrame laid totalMPDUSize last) := by
  have longest : maxFrameLen = 3868 := by decide
  have long := headed.long
  have up := align4_le (laid.length - mtDmaHdrLen)
  have byte (i : Nat) := finalLengths_at (ofBytes laid) 0 (align4 (laid.length - mtDmaHdrLen))
    totalMPDUSize last i
  simp only [Nat.zero_add] at byte
  apply framed_of_header long _ _ _ _ short
  · unfold pktLen
    rw [byte 0, Nat.zero_add, byte 1]
    exact lowByte_highByte (by omega)
  · rw [byte 3]
    exact headed.qsel
  · have closed := headed.swLstRnd
    unfold swLstRnd at closed ⊢
    rw [byte 2]
    cases last with
    | false => exact closed
    | true =>
      exact forall_byte (fun byte => ((byte ||| 0x04) &&& 0x04 == 0x04) = true) (by decide +kernel) _
  · rw [List.length_replicate]
    omega

/-- Memory that differs in one block only. -/
theorem write_bytes {mem changed : Memory} {start count : Nat}
    (same : ∀ address, address < start ∨ start + count ≤ address → changed address = mem address) :
    mem.write start (changed.bytes start count) = changed := by
  funext address
  by_cases inside : start ≤ address ∧ address < start + count
  · have found := holds_iff.mp (Memory.write_holds mem start (changed.bytes start count))
      (address - start) (by rw [Memory.length_bytes]; omega)
    have bytes := holds_iff.mp (show changed.Holds start (changed.bytes start count) by
      unfold Memory.Holds
      rw [Memory.length_bytes]) (address - start) (by rw [Memory.length_bytes]; omega)
    rw [Nat.add_sub_cancel' inside.1] at found bytes
    rw [found, bytes]
  · rw [same address (by omega)]
    rcases Nat.lt_or_ge address start with before | behind
    · exact mem.write_before _ before
    · exact mem.write_after (by rw [Memory.length_bytes]; omega)

namespace UsbRing

variable {ring : UsbRing} {wraps : Bool} {upper lower flight : List (List UInt8)} {base : Nat}
  {pTxBlk : TxBlk}

theorem Adds.trans {next last : UsbRing} (one : ring.Adds next) (two : next.Adds last)
    (same : ∀ span, next.Apart span → ring.Apart span) : ring.Adds last := by
  intro span member
  rcases two span member with old | new
  · exact one span old
  · exact Or.inr (same span new)

/-- Bytes go behind those that the writer has in the ring. -/
theorem Held.layMore (held : ring.Held wraps upper lower flight base)
    (writing : ring.bCurWriting = true) {reqCnt total : Nat} (more : List UInt8)
    (room : Room ring.toHtTxContext wraps reqCnt) (fits : Fits ring.toHtTxContext reqCnt total)
    {old : List UInt8} (holds : ring.view.Holds ring.curWritePosition old)
    (eight : 8 ≤ old.length) (ends : old.length + more.length ≤ total + 8) :
    (ring.put (ring.curWritePosition + old.length) more).Held wraps upper lower flight base ∧
      (ring.put (ring.curWritePosition + old.length) more).view.Holds ring.curWritePosition
        (old ++ more) ∧
      ring.Apart ⟨ring.curWritePosition + old.length, more.length⟩ := by
  apply held.layHeader writing more room fits holds _ (fun _ => eight) ends
  intro none
  rw [none] at eight
  exact absurd eight (by decide)

/-- The packet is copied behind its header. -/
theorem Good.copySrcBuf (good : ring.Good) {writer : Writer} {copy : Copy}
    (found : ring.writer = some writer) (copying : writer.copy = some copy) :
    ring.Kept (ring.copySrcBuf writer copy) := by
  obtain ⟨wraps, upper, lower, flight, base, inv⟩ := good
  obtain ⟨total, phase, room, fits, holds, ahead, ending, starts, start⟩ :=
    inv.writing writer found
  have writing : ring.bCurWriting = true := by
    rw [inv.bCurWriting, found]
    rfl
  cases phase with
  | fragment _ _ => exact absurd copying.symm (Option.some_ne_none _)
  | aggregate _ _ _ _ => exact absurd copying.symm (Option.some_ne_none _)
  | @copying reqCnt priv padding position frames _ header srcBuf rounds long whole place =>
    cases copying
    subst place
    have seen : ring.view.Holds ring.curWritePosition (frames.flatten ++ header) := holds
    have frame : (frames ++ [header ++ srcBuf ++ List.replicate padding 0]).flatten =
        frames.flatten ++ header ++ srcBuf ++ List.replicate padding 0 := by
      simp only [List.flatten_append, List.flatten_singleton, List.append_assoc]
    have eight : 8 ≤ (frames.flatten ++ header).length := by
      simp only [mtDmaHdrLen, txwiSize] at long
      rw [List.length_append]
      omega
    have joined : (frames.flatten ++ header ++ srcBuf).length =
        (frames.flatten ++ header).length + srcBuf.length := List.length_append
    subst whole
    rw [frame] at fits ending
    have parts : (frames.flatten ++ header ++ srcBuf ++ List.replicate padding 0).length =
        (frames.flatten ++ header).length + srcBuf.length + padding := by
      rw [List.length_append, joined, List.length_replicate]
    obtain ⟨first, seen, apart⟩ := inv.held.layMore writing srcBuf room fits seen eight
      (by rw [parts]; omega)
    have grown : 8 ≤ (frames.flatten ++ header ++ srcBuf).length := by
      rw [joined]
      omega
    obtain ⟨second, all, behind⟩ := first.layMore writing (List.replicate (padding + 8) 0) room
      fits seen grown (by
        rw [parts, joined, List.length_replicate]
        omega)
    rw [joined, ← Nat.add_assoc] at second all behind
    have zeros : frames.flatten ++ header ++ srcBuf ++ List.replicate (padding + 8) 0 =
        frames.flatten ++ header ++ srcBuf ++ List.replicate padding 0 ++ List.replicate 8 0 := by
      rw [List.replicate_add, ← List.append_assoc]
    rw [zeros] at all
    have front := (Memory.holds_append.mp all).1
    refine ⟨Inv.good ⟨second.writer _ _ _, writing, fun none => absurd none (Option.some_ne_none _),
      ?_⟩, ?_⟩
    · intro writer found
      cases found
      refine ⟨(frames ++ [header ++ srcBuf ++ List.replicate padding 0]).flatten.length, ?_, room,
        ?_, ?_, ahead, ?_, ?_, fun none => absurd rfl none⟩
      · exact Writer.Phase.fragment rounds (List.append_ne_nil_of_right_ne_nil _
          (List.cons_ne_nil _ _))
      · rw [frame]
        exact fits
      · unfold Writer.bytes
        rw [frame, List.append_nil]
        exact front
      · intro last closing
        have flag := ending last closing
        rw [frame]
        exact flag
      · intro placed member
        have listed : placed ∈ placesFrom ring.curWritePosition
            (frames ++ [header ++ srcBuf ++ List.replicate padding 0]) := member
        rw [placesFrom_append] at listed
        rcases List.mem_append.mp listed with front | last
        · exact starts placed front
        · rw [List.mem_singleton.mp last]
          apply start
          intro none
          have short := congrArg List.length none
          exact absurd (long.trans_eq short) (by decide)
    · have one : ring.Adds (ring.put (ring.curWritePosition + (frames.flatten ++ header).length)
          srcBuf) := adds_put rfl apart
      apply one.trans _ (fun _ away => ⟨away.inside, away.unsent, away.inFlight⟩)
      exact adds_put rfl behind
  | @aggregating reqCnt priv position laid srcBuf long qsel ends same place =>
    cases copying
    subst place
    subst same
    have eight : 8 ≤ laid.length := long.trans' (by decide)
    have up := (align4_le (laid.length + srcBuf.length - mtDmaHdrLen)).1
    have seen : ring.view.Holds ring.curWritePosition laid := holds
    obtain ⟨first, seen, apart⟩ := inv.held.layMore writing srcBuf room fits seen eight (by omega)
    refine ⟨Inv.good ⟨first.writer _ _ _, writing, fun none => absurd none (Option.some_ne_none _),
      ?_⟩, adds_put rfl apart⟩
    intro writer found
    cases found
    refine ⟨_, ?_, room, fits, seen, ahead, fun last none => absurd none.symm
      (Option.some_ne_none _), fun _ none => absurd none List.not_mem_nil,
      fun _ => inv.held.layout.cur_le⟩
    have headed := Headed.append ⟨long, qsel, ends⟩ srcBuf
    exact Writer.Phase.aggregate headed.long headed.qsel headed.swLstRnd List.length_append.symm

/-- Frames of a writer that are complete are handed over; where they end the round, they and those
before them are the upper part of the ring. -/
theorem Held.finish (held : ring.Held wraps upper lower flight base)
    (writing : ring.bCurWriting = true) {reqCnt : Nat} {frames : List (List UInt8)} {last : Bool}
    (rounds : Rounds last frames) (some_ : frames ≠ [])
    (room : Room ring.toHtTxContext wraps reqCnt)
    (fits : Fits ring.toHtTxContext reqCnt frames.flatten.length)
    (holds : ring.view.Holds ring.curWritePosition frames.flatten)
    (ends : last =
      decide (maxTxbulkLimit < ring.curWritePosition + frames.flatten.length + 3906))
    (starts : ∀ placed ∈ placesFrom ring.curWritePosition frames, StartsIn placed) :
    (ring.finish frames
      (if last then 8 else ring.curWritePosition + frames.flatten.length)).Good := by
  obtain ⟨layout, flying, landed, delivered⟩ := held
  have long := rounds.flatten_pos some_
  have longest : maxFrameLen = 3868 := by decide
  have limit : maxTxbulkLimit = 202752 := by decide
  have size : maxTxbulkSize = 204800 := by decide
  have short := fits.short
  have le := layout.cur_le
  have granted : ring.curWritePosition < ring.nextBulkOutPosition →
      ring.curWritePosition + frames.flatten.length + 8 ≤ ring.nextBulkOutPosition ∧
        ring.curWritePosition + frames.flatten.length + 3906 ≤ maxTxbulkLimit := by
    intro under
    have asked := room.below under
    have taken := fits.below under
    have next := layout.next_le
    exact ⟨by omega, by omega⟩
  have all : ∀ placed ∈ ring.unsent ++ placesFrom ring.curWritePosition frames, StartsIn placed := by
    intro placed member
    rcases List.mem_append.mp member with old | new
    · exact layout.starts placed old
    · exact starts placed new
  obtain ⟨batches, transfers, written⟩ := delivered
  have whole : (lower ++ frames).flatten = lower.flatten ++ frames.flatten := List.flatten_append
  have length : (lower ++ frames).flatten.length = lower.flatten.length + frames.flatten.length := by
    rw [whole, List.length_append]
  have cur := layout.cur
  have both : ring.view.Holds base (lower ++ frames).flatten := by
    rw [whole, Memory.holds_append, ← cur]
    exact ⟨layout.lowerHolds, holds⟩
  cases last with
  | false =>
    have room_left := Nat.not_lt.mp (of_decide_eq_false ends.symm)
    have inv : (ring.finish frames (ring.curWritePosition + frames.flatten.length)).Inv wraps upper
        (lower ++ frames) flight base := by
      refine ⟨⟨⟨?_, ?_, ?_, layout.straight, layout.round, layout.rounds.append rounds,
        layout.upperHolds, both, ?_, ?_, layout.inside, ?_, all, layout.next_le⟩, ?_, landed, ?_⟩,
        rfl, fun _ => rfl,
        fun writer none => absurd none.symm (Option.some_ne_none _)⟩
      · cases layout.shape with
        | fresh zero zeros =>
          apply Shape.fresh
          · exact zero
          right
          rcases zeros with ⟨_, _, idle⟩ | ⟨eight, after, _⟩
          · rw [writing] at idle
            exact absurd idle.symm Bool.false_ne_true
          · exact ⟨eight, by change 8 ≤ ring.curWritePosition + _; omega, fun same => absurd
              (show ring.curWritePosition + frames.flatten.length = 8 from same) (by omega)⟩
        | straight first behind le =>
          exact Shape.straight first behind (le.trans (Nat.le_add_right _ _))
        | taken first le above =>
          exact Shape.taken first (le.trans (Nat.le_add_right _ _)) (granted (by omega)).1
        | wrapped first behind _ after =>
          exact Shape.wrapped first behind (Or.inr (granted (room.apart rfl)).1)
            (after.trans (Nat.le_add_right _ _))
      · change ring.curWritePosition + frames.flatten.length + 3898 ≤ _
        omega
      · intro _
        exact room_left
      · change ring.curWritePosition + frames.flatten.length = _
        rw [length, ← Nat.add_assoc, ← cur]
      · change ring.unsent ++ placesFrom ring.curWritePosition frames =
          placesFrom ring.eNextBulkOutPosition upper ++ placesFrom base (lower ++ frames)
        rw [layout.unsent, placesFrom_append, ← cur, List.append_assoc]
      · exact fun _ => Or.inr (Or.inl (List.append_ne_nil_of_right_ne_nil _ some_))
      · intro pending
        obtain ⟨inFlight, size, holds, inside, apart⟩ := flying pending
        refine ⟨inFlight, size, holds, inside, ?_⟩
        rcases apart with behind | ⟨same, saved | ⟨_, idle⟩⟩ | ⟨open_, above⟩
        · exact Or.inl behind
        · exact Or.inr (Or.inl ⟨same, Or.inl saved⟩)
        · rw [writing] at idle
          exact absurd idle.symm Bool.false_ne_true
        · exact Or.inr (Or.inr ⟨open_, (granted (by omega)).1⟩)
      · refine ⟨batches, transfers, ?_⟩
        change ring.written ++ frames = _
        rw [written]
        simp only [List.append_assoc]
    rw [if_neg Bool.false_ne_true]
    exact inv.good
  | true =>
    have beyond := of_decide_eq_true ends.symm
    have above : ring.nextBulkOutPosition ≤ ring.curWritePosition := by
      by_contra under
      have below := granted (by omega)
      omega
    cases wraps with
    | true => exact absurd (room.apart rfl) (by omega)
    | false =>
      obtain ⟨rfl, rfl⟩ := layout.straight rfl
      have shape : 8 ≤ ring.nextBulkOutPosition ∧
          ring.nextBulkOutPosition + 12 < ring.eNextBulkOutPosition := by
        cases layout.shape with
        | fresh zero _ =>
          have first := room.fresh zero
          omega
        | straight first behind _ => exact ⟨first, behind⟩
        | taken _ _ _ => omega
      have inv : (ring.finish frames 8).Inv true (lower ++ frames) [] flight 8 := by
        refine ⟨⟨⟨?_, ?_, ?_, fun none => absurd none.symm Bool.false_ne_true,
          fun _ => ⟨layout.rounds.append rounds, rfl⟩, Rounds.nil, both, rfl, rfl, ?_, ?_,
          fun _ => Or.inl rfl, all, layout.next_le⟩, ?_, landed, ?_⟩, rfl, fun _ => rfl,
          fun writer none => absurd none.symm (Option.some_ne_none _)⟩
        · exact Shape.wrapped shape.1 shape.2 (Or.inl rfl) le_rfl
        · change 8 + 3898 ≤ maxTxbulkLimit
          omega
        · intro _
          change 8 + 3906 ≤ maxTxbulkLimit
          omega
        · change ring.unsent ++ placesFrom ring.curWritePosition frames =
            placesFrom ring.eNextBulkOutPosition (lower ++ frames) ++ []
          rw [layout.unsent, placesFrom_append, ← cur, List.append_nil]
          rfl
        · intro _
          change ring.eNextBulkOutPosition + (lower ++ frames).flatten.length + 8 ≤ _
          omega
        · intro pending
          obtain ⟨inFlight, size, holds, inside, apart⟩ := flying pending
          refine ⟨inFlight, size, holds, inside, ?_⟩
          rcases apart with behind | ⟨same, saved | ⟨_, idle⟩⟩ | ⟨_, _⟩
          · exact Or.inl behind
          · exact Or.inr (Or.inl ⟨same, Or.inl saved⟩)
          · rw [writing] at idle
            exact absurd idle.symm Bool.false_ne_true
          · omega
        · refine ⟨batches, transfers, ?_⟩
          change ring.written ++ frames = _
          rw [written]
          simp only [List.append_assoc, List.nil_append, List.append_nil]
      rw [if_pos rfl]
      exact inv.good

theorem Good.leave (good : ring.Good) {writer : Writer} {last : Bool}
    (found : ring.writer = some writer) (ended : writer.ending = some last)
    (copied : writer.copy = none) : ring.Kept (ring.leave writer last) := by
  obtain ⟨wraps, upper, lower, flight, base, inv⟩ := good
  obtain ⟨total, phase, room, fits, holds, _, ending, starts, _⟩ := inv.writing writer found
  have writing : ring.bCurWriting = true := by
    rw [inv.bCurWriting, found]
    rfl
  have flag := ending last ended
  cases phase with
  | aggregate _ _ _ _ => exact absurd ended.symm (Option.some_ne_none _)
  | aggregating _ _ _ _ _ => exact absurd ended.symm (Option.some_ne_none _)
  | copying _ _ _ _ => exact absurd copied (Option.some_ne_none _)
  | @fragment _ frames _ rounds some_ =>
    cases ended
    have seen : ring.view.Holds ring.curWritePosition frames.flatten := by
      have all := holds
      unfold Writer.bytes at all
      rwa [List.append_nil] at all
    have whole : Rounds last frames := by
      cases last <;> exact rounds
    exact ⟨inv.held.finish writing whole some_ room fits seen flag starts, adds_same ring⟩

/-- In free space the ring shows its own bytes. -/
theorem Layout.view_free (layout : ring.Layout wraps upper lower base) {position count : Nat}
    (free : ring.Free wraps position count) {address : Nat} (after : position ≤ address)
    (before : address < position + count) : ring.view address = ring.wirelessPacket address := by
  unfold view
  split_ifs with saved
  · rcases layout.apart_saved free saved with below | behind
    · exact Memory.write_before _ _ (by omega)
    · apply Memory.write_after
      rw [Memory.length_bytes]
      exact behind.trans after
  · rfl

theorem Apart.within {span inner : Span} (apart : ring.Apart span) (within : inner.Within span) :
    ring.Apart inner := by
  obtain ⟨after, before⟩ := within
  constructor
  · exact before.trans apart.inside
  · intro placed member
    rcases apart.unsent placed member with below | behind
    · exact Or.inl (before.trans below)
    · exact Or.inr (behind.trans after)
  · intro pending
    rcases apart.inFlight pending with below | behind
    · exact Or.inl (before.trans below)
    · exact Or.inr (behind.trans after)

/-- The last call for an aggregate: its lengths go to the ring, unless its first bytes are in
`SavedPad`. -/
theorem Good.finalWrite (good : ring.Good) {writer : Writer} (found : ring.writer = some writer)
    (copied : writer.copy = none) (single : writer.frames = []) (unsaved : ring.inSavedPad = false)
    (totalMPDUSize : Nat) : ring.Kept (ring.finalWriteTxResource writer pTxBlk totalMPDUSize) := by
  obtain ⟨wraps, upper, lower, flight, base, inv⟩ := good
  obtain ⟨total, phase, room, fits, holds, ahead, _, _, _⟩ := inv.writing writer found
  have writing : ring.bCurWriting = true := by
    rw [inv.bCurWriting, found]
    rfl
  cases phase with
  | fragment _ some_ => exact absurd single some_
  | copying _ _ _ _ => exact absurd copied (Option.some_ne_none _)
  | aggregating _ _ _ _ _ => exact absurd copied (Option.some_ne_none _)
  | @aggregate reqCnt priv laid long qsel ends same =>
    subst same
    have seen : ring.view.Holds ring.curWritePosition laid := holds
    have headed : Headed laid := ⟨long, qsel, ends⟩
    let start := ring.curWritePosition
    let len := align4 (laid.length - mtDmaHdrLen)
    let last := decide (maxTxbulkLimit < start + (mtDmaHdrLen + len) + 3906)
    let zeros : List UInt8 := List.replicate (len - (laid.length - mtDmaHdrLen) + 8) 0
    let changed := (finalLengths ring.wirelessPacket start len totalMPDUSize last).write
      (start + laid.length) zeros
    have up := align4_le (laid.length - mtDmaHdrLen)
    have wide : laid.length ≤ mtDmaHdrLen + len := by omega
    have twelve : 24 ≤ laid.length := long
    have free : ring.Free wraps start (mtDmaHdrLen + len + 8) := by
      apply inv.held.free writing room fits le_rfl _ (by omega)
      intro at_ saved
      unfold BulkRing.inSavedPad at unsaved
      rw [at_, saved] at unsaved
      simp at unsaved
    have raw : ring.wirelessPacket.Holds start laid := by
      rw [holds_iff] at seen ⊢
      intro i below
      rw [← seen i below, inv.held.layout.view_free free (by omega) (by omega)]
    have outside : ∀ address, address < start ∨ start + (mtDmaHdrLen + len + 8) ≤ address →
        changed address = ring.wirelessPacket address := by
      intro address away
      rcases away with before | behind
      · exact (Memory.write_before _ _ (by omega)).trans (finalLengths_before _ before)
      · have after : start + laid.length + zeros.length ≤ address := by
          rw [List.length_replicate]
          omega
        obtain ⟨i, rfl⟩ := Nat.exists_eq_add_of_le (show start ≤ address by omega)
        exact (Memory.write_after _ after).trans ((finalLengths_at _ _ _ _ _ _).trans
          (finalByte_behind (by omega)))
    have finished : changed.Holds start
        (finalFrame laid totalMPDUSize last ++ List.replicate 8 0) := by
      have front := finalLengths_holds raw len totalMPDUSize last
      have length := Memory.length_bytes
        (finalLengths (ofBytes laid) 0 len totalMPDUSize last) 0 laid.length
      have whole := Memory.holds_write_behind front zeros
      rw [length] at whole
      have parts : zeros = List.replicate (len - (laid.length - mtDmaHdrLen)) 0 ++
          List.replicate 8 0 := List.replicate_add _ _ _
      rw [parts, ← List.append_assoc, ← parts] at whole
      exact whole
    let frame := finalFrame laid totalMPDUSize last
    have frameLength : frame.length = mtDmaHdrLen + len := by
      change (_ ++ _ : List UInt8).length = _
      rw [List.length_append, Memory.length_bytes, List.length_replicate]
      omega
    have blockLength : (frame ++ List.replicate 8 (0 : UInt8)).length = mtDmaHdrLen + len + 8 := by
      rw [List.length_append, List.length_replicate, frameLength]
    have free' : ring.Free wraps start (frame ++ List.replicate 8 (0 : UInt8)).length := by
      rw [blockLength]
      exact free
    have block : ring.wirelessPacket.write start (frame ++ List.replicate 8 0) = changed := by
      have bytes : changed.bytes start (mtDmaHdrLen + len + 8) = frame ++ List.replicate 8 0 := by
        rw [← blockLength]
        exact finished
      rw [← bytes]
      exact write_bytes outside
    let stored : List Span := ring.stored ++
      ([⟨start, 2⟩, ⟨start + mtDmaHdrLen + 6, 2⟩] ++ if last then [⟨start + 2, 1⟩] else []) ++
      [⟨start + laid.length, len - (laid.length - mtDmaHdrLen) + 8⟩]
    have held := (inv.held.put free').writer ring.curWriteRealPos ring.writer stored
    have inside : (ring.put start (frame ++ List.replicate 8 0)).view.Holds start
        [frame].flatten := by
      rw [inv.held.layout.view_put free', List.flatten_singleton]
      exact (Memory.holds_append.mp (Memory.write_holds _ _ _)).1
    have total : [frame].flatten.length = mtDmaHdrLen + len := by
      rw [List.flatten_singleton, frameLength]
    have good := held.finish writing (Rounds.single (framed_final headed totalMPDUSize last
      fits.short)) (List.cons_ne_nil _ _) room (by rw [total]; exact fits) inside
      (by rw [total]; rfl) (fun placed member => by
        rw [List.mem_singleton.mp member]
        exact inv.held.layout.cur_le)
    have same : ring.finalWriteTxResource ⟨reqCnt, laid.length, [], laid, none, none⟩ pTxBlk
        totalMPDUSize = { ring.put start (frame ++ List.replicate 8 0) with stored := stored }.finish
          [frame] (if last then 8 else start + [frame].flatten.length) := by
      rw [total]
      unfold finalWriteTxResource BulkRing.finalWriteTxResource
      rw [if_pos writing]
      simp only [unsaved, Bool.false_eq_true, if_false]
      unfold put BulkRing.store finish
      rw [block]
    constructor
    · rw [same]
      exact good
    · rw [same]
      have apart := inv.held.apart free
      intro span member
      have parts : span ∈ ring.stored ∨ span = ⟨start, 2⟩ ∨ span = ⟨start + mtDmaHdrLen + 6, 2⟩ ∨
          span = ⟨start + 2, 1⟩ ∨
          span = ⟨start + laid.length, len - (laid.length - mtDmaHdrLen) + 8⟩ := by
        have listed : span ∈ stored := member
        simp only [stored, List.mem_append, List.mem_cons, List.not_mem_nil, or_false] at listed
        rcases listed with (old | (first | second) | flag) | last
        · exact Or.inl old
        · exact Or.inr (Or.inl first)
        · exact Or.inr (Or.inr (Or.inl second))
        · split_ifs at flag
          · exact Or.inr (Or.inr (Or.inr (Or.inl (List.mem_singleton.mp flag))))
          · exact absurd flag List.not_mem_nil
        · exact Or.inr (Or.inr (Or.inr (Or.inr last)))
      simp only [mtDmaHdrLen] at *
      rcases parts with old | rfl | rfl | rfl | rfl
      · exact Or.inl old
      · exact Or.inr (apart.within ⟨by dsimp only; omega, by dsimp only; omega⟩)
      · exact Or.inr (apart.within ⟨by dsimp only; omega, by dsimp only; omega⟩)
      · exact Or.inr (apart.within ⟨by dsimp only; omega, by dsimp only; omega⟩)
      · exact Or.inr (apart.within ⟨by dsimp only; omega, by dsimp only; omega⟩)

end UsbRing

end Mt7612u.Transmit
