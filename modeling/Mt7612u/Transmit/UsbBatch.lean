import Mt7612u.Transmit.UsbRing

/-! What the loop of `RTUSBBulkOutDataPacket` makes of the frames that stand in the ring: a batch of
them, of which it changes two bits of each TXINFO. -/

namespace Mt7612u.Transmit
open Receive (Memory Span align4)

theorem align4_le (n : Nat) : n ≤ align4 n ∧ align4 n ≤ n + 3 := by
  unfold align4
  omega

/-- The longest frame: an aggregate of `MAX_AGGREGATION_SIZE` with its headers and padding. -/
def maxFrameLen : Nat := mtDmaHdrLen + align4 (txwiSize + 2 + maxAggregationSize)

/-- A frame as the writers leave it: the length of its TXINFO is its own, its queue is the EDCA
queue, and `sw_lst_rnd` tells whether the next frame starts the ring anew. -/
structure Framed (last : Bool) (frame : List UInt8) : Prop where
  header : mtDmaHdrLen + txwiSize ≤ frame.length
  short : frame.length ≤ maxFrameLen
  pktLen : pktLen (ofBytes frame) 0 + 4 = frame.length
  qsel : ofBytes frame 3 = 0x04
  swLstRnd : swLstRnd (ofBytes frame) 0 = last

/-- Frames in a row; with `wraps` the last of them, and no other, ends the round. -/
inductive Rounds : Bool → List (List UInt8) → Prop where
  | nil : Rounds false []
  | last {frame : List UInt8} : Framed true frame → Rounds true [frame]
  | more {wraps : Bool} {frame : List UInt8} {frames : List (List UInt8)} :
      Framed false frame → Rounds wraps frames → Rounds wraps (frame :: frames)

/-- What is sent for a frame: `next_vld` tells whether another one follows in the transfer, and
`sw_lst_rnd` is cleared. -/
def sentAs (more : Bool) (frame : List UInt8) : List UInt8 :=
  frame.modify 2 fun byte => (if more then byte ||| 0x01 else byte &&& 0xfe) &&& 0xfb

/-- What is sent for a batch. -/
def asSent : List (List UInt8) → List UInt8
  | [] => []
  | [frame] => sentAs false frame
  | frame :: next :: rest => sentAs true frame ++ asSent (next :: rest)

@[simp] theorem length_sentAs (more : Bool) (frame : List UInt8) :
    (sentAs more frame).length = frame.length :=
  List.length_modify _ _ _

theorem length_asSent (frames : List (List UInt8)) :
    (asSent frames).length = frames.flatten.length := by
  induction frames with
  | nil => rfl
  | cons frame rest ih =>
    cases rest with
    | nil => simp [asSent]
    | cons next rest =>
      simp only [asSent, List.length_append, ih, length_sentAs, List.flatten_cons]

theorem asSent_cons {frame : List UInt8} {rest : List (List UInt8)} (more : rest ≠ []) :
    asSent (frame :: rest) = sentAs true frame ++ asSent rest := by
  cases rest with
  | nil => exact absurd rfl more
  | cons next rest => rfl

theorem holds_iff {mem : Memory} {start : Nat} {data : List UInt8} :
    mem.Holds start data ↔ ∀ i < data.length, mem (start + i) = ofBytes data i := by
  constructor
  · intro holds i below
    have same := congrArg (fun bytes => bytes.getD i 0) holds
    simp only [Memory.bytes, ofBytes] at same ⊢
    rw [← same, List.getD_eq_getElem _ _ (by simpa using below)]
    simp
  · intro same
    apply List.ext_getElem (Memory.length_bytes _ _ _)
    intro i _ below
    simp only [Memory.bytes, List.getElem_map, List.getElem_range]
    rw [same i below, ofBytes, List.getD_eq_getElem _ _ below]

/-- Fields of a TXINFO are those of the frame that stands there. -/
theorem pktLen_holds {mem : Memory} {start : Nat} {frame : List UInt8} (holds : mem.Holds start frame)
    (header : 2 ≤ frame.length) : pktLen mem start = pktLen (ofBytes frame) 0 := by
  have first := holds_iff.mp holds 0 (by omega)
  have second := holds_iff.mp holds 1 (by omega)
  rw [Nat.add_zero] at first
  unfold pktLen
  rw [first, second]

theorem swLstRnd_holds {mem : Memory} {start : Nat} {frame : List UInt8}
    (holds : mem.Holds start frame) (header : 3 ≤ frame.length) :
    swLstRnd mem start = swLstRnd (ofBytes frame) 0 := by
  unfold swLstRnd
  rw [holds_iff.mp holds 2 (by omega)]

/-- A fact about every byte. -/
theorem forall_byte (fact : UInt8 → Prop) (all : ∀ n : Fin 256, fact (UInt8.ofNat n))
    (byte : UInt8) : fact byte := by
  have found := all ⟨byte.toNat, byte.toNat_lt⟩
  have same : UInt8.ofNat byte.toNat = byte := UInt8.ofNat_toNat
  dsimp only at found
  rwa [same] at found

namespace Batch

variable (batch : Batch) (cur : Nat)

/-- The byte with `next_vld` and `sw_lst_rnd` when the frame has been taken. -/
def takenByte (next first : Bool) (byte : UInt8) : UInt8 :=
  let byte := if next then byte ||| 0x01 else byte
  if byte &&& 0x04 == 0x04 then (if first then byte &&& 0xfe else byte) &&& 0xfb else byte

theorem takenByte_middle (first : Bool) {byte : UInt8} (closed : (byte &&& 0x04 == 0x04) = false) :
    takenByte true first byte = (byte ||| 0x01) &&& 0xfb :=
  forall_byte (fun byte => ∀ first : Bool, (byte &&& 0x04 == 0x04) = false →
    takenByte true first byte = (byte ||| 0x01) &&& 0xfb) (by decide +kernel) byte first closed

theorem takenByte_last (next first : Bool) (byte : UInt8) :
    takenByte next first byte &&& 0xfe = byte &&& 0xfe &&& 0xfb :=
  forall_byte (fun byte => ∀ next first : Bool,
    takenByte next first byte &&& 0xfe = byte &&& 0xfe &&& 0xfb) (by decide +kernel) byte next first

theorem write_one (mem : Memory) (at_ : Nat) (byte : UInt8) (address : Nat) :
    mem.write at_ [byte] address = if address = at_ then byte else mem address := by
  split_ifs with same
  · subst same
    simp [Memory.write]
  · rcases Nat.lt_or_ge address at_ with before | behind
    · exact mem.write_before _ before
    · exact mem.write_after (by simp only [List.length_singleton]; omega)

/-- What `take` does to the memory: two bytes of the TXINFO. -/
theorem take_mem (address : Nat) :
    (batch.take cur).mem address =
      if address = batch.tmpBulkEndPos + 2 then
        takenByte (decide (batch.tmpBulkEndPos + (pktLen batch.mem batch.tmpBulkEndPos + 4) ≠ cur))
          (decide (cur = 8)) (batch.mem address)
      else if address = batch.tmpBulkEndPos + 3 then batch.mem address &&& 0xf9 ||| 0x04
      else batch.mem address := by
  have apart : batch.tmpBulkEndPos + 2 ≠ batch.tmpBulkEndPos + 3 := by omega
  unfold take takenByte swLstRnd clearSwLstRnd clearNextVld setNextVld setQselEdca
  dsimp only
  by_cases next : batch.tmpBulkEndPos + (pktLen batch.mem batch.tmpBulkEndPos + 4) = cur <;>
    by_cases first : cur = 8 <;> by_cases two : address = batch.tmpBulkEndPos + 2 <;>
      simp only [next, first, two, apart, ne_eq, not_true_eq_false, not_false_eq_true, if_true,
        if_false, write_one, decide_true, decide_false, Bool.false_eq_true] <;>
      split_ifs <;> simp_all [write_one]

end Batch

theorem ofBytes_sentAs (more : Bool) {frame : List UInt8} {i : Nat} (below : i < frame.length) :
    ofBytes (sentAs more frame) i =
      if i = 2 then (if more then ofBytes frame i ||| 0x01 else ofBytes frame i &&& 0xfe) &&& 0xfb
      else ofBytes frame i := by
  unfold ofBytes sentAs
  rw [List.getD_eq_getElem _ _ (by rw [List.length_modify]; exact below),
    List.getD_eq_getElem _ _ below, List.getElem_modify]
  by_cases two : i = 2
  · simp [two]
  · rw [if_neg two, if_neg (Ne.symm two)]

theorem qsel_kept : (0x04 : UInt8) &&& 0xf9 ||| 0x04 = 0x04 := by decide

namespace Batch

/-- Frames that the loop has put into the batch: they are sent from where it stood, and all other
bytes are as they were. -/
structure Sent (batch result : Batch) (sent : List (List UInt8)) : Prop where
  position : result.tmpBulkEndPos = batch.tmpBulkEndPos + sent.flatten.length
  size : result.thisBulkSize = batch.thisBulkSize + sent.flatten.length
  count : result.aggregationNum = batch.aggregationNum + sent.length
  holds : result.adjust.Holds batch.tmpBulkEndPos (asSent sent)
  outside : ∀ address, address < batch.tmpBulkEndPos ∨
    batch.tmpBulkEndPos + sent.flatten.length ≤ address → result.adjust address = batch.mem address

variable {batch : Batch} {cur : Nat} {last : Bool} {frame : List UInt8}

theorem adjust_take (address : Nat) :
    (batch.take cur).adjust address =
      if address = batch.tmpBulkEndPos + 2 then batch.mem address &&& 0xfe &&& 0xfb
      else if address = batch.tmpBulkEndPos + 3 then batch.mem address &&& 0xf9 ||| 0x04
      else batch.mem address := by
  have adjusted : (batch.take cur).adjust =
      clearNextVld (batch.take cur).mem batch.tmpBulkEndPos := rfl
  rw [adjusted, clearNextVld, write_one]
  by_cases two : address = batch.tmpBulkEndPos + 2
  · rw [if_pos two, if_pos two, take_mem, if_pos rfl, takenByte_last, two]
  · rw [if_neg two, if_neg two, take_mem, if_neg two]

theorem sent_one (framed : Framed last frame)
    (holds : batch.mem.Holds batch.tmpBulkEndPos frame) :
    Sent batch (batch.take cur) [frame] := by
  have header := framed.header
  simp only [mtDmaHdrLen, txwiSize] at header
  have length : pktLen batch.mem batch.tmpBulkEndPos + 4 = frame.length := by
    rw [pktLen_holds holds (by omega), framed.pktLen]
  have whole : [frame].flatten.length = frame.length := by
    rw [List.flatten_singleton]
  constructor
  · rw [whole, ← length]
    rfl
  · rw [whole, ← length]
    rfl
  · rfl
  · rw [show asSent [frame] = sentAs false frame from rfl, holds_iff, length_sentAs]
    intro i below
    rw [adjust_take, ofBytes_sentAs false below, holds_iff.mp holds i below]
    by_cases two : i = 2
    · rw [if_pos (by rw [two]), if_pos two, if_neg Bool.false_ne_true]
    · rw [if_neg (by omega), if_neg two]
      by_cases three : i = 3
      · rw [if_pos (by rw [three]), three, framed.qsel, qsel_kept]
      · rw [if_neg (by omega)]
  · intro address outside
    rw [whole] at outside
    rw [adjust_take, if_neg (by omega), if_neg (by omega)]

theorem sent_cons {result : Batch} {sent : List (List UInt8)} (framed : Framed false frame)
    (holds : batch.mem.Holds batch.tmpBulkEndPos frame)
    (next : batch.tmpBulkEndPos + frame.length ≠ cur) (more : sent ≠ [])
    (later : Sent (batch.take cur) result sent) : Sent batch result (frame :: sent) := by
  have header := framed.header
  simp only [mtDmaHdrLen, txwiSize] at header
  have length : pktLen batch.mem batch.tmpBulkEndPos + 4 = frame.length := by
    rw [pktLen_holds holds (by omega), framed.pktLen]
  have position : (batch.take cur).tmpBulkEndPos = batch.tmpBulkEndPos + frame.length := by
    rw [← length]
    rfl
  have size : (batch.take cur).thisBulkSize = batch.thisBulkSize + frame.length := by
    rw [← length]
    rfl
  have count : (batch.take cur).aggregationNum = batch.aggregationNum + 1 := rfl
  have whole : (frame :: sent).flatten.length = frame.length + sent.flatten.length := by
    rw [List.flatten_cons, List.length_append]
  have front : result.adjust.Holds batch.tmpBulkEndPos (sentAs true frame) := by
    rw [holds_iff, length_sentAs]
    intro i below
    rw [later.outside _ (Or.inl (by rw [position]; omega)), take_mem, length,
      ofBytes_sentAs true below, holds_iff.mp holds i below]
    by_cases two : i = 2
    · have closed := framed.swLstRnd
      unfold swLstRnd at closed
      rw [if_pos (by rw [two]), if_pos two, if_pos rfl, decide_eq_true next, two,
        takenByte_middle _ closed]
    · rw [if_neg (by omega), if_neg two]
      by_cases three : i = 3
      · rw [if_pos (by rw [three]), three, framed.qsel, qsel_kept]
      · rw [if_neg (by omega)]
  constructor
  · rw [later.position, position, whole, Nat.add_assoc]
  · rw [later.size, size, whole, Nat.add_assoc]
  · rw [later.count, count, List.length_cons]
    omega
  · rw [asSent_cons more, Memory.holds_append, length_sentAs, ← position]
    exact ⟨front, later.holds⟩
  · intro address outside
    rw [whole] at outside
    rw [later.outside address (by rw [position]; omega), take_mem, if_neg (by omega),
      if_neg (by omega)]

/-- A batch of `0x8000` bytes is full. -/
theorem isFull_large {setting : BulkSetting} (large : 0x8000 ≤ batch.thisBulkSize) :
    batch.isFull setting = true := by
  unfold isFull
  have larger : 0x2000 ≤ batch.thisBulkSize := by omega
  simp only [decide_eq_true large, decide_eq_true larger, Bool.true_or, ite_self]

/-- An empty one is not. -/
theorem isFull_empty {setting : BulkSetting} (empty : batch.thisBulkSize = 0) :
    batch.isFull setting = false := by
  unfold isFull
  simp [empty]

end Batch

/-- Where the loop stops when it has walked through the frames that stand before it. -/
def Reaches (wraps : Bool) (start cur : Nat) (frames : List (List UInt8)) : Prop :=
  if wraps then cur < start else cur = start + frames.flatten.length

theorem Rounds.flatten_pos {wraps : Bool} {frames : List (List UInt8)}
    (rounds : Rounds wraps frames) (some_ : frames ≠ []) : 24 ≤ frames.flatten.length := by
  cases rounds with
  | nil => exact absurd rfl some_
  | last framed =>
    rw [List.flatten_singleton]
    exact framed.header
  | more framed _ =>
    rw [List.flatten_cons, List.length_append]
    exact framed.header.trans (Nat.le_add_right _ _)

theorem Rounds.ne_nil {frames : List (List UInt8)} (rounds : Rounds true frames) : frames ≠ [] := by
  cases rounds <;> exact List.cons_ne_nil _ _

namespace Batch

variable {batch : Batch} {cur : Nat} {last : Bool} {frame : List UInt8}

/-- The loop at a frame, when the batch is not full. -/
theorem fillBatch_frame {setting : BulkSetting} {turns : Nat} (room : batch.isFull setting = false)
    (framed : Framed last frame) (holds : batch.mem.Holds batch.tmpBulkEndPos frame)
    (before : batch.tmpBulkEndPos ≠ cur) :
    fillBatch setting cur (turns + 1) batch =
      if last then (batch.take cur, .lastRound)
      else if batch.aggregationNum = 0 ∧ ¬setting.usbAggregation then (batch.take cur, .cut)
      else fillBatch setting cur turns (batch.take cur) := by
  have header := framed.header
  have length := framed.pktLen
  simp only [mtDmaHdrLen, txwiSize] at header
  rw [fillBatch, room, if_neg Bool.false_ne_true, if_neg before,
    if_neg (by rw [pktLen_holds holds (by omega)]; omega), swLstRnd_holds holds (by omega),
    framed.swLstRnd]

/-- Frames behind the one that is taken stay. -/
theorem holds_take (cur : Nat) {data : List UInt8} (framed : Framed last frame)
    (holds : batch.mem.Holds batch.tmpBulkEndPos (frame ++ data)) :
    (batch.take cur).tmpBulkEndPos = batch.tmpBulkEndPos + frame.length ∧
      (batch.take cur).thisBulkSize = batch.thisBulkSize + frame.length ∧
      (batch.take cur).mem.Holds (batch.tmpBulkEndPos + frame.length) data := by
  obtain ⟨front, back⟩ := Memory.holds_append.mp holds
  have header := framed.header
  simp only [mtDmaHdrLen, txwiSize] at header
  have length : pktLen batch.mem batch.tmpBulkEndPos + 4 = frame.length := by
    rw [pktLen_holds front (by omega), framed.pktLen]
  refine ⟨?_, ?_, ?_⟩
  · rw [← length]
    rfl
  · rw [← length]
    rfl
  · apply Memory.holds_of_agree back
    intro address behind
    rw [take_mem, if_neg (by omega), if_neg (by omega)]

end Batch

/-- The loop takes some of the frames that stand before it, and at least one if its batch is
empty. -/
theorem fillBatch_sent (setting : BulkSetting) (cur : Nat) {wraps : Bool}
    {frames : List (List UInt8)} (rounds : Rounds wraps frames) {turns : Nat} {batch : Batch}
    (holds : batch.mem.Holds batch.tmpBulkEndPos frames.flatten)
    (reaches : Reaches wraps batch.tmpBulkEndPos cur frames)
    (turn : 1 ≤ turns) (enough : 0x8000 ≤ batch.thisBulkSize + 2 * (turns - 1)) :
    ∃ sent rest, frames = sent ++ rest ∧
      (sent = [] → (fillBatch setting cur turns batch).1 = batch) ∧
      (sent ≠ [] → batch.Sent (fillBatch setting cur turns batch).1 sent) ∧
      (batch.thisBulkSize = 0 → frames ≠ [] → sent ≠ []) ∧
      (fillBatch setting cur turns batch).2 =
        if wraps = true ∧ rest = [] then .lastRound else .cut := by
  induction rounds generalizing turns batch with
  | nil =>
    obtain ⟨turns, rfl⟩ := Nat.exists_eq_add_of_le' turn
    have stop : fillBatch setting cur (turns + 1) batch = (batch, .cut) := by
      have same : batch.tmpBulkEndPos = cur := reaches.symm
      rw [fillBatch, if_pos same, ite_self]
    rw [stop]
    exact ⟨[], [], rfl, fun _ => rfl, fun none => absurd rfl none, fun _ none => absurd rfl none, rfl⟩
  | @last frame framed =>
    obtain ⟨turns, rfl⟩ := Nat.exists_eq_add_of_le' turn
    have before : cur < batch.tmpBulkEndPos := reaches
    rw [List.flatten_singleton] at holds
    cases room : batch.isFull setting with
    | true =>
      have stop : fillBatch setting cur (turns + 1) batch = (batch, .cut) := by
        rw [fillBatch, room, if_pos rfl]
      rw [stop]
      refine ⟨[], [frame], rfl, fun _ => rfl, fun none => absurd rfl none, ?_, rfl⟩
      intro empty
      rw [Batch.isFull_empty empty] at room
      exact absurd room Bool.false_ne_true
    | false =>
      rw [Batch.fillBatch_frame room framed holds before.ne', if_pos rfl]
      exact ⟨[frame], [], rfl, fun none => absurd none (List.cons_ne_nil _ _),
        fun _ => Batch.sent_one framed holds, fun _ _ => List.cons_ne_nil _ _, rfl⟩
  | @more wraps frame frames framed rounds ih =>
    obtain ⟨turns, rfl⟩ := Nat.exists_eq_add_of_le' turn
    rw [List.flatten_cons] at holds
    have header := framed.header
    simp only [mtDmaHdrLen, txwiSize] at header
    have front := (Memory.holds_append.mp holds).1
    obtain ⟨position, size, behind⟩ := Batch.holds_take cur framed holds
    have before : batch.tmpBulkEndPos ≠ cur := by
      unfold Reaches at reaches
      rw [List.flatten_cons, List.length_append] at reaches
      split_ifs at reaches <;> omega
    have ongoing : Reaches wraps (batch.take cur).tmpBulkEndPos cur frames := by
      unfold Reaches at reaches ⊢
      rw [List.flatten_cons, List.length_append] at reaches
      split_ifs at reaches ⊢ <;> omega
    cases room : batch.isFull setting with
    | true =>
      have stop : fillBatch setting cur (turns + 1) batch = (batch, .cut) := by
        rw [fillBatch, room, if_pos rfl]
      rw [stop]
      refine ⟨[], frame :: frames, rfl, fun _ => rfl, fun none => absurd rfl none, ?_, ?_⟩
      · intro empty
        rw [Batch.isFull_empty empty] at room
        exact absurd room Bool.false_ne_true
      · rw [if_neg (fun both => List.cons_ne_nil _ _ both.2)]
    | false =>
      have small : batch.thisBulkSize < 0x8000 := by
        by_contra large
        rw [Batch.isFull_large (Nat.not_lt.mp large)] at room
        exact absurd room.symm Bool.false_ne_true
      rw [Batch.fillBatch_frame room framed front before, if_neg Bool.false_ne_true]
      split_ifs with alone
      · refine ⟨[frame], frames, rfl, fun none => absurd none (List.cons_ne_nil _ _),
          fun _ => Batch.sent_one framed front, fun _ _ => List.cons_ne_nil _ _, ?_⟩
        rw [if_neg]
        rintro ⟨rfl, none⟩
        exact rounds.ne_nil none
      · obtain ⟨sent, rest, split, unchanged, later, _, ended⟩ :=
          @ih turns _ (position ▸ behind) ongoing (by omega) (by rw [size]; omega)
        refine ⟨frame :: sent, rest, by rw [split, List.cons_append],
          fun none => absurd none (List.cons_ne_nil _ _), ?_, fun _ _ => List.cons_ne_nil _ _, ended⟩
        intro _
        by_cases none : sent = []
        · rw [unchanged none, none]
          exact Batch.sent_one framed front
        · apply Batch.sent_cons framed front _ none (later none)
          have nonempty : frames ≠ [] := by
            rw [split]
            exact List.append_ne_nil_of_left_ne_nil none rest
          have long := rounds.flatten_pos nonempty
          unfold Reaches at ongoing
          split_ifs at ongoing <;> omega

end Mt7612u.Transmit
