import Mt7612u.Transmit.UsbBatch

/-! The invariant of the bulk ring: where its three positions stand, which bytes belong to the
frames that are not sent, and what is in flight. -/

namespace Mt7612u.Transmit
open Receive (Memory Span align4)

theorem length_placesFrom (start : Nat) (frames : List (List UInt8)) :
    (placesFrom start frames).length = frames.length := by
  induction frames generalizing start with
  | nil => rfl
  | cons frame rest ih => exact congrArg (· + 1) (ih _)

theorem placesFrom_append (start : Nat) (first second : List (List UInt8)) :
    placesFrom start (first ++ second) =
      placesFrom start first ++ placesFrom (start + first.flatten.length) second := by
  induction first generalizing start with
  | nil => rfl
  | cons frame rest ih =>
    rw [List.cons_append, placesFrom, ih, placesFrom, List.cons_append, List.flatten_cons,
      List.length_append, Nat.add_assoc]

theorem mem_placesFrom {start : Nat} {frames : List (List UInt8)} {placed : Placed}
    (member : placed ∈ placesFrom start frames) :
    start ≤ placed.start ∧
      placed.start + placed.frame.length ≤ start + frames.flatten.length ∧
      placed.frame ∈ frames := by
  induction frames generalizing start with
  | nil => exact absurd member List.not_mem_nil
  | cons frame rest ih =>
    rw [List.flatten_cons, List.length_append]
    rcases List.mem_cons.mp member with rfl | later
    · exact ⟨le_rfl, by dsimp only; omega, List.mem_cons_self⟩
    · obtain ⟨behind, inside, listed⟩ := ih later
      exact ⟨by omega, by omega, List.mem_cons_of_mem _ listed⟩

theorem Rounds.append {wraps : Bool} {first second : List (List UInt8)}
    (front : Rounds false first) (back : Rounds wraps second) : Rounds wraps (first ++ second) := by
  generalize opened : false = open_ at front
  induction front with
  | nil => exact back
  | last _ => exact absurd opened Bool.false_ne_true
  | more framed _ ih => exact Rounds.more framed (ih opened)

/-- Both parts of a row of frames, when it is cut before its end. -/
theorem Rounds.split {wraps : Bool} {first second : List (List UInt8)}
    (rounds : Rounds wraps (first ++ second)) (more : wraps = true → second ≠ []) :
    Rounds false first ∧ Rounds wraps second := by
  induction first with
  | nil => exact ⟨Rounds.nil, rounds⟩
  | cons frame rest ih =>
    rw [List.cons_append] at rounds
    generalize whole : frame :: (rest ++ second) = frames at rounds
    cases rounds with
    | nil => exact absurd whole (List.cons_ne_nil _ _)
    | last framed =>
      obtain ⟨_, none⟩ := List.cons_eq_cons.mp whole
      exact absurd (List.append_eq_nil_iff.mp none).2 (more rfl)
    | more framed rounds =>
      obtain ⟨rfl, rfl⟩ := List.cons_eq_cons.mp whole
      exact ⟨Rounds.more framed (ih rounds).1, (ih rounds).2⟩

theorem Rounds.framed {wraps : Bool} {frames : List (List UInt8)} (rounds : Rounds wraps frames)
    {frame : List UInt8} (member : frame ∈ frames) : ∃ last, Framed last frame := by
  induction rounds with
  | nil => exact absurd member List.not_mem_nil
  | last framed =>
    rw [List.mem_singleton.mp member]
    exact ⟨true, framed⟩
  | more framed _ ih =>
    rcases List.mem_cons.mp member with rfl | later
    · exact ⟨false, framed⟩
    · exact ih later

/-- How the positions stand. Before the first batch `NextBulkOutPosition` is at the start; then it is
below the frames that are left, until these have been taken to the end of the ring and
`ENextBulkOutPosition` is at the start again; and from where the last frame of a round is written to
there, `CurWritePosition` is below them. -/
inductive Shape (ring : HtTxContext) : Bool → Prop where
  | fresh : ring.nextBulkOutPosition = 0 →
      ring.eNextBulkOutPosition = 0 ∧ ring.curWritePosition = 0 ∧ ring.bCurWriting = false ∨
        ring.eNextBulkOutPosition = 8 ∧ 8 ≤ ring.curWritePosition ∧
          (ring.curWritePosition = 8 → ring.bCurWriting = true) → Shape ring false
  | straight : 8 ≤ ring.nextBulkOutPosition →
      ring.nextBulkOutPosition + 12 < ring.eNextBulkOutPosition →
      ring.eNextBulkOutPosition ≤ ring.curWritePosition → Shape ring false
  | taken : 8 ≤ ring.eNextBulkOutPosition → ring.eNextBulkOutPosition ≤ ring.curWritePosition →
      ring.curWritePosition + 8 ≤ ring.nextBulkOutPosition → Shape ring false
  | wrapped : 8 ≤ ring.nextBulkOutPosition →
      ring.nextBulkOutPosition + 12 < ring.eNextBulkOutPosition →
      ring.curWritePosition = 8 ∨ ring.curWritePosition + 8 ≤ ring.nextBulkOutPosition →
      8 ≤ ring.curWritePosition → Shape ring true

/-- A writer at the position `cur`; `total` is what its frame will have when what it copies is
there. -/
inductive Writer.Phase (cur : Nat) : Writer → Nat → Prop where
  | fragment {reqCnt : Nat} {frames : List (List UInt8)} {ending : Option Bool} :
      Rounds (ending == some true) frames → frames ≠ [] →
      Phase cur ⟨reqCnt, frames.flatten.length, frames, [], none, ending⟩ frames.flatten.length
  | copying {reqCnt priv padding position : Nat} {frames : List (List UInt8)} {ending : Option Bool}
      {header srcBuf : List UInt8} :
      Rounds (ending == some true) (frames ++ [header ++ srcBuf ++ List.replicate padding 0]) →
      mtDmaHdrLen + txwiSize ≤ header.length →
      priv = (frames ++ [header ++ srcBuf ++ List.replicate padding 0]).flatten.length →
      position = cur + (frames.flatten ++ header).length →
      Phase cur ⟨reqCnt, priv, frames, header, some ⟨position, srcBuf, some padding⟩, ending⟩ priv
  | aggregate {reqCnt priv : Nat} {laid : List UInt8} :
      mtDmaHdrLen + txwiSize ≤ laid.length → ofBytes laid 3 = 0x04 →
      swLstRnd (ofBytes laid) 0 = false → priv = laid.length →
      Phase cur ⟨reqCnt, priv, [], laid, none, none⟩ (mtDmaHdrLen + align4 (priv - mtDmaHdrLen))
  | aggregating {reqCnt priv position : Nat} {laid srcBuf : List UInt8} :
      mtDmaHdrLen + txwiSize ≤ laid.length → ofBytes laid 3 = 0x04 →
      swLstRnd (ofBytes laid) 0 = false → priv = laid.length → position = cur + laid.length →
      Phase cur ⟨reqCnt, priv, [], laid, some ⟨position, srcBuf, none⟩, none⟩
        (mtDmaHdrLen + align4 (priv + srcBuf.length - mtDmaHdrLen))

/-- The bytes of a writer that are in the ring. -/
def Writer.bytes (writer : Writer) : List UInt8 := writer.frames.flatten ++ writer.laid

/-- What a write may take: while it is below `NextBulkOutPosition`, the eight bytes that are
reserved, the frames and the eight zeros fit into what was asked for. -/
structure Fits (ring : HtTxContext) (reqCnt total : Nat) : Prop where
  short : total ≤ maxFrameLen
  below : ring.curWritePosition < ring.nextBulkOutPosition →
    total + 16 ≤ reqCnt + localTxbufSize

/-- A frame that starts here is not the last of a round only because of its length. -/
def StartsIn (placed : Placed) : Prop := placed.start + 3898 ≤ maxTxbulkLimit

namespace UsbRing

/-- The bytes of the ring as they are once those in `SavedPad` are back. -/
def view (ring : UsbRing) : Memory :=
  if ring.bCopySavePad then
    ring.wirelessPacket.write ring.eNextBulkOutPosition (ring.savedPad.bytes 0 savedPadSize)
  else ring.wirelessPacket

/-- The room that was found for a writer is still there. -/
structure Room (ring : HtTxContext) (wraps : Bool) (reqCnt : Nat) : Prop where
  below : ring.curWritePosition < ring.nextBulkOutPosition →
    ring.curWritePosition + reqCnt + localTxbufSize ≤ ring.nextBulkOutPosition + 8
  apart : wraps = true → ring.curWritePosition < ring.nextBulkOutPosition
  fresh : ring.nextBulkOutPosition = 0 → ring.curWritePosition + 7904 ≤ maxTxbulkLimit

/-- The frames that are not sent: `upper` up to the end of the round, and `lower` from `base` to
`CurWritePosition`. -/
structure Layout (ring : UsbRing) (wraps : Bool) (upper lower : List (List UInt8)) (base : Nat) :
    Prop where
  shape : Shape ring.toHtTxContext wraps
  cur_le : ring.curWritePosition + 3898 ≤ maxTxbulkLimit
  idle_le : ring.bCurWriting = false → ring.curWritePosition + 3906 ≤ maxTxbulkLimit
  straight : wraps = false → upper = [] ∧ base = ring.eNextBulkOutPosition
  round : wraps = true → Rounds true upper ∧ base = 8
  rounds : Rounds false lower
  upperHolds : ring.view.Holds ring.eNextBulkOutPosition upper.flatten
  lowerHolds : ring.view.Holds base lower.flatten
  cur : ring.curWritePosition = base + lower.flatten.length
  unsent : ring.unsent = placesFrom ring.eNextBulkOutPosition upper ++ placesFrom base lower
  inside : wraps = true → ring.eNextBulkOutPosition + upper.flatten.length + 8 ≤ maxTxbulkSize
  saved : ring.bCopySavePad = true → wraps = true ∨ lower ≠ [] ∨ ring.bCurWriting = true
  starts : ∀ placed ∈ ring.unsent, StartsIn placed
  next_le : ring.nextBulkOutPosition + 3898 ≤ maxTxbulkLimit

/-- What is in flight, and how far it is from what may be written. -/
structure Flight (ring : UsbRing) (wraps : Bool) (flight : List (List UInt8)) : Prop where
  inFlight : ring.inFlight = placesFrom ring.nextBulkOutPosition flight
  size : ring.bulkOutSize = flight.flatten.length + 4
  holds : ring.wirelessPacket.Holds ring.nextBulkOutPosition (asSent flight ++ List.replicate 4 0)
  inside : ring.nextBulkOutPosition + flight.flatten.length + 8 ≤ maxTxbulkSize
  apart : ring.nextBulkOutPosition + flight.flatten.length + 8 ≤ ring.eNextBulkOutPosition ∨
    ring.nextBulkOutPosition + flight.flatten.length = ring.eNextBulkOutPosition ∧
      (ring.bCopySavePad = true ∨
        ring.eNextBulkOutPosition = ring.curWritePosition ∧ ring.bCurWriting = false) ∨
    wraps = false ∧ ring.curWritePosition + 8 ≤ ring.nextBulkOutPosition

/-- The transfers that are done, as batches of the frames that were written. -/
def Delivered (ring : UsbRing) (left : List (List UInt8)) : Prop :=
  ∃ batches : List (List (List UInt8)),
    ring.transfers = batches.map (fun batch => asSent batch ++ List.replicate 4 0) ∧
      ring.written = batches.flatten ++ left

/-- Where the writer stands: what it has stored is in the ring. -/
structure Writing (ring : UsbRing) (wraps : Bool) (writer : Writer) (total : Nat) : Prop where
  phase : writer.Phase ring.curWritePosition total
  room : Room ring.toHtTxContext wraps writer.reqCnt
  fits : Fits ring.toHtTxContext writer.reqCnt total
  holds : ring.view.Holds ring.curWritePosition writer.bytes
  ahead : ring.curWritePosition < ring.curWriteRealPos
  ending : ∀ last, writer.ending = some last →
    last = decide (maxTxbulkLimit < ring.curWritePosition + writer.priv + 3906)
  starts : ∀ placed ∈ placesFrom ring.curWritePosition writer.frames, StartsIn placed
  start : writer.laid ≠ [] →
    ring.curWritePosition + writer.frames.flatten.length + 3898 ≤ maxTxbulkLimit

/-- The invariant of the bytes: it does not look at the writer. -/
structure Held (ring : UsbRing) (wraps : Bool) (upper lower flight : List (List UInt8))
    (base : Nat) : Prop where
  layout : ring.Layout wraps upper lower base
  flying : ring.bulkOutPending = true → ring.Flight wraps flight
  landed : ring.bulkOutPending = false → flight = [] ∧ ring.inFlight = []
  delivered : ring.Delivered (flight ++ (upper ++ lower))

/-- The whole invariant. -/
structure Inv (ring : UsbRing) (wraps : Bool) (upper lower flight : List (List UInt8))
    (base : Nat) : Prop where
  held : ring.Held wraps upper lower flight base
  bCurWriting : ring.bCurWriting = ring.writer.isSome
  idle : ring.writer = none → ring.curWriteRealPos = ring.curWritePosition
  writing : ∀ writer, ring.writer = some writer → ∃ total, ring.Writing wraps writer total

/-- Bytes that may be stored: no frame that is not sent and nothing in flight is there. -/
structure Free (ring : UsbRing) (wraps : Bool) (position count : Nat) : Prop where
  behind : ring.curWritePosition ≤ position
  pad : ring.eNextBulkOutPosition = ring.curWritePosition → ring.bCopySavePad = true →
    ring.curWritePosition + 8 ≤ position
  below : ring.curWritePosition < ring.nextBulkOutPosition →
    position + count ≤ ring.nextBulkOutPosition
  apart : wraps = true → ring.curWritePosition < ring.nextBulkOutPosition
  inside : position + count ≤ maxTxbulkSize
  writing : ring.bCurWriting = true

variable {ring : UsbRing} {wraps : Bool} {upper lower flight : List (List UInt8)} {base : Nat}

theorem write_comm (mem : Memory) {first second : Nat} {one two : List UInt8}
    (apart : first + one.length ≤ second ∨ second + two.length ≤ first) :
    (mem.write first one).write second two = (mem.write second two).write first one := by
  funext address
  by_cases inOne : first ≤ address ∧ address < first + one.length
  · have outTwo : (mem.write first one).write second two address =
        mem.write first one address := by
      rcases apart with before | behind
      · exact Memory.write_before _ _ (by omega)
      · exact Memory.write_after _ (by omega)
    rw [outTwo]
    unfold Memory.write
    rw [if_pos inOne.1, if_pos inOne.1, List.getD_eq_getElem _ _ (by omega),
      List.getD_eq_getElem _ _ (by omega)]
  · have outOne (inner : Memory) : inner.write first one address = inner address := by
      by_cases before : address < first
      · exact Memory.write_before _ _ before
      · exact Memory.write_after _ (by omega)
    rw [outOne]
    unfold Memory.write
    by_cases behind : second ≤ address
    · rw [if_pos behind, if_pos behind]
      exact congrArg _ (outOne mem)
    · rw [if_neg behind, if_neg behind]
      exact outOne mem

/-- Frames that start where `CurWritePosition` stands are none. -/
theorem Layout.lower_pos (layout : ring.Layout wraps upper lower base) (some_ : lower ≠ []) :
    base + 24 ≤ ring.curWritePosition := by
  have long := layout.rounds.flatten_pos some_
  rw [layout.cur]
  omega

/-- On a ring that is not wrapped free space is behind the saved bytes. -/
theorem Layout.saved_le (layout : ring.Layout false upper lower base) {position count : Nat}
    (free : ring.Free false position count) (saved : ring.bCopySavePad = true) :
    ring.eNextBulkOutPosition + 8 ≤ position := by
  have behind := free.behind
  obtain ⟨rfl, rfl⟩ := layout.straight rfl
  by_cases none : lower = []
  · have same := layout.cur
    rw [none, List.flatten_nil, List.length_nil, Nat.add_zero] at same
    have pad := free.pad same.symm saved
    omega
  · have long := layout.lower_pos none
    omega

theorem Layout.apart_saved (layout : ring.Layout wraps upper lower base) {position count : Nat}
    (free : ring.Free wraps position count) (saved : ring.bCopySavePad = true) :
    position + count ≤ ring.eNextBulkOutPosition ∨ ring.eNextBulkOutPosition + 8 ≤ position := by
  cases wraps with
  | true =>
    have below := free.below (free.apart rfl)
    cases layout.shape
    exact Or.inl (by omega)
  | false => exact Or.inr (layout.saved_le free saved)

/-- Bytes in free space are seen where they are stored. -/
theorem Layout.view_put (layout : ring.Layout wraps upper lower base) {position : Nat}
    {bytes : List UInt8} (free : ring.Free wraps position bytes.length) :
    (ring.put position bytes).view = ring.view.write position bytes := by
  unfold view
  cases saved : ring.bCopySavePad with
  | false =>
    rw [show (ring.put position bytes).bCopySavePad = false from saved, if_neg Bool.false_ne_true,
      if_neg Bool.false_ne_true]
    rfl
  | true =>
    rw [show (ring.put position bytes).bCopySavePad = true from saved, if_pos rfl, if_pos rfl]
    apply write_comm
    rw [Memory.length_bytes]
    exact layout.apart_saved free saved

theorem Layout.put (layout : ring.Layout wraps upper lower base) {position : Nat}
    {bytes : List UInt8} (free : ring.Free wraps position bytes.length) :
    (ring.put position bytes).Layout wraps upper lower base := by
  have view := layout.view_put free
  constructor
  · exact layout.shape
  · exact layout.cur_le
  · exact layout.idle_le
  · exact layout.straight
  · exact layout.round
  · exact layout.rounds
  · rw [view]
    apply Memory.holds_write_apart layout.upperHolds
    cases wraps with
    | true =>
      have below := free.below (free.apart rfl)
      cases layout.shape
      exact Or.inl (by omega)
    | false =>
      have behind := free.behind
      obtain ⟨rfl, rfl⟩ := layout.straight rfl
      have cur := layout.cur
      right
      rw [List.flatten_nil, List.length_nil]
      omega
  · rw [view]
    apply Memory.holds_write_apart layout.lowerHolds
    right
    rw [← layout.cur]
    exact free.behind
  · exact layout.cur
  · exact layout.unsent
  · exact layout.inside
  · exact layout.saved
  · exact layout.starts
  · exact layout.next_le

/-- Nothing in flight is in free space. -/
theorem Flight.apart_free (layout : ring.Layout wraps upper lower base)
    (flying : ring.Flight wraps flight) {position count : Nat}
    (free : ring.Free wraps position count) :
    position + count ≤ ring.nextBulkOutPosition ∨
      ring.nextBulkOutPosition + (flight.flatten.length + 4) ≤ position := by
  have behind := free.behind
  by_cases under : ring.curWritePosition < ring.nextBulkOutPosition
  · exact Or.inl (free.below under)
  · right
    cases wraps with
    | true => exact absurd (free.apart rfl) under
    | false =>
      obtain ⟨rfl, rfl⟩ := layout.straight rfl
      have cur := layout.cur
      rcases flying.apart with room | ⟨ends, saved | ⟨_, idle⟩⟩ | ⟨_, above⟩
      · omega
      · have apart := layout.saved_le free saved
        omega
      · rw [free.writing] at idle
        exact absurd idle.symm Bool.false_ne_true
      · omega

theorem Flight.put (layout : ring.Layout wraps upper lower base)
    (flying : ring.Flight wraps flight) {position : Nat} {bytes : List UInt8}
    (free : ring.Free wraps position bytes.length) :
    (ring.put position bytes).Flight wraps flight := by
  constructor
  · exact flying.inFlight
  · exact flying.size
  · apply Memory.holds_write_apart flying.holds
    have apart := flying.apart_free layout free
    rw [List.length_append, length_asSent, List.length_replicate]
    exact apart
  · exact flying.inside
  · exact flying.apart

theorem Held.put (held : ring.Held wraps upper lower flight base) {position : Nat}
    {bytes : List UInt8} (free : ring.Free wraps position bytes.length) :
    (ring.put position bytes).Held wraps upper lower flight base where
  layout := held.layout.put free
  flying pending := (held.flying pending).put held.layout free
  landed := held.landed
  delivered := held.delivered

/-- The record of the writer may change. -/
theorem Held.writer (held : ring.Held wraps upper lower flight base) (curWriteRealPos : Nat)
    (writer : Option Writer) (stored : List Span) :
    { ring with curWriteRealPos := curWriteRealPos, writer := writer, stored := stored }.Held wraps
      upper lower flight base := by
  obtain ⟨layout, flying, landed, delivered⟩ := held
  constructor
  · obtain ⟨shape, cur_le, idle_le, straight, round, rounds, upperHolds, lowerHolds, cur, unsent,
      inside, saved, starts, next_le⟩ := layout
    exact ⟨shape, cur_le, idle_le, straight, round, rounds, upperHolds, lowerHolds, cur, unsent,
      inside, saved, starts, next_le⟩
  · intro pending
    obtain ⟨inFlight, size, holds, inside, apart⟩ := flying pending
    exact ⟨inFlight, size, holds, inside, apart⟩
  · exact landed
  · exact delivered

end UsbRing

theorem HtTxContext.canDoWrite_spec {ring : HtTxContext} (room : ring.canDoWrite = true) :
    ring.bCurWriting = false ∧
      (ring.eNextBulkOutPosition = 8 → ring.curWritePosition + 7912 ≤ maxTxbulkLimit) ∧
      (ring.curWritePosition < ring.nextBulkOutPosition →
        ring.curWritePosition + localTxbufSize ≤ ring.nextBulkOutPosition) := by
  unfold canDoWrite at room
  split_ifs at room with below _ idle top
  · exact ⟨Bool.eq_false_iff.mpr idle, fun eight => Nat.not_lt.mp fun less => top ⟨eight, less⟩,
      fun under => Nat.not_lt.mp fun less => below ⟨under, less⟩⟩

theorem HtTxContext.freeDescRequest_spec {ring : HtTxContext} {reqCnt : Nat}
    (room : ring.freeDescRequest reqCnt = true) :
    (ring.curWritePosition < ring.nextBulkOutPosition →
      ring.curWritePosition + reqCnt + localTxbufSize ≤ ring.nextBulkOutPosition) ∧
    (ring.curWritePosition = 8 → reqCnt + localTxbufSize ≤ ring.nextBulkOutPosition) := by
  unfold freeDescRequest at room
  simp only [Bool.and_eq_true, decide_eq_true_eq, beq_iff_eq] at room
  split_ifs at room with below first
  · exact ⟨fun under => Nat.not_lt.mp fun less => below ⟨under, less⟩,
      fun eight => Nat.not_lt.mp fun less => first ⟨eight, less⟩⟩

namespace UsbRing

variable {ring : UsbRing} {wraps : Bool} {upper lower flight : List (List UInt8)} {base : Nat}

theorem enter_reserved (same : ring.eNextBulkOutPosition = ring.curWritePosition) :
    ring.enter =
      { ring with
        curWritePosition := ring.curWritePosition + 8
        eNextBulkOutPosition := ring.eNextBulkOutPosition + 8
        bCurWriting := true
        curWriteRealPos := ring.curWritePosition + 8 } := by
  unfold enter BulkRing.reserve
  rw [if_pos same]

theorem enter_behind (apart : ring.eNextBulkOutPosition ≠ ring.curWritePosition) :
    ring.enter =
      { ring with bCurWriting := true, curWriteRealPos := ring.curWritePosition } := by
  unfold enter BulkRing.reserve
  rw [if_neg apart]

/-- Where the next frame starts, eight bytes are reserved: nothing is left in `SavedPad`. -/
theorem Layout.reserved (layout : ring.Layout wraps upper lower base)
    (idle : ring.bCurWriting = false)
    (same : ring.eNextBulkOutPosition = ring.curWritePosition) :
    wraps = false ∧ upper = [] ∧ lower = [] ∧ ring.bCopySavePad = false := by
  have straight : wraps = false := by
    cases layout.shape with
    | wrapped _ _ _ _ => omega
    | fresh _ _ => rfl
    | straight _ _ _ => rfl
    | taken _ _ _ => rfl
  obtain ⟨none, based⟩ := layout.straight straight
  have empty : lower = [] := by
    by_contra some_
    have long := layout.lower_pos some_
    omega
  refine ⟨straight, none, empty, Bool.eq_false_iff.mpr fun saved => ?_⟩
  rcases layout.saved saved with wrapped | some_ | writing
  · rw [straight] at wrapped
    exact absurd wrapped Bool.false_ne_true
  · exact some_ empty
  · rw [idle] at writing
    exact absurd writing Bool.false_ne_true

theorem Held.enter (held : ring.Held wraps upper lower flight base)
    (can : ring.canDoWrite = true) :
    ∃ base, ring.enter.Held wraps upper lower flight base := by
  obtain ⟨idle, _, room⟩ := HtTxContext.canDoWrite_spec can
  unfold localTxbufSize at room
  obtain ⟨layout, flying, landed, delivered⟩ := held
  have idle_le := layout.idle_le idle
  by_cases same : ring.eNextBulkOutPosition = ring.curWritePosition
  · obtain ⟨rfl, rfl, rfl, unsaved⟩ := layout.reserved idle same
    rw [enter_reserved same]
    refine ⟨ring.eNextBulkOutPosition + 8, ?_, ?_, landed, delivered⟩
    · obtain ⟨shape, cur_le, -, -, -, -, -, -, cur, unsent, -, -, starts, next_le⟩ := layout
      constructor
      · cases shape with
        | fresh zero zeros =>
          apply Shape.fresh
          · exact zero
          right
          rcases zeros with ⟨_, _, _⟩ | ⟨eight, _, writing⟩
          · exact ⟨by dsimp only; omega, by dsimp only; omega, fun _ => rfl⟩
          · rw [idle] at writing
            exact absurd (writing (by omega)) Bool.false_ne_true
        | straight first behind _ =>
          exact Shape.straight first (by dsimp only; omega) (by dsimp only; omega)
        | taken first _ above =>
          have above := room (by omega)
          exact Shape.taken (by dsimp only; omega) (by dsimp only; omega) (by dsimp only; omega)
      · dsimp only
        omega
      · intro writing
        exact absurd writing.symm Bool.false_ne_true
      · exact fun _ => ⟨rfl, rfl⟩
      · exact fun wrapped => absurd wrapped Bool.false_ne_true
      · exact Rounds.nil
      · rfl
      · rfl
      · dsimp only
        rw [List.flatten_nil, List.length_nil]
        omega
      · exact unsent
      · exact fun wrapped => absurd wrapped Bool.false_ne_true
      · exact fun _ => Or.inr (Or.inr rfl)
      · exact starts
      · exact next_le
    · intro pending
      obtain ⟨inFlight, size, holds, inside, apart⟩ := flying pending
      refine ⟨inFlight, size, holds, inside, ?_⟩
      dsimp only
      rcases apart with behind | ⟨ends, _⟩ | ⟨_, above⟩
      · exact Or.inl (by omega)
      · exact Or.inl (by omega)
      · have above := room (by omega)
        exact Or.inr (Or.inr ⟨rfl, by omega⟩)
  · rw [enter_behind same]
    refine ⟨base, ?_, ?_, landed, delivered⟩
    · obtain ⟨shape, cur_le, -, straight, round, rounds, upperHolds, lowerHolds, cur, unsent,
        inside, saved, starts, next_le⟩ := layout
      refine ⟨?_, cur_le, ?_, straight, round, rounds, upperHolds, lowerHolds, cur, unsent, inside,
        fun _ => Or.inr (Or.inr rfl), starts, next_le⟩
      · cases shape with
        | fresh zero zeros =>
          apply Shape.fresh
          · exact zero
          rcases zeros with ⟨_, _, _⟩ | ⟨eight, long, _⟩
          · exact absurd (by omega) same
          · exact Or.inr ⟨eight, long, fun _ => rfl⟩
        | straight first behind le => exact Shape.straight first behind le
        | taken first le above => exact Shape.taken first le above
        | wrapped first behind below long => exact Shape.wrapped first behind below long
      · intro writing
        exact absurd writing.symm Bool.false_ne_true
    · intro pending
      obtain ⟨inFlight, size, holds, inside, apart⟩ := flying pending
      refine ⟨inFlight, size, holds, inside, ?_⟩
      rcases apart with room | ⟨ends, saved | ⟨at_, _⟩⟩ | above
      · exact Or.inl room
      · exact Or.inr (Or.inl ⟨ends, Or.inl saved⟩)
      · exact absurd at_ same
      · exact Or.inr (Or.inr above)

theorem enter_positions (ring : UsbRing) :
    ring.enter.nextBulkOutPosition = ring.nextBulkOutPosition ∧ ring.enter.bCurWriting = true ∧
      ring.enter.bCopySavePad = ring.bCopySavePad ∧
      ring.enter.bulkOutPending = ring.bulkOutPending ∧
      ring.enter.curWriteRealPos = ring.enter.curWritePosition ∧
      (ring.eNextBulkOutPosition = ring.curWritePosition ∧
          ring.enter.curWritePosition = ring.curWritePosition + 8 ∧
          ring.enter.eNextBulkOutPosition = ring.eNextBulkOutPosition + 8 ∨
        ring.eNextBulkOutPosition ≠ ring.curWritePosition ∧
          ring.enter.curWritePosition = ring.curWritePosition ∧
          ring.enter.eNextBulkOutPosition = ring.eNextBulkOutPosition) := by
  by_cases same : ring.eNextBulkOutPosition = ring.curWritePosition
  · rw [enter_reserved same]
    exact ⟨rfl, rfl, rfl, rfl, rfl, Or.inl ⟨same, rfl, rfl⟩⟩
  · rw [enter_behind same]
    exact ⟨rfl, rfl, rfl, rfl, rfl, Or.inr ⟨same, rfl, rfl⟩⟩

/-- What was asked for is found behind the reserved bytes. -/
theorem Layout.room (layout : ring.Layout wraps upper lower base) {reqCnt : Nat}
    (can : ring.canDoWrite = true) (asked : ring.freeDescRequest reqCnt = true) :
    Room ring.enter.toHtTxContext wraps reqCnt := by
  obtain ⟨idle, top, _⟩ := HtTxContext.canDoWrite_spec can
  obtain ⟨granted, first⟩ := HtTxContext.freeDescRequest_spec asked
  obtain ⟨next, _, _, _, _, moved⟩ := enter_positions ring
  unfold localTxbufSize at *
  constructor
  · rw [next]
    intro under
    have asked := granted (by omega)
    unfold localTxbufSize
    omega
  · rintro rfl
    rw [next]
    cases layout.shape with
    | wrapped _ behind place _ =>
      rcases place with eight | above
      · have asked := first eight
        omega
      · omega
  · rw [next]
    intro zero
    cases layout.shape with
    | fresh _ zeros =>
      rcases zeros with ⟨_, _, _⟩ | ⟨eight, _, writing⟩
      · unfold maxTxbulkLimit localTxbufSize bulkaggreSize
        omega
      · have room := top eight
        omega
    | straight _ _ _ => omega
    | taken _ _ _ => omega
    | wrapped _ _ _ _ => omega

/-- Where a writer may store. -/
theorem Held.free (held : ring.Held wraps upper lower flight base)
    (writing : ring.bCurWriting = true) {reqCnt total position count : Nat}
    (room : Room ring.toHtTxContext wraps reqCnt) (fits : Fits ring.toHtTxContext reqCnt total)
    (behind : ring.curWritePosition ≤ position)
    (pad : ring.eNextBulkOutPosition = ring.curWritePosition → ring.bCopySavePad = true →
      ring.curWritePosition + 8 ≤ position)
    (ends : position + count ≤ ring.curWritePosition + total + 8) :
    ring.Free wraps position count where
  behind := behind
  pad := pad
  below under := by
    have granted := room.below under
    have asked := fits.below under
    omega
  apart := room.apart
  inside := by
    have short := fits.short
    have le := held.layout.cur_le
    have longest : maxFrameLen = 3868 := by decide
    have limit : maxTxbulkLimit = 202752 := by decide
    have size : maxTxbulkSize = 204800 := by decide
    omega
  writing := writing

/-- Bytes in the ring that belong to no frame that is not sent and to nothing in flight. -/
structure Apart (ring : UsbRing) (span : Span) : Prop where
  inside : span.start + span.count ≤ maxTxbulkSize
  unsent : ∀ placed ∈ ring.unsent, span.start + span.count ≤ placed.start ∨
    placed.start + placed.frame.length ≤ span.start
  inFlight : ring.bulkOutPending = true → span.start + span.count ≤ ring.nextBulkOutPosition ∨
    ring.nextBulkOutPosition + ring.bulkOutSize ≤ span.start

theorem Held.apart (held : ring.Held wraps upper lower flight base) {position count : Nat}
    (free : ring.Free wraps position count) : ring.Apart ⟨position, count⟩ where
  inside := free.inside
  unsent placed member := by
    rw [held.layout.unsent] at member
    dsimp only
    rcases List.mem_append.mp member with high | low
    · obtain ⟨after, _, listed⟩ := mem_placesFrom high
      cases wraps with
      | true =>
        have below := free.below (free.apart rfl)
        cases held.layout.shape
        exact Or.inl (by omega)
      | false =>
        rw [(held.layout.straight rfl).1] at listed
        exact absurd listed List.not_mem_nil
    · obtain ⟨_, before, _⟩ := mem_placesFrom low
      have behind := free.behind
      have cur := held.layout.cur
      exact Or.inr (by omega)
  inFlight pending := by
    have flying := held.flying pending
    rw [flying.size]
    exact flying.apart_free held.layout free

theorem Apart.of_enter {span : Span} (apart : ring.enter.Apart span) : ring.Apart span where
  inside := apart.inside
  unsent := apart.unsent
  inFlight pending := by
    have away := apart.inFlight pending
    rw [(enter_positions ring).1] at away
    exact away

end UsbRing

end Mt7612u.Transmit
