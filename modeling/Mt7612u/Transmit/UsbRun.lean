import Mt7612u.Transmit.UsbBulkOut

/-! Runs of the bulk ring: frames are written, batches are taken, transfers end, in any order that
the lock allows. -/

namespace Mt7612u.Transmit
open Receive (Memory Span align4)
open Library.Run

namespace UsbRing

/-- `RTUSBFreeDescRequest` has answered yes for the first call of a write; with `reqCnt = 0` it says
no more than `RtmpUSBCanDoWrite` does. -/
def Admitted (ring : UsbRing) (reqCnt total : Nat) : Prop :=
  ring.freeDescRequest reqCnt = true ∧ Fits ring.enter.toHtTxContext reqCnt total

/-- The writer has copied its packet, and the next call for the same frames may follow. -/
def Continues (ring : UsbRing) (single : Bool) (more : Writer → Nat) : Prop :=
  match ring.writer with
  | none => False
  | some writer =>
      writer.copy.isNone = true ∧ writer.ending.isNone = true ∧
        (if single then writer.laid = [] else writer.frames = []) ∧
        Fits ring.toHtTxContext writer.reqCnt (more writer)

/-- The next fragment of a packet starts where a frame of its own could. -/
def FragmentStarts (ring : UsbRing) : Prop :=
  ∀ writer ∈ ring.writer, ring.curWritePosition + writer.priv + 3898 ≤ maxTxbulkLimit

/-- The writers call in turn and their frames fit; `RtmpUSB_FinalWriteTxResource` comes when no
bulk-out has ended at the frame that is being written. -/
def Allowed (ring : UsbRing) : RingEvent → Prop
  | .writeSingle reqCnt pTxBlk srcBuf => ring.Admitted reqCnt (privLen pTxBlk srcBuf)
  | .writeFrag reqCnt pTxBlk fragNum _ srcBuf =>
      if fragNum = 0 then ring.Admitted reqCnt (privLen pTxBlk srcBuf)
      else ring.Continues true (fun writer => writer.priv + privLen pTxBlk srcBuf) ∧
        ring.FragmentStarts
  | .writeMulti reqCnt pTxBlk frmNum srcBuf =>
      if frmNum = 0 then ring.Admitted reqCnt
        (mtDmaHdrLen + align4 (hdrCopyLen pTxBlk + srcBuf.length - mtDmaHdrLen))
      else ring.Continues false fun writer => mtDmaHdrLen +
        align4 (writer.priv + pTxBlk.mpduHeaderLen + srcBuf.length - mtDmaHdrLen)
  | .finalWrite _ _ =>
      match ring.writer with
      | none => False
      | some writer =>
          writer.copy.isNone = true ∧ writer.frames = [] ∧ ring.inSavedPad = false
  | .copySrcBuf | .leave | .bulkOut _ | .bulkOutComplete => True

/-- What a step stores lies in the buffer. A writer stores where no frame that is not sent and
nothing in flight is; a bulk-out stores in the frames that it takes, and its zeros on bytes that are
in `SavedPad` or that belong to nothing. -/
def StoresSafely (ring next : UsbRing) : RingEvent → Prop
  | .bulkOut _ => ∀ span ∈ next.stored,
      span.start + span.count ≤ maxTxbulkSize ∧
          (∃ placed ∈ ring.unsent, placed ∈ next.inFlight ∧
            span.Within ⟨placed.start, placed.frame.length⟩) ∨
        Ends ring next span
  | _ => ∀ span ∈ next.stored, ring.Apart span

variable {ring : UsbRing}

theorem Inv.clearStored {wraps : Bool} {upper lower flight : List (List UInt8)} {base : Nat}
    (inv : ring.Inv wraps upper lower flight base) :
    { ring with stored := [] }.Inv wraps upper lower flight base := by
  obtain ⟨held, cur, idle, writing⟩ := inv
  refine ⟨held.writer _ _ _, cur, idle, ?_⟩
  intro writer found
  obtain ⟨total, phase, room, fits, holds, ahead, ending, starts, start⟩ := writing writer found
  exact ⟨total, phase, room, fits, holds, ahead, ending, starts, start⟩

theorem Good.clearStored (good : ring.Good) : { ring with stored := [] }.Good := by
  obtain ⟨wraps, upper, lower, flight, base, inv⟩ := good
  exact inv.clearStored.good

theorem Apart.clearStored {span : Span} (apart : { ring with stored := [] }.Apart span) :
    ring.Apart span := ⟨apart.inside, apart.unsent, apart.inFlight⟩

/-- A step of a writer, seen from the ring it started in. -/
theorem Kept.clearStored {next : UsbRing} (kept : { ring with stored := [] }.Kept next) :
    next.Good ∧ ∀ span ∈ next.stored, ring.Apart span := by
  refine ⟨kept.good, fun span member => ?_⟩
  rcases kept.adds span member with old | apart
  · exact absurd old List.not_mem_nil
  · exact apart.clearStored

theorem none_of_isNone {α : Type} {value : Option α} (empty : value.isNone = true) : value = none :=
  Option.isNone_iff_eq_none.mp empty

/-- What a step does to the invariant and where it stores. -/
def Handled (ring next : UsbRing) : RingEvent → Prop
  | .bulkOut _ => next.Good ∧ BatchStores ring next
  | _ => ring.Kept next

theorem Good.handle (good : ring.Good) {event : RingEvent} (allowed : ring.Allowed event) :
    Handled ring (ring.handle event) event := by
  cases event with
  | writeSingle reqCnt pTxBlk srcBuf => exact good.writeSingle allowed.1 allowed.2
  | writeFrag reqCnt pTxBlk fragNum totalFragNum srcBuf =>
    by_cases first : fragNum = 0
    · subst first
      exact good.writeFragFirst allowed.1 allowed.2
    · have both : ring.Continues true (fun writer => writer.priv + privLen pTxBlk srcBuf) ∧
          ring.FragmentStarts := Eq.mp (if_neg first) allowed
      obtain ⟨later, starts⟩ := both
      unfold Continues at later
      cases found : ring.writer with
      | none =>
        rw [found] at later
        exact later.elim
      | some writer =>
        rw [found] at later
        obtain ⟨copied, ongoing, whole, fits⟩ := later
        exact good.writeFragNext first found (none_of_isNone copied) whole
          (none_of_isNone ongoing) fits (starts writer found)
  | writeMulti reqCnt pTxBlk frmNum srcBuf =>
    by_cases first : frmNum = 0
    · subst first
      exact good.writeMultiFirst allowed.1 allowed.2
    · have later : ring.Continues false fun writer => mtDmaHdrLen +
          align4 (writer.priv + pTxBlk.mpduHeaderLen + srcBuf.length - mtDmaHdrLen) :=
        Eq.mp (if_neg first) allowed
      unfold Continues at later
      cases found : ring.writer with
      | none =>
        rw [found] at later
        exact later.elim
      | some writer =>
        rw [found] at later
        obtain ⟨copied, _, single, fits⟩ := later
        exact good.writeMultiNext first found (none_of_isNone copied) single fits
  | copySrcBuf =>
    change ring.Kept _
    unfold UsbRing.handle
    cases found : ring.writer with
    | none => exact good.kept
    | some writer =>
      cases copying : writer.copy with
      | none => simpa only [copying] using good.kept
      | some copy => simpa only [copying] using good.copySrcBuf found copying
  | leave =>
    change ring.Kept _
    unfold UsbRing.handle
    cases found : ring.writer with
    | none => exact good.kept
    | some writer =>
      cases copied : writer.copy with
      | some copy => simpa only [copied] using good.kept
      | none =>
        cases ended : writer.ending with
        | none => simpa only [copied, ended] using good.kept
        | some last => simpa only [copied, ended] using good.leave found ended copied
  | finalWrite pTxBlk totalMPDUSize =>
    change ring.Kept _
    unfold Allowed at allowed
    unfold UsbRing.handle
    cases found : ring.writer with
    | none =>
      rw [found] at allowed
      exact allowed.elim
    | some writer =>
      rw [found] at allowed
      obtain ⟨copied, single, unsaved⟩ := allowed
      exact good.finalWrite found (none_of_isNone copied) single unsaved totalMPDUSize
  | bulkOut setting => exact good.bulkOut setting
  | bulkOutComplete =>
    obtain ⟨kept, same⟩ := good.bulkOutComplete
    refine ⟨kept, fun span member => Or.inl ?_⟩
    rw [← same]
    exact member

/-- Every step that is allowed keeps the invariant and stores safely. -/
theorem Good.step (good : ring.Good) {event : RingEvent} (allowed : ring.Allowed event) :
    (ring.step event).Good ∧ StoresSafely ring (ring.step event) event := by
  have same : { ring with stored := [] }.Allowed event := by
    cases event <;> exact allowed
  have handled := good.clearStored.handle same
  cases event with
  | bulkOut setting =>
    obtain ⟨kept, stores⟩ := handled
    refine ⟨kept, fun span member => ?_⟩
    rcases stores span member with old | taken | ends
    · exact absurd old List.not_mem_nil
    · exact Or.inl taken
    · obtain ⟨inside, saved⟩ := ends
      exact Or.inr ⟨inside, saved⟩
  | writeSingle reqCnt pTxBlk srcBuf => exact handled.clearStored
  | writeFrag reqCnt pTxBlk fragNum totalFragNum srcBuf => exact handled.clearStored
  | writeMulti reqCnt pTxBlk frmNum srcBuf => exact handled.clearStored
  | copySrcBuf => exact handled.clearStored
  | leave => exact handled.clearStored
  | finalWrite pTxBlk totalMPDUSize => exact handled.clearStored
  | bulkOutComplete => exact handled.clearStored

theorem good_cleared (wirelessPacket savedPad : Memory) :
    (cleared wirelessPacket savedPad).Good := by
  refine ⟨false, [], [], [], 0, ⟨⟨Shape.fresh rfl (Or.inl ⟨rfl, rfl, rfl⟩),
    show 0 + 3898 ≤ maxTxbulkLimit by decide, fun _ => show 0 + 3906 ≤ maxTxbulkLimit by decide,
    fun _ => ⟨rfl, rfl⟩, fun wrapped => absurd wrapped Bool.false_ne_true,
    Rounds.nil, rfl, rfl, rfl, rfl, fun wrapped => absurd wrapped Bool.false_ne_true,
    fun saved => absurd saved Bool.false_ne_true, fun _ none => absurd none List.not_mem_nil,
    show 0 + 3898 ≤ maxTxbulkLimit by decide⟩,
    fun pending => absurd pending Bool.false_ne_true, fun _ => ⟨rfl, rfl⟩, ⟨[], rfl, rfl⟩⟩, rfl,
    fun _ => rfl, fun writer none => absurd none.symm (Option.some_ne_none _)⟩

theorem good_run (wirelessPacket savedPad : Memory) (events : List RingEvent)
    (along : Throughout step Allowed (cleared wirelessPacket savedPad) events) :
    (run step (cleared wirelessPacket savedPad) events).Good :=
  run_invariant Good (fun _ _ good allowed => (good.step allowed).1)
    (good_cleared wirelessPacket savedPad) events along

theorem throughout_snoc {start : UsbRing} {events : List RingEvent} {event : RingEvent}
    (along : Throughout step Allowed start (events ++ [event])) :
    Throughout step Allowed start events ∧ (run step start events).Allowed event := by
  induction events generalizing start with
  | nil => exact ⟨trivial, along.1⟩
  | cons first rest ih =>
    obtain ⟨before, last⟩ := ih along.2
    exact ⟨⟨along.1, before⟩, last⟩

/-- In every run each step stores safely, and what is to be sent is never mistaken for nothing. -/
theorem bulkRing_storesSafely (wirelessPacket savedPad : Memory) (events : List RingEvent)
    (event : RingEvent)
    (along : Throughout step Allowed (cleared wirelessPacket savedPad) (events ++ [event])) :
    let ring := run step (cleared wirelessPacket savedPad) events
    StoresSafely ring (ring.step event) event ∧
      ((ring.step event).nothingToSend = true ↔ (ring.step event).unsent = []) := by
  obtain ⟨before, allowed⟩ := throughout_snoc along
  have good := good_run wirelessPacket savedPad events before
  obtain ⟨next, stores⟩ := good.step allowed
  obtain ⟨_, _, _, _, _, inv⟩ := next
  exact ⟨stores, inv.held.layout.nothingToSend_iff⟩

/-- A frame of 52 bytes. -/
def shortBlk : TxBlk := ⟨fun _ => 0, 24, 0, 0⟩

/-- Two frames are written, and a batch is taken. -/
def twoFrames (usbAggregation : Bool) : List RingEvent :=
  [.writeSingle 0 shortBlk [1, 2, 3, 4], .copySrcBuf, .leave,
    .writeSingle 0 shortBlk [5, 6, 7, 8], .copySrcBuf, .leave,
    .bulkOut ⟨true, false, usbAggregation, 512⟩]

def zeros : Memory := fun _ => 0

theorem twoFrames_allowed (usbAggregation : Bool) :
    Throughout step Allowed (cleared zeros zeros) (twoFrames usbAggregation ++ [.bulkOutComplete]) := by
  cases usbAggregation <;>
    exact ⟨⟨by decide +kernel, by decide +kernel, by decide +kernel⟩, trivial, trivial,
      ⟨by decide +kernel, by decide +kernel, by decide +kernel⟩, trivial, trivial, trivial, trivial,
      trivial⟩

theorem bulkRing_storesSafely_twoFrames :
    Throughout step Allowed (cleared zeros zeros) (twoFrames true ++ [.bulkOutComplete]) ∧
      StoresSafely (run step (cleared zeros zeros) (twoFrames true))
        ((run step (cleared zeros zeros) (twoFrames true)).step .bulkOutComplete)
        .bulkOutComplete ∧
      (((run step (cleared zeros zeros) (twoFrames true)).step .bulkOutComplete).nothingToSend = true ↔
        ((run step (cleared zeros zeros) (twoFrames true)).step .bulkOutComplete).unsent = []) :=
  ⟨twoFrames_allowed true, bulkRing_storesSafely zeros zeros _ _ (twoFrames_allowed true)⟩

/-- The zeros behind a batch are stored on the next frame. -/
theorem not_bulkRing_storesApart :
    ¬∀ (wirelessPacket savedPad : Memory) (events : List RingEvent),
      Throughout step Allowed (cleared wirelessPacket savedPad) events →
        let ring := run step (cleared wirelessPacket savedPad) events
        ∀ span ∈ ring.stored, ∀ placed ∈ ring.unsent,
          span.start + span.count ≤ placed.start ∨
            placed.start + placed.frame.length ≤ span.start := by
  intro apart
  have along := (throughout_snoc (twoFrames_allowed false)).1
  have found := apart zeros zeros _ along
  have hit : ∃ span ∈ (run step (cleared zeros zeros) (twoFrames false)).stored,
      ∃ placed ∈ (run step (cleared zeros zeros) (twoFrames false)).unsent,
        ¬(span.start + span.count ≤ placed.start ∨
          placed.start + placed.frame.length ≤ span.start) := by
    decide +kernel
  obtain ⟨span, stored, placed, unsent, touched⟩ := hit
  exact touched (found span stored placed unsent)

theorem map_placesFrom (start : Nat) (frames : List (List UInt8)) :
    (placesFrom start frames).map Placed.frame = frames := by
  induction frames generalizing start with
  | nil => rfl
  | cons frame rest ih => exact congrArg (frame :: ·) (ih _)

/-- In every run the transfers are the frames that were written, in batches and in order; those that
are missing are in flight or still in the ring. -/
theorem bulkRing_delivers (wirelessPacket savedPad : Memory) (events : List RingEvent)
    (along : Throughout step Allowed (cleared wirelessPacket savedPad) events) :
    let ring := run step (cleared wirelessPacket savedPad) events
    ∃ batches : List (List (List UInt8)),
      ring.transfers = batches.map (fun batch => asSent batch ++ List.replicate 4 0) ∧
        ring.written = batches.flatten ++ (ring.inFlight ++ ring.unsent).map Placed.frame := by
  obtain ⟨_, upper, lower, flight, _, inv⟩ := good_run wirelessPacket savedPad events along
  obtain ⟨batches, transfers, written⟩ := inv.held.delivered
  refine ⟨batches, transfers, ?_⟩
  have inFlight : (run step (cleared wirelessPacket savedPad) events).inFlight.map Placed.frame =
      flight := by
    cases pending : (run step (cleared wirelessPacket savedPad) events).bulkOutPending with
    | true => rw [(inv.held.flying pending).inFlight, map_placesFrom]
    | false =>
      obtain ⟨rfl, none⟩ := inv.held.landed pending
      rw [none]
      rfl
  rw [written, List.map_append, inFlight, inv.held.layout.unsent, List.map_append, map_placesFrom,
    map_placesFrom]

theorem bulkRing_delivers_twoFrames :
    Throughout step Allowed (cleared zeros zeros) (twoFrames true ++ [.bulkOutComplete]) ∧
      ∃ batches : List (List (List UInt8)),
        (run step (cleared zeros zeros) (twoFrames true ++ [.bulkOutComplete])).transfers =
            batches.map (fun batch => asSent batch ++ List.replicate 4 0) ∧
          (run step (cleared zeros zeros) (twoFrames true ++ [.bulkOutComplete])).written =
            batches.flatten ++
              ((run step (cleared zeros zeros) (twoFrames true ++ [.bulkOutComplete])).inFlight ++
                (run step (cleared zeros zeros) (twoFrames true ++ [.bulkOutComplete])).unsent).map
                  Placed.frame :=
  ⟨twoFrames_allowed true, bulkRing_delivers zeros zeros _ (twoFrames_allowed true)⟩

/-- The TXINFO of a frame that another one follows is not sent as it was written. -/
theorem not_bulkRing_deliversBytes :
    ¬∀ (wirelessPacket savedPad : Memory) (events : List RingEvent),
      Throughout step Allowed (cleared wirelessPacket savedPad) events →
        let ring := run step (cleared wirelessPacket savedPad) events
        ring.inFlight = [] → ring.unsent = [] →
          (ring.transfers.map fun transfer => transfer.take (transfer.length - 4)).flatten =
            ring.written.flatten := by
  intro same
  have found := same zeros zeros _ (twoFrames_allowed true) rfl rfl
  exact absurd found (by decide +kernel)

end UsbRing

end Mt7612u.Transmit
