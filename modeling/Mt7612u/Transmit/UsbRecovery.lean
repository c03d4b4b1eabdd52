import Mt7612u.Transmit.UsbRun

/-! A transfer that fails: `usb_submit_urb` refuses it, or it ends with an error and
`ResetBulkOutHdlr` submits it anew. -/

namespace Mt7612u.Transmit
open Receive (Memory Span)
open Library.Run

namespace UsbRing

/-- `RTUSBBulkOutDataPacket` where `usb_submit_urb` refuses the transfer: the flag goes back, the
positions stay behind the batch. -/
def bulkOutDataPacketRefused (ring : UsbRing) (setting : BulkSetting) : UsbRing :=
  if ring.bulkOutPending then ring
  else { ring.bulkOutDataPacket setting with bulkOutPending := false, inFlight := [] }

/-- `rtusb_dataout_complete` with a status other than success: the flag is cleared and the positions
stay. -/
def bulkOutError (ring : UsbRing) : UsbRing := { ring with bulkOutPending := false }

/-- `ResetBulkOutHdlr` for a data pipe: the transfer is submitted from `NextBulkOutPosition` with its
old size, unless another one is pending. -/
def resetBulkOutHdlr (ring : UsbRing) (submitted : Bool) : UsbRing :=
  if !ring.bulkOutPending then
    if submitted then { ring with bulkOutPending := true } else { ring with bulkOutPending := false }
  else ring

/-- What may happen to the ring while `fRTMP_ADAPTER_BULKOUT_RESET` stops all bulk-outs. -/
def Stopped : RingEvent → Prop
  | .bulkOut setting => setting.needStopTx = true
  | .bulkOutComplete => False
  | _ => True

/-- The ways to fail. At the end of a transfer with an error, a reset is asked for unless it is
`forbidden` by a flag that is set already (a reset for another pipe, or one of the device, its halt or
its absence); until the handler runs, the writers go on. -/
inductive Fault where
  | refused
  | error (forbidden : Bool) (meanwhile : List RingEvent) (submitted : Bool)

/-- The ring behind a call that takes a batch, its failure and what the driver does about it. -/
def afterFault (ring : UsbRing) (setting : BulkSetting) : Fault → UsbRing
  | .refused => ring.bulkOutDataPacketRefused setting
  | .error forbidden meanwhile submitted =>
      let waiting := run step (ring.bulkOutDataPacket setting).bulkOutError meanwhile
      if forbidden then waiting else waiting.resetBulkOutHdlr submitted

/-- The steps between the error and the handler are allowed. -/
def FaultAllowed (ring : UsbRing) (setting : BulkSetting) : Fault → Prop
  | .refused => True
  | .error _ meanwhile _ =>
      Throughout step (fun ring event => ring.Allowed event ∧ Stopped event)
        (ring.bulkOutDataPacket setting).bulkOutError meanwhile

/-- The batch is sent after all: it is in flight again with the same bytes, or the next bulk-out
starts where it stands. -/
def Resends (taken after : UsbRing) : Prop :=
  after.bulkOutPending = true ∧ after.nextBulkOutPosition = taken.nextBulkOutPosition ∧
      after.wirelessPacket.bytes after.nextBulkOutPosition after.bulkOutSize =
        taken.wirelessPacket.bytes taken.nextBulkOutPosition taken.bulkOutSize ∨
    after.bulkOutPending = false ∧ after.eNextBulkOutPosition = taken.nextBulkOutPosition

/-- A reset is asked for, and its transfer is taken. -/
def Fault.Repaired : Fault → Prop
  | .refused => False
  | .error forbidden _ submitted => forbidden = false ∧ submitted = true

section pending
variable {ring : UsbRing} {event : RingEvent}

/-- What a stopped step leaves as it is. -/
structure Untouched (ring next : UsbRing) : Prop where
  bulkOutPending : next.bulkOutPending = ring.bulkOutPending
  nextBulkOutPosition : next.nextBulkOutPosition = ring.nextBulkOutPosition
  bulkOutSize : next.bulkOutSize = ring.bulkOutSize
  inFlight : next.inFlight = ring.inFlight

theorem Untouched.refl (ring : UsbRing) : Untouched ring ring := ⟨rfl, rfl, rfl, rfl⟩

theorem Untouched.trans {first second third : UsbRing} (one : Untouched first second)
    (two : Untouched second third) : Untouched first third :=
  ⟨two.1.trans one.1, two.2.trans one.2, two.3.trans one.3, two.4.trans one.4⟩

theorem finalWrite_next (ring : BulkRing) (pTxBlk : TxBlk) (totalMPDUSize : Nat) :
    (ring.finalWriteTxResource pTxBlk totalMPDUSize).nextBulkOutPosition =
      ring.nextBulkOutPosition := by
  unfold BulkRing.finalWriteTxResource BulkRing.store
  dsimp only
  split_ifs <;> rfl

theorem enter_untouched (ring : UsbRing) : Untouched ring ring.enter := by
  refine ⟨rfl, ?_, rfl, rfl⟩
  change ring.toBulkRing.reserve.nextBulkOutPosition = _
  unfold BulkRing.reserve
  split_ifs <;> rfl

theorem copySrcBuf_untouched (ring : UsbRing) (writer : Writer) (copy : Copy) :
    Untouched ring (ring.copySrcBuf writer copy) := by
  unfold UsbRing.copySrcBuf
  cases copy.padding <;> exact ⟨rfl, rfl, rfl, rfl⟩

/-- The writers neither look at the flag nor move what is in flight. -/
theorem handle_stopped (stopped : Stopped event) (ring : UsbRing) :
    Untouched ring (ring.handle event) := by
  cases event with
  | writeSingle reqCnt pTxBlk srcBuf =>
    change Untouched ring (ring.writeSingleTxResource reqCnt pTxBlk srcBuf)
    unfold UsbRing.writeSingleTxResource
    split_ifs
    · exact (enter_untouched ring).trans ⟨rfl, rfl, rfl, rfl⟩
    · exact .refl ring
  | writeFrag reqCnt pTxBlk fragNum totalFragNum srcBuf =>
    change Untouched ring (ring.writeFragTxResource reqCnt pTxBlk fragNum totalFragNum srcBuf)
    unfold UsbRing.writeFragTxResource
    dsimp only
    split_ifs
    · exact (enter_untouched ring).trans ⟨rfl, rfl, rfl, rfl⟩
    · exact .refl ring
    · cases ring.writer <;> exact ⟨rfl, rfl, rfl, rfl⟩
  | writeMulti reqCnt pTxBlk frmNum srcBuf =>
    change Untouched ring (ring.writeMultiTxResource reqCnt pTxBlk frmNum srcBuf)
    unfold UsbRing.writeMultiTxResource
    dsimp only
    split_ifs
    · exact (enter_untouched ring).trans ⟨rfl, rfl, rfl, rfl⟩
    · exact .refl ring
    · cases ring.writer <;> exact ⟨rfl, rfl, rfl, rfl⟩
  | copySrcBuf =>
    unfold UsbRing.handle
    cases ring.writer with
    | none => exact .refl ring
    | some writer =>
      cases copying : writer.copy with
      | none => simpa only [copying] using Untouched.refl ring
      | some copy => simpa only [copying] using copySrcBuf_untouched ring writer copy
  | leave =>
    unfold UsbRing.handle
    cases ring.writer with
    | none => exact .refl ring
    | some writer =>
      cases copied : writer.copy with
      | some copy => simpa only [copied] using Untouched.refl ring
      | none =>
        cases ended : writer.ending with
        | none => simpa only [copied, ended] using Untouched.refl ring
        | some last =>
          simpa only [copied, ended] using
            (⟨rfl, rfl, rfl, rfl⟩ : Untouched ring (ring.leave writer last))
  | finalWrite pTxBlk totalMPDUSize =>
    unfold UsbRing.handle
    cases ring.writer with
    | none => exact .refl ring
    | some writer => exact ⟨rfl, finalWrite_next _ _ _, rfl, rfl⟩
  | bulkOut setting =>
    change Untouched ring (ring.bulkOutDataPacket setting)
    rw [bulkOut_idle (Or.inr (Or.inl stopped))]
    exact .refl ring
  | bulkOutComplete => exact stopped.elim

/-- A step of a ring whose flag is set otherwise. -/
theorem handle_flagged (stopped : Stopped event) (ring : UsbRing) (flag : Bool) :
    { ring with bulkOutPending := flag }.handle event =
      { ring.handle event with bulkOutPending := flag } := by
  cases event with
  | writeSingle reqCnt pTxBlk srcBuf =>
    change UsbRing.writeSingleTxResource _ reqCnt pTxBlk srcBuf =
      { ring.writeSingleTxResource reqCnt pTxBlk srcBuf with bulkOutPending := flag }
    unfold UsbRing.writeSingleTxResource
    dsimp only
    split_ifs <;> rfl
  | writeFrag reqCnt pTxBlk fragNum totalFragNum srcBuf =>
    obtain ⟨base, real, pending, size, writer⟩ := ring
    change UsbRing.writeFragTxResource _ reqCnt pTxBlk fragNum totalFragNum srcBuf =
      { UsbRing.writeFragTxResource _ reqCnt pTxBlk fragNum totalFragNum srcBuf with
        bulkOutPending := flag }
    unfold UsbRing.writeFragTxResource
    dsimp only
    split_ifs
    · rfl
    · rfl
    · cases writer <;> rfl
  | writeMulti reqCnt pTxBlk frmNum srcBuf =>
    obtain ⟨base, real, pending, size, writer⟩ := ring
    change UsbRing.writeMultiTxResource _ reqCnt pTxBlk frmNum srcBuf =
      { UsbRing.writeMultiTxResource _ reqCnt pTxBlk frmNum srcBuf with bulkOutPending := flag }
    unfold UsbRing.writeMultiTxResource
    dsimp only
    split_ifs
    · rfl
    · rfl
    · cases writer <;> rfl
  | copySrcBuf =>
    obtain ⟨base, real, pending, size, writer⟩ := ring
    rcases writer with _ | ⟨reqCnt, priv, frames, laid, copy, ending⟩
    · rfl
    · rcases copy with _ | ⟨position, srcBuf, padding⟩
      · rfl
      · cases padding <;> rfl
  | leave =>
    obtain ⟨base, real, pending, size, writer⟩ := ring
    rcases writer with _ | ⟨reqCnt, priv, frames, laid, copy, ending⟩
    · rfl
    · cases copy <;> cases ending <;> rfl
  | finalWrite pTxBlk totalMPDUSize =>
    obtain ⟨base, real, pending, size, writer⟩ := ring
    cases writer <;> rfl
  | bulkOut setting =>
    change UsbRing.bulkOutDataPacket _ setting =
      { ring.bulkOutDataPacket setting with bulkOutPending := flag }
    rw [bulkOut_idle (Or.inr (Or.inl stopped)), bulkOut_idle (Or.inr (Or.inl stopped))]
  | bulkOutComplete => exact stopped.elim

theorem step_stopped (stopped : Stopped event) (ring : UsbRing) :
    Untouched ring (ring.step event) :=
  (⟨rfl, rfl, rfl, rfl⟩ : Untouched ring { ring with stored := [] }).trans
    (handle_stopped stopped _)

theorem step_flagged (stopped : Stopped event) (ring : UsbRing) (flag : Bool) :
    { ring with bulkOutPending := flag }.step event =
      { ring.step event with bulkOutPending := flag } :=
  handle_flagged stopped { ring with stored := [] } flag

/-- A step while bulk-outs are stopped, of a ring whose transfer has ended with an error. -/
theorem Good.stopped_step {taken : UsbRing} (good : taken.Good) (pending : taken.bulkOutPending = true)
    (allowed : taken.bulkOutError.Allowed event) (stopped : Stopped event) :
    (taken.step event).Good ∧ (taken.step event).bulkOutPending = true ∧
      taken.bulkOutError.step event = (taken.step event).bulkOutError := by
  have same : taken.Allowed event := by
    cases event <;> exact allowed
  exact ⟨(good.step same).1, (step_stopped stopped taken).bulkOutPending.trans pending,
    step_flagged stopped taken false⟩

/-- The run between the error and the handler is that of a ring with the transfer in flight, but for
the flag. -/
theorem Good.stopped_run {taken : UsbRing} (good : taken.Good)
    (pending : taken.bulkOutPending = true) {meanwhile : List RingEvent}
    (along : Throughout UsbRing.step (fun ring event => ring.Allowed event ∧ Stopped event)
      taken.bulkOutError meanwhile) :
    (run UsbRing.step taken meanwhile).Good ∧ Untouched taken (run UsbRing.step taken meanwhile) ∧
      run UsbRing.step taken.bulkOutError meanwhile =
        (run UsbRing.step taken meanwhile).bulkOutError := by
  induction meanwhile generalizing taken with
  | nil => exact ⟨good, .refl taken, rfl⟩
  | cons event rest ih =>
    obtain ⟨⟨allowed, stopped⟩, later⟩ := along
    obtain ⟨next, flying, same⟩ := good.stopped_step pending allowed stopped
    rw [same] at later
    obtain ⟨kept, untouched, last⟩ := ih next flying later
    refine ⟨kept, (step_stopped stopped taken).trans untouched, ?_⟩
    change run UsbRing.step (taken.bulkOutError.step event) rest = _
    rw [same]
    exact last

theorem placesFrom_injective {start : Nat} {first second : List (List UInt8)}
    (same : placesFrom start first = placesFrom start second) : first = second := by
  rw [← map_placesFrom start first, same, map_placesFrom]

theorem Good.flight {ring : UsbRing} (good : ring.Good) (pending : ring.bulkOutPending = true) :
    ∃ wraps flight, ring.Flight wraps flight := by
  obtain ⟨wraps, upper, lower, flight, base, inv⟩ := good
  exact ⟨wraps, flight, inv.held.flying pending⟩

/-- The bytes of a transfer are those of its frames. -/
theorem Flight.bytes {ring : UsbRing} {wraps : Bool} {flight : List (List UInt8)}
    (flying : ring.Flight wraps flight) :
    ring.wirelessPacket.bytes ring.nextBulkOutPosition ring.bulkOutSize =
      asSent flight ++ List.replicate 4 0 := by
  have length : ring.bulkOutSize = (asSent flight ++ List.replicate 4 (0 : UInt8)).length := by
    rw [flying.size, List.length_append, length_asSent, List.length_replicate]
  rw [length]
  exact flying.holds

/-- What is in flight lies as it was taken, whatever has been written beside it. -/
theorem Good.sameBytes {taken after : UsbRing} (good : taken.Good) (kept : after.Good)
    (pending : taken.bulkOutPending = true) (untouched : Untouched taken after) :
    after.wirelessPacket.bytes after.nextBulkOutPosition after.bulkOutSize =
      taken.wirelessPacket.bytes taken.nextBulkOutPosition taken.bulkOutSize := by
  obtain ⟨_, first, before⟩ := good.flight pending
  obtain ⟨_, second, behind⟩ := kept.flight (untouched.bulkOutPending.trans pending)
  have same : placesFrom taken.nextBulkOutPosition second =
      placesFrom taken.nextBulkOutPosition first := by
    rw [← before.inFlight, ← untouched.inFlight, behind.inFlight, untouched.nextBulkOutPosition]
  rw [before.bytes, behind.bytes, placesFrom_injective same]

/-- A batch in flight leaves `ENextBulkOutPosition` somewhere else. -/
theorem Good.eNext_ne {ring : UsbRing} (good : ring.Good) (later : 8 ≤ ring.nextBulkOutPosition) :
    ring.eNextBulkOutPosition ≠ ring.nextBulkOutPosition := by
  obtain ⟨wraps, upper, lower, flight, base, inv⟩ := good
  intro same
  cases inv.held.layout.shape with
  | fresh next _ => omega
  | straight => omega
  | taken => omega
  | wrapped => omega

/-- A call that takes a batch has a frame to take, which is never at the start of the buffer. -/
theorem Good.bulkOut_taken {ring : UsbRing} (good : ring.Good) {setting : BulkSetting}
    (idle : ring.bulkOutPending = false)
    (pending : (ring.bulkOutDataPacket setting).bulkOutPending = true) :
    8 ≤ (ring.bulkOutDataPacket setting).nextBulkOutPosition := by
  rcases good.bulkOut_cases setting with same | ⟨batch, lastRound, sent, took, after⟩
  · rw [same, idle] at pending
    exact absurd pending Bool.false_ne_true
  · rw [after]
    change 8 ≤ ring.eNextBulkOutPosition
    obtain ⟨wraps, upper, lower, flight, base, inv⟩ := good
    have left : ring.unsent ≠ [] := by
      obtain ⟨places, unsent⟩ := took.unsent
      rw [unsent]
      exact fun none => took.some_ (placesFrom_eq_nil.mp (List.append_eq_nil_iff.mp none).1)
    cases inv.held.layout.shape with
    | fresh _ start =>
      rcases start with ⟨first, cur, _⟩ | ⟨first, _, _⟩
      · have nothing : ring.nothingToSend = true := by
          unfold nothingToSend
          rw [first, cur]
          rfl
        exact absurd (inv.held.layout.nothingToSend_iff.mp nothing) left
      · exact first.ge
    | straight => omega
    | taken => assumption
    | wrapped => omega

/-- With nothing in flight, the batch is passed over. -/
theorem not_resends {taken after kept : UsbRing} (good : kept.Good)
    (later : 8 ≤ kept.nextBulkOutPosition)
    (next : kept.nextBulkOutPosition = taken.nextBulkOutPosition)
    (behind : after.eNextBulkOutPosition = kept.eNextBulkOutPosition)
    (idle : after.bulkOutPending = false) : ¬Resends taken after := by
  rintro (⟨pending, _⟩ | ⟨_, same⟩)
  · rw [idle] at pending
    exact Bool.false_ne_true pending
  · exact good.eNext_ne later (behind.symm.trans (same.trans next.symm))

theorem Good.resends_iff {ring : UsbRing} (good : ring.Good) {setting : BulkSetting}
    {fault : Fault} (idle : ring.bulkOutPending = false)
    (pending : (ring.bulkOutDataPacket setting).bulkOutPending = true)
    (allowed : ring.FaultAllowed setting fault) :
    Resends (ring.bulkOutDataPacket setting) (ring.afterFault setting fault) ↔ fault.Repaired := by
  have taken := (good.bulkOut setting).1
  have later := good.bulkOut_taken idle pending
  cases fault with
  | refused =>
    refine iff_of_false ?_ id
    have passed : ring.afterFault setting .refused =
        { ring.bulkOutDataPacket setting with bulkOutPending := false, inFlight := [] } :=
      if_neg (Bool.eq_false_iff.mp idle)
    rw [passed]
    exact not_resends taken later rfl rfl rfl
  | error forbidden meanwhile submitted =>
    obtain ⟨kept, untouched, waiting⟩ := taken.stopped_run pending allowed
    have next := untouched.nextBulkOutPosition
    have still : 8 ≤ (run UsbRing.step (ring.bulkOutDataPacket setting)
        meanwhile).nextBulkOutPosition := later.trans next.ge
    unfold afterFault Fault.Repaired
    dsimp only
    rw [waiting]
    cases forbidden with
    | true =>
      exact iff_of_false (not_resends kept still next rfl rfl)
        fun both => Bool.false_ne_true both.1.symm
    | false =>
      cases submitted with
      | false =>
        exact iff_of_false (not_resends kept still next rfl rfl)
          fun both => Bool.false_ne_true both.2
      | true =>
        have same := taken.sameBytes kept pending untouched
        exact iff_of_true (Or.inl ⟨rfl, next, same⟩) ⟨rfl, rfl⟩

end pending

/-- In every run, a batch whose transfer fails is sent again if and only if the transfer was taken
and ended with an error, a reset could be asked for, and `ResetBulkOutHdlr` submits it. -/
theorem failedBulkOut_resends_iff (wirelessPacket savedPad : Memory) (events : List RingEvent)
    (setting : BulkSetting) (fault : Fault)
    (along : Throughout step Allowed (cleared wirelessPacket savedPad) events) :
    let ring := run step (cleared wirelessPacket savedPad) events
    ring.bulkOutPending = false → (ring.bulkOutDataPacket setting).bulkOutPending = true →
      ring.FaultAllowed setting fault →
        (Resends (ring.bulkOutDataPacket setting) (ring.afterFault setting fault) ↔
          fault.Repaired) ∧
        (ring.bulkOutDataPacketRefused setting).bulkOutPending = ring.bulkOutPending := by
  intro ring idle pending allowed
  refine ⟨(good_run wirelessPacket savedPad events along).resends_iff idle pending allowed, ?_⟩
  unfold bulkOutDataPacketRefused
  rw [idle, if_neg Bool.false_ne_true]

/-- The two frames of `twoFrames`, which no batch has taken. -/
def twoWritten : List RingEvent := (twoFrames true).dropLast

theorem twoWritten_allowed : Throughout step Allowed (cleared zeros zeros) twoWritten :=
  (throughout_snoc (throughout_snoc (twoFrames_allowed true)).1).1

theorem failedBulkOut_resends_iff_twoWritten :
    Throughout step Allowed (cleared zeros zeros) twoWritten ∧
      (run step (cleared zeros zeros) twoWritten).bulkOutPending = false ∧
      ((run step (cleared zeros zeros) twoWritten).bulkOutDataPacket
        ⟨true, false, true, 512⟩).bulkOutPending = true ∧
      (Resends ((run step (cleared zeros zeros) twoWritten).bulkOutDataPacket
          ⟨true, false, true, 512⟩)
        ((run step (cleared zeros zeros) twoWritten).afterFault ⟨true, false, true, 512⟩
          (.error false [] true)) ↔ (Fault.error false [] true).Repaired) :=
  have idle : (run step (cleared zeros zeros) twoWritten).bulkOutPending = false := by
    decide +kernel
  have pending : ((run step (cleared zeros zeros) twoWritten).bulkOutDataPacket
      ⟨true, false, true, 512⟩).bulkOutPending = true := by
    decide +kernel
  ⟨twoWritten_allowed, idle, pending, (failedBulkOut_resends_iff zeros zeros twoWritten
    ⟨true, false, true, 512⟩ (.error false [] true) twoWritten_allowed idle pending trivial).1⟩

/-- A transfer that `usb_submit_urb` refuses is lost. -/
theorem not_failedBulkOut_resends :
    ¬∀ (wirelessPacket savedPad : Memory) (events : List RingEvent) (setting : BulkSetting)
        (fault : Fault), Throughout step Allowed (cleared wirelessPacket savedPad) events →
      let ring := run step (cleared wirelessPacket savedPad) events
      ring.bulkOutPending = false → (ring.bulkOutDataPacket setting).bulkOutPending = true →
        ring.FaultAllowed setting fault →
          Resends (ring.bulkOutDataPacket setting) (ring.afterFault setting fault) := by
  intro resent
  have idle : (run step (cleared zeros zeros) twoWritten).bulkOutPending = false := by
    decide +kernel
  have pending : ((run step (cleared zeros zeros) twoWritten).bulkOutDataPacket
      ⟨true, false, true, 512⟩).bulkOutPending = true := by
    decide +kernel
  have good := good_run zeros zeros twoWritten twoWritten_allowed
  have again := resent zeros zeros twoWritten ⟨true, false, true, 512⟩ .refused twoWritten_allowed
    idle pending trivial
  have allowed : FaultAllowed (run step (cleared zeros zeros) twoWritten) ⟨true, false, true, 512⟩
      .refused := trivial
  exact (good.resends_iff idle pending allowed).mp again

end UsbRing

end Mt7612u.Transmit
