import Mt7612u.Receive.Defragment

/-! The sizes of `RTMPDeFragmentDataFrame`: what it copies from where to where, and when this stays
inside the packet and the reassembly buffer. -/

namespace Mt7612u.Receive
open Library.Run

def rxBufferNormsize : Nat := 3840

variable {rxwiSize : Nat}

/-- A fragment with the length of the packet it came in, which begins with the RXWI. -/
structure PacketArrival (rxwiSize : Nat) where
  arrival : Arrival rxwiSize
  packetLen : Nat

/-- A `memmove` out of the packet into `pFragBuffer`. -/
structure FragmentCopy where
  source : Span
  target : Span

/-- The copies of a call. -/
def fragmentCopies (frame : FragmentFrame) (rx : RxFragment rxwiSize) : List FragmentCopy :=
  if rx.frag = 0 then
    if rx.moreFrag then
      [⟨⟨0, rxwiSize⟩, ⟨0, rxwiSize⟩⟩,
        ⟨⟨rxwiSize, (frame.record rx).rxSize - rxwiSize⟩,
          ⟨rxwiSize, (frame.record rx).rxSize - rxwiSize⟩⟩]
    else []
  else if frame.accepts rx then
    [⟨⟨rxwiSize + rx.header.length, rx.dataSize⟩, ⟨frame.rxSize, rx.dataSize⟩⟩]
  else []

/-- The record after a call. -/
def fragmentNext (frame : FragmentFrame) (received : PacketArrival rxwiSize) : FragmentFrame :=
  (rtmpDeFragmentDataFrame frame received.arrival.rx received.arrival.pNewFragPacket).1

/-- The sizes of a call stay in bounds. -/
structure SizesSafe (frame : FragmentFrame) (received : PacketArrival rxwiSize) : Prop where
  rxSize : (fragmentNext frame received).rxSize ≤ rxBufferNormsize
  copies : ∀ copy ∈ fragmentCopies frame received.arrival.rx,
    copy.source.Within ⟨0, received.packetLen⟩ ∧ copy.target.Within ⟨0, rxBufferNormsize⟩
  dataSize : (rtmpDeFragmentDataFrame frame received.arrival.rx
      received.arrival.pNewFragPacket).2.isSome →
    received.arrival.rx.header.length + rxwiSize ≤
      (frame.concatenate received.arrival.rx).rxSize

/-- The fragment fits: into its packet, and the first of several into the buffer; and the last one
has no more header than the record has of the first with what was added to it. -/
structure SizesFit (frame : FragmentFrame) (received : PacketArrival rxwiSize) : Prop where
  first : received.arrival.rx.frag = 0 → received.arrival.rx.moreFrag = true →
    rxwiSize + received.arrival.rx.header.length + received.arrival.rx.dataSize ≤
      min received.packetLen rxBufferNormsize
  later : frame.accepts received.arrival.rx = true →
    rxwiSize + received.arrival.rx.header.length + received.arrival.rx.dataSize ≤
      received.packetLen
  last : frame.accepts received.arrival.rx = true → received.arrival.rx.moreFrag = false →
    received.arrival.pNewFragPacket.isSome = true →
      received.arrival.rx.header.length + rxwiSize ≤
        frame.rxSize + received.arrival.rx.dataSize

section Step

variable {frame : FragmentFrame} {rx : RxFragment rxwiSize} {pNewFragPacket : Option Memory}

theorem record_rxSize : (frame.record rx).rxSize = rx.dataSize + rx.header.length + rxwiSize := rfl

theorem accepts_frag (accepted : frame.accepts rx = true) : rx.frag ≠ 0 := by
  intro first
  simp [FragmentFrame.accepts, first] at accepted

theorem accepts_small (accepted : frame.accepts rx = true) :
    frame.rxSize + rx.dataSize ≤ maxFrameSize + rxwiSize := by
  simp only [FragmentFrame.accepts, FragmentFrame.tooLarge, Bool.and_eq_true] at accepted
  simpa using accepted.1.2

/-- What an accepted fragment does. -/
theorem defragment_accepted (accepted : frame.accepts rx = true) :
    rtmpDeFragmentDataFrame frame rx pNewFragPacket =
      if rx.moreFrag then (frame.concatenate rx, none)
      else match pNewFragPacket with
        | some fresh => ({ frame.concatenate rx with pFragPacket := fresh },
            some ((frame.concatenate rx).finish rx))
        | none => ((frame.concatenate rx).reset, none) := by
  have later := accepts_frag accepted
  simp only [FragmentFrame.accepts, Bool.and_eq_true, Bool.not_eq_true'] at accepted
  cases more : rx.moreFrag
  · cases pNewFragPacket with
    | none => simp [rtmpDeFragmentDataFrame, later, accepted, more]
    | some fresh => simp [rtmpDeFragmentDataFrame, later, accepted, more]
  · simp [rtmpDeFragmentDataFrame, later, accepted, more]

/-- What any other later fragment does: nothing is copied and nothing is given back. -/
theorem defragment_rejected (later : rx.frag ≠ 0) (rejected : ¬ frame.accepts rx = true) :
    (rtmpDeFragmentDataFrame frame rx pNewFragPacket).2 = none ∧
      ((rtmpDeFragmentDataFrame frame rx pNewFragPacket).1 = frame ∨
        (rtmpDeFragmentDataFrame frame rx pNewFragPacket).1 = frame.reset) := by
  unfold rtmpDeFragmentDataFrame
  rw [if_neg later]
  split
  · exact ⟨rfl, Or.inr rfl⟩
  · next awaited =>
    split
    · exact ⟨rfl, Or.inr rfl⟩
    · next small =>
      split
      · exact ⟨rfl, Or.inl rfl⟩
      · next body =>
        refine absurd ?_ rejected
        simp only [FragmentFrame.accepts, Bool.and_eq_true]
        simp_all

end Step

/-- A fragment with the number 0 starts the record if more are to come, and is passed over
otherwise. -/
theorem sizesSafe_first {frame : FragmentFrame} {received : PacketArrival rxwiSize}
    (bound : frame.rxSize ≤ rxBufferNormsize) (first : received.arrival.rx.frag = 0) :
    SizesSafe frame received ↔ SizesFit frame received := by
  obtain ⟨⟨rx, pNewFragPacket⟩, packetLen⟩ := received
  have rejected : ¬ frame.accepts rx = true := fun accepted => accepts_frag accepted first
  dsimp only at first
  cases more : rx.moreFrag
  · have next : rtmpDeFragmentDataFrame frame rx pNewFragPacket = (frame, none) := by
      simp [rtmpDeFragmentDataFrame, first, more]
    apply iff_of_true
    · refine ⟨?_, ?_, ?_⟩
      · rw [fragmentNext, next]
        exact bound
      · simp [fragmentCopies, first, more]
      · simp [next]
    · exact ⟨fun _ set => by simp [more] at set, fun accepted => absurd accepted rejected,
        fun accepted => absurd accepted rejected⟩
  · have next : rtmpDeFragmentDataFrame frame rx pNewFragPacket = (frame.record rx, none) := by
      simp [rtmpDeFragmentDataFrame, first, more]
    constructor
    · intro safe
      have target := safe.copies ⟨⟨rxwiSize, (frame.record rx).rxSize - rxwiSize⟩,
        ⟨rxwiSize, (frame.record rx).rxSize - rxwiSize⟩⟩ (by simp [fragmentCopies, first, more])
      refine ⟨fun _ _ => ?_, fun accepted => absurd accepted rejected,
        fun accepted => absurd accepted rejected⟩
      obtain ⟨⟨-, source⟩, ⟨-, buffer⟩⟩ := target
      simp only [record_rxSize] at source buffer
      dsimp only
      omega
    · intro fit
      have inside := fit.first first more
      dsimp only at inside
      refine ⟨?_, ?_, ?_⟩
      · rw [fragmentNext, next]
        show rx.dataSize + rx.header.length + rxwiSize ≤ rxBufferNormsize
        omega
      · simp only [fragmentCopies, first, more, if_true, List.mem_cons, List.not_mem_nil,
          or_false, forall_eq_or_imp, forall_eq, record_rxSize, Span.Within]
        omega
      · simp [next]

/-- The awaited fragment is put behind the record, which is given back with the last one. -/
theorem sizesSafe_accepted {frame : FragmentFrame} {received : PacketArrival rxwiSize}
    (small : rxwiSize < 256) (accepted : frame.accepts received.arrival.rx = true) :
    SizesSafe frame received ↔ SizesFit frame received := by
  obtain ⟨⟨rx, pNewFragPacket⟩, packetLen⟩ := received
  have later := accepts_frag accepted
  have room : 24 ≤ rx.header.length := rx.header_room.1
  have next := @defragment_accepted _ _ _ pNewFragPacket accepted
  have sum := accepts_small accepted
  dsimp only at accepted later next sum
  have copies : fragmentCopies frame rx =
      [⟨⟨rxwiSize + rx.header.length, rx.dataSize⟩, ⟨frame.rxSize, rx.dataSize⟩⟩] := by
    rw [fragmentCopies, if_neg later, if_pos accepted]
  have below : frame.rxSize + rx.dataSize ≤ rxBufferNormsize := by
    simp only [maxFrameSize, rxBufferNormsize] at *
    omega
  have size : (fragmentNext frame ⟨⟨rx, pNewFragPacket⟩, packetLen⟩).rxSize ≤
      rxBufferNormsize := by
    rw [fragmentNext, next]
    cases rx.moreFrag
    · cases pNewFragPacket with
      | none => exact Nat.zero_le _
      | some fresh => exact below
    · exact below
  have finished : (rtmpDeFragmentDataFrame frame rx pNewFragPacket).2.isSome = true ↔
      rx.moreFrag = false ∧ pNewFragPacket.isSome = true := by
    rw [next]
    cases rx.moreFrag <;> cases pNewFragPacket <;> simp
  constructor
  · intro safe
    obtain ⟨⟨-, source⟩, -⟩ := safe.copies _ (by rw [copies]; exact List.mem_singleton_self _)
    refine ⟨fun zero => absurd zero later, fun _ => ?_, fun _ last fresh => ?_⟩
    · dsimp only at source ⊢
      omega
    · exact safe.dataSize (finished.mpr ⟨last, fresh⟩)
  · intro fit
    have inside := fit.later accepted
    dsimp only at inside
    refine ⟨size, ?_, fun done => ?_⟩
    · rw [copies]
      simp only [List.mem_singleton, forall_eq, Span.Within]
      omega
    · obtain ⟨last, fresh⟩ := finished.mp done
      exact fit.last accepted last fresh

/-- Any other fragment copies nothing. -/
theorem sizesSafe_rejected {frame : FragmentFrame} {received : PacketArrival rxwiSize}
    (bound : frame.rxSize ≤ rxBufferNormsize) (later : received.arrival.rx.frag ≠ 0)
    (rejected : ¬ frame.accepts received.arrival.rx = true) :
    SizesSafe frame received ∧ SizesFit frame received := by
  obtain ⟨none, same⟩ := @defragment_rejected _ _ _ received.arrival.pNewFragPacket later rejected
  constructor
  · refine ⟨?_, ?_, ?_⟩
    · rw [fragmentNext]
      obtain same | same := same
      · rw [same]
        exact bound
      · rw [same]
        exact Nat.zero_le _
    · simp [fragmentCopies, later, rejected]
    · simp [none]
  · exact ⟨fun zero => absurd zero later, fun taken => absurd taken rejected,
      fun taken => absurd taken rejected⟩

/-- With the record inside the buffer, a call's sizes are safe exactly when its fragment fits. -/
theorem sizesSafe_iff {frame : FragmentFrame} {received : PacketArrival rxwiSize}
    (small : rxwiSize < 256) (bound : frame.rxSize ≤ rxBufferNormsize) :
    SizesSafe frame received ↔ SizesFit frame received := by
  by_cases first : received.arrival.rx.frag = 0
  · exact sizesSafe_first bound first
  · by_cases accepted : frame.accepts received.arrival.rx = true
    · exact sizesSafe_accepted small accepted
    · obtain ⟨safe, fit⟩ := sizesSafe_rejected bound first accepted
      exact iff_of_true safe fit

/-- Over a whole run every size is safe exactly when every fragment fits. -/
theorem throughout_sizesSafe_iff (small : rxwiSize < 256) (frame : FragmentFrame)
    (bound : frame.rxSize ≤ rxBufferNormsize) (arrivals : List (PacketArrival rxwiSize)) :
    Throughout fragmentNext SizesSafe frame arrivals ↔
      Throughout fragmentNext SizesFit frame arrivals := by
  induction arrivals generalizing frame with
  | nil => rfl
  | cons received rest ih =>
    constructor
    · rintro ⟨safe, later⟩
      exact ⟨(sizesSafe_iff small bound).mp safe, (ih _ safe.rxSize).mp later⟩
    · rintro ⟨fit, later⟩
      have safe := (sizesSafe_iff small bound).mpr fit
      exact ⟨safe, (ih _ safe.rxSize).mpr later⟩

theorem throughout_sizesSafe_iff_pair :
    Throughout fragmentNext SizesSafe zeroedFragFrame
        [⟨⟨fragmentOf 1 0 true, none⟩, 56⟩, ⟨⟨fragmentOf 1 1 false, some fun _ => 0⟩, 56⟩] ↔
      Throughout fragmentNext SizesFit zeroedFragFrame
        [⟨⟨fragmentOf 1 0 true, none⟩, 56⟩, ⟨⟨fragmentOf 1 1 false, some fun _ => 0⟩, 56⟩] :=
  throughout_sizesSafe_iff (by decide) zeroedFragFrame (by decide) _

/-- A lone last fragment: four bytes of data less a header of 24 and an RXWI of 28. -/
theorem loneFragment_unsafe : ¬ Throughout fragmentNext SizesSafe zeroedFragFrame
    [⟨⟨fragmentOf 1 1 false, some fun _ => 0⟩, 56⟩] := by
  rintro ⟨safe, -⟩
  exact absurd (safe.dataSize (by decide)) (by decide)

end Mt7612u.Receive
