import Mt7612u.BlockAck.ActionFrames

/-! The sanity functions of `spectrum.c` for received action frames: what they find in the elements
of a frame, and which bytes they read for that. -/

namespace Mt7612u.Spectrum
open Receive (Memory Span)
open BlockAck (MlmeQueueElem length80211)

def ieTpcRequest : UInt8 := 34
def ieTpcReport : UInt8 := 35
def ieChannelSwitchAnnouncement : UInt8 := 37
def ieMeasurementRequest : UInt8 := 38
def ieMeasurementReport : UInt8 := 39

def rmBasic : UInt8 := 0
def rmCca : UInt8 := 1
def rmRpiHistogram : UInt8 := 2

section element
variable (frame : Memory) (eidPtr : Nat)

def eidAt : UInt8 := frame eidPtr

/-- `eid_ptr->Len`. -/
def lenAt : Nat := (frame (eidPtr + 1)).toNat

/-- `eid_ptr->Octet[i]`. -/
def octetAt (i : Nat) : UInt8 := frame (eidPtr + 2 + i)

end element

/-- The loop over the elements: those that it comes to, and where it stops. The bound is the end of
the frame, also where `MsgLen` has wrapped, as the pointer wraps back. -/
def walk (frame : Memory) (msgLen : Nat) : Nat → Nat → Option (List Nat × Nat)
  | 0, _ => none
  | fuel + 1, eidPtr =>
      if eidPtr + lenAt frame eidPtr + 1 < msgLen then
        (walk frame msgLen fuel (eidPtr + 2 + lenAt frame eidPtr)).map fun result =>
          (eidPtr :: result.1, result.2)
      else some ([], eidPtr)

/-- An element has two bytes at least. -/
def walkFrom (frame : Memory) (msgLen start : Nat) : Option (List Nat × Nat) :=
  walk frame msgLen (msgLen + 1) start

structure ChSwAnnInfo where
  chSwMode : UInt8
  channel : UInt8
  chSwCnt : UInt8

structure MeasureReqInfo where
  token : UInt8
  reqMode : UInt8
  reqType : UInt8
  chNum : UInt8
  /-- Behind `SWAP64` and `SWAP16`: the bytes of the frame in the other order. -/
  measureStartTime : List UInt8
  measureDuration : List UInt8

structure MeasureReportInfo where
  token : UInt8
  reportMode : UInt8
  reportType : UInt8
  /-- The buffer of a `MEASURE_RPI_REPORT`, which the other reports share. -/
  reportBuf : Memory

structure TpcReportInfo where
  txPwr : UInt8
  linkMargin : UInt8

/-- Where the elements of a channel switch announcement begin: behind the category and the action. -/
def chSwAnnStart : Nat := length80211 + 2

/-- Those of the other frames have a dialog token before them. -/
def dialogTokenAt : Nat := length80211 + 2
def elementsStart : Nat := length80211 + 2 + 1

/-- `PeerChSwAnnSanity`. -/
def peerChSwAnnSanity (frame : Memory) (msgLen : Nat) : Option (Bool × ChSwAnnInfo) :=
  (walkFrom frame msgLen chSwAnnStart).map fun (elements, _) =>
    elements.foldl (fun found eidPtr =>
      if eidAt frame eidPtr = ieChannelSwitchAnnouncement then
        (true, ⟨octetAt frame eidPtr 0, octetAt frame eidPtr 1, octetAt frame eidPtr 2⟩)
      else found) (false, ⟨0, 0, 0⟩)

/-- `PeerMeasureReqSanity`, with the dialog token; what stands in the request before is not set. -/
def peerMeasureReqSanity (frame : Memory) (msgLen : Nat) (unset : MeasureReqInfo) :
    Option (Bool × UInt8 × MeasureReqInfo) :=
  (walkFrom frame msgLen elementsStart).map fun (elements, _) =>
    elements.foldl (fun found eidPtr =>
      if eidAt frame eidPtr = ieMeasurementRequest then
        (true, found.2.1,
          { token := octetAt frame eidPtr 0
            reqMode := octetAt frame eidPtr 1
            reqType := octetAt frame eidPtr 2
            chNum := octetAt frame eidPtr 3
            measureStartTime := (frame.bytes (eidPtr + 6) 8).reverse
            measureDuration := (frame.bytes (eidPtr + 14) 2).reverse })
      else found) (false, frame dialogTokenAt, unset)

/-- What a report of a type leaves in the buffer. -/
def storeReport (frame : Memory) (eidPtr : Nat) (reportType : UInt8) (reportBuf : Memory) : Memory :=
  if reportType = rmBasic ∨ reportType = rmCca then
    reportBuf.write 0 (frame.bytes (eidPtr + 5) 12)
  else if reportType = rmRpiHistogram then reportBuf.write 0 (frame.bytes (eidPtr + 5) 19)
  else reportBuf

/-- `PeerMeasureReportSanity`, with the dialog token, on zeroed buffers. -/
def peerMeasureReportSanity (frame : Memory) (msgLen : Nat) :
    Option (Bool × UInt8 × MeasureReportInfo) :=
  (walkFrom frame msgLen elementsStart).map fun (elements, _) =>
    elements.foldl (fun found eidPtr =>
      if eidAt frame eidPtr = ieMeasurementReport then
        (true, found.2.1,
          { token := octetAt frame eidPtr 0
            reportMode := octetAt frame eidPtr 1
            reportType := octetAt frame eidPtr 2
            reportBuf := storeReport frame eidPtr (octetAt frame eidPtr 2) found.2.2.reportBuf })
      else found) (false, frame dialogTokenAt, ⟨0, 0, 0, fun _ => 0⟩)

/-- `PeerTpcReqSanity`, with the dialog token. -/
def peerTpcReqSanity (frame : Memory) (msgLen : Nat) : Option (Bool × UInt8) :=
  (walkFrom frame msgLen elementsStart).map fun (elements, _) =>
    (elements.any fun eidPtr => eidAt frame eidPtr == ieTpcRequest, frame dialogTokenAt)

/-- `PeerTpcRepSanity`, with the dialog token. -/
def peerTpcRepSanity (frame : Memory) (msgLen : Nat) : Option (Bool × UInt8 × TpcReportInfo) :=
  (walkFrom frame msgLen elementsStart).map fun (elements, _) =>
    elements.foldl (fun found eidPtr =>
      if eidAt frame eidPtr = ieTpcReport then
        (true, found.2.1, ⟨octetAt frame eidPtr 0, octetAt frame eidPtr 1⟩)
      else found) (false, frame dialogTokenAt, ⟨0, 0⟩)

inductive Sanity where
  | chSwAnn
  | measureReq
  | measureReport
  | tpcReq
  | tpcRep
  deriving DecidableEq, Repr

namespace Sanity

/-- What is subtracted from `MsgLen`, one after the other. -/
def headers : Sanity → List Nat
  | .chSwAnn => [length80211, 2]
  | .measureReq | .measureReport | .tpcReq | .tpcRep => [length80211, 2, 1]

def start (sanity : Sanity) : Nat := sanity.headers.sum

/-- The function has come to its end. -/
def ends (frame : Memory) (msgLen : Nat) : Sanity → Prop
  | .chSwAnn => ∃ found, peerChSwAnnSanity frame msgLen = some found
  | .measureReq => ∀ unset, ∃ found, peerMeasureReqSanity frame msgLen unset = some found
  | .measureReport => ∃ found, peerMeasureReportSanity frame msgLen = some found
  | .tpcReq => ∃ found, peerTpcReqSanity frame msgLen = some found
  | .tpcRep => ∃ found, peerTpcRepSanity frame msgLen = some found

/-- The element that the function looks for. -/
def eid : Sanity → UInt8
  | .chSwAnn => ieChannelSwitchAnnouncement
  | .measureReq => ieMeasurementRequest
  | .measureReport => ieMeasurementReport
  | .tpcReq => ieTpcRequest
  | .tpcRep => ieTpcReport

/-- The fields of a report behind its type. -/
def reportFields (eidPtr : Nat) (reportType : UInt8) : List Span :=
  if reportType = rmBasic ∨ reportType = rmCca then
    [⟨eidPtr + 5, 1⟩, ⟨eidPtr + 6, 8⟩, ⟨eidPtr + 14, 2⟩, ⟨eidPtr + 16, 1⟩]
  else if reportType = rmRpiHistogram then
    [⟨eidPtr + 5, 1⟩, ⟨eidPtr + 6, 8⟩, ⟨eidPtr + 14, 2⟩, ⟨eidPtr + 16, 8⟩]
  else []

/-- The fixed fields that are read of an element that it looks for. -/
def fields (frame : Memory) (eidPtr : Nat) : Sanity → List Span
  | .chSwAnn => [⟨eidPtr + 2, 1⟩, ⟨eidPtr + 3, 1⟩, ⟨eidPtr + 4, 1⟩]
  | .measureReq => [⟨eidPtr + 2, 1⟩, ⟨eidPtr + 3, 1⟩, ⟨eidPtr + 4, 1⟩, ⟨eidPtr + 5, 1⟩,
      ⟨eidPtr + 6, 8⟩, ⟨eidPtr + 14, 2⟩]
  | .measureReport => [⟨eidPtr + 2, 1⟩, ⟨eidPtr + 3, 1⟩, ⟨eidPtr + 4, 1⟩] ++
      reportFields eidPtr (octetAt frame eidPtr 2)
  | .tpcReq => []
  | .tpcRep => [⟨eidPtr + 2, 1⟩, ⟨eidPtr + 3, 1⟩]

/-- How long the element has to be for them. -/
def need (frame : Memory) (eidPtr : Nat) : Sanity → Nat
  | .chSwAnn => 3
  | .measureReq => 14
  | .measureReport =>
      if octetAt frame eidPtr 2 = rmBasic ∨ octetAt frame eidPtr 2 = rmCca then 15
      else if octetAt frame eidPtr 2 = rmRpiHistogram then 22
      else 3
  | .tpcReq => 0
  | .tpcRep => 2

/-- The bytes read in a turn of the loop. -/
def turnReads (sanity : Sanity) (frame : Memory) (eidPtr : Nat) : List Span :=
  [⟨eidPtr + 1, 1⟩, ⟨eidPtr, 1⟩] ++
    if eidAt frame eidPtr = sanity.eid then sanity.fields frame eidPtr else []

/-- All bytes that the function reads. -/
def reads (sanity : Sanity) (frame : Memory) (elements : List Nat) (last : Nat) : List Span :=
  (if sanity = .chSwAnn then [] else [⟨dialogTokenAt, 1⟩]) ++
    elements.flatMap (sanity.turnReads frame) ++ [⟨last + 1, 1⟩]

/-- The function ends, no length wraps, all reads are in the frame, and those of the fields of an
element in the element. -/
structure Safe (sanity : Sanity) (frame : Memory) (msgLen : Nat) : Prop where
  ends : sanity.ends frame msgLen
  noWrap : sanity.headers.sum ≤ msgLen
  inside : ∀ elements last, walkFrom frame msgLen sanity.start = some (elements, last) →
    ∀ span ∈ sanity.reads frame elements last, span.start + span.count ≤ msgLen
  covered : ∀ elements last, walkFrom frame msgLen sanity.start = some (elements, last) →
    ∀ eidPtr ∈ elements, eidAt frame eidPtr = sanity.eid →
      ∀ span ∈ sanity.fields frame eidPtr,
        span.start + span.count ≤ eidPtr + 2 + lenAt frame eidPtr

/-- The elements from a place on: each one that is looked for is long enough, and behind the last
whole one there is the header of another. -/
inductive ElementsFit (sanity : Sanity) (frame : Memory) (msgLen : Nat) : Nat → Prop where
  | ranOut {eidPtr : Nat} (header : eidPtr + 2 ≤ msgLen)
      (short : msgLen ≤ eidPtr + lenAt frame eidPtr + 1) : ElementsFit sanity frame msgLen eidPtr
  | element {eidPtr : Nat} (whole : eidPtr + lenAt frame eidPtr + 1 < msgLen)
      (long : eidAt frame eidPtr = sanity.eid → sanity.need frame eidPtr ≤ lenAt frame eidPtr)
      (rest : ElementsFit sanity frame msgLen (eidPtr + 2 + lenAt frame eidPtr)) :
      ElementsFit sanity frame msgLen eidPtr

end Sanity

section walk

variable {frame : Memory} {msgLen : Nat}

/-- The loop ends. -/
theorem walk_total (frame : Memory) (fuel eidPtr : Nat) (enough : msgLen < fuel + eidPtr)
    (some_ : 0 < fuel) : ∃ result, walk frame msgLen fuel eidPtr = some result := by
  induction fuel generalizing eidPtr with
  | zero => exact absurd some_ (Nat.lt_irrefl 0)
  | succ fuel ih =>
    rw [walk]
    split_ifs with whole
    · obtain ⟨result, ended⟩ := ih (eidPtr + 2 + lenAt frame eidPtr) (by omega) (by omega)
      rw [ended]
      exact ⟨_, rfl⟩
    · exact ⟨_, rfl⟩

theorem walkFrom_total (frame : Memory) (msgLen start : Nat) :
    ∃ elements last, walkFrom frame msgLen start = some (elements, last) := by
  obtain ⟨⟨elements, last⟩, ended⟩ := walk_total frame (msgLen + 1) start
    (show msgLen < msgLen + 1 + start by omega) (Nat.succ_pos msgLen)
  exact ⟨elements, last, ended⟩

/-- The elements that it comes to are whole. -/
theorem walk_whole {fuel eidPtr last : Nat} {elements : List Nat}
    (ended : walk frame msgLen fuel eidPtr = some (elements, last)) :
    ∀ element ∈ elements, element + lenAt frame element + 1 < msgLen := by
  induction fuel generalizing eidPtr elements with
  | zero => cases ended
  | succ fuel ih =>
    rw [walk] at ended
    split_ifs at ended with whole
    · obtain ⟨⟨later, stop⟩, walked, same⟩ := Option.map_eq_some_iff.mp ended
      cases same
      intro element member
      rcases List.mem_cons.mp member with rfl | after
      · exact whole
      · exact ih walked element after
    · cases ended
      exact fun element member => absurd member List.not_mem_nil

theorem walk_le {fuel eidPtr last : Nat} {elements : List Nat}
    (ended : walk frame msgLen fuel eidPtr = some (elements, last)) : eidPtr ≤ last := by
  induction fuel generalizing eidPtr elements with
  | zero => cases ended
  | succ fuel ih =>
    rw [walk] at ended
    split_ifs at ended
    · obtain ⟨⟨later, stop⟩, walked, same⟩ := Option.map_eq_some_iff.mp ended
      cases same
      have after := ih walked
      omega
    · cases ended
      exact le_rfl

/-- The elements fit exactly when those that the loop comes to are long enough and it stops at a
header. -/
theorem walk_fits {sanity : Sanity} {fuel eidPtr last : Nat} {elements : List Nat}
    (ended : walk frame msgLen fuel eidPtr = some (elements, last)) :
    sanity.ElementsFit frame msgLen eidPtr ↔
      (∀ element ∈ elements, eidAt frame element = sanity.eid →
        sanity.need frame element ≤ lenAt frame element) ∧ last + 2 ≤ msgLen := by
  induction fuel generalizing eidPtr elements with
  | zero => cases ended
  | succ fuel ih =>
    rw [walk] at ended
    split_ifs at ended with whole
    · obtain ⟨⟨later, stop⟩, walked, same⟩ := Option.map_eq_some_iff.mp ended
      cases same
      have rest := ih walked
      constructor
      · intro fit
        cases fit with
        | ranOut header short => omega
        | element _ long after =>
          obtain ⟨others, header⟩ := rest.mp after
          refine ⟨fun element member => ?_, header⟩
          rcases List.mem_cons.mp member with rfl | inside
          · exact long
          · exact others element inside
      · rintro ⟨others, header⟩
        apply Sanity.ElementsFit.element whole (others eidPtr List.mem_cons_self)
        exact rest.mpr ⟨fun element member => others element (List.mem_cons_of_mem _ member), header⟩
    · cases ended
      constructor
      · intro fit
        cases fit with
        | ranOut header _ => exact ⟨fun _ member => absurd member List.not_mem_nil, header⟩
        | element again _ _ => exact absurd again whole
      · rintro ⟨_, header⟩
        exact Sanity.ElementsFit.ranOut header (Nat.not_lt.mp whole)

end walk

namespace Sanity

variable {sanity : Sanity} {frame : Memory} {msgLen : Nat}

theorem ends_always (sanity : Sanity) (frame : Memory) (msgLen : Nat) : sanity.ends frame msgLen := by
  obtain ⟨elements, last, ended⟩ := walkFrom_total frame msgLen chSwAnnStart
  obtain ⟨others, stop, walked⟩ := walkFrom_total frame msgLen elementsStart
  cases sanity with
  | chSwAnn => exact ⟨_, congrArg (Option.map _) ended⟩
  | measureReq => exact fun unset => ⟨_, congrArg (Option.map _) walked⟩
  | measureReport => exact ⟨_, congrArg (Option.map _) walked⟩
  | tpcReq => exact ⟨_, congrArg (Option.map _) walked⟩
  | tpcRep => exact ⟨_, congrArg (Option.map _) walked⟩

/-- The fields need just as much as the function reads. -/
theorem fields_covered_iff (sanity : Sanity) (frame : Memory) (eidPtr : Nat) :
    (∀ span ∈ sanity.fields frame eidPtr,
      span.start + span.count ≤ eidPtr + 2 + lenAt frame eidPtr) ↔
      sanity.need frame eidPtr ≤ lenAt frame eidPtr := by
  cases sanity with
  | chSwAnn => simp [fields, need]; omega
  | measureReq => simp [fields, need]; omega
  | measureReport =>
    unfold fields need reportFields
    split_ifs <;> simp <;> omega
  | tpcReq => simp [fields, need]
  | tpcRep => simp [fields, need]; omega

theorem start_of_ne (other : sanity ≠ .chSwAnn) : sanity.start = dialogTokenAt + 1 := by
  cases sanity with
  | chSwAnn => exact absurd rfl other
  | measureReq => rfl
  | measureReport => rfl
  | tpcReq => rfl
  | tpcRep => rfl

/-- The reads lie in the frame when the elements are whole and long enough. -/
theorem reads_inside {elements : List Nat} {last : Nat}
    (whole : ∀ element ∈ elements, element + lenAt frame element + 1 < msgLen)
    (long : ∀ element ∈ elements, eidAt frame element = sanity.eid →
      sanity.need frame element ≤ lenAt frame element)
    (behind : sanity.start ≤ last) (header : last + 2 ≤ msgLen) :
    ∀ span ∈ sanity.reads frame elements last, span.start + span.count ≤ msgLen := by
  intro span member
  rcases List.mem_append.mp member with front | stop
  · rcases List.mem_append.mp front with token | turns
    · split_ifs at token with announcement
      · exact absurd token List.not_mem_nil
      · have start := start_of_ne announcement
        rw [List.mem_singleton.mp token]
        dsimp only
        omega
    · obtain ⟨element, inside, read⟩ := List.mem_flatMap.mp turns
      have room := whole element inside
      rcases List.mem_append.mp read with head | field
      · simp only [List.mem_cons, List.not_mem_nil, or_false] at head
        rcases head with rfl | rfl <;> dsimp only <;> omega
      · split_ifs at field with looked
        · have covered := (sanity.fields_covered_iff frame element).mpr (long element inside looked)
          have bound := covered span field
          omega
        · exact absurd field List.not_mem_nil
  · rw [List.mem_singleton.mp stop]
    exact header

/-- A sanity function is safe exactly when the elements fit. -/
theorem safe_iff (sanity : Sanity) (frame : Memory) (msgLen : Nat) :
    sanity.Safe frame msgLen ↔ sanity.ElementsFit frame msgLen sanity.start := by
  obtain ⟨elements, last, ended⟩ := walkFrom_total frame msgLen sanity.start
  have whole := walk_whole ended
  rw [walk_fits ended]
  constructor
  · intro safe
    refine ⟨fun element member looked => ?_, ?_⟩
    · exact (sanity.fields_covered_iff frame element).mp
        (safe.covered elements last ended element member looked)
    · exact safe.inside elements last ended ⟨last + 1, 1⟩
        (List.mem_append_right _ List.mem_cons_self)
  · rintro ⟨long, header⟩
    have behind : sanity.start ≤ last := walk_le ended
    refine ⟨sanity.ends_always frame msgLen, ?_, ?_, ?_⟩
    · change sanity.start ≤ msgLen
      omega
    · intro others stop walked
      obtain ⟨rfl, rfl⟩ := Prod.mk.inj (Option.some.inj (ended.symm.trans walked))
      exact reads_inside whole long behind header
    · intro others stop walked element member looked
      obtain ⟨rfl, rfl⟩ := Prod.mk.inj (Option.some.inj (ended.symm.trans walked))
      exact (sanity.fields_covered_iff frame element).mpr (long element member looked)

end Sanity

def specMrq : UInt8 := 0
def specMrp : UInt8 := 1
def specTpcrq : UInt8 := 2
def specTpcrp : UInt8 := 3
def specChannelSwitch : UInt8 := 4

/-- The sanity function to which `PeerSpectrumAction` brings a frame. -/
def sanityOf (bIEEE80211H : Bool) (elem : MlmeQueueElem) : Option Sanity :=
  if bIEEE80211H then
    if elem.action = specMrq then some .measureReq
    else if elem.action = specMrp then some .measureReport
    else if elem.action = specTpcrq then some .tpcReq
    else if elem.action = specTpcrp then some .tpcRep
    else if elem.action = specChannelSwitch then some .chSwAnn
    else none
  else none

/-- The sanity function for a frame is safe exactly when the elements of the frame fit. -/
theorem peerSpectrumAction_safe_iff (bIEEE80211H : Bool) (elem : MlmeQueueElem) :
    (∀ sanity ∈ sanityOf bIEEE80211H elem, sanity.Safe elem.msg elem.msgLen) ↔
      ∀ sanity ∈ sanityOf bIEEE80211H elem,
        sanity.ElementsFit elem.msg elem.msgLen sanity.start := by
  constructor
  · intro safe sanity found
    exact (sanity.safe_iff elem.msg elem.msgLen).mp (safe sanity found)
  · intro fit sanity found
    exact (sanity.safe_iff elem.msg elem.msgLen).mpr (fit sanity found)

/-- A TPC request with its element and no byte more. -/
def tpcRequestFrame : MlmeQueueElem where
  msg := fun address => (List.replicate 24 0 ++ [0, specTpcrq, 1, ieTpcRequest, 0]).getD address 0
  msgLen := 29
  wcid := 1

/-- Behind its last element the length of another one is read. -/
theorem not_peerSpectrumAction_safe :
    ¬∀ (bIEEE80211H : Bool) (elem : MlmeQueueElem) (sanity : Sanity),
      sanityOf bIEEE80211H elem = some sanity → sanity.Safe elem.msg elem.msgLen := by
  intro always
  have safe := always true tpcRequestFrame .tpcReq (by decide)
  have read := safe.inside [27] 29 (by decide) ⟨30, 1⟩
    (List.mem_append_right _ List.mem_cons_self)
  revert read
  decide

end Mt7612u.Spectrum
