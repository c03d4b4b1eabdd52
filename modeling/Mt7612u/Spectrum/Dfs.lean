import Mt7612u.Spectrum.ActionSanity
import Mt7612u.Spectrum.RequestTableRun

/-! How action frames move an AP to another channel, and whether that one is marked as carrying
radar. -/

namespace Mt7612u.Spectrum
open Receive (Memory)
open BlockAck (MlmeQueueElem length80211 maxLenOfMacTable)
open Library.Run

inductive RdMode where
  | normal
  | switching
  | silence
  deriving DecidableEq, Repr

/-- What is read of an entry of `ChannelList`. -/
structure ChannelEntry where
  channel : UInt8
  remainingTimeForUse : Nat

/-- `CommonCfg.Channel` has been set. -/
structure Assignment where
  channel : UInt8
  /-- The channel was marked at that moment. -/
  marked : Bool
  /-- The frame was a measurement report, and this was the operating channel before it. -/
  reported : Option UInt8
  deriving DecidableEq

/-- An AP. The assignments are the record of the run, which the code does not keep. -/
structure DfsAdapter where
  bIEEE80211H : Bool
  rdMode : RdMode
  csCount : Nat
  channelList : List ChannelEntry
  channel : UInt8
  measureReqTab : ReqTab .measureReq
  assigned : List Assignment

/-- The channel carries radar: it cannot be used for some time. -/
def isMarked (channelList : List ChannelEntry) (channel : UInt8) : Bool :=
  channelList.any fun entry => entry.channel == channel && entry.remainingTimeForUse != 0

/-- The first entry of the channel that is not marked gets its thirty minutes. -/
def markChannel (channel : UInt8) : List ChannelEntry → Option (List ChannelEntry)
  | [] => none
  | entry :: rest =>
      if entry.channel = channel ∧ entry.remainingTimeForUse = 0 then
        some ({ entry with remainingTimeForUse := 1800 } :: rest)
      else (markChannel channel rest).map fun rest => entry :: rest

namespace DfsAdapter

/-- `DfsRequirementCheck`; `none` is a check that has failed. -/
def dfsRequirementCheck (s : DfsAdapter) (channel : UInt8) : Option DfsAdapter :=
  if s.rdMode ≠ .normal then none
  else (markChannel channel s.channelList).map fun channelList =>
    { s with channelList := channelList }

def setChannel (s : DfsAdapter) (channel : UInt8) (reported : Option UInt8) : DfsAdapter :=
  { s with
    channel := channel
    assigned := s.assigned ++ [⟨channel, isMarked s.channelList channel, reported⟩] }

/-- `StartDFSProcedure`; `N_ChannelCheck` does not change the channel. -/
def startDfsProcedure (s : DfsAdapter) (channel : UInt8) (reported : Option UInt8) : DfsAdapter :=
  { s.setChannel channel reported with rdMode := .switching, csCount := 0 }

/-- `ChannelSwitchSanityCheck`. -/
def channelSwitchSanityCheck (s : DfsAdapter) (wcid : BitVec 8) (newChannel secondary : UInt8) :
    Bool :=
  if maxLenOfMacTable ≤ wcid.toNat then false
  else if 7 < newChannel ∧ secondary = 1 then false
  else if newChannel < 5 ∧ secondary = 3 then false
  else s.channelList.any fun entry => entry.channel == newChannel

/-- `ChannelSwitchAction`, less the bandwidth. -/
def channelSwitchAction (s : DfsAdapter) (wcid : BitVec 8) (newChannel secondary : UInt8) :
    DfsAdapter :=
  if s.channelSwitchSanityCheck wcid newChannel secondary then s.setChannel newChannel none else s

end DfsAdapter

/-- The announcement stands where 802.11h has it: its channel and the secondary offset. -/
def announcedSwitch (elem : MlmeQueueElem) : Option (UInt8 × UInt8) :=
  let secondary := if elem.msgLen = length80211 + 2 + 3 + 1 then elem.msg (length80211 + 9) else 0
  if elem.msg (length80211 + 2) = ieChannelSwitchAnnouncement ∧ elem.msg (length80211 + 3) = 3 then
    some (elem.msg (length80211 + 5), secondary)
  else none

/-- The channel of the last announcement among the elements. -/
def announcedChannel (elem : MlmeQueueElem) : Option UInt8 :=
  match peerChSwAnnSanity elem.msg elem.msgLen with
  | some (true, info) => some info.channel
  | _ => none

/-- `Map.field.Radar` of a basic report. -/
def radarBit : UInt8 := 0x08

/-- The channel on which a basic report has seen radar, with its dialog token. -/
def reportedRadar (elem : MlmeQueueElem) : Option (UInt8 × UInt8) :=
  match peerMeasureReportSanity elem.msg elem.msgLen with
  | some (true, dialogToken, info) =>
      if info.reportType = rmBasic ∧ info.reportBuf 11 &&& radarBit ≠ 0 then
        some (dialogToken, info.reportBuf 0)
      else none
  | _ => none

namespace DfsAdapter

/-- The part of `PeerChSwAnnAction` for an AP. -/
def peerChSwAnnAction (s : DfsAdapter) (elem : MlmeQueueElem) : DfsAdapter :=
  match announcedChannel elem with
  | none => s
  | some channel =>
      match s.dfsRequirementCheck channel with
      | none => s
      | some s => s.startDfsProcedure channel none

/-- A report that was asked for takes the request out of the table; `none` is one that nobody asked
for, or a walk that does not end. -/
def answerRequest (s : DfsAdapter) (dialogToken : UInt8) : Option DfsAdapter :=
  if dialogToken = 0 then some s
  else
    match measureReqLookUp s.measureReqTab dialogToken.toBitVec with
    | some (some pEntry) =>
        (measureReqDelete s.measureReqTab (s.measureReqTab.token pEntry)).map fun tab =>
          { s with measureReqTab := tab }
    | _ => none

/-- `PeerMeasureReportAction`, when there is memory for the report. -/
def peerMeasureReportAction (s : DfsAdapter) (elem : MlmeQueueElem) : DfsAdapter :=
  match peerMeasureReportSanity elem.msg elem.msgLen with
  | some (true, dialogToken, _) =>
      match s.answerRequest dialogToken with
      | none => s
      | some s =>
          match reportedRadar elem with
          | none => s
          | some (_, channel) =>
              match s.dfsRequirementCheck channel with
              | none => s
              | some checked => checked.startDfsProcedure channel (some s.channel)
  | _ => s

/-- `PeerSpectrumAction`, as far as it has to do with channels. -/
def peerSpectrumAction (s : DfsAdapter) (elem : MlmeQueueElem) : DfsAdapter :=
  if !s.bIEEE80211H then s
  else if elem.action = specMrp then s.peerMeasureReportAction elem
  else if elem.action = specChannelSwitch then
    let s :=
      match announcedSwitch elem with
      | some (newChannel, secondary) => s.channelSwitchAction elem.wcid newChannel secondary
      | none => s
    s.peerChSwAnnAction elem
  else s

end DfsAdapter

/-- Between two frames the rest of the driver may do what it likes to the adapter. -/
inductive DfsEvent where
  | action (elem : MlmeQueueElem)
  | others (bIEEE80211H : Bool) (rdMode : RdMode) (channelList : List ChannelEntry)
      (channel : UInt8) (measureReqTab : ReqTab .measureReq)

namespace DfsAdapter

def step (s : DfsAdapter) : DfsEvent → DfsAdapter
  | .action elem => s.peerSpectrumAction elem
  | .others bIEEE80211H rdMode channelList channel measureReqTab =>
      { s with
        bIEEE80211H := bIEEE80211H
        rdMode := rdMode
        channelList := channelList
        channel := channel
        measureReqTab := measureReqTab }

/-- The channel can be used, and no radar procedure is running. -/
def Usable (s : DfsAdapter) (channel : UInt8) : Prop :=
  s.rdMode = .normal ∧
    ∃ entry ∈ s.channelList, entry.channel = channel ∧ entry.remainingTimeForUse = 0

/-- The frame does not bring the AP to a marked channel: its announcement is not taken over for one,
and neither an announcement nor a report names a usable channel. -/
def Harmless (s : DfsAdapter) : DfsEvent → Prop
  | .others .. => True
  | .action elem => s.bIEEE80211H = true →
      (elem.action = specMrp → ∀ dialogToken channel, reportedRadar elem = some (dialogToken, channel) →
        s.answerRequest dialogToken ≠ none → ¬s.Usable channel) ∧
      (elem.action = specChannelSwitch →
        (∀ newChannel secondary, announcedSwitch elem = some (newChannel, secondary) →
          s.channelSwitchSanityCheck elem.wcid newChannel secondary = true →
            isMarked s.channelList newChannel = false) ∧
        ∀ channel, announcedChannel elem = some channel → ¬s.Usable channel)

end DfsAdapter

/-- The channel was not marked, and a report was about the operating channel. -/
def Assignment.Lawful (assignment : Assignment) : Prop :=
  assignment.marked = false ∧
    ∀ channel, assignment.reported = some channel → assignment.channel = channel

theorem markChannel_none {channel : UInt8} {channelList : List ChannelEntry} :
    markChannel channel channelList = none ↔
      ¬∃ entry ∈ channelList, entry.channel = channel ∧ entry.remainingTimeForUse = 0 := by
  induction channelList with
  | nil => simp [markChannel]
  | cons entry rest ih =>
    rw [markChannel]
    split_ifs with free
    · exact iff_of_false not_false fun none =>
        none ⟨entry, List.mem_cons_self, free⟩
    · rw [Option.map_eq_none_iff, ih, not_iff_not]
      constructor
      · rintro ⟨other, member, usable⟩
        exact ⟨other, List.mem_cons_of_mem _ member, usable⟩
      · rintro ⟨other, member, usable⟩
        rcases List.mem_cons.mp member with rfl | inside
        · exact absurd usable free
        · exact ⟨other, inside, usable⟩

/-- Behind the check the channel is marked. -/
theorem markChannel_marked {channel : UInt8} {channelList marked : List ChannelEntry}
    (done : markChannel channel channelList = some marked) : isMarked marked channel = true := by
  induction channelList generalizing marked with
  | nil => cases done
  | cons entry rest ih =>
    rw [markChannel] at done
    split_ifs at done with free
    · obtain rfl := Option.some.inj done
      simp [isMarked, free.1]
    · obtain ⟨later, found, rfl⟩ := Option.map_eq_some_iff.mp done
      have behind := ih found
      unfold isMarked at behind ⊢
      rw [List.any_cons, behind, Bool.or_true]

namespace DfsAdapter

variable {s : DfsAdapter} {elem : MlmeQueueElem}

theorem dfsRequirementCheck_none {channel : UInt8} :
    s.dfsRequirementCheck channel = none ↔ ¬s.Usable channel := by
  unfold dfsRequirementCheck Usable
  split_ifs with busy
  · exact iff_of_true rfl fun usable => busy usable.1
  · rw [Option.map_eq_none_iff, markChannel_none, not_ne_iff.mp busy]
    simp

/-- A procedure that starts goes to a channel that the check has just marked. -/
theorem dfsRequirementCheck_some {after : DfsAdapter} {channel : UInt8}
    (done : s.dfsRequirementCheck channel = some after) :
    isMarked after.channelList channel = true ∧ after.assigned = s.assigned := by
  unfold dfsRequirementCheck at done
  split_ifs at done
  obtain ⟨channelList, marked, rfl⟩ := Option.map_eq_some_iff.mp done
  exact ⟨markChannel_marked marked, rfl⟩

/-- What a step adds to the record is lawful exactly when the frame is harmless. -/
def Adds (s after : DfsAdapter) (harmless : Prop) : Prop :=
  ∃ new, after.assigned = s.assigned ++ new ∧ ((∀ assignment ∈ new, assignment.Lawful) ↔ harmless)

theorem adds_nothing {after : DfsAdapter} {harmless : Prop} (same : after.assigned = s.assigned)
    (holds : harmless) : s.Adds after harmless :=
  ⟨[], by rw [same, List.append_nil],
    iff_of_true (fun _ member => absurd member List.not_mem_nil) holds⟩

theorem adds_startDfsProcedure {checked : DfsAdapter} {channel : UInt8} {reported : Option UInt8}
    {harmless : Prop} (marked : isMarked checked.channelList channel = true)
    (same : checked.assigned = s.assigned) (broken : ¬harmless) :
    s.Adds (checked.startDfsProcedure channel reported) harmless := by
  refine ⟨[⟨channel, isMarked checked.channelList channel, reported⟩], ?_, iff_of_false ?_ broken⟩
  · change checked.assigned ++ _ = _
    rw [same]
  · intro lawful
    have unmarked := (lawful _ List.mem_cons_self).1
    rw [marked] at unmarked
    cases unmarked

theorem adds_peerChSwAnnAction :
    s.Adds (s.peerChSwAnnAction elem)
      (∀ channel, announcedChannel elem = some channel → ¬s.Usable channel) := by
  unfold peerChSwAnnAction
  cases announced : announcedChannel elem with
  | none => exact adds_nothing rfl fun channel found => by cases found
  | some channel =>
    cases checked : s.dfsRequirementCheck channel with
    | none =>
      simp only [checked]
      refine adds_nothing rfl fun other found => ?_
      obtain rfl := Option.some.inj found
      exact dfsRequirementCheck_none.mp checked
    | some after =>
      simp only [checked]
      obtain ⟨marked, same⟩ := dfsRequirementCheck_some checked
      apply adds_startDfsProcedure marked same
      intro unusable
      have none := dfsRequirementCheck_none.mpr (unusable channel rfl)
      rw [checked] at none
      cases none

theorem adds_channelSwitchAction {wcid : BitVec 8} {newChannel secondary : UInt8} :
    s.Adds (s.channelSwitchAction wcid newChannel secondary)
      (s.channelSwitchSanityCheck wcid newChannel secondary = true →
        isMarked s.channelList newChannel = false) := by
  unfold channelSwitchAction
  split_ifs with sane
  · refine ⟨[⟨newChannel, isMarked s.channelList newChannel, none⟩], rfl, ?_⟩
    constructor
    · intro lawful _
      exact (lawful _ List.mem_cons_self).1
    · intro unmarked assignment member
      rw [List.mem_singleton.mp member]
      exact ⟨unmarked sane, fun channel found => by cases found⟩
  · exact adds_nothing rfl fun passed => absurd passed sane

theorem Adds.trans {middle after : DfsAdapter} {first second : Prop} (one : s.Adds middle first)
    (two : middle.Adds after second) : s.Adds after (first ∧ second) := by
  obtain ⟨front, start, lawful⟩ := one
  obtain ⟨back, rest, others⟩ := two
  refine ⟨front ++ back, by rw [rest, start, List.append_assoc], ?_⟩
  rw [← lawful, ← others]
  constructor
  · intro all
    exact ⟨fun assignment member => all assignment (List.mem_append_left _ member),
      fun assignment member => all assignment (List.mem_append_right _ member)⟩
  · rintro ⟨early, late⟩ assignment member
    rcases List.mem_append.mp member with before | behind
    · exact early assignment before
    · exact late assignment behind

theorem Adds.congr {after : DfsAdapter} {first second : Prop} (adds : s.Adds after first)
    (same : first ↔ second) : s.Adds after second := by
  obtain ⟨new, record, lawful⟩ := adds
  exact ⟨new, record, lawful.trans same⟩

/-- The request table has nothing to do with channels. -/
theorem answerRequest_some {dialogToken : UInt8} {after : DfsAdapter}
    (answered : s.answerRequest dialogToken = some after) :
    after.assigned = s.assigned ∧ ∀ channel, after.Usable channel ↔ s.Usable channel := by
  unfold answerRequest at answered
  split_ifs at answered
  · obtain rfl := Option.some.inj answered
    exact ⟨rfl, fun _ => Iff.rfl⟩
  · split at answered
    · obtain ⟨tab, _, rfl⟩ := Option.map_eq_some_iff.mp answered
      exact ⟨rfl, fun _ => Iff.rfl⟩
    · cases answered

theorem adds_peerMeasureReportAction :
    s.Adds (s.peerMeasureReportAction elem)
      (∀ dialogToken channel, reportedRadar elem = some (dialogToken, channel) →
        s.answerRequest dialogToken ≠ none → ¬s.Usable channel) := by
  unfold peerMeasureReportAction
  split
  next dialogToken info sane =>
    have token : ∀ other channel, reportedRadar elem = some (other, channel) →
        other = dialogToken := by
      intro other channel found
      unfold reportedRadar at found
      rw [sane] at found
      dsimp only at found
      split_ifs at found
      exact (Prod.mk.inj (Option.some.inj found)).1.symm
    cases answered : s.answerRequest dialogToken with
    | none =>
      refine adds_nothing rfl fun other channel found asked => ?_
      rw [token other channel found] at asked
      exact absurd answered asked
    | some answeredBy =>
      obtain ⟨same, usable⟩ := answerRequest_some answered
      cases radar : reportedRadar elem with
      | none => exact adds_nothing same fun other channel found => by cases found
      | some report =>
        obtain ⟨other, channel⟩ := report
        obtain rfl := token other channel radar
        dsimp only
        cases checked : answeredBy.dfsRequirementCheck channel with
        | none =>
          refine adds_nothing same fun another radarChannel found _ => ?_
          obtain ⟨rfl, rfl⟩ := Prod.mk.inj (Option.some.inj found)
          rw [← usable]
          exact dfsRequirementCheck_none.mp checked
        | some after =>
          obtain ⟨marked, record⟩ := dfsRequirementCheck_some checked
          apply adds_startDfsProcedure marked (record.trans same)
          intro unusable
          have unused := unusable other channel rfl (by rw [answered]; exact Option.some_ne_none _)
          rw [← usable] at unused
          have none := dfsRequirementCheck_none.mpr unused
          rw [checked] at none
          cases none
  next other =>
    refine adds_nothing rfl fun dialogToken channel found => ?_
    unfold reportedRadar at found
    split at found
    next token info sane => exact absurd sane (other token info)
    next => cases found

theorem adds_step (s : DfsAdapter) (event : DfsEvent) : s.Adds (s.step event) (s.Harmless event) := by
  cases event with
  | others bIEEE80211H rdMode channelList channel measureReqTab => exact adds_nothing rfl trivial
  | action elem =>
    change s.Adds (s.peerSpectrumAction elem) _
    unfold peerSpectrumAction Harmless
    cases enabled : s.bIEEE80211H with
    | false => exact adds_nothing rfl fun on => by cases on
    | true =>
      rw [Bool.not_true, if_neg Bool.false_ne_true]
      have different : specMrp ≠ specChannelSwitch := by decide
      by_cases report : elem.action = specMrp
      · rw [if_pos report]
        refine adds_peerMeasureReportAction.congr ?_
        simp only [report, different, forall_const, false_imp_iff, and_true]
      · rw [if_neg report]
        by_cases announcement : elem.action = specChannelSwitch
        · rw [if_pos announcement]
          simp only [announcement, different.symm, false_imp_iff, true_and, forall_const]
          cases fast : announcedSwitch elem with
          | none =>
            refine adds_peerChSwAnnAction.congr ?_
            simp
          | some target =>
            obtain ⟨newChannel, secondary⟩ := target
            refine (adds_channelSwitchAction.trans adds_peerChSwAnnAction).congr ?_
            have usable (channel : UInt8) :
                (s.channelSwitchAction elem.wcid newChannel secondary).Usable channel ↔
                  s.Usable channel := by
              unfold channelSwitchAction
              split_ifs <;> exact Iff.rfl
            simp [usable]
        · rw [if_neg announcement]
          exact adds_nothing rfl fun _ => ⟨fun same => absurd same report,
            fun same => absurd same announcement⟩

/-- In a run of frames every channel that is set is free of radar, and every report that moves the
AP is about its own channel, exactly when the frames are harmless. -/
theorem run_lawful_iff (s : DfsAdapter) (events : List DfsEvent) :
    (∀ assignment ∈ (run step { s with assigned := [] } events).assigned, assignment.Lawful) ↔
      Throughout step Harmless { s with assigned := [] } events := by
  have record : ∀ (events : List DfsEvent) (s : DfsAdapter),
      ∃ new, (run step s events).assigned = s.assigned ++ new ∧
        ((∀ assignment ∈ new, assignment.Lawful) ↔ Throughout step Harmless s events) := by
    intro events
    induction events with
    | nil => exact fun s => adds_nothing rfl trivial
    | cons event rest ih => exact fun s => (adds_step s event).trans (ih (s.step event))
  obtain ⟨new, same, lawful⟩ := record events { s with assigned := [] }
  rw [same]
  exact lawful

end DfsAdapter

/-- A station reports radar on channel 40, and nobody has asked it. -/
def radarReport : MlmeQueueElem where
  msg := fun address => (List.replicate 24 0 ++ [0, specMrp, 0, ieMeasurementReport, 15, 1, 0,
    rmBasic, 40, 0, 0, 0, 0, 0, 0, 0, 0, 0, 0, radarBit]).getD address 0
  msgLen := 44
  wcid := 1

/-- An AP on channel 36. -/
def quietAp : DfsAdapter :=
  ⟨true, .normal, 0, [⟨36, 0⟩, ⟨40, 0⟩], 36, .empty .measureReq, []⟩

/-- The AP leaves its channel for the one on which radar was seen. -/
theorem not_run_lawful :
    ¬∀ (s : DfsAdapter) (frames : List MlmeQueueElem), ∀ assignment ∈
      (run DfsAdapter.step { s with assigned := [] } (frames.map DfsEvent.action)).assigned,
        assignment.Lawful := by
  intro always
  have lawful := always quietAp [radarReport] ⟨40, true, some 36⟩ (by
    have moved : (run DfsAdapter.step { quietAp with assigned := [] }
        ([radarReport].map DfsEvent.action)).assigned = [⟨40, true, some 36⟩] := by
      decide +kernel
    rw [moved]
    exact List.mem_cons_self)
  exact absurd lawful.1 (by decide)

end Mt7612u.Spectrum
