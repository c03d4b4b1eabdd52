import Mt7612u.Receive.Memory

/-! `BuildIntolerantChannelRep`: the trigger events are gathered by regulatory class into report
elements, and taken out of the table as they are reported. -/

namespace Mt7612u.Mlme
open Receive (Memory)

def maxTriggerEvent : Nat := 64
def ie2040BssIntolerantReport : UInt8 := 73

/-- `TRIGGER_EVENTA`. -/
structure TriggerEvent where
  bValid : Bool
  bssid : List UInt8
  regClass : UInt8
  channel : BitVec 16

/-- `TRIGGER_EVENT_TAB` with its events of kind A; the entries in use come first. -/
structure EventATab where
  eventA : List TriggerEvent
  eventANo : Nat
  eventA_length : eventA.length = maxTriggerEvent
  eventANo_le : eventANo ≤ maxTriggerEvent

/-- `RegClassArray`: "Those regulatory class has channel in 2.4GHz". -/
def regClassArray : List UInt8 := [0, 11, 12, 32, 33, 54, 55]

namespace TriggerEvent

/-- The channel as it is put into a report. -/
def channelByte (event : TriggerEvent) : UInt8 := UInt8.ofNat event.channel.toNat

def invalidate (event : TriggerEvent) : TriggerEvent := { event with bValid := false }

/-- The event is valid and of the class. -/
def reportedUnder (regClass : UInt8) (event : TriggerEvent) : Bool :=
  event.bValid && event.regClass == regClass

end TriggerEvent

/-- The scan for one class: the events it leaves, and `ChannelList`. -/
def scanClass (regClass : UInt8) : List TriggerEvent → List UInt8 → List TriggerEvent × List UInt8
  | [], channelList => ([], channelList)
  | event :: rest, channelList =>
      if event.reportedUnder regClass then
        let scanned := scanClass regClass rest
          (if event.channelByte ∈ channelList then channelList
          else channelList ++ [event.channelByte])
        (event.invalidate :: scanned.1, scanned.2)
      else
        let scanned := scanClass regClass rest channelList
        (event :: scanned.1, scanned.2)

/-- The events in use, `pDest`, `FrameLen` and `ReadOffset`. -/
structure ReportState where
  events : List TriggerEvent
  pDest : Memory
  frameLen : Nat
  readOffset : Nat

/-- A turn of the loop over the classes. -/
def reportClass (s : ReportState) (tmpRegClass : UInt8) : ReportState :=
  let scanned := scanClass tmpRegClass s.events []
  let idx := scanned.2.length
  if idx > 0 then
    { events := scanned.1
      pDest := (s.pDest.write s.readOffset
        [ie2040BssIntolerantReport, UInt8.ofNat (1 + idx), tmpRegClass]).write
        (s.readOffset + 3) scanned.2
      frameLen := s.frameLen + (3 + idx)
      readOffset := s.readOffset + (3 + idx) }
  else { s with events := scanned.1 }

/-- `BuildIntolerantChannelRep`: the table and the destination behind it, and what it returns. -/
def buildIntolerantChannelRep (tab : EventATab) (pDest : Memory) : ReportState :=
  let s := regClassArray.foldl reportClass ⟨tab.eventA.take tab.eventANo, pDest, 0, 0⟩
  { s with events := s.events ++ tab.eventA.drop tab.eventANo }

/-- An intolerant channel report element. -/
structure ChannelReport where
  regClass : UInt8
  channels : List UInt8

def ChannelReport.encode (report : ChannelReport) : List UInt8 :=
  [ie2040BssIntolerantReport, UInt8.ofNat (1 + report.channels.length), report.regClass] ++
    report.channels

/-- The length byte counts the class and the channels, of which there are some and none twice. -/
structure ChannelReport.WellFormed (report : ChannelReport) : Prop where
  length : (UInt8.ofNat (1 + report.channels.length)).toNat = 1 + report.channels.length
  some : report.channels ≠ []
  nodup : report.channels.Nodup

section Scan

variable (regClass : UInt8)

/-- The scan takes out of the table what is of its class. -/
def takenOut (event : TriggerEvent) : TriggerEvent :=
  if event.reportedUnder regClass then event.invalidate else event

theorem scanClass_events (events : List TriggerEvent) (channelList : List UInt8) :
    (scanClass regClass events channelList).1 = events.map (takenOut regClass) := by
  induction events generalizing channelList with
  | nil => rfl
  | cons event rest ih =>
    unfold scanClass
    split
    · next reported =>
      rw [List.map_cons, takenOut, if_pos reported]
      exact congrArg (List.cons event.invalidate) (ih _)
    · next kept =>
      rw [List.map_cons, takenOut, if_neg kept]
      exact congrArg (List.cons event) (ih _)

theorem mem_scanClass (events : List TriggerEvent) (channelList : List UInt8) (channel : UInt8) :
    channel ∈ (scanClass regClass events channelList).2 ↔
      channel ∈ channelList ∨
        ∃ event ∈ events, event.reportedUnder regClass = true ∧ event.channelByte = channel := by
  induction events generalizing channelList with
  | nil => simp [scanClass]
  | cons event rest ih =>
    unfold scanClass
    split
    · next reported =>
      rw [ih]
      simp only [List.exists_mem_cons_iff, reported, true_and, ← or_assoc]
      refine or_congr_left ?_
      split
      · next present => grind
      · rw [List.mem_append, List.mem_singleton, eq_comm]
    · next kept =>
      rw [ih]
      simp only [List.exists_mem_cons_iff, kept, false_and, Bool.false_eq_true, false_or]

theorem nodup_scanClass (events : List TriggerEvent) {channelList : List UInt8}
    (nodup : channelList.Nodup) : (scanClass regClass events channelList).2.Nodup := by
  induction events generalizing channelList with
  | nil => exact nodup
  | cons event rest ih =>
    unfold scanClass
    split
    · apply ih
      split
      · exact nodup
      · next absent =>
        rw [← List.concat_eq_append, List.nodup_concat]
        exact ⟨absent, nodup⟩
    · exact ih nodup

theorem length_scanClass (events : List TriggerEvent) (channelList : List UInt8) :
    (scanClass regClass events channelList).2.length ≤ channelList.length + events.length := by
  induction events generalizing channelList with
  | nil => exact le_rfl
  | cons event rest ih =>
    unfold scanClass
    split
    · refine (ih _).trans ?_
      rw [List.length_cons]
      split
      · omega
      · rw [List.length_append, List.length_singleton]
        omega
    · refine (ih _).trans ?_
      rw [List.length_cons]
      omega

variable {regClass}

theorem reportedUnder_takenOut {other : UInt8} (apart : other ≠ regClass) (event : TriggerEvent) :
    (takenOut other event).reportedUnder regClass = event.reportedUnder regClass := by
  unfold takenOut
  split
  · next reported =>
    simp only [TriggerEvent.reportedUnder, Bool.and_eq_true, beq_iff_eq] at reported
    simp [TriggerEvent.reportedUnder, TriggerEvent.invalidate, reported.2, apart]
  · rfl

theorem channelByte_takenOut (other : UInt8) (event : TriggerEvent) :
    (takenOut other event).channelByte = event.channelByte := by
  unfold takenOut
  split <;> rfl

/-- What was reported under another class makes no difference to a scan. -/
theorem scanClass_takenOut {other : UInt8} (apart : other ≠ regClass) (events : List TriggerEvent)
    (channelList : List UInt8) :
    (scanClass regClass (events.map (takenOut other)) channelList).2 =
      (scanClass regClass events channelList).2 := by
  induction events generalizing channelList with
  | nil => rfl
  | cons event rest ih =>
    rw [List.map_cons, scanClass, scanClass, reportedUnder_takenOut apart, channelByte_takenOut]
    split
    · exact ih _
    · exact ih _

end Scan

section Report

/-- The report of one class, if there are events for it. -/
def reportOf (events : List TriggerEvent) (regClass : UInt8) : Option ChannelReport :=
  let channels := (scanClass regClass events []).2
  if channels.length > 0 then some ⟨regClass, channels⟩ else none

theorem reportOf_takenOut {regClass other : UInt8} (apart : other ≠ regClass)
    (events : List TriggerEvent) :
    reportOf (events.map (takenOut other)) regClass = reportOf events regClass := by
  unfold reportOf
  rw [scanClass_takenOut apart]

/-- What the loop over the classes has come to. -/
structure Reported (s s' : ReportState) (reports : List ChannelReport) : Prop where
  holds : ∀ written, s.pDest.Holds 0 written → written.length = s.frameLen →
    s'.pDest.Holds 0 (written ++ reports.flatMap ChannelReport.encode)
  frameLen : s'.frameLen = s.frameLen + (reports.flatMap ChannelReport.encode).length
  readOffset : s'.readOffset = s'.frameLen
  behind : ∀ address, s'.frameLen ≤ address → s'.pDest address = s.pDest address

theorem reportClass_reported {s : ReportState} (offset : s.readOffset = s.frameLen)
    (regClass : UInt8) :
    Reported s (reportClass s regClass) (reportOf s.events regClass).toList := by
  unfold reportClass reportOf
  dsimp only
  split
  · next some =>
    rw [Option.toList_some]
    refine ⟨fun written holds length => ?_, ?_, ?_, fun address behind => ?_⟩
    · have start : s.readOffset = 0 + written.length := by rw [offset, length, Nat.zero_add]
      have front := Memory.holds_write_behind holds
        [ie2040BssIntolerantReport, UInt8.ofNat (1 + (scanClass regClass s.events []).2.length),
          regClass]
      have back := Memory.holds_write_behind front (scanClass regClass s.events []).2
      rw [List.length_append, ← Nat.add_assoc, ← start] at back
      rw [List.flatMap_singleton, ChannelReport.encode, ← List.append_assoc]
      exact back
    · rw [List.flatMap_singleton]
      simp only [ChannelReport.encode, List.length_append, List.length_cons, List.length_nil]
    · dsimp only
      rw [offset]
    · dsimp only at behind ⊢
      rw [Memory.write_after, Memory.write_after]
      · simp only [List.length_cons, List.length_nil]
        omega
      · omega
  · rw [Option.toList_none]
    exact ⟨fun written holds _ => by rwa [List.flatMap_nil, List.append_nil], rfl, offset,
      fun _ _ => rfl⟩

theorem Reported.trans {s s' s'' : ReportState} {first second : List ChannelReport}
    (before : Reported s s' first) (after : Reported s' s'' second) :
    Reported s s'' (first ++ second) where
  holds written holds length := by
    rw [List.flatMap_append, ← List.append_assoc]
    exact after.holds _ (before.holds written holds length)
      (by rw [List.length_append, before.frameLen, length])
  frameLen := by
    rw [after.frameLen, before.frameLen, List.flatMap_append, List.length_append, Nat.add_assoc]
  readOffset := after.readOffset
  behind address below := by
    have grown := after.frameLen
    rw [after.behind address below, before.behind address (by omega)]

theorem reportClass_events (s : ReportState) (regClass : UInt8) :
    (reportClass s regClass).events = s.events.map (takenOut regClass) := by
  unfold reportClass
  dsimp only
  split <;> exact scanClass_events regClass s.events []

/-- The loop over any classes that differ reports each of them from the events it started with. -/
theorem reportClasses_reported {classes : List UInt8} (nodup : classes.Nodup) {s : ReportState}
    (offset : s.readOffset = s.frameLen) :
    Reported s (classes.foldl reportClass s) (classes.filterMap (reportOf s.events)) := by
  induction classes generalizing s with
  | nil =>
    exact ⟨fun written holds _ => by rwa [List.filterMap_nil, List.flatMap_nil, List.append_nil],
      rfl, offset, fun _ _ => rfl⟩
  | cons regClass rest ih =>
    obtain ⟨absent, apart⟩ := List.nodup_cons.mp nodup
    have turn := reportClass_reported offset regClass
    have later := ih apart turn.readOffset
    have same : rest.filterMap (reportOf (reportClass s regClass).events) =
        rest.filterMap (reportOf s.events) := by
      apply List.filterMap_congr
      intro other member
      rw [reportClass_events]
      exact reportOf_takenOut (fun equal => absent (by rwa [equal])) s.events
    rw [same] at later
    have both := turn.trans later
    rw [List.foldl_cons, List.filterMap_cons]
    cases found : reportOf s.events regClass with
    | none => rwa [found] at both
    | some report => rwa [found] at both

/-- Which events the loop over some classes takes out of the table. -/
theorem reportClasses_events (classes : List UInt8) (s : ReportState) :
    (classes.foldl reportClass s).events = s.events.map fun event =>
      if event.bValid = true ∧ event.regClass ∈ classes then event.invalidate else event := by
  induction classes generalizing s with
  | nil => simp
  | cons regClass rest ih =>
    rw [List.foldl_cons, ih, reportClass_events, List.map_map]
    apply List.map_congr_left
    intro event _
    rw [Function.comp_apply, takenOut]
    by_cases reported : event.reportedUnder regClass = true
    · rw [if_pos reported]
      simp only [TriggerEvent.reportedUnder, Bool.and_eq_true, beq_iff_eq] at reported
      simp [TriggerEvent.invalidate, reported]
    · rw [if_neg reported]
      simp only [TriggerEvent.reportedUnder, Bool.and_eq_true, beq_iff_eq, not_and] at reported
      by_cases valid : event.bValid = true
      · simp [valid, reported valid]
      · simp [valid]

theorem mem_reportOf {events : List TriggerEvent} {regClass : UInt8} {report : ChannelReport}
    (found : reportOf events regClass = some report) :
    report.regClass = regClass ∧ report.channels = (scanClass regClass events []).2 ∧
      0 < report.channels.length := by
  unfold reportOf at found
  dsimp only at found
  split at found
  · next some =>
    obtain rfl := Option.some.inj found
    exact ⟨rfl, rfl, some⟩
  · exact nomatch found

/-- The classes of the reports are those gone through, in their order. -/
theorem reports_classes_sublist (events : List TriggerEvent) (classes : List UInt8) :
    ((classes.filterMap (reportOf events)).map ChannelReport.regClass).Sublist classes := by
  induction classes with
  | nil => exact .slnil
  | cons regClass rest ih =>
    rw [List.filterMap_cons]
    cases found : reportOf events regClass with
    | none => exact ih.cons regClass
    | some report =>
      rw [List.map_cons, (mem_reportOf found).1]
      exact ih.cons_cons regClass

end Report

theorem reportOf_wellFormed {events : List TriggerEvent} {regClass : UInt8}
    {report : ChannelReport} (few : events.length ≤ maxTriggerEvent)
    (found : reportOf events regClass = some report) : report.WellFormed := by
  obtain ⟨-, channels, positive⟩ := mem_reportOf found
  have short := length_scanClass regClass events []
  rw [← channels, List.length_nil, Nat.zero_add] at short
  refine ⟨Nat.mod_eq_of_lt ?_, List.length_pos_iff.mp positive, ?_⟩
  · simp only [maxTriggerEvent] at few
    omega
  · rw [channels]
    exact nodup_scanClass regClass _ List.nodup_nil

/-- What the reports of some classes list is what valid events of these classes have. -/
theorem exists_report_iff (classes : List UInt8) (events : List TriggerEvent)
    (regClass channel : UInt8) :
    (∃ report ∈ classes.filterMap (reportOf events),
        report.regClass = regClass ∧ channel ∈ report.channels) ↔
      regClass ∈ classes ∧ ∃ event ∈ events, event.bValid = true ∧
        event.regClass = regClass ∧ event.channelByte = channel := by
  have listed : channel ∈ (scanClass regClass events []).2 ↔
      ∃ event ∈ events, event.bValid = true ∧
        event.regClass = regClass ∧ event.channelByte = channel := by
    rw [mem_scanClass]
    simp [TriggerEvent.reportedUnder, and_assoc]
  constructor
  · rintro ⟨report, member, rfl, inside⟩
    obtain ⟨regClass, known, found⟩ := List.mem_filterMap.mp member
    obtain ⟨rfl, channels, -⟩ := mem_reportOf found
    rw [channels] at inside
    exact ⟨known, listed.mp inside⟩
  · rintro ⟨known, some⟩
    have inside := listed.mpr some
    have found : reportOf events regClass = .some ⟨regClass, (scanClass regClass events []).2⟩ :=
      if_pos (List.length_pos_of_mem inside)
    exact ⟨_, List.mem_filterMap.mpr ⟨regClass, known, found⟩, rfl, inside⟩

/-- What `BuildIntolerantChannelRep` returns is the length of well-formed elements that hold the
channels of the valid events of its classes, each once under its class; these events are taken out
of the table. -/
theorem buildIntolerantChannelRep_reports (tab : EventATab) (pDest : Memory) :
    let out := buildIntolerantChannelRep tab pDest
    let used := tab.eventA.take tab.eventANo
    ∃ reports : List ChannelReport,
      out.pDest.bytes 0 out.frameLen = reports.flatMap ChannelReport.encode ∧
      (∀ address, out.frameLen ≤ address → out.pDest address = pDest address) ∧
      (reports.map ChannelReport.regClass).Nodup ∧
      (∀ report ∈ reports, report.WellFormed) ∧
      (∀ regClass channel,
        (∃ report ∈ reports, report.regClass = regClass ∧ channel ∈ report.channels) ↔
          regClass ∈ regClassArray ∧ ∃ event ∈ used, event.bValid = true ∧
            event.regClass = regClass ∧ event.channelByte = channel) ∧
      out.events = (used.map fun event =>
          if event.bValid = true ∧ event.regClass ∈ regClassArray then event.invalidate
          else event) ++
        tab.eventA.drop tab.eventANo := by
  have loop := @reportClasses_reported regClassArray (by decide)
    ⟨tab.eventA.take tab.eventANo, pDest, 0, 0⟩ rfl
  have events := reportClasses_events regClassArray ⟨tab.eventA.take tab.eventANo, pDest, 0, 0⟩
  have few : (tab.eventA.take tab.eventANo).length ≤ maxTriggerEvent :=
    (List.length_take_le _ _).trans tab.eventANo_le
  rw [buildIntolerantChannelRep]
  generalize regClassArray.foldl reportClass ⟨tab.eventA.take tab.eventANo, pDest, 0, 0⟩ = s at *
  dsimp only at loop events ⊢
  refine ⟨regClassArray.filterMap (reportOf (tab.eventA.take tab.eventANo)), ?_, loop.behind, ?_,
    ?_, ?_, ?_⟩
  · have written := loop.holds [] rfl rfl
    have length := loop.frameLen
    rw [Nat.zero_add] at length
    rw [List.nil_append, Memory.Holds, ← length] at written
    exact written
  · exact (reports_classes_sublist _ _).nodup (by decide)
  · intro report member
    obtain ⟨regClass, -, found⟩ := List.mem_filterMap.mp member
    exact reportOf_wellFormed few found
  · exact exists_report_iff _ _
  · rw [events]

/-- An event of another class, as a beacon may announce it, is not reported. -/
theorem otherClass_not_reported : ∃ tab : EventATab,
    (∃ event ∈ tab.eventA.take tab.eventANo, event.bValid = true) ∧
      (buildIntolerantChannelRep tab fun _ => 0).frameLen = 0 :=
  ⟨⟨⟨true, [2, 0, 0, 0, 0, 1], 81, 6⟩ ::
      List.replicate 63 ⟨false, [0, 0, 0, 0, 0, 0], 0, 0⟩, 1, rfl, by decide⟩,
    ⟨_, List.mem_singleton_self _, rfl⟩, by decide⟩

end Mt7612u.Mlme
