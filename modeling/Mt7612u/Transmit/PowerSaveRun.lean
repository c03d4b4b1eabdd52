import Mt7612u.Transmit.PsQueue
import Mt7612u.Transmit.Disposal
import Mt7612u.Library.Run

/-! Over whole runs, a power-save queue keeps its count, its bound and the order of its packets,
and the traffic bitmap marks the stations with packets, while no entry is deleted whose queue
still holds some. -/

namespace Mt7612u.Transmit
open BlockAck (Packet Wcid maxLenOfMacTable)
open Mgmt (MacAddr)
open Library.Run

variable {pAd : TxAdapter} {wcid : Wcid}

/-- The law of the power-save queues: the count and the bound of each, that only clients have
packets waiting, the identifiers of the entries, the order in which packets leave, and a bitmap
whose stations are the ones with packets. -/
structure PsConsistent (pAd : TxAdapter) : Prop where
  counted : ∀ wcid, (pAd.psQueue wcid).Counted
  bounded : ∀ wcid, (pAd.psQueue wcid).number ≤ maxPacketsInPsQueue
  clients : ∀ wcid, (pAd.psQueue wcid).entries ≠ [] → (pAd.content wcid).entryType = .client
  numbered : ∀ wcid, (pAd.content wcid).aid.toNat = 0 ∨
    (pAd.content wcid).aid.toNat = wcid ∧
      ∃ wdev, (pAd.content wcid).wdev = some wdev ∧ wdev.wdevTypeAp = true
  identified : ∀ wcid, (pAd.content wcid).entryType = .client →
    (pAd.content wcid).aid.toNat ≠ 0
  ordered : ∀ wcid, puts wcid pAd.psHistory =
    departures wcid pAd.psHistory ++ (pAd.psQueue wcid).entries
  marked : ∀ apidx aid, 0 < aid → ((pAd.timBitmaps apidx).bit aid = true ↔
    ∃ wcid : Wcid, wcid.val = aid ∧ (pAd.content wcid).apidx = apidx ∧
      (pAd.psQueue wcid).entries ≠ [])

namespace PsConsistent
variable {pAd' : TxAdapter}

/-- The bit of a client is its index in the table. -/
theorem aid_eq (consistent : PsConsistent pAd)
    (client : (pAd.content wcid).entryType = .client) :
    (pAd.content wcid).aid.toNat = wcid :=
  (consistent.numbered wcid).elim
    (fun zero => absurd zero (consistent.identified wcid client)) And.left

theorem bit_station (consistent : PsConsistent pAd) (station : 0 < wcid.val) :
    (pAd.timBitmaps (pAd.content wcid).apidx).bit wcid =
      decide ((pAd.psQueue wcid).entries ≠ []) := by
  rw [Bool.eq_iff_iff, decide_eq_true_iff, consistent.marked _ _ station]
  constructor
  · rintro ⟨other, same, -, waiting⟩
    obtain rfl := Fin.ext same
    exact waiting
  · exact fun waiting => ⟨wcid, rfl, rfl, waiting⟩

/-- What the bitmaps have to say after a change of one station's queue. -/
def Marks (wcid : Wcid) (pAd pAd' : TxAdapter) : Prop :=
  ∀ apidx aid, 0 < aid → (pAd'.timBitmaps apidx).bit aid =
    if apidx = (pAd.content wcid).apidx ∧ aid = wcid.val then
      decide ((pAd'.psQueue wcid).entries ≠ [])
    else (pAd.timBitmaps apidx).bit aid

/-- No mark changes while the queue stays empty or stays in use. -/
theorem marks_of_same (consistent : PsConsistent pAd)
    (bits : ∀ apidx aid, 0 < aid → (pAd'.timBitmaps apidx).bit aid = (pAd.timBitmaps apidx).bit aid)
    (empties : (pAd'.psQueue wcid).entries = [] ↔ (pAd.psQueue wcid).entries = []) :
    Marks wcid pAd pAd' := by
  intro apidx aid station
  rw [bits apidx aid station]
  split
  next own =>
    obtain ⟨rfl, rfl⟩ := own
    rw [consistent.bit_station station]
    exact decide_eq_decide.mpr (not_congr empties.symm)
  next => rfl

/-- An operation on one station's queue keeps the law when it keeps the bound, leaves packets
to clients only, and marks the station. -/
theorem queueStep (consistent : PsConsistent pAd) (step : QueueStep wcid pAd pAd')
    (within : (pAd'.psQueue wcid).number ≤ maxPacketsInPsQueue)
    (client : (pAd'.psQueue wcid).entries ≠ [] → (pAd.content wcid).entryType = .client)
    (marks : Marks wcid pAd pAd') : PsConsistent pAd' := by
  have elsewhere : ∀ other, other ≠ wcid → pAd'.psQueue other = pAd.psQueue other :=
    fun other apart => congrArg StationEntry.psQueue (step.others other apart)
  obtain ⟨events, recorded, silent, balance⟩ := step.history
  constructor
  case counted =>
    intro other
    by_cases own : other = wcid
    · subst own
      exact step.counted (consistent.counted other)
    · rw [elsewhere other own]
      exact consistent.counted other
  case bounded =>
    intro other
    by_cases own : other = wcid
    · subst own
      exact within
    · rw [elsewhere other own]
      exact consistent.bounded other
  case clients =>
    intro other
    by_cases own : other = wcid
    · subst own
      rw [step.station.entryType]
      exact client
    · rw [elsewhere other own, step.others other own]
      exact consistent.clients other
  case numbered =>
    intro other
    by_cases own : other = wcid
    · subst own
      rw [step.station.aid, step.station.wdev]
      exact consistent.numbered other
    · rw [step.others other own]
      exact consistent.numbered other
  case identified =>
    intro other
    by_cases own : other = wcid
    · subst own
      rw [step.station.aid, step.station.entryType]
      exact consistent.identified other
    · rw [step.others other own]
      exact consistent.identified other
  case ordered =>
    intro other
    rw [recorded, puts_append, departures_append, consistent.ordered other]
    by_cases own : other = wcid
    · subst own
      rw [List.append_assoc, balance, List.append_assoc]
    · rw [elsewhere other own, (silent other own).1, (silent other own).2, List.append_nil,
        List.append_nil]
  case marked =>
    intro apidx aid station
    rw [marks apidx aid station]
    by_cases here : aid = wcid.val
    · subst here
      have only : (∃ other : Wcid, other.val = wcid.val ∧ (pAd'.content other).apidx = apidx ∧
          (pAd'.psQueue other).entries ≠ []) ↔
          (pAd.content wcid).apidx = apidx ∧ (pAd'.psQueue wcid).entries ≠ [] := by
        constructor
        · rintro ⟨other, same, bss, waiting⟩
          obtain rfl := Fin.ext same
          exact ⟨step.station.apidx.symm.trans bss, waiting⟩
        · exact fun ⟨bss, waiting⟩ => ⟨wcid, rfl, step.station.apidx.trans bss, waiting⟩
      rw [only]
      by_cases bss : apidx = (pAd.content wcid).apidx
      · subst bss
        simp
      · have unmarked : (pAd.timBitmaps apidx).bit wcid.val ≠ true := by
          rw [Ne, consistent.marked apidx wcid station]
          rintro ⟨other, same, other_bss, -⟩
          obtain rfl := Fin.ext same
          exact bss other_bss.symm
        simp only [bss, false_and, ↓reduceIte, unmarked, Ne.symm bss, Bool.false_eq_true]
    · rw [if_neg (fun own => here own.2), consistent.marked apidx aid station]
      apply exists_congr
      intro other
      by_cases own : other = wcid
      · subst own
        simp only [Ne.symm here, false_and]
      · rw [elsewhere other own, step.others other own]

/-- What touches neither the queues nor the marks of stations keeps the law. -/
theorem of_content (consistent : PsConsistent pAd) (content : pAd'.content = pAd.content)
    (history : pAd'.psHistory = pAd.psHistory)
    (bits : ∀ apidx aid, 0 < aid →
      (pAd'.timBitmaps apidx).bit aid = (pAd.timBitmaps apidx).bit aid) : PsConsistent pAd' := by
  have same : pAd'.psQueue mcastWcid = pAd.psQueue mcastWcid :=
    congrArg (fun table => (table mcastWcid).psQueue) content
  have step : QueueStep mcastWcid pAd pAd' := .of_content content history
  apply consistent.queueStep step
  · rw [same]
    exact consistent.bounded mcastWcid
  · rw [same]
    exact consistent.clients mcastWcid
  · exact consistent.marks_of_same bits (by rw [same])

/-- A station's entry is rewritten around its queue. -/
theorem of_entry (consistent : PsConsistent pAd) (entry : StationEntry)
    (same : SameStation (pAd.content wcid) entry)
    (queue : entry.psQueue = (pAd.content wcid).psQueue) :
    PsConsistent (pAd.setEntry wcid entry) := by
  have kept : (pAd.setEntry wcid entry).psQueue wcid = pAd.psQueue wcid := by
    simp only [TxAdapter.psQueue, TxAdapter.setEntry, Function.update_self, queue]
  have step : QueueStep wcid pAd (pAd.setEntry wcid entry) := .of_entry entry same queue rfl rfl
  apply consistent.queueStep step
  · rw [kept]
    exact consistent.bounded wcid
  · rw [kept]
    exact consistent.clients wcid
  · exact consistent.marks_of_same (fun _ _ _ => rfl) (by rw [kept])

/-- An entry whose queue is empty may become another one with an empty queue. -/
theorem of_vacant (consistent : PsConsistent pAd) (entry : StationEntry)
    (vacant : (pAd.psQueue wcid).entries = []) (queue : entry.psQueue.entries = [])
    (counted : entry.psQueue.Counted)
    (numbered : entry.aid.toNat = 0 ∨ entry.aid.toNat = wcid ∧
      ∃ wdev, entry.wdev = some wdev ∧ wdev.wdevTypeAp = true)
    (identified : entry.entryType = .client → entry.aid.toNat ≠ 0) :
    PsConsistent (pAd.setEntry wcid entry) := by
  have at_self : (pAd.setEntry wcid entry).content wcid = entry := Function.update_self ..
  have elsewhere : ∀ other, other ≠ wcid →
      (pAd.setEntry wcid entry).content other = pAd.content other :=
    fun other apart => Function.update_of_ne apart ..
  have queue_of : ∀ other, ((pAd.setEntry wcid entry).psQueue other).entries =
      (pAd.psQueue other).entries := by
    intro other
    by_cases own : other = wcid
    · subst own
      rw [vacant, TxAdapter.psQueue, at_self, queue]
    · rw [TxAdapter.psQueue, TxAdapter.psQueue, elsewhere other own]
  constructor
  case counted =>
    intro other
    by_cases own : other = wcid
    · subst own
      rw [TxAdapter.psQueue, at_self]
      exact counted
    · rw [TxAdapter.psQueue, elsewhere other own]
      exact consistent.counted other
  case bounded =>
    intro other
    by_cases own : other = wcid
    · subst own
      rw [TxAdapter.psQueue, at_self, counted, queue]
      exact Nat.zero_le _
    · rw [TxAdapter.psQueue, elsewhere other own]
      exact consistent.bounded other
  case clients =>
    intro other waiting
    rw [queue_of] at waiting
    by_cases own : other = wcid
    · subst own
      exact absurd vacant waiting
    · rw [elsewhere other own]
      exact consistent.clients other waiting
  case numbered =>
    intro other
    by_cases own : other = wcid
    · subst own
      rw [at_self]
      exact numbered
    · rw [elsewhere other own]
      exact consistent.numbered other
  case identified =>
    intro other
    by_cases own : other = wcid
    · subst own
      rw [at_self]
      exact identified
    · rw [elsewhere other own]
      exact consistent.identified other
  case ordered =>
    intro other
    rw [queue_of]
    exact consistent.ordered other
  case marked =>
    intro apidx aid station
    refine Iff.trans (consistent.marked apidx aid station) ?_
    apply exists_congr
    intro other
    rw [queue_of]
    by_cases own : other = wcid
    · subst own
      simp only [vacant, ne_eq, not_true_eq_false, and_false]
    · rw [elsewhere other own]

end PsConsistent

theorem toNat_lt (wcid : Wcid) : wcid.val < 8 * wlanMaxNumOfTim :=
  lt_trans wcid.isLt (by decide)

/-- The bits after `WLAN_MR_TIM_BIT_SET` for a station. -/
theorem bit_setTim_timBitSet (pAd : TxAdapter) (apidx : BitVec 8) (aid : BitVec 16)
    (own : aid.toNat = wcid.val) (bss : BitVec 8) (a : Nat) :
    ((pAd.setTim apidx ((pAd.timBitmaps apidx).timBitSet aid)).timBitmaps bss).bit a =
      if bss = apidx ∧ a = wcid.val then true else (pAd.timBitmaps bss).bit a := by
  unfold TxAdapter.setTim
  by_cases here : bss = apidx
  · subst here
    simp only [Function.update_self, true_and]
    rw [TimBitmaps.bit_timBitSet _ _ (own ▸ toNat_lt wcid), own]
    by_cases same : a = wcid.val <;> simp [same]
  · simp [here]

/-- The bits after `WLAN_MR_TIM_BIT_CLEAR` for a station. -/
theorem bit_clearTim (pAd : TxAdapter) (own : (pAd.content wcid).aid.toNat = wcid.val)
    (bss : BitVec 8) (a : Nat) :
    ((clearTim pAd wcid).timBitmaps bss).bit a =
      if bss = (pAd.content wcid).apidx ∧ a = wcid.val then false
      else (pAd.timBitmaps bss).bit a := by
  unfold clearTim TxAdapter.setTim
  by_cases here : bss = (pAd.content wcid).apidx
  · subst here
    simp only [Function.update_self, true_and]
    rw [TimBitmaps.bit_timBitClear _ _ (own ▸ toNat_lt wcid), own]
    by_cases same : a = wcid.val <;> simp [same]
  · simp [here]

theorem apInsertPsQueue_consistent (consistent : PsConsistent pAd) (pPacket : Packet)
    (client : (pAd.content wcid).entryType = .client) :
    PsConsistent (apInsertPsQueue pAd pPacket wcid).1 := by
  unfold apInsertPsQueue
  split
  next => exact consistent.of_content rfl rfl fun _ _ _ => rfl
  next room =>
    have queue : ((pAd.insertPsQueue wcid pPacket).psQueue wcid) =
        (pAd.psQueue wcid).insertTailQueue pPacket := by
      simp only [TxAdapter.psQueue, TxAdapter.insertPsQueue, TxAdapter.setPsQueue,
        TxAdapter.setEntry, TxAdapter.record, Function.update_self]
    have step := insertPsQueue_step pAd wcid pPacket
    refine consistent.queueStep ⟨step.others, step.station, step.counted, step.history⟩
      ?_ (fun _ => client) ?_
    · change ((pAd.insertPsQueue wcid pPacket).psQueue wcid).number ≤ _
      rw [queue]
      exact Nat.lt_of_not_le room
    · intro bss aid _
      refine (bit_setTim_timBitSet _ _ _ (consistent.aid_eq client) bss aid).trans ?_
      have waiting : ((pAd.insertPsQueue wcid pPacket).psQueue wcid).entries ≠ [] := by
        rw [queue]
        simp [QueueHeader.insertTailQueue]
      exact congrArg (ite _ · _) (decide_eq_true waiting).symm

/-- Only a client of the access point is sent to the power-save queue. -/
theorem apRoute_psQueue {setting : TxSetting} {pPacket : TxPacket}
    (known : WdevKnown .ap pAd pPacket) (chosen : apRoute setting pAd pPacket = some .psQueue) :
    (pAd.content pPacket.wcid).entryType = .client := by
  rcases @apRoute_known setting _ _ known with dropped | ⟨mem, wdev, -, -, decided⟩
  · rw [chosen] at dropped
    cases dropped
  · have through := (Option.some.inj (decided.symm.trans chosen))
    unfold apRouteOn apQueue at through
    simp only at through
    split_ifs at through with refused vacant shut linked group asleep
    exact asleep.2.1

theorem enqueue_consistent (consistent : PsConsistent pAd) (setting : TxSetting)
    (pPacket : Packet) (route : Route)
    (client : route = .psQueue → (pAd.content wcid).entryType = .client) :
    PsConsistent (enqueue setting pAd pPacket wcid route).1 := by
  cases route with
  | drop => exact consistent.of_content rfl rfl fun _ _ _ => rfl
  | txSwQueue queIdx =>
    simp only [enqueue]
    split <;> exact consistent.of_content rfl rfl fun _ _ _ => rfl
  | mcastPsQueue apidx =>
    simp only [enqueue]
    split
    next => exact consistent.of_content rfl rfl fun _ _ _ => rfl
    next =>
      refine consistent.of_content ?_ ?_ ?_
      · rfl
      · rfl
      intro bss aid station
      change (Function.update pAd.timBitmaps apidx (pAd.timBitmaps apidx).timBcmcSet bss).bit aid = _
      by_cases here : bss = apidx
      · subst here
        rw [Function.update_self, TimBitmaps.bit_timBcmcSet _ _ station]
      · rw [Function.update_of_ne here]
  | psQueue => exact apInsertPsQueue_consistent consistent pPacket (client rfl)

/-- The answer to a PS-Poll takes at most the head. -/
theorem answerPoll_spec (pAd : TxAdapter) (wcid : Wcid) :
    QueueStep wcid pAd (answerPoll pAd wcid) ∧
      (answerPoll pAd wcid).timBitmaps = pAd.timBitmaps ∧
      ((answerPoll pAd wcid).psQueue wcid).entries = (pAd.psQueue wcid).entries.tail := by
  have step := movePsQueueHead_step pAd wcid
  unfold answerPoll
  split
  next pPacket rest removed =>
    simp only
    split
    next =>
      exact ⟨⟨step.others, step.station, step.counted, step.history⟩,
        timBitmaps_movePsQueueHead pAd wcid, entries_movePsQueueHead pAd wcid⟩
    next =>
      exact ⟨step, timBitmaps_movePsQueueHead pAd wcid, entries_movePsQueueHead pAd wcid⟩
  next empty =>
    have none_left := QueueHeader.removeHeadQueue_eq_none.mp empty
    refine ⟨.of_content rfl rfl, rfl, ?_⟩
    change (pAd.psQueue wcid).entries = _
    rw [none_left, List.tail_nil]

/-- The end of `RtmpHandleRxPsPoll`, after packets have left the queue. -/
theorem clearWhenEmpty_consistent {pAd' : TxAdapter} (consistent : PsConsistent pAd)
    (step : QueueStep wcid pAd pAd') (tims : pAd'.timBitmaps = pAd.timBitmaps)
    (shrinks : (pAd'.psQueue wcid).entries.length ≤ (pAd.psQueue wcid).entries.length) :
    ∃ pAd'', clearWhenEmpty pAd' wcid = some pAd'' ∧ PsConsistent pAd'' := by
  have counted : (pAd'.psQueue wcid).Counted := step.counted (consistent.counted wcid)
  have within : (pAd'.psQueue wcid).number ≤ maxPacketsInPsQueue := by
    have before := consistent.bounded wcid
    rw [consistent.counted wcid] at before
    rw [counted]
    exact shrinks.trans before
  have fewer : (pAd.psQueue wcid).entries = [] → (pAd'.psQueue wcid).entries = [] := by
    intro empty
    rw [empty] at shrinks
    exact List.length_eq_zero_iff.mp (Nat.le_zero.mp shrinks)
  have client : (pAd'.psQueue wcid).entries ≠ [] → (pAd.content wcid).entryType = .client :=
    fun waiting => consistent.clients wcid fun empty => waiting (fewer empty)
  unfold clearWhenEmpty
  simp only
  split
  next empty =>
    obtain ⟨positive, -, zero⟩ := empty
    have drained : (pAd'.psQueue wcid).entries = [] :=
      List.length_eq_zero_iff.mp (counted.symm.trans zero)
    rw [step.station.aid] at positive
    obtain absent | ⟨own, wdev, pointer, isAp⟩ := consistent.numbered wcid
    · omega
    rw [step.station.wdev, pointer]
    refine ⟨_, rfl, ?_⟩
    simp only [isAp, ↓reduceIte]
    have idle : (clearTim pAd' wcid).content = pAd'.content := rfl
    have unset : QueueStep wcid pAd (setPsQIdleCount (clearTim pAd' wcid) wcid 0) :=
      step.trans (.of_entry { pAd'.content wcid with psQIdleCount := 0 } ⟨rfl, rfl, rfl, rfl⟩
        rfl rfl rfl)
    have queue : (setPsQIdleCount (clearTim pAd' wcid) wcid 0).psQueue wcid = pAd'.psQueue wcid := by
      simp only [TxAdapter.psQueue, setPsQIdleCount, TxAdapter.setEntry, Function.update_self, idle]
    apply consistent.queueStep unset
    · rw [queue]
      exact within
    · rw [queue]
      exact client
    · intro bss aid _
      rw [queue, drained]
      have bits := bit_clearTim pAd' (step.station.aid ▸ own) bss aid
      rw [step.station.apidx, tims] at bits
      refine bits.trans ?_
      simp
  next remains =>
    refine ⟨pAd', rfl, consistent.queueStep step within client ?_⟩
    apply consistent.marks_of_same (fun bss aid _ => by rw [tims])
    refine ⟨fun drained => ?_, fewer⟩
    by_contra waiting
    have numbered := consistent.aid_eq (consistent.clients wcid waiting)
    have identified := consistent.identified wcid (consistent.clients wcid waiting)
    refine remains ⟨?_, ?_, ?_⟩
    · rw [step.station.aid]
      exact Nat.pos_of_ne_zero identified
    · rw [step.station.aid, numbered]
      exact wcid.isLt
    · exact counted.trans (List.length_eq_zero_iff.mpr drained)

theorem rtmpHandleRxPsPoll_consistent (consistent : PsConsistent pAd) (pAddr : MacAddr)
    (wcid : Wcid) (isActive : Bool) :
    ∃ pAd', rtmpHandleRxPsPoll pAd pAddr wcid isActive = some pAd' ∧ PsConsistent pAd' := by
  unfold rtmpHandleRxPsPoll
  split
  next =>
    cases isActive with
    | true =>
      obtain ⟨step, tims, drained⟩ := moveAll_spec pAd wcid
      exact clearWhenEmpty_consistent consistent step tims (by simp [drained])
    | false =>
      obtain ⟨step, tims, taken⟩ := answerPoll_spec pAd wcid
      exact clearWhenEmpty_consistent consistent step tims (by simp [taken])
  next => exact ⟨pAd, rfl, consistent⟩

theorem rtmpPsIndicate_consistent (consistent : PsConsistent pAd) (pAddr : MacAddr) (wcid : Nat)
    (psm : PsMode) :
    ∃ pAd', rtmpPsIndicate pAd pAddr wcid psm = some pAd' ∧ PsConsistent pAd' := by
  unfold rtmpPsIndicate
  split
  next inside =>
    have changed : PsConsistent (setPsMode pAd ⟨wcid, inside⟩ psm) :=
      consistent.of_entry _ ⟨rfl, rfl, rfl, rfl⟩ rfl
    simp only
    split
    next => exact rtmpHandleRxPsPoll_consistent changed pAddr ⟨wcid, inside⟩ true
    next => exact ⟨_, rfl, changed⟩
  next => exact ⟨pAd, rfl, consistent⟩

theorem collectPsQueue_consistent (consistent : PsConsistent pAd) (wcid : Wcid) :
    PsConsistent (collectPsQueue pAd wcid) := by
  unfold collectPsQueue
  split
  next => exact consistent.of_entry _ ⟨rfl, rfl, rfl, rfl⟩ rfl
  next waiting =>
    simp only
    split
    next =>
      have own := consistent.aid_eq (consistent.clients wcid waiting)
      obtain ⟨step, tims, drained⟩ := rtmpCleanupPsQueue_spec pAd wcid
      generalize rtmpCleanupPsQueue pAd wcid = cleaned at step tims drained
      have idle : QueueStep wcid pAd (setPsQIdleCount cleaned wcid 0) :=
        step.trans (.of_entry { cleaned.content wcid with psQIdleCount := 0 }
          ⟨rfl, rfl, rfl, rfl⟩ rfl rfl rfl)
      have unset : QueueStep wcid pAd (clearTim (setPsQIdleCount cleaned wcid 0) wcid) :=
        idle.trans (.of_content rfl rfl)
      have queue : (clearTim (setPsQIdleCount cleaned wcid 0) wcid).psQueue wcid =
          cleaned.psQueue wcid := by
        simp [TxAdapter.psQueue, clearTim, setPsQIdleCount, TxAdapter.setEntry, TxAdapter.setTim]
      apply consistent.queueStep unset
      · rw [queue, step.counted (consistent.counted wcid), drained]
        exact Nat.zero_le _
      · rw [queue]
        exact fun left => absurd drained left
      · intro bss aid _
        rw [queue, drained]
        have bits := bit_clearTim (setPsQIdleCount cleaned wcid 0) (idle.station.aid ▸ own) bss aid
        have same : (setPsQIdleCount cleaned wcid 0).timBitmaps = pAd.timBitmaps := tims
        rw [idle.station.apidx, same] at bits
        refine bits.trans ?_
        simp
    next => exact consistent.of_entry _ ⟨rfl, rfl, rfl, rfl⟩ rfl

/-- What a call finds: APSendPacket gets the entry of a station that has been in the table,
APInsertPsQueue a client, MacTableInsertEntry the device of a BSS. MacTableDeleteEntry finds
the queue of the entry it deletes empty. -/
def PsAllowed (pAd : TxAdapter) : PsCall → Prop
  | .apSendPacket pPacket => WdevKnown .ap pAd pPacket
  | .apInsertPsQueue _ wcid => (pAd.content wcid).entryType = .client
  | .macTableInsertEntry _ _ wdev _ => wdev.wdevTypeAp = true
  | .macTableDeleteEntry wcid pAddr => ∀ index : Wcid, index.val = wcid →
      (pAd.content index).entryType ≠ .none → (pAd.content index).addr = pAddr →
      (pAd.psQueue index).entries = []
  | _ => True

theorem macTableDeleteEntry_consistent (consistent : PsConsistent pAd) (wcid : Nat)
    (pAddr : MacAddr) (empty : PsAllowed pAd (.macTableDeleteEntry wcid pAddr)) :
    PsConsistent (macTableDeleteEntry pAd wcid pAddr) := by
  unfold macTableDeleteEntry
  split
  next inside =>
    simp only
    split
    next found =>
      have vacant := empty ⟨wcid, inside⟩ rfl found.1 found.2
      have kept : rtmpCleanupPsQueue pAd ⟨wcid, inside⟩ = pAd := by
        unfold rtmpCleanupPsQueue
        rw [vacant]
        rfl
      rw [kept]
      exact consistent.of_vacant _ vacant vacant (consistent.counted _) (consistent.numbered _)
        nofun
    next => exact consistent
  next => exact consistent

theorem macTableInsertEntry_consistent (consistent : PsConsistent pAd) (i : Wcid)
    (pAddr : MacAddr) (wdev : Wdev) (apidx : BitVec 8) (bss : wdev.wdevTypeAp = true) :
    PsConsistent (macTableInsertEntry pAd i pAddr wdev apidx) := by
  unfold macTableInsertEntry
  split
  next vacancy =>
    obtain ⟨vacant, station⟩ := vacancy
    have index : (BitVec.ofNat 16 i.val).toNat = i := by
      have small : i.val < 2 ^ 16 := lt_trans i.isLt (by decide)
      rw [BitVec.toNat_ofNat, Nat.mod_eq_of_lt small]
    apply consistent.of_vacant
    · by_contra waiting
      rw [consistent.clients i waiting] at vacant
      cases vacant
    · rfl
    · rfl
    · exact Or.inr ⟨index, wdev, rfl, bss⟩
    · intro _ zero
      exact station (Fin.ext (index.symm.trans zero))
  next => exact consistent

theorem psStep_consistent (setting : TxSetting) (pAd : TxAdapter) (call : PsCall)
    (consistent : PsConsistent pAd) (allowed : PsAllowed pAd call) :
    ∃ pAd', psStep setting pAd call = some pAd' ∧ PsConsistent pAd' := by
  cases call with
  | apSendPacket pPacket =>
    obtain ⟨route, chosen, -⟩ := @apRoute_decides setting _ _ allowed
    refine ⟨(enqueue setting pAd pPacket.pPacket pPacket.wcid route).1, ?_, ?_⟩
    · simp only [psStep, apSendPacket, chosen, Option.map_some]
    · apply enqueue_consistent consistent
      rintro rfl
      exact apRoute_psQueue allowed chosen
  | apInsertPsQueue pPacket wcid =>
    exact ⟨_, rfl, apInsertPsQueue_consistent consistent pPacket allowed⟩
  | rtmpHandleRxPsPoll pAddr wcid isActive =>
    exact rtmpHandleRxPsPoll_consistent consistent pAddr wcid isActive
  | rtmpPsIndicate pAddr wcid psm => exact rtmpPsIndicate_consistent consistent pAddr wcid psm
  | collectPsQueue wcid => exact ⟨_, rfl, collectPsQueue_consistent consistent wcid⟩
  | macTableDeleteEntry wcid pAddr =>
    exact ⟨_, rfl, macTableDeleteEntry_consistent consistent wcid pAddr allowed⟩
  | macTableInsertEntry i pAddr wdev apidx =>
    exact ⟨_, rfl, macTableInsertEntry_consistent consistent i pAddr wdev apidx allowed⟩
  | rtmpDeQueuePacket queIdx =>
    refine ⟨_, rfl, ?_⟩
    unfold rtmpDeQueuePacket
    split <;> exact consistent.of_content rfl rfl fun _ _ _ => rfl
  | writeEntry wcid associated portSecured wmmCapable =>
    exact ⟨_, rfl, consistent.of_entry _ ⟨rfl, rfl, rfl, rfl⟩ rfl⟩
  | writeAnyStationInPsm fAnyStationInPsm =>
    exact ⟨_, rfl, consistent.of_content rfl rfl fun _ _ _ => rfl⟩

/-- Any stations, and nothing waiting for them. -/
structure PsStart (pAd : TxAdapter) : Prop where
  idle : ∀ wcid, pAd.psQueue wcid = .empty
  unmarked : ∀ apidx aid, 0 < aid → (pAd.timBitmaps apidx).bit aid = false
  unrecorded : pAd.psHistory = []
  numbered : ∀ wcid, (pAd.content wcid).aid.toNat = 0 ∨
    (pAd.content wcid).aid.toNat = wcid ∧
      ∃ wdev, (pAd.content wcid).wdev = some wdev ∧ wdev.wdevTypeAp = true
  identified : ∀ wcid, (pAd.content wcid).entryType = .client →
    (pAd.content wcid).aid.toNat ≠ 0

theorem PsStart.consistent (start : PsStart pAd) : PsConsistent pAd where
  counted wcid := start.idle wcid ▸ QueueHeader.counted_empty
  bounded wcid := start.idle wcid ▸ Nat.zero_le _
  clients wcid waiting := absurd (congrArg QueueHeader.entries (start.idle wcid)) waiting
  numbered := start.numbered
  identified := start.identified
  ordered wcid := by
    rw [start.unrecorded, start.idle wcid]
    rfl
  marked apidx aid station := by
    rw [start.unmarked apidx aid station]
    simp [start.idle, QueueHeader.empty]

/-- In every run that deletes an entry only with an empty queue, the power-save queues and the
traffic bitmaps are as they should be after each call. -/
theorem psRun_consistent (setting : TxSetting) (pAd : TxAdapter) (start : PsStart pAd)
    (calls : List PsCall) (along : ThroughoutOption (psStep setting) PsAllowed pAd calls) :
    ∃ pAd', runOption (psStep setting) pAd calls = some pAd' ∧ PsConsistent pAd' :=
  runOption_total PsConsistent (psStep_consistent setting) start.consistent calls along

/-- A sleeping client of an open BSS at index 1, and vacant entries. -/
def oneSleeper : TxAdapter where
  content := fun wcid =>
    if wcid = bssidWcid then { unsecuredClient .open with psMode := .pwrSave }
    else { vacantEntry with aid := 0 }
  fAnyStationInPsm := true
  mcastPsQueue := .empty
  txSwQueue := fun _ => .empty
  timBitmaps := fun _ _ => 0
  moreData := fun _ => false
  nullFrames := []
  freed := []
  psHistory := []

theorem oneSleeper_start : PsStart oneSleeper where
  idle wcid := by
    by_cases here : wcid = bssidWcid <;>
      simp [TxAdapter.psQueue, oneSleeper, here, unsecuredClient, vacantEntry]
  unmarked apidx aid _ := by
    simp [TimBitmaps.bit, oneSleeper]
  unrecorded := rfl
  numbered wcid := by
    simp only [oneSleeper]
    split
    next here => exact Or.inr ⟨here ▸ rfl, bssWdev .open, rfl, rfl⟩
    next => exact Or.inl rfl
  identified wcid client := by
    simp only [oneSleeper] at client ⊢
    split at client
    next here => simp [here, unsecuredClient]
    next => cases client

/-- A packet waits, the station polls for it, and is then deleted. -/
def pollThenDelete : List PsCall :=
  [.apSendPacket arpPacket,
    .rtmpHandleRxPsPoll (fun _ => 0x02) bssidWcid false,
    .macTableDeleteEntry bssidWcid fun _ => 0x02]

theorem psRun_consistent_poll :
    ∃ pAd', runOption (psStep plainSetting) oneSleeper pollThenDelete = some pAd' ∧
      PsConsistent pAd' := by
  apply psRun_consistent plainSetting oneSleeper oneSleeper_start pollThenDelete
  refine ⟨fun _ _ => nofun, fun first sent => ?_⟩
  obtain rfl := Option.some.inj sent
  refine ⟨trivial, fun second polled => ?_⟩
  obtain rfl := Option.some.inj polled
  refine ⟨?_, fun _ _ => trivial⟩
  rintro index own - -
  obtain rfl : index = bssidWcid := Fin.ext own
  rfl

/-- Deleted with a packet waiting, a station leaves its bit set. -/
theorem deleted_station_marked :
    PsStart oneSleeper ∧
      ∃ pAd', runOption (psStep plainSetting) oneSleeper
          [.apSendPacket arpPacket, .macTableDeleteEntry bssidWcid fun _ => 0x02] = some pAd' ∧
        (pAd'.content bssidWcid).entryType = .none ∧ pAd'.psQueue bssidWcid = .empty ∧
        pAd'.freed = [7] ∧ (pAd'.timBitmaps 0).bit bssidWcid = true :=
  ⟨oneSleeper_start, _, rfl, rfl, rfl, rfl, by decide⟩

end Mt7612u.Transmit
