import Mt7612u.Transmit.PowerSave

/-! What the operations of a power-save queue do to it: its packets leave from the head, and each
of them is recorded. -/

namespace Mt7612u.Transmit
open BlockAck (Packet Wcid)

/-- The packets put into a station's queue. -/
def puts (wcid : Wcid) (history : List PsEvent) : List Packet :=
  history.filterMap fun
    | .put station pPacket => if station = wcid then some pPacket else none
    | _ => none

/-- The packets that have left a station's queue, for the software queue or freed. -/
def departures (wcid : Wcid) (history : List PsEvent) : List Packet :=
  history.filterMap fun
    | .toTxSwQueue station pPacket | .freed station pPacket =>
        if station = wcid then some pPacket else none
    | _ => none

@[simp] theorem puts_append (wcid : Wcid) (before after : List PsEvent) :
    puts wcid (before ++ after) = puts wcid before ++ puts wcid after :=
  List.filterMap_append

@[simp] theorem departures_append (wcid : Wcid) (before after : List PsEvent) :
    departures wcid (before ++ after) = departures wcid before ++ departures wcid after :=
  List.filterMap_append

/-- The fields that name a station and its bit. -/
structure SameStation (before after : StationEntry) : Prop where
  entryType : after.entryType = before.entryType
  wdev : after.wdev = before.wdev
  aid : after.aid = before.aid
  apidx : after.apidx = before.apidx

/-- What operations on one station's queue do, however many packets they touch. -/
structure QueueStep (wcid : Wcid) (pAd pAd' : TxAdapter) : Prop where
  others : ∀ other, other ≠ wcid → pAd'.content other = pAd.content other
  station : SameStation (pAd.content wcid) (pAd'.content wcid)
  counted : (pAd.psQueue wcid).Counted → (pAd'.psQueue wcid).Counted
  history : ∃ events, pAd'.psHistory = pAd.psHistory ++ events ∧
    (∀ other, other ≠ wcid → puts other events = [] ∧ departures other events = []) ∧
    (pAd.psQueue wcid).entries ++ puts wcid events =
      departures wcid events ++ (pAd'.psQueue wcid).entries

namespace QueueStep
variable {wcid : Wcid} {pAd pAd' pAd'' : TxAdapter}

theorem trans (first : QueueStep wcid pAd pAd') (second : QueueStep wcid pAd' pAd'') :
    QueueStep wcid pAd pAd'' where
  others other apart := (second.others other apart).trans (first.others other apart)
  station :=
    { entryType := second.station.entryType.trans first.station.entryType
      wdev := second.station.wdev.trans first.station.wdev
      aid := second.station.aid.trans first.station.aid
      apidx := second.station.apidx.trans first.station.apidx }
  counted counted := second.counted (first.counted counted)
  history := by
    obtain ⟨early, recorded, silent, balance⟩ := first.history
    obtain ⟨late, recorded', silent', balance'⟩ := second.history
    refine ⟨early ++ late, by rw [recorded', recorded, List.append_assoc], ?_, ?_⟩
    · intro other apart
      obtain ⟨noPuts, noDepartures⟩ := silent other apart
      obtain ⟨noPuts', noDepartures'⟩ := silent' other apart
      simp only [puts_append, departures_append, noPuts, noDepartures, noPuts', noDepartures',
        List.append_nil, and_self]
    · calc (pAd.psQueue wcid).entries ++ puts wcid (early ++ late)
          = ((pAd.psQueue wcid).entries ++ puts wcid early) ++ puts wcid late := by simp
        _ = departures wcid early ++ ((pAd'.psQueue wcid).entries ++ puts wcid late) := by
            rw [balance, List.append_assoc]
        _ = departures wcid (early ++ late) ++ (pAd''.psQueue wcid).entries := by
            rw [balance', departures_append, List.append_assoc]

/-- A station's entry rewritten with its queue and its names kept. -/
theorem of_entry (entry : StationEntry) (same : SameStation (pAd.content wcid) entry)
    (queue : entry.psQueue = (pAd.content wcid).psQueue)
    (content : pAd'.content = Function.update pAd.content wcid entry)
    (history : pAd'.psHistory = pAd.psHistory) : QueueStep wcid pAd pAd' where
  others other apart := by rw [content, Function.update_of_ne apart]
  station := by
    rw [content, Function.update_self]
    exact same
  counted := by
    simp only [TxAdapter.psQueue, content, Function.update_self, queue]
    exact id
  history := by
    refine ⟨[], by simp [history], fun _ _ => ⟨rfl, rfl⟩, ?_⟩
    simp only [TxAdapter.psQueue, content, Function.update_self, queue]
    exact List.append_nil _

/-- Nothing that concerns the power-save queues has changed. -/
theorem of_content (content : pAd'.content = pAd.content)
    (history : pAd'.psHistory = pAd.psHistory) : QueueStep wcid pAd pAd' :=
  of_entry (pAd.content wcid) ⟨rfl, rfl, rfl, rfl⟩ rfl
    (by rw [content, Function.update_eq_self]) history

/-- A new queue for the station, and the event that records the change. -/
theorem of_queue (q : QueueHeader) (event : PsEvent)
    (content : pAd'.content = Function.update pAd.content wcid
      { pAd.content wcid with psQueue := q })
    (history : pAd'.psHistory = pAd.psHistory ++ [event])
    (counted : (pAd.psQueue wcid).Counted → q.Counted)
    (silent : ∀ other, other ≠ wcid → puts other [event] = [] ∧ departures other [event] = [])
    (balance : (pAd.psQueue wcid).entries ++ puts wcid [event] =
      departures wcid [event] ++ q.entries) : QueueStep wcid pAd pAd' where
  others other apart := by rw [content, Function.update_of_ne apart]
  station := by
    rw [content, Function.update_self]
    exact ⟨rfl, rfl, rfl, rfl⟩
  counted := by
    simpa only [TxAdapter.psQueue, content, Function.update_self] using counted
  history := by
    refine ⟨[event], history, silent, ?_⟩
    simpa only [TxAdapter.psQueue, content, Function.update_self] using balance

end QueueStep

theorem insertPsQueue_step (pAd : TxAdapter) (wcid : Wcid) (pPacket : Packet) :
    QueueStep wcid pAd (pAd.insertPsQueue wcid pPacket) := by
  apply QueueStep.of_queue ((pAd.psQueue wcid).insertTailQueue pPacket) (.put wcid pPacket) rfl rfl
  · exact fun counted => QueueHeader.counted_insertTailQueue counted pPacket
  · intro other apart
    simp [puts, departures, apart.symm]
  · simp [puts, departures, QueueHeader.insertTailQueue]

theorem movePsQueueHead_step (pAd : TxAdapter) (wcid : Wcid) :
    QueueStep wcid pAd (pAd.movePsQueueHead wcid) := by
  unfold TxAdapter.movePsQueueHead
  split
  next => exact .of_content rfl rfl
  next pPacket rest removed =>
    apply QueueStep.of_queue rest (.toTxSwQueue wcid pPacket) rfl rfl
    · exact fun counted => QueueHeader.counted_removeHeadQueue counted removed
    · intro other apart
      simp [puts, departures, apart.symm]
    · simp [puts, departures, (QueueHeader.removeHeadQueue_eq_some.mp removed).1]

theorem freePsQueueHead_step (pAd : TxAdapter) (wcid : Wcid) :
    QueueStep wcid pAd (pAd.freePsQueueHead wcid) := by
  unfold TxAdapter.freePsQueueHead
  split
  next => exact .of_content rfl rfl
  next pPacket rest removed =>
    apply QueueStep.of_queue rest (.freed wcid pPacket) rfl rfl
    · exact fun counted => QueueHeader.counted_removeHeadQueue counted removed
    · intro other apart
      simp [puts, departures, apart.symm]
    · simp [puts, departures, (QueueHeader.removeHeadQueue_eq_some.mp removed).1]

theorem entries_movePsQueueHead (pAd : TxAdapter) (wcid : Wcid) :
    ((pAd.movePsQueueHead wcid).psQueue wcid).entries = (pAd.psQueue wcid).entries.tail := by
  unfold TxAdapter.movePsQueueHead
  split
  next empty => rw [QueueHeader.removeHeadQueue_eq_none.mp empty, List.tail_nil]
  next pPacket rest removed =>
    rw [(QueueHeader.removeHeadQueue_eq_some.mp removed).1]
    simp [TxAdapter.psQueue, TxAdapter.record, TxAdapter.insertTxSwQueue, TxAdapter.setPsQueue,
      TxAdapter.setEntry]

theorem entries_freePsQueueHead (pAd : TxAdapter) (wcid : Wcid) :
    ((pAd.freePsQueueHead wcid).psQueue wcid).entries = (pAd.psQueue wcid).entries.tail := by
  unfold TxAdapter.freePsQueueHead
  split
  next empty => rw [QueueHeader.removeHeadQueue_eq_none.mp empty, List.tail_nil]
  next pPacket rest removed =>
    rw [(QueueHeader.removeHeadQueue_eq_some.mp removed).1]
    simp [TxAdapter.psQueue, TxAdapter.record, TxAdapter.kfree, TxAdapter.setPsQueue,
      TxAdapter.setEntry]

/-- The loop ends with an empty queue when its body takes one head off a round. -/
theorem whileHead_spec (body : TxAdapter → TxAdapter) (wcid : Wcid)
    (steps : ∀ pAd, QueueStep wcid pAd (body pAd))
    (tims : ∀ pAd, (body pAd).timBitmaps = pAd.timBitmaps)
    (takes : ∀ pAd, ((body pAd).psQueue wcid).entries = (pAd.psQueue wcid).entries.tail)
    (fuel : Nat) (pAd : TxAdapter) (enough : (pAd.psQueue wcid).entries.length ≤ fuel) :
    QueueStep wcid pAd (whileHead body wcid fuel pAd) ∧
      (whileHead body wcid fuel pAd).timBitmaps = pAd.timBitmaps ∧
      ((whileHead body wcid fuel pAd).psQueue wcid).entries = [] := by
  induction fuel generalizing pAd with
  | zero => exact ⟨.of_content rfl rfl, rfl, List.length_eq_zero_iff.mp (Nat.le_zero.mp enough)⟩
  | succ fuel ih =>
    unfold whileHead
    split
    next empty => exact ⟨.of_content rfl rfl, rfl, empty⟩
    next =>
      have shorter : ((body pAd).psQueue wcid).entries.length ≤ fuel := by
        rw [takes, List.length_tail]
        omega
      obtain ⟨rest, same, drained⟩ := ih (body pAd) shorter
      exact ⟨(steps pAd).trans rest, same.trans (tims pAd), drained⟩

theorem timBitmaps_movePsQueueHead (pAd : TxAdapter) (wcid : Wcid) :
    (pAd.movePsQueueHead wcid).timBitmaps = pAd.timBitmaps := by
  unfold TxAdapter.movePsQueueHead
  split <;> rfl

theorem timBitmaps_freePsQueueHead (pAd : TxAdapter) (wcid : Wcid) :
    (pAd.freePsQueueHead wcid).timBitmaps = pAd.timBitmaps := by
  unfold TxAdapter.freePsQueueHead
  split <;> rfl

theorem moveAll_spec (pAd : TxAdapter) (wcid : Wcid) :
    QueueStep wcid pAd (moveAll pAd wcid) ∧ (moveAll pAd wcid).timBitmaps = pAd.timBitmaps ∧
      ((moveAll pAd wcid).psQueue wcid).entries = [] :=
  whileHead_spec _ wcid (movePsQueueHead_step · wcid) (timBitmaps_movePsQueueHead · wcid)
    (entries_movePsQueueHead · wcid) _ pAd (le_refl _)

theorem rtmpCleanupPsQueue_spec (pAd : TxAdapter) (wcid : Wcid) :
    QueueStep wcid pAd (rtmpCleanupPsQueue pAd wcid) ∧
      (rtmpCleanupPsQueue pAd wcid).timBitmaps = pAd.timBitmaps ∧
      ((rtmpCleanupPsQueue pAd wcid).psQueue wcid).entries = [] :=
  whileHead_spec _ wcid (freePsQueueHead_step · wcid) (timBitmaps_freePsQueueHead · wcid)
    (entries_freePsQueueHead · wcid) _ pAd (le_refl _)

end Mt7612u.Transmit
