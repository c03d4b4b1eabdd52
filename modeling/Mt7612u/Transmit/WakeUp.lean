import Mt7612u.Transmit.PowerSaveRun

/-! Sending to a station while it wakes. A send reads the power mode before it takes the lock
under which it inserts the packet; the wake-up changes the mode before it takes the lock under
which it moves the queue. -/

namespace Mt7612u.Transmit
open BlockAck (Packet Wcid maxLenOfMacTable)
open Mgmt (MacAddr)
open Library.Run

/-- How far a thread is in its call. -/
inductive Stage where
  | idle
  /-- `APSendPacket` has read `PsMode` and chosen a queue. -/
  | chosen (pPacket : TxPacket) (route : Route)
  /-- `APInsertPsQueue` has found room. -/
  | admitted (pPacket : TxPacket)
  /-- The packet is in the queue, the lock is released. -/
  | unmarked (wcid : Wcid)
  /-- `RtmpPsIndicate` has read `old_psmode`. -/
  | indicated (pAddr : MacAddr) (wcid : Wcid) (psm oldPsMode : PsMode)
  /-- `RtmpPsIndicate` has written the mode and calls `RtmpHandleRxPsPoll`. -/
  | waking (pAddr : MacAddr) (wcid : Wcid)

variable {Thread : Type*} [DecidableEq Thread]

structure Threads (Thread : Type*) where
  pAd : TxAdapter
  stage : Thread → Stage

inductive Act (Thread : Type*) where
  | apSendPacket (thread : Thread) (pPacket : TxPacket)
  | rtmpPsIndicate (thread : Thread) (pAddr : MacAddr) (wcid : Wcid) (psm : PsMode)
  | rtmpHandleRxPsPoll (thread : Thread) (pAddr : MacAddr) (wcid : Wcid)
  | advance (thread : Thread)

def Threads.move (s : Threads Thread) (thread : Thread) (pAd : TxAdapter) (stage : Stage) :
    Threads Thread where
  pAd := pAd
  stage := Function.update s.stage thread stage

/-- The mark after a packet has gone to a station's queue. -/
def markTim (pAd : TxAdapter) (wcid : Wcid) : TxAdapter :=
  let pMacEntry := pAd.content wcid
  pAd.setTim pMacEntry.apidx ((pAd.timBitmaps pMacEntry.apidx).timBitSet pMacEntry.aid)

/-- A thread goes on with its call; `none` when it is in none or follows a null pointer. -/
def advance (setting : TxSetting) (s : Threads Thread) (thread : Thread) :
    Option (Threads Thread) :=
  match s.stage thread with
  | .idle => none
  | .chosen pPacket .psQueue =>
      if maxPacketsInPsQueue ≤ (s.pAd.psQueue pPacket.wcid).number then
        some (s.move thread (s.pAd.kfree pPacket.pPacket) .idle)
      else some (s.move thread s.pAd (.admitted pPacket))
  | .chosen pPacket route =>
      some (s.move thread (enqueue setting s.pAd pPacket.pPacket pPacket.wcid route).1 .idle)
  | .admitted pPacket =>
      some (s.move thread (s.pAd.insertPsQueue pPacket.wcid pPacket.pPacket)
        (.unmarked pPacket.wcid))
  | .unmarked wcid => some (s.move thread (markTim s.pAd wcid) .idle)
  | .indicated pAddr wcid psm oldPsMode =>
      some (s.move thread (setPsMode s.pAd wcid psm)
        (if oldPsMode = .pwrSave ∧ psm = .pwrActive then .waking pAddr wcid else .idle))
  | .waking pAddr wcid =>
      (rtmpHandleRxPsPoll s.pAd pAddr wcid true).map (s.move thread · .idle)

/-- One step of an interleaving: an idle thread begins a call, or one goes on with its own. A
PS-Poll does all its work under the lock. -/
def threadStep (setting : TxSetting) (s : Threads Thread) : Act Thread → Option (Threads Thread)
  | .apSendPacket thread pPacket =>
      match s.stage thread with
      | .idle => (apRoute setting s.pAd pPacket).map (s.move thread s.pAd <| .chosen pPacket ·)
      | _ => none
  | .rtmpPsIndicate thread pAddr wcid psm =>
      match s.stage thread with
      | .idle => some (s.move thread s.pAd (.indicated pAddr wcid psm (s.pAd.content wcid).psMode))
      | _ => none
  | .rtmpHandleRxPsPoll thread pAddr wcid =>
      match s.stage thread with
      | .idle => (rtmpHandleRxPsPoll s.pAd pAddr wcid false).map (s.move thread · .idle)
      | _ => none
  | .advance thread => advance setting s thread

/-- The move of a station's queue is still to come. -/
def Threads.Waking (s : Threads Thread) (wcid : Wcid) : Prop :=
  ∃ thread, s.stage thread = .waking (s.pAd.content wcid).addr wcid

/-- The packets of an active station are about to be moved. -/
def Threads.Attended (s : Threads Thread) : Prop :=
  ∀ wcid, (s.pAd.content wcid).psMode = .pwrActive → (s.pAd.psQueue wcid).entries ≠ [] →
    s.Waking wcid

/-- With no call in progress, no packet waits for an active station. -/
def Threads.NoneStranded (s : Threads Thread) : Prop :=
  (∀ thread, s.stage thread = .idle) → ∀ wcid, (s.pAd.content wcid).psMode = .pwrActive →
    (s.pAd.psQueue wcid).entries = []

/-- A packet is inserted while its station sleeps or its wake-up has not moved the queue yet;
the mode that a change replaces is the one it has read, and the address is the station's. -/
def InsertsInTime (s : Threads Thread) : Act Thread → Prop
  | .advance thread =>
      match s.stage thread with
      | .admitted pPacket =>
          (s.pAd.content pPacket.wcid).psMode = .pwrSave ∨ s.Waking pPacket.wcid
      | .indicated pAddr wcid _ oldPsMode =>
          (s.pAd.content wcid).psMode = oldPsMode ∧ (s.pAd.content wcid).addr = pAddr
      | _ => True
  | _ => True

/-- No station has changed its mode or address, and none has got packets. -/
def Calmer (pAd pAd' : TxAdapter) : Prop :=
  ∀ wcid, (pAd'.content wcid).psMode = (pAd.content wcid).psMode ∧
    (pAd'.content wcid).addr = (pAd.content wcid).addr ∧
    ((pAd'.psQueue wcid).entries ≠ [] → (pAd.psQueue wcid).entries ≠ [])

namespace Calmer
variable {pAd pAd' pAd'' : TxAdapter} {wcid : Wcid}

theorem trans (first : Calmer pAd pAd') (second : Calmer pAd' pAd'') : Calmer pAd pAd'' :=
  fun wcid =>
    ⟨(second wcid).1.trans (first wcid).1, (second wcid).2.1.trans (first wcid).2.1,
      fun waiting => (first wcid).2.2 ((second wcid).2.2 waiting)⟩

theorem of_content (content : pAd'.content = pAd.content) : Calmer pAd pAd' := by
  intro wcid
  unfold TxAdapter.psQueue
  rw [content]
  exact ⟨rfl, rfl, id⟩

theorem of_entry (entry : StationEntry) (psMode : entry.psMode = (pAd.content wcid).psMode)
    (addr : entry.addr = (pAd.content wcid).addr)
    (fewer : entry.psQueue.entries ≠ [] → (pAd.psQueue wcid).entries ≠ [])
    (content : pAd'.content = Function.update pAd.content wcid entry) : Calmer pAd pAd' := by
  intro other
  unfold TxAdapter.psQueue
  rw [content]
  by_cases own : other = wcid
  · subst own
    rw [Function.update_self]
    exact ⟨psMode, addr, fewer⟩
  · rw [Function.update_of_ne own]
    exact ⟨rfl, rfl, id⟩

end Calmer

theorem movePsQueueHead_calmer (pAd : TxAdapter) (wcid : Wcid) :
    Calmer pAd (pAd.movePsQueueHead wcid) := by
  unfold TxAdapter.movePsQueueHead
  split
  next => exact .of_content rfl
  next pPacket rest removed =>
    apply Calmer.of_entry { pAd.content wcid with psQueue := rest } rfl rfl _ rfl
    rw [(QueueHeader.removeHeadQueue_eq_some.mp removed).1]
    exact fun _ => List.cons_ne_nil _ _

theorem whileHead_calmer {body : TxAdapter → TxAdapter} (calms : ∀ pAd, Calmer pAd (body pAd))
    (wcid : Wcid) (fuel : Nat) (pAd : TxAdapter) : Calmer pAd (whileHead body wcid fuel pAd) := by
  induction fuel generalizing pAd with
  | zero => exact .of_content rfl
  | succ fuel ih =>
    unfold whileHead
    split
    next => exact .of_content rfl
    next => exact (calms pAd).trans (ih (body pAd))

theorem answerPoll_calmer (pAd : TxAdapter) (wcid : Wcid) : Calmer pAd (answerPoll pAd wcid) := by
  unfold answerPoll
  split
  next pPacket rest removed =>
    simp only
    split
    next => exact (movePsQueueHead_calmer pAd wcid).trans (.of_content rfl)
    next => exact movePsQueueHead_calmer pAd wcid
  next => exact .of_content rfl

theorem clearWhenEmpty_calmer {pAd pAd' : TxAdapter} {wcid : Wcid}
    (cleared : clearWhenEmpty pAd wcid = some pAd') : Calmer pAd pAd' := by
  unfold clearWhenEmpty at cleared
  simp only at cleared
  split at cleared
  next =>
    obtain ⟨wdev, -, rfl⟩ := Option.map_eq_some_iff.mp cleared
    split
    next => exact .of_entry { pAd.content wcid with psQIdleCount := 0 } rfl rfl id rfl
    next => exact .of_entry { pAd.content wcid with psQIdleCount := 0 } rfl rfl id rfl
  next =>
    obtain rfl := Option.some.inj cleared
    exact .of_content rfl

theorem rtmpHandleRxPsPoll_calmer {pAd pAd' : TxAdapter} {pAddr : MacAddr} {wcid : Wcid}
    {isActive : Bool} (handled : rtmpHandleRxPsPoll pAd pAddr wcid isActive = some pAd') :
    Calmer pAd pAd' := by
  unfold rtmpHandleRxPsPoll at handled
  split at handled
  next =>
    cases isActive with
    | true =>
      exact (whileHead_calmer (movePsQueueHead_calmer · wcid) wcid _ pAd).trans
        (clearWhenEmpty_calmer handled)
    | false => exact (answerPoll_calmer pAd wcid).trans (clearWhenEmpty_calmer handled)
  next =>
    obtain rfl := Option.some.inj handled
    exact .of_content rfl

/-- The wake-up of a station leaves its queue empty. -/
theorem rtmpHandleRxPsPoll_empties {pAd pAd' : TxAdapter} {wcid : Wcid}
    (handled : rtmpHandleRxPsPoll pAd (pAd.content wcid).addr wcid true = some pAd') :
    (pAd'.psQueue wcid).entries = [] := by
  unfold rtmpHandleRxPsPoll at handled
  rw [if_pos rfl] at handled
  by_contra waiting
  exact (clearWhenEmpty_calmer handled wcid).2.2 waiting (moveAll_spec pAd wcid).2.2

namespace Threads
variable {s : Threads Thread} {thread : Thread} {pAd' : TxAdapter} {stage' : Stage} {wcid : Wcid}

/-- Another thread that is about to move a queue still is after this one has moved on. -/
theorem Waking.move (waking : s.Waking wcid)
    (own : s.stage thread ≠ .waking (s.pAd.content wcid).addr wcid)
    (addr : (pAd'.content wcid).addr = (s.pAd.content wcid).addr) :
    (s.move thread pAd' stage').Waking wcid := by
  obtain ⟨mover, stage⟩ := waking
  refine ⟨mover, ?_⟩
  have apart : mover ≠ thread := by
    rintro rfl
    exact own stage
  simp only [Threads.move, Function.update_of_ne apart]
  rw [stage, addr]

theorem Attended.calmer (attended : s.Attended) (calmer : Calmer s.pAd pAd')
    (own : ∀ pAddr wcid, s.stage thread ≠ .waking pAddr wcid) :
    (s.move thread pAd' stage').Attended := by
  intro wcid awake waiting
  obtain ⟨psMode, addr, fewer⟩ := calmer wcid
  exact (attended wcid (psMode.symm.trans awake) (fewer waiting)).move (own _ _) addr

end Threads

/-- An insertion in time leaves the packet to the wake-up that is to come. -/
theorem insert_attended {s : Threads Thread} {thread : Thread} {pPacket : TxPacket}
    (attended : s.Attended) (stage : s.stage thread = .admitted pPacket)
    (intime : (s.pAd.content pPacket.wcid).psMode = .pwrSave ∨ s.Waking pPacket.wcid) :
    (s.move thread (s.pAd.insertPsQueue pPacket.wcid pPacket.pPacket)
      (.unmarked pPacket.wcid)).Attended := by
  have other : ∀ pAddr wcid, s.stage thread ≠ .waking pAddr wcid := by simp [stage]
  intro wcid awake waiting
  by_cases here : wcid = pPacket.wcid
  · subst here
    have entry : (s.pAd.insertPsQueue pPacket.wcid pPacket.pPacket).content pPacket.wcid =
        { s.pAd.content pPacket.wcid with
          psQueue := (s.pAd.psQueue pPacket.wcid).insertTailQueue pPacket.pPacket } :=
      Function.update_self ..
    simp only [Threads.move, entry] at awake
    rcases intime with asleep | waking
    · rw [asleep] at awake
      cases awake
    · apply waking.move (other _ _)
      rw [entry]
  · have same := (insertPsQueue_step s.pAd pPacket.wcid pPacket.pPacket).others wcid here
    simp only [Threads.move, TxAdapter.psQueue, same] at awake waiting
    apply (attended wcid awake waiting).move (other _ _)
    rw [same]

/-- A change of mode either puts the station to sleep, or wakes it and announces the move. -/
theorem indicate_attended {s : Threads Thread} {thread : Thread} {pAddr : MacAddr} {wcid : Wcid}
    {psm oldPsMode : PsMode} (attended : s.Attended)
    (stage : s.stage thread = .indicated pAddr wcid psm oldPsMode)
    (current : (s.pAd.content wcid).psMode = oldPsMode)
    (addressed : (s.pAd.content wcid).addr = pAddr) :
    (s.move thread (setPsMode s.pAd wcid psm)
      (if oldPsMode = .pwrSave ∧ psm = .pwrActive then .waking pAddr wcid else .idle)).Attended := by
  have other : ∀ pAddr wcid, s.stage thread ≠ .waking pAddr wcid := by simp [stage]
  intro station awake waiting
  by_cases here : station = wcid
  · subst here
    have entry : (setPsMode s.pAd station psm).content station =
        { s.pAd.content station with psMode := psm } := Function.update_self ..
    simp only [Threads.move, TxAdapter.psQueue, entry] at awake waiting
    subst psm
    cases asleep : oldPsMode with
    | pwrSave =>
      refine ⟨thread, ?_⟩
      simp [Threads.move, entry, addressed]
    | pwrActive =>
      apply (attended station (current.trans asleep) waiting).move (other _ _)
      rw [entry]
  · have same : (setPsMode s.pAd wcid psm).content station = s.pAd.content station :=
      Function.update_of_ne here ..
    simp only [Threads.move, TxAdapter.psQueue, same] at awake waiting
    apply (attended station awake waiting).move (other _ _)
    rw [same]

theorem wake_attended {s : Threads Thread} {thread : Thread} {pAddr : MacAddr} {wcid : Wcid}
    {pAd' : TxAdapter} (attended : s.Attended) (stage : s.stage thread = .waking pAddr wcid)
    (handled : rtmpHandleRxPsPoll s.pAd pAddr wcid true = some pAd') :
    (s.move thread pAd' .idle).Attended := by
  have calmer := rtmpHandleRxPsPoll_calmer handled
  intro station awake waiting
  obtain ⟨psMode, addr, fewer⟩ := calmer station
  apply (attended station (psMode.symm.trans awake) (fewer waiting)).move _ addr
  rw [stage]
  rintro ⟨⟩
  exact waiting (rtmpHandleRxPsPoll_empties handled)

theorem threadStep_attended (setting : TxSetting) (s : Threads Thread) (act : Act Thread)
    (s' : Threads Thread) (attended : s.Attended) (intime : InsertsInTime s act)
    (stepped : threadStep setting s act = some s') : s'.Attended := by
  cases act with
  | apSendPacket thread pPacket =>
    simp only [threadStep] at stepped
    split at stepped
    next stage =>
      obtain ⟨route, -, rfl⟩ := Option.map_eq_some_iff.mp stepped
      exact attended.calmer (.of_content rfl) (by simp [stage])
    next => cases stepped
  | rtmpPsIndicate thread pAddr wcid psm =>
    simp only [threadStep] at stepped
    split at stepped
    next stage =>
      obtain rfl := Option.some.inj stepped
      exact attended.calmer (.of_content rfl) (by simp [stage])
    next => cases stepped
  | rtmpHandleRxPsPoll thread pAddr wcid =>
    simp only [threadStep] at stepped
    split at stepped
    next stage =>
      obtain ⟨pAd', handled, rfl⟩ := Option.map_eq_some_iff.mp stepped
      exact attended.calmer (rtmpHandleRxPsPoll_calmer handled) (by simp [stage])
    next => cases stepped
  | advance thread =>
    simp only [InsertsInTime] at intime
    simp only [threadStep, advance] at stepped
    split at stepped
    case h_1 => cases stepped
    case h_2 pPacket stage =>
      split at stepped
      all_goals
        obtain rfl := Option.some.inj stepped
        exact attended.calmer (.of_content rfl) (by simp [stage])
    case h_3 pPacket route direct stage =>
      obtain rfl := Option.some.inj stepped
      apply attended.calmer _ (by simp [stage])
      cases route with
      | drop => exact .of_content rfl
      | txSwQueue queIdx =>
        simp only [enqueue]
        split <;> exact .of_content rfl
      | mcastPsQueue apidx =>
        simp only [enqueue]
        split <;> exact .of_content rfl
      | psQueue => exact absurd rfl (direct)
    case h_4 pPacket stage =>
      obtain rfl := Option.some.inj stepped
      rw [stage] at intime
      exact insert_attended attended stage intime
    case h_5 wcid stage =>
      obtain rfl := Option.some.inj stepped
      exact attended.calmer (.of_content rfl) (by simp [stage])
    case h_6 pAddr wcid psm oldPsMode stage =>
      obtain rfl := Option.some.inj stepped
      rw [stage] at intime
      exact indicate_attended attended stage intime.1 intime.2
    case h_7 pAddr wcid stage =>
      obtain ⟨pAd', handled, rfl⟩ := Option.map_eq_some_iff.mp stepped
      exact wake_attended attended stage handled

omit [DecidableEq Thread] in
theorem Threads.Attended.noneStranded {s : Threads Thread} (attended : s.Attended) :
    s.NoneStranded := by
  intro quiet wcid awake
  by_contra waiting
  obtain ⟨thread, stage⟩ := attended wcid awake waiting
  rw [quiet thread] at stage
  cases stage

/-- In every interleaving whose insertions come while the station sleeps or before its wake-up
moves the queue, an active station has an empty queue whenever no call is in progress. -/
theorem wakeUp_strands_none (setting : TxSetting) (s s' : Threads Thread)
    (start : ∀ wcid, (s.pAd.content wcid).psMode = .pwrActive →
      (s.pAd.psQueue wcid).entries = [])
    (acts : List (Act Thread)) (along : ThroughoutOption (threadStep setting) InsertsInTime s acts)
    (ends : runOption (threadStep setting) s acts = some s') : s'.NoneStranded := by
  have attended : s.Attended := fun wcid awake waiting => absurd (start wcid awake) waiting
  exact (runOption_invariant Threads.Attended (threadStep_attended setting) attended acts along
    ends).noneStranded

/-- The sending thread is `true`, the receiving one `false`. -/
def sleeperThreads : Threads Bool := ⟨oneSleeper, fun _ => .idle⟩

theorem sleeperThreads_start (wcid : Wcid) :
    (sleeperThreads.pAd.content wcid).psMode = .pwrActive →
      (sleeperThreads.pAd.psQueue wcid).entries = [] :=
  fun _ => congrArg QueueHeader.entries (oneSleeper_start.idle wcid)

/-- The packet is in the queue when the station wakes. -/
def insertThenWake : List (Act Bool) :=
  [.apSendPacket true arpPacket, .advance true, .advance true,
    .rtmpPsIndicate false (fun _ => 0x02) bssidWcid .pwrActive, .advance false, .advance false,
    .advance true]

theorem wakeUp_strands_none_before :
    ∃ s', runOption (threadStep plainSetting) sleeperThreads insertThenWake = some s' ∧
      s'.NoneStranded := by
  refine ⟨_, rfl, wakeUp_strands_none plainSetting sleeperThreads _ sleeperThreads_start
    insertThenWake ?_ rfl⟩
  refine ⟨trivial, fun _ sent => ?_⟩
  obtain rfl := Option.some.inj sent
  refine ⟨trivial, fun _ admitted => ?_⟩
  obtain rfl := Option.some.inj admitted
  refine ⟨Or.inl rfl, fun _ inserted => ?_⟩
  obtain rfl := Option.some.inj inserted
  refine ⟨trivial, fun _ indicated => ?_⟩
  obtain rfl := Option.some.inj indicated
  refine ⟨⟨rfl, rfl⟩, fun _ woken => ?_⟩
  obtain rfl := Option.some.inj woken
  refine ⟨trivial, fun _ moved => ?_⟩
  obtain rfl := Option.some.inj moved
  exact ⟨trivial, fun _ _ => trivial⟩

/-- A packet inserted after the move waits for an active station. -/
theorem lateInsertion_strands :
    ∃ s', runOption (threadStep plainSetting) sleeperThreads
        [.apSendPacket true arpPacket,
          .rtmpPsIndicate false (fun _ => 0x02) bssidWcid .pwrActive, .advance false,
          .advance false, .advance true, .advance true, .advance true] = some s' ∧
      (∀ thread, s'.stage thread = .idle) ∧ (s'.pAd.content bssidWcid).psMode = .pwrActive ∧
      (s'.pAd.psQueue bssidWcid).entries = [7] := by
  refine ⟨_, rfl, ?_, rfl, rfl⟩
  intro thread
  cases thread <;> rfl

end Mt7612u.Transmit
