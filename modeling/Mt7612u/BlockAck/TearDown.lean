import Mt7612u.BlockAck.TableConsistency
import Mt7612u.Mgmt.MacTable

/-! Tearing sessions down with their timers: what is left of a session when there is no memory for
the DELBA message, and of the sessions of a station that leaves the MAC table. -/

namespace Mt7612u.BlockAck
open Library.Directory Library.Run

/-- `RALINK_TIMER_STRUCT`, less its data and its period. -/
structure RaTimer where
  valid : Bool
  state : Bool
  repeats : Bool
  /-- `TimerObj` is pending in the kernel. -/
  pending : Bool
  /-- How many nodes of the timer queue name it. -/
  queued : Nat
  initialised : pending = true → valid = true

/-- `RTMPCancelTimer`. `RTMP_OS_Del_Timer` reports success for a timer that is not pending, too. -/
def rtmpCancelTimer (pTimer : RaTimer) : RaTimer :=
  if pTimer.valid then
    { valid := true
      state := true
      repeats := if pTimer.state = false then false else pTimer.repeats
      pending := false
      queued := pTimer.queued - 1
      initialised := nofun }
  else pTimer

/-- Neither pending nor, if it is a timer at all, still to be cancelled. -/
def RaTimer.Cancelled (pTimer : RaTimer) : Prop :=
  pTimer.pending = false ∧ (pTimer.valid = true → pTimer.state = true)

/-- There is nothing to cancel. -/
def RaTimer.Settled (pTimer : RaTimer) : Prop :=
  pTimer.valid = true → pTimer.state = true ∧ pTimer.pending = false ∧ pTimer.queued = 0

theorem rtmpCancelTimer_cancelled (pTimer : RaTimer) : (rtmpCancelTimer pTimer).Cancelled := by
  unfold rtmpCancelTimer RaTimer.Cancelled
  by_cases valid : pTimer.valid = true
  · rw [if_pos valid]
    exact ⟨rfl, fun _ => rfl⟩
  · rw [if_neg valid]
    exact ⟨Bool.eq_false_of_not_eq_true fun pending => valid (pTimer.initialised pending),
      fun real => absurd real valid⟩

theorem rtmpCancelTimer_eq_self (pTimer : RaTimer) :
    rtmpCancelTimer pTimer = pTimer ↔ pTimer.Settled := by
  obtain ⟨valid, state, repeats, pending, queued, initialised⟩ := pTimer
  unfold rtmpCancelTimer RaTimer.Settled
  cases valid with
  | false => simp
  | true =>
    simp only [↓reduceIte, RaTimer.mk.injEq, true_and, forall_const]
    constructor
    · rintro ⟨cancelled, -, idle, left⟩
      exact ⟨cancelled.symm, idle.symm, by omega⟩
    · rintro ⟨rfl, rfl, rfl⟩
      simp

/-- The adapter, with the timers of its sessions. -/
structure TimedAdapter where
  adapter : RtmpAdapter
  recBATimer : BaIdx → RaTimer
  oriBATimer : BaIdx → RaTimer

namespace TimedAdapter

def cancelRec (p : TimedAdapter) (idx : BaIdx) : TimedAdapter :=
  { p with recBATimer := Function.update p.recBATimer idx (rtmpCancelTimer (p.recBATimer idx)) }

def cancelOri (p : TimedAdapter) (idx : BaIdx) : TimedAdapter :=
  { p with oriBATimer := Function.update p.oriBATimer idx (rtmpCancelTimer (p.oriBATimer idx)) }

/-- `BAOriSessionTearDown` with the timer. The memory is asked for first. -/
def baOriSessionTearDown (p : TimedAdapter) (wcid : BitVec 8) (tid : Tid) (bPassive elem : Bool) :
    TimedAdapter :=
  if known : wcid.toNat < maxLenOfMacTable then
    let idx := (p.adapter.content ⟨wcid.toNat, known⟩).baOriWcidArray tid
    if idx = 0 then p
    else
      let pBAEntry := p.adapter.baOriEntry idx
      if !bPassive ∧ tid = pBAEntry.tid ∧ pBAEntry.oriBAStatus = .done ∧ !elem then p
      else { p.cancelOri idx with adapter := baTableFreeOriEntry p.adapter idx }
  else p

/-- `BARecSessionTearDown` with the timer, which is cancelled before the memory is asked for. -/
def baRecSessionTearDown (p : TimedAdapter) (wcid : BitVec 8) (tid : Tid) (bPassive elem : Bool) :
    TimedAdapter :=
  if known : wcid.toNat < maxLenOfMacTable then
    let idx := (p.adapter.content ⟨wcid.toNat, known⟩).baRecWcidArray tid
    let pBAEntry := p.adapter.baRecEntry idx
    if idx = 0 then p
    else if tid = pBAEntry.tid ∧ pBAEntry.recBAStatus = .accept then
      let p := p.cancelRec idx
      if !bPassive ∧ !elem then p
      else
        let pAd := (p.adapter.onSession idx stopRecSession).onStation ⟨wcid.toNat, known⟩
          fun station =>
            { station with
              rxBAbitmap := station.rxBAbitmap &&& ~~~tidBit pBAEntry.tid
              baRecWcidArray := Function.update station.baRecWcidArray tid 0 }
        { p with adapter := baTableFreeRecEntry pAd idx }
    else { p with adapter := baTableFreeRecEntry p.adapter idx }
  else p

/-- `BASessionTearDownALL` with the timers. -/
def baSessionTearDownALL (p : TimedAdapter) (wcid : BitVec 8) (elem : Tid → Bool × Bool) :
    TimedAdapter :=
  (List.finRange numOfTid).foldl (fun p i =>
    (p.baOriSessionTearDown wcid i false (elem i).1).baRecSessionTearDown wcid i false (elem i).2) p

/-- `MacTableDeleteEntry` with the sessions of the station. What they did is not looked at. -/
def macTableDeleteEntry (p : TimedAdapter) (t : Mgmt.MacTable) (wcid : BitVec 16)
    (pAddr : Mgmt.MacAddr) (elem : Tid → Bool × Bool) :
    TimedAdapter × Option (Bool × Mgmt.MacTable) :=
  let p :=
    if known : wcid.toNat < maxLenOfMacTable then
      if t.Valid ⟨wcid.toNat, known⟩ ∧ t.addr ⟨wcid.toNat, known⟩ = pAddr then
        p.baSessionTearDownALL (wcid.setWidth 8) elem
      else p
    else p
  (p, Mgmt.macTableDeleteEntry t wcid pAddr)

theorem baOriSessionTearDown_adapter (p : TimedAdapter) (wcid : BitVec 8) (tid : Tid)
    (bPassive elem : Bool) : (p.baOriSessionTearDown wcid tid bPassive elem).adapter =
      BlockAck.baOriSessionTearDown p.adapter wcid tid bPassive elem := by
  unfold baOriSessionTearDown BlockAck.baOriSessionTearDown
  dsimp only
  split_ifs <;> rfl

theorem baRecSessionTearDown_adapter (p : TimedAdapter) (wcid : BitVec 8) (tid : Tid)
    (bPassive elem : Bool) : (p.baRecSessionTearDown wcid tid bPassive elem).adapter =
      BlockAck.baRecSessionTearDown p.adapter wcid tid bPassive elem := by
  unfold baRecSessionTearDown BlockAck.baRecSessionTearDown
  dsimp only
  split_ifs <;> rfl

theorem baSessionTearDownALL_adapter (p : TimedAdapter) (wcid : BitVec 8)
    (elem : Tid → Bool × Bool) : (p.baSessionTearDownALL wcid elem).adapter =
      BlockAck.baSessionTearDownALL p.adapter wcid elem := by
  unfold baSessionTearDownALL BlockAck.baSessionTearDownALL
  generalize List.finRange numOfTid = tids
  induction tids generalizing p with
  | nil => rfl
  | cons tid rest ih =>
    rw [List.foldl_cons, List.foldl_cons, ih, baRecSessionTearDown_adapter,
      baOriSessionTearDown_adapter]

end TimedAdapter

/-- The session that the station `wcid` originates for `tid` is gone, with everything of it. -/
structure OriTornDown (p after : TimedAdapter) (wcid : Wcid) (tid : Tid) (idx : BaIdx) : Prop where
  oriBAStatus : (after.adapter.baOriEntry idx).oriBAStatus = .none
  baOriWcidArray : (after.adapter.content wcid).baOriWcidArray tid = 0
  txBAbitmap : (after.adapter.content wcid).txBAbitmap.getLsbD tid.val = false
  oriBATimer : (after.oriBATimer idx).Cancelled
  numAsOriginator : p.adapter.numAsOriginator = after.adapter.numAsOriginator + 1
  numDoneOriginator : p.adapter.numDoneOriginator = after.adapter.numDoneOriginator +
    if (p.adapter.baOriEntry idx).oriBAStatus = .done then 1 else 0

/-- The same for the session it receives in. -/
structure RecTornDown (p after : TimedAdapter) (wcid : Wcid) (tid : Tid) (idx : BaIdx) : Prop where
  recBAStatus : (after.adapter.baRecEntry idx).recBAStatus = .none
  baRecWcidArray : (after.adapter.content wcid).baRecWcidArray tid = 0
  rxBAbitmap : (after.adapter.content wcid).rxBAbitmap.getLsbD tid.val = false
  list : (after.adapter.baRecEntry idx).list = .empty
  recBATimer : (after.recBATimer idx).Cancelled
  numAsRecipient : p.adapter.numAsRecipient = after.adapter.numAsRecipient + 1

/-- `BAOriSessionTearDown` changes nothing or tears the session down. -/
def OriAtomic (p : TimedAdapter) (wcid : BitVec 8) (tid : Tid) (bPassive elem : Bool) : Prop :=
  p.baOriSessionTearDown wcid tid bPassive elem = p ∨
    ∃ known : wcid.toNat < maxLenOfMacTable,
      let idx := (p.adapter.content ⟨wcid.toNat, known⟩).baOriWcidArray tid
      idx ≠ 0 ∧ OriTornDown p (p.baOriSessionTearDown wcid tid bPassive elem)
        ⟨wcid.toNat, known⟩ tid idx

/-- `BARecSessionTearDown` changes nothing or tears the session down. -/
def RecAtomic (p : TimedAdapter) (wcid : BitVec 8) (tid : Tid) (bPassive elem : Bool) : Prop :=
  p.baRecSessionTearDown wcid tid bPassive elem = p ∨
    ∃ known : wcid.toNat < maxLenOfMacTable,
      let idx := (p.adapter.content ⟨wcid.toNat, known⟩).baRecWcidArray tid
      idx ≠ 0 ∧ RecTornDown p (p.baRecSessionTearDown wcid tid bPassive elem)
        ⟨wcid.toNat, known⟩ tid idx

/-- There is a session whose timer still runs, and no memory for the message about its end. -/
structure Interrupted (p : TimedAdapter) (wcid : BitVec 8) (tid : Tid) (bPassive elem : Bool) :
    Prop where
  known : wcid.toNat < maxLenOfMacTable
  session : (p.adapter.content ⟨wcid.toNat, known⟩).baRecWcidArray tid ≠ 0
  active : bPassive = false
  noMemory : elem = false
  running : ¬(p.recBATimer ((p.adapter.content ⟨wcid.toNat, known⟩).baRecWcidArray tid)).Settled

/-- An entry in use names the station. -/
def NamesStation (pAd : RtmpAdapter) (wcid : Wcid) : Prop :=
  (∃ idx, (pAd.baOriEntry idx).oriBAStatus ≠ .none ∧ (pAd.baOriEntry idx).wcid = wcid) ∨
    ∃ idx, (pAd.baRecEntry idx).recBAStatus ≠ .none ∧ (pAd.baRecEntry idx).wcid = wcid

/-- There is memory for the messages about the sessions of the station that need one. -/
def Served (pAd : RtmpAdapter) (wcid : Wcid) (elem : Tid → Bool × Bool) (tid : Tid) : Prop :=
  ((pAd.baOriEntry ((pAd.content wcid).baOriWcidArray tid)).oriBAStatus = .done →
      (elem tid).1 = true) ∧
    ((pAd.content wcid).baRecWcidArray tid ≠ 0 → (elem tid).2 = true)

/-- The station has no session for `tid`. -/
def NoSession (pAd : RtmpAdapter) (wcid : Wcid) (tid : Tid) : Prop :=
  (pAd.content wcid).baOriWcidArray tid = 0 ∧ (pAd.content wcid).baRecWcidArray tid = 0

section

variable {pAd : RtmpAdapter}

/-- What `BAOriSessionTearDown` does to the table. -/
theorem OriInvariant.oriTable_tearDown (invariant : OriInvariant pAd) {wcid : BitVec 8}
    (known : wcid.toNat < maxLenOfMacTable) (tid : Tid) (bPassive elem : Bool) {idx : BaIdx}
    (found : (oriTable pAd).slotOf (⟨wcid.toNat, known⟩, tid) = idx) :
    baOriSessionTearDown pAd wcid tid bPassive elem =
      if idx = 0 ∨ (bPassive = false ∧ (oriTable pAd).stage idx = .done ∧ elem = false) then pAd
      else baTableFreeOriEntry pAd idx := by
  have slot : (pAd.content ⟨wcid.toNat, known⟩).baOriWcidArray tid = idx := found
  unfold baOriSessionTearDown
  rw [dif_pos known, slot]
  by_cases absent : idx = 0
  · rw [if_pos (Or.inl absent), if_pos absent]
  · have held := (invariant.consistent.taken (found ▸ absent)).2
    rw [found] at held
    have owner : tid = (pAd.baOriEntry idx).tid := (congrArg Prod.snd held).symm
    have status : (pAd.baOriEntry idx).oriBAStatus = (oriTable pAd).stage idx := rfl
    rw [if_neg absent]
    dsimp only
    rw [← owner, status]
    simp only [absent, false_or, true_and, Bool.not_eq_true']

/-- What `BARecSessionTearDown` does where the station has no session. -/
theorem baRecSessionTearDown_absent {wcid : BitVec 8} {tid : Tid} {bPassive elem : Bool}
    (absent : ∀ known : wcid.toNat < maxLenOfMacTable,
      (pAd.content ⟨wcid.toNat, known⟩).baRecWcidArray tid = 0) :
    baRecSessionTearDown pAd wcid tid bPassive elem = pAd := by
  unfold baRecSessionTearDown
  by_cases known : wcid.toNat < maxLenOfMacTable
  · rw [dif_pos known]
    dsimp only
    rw [if_pos (absent known)]
  · rw [dif_neg known]

/-- What `BARecSessionTearDown` does to the table. -/
theorem RecInvariant.recTable_tearDown (invariant : RecInvariant pAd) {wcid : BitVec 8}
    (known : wcid.toNat < maxLenOfMacTable) (tid : Tid) (bPassive elem : Bool) {idx : BaIdx}
    (found : (recTable pAd).slotOf (⟨wcid.toNat, known⟩, tid) = idx) :
    recTable (baRecSessionTearDown pAd wcid tid bPassive elem) =
      if idx = 0 ∨ (bPassive = false ∧ elem = false) then recTable pAd
      else (recTable pAd).release 0 .none idx := by
  have slot : (pAd.content ⟨wcid.toNat, known⟩).baRecWcidArray tid = idx := found
  by_cases absent : idx = 0
  · rw [if_pos (Or.inl absent), baRecSessionTearDown_absent fun _ => slot.trans absent]
  · have inside := found ▸ absent
    have held := (invariant.consistent.taken inside).2
    have accepted := invariant.accepted inside
    rw [found] at held accepted
    have owner : (pAd.baRecEntry idx).tid = tid := congrArg Prod.snd held
    have status : (pAd.baRecEntry idx).recBAStatus = .accept := accepted
    unfold baRecSessionTearDown
    rw [dif_pos known]
    dsimp only
    rw [slot, if_neg absent, owner, if_pos ⟨rfl, status⟩]
    simp only [absent, false_or, Bool.not_eq_true']
    split_ifs
    · rfl
    · exact invariant.recTable_tornDown found absent

end

/-- An originator session is torn down or left as it is, whatever memory there is. -/
theorem oriAtomic {p : TimedAdapter} (invariant : AdapterInvariant p.adapter) (wcid : BitVec 8)
    (tid : Tid) (bPassive elem : Bool) : OriAtomic p wcid tid bPassive elem := by
  unfold OriAtomic TimedAdapter.baOriSessionTearDown
  by_cases known : wcid.toNat < maxLenOfMacTable
  · rw [dif_pos known]
    have slot : (p.adapter.content ⟨wcid.toNat, known⟩).baOriWcidArray tid =
        (oriTable p.adapter).slotOf (⟨wcid.toNat, known⟩, tid) := rfl
    dsimp only
    by_cases absent : (oriTable p.adapter).slotOf (⟨wcid.toNat, known⟩, tid) = 0
    · rw [if_pos (slot.trans absent)]
      exact Or.inl rfl
    · rw [if_neg (slot ▸ absent)]
      split_ifs with refused
      · exact Or.inl rfl
      · refine Or.inr ⟨known, absent, ?_⟩
        rw [slot]
        generalize found : (oriTable p.adapter).slotOf (⟨wcid.toNat, known⟩, tid) = idx at absent
        have consistent := invariant.originator.consistent
        have taken := ((consistent.agrees idx absent _).2 found).1
        have table := baTableFreeOriEntry_table invariant.originator taken
        obtain ⟨vacant, unslotted, unflagged, count⟩ := consistent.released found absent
        rw [← table] at vacant unslotted unflagged count
        have done := (invariant.originator.freeOriEntry idx).done
        have change := tally_update (oriTable p.adapter).stage
          (fun stage => decide (stage = .done)) idx .none
        rw [table] at done
        constructor
        · exact vacant
        · exact unslotted
        · exact unflagged
        · simp only [TimedAdapter.cancelOri, Function.update_self]
          exact rtmpCancelTimer_cancelled _
        · exact count
        · simp only [reduceCtorEq, decide_false, Bool.false_eq_true, ↓reduceIte, add_zero,
            decide_eq_true_eq] at change
          have status : (p.adapter.baOriEntry idx).oriBAStatus = (oriTable p.adapter).stage idx := rfl
          have left : (baTableFreeOriEntry p.adapter idx).numDoneOriginator =
            tally (Function.update (oriTable p.adapter).stage idx .none) _ := done
          dsimp only
          rw [invariant.originator.done, status, left, change]
  · rw [dif_neg known]
    exact Or.inl rfl

section

variable {p : TimedAdapter} (invariant : AdapterInvariant p.adapter) {wcid : BitVec 8}
  (known : wcid.toNat < maxLenOfMacTable) (tid : Tid) (bPassive elem : Bool) {idx : BaIdx}
  (found : (recTable p.adapter).slotOf (⟨wcid.toNat, known⟩, tid) = idx)
include invariant found

/-- What `BARecSessionTearDown` does to a session there is. -/
theorem baRecSessionTearDown_session (absent : idx ≠ 0) :
    p.baRecSessionTearDown wcid tid bPassive elem =
      if bPassive = false ∧ elem = false then p.cancelRec idx
      else { p.cancelRec idx with
        adapter := BlockAck.baRecSessionTearDown p.adapter wcid tid bPassive elem } := by
  have slot : (p.adapter.content ⟨wcid.toNat, known⟩).baRecWcidArray tid = idx := found
  have inside := found ▸ absent
  have held := (invariant.recipient.consistent.taken inside).2
  have accepted := invariant.recipient.accepted inside
  rw [found] at held accepted
  have owner : (p.adapter.baRecEntry idx).tid = tid := congrArg Prod.snd held
  have status : (p.adapter.baRecEntry idx).recBAStatus = .accept := accepted
  unfold TimedAdapter.baRecSessionTearDown BlockAck.baRecSessionTearDown
  rw [dif_pos known, dif_pos known]
  dsimp only
  rw [slot, if_neg absent, if_neg absent, owner, if_pos ⟨rfl, status⟩]
  simp only [Bool.not_eq_true']
  split_ifs with told other
  · rfl
  · rfl
  · exact absurd ⟨trivial, status⟩ other

theorem recTornDown (absent : idx ≠ 0) (told : ¬(bPassive = false ∧ elem = false)) :
    RecTornDown p (p.baRecSessionTearDown wcid tid bPassive elem) ⟨wcid.toNat, known⟩ tid idx := by
  rw [baRecSessionTearDown_session invariant known tid bPassive elem found absent, if_neg told]
  have consistent := invariant.recipient.consistent
  have table := invariant.recipient.recTable_tearDown known tid bPassive elem found
  rw [if_neg (not_or.mpr ⟨absent, told⟩)] at table
  obtain ⟨vacant, unslotted, unflagged, count⟩ := consistent.released found absent
  rw [← table] at vacant unslotted unflagged count
  have after := invariant.recipient.recSessionTearDown wcid tid bPassive elem
  have emptied : ((BlockAck.baRecSessionTearDown p.adapter wcid tid bPassive elem).baRecEntry
      idx).list.next = [] := by
    apply after.invariant.idle
    rw [vacant]
    decide
  have counted := after.invariant.counted.lists idx
  constructor
  · exact vacant
  · exact unslotted
  · exact unflagged
  · have zero : ((BlockAck.baRecSessionTearDown p.adapter wcid tid bPassive elem).baRecEntry
        idx).list.qlen = 0 := by
      rw [counted, emptied]
      rfl
    dsimp only
    generalize ((BlockAck.baRecSessionTearDown p.adapter wcid tid bPassive elem).baRecEntry
      idx).list = list at emptied zero
    obtain ⟨next, qlen⟩ := list
    obtain rfl : next = [] := emptied
    obtain rfl : qlen = 0 := zero
    rfl
  · simp only [TimedAdapter.cancelRec, Function.update_self]
    exact rtmpCancelTimer_cancelled _
  · exact count

end

/-- A recipient session is torn down or left as it is, unless its timer is cancelled in vain. -/
theorem recAtomic_iff {p : TimedAdapter} (invariant : AdapterInvariant p.adapter) (wcid : BitVec 8)
    (tid : Tid) (bPassive elem : Bool) :
    RecAtomic p wcid tid bPassive elem ↔ ¬Interrupted p wcid tid bPassive elem := by
  by_cases known : wcid.toNat < maxLenOfMacTable
  · generalize found : (recTable p.adapter).slotOf (⟨wcid.toNat, known⟩, tid) = idx
    have slot : (p.adapter.content ⟨wcid.toNat, known⟩).baRecWcidArray tid = idx := found
    by_cases absent : idx = 0
    · have unchanged : p.baRecSessionTearDown wcid tid bPassive elem = p := by
        unfold TimedAdapter.baRecSessionTearDown
        rw [dif_pos known]
        dsimp only
        rw [if_pos (slot.trans absent)]
      exact iff_of_true (Or.inl unchanged) fun interrupted =>
        interrupted.session (slot.trans absent)
    · by_cases told : bPassive = false ∧ elem = false
      · have cancelled := baRecSessionTearDown_session invariant known tid bPassive elem found absent
        rw [if_pos told] at cancelled
        constructor
        · rintro (same | ⟨_, _, torn⟩) interrupted
          · apply interrupted.running
            rw [slot, ← rtmpCancelTimer_eq_self]
            have timers := congrArg (fun p => p.recBATimer idx) (cancelled.symm.trans same)
            simpa only [TimedAdapter.cancelRec, Function.update_self] using timers
          · have accepted := invariant.recipient.accepted (found ▸ absent)
            rw [found] at accepted
            have vacant := torn.recBAStatus
            rw [cancelled, slot] at vacant
            exact absurd (vacant.symm.trans accepted) (by decide)
        · intro whole
          left
          have settled : (p.recBATimer idx).Settled := by
            by_contra running
            exact whole ⟨known, slot ▸ absent, told.1, told.2, slot ▸ running⟩
          rw [cancelled, TimedAdapter.cancelRec, (rtmpCancelTimer_eq_self _).mpr settled,
            Function.update_eq_self]
      · refine iff_of_true (Or.inr ⟨known, slot ▸ absent, ?_⟩) fun interrupted =>
          told ⟨interrupted.active, interrupted.noMemory⟩
        rw [slot]
        exact recTornDown invariant known tid bPassive elem found absent told
  · have unchanged : p.baRecSessionTearDown wcid tid bPassive elem = p := by
      unfold TimedAdapter.baRecSessionTearDown
      rw [dif_neg known]
    exact iff_of_true (Or.inl unchanged) fun interrupted => known interrupted.known

theorem noSession_iff (pAd : RtmpAdapter) (wcid : Wcid) (tid : Tid) :
    NoSession pAd wcid tid ↔
      (oriTable pAd).slotOf (wcid, tid) = 0 ∧ (recTable pAd).slotOf (wcid, tid) = 0 := Iff.rfl

theorem served_iff (pAd : RtmpAdapter) (wcid : Wcid) (elem : Tid → Bool × Bool) (tid : Tid) :
    Served pAd wcid elem tid ↔
      ((oriTable pAd).stage ((oriTable pAd).slotOf (wcid, tid)) = .done → (elem tid).1 = true) ∧
        ((recTable pAd).slotOf (wcid, tid) ≠ 0 → (elem tid).2 = true) := Iff.rfl

/-- An entry in use names the station just when the station has a session. -/
theorem namesStation_iff {pAd : RtmpAdapter} (invariant : AdapterInvariant pAd) (wcid : Wcid) :
    NamesStation pAd wcid ↔ ∃ tid, ¬NoSession pAd wcid tid := by
  have ori := invariant.originator.consistent.exists_held fun key => key.1 = wcid
  have recipient := invariant.recipient.consistent.exists_held fun key => key.1 = wcid
  constructor
  · rintro (named | named)
    · obtain ⟨⟨_, tid⟩, rfl, known⟩ := ori.mp named
      exact ⟨tid, fun free => known free.1⟩
    · obtain ⟨⟨_, tid⟩, rfl, known⟩ := recipient.mp named
      exact ⟨tid, fun free => known free.2⟩
  · rintro ⟨tid, session⟩
    rcases not_and_or.mp session with known | known
    · exact Or.inl (ori.mpr ⟨(wcid, tid), rfl, known⟩)
    · exact Or.inr (recipient.mpr ⟨(wcid, tid), rfl, known⟩)

section

variable {pAd : RtmpAdapter} (invariant : AdapterInvariant pAd) {wcid : BitVec 8}
  (known : wcid.toNat < maxLenOfMacTable) (elem : Tid → Bool × Bool) (tid : Tid)
include invariant

/-- What one round of `BASessionTearDownALL` does to the two tables. -/
theorem tearDownRound_tables {oriIdx recIdx : BaIdx}
    (oriFound : (oriTable pAd).slotOf (⟨wcid.toNat, known⟩, tid) = oriIdx)
    (recFound : (recTable pAd).slotOf (⟨wcid.toNat, known⟩, tid) = recIdx) :
    oriTable (baRecSessionTearDown (baOriSessionTearDown pAd wcid tid false (elem tid).1) wcid tid
        false (elem tid).2) =
      (if oriIdx = 0 ∨ ((oriTable pAd).stage oriIdx = .done ∧ (elem tid).1 = false) then oriTable pAd
      else (oriTable pAd).release 0 .none oriIdx) ∧
    recTable (baRecSessionTearDown (baOriSessionTearDown pAd wcid tid false (elem tid).1) wcid tid
        false (elem tid).2) =
      (if recIdx = 0 ∨ (elem tid).2 = false then recTable pAd
      else (recTable pAd).release 0 .none recIdx) := by
  have kept := baOriSessionTearDown_kept invariant wcid tid false (elem tid).1
  have same := (sameReceive_oriSessionTearDown pAd wcid tid false (elem tid).1).table
  have mid := invariant.originator.oriTable_tearDown known tid false (elem tid).1 oriFound
  have after := kept.invariant.recipient.recTable_tearDown known tid false (elem tid).2
    (same ▸ recFound)
  have transmit := (kept.invariant.recipient.recSessionTearDown wcid tid false
    (elem tid).2).transmit.table
  constructor
  · rw [transmit, mid]
    simp only [true_and]
    by_cases gate : oriIdx = 0 ∨ (oriTable pAd).stage oriIdx = .done ∧ (elem tid).1 = false
    · rw [if_pos gate, if_pos gate]
    · rw [if_neg gate, if_neg gate]
      apply baTableFreeOriEntry_table invariant.originator
      exact ((invariant.originator.consistent.agrees oriIdx (not_or.mp gate).1 _).2 oriFound).1
  · rw [after, same]
    simp only [true_and]

/-- One round of `BASessionTearDownALL` ends the sessions of its TID that it can tell the peer of. -/
theorem tearDownRound_own :
    NoSession (baRecSessionTearDown (baOriSessionTearDown pAd wcid tid false (elem tid).1) wcid tid
      false (elem tid).2) ⟨wcid.toNat, known⟩ tid ↔ Served pAd ⟨wcid.toNat, known⟩ elem tid := by
  obtain ⟨oriAfter, recAfter⟩ := tearDownRound_tables invariant known elem tid rfl rfl
  rw [noSession_iff, served_iff, oriAfter, recAfter]
  apply and_congr
  · generalize found : (oriTable pAd).slotOf (⟨wcid.toNat, known⟩, tid) = idx
    by_cases absent : idx = 0
    · rw [if_pos (Or.inl absent), found, absent, invariant.originator.consistent.reserved]
      simp
    · by_cases refused : (oriTable pAd).stage idx = .done ∧ (elem tid).1 = false
      · rw [if_pos (Or.inr refused), found]
        simp [absent, refused.1, refused.2]
      · rw [if_neg (not_or.mpr ⟨absent, refused⟩)]
        apply iff_of_true (invariant.originator.consistent.released found absent).2.1
        intro done
        exact Bool.eq_true_of_not_eq_false fun without => refused ⟨done, without⟩
  · generalize found : (recTable pAd).slotOf (⟨wcid.toNat, known⟩, tid) = idx
    by_cases absent : idx = 0
    · rw [if_pos (Or.inl absent), found, absent]
      simp
    · by_cases refused : (elem tid).2 = false
      · rw [if_pos (Or.inr refused), found]
        simp [absent, refused]
      · rw [if_neg (not_or.mpr ⟨absent, refused⟩)]
        apply iff_of_true (invariant.recipient.consistent.released found absent).2.1
        intro _
        exact Bool.eq_true_of_not_eq_false refused

/-- It leaves the sessions of the other TIDs alone. -/
theorem tearDownRound_other {other : Tid} (apart : other ≠ tid) :
    (NoSession (baRecSessionTearDown (baOriSessionTearDown pAd wcid tid false (elem tid).1) wcid tid
        false (elem tid).2) ⟨wcid.toNat, known⟩ other ↔ NoSession pAd ⟨wcid.toNat, known⟩ other) ∧
      (Served (baRecSessionTearDown (baOriSessionTearDown pAd wcid tid false (elem tid).1) wcid tid
        false (elem tid).2) ⟨wcid.toNat, known⟩ elem other ↔
        Served pAd ⟨wcid.toNat, known⟩ elem other) := by
  obtain ⟨oriAfter, recAfter⟩ := tearDownRound_tables invariant known elem tid rfl rfl
  generalize baRecSessionTearDown (baOriSessionTearDown pAd wcid tid false (elem tid).1) wcid tid
    false (elem tid).2 = after at oriAfter recAfter
  have keys : ((⟨wcid.toNat, known⟩, other) : Wcid × Tid) ≠ (⟨wcid.toNat, known⟩, tid) := by
    simpa using apart
  have ori : (oriTable after).slotOf (⟨wcid.toNat, known⟩, other) =
        (oriTable pAd).slotOf (⟨wcid.toNat, known⟩, other) ∧
      (oriTable after).stage ((oriTable pAd).slotOf (⟨wcid.toNat, known⟩, other)) =
        (oriTable pAd).stage ((oriTable pAd).slotOf (⟨wcid.toNat, known⟩, other)) := by
    rw [oriAfter]
    split_ifs with gate
    · exact ⟨rfl, rfl⟩
    · exact invariant.originator.consistent.release_other rfl (not_or.mp gate).1 keys
  have recipient : (recTable after).slotOf (⟨wcid.toNat, known⟩, other) =
      (recTable pAd).slotOf (⟨wcid.toNat, known⟩, other) := by
    rw [recAfter]
    split_ifs with gate
    · rfl
    · exact (invariant.recipient.consistent.release_other rfl (not_or.mp gate).1 keys).1
  constructor
  · rw [noSession_iff, noSession_iff, ori.1, recipient]
  · rw [served_iff, served_iff, ori.1, ori.2, recipient]

omit tid in
/-- The rounds end what they can end of their TIDs, and leave the others alone. -/
theorem tearDownRounds_noSession (tids : List Tid) (distinct : tids.Nodup) (tid : Tid) :
    NoSession (tids.foldl (fun pAd i => baRecSessionTearDown
        (baOriSessionTearDown pAd wcid i false (elem i).1) wcid i false (elem i).2) pAd)
        ⟨wcid.toNat, known⟩ tid ↔
      if tid ∈ tids then Served pAd ⟨wcid.toNat, known⟩ elem tid
      else NoSession pAd ⟨wcid.toNat, known⟩ tid := by
  induction tids generalizing pAd with
  | nil => simp
  | cons first rest ih =>
    obtain ⟨outside, distinct⟩ := List.nodup_cons.mp distinct
    have ori := baOriSessionTearDown_kept invariant wcid first false (elem first).1
    have received := baRecSessionTearDown_kept ori.invariant wcid first false (elem first).2
    rw [List.foldl_cons, ih received.invariant distinct]
    by_cases mine : tid = first
    · subst mine
      rw [if_neg outside, if_pos List.mem_cons_self]
      exact tearDownRound_own invariant known elem tid
    · obtain ⟨sessions, served⟩ := tearDownRound_other invariant known elem first mine
      simp only [List.mem_cons, mine, false_or]
      split_ifs
      · exact served
      · exact sessions

omit tid in
/-- After `BASessionTearDownALL` no entry names the station just when memory for every message that
was due could be had. -/
theorem baSessionTearDownALL_names :
    ¬NamesStation (baSessionTearDownALL pAd wcid elem) ⟨wcid.toNat, known⟩ ↔
      ∀ tid, Served pAd ⟨wcid.toNat, known⟩ elem tid := by
  rw [namesStation_iff (baSessionTearDownALL_kept invariant wcid elem).invariant]
  push Not
  apply forall_congr'
  intro tid
  have rounds := tearDownRounds_noSession invariant known elem (List.finRange numOfTid)
    (List.nodup_finRange _) tid
  rw [if_pos (List.mem_finRange tid)] at rounds
  exact rounds

end

/-- In every state that the session functions reach, with any timers: `BAOriSessionTearDown` is
atomic, `BARecSessionTearDown` is unless it cancels a timer and then gets no memory, and a deleted
station keeps no session just when every message that was due could be sent. -/
theorem run_tearDown_atomic (pAd : RtmpAdapter) (blank : pAd.Blank) (num : Nat) (mem : Bool)
    (events : List AdapterEvent) (recBATimer oriBATimer : BaIdx → RaTimer) :
    let p : TimedAdapter :=
      ⟨run adapterStep (baReorderingResourceInit pAd num mem).2 events, recBATimer, oriBATimer⟩
    (∀ wcid tid bPassive elem, OriAtomic p wcid tid bPassive elem) ∧
    (∀ wcid tid bPassive elem,
      RecAtomic p wcid tid bPassive elem ↔ ¬Interrupted p wcid tid bPassive elem) ∧
    ∀ (t : Mgmt.MacTable) (wcid : Wcid) (elem : Tid → Bool × Bool), t.Valid wcid →
      (¬NamesStation (p.macTableDeleteEntry t (BitVec.ofNat 16 wcid.val) (t.addr wcid)
        elem).1.adapter wcid ↔ ∀ tid, Served p.adapter wcid elem tid) := by
  have invariant := (run_kept (blank.invariant num mem) events).invariant
  refine ⟨oriAtomic invariant, recAtomic_iff invariant, ?_⟩
  intro t wcid elem valid
  have small : wcid.val < 2 ^ 8 := lt_trans wcid.isLt (by decide)
  have index : (BitVec.ofNat 16 wcid.val).toNat = wcid.val := by
    rw [BitVec.toNat_ofNat]
    exact Nat.mod_eq_of_lt (by omega)
  have index8 : ((BitVec.ofNat 16 wcid.val).setWidth 8).toNat = wcid.val := by
    rw [BitVec.toNat_setWidth, index]
    exact Nat.mod_eq_of_lt small
  have known : ((BitVec.ofNat 16 wcid.val).setWidth 8).toNat < maxLenOfMacTable :=
    lt_of_eq_of_lt index8 wcid.isLt
  have names := baSessionTearDownALL_names invariant known elem
  have station : (⟨((BitVec.ofNat 16 wcid.val).setWidth 8).toNat, known⟩ : Wcid) = wcid :=
    Fin.ext index8
  have inside : (BitVec.ofNat 16 wcid.val).toNat < maxLenOfMacTable :=
    lt_of_eq_of_lt index wcid.isLt
  have entry : (⟨(BitVec.ofNat 16 wcid.val).toNat, inside⟩ : Wcid) = wcid := Fin.ext index
  rw [station] at names
  rw [← names, TimedAdapter.macTableDeleteEntry]
  dsimp only
  rw [dif_pos inside, entry, if_pos ⟨valid, rfl⟩, TimedAdapter.baSessionTearDownALL_adapter]

/-- A timer as `RTMPInitTimer` leaves it. -/
def initialTimer : RaTimer := ⟨true, false, false, false, 0, nofun⟩

/-- A station has set a session up for the first TID. -/
def oneSession : List AdapterEvent := [.recSessionAdd ⟨1, by decide⟩ ⟨⟨0, by decide⟩, 64, 0⟩]

def oneSessionTimed : TimedAdapter :=
  ⟨run adapterStep (baReorderingResourceInit zeroedAdapter 4 true).2 oneSession,
    fun _ => initialTimer, fun _ => initialTimer⟩

/-- The MAC table with that station alone. -/
def oneStation : Mgmt.MacTable :=
  Mgmt.MacTable.empty.setEntry ⟨1, by decide⟩ ⟨.client, fun _ => 2, none, 0⟩

theorem run_tearDown_atomic_oneSession :
    RecAtomic oneSessionTimed 1 ⟨0, by decide⟩ false true ∧
    ¬NamesStation (oneSessionTimed.macTableDeleteEntry oneStation (BitVec.ofNat 16 1)
      (oneStation.addr ⟨1, by decide⟩) fun _ => (true, true)).1.adapter ⟨1, by decide⟩ := by
  obtain ⟨-, received, deleted⟩ := run_tearDown_atomic zeroedAdapter zeroedAdapter_blank 4 true
    oneSession (fun _ => initialTimer) (fun _ => initialTimer)
  constructor
  · apply (received 1 ⟨0, by decide⟩ false true).mpr
    intro interrupted
    exact absurd interrupted.noMemory (by decide)
  · apply (deleted oneStation ⟨1, by decide⟩ (fun _ => (true, true)) (by decide)).mpr
    exact fun tid => ⟨fun _ => rfl, fun _ => rfl⟩

/-- Without memory for the message the session stays, but its timer is cancelled. -/
theorem not_tearDown_atomic :
    ¬∀ (pAd : RtmpAdapter), pAd.Blank → ∀ (num : Nat) (mem : Bool) (events : List AdapterEvent)
      (recBATimer oriBATimer : BaIdx → RaTimer),
      let p : TimedAdapter :=
        ⟨run adapterStep (baReorderingResourceInit pAd num mem).2 events, recBATimer, oriBATimer⟩
      (∀ wcid tid bPassive elem, OriAtomic p wcid tid bPassive elem ∧
        RecAtomic p wcid tid bPassive elem) ∧
      ∀ (t : Mgmt.MacTable) (wcid : Wcid) (elem : Tid → Bool × Bool), t.Valid wcid →
        ¬NamesStation (p.macTableDeleteEntry t (BitVec.ofNat 16 wcid.val) (t.addr wcid)
          elem).1.adapter wcid := by
  intro atomic
  have invariant := (run_kept (zeroedAdapter_blank.invariant 4 true) oneSession).invariant
  have session : (oneSessionTimed.adapter.content ⟨1, by decide⟩).baRecWcidArray ⟨0, by decide⟩ ≠ 0 := by
    decide +kernel
  have both := (atomic zeroedAdapter zeroedAdapter_blank 4 true oneSession (fun _ => initialTimer)
    fun _ => initialTimer).1 1 ⟨0, by decide⟩ false false
  apply (recAtomic_iff (p := oneSessionTimed) invariant 1 ⟨0, by decide⟩ false false).mp both.2
  exact ⟨by decide, session, rfl, rfl, fun settled => absurd (settled rfl).1 (by decide)⟩

end Mt7612u.BlockAck
