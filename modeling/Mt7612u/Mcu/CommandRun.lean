import Mt7612u.Mcu.Command

/-! A message belongs to the thread that sends it, to the queue it is in or to the USB core, and each
step hands it on. It is freed where it leaves the last of them. -/

namespace Mt7612u.Mcu
open Library.Ownership Library.Run

/-- Where a message is between clean steps. -/
inductive Place where
  | unborn
  | queued
  /-- Out of `txq`, and in the hands of the sender. -/
  | taken
  | kicked
  | flying
  | acked
  | answered
  | done
  | dropped
  | freed
  deriving DecidableEq

/-- The message was kicked out or dropped, and its sender waits for the response. -/
@[simp] def Place.held : Place → Bool
  | .flying | .acked | .answered | .done | .dropped => true
  | _ => false

/-- The message was not kicked out yet. -/
@[simp] def Place.pending : Place → Bool
  | .queued | .taken => true
  | _ => false

/-- The message that the thread that sends is to free. -/
def Sender.owner : Sender → Option Nat
  | .kicking m true => some m
  | .waiting m => some m
  | _ => Option.none

theorem Sender.owner_eq_some {sender : Sender} {m : Nat} :
    sender.owner = some m ↔ sender = .waiting m ∨ sender = .kicking m true := by
  rcases sender with _ | ⟨m', _ | _⟩ | m' <;> simp [owner]

/-- The fields of a message agree with its place. -/
@[simp] def CmdMsg.Fits (msg : CmdMsg) : Place → Prop
  | .unborn | .freed => msg.submitted = false
  | .queued | .taken => msg.submitted = false ∧ msg.ackDone = false
  | .kicked => msg.submitted = true ∧ msg.needRsp = false
  | .flying => msg.submitted = true ∧ msg.needRsp = true ∧ msg.ackDone = false ∧
      msg.state = .waitCmdOutAndAck
  | .acked => msg.submitted = false ∧ msg.needRsp = true ∧ msg.ackDone = false ∧
      msg.state = .waitAck
  | .answered => msg.submitted = true ∧ msg.needRsp = true ∧ msg.ackDone = true
  | .done => msg.submitted = false ∧ msg.needRsp = true ∧ msg.ackDone = true
  | .dropped => msg.submitted = false ∧ msg.needRsp = true ∧ msg.ackDone = false

theorem safe_concat {log : List Touch} {e : Touch} (safe : Safe Touch.about Touch.free log)
    (alive : Touch.free e.about ∉ log) : Safe Touch.about Touch.free (log ++ [e]) := by
  apply List.pairwise_append.mpr
  refine ⟨safe, List.pairwise_singleton _ _, ?_⟩
  rintro earlier inside later last resource rfl same
  rw [List.mem_singleton.mp last] at same
  exact alive (same ▸ inside)

namespace McuCtrl

/-- The queues, the sender, the message and the log agree on where the message is. -/
structure At (ctl : McuCtrl) (m : Nat) (place : Place) : Prop where
  txq : ctl.txq.count m = if place = .queued then 1 else 0
  kickq : ctl.kickq.count m = if place = .kicked then 1 else 0
  ackq : ctl.ackq.count m = if place = .flying ∨ place = .acked then 1 else 0
  freed : ctl.log.count (.free m) = if place = .freed then 1 else 0
  sent : ctl.sent ≤ m ↔ place = .unborn
  owner : ctl.sender.owner = some m ↔
    place.held = true ∨ place.pending = true ∧ (ctl.msg m).needRsp = true
  pending : place.pending = true → ctl.sender = .kicking m (ctl.msg m).needRsp
  msg : (ctl.msg m).Fits place

structure Fit (ctl : McuCtrl) (places : Nat → Place) : Prop where
  all : ∀ m, ctl.At m (places m)
  safe : Safe Touch.about Touch.free ctl.log
  init : ctl.mcuInit = true ∨ ctl.kickq = [] ∧ ctl.ackq = []

/-- Between two steps no message is in the hands of the sender. -/
def Sound (ctl : McuCtrl) : Prop :=
  ∃ places, ctl.Fit places ∧ ∀ m, places m ≠ .taken

/-- A step is not about the message. -/
structure Same (ctl ctl' : McuCtrl) (m : Nat) : Prop where
  txq : ctl'.txq.count m = ctl.txq.count m
  kickq : ctl'.kickq.count m = ctl.kickq.count m
  ackq : ctl'.ackq.count m = ctl.ackq.count m
  log : ctl'.log.count (.free m) = ctl.log.count (.free m)
  sent : ctl'.sent ≤ m ↔ ctl.sent ≤ m
  owner : ctl'.sender.owner = some m ↔ ctl.sender.owner = some m
  kicking : ∀ needWait, ctl.sender = .kicking m needWait → ctl'.sender = .kicking m needWait
  msg : ctl'.msg m = ctl.msg m

variable {ctl ctl' : McuCtrl} {m : Nat} {place : Place} {places : Nat → Place}

theorem At.same (here : ctl.At m place) (same : Same ctl ctl' m) : ctl'.At m place where
  txq := same.txq.trans here.txq
  kickq := same.kickq.trans here.kickq
  ackq := same.ackq.trans here.ackq
  freed := same.log.trans here.freed
  sent := same.sent.trans here.sent
  owner := by
    rw [same.owner, same.msg]
    exact here.owner
  pending := by
    intro pending
    rw [same.msg]
    exact same.kicking _ (here.pending pending)
  msg := by
    rw [same.msg]
    exact here.msg

/-- A step moves one message. -/
theorem Fit.move (fit : ctl.Fit places) (here : ctl'.At m place)
    (others : ∀ i, i ≠ m → Same ctl ctl' i) (safe : Safe Touch.about Touch.free ctl'.log)
    (init : ctl'.mcuInit = true ∨ ctl'.kickq = [] ∧ ctl'.ackq = []) :
    ctl'.Fit (Function.update places m place) where
  all := by
    intro i
    by_cases mine : i = m
    · subst mine
      rw [Function.update_self]
      exact here
    · rw [Function.update_of_ne mine]
      exact (fit.all i).same (others i mine)
  safe := safe
  init := init

theorem Fit.sound (fit : ctl.Fit (Function.update places m place)) (settles : place ≠ .taken)
    (settled : ∀ i, i ≠ m → places i ≠ .taken) : ctl.Sound := by
  refine ⟨_, fit, fun i => ?_⟩
  by_cases mine : i = m
  · subst mine
    rwa [Function.update_self]
  · rw [Function.update_of_ne mine]
    exact settled i mine

theorem Same.refl (ctl : McuCtrl) (m : Nat) : Same ctl ctl m :=
  ⟨rfl, rfl, rfl, rfl, Iff.rfl, Iff.rfl, fun _ => id, rfl⟩

theorem At.alive (here : ctl.At m place) (alive : place ≠ .freed) : .free m ∉ ctl.log := by
  apply List.count_eq_zero.mp
  rw [here.freed, if_neg alive]

theorem Fit.use (fit : ctl.Fit places) (alive : places m ≠ .freed) : (ctl.use m).Fit places where
  all := by
    intro i
    apply (fit.all i).same
    constructor <;> simp [McuCtrl.use]
  safe := safe_concat fit.safe ((fit.all m).alive alive)
  init := fit.init

theorem Fit.uses (fit : ctl.Fit places) (ms : List Nat) (alive : ∀ m ∈ ms, places m ≠ .freed) :
    ({ ctl with log := ctl.log ++ ms.map .use } : McuCtrl).Fit places := by
  induction ms generalizing ctl with
  | nil => simpa using fit
  | cons m ms ih =>
    have next := ih (fit.use (alive m List.mem_cons_self)) fun i later =>
      alive i (List.mem_cons_of_mem m later)
    simpa [McuCtrl.use] using next

theorem Fit.txq_mem (fit : ctl.Fit places) : m ∈ ctl.txq ↔ places m = .queued := by
  rw [← List.count_pos_iff, (fit.all m).txq]
  split_ifs with here <;> simp [here]

theorem Fit.kickq_mem (fit : ctl.Fit places) : m ∈ ctl.kickq ↔ places m = .kicked := by
  rw [← List.count_pos_iff, (fit.all m).kickq]
  split_ifs with here <;> simp [here]

theorem Fit.ackq_mem (fit : ctl.Fit places) :
    m ∈ ctl.ackq ↔ places m = .flying ∨ places m = .acked := by
  rw [← List.count_pos_iff, (fit.all m).ackq]
  split_ifs with here <;> simp [here]

/-- A message waits for its response only while `MCU_INIT` is set. -/
theorem Fit.initialised (fit : ctl.Fit places) (here : places m = .flying ∨ places m = .acked) :
    ctl.mcuInit = true := by
  rcases fit.init with set | ⟨-, empty⟩
  · exact set
  · exact absurd (empty ▸ fit.ackq_mem.mpr here) List.not_mem_nil

theorem Fit.sendCmdMsg (fit : ctl.Fit places) (settled : ∀ m, places m ≠ .taken)
    (rests : ctl.sender = .none) (needRsp gone : Bool) :
    (ctl.sendCmdMsg needRsp gone).Sound := by
  have fresh := fit.all ctl.sent
  rw [fresh.sent.mp le_rfl] at fresh
  have unowned : ∀ i, i ≠ ctl.sent → (ctl.sent + 1 ≤ i ↔ ctl.sent ≤ i) := by
    intro i other
    omega
  unfold McuCtrl.sendCmdMsg
  cases gone with
  | true =>
    have freed : (({ ctl.setMsg ctl.sent ⟨needRsp, .txStart, 0, false,
        if needRsp then cmdMsgRetransmitTimes else 0, false⟩ with
        sent := ctl.sent + 1 } : McuCtrl).freeCmdMsg ctl.sent).Fit
        (Function.update places ctl.sent .freed) := by
      apply fit.move
      · constructor <;> simp [McuCtrl.freeCmdMsg, setMsg, fresh.txq, fresh.kickq, fresh.ackq,
          fresh.freed, rests, Sender.owner]
      · intro i other
        constructor <;> simp [McuCtrl.freeCmdMsg, setMsg, other, other.symm, unowned]
      · exact safe_concat fit.safe (fresh.alive (by decide))
      · exact fit.init
    exact freed.sound (by decide) fun i _ => settled i
  | false =>
    have queued : ({ (({ ctl.setMsg ctl.sent ⟨needRsp, .txStart, 0, false,
        if needRsp then cmdMsgRetransmitTimes else 0, false⟩ with
        sent := ctl.sent + 1 } : McuCtrl).use ctl.sent) with
        txq := ctl.txq ++ [ctl.sent], sender := .kicking ctl.sent needRsp } : McuCtrl).Fit
        (Function.update places ctl.sent .queued) := by
      apply fit.move
      · constructor <;> simp [McuCtrl.use, setMsg, fresh.txq, fresh.kickq, fresh.ackq, fresh.freed]
        cases needRsp <;> simp [Sender.owner]
      · intro i other
        constructor <;> simp [McuCtrl.use, setMsg, other, other.symm, unowned, rests]
        cases needRsp <;> simp [Sender.owner, other.symm]
      · exact safe_concat fit.safe (fresh.alive (by decide))
      · exact fit.init
    exact queued.sound (by decide) fun i _ => settled i

/-- The message that is taken out of `txq` is the sender's. -/
theorem Fit.first {first : Nat} {rest : List Nat} {needWait : Bool} (fit : ctl.Fit places)
    (kicks : ctl.sender = .kicking m needWait) (queue : ctl.txq = first :: rest) :
    first = m ∧ places m = .queued ∧ needWait = (ctl.msg m).needRsp := by
  have queued : places first = .queued := fit.txq_mem.mp (queue ▸ List.mem_cons_self)
  have theirs := (fit.all first).pending (by rw [queued]; rfl)
  rw [kicks] at theirs
  injection theirs with same wait
  subst same
  exact ⟨rfl, queued, wait⟩

theorem Fit.leave (fit : ctl.Fit places) {needWait : Bool}
    (kicks : ctl.sender = .kicking m needWait) (gone : (places m).pending = false) :
    (ctl.leave m needWait).Fit places where
  all := by
    intro i
    have here := fit.all i
    by_cases mine : i = m
    · subst mine
      constructor
      · exact here.txq
      · exact here.kickq
      · exact here.ackq
      · exact here.freed
      · exact here.sent
      · have owner := here.owner
        rw [kicks] at owner
        cases needWait <;> exact owner
      · intro pending
        exact absurd (gone.symm.trans pending) Bool.false_ne_true
      · exact here.msg
    · apply here.same
      constructor <;> simp [McuCtrl.leave, kicks, Ne.symm mine]
      cases needWait <;> rfl
  safe := fit.safe
  init := fit.init

theorem Fit.dequeue {first : Nat} {rest : List Nat} (fit : ctl.Fit places)
    (queue : ctl.txq = first :: rest) :
    (({ ctl with txq := rest } : McuCtrl).use first).Fit (Function.update places first .taken) := by
  have here := fit.all first
  rw [fit.txq_mem.mp (queue ▸ List.mem_cons_self)] at here
  have last := here.txq
  rw [queue, List.count_cons_self] at last
  apply fit.move
  · constructor <;> simp [McuCtrl.use, here.kickq, here.ackq, here.freed, here.sent, here.owner]
    · exact Nat.succ_injective last
    · exact here.pending rfl
    · exact here.msg
  · intro i other
    constructor <;> simp [McuCtrl.use, queue, other.symm]
  · exact safe_concat fit.safe (here.alive (by decide))
  · exact fit.init

section taken

variable (fit : ctl.Fit places) (here : places m = .taken)
include fit here

theorem Fit.requeue : ({ ctl with txq := m :: ctl.txq } : McuCtrl).Fit
    (Function.update places m .queued) := by
  have taken := fit.all m
  rw [here] at taken
  apply fit.move
  · constructor <;> simp [taken.txq, taken.kickq, taken.ackq, taken.freed, taken.sent, taken.owner]
    · exact taken.pending rfl
    · exact taken.msg
  · intro i other
    constructor <;> simp [other.symm]
  · exact fit.safe
  · exact fit.init

theorem Fit.drop (waits : (ctl.msg m).needRsp = true) :
    ctl.Fit (Function.update places m .dropped) := by
  have taken := fit.all m
  rw [here] at taken
  apply fit.move
  · constructor <;> simp [taken.txq, taken.kickq, taken.ackq, taken.freed, taken.sent, taken.owner,
      waits, taken.msg.1, taken.msg.2]
  · exact fun i _ => Same.refl ctl i
  · exact fit.safe
  · exact fit.init

theorem Fit.freeTaken (waits : (ctl.msg m).needRsp = false) :
    (ctl.freeCmdMsg m).Fit (Function.update places m .freed) := by
  have taken := fit.all m
  rw [here] at taken
  apply fit.move
  · constructor <;> simp [McuCtrl.freeCmdMsg, taken.txq, taken.kickq, taken.ackq, taken.freed,
      taken.sent, taken.owner, waits]
    exact taken.msg.1
  · intro i other
    constructor <;> simp [McuCtrl.freeCmdMsg, other.symm]
  · exact safe_concat fit.safe (taken.alive (by decide))
  · exact fit.init

theorem Fit.setSeq (seq cmdSeq : Nat) :
    ({ ctl.setMsg m { ctl.msg m with seq := seq } with cmdSeq := cmdSeq } : McuCtrl).Fit places := by
  have taken := fit.all m
  have moved : ({ ctl.setMsg m { ctl.msg m with seq := seq } with cmdSeq := cmdSeq } : McuCtrl).Fit
      (Function.update places m .taken) := by
    rw [here] at taken
    apply fit.move
    · constructor <;> simp [setMsg, taken.txq, taken.kickq, taken.ackq, taken.freed, taken.sent,
        taken.owner]
      · exact taken.pending rfl
      · exact taken.msg
    · intro i other
      constructor <;> simp [setMsg, other]
    · exact fit.safe
    · exact fit.init
  rwa [← here, Function.update_eq_self] at moved

theorem Fit.usbKickOutCmdMsg (mcuInit : ctl.mcuInit = true) (submits : Bool) :
    ∃ place : Place, place.pending = false ∧
      (ctl.usbKickOutCmdMsg m submits).2.Fit (Function.update places m place) := by
  have taken := fit.all m
  rw [here] at taken
  have ready := taken.msg
  have alive := taken.alive (by decide)
  have log := safe_concat (e := .use m) fit.safe alive
  unfold McuCtrl.usbKickOutCmdMsg McuCtrl.kickOutFail
  cases waits : (ctl.msg m).needRsp with
  | false =>
    cases submits with
    | true =>
      refine ⟨.kicked, rfl, ?_⟩
      simp only [McuCtrl.use, setMsg, waits, mcuInit, Bool.false_eq_true, ↓reduceIte, Bool.not_true]
      apply fit.move
      · constructor <;> simp [taken.txq, taken.kickq, taken.ackq, taken.freed, taken.sent,
          taken.owner, waits]
      · intro i other
        constructor <;> simp [other, other.symm]
      · exact log
      · exact Or.inl rfl
    | false =>
      refine ⟨.freed, rfl, ?_⟩
      simp only [McuCtrl.use, setMsg, waits, mcuInit, Bool.false_eq_true, ↓reduceIte, Bool.not_true,
        McuCtrl.freeCmdMsg, Function.update_self]
      apply fit.move
      · constructor <;> simp [taken.txq, taken.kickq, taken.ackq, taken.freed, taken.sent,
          taken.owner, waits, ready.1]
      · intro i other
        constructor <;> simp [other, other.symm]
      · apply safe_concat log
        simp [Touch.about, alive]
      · exact Or.inl rfl
  | true =>
    cases submits with
    | true =>
      refine ⟨.flying, rfl, ?_⟩
      simp only [McuCtrl.use, setMsg, waits, mcuInit, Bool.false_eq_true, ↓reduceIte, Bool.not_true]
      apply fit.move
      · constructor <;> simp [taken.txq, taken.kickq, taken.ackq, taken.freed, taken.sent,
          taken.owner, waits, ready.2]
      · intro i other
        constructor <;> simp [other, other.symm]
      · exact log
      · exact Or.inl rfl
    | false =>
      refine ⟨.done, rfl, ?_⟩
      simp only [McuCtrl.use, setMsg, waits, mcuInit, Bool.false_eq_true, ↓reduceIte, Bool.not_true,
        Function.update_self]
      apply fit.move
      · constructor <;> simp [taken.txq, taken.kickq, taken.ackq, taken.freed, taken.sent,
          taken.owner, waits, ready.1]
      · intro i other
        constructor <;> simp [other, other.symm]
      · exact log
      · exact Or.inl rfl

end taken

theorem usbKickOutCmdMsg_sender (ctl : McuCtrl) (m : Nat) (submits : Bool) :
    (ctl.usbKickOutCmdMsg m submits).2.sender = ctl.sender := by
  unfold McuCtrl.usbKickOutCmdMsg McuCtrl.kickOutFail
  dsimp only
  split_ifs <;> rfl

/-- What the loop does with a message that it sends. -/
theorem Fit.kick {needWait submits : Bool} (fit : ctl.Fit places) (here : places m = .taken)
    (settled : ∀ i, i ≠ m → places i ≠ .taken) (kicks : ctl.sender = .kicking m needWait)
    (mcuInit : ctl.mcuInit = true) :
    (match ctl.usbKickOutCmdMsg m submits with
      | (true, ctl) => ctl
      | (false, ctl) => ctl.leave m needWait).Sound := by
  obtain ⟨place, moved, after⟩ := fit.usbKickOutCmdMsg here mcuInit submits
  have settles : place ≠ .taken := by
    rintro rfl
    exact Bool.noConfusion moved
  have sender := (usbKickOutCmdMsg_sender ctl m submits).trans kicks
  split
  · rename_i next outcome
    rw [outcome] at after
    exact after.sound settles settled
  · rename_i next outcome
    rw [outcome] at after sender
    exact (after.leave sender (by rwa [Function.update_self])).sound settles settled

theorem Fit.dequeueAndKickOut {needWait gone submits : Bool} (fit : ctl.Fit places)
    (settled : ∀ m, places m ≠ .taken) (kicks : ctl.sender = .kicking m needWait)
    (clean : ctl.mcuInit = true ∨ gone = true ∨ ctl.txq = []) :
    (ctl.dequeueAndKickOut m needWait gone submits).Sound := by
  unfold McuCtrl.dequeueAndKickOut
  split
  · rename_i empty
    refine ⟨places, fit.leave kicks ?_, settled⟩
    cases place : places m with
    | queued =>
      have inside := fit.txq_mem.mpr place
      rw [empty] at inside
      exact absurd inside List.not_mem_nil
    | taken => exact absurd place (settled m)
    | _ => rfl
  · rename_i first rest queue
    obtain ⟨rfl, -, wait⟩ := fit.first kicks queue
    have taken := fit.dequeue queue
    have here : Function.update places first .taken first = .taken := Function.update_self ..
    have others : ∀ i, i ≠ first → Function.update places first .taken i ≠ .taken := by
      intro i other
      rw [Function.update_of_ne other]
      exact settled i
    dsimp only
    by_cases away : gone = true
    · rw [if_pos away]
      split_ifs with waits
      · exact (taken.drop here waits).sound (by decide) others
      · exact (taken.freeTaken here (Bool.eq_false_iff.mpr waits)).sound (by decide) others
    · rw [if_neg away]
      by_cases busy : ctl.ackq ≠ []
      · exact (if_pos busy).symm ▸ (taken.requeue here).sound (by decide) others
      · have mcuInit : ctl.mcuInit = true := by
          rcases clean with set | left | empty
          · exact set
          · exact absurd left away
          · exact absurd (queue.symm.trans empty) (List.cons_ne_nil first rest)
        change (if ctl.ackq ≠ [] then _ else _ : McuCtrl).Sound
        rw [if_neg busy]
        split_ifs with retransmits waits
        · exact taken.kick here others kicks mcuInit
        · exact (taken.setSeq here _ _).kick here others kicks mcuInit
        · exact (taken.setSeq here 0 ctl.cmdSeq).kick here others kicks mcuInit

section complete

variable (fit : ctl.Fit places)
include fit

theorem Fit.completeKicked (here : places m = .kicked) (mcuInit : ctl.mcuInit = true)
    (failed : Bool) : (ctl.kickOutComplete m failed).Fit (Function.update places m .freed) := by
  have kicked := fit.all m
  rw [here] at kicked
  have alive := kicked.alive (by decide)
  have log := safe_concat (e := .use m) fit.safe alive
  have waits : (ctl.msg m).needRsp = false := kicked.msg.2
  have ends : ctl.kickOutComplete m failed =
      { (ctl.setMsg m { ctl.msg m with submitted := false }) with
        kickq := ctl.kickq.erase m
        log := ctl.log ++ [.use m] ++ [.free m] } := by
    cases failed <;> simp [McuCtrl.kickOutComplete, McuCtrl.kickOutFail, McuCtrl.use, setMsg,
      McuCtrl.freeCmdMsg, mcuInit, waits]
  rw [ends]
  apply fit.move
  · constructor <;> simp [setMsg, kicked.txq, kicked.kickq, kicked.ackq, kicked.freed, kicked.sent,
      kicked.owner]
  · intro i other
    constructor <;> simp [setMsg, other, other.symm]
  · apply safe_concat log
    simp [Touch.about, alive]
  · exact Or.inl mcuInit

theorem Fit.completeFlying (here : places m = .flying) (mcuInit : ctl.mcuInit = true)
    (failed : Bool) : (ctl.kickOutComplete m failed).Fit
      (Function.update places m (if failed then .done else .acked)) := by
  have flying := fit.all m
  rw [here] at flying
  obtain ⟨-, waits, ackDone, -⟩ := flying.msg
  have log := safe_concat (e := .use m) fit.safe (flying.alive (by decide))
  cases failed with
  | true =>
    simp only [McuCtrl.kickOutComplete, McuCtrl.kickOutFail, McuCtrl.use, setMsg, mcuInit, waits,
      Function.update_self, Bool.not_true, Bool.false_eq_true, ↓reduceIte]
    apply fit.move
    · constructor <;> simp [flying.txq, flying.kickq, flying.ackq, flying.freed, flying.sent,
        flying.owner]
    · intro i other
      constructor <;> simp [other]
    · exact log
    · exact Or.inl rfl
  | false =>
    simp only [McuCtrl.kickOutComplete, McuCtrl.use, setMsg, mcuInit, waits,
      Function.update_self, Bool.not_true, Bool.false_eq_true, ↓reduceIte]
    apply fit.move
    · constructor <;> simp [flying.txq, flying.kickq, flying.ackq, flying.freed, flying.sent,
        flying.owner, ackDone]
    · intro i other
      constructor <;> simp [other]
    · exact log
    · exact Or.inl rfl

theorem Fit.completeAnswered {failed : Bool} (here : places m = .answered)
    (succeeds : failed = false) :
    (ctl.kickOutComplete m failed).Fit (Function.update places m .done) := by
  have answered := fit.all m
  rw [here] at answered
  obtain ⟨-, waits, ackDone⟩ := answered.msg
  have log := safe_concat (e := .use m) fit.safe (answered.alive (by decide))
  subst succeeds
  unfold McuCtrl.kickOutComplete
  cases mcuInit : ctl.mcuInit <;>
    simp only [McuCtrl.use, setMsg, mcuInit, waits, Function.update_self, Bool.not_true,
      Bool.not_false, Bool.false_eq_true, ↓reduceIte]
  all_goals
    apply fit.move
    · constructor <;> simp [answered.txq, answered.kickq, answered.ackq, answered.freed,
        answered.sent, answered.owner, ackDone, waits]
    · intro i other
      constructor <;> simp [other]
    · exact log
    · exact mcuInit ▸ fit.init

theorem Fit.kickOutComplete {failed : Bool} (settled : ∀ m, places m ≠ .taken)
    (submitted : (ctl.msg m).submitted = true)
    (clean : failed = true → m ∈ ctl.kickq ∨ m ∈ ctl.ackq) :
    (ctl.kickOutComplete m failed).Sound := by
  have msg := (fit.all m).msg
  cases here : places m with
  | kicked =>
    have mcuInit : ctl.mcuInit = true := by
      rcases fit.init with set | ⟨empty, -⟩
      · exact set
      · exact absurd (empty ▸ fit.kickq_mem.mpr here) List.not_mem_nil
    exact (fit.completeKicked here mcuInit failed).sound (by decide) fun i _ => settled i
  | flying =>
    have mcuInit := fit.initialised (Or.inl here)
    refine (fit.completeFlying here mcuInit failed).sound ?_ fun i _ => settled i
    cases failed <;> decide
  | answered =>
    refine (fit.completeAnswered here ?_).sound (by decide) fun i _ => settled i
    by_contra fails
    rcases clean (Bool.eq_true_of_not_eq_false fails) with inside | inside
    · exact Place.noConfusion ((fit.kickq_mem.mp inside).symm.trans here)
    · rcases fit.ackq_mem.mp inside with other | other <;>
        exact Place.noConfusion (other.symm.trans here)
  | acked | done | dropped | queued =>
    rw [here] at msg
    exact absurd (msg.1.symm.trans submitted) Bool.false_ne_true
  | taken => exact absurd here (settled m)
  | unborn | freed =>
    rw [here] at msg
    exact absurd (msg.symm.trans submitted) Bool.false_ne_true

end complete

/-- The handler of responses takes a message out of `ackq`. -/
theorem Fit.respond (fit : ctl.Fit places) (here : places m = .flying ∨ places m = .acked) :
    ({ ctl.setMsg m { ctl.msg m with ackDone := true } with
      ackq := ctl.ackq.erase m } : McuCtrl).Fit
      (Function.update places m (if places m = .flying then .answered else .done)) := by
  have waiting := fit.all m
  apply fit.move
  · rcases here with here | here <;> rw [here] at waiting ⊢ <;>
      obtain ⟨submitted, waits, -⟩ := waiting.msg <;>
      constructor <;> simp [setMsg, waiting.txq, waiting.kickq, waiting.ackq, waiting.freed,
          waiting.sent, waiting.owner, submitted, waits]
  · intro i other
    constructor <;> simp [setMsg, other]
  · exact fit.safe
  · exact Or.inl (fit.initialised here)

theorem Fit.rxProcessCmdMsg (fit : ctl.Fit places) (settled : ∀ m, places m ≠ .taken) (seq : Nat) :
    (ctl.rxProcessCmdMsg seq).Sound := by
  have alive : ∀ m ∈ ctl.ackq, places m ≠ .freed := by
    intro m inside freed
    rcases fit.ackq_mem.mp inside with here | here <;>
      exact Place.noConfusion (here.symm.trans freed)
  have walked := fit.uses (ctl.ackq.takeWhile fun m => (ctl.msg m).seq ≠ seq)
    fun m inside => alive m (List.takeWhile_subset _ inside)
  unfold McuCtrl.rxProcessCmdMsg
  dsimp only
  split
  · exact ⟨places, walked, settled⟩
  · rename_i m found
    have inside := List.mem_of_find?_eq_some found
    have here := fit.ackq_mem.mp inside
    have waits : (ctl.msg m).needRsp = true := by
      have msg := (fit.all m).msg
      rcases here with here | here <;> rw [here] at msg <;> exact msg.2.1
    have used := (walked.use (alive m inside)).respond here
    split_ifs with responds
    · apply used.sound _ fun i _ => settled i
      split_ifs <;> decide
    · exact absurd waits responds

theorem kickOutComplete_sender (ctl : McuCtrl) (m : Nat) (failed : Bool) :
    (ctl.kickOutComplete m failed).sender = ctl.sender := by
  unfold McuCtrl.kickOutComplete McuCtrl.kickOutFail
  dsimp only
  split_ifs <;> rfl

section waiting

variable (fit : ctl.Fit places) (waits : ctl.sender = .waiting m)
include fit waits

/-- The sender waits for a message that was kicked out or dropped. -/
theorem Fit.held : (places m).held = true := by
  rcases (fit.all m).owner.mp (by rw [waits]; rfl) with held | ⟨pending, -⟩
  · exact held
  · exact Sender.noConfusion (waits.symm.trans ((fit.all m).pending pending))

theorem Fit.finish (settled : ∀ m, places m ≠ .taken) (here : places m = .done ∨ places m = .dropped)
    (retransmitTimes : Nat) : (ctl.finish m retransmitTimes).Sound := by
  have old := fit.all m
  have alive : .free m ∉ ctl.log := old.alive (by rcases here with here | here <;> simp [here])
  have log := safe_concat (e := .use m) fit.safe alive
  have msg : (ctl.msg m).submitted = false ∧ (ctl.msg m).needRsp = true := by
    have msg := old.msg
    rcases here with here | here <;> rw [here] at msg <;> exact ⟨msg.1, msg.2.1⟩
  unfold McuCtrl.finish
  dsimp only
  split_ifs with again
  · refine @Fit.sound _ m .queued places ?_ (by decide) fun i _ => settled i
    apply fit.move
    · rcases here with here | here <;> rw [here] at old <;>
        constructor <;> simp [McuCtrl.use, setMsg, old.txq, old.kickq, old.ackq, old.freed,
            old.sent, Sender.owner, msg]
    · intro i other
      constructor <;> simp [McuCtrl.use, setMsg, other, other.symm, waits, Sender.owner]
    · exact log
    · exact fit.init
  · refine @Fit.sound _ m .freed places ?_ (by decide) fun i _ => settled i
    apply fit.move
    · rcases here with here | here <;> rw [here] at old <;>
        constructor <;> simp [McuCtrl.use, McuCtrl.freeCmdMsg, old.txq, old.kickq, old.ackq,
            old.freed, old.sent, Sender.owner, msg]
    · intro i other
      constructor <;> simp [McuCtrl.use, McuCtrl.freeCmdMsg, other.symm, waits, Sender.owner]
    · apply safe_concat log
      simp [Touch.about, alive]
    · exact fit.init

theorem Fit.unlink (here : places m = .acked) :
    ({ ctl with ackq := ctl.ackq.erase m } : McuCtrl).Fit (Function.update places m .dropped) := by
  have acked := fit.all m
  rw [here] at acked
  obtain ⟨submitted, needRsp, ackDone, -⟩ := acked.msg
  apply fit.move
  · constructor <;> simp [acked.txq, acked.kickq, acked.ackq, acked.freed, acked.sent, waits,
      Sender.owner, submitted, needRsp, ackDone]
  · intro i other
    constructor <;> simp [other]
  · exact fit.safe
  · exact Or.inl (fit.initialised (Or.inr here))

theorem Fit.timeout (settled : ∀ m, places m ≠ .taken) (unanswered : (ctl.msg m).ackDone = false) :
    (ctl.timeout m).Sound := by
  have held := fit.held waits
  have msg := (fit.all m).msg
  have settles : ∀ place : Place, place ≠ .taken → ∀ i, Function.update places m place i ≠ .taken := by
    intro place other i
    by_cases mine : i = m
    · subst mine
      rwa [Function.update_self]
    · rw [Function.update_of_ne mine]
      exact settled i
  cases here : places m with
  | flying =>
    rw [here] at msg
    obtain ⟨submitted, -, -, state⟩ := msg
    have mcuInit := fit.initialised (Or.inl here)
    have used := fit.use (m := m) (by rw [here]; decide)
    have killed := used.completeFlying here mcuInit true
    have sender := (kickOutComplete_sender (ctl.use m) m true).trans waits
    have ends : ctl.timeout m = ((ctl.use m).kickOutComplete m true).finish m
        ((((ctl.use m).kickOutComplete m true).msg m).retransmitTimes - 1) := by
      simp [McuCtrl.timeout, McuCtrl.use, mcuInit, state, submitted]
    rw [ends]
    exact killed.finish sender (settles .done (by decide)) (Or.inl (Function.update_self ..)) _
  | acked =>
    rw [here] at msg
    obtain ⟨submitted, -, -, state⟩ := msg
    have mcuInit := fit.initialised (Or.inr here)
    have used := fit.use (m := m) (by rw [here]; decide)
    have unlinked := used.unlink waits here
    have ends : ctl.timeout m =
        ({ ctl.use m with ackq := ctl.ackq.erase m } : McuCtrl).finish m
          ((ctl.msg m).retransmitTimes - 1) := by
      simp [McuCtrl.timeout, McuCtrl.use, mcuInit, state]
    rw [ends]
    exact unlinked.finish waits (settles .dropped (by decide)) (Or.inr (Function.update_self ..)) _
  | dropped =>
    rw [here] at msg
    have used := fit.use (m := m) (by rw [here]; decide)
    have outside : m ∉ ctl.ackq := by
      rw [fit.ackq_mem, here]
      decide
    -- neither the URB nor a queue has the message
    have ends : ctl.timeout m = (ctl.use m).finish m ((ctl.msg m).retransmitTimes - 1) := by
      cases mcuInit : ctl.mcuInit <;> cases state : (ctl.msg m).state <;>
        simp [McuCtrl.timeout, McuCtrl.use, mcuInit, state, msg.1, List.erase_of_not_mem outside]
    rw [ends]
    exact used.finish waits settled (Or.inr here) _
  | answered | done =>
    rw [here] at msg
    exact absurd (unanswered.symm.trans msg.2.2) Bool.false_ne_true
  | unborn | queued | taken | kicked | freed =>
    rw [here] at held
    exact absurd held Bool.false_ne_true

theorem Fit.wake (settled : ∀ m, places m ≠ .taken) (answered : (ctl.msg m).ackDone = true)
    (clean : (ctl.msg m).submitted = false) : (ctl.wake m).Sound := by
  have held := fit.held waits
  have msg := (fit.all m).msg
  unfold McuCtrl.wake
  cases here : places m with
  | done =>
    have used := fit.use (m := m) (by rw [here]; decide)
    exact used.finish waits settled (Or.inl here) _
  | answered =>
    rw [here] at msg
    exact absurd (clean.symm.trans msg.1) Bool.false_ne_true
  | flying | acked =>
    rw [here] at msg
    exact absurd (msg.2.2.1.symm.trans answered) Bool.false_ne_true
  | dropped =>
    rw [here] at msg
    exact absurd (msg.2.2.symm.trans answered) Bool.false_ne_true
  | unborn | queued | taken | kicked | freed =>
    rw [here] at held
    exact absurd held Bool.false_ne_true

end waiting

theorem usbInit_sound : usbInit.Sound := by
  refine ⟨fun _ => .unborn, ⟨fun m => ?_, List.Pairwise.nil, Or.inl rfl⟩, fun _ => Place.noConfusion⟩
  constructor <;> simp [usbInit, Sender.owner]

/-- A message that exists is outstanding until it is freed. -/
theorem Fit.outstanding (fit : ctl.Fit places) (settled : ∀ m, places m ≠ .taken)
    (born : places m ≠ .unborn) : ctl.Outstanding m ↔ places m ≠ .freed := by
  have here := fit.all m
  unfold Outstanding
  rw [fit.txq_mem, fit.kickq_mem, fit.ackq_mem, ← Sender.owner_eq_some, here.owner]
  cases place : places m with
  | unborn => exact absurd place born
  | taken => exact absurd place (settled m)
  | _ => simp

theorem Sound.owned (sound : ctl.Sound) : ctl.Owned := by
  obtain ⟨places, fit, settled⟩ := sound
  constructor
  · intro m
    have here := fit.all m
    rw [here.txq, here.kickq, here.ackq]
    cases places m <;> decide
  · intro m before
    have here := fit.all m
    have born : places m ≠ .unborn := fun unborn => Nat.not_le.mpr before (here.sent.mpr unborn)
    rw [here.freed]
    by_cases freed : places m = .freed
    · rw [if_pos freed, if_neg ((fit.outstanding settled born).not.mpr (not_not.mpr freed))]
    · rw [if_neg freed, if_pos ((fit.outstanding settled born).mpr freed)]
  · exact fit.safe

theorem mcuStep_sound (ctl : McuCtrl) (event : McuEvent) (sound : ctl.Sound)
    (clean : ctl.Clean event) : (mcuStep ctl event).Sound := by
  obtain ⟨places, fit, settled⟩ := sound
  cases event with
  | send needRsp gone =>
    rw [mcuStep]
    split
    · rename_i rests
      exact fit.sendCmdMsg settled rests needRsp gone
    · exact ⟨places, fit, settled⟩
  | kickOut gone submits =>
    rw [mcuStep]
    split
    · rename_i m needWait kicks
      exact fit.dequeueAndKickOut settled kicks clean
    · exact ⟨places, fit, settled⟩
  | complete m failed =>
    rw [mcuStep]
    split_ifs with submitted
    · exact fit.kickOutComplete settled submitted clean
    · exact ⟨places, fit, settled⟩
  | response seq => exact fit.rxProcessCmdMsg settled seq
  | timeout =>
    rw [mcuStep]
    split
    · rename_i m waits
      split_ifs with answered
      · exact ⟨places, fit, settled⟩
      · exact fit.timeout waits settled (Bool.eq_false_iff.mpr answered)
    · exact ⟨places, fit, settled⟩
  | wake =>
    rw [mcuStep]
    split
    · rename_i m waits
      split_ifs with answered
      · exact fit.wake waits settled answered (clean m waits)
      · exact ⟨places, fit, settled⟩
    · exact ⟨places, fit, settled⟩
  | clearInit => exact ⟨places, ⟨fun m => (fit.all m).same ⟨rfl, rfl, rfl, rfl, Iff.rfl, Iff.rfl,
      fun _ => id, rfl⟩, fit.safe, Or.inr clean⟩, settled⟩

end McuCtrl

/-- In every run of clean steps from the initialised state, whatever their order, a message is in one
queue at most, it is freed once when it is no longer outstanding, and it is not touched after that. -/
theorem mcu_run (events : List McuEvent) (clean : Throughout mcuStep McuCtrl.Clean .usbInit events) :
    (run mcuStep .usbInit events).Owned := by
  have sound := run_invariant McuCtrl.Sound McuCtrl.mcuStep_sound McuCtrl.usbInit_sound events clean
  exact sound.owned

/-- A command without and one with response, of which the second is sent again after a timeout, and
is answered before its URB completes. -/
def twoCommands : List McuEvent :=
  [.send false false, .kickOut false true, .kickOut false true, .send true false,
    .kickOut false true, .kickOut false true, .complete 0 true, .timeout, .kickOut false true,
    .kickOut false true, .response 1, .complete 1 false, .wake, .clearInit]

theorem mcu_run_twoCommands : (run mcuStep .usbInit twoCommands).Owned := by
  apply mcu_run
  refine ⟨trivial, Or.inl ?_, Or.inl ?_, trivial, Or.inl ?_, Or.inl ?_, fun _ => Or.inl ?_, trivial,
    Or.inl ?_, Or.inl ?_, trivial, Bool.noConfusion, ?wake, ⟨?_, ?_⟩, trivial⟩
  case wake =>
    intro m waits
    injection waits with same
    rw [← same]
    decide
  all_goals decide

/-- The response comes before the completion of the URB, and the sender goes on at once. -/
def earlyResponse : List McuEvent :=
  [.send true false, .kickOut false true, .kickOut false true, .response 1, .wake, .complete 0 false]

/-- The completion then uses the message that the sender has freed. -/
theorem not_mcu_owned : ¬∀ events : List McuEvent, (run mcuStep .usbInit events).Owned := by
  intro owned
  have safe := (owned earlyResponse).safe
  have log : (run mcuStep .usbInit earlyResponse).log =
      [.use 0, .use 0, .use 0, .use 0, .use 0, .use 0, .free 0, .use 0] := by
    decide
  rw [log] at safe
  exact @not_safe _ _ Touch.about Touch.free 0 (.use 0) rfl
    [.use 0, .use 0, .use 0, .use 0, .use 0, .use 0] [] [] safe

end Mt7612u.Mcu
