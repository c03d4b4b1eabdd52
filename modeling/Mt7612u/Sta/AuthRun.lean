import Mt7612u.Sta.Auth

/-! Every run of the authentication machine: which of its steps leave a request without an answer or
answer one twice. -/

namespace Mt7612u.Sta
open Library.Requests Library.Run
open Receive (Memory)

/-- The requests that a state waits for. -/
def AuthState.pending : AuthState → List Unit
  | .authReqIdle => []
  | .authWaitSeq2 => [()]
  | .authWaitSeq4 => [()]

def AuthMachine.Timed (s : AuthMachine) : Prop :=
  s.authTimer = true ∨ .authTimeout ∈ s.queue

/-- When the timer has run off, handling what is queued brings the machine back to idle. -/
def AuthMachine.Leaves (s : AuthMachine) : Prop :=
  ∀ resources : List AuthResources, (authStep s .expire).queue.length ≤ resources.length →
    ∃ n, (run authStep (authStep s .expire)
      ((resources.take n).map AuthStep.perform)).currState = .authReqIdle

/-- Every request that was taken has one confirmation, but for one that a waiting state waits for,
and a waiting state has its timer running or its timeout queued. -/
structure AuthMachine.AnswersOnce (s : AuthMachine) : Prop where
  answered : unanswered s.trace = some s.currState.pending
  timed : s.currState ≠ .authReqIdle → s.Timed
  leaves : s.Leaves

/-- A request comes while the machine is idle and not blocked, and its frame can be allocated. -/
def AuthMachine.Accepts (s : AuthMachine) (resources : AuthResources) (info : AuthReq) : Prop :=
  s.currState = .authReqIdle ∧ s.bBlockAssoc = false ∧
    (mlmeAuthReqSanity info = true → resources.outBuffer = true)

/-- Whatever is queued may be handled, and a request under the condition above. -/
def AuthMachine.Orderly (s : AuthMachine) : AuthStep → Prop
  | .perform resources =>
      ∀ info rest, s.queue = .mlmeAuthReq info :: rest → s.Accepts resources info
  | _ => True

namespace AuthMachine

/-- The invariant without what follows from it. -/
structure Settled (s : AuthMachine) : Prop where
  answered : unanswered s.trace = some s.currState.pending
  timed : s.currState ≠ .authReqIdle → s.Timed

section actions
variable {s : AuthMachine} {resources : AuthResources}

@[simp] theorem enter_trace (state : AuthState) : (s.enter state).trace = s.trace := rfl
@[simp] theorem enter_currState (state : AuthState) : (s.enter state).currState = state := rfl
@[simp] theorem enter_queue (state : AuthState) : (s.enter state).queue = s.queue := rfl
@[simp] theorem enter_authTimer (state : AuthState) : (s.enter state).authTimer = s.authTimer := rfl
@[simp] theorem setTimer_trace (running : Bool) : (s.setTimer running).trace = s.trace := rfl
@[simp] theorem setTimer_currState (running : Bool) :
    (s.setTimer running).currState = s.currState := rfl
@[simp] theorem setTimer_queue (running : Bool) : (s.setTimer running).queue = s.queue := rfl
@[simp] theorem setTimer_authTimer (running : Bool) :
    (s.setTimer running).authTimer = running := rfl
@[simp] theorem authConf_trace (status : BitVec 16) :
    (s.authConf status).trace = s.trace ++ [.confirmed () status] := rfl
@[simp] theorem authConf_currState (status : BitVec 16) :
    (s.authConf status).currState = s.currState := rfl
@[simp] theorem authConf_queue (status : BitVec 16) : (s.authConf status).queue = s.queue := rfl

/-- Confirming the one request that waits settles the machine in the idle state. -/
theorem settled_authConf {status : BitVec 16} (idle : s.currState = .authReqIdle)
    (waits : unanswered s.trace = some [()]) : (s.authConf status).Settled where
  answered := by
    rw [authConf_trace, unanswered_append, waits, settleAll_confirmed_self, authConf_currState,
      idle]
    rfl
  timed waiting := absurd idle waiting

theorem dequeue_queue (elem : AuthElem) (rest : List AuthElem) :
    (s.dequeue elem rest).queue = rest := by
  cases elem <;> rfl

theorem dequeue_currState (elem : AuthElem) (rest : List AuthElem) :
    (s.dequeue elem rest).currState = s.currState := by
  cases elem <;> rfl

/-- No action puts anything into the queue of its own machine. -/
theorem authPerformAction_queue (elem : AuthElem) :
    (authPerformAction resources elem s).queue = s.queue := by
  unfold authPerformAction
  split
  · unfold mlmeAuthReqAction authReqSend
    dsimp only
    split_ifs <;> rfl
  · rfl
  · rfl
  · rfl
  · unfold peerAuthRspAtSeq2Action
    dsimp only
    split_ifs <;> rfl
  · rfl
  · rfl
  · unfold peerAuthRspAtSeq4Action
    dsimp only
    split_ifs <;> rfl
  · rfl

/-- A frame at the first waiting state. -/
theorem settled_peerAuthRspAtSeq2 {frame : Memory} (waits : s.currState = .authWaitSeq2)
    (settled : s.Settled) : (peerAuthRspAtSeq2Action resources frame s).Settled := by
  have one : unanswered s.trace = some [()] := by rw [settled.answered, waits]; rfl
  unfold peerAuthRspAtSeq2Action
  dsimp only
  split_ifs
  · exact settled
  · exact settled
  · exact settled_authConf rfl one
  · exact settled_authConf rfl one
  · exact settled_authConf rfl one
  · exact ⟨one, fun _ => Or.inl rfl⟩
  · exact settled_authConf rfl one
  · exact settled
  · exact settled

theorem settled_peerAuthRspAtSeq4 {frame : Memory} (waits : s.currState = .authWaitSeq4)
    (settled : s.Settled) : (peerAuthRspAtSeq4Action resources frame s).Settled := by
  have one : unanswered s.trace = some [()] := by rw [settled.answered, waits]; rfl
  unfold peerAuthRspAtSeq4Action
  dsimp only
  split_ifs
  · exact settled
  · exact settled_authConf rfl one
  · exact settled
  · exact settled

/-- A request that the idle machine accepts. -/
theorem settled_mlmeAuthReqAction {info : AuthReq} (open_ : s.bBlockAssoc = false)
    (buffer : mlmeAuthReqSanity info = true → resources.outBuffer = true)
    (waits : unanswered s.trace = some [()]) : (mlmeAuthReqAction resources info s).Settled := by
  unfold mlmeAuthReqAction authReqSend
  dsimp only
  rw [open_, if_neg Bool.false_ne_true]
  by_cases sane : mlmeAuthReqSanity info = true
  · rw [if_pos sane, if_pos (buffer sane), if_pos rfl]
    exact ⟨waits, fun _ => Or.inl rfl⟩
  · rw [if_neg sane, if_neg Bool.false_ne_true]
    exact settled_authConf rfl waits

/-- While requests are blocked the machine waits for an answer to a request it has rejected, and
without a buffer it rejects a request twice. -/
theorem not_settled_mlmeAuthReqAction {info : AuthReq}
    (waits : unanswered s.trace = some [()])
    (refused : s.bBlockAssoc = true ∨ mlmeAuthReqSanity info = true ∧ resources.outBuffer = false) :
    ¬ (mlmeAuthReqAction resources info s).Settled := by
  intro settled
  have answered := settled.answered
  unfold mlmeAuthReqAction authReqSend at answered
  by_cases blocked : s.bBlockAssoc = true
  · rw [if_pos blocked] at answered
    simp only [if_true, enter_trace, authConf_trace, enter_currState, unanswered_append, waits,
      settleAll_confirmed_self, settleAll_nil] at answered
    exact absurd answered (by decide)
  · obtain ⟨sane, missing⟩ := refused.resolve_left blocked
    rw [if_neg blocked, if_pos sane, missing] at answered
    simp only [Bool.false_eq_true, if_false, enter_trace, authConf_trace, enter_currState,
      authConf_currState, setTimer_trace, unanswered_append, waits, settleAll_confirmed_self,
      settleAll_nil, settleAll_confirmed_nil] at answered
    exact absurd answered (by decide)

theorem unanswered_dequeue_request (info : AuthReq) (rest : List AuthElem) {waiting : List Unit}
    (answered : unanswered s.trace = some waiting) :
    unanswered (s.dequeue (.mlmeAuthReq info) rest).trace = some (() :: waiting) := by
  unfold dequeue
  rw [unanswered_append, answered]
  rfl

end actions

/-- One step of the machine. -/
theorem settled_authStep {s : AuthMachine} {step : AuthStep} (settled : s.Settled)
    (orderly : s.Orderly step) : (authStep s step).Settled := by
  cases step with
  | request info =>
    exact ⟨settled.answered, fun waits =>
      (settled.timed waits).imp_right (List.mem_append_left _)⟩
  | frame frame =>
    exact ⟨settled.answered, fun waits =>
      (settled.timed waits).imp_right (List.mem_append_left _)⟩
  | expire =>
    unfold authStep
    dsimp only
    split
    next => exact ⟨settled.answered, fun _ => Or.inr List.mem_concat_self⟩
    next => exact settled
  | others bssid alg bBlockAssoc => exact ⟨settled.answered, settled.timed⟩
  | perform resources =>
    cases queued : s.queue with
    | nil =>
      unfold authStep
      rw [queued]
      exact settled
    | cons elem rest =>
      have stepped : authStep s (.perform resources) =
          authPerformAction resources elem (s.dequeue elem rest) := by
        unfold authStep
        rw [queued]
      rw [stepped]
      cases elem with
      | mlmeAuthReq info =>
        obtain ⟨idle, unblocked, buffer⟩ := orderly info rest queued
        have waits := unanswered_dequeue_request info rest settled.answered
        rw [idle] at waits
        unfold authPerformAction
        rw [dequeue_currState, idle]
        exact settled_mlmeAuthReqAction unblocked buffer waits
      | peerAuthEven frame =>
        -- The timeout may be queued, but it is not the element that was taken.
        have still : (s.dequeue (.peerAuthEven frame) rest).Settled := by
          constructor
          · exact settled.answered
          · intro waits
            apply (settled.timed waits).imp_right
            intro member
            rw [queued] at member
            exact (List.mem_cons.mp member).resolve_left nofun
        unfold authPerformAction
        cases state : s.currState with
        | authReqIdle =>
          rw [dequeue_currState, state]
          exact still
        | authWaitSeq2 =>
          rw [dequeue_currState, state]
          exact settled_peerAuthRspAtSeq2 state still
        | authWaitSeq4 =>
          rw [dequeue_currState, state]
          exact settled_peerAuthRspAtSeq4 state still
      | authTimeout =>
        have answered := settled.answered
        unfold authPerformAction
        cases state : s.currState with
        | authReqIdle =>
          rw [dequeue_currState, state]
          exact ⟨answered, fun waits => absurd state waits⟩
        | authWaitSeq2 =>
          rw [dequeue_currState, state]
          rw [state] at answered
          exact settled_authConf rfl answered
        | authWaitSeq4 =>
          rw [dequeue_currState, state]
          rw [state] at answered
          exact settled_authConf rfl answered

/-- A request that is not accepted leaves a ledger that does not fit the state. -/
theorem not_settled_authStep {s : AuthMachine} {step : AuthStep} (settled : s.Settled)
    (disorderly : ¬ s.Orderly step) : ¬ (authStep s step).Settled := by
  cases step with
  | perform resources =>
    unfold Orderly at disorderly
    push Not at disorderly
    obtain ⟨info, rest, queued, refused⟩ := disorderly
    have waits := unanswered_dequeue_request info rest settled.answered
    have stepped : authStep s (.perform resources) =
        authPerformAction resources (.mlmeAuthReq info) (s.dequeue (.mlmeAuthReq info) rest) := by
      unfold authStep
      rw [queued]
    rw [stepped]
    have rejected : ∀ waiting, unanswered s.trace = some (() :: waiting) →
        ¬ (invalidStateWhenAuth (s.dequeue (.mlmeAuthReq info) rest)).Settled := by
      intro waiting before after
      have answered := after.answered
      unfold invalidStateWhenAuth at answered
      rw [authConf_trace, enter_trace, unanswered_append,
        unanswered_dequeue_request info rest before, settleAll_confirmed_self] at answered
      exact absurd (Option.some.inj answered) (List.cons_ne_nil _ _)
    unfold authPerformAction
    rw [dequeue_currState]
    cases state : s.currState with
    | authReqIdle =>
      rw [state] at waits
      apply not_settled_mlmeAuthReqAction waits
      by_contra neither
      rw [not_or, Bool.not_eq_true] at neither
      apply refused
      refine ⟨state, neither.1, fun sane => ?_⟩
      by_contra missing
      exact neither.2 ⟨sane, Bool.not_eq_true _ ▸ missing⟩
    | authWaitSeq2 => exact rejected [] (by rw [settled.answered, state]; rfl)
    | authWaitSeq4 => exact rejected [] (by rw [settled.answered, state]; rfl)
  | request info => exact absurd trivial disorderly
  | frame frame => exact absurd trivial disorderly
  | expire => exact absurd trivial disorderly
  | others bssid alg bBlockAssoc => exact absurd trivial disorderly

theorem authStep_perform_queue {s : AuthMachine} (resources : AuthResources) {elem : AuthElem}
    {rest : List AuthElem} (queued : s.queue = elem :: rest) :
    (authStep s (.perform resources)).queue = rest := by
  unfold authStep
  rw [queued]
  exact (authPerformAction_queue elem).trans (dequeue_queue elem rest)

/-- The timeout brings the machine back to idle from every state. -/
theorem authStep_perform_timeout {s : AuthMachine} (resources : AuthResources)
    {rest : List AuthElem} (queued : s.queue = .authTimeout :: rest) :
    (authStep s (.perform resources)).currState = .authReqIdle := by
  unfold authStep authPerformAction
  rw [queued]
  dsimp only
  rw [dequeue_currState]
  cases state : s.currState with
  | authReqIdle => exact (dequeue_currState _ rest).trans state
  | authWaitSeq2 => rfl
  | authWaitSeq4 => rfl

/-- At the latest the queued timeout ends the waiting. -/
theorem idle_of_timeout_mem {s : AuthMachine} (member : .authTimeout ∈ s.queue)
    (resources : List AuthResources) (enough : s.queue.length ≤ resources.length) :
    ∃ n, (run authStep s ((resources.take n).map AuthStep.perform)).currState =
      .authReqIdle := by
  induction resources generalizing s with
  | nil =>
    rw [List.eq_nil_of_length_eq_zero (Nat.le_zero.mp enough)] at member
    cases member
  | cons first later ih =>
    cases queued : s.queue with
    | nil =>
      rw [queued] at member
      cases member
    | cons elem rest =>
      rw [queued] at member enough
      have next := authStep_perform_queue first queued
      cases member with
      | head => exact ⟨1, authStep_perform_timeout first queued⟩
      | tail _ member =>
        rw [← next] at member
        have fewer : (authStep s (.perform first)).queue.length ≤ later.length := by
          rw [next]
          exact Nat.le_of_succ_le_succ enough
        obtain ⟨n, idle⟩ := ih member fewer
        exact ⟨n + 1, idle⟩

theorem Settled.leaves {s : AuthMachine} (settled : s.Settled) : s.Leaves := by
  intro resources enough
  by_cases idle : s.currState = .authReqIdle
  · use 0
    unfold authStep
    dsimp only
    split
    next => exact idle
    next => exact idle
  · apply idle_of_timeout_mem _ resources enough
    unfold authStep
    dsimp only
    split
    next => exact List.mem_concat_self
    next stopped => exact (settled.timed idle).resolve_left stopped

theorem Settled.answersOnce {s : AuthMachine} (settled : s.Settled) : s.AnswersOnce :=
  ⟨settled.answered, settled.timed, settled.leaves⟩

theorem AnswersOnce.settled {s : AuthMachine} (once : s.AnswersOnce) : s.Settled :=
  ⟨once.answered, once.timed⟩

end AuthMachine

/-- In all states of a run every request has its one confirmation, if and only if each request is
taken when the machine can accept it. -/
theorem authMachine_answersOnce_iff (bssid : Address) (alg : BitVec 16) (bBlockAssoc : Bool)
    (steps : List AuthStep) :
    (∀ n, (run authStep (authStateMachineInit bssid alg bBlockAssoc) (steps.take n)).AnswersOnce) ↔
      Throughout authStep AuthMachine.Orderly (authStateMachineInit bssid alg bBlockAssoc)
        steps := by
  apply forall_take_iff_throughout AuthMachine.Settled AuthMachine.AnswersOnce
  · intro s settled
    exact settled.answersOnce
  · intro s step settled orderly
    exact AuthMachine.settled_authStep settled orderly
  · intro s step settled disorderly once
    exact AuthMachine.not_settled_authStep settled disorderly once.settled
  · exact ⟨rfl, fun waits => absurd rfl waits⟩

/-- A request that comes while requests are blocked is confirmed, and the machine waits for its
answer all the same, without a timer. -/
theorem blocked_request_waits :
    (run authStep (authStateMachineInit (fun _ => 0) authModeOpen true)
        [.request ⟨fun _ => 2, authModeOpen⟩, .perform ⟨true, true, true, true⟩]).currState =
          .authWaitSeq2 ∧
      ¬ (run authStep (authStateMachineInit (fun _ => 0) authModeOpen true)
        [.request ⟨fun _ => 2, authModeOpen⟩,
          .perform ⟨true, true, true, true⟩]).AnswersOnce := by
  constructor
  · rfl
  · intro once
    exact absurd once.answered (by decide)

end Mt7612u.Sta
