import Mt7612u.Sta.Assoc

/-! Every run of the association machine: which of its steps leave a request without a confirmation
of its kind, or confirm one that nobody made. -/

namespace Mt7612u.Sta
open Library.Requests Library.Run
open Receive (Memory)

/-- The requests that a state waits for. -/
def AssocState.pending : AssocState → List AssocKind
  | .assocIdle => []
  | .assocWaitRsp => [.assoc]
  | .reassocWaitRsp => [.reassoc]
  | .disassocWaitRsp => [.disassoc]

/-- Every request that was taken has one confirmation of its kind, but for one that a waiting state
waits for, and the timer of that state runs or its timeout is queued. -/
structure AssocMachine.AnswersOnce (s : AssocMachine) : Prop where
  answered : unanswered s.trace = some s.currState.pending
  timed : ∀ kind ∈ s.currState.pending, s.timer kind = true ∨ .timeout kind ∈ s.queue

/-- A disassociation frame of the AP the station is associated with. -/
def AssocMachine.Disassociates (s : AssocMachine) (frame : Memory) : Prop :=
  s.infraOn = true ∧ s.bssid = addr2 frame

/-- The states in which such a frame answers what is waited for. -/
def AssocMachine.TakesDisassoc (s : AssocMachine) : Prop :=
  s.currState = .assocIdle ∧ s.cntlWaitDisassoc = false ∨
    s.currState = .disassocWaitRsp ∧ s.cntlWaitDisassoc = true

/-- A request is taken while the machine is idle, and a disassociation frame of the AP in a state
that expects it. -/
def AssocMachine.Orderly (s : AssocMachine) : AssocStep → Prop
  | .perform _ =>
      (∀ kind addr rest, s.queue = .mlmeReq kind addr :: rest → s.currState = .assocIdle) ∧
        ∀ frame rest, s.queue = .peerDisassocReq frame :: rest → s.Disassociates frame →
          s.TakesDisassoc
  | _ => True

namespace AssocMachine

section actions
variable {s : AssocMachine} {resources : AssocResources}

@[simp] theorem enter_trace (state : AssocState) : (s.enter state).trace = s.trace := rfl
@[simp] theorem enter_currState (state : AssocState) : (s.enter state).currState = state := rfl
@[simp] theorem conf_trace (kind : AssocKind) (status : BitVec 16) :
    (s.conf kind status).trace = s.trace ++ [.confirmed kind status] := rfl
@[simp] theorem conf_currState (kind : AssocKind) (status : BitVec 16) :
    (s.conf kind status).currState = s.currState := rfl
@[simp] theorem setTimer_trace (kind : AssocKind) (running : Bool) :
    (s.setTimer kind running).trace = s.trace := rfl
@[simp] theorem setTimer_timer_self (kind : AssocKind) (running : Bool) :
    (s.setTimer kind running).timer kind = running := by
  unfold setTimer
  exact Function.update_self kind running s.timer
@[simp] theorem linkDown_trace : s.linkDown.trace = s.trace := by
  unfold linkDown
  split
  · rfl
  · rfl

/-- Confirming the one request that waits brings the machine to rest. -/
theorem answersOnce_conf {kind : AssocKind} {status : BitVec 16}
    (idle : s.currState = .assocIdle) (waits : unanswered s.trace = some [kind]) :
    (s.conf kind status).AnswersOnce where
  answered := by
    rw [conf_trace, unanswered_append, waits, settleAll_confirmed_self, conf_currState, idle]
    rfl
  timed other member := by
    rw [conf_currState, idle] at member
    cases member

theorem dequeue_currState (elem : AssocElem) (rest : List AssocElem) :
    (s.dequeue elem rest).currState = s.currState := by
  cases elem <;> rfl

theorem unanswered_dequeue_request (kind : AssocKind) (addr : Address) (rest : List AssocElem)
    {waiting : List AssocKind} (answered : unanswered s.trace = some waiting) :
    unanswered (s.dequeue (.mlmeReq kind addr) rest).trace = some (kind :: waiting) := by
  unfold dequeue
  rw [unanswered_append, answered]
  rfl

/-- A request that is sent: the state waits for it with the timer running. -/
theorem answersOnce_wait {state : AssocState} {kind : AssocKind} (waits : state.pending = [kind])
    (answered : unanswered s.trace = some [kind]) :
    ((s.setTimer kind true).enter state).AnswersOnce where
  answered := by
    rw [enter_trace, setTimer_trace, answered, enter_currState, waits]
  timed other member := by
    rw [enter_currState, waits, List.mem_singleton] at member
    subst member
    exact Or.inl (setTimer_timer_self other true)

/-- A request that the idle machine has just taken. -/
theorem answersOnce_idleRequest {kind : AssocKind} {addr : Address}
    (waits : unanswered s.trace = some [kind]) :
    (idleRequestAction resources addr kind s).AnswersOnce := by
  cases kind with
  | assoc =>
    unfold idleRequestAction mlmeAssocReqAction
    dsimp only
    split_ifs
    · exact answersOnce_conf rfl waits
    · exact answersOnce_wait rfl waits
    · exact answersOnce_conf rfl waits
  | reassoc =>
    unfold idleRequestAction mlmeReassocReqAction
    dsimp only
    split_ifs
    · exact answersOnce_conf rfl waits
    · exact answersOnce_wait rfl waits
    · exact answersOnce_conf rfl waits
  | disassoc =>
    unfold idleRequestAction mlmeDisassocReqAction
    split_ifs
    · exact answersOnce_wait rfl waits
    · exact answersOnce_conf rfl waits

/-- A response in the state that waits for it. -/
theorem answersOnce_peerRsp {kind : AssocKind} {frame : Memory} {msgLen : Nat}
    (waits : s.currState.pending = [kind]) (once : s.AnswersOnce) :
    (peerRspAction kind resources frame msgLen s).AnswersOnce := by
  have one : unanswered s.trace = some [kind] := by rw [once.answered, waits]
  unfold peerRspAction
  dsimp only
  split_ifs
  · exact once
  · exact answersOnce_conf rfl one
  · exact once

/-- An element that is no timeout leaves the queue. -/
theorem answersOnce_dequeue {elem : AssocElem} {rest : List AssocElem}
    (queued : s.queue = elem :: rest) (once : s.AnswersOnce)
    (other : ∀ kind, elem ≠ .timeout kind) (quiet : ∀ kind addr, elem ≠ .mlmeReq kind addr) :
    (s.dequeue elem rest).AnswersOnce := by
  have dequeued : s.dequeue elem rest = { s with queue := rest } := by
    cases elem with
    | mlmeReq kind addr => exact absurd rfl (quiet kind addr)
    | _ => rfl
  rw [dequeued]
  constructor
  · exact once.answered
  · intro kind member
    apply (once.timed kind member).imp_right
    intro timeout
    rw [queued] at timeout
    exact (List.mem_cons.mp timeout).resolve_left fun same => other kind same.symm

/-- A timeout that is not that of the state is dropped. -/
theorem answersOnce_dequeue_timeout {kind : AssocKind} {rest : List AssocElem}
    (queued : s.queue = .timeout kind :: rest) (once : s.AnswersOnce)
    (other : kind ∉ s.currState.pending) : (s.dequeue (.timeout kind) rest).AnswersOnce where
  answered := once.answered
  timed waiting member := by
    apply (once.timed waiting member).imp_right
    intro timeout
    rw [queued] at timeout
    apply (List.mem_cons.mp timeout).resolve_left
    rintro ⟨⟩
    exact other member

/-- The timeout of the state that waits. -/
theorem answersOnce_timeout {kind : AssocKind} {status : BitVec 16}
    (waits : unanswered s.trace = some [kind]) : (timeoutAction kind status s).AnswersOnce :=
  answersOnce_conf rfl waits

/-- A disassociation frame in a state that expects it. -/
theorem answersOnce_peerDisassoc {frame : Memory} (once : s.AnswersOnce)
    (takes : s.Disassociates frame → s.TakesDisassoc) :
    (peerDisassocAction frame s).AnswersOnce := by
  unfold peerDisassocAction
  by_cases disassociates : s.infraOn = true ∧ s.bssid = addr2 frame
  · rw [if_pos disassociates]
    rcases takes disassociates with ⟨idle, free⟩ | ⟨waits, asked⟩
    · rw [free, if_neg Bool.false_ne_true]
      constructor
      · rw [enter_trace, linkDown_trace, once.answered, idle]
        rfl
      · exact nofun
    · rw [asked, if_pos rfl]
      have one : unanswered s.trace = some [.disassoc] := by rw [once.answered, waits]; rfl
      exact @answersOnce_conf (s.enter .assocIdle) .disassoc mlmeSuccess rfl one
  · rw [if_neg disassociates]
    exact once

/-- A request in a waiting state: the one that was waited for stays without an answer. -/
theorem not_answersOnce_waitingRequest {kind waiting : AssocKind}
    (waits : unanswered s.trace = some [kind, waiting]) :
    ¬ (waitingRequestAction kind s).AnswersOnce := by
  have invalid : waitingRequestAction kind s = invalidState kind s := by
    cases kind <;> rfl
  intro once
  have answered := once.answered
  rw [invalid] at answered
  unfold invalidState at answered
  rw [conf_trace, enter_trace, unanswered_append, waits, settleAll_confirmed_self] at answered
  exact absurd (Option.some.inj answered) (List.cons_ne_nil _ _)

/-- A disassociation frame in any other state: it confirms a request that was not made, or ends
the waiting without a confirmation. -/
theorem not_answersOnce_peerDisassoc {frame : Memory} (once : s.AnswersOnce)
    (disassociates : s.Disassociates frame) (refuses : ¬ s.TakesDisassoc) :
    ¬ (peerDisassocAction frame s).AnswersOnce := by
  intro after
  have answered := after.answered
  have before := once.answered
  unfold Disassociates at disassociates
  unfold TakesDisassoc at refuses
  unfold peerDisassocAction at answered
  rw [if_pos disassociates] at answered
  cases asked : s.cntlWaitDisassoc with
  | true =>
    rw [asked, if_pos rfl, enter_trace, conf_trace, unanswered_append, before, enter_currState]
      at answered
    cases state : s.currState with
    | assocIdle =>
      rw [state] at answered
      cases answered
    | assocWaitRsp =>
      rw [state] at answered
      cases answered
    | reassocWaitRsp =>
      rw [state] at answered
      cases answered
    | disassocWaitRsp => exact refuses (Or.inr ⟨state, asked⟩)
  | false =>
    rw [asked, if_neg Bool.false_ne_true, enter_trace, linkDown_trace, before, enter_currState]
      at answered
    cases state : s.currState with
    | assocIdle => exact refuses (Or.inl ⟨state, asked⟩)
    | assocWaitRsp =>
      rw [state] at answered
      cases answered
    | reassocWaitRsp =>
      rw [state] at answered
      cases answered
    | disassocWaitRsp =>
      rw [state] at answered
      cases answered

end actions

theorem assocStep_perform {s : AssocMachine} (resources : AssocResources) {elem : AssocElem}
    {rest : List AssocElem} (queued : s.queue = elem :: rest) :
    assocStep s (.perform resources) = assocPerformAction resources elem (s.dequeue elem rest) := by
  unfold assocStep
  rw [queued]

/-- A timeout in any state. -/
theorem answersOnce_perform_timeout {s : AssocMachine} {resources : AssocResources}
    {kind : AssocKind} {rest : List AssocElem} (queued : s.queue = .timeout kind :: rest)
    (once : s.AnswersOnce) :
    (assocPerformAction resources (.timeout kind) (s.dequeue (.timeout kind) rest)).AnswersOnce := by
  have dropped := answersOnce_dequeue_timeout queued once
  have answered := once.answered
  unfold assocPerformAction
  cases state : s.currState with
  | assocIdle =>
    rw [dequeue_currState, state]
    rw [state] at dropped
    exact dropped (List.not_mem_nil)
  | assocWaitRsp =>
    rw [dequeue_currState, state]
    rw [state] at dropped answered
    cases kind with
    | assoc => exact answersOnce_timeout answered
    | reassoc => exact dropped (by decide)
    | disassoc => exact dropped (by decide)
  | reassocWaitRsp =>
    rw [dequeue_currState, state]
    rw [state] at dropped answered
    cases kind with
    | assoc => exact dropped (by decide)
    | reassoc => exact answersOnce_timeout answered
    | disassoc => exact dropped (by decide)
  | disassocWaitRsp =>
    rw [dequeue_currState, state]
    rw [state] at dropped answered
    cases kind with
    | assoc => exact dropped (by decide)
    | reassoc => exact dropped (by decide)
    | disassoc => exact answersOnce_timeout answered

/-- A response frame in any state. -/
theorem answersOnce_perform_rsp {s : AssocMachine} {resources : AssocResources} {frame : Memory}
    {msgLen : Nat} {elem : AssocElem}
    (response : elem = .peerAssocRsp frame msgLen ∨ elem = .peerReassocRsp frame msgLen)
    (once : s.AnswersOnce) : (assocPerformAction resources elem s).AnswersOnce := by
  unfold assocPerformAction
  cases state : s.currState with
  | assocIdle =>
    rcases response with rfl | rfl
    · exact once
    · exact once
  | assocWaitRsp =>
    have waits : s.currState.pending = [.assoc] := by rw [state]; rfl
    rcases response with rfl | rfl
    · exact answersOnce_peerRsp waits once
    · exact answersOnce_peerRsp waits once
  | reassocWaitRsp =>
    have waits : s.currState.pending = [.reassoc] := by rw [state]; rfl
    rcases response with rfl | rfl
    · exact answersOnce_peerRsp waits once
    · exact answersOnce_peerRsp waits once
  | disassocWaitRsp =>
    rcases response with rfl | rfl
    · exact once
    · exact once

theorem assocPerformAction_peerDisassoc (s : AssocMachine) (resources : AssocResources)
    (frame : Memory) :
    assocPerformAction resources (.peerDisassocReq frame) s = peerDisassocAction frame s := by
  unfold assocPerformAction
  cases s.currState <;> rfl

theorem assocPerformAction_waiting {s : AssocMachine} (waits : s.currState ≠ .assocIdle)
    (resources : AssocResources) (kind : AssocKind) (addr : Address) :
    assocPerformAction resources (.mlmeReq kind addr) s = waitingRequestAction kind s := by
  unfold assocPerformAction
  cases state : s.currState with
  | assocIdle => exact absurd state waits
  | _ => rfl

/-- One step of the machine. -/
theorem answersOnce_assocStep {s : AssocMachine} {step : AssocStep} (once : s.AnswersOnce)
    (orderly : s.Orderly step) : (assocStep s step).AnswersOnce := by
  have appended : ∀ elem, AnswersOnce { s with queue := s.queue ++ [elem] } := by
    intro elem
    exact ⟨once.answered, fun kind member =>
      (once.timed kind member).imp_right (List.mem_append_left _)⟩
  cases step with
  | request kind addr => exact appended _
  | disassocFrame frame => exact appended _
  | assocRspFrame frame msgLen => exact appended _
  | reassocRspFrame frame msgLen => exact appended _
  | others auxBssid bssid infraOn monitorOn bBlockAssoc cntlWaitDisassoc =>
    exact ⟨once.answered, once.timed⟩
  | expire kind =>
    unfold assocStep
    dsimp only
    split
    next =>
      constructor
      · exact once.answered
      · intro other member
        by_cases same : other = kind
        · exact Or.inr (same ▸ List.mem_concat_self)
        · apply (once.timed other member).imp _ (List.mem_append_left _)
          intro running
          exact (Function.update_of_ne same false s.timer).trans running
    next => exact once
  | perform resources =>
    obtain ⟨requests, frames⟩ := orderly
    cases queued : s.queue with
    | nil =>
      unfold assocStep
      rw [queued]
      exact once
    | cons elem rest =>
      rw [assocStep_perform resources queued]
      cases elem with
      | mlmeReq kind addr =>
        have idle := requests kind addr rest queued
        have waits := unanswered_dequeue_request kind addr rest once.answered
        rw [idle] at waits
        unfold assocPerformAction
        rw [dequeue_currState, idle]
        exact answersOnce_idleRequest waits
      | peerDisassocReq frame =>
        rw [assocPerformAction_peerDisassoc]
        apply answersOnce_peerDisassoc (answersOnce_dequeue queued once nofun nofun)
        exact frames frame rest queued
      | peerAssocRsp frame msgLen =>
        exact answersOnce_perform_rsp (Or.inl rfl) (answersOnce_dequeue queued once nofun nofun)
      | peerReassocRsp frame msgLen =>
        exact answersOnce_perform_rsp (Or.inr rfl) (answersOnce_dequeue queued once nofun nofun)
      | timeout kind => exact answersOnce_perform_timeout queued once

/-- Any other step leaves a ledger that does not fit the state. -/
theorem not_answersOnce_assocStep {s : AssocMachine} {step : AssocStep} (once : s.AnswersOnce)
    (disorderly : ¬ s.Orderly step) : ¬ (assocStep s step).AnswersOnce := by
  cases step with
  | perform resources =>
    rcases not_and_or.mp disorderly with request | frame
    · push Not at request
      obtain ⟨kind, addr, rest, queued, waits⟩ := request
      have taken := unanswered_dequeue_request kind addr rest once.answered
      rw [assocStep_perform resources queued,
        assocPerformAction_waiting (by rwa [dequeue_currState])]
      cases state : s.currState with
      | assocIdle => exact absurd state waits
      | assocWaitRsp =>
        rw [state] at taken
        exact not_answersOnce_waitingRequest taken
      | reassocWaitRsp =>
        rw [state] at taken
        exact not_answersOnce_waitingRequest taken
      | disassocWaitRsp =>
        rw [state] at taken
        exact not_answersOnce_waitingRequest taken
    · push Not at frame
      obtain ⟨frame, rest, queued, disassociates, refuses⟩ := frame
      rw [assocStep_perform resources queued, assocPerformAction_peerDisassoc]
      exact not_answersOnce_peerDisassoc (answersOnce_dequeue queued once nofun nofun)
        disassociates refuses
  | request kind addr => exact absurd trivial disorderly
  | disassocFrame frame => exact absurd trivial disorderly
  | assocRspFrame frame msgLen => exact absurd trivial disorderly
  | reassocRspFrame frame msgLen => exact absurd trivial disorderly
  | expire kind => exact absurd trivial disorderly
  | others auxBssid bssid infraOn monitorOn bBlockAssoc cntlWaitDisassoc =>
    exact absurd trivial disorderly

end AssocMachine

/-- In all states of a run every request has its one confirmation, if and only if requests are
taken by the idle machine and disassociation frames in a state that expects them. -/
theorem assocMachine_answersOnce_iff (auxBssid bssid : Address)
    (infraOn monitorOn bBlockAssoc cntlWaitDisassoc : Bool) (steps : List AssocStep) :
    (∀ n, (run assocStep (assocStateMachineInit auxBssid bssid infraOn monitorOn bBlockAssoc
        cntlWaitDisassoc) (steps.take n)).AnswersOnce) ↔
      Throughout assocStep AssocMachine.Orderly (assocStateMachineInit auxBssid bssid infraOn
        monitorOn bBlockAssoc cntlWaitDisassoc) steps := by
  apply forall_take_iff_throughout AssocMachine.AnswersOnce AssocMachine.AnswersOnce
  · intro s once
    exact once
  · intro s step once orderly
    exact AssocMachine.answersOnce_assocStep once orderly
  · intro s step once disorderly
    exact AssocMachine.not_answersOnce_assocStep once disorderly
  · exact ⟨rfl, nofun⟩

/-- While the station roams, its old AP sends a disassociation frame: the reassociation that is
under way gets no confirmation. -/
theorem disassociated_reassociation_unanswered :
    ¬ (run assocStep (assocStateMachineInit (fun _ => 0) (fun _ => 0) true false false false)
      [.request .reassoc (fun _ => 2), .perform ⟨true, true⟩, .disassocFrame (fun _ => 0),
        .perform ⟨true, true⟩]).AnswersOnce := by
  intro once
  exact absurd once.answered (by decide)

end Mt7612u.Sta
