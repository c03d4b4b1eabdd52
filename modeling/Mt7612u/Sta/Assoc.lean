import Mt7612u.Sta.AssocSanity

/-! The association machine of the station, `assoc.c`: its actions, its three timers, and the elements
of the MLME queue that are meant for it. -/

namespace Mt7612u.Sta
open Library.Requests Library.Run
open Receive (Memory)

/-- The three kinds of requests, each with a confirmation and a timer of its own. -/
inductive AssocKind where
  | assoc
  | reassoc
  | disassoc
  deriving DecidableEq, Repr

inductive AssocState where
  | assocIdle
  | assocWaitRsp
  | reassocWaitRsp
  | disassocWaitRsp
  deriving DecidableEq, Repr

/-- An element of the queue with the type of its message. -/
inductive AssocElem where
  | mlmeReq (kind : AssocKind) (addr : Address)
  | peerDisassocReq (frame : Memory)
  | peerAssocRsp (frame : Memory) (msgLen : Nat)
  | peerReassocRsp (frame : Memory) (msgLen : Nat)
  | timeout (kind : AssocKind)

/-- Which of the allocations of an action succeed: that of the frame and that of `ie_list`. -/
structure AssocResources where
  outBuffer : Bool
  ieList : Bool

/-- The machine with its timers, what it reads of the adapter, the queue, and the requests it has
taken and the confirmations it has queued. -/
structure AssocMachine where
  currState : AssocState
  timer : AssocKind → Bool
  /-- `MlmeAux.Bssid`. -/
  auxBssid : Address
  /-- `CommonCfg.Bssid`. -/
  bssid : Address
  infraOn : Bool
  monitorOn : Bool
  bBlockAssoc : Bool
  /-- The control machine is in `CNTL_WAIT_DISASSOC`. -/
  cntlWaitDisassoc : Bool
  queue : List AssocElem
  trace : List (Event AssocKind (BitVec 16))

namespace AssocMachine

def enter (state : AssocState) (s : AssocMachine) : AssocMachine := { s with currState := state }

/-- `MT2_ASSOC_CONF`, `MT2_REASSOC_CONF` or `MT2_DISASSOC_CONF` is queued for the control machine. -/
def conf (kind : AssocKind) (status : BitVec 16) (s : AssocMachine) : AssocMachine :=
  { s with trace := s.trace ++ [.confirmed kind status] }

def setTimer (kind : AssocKind) (running : Bool) (s : AssocMachine) : AssocMachine :=
  { s with timer := Function.update s.timer kind running }

/-- `LinkDown`, as far as this machine sees it. -/
def linkDown (s : AssocMachine) : AssocMachine :=
  if s.monitorOn then s else { s with infraOn := false }

end AssocMachine

def mlmeAssocReqAction (r : AssocResources) (addr : Address) (s : AssocMachine) : AssocMachine :=
  if s.bBlockAssoc then (s.enter .assocIdle).conf .assoc mlmeStateMachineReject
  else
    let s := { s.setTimer .assoc false with auxBssid := addr }
    if r.outBuffer then (s.setTimer .assoc true).enter .assocWaitRsp
    else (s.enter .assocIdle).conf .assoc mlmeFailNoResource

def mlmeReassocReqAction (r : AssocResources) (addr : Address) (s : AssocMachine) : AssocMachine :=
  if s.bBlockAssoc then (s.enter .assocIdle).conf .reassoc mlmeStateMachineReject
  else
    let s := s.setTimer .reassoc false
    if r.outBuffer then
      ({ s with auxBssid := addr }.setTimer .reassoc true).enter .reassocWaitRsp
    else (s.enter .assocIdle).conf .reassoc mlmeFailNoResource

def mlmeDisassocReqAction (r : AssocResources) (s : AssocMachine) : AssocMachine :=
  if r.outBuffer then
    ((s.setTimer .disassoc false).setTimer .disassoc true).enter .disassocWaitRsp
  else (s.enter .assocIdle).conf .disassoc mlmeFailNoResource

/-- A response to an association or a reassociation. -/
def peerRspAction (kind : AssocKind) (r : AssocResources) (frame : Memory) (msgLen : Nat)
    (s : AssocMachine) : AssocMachine :=
  if !r.ieList then s
  else
    let rsp := peerAssocRspSanity frame msgLen
    if rsp.accepted ∧ rsp.addr2 = s.auxBssid then
      ((s.setTimer kind false).enter .assocIdle).conf kind rsp.status
    else s

def peerAssocRspAction := peerRspAction .assoc
def peerReassocRspAction := peerRspAction .reassoc

def peerDisassocAction (frame : Memory) (s : AssocMachine) : AssocMachine :=
  if s.infraOn ∧ s.bssid = addr2 frame then
    if s.cntlWaitDisassoc then (s.conf .disassoc mlmeSuccess).enter .assocIdle
    else s.linkDown.enter .assocIdle
  else s

/-- What the machine does after a timeout. -/
def timeoutAction (kind : AssocKind) (status : BitVec 16) (s : AssocMachine) : AssocMachine :=
  (s.enter .assocIdle).conf kind status

def assocTimeoutAction := timeoutAction .assoc mlmeRejTimeout
def reassocTimeoutAction := timeoutAction .reassoc mlmeRejTimeout
def disassocTimeoutAction := timeoutAction .disassoc mlmeSuccess

/-- A request that comes while the machine waits. -/
def invalidState (kind : AssocKind) (s : AssocMachine) : AssocMachine :=
  (s.enter .assocIdle).conf kind mlmeStateMachineReject

def invalidStateWhenAssoc := invalidState .assoc
def invalidStateWhenReassoc := invalidState .reassoc
def invalidStateWhenDisassociate := invalidState .disassoc

/-- The requests while the machine is idle. -/
def idleRequestAction (r : AssocResources) (addr : Address) : AssocKind → AssocMachine → AssocMachine
  | .assoc => mlmeAssocReqAction r addr
  | .reassoc => mlmeReassocReqAction r addr
  | .disassoc => mlmeDisassocReqAction r

/-- The requests while the machine waits. -/
def waitingRequestAction : AssocKind → AssocMachine → AssocMachine
  | .assoc => invalidStateWhenAssoc
  | .reassoc => invalidStateWhenReassoc
  | .disassoc => invalidStateWhenDisassociate

/-- The actions that `AssocStateMachineInit` sets; the others are `Drop`. -/
def assocPerformAction (r : AssocResources) (elem : AssocElem) (s : AssocMachine) : AssocMachine :=
  match s.currState, elem with
  | .assocIdle, .mlmeReq kind addr => idleRequestAction r addr kind s
  | _, .mlmeReq kind _ => waitingRequestAction kind s
  | _, .peerDisassocReq frame => peerDisassocAction frame s
  | .assocWaitRsp, .peerAssocRsp frame msgLen => peerAssocRspAction r frame msgLen s
  | .assocWaitRsp, .peerReassocRsp frame msgLen => peerAssocRspAction r frame msgLen s
  | .assocWaitRsp, .timeout .assoc => assocTimeoutAction s
  | .reassocWaitRsp, .peerReassocRsp frame msgLen => peerReassocRspAction r frame msgLen s
  | .reassocWaitRsp, .peerAssocRsp frame msgLen => peerReassocRspAction r frame msgLen s
  | .reassocWaitRsp, .timeout .reassoc => reassocTimeoutAction s
  | .disassocWaitRsp, .timeout .disassoc => disassocTimeoutAction s
  | _, _ => s

/-- The element leaves the queue; a request counts as taken from here on. -/
def AssocMachine.dequeue (elem : AssocElem) (rest : List AssocElem) (s : AssocMachine) :
    AssocMachine :=
  match elem with
  | .mlmeReq kind _ => { s with queue := rest, trace := s.trace ++ [.taken kind] }
  | _ => { s with queue := rest }

inductive AssocStep where
  /-- `MlmeEnqueue` of a request. -/
  | request (kind : AssocKind) (addr : Address)
  | disassocFrame (frame : Memory)
  | assocRspFrame (frame : Memory) (msgLen : Nat)
  | reassocRspFrame (frame : Memory) (msgLen : Nat)
  /-- `AssocTimeout`, `ReassocTimeout` or `DisassocTimeout`, when the timer runs. -/
  | expire (kind : AssocKind)
  /-- `MlmeHandler` takes the first element. -/
  | perform (resources : AssocResources)
  /-- Other machines write what this one reads. -/
  | others (auxBssid bssid : Address) (infraOn monitorOn bBlockAssoc cntlWaitDisassoc : Bool)

def assocStep (s : AssocMachine) : AssocStep → AssocMachine
  | .request kind addr => { s with queue := s.queue ++ [.mlmeReq kind addr] }
  | .disassocFrame frame => { s with queue := s.queue ++ [.peerDisassocReq frame] }
  | .assocRspFrame frame msgLen => { s with queue := s.queue ++ [.peerAssocRsp frame msgLen] }
  | .reassocRspFrame frame msgLen => { s with queue := s.queue ++ [.peerReassocRsp frame msgLen] }
  | .expire kind =>
      if s.timer kind then { s.setTimer kind false with queue := s.queue ++ [.timeout kind] } else s
  | .perform resources =>
      match s.queue with
      | [] => s
      | elem :: rest => assocPerformAction resources elem (s.dequeue elem rest)
  | .others auxBssid bssid infraOn monitorOn bBlockAssoc cntlWaitDisassoc =>
      { s with
        auxBssid := auxBssid
        bssid := bssid
        infraOn := infraOn
        monitorOn := monitorOn
        bBlockAssoc := bBlockAssoc
        cntlWaitDisassoc := cntlWaitDisassoc }

/-- The machine as `AssocStateMachineInit` leaves it. -/
def assocStateMachineInit (auxBssid bssid : Address)
    (infraOn monitorOn bBlockAssoc cntlWaitDisassoc : Bool) : AssocMachine where
  currState := .assocIdle
  timer _ := false
  auxBssid := auxBssid
  bssid := bssid
  infraOn := infraOn
  monitorOn := monitorOn
  bBlockAssoc := bBlockAssoc
  cntlWaitDisassoc := cntlWaitDisassoc
  queue := []
  trace := []

end Mt7612u.Sta
