import Mt7612u.Library.Requests
import Mt7612u.Library.Run
import Mt7612u.Receive.Memory

/-! The authentication machine of the station, `auth.c`: its actions, its timer, and the elements
of the MLME queue that are meant for it. -/

namespace Mt7612u.Sta
open Library.Requests Library.Run
open Receive (Memory)

abbrev Address := Fin 6 → UInt8

def mlmeSuccess : BitVec 16 := 0
def mlmeRejTimeout : BitVec 16 := 16
def mlmeInvalidFormat : BitVec 16 := 0x51
def mlmeFailNoResource : BitVec 16 := 0x52
def mlmeStateMachineReject : BitVec 16 := 0x53

def authModeOpen : BitVec 16 := 0
def authModeKey : BitVec 16 := 1

/-- `Addr2` of a frame. -/
def addr2 (frame : Memory) : Address := fun i => frame (10 + i)

/-- Two of the bytes behind the header of a frame. -/
def octets16 (frame : Memory) (offset : Nat) : BitVec 16 :=
  BitVec.ofNat 16 ((frame (24 + offset)).toNat + 256 * (frame (24 + offset + 1)).toNat)

inductive AuthState where
  | authReqIdle
  | authWaitSeq2
  | authWaitSeq4
  deriving DecidableEq, Repr

/-- `MLME_AUTH_REQ_STRUCT`, less the timeout. -/
structure AuthReq where
  addr : Address
  alg : BitVec 16

/-- An element of the queue with the type of its message. -/
inductive AuthElem where
  | mlmeAuthReq (info : AuthReq)
  | peerAuthEven (frame : Memory)
  | authTimeout

/-- What `PeerAuthSanity` takes from a frame. -/
structure PeerAuth where
  addr2 : Address
  alg : BitVec 16
  seq : BitVec 16
  status : BitVec 16

def peerAuth (frame : Memory) : PeerAuth where
  addr2 := addr2 frame
  alg := octets16 frame 0
  seq := octets16 frame 2
  status := octets16 frame 4

/-- What `PeerAuthSanity` returns. -/
def peerAuthSanity (peer : PeerAuth) : Bool :=
  if peer.alg = authModeOpen then peer.seq == 1 || peer.seq == 2
  else if peer.alg = authModeKey then
    if peer.seq = 1 ∨ peer.seq = 4 then true
    else peer.seq == 2 || peer.seq == 3
  else false

theorem addr_pos : 0 < 6 := by decide

def mlmeAuthReqSanity (info : AuthReq) : Bool :=
  (info.alg == authModeKey || info.alg == authModeOpen) && info.addr ⟨0, addr_pos⟩ &&& 1 == 0

/-- Which of the allocations of an action succeed, and what `RTMPSoftEncryptWEP` returns. -/
structure AuthResources where
  outBuffer : Bool
  chlgText : Bool
  cyperChlgText : Bool
  softEncryptWEP : Bool

/-- The machine with its timer, what it reads of `MlmeAux` and `StaCfg`, the queue, and the
requests it has taken and the confirmations it has queued. -/
structure AuthMachine where
  currState : AuthState
  authTimer : Bool
  bssid : Address
  alg : BitVec 16
  bBlockAssoc : Bool
  queue : List AuthElem
  trace : List (Event Unit (BitVec 16))

namespace AuthMachine

def enter (state : AuthState) (s : AuthMachine) : AuthMachine := { s with currState := state }

/-- `MT2_AUTH_CONF` is queued for the control machine. -/
def authConf (status : BitVec 16) (s : AuthMachine) : AuthMachine :=
  { s with trace := s.trace ++ [.confirmed () status] }

def setTimer (running : Bool) (s : AuthMachine) : AuthMachine := { s with authTimer := running }

end AuthMachine

/-- `AUTH_ReqSend`, and what it returns. -/
def authReqSend (r : AuthResources) (info : AuthReq) (s : AuthMachine) : AuthMachine × Bool :=
  if s.bBlockAssoc then
    ((s.enter .authReqIdle).authConf mlmeStateMachineReject, true)
  else if mlmeAuthReqSanity info then
    let s := { s.setTimer false with bssid := info.addr, alg := info.alg }
    if r.outBuffer then (s.setTimer true, true)
    else ((s.enter .authReqIdle).authConf mlmeFailNoResource, false)
  else (s, false)

def mlmeAuthReqAction (r : AuthResources) (info : AuthReq) (s : AuthMachine) : AuthMachine :=
  let sent := authReqSend r info s
  if sent.2 then sent.1.enter .authWaitSeq2
  else (sent.1.enter .authReqIdle).authConf mlmeInvalidFormat

def peerAuthRspAtSeq2Action (r : AuthResources) (frame : Memory) (s : AuthMachine) : AuthMachine :=
  let peer := peerAuth frame
  if !r.chlgText then s
  else if !r.cyperChlgText then s
  else if peerAuthSanity peer then
    if s.bssid = peer.addr2 ∧ peer.seq = 2 then
      let s := s.setTimer false
      if peer.status = mlmeSuccess then
        if s.alg = authModeOpen then (s.enter .authReqIdle).authConf peer.status
        else if !r.outBuffer then (s.enter .authReqIdle).authConf mlmeFailNoResource
        else if !r.softEncryptWEP then (s.enter .authReqIdle).authConf mlmeFailNoResource
        else (s.setTimer true).enter .authWaitSeq4
      else (s.enter .authReqIdle).authConf peer.status
    else s
  else s

def peerAuthRspAtSeq4Action (r : AuthResources) (frame : Memory) (s : AuthMachine) : AuthMachine :=
  let peer := peerAuth frame
  if !r.chlgText then s
  else if peerAuthSanity peer then
    if s.bssid = peer.addr2 ∧ peer.seq = 4 then
      ((s.setTimer false).enter .authReqIdle).authConf peer.status
    else s
  else s

def authTimeoutAction (s : AuthMachine) : AuthMachine :=
  (s.enter .authReqIdle).authConf mlmeRejTimeout

def invalidStateWhenAuth (s : AuthMachine) : AuthMachine :=
  (s.enter .authReqIdle).authConf mlmeStateMachineReject

/-- The actions that `AuthStateMachineInit` sets; the others are `Drop`. -/
def authPerformAction (r : AuthResources) (elem : AuthElem) (s : AuthMachine) : AuthMachine :=
  match s.currState, elem with
  | .authReqIdle, .mlmeAuthReq info => mlmeAuthReqAction r info s
  | .authReqIdle, .peerAuthEven _ => s
  | .authReqIdle, .authTimeout => s
  | .authWaitSeq2, .mlmeAuthReq _ => invalidStateWhenAuth s
  | .authWaitSeq2, .peerAuthEven frame => peerAuthRspAtSeq2Action r frame s
  | .authWaitSeq2, .authTimeout => authTimeoutAction s
  | .authWaitSeq4, .mlmeAuthReq _ => invalidStateWhenAuth s
  | .authWaitSeq4, .peerAuthEven frame => peerAuthRspAtSeq4Action r frame s
  | .authWaitSeq4, .authTimeout => authTimeoutAction s

/-- The element leaves the queue; a request counts as taken from here on. -/
def AuthMachine.dequeue (elem : AuthElem) (rest : List AuthElem) (s : AuthMachine) : AuthMachine :=
  match elem with
  | .mlmeAuthReq _ => { s with queue := rest, trace := s.trace ++ [.taken ()] }
  | _ => { s with queue := rest }

inductive AuthStep where
  /-- `MlmeEnqueue` of `MT2_MLME_AUTH_REQ`. -/
  | request (info : AuthReq)
  /-- An authentication frame is received. -/
  | frame (frame : Memory)
  /-- `AuthTimeout`, when the timer runs. -/
  | expire
  /-- `MlmeHandler` takes the first element. -/
  | perform (resources : AuthResources)
  /-- Other machines write `MlmeAux` and `bBlockAssoc`. -/
  | others (bssid : Address) (alg : BitVec 16) (bBlockAssoc : Bool)

def authStep (s : AuthMachine) : AuthStep → AuthMachine
  | .request info => { s with queue := s.queue ++ [.mlmeAuthReq info] }
  | .frame frame => { s with queue := s.queue ++ [.peerAuthEven frame] }
  | .expire =>
      if s.authTimer then { s.setTimer false with queue := s.queue ++ [.authTimeout] } else s
  | .perform resources =>
      match s.queue with
      | [] => s
      | elem :: rest => authPerformAction resources elem (s.dequeue elem rest)
  | .others bssid alg bBlockAssoc =>
      { s with bssid := bssid, alg := alg, bBlockAssoc := bBlockAssoc }

/-- The machine as `AuthStateMachineInit` leaves it. -/
def authStateMachineInit (bssid : Address) (alg : BitVec 16) (bBlockAssoc : Bool) : AuthMachine where
  currState := .authReqIdle
  authTimer := false
  bssid := bssid
  alg := alg
  bBlockAssoc := bBlockAssoc
  queue := []
  trace := []

end Mt7612u.Sta
