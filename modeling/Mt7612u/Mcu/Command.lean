import Mt7612u.Library.Ownership
import Mt7612u.Library.Run

/-! The commands to the MCU, `mcu_and.c`. A message is on its way through the queues `txq`, `kickq`
and `ackq`; the thread that sends it, the completion of its URB and the handler of responses take it
out of them and free it. Each of these is one step. -/

namespace Mt7612u.Mcu
open Library.Ownership Library.Run

/-- The values of `enum cmd_msg_state` that a message to the MCU comes to. -/
inductive CmdMsgState where
  | txStart
  | txKickoutFail
  | txRetransmit
  | waitCmdOut
  | waitCmdOutAndAck
  | waitAck
  deriving DecidableEq, Repr

/-- `struct cmd_msg`. The driver's commands have `need_wait`, `need_retransmit` and `need_rsp` all set
or none of them. -/
structure CmdMsg where
  needRsp : Bool
  state : CmdMsgState
  seq : Nat
  /-- `complete(&msg->ack_done)` was called. -/
  ackDone : Bool
  retransmitTimes : Nat
  /-- The USB core has the URB. -/
  submitted : Bool

/-- `CMD_MSG_RETRANSMIT_TIMES`. -/
def cmdMsgRetransmitTimes : Nat := 3

/-- Where the thread is that holds `mcu_atomic`. -/
inductive Sender where
  | none
  /-- In `mt7612u_mcu_dequeue_and_kick_out_cmd_msgs`, with its copy of `need_wait`. -/
  | kicking (msg : Nat) (needWait : Bool)
  | waiting (msg : Nat)
  deriving DecidableEq

/-- What is done with a message. -/
inductive Touch where
  | use (msg : Nat)
  | free (msg : Nat)
  deriving DecidableEq

def Touch.about : Touch → Nat
  | .use msg => msg
  | .free msg => msg

/-- `struct mt7612u_mcu_ctrl`, with the messages by their numbers, how many there were so far, and what
was done with them. -/
structure McuCtrl where
  msg : Nat → CmdMsg
  txq : List Nat
  kickq : List Nat
  ackq : List Nat
  /-- `MCU_INIT`. -/
  mcuInit : Bool
  cmdSeq : Nat
  sender : Sender
  sent : Nat
  log : List Touch

namespace McuCtrl

/-- The state after `mt7612u_mcu_ctrl_usb_init`. -/
def usbInit : McuCtrl where
  msg := fun _ => ⟨false, .txStart, 0, false, 0, false⟩
  txq := []
  kickq := []
  ackq := []
  mcuInit := true
  cmdSeq := 0
  sender := .none
  sent := 0
  log := []

def setMsg (ctl : McuCtrl) (m : Nat) (msg : CmdMsg) : McuCtrl :=
  { ctl with msg := Function.update ctl.msg m msg }

def use (ctl : McuCtrl) (m : Nat) : McuCtrl := { ctl with log := ctl.log ++ [.use m] }

/-- `mt7612u_mcu_free_cmd_msg`. -/
def freeCmdMsg (ctl : McuCtrl) (m : Nat) : McuCtrl := { ctl with log := ctl.log ++ [.free m] }

/-- `mt7612u_mcu_get_cmd_msg_seq`. The queue `ackq` was found empty before, so that no number is in
use. -/
def getCmdMsgSeq (ctl : McuCtrl) : Nat := if 15 ≤ ctl.cmdSeq then 1 else ctl.cmdSeq + 1

/-- What follows when a message could not be sent, in `usb_kick_out_cmd_msg` and in its completion. -/
def kickOutFail (ctl : McuCtrl) (m : Nat) : McuCtrl :=
  if (ctl.msg m).needRsp then
    { ctl.setMsg m { ctl.msg m with state := .txKickoutFail, ackDone := true } with
      ackq := ctl.ackq.erase m }
  else { ctl with kickq := ctl.kickq.erase m }.freeCmdMsg m

/-- `usb_kick_out_cmd_msg`, and whether it succeeds. -/
def usbKickOutCmdMsg (ctl : McuCtrl) (m : Nat) (submits : Bool) : Bool × McuCtrl :=
  let ctl := ctl.use m
  let ctl :=
    if (ctl.msg m).needRsp then
      { ctl.setMsg m { ctl.msg m with state := .waitCmdOutAndAck } with ackq := ctl.ackq ++ [m] }
    else { ctl.setMsg m { ctl.msg m with state := .waitCmdOut } with kickq := ctl.kickq ++ [m] }
  if !ctl.mcuInit then (false, ctl)
  else if submits then (true, ctl.setMsg m { ctl.msg m with submitted := true })
  else (false, ctl.kickOutFail m)

/-- The loop is left: the sender waits for the response, or it is done. -/
def leave (ctl : McuCtrl) (m : Nat) (needWait : Bool) : McuCtrl :=
  { ctl with sender := if needWait then .waiting m else .none }

/-- One round of `mt7612u_mcu_dequeue_and_kick_out_cmd_msgs`. `gone` is whether one of
`NIC_NOT_EXIST` and `SUSPEND` is set. -/
def dequeueAndKickOut (ctl : McuCtrl) (m : Nat) (needWait gone submits : Bool) : McuCtrl :=
  match ctl.txq with
  | [] => ctl.leave m needWait
  | first :: rest =>
      let ctl := { ctl with txq := rest }.use first
      if gone then
        if (ctl.msg first).needRsp then ctl else ctl.freeCmdMsg first
      else if ctl.ackq ≠ [] then { ctl with txq := first :: rest }
      else
        let ctl :=
          if (ctl.msg first).state = .txRetransmit then ctl
          else if (ctl.msg first).needRsp then
            { ctl.setMsg first { ctl.msg first with seq := ctl.getCmdMsgSeq } with
              cmdSeq := ctl.getCmdMsgSeq }
          else ctl.setMsg first { ctl.msg first with seq := 0 }
        match ctl.usbKickOutCmdMsg first submits with
        | (true, ctl) => ctl
        | (false, ctl) => ctl.leave m needWait

/-- `mt7612u_mcu_send_cmd_msg` for a new message, up to the first round of the loop. -/
def sendCmdMsg (ctl : McuCtrl) (needRsp gone : Bool) : McuCtrl :=
  let m := ctl.sent
  let ctl := { ctl.setMsg m ⟨needRsp, .txStart, 0, false,
    if needRsp then cmdMsgRetransmitTimes else 0, false⟩ with sent := m + 1 }
  if gone then ctl.freeCmdMsg m
  else { ctl.use m with txq := ctl.txq ++ [m], sender := .kicking m needRsp }

/-- `usb_kick_out_cmd_msg_complete`. -/
def kickOutComplete (ctl : McuCtrl) (m : Nat) (failed : Bool) : McuCtrl :=
  let ctl := (ctl.setMsg m { ctl.msg m with submitted := false }).use m
  if !ctl.mcuInit then ctl
  else if failed then ctl.kickOutFail m
  else if (ctl.msg m).needRsp then ctl.setMsg m { ctl.msg m with state := .waitAck }
  else { ctl with kickq := ctl.kickq.erase m }.freeCmdMsg m

/-- `mt7612u_mcu_rx_process_cmd_msg` for a response. It walks along `ackq` up to the message. -/
def rxProcessCmdMsg (ctl : McuCtrl) (seq : Nat) : McuCtrl :=
  let walked := ctl.ackq.takeWhile fun m => (ctl.msg m).seq ≠ seq
  let ctl := { ctl with log := ctl.log ++ walked.map .use }
  match ctl.ackq.find? fun m => (ctl.msg m).seq = seq with
  | none => ctl
  | some m =>
      let ctl := { ctl.use m with ackq := ctl.ackq.erase m }
      if (ctl.msg m).needRsp then ctl.setMsg m { ctl.msg m with ackDone := true }
      else ctl.freeCmdMsg m

/-- What the sender does with its message after it has waited. -/
def finish (ctl : McuCtrl) (m : Nat) (retransmitTimes : Nat) : McuCtrl :=
  let ctl := ctl.use m
  if ctl.mcuInit ∧ (ctl.msg m).needRsp ∧ 0 < retransmitTimes then
    { ctl.setMsg m { ctl.msg m with
        state := .txRetransmit, ackDone := false, retransmitTimes := retransmitTimes } with
      txq := m :: ctl.txq
      sender := .kicking m true }
  else { ctl.freeCmdMsg m with sender := .none }

/-- The sender has waited for too long. `usb_kill_urb` lets the URB complete with an error. -/
def timeout (ctl : McuCtrl) (m : Nat) : McuCtrl :=
  let ctl := ctl.use m
  let ctl :=
    if ctl.mcuInit then
      match (ctl.msg m).state with
      | .waitCmdOutAndAck => if (ctl.msg m).submitted then ctl.kickOutComplete m true else ctl
      | .waitAck => { ctl with ackq := ctl.ackq.erase m }
      | _ => ctl
    else ctl
  ctl.finish m ((ctl.msg m).retransmitTimes - 1)

/-- The sender is woken by `ack_done`. -/
def wake (ctl : McuCtrl) (m : Nat) : McuCtrl :=
  let ctl := ctl.use m
  ctl.finish m (if (ctl.msg m).state = .txKickoutFail then (ctl.msg m).retransmitTimes - 1 else 0)

end McuCtrl

/-- A step. -/
inductive McuEvent where
  | send (needRsp gone : Bool)
  | kickOut (gone submits : Bool)
  | complete (msg : Nat) (failed : Bool)
  | response (seq : Nat)
  | timeout
  | wake
  | clearInit

/-- One thread sends at a time, a URB that the USB core has completes, and the sender waits until it
is woken or too long. -/
def mcuStep (ctl : McuCtrl) : McuEvent → McuCtrl
  | .send needRsp gone =>
      match ctl.sender with
      | .none => ctl.sendCmdMsg needRsp gone
      | _ => ctl
  | .kickOut gone submits =>
      match ctl.sender with
      | .kicking m needWait => ctl.dequeueAndKickOut m needWait gone submits
      | _ => ctl
  | .complete m failed => if (ctl.msg m).submitted then ctl.kickOutComplete m failed else ctl
  | .response seq => ctl.rxProcessCmdMsg seq
  | .timeout =>
      match ctl.sender with
      | .waiting m => if (ctl.msg m).ackDone then ctl else ctl.timeout m
      | _ => ctl
  | .wake =>
      match ctl.sender with
      | .waiting m => if (ctl.msg m).ackDone then ctl.wake m else ctl
      | _ => ctl
  | .clearInit => { ctl with mcuInit := false }

namespace McuCtrl

/-- The message is in a queue, or its sender still has it. -/
def Outstanding (ctl : McuCtrl) (m : Nat) : Prop :=
  m ∈ ctl.txq ∨ m ∈ ctl.kickq ∨ m ∈ ctl.ackq ∨ ctl.sender = .waiting m ∨ ctl.sender = .kicking m true

instance (ctl : McuCtrl) (m : Nat) : Decidable (ctl.Outstanding m) :=
  inferInstanceAs (Decidable (_ ∨ _))

/-- A message is in one queue at most, it is freed once when it is no longer outstanding and not
before, and nothing is done with it after that. -/
structure Owned (ctl : McuCtrl) : Prop where
  atMostOne : ∀ m, ctl.txq.count m + ctl.kickq.count m + ctl.ackq.count m ≤ 1
  freedOnce : ∀ m, m < ctl.sent →
    ctl.log.count (.free m) = if ctl.Outstanding m then 0 else 1
  safe : Safe Touch.about Touch.free ctl.log

/-- While `MCU_INIT` is cleared no message is sent, it is cleared while no message waits for its URB
or its response, the sender goes on behind the completion of its URB, and the URB of a message that
was answered does not fail. -/
def Clean (ctl : McuCtrl) : McuEvent → Prop
  | .kickOut gone _ => ctl.mcuInit = true ∨ gone = true ∨ ctl.txq = []
  | .complete m failed => failed = true → m ∈ ctl.kickq ∨ m ∈ ctl.ackq
  | .wake => ∀ m, ctl.sender = .waiting m → (ctl.msg m).submitted = false
  | .clearInit => ctl.kickq = [] ∧ ctl.ackq = []
  | _ => True

end McuCtrl

end Mt7612u.Mcu
