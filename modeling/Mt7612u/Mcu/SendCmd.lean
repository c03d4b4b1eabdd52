import Mt7612u.Mcu.Command

/-! `mt7612u_mcu_send_cmd_msg` for a command that waits for its response: the attempts to send it, and
what is returned after them. -/

namespace Mt7612u.Mcu.SendCmd

abbrev Bytes := List (BitVec 8)

def eintr : Int := 4
def eagain : Int := 11
def etimedout : Int := 110

/-- `FIELD_PREP` for a mask whose lowest bit is at `shift`. -/
def fieldPrep (mask : BitVec 32) (shift : Nat) (value : BitVec 32) : BitVec 32 :=
  (value <<< shift) &&& mask

def roundUp4 (length : Nat) : Nat := (length + 3) / 4 * 4

def putUnalignedLe32 (info : BitVec 32) : Bytes :=
  [info.extractLsb' 0 8, info.extractLsb' 8 8, info.extractLsb' 16 8, info.extractLsb' 24 8]

/-- `mt76u_dma_skb_wrap_cmd`: the TXINFO in front, and zeros behind. -/
def mt76uDmaSkbWrapCmd (skb : Bytes) (seq cmd : BitVec 8) : Bytes :=
  let flags := fieldPrep 0x000f0000 16 (seq.setWidth 32) ||| fieldPrep 0x07f00000 20 (cmd.setWidth 32)
  let info := flags ||| fieldPrep 0x0000ffff 0 (BitVec.ofNat 32 (roundUp4 skb.length)) |||
    fieldPrep 0x38000000 27 2 ||| fieldPrep 0xc0000000 30 1
  let skb := putUnalignedLe32 info ++ skb
  skb ++ List.replicate (roundUp4 skb.length + 4 - skb.length) 0

/-- `USB_END_PADDING`. -/
def usbEndPadding : Nat := 4

/-- What the sender uses of `struct cmd_msg`. -/
structure Msg where
  skb : Bytes
  cmd : BitVec 8
  seq : BitVec 8
  state : CmdMsgState
  needRetransmit : Bool
  retransmitTimes : Int

inductive Outcome where
  /-- The URB is not taken, or it completes with an error. -/
  | kickOutFail
  | timeout
  | acked
  deriving DecidableEq

/-- What is found in one attempt: `NIC_NOT_EXIST` or `SUSPEND` when the message is taken from `txq`,
`MCU_INIT` before the URB is submitted and after the wait, and what came of the URB. -/
structure Attempt where
  gone : Bool
  initAtKick : Bool
  urb : Outcome
  initAtEnd : Bool

/-- The URB is handed to the USB core. -/
def Attempt.submitted (attempt : Attempt) : Bool := !attempt.gone && attempt.initAtKick

/-- Nothing comes of what is not submitted. -/
def Attempt.outcome (attempt : Attempt) : Outcome :=
  if attempt.submitted then attempt.urb else .timeout

/-- A call: the command, the sequence number it is given, what `down_interruptible` returns, and
whether one of the two flags is set before the message is queued. -/
structure Call where
  payload : Bytes
  cmd : BitVec 8
  seq : BitVec 8
  needRetransmit : Bool
  down : Int
  gone : Bool

/-- The sender at the label `retransmit`, or what it has returned, with the bytes that were handed to
the USB core. -/
structure Sending where
  msg : Msg
  ret : Int
  returned : Option Int
  attempts : Nat
  acked : Bool
  sent : List Bytes

/-- `mt7612u_mcu_init_cmd_msg`, and the part before the label. -/
def start (call : Call) : Sending where
  msg := ⟨call.payload, call.cmd, 0, .txStart, call.needRetransmit,
    if call.needRetransmit then cmdMsgRetransmitTimes else 0⟩
  ret := call.down
  returned := if call.gone then some (-eagain) else none
  attempts := 0
  acked := false
  sent := []

/-- `mt7612u_mcu_dequeue_and_kick_out_cmd_msgs` and `usb_kick_out_cmd_msg` for the message: it is
alone in `txq`, and no message is in `ackq`, while its sender holds `mcu_atomic`. -/
def kickOut (msg : Msg) (seq : BitVec 8) (attempt : Attempt) : Msg × List Bytes :=
  if attempt.gone then (msg, [])
  else
    let msg :=
      if msg.state = .txRetransmit then msg
      else { msg with seq := seq, skb := mt76uDmaSkbWrapCmd msg.skb seq msg.cmd }
    let msg :=
      if msg.state = .txRetransmit then msg
      else { msg with skb := msg.skb ++ List.replicate usbEndPadding 0 }
    let msg := { msg with state := .waitCmdOutAndAck }
    (msg, if attempt.initAtKick then [msg.skb] else [])

/-- What the wait ends with: the message, and the return value so far. -/
def settle (msg : Msg) (ret : Int) : Outcome → Msg × Int
  | .timeout =>
      ({ msg with retransmitTimes :=
          if 0 < msg.retransmitTimes then msg.retransmitTimes - 1 else msg.retransmitTimes },
        -etimedout)
  | .kickOutFail =>
      ({ msg with state := .txKickoutFail, retransmitTimes := msg.retransmitTimes - 1 }, ret)
  | .acked => ({ msg with retransmitTimes := 0 }, ret)

/-- The message is sent again. -/
def again (msg : Msg) (attempt : Attempt) : Bool :=
  attempt.initAtEnd && msg.needRetransmit && decide (0 < msg.retransmitTimes)

/-- From the label to the jump back to it, or to the end. -/
def round (call : Call) (s : Sending) (attempt : Attempt) : Sending :=
  match s.returned with
  | some _ => s
  | none =>
      let (msg, bytes) := kickOut s.msg call.seq attempt
      let (msg, ret) := settle msg s.ret attempt.outcome
      { msg := if again msg attempt then { msg with state := .txRetransmit } else msg
        ret := ret
        returned := if again msg attempt then none else some ret
        attempts := s.attempts + 1
        acked := s.acked || decide (attempt.outcome = .acked)
        sent := s.sent ++ bytes }

/-- The sender after some rounds. -/
def rounds (call : Call) (attempt : Nat → Attempt) : Nat → Sending
  | 0 => start call
  | n + 1 => round call (rounds call attempt n) (attempt n)

/-- The number of attempts that the caller may expect. -/
def mostAttempts : Nat := 1 + cmdMsgRetransmitTimes

/-- The bytes of the command: TXINFO, payload and zeros, with the padding of `usb_kick_out_cmd_msg`
behind. -/
def Call.wrapped (call : Call) : Bytes :=
  mt76uDmaSkbWrapCmd call.payload call.seq call.cmd ++ List.replicate usbEndPadding 0

/-- Success is returned exactly when an attempt was acknowledged, after no more attempts than are
expected, with a counter that stays at zero or above, and every attempt sends the same bytes. -/
structure Truthful (call : Call) (attempt : Nat → Attempt) : Prop where
  verdict : ∃ ret, (rounds call attempt mostAttempts).returned = some ret ∧
    (ret = 0 ↔ (rounds call attempt mostAttempts).acked = true)
  attempts : (rounds call attempt mostAttempts).attempts ≤ mostAttempts
  times : ∀ n, 0 ≤ (rounds call attempt n).msg.retransmitTimes
  bytes : ∀ bytes ∈ (rounds call attempt mostAttempts).sent, bytes = call.wrapped

/-- The attempt is made: none before it is acknowledged or the last one. -/
def made (call : Call) (attempt : Nat → Attempt) : Nat → Prop
  | 0 => call.gone = false
  | n + 1 => made call attempt n ∧ call.needRetransmit = true ∧ (attempt n).outcome ≠ .acked ∧
      (attempt n).initAtEnd = true ∧ n + 1 < cmdMsgRetransmitTimes

/-- Some attempt of the first ones has this outcome. -/
def Comes (call : Call) (attempt : Nat → Attempt) (count : Nat) (outcome : Outcome) : Prop :=
  ∃ n < count, made call attempt n ∧ (attempt n).outcome = outcome

section Rounds
variable {call : Call} {attempt : Nat → Attempt}

theorem made_bound {n : Nat} (here : made call attempt n) : n < cmdMsgRetransmitTimes := by
  cases n with
  | zero => decide
  | succ n => exact here.2.2.2.2

theorem made_first {n : Nat} (here : made call attempt n) : made call attempt 0 := by
  induction n with
  | zero => exact here
  | succ n ih => exact ih here.1

theorem comes_succ {count : Nat} {outcome : Outcome} :
    Comes call attempt (count + 1) outcome ↔
      Comes call attempt count outcome ∨
        made call attempt count ∧ (attempt count).outcome = outcome := by
  constructor
  · intro ⟨n, below, here⟩
    rcases Nat.lt_succ_iff_lt_or_eq.mp below with earlier | rfl
    · exact Or.inl ⟨n, earlier, here⟩
    · exact Or.inr here
  · intro either
    rcases either with ⟨n, earlier, here⟩ | here
    · exact ⟨n, Nat.lt_succ_of_lt earlier, here⟩
    · exact ⟨count, Nat.lt_succ_self count, here⟩

/-- What stands in the message while the sender goes on. -/
structure Running (call : Call) (attempt : Nat → Attempt) (n : Nat) (msg : Msg) : Prop where
  times : msg.retransmitTimes =
    if call.needRetransmit then (cmdMsgRetransmitTimes : Int) - n else 0
  state : msg.state = if n = 0 then .txStart else .txRetransmit
  cmd : msg.cmd = call.cmd
  skb : msg.skb = if n = 0 ∨ (attempt 0).gone = true then call.payload else call.wrapped

/-- What is known after `n` rounds. -/
structure After (call : Call) (attempt : Nat → Attempt) (n : Nat) (s : Sending) : Prop where
  running : s.returned = none ↔ made call attempt n
  needRetransmit : s.msg.needRetransmit = call.needRetransmit
  going : made call attempt n → Running call attempt n s.msg
  late : Comes call attempt n .timeout → s.ret = -etimedout
  early : ¬Comes call attempt n .timeout → s.ret = call.down
  refused : call.gone = true → s.returned = some (-eagain)
  returned : call.gone = false → ∀ ret, s.returned = some ret → ret = s.ret
  acked : s.acked = true ↔ Comes call attempt n .acked
  attempts : s.attempts ≤ n
  times : 0 ≤ s.msg.retransmitTimes ↔ call.needRetransmit = true ∨
    ¬(0 < n ∧ made call attempt 0 ∧ (attempt 0).outcome = .kickOutFail)
  sent : ∀ bytes, bytes ∈ s.sent ↔ ∃ m < n, made call attempt m ∧ (attempt m).submitted = true ∧
    bytes = if (attempt 0).gone then call.payload else call.wrapped

theorem start_after : After call attempt 0 (start call) := by
  have none_comes : ∀ outcome, ¬Comes call attempt 0 outcome :=
    fun outcome ⟨n, below, _⟩ => Nat.not_lt_zero n below
  exact {
    running := by
      unfold start made
      cases call.gone <;> simp
    needRetransmit := rfl
    going := fun _ => ⟨by simp [start], rfl, rfl, rfl⟩
    late := fun comes => absurd comes (none_comes _)
    early := fun _ => rfl
    refused := fun gone => by simp [start, gone]
    returned := fun gone ret found => by simp [start, gone] at found
    acked := iff_of_false Bool.false_ne_true (none_comes _)
    attempts := le_refl 0
    times := by
      unfold start
      cases call.needRetransmit <;> simp [cmdMsgRetransmitTimes]
    sent := by simp [start] }

/-- The message is wrapped in the first attempt, unless that finds the device gone. -/
theorem kickOut_running {n : Nat} {msg : Msg} (running : Running call attempt n msg) :
    ((kickOut msg call.seq (attempt n)).1.retransmitTimes = msg.retransmitTimes ∧
        (kickOut msg call.seq (attempt n)).1.needRetransmit = msg.needRetransmit ∧
        (kickOut msg call.seq (attempt n)).1.cmd = msg.cmd) ∧
      (kickOut msg call.seq (attempt n)).1.skb =
        (if (attempt 0).gone then call.payload else call.wrapped) ∧
      (kickOut msg call.seq (attempt n)).2 =
        if (attempt n).submitted then [if (attempt 0).gone then call.payload else call.wrapped]
        else [] := by
  unfold kickOut Attempt.submitted
  cases gone : (attempt n).gone with
  | true =>
    refine ⟨⟨rfl, rfl, rfl⟩, ?_, rfl⟩
    simp only [if_true]
    rw [running.skb]
    cases n with
    | zero => simp only [gone, true_or, if_true]
    | succ n => simp
  | false =>
    cases n with
    | zero =>
      have first : msg.state = .txStart := running.state
      have skb : msg.skb = call.payload := running.skb
      have wrap : mt76uDmaSkbWrapCmd msg.skb call.seq msg.cmd ++ List.replicate usbEndPadding 0 =
          call.wrapped := by
        rw [skb, running.cmd]
        rfl
      simp only [first, reduceCtorEq, if_false, wrap, gone, Bool.false_eq_true, Bool.not_false,
        Bool.true_and, and_self]
    | succ n =>
      have later : msg.state = .txRetransmit := running.state
      have skb := running.skb
      simp only [Nat.add_eq_zero_iff, one_ne_zero, and_false, false_or] at skb
      simp [later, skb]

theorem settle_times {n : Nat} (msg : Msg) (ret : Int) (outcome : Outcome)
    (times : msg.retransmitTimes =
      if call.needRetransmit then (cmdMsgRetransmitTimes : Int) - n else 0)
    (below : n < cmdMsgRetransmitTimes) :
    (settle msg ret outcome).1.retransmitTimes =
      match outcome with
      | .timeout => if call.needRetransmit then (cmdMsgRetransmitTimes : Int) - (n + 1) else 0
      | .kickOutFail =>
          if call.needRetransmit then (cmdMsgRetransmitTimes : Int) - (n + 1) else -1
      | .acked => 0 := by
  cases outcome with
  | timeout =>
    simp only [settle, times]
    cases call.needRetransmit
    · simp
    · simp only [if_true]
      rw [if_pos (by omega)]
      omega
  | kickOutFail =>
    simp only [settle, times]
    cases call.needRetransmit
    · simp
    · simp only [if_true]
      omega
  | acked => rfl

theorem settle_kept (msg : Msg) (ret : Int) (outcome : Outcome) :
    (settle msg ret outcome).1.needRetransmit = msg.needRetransmit ∧
      (settle msg ret outcome).1.cmd = msg.cmd ∧ (settle msg ret outcome).1.skb = msg.skb ∧
      (settle msg ret outcome).2 = if outcome = .timeout then -etimedout else ret := by
  cases outcome <;> exact ⟨rfl, rfl, rfl, rfl⟩

/-- A round that follows is the attempt made after this one. -/
theorem again_iff {n : Nat} {msg : Msg} {ret : Int} (here : made call attempt n)
    (times : msg.retransmitTimes =
      if call.needRetransmit then (cmdMsgRetransmitTimes : Int) - n else 0)
    (same : msg.needRetransmit = call.needRetransmit) :
    again (settle msg ret (attempt n).outcome).1 (attempt n) = true ↔
      made call attempt (n + 1) := by
  have below := made_bound here
  have left := settle_times msg ret (attempt n).outcome times below
  have kept := (settle_kept msg ret (attempt n).outcome).1
  unfold again made
  rw [kept, same, left]
  cases call.needRetransmit with
  | false => simp
  | true =>
    simp only [Bool.and_true, Bool.and_eq_true, decide_eq_true_eq, if_true, here, true_and]
    cases (attempt n).outcome with
    | acked => simp
    | timeout =>
      simp only [ne_eq, reduceCtorEq, not_false_eq_true, true_and]
      exact and_congr_right fun _ => by omega
    | kickOutFail =>
      simp only [ne_eq, reduceCtorEq, not_false_eq_true, true_and]
      exact and_congr_right fun _ => by omega

/-- What one round does while the sender goes on. -/
theorem round_running {s : Sending} {n : Nat} (after : After call attempt n s)
    (here : made call attempt n) : After call attempt (n + 1) (round call s (attempt n)) := by
  have none_yet := after.running.mpr here
  have running := after.going here
  have entered : call.gone = false := made_first here
  have below := made_bound here
  obtain ⟨⟨keptTimes, keptFlag, keptCmd⟩, skb, bytes⟩ := kickOut_running running
  have unfolded : round call s (attempt n) =
      let kicked := kickOut s.msg call.seq (attempt n)
      let settled := settle kicked.1 s.ret (attempt n).outcome
      { msg := if again settled.1 (attempt n) then { settled.1 with state := .txRetransmit }
          else settled.1
        ret := settled.2
        returned := if again settled.1 (attempt n) then none else some settled.2
        attempts := s.attempts + 1
        acked := s.acked || decide ((attempt n).outcome = .acked)
        sent := s.sent ++ kicked.2 } := by
    unfold round
    rw [none_yet]
  revert keptTimes keptFlag keptCmd skb bytes unfolded
  generalize kickOut s.msg call.seq (attempt n) = kicked
  intro keptTimes keptFlag keptCmd skb bytes unfolded
  obtain ⟨message, handed⟩ := kicked
  simp only at keptTimes keptFlag keptCmd skb bytes unfolded
  have times := keptTimes.trans running.times
  have flag := keptFlag.trans after.needRetransmit
  obtain ⟨settledFlag, settledCmd, settledSkb, settledRet⟩ :=
    settle_kept message s.ret (attempt n).outcome
  have left := settle_times message s.ret (attempt n).outcome times below
  have next := @again_iff call attempt n message s.ret here times flag
  revert unfolded settledFlag settledCmd settledSkb settledRet left next
  generalize settle message s.ret (attempt n).outcome = settled
  intro unfolded settledFlag settledCmd settledSkb settledRet left next
  obtain ⟨msg, ret⟩ := settled
  simp only at settledFlag settledCmd settledSkb settledRet left next unfolded
  have sameTimes : (round call s (attempt n)).msg.retransmitTimes = msg.retransmitTimes := by
    rw [unfolded]
    simp only
    split <;> rfl
  exact {
    running := by
      rw [unfolded, ← next]
      simp only
      split
      next sends => exact iff_of_true rfl sends
      next ends => exact iff_of_false (by simp) ends
    needRetransmit := by
      rw [unfolded, ← flag, ← settledFlag]
      simp only
      split <;> rfl
    going := by
      intro later
      rw [unfolded, if_pos (next.mpr later)]
      have repeats := later.2.1
      have unacked := later.2.2.1
      refine ⟨?_, rfl, settledCmd.trans (keptCmd.trans running.cmd), ?_⟩
      · simp only [repeats, if_true] at left ⊢
        rw [left]
        cases outcome : (attempt n).outcome with
        | acked => exact absurd outcome unacked
        | timeout => simp only [Nat.cast_add, Nat.cast_one]
        | kickOutFail => simp only [Nat.cast_add, Nat.cast_one]
      · rw [settledSkb, skb]
        simp only [Nat.add_eq_zero_iff, one_ne_zero, and_false, false_or]
    late := by
      intro comes
      rw [unfolded]
      simp only [settledRet]
      rcases comes_succ.mp comes with before | now
      · rw [after.late before, ite_self]
      · rw [if_pos now.2]
    early := by
      intro never
      rw [comes_succ, not_or] at never
      rw [unfolded]
      simp only [settledRet]
      rw [if_neg fun now => never.2 ⟨here, now⟩, after.early never.1]
    refused := by
      intro gone
      rw [entered] at gone
      cases gone
    returned := by
      intro _ value found
      rw [unfolded] at found ⊢
      simp only at found ⊢
      split at found
      next => cases found
      next => exact (Option.some.inj found).symm
    acked := by
      rw [unfolded, comes_succ, ← after.acked]
      simp [here]
    attempts := by
      rw [unfolded]
      exact Nat.succ_le_succ after.attempts
    times := by
      rw [sameTimes, left]
      cases repeats : call.needRetransmit with
      | true =>
        apply iff_of_true _ (Or.inl rfl)
        cases (attempt n).outcome with
        | acked => exact le_refl 0
        | timeout => simp only [if_true]; omega
        | kickOutFail => simp only [if_true]; omega
      | false =>
        cases n with
        | succ m => exact absurd (here.2.1.symm.trans repeats) (by decide)
        | zero =>
          cases outcome : (attempt 0).outcome with
          | acked => simp
          | timeout => simp
          | kickOutFail => simpa using here
    sent := by
      intro found
      rw [unfolded, List.mem_append, after.sent, bytes]
      constructor
      · intro either
        rcases either with ⟨m, earlier, rest⟩ | now
        · exact ⟨m, Nat.lt_succ_of_lt earlier, rest⟩
        · split at now
          next submitted =>
            exact ⟨n, Nat.lt_succ_self n, here, submitted, List.mem_singleton.mp now⟩
          next => exact absurd now List.not_mem_nil
      · intro ⟨m, earlier, made_m, submitted, same⟩
        rcases Nat.lt_succ_iff_lt_or_eq.mp earlier with before | rfl
        · exact Or.inl ⟨m, before, made_m, submitted, same⟩
        · rw [if_pos submitted]
          exact Or.inr (List.mem_singleton.mpr same) }

/-- A sender that has returned does nothing more. -/
theorem round_returned {s : Sending} {n : Nat} (after : After call attempt n s)
    (ended : ¬made call attempt n) : After call attempt (n + 1) (round call s (attempt n)) := by
  have stays : round call s (attempt n) = s := by
    unfold round
    cases found : s.returned with
    | none => exact absurd (after.running.mp found) ended
    | some ret => rfl
  have no_more : ¬made call attempt (n + 1) := fun later => ended later.1
  have comes : ∀ outcome, Comes call attempt (n + 1) outcome ↔ Comes call attempt n outcome := by
    intro outcome
    rw [comes_succ]
    exact or_iff_left fun now => ended now.1
  rw [stays]
  exact {
    running := iff_of_false (fun found => ended (after.running.mp found)) no_more
    needRetransmit := after.needRetransmit
    going := fun later => absurd later no_more
    late := fun late => after.late ((comes _).mp late)
    early := fun never => after.early fun before => never ((comes _).mpr before)
    refused := after.refused
    returned := after.returned
    acked := after.acked.trans (comes _).symm
    attempts := Nat.le_succ_of_le after.attempts
    times := by
      rw [after.times]
      cases n with
      | zero => simp [ended]
      | succ m => simp
    sent := by
      intro bytes
      rw [after.sent]
      constructor
      · intro ⟨m, earlier, rest⟩
        exact ⟨m, Nat.lt_succ_of_lt earlier, rest⟩
      · intro ⟨m, earlier, made_m, rest⟩
        rcases Nat.lt_succ_iff_lt_or_eq.mp earlier with before | rfl
        · exact ⟨m, before, made_m, rest⟩
        · exact absurd made_m ended }

theorem rounds_after (n : Nat) : After call attempt n (rounds call attempt n) := by
  induction n with
  | zero => exact start_after
  | succ n ih =>
    by_cases here : made call attempt n
    · exact round_running ih here
    · exact round_returned ih here

theorem wrapped_ne_payload : call.wrapped ≠ call.payload := by
  intro same
  have lengths := congrArg List.length same
  unfold Call.wrapped mt76uDmaSkbWrapCmd putUnalignedLe32 at lengths
  simp only [List.length_append, List.length_cons, List.length_nil, List.length_replicate] at lengths
  omega

theorem comes_mono {count more : Nat} {outcome : Outcome} (fewer : count ≤ more)
    (all : cmdMsgRetransmitTimes ≤ count) :
    Comes call attempt more outcome ↔ Comes call attempt count outcome := by
  constructor
  · intro ⟨n, _, here, same⟩
    exact ⟨n, (made_bound here).trans_le all, here, same⟩
  · intro ⟨n, below, rest⟩
    exact ⟨n, below.trans_le fewer, rest⟩

end Rounds

/-- What is returned is true exactly when an attempt is acknowledged if and only if none times out
and the semaphore was taken; the counter stays in range unless a command without retransmission is not
kicked out; and the bytes are the same unless the first attempt finds the device gone and a later one
does not. -/
theorem truthful_iff (call : Call) (attempt : Nat → Attempt) :
    Truthful call attempt ↔
      (call.gone = true ∨ (Comes call attempt cmdMsgRetransmitTimes .acked ↔
        call.down = 0 ∧ ¬Comes call attempt cmdMsgRetransmitTimes .timeout)) ∧
      (call.needRetransmit = true ∨ ¬(made call attempt 0 ∧ (attempt 0).outcome = .kickOutFail)) ∧
      ((attempt 0).gone = true → ∀ n, made call attempt n → (attempt n).submitted = false) := by
  have after := @rounds_after call attempt mostAttempts
  have comes : ∀ outcome, Comes call attempt mostAttempts outcome ↔
      Comes call attempt cmdMsgRetransmitTimes outcome :=
    fun outcome => comes_mono (by decide) le_rfl
  have ended : ¬made call attempt mostAttempts := fun here => absurd (made_bound here) (by decide)
  obtain ⟨ret, returned⟩ : ∃ ret, (rounds call attempt mostAttempts).returned = some ret :=
    Option.ne_none_iff_exists'.mp fun none_yet => ended (after.running.mp none_yet)
  have verdict : (ret = 0 ↔ (rounds call attempt mostAttempts).acked = true) ↔
      (call.gone = true ∨ (Comes call attempt cmdMsgRetransmitTimes .acked ↔
        call.down = 0 ∧ ¬Comes call attempt cmdMsgRetransmitTimes .timeout)) := by
    rw [after.acked, comes]
    cases gone : call.gone with
    | true =>
      have refused := Option.some.inj (returned.symm.trans (after.refused gone))
      have never : ¬Comes call attempt cmdMsgRetransmitTimes .acked := by
        intro ⟨n, _, here, _⟩
        have entered : call.gone = false := made_first here
        rw [gone] at entered
        cases entered
      apply iff_of_true _ (Or.inl rfl)
      apply iff_of_false _ never
      rw [refused]
      decide
    | false =>
      have same := after.returned gone ret returned
      simp only [Bool.false_eq_true, false_or]
      by_cases late : Comes call attempt cmdMsgRetransmitTimes .timeout
      · have failed : ret ≠ 0 := by
          rw [same, after.late ((comes _).mpr late)]
          decide
        simp only [failed, late, not_true_eq_false, and_false, false_iff, iff_false]
      · rw [same, after.early fun before => late ((comes _).mp before)]
        simp only [late, not_false_eq_true, and_true]
        exact Iff.comm
  have counter : (∀ n, 0 ≤ (rounds call attempt n).msg.retransmitTimes) ↔
      (call.needRetransmit = true ∨
        ¬(made call attempt 0 ∧ (attempt 0).outcome = .kickOutFail)) := by
    constructor
    · intro always
      have first := (@rounds_after call attempt 1).times.mp (always 1)
      simpa using first
    · intro condition n
      apply (@rounds_after call attempt n).times.mpr
      exact condition.imp_right fun never held => never held.2
  have sent : (∀ bytes ∈ (rounds call attempt mostAttempts).sent, bytes = call.wrapped) ↔
      ((attempt 0).gone = true → ∀ n, made call attempt n → (attempt n).submitted = false) := by
    constructor
    · intro same gone n here
      by_contra submitted
      have below : n < mostAttempts := (made_bound here).trans (by decide)
      have raw := same call.payload ((after.sent call.payload).mpr
        ⟨n, below, here, Bool.eq_true_of_not_eq_false submitted, by rw [gone, if_pos rfl]⟩)
      exact wrapped_ne_payload raw.symm
    · intro condition bytes found
      obtain ⟨n, _, here, submitted, rfl⟩ := (after.sent bytes).mp found
      split
      next gone =>
        rw [condition gone n here] at submitted
        cases submitted
      next => rfl
  constructor
  · intro truthful
    obtain ⟨ret', returned', right⟩ := truthful.verdict
    obtain rfl := Option.some.inj (returned.symm.trans returned')
    exact ⟨verdict.mp right, counter.mp truthful.times, sent.mp truthful.bytes⟩
  · intro ⟨right, times, bytes⟩
    exact ⟨⟨ret, returned, verdict.mpr right⟩, after.attempts, counter.mpr times, sent.mpr bytes⟩

/-- A calibration command whose URB fails in every attempt. -/
def calibration : Call := ⟨[1, 0, 0, 0], 31, 1, true, 0, false⟩

theorem not_truthful : ¬∀ (call : Call) (attempt : Nat → Attempt), Truthful call attempt := by
  intro always
  obtain ⟨ret, returned, right⟩ :=
    (always calibration fun _ => ⟨false, true, .kickOutFail, true⟩).verdict
  have zero : ret = 0 := Option.some.inj (returned.symm.trans (by decide))
  exact absurd (right.mp zero) (by decide)

end Mt7612u.Mcu.SendCmd
