import Mt7612u.BlockAck.ActionFrames

/-! `PeerPublicAction` of `action.c` for a 20/40 BSS coexistence frame: the state it writes, and on
which bytes of the buffer that depends. -/

namespace Mt7612u.Mlme
open BlockAck (MlmeQueueElem OpMode maxLenOfMacTable)
open Receive (Memory)

def actionBss2040Coexist : UInt8 := 0
def sizeofBss2040CoexistElement : Nat := 3
def sizeofBss2040IntolerantChReport : Nat := 3

/-- `Intolerant40` and `BSS20WidthReq` of `BSS_2040_COEXIST_IE`. -/
def fallBackBits : UInt8 := 6

def infoReqBit : UInt8 := 1

/-- What the handler starts. -/
inductive CoexEffect where
  | setTimer (delay : Nat)
  | modTimer (delay : Nat)
  /-- `SendBSS2040CoexistMgmtAction` with the octet it announces. -/
  | sendCoexistMgmt (apidx : Nat) (coexist : UInt8)
  /-- `MT2_MLME_SCAN_REQ` of `SCAN_2040_BSS_COEXIST`. -/
  | scanReq

structure TriggerEventTab where
  eventANo : UInt8
  eventAValid : Nat → Bool
  eventBCountDown : Nat

/-- What the handler reads and writes of the adapter, and what it has started. -/
structure CoexAdapter where
  opMode : OpMode
  infraOn : Bool
  /-- `fOP_STATUS_SCAN_2040`. -/
  scan2040 : Bool
  bBssCoexEnable : Bool
  bFortyMhzIntolerant : Bool
  channel : UInt8
  /-- `EXTCHA` is `EXTCHA_ABOVE`. -/
  extchaAbove : Bool
  channelList : Nat → UInt8
  channelListNum : Nat
  bssidNum : Nat
  dot11BssWidthChanTranDelay : Nat
  lastBssCoexist2040 : UInt8
  /-- `BSS_2040_COEXIST_INFO_SYNC`. -/
  infoSync : Bool
  /-- `BSS_2040_COEXIST_TIMER_FIRED`. -/
  timerFired : Bool
  bssCoexist2040 : UInt8
  triggerEventTab : TriggerEventTab
  /-- The control machine is in `CNTL_WAIT_OID_LIST_SCAN`. -/
  cntlWaitScan : Bool
  effects : List CoexEffect

/-- `BSS_COEX_CH_RANGE`, less the channels nobody reads. -/
structure CoexChRange where
  effectChStart : UInt8
  effectChEnd : UInt8

/-- The range below or above the index of the primary channel in the 2.4 GHz band. -/
def coexChRange24 (s : CoexAdapter) (index : Nat) : CoexChRange :=
  let cntrCh :=
    if s.extchaAbove then if index + 4 < s.channelListNum then index + 2 else 0
    else if 4 ≤ index then index - 2
    else 0
  if cntrCh ≠ 0 then ⟨UInt8.ofNat (cntrCh - 5), UInt8.ofNat (cntrCh + 5)⟩ else ⟨0, 0⟩

def getBssCoexEffectedChRange (s : CoexAdapter) : Option CoexChRange :=
  match (List.range s.channelListNum).find? fun index => s.channelList index == s.channel with
  | none => none
  | some index =>
      if 14 < s.channel.toNat then
        let primaryCh := s.channelList index
        if s.extchaAbove then some ⟨primaryCh, primaryCh + 4⟩ else some ⟨primaryCh - 4, primaryCh⟩
      else some (coexChRange24 s index)

/-- A channel between those at the two ends of the range. -/
def CoexChRange.effects (s : CoexAdapter) (range : CoexChRange) (chEntry : UInt8) : Bool :=
  s.channelList range.effectChStart.toNat ≤ chEntry &&
    chEntry ≤ s.channelList range.effectChEnd.toNat

/-- The loop over `ChList`, which stops at the first channel that is effected. -/
def anyEffected (s : CoexAdapter) (range : CoexChRange) (msg : Memory) : Nat → Nat → Bool
  | _, 0 => false
  | ptr, count + 1 => range.effects s (msg ptr) || anyEffected s range msg (ptr + 1) count

section frame
variable (elem : MlmeQueueElem)

def coexInfoAt : Nat := BlockAck.length80211 + 2
def coexistIe : UInt8 := elem.msg (coexInfoAt + 2)
def intolerantReportAt : Nat := coexInfoAt + sizeofBss2040CoexistElement
def reportLen : Nat := (elem.msg (intolerantReportAt + 1)).toNat
def chListAt : Nat := intolerantReportAt + sizeofBss2040IntolerantChReport

/-- `pIntolerantReport` is set. -/
def reportSeen : Bool :=
  decide (BlockAck.length80211 + sizeofBss2040CoexistElement + sizeofBss2040IntolerantChReport ≤
    elem.msgLen)

end frame

/-- The report asks for the fallback. -/
def reportFallsBack (s : CoexAdapter) (elem : MlmeQueueElem) : Bool :=
  match getBssCoexEffectedChRange s with
  | none => true
  | some range => anyEffected s range elem.msg chListAt (reportLen elem - 1)

/-- The coexistence octet of a frame that makes the AP fall back to 20 MHz. -/
def fallBackIe (s : CoexAdapter) (elem : MlmeQueueElem) : Option UInt8 :=
  if coexistIe elem &&& fallBackBits ≠ 0 then some (coexistIe elem)
  else if reportSeen elem ∧ 1 < reportLen elem then
    if reportFallsBack s elem then some (coexistIe elem ||| fallBackBits) else none
  else none

/-- The AP falls back: it remembers the octet, starts or extends its timer, and tells every BSS. -/
def fallBack (s : CoexAdapter) (coexist : UInt8) : CoexAdapter :=
  let delay := (s.dot11BssWidthChanTranDelay + 5) * 1000
  { s with
    lastBssCoexist2040 := coexist
    infoSync := true
    timerFired := true
    effects := s.effects ++ [if s.timerFired then .modTimer delay else .setTimer delay] ++
      (List.range s.bssidNum).map fun apidx => .sendCoexistMgmt apidx coexist }

def triEventInit (tab : TriggerEventTab) : TriggerEventTab :=
  { tab with eventANo := 0, eventAValid := fun _ => false, eventBCountDown := 0 }

def staPublicAction (s : CoexAdapter) (coexist : UInt8) : CoexAdapter :=
  if coexist &&& infoReqBit ≠ 0 ∧ s.scan2040 then
    { s with
      bssCoexist2040 := (s.bssCoexist2040 ||| infoReqBit) &&& ~~~fallBackBits
      triggerEventTab := triEventInit s.triggerEventTab
      cntlWaitScan := true
      effects := s.effects ++ [.scanReq] }
  else s

/-- The part of the handler that looks at the frame. -/
def peerBss2040Coexist (s : CoexAdapter) (elem : MlmeQueueElem) : CoexAdapter :=
  match s.opMode with
  | .ap =>
      match fallBackIe s elem with
      | some coexist => fallBack s coexist
      | none => s
  | .sta => if s.infraOn then staPublicAction s (coexistIe elem) else s

/-- The other actions change nothing here. -/
def peerPublicAction (s : CoexAdapter) (elem : MlmeQueueElem) : CoexAdapter :=
  if maxLenOfMacTable ≤ elem.wcid.toNat then s
  else if elem.action ≠ actionBss2040Coexist then s
  else if elem.msgLen ≤ BlockAck.length80211 + sizeofBss2040CoexistElement then s
  else if s.bBssCoexEnable = false ∨ s.bFortyMhzIntolerant = true then s
  else peerBss2040Coexist s elem

/-- Another frame with the same first `MsgLen` bytes. -/
def SameMessage (elem other : MlmeQueueElem) : Prop :=
  other.msgLen = elem.msgLen ∧ other.wcid = elem.wcid ∧
    ∀ i < elem.msgLen, other.msg i = elem.msg i

/-- Nothing behind the message changes what the handler does. -/
def DependsOnMessageOnly (s : CoexAdapter) (elem : MlmeQueueElem) : Prop :=
  ∀ other, SameMessage elem other → peerPublicAction s other = peerPublicAction s elem

/-- The handler looks at the coexistence octet of the frame. -/
def Examined (s : CoexAdapter) (elem : MlmeQueueElem) : Prop :=
  elem.wcid.toNat < maxLenOfMacTable ∧ elem.action = actionBss2040Coexist ∧
    BlockAck.length80211 + sizeofBss2040CoexistElement < elem.msgLen ∧
    s.bBssCoexEnable = true ∧ s.bFortyMhzIntolerant = false

/-- What an AP reads of a report is inside the message, or the rest cannot matter: a channel of the
list that is inside is effected, or none or every channel is. -/
def ReportInside (s : CoexAdapter) (elem : MlmeQueueElem) : Prop :=
  match getBssCoexEffectedChRange s with
  | none => intolerantReportAt + 1 < elem.msgLen
  | some range =>
      (∀ chEntry, range.effects s chEntry = false) ∨
        intolerantReportAt + 1 < elem.msgLen ∧
          (reportLen elem ≤ 1 ∨ chListAt + (reportLen elem - 1) ≤ elem.msgLen ∨
            (∀ chEntry, range.effects s chEntry = true) ∨
            ∃ i < reportLen elem - 1, chListAt + i < elem.msgLen ∧
              range.effects s (elem.msg (chListAt + i)) = true)

/-- The coexistence octet is inside the message, and so is the report where the octet leaves the
decision to it. -/
def FallBackInside (s : CoexAdapter) (elem : MlmeQueueElem) : Prop :=
  coexInfoAt + 2 < elem.msgLen ∧
    (coexistIe elem &&& fallBackBits ≠ 0 ∨ reportSeen elem = false ∨ ReportInside s elem)

/-- The message is long enough for what is read of it. -/
def MessageLongEnough (s : CoexAdapter) (elem : MlmeQueueElem) : Prop :=
  match s.opMode with
  | .ap => FallBackInside s elem
  | .sta => s.infraOn = true → s.scan2040 = true → coexInfoAt + 2 < elem.msgLen

section search
variable {s : CoexAdapter} {range : CoexChRange}

theorem anyEffected_iff {msg : Memory} {ptr count : Nat} :
    anyEffected s range msg ptr count = true ↔
      ∃ i < count, range.effects s (msg (ptr + i)) = true := by
  induction count generalizing ptr with
  | zero =>
    constructor
    · exact nofun
    · rintro ⟨i, below, -⟩
      exact absurd below (Nat.not_lt_zero i)
  | succ count ih =>
    unfold anyEffected
    rw [Bool.or_eq_true, ih]
    constructor
    · rintro (first | ⟨i, below, later⟩)
      · exact ⟨0, Nat.succ_pos count, first⟩
      · refine ⟨i + 1, Nat.succ_lt_succ below, ?_⟩
        rwa [← Nat.add_assoc, Nat.add_right_comm]
    · rintro ⟨i, below, found⟩
      cases i with
      | zero => exact Or.inl found
      | succ i =>
        refine Or.inr ⟨i, Nat.lt_of_succ_lt_succ below, ?_⟩
        rwa [Nat.add_right_comm, Nat.add_assoc]

end search

section message
variable {s : CoexAdapter} {elem other : MlmeQueueElem}

theorem peerPublicAction_of_examined (examined : Examined s elem) :
    peerPublicAction s elem = peerBss2040Coexist s elem := by
  obtain ⟨known, coexist, long, enabled, tolerant⟩ := examined
  unfold peerPublicAction
  rw [if_neg (not_le.mpr known), if_neg (not_not.mpr coexist), if_neg (not_le.mpr long),
    if_neg (by simp only [enabled, tolerant]; decide)]

theorem peerPublicAction_of_not_examined (ignored : ¬ Examined s elem) :
    peerPublicAction s elem = s := by
  unfold peerPublicAction
  split_ifs with unknown another short off
  · rfl
  · rfl
  · rfl
  · rfl
  · rw [not_or, Bool.not_eq_false, Bool.not_eq_true] at off
    exact absurd ⟨not_le.mp unknown, not_not.mp another, not_le.mp short, off⟩ ignored

/-- Whether a frame is examined, its message says. -/
theorem examined_of_same (same : SameMessage elem other) (examined : Examined s elem) :
    Examined s other := by
  obtain ⟨length, wcid, agree⟩ := same
  obtain ⟨known, coexist, long, enabled⟩ := examined
  refine ⟨wcid ▸ known, ?_, length ▸ long, enabled⟩
  have inside : BlockAck.length80211 + 1 < elem.msgLen :=
    lt_trans (by decide) long
  exact (agree _ inside).trans coexist

theorem SameMessage.symm (same : SameMessage elem other) : SameMessage other elem := by
  obtain ⟨length, wcid, agree⟩ := same
  refine ⟨length.symm, wcid.symm, ?_⟩
  intro i inside
  exact (agree i (length ▸ inside)).symm

/-- The message with other bytes behind it. -/
def followedBy (elem : MlmeQueueElem) (rest : Memory) : MlmeQueueElem :=
  { elem with msg := fun i => if i < elem.msgLen then elem.msg i else rest i }

theorem sameMessage_followedBy (rest : Memory) : SameMessage elem (followedBy elem rest) :=
  ⟨rfl, rfl, fun _ inside => if_pos inside⟩

theorem followedBy_inside {rest : Memory} {i : Nat} (inside : i < elem.msgLen) :
    (followedBy elem rest).msg i = elem.msg i := if_pos inside

theorem followedBy_behind {rest : Memory} {i : Nat} (behind : elem.msgLen ≤ i) :
    (followedBy elem rest).msg i = rest i := if_neg (not_lt.mpr behind)

end message

section fallBack
variable {s : CoexAdapter} {elem other : MlmeQueueElem}

/-- Falling back starts something. -/
theorem fallBack_ne (coexist : UInt8) : fallBack s coexist ≠ s := by
  intro same
  have effects := congrArg (fun t => t.effects.length) same
  unfold fallBack at effects
  simp only [List.length_append, List.length_singleton, List.length_map, List.length_range]
    at effects
  omega

/-- The state tells which octet the AP has fallen back for. -/
theorem peerBss2040Coexist_ap_inj (ap : s.opMode = .ap)
    (same : peerBss2040Coexist s other = peerBss2040Coexist s elem) :
    fallBackIe s other = fallBackIe s elem := by
  unfold peerBss2040Coexist at same
  rw [ap] at same
  cases second : fallBackIe s other with
  | none =>
    cases first : fallBackIe s elem with
    | none => rfl
    | some coexist =>
      rw [second, first] at same
      exact absurd same.symm (fallBack_ne coexist)
  | some coexist =>
    cases first : fallBackIe s elem with
    | none =>
      rw [second, first] at same
      exact absurd same (fallBack_ne coexist)
    | some octet =>
      rw [second, first] at same
      exact congrArg (fun t => some t.lastBssCoexist2040) same

theorem fallBackIe_of_bits (bits : coexistIe elem &&& fallBackBits ≠ 0) :
    fallBackIe s elem = some (coexistIe elem) := if_pos bits

/-- Without a report, and without the bits, there is no fallback. -/
theorem fallBackIe_of_no_report (clear : ¬ coexistIe elem &&& fallBackBits ≠ 0)
    (unseen : ¬ (reportSeen elem = true ∧ 1 < reportLen elem)) : fallBackIe s elem = none := by
  unfold fallBackIe
  rw [if_neg clear, if_neg unseen]

theorem fallBackIe_of_report (clear : ¬ coexistIe elem &&& fallBackBits ≠ 0)
    (seen : reportSeen elem = true ∧ 1 < reportLen elem) :
    fallBackIe s elem =
      if reportFallsBack s elem then some (coexistIe elem ||| fallBackBits) else none := by
  unfold fallBackIe
  rw [if_neg clear, if_pos seen]

theorem reportSeen_iff : reportSeen elem = true ↔ 30 ≤ elem.msgLen := by
  unfold reportSeen
  exact decide_eq_true_iff

/-- What is inside the message is the same in both frames. -/
theorem SameMessage.coexistIe (same : SameMessage elem other)
    (inside : coexInfoAt + 2 < elem.msgLen) : coexistIe other = coexistIe elem :=
  same.2.2 _ inside

theorem SameMessage.reportLen (same : SameMessage elem other)
    (inside : intolerantReportAt + 1 < elem.msgLen) : reportLen other = reportLen elem :=
  congrArg UInt8.toNat (same.2.2 _ inside)

theorem SameMessage.reportSeen (same : SameMessage elem other) :
    reportSeen other = reportSeen elem := by
  unfold Mlme.reportSeen
  rw [same.1]

/-- When the report is inside the message, both frames decide alike. -/
theorem fallBackIe_of_reportInside (same : SameMessage elem other)
    (ie : coexInfoAt + 2 < elem.msgLen) (clear : ¬ coexistIe elem &&& fallBackBits ≠ 0)
    (inside : ReportInside s elem) : fallBackIe s other = fallBackIe s elem := by
  have sameIe := same.coexistIe ie
  have clear' : ¬ coexistIe other &&& fallBackBits ≠ 0 := by rwa [sameIe]
  unfold ReportInside at inside
  -- both frames have the same length and the same answer, or no list is long enough to matter
  have decided (length : reportLen other = reportLen elem)
      (answer : 1 < reportLen elem → reportFallsBack s other = reportFallsBack s elem) :
      fallBackIe s other = fallBackIe s elem := by
    by_cases seen : reportSeen elem = true ∧ 1 < reportLen elem
    · rw [fallBackIe_of_report clear seen,
        fallBackIe_of_report clear' (by rwa [same.reportSeen, length]), answer seen.2, sameIe]
    · rw [fallBackIe_of_no_report clear seen,
        fallBackIe_of_no_report clear' (by rwa [same.reportSeen, length])]
  cases known : getBssCoexEffectedChRange s with
  | none =>
    rw [known] at inside
    apply decided (same.reportLen inside)
    intro _
    unfold reportFallsBack
    rw [known]
  | some range =>
    rw [known] at inside
    have search (frame : MlmeQueueElem) : reportFallsBack s frame = true ↔
        ∃ i < reportLen frame - 1, range.effects s (frame.msg (chListAt + i)) = true := by
      unfold reportFallsBack
      rw [known]
      exact anyEffected_iff
    rcases inside with none_effected | ⟨lenInside, rest⟩
    · have never (frame : MlmeQueueElem) (clear : ¬ coexistIe frame &&& fallBackBits ≠ 0) :
          fallBackIe s frame = none := by
        have no : reportFallsBack s frame = false := by
          rw [← Bool.not_eq_true, search]
          rintro ⟨i, -, effected⟩
          rw [none_effected] at effected
          cases effected
        by_cases seen : reportSeen frame = true ∧ 1 < reportLen frame
        · rw [fallBackIe_of_report clear seen, no, if_neg Bool.false_ne_true]
        · exact fallBackIe_of_no_report clear seen
      rw [never elem clear, never other clear']
    · have length := same.reportLen lenInside
      apply decided length
      intro long
      rw [Bool.eq_iff_iff, search, search, length]
      rcases rest with short | whole | every | ⟨j, below, inside, effected⟩
      · exact absurd long (not_lt.mpr short)
      · apply exists_congr
        intro i
        apply and_congr_right
        intro below
        rw [same.2.2 _ (by omega)]
      · have first : 0 < reportLen elem - 1 := Nat.sub_pos_of_lt long
        exact iff_of_true ⟨0, first, every _⟩ ⟨0, first, every _⟩
      · have found : range.effects s (other.msg (chListAt + j)) = true := by
          rw [same.2.2 _ inside]
          exact effected
        exact iff_of_true ⟨j, below, found⟩ ⟨j, below, effected⟩

/-- Frames that decide alike whatever follows the message have their report inside it. -/
theorem reportInside_of_settled (ie : coexInfoAt + 2 < elem.msgLen)
    (clear : ¬ coexistIe elem &&& fallBackBits ≠ 0) (seen : reportSeen elem = true)
    (settled : ∀ rest, fallBackIe s (followedBy elem rest) = fallBackIe s elem) :
    ReportInside s elem := by
  have clearAll (rest : Memory) : ¬ coexistIe (followedBy elem rest) &&& fallBackBits ≠ 0 := by
    rwa [(sameMessage_followedBy rest).coexistIe ie]
  have seenAll (rest : Memory) : reportSeen (followedBy elem rest) = true := by
    rwa [(sameMessage_followedBy rest).reportSeen]
  have falls (rest : Memory) (long : 1 < reportLen (followedBy elem rest))
      (answer : reportFallsBack s (followedBy elem rest) = true) : fallBackIe s elem ≠ none := by
    rw [← settled rest, fallBackIe_of_report (clearAll rest) ⟨seenAll rest, long⟩, if_pos answer]
    exact Option.some_ne_none _
  have stays (rest : Memory) (short : ¬ 1 < reportLen (followedBy elem rest)) :
      fallBackIe s elem = none := by
    rw [← settled rest]
    exact fallBackIe_of_no_report (clearAll rest) fun both => short both.2
  -- a length that is not in the message may be 0, or it may be 2
  have lenInside (rest : Memory) (two : rest (intolerantReportAt + 1) = 2)
      (answer : elem.msgLen ≤ intolerantReportAt + 1 → reportLen (followedBy elem rest) = 2 →
        reportFallsBack s (followedBy elem rest) = true) :
      intolerantReportAt + 1 < elem.msgLen := by
    by_contra outside
    have behind := not_lt.mp outside
    have zero : reportLen (followedBy elem fun _ => 0) = 0 :=
      congrArg UInt8.toNat (followedBy_behind behind)
    have length : reportLen (followedBy elem rest) = 2 :=
      congrArg UInt8.toNat ((followedBy_behind behind).trans two)
    apply falls rest (by rw [length]; decide) (answer behind length)
    exact stays (fun _ => 0) (by rw [zero]; decide)
  unfold ReportInside
  cases known : getBssCoexEffectedChRange s with
  | none =>
    apply lenInside (fun _ => 2) rfl
    intro _ _
    unfold reportFallsBack
    rw [known]
  | some range =>
    have search (frame : MlmeQueueElem) : reportFallsBack s frame = true ↔
        ∃ i < reportLen frame - 1, range.effects s (frame.msg (chListAt + i)) = true := by
      unfold reportFallsBack
      rw [known]
      exact anyEffected_iff
    by_cases none_effected : ∀ chEntry, range.effects s chEntry = false
    · exact Or.inl none_effected
    · push Not at none_effected
      obtain ⟨within, effected⟩ := none_effected
      rw [ne_eq, Bool.not_eq_false] at effected
      have inside := lenInside
        (fun i => if i = intolerantReportAt + 1 then 2 else within) (if_pos rfl) (by
          intro behind length
          rw [search, length]
          refine ⟨0, Nat.one_pos, ?_⟩
          rw [followedBy_behind (behind.trans (by decide)), if_neg (by decide)]
          exact effected)
      refine Or.inr ⟨inside, ?_⟩
      by_contra open_ended
      push Not at open_ended
      obtain ⟨long, beyond, ⟨without, uneffected⟩, notYet⟩ := open_ended
      have sameLen (rest : Memory) : reportLen (followedBy elem rest) = reportLen elem :=
        (sameMessage_followedBy rest).reportLen inside
      have found : reportFallsBack s (followedBy elem fun _ => within) = true := by
        rw [search, sameLen]
        refine ⟨elem.msgLen - chListAt, by omega, ?_⟩
        rw [followedBy_behind (by omega)]
        exact effected
      have missed : ¬ reportFallsBack s (followedBy elem fun _ => without) = true := by
        rw [search, sameLen]
        rintro ⟨i, below, hit⟩
        by_cases listed : chListAt + i < elem.msgLen
        · rw [followedBy_inside listed] at hit
          exact notYet i below listed hit
        · rw [followedBy_behind (not_lt.mp listed)] at hit
          exact uneffected hit
      apply falls (fun _ => within) (by rwa [sameLen]) found
      rw [← settled fun _ => without, fallBackIe_of_report (clearAll _)
        ⟨seenAll _, by rwa [sameLen]⟩, if_neg missed]

/-- The octet itself, when it is not in the message, may ask for the fallback or not. -/
theorem coexistIe_inside_of_settled (long : coexInfoAt + 1 < elem.msgLen)
    (settled : ∀ rest, fallBackIe s (followedBy elem rest) = fallBackIe s elem) :
    coexInfoAt + 2 < elem.msgLen := by
  by_contra outside
  have behind := not_lt.mp outside
  have ie (rest : Memory) : coexistIe (followedBy elem rest) = rest (coexInfoAt + 2) :=
    followedBy_behind behind
  have asks : fallBackIe s (followedBy elem fun _ => 2) = some 2 := by
    have bits : coexistIe (followedBy elem fun _ => 2) &&& fallBackBits ≠ 0 := by
      rw [ie]
      decide
    rw [fallBackIe_of_bits bits, ie]
  have silent : fallBackIe s (followedBy elem fun _ => 0) = none := by
    apply fallBackIe_of_no_report
    · rw [ie]
      decide
    · intro both
      have seen := reportSeen_iff.mp both.1
      have length : (followedBy elem fun _ => 0).msgLen = elem.msgLen := rfl
      have short : elem.msgLen ≤ 28 := behind
      omega
  rw [settled] at asks silent
  rw [asks] at silent
  cases silent

/-- An AP decides by the message alone, exactly when what it reads is inside. -/
theorem fallBackIe_settled_iff (long : coexInfoAt + 1 < elem.msgLen) :
    (∀ other, SameMessage elem other → fallBackIe s other = fallBackIe s elem) ↔
      FallBackInside s elem := by
  constructor
  · intro all
    have settled (rest : Memory) := all _ (sameMessage_followedBy rest)
    have ie := coexistIe_inside_of_settled long settled
    refine ⟨ie, ?_⟩
    by_cases bits : coexistIe elem &&& fallBackBits ≠ 0
    · exact Or.inl bits
    · by_cases seen : reportSeen elem = true
      · exact Or.inr (Or.inr (reportInside_of_settled ie bits seen settled))
      · exact Or.inr (Or.inl (Bool.not_eq_true _ ▸ seen))
  · rintro ⟨ie, decides⟩ other same
    by_cases bits : coexistIe elem &&& fallBackBits ≠ 0
    · rw [fallBackIe_of_bits bits, fallBackIe_of_bits (by rwa [same.coexistIe ie]),
        same.coexistIe ie]
    · rcases decides with set | unseen | inside
      · exact absurd set bits
      · have noReport (frame : MlmeQueueElem) (hidden : reportSeen frame = false) :
            ¬ (reportSeen frame = true ∧ 1 < reportLen frame) := by
          rw [hidden]
          exact fun both => Bool.false_ne_true both.1
        rw [fallBackIe_of_no_report bits (noReport elem unseen),
          fallBackIe_of_no_report (by rwa [same.coexistIe ie])
            (noReport other (by rwa [same.reportSeen]))]
      · exact fallBackIe_of_reportInside same ie bits inside

end fallBack

section station
variable {s : CoexAdapter} {elem : MlmeQueueElem}

theorem staPublicAction_asked (scan : s.scan2040 = true) : staPublicAction s 1 ≠ s := by
  intro same
  have effects := congrArg (fun t => t.effects.length) same
  unfold staPublicAction at effects
  rw [if_pos ⟨by decide, scan⟩, List.length_append, List.length_singleton] at effects
  omega

theorem staPublicAction_unasked : staPublicAction s 0 = s := by
  unfold staPublicAction
  exact if_neg fun both => both.1 rfl

/-- A station reads the octet and nothing else. -/
theorem staPublicAction_settled_iff (sta : s.opMode = .sta) :
    (∀ other, SameMessage elem other →
        peerBss2040Coexist s other = peerBss2040Coexist s elem) ↔
      (s.infraOn = true → s.scan2040 = true → coexInfoAt + 2 < elem.msgLen) := by
  have handled (frame : MlmeQueueElem) : peerBss2040Coexist s frame =
      if s.infraOn then staPublicAction s (coexistIe frame) else s := by
    unfold peerBss2040Coexist
    rw [sta]
  constructor
  · intro settled infra scan
    by_contra outside
    have octet (value : UInt8) : coexistIe (followedBy elem fun _ => value) = value :=
      followedBy_behind (not_lt.mp outside)
    have result (value : UInt8) : staPublicAction s value = peerBss2040Coexist s elem := by
      rw [← settled _ (sameMessage_followedBy fun _ => value), handled, if_pos infra, octet]
    apply staPublicAction_asked scan
    rw [result, ← result 0, staPublicAction_unasked]
  · intro inside other same
    rw [handled, handled]
    by_cases infra : s.infraOn = true
    · rw [if_pos infra, if_pos infra]
      by_cases scan : s.scan2040 = true
      · rw [same.coexistIe (inside infra scan)]
      · unfold staPublicAction
        rw [if_neg fun both => scan both.2, if_neg fun both => scan both.2]
    · rw [if_neg infra, if_neg infra]

end station

/-- The handler depends on the first `MsgLen` bytes alone, if and only if it ignores the frame or
the message is long enough for what is read of it. -/
theorem peerPublicAction_dependsOnMessageOnly_iff (s : CoexAdapter) (elem : MlmeQueueElem) :
    DependsOnMessageOnly s elem ↔ (Examined s elem → MessageLongEnough s elem) := by
  by_cases examined : Examined s elem
  · have long : coexInfoAt + 1 < elem.msgLen := examined.2.2.1
    have handled : DependsOnMessageOnly s elem ↔ ∀ other, SameMessage elem other →
        peerBss2040Coexist s other = peerBss2040Coexist s elem := by
      apply forall_congr'
      intro other
      apply forall_congr'
      intro same
      rw [peerPublicAction_of_examined examined,
        peerPublicAction_of_examined (examined_of_same same examined)]
    rw [handled, forall_prop_of_true examined]
    unfold MessageLongEnough
    cases mode : s.opMode with
    | sta => exact staPublicAction_settled_iff mode
    | ap =>
      rw [← fallBackIe_settled_iff long]
      constructor
      · intro settled other same
        exact peerBss2040Coexist_ap_inj mode (settled other same)
      · intro settled other same
        unfold peerBss2040Coexist
        rw [mode, settled other same]
  · apply iff_of_true _ fun now => absurd now examined
    intro other same
    rw [peerPublicAction_of_not_examined examined, peerPublicAction_of_not_examined]
    exact fun now => examined (examined_of_same same.symm now)

/-- An AP on channel 6 of the 2.4 GHz band. -/
def coexAp : CoexAdapter where
  opMode := .ap
  infraOn := false
  scan2040 := false
  bBssCoexEnable := true
  bFortyMhzIntolerant := false
  channel := 6
  extchaAbove := true
  channelList := fun index => UInt8.ofNat (index + 1)
  channelListNum := 14
  bssidNum := 1
  dot11BssWidthChanTranDelay := 25
  lastBssCoexist2040 := 0
  infoSync := false
  timerFired := false
  bssCoexist2040 := 0
  triggerEventTab := ⟨0, fun _ => false, 0⟩
  cntlWaitScan := false
  effects := []

/-- A report of one channel that ends before the channel. -/
def cutReport (behind : UInt8) : MlmeQueueElem where
  msg := fun i => if i = 30 then 2 else if i = 32 then behind else 0
  msgLen := 32
  wcid := 1

/-- What stands behind the message decides whether the AP falls back. -/
theorem cut_report_reads_on : ¬ DependsOnMessageOnly coexAp (cutReport 0) := by
  intro settled
  have same : SameMessage (cutReport 0) (cutReport 6) := by
    refine ⟨rfl, rfl, ?_⟩
    intro i inside
    unfold cutReport
    dsimp only
    have before : i ≠ 32 := Nat.ne_of_lt inside
    rw [if_neg before, if_neg before]
  have lasts := congrArg CoexAdapter.lastBssCoexist2040 (settled (cutReport 6) same)
  exact absurd lasts (by decide)

end Mt7612u.Mlme
