import Mt7612u.BlockAck.WindowInvariant

/-! The reorder buffer refines the resequencer: frames that arrive out of order by less
than a window come out complete and in order. -/

namespace Mt7612u.BlockAck
open Receive Library.Resequencer Library.Run

/-- A frame as it arrives: the pool it finds, and the two readings of the clock. -/
structure Received where
  freelist : ReorderingList
  pRxBlk : SessionFrame
  now32 : BitVec 64
  legacyNow32 : BitVec 64

def Received.event (received : Received) : Event :=
  .frame received.freelist received.pRxBlk received.now32 received.legacyNow32

/-- The size checks let the frame pass, also after its conversion. -/
def RxBlk.Fits (pRxBlk : RxBlk) : Prop :=
  pRxBlk.fRXAMSDU = true ∨
    (pRxBlk.dataSize.toNat ≤ maxRxPktLen ∧ pRxBlk.convertedSize ≤ maxRxPktLen)

/-- A data frame with the number of position `q`, for which the pool has a block. -/
structure Received.Numbered (received : Received) (q : Nat) : Prop where
  sequence : received.pRxBlk.sequence.toNat = q % 4096
  noEapol : received.pRxBlk.fRXEAP = false
  block : (baDequeue received.freelist).1.isSome

structure Received.Plain (received : Received) (q : Nat) : Prop extends received.Numbered q where
  fits : received.pRxBlk.toRxBlk.Fits

/-- Neither clock reading of the frame finds a timeout passed. -/
def Timely (env : Env) (s : Session) : Event → Prop
  | .frame _ _ now32 legacyNow32 =>
      flushAllDue env s now32 = false ∧ flushOneDue env s now32 = false ∧
        rtmpTimeAfter legacyNow32 (now32 + reorderingPacketTimeout env) = false
  | _ => True

instance (env : Env) (s : Session) (event : Event) : Decidable (Timely env s event) :=
  match event with
  | .frame .. => inferInstanceAs (Decidable (_ ∧ _ ∧ _))
  | .bar _ => inferInstanceAs (Decidable True)
  | .timeout _ => inferInstanceAs (Decidable True)
  | .idleTimeout _ => inferInstanceAs (Decidable True)
  | .refresh => inferInstanceAs (Decidable True)

/-- A session with nothing buffered, whose last number is `lastIndSeq`. -/
structure AtRest (s : Session) (lastIndSeq : Nat) : Prop where
  known : s.idx ≠ 0
  positive : 0 < s.entry.baWinSize
  small : s.entry.baWinSize ≤ 255
  number : lastIndSeq ≤ maxSeq
  last : s.entry.lastIndSeq = lastIndSeq
  empty : s.entry.list = .empty
  log : s.log = []

def Outcome.indicated : Outcome → Option (Packet × Nat)
  | .indicate packet sequence => some (packet, sequence)
  | _ => none

def ReorderingMpdu.tag (mpdu : ReorderingMpdu) : Packet × Nat := (mpdu.pPacket, mpdu.sequence)

/-- The packet and the number a position stands for. -/
def mark (frames : Nat → Received) (q : Nat) : Packet × Nat :=
  ((frames q).pRxBlk.pRxPacket, q % 4096)

/-- The buffered blocks carry the packets of the held positions. -/
def Carries (frames : Nat → Received) (s : Session) (held : List Nat) : Prop :=
  s.entry.list.next.map (·.tag) = held.map (mark frames)

variable {s : Session} {last : Nat} {held : List Nat} {frames : Nat → Received}

@[simp] theorem indicated_indicate (packet : Packet) (sequence : Nat) :
    (Outcome.indicate packet sequence).indicated = some (packet, sequence) := rfl

@[simp] theorem indicated_lastIndSeq (value : Nat) : (Outcome.lastIndSeq value).indicated = none := rfl

theorem indications_kept (mpdus : List ReorderingMpdu) (packet : Packet) :
    .kfree packet ∉ indications mpdus := by
  simp [indications]

theorem indications_indicated (mpdus : List ReorderingMpdu) :
    (indications mpdus).filterMap Outcome.indicated = mpdus.map (·.tag) := by
  induction mpdus with
  | nil => rfl
  | cons mpdu rest ih =>
    simp only [indications, List.map_cons, List.filterMap_cons, Outcome.indicated] at ih ⊢
    rw [ih]
    rfl

theorem indicateLegacyOrAMSDU_plain (env : Env) (s : Session) (pRxBlk : RxBlk)
    (now32 : BitVec 64) (fits : pRxBlk.Fits) (noEapol : pRxBlk.fRXEAP = false)
    (timely : ¬LegacyFlushDue env s now32) :
    indicateLegacyOrAMSDU env s pRxBlk now32 =
      s.append [.indicate pRxBlk.pRxPacket pRxBlk.sequence.toNat] := by
  simp only [indicateLegacyOrAMSDU, noEapol, Bool.false_eq_true, ↓reduceIte]
  split_ifs with amsdu
  · rfl
  · have small := (fits.resolve_left amsdu).2
    rw [LegacyFlushDue, Bool.not_eq_true] at timely
    simp only [indicateLegacyPacket, if_neg (Nat.not_lt.mpr small), timely, Bool.and_false,
      Bool.false_eq_true, ↓reduceIte]
    rfl

/-- Without a timeout a frame meets the session as it is. -/
theorem meetFrame_timely (env : Env) (s : Session) (pRxBlk : RxBlk) (now32 : BitVec 64)
    (all : flushAllDue env s now32 = false) (one : flushOneDue env s now32 = false) :
    meetFrame env s pRxBlk now32 =
      Session.setTimer { s with entry := { s.entry with rcvSeq := pRxBlk.sequence.toNat } } now32 := by
  simp only [meetFrame, baFlushReorderingTimeoutMpdus]
  simp only [flushAllDue, flushOneDue] at all one
  split_ifs with empty allDue oneDue
  · rfl
  · simp only [flushAllDue, all, Bool.false_eq_true] at allDue
  · simp only [flushOneDue, one, Bool.false_eq_true] at oneDue
  · rfl

/-- What one frame of an admissible arrival order does, as the resequencer has it. -/
structure Arrived (frames : Nat → Received) (s t : Session) (result : State × List Nat) : Prop where
  holds : Holds 2 t result.1.last result.1.held
  carries : Carries frames t result.1.held
  size : t.entry.baWinSize = s.entry.baWinSize
  log : ∃ outcomes, t.log = s.log ++ outcomes ∧
    outcomes.filterMap Outcome.indicated = result.2.map (mark frames) ∧
    ∀ packet, .kfree packet ∉ outcomes

/-- The frame next in order goes up, and everything that follows it without a gap. -/
theorem Holds.arriveInOrder (holds : Holds 2 s last held) (carries : Carries frames s held)
    (env : Env) (pRxBlk : RxBlk) (legacyNow32 : BitVec 64) (fits : pRxBlk.Fits)
    (noEapol : pRxBlk.fRXEAP = false) (timely : ¬LegacyFlushDue env s legacyNow32)
    (same : (pRxBlk.pRxPacket, pRxBlk.sequence.toNat) = mark frames (last + 1)) :
    Arrived frames s (indicateInOrder (indicateLegacyOrAMSDU env
        (s.setLastIndSeq pRxBlk.sequence.toNat) pRxBlk legacyNow32))
      (⟨last + 1 + streak (last + 1) held, held.drop (streak (last + 1) held)⟩,
        (last + 1) :: held.take (streak (last + 1) held)) := by
  have number : pRxBlk.sequence.toNat = (last + 1) % 4096 := congrArg Prod.snd same
  have stepped : Holds 1 (s.setLastIndSeq pRxBlk.sequence.toNat) (last + 1) held := by
    refine holds.step _ pRxBlk.sequence.isLt ?_
    rw [number]
    exact ahead_of_le (by omega) (by omega)
  have early : ¬LegacyFlushDue env (s.setLastIndSeq pRxBlk.sequence.toNat) legacyNow32 := timely
  rw [indicateLegacyOrAMSDU_plain env _ pRxBlk legacyNow32 fits noEapol early]
  have handed := stepped.append
    [.indicate pRxBlk.pRxPacket pRxBlk.sequence.toNat] (by simp)
  have taken : (s.entry.list.next.take (streak (last + 1) held)).map (·.tag) =
      (held.take (streak (last + 1) held)).map (mark frames) := by
    rw [List.map_take, carries, List.map_take]
  have left : (s.entry.list.next.drop (streak (last + 1) held)).map (·.tag) =
      (held.drop (streak (last + 1) held)).map (mark frames) := by
    rw [List.map_drop, carries, List.map_drop]
  refine ⟨handed.settle, ?_, ?_, ?_⟩
  · rw [handed.indicateInOrder_eq]
    split_ifs with nothing
    · rw [nothing, List.drop_zero]
      exact carries
    · exact left
  · rw [handed.indicateInOrder_eq]
    split_ifs <;> rfl
  · rw [handed.indicateInOrder_eq]
    split_ifs with nothing
    · refine ⟨[.lastIndSeq pRxBlk.sequence.toNat,
        .indicate pRxBlk.pRxPacket pRxBlk.sequence.toNat], ?_, ?_, by simp⟩
      · simp [Session.append, Session.setLastIndSeq]
      · simp [List.filterMap_cons, nothing, same]
    · refine ⟨[.lastIndSeq pRxBlk.sequence.toNat,
        .indicate pRxBlk.pRxPacket pRxBlk.sequence.toNat] ++
          indications (s.entry.list.next.take (streak (last + 1) held)) ++
            [.lastIndSeq ((last + 1 + streak (last + 1) held) % 4096)], ?_, ?_, ?_⟩
      · simp [Session.append, Session.setLastIndSeq, Session.drain]
      · rw [List.filterMap_append, List.filterMap_append, indications_indicated, taken]
        simp [List.filterMap_cons, same]
      · intro packet
        simp [indications_kept]

/-- A frame further ahead in the window waits in the list. -/
theorem Holds.arriveWithin (holds : Holds 2 s last held) (carries : Carries frames s held)
    (env : Env) (pRxBlk : RxBlk) (legacyNow32 : BitVec 64) (buffers : Buffers s pRxBlk) {q : Nat}
    (same : (pRxBlk.pRxPacket, pRxBlk.sequence.toNat) = mark frames q) (low : last + 2 ≤ q)
    (high : q ≤ last + s.entry.baWinSize) (absent : q ∉ held) :
    Arrived frames s (baEnqueueReorderingPacket env s pRxBlk legacyNow32)
      (⟨last, place q held⟩, []) := by
  have size := holds.sound.small
  have number : pRxBlk.sequence.toNat = q % 4096 := congrArg Prod.snd same
  obtain ⟨stored, sizeSame, ⟨present, _⟩ | ⟨logSame, mpduBlk, inserted⟩⟩ :=
    holds.store (by omega) env pRxBlk legacyNow32 buffers number low high
  · exact absurd present absent
  · have scanned := insertScan_place (·.tag) (mark frames) (pRxBlk.toMpdu mpduBlk) q number same
      s.entry.list.next held holds.sequences carries (by
        intro x member
        have lower := holds.window.low_le x member
        have upper := holds.window.le_high x member
        omega)
    rw [inserted] at scanned
    exact ⟨stored, scanned, sizeSame, [], by rw [logSame, List.append_nil], rfl, by simp⟩

theorem Arrived.congr {t u : Session} {result : State × List Nat}
    (arrived : Arrived frames s t result) (same : SameWindow u t) : Arrived frames s u result :=
  ⟨arrived.holds.congr same, by
    rw [Carries, same.list]
    exact arrived.carries, same.baWinSize.trans arrived.size, same.log ▸ arrived.log⟩

/-- One frame of an admissible order: the session follows the resequencer. -/
theorem Holds.indicateAMPDU (holds : Holds 2 s last held) (carries : Carries frames s held)
    (env : Env) (pRxBlk : SessionFrame) (now32 legacyNow32 : BitVec 64)
    (fits : pRxBlk.toRxBlk.Fits) (noEapol : pRxBlk.fRXEAP = false)
    (block : (baDequeue s.freelist).1.isSome) (all : flushAllDue env s now32 = false)
    (one : flushOneDue env s now32 = false)
    (legacy : rtmpTimeAfter legacyNow32 (now32 + reorderingPacketTimeout env) = false) {q : Nat}
    (same : (pRxBlk.pRxPacket, pRxBlk.sequence.toNat) = mark frames q)
    (later : last < q) (inside : q ≤ last + s.entry.baWinSize) (absent : q ∉ held) :
    Arrived frames s (indicateAMPDUPacket env s pRxBlk.toRxBlk now32 legacyNow32)
      (arrive s.entry.baWinSize ⟨last, held⟩ q) := by
  have size := holds.sound.small
  have number : pRxBlk.sequence.toNat = q % 4096 := congrArg Prod.snd same
  have position : ahead last pRxBlk.sequence.toNat = q := by
    rw [number]
    exact ahead_of_le (by omega) (by omega)
  have admitted : ¬((!pRxBlk.fRXAMSDU) = true ∧ pRxBlk.dataSize.toNat > maxRxPktLen) := by
    rw [RxBlk.admitted_iff]
    exact fits.imp id And.left
  simp only [indicateAMPDUPacket, if_neg admitted, if_pos pRxBlk.known, if_neg holds.sound.known,
    reorderAMPDUPacket, meetFrame_timely env s _ now32 all one]
  generalize met : Session.setTimer _ now32 = t
  have window : SameWindow t s := by
    rw [← met]
    exact ⟨rfl, rfl, rfl, rfl, rfl⟩
  have buffers : Buffers t pRxBlk.toRxBlk := by
    refine ⟨noEapol, ?_⟩
    rw [← met, baMpduBlkAlloc, Option.isSome_map]
    exact block
  have early : ¬LegacyFlushDue env t legacyNow32 := by
    rw [LegacyFlushDue, ← met, Bool.not_eq_true]
    exact legacy
  have held' := holds.congr window
  have carried : Carries frames t held := by
    rw [Carries, window.list]
    exact carries
  have case := held'.arrival_eq _ pRxBlk.sequence.isLt
  rw [position] at case
  have transfer : ∀ {u : Session} {result : State × List Nat},
      Arrived frames t u result → Arrived frames s u result := by
    intro u result arrived
    exact ⟨arrived.holds, arrived.carries, arrived.size.trans window.baWinSize,
      window.log ▸ arrived.log⟩
  simp only [arrive, if_neg (show ¬q ≤ last by omega)]
  by_cases next : q = last + 1
  · subst next
    simp only [↓reduceIte] at case ⊢
    rw [case]
    exact transfer ((held'.arriveInOrder carried env pRxBlk.toRxBlk legacyNow32 fits noEapol early
      same).congr ⟨rfl, rfl, rfl, rfl, rfl⟩)
  · simp only [if_neg next, if_neg (show q ≠ last by omega), if_pos inside,
      if_neg (show ¬last + 2048 ≤ q by omega),
      if_pos (show q ≤ last + t.entry.baWinSize by rw [window.baWinSize]; exact inside)] at case ⊢
    rw [case]
    exact transfer (held'.arriveWithin carried env pRxBlk.toRxBlk legacyNow32 buffers same (by omega)
      (by rw [window.baWinSize]; exact inside) absent)

/-- Along an admissible order the session ends where the resequencer does, and has
indicated what the resequencer hands on. -/
theorem Holds.arriveAll (env : Env) (order : List Nat) (plain : ∀ q ∈ order, (frames q).Plain q)
    (holds : Holds 2 s last held) (carries : Carries frames s held)
    (timely : Throughout (sessionStep env) (Timely env) s (order.map fun q => (frames q).event))
    (admissible : Admissible s.entry.baWinSize ⟨last, held⟩ order) :
    Arrived frames s (run (sessionStep env) s (order.map fun q => (frames q).event))
      (arriveAll s.entry.baWinSize ⟨last, held⟩ order) := by
  induction order generalizing s last held with
  | nil => exact ⟨holds, carries, rfl, [], (List.append_nil _).symm, rfl, by simp⟩
  | cons q rest ih =>
    obtain ⟨⟨later, inside, absent⟩, others⟩ := admissible
    obtain ⟨⟨all, one, legacy⟩, timelyRest⟩ := timely
    have frame := plain q (List.mem_cons_self ..)
    have pooled : SameWindow (s.withPool (frames q).freelist) s := ⟨rfl, rfl, rfl, rfl, rfl⟩
    have first := (holds.congr pooled).indicateAMPDU carries env (frames q).pRxBlk
      (frames q).now32 (frames q).legacyNow32 frame.fits frame.noEapol frame.block all one legacy
      (by rw [mark, frame.sequence]) later inside absent
    have later := ih (fun x member => plain x (List.mem_cons_of_mem _ member)) first.holds
      first.carries timelyRest (by rw [first.size]; exact others)
    obtain ⟨outcomes, logFirst, indicatedFirst, keptFirst⟩ := first.log
    obtain ⟨moreOutcomes, logLater, indicatedLater, keptLater⟩ := later.log
    rw [first.size] at later indicatedLater
    refine ⟨later.holds, later.carries, later.size.trans first.size, outcomes ++ moreOutcomes,
      ?_, ?_, ?_⟩
    · rw [List.map_cons, run_cons, ← List.append_assoc]
      exact logLater.trans (congrArg (· ++ moreOutcomes) logFirst)
    · rw [List.filterMap_append, indicatedFirst, indicatedLater, ← List.map_append]
      rfl
    · intro packet member
      rcases List.mem_append.mp member with old | new
      · exact keptFirst packet old
      · exact keptLater packet new

/-- The frames of the positions after `start` have gone up once each and in order, and
nothing is left of them. -/
structure DeliversAll (frames : Nat → Received) (start count : Nat) (t : Session) : Prop where
  indicated : t.log.filterMap Outcome.indicated = (List.range' (start + 1) count).map (mark frames)
  kept : ∀ packet, .kfree packet ∉ t.log
  empty : t.entry.list = .empty
  last : t.entry.lastIndSeq = (start + count) % 4096

/-- Frames of any number, out of order by less than a window, come out complete and in order. -/
theorem run_deliversAll (env : Env) (s : Session) (start count : Nat) (rest : AtRest s start)
    (frames : Nat → Received) (order : List Nat)
    (complete : order.Perm (List.range' (start + 1) count))
    (windowed : Windowed s.entry.baWinSize start order)
    (plain : ∀ q ∈ order, (frames q).Plain q)
    (timely : Throughout (sessionStep env) (Timely env) s (order.map fun q => (frames q).event)) :
    DeliversAll frames start count
      (run (sessionStep env) s (order.map fun q => (frames q).event)) := by
  have number : start % 4096 = start := Nat.mod_eq_of_lt (Nat.lt_succ_of_le rest.number)
  have holds : Holds 2 s start [] :=
    ⟨⟨rest.known, rest.positive, rest.small, by simp [rest.log]⟩, rest.last.trans number.symm,
      by simp [rest.empty, ReorderingList.empty], by rw [rest.empty]; exact ReorderingList.counted_empty,
      between_nil _ _⟩
  obtain ⟨admissible, result⟩ := arriveAll_windowed complete windowed
  have arrived := holds.arriveAll env order plain
    (by simp [Carries, rest.empty, ReorderingList.empty]) timely admissible
  rw [result] at arrived
  obtain ⟨outcomes, logSame, indicated, kept⟩ := arrived.log
  rw [rest.log, List.nil_append] at logSame
  refine ⟨logSame ▸ indicated, logSame ▸ kept, ?_, arrived.holds.lastIndSeq⟩
  have chain := List.map_eq_nil_iff.mp arrived.carries
  have counter := arrived.holds.counted
  rw [ReorderingList.Counted, chain] at counter
  exact congrArg₂ ReorderingList.mk chain counter

/-- A session that has seen 4094. -/
def restingSession : Session :=
  { freshSession 4 with entry := { (freshSession 4).entry with lastIndSeq := 4094 } }

def plainFrames (q : Nat) : Received := ⟨onePool, plainFrame q (.ofNat 12 q), 0, 0⟩

theorem plainFrames_plain (q : Nat) : (plainFrames q).Plain q :=
  ⟨⟨BitVec.toNat_ofNat q 12, rfl, rfl⟩,
    Or.inr ⟨Nat.le_of_ble_eq_true rfl, Nat.le_of_ble_eq_true rfl⟩⟩

/-- Across the wrap: 4096, 4095, 4098, 4097 with a window of four. -/
theorem run_deliversAll_wrap :
    DeliversAll plainFrames 4094 4 (run (sessionStep stationEnv) restingSession
      ([4096, 4095, 4098, 4097].map fun q => (plainFrames q).event)) :=
  run_deliversAll stationEnv restingSession 4094 4
    ⟨by decide, by decide, by decide, by decide, rfl, rfl, rfl⟩ plainFrames [4096, 4095, 4098, 4097]
    (by decide)
    (by
      intro before q after split m above low
      exfalso
      have member : q ∈ [4096, 4095, 4098, 4097] := by simp [split]
      have width : restingSession.entry.baWinSize = 4 := rfl
      simp only [List.mem_cons, List.not_mem_nil, or_false] at member
      omega)
    (fun q _ => plainFrames_plain q) (by decide)

/-- One byte too long for `Indicate_AMPDU_Packet`. -/
def longFrames (q : Nat) : Received :=
  ⟨onePool, { plainFrame q (.ofNat 12 q) with dataSize := 1521 }, 0, 0⟩

/-- An oversized frame is freed, not indicated. -/
theorem oversized_not_delivered :
    ¬∀ (env : Env) (s : Session) (start count : Nat) (frames : Nat → Received) (order : List Nat),
      AtRest s start → order.Perm (List.range' (start + 1) count) →
      Windowed s.entry.baWinSize start order → (∀ q ∈ order, (frames q).Numbered q) →
      Throughout (sessionStep env) (Timely env) s (order.map fun q => (frames q).event) →
      DeliversAll frames start count
        (run (sessionStep env) s (order.map fun q => (frames q).event)) := by
  intro always
  have delivered := always stationEnv restingSession 4094 1 longFrames [4095]
    ⟨by decide, by decide, by decide, by decide, rfl, rfl, rfl⟩ (by decide)
    (by
      intro before q after split m above low
      have member : q ∈ [4095] := by simp [split]
      have width : restingSession.entry.baWinSize = 4 := rfl
      simp only [List.mem_cons, List.not_mem_nil, or_false] at member
      omega)
    (fun q _ => ⟨BitVec.toNat_ofNat q 12, rfl, rfl⟩) (by decide)
  exact delivered.kept 4095 (by decide)

end Mt7612u.BlockAck
