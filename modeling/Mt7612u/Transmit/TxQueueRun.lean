import Mt7612u.Transmit.TxQueue

/-! What becomes of the packets of `TxSwQueue` in runs of callers side by side. -/

namespace Mt7612u.Transmit
open BlockAck (Packet OpMode)
open Library.Run Library.Ownership

section Turn

theorem aggregate_spec (input : TurnInput) {turns look totalFrameLen : Nat}
    {pTxBlk pTxBlk' : DequeuedBlock} {pQueue pQueue' : QueueHeader}
    (done : aggregate input turns look totalFrameLen pTxBlk pQueue = (pTxBlk', pQueue')) :
    pTxBlk'.txPacketList ++ pQueue'.entries = pTxBlk.txPacketList ++ pQueue.entries ∧
      (pQueue.Counted → pQueue'.Counted) := by
  induction turns generalizing look totalFrameLen pTxBlk pQueue with
  | zero =>
    obtain ⟨rfl, rfl⟩ := Prod.mk.inj done
    exact ⟨rfl, id⟩
  | succ turns ih =>
    unfold aggregate at done
    split at done
    next =>
      obtain ⟨rfl, rfl⟩ := Prod.mk.inj done
      exact ⟨rfl, id⟩
    next pPacket rest removed =>
      split_ifs at done
      · obtain ⟨rfl, rfl⟩ := Prod.mk.inj done
        exact ⟨rfl, id⟩
      · obtain ⟨kept, counted⟩ := ih done
        constructor
        · rw [kept, (QueueHeader.removeHeadQueue_eq_some.mp removed).1, List.append_assoc]
          rfl
        · exact fun before => counted (QueueHeader.counted_removeHeadQueue before removed)

/-- What a turn leaves of the queue, with what it takes out of it. -/
def TurnResult.Keeps (pQueue : QueueHeader) : TurnResult → Prop
  | .done pQueue' => pQueue'.entries = pQueue.entries ∧ (pQueue.Counted → pQueue'.Counted)
  | .mgmtRing pPacket pQueue' | .freed pPacket pQueue' =>
      pQueue.entries = pPacket :: pQueue'.entries ∧ (pQueue.Counted → pQueue'.Counted)
  | .block pTxBlk pQueue' =>
      pQueue.entries = pTxBlk.txPacketList ++ pQueue'.entries ∧ (pQueue.Counted → pQueue'.Counted)

/-- A packet that is put back is the head again. -/
theorem keeps_putBack {pQueue rest : QueueHeader} {pPacket : Packet}
    (removed : pQueue.removeHeadQueue = some (pPacket, rest)) :
    (TurnResult.done (rest.insertHeadQueue pPacket)).Keeps pQueue := by
  obtain ⟨entries, number⟩ := QueueHeader.removeHeadQueue_eq_some.mp removed
  constructor
  · rw [entries]
    rfl
  · intro counted
    have fewer := QueueHeader.counted_removeHeadQueue counted removed
    unfold QueueHeader.Counted QueueHeader.insertHeadQueue at *
    rw [fewer, List.length_cons]

theorem dequeueBlock_keeps (input : TurnInput) {pQueue rest : QueueHeader} {pPacket : Packet}
    (removed : pQueue.removeHeadQueue = some (pPacket, rest)) :
    (dequeueBlock input pPacket rest).Keeps pQueue := by
  have entries := (QueueHeader.removeHeadQueue_eq_some.mp removed).1
  have counted (before : pQueue.Counted) := QueueHeader.counted_removeHeadQueue before removed
  unfold dequeueBlock
  dsimp only
  split_ifs
  · exact keeps_putBack removed
  · exact keeps_putBack removed
  · obtain ⟨kept, fewer⟩ := aggregate_spec input
      (rfl : aggregate input rest.entries.length 3 (input.len pPacket)
        ⟨input.txFrameType pPacket, [pPacket]⟩ rest = _)
    exact ⟨entries.trans kept.symm, fun before => fewer (counted before)⟩
  · obtain ⟨kept, fewer⟩ := aggregate_spec input
      (rfl : aggregate input rest.entries.length 3 (input.len pPacket)
        ⟨input.txFrameType pPacket, [pPacket]⟩ rest = _)
    exact ⟨entries.trans kept.symm, fun before => fewer (counted before)⟩
  · exact ⟨entries, counted⟩

theorem dequeueTurn_keeps (input : TurnInput) (pQueue : QueueHeader) :
    (dequeueTurn input pQueue).Keeps pQueue := by
  unfold dequeueTurn
  split
  next => exact ⟨rfl, id⟩
  next pPacket rest removed =>
    have entries := (QueueHeader.removeHeadQueue_eq_some.mp removed).1
    have counted (before : pQueue.Counted) := QueueHeader.counted_removeHeadQueue before removed
    split_ifs
    · exact ⟨entries, counted⟩
    · exact ⟨entries, counted⟩
    · exact ⟨entries, counted⟩
    · exact ⟨rfl, id⟩
    · exact dequeueBlock_keeps input removed

end Turn

section Transmission

/-- The bytes of a packet that are to be sent. -/
def HardTransmit.frameLen (call : HardTransmit) : Packet → Nat :=
  match call.kind with
  | none => srcBufLen call.setting
  | some kind => Transmit.frameLen kind call.setting

/-- Every packet of the block is written into the bulk ring or dropped, and freed, once. -/
def HardTransmit.Disposes (call : HardTransmit) : Prop :=
  ∃ events, call.run = some (events, []) ∧
    Disposed call.frameLen call.txPacketList events

/-- When the frame function that is called does so. -/
def HardTransmit.Fits (call : HardTransmit) : Prop :=
  match call.kind with
  | none => True
  | some kind => DisposesWhen call.setting call.txPacketList call.opMode kind

theorem disposesOfAll_iff (opMode : OpMode) (kind : FrameKind) (setting : FrameSetting)
    {packets : List Packet} (distinct : packets.Nodup) :
    DisposesOfAll opMode kind setting packets ↔ DisposesWhen setting packets opMode kind := by
  cases opMode with
  | ap =>
    cases kind with
    | ampdu => exact apAmpdu_disposes_iff
    | amsdu => exact apAmsdu_disposes_iff distinct
    | legacy => exact legacy_disposes_iff .ap
    | ralink => exact apARalink_disposes_iff distinct
    | fragment => exact fragment_disposes_iff .ap
  | sta =>
    cases kind with
    | ampdu => exact staAmpdu_disposes_iff distinct
    | amsdu => exact iff_of_true (staAmsdu_disposes distinct) trivial
    | legacy => exact legacy_disposes_iff .sta
    | ralink => exact staARalink_disposes_iff distinct
    | fragment => exact fragment_disposes_iff .sta

theorem lives_refused (len : Packet → Nat) (packets : List Packet) :
    PacketLives len packets (packets.flatMap fun pPacket => [.refused pPacket, .freed pPacket]) := by
  induction packets with
  | nil => exact Lives.nil
  | cons pPacket rest ih =>
    obtain ⟨life, fate⟩ := @life_fate len pPacket rest [] (.refused pPacket)
      (fun _ inside => absurd inside List.not_mem_nil) (Or.inr rfl)
    exact Lives.cons life fate ih

theorem HardTransmit.disposes_iff (call : HardTransmit) (distinct : call.txPacketList.Nodup) :
    call.Disposes ↔ call.Fits := by
  unfold HardTransmit.Disposes HardTransmit.Fits HardTransmit.run HardTransmit.frameLen
  cases call.kind with
  | none =>
    apply iff_of_true _ trivial
    exact ⟨_, rfl, lives_disposed (lives_refused _ _) distinct⟩
  | some kind => exact disposesOfAll_iff call.opMode kind call.setting distinct

end Transmission

/-- The queue that a caller dequeues from. -/
def Dequeuer.queue : Dequeuer → Option QueIdx
  | .looping queIdx _ _ _ => some queIdx
  | .transmitting queIdx _ _ _ _ => some queIdx
  | _ => none

/-- The packets in the block of a caller. -/
def Dequeuer.held : Dequeuer → List Packet
  | .transmitting _ _ _ _ pTxBlk => pTxBlk.txPacketList
  | _ => []

def departedPackets (departures : List Departure) : List Packet :=
  departures.flatMap Departure.packets

/-- Each packet that was put into a queue is once among those that have left it, in the block of the
caller that dequeues from it, or in the queue, in this order; the numbers are the lengths; and each block
that was handed over was disposed of, each of its packets once. -/
structure Disciplined (s : TxQueues) : Prop where
  distinct : ∀ queIdx, (s.placed queIdx).Nodup
  apart : ∀ queIdx other, queIdx ≠ other → List.Disjoint (s.placed queIdx) (s.placed other)
  dequeued : ∀ who queIdx, (s.dequeuer who).queue = some queIdx →
    s.placed queIdx = departedPackets (s.departed queIdx) ++
      ((s.dequeuer who).held ++ (s.txSwQueue queIdx).entries)
  resting : ∀ queIdx, (∀ who, (s.dequeuer who).queue ≠ some queIdx) →
    s.placed queIdx = departedPackets (s.departed queIdx) ++ (s.txSwQueue queIdx).entries
  counted : ∀ queIdx, (s.txSwQueue queIdx).Counted
  disposed : ∀ queIdx call, .transmitted call ∈ s.departed queIdx → call.Disposes

/-- The function that a block is handed to disposes of its packets. -/
def TransmitsRight (s : TxQueues) : TxQueueEvent → Prop
  | .hardTransmit who opMode rdNormal setting =>
      ∀ queIdx later maxTxPackets count pTxBlk,
        s.dequeuer who = .transmitting queIdx later maxTxPackets count pTxBlk →
          HardTransmit.Fits ⟨opMode, rdNormal, setting, pTxBlk.txFrameType, pTxBlk.txPacketList⟩
  | _ => True

structure TxQueueInv (s : TxQueues) : Prop where
  disciplined : Disciplined s
  running : ∀ who queIdx, (s.dequeuer who).queue = some queIdx → s.deQueueRunning queIdx = true
  exclusive : ∀ who other queIdx, (s.dequeuer who).queue = some queIdx →
    (s.dequeuer other).queue = some queIdx → who = other

namespace TxQueueInv
variable {s s' : TxQueues} {who : Nat} {queIdx : QueIdx}

theorem start : TxQueueInv TxQueues.start where
  disciplined :=
    { distinct := fun _ => List.nodup_nil
      apart := fun _ _ _ => List.disjoint_nil_left _
      dequeued := fun _ _ busy => by cases busy
      resting := fun _ _ => rfl
      counted := fun _ => QueueHeader.counted_empty
      disposed := fun _ _ member => by cases member }
  running _ _ busy := by cases busy
  exclusive _ _ _ busy := by cases busy

/-- A caller at no queue goes on, and comes to none. -/
theorem aside (inv : TxQueueInv s) {next : Dequeuer} (away : (s.dequeuer who).queue = none)
    (none : next.queue = none) : TxQueueInv (s.setDequeuer who next) := by
  have same (other : Nat) (queIdx : QueIdx) :
      (Function.update s.dequeuer who next other).queue = some queIdx ↔
        (s.dequeuer other).queue = some queIdx := by
    by_cases here : other = who
    · rw [here, Function.update_self, away, none]
    · rw [Function.update_of_ne here]
  constructor
  · constructor
    · exact inv.disciplined.distinct
    · exact inv.disciplined.apart
    · intro other queIdx busy
      change (Function.update s.dequeuer who next other).queue = _ at busy
      change _ = _ ++ ((Function.update s.dequeuer who next other).held ++ _)
      have apart : other ≠ who := by
        intro here
        rw [here, Function.update_self, none] at busy
        cases busy
      rw [Function.update_of_ne apart] at busy ⊢
      exact inv.disciplined.dequeued other queIdx busy
    · intro queIdx free
      apply inv.disciplined.resting
      exact fun other busy => free other ((same other queIdx).mpr busy)
    · exact inv.disciplined.counted
    · exact inv.disciplined.disposed
  · exact fun other queIdx busy => inv.running other queIdx ((same other queIdx).mp busy)
  · intro first second queIdx busy busy'
    exact inv.exclusive first second queIdx ((same first queIdx).mp busy) ((same second queIdx).mp busy')

/-- The caller at a queue stays there, and packets go on from the queue to its block or leave. -/
theorem advance (inv : TxQueueInv s) (here : (s.dequeuer who).queue = some queIdx)
    {next : Dequeuer} (stays : next.queue = some queIdx) {pQueue : QueueHeader}
    {departures : List Departure}
    (dequeuers : s'.dequeuer = Function.update s.dequeuer who next)
    (queues : s'.txSwQueue = Function.update s.txSwQueue queIdx pQueue)
    (leaving : s'.departed =
      Function.update s.departed queIdx (s.departed queIdx ++ departures))
    (placed : s'.placed = s.placed) (flags : s'.deQueueRunning = s.deQueueRunning)
    (balance : (s.dequeuer who).held ++ (s.txSwQueue queIdx).entries =
      departedPackets departures ++ (next.held ++ pQueue.entries))
    (counted : pQueue.Counted)
    (disposed : ∀ call, .transmitted call ∈ departures → call.Disposes) : TxQueueInv s' := by
  have same (other : Nat) (place : QueIdx) :
      (s'.dequeuer other).queue = some place ↔ (s.dequeuer other).queue = some place := by
    rw [dequeuers]
    by_cases own : other = who
    · rw [own, Function.update_self, stays, here]
    · rw [Function.update_of_ne own]
  constructor
  · constructor
    · rw [placed]
      exact inv.disciplined.distinct
    · rw [placed]
      exact inv.disciplined.apart
    · intro other place busy
      have before := (same other place).mp busy
      rw [placed, dequeuers, queues, leaving]
      by_cases own : other = who
      · obtain rfl : place = queIdx := by
          rw [own, here] at before
          exact (Option.some.inj before).symm
        rw [own, Function.update_self, Function.update_self, Function.update_self,
          inv.disciplined.dequeued who place here, balance]
        unfold departedPackets
        rw [List.flatMap_append, List.append_assoc]
      · have apart : place ≠ queIdx := by
          rintro rfl
          exact own (inv.exclusive other who place before here)
        rw [Function.update_of_ne own, Function.update_of_ne apart, Function.update_of_ne apart]
        exact inv.disciplined.dequeued other place before
    · intro place free
      have apart : place ≠ queIdx := by
        rintro rfl
        exact free who ((same who place).mpr here)
      rw [placed, queues, leaving, Function.update_of_ne apart, Function.update_of_ne apart]
      apply inv.disciplined.resting
      exact fun other busy => free other ((same other place).mpr busy)
    · intro place
      rw [queues]
      by_cases own : place = queIdx
      · rw [own, Function.update_self]
        exact counted
      · rw [Function.update_of_ne own]
        exact inv.disciplined.counted place
    · intro place call member
      rw [leaving] at member
      by_cases own : place = queIdx
      · rw [own, Function.update_self] at member
        rcases List.mem_append.mp member with old | new
        · exact inv.disciplined.disposed queIdx call old
        · exact disposed call new
      · rw [Function.update_of_ne own] at member
        exact inv.disciplined.disposed place call member
  · intro other place busy
    rw [flags]
    exact inv.running other place ((same other place).mp busy)
  · intro first second place busy busy'
    exact inv.exclusive first second place ((same first place).mp busy) ((same second place).mp busy')

/-- The caller at a queue leaves it with an empty block. -/
theorem leave (inv : TxQueueInv s) (here : (s.dequeuer who).queue = some queIdx)
    (empty : (s.dequeuer who).held = []) {next : Dequeuer} (away : next.queue = none)
    {pQueue : QueueHeader} (entries : pQueue.entries = (s.txSwQueue queIdx).entries)
    (counted : pQueue.Counted) :
    TxQueueInv ((s.setQueue queIdx pQueue).leave who queIdx next) := by
  have others {other : Nat} {place : QueIdx}
      (busy : (Function.update s.dequeuer who next other).queue = some place) :
      other ≠ who ∧ (s.dequeuer other).queue = some place ∧ place ≠ queIdx := by
    have own : other ≠ who := by
      rintro rfl
      rw [Function.update_self, away] at busy
      cases busy
    rw [Function.update_of_ne own] at busy
    refine ⟨own, busy, ?_⟩
    rintro rfl
    exact own (inv.exclusive other who place busy here)
  have kept (place : QueIdx) :
      (Function.update s.txSwQueue queIdx pQueue place).entries = (s.txSwQueue place).entries := by
    by_cases own : place = queIdx
    · rw [own, Function.update_self, entries]
    · rw [Function.update_of_ne own]
  constructor
  · constructor
    · exact inv.disciplined.distinct
    · exact inv.disciplined.apart
    · intro other place busy
      obtain ⟨own, before, _⟩ := others busy
      change _ = _ ++ ((Function.update s.dequeuer who next other).held ++
        (Function.update s.txSwQueue queIdx pQueue place).entries)
      rw [Function.update_of_ne own, kept]
      exact inv.disciplined.dequeued other place before
    · intro place free
      change _ = _ ++ (Function.update s.txSwQueue queIdx pQueue place).entries
      rw [kept]
      by_cases own : place = queIdx
      · rw [own]
        have all := inv.disciplined.dequeued who queIdx here
        rw [empty, List.nil_append] at all
        exact all
      · apply inv.disciplined.resting
        intro other busy
        have apart : other ≠ who := by
          rintro rfl
          rw [here] at busy
          exact own (Option.some.inj busy).symm
        apply free other
        change (Function.update s.dequeuer who next other).queue = some place
        rw [Function.update_of_ne apart]
        exact busy
    · intro place
      change (Function.update s.txSwQueue queIdx pQueue place).Counted
      by_cases own : place = queIdx
      · rw [own, Function.update_self]
        exact counted
      · rw [Function.update_of_ne own]
        exact inv.disciplined.counted place
    · exact inv.disciplined.disposed
  · intro other place busy
    obtain ⟨_, before, apart⟩ := others busy
    change Function.update s.deQueueRunning queIdx false place = true
    rw [Function.update_of_ne apart]
    exact inv.running other place before
  · intro first second place busy busy'
    exact inv.exclusive first second place (others busy).2.1 (others busy').2.1

/-- A caller comes to a queue that nobody dequeues from. -/
theorem enter (inv : TxQueueInv s) (away : (s.dequeuer who).queue = none)
    (free : s.deQueueRunning queIdx = false) (later : List QueIdx) (maxTxPackets : Int) :
    TxQueueInv { s.setDequeuer who (.looping queIdx later maxTxPackets 0) with
      deQueueRunning := Function.update s.deQueueRunning queIdx true } := by
  have nobody (other : Nat) : (s.dequeuer other).queue ≠ some queIdx := by
    intro busy
    rw [inv.running other queIdx busy] at free
    cases free
  have others {other : Nat} {place : QueIdx}
      (busy : (Function.update s.dequeuer who (.looping queIdx later maxTxPackets 0) other).queue =
        some place) :
      other = who ∧ place = queIdx ∨
        other ≠ who ∧ (s.dequeuer other).queue = some place ∧ place ≠ queIdx := by
    by_cases own : other = who
    · rw [own, Function.update_self] at busy
      exact .inl ⟨own, (Option.some.inj busy).symm⟩
    · rw [Function.update_of_ne own] at busy
      refine .inr ⟨own, busy, ?_⟩
      rintro rfl
      exact nobody other busy
  constructor
  · constructor
    · exact inv.disciplined.distinct
    · exact inv.disciplined.apart
    · intro other place busy
      change _ = _ ++ ((Function.update s.dequeuer who _ other).held ++ _)
      rcases others busy with ⟨rfl, rfl⟩ | ⟨own, before, _⟩
      · rw [Function.update_self]
        exact inv.disciplined.resting place nobody
      · rw [Function.update_of_ne own]
        exact inv.disciplined.dequeued other place before
    · intro place unused
      apply inv.disciplined.resting
      intro other busy
      have own : other ≠ who := by
        rintro rfl
        rw [away] at busy
        cases busy
      apply unused other
      change (Function.update s.dequeuer who _ other).queue = some place
      rw [Function.update_of_ne own]
      exact busy
    · exact inv.disciplined.counted
    · exact inv.disciplined.disposed
  · intro other place busy
    change Function.update s.deQueueRunning queIdx true place = true
    rcases others busy with ⟨_, rfl⟩ | ⟨_, before, apart⟩
    · exact Function.update_self _ _ _
    · rw [Function.update_of_ne apart]
      exact inv.running other place before
  · intro first second place busy busy'
    rcases others busy with ⟨rfl, rfl⟩ | ⟨_, before, apart⟩
    · rcases others busy' with ⟨rfl, _⟩ | ⟨_, _, apart'⟩
      · rfl
      · exact absurd rfl apart'
    · rcases others busy' with ⟨_, same⟩ | ⟨_, before', _⟩
      · exact absurd same apart
      · exact inv.exclusive first second place before before'

theorem enqueue (inv : TxQueueInv s) (queIdx : QueIdx) {pPacket : Packet}
    (fresh : ¬ ∃ other, pPacket ∈ s.placed other) :
    TxQueueInv { s.setQueue queIdx ((s.txSwQueue queIdx).insertTailQueue pPacket) with
      placed := Function.update s.placed queIdx (s.placed queIdx ++ [pPacket]) } := by
  have unplaced (place : QueIdx) : pPacket ∉ s.placed place := fun inside => fresh ⟨place, inside⟩
  constructor
  · constructor
    · intro place
      change (Function.update s.placed queIdx _ place).Nodup
      by_cases own : place = queIdx
      · rw [own, Function.update_self]
        apply List.Nodup.append (inv.disciplined.distinct queIdx) (List.nodup_singleton pPacket)
        exact List.disjoint_singleton.mpr (unplaced queIdx)
      · rw [Function.update_of_ne own]
        exact inv.disciplined.distinct place
    · intro place place' apart
      change List.Disjoint (Function.update s.placed queIdx _ place)
        (Function.update s.placed queIdx _ place')
      by_cases own : place = queIdx
      · have own' : place' ≠ queIdx := fun same => apart (own.trans same.symm)
        rw [own, Function.update_self, Function.update_of_ne own']
        apply List.disjoint_append_left.mpr
        apply And.intro (inv.disciplined.apart queIdx place' own'.symm)
        exact List.singleton_disjoint.mpr (unplaced place')
      · rw [Function.update_of_ne own]
        by_cases own' : place' = queIdx
        · rw [own', Function.update_self]
          apply List.disjoint_append_right.mpr
          apply And.intro (inv.disciplined.apart place queIdx own)
          exact List.disjoint_singleton.mpr (unplaced place)
        · rw [Function.update_of_ne own']
          exact inv.disciplined.apart place place' apart
    · intro other place busy
      change Function.update s.placed queIdx _ place = _ ++
        ((s.dequeuer other).held ++ (Function.update s.txSwQueue queIdx _ place).entries)
      have before := inv.disciplined.dequeued other place busy
      by_cases own : place = queIdx
      · rw [own, Function.update_self, Function.update_self, ← own, before]
        simp only [QueueHeader.insertTailQueue, TxQueues.setQueue, List.append_assoc]
      · rw [Function.update_of_ne own, Function.update_of_ne own]
        exact before
    · intro place free
      change Function.update s.placed queIdx _ place = _ ++
        (Function.update s.txSwQueue queIdx _ place).entries
      have before := inv.disciplined.resting place free
      by_cases own : place = queIdx
      · rw [own, Function.update_self, Function.update_self, ← own, before]
        simp only [QueueHeader.insertTailQueue, TxQueues.setQueue, List.append_assoc]
      · rw [Function.update_of_ne own, Function.update_of_ne own]
        exact before
    · intro place
      change (Function.update s.txSwQueue queIdx _ place).Counted
      by_cases own : place = queIdx
      · rw [own, Function.update_self]
        exact QueueHeader.counted_insertTailQueue (inv.disciplined.counted queIdx) pPacket
      · rw [Function.update_of_ne own]
        exact inv.disciplined.counted place
    · exact inv.disciplined.disposed
  · exact inv.running
  · exact inv.exclusive

theorem turn (inv : TxQueueInv s) (input : TurnInput) {later : List QueIdx} {maxTxPackets : Int}
    {count : UInt8} (looping : s.dequeuer who = .looping queIdx later maxTxPackets count) :
    TxQueueInv (s.turn who input queIdx later maxTxPackets count) := by
  have here : (s.dequeuer who).queue = some queIdx := by rw [looping]; rfl
  have empty : (s.dequeuer who).held = [] := by rw [looping]; rfl
  have counted := inv.disciplined.counted queIdx
  have unchanged : s.setQueue queIdx (s.txSwQueue queIdx) = s := by
    unfold TxQueues.setQueue
    rw [Function.update_eq_self]
  have stop (next : Dequeuer) (away : next.queue = none) : TxQueueInv (s.leave who queIdx next) := by
    rw [← unchanged]
    have left := inv.leave here empty away rfl counted
    rw [unchanged] at left ⊢
    exact left
  have kept := dequeueTurn_keeps input (s.txSwQueue queIdx)
  unfold TxQueues.turn
  split_ifs
  · exact stop .idle rfl
  · exact stop (.starting later maxTxPackets) rfl
  · cases result : dequeueTurn input (s.txSwQueue queIdx) with
    | done pQueue =>
      rw [result] at kept
      exact inv.leave here empty rfl kept.1 (kept.2 counted)
    | mgmtRing pPacket pQueue =>
      rw [result] at kept
      refine inv.advance here ?_ rfl rfl rfl rfl rfl ?_ (kept.2 counted) ?_
      · rfl
      · rw [empty]
        exact kept.1
      · intro call member
        cases List.mem_singleton.mp member
    | freed pPacket pQueue =>
      rw [result] at kept
      refine inv.advance here ?_ rfl rfl rfl rfl rfl ?_ (kept.2 counted) ?_
      · rfl
      · rw [empty]
        exact kept.1
      · intro call member
        cases List.mem_singleton.mp member
    | block pTxBlk pQueue =>
      rw [result] at kept
      have none : s.departed = Function.update s.departed queIdx (s.departed queIdx ++ []) := by
        rw [List.append_nil, Function.update_eq_self]
      refine inv.advance here ?_ rfl rfl none rfl rfl ?_ (kept.2 counted) ?_
      · rfl
      · rw [empty]
        exact kept.1
      · intro call member
        cases member

section Transmitting
variable {later : List QueIdx} {maxTxPackets : Int} {count : UInt8} {pTxBlk : DequeuedBlock}

/-- The packets of a block are distinct. -/
theorem block_distinct (inv : TxQueueInv s)
    (sending : s.dequeuer who = .transmitting queIdx later maxTxPackets count pTxBlk) :
    pTxBlk.txPacketList.Nodup := by
  have here : (s.dequeuer who).queue = some queIdx := by rw [sending]; rfl
  have distinct := inv.disciplined.distinct queIdx
  rw [inv.disciplined.dequeued who queIdx here, sending] at distinct
  exact (List.nodup_append.mp (List.nodup_append.mp distinct).2.1).1

theorem transmit (inv : TxQueueInv s) (opMode : OpMode) (rdNormal : Bool) (setting : FrameSetting)
    (sending : s.dequeuer who = .transmitting queIdx later maxTxPackets count pTxBlk)
    (fits : HardTransmit.Fits
      ⟨opMode, rdNormal, setting, pTxBlk.txFrameType, pTxBlk.txPacketList⟩) :
    TxQueueInv ((s.depart queIdx (.transmitted
      ⟨opMode, rdNormal, setting, pTxBlk.txFrameType, pTxBlk.txPacketList⟩)).setDequeuer who
        (.looping queIdx later maxTxPackets count)) := by
  have here : (s.dequeuer who).queue = some queIdx := by rw [sending]; rfl
  have same : s.txSwQueue = Function.update s.txSwQueue queIdx (s.txSwQueue queIdx) :=
    (Function.update_eq_self _ _).symm
  refine inv.advance here ?_ rfl same rfl rfl rfl ?_ (inv.disciplined.counted queIdx) ?_
  · rfl
  · rw [sending]
    simp [departedPackets, Departure.packets, Dequeuer.held]
  · intro call member
    obtain rfl := Departure.transmitted.inj (List.mem_singleton.mp member)
    exact (HardTransmit.disposes_iff _ (inv.block_distinct sending)).mpr fits

end Transmitting

theorem step (inv : TxQueueInv s) (event : TxQueueEvent) (right : TransmitsRight s event) :
    TxQueueInv (s.step event) := by
  cases event with
  | enqueue queIdx pPacket =>
    unfold TxQueues.step
    dsimp only
    split_ifs with known
    · exact inv
    · exact inv.enqueue queIdx known
  | call who qIdx maxTxPackets =>
    unfold TxQueues.step
    dsimp only
    split
    next idle =>
      apply inv.aside _ rfl
      rw [idle]
      rfl
    next => exact inv
  | start who =>
    unfold TxQueues.step
    dsimp only
    split
    next starting =>
      apply inv.aside _ rfl
      rw [starting]
      rfl
    next queIdx later maxTxPackets starting =>
      have away : (s.dequeuer who).queue = none := by rw [starting]; rfl
      split_ifs with running
      · exact inv.aside away rfl
      · exact inv.enter away (Bool.not_eq_true _ ▸ running) later maxTxPackets
    next => exact inv
  | turn who input =>
    unfold TxQueues.step
    dsimp only
    split
    next looping => exact inv.turn input looping
    next => exact inv
  | hardTransmit who opMode rdNormal setting =>
    unfold TxQueues.step
    dsimp only
    split
    next sending => exact inv.transmit opMode rdNormal setting sending (right _ _ _ _ _ sending)
    next => exact inv

/-- A block that its function does not dispose of breaks the discipline. -/
theorem breaks (inv : TxQueueInv s) {event : TxQueueEvent} (wrong : ¬ TransmitsRight s event) :
    ¬ Disciplined (s.step event) := by
  cases event with
  | hardTransmit who opMode rdNormal setting =>
    unfold TransmitsRight at wrong
    simp only [not_forall] at wrong
    obtain ⟨queIdx, later, maxTxPackets, count, pTxBlk, sending, misfit⟩ := wrong
    intro disciplined
    apply misfit
    apply (HardTransmit.disposes_iff _ (inv.block_distinct sending)).mp
    apply disciplined.disposed queIdx
    simp only [TxQueues.step, sending]
    change _ ∈ Function.update s.departed queIdx _ queIdx
    rw [Function.update_self]
    exact List.mem_append_right _ List.mem_cons_self
  | enqueue queIdx pPacket => exact absurd trivial wrong
  | call who qIdx maxTxPackets => exact absurd trivial wrong
  | start who => exact absurd trivial wrong
  | turn who input => exact absurd trivial wrong

end TxQueueInv

/-- In every interleaving of callers the queues keep their packets in order, once each, and every packet
that leaves goes to a ring or is freed once, in every state, exactly when each block is handed to a function
that disposes of its packets. -/
theorem txQueues_disciplined_iff (events : List TxQueueEvent) :
    (∀ n, Disciplined (run TxQueues.step TxQueues.start (events.take n))) ↔
      Throughout TxQueues.step TransmitsRight TxQueues.start events :=
  forall_take_iff_throughout TxQueueInv Disciplined (fun _ inv => inv.disciplined)
    (fun _ event inv right => inv.step event right)
    (fun _ _ inv wrong => inv.breaks wrong) .start events

section Forgotten

/-- One packet to a client of an access point, for which there is a block-ack session. -/
def ampduTurn : TurnInput where
  stopped := false
  mgmtPkt _ := false
  mgmtRingTakes := false
  jammed _ := false
  len _ := 60
  ring _ := ⟨false, 4096, 4096, 4096⟩
  irpPending _ := false
  txFrameType _ := txAmpduFrame
  canDoAggregateTransmit _ _ := false

def forgottenRun : List TxQueueEvent :=
  [.enqueue qidAcBe 1, .call 0 (some qidAcBe) 16, .start 0, .turn 0 ampduTurn,
    .hardTransmit 0 .ap true clientFrames]

theorem not_txQueues_disciplined :
    ¬ ∀ (events : List TxQueueEvent) (n : Nat),
      Disciplined (run TxQueues.step TxQueues.start (events.take n)) := by
  intro always
  have left : (run TxQueues.step TxQueues.start forgottenRun).departed qidAcBe =
      [.transmitted ⟨.ap, true, clientFrames, txAmpduFrame, [1]⟩] := by
    rfl
  have member : .transmitted ⟨.ap, true, clientFrames, txAmpduFrame, [1]⟩ ∈
      (run TxQueues.step TxQueues.start forgottenRun).departed qidAcBe := by
    rw [left]
    exact List.mem_cons_self
  have disposes := (always forgottenRun 5).disposed qidAcBe _ member
  obtain ⟨pPacket, only, refused⟩ :=
    (HardTransmit.disposes_iff _ (List.nodup_singleton 1)).mp disposes
  obtain rfl := List.singleton_inj.mp only
  cases refused

end Forgotten

end Mt7612u.Transmit
