import Mt7612u.BlockAck.WindowInvariant

/-! The order in which a session hands frames on, read off its log. A reader of the log
follows `LastIndSeq` forward over the unbounded count and places each number there. -/

namespace Mt7612u.BlockAck
open Receive Library.Resequencer Library.Run

/-- The number of a frame that leaves the reorder path: indicated, reported to the MLME,
or turned away at the hand-off. -/
def Outcome.handedOn : Outcome → Option Nat
  | .indicate _ sequence => some sequence
  | .reportMlme _ sequence => some sequence
  | .refused sequence => some sequence
  | _ => none

structure Reader where
  last : Option Nat
  /-- the frame handed on last since the reset -/
  previous : Option Nat
  /-- whether a BAR has moved the window since then -/
  barred : Bool

namespace Reader

def start : Reader := ⟨none, none, false⟩

/-- The first position from `LastIndSeq` on. -/
def position (r : Reader) (sequence : Nat) : Nat := ahead (r.last.getD 0) sequence

def read (r : Reader) (outcome : Outcome) : Reader :=
  match outcome with
  | .lastIndSeq value =>
      if value = resetRcvSeq then start
      else { r with last := some (r.last.elim value fun last => ahead last value) }
  | .bar _ => { r with barred := true }
  | outcome =>
      match outcome.handedOn with
      | none => r
      | some sequence => { r with previous := some (r.position sequence), barred := false }

/-- A frame handed on comes after the previous one, and unless a BAR moved the window in
between its number is larger. -/
def Accepts (r : Reader) (outcome : Outcome) : Prop :=
  ∀ sequence, outcome.handedOn = some sequence → ∀ p, r.previous = some p →
    p < r.position sequence ∧ (r.barred = false → seqLarger sequence (p % 4096) maxSeq = true)

end Reader

def Advancing : Reader → List Outcome → Prop
  | _, [] => True
  | r, outcome :: rest => r.Accepts outcome ∧ Advancing (r.read outcome) rest

def readLog (log : List Outcome) : Reader := log.foldl Reader.read .start

theorem advancing_append (r : Reader) (log outcomes : List Outcome) :
    Advancing r (log ++ outcomes) ↔
      Advancing r log ∧ Advancing (log.foldl Reader.read r) outcomes := by
  induction log generalizing r with
  | nil => simp [Advancing]
  | cons outcome rest ih => simp [Advancing, ih, and_assoc]

theorem readLog_append (log outcomes : List Outcome) :
    readLog (log ++ outcomes) = outcomes.foldl Reader.read (readLog log) :=
  List.foldl_append

/-- The log so far advances. The frame handed on last lies below `ceiling`, and numbers
up to `reach` are larger than its own. -/
structure Tracked (log : List Outcome) (last ceiling reach : Nat) : Prop where
  advancing : Advancing .start log
  last : (readLog log).last = some last
  previous : ∀ p, (readLog log).previous = some p →
    p < ceiling ∧ ((readLog log).barred = false → reach ≤ p + 2047)

/-- The log so far advances, and it ends with a reset. -/
structure Blank (log : List Outcome) : Prop where
  advancing : Advancing .start log
  last : (readLog log).last = none
  previous : (readLog log).previous = none

variable {log : List Outcome} {last ceiling reach : Nat}

theorem Tracked.mono (tracked : Tracked log last ceiling reach) {ceiling' reach' : Nat}
    (above : ceiling ≤ ceiling') (below : reach' ≤ reach) : Tracked log last ceiling' reach' :=
  ⟨tracked.advancing, tracked.last, fun p found =>
    ⟨(tracked.previous p found).1.trans_le above,
      fun clear => below.trans ((tracked.previous p found).2 clear)⟩⟩

theorem accepts_of_silent (r : Reader) (outcome : Outcome) (silent : outcome.handedOn = none) :
    r.Accepts outcome := by
  intro sequence handed
  rw [silent] at handed
  exact absurd handed (by simp)

theorem advancing_silent (advancing : Advancing .start log) (outcome : Outcome)
    (silent : outcome.handedOn = none) : Advancing .start (log ++ [outcome]) :=
  (advancing_append _ _ _).2 ⟨advancing, accepts_of_silent _ _ silent, trivial⟩

theorem Reader.read_handedOn (r : Reader) (outcome : Outcome) (sequence : Nat)
    (handed : outcome.handedOn = some sequence) :
    r.read outcome = { r with previous := some (r.position sequence), barred := false } := by
  cases outcome <;> simp_all [Outcome.handedOn, Reader.read]

/-- The position `q` is handed on. -/
theorem Tracked.handOn (tracked : Tracked log last ceiling reach) (outcome : Outcome) {q : Nat}
    (handed : outcome.handedOn = some (q % 4096)) (above : last ≤ q) (near : q < last + 4096)
    (later : ceiling ≤ q) (within : q ≤ reach) :
    Tracked (log ++ [outcome]) last (q + 1) (q + 2047) := by
  have place : (readLog log).position (q % 4096) = q := by
    simp only [Reader.position, tracked.last, Option.getD_some]
    exact ahead_of_le above near
  have now : readLog (log ++ [outcome]) =
      { readLog log with previous := some q, barred := false } := by
    rw [readLog_append, List.foldl_cons, List.foldl_nil, Reader.read_handedOn _ _ _ handed, place]
  refine ⟨(advancing_append _ _ _).2 ⟨tracked.advancing, ?_, trivial⟩, ?_, ?_⟩
  · intro sequence same p found
    rw [handed, Option.some.injEq] at same
    subst same
    have before := tracked.previous p found
    rw [show log.foldl Reader.read .start = readLog log from rfl, place]
    refine ⟨by omega, fun clear => ?_⟩
    have close := before.2 clear
    exact seqLarger_mod q p (by omega) (by omega)
  · rw [now]
    exact tracked.last
  · intro p found
    rw [now, Option.some.injEq] at found
    subst found
    exact ⟨Nat.lt_succ_self _, fun _ => le_rfl⟩

/-- Freeing a packet tells the reader nothing. -/
theorem Tracked.kfree (tracked : Tracked log last ceiling reach) (packet : Packet) :
    Tracked (log ++ [.kfree packet]) last ceiling reach := by
  have same : readLog (log ++ [.kfree packet]) = readLog log := by
    rw [readLog_append]
    rfl
  refine ⟨advancing_silent tracked.advancing _ rfl, ?_, ?_⟩
  · rw [same]
    exact tracked.last
  · rw [same]
    exact tracked.previous

theorem Tracked.setLast (tracked : Tracked log last ceiling reach) (next : Nat)
    (above : last ≤ next) (near : next < last + 4096) :
    Tracked (log ++ [.lastIndSeq (next % 4096)]) next ceiling reach := by
  have started : next % 4096 ≠ resetRcvSeq := by
    unfold resetRcvSeq
    omega
  have now : readLog (log ++ [.lastIndSeq (next % 4096)]) =
      { readLog log with last := some next } := by
    rw [readLog_append, List.foldl_cons, List.foldl_nil, Reader.read, if_neg started, tracked.last]
    simp only [Option.elim_some, ahead_of_le above near]
  refine ⟨advancing_silent tracked.advancing _ rfl, ?_, ?_⟩
  · rw [now]
  · rw [now]
    exact tracked.previous

/-- Past a BAR nothing is promised about the next number but its position. -/
theorem Tracked.bar (tracked : Tracked log last ceiling reach) (startSeq reach' : Nat) :
    Tracked (log ++ [.bar startSeq]) last ceiling reach' := by
  have now : readLog (log ++ [.bar startSeq]) = { readLog log with barred := true } := by
    rw [readLog_append]
    rfl
  refine ⟨advancing_silent tracked.advancing _ rfl, ?_, ?_⟩
  · rw [now]
    exact tracked.last
  · rw [now]
    exact fun p found => ⟨(tracked.previous p found).1, fun clear => by simp at clear⟩

theorem Tracked.reset (tracked : Tracked log last ceiling reach) :
    Blank (log ++ [.lastIndSeq resetRcvSeq]) := by
  have now : readLog (log ++ [.lastIndSeq resetRcvSeq]) = .start := by
    rw [readLog_append]
    rfl
  refine ⟨advancing_silent tracked.advancing _ rfl, ?_, ?_⟩
  · rw [now]
    rfl
  · rw [now]
    rfl

theorem Blank.reset (blank : Blank log) : Blank (log ++ [.lastIndSeq resetRcvSeq]) := by
  have now : readLog (log ++ [.lastIndSeq resetRcvSeq]) = .start := by
    rw [readLog_append]
    rfl
  refine ⟨advancing_silent blank.advancing _ rfl, ?_, ?_⟩
  · rw [now]
    rfl
  · rw [now]
    rfl

/-- The first number a session without a window sees. -/
theorem Blank.open (blank : Blank log) (before : List Outcome)
    (silent : before = [] ∨ ∃ startSeq, before = [.bar startSeq]) {value : Nat}
    (number : value < 4096) (ceiling reach : Nat) :
    Tracked (log ++ before ++ [.lastIndSeq value]) value ceiling reach := by
  have started : value ≠ resetRcvSeq := by
    unfold resetRcvSeq
    omega
  have kept : (readLog (log ++ before)).last = none ∧ (readLog (log ++ before)).previous = none ∧
      Advancing .start (log ++ before) := by
    rcases silent with rfl | ⟨startSeq, rfl⟩
    · rw [List.append_nil]
      exact ⟨blank.last, blank.previous, blank.advancing⟩
    · rw [readLog_append]
      exact ⟨blank.last, blank.previous, advancing_silent blank.advancing _ rfl⟩
  have now : readLog (log ++ before ++ [.lastIndSeq value]) =
      { readLog (log ++ before) with last := some value } := by
    rw [readLog_append, List.foldl_cons, List.foldl_nil, Reader.read, if_neg started, kept.1]
    rfl
  refine ⟨advancing_silent kept.2.2 _ rfl, ?_, ?_⟩
  · rw [now]
  · intro p found
    rw [now, kept.2.1] at found
    simp at found

end Mt7612u.BlockAck
