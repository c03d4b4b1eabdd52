import Mathlib

/-! Runs of a deterministic machine under a list of events, and the rules that carry an
invariant along a run whose events meet a condition on the state they find. In the second half
a step may have no next state. -/

namespace Mt7612u.Library.Run

variable {State Event : Type*} (step : State → Event → State)

def run (s : State) (events : List Event) : State := events.foldl step s

/-- Each event of the run is allowed in the state it comes in. -/
def Throughout (allowed : State → Event → Prop) : State → List Event → Prop
  | _, [] => True
  | s, event :: rest => allowed s event ∧ Throughout allowed (step s event) rest

variable {step}

@[simp] theorem run_nil (s : State) : run step s [] = s := rfl

@[simp] theorem run_cons (s : State) (event : Event) (rest : List Event) :
    run step s (event :: rest) = run step (step s event) rest := rfl

theorem throughout_always (s : State) (events : List Event) :
    Throughout step (fun _ _ => True) s events := by
  induction events generalizing s with
  | nil => trivial
  | cons event rest ih => exact ⟨trivial, ih (step s event)⟩

theorem Throughout.mono {allowed wider : State → Event → Prop}
    (weaker : ∀ s event, allowed s event → wider s event) {s : State} {events : List Event}
    (along : Throughout step allowed s events) : Throughout step wider s events := by
  induction events generalizing s with
  | nil => trivial
  | cons event rest ih => exact ⟨weaker s event along.1, ih along.2⟩

/-- What the allowed events preserve holds after the run. -/
theorem run_invariant {allowed : State → Event → Prop} (invariant : State → Prop)
    (keeps : ∀ s event, invariant s → allowed s event → invariant (step s event))
    {s : State} (start : invariant s) (events : List Event)
    (along : Throughout step allowed s events) : invariant (run step s events) := by
  induction events generalizing s with
  | nil => exact start
  | cons event rest ih => exact ih (keeps s event start along.1) along.2

/-- A rank that the allowed events lower comes down to zero. -/
theorem run_rank_eq_zero {allowed : State → Event → Prop} (invariant : State → Prop)
    (rank : State → Nat)
    (keeps : ∀ s event, invariant s → invariant (step s event))
    (lowers : ∀ s event, invariant s → allowed s event → rank (step s event) ≤ rank s - 1)
    {s : State} (start : invariant s) (events : List Event) (enough : rank s ≤ events.length)
    (along : Throughout step allowed s events) : rank (run step s events) = 0 := by
  induction events generalizing s with
  | nil => exact Nat.le_zero.mp enough
  | cons event rest ih =>
    apply ih (keeps s event start) _ along.2
    have lower := lowers s event start along.1
    rw [List.length_cons] at enough
    omega

/-- A property holds in every state of a run exactly when the events are allowed, where an event
that is not allowed ends it. -/
theorem forall_take_iff_throughout {allowed : State → Event → Prop}
    (invariant property : State → Prop) (implies : ∀ s, invariant s → property s)
    (keeps : ∀ s event, invariant s → allowed s event → invariant (step s event))
    (breaks : ∀ s event, invariant s → ¬ allowed s event → ¬ property (step s event))
    {s : State} (start : invariant s) (events : List Event) :
    (∀ n, property (run step s (events.take n))) ↔ Throughout step allowed s events := by
  induction events generalizing s with
  | nil =>
    apply iff_of_true _ trivial
    intro n
    rw [List.take_nil]
    exact implies s start
  | cons event rest ih =>
    constructor
    · intro always
      have permitted : allowed s event := by
        by_contra forbidden
        exact breaks s event start forbidden (always 1)
      apply And.intro permitted
      apply (ih (keeps s event start permitted)).mp
      intro n
      exact always (n + 1)
    · intro along n
      cases n with
      | zero => exact implies s start
      | succ n => exact (ih (keeps s event start along.1)).mpr along.2 n

instance (allowed : State → Event → Prop) [∀ s event, Decidable (allowed s event)] (s : State)
    (events : List Event) : Decidable (Throughout step allowed s events) :=
  match events with
  | [] => inferInstanceAs (Decidable True)
  | event :: rest =>
      have : Decidable (Throughout step allowed (step s event) rest) :=
        instDecidableThroughout allowed (step s event) rest
      inferInstanceAs (Decidable (_ ∧ _))

section Partial
variable (advance : State → Event → Option State)

/-- The state after the events, when each of them has a next state. -/
def runOption : State → List Event → Option State
  | s, [] => some s
  | s, event :: rest => (advance s event).bind fun s' => runOption s' rest

/-- Each event of the run is allowed in the state it comes in. -/
def ThroughoutOption (allowed : State → Event → Prop) : State → List Event → Prop
  | _, [] => True
  | s, event :: rest =>
      allowed s event ∧ ∀ s', advance s event = some s' → ThroughoutOption allowed s' rest

variable {advance}

/-- What the allowed events preserve holds wherever a run ends. -/
theorem runOption_invariant {allowed : State → Event → Prop} (invariant : State → Prop)
    (keeps : ∀ s event s', invariant s → allowed s event → advance s event = some s' →
      invariant s')
    {s s' : State} (start : invariant s) (events : List Event)
    (along : ThroughoutOption advance allowed s events)
    (ends : runOption advance s events = some s') : invariant s' := by
  induction events generalizing s with
  | nil =>
    obtain rfl := Option.some.inj ends
    exact start
  | cons event rest ih =>
    obtain ⟨next, stepped, ends⟩ := Option.bind_eq_some_iff.mp ends
    exact ih (keeps s event next start along.1 stepped) (along.2 next stepped) ends

/-- When the allowed events have a next state wherever the invariant holds, the run ends. -/
theorem runOption_total {allowed : State → Event → Prop} (invariant : State → Prop)
    (keeps : ∀ s event, invariant s → allowed s event →
      ∃ s', advance s event = some s' ∧ invariant s')
    {s : State} (start : invariant s) (events : List Event)
    (along : ThroughoutOption advance allowed s events) :
    ∃ s', runOption advance s events = some s' ∧ invariant s' := by
  induction events generalizing s with
  | nil => exact ⟨s, rfl, start⟩
  | cons event rest ih =>
    obtain ⟨next, stepped, kept⟩ := keeps s event start along.1
    obtain ⟨s', ends, holds⟩ := ih kept (along.2 next stepped)
    exact ⟨s', Option.bind_eq_some_iff.mpr ⟨next, stepped, ends⟩, holds⟩

theorem throughoutOption_of_none {allowed : State → Event → Prop} {s : State} {event : Event}
    (rest : List Event) (ends : advance s event = none) :
    ThroughoutOption advance allowed s (event :: rest) ↔ allowed s event := by
  constructor
  · exact And.left
  · intro permitted
    apply And.intro permitted
    intro s' stepped
    rw [ends] at stepped
    cases stepped

theorem throughoutOption_of_some {allowed : State → Event → Prop} {s s' : State} {event : Event}
    (rest : List Event) (stepped : advance s event = some s') :
    ThroughoutOption advance allowed s (event :: rest) ↔
      allowed s event ∧ ThroughoutOption advance allowed s' rest := by
  constructor
  · intro along
    exact ⟨along.1, along.2 s' stepped⟩
  · intro along
    apply And.intro along.1
    intro next toNext
    obtain rfl := Option.some.inj (stepped.symm.trans toNext)
    exact along.2

instance (allowed : State → Event → Prop) [∀ s event, Decidable (allowed s event)] (s : State)
    (events : List Event) : Decidable (ThroughoutOption advance allowed s events) :=
  match events with
  | [] => inferInstanceAs (Decidable True)
  | event :: rest =>
      match next : advance s event with
      | none => decidable_of_iff _ (throughoutOption_of_none rest next).symm
      | some s' =>
          have : Decidable (ThroughoutOption advance allowed s' rest) :=
            instDecidableThroughoutOption allowed s' rest
          decidable_of_iff _ (throughoutOption_of_some rest next).symm

end Partial

end Mt7612u.Library.Run
