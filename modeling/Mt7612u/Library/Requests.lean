import Mathlib

/-! Requests and their confirmations, in the order in which they come: each confirmation answers a
request of its own kind that was taken before and that is not answered yet. -/

namespace Mt7612u.Library.Requests

variable {Kind Status : Type*} [DecidableEq Kind]

inductive Event (Kind Status : Type*) where
  | taken (kind : Kind)
  | confirmed (kind : Kind) (status : Status)

/-- The requests that wait for an answer after an event; none, when the event answers a request
that nobody made. -/
def settle : Option (List Kind) → Event Kind Status → Option (List Kind)
  | none, _ => none
  | some waiting, .taken kind => some (kind :: waiting)
  | some waiting, .confirmed kind _ =>
      if kind ∈ waiting then some (waiting.erase kind) else none

def settleAll (waiting : Option (List Kind)) (events : List (Event Kind Status)) :
    Option (List Kind) :=
  events.foldl settle waiting

/-- The requests not answered at the end. -/
def unanswered (events : List (Event Kind Status)) : Option (List Kind) :=
  settleAll (some []) events

def isTaken (kind : Kind) : Event Kind Status → Bool
  | .taken other => other == kind
  | .confirmed _ _ => false

def isConfirmed (kind : Kind) : Event Kind Status → Bool
  | .taken _ => false
  | .confirmed other _ => other == kind

theorem unanswered_append (before after : List (Event Kind Status)) :
    unanswered (before ++ after) = settleAll (unanswered before) after :=
  List.foldl_append

theorem settleAll_none (events : List (Event Kind Status)) : settleAll none events = none := by
  induction events with
  | nil => rfl
  | cons event rest ih => exact ih

@[simp] theorem settleAll_nil (waiting : Option (List Kind)) :
    settleAll waiting ([] : List (Event Kind Status)) = waiting := rfl

@[simp] theorem settleAll_taken (waiting : List Kind) (kind : Kind)
    (events : List (Event Kind Status)) :
    settleAll (some waiting) (.taken kind :: events) = settleAll (some (kind :: waiting)) events :=
  rfl

@[simp] theorem settleAll_confirmed_self (waiting : List Kind) (kind : Kind) (status : Status)
    (events : List (Event Kind Status)) :
    settleAll (some (kind :: waiting)) (.confirmed kind status :: events) =
      settleAll (some waiting) events := by
  simp [settleAll, settle]

@[simp] theorem settleAll_confirmed_nil (kind : Kind) (status : Status)
    (events : List (Event Kind Status)) :
    settleAll (some ([] : List Kind)) (.confirmed kind status :: events) = none :=
  settleAll_none events

end Mt7612u.Library.Requests
