import Mathlib

/-! Traces of what is done with resources that end with their release: nothing may be done with a
resource after that. The lives of distinct resources, one after the other, make such a trace. -/

namespace Mt7612u.Library.Ownership

variable {Event Resource : Type*} (about : Event → Resource) (release : Resource → Event)

/-- Nothing in the trace is about a resource released before. -/
def Safe (trace : List Event) : Prop :=
  trace.Pairwise fun earlier later =>
    ∀ resource, earlier = release resource → about later ≠ resource

/-- What is done until one resource is released, with it and with others that are still alive. -/
def Life (resource : Resource) (alive : List Resource) (life : List Event) : Prop :=
  ∃ body, life = body ++ [release resource] ∧
    ∀ event ∈ body, about event ∈ resource :: alive ∧ ∀ other, event ≠ release other

/-- The lives of several resources, one after the other, each of which ends as it is fated to. -/
inductive Lives (fate : Resource → List Event → Prop) : List Resource → List Event → Prop where
  | nil : Lives fate [] []
  | cons {resource : Resource} {resources : List Resource} {life trace : List Event}
      (first : Life about release resource resources life) (fated : fate resource life)
      (later : Lives fate resources trace) :
      Lives fate (resource :: resources) (life ++ trace)

variable {about release} {fate : Resource → List Event → Prop}

theorem Safe.part {part trace : List Event} (safe : Safe about release trace)
    (inside : part <:+: trace) : Safe about release part :=
  List.Pairwise.sublist inside.sublist safe

/-- A resource is released and then used again. -/
theorem not_safe {resource : Resource} {use : Event} (reads : about use = resource)
    {front middle rest : List Event} :
    ¬ Safe about release (front ++ release resource :: (middle ++ use :: rest)) := by
  intro safe
  have after := (List.pairwise_append.mp safe).2.1
  apply (List.pairwise_cons.mp after).1 use (by simp) resource rfl
  exact reads

section life

variable {resource : Resource} {alive : List Resource} {life : List Event}

theorem Life.about_mem (own : ∀ resource, about (release resource) = resource)
    (lives : Life about release resource alive life) {event : Event} (inside : event ∈ life) :
    about event ∈ resource :: alive := by
  obtain ⟨body, rfl, theirs⟩ := lives
  rcases List.mem_append.mp inside with early | last
  · exact (theirs event early).1
  · rw [List.mem_singleton.mp last, own]
    exact List.mem_cons_self

theorem Life.eq_of_release (injective : Function.Injective release)
    (lives : Life about release resource alive life) {other : Resource}
    (inside : release other ∈ life) : other = resource := by
  obtain ⟨body, rfl, theirs⟩ := lives
  rcases List.mem_append.mp inside with early | last
  · exact absurd rfl ((theirs _ early).2 other)
  · exact injective (List.mem_singleton.mp last)

theorem Life.safe (lives : Life about release resource alive life) :
    Safe about release life := by
  obtain ⟨body, rfl, theirs⟩ := lives
  apply List.pairwise_append.mpr
  refine ⟨?_, List.pairwise_singleton _ _, ?_⟩
  · apply List.Pairwise.imp_of_mem (R := fun _ _ => True)
    · intro earlier later inside _ _ other released
      exact absurd released ((theirs earlier inside).2 other)
    · exact List.pairwise_of_forall fun _ _ => trivial
  · intro earlier inside later _ other released
    exact absurd released ((theirs earlier inside).2 other)

theorem Life.count_release [DecidableEq Event] [DecidableEq Resource]
    (injective : Function.Injective release) (lives : Life about release resource alive life)
    (other : Resource) :
    life.count (release other) = if resource = other then 1 else 0 := by
  obtain ⟨body, rfl, theirs⟩ := lives
  have before : body.count (release other) = 0 := by
    apply List.count_eq_zero.mpr
    intro inside
    exact (theirs _ inside).2 other rfl
  rw [List.count_append, before, Nat.zero_add, List.count_singleton]
  by_cases same : resource = other
  · simp [same]
  · simp [same, injective.eq_iff]

end life

section lives

variable {resources : List Resource} {trace : List Event}

theorem Lives.about_mem (own : ∀ resource, about (release resource) = resource)
    (lives : Lives about release fate resources trace) {event : Event} (inside : event ∈ trace) :
    about event ∈ resources := by
  induction lives with
  | nil => cases inside
  | cons first _ later ih =>
    rcases List.mem_append.mp inside with early | late
    · exact first.about_mem own early
    · exact List.mem_cons_of_mem _ (ih late)

/-- Distinct resources that live one after the other are not used after their release. -/
theorem Lives.safe (own : ∀ resource, about (release resource) = resource)
    (injective : Function.Injective release) (lives : Lives about release fate resources trace)
    (distinct : resources.Nodup) : Safe about release trace := by
  induction lives with
  | nil => exact List.Pairwise.nil
  | cons first _ later ih =>
    obtain ⟨fresh, distinct⟩ := List.nodup_cons.mp distinct
    apply List.pairwise_append.mpr
    refine ⟨first.safe, ih distinct, ?_⟩
    intro earlier early event late resource released same
    rw [released] at early
    rw [← first.eq_of_release injective early, ← same] at fresh
    exact fresh (later.about_mem own late)

/-- Each resource is released as often as it lives. -/
theorem Lives.count_release [DecidableEq Event] [DecidableEq Resource]
    (injective : Function.Injective release) (lives : Lives about release fate resources trace)
    (resource : Resource) : trace.count (release resource) = resources.count resource := by
  induction lives with
  | nil => rfl
  | cons first _ later ih =>
    rw [List.count_append, ih, first.count_release injective, List.count_cons, Nat.add_comm]
    simp

theorem Lives.single {resource : Resource} {life : List Event}
    (lives : Life about release resource [] life) (fated : fate resource life) :
    Lives about release fate [resource] life := by
  have once := Lives.cons lives fated Lives.nil
  rwa [List.append_nil] at once

end lives

end Mt7612u.Library.Ownership
