import Mathlib

/-! Steps with an inverse: a run of them is undone in the opposite order. -/

namespace Mt7612u.Library.Undo

variable {State Step : Type*} {advance undo : State → Step → State}

/-- Each step of the run is taken back, the last one first, on what is seen of the states. -/
theorem foldl_undo_view {Image : Type*} {undo : Image → Step → Image} (view : State → Image)
    (inverse : ∀ s step, undo (view (advance s step)) step = view s) (steps : List Step)
    (s : State) : steps.reverse.foldl undo (view (steps.foldl advance s)) = view s := by
  induction steps generalizing s with
  | nil => rfl
  | cons step rest ih =>
    rw [List.foldl_cons, List.reverse_cons, List.foldl_append, ih, List.foldl_cons, List.foldl_nil,
      inverse]

/-- Each step of the run is taken back, the last one first. -/
theorem foldl_undo (inverse : ∀ s step, undo (advance s step) step = s) (steps : List Step)
    (s : State) : steps.reverse.foldl undo (steps.foldl advance s) = s :=
  foldl_undo_view id inverse steps s

/-- The same for steps that are runs of their own. -/
theorem foldl_foldl_undo {Outer : Type*} {advance undo : Outer → State → Step → State}
    (inverse : ∀ outer s step, undo outer (advance outer s step) step = s) (outers : List Outer)
    (steps : List Step) (s : State) :
    outers.reverse.foldl (fun s outer => steps.reverse.foldl (undo outer) s)
      (outers.foldl (fun s outer => steps.foldl (advance outer) s) s) = s := by
  apply foldl_undo
  intro s outer
  exact foldl_undo (inverse outer) steps s

/-- What no step of a run changes. -/
theorem foldl_kept {Value : Type*} (read : State → Value) {steps : List Step}
    (kept : ∀ s, ∀ step ∈ steps, read (advance s step) = read s) (s : State) :
    read (steps.foldl advance s) = read s := by
  induction steps generalizing s with
  | nil => rfl
  | cons step rest ih =>
    rw [List.foldl_cons, ih fun s later member => kept s later (List.mem_cons_of_mem step member)]
    exact kept s step List.mem_cons_self

/-- On finitely many values an inverse on one side is one on the other. -/
theorem rightInverse_of_leftInverse {Value : Type*} [Finite Value] {encrypt decrypt : Value → Value}
    (inverse : Function.LeftInverse decrypt encrypt) : Function.RightInverse decrypt encrypt := by
  intro value
  obtain ⟨source, rfl⟩ := Finite.surjective_of_injective inverse.injective value
  rw [inverse source]

end Mt7612u.Library.Undo
