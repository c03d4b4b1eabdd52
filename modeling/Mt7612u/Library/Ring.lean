import Mathlib

/-! A ring of slots that is used as a queue: the elements from the head on, in the order in which they
were put in. -/

namespace Mt7612u.Library.Ring

variable {α : Type*} {size head num : Nat} {slot : Nat → α}

/-- The index behind an index. -/
def next (size index : Nat) : Nat := if index + 1 = size then 0 else index + 1

theorem next_eq {index : Nat} (inside : index < size) : next size index = (index + 1) % size := by
  unfold next
  split_ifs with last
  · rw [last, Nat.mod_self]
  · rw [Nat.mod_eq_of_lt (by omega)]

theorem next_lt {index : Nat} (inside : index < size) : next size index < size := by
  rw [next_eq inside]
  exact Nat.mod_lt _ (by omega)

/-- The elements of the queue. -/
def window (size head num : Nat) (slot : Nat → α) : List α :=
  (List.range num).map fun i => slot ((head + i) % size)

@[simp] theorem length_window : (window size head num slot).length = num := by
  simp [window]

/-- Different places of the ring are different slots. -/
theorem mod_inj {i j : Nat} (first : i < size) (second : j < size)
    (same : (head + i) % size = (head + j) % size) : i = j := by
  have congruent : i ≡ j [MOD size] := Nat.ModEq.add_left_cancel' head same
  exact congruent.eq_of_lt_of_lt first second

/-- A slot outside of the queue may be changed. -/
theorem window_congr {slot' : Nat → α}
    (same : ∀ i, i < num → slot' ((head + i) % size) = slot ((head + i) % size)) :
    window size head num slot' = window size head num slot := by
  apply List.map_congr_left
  intro i member
  exact same i (List.mem_range.mp member)

theorem window_update {place : Nat} (x : α)
    (outside : ∀ i, i < num → (head + i) % size ≠ place) :
    window size head num (Function.update slot place x) = window size head num slot := by
  apply window_congr
  intro i inside
  exact Function.update_of_ne (outside i inside) ..

/-- What is put in behind the last element becomes the last element. -/
theorem window_push (room : num < size) (x : α) :
    window size head (num + 1) (Function.update slot ((head + num) % size) x) =
      window size head num slot ++ [x] := by
  have front : window size head num (Function.update slot ((head + num) % size) x) =
      window size head num slot := by
    apply window_update
    intro i inside same
    have := mod_inj (by omega) room same
    omega
  rw [← front]
  unfold window
  rw [List.range_succ, List.map_append, List.map_singleton, Function.update_self]

/-- The first element is the one at the head. -/
theorem window_pop :
    window size head (num + 1) slot =
      slot (head % size) :: window size ((head + 1) % size) num slot := by
  unfold window
  rw [List.range_succ_eq_map, List.map_cons, List.map_map, Nat.add_zero]
  congr 1
  apply List.map_congr_left
  intro i _
  dsimp only [Function.comp]
  rw [Nat.mod_add_mod]
  congr 2
  omega

/-- Behind a full queue comes its head again. -/
theorem window_outside (inside : head < size) {i : Nat} (short : i + 1 < size) :
    (head + 1 + i) % size ≠ head := by
  intro same
  have whole : (head + (1 + i)) % size = (head + 0) % size := by
    rw [Nat.add_zero, Nat.mod_eq_of_lt inside, ← Nat.add_assoc]
    exact same
  have := mod_inj (by omega) (by omega) whole
  omega

/-- The element at the head may be replaced. -/
theorem window_setHead (inside : head < size) (room : num < size) (x : α) :
    window size head (num + 1) (Function.update slot head x) =
      x :: window size ((head + 1) % size) num slot := by
  rw [window_pop, Nat.mod_eq_of_lt inside, Function.update_self, window_update]
  intro i short
  rw [Nat.mod_add_mod]
  exact window_outside inside (by omega)

/-- The element at the head may be changed when it is taken out. -/
theorem window_setPopped (inside : head < size) (room : num < size) (x : α) :
    window size ((head + 1) % size) num (Function.update slot head x) =
      window size ((head + 1) % size) num slot := by
  apply window_update
  intro i short
  rw [Nat.mod_add_mod]
  exact window_outside inside (by omega)

/-- The slots of the queue, counted. -/
theorem card_occupied {occupied : Finset Nat} (room : num ≤ size)
    (members : ∀ i, i ∈ occupied ↔ ∃ k, k < num ∧ i = (head + k) % size) :
    occupied.card = num := by
  have image : occupied = (Finset.range num).image fun k => (head + k) % size := by
    ext i
    simp only [members, Finset.mem_image, Finset.mem_range, eq_comm]
  rw [image, Finset.card_image_of_injOn, Finset.card_range]
  intro i first j second same
  have first := Finset.mem_range.mp first
  have second := Finset.mem_range.mp second
  exact mod_inj (by omega) (by omega) same

end Mt7612u.Library.Ring
