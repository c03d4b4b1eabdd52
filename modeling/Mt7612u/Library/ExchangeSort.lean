import Mathlib

/-! Sorting the first places of an array by exchanges: each place in turn takes the largest of what
stands from there on. -/

namespace Mt7612u.Library.ExchangeSort

variable {α β : Type*} [LinearOrder β] (key : α → β)

/-- The two places are exchanged if the later one has the larger key. -/
def exchange (i : Nat) (f : Nat → α) (j : Nat) : Nat → α :=
  if key (f i) < key (f j) then f ∘ Equiv.swap i j else f

/-- One place against `count` places behind it. -/
def pass (i count : Nat) (f : Nat → α) : Nat → α :=
  (List.range' (i + 1) count).foldl (exchange key i) f

/-- The first `turns` places, each against all behind it. -/
def passes (n turns : Nat) (f : Nat → α) : Nat → α :=
  (List.range turns).foldl (fun f i => pass key i (n - (i + 1)) f) f

def sorted (n : Nat) (f : Nat → α) : Nat → α := passes key n (n - 1) f

section places

/-- The first `n` elements. -/
def entries (n : Nat) (f : Nat → α) : List α := (List.range n).map f

theorem swap_lt {n i j k : Nat} (hi : i < n) (hj : j < n) (hk : k < n) : Equiv.swap i j k < n := by
  by_cases atI : k = i
  · rwa [atI, Equiv.swap_apply_left]
  · by_cases atJ : k = j
    · rwa [atJ, Equiv.swap_apply_right]
    · rwa [Equiv.swap_apply_of_ne_of_ne atI atJ]

theorem entries_swap {n i j : Nat} (f : Nat → α) (hi : i < n) (hj : j < n) :
    (entries n (f ∘ Equiv.swap i j)).Perm (entries n f) := by
  have rearranged : ((List.range n).map (Equiv.swap i j)).Perm (List.range n) := by
    apply (List.perm_ext_iff_of_nodup (List.nodup_range.map (Equiv.swap i j).injective)
      List.nodup_range).mpr
    intro k
    rw [List.mem_map]
    constructor
    · rintro ⟨m, inside, rfl⟩
      exact List.mem_range.mpr (swap_lt hi hj (List.mem_range.mp inside))
    · intro inside
      exact ⟨Equiv.swap i j k, List.mem_range.mpr (swap_lt hi hj (List.mem_range.mp inside)),
        Equiv.swap_apply_self i j k⟩
  unfold entries
  rw [← List.map_map]
  exact rearranged.map f

theorem entries_exchange {n i j : Nat} (f : Nat → α) (hi : i < n) (hj : j < n) :
    (entries n (exchange key i f j)).Perm (entries n f) := by
  unfold exchange
  split_ifs
  · exact entries_swap f hi hj
  · exact .refl _

theorem pass_succ (i count : Nat) (f : Nat → α) :
    pass key i (count + 1) f = exchange key i (pass key i count f) (i + 1 + count) := by
  unfold pass
  rw [List.range'_1_concat, List.foldl_append]
  rfl

theorem passes_succ (n turns : Nat) (f : Nat → α) :
    passes key n (turns + 1) f = pass key turns (n - (turns + 1)) (passes key n turns f) := by
  unfold passes
  rw [List.range_succ, List.foldl_append]
  rfl

theorem entries_pass {n i : Nat} (count : Nat) (f : Nat → α) (room : i + 1 + count ≤ n) :
    (entries n (pass key i count f)).Perm (entries n f) := by
  induction count with
  | zero => exact .refl _
  | succ count ih =>
    rw [pass_succ]
    exact (entries_exchange key _ (by omega) (by omega)).trans (ih (by omega))

theorem entries_passes {n : Nat} (turns : Nat) (f : Nat → α) (room : turns < n) :
    (entries n (passes key n turns f)).Perm (entries n f) := by
  induction turns with
  | zero => exact .refl _
  | succ turns ih =>
    rw [passes_succ]
    exact (entries_pass key _ _ (by omega)).trans (ih (by omega))

/-- Nothing is lost and nothing comes twice. -/
theorem entries_sorted (n : Nat) (f : Nat → α) : (entries n (sorted key n f)).Perm (entries n f) := by
  cases n with
  | zero => exact .refl _
  | succ n => exact entries_passes key n f (Nat.lt_succ_self n)

end places

section order

/-- After a pass: the places before stay, the first one has the largest key, and what stands behind
stood there before. -/
structure Passed (i count : Nat) (f g : Nat → α) : Prop where
  before : ∀ k < i, g k = f k
  behind : ∀ k, i + 1 + count ≤ k → g k = f k
  largest : ∀ k, i ≤ k → k < i + 1 + count → key (g k) ≤ key (g i)
  from_ : ∀ k, i ≤ k → k < i + 1 + count → ∃ m, i ≤ m ∧ m < i + 1 + count ∧ g k = f m

variable {key}

/-- The next element is larger, and the two change their places. -/
theorem Passed.exchanged {i count : Nat} {f g : Nat → α} (passed : Passed key i count f g)
    (larger : key (g i) < key (g (i + 1 + count))) :
    Passed key i (count + 1) f (g ∘ Equiv.swap i (i + 1 + count)) := by
  have last : (g ∘ Equiv.swap i (i + 1 + count)) i = g (i + 1 + count) :=
    congrArg g (Equiv.swap_apply_left _ _)
  have first : (g ∘ Equiv.swap i (i + 1 + count)) (i + 1 + count) = g i :=
    congrArg g (Equiv.swap_apply_right _ _)
  have other {k : Nat} (notI : k ≠ i) (notJ : k ≠ i + 1 + count) :
      (g ∘ Equiv.swap i (i + 1 + count)) k = g k :=
    congrArg g (Equiv.swap_apply_of_ne_of_ne notI notJ)
  refine ⟨?_, ?_, ?_, ?_⟩
  · intro k below
    rw [other (by omega) (by omega)]
    exact passed.before k below
  · intro k above
    rw [other (by omega) (by omega)]
    exact passed.behind k (by omega)
  · intro k above below
    rw [last]
    rcases Nat.lt_trichotomy k (i + 1 + count) with early | rfl | late
    · by_cases atI : k = i
      · rw [atI, last]
      · rw [other atI (by omega)]
        exact (passed.largest k above early).trans larger.le
    · rw [first]
      exact larger.le
    · omega
  · intro k above below
    by_cases atI : k = i
    · rw [atI, last]
      exact ⟨i + 1 + count, by omega, by omega, passed.behind _ le_rfl⟩
    · by_cases atJ : k = i + 1 + count
      · rw [atJ, first]
        obtain ⟨m, low, high, same⟩ := passed.from_ i le_rfl (by omega)
        exact ⟨m, low, by omega, same⟩
      · rw [other atI atJ]
        obtain ⟨m, low, high, same⟩ := passed.from_ k above (by omega)
        exact ⟨m, low, by omega, same⟩

/-- The next element is not larger. -/
theorem Passed.kept {i count : Nat} {f g : Nat → α} (passed : Passed key i count f g)
    (small : key (g (i + 1 + count)) ≤ key (g i)) : Passed key i (count + 1) f g := by
  refine ⟨passed.before, fun k above => passed.behind k (by omega), ?_, ?_⟩
  · intro k above below
    by_cases atJ : k = i + 1 + count
    · rw [atJ]
      exact small
    · exact passed.largest k above (by omega)
  · intro k above below
    by_cases atJ : k = i + 1 + count
    · exact ⟨k, above, below, passed.behind k (by omega)⟩
    · obtain ⟨m, low, high, same⟩ := passed.from_ k above (by omega)
      exact ⟨m, low, by omega, same⟩

variable (key)

theorem passed_pass (i count : Nat) (f : Nat → α) : Passed key i count f (pass key i count f) := by
  induction count with
  | zero =>
    refine ⟨fun _ _ => rfl, fun _ _ => rfl, ?_, ?_⟩
    · intro k above below
      obtain rfl : k = i := by omega
      exact le_rfl
    · intro k above below
      exact ⟨k, above, below, rfl⟩
  | succ count ih =>
    rw [pass_succ]
    unfold exchange
    split_ifs with larger
    · exact ih.exchanged larger
    · exact ih.kept (not_lt.mp larger)

/-- The first places have their final elements. -/
theorem passes_order {n : Nat} (turns : Nat) (f : Nat → α) :
    ∀ a < turns, ∀ b, a ≤ b → b < n → key (passes key n turns f b) ≤ key (passes key n turns f a) := by
  induction turns with
  | zero => intro a below; omega
  | succ turns ih =>
    intro a below b above inside
    rw [passes_succ]
    have passed := passed_pass key turns (n - (turns + 1)) (passes key n turns f)
    by_cases earlier : a < turns
    · rw [passed.before a earlier]
      by_cases early : b < turns
      · rw [passed.before b early]
        exact ih a earlier b above inside
      · obtain ⟨m, low, high, same⟩ := passed.from_ b (by omega) (by omega)
        rw [same]
        exact ih a earlier m (by omega) (by omega)
    · obtain rfl : a = turns := by omega
      exact passed.largest b above (by omega)

/-- The keys do not go up. -/
theorem sorted_order (n : Nat) (f : Nat → α) :
    (entries n (sorted key n f)).Pairwise fun first second => key second ≤ key first := by
  unfold entries
  rw [List.pairwise_map]
  apply List.Pairwise.imp_of_mem _ (List.pairwise_lt_range)
  intro a b _ inside before
  have below := List.mem_range.mp inside
  exact passes_order key (n - 1) f a (by omega) b before.le below

end order

end Mt7612u.Library.ExchangeSort
