import Mathlib

/-! A resequencer over an unbounded count. Everything up to `last` is settled, and
what arrives ahead of it is held back inside a window until the gap closes or the
window is pushed past it. -/

namespace Mt7612u.Library.Resequencer

/-- How many of the ascending numbers `held` continue `start` without a gap. -/
def streak : ℕ → List ℕ → ℕ
  | _, [] => 0
  | start, q :: rest => if q = start + 1 then streak q rest + 1 else 0

/-- How many of the ascending numbers `held` are at most `limit`. -/
def upTo (limit : ℕ) : List ℕ → ℕ
  | [] => 0
  | q :: rest => if q ≤ limit then upTo limit rest + 1 else 0

/-- Sorted insertion that keeps an element already present. -/
def place (q : ℕ) : List ℕ → List ℕ
  | [] => [q]
  | first :: rest =>
      if first < q then first :: place q rest
      else if first = q then first :: rest
      else q :: first :: rest

structure Between (low high : ℕ) (held : List ℕ) : Prop where
  ascending : held.Pairwise (· < ·)
  low_le : ∀ q ∈ held, low ≤ q
  le_high : ∀ q ∈ held, q ≤ high

theorem between_nil (low high : ℕ) : Between low high [] :=
  ⟨.nil, by simp, by simp⟩

theorem Between.mono {low high low' high' : ℕ} {held : List ℕ} (within : Between low high held)
    (lower : low' ≤ low) (upper : high ≤ high') : Between low' high' held :=
  ⟨within.ascending, fun q member => lower.trans (within.low_le q member),
    fun q member => (within.le_high q member).trans upper⟩

theorem Between.tail {low high first : ℕ} {rest : List ℕ}
    (within : Between low high (first :: rest)) : Between (first + 1) high rest := by
  have split := List.pairwise_cons.mp within.ascending
  exact ⟨split.2, fun q member => split.1 q member,
    fun q member => within.le_high q (List.mem_cons_of_mem _ member)⟩

theorem Between.cons {low high first : ℕ} {rest : List ℕ} (lower : low ≤ first)
    (upper : first ≤ high) (within : Between (first + 1) high rest) :
    Between low high (first :: rest) := by
  refine ⟨List.pairwise_cons.mpr ⟨fun q member => within.low_le q member, within.ascending⟩, ?_, ?_⟩
  · intro q member
    rcases List.mem_cons.mp member with same | later
    · omega
    · have bound := within.low_le q later
      omega
  · intro q member
    rcases List.mem_cons.mp member with same | later
    · omega
    · exact within.le_high q later

/-- An ascending list is no longer than the interval it lies in. -/
theorem Between.length_le {low high : ℕ} {held : List ℕ} (within : Between low high held) :
    held.length + low ≤ high + 1 ∨ held = [] := by
  induction held generalizing low with
  | nil => exact Or.inr rfl
  | cons first rest ih =>
    have lower := within.low_le first (List.mem_cons_self ..)
    have upper := within.le_high first (List.mem_cons_self ..)
    rcases ih within.tail with bound | empty
    · left
      simp only [List.length_cons]
      omega
    · left
      simp only [empty, List.length_cons, List.length_nil]
      omega

theorem upTo_le_length (limit : ℕ) (held : List ℕ) : upTo limit held ≤ held.length := by
  induction held with
  | nil => exact le_rfl
  | cons q rest ih =>
    simp only [upTo, List.length_cons]
    split_ifs <;> omega

theorem streak_le_length (start : ℕ) (held : List ℕ) : streak start held ≤ held.length := by
  induction held generalizing start with
  | nil => exact le_rfl
  | cons q rest ih =>
    have bound := ih q
    simp only [streak, List.length_cons]
    split_ifs <;> omega

theorem take_upTo {low high : ℕ} (limit : ℕ) {held : List ℕ} (within : Between low high held) :
    Between low limit (held.take (upTo limit held)) := by
  induction held generalizing low with
  | nil => exact between_nil _ _
  | cons q rest ih =>
    by_cases reached : q ≤ limit
    · simp only [upTo, if_pos reached, List.take_succ_cons]
      exact .cons (within.low_le q (List.mem_cons_self ..)) reached (ih within.tail)
    · simp only [upTo, if_neg reached, List.take_zero]
      exact between_nil _ _

theorem drop_upTo {low high : ℕ} (limit : ℕ) {held : List ℕ} (within : Between low high held) :
    Between (max low (limit + 1)) high (held.drop (upTo limit held)) := by
  induction held generalizing low with
  | nil => exact between_nil _ _
  | cons q rest ih =>
    by_cases reached : q ≤ limit
    · simp only [upTo, if_pos reached, List.drop_succ_cons]
      have lower := within.low_le q (List.mem_cons_self ..)
      exact (ih within.tail).mono (by omega) le_rfl
    · simp only [upTo, if_neg reached, List.drop_zero]
      have lower := within.low_le q (List.mem_cons_self ..)
      exact .cons (by omega) (within.le_high q (List.mem_cons_self ..)) within.tail

/-- A number that is not there makes no difference to the limit. -/
theorem upTo_absent (q : ℕ) (held : List ℕ) (absent : q + 1 ∉ held) :
    upTo (q + 1) held = upTo q held := by
  induction held with
  | nil => rfl
  | cons first rest ih =>
    rw [List.mem_cons, not_or] at absent
    by_cases reached : first ≤ q
    · simp only [upTo, if_pos reached, if_pos (show first ≤ q + 1 by omega), ih absent.2]
    · simp only [upTo, if_neg reached, if_neg (show ¬first ≤ q + 1 by omega)]

theorem upTo_none {low high limit : ℕ} {held : List ℕ} (within : Between low high held)
    (missed : limit < low) : upTo limit held = 0 := by
  cases held with
  | nil => rfl
  | cons q rest =>
    have lower := within.low_le q (List.mem_cons_self ..)
    simp only [upTo, if_neg (show ¬q ≤ limit by omega)]

theorem take_streak (start : ℕ) (held : List ℕ) :
    held.take (streak start held) = List.range' (start + 1) (streak start held) := by
  induction held generalizing start with
  | nil => rfl
  | cons q rest ih =>
    by_cases next : q = start + 1
    · subst next
      simp only [streak, ↓reduceIte, List.take_succ_cons, List.range'_succ, ih]
    · simp only [streak, if_neg next, List.take_zero, List.range'_zero]

theorem drop_streak {start high : ℕ} {held : List ℕ} (within : Between (start + 1) high held) :
    Between (start + streak start held + 2) high (held.drop (streak start held)) := by
  induction held generalizing start with
  | nil => exact between_nil _ _
  | cons q rest ih =>
    have lower := within.low_le q (List.mem_cons_self ..)
    have upper := within.le_high q (List.mem_cons_self ..)
    by_cases next : q = start + 1
    · simp only [streak, if_pos next, List.drop_succ_cons]
      exact (ih within.tail).mono (by omega) le_rfl
    · simp only [streak, if_neg next, List.drop_zero]
      exact .cons (by omega) upper within.tail

theorem mem_drop_streak {q start : ℕ} {held : List ℕ} (member : q ∈ held)
    (later : start + streak start held < q) : q ∈ held.drop (streak start held) := by
  rcases List.mem_append.mp ((List.take_append_drop (streak start held) held).symm ▸ member)
    with taken | left
  · rw [take_streak, List.mem_range'_1] at taken
    omega
  · exact left

theorem mem_place {q x : ℕ} (held : List ℕ) : x ∈ place q held ↔ x = q ∨ x ∈ held := by
  induction held with
  | nil => simp [place]
  | cons first rest ih =>
    simp only [place]
    split_ifs with before same
    · simp only [List.mem_cons, ih]
      tauto
    · simp only [List.mem_cons, same]
      tauto
    · simp only [List.mem_cons]

theorem between_place {low high q : ℕ} {held : List ℕ} (within : Between low high held)
    (lower : low ≤ q) (upper : q ≤ high) : Between low high (place q held) := by
  induction held generalizing low with
  | nil => exact .cons lower upper (between_nil _ _)
  | cons first rest ih =>
    have firstLow := within.low_le first (List.mem_cons_self ..)
    have firstHigh := within.le_high first (List.mem_cons_self ..)
    simp only [place]
    split_ifs with before same
    · exact .cons firstLow firstHigh (ih within.tail before)
    · exact within
    · exact .cons lower upper (.cons (by omega) firstHigh within.tail)

structure State where
  last : ℕ
  held : List ℕ

/-- The window of `width` numbers above `last`. Its first number is never held. -/
def State.Ok (width : ℕ) (s : State) : Prop :=
  Between (s.last + 2) (s.last + width) s.held

/-- One arrival: the state after it, and the numbers handed on by it, in order. -/
def arrive (width : ℕ) (s : State) (q : ℕ) : State × List ℕ :=
  if q ≤ s.last then (s, [])
  else if q = s.last + 1 then
    let count := streak q s.held
    (⟨q + count, s.held.drop count⟩, q :: s.held.take count)
  else if q ≤ s.last + width then (⟨s.last, place q s.held⟩, [])
  else
    let lead := q - width
    let passed := upTo lead s.held
    let held := place q (s.held.drop passed)
    let count := streak lead held
    (⟨lead + count, held.drop count⟩, s.held.take passed ++ held.take count)

def arriveAll (width : ℕ) : State → List ℕ → State × List ℕ
  | s, [] => (s, [])
  | s, q :: rest =>
      let first := arrive width s q
      let later := arriveAll width first.1 rest
      (later.1, first.2 ++ later.2)

/-- Each arrival is fresh and inside the window it meets. -/
def Admissible (width : ℕ) : State → List ℕ → Prop
  | _, [] => True
  | s, q :: rest =>
      (s.last < q ∧ q ≤ s.last + width ∧ q ∉ s.held) ∧ Admissible width (arrive width s q).1 rest

/-- Each number of `order` comes before any number `width` or more above it. -/
def Windowed (width start : ℕ) (order : List ℕ) : Prop :=
  ∀ before q after, order = before ++ q :: after →
    ∀ m, start < m → m + width ≤ q → m ∈ before

/-- What the state says about the numbers seen so far. -/
structure Covers (width start : ℕ) (seen : List ℕ) (s : State) : Prop where
  ok : s.Ok width
  start_le : start ≤ s.last
  settled : ∀ m, start < m → m ≤ s.last → m ∈ seen
  held_seen : ∀ q ∈ s.held, q ∈ seen
  seen_kept : ∀ q ∈ seen, q ≤ s.last ∨ q ∈ s.held

theorem Covers.last_lt {width start q : ℕ} {seen : List ℕ} {s : State}
    (covers : Covers width start seen s) (above : start < q) (fresh : q ∉ seen) : s.last < q := by
  by_contra behind
  exact fresh (covers.settled q above (by omega))

theorem Covers.gap {width start : ℕ} {seen : List ℕ} {s : State}
    (covers : Covers width start seen s) : s.last + 1 ∉ seen := by
  intro member
  rcases covers.seen_kept _ member with settled | kept
  · omega
  · have low := covers.ok.low_le _ kept
    omega

theorem Covers.admits {width start q : ℕ} {seen : List ℕ} {s : State}
    (covers : Covers width start seen s) (above : start < q) (fresh : q ∉ seen)
    (order : ∀ m, start < m → m + width ≤ q → m ∈ seen) :
    s.last < q ∧ q ≤ s.last + width ∧ q ∉ s.held := by
  refine ⟨covers.last_lt above fresh, ?_, fun kept => fresh (covers.held_seen q kept)⟩
  by_contra beyond
  exact covers.gap (order (s.last + 1) (by have := covers.start_le; omega) (by omega))

/-- A fresh number whose predecessors below the window have all come is never pushed
ahead of the window, so the state keeps covering what was seen. -/
theorem Covers.arrive {width start q : ℕ} {seen : List ℕ} {s : State}
    (covers : Covers width start seen s) (above : start < q) (fresh : q ∉ seen)
    (order : ∀ m, start < m → m + width ≤ q → m ∈ seen) :
    Covers width start (seen ++ [q]) (arrive width s q).1 ∧
      (arrive width s q).2 =
        List.range' (s.last + 1) ((arrive width s q).1.last - s.last) := by
  obtain ⟨later, inside, _⟩ := covers.admits above fresh order
  by_cases next : q = s.last + 1
  · subst next
    have within : Between (s.last + 1 + 1) (s.last + width) s.held := covers.ok
    simp only [Resequencer.arrive, if_neg (show ¬s.last + 1 ≤ s.last by omega), ↓reduceIte]
    refine ⟨⟨?_, ?_, ?_, ?_, ?_⟩, ?_⟩
    · exact (drop_streak within).mono le_rfl (by simp only; omega)
    · have low := covers.start_le
      simp only
      omega
    · intro m low high
      rcases Nat.lt_trichotomy m (s.last + 1) with before | same | beyond
      · exact List.mem_append_left _ (covers.settled m low (by omega))
      · exact List.mem_append_right _ (by simp [same])
      · apply List.mem_append_left
        apply covers.held_seen
        apply List.mem_of_mem_take (i := streak (s.last + 1) s.held)
        rw [take_streak, List.mem_range'_1]
        simp only at high
        omega
    · intro x member
      exact List.mem_append_left _ (covers.held_seen x (List.mem_of_mem_drop member))
    · intro x member
      rcases List.mem_append.mp member with old | new
      · rcases covers.seen_kept x old with settled | kept
        · left
          simp only
          omega
        · by_cases handed : x ≤ s.last + 1 + streak (s.last + 1) s.held
          · exact Or.inl handed
          · exact Or.inr (mem_drop_streak kept (by omega))
      · left
        simp only [List.mem_singleton] at new
        simp only
        omega
    · rw [take_streak, show s.last + 1 + streak (s.last + 1) s.held - s.last =
        streak (s.last + 1) s.held + 1 by omega, List.range'_succ]
  · simp only [Resequencer.arrive, if_neg (show ¬q ≤ s.last by omega), if_neg next, if_pos inside,
      Nat.sub_self, List.range'_zero, and_true]
    have low : s.last + 2 ≤ q := by omega
    refine ⟨between_place covers.ok low inside, covers.start_le, ?_, ?_, ?_⟩
    · intro m low high
      exact List.mem_append_left _ (covers.settled m low high)
    · intro x member
      rcases (mem_place s.held).mp member with same | old
      · exact List.mem_append_right _ (by simp [same])
      · exact List.mem_append_left _ (covers.held_seen x old)
    · intro x member
      rcases List.mem_append.mp member with old | new
      · rcases covers.seen_kept x old with settled | kept
        · exact Or.inl settled
        · exact Or.inr ((mem_place s.held).mpr (Or.inr kept))
      · exact Or.inr ((mem_place s.held).mpr (Or.inl (by simpa using new)))

/-- A permutation of `start + 1, …, start + count` that respects the window is handed
on completely, once each and in ascending order. -/
theorem arriveAll_windowed {width start count : ℕ} {order : List ℕ}
    (complete : order.Perm (List.range' (start + 1) count))
    (windowed : Windowed width start order) :
    Admissible width ⟨start, []⟩ order ∧
      arriveAll width ⟨start, []⟩ order =
        (⟨start + count, []⟩, List.range' (start + 1) count) := by
  have distinct : order.Nodup := complete.nodup_iff.mpr (List.nodup_range' ..)
  have member : ∀ q, q ∈ order ↔ start < q ∧ q ≤ start + count := by
    intro q
    rw [complete.mem_iff, List.mem_range'_1]
    omega
  -- The induction is on what is still to come; `Covers` carries what came before.
  have steps : ∀ (after seen : List ℕ) (s : State), order = seen ++ after →
      Covers width start seen s →
      Admissible width s after ∧ Covers width start order (arriveAll width s after).1 ∧
        (arriveAll width s after).2 =
          List.range' (s.last + 1) ((arriveAll width s after).1.last - s.last) ∧
        s.last ≤ (arriveAll width s after).1.last := by
    intro after
    induction after with
    | nil =>
      intro seen s split covers
      rw [List.append_nil] at split
      simpa [arriveAll, Admissible, split] using covers
    | cons q rest ih =>
      intro seen s split covers
      have above := ((member q).1 (by simp [split])).1
      have fresh : q ∉ seen := by
        rw [split] at distinct
        exact fun old => List.disjoint_of_nodup_append distinct old (List.mem_cons_self ..)
      have admits := covers.admits above fresh (windowed seen q rest split)
      obtain ⟨next, handed⟩ := covers.arrive above fresh (windowed seen q rest split)
      have growth : s.last ≤ (Resequencer.arrive width s q).1.last := by
        by_contra shrunk
        have later := covers.last_lt above fresh
        simp only [Resequencer.arrive] at shrunk
        split_ifs at shrunk <;> simp only at shrunk <;> omega
      obtain ⟨admissible, finished, handedLater, grown⟩ := ih (seen ++ [q]) _ (by simp [split]) next
      refine ⟨⟨admits, admissible⟩, finished, ?_, growth.trans grown⟩
      simp only [arriveAll]
      rw [handed, handedLater]
      generalize (Resequencer.arrive width s q).1 = middle at growth grown
      generalize (arriveAll width middle rest).1 = last at grown
      have join := List.range'_append_1 (s := s.last + 1) (m := middle.last - s.last)
        (n := last.last - middle.last)
      rw [show s.last + 1 + (middle.last - s.last) = middle.last + 1 by omega,
        show middle.last - s.last + (last.last - middle.last) = last.last - s.last by omega] at join
      exact join
  have empty : Covers width start [] ⟨start, []⟩ :=
    ⟨between_nil _ _, le_rfl, fun m low high => by simp only at high; omega, by simp, by simp⟩
  obtain ⟨admissible, covers, handed, grown⟩ := steps order [] ⟨start, []⟩ rfl empty
  refine ⟨admissible, ?_⟩
  generalize arriveAll width ⟨start, []⟩ order = final at covers handed grown
  obtain ⟨⟨last, held⟩, numbers⟩ := final
  simp only at covers handed grown
  have reached : last = start + count := by
    rcases Nat.lt_trichotomy last (start + count) with short | same | long
    · exact absurd ((member (last + 1)).2 (by omega)) covers.gap
    · exact same
    · have claimed := (member last).1 (covers.settled last (by omega) le_rfl)
      omega
  have nothingHeld : held = [] := by
    rw [List.eq_nil_iff_forall_not_mem]
    intro q kept
    have low := covers.ok.low_le q kept
    have high := ((member q).1 (covers.held_seen q kept)).2
    simp only at low
    omega
  rw [handed, reached, nothingHeld, Nat.add_sub_cancel_left]

end Mt7612u.Library.Resequencer
