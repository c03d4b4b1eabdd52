import Mathlib

/-! Exponential averages in fixed point: the accumulator holds the average times a factor, of which
each step takes the average away and adds a sample. -/

namespace Mt7612u.Library.Smoothing

def next (factor accumulator sample : Int) : Int := accumulator - accumulator / factor + sample

/-- The accumulator belongs to an average between two of the samples. -/
structure Between (factor : Int) (samples : List Int) (accumulator : Int) : Prop where
  low : ∃ sample ∈ samples, factor * sample ≤ accumulator
  high : ∃ sample ∈ samples, accumulator ≤ factor * sample + (factor - 1)

variable {factor accumulator : Int} {samples : List Int}

theorem next_ge {low sample : Int} (positive : 0 < factor) (below : factor * low ≤ accumulator) :
    factor * min low sample ≤ next factor accumulator sample := by
  have quotient := Int.mul_ediv_add_emod accumulator factor
  have rest := Int.emod_nonneg accumulator positive.ne'
  have average : low ≤ accumulator / factor := by
    rw [Int.le_ediv_iff_mul_le positive, Int.mul_comm]
    exact below
  have lowest : min low sample ≤ accumulator / factor := (min_le_left _ _).trans average
  have own : min low sample ≤ sample := min_le_right _ _
  unfold next
  nlinarith

theorem next_le {high sample : Int} (positive : 0 < factor)
    (above : accumulator ≤ factor * high + (factor - 1)) :
    next factor accumulator sample ≤ factor * max high sample + (factor - 1) := by
  have quotient := Int.mul_ediv_add_emod accumulator factor
  have rest := Int.emod_lt_of_pos accumulator positive
  have average : accumulator / factor ≤ high := by
    apply Int.lt_add_one_iff.mp
    rw [Int.ediv_lt_iff_lt_mul positive]
    nlinarith
  have highest : accumulator / factor ≤ max high sample := average.trans (le_max_left _ _)
  have own : sample ≤ max high sample := le_max_right _ _
  unfold next
  nlinarith

theorem between_start (positive : 0 < factor) (sample : Int) :
    Between factor [sample] (factor * sample) :=
  ⟨⟨sample, List.mem_singleton_self _, le_rfl⟩, ⟨sample, List.mem_singleton_self _, by omega⟩⟩

theorem Between.mono (between : Between factor samples accumulator) {more : List Int}
    (kept : samples ⊆ more) : Between factor more accumulator := by
  obtain ⟨⟨low, known, below⟩, ⟨high, known', above⟩⟩ := between
  exact ⟨⟨low, kept known, below⟩, ⟨high, kept known', above⟩⟩

/-- A further sample keeps the average between the samples. -/
theorem Between.next (between : Between factor samples accumulator) (positive : 0 < factor)
    (sample : Int) : Between factor (samples ++ [sample]) (next factor accumulator sample) := by
  obtain ⟨⟨low, known, below⟩, ⟨high, known', above⟩⟩ := between
  constructor
  · refine ⟨min low sample, ?_, next_ge positive below⟩
    rcases min_choice low sample with left | right
    · rw [left]
      exact List.mem_append_left _ known
    · rw [right]
      exact List.mem_append_right _ (List.mem_singleton_self _)
  · refine ⟨max high sample, ?_, next_le positive above⟩
    rcases max_choice high sample with left | right
    · rw [left]
      exact List.mem_append_left _ known'
    · rw [right]
      exact List.mem_append_right _ (List.mem_singleton_self _)

theorem Between.average (between : Between factor samples accumulator) (positive : 0 < factor) :
    (∃ sample ∈ samples, sample ≤ accumulator / factor) ∧
      ∃ sample ∈ samples, accumulator / factor ≤ sample := by
  obtain ⟨⟨low, known, below⟩, ⟨high, known', above⟩⟩ := between
  refine ⟨⟨low, known, ?_⟩, ⟨high, known', ?_⟩⟩
  · rw [Int.le_ediv_iff_mul_le positive, Int.mul_comm]
    exact below
  · apply Int.lt_add_one_iff.mp
    rw [Int.ediv_lt_iff_lt_mul positive]
    nlinarith

end Mt7612u.Library.Smoothing
