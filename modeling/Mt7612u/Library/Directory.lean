import Mathlib

/-! A table of slots with an index from keys to slots beside it. A slot records its key and
how far its use has come; the number of slots in use and one flag a key say the same again,
and the operations here keep all four in step. -/

namespace Mt7612u.Library.Directory

/-- What a change at one slot does to a sum over all of them. -/
theorem sum_update {Slot Value Total : Type*} [Fintype Slot] [DecidableEq Slot]
    [AddCommMonoid Total] (weight : Value → Total) (table : Slot → Value) (slot : Slot)
    (value : Value) :
    ∑ i, weight (Function.update table slot value i) + weight (table slot) =
      ∑ i, weight (table i) + weight value := by
  have rest : ∑ i ∈ Finset.univ.erase slot, weight (Function.update table slot value i) =
      ∑ i ∈ Finset.univ.erase slot, weight (table i) := by
    apply Finset.sum_congr rfl
    intro i other
    rw [Function.update_of_ne (Finset.ne_of_mem_erase other)]
  rw [← Finset.add_sum_erase Finset.univ _ (Finset.mem_univ slot), rest, Function.update_self,
    ← Finset.add_sum_erase Finset.univ (fun i => weight (table i)) (Finset.mem_univ slot)]
  ac_rfl

@[ext]
structure SlotTable (Slot Key Stage : Type*) where
  stage : Slot → Stage
  holder : Slot → Key
  slotOf : Key → Slot
  flag : Key → Bool
  used : Nat

variable {Slot Key Stage : Type*}

/-- How many slots are in a stage that counts. -/
def tally [Fintype Slot] (stage : Slot → Stage) (counts : Stage → Bool) : Nat :=
  ∑ slot, if counts (stage slot) then 1 else 0

theorem tally_update [Fintype Slot] [DecidableEq Slot] (stage : Slot → Stage) (counts : Stage → Bool) (slot : Slot)
    (value : Stage) :
    tally (Function.update stage slot value) counts + (if counts (stage slot) then 1 else 0) =
      tally stage counts + if counts value then 1 else 0 :=
  sum_update (fun value => if counts value then 1 else 0) stage slot value

theorem tally_eq_card [Fintype Slot] (stage : Slot → Stage) (counts : Stage → Bool) :
    tally stage counts = (Finset.univ.filter fun slot => counts (stage slot) = true).card := by
  rw [tally, Finset.card_filter]

namespace SlotTable

/-- The slot `null` stands for no slot. A slot's key finds it, a key's slot records it, and
the flag of a key is up while its slot is in the stage `live`. -/
structure Consistent [Fintype Slot] [DecidableEq Stage] (d : SlotTable Slot Key Stage) (null : Slot)
    (vacant live : Stage) : Prop where
  reserved : d.stage null = vacant
  counted : d.used = tally d.stage fun stage => decide (stage ≠ vacant)
  agrees : ∀ slot, slot ≠ null → ∀ key,
    (d.stage slot ≠ vacant ∧ d.holder slot = key) ↔ d.slotOf key = slot
  flagged : ∀ key, d.flag key = true ↔ d.stage (d.slotOf key) = live

variable [Fintype Slot] [DecidableEq Stage] {d : SlotTable Slot Key Stage} {null : Slot}
  {vacant live : Stage}

theorem Consistent.slotOf_holder (consistent : d.Consistent null vacant live) {slot : Slot}
    (taken : d.stage slot ≠ vacant) : d.slotOf (d.holder slot) = slot := by
  have inside : slot ≠ null := by
    rintro rfl
    exact taken consistent.reserved
  exact (consistent.agrees slot inside _).1 ⟨taken, rfl⟩

theorem Consistent.taken (consistent : d.Consistent null vacant live) {key : Key}
    (known : d.slotOf key ≠ null) :
    d.stage (d.slotOf key) ≠ vacant ∧ d.holder (d.slotOf key) = key :=
  (consistent.agrees _ known key).2 rfl

/-- The count alone tells whether a slot is left. -/
theorem Consistent.exists_free [DecidableEq Slot] (consistent : d.Consistent null vacant live) :
    (∃ slot, slot ≠ null ∧ d.stage slot = vacant) ↔ d.used < Fintype.card Slot - 1 := by
  have size : (Finset.univ.erase null).card = Fintype.card Slot - 1 := by
    rw [Finset.card_erase_of_mem (Finset.mem_univ null), Finset.card_univ]
  have within : (Finset.univ.filter fun slot => d.stage slot ≠ vacant) ⊆ Finset.univ.erase null := by
    intro slot taken
    simp only [Finset.mem_filter, Finset.mem_univ, true_and] at taken
    apply Finset.mem_erase.mpr
    refine ⟨?_, Finset.mem_univ slot⟩
    rintro rfl
    exact taken consistent.reserved
  have count : d.used = (Finset.univ.filter fun slot => d.stage slot ≠ vacant).card := by
    rw [consistent.counted, tally_eq_card]
    simp only [decide_eq_true_eq]
  rw [count, ← size]
  constructor
  · rintro ⟨slot, inside, free⟩
    apply Finset.card_lt_card
    refine ⟨within, fun all => ?_⟩
    have taken := all (Finset.mem_erase.mpr ⟨inside, Finset.mem_univ slot⟩)
    exact (Finset.mem_filter.mp taken).2 free
  · intro room
    by_contra full
    push Not at full
    apply absurd room
    apply not_lt.mpr
    apply Finset.card_le_card
    intro slot inside
    exact Finset.mem_filter.mpr ⟨Finset.mem_univ slot, full slot (Finset.ne_of_mem_erase inside)⟩

variable [DecidableEq Slot] [DecidableEq Key]

/-- `slot` goes to `key`, which has none. -/
def assign (d : SlotTable Slot Key Stage) (slot : Slot) (key : Key) (stage : Stage)
    (flag : Bool) : SlotTable Slot Key Stage where
  stage := Function.update d.stage slot stage
  holder := Function.update d.holder slot key
  slotOf := Function.update d.slotOf key slot
  flag := Function.update d.flag key flag
  used := d.used + 1

/-- The slot of `key` comes into another stage. -/
def advance (d : SlotTable Slot Key Stage) (key : Key) (stage : Stage) (flag : Bool) :
    SlotTable Slot Key Stage :=
  { d with
    stage := Function.update d.stage (d.slotOf key) stage
    flag := Function.update d.flag key flag }

/-- `slot` is taken from its key. -/
def release (d : SlotTable Slot Key Stage) (null : Slot) (vacant : Stage) (slot : Slot) :
    SlotTable Slot Key Stage :=
  { d with
    stage := Function.update d.stage slot vacant
    slotOf := Function.update d.slotOf (d.holder slot) null
    flag := Function.update d.flag (d.holder slot) false
    used := d.used - 1 }

theorem Consistent.assign (consistent : d.Consistent null vacant live) {slot : Slot} {key : Key}
    {stage : Stage} {flag : Bool} (inside : slot ≠ null) (free : d.stage slot = vacant)
    (absent : d.slotOf key = null) (used : stage ≠ vacant) (raised : flag = true ↔ stage = live) :
    (d.assign slot key stage flag).Consistent null vacant live := by
  have unheld : ∀ other, d.slotOf other ≠ slot := by
    intro other found
    exact ((consistent.agrees slot inside other).2 found).1 free
  constructor
  · simp only [SlotTable.assign, Function.update_of_ne inside.symm]
    exact consistent.reserved
  · have change := tally_update d.stage (fun stage => decide (stage ≠ vacant)) slot stage
    simp only [free, used, ne_eq, not_true_eq_false, decide_false, Bool.false_eq_true, ↓reduceIte,
      not_false_eq_true, decide_true] at change
    simp only [SlotTable.assign, consistent.counted, ne_eq, ← change, Nat.add_zero]
  · intro other real key'
    simp only [SlotTable.assign]
    by_cases same : other = slot
    · subst same
      by_cases mine : key' = key
      · subst mine
        simp [used]
      · simp [Function.update_of_ne mine, unheld key', Ne.symm mine]
    · rw [Function.update_of_ne same, Function.update_of_ne same, consistent.agrees other real]
      by_cases mine : key' = key
      · subst mine
        simp [absent, Ne.symm real, Ne.symm same]
      · rw [Function.update_of_ne mine]
  · intro key'
    simp only [SlotTable.assign]
    by_cases mine : key' = key
    · subst mine
      simpa using raised
    · rw [Function.update_of_ne mine, Function.update_of_ne mine, Function.update_of_ne (unheld key')]
      exact consistent.flagged key'

theorem Consistent.advance (consistent : d.Consistent null vacant live) {key : Key} {stage : Stage}
    {flag : Bool} (known : d.slotOf key ≠ null) (used : stage ≠ vacant)
    (raised : flag = true ↔ stage = live) :
    (d.advance key stage flag).Consistent null vacant live := by
  obtain ⟨taken, holds⟩ := consistent.taken known
  constructor
  · simp only [SlotTable.advance, Function.update_of_ne known.symm]
    exact consistent.reserved
  · have change :=
      tally_update d.stage (fun stage => decide (stage ≠ vacant)) (d.slotOf key) stage
    simp only [taken, used, ne_eq, not_false_eq_true, decide_true, ↓reduceIte] at change
    simp only [SlotTable.advance, consistent.counted, ne_eq]
    omega
  · intro slot real key'
    simp only [SlotTable.advance]
    rw [← consistent.agrees slot real key']
    by_cases same : slot = d.slotOf key
    · subst same
      simp [used, taken]
    · rw [Function.update_of_ne same]
  · intro key'
    simp only [SlotTable.advance]
    by_cases mine : key' = key
    · subst mine
      simpa using raised
    · have apart : d.slotOf key' ≠ d.slotOf key := by
        intro same
        have holds' := (consistent.agrees _ known key').2 same
        exact mine (holds'.2.symm.trans holds)
      rw [Function.update_of_ne mine, Function.update_of_ne apart]
      exact consistent.flagged key'

theorem Consistent.release (consistent : d.Consistent null vacant live) (idle : vacant ≠ live)
    {slot : Slot} (taken : d.stage slot ≠ vacant) :
    (d.release null vacant slot).Consistent null vacant live := by
  have found := consistent.slotOf_holder taken
  have inside : slot ≠ null := by
    rintro rfl
    exact taken consistent.reserved
  have apart : ∀ key, key ≠ d.holder slot → d.slotOf key ≠ slot := by
    intro key other same
    exact other ((consistent.agrees slot inside key).2 same).2.symm
  constructor
  · simp only [SlotTable.release, Function.update_of_ne inside.symm]
    exact consistent.reserved
  · have change := tally_update d.stage (fun stage => decide (stage ≠ vacant)) slot vacant
    simp only [taken, ne_eq, not_true_eq_false, decide_false, Bool.false_eq_true, ↓reduceIte,
      not_false_eq_true, decide_true] at change
    simp only [SlotTable.release, consistent.counted, ne_eq]
    omega
  · intro other real key
    simp only [SlotTable.release]
    by_cases mine : key = d.holder slot
    · subst mine
      rw [Function.update_self]
      by_cases same : other = slot
      · subst same
        simp [Ne.symm real]
      · have elsewhere := consistent.agrees other real (d.holder slot)
        rw [found] at elsewhere
        rw [Function.update_of_ne same, elsewhere]
        simp [Ne.symm same, Ne.symm real]
    · rw [Function.update_of_ne mine]
      by_cases same : other = slot
      · subst same
        simp [apart key mine]
      · rw [Function.update_of_ne same]
        exact consistent.agrees other real key
  · intro key
    simp only [SlotTable.release]
    by_cases mine : key = d.holder slot
    · subst mine
      simp [Function.update_of_ne inside.symm, consistent.reserved, idle]
    · rw [Function.update_of_ne mine, Function.update_of_ne mine,
        Function.update_of_ne (apart key mine)]
      exact consistent.flagged key

/-- A released slot is vacant, and nothing is left of its key. -/
theorem Consistent.released (consistent : d.Consistent null vacant live) {key : Key} {slot : Slot}
    (found : d.slotOf key = slot) (inside : slot ≠ null) :
    (d.release null vacant slot).stage slot = vacant ∧
      (d.release null vacant slot).slotOf key = null ∧
      (d.release null vacant slot).flag key = false ∧
      d.used = (d.release null vacant slot).used + 1 := by
  obtain ⟨taken, held⟩ := (consistent.agrees slot inside key).2 found
  have change := tally_update d.stage (fun stage => decide (stage ≠ vacant)) slot vacant
  simp only [taken, ne_eq, not_true_eq_false, decide_false, Bool.false_eq_true, ↓reduceIte,
    not_false_eq_true, decide_true] at change
  subst held
  refine ⟨Function.update_self .., Function.update_self .., Function.update_self .., ?_⟩
  simp only [SlotTable.release, consistent.counted, ne_eq]
  omega

/-- Releasing the slot of one key leaves the others what they have. -/
theorem Consistent.release_other (consistent : d.Consistent null vacant live) {key other : Key}
    {slot : Slot} (found : d.slotOf key = slot) (inside : slot ≠ null) (apart : other ≠ key) :
    (d.release null vacant slot).slotOf other = d.slotOf other ∧
      (d.release null vacant slot).stage (d.slotOf other) = d.stage (d.slotOf other) := by
  have held := ((consistent.agrees slot inside key).2 found).2
  have elsewhere : d.slotOf other ≠ slot := by
    intro same
    exact apart (((consistent.agrees slot inside other).2 same).2.symm.trans held)
  subst held
  exact ⟨Function.update_of_ne apart .., Function.update_of_ne elsewhere ..⟩

/-- A slot in use has a key with some property just when a key with it has a slot. -/
theorem Consistent.exists_held (consistent : d.Consistent null vacant live) (has : Key → Prop) :
    (∃ slot, d.stage slot ≠ vacant ∧ has (d.holder slot)) ↔
      ∃ key, has key ∧ d.slotOf key ≠ null := by
  constructor
  · rintro ⟨slot, taken, holds⟩
    refine ⟨d.holder slot, holds, ?_⟩
    rw [consistent.slotOf_holder taken]
    rintro rfl
    exact taken consistent.reserved
  · rintro ⟨key, holds, known⟩
    obtain ⟨taken, held⟩ := consistent.taken known
    exact ⟨d.slotOf key, taken, held.symm ▸ holds⟩

end SlotTable

end Mt7612u.Library.Directory
