import Mathlib

/-! Byte memory: blocks read, stored and held at an address. -/

namespace Mt7612u.Receive

/-- Bytes by address, as far as a pointer may be followed. -/
abbrev Memory := Nat → UInt8

def Memory.bytes (mem : Memory) (start count : Nat) : List UInt8 :=
  (List.range count).map fun i => mem (start + i)

@[simp] theorem Memory.length_bytes (mem : Memory) (start count : Nat) :
    (mem.bytes start count).length = count := by
  simp [Memory.bytes]

/-- Storing a block of bytes. -/
def Memory.write (mem : Memory) (start : Nat) (data : List UInt8) : Memory := fun address =>
  if start ≤ address then data.getD (address - start) (mem address) else mem address

theorem Memory.write_before (mem : Memory) {start address : Nat} (data : List UInt8)
    (before : address < start) : mem.write start data address = mem address :=
  if_neg (not_le.mpr before)

theorem Memory.write_after (mem : Memory) {start address : Nat} {data : List UInt8}
    (after : start + data.length ≤ address) : mem.write start data address = mem address := by
  unfold Memory.write
  rw [if_pos (by omega), List.getD_eq_default _ _ (by omega)]

/-- A block of bytes stands at an address. -/
def Memory.Holds (mem : Memory) (start : Nat) (data : List UInt8) : Prop :=
  mem.bytes start data.length = data

theorem Memory.bytes_append (mem : Memory) (start first second : Nat) :
    mem.bytes start (first + second) =
      mem.bytes start first ++ mem.bytes (start + first) second := by
  simp only [Memory.bytes, List.range_add, List.map_append, List.map_map]
  congr 1
  apply List.map_congr_left
  intro i _
  simp [Nat.add_assoc]

theorem Memory.holds_append {mem : Memory} {start : Nat} {first second : List UInt8} :
    mem.Holds start (first ++ second) ↔
      mem.Holds start first ∧ mem.Holds (start + first.length) second := by
  unfold Memory.Holds
  rw [List.length_append, Memory.bytes_append]
  constructor
  · intro both
    exact List.append_inj both (mem.length_bytes start first.length)
  · rintro ⟨front, back⟩
    rw [front, back]

theorem Memory.holds_of_agree {mem mem' : Memory} {start : Nat} {data : List UInt8}
    (holds : mem.Holds start data)
    (agree : ∀ address, start ≤ address → mem' address = mem address) :
    mem'.Holds start data := by
  refine Eq.trans ?_ holds
  apply List.map_congr_left
  intro i _
  exact agree _ (by omega)

theorem Memory.write_holds (mem : Memory) (start : Nat) (data : List UInt8) :
    (mem.write start data).Holds start data := by
  apply List.ext_getElem
  · exact Memory.length_bytes _ _ _
  · intro i below inside
    simp only [Memory.bytes, Memory.write, List.getElem_map, List.getElem_range]
    rw [if_pos (Nat.le_add_right _ _), Nat.add_sub_cancel_left, List.getD_eq_getElem _ _ inside]

/-- What stands behind a stored block is still read behind it. -/
theorem Memory.holds_write {mem : Memory} {start : Nat} (stored : List UInt8)
    {data : List UInt8} (holds : mem.Holds (start + stored.length) data) :
    (mem.write start stored).Holds start (stored ++ data) := by
  rw [Memory.holds_append]
  apply And.intro (mem.write_holds start stored)
  exact Memory.holds_of_agree holds fun address behind => mem.write_after behind

/-- Storing behind a block leaves it in place. -/
theorem Memory.holds_write_behind {mem : Memory} {start : Nat} {data : List UInt8}
    (holds : mem.Holds start data) (stored : List UInt8) :
    (mem.write (start + data.length) stored).Holds start (data ++ stored) := by
  rw [Memory.holds_append]
  refine ⟨Eq.trans ?_ holds, mem.write_holds _ stored⟩
  apply List.map_congr_left
  intro i member
  have inside := List.mem_range.mp member
  exact mem.write_before stored (by omega)

/-- A block stays where a store does not reach it. -/
theorem Memory.holds_write_apart {mem : Memory} {start address : Nat} {data stored : List UInt8}
    (holds : mem.Holds start data)
    (apart : address + stored.length ≤ start ∨ start + data.length ≤ address) :
    (mem.write address stored).Holds start data := by
  apply Eq.trans _ holds
  apply List.map_congr_left
  intro i member
  have inside := List.mem_range.mp member
  rcases apart with before | behind
  · exact mem.write_after (by omega)
  · exact mem.write_before stored (by omega)

/-- The bytes at a stored block are those that were stored. -/
theorem Memory.bytes_write (mem : Memory) (start : Nat) (data : List UInt8) :
    (mem.write start data).bytes start data.length = data :=
  mem.write_holds start data

structure Span where
  start : Nat
  count : Nat

def Span.Within (span outer : Span) : Prop :=
  outer.start ≤ span.start ∧ span.start + span.count ≤ outer.start + outer.count

theorem Span.Within.trans {inner span outer : Span} (first : inner.Within span)
    (second : span.Within outer) : inner.Within outer :=
  ⟨second.1.trans first.1, first.2.trans second.2⟩

end Mt7612u.Receive
