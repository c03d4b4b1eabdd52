import Mathlib

/-! Columns of four bytes that are mixed by a matrix over multiples of a byte: the multiples come
from one doubling that respects exclusive or, which is all that undoing the mixing needs. -/

namespace Mt7612u.Library.ColumnMix

/-- The operation respects exclusive or. -/
def RespectsXor (operation : UInt8 → UInt8) : Prop :=
  ∀ first second, operation (first ^^^ second) = operation first ^^^ operation second

variable (double : UInt8 → UInt8)

def twice (b : UInt8) : UInt8 := double b
def thrice (b : UInt8) : UInt8 := double b ^^^ b
def nineFold (b : UInt8) : UInt8 := double (double (double b)) ^^^ b
def elevenFold (b : UInt8) : UInt8 := double (double (double b)) ^^^ double b ^^^ b
def thirteenFold (b : UInt8) : UInt8 := double (double (double b)) ^^^ double (double b) ^^^ b
def fourteenFold (b : UInt8) : UInt8 :=
  double (double (double b)) ^^^ double (double b) ^^^ double b

/-- A row of the mixing matrix, its largest entries on the first two bytes. -/
def mixRow (a b c d : UInt8) : UInt8 := twice double a ^^^ thrice double b ^^^ c ^^^ d

/-- A row of the matrix that takes the mixing back. -/
def unmixRow (a b c d : UInt8) : UInt8 :=
  fourteenFold double a ^^^ elevenFold double b ^^^ thirteenFold double c ^^^ nineFold double d

theorem xor_xor_self (a b : UInt8) : a ^^^ (a ^^^ b) = b := by
  rw [← UInt8.xor_assoc, UInt8.xor_self, UInt8.zero_xor]

theorem xor_left_comm (a b c : UInt8) : a ^^^ (b ^^^ c) = b ^^^ (a ^^^ c) := by
  rw [← UInt8.xor_assoc, UInt8.xor_comm a b, UInt8.xor_assoc]

variable {double}

/-- The product of the two matrices has ones on its diagonal and nothing beside it; no power of the
doubling above the fourth has to be reduced for this. -/
theorem unmixRow_mixRow (linear : RespectsXor double) (a b c d : UInt8) :
    unmixRow double (mixRow double a b c d) (mixRow double b c d a) (mixRow double c d a b)
      (mixRow double d a b c) = a := by
  have additive : ∀ first second, double (first ^^^ second) = double first ^^^ double second :=
    linear
  simp only [unmixRow, mixRow, twice, thrice, nineFold, elevenFold, thirteenFold, fourteenFold,
    additive, UInt8.xor_assoc]
  simp only [UInt8.xor_comm, xor_left_comm, xor_xor_self, UInt8.xor_self, UInt8.xor_zero]

end Mt7612u.Library.ColumnMix
