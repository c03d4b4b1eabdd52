import Mathlib.Data.List.GetD
import Mathlib.Logic.Function.Iterate
import Mathlib.Tactic.IntervalCases

/-! The rate tables of the group algorithm, row by row as `ra_ctrl.c` has them. A row names the row
below it and one row above it for each group of spatial streams. -/

namespace Mt7612u.Rate.Tables

/-- `RTMP_RA_GRP_TB`, ten bytes. -/
structure RaGrpTb where
  itemNo : Nat
  modeByte : Nat
  currMcs : Nat
  trainUp : Nat
  trainDown : Nat
  downMcs : Nat
  upMcs3 : Nat
  upMcs2 : Nat
  upMcs1 : Nat
  dataRate : Nat
deriving DecidableEq

/-- `ShortGI`, bit 1 of the second byte. -/
def RaGrpTb.shortGI (row : RaGrpTb) : Bool := row.modeByte / 2 % 2 == 1

/-- `Mode`, bits 4 to 6 of the second byte; CCK is 0. -/
def RaGrpTb.mode (row : RaGrpTb) : Nat := row.modeByte / 16 % 8

def rateSwitchTableAdapt11N1S : List RaGrpTb :=
  [⟨0, 0x21, 0, 30, 50, 11, 1, 8, 1, 7⟩, ⟨1, 0x21, 1, 20, 50, 0, 16, 9, 2, 13⟩,
   ⟨2, 0x21, 2, 20, 50, 1, 17, 9, 3, 20⟩, ⟨3, 0x21, 3, 15, 50, 2, 17, 10, 4, 26⟩,
   ⟨4, 0x21, 4, 15, 30, 3, 18, 11, 5, 39⟩, ⟨5, 0x21, 5, 10, 25, 4, 18, 12, 6, 52⟩,
   ⟨6, 0x21, 6, 8, 14, 5, 19, 12, 7, 59⟩, ⟨7, 0x21, 7, 8, 14, 6, 19, 12, 8, 65⟩,
   ⟨8, 0x23, 7, 8, 14, 7, 19, 12, 8, 72⟩, ⟨9, 0x00, 0, 40, 101, 9, 9, 9, 10, 1⟩,
   ⟨10, 0x00, 1, 40, 50, 9, 10, 10, 11, 2⟩, ⟨11, 0x21, 32, 30, 50, 10, 0, 8, 0, 7⟩]

def rateSwitchTableAdapt11N2S : List RaGrpTb :=
  [⟨0, 0x21, 0, 30, 50, 21, 1, 8, 1, 7⟩, ⟨1, 0x21, 1, 20, 50, 0, 16, 9, 2, 13⟩,
   ⟨2, 0x21, 2, 20, 50, 1, 17, 9, 3, 20⟩, ⟨3, 0x21, 3, 15, 50, 2, 17, 10, 4, 26⟩,
   ⟨4, 0x21, 4, 15, 30, 3, 18, 11, 5, 39⟩, ⟨5, 0x21, 5, 10, 25, 4, 18, 12, 6, 52⟩,
   ⟨6, 0x21, 6, 8, 14, 5, 19, 12, 7, 59⟩, ⟨7, 0x21, 7, 8, 14, 6, 19, 12, 7, 65⟩,
   ⟨8, 0x20, 8, 30, 50, 0, 16, 9, 2, 13⟩, ⟨9, 0x20, 9, 20, 50, 8, 17, 10, 4, 26⟩,
   ⟨10, 0x20, 10, 20, 40, 9, 18, 11, 5, 39⟩, ⟨11, 0x20, 11, 15, 30, 10, 18, 12, 6, 52⟩,
   ⟨12, 0x20, 12, 15, 30, 11, 20, 13, 12, 78⟩, ⟨13, 0x20, 13, 8, 20, 12, 20, 14, 13, 104⟩,
   ⟨14, 0x20, 14, 8, 18, 13, 21, 15, 14, 117⟩, ⟨15, 0x20, 15, 8, 25, 14, 21, 16, 15, 130⟩,
   ⟨16, 0x22, 15, 8, 25, 15, 21, 16, 16, 144⟩, ⟨17, 0, 0, 0, 0, 0, 0, 0, 0, 0⟩,
   ⟨18, 0, 0, 0, 0, 0, 0, 0, 0, 0⟩, ⟨19, 0x00, 0, 40, 101, 19, 19, 19, 20, 1⟩,
   ⟨20, 0x00, 1, 40, 50, 19, 20, 20, 21, 2⟩, ⟨21, 0x21, 32, 30, 50, 20, 0, 8, 0, 7⟩]

def rateSwitchTableAdapt11N3S : List RaGrpTb :=
  [⟨0, 0x21, 0, 30, 50, 32, 1, 8, 1, 7⟩, ⟨1, 0x21, 1, 20, 50, 0, 16, 9, 2, 13⟩,
   ⟨2, 0x21, 2, 20, 50, 1, 17, 9, 3, 20⟩, ⟨3, 0x21, 3, 15, 50, 2, 17, 10, 4, 26⟩,
   ⟨4, 0x21, 4, 15, 30, 3, 18, 11, 5, 39⟩, ⟨5, 0x21, 5, 10, 25, 4, 18, 12, 6, 52⟩,
   ⟨6, 0x21, 6, 8, 14, 5, 19, 12, 7, 59⟩, ⟨7, 0x21, 7, 8, 14, 6, 19, 12, 7, 65⟩,
   ⟨8, 0x20, 8, 30, 50, 0, 16, 9, 2, 13⟩, ⟨9, 0x20, 9, 20, 50, 8, 17, 10, 4, 26⟩,
   ⟨10, 0x20, 10, 20, 40, 9, 18, 11, 5, 39⟩, ⟨11, 0x20, 11, 15, 30, 10, 18, 12, 6, 52⟩,
   ⟨12, 0x20, 12, 15, 30, 11, 20, 13, 12, 78⟩, ⟨13, 0x20, 13, 8, 20, 12, 20, 14, 13, 104⟩,
   ⟨14, 0x20, 14, 8, 18, 13, 21, 15, 14, 117⟩, ⟨15, 0x20, 15, 8, 14, 14, 21, 15, 15, 130⟩,
   ⟨16, 0x20, 16, 30, 50, 8, 17, 9, 3, 20⟩, ⟨17, 0x20, 17, 20, 50, 16, 18, 11, 5, 39⟩,
   ⟨18, 0x20, 18, 20, 40, 17, 19, 12, 7, 59⟩, ⟨19, 0x20, 19, 15, 30, 18, 20, 13, 19, 78⟩,
   ⟨20, 0x20, 20, 15, 30, 19, 21, 15, 20, 117⟩, ⟨21, 0x20, 21, 8, 20, 20, 22, 21, 21, 156⟩,
   ⟨22, 0x20, 22, 8, 20, 21, 23, 22, 22, 176⟩, ⟨23, 0x20, 23, 6, 18, 22, 24, 23, 23, 195⟩,
   ⟨24, 0x22, 23, 6, 14, 23, 24, 24, 24, 217⟩, ⟨25, 0, 0, 0, 0, 0, 0, 0, 0, 0⟩,
   ⟨26, 0, 0, 0, 0, 0, 0, 0, 0, 0⟩, ⟨27, 0, 0, 0, 0, 0, 0, 0, 0, 0⟩,
   ⟨28, 0, 0, 0, 0, 0, 0, 0, 0, 0⟩, ⟨29, 0, 0, 0, 0, 0, 0, 0, 0, 0⟩,
   ⟨30, 0x00, 0, 40, 101, 30, 30, 30, 31, 1⟩, ⟨31, 0x00, 1, 40, 50, 30, 31, 31, 32, 2⟩,
   ⟨32, 0x21, 32, 30, 50, 31, 0, 8, 0, 7⟩]

def rateTableVht1S : List RaGrpTb :=
  [⟨0, 0x10, 0, 30, 101, 0, 0, 0, 1, 1⟩, ⟨1, 0x25, 0, 30, 50, 0, 0, 0, 2, 1⟩,
   ⟨2, 0x49, 0, 30, 50, 1, 0, 0, 3, 1⟩, ⟨3, 0x49, 1, 20, 50, 2, 0, 0, 4, 1⟩,
   ⟨4, 0x49, 2, 20, 50, 3, 0, 0, 5, 1⟩, ⟨5, 0x49, 3, 15, 50, 4, 0, 0, 6, 1⟩,
   ⟨6, 0x49, 4, 15, 30, 5, 0, 0, 7, 1⟩, ⟨7, 0x49, 5, 10, 25, 6, 0, 0, 8, 1⟩,
   ⟨8, 0x49, 6, 8, 14, 7, 0, 0, 9, 1⟩, ⟨9, 0x49, 7, 8, 14, 8, 0, 0, 10, 1⟩,
   ⟨10, 0x4B, 7, 8, 14, 9, 0, 0, 10, 1⟩]

def rateTableVht1SMcs9 : List RaGrpTb :=
  [⟨0, 0x10, 0, 30, 101, 0, 0, 0, 1, 1⟩, ⟨1, 0x45, 0, 30, 50, 0, 0, 0, 2, 1⟩,
   ⟨2, 0x49, 0, 30, 50, 1, 0, 0, 3, 1⟩, ⟨3, 0x49, 1, 20, 50, 2, 0, 0, 4, 1⟩,
   ⟨4, 0x49, 2, 20, 50, 3, 0, 0, 5, 1⟩, ⟨5, 0x49, 3, 15, 50, 4, 0, 0, 6, 1⟩,
   ⟨6, 0x49, 4, 15, 30, 5, 0, 0, 7, 1⟩, ⟨7, 0x49, 5, 12, 25, 6, 0, 0, 8, 1⟩,
   ⟨8, 0x49, 6, 12, 15, 7, 0, 0, 9, 1⟩, ⟨9, 0x49, 7, 12, 15, 8, 0, 0, 10, 1⟩,
   ⟨10, 0x49, 8, 12, 15, 9, 0, 0, 11, 1⟩, ⟨11, 0x49, 9, 12, 15, 10, 0, 0, 12, 1⟩,
   ⟨12, 0x4A, 9, 12, 15, 11, 0, 0, 12, 1⟩]

def rateTableVht2S : List RaGrpTb :=
  [⟨0, 0x11, 0, 100, 101, 3, 0, 4, 4, 1⟩, ⟨1, 0x11, 0, 100, 101, 3, 0, 4, 4, 1⟩,
   ⟨2, 0x11, 0, 100, 101, 3, 0, 4, 4, 1⟩, ⟨3, 0x11, 0, 20, 101, 3, 0, 4, 4, 1⟩,
   ⟨4, 0x11, 1, 20, 40, 3, 0, 5, 5, 1⟩, ⟨5, 0x11, 2, 20, 35, 4, 0, 6, 6, 1⟩,
   ⟨6, 0x11, 3, 15, 35, 5, 0, 10, 10, 1⟩, ⟨7, 0x41, 0, 15, 25, 3, 0, 8, 8, 1⟩,
   ⟨8, 0x45, 0, 25, 50, 7, 0, 10, 10, 1⟩, ⟨9, 0x00, 0, 0, 0, 0, 0, 0, 0, 1⟩,
   ⟨10, 0x49, 0, 25, 50, 8, 0, 20, 11, 1⟩, ⟨11, 0x49, 1, 20, 35, 10, 0, 21, 12, 1⟩,
   ⟨12, 0x49, 2, 20, 35, 11, 0, 21, 13, 1⟩, ⟨13, 0x49, 3, 15, 30, 12, 0, 22, 14, 1⟩,
   ⟨14, 0x49, 4, 15, 30, 13, 0, 23, 15, 1⟩, ⟨15, 0x49, 5, 10, 25, 14, 0, 24, 16, 1⟩,
   ⟨16, 0x49, 6, 8, 15, 15, 0, 24, 17, 1⟩, ⟨17, 0x49, 7, 8, 15, 16, 0, 24, 18, 1⟩,
   ⟨18, 0x49, 8, 8, 15, 17, 0, 25, 19, 1⟩, ⟨19, 0x49, 9, 8, 15, 18, 0, 25, 25, 1⟩,
   ⟨20, 0x48, 0, 30, 50, 10, 0, 21, 12, 2⟩, ⟨21, 0x48, 1, 30, 50, 20, 0, 22, 14, 2⟩,
   ⟨22, 0x48, 2, 15, 30, 21, 0, 23, 15, 2⟩, ⟨23, 0x48, 3, 15, 30, 22, 0, 24, 16, 2⟩,
   ⟨24, 0x48, 4, 15, 30, 23, 0, 25, 19, 2⟩, ⟨25, 0x48, 5, 8, 20, 24, 0, 26, 26, 2⟩,
   ⟨26, 0x48, 6, 8, 20, 25, 0, 27, 27, 2⟩, ⟨27, 0x48, 7, 8, 20, 26, 0, 28, 28, 2⟩,
   ⟨28, 0x48, 8, 5, 15, 27, 0, 29, 29, 2⟩, ⟨29, 0x48, 9, 5, 15, 28, 0, 30, 30, 2⟩,
   ⟨30, 0x4A, 9, 5, 15, 29, 0, 30, 30, 2⟩]

def rateTableVht2SMcs7 : List RaGrpTb :=
  [⟨0, 0x11, 0, 100, 101, 3, 0, 4, 4, 1⟩, ⟨1, 0x11, 0, 100, 101, 3, 0, 4, 4, 1⟩,
   ⟨2, 0x11, 0, 100, 101, 3, 0, 4, 4, 1⟩, ⟨3, 0x11, 0, 20, 101, 3, 0, 4, 4, 1⟩,
   ⟨4, 0x11, 1, 20, 40, 3, 0, 5, 5, 1⟩, ⟨5, 0x11, 2, 20, 35, 4, 0, 6, 6, 1⟩,
   ⟨6, 0x11, 3, 15, 35, 5, 0, 10, 10, 1⟩, ⟨7, 0x41, 0, 15, 25, 3, 0, 8, 8, 1⟩,
   ⟨8, 0x45, 0, 25, 50, 7, 0, 10, 10, 1⟩, ⟨9, 0x00, 0, 0, 0, 0, 0, 0, 0, 1⟩,
   ⟨10, 0x49, 0, 25, 50, 8, 0, 20, 11, 1⟩, ⟨11, 0x49, 1, 20, 35, 10, 0, 21, 12, 1⟩,
   ⟨12, 0x49, 2, 20, 35, 11, 0, 21, 13, 1⟩, ⟨13, 0x49, 3, 15, 30, 12, 0, 22, 14, 1⟩,
   ⟨14, 0x49, 4, 15, 30, 13, 0, 23, 15, 1⟩, ⟨15, 0x49, 5, 10, 25, 14, 0, 24, 16, 1⟩,
   ⟨16, 0x49, 6, 8, 15, 15, 0, 24, 17, 1⟩, ⟨17, 0x49, 7, 8, 15, 16, 0, 24, 24, 1⟩,
   ⟨18, 0x49, 8, 8, 15, 16, 0, 24, 24, 1⟩, ⟨19, 0x49, 9, 8, 15, 16, 0, 24, 24, 1⟩,
   ⟨20, 0x48, 0, 30, 50, 10, 0, 21, 12, 2⟩, ⟨21, 0x48, 1, 30, 50, 20, 0, 22, 14, 2⟩,
   ⟨22, 0x48, 2, 15, 30, 21, 0, 23, 15, 2⟩, ⟨23, 0x48, 3, 15, 30, 22, 0, 24, 16, 2⟩,
   ⟨24, 0x48, 4, 15, 30, 23, 0, 25, 25, 2⟩, ⟨25, 0x48, 5, 8, 20, 24, 0, 26, 26, 2⟩,
   ⟨26, 0x48, 6, 8, 20, 25, 0, 27, 27, 2⟩, ⟨27, 0x48, 7, 8, 20, 26, 0, 28, 28, 2⟩,
   ⟨28, 0x4A, 7, 5, 15, 27, 0, 28, 28, 2⟩, ⟨29, 0x48, 9, 5, 15, 28, 0, 28, 28, 2⟩,
   ⟨30, 0x4A, 9, 5, 15, 28, 0, 28, 28, 2⟩]

def rateTableVht2SBw20 : List RaGrpTb :=
  [⟨0, 0x11, 0, 100, 101, 3, 0, 4, 4, 1⟩, ⟨1, 0x11, 0, 100, 101, 3, 0, 4, 4, 1⟩,
   ⟨2, 0x11, 0, 100, 101, 3, 0, 4, 4, 1⟩, ⟨3, 0x11, 0, 20, 101, 3, 0, 4, 4, 1⟩,
   ⟨4, 0x11, 1, 20, 40, 3, 0, 5, 5, 1⟩, ⟨5, 0x11, 2, 20, 35, 4, 0, 6, 6, 1⟩,
   ⟨6, 0x11, 3, 15, 35, 5, 0, 13, 13, 1⟩, ⟨7, 0x00, 0, 0, 0, 0, 0, 0, 0, 0⟩,
   ⟨8, 0x00, 0, 0, 0, 0, 0, 0, 0, 0⟩, ⟨9, 0x00, 0, 0, 0, 0, 0, 0, 0, 0⟩,
   ⟨10, 0x41, 0, 15, 25, 3, 0, 20, 11, 1⟩, ⟨11, 0x41, 1, 20, 35, 10, 0, 21, 12, 1⟩,
   ⟨12, 0x41, 2, 20, 35, 11, 0, 21, 13, 1⟩, ⟨13, 0x41, 3, 15, 30, 12, 0, 22, 14, 1⟩,
   ⟨14, 0x41, 4, 15, 30, 13, 0, 23, 15, 1⟩, ⟨15, 0x41, 5, 10, 25, 14, 0, 24, 16, 1⟩,
   ⟨16, 0x41, 6, 8, 15, 15, 0, 24, 17, 1⟩, ⟨17, 0x41, 7, 8, 15, 16, 0, 24, 18, 1⟩,
   ⟨18, 0x41, 8, 8, 15, 17, 0, 25, 25, 1⟩, ⟨19, 0x00, 0, 0, 0, 0, 0, 0, 0, 0⟩,
   ⟨20, 0x40, 0, 30, 50, 10, 0, 21, 12, 2⟩, ⟨21, 0x40, 1, 30, 50, 20, 0, 22, 14, 2⟩,
   ⟨22, 0x40, 2, 15, 30, 21, 0, 23, 15, 2⟩, ⟨23, 0x40, 3, 15, 30, 22, 0, 24, 16, 2⟩,
   ⟨24, 0x40, 4, 15, 30, 23, 0, 25, 25, 2⟩, ⟨25, 0x40, 5, 8, 20, 24, 0, 26, 26, 2⟩,
   ⟨26, 0x40, 6, 8, 20, 25, 0, 27, 27, 2⟩, ⟨27, 0x40, 7, 8, 20, 26, 0, 28, 29, 2⟩,
   ⟨28, 0x40, 8, 5, 15, 27, 0, 29, 29, 2⟩, ⟨29, 0x42, 8, 5, 15, 28, 0, 29, 29, 2⟩]

def rateTableVht2SBw40 : List RaGrpTb :=
  [⟨0, 0x11, 0, 100, 101, 3, 0, 4, 4, 1⟩, ⟨1, 0x11, 0, 100, 101, 3, 0, 4, 4, 1⟩,
   ⟨2, 0x11, 0, 100, 101, 3, 0, 4, 4, 1⟩, ⟨3, 0x11, 0, 20, 101, 3, 0, 4, 4, 1⟩,
   ⟨4, 0x11, 1, 20, 40, 3, 0, 5, 5, 1⟩, ⟨5, 0x11, 2, 20, 35, 4, 0, 6, 6, 1⟩,
   ⟨6, 0x11, 3, 15, 35, 5, 0, 11, 11, 1⟩, ⟨7, 0x41, 0, 15, 25, 3, 0, 10, 10, 1⟩,
   ⟨8, 0x00, 0, 0, 0, 0, 0, 0, 0, 1⟩, ⟨9, 0x00, 0, 0, 0, 0, 0, 0, 0, 1⟩,
   ⟨10, 0x45, 0, 25, 50, 7, 0, 20, 11, 1⟩, ⟨11, 0x45, 1, 20, 35, 10, 0, 21, 12, 1⟩,
   ⟨12, 0x45, 2, 20, 35, 11, 0, 21, 13, 1⟩, ⟨13, 0x45, 3, 15, 30, 12, 0, 22, 14, 1⟩,
   ⟨14, 0x45, 4, 15, 30, 13, 0, 23, 15, 1⟩, ⟨15, 0x45, 5, 10, 25, 14, 0, 24, 16, 1⟩,
   ⟨16, 0x45, 6, 8, 15, 15, 0, 24, 17, 1⟩, ⟨17, 0x45, 7, 8, 15, 16, 0, 24, 18, 1⟩,
   ⟨18, 0x45, 8, 8, 15, 17, 0, 25, 19, 1⟩, ⟨19, 0x45, 9, 8, 15, 18, 0, 25, 25, 1⟩,
   ⟨20, 0x44, 0, 30, 50, 10, 0, 21, 12, 2⟩, ⟨21, 0x44, 1, 30, 50, 20, 0, 22, 14, 2⟩,
   ⟨22, 0x44, 2, 15, 30, 21, 0, 23, 15, 2⟩, ⟨23, 0x44, 3, 15, 30, 22, 0, 24, 16, 2⟩,
   ⟨24, 0x44, 4, 15, 30, 23, 0, 25, 19, 2⟩, ⟨25, 0x44, 5, 8, 20, 24, 0, 26, 26, 2⟩,
   ⟨26, 0x44, 6, 8, 20, 25, 0, 27, 27, 2⟩, ⟨27, 0x44, 7, 8, 20, 26, 0, 28, 28, 2⟩,
   ⟨28, 0x44, 8, 5, 15, 27, 0, 29, 29, 2⟩, ⟨29, 0x44, 9, 5, 15, 28, 0, 30, 30, 2⟩,
   ⟨30, 0x46, 9, 5, 15, 29, 0, 30, 30, 2⟩]

def rateTableVht1S2GBw20 : List RaGrpTb :=
  [⟨0, 0x00, 0, 40, 101, 0, 0, 1, 1, 1⟩, ⟨1, 0x00, 1, 40, 50, 0, 0, 2, 2, 1⟩,
   ⟨2, 0x00, 2, 25, 45, 1, 0, 4, 4, 1⟩, ⟨3, 0x11, 0, 20, 50, 2, 0, 4, 4, 1⟩,
   ⟨4, 0x11, 1, 20, 40, 3, 0, 5, 5, 1⟩, ⟨5, 0x11, 2, 20, 35, 4, 0, 6, 6, 1⟩,
   ⟨6, 0x11, 3, 15, 35, 5, 0, 13, 13, 1⟩, ⟨7, 0x00, 0, 0, 0, 0, 0, 0, 0, 0⟩,
   ⟨8, 0x00, 0, 0, 0, 0, 0, 0, 0, 0⟩, ⟨9, 0x00, 0, 0, 0, 0, 0, 0, 0, 0⟩,
   ⟨10, 0x41, 0, 15, 25, 3, 0, 11, 11, 1⟩, ⟨11, 0x41, 1, 20, 35, 10, 0, 12, 12, 1⟩,
   ⟨12, 0x41, 2, 20, 35, 11, 0, 13, 13, 1⟩, ⟨13, 0x41, 3, 15, 30, 12, 0, 14, 14, 1⟩,
   ⟨14, 0x41, 4, 15, 30, 13, 0, 15, 15, 1⟩, ⟨15, 0x41, 5, 10, 25, 14, 0, 16, 16, 1⟩,
   ⟨16, 0x41, 6, 8, 15, 15, 0, 17, 17, 1⟩, ⟨17, 0x41, 7, 8, 15, 16, 0, 18, 18, 1⟩,
   ⟨18, 0x41, 8, 8, 15, 17, 0, 19, 19, 1⟩, ⟨19, 0x43, 8, 8, 15, 18, 0, 19, 19, 1⟩]

def rateTableVht1S2GBw40 : List RaGrpTb :=
  [⟨0, 0x00, 0, 40, 101, 0, 0, 1, 1, 1⟩, ⟨1, 0x00, 1, 40, 50, 0, 0, 2, 2, 1⟩,
   ⟨2, 0x00, 2, 25, 45, 1, 0, 4, 4, 1⟩, ⟨3, 0x11, 0, 20, 50, 2, 0, 4, 4, 1⟩,
   ⟨4, 0x11, 1, 20, 40, 3, 0, 5, 5, 1⟩, ⟨5, 0x11, 2, 20, 35, 4, 0, 6, 6, 1⟩,
   ⟨6, 0x11, 3, 15, 35, 5, 0, 11, 11, 1⟩, ⟨7, 0x41, 0, 15, 25, 3, 0, 10, 10, 1⟩,
   ⟨8, 0x00, 0, 0, 0, 0, 0, 0, 0, 1⟩, ⟨9, 0x00, 0, 0, 0, 0, 0, 0, 0, 1⟩,
   ⟨10, 0x45, 0, 25, 50, 7, 0, 20, 11, 1⟩, ⟨11, 0x45, 1, 20, 35, 10, 0, 12, 12, 1⟩,
   ⟨12, 0x45, 2, 20, 35, 11, 0, 13, 13, 1⟩, ⟨13, 0x45, 3, 15, 30, 12, 0, 14, 14, 1⟩,
   ⟨14, 0x45, 4, 15, 30, 13, 0, 15, 15, 1⟩, ⟨15, 0x45, 5, 10, 25, 14, 0, 16, 16, 1⟩,
   ⟨16, 0x45, 6, 8, 15, 15, 0, 17, 17, 1⟩, ⟨17, 0x45, 7, 8, 15, 16, 0, 18, 18, 1⟩,
   ⟨18, 0x45, 8, 8, 15, 17, 0, 19, 19, 1⟩, ⟨19, 0x45, 9, 8, 15, 18, 0, 20, 20, 1⟩,
   ⟨20, 0x47, 9, 8, 15, 19, 0, 20, 20, 1⟩]

def rateTableVht2S2GBw20 : List RaGrpTb :=
  [⟨0, 0x00, 0, 40, 101, 0, 0, 1, 1, 1⟩, ⟨1, 0x00, 1, 40, 50, 0, 0, 2, 2, 1⟩,
   ⟨2, 0x00, 2, 25, 45, 1, 0, 4, 4, 1⟩, ⟨3, 0x11, 0, 20, 50, 2, 0, 4, 4, 1⟩,
   ⟨4, 0x11, 1, 20, 40, 3, 0, 5, 5, 1⟩, ⟨5, 0x11, 2, 20, 35, 4, 0, 6, 6, 1⟩,
   ⟨6, 0x11, 3, 15, 35, 5, 0, 13, 13, 1⟩, ⟨7, 0x00, 0, 0, 0, 0, 0, 0, 0, 0⟩,
   ⟨8, 0x00, 0, 0, 0, 0, 0, 0, 0, 0⟩, ⟨9, 0x00, 0, 0, 0, 0, 0, 0, 0, 0⟩,
   ⟨10, 0x41, 0, 15, 25, 3, 0, 20, 11, 1⟩, ⟨11, 0x41, 1, 20, 35, 10, 0, 21, 12, 1⟩,
   ⟨12, 0x41, 2, 20, 35, 11, 0, 21, 13, 1⟩, ⟨13, 0x41, 3, 15, 30, 12, 0, 22, 14, 1⟩,
   ⟨14, 0x41, 4, 15, 30, 13, 0, 23, 15, 1⟩, ⟨15, 0x41, 5, 10, 25, 14, 0, 24, 16, 1⟩,
   ⟨16, 0x41, 6, 8, 15, 15, 0, 24, 17, 1⟩, ⟨17, 0x41, 7, 8, 15, 16, 0, 24, 18, 1⟩,
   ⟨18, 0x41, 8, 8, 15, 17, 0, 25, 25, 1⟩, ⟨19, 0x00, 0, 0, 0, 0, 0, 0, 0, 0⟩,
   ⟨20, 0x40, 0, 30, 50, 10, 0, 21, 12, 2⟩, ⟨21, 0x40, 1, 30, 50, 20, 0, 22, 14, 2⟩,
   ⟨22, 0x40, 2, 15, 30, 21, 0, 23, 15, 2⟩, ⟨23, 0x40, 3, 15, 30, 22, 0, 24, 16, 2⟩,
   ⟨24, 0x40, 4, 15, 30, 23, 0, 25, 25, 2⟩, ⟨25, 0x40, 5, 8, 20, 24, 0, 26, 26, 2⟩,
   ⟨26, 0x40, 6, 8, 20, 25, 0, 27, 27, 2⟩, ⟨27, 0x40, 7, 8, 20, 26, 0, 28, 29, 2⟩,
   ⟨28, 0x40, 8, 5, 15, 27, 0, 29, 29, 2⟩, ⟨29, 0x42, 8, 5, 15, 28, 0, 29, 29, 2⟩]

def rateTableVht2S2GBw40 : List RaGrpTb :=
  [⟨0, 0x00, 0, 40, 101, 0, 0, 1, 1, 1⟩, ⟨1, 0x00, 1, 40, 50, 0, 0, 2, 2, 1⟩,
   ⟨2, 0x00, 2, 25, 45, 1, 0, 4, 4, 1⟩, ⟨3, 0x11, 0, 20, 50, 2, 0, 4, 4, 1⟩,
   ⟨4, 0x11, 1, 20, 40, 3, 0, 5, 5, 1⟩, ⟨5, 0x11, 2, 20, 35, 4, 0, 6, 6, 1⟩,
   ⟨6, 0x11, 3, 15, 35, 5, 0, 11, 11, 1⟩, ⟨7, 0x41, 0, 15, 25, 3, 0, 10, 10, 1⟩,
   ⟨8, 0x00, 0, 0, 0, 0, 0, 0, 0, 1⟩, ⟨9, 0x00, 0, 0, 0, 0, 0, 0, 0, 1⟩,
   ⟨10, 0x45, 0, 25, 50, 7, 0, 20, 11, 1⟩, ⟨11, 0x45, 1, 20, 35, 10, 0, 21, 12, 1⟩,
   ⟨12, 0x45, 2, 20, 35, 11, 0, 21, 13, 1⟩, ⟨13, 0x45, 3, 15, 30, 12, 0, 22, 14, 1⟩,
   ⟨14, 0x45, 4, 15, 30, 13, 0, 23, 15, 1⟩, ⟨15, 0x45, 5, 10, 25, 14, 0, 24, 16, 1⟩,
   ⟨16, 0x45, 6, 8, 15, 15, 0, 24, 17, 1⟩, ⟨17, 0x45, 7, 8, 15, 16, 0, 24, 18, 1⟩,
   ⟨18, 0x45, 8, 8, 15, 17, 0, 25, 19, 1⟩, ⟨19, 0x45, 9, 8, 15, 18, 0, 25, 25, 1⟩,
   ⟨20, 0x44, 0, 30, 50, 10, 0, 21, 12, 2⟩, ⟨21, 0x44, 1, 30, 50, 20, 0, 22, 14, 2⟩,
   ⟨22, 0x44, 2, 15, 30, 21, 0, 23, 15, 2⟩, ⟨23, 0x44, 3, 15, 30, 22, 0, 24, 16, 2⟩,
   ⟨24, 0x44, 4, 15, 30, 23, 0, 25, 19, 2⟩, ⟨25, 0x44, 5, 8, 20, 24, 0, 26, 26, 2⟩,
   ⟨26, 0x44, 6, 8, 20, 25, 0, 27, 27, 2⟩, ⟨27, 0x44, 7, 8, 20, 26, 0, 28, 28, 2⟩,
   ⟨28, 0x44, 8, 5, 15, 27, 0, 29, 29, 2⟩, ⟨29, 0x44, 9, 5, 15, 28, 0, 30, 30, 2⟩,
   ⟨30, 0x46, 9, 5, 15, 29, 0, 30, 30, 2⟩]

/-- The tables for which `ADAPT_RATE_TABLE` holds. -/
inductive RaTable where
  | adapt11N1S | adapt11N2S | adapt11N3S | vht1S | vht1SMcs9 | vht2S
  | vht2SMcs7 | vht2SBw20 | vht2SBw40 | vht1S2GBw20 | vht1S2GBw40 | vht2S2GBw20 | vht2S2GBw40
deriving DecidableEq

def RaTable.rows : RaTable → List RaGrpTb
  | .adapt11N1S => rateSwitchTableAdapt11N1S
  | .adapt11N2S => rateSwitchTableAdapt11N2S
  | .adapt11N3S => rateSwitchTableAdapt11N3S
  | .vht1S => rateTableVht1S
  | .vht1SMcs9 => rateTableVht1SMcs9
  | .vht2S => rateTableVht2S
  | .vht2SMcs7 => rateTableVht2SMcs7
  | .vht2SBw20 => rateTableVht2SBw20
  | .vht2SBw40 => rateTableVht2SBw40
  | .vht1S2GBw20 => rateTableVht1S2GBw20
  | .vht1S2GBw40 => rateTableVht1S2GBw40
  | .vht2S2GBw20 => rateTableVht2S2GBw20
  | .vht2S2GBw40 => rateTableVht2S2GBw40

/-- The tables of the stations with two streams in VHT, which have two groups. -/
def RaTable.twoStreams : RaTable → Bool
  | .vht2S | .vht2SBw20 | .vht2SBw40 | .vht2SMcs7 | .vht2S2GBw20 | .vht2S2GBw40 => true
  | _ => false

/-- The tables of the stations with one stream in VHT. -/
def RaTable.oneStream : RaTable → Bool
  | .vht1S | .vht1SMcs9 | .vht1S2GBw20 | .vht1S2GBw40 => true
  | _ => false

/-- The link downwards of a row. -/
def RaTable.downLink (table : RaTable) (i : Nat) : Nat := (table.rows[i]?.map (·.downMcs)).getD i

/-- Rows are numbered from zero. -/
theorem RaTable.itemNo_eq (table : RaTable) :
    ∀ i < table.rows.length, table.rows[i]?.map (·.itemNo) = some i := by
  cases table <;> decide +kernel

theorem RaTable.downLink_lt (table : RaTable) :
    ∀ i < table.rows.length, table.downLink i < table.rows.length := by
  cases table <;> decide +kernel

/-- Sixteen links downwards lead to a row that is its own lower row. -/
theorem RaTable.downLink_settles (table : RaTable) : ∀ i < table.rows.length,
    table.downLink (table.downLink^[16] i) = table.downLink^[16] i := by
  cases table <;> decide +kernel

end Mt7612u.Rate.Tables

/-! The group algorithm chooses the rates next to the current one. Upwards the groups of spatial
streams are tried from the highest the station has, until one has a good quality; downwards the links
of the table are followed to the first rate that may be used. -/

namespace Mt7612u.Rate.GroupSelect
open Tables

/-- What the selections read of the station and of the adapter. -/
structure Station where
  table : RaTable
  /-- What stands in memory behind the rows of the table. -/
  behind : Nat → RaGrpTb
  currTxRateIndex : Nat
  /-- `SupportRateMode & SUPPORT_VHT_MODE`. -/
  vht : Bool
  /-- `SupportVHTMCS[10]`. -/
  supportVhtMcs10 : Nat
  mcsSet : Nat → BitVec 8
  txStream : Nat
  maxBw : Nat
  maxShortGI : Bool
  bbpCurrentBw : Nat
  channel : Nat

def bw40 : Nat := 1
def bw80 : Nat := 2
def modeCck : Nat := 0
def mcs32 : Nat := 32
def drsTxQualityWorstBound : Nat := 8

/-- The rows above a row, by their group. -/
def upMcs (row : RaGrpTb) : Nat → Nat
  | 3 => row.upMcs3
  | 2 => row.upMcs2
  | _ => row.upMcs1

/-- A rate above is taken for a better one when it is not the row itself. -/
def better (quality : Nat → Nat) (row : RaGrpTb) (up group : Nat) : Nat :=
  if quality up > quality (upMcs row group) ∧ upMcs row group ≠ row.itemNo then upMcs row group
  else up

/-- The `switch` over `mcsGroup`, for each number of groups. -/
def candidate (grpCnt : Nat) (row : RaGrpTb) (quality : Nat → Nat) (group up : Nat) : Nat :=
  if grpCnt = 3 then
    match group with
    | 0 =>
      let first := if row.upMcs3 = row.itemNo then
        if row.upMcs2 = row.itemNo then row.upMcs1 else row.upMcs2 else row.upMcs3
      better quality row (better quality row first 2) 1
    | 3 => row.upMcs3
    | 2 => row.upMcs2
    | 1 => row.upMcs1
    | _ => up
  else if grpCnt = 2 then
    match group with
    | 0 => better quality row (if row.upMcs2 = row.itemNo then row.upMcs1 else row.upMcs2) 1
    | 2 => row.upMcs2
    | 1 => row.upMcs1
    | _ => up
  else if grpCnt = 1 then
    match group with
    | 0 => row.upMcs1
    | 1 => row.upMcs1
    | _ => up
  else up

structure Selected where
  rate : Nat
  mcsGroup : Nat
  txQuality : Nat → Nat

namespace Station

/-- `PTX_RA_GRP_ENTRY`. -/
def entry (st : Station) (i : Nat) : RaGrpTb := st.table.rows[i]?.getD (st.behind i)

def twoStreams (st : Station) : Bool :=
  st.mcsSet 0 == 0xff && st.mcsSet 1 == 0xff && decide (st.txStream > 1) &&
    (st.txStream == 2 || st.mcsSet 2 == 0)

def mlmeSetMcsGroup (st : Station) : Nat :=
  if st.vht then
    if st.txStream = 2 ∧ st.supportVhtMcs10 = 1 then 2 else 1
  else if st.twoStreams then 2 else 1

/-- `grp_cnt` of `MlmeSelectUpRate`. -/
def grpCnt (st : Station) : Nat :=
  if st.table.twoStreams then 2
  else if st.table.oneStream then 1
  else if st.mcsSet 2 = 0xff ∧ st.txStream = 3 then 3
  else if st.twoStreams then 2
  else 1

/-- The rate of MCS 32 is passed over. -/
def mcs32Refused (st : Station) : Bool :=
  st.maxBw != bw40 || st.bbpCurrentBw != bw40 || !(st.mcsSet 4).getLsbD 0

/-- The short guard interval of a row is not allowed. -/
def badGI (st : Station) (i : Nat) : Bool := (st.entry i).shortGI && !st.maxShortGI

/-- A rate that is not allowed is marked as bad. -/
def mark (st : Station) (quality : Nat → Nat) (i : Nat) : Nat → Nat :=
  if st.badGI i then Function.update quality i (drsTxQualityWorstBound * 2) else quality

def upLoop (st : Station) (row : RaGrpTb) :
    (fuel group : Nat) → (quality : Nat → Nat) → (up : Nat) → Option Selected
  | 0, _, _, _ => none
  | fuel + 1, group, quality, up =>
    let up := candidate st.grpCnt row quality group up
    if (st.entry up).currMcs = mcs32 ∧ st.mcs32Refused = true then
      some ⟨(st.entry up).upMcs1, 1, quality⟩
    else
      let quality := st.mark quality up
      if up = st.currTxRateIndex then some ⟨up, 0, quality⟩
      else if 0 < quality up ∧ 0 < group then upLoop st row fuel (group - 1) quality up
      else some ⟨up, group, quality⟩

/-- `MlmeSelectUpRate`, for the current row; `UpRateIdx` starts at 0. -/
def mlmeSelectUpRate (st : Station) (quality : Nat → Nat) (mcsGroup fuel : Nat) : Option Selected :=
  st.upLoop (st.entry st.currTxRateIndex) fuel mcsGroup quality 0

/-- The tests on a row below: CCK is for the channels up to 14, MCS 32 for a matching bandwidth. -/
def rateValid (st : Station) (row : RaGrpTb) : Bool :=
  if row.mode = modeCck then decide (st.channel ≤ 14)
  else if row.currMcs = mcs32 then
    let validMcs32 := st.maxBw == bw40 && st.bbpCurrentBw == bw40 ||
      st.maxBw == bw80 && st.bbpCurrentBw == bw80
    validMcs32 || validMcs32 && (st.mcsSet 4).getLsbD 0
  else true

def downLoop (st : Station) : (fuel down : Nat) → Option Nat
  | 0, _ => none
  | fuel + 1, down =>
    if st.rateValid (st.entry down) then some down
    else if down = (st.entry down).downMcs then some st.currTxRateIndex
    else downLoop st fuel (st.entry down).downMcs

def mlmeSelectDownRate (st : Station) (fuel : Nat) : Option Nat :=
  st.downLoop fuel (st.entry st.currTxRateIndex).downMcs

/-- The quality that is read after some rounds, the rates met in them marked. -/
def markedAfter (st : Station) (row : RaGrpTb) :
    (rounds group : Nat) → (quality : Nat → Nat) → Nat → Nat
  | 0, _, quality => quality
  | rounds + 1, group, quality =>
    markedAfter st row rounds (group - 1) (st.mark quality (upMcs row group))

/-- The groups looked at when the search from `group` ends at `last`; 0 stands for all of them. -/
def Searched (st : Station) (group last g : Nat) : Prop :=
  0 < g ∧ (if last = 0 then g ≤ st.grpCnt else last ≤ g ∧ g ≤ group)

/-- A row above the current one, of the lowest quality among the groups searched. -/
def Best (st : Station) (row : RaGrpTb) (quality : Nat → Nat) (group rate : Nat) : Prop :=
  ∃ rounds ≤ group,
    (∃ g, st.Searched group (group - rounds) g ∧ rate = upMcs row g ∧ rate ≠ row.itemNo) ∧
    ∀ g, st.Searched group (group - rounds) g → upMcs row g ≠ row.itemNo →
      st.markedAfter row rounds group quality rate ≤
        st.markedAfter row rounds group quality (upMcs row g)

/-- The lower row of the MCS 32 row above, where that one is refused. -/
def PassedOver (st : Station) (row : RaGrpTb) (rate : Nat) : Prop :=
  ∃ g, 0 < g ∧ g ≤ st.grpCnt ∧ (st.entry (upMcs row g)).currMcs = mcs32 ∧
    st.mcs32Refused = true ∧ rate = (st.entry (upMcs row g)).upMcs1

/-- The rows below the current one, along the links. -/
def below (st : Station) (k : Nat) : Nat := (fun i => (st.entry i).downMcs)^[k + 1] st.currTxRateIndex

/-- The first row below that passes a test. -/
def FirstBelow (st : Station) (valid : RaGrpTb → Bool) (rate : Nat) : Prop :=
  ∃ k, rate = st.below k ∧ valid (st.entry rate) = true ∧
    ∀ j < k, valid (st.entry (st.below j)) = false

end Station

open Station

section Candidates
variable {row : RaGrpTb} {quality : Nat → Nat} {cnt group up : Nat}

theorem candidate_group (few : cnt ≤ 3) (positive : 0 < group) (known : group ≤ cnt) :
    candidate cnt row quality group up = upMcs row group := by
  interval_cases cnt <;> interval_cases group <;> rfl

theorem better_cases (up group : Nat) :
    (better quality row up group = up ∨
      better quality row up group = upMcs row group ∧ upMcs row group ≠ row.itemNo) ∧
    quality (better quality row up group) ≤ quality up ∧
    (upMcs row group ≠ row.itemNo →
      quality (better quality row up group) ≤ quality (upMcs row group)) := by
  unfold better
  split_ifs with lower
  · exact ⟨.inr ⟨rfl, lower.2⟩, lower.1.le, fun _ => le_refl _⟩
  · refine ⟨.inl rfl, le_refl _, fun other => ?_⟩
    by_contra above
    exact lower ⟨Nat.lt_of_not_le above, other⟩

/-- All groups together: the row of the lowest quality, rows that are the current one left out. -/
theorem candidate_zero (positive : 0 < cnt) (few : cnt ≤ 3) :
    (∃ g, 0 < g ∧ g ≤ cnt ∧ candidate cnt row quality 0 up = upMcs row g) ∧
      ∀ g, 0 < g → g ≤ cnt → upMcs row g ≠ row.itemNo →
        quality (candidate cnt row quality 0 up) ≤ quality (upMcs row g) := by
  interval_cases cnt
  · constructor
    · exact ⟨1, by omega, by omega, rfl⟩
    · intro g below above _
      interval_cases g
      exact le_refl _
  · generalize start : (if row.upMcs2 = row.itemNo then row.upMcs1 else row.upMcs2) = first
    have chosen : candidate 2 row quality 0 up = better quality row first 1 := by
      rw [← start]
      rfl
    obtain ⟨which, low, low1⟩ := @better_cases row quality first 1
    rw [chosen]
    constructor
    · rcases which with same | same
      · rw [same, ← start]
        split
        · exact ⟨1, by omega, by omega, rfl⟩
        · exact ⟨2, by omega, by omega, rfl⟩
      · exact ⟨1, by omega, by omega, same.1⟩
    · intro g below above other
      interval_cases g
      · exact low1 other
      · have same : first = upMcs row 2 := by
          rw [← start]
          exact if_neg other
        rw [← same]
        exact low
  · generalize start : (if row.upMcs3 = row.itemNo then
      if row.upMcs2 = row.itemNo then row.upMcs1 else row.upMcs2 else row.upMcs3) = first
    have chosen : candidate 3 row quality 0 up =
        better quality row (better quality row first 2) 1 := by
      rw [← start]
      rfl
    obtain ⟨which, low, low2⟩ := @better_cases row quality first 2
    obtain ⟨which', low', low1⟩ := @better_cases row quality (better quality row first 2) 1
    rw [chosen]
    constructor
    · rcases which' with same | same
      · rw [same]
        rcases which with same | same
        · rw [same, ← start]
          split
          · split
            · exact ⟨1, by omega, by omega, rfl⟩
            · exact ⟨2, by omega, by omega, rfl⟩
          · exact ⟨3, by omega, by omega, rfl⟩
        · exact ⟨2, by omega, by omega, same.1⟩
      · exact ⟨1, by omega, by omega, same.1⟩
    · intro g below above other
      interval_cases g
      · exact low1 other
      · exact le_trans low' (low2 other)
      · have same : first = upMcs row 3 := by
          rw [← start]
          exact if_neg other
        rw [← same]
        exact le_trans low' low

end Candidates

section Upwards
variable {st : Station} {row : RaGrpTb}

theorem grpCnt_bounds (st : Station) : 0 < st.grpCnt ∧ st.grpCnt ≤ 3 := by
  unfold grpCnt
  split_ifs <;> omega

theorem mark_zero {quality : Nat → Nat} {i : Nat} (good : st.mark quality i i = 0) :
    quality i = 0 := by
  unfold mark at good
  split_ifs at good with bad
  · rw [Function.update_self] at good
    exact absurd good (by decide)
  · exact good

/-- What the search from a group ends with, round by round. -/
theorem upLoop_spec :
    ∀ (fuel group : Nat) (quality : Nat → Nat) (up : Nat), group < fuel → group ≤ st.grpCnt →
      ∃ s, st.upLoop row fuel group quality up = some s ∧
        (s.rate = st.currTxRateIndex ∨ st.PassedOver row s.rate ∨
          ∃ rounds ≤ group,
            (rounds < group → s.rate = upMcs row (group - rounds) ∧
              st.markedAfter row rounds group quality s.rate = 0) ∧
            (rounds = group → (∃ g, 0 < g ∧ g ≤ st.grpCnt ∧ s.rate = upMcs row g) ∧
              ∀ g, 0 < g → g ≤ st.grpCnt → upMcs row g ≠ row.itemNo →
                st.markedAfter row rounds group quality s.rate ≤
                  st.markedAfter row rounds group quality (upMcs row g))) := by
  intro fuel
  induction fuel with
  | zero =>
    intro group quality up enough
    omega
  | succ fuel ih =>
    intro group quality up enough inside
    have bounds := grpCnt_bounds st
    generalize chosen : candidate st.grpCnt row quality group up = next
    -- the rate looked at is the row above of some group
    have above : ∃ g, 0 < g ∧ g ≤ st.grpCnt ∧ next = upMcs row g := by
      rw [← chosen]
      rcases Nat.eq_zero_or_pos group with zero | positive
      · rw [zero]
        exact (candidate_zero bounds.1 bounds.2).1
      · exact ⟨group, positive, inside, candidate_group bounds.2 positive inside⟩
    simp only [upLoop, chosen]
    by_cases refused : (st.entry next).currMcs = mcs32 ∧ st.mcs32Refused = true
    · rw [if_pos refused]
      obtain ⟨g, positive, known_group, same⟩ := above
      refine ⟨_, rfl, .inr (.inl ⟨g, positive, known_group, ?_, refused.2, ?_⟩)⟩
      · rw [← same]
        exact refused.1
      · rw [← same]
    · rw [if_neg refused]
      by_cases current : next = st.currTxRateIndex
      · rw [if_pos current]
        exact ⟨_, rfl, .inl current⟩
      · rw [if_neg current]
        by_cases bad : 0 < st.mark quality next next ∧ 0 < group
        · rw [if_pos bad]
          have group_next : next = upMcs row group := by
            rw [← chosen]
            exact candidate_group bounds.2 bad.2 inside
          obtain ⟨s, run, spec⟩ := ih (group - 1) (st.mark quality next) next (by omega) (by omega)
          refine ⟨s, run, ?_⟩
          rcases spec with same | passed | ⟨rounds, few, stopped, all⟩
          · exact .inl same
          · exact .inr (.inl passed)
          · have marks : st.markedAfter row (rounds + 1) group quality =
                st.markedAfter row rounds (group - 1) (st.mark quality next) := by
              rw [markedAfter, group_next]
            refine .inr (.inr ⟨rounds + 1, by omega, ?_, ?_⟩)
            · intro short
              rw [marks, show group - (rounds + 1) = group - 1 - rounds by omega]
              exact stopped (by omega)
            · intro whole
              rw [marks]
              exact all (by omega)
        · rw [if_neg bad]
          refine ⟨_, rfl, .inr (.inr ⟨0, Nat.zero_le _, ?_, ?_⟩)⟩
          · intro positive
            have group_next : next = upMcs row group := by
              rw [← chosen]
              exact candidate_group bounds.2 positive inside
            have unmarked : st.mark quality next next = 0 := by omega
            exact ⟨group_next, mark_zero unmarked⟩
          · intro zero
            subst zero
            refine ⟨above, ?_⟩
            simp only [markedAfter]
            rw [← chosen]
            exact (candidate_zero bounds.1 bounds.2).2

theorem entry_itemNo (inside : st.currTxRateIndex < st.table.rows.length) :
    (st.entry st.currTxRateIndex).itemNo = st.currTxRateIndex := by
  have numbered := st.table.itemNo_eq st.currTxRateIndex inside
  unfold entry
  rw [List.getElem?_eq_getElem inside] at numbered ⊢
  simpa only [Option.map_some, Option.some.injEq, Option.getD_some] using numbered

end Upwards

section Downwards
variable {st : Station}

theorem entry_downMcs {i : Nat} (inside : i < st.table.rows.length) :
    (st.entry i).downMcs = st.table.downLink i := by
  unfold entry RaTable.downLink
  rw [List.getElem?_eq_getElem inside]
  rfl

theorem below_succ (k : Nat) : st.below (k + 1) = (st.entry (st.below k)).downMcs := by
  unfold below
  exact Function.iterate_succ_apply' _ (k + 1) _

theorem below_eq (inside : st.currTxRateIndex < st.table.rows.length) (k : Nat) :
    st.below k = st.table.downLink^[k + 1] st.currTxRateIndex ∧
      st.below k < st.table.rows.length := by
  induction k with
  | zero =>
    have first : st.below 0 = st.table.downLink st.currTxRateIndex := entry_downMcs inside
    exact ⟨first, first ▸ st.table.downLink_lt _ inside⟩
  | succ k ih =>
    have link : st.below (k + 1) = st.table.downLink (st.below k) := by
      rw [below_succ, entry_downMcs ih.2]
    constructor
    · rw [link, ih.1]
      exact (Function.iterate_succ_apply' _ (k + 1) _).symm
    · rw [link]
      exact st.table.downLink_lt _ ih.2

/-- From the sixteenth row below on, the rows stay the same. -/
theorem below_settles (inside : st.currTxRateIndex < st.table.rows.length) (k : Nat) :
    st.below (15 + k) = st.below 15 := by
  induction k with
  | zero => rfl
  | succ k ih =>
    calc st.below (15 + (k + 1)) = (st.entry (st.below (15 + k))).downMcs := below_succ _
      _ = (st.entry (st.below 15)).downMcs := by rw [ih]
      _ = st.table.downLink (st.below 15) := entry_downMcs (below_eq inside 15).2
      _ = st.below 15 := by
        rw [(below_eq inside 15).1]
        exact st.table.downLink_settles _ inside

/-- The loop from a row below, those before it not being valid. -/
theorem downLoop_spec (inside : st.currTxRateIndex < st.table.rows.length) :
    ∀ fuel k, k ≤ 15 → 15 < k + fuel →
      (∀ j < k, st.rateValid (st.entry (st.below j)) = false) →
      ∃ rate, st.downLoop fuel (st.below k) = some rate ∧
        (st.FirstBelow st.rateValid rate ∨ rate = st.currTxRateIndex ∧
          ∀ j, st.rateValid (st.entry (st.below j)) = false) := by
  intro fuel
  induction fuel with
  | zero =>
    intro k few enough
    omega
  | succ fuel ih =>
    intro k few enough invalid
    rw [downLoop]
    by_cases valid : st.rateValid (st.entry (st.below k)) = true
    · rw [if_pos valid]
      exact ⟨_, rfl, .inl ⟨k, rfl, valid, invalid⟩⟩
    · rw [if_neg valid]
      rw [Bool.not_eq_true] at valid
      by_cases last : st.below k = (st.entry (st.below k)).downMcs
      · rw [if_pos last]
        refine ⟨_, rfl, .inr ⟨rfl, ?_⟩⟩
        -- the rows behind a row that is its own lower row are that row
        have same : ∀ m, st.below (k + m) = st.below k := by
          intro m
          induction m with
          | zero => rfl
          | succ m again => rw [← Nat.add_assoc, below_succ, again, ← last]
        intro j
        by_cases before : j < k
        · exact invalid j before
        · rw [show j = k + (j - k) by omega, same]
          exact valid
      · rw [if_neg last, ← below_succ]
        have not_last : k ≠ 15 := by
          intro settled
          subst settled
          exact last ((below_settles inside 1).symm.trans (below_succ 15))
        refine ih (k + 1) (by omega) (by omega) ?_
        intro j before
        by_cases same : j = k
        · rw [same]
          exact valid
        · exact invalid j (by omega)

end Downwards

/-- The rate above: the current one, the one behind a refused MCS 32, or the best of the groups
that are searched. -/
def Station.UpChosen (st : Station) (quality : Nat → Nat) (rate : Nat) : Prop :=
  rate = st.currTxRateIndex ∨ st.PassedOver (st.entry st.currTxRateIndex) rate ∨
    st.Best (st.entry st.currTxRateIndex) quality st.mlmeSetMcsGroup rate

/-- The rate below: the first valid one, or the current one where there is none. -/
def Station.DownChosen (st : Station) (rate : Nat) : Prop :=
  st.FirstBelow st.rateValid rate ∨
    rate = st.currTxRateIndex ∧ ∀ k, st.rateValid (st.entry (st.below k)) = false

/-- Both selections end, for every table, row and content of the qualities, and give the rates that
the rules name. The group to start from is one of those that the table is searched for. -/
theorem selected_rates (st : Station) (inside : st.currTxRateIndex < st.table.rows.length)
    (known : st.mlmeSetMcsGroup ≤ st.grpCnt) (quality : Nat → Nat) :
    (∃ enough, ∀ fuel ≥ enough, ∃ s,
      st.mlmeSelectUpRate quality st.mlmeSetMcsGroup fuel = some s ∧ st.UpChosen quality s.rate) ∧
    ∃ enough, ∀ fuel ≥ enough, ∃ rate,
      st.mlmeSelectDownRate fuel = some rate ∧ st.DownChosen rate := by
  constructor
  · refine ⟨st.mlmeSetMcsGroup + 1, fun fuel enough => ?_⟩
    have numbered := entry_itemNo inside
    obtain ⟨s, run, spec⟩ := @upLoop_spec st (st.entry st.currTxRateIndex) fuel
      st.mlmeSetMcsGroup quality 0 (by omega) known
    refine ⟨s, run, ?_⟩
    rcases spec with same | passed | ⟨rounds, few, stopped, all⟩
    · exact .inl same
    · exact .inr (.inl passed)
    · by_cases current : s.rate = st.currTxRateIndex
      · exact .inl current
      · refine .inr (.inr ⟨rounds, few, ?_, ?_⟩)
        · rcases Nat.lt_or_eq_of_le few with short | whole
          · refine ⟨st.mlmeSetMcsGroup - rounds, ⟨by omega, ?_⟩, (stopped short).1,
              numbered.symm ▸ current⟩
            rw [if_neg (by omega)]
            omega
          · obtain ⟨g, positive, counted, same⟩ := (all whole).1
            refine ⟨g, ⟨positive, ?_⟩, same, numbered.symm ▸ current⟩
            rw [if_pos (by omega)]
            exact counted
        · intro g searched other
          rcases Nat.lt_or_eq_of_le few with short | whole
          · rw [(stopped short).2]
            exact Nat.zero_le _
          · have counted := searched.2
            rw [if_pos (by omega)] at counted
            exact (all whole).2 g searched.1 counted other
  · refine ⟨16, fun fuel enough => ?_⟩
    exact downLoop_spec inside fuel 0 (by omega) (by omega) (by intro j before; omega)

/-- A station of one stream at 20 MHz, on the row of 2M CCK. -/
def narrow : Station where
  table := .adapt11N1S
  behind := fun _ => ⟨0, 0, 0, 0, 0, 0, 0, 0, 0, 0⟩
  currTxRateIndex := 10
  vht := false
  supportVhtMcs10 := 0
  mcsSet := fun _ => 0
  txStream := 1
  maxBw := 0
  maxShortGI := false
  bbpCurrentBw := 0
  channel := 1

theorem selected_rates_narrow :
    (∃ enough, ∀ fuel ≥ enough, ∃ s,
      narrow.mlmeSelectUpRate (fun _ => 0) narrow.mlmeSetMcsGroup fuel = some s ∧
        narrow.UpChosen (fun _ => 0) s.rate) ∧
    ∃ enough, ∀ fuel ≥ enough, ∃ rate,
      narrow.mlmeSelectDownRate fuel = some rate ∧ narrow.DownChosen rate :=
  selected_rates narrow (by decide) (by decide) fun _ => 0

/-- The rate above is the current row or one of the rows above it. -/
def Station.UpOfRow (st : Station) (quality : Nat → Nat) : Prop :=
  ∃ fuel s, st.mlmeSelectUpRate quality st.mlmeSetMcsGroup fuel = some s ∧
    (s.rate = st.currTxRateIndex ∨
      st.Best (st.entry st.currTxRateIndex) quality st.mlmeSetMcsGroup s.rate)

/-- The set of the station has the rate of a row; CCK has no place in it. -/
def Station.inMcsSet (st : Station) (row : RaGrpTb) : Bool :=
  row.mode == modeCck || (st.mcsSet (row.currMcs / 8)).getLsbD (row.currMcs % 8)

/-- The rate below is the first one of the set of the station, or the current row. -/
def Station.DownOfSet (st : Station) : Prop :=
  ∃ fuel rate, st.mlmeSelectDownRate fuel = some rate ∧
    (rate = st.currTxRateIndex ∨ st.FirstBelow st.inMcsSet rate)

/-- A refused MCS 32 leads to row 0, which is not above the row of 2M CCK; and the set of the
station is not asked for a rate below. -/
theorem not_of_row_or_set :
    (¬ ∀ (st : Station) (quality : Nat → Nat), st.currTxRateIndex < st.table.rows.length →
      st.UpOfRow quality) ∧
    ¬ ∀ st : Station, st.currTxRateIndex < st.table.rows.length → st.DownOfSet := by
  constructor
  · intro all
    obtain ⟨fuel, s, run, chosen⟩ := all narrow (fun _ => 0) (by decide)
    have rate : s.rate = 0 := by
      cases fuel with
      | zero => cases run
      | succ fuel =>
        cases run
        rfl
    rw [rate] at chosen
    rcases chosen with same | ⟨rounds, few, ⟨g, searched, same, other⟩, low⟩
    · exact absurd same (by decide)
    · have one : g = 1 := by
        have positive := searched.1
        have counted := searched.2
        have group : narrow.mlmeSetMcsGroup = 1 := rfl
        have cnt : narrow.grpCnt = 1 := rfl
        rw [group, cnt] at counted
        split_ifs at counted <;> omega
      rw [one] at same
      exact absurd same (by decide)
  · intro all
    obtain ⟨fuel, rate, run, chosen⟩ := all { narrow with currTxRateIndex := 2 } (by decide)
    have below_one : rate = 1 := by
      cases fuel with
      | zero => cases run
      | succ fuel =>
        cases run
        rfl
    rw [below_one] at chosen
    rcases chosen with same | ⟨k, _, valid, _⟩
    · exact absurd same (by decide)
    · exact absurd valid (by decide)

end Mt7612u.Rate.GroupSelect
