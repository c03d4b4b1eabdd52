import Mathlib

/-! `crypt_arc4.c`: the key stream of ARC4, which takes back what it has done to a text. -/

namespace Mt7612u.Crypto

/-- `ARC4_CTX_STRUC`. -/
structure Arc4Ctx where
  blockIndex1 : UInt8
  blockIndex2 : UInt8
  keyBlock : UInt8 → UInt8

namespace Arc4Ctx

/-- Two places of `KeyBlock` are exchanged. -/
def swap (ctx : Arc4Ctx) (first second : UInt8) : Arc4Ctx :=
  { ctx with
    keyBlock := Function.update (Function.update ctx.keyBlock first (ctx.keyBlock second)) second
      (ctx.keyBlock first) }

/-- A turn of the key schedule; `SWAPIndex` comes second. -/
def schedule (key : List UInt8) (state : Arc4Ctx × UInt8) (blockIndex : Nat) : Arc4Ctx × UInt8 :=
  let index := UInt8.ofNat blockIndex
  let swapIndex := state.2 + state.1.keyBlock index + key.getD (blockIndex % key.length) 0
  (state.1.swap index swapIndex, swapIndex)

/-- `ARC4_INIT`. -/
def init (key : List UInt8) : Arc4Ctx :=
  ((List.range 256).foldl (schedule key) (⟨0, 0, id⟩, 0)).1

/-- The part of a turn that `ARC4_Compute` and `ARC4_Discard_KeyLength` share. -/
def advance (ctx : Arc4Ctx) : Arc4Ctx :=
  let blockIndex1 := ctx.blockIndex1 + 1
  let blockIndex2 := ctx.blockIndex2 + ctx.keyBlock blockIndex1
  { ctx.swap blockIndex1 blockIndex2 with blockIndex1 := blockIndex1, blockIndex2 := blockIndex2 }

/-- The byte of the key stream that the last turn has come to. -/
def keyByte (ctx : Arc4Ctx) : UInt8 :=
  ctx.keyBlock (ctx.keyBlock ctx.blockIndex2 + ctx.keyBlock ctx.blockIndex1)

/-- `ARC4_Discard_KeyLength`. -/
def discardKeyLength (ctx : Arc4Ctx) (length : Nat) : Arc4Ctx := Nat.repeat advance length ctx

/-- `ARC4_Compute`. -/
def compute (ctx : Arc4Ctx) : List UInt8 → List UInt8
  | [] => []
  | byte :: rest => (byte ^^^ ctx.advance.keyByte) :: ctx.advance.compute rest

@[simp] theorem length_compute (ctx : Arc4Ctx) (text : List UInt8) :
    (ctx.compute text).length = text.length := by
  induction text generalizing ctx with
  | nil => rfl
  | cons byte rest ih => rw [compute, List.length_cons, ih, List.length_cons]

theorem compute_compute (ctx : Arc4Ctx) (text : List UInt8) :
    ctx.compute (ctx.compute text) = text := by
  induction text generalizing ctx with
  | nil => rfl
  | cons byte rest ih =>
    rw [compute, compute, ih, UInt8.xor_assoc, UInt8.xor_self, UInt8.xor_zero]

end Arc4Ctx

end Mt7612u.Crypto
