import Mt7612u.Crypto.Arc4

/-! The context of ARC4 over whole runs: its table stays a permutation, and where a run has come to
depends on how many bytes have gone through it and on none of them. -/

namespace Mt7612u.Crypto.Arc4Ctx

/-- A turn of `ARC4_Compute` over a byte of `InputBlock`. -/
def computeTurn (ctx : Arc4Ctx) (inputByte : UInt8) : Arc4Ctx × UInt8 :=
  let blockIndex1 := ctx.blockIndex1 + 1
  let tempValue := ctx.keyBlock blockIndex1
  let blockIndex2 := ctx.blockIndex2 + tempValue
  let keyBlock := Function.update (Function.update ctx.keyBlock blockIndex1
    (ctx.keyBlock blockIndex2)) blockIndex2 tempValue
  (⟨blockIndex1, blockIndex2, keyBlock⟩,
    inputByte ^^^ keyBlock (tempValue + keyBlock blockIndex1))

/-- `ARC4_Compute`, with the context it leaves. -/
def computeBlock (ctx : Arc4Ctx) : List UInt8 → Arc4Ctx × List UInt8
  | [] => (ctx, [])
  | inputByte :: rest =>
      let turn := ctx.computeTurn inputByte
      let later := turn.1.computeBlock rest
      (later.1, turn.2 :: later.2)

/-- A context that `ARC4_INIT` set up under a key and the two loops were then run on. -/
inductive Reached : Arc4Ctx → Prop where
  | init (key : List UInt8) (positive : 0 < key.length) : Reached (init key)
  | compute {ctx : Arc4Ctx} (inputBlock : List UInt8) (before : Reached ctx) :
      Reached (ctx.computeBlock inputBlock).1
  | discard {ctx : Arc4Ctx} (length : Nat) (before : Reached ctx) :
      Reached (ctx.discardKeyLength length)

theorem computeTurn_eq (ctx : Arc4Ctx) (inputByte : UInt8) :
    ctx.computeTurn inputByte = (ctx.advance, inputByte ^^^ ctx.advance.keyByte) := by
  simp only [computeTurn, advance, swap, keyByte, Function.update_self]

theorem discardKeyLength_succ (ctx : Arc4Ctx) (length : Nat) :
    ctx.discardKeyLength (length + 1) = ctx.advance.discardKeyLength length := by
  induction length with
  | zero => rfl
  | succ length ih =>
    calc ctx.discardKeyLength (length + 2)
        = (ctx.discardKeyLength (length + 1)).advance := rfl
      _ = (ctx.advance.discardKeyLength length).advance := by rw [ih]
      _ = ctx.advance.discardKeyLength (length + 1) := rfl

/-- The two loops take the context to the same place. -/
theorem computeBlock_eq (ctx : Arc4Ctx) (inputBlock : List UInt8) :
    ctx.computeBlock inputBlock =
      (ctx.discardKeyLength inputBlock.length, ctx.compute inputBlock) := by
  induction inputBlock generalizing ctx with
  | nil => rfl
  | cons inputByte rest ih =>
    simp only [computeBlock, computeTurn_eq, ih, List.length_cons, discardKeyLength_succ, compute]

theorem computeBlock_append (ctx : Arc4Ctx) (first second : List UInt8) :
    ctx.computeBlock (first ++ second) =
      (((ctx.computeBlock first).1.computeBlock second).1,
        (ctx.computeBlock first).2 ++ ((ctx.computeBlock first).1.computeBlock second).2) := by
  induction first generalizing ctx with
  | nil => rfl
  | cons inputByte rest ih => simp only [List.cons_append, computeBlock, ih]

section Permutation

theorem swap_keyBlock (ctx : Arc4Ctx) (first second : UInt8) :
    (ctx.swap first second).keyBlock = ctx.keyBlock ∘ Equiv.swap first second := by
  funext index
  show Function.update (Function.update ctx.keyBlock first _) second _ index = _
  by_cases at_second : index = second
  · simp only [at_second, Function.update_self, Function.comp_apply, Equiv.swap_apply_right]
  · rw [Function.update_of_ne at_second]
    by_cases at_first : index = first
    · simp only [at_first, Function.update_self, Function.comp_apply, Equiv.swap_apply_left]
    · rw [Function.update_of_ne at_first, Function.comp_apply,
        Equiv.swap_apply_of_ne_of_ne at_first at_second]

theorem swap_bijective {ctx : Arc4Ctx} (permutation : Function.Bijective ctx.keyBlock)
    (first second : UInt8) : Function.Bijective (ctx.swap first second).keyBlock := by
  rw [swap_keyBlock]
  exact permutation.comp (Equiv.swap first second).bijective

theorem schedule_bijective (key : List UInt8) {state : Arc4Ctx × UInt8}
    (permutation : Function.Bijective state.1.keyBlock) (blockIndex : Nat) :
    Function.Bijective (schedule key state blockIndex).1.keyBlock :=
  swap_bijective permutation _ _

theorem init_bijective (key : List UInt8) : Function.Bijective (init key).keyBlock := by
  have scheduled : ∀ (indices : List Nat) (state : Arc4Ctx × UInt8),
      Function.Bijective state.1.keyBlock →
        Function.Bijective (indices.foldl (schedule key) state).1.keyBlock := by
    intro indices
    induction indices with
    | nil => exact fun _ permutation => permutation
    | cons index rest ih =>
      exact fun _ permutation => ih _ (schedule_bijective key permutation index)
  exact scheduled _ (⟨0, 0, id⟩, 0) Function.bijective_id

theorem advance_bijective {ctx : Arc4Ctx} (permutation : Function.Bijective ctx.keyBlock) :
    Function.Bijective ctx.advance.keyBlock :=
  swap_bijective permutation _ _

theorem discardKeyLength_bijective {ctx : Arc4Ctx}
    (permutation : Function.Bijective ctx.keyBlock) (length : Nat) :
    Function.Bijective (ctx.discardKeyLength length).keyBlock := by
  induction length with
  | zero => exact permutation
  | succ length ih => exact advance_bijective ih

theorem Reached.bijective {ctx : Arc4Ctx} (reached : Reached ctx) :
    Function.Bijective ctx.keyBlock := by
  induction reached with
  | init key => exact init_bijective key
  | compute inputBlock _ ih =>
    rw [computeBlock_eq]
    exact discardKeyLength_bijective ih inputBlock.length
  | discard length _ ih => exact discardKeyLength_bijective ih length

end Permutation

/-- In every context that a run has reached, the table is a permutation, the key stream takes back
what it did, it goes on where it stopped, and what is discarded is as good as computed. -/
theorem reached_keyStream {ctx : Arc4Ctx} (reached : Reached ctx) :
    Function.Bijective ctx.keyBlock ∧
      (∀ inputBlock, (ctx.computeBlock (ctx.computeBlock inputBlock).2).2 = inputBlock) ∧
      (∀ first second, ctx.computeBlock (first ++ second) =
        (((ctx.computeBlock first).1.computeBlock second).1,
          (ctx.computeBlock first).2 ++ ((ctx.computeBlock first).1.computeBlock second).2)) ∧
      ∀ inputBlock, ctx.discardKeyLength inputBlock.length = (ctx.computeBlock inputBlock).1 := by
  refine ⟨reached.bijective, fun inputBlock => ?_, ctx.computeBlock_append, fun inputBlock => ?_⟩
  · rw [computeBlock_eq, computeBlock_eq, compute_compute]
  · rw [computeBlock_eq]

theorem reached_keyStream_discarded :
    ((init [7]).discardKeyLength 3).computeBlock ([1] ++ [2]) =
      ((((init [7]).discardKeyLength 3).computeBlock [1]).1.computeBlock [2] |>.1,
        (((init [7]).discardKeyLength 3).computeBlock [1]).2 ++
          ((((init [7]).discardKeyLength 3).computeBlock [1]).1.computeBlock [2]).2) :=
  (reached_keyStream (.discard 3 (.init [7] (by decide)))).2.2.1 [1] [2]

end Mt7612u.Crypto.Arc4Ctx
