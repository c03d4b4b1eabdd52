import Mt7612u.Library.Undo
import Mt7612u.Crypto.Ccm

/-! `AES_Key_Wrap` and `AES_Key_Unwrap` over arbitrary block functions in the place of
`RT_AES_Encrypt` and `RT_AES_Decrypt`. -/

namespace Mt7612u.Crypto
open Library.CcmFormat (Block ofList)
open Receive (Memory)

def aesKeyWrapIvLength : Nat := 8
def aesKeyWrapBlockSize : Nat := 8

/-- `Default_IV`. -/
def defaultIv : Fin 8 → UInt8 := fun _ => 0xa6

/-- The two block functions under every key. -/
structure BlockCipher where
  encrypt : List UInt8 → Block → Block
  decrypt : List UInt8 → Block → Block

/-- Which sizes `kmalloc` has memory for in a call. -/
abbrev Kmalloc := BitVec 32 → Bool

/-- "The key length must be 16, 24, or 32 bytes". -/
def validKeyLength (keyLength : Nat) : Bool :=
  keyLength == 16 || keyLength == 24 || keyLength == 32

/-- `IV`, the integrity register, and `pResult`. -/
@[ext] structure WrapState where
  iv : Fin 8 → UInt8
  pResult : Memory

namespace WrapState

/-- `Block_Input`: the register and eight bytes of the text. -/
def blockInput (s : WrapState) (i : Nat) : Block := fun k =>
  if inside : k.val < 8 then s.iv ⟨k, inside⟩ else s.pResult (8 * i + (k - 8))

/-- `IV` and the bytes of the text are taken from `Block_B`. -/
def store (s : WrapState) (i : Nat) (blockB : Block) : WrapState where
  iv := fun k => blockB (k.castAdd 8)
  pResult := s.pResult.write (8 * i) (List.ofFn fun k : Fin 8 => blockB (k.natAdd 8))

/-- The counter of the step is added to the last byte of the register, which keeps eight bits of
it. -/
def addCounter (s : WrapState) (counter : Nat) : WrapState :=
  { s with iv := fun k => if k.val = 7 then s.iv k ^^^ UInt8.ofNat counter else s.iv k }

end WrapState

/-- `Number_Of_Block * Index_j + Index_i + 1`. -/
def stepCounter (numberOfBlock j i : Nat) : Nat := numberOfBlock * j + i + 1

def wrapStep (encrypt : Block → Block) (numberOfBlock j : Nat) (s : WrapState) (i : Nat) :
    WrapState :=
  (s.store i (encrypt (s.blockInput i))).addCounter (stepCounter numberOfBlock j i)

def unwrapStep (decrypt : Block → Block) (numberOfBlock j : Nat) (s : WrapState) (i : Nat) :
    WrapState :=
  let s := s.addCounter (stepCounter numberOfBlock j i)
  s.store i (decrypt (s.blockInput i))

/-- "Calculate intermediate values". -/
def wrapLoops (encrypt : Block → Block) (numberOfBlock : Nat) (s : WrapState) : WrapState :=
  (List.range 6).foldl
    (fun s j => (List.range numberOfBlock).foldl (wrapStep encrypt numberOfBlock j) s) s

def unwrapLoops (decrypt : Block → Block) (numberOfBlock : Nat) (s : WrapState) : WrapState :=
  (List.range 6).reverse.foldl
    (fun s j => (List.range numberOfBlock).reverse.foldl (unwrapStep decrypt numberOfBlock j) s) s

/-- What `kmalloc` gave, with `count` bytes copied to it. -/
def copied (source : Memory) (start count : Nat) : Memory :=
  Memory.write (fun _ => 0) 0 (source.bytes start count)

/-- The bytes that are returned: the register, and the text behind it. -/
def WrapState.bytes (s : WrapState) (count : Nat) : List UInt8 :=
  List.ofFn s.iv ++ s.pResult.bytes 0 count

/-- What the loops of `AES_Key_Wrap` leave in `IV` and `pResult`. -/
def wrapped (encrypt : Block → Block) (plainText : Memory) (plainTextLength : Nat) : WrapState :=
  wrapLoops encrypt (plainTextLength / aesKeyWrapBlockSize)
    ⟨defaultIv, copied plainText 0 plainTextLength⟩

/-- What the loops of `AES_Key_Unwrap` leave there. -/
def unwrapped (decrypt : Block → Block) (cipherText : Memory) (plainLength : Nat) : WrapState :=
  unwrapLoops decrypt (plainLength / aesKeyWrapBlockSize)
    ⟨fun k => cipherText k, copied cipherText aesKeyWrapIvLength plainLength⟩

/-- A text in the buffer of the caller, and its length. -/
structure WrapText where
  text : Memory
  length : BitVec 32

/-- `AES_Key_Wrap`; an error is what the function returns then. -/
def aesKeyWrap (aes : BlockCipher) (kmalloc : Kmalloc) (plainText : Memory)
    (plainTextLength : BitVec 32) (key : List UInt8) (cipherText : Memory) : Except Int WrapText :=
  if !validKeyLength key.length then .error (-1)
  else if !kmalloc plainTextLength then .error (-2)
  else
    let s := wrapped (aes.encrypt key) plainText plainTextLength.toNat
    .ok {
      text := (cipherText.write 0 (List.ofFn s.iv)).write aesKeyWrapIvLength
        (s.pResult.bytes 0 plainTextLength.toNat)
      length := plainTextLength + BitVec.ofNat 32 aesKeyWrapIvLength }

/-- `AES_Key_Unwrap`. -/
def aesKeyUnwrap (aes : BlockCipher) (kmalloc : Kmalloc) (cipherText : Memory)
    (cipherTextLength : BitVec 32) (key : List UInt8) (plainText : Memory) : Except Int WrapText :=
  let plainLength := cipherTextLength - BitVec.ofNat 32 aesKeyWrapIvLength
  if !validKeyLength key.length then .error (-1)
  else if !kmalloc plainLength then .error (-2)
  else
    .ok {
      text := plainText.write 0
        ((unwrapped (aes.decrypt key) cipherText plainLength.toNat).pResult.bytes 0
          plainLength.toNat)
      length := plainLength }

namespace WrapState

theorem blockInput_store (s : WrapState) (i : Nat) (blockB : Block) :
    (s.store i blockB).blockInput i = blockB := by
  funext k
  have below := k.isLt
  unfold blockInput store
  dsimp only
  split
  next front => rfl
  next back =>
    unfold Memory.write
    rw [if_pos (Nat.le_add_right _ _), Nat.add_sub_cancel_left,
      List.getD_eq_getElem _ _ (by rw [List.length_ofFn]; omega), List.getElem_ofFn]
    congr 1
    apply Fin.ext
    simp only [Fin.natAdd_mk]
    omega

theorem store_blockInput (s : WrapState) (i : Nat) (blockB : Block) :
    (s.store i blockB).store i (s.blockInput i) = s := by
  apply WrapState.ext
  · funext k
    unfold store blockInput
    dsimp only [Fin.val_castAdd]
    rw [dif_pos k.isLt]
  · funext address
    unfold store
    dsimp only
    by_cases inside : 8 * i ≤ address ∧ address < 8 * i + 8
    · obtain ⟨after, before⟩ := inside
      unfold Memory.write
      rw [if_pos after, List.getD_eq_getElem _ _ (by rw [List.length_ofFn]; omega),
        List.getElem_ofFn]
      unfold blockInput
      simp only [Fin.natAdd_mk]
      rw [dif_neg (by omega)]
      congr 1
      omega
    · have outside : ∀ (mem : Memory) (data : List UInt8), data.length = 8 →
          mem.write (8 * i) data address = mem address := by
        intro mem data eight
        rw [not_and_or, not_le, not_lt] at inside
        rcases inside with before | after
        · exact mem.write_before data before
        · exact mem.write_after (by rw [eight]; exact after)
      rw [outside _ _ List.length_ofFn, outside _ _ List.length_ofFn]

theorem addCounter_addCounter (s : WrapState) (counter : Nat) :
    (s.addCounter counter).addCounter counter = s := by
  apply WrapState.ext
  · funext k
    unfold addCounter
    dsimp only
    split
    · rw [UInt8.xor_assoc, UInt8.xor_self, UInt8.xor_zero]
    · rfl
  · rfl

end WrapState

section Inverse
variable {encrypt decrypt : Block → Block} (numberOfBlock j : Nat) (s : WrapState) (i : Nat)

theorem unwrapStep_wrapStep (inverse : ∀ block, decrypt (encrypt block) = block) :
    unwrapStep decrypt numberOfBlock j (wrapStep encrypt numberOfBlock j s i) i = s := by
  unfold unwrapStep wrapStep
  dsimp only
  rw [WrapState.addCounter_addCounter, WrapState.blockInput_store, inverse,
    WrapState.store_blockInput]

theorem wrapStep_unwrapStep (inverse : ∀ block, encrypt (decrypt block) = block) :
    wrapStep encrypt numberOfBlock j (unwrapStep decrypt numberOfBlock j s i) i = s := by
  unfold unwrapStep wrapStep
  dsimp only
  rw [WrapState.blockInput_store, inverse, WrapState.store_blockInput,
    WrapState.addCounter_addCounter]

/-- The loops of the one function take back those of the other. -/
theorem unwrapLoops_wrapLoops (inverse : ∀ block, decrypt (encrypt block) = block) :
    unwrapLoops decrypt numberOfBlock (wrapLoops encrypt numberOfBlock s) = s :=
  Library.Undo.foldl_foldl_undo (fun j s i => unwrapStep_wrapStep numberOfBlock j s i inverse)
    (List.range 6) (List.range numberOfBlock) s

theorem wrapLoops_unwrapLoops (inverse : ∀ block, encrypt (decrypt block) = block) :
    wrapLoops encrypt numberOfBlock (unwrapLoops decrypt numberOfBlock s) = s := by
  have undone := Library.Undo.foldl_foldl_undo
    (fun j s i => wrapStep_unwrapStep numberOfBlock j s i inverse)
    (List.range 6).reverse (List.range numberOfBlock).reverse s
  rw [List.reverse_reverse, List.reverse_reverse] at undone
  exact undone

end Inverse

/-- The text behind the last whole block stays as it is. -/
theorem store_outside (s : WrapState) {i address : Nat} (blockB : Block)
    (behind : 8 * i + 8 ≤ address) : (s.store i blockB).pResult address = s.pResult address :=
  s.pResult.write_after (by rw [List.length_ofFn]; exact behind)

theorem wrapLoops_outside (encrypt : Block → Block) (numberOfBlock : Nat) (s : WrapState)
    {address : Nat} (behind : 8 * numberOfBlock ≤ address) :
    (wrapLoops encrypt numberOfBlock s).pResult address = s.pResult address := by
  apply Library.Undo.foldl_kept fun s : WrapState => s.pResult address
  intro s j _
  apply Library.Undo.foldl_kept fun s : WrapState => s.pResult address
  intro s i inside
  rw [List.mem_range] at inside
  exact store_outside s _ (by omega)

theorem unwrapLoops_outside (decrypt : Block → Block) (numberOfBlock : Nat) (s : WrapState)
    {address : Nat} (behind : 8 * numberOfBlock ≤ address) :
    (unwrapLoops decrypt numberOfBlock s).pResult address = s.pResult address := by
  apply Library.Undo.foldl_kept fun s : WrapState => s.pResult address
  intro s j _
  apply Library.Undo.foldl_kept fun s : WrapState => s.pResult address
  intro s i inside
  rw [List.mem_reverse, List.mem_range] at inside
  exact store_outside _ _ (by omega)

theorem copied_inside (source : Memory) (start : Nat) {count address : Nat}
    (inside : address < count) : copied source start count address = source (start + address) := by
  unfold copied Memory.write Memory.bytes
  rw [if_pos (Nat.zero_le _), Nat.sub_zero,
    List.getD_eq_getElem _ _ (by rw [List.length_map, List.length_range]; exact inside),
    List.getElem_map, List.getElem_range]

theorem copied_outside (source : Memory) (start : Nat) {count address : Nat}
    (outside : count ≤ address) : copied source start count address = 0 := by
  unfold copied
  exact Memory.write_after _ (by rw [Memory.length_bytes]; omega)

/-- A buffer that is zero behind the text is the copy of whatever holds the same text. -/
theorem copied_eq {source buffer : Memory} {start count : Nat}
    (holds : source.Holds start (buffer.bytes 0 count))
    (zeros : ∀ address, count ≤ address → buffer address = 0) :
    copied source start count = buffer := by
  funext address
  by_cases inside : address < count
  · rw [copied_inside source start inside]
    unfold Memory.Holds at holds
    rw [Memory.length_bytes] at holds
    have bound : address < (source.bytes start count).length := by
      rw [Memory.length_bytes]
      exact inside
    have same := List.getElem_of_eq holds bound
    simp only [Memory.bytes, List.getElem_map, List.getElem_range, Nat.zero_add] at same
    exact same
  · rw [copied_outside source start (not_lt.mp inside), zeros address (not_lt.mp inside)]

section Wrapped
variable {encrypt decrypt : Block → Block} {plainText cipherText : Memory} {count : Nat}

theorem wrapped_outside {address : Nat} (behind : count ≤ address) :
    (wrapped encrypt plainText count).pResult address = 0 := by
  unfold wrapped
  rw [wrapLoops_outside _ _ _ (by unfold aesKeyWrapBlockSize; omega)]
  exact copied_outside _ _ behind

theorem unwrapped_outside {address : Nat} (behind : count ≤ address) :
    (unwrapped decrypt cipherText count).pResult address = 0 := by
  unfold unwrapped
  rw [unwrapLoops_outside _ _ _ (by unfold aesKeyWrapBlockSize; omega)]
  exact copied_outside _ _ behind

/-- The register in front of a text is read back from where both stand. -/
theorem iv_of_holds {iv : Fin 8 → UInt8} {text : List UInt8}
    (holds : cipherText.Holds 0 (List.ofFn iv ++ text)) : (fun k : Fin 8 => cipherText k) = iv := by
  rw [Memory.holds_append] at holds
  funext k
  have front := holds.1
  unfold Memory.Holds at front
  rw [List.length_ofFn] at front
  have bound : k.val < (cipherText.bytes 0 8).length := by
    rw [Memory.length_bytes]
    exact k.isLt
  have same := List.getElem_of_eq front bound
  simp only [Memory.bytes, List.getElem_map, List.getElem_range, Nat.zero_add,
    List.getElem_ofFn] at same
  exact same

/-- What holds the wrapped text is unwrapped to the text, with the register as it was set. -/
theorem unwrapped_of_wrapped (inverse : ∀ block, decrypt (encrypt block) = block)
    (holds : cipherText.Holds 0 ((wrapped encrypt plainText count).bytes count)) :
    unwrapped decrypt cipherText count = ⟨defaultIv, copied plainText 0 count⟩ := by
  have register := iv_of_holds holds
  unfold WrapState.bytes at holds
  rw [Memory.holds_append, List.length_ofFn, Nat.zero_add] at holds
  have text := copied_eq holds.2 fun address behind => wrapped_outside behind
  unfold unwrapped
  rw [register, show aesKeyWrapIvLength = 8 from rfl, text]
  exact unwrapLoops_wrapLoops _ _ inverse

/-- What is unwrapped with the register as it should be is the wrapped text. -/
theorem holds_of_unwrapped (inverse : ∀ block, encrypt (decrypt block) = block)
    (register : (unwrapped decrypt cipherText count).iv = defaultIv)
    {text : Memory} (holds : text.Holds 0
      ((unwrapped decrypt cipherText count).pResult.bytes 0 count)) :
    cipherText.Holds 0 ((wrapped encrypt text count).bytes count) := by
  have same := copied_eq holds fun address behind => unwrapped_outside behind
  have start : (⟨defaultIv, copied text 0 count⟩ : WrapState) =
      unwrapped decrypt cipherText count := WrapState.ext register.symm same
  unfold wrapped
  rw [start]
  unfold unwrapped
  rw [wrapLoops_unwrapLoops _ _ inverse]
  unfold WrapState.bytes
  rw [Memory.holds_append, List.length_ofFn, Nat.zero_add]
  constructor
  · apply List.ext_getElem
    · rw [Memory.length_bytes, List.length_ofFn]
    · intro k _ _
      simp only [Memory.bytes, List.getElem_map, List.getElem_range, Nat.zero_add,
        List.getElem_ofFn]
  · unfold Memory.Holds
    rw [Memory.length_bytes]
    apply List.map_congr_left
    intro k inside
    rw [List.mem_range] at inside
    rw [Nat.zero_add]
    exact (copied_inside _ _ inside).symm

end Wrapped

section Returned
variable {aes : BlockCipher} {kmalloc : Kmalloc} {key : List UInt8}

theorem aesKeyWrap_eq_ok (valid : validKeyLength key.length = true) {plainTextLength : BitVec 32}
    (memory : kmalloc plainTextLength = true) (plainText cipherText : Memory) :
    ∃ out, aesKeyWrap aes kmalloc plainText plainTextLength key cipherText = .ok out ∧
      out.length = plainTextLength + BitVec.ofNat 32 aesKeyWrapIvLength ∧
      out.text.Holds 0 ((wrapped (aes.encrypt key) plainText plainTextLength.toNat).bytes
        plainTextLength.toNat) := by
  unfold aesKeyWrap
  rw [valid, memory]
  refine ⟨_, rfl, rfl, ?_⟩
  have front := Memory.write_holds cipherText 0
    (List.ofFn (wrapped (aes.encrypt key) plainText plainTextLength.toNat).iv)
  have whole := Memory.holds_write_behind front
    ((wrapped (aes.encrypt key) plainText plainTextLength.toNat).pResult.bytes 0
      plainTextLength.toNat)
  rw [List.length_ofFn] at whole
  exact whole

/-- When the function reports no error, and what it returns then. -/
theorem aesKeyUnwrap_eq_ok {cipherText plainText : Memory} {cipherTextLength : BitVec 32}
    {out : WrapText} :
    aesKeyUnwrap aes kmalloc cipherText cipherTextLength key plainText = .ok out ↔
      validKeyLength key.length = true ∧
      kmalloc (cipherTextLength - BitVec.ofNat 32 aesKeyWrapIvLength) = true ∧
      out = {
        text := plainText.write 0
          ((unwrapped (aes.decrypt key) cipherText
            (cipherTextLength - BitVec.ofNat 32 aesKeyWrapIvLength).toNat).pResult.bytes 0
              (cipherTextLength - BitVec.ofNat 32 aesKeyWrapIvLength).toNat)
        length := cipherTextLength - BitVec.ofNat 32 aesKeyWrapIvLength } := by
  unfold aesKeyUnwrap
  dsimp only
  cases validKeyLength key.length
  · simp
  · cases kmalloc (cipherTextLength - BitVec.ofNat 32 aesKeyWrapIvLength)
    · simp
    · simp [eq_comm]

/-- A wrapped text comes back with its length when there is memory for both calls; without, the
first one returns -2. -/
theorem aesKeyUnwrap_aesKeyWrap (aes : BlockCipher) (key : List UInt8)
    (inverse : ∀ block, aes.decrypt key (aes.encrypt key block) = block)
    (valid : validKeyLength key.length = true) (plainText : Memory) (plainTextLength : BitVec 32)
    (wrapMemory unwrapMemory : Kmalloc) (cipherText buffer : Memory) :
    (wrapMemory plainTextLength = true → unwrapMemory plainTextLength = true →
      ∃ sent, aesKeyWrap aes wrapMemory plainText plainTextLength key cipherText = .ok sent ∧
        ∃ out, aesKeyUnwrap aes unwrapMemory sent.text sent.length key buffer = .ok out ∧
          out.length = plainTextLength ∧
          out.text.bytes 0 plainTextLength.toNat = plainText.bytes 0 plainTextLength.toNat) ∧
    (wrapMemory plainTextLength = false →
      aesKeyWrap aes wrapMemory plainText plainTextLength key cipherText = .error (-2)) := by
  constructor
  · intro first second
    obtain ⟨sent, wraps, length, holds⟩ :=
      @aesKeyWrap_eq_ok aes _ _ valid _ first plainText cipherText
    have plainLength : sent.length - BitVec.ofNat 32 aesKeyWrapIvLength = plainTextLength := by
      rw [length, BitVec.add_sub_cancel]
    refine ⟨sent, wraps, _, aesKeyUnwrap_eq_ok.mpr ⟨valid, ?_, rfl⟩, plainLength, ?_⟩
    · rw [plainLength]
      exact second
    · rw [plainLength, unwrapped_of_wrapped inverse holds]
      have text := Memory.bytes_write buffer 0
        ((copied plainText 0 plainTextLength.toNat).bytes 0 plainTextLength.toNat)
      rw [Memory.length_bytes] at text
      apply text.trans
      apply List.map_congr_left
      intro k inside
      rw [List.mem_range] at inside
      rw [Nat.zero_add, copied_inside _ _ inside, Nat.zero_add]
  · intro none
    unfold aesKeyWrap
    rw [valid, none]
    rfl

end Returned

/-- Blocks that are left as they are. -/
def plainCipher : BlockCipher := ⟨fun _ block => block, fun _ block => block⟩

theorem aesKeyUnwrap_aesKeyWrap_zeros :
    ∃ sent, aesKeyWrap plainCipher (fun _ => true) (fun _ => 0) 16 (List.replicate 16 0)
        (fun _ => 0) = .ok sent ∧
      ∃ out, aesKeyUnwrap plainCipher (fun _ => true) sent.text sent.length (List.replicate 16 0)
          (fun _ => 0) = .ok out ∧
        out.length = 16 ∧ out.text.bytes 0 16 = List.replicate 16 0 :=
  (aesKeyUnwrap_aesKeyWrap plainCipher (List.replicate 16 0) (fun _ => rfl) (by decide) (fun _ => 0)
    16 (fun _ => true) (fun _ => true) (fun _ => 0) (fun _ => 0)).1 rfl rfl

/-- No memory for the copy of the text. -/
theorem aesKeyWrap_noMemory :
    aesKeyWrap plainCipher (fun _ => false) (fun _ => 0) 16 (List.replicate 16 0) (fun _ => 0) =
      .error (-2) := rfl

/-- Only a wrapped text is unwrapped without an error, and the register that comes out is then the
one that went in. -/
def Authenticated (aes : BlockCipher) (kmalloc : Kmalloc) (cipherText : Memory)
    (cipherTextLength : BitVec 32) (key : List UInt8) (plainText : Memory) : Prop :=
  ∀ out, aesKeyUnwrap aes kmalloc cipherText cipherTextLength key plainText = .ok out →
    24 ≤ cipherTextLength.toNat ∧ 8 ∣ cipherTextLength.toNat ∧
      (unwrapped (aes.decrypt key) cipherText out.length.toNat).iv = defaultIv ∧
      cipherText.Holds 0 ((wrapped (aes.encrypt key) out.text out.length.toNat).bytes
        out.length.toNat)

/-- Nothing is compared with the register: a text is authenticated exactly when the call reports an
error for another reason, or when `AES_Key_Wrap` has made the text from one of two blocks or
more. -/
theorem authenticated_iff (aes : BlockCipher) (key : List UInt8)
    (inverse : ∀ block, aes.decrypt key (aes.encrypt key block) = block) (kmalloc : Kmalloc)
    (cipherText : Memory) (cipherTextLength : BitVec 32) (plainText : Memory) :
    Authenticated aes kmalloc cipherText cipherTextLength key plainText ↔
      validKeyLength key.length = false ∨
      kmalloc (cipherTextLength - BitVec.ofNat 32 aesKeyWrapIvLength) = false ∨
      24 ≤ cipherTextLength.toNat ∧ 8 ∣ cipherTextLength.toNat ∧
        ∃ source : Memory, cipherText.Holds 0 ((wrapped (aes.encrypt key) source
          (cipherTextLength - BitVec.ofNat 32 aesKeyWrapIvLength).toNat).bytes
            (cipherTextLength - BitVec.ofNat 32 aesKeyWrapIvLength).toNat) := by
  cases valid : validKeyLength key.length with
  | false =>
    apply iff_of_true _ (Or.inl rfl)
    intro out accepted
    rw [aesKeyUnwrap_eq_ok, valid] at accepted
    exact absurd accepted.1 Bool.false_ne_true
  | true =>
    cases memory : kmalloc (cipherTextLength - BitVec.ofNat 32 aesKeyWrapIvLength) with
    | false =>
      apply iff_of_true _ (Or.inr (Or.inl rfl))
      intro out accepted
      rw [aesKeyUnwrap_eq_ok, memory] at accepted
      exact absurd accepted.2.1 Bool.false_ne_true
    | true =>
      constructor
      · intro authenticated
        obtain ⟨long, blocks, -, holds⟩ := authenticated _ (aesKeyUnwrap_eq_ok.mpr
          ⟨valid, memory, rfl⟩)
        exact Or.inr (Or.inr ⟨long, blocks, _, holds⟩)
      · rintro (wrong | none | ⟨long, blocks, source, holds⟩)
        · cases wrong
        · cases none
        · intro out accepted
          obtain ⟨-, -, rfl⟩ := aesKeyUnwrap_eq_ok.mp accepted
          have result := unwrapped_of_wrapped inverse holds
          have register : (unwrapped (aes.decrypt key) cipherText
              (cipherTextLength - BitVec.ofNat 32 aesKeyWrapIvLength).toNat).iv = defaultIv := by
            rw [result]
          refine ⟨long, blocks, register, ?_⟩
          exact holds_of_unwrapped (Library.Undo.rightInverse_of_leftInverse inverse) register
            (plainText.write_holds 0 _)

theorem authenticated_wrapped :
    Authenticated plainCipher (fun _ => true)
      (Memory.write (fun _ => 0) 0 ((wrapped (fun block => block) (fun _ => 0) 16).bytes 16)) 24
      (List.replicate 16 0) (fun _ => 0) :=
  (authenticated_iff plainCipher (List.replicate 16 0) (fun _ => rfl) (fun _ => true) _ 24
    (fun _ => 0)).mpr (Or.inr (Or.inr ⟨by decide, by decide, fun _ => 0, Memory.write_holds _ _ _⟩))

/-- Zeros are accepted, and so is a text of eight bytes. -/
theorem zeros_not_authenticated :
    ¬Authenticated plainCipher (fun _ => true) (fun _ => 0) 24 (List.replicate 16 0) (fun _ => 0) ∧
      ¬Authenticated plainCipher (fun _ => true) (fun _ => 0) 8 (List.replicate 16 0)
        (fun _ => 0) := by
  constructor
  · intro authenticated
    obtain ⟨-, -, register, -⟩ := authenticated _ rfl
    exact absurd (congrFun register 0) (by decide)
  · intro authenticated
    obtain ⟨long, -⟩ := authenticated _ rfl
    exact absurd long (by decide)

end Mt7612u.Crypto
