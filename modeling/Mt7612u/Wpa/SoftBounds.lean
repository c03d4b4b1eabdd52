import Mt7612u.Wpa.SoftDecrypt

/-! Which bytes of a frame the software decryptors touch, and which lengths they compute. -/

namespace Mt7612u.Wpa
open Receive (Memory Span)
open Crypto (aesBlockSizes)

/-- The ranges of the frame that are touched before its length is tested and those that a computed length
leads to, with every difference that is taken for a length or a count. -/
structure Footprint where
  early : List Span
  late : List Span
  sizes : List Int

/-- `RTMPInitWepEngine` reads the IV when it gets memory for the seed. -/
def wepIv (env : SoftEnv) : List Span := if env.seed then [⟨0, 3⟩] else []

/-- What `RTMPSoftDecryptWEP` touches and computes. -/
def wepFootprint (env : SoftEnv) (frame : SoftFrame) : Footprint :=
  if !env.arc4Ctx then ⟨[], [], []⟩
  else if frame.key.keyLen = 0 then ⟨[], [], []⟩
  else
    let iv := wepIv env
    let cipherTextLen := frame.dataByteCnt - BitVec.ofNat 16 lenWepIvHdr
    let cipherTextSize : Int := frame.dataByteCnt.toNat - lenWepIvHdr
    if frame.dataByteCnt.toNat ≤ lenWepIvHdr then ⟨iv, [], [cipherTextSize]⟩
    else
      let plainTextLen := cipherTextLen - BitVec.ofNat 16 lenIcv
      { early := iv
        late := [⟨lenWepIvHdr, cipherTextLen.toNat⟩, ⟨0, cipherTextLen.toNat⟩,
          ⟨plainTextLen.toNat, lenIcv⟩, ⟨0, plainTextLen.toNat⟩]
        sizes := [cipherTextSize, cipherTextLen.toNat - lenIcv, plainTextLen.toNat] }

/-- The size of an unsigned long. -/
inductive Ulong where
  | bits32
  | bits64
  deriving DecidableEq

def Ulong.size : Ulong → Nat
  | .bits32 => 4
  | .bits64 => 8

def tkipIv (ulong : Ulong) : List Span := [⟨0, 1⟩, ⟨2, 1⟩, ⟨4, ulong.size⟩]

/-- What `RTMPSoftDecryptTKIP` touches and computes. `pnh` is read as an unsigned long, and the count of
`RTMP_CALC_FCS32` is an int. -/
def tkipFootprint (crypto : SoftCrypto) (ulong : Ulong) (frame : SoftFrame) : Footprint :=
  if frame.key.keyLen = 0 then ⟨[], [], []⟩
  else
    let iv := tkipIv ulong
    let cipherTextLen := frame.dataByteCnt.setWidth 32 - BitVec.ofNat 32 lenTkipIvHdr
    let cipherTextSize : Int := frame.dataByteCnt.toNat - lenTkipIvHdr
    if frame.dataByteCnt.toNat ≤ lenTkipIvHdr then ⟨iv, [], [cipherTextSize]⟩
    else
      let data := decryptedOver (tkipCtx crypto frame) frame.data lenTkipIvHdr cipherTextLen.toNat
      let plainTextLen := cipherTextLen - BitVec.ofNat 32 lenIcv
      let withoutMic := plainTextLen - BitVec.ofNat 32 lenTkipMic
      let checked := icvRight data plainTextLen.toNat
      { early := iv
        late := [⟨lenTkipIvHdr, cipherTextLen.toNat⟩, ⟨0, cipherTextLen.toNat⟩,
          ⟨plainTextLen.toNat, lenIcv⟩, ⟨0, plainTextLen.toNat⟩] ++
          if checked then [⟨withoutMic.toNat, lenTkipMic⟩, ⟨0, withoutMic.toNat⟩] else []
        sizes := [cipherTextSize, cipherTextLen.toNat - lenIcv, plainTextLen.toInt] ++
          if checked then [(plainTextLen.toNat : Int) - lenTkipMic] else [] }

/-- Where the loops of `AES_CCM_Decrypt` and `AES_CCM_MAC` cut a text. -/
def ccmIndices (length : Nat) : Nat → Nat → List Nat
  | 0, _ => []
  | turns + 1, index =>
      if index < length then
        index :: ccmIndices length turns (index + min (length - index) aesBlockSizes)
      else []

/-- A piece of the text is read behind the CCMP header and stored over it; it is read there again for
the MAC. -/
def pieceSpans (length index : Nat) : List Span :=
  [⟨lenCcmpHdr + index, min (length - index) aesBlockSizes⟩,
    ⟨index, min (length - index) aesBlockSizes⟩]

/-- The bytes of the packet number. -/
def ccmpPn : List Span := [⟨0, 2⟩, ⟨4, 4⟩]

/-- What `RTMPSoftDecryptCCMP` touches and computes, with what it calls. -/
def ccmpFootprint (frame : SoftFrame) : Footprint :=
  if frame.key.keyLen = 0 then ⟨[], [], []⟩
  else
    let pn := ccmpPn
    let cipherTextLen := frame.dataByteCnt.setWidth 32 - BitVec.ofNat 32 lenCcmpHdr
    let cipherTextSize : Int := frame.dataByteCnt.toNat - lenCcmpHdr
    if frame.dataByteCnt.toNat ≤ lenCcmpHdr then ⟨pn, [], [cipherTextSize]⟩
    else
      let length := cipherTextLen - BitVec.ofNat 32 lenCcmpMic
      let withoutMic : Int := cipherTextLen.toNat - lenCcmpMic
      if frame.dataByteCnt.setWidth 32 < length then ⟨pn, [], [cipherTextSize, withoutMic]⟩
      else
        let indices := ccmIndices length.toNat length.toNat 0
        { early := pn
          late := ⟨lenCcmpHdr + length.toNat, cipherTextLen.toNat - length.toNat⟩ ::
            indices.flatMap (pieceSpans length.toNat)
          sizes := [cipherTextSize, withoutMic] ++
            indices.map fun (index : Nat) => (length.toNat : Int) - index }

/-- The three decryptors. -/
inductive SoftDecryptor where
  | wep
  | tkip
  | ccmp
  deriving DecidableEq

/-- The shortest frame with IV header, ICV and MIC. -/
def SoftDecryptor.least : SoftDecryptor → Nat
  | .wep => lenWepIvHdr + lenIcv
  | .tkip => lenTkipIvHdr + (lenTkipMic + lenIcv)
  | .ccmp => lenCcmpHdr + lenCcmpMic

@[simp] theorem least_wep : SoftDecryptor.wep.least = 8 := rfl
@[simp] theorem least_tkip : SoftDecryptor.tkip.least = 20 := rfl
@[simp] theorem least_ccmp : SoftDecryptor.ccmp.least = 16 := rfl

section Bounds
variable (crypto : SoftCrypto) (env : SoftEnv) (ulong : Ulong) (frame : SoftFrame)

def footprint : SoftDecryptor → Footprint
  | .wep => wepFootprint env frame
  | .tkip => tkipFootprint crypto ulong frame
  | .ccmp => ccmpFootprint frame

def accepted : SoftDecryptor → Bool
  | .wep => (rtmpSoftDecryptWep env frame).isSome
  | .tkip => asInt (rtmpSoftDecryptTkip crypto frame).returned = ndisStatusSuccess
  | .ccmp => (rtmpSoftDecryptCcmp crypto env frame).isSome

/-- Only bytes of the frame are touched, no length falls below zero, and a frame that is too short is
refused before a computed length leads anywhere. -/
structure KeepsBounds (decryptor : SoftDecryptor) : Prop where
  early : ∀ span ∈ (footprint crypto env ulong frame decryptor).early,
    span.Within ⟨0, frame.dataByteCnt.toNat⟩
  late : ∀ span ∈ (footprint crypto env ulong frame decryptor).late,
    span.Within ⟨0, frame.dataByteCnt.toNat⟩
  sizes : ∀ size ∈ (footprint crypto env ulong frame decryptor).sizes, 0 ≤ size
  refused : frame.dataByteCnt.toNat < decryptor.least →
    accepted crypto env frame decryptor = false ∧
      (footprint crypto env ulong frame decryptor).late = []

/-- There is no key (or, for WEP, no memory for the state), the frame is just its IV header, or it has
room for all that belongs to it. -/
def LongEnough : SoftDecryptor → Prop
  | .wep => env.arc4Ctx = false ∨ frame.key.keyLen = 0 ∨
      frame.dataByteCnt.toNat = lenWepIvHdr ∨ SoftDecryptor.wep.least ≤ frame.dataByteCnt.toNat
  | .tkip => frame.key.keyLen = 0 ∨
      frame.dataByteCnt.toNat = lenTkipIvHdr ∧ ulong = .bits32 ∨
        SoftDecryptor.tkip.least ≤ frame.dataByteCnt.toNat
  | .ccmp => frame.key.keyLen = 0 ∨ frame.dataByteCnt.toNat = lenCcmpHdr ∨
      SoftDecryptor.ccmp.least ≤ frame.dataByteCnt.toNat

end Bounds

variable {crypto : SoftCrypto} {env : SoftEnv} {ulong : Ulong} {frame : SoftFrame}

/-- Nothing is touched and nothing computed. -/
theorem keepsBounds_of_empty {decryptor : SoftDecryptor}
    (empty : footprint crypto env ulong frame decryptor = ⟨[], [], []⟩)
    (refused : accepted crypto env frame decryptor = false) :
    KeepsBounds crypto env ulong frame decryptor := by
  constructor
  · simp [empty]
  · simp [empty]
  · simp [empty]
  · intro _
    exact ⟨refused, by rw [empty]⟩

section Wep

theorem wepIv_within {count : Nat} (room : 3 ≤ count) : ∀ span ∈ wepIv env, span.Within ⟨0, count⟩ := by
  unfold wepIv
  split_ifs
  · simpa [Span.Within] using room
  · simp

theorem wep_refused (few : frame.dataByteCnt.toNat ≤ lenWepIvHdr) :
    rtmpSoftDecryptWep env frame = none := by
  unfold rtmpSoftDecryptWep
  rw [if_pos few]
  split_ifs <;> rfl

theorem wepFootprint_header (memory : env.arc4Ctx = true) (keyed : frame.key.keyLen ≠ 0)
    (few : frame.dataByteCnt.toNat ≤ lenWepIvHdr) :
    wepFootprint env frame =
      ⟨wepIv env, [], [(frame.dataByteCnt.toNat : Int) - lenWepIvHdr]⟩ := by
  unfold wepFootprint
  rw [if_neg (by simp [memory]), if_neg keyed, if_pos few]

theorem wepFootprint_text (memory : env.arc4Ctx = true) (keyed : frame.key.keyLen ≠ 0)
    (text : lenWepIvHdr < frame.dataByteCnt.toNat) :
    (wepFootprint env frame).sizes =
      [(frame.dataByteCnt.toNat : Int) - lenWepIvHdr,
        (frame.dataByteCnt.toNat : Int) - lenWepIvHdr - lenIcv,
        ((frame.dataByteCnt - BitVec.ofNat 16 lenWepIvHdr - BitVec.ofNat 16 lenIcv).toNat : Int)] ∧
    (SoftDecryptor.wep.least ≤ frame.dataByteCnt.toNat →
      (wepFootprint env frame).early = wepIv env ∧
        (wepFootprint env frame).late =
          [⟨lenWepIvHdr, frame.dataByteCnt.toNat - lenWepIvHdr⟩,
            ⟨0, frame.dataByteCnt.toNat - lenWepIvHdr⟩,
            ⟨frame.dataByteCnt.toNat - SoftDecryptor.wep.least, lenIcv⟩,
            ⟨0, frame.dataByteCnt.toNat - SoftDecryptor.wep.least⟩]) := by
  have first : (frame.dataByteCnt - BitVec.ofNat 16 lenWepIvHdr).toNat =
      frame.dataByteCnt.toNat - lenWepIvHdr := by
    unfold lenWepIvHdr at text ⊢
    bv_omega
  unfold wepFootprint
  rw [if_neg (by simp [memory]), if_neg keyed, if_neg (not_le.mpr text)]
  dsimp only
  constructor
  · rw [first]
    congr 2
    omega
  · intro long
    have second : (frame.dataByteCnt - BitVec.ofNat 16 lenWepIvHdr -
        BitVec.ofNat 16 lenIcv).toNat = frame.dataByteCnt.toNat - SoftDecryptor.wep.least := by
      rw [least_wep] at long ⊢
      unfold lenWepIvHdr lenIcv
      bv_omega
    rw [first, second]
    exact ⟨rfl, rfl⟩

theorem wep_keepsBounds_iff :
    KeepsBounds crypto env ulong frame .wep ↔ LongEnough env ulong frame .wep := by
  constructor
  · intro keeps
    by_contra short
    simp only [LongEnough, least_wep, lenWepIvHdr, not_or, Bool.not_eq_false] at short
    obtain ⟨memory, keyed, other, few⟩ := short
    have sizes := keeps.sizes
    change ∀ size ∈ (wepFootprint env frame).sizes, 0 ≤ size at sizes
    rcases Nat.lt_or_ge lenWepIvHdr frame.dataByteCnt.toNat with text | header
    · rw [(wepFootprint_text memory keyed text).1] at sizes
      have second := sizes _ (List.mem_cons_of_mem _ List.mem_cons_self)
      unfold lenWepIvHdr lenIcv at second
      omega
    · rw [wepFootprint_header memory keyed header] at sizes
      have first := sizes _ List.mem_cons_self
      unfold lenWepIvHdr at first header
      omega
  · intro long
    by_cases memory : env.arc4Ctx = true
    · by_cases keyed : frame.key.keyLen = 0
      · apply keepsBounds_of_empty
        · simp [footprint, wepFootprint, memory, keyed]
        · simp [accepted, rtmpSoftDecryptWep, memory, keyed]
      · rcases long with absent | empty | header | whole
        · rw [memory] at absent
          cases absent
        · exact absurd empty keyed
        · have found := wepFootprint_header memory keyed header.le
          constructor
          · change ∀ span ∈ (wepFootprint env frame).early, _
            rw [found, header]
            exact wepIv_within (by decide)
          · change ∀ span ∈ (wepFootprint env frame).late, _
            simp [found]
          · change ∀ size ∈ (wepFootprint env frame).sizes, _
            simp [found, header]
          · intro _
            exact ⟨by simp [accepted, wep_refused header.le], congrArg Footprint.late found⟩
        · have text : lenWepIvHdr < frame.dataByteCnt.toNat := by
            rw [least_wep] at whole
            exact Nat.lt_of_lt_of_le (by decide) whole
          obtain ⟨sizes, spans⟩ := wepFootprint_text memory keyed text
          obtain ⟨early, late⟩ := spans whole
          rw [least_wep] at whole
          constructor
          · change ∀ span ∈ (wepFootprint env frame).early, _
            rw [early]
            exact wepIv_within (by omega)
          · change ∀ span ∈ (wepFootprint env frame).late, _
            simp [late, Span.Within, lenWepIvHdr, lenIcv]
            omega
          · change ∀ size ∈ (wepFootprint env frame).sizes, _
            simp [sizes, lenWepIvHdr, lenIcv]
            omega
          · intro few
            rw [least_wep] at few
            omega
    · apply keepsBounds_of_empty
      · simp [footprint, wepFootprint, memory]
      · simp [accepted, rtmpSoftDecryptWep, memory]

end Wep

section Tkip

theorem tkip_failed (failed : rtmpSoftDecryptTkip crypto frame =
      ⟨asBool ndisStatusFailure, frame.data, frame.dataByteCnt⟩) :
    accepted crypto env frame .tkip = false := by
  unfold accepted
  rw [failed]
  rfl

theorem tkipFootprint_header (keyed : frame.key.keyLen ≠ 0)
    (few : frame.dataByteCnt.toNat ≤ lenTkipIvHdr) :
    tkipFootprint crypto ulong frame =
      ⟨tkipIv ulong, [], [(frame.dataByteCnt.toNat : Int) - lenTkipIvHdr]⟩ := by
  unfold tkipFootprint
  rw [if_neg keyed, if_pos few]

theorem tkipFootprint_text (keyed : frame.key.keyLen ≠ 0)
    (text : lenTkipIvHdr < frame.dataByteCnt.toNat) :
    (tkipFootprint crypto ulong frame).late ≠ [] := by
  unfold tkipFootprint
  rw [if_neg keyed, if_neg (not_le.mpr text)]
  exact List.cons_ne_nil _ _

/-- A frame with room for ICV and MIC. -/
theorem tkipFootprint_whole (keyed : frame.key.keyLen ≠ 0) (whole : 20 ≤ frame.dataByteCnt.toNat) :
    (tkipFootprint crypto ulong frame).early = tkipIv ulong ∧
      (∀ span ∈ (tkipFootprint crypto ulong frame).late,
        span.Within ⟨0, frame.dataByteCnt.toNat⟩) ∧
      ∀ size ∈ (tkipFootprint crypto ulong frame).sizes, 0 ≤ size := by
  have cipherText : (frame.dataByteCnt.setWidth 32 - BitVec.ofNat 32 lenTkipIvHdr).toNat =
      frame.dataByteCnt.toNat - 8 := by
    unfold lenTkipIvHdr
    bv_omega
  have plainText : (frame.dataByteCnt.setWidth 32 - BitVec.ofNat 32 lenTkipIvHdr -
      BitVec.ofNat 32 lenIcv).toNat = frame.dataByteCnt.toNat - 12 := by
    unfold lenTkipIvHdr lenIcv
    bv_omega
  have withoutMic : (frame.dataByteCnt.setWidth 32 - BitVec.ofNat 32 lenTkipIvHdr -
      BitVec.ofNat 32 lenIcv - BitVec.ofNat 32 lenTkipMic).toNat =
        frame.dataByteCnt.toNat - 20 := by
    unfold lenTkipIvHdr lenIcv lenTkipMic
    bv_omega
  have count : (frame.dataByteCnt.setWidth 32 - BitVec.ofNat 32 lenTkipIvHdr -
      BitVec.ofNat 32 lenIcv).toInt = (frame.dataByteCnt.toNat - 12 : Nat) := by
    have small := frame.dataByteCnt.isLt
    rw [BitVec.toInt_eq_toNat_of_lt (by omega), plainText]
  unfold tkipFootprint
  rw [if_neg keyed, if_neg (by unfold lenTkipIvHdr; omega)]
  dsimp only
  rw [cipherText, plainText, withoutMic, count]
  refine ⟨rfl, ?_, ?_⟩
  · split_ifs <;> simp [Span.Within, lenTkipIvHdr, lenIcv, lenTkipMic] <;> omega
  · split_ifs <;> simp [lenTkipIvHdr, lenIcv, lenTkipMic] <;> omega

theorem tkip_keepsBounds_iff :
    KeepsBounds crypto env ulong frame .tkip ↔ LongEnough env ulong frame .tkip := by
  constructor
  · intro keeps
    by_contra short
    simp only [LongEnough, least_tkip, lenTkipIvHdr, not_or, not_and] at short
    obtain ⟨keyed, wide, few⟩ := short
    rcases Nat.lt_or_ge lenTkipIvHdr frame.dataByteCnt.toNat with text | header
    · have refused := (keeps.refused (by rw [least_tkip]; omega)).2
      exact tkipFootprint_text keyed text refused
    · have found := @tkipFootprint_header crypto ulong frame keyed header
      have sizes := keeps.sizes
      change ∀ size ∈ (tkipFootprint crypto ulong frame).sizes, 0 ≤ size at sizes
      rw [found] at sizes
      have first := sizes _ List.mem_cons_self
      unfold lenTkipIvHdr at first header
      have just : frame.dataByteCnt.toNat = 8 := by omega
      have early := keeps.early
      change ∀ span ∈ (tkipFootprint crypto ulong frame).early, _ at early
      rw [found] at early
      have last := (early ⟨4, ulong.size⟩ (by simp [tkipIv])).2
      cases ulong with
      | bits32 => exact wide just rfl
      | bits64 =>
        simp only [Ulong.size] at last
        omega
  · intro long
    by_cases keyed : frame.key.keyLen = 0
    · apply keepsBounds_of_empty
      · simp [footprint, tkipFootprint, keyed]
      · apply tkip_failed
        unfold rtmpSoftDecryptTkip
        rw [if_pos keyed]
    · rcases long with empty | ⟨header, rfl⟩ | whole
      · exact absurd empty keyed
      · have found := @tkipFootprint_header crypto .bits32 frame keyed header.le
        constructor
        · change ∀ span ∈ (tkipFootprint crypto .bits32 frame).early, _
          simp [found, header, tkipIv, Span.Within, lenTkipIvHdr, Ulong.size]
        · change ∀ span ∈ (tkipFootprint crypto .bits32 frame).late, _
          simp [found]
        · change ∀ size ∈ (tkipFootprint crypto .bits32 frame).sizes, _
          simp [found, header]
        · intro _
          refine ⟨?_, congrArg Footprint.late found⟩
          apply tkip_failed
          unfold rtmpSoftDecryptTkip
          rw [if_neg keyed, if_pos header.le]
      · rw [least_tkip] at whole
        obtain ⟨early, late, sizes⟩ := @tkipFootprint_whole crypto ulong frame keyed whole
        constructor
        · change ∀ span ∈ (tkipFootprint crypto ulong frame).early, _
          rw [early]
          cases ulong <;> simp [tkipIv, Span.Within, Ulong.size] <;> omega
        · exact late
        · exact sizes
        · intro few
          rw [least_tkip] at few
          omega

end Tkip

section Ccmp

theorem lt_of_mem_ccmIndices {length turns start index : Nat}
    (member : index ∈ ccmIndices length turns start) : index < length := by
  induction turns generalizing start with
  | zero => cases member
  | succ turns ih =>
    unfold ccmIndices at member
    split_ifs at member with inside
    · rcases List.mem_cons.mp member with rfl | later
      · exact inside
      · exact ih later
    · cases member

theorem ccmp_refused (few : frame.dataByteCnt.toNat ≤ lenCcmpHdr) :
    rtmpSoftDecryptCcmp crypto env frame = none := by
  unfold rtmpSoftDecryptCcmp
  rw [if_pos few]
  split_ifs <;> rfl

theorem ccmpFootprint_header (keyed : frame.key.keyLen ≠ 0)
    (few : frame.dataByteCnt.toNat ≤ lenCcmpHdr) :
    ccmpFootprint frame = ⟨ccmpPn, [], [(frame.dataByteCnt.toNat : Int) - lenCcmpHdr]⟩ := by
  unfold ccmpFootprint
  rw [if_neg keyed, if_pos few]

/-- The length without the MIC is taken of every frame that is longer than its header. -/
theorem ccmpFootprint_text (keyed : frame.key.keyLen ≠ 0)
    (text : lenCcmpHdr < frame.dataByteCnt.toNat) :
    (frame.dataByteCnt.toNat : Int) - lenCcmpHdr - lenCcmpMic ∈ (ccmpFootprint frame).sizes := by
  have cipherText : (frame.dataByteCnt.setWidth 32 - BitVec.ofNat 32 lenCcmpHdr).toNat =
      frame.dataByteCnt.toNat - lenCcmpHdr := by
    unfold lenCcmpHdr at text ⊢
    bv_omega
  unfold ccmpFootprint
  rw [if_neg keyed, if_neg (not_le.mpr text)]
  dsimp only
  rw [cipherText, Int.ofNat_sub text.le]
  split_ifs <;> simp

theorem ccmpFootprint_whole (keyed : frame.key.keyLen ≠ 0) (whole : 16 ≤ frame.dataByteCnt.toNat) :
    (ccmpFootprint frame).early = ccmpPn ∧
      (∀ span ∈ (ccmpFootprint frame).late, span.Within ⟨0, frame.dataByteCnt.toNat⟩) ∧
      ∀ size ∈ (ccmpFootprint frame).sizes, 0 ≤ size := by
  have cipherText : (frame.dataByteCnt.setWidth 32 - BitVec.ofNat 32 lenCcmpHdr).toNat =
      frame.dataByteCnt.toNat - 8 := by
    unfold lenCcmpHdr
    bv_omega
  have length : (frame.dataByteCnt.setWidth 32 - BitVec.ofNat 32 lenCcmpHdr -
      BitVec.ofNat 32 lenCcmpMic).toNat = frame.dataByteCnt.toNat - 16 := by
    unfold lenCcmpHdr lenCcmpMic
    bv_omega
  have room : ¬ frame.dataByteCnt.setWidth 32 <
      frame.dataByteCnt.setWidth 32 - BitVec.ofNat 32 lenCcmpHdr - BitVec.ofNat 32 lenCcmpMic := by
    rw [BitVec.lt_def, length]
    simp
    omega
  unfold ccmpFootprint
  rw [if_neg keyed, if_neg (by unfold lenCcmpHdr; omega)]
  dsimp only
  rw [if_neg room, cipherText, length]
  refine ⟨rfl, ?_, ?_⟩
  · intro span member
    rcases List.mem_cons.mp member with rfl | piece
    · simp only [Span.Within, lenCcmpHdr]
      omega
    · obtain ⟨index, found, member⟩ := List.mem_flatMap.mp piece
      have inside := lt_of_mem_ccmIndices found
      simp only [pieceSpans, List.mem_cons, List.not_mem_nil, or_false] at member
      rcases member with rfl | rfl <;> simp only [Span.Within, lenCcmpHdr] <;> omega
  · intro size member
    rcases List.mem_append.mp member with taken | left
    · simp only [lenCcmpHdr, lenCcmpMic, List.mem_cons, List.not_mem_nil, or_false] at taken
      omega
    · obtain ⟨index, found, rfl⟩ := List.mem_map.mp left
      have inside := lt_of_mem_ccmIndices found
      omega

theorem ccmp_keepsBounds_iff :
    KeepsBounds crypto env ulong frame .ccmp ↔ LongEnough env ulong frame .ccmp := by
  constructor
  · intro keeps
    by_contra short
    simp only [LongEnough, least_ccmp, lenCcmpHdr, not_or] at short
    obtain ⟨keyed, other, few⟩ := short
    have sizes := keeps.sizes
    change ∀ size ∈ (ccmpFootprint frame).sizes, 0 ≤ size at sizes
    rcases Nat.lt_or_ge lenCcmpHdr frame.dataByteCnt.toNat with text | header
    · have second := sizes _ (ccmpFootprint_text keyed text)
      unfold lenCcmpHdr lenCcmpMic at second
      omega
    · rw [ccmpFootprint_header keyed header] at sizes
      have first := sizes _ List.mem_cons_self
      unfold lenCcmpHdr at first header
      omega
  · intro long
    by_cases keyed : frame.key.keyLen = 0
    · apply keepsBounds_of_empty
      · simp [footprint, ccmpFootprint, keyed]
      · simp [accepted, rtmpSoftDecryptCcmp, keyed]
    · rcases long with empty | header | whole
      · exact absurd empty keyed
      · have found := ccmpFootprint_header keyed header.le
        constructor
        · change ∀ span ∈ (ccmpFootprint frame).early, _
          simp [found, header, ccmpPn, Span.Within, lenCcmpHdr]
        · change ∀ span ∈ (ccmpFootprint frame).late, _
          simp [found]
        · change ∀ size ∈ (ccmpFootprint frame).sizes, _
          simp [found, header]
        · intro _
          exact ⟨by simp [accepted, ccmp_refused header.le], congrArg Footprint.late found⟩
      · rw [least_ccmp] at whole
        obtain ⟨early, late, sizes⟩ := ccmpFootprint_whole keyed whole
        constructor
        · change ∀ span ∈ (ccmpFootprint frame).early, _
          rw [early]
          simp [ccmpPn, Span.Within]
          omega
        · exact late
        · exact sizes
        · intro few
          rw [least_ccmp] at few
          omega

end Ccmp

/-- A decryptor keeps to the bytes of the frame and to lengths that are no negative numbers exactly when
the frame is long enough for it, whatever its bytes, its header and its key are. -/
theorem softDecrypt_keepsBounds_iff (crypto : SoftCrypto) (env : SoftEnv) (ulong : Ulong)
    (frame : SoftFrame) (decryptor : SoftDecryptor) :
    KeepsBounds crypto env ulong frame decryptor ↔ LongEnough env ulong frame decryptor := by
  cases decryptor with
  | wep => exact wep_keepsBounds_iff
  | tkip => exact tkip_keepsBounds_iff
  | ccmp => exact ccmp_keepsBounds_iff

section Short

def shortWepKey : CipherKey := ⟨.wep64, 5, Bytes.zero 16, Bytes.zero 8, Bytes.zero 8⟩

def shortWepEnv : SoftEnv := ⟨true, true, Crypto.Arc4Ctx.init [], fun _ => 0⟩

/-- One byte behind the IV header of WEP. -/
def shortWepFrame : SoftFrame := ⟨fun _ => 0, 0, shortWepKey, fun _ => 0, 5⟩

theorem not_softDecrypt_keepsBounds :
    ¬ ∀ (crypto : SoftCrypto) (env : SoftEnv) (ulong : Ulong) (frame : SoftFrame)
      (decryptor : SoftDecryptor), KeepsBounds crypto env ulong frame decryptor := by
  intro always
  have keeps := always ⟨fun _ _ _ _ => Bytes.zero 16, fun _ block => block⟩ shortWepEnv .bits64
    shortWepFrame .wep
  have sizes := keeps.sizes
  change ∀ size ∈ (wepFootprint shortWepEnv shortWepFrame).sizes, 0 ≤ size at sizes
  rw [(wepFootprint_text rfl (by decide) (by decide)).1] at sizes
  have second := sizes _ (List.mem_cons_of_mem _ List.mem_cons_self)
  revert second
  decide

end Short

end Mt7612u.Wpa
