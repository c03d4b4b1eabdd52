import Mt7612u.Transmit.TimBitmap

/-! The TIM element that `APUpdateBeaconFrame` and `CFG80211DRV_UpdateTimIE` write into a beacon,
and what a station reads from it. -/

namespace Mt7612u.Mlme
open Transmit (TimBitmaps wlanMaxNumOfTim)

def ieTim : BitVec 8 := 5

abbrev BeaconFrame := Nat → BitVec 8

/-- `pTim[i]`. -/
def timByte (pTim : TimBitmaps) (i : Nat) : BitVec 8 :=
  if inside : i < wlanMaxNumOfTim then pTim ⟨i, inside⟩ else 0

/-- `tim_1B`: a byte without the bit for broadcast and multicast. -/
def tim1B (pTim : TimBitmaps) (id1B : Nat) : BitVec 8 :=
  if id1B = 0 then timByte pTim 0 &&& 0xfe else timByte pTim id1B

/-- `TimFirst` and `TimLast` after the first bytes of the bitmap. -/
def timScan (pTim : TimBitmaps) : Nat → Nat × Nat
  | 0 => (0, 0)
  | id1B + 1 =>
      let (timFirst, timLast) := timScan pTim id1B
      if tim1B pTim id1B = 0 then (timFirst, timLast)
      else (if timFirst = 0 then id1B else timFirst, id1B)

/-- `TimFirst`, made even. -/
def timFirst (pTim : TimBitmaps) : Nat :=
  let timFirst := (timScan pTim wlanMaxNumOfTim).1
  if timFirst % 2 = 1 then timFirst - 1 else timFirst

def timLast (pTim : TimBitmaps) : Nat := (timScan pTim wlanMaxNumOfTim).2

/-- The first rounds of the loop that copies the bitmap. -/
def copyTim (pTim : TimBitmaps) (ptr timFirst : Nat) : Nat → BeaconFrame → BeaconFrame
  | 0, frame => frame
  | count + 1, frame =>
      Function.update (copyTim pTim ptr timFirst count frame) (ptr + 5 + count)
        (timByte pTim (timFirst + count))

/-- The element as both functions write it at `ptr`. -/
def fillTim (pTim : TimBitmaps) (dtimCount dtimPeriod : BitVec 8) (ptr : Nat)
    (frame : BeaconFrame) : BeaconFrame :=
  let first := timFirst pTim
  let last := timLast pTim
  let frame := Function.update frame ptr ieTim
  let frame := Function.update frame (ptr + 2) dtimCount
  let frame := Function.update frame (ptr + 3) dtimPeriod
  let frame := Function.update frame (ptr + 1) (BitVec.ofNat 8 (3 + (last - first + 1)))
  let frame := Function.update frame (ptr + 4) (BitVec.ofNat 8 first)
  let frame := copyTim pTim ptr first (last + 1 - first) frame
  if dtimCount = 0 then
    Function.update frame (ptr + 4) (frame (ptr + 4) ||| (timByte pTim 0 &&& 0x01))
  else frame

/-- The TIM part of `APUpdateBeaconFrame`: the frame, and `FrameLen` after it. -/
def apUpdateBeaconFrame (pTim : TimBitmaps) (dtimCount dtimPeriod : BitVec 8)
    (timIELocationInBeacon frameLen : Nat) (pBeaconFrame : BeaconFrame) : BeaconFrame × Nat :=
  let frame := fillTim pTim dtimCount dtimPeriod timIELocationInBeacon pBeaconFrame
  (frame, frameLen + (2 + (frame (timIELocationInBeacon + 1)).toNat))

/-- `CFG80211DRV_UpdateTimIE`: the frame, and the length it returns. -/
def cfg80211drvUpdateTimIE (pTim : TimBitmaps) (dtimCount dtimPeriod : BitVec 8)
    (timIePos : Nat) (pBeaconFrame : BeaconFrame) : BeaconFrame × BitVec 8 :=
  let frame := fillTim pTim dtimCount dtimPeriod timIePos pBeaconFrame
  (frame, 2 + frame (timIePos + 1))

/-- The bitmap offset `N1` of an element. -/
def bitmapOffset (frame : BeaconFrame) (ptr : Nat) : Nat := (frame (ptr + 4) &&& 0xfe).toNat

/-- How many bytes of the virtual bitmap an element has. -/
def bitmapLength (frame : BeaconFrame) (ptr : Nat) : Nat := (frame (ptr + 1)).toNat - 3

/-- The element tells the station with this identifier that packets wait for it. -/
def Names (frame : BeaconFrame) (ptr aid : Nat) : Prop :=
  bitmapOffset frame ptr ≤ aid / 8 ∧
    aid / 8 < bitmapOffset frame ptr + bitmapLength frame ptr ∧
    (frame (ptr + 5 + (aid / 8 - bitmapOffset frame ptr))).getLsbD (aid % 8) = true

/-- What is known of the search after some bytes. -/
structure Scanned (pTim : TimBitmaps) (count : Nat) (found : Nat × Nat) : Prop where
  ordered : found.1 ≤ found.2
  within : found.2 = 0 ∨ found.2 < count
  last : ∀ i, found.2 < i → i < count → tim1B pTim i = 0
  unset : found.1 = 0 → ∀ i, 0 < i → i < count → tim1B pTim i = 0
  first : found.1 ≠ 0 → tim1B pTim found.1 ≠ 0 ∧ ∀ i, 0 < i → i < found.1 → tim1B pTim i = 0

theorem timScan_scanned (pTim : TimBitmaps) (count : Nat) :
    Scanned pTim count (timScan pTim count) := by
  induction count with
  | zero =>
    exact ⟨le_refl _, Or.inl rfl, fun i _ below => absurd below (Nat.not_lt_zero i),
      fun _ i _ below => absurd below (Nat.not_lt_zero i), fun nonzero => absurd rfl nonzero⟩
  | succ count ih =>
    obtain ⟨ordered, within, last, unset, first⟩ := ih
    unfold timScan
    generalize timScan pTim count = found at ordered within last unset first
    obtain ⟨timFirst, timLast⟩ := found
    simp only at ordered within last unset first ⊢
    by_cases zero : tim1B pTim count = 0
    · rw [if_pos zero]
      refine ⟨ordered, by omega, ?_, ?_, first⟩
      · intro i above below
        rcases Nat.lt_succ_iff_lt_or_eq.mp below with earlier | rfl
        · exact last i above earlier
        · exact zero
      · intro none_yet i positive below
        rcases Nat.lt_succ_iff_lt_or_eq.mp below with earlier | rfl
        · exact unset none_yet i positive earlier
        · exact zero
    · rw [if_neg zero]
      refine ⟨?_, Or.inr (Nat.lt_succ_self count), by simp only; omega, ?_, ?_⟩
      · simp only
        split <;> omega
      · simp only
        intro none_yet i positive below
        split at none_yet
        next => omega
        next known => exact absurd none_yet known
      · simp only
        split
        next none_yet => exact fun _ => ⟨zero, fun i positive below => unset none_yet i positive below⟩
        next known => exact fun _ => first known

section Span
variable (pTim : TimBitmaps)

theorem timLast_lt : timLast pTim < wlanMaxNumOfTim := by
  rcases (timScan_scanned pTim wlanMaxNumOfTim).within with zero | below
  · rw [timLast, zero]
    decide
  · exact below

theorem timFirst_even : timFirst pTim % 2 = 0 := by
  unfold timFirst
  simp only
  split <;> omega

theorem timFirst_le_timLast : timFirst pTim ≤ timLast pTim := by
  have ordered := (timScan_scanned pTim wlanMaxNumOfTim).ordered
  unfold timFirst timLast
  simp only
  split <;> omega

theorem tim1B_above {i : Nat} (above : timLast pTim < i) : tim1B pTim i = 0 := by
  by_cases inside : i < wlanMaxNumOfTim
  · exact (timScan_scanned pTim wlanMaxNumOfTim).last i above inside
  · have later : i ≠ 0 := by omega
    rw [tim1B, if_neg later, timByte, dif_neg inside]

theorem tim1B_below {i : Nat} (positive : 0 < i) (below : i < timFirst pTim) :
    tim1B pTim i = 0 := by
  have scanned := timScan_scanned pTim wlanMaxNumOfTim
  have under : i < (timScan pTim wlanMaxNumOfTim).1 := by
    refine lt_of_lt_of_le below ?_
    unfold timFirst
    simp only
    split <;> omega
  exact (scanned.first (by omega)).2 i positive under

/-- The search misses the first byte exactly when it has stations, the second has none and a
later one has: the first place then stands for "none yet". -/
def FirstByteKept : Prop :=
  tim1B pTim 0 = 0 ∨ tim1B pTim 1 ≠ 0 ∨ ∀ i, 2 ≤ i → tim1B pTim i = 0

theorem timFirst_pos_iff :
    0 < timFirst pTim ↔ tim1B pTim 1 = 0 ∧ ∃ i, 2 ≤ i ∧ tim1B pTim i ≠ 0 := by
  have scanned := timScan_scanned pTim wlanMaxNumOfTim
  unfold timFirst
  generalize timScan pTim wlanMaxNumOfTim = found at scanned
  simp only
  constructor
  · intro positive
    have later : 2 ≤ found.1 := by
      split at positive <;> omega
    obtain ⟨nonzero, least⟩ := scanned.first (by omega)
    exact ⟨least 1 Nat.one_pos later, found.1, later, nonzero⟩
  · rintro ⟨second, i, later, nonzero⟩
    have known : found.1 ≠ 0 := by
      intro none_yet
      by_cases inside : i < wlanMaxNumOfTim
      · exact nonzero (scanned.unset none_yet i (by omega) inside)
      · rw [tim1B, if_neg (by omega), timByte, dif_neg inside] at nonzero
        exact nonzero rfl
    have apart : found.1 ≠ 1 := by
      intro one
      exact (scanned.first known).1 (one ▸ second)
    split <;> omega

end Span

/-- The bit of a station stands in its byte as the search sees it. -/
theorem bit_eq_tim1B (pTim : TimBitmaps) (aid : Nat) (station : 0 < aid) :
    pTim.bit aid = (tim1B pTim (aid / 8)).getLsbD (aid % 8) := by
  have whole : pTim.bit aid = (timByte pTim (aid / 8)).getLsbD (aid % 8) := by
    unfold TimBitmaps.bit timByte
    split <;> simp
  rw [whole, tim1B]
  split
  next first =>
    have masked : ∀ i : Fin 8, i.val ≠ 0 → (0xfe#8).getLsbD i = true := by decide
    have small : aid % 8 < 8 := Nat.mod_lt _ (by decide)
    have shown : (0xfe#8).getLsbD (aid % 8) = true := masked ⟨aid % 8, small⟩ (by simp only; omega)
    rw [first, BitVec.getLsbD_and]
    exact (Bool.and_eq_left_iff_imp.mpr fun _ => shown).symm
  next => rfl

section Element
variable (pTim : TimBitmaps) (dtimCount dtimPeriod : BitVec 8) (ptr : Nat) (frame : BeaconFrame)

theorem copyTim_inside (first : Nat) {count i : Nat} (inside : i < count) :
    copyTim pTim ptr first count frame (ptr + 5 + i) = timByte pTim (first + i) := by
  induction count with
  | zero => exact absurd inside (Nat.not_lt_zero i)
  | succ count ih =>
    unfold copyTim
    by_cases here : i = count
    · rw [here, Function.update_self]
    · rw [Function.update_of_ne (by omega)]
      exact ih (by omega)

theorem copyTim_outside (first : Nat) {count address : Nat}
    (outside : address < ptr + 5 ∨ ptr + 5 + count ≤ address) :
    copyTim pTim ptr first count frame address = frame address := by
  induction count with
  | zero => rfl
  | succ count ih =>
    unfold copyTim
    rw [Function.update_of_ne (by omega)]
    exact ih (by omega)

/-- `*(ptr + 4)` at the end. -/
def bitmapControl : BitVec 8 :=
  BitVec.ofNat 8 (timFirst pTim) ||| if dtimCount = 0 then timByte pTim 0 &&& 0x01 else 0

theorem fillTim_control :
    fillTim pTim dtimCount dtimPeriod ptr frame (ptr + 4) = bitmapControl pTim dtimCount := by
  unfold fillTim bitmapControl
  split
  next =>
    rw [Function.update_self, copyTim_outside _ _ _ _ (by omega), Function.update_self]
  next =>
    rw [copyTim_outside _ _ _ _ (by omega), Function.update_self]
    simp

theorem fillTim_length :
    fillTim pTim dtimCount dtimPeriod ptr frame (ptr + 1) =
      BitVec.ofNat 8 (3 + (timLast pTim - timFirst pTim + 1)) := by
  unfold fillTim
  split
  all_goals
    simp only [Function.update_of_ne (show ptr + 1 ≠ ptr + 4 by omega),
      copyTim_outside pTim ptr _ (timFirst pTim) (Or.inl (show ptr + 1 < ptr + 5 by omega)),
      Function.update_self]

theorem fillTim_bitmap {i : Nat} (inside : i < timLast pTim + 1 - timFirst pTim) :
    fillTim pTim dtimCount dtimPeriod ptr frame (ptr + 5 + i) =
      timByte pTim (timFirst pTim + i) := by
  unfold fillTim
  split
  next =>
    rw [Function.update_of_ne (by omega)]
    exact copyTim_inside pTim ptr _ _ inside
  next => exact copyTim_inside pTim ptr _ _ inside

theorem fillTim_outside {address : Nat}
    (outside : address < ptr ∨ ptr + 5 + (timLast pTim + 1 - timFirst pTim) ≤ address) :
    fillTim pTim dtimCount dtimPeriod ptr frame address = frame address := by
  unfold fillTim
  split
  next =>
    rw [Function.update_of_ne (by omega), copyTim_outside _ _ _ _ (by omega)]
    simp only [Function.update_apply]
    rw [if_neg (by omega), if_neg (by omega), if_neg (by omega), if_neg (by omega),
      if_neg (by omega)]
  next =>
    rw [copyTim_outside _ _ _ _ (by omega)]
    simp only [Function.update_apply]
    rw [if_neg (by omega), if_neg (by omega), if_neg (by omega), if_neg (by omega),
      if_neg (by omega)]

/-- What stands in the element does not depend on what stood there. -/
theorem fillTim_inside (other : BeaconFrame) {address : Nat} (above : ptr ≤ address)
    (below : address < ptr + 5 + (timLast pTim + 1 - timFirst pTim)) :
    fillTim pTim dtimCount dtimPeriod ptr frame address =
      fillTim pTim dtimCount dtimPeriod ptr other address := by
  by_cases control : address = ptr + 4
  · rw [control, fillTim_control, fillTim_control]
  by_cases bitmap : ptr + 5 ≤ address
  · obtain ⟨i, rfl⟩ := Nat.exists_eq_add_of_le bitmap
    rw [fillTim_bitmap _ _ _ _ _ (by omega), fillTim_bitmap _ _ _ _ _ (by omega)]
  · have head : ∀ start : BeaconFrame, copyTim pTim ptr (timFirst pTim)
        (timLast pTim + 1 - timFirst pTim) start address = start address :=
      fun start => copyTim_outside _ _ _ _ (by omega)
    unfold fillTim
    split
    all_goals
      simp only [Function.update_apply, head, control, ↓reduceIte]
      split_ifs <;> first | rfl | omega

end Element

/-- Made even, the first byte comes back from the control byte whatever the group bit is. -/
theorem bitmapControl_masked (pTim : TimBitmaps) (dtimCount : BitVec 8) :
    (bitmapControl pTim dtimCount &&& 0xfe).toNat = timFirst pTim := by
  have ordered := timFirst_le_timLast pTim
  have below := timLast_lt pTim
  have even := timFirst_even pTim
  simp only [wlanMaxNumOfTim] at below
  obtain ⟨half, first⟩ : ∃ half : Fin 8, timFirst pTim = 2 * half.val :=
    ⟨⟨timFirst pTim / 2, by omega⟩, by simp only; omega⟩
  have values : ∀ half : Fin 8, ∀ group : Fin 2,
      ((BitVec.ofNat 8 (2 * half.val) ||| BitVec.ofNat 8 group.val) &&& 0xfe).toNat =
        2 * half.val := by decide
  have group : ∃ group : Fin 2,
      (if dtimCount = 0 then timByte pTim 0 &&& 0x01 else 0) = BitVec.ofNat 8 group.val := by
    split
    next =>
      have bit : ∀ byte : BitVec 8, byte &&& 0x01 = 0 ∨ byte &&& 0x01 = 1 := by
        intro byte
        rcases Nat.mod_two_eq_zero_or_one byte.toNat with zero | one
        · left
          apply BitVec.eq_of_toNat_eq
          simp [zero]
        · right
          apply BitVec.eq_of_toNat_eq
          simp [one]
      rcases bit (timByte pTim 0) with zero | one
      · exact ⟨0, zero⟩
      · exact ⟨1, one⟩
    next => exact ⟨0, rfl⟩
  obtain ⟨group, low⟩ := group
  rw [bitmapControl, first, low]
  exact values half group

/-- The group bit is the lowest of the control byte. -/
theorem bitmapControl_group (pTim : TimBitmaps) (dtimCount : BitVec 8)
    (group : (bitmapControl pTim dtimCount).getLsbD 0 = true) : dtimCount = 0 := by
  by_contra between
  have even := timFirst_even pTim
  have low : (BitVec.ofNat 8 (timFirst pTim)).getLsbD 0 = true := by
    rw [bitmapControl, if_neg between, BitVec.getLsbD_or] at group
    simpa using group
  rw [BitVec.getLsbD_ofNat, Nat.testBit_zero] at low
  simp [even] at low

section Read
variable (pTim : TimBitmaps) (dtimCount dtimPeriod : BitVec 8) (ptr : Nat) (frame : BeaconFrame)

theorem bitmapOffset_fillTim :
    bitmapOffset (fillTim pTim dtimCount dtimPeriod ptr frame) ptr = timFirst pTim := by
  rw [bitmapOffset, fillTim_control, bitmapControl_masked]

theorem length_fillTim :
    (fillTim pTim dtimCount dtimPeriod ptr frame (ptr + 1)).toNat =
      3 + (timLast pTim + 1 - timFirst pTim) := by
  have ordered := timFirst_le_timLast pTim
  have below := timLast_lt pTim
  simp only [wlanMaxNumOfTim] at below
  rw [fillTim_length, BitVec.toNat_ofNat]
  omega

/-- The stations that the element names are those whose byte is between the two ends of the
search and whose bit is set. -/
theorem names_fillTim (aid : Nat) (station : 0 < aid) :
    Names (fillTim pTim dtimCount dtimPeriod ptr frame) ptr aid ↔
      timFirst pTim ≤ aid / 8 ∧ pTim.bit aid = true := by
  have below := timLast_lt pTim
  have ordered := timFirst_le_timLast pTim
  unfold Names bitmapLength
  rw [bitmapOffset_fillTim, length_fillTim]
  by_cases first : timFirst pTim ≤ aid / 8
  · by_cases last : aid / 8 ≤ timLast pTim
    · have inside : aid / 8 - timFirst pTim < timLast pTim + 1 - timFirst pTim := by omega
      have place : timFirst pTim + (aid / 8 - timFirst pTim) = aid / 8 := by omega
      have within : aid / 8 < wlanMaxNumOfTim := by omega
      rw [fillTim_bitmap _ _ _ _ _ inside, place]
      have shown : aid / 8 < timFirst pTim + (3 + (timLast pTim + 1 - timFirst pTim) - 3) := by
        omega
      simp only [first, shown, true_and, timByte, TimBitmaps.bit, within, ↓reduceDIte]
    · rw [bit_eq_tim1B pTim aid station, tim1B_above pTim (by omega)]
      constructor
      · rintro ⟨-, short, -⟩
        omega
      · rintro ⟨-, unset⟩
        simp at unset
  · constructor
    · exact fun named => absurd named.1 first
    · exact fun named => absurd named.1 first

end Read

/-- What a beacon promises with its TIM element, written by `build` into a frame at `ptr`. -/
structure TimPromise (pTim : TimBitmaps) (dtimCount : BitVec 8) (ptr : Nat)
    (build : BeaconFrame → BeaconFrame) : Prop where
  /-- The stations named are those of the bitmap. -/
  named : ∀ frame aid, 0 < aid → (Names (build frame) ptr aid ↔ pTim.bit aid = true)
  /-- The bytes that the element announces are the ones that have been written. -/
  announced : ∀ frame address,
    (∀ before after, build before address = build after address) ↔
      ptr ≤ address ∧ address < ptr + 2 + (build frame (ptr + 1)).toNat
  /-- The group bit is up in a DTIM beacon only. -/
  group : ∀ frame, (build frame (ptr + 4)).getLsbD 0 = true → dtimCount = 0

theorem fillTim_announced (pTim : TimBitmaps) (dtimCount dtimPeriod : BitVec 8) (ptr : Nat)
    (frame : BeaconFrame) (address : Nat) :
    (∀ before after, fillTim pTim dtimCount dtimPeriod ptr before address =
        fillTim pTim dtimCount dtimPeriod ptr after address) ↔
      ptr ≤ address ∧
        address < ptr + 2 + (fillTim pTim dtimCount dtimPeriod ptr frame (ptr + 1)).toNat := by
  rw [length_fillTim]
  constructor
  · intro written
    by_contra outside
    have differ := written (fun _ => 0) (fun _ => 1)
    rw [fillTim_outside _ _ _ _ _ (by omega), fillTim_outside _ _ _ _ _ (by omega)] at differ
    exact absurd differ (by decide)
  · rintro ⟨above, below⟩ before after
    exact fillTim_inside pTim dtimCount dtimPeriod ptr before after above (by omega)

theorem fillTim_promise_iff (pTim : TimBitmaps) (dtimCount dtimPeriod : BitVec 8) (ptr : Nat) :
    TimPromise pTim dtimCount ptr (fillTim pTim dtimCount dtimPeriod ptr) ↔
      FirstByteKept pTim := by
  have first_iff := timFirst_pos_iff pTim
  constructor
  · rintro ⟨named, -, -⟩
    by_contra lost
    simp only [FirstByteKept, not_or, not_forall, not_not] at lost
    obtain ⟨stations, second, i, later, nonzero⟩ := lost
    have missed : 0 < timFirst pTim := first_iff.mpr ⟨second, i, later, nonzero⟩
    obtain ⟨k, small, set⟩ : ∃ k, k < 8 ∧ (tim1B pTim 0).getLsbD k = true := by
      by_contra none_set
      apply stations
      apply BitVec.eq_of_getLsbD_eq
      intro k small
      simpa using fun set => none_set ⟨k, small, set⟩
    have station : 0 < k := by
      rcases Nat.eq_zero_or_pos k with rfl | positive
      · simp [tim1B] at set
      · exact positive
    have byte : k / 8 = 0 := by omega
    have bit : k % 8 = k := by omega
    have marked : pTim.bit k = true := by
      rw [bit_eq_tim1B pTim k station, byte, bit]
      exact set
    have shown := (named (fun _ => 0) k station).mpr marked
    rw [names_fillTim _ _ _ _ _ _ station, byte] at shown
    omega
  · intro kept
    refine ⟨?_, fillTim_announced pTim dtimCount dtimPeriod ptr, ?_⟩
    · intro frame aid station
      rw [names_fillTim _ _ _ _ _ _ station]
      refine ⟨And.right, fun marked => ⟨?_, marked⟩⟩
      by_contra before
      rw [bit_eq_tim1B pTim aid station] at marked
      rcases Nat.eq_zero_or_pos (aid / 8) with zero | positive
      · rw [zero] at marked before
        obtain ⟨second, i, later, nonzero⟩ := first_iff.mp (by omega)
        rcases kept with vacant | used | short
        · rw [vacant] at marked
          simp at marked
        · exact used second
        · exact nonzero (short i later)
      · rw [tim1B_below pTim positive (by omega)] at marked
        simp at marked
    · intro frame group
      rw [fillTim_control] at group
      exact bitmapControl_group pTim dtimCount group

/-- The element of either function is what it should be exactly when the search does not lose the
first byte of the bitmap. -/
theorem timElement_promise_iff (pTim : TimBitmaps) (dtimCount dtimPeriod : BitVec 8)
    (ptr frameLen : Nat) :
    (TimPromise pTim dtimCount ptr
          (fun frame => (apUpdateBeaconFrame pTim dtimCount dtimPeriod ptr frameLen frame).1) ∧
        TimPromise pTim dtimCount ptr
          (fun frame => (cfg80211drvUpdateTimIE pTim dtimCount dtimPeriod ptr frame).1)) ↔
      FirstByteKept pTim := by
  have either := fillTim_promise_iff pTim dtimCount dtimPeriod ptr
  exact ⟨fun both => either.mp both.1, fun kept => ⟨either.mpr kept, either.mpr kept⟩⟩

/-- Stations 1 and 16 have packets: the element starts behind the byte of the first. -/
def firstAndSixteenth : TimBitmaps := fun i => if i.val = 0 then 0x02 else if i.val = 2 then 1 else 0

theorem firstStation_lost :
    firstAndSixteenth.bit 1 = true ∧
      ¬ Names (apUpdateBeaconFrame firstAndSixteenth 1 3 0 0 fun _ => 0).1 0 1 ∧
      ¬ Names (cfg80211drvUpdateTimIE firstAndSixteenth 1 3 0 fun _ => 0).1 0 1 := by
  have lost : ¬ Names (fillTim firstAndSixteenth 1 3 0 fun _ => 0) 0 1 := by
    rw [names_fillTim _ _ _ _ _ _ Nat.one_pos]
    decide
  exact ⟨by decide, lost, lost⟩

end Mt7612u.Mlme

/-! `GetTimBit`: what a station reads of a TIM element. -/

namespace Mt7612u.Mlme
open Transmit (TimBitmaps)

/-- What `GetTimBit` returns, and which bytes of the frame it read, counted from the element. -/
structure TimBit where
  timLen : BitVec 8
  bcastFlag : Bool
  dtimCount : BitVec 8
  dtimPeriod : BitVec 8
  messageToMe : Bool
  reads : List Nat

/-- The last byte number of the bitmap, in eight bits. -/
def lastBitmapByte (timLen n1 : BitVec 8) : BitVec 8 := timLen - 4 + n1

/-- `MyByte`: the position in the bitmap. -/
def myByte (n1 : BitVec 8) (aid : BitVec 16) : BitVec 8 := (aid >>> 3).setWidth 8 - n1

/-- `MyBit`: the bit of the byte, from the parity of its position. -/
def myBit (n1 : BitVec 8) (aid : BitVec 16) : BitVec 8 :=
  (aid % 16).setWidth 8 - (if myByte n1 aid &&& 1 ≠ 0 then 8 else 0)

/-- `*IdxPtr & (0x01 << MyBit)`. -/
def testBit (byte myBit : BitVec 8) : Bool :=
  byte.signExtend 32 &&& (1#32 <<< myBit.toNat) ≠ 0

def getTimBit (frame : BeaconFrame) (ptr : Nat) (aid : BitVec 16) : TimBit :=
  let bitCntl := frame (ptr + 4)
  let n1 := bitCntl &&& 0xfe
  let n2 := lastBitmapByte (frame (ptr + 1)) n1
  let place := 4 + ((myByte n1 aid).toNat + 1)
  let header : TimBit := {
    timLen := frame (ptr + 1)
    dtimCount := frame (ptr + 2)
    dtimPeriod := frame (ptr + 3)
    bcastFlag := frame (ptr + 2) = 0 ∧ bitCntl &&& 0x01 ≠ 0
    messageToMe := false
    reads := [1, 2, 3, 4] }
  if aid.toNat < n1.toNat <<< 3 ∨ (n2.toNat + 1) <<< 3 ≤ aid.toNat then header
  else { header with
    messageToMe := testBit (frame (ptr + place)) (myBit n1 aid)
    reads := [1, 2, 3, 4, place] }

/-- Every byte read is one of the element. -/
def TimBit.Inside (verdict : TimBit) (timLen : BitVec 8) : Prop :=
  ∀ place ∈ verdict.reads, place < 2 + timLen.toNat

section Arithmetic
variable (frame : BeaconFrame) (ptr : Nat)

theorem bitmapOffset_even : bitmapOffset frame ptr % 2 = 0 := by
  have even : ∀ control : BitVec 8, (control &&& 0xfe).toNat % 2 = 0 := by decide
  exact even (frame (ptr + 4))

theorem bitmapOffset_le : bitmapOffset frame ptr ≤ 254 := by
  have even := bitmapOffset_even frame ptr
  have small : bitmapOffset frame ptr < 256 := (frame (ptr + 4) &&& 0xfe).isLt
  omega

theorem lastBitmapByte_toNat (timLen n1 : BitVec 8) :
    (lastBitmapByte timLen n1).toNat = (timLen.toNat + 252 + n1.toNat) % 256 := by
  have four : (4 : BitVec 8).toNat = 4 := by decide
  unfold lastBitmapByte
  rw [BitVec.toNat_add, BitVec.toNat_sub, four]
  omega

variable {n1 : BitVec 8} {aid : BitVec 16}

theorem myByte_toNat (station : aid.toNat < 2048) (from_first : n1.toNat * 8 ≤ aid.toNat) :
    (myByte n1 aid).toNat = aid.toNat / 8 - n1.toNat := by
  have octet : ((aid >>> 3).setWidth 8).toNat = aid.toNat / 8 := by
    rw [BitVec.toNat_setWidth, BitVec.toNat_ushiftRight, Nat.shiftRight_eq_div_pow]
    omega
  have reached : n1 ≤ (aid >>> 3).setWidth 8 := by
    rw [BitVec.le_def, octet]
    omega
  unfold myByte
  rw [BitVec.toNat_sub_of_le reached, octet]

/-- The first byte number is even, so the parity of the position is that of the octet. -/
theorem myBit_toNat (even : n1.toNat % 2 = 0) (station : aid.toNat < 2048)
    (from_first : n1.toNat * 8 ≤ aid.toNat) : (myBit n1 aid).toNat = aid.toNat % 8 := by
  have odd_iff : ∀ byte : BitVec 8, byte &&& 1 ≠ 0 ↔ byte.toNat % 2 = 1 := by decide
  have place := myByte_toNat station from_first
  have sixteen : (16 : BitVec 16).toNat = 16 := by decide
  have low : ((aid % 16).setWidth 8).toNat = aid.toNat % 16 := by
    rw [BitVec.toNat_setWidth, BitVec.toNat_umod, sixteen]
    omega
  unfold myBit
  by_cases odd : (myByte n1 aid).toNat % 2 = 1
  · have eight : (8 : BitVec 8).toNat = 8 := by decide
    rw [if_pos ((odd_iff _).mpr odd), BitVec.toNat_sub, low, eight]
    omega
  · have zero : (0 : BitVec 8).toNat = 0 := by decide
    rw [if_neg (fun set => odd ((odd_iff _).mp set)), BitVec.toNat_sub, low, zero]
    omega

theorem testBit_iff {byte bit : BitVec 8} (inByte : bit.toNat < 8) :
    testBit byte bit = true ↔ byte.getLsbD bit.toNat = true := by
  have one : (1#32 <<< bit.toNat : BitVec 32) = BitVec.twoPow 32 bit.toNat := rfl
  have nonzero : BitVec.twoPow 32 bit.toNat ≠ 0 := by
    intro zero
    have bits := congrArg (fun word => word.getLsbD bit.toNat) zero
    simp only [BitVec.getLsbD_twoPow] at bits
    simp at bits
    omega
  have extended : (byte.signExtend 32).getLsbD bit.toNat = byte.getLsbD bit.toNat := by
    rw [BitVec.getLsbD_signExtend, if_pos inByte]
    simp only [Bool.and_eq_right_iff_imp, decide_eq_true_eq]
    omega
  unfold testBit
  rw [decide_eq_true_eq, one, BitVec.and_twoPow, extended]
  cases byte.getLsbD bit.toNat with
  | true => simpa using nonzero
  | false => simp

end Arithmetic

section Verdict
variable (frame : BeaconFrame) (ptr : Nat) (aid : BitVec 16)

/-- The range check of `GetTimBit` lets the identifier through. -/
def InRange : Prop :=
  bitmapOffset frame ptr * 8 ≤ aid.toNat ∧
    aid.toNat < (((frame (ptr + 1)).toNat + 252 + bitmapOffset frame ptr) % 256 + 1) * 8

theorem inRange_iff : ¬(aid.toNat < (frame (ptr + 4) &&& 0xfe).toNat <<< 3 ∨
    ((lastBitmapByte (frame (ptr + 1)) (frame (ptr + 4) &&& 0xfe)).toNat + 1) <<< 3 ≤ aid.toNat) ↔
      InRange frame ptr aid := by
  rw [lastBitmapByte_toNat, Nat.shiftLeft_eq, Nat.shiftLeft_eq, not_or, Nat.not_lt, Nat.not_le]
  rfl

variable {frame ptr aid}

theorem getTimBit_outside (outside : ¬InRange frame ptr aid) :
    (getTimBit frame ptr aid).messageToMe = false ∧
      (getTimBit frame ptr aid).reads = [1, 2, 3, 4] := by
  rw [← inRange_iff, not_not] at outside
  unfold getTimBit
  simp only
  rw [if_pos outside]
  exact ⟨rfl, rfl⟩

theorem getTimBit_inside (station : aid.toNat ≤ 2007) (inside : InRange frame ptr aid) :
    ((getTimBit frame ptr aid).messageToMe = true ↔
        (frame (ptr + 5 + (aid.toNat / 8 - bitmapOffset frame ptr))).getLsbD (aid.toNat % 8) =
          true) ∧
      (getTimBit frame ptr aid).reads =
        [1, 2, 3, 4, 5 + (aid.toNat / 8 - bitmapOffset frame ptr)] := by
  have small : aid.toNat < 2048 := by omega
  have place : (myByte (frame (ptr + 4) &&& 0xfe) aid).toNat =
      aid.toNat / 8 - bitmapOffset frame ptr := myByte_toNat small inside.1
  have bit : (myBit (frame (ptr + 4) &&& 0xfe) aid).toNat = aid.toNat % 8 :=
    myBit_toNat (bitmapOffset_even frame ptr) small inside.1
  have address : 4 + (aid.toNat / 8 - bitmapOffset frame ptr + 1) =
      5 + (aid.toNat / 8 - bitmapOffset frame ptr) := by omega
  have through := (inRange_iff frame ptr aid).mpr inside
  unfold getTimBit
  simp only
  rw [if_neg through, place, address, ← Nat.add_assoc]
  constructor
  · simp only
    rw [testBit_iff (by rw [bit]; omega), bit]
  · rfl

/-- With a bitmap that ends at byte 255 or before, the range check is the rule's. -/
theorem inRange_iff_named (long : 4 ≤ (frame (ptr + 1)).toNat)
    (fits : bitmapOffset frame ptr + (frame (ptr + 1)).toNat ≤ 259) :
    InRange frame ptr aid ↔ bitmapOffset frame ptr ≤ aid.toNat / 8 ∧
      aid.toNat / 8 < bitmapOffset frame ptr + bitmapLength frame ptr := by
  unfold InRange bitmapLength
  omega

theorem not_inRange_wrapped (wraps : 259 < bitmapOffset frame ptr + (frame (ptr + 1)).toNat) :
    ¬InRange frame ptr aid := by
  have first := bitmapOffset_le frame ptr
  have small := (frame (ptr + 1)).isLt
  unfold InRange
  omega

theorem not_names_short (short : (frame (ptr + 1)).toNat ≤ 3) : ¬Names frame ptr aid.toNat := by
  intro names
  have within := names.2.1
  unfold bitmapLength at within
  have reached := names.1
  omega

/-- `GetTimBit` stays in the element and follows the rule exactly when the element has a bitmap
control and does not end before its bitmap starts at byte 0, and its last byte number fits eight
bits or the identifier is not named in it. -/
theorem getTimBit_exact_iff (station : aid.toNat ≤ 2007) :
    ((getTimBit frame ptr aid).Inside (frame (ptr + 1)) ∧
      ((getTimBit frame ptr aid).messageToMe = true ↔ Names frame ptr aid.toNat)) ↔
      3 ≤ (frame (ptr + 1)).toNat ∧
        ((frame (ptr + 1)).toNat = 3 → bitmapOffset frame ptr ≠ 0) ∧
        (bitmapOffset frame ptr + (frame (ptr + 1)).toNat ≤ 259 ∨
          ¬Names frame ptr aid.toNat) := by
  have first := bitmapOffset_le frame ptr
  have header : 4 ∈ (getTimBit frame ptr aid).reads := by
    by_cases inside : InRange frame ptr aid
    · rw [(getTimBit_inside station inside).2]
      simp
    · rw [(getTimBit_outside inside).2]
      simp
  rcases Nat.lt_or_ge (frame (ptr + 1)).toNat 3 with short | long
  · -- without a bitmap control the byte after the element is taken for it
    apply iff_of_false
    · intro right
      have read := right.1 4 header
      omega
    · intro condition
      omega
  rcases Nat.lt_or_ge 3 (frame (ptr + 1)).toNat with bitmap | none
  · by_cases fits : bitmapOffset frame ptr + (frame (ptr + 1)).toNat ≤ 259
    · apply iff_of_true
      · have range := @inRange_iff_named frame ptr aid bitmap fits
        by_cases inside : InRange frame ptr aid
        · obtain ⟨verdict, reads⟩ := getTimBit_inside station inside
          have named := range.mp inside
          constructor
          · intro place found
            rw [reads] at found
            have within := named.2
            unfold bitmapLength at within
            simp only [List.mem_cons, List.not_mem_nil, or_false] at found
            omega
          · rw [verdict]
            exact ⟨fun set => ⟨named.1, named.2, set⟩, fun names => names.2.2⟩
        · obtain ⟨verdict, reads⟩ := getTimBit_outside inside
          constructor
          · intro place found
            rw [reads] at found
            simp only [List.mem_cons, List.not_mem_nil, or_false] at found
            omega
          · rw [verdict]
            exact ⟨fun set => absurd set Bool.false_ne_true,
              fun names => absurd (range.mpr ⟨names.1, names.2.1⟩) inside⟩
      · exact ⟨by omega, by omega, Or.inl fits⟩
    · -- the last byte number wraps below the first one, and nobody is named
      have outside : ¬InRange frame ptr aid := not_inRange_wrapped (by omega)
      obtain ⟨verdict, reads⟩ := getTimBit_outside outside
      rw [verdict]
      constructor
      · intro right
        exact ⟨by omega, by omega, Or.inr fun names => Bool.false_ne_true (right.2.mpr names)⟩
      · intro condition
        have unnamed := condition.2.2.resolve_left fits
        constructor
        · intro place found
          rw [reads] at found
          simp only [List.mem_cons, List.not_mem_nil, or_false] at found
          omega
        · exact ⟨fun set => absurd set Bool.false_ne_true, fun names => absurd names unnamed⟩
  · have three : (frame (ptr + 1)).toNat = 3 := by omega
    have unnamed : ¬Names frame ptr aid.toNat := not_names_short none
    by_cases zero : bitmapOffset frame ptr = 0
    · -- the last byte number wraps to 255, and the bit is read behind the element
      apply iff_of_false
      · intro right
        have inside : InRange frame ptr aid := by
          unfold InRange
          omega
        have reads := (getTimBit_inside station inside).2
        have read := right.1 (5 + (aid.toNat / 8 - bitmapOffset frame ptr)) (by rw [reads]; simp)
        omega
      · intro condition
        exact condition.2.1 three zero
    · apply iff_of_true
      · have outside : ¬InRange frame ptr aid := by
          have even := bitmapOffset_even frame ptr
          unfold InRange
          omega
        obtain ⟨verdict, reads⟩ := getTimBit_outside outside
        constructor
        · intro place found
          rw [reads] at found
          simp only [List.mem_cons, List.not_mem_nil, or_false] at found
          omega
        · rw [verdict]
          exact ⟨fun set => absurd set Bool.false_ne_true, fun names => absurd names unnamed⟩
      · exact ⟨by omega, fun _ => zero, Or.inr unnamed⟩

end Verdict

/-- An element that ends after its bitmap control, and a byte behind it. -/
def emptyBitmap : BeaconFrame
  | 0 => 5
  | 1 => 3
  | 3 => 1
  | 5 => 0xff
  | _ => 0

theorem getTimBit_exact_emptyBitmap : (1 : BitVec 16).toNat ≤ 2007 ∧
    (((getTimBit emptyBitmap 0 1).Inside (emptyBitmap 1) ∧
      ((getTimBit emptyBitmap 0 1).messageToMe = true ↔
        Names emptyBitmap 0 (1 : BitVec 16).toNat)) ↔
      3 ≤ (emptyBitmap 1).toNat ∧
        ((emptyBitmap 1).toNat = 3 → bitmapOffset emptyBitmap 0 ≠ 0) ∧
        (bitmapOffset emptyBitmap 0 + (emptyBitmap 1).toNat ≤ 259 ∨
          ¬Names emptyBitmap 0 (1 : BitVec 16).toNat)) :=
  ⟨by decide, getTimBit_exact_iff (by decide)⟩

theorem not_getTimBit_exact :
    ¬∀ (frame : BeaconFrame) (ptr : Nat) (aid : BitVec 16), 1 ≤ aid.toNat → aid.toNat ≤ 2007 →
      (getTimBit frame ptr aid).Inside (frame (ptr + 1)) ∧
        ((getTimBit frame ptr aid).messageToMe = true ↔ Names frame ptr aid.toNat) := by
  intro always
  have read := (always emptyBitmap 0 1 (by decide) (by decide)).1 5 (by decide)
  exact absurd read (by decide)

end Mt7612u.Mlme
