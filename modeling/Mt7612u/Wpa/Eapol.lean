import Mt7612u.Library.ByteNumber
import Mt7612u.Receive.Memory

/-! `EAPOL_PACKET`: the fields of an EAPOL-Key frame in the order in which they stand in it, and the
order of its replay counters. -/

namespace Mt7612u.Wpa
open Library
open Receive (Memory)

/-- An array of so many bytes. -/
abbrev Bytes (count : Nat) := { bytes : List UInt8 // bytes.length = count }

theorem length_filled (count : Nat) (bytes : List UInt8) :
    ((bytes ++ List.replicate count 0).take count).length = count := by
  rw [List.length_take, List.length_append, List.length_replicate]
  omega

/-- Bytes moved to an array that was zero before. -/
def Bytes.ofList (count : Nat) (bytes : List UInt8) : Bytes count :=
  ⟨(bytes ++ List.replicate count 0).take count, length_filled count bytes⟩

def Bytes.zero (count : Nat) : Bytes count := Bytes.ofList count []

theorem Bytes.val_zero (count : Nat) : (Bytes.zero count).val = List.replicate count 0 := by
  change (List.replicate count 0).take count = List.replicate count 0
  rw [List.take_of_length_le List.length_replicate.le]

/-- `count` bytes from `start` on. -/
def Bytes.slice {size : Nat} (bytes : Bytes size) (start count : Nat) : List UInt8 :=
  (bytes.val.drop start).take count

def minLenOfEapolKeyMsg : Nat := 95
def lengthEapolH : Nat := 4

/-- `MAX_LEN_OF_RSNIE`, the size of `KEYDATA`. -/
def maxLenOfRsnie : Nat := 255
def maxLenGtk : Nat := 32

def lenPtkKck : Nat := 16
def lenPtkKek : Nat := 16
def lenTk : Nat := 16
def lenTkipMic : Nat := 8
def lenPtk : Nat := 64
def lenTkipGtk : Nat := 32
def lenAesGtk : Nat := 16
def lenTkipTk : Nat := 32
def lenAesTk : Nat := 16

def eapolVer : UInt8 := 1
def eapolVer2 : UInt8 := 2
def eapolKey : UInt8 := 3
def wpa1KeyDesc : UInt8 := 0xfe
def wpa2KeyDesc : UInt8 := 0x02

def keyDescTkip : BitVec 3 := 1
def keyDescAes : BitVec 3 := 2
def keyDescExt : BitVec 3 := 3

/-- `KEY_INFO`. -/
structure KeyInfo where
  keyMic : Bool
  secure : Bool
  error : Bool
  request : Bool
  ekdDl : Bool
  rsvd : BitVec 3
  keyDescVer : BitVec 3
  /-- `KeyType == PAIRWISEKEY`. -/
  pairwise : Bool
  keyIndex : BitVec 2
  install : Bool
  keyAck : Bool
  deriving DecidableEq

def KeyInfo.bytes (info : KeyInfo) : List UInt8 :=
  [UInt8.ofNat (info.keyMic.toNat + 2 * info.secure.toNat + 4 * info.error.toNat +
      8 * info.request.toNat + 16 * info.ekdDl.toNat + 32 * info.rsvd.toNat),
    UInt8.ofNat (info.keyDescVer.toNat + 8 * info.pairwise.toNat + 16 * info.keyIndex.toNat +
      64 * info.install.toNat + 128 * info.keyAck.toNat)]

/-- `SET_UINT16_TO_ARRARY`. -/
def uint16Bytes (value : BitVec 16) : List UInt8 :=
  [UInt8.ofNat (value.toNat / 256), UInt8.ofNat value.toNat]

/-- `EAPOL_PACKET` with its `KEY_DESCRIPTER`; `keyData` is all that lies behind the fixed fields. -/
structure EapolPacket where
  proVer : UInt8
  proType : UInt8
  bodyLen : BitVec 16
  type : UInt8
  keyInfo : KeyInfo
  keyLength : Bytes 2
  replayCounter : Bytes 8
  keyNonce : Bytes 32
  keyIv : Bytes 16
  keyRsc : Bytes 8
  keyId : Bytes 8
  keyMic : Bytes 16
  keyDataLen : BitVec 16
  keyData : Memory

namespace EapolPacket

/-- The fields in front of the key data. -/
def header (p : EapolPacket) : List UInt8 :=
  [p.proVer, p.proType] ++ uint16Bytes p.bodyLen ++ [p.type] ++ p.keyInfo.bytes ++
    p.keyLength.val ++ p.replayCounter.val ++ p.keyNonce.val ++ p.keyIv.val ++ p.keyRsc.val ++
    p.keyId.val ++ p.keyMic.val ++ uint16Bytes p.keyDataLen

theorem length_header (p : EapolPacket) :
    p.header.length = lengthEapolH + minLenOfEapolKeyMsg := by
  simp only [header, List.length_append, p.keyLength.property, p.replayCounter.property,
    p.keyNonce.property, p.keyIv.property, p.keyRsc.property, p.keyId.property, p.keyMic.property,
    KeyInfo.bytes, uint16Bytes, List.length_cons, List.length_nil]
  rfl

/-- The first bytes of the packet. -/
def bytes (p : EapolPacket) (count : Nat) : List UInt8 :=
  (p.header ++ p.keyData.bytes 0 count).take count

/-- `CONV_ARRARY_TO_UINT16(Body_Len) + 4`. -/
def eapolLen (p : EapolPacket) : Nat := p.bodyLen.toNat + lengthEapolH

/-- What the MIC is over: the packet with zeros in the place of the MIC. -/
def micText (p : EapolPacket) : List UInt8 :=
  { p with keyMic := Bytes.zero 16 }.bytes p.eapolLen

end EapolPacket

/-- `EAPOL_PAIR_MSG_1` to `EAPOL_GROUP_MSG_2`. -/
inductive MsgType where
  | pairMsg1
  | pairMsg2
  | pairMsg3
  | pairMsg4
  | groupMsg1
  | groupMsg2
  deriving DecidableEq, Repr

def MsgType.toNat : MsgType → Nat
  | pairMsg1 => 1
  | pairMsg2 => 2
  | pairMsg3 => 3
  | pairMsg4 => 4
  | groupMsg1 => 5
  | groupMsg2 => 6

/-- The three messages that go to the supplicant. -/
def MsgType.toSupplicant : MsgType → Bool
  | pairMsg1 | pairMsg3 | groupMsg1 => true
  | pairMsg2 | pairMsg4 | groupMsg2 => false

/-- `RTMPCompareMemory`: 0 for equal blocks, 1 where the first one is larger, 2 where it is
smaller. -/
def rtmpCompareMemory : List UInt8 → List UInt8 → Nat
  | x :: xs, y :: ys => if y < x then 1 else if x < y then 2 else rtmpCompareMemory xs ys
  | _, _ => 0

namespace Counter

/-- A replay counter as a number. -/
def value (counter : Bytes 8) : Nat := ByteNumber.value counter.val

theorem value_lt (counter : Bytes 8) : value counter < 2 ^ 64 := by
  have bound := ByteNumber.value_lt counter.val
  rw [counter.property] at bound
  exact bound

theorem value_injective : Function.Injective value := by
  intro first second same
  exact Subtype.ext (ByteNumber.value_inj (first.property.trans second.property.symm) same)

@[simp] theorem value_zero : value (Bytes.zero 8) = 0 := by
  rw [value, Bytes.val_zero, ByteNumber.value_replicate_zero]

theorem length_addOne (counter : Bytes 8) :
    (ByteNumber.addOne counter.val.reverse).reverse.length = 8 := by
  rw [List.length_reverse, ByteNumber.length_addOne, List.length_reverse, counter.property]

/-- `ADD_ONE_To_64BIT_VAR`. -/
def addOne (counter : Bytes 8) : Bytes 8 :=
  ⟨(ByteNumber.addOne counter.val.reverse).reverse, length_addOne counter⟩

theorem value_addOne (counter : Bytes 8) :
    value (addOne counter) = (value counter + 1) % 2 ^ 64 := by
  have sum := ByteNumber.value_addOne counter.val.reverse
  rw [List.reverse_reverse, List.length_reverse, counter.property] at sum
  exact sum

theorem value_addOne_of_lt {counter : Bytes 8} (room : value counter + 1 < 2 ^ 64) :
    value (addOne counter) = value counter + 1 := by
  rw [value_addOne, Nat.mod_eq_of_lt room]

end Counter

/-- Comparing the bytes is comparing the numbers. -/
theorem rtmpCompareMemory_eq_one {first second : List UInt8}
    (length : first.length = second.length) :
    rtmpCompareMemory first second = 1 ↔ ByteNumber.value second < ByteNumber.value first := by
  induction first generalizing second with
  | nil =>
    obtain rfl := List.length_eq_zero_iff.mp length.symm
    decide
  | cons x xs ih =>
    cases second with
    | nil => cases length
    | cons y ys =>
      have lengths : xs.length = ys.length := Nat.succ.inj length
      rw [rtmpCompareMemory]
      split_ifs with larger smaller
      · exact iff_of_true rfl (ByteNumber.value_cons_lt lengths.symm larger)
      · exact iff_of_false (by decide) (ByteNumber.value_cons_lt lengths smaller).not_gt
      · obtain rfl : x = y :=
          UInt8.toNat_inj.mp (Nat.le_antisymm (not_lt.mp larger) (not_lt.mp smaller))
        rw [ih lengths, ByteNumber.value_cons, ByteNumber.value_cons, lengths]
        exact (Nat.add_lt_add_iff_left).symm

theorem rtmpCompareMemory_eq_zero {first second : List UInt8}
    (length : first.length = second.length) :
    rtmpCompareMemory first second = 0 ↔ first = second := by
  induction first generalizing second with
  | nil =>
    obtain rfl := List.length_eq_zero_iff.mp length.symm
    decide
  | cons x xs ih =>
    cases second with
    | nil => cases length
    | cons y ys =>
      rw [rtmpCompareMemory]
      split_ifs with larger smaller
      · apply iff_of_false (by decide)
        intro same
        rw [(List.cons.inj same).1] at larger
        exact Nat.lt_irrefl _ larger
      · apply iff_of_false (by decide)
        intro same
        rw [(List.cons.inj same).1] at smaller
        exact Nat.lt_irrefl _ smaller
      · obtain rfl : x = y :=
          UInt8.toNat_inj.mp (Nat.le_antisymm (not_lt.mp larger) (not_lt.mp smaller))
        rw [ih (Nat.succ.inj length), List.cons.injEq]
        exact (and_iff_right rfl).symm

end Mt7612u.Wpa
