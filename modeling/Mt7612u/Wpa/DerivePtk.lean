import Mt7612u.Mgmt.MacTable
import Mt7612u.Wpa.Eapol

/-! `WpaDerivePTK` and `PRF`: the PTK is made of the two addresses and of the two nonces, each pair
in its order, so that both sides come to the same one. -/

namespace Mt7612u.Wpa
open Library
open Mgmt (MacAddr)

/-- `RT_HMAC_SHA1` with its whole digest. -/
abbrev HmacSha1 := List UInt8 → List UInt8 → Bytes 20

section Prf

/-- The loop of `PRF`: the last octet of the input goes up from digest to digest. -/
def prfLoop (hmacSha1 : HmacSha1) (key input : List UInt8) : Nat → UInt8 → List UInt8
  | 0, _ => []
  | count + 1, octet =>
    (hmacSha1 key (input ++ [octet])).val ++ prfLoop hmacSha1 key input count (octet + 1)

/-- `PRF`; `none` where nothing is written for want of memory. -/
def prf (hmacSha1 : HmacSha1) (memory : Bool) (key label data : List UInt8) (len : Nat) :
    Option (List UInt8) :=
  if memory then some (prfLoop hmacSha1 key (label ++ [0] ++ data) ((len + 19) / 20) 0) else none

/-- The function of IEEE 802.11i, before it is cut to its length: the digests of `A || 0 || B || i`. -/
def standardPrf (hmacSha1 : HmacSha1) (key label data : List UInt8) (len : Nat) : List UInt8 :=
  (List.range ((len + 19) / 20)).flatMap fun i =>
    (hmacSha1 key (label ++ [0] ++ data ++ [UInt8.ofNat i])).val

theorem prfLoop_eq (hmacSha1 : HmacSha1) (key input : List UInt8) (count start : Nat) :
    prfLoop hmacSha1 key input count (UInt8.ofNat start) =
      (List.range' start count).flatMap fun i => (hmacSha1 key (input ++ [UInt8.ofNat i])).val := by
  induction count generalizing start with
  | zero => rfl
  | succ count ih =>
    have next : UInt8.ofNat start + 1 = UInt8.ofNat (start + 1) := by
      rw [UInt8.ofNat_add]
      rfl
    rw [prfLoop, next, ih, List.range'_succ, List.flatMap_cons]

theorem prf_eq (hmacSha1 : HmacSha1) (key label data : List UInt8) (len : Nat) :
    prf hmacSha1 true key label data len = some (standardPrf hmacSha1 key label data len) := by
  rw [prf, if_pos rfl, standardPrf, List.range_eq_range']
  exact congrArg some (prfLoop_eq hmacSha1 key _ _ 0)

end Prf

section Ptk

/-- `"Pairwise key expansion"`. -/
def pairwiseKeyExpansion : List UInt8 :=
  "Pairwise key expansion".toList.map fun c => UInt8.ofNat c.toNat

/-- An address as it stands in memory. -/
def macBytes (addr : MacAddr) : List UInt8 := List.ofFn fun i => UInt8.ofBitVec (addr i)

@[simp] theorem length_macBytes (addr : MacAddr) : (macBytes addr).length = 6 := List.length_ofFn

/-- The first 12 bytes of `concatenation`. -/
def orderedAddresses (aa sa : MacAddr) : List UInt8 :=
  if rtmpCompareMemory (macBytes sa) (macBytes aa) = 1 then macBytes aa ++ macBytes sa
  else macBytes sa ++ macBytes aa

/-- `temp`: the larger address, with zeros behind it. -/
def addressNonce (aa sa : MacAddr) : List UInt8 :=
  (orderedAddresses aa sa).drop 6 ++ List.replicate 26 0

/-- The other 64 bytes. Equal nonces are both replaced, "patch for ralink proprietary STA-key
issue". -/
def orderedNonces (aNonce sNonce : Bytes 32) (temp : List UInt8) : List UInt8 :=
  (if rtmpCompareMemory aNonce.val sNonce.val = 0 then temp
    else if rtmpCompareMemory aNonce.val sNonce.val = 1 then sNonce.val
    else aNonce.val) ++
  (if rtmpCompareMemory aNonce.val sNonce.val = 0 then temp
    else if rtmpCompareMemory aNonce.val sNonce.val = 1 then aNonce.val
    else sNonce.val)

/-- `WpaDerivePTK`. -/
def wpaDerivePtk (hmacSha1 : HmacSha1) (memory : Bool) (pmk : Bytes 32) (aNonce : Bytes 32)
    (aa : MacAddr) (sNonce : Bytes 32) (sa : MacAddr) (len : Nat) : Option (List UInt8) :=
  prf hmacSha1 memory pmk.val pairwiseKeyExpansion
    (orderedAddresses aa sa ++ orderedNonces aNonce sNonce (addressNonce aa sa)) len

/-- The smaller and the larger of two byte strings as numbers, the first byte being the most
significant one. -/
def minBytes (first second : List UInt8) : List UInt8 :=
  if ByteNumber.value first ≤ ByteNumber.value second then first else second

def maxBytes (first second : List UInt8) : List UInt8 :=
  if ByteNumber.value first ≤ ByteNumber.value second then second else first

variable {first second : List UInt8}

theorem minBytes_comm (length : first.length = second.length) :
    minBytes first second = minBytes second first := by
  unfold minBytes
  split_ifs with below above above
  · exact ByteNumber.value_inj length (Nat.le_antisymm below above)
  · rfl
  · rfl
  · omega

theorem maxBytes_comm (length : first.length = second.length) :
    maxBytes first second = maxBytes second first := by
  unfold maxBytes
  split_ifs with below above above
  · exact (ByteNumber.value_inj length (Nat.le_antisymm below above)).symm
  · rfl
  · rfl
  · omega

theorem orderedAddresses_eq (aa sa : MacAddr) :
    orderedAddresses aa sa =
      minBytes (macBytes aa) (macBytes sa) ++ maxBytes (macBytes aa) (macBytes sa) := by
  have length : (macBytes sa).length = (macBytes aa).length := by
    rw [length_macBytes, length_macBytes]
  rw [minBytes_comm length.symm, maxBytes_comm length.symm]
  unfold orderedAddresses minBytes maxBytes
  simp only [rtmpCompareMemory_eq_one length]
  by_cases larger : ByteNumber.value (macBytes aa) < ByteNumber.value (macBytes sa)
  · rw [if_pos larger, if_neg (not_le.mpr larger), if_neg (not_le.mpr larger)]
  · rw [if_neg larger, if_pos (not_lt.mp larger), if_pos (not_lt.mp larger)]

theorem orderedAddresses_comm (aa sa : MacAddr) :
    orderedAddresses aa sa = orderedAddresses sa aa := by
  have length : (macBytes aa).length = (macBytes sa).length := by
    rw [length_macBytes, length_macBytes]
  rw [orderedAddresses_eq, orderedAddresses_eq, minBytes_comm length, maxBytes_comm length]

theorem orderedNonces_eq {aNonce sNonce : Bytes 32} (differ : aNonce ≠ sNonce)
    (temp : List UInt8) : orderedNonces aNonce sNonce temp =
      minBytes aNonce.val sNonce.val ++ maxBytes aNonce.val sNonce.val := by
  have length : aNonce.val.length = sNonce.val.length := aNonce.property.trans sNonce.property.symm
  have unequal : aNonce.val ≠ sNonce.val := fun same => differ (Subtype.ext same)
  have apart : ByteNumber.value aNonce.val ≠ ByteNumber.value sNonce.val :=
    fun same => unequal (ByteNumber.value_inj length same)
  unfold orderedNonces minBytes maxBytes
  simp only [rtmpCompareMemory_eq_zero length, rtmpCompareMemory_eq_one length, if_neg unequal]
  by_cases larger : ByteNumber.value sNonce.val < ByteNumber.value aNonce.val
  · rw [if_pos larger, if_pos larger, if_neg (not_le.mpr larger), if_neg (not_le.mpr larger)]
  · rw [if_neg larger, if_neg larger, if_pos (not_lt.mp larger), if_pos (not_lt.mp larger)]

theorem orderedNonces_comm (aNonce sNonce : Bytes 32) (temp : List UInt8) :
    orderedNonces aNonce sNonce temp = orderedNonces sNonce aNonce temp := by
  by_cases same : aNonce = sNonce
  · rw [same]
  · have length : aNonce.val.length = sNonce.val.length :=
      aNonce.property.trans sNonce.property.symm
    rw [orderedNonces_eq same, orderedNonces_eq (Ne.symm same), minBytes_comm length,
      maxBytes_comm length]

/-- Whoever is called the authenticator, and whosever nonce is called `ANonce`, the PTK is the same. -/
theorem wpaDerivePtk_agrees (hmacSha1 : HmacSha1) (memory : Bool) (pmk aNonce sNonce : Bytes 32)
    (aa sa : MacAddr) (len : Nat) :
    wpaDerivePtk hmacSha1 memory pmk sNonce aa aNonce sa len =
        wpaDerivePtk hmacSha1 memory pmk aNonce aa sNonce sa len ∧
    wpaDerivePtk hmacSha1 memory pmk aNonce sa sNonce aa len =
        wpaDerivePtk hmacSha1 memory pmk aNonce aa sNonce sa len ∧
    wpaDerivePtk hmacSha1 memory pmk sNonce sa aNonce aa len =
        wpaDerivePtk hmacSha1 memory pmk aNonce aa sNonce sa len ∧
    (aNonce ≠ sNonce → wpaDerivePtk hmacSha1 true pmk aNonce aa sNonce sa len =
      some (standardPrf hmacSha1 pmk.val pairwiseKeyExpansion
        (minBytes (macBytes aa) (macBytes sa) ++ maxBytes (macBytes aa) (macBytes sa) ++
          (minBytes aNonce.val sNonce.val ++ maxBytes aNonce.val sNonce.val)) len)) := by
  have addresses : addressNonce sa aa = addressNonce aa sa := by
    rw [addressNonce, addressNonce, orderedAddresses_comm]
  refine ⟨?_, ?_, ?_, ?_⟩
  · rw [wpaDerivePtk, wpaDerivePtk, orderedNonces_comm]
  · rw [wpaDerivePtk, wpaDerivePtk, orderedAddresses_comm, addresses]
  · rw [wpaDerivePtk, wpaDerivePtk, orderedAddresses_comm, orderedNonces_comm, addresses]
  · intro differ
    rw [wpaDerivePtk, prf_eq, orderedAddresses_eq, orderedNonces_eq differ]

end Ptk

end Mt7612u.Wpa
