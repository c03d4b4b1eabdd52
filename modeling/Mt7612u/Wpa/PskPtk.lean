import Mt7612u.Wpa.DerivePtk
import Mt7612u.Wpa.PasswordHash

/-! From what a user types to the PTK of a handshake: `RT_CfgSetWPAPSKKey` and `WpaDerivePTK`, both
with the hash that the driver itself computes. -/

namespace Mt7612u.Wpa
open Mgmt (MacAddr)
open Receive (Memory)

/-- What `PRF` takes from `RT_HMAC_SHA1`. -/
def digestSha1 : HmacSha1 := fun key text => Bytes.ofList 20 ((hmacSha1 key text).getD [])

/-- HMAC-SHA1 as it is published. -/
def standardSha1 : HmacSha1 := fun key text => ⟨pskPrf key text, length_pskPrf key text⟩

/-- A key is set in `pmkBuf`, and a PTK derived from what stands there. -/
def ptkOfPsk (junk : Nat → Memory) (pmkBuf : Memory) (keyString : CString) (ssid : List UInt8)
    (aNonce : Bytes 32) (aa : MacAddr) (sNonce : Bytes 32) (sa : MacAddr) : Option (List UInt8) :=
  (rtCfgSetWpaPskKey junk keyString keyString.val.length ssid pmkBuf).bind fun set =>
    wpaDerivePtk digestSha1 true ⟨set.1.bytes 0 32, set.1.length_bytes 0 32⟩ aNonce aa sNonce sa
      lenPtk

/-- What a user may type for a PMK: a pass phrase that it is derived from, or its digits. -/
inductive StandsFor (ssid : List UInt8) (keyString : CString) (pmk : Bytes 32) : Prop where
  | passphrase (long : 8 ≤ keyString.val.length) (limit : keyString.val.length ≤ 63)
      (derived : (passphraseKey keyString.val ssid).take 32 = pmk.val)
  | digits (spells : Spells keyString.val pmk.val)

/-- The PTK of the standard. -/
def standardPtk (pmk aNonce : Bytes 32) (aa : MacAddr) (sNonce : Bytes 32) (sa : MacAddr) :
    List UInt8 :=
  standardPrf standardSha1 pmk.val pairwiseKeyExpansion
    (minBytes (macBytes aa) (macBytes sa) ++ maxBytes (macBytes aa) (macBytes sa) ++
      (minBytes aNonce.val sNonce.val ++ maxBytes aNonce.val sNonce.val)) lenPtk

/-- The driver's hash gives what the published one gives, where an unsigned int counts its input. -/
theorem standardPrf_digestSha1 {key label data : List UInt8} (keyed : key.length < 2 ^ 32)
    (sized : label.length + data.length + 2 < 2 ^ 32) (len : Nat) :
    standardPrf digestSha1 key label data len = standardPrf standardSha1 key label data len := by
  unfold standardPrf
  congr 1
  funext i
  have counted : (label ++ [0] ++ data ++ [UInt8.ofNat i]).length < 2 ^ 32 := by
    simp only [List.length_append, List.length_singleton]
    omega
  rw [digestSha1, hmacSha1_eq keyed counted, Option.getD_some]
  exact List.take_left' (length_pskPrf key _)

theorem length_minBytes_maxBytes (first second : List UInt8) :
    (minBytes first second ++ maxBytes first second).length = first.length + second.length := by
  unfold minBytes maxBytes
  split
  · exact List.length_append
  · rw [List.length_append, Nat.add_comm]

section Side

variable {ssid : List UInt8} {keyString : CString} {pmk aNonce sNonce : Bytes 32}

/-- Whatever was typed for a PMK, and whatever stood in the buffers, two nonces give the PTK of the
standard, and so the same one to the authenticator and to the supplicant. -/
theorem ptkOfPsk_standard (short : ssid.length ≤ 32) (stands : StandsFor ssid keyString pmk)
    (differ : aNonce ≠ sNonce) (aa sa : MacAddr) (junk : Nat → Memory) (pmkBuf : Memory) :
    ptkOfPsk junk pmkBuf keyString ssid aNonce aa sNonce sa =
      some (standardPtk pmk aNonce aa sNonce sa) := by
  have set : rtCfgSetWpaPskKey junk keyString keyString.val.length ssid pmkBuf =
      some (withKey pmkBuf pmk.val, true) := by
    cases stands with
    | passphrase long limit derived =>
      rw [← derived]
      exact rtCfgSetWpaPskKey_passphrase junk pmkBuf long limit short
    | digits spells =>
      have digits : keyString.val.length = 64 := by rw [spells.length, pmk.property]
      rw [rtCfgSetWpaPskKey_full junk pmkBuf digits, atoH_keyString spells pmk.property]
  have stored : (⟨(withKey pmkBuf pmk.val).bytes 0 32, Memory.length_bytes _ 0 32⟩ : Bytes 32) = pmk :=
    Subtype.ext (bytes_withKey pmkBuf pmk.property)
  have keyed : pmk.val.length < 2 ^ 32 := by
    rw [pmk.property]
    decide
  have label : pairwiseKeyExpansion.length = 22 := by decide
  rw [ptkOfPsk, set, Option.bind_some, stored, wpaDerivePtk,
    prf_eq, orderedAddresses_eq, orderedNonces_eq differ, standardPtk]
  refine congrArg some (standardPrf_digestSha1 keyed ?_ lenPtk)
  rw [List.length_append, length_minBytes_maxBytes, length_minBytes_maxBytes, label, length_macBytes,
    length_macBytes, aNonce.property, sNonce.property]
  decide

end Side

/-- A pass phrase of eight letters. -/
theorem eight_letters_standard :
    ∃ ptk, ptkOfPsk (fun _ _ => 0) (fun _ => 0) ⟨List.replicate 8 0x61, by decide⟩ []
      (Bytes.ofList 32 [1]) (fun _ => 2) (Bytes.zero 32) (fun _ => 4) = some ptk := by
  have short : ([] : List UInt8).length ≤ 32 := Nat.zero_le 32
  have stands : ∀ keyString : CString, 8 ≤ keyString.val.length → keyString.val.length ≤ 63 →
      StandsFor [] keyString ⟨_, length_pmk keyString.val []⟩ :=
    fun _ long limit => .passphrase long limit (Subtype.coe_mk _ _).symm
  have differ : Bytes.ofList 32 [1] ≠ Bytes.zero 32 := fun same =>
    absurd (congrArg (·.val.head?) same) (by decide)
  exact ⟨_, ptkOfPsk_standard short (stands _ (by decide) (by decide)) differ _ _ _ _⟩

end Mt7612u.Wpa
