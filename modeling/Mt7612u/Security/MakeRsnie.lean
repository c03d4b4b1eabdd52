import Mt7612u.Security.CipherParse

/-! `RTMPMakeRSNIE` of `cmm_wpa.c`: the WPA and RSN elements that an adapter announces or asks to
associate with, built up in a zeroed buffer. -/

namespace Mt7612u.Security
open Receive (Memory OpMode)
open Sta (WepStatus)

/-- `WpaIe` and `Wpa2Ie`. -/
inductive IeKind where
  | wpaIe
  | wpa2Ie
  deriving DecidableEq, Repr

namespace IeKind

def eid : IeKind → Nat
  | wpaIe => ieWpa
  | wpa2Ie => ieRsn

def oui : IeKind → List UInt8
  | wpaIe => [0x00, 0x50, 0xf2]
  | wpa2Ie => [0x00, 0x0f, 0xac]

/-- The `OUI_WPA_*` and `OUI_WPA2_*` arrays. -/
def suite (kind : IeKind) (type : UInt8) : List UInt8 := kind.oui ++ [type]

/-- A WPA element has its OUI in front of the version. -/
def vendorOui : IeKind → List UInt8
  | wpaIe => wpaIe.suite 1
  | wpa2Ie => []

/-- Where the version stands. -/
def version (kind : IeKind) : Nat := kind.vendorOui.length

/-- `sizeof(RSNIE)` and `sizeof(RSNIE2)`, with one pairwise suite. -/
def size (kind : IeKind) : Nat := kind.version + 12

end IeKind

def wep40 : UInt8 := 1
def tkip : UInt8 := 2
def ccmp : UInt8 := 4
def wep104 : UInt8 := 5

/-- `MIX_CIPHER_WPA_TKIP_ON` and `MIX_CIPHER_WPA2_TKIP_ON`. -/
def tkipOn (kind : IeKind) (flexibleCipher : UInt8) : Bool :=
  match kind with
  | .wpaIe => flexibleCipher &&& 0x08 != 0
  | .wpa2Ie => flexibleCipher &&& 0x02 != 0

/-- `MIX_CIPHER_WPA_AES_ON` and `MIX_CIPHER_WPA2_AES_ON`. -/
def aesOn (kind : IeKind) (flexibleCipher : UInt8) : Bool :=
  match kind with
  | .wpaIe => flexibleCipher &&& 0x04 != 0
  | .wpa2Ie => flexibleCipher &&& 0x01 != 0

/-- What the function reads of the adapter; `bssidUp` is `apidx < BssidNum`. -/
structure SecurityConfig where
  opMode : OpMode
  wpaMixPairCipher : UInt8
  bssidUp : Bool
  preAuth : Bool
  wpaSupplicantUp : Bool
  groupCipher : WepStatus
  mixCipher : Bool

/-- A 16-bit field below 256, the low byte first. -/
def le16 (value : UInt8) : List UInt8 := [value, 0]

section build
variable (config : SecurityConfig) (kind : IeKind) (authMode : AuthMode) (wepStatus : WepStatus)

/-- A group suite and the pairwise suites, with `*rsn_len`. -/
def writeSuites (group : UInt8) (first : UInt8) (second : Option UInt8) (ie : Memory) :
    Memory × Nat :=
  let ie := (ie.write (kind.version + 2) (kind.suite group)).write (kind.version + 8)
    (kind.suite first)
  match second with
  | none => (ie.write (kind.version + 6) (le16 1), kind.size)
  | some type => ((ie.write kind.size (kind.suite type)).write (kind.version + 6) (le16 2),
      kind.size + 4)

/-- A station takes a WEP group cipher from the access point. -/
def writeStaGroup (ie : Memory) : Memory :=
  if config.opMode = .sta then
    match config.groupCipher with
    | .groupWep40Enabled => ie.write (kind.version + 2) (kind.suite wep40)
    | .groupWep104Enabled => ie.write (kind.version + 2) (kind.suite wep104)
    | _ => ie
  else ie

/-- `RTMPMakeRsnIeCipher`. -/
def rtmpMakeRsnIeCipher (mixCipher : Bool) (flexibleCipher : UInt8) (ie : Memory) :
    Memory × Nat :=
  let ie := (ie.write 0 kind.vendorOui).write kind.version (le16 1)
  let (ie, rsnLen) :=
    match wepStatus with
    | .tkipEnable => writeSuites kind tkip tkip none ie
    | .aesEnable => writeSuites kind (if mixCipher then tkip else ccmp) ccmp none ie
    | .tkipAesMix =>
      if tkipOn kind flexibleCipher then
        writeSuites kind tkip tkip (if aesOn kind flexibleCipher then some ccmp else none) ie
      else writeSuites kind tkip ccmp none ie
    | _ => (ie, 0)
  (writeStaGroup config kind ie, rsnLen)

/-- The AKM suite of a mode in an element of one kind, if it has one. -/
def akmType : Option UInt8 :=
  match kind, authMode with
  | .wpa2Ie, .wpa2 | .wpa2Ie, .wpa1Wpa2 => some 1
  | .wpa2Ie, .wpa2Psk | .wpa2Ie, .wpa1PskWpa2Psk => some 2
  | .wpaIe, .wpa | .wpaIe, .wpa1Wpa2 => some 1
  | .wpaIe, .wpaPsk | .wpaIe, .wpa1PskWpa2Psk => some 2
  | .wpaIe, .wpaNone => some 0
  | _, _ => none

/-- `RTMPMakeRsnIeAKM`. -/
def rtmpMakeRsnIeAkm : Memory × Nat → Memory × Nat
  | (ie, rsnLen) =>
    match akmType kind authMode with
    | some type =>
      ((ie.write (rsnLen + 2) (kind.suite type)).write rsnLen (le16 1), rsnLen + 6)
    | none => (ie.write rsnLen (le16 0), rsnLen + 2)

/-- `RTMPMakeRsnIeCap`: `PreAuth` is the lowest bit of the field. -/
def rtmpMakeRsnIeCap : Memory × Nat → Memory × Nat
  | (ie, rsnLen) =>
    match kind with
    | .wpaIe => (ie, rsnLen)
    | .wpa2Ie =>
      if config.opMode = .ap ∧ config.bssidUp then
        let cleared := ie rsnLen &&& 0xfe
        (ie.write rsnLen [if config.preAuth then cleared ||| 1 else cleared], rsnLen + 2)
      else (ie, rsnLen + 2)

/-- An element as it is kept: the content of the buffer, and its length. -/
structure MadeIe where
  kind : IeKind
  content : Memory
  length : Nat

/-- One element, in a buffer that has been zeroed. -/
def makeElement (mixCipher : Bool) (flexibleCipher : UInt8) : MadeIe :=
  let made := rtmpMakeRsnIeCap config kind (rtmpMakeRsnIeAkm kind authMode
    (rtmpMakeRsnIeCipher config kind wepStatus mixCipher flexibleCipher fun _ => 0))
  ⟨kind, made.1, made.2⟩

end build

/-- The mode is one for which an element is made. -/
def acceptsMode (config : SecurityConfig) (authMode : AuthMode) : Bool :=
  match config.opMode with
  | .ap =>
    match authMode with
    | .wpa | .wpaPsk | .wpa2 | .wpa2Psk | .wpa1Wpa2 | .wpa1PskWpa2Psk => true
    | _ => false
  | .sta =>
    if config.wpaSupplicantUp then
      match authMode with
      | .open | .shared | .autoSwitch => false
      | _ => true
    else
      match authMode with
      | .wpaPsk | .wpa2Psk | .wpaNone => true
      | _ => false

/-- `bMixRsnIe`. -/
def isMixedMode : AuthMode → Bool
  | .wpa1Wpa2 => true
  | .wpa1PskWpa2Psk => true
  | _ => false

/-- `PrimaryRsnie`. -/
def primaryRsnie : AuthMode → IeKind
  | .wpa => .wpaIe
  | .wpaPsk => .wpaIe
  | .wpaNone => .wpaIe
  | .wpa1Wpa2 => .wpaIe
  | .wpa1PskWpa2Psk => .wpaIe
  | _ => .wpa2Ie

/-- What is left behind: `GroupKeyWepStatus`, and one or two elements. -/
structure MadeRsnie where
  groupKeyWepStatus : WepStatus
  primary : MadeIe
  secondary : Option MadeIe

/-- `RTMPMakeRSNIE`. A station leaves `GroupKeyWepStatus` alone, and its group cipher is the one
that it has. -/
def rtmpMakeRsnie (config : SecurityConfig) (authMode : AuthMode) (wepStatus : WepStatus) :
    Option MadeRsnie :=
  if acceptsMode config authMode then
    match config.opMode with
    | .ap =>
      let mixed := wepStatus = .tkipAesMix
      let flexibleCipher := if mixed then config.wpaMixPairCipher else 0
      some {
        groupKeyWepStatus := if mixed then .tkipEnable else wepStatus
        primary := makeElement config (primaryRsnie authMode) authMode wepStatus false flexibleCipher
        secondary :=
          if isMixedMode authMode then
            some (makeElement config .wpa2Ie authMode wepStatus false flexibleCipher)
          else none }
    | .sta =>
      some {
        groupKeyWepStatus := config.groupCipher
        primary := makeElement config (primaryRsnie authMode) authMode wepStatus config.mixCipher 0
        secondary := none }
  else none

end Mt7612u.Security
