import Mt7612u.Security.RsnieRoundTrip

/-! The check of a station's security element when it associates: `APValidateRSNIE` of `ap_wpa.c`
and its four checkers, with a record of what they read of the element and of the one the BSS
announces. -/

namespace Mt7612u.Ap
open Receive (Memory Span)
open Security (AuthMode IeKind countAt isMixedMode tkipOn aesOn)
open Sta (WepStatus)
open Mlme (lenAt)

/-- Where a byte is read: in the station's element, or in `RSN_IE` of the BSS. -/
inductive RsnSide where
  | station
  | bss
  deriving DecidableEq, Repr

structure RsnRead where
  side : RsnSide
  span : Span

/-- What the checkers read of a `MULTISSID_STRUCT`; `rsnIe` is `RSN_IE[0]` and `RSN_IE[1]`, with
the memory behind. -/
structure RsnBss where
  authMode : AuthMode
  wepStatus : WepStatus
  wpaMixPairCipher : UInt8
  rsnIe : Bool → Memory

/-- What they set of an entry. -/
structure EntrySecurity where
  authMode : AuthMode
  wepStatus : WepStatus
  deriving DecidableEq, Repr

/-- The status codes of an association response. -/
inductive MlmeStatus where
  | success
  | unspecifyFail
  | assocDenyOutScope
  | assocRejUnableHandleSta
  | assocRejDataRate
  | invalidGroupCipher
  | invalidPairwiseCipher
  | invalidAkmp
  deriving DecidableEq, Repr

/-- A search through a list of suites, and what it reads. -/
structure SuiteSearch (α : Type) where
  found : Option α
  reads : List RsnRead

/-- One checker: its verdict, the entry, and what it reads. -/
structure RsnChecked where
  passed : Bool
  entry : EntrySecurity
  reads : List RsnRead

def suiteAt (mem : Memory) (place : Nat) : List UInt8 := mem.bytes place 4

/-- `eid_ptr->Eid`, when it is `IE_WPA` or `IE_WPA2`. -/
def eidKind (mem : Memory) : Option IeKind :=
  if (mem 0).toNat = IeKind.wpaIe.eid then some .wpaIe
  else if (mem 0).toNat = IeKind.wpa2Ie.eid then some .wpa2Ie
  else none

/-- The loops over the suites of a list: they end at the first one that matches. -/
def searchSuites {α : Type} (compare : Nat → SuiteSearch α) : Nat → Nat → SuiteSearch α
  | _, 0 => ⟨none, []⟩
  | place, count + 1 =>
    let first := compare place
    match first.found with
    | some _ => first
    | none =>
      let rest := searchSuites compare (place + 4) count
      ⟨rest.found, first.reads ++ rest.reads⟩

namespace RsnBss
variable (bss : RsnBss)

/-- `RSN_IE[IE_Idx]`; a WPA element is always compared with the first. -/
def element : IeKind → Memory
  | .wpaIe => bss.rsnIe false
  | .wpa2Ie => bss.rsnIe (isMixedMode bss.authMode)

end RsnBss

/-- A mixed mode is narrowed to the kind of the element. -/
def narrowMode : IeKind → AuthMode → AuthMode
  | .wpaIe, .wpa1Wpa2 => .wpa
  | .wpaIe, .wpa1PskWpa2Psk => .wpaPsk
  | .wpa2Ie, .wpa1Wpa2 => .wpa2
  | .wpa2Ie, .wpa1PskWpa2Psk => .wpa2Psk
  | _, mode => mode

section checkers
variable (bss : RsnBss) (mem : Memory)

/-- `RTMPCheckMcast`. `Octet` starts at 2. -/
def rtmpCheckMcast (entry : EntrySecurity) : RsnChecked :=
  if 6 ≤ lenAt mem 0 then
    match eidKind mem with
    | some kind => {
        passed := suiteAt mem (2 + kind.version + 2) == suiteAt (bss.element kind) (kind.version + 2)
        entry := { entry with authMode := narrowMode kind bss.authMode }
        reads := [⟨.station, ⟨2 + kind.version + 2, 4⟩⟩, ⟨.bss, ⟨kind.version + 2, 4⟩⟩] }
    | none => ⟨false, { entry with authMode := bss.authMode }, []⟩
  else ⟨false, { entry with authMode := bss.authMode }, []⟩

/-- One turn of the loops of `RTMPCheckUcast`: the status that a suite gives the entry. -/
def compareUcast (kind : IeKind) (place : Nat) : SuiteSearch WepStatus :=
  let first := suiteAt mem place == suiteAt (bss.element kind) (kind.version + 8)
  let second := suiteAt mem place == suiteAt (bss.element kind) (kind.version + 12)
  let reads : List RsnRead := [⟨.station, ⟨place, 4⟩⟩, ⟨.bss, ⟨kind.version + 8, 4⟩⟩]
  if bss.wepStatus = .tkipAesMix then
    if tkipOn kind bss.wpaMixPairCipher then
      if first then ⟨some .tkipEnable, reads⟩
      else if aesOn kind bss.wpaMixPairCipher then
        ⟨if second then some .aesEnable else none, reads ++ [⟨.bss, ⟨kind.version + 12, 4⟩⟩]⟩
      else ⟨none, reads⟩
    else ⟨if first then some .aesEnable else none, reads⟩
  else ⟨if first then some bss.wepStatus else none, reads⟩

/-- `RTMPCheckUcast`. -/
def rtmpCheckUcast (entry : EntrySecurity) : RsnChecked :=
  let entry := { entry with wepStatus := bss.wepStatus }
  if lenAt mem 0 < 16 then ⟨false, entry, []⟩
  else
    match eidKind mem with
    | none => ⟨false, entry, []⟩
    | some kind =>
      let pCount := 2 + kind.version + 6
      let search := searchSuites (compareUcast bss mem kind) (pCount + 2) (countAt mem pCount)
      { passed := search.found.isSome
        entry :=
          match search.found with
          | some wepStatus => { entry with wepStatus := wepStatus }
          | none => entry
        reads := ⟨.station, ⟨pCount, 2⟩⟩ :: search.reads }

/-- `RTMPCheckAKM`, for the suite at `place`: it walks the element of the BSS. -/
def rtmpCheckAkm (kind : IeKind) (place : Nat) : SuiteSearch Unit :=
  let apRsnIe := bss.element kind
  let pCount := kind.version + 6
  let pAkm := pCount + 2 + 4 * countAt apRsnIe pCount
  let compare (pTmp : Nat) : SuiteSearch Unit :=
    ⟨if suiteAt mem place == suiteAt apRsnIe pTmp then some () else none,
      [⟨.station, ⟨place, 4⟩⟩, ⟨.bss, ⟨pTmp, 4⟩⟩]⟩
  let search := searchSuites compare (pAkm + 2) (countAt apRsnIe pAkm)
  ⟨search.found, ⟨.bss, ⟨pCount, 2⟩⟩ :: ⟨.bss, ⟨pAkm, 2⟩⟩ :: search.reads⟩

/-- `RTMPCheckAUTH`. -/
def rtmpCheckAuth (entry : EntrySecurity) : RsnChecked :=
  if lenAt mem 0 < 16 then ⟨false, entry, []⟩
  else
    match eidKind mem with
    | none => ⟨false, entry, []⟩
    | some kind =>
      let pCount := 2 + kind.version + 6
      let pAkm := pCount + 2 + 4 * countAt mem pCount
      let search := searchSuites (rtmpCheckAkm bss mem kind) (pAkm + 2) (countAt mem pAkm)
      { passed := search.found.isSome
        entry := entry
        reads := ⟨.station, ⟨pCount, 2⟩⟩ :: ⟨.station, ⟨pAkm, 2⟩⟩ :: search.reads }

/-- What `APValidateRSNIE` leaves. -/
structure RsnValidated where
  status : MlmeStatus
  entry : EntrySecurity
  reads : List RsnRead

/-- `APValidateRSNIE`, for an element at address 0. -/
def apValidateRsnie (rsnieLen : BitVec 8) (entry : EntrySecurity) : RsnValidated :=
  if rsnieLen = 0 then ⟨.success, entry, []⟩
  else if lenAt mem 0 + 2 ≠ rsnieLen.toNat then ⟨.unspecifyFail, entry, []⟩
  else
    let mcast := rtmpCheckMcast bss mem entry
    if mcast.passed then
      let ucast := rtmpCheckUcast bss mem mcast.entry
      if ucast.passed then
        let auth := rtmpCheckAuth bss mem ucast.entry
        ⟨if auth.passed then .success else .invalidAkmp, auth.entry,
          mcast.reads ++ (ucast.reads ++ auth.reads)⟩
      else ⟨.invalidPairwiseCipher, ucast.entry, mcast.reads ++ ucast.reads⟩
    else ⟨.invalidGroupCipher, mcast.entry, mcast.reads⟩

end checkers

end Mt7612u.Ap
