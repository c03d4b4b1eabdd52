import Mt7612u.Mlme.BeaconSanity
import Mt7612u.Sta.Connect

/-! `BssCipherParse` of `mlme.c`: the ciphers and the authentication modes that a scan entry takes
from the WPA and RSN elements of a beacon, with a record of what is read of `VarIEs`. -/

namespace Mt7612u.Security
open Receive (Memory Span)
open Sta (WepStatus BssType)
open Mlme (lenAt wpaOui rsnOui)

/-- `NDIS_802_11_AUTHENTICATION_MODE`, with its upper bound. -/
inductive AuthMode where
  | open
  | shared
  | autoSwitch
  | wpa
  | wpaPsk
  | wpaNone
  | wpa2
  | wpa2Psk
  | wpa1Wpa2
  | wpa1PskWpa2Psk
  | max
  deriving DecidableEq, Repr

/-- The place of a status in the enumeration, on which its comparisons go. -/
def rank : WepStatus → Nat
  | .wepEnabled => 0
  | .wepDisabled => 1
  | .wepKeyAbsent => 2
  | .wepNotSupported => 3
  | .tkipEnable => 4
  | .encryption2KeyAbsent => 5
  | .aesEnable => 6
  | .encryption3KeyAbsent => 7
  | .tkipAesMix => 8
  | .encryption4KeyAbsent => 9
  | .groupWep40Enabled => 10
  | .groupWep104Enabled => 11

/-- The ciphers that one kind of element announces. -/
structure CipherSetting where
  pairCipher : WepStatus := .wepDisabled
  pairCipherAux : WepStatus := .wepDisabled
  groupCipher : WepStatus := .wepDisabled
  rsnCapability : BitVec 16 := 0
  mixMode : Bool := false
  deriving DecidableEq, Repr

/-- What `BssCipherParse` reads and sets of a `BSS_ENTRY`, its elements apart. -/
structure BssEntry where
  privacy : Bool
  bssType : BssType
  ses : Bool := false
  wepStatus : WepStatus := .wepDisabled
  authMode : AuthMode := .open
  authModeAux : AuthMode := .open
  wpa : CipherSetting := {}
  wpa2 : CipherSetting := {}
  deriving DecidableEq, Repr

/-- A read made for the element at `pEid`. Those of its suites, their counts and the capability
field are told apart from the header, the OUI and the version it is recognised by. -/
structure ElementRead where
  pEid : Nat
  suite : Bool
  span : Span

/-- The entry so far, and what has been read for it. -/
structure Parsed where
  bss : BssEntry
  reads : List ElementRead

def sesOui : List UInt8 := [0x00, 0x90, 0x4c]

def ieWpa : Nat := 221
def ieRsn : Nat := 48

/-- The group cipher named by the type of a suite; other types leave it alone. -/
def groupCipherOf (type : Nat) (old : WepStatus) : WepStatus :=
  match type with
  | 1 => .groupWep40Enabled
  | 5 => .groupWep104Enabled
  | 2 => .tkipEnable
  | 4 => .aesEnable
  | _ => old

/-- `TmpCipher`. -/
def pairCipherOf (type : Nat) : WepStatus :=
  match type with
  | 1 => .wepEnabled
  | 5 => .wepEnabled
  | 2 => .tkipEnable
  | 4 => .aesEnable
  | _ => .wepDisabled

/-- The higher cipher is kept in front. -/
def CipherSetting.addPair (setting : CipherSetting) (cipher : WepStatus) : CipherSetting :=
  if rank setting.pairCipher < rank cipher then
    { setting with pairCipherAux := setting.pairCipher, pairCipher := cipher }
  else { setting with pairCipherAux := cipher }

def CipherSetting.checkMixed (setting : CipherSetting) : CipherSetting :=
  if setting.groupCipher ≠ setting.pairCipher then { setting with mixMode := true } else setting

/-- The first mode found becomes `AuthMode`, a further one `AuthModeAux`. -/
def BssEntry.addAuthMode (bss : BssEntry) (mode : AuthMode) : BssEntry :=
  if bss.authMode = .open then { bss with authMode := mode } else { bss with authModeAux := mode }

section elements
variable (varIEs : Memory)

/-- A 16-bit count, the low byte first. -/
def countAt (pTmp : Nat) : Nat := (varIEs (pTmp + 1)).toNat * 256 + (varIEs pTmp).toNat

/-- The loop over `Count` pairwise suites of four bytes, of which the last is the type. -/
def parsePairs : Nat → Nat → CipherSetting → CipherSetting
  | 0, _, setting => setting
  | count + 1, pTmp, setting =>
    parsePairs count (pTmp + 4) (setting.addPair (pairCipherOf (varIEs (pTmp + 3)).toNat))

/-- What that loop reads. -/
def pairReads (pEid : Nat) : Nat → Nat → List ElementRead
  | 0, _ => []
  | count + 1, pTmp => ⟨pEid, true, ⟨pTmp + 3, 1⟩⟩ :: pairReads pEid count (pTmp + 4)

/-- The AKM suite of a WPA element. -/
def wpaAkm (bss : BssEntry) (type : Nat) : BssEntry :=
  match type with
  | 1 => bss.addAuthMode .wpa
  | 2 => bss.addAuthMode .wpaPsk
  | _ => bss

/-- What is fixed up at the end of a WPA element: an ad hoc network is WPA-None. -/
def wpaFinish (bss : BssEntry) : BssEntry :=
  let bss :=
    if bss.bssType = .adhoc then
      { bss with
        authMode := .wpaNone
        authModeAux := .wpaNone
        wepStatus := bss.wpa.groupCipher
        wpa :=
          if bss.wpa.pairCipherAux = .wepDisabled then
            { bss.wpa with pairCipherAux := bss.wpa.groupCipher }
          else bss.wpa }
    else { bss with wepStatus := bss.wpa.pairCipher }
  { bss with wpa := bss.wpa.checkMixed }

/-- `case IE_WPA`, from the group suite on: only the first AKM suite is looked at. -/
def parseWpaSuites (pEid : Nat) (bss : BssEntry) : Parsed :=
  let count := countAt varIEs (pEid + 12)
  let akm := pEid + 14 + 4 * count
  let group := { bss.wpa with
    groupCipher := groupCipherOf (varIEs (pEid + 11)).toNat bss.wpa.groupCipher }
  let bss := { bss with wpa := parsePairs varIEs count (pEid + 14) group }
  { bss := wpaFinish (wpaAkm bss (varIEs (akm + 5)).toNat)
    reads := [⟨pEid, true, ⟨pEid + 11, 1⟩⟩, ⟨pEid, true, ⟨pEid + 12, 2⟩⟩] ++
      pairReads pEid count (pEid + 14) ++
      [⟨pEid, true, ⟨akm, 2⟩⟩, ⟨pEid, true, ⟨akm + 5, 1⟩⟩] }

/-- `case IE_WPA`. -/
def parseWpa (pEid : Nat) (bss : BssEntry) : Parsed :=
  if varIEs.equal (pEid + 2) sesOui ∧ lenAt varIEs pEid = 7 then
    ⟨{ bss with ses := true }, [⟨pEid, false, ⟨pEid + 2, 3⟩⟩]⟩
  else if varIEs.equal (pEid + 2) wpaOui then
    let parsed := parseWpaSuites varIEs pEid bss
    ⟨parsed.bss, [⟨pEid, false, ⟨pEid + 2, 3⟩⟩, ⟨pEid, false, ⟨pEid + 2, 4⟩⟩] ++ parsed.reads⟩
  else ⟨bss, [⟨pEid, false, ⟨pEid + 2, 3⟩⟩, ⟨pEid, false, ⟨pEid + 2, 4⟩⟩]⟩

/-- The mode of an AKM suite of an RSN element. -/
def rsnAkm (type : Nat) : AuthMode :=
  match type with
  | 0 => .wpaNone
  | 1 => .wpa2
  | 2 => .wpa2Psk
  | _ => .max

/-- What is fixed up at the end of an RSN element, the capability field included. -/
def rsnFinish (bss : BssEntry) (rsnCapability : BitVec 16) : BssEntry :=
  let wpa := { bss.wpa with
    pairCipherAux := bss.wpa2.pairCipherAux, groupCipher := bss.wpa2.groupCipher }
  { bss with
    wpa :=
      if bss.bssType = .adhoc then
        if wpa.pairCipherAux = .wepDisabled then { wpa with pairCipherAux := wpa.groupCipher }
        else wpa
      else bss.wpa
    wepStatus := bss.wpa2.pairCipher
    wpa2 := { bss.wpa2 with rsnCapability := rsnCapability }.checkMixed }

/-- The loop over `Count` AKM suites, which a foreign OUI ends, and what follows it. -/
def parseAkms (pEid : Nat) : Nat → Nat → BssEntry → Parsed
  | 0, pTmp, bss =>
    ⟨rsnFinish bss (BitVec.ofNat 16 (countAt varIEs pTmp)), [⟨pEid, true, ⟨pTmp, 2⟩⟩]⟩
  | count + 1, pTmp, bss =>
    if varIEs.equal pTmp rsnOui then
      let parsed := parseAkms pEid count (pTmp + 4)
        (bss.addAuthMode (rsnAkm (varIEs (pTmp + 3)).toNat))
      ⟨parsed.bss, [⟨pEid, true, ⟨pTmp, 3⟩⟩, ⟨pEid, true, ⟨pTmp + 3, 1⟩⟩] ++ parsed.reads⟩
    else
      ⟨rsnFinish bss (BitVec.ofNat 16 (countAt varIEs pTmp)),
        [⟨pEid, true, ⟨pTmp, 3⟩⟩, ⟨pEid, true, ⟨pTmp, 2⟩⟩]⟩

/-- `case IE_RSN`, from the type of the group suite on. -/
def parseRsnSuites (pEid : Nat) (bss : BssEntry) : Parsed :=
  let count := countAt varIEs (pEid + 8)
  let akm := pEid + 10 + 4 * count
  let group := { bss.wpa2 with
    groupCipher := groupCipherOf (varIEs (pEid + 7)).toNat bss.wpa2.groupCipher }
  let parsed := parseAkms varIEs pEid (countAt varIEs akm) (akm + 2)
    { bss with wpa2 := parsePairs varIEs count (pEid + 10) group }
  { bss := parsed.bss
    reads := [⟨pEid, true, ⟨pEid + 7, 1⟩⟩, ⟨pEid, true, ⟨pEid + 8, 2⟩⟩] ++
      pairReads pEid count (pEid + 10) ++ ⟨pEid, true, ⟨akm, 2⟩⟩ :: parsed.reads }

/-- `case IE_RSN`. -/
def parseRsn (pEid : Nat) (bss : BssEntry) : Parsed :=
  let version : List ElementRead := [⟨pEid, false, ⟨pEid + 2, 2⟩⟩]
  if countAt varIEs (pEid + 2) ≠ 1 then ⟨bss, version⟩
  else if varIEs.equal (pEid + 4) rsnOui then
    let parsed := parseRsnSuites varIEs pEid bss
    ⟨parsed.bss, version ++ ⟨pEid, true, ⟨pEid + 4, 3⟩⟩ :: parsed.reads⟩
  else ⟨bss, version ++ [⟨pEid, true, ⟨pEid + 4, 3⟩⟩]⟩

/-- The `switch` on the element at `pEid`. -/
def parseElement (pEid : Nat) (bss : BssEntry) : Parsed :=
  if (varIEs pEid).toNat = ieWpa then parseWpa varIEs pEid bss
  else if (varIEs pEid).toNat = ieRsn then parseRsn varIEs pEid bss
  else ⟨bss, []⟩

/-- The loop over the elements: `Length` is what is left of `VarIELen`, and may end below zero. -/
def parseElements (varIELen pEid : Nat) (bss : BssEntry) : Parsed :=
  if pEid < varIELen then
    let element := parseElement varIEs pEid bss
    let rest := parseElements varIELen (pEid + (lenAt varIEs pEid + 2)) element.bss
    ⟨rest.bss, ⟨pEid, false, ⟨pEid, 1⟩⟩ :: element.reads ++
      ⟨pEid, false, ⟨pEid + 1, 1⟩⟩ :: rest.reads⟩
  else ⟨bss, []⟩
termination_by varIELen - pEid

/-- `BssCipherParse`. -/
def bssCipherParse (varIELen : Nat) (bss : BssEntry) : Parsed :=
  parseElements varIEs varIELen 0
    { privacy := bss.privacy
      bssType := bss.bssType
      ses := bss.ses
      wepStatus := if bss.privacy then .wepEnabled else .wepDisabled }

end elements

end Mt7612u.Security
