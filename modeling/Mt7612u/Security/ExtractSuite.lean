import Mt7612u.Security.MakeRsnie

/-! `WPA_ExtractSuiteFromRSNIE` of `cmm_wpa.c`: where a list of an element stands, and how many
suites it has. -/

namespace Mt7612u.Security
open Receive (Memory)
open Mlme (lenAt)

inductive SuiteType where
  | groupSuite
  | pairwiseSuite
  | akmSuite
  | rsnCapInfo
  | pmkidList
  | gMgmtSuite
  deriving DecidableEq, Repr

/-- The pointer that is returned, by its place in the element, and `*count`. -/
abbrev Extracted : Type := Option Nat × Nat

section extract
variable (rsnie : Memory) (type : SuiteType)

/-- From the capability field on, where `len` bytes are left at `pBuf`. -/
def extractTail (pBuf len : Nat) : Extracted :=
  if len < 2 then (none, 0)
  else if type = .rsnCapInfo then (some pBuf, 1)
  else if len - 2 < 2 then (none, 0)
  else
    let pCount := countAt rsnie (pBuf + 2)
    if 0 < pCount ∧ len - 2 < 2 + 16 * pCount then (none, 0)
    else if type = .pmkidList then
      (if 0 < pCount then some (pBuf + 4) else none, pCount % 256)
    else (none, 0)

/-- From the AKM list on. Behind it, a WPA element has nothing. -/
def extractAkm (kind : IeKind) (pBuf len : Nat) : Extracted :=
  if len < 6 then (none, 0)
  else
    let aCnt := countAt rsnie pBuf
    let offset := 2 + 4 * aCnt
    if len < offset then (none, 0)
    else if type = .akmSuite then (some (pBuf + 2), aCnt % 256)
    else
      match kind with
      | .wpaIe => (none, 0)
      | .wpa2Ie => extractTail rsnie type (pBuf + offset) (len - offset)

/-- One of the two layouts. -/
def extractSuites (kind : IeKind) (len : Nat) : Extracted :=
  if len < kind.size then (none, 0)
  else
    let uCnt := countAt rsnie (2 + kind.version + 6)
    let offset := kind.version + 8 + 4 * uCnt
    if len < offset then (none, 0)
    else
      match type with
      | .groupSuite => (some (2 + kind.version + 2), 1)
      | .pairwiseSuite => (some (2 + kind.version + 8), uCnt % 256)
      | _ => extractAkm rsnie type kind (2 + offset) (len - offset)

/-- `WPA_ExtractSuiteFromRSNIE`. -/
def wpaExtractSuiteFromRsnie (rsnieLen : Nat) : Extracted :=
  let len := rsnieLen - 2
  if len = 0 ∨ lenAt rsnie 0 ≠ len then (none, 0)
  else if (rsnie 0).toNat = ieWpa then extractSuites rsnie type .wpaIe len
  else if (rsnie 0).toNat = ieRsn then extractSuites rsnie type .wpa2Ie len
  else (none, 0)

end extract

end Mt7612u.Security
