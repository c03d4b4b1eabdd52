import Mt7612u.Ap.AssocReq
import Mt7612u.Ap.Auth
import Mt7612u.Ap.ValidateRsnie
import Mt7612u.Wpa.Adapter

/-! `ap_cmm_peer_assoc_req_action` of `ap_assoc.c`, with `APBuildAssociation` and
`update_associated_mac_entry`: what a request makes of the entry of its station, what is answered,
and what becomes of the buffers. -/

namespace Mt7612u.Ap
open Receive (Memory)
open Security (AuthMode rank)
open Wpa (WpaState GtkState)

inductive PortSecured where
  | notSecured
  | secured
  deriving DecidableEq, Repr

inductive PrivacyFilter where
  | acceptAll
  | filter8021xWep
  deriving DecidableEq, Repr

/-- What the functions set of a `MAC_TABLE_ENTRY`, the fields for HT and VHT apart. `pairwiseKey` is
`none` when it is zeroed, `asicKey` whether the chip has one. -/
@[ext]
structure AssocEntry where
  apidx : Nat
  sst : Sst
  aid : BitVec 16
  security : EntrySecurity
  portSecured : PortSecured
  privacyFilter : PrivacyFilter
  wpaState : WpaState
  gtkState : GtkState
  pairwiseKey : Option (List UInt8)
  asicKey : Bool
  rsnIe : List UInt8
  capabilityInfo : BitVec 16
  rateLen : Nat

/-- What they read of a BSS. -/
structure AssocBss where
  ssid : List UInt8
  rsn : RsnBss
  ieee8021X : Bool
  hostapdCfg : Bool
  allows : List UInt8 → Bool
  assocReqFailRssiThreshold : Int
  assocReqNoRspRssiThreshold : Int

/-- The build option `RT_CFG80211_SUPPORT`, whether the mode of the PHY asks for an OFDM rate, for
HT or for VHT capabilities, and the BSSs that are valid. -/
structure AssocApConfig where
  cfg80211 : Bool
  gOnly : Bool
  htOnly : Bool
  vhtOnly : Bool
  mbssid : Nat → Option AssocBss

/-- The frame, and what is drawn from outside: whether there is memory for `IE_LISTS` and for the
response, what stands behind `RSN_IE`, and the uninitialized `Aid`. -/
structure AssocElem where
  frame : Memory
  msgLen : Nat
  isReassoc : Bool
  rssi : Int
  listsKmalloc : Bool
  outKmalloc : Bool
  behind : Memory
  stackAid : BitVec 16

structure AssocRsp where
  status : MlmeStatus
  aid : BitVec 16

inductive AssocBuffer where
  | ieList
  | outBuffer
  deriving DecidableEq, Repr

inductive BufferEvent where
  | alloc (buffer : AssocBuffer)
  | free (buffer : AssocBuffer)
  deriving DecidableEq, Repr

/-- The entry, the response that is handed to `MiniportMMRequest`, and what is done with the
buffers. -/
structure AssocOutcome where
  entry : Option AssocEntry
  response : Option AssocRsp
  buffers : List BufferEvent

/-- `AuthMode >= Ndis802_11AuthModeWPA`. -/
def isWpaMode : AuthMode → Bool
  | .open => false
  | .shared => false
  | .autoSwitch => false
  | _ => true

/-- `MaxSupportedRate`, in units of 500 kbit/s. -/
def maxSupportedRate (rates : List UInt8) : UInt8 :=
  rates.foldl (fun best rate => max best (rate &&& 0x7f)) 0

/-- `dot11_2_ra_rate` gives a rate from `RATE_FIRST_OFDM_RATE` on. -/
def isOfdmRate (rate : UInt8) : Bool :=
  ([12, 18, 24, 36, 48, 72, 96, 108] : List UInt8).contains rate

section action
variable (c : AssocApConfig) (bss : AssocBss) (lists : IeLists)

/-- A key of an earlier association is cleared. -/
def clearPairwiseKey (entry : AssocEntry) : AssocEntry :=
  if entry.aid ≠ 0 ∧
      (rank .tkipEnable ≤ rank entry.security.wepStatus ∨ bss.ieee8021X = true) then
    { entry with gtkState := .rekeyNegotiating, pairwiseKey := none, asicKey := false }
  else entry

/-- `update_associated_mac_entry`. -/
def updateAssociatedMacEntry (entry : AssocEntry) : AssocEntry :=
  let entry := { entry with sst := .assoc, capabilityInfo := lists.capabilityInfo }
  let mode := entry.security.authMode
  let entry :=
    if mode = .wpaPsk ∨ mode = .wpa2Psk then
      { entry with privacyFilter := .filter8021xWep, wpaState := .asInitPsk }
    else if mode = .wpa ∨ mode = .wpa2 ∨ bss.ieee8021X = true then
      { entry with privacyFilter := .filter8021xWep, wpaState := .asAuthentication }
    else entry
  { entry with portSecured := if isWpaMode mode || bss.ieee8021X then .notSecured else .secured }

/-- The checks on rates and capabilities. -/
def rejectsRate : Bool :=
  c.gOnly && !isOfdmRate (maxSupportedRate lists.supportedRates) ||
    c.htOnly && lists.htCapability.isEmpty || c.vhtOnly && lists.vhtCap.isEmpty

/-- The check of the security element, with the memory behind it. -/
def validated (behind : Memory) (security : EntrySecurity) : RsnValidated :=
  apValidateRsnie bss.rsn (behind.write 0 lists.rsnIe) lists.rsnieLen security

/-- A BSS with security that is given no element. -/
def lacksRsnie : Bool :=
  decide (lists.rsnieLen = 0) && isWpaMode bss.rsn.authMode && (!c.cfg80211 || bss.hostapdCfg)

/-- `APBuildAssociation`. -/
def apBuildAssociation (behind : Memory) (entry : AssocEntry) : MlmeStatus × AssocEntry :=
  if rejectsRate c lists then (.assocRejDataRate, entry)
  else if entry.sst = .notAuth then (.assocRejUnableHandleSta, entry)
  else
    let checked := validated bss lists behind entry.security
    let entry := { entry with security := checked.entry }
    if checked.status ≠ .success then (checked.status, entry)
    else
      let entry := { entry with rsnIe := lists.rsnIe.take lists.rsnieLen.toNat }
      if entry.aid = 0 then (.assocRejUnableHandleSta, entry)
      else if lacksRsnie c bss lists then
        if c.cfg80211 then (.success, { entry with sst := .assoc }) else (.assocDenyOutScope, entry)
      else (.success, updateAssociatedMacEntry bss lists entry)

/-- The request is turned down for a weak signal, without an answer. -/
def noResponse (rssi : Int) : Bool :=
  !weakSignal bss.assocReqFailRssiThreshold rssi && weakSignal bss.assocReqNoRspRssiThreshold rssi

/-- From `APBuildAssociation` on: the response. -/
def answerAssoc (elem : AssocElem) (status : MlmeStatus) (entry : AssocEntry) : AssocOutcome :=
  let aid := (if rejectsRate c lists ∨ entry.sst = .notAuth then elem.stackAid else entry.aid) |||
    0xc000
  if elem.outKmalloc = false then
    ⟨some entry, none, [.alloc .ieList, .free .ieList]⟩
  else if weakSignal bss.assocReqFailRssiThreshold elem.rssi then
    ⟨none, some ⟨.unspecifyFail, aid⟩,
      [.alloc .ieList, .alloc .outBuffer, .free .outBuffer, .free .ieList]⟩
  else if noResponse bss elem.rssi then
    ⟨some entry, none, [.alloc .ieList, .alloc .outBuffer, .free .ieList]⟩
  else if bss.allows lists.addr2 = false then
    ⟨some entry, some ⟨.unspecifyFail, aid⟩,
      [.alloc .ieList, .alloc .outBuffer, .free .outBuffer, .free .ieList]⟩
  else
    ⟨some entry, some ⟨status, aid⟩,
      [.alloc .ieList, .alloc .outBuffer, .free .outBuffer, .free .ieList]⟩

/-- The request of a station with an entry of a valid BSS. -/
def assocReqAction (elem : AssocElem) (entry : AssocEntry) : AssocOutcome :=
  let entry := clearPairwiseKey bss entry
  if lists.ssid ≠ bss.ssid then ⟨some entry, none, [.alloc .ieList, .free .ieList]⟩
  else
    let entry := { entry with rateLen := lists.supportedRates.length }
    let (status, entry) := apBuildAssociation c bss lists elem.behind entry
    answerAssoc c bss lists elem status entry

end action

/-- `ap_cmm_peer_assoc_req_action`. The entry is that of the sender, if `MacTableLookup` finds
one. -/
def apCmmPeerAssocReqAction (c : AssocApConfig) (entry : Option AssocEntry) (elem : AssocElem) :
    AssocOutcome :=
  let dropped : AssocOutcome := ⟨entry, none, [.alloc .ieList, .free .ieList]⟩
  if elem.listsKmalloc = false then ⟨entry, none, []⟩
  else
    match entry with
    | none => dropped
    | some entry =>
      let bss := c.mbssid entry.apidx
      let context : AssocReqContext := ⟨true, bss.any fun bss => isWpaMode bss.rsn.authMode⟩
      match (peerAssocReqCmmSanity context elem.isReassoc elem.frame elem.msgLen).lists, bss with
      | some lists, some bss => assocReqAction c bss lists elem entry
      | _, _ => dropped

end Mt7612u.Ap
