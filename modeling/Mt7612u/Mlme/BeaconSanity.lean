import Mt7612u.Receive.Deaggregate

/-! `PeerBeaconAndProbeRspSanity` of `cmm_sanity.c`: the loop over the information elements, with
a record of what it reads of the frame and what it writes into `pVIE` and the WPS buffer. -/

namespace Mt7612u.Mlme
open Receive

def maxVieLen : Nat := 1024
def wscBufferLen : Nat := 512
def maxLenOfSsid : Nat := 32
def maxLenOfSupportedRates : Nat := 12
def sizeHtCapIe : Nat := 26
def sizeAddHtInfoIe : Nat := 22
def sizeofExtCapInfo : Nat := 8
def sizeofVhtCapIe : Nat := 12
def sizeofVhtOpIe : Nat := 5
def sizeofOperatingMode : Nat := 1
def ckipNegotiationLength : Nat := 30

def ciscoOui : List UInt8 := [0x00, 0x40, 0x96]
def ralinkOui : List UInt8 := [0x00, 0x0c, 0x43]
def broadcomOui : List UInt8 := [0x00, 0x90, 0x4c]
def wpaOui : List UInt8 := [0x00, 0x50, 0xf2, 0x01]
def wmeParmElem : List UInt8 := [0x00, 0x50, 0xf2, 0x02, 0x01, 0x01]
def wmeInfoElem : List UInt8 := [0x00, 0x50, 0xf2, 0x02, 0x00, 0x01]
def wpsOui : List UInt8 := [0x00, 0x50, 0xf2, 0x04]
def rsnOui : List UInt8 := [0x00, 0x0f, 0xac]

/-- What the function reads of the adapter, and whether its `kmalloc` succeeds. -/
structure BeaconContext where
  opMode : OpMode
  infraOn : Bool
  bssid : List UInt8
  aid : BitVec 16
  channelSanity : UInt8 → Bool
  latchRfChannel : Nat
  wscAllocated : Bool

/-- How a case of the `switch` leaves it: to the next element, to the label `SanityCheck`, or
with `return false`. -/
inductive Exit where
  | next
  | sanityCheck
  | failed
  deriving DecidableEq

/-- A copy into a field of `ie_list`. -/
structure Store where
  capacity : Nat
  count : Nat

/-- What one element does. -/
structure Effect where
  reads : List Span := []
  stores : List Store := []
  reported : Bool := false
  sanity : BitVec 8 := 0
  htCapability : Bool := false
  ctrlChannel : Option UInt8 := none
  wps : Bool := false
  exit : Exit := .next

section cases
variable (c : BeaconContext) (mem : Memory) (pEid : Nat)

/-- `pEid->Len`. -/
def lenAt : Nat := (mem (pEid + 1)).toNat

/-- `pEid->Octet`, so many of them. -/
def octets (count : Nat) : Span := ⟨pEid + 2, count⟩

/-- The whole element, as it is copied to `pVIE`. -/
def wholeElement : Span := ⟨pEid, lenAt mem pEid + 2⟩

def isSta : Bool := decide (c.opMode = .sta)

def ssidEffect (seen : Bool) : Effect :=
  if seen then {}
  else if lenAt mem pEid ≤ maxLenOfSsid then
    { reads := [octets pEid (lenAt mem pEid)]
      stores := [⟨maxLenOfSsid, lenAt mem pEid⟩]
      sanity := 1 }
  else { exit := .sanityCheck }

def suppRatesEffect : Effect :=
  if lenAt mem pEid ≤ maxLenOfSupportedRates then
    { reads := [octets pEid (lenAt mem pEid)]
      stores := [⟨maxLenOfSupportedRates, lenAt mem pEid⟩]
      sanity := 2 }
  else { exit := .sanityCheck }

def htCapEffect : Effect :=
  if sizeHtCapIe ≤ lenAt mem pEid then
    { reads := [octets pEid sizeHtCapIe] ++ if isSta c then [wholeElement mem pEid] else []
      stores := [⟨sizeHtCapIe, sizeHtCapIe⟩]
      htCapability := true
      reported := isSta c }
  else {}

def addHtEffect : Effect :=
  if sizeAddHtInfoIe ≤ lenAt mem pEid then
    { reads := [octets pEid sizeAddHtInfoIe] ++ if isSta c then [wholeElement mem pEid] else []
      stores := [⟨sizeAddHtInfoIe, sizeAddHtInfoIe⟩]
      ctrlChannel := some (mem (pEid + 2))
      reported := isSta c }
  else {}

/-- An element that is read when its length is the one expected, and passed over otherwise. -/
def exactEffect (length : Nat) : Effect :=
  if lenAt mem pEid = length then { reads := [octets pEid length] } else {}

def dsParmEffect : Effect :=
  if lenAt mem pEid = 1 then
    if isSta c && !c.channelSanity (mem (pEid + 2)) then
      { reads := [octets pEid 1], exit := .sanityCheck }
    else { reads := [octets pEid 1], sanity := 4 }
  else { exit := .sanityCheck }

def cfParmEffect : Effect :=
  if lenAt mem pEid = 6 then { reads := [octets pEid 6] } else { exit := .failed }

def ibssParmEffect : Effect :=
  if lenAt mem pEid = 2 then { reads := [octets pEid 2], stores := [⟨2, 2⟩] }
  else { exit := .failed }

/-- A beacon of the BSS this station is in. -/
def isOwnBeacon : Bool :=
  decide ((mem 0).toNat / 16 = 8) && c.infraOn && mem.bytes 16 macAddrLen == c.bssid

/-- The byte of the partial virtual bitmap that `GetTimBit` looks at, in its `u8` arithmetic. -/
def timBitmapByte : Option Nat :=
  let timLen := mem (pEid + 1)
  let n1 := mem (pEid + 4) &&& 0xfe
  let n2 := timLen - 4 + n1
  if c.aid.toNat < n1.toNat * 8 ∨ (n2.toNat + 1) * 8 ≤ c.aid.toNat then none
  else some ((c.aid.toNat / 8 - n1.toNat) % 256)

def timEffect : Effect :=
  if isOwnBeacon c mem then
    { reads := [octets pEid 3] ++
        match timBitmapByte c mem pEid with
        | some myByte => [⟨pEid + 5 + myByte, 1⟩]
        | none => [] }
  else {}

/-- The vendor specific elements, in the order of their tests. -/
def vendorEffect (htCapability : Bool) : Effect :=
  let len := lenAt mem pEid
  if mem.equal (pEid + 2) ralinkOui && len == 7 then { reads := [octets pEid 3, octets pEid 4] }
  else if !htCapability && mem.equal (pEid + 2) broadcomOui && decide (4 ≤ len) && isSta c then
    { reads := [octets pEid 3, octets pEid 4] ++
        (if mem (pEid + 5) = 51 ∧ 30 ≤ len then [⟨pEid + 6, sizeHtCapIe⟩] else []) ++
        (if mem (pEid + 5) = 52 ∧ 26 ≤ len then [⟨pEid + 6, sizeAddHtInfoIe⟩] else [])
      stores :=
        (if mem (pEid + 5) = 51 ∧ 30 ≤ len then [⟨sizeHtCapIe, sizeHtCapIe⟩] else []) ++
        (if mem (pEid + 5) = 52 ∧ 26 ≤ len then [⟨sizeAddHtInfoIe, sizeAddHtInfoIe⟩] else []) }
  else if mem.equal (pEid + 2) wpaOui then
    { reads := [octets pEid 3, octets pEid 4, wholeElement mem pEid], reported := true }
  else if mem.equal (pEid + 2) wmeParmElem && len == 24 then
    { reads := [octets pEid 4, octets pEid 6, octets pEid 24] }
  else if mem.equal (pEid + 2) wmeInfoElem && len == 7 then
    { reads := [octets pEid 4, octets pEid 6, octets pEid 7] }
  else { reads := [octets pEid 4, octets pEid 6], wps := mem.equal (pEid + 2) wpsOui }

def extSuppRatesEffect : Effect :=
  if lenAt mem pEid ≤ maxLenOfSupportedRates then
    { reads := [octets pEid (lenAt mem pEid)]
      stores := [⟨maxLenOfSupportedRates, lenAt mem pEid⟩] }
  else {}

def aironetCkipEffect : Effect :=
  if lenAt mem pEid < ckipNegotiationLength - 2 then {} else { reads := [⟨pEid + 10, 1⟩] }

def rsnEffect : Effect :=
  if mem.equal (pEid + 4) rsnOui then
    { reads := [⟨pEid + 4, 3⟩, wholeElement mem pEid], reported := true }
  else { reads := [⟨pEid + 4, 3⟩] }

def countryEffect : Effect := { reads := [wholeElement mem pEid], reported := true }

def qbssLoadEffect : Effect :=
  if lenAt mem pEid = 5 then
    { reads := [octets pEid 5, wholeElement mem pEid], reported := true }
  else {}

def extCapabilityEffect : Effect :=
  if 1 ≤ lenAt mem pEid then
    let cpLen := min (lenAt mem pEid) sizeofExtCapInfo
    { reads := [octets pEid cpLen], stores := [⟨sizeofExtCapInfo, cpLen⟩] }
  else {}

/-- An element copied into a field of just its size. -/
def fieldEffect (size : Nat) : Effect :=
  if lenAt mem pEid = size then { reads := [octets pEid size], stores := [⟨size, size⟩] } else {}

/-- The `switch`. -/
def elementEffect (ssidSeen htCapability : Bool) : Effect :=
  match (mem pEid).toNat with
  | 0 => ssidEffect mem pEid ssidSeen
  | 1 => suppRatesEffect mem pEid
  | 45 => htCapEffect c mem pEid
  | 61 => addHtEffect c mem pEid
  | 62 => exactEffect mem pEid 1
  | 3 => dsParmEffect c mem pEid
  | 4 => cfParmEffect mem pEid
  | 6 => ibssParmEffect mem pEid
  | 5 => timEffect c mem pEid
  | 37 => exactEffect mem pEid 3
  | 221 => vendorEffect c mem pEid htCapability
  | 50 => extSuppRatesEffect mem pEid
  | 42 => exactEffect mem pEid 1
  | 133 => aironetCkipEffect mem pEid
  | 150 => exactEffect mem pEid 6
  | 48 => rsnEffect mem pEid
  | 7 => countryEffect mem pEid
  | 11 => qbssLoadEffect mem pEid
  | 127 => extCapabilityEffect mem pEid
  | 191 => fieldEffect mem pEid sizeofVhtCapIe
  | 192 => fieldEffect mem pEid sizeofVhtOpIe
  | 199 => fieldEffect mem pEid sizeofOperatingMode
  | _ => {}

end cases

/-- A `memmove` into the WPS buffer, its length as the subtraction gives it. -/
structure WscCopy where
  offset : Int
  count : Int

structure Trace where
  reads : List Span := []
  stores : List Store := []
  vieWrites : List Span := []
  wscCopies : List WscCopy := []

/-- `PeerWscIeLen` and `bWscCheck`. -/
structure WscState where
  peerWscIeLen : Int
  bWscCheck : Bool

/-- The reassembly of the WPS elements. -/
def wscReassemble (c : BeaconContext) (mem : Memory) (pEid : Nat) (wsc : WscState) :
    WscState × List WscCopy :=
  let count : Int := (lenAt mem pEid : Int) - 4
  if c.wscAllocated then
    if mem (pEid + 6) = 0x10 then ({ wsc with peerWscIeLen := count }, [⟨0, count⟩])
    else if wsc.peerWscIeLen + count ≤ wscBufferLen then
      ({ wsc with peerWscIeLen := wsc.peerWscIeLen + count }, [⟨wsc.peerWscIeLen, count⟩])
    else ({ wsc with bWscCheck := false }, [])
  else ({ wsc with bWscCheck := false }, [])

/-- The variables of the loop. -/
structure ScanState where
  lengthVIE : Nat
  sanity : BitVec 8
  htCapability : Bool
  ctrlChannel : UInt8
  wsc : WscState
  trace : Trace

/-- The element at `pEid` takes effect. -/
def ScanState.element (c : BeaconContext) (mem : Memory) (pEid : Nat) (s : ScanState) :
    ScanState × Exit :=
  let effect := elementEffect c mem pEid (s.sanity.getLsbD 0) s.htCapability
  let wsc := if effect.wps then wscReassemble c mem pEid s.wsc else (s.wsc, [])
  ({ lengthVIE := if effect.reported then s.lengthVIE + (lenAt mem pEid + 2) else s.lengthVIE
     sanity := s.sanity ||| effect.sanity
     htCapability := s.htCapability || effect.htCapability
     ctrlChannel := effect.ctrlChannel.getD s.ctrlChannel
     wsc := wsc.1
     trace :=
       { reads := s.trace.reads ++ ⟨pEid, 1⟩ :: effect.reads ++
           (if effect.wps && c.wscAllocated then [⟨pEid + 6, 1⟩] else []) ++
           wsc.2.map fun copy => ⟨pEid + 6, copy.count.toNat⟩
         stores := s.trace.stores ++ effect.stores
         vieWrites := s.trace.vieWrites ++
           if effect.reported then [⟨s.lengthVIE, lenAt mem pEid + 2⟩] else []
         wscCopies := s.trace.wscCopies ++ wsc.2 } }, effect.exit)

/-- The loop's test looks at `pEid->Len`. -/
def ScanState.readLen (pEid : Nat) (s : ScanState) : ScanState :=
  { s with trace := { s.trace with reads := s.trace.reads ++ [⟨pEid + 1, 1⟩] } }

/-- The loop, `Length` being the place of `pEid` in the frame. -/
def scanElements (c : BeaconContext) (mem : Memory) (msgLen length : Nat) (s : ScanState) :
    ScanState × Exit :=
  let s := s.readLen length
  if length + 2 + lenAt mem length ≤ msgLen then
    if maxVieLen ≤ s.lengthVIE + lenAt mem length + 2 then (s, .next)
    else
      let handled := s.element c mem length
      if handled.2 = .next then
        scanElements c mem msgLen (length + 2 + lenAt mem length) handled.1
      else handled
  else (s, .next)
termination_by msgLen - length

/-- The WPS element put together from its fragments is reported behind the others. -/
def ScanState.appendWsc (c : BeaconContext) (s : ScanState) : ScanState :=
  if c.wscAllocated && decide (0 < s.wsc.peerWscIeLen) &&
      decide (s.wsc.peerWscIeLen ≤ wscBufferLen) && s.wsc.bWscCheck then
    { s with
      lengthVIE := s.lengthVIE + (s.wsc.peerWscIeLen.toNat + 6)
      trace := { s.trace with
        vieWrites := s.trace.vieWrites ++
          [⟨s.lengthVIE, 6⟩, ⟨s.lengthVIE + 6, s.wsc.peerWscIeLen.toNat⟩] } }
  else s

def scanStart : ScanState where
  lengthVIE := 0
  sanity := 0
  htCapability := false
  ctrlChannel := 0
  wsc := ⟨0, true⟩
  trace := {}

structure BeaconOutcome where
  accepted : Bool
  state : ScanState

/-- `PeerBeaconAndProbeRspSanity`; the elements begin behind the header, the timestamp, the
beacon interval and the capabilities. -/
def peerBeaconAndProbeRspSanity (c : BeaconContext) (mem : Memory) (msgLen : Nat) :
    BeaconOutcome :=
  let scan := scanElements c mem msgLen 36 scanStart
  match scan.2 with
  | .failed => ⟨false, scan.1⟩
  | .sanityCheck => ⟨decide (scan.1.sanity = 7) && scan.1.wsc.bWscCheck, scan.1⟩
  | .next =>
      let s := scan.1.appendWsc c
      let sanity := if 14 < c.latchRfChannel then s.sanity ||| 4 else s.sanity
      ⟨decide (sanity = 7) && s.wsc.bWscCheck, { s with sanity := sanity }⟩

end Mt7612u.Mlme
