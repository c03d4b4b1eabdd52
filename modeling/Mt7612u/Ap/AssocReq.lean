import Mt7612u.Sta.AssocSanity

/-! `PeerAssocReqCmmSanity` of `ap_sanity.c`: what an access point takes from an association
request, with a record of what it reads of the frame and what it stores. -/

namespace Mt7612u.Ap
open Receive (Memory Span)
open Mlme
open Sta (Accesses maxLenOfRsnie)

/-- `IE_LISTS`. The arrays are held as far as they are filled. -/
structure IeLists where
  addr2 : List UInt8 := []
  apAddr : List UInt8 := []
  capabilityInfo : BitVec 16 := 0
  listenInterval : BitVec 16 := 0
  ssid : List UInt8 := []
  supportedRates : List UInt8 := []
  rsnIe : List UInt8 := []
  rsnieLen : BitVec 8 := 0
  wmmCapable : Bool := false
  ralinkIe : Nat := 0
  extCapInfo : List UInt8 := []
  htCapability : List UInt8 := []
  vhtCap : List UInt8 := []
  vhtOp : List UInt8 := []
  operatingMode : List UInt8 := []

/-- The lists so far, with the bits `0x01` and `0x02` of `Sanity`. -/
structure Scan where
  lists : IeLists
  ssidSeen : Bool := false
  ratesSeen : Bool := false

/-- What one element does: `returned` is `return false`. -/
structure Turn where
  scan : Scan
  reads : List Span := []
  stores : List Store := []
  returned : Bool := false

def rateDefault : List UInt8 := [0x82, 0x84, 0x8b, 0x96, 0x12, 0x24, 0x48, 0x6c]

def minLenOfRsnie : Nat := 18

def capabilityOf (mem : Memory) (offset : Nat) : BitVec 16 :=
  BitVec.ofNat 16 ((mem offset).toNat + 256 * (mem (offset + 1)).toNat)

section elements
variable (mem : Memory) (pEid : Nat) (s : Scan)

/-- `eid_ptr->Octet`, so many of them. -/
def octetBytes (count : Nat) : List UInt8 := mem.bytes (pEid + 2) count

def ssidTurn : Turn :=
  if s.ssidSeen then { scan := s }
  else if lenAt mem pEid ≤ maxLenOfSsid then
    { scan := { s with
        lists := { s.lists with ssid := octetBytes mem pEid (lenAt mem pEid) }
        ssidSeen := true }
      reads := [octets pEid (lenAt mem pEid)]
      stores := [⟨maxLenOfSsid, lenAt mem pEid⟩] }
  else { scan := s, returned := true }

def suppRatesTurn : Turn :=
  if lenAt mem pEid ≤ maxLenOfSupportedRates ∧ 0 < lenAt mem pEid then
    { scan := { s with
        lists := { s.lists with supportedRates := octetBytes mem pEid (lenAt mem pEid) }
        ratesSeen := true }
      reads := [octets pEid (lenAt mem pEid)]
      stores := [⟨maxLenOfSupportedRates, lenAt mem pEid⟩] }
  else
    { scan := { s with
        lists := { s.lists with supportedRates := rateDefault }
        ratesSeen := true }
      stores := [⟨maxLenOfSupportedRates, rateDefault.length⟩] }

/-- The extended rates go behind the rates, as far as there is room. -/
def extSuppRatesTurn : Turn :=
  let held := s.lists.supportedRates.length
  let count :=
    if lenAt mem pEid + held ≤ maxLenOfSupportedRates then lenAt mem pEid
    else maxLenOfSupportedRates - held
  { scan := { s with
      lists := { s.lists with
        supportedRates := s.lists.supportedRates ++ octetBytes mem pEid count } }
    reads := [octets pEid count]
    stores := [⟨maxLenOfSupportedRates, held + count⟩] }

def htCapTurn : Turn :=
  if sizeHtCapIe ≤ lenAt mem pEid then
    { scan := { s with
        lists := { s.lists with htCapability := octetBytes mem pEid sizeHtCapIe } }
      reads := [octets pEid sizeHtCapIe]
      stores := [⟨sizeHtCapIe, sizeHtCapIe⟩] }
  else { scan := s }

def extCapabilityTurn : Turn :=
  if lenAt mem pEid ≠ 0 then
    let extLen := min (lenAt mem pEid) sizeofExtCapInfo
    { scan := { s with lists := { s.lists with extCapInfo := octetBytes mem pEid extLen } }
      reads := [octets pEid extLen]
      stores := [⟨sizeofExtCapInfo, extLen⟩] }
  else { scan := s }

/-- The Broadcom draft element: a capability behind its OUI and type. -/
def broadcomTurn : Turn :=
  if mem.equal (pEid + 2) broadcomOui then
    if mem (pEid + 5) = 0x33 ∧ lenAt mem pEid = sizeHtCapIe + 4 then
      { scan := { s with
          lists := { s.lists with htCapability := mem.bytes (pEid + 6) sizeHtCapIe } }
        reads := [octets pEid 3, ⟨pEid + 5, 1⟩, ⟨pEid + 6, sizeHtCapIe⟩]
        stores := [⟨sizeHtCapIe, sizeHtCapIe⟩] }
    else { scan := s, reads := [octets pEid 3, ⟨pEid + 5, 1⟩] }
  else { scan := s, reads := [octets pEid 3] }

/-- The last part of the case: an element that starts with the WPA OUI or has the RSN OUI behind a
version is kept whole. -/
def rsnTurn : Turn :=
  let wpa := mem.equal (pEid + 2) wpaOui
  let looked : List Span := if wpa then [octets pEid 4] else [octets pEid 4, ⟨pEid + 4, 3⟩]
  if wpa ∨ mem.equal (pEid + 4) rsnOui then
    if minLenOfRsnie ≤ lenAt mem pEid then
      { scan := { s with
          lists := { s.lists with
            rsnIe := mem.bytes pEid (lenAt mem pEid + 2)
            rsnieLen := BitVec.ofNat 8 (lenAt mem pEid + 2) } }
        reads := looked ++ [wholeElement mem pEid]
        stores := [⟨maxLenOfRsnie, lenAt mem pEid + 2⟩] }
    else { scan := { s with lists := { s.lists with rsnieLen := 0 } }, reads := looked, returned := true }
  else { scan := s, reads := looked }

/-- Two steps of one case, one after the other. -/
def Turn.followedBy (first : Turn) (second : Scan → Turn) : Turn :=
  let next := second first.scan
  { scan := next.scan
    reads := first.reads ++ next.reads
    stores := first.stores ++ next.stores
    returned := next.returned }

/-- From the comparison with `RALINK_OUI` on; `wpa` is `AuthMode >= Ndis802_11AuthModeWPA`. -/
def ralinkTurn (wpa : Bool) : Turn :=
  if mem.equal (pEid + 2) ralinkOui ∧ lenAt mem pEid = 7 then
    { scan := { s with
        lists := { s.lists with
          ralinkIe := if mem (pEid + 5) ≠ 0 then (mem (pEid + 5)).toNat else 0xf0000000 } }
      reads := [octets pEid 3, ⟨pEid + 5, 1⟩] }
  else if mem.equal (pEid + 2) wmeInfoElem ∧ lenAt mem pEid = 7 then
    { scan := { s with lists := { s.lists with wmmCapable := true } }
      reads := [octets pEid 3, octets pEid 6] }
  else if wpa then
    Turn.followedBy { scan := s, reads := [octets pEid 3, octets pEid 6] } (rsnTurn mem pEid)
  else { scan := s, reads := [octets pEid 3, octets pEid 6] }

/-- `case IE_WPA` and `case IE_WPA2`. -/
def vendorTurn (wpa : Bool) : Turn :=
  if mem.equal (pEid + 2) wpsOui then { scan := s, reads := [octets pEid 4] }
  else
    Turn.followedBy { scan := s, reads := [octets pEid 4] } fun s =>
      (broadcomTurn mem pEid s).followedBy fun s => ralinkTurn mem pEid s wpa

def operatingModeTurn : Turn :=
  if lenAt mem pEid = sizeofOperatingMode then
    { scan := { s with
        lists := { s.lists with operatingMode := octetBytes mem pEid sizeofOperatingMode } }
      reads := [octets pEid sizeofOperatingMode]
      stores := [⟨sizeofOperatingMode, sizeofOperatingMode⟩] }
  else { scan := s }

/-- The case of the VHT operation falls through to the next. -/
def vhtOpTurn : Turn :=
  Turn.followedBy
    (if lenAt mem pEid = sizeofVhtOpIe then
      { scan := { s with
          lists := { s.lists with vhtOp := octetBytes mem pEid sizeofVhtOpIe } }
        reads := [octets pEid sizeofVhtOpIe]
        stores := [⟨sizeofVhtOpIe, sizeofVhtOpIe⟩] }
    else { scan := s })
    (operatingModeTurn mem pEid)

/-- So does that of the VHT capabilities. -/
def vhtCapTurn : Turn :=
  Turn.followedBy
    (if lenAt mem pEid = sizeofVhtCapIe then
      { scan := { s with
          lists := { s.lists with vhtCap := octetBytes mem pEid sizeofVhtCapIe } }
        reads := [octets pEid sizeofVhtCapIe]
        stores := [⟨sizeofVhtCapIe, sizeofVhtCapIe⟩] }
    else { scan := s })
    (vhtOpTurn mem pEid)

/-- The `switch`. -/
def elementTurn (wpa : Bool) : Turn :=
  match (mem pEid).toNat with
  | 0 => ssidTurn mem pEid s
  | 1 => suppRatesTurn mem pEid s
  | 50 => extSuppRatesTurn mem pEid s
  | 45 => htCapTurn mem pEid s
  | 127 => extCapabilityTurn mem pEid s
  | 221 => vendorTurn mem pEid s wpa
  | 48 => vendorTurn mem pEid s wpa
  | 191 => vhtCapTurn mem pEid s
  | 192 => vhtOpTurn mem pEid s
  | 199 => operatingModeTurn mem pEid s
  | _ => { scan := s }

end elements

/-- The loop over the elements: what is left of it, or nothing after `return false`. -/
structure Scanned where
  scan : Option Scan
  accesses : Accesses

def scanElements (wpa : Bool) (mem : Memory) (msgLen pEid : Nat) (s : Scan) : Scanned :=
  if pEid + lenAt mem pEid + 1 < msgLen then
    let turn := elementTurn mem pEid s wpa
    let reads : List Span := [⟨pEid + 1, 1⟩, ⟨pEid, 1⟩] ++ turn.reads
    if turn.returned then ⟨none, ⟨reads, turn.stores⟩⟩
    else
      let rest := scanElements wpa mem msgLen (pEid + 2 + lenAt mem pEid) turn.scan
      ⟨rest.scan, ⟨reads ++ rest.accesses.reads, turn.stores ++ rest.accesses.stores⟩⟩
  else ⟨some s, ⟨[⟨pEid + 1, 1⟩], []⟩⟩
termination_by msgLen - pEid

/-- What the function reads of the adapter: whether the sender has an entry, and whether the mode
of its BSS is WPA or above. -/
structure AssocReqContext where
  found : Bool
  wpa : Bool

/-- The lists, when they are accepted. -/
structure AssocReq where
  lists : Option IeLists
  accesses : Accesses

/-- `PeerAssocReqCmmSanity`. -/
def peerAssocReqCmmSanity (c : AssocReqContext) (isReassoc : Bool) (frame : Memory)
    (msgLen : Nat) : AssocReq :=
  if c.found = false then ⟨none, ⟨[⟨10, 6⟩], []⟩⟩
  else
    let fixed : IeLists := {
      addr2 := frame.bytes 10 6
      capabilityInfo := capabilityOf frame 24
      listenInterval := capabilityOf frame 26
      apAddr := if isReassoc then frame.bytes 28 6 else [] }
    let header : List Span := [⟨10, 6⟩, ⟨24, 2⟩, ⟨26, 2⟩] ++ if isReassoc then [⟨28, 6⟩] else []
    let scanned := scanElements c.wpa frame msgLen (if isReassoc then 34 else 28) { lists := fixed }
    { lists := scanned.scan.bind fun s =>
        if s.ssidSeen && s.ratesSeen then some s.lists else none
      accesses := ⟨header ++ scanned.accesses.reads, scanned.accesses.stores⟩ }

/-- The copy into `pEntry->RSN_IE` that `APBuildAssociation` makes. -/
def rsnIeCopy (lists : IeLists) : Store := ⟨maxLenOfRsnie, lists.rsnieLen.toNat⟩

end Mt7612u.Ap
