import Mt7612u.Mlme.BeaconSanity
import Mt7612u.Sta.Auth

/-! `PeerAssocRspSanity` of `sanity.c` and the walk of `AssocPostProc` over the elements of the scan
table, with what they read and what they store. -/

namespace Mt7612u.Sta
open Receive (Memory Span)
open Mlme

def ieSuppRates : Nat := 1
def maxLenOfRsnie : Nat := 255

/-- `NDIS_802_11_AUTHENTICATION_MODE`. -/
inductive AuthMode where
  | open
  | shared
  | autoSwitch
  | wpa
  | wpapsk
  | wpaNone
  | wpa2
  | wpa2psk
  | wpa1wpa2
  | wpa1pskwpa2psk
  deriving DecidableEq, Repr

namespace AuthMode

/-- `AuthMode >= Ndis802_11AuthModeWPA`. -/
def atLeastWpa : AuthMode → Bool
  | .open => false
  | .shared => false
  | .autoSwitch => false
  | _ => true

/-- WPA or WPA-PSK. -/
def isWpa (mode : AuthMode) : Bool := mode == .wpa || mode == .wpapsk

/-- WPA2 or WPA2-PSK. -/
def isWpa2 (mode : AuthMode) : Bool := mode == .wpa2 || mode == .wpa2psk

end AuthMode

/-- What is read of a buffer, and what is stored into fields of their own size. -/
structure Accesses where
  reads : List Span
  stores : List Store

def Accesses.Inside (length : Nat) (accesses : Accesses) : Prop :=
  (∀ span ∈ accesses.reads, span.start + span.count ≤ length) ∧
    ∀ store ∈ accesses.stores, store.count ≤ store.capacity

section elements
variable (mem : Memory) (pEid : Nat)

def assocHtCapEffect : Effect :=
  if sizeHtCapIe ≤ lenAt mem pEid then
    { reads := [octets pEid sizeHtCapIe], stores := [⟨sizeHtCapIe, sizeHtCapIe⟩] }
  else {}

def assocAddHtEffect : Effect :=
  if sizeAddHtInfoIe ≤ lenAt mem pEid then
    { reads := [octets pEid sizeAddHtInfoIe], stores := [⟨sizeAddHtInfoIe, sizeAddHtInfoIe⟩] }
  else {}

/-- The AC index of an EDCA parameter record. -/
def aci (i : Nat) : Nat := (mem (pEid + 10 + 4 * i)).toNat / 32 % 4

/-- The WME parameter element; the arrays of `EDCA_PARM` have four entries. -/
def wmeParmEffect : Effect :=
  if mem.equal (pEid + 2) wmeParmElem && lenAt mem pEid == 24 then
    { reads := [octets pEid 6, octets pEid 24]
      stores := (List.range 4).map fun i => ⟨4, aci mem pEid i + 1⟩ }
  else { reads := [octets pEid 6] }

/-- The `switch`. -/
def assocElementEffect : Effect :=
  match (mem pEid).toNat with
  | 50 => extSuppRatesEffect mem pEid
  | 45 => assocHtCapEffect mem pEid
  | 52 => assocHtCapEffect mem pEid
  | 61 => assocAddHtEffect mem pEid
  | 53 => assocAddHtEffect mem pEid
  | 62 => fieldEffect mem pEid 1
  | 191 => fieldEffect mem pEid sizeofVhtCapIe
  | 192 => fieldEffect mem pEid sizeofVhtOpIe
  | 221 => wmeParmEffect mem pEid
  | 127 => extCapabilityEffect mem pEid
  | _ => {}

end elements

/-- The loop over the elements, `Length` being the place of `pEid` in the frame. -/
def scanAssocElements (mem : Memory) (msgLen length : Nat) : Accesses :=
  if length + 2 + lenAt mem length ≤ msgLen then
    let effect := assocElementEffect mem length
    let rest := scanAssocElements mem msgLen (length + 2 + lenAt mem length)
    ⟨[⟨length + 1, 1⟩, ⟨length, 1⟩] ++ effect.reads ++ rest.reads, effect.stores ++ rest.stores⟩
  else ⟨[⟨length + 1, 1⟩], []⟩
termination_by msgLen - length

/-- What `PeerAssocRspSanity` returns, the parameters its caller looks at first, and its
accesses. -/
structure AssocRsp where
  accepted : Bool
  addr2 : Address
  status : BitVec 16
  accesses : Accesses

/-- `PeerAssocRspSanity`. -/
def peerAssocRspSanity (frame : Memory) (msgLen : Nat) : AssocRsp :=
  let status := octets16 frame 2
  let header : List Span := [⟨10, 6⟩, ⟨24, 2⟩, ⟨26, 2⟩]
  if status ≠ mlmeSuccess then ⟨true, addr2 frame, status, ⟨header, []⟩⟩
  else
    let supRateLen := (frame 31).toNat
    let rates : List Span := header ++ [⟨28, 2⟩, ⟨30, 1⟩, ⟨31, 1⟩]
    if (frame 30).toNat ≠ ieSuppRates ∨ maxLenOfSupportedRates < supRateLen then
      ⟨false, addr2 frame, status, ⟨rates, []⟩⟩
    else
      let scan := scanAssocElements frame msgLen (32 + supRateLen)
      ⟨true, addr2 frame, status,
        ⟨rates ++ ⟨32, supRateLen⟩ :: scan.reads, ⟨maxLenOfSupportedRates, supRateLen⟩ :: scan.stores⟩⟩

section walk
variable (mode : AuthMode) (varIEs : Memory)

/-- The element is the RSN element that the mode asks for. -/
def isRsnIe (pVIE : Nat) : Bool :=
  (varIEs pVIE).toNat == 221 && varIEs.equal (pVIE + 2) wpaOui && mode.isWpa ||
    (varIEs pVIE).toNat == 48 && varIEs.equal (pVIE + 4) rsnOui && mode.isWpa2

/-- The comparisons with the OUIs. -/
def ouiReads (pVIE : Nat) : List Span :=
  if (varIEs pVIE).toNat = 221 then [⟨pVIE + 2, 4⟩]
  else if (varIEs pVIE).toNat = 48 then [⟨pVIE + 4, 3⟩]
  else []

/-- `RSN_IE` and `RSNIE_Len` of the entry, with the accesses so far. -/
structure RsnWalk where
  rsnIe : List UInt8
  rsnieLen : BitVec 8
  accesses : Accesses

/-- One turn of the walk. -/
def rsnTurn (pVIE : Nat) (s : RsnWalk) : RsnWalk :=
  let count := lenAt varIEs pVIE + 2
  let looked := s.accesses.reads ++ ⟨pVIE, 1⟩ :: ouiReads varIEs pVIE ++ [⟨pVIE + 1, 1⟩]
  if isRsnIe mode varIEs pVIE then
    ⟨varIEs.bytes pVIE count, BitVec.ofNat 8 count,
      ⟨looked ++ [⟨pVIE, count⟩], s.accesses.stores ++ [⟨maxLenOfRsnie, count⟩]⟩⟩
  else { s with accesses := ⟨looked, s.accesses.stores⟩ }

/-- The walk, when it ends after so many turns; the rest of the length has 16 bits. -/
def rsnWalk : Nat → Nat → BitVec 16 → RsnWalk → Option RsnWalk
  | 0, _, len, s => if len = 0 then some s else none
  | turns + 1, pVIE, len, s =>
      if len = 0 then some s
      else
        rsnWalk turns (pVIE + (lenAt varIEs pVIE + 2))
          (len - BitVec.ofNat 16 (lenAt varIEs pVIE + 2)) (rsnTurn mode varIEs pVIE s)

/-- The part of `AssocPostProc` that stores the RSN element. -/
def assocPostProcRsn (turns : Nat) (varIELen : BitVec 16) : Option RsnWalk :=
  if mode.atLeastWpa ∧ varIELen ≠ 0 then
    rsnWalk mode varIEs turns 0 varIELen ⟨[], 0, ⟨[], []⟩⟩
  else some ⟨[], 0, ⟨[], []⟩⟩

end walk

end Mt7612u.Sta
