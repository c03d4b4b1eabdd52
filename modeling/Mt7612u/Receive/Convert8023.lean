import Mt7612u.Receive.Memory

/-! The header conversion of `rtmp.h`: `CONVERT_TO_802_3` builds the 802.3 header of a
received payload and takes its LLC/SNAP encapsulation off. -/

namespace Mt7612u.Receive

def snap8021H : List UInt8 := [0xaa, 0xaa, 0x03, 0x00, 0x00, 0x00]
def snapBridgeTunnel : List UInt8 := [0xaa, 0xaa, 0x03, 0x00, 0x00, 0xf8]
def ipx : List UInt8 := [0x81, 0x37]
def appleTalk : List UInt8 := [0x80, 0xf3]
def eapol : List UInt8 := [0x88, 0x8e]

def macAddrLen : Nat := 6
def length8023 : Nat := 14
def length8023NoType : Nat := 12
def length8021H : Nat := 8
def maxRxPktLen : Nat := 1520

/-- `NdisEqualMemory`. -/
def Memory.equal (mem : Memory) (start : Nat) (pattern : List UInt8) : Bool :=
  mem.bytes start pattern.length == pattern

/-- A 16-bit length. -/
def u16 (n : Int) : Nat := (n % 65536).toNat

/-- One of the two SNAP prefixes stands at `pData`. -/
def hasSnap (mem : Memory) (pData : Nat) : Bool :=
  mem.equal pData snap8021H || mem.equal pData snapBridgeTunnel

/-- IPX and AppleTalk behind an RFC 1042 prefix keep their LLC/SNAP field. -/
def keepsSnap (mem : Memory) (pData : Nat) : Bool :=
  (mem.equal (pData + 6) ipx || mem.equal (pData + 6) appleTalk) && mem.equal pData snap8021H

structure Converted where
  p8023hdr : List UInt8
  pData : Nat
  dataSize : Nat
  pRemovedLLCSNAP : Option Nat

/-- `MAKE_802_3_HEADER`. -/
def make8023Header (mem : Memory) (pMac1 pMac2 : Nat) (pType : List UInt8) : List UInt8 :=
  mem.bytes pMac1 macAddrLen ++ mem.bytes pMac2 macAddrLen ++ pType

def llcLen (dataSize : Nat) : List UInt8 :=
  [UInt8.ofNat (dataSize >>> 8), UInt8.ofNat (dataSize &&& 255)]

/-- `CONVERT_TO_802_3`. -/
def convertTo8023 (mem : Memory) (pDA pSA pData dataSize : Nat) : Converted :=
  if hasSnap mem pData then
    if keepsSnap mem pData then
      { p8023hdr := make8023Header mem pDA pSA (llcLen dataSize)
        pData := pData
        dataSize := dataSize
        pRemovedLLCSNAP := none }
    else
      { p8023hdr := make8023Header mem pDA pSA (mem.bytes (pData + 6) 2)
        pData := pData + length8021H
        dataSize := u16 (dataSize - length8021H)
        pRemovedLLCSNAP := some pData }
  else
    { p8023hdr := make8023Header mem pDA pSA (llcLen dataSize)
      pData := pData
      dataSize := dataSize
      pRemovedLLCSNAP := none }

/-- The encapsulation is taken off this payload. -/
def removesSnap (mem : Memory) (pData : Nat) : Bool :=
  hasSnap mem pData && !keepsSnap mem pData

theorem convertTo8023_dataSize (mem : Memory) (pDA pSA pData dataSize : Nat) :
    (convertTo8023 mem pDA pSA pData dataSize).dataSize =
      if removesSnap mem pData then u16 (dataSize - length8021H) else dataSize := by
  unfold convertTo8023 removesSnap
  cases hasSnap mem pData <;> cases keepsSnap mem pData <;> simp

end Mt7612u.Receive
