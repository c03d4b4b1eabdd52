import Mt7612u.Transmit.TimBitmap
import Mt7612u.BlockAck.ReorderList
import Mt7612u.Mgmt.MacTable
import Mt7612u.Receive.Memory

/-! The part of the adapter that packets to send go through: the software queues, the stations
with their power-save queues, and the traffic bitmaps. -/

namespace Mt7612u.Transmit
open BlockAck (Packet Wcid maxLenOfMacTable)
open Mgmt (MacAddr)

/-- `NUM_OF_TX_RING`. -/
def numOfTxRing : Nat := 5

abbrev QueIdx := Fin numOfTxRing

def qidAcBe : QueIdx := ⟨0, by decide⟩
def qidAcBk : QueIdx := ⟨1, by decide⟩
def qidAcVi : QueIdx := ⟨2, by decide⟩
def qidAcVo : QueIdx := ⟨3, by decide⟩

def maxPacketsInPsQueue : Nat := 128
def maxPacketsInMcastPsQueue : Nat := 32
def wdevNumMax : Nat := 16
def mcastWcid : Wcid := ⟨0, BlockAck.maxLenOfMacTable_pos⟩
def bssidWcid : Wcid := ⟨1, BlockAck.one_lt_maxLenOfMacTable⟩

/-- `QUEUE_HEADER`: the entries from `Head` on, and the `Number` kept beside them. -/
structure QueueHeader where
  entries : List Packet
  number : Nat
  deriving DecidableEq

namespace QueueHeader

/-- `InitializeQueueHeader`. -/
def empty : QueueHeader := ⟨[], 0⟩

def insertHeadQueue (q : QueueHeader) (pPacket : Packet) : QueueHeader :=
  ⟨pPacket :: q.entries, q.number + 1⟩

def insertTailQueue (q : QueueHeader) (pPacket : Packet) : QueueHeader :=
  ⟨q.entries ++ [pPacket], q.number + 1⟩

def removeHeadQueue (q : QueueHeader) : Option (Packet × QueueHeader) :=
  match q.entries with
  | [] => none
  | pPacket :: rest => some (pPacket, ⟨rest, q.number - 1⟩)

def Counted (q : QueueHeader) : Prop := q.number = q.entries.length

theorem counted_empty : empty.Counted := rfl

theorem counted_insertTailQueue {q : QueueHeader} (counted : q.Counted) (pPacket : Packet) :
    (q.insertTailQueue pPacket).Counted := by
  unfold Counted at *
  simp [insertTailQueue, counted]

theorem removeHeadQueue_eq_none {q : QueueHeader} :
    q.removeHeadQueue = none ↔ q.entries = [] := by
  unfold removeHeadQueue
  cases q.entries <;> simp

theorem removeHeadQueue_eq_some {q rest : QueueHeader} {pPacket : Packet} :
    q.removeHeadQueue = some (pPacket, rest) ↔
      q.entries = pPacket :: rest.entries ∧ rest.number = q.number - 1 := by
  obtain ⟨entries, number⟩ := rest
  unfold removeHeadQueue
  cases q.entries with
  | nil => simp
  | cons head tail => simp [and_assoc, eq_comm]

theorem counted_removeHeadQueue {q rest : QueueHeader} {pPacket : Packet} (counted : q.Counted)
    (removed : q.removeHeadQueue = some (pPacket, rest)) : rest.Counted := by
  obtain ⟨entries, number⟩ := removeHeadQueue_eq_some.mp removed
  unfold Counted at *
  rw [number, counted, entries, List.length_cons, Nat.add_sub_cancel]

end QueueHeader

/-- `NDIS_802_11_AUTHENTICATION_MODE`. -/
inductive AuthMode where
  | open
  | shared
  | autoSwitch
  | wpa
  | wpaPsk
  | wpaNone
  | wpa2
  | wpa2Psk
  | wpa1Wpa2
  | wpa1PskWpa2Psk
  deriving DecidableEq, Repr

/-- The place of a mode in the enumeration, on which its comparisons go. -/
def AuthMode.toNat : AuthMode → Nat
  | .open => 0
  | .shared => 1
  | .autoSwitch => 2
  | .wpa => 3
  | .wpaPsk => 4
  | .wpaNone => 5
  | .wpa2 => 6
  | .wpa2Psk => 7
  | .wpa1Wpa2 => 8
  | .wpa1PskWpa2Psk => 9

/-- What is read here of a `struct rtmp_wifi_dev`, and of the BSS behind one of type AP. -/
structure Wdev where
  /-- `wdev_type == WDEV_TYPE_AP`. -/
  wdevTypeAp : Bool
  authMode : AuthMode
  ieee8021X : Bool
  /-- `PortSecured == WPA_802_1X_PORT_SECURED`. -/
  portSecured : Bool
  vlanVid : Nat
  bWmmCapable : Bool
  filterUnusedPacket : BitVec 8

/-- The values of `EntryType`. -/
inductive EntryType where
  | none
  | client
  | wds
  | apcli
  | mesh
  | dls
  | tdls
  | mcast
  | wdev
  deriving DecidableEq, Repr

/-- The values that `PsMode` is given: those of the power management bit. -/
inductive PsMode where
  | pwrActive
  | pwrSave
  deriving DecidableEq, Repr

/-- `MAC_TABLE_ENTRY`, as far as sending and power saving read it. -/
structure StationEntry where
  entryType : EntryType
  /-- `none` for a null pointer. -/
  wdev : Option Wdev
  addr : MacAddr
  aid : BitVec 16
  apidx : BitVec 8
  /-- `Sst == SST_ASSOC`. -/
  associated : Bool
  portSecured : Bool
  psMode : PsMode
  wmmCapable : Bool
  psQIdleCount : Nat
  psQueue : QueueHeader

/-- The arguments of `RtmpEnqueueNullFrame` that depend on the station. -/
structure NullFrame where
  addr : MacAddr
  aid : BitVec 16
  apidx : BitVec 8
  bQosNull : Bool

/-- What is done with a packet of a power-save queue. -/
inductive PsEvent where
  | put (wcid : Wcid) (pPacket : Packet)
  | toTxSwQueue (wcid : Wcid) (pPacket : Packet)
  | freed (wcid : Wcid) (pPacket : Packet)
  deriving DecidableEq, Repr

structure TxAdapter where
  content : Wcid → StationEntry
  fAnyStationInPsm : Bool
  mcastPsQueue : QueueHeader
  txSwQueue : QueIdx → QueueHeader
  timBitmaps : BitVec 8 → TimBitmaps
  /-- The more-data mark of a packet. -/
  moreData : Packet → Bool
  nullFrames : List NullFrame
  /-- Every packet given to `dev_kfree_skb_any`, the earliest first. -/
  freed : List Packet
  /-- What became of the packets of the power-save queues; the code does not read it. -/
  psHistory : List PsEvent

inductive NdisStatus where
  | success
  | failure
  deriving DecidableEq, Repr

namespace TxAdapter

def psQueue (pAd : TxAdapter) (wcid : Wcid) : QueueHeader := (pAd.content wcid).psQueue

def setEntry (pAd : TxAdapter) (wcid : Wcid) (entry : StationEntry) : TxAdapter :=
  { pAd with content := Function.update pAd.content wcid entry }

def setPsQueue (pAd : TxAdapter) (wcid : Wcid) (q : QueueHeader) : TxAdapter :=
  pAd.setEntry wcid { pAd.content wcid with psQueue := q }

def setTim (pAd : TxAdapter) (apidx : BitVec 8) (pTim : TimBitmaps) : TxAdapter :=
  { pAd with timBitmaps := Function.update pAd.timBitmaps apidx pTim }

def record (pAd : TxAdapter) (event : PsEvent) : TxAdapter :=
  { pAd with psHistory := pAd.psHistory ++ [event] }

/-- `dev_kfree_skb_any`. -/
def kfree (pAd : TxAdapter) (pPacket : Packet) : TxAdapter :=
  { pAd with freed := pAd.freed ++ [pPacket] }

/-- `InsertTailQueueAc` at one of the software queues. -/
def insertTxSwQueue (pAd : TxAdapter) (queIdx : QueIdx) (pPacket : Packet) : TxAdapter :=
  { pAd with
    txSwQueue := Function.update pAd.txSwQueue queIdx
      ((pAd.txSwQueue queIdx).insertTailQueue pPacket) }

/-- `InsertHeadQueue` at `McastPsQueue`. -/
def insertMcastPsQueue (pAd : TxAdapter) (pPacket : Packet) : TxAdapter :=
  { pAd with mcastPsQueue := pAd.mcastPsQueue.insertHeadQueue pPacket }

/-- `InsertTailQueue` at a station's `PsQueue`. -/
def insertPsQueue (pAd : TxAdapter) (wcid : Wcid) (pPacket : Packet) : TxAdapter :=
  (pAd.setPsQueue wcid ((pAd.psQueue wcid).insertTailQueue pPacket)).record (.put wcid pPacket)

/-- `RemoveHeadQueue` at a `PsQueue` and `InsertTailQueueAc` of what it gives. -/
def movePsQueueHead (pAd : TxAdapter) (wcid : Wcid) : TxAdapter :=
  match (pAd.psQueue wcid).removeHeadQueue with
  | none => pAd
  | some (pPacket, rest) =>
      ((pAd.setPsQueue wcid rest).insertTxSwQueue qidAcBe pPacket).record
        (.toTxSwQueue wcid pPacket)

/-- `RemoveHeadQueue` at a `PsQueue` and `dev_kfree_skb_any` of what it gives. -/
def freePsQueueHead (pAd : TxAdapter) (wcid : Wcid) : TxAdapter :=
  match (pAd.psQueue wcid).removeHeadQueue with
  | none => pAd
  | some (pPacket, rest) =>
      ((pAd.setPsQueue wcid rest).kfree pPacket).record (.freed wcid pPacket)

/-- How many times a packet stands in the queues. -/
def held (pAd : TxAdapter) (pPacket : Packet) : Nat :=
  ∑ queIdx, (pAd.txSwQueue queIdx).entries.count pPacket +
    ∑ wcid, (pAd.psQueue wcid).entries.count pPacket +
    pAd.mcastPsQueue.entries.count pPacket

end TxAdapter

end Mt7612u.Transmit
