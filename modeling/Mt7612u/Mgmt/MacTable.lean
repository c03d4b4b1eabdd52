import Mt7612u.Library.HashChains
import Mt7612u.Library.Directory
import Mt7612u.Library.Run
import Mt7612u.BlockAck.Adapter

/-! The MAC table of `mgmt_entrytb.c`: the entries of the stations, and the hash chains through
their `pNext` fields that find them. -/

namespace Mt7612u.Mgmt
open Library.HashChains Library.Directory
open BlockAck (Wcid OpMode maxLenOfMacTable)

abbrev MacAddr := Fin 6 → BitVec 8

def hashTableSize : Nat := 256
def hwBeaconMaxNum : Nat := 16
def mainMbssid : BitVec 8 := 0

/-- `MAC_ADDR_HASH_INDEX`. -/
def macAddrHashIndex (addr : MacAddr) : BitVec 8 :=
  (addr 0 ^^^ addr 1 ^^^ addr 2 ^^^ addr 3 ^^^ addr 4 ^^^ addr 5) &&& BitVec.ofNat 8 (hashTableSize - 1)

/-- The types of entry that the functions here set. -/
inductive EntryType where
  | none
  | client
  deriving DecidableEq, Repr

/-- `MAC_TABLE_ENTRY`, less what only other functions read. -/
structure MacTableEntry where
  entryType : EntryType
  addr : MacAddr
  pNext : Option Wcid
  apidx : BitVec 8

/-- `struct mt7612u_mac_table`, and `StaCount` of every BSS. -/
structure MacTable where
  hash : BitVec 8 → Option Wcid
  content : Wcid → MacTableEntry
  size : BitVec 16
  staCount : BitVec 8 → BitVec 8

/-- What the functions read of the adapter beside the table. -/
structure Setting where
  opMode : OpMode
  /-- `BssType == BSS_INFRA`. -/
  bssInfra : Bool
  bssidNum : BitVec 8
  /-- `MAX_MBSSID_NUM`. -/
  bcnMaxNum : BitVec 8
  maxStaNum : BitVec 8 → BitVec 8

namespace MacTable

/-- `IS_VALID_ENTRY`. -/
def Valid (t : MacTable) (wcid : Wcid) : Prop := (t.content wcid).entryType ≠ .none

instance (t : MacTable) (wcid : Wcid) : Decidable (t.Valid wcid) :=
  inferInstanceAs (Decidable (_ ≠ _))

def pNext (t : MacTable) (wcid : Wcid) : Option Wcid := (t.content wcid).pNext
def addr (t : MacTable) (wcid : Wcid) : MacAddr := (t.content wcid).addr
def bucket (t : MacTable) (wcid : Wcid) : BitVec 8 := macAddrHashIndex (t.addr wcid)

/-- The zeroed table. -/
def empty : MacTable where
  hash := fun _ => none
  content := fun _ => ⟨.none, fun _ => 0, none, 0⟩
  size := 0
  staCount := fun _ => 0

def setEntry (t : MacTable) (wcid : Wcid) (entry : MacTableEntry) : MacTable :=
  { t with content := Function.update t.content wcid entry }

def setPNext (t : MacTable) (wcid : Wcid) (next : Option Wcid) : MacTable :=
  t.setEntry wcid { t.content wcid with pNext := next }

def setHash (t : MacTable) (index : BitVec 8) (head : Option Wcid) : MacTable :=
  { t with hash := Function.update t.hash index head }

def setStaCount (t : MacTable) (apidx count : BitVec 8) : MacTable :=
  { t with staCount := Function.update t.staCount apidx count }

def setSize (t : MacTable) (size : BitVec 16) : MacTable := { t with size := size }

end MacTable

/-- One step more than a chain of all entries needs. -/
def walkFuel : Nat := maxLenOfMacTable + 1

/-- The loop condition of `MacTableLookup`, negated. -/
def lookupStops (t : MacTable) (pAddr : MacAddr) (wcid : Wcid) : Bool :=
  (t.content wcid).entryType == .none || t.addr wcid == pAddr

/-- `MacTableLookup`; `none` when the walk does not end. -/
def macTableLookup (t : MacTable) (pAddr : MacAddr) : Option (Option Wcid) :=
  follow t.pNext (lookupStops t pAddr) walkFuel (t.hash (macAddrHashIndex pAddr))

def firstWcid (pAd : Setting) : Nat := if pAd.opMode = .sta ∧ pAd.bssInfra then 2 else 1

/-- The first vacancy from `FirstWcid` on. -/
def vacancy (pAd : Setting) (t : MacTable) : Option Wcid :=
  (List.finRange maxLenOfMacTable).find? fun i =>
    decide (firstWcid pAd ≤ i.val) && (t.content i).entryType == .none

/-- The connection table of the BSS is full. -/
def bssFull (pAd : Setting) (t : MacTable) (apidx : BitVec 8) : Bool :=
  pAd.opMode == .ap && decide (apidx < pAd.bssidNum) && decide (apidx < pAd.bcnMaxNum) &&
    decide (apidx.toNat < hwBeaconMaxNum) && pAd.maxStaNum apidx != 0 &&
    decide (pAd.maxStaNum apidx ≤ t.staCount apidx)

/-- `MBSS_MR_APIDX_SANITY_CHECK`. -/
def mbssMrApidxSanityCheck (pAd : Setting) (apidx : BitVec 8) : BitVec 8 :=
  if pAd.bcnMaxNum ≤ apidx ∨ hwBeaconMaxNum ≤ apidx.toNat then mainMbssid else apidx

/-- The entry goes to the end of the chain of its address. -/
def linkEntry (t : MacTable) (i : Wcid) (pAddr : MacAddr) : Option MacTable :=
  match t.hash (macAddrHashIndex pAddr) with
  | none => some (t.setHash (macAddrHashIndex pAddr) (some i))
  | some head =>
      (follow t.pNext (fun pCurrEntry => (t.pNext pCurrEntry).isNone) walkFuel (some head)).map
        fun
        | some pCurrEntry => t.setPNext pCurrEntry (some i)
        | none => t

/-- The vacant entry after `memset`. -/
def clearedEntry : MacTableEntry := ⟨.none, fun _ => 0, none, 0⟩

/-- What `MacTableInsertEntry` makes of the vacant entry and the counters. -/
def allocEntry (pAd : Setting) (t : MacTable) (i : Wcid) (pAddr : MacAddr) (apidx : BitVec 8) :
    MacTable :=
  let t := t.setEntry i { clearedEntry with entryType := .client, apidx := apidx, addr := pAddr }
  let bss := mbssMrApidxSanityCheck pAd apidx
  let t := if pAd.opMode = .ap then t.setStaCount bss (t.staCount bss + 1) else t
  t.setSize (t.size + 1)

/-- `MacTableInsertEntry`; `none` when the walk to the end of the chain does not end. -/
def macTableInsertEntry (pAd : Setting) (t : MacTable) (pAddr : MacAddr) (apidx : BitVec 8) :
    Option (Option Wcid × MacTable) :=
  if maxLenOfMacTable ≤ t.size.toNat then some (none, t)
  else
    match vacancy pAd t with
    | none => some (none, t)
    | some i =>
        if bssFull pAd t apidx then some (none, t.setEntry i clearedEntry)
        else (linkEntry (allocEntry pAd t i pAddr apidx) i pAddr).map fun t => (some i, t)

/-- The search for the entry before this one, and what it does with the link. -/
def unlinkEntry (t : MacTable) (wcid : Wcid) (pAddr : MacAddr) : Option MacTable :=
  (findPrevious t.pNext wcid walkFuel none (t.hash (macAddrHashIndex pAddr))).map
    fun
    | some none => t.setHash (macAddrHashIndex pAddr) (t.pNext wcid)
    | some (some pPrevEntry) => t.setPNext pPrevEntry (t.pNext wcid)
    | none => t

/-- The entry is invalidated. Its `pNext` stays as it is. -/
def invalidateEntry (t : MacTable) (wcid : Wcid) : MacTable :=
  let t := t.setEntry wcid { t.content wcid with addr := fun _ => 0, entryType := .none }
  t.setSize (t.size - 1)

/-- The station leaves the count of its BSS. -/
def discountEntry (t : MacTable) (wcid : Wcid) : MacTable :=
  if (t.content wcid).entryType = .client then
    t.setStaCount (t.content wcid).apidx (t.staCount (t.content wcid).apidx - 1)
  else t

/-- `MacTableDeleteEntry` for an index inside the table. -/
def deleteEntry (t : MacTable) (wcid : Wcid) (pAddr : MacAddr) : Option MacTable :=
  if (t.content wcid).entryType ≠ .none ∧ t.addr wcid = pAddr then
    (unlinkEntry (discountEntry t wcid) wcid pAddr).map (invalidateEntry · wcid)
  else some t

/-- `MacTableDeleteEntry`; `none` when the search does not end. -/
def macTableDeleteEntry (t : MacTable) (wcid : BitVec 16) (pAddr : MacAddr) :
    Option (Bool × MacTable) :=
  if known : wcid.toNat < maxLenOfMacTable then
    (deleteEntry t ⟨wcid.toNat, known⟩ pAddr).map fun t => (true, t)
  else some (false, t)

/-- The loop of `MacTableReset`, and whether it came to its end. It leaves early when a
de-authentication frame is due and there is no memory for it. -/
def resetLoop (pAd : Setting) (associated kmalloc : Wcid → Bool) :
    List Wcid → MacTable → Option (Bool × MacTable)
  | [], t => some (true, t)
  | i :: rest, t =>
      if (t.content i).entryType = .client ∧ pAd.opMode = .ap ∧ associated i ∧ !kmalloc i then
        some (false, t)
      else (deleteEntry t i (t.addr i)).bind (resetLoop pAd associated kmalloc rest)

/-- `MacTableReset`. Whether an entry is associated, and whether memory can be had for its frame,
comes from outside. -/
def macTableReset (pAd : Setting) (associated kmalloc : Wcid → Bool) (t : MacTable) :
    Option MacTable :=
  (resetLoop pAd associated kmalloc (List.finRange maxLenOfMacTable).tail t).map
    fun
    | (true, t) =>
        if pAd.opMode = .ap then
          { t with
            staCount := fun apidx => if apidx < pAd.bssidNum then 0 else t.staCount apidx
            size := 0 }
        else t
    | (false, t) => t

inductive MacTableCall where
  | insertEntry (pAd : Setting) (pAddr : MacAddr) (apidx : BitVec 8)
  | deleteEntry (wcid : BitVec 16) (pAddr : MacAddr)
  | reset (pAd : Setting) (associated kmalloc : Wcid → Bool)

/-- One call; `none` is a call that does not return. -/
def MacTableCall.perform (t : MacTable) : MacTableCall → Option MacTable
  | .insertEntry pAd pAddr apidx => (macTableInsertEntry pAd t pAddr apidx).map Prod.snd
  | .deleteEntry wcid pAddr => (macTableDeleteEntry t wcid pAddr).map Prod.snd
  | .reset pAd associated kmalloc => macTableReset pAd associated kmalloc t

def macTableStep (t : Option MacTable) (call : MacTableCall) : Option MacTable :=
  t.bind call.perform

end Mt7612u.Mgmt
