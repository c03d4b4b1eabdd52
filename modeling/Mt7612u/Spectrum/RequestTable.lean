import Mt7612u.Library.HashChains
import Mt7612u.Library.Directory
import Mt7612u.Library.Run

/-! The tables of `spectrum.c` that remember the dialog tokens of measurement and TPC requests. The
functions of the two tables are copies of each other, and are written once here. -/

namespace Mt7612u.Spectrum
open Library.HashChains Library.Directory

abbrev DialogToken := BitVec 8

/-- `ULONG`, the type of the system up time. -/
abbrev Time := BitVec 64

def maxMeasureReqTabSize : Nat := 32
def maxTpcReqTabSize : Nat := 32
def mqReqAgeOut : Time := 500
def tpcReqAgeOut : Time := 500

def mqDialogTokenHashIndex (dialogToken : DialogToken) : BitVec 8 :=
  dialogToken &&& BitVec.ofNat 8 (maxMeasureReqTabSize - 1)

def tpcDialogTokenHashIndex (dialogToken : DialogToken) : BitVec 8 :=
  dialogToken &&& BitVec.ofNat 8 (maxTpcReqTabSize - 1)

/-- `RTMP_TIME_AFTER`. -/
def rtmpTimeAfter (a b : Time) : Bool := (b - a).slt 0

inductive Table where
  | measureReq
  | tpcReq
  deriving DecidableEq, Repr

namespace Table

def maxSize : Table → Nat
  | .measureReq => maxMeasureReqTabSize
  | .tpcReq => maxTpcReqTabSize

def ageOut : Table → Time
  | .measureReq => mqReqAgeOut
  | .tpcReq => tpcReqAgeOut

def hashIndex : Table → DialogToken → BitVec 8
  | .measureReq => mqDialogTokenHashIndex
  | .tpcReq => tpcDialogTokenHashIndex

abbrev Index (table : Table) := Fin table.maxSize

theorem maxSize_lt (table : Table) : table.maxSize < 256 := by
  cases table <;> decide

end Table

/-- `MEASURE_REQ_ENTRY` and `TPC_REQ_ENTRY`. -/
structure ReqEntry (table : Table) where
  pNext : Option table.Index
  lastTime : Time
  valid : Bool
  dialogToken : DialogToken

/-- `MEASURE_REQ_TAB` and `TPC_REQ_TAB`. -/
structure ReqTab (table : Table) where
  size : BitVec 8
  hash : BitVec 8 → Option table.Index
  content : table.Index → ReqEntry table

/-- An entry after `memset`. -/
def clearedReq (table : Table) : ReqEntry table := ⟨none, 0, false, 0⟩

namespace ReqTab

variable {table : Table}

def Valid (t : ReqTab table) (i : table.Index) : Prop := (t.content i).valid = true

instance (t : ReqTab table) (i : table.Index) : Decidable (t.Valid i) :=
  inferInstanceAs (Decidable (_ = true))

def pNext (t : ReqTab table) (i : table.Index) : Option table.Index := (t.content i).pNext
def token (t : ReqTab table) (i : table.Index) : DialogToken := (t.content i).dialogToken
def bucket (t : ReqTab table) (i : table.Index) : BitVec 8 := table.hashIndex (t.token i)

/-- The table as `MeasureReqTabInit` and `TpcReqTabInit` leave it. -/
def empty (table : Table) : ReqTab table := ⟨0, fun _ => none, fun _ => clearedReq table⟩

def setEntry (t : ReqTab table) (i : table.Index) (entry : ReqEntry table) : ReqTab table :=
  { t with content := Function.update t.content i entry }

def setPNext (t : ReqTab table) (i : table.Index) (next : Option table.Index) : ReqTab table :=
  t.setEntry i { t.content i with pNext := next }

def setHash (t : ReqTab table) (index : BitVec 8) (head : Option table.Index) : ReqTab table :=
  { t with hash := Function.update t.hash index head }

def setSize (t : ReqTab table) (size : BitVec 8) : ReqTab table := { t with size := size }

/-- One step more than a chain of all entries needs. -/
def walkFuel (_ : ReqTab table) : Nat := table.maxSize + 1

/-- The entry of a token; `none` when the walk does not end. -/
def lookUp (t : ReqTab table) (dialogToken : DialogToken) : Option (Option table.Index) :=
  follow t.pNext (fun pEntry => t.token pEntry == dialogToken) t.walkFuel
    (t.hash (table.hashIndex dialogToken))

/-- An entry is aged out at a time. -/
def isAged (t : ReqTab table) (now : Time) (i : table.Index) : Bool :=
  (t.content i).valid && rtmpTimeAfter now ((t.content i).lastTime + table.ageOut)

/-- The entry at which the loop of an insertion stops. Every turn reads the clock. -/
def place (t : ReqTab table) (now : table.Index → Time) : Option table.Index :=
  (List.finRange table.maxSize).find? fun i => t.isAged (now i) i || !(t.content i).valid

/-- "update Hash list": the entry leaves its chain. An empty chain is a null pointer that is
followed. -/
def unlink (t : ReqTab table) (pEntry : table.Index) : Option (ReqTab table) :=
  match t.hash (t.bucket pEntry) with
  | none => none
  | some pProbeEntry =>
      (findPrevious t.pNext pEntry t.walkFuel none (some pProbeEntry)).map
        fun
        | some none => t.setHash (t.bucket pEntry) (t.pNext pEntry)
        | some (some pPrevEntry) => t.setPNext pPrevEntry (t.pNext pEntry)
        | none => t

/-- The entry is taken out of its chain and cleared. -/
def remove (t : ReqTab table) (pEntry : table.Index) : Option (ReqTab table) :=
  (t.unlink pEntry).map fun t => (t.setEntry pEntry (clearedReq table)).setSize (t.size - 1)

/-- The entry gets the token. Its link stays as it is. -/
def fill (t : ReqTab table) (pEntry : table.Index) (now : Time) (dialogToken : DialogToken) :
    ReqTab table :=
  (t.setEntry pEntry { t.content pEntry with
    lastTime := now
    valid := true
    dialogToken := dialogToken }).setSize (t.size + 1)

/-- "add this Neighbor entry into HASH table". -/
def link (t : ReqTab table) (pEntry : table.Index) : Option (ReqTab table) :=
  match t.hash (t.bucket pEntry) with
  | none => some (t.setHash (t.bucket pEntry) (some pEntry))
  | some head =>
      (follow t.pNext (fun pCurrEntry => (t.pNext pCurrEntry).isNone) t.walkFuel (some head)).map
        fun
        | some pCurrEntry => t.setPNext pCurrEntry (some pEntry)
        | none => t

/-- The entry at which the loop has stopped takes the token. -/
def takeEntry (t : ReqTab table) (i : table.Index) (now : Time) (dialogToken : DialogToken) :
    Option (ReqTab table) :=
  (if (t.content i).valid then t.remove i else some t).bind fun t =>
    (t.fill i now dialogToken).link i

/-- An insertion; `now` are the times read in the loop and `filled` the one read behind it. -/
def insert (t : ReqTab table) (now : table.Index → Time) (filled : Time)
    (dialogToken : DialogToken) : Option (Option table.Index × ReqTab table) :=
  (t.lookUp dialogToken).bind fun
  | some pEntry => some (some pEntry, t)
  | none =>
      match t.place now with
      | none => some (none, t)
      | some i => (t.takeEntry i filled dialogToken).map fun t => (some i, t)

def delete (t : ReqTab table) (dialogToken : DialogToken) : Option (ReqTab table) :=
  if t.size = 0 then some t
  else
    (t.lookUp dialogToken).bind fun
    | some pEntry => t.remove pEntry
    | none => some t

end ReqTab

def measureReqLookUp (t : ReqTab .measureReq) (dialogToken : DialogToken) :
    Option (Option (Table.Index .measureReq)) := t.lookUp dialogToken

def measureReqInsert (t : ReqTab .measureReq) (now : Table.Index .measureReq → Time)
    (filled : Time) (dialogToken : DialogToken) :
    Option (Option (Table.Index .measureReq) × ReqTab .measureReq) :=
  t.insert now filled dialogToken

def measureReqDelete (t : ReqTab .measureReq) (dialogToken : DialogToken) :
    Option (ReqTab .measureReq) := t.delete dialogToken

def tpcReqLookUp (t : ReqTab .tpcReq) (dialogToken : DialogToken) :
    Option (Option (Table.Index .tpcReq)) := t.lookUp dialogToken

def tpcReqInsert (t : ReqTab .tpcReq) (now : Table.Index .tpcReq → Time) (filled : Time)
    (dialogToken : DialogToken) : Option (Option (Table.Index .tpcReq) × ReqTab .tpcReq) :=
  t.insert now filled dialogToken

def tpcReqDelete (t : ReqTab .tpcReq) (dialogToken : DialogToken) : Option (ReqTab .tpcReq) :=
  t.delete dialogToken

/-- A call of one of the functions of a table. -/
inductive ReqCall (table : Table) where
  | lookUp (dialogToken : DialogToken)
  | insert (dialogToken : DialogToken) (now : table.Index → Time) (filled : Time)
  | delete (dialogToken : DialogToken)

/-- What a call has done to a token. -/
inductive ReqRecord where
  | inserted (dialogToken : DialogToken)
  | agedOut (dialogToken : DialogToken)
  | deleted (dialogToken : DialogToken)
  deriving DecidableEq, Repr

/-- A table and the record of what has been done to it, which the code does not keep. -/
structure ReqRun (table : Table) where
  tab : ReqTab table
  log : List ReqRecord

namespace ReqRun

variable {table : Table}

/-- The functions of the table under their own names. -/
def lookUpOf : (table : Table) → ReqTab table → DialogToken → Option (Option table.Index)
  | .measureReq => measureReqLookUp
  | .tpcReq => tpcReqLookUp

def insertOf : (table : Table) → ReqTab table → (table.Index → Time) → Time → DialogToken →
    Option (Option table.Index × ReqTab table)
  | .measureReq => measureReqInsert
  | .tpcReq => tpcReqInsert

def deleteOf : (table : Table) → ReqTab table → DialogToken → Option (ReqTab table)
  | .measureReq => measureReqDelete
  | .tpcReq => tpcReqDelete

/-- The records of an insertion: of the entry that is aged out, and of the new one. -/
def insertRecords (t : ReqTab table) (dialogToken : DialogToken) (now : table.Index → Time) :
    List ReqRecord :=
  match t.lookUp dialogToken, t.place now with
  | some none, some i =>
      (if (t.content i).valid then [.agedOut (t.token i)] else []) ++ [.inserted dialogToken]
  | _, _ => []

/-- One call; `none` is a call that does not return. -/
def perform (r : ReqRun table) : ReqCall table → Option (ReqRun table)
  | .lookUp dialogToken => (lookUpOf table r.tab dialogToken).map fun _ => r
  | .insert dialogToken now filled =>
      (insertOf table r.tab now filled dialogToken).map fun result =>
        ⟨result.2, r.log ++ insertRecords r.tab dialogToken now⟩
  | .delete dialogToken =>
      (deleteOf table r.tab dialogToken).map fun tab => ⟨tab, r.log ++ [.deleted dialogToken]⟩

def init (table : Table) : ReqRun table := ⟨.empty table, []⟩

end ReqRun

/-- A token that was inserted and that was neither deleted nor aged out since. -/
def Current (log : List ReqRecord) (dialogToken : DialogToken) : Prop :=
  ∃ before after, log = before ++ .inserted dialogToken :: after ∧
    .deleted dialogToken ∉ after ∧ .agedOut dialogToken ∉ after

end Mt7612u.Spectrum
