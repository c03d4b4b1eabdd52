import Mt7612u.Security.CipherParse

/-! The tables of BSSs found in a scan, `mlme.c`. An entry points to a buffer for the elements of a
probe response, which lies outside of the table. -/

namespace Mt7612u.Mlme
open Receive (Memory)
open Security (AuthMode rank)
open Sta (WepStatus BssType)

/-- The table is made small by `MEMORY_OPTIMIZATION`. -/
inductive TableBuild where
  | memoryOptimization
  | standard
  deriving DecidableEq, Repr

def maxLenOfBssTable : TableBuild → Nat
  | .memoryOptimization => 1
  | .standard => 128

/-- Blocks of memory by address; 0 is NULL. -/
abbrev Heap := Nat → Memory

def null : Nat := 0

/-- `RTMPZeroMemory(pOldAddr, MAX_VIE_LEN)`. -/
def Heap.zeroVie (heap : Heap) (address : Nat) : Heap :=
  Function.update heap address ((heap address).write 0 (List.replicate maxVieLen 0))

def Heap.move (heap : Heap) (target source count : Nat) : Heap :=
  Function.update heap target ((heap target).write 0 ((heap source).bytes 0 count))

/-- What `BssEntrySet` sets besides BSSID and channel, with the bytes of all that is not named. -/
structure BssFields where
  rssi : Int
  hidden : Bool
  ssid : List UInt8
  supRateLen : UInt8
  extRateLen : UInt8
  htCapabilityLen : UInt8
  security : Security.BssEntry
  others : Memory

structure BssEntry where
  bssid : List UInt8
  channel : UInt8
  varIeFromProbeRspLen : Nat
  pVarIeFromProbRsp : Nat
  fields : BssFields

/-- `memset` of an entry. -/
def BssEntry.zero : BssEntry where
  bssid := List.replicate 6 0
  channel := 0
  varIeFromProbeRspLen := 0
  pVarIeFromProbRsp := null
  fields :=
    { rssi := 0
      hidden := false
      ssid := []
      supRateLen := 0
      extRateLen := 0
      htCapabilityLen := 0
      security :=
        { privacy := false
          bssType := .adhoc
          ses := false
          wepStatus := .wepEnabled
          authMode := .open
          authModeAux := .open
          wpa := ⟨.wepEnabled, .wepEnabled, .wepEnabled, 0, false⟩
          wpa2 := ⟨.wepEnabled, .wepEnabled, .wepEnabled, 0, false⟩ }
      others := fun _ => 0 }

structure BssTable where
  bssNr : Nat
  bssOverlapNr : Nat
  bssEntry : Nat → BssEntry

def BssTable.set (tab : BssTable) (i : Nat) (entry : BssEntry) : BssTable :=
  { tab with bssEntry := Function.update tab.bssEntry i entry }

section Init

/-- An entry as `BssTableInit` leaves it, with the lowest RSSI. -/
def BssEntry.initial : BssEntry :=
  { BssEntry.zero with fields := { BssEntry.zero.fields with rssi := -127 } }

/-- A turn of the loop of `BssTableInit`. -/
def initEntry (state : BssTable × Heap) (i : Nat) : BssTable × Heap :=
  let (tab, heap) := state
  let pOldAddr := (tab.bssEntry i).pVarIeFromProbRsp
  if pOldAddr ≠ null then
    (tab.set i { BssEntry.initial with pVarIeFromProbRsp := pOldAddr }, heap.zeroVie pOldAddr)
  else (tab.set i BssEntry.initial, heap)

def bssTableInit (build : TableBuild) (tab : BssTable) (heap : Heap) : BssTable × Heap :=
  (List.range (maxLenOfBssTable build)).foldl initEntry
    ({ tab with bssNr := 0, bssOverlapNr := 0 }, heap)

theorem foldl_initEntry (tab : BssTable) (heap : Heap) (count : Nat) :
    ((List.range count).foldl initEntry (tab, heap)).1 =
      { tab with
        bssEntry := fun i =>
          if i < count then
            { BssEntry.initial with pVarIeFromProbRsp := (tab.bssEntry i).pVarIeFromProbRsp }
          else tab.bssEntry i } := by
  induction count with
  | zero => rfl
  | succ count ih =>
    have turn (state : BssTable × Heap) (i : Nat) :
        (initEntry state i).1 = state.1.set i
          { BssEntry.initial with
            pVarIeFromProbRsp := (state.1.bssEntry i).pVarIeFromProbRsp } := by
      unfold initEntry
      dsimp only
      split_ifs with owned
      · rfl
      · rw [not_not.mp owned]
        rfl
    rw [List.range_succ, List.foldl_append, List.foldl_cons, List.foldl_nil, turn, ih]
    unfold BssTable.set
    congr 1
    funext i
    grind

theorem foldl_initEntry_heap (tab : BssTable) (heap : Heap) (count : Nat) {address : Nat}
    (other : ∀ i < count, (tab.bssEntry i).pVarIeFromProbRsp ≠ address) :
    ((List.range count).foldl initEntry (tab, heap)).2 address = heap address := by
  induction count with
  | zero => rfl
  | succ count ih =>
    have turn (state : BssTable × Heap) (i : Nat)
        (apart : (state.1.bssEntry i).pVarIeFromProbRsp ≠ address) :
        (initEntry state i).2 address = state.2 address := by
      unfold initEntry
      dsimp only
      split_ifs
      · exact Function.update_of_ne apart.symm _ _
      · rfl
    rw [List.range_succ, List.foldl_append, List.foldl_cons, List.foldl_nil, turn,
      ih fun i below => other i (by omega)]
    rw [foldl_initEntry]
    simpa using other count (by omega)

theorem bssTableInit_tab (build : TableBuild) (tab : BssTable) (heap : Heap) :
    (bssTableInit build tab heap).1 =
      { bssNr := 0
        bssOverlapNr := 0
        bssEntry := fun i =>
          if i < maxLenOfBssTable build then
            { BssEntry.initial with pVarIeFromProbRsp := (tab.bssEntry i).pVarIeFromProbRsp }
          else tab.bssEntry i } :=
  foldl_initEntry _ _ _

theorem bssTableInit_heap (build : TableBuild) (tab : BssTable) (heap : Heap) {address : Nat}
    (other : ∀ i < maxLenOfBssTable build, (tab.bssEntry i).pVarIeFromProbRsp ≠ address) :
    (bssTableInit build tab heap).2 address = heap address :=
  foldl_initEntry_heap _ _ _ other

end Init

section Search

/-- The two bands that the channels are told apart by. -/
def sameBand (first second : UInt8) : Bool :=
  (first ≤ 14 && second ≤ 14) || (first > 14 && second > 14)

def BssEntry.isAt (entry : BssEntry) (bssid : List UInt8) (channel : UInt8) : Bool :=
  sameBand entry.channel channel && entry.bssid == bssid

/-- `BssTableSearch`; `BSS_NOT_FOUND` is none. -/
def bssTableSearch (tab : BssTable) (bssid : List UInt8) (channel : UInt8) : Option Nat :=
  (List.range tab.bssNr).find? fun i => (tab.bssEntry i).isAt bssid channel

theorem sameBand_eq (first second : UInt8) :
    sameBand first second = (decide (first ≤ 14) == decide (second ≤ 14)) := by
  have above : first > 14 ↔ ¬ first ≤ 14 := UInt8.not_le.symm
  have above' : second > 14 ↔ ¬ second ≤ 14 := UInt8.not_le.symm
  unfold sameBand
  by_cases low : first ≤ 14 <;> by_cases low' : second ≤ 14 <;> simp [above, above', low, low']

theorem bssTableSearch_some {tab : BssTable} {bssid : List UInt8} {channel : UInt8} {idx : Nat}
    (found : bssTableSearch tab bssid channel = some idx) :
    idx < tab.bssNr ∧ (tab.bssEntry idx).isAt bssid channel = true := by
  unfold bssTableSearch at found
  have here := List.find?_some found
  exact ⟨List.mem_range.mp (List.mem_of_find?_eq_some found), here⟩

theorem bssTableSearch_none {tab : BssTable} {bssid : List UInt8} {channel : UInt8} :
    bssTableSearch tab bssid channel = none ↔
      ∀ i < tab.bssNr, (tab.bssEntry i).isAt bssid channel = false := by
  unfold bssTableSearch
  rw [List.find?_eq_none]
  simp only [List.mem_range, Bool.not_eq_true]

end Search

section Delete

/-- A turn of the inner loop of `BssTableDeleteEntry`: the next entry is moved to the place `j`. -/
def shiftEntry (state : BssTable × Heap) (j : Nat) : BssTable × Heap :=
  let (tab, heap) := state
  let pOldAddr := (tab.bssEntry j).pVarIeFromProbRsp
  let next := tab.bssEntry (j + 1)
  if pOldAddr ≠ null then
    (tab.set j { next with pVarIeFromProbRsp := pOldAddr },
      (heap.zeroVie pOldAddr).move pOldAddr next.pVarIeFromProbRsp next.varIeFromProbeRspLen)
  else (tab.set j next, heap)

/-- What `BssTableDeleteEntry` does with the last entry. -/
def dropLast (state : BssTable × Heap) : BssTable × Heap :=
  let (tab, heap) := state
  let last := tab.bssNr - 1
  let pOldAddr := (tab.bssEntry last).pVarIeFromProbRsp
  if pOldAddr ≠ null then
    ({ tab.set last { BssEntry.zero with pVarIeFromProbRsp := pOldAddr } with bssNr := last },
      heap.zeroVie pOldAddr)
  else ({ tab.set last BssEntry.zero with bssNr := last }, heap)

/-- The entry that `BssTableDeleteEntry` finds: here the channel itself counts. -/
def deletedIndex (tab : BssTable) (bssid : List UInt8) (channel : UInt8) : Option Nat :=
  (List.range tab.bssNr).find? fun i =>
    (tab.bssEntry i).channel == channel && (tab.bssEntry i).bssid == bssid

def bssTableDeleteEntry (tab : BssTable) (heap : Heap) (bssid : List UInt8) (channel : UInt8) :
    BssTable × Heap :=
  match deletedIndex tab bssid channel with
  | none => (tab, heap)
  | some i => dropLast ((List.range' i (tab.bssNr - 1 - i)).foldl shiftEntry (tab, heap))

/-- What comes to the place `j`. An entry without a buffer of its own takes the pointer of the next. -/
def BssTable.moved (tab : BssTable) (j : Nat) : BssEntry :=
  let pOldAddr := (tab.bssEntry j).pVarIeFromProbRsp
  if pOldAddr ≠ null then { tab.bssEntry (j + 1) with pVarIeFromProbRsp := pOldAddr }
  else tab.bssEntry (j + 1)

theorem shiftEntry_tab (state : BssTable × Heap) (j : Nat) :
    (shiftEntry state j).1 = state.1.set j (state.1.moved j) := by
  unfold shiftEntry BssTable.moved
  dsimp only
  split_ifs <;> rfl

theorem shiftEntry_heap (state : BssTable × Heap) (j : Nat) {address : Nat}
    (other : (state.1.bssEntry j).pVarIeFromProbRsp ≠ address) :
    (shiftEntry state j).2 address = state.2 address := by
  have apart := other.symm
  unfold shiftEntry
  dsimp only
  split_ifs
  · calc
      _ = state.2.zeroVie _ address := Function.update_of_ne apart _ _
      _ = state.2 address := Function.update_of_ne apart _ _
  · rfl

theorem foldl_shiftEntry (tab : BssTable) (heap : Heap) (first count : Nat) :
    ((List.range' first count).foldl shiftEntry (tab, heap)).1 =
      { tab with
        bssEntry := fun j =>
          if first ≤ j ∧ j < first + count then tab.moved j else tab.bssEntry j } := by
  induction count with
  | zero =>
    have empty (j : Nat) : ¬ (first ≤ j ∧ j < first + 0) := by omega
    simp only [List.range'_zero, List.foldl_nil, empty, if_false]
  | succ count ih =>
    rw [List.range'_concat, List.foldl_append, List.foldl_cons, List.foldl_nil, shiftEntry_tab, ih]
    unfold BssTable.set BssTable.moved
    congr 1
    funext j
    grind

theorem foldl_shiftEntry_heap (tab : BssTable) (heap : Heap) (first count : Nat) {address : Nat}
    (other : ∀ j, first ≤ j → j < first + count → (tab.bssEntry j).pVarIeFromProbRsp ≠ address) :
    ((List.range' first count).foldl shiftEntry (tab, heap)).2 address = heap address := by
  induction count with
  | zero => rfl
  | succ count ih =>
    rw [List.range'_concat, List.foldl_append, List.foldl_cons, List.foldl_nil, shiftEntry_heap,
      ih fun j above below => other j above (by omega)]
    rw [foldl_shiftEntry]
    simpa using other (first + count) (by omega) (by omega)

theorem deletedIndex_some {tab : BssTable} {bssid : List UInt8} {channel : UInt8} {i : Nat}
    (found : deletedIndex tab bssid channel = some i) : i < tab.bssNr := by
  unfold deletedIndex at found
  exact List.mem_range.mp (List.mem_of_find?_eq_some found)

/-- The entries in front of the deleted one stay; the others move up, and the last is cleared. -/
theorem bssTableDeleteEntry_tab {tab : BssTable} {bssid : List UInt8} {channel : UInt8} {i : Nat}
    (heap : Heap) (found : deletedIndex tab bssid channel = some i) :
    (bssTableDeleteEntry tab heap bssid channel).1 =
      { tab with
        bssNr := tab.bssNr - 1
        bssEntry := fun j =>
          if i ≤ j ∧ j < tab.bssNr - 1 then tab.moved j
          else if j = tab.bssNr - 1 then
            { BssEntry.zero with pVarIeFromProbRsp := (tab.bssEntry j).pVarIeFromProbRsp }
          else tab.bssEntry j } := by
  have below := deletedIndex_some found
  have last (state : BssTable × Heap) : (dropLast state).1 =
      { state.1.set (state.1.bssNr - 1) { BssEntry.zero with
          pVarIeFromProbRsp := (state.1.bssEntry (state.1.bssNr - 1)).pVarIeFromProbRsp } with
        bssNr := state.1.bssNr - 1 } := by
    unfold dropLast
    dsimp only
    split_ifs with owned
    · rfl
    · rw [not_not.mp owned]
      rfl
  have whole : i + (tab.bssNr - 1 - i) = tab.bssNr - 1 := by omega
  unfold bssTableDeleteEntry
  rw [found]
  dsimp only
  rw [last, foldl_shiftEntry, whole]
  unfold BssTable.set
  dsimp only
  congr 1
  funext j
  grind

theorem bssTableDeleteEntry_heap {tab : BssTable} {bssid : List UInt8} {channel : UInt8} {i : Nat}
    (heap : Heap) (found : deletedIndex tab bssid channel = some i) {address : Nat}
    (other : ∀ j, i ≤ j → j < tab.bssNr → (tab.bssEntry j).pVarIeFromProbRsp ≠ address) :
    (bssTableDeleteEntry tab heap bssid channel).2 address = heap address := by
  have below := deletedIndex_some found
  have last (state : BssTable × Heap)
      (apart : (state.1.bssEntry (state.1.bssNr - 1)).pVarIeFromProbRsp ≠ address) :
      (dropLast state).2 address = state.2 address := by
    unfold dropLast
    dsimp only
    split_ifs
    · exact Function.update_of_ne apart.symm _ _
    · rfl
  have whole : i + (tab.bssNr - 1 - i) = tab.bssNr - 1 := by omega
  unfold bssTableDeleteEntry
  rw [found]
  dsimp only
  rw [last, foldl_shiftEntry_heap]
  · intro j above under
    exact other j above (by omega)
  · rw [foldl_shiftEntry, whole]
    simpa using other (tab.bssNr - 1) (by omega) (by omega)

end Delete

section Set

/-- What `BssTableSetEntry` takes of a beacon, and what it reads of the adapter. -/
structure SetRequest where
  bssid : List UInt8
  channel : UInt8
  ssid : List UInt8
  /-- What `BssEntrySet` makes of the other fields of an entry. -/
  fill : BssFields → BssFields
  /-- `fOP_STATUS_MEDIA_STATE_CONNECTED` and `fOP_AP_STATUS_MEDIA_STATE_CONNECTED`. -/
  connected : Bool
  apConnected : Bool
  mlmeAuxBssid : List UInt8
  mlmeAuxSsid : List UInt8
  cfgPendingSsid : List UInt8

/-- `BssEntrySet`. -/
def bssEntrySet (entry : BssEntry) (request : SetRequest) : BssEntry :=
  { entry with
    bssid := request.bssid
    channel := request.channel
    fields := request.fill entry.fields }

/-- The BSS is one that the station looks for. -/
def SetRequest.desired (request : SetRequest) : Bool :=
  request.mlmeAuxBssid == request.bssid || request.mlmeAuxSsid == request.ssid ||
    request.cfgPendingSsid == request.ssid

/-- The table and the index that is returned. -/
def bssTableSetEntry (build : TableBuild) (tab : BssTable) (request : SetRequest) :
    BssTable × Option Nat :=
  match bssTableSearch tab request.bssid request.channel with
  | some idx => (tab.set idx (bssEntrySet (tab.bssEntry idx) request), some idx)
  | none =>
      if tab.bssNr ≥ maxLenOfBssTable build then
        if !request.connected || !request.apConnected then
          if request.desired then
            let idx := tab.bssOverlapNr
            ({ tab.set idx (bssEntrySet BssEntry.zero request) with
                bssOverlapNr := (tab.bssOverlapNr + 1) % maxLenOfBssTable build }, some idx)
          else (tab, none)
        else (tab, none)
      else
        let idx := tab.bssNr
        ({ tab.set idx (bssEntrySet (tab.bssEntry idx) request) with bssNr := idx + 1 }, some idx)

end Set

end Mt7612u.Mlme
