import Mt7612u.Library.Run
import Mt7612u.Mlme.BssTable

/-! `BssTableSsidSort` and `BssTableSortByRssi`: the candidates for a SSID are copied out of `ScanTab`
with their pointers, so that two tables come to point to one buffer. -/

namespace Mt7612u.Mlme
open Library.Run
open Security (AuthMode CipherSetting rank)
open Sta (WepStatus BssType)

section Order

/-- An exchange of `BssTableSortByRssi`. -/
def sortTurn (isInverseOrder : Bool) (i : Nat) (tab : BssTable) (j : Nat) : BssTable :=
  let first := tab.bssEntry i
  let second := tab.bssEntry j
  let wrongOrder := if second.fields.rssi > first.fields.rssi then !isInverseOrder else isInverseOrder
  if wrongOrder && second.fields.rssi != first.fields.rssi then
    (tab.set j first).set i second
  else tab

/-- `allocated` says whether there is memory for an entry; without it nothing is sorted. -/
def bssTableSortByRssi (allocated isInverseOrder : Bool) (tab : BssTable) : BssTable :=
  if !allocated then tab
  else
    (List.range (tab.bssNr - 1)).foldl
      (fun tab i =>
        (List.range' (i + 1) (tab.bssNr - (i + 1))).foldl (sortTurn isInverseOrder i) tab)
      tab

end Order

section Selection

/-- The SSID of a call, and what is read of the adapter. -/
structure SortRequest where
  ssid : List UInt8
  bAutoConnectIfNoSsid : Bool
  bIeee80211h : Bool
  mlmeAuxChannel : UInt8
  radarChannelCheck : UInt8 → Bool
  bssType : BssType
  wpaSupplicantUp : UInt8
  phyMode : UInt8
  authMode : AuthMode
  wepStatus : WepStatus

def wmodeG : UInt8 := (1 : UInt8) <<< 2
def wmodeGn : UInt8 := (1 : UInt8) <<< 3
def wmodeAn : UInt8 := (1 : UInt8) <<< 4
def wmodeAc : UInt8 := (1 : UInt8) <<< 5

def wmodeHtOnly (phyMode : UInt8) : Bool := phyMode &&& ~~~(wmodeGn ||| wmodeAn ||| wmodeAc) == 0

/-- The hidden AP on a channel with radar detection. -/
def SortRequest.hiddenApIncluded (request : SortRequest) (inBss : BssEntry) : Bool :=
  request.bIeee80211h && request.mlmeAuxChannel > 14 && request.radarChannelCheck inBss.channel &&
    inBss.fields.hidden

/-- The BSS is fit for a station that is in N-only or in GN-only mode. -/
def SortRequest.phyFits (request : SortRequest) (inBss : BssEntry) : Bool :=
  !(inBss.fields.htCapabilityLen == 0 && wmodeHtOnly request.phyMode) &&
    !(request.phyMode == (wmodeG ||| wmodeGn) &&
      inBss.fields.supRateLen.toNat + inBss.fields.extRateLen.toNat < 12)

/-- `AuthMode >= Ndis802_11AuthModeWPA`. -/
def authAtLeastWpa : AuthMode → Bool
  | .open | .shared | .autoSwitch => false
  | _ => true

/-- The tests on the ciphers that a BSS announces in one kind of element; that on the group cipher is
given. -/
def SortRequest.cipherFits (request : SortRequest) (setting : CipherSetting) (groupFits : Bool) :
    Bool :=
  (setting.mixMode || request.wepStatus == setting.groupCipher) && groupFits &&
    !(request.wepStatus == .tkipEnable && request.wepStatus != setting.pairCipher &&
      request.wepStatus != setting.pairCipherAux)

/-- The authentication mode and the ciphers, with the test on the group cipher for each kind of element
and the test on a BSS where no WPA is asked for. -/
def SortRequest.authFits (request : SortRequest) (bss : Security.BssEntry)
    (wpaGroup wpa2Group plain : Bool) : Bool :=
  if authAtLeastWpa request.authMode then
    (request.authMode == bss.authMode || request.authMode == bss.authModeAux) &&
      match request.authMode with
      | .wpa | .wpaPsk => request.cipherFits bss.wpa wpaGroup
      | .wpa2 | .wpa2Psk => request.cipherFits bss.wpa2 wpa2Group
      | _ => true
  else plain

/-- A BSS with the SSID asked for. A group cipher of WEP is let pass, and that of WPA is compared for
WPA2 as well. -/
def SortRequest.ssidFits (request : SortRequest) (bss : Security.BssEntry) : Bool :=
  let stronger := rank request.wepStatus < rank bss.wpa.groupCipher
  let wep (cipher : WepStatus) := cipher == .groupWep40Enabled || cipher == .groupWep104Enabled
  request.authFits bss (!stronger || wep bss.wpa.groupCipher) (!stronger || wep bss.wpa2.groupCipher)
    (request.wepStatus == bss.wepStatus || bss.ses)

/-- Any BSS, when no SSID is asked for. -/
def SortRequest.anyFits (request : SortRequest) (bss : Security.BssEntry) : Bool :=
  request.authFits bss (!(rank request.wepStatus < rank bss.wpa.groupCipher))
    (!(rank request.wepStatus < rank bss.wpa2.groupCipher)) (request.wepStatus == bss.wepStatus)

/-- What a turn of the loop of `BssTableSsidSort` does: `skip` and `supplicant` end in `continue`, without
the test of the bound. -/
inductive SortTurn where
  | skip
  | supplicant
  | copy
  | none
  deriving DecidableEq, Repr

def SortRequest.turn (request : SortRequest) (inBss : BssEntry) : SortTurn :=
  if inBss.fields.security.bssType == request.bssType &&
      (request.ssid == inBss.fields.ssid || request.hiddenApIncluded inBss) then
    if request.wpaSupplicantUp &&& 0x80 != 0 then .supplicant
    else if !request.phyFits inBss then .skip
    else if !request.ssidFits inBss.fields.security then .skip
    else if request.ssid.length = 0 then .skip
    else .copy
  else if inBss.fields.security.bssType == request.bssType && request.ssid.length = 0 then
    if !request.phyFits inBss then .skip
    else if !request.anyFits inBss.fields.security then .skip
    else .copy
  else .none

/-- `memmove` of the whole entry, its pointer included. -/
def BssTable.push (outTab : BssTable) (inBss : BssEntry) : BssTable :=
  { outTab.set outTab.bssNr inBss with bssNr := outTab.bssNr + 1 }

def ssidSortLoop (build : TableBuild) (request : SortRequest) (scanTab : BssTable) :
    List Nat → BssTable → BssTable
  | [], outTab => outTab
  | i :: rest, outTab =>
      let inBss := scanTab.bssEntry i
      match request.turn inBss with
      | .skip => ssidSortLoop build request scanTab rest outTab
      | .supplicant => ssidSortLoop build request scanTab rest (outTab.push inBss)
      | .copy =>
          if (outTab.push inBss).bssNr ≥ maxLenOfBssTable build then outTab.push inBss
          else ssidSortLoop build request scanTab rest (outTab.push inBss)
      | .none =>
          if outTab.bssNr ≥ maxLenOfBssTable build then outTab
          else ssidSortLoop build request scanTab rest outTab

def bssTableSsidSort (build : TableBuild) (request : SortRequest) (allocated : Bool)
    (scanTab outTab : BssTable) (heap : Heap) : BssTable × Heap :=
  let (outTab, heap) := bssTableInit build outTab heap
  if request.ssid.length = 0 && !request.bAutoConnectIfNoSsid then (outTab, heap)
  else
    (bssTableSortByRssi allocated false
      (ssidSortLoop build request scanTab (List.range scanTab.bssNr) outTab), heap)

end Selection

section Prefix
variable {State Event : Type*} {step : State → Event → State} {allowed : State → Event → Prop}

theorem throughout_take {s : State} {events : List Event} (along : Throughout step allowed s events)
    (n : Nat) : Throughout step allowed s (events.take n) := by
  induction events generalizing s n with
  | nil =>
    rw [List.take_nil]
    trivial
  | cons event rest ih =>
    cases n with
    | zero => trivial
    | succ n => exact ⟨along.1, ih along.2 n⟩

end Prefix

/-- `ScanTab`, and the table that is sorted out of it. -/
structure TwoTables where
  scanTab : BssTable
  outTab : BssTable
  heap : Heap

/-- The operations on the second table. -/
inductive OutEvent where
  | ssidSort (request : SortRequest) (allocated : Bool)
  | init
  | set (request : SetRequest)
  | delete (bssid : List UInt8) (channel : UInt8)
  | sortByRssi (allocated isInverseOrder : Bool)

def outStep (build : TableBuild) (s : TwoTables) : OutEvent → TwoTables
  | .ssidSort request allocated =>
      let (outTab, heap) := bssTableSsidSort build request allocated s.scanTab s.outTab s.heap
      { s with outTab := outTab, heap := heap }
  | .init =>
      let (outTab, heap) := bssTableInit build s.outTab s.heap
      { s with outTab := outTab, heap := heap }
  | .set request => { s with outTab := (bssTableSetEntry build s.outTab request).1 }
  | .delete bssid channel =>
      let (outTab, heap) := bssTableDeleteEntry s.outTab s.heap bssid channel
      { s with outTab := outTab, heap := heap }
  | .sortByRssi allocated isInverseOrder =>
      { s with outTab := bssTableSortByRssi allocated isInverseOrder s.outTab }

/-- `ScanTab` has its entries, and the buffers behind their pointers have their bytes. -/
structure ScanKept (build : TableBuild) (start s : TwoTables) : Prop where
  scanTab : s.scanTab = start.scanTab
  buffers : ∀ i < maxLenOfBssTable build,
    (start.scanTab.bssEntry i).pVarIeFromProbRsp ≠ null →
      s.heap (start.scanTab.bssEntry i).pVarIeFromProbRsp =
        start.heap (start.scanTab.bssEntry i).pVarIeFromProbRsp

/-- The places of the second table through whose pointers an operation writes. -/
def writesThrough (build : TableBuild) (outTab : BssTable) : OutEvent → Nat → Prop
  | .ssidSort _ _, j => j < maxLenOfBssTable build
  | .init, j => j < maxLenOfBssTable build
  | .set _, _ => False
  | .delete bssid channel, j =>
      ∃ i, deletedIndex outTab bssid channel = some i ∧ i ≤ j ∧ j < outTab.bssNr
  | .sortByRssi _ _, _ => False

/-- No entry that is written through shares its buffer with an entry of `ScanTab`. -/
def WritesApart (build : TableBuild) (s : TwoTables) (event : OutEvent) : Prop :=
  ∀ j, writesThrough build s.outTab event j → ∀ i < maxLenOfBssTable build,
    (s.scanTab.bssEntry i).pVarIeFromProbRsp ≠ null →
      (s.outTab.bssEntry j).pVarIeFromProbRsp ≠ (s.scanTab.bssEntry i).pVarIeFromProbRsp

/-- A block stays as it is when no entry that is written through has it. -/
theorem outStep_heap (build : TableBuild) (s : TwoTables) (event : OutEvent) {address : Nat}
    (apart : ∀ j, writesThrough build s.outTab event j →
      (s.outTab.bssEntry j).pVarIeFromProbRsp ≠ address) :
    (outStep build s event).heap address = s.heap address := by
  cases event with
  | ssidSort request allocated =>
    have cleared : (bssTableSsidSort build request allocated s.scanTab s.outTab s.heap).2 =
        (bssTableInit build s.outTab s.heap).2 := by
      unfold bssTableSsidSort
      dsimp only
      split_ifs <;> rfl
    change (bssTableSsidSort build request allocated s.scanTab s.outTab s.heap).2 address = _
    rw [cleared]
    exact bssTableInit_heap build s.outTab s.heap apart
  | init => exact bssTableInit_heap build s.outTab s.heap apart
  | set request => rfl
  | delete bssid channel =>
    change (bssTableDeleteEntry s.outTab s.heap bssid channel).2 address = _
    cases search : deletedIndex s.outTab bssid channel with
    | none =>
      unfold bssTableDeleteEntry
      rw [search]
    | some i =>
      apply bssTableDeleteEntry_heap s.heap search
      intro j above below
      exact apart j ⟨i, search, above, below⟩
  | sortByRssi allocated isInverseOrder => rfl

theorem outStep_scanTab (build : TableBuild) (s : TwoTables) (event : OutEvent) :
    (outStep build s event).scanTab = s.scanTab := by
  cases event <;> rfl

theorem ScanKept.step {build : TableBuild} {start s : TwoTables} (kept : ScanKept build start s)
    (event : OutEvent) (apart : WritesApart build s event) :
    ScanKept build start (outStep build s event) where
  scanTab := (outStep_scanTab build s event).trans kept.scanTab
  buffers i below stored := by
    have separate : ∀ j, writesThrough build s.outTab event j →
        (s.outTab.bssEntry j).pVarIeFromProbRsp ≠
          (start.scanTab.bssEntry i).pVarIeFromProbRsp := by
      intro j written
      rw [← kept.scanTab] at stored ⊢
      exact apart j written i below stored
    calc
      _ = s.heap _ := outStep_heap build s event separate
      _ = _ := kept.buffers i below stored

theorem ScanKept.refl (build : TableBuild) (s : TwoTables) : ScanKept build s s :=
  ⟨rfl, fun _ _ _ => rfl⟩

/-- `ScanTab` and its buffers stay as they are in every state of a run in which no operation writes
through a pointer that the second table shares with it. -/
theorem scanTab_kept {build : TableBuild} {start : TwoTables} {events : List OutEvent}
    (along : Throughout (outStep build) (WritesApart build) start events) (n : Nat) :
    ScanKept build start (run (outStep build) start (events.take n)) :=
  run_invariant (ScanKept build start) (fun _ event kept apart => kept.step event apart)
    (.refl build start) (events.take n) (throughout_take along n)

section Shared

/-- A BSS that the scan has found, whose elements are in the block 1. -/
def foundEntry : BssEntry :=
  { BssEntry.zero with
    varIeFromProbeRspLen := 1
    pVarIeFromProbRsp := 1
    fields := { BssEntry.zero.fields with ssid := [0x61] } }

def supplicantRequest : SortRequest where
  ssid := [0x61]
  bAutoConnectIfNoSsid := false
  bIeee80211h := false
  mlmeAuxChannel := 0
  radarChannelCheck _ := false
  bssType := .adhoc
  wpaSupplicantUp := 0x80
  phyMode := 0
  authMode := .open
  wepStatus := .wepEnabled

def sharedStart : TwoTables where
  scanTab := { bssNr := 1, bssOverlapNr := 0, bssEntry := fun i => if i = 0 then foundEntry else .zero }
  outTab := { bssNr := 0, bssOverlapNr := 0, bssEntry := fun _ => .zero }
  heap _ _ := 0xdd

/-- The operations that write through no pointer at all before the copy is there. -/
theorem scanTab_kept_sorted :
    ScanKept .memoryOptimization sharedStart
      (run (outStep .memoryOptimization) sharedStart
        ([.ssidSort supplicantRequest true, .sortByRssi true false].take 2)) := by
  apply scanTab_kept
  refine ⟨?_, ?_, trivial⟩
  · intro j written i below stored
    exact Ne.symm stored
  · intro j written
    cases written

theorem not_scanTab_kept :
    ¬ ∀ (build : TableBuild) (start : TwoTables) (events : List OutEvent) (n : Nat),
      ScanKept build start (run (outStep build) start (events.take n)) := by
  intro always
  have kept := (always .memoryOptimization sharedStart [.ssidSort supplicantRequest true, .init] 2).buffers
    0 Nat.one_pos (by decide)
  have first := congrFun kept 0
  revert first
  decide +kernel

end Shared

end Mt7612u.Mlme
