import Mt7612u.Library.ExchangeSort
import Mt7612u.Mlme.BssTableSort

/-! Which entries `BssTableSsidSort` takes out of `ScanTab`, and in what order they stand. -/

namespace Mt7612u.Mlme
open Library
open Security (AuthMode CipherSetting rank)
open Sta (WepStatus BssType)

/-- The entries of a table in their order. -/
def BssTable.entries (tab : BssTable) : List BssEntry :=
  ExchangeSort.entries tab.bssNr tab.bssEntry

def BssEntry.rssi (bss : BssEntry) : Int := bss.fields.rssi

namespace SortRequest
variable (request : SortRequest)

/-- The station is content with the ciphers of a BSS: each kind of element is judged by its own group
cipher, where a group cipher of WEP is let pass. -/
def securityFits (bss : Security.BssEntry) : Bool :=
  let weaker (setting : CipherSetting) :=
    !(rank request.wepStatus < rank setting.groupCipher) ||
      (setting.groupCipher == .groupWep40Enabled || setting.groupCipher == .groupWep104Enabled)
  request.authFits bss (weaker bss.wpa) (weaker bss.wpa2)
    (request.wepStatus == bss.wepStatus || bss.ses)

/-- The SSID is the one that is asked for, or it is hidden where this is to be let pass. -/
def ssidMatches (inBss : BssEntry) : Bool :=
  request.ssid == inBss.fields.ssid || request.hiddenApIncluded inBss

/-- A BSS that is asked for: a supplicant that has taken over judges by itself, and a BSS with a hidden
SSID is nothing for a station that connects to any. -/
def selects (inBss : BssEntry) : Bool :=
  inBss.fields.security.bssType == request.bssType &&
    if request.ssidMatches inBss then
      request.wpaSupplicantUp &&& 0x80 != 0 ||
        request.phyFits inBss && request.securityFits inBss.fields.security &&
          request.ssid.length != 0
    else
      request.ssid.length == 0 && request.phyFits inBss && request.anyFits inBss.fields.security

/-- Nothing is looked for. -/
def idle : Bool := request.ssid.length == 0 && !request.bAutoConnectIfNoSsid

/-- The entries that are asked for, as `ScanTab` has them. -/
def wanted (scanTab : BssTable) : List BssEntry :=
  if request.idle then [] else scanTab.entries.filter request.selects

/-- A BSS that comes to the test of its WPA2 group cipher, which is no WEP, and for which this test
tells the cipher of its WPA element from that of its WPA2 element. -/
def judgesApart (bss : Security.BssEntry) : Bool :=
  (request.authMode == .wpa2 || request.authMode == .wpa2Psk) &&
    (request.authMode == bss.authMode || request.authMode == bss.authModeAux) &&
    request.cipherFits bss.wpa2 true &&
    !(bss.wpa2.groupCipher == .groupWep40Enabled || bss.wpa2.groupCipher == .groupWep104Enabled) &&
    (decide (rank request.wepStatus < rank bss.wpa.groupCipher) !=
      decide (rank request.wepStatus < rank bss.wpa2.groupCipher))

/-- The same for an entry that is judged in a call for its SSID. -/
def misjudges (inBss : BssEntry) : Bool :=
  inBss.fields.security.bssType == request.bssType && request.ssidMatches inBss &&
    request.wpaSupplicantUp &&& 0x80 == 0 && request.phyFits inBss && request.ssid.length != 0 &&
    request.judgesApart inBss.fields.security

/-- The turns of the loop that copy an entry. -/
def copies (inBss : BssEntry) : Bool :=
  match request.turn inBss with
  | .supplicant | .copy => true
  | .skip | .none => false

end SortRequest

/-- What is asked of the two functions together: the wanted entries, each once, and none with a larger
RSSI behind one with a smaller. -/
structure Selected (request : SortRequest) (scanTab outTab : BssTable) : Prop where
  entries : outTab.entries.Perm (request.wanted scanTab)
  order : outTab.entries.Pairwise fun first second => second.rssi ≤ first.rssi

section judgement
variable (request : SortRequest) (inBss : BssEntry)

theorem copies_eq : request.copies inBss =
    (inBss.fields.security.bssType == request.bssType &&
      if request.ssidMatches inBss then
        request.wpaSupplicantUp &&& 0x80 != 0 ||
          request.phyFits inBss && request.ssidFits inBss.fields.security &&
            request.ssid.length != 0
      else
        request.ssid.length == 0 && request.phyFits inBss &&
          request.anyFits inBss.fields.security) := by
  unfold SortRequest.copies SortRequest.turn SortRequest.ssidMatches
  cases inBss.fields.security.bssType == request.bssType <;>
    cases request.ssid == inBss.fields.ssid || request.hiddenApIncluded inBss <;>
    cases request.wpaSupplicantUp &&& 0x80 != 0 <;> cases request.phyFits inBss <;>
    cases request.ssidFits inBss.fields.security <;>
    cases request.anyFits inBss.fields.security <;>
    by_cases none : request.ssid.length = 0 <;> simp [none]

theorem cipherFits_and (setting : CipherSetting) (group : Bool) :
    request.cipherFits setting group = (request.cipherFits setting true && group) := by
  unfold SortRequest.cipherFits
  cases group <;> simp

/-- The two judgements differ in one test, and only where everything around it is passed. -/
theorem ssidFits_eq_iff (bss : Security.BssEntry) :
    request.ssidFits bss = request.securityFits bss ↔ request.judgesApart bss = false := by
  unfold SortRequest.ssidFits SortRequest.securityFits SortRequest.authFits SortRequest.judgesApart
  simp only [cipherFits_and request bss.wpa2 (_ || _)]
  generalize request.cipherFits bss.wpa2 true = rest
  generalize (bss.wpa2.groupCipher == .groupWep40Enabled ||
    bss.wpa2.groupCipher == .groupWep104Enabled) = wep
  generalize decide (rank request.wepStatus < rank bss.wpa.groupCipher) = one
  generalize decide (rank request.wepStatus < rank bss.wpa2.groupCipher) = two
  generalize (request.authMode == bss.authMode || request.authMode == bss.authModeAux) = asked
  cases mode : request.authMode <;> simp only [authAtLeastWpa] <;>
    cases asked <;> cases rest <;> cases wep <;> cases one <;> cases two <;> simp

/-- The code takes an entry for what it is, unless it misjudges it. -/
theorem copies_eq_selects_iff :
    request.copies inBss = request.selects inBss ↔ request.misjudges inBss = false := by
  have judged := ssidFits_eq_iff request inBss.fields.security
  rw [copies_eq]
  unfold SortRequest.selects SortRequest.misjudges
  generalize request.judgesApart inBss.fields.security = apart at judged ⊢
  simp only [bne]
  cases inBss.fields.security.bssType == request.bssType <;>
    cases request.ssidMatches inBss <;> cases request.wpaSupplicantUp &&& 0x80 == 0 <;>
    cases request.phyFits inBss <;> cases request.ssid.length == 0 <;> simp [judged]

end judgement

section loop
variable (build : TableBuild) (request : SortRequest) (scanTab : BssTable)

theorem entries_push (outTab : BssTable) (inBss : BssEntry) :
    (outTab.push inBss).entries = outTab.entries ++ [inBss] := by
  change (List.range (outTab.bssNr + 1)).map
    (Function.update outTab.bssEntry outTab.bssNr inBss) = _
  rw [List.range_succ, List.map_append, List.map_singleton, Function.update_self]
  apply congrArg (· ++ [inBss])
  apply List.map_congr_left
  intro k inside
  exact Function.update_of_ne (List.mem_range.mp inside).ne _ _

/-- The loop takes what it copies, in order; the table holds all that `ScanTab` has. -/
theorem ssidSortLoop_entries (places : List Nat) (outTab : BssTable)
    (room : outTab.bssNr + places.length ≤ maxLenOfBssTable build) :
    (ssidSortLoop build request scanTab places outTab).entries =
      outTab.entries ++ (places.map scanTab.bssEntry).filter request.copies := by
  induction places generalizing outTab with
  | nil => simp [ssidSortLoop]
  | cons i rest ih =>
    rw [List.length_cons] at room
    have pushed : (outTab.push (scanTab.bssEntry i)).bssNr = outTab.bssNr + 1 := rfl
    have taken (copied : request.copies (scanTab.bssEntry i) = true) :
        (ssidSortLoop build request scanTab rest (outTab.push (scanTab.bssEntry i))).entries =
          outTab.entries ++ ((i :: rest).map scanTab.bssEntry).filter request.copies := by
      rw [ih _ (by omega), entries_push, List.map_cons, List.filter_cons, if_pos copied,
        List.append_assoc]
      rfl
    have left (skipped : request.copies (scanTab.bssEntry i) = false) :
        (ssidSortLoop build request scanTab rest outTab).entries =
          outTab.entries ++ ((i :: rest).map scanTab.bssEntry).filter request.copies := by
      rw [ih _ (by omega), List.map_cons, List.filter_cons, skipped, if_neg Bool.false_ne_true]
    unfold ssidSortLoop
    dsimp only
    cases turn : request.turn (scanTab.bssEntry i) with
    | skip => exact left (by rw [SortRequest.copies, turn])
    | supplicant => exact taken (by rw [SortRequest.copies, turn])
    | copy =>
      have copied : request.copies (scanTab.bssEntry i) = true := by
        rw [SortRequest.copies, turn]
      by_cases full : (outTab.push (scanTab.bssEntry i)).bssNr ≥ maxLenOfBssTable build
      · obtain rfl : rest = [] := List.eq_nil_of_length_eq_zero (by omega)
        rw [if_pos full]
        exact taken copied
      · rw [if_neg full]
        exact taken copied
    | none =>
      change (if outTab.bssNr ≥ maxLenOfBssTable build then outTab
        else ssidSortLoop build request scanTab rest outTab).entries = _
      rw [if_neg (by omega)]
      exact left (by rw [SortRequest.copies, turn])

end loop

section sorting

theorem sortTurn_exchange (i j : Nat) (tab : BssTable) : sortTurn false i tab j =
    { tab with bssEntry := ExchangeSort.exchange BssEntry.rssi i tab.bssEntry j } := by
  unfold sortTurn ExchangeSort.exchange BssEntry.rssi BssTable.set
  by_cases larger : (tab.bssEntry i).fields.rssi < (tab.bssEntry j).fields.rssi
  · have differ : (tab.bssEntry j).fields.rssi ≠ (tab.bssEntry i).fields.rssi := larger.ne'
    simp only [larger, if_true, Bool.not_false, Bool.true_and, bne_iff_ne, differ, ne_eq,
      not_false_eq_true]
    congr 1
    funext k
    rw [Function.comp_apply, Equiv.swap_apply_def]
    by_cases atI : k = i
    · rw [atI, Function.update_self, if_pos rfl]
    · rw [Function.update_of_ne atI, if_neg atI]
      by_cases atJ : k = j
      · rw [atJ, Function.update_self, if_pos rfl]
      · rw [Function.update_of_ne atJ, if_neg atJ]
  · simp [larger]

theorem sortPass_exchange (i : Nat) (places : List Nat) (tab : BssTable) :
    places.foldl (sortTurn false i) tab =
      { tab with
        bssEntry := places.foldl (ExchangeSort.exchange BssEntry.rssi i) tab.bssEntry } := by
  induction places generalizing tab with
  | nil => rfl
  | cons j rest ih => rw [List.foldl_cons, List.foldl_cons, sortTurn_exchange, ih]

theorem bssTableSortByRssi_sorted (tab : BssTable) : bssTableSortByRssi true false tab =
    { tab with bssEntry := ExchangeSort.sorted BssEntry.rssi tab.bssNr tab.bssEntry } := by
  unfold bssTableSortByRssi ExchangeSort.sorted ExchangeSort.passes
  rw [Bool.not_true, if_neg Bool.false_ne_true]
  have folds : ∀ (places : List Nat) (other : BssTable), other.bssNr = tab.bssNr →
      places.foldl (fun other i => (List.range' (i + 1) (other.bssNr - (i + 1))).foldl
        (sortTurn false i) other) other =
      { other with
        bssEntry := places.foldl
          (fun f i => ExchangeSort.pass BssEntry.rssi i (tab.bssNr - (i + 1)) f) other.bssEntry } := by
    intro places
    induction places with
    | nil => intro other _; rfl
    | cons i rest ih =>
      intro other count
      have places : List.range' (i + 1) (other.bssNr - (i + 1)) =
          List.range' (i + 1) (tab.bssNr - (i + 1)) := by
        rw [count]
      rw [List.foldl_cons, List.foldl_cons, sortPass_exchange, places]
      exact ih { other with
        bssEntry := ExchangeSort.pass BssEntry.rssi i (tab.bssNr - (i + 1)) other.bssEntry } count
  exact folds _ tab rfl

end sorting

section whole
variable {build : TableBuild} {request : SortRequest} {scanTab : BssTable}

theorem bssTableInit_bssNr (build : TableBuild) (tab : BssTable) (heap : Heap) :
    (bssTableInit build tab heap).1.bssNr = 0 := by
  unfold bssTableInit
  rw [foldl_initEntry]

/-- The copies in the order of `ScanTab`, before they are sorted. -/
def SortRequest.taken (request : SortRequest) (scanTab : BssTable) : List BssEntry :=
  if request.idle then [] else scanTab.entries.filter request.copies

/-- The table that comes out: the copies as they are, or exchanged until none is out of order. -/
theorem bssTableSsidSort_entries (room : scanTab.bssNr ≤ maxLenOfBssTable build) (allocated : Bool)
    (outTab : BssTable) (heap : Heap) :
    let result := (bssTableSsidSort build request allocated scanTab outTab heap).1
    result.entries.Perm (request.taken scanTab) ∧
      (allocated = true → result.entries.Pairwise fun first second => second.rssi ≤ first.rssi) ∧
      (allocated = false → result.entries = request.taken scanTab) := by
  have empty : (bssTableInit build outTab heap).1.entries = [] := by
    unfold BssTable.entries
    rw [bssTableInit_bssNr]
    rfl
  unfold bssTableSsidSort SortRequest.taken
  dsimp only
  by_cases idle : request.idle = true
  · have quiet : (decide (request.ssid.length = 0) && !request.bAutoConnectIfNoSsid) = true := idle
    rw [if_pos quiet, if_pos idle]
    simp [empty]
  · have asked : ¬ (decide (request.ssid.length = 0) && !request.bAutoConnectIfNoSsid) = true := idle
    rw [if_neg asked, if_neg idle]
    have loop := ssidSortLoop_entries build request scanTab (List.range scanTab.bssNr)
      (bssTableInit build outTab heap).1 (by rw [bssTableInit_bssNr, List.length_range]; omega)
    rw [empty, List.nil_append] at loop
    generalize ssidSortLoop build request scanTab (List.range scanTab.bssNr)
      (bssTableInit build outTab heap).1 = found at loop
    cases allocated with
    | false =>
      refine ⟨.of_eq loop, fun no => absurd no Bool.false_ne_true, fun _ => loop⟩
    | true =>
      rw [bssTableSortByRssi_sorted]
      refine ⟨?_, fun _ => ?_, fun no => absurd no.symm Bool.false_ne_true⟩
      · exact (ExchangeSort.entries_sorted BssEntry.rssi found.bssNr found.bssEntry).trans
          (.of_eq loop)
      · exact ExchangeSort.sorted_order BssEntry.rssi found.bssNr found.bssEntry

/-- Two selections from one list are the same up to their order exactly when they judge alike. -/
theorem filter_perm_iff {α : Type*} {list : List α} {first second : α → Bool} :
    (list.filter first).Perm (list.filter second) ↔ ∀ x ∈ list, first x = second x := by
  constructor
  · intro perm x inside
    have both : first x = true ↔ second x = true := by
      have members := perm.mem_iff (a := x)
      rw [List.mem_filter, List.mem_filter] at members
      exact ⟨fun holds => (members.mp ⟨inside, holds⟩).2, fun holds => (members.mpr ⟨inside, holds⟩).2⟩
    exact Bool.eq_iff_iff.mpr both
  · intro alike
    rw [List.filter_congr alike]

/-- The table holds the wanted entries in order exactly when nothing is looked for, or no entry is
misjudged and there is memory for the exchange or nothing to exchange. -/
theorem bssTableSsidSort_selected_iff (room : scanTab.bssNr ≤ maxLenOfBssTable build)
    (allocated : Bool) (outTab : BssTable) (heap : Heap) :
    Selected request scanTab (bssTableSsidSort build request allocated scanTab outTab heap).1 ↔
      request.idle = true ∨
        (∀ inBss ∈ scanTab.entries, request.misjudges inBss = false) ∧
          (allocated = true ∨ (request.wanted scanTab).Pairwise
            fun first second => second.rssi ≤ first.rssi) := by
  obtain ⟨perm, sorted, kept⟩ :=
    @bssTableSsidSort_entries build request scanTab room allocated outTab heap
  generalize (bssTableSsidSort build request allocated scanTab outTab heap).1 = result
    at perm sorted kept ⊢
  by_cases idle : request.idle = true
  · have none : request.taken scanTab = [] := if_pos idle
    have nothing : request.wanted scanTab = [] := if_pos idle
    rw [none] at perm
    have empty := perm.eq_nil
    exact ⟨fun _ => .inl idle, fun _ => ⟨by rw [empty, nothing], by rw [empty]; exact .nil⟩⟩
  · have copied : request.taken scanTab = scanTab.entries.filter request.copies := if_neg idle
    have asked : request.wanted scanTab = scanTab.entries.filter request.selects := if_neg idle
    have judged : (∀ inBss ∈ scanTab.entries, request.misjudges inBss = false) ↔
        (scanTab.entries.filter request.copies).Perm (scanTab.entries.filter request.selects) := by
      rw [filter_perm_iff]
      exact forall₂_congr fun inBss _ => (copies_eq_selects_iff request inBss).symm
    rw [judged]
    constructor
    · rintro ⟨same, order⟩
      rw [asked] at same
      have alike := (copied ▸ perm).symm.trans same
      refine .inr ⟨alike, ?_⟩
      cases allocated with
      | true => exact .inl rfl
      | false =>
        right
        rw [asked, ← List.filter_congr (filter_perm_iff.mp alike), ← copied, ← kept rfl]
        exact order
    · rintro (no | ⟨alike, order⟩)
      · exact absurd no idle
      · refine ⟨?_, ?_⟩
        · rw [asked]
          exact (copied ▸ perm).trans alike
        · cases allocated with
          | true => exact sorted rfl
          | false =>
            rcases order with no | order
            · exact absurd no Bool.false_ne_true
            · rw [kept rfl, copied, List.filter_congr (filter_perm_iff.mp alike), ← asked]
              exact order

end whole

section dual

/-- A station with TKIP that looks for a WPA2 network. -/
def tkipRequest : SortRequest :=
  { supplicantRequest with
    wpaSupplicantUp := 0, phyMode := wmodeG, authMode := .wpa2Psk, wepStatus := .tkipEnable }

/-- A BSS with both kinds of elements: CCMP for the groups of WPA, TKIP for those of WPA2. -/
def dualEntry : BssEntry :=
  { foundEntry with
    fields :=
      { foundEntry.fields with
        security :=
          { foundEntry.fields.security with
            authMode := .wpaPsk
            authModeAux := .wpa2Psk
            wpa := { foundEntry.fields.security.wpa with groupCipher := .aesEnable }
            wpa2 := { pairCipher := .aesEnable, pairCipherAux := .tkipEnable,
                      groupCipher := .tkipEnable, mixMode := true } } } }

def dualTable : BssTable := ⟨1, 0, fun _ => dualEntry⟩

theorem bssTableSsidSort_selected_iff_supplicant :
    Selected supplicantRequest sharedStart.scanTab (bssTableSsidSort .memoryOptimization
      supplicantRequest true sharedStart.scanTab sharedStart.outTab sharedStart.heap).1 :=
  (bssTableSsidSort_selected_iff (by decide) true sharedStart.outTab sharedStart.heap).mpr
    (Or.inr ⟨by decide +kernel, Or.inl rfl⟩)

/-- The BSS is fit for the station, and is left out. -/
theorem not_bssTableSsidSort_selected :
    ¬ Selected tkipRequest dualTable (bssTableSsidSort .memoryOptimization tkipRequest true
      dualTable sharedStart.outTab sharedStart.heap).1 := by
  intro selected
  have lengths := selected.entries.length_eq
  revert lengths
  decide +kernel

end dual

end Mt7612u.Mlme
