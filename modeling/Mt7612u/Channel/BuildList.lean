import Mt7612u.Channel.Regions

/-! The list of channels for a country and a mode. It is built in place, and the check for 40 MHz
looks at the list while it is filled, with the length that the last list had. -/

namespace Mt7612u.Channel.BuildList
open Regions

/-- `CHANNEL_TX_POWER`. -/
structure ChannelTxPower where
  remainingTimeForUse : Nat
  channel : Nat
  bEffectedChannel : Bool
  maxTxPwr : Nat
  dfsReq : Bool
  regulatoryDomain : Nat
  flags : BitVec 8

def cleared : ChannelTxPower := ⟨0, 0, false, 0, false, 0, 0⟩

def maxNumOfChannels : Nat := 59

/-- The list after its `memset`. -/
def wiped (list : Nat → ChannelTxPower) (i : Nat) : ChannelTxPower :=
  if i < maxNumOfChannels then cleared else list i

def radarCh : List Nat := [52, 56, 60, 64, 100, 104, 108, 112, 116, 120, 124, 128, 132, 136, 140]

/-- `ChannelList` and `ChannelListNum`; behind the 59 entries stands other memory. -/
structure Channels where
  list : Nat → ChannelTxPower
  num : Nat

structure Config where
  countryRegion : Nat
  countryRegionForABand : Nat
  phyMode : BitVec 8
  /-- `CONFIG_AP_SUPPORT`. -/
  apSupport : Bool
  bIEEE80211H : Bool
  rdDurRegion : Nat
  bDFSIndoor : Bool
  txPower : List ChannelTxPower

/-- Which of the allocations succeed: the list and the flags, for each band. -/
structure Alloc where
  list2GHZ : Bool
  flag2GHZ : Bool
  list5GHZ : Bool
  flag5GHZ : Bool

def isValidChannel (list : Nat → ChannelTxPower) (num channel : Nat) : Bool :=
  (List.range num).any fun i => (list i).channel == channel

def getExtChAbove (channel : Nat) : Nat := channel + 4

def getExtChBelow (channel : Nat) : Nat := if 4 < channel then channel - 4 else 0

def nChannelGroupCheck (list : Nat → ChannelTxPower) (num channel : Nat) : Bool :=
  if 14 < channel then nGroup5GHZ.contains channel
  else if channel = 14 then false
  else isValidChannel list num (getExtChAbove channel) ||
    isValidChannel list num (getExtChBelow channel)

/-- The loop over `TxPower`: an entry of the channel is copied, with the flags of the region. -/
def copyPower (powers : List ChannelTxPower) (channel : Nat) (flag : BitVec 8)
    (cell : ChannelTxPower) : ChannelTxPower :=
  powers.foldl (fun cell power =>
    if channel = power.channel then { power with flags := flag } else cell) cell

/-- What is set in an entry after it is copied. -/
def finishCell (rdDurRegion : Nat) (radar : List Nat) (channel : Nat) (group40 : Bool)
    (cell : ChannelTxPower) : ChannelTxPower :=
  let cell := if group40 then { cell with flags := cell.flags ||| channel40MCap } else cell
  let cell := if vht80ChannelGroup rdDurRegion cell.channel then
    { cell with flags := cell.flags ||| channel80MCap } else cell
  let cell := if radar.contains channel then { cell with dfsReq := true } else cell
  { cell with maxTxPwr := 20 }

namespace Config

/-- `WMODE_5G_ONLY`: none of `WMODE_B`, `WMODE_G` and `WMODE_GN`. -/
def only5G (cfg : Config) : Bool := cfg.phyMode &&& 0x0e == 0

/-- `WMODE_CAP_5G`: one of `WMODE_A`, `WMODE_AN` and `WMODE_AC`. -/
def cap5G (cfg : Config) : Bool := cfg.phyMode &&& 0x31 != 0

/-- One round of the loop that fills the list; the two bands differ in the channels of radars. -/
def setChannel (cfg : Config) (num : Nat) (radar : List Nat) (pos channel : Nat) (flag : BitVec 8)
    (list : Nat → ChannelTxPower) : Nat → ChannelTxPower :=
  let list := Function.update list pos (copyPower cfg.txPower channel flag (list pos))
  Function.update list pos (finishCell cfg.rdDurRegion radar channel
    (nChannelGroupCheck list num (list pos).channel) (list pos))

def fillBand (cfg : Config) (num : Nat) (radar : List Nat) :
    (pos : Nat) → List (Nat × BitVec 8) → (Nat → ChannelTxPower) → Nat → ChannelTxPower
  | _, [], list => list
  | pos, (channel, flag) :: rest, list =>
    fillBand cfg num radar (pos + 1) rest (cfg.setChannel num radar pos channel flag list)

/-- The channels that are left out for the radar tests of the FCC. -/
def dfsAllowed (cfg : Config) (channel : Nat) : Bool :=
  if !cfg.bIEEE80211H || cfg.rdDurRegion != fcc then true
  else if cfg.bDFSIndoor then decide (channel < 116) || decide (128 < channel)
  else decide (channel < 100) || decide (140 < channel)

def channels2GHZ (descs : List ChDesc) : List (Nat × BitVec 8) :=
  (List.range (totalChNum descs)).map fun i => (getChannel2GHZ descs i, getChannelFlag descs i)

def channels5GHZ (cfg : Config) (descs : List ChDesc) : List (Nat × BitVec 8) :=
  let all := (List.range (totalChNum descs)).map fun i =>
    (getChannel5GHZ descs i, getChannelFlag descs i)
  if cfg.apSupport then all.filter fun entry => cfg.dfsAllowed entry.1 else all

def region2GHZ (cfg : Config) : Option (List ChDesc) :=
  regionOf countryRegionChDesc2GHZ cfg.countryRegion

def region5GHZ (cfg : Config) : Option (List ChDesc) :=
  regionOf countryRegionChDesc5GHZ cfg.countryRegionForABand

/-- The second half of `BuildChannelList`; `index` entries are filled. -/
def build5GHZ (cfg : Config) (alloc : Alloc) (num index : Nat) (list : Nat → ChannelTxPower) :
    Channels × Bool :=
  if cfg.cap5G then
    match cfg.region5GHZ with
    | none => (⟨list, num⟩, false)
    | some descs =>
      if 0 < totalChNum descs then
        if alloc.list5GHZ && alloc.flag5GHZ then
          (⟨cfg.fillBand num radarCh index (cfg.channels5GHZ descs) list,
            index + (cfg.channels5GHZ descs).length⟩, true)
        else (⟨list, num⟩, false)
      else (⟨list, index⟩, true)
  else (⟨list, index⟩, true)

/-- `BuildChannelList`, with whether its end was reached. -/
def buildChannelList (cfg : Config) (alloc : Alloc) (before : Channels) : Channels × Bool :=
  let list := wiped before.list
  if cfg.only5G then cfg.build5GHZ alloc before.num 0 list
  else
    match cfg.region2GHZ with
    | none => (⟨list, before.num⟩, false)
    | some descs =>
      if 0 < totalChNum descs then
        if alloc.list2GHZ && alloc.flag2GHZ then
          cfg.build5GHZ alloc before.num (totalChNum descs)
            (cfg.fillBand before.num [] 0 (channels2GHZ descs) list)
        else (⟨list, before.num⟩, false)
      else cfg.build5GHZ alloc before.num 0 list

end Config

namespace Channels

def firstChannel (chans : Channels) : Nat := (chans.list 0).channel

/-- The loop of `NextChannel`; `coex` is the scan type `SCAN_2040_BSS_COEXIST`. -/
def nextLoop (coex : Bool) (list : Nat → ChannelTxPower) : List Nat → Nat → Nat
  | [], _ => 0
  | i :: rest, channel =>
    if channel = (list i).channel then
      if coex && decide (14 < (list (i + 1)).channel) then
        nextLoop coex list rest (list (i + 1)).channel
      else (list (i + 1)).channel
    else nextLoop coex list rest channel

def nextChannel (chans : Channels) (coex : Bool) (channel : Nat) : Nat :=
  nextLoop coex chans.list (List.range (chans.num - 1)) channel

def rtmpFindScanChannel (chans : Channels) (coex : Bool) (last : Nat) : Nat :=
  if last = 0 then chans.firstChannel else chans.nextChannel coex last

/-- The channels that a scan visits from a channel on, when 0 comes in the end. -/
def scan (chans : Channels) : (fuel last : Nat) → Option (List Nat)
  | 0, _ => none
  | fuel + 1, last =>
    let channel := chans.rtmpFindScanChannel false last
    if channel = 0 then some [] else (scan chans fuel channel).map (channel :: ·)

/-- The channels that `ChannelListNum` counts. -/
def listed (chans : Channels) : List Nat := (List.range chans.num).map fun i => (chans.list i).channel

end Channels

/-- The entry may be used at 40 MHz. -/
def ChannelTxPower.has40 (cell : ChannelTxPower) : Bool := cell.flags &&& channel40MCap != 0

/-- `TxPower` has an entry for each channel of the regions that are used. -/
structure Config.Contains (cfg : Config) : Prop where
  at2GHZ : cfg.only5G = false → ∀ descs, cfg.region2GHZ = some descs → ∀ i < totalChNum descs,
    ∃ power ∈ cfg.txPower, power.channel = getChannel2GHZ descs i
  at5GHZ : cfg.cap5G = true → ∀ descs, cfg.region5GHZ = some descs → ∀ i < totalChNum descs,
    ∃ power ∈ cfg.txPower, power.channel = getChannel5GHZ descs i

/-- What is asked of a call. `own` is about a call that reached its end: other contents of the array,
and a second call, give the same entries. -/
structure Faithful (cfg : Config) (alloc : Alloc) (before : Channels) : Prop where
  own : (cfg.buildChannelList alloc before).2 = true → ∀ list,
    (cfg.buildChannelList alloc ⟨list, before.num⟩).1.num = (cfg.buildChannelList alloc before).1.num ∧
      ∀ k < (cfg.buildChannelList alloc before).1.num,
        (cfg.buildChannelList alloc ⟨list, before.num⟩).1.list k =
          (cfg.buildChannelList alloc before).1.list k
  again : (cfg.buildChannelList alloc before).2 = true →
    cfg.buildChannelList alloc (cfg.buildChannelList alloc before).1 =
      cfg.buildChannelList alloc before
  distinct : (cfg.buildChannelList alloc before).2 = true →
    (cfg.buildChannelList alloc before).1.listed.Nodup ∧
      0 ∉ (cfg.buildChannelList alloc before).1.listed
  wide : (cfg.buildChannelList alloc before).2 = true →
    ∀ k < (cfg.buildChannelList alloc before).1.num, ∀ channel < 14,
      ((cfg.buildChannelList alloc before).1.list k).channel = channel →
        (((cfg.buildChannelList alloc before).1.list k).has40 = true ↔
          channel + 4 ∈ (cfg.buildChannelList alloc before).1.listed ∨
            4 < channel ∧ channel - 4 ∈ (cfg.buildChannelList alloc before).1.listed)
  counted : (cfg.buildChannelList alloc before).2 = false →
    0 ∉ (cfg.buildChannelList alloc before).1.listed
  scanned : ∃ enough, ∀ fuel ≥ enough, (cfg.buildChannelList alloc before).1.scan fuel 0 =
    some (cfg.buildChannelList alloc before).1.listed

/-- The run of channels and the length before the call for which the flags of 2.4 GHz come out
right. -/
def WideFits (first total num : Nat) : Prop :=
  total = 1 ∨ total ≤ 4 ∧ num ≤ maxNumOfChannels ∨ first = 1 ∧ min total 13 ≤ num + 4

/-- The second half returns early. -/
def Config.Early5GHZ (cfg : Config) (alloc : Alloc) : Prop :=
  cfg.cap5G = true ∧ (cfg.region5GHZ = none ∨ (alloc.list5GHZ && alloc.flag5GHZ) = false)

/-- The condition. -/
def Sound (cfg : Config) (alloc : Alloc) (num : Nat) : Prop :=
  if cfg.only5G = true then cfg.Early5GHZ alloc → num = 0
  else
    match cfg.region2GHZ with
    | none => num = 0
    | some descs =>
      if (alloc.list2GHZ && alloc.flag2GHZ) = false then num = 0
      else (cfg.Early5GHZ alloc → 0 < num ∧ num ≤ totalChNum descs) ∧
        (¬ cfg.Early5GHZ alloc → WideFits (getChannel2GHZ descs 0) (totalChNum descs) num)

section Copies
variable {powers : List ChannelTxPower} {channel : Nat} {flag : BitVec 8}

theorem copyPower_kept {cell : ChannelTxPower} (same : cell.channel = channel)
    (flags : cell.flags = flag) :
    (copyPower powers channel flag cell).channel = channel ∧
      (copyPower powers channel flag cell).flags = flag := by
  unfold copyPower
  induction powers generalizing cell with
  | nil => exact ⟨same, flags⟩
  | cons power rest ih =>
    rw [List.foldl_cons]
    by_cases found : channel = power.channel
    · rw [if_pos found]
      exact ih found.symm rfl
    · rw [if_neg found]
      exact ih same flags

/-- What stood in the entry does not matter when the channel is in the table. -/
theorem copyPower_found (contained : ∃ power ∈ powers, power.channel = channel)
    (cell other : ChannelTxPower) :
    (copyPower powers channel flag cell).channel = channel ∧
      (copyPower powers channel flag cell).flags = flag ∧
      copyPower powers channel flag cell = copyPower powers channel flag other := by
  induction powers generalizing cell other with
  | nil =>
    obtain ⟨power, inside, _⟩ := contained
    exact absurd inside List.not_mem_nil
  | cons power rest ih =>
    by_cases found : channel = power.channel
    · have step : ∀ start, copyPower (power :: rest) channel flag start =
          copyPower rest channel flag { power with flags := flag } := by
        intro start
        unfold copyPower
        rw [List.foldl_cons, if_pos found]
      rw [step, step]
      have kept := @copyPower_kept rest channel flag { power with flags := flag } found.symm rfl
      exact ⟨kept.1, kept.2, rfl⟩
    · have step : ∀ start, copyPower (power :: rest) channel flag start =
          copyPower rest channel flag start := by
        intro start
        unfold copyPower
        rw [List.foldl_cons, if_neg found]
      rw [step, step]
      apply ih
      obtain ⟨entry, inside, same⟩ := contained
      rcases List.mem_cons.mp inside with rfl | behind
      · exact absurd same.symm found
      · exact ⟨entry, behind, same⟩

end Copies

section Scan
variable {chans : Channels}

theorem nextLoop_none {list : Nat → ChannelTxPower} {channel : Nat} :
    ∀ count start, (∀ i, start ≤ i → i < start + count → (list i).channel ≠ channel) →
      Channels.nextLoop false list (List.range' start count) channel = 0 := by
  intro count
  induction count with
  | zero => exact fun _ _ => rfl
  | succ count ih =>
    intro start others
    rw [List.range'_succ, Channels.nextLoop,
      if_neg (others start (Nat.le_refl _) (by omega)).symm]
    exact ih (start + 1) fun i above below => others i (by omega) (by omega)

theorem nextLoop_at {list : Nat → ChannelTxPower} {k : Nat} :
    ∀ count start, start ≤ k → k < start + count →
      (∀ i, start ≤ i → i < k → (list i).channel ≠ (list k).channel) →
      Channels.nextLoop false list (List.range' start count) (list k).channel =
        (list (k + 1)).channel := by
  intro count
  induction count with
  | zero =>
    intro start below above
    omega
  | succ count ih =>
    intro start below above others
    rw [List.range'_succ, Channels.nextLoop]
    by_cases here : start = k
    · subst here
      rw [if_pos rfl]
      rfl
    · rw [if_neg (others start (Nat.le_refl _) (by omega)).symm]
      exact ih (start + 1) (by omega) (by omega) fun i above below => others i (by omega) below

theorem listed_getElem {k : Nat} (inside : k < chans.num) :
    chans.listed[k]? = some (chans.list k).channel := by
  unfold Channels.listed
  rw [List.getElem?_map, List.getElem?_range inside]
  rfl

theorem listed_length : chans.listed.length = chans.num := by
  unfold Channels.listed
  rw [List.length_map, List.length_range]

/-- Distinct entries have distinct channels. -/
theorem listed_inj (distinct : chans.listed.Nodup) {i k : Nat} (inside : i < chans.num)
    (known : k < chans.num) (same : (chans.list i).channel = (chans.list k).channel) : i = k := by
  apply (List.getElem?_inj (listed_length.symm ▸ inside) distinct).mp
  rw [listed_getElem inside, listed_getElem known, same]

/-- From a listed channel on, the rest of the list is visited. -/
theorem scan_from (distinct : chans.listed.Nodup) (positive : 0 ∉ chans.listed) :
    ∀ fuel k, k < chans.num → chans.num - k ≤ fuel →
      chans.scan fuel (chans.list k).channel =
        some ((List.range' (k + 1) (chans.num - 1 - k)).map fun i => (chans.list i).channel) := by
  have nonzero : ∀ k < chans.num, (chans.list k).channel ≠ 0 := by
    intro k inside zero
    exact positive (zero ▸ List.mem_of_getElem? (listed_getElem inside))
  intro fuel
  induction fuel with
  | zero =>
    intro k inside enough
    omega
  | succ fuel ih =>
    intro k inside enough
    rw [Channels.scan, Channels.rtmpFindScanChannel, if_neg (nonzero k inside),
      Channels.nextChannel, List.range_eq_range']
    by_cases last : k + 1 = chans.num
    · rw [nextLoop_none _ _ ?_, if_pos rfl, show chans.num - 1 - k = 0 by omega]
      · rfl
      · intro i _ below same
        have := listed_inj distinct (by omega) inside same
        omega
    · rw [nextLoop_at _ _ (Nat.zero_le k) (by omega) ?_, if_neg (nonzero (k + 1) (by omega)),
        ih (k + 1) (by omega) (by omega),
        show chans.num - 1 - k = (chans.num - 1 - (k + 1)) + 1 by omega, List.range'_succ]
      · rfl
      · intro i _ below same
        have := listed_inj distinct (by omega) inside same
        omega

/-- A scan of distinct channels visits each of them once, in order. -/
theorem scan_listed (distinct : chans.listed.Nodup) (positive : 0 ∉ chans.listed)
    (some_listed : 0 < chans.num) : ∀ fuel ≥ chans.num + 1, chans.scan fuel 0 = some chans.listed := by
  intro fuel enough
  obtain ⟨fuel, rfl⟩ : ∃ less, fuel = less + 1 := ⟨fuel - 1, by omega⟩
  have nonzero : (chans.list 0).channel ≠ 0 := by
    intro zero
    exact positive (zero ▸ List.mem_of_getElem? (listed_getElem some_listed))
  rw [Channels.scan, Channels.rtmpFindScanChannel, if_pos rfl, Channels.firstChannel,
    if_neg nonzero, scan_from distinct positive fuel 0 some_listed (by omega), Channels.listed,
    List.range_eq_range', show chans.num = (chans.num - 1 - 0) + 1 by omega, List.range'_succ]
  rfl

theorem scan_empty (none_listed : chans.num = 0) :
    (∃ enough, ∀ fuel ≥ enough, chans.scan fuel 0 = some chans.listed) ↔
      (chans.list 0).channel = 0 := by
  have listed : chans.listed = [] := by
    unfold Channels.listed
    rw [none_listed]
    rfl
  rw [listed]
  constructor
  · intro ⟨enough, ends⟩
    by_contra nonzero
    have visits := ends (enough + 1) (by omega)
    rw [Channels.scan, Channels.rtmpFindScanChannel, if_pos rfl, Channels.firstChannel,
      if_neg nonzero, Option.map_eq_some_iff] at visits
    obtain ⟨_, _, cons⟩ := visits
    cases cons
  · intro zero
    refine ⟨1, fun fuel enough => ?_⟩
    obtain ⟨fuel, rfl⟩ : ∃ less, fuel = less + 1 := ⟨fuel - 1, by omega⟩
    rw [Channels.scan, Channels.rtmpFindScanChannel, if_pos rfl, Channels.firstChannel, if_pos zero]

end Scan

section Filling
variable {cfg : Config} {num : Nat} {radar : List Nat}

theorem finishCell_channel (channel : Nat) (group40 : Bool) (cell : ChannelTxPower) :
    (finishCell cfg.rdDurRegion radar channel group40 cell).channel = cell.channel := by
  cases group40 <;> cases wide : vht80ChannelGroup cfg.rdDurRegion cell.channel <;>
    cases seen : radar.contains channel <;>
    simp only [finishCell, wide, seen, if_true, if_false, Bool.false_eq_true]

/-- The flag for 40 MHz is what the check gave, the property of the region not having it. -/
theorem finishCell_has40 (channel : Nat) (group40 : Bool) {cell : ChannelTxPower}
    (plain : cell.flags &&& channel40MCap = 0) :
    (finishCell cfg.rdDurRegion radar channel group40 cell).has40 = group40 := by
  have with40 : (cell.flags ||| channel40MCap) &&& channel40MCap = channel40MCap := by
    rw [BitVec.and_or_distrib_right, plain]
    rfl
  have with80 : ∀ flags : BitVec 8, (flags ||| channel80MCap) &&& channel40MCap =
      flags &&& channel40MCap := by
    intro flags
    rw [BitVec.and_or_distrib_right]
    exact BitVec.or_zero
  have set : (channel40MCap != 0) = true := rfl
  cases group40 <;> cases wide : vht80ChannelGroup cfg.rdDurRegion cell.channel <;>
    cases seen : radar.contains channel <;>
    simp only [finishCell, ChannelTxPower.has40, wide, seen, if_true, if_false, Bool.false_eq_true,
      with80, with40, plain, set, bne_self_eq_false]

theorem setChannel_other {pos channel k : Nat} {flag : BitVec 8} {list : Nat → ChannelTxPower}
    (other : k ≠ pos) : cfg.setChannel num radar pos channel flag list k = list k := by
  unfold Config.setChannel
  rw [Function.update_of_ne other, Function.update_of_ne other]

theorem fillBand_outside : ∀ (chans : List (Nat × BitVec 8)) (pos k : Nat)
    (list : Nat → ChannelTxPower), (k < pos ∨ pos + chans.length ≤ k) →
    cfg.fillBand num radar pos chans list k = list k := by
  intro chans
  induction chans with
  | nil => exact fun _ _ _ _ => rfl
  | cons entry rest ih =>
    intro pos k list outside
    rw [List.length_cons] at outside
    rw [Config.fillBand, ih _ _ _ (by omega), setChannel_other (by omega)]

/-- An entry is set once, after those before it. -/
theorem fillBand_at {channel : Nat} {flag : BitVec 8} : ∀ (chans : List (Nat × BitVec 8))
    (j pos : Nat) (list : Nat → ChannelTxPower), chans[j]? = some (channel, flag) →
    cfg.fillBand num radar pos chans list (pos + j) =
      cfg.setChannel num radar (pos + j) channel flag
        (cfg.fillBand num radar pos (chans.take j) list) (pos + j) := by
  intro chans
  induction chans with
  | nil =>
    intro j pos list found
    cases found
  | cons entry rest ih =>
    intro j pos list found
    cases j with
    | zero =>
      have same : entry = (channel, flag) := Option.some.inj found
      rw [same, Config.fillBand, fillBand_outside _ _ _ _ (by omega)]
      rfl
    | succ j =>
      have step := ih j (pos + 1) (cfg.setChannel num radar pos entry.1 entry.2 list) found
      rw [show pos + 1 + j = pos + (j + 1) by omega] at step
      rw [Config.fillBand, step, List.take_succ_cons, Config.fillBand]

variable {chans : List (Nat × BitVec 8)}

/-- The check for 40 MHz of an entry, with the list as it is then. -/
def checked (cfg : Config) (num : Nat) (radar : List Nat) (pos : Nat)
    (chans : List (Nat × BitVec 8)) (list : Nat → ChannelTxPower) (j channel : Nat)
    (flag : BitVec 8) : Bool :=
  nChannelGroupCheck (Function.update (cfg.fillBand num radar pos (chans.take j) list) (pos + j)
    (copyPower cfg.txPower channel flag cleared)) num channel

/-- An entry whose channel is in the power table. -/
theorem fillBand_cell {channel : Nat} {flag : BitVec 8} {j : Nat} (pos : Nat)
    (list : Nat → ChannelTxPower) (found : chans[j]? = some (channel, flag))
    (contained : ∃ power ∈ cfg.txPower, power.channel = channel) :
    cfg.fillBand num radar pos chans list (pos + j) =
      finishCell cfg.rdDurRegion radar channel
        (checked cfg num radar pos chans list j channel flag)
        (copyPower cfg.txPower channel flag cleared) := by
  rw [fillBand_at chans j pos list found]
  unfold Config.setChannel checked
  generalize cfg.fillBand num radar pos (chans.take j) list = filled
  have copied := @copyPower_found cfg.txPower channel flag contained (filled (pos + j)) cleared
  have copied' := @copyPower_found cfg.txPower channel flag contained cleared cleared
  rw [copied.2.2]
  simp only [Function.update_self]
  rw [copied'.1]

theorem fillBand_channel {channel : Nat} {flag : BitVec 8} {j : Nat} (pos : Nat)
    (list : Nat → ChannelTxPower) (found : chans[j]? = some (channel, flag))
    (contained : ∃ power ∈ cfg.txPower, power.channel = channel) :
    (cfg.fillBand num radar pos chans list (pos + j)).channel = channel := by
  rw [fillBand_cell pos list found contained, finishCell_channel]
  exact (@copyPower_found cfg.txPower channel flag contained cleared cleared).1

theorem isValidChannel_iff {list : Nat → ChannelTxPower} {channel : Nat} :
    isValidChannel list num channel = true ↔ ∃ i < num, (list i).channel = channel := by
  unfold isValidChannel
  simp only [List.any_eq_true, List.mem_range, beq_iff_eq]

/-- At 5 GHz the check does not look at the list. -/
theorem nChannelGroupCheck_high {list : Nat → ChannelTxPower} {channel : Nat} (high : 36 ≤ channel) :
    nChannelGroupCheck list num channel = nGroup5GHZ.contains channel := by
  unfold nChannelGroupCheck
  rw [if_pos (by omega)]

end Filling

/-- The runs of the regions at 2.4 GHz: first channel and number. -/
def runs2GHZ : List (Nat × Nat) :=
  [(1, 11), (1, 13), (10, 2), (10, 4), (14, 1), (1, 14), (3, 7), (5, 9)]

/-- The channel that the check finds in an entry while entry `j` is filled. -/
def readAt (first j : Nat) (list : Nat → ChannelTxPower) (i : Nat) : Nat :=
  if i ≤ j then first + i else (wiped list i).channel

/-- The check of entry `j` finds a channel four away. -/
def FindsAway (first j num : Nat) (list : Nat → ChannelTxPower) : Prop :=
  ∃ i < num, readAt first j list i = first + j + 4 ∨
    readAt first j list i = getExtChBelow (first + j)

section Wide
variable {first total num j : Nat} {list : Nat → ChannelTxPower}

theorem readAt_wiped {i : Nat} (behind : j < i) (inside : i < maxNumOfChannels) :
    readAt first j list i = 0 := by
  unfold readAt wiped
  rw [if_neg (by omega), if_pos inside]
  rfl

theorem readAt_filled {i : Nat} (before : i ≤ j) : readAt first j list i = first + i := if_pos before

/-- With the array long enough, the check sees the run up to the entry, and cleared entries. -/
theorem findsAway_inside (short : num ≤ maxNumOfChannels) (positive : 0 < first) :
    FindsAway first j num list ↔
      4 ≤ j ∧ j < num + 4 ∨ first + j ≤ 4 ∧ j + 1 < num := by
  unfold FindsAway getExtChBelow
  constructor
  · intro ⟨i, inside, found⟩
    by_cases before : i ≤ j
    · rw [readAt_filled before] at found
      split at found <;> omega
    · rw [readAt_wiped (by omega) (by omega)] at found
      split at found <;> omega
  · intro away
    rcases away with ⟨four, below⟩ | ⟨low, more⟩
    · refine ⟨j - 4, by omega, .inr ?_⟩
      rw [readAt_filled (by omega), if_pos (by omega)]
      omega
    · refine ⟨j + 1, more, .inr ?_⟩
      rw [readAt_wiped (by omega) (by omega), if_neg (by omega)]

/-- Entries further on only add to what the check finds. -/
theorem findsAway_mono {more : Nat} (longer : num ≤ more) (finds : FindsAway first j num list) :
    FindsAway first j more list := by
  obtain ⟨i, inside, found⟩ := finds
  exact ⟨i, by omega, found⟩

theorem wide_of_fits (known : (first, total) ∈ runs2GHZ) (fits : WideFits first total num)
    (inside : j < total) (low : first + j < 14) :
    FindsAway first j num list ↔ j + 4 < total ∨ 4 ≤ j := by
  unfold WideFits maxNumOfChannels at fits
  simp only [runs2GHZ, List.mem_cons, List.not_mem_nil, or_false, Prod.mk.injEq] at known
  by_cases short : num ≤ maxNumOfChannels
  · rw [findsAway_inside short (by omega)]
    omega
  · unfold maxNumOfChannels at short
    have right : j + 4 < total ∨ 4 ≤ j := by omega
    have finds : FindsAway first j 59 list := by
      rw [findsAway_inside (by decide) (by omega)]
      omega
    exact iff_of_true (findsAway_mono (by omega) finds) right

/-- Where the condition does not hold, some content of the memory gives a wrong flag. -/
theorem fits_of_wide (known : (first, total) ∈ runs2GHZ)
    (wide : ∀ list j, j < total → first + j < 14 →
      (FindsAway first j num list ↔ j + 4 < total ∨ 4 ≤ j)) : WideFits first total num := by
  unfold WideFits maxNumOfChannels
  by_contra unfit
  have runs := known
  simp only [runs2GHZ, List.mem_cons, List.not_mem_nil, or_false, Prod.mk.injEq] at runs
  by_cases short : num ≤ maxNumOfChannels
  · have shorter : num ≤ 59 := short
    have right : ∀ j, j < total → first + j < 14 →
        (4 ≤ j ∧ j < num + 4 ∨ first + j ≤ 4 ∧ j + 1 < num ↔ j + 4 < total ∨ 4 ≤ j) := by
      intro j inside low
      rw [← @wide (fun _ => cleared) j inside low]
      exact (findsAway_inside short (by omega)).symm
    by_cases one : first = 1
    · have last := right (min total 13 - 1) (by omega) (by omega)
      omega
    · have near := right (5 - first) (by omega) (by omega)
      omega
  · have longer : 59 < num := by
      unfold maxNumOfChannels at short
      omega
    by_cases few : total ≤ 4
    · -- a channel 14 behind the array is taken for the one above channel 10
      have left : FindsAway first 0 num fun _ => { cleared with channel := 14 } := by
        refine ⟨59, longer, .inl ?_⟩
        have ten : first = 10 := by omega
        rw [ten]
        rfl
      have right := (wide _ 0 (by omega) (by omega)).mp left
      omega
    · have right := (wide (fun _ => cleared) (5 - first) (by omega) (by omega)).mpr (by omega)
      obtain ⟨i, _, found⟩ := right
      have zero : (wiped (fun _ => cleared) i).channel = 0 := by
        unfold wiped
        split <;> rfl
      unfold getExtChBelow at found
      by_cases before : i ≤ 5 - first
      · rw [readAt_filled before] at found
        split at found <;> omega
      · have nothing : readAt first (5 - first) (fun _ => cleared) i = 0 := by
          unfold readAt
          rw [if_neg before, zero]
        rw [nothing] at found
        split at found <;> omega

end Wide

/-- The channels at 2.4 GHz: one run from `from2GHZ` on, or none. -/
structure Run (cfg : Config) (from2GHZ : Nat) (chans : List (Nat × BitVec 8)) : Prop where
  run : ∀ j < chans.length, ∃ flag, chans[j]? = some (from2GHZ + j, flag) ∧
    flag &&& channel40MCap = 0
  known : chans = [] ∨ (from2GHZ, chans.length) ∈ runs2GHZ
  contained : ∀ j < chans.length, ∃ power ∈ cfg.txPower, power.channel = from2GHZ + j

/-- The channels at 5 GHz. -/
structure High (cfg : Config) (chans : List (Nat × BitVec 8)) : Prop where
  distinct : (chans.map (·.1)).Nodup
  high : ∀ entry ∈ chans, 36 ≤ entry.1
  few : chans.length ≤ 26
  contained : ∀ entry ∈ chans, ∃ power ∈ cfg.txPower, power.channel = entry.1

/-- The list after both bands. -/
def filled (cfg : Config) (num : Nat) (first second : List (Nat × BitVec 8))
    (list : Nat → ChannelTxPower) : Nat → ChannelTxPower :=
  cfg.fillBand num radarCh first.length second (cfg.fillBand num [] 0 first (wiped list))

section Bands
variable {cfg : Config} {num from2GHZ : Nat} {first second : List (Nat × BitVec 8)}
  {list : Nat → ChannelTxPower}

theorem Run.bounds (run : Run cfg from2GHZ first) (some_first : first ≠ []) :
    0 < from2GHZ ∧ from2GHZ + first.length ≤ 15 := by
  have known := run.known.resolve_left some_first
  simp only [runs2GHZ, List.mem_cons, List.not_mem_nil, or_false, Prod.mk.injEq] at known
  omega

theorem filled_first {k : Nat} (inside : k < first.length) :
    filled cfg num first second list k = cfg.fillBand num [] 0 first (wiped list) k := by
  unfold filled
  exact fillBand_outside _ _ _ _ (.inl inside)

theorem filled_behind {k : Nat} (behind : first.length + second.length ≤ k) :
    filled cfg num first second list k = wiped list k := by
  unfold filled
  rw [fillBand_outside _ _ _ _ (.inr behind), fillBand_outside _ _ _ _ (.inr (by omega))]

theorem filled_channel (run : Run cfg from2GHZ first) (high : High cfg second) {k : Nat}
    {entry : Nat × BitVec 8} (found : (first ++ second)[k]? = some entry) :
    (filled cfg num first second list k).channel = entry.1 := by
  by_cases inside : k < first.length
  · rw [List.getElem?_append_left inside] at found
    obtain ⟨flag, at_run, _⟩ := run.run k inside
    have same : entry = (from2GHZ + k, flag) := Option.some.inj (found.symm.trans at_run)
    have channel := @fillBand_channel cfg num [] first _ _ k 0 (wiped list) at_run
      (run.contained k inside)
    rw [Nat.zero_add] at channel
    rw [filled_first inside, channel, same]
  · rw [List.getElem?_append_right (by omega)] at found
    have channel := @fillBand_channel cfg num radarCh second entry.1 entry.2 (k - first.length)
      first.length (cfg.fillBand num [] 0 first (wiped list)) found
      (high.contained entry (List.mem_of_getElem? found))
    rw [show first.length + (k - first.length) = k by omega] at channel
    exact channel

/-- What the check of an entry reads of the list. -/
theorem filling_channel (run : Run cfg from2GHZ first) {j : Nat} {flag : BitVec 8}
    (inside : j < first.length) (i : Nat) :
    (Function.update (cfg.fillBand num [] 0 (first.take j) (wiped list)) (0 + j)
      (copyPower cfg.txPower (from2GHZ + j) flag cleared) i).channel =
        readAt from2GHZ j list i := by
  rw [Nat.zero_add]
  by_cases here : i = j
  · rw [here, Function.update_self, readAt_filled (Nat.le_refl _)]
    exact (@copyPower_found cfg.txPower _ flag (run.contained j inside) cleared cleared).1
  · rw [Function.update_of_ne here]
    by_cases before : i < j
    · obtain ⟨flag, at_run, _⟩ := run.run i (by omega)
      have taken : (first.take j)[i]? = some (from2GHZ + i, flag) := by
        rw [List.getElem?_take_of_lt before]
        exact at_run
      have channel := @fillBand_channel cfg num [] (first.take j) _ _ i 0 (wiped list) taken
        (run.contained i (by omega))
      rw [Nat.zero_add] at channel
      rw [channel, readAt_filled (by omega)]
    · rw [fillBand_outside _ _ _ _ (.inr (by rw [List.length_take]; omega))]
      unfold readAt
      rw [if_neg (by omega)]

theorem checked_low (run : Run cfg from2GHZ first) {j : Nat} {flag : BitVec 8}
    (inside : j < first.length) (low : from2GHZ + j < 14) :
    checked cfg num [] 0 first (wiped list) j (from2GHZ + j) flag = true ↔
      FindsAway from2GHZ j num list := by
  unfold checked nChannelGroupCheck FindsAway getExtChAbove
  rw [if_neg (by omega), if_neg (by omega), Bool.or_eq_true, isValidChannel_iff,
    isValidChannel_iff]
  simp only [filling_channel run inside]
  constructor
  · rintro (⟨i, known, same⟩ | ⟨i, known, same⟩)
    · exact ⟨i, known, .inl same⟩
    · exact ⟨i, known, .inr same⟩
  · intro ⟨i, known, found⟩
    exact found.imp (fun same => ⟨i, known, same⟩) fun same => ⟨i, known, same⟩

/-- An entry of the run, with its flag for 40 MHz. -/
theorem filled_run (run : Run cfg from2GHZ first) {j : Nat} (inside : j < first.length) :
    ∃ flag, flag &&& channel40MCap = 0 ∧ filled cfg num first second list j =
      finishCell cfg.rdDurRegion [] (from2GHZ + j)
        (checked cfg num [] 0 first (wiped list) j (from2GHZ + j) flag)
        (copyPower cfg.txPower (from2GHZ + j) flag cleared) ∧
      first[j]? = some (from2GHZ + j, flag) := by
  obtain ⟨flag, at_run, plain⟩ := run.run j inside
  have cell := @fillBand_cell cfg num [] first _ _ j 0 (wiped list) at_run (run.contained j inside)
  rw [Nat.zero_add] at cell
  exact ⟨flag, plain, (filled_first inside).trans cell, at_run⟩

theorem filled_has40 (run : Run cfg from2GHZ first) {j : Nat} (inside : j < first.length)
    (low : from2GHZ + j < 14) :
    (filled cfg num first second list j).has40 = true ↔ FindsAway from2GHZ j num list := by
  obtain ⟨flag, plain, cell, _⟩ := @filled_run cfg num from2GHZ first second list run j inside
  have copied := @copyPower_found cfg.txPower _ flag (run.contained j inside) cleared cleared
  rw [cell, finishCell_has40 _ _ (copied.2.1.symm ▸ plain)]
  exact checked_low run inside low

/-- Two fillings agree when their checks at 2.4 GHz do. -/
theorem filled_same (run : Run cfg from2GHZ first) (high : High cfg second) {more : Nat}
    {other : Nat → ChannelTxPower}
    (same : ∀ j < first.length, from2GHZ + j < 14 →
      (FindsAway from2GHZ j num list ↔ FindsAway from2GHZ j more other)) {k : Nat}
    (inside : k < first.length + second.length) :
    filled cfg num first second list k = filled cfg more first second other k := by
  by_cases low : k < first.length
  · obtain ⟨flag, _, cell, found⟩ := @filled_run cfg num from2GHZ first second list run k low
    obtain ⟨flag', _, cell', found'⟩ := @filled_run cfg more from2GHZ first second other run k low
    have flags : flag' = flag := by
      have pairs := Option.some.inj (found'.symm.trans found)
      exact congrArg Prod.snd pairs
    rw [cell, cell', flags]
    have checks : checked cfg num [] 0 first (wiped list) k (from2GHZ + k) flag =
        checked cfg more [] 0 first (wiped other) k (from2GHZ + k) flag := by
      by_cases below : from2GHZ + k < 14
      · rw [Bool.eq_iff_iff, checked_low run low below, checked_low run low below]
        exact same k low below
      · have bounds := run.bounds (by rintro rfl; exact absurd low (Nat.not_lt_zero _))
        have fourteen : from2GHZ + k = 14 := by omega
        unfold checked
        rw [fourteen]
        rfl
    rw [checks]
  · obtain ⟨entry, found⟩ : ∃ entry, second[k - first.length]? = some entry :=
      ⟨_, List.getElem?_eq_getElem (by omega)⟩
    have member := List.mem_of_getElem? found
    have above := high.high entry member
    unfold filled
    have at_k : k = first.length + (k - first.length) := by omega
    rw [at_k, @fillBand_cell cfg num radarCh second entry.1 entry.2 _ _ _ found
      (high.contained entry member), @fillBand_cell cfg more radarCh second entry.1 entry.2 _ _ _
      found (high.contained entry member)]
    unfold checked
    rw [nChannelGroupCheck_high above, nChannelGroupCheck_high above]

/-- The channels that are listed. -/
theorem filled_listed (run : Run cfg from2GHZ first) (high : High cfg second) :
    Channels.listed ⟨filled cfg num first second list, first.length + second.length⟩ =
      (first ++ second).map (·.1) := by
  apply List.ext_getElem?
  intro k
  by_cases inside : k < first.length + second.length
  · obtain ⟨entry, found⟩ : ∃ entry, (first ++ second)[k]? = some entry :=
      ⟨_, List.getElem?_eq_getElem (by rw [List.length_append]; exact inside)⟩
    rw [listed_getElem inside, List.getElem?_map, found]
    exact congrArg some (filled_channel run high found)
  · rw [List.getElem?_eq_none, List.getElem?_eq_none]
    · rw [List.length_map, List.length_append]
      omega
    · rw [listed_length]
      exact Nat.le_of_not_lt inside

theorem Run.mem_iff (run : Run cfg from2GHZ first) {channel : Nat} :
    channel ∈ first.map (·.1) ↔ ∃ j < first.length, channel = from2GHZ + j := by
  rw [List.mem_map]
  constructor
  · intro ⟨entry, member, same⟩
    obtain ⟨j, inside, found⟩ := List.mem_iff_getElem.mp member
    obtain ⟨flag, at_run, _⟩ := run.run j inside
    rw [List.getElem?_eq_getElem inside, found] at at_run
    exact ⟨j, inside, by rw [← same, Option.some.inj at_run]⟩
  · intro ⟨j, inside, same⟩
    obtain ⟨flag, at_run, _⟩ := run.run j inside
    exact ⟨_, List.mem_of_getElem? at_run, same.symm⟩

theorem mem_low (run : Run cfg from2GHZ first) (high : High cfg second) {channel : Nat}
    (low : channel < 36) :
    channel ∈ (first ++ second).map (·.1) ↔ ∃ j < first.length, channel = from2GHZ + j := by
  rw [List.map_append, List.mem_append, run.mem_iff, or_iff_left]
  intro member
  obtain ⟨entry, inside, same⟩ := List.mem_map.mp member
  have above := high.high entry inside
  omega

theorem bands_distinct (run : Run cfg from2GHZ first) (high : High cfg second) :
    ((first ++ second).map (·.1)).Nodup ∧ 0 ∉ (first ++ second).map (·.1) := by
  have first_run : first.map (·.1) = (List.range first.length).map fun j => from2GHZ + j := by
    apply List.ext_getElem?
    intro j
    rw [List.getElem?_map, List.getElem?_map]
    by_cases inside : j < first.length
    · obtain ⟨flag, at_run, _⟩ := run.run j inside
      rw [at_run, List.getElem?_range inside]
      rfl
    · rw [List.getElem?_eq_none (by omega),
        List.getElem?_eq_none (by rw [List.length_range]; omega)]
      rfl
  have upper : ∀ channel, (∃ j < first.length, channel = from2GHZ + j) →
      0 < channel ∧ channel < 15 := by
    intro channel ⟨j, inside, same⟩
    have bounds := run.bounds (by rintro rfl; exact absurd inside (Nat.not_lt_zero _))
    omega
  constructor
  · rw [List.map_append, List.nodup_append]
    refine ⟨?_, high.distinct, ?_⟩
    · rw [first_run]
      exact List.Nodup.map (fun i j same => Nat.add_left_cancel same) List.nodup_range
    · intro low member other inside same
      have below := (upper low (run.mem_iff.mp member)).2
      obtain ⟨entry, known, channel⟩ := List.mem_map.mp inside
      have above := high.high entry known
      omega
  · intro zero
    have inside := (mem_low run high (by decide)).mp zero
    exact absurd (upper 0 inside).1 (Nat.lt_irrefl 0)

end Bands

section Building
variable {cfg : Config} {alloc : Alloc}

theorem channels2GHZ_run (contains : cfg.Contains) (used : cfg.only5G = false)
    {descs : List ChDesc} (found : cfg.region2GHZ = some descs) :
    Run cfg (getChannel2GHZ descs 0) (Config.channels2GHZ descs) ∧
      (Config.channels2GHZ descs).length = totalChNum descs ∧ 0 < totalChNum descs := by
  obtain ⟨group, member, same⟩ := regionOf_mem found
  have table := region2GHZ_run group member
  rw [same] at table
  have length : (Config.channels2GHZ descs).length = totalChNum descs := by
    rw [Config.channels2GHZ, List.length_map, List.length_range]
  have positive : 0 < totalChNum descs := by
    have known := table.2
    simp only [List.mem_cons, List.not_mem_nil, or_false, Prod.mk.injEq] at known
    omega
  refine ⟨⟨?_, .inr ?_, ?_⟩, length, positive⟩
  · intro j inside
    rw [length] at inside
    refine ⟨getChannelFlag descs j, ?_, (table.1 j inside).2⟩
    rw [Config.channels2GHZ, List.getElem?_map, List.getElem?_range inside, Option.map_some,
      (table.1 j inside).1]
  · rw [length]
    exact table.2
  · intro j inside
    rw [length] at inside
    rw [← (table.1 j inside).1]
    exact contains.at2GHZ used descs found j inside

theorem channels5GHZ_high (contains : cfg.Contains) (used : cfg.cap5G = true)
    {descs : List ChDesc} (found : cfg.region5GHZ = some descs) :
    High cfg (cfg.channels5GHZ descs) ∧ 0 < totalChNum descs := by
  obtain ⟨group, member, same⟩ := regionOf_mem found
  have table := region5GHZ_distinct group member
  rw [same] at table
  generalize whole : ((List.range (totalChNum descs)).map fun i =>
    (getChannel5GHZ descs i, getChannelFlag descs i)) = all
  have part : (cfg.channels5GHZ descs).Sublist all := by
    unfold Config.channels5GHZ
    rw [whole]
    cases cfg.apSupport
    · exact List.Sublist.refl all
    · exact List.filter_sublist
  have channels : all.map (·.1) =
      (List.range (totalChNum descs)).map (getChannel5GHZ descs) := by
    rw [← whole, List.map_map]
    rfl
  have of_all : ∀ entry ∈ cfg.channels5GHZ descs,
      ∃ i < totalChNum descs, entry.1 = getChannel5GHZ descs i := by
    intro entry inside
    have known := part.subset inside
    rw [← whole] at known
    obtain ⟨i, range, pair⟩ := List.mem_map.mp known
    exact ⟨i, List.mem_range.mp range, (congrArg Prod.fst pair).symm⟩
  refine ⟨⟨?_, ?_, ?_, ?_⟩, table.2.2.1⟩
  · have distinct := table.1
    rw [← channels] at distinct
    exact distinct.sublist (part.map _)
  · intro entry inside
    obtain ⟨i, range, same⟩ := of_all entry inside
    rw [same]
    exact table.2.1 i range
  · have short := part.length_le
    rw [← whole, List.length_map, List.length_range] at short
    exact Nat.le_trans short table.2.2.2
  · intro entry inside
    obtain ⟨i, range, same⟩ := of_all entry inside
    rw [same]
    exact contains.at5GHZ used descs found i range

theorem empty_run (cfg : Config) : Run cfg 0 [] :=
  ⟨fun _ inside => absurd inside (Nat.not_lt_zero _), .inl rfl,
    fun _ inside => absurd inside (Nat.not_lt_zero _)⟩

theorem empty_high (cfg : Config) : High cfg [] :=
  ⟨List.nodup_nil, fun _ inside => absurd inside List.not_mem_nil, Nat.zero_le _,
    fun _ inside => absurd inside List.not_mem_nil⟩

/-- The two ways in which the second half ends. -/
theorem build5GHZ_cases (cfg : Config) (contains : cfg.Contains) (alloc : Alloc) :
    (¬ cfg.Early5GHZ alloc ∧ ∃ second, High cfg second ∧ ∀ num index list,
      cfg.build5GHZ alloc num index list =
        (⟨cfg.fillBand num radarCh index second list, index + second.length⟩, true)) ∨
    (cfg.Early5GHZ alloc ∧ ∀ num index list,
      cfg.build5GHZ alloc num index list = (⟨list, num⟩, false)) := by
  unfold Config.Early5GHZ Config.build5GHZ
  cases cap : cfg.cap5G with
  | false =>
    refine .inl ⟨?_, [], empty_high cfg, fun _ _ _ => rfl⟩
    intro early
    cases early.1
  | true =>
    cases found : cfg.region5GHZ with
    | none => exact .inr ⟨⟨rfl, .inl rfl⟩, fun _ _ _ => rfl⟩
    | some descs =>
      have high := channels5GHZ_high contains cap found
      cases allocated : alloc.list5GHZ && alloc.flag5GHZ with
      | true =>
        refine .inl ⟨fun early => ?_, _, high.1, ?_⟩
        · rcases early.2 with none_found | failed
          · cases none_found
          · cases failed
        · intro num index list
          rw [if_pos rfl]
          simp only
          rw [if_pos high.2, if_pos trivial]
      | false =>
        refine .inr ⟨⟨rfl, .inr rfl⟩, ?_⟩
        intro num index list
        rw [if_pos rfl]
        simp only
        rw [if_pos high.2, if_neg (by decide)]

/-- A call reaches its end and both bands are filled, or it returns early with the first band or
nothing filled; what the condition says in either case. -/
theorem build_cases (cfg : Config) (contains : cfg.Contains) (alloc : Alloc) :
    ∃ from2GHZ first, Run cfg from2GHZ first ∧
      ((∃ second, High cfg second ∧
        (∀ before : Channels, cfg.buildChannelList alloc before =
          (⟨filled cfg before.num first second before.list, first.length + second.length⟩, true)) ∧
        ∀ num, Sound cfg alloc num ↔ first = [] ∨ WideFits from2GHZ first.length num) ∨
      ((∀ before : Channels, cfg.buildChannelList alloc before =
          (⟨filled cfg before.num first [] before.list, before.num⟩, false)) ∧
        ∀ num, Sound cfg alloc num ↔
          if first = [] then num = 0 else 0 < num ∧ num ≤ first.length)) := by
  have half := build5GHZ_cases cfg contains alloc
  unfold Config.buildChannelList Sound
  cases only : cfg.only5G with
  | true =>
    refine ⟨0, [], empty_run cfg, ?_⟩
    rcases half with ⟨ends, second, high, build⟩ | ⟨early, build⟩
    · refine .inl ⟨second, high, fun before => ?_, fun num => ?_⟩
      · rw [if_pos rfl, build]
        rfl
      · rw [if_pos rfl]
        exact iff_of_true (fun early => absurd early ends) (.inl rfl)
    · refine .inr ⟨fun before => ?_, fun num => ?_⟩
      · rw [if_pos rfl, build]
        rfl
      · rw [if_pos rfl, if_pos rfl]
        exact ⟨fun zero => zero early, fun zero _ => zero⟩
  | false =>
    cases found : cfg.region2GHZ with
    | none =>
      refine ⟨0, [], empty_run cfg, .inr ⟨fun before => rfl, fun num => ?_⟩⟩
      rw [if_neg (by decide), if_pos rfl]
    | some descs =>
      obtain ⟨run, length, positive⟩ := channels2GHZ_run contains only found
      cases allocated : alloc.list2GHZ && alloc.flag2GHZ with
      | false =>
        refine ⟨0, [], empty_run cfg, .inr ⟨fun before => ?_, fun num => ?_⟩⟩
        · rw [if_neg (by decide)]
          simp only
          rw [if_pos positive, if_neg (by decide)]
          rfl
        · rw [if_neg (by decide), if_pos rfl]
          simp only
          rw [if_pos trivial]
      | true =>
        have some_first : Config.channels2GHZ descs ≠ [] := by
          intro none_first
          rw [none_first] at length
          simp only [List.length_nil] at length
          omega
        refine ⟨_, _, run, ?_⟩
        rcases half with ⟨ends, second, high, build⟩ | ⟨early, build⟩
        · refine .inl ⟨second, high, fun before => ?_, fun num => ?_⟩
          · rw [if_neg (by decide)]
            simp only
            rw [if_pos positive, if_pos trivial, build, ← length]
            rfl
          · rw [if_neg (by decide)]
            simp only
            rw [if_neg (by decide), length]
            constructor
            · exact fun sound => .inr (sound.2 ends)
            · exact fun fits => ⟨fun early => absurd early ends,
                fun _ => fits.resolve_left some_first⟩
        · refine .inr ⟨fun before => ?_, fun num => ?_⟩
          · rw [if_neg (by decide)]
            simp only
            rw [if_pos positive, if_pos trivial, build]
            rfl
          · rw [if_neg (by decide), if_neg some_first]
            simp only
            rw [if_neg (by decide), length]
            exact ⟨fun sound => sound.1 early, fun sound => ⟨fun _ => sound, absurd early⟩⟩

end Building

section Faithfulness
variable {cfg : Config} {from2GHZ num : Nat} {first second : List (Nat × BitVec 8)}

theorem away_listed (run : Run cfg from2GHZ first) (high : High cfg second) {j : Nat}
    (inside : j < first.length) (low : from2GHZ + j < 14) :
    (from2GHZ + j + 4 ∈ (first ++ second).map (·.1) ∨
      4 < from2GHZ + j ∧ from2GHZ + j - 4 ∈ (first ++ second).map (·.1)) ↔
        j + 4 < first.length ∨ 4 ≤ j := by
  have bounds := run.bounds (by rintro rfl; exact absurd inside (Nat.not_lt_zero _))
  rw [mem_low run high (by omega), mem_low run high (by omega)]
  constructor
  · rintro (⟨i, known, same⟩ | ⟨four, i, known, same⟩) <;> omega
  · rintro (above | below)
    · exact .inl ⟨j + 4, above, by omega⟩
    · exact .inr ⟨by omega, j - 4, by omega, by omega⟩

/-- The length that a call leaves fits as well. -/
theorem wideFits_again (known : (from2GHZ, first.length) ∈ runs2GHZ) {count : Nat}
    (fits : WideFits from2GHZ first.length num) (few : count ≤ 26) :
    WideFits from2GHZ first.length (first.length + count) := by
  unfold WideFits maxNumOfChannels at *
  simp only [runs2GHZ, List.mem_cons, List.not_mem_nil, or_false, Prod.mk.injEq] at known
  omega

theorem finds_iff (run : Run cfg from2GHZ first)
    (fits : first = [] ∨ WideFits from2GHZ first.length num) (list : Nat → ChannelTxPower) {j : Nat}
    (inside : j < first.length) (low : from2GHZ + j < 14) :
    FindsAway from2GHZ j num list ↔ j + 4 < first.length ∨ 4 ≤ j := by
  have some_first : first ≠ [] := by
    rintro rfl
    exact absurd inside (Nat.not_lt_zero _)
  exact wide_of_fits (run.known.resolve_left some_first) (fits.resolve_left some_first) inside low

/-- Filling the list again, with the length that the first call left, gives the same list. -/
theorem filled_again (run : Run cfg from2GHZ first) (high : High cfg second)
    {list : Nat → ChannelTxPower} (fits : first = [] ∨ WideFits from2GHZ first.length num) :
    filled cfg (first.length + second.length) first second (filled cfg num first second list) =
      filled cfg num first second list := by
  have later : first = [] ∨ WideFits from2GHZ first.length (first.length + second.length) := by
    by_cases none_first : first = []
    · exact .inl none_first
    · exact .inr (wideFits_again (run.known.resolve_left none_first)
        (fits.resolve_left none_first) high.few)
  funext k
  by_cases inside : k < first.length + second.length
  · apply filled_same run high _ inside
    intro j known low
    calc FindsAway from2GHZ j (first.length + second.length) (filled cfg num first second list)
      _ ↔ j + 4 < first.length ∨ 4 ≤ j := finds_iff run later _ known low
      _ ↔ FindsAway from2GHZ j num list := (finds_iff run fits _ known low).symm
  · have behind : first.length + second.length ≤ k := Nat.le_of_not_lt inside
    rw [filled_behind behind, filled_behind behind]
    unfold wiped
    split
    · rfl
    · rename_i outside
      exact (filled_behind behind).trans (if_neg outside)

/-- The flags for 40 MHz of the list are right when the length before the call fits. -/
theorem filled_wide (run : Run cfg from2GHZ first) (high : High cfg second)
    {list : Nat → ChannelTxPower} (fits : first = [] ∨ WideFits from2GHZ first.length num)
    {k channel : Nat} (inside : k < first.length + second.length) (low : channel < 14)
    (same : (filled cfg num first second list k).channel = channel) :
    (filled cfg num first second list k).has40 = true ↔
      channel + 4 ∈ (first ++ second).map (·.1) ∨
        4 < channel ∧ channel - 4 ∈ (first ++ second).map (·.1) := by
  obtain ⟨entry, found⟩ : ∃ entry, (first ++ second)[k]? = some entry :=
    ⟨_, List.getElem?_eq_getElem (by rw [List.length_append]; exact inside)⟩
  have known := @filled_channel cfg num from2GHZ first second list run high k entry found
  rw [same] at known
  by_cases at_first : k < first.length
  · obtain ⟨flag, at_run, _⟩ := run.run k at_first
    rw [List.getElem?_append_left at_first, at_run] at found
    rw [← Option.some.inj found] at known
    simp only at known
    subst known
    calc (filled cfg num first second list k).has40 = true
      _ ↔ FindsAway from2GHZ k num list := filled_has40 run at_first low
      _ ↔ k + 4 < first.length ∨ 4 ≤ k := finds_iff run fits _ at_first low
      _ ↔ _ := (away_listed run high at_first low).symm
  · rw [List.getElem?_append_right (by omega)] at found
    have above := high.high entry (List.mem_of_getElem? found)
    omega

/-- A call that reaches its end. -/
theorem faithful_ended (run : Run cfg from2GHZ first) (high : High cfg second) {alloc : Alloc}
    (build : ∀ before : Channels, cfg.buildChannelList alloc before =
      (⟨filled cfg before.num first second before.list, first.length + second.length⟩, true))
    (before : Channels) :
    Faithful cfg alloc before ↔ first = [] ∨ WideFits from2GHZ first.length before.num := by
  have listed := fun num list => @filled_listed cfg num from2GHZ first second list run high
  have distinct := bands_distinct run high
  constructor
  · intro faithful
    by_cases none_first : first = []
    · exact .inl none_first
    · refine .inr (fits_of_wide (run.known.resolve_left none_first) ?_)
      intro list j inside low
      have own := faithful.own (by rw [build]) list
      have wide := faithful.wide (by rw [build]) j
      rw [build, build] at own
      rw [build, listed] at wide
      have at_j : (first ++ second)[j]? = first[j]? := List.getElem?_append_left inside
      obtain ⟨flag, at_run, _⟩ := run.run j inside
      have channel := @filled_channel cfg before.num from2GHZ first second before.list run high j
        _ (at_j.trans at_run)
      have same := own.2 j (Nat.lt_of_lt_of_le inside (Nat.le_add_right _ _))
      have flags := congrArg ChannelTxPower.has40 same
      simp only at flags
      rw [← @filled_has40 cfg before.num from2GHZ first second list run j inside low, flags]
      exact (wide (Nat.lt_of_lt_of_le inside (Nat.le_add_right _ _)) _ low channel).trans
        (away_listed run high inside low)
  · intro fits
    exact {
      own := by
        intro _ list
        rw [build, build]
        refine ⟨rfl, fun k inside => filled_same run high ?_ inside⟩
        intro j known low
        exact (finds_iff run fits _ known low).trans (finds_iff run fits _ known low).symm
      again := by
        intro _
        rw [build, build]
        apply congrArg fun list => ((⟨list, first.length + second.length⟩ : Channels), true)
        exact filled_again run high fits
      distinct := by
        intro _
        rw [build, listed]
        exact distinct
      wide := by
        intro _ k inside channel low same
        rw [build] at inside same ⊢
        rw [listed]
        exact filled_wide run high fits inside low same
      counted := by
        intro early
        rw [build] at early
        cases early
      scanned := by
        rw [build]
        rcases Nat.eq_zero_or_pos (first.length + second.length) with zero | positive
        · refine (scan_empty zero).mpr ?_
          simp only
          rw [filled_behind (by omega)]
          rfl
        · refine ⟨_, scan_listed ?_ ?_ positive⟩
          · rw [listed]
            exact distinct.1
          · rw [listed]
            exact distinct.2 }

/-- A call that returns early. -/
theorem faithful_early (run : Run cfg from2GHZ first) {alloc : Alloc}
    (build : ∀ before : Channels, cfg.buildChannelList alloc before =
      (⟨filled cfg before.num first [] before.list, before.num⟩, false)) (before : Channels) :
    Faithful cfg alloc before ↔
      if first = [] then before.num = 0 else 0 < before.num ∧ before.num ≤ first.length := by
  have short : first.length < maxNumOfChannels := by
    by_cases none_first : first = []
    · rw [none_first]
      decide
    · have bounds := run.bounds none_first
      unfold maxNumOfChannels
      omega
  have entry : ∀ k < first.length,
      (filled cfg before.num first [] before.list k).channel = from2GHZ + k := by
    intro k inside
    obtain ⟨flag, at_run, _⟩ := run.run k inside
    exact @filled_channel cfg before.num from2GHZ first [] before.list run (empty_high cfg) k
      (from2GHZ + k, flag) ((List.getElem?_append_left inside).trans at_run)
  have zero : (filled cfg before.num first [] before.list first.length).channel = 0 := by
    have behind : first.length + ([] : List (Nat × BitVec 8)).length ≤ first.length :=
      Nat.le_refl _
    rw [filled_behind behind, wiped, if_pos short]
    rfl
  constructor
  · intro faithful
    have counted := faithful.counted (by rw [build])
    have scanned := faithful.scanned
    rw [build] at counted scanned
    -- the entry behind those of the run has no channel
    have bounded : before.num ≤ first.length := by
      by_contra more
      have found := @listed_getElem ⟨filled cfg before.num first [] before.list, before.num⟩
        first.length (Nat.lt_of_not_le more)
      simp only [zero] at found
      exact counted (List.mem_of_getElem? found)
    by_cases none_first : first = []
    · rw [if_pos none_first]
      rw [none_first] at bounded
      exact Nat.le_zero.mp bounded
    · rw [if_neg none_first]
      refine ⟨?_, bounded⟩
      by_contra nothing
      have start := (@scan_empty ⟨filled cfg before.num first [] before.list, before.num⟩
        (Nat.le_zero.mp (Nat.le_of_not_lt nothing))).mp scanned
      have first_entry := entry 0 (List.length_pos_of_ne_nil none_first)
      have bounds := run.bounds none_first
      simp only at start
      omega
  · intro sound
    have bounded : before.num ≤ first.length := by
      split at sound <;> omega
    have listed : Channels.listed ⟨filled cfg before.num first [] before.list, before.num⟩ =
        (List.range before.num).map fun k => from2GHZ + k := by
      unfold Channels.listed
      apply List.map_congr_left
      intro k inside
      exact entry k (Nat.lt_of_lt_of_le (List.mem_range.mp inside) bounded)
    have distinct : ((List.range before.num).map fun k => from2GHZ + k).Nodup :=
      List.Nodup.map (fun i j same => Nat.add_left_cancel same) List.nodup_range
    have nonzero : 0 ∉ (List.range before.num).map fun k => from2GHZ + k := by
      intro member
      obtain ⟨k, inside, same⟩ := List.mem_map.mp member
      have below := List.mem_range.mp inside
      have some_first : first ≠ [] := by
        rintro rfl
        simp only [List.length_nil] at bounded
        omega
      have bounds := run.bounds some_first
      omega
    have early : (cfg.buildChannelList alloc before).2 ≠ true := by
      rw [build]
      exact Bool.false_ne_true
    exact {
      own := fun ended => absurd ended early
      again := fun ended => absurd ended early
      distinct := fun ended => absurd ended early
      wide := fun ended => absurd ended early
      counted := by
        intro _
        rw [build, listed]
        exact nonzero
      scanned := by
        rw [build]
        rcases Nat.eq_zero_or_pos before.num with none_listed | positive
        · refine (@scan_empty ⟨filled cfg before.num first [] before.list, before.num⟩
            none_listed).mpr ?_
          split at sound
          · rename_i none_first
            rw [none_first] at zero ⊢
            exact zero
          · omega
        · refine ⟨_, scan_listed ?_ ?_ positive⟩
          · rw [listed]
            exact distinct
          · rw [listed]
            exact nonzero }

/-- A call does what is asked of it exactly when the condition on the length before it holds. -/
theorem buildChannelList_faithful_iff (cfg : Config) (contains : cfg.Contains) (alloc : Alloc)
    (before : Channels) : Faithful cfg alloc before ↔ Sound cfg alloc before.num := by
  obtain ⟨from2GHZ, first, run, ⟨second, high, build, sound⟩ | ⟨build, sound⟩⟩ :=
    build_cases cfg contains alloc
  · rw [sound]
    exact faithful_ended run high build before
  · rw [sound]
    exact faithful_early run build before

end Faithfulness

/-- Europe at 2.4 GHz, with a power table of its channels. -/
def etsi : Config where
  countryRegion := 1
  countryRegionForABand := 1
  phyMode := 0x0e
  apSupport := true
  bIEEE80211H := false
  rdDurRegion := 0
  bDFSIndoor := false
  txPower := (List.range 13).map fun i => { cleared with channel := i + 1 }

def etsiAlloc : Alloc := ⟨true, true, true, true⟩

theorem etsi_contains : etsi.Contains where
  at2GHZ := by
    intro _ descs found
    have same : descs = [⟨1, 13, 0⟩] := (Option.some.inj found).symm
    subst same
    intro i inside
    have below : i < 13 := inside
    refine ⟨{ cleared with channel := i + 1 },
      List.mem_map.mpr ⟨i, List.mem_range.mpr below, rfl⟩, ?_⟩
    rw [getChannel2GHZ, getChannel, if_pos below]
    have shifted : i + 1 = 1 + i * 1 := by omega
    exact shifted
  at5GHZ := by
    intro used
    cases used

theorem buildChannelList_faithful_etsi : Faithful etsi etsiAlloc ⟨fun _ => cleared, 13⟩ ↔
    Sound etsi etsiAlloc 13 :=
  buildChannelList_faithful_iff etsi etsi_contains etsiAlloc ⟨fun _ => cleared, 13⟩

/-- The first call after the start: channel 5 is listed, but channel 1 has no flag for 40 MHz. -/
theorem not_faithful_start : ¬ ∀ cfg : Config, cfg.Contains → ∀ alloc before,
    Faithful cfg alloc before := by
  intro all
  have wide := (all etsi etsi_contains etsiAlloc ⟨fun _ => cleared, 0⟩).wide rfl 0 (by decide +kernel) 1
    (by decide) (by decide +kernel)
  have flag := wide.mpr (.inl (by decide +kernel))
  exact absurd flag (by decide +kernel)

end Mt7612u.Channel.BuildList
