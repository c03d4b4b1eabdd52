import Mathlib.Data.List.Nodup
import Mathlib.Logic.Function.Basic

/-! The channels of the country regions and the checks on the groups of channels that are used
together at 40 and 80 MHz. -/

namespace Mt7612u.Channel.Regions

/-- `CH_DESC`: a run of channels with one property. -/
structure ChDesc where
  firstChannel : Nat
  numOfCh : Nat
  channelProp : BitVec 8

def channel40MCap : BitVec 8 := 0x40
def channel80MCap : BitVec 8 := 0x80

/-- The groups of a band by `RegionIndex`; `CHANNEL_DEFAULT_PROP` is 0, `CHANNEL_PASSIVE_SCAN` 2. -/
def countryRegionChDesc2GHZ : List (Nat × List ChDesc) :=
  [(0, [⟨1, 11, 0⟩]), (1, [⟨1, 13, 0⟩]), (2, [⟨10, 2, 0⟩]), (3, [⟨10, 4, 0⟩]), (4, [⟨14, 1, 0⟩]),
   (5, [⟨1, 14, 0⟩]), (6, [⟨3, 7, 0⟩]), (7, [⟨5, 9, 0⟩]), (31, [⟨1, 11, 0⟩, ⟨12, 3, 2⟩]),
   (32, [⟨1, 11, 0⟩, ⟨12, 2, 2⟩]), (33, [⟨1, 14, 0⟩])]

def countryRegionChDesc5GHZ : List (Nat × List ChDesc) :=
  [(0, [⟨36, 8, 0⟩, ⟨149, 5, 0⟩]), (1, [⟨36, 8, 0⟩, ⟨100, 11, 0⟩]), (2, [⟨36, 8, 0⟩]),
   (3, [⟨52, 4, 0⟩, ⟨149, 4, 0⟩]), (4, [⟨149, 5, 0⟩]), (5, [⟨149, 4, 0⟩]), (6, [⟨36, 4, 0⟩]),
   (7, [⟨36, 8, 0⟩, ⟨100, 11, 0⟩, ⟨149, 7, 0⟩]), (8, [⟨52, 4, 0⟩]),
   (9, [⟨36, 8, 0⟩, ⟨100, 5, 0⟩, ⟨132, 3, 0⟩, ⟨149, 5, 0⟩]), (10, [⟨36, 4, 0⟩, ⟨149, 5, 0⟩]),
   (11, [⟨36, 8, 0⟩, ⟨100, 6, 0⟩, ⟨149, 4, 0⟩]), (12, [⟨36, 8, 0⟩, ⟨100, 11, 0⟩]),
   (13, [⟨52, 4, 0⟩, ⟨100, 11, 0⟩, ⟨149, 4, 0⟩]),
   (14, [⟨36, 8, 0⟩, ⟨100, 5, 0⟩, ⟨136, 2, 0⟩, ⟨149, 5, 0⟩]), (15, [⟨149, 7, 0⟩]),
   (16, [⟨52, 4, 0⟩, ⟨149, 5, 0⟩]), (17, [⟨36, 4, 0⟩, ⟨149, 4, 0⟩]),
   (18, [⟨36, 8, 0⟩, ⟨100, 5, 0⟩, ⟨132, 3, 0⟩]), (19, [⟨56, 3, 0⟩, ⟨100, 11, 0⟩, ⟨149, 5, 0⟩]),
   (20, [⟨36, 8, 0⟩, ⟨100, 7, 0⟩, ⟨149, 4, 0⟩]), (21, [⟨36, 8, 0⟩, ⟨100, 11, 0⟩, ⟨149, 4, 0⟩]),
   (22, [⟨100, 11, 0⟩])]

def totalChNum (descs : List ChDesc) : Nat :=
  descs.foldl (fun total desc => total + desc.numOfCh) 0

/-- `GetChannel_2GHZ` and `GetChannel_5GHZ` differ in the distance of two channels. -/
def getChannel (distance : Nat) : List ChDesc → Nat → Nat
  | [], _ => 0
  | desc :: rest, index =>
    if index < desc.numOfCh then desc.firstChannel + index * distance
    else getChannel distance rest (index - desc.numOfCh)

def getChannel2GHZ : List ChDesc → Nat → Nat := getChannel 1

def getChannel5GHZ : List ChDesc → Nat → Nat := getChannel 4

def getChannelFlag : List ChDesc → Nat → BitVec 8
  | [], _ => 0
  | desc :: rest, index =>
    if index < desc.numOfCh then desc.channelProp
    else getChannelFlag rest (index - desc.numOfCh)

/-- `pChDesc` of the group with an index; `&0x7f` is taken of it before. -/
def regionOf (regions : List (Nat × List ChDesc)) (region : Nat) : Option (List ChDesc) :=
  (regions.find? fun group => group.1 == region % 128).map (·.2)

def nGroup5GHZ : List Nat :=
  [36, 44, 52, 60, 100, 108, 116, 124, 132, 149, 157, 40, 48, 56, 64, 104, 112, 120, 128, 136, 153, 161]

/-- `vht_ch_80M`, with the centre of each group. -/
def vhtCh80M : List (Nat × Nat × Nat) :=
  [(36, 48, 42), (52, 64, 58), (100, 112, 106), (116, 128, 122), (132, 144, 138), (149, 161, 155)]

def fcc : Nat := 1
def jap : Nat := 2
def japW53 : Nat := 3
def japW56 : Nat := 4

def vht80ChannelGroup (rdDurRegion channel : Nat) : Bool :=
  decide (14 < channel) && vhtCh80M.any fun (low, up, centre) =>
    decide (low ≤ channel) && decide (channel ≤ up) &&
      !((rdDurRegion == jap || rdDurRegion == japW53 || rdDurRegion == japW56) && centre == 138)

/-- The channels of a region at 2.4 GHz are one run. -/
theorem region2GHZ_run : ∀ group ∈ countryRegionChDesc2GHZ,
    (∀ i < totalChNum group.2,
      getChannel2GHZ group.2 i = getChannel2GHZ group.2 0 + i ∧
        getChannelFlag group.2 i &&& channel40MCap = 0) ∧
    (getChannel2GHZ group.2 0, totalChNum group.2) ∈
      [(1, 11), (1, 13), (10, 2), (10, 4), (14, 1), (1, 14), (3, 7), (5, 9)] := by
  decide +kernel

/-- The channels of a region at 5 GHz are distinct, and there are at most 26. -/
theorem region5GHZ_distinct : ∀ group ∈ countryRegionChDesc5GHZ,
    ((List.range (totalChNum group.2)).map (getChannel5GHZ group.2)).Nodup ∧
    (∀ i < totalChNum group.2, 36 ≤ getChannel5GHZ group.2 i) ∧
    0 < totalChNum group.2 ∧ totalChNum group.2 ≤ 26 := by
  decide +kernel

theorem regionOf_mem {regions : List (Nat × List ChDesc)} {region : Nat} {descs : List ChDesc}
    (found : regionOf regions region = some descs) : ∃ group ∈ regions, group.2 = descs := by
  unfold regionOf at found
  rw [Option.map_eq_some_iff] at found
  obtain ⟨group, search, same⟩ := found
  exact ⟨group, List.mem_of_find?_eq_some search, same⟩

end Mt7612u.Channel.Regions
