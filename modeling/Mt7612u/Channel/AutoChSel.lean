import Mt7612u.Channel.BuildList

/-! Automatic channel selection: how dirty each channel is follows from the access points seen on
the channels near it, and one of the channels that no rule leaves out is taken. -/

namespace Mt7612u.Channel.AutoChSel
open Regions BuildList

/-- `BSSENTRY`. -/
structure BssEntry where
  channel : Nat
  extChOffset : Nat
  rssi : Int

def maxLenOfBssTable : Nat := 128

/-- `BSSINFO`. -/
structure BssInfo where
  entries : List BssEntry
  fits : entries.length ≤ maxLenOfBssTable

inductive ChannelSelAlg
  | random
  | apCnt
  | cca

structure Setup where
  chans : Channels
  isABand : Bool
  /-- `RegTransmitSetting.field.BW` is `BW_40`. -/
  bw40 : Bool
  vhtBw : Nat
  extcha : Nat
  bAvoidDfsChannel : Bool
  autoChannelSkipList : List Nat
  bssInfoTab : Option BssInfo

/-- What is measured, and the random byte. `FalseCca` is a field of 16 bits. -/
structure Measured where
  apCnt : Nat → Nat
  falseCCA : Int → BitVec 16
  randomByte : BitVec 8

/-- `dirtyness` of `CHANNELINFO`, and the indices at which arrays of `CHANNELINFO` were used. -/
structure Info where
  dirtyness : Int → Nat
  used : List Int

structure Outcome where
  channel : Nat
  used : List Int

def vhtBw2040 : Nat := 0
def vhtBw80 : Nat := 1
def extchaAbove : Nat := 1
def extchaBelow : Nat := 3
def rssiToDbmOffset : Int := 120
def ccaThreshold : Nat := 100

def lowerOfPair : List Nat := [36, 44, 52, 60, 100, 108, 116, 124, 132, 149, 157]
def upperOfPair : List Nat := [40, 48, 56, 64, 104, 112, 120, 128, 136, 153, 161]

def getABandChOffset (channel : Nat) : Int :=
  if lowerOfPair.contains channel then 1 else if upperOfPair.contains channel then -1 else 0

def getVhtNeighborIndex (channel : Nat) : Int :=
  if [36, 52, 100, 116, 132, 149].contains channel then 0
  else if [40, 56, 104, 120, 136, 153].contains channel then -1
  else if [44, 60, 108, 124, 140, 157].contains channel then -2
  else -3

def vhtChGroup : List Nat :=
  [36, 40, 44, 48, 52, 56, 60, 64, 100, 104, 108, 112, 116, 120, 124, 128, 132, 136, 140, 144,
   149, 153, 157, 161]

def acChannelGroupCheck (channel : Nat) : Bool :=
  decide (14 < channel) && vhtChGroup.contains channel

def bw40ChannelCheck (channel : Nat) : Bool := !([140, 165].contains channel)

/-- The four entries that a channel shares its 80 MHz with, by index. -/
def groupAt (channel k : Nat) : List Int :=
  [getVhtNeighborIndex channel + k, getVhtNeighborIndex channel + (k + 1),
   getVhtNeighborIndex channel + (k + 2), getVhtNeighborIndex channel + (k + 3)]

namespace Info

/-- `memset` of `CHANNELINFO`. -/
def reset : Info := ⟨fun _ => 0, []⟩

def add (info : Info) (index : Int) (amount : Nat) : Info :=
  ⟨Function.update info.dirtyness index (info.dirtyness index + amount), index :: info.used⟩

end Info

namespace Setup

def num (s : Setup) : Nat := s.chans.num

def channelAt (s : Setup) (k : Nat) : Nat := (s.chans.list k).channel

/-- `BW_40` with `VHT_BW_2040`. -/
def wide40 (s : Setup) : Bool := s.bw40 && s.vhtBw == vhtBw2040

def wide80 (s : Setup) : Bool := s.vhtBw == vhtBw80

/-- `GetChIdx`; a channel that is not in the list gives `ChannelListNum`. -/
def getChIdx (s : Setup) (channel : Nat) : Nat :=
  ((List.range s.num).find? fun i => channel == s.channelAt i).getD s.num

def nGroup (s : Setup) (channel : Nat) : Bool := nChannelGroupCheck s.chans.list s.num channel

def radarChannelCheck (s : Setup) (channel : Nat) : Bool :=
  ((List.range s.num).find? fun i => channel == s.channelAt i).any fun i => (s.chans.list i).dfsReq

/-- `SkipList` after `AutoChannelSkipListSetDirty`. -/
def skipListSetDirty (s : Setup) : Nat → Bool :=
  s.autoChannelSkipList.foldl (fun marked channel =>
    if s.getChIdx channel ≠ s.num then Function.update marked (s.getChIdx channel) true
    else marked) fun _ => false

def skipListCheck (s : Setup) (channel : Nat) : Bool := s.autoChannelSkipList.contains channel

/-- The check for channels of radars, as the rules that have it make it. -/
def avoided (s : Setup) (channel : Nat) : Bool :=
  s.bAvoidDfsChannel && s.isABand && s.radarChannelCheck channel

/-- The check for the bandwidth in the last rule of `SelectClearChannelApCnt`. -/
def capable (s : Setup) (channel : Nat) : Bool :=
  if s.wide40 then s.nGroup channel else !s.wide80 || acChannelGroupCheck channel

/-- The loop of the last rules, over the channels from `base` on. -/
def randomLoop (s : Setup) (base : Nat) (taken : (k channel : Nat) → Bool) :
    List Nat → (channel : Nat) → Nat
  | [], channel => channel
  | k :: rest, _ =>
    let channel := s.channelAt ((base + k) % s.num)
    if taken k channel then channel else s.randomLoop base taken rest channel

/-- The indices of the loops that print and apply the rules, and of `SkipList`. -/
def own (s : Setup) : List Int := (List.range s.num).map fun (k : Nat) => (k : Int)

section ApCnt

/-- The other channel of the pair at 40 MHz. -/
def secondaryDirty (s : Setup) (k : Nat) (info : Info) : Info :=
  let channel := s.channelAt k
  if 14 < channel then
    if getABandChOffset channel = 1 then
      if k + 1 < maxNumOfChannels ∧ s.channelAt (k + 1) = channel + 4 then info.add (k + 1) 1
      else info
    else if getABandChOffset channel = -1 then
      if 1 ≤ k ∧ channel = s.channelAt (k - 1) + 4 then info.add (k - 1) 1 else info
    else info
  else info

def groupDirty (s : Setup) (k : Nat) (info : Info) : Info :=
  (groupAt (s.channelAt k) k).foldl (fun info index => info.add index 1) info

def near2GHZDirty (s : Setup) (k : Nat) (info : Info) : Info :=
  let above := if s.bw40 && s.extcha == extchaBelow then 8 else 4
  let below := if s.bw40 && s.extcha == extchaAbove then 8 else 4
  let info := (List.range above).foldl (fun info d =>
    if k + 1 + d < maxNumOfChannels then info.add (k + 1 + d) 1 else info) info
  (List.range below).foldl (fun info d =>
    if d + 1 ≤ k then info.add (k - 1 - d) 1 else info) info

/-- One round of the first loop of `SelectClearChannelApCnt`. -/
def apCntTurn (s : Setup) (m : Measured) (info : Info) (k : Nat) : Info :=
  if 0 < m.apCnt k then
    let info := info.add k 30
    if s.isABand then
      if s.wide40 then s.secondaryDirty k info
      else if s.wide80 then s.groupDirty k info
      else info
    else s.near2GHZDirty k info
  else info

def apCntDirty (s : Setup) (m : Measured) : Info :=
  (List.range s.num).foldl (s.apCntTurn m) Info.reset

/-- A channel that no one uses. -/
def apCntRule1 (s : Setup) (info : Info) : Option Nat :=
  (List.range s.num).find? fun k =>
    !s.skipListSetDirty k && !s.avoided (s.channelAt k) &&
      (if s.bw40 then s.nGroup (s.channelAt k)
        else !s.wide80 || acChannelGroupCheck (s.channelAt k)) &&
      info.dirtyness k == 0

/-- `final_channel` and `min_ApCnt`. -/
def apCntBetter (s : Setup) (m : Measured) (info : Info) (dirty : Nat) (best : Nat × Nat)
    (k : Nat) : Nat × Nat :=
  if !s.skipListSetDirty k && info.dirtyness k == dirty && decide (m.apCnt k < best.2) then
    if s.wide40 && !bw40ChannelCheck (s.channelAt k) then best
    else if s.wide80 && !acChannelGroupCheck (s.channelAt k) then best
    else if s.avoided (s.channelAt k) then best
    else (s.channelAt k, m.apCnt k)
  else best

def apCntRule2 (s : Setup) (m : Measured) (info : Info) : Option Nat :=
  [30, 31, 32].findSome? fun dirty =>
    let final := ((List.range s.num).foldl (s.apCntBetter m info dirty) (0, 255)).1
    if final ≠ 0 then some final else none

/-- The last rule: the bandwidth is that of one channel, the rest that of another. -/
def apCntRule3 (s : Setup) (m : Measured) : Nat :=
  s.randomLoop m.randomByte.toNat (fun k channel =>
    !s.skipListCheck channel && s.capable (s.channelAt k) && !s.avoided channel)
    (List.range s.num) 0

def selectClearChannelApCnt (s : Setup) (m : Measured) : Outcome :=
  let info := s.apCntDirty m
  let used := s.own ++ info.used
  match s.apCntRule1 info with
  | some k => ⟨s.channelAt k, used⟩
  | none =>
    match s.apCntRule2 m info with
    | some final => ⟨final, used⟩
    | none => ⟨s.apCntRule3 m, used⟩

end ApCnt

end Setup

/-- `min_dirty` or `min_falsecca`, `candidate_ch`, and the indices of the channels near it. -/
structure Pick where
  min : Nat
  candidate : Option Nat
  used : List Int

/-- The loop of the first two rules of `SelectClearChannelCCA`. -/
def pickLoop (eligible stops : Nat → Bool) (weight : Nat → Nat) (near : Nat → List Int) :
    List Nat → Pick → Pick
  | [], pick => pick
  | k :: rest, pick =>
    if eligible k then
      if stops k then pick
      else if weight k < pick.min then
        pickLoop eligible stops weight near rest ⟨weight k, some k, near k ++ pick.used⟩
      else
        pickLoop eligible stops weight near rest ⟨pick.min, pick.candidate, near k ++ pick.used⟩
    else pickLoop eligible stops weight near rest pick

/-- The sums stay below 2^32: the table holds at most 128 entries. -/
def sumOver (value : Int → Nat) (indices : List Int) : Nat :=
  indices.foldr (fun index sum => value index + sum) 0

def noPick : Pick := ⟨0xffffffff, none, []⟩

namespace Setup

section Cca

def aboveBound (s : Setup) (entry : BssEntry) : Nat :=
  if entry.extChOffset = extchaAbove then if s.isABand then 2 else 8
  else if s.isABand then 1 else 4

def belowBound (s : Setup) (entry : BssEntry) : Nat :=
  if entry.extChOffset = extchaBelow then if s.isABand then 2 else 8
  else if s.isABand then 1 else 4

/-- The loop over the channels above; it ends at a gap. -/
def aboveLoop (s : Setup) (idx : Nat) : List Nat → Info → Info
  | [], info => info
  | d :: rest, info =>
    if maxNumOfChannels ≤ idx + d then info
    else if s.channelAt (idx + d - 1) + 4 < s.channelAt (idx + d) then info
    else s.aboveLoop idx rest (info.add (idx + d : Nat) ((9 - d) * 4))

/-- A round of the loop over the channels below; it goes on behind a gap. -/
def belowTurn (s : Setup) (idx : Nat) (info : Info) (d : Nat) : Info :=
  if d ≤ idx ∧ ¬ s.channelAt (idx - d) + 4 < s.channelAt (idx - d + 1) then
    info.add (idx - d : Nat) ((9 - d) * 4)
  else info

def bssTurn (s : Setup) (info : Info) (entry : BssEntry) : Info :=
  let idx := s.getChIdx entry.channel
  let signal := if rssiToDbmOffset - 50 ≤ entry.rssi then 50
    else if entry.rssi ≤ rssiToDbmOffset - 80 then 30 else 40
  let info := (info.add idx signal).add idx 40
  let info := s.aboveLoop idx (List.range' 1 (s.aboveBound entry)) info
  (List.range' 1 (s.belowBound entry)).foldl (s.belowTurn idx) info

def ccaDirty (s : Setup) (table : BssInfo) : Info := table.entries.foldl s.bssTurn Info.reset

/-- The bandwidth in the first two rules. -/
def passes (s : Setup) (channel : Nat) : Bool :=
  !(s.wide40 && s.isABand && getABandChOffset channel == 0) &&
    (!s.wide80 || acChannelGroupCheck channel)

/-- The entry of the other channel of the pair, when it is in the list. -/
def pairAt (s : Setup) (k : Nat) : List Int :=
  let index := k + getABandChOffset (s.channelAt k)
  if 0 ≤ index ∧ index < s.num then [index] else []

/-- The entries whose dirtyness is added in the first rule. -/
def dirtyNear (s : Setup) (k : Nat) : List Int :=
  if s.isABand then
    if s.wide40 then k :: s.pairAt k
    else if s.wide80 then groupAt (s.channelAt k) k
    else [↑k]
  else
    [(k : Int)] ++ (if 4 ≤ k then [(k : Int) - 4] else []) ++
      if k + 4 < s.num then [(k : Int) + 4] else []

/-- The entries whose counter and dirtyness are added in the second rule. -/
def falseNear (s : Setup) (k : Nat) : List Int :=
  if s.wide40 then if getABandChOffset (s.channelAt k) ≠ 0 then k :: s.pairAt k else [↑k]
  else if s.wide80 then groupAt (s.channelAt k) k
  else [↑k]

/-- What both rules look at, with the counters that the rule is for. -/
def eligible (s : Setup) (counted : Nat → Bool) (k : Nat) : Bool :=
  !s.skipListSetDirty k && counted k && s.passes (s.channelAt k)

def ccaRule1 (s : Setup) (m : Measured) (info : Info) : Pick :=
  pickLoop (s.eligible fun k => decide ((m.falseCCA k).toNat ≤ ccaThreshold))
    (fun k => !s.isABand && s.channelAt k == 14)
    (fun k => sumOver info.dirtyness (s.dirtyNear k)) s.dirtyNear (List.range s.num) noPick

def ccaRule2 (s : Setup) (m : Measured) (info : Info) : Pick :=
  pickLoop (s.eligible fun k => decide (ccaThreshold < (m.falseCCA k).toNat))
    (fun _ => false)
    (fun k => sumOver (fun i => info.dirtyness i + (m.falseCCA i).toNat) (s.falseNear k))
    s.falseNear (List.range s.num) noPick

def ccaRule3 (s : Setup) (m : Measured) : Nat :=
  s.randomLoop m.randomByte.toNat (fun _ channel =>
    !s.skipListCheck channel && !s.avoided channel) (List.range s.num) 1

def selectClearChannelCCA (s : Setup) (m : Measured) : Outcome :=
  match s.bssInfoTab with
  | none => ⟨s.chans.firstChannel, []⟩
  | some table =>
    let info := s.ccaDirty table
    let rule1 := s.ccaRule1 m info
    let used := s.own ++ info.used ++ rule1.used
    match rule1.candidate with
    | some k => ⟨s.channelAt k, used⟩
    | none =>
      let rule2 := s.ccaRule2 m info
      match rule2.candidate with
      | some k => ⟨s.channelAt k, used ++ rule2.used⟩
      | none => ⟨s.ccaRule3 m, used ++ rule2.used⟩

end Cca

/-- `pChannelInfo` is there: `CheckPhyModeIsABand` has written to it. -/
def selectBestChannel (s : Setup) (alg : ChannelSelAlg) (m : Measured) : Outcome :=
  match alg with
  | .random | .apCnt => s.selectClearChannelApCnt m
  | .cca => s.selectClearChannelCCA m

/-- The list and the mode come from `BuildChannelList`. -/
def Built (s : Setup) : Prop :=
  ∃ (cfg : Config) (alloc : Alloc) (before : Channels), cfg.Contains ∧
    cfg.buildChannelList alloc before = (s.chans, true) ∧ s.isABand = cfg.cap5G

/-- What is asked of the channel. -/
structure Good (s : Setup) (channel : Nat) : Prop where
  wanted : channel ∉ s.autoChannelSkipList
  free : s.bAvoidDfsChannel = true → s.radarChannelCheck channel = false
  wide40 : s.wide40 = true → s.nGroup channel = true
  wide80 : s.wide80 = true → acChannelGroupCheck channel = true

/-- What is asked of a call. -/
structure Selects (s : Setup) (alg : ChannelSelAlg) (m : Measured) : Prop where
  inside : ∀ index ∈ (s.selectBestChannel alg m).used, 0 ≤ index ∧ index < s.num
  good : (∃ channel ∈ s.chans.listed, s.Good channel) →
    (s.selectBestChannel alg m).channel ∈ s.chans.listed ∧
      s.Good (s.selectBestChannel alg m).channel

end Setup

/-- What the rules need of the list. -/
structure Setup.Sane (s : Setup) : Prop where
  few : s.num < maxNumOfChannels
  distinct : s.chans.listed.Nodup
  behind : ∀ k, s.num ≤ k → k < maxNumOfChannels → s.channelAt k = 0

section Lists
variable {s : Setup}

theorem Setup.Built.sane (built : s.Built) : s.Sane := by
  obtain ⟨cfg, alloc, before, contains, ended, _⟩ := built
  obtain ⟨from2GHZ, first, run, ⟨second, high, build, _⟩ | ⟨build, _⟩⟩ :=
    build_cases cfg contains alloc
  · have chans := congrArg Prod.fst (ended.symm.trans (build before))
    simp only at chans
    have few : first.length + second.length < maxNumOfChannels := by
      have many := high.few
      unfold maxNumOfChannels
      by_cases none_first : first = []
      · rw [none_first, List.length_nil]
        omega
      · have bounds := run.bounds none_first
        omega
    refine ⟨?_, ?_, ?_⟩
    · rw [Setup.num, chans]
      exact few
    · rw [chans, filled_listed run high]
      exact (bands_distinct run high).1
    · intro k behind inside
      rw [Setup.num, chans] at behind
      rw [Setup.channelAt, chans]
      have cell := @filled_behind cfg before.num first second before.list k behind
      rw [wiped, if_pos inside] at cell
      exact congrArg ChannelTxPower.channel cell
  · have early := congrArg Prod.snd (ended.symm.trans (build before))
    cases early

theorem mem_listed {channel : Nat} :
    channel ∈ s.chans.listed ↔ ∃ k < s.num, s.channelAt k = channel := by
  unfold Channels.listed
  rw [List.mem_map]
  constructor
  · intro ⟨k, inside, same⟩
    exact ⟨k, List.mem_range.mp inside, same⟩
  · intro ⟨k, inside, same⟩
    exact ⟨k, List.mem_range.mpr inside, same⟩

theorem channelAt_mem {k : Nat} (inside : k < s.num) : s.channelAt k ∈ s.chans.listed :=
  mem_listed.mpr ⟨k, inside, rfl⟩

theorem getChIdx_cases (channel : Nat) :
    (s.getChIdx channel < s.num ∧ s.channelAt (s.getChIdx channel) = channel) ∨
      (s.getChIdx channel = s.num ∧ channel ∉ s.chans.listed) := by
  unfold Setup.getChIdx
  cases found : (List.range s.num).find? fun i => channel == s.channelAt i with
  | none =>
    refine .inr ⟨rfl, fun listed => ?_⟩
    obtain ⟨k, inside, same⟩ := mem_listed.mp listed
    have differs := List.find?_eq_none.mp found k (List.mem_range.mpr inside)
    exact differs (beq_iff_eq.mpr same.symm)
  | some k =>
    refine .inl ⟨List.mem_range.mp (List.mem_of_find?_eq_some found), ?_⟩
    have same : (channel == s.channelAt k) = true :=
      @List.find?_some _ (fun i => channel == s.channelAt i) k _ found
    exact (beq_iff_eq.mp same).symm

theorem getChIdx_at (sane : s.Sane) {k : Nat} (inside : k < s.num) :
    s.getChIdx (s.channelAt k) = k := by
  rcases getChIdx_cases (s.channelAt k) with ⟨known, same⟩ | ⟨_, outside⟩
  · exact listed_inj sane.distinct known inside same
  · exact absurd (channelAt_mem inside) outside

/-- The marks are those of the listed channels that are to be skipped. -/
theorem skipListSetDirty_at (sane : s.Sane) {k : Nat} (inside : k < s.num) :
    s.skipListSetDirty k = s.skipListCheck (s.channelAt k) := by
  have marks : ∀ (skipped : List Nat) (marked : Nat → Bool),
      skipped.foldl (fun marked channel =>
        if s.getChIdx channel ≠ s.num then Function.update marked (s.getChIdx channel) true
        else marked) marked k = (marked k || skipped.contains (s.channelAt k)) := by
    intro skipped
    induction skipped with
    | nil => exact fun marked => (Bool.or_false _).symm
    | cons channel rest ih =>
      intro marked
      rw [List.foldl_cons, ih, List.contains_cons]
      by_cases same : channel = s.channelAt k
      · subst same
        rw [getChIdx_at sane inside, if_pos (Nat.ne_of_lt inside), Function.update_self]
        simp only [BEq.rfl, Bool.true_or, Bool.or_true]
      · have other : (s.channelAt k == channel) = false := beq_eq_false_iff_ne.mpr (Ne.symm same)
        rw [other, Bool.false_or]
        split
        · rw [Function.update_of_ne]
          intro at_k
          rcases getChIdx_cases (s := s) channel with ⟨_, found⟩ | ⟨unknown, _⟩
          · rw [← at_k] at found
            exact same found.symm
          · omega
        · rfl
  exact (marks s.autoChannelSkipList fun _ => false).trans (Bool.false_or _)

end Lists

namespace Info

/-- What later steps keep. -/
structure Grows (before after : Info) : Prop where
  used : ∀ index ∈ before.used, index ∈ after.used
  dirty : ∀ index, before.dirtyness index ≤ after.dirtyness index

theorem Grows.refl (info : Info) : Grows info info := ⟨fun _ used => used, fun _ => Nat.le_refl _⟩

theorem Grows.trans {first second third : Info} (early : Grows first second)
    (late : Grows second third) : Grows first third :=
  ⟨fun index used => late.used index (early.used index used),
    fun index => Nat.le_trans (early.dirty index) (late.dirty index)⟩

theorem add_at (info : Info) (index : Int) (amount : Nat) :
    (info.add index amount).dirtyness index = info.dirtyness index + amount :=
  Function.update_self ..

theorem add_other (info : Info) {index other : Int} (amount : Nat) (apart : other ≠ index) :
    (info.add index amount).dirtyness other = info.dirtyness other :=
  Function.update_of_ne apart ..

theorem add_le (info : Info) (index other : Int) (amount : Nat) :
    (info.add index amount).dirtyness other ≤ info.dirtyness other + amount := by
  by_cases same : other = index
  · rw [same]
    exact Nat.le_of_eq (add_at info index amount)
  · rw [add_other info amount same]
    exact Nat.le_add_right _ _

theorem grows_add (info : Info) (index : Int) (amount : Nat) :
    Grows info (info.add index amount) := by
  refine ⟨fun _ used => List.mem_cons_of_mem _ used, fun other => ?_⟩
  by_cases same : other = index
  · rw [same, add_at]
    exact Nat.le_add_right _ _
  · exact Nat.le_of_eq (add_other info amount same).symm

variable {α : Type} {step : Info → α → Info}

theorem grows_foldl (grows : ∀ info item, Grows info (step info item)) (items : List α)
    (info : Info) : Grows info (items.foldl step info) := by
  induction items generalizing info with
  | nil => exact Grows.refl info
  | cons item rest ih => exact (grows info item).trans (ih (step info item))

/-- A step of a loop is taken somewhere in it. -/
theorem foldl_at (grows : ∀ info item, Grows info (step info item)) {items : List α} {item : α}
    (member : item ∈ items) (info : Info) :
    ∃ reached, Grows (step reached item) (items.foldl step info) := by
  induction items generalizing info with
  | nil => exact absurd member List.not_mem_nil
  | cons first rest ih =>
    rcases List.mem_cons.mp member with rfl | behind
    · exact ⟨info, grows_foldl grows rest (step info item)⟩
    · exact ih behind (step info first)

/-- The indices used lie in the list. -/
def Inside (n : Nat) (info : Info) : Prop := ∀ index ∈ info.used, 0 ≤ index ∧ index < n

theorem Inside.add {n : Nat} {info : Info} (inside : Inside n info) {index : Int}
    (low : 0 ≤ index) (high : index < n) (amount : Nat) : Inside n (info.add index amount) := by
  intro other used
  rcases List.mem_cons.mp used with rfl | before
  · exact ⟨low, high⟩
  · exact inside other before

theorem Inside.foldl {n : Nat} {items : List α}
    (keeps : ∀ info, ∀ item ∈ items, Inside n info → Inside n (step info item)) {info : Info}
    (inside : Inside n info) : Inside n (items.foldl step info) := by
  induction items generalizing info with
  | nil => exact inside
  | cons item rest ih =>
    exact ih (fun info other member => keeps info other (List.mem_cons_of_mem _ member))
      (keeps info item List.mem_cons_self inside)

theorem inside_reset (n : Nat) : Inside n reset := fun _ used => absurd used List.not_mem_nil

end Info

namespace Setup

/-- The lists that the last rules look at leave the channel in. -/
def Admissible (s : Setup) (channel : Nat) : Prop :=
  s.skipListCheck channel = false ∧ s.avoided channel = false

/-- The group of the channel at 80 MHz stands in the list where it is looked for. -/
def GroupInside (s : Setup) (k : Nat) : Prop :=
  ∀ index ∈ groupAt (s.channelAt k) k, 0 ≤ index ∧ index < s.num

def SomeGood (s : Setup) : Prop := ∃ channel ∈ s.chans.listed, s.Good channel

/-- The condition for the algorithm by the number of access points. -/
structure ApCntSound (s : Setup) : Prop where
  band : 0 < s.num → s.isABand = true
  groups : s.wide80 = true → ∀ k < s.num, s.GroupInside k
  admitted : s.SomeGood → ∀ k < s.num, s.Admissible (s.channelAt k) → s.Good (s.channelAt k)
  started : s.SomeGood → ∀ base < s.num,
    (∃ k < s.num, s.capable (s.channelAt k) = true ∧ s.Good (s.channelAt ((base + k) % s.num))) ∨
      s.Good (s.channelAt ((base + (s.num - 1)) % s.num))

end Setup

section Rules
variable {s : Setup}

theorem not_wide40_of_wide80 (wide : s.wide80 = true) : s.wide40 = false := by
  have bandwidth : s.vhtBw = vhtBw80 := beq_iff_eq.mp wide
  unfold Setup.wide40
  rw [bandwidth]
  exact Bool.and_false _

theorem Setup.Good.admissible {channel : Nat} (good : s.Good channel) : s.Admissible channel := by
  constructor
  · exact Bool.eq_false_iff.mpr fun skipped => good.wanted (List.contains_iff_mem.mp skipped)
  · unfold Setup.avoided
    cases avoids : s.bAvoidDfsChannel with
    | false => rfl
    | true => rw [good.free avoids, Bool.and_false]

theorem Setup.Good.capable {channel : Nat} (good : s.Good channel) : s.capable channel = true := by
  unfold Setup.capable
  by_cases wide : s.wide40 = true
  · rw [if_pos wide]
    exact good.wide40 wide
  · rw [if_neg wide]
    cases wide80 : s.wide80 with
    | false => rfl
    | true => exact good.wide80 wide80

theorem Setup.SomeGood.found {s : Setup} (some_good : s.SomeGood) :
    ∃ k < s.num, s.Good (s.channelAt k) := by
  obtain ⟨channel, listed, good⟩ := some_good
  obtain ⟨k, inside, same⟩ := mem_listed.mp listed
  exact ⟨k, inside, same.symm ▸ good⟩

/-- The loop takes a channel that passes, or ends with the last. -/
theorem randomLoop_cases (base : Nat) (taken : Nat → Nat → Bool) :
    ∀ (loop : List Nat) (channel : Nat),
      (∃ k ∈ loop, taken k (s.channelAt ((base + k) % s.num)) = true ∧
        s.randomLoop base taken loop channel = s.channelAt ((base + k) % s.num)) ∨
      ((∀ k ∈ loop, taken k (s.channelAt ((base + k) % s.num)) = false) ∧
        ∀ last, loop.getLast? = some last →
          s.randomLoop base taken loop channel = s.channelAt ((base + last) % s.num)) := by
  intro loop
  induction loop with
  | nil =>
    intro channel
    refine .inr ⟨fun k member => absurd member List.not_mem_nil, fun last found => ?_⟩
    cases found
  | cons k rest ih =>
    intro channel
    rw [Setup.randomLoop]
    by_cases here : taken k (s.channelAt ((base + k) % s.num)) = true
    · rw [if_pos here]
      exact .inl ⟨k, List.mem_cons_self, here, rfl⟩
    · rw [if_neg here]
      rcases ih (s.channelAt ((base + k) % s.num)) with ⟨j, member, found, same⟩ | ⟨none, ends⟩
      · exact .inl ⟨j, List.mem_cons_of_mem _ member, found, same⟩
      · refine .inr ⟨?_, ?_⟩
        · intro j member
          rcases List.mem_cons.mp member with rfl | behind
          · exact Bool.eq_false_iff.mpr here
          · exact none j behind
        · intro last found
          cases rest with
          | nil =>
            have same : k = last := Option.some.inj found
            rw [← same]
            rfl
          | cons j rest =>
            exact ends last (List.getLast?_cons_cons.symm.trans found)

/-- The first that passes is taken. -/
theorem randomLoop_first (base : Nat) (taken : Nat → Nat → Bool) {k : Nat}
    (here : taken k (s.channelAt ((base + k) % s.num)) = true) :
    ∀ count start, start ≤ k → k < start + count →
      (∀ i, start ≤ i → i < k → taken i (s.channelAt ((base + i) % s.num)) = false) →
      ∀ channel, s.randomLoop base taken (List.range' start count) channel =
        s.channelAt ((base + k) % s.num) := by
  intro count
  induction count with
  | zero =>
    intro start below above
    omega
  | succ count ih =>
    intro start below above others channel
    rw [List.range'_succ, Setup.randomLoop]
    by_cases same : start = k
    · subst same
      rw [if_pos here]
    · rw [if_neg (Bool.eq_false_iff.mp (others start (Nat.le_refl _) (by omega)))]
      exact ih (start + 1) (by omega) (by omega) (fun i low high => others i (by omega) high) _

end Rules

end Mt7612u.Channel.AutoChSel
