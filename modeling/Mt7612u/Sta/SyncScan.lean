import Mt7612u.Sta.Sync

/-! What a scan visits: the channels it is to visit, in their order, also when it is cut into pieces,
when `cfg80211` gives the list, and when it is to go to one channel only. -/

namespace Mt7612u.Sta
open Library.Run
open Channel.BuildList

/-- The channels that may come next: those of 5 GHz are left out in a scan for 20/40 MHz coexistence. -/
def keeps (coex : Bool) (channel : Nat) : Bool := !coex || decide (channel ≤ 14)

/-- The channels of a list behind the first place of a channel. -/
def behind (coex : Bool) (list : List Nat) (channel : Nat) : List Nat :=
  (list.dropWhile (· ≠ channel)).tail.filter (keeps coex)

section Route

variable {coex : Bool} {list : List Nat} {channel : Nat}

theorem behind_cons_self (coex : Bool) (channel : Nat) (rest : List Nat) :
    behind coex (channel :: rest) channel = rest.filter (keeps coex) := by
  unfold behind
  rw [List.dropWhile_cons_of_neg (by simp), List.tail_cons]

theorem behind_cons_of_ne {first : Nat} (other : first ≠ channel) (rest : List Nat) :
    behind coex (first :: rest) channel = behind coex rest channel := by
  unfold behind
  rw [List.dropWhile_cons_of_pos (by simpa using other)]

/-- The first of the channels kept leads to the others. -/
theorem behind_of_filter {next : Nat} {others : List Nat}
    (kept : list.filter (keeps coex) = next :: others) : behind coex list next = others := by
  induction list with
  | nil => cases kept
  | cons first rest ih =>
    by_cases keep : keeps coex first = true
    · rw [List.filter_cons_of_pos keep] at kept
      obtain ⟨rfl, rfl⟩ := List.cons.inj kept
      exact behind_cons_self coex first rest
    · rw [List.filter_cons_of_neg keep] at kept
      have member : next ∈ rest.filter (keeps coex) := kept ▸ List.mem_cons_self
      have other : first ≠ next := by
        rintro rfl
        exact keep (List.mem_filter.mp member).2
      rw [behind_cons_of_ne other, ih kept]

theorem mem_of_behind {next : Nat} {others : List Nat}
    (ahead : behind coex list channel = next :: others) : next ∈ list := by
  have inside : next ∈ behind coex list channel := ahead ▸ List.mem_cons_self
  exact (List.dropWhile_sublist _).mem (List.mem_of_mem_tail (List.mem_of_mem_filter inside))

/-- What is behind the next channel is what is behind this one, less the next channel. -/
theorem behind_step (distinct : list.Nodup) {next : Nat} {others : List Nat}
    (ahead : behind coex list channel = next :: others) : behind coex list next = others := by
  induction list with
  | nil => cases ahead
  | cons first rest ih =>
    obtain ⟨fresh, distinct⟩ := List.nodup_cons.mp distinct
    have inRest : next ∈ rest → first ≠ next := by
      rintro member rfl
      exact fresh member
    by_cases here : first = channel
    · rw [here, behind_cons_self] at ahead
      have member : next ∈ rest := List.mem_of_mem_filter (ahead ▸ List.mem_cons_self)
      rw [behind_cons_of_ne (inRest member)]
      exact behind_of_filter ahead
    · rw [behind_cons_of_ne here] at ahead
      rw [behind_cons_of_ne (inRest (mem_of_behind ahead))]
      exact ih distinct ahead

/-- The loop of `NextChannel` goes to the first channel behind. -/
theorem nextLoop_eq (cells : Nat → ChannelTxPower) (count start channel : Nat) :
    Channels.nextLoop coex cells (List.range' start count) channel =
      (behind coex ((List.range' start (count + 1)).map fun i => (cells i).channel)
        channel).headD 0 := by
  induction count generalizing start channel with
  | zero =>
    change 0 = (behind coex [(cells start).channel] channel).headD 0
    by_cases here : (cells start).channel = channel
    · rw [here, behind_cons_self]
      rfl
    · rw [behind_cons_of_ne here]
      rfl
  | succ count ih =>
    rw [List.range'_succ, List.range'_succ, List.map_cons, Channels.nextLoop]
    by_cases here : channel = (cells start).channel
    · rw [if_pos here, here, behind_cons_self, ih, List.range'_succ, List.map_cons, behind_cons_self]
      by_cases skips : (coex && decide (14 < (cells (start + 1)).channel)) = true
      · have passed : ¬keeps coex (cells (start + 1)).channel = true := by
          simp only [Bool.and_eq_true, decide_eq_true_eq] at skips
          simp [keeps, skips.1, skips.2]
        rw [if_pos skips, List.filter_cons_of_neg passed]
      · have kept : keeps coex (cells (start + 1)).channel = true := by
          simp only [Bool.and_eq_true, decide_eq_true_eq, not_and, not_lt] at skips
          cases coex with
          | false => rfl
          | true => simp [keeps, skips rfl]
        rw [if_neg skips, List.filter_cons_of_pos kept, List.headD_cons]
    · rw [if_neg here, behind_cons_of_ne (Ne.symm here), ih]

variable {chans : Channels}

theorem nextChannel_eq (some_listed : 0 < chans.num) (coex : Bool) (channel : Nat) :
    chans.nextChannel coex channel = (behind coex chans.listed channel).headD 0 := by
  unfold Channels.nextChannel Channels.listed
  rw [List.range_eq_range', List.range_eq_range', nextLoop_eq, Nat.sub_add_cancel some_listed]

end Route

/-- A list of channels as `BuildChannelList` makes it. -/
structure Scannable (chans : Channels) : Prop where
  distinct : chans.listed.Nodup
  positive : 0 ∉ chans.listed
  some_listed : 0 < chans.num

section Route

variable {chans : Channels}

/-- The next channel and those behind it are the channels behind this one. -/
theorem Scannable.next (scannable : Scannable chans) (coex : Bool) (channel : Nat) :
    (if chans.nextChannel coex channel = 0 then []
      else chans.nextChannel coex channel ::
        behind coex chans.listed (chans.nextChannel coex channel)) =
      behind coex chans.listed channel := by
  rw [nextChannel_eq scannable.some_listed]
  cases ahead : behind coex chans.listed channel with
  | nil => rfl
  | cons next others =>
    have nonzero : next ≠ 0 := by
      rintro rfl
      exact scannable.positive (mem_of_behind ahead)
    rw [List.headD_cons, if_neg nonzero, behind_step scannable.distinct ahead]

/-- From no channel there is no next one. -/
theorem Scannable.behind_zero (scannable : Scannable chans) (coex : Bool) :
    behind coex chans.listed 0 = [] := by
  unfold behind
  rw [List.dropWhile_eq_nil_iff.mpr]
  · rfl
  · intro channel member
    rw [decide_eq_true_eq]
    rintro rfl
    exact scannable.positive member

/-- The first channel and those behind it are the list. -/
theorem Scannable.first (scannable : Scannable chans) :
    chans.firstChannel ≠ 0 ∧ chans.listed = chans.firstChannel :: chans.listed.tail := by
  have whole : chans.listed = chans.firstChannel :: chans.listed.tail := by
    obtain ⟨count, counted⟩ : ∃ count, chans.num = count + 1 :=
      ⟨chans.num - 1, (Nat.sub_add_cancel scannable.some_listed).symm⟩
    unfold Channels.listed Channels.firstChannel
    rw [counted, List.range_succ_eq_map, List.map_cons, List.tail_cons]
  refine ⟨fun zero => scannable.positive ?_, whole⟩
  rw [whole, zero]
  exact List.mem_cons_self

theorem Scannable.behind_first (scannable : Scannable chans) (coex : Bool) :
    behind coex chans.listed chans.firstChannel = chans.listed.tail.filter (keeps coex) := by
  conv_lhs => rw [scannable.first.2]
  exact behind_cons_self coex _ _

end Route

namespace SyncMachine

/-- A scan that goes to one channel only. -/
def single (s : SyncMachine) : Bool := s.cfg.bFastConnect && !s.bNotFirstScan || ciscoScan s.scanType

/-- The channels left to a scan that stands at a channel. -/
def ahead (s : SyncMachine) (channel : Nat) : List Nat :=
  match s.opsScan with
  | some list => (list.map (· % 256)).takeWhile (· ≠ 0)
  | none =>
    if s.single then []
    else behind (s.scanType == scan2040BssCoexist) s.cfg.channels.listed channel

/-- The channels left to a scan when `ScanNextChannel` is called. -/
def left (s : SyncMachine) : List Nat :=
  match s.opsScan with
  | some _ => s.ahead s.channel
  | none => if s.channel = 0 then [] else s.channel :: s.ahead s.channel

/-- What holds between the steps: the channels visited and those ahead are those planned, and no scan
was confirmed as done that had not visited all of them. -/
structure Covers (s : SyncMachine) : Prop where
  scannable : Scannable s.cfg.channels
  apart : s.bImprovedScan = true → s.opsScan = none
  listening : s.currState = .scanListen → s.visited ++ s.ahead s.channel = s.planned
  suspended : s.currState = .scanPending → s.opsScan = none ∧ s.lastScanChannel ≠ 0 ∧
    s.visited ++ s.lastScanChannel :: s.ahead s.lastScanChannel = s.planned
  scans : ∀ scan ∈ s.scans, scan.2 = scan.1

/-- The list of channels and what a scan depends on stay as they are while it goes on. -/
structure KeepsScan (s : SyncMachine) (cfg : SyncConfig) (bNotFirstScan : Bool)
    (opsScan : Option (List Nat)) : Prop where
  channels : cfg.channels = s.cfg.channels
  bFastConnect : cfg.bFastConnect = s.cfg.bFastConnect
  bNotFirstScan : bNotFirstScan = s.bNotFirstScan
  opsScan : opsScan = s.opsScan

/-- An element does not disturb the scan that goes on. -/
def Undisturbed (r : SyncResources) (s : SyncMachine) : SyncElem → Prop
  | .mlmeScanReq info _ =>
      r.monitorOn = false ∧
        (s.currState = .scanPending → s.bImprovedScan = true → info.scanType = s.scanType)
  | .mlmeForceScanReq _ => r.monitorOn = false ∧ s.bImprovedScan = false
  | .scanTimeout => s.currState = .scanListen → r.monitorOn = false
  | _ => True

/-- A scan is neither stopped by a full queue or by the loss of the link, nor changed while it goes
on. The scans of `cfg80211` are not cut into pieces. -/
def Steady (s : SyncMachine) : SyncStep → Prop
  | .expireScan queued _ => queued = true
  | .perform r => ∀ elem rest, s.queue = elem :: rest → s.Undisturbed r elem
  | .others cfg bImprovedScan bNotFirstScan opsScan =>
      Scannable cfg.channels ∧ (bImprovedScan = true → opsScan = none) ∧
        (s.currState = .scanListen ∨ s.currState = .scanPending →
          s.KeepsScan cfg bNotFirstScan opsScan)
  | .linkDown _ => s.opsScan = none
  | _ => True

section Actions

variable {s : SyncMachine} {r : SyncResources}

/-- The channels ahead depend on the list, on what is asked of the scan and on its type. -/
theorem ahead_congr {t : SyncMachine} (cfg : t.cfg = s.cfg) (first : t.bNotFirstScan = s.bNotFirstScan)
    (type : t.scanType = s.scanType) (running : t.opsScan = s.opsScan) (channel : Nat) :
    t.ahead channel = s.ahead channel := by
  unfold ahead single
  rw [cfg, first, type, running]

theorem ahead_zero (scannable : Scannable s.cfg.channels) (plain : s.opsScan = none) :
    s.ahead 0 = [] := by
  unfold ahead
  rw [plain]
  dsimp only
  rw [scannable.behind_zero, ite_self]

theorem scanChannel_of_plain (plain : s.opsScan = none) : scanChannel s = s := by
  unfold scanChannel
  rw [plain]

theorem left_of_plain (plain : s.opsScan = none) :
    s.left = if s.channel = 0 then [] else s.channel :: s.ahead s.channel := by
  unfold left
  rw [plain]

theorem covers_scanChRestore (scannable : Scannable s.cfg.channels)
    (apart : s.bImprovedScan = true → s.opsScan = none)
    (standing : s.channel ≠ 0 → s.bImprovedScan = true →
      s.visited ++ s.channel :: s.ahead s.channel = s.planned)
    (finished : ¬(s.channel ≠ 0 ∧ s.bImprovedScan = true) → s.visited = s.planned)
    (scans : ∀ scan ∈ s.scans, scan.2 = scan.1) : (scanChRestore s).Covers := by
  unfold scanChRestore
  dsimp only
  split_ifs with pauses
  · exact ⟨scannable, apart, nofun, fun _ => ⟨apart pauses.2, pauses.1, standing pauses.1 pauses.2⟩,
      scans⟩
  · refine ⟨scannable, nofun, nofun, nofun, ?_⟩
    intro scan member
    rcases List.mem_append.mp member with before | last
    · exact scans scan before
    · obtain rfl := List.mem_singleton.mp last
      exact finished pauses

theorem covers_visitChannel (scannable : Scannable s.cfg.channels)
    (apart : s.bImprovedScan = true → s.opsScan = none)
    (standing : s.visited ++ s.channel :: s.ahead s.channel = s.planned)
    (scans : ∀ scan ∈ s.scans, scan.2 = scan.1) : (visitChannel r s).Covers := by
  unfold visitChannel
  dsimp only
  by_cases missing : (scanModeAct s.scanTypeHere && !r.outBuffer) = true
  · rw [if_pos missing]
    exact ⟨scannable, apart, nofun, nofun, scans⟩
  · rw [if_neg missing]
    refine ⟨scannable, apart, fun _ => ?_, nofun, scans⟩
    rw [← standing]
    exact List.append_assoc _ _ _

/-- Going to the next channel: none is left out, and a scan is confirmed when none is left. -/
theorem covers_scanNextChannel (off : r.monitorOn = false) (scannable : Scannable s.cfg.channels)
    (apart : s.bImprovedScan = true → s.opsScan = none)
    (whole : s.visited ++ s.left = s.planned)
    (scans : ∀ scan ∈ s.scans, scan.2 = scan.1) : (scanNextChannel r s).Covers := by
  unfold scanNextChannel
  rw [off, if_neg Bool.false_ne_true]
  cases running : s.opsScan with
  | none =>
    rw [left_of_plain running] at whole
    dsimp only
    rw [scanChannel_of_plain running]
    have standing : s.channel ≠ 0 → s.visited ++ s.channel :: s.ahead s.channel = s.planned := by
      intro nonzero
      rwa [if_neg nonzero] at whole
    split_ifs with restores
    · apply covers_scanChRestore scannable apart (fun nonzero _ => standing nonzero) _ scans
      intro ends
      by_cases zero : s.channel = 0
      · rwa [if_pos zero, List.append_nil] at whole
      · -- a pause is due to `bImprovedScan` alone
        have improved := (Bool.and_eq_true _ _ ▸ restores.resolve_left zero).1
        exact absurd ⟨zero, improved⟩ ends
    · exact ⟨scannable, apart, nofun, nofun, scans⟩
    · exact covers_visitChannel scannable apart (standing fun zero => restores (Or.inl zero)) scans
  | some list =>
    have whole_list : s.bImprovedScan = false := by
      by_contra improved
      rw [apart (Bool.not_eq_false _ ▸ improved)] at running
      cases running
    have left : s.left = (list.map (· % 256)).takeWhile (· ≠ 0) := by
      unfold left ahead
      rw [running]
    rw [left] at whole
    have goes : scanChannel s = { s with
        channel := (opsScanGetNextChannel list).1
        opsScan := some (opsScanGetNextChannel list).2 } := by
      unfold scanChannel
      rw [running]
    dsimp only
    rw [goes, whole_list]
    have next : (list.map (· % 256)).takeWhile (· ≠ 0) =
        if (opsScanGetNextChannel list).1 = 0 then []
        else (opsScanGetNextChannel list).1 ::
          ((opsScanGetNextChannel list).2.map (· % 256)).takeWhile (· ≠ 0) := by
      cases list with
      | nil => rfl
      | cons channel rest =>
        unfold opsScanGetNextChannel
        rw [List.map_cons]
        by_cases zero : channel % 256 = 0
        · rw [List.takeWhile_cons_of_neg (by simpa using zero), if_pos zero]
        · rw [List.takeWhile_cons_of_pos (by simpa using zero), if_neg zero]
    rw [next] at whole
    split_ifs with restores
    · have zero := restores.resolve_right Bool.false_ne_true
      apply covers_scanChRestore
      · exact scannable
      · nofun
      · nofun
      · intro _
        rwa [if_pos zero, List.append_nil] at whole
      · exact scans
    · exact ⟨scannable, nofun, nofun, nofun, scans⟩
    · apply covers_visitChannel
      · exact scannable
      · nofun
      · rwa [if_neg fun zero => restores (Or.inl zero)] at whole
      · exact scans

theorem timeoutChannel_of_single (one : s.single = true) : (timeoutChannel s).channel = 0 := by
  have either : (s.cfg.bFastConnect = true ∧ s.bNotFirstScan = false) ∨
      ciscoScan s.scanType = true := by simpa [single] using one
  unfold timeoutChannel
  dsimp only
  by_cases first : s.cfg.bFastConnect = true ∧ s.bNotFirstScan = false
  · rw [if_pos first]
    split_ifs <;> rfl
  · rw [if_neg first, if_pos (either.resolve_left first)]

theorem of_not_single (many : s.single = false) :
    ¬(s.cfg.bFastConnect = true ∧ s.bNotFirstScan = false) ∧ ciscoScan s.scanType = false := by
  simpa [single] using many

theorem timeoutChannel_of_many (many : s.single = false) : timeoutChannel s =
    { s with
      channel := s.cfg.channels.nextChannel (s.scanType == scan2040BssCoexist) s.channel } := by
  obtain ⟨notFirst, plain⟩ := of_not_single many
  unfold timeoutChannel
  dsimp only
  rw [if_neg notFirst, plain, if_neg Bool.false_ne_true]

theorem timeoutChannel_opsScan : (timeoutChannel s).opsScan = s.opsScan := by
  unfold timeoutChannel
  dsimp only
  split_ifs <;> rfl

/-- When its time on a channel is over, a scan has the channels ahead left. -/
theorem left_timeoutChannel (scannable : Scannable s.cfg.channels) :
    (timeoutChannel s).left = s.ahead s.channel := by
  unfold left ahead
  rw [timeoutChannel_opsScan]
  cases s.opsScan with
  | some list => rfl
  | none =>
    dsimp only
    cases one : s.single with
    | true => rw [timeoutChannel_of_single one, if_pos rfl, if_pos rfl]
    | false =>
      have still : SyncMachine.single { s with
          channel := s.cfg.channels.nextChannel (s.scanType == scan2040BssCoexist) s.channel } =
            false := one
      rw [timeoutChannel_of_many one, still, if_neg Bool.false_ne_true, if_neg Bool.false_ne_true]
      exact scannable.next _ _

theorem firstScanChannel_of_many (many : s.single = false) :
    s.firstScanChannel = s.cfg.channels.firstChannel := by
  unfold firstScanChannel
  rw [if_neg]
  rintro ⟨fast, -, first⟩
  exact (of_not_single many).1 ⟨fast, first⟩

/-- Unless a connection asks for one channel, the plan is the first channel and those ahead of it. -/
theorem plan_eq (scannable : Scannable s.cfg.channels) {forced : Bool}
    (free : forced = true → s.cfg.connectinfoChannel = 0) (plain : s.opsScan = none) :
    s.plan forced = if s.firstScanChannel = 0 then []
      else s.firstScanChannel :: s.ahead s.firstScanChannel := by
  have unforced : (forced && decide (s.cfg.connectinfoChannel ≠ 0)) = false := by
    cases forced with
    | false => rfl
    | true => simp [free rfl]
  unfold plan
  rw [plain, unforced, Bool.or_false, ← single]
  dsimp only
  by_cases zero : s.firstScanChannel = 0
  · rw [if_pos zero, if_pos zero]
  · rw [if_neg zero, if_neg zero]
    unfold ahead
    rw [plain]
    dsimp only
    cases one : s.single with
    | true => rw [if_pos rfl, if_pos rfl]
    | false =>
      rw [if_neg Bool.false_ne_true, if_neg Bool.false_ne_true, firstScanChannel_of_many one]
      rw [scannable.behind_first]
      by_cases coex : s.scanType = scan2040BssCoexist
      · rw [if_pos coex, coex]
        rfl
      · have apart : (s.scanType == scan2040BssCoexist) = false := beq_eq_false_iff_ne.mpr coex
        have all : ∀ list : List Nat, list.filter (keeps false) = list := fun list =>
          List.filter_eq_self.mpr fun _ _ => rfl
        rw [if_neg coex, apart, all]
        exact scannable.first.2

/-- A scan that begins has the channels left that are planned. -/
theorem left_begun (scannable : Scannable s.cfg.channels) {forced : Bool}
    (free : s.opsScan = none → forced = true → s.cfg.connectinfoChannel = 0)
    (visited planned : List Nat) :
    ({ s with channel := s.firstScanChannel, visited := visited, planned := planned } :
      SyncMachine).left = s.plan forced := by
  cases running : s.opsScan with
  | some list =>
    unfold left ahead plan
    dsimp only
    rw [running]
  | none =>
    rw [plan_eq scannable (free running) running]
    unfold left ahead
    dsimp only
    rw [running]
    rfl

theorem left_beginScan (scannable : Scannable s.cfg.channels) {forced : Bool}
    (free : s.opsScan = none → forced = true → s.cfg.connectinfoChannel = 0) (info : ScanReq) :
    (beginScan forced info s).visited ++ (beginScan forced info s).left =
      (beginScan forced info s).planned :=
  @left_begun { s.cancelTimers with scanType := info.scanType } scannable forced free _ _

/-- A scan that goes on has the channel left that it was suspended at, and those ahead of it. -/
theorem left_resumeScan {info : ScanReq} (plain : s.opsScan = none) (nonzero : s.lastScanChannel ≠ 0)
    (same : info.scanType = s.scanType) :
    (resumeScan info s).left = s.lastScanChannel :: s.ahead s.lastScanChannel := by
  have standing : (resumeScan info s).left =
      s.lastScanChannel :: (resumeScan info s).ahead s.lastScanChannel :=
    (left_of_plain (s := resumeScan info s) plain).trans (if_neg nonzero)
  rw [standing, ahead_congr (s := s) (t := resumeScan info s) rfl rfl same rfl]

/-- A scan that stops leaves what was done before. -/
theorem covers_of_idle (scannable : Scannable s.cfg.channels)
    (apart : s.bImprovedScan = true → s.opsScan = none)
    (scans : ∀ scan ∈ s.scans, scan.2 = scan.1) (idle : s.currState = .syncIdle) : s.Covers where
  scannable := scannable
  apart := apart
  listening := by rw [idle]; nofun
  suspended := by rw [idle]; nofun
  scans := scans

theorem covers_mlmeScanReqAction {info : ScanReq} (covers : s.Covers)
    (undisturbed : s.Undisturbed r (.mlmeScanReq info true)) :
    (mlmeScanReqAction r info s).Covers := by
  obtain ⟨off, same⟩ := undisturbed
  unfold mlmeScanReqAction
  split_ifs with down sane
  · exact covers
  · unfold scanSetup
    split_ifs with goes
    · obtain ⟨plain, nonzero, whole⟩ := covers.suspended goes.2
      apply covers_scanNextChannel off
      · exact covers.scannable
      · exact covers.apart
      · rw [left_resumeScan plain nonzero (same goes.2 goes.1)]
        exact whole
      · exact covers.scans
    · apply covers_scanNextChannel off
      · exact covers.scannable
      · exact covers.apart
      · exact left_beginScan covers.scannable (fun _ forced => absurd forced Bool.false_ne_true) info
      · exact covers.scans
  · exact covers_of_idle covers.scannable covers.apart covers.scans rfl

/-- A connection that asks for one channel plans that one. -/
theorem plan_forced (plain : s.opsScan = none) (asked : s.cfg.connectinfoChannel ≠ 0) :
    s.plan true = if s.firstScanChannel = 0 then [] else [s.firstScanChannel] := by
  have only : (s.cfg.bFastConnect && !s.bNotFirstScan || ciscoScan s.scanType ||
      true && decide (s.cfg.connectinfoChannel ≠ 0)) = true := by
    rw [decide_eq_true asked, Bool.and_true, Bool.or_true]
  unfold plan
  rw [plain, only]
  dsimp only
  rw [if_pos rfl]

/-- The list of `cfg80211` does not depend on the channel. -/
theorem ahead_of_running (running : s.opsScan ≠ none) (channel other : Nat) :
    ({ s with channel := 0 } : SyncMachine).ahead channel = s.ahead other := by
  unfold ahead
  dsimp only
  cases list : s.opsScan with
  | none => exact absurd list running
  | some list => rfl

theorem scanChannel_keeps : (scanChannel s).cfg = s.cfg ∧
    (s.opsScan ≠ none → (scanChannel s).opsScan ≠ none) := by
  unfold scanChannel
  split
  next => exact ⟨rfl, id⟩
  next => exact ⟨rfl, fun _ => nofun⟩

theorem scanChRestore_cfg : (scanChRestore s).cfg = s.cfg ∧ (scanChRestore s).opsScan = s.opsScan := by
  unfold scanChRestore
  dsimp only
  split_ifs <;> exact ⟨rfl, rfl⟩

theorem visitChannel_cfg :
    (visitChannel r s).cfg = s.cfg ∧ (visitChannel r s).opsScan = s.opsScan := by
  unfold visitChannel
  dsimp only
  split_ifs <;> exact ⟨rfl, rfl⟩

theorem scanNextChannel_keeps : (scanNextChannel r s).cfg = s.cfg ∧
    (s.opsScan ≠ none → (scanNextChannel r s).opsScan ≠ none) := by
  have keeps := scanChannel_keeps (s := s)
  unfold scanNextChannel
  dsimp only
  split_ifs
  · exact ⟨rfl, id⟩
  · rwa [scanChRestore_cfg.1, scanChRestore_cfg.2]
  · exact keeps
  · rwa [visitChannel_cfg.1, visitChannel_cfg.2]

/-- A scan that begins for a connection and is to go to one channel goes there and nowhere else,
since the channel is forgotten. -/
theorem covers_forced_one (off : r.monitorOn = false) (scannable : Scannable s.cfg.channels)
    (uncut : s.bImprovedScan = false) (plain : s.opsScan = none)
    (scans : ∀ scan ∈ s.scans, scan.2 = scan.1) (begun : s.visited = [])
    (one : s.planned = if s.channel = 0 then [] else [s.channel]) :
    ({ scanNextChannel r s with channel := 0 } : SyncMachine).Covers := by
  unfold scanNextChannel
  rw [off, if_neg Bool.false_ne_true, uncut, Bool.false_and]
  dsimp only
  rw [scanChannel_of_plain plain]
  by_cases zero : s.channel = 0
  · rw [if_pos (Or.inl zero)]
    rw [if_pos zero] at one
    unfold scanChRestore
    dsimp only
    rw [if_neg fun pauses => pauses.1 zero]
    apply covers_of_idle
    · exact scannable
    · nofun
    · intro scan member
      rcases List.mem_append.mp member with before | last
      · exact scans scan before
      · obtain rfl := List.mem_singleton.mp last
        exact begun.trans one.symm
    · rfl
  · have goes : ¬(s.channel = 0 ∨ false = true) := by
      rintro (stops | pauses)
      · exact zero stops
      · cases pauses
    rw [if_neg goes]
    rw [if_neg zero] at one
    split_ifs
    · exact covers_of_idle scannable (fun _ => plain) scans rfl
    · unfold visitChannel
      dsimp only
      by_cases missing : (scanModeAct s.scanTypeHere && !r.outBuffer) = true
      · rw [if_pos missing]
        exact covers_of_idle scannable (fun _ => plain) scans rfl
      · rw [if_neg missing]
        refine ⟨scannable, fun _ => plain, fun _ => ?_, nofun, scans⟩
        change (s.visited ++ [s.channel]) ++ ahead _ 0 = s.planned
        rw [ahead_zero]
        · rw [begun, one]
          rfl
        · exact scannable
        · exact plain

theorem covers_mlmeForceScanReqAction {info : ScanReq} (covers : s.Covers)
    (undisturbed : s.Undisturbed r (.mlmeForceScanReq info)) :
    (mlmeForceScanReqAction r info s).Covers := by
  obtain ⟨off, uncut⟩ := undisturbed
  have begins : ¬(s.bImprovedScan = true ∧ s.currState = .scanPending) := by
    rw [uncut]
    rintro ⟨improved, -⟩
    cases improved
  have setup : scanSetup true info s = beginScan true info s := if_neg begins
  unfold mlmeForceScanReqAction
  split_ifs with down sane
  · exact covers
  · rw [setup]
    have general : (s.opsScan = none → s.cfg.connectinfoChannel = 0) →
        (scanNextChannel r (beginScan true info s)).Covers := by
      intro free
      apply covers_scanNextChannel off
      · exact covers.scannable
      · exact covers.apart
      · exact left_beginScan covers.scannable (fun plain _ => free plain) info
      · exact covers.scans
    have same : (scanNextChannel r (beginScan true info s)).cfg = s.cfg := scanNextChannel_keeps.1
    dsimp only
    split_ifs with other
    · have asked : s.cfg.connectinfoChannel ≠ 0 := same ▸ other
      by_cases plain : s.opsScan = none
      · apply covers_forced_one off
        · exact covers.scannable
        · exact uncut
        · exact plain
        · exact covers.scans
        · rfl
        · exact plan_forced (s := { s.cancelTimers with scanType := info.scanType }) plain asked
      · have scanned := general fun none => absurd none plain
        have running : (scanNextChannel r (beginScan true info s)).opsScan ≠ none :=
          scanNextChannel_keeps.2 plain
        refine ⟨scanned.scannable, scanned.apart, fun listens => ?_, scanned.suspended, scanned.scans⟩
        rw [← scanned.listening listens]
        exact congrArg (_ ++ ·) (ahead_of_running running _ _)
    · apply general
      intro _
      rw [same, not_not] at other
      exact other
  · exact covers_of_idle covers.scannable covers.apart covers.scans rfl

theorem covers_scanTimeoutAction (covers : s.Covers) (listens : s.currState = .scanListen)
    (off : r.monitorOn = false) : (scanTimeoutAction r s).Covers := by
  have still : (timeoutChannel s).cfg = s.cfg ∧ (timeoutChannel s).bImprovedScan = s.bImprovedScan ∧
      (timeoutChannel s).visited = s.visited ∧ (timeoutChannel s).planned = s.planned ∧
      (timeoutChannel s).scans = s.scans := by
    unfold timeoutChannel
    dsimp only
    split_ifs <;> exact ⟨rfl, rfl, rfl, rfl, rfl⟩
  obtain ⟨cfg, improved, visited, planned, scans⟩ := still
  apply covers_scanNextChannel off
  · rw [cfg]
    exact covers.scannable
  · rw [improved, timeoutChannel_opsScan]
    exact covers.apart
  · rw [visited, planned, left_timeoutChannel covers.scannable]
    exact covers.listening listens
  · rw [scans]
    exact covers.scans

end Actions

/-- Every element that is handled. -/
theorem covers_perform {s : SyncMachine} {r : SyncResources} {elem : SyncElem}
    (covers : s.Covers) (undisturbed : s.Undisturbed r elem) :
    (syncPerformAction r elem s).Covers := by
  have joins : ∀ bssIdx, (mlmeJoinReqAction bssIdx s).Covers := fun bssIdx =>
    ⟨covers.scannable, covers.apart, nofun, nofun, covers.scans⟩
  have idle : ∀ kind status, ((s.enter .syncIdle).confirm kind status).Covers := fun kind status =>
    covers_of_idle covers.scannable covers.apart covers.scans rfl
  unfold syncPerformAction
  split
  next info asked _ => exact covers_mlmeScanReqAction covers undisturbed
  next info _ => exact covers_mlmeForceScanReqAction covers undisturbed
  next bssIdx _ => exact joins bssIdx
  next => exact ⟨covers.scannable, covers.apart, nofun, nofun, covers.scans⟩
  next ssidLen state =>
    unfold mlmeStartReqAction
    split_ifs
    · exact covers
    · exact covers_of_idle covers.scannable covers.apart covers.scans rfl
    · exact idle _ _
  next bssIdx _ => exact joins bssIdx
  next => exact idle _ _
  next ieList state =>
    unfold peerBeaconAtJoinAction
    split_ifs
    · exact covers
    · exact covers
    · cases ieList with
      | none => exact covers
      | some ieList =>
        dsimp only
        split_ifs
        · exact covers
        · exact covers_of_idle covers.scannable covers.apart covers.scans rfl
        · exact covers_of_idle covers.scannable covers.apart covers.scans rfl
        · exact covers
  next => exact idle _ _
  next bssIdx _ => exact joins bssIdx
  next => exact idle _ _
  next state => exact covers_scanTimeoutAction covers state (undisturbed state)
  next info asked _ => exact covers_mlmeScanReqAction covers undisturbed
  next => exact covers

/-- One step of the machine. -/
theorem covers_syncStep {s : SyncMachine} {step : SyncStep} (covers : s.Covers)
    (steady : s.Steady step) : (syncStep s step).Covers := by
  cases step with
  | enqueue elem => exact { covers with }
  | expireBeacon queued =>
    unfold syncStep
    dsimp only
    split_ifs <;> exact { covers with }
  | expireScan queued r =>
    have room : queued = true := steady
    unfold syncStep
    rw [room]
    dsimp only
    rw [if_pos rfl]
    split_ifs <;> exact { covers with }
  | resume =>
    unfold syncStep
    dsimp only
    split_ifs <;> exact { covers with }
  | perform r =>
    unfold syncStep
    cases queued : s.queue with
    | nil => exact covers
    | cons elem rest =>
      apply covers_perform
      · exact { covers with }
      · have undisturbed := steady elem rest queued
        cases elem <;> exact undisturbed
  | others cfg bImprovedScan bNotFirstScan opsScan =>
    obtain ⟨scannable, apart, keeps⟩ := steady
    have still : s.KeepsScan cfg bNotFirstScan opsScan → ∀ channel,
        ahead { s with
          cfg := cfg, bImprovedScan := bImprovedScan, bNotFirstScan := bNotFirstScan
          opsScan := opsScan } channel = s.ahead channel := by
      intro same channel
      unfold ahead single
      rw [same.channels, same.bFastConnect, same.bNotFirstScan, same.opsScan]
    constructor
    · exact scannable
    · exact apart
    · intro listens
      exact (congrArg (s.visited ++ ·) (still (keeps (Or.inl listens)) _)).trans
        (covers.listening listens)
    · intro suspended
      have same := keeps (Or.inr suspended)
      obtain ⟨plain, nonzero, whole⟩ := covers.suspended suspended
      refine ⟨same.opsScan.trans plain, nonzero, ?_⟩
      exact (congrArg (s.visited ++ s.lastScanChannel :: ·) (still same _)).trans whole
    · exact covers.scans
  | restart => exact covers_of_idle covers.scannable covers.apart covers.scans rfl
  | linkDown r =>
    have plain : s.opsScan = none := steady
    unfold syncStep
    dsimp only
    split_ifs with on running
    · exact covers
    · rw [plain] at running
      cases running
    · exact ⟨covers.scannable, nofun, covers.listening, covers.suspended, covers.scans⟩

end SyncMachine

end Mt7612u.Sta
