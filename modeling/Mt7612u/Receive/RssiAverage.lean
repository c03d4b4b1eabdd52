import Mt7612u.Library.Run
import Mt7612u.Library.Smoothing

/-! `Update_Rssi_Sample`: the averages of the signal strength that are kept for each antenna, in
eighths. -/

namespace Mt7612u.Receive
open Library Library.Run

/-- A value stored in a `CHAR`. -/
def asChar (value : Int) : Int := value.bmod 256

/-- A value stored in a `short`. -/
def asShort (value : Int) : Int := value.bmod 65536

def modeCck : Nat := 0
def bw80 : Nat := 2

/-- What is read of the adapter; the fields of type `CHAR` are integers. -/
structure RssiEnv where
  isMt76x2U : Bool
  lnaType : Nat
  channel : Nat
  latchRfChannel : Nat
  bLnaGain : Int
  aLnaGain0 : Int
  aLnaGain1 : Int
  aLnaGain2 : Int
  aRssiOffset : Fin 3 → Int
  bgRssiOffset : Fin 3 → Int
  snrFormula : Nat

/-- What is read of the RXWI. -/
structure RxSignal where
  rssi : Fin 3 → Int
  snr : Fin 3 → UInt8
  phymode : Nat
  bw : Nat

/-- `LastRssi`, `AvgRssi` and `AvgRssiX8` of one antenna, or the same of its SNR. -/
structure Averaged where
  last : Int
  avg : Int
  avgX8 : Int
  deriving DecidableEq

structure Antenna where
  rssi : Averaged
  snr : Averaged

/-- `RSSI_SAMPLE`. -/
abbrev RssiSample := Fin 3 → Antenna

section convert
variable (env : RssiEnv)

def getLnaGain : Int :=
  if env.latchRfChannel ≤ 14 then env.bLnaGain
  else if env.latchRfChannel ≤ 64 then env.aLnaGain0
  else if env.latchRfChannel ≤ 128 then env.aLnaGain1
  else env.aLnaGain2

def isExternalLnaMode : Bool :=
  if env.channel > 14 then env.lnaType == 0 || env.lnaType == 1
  else env.lnaType == 0 || env.lnaType == 0x10

def rssiOffset (rssiIdx : Fin 3) : Int :=
  if env.latchRfChannel > 14 then env.aRssiOffset rssiIdx else env.bgRssiOffset rssiIdx

/-- `ConvertToRssi`; outside of the MT76x2 the gain and the offset are taken as bytes without a
sign. -/
def convertToRssi (rssi : Int) (rssiIdx : Fin 3) : Int :=
  if rssi = 0 then -99
  else if env.isMt76x2U then
    asChar (rssi + rssiOffset env rssiIdx -
      asChar (if isExternalLnaMode env then 0 else getLnaGain env))
  else asChar (-12 - rssiOffset env rssiIdx % 256 - getLnaGain env % 256 - rssi)

def convertToSnr (snr : UInt8) : Int :=
  let snr : Int := snr.toNat
  asChar (if env.snrFormula = 1 then (snr * 3 + 8) >>> (4 : Nat)
    else if env.snrFormula = 2 then (snr * 3).tdiv 16
    else ((0xeb - snr) * 3).tdiv 16)

/-- The corrections of `LastRssi0` and `LastRssi1`. -/
def correctRssi (frame : RxSignal) (lastSnr lastRssi : Int) : Int :=
  if env.isMt76x2U then
    if frame.phymode = modeCck then asChar (lastRssi - 2)
    else if frame.bw = bw80 ∧ lastRssi < -75 ∧ isExternalLnaMode env = false then
      asChar (-92 + lastSnr)
    else lastRssi
  else lastRssi

end convert

/-- What is assigned to `AvgRssiX8`, before it is cut to sixteen bits. -/
def Averaged.sum (bInitial : Bool) (last : Int) (averaged : Averaged) : Int :=
  if bInitial then last * 8 else averaged.avgX8 - averaged.avg + last

def Averaged.sample (bInitial : Bool) (last : Int) (averaged : Averaged) : Averaged :=
  let avgX8 := asShort (averaged.sum bInitial last)
  { last := last, avg := asChar (avgX8 >>> (3 : Nat)), avgX8 := avgX8 }

/-- What a frame does to the averages of an antenna: the sample it takes, if any, and what is
assigned to the accumulators. -/
structure AntennaUpdate where
  antenna : Antenna
  taken : Option Int
  sums : List Int

/-- The SNR of an antenna, with what is assigned to its accumulator; the third one has none. -/
def updateSnr (env : RssiEnv) (frame : RxSignal) (bInitial : Bool) (i : Fin 3) (snr : Averaged) :
    Averaged × List Int :=
  if i.val < 2 ∧ frame.snr i ≠ 0 then
    let last := convertToSnr env (frame.snr i)
    (snr.sample bInitial last, [snr.sum bInitial last])
  else (snr, [])

/-- The part of `Update_Rssi_Sample` for one antenna; there are no corrections for the third. -/
def updateAntenna (env : RssiEnv) (frame : RxSignal) (bInitial : Bool) (i : Fin 3)
    (antenna : Antenna) : AntennaUpdate :=
  let snr := updateSnr env frame bInitial i antenna.snr
  if frame.rssi i ≠ 0 then
    let converted := convertToRssi env (frame.rssi i) i
    let last := if i.val < 2 then correctRssi env frame snr.1.last converted else converted
    ⟨⟨antenna.rssi.sample bInitial last, snr.1⟩, some last,
      snr.2 ++ [antenna.rssi.sum bInitial last]⟩
  else ⟨⟨antenna.rssi, snr.1⟩, none, snr.2⟩

/-- `bInitial`, for all antennas by the fields of the first. -/
def bInitial (sample : RssiSample) : Bool :=
  decide ((sample 0).rssi = ⟨0, 0, 0⟩)

/-- `Update_Rssi_Sample`. -/
def updateRssiSample (env : RssiEnv) (frame : RxSignal) (sample : RssiSample) :
    Fin 3 → AntennaUpdate := fun i =>
  updateAntenna env frame (bInitial sample) i (sample i)

/-- A run of the function: its averages, the samples that each antenna has taken, and all that has
been assigned to the accumulators. -/
structure RssiRun where
  sample : RssiSample
  taken : Fin 3 → List Int
  sums : List Int

def rssiStep (r : RssiRun) (event : RssiEnv × RxSignal) : RssiRun :=
  let updated := updateRssiSample event.1 event.2 r.sample
  { sample := fun i => (updated i).antenna
    taken := fun i => r.taken i ++ (updated i).taken.toList
    sums := r.sums ++ (updated 0).sums ++ (updated 1).sums ++ (updated 2).sums }

/-- A zeroed record. -/
def rssiStart : RssiRun where
  sample _ := ⟨⟨0, 0, 0⟩, ⟨0, 0, 0⟩⟩
  taken _ := []
  sums := []

/-- Each average is one of samples of its antenna, and no accumulator has overflowed. -/
structure RssiRun.Averages (r : RssiRun) : Prop where
  low : ∀ i, r.taken i ≠ [] → ∃ sample ∈ r.taken i, sample ≤ (r.sample i).rssi.avg
  high : ∀ i, r.taken i ≠ [] → ∃ sample ∈ r.taken i, (r.sample i).rssi.avg ≤ sample
  sums : ∀ sum ∈ r.sums, -2 ^ 15 ≤ sum ∧ sum < 2 ^ 15

/-- An antenna that takes its first sample does so while the fields of the first antenna are zero;
otherwise the sample is 0 or -1. -/
def StartsTogether (r : RssiRun) (event : RssiEnv × RxSignal) : Prop :=
  ∀ i, r.taken i = [] → ∀ last ∈ (updateRssiSample event.1 event.2 r.sample i).taken,
    bInitial r.sample = true ∨ last = 0 ∨ last = -1

theorem asChar_range (value : Int) : -128 ≤ asChar value ∧ asChar value ≤ 127 := by
  have low := Int.le_bmod (x := value) (m := 256) (by decide)
  have high := Int.bmod_lt (x := value) (m := 256) (by decide)
  unfold asChar
  omega

theorem asChar_eq {value : Int} (low : -128 ≤ value) (high : value ≤ 127) :
    asChar value = value := by
  unfold asChar
  rw [Int.bmod_def]
  split_ifs <;> omega

theorem asShort_eq {value : Int} (low : -2 ^ 15 ≤ value) (high : value < 2 ^ 15) :
    asShort value = value := by
  unfold asShort
  rw [Int.bmod_def]
  split_ifs <;> omega

theorem convertToRssi_range (env : RssiEnv) (rssi : Int) (rssiIdx : Fin 3) :
    -128 ≤ convertToRssi env rssi rssiIdx ∧ convertToRssi env rssi rssiIdx ≤ 127 := by
  unfold convertToRssi
  split
  · decide
  · split
    · exact asChar_range _
    · exact asChar_range _

theorem convertToSnr_range (env : RssiEnv) (snr : UInt8) :
    -128 ≤ convertToSnr env snr ∧ convertToSnr env snr ≤ 127 := asChar_range _

theorem correctRssi_range (env : RssiEnv) (frame : RxSignal) (lastSnr : Int) {lastRssi : Int}
    (range : -128 ≤ lastRssi ∧ lastRssi ≤ 127) :
    -128 ≤ correctRssi env frame lastSnr lastRssi ∧
      correctRssi env frame lastSnr lastRssi ≤ 127 := by
  unfold correctRssi
  split_ifs
  · exact asChar_range _
  · exact asChar_range _
  · exact range
  · exact range

/-- The accumulator is an average of bytes, and the average is its eighth. -/
structure Averaged.Sound (averaged : Averaged) : Prop where
  low : 8 * -128 ≤ averaged.avgX8
  high : averaged.avgX8 ≤ 8 * 127 + (8 - 1)
  avg : averaged.avg = averaged.avgX8 / 8

/-- Without `bInitial` the accumulator takes the step of the average. -/
theorem Averaged.Sound.sum_eq {averaged : Averaged} (sound : averaged.Sound) (first : Bool)
    (last : Int) : averaged.sum first last =
      if first then 8 * last else Smoothing.next 8 averaged.avgX8 last := by
  unfold Averaged.sum Smoothing.next
  rw [sound.avg, Int.mul_comm last]

theorem Averaged.Sound.sum_range {averaged : Averaged} (sound : averaged.Sound) (first : Bool)
    {last : Int} (range : -128 ≤ last ∧ last ≤ 127) :
    8 * -128 ≤ averaged.sum first last ∧ averaged.sum first last ≤ 8 * 127 + (8 - 1) := by
  rw [sound.sum_eq]
  split_ifs
  · omega
  · have low : 8 * min (-128) last ≤ Smoothing.next 8 averaged.avgX8 last :=
      Smoothing.next_ge (by decide) sound.low
    have high : Smoothing.next 8 averaged.avgX8 last ≤ 8 * max 127 last + (8 - 1) :=
      Smoothing.next_le (by decide) sound.high
    rw [min_eq_left range.1] at low
    rw [max_eq_left range.2] at high
    exact ⟨low, high⟩

theorem Averaged.Sound.sample_avgX8 {averaged : Averaged} (sound : averaged.Sound) (first : Bool)
    {last : Int} (range : -128 ≤ last ∧ last ≤ 127) :
    (averaged.sample first last).avgX8 = averaged.sum first last := by
  obtain ⟨low, high⟩ := sound.sum_range first range
  exact asShort_eq (by omega) (by omega)

theorem Averaged.Sound.sample {averaged : Averaged} (sound : averaged.Sound) (first : Bool)
    {last : Int} (range : -128 ≤ last ∧ last ≤ 127) : (averaged.sample first last).Sound := by
  obtain ⟨low, high⟩ := sound.sum_range first range
  have kept := sound.sample_avgX8 first range
  refine ⟨by omega, by omega, ?_⟩
  change asChar ((averaged.sample first last).avgX8 >>> (3 : Nat)) =
    (averaged.sample first last).avgX8 / 8
  rw [kept, Int.shiftRight_eq_div_pow]
  exact asChar_eq (by omega) (by omega)

section update

variable {env : RssiEnv} {frame : RxSignal} {first : Bool} {i : Fin 3} {antenna : Antenna}

/-- A sample that is taken is a byte; it goes into the average, and its sum is assigned. -/
theorem updateAntenna_taken {last : Int}
    (taken : (updateAntenna env frame first i antenna).taken = some last) :
    (-128 ≤ last ∧ last ≤ 127) ∧
      (updateAntenna env frame first i antenna).antenna.rssi = antenna.rssi.sample first last := by
  unfold updateAntenna at taken ⊢
  dsimp only at taken ⊢
  by_cases some : frame.rssi i ≠ 0
  · rw [if_pos some] at taken ⊢
    obtain rfl := Option.some.inj taken
    have converted := convertToRssi_range env (frame.rssi i) i
    refine ⟨?_, rfl⟩
    split
    · exact correctRssi_range env frame _ converted
    · exact converted
  · rw [if_neg some] at taken
    cases taken

theorem updateAntenna_none (none : (updateAntenna env frame first i antenna).taken = none) :
    (updateAntenna env frame first i antenna).antenna.rssi = antenna.rssi := by
  unfold updateAntenna at none ⊢
  dsimp only at none
  by_cases some : frame.rssi i ≠ 0
  · rw [if_pos some] at none
    cases none
  · rw [if_neg some]

theorem sum_bounds {averaged : Averaged} (sound : averaged.Sound) (first : Bool) {last : Int}
    (range : -128 ≤ last ∧ last ≤ 127) :
    ∀ sum ∈ [averaged.sum first last], -2 ^ 15 ≤ sum ∧ sum < 2 ^ 15 := by
  obtain ⟨low, high⟩ := sound.sum_range first range
  intro sum member
  rw [List.mem_singleton.mp member]
  omega

theorem updateSnr_sound {snr : Averaged} (sound : snr.Sound) :
    (updateSnr env frame first i snr).1.Sound ∧
      ∀ sum ∈ (updateSnr env frame first i snr).2, -2 ^ 15 ≤ sum ∧ sum < 2 ^ 15 := by
  unfold updateSnr
  split
  · have range := convertToSnr_range env (frame.snr i)
    exact ⟨sound.sample first range, sum_bounds sound first range⟩
  · exact ⟨sound, fun _ member => absurd member List.not_mem_nil⟩

/-- The new averages are sound, and nothing that was assigned is out of range. -/
theorem updateAntenna_sound (rssi : antenna.rssi.Sound) (snr : antenna.snr.Sound) :
    (updateAntenna env frame first i antenna).antenna.rssi.Sound ∧
      (updateAntenna env frame first i antenna).antenna.snr.Sound ∧
      ∀ sum ∈ (updateAntenna env frame first i antenna).sums, -2 ^ 15 ≤ sum ∧ sum < 2 ^ 15 := by
  obtain ⟨snrSound, snrSums⟩ := @updateSnr_sound env frame first i _ snr
  cases taken : (updateAntenna env frame first i antenna).taken with
  | none =>
    rw [updateAntenna_none taken]
    unfold updateAntenna at taken ⊢
    dsimp only at taken ⊢
    by_cases some : frame.rssi i ≠ 0
    · rw [if_pos some] at taken
      cases taken
    · rw [if_neg some]
      exact ⟨rssi, snrSound, snrSums⟩
  | some last =>
    obtain ⟨range, sampled⟩ := updateAntenna_taken taken
    rw [sampled]
    unfold updateAntenna at taken ⊢
    dsimp only at taken ⊢
    by_cases some : frame.rssi i ≠ 0
    · rw [if_pos some] at taken ⊢
      obtain rfl := Option.some.inj taken
      exact ⟨rssi.sample first range, snrSound,
        List.forall_mem_append.mpr ⟨snrSums, sum_bounds rssi first range⟩⟩
    · rw [if_neg some] at taken
      cases taken

end update

/-- What every run keeps. -/
structure RssiRun.Sound (r : RssiRun) : Prop where
  rssi : ∀ i, (r.sample i).rssi.Sound
  snr : ∀ i, (r.sample i).snr.Sound
  sums : ∀ sum ∈ r.sums, -2 ^ 15 ≤ sum ∧ sum < 2 ^ 15
  untouched : ∀ i, r.taken i = [] → (r.sample i).rssi = ⟨0, 0, 0⟩
  between : ∀ i, r.taken i ≠ [] → Smoothing.Between 8 (r.taken i) (r.sample i).rssi.avgX8

theorem zero_sound : Averaged.Sound ⟨0, 0, 0⟩ := ⟨by decide, by decide, rfl⟩

theorem rssiStart_sound : rssiStart.Sound where
  rssi _ := zero_sound
  snr _ := zero_sound
  sums _ member := absurd member List.not_mem_nil
  untouched _ _ := rfl
  between _ some := absurd rfl some

theorem RssiRun.Sound.averages {r : RssiRun} (sound : r.Sound) : r.Averages where
  low i some := by
    rw [(sound.rssi i).avg]
    exact ((sound.between i some).average (by decide)).1
  high i some := by
    rw [(sound.rssi i).avg]
    exact ((sound.between i some).average (by decide)).2
  sums := sound.sums

/-- The accumulator of an antenna behind a sample that starts its average or goes on with it. -/
theorem between_sample {averaged : Averaged} {taken : List Int} {first : Bool} {last : Int}
    (sound : averaged.Sound) (range : -128 ≤ last ∧ last ≤ 127)
    (between : taken ≠ [] → Smoothing.Between 8 taken averaged.avgX8)
    (untouched : taken = [] → averaged = ⟨0, 0, 0⟩)
    (together : taken = [] → first = true ∨ last = 0 ∨ last = -1) :
    Smoothing.Between 8 (taken ++ [last]) (averaged.sample first last).avgX8 := by
  rw [sound.sample_avgX8 first range, sound.sum_eq]
  split_ifs with initial
  · exact (Smoothing.between_start (by decide) last).mono (List.subset_append_right _ _)
  · by_cases empty : taken = []
    · have zero : averaged.avgX8 = 0 := by rw [untouched empty]
      have small := (together empty).resolve_left initial
      rw [empty, zero, List.nil_append]
      have next : Smoothing.next 8 0 last = last := by simp [Smoothing.next]
      rw [next]
      refine ⟨⟨last, List.mem_singleton_self _, ?_⟩, ⟨last, List.mem_singleton_self _, ?_⟩⟩
      · omega
      · omega
    · exact (between empty).next (by decide) last

theorem rssiStep_sound {r : RssiRun} {event : RssiEnv × RxSignal} (sound : r.Sound)
    (together : StartsTogether r event) : (rssiStep r event).Sound := by
  have updated (i : Fin 3) : _ ∧ _ ∧ _ :=
    @updateAntenna_sound event.1 event.2 (bInitial r.sample) i _ (sound.rssi i) (sound.snr i)
  refine ⟨fun i => (updated i).1, fun i => (updated i).2.1, ?_, fun i empty => ?_, fun i some => ?_⟩
  · exact List.forall_mem_append.mpr ⟨List.forall_mem_append.mpr ⟨List.forall_mem_append.mpr
      ⟨sound.sums, (updated 0).2.2⟩, (updated 1).2.2⟩, (updated 2).2.2⟩
  · obtain ⟨before, none⟩ := List.append_eq_nil_iff.mp empty
    exact (updateAntenna_none (Option.toList_eq_nil_iff.mp none)).trans (sound.untouched i before)
  · cases taken : (updateRssiSample event.1 event.2 r.sample i).taken with
    | none =>
      have same : (rssiStep r event).taken i = r.taken i := by
        simp [rssiStep, taken]
      have kept : ((rssiStep r event).sample i).rssi = (r.sample i).rssi := updateAntenna_none taken
      rw [same] at some ⊢
      rw [kept]
      exact sound.between i some
    | some last =>
      obtain ⟨range, sampled⟩ := updateAntenna_taken taken
      have more : (rssiStep r event).taken i = r.taken i ++ [last] := by
        simp [rssiStep, taken]
      have same : ((rssiStep r event).sample i).rssi =
        (r.sample i).rssi.sample (bInitial r.sample) last := sampled
      rw [more, same]
      exact between_sample (sound.rssi i) range (sound.between i) (sound.untouched i)
        fun empty => together i empty last (Option.mem_def.mpr taken)

/-- An antenna that comes later and alone has an eighth of its first sample for its average. -/
theorem rssiStep_breaks {r : RssiRun} {event : RssiEnv × RxSignal} (sound : r.Sound)
    (apart : ¬ StartsTogether r event) : ¬ (rssiStep r event).Averages := by
  unfold StartsTogether at apart
  push Not at apart
  obtain ⟨i, empty, last, taken, late, zero, one⟩ := apart
  intro averages
  obtain ⟨range, sampled⟩ := updateAntenna_taken (Option.mem_def.mp taken)
  have only : (rssiStep r event).taken i = [last] := by
    simp [rssiStep, Option.mem_def.mp taken, empty]
  have average : ((rssiStep r event).sample i).rssi.avg = last / 8 := by
    have new : ((rssiStep r event).sample i).rssi =
      (r.sample i).rssi.sample (bInitial r.sample) last := sampled
    rw [new, ((sound.rssi i).sample _ range).avg, (sound.rssi i).sample_avgX8 _ range,
      sound.untouched i empty, Averaged.sum, if_neg late]
    simp
  obtain ⟨low, known, below⟩ := averages.low i (by simp [only])
  obtain ⟨high, known', above⟩ := averages.high i (by simp [only])
  rw [only, List.mem_singleton] at known known'
  rw [average, known] at below
  rw [average, known'] at above
  omega

/-- In every run from a zeroed record the averages are right exactly when no antenna starts its
average behind the first one. -/
theorem rssi_averages_iff (events : List (RssiEnv × RxSignal)) :
    (∀ n, (run rssiStep rssiStart (events.take n)).Averages) ↔
      Throughout rssiStep StartsTogether rssiStart events :=
  forall_take_iff_throughout RssiRun.Sound RssiRun.Averages (fun _ sound => sound.averages)
    (fun _ _ sound together => rssiStep_sound sound together)
    (fun _ _ sound apart => rssiStep_breaks sound apart) rssiStart_sound events

def plainRssiEnv : RssiEnv where
  isMt76x2U := true
  lnaType := 0
  channel := 1
  latchRfChannel := 1
  bLnaGain := 0
  aLnaGain0 := 0
  aLnaGain1 := 0
  aLnaGain2 := 0
  aRssiOffset _ := 0
  bgRssiOffset _ := 0
  snrFormula := 2

/-- A frame of -60 dBm on one antenna only. -/
def oneAntenna (i : Fin 3) : RxSignal where
  rssi j := if j = i then -60 else 0
  snr _ := 0
  phymode := 2
  bw := 0

/-- The second antenna comes later: its average is -8. -/
theorem laterAntenna_not_average : ¬ (run rssiStep rssiStart
    [(plainRssiEnv, oneAntenna 0), (plainRssiEnv, oneAntenna 1)]).Averages := by
  intro averages
  obtain ⟨sample, known, above⟩ := averages.high 1 (by decide)
  revert sample
  decide

end Mt7612u.Receive
