import Mathlib

/-! The time to the next beacon as `BeaconUpdateExec` takes it from the two halves of the TSF. -/

namespace Mt7612u.Ap.BeaconTimer

/-- A total kept in an accumulator that wraps at `base` has the residue of the total exactly when
what was lost is a multiple of the modulus. -/
theorem wrapped_mod_eq_iff (total base modulus : Nat) :
    total % base % modulus = total % modulus ↔ modulus ∣ base * (total / base) := by
  have lost : total - total % base = base * (total / base) := by
    have whole := Nat.div_add_mod total base
    omega
  calc
    total % base % modulus = total % modulus ↔ total % base ≡ total [MOD modulus] := Iff.rfl
    _ ↔ modulus ∣ total - total % base := Nat.modEq_iff_dvd' (Nat.mod_le total base)
    _ ↔ modulus ∣ base * (total / base) := by rw [lost]

/-- What the timer reads and writes of `CommonCfg`. -/
structure CommonCfg where
  beaconPeriod : BitVec 16
  beaconRemain : BitVec 32
  isUpdateBeacon : Bool
  /-- `BeaconUpdateTimer.TimerValue`, in milliseconds. -/
  timerValue : BitVec 32

/-- `TSF_TIMER_DW0` and `TSF_TIMER_DW1`. -/
structure LargeInteger where
  lowPart : BitVec 32
  highPart : BitVec 32

def LargeInteger.value (tsfTime : LargeInteger) : Nat :=
  tsfTime.highPart.toNat * 2 ^ 32 + tsfTime.lowPart.toNat

def period2US (beaconPeriod : BitVec 16) : BitVec 32 := beaconPeriod.setWidth 32 <<< 10

/-- The setup of `RTUSBBssBeaconStart`. -/
def rtusbBssBeaconStart (cfg : CommonCfg) : CommonCfg :=
  { cfg with beaconRemain := 0xffffffff % period2US cfg.beaconPeriod + 1 }

def delta (cfg : CommonCfg) (tsfTime : LargeInteger) : BitVec 32 :=
  let remainHigh := cfg.beaconRemain * tsfTime.highPart
  let remainLow := tsfTime.lowPart % period2US cfg.beaconPeriod
  let remain := (remainHigh + remainLow) % period2US cfg.beaconPeriod
  period2US cfg.beaconPeriod - remain

/-- `BeaconUpdateExec` from the reading of the TSF to the setting of the timer. -/
def beaconUpdateExec (cfg : CommonCfg) (tsfTime : LargeInteger) : CommonCfg :=
  let delta2MS := delta cfg tsfTime >>> 10
  if 150 < delta2MS then
    { cfg with timerValue := 100, isUpdateBeacon := false }
  else
    { cfg with timerValue := delta2MS + 10, isUpdateBeacon := true }

/-- The beacon period in microseconds. -/
def periodOf (beaconPeriod : BitVec 16) : Nat := beaconPeriod.toNat * 1024

/-- How often the exact sum of the two remainders passes 32 bits. -/
def wraps (beaconPeriod : BitVec 16) (tsfTime : LargeInteger) : Nat :=
  (((2 ^ 32 - 1) % periodOf beaconPeriod + 1) * tsfTime.highPart.toNat +
    tsfTime.lowPart.toNat % periodOf beaconPeriod) / 2 ^ 32

/-- The time to the next beacon is exact, within one period, and the timer is set to no more than
the period and its margin of ten milliseconds. -/
def OnTime (cfg : CommonCfg) (tsfTime : LargeInteger) : Prop :=
  (delta cfg tsfTime).toNat =
      periodOf cfg.beaconPeriod - tsfTime.value % periodOf cfg.beaconPeriod ∧
    (delta cfg tsfTime).toNat ≤ periodOf cfg.beaconPeriod ∧
    (beaconUpdateExec cfg tsfTime).timerValue.toNat ≤ cfg.beaconPeriod.toNat + 10

section Exact
variable (beaconPeriod : BitVec 16)

theorem period2US_toNat : (period2US beaconPeriod).toNat = periodOf beaconPeriod := by
  have small := beaconPeriod.isLt
  rw [period2US, BitVec.toNat_shiftLeft, BitVec.toNat_setWidth,
    Nat.mod_eq_of_lt (by omega : beaconPeriod.toNat < 2 ^ 32), Nat.shiftLeft_eq]
  exact Nat.mod_eq_of_lt (by omega)

theorem periodOf_lt : periodOf beaconPeriod < 2 ^ 26 := by
  have small := beaconPeriod.isLt
  unfold periodOf
  omega

variable {beaconPeriod}

theorem periodOf_pos (positive : 1 ≤ beaconPeriod.toNat) : 0 < periodOf beaconPeriod := by
  unfold periodOf
  omega

theorem beaconRemain_toNat (cfg : CommonCfg) (positive : 1 ≤ cfg.beaconPeriod.toNat) :
    (rtusbBssBeaconStart cfg).beaconRemain.toNat =
      (2 ^ 32 - 1) % periodOf cfg.beaconPeriod + 1 := by
  have below := Nat.mod_lt (2 ^ 32 - 1) (periodOf_pos positive)
  have small := periodOf_lt cfg.beaconPeriod
  have full : (0xffffffff : BitVec 32).toNat = 2 ^ 32 - 1 := by decide
  have one : (1 : BitVec 32).toNat = 1 := by decide
  simp only [rtusbBssBeaconStart, BitVec.toNat_add, BitVec.toNat_umod, period2US_toNat, full, one]
  exact Nat.mod_eq_of_lt (by omega)

/-- What one step of the high half adds, in the residues. -/
theorem value_mod (tsfTime : LargeInteger) :
    tsfTime.value % periodOf beaconPeriod =
      (((2 ^ 32 - 1) % periodOf beaconPeriod + 1) * tsfTime.highPart.toNat +
        tsfTime.lowPart.toNat % periodOf beaconPeriod) % periodOf beaconPeriod := by
  have carry : (2 ^ 32 : Nat) ≡ (2 ^ 32 - 1) % periodOf beaconPeriod + 1
      [MOD periodOf beaconPeriod] :=
    calc
      2 ^ 32 = (2 ^ 32 - 1) + 1 := by norm_num
      _ ≡ (2 ^ 32 - 1) % periodOf beaconPeriod + 1 [MOD periodOf beaconPeriod] :=
        (Nat.mod_modEq _ _).symm.add_right 1
  have high := (carry.mul_right tsfTime.highPart.toNat)
  have low := (Nat.mod_modEq tsfTime.lowPart.toNat (periodOf beaconPeriod)).symm
  unfold LargeInteger.value
  rw [Nat.mul_comm tsfTime.highPart.toNat]
  exact high.add low

variable (cfg : CommonCfg) (tsfTime : LargeInteger)

theorem delta_toNat (positive : 1 ≤ cfg.beaconPeriod.toNat) :
    (delta (rtusbBssBeaconStart cfg) tsfTime).toNat = periodOf cfg.beaconPeriod -
      (((2 ^ 32 - 1) % periodOf cfg.beaconPeriod + 1) * tsfTime.highPart.toNat +
        tsfTime.lowPart.toNat % periodOf cfg.beaconPeriod) % 2 ^ 32 %
          periodOf cfg.beaconPeriod := by
  have below := Nat.mod_lt ((((2 ^ 32 - 1) % periodOf cfg.beaconPeriod + 1) *
    tsfTime.highPart.toNat + tsfTime.lowPart.toNat % periodOf cfg.beaconPeriod) % 2 ^ 32)
    (periodOf_pos positive)
  have small := periodOf_lt cfg.beaconPeriod
  have same : (rtusbBssBeaconStart cfg).beaconPeriod = cfg.beaconPeriod := rfl
  have remain : (((rtusbBssBeaconStart cfg).beaconRemain * tsfTime.highPart +
      tsfTime.lowPart % period2US cfg.beaconPeriod) % period2US cfg.beaconPeriod).toNat =
      (((2 ^ 32 - 1) % periodOf cfg.beaconPeriod + 1) * tsfTime.highPart.toNat +
        tsfTime.lowPart.toNat % periodOf cfg.beaconPeriod) % 2 ^ 32 %
          periodOf cfg.beaconPeriod := by
    rw [BitVec.toNat_umod, BitVec.toNat_add, BitVec.toNat_mul, BitVec.toNat_umod, period2US_toNat,
      beaconRemain_toNat cfg positive, Nat.mod_add_mod]
  have fits : ((rtusbBssBeaconStart cfg).beaconRemain * tsfTime.highPart +
      tsfTime.lowPart % period2US cfg.beaconPeriod) % period2US cfg.beaconPeriod ≤
      period2US cfg.beaconPeriod := by
    rw [BitVec.le_def, remain, period2US_toNat]
    exact below.le
  simp only [delta, same]
  rw [BitVec.toNat_sub_of_le fits, remain, period2US_toNat]

theorem delta_le (positive : 1 ≤ cfg.beaconPeriod.toNat) :
    (delta (rtusbBssBeaconStart cfg) tsfTime).toNat ≤ periodOf cfg.beaconPeriod := by
  rw [delta_toNat cfg tsfTime positive]
  exact Nat.sub_le _ _

theorem timerValue_le (positive : 1 ≤ cfg.beaconPeriod.toNat) :
    (beaconUpdateExec (rtusbBssBeaconStart cfg) tsfTime).timerValue.toNat ≤
      cfg.beaconPeriod.toNat + 10 := by
  have within := delta_le cfg tsfTime positive
  have small := periodOf_lt cfg.beaconPeriod
  have shifted : (delta (rtusbBssBeaconStart cfg) tsfTime >>> 10).toNat =
      (delta (rtusbBssBeaconStart cfg) tsfTime).toNat / 1024 := by
    rw [BitVec.toNat_ushiftRight, Nat.shiftRight_eq_div_pow]
  have inTU : (delta (rtusbBssBeaconStart cfg) tsfTime >>> 10).toNat ≤
      cfg.beaconPeriod.toNat := by
    rw [shifted]
    unfold periodOf at within
    omega
  have far : (150 : BitVec 32).toNat = 150 := by decide
  have short : (100 : BitVec 32).toNat = 100 := by decide
  have margin : (10 : BitVec 32).toNat = 10 := by decide
  unfold beaconUpdateExec
  simp only
  split
  next late =>
    rw [BitVec.lt_def, far] at late
    rw [short]
    omega
  next =>
    rw [BitVec.toNat_add, margin]
    have wrapped := Nat.mod_le ((delta (rtusbBssBeaconStart cfg) tsfTime >>> 10).toNat + 10) (2 ^ 32)
    omega

/-- The 32-bit arithmetic is exact exactly when what the wraps lose is whole periods. -/
theorem beaconUpdateExec_onTime_iff (positive : 1 ≤ cfg.beaconPeriod.toNat) :
    OnTime (rtusbBssBeaconStart cfg) tsfTime ↔
      periodOf cfg.beaconPeriod ∣ 2 ^ 32 * wraps cfg.beaconPeriod tsfTime := by
  have below := fun total => Nat.mod_lt total (periodOf_pos positive)
  have same : (rtusbBssBeaconStart cfg).beaconPeriod = cfg.beaconPeriod := rfl
  unfold wraps
  rw [← wrapped_mod_eq_iff, ← value_mod]
  unfold OnTime
  rw [same, delta_toNat cfg tsfTime positive]
  constructor
  · intro onTime
    have exactly := onTime.1
    have first := below ((((2 ^ 32 - 1) % periodOf cfg.beaconPeriod + 1) *
      tsfTime.highPart.toNat + tsfTime.lowPart.toNat % periodOf cfg.beaconPeriod) % 2 ^ 32)
    have second := below tsfTime.value
    omega
  · intro equal
    exact ⟨by rw [equal], Nat.sub_le _ _, timerValue_le cfg tsfTime positive⟩

end Exact

/-- An uptime of 415 days and a beacon period of 999 units. -/
def longUptime : LargeInteger := ⟨0, 8356⟩

def unusualPeriod : CommonCfg := ⟨999, 0, true, 0⟩

theorem beaconUpdateExec_onTime_unusualPeriod :
    1 ≤ unusualPeriod.beaconPeriod.toNat ∧
      (OnTime (rtusbBssBeaconStart unusualPeriod) ⟨5, 8000⟩ ↔
        periodOf unusualPeriod.beaconPeriod ∣
          2 ^ 32 * wraps unusualPeriod.beaconPeriod ⟨5, 8000⟩) :=
  ⟨by decide, beaconUpdateExec_onTime_iff unusualPeriod ⟨5, 8000⟩ (by decide)⟩

theorem not_beaconUpdateExec_onTime :
    ¬∀ (cfg : CommonCfg) (tsfTime : LargeInteger), 1 ≤ cfg.beaconPeriod.toNat →
      OnTime (rtusbBssBeaconStart cfg) tsfTime := by
  intro always
  have exactly := (always unusualPeriod longUptime (by decide)).1
  exact absurd exactly (by decide)

end Mt7612u.Ap.BeaconTimer
