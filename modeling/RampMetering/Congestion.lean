import RampMetering.Alinea
import Mathlib.Algebra.Order.Field.Basic
import Mathlib.Tactic.Ring

/-! More occupancy upstream, a lower metering rate. On either side of `OCC_CRITICAL` the law
does this; `occ_out` jumps at the threshold, down as well as up, and a jump down raises the
rate unless the limits on the rate hide it. -/

namespace RampMetering

def rateFor (floor current out : ℚ) : ℚ :=
  min alineaUpperBound (max floor
    (limitChange current (current + alineaKr * (occCritical - out))))

theorem rateFor_antitone (floor current : ℚ) : Antitone (rateFor floor current) := by
  intro out out' less
  have step : current + alineaKr * (occCritical - out') ≤
      current + alineaKr * (occCritical - out) := by
    unfold alineaKr
    linarith
  unfold rateFor
  rw [limitChange_eq, limitChange_eq]
  exact min_le_min_left _ (max_le_max_left _ (max_le_max_left _ (min_le_min_left _ step)))

theorem rateFor_eq (floor current out : ℚ) :
    rateFor floor current out = min 900 (max floor
      (max (9 / 10 * current) (min (11 / 10 * current) (current + 40 * (8 - out))))) := by
  have slow : current * (1 - rampMeterChangeThreshold) = 9 / 10 * current := by
    unfold rampMeterChangeThreshold
    ring
  have fast : current * (1 + rampMeterChangeThreshold) = 11 / 10 * current := by
    unfold rampMeterChangeThreshold
    ring
  rw [rateFor, limitChange_eq, slow, fast]
  rfl

theorem rateFor_falling (floor current : ℚ) {out : ℚ} (far : 21 / 2 ≤ out) :
    rateFor floor current out = min 900 (max floor (9 / 10 * current)) := by
  rw [rateFor_eq]
  by_cases moderate : current ≤ 1000
  · have slewed : min (11 / 10 * current) (current + 40 * (8 - out)) ≤ 9 / 10 * current :=
      (min_le_right _ _).trans (by linarith)
    rw [max_eq_left slewed]
  · have capped : 900 ≤ 9 / 10 * current := by linarith
    rw [min_eq_left (capped.trans ((le_max_left _ _).trans (le_max_right _ _))),
      min_eq_left (capped.trans (le_max_right _ _))]

theorem rateFor_rising (floor : ℚ) {current out : ℚ} (nonneg : 0 ≤ current)
    (far : out ≤ 131 / 22) :
    rateFor floor current out = min 900 (max floor (11 / 10 * current)) := by
  rw [rateFor_eq]
  by_cases moderate : current ≤ 9000 / 11
  · have slewed : min (11 / 10 * current) (current + 40 * (8 - out)) = 11 / 10 * current :=
      min_eq_left (by linarith)
    have upward : 9 / 10 * current ≤ 11 / 10 * current := by linarith
    rw [slewed, max_eq_right upward]
  · have capped : 900 ≤ 11 / 10 * current := by linarith
    have risen : 900 ≤ min (11 / 10 * current) (current + 40 * (8 - out)) :=
      le_min capped (by linarith)
    rw [min_eq_left (risen.trans ((le_max_right _ _).trans (le_max_right _ _))),
      min_eq_left (capped.trans (le_max_right _ _))]

theorem exists_current_of_gap {out out' : ℚ} (less : out' < out) (near' : out' < 21 / 2)
    (near : 131 / 22 < out) :
    ∃ current ≥ 0, rateFor meterLowerBound3 current out <
      rateFor meterLowerBound3 current out' := by
  have room : max 700 (max (400 * (8 - out)) (400 * (out' - 8))) <
      min 1000 (900 + 40 * (out - 8)) := by
    rw [max_lt_iff, max_lt_iff, lt_min_iff, lt_min_iff, lt_min_iff]
    exact ⟨⟨by norm_num, by linarith⟩, ⟨by linarith, by linarith⟩, by linarith, by linarith⟩
  obtain ⟨current, low, high⟩ := exists_between room
  rw [max_lt_iff, max_lt_iff] at low
  rw [lt_min_iff] at high
  obtain ⟨moderate, rising, falling⟩ := low
  refine ⟨current, by linarith, ?_⟩
  rw [rateFor_eq, rateFor_eq, meterLowerBound3]
  have raised : 9 / 10 * current <
      min (11 / 10 * current) (current + 40 * (8 - out')) :=
    lt_min (by linarith) (by linarith)
  have lower : min (11 / 10 * current) (current + 40 * (8 - out)) <
      min (11 / 10 * current) (current + 40 * (8 - out')) := by
    rw [min_eq_right (by linarith)]
    exact lt_min (by linarith) (by linarith)
  have uncapped : min (11 / 10 * current) (current + 40 * (8 - out)) < 900 :=
    (min_le_right _ _).trans_lt (by linarith)
  rw [max_eq_right raised.le]
  refine lt_min ((min_le_right _ _).trans_lt ?_) ((min_le_right _ _).trans_lt ?_)
  · exact max_lt (by norm_num) (max_lt (by linarith) uncapped)
  · refine max_lt (lt_max_of_lt_right ?_) (lt_max_of_lt_right (max_lt raised lower))
    exact lt_trans (by linarith) raised

/-- A lower `occ_out` shows in the rate at some current rate, except at the two ends. -/
theorem rateFor_le_iff (out out' : ℚ) :
    (∀ current ≥ 0, ∀ firstTime secondTime,
        rateFor (floorAt firstTime secondTime) current out' ≤
          rateFor (floorAt firstTime secondTime) current out) ↔
      out ≤ out' ∨ 21 / 2 ≤ out' ∨ out ≤ 131 / 22 := by
  constructor
  · intro falls
    by_contra! gap
    obtain ⟨less, near', near⟩ := gap
    obtain ⟨current, nonneg, risen⟩ := exists_current_of_gap less near' near
    have late : floorAt plantime1 plantime2 = meterLowerBound3 := by simp [floorAt]
    have kept := falls current nonneg plantime1 plantime2
    rw [late] at kept
    exact risen.not_ge kept
  · intro close current nonneg firstTime secondTime
    by_cases less : out ≤ out'
    · exact rateFor_antitone _ _ less
    rcases close.resolve_left less with far | far
    · rw [rateFor_falling _ _ far, rateFor_falling _ _ (by linarith)]
    · rw [rateFor_rising _ nonneg far, rateFor_rising _ nonneg (by linarith)]

section estimates

variable (r : RampVariables)

def freeFlowOut (occ : ℚ) : ℚ :=
  alpha * (occ * ((1 + flowRamp r / max (flowIn r) (1 / 1000)) * inLanes / outLanes))

def congestedOut (occ : ℚ) : ℚ :=
  alineaGamma * (occ * inLanes / outLanes +
    vehicleEffectiveLength * flowRamp r / shochWaveSpeed / outLanes) +
      (1 - alineaGamma) * r.prevOccOut

theorem occOut_eq : occOut r =
    if occIn r < occCritical then freeFlowOut r (occIn r) else congestedOut r (occIn r) := rfl

theorem freeFlowOut_mono (ramp : 0 ≤ flowRamp r) : Monotone (freeFlowOut r) := by
  intro occ occ' more
  have ratio : 0 ≤ flowRamp r / max (flowIn r) (1 / 1000) :=
    div_nonneg ramp (le_max_of_le_right (by norm_num))
  simp only [freeFlowOut, alpha, inLanes, outLanes]
  rw [one_mul, one_mul, mul_div_assoc, div_self (by norm_num), mul_one]
  exact mul_le_mul_of_nonneg_right more (by linarith)

theorem congestedOut_mono : Monotone (congestedOut r) := by
  intro occ occ' more
  simp only [congestedOut, alineaGamma, inLanes, outLanes]
  linarith

end estimates

theorem getALINEARate_eq_rateFor (r : RampVariables) (firstTime secondTime : ℚ) :
    (getALINEARate r firstTime secondTime).2 =
      rateFor (floorAt firstTime secondTime) (currentRate r) (occOut r) :=
  getALINEARate_eq r firstTime secondTime

section law

variable (r : RampVariables) (occupancy : Lanes ℚ)

def NeverRewards : Prop :=
  ∀ rates : History (Lanes ℚ), (∀ lane, 0 ≤ rates newest lane) → ∀ firstTime secondTime,
    (getALINEARate { r with mainlineAvgOccupancy := occupancy, meterRate := rates }
        firstTime secondTime).2 ≤
      (getALINEARate { r with meterRate := rates } firstTime secondTime).2

theorem neverRewards_iff_rateFor :
    NeverRewards r occupancy ↔ ∀ current ≥ 0, ∀ firstTime secondTime,
      rateFor (floorAt firstTime secondTime) current
          (occOut { r with mainlineAvgOccupancy := occupancy }) ≤
        rateFor (floorAt firstTime secondTime) current (occOut r) := by
  unfold NeverRewards
  simp only [getALINEARate_eq_rateFor]
  constructor
  · intro law current nonneg firstTime secondTime
    have held := law (fun _ _ => current) (fun _ => nonneg) firstTime secondTime
    have mean : (current + current) / 2 = current := add_self_div_two current
    simp only [currentRate, mean] at held
    exact held
  · intro law rates nonneg firstTime secondTime
    have mean : 0 ≤ (rates newest 1 + rates newest 2) / 2 := by
      linarith [nonneg 1, nonneg 2]
    exact law _ mean firstTime secondTime

/-- Larger occupancies never raise the rate exactly when they stay on one side of
`OCC_CRITICAL`, or the estimate does not fall across it, or the fall is beyond what the limit
on the change of the rate lets through. -/
theorem neverRewards_iff (passage : ∀ lane, 0 ≤ r.passageVol newest lane)
    (more : occIn r < (occupancy 1 + occupancy 2) / 2) :
    NeverRewards r occupancy ↔
      ((occupancy 1 + occupancy 2) / 2 < occCritical ∨ occCritical ≤ occIn r) ∨
        freeFlowOut r (occIn r) ≤ congestedOut r ((occupancy 1 + occupancy 2) / 2) ∨
        21 / 2 ≤ congestedOut r ((occupancy 1 + occupancy 2) / 2) ∨
        freeFlowOut r (occIn r) ≤ 131 / 22 := by
  have ramp : 0 ≤ flowRamp r :=
    mul_nonneg (Int.cast_nonneg (add_nonneg (passage 1) (passage 2)))
      (div_nonneg (by norm_num) rampDataInterval_pos.le)
  have after : occOut { r with mainlineAvgOccupancy := occupancy } =
      if (occupancy 1 + occupancy 2) / 2 < occCritical then
        freeFlowOut r ((occupancy 1 + occupancy 2) / 2)
      else congestedOut r ((occupancy 1 + occupancy 2) / 2) := rfl
  rw [neverRewards_iff_rateFor, rateFor_le_iff, after, occOut_eq]
  by_cases below : (occupancy 1 + occupancy 2) / 2 < occCritical
  · have order := freeFlowOut_mono r ramp more.le
    simp [below, more.trans below, order]
  by_cases above : occCritical ≤ occIn r
  · have order := congestedOut_mono r more.le
    simp [below, above, above.not_gt, order]
  · simp [below, above, not_le.mp above]

end law

def busyRamp : RampVariables :=
  { staticRamp with
    passageVol := fun _ _ => 15
    mainlineAvgVolume := fun _ => 15
    mainlineAvgOccupancy := fun _ => 79 / 10
    meterRate := fun _ _ => 800 }

theorem busyRamp_neverRewards :
    (∀ lane, 0 ≤ busyRamp.passageVol newest lane) ∧ occIn busyRamp < (79 / 10 + 795 / 100) / 2 ∧
      NeverRewards busyRamp (fun lane => if lane = 1 then 79 / 10 else 795 / 100) := by
  have passage : ∀ lane, 0 ≤ busyRamp.passageVol newest lane := by decide
  have more : occIn busyRamp < (79 / 10 + 795 / 100) / 2 := by decide +kernel
  exact ⟨passage, more, (neverRewards_iff busyRamp
    (fun lane => if lane = 1 then 79 / 10 else 795 / 100) passage (by decide +kernel)).mpr
      (Or.inl (Or.inl (by decide +kernel)))⟩

/-- Across the threshold, in the evening: at an occupancy of 7.9 the ramp gets 720 vehicles an
hour, at 8 it gets 848. -/
theorem rate_rises_across_critical :
    occIn busyRamp < occIn { busyRamp with mainlineAvgOccupancy := fun _ => 8 } ∧
    (getALINEARate busyRamp plantime2 plantime2).2 = 720 ∧
    (getALINEARate { busyRamp with mainlineAvgOccupancy := fun _ => 8 } plantime2 plantime2).2 =
      848 := by
  decide +kernel

end RampMetering
