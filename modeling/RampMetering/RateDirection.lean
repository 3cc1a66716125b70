import RampMetering.MeterRate

/-! The metering law as arithmetic: it divides by no zero, its answer lies between the floor of
the time and the cap, and it moves away from the current rate on the side that `occ_out` asks
for, as far as floor and cap allow. -/

namespace RampMetering

/-- A division that fails where C gives it no meaning. -/
def divide (x y : ℚ) : Option ℚ := if y = 0 then none else some (x / y)

theorem divide_of_ne (x : ℚ) {y : ℚ} (ne : y ≠ 0) : divide x y = some (x / y) := if_neg ne

def occOutChecked (r : RampVariables) : Option ℚ := do
  let occIn ← divide (r.mainlineAvgOccupancy 1 + r.mainlineAvgOccupancy 2) 2
  let perHour ← divide 3600 rampDataInterval
  let flowIn := ((r.mainlineAvgVolume 1 + r.mainlineAvgVolume 2 : ℤ) : ℚ) * perHour
  let flowRamp := ((r.passageVol newest 1 + r.passageVol newest 2 : ℤ) : ℚ) * perHour
  if occIn < occCritical then
    let ratio ← divide flowRamp (max flowIn (1 / 1000))
    let lanes ← divide ((1 + ratio) * inLanes) outLanes
    pure (alpha * (occIn * lanes))
  else
    let upstream ← divide (occIn * inLanes) outLanes
    let wave ← divide (vehicleEffectiveLength * flowRamp) shochWaveSpeed
    let wave ← divide wave outLanes
    pure (alineaGamma * (upstream + wave) + (1 - alineaGamma) * r.prevOccOut)

def getALINEARateChecked (r : RampVariables) (firstTime secondTime : ℚ) :
    Option (RampVariables × ℚ) := do
  let occOut ← occOutChecked r
  let currentRate ← divide (r.meterRate newest 1 + r.meterRate newest 2) 2
  let newRate := currentRate + alineaKr * (occCritical - occOut)
  let newRate := applyCap (applyFloor firstTime secondTime (limitChange currentRate newRate))
  pure ({ r with prevOccOut := occOut }, newRate)

theorem occOutChecked_eq (r : RampVariables) : occOutChecked r = some (occOut r) := by
  have interval := rampDataInterval_pos.ne'
  have out : outLanes ≠ 0 := by norm_num [outLanes]
  have speed : shochWaveSpeed ≠ 0 := by norm_num [shochWaveSpeed]
  have flow : ∀ x : ℚ, max x (1 / 1000) ≠ 0 := fun x =>
    (lt_max_of_lt_right (by norm_num)).ne'
  rw [occOutChecked, divide_of_ne _ two_ne_zero, divide_of_ne _ interval]
  simp only [Option.bind_eq_bind, Option.bind_some, divide_of_ne _ out, divide_of_ne _ speed,
    divide_of_ne _ (flow _)]
  exact (apply_ite some _ _ _).symm

theorem getALINEARateChecked_eq (r : RampVariables) (firstTime secondTime : ℚ) :
    getALINEARateChecked r firstTime secondTime = some (getALINEARate r firstTime secondTime) := by
  rw [getALINEARateChecked, occOutChecked_eq, divide_of_ne _ two_ne_zero]
  rfl

theorem floorAt_lastReading {c : Clock} (ordered : c.alineaFirst ≤ c.alineaSecond) :
    floorAt c.alineaFirst c.alineaSecond = meterFloor (lastReading c) := by
  rw [floorAt_eq, if_neg fun back => (back.1.trans ordered).not_gt back.2]

section direction

variable {current out : ℚ} (nonneg : 0 ≤ current)

include nonneg

theorem limitChange_le (high : occCritical ≤ out) :
    limitChange current (current + alineaKr * (occCritical - out)) ≤ current := by
  have correction : alineaKr * (occCritical - out) ≤ 0 :=
    mul_nonpos_of_nonneg_of_nonpos (by norm_num [alineaKr]) (by linarith)
  rw [limitChange_eq]
  refine max_le ?_ ((min_le_right _ _).trans (by linarith))
  unfold rampMeterChangeThreshold
  linarith

theorem le_limitChange (low : out ≤ occCritical) :
    current ≤ limitChange current (current + alineaKr * (occCritical - out)) := by
  have correction : 0 ≤ alineaKr * (occCritical - out) :=
    mul_nonneg (by norm_num [alineaKr]) (by linarith)
  rw [limitChange_eq]
  refine le_max_of_le_right (le_min ?_ (by linarith))
  unfold rampMeterChangeThreshold
  linarith

end direction

/-- The rate is computed without a division by zero, lies between the floor of the last
reading and the cap, and follows `occ_out`. -/
theorem getALINEARate_directed (r : RampVariables) (c : Clock)
    (rates : ∀ lane, 0 ≤ r.meterRate newest lane)
    (ordered : c.alineaFirst ≤ c.alineaSecond) :
    let called := getALINEARate r c.alineaFirst c.alineaSecond
    getALINEARateChecked r c.alineaFirst c.alineaSecond = some called ∧
      (meterFloor (lastReading c) ≤ called.2 ∧ called.2 ≤ alineaUpperBound) ∧
      (occCritical ≤ called.1.prevOccOut →
        called.2 ≤ max (currentRate r) (meterFloor (lastReading c))) ∧
      (called.1.prevOccOut ≤ occCritical →
        min (currentRate r) alineaUpperBound ≤ called.2) := by
  have floor := meterFloor_within (lastReading c)
  have nonneg : 0 ≤ currentRate r := by
    unfold currentRate
    linarith [rates 1, rates 2]
  refine ⟨getALINEARateChecked_eq r _ _, ?_⟩
  rw [getALINEARate_eq, floorAt_lastReading ordered]
  refine ⟨⟨le_min floor.2.le (le_max_left _ _), min_le_left _ _⟩, fun high => ?_, fun low => ?_⟩
  · refine (min_le_right _ _).trans (max_le (le_max_right _ _) ?_)
    exact (limitChange_le nonneg high).trans (le_max_left _ _)
  · refine le_min (min_le_right _ _) ((min_le_left _ _).trans ?_)
    exact (le_limitChange nonneg low).trans (le_max_right _ _)

theorem getALINEARate_directed_empty_mainline :
    (getALINEARateChecked staticRamp plantime1 plantime1).isSome = true ∧
      660 ≤ (getALINEARate staticRamp plantime1 plantime1).2 := by
  obtain ⟨divides, ⟨above, -⟩, -⟩ := getALINEARate_directed staticRamp
    ⟨plantime1, plantime1, 0, 0, 0⟩ (by decide) le_rfl
  have floor : meterFloor (lastReading ⟨plantime1, plantime1, 0, 0, 0⟩) = 660 := by
    decide +kernel
  rw [floor] at above
  exact ⟨Option.isSome_of_eq_some divides, above⟩

end RampMetering
