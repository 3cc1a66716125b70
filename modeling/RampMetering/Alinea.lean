import RampMetering.Variables
import Mathlib.Algebra.Order.Ring.Rat
import Mathlib.Tactic.Linarith

/-! `get_ALINEA_rate`: the downstream occupancy it estimates, the correction of the current
rate, and the three clamps it applies to the result, in the source's order. -/

namespace RampMetering

def newest : Fin numberRampData := Fin.last 5

def occIn (r : RampVariables) : ℚ := (r.mainlineAvgOccupancy 1 + r.mainlineAvgOccupancy 2) / 2

def flowIn (r : RampVariables) : ℚ :=
  ((r.mainlineAvgVolume 1 + r.mainlineAvgVolume 2 : ℤ) : ℚ) * (3600 / rampDataInterval)

def flowRamp (r : RampVariables) : ℚ :=
  ((r.passageVol newest 1 + r.passageVol newest 2 : ℤ) : ℚ) * (3600 / rampDataInterval)

def occOut (r : RampVariables) : ℚ :=
  if occIn r < occCritical then
    alpha * (occIn r * ((1 + flowRamp r / max (flowIn r) (1 / 1000)) * inLanes / outLanes))
  else
    let occOutPrime := occIn r * inLanes / outLanes +
      vehicleEffectiveLength * flowRamp r / shochWaveSpeed / outLanes
    alineaGamma * occOutPrime + (1 - alineaGamma) * r.prevOccOut

def currentRate (r : RampVariables) : ℚ := (r.meterRate newest 1 + r.meterRate newest 2) / 2

def limitChange (current newRate : ℚ) : ℚ :=
  let newRate :=
    if newRate > current * (1 + rampMeterChangeThreshold) then
      current * (1 + rampMeterChangeThreshold)
    else newRate
  if newRate < current * (1 - rampMeterChangeThreshold) then
    current * (1 - rampMeterChangeThreshold)
  else newRate

def raiseTo (bound newRate : ℚ) : ℚ := if newRate < bound then bound else newRate

/-- The clock is read once, and a second time only when the first reading is past `PLANTIME1`. -/
def applyFloor (firstTime secondTime newRate : ℚ) : ℚ :=
  if firstTime < plantime1 then raiseTo meterLowerBound1 newRate
  else if secondTime < plantime2 then raiseTo meterLowerBound2 newRate
  else raiseTo meterLowerBound3 newRate

def applyCap (newRate : ℚ) : ℚ :=
  if newRate > alineaUpperBound then alineaUpperBound else newRate

def getALINEARate (r : RampVariables) (firstTime secondTime : ℚ) : RampVariables × ℚ :=
  let newRate := currentRate r + alineaKr * (occCritical - occOut r)
  let newRate := applyCap (applyFloor firstTime secondTime (limitChange (currentRate r) newRate))
  ({ r with prevOccOut := occOut r }, newRate)

def floorAt (firstTime secondTime : ℚ) : ℚ :=
  if firstTime < plantime1 then meterLowerBound1
  else if secondTime < plantime2 then meterLowerBound2
  else meterLowerBound3

theorem floorAt_within (firstTime secondTime : ℚ) :
    meterLowerBound3 ≤ floorAt firstTime secondTime ∧
      floorAt firstTime secondTime ≤ alineaUpperBound := by
  unfold floorAt meterLowerBound1 meterLowerBound2 meterLowerBound3 alineaUpperBound
  split_ifs <;> norm_num

theorem raiseTo_eq (bound newRate : ℚ) : raiseTo bound newRate = max bound newRate := by
  unfold raiseTo
  split_ifs with below
  · exact (max_eq_left below.le).symm
  · exact (max_eq_right (not_lt.mp below)).symm

theorem applyFloor_eq (firstTime secondTime newRate : ℚ) :
    applyFloor firstTime secondTime newRate = max (floorAt firstTime secondTime) newRate := by
  unfold applyFloor floorAt
  split_ifs <;> exact raiseTo_eq _ _

theorem lowerTo_eq (bound newRate : ℚ) :
    (if newRate > bound then bound else newRate) = min bound newRate := by
  split_ifs with above
  · exact (min_eq_left above.le).symm
  · exact (min_eq_right (not_lt.mp above)).symm

theorem applyCap_eq (newRate : ℚ) : applyCap newRate = min alineaUpperBound newRate :=
  lowerTo_eq _ _

theorem limitChange_eq (current newRate : ℚ) :
    limitChange current newRate =
      max (current * (1 - rampMeterChangeThreshold))
        (min (current * (1 + rampMeterChangeThreshold)) newRate) := by
  rw [← lowerTo_eq, ← raiseTo_eq]
  rfl

theorem limitChange_within {current : ℚ} (nonneg : 0 ≤ current) (newRate : ℚ) :
    current * (1 - rampMeterChangeThreshold) ≤ limitChange current newRate ∧
      limitChange current newRate ≤ current * (1 + rampMeterChangeThreshold) := by
  rw [limitChange_eq]
  refine ⟨le_max_left _ _, max_le ?_ (min_le_left _ _)⟩
  unfold rampMeterChangeThreshold
  linarith

/-- The rate in closed form: slew, floor, cap, in this order. -/
theorem getALINEARate_eq (r : RampVariables) (firstTime secondTime : ℚ) :
    (getALINEARate r firstTime secondTime).2 =
      min alineaUpperBound (max (floorAt firstTime secondTime)
        (limitChange (currentRate r) (currentRate r + alineaKr * (occCritical - occOut r)))) := by
  rw [← applyFloor_eq, ← applyCap_eq]
  rfl

theorem getALINEARate_within (r : RampVariables) (firstTime secondTime : ℚ) :
    meterLowerBound3 ≤ (getALINEARate r firstTime secondTime).2 ∧
      (getALINEARate r firstTime secondTime).2 ≤ alineaUpperBound := by
  have floor := floorAt_within firstTime secondTime
  rw [getALINEARate_eq]
  exact ⟨le_min (floor.1.trans floor.2) (floor.1.trans (le_max_left _ _)), min_le_left _ _⟩

end RampMetering
