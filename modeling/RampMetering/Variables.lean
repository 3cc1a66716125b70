import RampMetering.Lib.Rounding
import Mathlib.Data.Rat.Defs
import Mathlib.Data.Fin.VecNotation

/-! The constants and the two records of `variables2.h`, in the build the header selects
(`USE_CONFIG_FILE` undefined), and how `init.c` fills the records. A C `float` is a rational
here. The occupancies compared with thresholds at a barrier are rounded to floats, other
arithmetic is exact. The parameters results below vary are the fields of `Tuning`, the header's
values their defaults. -/

namespace RampMetering

def maxGreenUpperbound : ℤ := 30
def maxGreenLowerbound : ℤ := 15
def rampLimit : ℚ := 76
def ltOccThreshold : ℚ := 15 / 100
def maxGreenChange : ℤ := 2
def rtReleaseOccThreshold : ℚ := 35 / 100
def maxSteps : ℤ := 100
def thresholdOccHealth : ℚ := 5 / 100
def thresholdVolHealth : ℚ := 1 / 10
def queueOccThresholdToActivateIntersection : ℚ := 30
def leftOccThresholdToActivateIntersection : ℚ := 3 / 10
def rightOccThresholdToActivateIntersection : ℚ := 3 / 10
def rampQueueThreshold : ℚ := rampLimit / 2

structure Tuning where
  cycleToActivateOverwrite : ℤ := 3
  cycleToRelease : ℤ := 3
  regularCycle : ℤ := 1
  overwriteCycle : ℤ := 1
  methodForRampQueue : ℤ := 3
  rounding : Rounding := .single

def shochWaveSpeed : ℚ := -15
def vehicleEffectiveLength : ℚ := 1 / 100
def alineaGamma : ℚ := 1
def alpha : ℚ := 1
def alineaUpperBound : ℚ := 900
def queueReset : Bool := false
def queueResetInterval : ℚ := 5 * 60
def rampExitFlowAdjustFactor : ℚ := 92 / 100
def rampMeterChangeThreshold : ℚ := 1 / 10
def plantime1 : ℚ := 17 * 3600 + 15 * 60
def plantime2 : ℚ := 17 * 3600 + 45 * 60
def meterLowerBound1 : ℚ := 720
def meterLowerBound2 : ℚ := 660
def meterLowerBound3 : ℚ := 600
def occCritical : ℚ := 8
def inLanes : ℚ := 2
def outLanes : ℚ := 2
def alineaKr : ℚ := 40

def maxrow : ℕ := 6000
abbrev maxcol : ℕ := 10

def phase5Signal : Fin maxcol := 0
def phase5Approach1 : Fin maxcol := 1
def phase5Approach2 : Fin maxcol := 2
def phase5Stopbar : Fin maxcol := 3
def phase8Signal : Fin maxcol := 4
def phase8Approach : Fin maxcol := 5
def phase8Stopbar : Fin maxcol := 6
def phase6Signal : Fin maxcol := 7
def phase7Signal : Fin maxcol := 8
def phase3Signal : Fin maxcol := 9

def rampDataInterval : ℚ := 30
def mainlineDetectorWorking : ℤ := 2
def mainlineDetectorDisable : ℤ := 1
def eps : ℚ := 1 / 1000
abbrev numberLane : ℕ := 3
abbrev numberRampData : ℕ := 6

theorem eps_nonneg : 0 ≤ eps := by decide +kernel

theorem rampDataInterval_pos : 0 < rampDataInterval := by decide +kernel

theorem rampExitFlowAdjustFactor_pos : 0 < rampExitFlowAdjustFactor := by decide +kernel

instance : @NeZero ℕ Zero.ofOfNat0 numberLane := ⟨Nat.succ_ne_zero 2⟩

abbrev Row := Fin maxcol → ℤ

/-- A matrix `int data[][MAXCOL]`, by row index. Of `realtime_data` only the rows below
`maxrow` are storage; `readRealTimeData` never writes another. -/
abbrev Matrix := ℕ → Row

abbrev Lanes (α : Type) := Fin numberLane → α

abbrev History (α : Type) := Fin numberRampData → α

structure SignalVariables where
  ltOcc : ℚ
  oldLtOcc : ℚ
  rtOcc : ℚ
  rampQueue : ℚ
  oldRampQueue : ℚ
  rtExceedNum : ℤ
  newMaxGreen : ℤ
  oldMaxGreen : ℤ
  lastSentMaxGreen : ℤ
  realtimeData : Matrix
  dataRow : ℤ
  regularRelease : Bool
  overwriteRelease : Bool
  regularRemainCycle : ℤ
  overwriteRemainCycle : ℤ
  cyclePassed : ℤ
  prevCycleTerminateTime : ℚ
  currentCycleTerminateTime : ℚ
  prevQueueResetTime : ℚ

structure RampVariables where
  mainlineLeadStatus : History (Lanes ℤ)
  mainlineTrailStatus : History (Lanes ℤ)
  mainlineLeadVol : History (Lanes ℤ)
  mainlineTrailVol : History (Lanes ℤ)
  mainlineLeadOcc : History (Lanes ℚ)
  mainlineTrailOcc : History (Lanes ℚ)
  passageVol : History (Lanes ℤ)
  demandVol : History (Lanes ℤ)
  queueVol : History (Lanes ℤ)
  queueOcc : History (Lanes ℚ)
  meterRate : History (Lanes ℚ)
  dataTime : History ℚ
  prevUpdateData : ℚ
  mainlineAvgOccupancy : Lanes ℚ
  mainlineAvgVolume : Lanes ℤ
  prevOccOut : ℚ
  newMeterRate : ℚ

/-- `signal_data` before `main` runs: static storage is zero. -/
def staticSignal : SignalVariables where
  ltOcc := 0
  oldLtOcc := 0
  rtOcc := 0
  rampQueue := 0
  oldRampQueue := 0
  rtExceedNum := 0
  newMaxGreen := 0
  oldMaxGreen := 0
  lastSentMaxGreen := 0
  realtimeData := fun _ _ => 0
  dataRow := 0
  regularRelease := false
  overwriteRelease := false
  regularRemainCycle := 0
  overwriteRemainCycle := 0
  cyclePassed := 0
  prevCycleTerminateTime := 0
  currentCycleTerminateTime := 0
  prevQueueResetTime := 0

def foundSignal (maxGreen1 : ℤ) : SignalVariables :=
  { staticSignal with newMaxGreen := maxGreen1 }

def staticRamp : RampVariables where
  mainlineLeadStatus := fun _ _ => 0
  mainlineTrailStatus := fun _ _ => 0
  mainlineLeadVol := fun _ _ => 0
  mainlineTrailVol := fun _ _ => 0
  mainlineLeadOcc := fun _ _ => 0
  mainlineTrailOcc := fun _ _ => 0
  passageVol := fun _ _ => 0
  demandVol := fun _ _ => 0
  queueVol := fun _ _ => 0
  queueOcc := fun _ _ => 0
  meterRate := fun _ _ => 0
  dataTime := fun _ => 0
  prevUpdateData := 0
  mainlineAvgOccupancy := fun _ => 0
  mainlineAvgVolume := fun _ => 0
  prevOccOut := 0
  newMeterRate := 0

def getInitRampQueue : ℚ := 0

/-- `new_max_green` is what `main` read from the database just before. -/
def initSignal (s : SignalVariables) : SignalVariables :=
  { s with
    lastSentMaxGreen := s.newMaxGreen
    oldMaxGreen := s.newMaxGreen
    oldRampQueue := getInitRampQueue
    regularRelease := false
    regularRemainCycle := 0
    overwriteRelease := false
    overwriteRemainCycle := 0
    cyclePassed := 0
    prevQueueResetTime := 0 }

def initRealtimedata (s : SignalVariables) : SignalVariables :=
  { s with
    realtimeData := fun _ _ => 0
    dataRow := -1
    prevCycleTerminateTime := 0
    currentCycleTerminateTime := 0 }

def startSignal (maxGreen1 : ℤ) : SignalVariables :=
  initRealtimedata (initSignal (foundSignal maxGreen1))

/-- `prev_update_data` and `new_meter_rate` keep what they were. -/
def initRampData (r : RampVariables) : RampVariables :=
  { r with
    mainlineLeadStatus := fun _ _ => 0
    mainlineTrailStatus := fun _ _ => 0
    mainlineLeadVol := fun _ _ => 0
    mainlineTrailVol := fun _ _ => 0
    mainlineLeadOcc := fun _ _ => 0
    mainlineTrailOcc := fun _ _ => 0
    passageVol := fun _ _ => 0
    demandVol := fun _ _ => 0
    queueVol := fun _ _ => 0
    queueOcc := fun _ _ => 0
    meterRate := fun _ _ => 0
    mainlineAvgOccupancy := fun _ => 0
    mainlineAvgVolume := fun _ => 0
    dataTime := fun _ => 0
    prevOccOut := 5 }

end RampMetering
