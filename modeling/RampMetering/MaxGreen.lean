import RampMetering.Detector

/-! What `control_compute.c` does at a barrier: the occupancies of the cycle just ended,
the three ways to decide whether the intersection control is activated, and the new
maximum green of phase 3 with its regular and overwrite releases. -/

namespace RampMetering

def getIntersectionMeasurement (f : Rounding) (s : SignalVariables) (currentTime : ℚ) :
    SignalVariables × Bool :=
  if checkRealtimeDataHealth s.realtimeData s.dataRow ≠ 0 then (s, false)
  else
    ({ s with
      oldRampQueue := s.rampQueue
      oldLtOcc := s.ltOcc
      ltOcc := f.round (f.round
        (getDetectorGreenOcc f s.realtimeData s.dataRow phase5Approach1 phase5Signal +
          getDetectorGreenOcc f s.realtimeData s.dataRow phase5Approach2 phase5Signal) / 2)
      rtOcc := getDetectorGreenOcc f s.realtimeData s.dataRow phase8Approach phase8Signal
      prevCycleTerminateTime := s.currentCycleTerminateTime
      currentCycleTerminateTime := currentTime }, true)

def needReduceMaxGreen (s : SignalVariables) : Bool := decide (s.ltOcc > ltOccThreshold)

/-- `queue_occ[i][lane]` for a row index that may run past its end: `meter_rate`, the next
member of the record and of the same shape, starts there. -/
def queueOccAt (r : RampVariables) (i : Fin (numberRampData + numberRampData))
    (lane : Fin numberLane) : ℚ :=
  Fin.addCases (fun i => r.queueOcc i lane) (fun i => r.meterRate i lane) i

/-- The row index is `NUMBER_RAMP_DATA`, as written. -/
def checkActivationViaQueueOcc (r : RampVariables) : Bool :=
  decide (queueOccAt r ⟨numberRampData, by decide⟩ 1 >
    queueOccThresholdToActivateIntersection)

def checkActivationViaIntersectionOcc (s : SignalVariables) : Bool :=
  decide (s.ltOcc > leftOccThresholdToActivateIntersection ∨
    s.rtOcc > rightOccThresholdToActivateIntersection)

def checkActivationViaQueueEstimation (s : SignalVariables) : Bool :=
  decide (s.rampQueue > rampQueueThreshold)

def totalPassageVol (r : RampVariables) (i : Fin numberRampData) : ℚ :=
  ((r.passageVol i 0 + r.passageVol i 1 + r.passageVol i 2 : ℤ) : ℚ)

def rampExitLoop (r : RampVariables) (t1 t2 : ℚ) : (i : ℕ) → i < numberRampData → ℚ → ℚ
  | i, hi, exitCount =>
    let row : Fin numberRampData := ⟨i, hi⟩
    let time := r.dataTime row
    let vol := totalPassageVol r row
    if time ≤ t2 + eps ∧ time ≥ t1 - eps then
      let exitCount :=
        if i = numberRampData - 1 then exitCount + max 0 (t2 - time) / rampDataInterval * vol
        else exitCount
      match i, hi with
      | 0, _ => exitCount + max 0 (time - t1) / rampDataInterval * vol
      | j + 1, hi =>
        let older : Fin numberRampData := ⟨j, by omega⟩
        if r.dataTime older ≥ t1 - eps then
          rampExitLoop r t1 t2 j (by omega) (exitCount + max 0 vol)
        else
          rampExitLoop r t1 t2 j (by omega)
            (exitCount + max 0 (time - t1) / rampDataInterval * vol)
    else exitCount

def getRampExitVol (r : RampVariables) (t1 t2 : ℚ) : ℚ :=
  rampExitLoop r t1 t2 (numberRampData - 1) (by decide) 0 * rampExitFlowAdjustFactor

def getRampQueue (s : SignalVariables) (r : RampVariables) : ℚ :=
  let ltVol := getDetectorCounts s.realtimeData s.dataRow phase5Signal phase5Approach1 +
    getDetectorCounts s.realtimeData s.dataRow phase5Signal phase5Approach2
  let rtVol := getDetectorCounts s.realtimeData s.dataRow phase8Signal phase8Approach
  let rampExitVol := getRampExitVol r s.prevCycleTerminateTime s.currentCycleTerminateTime
  min 100 (max (s.oldRampQueue + ltVol + rtVol - rampExitVol) 0)

def isActivation (t : Tuning) (s : SignalVariables) (r : RampVariables) :
    SignalVariables × Bool :=
  if t.methodForRampQueue = 1 then
    let s := { s with rampQueue := getRampQueue s r }
    (s, checkActivationViaQueueEstimation s)
  else if t.methodForRampQueue = 2 then (s, checkActivationViaQueueOcc r)
  else if t.methodForRampQueue = 3 then (s, checkActivationViaIntersectionOcc s)
  else (s, false)

def notActivated (s : SignalVariables) : SignalVariables :=
  { s with
    newMaxGreen := maxGreenUpperbound
    oldMaxGreen := maxGreenUpperbound
    regularRelease := false
    overwriteRelease := false
    overwriteRemainCycle := 0
    regularRemainCycle := 0
    cyclePassed := 0 }

def duringOverwriteRelease (s : SignalVariables) : SignalVariables :=
  let s :=
    { s with
      newMaxGreen := maxGreenUpperbound
      overwriteRemainCycle := s.overwriteRemainCycle - 1 }
  if s.overwriteRemainCycle = 0 then { s with overwriteRelease := false } else s

theorem duringOverwriteRelease_cases (s : SignalVariables) :
    (s.overwriteRemainCycle ≠ 1 ∧ duringOverwriteRelease s =
      { s with
        newMaxGreen := maxGreenUpperbound
        overwriteRemainCycle := s.overwriteRemainCycle - 1 }) ∨
    (s.overwriteRemainCycle = 1 ∧ duringOverwriteRelease s =
      { s with
        newMaxGreen := maxGreenUpperbound
        overwriteRemainCycle := 0
        overwriteRelease := false }) := by
  unfold duringOverwriteRelease
  by_cases last : s.overwriteRemainCycle = 1
  · simp [last]
  · have more : s.overwriteRemainCycle - 1 ≠ 0 := by omega
    simp [last, more]

def countExceed (s : SignalVariables) : ℤ :=
  if s.rtOcc > rtReleaseOccThreshold then s.rtExceedNum + 1 else s.rtExceedNum

def duringRegularRelease (t : Tuning) (s : SignalVariables) : SignalVariables :=
  let s :=
    { s with
      newMaxGreen := maxGreenUpperbound
      regularRemainCycle := s.regularRemainCycle - 1
      rtExceedNum := countExceed s }
  if s.regularRemainCycle = 0 then
    let s := { s with regularRelease := false, cyclePassed := 0 }
    let s :=
      if s.rtExceedNum ≥ t.cycleToActivateOverwrite then
        { s with overwriteRelease := true, overwriteRemainCycle := t.overwriteCycle }
      else s
    { s with rtExceedNum := 0 }
  else s

theorem duringRegularRelease_cases (t : Tuning) (s : SignalVariables) :
    (s.regularRemainCycle ≠ 1 ∧ duringRegularRelease t s =
      { s with
        newMaxGreen := maxGreenUpperbound
        regularRemainCycle := s.regularRemainCycle - 1
        rtExceedNum := countExceed s }) ∨
    (s.regularRemainCycle = 1 ∧ t.cycleToActivateOverwrite ≤ countExceed s ∧
      duringRegularRelease t s =
        { s with
          newMaxGreen := maxGreenUpperbound
          regularRemainCycle := 0
          rtExceedNum := 0
          regularRelease := false
          cyclePassed := 0
          overwriteRelease := true
          overwriteRemainCycle := t.overwriteCycle }) ∨
    (s.regularRemainCycle = 1 ∧ countExceed s < t.cycleToActivateOverwrite ∧
      duringRegularRelease t s =
        { s with
          newMaxGreen := maxGreenUpperbound
          regularRemainCycle := 0
          rtExceedNum := 0
          regularRelease := false
          cyclePassed := 0 }) := by
  unfold duringRegularRelease
  by_cases last : s.regularRemainCycle = 1
  · by_cases enough : t.cycleToActivateOverwrite ≤ countExceed s
    · simp [last, enough]
    · simp [last, enough, not_le.mp enough]
  · have more : s.regularRemainCycle - 1 ≠ 0 := by omega
    simp [last, more]

def regulatedGreen (s : SignalVariables) : ℤ :=
  if needReduceMaxGreen s then max (s.oldMaxGreen - maxGreenChange) maxGreenLowerbound
  else min (s.oldMaxGreen + maxGreenChange) maxGreenUpperbound

def duringNormalCycle (t : Tuning) (s : SignalVariables) : SignalVariables :=
  let s :=
    { s with
      newMaxGreen := regulatedGreen s
      rtExceedNum := countExceed s
      cyclePassed := s.cyclePassed + 1 }
  let s :=
    if s.cyclePassed = t.cycleToRelease then
      { s with regularRelease := true, regularRemainCycle := t.regularCycle }
    else s
  { s with oldMaxGreen := s.newMaxGreen }

theorem duringNormalCycle_cases (t : Tuning) (s : SignalVariables) :
    (s.cyclePassed + 1 ≠ t.cycleToRelease ∧ duringNormalCycle t s =
      { s with
        newMaxGreen := regulatedGreen s
        oldMaxGreen := regulatedGreen s
        rtExceedNum := countExceed s
        cyclePassed := s.cyclePassed + 1 }) ∨
    (s.cyclePassed + 1 = t.cycleToRelease ∧ duringNormalCycle t s =
      { s with
        newMaxGreen := regulatedGreen s
        oldMaxGreen := regulatedGreen s
        rtExceedNum := countExceed s
        cyclePassed := t.cycleToRelease
        regularRelease := true
        regularRemainCycle := t.regularCycle }) := by
  unfold duringNormalCycle
  by_cases due : s.cyclePassed + 1 = t.cycleToRelease
  · simp [due]
  · simp [due]

def getNewMaxGreenPhase3 (t : Tuning) (s : SignalVariables) (r : RampVariables) :
    SignalVariables :=
  let (s, activated) := isActivation t s r
  if !activated then notActivated s
  else if s.overwriteRelease then duringOverwriteRelease s
  else if s.regularRelease then duringRegularRelease t s
  else duringNormalCycle t s

end RampMetering
