import RampMetering.Globals
import RampMetering.Alinea
import Mathlib.Algebra.Order.Group.Abs
import Mathlib.Algebra.Order.Ring.Rat

/-! `read_data.c`: the ramp history and its averages, and the rows of signal data.
The four detector health checks are one rule with parameters; each keeps the status its
source compares with. -/

namespace RampMetering

def steadyPair (dataTime x : History ℚ) (threshold : ℚ) (p : Fin 5) : Bool :=
  !decide (dataTime p.succ < eps) &&
    decide (|x p.succ - x p.castSucc| ≤ threshold * x p.castSucc)

def checkHealth (status required : ℤ) (dataTime x : History ℚ) (threshold : ℚ) : Bool :=
  if status ≠ required then false
  else
    let count := (List.finRange 5).countP (steadyPair dataTime x threshold)
    !(decide (count > (numberRampData - 1) / 2) && steadyPair dataTime x threshold 4)

def checkMainlineOccHealthLead (r : RampVariables) (lane : Fin numberLane) : Bool :=
  checkHealth (r.mainlineLeadStatus newest lane) mainlineDetectorWorking r.dataTime
    (fun i => r.mainlineLeadOcc i lane) thresholdOccHealth

def checkMainlineOccHealthTrail (r : RampVariables) (lane : Fin numberLane) : Bool :=
  checkHealth (r.mainlineTrailStatus newest lane) mainlineDetectorDisable r.dataTime
    (fun i => r.mainlineTrailOcc i lane) thresholdOccHealth

def checkMainlineVolHealthLead (r : RampVariables) (lane : Fin numberLane) : Bool :=
  checkHealth (r.mainlineLeadStatus newest lane) mainlineDetectorWorking r.dataTime
    (fun i => r.mainlineLeadVol i lane) thresholdVolHealth

def checkMainlineVolHealthTrail (r : RampVariables) (lane : Fin numberLane) : Bool :=
  checkHealth (r.mainlineTrailStatus newest lane) mainlineDetectorDisable r.dataTime
    (fun i => r.mainlineTrailVol i lane) thresholdVolHealth

def getMainlineAverageOccupancy (r : RampVariables) : RampVariables :=
  { r with
    mainlineAvgOccupancy := fun lane =>
      let leadHealth := checkMainlineOccHealthLead r lane
      let trailHealth := checkMainlineOccHealthTrail r lane
      if leadHealth && trailHealth then
        1 / 2 * (r.mainlineLeadOcc newest lane + r.mainlineTrailOcc newest lane)
      else if leadHealth then r.mainlineLeadOcc newest lane
      else if trailHealth then r.mainlineTrailOcc newest lane
      else r.mainlineAvgOccupancy lane }

def getMainlineAverageVolume (r : RampVariables) : RampVariables :=
  { r with
    mainlineAvgVolume := fun lane =>
      let leadHealth := checkMainlineVolHealthLead r lane
      let trailHealth := checkMainlineVolHealthTrail r lane
      if leadHealth && trailHealth then
        (r.mainlineLeadVol newest lane + r.mainlineTrailVol newest lane).tdiv 2
      else if leadHealth then r.mainlineLeadVol newest lane
      else if trailHealth then r.mainlineTrailVol newest lane
      else r.mainlineAvgVolume lane }

def forward {α : Type} (x : History α) : History α :=
  fun i => if h : i.val < numberRampData - 1 then x ⟨i.val + 1, by omega⟩ else x i

def moveRampDataForward (r : RampVariables) : RampVariables :=
  { r with
    mainlineLeadStatus := forward r.mainlineLeadStatus
    mainlineTrailStatus := forward r.mainlineTrailStatus
    mainlineLeadVol := forward r.mainlineLeadVol
    mainlineTrailVol := forward r.mainlineTrailVol
    mainlineLeadOcc := forward r.mainlineLeadOcc
    mainlineTrailOcc := forward r.mainlineTrailOcc
    passageVol := forward r.passageVol
    demandVol := forward r.demandVol
    queueVol := forward r.queueVol
    queueOcc := forward r.queueOcc
    meterRate := forward r.meterRate
    dataTime := forward r.dataTime }

def store {α : Type} (x : History α) (v : α) : History α := Function.update x newest v

@[simp] theorem store_newest {α : Type} (x : History α) (v : α) : store x v newest = v := by
  simp [store]

def getNewRampData (g : Globals) (r : RampVariables) : RampVariables :=
  { r with
    mainlineLeadStatus := store r.mainlineLeadStatus (getStatusMainLead g)
    mainlineTrailStatus := store r.mainlineTrailStatus (getStatusMainTrail g)
    mainlineLeadVol := store r.mainlineLeadVol (getVolMainLead g)
    mainlineTrailVol := store r.mainlineTrailVol (getVolMainTrail g)
    mainlineLeadOcc := store r.mainlineLeadOcc (getOccMainLead g)
    mainlineTrailOcc := store r.mainlineTrailOcc (getOccMainTrail g)
    passageVol := store r.passageVol (getVolMeteredPassage g)
    demandVol := store r.demandVol (getVolMeteredDemand g)
    queueVol := store r.queueVol (getVolMeteredQueue g)
    queueOcc := store r.queueOcc (getOccMeteredQueue g)
    meterRate := store r.meterRate (getRateMetered g)
    dataTime := store r.dataTime (getDataTime g) }

def anyNegative {α : Type} [LT α] [Zero α] [DecidableLT α] (x : Lanes α) : Bool :=
  decide (x 0 < 0 ∨ x 1 < 0 ∨ x 2 < 0)

def checkNewRampData (r : RampVariables) : Bool :=
  anyNegative (r.mainlineLeadStatus newest) || anyNegative (r.mainlineTrailStatus newest) ||
  anyNegative (r.mainlineLeadVol newest) || anyNegative (r.mainlineTrailVol newest) ||
  anyNegative (r.mainlineLeadOcc newest) || anyNegative (r.mainlineTrailOcc newest) ||
  anyNegative (r.passageVol newest) || anyNegative (r.demandVol newest) ||
  anyNegative (r.queueVol newest) || anyNegative (r.queueOcc newest) ||
  anyNegative (r.meterRate newest)

def replaceRampData (r : RampVariables) : RampVariables :=
  { r with
    mainlineLeadStatus := store r.mainlineLeadStatus (r.mainlineLeadStatus 4)
    mainlineTrailStatus := store r.mainlineTrailStatus (r.mainlineTrailStatus 4)
    mainlineLeadVol := store r.mainlineLeadVol (r.mainlineLeadVol 4)
    mainlineTrailVol := store r.mainlineTrailVol (r.mainlineTrailVol 4)
    mainlineLeadOcc := store r.mainlineLeadOcc (r.mainlineLeadOcc 4)
    mainlineTrailOcc := store r.mainlineTrailOcc (r.mainlineTrailOcc 4)
    passageVol := store r.passageVol (r.passageVol 4)
    demandVol := store r.demandVol (r.demandVol 4)
    queueVol := store r.queueVol (r.queueVol 4)
    queueOcc := store r.queueOcc (r.queueOcc 4)
    meterRate := store r.meterRate (r.meterRate 4) }

/-- Statuses and metering rates are not looked at. -/
def isValueNegative (g : Globals) : Bool :=
  anyNegative (getOccMainLead g) || anyNegative (getOccMainTrail g) ||
  anyNegative (getVolMainLead g) || anyNegative (getVolMainTrail g) ||
  anyNegative (getVolMeteredQueue g) || anyNegative (getOccMeteredQueue g) ||
  anyNegative (getVolMeteredPassage g) || anyNegative (getVolMeteredDemand g)

def readRampData (g : Globals) (r : RampVariables) : RampVariables × Bool :=
  let r := moveRampDataForward r
  if isValueNegative g then (r, false)
  else
    let r := getNewRampData g r
    let r := if checkNewRampData r then replaceRampData r else r
    (getMainlineAverageVolume (getMainlineAverageOccupancy r), true)

/-- Storing a row of `realtime_data` at any index. C gives a store outside the array no
meaning; `overrun` is whatever it leaves in `signal_data`. -/
def storeRow (overrun : SignalVariables → Row → SignalVariables) (s : SignalVariables)
    (row : Row) : SignalVariables :=
  if 0 ≤ s.dataRow ∧ s.dataRow < maxrow then
    { s with realtimeData := Function.update s.realtimeData s.dataRow.toNat row }
  else overrun s row

def readRealTimeData (overrun : SignalVariables → Row → SignalVariables) (g : Globals)
    (s : SignalVariables) : SignalVariables :=
  storeRow overrun { s with dataRow := s.dataRow + 1 } (sample g)

end RampMetering
