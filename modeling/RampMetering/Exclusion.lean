import RampMetering.RampRun
import RampMetering.Averages

/-! What cannot reach the metering rate. Two runs whose inputs agree once the readings of the
excluded detectors are blanked keep ramp data that agree in the same way; the averages of
lanes 2 and 3 and all the rate is computed from agree outright. The one way around the
exclusion is the rejection test, which looks at every reading. -/

namespace RampMetering
open Register

variable {hideLead hideTrail : Fin numberLane → Bool}

def blankStat (hideLead hideTrail : Fin numberLane → Bool) (lane : Fin numberLane)
    (m : MainlineStat) : MainlineStat :=
  { m with
    leadVol := if hideLead lane then 0 else m.leadVol
    trailVol := if hideTrail lane then 0 else m.trailVol }

def blankLanes {α : Type} [Zero α] (hide : Fin numberLane → Bool) (x : Lanes α) : Lanes α :=
  fun lane => if hide lane then 0 else x lane

def blankRecords (hideLead hideTrail : Fin numberLane → Bool) (rec : Records) : Records :=
  { rec with
    dbUrmsStatus :=
      { rec.dbUrmsStatus with
        mainlineStat := fun lane =>
          blankStat hideLead hideTrail lane (rec.dbUrmsStatus.mainlineStat lane) }
    urmsDatafile :=
      { rec.urmsDatafile with
        mainlineLeadOcc := blankLanes hideLead rec.urmsDatafile.mainlineLeadOcc
        mainlineTrailOcc := blankLanes hideTrail rec.urmsDatafile.mainlineTrailOcc } }

def blankRow (hideLead hideTrail : Fin numberLane → Bool) (x : RampRow) : RampRow :=
  { x with
    mainlineLeadVol := blankLanes hideLead x.mainlineLeadVol
    mainlineTrailVol := blankLanes hideTrail x.mainlineTrailVol
    mainlineLeadOcc := blankLanes hideLead x.mainlineLeadOcc
    mainlineTrailOcc := blankLanes hideTrail x.mainlineTrailOcc }

theorem blankLanes_maskByte (hide : Fin numberLane → Bool) (x : Lanes Byte) :
    (blankLanes hide fun lane => maskByte (x lane)) =
      fun lane => maskByte (if hide lane then 0 else x lane) := by
  funext lane
  cases hidden : hide lane
  · simp [blankLanes, hidden]
  · simp [blankLanes, hidden, maskByte_eq]

theorem blankRow_rowOf (rec : Records) :
    blankRow hideLead hideTrail (rowOf rec) = rowOf (blankRecords hideLead hideTrail rec) :=
  RampRow.ext rfl rfl
    (blankLanes_maskByte hideLead fun lane => (rec.dbUrmsStatus.mainlineStat lane).leadVol)
    (blankLanes_maskByte hideTrail fun lane => (rec.dbUrmsStatus.mainlineStat lane).trailVol)
    rfl rfl rfl rfl rfl rfl rfl rfl

structure AgreeBut (hideLead hideTrail : Fin numberLane → Bool) (a b : RampInput) : Prop where
  records : blankRecords hideLead hideTrail a.records = blankRecords hideLead hideTrail b.records
  clock : a.clock = b.clock
  rampFlag : a.rampFlag = b.rampFlag

structure RampAgree (hideLead hideTrail : Fin numberLane → Bool) (r r' : RampVariables) :
    Prop where
  rows : (fun i => blankRow hideLead hideTrail (rampRows r i)) =
    fun i => blankRow hideLead hideTrail (rampRows r' i)
  avgOccupancy : ∀ lane, lane ≠ 0 → r.mainlineAvgOccupancy lane = r'.mainlineAvgOccupancy lane
  avgVolume : ∀ lane, lane ≠ 0 → r.mainlineAvgVolume lane = r'.mainlineAvgVolume lane
  prevOccOut : r.prevOccOut = r'.prevOccOut
  newMeterRate : r.newMeterRate = r'.newMeterRate

theorem RampAgree.refl (r : RampVariables) : RampAgree hideLead hideTrail r r :=
  ⟨rfl, fun _ _ => rfl, fun _ _ => rfl, rfl, rfl⟩

theorem RampAgree.withRows {r r' : RampVariables} {x x' : History RampRow}
    (h : RampAgree hideLead hideTrail r r')
    (rows : (fun i => blankRow hideLead hideTrail (x i)) =
      fun i => blankRow hideLead hideTrail (x' i)) :
    RampAgree hideLead hideTrail (withRows r x) (withRows r' x') :=
  ⟨rows, h.avgOccupancy, h.avgVolume, h.prevOccOut, h.newMeterRate⟩

theorem RampAgree.pushed {r r' : RampVariables} (h : RampAgree hideLead hideTrail r r')
    {v v' : RampRow}
    (same : blankRow hideLead hideTrail v = blankRow hideLead hideTrail v') :
    RampAgree hideLead hideTrail (RampMetering.withRows r (push (rampRows r) v))
      (RampMetering.withRows r' (push (rampRows r') v')) := by
  refine h.withRows ?_
  rw [← push_comp (blankRow hideLead hideTrail), ← push_comp (blankRow hideLead hideTrail),
    h.rows, same]

section averages

variable {r r' : RampVariables} (h : RampAgree hideLead hideTrail r r')

include h

theorem RampAgree.row (i : Fin numberRampData) :
    blankRow hideLead hideTrail (rampRows r i) = blankRow hideLead hideTrail (rampRows r' i) :=
  congrFun h.rows i

theorem RampAgree.dataTime : r.dataTime = r'.dataTime :=
  funext fun i => congrArg RampRow.dataTime (h.row i)

theorem RampAgree.leadStatus : r.mainlineLeadStatus = r'.mainlineLeadStatus :=
  funext fun i => congrArg RampRow.mainlineLeadStatus (h.row i)

theorem RampAgree.trailStatus : r.mainlineTrailStatus = r'.mainlineTrailStatus :=
  funext fun i => congrArg RampRow.mainlineTrailStatus (h.row i)

theorem RampAgree.leadReadings {lane : Fin numberLane} (seen : hideLead lane = false)
    (i : Fin numberRampData) :
    r.mainlineLeadOcc i lane = r'.mainlineLeadOcc i lane ∧
      r.mainlineLeadVol i lane = r'.mainlineLeadVol i lane := by
  have occ := congrFun (congrArg RampRow.mainlineLeadOcc (h.row i)) lane
  have vol := congrFun (congrArg RampRow.mainlineLeadVol (h.row i)) lane
  simp only [blankRow, blankLanes, seen, Bool.false_eq_true, if_false] at occ vol
  exact ⟨occ, vol⟩

theorem RampAgree.trailReadings {lane : Fin numberLane} (seen : hideTrail lane = false)
    (i : Fin numberRampData) :
    r.mainlineTrailOcc i lane = r'.mainlineTrailOcc i lane ∧
      r.mainlineTrailVol i lane = r'.mainlineTrailVol i lane := by
  have occ := congrFun (congrArg RampRow.mainlineTrailOcc (h.row i)) lane
  have vol := congrFun (congrArg RampRow.mainlineTrailVol (h.row i)) lane
  simp only [blankRow, blankLanes, seen, Bool.false_eq_true, if_false] at occ vol
  exact ⟨occ, vol⟩

theorem RampAgree.leadHealth {lane : Fin numberLane}
    (off : hideLead lane = true →
      r.mainlineLeadStatus newest lane ≠ mainlineDetectorWorking) :
    checkMainlineOccHealthLead r lane = checkMainlineOccHealthLead r' lane ∧
      checkMainlineVolHealthLead r lane = checkMainlineVolHealthLead r' lane := by
  unfold checkMainlineOccHealthLead checkMainlineVolHealthLead
  cases hidden : hideLead lane
  · simp only [h.leadStatus, h.dataTime, h.leadReadings hidden, and_self]
  · have off' := off hidden
    rw [h.leadStatus] at off'
    simp only [h.leadStatus, checkHealth, if_pos off', and_self]

theorem RampAgree.trailHealth {lane : Fin numberLane} (seen : hideTrail lane = false) :
    checkMainlineOccHealthTrail r lane = checkMainlineOccHealthTrail r' lane ∧
      checkMainlineVolHealthTrail r lane = checkMainlineVolHealthTrail r' lane := by
  unfold checkMainlineOccHealthTrail checkMainlineVolHealthTrail
  simp only [h.trailStatus, h.dataTime, h.trailReadings seen, and_self]

theorem RampAgree.averages (seen : ∀ lane, lane ≠ 0 → hideTrail lane = false)
    (off : ∀ lane, lane ≠ 0 → hideLead lane = true →
      r.mainlineLeadStatus newest lane ≠ mainlineDetectorWorking) :
    RampAgree hideLead hideTrail (RampMetering.averages r) (RampMetering.averages r') := by
  refine ⟨h.rows, fun lane used => ?_, fun lane used => ?_, h.prevOccOut, h.newMeterRate⟩
  · have lead := (h.leadHealth (off lane used)).1
    have trail := (h.trailHealth (seen lane used)).1
    have reading := (h.trailReadings (seen lane used) newest).1
    rw [averages_occupancy, averages_occupancy, ← lead, ← trail, ← reading,
      ← h.avgOccupancy lane used]
    cases hidden : hideLead lane
    · rw [(h.leadReadings hidden newest).1]
    · have unhealthy : checkMainlineOccHealthLead r lane = false := if_pos (off lane used hidden)
      simp [unhealthy, select]
  · have lead := (h.leadHealth (off lane used)).2
    have trail := (h.trailHealth (seen lane used)).2
    have reading := (h.trailReadings (seen lane used) newest).2
    rw [averages_volume, averages_volume, ← lead, ← trail, ← reading, ← h.avgVolume lane used]
    cases hidden : hideLead lane
    · rw [(h.leadReadings hidden newest).2]
    · have unhealthy : checkMainlineVolHealthLead r lane = false := if_pos (off lane used hidden)
      simp [unhealthy, select]

/-- Lane 0 is the HOV lane; the rate is computed from the other two. -/
theorem RampAgree.getALINEARate (firstTime secondTime : ℚ) :
    (getALINEARate r firstTime secondTime).2 = (getALINEARate r' firstTime secondTime).2 ∧
      occOut r = occOut r' := by
  have rate : r.meterRate = r'.meterRate :=
    funext fun i => congrArg RampRow.meterRate (h.row i)
  have passage : r.passageVol = r'.passageVol :=
    funext fun i => congrArg RampRow.passageVol (h.row i)
  have into : occIn r = occIn r' := by
    rw [occIn, occIn, h.avgOccupancy 1 (by decide), h.avgOccupancy 2 (by decide)]
  have flow : flowIn r = flowIn r' := by
    rw [flowIn, flowIn, h.avgVolume 1 (by decide), h.avgVolume 2 (by decide)]
  have ramp : flowRamp r = flowRamp r' := by
    rw [flowRamp, flowRamp, passage]
  have occ : occOut r = occOut r' := by
    rw [occOut, occOut, into, flow, ramp, h.prevOccOut]
  have current : currentRate r = currentRate r' := by
    rw [currentRate, currentRate, rate]
  rw [getALINEARate_eq, getALINEARate_eq, occ, current]
  exact ⟨rfl, rfl⟩

end averages

section tick

variable {r r' : RampVariables} {a b : RampInput}

theorem RampAgree.readRampData (h : RampAgree hideLead hideTrail r r')
    (alike : AgreeBut hideLead hideTrail a b)
    (verdict : accepts a.records = accepts b.records)
    (seen : ∀ lane, lane ≠ 0 → hideTrail lane = false)
    (off : ∀ lane, lane ≠ 0 → hideLead lane = true →
      maskByte (a.records.dbUrmsStatus.mainlineStat lane).leadStat ≠ mainlineDetectorWorking) :
    RampAgree hideLead hideTrail (RampMetering.readRampData (decode a.records) r).1
      (RampMetering.readRampData (decode b.records) r').1 := by
  cases accepted : accepts b.records
  · rw [readRampData_rejected (verdict.trans accepted), readRampData_rejected accepted]
    exact h.pushed (h.row newest)
  · rw [readRampData_accepted (verdict.trans accepted), readRampData_accepted accepted]
    refine (h.pushed ?_).averages seen fun lane used hidden => ?_
    · rw [blankRow_rowOf, blankRow_rowOf, alike.records]
    · have pushed : push (rampRows r) (rowOf a.records) newest = rowOf a.records := push_last _ _
      change (push (rampRows r) (rowOf a.records) newest).mainlineLeadStatus lane ≠ _
      rw [pushed]
      exact off lane used hidden

theorem RampAgree.rampTick (h : RampAgree hideLead hideTrail r r')
    (alike : AgreeBut hideLead hideTrail a b)
    (verdict : accepts a.records = accepts b.records)
    (seen : ∀ lane, lane ≠ 0 → hideTrail lane = false)
    (off : ∀ lane, lane ≠ 0 → hideLead lane = true →
      maskByte (a.records.dbUrmsStatus.mainlineStat lane).leadStat ≠ mainlineDetectorWorking) :
    RampAgree hideLead hideTrail (RampMetering.rampTick r a) (RampMetering.rampTick r' b) := by
  have read := h.readRampData alike verdict seen off
  unfold RampMetering.rampTick testRamp
  simp only [readRampData_returns, alike.rampFlag, alike.clock, verdict]
  generalize (RampMetering.readRampData (decode a.records) r).1 = q at read ⊢
  generalize (RampMetering.readRampData (decode b.records) r').1 = q' at read ⊢
  split_ifs
  · have rate := read.getALINEARate b.clock.alineaFirst b.clock.alineaSecond
    exact ⟨read.rows, read.avgOccupancy, read.avgVolume, rate.2, rate.1⟩
  · exact read

end tick

def hov (lane : Fin numberLane) : Bool := decide (lane = 0)

/-- Inputs that differ only in the HOV lane's mainline readings, or only in the lead readings
of one detector that never reports working. -/
def OnlyExcludedDiffer (a b : ℕ → RampInput) : Prop :=
  (∀ k, AgreeBut hov hov (a k) (b k)) ∨
    ∃ lane, ∀ k, AgreeBut (fun l => decide (l = lane)) (fun _ => false) (a k) (b k) ∧
      maskByte ((a k).records.dbUrmsStatus.mainlineStat lane).leadStat ≠ mainlineDetectorWorking

/-- As long as no excluded reading decides on its own whether a sample is accepted, the
metering rates of the two runs are the same. -/
theorem newMeterRate_excluded (r : RampVariables) (a b : ℕ → RampInput)
    (excluded : OnlyExcludedDiffer a b) (k : ℕ)
    (verdicts : ∀ j < k, accepts (a j).records = accepts (b j).records) :
    (Run.run rampTick r a k).newMeterRate = (Run.run rampTick r b k).newMeterRate := by
  rcases excluded with alike | ⟨lane, alike⟩
  · refine (Run.run_related (RampAgree hov hov) (.refl r) k fun j hj s s' h => ?_).newMeterRate
    exact h.rampTick (alike j) (verdicts j hj) (fun l used => decide_eq_false used)
      fun l used hidden => absurd (of_decide_eq_true hidden) used
  · refine (Run.run_related (RampAgree (fun l => decide (l = lane)) fun _ => false) (.refl r) k
      fun j hj s s' h => ?_).newMeterRate
    refine h.rampTick (alike j).1 (verdicts j hj) (fun l _ => rfl) fun l _ hidden => ?_
    obtain rfl := of_decide_eq_true hidden
    exact (alike j).2

def hovReading (occ : ℚ) : RampInput where
  records :=
    { zeroRecords with
      urmsDatafile.mainlineLeadOcc := fun lane => if lane = 0 then occ else 0 }
  clock := quietInput.clock
  rampFlag := true

theorem hovReading_excluded (x y : ℚ) :
    OnlyExcludedDiffer (fun _ => hovReading x) fun _ => hovReading y := by
  refine Or.inl fun _ => ⟨?_, rfl, rfl⟩
  have blank : ∀ z : ℚ, blankLanes hov (fun lane => if lane = 0 then z else 0) = fun _ => 0 := by
    intro z
    funext lane
    by_cases first : lane = 0
    · simp [blankLanes, hov, first]
    · simp [blankLanes, hov, first]
  unfold blankRecords hovReading
  simp only [blank]

theorem newMeterRate_excluded_hov_five :
    (Run.run rampTick (initRampData staticRamp) (fun _ => hovReading 5) 3).newMeterRate =
      (Run.run rampTick (initRampData staticRamp) (fun _ => hovReading 7) 3).newMeterRate :=
  newMeterRate_excluded _ _ _ (hovReading_excluded 5 7) 3 fun _ _ => by decide +kernel

/-- A negative reading of the HOV lane has the whole sample rejected, and no rate computed. -/
theorem negative_hov_stops_rate :
    OnlyExcludedDiffer (fun _ => hovReading 0) (fun _ => hovReading (-1)) ∧
      (Run.run rampTick (initRampData staticRamp) (fun _ => hovReading 0) 1).newMeterRate = 720 ∧
      (Run.run rampTick (initRampData staticRamp) (fun _ => hovReading (-1)) 1).newMeterRate = 0 :=
  ⟨hovReading_excluded 0 (-1), by decide +kernel, by decide +kernel⟩

end RampMetering
