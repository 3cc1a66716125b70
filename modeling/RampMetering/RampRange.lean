import RampMetering.RampRun
import RampMetering.Averages

/-! The ranges of the ramp data over a run. What `set_globals` masks fits a byte, what the first
check lets through is nonnegative, and the averages are means of such readings or kept; so the
second check has nothing to find and the casts of `test()` have nothing to cut. -/

namespace RampMetering
open Register

theorem isByte_mean {x y : ℤ} (hx : IsByte x) (hy : IsByte y) : IsByte ((x + y).tdiv 2) := by
  obtain ⟨low, high⟩ := hx
  obtain ⟨low', high'⟩ := hy
  rw [Int.tdiv_eq_ediv_of_nonneg (Int.add_nonneg low low')]
  constructor
  · omega
  · omega

theorem castU8_of_isByte {x : ℤ} (h : IsByte x) : castU8 x = x :=
  Int.emod_eq_of_lt h.1 (by linarith [h.2])

theorem castU16_of_isByte {x : ℤ} (h : IsByte x) : castU16 x = x :=
  Int.emod_eq_of_lt h.1 (by linarith [h.2])

structure RampInRange (r : RampVariables) : Prop where
  rows : ∀ i, RowInRange (rampRows r i)
  mainlineAvgVolume : ∀ lane, IsByte (r.mainlineAvgVolume lane)

theorem select_induction {α : Type} (P : α → Prop) {a b : Bool} {both lead trail kept : α}
    (hboth : P both) (hlead : P lead) (htrail : P trail) (hkept : P kept) :
    P (select a b both lead trail kept) := by
  unfold select
  split_ifs
  · exact hboth
  · exact hlead
  · exact htrail
  · exact hkept

theorem rampInRange_averages {r : RampVariables} (h : RampInRange r) :
    RampInRange (averages r) := by
  refine ⟨h.rows, fun lane => ?_⟩
  have lead := (h.rows newest).mainlineLeadVol lane
  have trail := (h.rows newest).mainlineTrailVol lane
  rw [averages_volume]
  exact select_induction IsByte (isByte_mean lead trail) lead trail (h.mainlineAvgVolume lane)

theorem rampInRange_push {r : RampVariables} (h : RampInRange r) {x : RampRow}
    (new : RowInRange x) : RampInRange (withRows r (push (rampRows r) x)) := by
  refine ⟨fun i => ?_, h.mainlineAvgVolume⟩
  rw [rampRows_withRows]
  refine Fin.lastCases ?_ (fun i => ?_) i
  · rw [push_last]
    exact new
  · rw [push_castSucc]
    exact h.rows i.succ

theorem rampInRange_readRampData {r : RampVariables} (h : RampInRange r) (rec : Records) :
    RampInRange (readRampData (decode rec) r).1 := by
  cases verdict : accepts rec
  · rw [readRampData_rejected verdict]
    exact rampInRange_push h (h.rows newest)
  · rw [readRampData_accepted verdict]
    exact rampInRange_averages (rampInRange_push h (rowInRange_rowOf verdict))

theorem rampInRange_rampTick {r : RampVariables} (h : RampInRange r) (i : RampInput) :
    RampInRange (rampTick r i) := by
  have read := rampInRange_readRampData h i.records
  unfold rampTick testRamp
  dsimp only
  split_ifs
  · exact ⟨read.rows, read.mainlineAvgVolume⟩
  · exact read

def newestData (r : RampVariables) : DbRampData where
  mainlineLeadOcc := r.mainlineLeadOcc newest
  mainlineTrailOcc := r.mainlineTrailOcc newest
  queueOcc := r.queueOcc newest
  meterRate := r.meterRate newest
  dataTime := r.dataTime newest
  prevUpdateData := r.prevUpdateData
  prevOccOut := r.prevOccOut
  newMeterRate := r.newMeterRate
  mainlineAvgOccupancy := r.mainlineAvgOccupancy
  mainlineAvgVolume := r.mainlineAvgVolume
  mainlineLeadStatus := r.mainlineLeadStatus newest
  mainlineTrailStatus := r.mainlineTrailStatus newest
  mainlineLeadVol := r.mainlineLeadVol newest
  mainlineTrailVol := r.mainlineTrailVol newest
  passageVol := r.passageVol newest
  demandVol := r.demandVol newest
  queueVol := r.queueVol newest

theorem publishRamp_eq {r : RampVariables} (h : RampInRange r) :
    publishRamp r = newestData r := by
  have row := h.rows newest
  have avgVolume := funext fun lane => castU16_of_isByte (h.mainlineAvgVolume lane)
  have leadStatus := funext fun lane => castU8_of_isByte (row.mainlineLeadStatus lane)
  have trailStatus := funext fun lane => castU8_of_isByte (row.mainlineTrailStatus lane)
  have leadVol := funext fun lane => castU8_of_isByte (row.mainlineLeadVol lane)
  have trailVol := funext fun lane => castU8_of_isByte (row.mainlineTrailVol lane)
  have passage := funext fun lane => castU8_of_isByte (row.passageVol lane)
  have demand := funext fun lane => castU8_of_isByte (row.demandVol lane)
  have queue := funext fun lane => castU8_of_isByte (row.queueVol lane)
  simp only [rampRows] at leadStatus trailStatus leadVol trailVol passage demand queue
  rw [publishRamp, newestData, avgVolume, leadStatus, trailStatus, leadVol, trailVol, passage,
    demand, queue]

section run

variable (p : Platform) (t : Tuning) (maxGreen1 : ℤ) (u : DbUrmsStatus) (ins : ℕ → Input)

theorem rampInRange_daemonAt (k : ℕ) :
    RampInRange (daemonAt p t (start maxGreen1 u) ins k).ramp := by
  refine Run.run_invariant (fun _ (σ : Daemon) => RampInRange σ.ramp) ?_ ?_ k
  · exact ⟨fun _ => rowInRange_zeroRow, fun _ => isByte_zero⟩
  · intro k σ h
    rw [next_rampTick]
    exact rampInRange_rampTick h _

theorem output_dbRampData (σ : Daemon) (i : Input) :
    (output p t σ i).dbRampData = publishRamp (next p t σ i).ramp := by
  simp only [output, next, tick]

/-- At every tick the ramp data is in range, the second check finds nothing in a sample that the
first has let through, and what is published is the newest row with the averages. -/
theorem ramp_data_run (k : ℕ) :
    RampInRange (daemonAt p t (start maxGreen1 u) ins k).ramp ∧
      (isValueNegative (tickGlobals (daemonAt p t (start maxGreen1 u) ins k) (ins k)) = false →
        checkNewRampData (getNewRampData
          (tickGlobals (daemonAt p t (start maxGreen1 u) ins k) (ins k))
          (moveRampDataForward (daemonAt p t (start maxGreen1 u) ins k).ramp)) = false) ∧
      (output p t (daemonAt p t (start maxGreen1 u) ins k) (ins k)).dbRampData =
        newestData (daemonAt p t (start maxGreen1 u) ins (k + 1)).ramp := by
  refine ⟨rampInRange_daemonAt p t maxGreen1 u ins k, ?_, ?_⟩
  · intro values
    exact checkNewRampData_of_setGlobals _ _ _ _ _ _ values
  · rw [output_dbRampData, ← daemonAt_succ]
    exact publishRamp_eq (rampInRange_daemonAt p t maxGreen1 u ins (k + 1))

end run

def countingInput (k : ℕ) : Input :=
  { quietInput with
    records.dbUrmsStatus.mainlineStat := fun _ => ⟨2, 12, 1, 200⟩
    records.dbUrmsStatus.meteredLaneStat := fun _ => ⟨7, 10, 0, 0⟩
    records.dbUrmsStatus.queueStat := fun _ => ⟨255⟩
    records.urmsDatafile.mainlineLeadOcc := fun _ => 12 + k
    records.urmsDatafile.queueOcc := fun _ => 50
    records.urmsDatafile.meteringRate := fun _ => -1 }

theorem counting_sample_passes :
    let ramp := (daemonAt straying {} (start 25 zeroRecords.dbUrmsStatus) countingInput 3).ramp
    let g := tickGlobals (daemonAt straying {} (start 25 zeroRecords.dbUrmsStatus) countingInput 3)
      (countingInput 3)
    (getNewRampData g (moveRampDataForward ramp)).mainlineLeadOcc newest 1 = 15 ∧
      (getNewRampData g (moveRampDataForward ramp)).meterRate newest 1 = 255 ∧
      checkNewRampData (getNewRampData g (moveRampDataForward ramp)) = false := by
  refine ⟨by decide +kernel, by decide +kernel, ?_⟩
  exact (ramp_data_run straying {} 25 zeroRecords.dbUrmsStatus countingInput 3).2.1
    (by decide +kernel)

end RampMetering
