import RampMetering.GreenOcc
import RampMetering.QueueBalance
import Mathlib.Tactic.FinCases

/-! The ranges of the signal data over a run. Whatever bytes the database holds, a sampled row has
signal states and detector bits where the detector loops expect them; so every occupancy
the daemon keeps is a share and every queue estimate lies between empty and full. -/

namespace RampMetering
open Window

def IsSignal (x : ℤ) : Prop := x = 0 ∨ x = 1 ∨ x = 2

def IsDetector (x : ℤ) : Prop := x = 0 ∨ x = 1

theorem isDetector_bitOf {x : ℤ} (h : 0 ≤ x) (n : ℕ) : IsDetector (bitOf x n) := by
  have shifted : 0 ≤ x >>> n := by
    rw [Int.shiftRight_eq_div_pow]
    exact Int.ediv_nonneg h (by positivity)
  rw [bitOf, Int.tmod_eq_emod_of_nonneg shifted]
  exact Int.emod_two_eq _

theorem isSignal_phaseSignalStatus (g : Globals) (n : ℕ) : IsSignal (phaseSignalStatus g n) := by
  unfold phaseSignalStatus
  split_ifs
  · exact .inr (.inl rfl)
  · exact .inr (.inr rfl)
  · exact .inl rfl

theorem isSignal_getPhase8SignalStatus (g : Globals) : IsSignal (getPhase8SignalStatus g) := by
  unfold getPhase8SignalStatus
  split_ifs
  · exact .inr (.inl rfl)
  · exact .inl rfl

/-- What each column of `realtime_data` may hold. -/
def InColumn : Fin maxcol → ℤ → Prop :=
  ![IsSignal, IsDetector, IsDetector, IsDetector, IsSignal, IsDetector, IsDetector, IsSignal,
    IsSignal, IsSignal]

theorem sampleOf_inColumn (i : Input) (col : Fin maxcol) : InColumn col (sampleOf i col) := by
  have byte := fun x : Byte => isDetector_bitOf (maskByte_nonneg x)
  fin_cases col
  · exact isSignal_phaseSignalStatus _ 4
  · exact byte _ 0
  · exact byte _ 2
  · exact byte _ 4
  · exact isSignal_getPhase8SignalStatus _
  · exact byte _ 1
  · exact byte _ 5
  · exact isSignal_phaseSignalStatus _ 5
  · exact isSignal_phaseSignalStatus _ 6
  · exact isSignal_phaseSignalStatus _ 2

theorem Holds.inColumn {s : SignalVariables} {ins : ℕ → Input} {ticks : List ℕ}
    (h : Holds s (samples ins ticks)) (i : ℕ) (inside : (i : ℤ) ≤ s.dataRow) (col : Fin maxcol) :
    InColumn col (s.realtimeData i col) := by
  have count := h.1
  have below : i < (samples ins ticks).length := by omega
  obtain ⟨j, -, sampled⟩ := List.mem_map.mp (List.getElem_mem below)
  rw [h.2 i below, ← sampled]
  exact sampleOf_inColumn (ins j) col

theorem Holds.occColumns {s : SignalVariables} {ins : ℕ → Input} {ticks : List ℕ}
    (h : Holds s (samples ins ticks)) : OccColumns s where
  signal5 := fun i inside => h.inColumn i inside phase5Signal
  signal8 := fun i inside => h.inColumn i inside phase8Signal
  approach1 := fun i inside => h.inColumn i inside phase5Approach1
  approach2 := fun i inside => h.inColumn i inside phase5Approach2
  approach8 := fun i inside => h.inColumn i inside phase8Approach

def IsShare (x : ℚ) : Prop := 0 ≤ x ∧ x ≤ 1

def IsQueue (x : ℚ) : Prop := 0 ≤ x ∧ x ≤ 100

structure SignalInRange (s : SignalVariables) : Prop where
  ltOcc : IsShare s.ltOcc
  oldLtOcc : IsShare s.oldLtOcc
  rtOcc : IsShare s.rtOcc
  rampQueue : IsQueue s.rampQueue
  oldRampQueue : IsQueue s.oldRampQueue
  rtExceedNum : 0 ≤ s.rtExceedNum

theorem isShare_zero : IsShare 0 := ⟨le_rfl, zero_le_one⟩

theorem isQueue_zero : IsQueue 0 := ⟨le_rfl, by norm_num⟩

theorem isQueue_getRampQueue (s : SignalVariables) (r : RampVariables) :
    IsQueue (getRampQueue s r) :=
  ⟨le_min (by norm_num) (le_max_right _ _), min_le_left _ _⟩

theorem countExceed_nonneg {s : SignalVariables} (h : 0 ≤ s.rtExceedNum) : 0 ≤ countExceed s := by
  unfold countExceed
  split_ifs
  · omega
  · exact h

theorem SignalInRange.recorded {s : SignalVariables} (h : SignalInRange s) (b : BarrierTick) :
    SignalInRange (recorded s b) :=
  ⟨h.ltOcc, h.oldLtOcc, h.rtOcc, h.rampQueue, h.oldRampQueue, h.rtExceedNum⟩

theorem SignalInRange.of_recorded {s s' : SignalVariables} {b : BarrierTick}
    (same : RampMetering.recorded s b = RampMetering.recorded s' b) (h : SignalInRange s') :
    SignalInRange s := by
  have all := same ▸ h.recorded b
  exact ⟨all.ltOcc, all.oldLtOcc, all.rtOcc, all.rampQueue, all.oldRampQueue, all.rtExceedNum⟩

theorem SignalInRange.callStep {t : Tuning} {s s' : SignalVariables} {b : Branch}
    (h : SignalInRange s) (step : CallStep t s b s') : SignalInRange s' := by
  obtain ⟨ltOcc, oldLtOcc, rtOcc, rampQueue, oldRampQueue, exceed⟩ := h
  have counted := countExceed_nonneg exceed
  cases step with
  | notActivated => exact ⟨ltOcc, oldLtOcc, rtOcc, rampQueue, oldRampQueue, exceed⟩
  | overwrite => exact ⟨ltOcc, oldLtOcc, rtOcc, rampQueue, oldRampQueue, exceed⟩
  | overwriteEnd => exact ⟨ltOcc, oldLtOcc, rtOcc, rampQueue, oldRampQueue, exceed⟩
  | regular => exact ⟨ltOcc, oldLtOcc, rtOcc, rampQueue, oldRampQueue, counted⟩
  | extend => exact ⟨ltOcc, oldLtOcc, rtOcc, rampQueue, oldRampQueue, le_rfl⟩
  | regularEnd => exact ⟨ltOcc, oldLtOcc, rtOcc, rampQueue, oldRampQueue, le_rfl⟩
  | wait => exact ⟨ltOcc, oldLtOcc, rtOcc, rampQueue, oldRampQueue, counted⟩
  | release => exact ⟨ltOcc, oldLtOcc, rtOcc, rampQueue, oldRampQueue, counted⟩

theorem isQueue_isActivation {s : SignalVariables} (h : IsQueue s.rampQueue) (t : Tuning)
    (r : RampVariables) : IsQueue (isActivation t s r).1.rampQueue := by
  unfold isActivation
  split_ifs
  · exact isQueue_getRampQueue s r
  all_goals exact h

theorem SignalInRange.getNewMaxGreenPhase3 {s : SignalVariables} (h : SignalInRange s) (t : Tuning)
    (r : RampVariables) : SignalInRange (getNewMaxGreenPhase3 t s r) := by
  obtain ⟨q, step⟩ := getNewMaxGreenPhase3_step t s r
  have stored : q = (isActivation t s r).1.rampQueue :=
    step.queue.1.symm.trans (getNewMaxGreenPhase3_queue t s r).1
  have queue := isQueue_isActivation h.rampQueue t r
  rw [← stored] at queue
  have before : SignalInRange { s with rampQueue := q } :=
    ⟨h.ltOcc, h.oldLtOcc, h.rtOcc, queue, h.oldRampQueue, h.rtExceedNum⟩
  exact before.callStep step

theorem SignalInRange.measured {s : SignalVariables} (h : SignalInRange s) (f : Rounding)
    {b : BarrierTick} (columns : OccColumns (RampMetering.recorded s b)) :
    SignalInRange (measured f s b) := by
  by_cases sound : checkRealtimeDataHealth (RampMetering.recorded s b).realtimeData
      (RampMetering.recorded s b).dataRow = 0
  · have occ := columns.occupancies_within sound f b.clock.barrier
    rw [RampMetering.measured]
    rw [getIntersectionMeasurement, if_neg (not_not.mpr sound)] at occ ⊢
    exact ⟨occ.1, h.ltOcc, occ.2, h.rampQueue, h.rampQueue, h.rtExceedNum⟩
  · rw [RampMetering.measured, getIntersectionMeasurement, if_pos sound]
    exact h.recorded b

theorem SignalInRange.barrierTick {s : SignalVariables} (h : SignalInRange s) (t : Tuning)
    {b : BarrierTick} (columns : OccColumns (RampMetering.recorded s b)) :
    SignalInRange (barrierTick t s b) := by
  rw [barrierTick_eq]
  split_ifs
  · have after := (h.measured t.rounding columns).getNewMaxGreenPhase3 t b.ramp
    exact ⟨after.ltOcc, after.oldLtOcc, after.rtOcc, after.rampQueue, after.oldRampQueue,
      after.rtExceedNum⟩
  · exact ⟨h.ltOcc, h.oldLtOcc, h.rtOcc, h.rampQueue, h.oldRampQueue, h.rtExceedNum⟩

section run

variable (p : Platform) (t : Tuning) (maxGreen1 : ℤ) (u : DbUrmsStatus) (ins : ℕ → Input)

theorem signalInRange_start : SignalInRange (start maxGreen1 u).signal :=
  ⟨isShare_zero, isShare_zero, isShare_zero, isQueue_zero, isQueue_zero, le_rfl⟩

theorem signal_of_noEdge {k : ℕ} (noEdge : isEdge (barrierLevel ins) k = false) :
    (daemonAt p t (start maxGreen1 u) ins (k + 1)).signal = sampledAt p t maxGreen1 u ins k := by
  rw [daemonAt_succ, next_signal, signalEdge_run, noEdge, testSignal_noEdge]
  rfl

theorem occColumns_recorded {k : ℕ}
    (fits : (window (isEdge (barrierLevel ins)) k).length ≤ maxrow) :
    OccColumns (recorded (daemonAt p t (start maxGreen1 u) ins k).signal
      (metAt p t maxGreen1 u ins k)) := by
  rw [recorded_daemonAt p t maxGreen1 u ins fits]
  exact (holds_window p t maxGreen1 u ins k fits).occColumns

/-- In every state of a run whose windows fit the array. -/
theorem signal_data_run (k : ℕ)
    (fits : ∀ j < k, (window (isEdge (barrierLevel ins)) j).length ≤ maxrow) :
    SignalInRange (daemonAt p t (start maxGreen1 u) ins k).signal := by
  induction k with
  | zero => exact signalInRange_start maxGreen1 u
  | succ k ih =>
    have before := ih fun j hj => fits j (by omega)
    have room := fits k (Nat.lt_succ_self k)
    cases edge : isEdge (barrierLevel ins) k
    · rw [signal_of_noEdge p t maxGreen1 u ins edge]
      exact before.of_recorded
        (recorded_sampledAt p t maxGreen1 u ins room (metAt p t maxGreen1 u ins k))
    · rw [signal_of_edge p t maxGreen1 u ins room edge]
      exact before.barrierTick t (occColumns_recorded p t maxGreen1 u ins room)

end run

theorem dark_cycle_in_range :
    SignalInRange (daemonAt straying byQueueEstimate (start 25 zeroRecords.dbUrmsStatus) darkCycle
      5).signal :=
  signal_data_run straying byQueueEstimate 25 zeroRecords.dbUrmsStatus darkCycle 5
    (by decide +kernel)

end RampMetering
