import RampMetering.BarrierRun

/-! The two intervals of the ramp queue. Arrivals are counted over the rows since the last
barrier, departures over the time since the last barrier that passed the health check: only
that one stores its time, while every barrier puts the row index back. -/

namespace RampMetering
open Window

section call

variable {t : Tuning} {s s' : SignalVariables} {b : Branch}

theorem CallStep.queue (step : CallStep t s b s') :
    s'.rampQueue = s.rampQueue ∧ s'.currentCycleTerminateTime = s.currentCycleTerminateTime := by
  cases step <;> exact ⟨rfl, rfl⟩

theorem getNewMaxGreenPhase3_queue (t : Tuning) (s : SignalVariables) (r : RampVariables) :
    (getNewMaxGreenPhase3 t s r).rampQueue = (isActivation t s r).1.rampQueue ∧
      (getNewMaxGreenPhase3 t s r).currentCycleTerminateTime =
        (isActivation t s r).1.currentCycleTerminateTime := by
  unfold getNewMaxGreenPhase3
  obtain ⟨s, activated⟩ := isActivation t s r
  cases activated
  · exact ⟨rfl, rfl⟩
  · exact (activated_step t s).queue

theorem rampQueue_eq (method : t.methodForRampQueue = 1) (s : SignalVariables)
    (r : RampVariables) : (getNewMaxGreenPhase3 t s r).rampQueue = getRampQueue s r := by
  rw [(getNewMaxGreenPhase3_queue t s r).1, isActivation, if_pos method]

theorem getNewMaxGreenPhase3_currentCycleTerminateTime (t : Tuning) (s : SignalVariables)
    (r : RampVariables) : (getNewMaxGreenPhase3 t s r).currentCycleTerminateTime =
      s.currentCycleTerminateTime := by
  obtain ⟨q, stored⟩ := isActivation_fst t s r
  rw [(getNewMaxGreenPhase3_queue t s r).2, stored]

end call

theorem measured_healthy (f : Rounding) {b : BarrierTick} (through : healthy b = true)
    (s : SignalVariables) :
    (measured f s b).prevCycleTerminateTime = s.currentCycleTerminateTime ∧
      (measured f s b).currentCycleTerminateTime = b.clock.barrier := by
  have sound : ¬checkRealtimeDataHealth (recorded s b).realtimeData (recorded s b).dataRow ≠ 0 :=
    not_not.mpr (of_decide_eq_true through)
  rw [measured, getIntersectionMeasurement, if_neg sound]
  exact ⟨rfl, rfl⟩

theorem keptRows_measured (f : Rounding) (s : SignalVariables) (b : BarrierTick) :
    keptRows (measured f s b) = keptRows (recorded s b) := by
  unfold measured getIntersectionMeasurement
  split_ifs
  · rfl
  · rfl

def timeAt (ins : ℕ → Input) (k : ℕ) : ℚ := (ins k).clock.barrier

theorem holds_matrixOf (rs : List Row) :
    Holds { staticSignal with realtimeData := matrixOf rs, dataRow := rs.length - 1 } rs :=
  ⟨by simp, fun n h => List.getD_eq_getElem rs _ h⟩

/-- Tick `k` is a barrier, and the samples since the one before pass the health check. -/
def healthyAt (ins : ℕ → Input) (k : ℕ) : Bool :=
  isEdge (barrierLevel ins) k &&
    decide (checkRealtimeDataHealth (matrixOf (samples ins (window (isEdge (barrierLevel ins)) k)))
      ((window (isEdge (barrierLevel ins)) k).length - 1) = 0)

/-- The time of the last healthy barrier before tick `k`, 0 before the first. -/
def lastHealthyTime (ins : ℕ → Input) : ℕ → ℚ
  | 0 => 0
  | k + 1 => if healthyAt ins k then timeAt ins k else lastHealthyTime ins k

section run

variable (p : Platform) (t : Tuning) (maxGreen1 : ℤ) (u : DbUrmsStatus) (ins : ℕ → Input)

theorem healthyAt_eq {k : ℕ} (fits : (window (isEdge (barrierLevel ins)) k).length ≤ maxrow) :
    healthyAt ins k =
      (isEdge (barrierLevel ins) k && healthy (metAt p t maxGreen1 u ins k)) := by
  obtain ⟨index, agree⟩ := (holds_window p t maxGreen1 u ins k fits).agree
    (holds_matrixOf (samples ins (window (isEdge (barrierLevel ins)) k)))
  have verdict := checkRealtimeDataHealth_congr agree
  rw [index] at verdict
  rw [samples_length] at index verdict
  unfold healthyAt healthy
  rw [← verdict]
  exact congrArg (fun row => isEdge (barrierLevel ins) k && decide (checkRealtimeDataHealth
    (metAt p t maxGreen1 u ins k).realtimeData row = 0)) index.symm

/-- The state in which `get_ramp_queue` runs at tick `k`. -/
def measuredAt (k : ℕ) : SignalVariables :=
  (getIntersectionMeasurement t.rounding (sampledAt p t maxGreen1 u ins k)
    (ins k).clock.barrier).1

theorem recorded_daemonAt {k : ℕ}
    (fits : (window (isEdge (barrierLevel ins)) k).length ≤ maxrow) :
    recorded (daemonAt p t (start maxGreen1 u) ins k).signal (metAt p t maxGreen1 u ins k) =
      sampledAt p t maxGreen1 u ins k :=
  (recorded_sampledAt p t maxGreen1 u ins fits (metAt p t maxGreen1 u ins k)).symm

theorem measuredAt_eq {k : ℕ}
    (fits : (window (isEdge (barrierLevel ins)) k).length ≤ maxrow) :
    measuredAt p t maxGreen1 u ins k =
      measured t.rounding (daemonAt p t (start maxGreen1 u) ins k).signal
        (metAt p t maxGreen1 u ins k) := by
  rw [measured, recorded_daemonAt p t maxGreen1 u ins fits]
  rfl

theorem signal_of_edge {k : ℕ}
    (fits : (window (isEdge (barrierLevel ins)) k).length ≤ maxrow)
    (edge : isEdge (barrierLevel ins) k = true) :
    (daemonAt p t (start maxGreen1 u) ins (k + 1)).signal =
      barrierTick t (daemonAt p t (start maxGreen1 u) ins k).signal
        (metAt p t maxGreen1 u ins k) := by
  rw [barrierTick, recorded_daemonAt p t maxGreen1 u ins fits, daemonAt_succ, next_signal,
    signalEdge_run, edge]
  rfl

theorem currentCycleTerminateTime_run (k : ℕ)
    (fits : ∀ j < k, (window (isEdge (barrierLevel ins)) j).length ≤ maxrow) :
    (daemonAt p t (start maxGreen1 u) ins k).signal.currentCycleTerminateTime =
      lastHealthyTime ins k := by
  induction k with
  | zero => rfl
  | succ k ih =>
    have before := ih fun j hj => fits j (by omega)
    have room := fits k (Nat.lt_succ_self k)
    rw [lastHealthyTime, healthyAt_eq p t maxGreen1 u ins room]
    cases edge : isEdge (barrierLevel ins) k
    · have stored := recorded_sampledAt p t maxGreen1 u ins room (metAt p t maxGreen1 u ins k)
      rw [daemonAt_succ, next_signal, signalEdge_run, edge, testSignal_noEdge]
      simp only [Bool.false_and, Bool.false_eq_true, if_false]
      have kept := congrArg SignalVariables.currentCycleTerminateTime stored
      exact kept.trans before
    · rw [signal_of_edge p t maxGreen1 u ins room edge, barrierTick_eq]
      cases through : healthy (metAt p t maxGreen1 u ins k)
      · exact before
      · have time := (measured_healthy t.rounding through
          (daemonAt p t (start maxGreen1 u) ins k).signal).2
        exact (getNewMaxGreenPhase3_currentCycleTerminateTime _ _ _).trans time

theorem updates_eq_healthy {k : ℕ}
    (fits : (window (isEdge (barrierLevel ins)) k).length ≤ maxrow) :
    (getIntersectionMeasurement t.rounding (sampledAt p t maxGreen1 u ins k)
        (ins k).clock.barrier).2 =
      healthy (metAt p t maxGreen1 u ins k) := by
  rw [← recorded_daemonAt p t maxGreen1 u ins fits]
  exact congrArg Prod.snd (getIntersectionMeasurement_recorded _ _ _)

theorem measuredAt_times {k : ℕ}
    (fits : ∀ j ≤ k, (window (isEdge (barrierLevel ins)) j).length ≤ maxrow)
    (through : healthy (metAt p t maxGreen1 u ins k) = true) :
    (measuredAt p t maxGreen1 u ins k).prevCycleTerminateTime = lastHealthyTime ins k ∧
      (measuredAt p t maxGreen1 u ins k).currentCycleTerminateTime = timeAt ins k := by
  obtain ⟨prev, current⟩ := measured_healthy t.rounding through
    (daemonAt p t (start maxGreen1 u) ins k).signal
  rw [measuredAt_eq p t maxGreen1 u ins (fits k le_rfl), prev, current,
    currentCycleTerminateTime_run p t maxGreen1 u ins k fun j hj => fits j hj.le]
  exact ⟨rfl, rfl⟩

/-- At a barrier that updates the queue, arrivals and departures are taken over the same ticks
exactly when no time lies between the last healthy barrier and the last barrier at all, and
the clock moves on after either barrier tick. -/
theorem queue_interval_iff (method : t.methodForRampQueue = 1) {n k : ℕ} (hk : k < n)
    (fits : ∀ j ≤ k, (window (isEdge (barrierLevel ins)) j).length ≤ maxrow)
    (clock : ∀ i j, i ≤ j → j < n → timeAt ins i ≤ timeAt ins j)
    (edge : isEdge (barrierLevel ins) k = true)
    (updates : (getIntersectionMeasurement t.rounding (sampledAt p t maxGreen1 u ins k)
      (ins k).clock.barrier).2 = true) :
    (daemonAt p t (start maxGreen1 u) ins (k + 1)).signal.rampQueue =
        getRampQueue (measuredAt p t maxGreen1 u ins k)
          (daemonAt p t (start maxGreen1 u) ins (k + 1)).ramp ∧
      keptRows (measuredAt p t maxGreen1 u ins k) =
        samples ins (window (isEdge (barrierLevel ins)) k) ∧
      ((∀ j < n, j ∈ window (isEdge (barrierLevel ins)) k ↔
          (measuredAt p t maxGreen1 u ins k).prevCycleTerminateTime < timeAt ins j ∧
            timeAt ins j ≤ (measuredAt p t maxGreen1 u ins k).currentCycleTerminateTime) ↔
        (∀ e, e + 1 = windowStart (isEdge (barrierLevel ins)) k →
            timeAt ins e ≤ lastHealthyTime ins k) ∧
          lastHealthyTime ins k < timeAt ins (windowStart (isEdge (barrierLevel ins)) k) ∧
          (k + 1 < n → timeAt ins k < timeAt ins (k + 1))) := by
  have room := fits k le_rfl
  have through := (updates_eq_healthy p t maxGreen1 u ins room).symm.trans updates
  obtain ⟨prev, current⟩ := measuredAt_times p t maxGreen1 u ins fits through
  refine ⟨?_, ?_, ?_⟩
  · rw [signal_of_edge p t maxGreen1 u ins room edge, barrierTick_eq, through, if_pos rfl,
      measuredAt_eq p t maxGreen1 u ins room]
    exact rampQueue_eq method _ _
  · rw [measuredAt_eq p t maxGreen1 u ins room, keptRows_measured,
      recorded_daemonAt p t maxGreen1 u ins room]
    exact (holds_window p t maxGreen1 u ins k room).keptRows_eq
  · rw [prev, current]
    exact mem_window_iff_stamped clock hk (lastHealthyTime ins k)

end run

/-- A tick every ten seconds, a barrier at every other one; the barrier of tick 2 has seen no
green light. -/
def darkCycle (k : ℕ) : Input :=
  { quietInput with
    clock.barrier := 10 * (k + 1)
    records.phaseStatus.barrierFlag := if k % 2 = 0 then 1 else 0
    records.phaseStatus.greens := if k % 4 = 0 then 16 else 0
    records.status.greenYellowOverlap := if k % 4 = 0 then 2 else 0 }

def byQueueEstimate : Tuning := { methodForRampQueue := 1 }

theorem darkCycle_clock {i j : ℕ} (hij : i ≤ j) : timeAt darkCycle i ≤ timeAt darkCycle j := by
  have later : (i : ℚ) ≤ j := Nat.cast_le.mpr hij
  simp only [timeAt, darkCycle]
  linarith

theorem metAt_healthy {ins : ℕ → Input} {k : ℕ}
    (fits : (window (isEdge (barrierLevel ins)) k).length ≤ maxrow)
    (through : healthyAt ins k = true) :
    healthy (metAt straying byQueueEstimate 25 zeroRecords.dbUrmsStatus ins k) = true := by
  rw [healthyAt_eq straying byQueueEstimate 25 zeroRecords.dbUrmsStatus ins fits,
    Bool.and_eq_true] at through
  exact through.2

def lightCycle (k : ℕ) : Input :=
  { darkCycle k with
    records.phaseStatus.greens := 16
    records.status.greenYellowOverlap := 2 }

theorem lightCycle_balances :
    1 ∈ window (isEdge (barrierLevel lightCycle)) 2 ↔
      (measuredAt straying byQueueEstimate 25 zeroRecords.dbUrmsStatus lightCycle
          2).prevCycleTerminateTime < timeAt lightCycle 1 ∧
        timeAt lightCycle 1 ≤ (measuredAt straying byQueueEstimate 25 zeroRecords.dbUrmsStatus
          lightCycle 2).currentCycleTerminateTime := by
  have fits : ∀ j ≤ 2, (window (isEdge (barrierLevel lightCycle)) j).length ≤ maxrow := by
    decide +kernel
  have updates := (updates_eq_healthy straying byQueueEstimate 25 zeroRecords.dbUrmsStatus
    lightCycle (fits 2 le_rfl)).trans (metAt_healthy (fits 2 le_rfl) (by decide +kernel))
  have balance := (queue_interval_iff straying byQueueEstimate 25 zeroRecords.dbUrmsStatus
    lightCycle rfl (show 2 < 3 by decide) fits
    (fun i j hij _ => darkCycle_clock hij) rfl updates).2.2
  refine balance.mpr ⟨fun e before => ?_, by decide +kernel, fun later => absurd later
    (by decide)⟩ 1 (by decide)
  obtain rfl : e = 0 := by
    have first : windowStart (isEdge (barrierLevel lightCycle)) 2 = 1 := by decide +kernel
    omega
  decide +kernel

/-- The barrier after a dark one: departures are counted from the first barrier on, arrivals
from the dark one. -/
theorem dark_cycle_unbalanced :
    isEdge (barrierLevel darkCycle) 4 = true ∧
    (getIntersectionMeasurement byQueueEstimate.rounding (sampledAt straying byQueueEstimate 25
      zeroRecords.dbUrmsStatus darkCycle 4) (darkCycle 4).clock.barrier).2 = true ∧
    1 ∉ window (isEdge (barrierLevel darkCycle)) 4 ∧
    (measuredAt straying byQueueEstimate 25 zeroRecords.dbUrmsStatus darkCycle
      4).prevCycleTerminateTime < timeAt darkCycle 1 ∧
    timeAt darkCycle 1 ≤ (measuredAt straying byQueueEstimate 25 zeroRecords.dbUrmsStatus darkCycle
      4).currentCycleTerminateTime := by
  have fits : ∀ j ≤ 4, (window (isEdge (barrierLevel darkCycle)) j).length ≤ maxrow := by
    decide +kernel
  have through := metAt_healthy (fits 4 le_rfl) (by decide +kernel)
  obtain ⟨prev, current⟩ := measuredAt_times straying byQueueEstimate 25 zeroRecords.dbUrmsStatus
    darkCycle fits through
  rw [prev, current, updates_eq_healthy straying byQueueEstimate 25 zeroRecords.dbUrmsStatus
    darkCycle (fits 4 le_rfl)]
  exact ⟨rfl, through, by decide +kernel, by decide +kernel, darkCycle_clock (by decide)⟩

end RampMetering
