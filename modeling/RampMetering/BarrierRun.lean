import RampMetering.Barrier
import RampMetering.Release
import Mathlib.Data.Nat.Nth

/-! Runs of barriers. Of a run of the daemon only the barrier ticks matter to the automaton:
between them nothing but the recorded rows changes, and a barrier let through by the health
check is one call of `get_new_max_green_phase3`. -/

namespace RampMetering
open Window

structure BarrierTick where
  clock : Clock
  ramp : RampVariables
  realtimeData : Matrix
  dataRow : ℤ

def recorded (s : SignalVariables) (b : BarrierTick) : SignalVariables :=
  { s with
    realtimeData := b.realtimeData
    dataRow := b.dataRow }

theorem Holds.recorded_readRealTimeData {s : SignalVariables} {earlier : List Row}
    (h : Holds s earlier) (overrun : SignalVariables → Row → SignalVariables) (g : Globals)
    (room : earlier.length < maxrow) (b : BarrierTick) :
    recorded (RampMetering.readRealTimeData overrun g s) b = recorded s b := by
  have row : s.dataRow + 1 = earlier.length := h.1
  have inside : 0 ≤ s.dataRow + 1 ∧ s.dataRow + 1 < (maxrow : ℤ) := by omega
  rw [RampMetering.readRealTimeData, storeRow, if_pos inside]
  rfl

/-- The signal data after the barrier tick; its `new_max_green` is what `main` sends. -/
def barrierTick (t : Tuning) (s : SignalVariables) (b : BarrierTick) : SignalVariables :=
  (testSignal t b.clock true b.ramp (recorded s b)).1

def barriersAt (t : Tuning) (maxGreen1 : ℤ) (bs : ℕ → BarrierTick) (k : ℕ) : SignalVariables :=
  Run.run (barrierTick t) (startSignal maxGreen1) bs k

def sentAt (t : Tuning) (maxGreen1 : ℤ) (bs : ℕ → BarrierTick) (k : ℕ) : ℤ :=
  (barriersAt t maxGreen1 bs (k + 1)).newMaxGreen

def healthy (b : BarrierTick) : Bool :=
  decide (checkRealtimeDataHealth b.realtimeData b.dataRow = 0)

def measured (f : Rounding) (s : SignalVariables) (b : BarrierTick) : SignalVariables :=
  (getIntersectionMeasurement f (recorded s b) b.clock.barrier).1

theorem getIntersectionMeasurement_recorded (f : Rounding) (s : SignalVariables)
    (b : BarrierTick) :
    getIntersectionMeasurement f (recorded s b) b.clock.barrier =
      (measured f s b, healthy b) := by
  have verdict : (getIntersectionMeasurement f (recorded s b) b.clock.barrier).2 = healthy b := by
    unfold getIntersectionMeasurement healthy
    split_ifs with h
    · exact (decide_eq_false h).symm
    · exact (decide_eq_true (not_not.mp h)).symm
  exact Prod.ext rfl verdict

theorem measured_unhealthy (f : Rounding) (s : SignalVariables) (b : BarrierTick)
    (held : healthy b = false) : measured f s b = recorded s b := by
  rw [measured, getIntersectionMeasurement, if_pos]
  exact of_decide_eq_false held

theorem barrierTick_eq (t : Tuning) (s : SignalVariables) (b : BarrierTick) :
    barrierTick t s b =
      if healthy b then
        { getNewMaxGreenPhase3 t (measured t.rounding s b) b.ramp with
          lastSentMaxGreen := (getNewMaxGreenPhase3 t (measured t.rounding s b) b.ramp).newMaxGreen
          dataRow := -1 }
      else { recorded s b with dataRow := -1 } := by
  rw [barrierTick, testSignal_edge, atBarrier_eq, getIntersectionMeasurement_recorded,
    afterMeasurement]
  cases through : healthy b
  · simp only [Bool.false_eq_true, if_false, measured_unhealthy t.rounding s b through]
  · rfl

def measurementOf (f : Rounding) (s : SignalVariables) (b : BarrierTick) : Measurement where
  ltOcc := (measured f s b).ltOcc
  oldLtOcc := (measured f s b).oldLtOcc
  rtOcc := (measured f s b).rtOcc
  oldRampQueue := (measured f s b).oldRampQueue
  realtimeData := b.realtimeData
  dataRow := b.dataRow
  prevCycleTerminateTime := (measured f s b).prevCycleTerminateTime
  currentCycleTerminateTime := (measured f s b).currentCycleTerminateTime
  ramp := b.ramp

theorem measure_measurementOf (f : Rounding) (s : SignalVariables) (b : BarrierTick) :
    measure s (measurementOf f s b) = measured f s b := by
  unfold measure measurementOf measured getIntersectionMeasurement
  split_ifs <;> rfl

theorem barrierTick_call (t : Tuning) (s : SignalVariables) (b : BarrierTick)
    (through : healthy b = true) :
    barrierTick t s b =
      { call t s (measurementOf t.rounding s b) with
        lastSentMaxGreen := (call t s (measurementOf t.rounding s b)).newMaxGreen
        dataRow := -1 } := by
  rw [barrierTick_eq, through, if_pos rfl, call, measure_measurementOf]
  rfl

section daemon

variable (p : Platform) (t : Tuning) (maxGreen1 : ℤ) (u : DbUrmsStatus) (ins : ℕ → Input)

def metAt (k : ℕ) : BarrierTick where
  clock := (ins k).clock
  ramp := (daemonAt p t (start maxGreen1 u) ins (k + 1)).ramp
  realtimeData := (sampledAt p t maxGreen1 u ins k).realtimeData
  dataRow := (sampledAt p t maxGreen1 u ins k).dataRow

def edgeAt (k : ℕ) : Prop := isEdge (barrierLevel ins) k = true

instance : DecidablePred (edgeAt ins) := fun _ => inferInstanceAs (Decidable (_ = true))

noncomputable def barriersOf (j : ℕ) : BarrierTick :=
  metAt p t maxGreen1 u ins (Nat.nth (edgeAt ins) j)

theorem barriersOf_count {k : ℕ} (edge : edgeAt ins k) :
    barriersOf p t maxGreen1 u ins (Nat.count (edgeAt ins) k) = metAt p t maxGreen1 u ins k := by
  rw [barriersOf, Nat.nth_count edge]

theorem recorded_sampledAt {k : ℕ}
    (fits : (window (isEdge (barrierLevel ins)) k).length ≤ maxrow) (b : BarrierTick) :
    recorded (sampledAt p t maxGreen1 u ins k) b =
      recorded (daemonAt p t (start maxGreen1 u) ins k).signal b := by
  rw [window_length] at fits
  exact (holds_pending p t maxGreen1 u ins k (by omega)).recorded_readRealTimeData _ _
    (by rw [samples_length]; omega) b

/-- While the windows fit the array, the signal data of the daemon is that of its run of
barriers, but for the rows recorded since the last one. -/
theorem signal_barriersAt (k : ℕ)
    (fits : ∀ j < k, (window (isEdge (barrierLevel ins)) j).length ≤ maxrow) (b : BarrierTick) :
    recorded (daemonAt p t (start maxGreen1 u) ins k).signal b =
      recorded (barriersAt t maxGreen1 (barriersOf p t maxGreen1 u ins)
        (Nat.count (edgeAt ins) k)) b := by
  induction k generalizing b with
  | zero => rfl
  | succ k ih =>
    have before := ih fun j hj => fits j (by omega)
    have sampled := recorded_sampledAt p t maxGreen1 u ins (fits k (Nat.lt_succ_self k))
    rw [daemonAt_succ, next_signal, signalEdge_run, ← daemonAt_succ]
    by_cases edge : edgeAt ins k
    · rw [Nat.count_succ_eq_succ_count edge, barriersAt, Run.run_succ,
        barriersOf_count p t maxGreen1 u ins edge,
        show isEdge (barrierLevel ins) k = true from edge]
      have arrived := (sampled (metAt p t maxGreen1 u ins k)).trans (before _)
      exact congrArg (fun s => recorded (testSignal t (ins k).clock true
        (metAt p t maxGreen1 u ins k).ramp s).1 b) arrived
    · rw [Nat.count_succ_eq_count edge, Bool.eq_false_iff.mpr edge, testSignal_noEdge]
      exact (sampled b).trans (before b)

theorem sentMaxGreen_eq (k : ℕ)
    (fits : ∀ j ≤ k, (window (isEdge (barrierLevel ins)) j).length ≤ maxrow) :
    (output p t (daemonAt p t (start maxGreen1 u) ins k) (ins k)).sentMaxGreen =
      if edgeAt ins k then
        some (sentAt t maxGreen1 (barriersOf p t maxGreen1 u ins) (Nat.count (edgeAt ins) k))
      else none := by
  have agree := signal_barriersAt p t maxGreen1 u ins (k + 1) (fun j hj => fits j (by omega))
    (metAt p t maxGreen1 u ins k)
  rw [output_sentMaxGreen, signalEdge_run, ← daemonAt_succ]
  by_cases edge : edgeAt ins k
  · rw [Nat.count_succ_eq_succ_count edge] at agree
    rw [if_pos (show isEdge (barrierLevel ins) k = true from edge), if_pos edge, sentAt]
    exact congrArg (fun s => some s.newMaxGreen) agree
  · rw [if_neg (show ¬isEdge (barrierLevel ins) k = true from edge), if_neg edge]

end daemon

end RampMetering
