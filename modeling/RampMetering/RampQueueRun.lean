import RampMetering.Lib.Reflect
import RampMetering.RampRun
import RampMetering.Repoll
import RampMetering.SignalRange
import RampMetering.VehicleCount

/-! The ramp queue over a run. Every healthy barrier adds the vehicles counted since the last
barrier, takes off those that left the ramp since the last healthy one, and stops at 0 and at
100: the estimate is a walk between two walls, driven by the inputs alone. -/

namespace RampMetering
open Reflect Window

def arrivalVol (rs : List Row) : ℤ :=
  vehicles phase5Signal phase5Approach1 rs + vehicles phase5Signal phase5Approach2 rs +
    vehicles phase8Signal phase8Approach rs

def arrivalsAt (ins : ℕ → Input) (k : ℕ) : ℤ :=
  arrivalVol (samples ins (window (isEdge (barrierLevel ins)) k))

/-- Over the time since the last healthy barrier. -/
def departuresAt (ins : ℕ → Input) (k : ℕ) : ℚ :=
  getRampExitVol (readsAt staticRamp (fun k => (ins k).records) (k + 1)) (lastHealthyTime ins k)
    (timeAt ins k)

def netAt (ins : ℕ → Input) (k : ℕ) : ℚ := arrivalsAt ins k - departuresAt ins k

def nets (ins : ℕ → Input) (j k : ℕ) : List ℚ :=
  ((List.range' j (k - j)).filter (healthyAt ins)).map (netAt ins)

theorem nets_self (ins : ℕ → Input) (k : ℕ) : nets ins k k = [] := by
  rw [nets, Nat.sub_self]
  rfl

theorem nets_succ (ins : ℕ → Input) {j k : ℕ} (hjk : j ≤ k) :
    nets ins j (k + 1) =
      if healthyAt ins k then nets ins j k ++ [netAt ins k] else nets ins j k := by
  have last : List.range' j (k + 1 - j) = List.range' j (k - j) ++ [k] := by
    rw [Nat.succ_sub hjk, List.range'_1_concat, Nat.add_sub_cancel' hjk]
  rw [nets, nets, last, List.filter_append, List.map_append]
  cases through : healthyAt ins k
  · simp [through]
  · simp [through]

theorem getRampExitVol_congr {r r' : RampVariables} (same : rampRows r = rampRows r')
    (t1 t2 : ℚ) : getRampExitVol r t1 t2 = getRampExitVol r' t1 t2 := by
  have times : r.dataTime = r'.dataTime :=
    congrArg (fun x : History RampRow => fun i => (x i).dataTime) same
  have vols : totalPassageVol r = totalPassageVol r' :=
    congrArg (fun x : History RampRow => fun i => rowVol (x i)) same
  rw [getRampExitVol, getRampExitVol, rampExitLoop_congr times vols]

theorem getRampQueue_eq {s : SignalVariables} (columns : OccColumns s) (r : RampVariables) :
    getRampQueue s r = reflect 0 100 s.oldRampQueue (arrivalVol (keptRows s) -
      getRampExitVol r s.prevCycleTerminateTime s.currentCycleTerminateTime) := by
  unfold getRampQueue reflect clamp arrivalVol keptRows
  rw [getDetectorCounts_eq columns.approach1, getDetectorCounts_eq columns.approach2,
    getDetectorCounts_eq columns.approach8]
  refine congrArg (fun queue => min 100 (max queue 0)) ?_
  push_cast
  ring

theorem measured_queue (f : Rounding) {b : BarrierTick} (through : healthy b = true)
    (s : SignalVariables) :
    (measured f s b).oldRampQueue = s.rampQueue ∧ (measured f s b).rampQueue = s.rampQueue := by
  have sound : ¬checkRealtimeDataHealth (recorded s b).realtimeData (recorded s b).dataRow ≠ 0 :=
    not_not.mpr (of_decide_eq_true through)
  rw [measured, getIntersectionMeasurement, if_neg sound]
  exact ⟨rfl, rfl⟩

theorem OccColumns.measured (f : Rounding) {s : SignalVariables} {b : BarrierTick}
    (columns : OccColumns (recorded s b)) : OccColumns (measured f s b) := by
  unfold RampMetering.measured getIntersectionMeasurement
  split_ifs
  · exact columns
  · exact ⟨columns.signal5, columns.signal8, columns.approach1, columns.approach2,
      columns.approach8⟩

theorem rampQueue_kept {t : Tuning} (method : t.methodForRampQueue ≠ 1) (s : SignalVariables)
    (r : RampVariables) : (getNewMaxGreenPhase3 t s r).rampQueue = s.rampQueue := by
  have kept : (isActivation t s r).1 = s := by
    rw [isActivation, if_neg method]
    split_ifs
    · rfl
    · rfl
    · rfl
  rw [(getNewMaxGreenPhase3_queue t s r).1, kept]

section run

variable (p : Platform) (t : Tuning) (maxGreen1 : ℤ) (u : DbUrmsStatus) (ins : ℕ → Input)

def rampQueueAt (k : ℕ) : ℚ := (daemonAt p t (start maxGreen1 u) ins k).signal.rampQueue

theorem rampQueueAt_zero : rampQueueAt p t maxGreen1 u ins 0 = 0 := rfl

theorem rampQueue_sampledAt {k : ℕ}
    (fits : (window (isEdge (barrierLevel ins)) k).length ≤ maxrow) :
    (sampledAt p t maxGreen1 u ins k).rampQueue = rampQueueAt p t maxGreen1 u ins k := by
  have stored := recorded_sampledAt p t maxGreen1 u ins fits (metAt p t maxGreen1 u ins k)
  have kept := congrArg SignalVariables.rampQueue stored
  exact kept

theorem getRampQueue_measuredAt {k : ℕ}
    (fits : ∀ j ≤ k, (window (isEdge (barrierLevel ins)) j).length ≤ maxrow)
    (through : healthy (metAt p t maxGreen1 u ins k) = true) :
    getRampQueue (measuredAt p t maxGreen1 u ins k) (metAt p t maxGreen1 u ins k).ramp =
      reflect 0 100 (rampQueueAt p t maxGreen1 u ins k) (netAt ins k) := by
  have room := fits k le_rfl
  have history : rampRows (metAt p t maxGreen1 u ins k).ramp =
      rampRows (readsAt staticRamp (fun k => (ins k).records) (k + 1)) :=
    rampRows_daemonAt p t maxGreen1 u ins (k + 1)
  have columns := (occColumns_recorded p t maxGreen1 u ins room).measured t.rounding
  have queue :=
    (measured_queue t.rounding through (daemonAt p t (start maxGreen1 u) ins k).signal).1
  have rows := (holds_window p t maxGreen1 u ins k room).keptRows_eq
  obtain ⟨prev, current⟩ := measuredAt_times p t maxGreen1 u ins fits through
  rw [measuredAt_eq p t maxGreen1 u ins room] at prev current ⊢
  rw [getRampQueue_eq columns, queue, prev, current, getRampExitVol_congr history,
    keptRows_measured, recorded_daemonAt p t maxGreen1 u ins room]
  rw [← sampledAt] at rows
  rw [rows]
  rfl

theorem rampQueueAt_succ {k : ℕ}
    (fits : ∀ j ≤ k, (window (isEdge (barrierLevel ins)) j).length ≤ maxrow) :
    rampQueueAt p t maxGreen1 u ins (k + 1) =
      if healthyAt ins k ∧ t.methodForRampQueue = 1 then
        reflect 0 100 (rampQueueAt p t maxGreen1 u ins k) (netAt ins k)
      else rampQueueAt p t maxGreen1 u ins k := by
  have room := fits k le_rfl
  rw [healthyAt_eq p t maxGreen1 u ins room]
  cases edge : isEdge (barrierLevel ins) k
  · rw [rampQueueAt, signal_of_noEdge p t maxGreen1 u ins edge,
      rampQueue_sampledAt p t maxGreen1 u ins room]
    simp
  · rw [rampQueueAt, signal_of_edge p t maxGreen1 u ins room edge, barrierTick_eq]
    cases through : healthy (metAt p t maxGreen1 u ins k)
    · simp [recorded, rampQueueAt]
    · have stored := getRampQueue_measuredAt p t maxGreen1 u ins fits through
      have before :=
        (measured_queue t.rounding through (daemonAt p t (start maxGreen1 u) ins k).signal).2
      rw [measuredAt_eq p t maxGreen1 u ins room] at stored
      rw [if_pos rfl]
      by_cases method : t.methodForRampQueue = 1
      · rw [if_pos ⟨rfl, method⟩, ← stored]
        exact rampQueue_eq method _ _
      · rw [if_neg fun both => method both.2, rampQueueAt, ← before]
        exact rampQueue_kept method _ _

theorem rampQueueAt_reflectAll (method : t.methodForRampQueue = 1) {j k : ℕ} (hjk : j ≤ k)
    (fits : ∀ i < k, (window (isEdge (barrierLevel ins)) i).length ≤ maxrow) :
    rampQueueAt p t maxGreen1 u ins k =
      reflectAll 0 100 (rampQueueAt p t maxGreen1 u ins j) (nets ins j k) := by
  induction k, hjk using Nat.le_induction with
  | base =>
    rw [nets_self]
    rfl
  | succ k hjk ih =>
    have before := ih fun i hi => fits i (by omega)
    rw [rampQueueAt_succ p t maxGreen1 u ins fun i hi => fits i (by omega), nets_succ ins hjk]
    cases through : healthyAt ins k
    · rw [if_neg (by simp)]
      exact before
    · rw [if_pos ⟨rfl, method⟩, if_pos rfl, reflectAll_concat, ← before]
      rfl

theorem rampQueueAt_unused (method : t.methodForRampQueue ≠ 1) (k : ℕ)
    (fits : ∀ i < k, (window (isEdge (barrierLevel ins)) i).length ≤ maxrow) :
    rampQueueAt p t maxGreen1 u ins k = 0 := by
  induction k with
  | zero => exact rampQueueAt_zero p t maxGreen1 u ins
  | succ k ih =>
    rw [rampQueueAt_succ p t maxGreen1 u ins fun i hi => fits i (by omega),
      if_neg fun both => method both.2]
    exact ih fun i hi => fits i (by omega)

theorem isQueue_rampQueueAt (k : ℕ)
    (fits : ∀ i < k, (window (isEdge (barrierLevel ins)) i).length ≤ maxrow) :
    IsQueue (rampQueueAt p t maxGreen1 u ins k) := by
  by_cases method : t.methodForRampQueue = 1
  · rw [rampQueueAt_reflectAll p t maxGreen1 u ins method (Nat.zero_le k) fits, rampQueueAt_zero]
    exact reflectAll_mem (by norm_num) le_rfl (by norm_num) _
  · rw [rampQueueAt_unused p t maxGreen1 u ins method k fits]
    exact isQueue_zero

/-- The queue of any state of a run: with the estimate as the method it is the one of any earlier
tick, moved by what the healthy barriers since have added and taken off, but no further than
an empty and a full ramp would have come; with another method it stays 0. -/
theorem ramp_queue_run (k : ℕ)
    (fits : ∀ i < k, (window (isEdge (barrierLevel ins)) i).length ≤ maxrow) :
    (t.methodForRampQueue = 1 →
      rampQueueAt p t maxGreen1 u ins k = reflectAll 0 100 0 (nets ins 0 k) ∧
      ∀ j ≤ k, rampQueueAt p t maxGreen1 u ins k =
        min (reflectAll 0 100 100 (nets ins j k))
          (max (rampQueueAt p t maxGreen1 u ins j + (nets ins j k).sum)
            (reflectAll 0 100 0 (nets ins j k)))) ∧
    (t.methodForRampQueue ≠ 1 → rampQueueAt p t maxGreen1 u ins k = 0) := by
  refine ⟨fun method => ⟨?_, fun j hjk => ?_⟩, fun method => ?_⟩
  · have walked := rampQueueAt_reflectAll p t maxGreen1 u ins method (Nat.zero_le k) fits
    rwa [rampQueueAt_zero] at walked
  · obtain ⟨low, high⟩ := isQueue_rampQueueAt p t maxGreen1 u ins j fun i hi => fits i (by omega)
    rw [rampQueueAt_reflectAll p t maxGreen1 u ins method hjk fits]
    exact reflectAll_eq low high _
  · exact rampQueueAt_unused p t maxGreen1 u ins method k fits

end run

theorem darkCycle_fits : ∀ i < 6, (window (isEdge (barrierLevel darkCycle)) i).length ≤ maxrow := by
  decide +kernel

theorem darkCycle_queue :
    rampQueueAt straying byQueueEstimate 25 zeroRecords.dbUrmsStatus darkCycle 6 =
      reflectAll 0 100 0 (nets darkCycle 0 6) :=
  ((ramp_queue_run straying byQueueEstimate 25 zeroRecords.dbUrmsStatus darkCycle 6
    darkCycle_fits).1 rfl).1

theorem nets_congr {ins ins' : ℕ → Input} {j k : ℕ} (hjk : j ≤ k)
    (same : ∀ i, j ≤ i → i < k →
      healthyAt ins i = healthyAt ins' i ∧ (healthyAt ins i = true → netAt ins i = netAt ins' i)) :
    nets ins j k = nets ins' j k := by
  induction k, hjk using Nat.le_induction with
  | base => rw [nets_self, nets_self]
  | succ k hjk ih =>
    obtain ⟨health, net⟩ := same k hjk (Nat.lt_succ_self k)
    rw [nets_succ ins hjk, nets_succ ins' hjk, ih fun i hj hi => same i hj (by omega), ← health]
    cases through : healthyAt ins k
    · rw [if_neg (by simp), if_neg (by simp)]
    · rw [net through]

/-- Between two runs whose barriers measure the same from tick `j` on, the queues come no further
apart; and they are equal after any stretch of barriers that brings a hundred vehicles more than
it lets off, or lets off a hundred more. -/
theorem ramp_queue_forgets (p p' : Platform) {t t' : Tuning} (method : t.methodForRampQueue = 1)
    (method' : t'.methodForRampQueue = 1) (maxGreen1 maxGreen1' : ℤ) (u u' : DbUrmsStatus)
    {ins ins' : ℕ → Input} {j k : ℕ} (hjk : j ≤ k)
    (fits : ∀ i < k, (window (isEdge (barrierLevel ins)) i).length ≤ maxrow)
    (fits' : ∀ i < k, (window (isEdge (barrierLevel ins')) i).length ≤ maxrow)
    (same : ∀ i, j ≤ i → i < k →
      healthyAt ins i = healthyAt ins' i ∧ (healthyAt ins i = true → netAt ins i = netAt ins' i)) :
    |rampQueueAt p t maxGreen1 u ins k - rampQueueAt p' t' maxGreen1' u' ins' k| ≤
        |rampQueueAt p t maxGreen1 u ins j - rampQueueAt p' t' maxGreen1' u' ins' j| ∧
      ∀ i l, j ≤ i → i ≤ l → l ≤ k → 100 ≤ |(nets ins i l).sum| →
        rampQueueAt p t maxGreen1 u ins k = rampQueueAt p' t' maxGreen1' u' ins' k := by
  have walked : ∀ i l, i ≤ l → l ≤ k → rampQueueAt p t maxGreen1 u ins l =
      reflectAll 0 100 (rampQueueAt p t maxGreen1 u ins i) (nets ins i l) :=
    fun i l hil hl =>
      rampQueueAt_reflectAll p t maxGreen1 u ins method hil fun m hm => fits m (by omega)
  have walked' : ∀ i l, j ≤ i → i ≤ l → l ≤ k → rampQueueAt p' t' maxGreen1' u' ins' l =
      reflectAll 0 100 (rampQueueAt p' t' maxGreen1' u' ins' i) (nets ins i l) := by
    intro i l hji hil hl
    rw [nets_congr hil fun m him hml => same m (by omega) (by omega)]
    exact rampQueueAt_reflectAll p' t' maxGreen1' u' ins' method' hil fun m hm => fits' m (by omega)
  constructor
  · rw [walked j k hjk le_rfl, walked' j k le_rfl hjk le_rfl]
    exact abs_reflectAll_sub_le _ _ _
  · intro i l hji hil hl crossing
    obtain ⟨low, high⟩ := isQueue_rampQueueAt p t maxGreen1 u ins i fun m hm => fits m (by omega)
    obtain ⟨low', high'⟩ :=
      isQueue_rampQueueAt p' t' maxGreen1' u' ins' i fun m hm => fits' m (by omega)
    have met : rampQueueAt p t maxGreen1 u ins l = rampQueueAt p' t' maxGreen1' u' ins' l := by
      rw [walked i l hil hl, walked' i l hji hil hl]
      exact reflectAll_eq_of_crossing (by rwa [sub_zero]) low high low' high'
    rw [walked l k hl le_rfl, walked' l k (hji.trans hil) hl le_rfl, met]

def vehicleFirst (k : ℕ) : Input :=
  if k = 0 then { darkCycle 0 with records.status.presence3 := 1 } else darkCycle k

theorem vehicleFirst_same (i : ℕ) (after : 1 ≤ i) (before : i < 6) :
    healthyAt darkCycle i = healthyAt vehicleFirst i ∧
      (healthyAt darkCycle i = true → netAt darkCycle i = netAt vehicleFirst i) := by
  revert i
  decide +kernel

theorem first_vehicle_no_further_apart :
    |rampQueueAt straying byQueueEstimate 25 zeroRecords.dbUrmsStatus darkCycle 6 -
        rampQueueAt straying byQueueEstimate 25 zeroRecords.dbUrmsStatus vehicleFirst 6| ≤
      |rampQueueAt straying byQueueEstimate 25 zeroRecords.dbUrmsStatus darkCycle 1 -
        rampQueueAt straying byQueueEstimate 25 zeroRecords.dbUrmsStatus vehicleFirst 1| :=
  (ramp_queue_forgets straying straying rfl rfl 25 25 zeroRecords.dbUrmsStatus
    zeroRecords.dbUrmsStatus (by decide) darkCycle_fits (by decide +kernel) vehicleFirst_same).1

end RampMetering
