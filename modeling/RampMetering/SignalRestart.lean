import RampMetering.MeterRestart
import RampMetering.SignalRange
import RampMetering.TestRun

/-! The signal side of a program that is stopped and started again. A barrier brings the rows in
step and a healthy one the measurement; a healthy barrier without activation puts the release
automaton and the greens to fixed values. Only `rt_exceed_num` outlives it: what the
program that ran on had counted can still turn the end of a release into an overwrite. -/

namespace RampMetering
open Window

def windowTick (ins : ℕ → Input) (k : ℕ) : BarrierTick where
  clock := (ins k).clock
  ramp := staticRamp
  realtimeData := matrixOf (samples ins (window (isEdge (barrierLevel ins)) k))
  dataRow := (window (isEdge (barrierLevel ins)) k).length - 1

def activates (f : Rounding) (b : BarrierTick) : Bool :=
  checkActivationViaIntersectionOcc ((kept staticSignal).measured f b).signal

/-- The last barrier of a regular release, on which the count of exceeded ones is looked at. -/
def Kept.EndsRelease (f : Rounding) (x : Kept) (b : BarrierTick) : Prop :=
  healthy b = true ∧ activates f b = true ∧ x.overwriteRelease = false ∧ x.regularRelease = true ∧
    x.regularRemainCycle = 1

def Kept.uncounted (x : Kept) : Kept := { x with rtExceedNum := 0 }

theorem Kept.eq_of_uncounted {x y : Kept} (same : x.uncounted = y.uncounted)
    (count : x.rtExceedNum = y.rtExceedNum) : x = y := by
  obtain ⟨_, _, _, _, _, _, _, n, _, _, _⟩ := x
  obtain ⟨_, _, _, _, _, _, _, m, _, _, _⟩ := y
  simp only [Kept.uncounted, Kept.mk.injEq] at same
  change n = m at count
  simp only [same, count]

section automaton

variable (t : Tuning) {x y : Kept} {b : BarrierTick}

theorem isActivation_measured (method : t.methodForRampQueue = 3) (x : Kept) (b : BarrierTick) :
    isActivation t (x.measured t.rounding b).signal staticRamp =
      ((x.measured t.rounding b).signal, activates t.rounding b) := by
  rw [isActivation, if_neg (by omega), if_neg (by omega), if_pos method]
  rfl

theorem barrier_rests (method : t.methodForRampQueue = 3) (rests : activates t.rounding b = false)
    (x y : Kept) : (x.barrier t b).uncounted = (y.barrier t b).uncounted := by
  have rest : ∀ x : Kept, getNewMaxGreenPhase3 t (x.measured t.rounding b).signal staticRamp =
      notActivated (x.measured t.rounding b).signal := by
    intro x
    rw [getNewMaxGreenPhase3, isActivation_measured t method]
    simp only [rests, Bool.not_false, if_true]
  rw [Kept.barrier, Kept.barrier, rest, rest]
  rfl

theorem barrier_uncounted (method : t.methodForRampQueue = 3)
    (same : x.uncounted = y.uncounted) (through : healthy b = true)
    (more : ¬x.EndsRelease t.rounding b) :
    (x.barrier t b).uncounted = (y.barrier t b).uncounted := by
  cases active : activates t.rounding b
  · exact barrier_rests t method active x y
  obtain ⟨lt, rt, reg, overwriting, remain, left, passed, n, old, new, last⟩ := x
  obtain ⟨lt', rt', reg', overwriting', remain', left', passed', n', old', new', last'⟩ := y
  simp only [Kept.uncounted, Kept.mk.injEq] at same
  obtain ⟨rfl, rfl, rfl, rfl, rfl, rfl, rfl, -, rfl, rfl, rfl⟩ := same
  rw [Kept.barrier, Kept.barrier, getNewMaxGreenPhase3, getNewMaxGreenPhase3,
    isActivation_measured t method, isActivation_measured t method, active]
  cases overwriting
  · cases reg
    · by_cases due : passed + 1 = t.cycleToRelease
      · simp [Kept.measured, Kept.signal, kept, duringNormalCycle, regulatedGreen,
          needReduceMaxGreen, Kept.uncounted, due]
      · simp [Kept.measured, Kept.signal, kept, duringNormalCycle, regulatedGreen,
          needReduceMaxGreen, Kept.uncounted, due]
    · have goesOn : remain - 1 ≠ 0 := fun last =>
        more ⟨through, active, rfl, rfl, sub_eq_zero.mp last⟩
      simp [Kept.measured, Kept.signal, kept, duringRegularRelease, Kept.uncounted, goesOn]
  · by_cases last : left - 1 = 0
    · simp [Kept.measured, Kept.signal, kept, duringOverwriteRelease, Kept.uncounted, last]
    · simp [Kept.measured, Kept.signal, kept, duringOverwriteRelease, Kept.uncounted, last]

theorem barrier_newMaxGreen (method : t.methodForRampQueue = 3)
    (same : x.uncounted = y.uncounted) (through : healthy b = true) :
    (x.barrier t b).newMaxGreen = (y.barrier t b).newMaxGreen := by
  by_cases ends : x.EndsRelease t.rounding b
  · obtain ⟨lt, rt, reg, overwriting, remain, left, passed, n, old, new, last⟩ := x
    obtain ⟨lt', rt', reg', overwriting', remain', left', passed', n', old', new', last'⟩ := y
    simp only [Kept.uncounted, Kept.mk.injEq] at same
    obtain ⟨rfl, rfl, rfl, rfl, rfl, rfl, rfl, -, rfl, rfl, rfl⟩ := same
    obtain ⟨-, active, overwriting, reg, -⟩ := ends
    change _ = false at overwriting
    change _ = true at reg
    subst overwriting reg
    have upper : ∀ s : SignalVariables,
        (duringRegularRelease t s).newMaxGreen = maxGreenUpperbound := by
      intro s
      obtain ⟨-, h⟩ | ⟨-, -, h⟩ | ⟨-, -, h⟩ := duringRegularRelease_cases t s <;> rw [h]
    rw [Kept.barrier, Kept.barrier, getNewMaxGreenPhase3, getNewMaxGreenPhase3,
      isActivation_measured t method, isActivation_measured t method, active]
    exact (upper _).trans (upper _).symm
  · have after := congrArg Kept.newMaxGreen (barrier_uncounted t method same through ends)
    exact after

end automaton

/-- What is published beside `kept` and the row. -/
@[ext] structure Notes where
  rampQueue : ℚ
  oldRampQueue : ℚ
  oldLtOcc : ℚ
  prevCycleTerminateTime : ℚ
  currentCycleTerminateTime : ℚ
  prevQueueResetTime : ℚ

def notes (s : SignalVariables) : Notes where
  rampQueue := s.rampQueue
  oldRampQueue := s.oldRampQueue
  oldLtOcc := s.oldLtOcc
  prevCycleTerminateTime := s.prevCycleTerminateTime
  currentCycleTerminateTime := s.currentCycleTerminateTime
  prevQueueResetTime := s.prevQueueResetTime

def Notes.measured (x : Notes) (ltOcc time : ℚ) : Notes :=
  { x with
    oldRampQueue := x.rampQueue
    oldLtOcc := ltOcc
    prevCycleTerminateTime := x.currentCycleTerminateTime
    currentCycleTerminateTime := time }

theorem notes_getNewMaxGreenPhase3 {t : Tuning} (method : t.methodForRampQueue = 3)
    (s : SignalVariables) (r : RampVariables) :
    notes (getNewMaxGreenPhase3 t s r) = notes s := by
  have activation : isActivation t s r = (s, checkActivationViaIntersectionOcc s) := by
    rw [isActivation, if_neg (by omega), if_neg (by omega), if_pos method]
  rw [getNewMaxGreenPhase3, activation]
  unfold duringOverwriteRelease duringRegularRelease duringNormalCycle
  dsimp only
  split_ifs <;> rfl

theorem notes_barrierTick {t : Tuning} (method : t.methodForRampQueue = 3)
    (s : SignalVariables) (b : BarrierTick) :
    notes (barrierTick t s b) =
      if healthy b then (notes s).measured s.ltOcc b.clock.barrier else notes s := by
  rw [barrierTick_eq]
  cases through : healthy b
  · rfl
  · have sound : ¬checkRealtimeDataHealth (recorded s b).realtimeData (recorded s b).dataRow ≠ 0 :=
      not_not.mpr (of_decide_eq_true through)
    refine (notes_getNewMaxGreenPhase3 method (measured t.rounding s b) b.ramp).trans ?_
    rw [measured, getIntersectionMeasurement, if_neg sound]
    rfl

theorem publishSignal_congr {s s' : SignalVariables} (same : kept s = kept s')
    (noted : notes s = notes s') (row : s.dataRow = s'.dataRow)
    (rows : AgreeTo s.realtimeData s'.realtimeData s.dataRow) :
    publishSignal s = publishSignal s' := by
  have cell : readCell s s.dataRow = readCell s' s'.dataRow := by
    funext col
    rw [readCell, readCell, ← row]
    split_ifs with inside
    · rw [rows s.dataRow.toNat (by omega)]
    · rfl
  rw [row] at cell
  simp only [kept, Kept.mk.injEq] at same
  simp only [notes, Notes.mk.injEq] at noted
  obtain ⟨lt, rt, reg, overwriting, remain, left, passed, count, old, new, last⟩ := same
  obtain ⟨queue, oldQueue, oldLt, prev, current, reset⟩ := noted
  simp only [publishSignal, lt, rt, reg, overwriting, remain, left, passed, count, old, new, last,
    queue, oldQueue, oldLt, prev, current, reset, cell, row]

section windows

variable (ins : ℕ → Input) (j : ℕ)

theorem windows_later {e k : ℕ} (positive : 0 < e)
    (edge : isEdge (barrierLevel (later ins j)) e = true) (hek : e < k) :
    window (isEdge (barrierLevel ins)) (j + k) =
      (window (isEdge (barrierLevel (later ins j))) k).map (j + ·) :=
  window_shift edge (fun _ hei => (barrierLevel_later ins j (positive.trans_le hei)).symm) hek

theorem samples_later (ticks : List ℕ) :
    samples ins (ticks.map (j + ·)) = samples (later ins j) ticks := by
  unfold samples
  rw [List.map_map]
  exact List.map_congr_left fun _ _ => rfl

theorem windowTick_later {e k : ℕ} (positive : 0 < e)
    (edge : isEdge (barrierLevel (later ins j)) e = true) (hek : e < k) :
    windowTick (later ins j) k = windowTick ins (j + k) := by
  rw [windowTick, windowTick, windows_later ins j positive edge hek, samples_later,
    List.length_map]
  rfl

theorem fits_later {k : ℕ}
    (fits : ∀ i < j + k, (window (isEdge (barrierLevel ins)) i).length ≤ maxrow) :
    ∀ i < k, (window (isEdge (barrierLevel (later ins j))) i).length ≤ maxrow := by
  intro i hi
  refine (window_length_shift_le (fun i unmarked => ?_) i).trans (fits (j + i) (by omega))
  cases i with
  | zero =>
    have low : barrierLevel ins (j + 0) = false := unmarked
    cases j with
    | zero => exact low
    | succ j => exact Bool.and_eq_false_imp.mpr fun high => absurd (low.symm.trans high) (by simp)
  | succ i => exact (barrierLevel_later ins j (Nat.succ_pos i)).symm.trans unmarked

end windows

section run

variable (p : Platform) (t : Tuning) (maxGreen1 : ℤ) (u : DbUrmsStatus) (ins : ℕ → Input)

section tick

variable {k : ℕ} (fits : (window (isEdge (barrierLevel ins)) k).length ≤ maxrow)
include fits

theorem barrier_windowTick (x : Kept) :
    x.barrier t (metAt p t maxGreen1 u ins k) = x.barrier t (windowTick ins k) := by
  obtain ⟨index, agree⟩ := (holds_window p t maxGreen1 u ins k fits).agree
    (holds_matrixOf (samples ins (window (isEdge (barrierLevel ins)) k)))
  rw [samples_length] at index
  have occ := getDetectorGreenOcc_congr agree t.rounding
  rw [index] at occ
  have same : x.measured t.rounding (metAt p t maxGreen1 u ins k) =
      x.measured t.rounding (windowTick ins k) := by
    have row : (metAt p t maxGreen1 u ins k).dataRow = (windowTick ins k).dataRow := index
    have left := congrArg₂ (fun a b => t.rounding.round (t.rounding.round (a + b) / 2))
      (occ phase5Approach1 phase5Signal) (occ phase5Approach2 phase5Signal)
    unfold Kept.measured
    rw [row]
    exact Kept.ext left (occ _ _) rfl rfl rfl rfl rfl rfl rfl rfl rfl
  rw [Kept.barrier, Kept.barrier, same]

theorem kept_daemonAt_succ (method : t.methodForRampQueue = 3) :
    kept (daemonAt p t (start maxGreen1 u) ins (k + 1)).signal =
      if healthyAt ins k then
        (kept (daemonAt p t (start maxGreen1 u) ins k).signal).barrier t (windowTick ins k)
      else kept (daemonAt p t (start maxGreen1 u) ins k).signal := by
  rw [healthyAt_eq p t maxGreen1 u ins fits]
  cases edge : isEdge (barrierLevel ins) k
  · rw [signal_of_noEdge p t maxGreen1 u ins edge]
    have same := congrArg kept (recorded_sampledAt p t maxGreen1 u ins fits
      (metAt p t maxGreen1 u ins k))
    exact same
  · rw [signal_of_edge p t maxGreen1 u ins fits edge, kept_barrierTick t _ method,
      barrier_windowTick p t maxGreen1 u ins fits, Bool.true_and]

theorem notes_daemonAt_succ (method : t.methodForRampQueue = 3) :
    notes (daemonAt p t (start maxGreen1 u) ins (k + 1)).signal =
      if healthyAt ins k then
        (notes (daemonAt p t (start maxGreen1 u) ins k).signal).measured
          (daemonAt p t (start maxGreen1 u) ins k).signal.ltOcc (timeAt ins k)
      else notes (daemonAt p t (start maxGreen1 u) ins k).signal := by
  rw [healthyAt_eq p t maxGreen1 u ins fits]
  cases edge : isEdge (barrierLevel ins) k
  · rw [signal_of_noEdge p t maxGreen1 u ins edge]
    have same := congrArg notes (recorded_sampledAt p t maxGreen1 u ins fits
      (metAt p t maxGreen1 u ins k))
    exact same
  · rw [signal_of_edge p t maxGreen1 u ins fits edge, notes_barrierTick method, Bool.true_and]
    rfl

end tick

/-- Nothing estimates a queue and nothing resets one. -/
theorem notes_zero (method : t.methodForRampQueue = 3) (k : ℕ)
    (fits : ∀ i < k, (window (isEdge (barrierLevel ins)) i).length ≤ maxrow) :
    (notes (daemonAt p t (start maxGreen1 u) ins k).signal).rampQueue = 0 ∧
      (notes (daemonAt p t (start maxGreen1 u) ins k).signal).oldRampQueue = 0 ∧
      (notes (daemonAt p t (start maxGreen1 u) ins k).signal).prevQueueResetTime = 0 := by
  induction k with
  | zero => exact ⟨rfl, rfl, rfl⟩
  | succ k ih =>
    obtain ⟨queue, old, reset⟩ := ih fun i hi => fits i (by omega)
    rw [notes_daemonAt_succ p t maxGreen1 u ins (fits k (Nat.lt_succ_self k)) method]
    cases healthyAt ins k
    · exact ⟨queue, old, reset⟩
    · exact ⟨queue, queue, reset⟩

end run

section restart

variable (p : Platform) {t : Tuning} (method : t.methodForRampQueue = 3)
  (maxGreen1 maxGreen1' : ℤ) (u u' : DbUrmsStatus) (ins : ℕ → Input) (j : ℕ) {e d k : ℕ}
  (positive : 0 < e) (edge : isEdge (barrierLevel (later ins j)) e = true) (hed : e < d)
  (through : healthyAt (later ins j) d = true)
  (rests : activates t.rounding (windowTick (later ins j) d) = false)

include positive edge in
theorem healthyAt_later (hek : e < k) : healthyAt (later ins j) k = healthyAt ins (j + k) := by
  have verdict := congrArg healthy (windowTick_later ins j positive edge hek)
  exact congrArg₂ (· && ·) (barrierLevel_later ins j (by omega)) verdict

include method positive edge in
theorem kept_across_succ (hek : e < k)
    (fits : (window (isEdge (barrierLevel ins)) (j + k)).length ≤ maxrow)
    (fits' : (window (isEdge (barrierLevel (later ins j))) k).length ≤ maxrow) :
    kept (daemonAt p t (start maxGreen1 u) ins (j + (k + 1))).signal =
        (if healthyAt (later ins j) k then
          (kept (daemonAt p t (start maxGreen1 u) ins (j + k)).signal).barrier t
            (windowTick (later ins j) k)
        else kept (daemonAt p t (start maxGreen1 u) ins (j + k)).signal) ∧
      kept (daemonAt p t (start maxGreen1' u') (later ins j) (k + 1)).signal =
        if healthyAt (later ins j) k then
          (kept (daemonAt p t (start maxGreen1' u') (later ins j) k).signal).barrier t
            (windowTick (later ins j) k)
        else kept (daemonAt p t (start maxGreen1' u') (later ins j) k).signal := by
  constructor
  · rw [healthyAt_later ins j positive edge hek, windowTick_later ins j positive edge hek]
    exact kept_daemonAt_succ p t maxGreen1 u ins fits method
  · exact kept_daemonAt_succ p t maxGreen1' u' (later ins j) fits' method

include method positive edge in
theorem notes_across_succ (hek : e < k)
    (fits : (window (isEdge (barrierLevel ins)) (j + k)).length ≤ maxrow)
    (fits' : (window (isEdge (barrierLevel (later ins j))) k).length ≤ maxrow) :
    notes (daemonAt p t (start maxGreen1 u) ins (j + (k + 1))).signal =
        (if healthyAt (later ins j) k then
          (notes (daemonAt p t (start maxGreen1 u) ins (j + k)).signal).measured
            (daemonAt p t (start maxGreen1 u) ins (j + k)).signal.ltOcc (timeAt (later ins j) k)
        else notes (daemonAt p t (start maxGreen1 u) ins (j + k)).signal) ∧
      notes (daemonAt p t (start maxGreen1' u') (later ins j) (k + 1)).signal =
        if healthyAt (later ins j) k then
          (notes (daemonAt p t (start maxGreen1' u') (later ins j) k).signal).measured
            (daemonAt p t (start maxGreen1' u') (later ins j) k).signal.ltOcc
            (timeAt (later ins j) k)
        else notes (daemonAt p t (start maxGreen1' u') (later ins j) k).signal := by
  constructor
  · rw [healthyAt_later ins j positive edge hek]
    exact notes_daemonAt_succ p t maxGreen1 u ins fits method
  · exact notes_daemonAt_succ p t maxGreen1' u' (later ins j) fits' method

include method positive edge hed through rests

theorem uncounted_across (hdk : d < k)
    (fits : ∀ i < j + k, (window (isEdge (barrierLevel ins)) i).length ≤ maxrow)
    (none : ∀ i, d < i → i < k → healthyAt (later ins j) i = true →
      ¬(kept (daemonAt p t (start maxGreen1 u) ins (j + i)).signal).EndsRelease t.rounding
        (windowTick (later ins j) i)) :
    (kept (daemonAt p t (start maxGreen1 u) ins (j + k)).signal).uncounted =
      (kept (daemonAt p t (start maxGreen1' u') (later ins j) k).signal).uncounted := by
  induction k, hdk using Nat.le_induction with
  | base =>
    obtain ⟨on, again⟩ := kept_across_succ p method maxGreen1 maxGreen1' u u' ins j positive edge
      hed (fits (j + d) (by omega)) (fits_later ins j fits d (Nat.lt_succ_self d))
    rw [on, again, through, if_pos rfl, if_pos rfl]
    exact barrier_rests t method rests _ _
  | succ k hdk ih =>
    have before := ih (fun i hi => fits i (by omega)) fun i hdi hik => none i hdi (by omega)
    obtain ⟨on, again⟩ := kept_across_succ p method maxGreen1 maxGreen1' u u' ins j positive edge
      (show e < k by omega) (fits (j + k) (by omega))
      (fits_later ins j fits k (Nat.lt_succ_self k))
    rw [on, again]
    cases barrier : healthyAt (later ins j) k
    · exact before
    · have verdict : healthy (windowTick (later ins j) k) = true :=
        (Bool.and_eq_true_iff.mp barrier).2
      exact barrier_uncounted t method before verdict
        (none k hdk (Nat.lt_succ_self k) barrier)

theorem newMaxGreen_across (hdk : d < k)
    (fits : ∀ i < j + (k + 1), (window (isEdge (barrierLevel ins)) i).length ≤ maxrow)
    (none : ∀ i, d < i → i < k → healthyAt (later ins j) i = true →
      ¬(kept (daemonAt p t (start maxGreen1 u) ins (j + i)).signal).EndsRelease t.rounding
        (windowTick (later ins j) i)) :
    (daemonAt p t (start maxGreen1 u) ins (j + (k + 1))).signal.newMaxGreen =
      (daemonAt p t (start maxGreen1' u') (later ins j) (k + 1)).signal.newMaxGreen := by
  have same := uncounted_across p method maxGreen1 maxGreen1' u u' ins j positive edge hed
    through rests hdk (fun i hi => fits i (by omega)) none
  obtain ⟨on, again⟩ := kept_across_succ p method maxGreen1 maxGreen1' u u' ins j positive edge
    (show e < k by omega) (fits (j + k) (by omega)) (fits_later ins j fits k (Nat.lt_succ_self k))
  have green : (kept (daemonAt p t (start maxGreen1 u) ins (j + (k + 1))).signal).newMaxGreen =
      (kept (daemonAt p t (start maxGreen1' u') (later ins j) (k + 1)).signal).newMaxGreen := by
    rw [on, again]
    cases barrier : healthyAt (later ins j) k
    · have green := congrArg Kept.newMaxGreen same
      exact green
    · exact barrier_newMaxGreen t method same (Bool.and_eq_true_iff.mp barrier).2
  exact green

theorem kept_across (hdk : d < k)
    (fits : ∀ i < j + k, (window (isEdge (barrierLevel ins)) i).length ≤ maxrow)
    (count : (daemonAt p t (start maxGreen1 u) ins (j + (d + 1))).signal.rtExceedNum =
      (daemonAt p t (start maxGreen1' u') (later ins j) (d + 1)).signal.rtExceedNum) :
    kept (daemonAt p t (start maxGreen1 u) ins (j + k)).signal =
      kept (daemonAt p t (start maxGreen1' u') (later ins j) k).signal := by
  induction k, hdk using Nat.le_induction with
  | base =>
    refine Kept.eq_of_uncounted ?_ count
    exact uncounted_across p method maxGreen1 maxGreen1' u u' ins j positive edge hed through
      rests (Nat.lt_succ_self d) fits fun i hdi hid => absurd hdi (by omega)
  | succ k hdk ih =>
    have before := ih fun i hi => fits i (by omega)
    obtain ⟨on, again⟩ := kept_across_succ p method maxGreen1 maxGreen1' u u' ins j positive edge
      (show e < k by omega) (fits (j + k) (by omega))
      (fits_later ins j fits k (Nat.lt_succ_self k))
    rw [on, again, before]

omit method rests in
theorem lastHealthyTime_later (hdk : d < k) :
    lastHealthyTime ins (j + k) = lastHealthyTime (later ins j) k := by
  induction k, hdk using Nat.le_induction with
  | base =>
    rw [Nat.succ_eq_add_one, ← Nat.add_assoc, lastHealthyTime, lastHealthyTime,
      ← healthyAt_later ins j positive edge hed, through, if_pos rfl, if_pos rfl]
    rfl
  | succ k hdk ih =>
    rw [← Nat.add_assoc, lastHealthyTime, lastHealthyTime,
      ← healthyAt_later ins j positive edge (show e < k by omega), ih]
    rfl

omit method rests in
theorem currentCycleTerminateTime_across (hdk : d < k)
    (fits : ∀ i < j + k, (window (isEdge (barrierLevel ins)) i).length ≤ maxrow) :
    (daemonAt p t (start maxGreen1 u) ins (j + k)).signal.currentCycleTerminateTime =
      (daemonAt p t (start maxGreen1' u') (later ins j) k).signal.currentCycleTerminateTime := by
  rw [currentCycleTerminateTime_run p t maxGreen1 u ins (j + k) fits,
    currentCycleTerminateTime_run p t maxGreen1' u' (later ins j) k (fits_later ins j fits)]
  exact lastHealthyTime_later ins j positive edge hed through hdk

theorem notes_across {h : ℕ} (hdh : d < h) (again : healthyAt (later ins j) h = true)
    (hhk : h < k)
    (fits : ∀ i < j + k, (window (isEdge (barrierLevel ins)) i).length ≤ maxrow)
    (count : (daemonAt p t (start maxGreen1 u) ins (j + (d + 1))).signal.rtExceedNum =
      (daemonAt p t (start maxGreen1' u') (later ins j) (d + 1)).signal.rtExceedNum) :
    notes (daemonAt p t (start maxGreen1 u) ins (j + k)).signal =
      notes (daemonAt p t (start maxGreen1' u') (later ins j) k).signal := by
  have occ : ∀ i, d < i → i < k → (daemonAt p t (start maxGreen1 u) ins (j + i)).signal.ltOcc =
      (daemonAt p t (start maxGreen1' u') (later ins j) i).signal.ltOcc := by
    intro i hdi hik
    have same := kept_across p method maxGreen1 maxGreen1' u u' ins j positive edge hed through
      rests hdi (fun i hi => fits i (by omega)) count
    exact congrArg Kept.ltOcc same
  induction k, hhk using Nat.le_induction with
  | base =>
    have before : ∀ i < j + h, (window (isEdge (barrierLevel ins)) i).length ≤ maxrow :=
      fun i hi => fits i (by omega)
    have current := currentCycleTerminateTime_across p (t := t) maxGreen1 maxGreen1' u u' ins j
      positive edge hed through hdh before
    obtain ⟨queue, -, reset⟩ := notes_zero p t maxGreen1 u ins method (j + h) before
    obtain ⟨queue', -, reset'⟩ := notes_zero p t maxGreen1' u' (later ins j) method h
      (fits_later ins j before)
    obtain ⟨on, again'⟩ := notes_across_succ p method maxGreen1 maxGreen1' u u' ins j positive
      edge (show e < h by omega) (fits (j + h) (by omega))
      (fits_later ins j fits h (Nat.lt_succ_self h))
    rw [on, again', again, if_pos rfl, if_pos rfl, occ h hdh (Nat.lt_succ_self h)]
    exact Notes.ext (queue.trans queue'.symm) (queue.trans queue'.symm) rfl current rfl
      (reset.trans reset'.symm)
  | succ k hhk ih =>
    have before := ih (fun i hi => fits i (by omega)) fun i hdi hik => occ i hdi (by omega)
    obtain ⟨on, again'⟩ := notes_across_succ p method maxGreen1 maxGreen1' u u' ins j positive
      edge (show e < k by omega) (fits (j + k) (by omega))
      (fits_later ins j fits k (Nat.lt_succ_self k))
    rw [on, again', before, occ k (by omega) (Nat.lt_succ_self k)]

omit method through rests hed in
theorem rows_across (hek : e < k)
    (fits : ∀ i ≤ j + k, (window (isEdge (barrierLevel ins)) i).length ≤ maxrow) :
    ∃ recorded, Holds (daemonAt p t (start maxGreen1 u) ins (j + k + 1)).signal recorded ∧
      Holds (daemonAt p t (start maxGreen1' u') (later ins j) (k + 1)).signal recorded := by
  have fits' := fits_later ins j (k := k + 1) fun i hi => fits i (by omega)
  have held := holds_pending p t maxGreen1 u ins (j + k + 1)
  have held' := holds_pending p t maxGreen1' u' (later ins j) (k + 1)
  rw [pending_succ, ← barrierLevel_later ins j (positive.trans hek),
    windows_later ins j positive edge hek] at held
  rw [pending_succ] at held'
  have room := fits' k (Nat.lt_succ_self k)
  cases barrier : isEdge (barrierLevel (later ins j)) k
  · rw [barrier, if_neg (by simp)] at held held'
    rw [List.length_map, samples_later] at held
    exact ⟨_, held room, held' room⟩
  · rw [barrier, if_pos rfl] at held held'
    exact ⟨[], held (Nat.zero_le _), held' (Nat.zero_le _)⟩

theorem publishSignal_across {h : ℕ} (hdh : d < h) (second : healthyAt (later ins j) h = true)
    (hhk : h ≤ k)
    (fits : ∀ i ≤ j + k, (window (isEdge (barrierLevel ins)) i).length ≤ maxrow)
    (count : (daemonAt p t (start maxGreen1 u) ins (j + (d + 1))).signal.rtExceedNum =
      (daemonAt p t (start maxGreen1' u') (later ins j) (d + 1)).signal.rtExceedNum) :
    publishSignal (daemonAt p t (start maxGreen1 u) ins (j + (k + 1))).signal =
      publishSignal (daemonAt p t (start maxGreen1' u') (later ins j) (k + 1)).signal := by
  have fits' : ∀ i < j + (k + 1), (window (isEdge (barrierLevel ins)) i).length ≤ maxrow :=
    fun i hi => fits i (by omega)
  have same := kept_across p method maxGreen1 maxGreen1' u u' ins j positive edge hed through
    rests (show d < k + 1 by omega) fits' count
  have noted := notes_across p method maxGreen1 maxGreen1' u u' ins j positive edge hed through
    rests hdh second (show h < k + 1 by omega) fits' count
  obtain ⟨recorded, held, held'⟩ := rows_across p maxGreen1 maxGreen1' u u' ins j positive edge
    (t := t) (show e < k by omega) fits
  obtain ⟨row, rows⟩ := held.agree held'
  exact publishSignal_congr same noted row rows

end restart

end RampMetering
