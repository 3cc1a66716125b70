import RampMetering.Lib.Stutter
import RampMetering.BarrierRun

/-! Runs of `test()`, window by window. A window is the ticks up to a barrier; where its data
is unhealthy, the state the release automaton keeps is that from before it. -/

namespace RampMetering
open Stutter

structure TestInput where
  globals : Globals
  rampFlag : Bool
  clock : Clock

def test (p : Platform) (t : Tuning) (signalFlag : Bool)
    (st : RampVariables × SignalVariables) (x : TestInput) : RampVariables × SignalVariables :=
  let ramp := (testRamp x.globals x.clock x.rampFlag st.1).1
  (ramp, (testSignal t x.clock signalFlag ramp (readRealTimeData p.overrun x.globals st.2)).1)

theorem next_test (p : Platform) (t : Tuning) (σ : Daemon) (i : Input) :
    ((next p t σ i).ramp, (next p t σ i).signal) =
      test p t (signalEdge σ i) (σ.ramp, σ.signal) ⟨tickGlobals σ i, rampEdge σ i, i.clock⟩ := by
  rw [next_signal, next_ramp]
  rfl

structure TestWindow where
  before : List TestInput
  barrier : TestInput
  fits : before.length + 1 ≤ maxrow

def arrive (p : Platform) (t : Tuning) (st : RampVariables × SignalVariables) (w : TestWindow) :
    RampVariables × SignalVariables :=
  w.before.foldl (test p t false) st

def testWindow (p : Platform) (t : Tuning) (st : RampVariables × SignalVariables)
    (w : TestWindow) : RampVariables × SignalVariables :=
  test p t true (arrive p t st w) w.barrier

def inputSamples (xs : List TestInput) : List Row := xs.map fun x => sample x.globals

section window

variable (p : Platform) (t : Tuning)

theorem test_quiet (st : RampVariables × SignalVariables) (x : TestInput) :
    (test p t false st x).2 = readRealTimeData p.overrun x.globals st.2 := by
  simp [test, testSignal]

theorem arrive_holds (xs : List TestInput) (st : RampVariables × SignalVariables)
    (earlier : List Row) (held : Holds st.2 earlier)
    (room : earlier.length + xs.length ≤ maxrow) :
    Holds (xs.foldl (test p t false) st).2 (earlier ++ inputSamples xs) ∧
      ∀ b, recorded (xs.foldl (test p t false) st).2 b = recorded st.2 b := by
  induction xs generalizing st earlier with
  | nil => exact ⟨by simpa [inputSamples] using held, fun _ => rfl⟩
  | cons x xs ih =>
    rw [List.length_cons] at room
    have stored := held.readRealTimeData p.overrun x.globals (by omega)
    have framed := held.recorded_readRealTimeData p.overrun x.globals (by omega)
    rw [← test_quiet p t st x] at stored framed
    obtain ⟨rest, same⟩ := ih (test p t false st x) (earlier ++ [sample x.globals]) stored
      (by simp; omega)
    rw [List.append_assoc] at rest
    exact ⟨rest, fun b => (same b).trans (framed b)⟩

variable {st : RampVariables × SignalVariables} (row : st.2.dataRow = -1) (w : TestWindow)

def metBy (p : Platform) (t : Tuning) (st : RampVariables × SignalVariables) (w : TestWindow) :
    BarrierTick where
  clock := w.barrier.clock
  ramp := (testWindow p t st w).1
  realtimeData :=
    (readRealTimeData p.overrun w.barrier.globals (arrive p t st w).2).realtimeData
  dataRow := (readRealTimeData p.overrun w.barrier.globals (arrive p t st w).2).dataRow

include row

theorem metBy_holds :
    Holds (readRealTimeData p.overrun w.barrier.globals (arrive p t st w).2)
      (inputSamples (w.before ++ [w.barrier])) := by
  have room := w.fits
  have empty : Holds st.2 [] := ⟨by rw [row]; rfl, fun n h => absurd h (Nat.not_lt_zero n)⟩
  have held := (arrive_holds p t w.before st [] empty (by simp; omega)).1
  have stored := held.readRealTimeData p.overrun w.barrier.globals (by simp [inputSamples]; omega)
  simpa [inputSamples, arrive] using stored

theorem testWindow_eq : (testWindow p t st w).2 = barrierTick t st.2 (metBy p t st w) := by
  have room := w.fits
  have empty : Holds st.2 [] := ⟨by rw [row]; rfl, fun n h => absurd h (Nat.not_lt_zero n)⟩
  obtain ⟨held, framed⟩ := arrive_holds p t w.before st [] empty (by simp; omega)
  have arrived := (held.recorded_readRealTimeData p.overrun w.barrier.globals
    (by simp [inputSamples]; omega) (metBy p t st w)).trans (framed _)
  exact congrArg (fun s => (testSignal t w.barrier.clock true (testWindow p t st w).1 s).1) arrived

end window

/-- What the release automaton keeps from barrier to barrier. -/
@[ext] structure Kept where
  ltOcc : ℚ
  rtOcc : ℚ
  regularRelease : Bool
  overwriteRelease : Bool
  regularRemainCycle : ℤ
  overwriteRemainCycle : ℤ
  cyclePassed : ℤ
  rtExceedNum : ℤ
  oldMaxGreen : ℤ
  newMaxGreen : ℤ
  lastSentMaxGreen : ℤ

def kept (s : SignalVariables) : Kept where
  ltOcc := s.ltOcc
  rtOcc := s.rtOcc
  regularRelease := s.regularRelease
  overwriteRelease := s.overwriteRelease
  regularRemainCycle := s.regularRemainCycle
  overwriteRemainCycle := s.overwriteRemainCycle
  cyclePassed := s.cyclePassed
  rtExceedNum := s.rtExceedNum
  oldMaxGreen := s.oldMaxGreen
  newMaxGreen := s.newMaxGreen
  lastSentMaxGreen := s.lastSentMaxGreen

def Kept.signal (x : Kept) : SignalVariables :=
  { staticSignal with
    ltOcc := x.ltOcc
    rtOcc := x.rtOcc
    regularRelease := x.regularRelease
    overwriteRelease := x.overwriteRelease
    regularRemainCycle := x.regularRemainCycle
    overwriteRemainCycle := x.overwriteRemainCycle
    cyclePassed := x.cyclePassed
    rtExceedNum := x.rtExceedNum
    oldMaxGreen := x.oldMaxGreen
    newMaxGreen := x.newMaxGreen
    lastSentMaxGreen := x.lastSentMaxGreen }

section automaton

variable (t : Tuning) (s : SignalVariables)

theorem kept_duringOverwriteRelease :
    kept (duringOverwriteRelease s) = kept (duringOverwriteRelease (kept s).signal) := by
  unfold duringOverwriteRelease
  dsimp only
  by_cases last : s.overwriteRemainCycle - 1 = 0
  · rw [if_pos last, if_pos (show (kept s).signal.overwriteRemainCycle - 1 = 0 from last)]
    rfl
  · rw [if_neg last, if_neg (show ¬(kept s).signal.overwriteRemainCycle - 1 = 0 from last)]
    rfl

theorem kept_duringRegularRelease :
    kept (duringRegularRelease t s) = kept (duringRegularRelease t (kept s).signal) := by
  unfold duringRegularRelease
  dsimp only
  by_cases last : s.regularRemainCycle - 1 = 0
  · rw [if_pos last, if_pos (show (kept s).signal.regularRemainCycle - 1 = 0 from last)]
    by_cases enough : countExceed s ≥ t.cycleToActivateOverwrite
    · rw [if_pos enough, if_pos (show countExceed (kept s).signal ≥ _ from enough)]
      rfl
    · rw [if_neg enough, if_neg (show ¬countExceed (kept s).signal ≥ _ from enough)]
      rfl
  · rw [if_neg last, if_neg (show ¬(kept s).signal.regularRemainCycle - 1 = 0 from last)]
    rfl

theorem kept_duringNormalCycle :
    kept (duringNormalCycle t s) = kept (duringNormalCycle t (kept s).signal) := by
  unfold duringNormalCycle
  dsimp only
  by_cases due : s.cyclePassed + 1 = t.cycleToRelease
  · rw [if_pos due, if_pos (show (kept s).signal.cyclePassed + 1 = _ from due)]
    rfl
  · rw [if_neg due, if_neg (show ¬(kept s).signal.cyclePassed + 1 = _ from due)]
    rfl

theorem kept_getNewMaxGreenPhase3 (method : t.methodForRampQueue = 3) (r : RampVariables) :
    kept (getNewMaxGreenPhase3 t s r) =
      kept (getNewMaxGreenPhase3 t (kept s).signal staticRamp) := by
  have activation : ∀ s r, isActivation t s r = (s, checkActivationViaIntersectionOcc s) := by
    intro s r
    simp [isActivation, method]
  have same : checkActivationViaIntersectionOcc (kept s).signal =
      checkActivationViaIntersectionOcc s := rfl
  simp only [getNewMaxGreenPhase3, activation, same]
  cases checkActivationViaIntersectionOcc s
  · rfl
  change kept (if s.overwriteRelease then duringOverwriteRelease s
      else if s.regularRelease then duringRegularRelease t s else duringNormalCycle t s) =
    kept (if s.overwriteRelease then duringOverwriteRelease (kept s).signal
      else if s.regularRelease then duringRegularRelease t (kept s).signal
      else duringNormalCycle t (kept s).signal)
  cases s.overwriteRelease
  · cases s.regularRelease
    · exact kept_duringNormalCycle t s
    · exact kept_duringRegularRelease t s
  · exact kept_duringOverwriteRelease s

def Kept.measured (f : Rounding) (x : Kept) (b : BarrierTick) : Kept :=
  { x with
    ltOcc := f.round (f.round
      (getDetectorGreenOcc f b.realtimeData b.dataRow phase5Approach1 phase5Signal +
        getDetectorGreenOcc f b.realtimeData b.dataRow phase5Approach2 phase5Signal) / 2)
    rtOcc := getDetectorGreenOcc f b.realtimeData b.dataRow phase8Approach phase8Signal }

def Kept.barrier (x : Kept) (t : Tuning) (b : BarrierTick) : Kept :=
  let y := kept (getNewMaxGreenPhase3 t (x.measured t.rounding b).signal staticRamp)
  { y with lastSentMaxGreen := y.newMaxGreen }

theorem kept_barrierTick (method : t.methodForRampQueue = 3) (b : BarrierTick) :
    kept (barrierTick t s b) = if healthy b then (kept s).barrier t b else kept s := by
  rw [barrierTick_eq]
  cases through : healthy b
  · rfl
  · have occs : kept (measured t.rounding s b) = (kept s).measured t.rounding b := by
      have sound :
          ¬checkRealtimeDataHealth (recorded s b).realtimeData (recorded s b).dataRow ≠ 0 :=
        not_not.mpr (of_decide_eq_true through)
      rw [measured, getIntersectionMeasurement, if_neg sound]
      rfl
    have called := kept_getNewMaxGreenPhase3 t (measured t.rounding s b) method b.ramp
    rw [occs] at called
    exact congrArg (fun x : Kept => { x with lastSentMaxGreen := x.newMaxGreen }) called

end automaton

section run

variable (p : Platform) (t : Tuning)

def passes (st : RampVariables × SignalVariables) (w : TestWindow) : Bool :=
  healthy (metBy p t st w)

/-- A window overwrites what it reads: its verdict and its measurement do not depend on the
state it starts from. -/
theorem metBy_congr {st st' : RampVariables × SignalVariables} (row : st.2.dataRow = -1)
    (row' : st'.2.dataRow = -1) (w : TestWindow) :
    passes p t st w = passes p t st' w ∧
      ∀ x : Kept, x.barrier t (metBy p t st w) = x.barrier t (metBy p t st' w) := by
  obtain ⟨index, agree⟩ := (metBy_holds p t row w).agree (metBy_holds p t row' w)
  have index' : (metBy p t st w).dataRow = (metBy p t st' w).dataRow := index
  have verdict := checkRealtimeDataHealth_congr agree
  have occ := getDetectorGreenOcc_congr agree t.rounding
  constructor
  · unfold passes healthy
    rw [← index']
    exact congrArg (fun verdict => decide (verdict = 0)) verdict
  · intro x
    have same : x.measured t.rounding (metBy p t st w) =
        x.measured t.rounding (metBy p t st' w) := by
      unfold Kept.measured
      rw [← index']
      simp only [metBy, occ]
    rw [Kept.barrier, same]
    rfl

theorem kept_testWindow (method : t.methodForRampQueue = 3)
    {st : RampVariables × SignalVariables} (row : st.2.dataRow = -1) (w : TestWindow) :
    kept (testWindow p t st w).2 =
      if passes p t st w then (kept st.2).barrier t (metBy p t st w) else kept st.2 := by
  rw [testWindow_eq p t row, kept_barrierTick t st.2 method]
  rfl

theorem testWindow_dataRow (st : RampVariables × SignalVariables) (w : TestWindow) :
    (testWindow p t st w).2.dataRow = -1 :=
  testSignal_edge_dataRow _ _ _ _

def healthyWindows (st : RampVariables × SignalVariables) (ws : ℕ → TestWindow) (n : ℕ) :
    List TestWindow :=
  driven (testWindow p t) (passes p t) id st ws n

/-- What is kept after the healthy windows of a run is what is kept in the run of these
windows alone, and an unhealthy one changes none of it. -/
theorem unhealthy_windows_stutter (method : t.methodForRampQueue = 3)
    (st : RampVariables × SignalVariables) (row : st.2.dataRow = -1) (ws : ℕ → TestWindow)
    (n : ℕ) :
    (visited (testWindow p t) (passes p t) st ws n).map (fun st => kept st.2) =
        (iterates (testWindow p t) st (healthyWindows p t st ws n)).map (fun st => kept st.2) ∧
      ∀ k, passes p t (Run.run (testWindow p t) st ws k) (ws k) = false →
        kept (Run.run (testWindow p t) st ws (k + 1)).2 =
          kept (Run.run (testWindow p t) st ws k).2 := by
  have rows : ∀ k, (Run.run (testWindow p t) st ws k).2.dataRow = -1 := by
    intro k
    cases k with
    | zero => exact row
    | succ k => exact testWindow_dataRow p t _ _
  have still : ∀ k, passes p t (Run.run (testWindow p t) st ws k) (ws k) = false →
      kept (Run.run (testWindow p t) st ws (k + 1)).2 =
        kept (Run.run (testWindow p t) st ws k).2 := by
    intro k held
    rw [Run.run_succ, kept_testWindow p t method (rows k), held, if_neg (by simp)]
  refine ⟨?_, still⟩
  have related := (simulation (testWindow p t) (passes p t) id st ws (testWindow p t)
    (fun (st st' : RampVariables × SignalVariables) =>
      st'.2.dataRow = -1 ∧ kept st.2 = kept st'.2) ⟨row, rfl⟩ n
    (fun k _ held st' same => ⟨same.1, (still k held).trans same.2⟩)
    (fun k _ through st' same => by
      obtain ⟨verdict, measured⟩ := metBy_congr p t (rows k) same.1 (ws k)
      refine ⟨testWindow_dataRow p t _ _, ?_⟩
      rw [Run.run_succ, id, kept_testWindow p t method (rows k),
        kept_testWindow p t method same.1, ← verdict, through, if_pos rfl, if_pos rfl, measured,
        same.2])).2
  rw [← List.forall₂_eq_eq_eq, List.forall₂_map_left_iff, List.forall₂_map_right_iff]
  exact related.imp fun _ _ same => same.2

end run

def darkWindow : TestWindow where
  before := []
  barrier := ⟨{}, false, quietInput.clock⟩
  fits := by decide

def queueingInput : TestInput :=
  ⟨{ greens := 16, greenYellowOverlap := 2, presence2 := 16, presence3 := 5 }, false,
    quietInput.clock⟩

def queueingWindow : TestWindow where
  before := [queueingInput]
  barrier := queueingInput
  fits := by decide

def interruptedWindows (k : ℕ) : TestWindow := if k = 1 then darkWindow else queueingWindow

/-- The dark window stands between two that take the green from 25 to 23 and to 21. -/
theorem dark_window_stutters :
    let run := Run.run (testWindow straying {}) (staticRamp, startSignal 25) interruptedWindows
    (visited (testWindow straying {}) (passes straying {}) (staticRamp, startSignal 25)
        interruptedWindows 3).map (fun st => kept st.2) =
      (iterates (testWindow straying {}) (staticRamp, startSignal 25)
        [queueingWindow, queueingWindow]).map (fun st => kept st.2) ∧
      passes straying {} (run 1) darkWindow = false ∧ kept (run 2).2 = kept (run 1).2 ∧
      (kept (run 1).2).newMaxGreen = 23 ∧ (kept (run 3).2).newMaxGreen = 21 := by
  intro run
  have moved : moving (testWindow straying {}) (passes straying {}) (staticRamp, startSignal 25)
      interruptedWindows 3 = [0, 2] := by
    decide +kernel
  have healthy : healthyWindows straying {} (staticRamp, startSignal 25) interruptedWindows 3 =
      [queueingWindow, queueingWindow] := congrArg (List.map interruptedWindows) moved
  have dark : passes straying {} (run 1) darkWindow = false := by decide +kernel
  obtain ⟨same, still⟩ := unhealthy_windows_stutter straying {} rfl (staticRamp, startSignal 25) rfl
    interruptedWindows 3
  rw [healthy] at same
  exact ⟨same, dark, still 1 dark, by decide +kernel, by decide +kernel⟩

end RampMetering
