import RampMetering.Lib.Window
import RampMetering.Daemon

/-! Runs of the daemon: what a tick does to each part of the state, and the two edge
detectors as rising edges of the sampled levels. -/

namespace RampMetering
open Window

def tickGlobals (σ : Daemon) (i : Input) : Globals :=
  setGlobals σ.globals i.records.phaseStatus i.records.status i.records.dbUrmsStatus
    i.records.urmsDatafile

def sampleOf (i : Input) : Row :=
  sample (setGlobals {} i.records.phaseStatus i.records.status i.records.dbUrmsStatus
    i.records.urmsDatafile)

def signalEdge (σ : Daemon) (i : Input) : Bool :=
  (detectEdge i.records.phaseStatus.barrierFlag σ.signalFlagSav).1

def rampEdge (σ : Daemon) (i : Input) : Bool :=
  (detectEdge i.records.dbUrmsStatus.computationFinished σ.rampFlagSav).1

def barrierLevel (ins : ℕ → Input) (k : ℕ) : Bool :=
  decide ((ins k).records.phaseStatus.barrierFlag ≠ 0)

def rampLevel (ins : ℕ → Input) (k : ℕ) : Bool :=
  decide ((ins k).records.dbUrmsStatus.computationFinished ≠ 0)

theorem detectEdge_eq (level : Byte) (sav : Bool) :
    detectEdge level sav = (decide (level ≠ 0) && !sav, decide (level ≠ 0)) := by
  unfold detectEdge
  cases sav
  · by_cases h : level = 0
    · simp [h]
    · simp only [ne_eq, h, not_false_eq_true, and_self, if_true, decide_true, Bool.not_false]
      rfl
  · by_cases h : level = 0
    · simp [h]
    · simp only [ne_eq, h, not_false_eq_true, reduceCtorEq, and_false, and_self, if_true,
        if_false, decide_true, Bool.not_true]
      rfl

section step

variable (p : Platform) (t : Tuning) (σ : Daemon) (i : Input)

theorem next_ramp : (next p t σ i).ramp =
    (testRamp (tickGlobals σ i) i.clock (rampEdge σ i) σ.ramp).1 := by
  simp only [next, tick, tickGlobals, rampEdge]

theorem next_signal : (next p t σ i).signal =
    (testSignal t i.clock (signalEdge σ i) (next p t σ i).ramp
      (readRealTimeData p.overrun (tickGlobals σ i) σ.signal)).1 := by
  simp only [next, tick, tickGlobals, signalEdge]

theorem next_signalFlagSav : (next p t σ i).signalFlagSav =
    decide (i.records.phaseStatus.barrierFlag ≠ 0) := by
  change (detectEdge _ _).2 = _
  rw [detectEdge_eq]

theorem next_rampFlagSav : (next p t σ i).rampFlagSav =
    decide (i.records.dbUrmsStatus.computationFinished ≠ 0) := by
  change (detectEdge _ _).2 = _
  rw [detectEdge_eq]

theorem next_myflag : (next p t σ i).myflag =
    if exits σ i then σ.myflag
    else
      (controlMeter p i (rampEdge σ i) (next p t σ i).ramp.newMeterRate σ.myflag σ.dbUrms).1 := by
  change (if _ then _ else _ : Bool × DbUrms × Option DbUrms).1 = _
  exact apply_ite Prod.fst _ _ _

theorem output_command : (output p t σ i).command =
    if exits σ i then none
    else (controlMeter p i (rampEdge σ i) (next p t σ i).ramp.newMeterRate σ.myflag
      σ.dbUrms).2.2 := by
  change (if _ then _ else _ : Bool × DbUrms × Option DbUrms).2.2 = _
  exact apply_ite (fun c : Bool × DbUrms × Option DbUrms => c.2.2) _ _ _

theorem output_sentMaxGreen : (output p t σ i).sentMaxGreen =
    if signalEdge σ i then some (next p t σ i).signal.newMaxGreen else none := by
  simp only [next_signal, next_ramp]
  rfl

theorem output_measured : (output p t σ i).measured =
    (testSignal t i.clock (signalEdge σ i) (next p t σ i).ramp
      (readRealTimeData p.overrun (tickGlobals σ i) σ.signal)).2 := by
  simp only [output, tick, next_ramp, tickGlobals, signalEdge, rampEdge]

theorem sample_tickGlobals : sample (tickGlobals σ i) = sampleOf i :=
  sample_setGlobals _ _ _ _ _ _

end step

section run

variable (p : Platform) (t : Tuning) (maxGreen1 : ℤ) (u : DbUrmsStatus) (ins : ℕ → Input)

@[simp] theorem daemonAt_zero (σ : Daemon) : daemonAt p t σ ins 0 = σ := rfl

theorem daemonAt_succ (σ : Daemon) (k : ℕ) :
    daemonAt p t σ ins (k + 1) = next p t (daemonAt p t σ ins k) (ins k) := rfl

theorem outputAt_eq_some {p : Platform} {t : Tuning} {σ : Daemon} {ins : ℕ → Input} {k : ℕ}
    {o : Output} :
    outputAt p t σ ins k = some o ↔
      Run.Live (next p t) exits σ ins k ∧ output p t (daemonAt p t σ ins k) (ins k) = o :=
  Run.answer_eq_some

theorem signalEdge_run (k : ℕ) :
    signalEdge (daemonAt p t (start maxGreen1 u) ins k) (ins k) =
      isEdge (barrierLevel ins) k := by
  rw [signalEdge, detectEdge_eq]
  cases k with
  | zero => simp [start, isEdge, barrierLevel]
  | succ k => simp [daemonAt_succ, next_signalFlagSav, isEdge, barrierLevel]

theorem rampEdge_run (k : ℕ) :
    rampEdge (daemonAt p t (start maxGreen1 u) ins k) (ins k) = isEdge (rampLevel ins) k := by
  rw [rampEdge, detectEdge_eq]
  cases k with
  | zero => simp [start, isEdge, rampLevel]
  | succ k => simp [daemonAt_succ, next_rampFlagSav, isEdge, rampLevel]

/-- Tick `k` is taken: at no earlier barrier did setting the maximum green fail. -/
def Taken (ins : ℕ → Input) (k : ℕ) : Prop :=
  ∀ j < k, (isEdge (barrierLevel ins) j && (ins j).setMaxGreenFails) = false

instance (ins : ℕ → Input) (k : ℕ) : Decidable (Taken ins k) :=
  inferInstanceAs (Decidable
    (∀ j < k, (isEdge (barrierLevel ins) j && (ins j).setMaxGreenFails) = false))

theorem live_iff_taken (k : ℕ) :
    Run.Live (next p t) exits (start maxGreen1 u) ins k ↔ Taken ins k := by
  have same : ∀ j, exits (daemonAt p t (start maxGreen1 u) ins j) (ins j) =
      (isEdge (barrierLevel ins) j && (ins j).setMaxGreenFails) := by
    intro j
    rw [← signalEdge_run p t maxGreen1 u ins j]
    rfl
  constructor
  · intro live j hj
    rw [← same]
    exact live j hj
  · intro taken j hj
    change exits (daemonAt p t (start maxGreen1 u) ins j) (ins j) = false
    rw [same]
    exact taken j hj

theorem Taken.of_le {ins : ℕ → Input} {j k : ℕ} (h : Taken ins k) (hjk : j ≤ k) :
    Taken ins j :=
  fun i hi => h i (lt_of_lt_of_le hi hjk)

theorem outputAt_start_eq_some {p : Platform} {t : Tuning} {maxGreen1 : ℤ} {u : DbUrmsStatus}
    {ins : ℕ → Input} {k : ℕ} {o : Output} :
    outputAt p t (start maxGreen1 u) ins k = some o ↔
      Taken ins k ∧ output p t (daemonAt p t (start maxGreen1 u) ins k) (ins k) = o := by
  rw [outputAt_eq_some, live_iff_taken]

end run

end RampMetering
