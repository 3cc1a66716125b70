import RampMetering.QueueBalance
import RampMetering.RampRun

/-! The two controllers in one loop. Unless the ramp queue is estimated from the ramp data, the
signal side of a tick (the measurement, the maximum green and what is published of them) never
looks at the meter, and the ramp side (history, rate, commands) never looks at the
signal, except that a green that cannot be set ends both. -/

namespace RampMetering
open Window

structure SameSignalInput (i i' : Input) : Prop where
  phaseStatus : i.records.phaseStatus = i'.records.phaseStatus
  status : i.records.status = i'.records.status
  barrier : i.clock.barrier = i'.clock.barrier
  setMaxGreenFails : i.setMaxGreenFails = i'.setMaxGreenFails

structure SameRampInput (i i' : Input) : Prop where
  ts : i.records.phaseStatus.ts = i'.records.phaseStatus.ts
  dbUrmsStatus : i.records.dbUrmsStatus = i'.records.dbUrmsStatus
  urmsDatafile : i.records.urmsDatafile = i'.records.urmsDatafile
  alineaFirst : i.clock.alineaFirst = i'.clock.alineaFirst
  alineaSecond : i.clock.alineaSecond = i'.clock.alineaSecond
  tmWday : i.tmWday = i'.tmWday

structure SameSignalOutput (o o' : Output) : Prop where
  writtenRow : o.writtenRow = o'.writtenRow
  sampled : o.sampled = o'.sampled
  measured : o.measured = o'.measured
  dbSignalData : o.dbSignalData = o'.dbSignalData
  publishedRow : o.publishedRow = o'.publishedRow
  sentMaxGreen : o.sentMaxGreen = o'.sentMaxGreen

structure SameRampOutput (o o' : Output) : Prop where
  rateComputed : o.rateComputed = o'.rateComputed
  dbRampData : o.dbRampData = o'.dbRampData
  command : o.command = o'.command

structure SameSignal (σ σ' : Daemon) : Prop where
  signal : σ.signal = σ'.signal
  signalFlagSav : σ.signalFlagSav = σ'.signalFlagSav

structure SameRamp (σ σ' : Daemon) : Prop where
  ramp : σ.ramp = σ'.ramp
  rampFlagSav : σ.rampFlagSav = σ'.rampFlagSav
  myflag : σ.myflag = σ'.myflag
  dbUrms : σ.dbUrms = σ'.dbUrms

section signalSide

variable {p : Platform} {t : Tuning}

theorem isActivation_apart (apart : t.methodForRampQueue ≠ 1 ∧ t.methodForRampQueue ≠ 2)
    (s : SignalVariables) (r r' : RampVariables) : isActivation t s r = isActivation t s r' := by
  rw [isActivation, isActivation, if_neg apart.1, if_neg apart.1, if_neg apart.2, if_neg apart.2]

theorem getNewMaxGreenPhase3_apart (apart : t.methodForRampQueue ≠ 1 ∧ t.methodForRampQueue ≠ 2)
    (s : SignalVariables) (r r' : RampVariables) :
    getNewMaxGreenPhase3 t s r = getNewMaxGreenPhase3 t s r' := by
  rw [getNewMaxGreenPhase3, isActivation_apart apart s r r']
  rfl

theorem testSignal_apart (apart : t.methodForRampQueue ≠ 1 ∧ t.methodForRampQueue ≠ 2)
    {clock clock' : Clock} (barrier : clock.barrier = clock'.barrier) (flag : Bool)
    (r r' : RampVariables) (s : SignalVariables) :
    testSignal t clock flag r s = testSignal t clock' flag r' s := by
  have off : ∀ (clock : Clock) (s : SignalVariables), resetQueueWhenDue t clock s = s :=
    fun clock s => if_neg fun due => apart.1 due.2.2
  rw [testSignal, testSignal]
  cases flag
  · rw [if_neg (by simp), if_neg (by simp), off, off]
  · simp only [if_true, off, atBarrier, barrier]
    rw [getNewMaxGreenPhase3_apart apart _ r r']

theorem output_signalSide (p : Platform) (t : Tuning) (σ : Daemon) (i : Input) :
    (output p t σ i).writtenRow = σ.signal.dataRow + 1 ∧
      (output p t σ i).sampled = sampleOf i ∧
      (output p t σ i).measured =
        (if signalEdge σ i then
          some (keptRows (readRealTimeData p.overrun (tickGlobals σ i) σ.signal)) else none) ∧
      (output p t σ i).dbSignalData = publishSignal (next p t σ i).signal ∧
      (output p t σ i).publishedRow = (next p t σ i).signal.dataRow := by
  refine ⟨rfl, rfl, ?_, ?_, ?_⟩
  · rw [output_measured]
    cases signalEdge σ i
    · rw [testSignal_noEdge]
      rfl
    · rw [testSignal_edge]
      rfl
  · simp only [output, next, tick]
  · simp only [output, next, tick]

variable {σ σ' : Daemon} {i i' : Input}

theorem sampleOf_congr (inputs : SameSignalInput i i') : sampleOf i = sampleOf i' := by
  have same : sampleOf i = sample (setGlobals {} i.records.phaseStatus i.records.status
      i'.records.dbUrmsStatus i'.records.urmsDatafile) := rfl
  rw [same, inputs.phaseStatus, inputs.status]
  rfl

theorem readRealTimeData_congr (states : SameSignal σ σ') (inputs : SameSignalInput i i') :
    readRealTimeData p.overrun (tickGlobals σ i) σ.signal =
      readRealTimeData p.overrun (tickGlobals σ' i') σ'.signal := by
  rw [readRealTimeData, readRealTimeData, sample_tickGlobals, sample_tickGlobals,
    sampleOf_congr inputs, states.signal]

theorem signalEdge_congr (states : SameSignal σ σ') (inputs : SameSignalInput i i') :
    signalEdge σ i = signalEdge σ' i' := by
  rw [signalEdge, signalEdge, states.signalFlagSav, inputs.phaseStatus]

theorem sameSignal_next (apart : t.methodForRampQueue ≠ 1 ∧ t.methodForRampQueue ≠ 2)
    (states : SameSignal σ σ') (inputs : SameSignalInput i i') :
    SameSignal (next p t σ i) (next p t σ' i') := by
  constructor
  · rw [next_signal, next_signal, readRealTimeData_congr states inputs,
      signalEdge_congr states inputs]
    exact congrArg Prod.fst (testSignal_apart apart inputs.barrier _ _ _ _)
  · rw [next_signalFlagSav, next_signalFlagSav, inputs.phaseStatus]

theorem sameSignal_output (apart : t.methodForRampQueue ≠ 1 ∧ t.methodForRampQueue ≠ 2)
    (states : SameSignal σ σ') (inputs : SameSignalInput i i') :
    SameSignalOutput (output p t σ i) (output p t σ' i') := by
  obtain ⟨written, sampled, measured, data, row⟩ := output_signalSide p t σ i
  obtain ⟨written', sampled', measured', data', row'⟩ := output_signalSide p t σ' i'
  have after := (sameSignal_next (p := p) apart states inputs).signal
  have edge := signalEdge_congr states inputs
  constructor
  · rw [written, written', states.signal]
  · rw [sampled, sampled', sampleOf_congr inputs]
  · rw [measured, measured', edge, readRealTimeData_congr states inputs]
  · rw [data, data', after]
  · rw [row, row', after]
  · rw [output_sentMaxGreen, output_sentMaxGreen, edge, after]

end signalSide

section rampSide

variable {p : Platform} {t t' : Tuning} {σ σ' : Daemon} {i i' : Input}

theorem readRampData_congr (inputs : SameRampInput i i') (r : RampVariables) :
    readRampData (tickGlobals σ i) r = readRampData (tickGlobals σ' i') r := by
  rw [tickGlobals, tickGlobals, readRampData_setGlobals, readRampData_setGlobals]
  obtain ⟨⟨⟨ts, greens, yellows, reds, barrier⟩, status, u, d⟩, clock, wday, fails⟩ := i
  obtain ⟨⟨⟨ts', greens', yellows', reds', barrier'⟩, status', u', d'⟩, clock', wday', fails'⟩ := i'
  obtain ⟨rfl, rfl, rfl, -, -, -⟩ := inputs
  rfl

theorem rampEdge_congr (states : SameRamp σ σ') (inputs : SameRampInput i i') :
    rampEdge σ i = rampEdge σ' i' := by
  rw [rampEdge, rampEdge, states.rampFlagSav, inputs.dbUrmsStatus]

theorem next_ramp_congr (p : Platform) (t t' : Tuning) (states : SameRamp σ σ')
    (inputs : SameRampInput i i') :
    (next p t σ i).ramp = (next p t' σ' i').ramp := by
  rw [next_ramp, next_ramp, testRamp, testRamp, states.ramp, readRampData_congr inputs,
    rampEdge_congr states inputs, inputs.alineaFirst, inputs.alineaSecond]

theorem controlMeter_congr (inputs : SameRampInput i i') (rampFlag : Bool) (rate : ℚ)
    (myflag : Bool) (dbUrms : DbUrms) :
    controlMeter p i rampFlag rate myflag dbUrms =
      controlMeter p i' rampFlag rate myflag dbUrms := by
  have window : inControlWindow i = inControlWindow i' := by
    rw [inControlWindow, inControlWindow, inputs.tmWday, inputs.dbUrmsStatus]
  rw [controlMeter, controlMeter, window, inputs.dbUrmsStatus, inputs.urmsDatafile]

theorem next_dbUrms (p : Platform) (t : Tuning) (σ : Daemon) (i : Input) :
    (next p t σ i).dbUrms =
      if exits σ i then σ.dbUrms
      else (controlMeter p i (rampEdge σ i) (next p t σ i).ramp.newMeterRate σ.myflag
        σ.dbUrms).2.1 := by
  change (if _ then _ else _ : Bool × DbUrms × Option DbUrms).2.1 = _
  exact apply_ite (fun c : Bool × DbUrms × Option DbUrms => c.2.1) _ _ _

theorem sameRamp_next (states : SameRamp σ σ') (inputs : SameRampInput i i')
    (stay : exits σ i = false) (stay' : exits σ' i' = false) :
    SameRamp (next p t σ i) (next p t' σ' i') := by
  have ramp := next_ramp_congr p t t' states inputs
  have edge := rampEdge_congr states inputs
  refine ⟨ramp, ?_, ?_, ?_⟩
  · rw [next_rampFlagSav, next_rampFlagSav, inputs.dbUrmsStatus]
  · rw [next_myflag, next_myflag, stay, stay', ramp, edge, states.myflag, states.dbUrms,
      controlMeter_congr inputs]
  · rw [next_dbUrms, next_dbUrms, stay, stay', ramp, edge, states.myflag, states.dbUrms,
      controlMeter_congr inputs]

theorem sameRamp_output (states : SameRamp σ σ') (inputs : SameRampInput i i')
    (stay : exits σ i = false) (stay' : exits σ' i' = false) :
    SameRampOutput (output p t σ i) (output p t' σ' i') := by
  have ramp := next_ramp_congr p t t' states inputs
  have edge := rampEdge_congr states inputs
  have data : ∀ (t : Tuning) (σ : Daemon) (i : Input),
      (output p t σ i).dbRampData = publishRamp (next p t σ i).ramp := by
    intro t σ i
    simp only [output, next, tick]
  constructor
  · rw [output_rateComputed, output_rateComputed, computesRate, computesRate, states.ramp,
      readRampData_congr inputs, edge]
  · rw [data, data, ramp]
  · rw [output_command, output_command, stay, stay', ramp, edge, states.myflag, states.dbUrms,
      controlMeter_congr inputs]

end rampSide

section run

variable (p : Platform) {ins ins' : ℕ → Input} {k : ℕ}

/-- Two runs that read the same of the signal show the same of it, whatever the meter reports
and whatever plan it starts with. -/
theorem signal_ignores_meter {t : Tuning}
    (apart : t.methodForRampQueue ≠ 1 ∧ t.methodForRampQueue ≠ 2)
    (same : ∀ j ≤ k, SameSignalInput (ins j) (ins' j)) (maxGreen1 : ℤ) (u u' : DbUrmsStatus) :
    (Taken ins k ↔ Taken ins' k) ∧
      ∀ o o', outputAt p t (start maxGreen1 u) ins k = some o →
        outputAt p t (start maxGreen1 u') ins' k = some o' → SameSignalOutput o o' := by
  have level : ∀ j ≤ k, barrierLevel ins j = barrierLevel ins' j := by
    intro j hj
    rw [barrierLevel, barrierLevel, (same j hj).phaseStatus]
  have edge : ∀ j ≤ k, isEdge (barrierLevel ins) j = isEdge (barrierLevel ins') j := by
    intro j hj
    cases j with
    | zero => exact level 0 hj
    | succ j =>
      rw [isEdge, isEdge, level (j + 1) hj, level j (by omega)]
  have started : SameSignal (start maxGreen1 u) (start maxGreen1 u') := ⟨rfl, rfl⟩
  have states : SameSignal (daemonAt p t (start maxGreen1 u) ins k)
      (daemonAt p t (start maxGreen1 u') ins' k) :=
    Run.run_related SameSignal started k fun j hj _ _ states =>
      sameSignal_next apart states (same j hj.le)
  refine ⟨?_, ?_⟩
  · unfold Taken
    refine forall₂_congr fun j hj => ?_
    rw [edge j hj.le, (same j hj.le).setMaxGreenFails]
  · intro o o' ho ho'
    obtain ⟨-, rfl⟩ := outputAt_start_eq_some.mp ho
    obtain ⟨-, rfl⟩ := outputAt_start_eq_some.mp ho'
    exact sameSignal_output apart states (same k le_rfl)

def queueingJunction (k : ℕ) : Input :=
  { quietInput with
    records.phaseStatus.barrierFlag := if k % 2 = 1 then 1 else 0
    records.phaseStatus.greens := 16
    records.status.greenYellowOverlap := 2
    records.status.presence2 := 16
    records.status.presence3 := 5 }

def meterAtWork (i : Input) (k : ℕ) : Input :=
  { i with
    tmWday := 1
    records.dbUrmsStatus.computationFinished := if k % 2 = 0 then 1 else 0
    records.dbUrmsStatus.hour := 16
    records.dbUrmsStatus.planBaseLvl := fun _ => 2
    records.urmsDatafile.meteringRate := fun _ => 200 }

theorem signal_ignores_finished_rates :
    ∃ o o', outputAt straying {} (start 25 zeroRecords.dbUrmsStatus) queueingJunction 3 = some o ∧
      outputAt straying {} (start 25 finishedInput.records.dbUrmsStatus)
        (fun k => meterAtWork (queueingJunction k) (k + 1)) 3 = some o' ∧
      SameSignalOutput o o' ∧ o.sentMaxGreen = some 21 ∧ o.command.isSome = false ∧
      o'.command.isSome = true := by
  have taken : Taken queueingJunction 3 := by decide
  obtain ⟨agree, outputs⟩ := @signal_ignores_meter straying queueingJunction
    (fun k => meterAtWork (queueingJunction k) (k + 1)) 3 {} (by decide)
    (fun _ _ => ⟨rfl, rfl, rfl, rfl⟩) 25 zeroRecords.dbUrmsStatus
    finishedInput.records.dbUrmsStatus
  refine ⟨_, _, outputAt_start_eq_some.mpr ⟨taken, rfl⟩,
    outputAt_start_eq_some.mpr ⟨agree.mp taken, rfl⟩,
    outputs _ _ (outputAt_start_eq_some.mpr ⟨taken, rfl⟩)
      (outputAt_start_eq_some.mpr ⟨agree.mp taken, rfl⟩), ?_, ?_, ?_⟩
  · decide +kernel
  · decide +kernel
  · decide +kernel

theorem exits_of_taken (t : Tuning) (maxGreen1 : ℤ) (u : DbUrmsStatus) (taken : Taken ins (k + 1))
    {j : ℕ} (hj : j ≤ k) : exits (daemonAt p t (start maxGreen1 u) ins j) (ins j) = false :=
  (live_iff_taken p t maxGreen1 u ins (k + 1)).mpr taken j (by omega)

/-- Two runs that read the same of the meter command the same, whatever the signal does, however
the maximum green is tuned and wherever it starts, while neither run ends. -/
theorem meter_ignores_signal (same : ∀ j ≤ k, SameRampInput (ins j) (ins' j))
    (taken : Taken ins (k + 1)) (taken' : Taken ins' (k + 1)) (t t' : Tuning)
    (maxGreen1 maxGreen1' : ℤ) (u : DbUrmsStatus) :
    ∃ o o', outputAt p t (start maxGreen1 u) ins k = some o ∧
      outputAt p t' (start maxGreen1' u) ins' k = some o' ∧ SameRampOutput o o' := by
  have states : ∀ j ≤ k, SameRamp (daemonAt p t (start maxGreen1 u) ins j)
      (daemonAt p t' (start maxGreen1' u) ins' j) := by
    intro j hj
    induction j with
    | zero => exact ⟨rfl, rfl, rfl, rfl⟩
    | succ j ih =>
      exact sameRamp_next (ih (by omega)) (same j (by omega))
        (exits_of_taken p t maxGreen1 u taken (by omega))
        (exits_of_taken p t' maxGreen1' u taken' (by omega))
  refine ⟨_, _, outputAt_start_eq_some.mpr ⟨taken.of_le (Nat.le_succ k), rfl⟩,
    outputAt_start_eq_some.mpr ⟨taken'.of_le (Nat.le_succ k), rfl⟩, ?_⟩
  exact sameRamp_output (states k le_rfl) (same k le_rfl)
    (exits_of_taken p t maxGreen1 u taken le_rfl)
    (exits_of_taken p t' maxGreen1' u taken' le_rfl)

end run

theorem meter_ignores_barriers :
    ∃ o o', outputAt straying {} (start 25 zeroRecords.dbUrmsStatus) (meterAtWork quietInput) 2 =
        some o ∧
      outputAt straying byQueueEstimate (start 30 zeroRecords.dbUrmsStatus)
        (fun k => meterAtWork (queueingJunction (k + 1)) k) 2 = some o' ∧
      SameRampOutput o o' ∧ o.rateComputed = true ∧ o.command.isSome = true ∧
      o.sentMaxGreen = none ∧ o'.sentMaxGreen = some 30 := by
  have taken : Taken (meterAtWork quietInput) 3 := by decide
  have taken' : Taken (fun k => meterAtWork (queueingJunction (k + 1)) k) 3 := by decide
  have read : ∀ k ≤ 2, SameRampInput (meterAtWork quietInput k)
      (meterAtWork (queueingJunction (k + 1)) k) := fun _ _ => ⟨rfl, rfl, rfl, rfl, rfl, rfl⟩
  obtain ⟨o, o', first, second, same⟩ := meter_ignores_signal straying read taken taken' {}
    byQueueEstimate 25 30 zeroRecords.dbUrmsStatus
  refine ⟨o, o', first, second, same, ?_⟩
  obtain ⟨-, rfl⟩ := outputAt_start_eq_some.mp first
  obtain ⟨-, rfl⟩ := outputAt_start_eq_some.mp second
  refine ⟨?_, ?_, ?_, ?_⟩
  · decide +kernel
  · decide +kernel
  · decide +kernel
  · decide +kernel

end RampMetering
