import RampMetering.DaemonRun

/-! The buffer between two barriers. Abstractly it is a recorder: a list of rows that grows
by one sample a tick and is handed over and emptied at a barrier. `Holds` relates the
array and its row index to that list; it breaks only where the list outgrows the array. -/

namespace RampMetering
open Window

/-- The rows below `data_row + 1` are the recorded ones; what lies above is left over. -/
def Holds (s : SignalVariables) (recorded : List Row) : Prop :=
  s.dataRow + 1 = recorded.length ∧
    ∀ n (h : n < recorded.length), s.realtimeData n = recorded[n]

theorem Holds.keptRows_eq {s : SignalVariables} {recorded : List Row} (h : Holds s recorded) :
    keptRows s = recorded := by
  have count : (rows 0 s.dataRow).length = recorded.length := by
    rw [rows, List.length_range']
    have := h.1
    omega
  refine List.ext_getElem (by rw [keptRows, List.length_map, count]) fun n h₁ h₂ => ?_
  simp only [keptRows, rows, List.getElem_map, List.getElem_range']
  simpa using h.2 n h₂

theorem Holds.agree {s s' : SignalVariables} {earlier : List Row} (h : Holds s earlier)
    (h' : Holds s' earlier) :
    s.dataRow = s'.dataRow ∧ AgreeTo s.realtimeData s'.realtimeData s.dataRow := by
  have row := h.1
  have row' := h'.1
  refine ⟨by omega, fun i below => ?_⟩
  have inside : i < earlier.length := by omega
  rw [h.2 i inside, h'.2 i inside]

theorem Holds.readRealTimeData {s : SignalVariables} {recorded : List Row}
    (h : Holds s recorded) (overrun : SignalVariables → Row → SignalVariables) (g : Globals)
    (room : recorded.length < maxrow) :
    Holds (RampMetering.readRealTimeData overrun g s) (recorded ++ [sample g]) := by
  have row : s.dataRow + 1 = recorded.length := h.1
  have inside : 0 ≤ s.dataRow + 1 ∧ s.dataRow + 1 < (maxrow : ℤ) := by omega
  have index : (s.dataRow + 1).toNat = recorded.length := by omega
  rw [RampMetering.readRealTimeData, storeRow, if_pos inside]
  refine ⟨by simp [row], fun n hn => ?_⟩
  simp only [index, Function.update_apply]
  rcases Nat.lt_or_ge n recorded.length with old | new
  · rw [if_neg (by omega), List.getElem_append_left old]
    exact h.2 n old
  · have last : n = recorded.length := by
      simp at hn
      omega
    simp [last]

theorem Holds.readRealTimeData_full {overrun : SignalVariables → Row → SignalVariables}
    {g : Globals} {s : SignalVariables} {recorded : List Row} (h : Holds s recorded)
    (full : maxrow ≤ recorded.length) :
    RampMetering.readRealTimeData overrun g s =
      overrun { s with dataRow := s.dataRow + 1 } (sample g) := by
  have row : s.dataRow + 1 = recorded.length := h.1
  rw [RampMetering.readRealTimeData, storeRow, if_neg]
  change ¬(0 ≤ s.dataRow + 1 ∧ s.dataRow + 1 < (maxrow : ℤ))
  omega

/-- `QUEUE_RESET` is false. -/
@[simp] theorem resetQueueWhenDue_off (t : Tuning) (c : Clock) (s : SignalVariables) :
    resetQueueWhenDue t c s = s := by
  simp [resetQueueWhenDue, queueReset]

theorem testSignal_edge (t : Tuning) (c : Clock) (r : RampVariables) (s : SignalVariables) :
    testSignal t c true r s = ((atBarrier t c r s).1, some (keptRows s)) := by
  simp only [testSignal, if_true, resetQueueWhenDue_off]
  rfl

@[simp] theorem testSignal_noEdge (t : Tuning) (c : Clock) (r : RampVariables)
    (s : SignalVariables) : testSignal t c false r s = (s, none) := by
  rw [testSignal, if_neg (by simp), resetQueueWhenDue_off]

theorem lastSent_eq (s : SignalVariables) :
    (if s.newMaxGreen ≠ s.lastSentMaxGreen then { s with lastSentMaxGreen := s.newMaxGreen }
      else s) = { s with lastSentMaxGreen := s.newMaxGreen } := by
  by_cases same : s.newMaxGreen = s.lastSentMaxGreen
  · rw [if_neg (not_not.mpr same)]
    exact congrArg (fun sent => { s with lastSentMaxGreen := sent }) same.symm
  · rw [if_pos same]

def afterMeasurement (t : Tuning) (r : RampVariables) (m : SignalVariables × Bool) :
    SignalVariables :=
  { (if m.2 then
      { getNewMaxGreenPhase3 t m.1 r with
        lastSentMaxGreen := (getNewMaxGreenPhase3 t m.1 r).newMaxGreen }
    else m.1) with dataRow := -1 }

theorem atBarrier_eq (t : Tuning) (c : Clock) (r : RampVariables) (s : SignalVariables) :
    (atBarrier t c r s).1 =
      afterMeasurement t r (getIntersectionMeasurement t.rounding s c.barrier) := by
  rw [atBarrier, afterMeasurement]
  simp only [lastSent_eq]

@[simp] theorem atBarrier_dataRow (t : Tuning) (c : Clock) (r : RampVariables)
    (s : SignalVariables) : (atBarrier t c r s).1.dataRow = -1 := rfl

@[simp] theorem testSignal_edge_dataRow (t : Tuning) (c : Clock) (r : RampVariables)
    (s : SignalVariables) : (testSignal t c true r s).1.dataRow = -1 := by
  simp [testSignal_edge]

theorem testSignal_edge_holds (t : Tuning) (c : Clock) (r : RampVariables)
    (s : SignalVariables) : Holds (testSignal t c true r s).1 [] :=
  ⟨by simp, fun n h => absurd h (Nat.not_lt_zero n)⟩

theorem Holds.testSignal_noEdge {t : Tuning} {c : Clock} {r : RampVariables}
    {s : SignalVariables} {recorded : List Row} (h : Holds s recorded) :
    Holds (testSignal t c false r s).1 recorded := by
  simpa using h

section run

variable (p : Platform) (t : Tuning) (maxGreen1 : ℤ) (u : DbUrmsStatus) (ins : ℕ → Input)

def samples (ticks : List ℕ) : List Row := ticks.map fun j => sampleOf (ins j)

@[simp] theorem samples_length (ticks : List ℕ) : (samples ins ticks).length = ticks.length :=
  List.length_map _

theorem samples_window (mark : ℕ → Bool) (k : ℕ) :
    samples ins (window mark k) = samples ins (pending mark k) ++ [sampleOf (ins k)] := by
  simp [samples, window]

theorem holds_pending (k : ℕ) :
    (pending (isEdge (barrierLevel ins)) k).length ≤ maxrow →
      Holds (daemonAt p t (start maxGreen1 u) ins k).signal
        (samples ins (pending (isEdge (barrierLevel ins)) k)) := by
  induction k with
  | zero =>
    intro _
    exact ⟨rfl, fun n h => absurd h (Nat.not_lt_zero n)⟩
  | succ k ih =>
    rw [daemonAt_succ, next_signal, signalEdge_run, pending_succ]
    cases edge : isEdge (barrierLevel ins) k
    -- no edge: the window grows by this tick's row
    · intro fits
      rw [if_neg (by simp), window_length] at fits
      have recorded := (ih (by omega)).readRealTimeData p.overrun
        (tickGlobals (daemonAt p t (start maxGreen1 u) ins k) (ins k))
        (by rw [samples_length]; omega)
      rw [if_neg (by simp), samples_window]
      exact recorded.testSignal_noEdge
    -- an edge empties the buffer, even one that had overflowed
    · intro _
      exact testSignal_edge_holds _ _ _ _

theorem holds_window (k : ℕ) (fits : (window (isEdge (barrierLevel ins)) k).length ≤ maxrow) :
    Holds (readRealTimeData p.overrun (tickGlobals (daemonAt p t (start maxGreen1 u) ins k)
        (ins k)) (daemonAt p t (start maxGreen1 u) ins k).signal)
      (samples ins (window (isEdge (barrierLevel ins)) k)) := by
  rw [window_length] at fits
  rw [samples_window, ← sample_tickGlobals (daemonAt p t (start maxGreen1 u) ins k)]
  exact (holds_pending p t maxGreen1 u ins k (by omega)).readRealTimeData _ _
    (by rw [samples_length]; omega)

/-- The signal data once tick `k` has stored its sample. -/
def sampledAt (k : ℕ) : SignalVariables :=
  readRealTimeData p.overrun (tickGlobals (daemonAt p t (start maxGreen1 u) ins k) (ins k))
    (daemonAt p t (start maxGreen1 u) ins k).signal

theorem sampledAt_eq (k : ℕ) (fits : (window (isEdge (barrierLevel ins)) k).length ≤ maxrow) :
    sampledAt p t maxGreen1 u ins k =
      { (daemonAt p t (start maxGreen1 u) ins k).signal with
        realtimeData := Function.update (daemonAt p t (start maxGreen1 u) ins k).signal.realtimeData
          (pending (isEdge (barrierLevel ins)) k).length (sampleOf (ins k))
        dataRow := (pending (isEdge (barrierLevel ins)) k).length } := by
  rw [window_length] at fits
  have row : (daemonAt p t (start maxGreen1 u) ins k).signal.dataRow + 1 =
      ((pending (isEdge (barrierLevel ins)) k).length : ℤ) := by
    rw [(holds_pending p t maxGreen1 u ins k (by omega)).1, samples_length]
  rw [sampledAt, RampMetering.readRealTimeData, storeRow, sample_tickGlobals]
  dsimp only
  rw [row, if_pos (by omega), Int.toNat_natCast]

theorem writtenRow_eq (k : ℕ)
    (fits : (pending (isEdge (barrierLevel ins)) k).length ≤ maxrow) :
    (output p t (daemonAt p t (start maxGreen1 u) ins k) (ins k)).writtenRow =
      (pending (isEdge (barrierLevel ins)) k).length := by
  have held := (holds_pending p t maxGreen1 u ins k fits).1
  rw [samples_length] at held
  exact held

/-- The stores of a run stay inside `realtime_data` exactly as long as no window from one
barrier edge to the next outgrows it. -/
theorem writtenRow_inside_iff (n : ℕ) :
    (∀ k < n, ∀ o, outputAt p t (start maxGreen1 u) ins k = some o →
      0 ≤ o.writtenRow ∧ o.writtenRow < maxrow) ↔
    ∀ k < n, Taken ins k → (window (isEdge (barrierLevel ins)) k).length ≤ maxrow := by
  constructor
  · intro inside k hk taken
    induction k with
    | zero => simp [maxrow]
    | succ k ih =>
      have before := ih (by omega) (taken.of_le (Nat.le_succ k))
      have fits : (pending (isEdge (barrierLevel ins)) (k + 1)).length ≤ maxrow := by
        rw [pending_succ]
        split
        · simp
        · exact before
      have row := (inside (k + 1) hk _ (outputAt_start_eq_some.mpr ⟨taken, rfl⟩)).2
      rw [writtenRow_eq p t maxGreen1 u ins (k + 1) fits] at row
      rw [window_length]
      omega
  · intro fits k hk o ho
    obtain ⟨taken, rfl⟩ := outputAt_start_eq_some.mp ho
    have room := fits k hk taken
    rw [window_length] at room
    rw [writtenRow_eq p t maxGreen1 u ins k (by omega)]
    omega

theorem isEdge_quiet (k : ℕ) : isEdge (barrierLevel fun _ => quietInput) k = false := by
  cases k <;> rfl

/-- With no barrier at all the store of tick 6000 is at row 6000. -/
theorem quiet_run_leaves_array :
    ∃ o, outputAt straying {} (start 25 zeroRecords.dbUrmsStatus) (fun _ => quietInput)
        maxrow = some o ∧ ¬(0 ≤ o.writtenRow ∧ o.writtenRow < maxrow) := by
  have alone := pending_of_no_mark (k := maxrow) fun i _ => isEdge_quiet i
  refine ⟨_, outputAt_start_eq_some.mpr ⟨?_, rfl⟩, ?_⟩
  · intro j _
    simp [isEdge_quiet]
  · rw [writtenRow_eq, alone, List.length_range]
    · omega
    · rw [alone, List.length_range]

/-- At the rising edges and nowhere else the measurement is entered, with the samples of the
ticks since the edge before, and the state goes on from what it answers. Any other tick changes
the stored sample alone. -/
theorem measured_eq (k : ℕ) (o : Output)
    (fits : (window (isEdge (barrierLevel ins)) k).length ≤ maxrow)
    (taken : outputAt p t (start maxGreen1 u) ins k = some o) :
    o.measured =
        (if isEdge (barrierLevel ins) k then
          some ((window (isEdge (barrierLevel ins)) k).map fun j => sampleOf (ins j))
        else none) ∧
      keptRows (sampledAt p t maxGreen1 u ins k) =
        (window (isEdge (barrierLevel ins)) k).map (fun j => sampleOf (ins j)) ∧
      (daemonAt p t (start maxGreen1 u) ins (k + 1)).signal =
        (if isEdge (barrierLevel ins) k then
          afterMeasurement t (daemonAt p t (start maxGreen1 u) ins (k + 1)).ramp
            (getIntersectionMeasurement t.rounding (sampledAt p t maxGreen1 u ins k)
              (ins k).clock.barrier)
        else sampledAt p t maxGreen1 u ins k) ∧
      sampledAt p t maxGreen1 u ins k =
        { (daemonAt p t (start maxGreen1 u) ins k).signal with
          realtimeData :=
            Function.update (daemonAt p t (start maxGreen1 u) ins k).signal.realtimeData
              (pending (isEdge (barrierLevel ins)) k).length (sampleOf (ins k))
          dataRow := (pending (isEdge (barrierLevel ins)) k).length } := by
  obtain ⟨-, rfl⟩ := outputAt_start_eq_some.mp taken
  have kept : keptRows (sampledAt p t maxGreen1 u ins k) =
      samples ins (window (isEdge (barrierLevel ins)) k) :=
    (holds_window p t maxGreen1 u ins k fits).keptRows_eq
  refine ⟨?_, kept, ?_, sampledAt_eq p t maxGreen1 u ins k fits⟩
  · rw [output_measured, signalEdge_run]
    cases isEdge (barrierLevel ins) k
    · rw [testSignal_noEdge]
      rfl
    · rw [testSignal_edge]
      exact congrArg some kept
  · rw [daemonAt_succ, next_signal, signalEdge_run]
    cases isEdge (barrierLevel ins) k
    · rw [testSignal_noEdge]
      rfl
    · rw [testSignal_edge, atBarrier_eq]
      rfl

def barrierInput : Input := { quietInput with records.phaseStatus.barrierFlag := 1 }

theorem measured_eq_two_ticks :
    (output straying {} (daemonAt straying {} (start 25 zeroRecords.dbUrmsStatus)
        (fun k => if k = 1 then barrierInput else quietInput) 1) barrierInput).measured =
      some [sampleOf quietInput, sampleOf barrierInput] :=
  (measured_eq straying {} 25 zeroRecords.dbUrmsStatus
    (fun k => if k = 1 then barrierInput else quietInput) 1 _ (by decide)
    (outputAt_start_eq_some.mpr ⟨by decide, rfl⟩)).1

def PublishesSample (σ : Daemon) (k : ℕ) : Prop :=
  ∀ o, outputAt p t σ ins k = some o →
    (0 ≤ o.publishedRow ∧ o.publishedRow < maxrow) ∧
      ∀ col, o.dbSignalData.realtimeData col = some (o.sampled col)

theorem output_signal (σ : Daemon) (i : Input) :
    (output p t σ i).publishedRow = (next p t σ i).signal.dataRow ∧
    (output p t σ i).dbSignalData = publishSignal (next p t σ i).signal ∧
    (output p t σ i).sampled = sampleOf i := by
  simp only [output, next, tick, sampleOf]
  exact ⟨trivial, trivial, rfl⟩

theorem publishedRow_of_edge (k : ℕ) (edge : isEdge (barrierLevel ins) k = true) :
    (output p t (daemonAt p t (start maxGreen1 u) ins k) (ins k)).publishedRow = -1 := by
  rw [(output_signal _ _ _ _).1, next_signal, signalEdge_run, edge]
  exact testSignal_edge_dataRow _ _ _ _

theorem publishesSample_of_noEdge (k : ℕ) (noEdge : isEdge (barrierLevel ins) k = false)
    (fits : (window (isEdge (barrierLevel ins)) k).length ≤ maxrow) :
    PublishesSample p t ins (start maxGreen1 u) k := by
  intro o ho
  obtain ⟨-, rfl⟩ := outputAt_start_eq_some.mp ho
  obtain ⟨row, published, sampled⟩ := output_signal p t
    (daemonAt p t (start maxGreen1 u) ins k) (ins k)
  have held := holds_window p t maxGreen1 u ins k fits
  have kept : Holds (next p t (daemonAt p t (start maxGreen1 u) ins k) (ins k)).signal
      (samples ins (window (isEdge (barrierLevel ins)) k)) := by
    rw [next_signal, signalEdge_run, noEdge]
    exact held.testSignal_noEdge
  obtain ⟨index, cells⟩ := kept
  rw [samples_length, window_length] at index
  rw [window_length] at fits
  have inside : 0 ≤ (next p t (daemonAt p t (start maxGreen1 u) ins k) (ins k)).signal.dataRow ∧
      (next p t (daemonAt p t (start maxGreen1 u) ins k) (ins k)).signal.dataRow <
        (maxrow : ℤ) := by
    omega
  refine ⟨by rw [row]; exact inside, fun col => ?_⟩
  have last : (next p t (daemonAt p t (start maxGreen1 u) ins k) (ins k)).signal.realtimeData
      (pending (isEdge (barrierLevel ins)) k).length = sampleOf (ins k) := by
    simpa [samples, window] using
      cells (pending (isEdge (barrierLevel ins)) k).length (by simp)
  have position : (next p t (daemonAt p t (start maxGreen1 u) ins k) (ins k)).signal.dataRow.toNat
      = (pending (isEdge (barrierLevel ins)) k).length := by
    omega
  rw [published, sampled]
  simp only [publishSignal, readCell, if_pos inside, position]
  exact congrArg some (congrFun last col)

theorem straying_dataRow (k : ℕ) :
    maxrow < (pending (isEdge (barrierLevel ins)) k).length →
      (daemonAt straying t (start maxGreen1 u) ins k).signal.dataRow = -5 := by
  induction k with
  | zero => simp
  | succ k ih =>
    rw [pending_succ]
    cases edge : isEdge (barrierLevel ins) k
    · rw [if_neg (by simp), window_length]
      intro long
      rw [daemonAt_succ, next_signal, signalEdge_run, edge]
      rw [testSignal_noEdge]
      dsimp only
      rcases Nat.lt_or_ge maxrow (pending (isEdge (barrierLevel ins)) k).length with more | just
      · have lost := ih more
        rw [readRealTimeData, storeRow, if_neg]
        · rfl
        · change ¬(0 ≤ (daemonAt straying t (start maxGreen1 u) ins k).signal.dataRow + 1 ∧ _)
          omega
      · rw [(holds_pending straying t maxGreen1 u ins k just).readRealTimeData_full
          (by rw [samples_length]; omega)]
        rfl
    · intro long
      simp at long

/-- Whatever a stray store does, a tick publishes what it sampled exactly when it is no
barrier tick and the current window still fits the array. -/
theorem publishesSample_iff (k : ℕ) :
    (∀ p, PublishesSample p t ins (start maxGreen1 u) k) ↔
      (Taken ins k → isEdge (barrierLevel ins) k = false ∧
        (window (isEdge (barrierLevel ins)) k).length ≤ maxrow) := by
  constructor
  · intro all taken
    have row := (all straying _ (outputAt_start_eq_some.mpr ⟨taken, rfl⟩)).1.1
    have noEdge : isEdge (barrierLevel ins) k = false := by
      by_contra edge
      rw [publishedRow_of_edge straying t maxGreen1 u ins k (by simpa using edge)] at row
      omega
    refine ⟨noEdge, ?_⟩
    -- on the straying platform the index is lost until the next edge
    by_contra long
    have lost := straying_dataRow t maxGreen1 u ins (k + 1) (by
      rw [pending_succ, noEdge, if_neg (by simp)]
      omega)
    rw [(output_signal _ _ _ _).1, ← daemonAt_succ, lost] at row
    omega
  · intro ok p o ho
    obtain ⟨taken, -⟩ := outputAt_start_eq_some.mp ho
    obtain ⟨noEdge, fits⟩ := ok taken
    exact publishesSample_of_noEdge p t maxGreen1 u ins k noEdge fits o ho

end run

theorem barrier_tick_publishes_no_row :
    ∃ o, outputAt straying {} (start 25 zeroRecords.dbUrmsStatus) (fun _ => barrierInput) 0 =
        some o ∧ o.publishedRow = -1 ∧ o.dbSignalData.realtimeData phase5Signal = none := by
  refine ⟨_, outputAt_start_eq_some.mpr ⟨by decide, rfl⟩, ?_, ?_⟩
  · exact publishedRow_of_edge straying {} 25 _ _ 0 rfl
  · have row := publishedRow_of_edge straying {} 25 zeroRecords.dbUrmsStatus
      (fun _ => barrierInput) 0 rfl
    rw [(output_signal _ _ _ _).1] at row
    rw [(output_signal _ _ _ _).2.1]
    simp only [publishSignal, readCell, row]
    rfl

end RampMetering
