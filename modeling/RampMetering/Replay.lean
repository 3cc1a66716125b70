import RampMetering.Barrier
import RampMetering.Lib.Lines
import RampMetering.RampHistory
import RampMetering.ReplayLog

/-! The offline replay of the log files. `main` of `main.c` reads them line by line into the same
globals and samples them as the daemon does. Nothing sets the two flags it tests, so it fills
`realtime_data` with the rows the daemon sampled and does no more, whatever `get_new_data`
makes of a line: the scan of a line is a parameter. A file that is not there ends it, since
`test` closes the file it could not open. -/

namespace RampMetering
open Text

structure Replay where
  globals : Globals
  signal : SignalVariables
  ramp : RampVariables
  rampFlag : ℤ
  signalFlag : ℤ
  count : ℕ
  meterResult : List ℚ
  signalResult : List ℤ

def startReplay : Replay where
  globals := {}
  signal := startSignal 0
  ramp := initRampData staticRamp
  rampFlag := 0
  signalFlag := 0
  count := 0
  meterResult := []
  signalResult := []

def replayRamp (clock : Clock) (σ : Replay) : Replay :=
  if σ.rampFlag = 1 then
    let read := readRampData σ.globals σ.ramp
    if read.2 then
      let rate := getALINEARate read.1 clock.alineaFirst clock.alineaSecond
      { σ with
        ramp := { rate.1 with newMeterRate := rate.2 }
        meterResult := σ.meterResult ++ [rate.2]
        rampFlag := 0 }
    else { σ with ramp := read.1, rampFlag := 0 }
  else σ

def replaySignal (t : Tuning) (clock : Clock) (σ : Replay) : Replay :=
  if σ.signalFlag = 1 then
    let signal := (atBarrier t clock σ.ramp σ.signal).1
    { σ with
      signal := signal
      signalResult :=
        if (getIntersectionMeasurement t.rounding σ.signal clock.barrier).2 then
          σ.signalResult ++ [signal.newMaxGreen]
        else σ.signalResult
      signalFlag := 0 }
  else σ

abbrev Scan := List Char → Globals → Globals

def replayLine (scan : Scan) (p : Platform) (t : Tuning) (clock : Clock) (str : List Char)
    (σ : Replay) : Replay :=
  let σ := { σ with count := σ.count + 1, globals := scan str σ.globals }
  let σ := replayRamp clock σ
  let σ := { σ with signal := readRealTimeData p.overrun σ.globals σ.signal }
  let σ := replaySignal t clock σ
  { σ with signal := resetQueueWhenDue t clock σ.signal }

/-- `fgets` stores at most 999 characters of a line in `str`. -/
def strRoom : ℕ := 998

/-- The loop of `test`. The clock is the system's, not the log's. -/
def replayLines (scan : Scan) (p : Platform) (t : Tuning) (clocks : ℕ → Clock)
    (strs : List (List Char)) (σ : Replay) : Replay :=
  strs.foldl (fun σ str => replayLine scan p t (clocks σ.count) str σ) σ

/-- `test` on what `fopen` finds under a name. `fclose` of a null pointer has no result. -/
def testFile (scan : Scan) (p : Platform) (t : Tuning) (clocks : ℕ → Clock) (σ : Replay) :
    Option (List Char) → Option Replay
  | none => none
  | some file => some (replayLines scan p t clocks (linesOf strRoom file) σ)

def replayFiles (scan : Scan) (p : Platform) (t : Tuning) (clocks : ℕ → Clock)
    (files : List (Option (List Char))) : Option Replay :=
  files.foldlM (testFile scan p t clocks) startReplay

/-- The rows of some lines, each scanned into the globals the one before it left. -/
def scannedRows (scan : Scan) : Globals → List (List Char) → List Row
  | _, [] => []
  | g, str :: strs => sample (scan str g) :: scannedRows scan (scan str g) strs

theorem scannedRows_length (scan : Scan) (g : Globals) (strs : List (List Char)) :
    (scannedRows scan g strs).length = strs.length := by
  induction strs generalizing g with
  | nil => rfl
  | cons str strs ih => exact congrArg Nat.succ (ih _)

/-- The replay has stored these rows and done nothing else. -/
structure OnlySampled (σ : Replay) (rows : List Row) : Prop where
  holds : Holds σ.signal rows
  signal : ∃ data row, σ.signal = { startSignal 0 with realtimeData := data, dataRow := row }
  ramp : σ.ramp = initRampData staticRamp
  rampFlag : σ.rampFlag = 0
  signalFlag : σ.signalFlag = 0
  meterResult : σ.meterResult = []
  signalResult : σ.signalResult = []

theorem onlySampled_startReplay : OnlySampled startReplay [] where
  holds := ⟨rfl, fun n h => absurd h (Nat.not_lt_zero n)⟩
  signal := ⟨_, _, rfl⟩
  ramp := rfl
  rampFlag := rfl
  signalFlag := rfl
  meterResult := rfl
  signalResult := rfl

section line

variable (scan : Scan) (p : Platform) (t : Tuning)

theorem replayLine_idle (clock : Clock) (str : List Char) {σ : Replay} (ramp : σ.rampFlag = 0)
    (signal : σ.signalFlag = 0) :
    replayLine scan p t clock str σ =
      { σ with
        count := σ.count + 1
        globals := scan str σ.globals
        signal := readRealTimeData p.overrun (scan str σ.globals) σ.signal } := by
  have noRamp : ¬σ.rampFlag = 1 := by omega
  have noSignal : ¬σ.signalFlag = 1 := by omega
  simp only [replayLine, replayRamp, noRamp, if_false, replaySignal, noSignal,
    resetQueueWhenDue_off]

theorem OnlySampled.replayLine {σ : Replay} {rows : List Row} (h : OnlySampled σ rows)
    (room : rows.length < maxrow) (clock : Clock) (str : List Char) :
    OnlySampled (replayLine scan p t clock str σ) (rows ++ [sample (scan str σ.globals)]) := by
  obtain ⟨data, row, kept⟩ := h.signal
  have count := h.holds.1
  have inside : 0 ≤ σ.signal.dataRow + 1 ∧ σ.signal.dataRow + 1 < (maxrow : ℤ) := by omega
  rw [replayLine_idle scan p t clock str h.rampFlag h.signalFlag]
  refine ⟨h.holds.readRealTimeData _ _ room, ?_, h.ramp, h.rampFlag, h.signalFlag, h.meterResult,
    h.signalResult⟩
  dsimp only
  rw [readRealTimeData, storeRow, if_pos inside, kept]
  exact ⟨_, _, rfl⟩

theorem replay_lines (clocks : ℕ → Clock) (strs : List (List Char)) {σ : Replay} {rows : List Row}
    (h : OnlySampled σ rows) (room : rows.length + strs.length ≤ maxrow) :
    OnlySampled (replayLines scan p t clocks strs σ)
      (rows ++ scannedRows scan σ.globals strs) := by
  induction strs generalizing σ rows with
  | nil => simpa [replayLines, scannedRows] using h
  | cons str strs ih =>
    have first := h.replayLine scan p t (by rw [List.length_cons] at room; omega)
      (clocks σ.count) str
    have next := ih first (by
      simp only [List.length_append, List.length_cons, List.length_nil] at room ⊢
      omega)
    rw [replayLine_idle scan p t _ str h.rampFlag h.signalFlag] at next
    rw [replayLines, List.foldl_cons, replayLine_idle scan p t _ str h.rampFlag h.signalFlag,
      ← replayLines]
    simpa [scannedRows] using next

end line

section files

variable (scan : Scan) (p : Platform) (t : Tuning) (clocks : ℕ → Clock)

theorem replayFiles_of_missing {files : List (Option (List Char))} (missing : none ∈ files) :
    replayFiles scan p t clocks files = none := by
  rw [replayFiles]
  generalize startReplay = σ
  induction files generalizing σ with
  | nil => cases missing
  | cons file files ih =>
    rw [List.foldlM_cons]
    cases file with
    | none => rfl
    | some file => exact ih (by simpa using missing) _

theorem replayFiles_some (files : List (List Char)) :
    replayFiles scan p t clocks (files.map some) =
      some (replayLines scan p t clocks (files.flatMap (linesOf strRoom)) startReplay) := by
  rw [replayFiles]
  generalize startReplay = σ
  induction files generalizing σ with
  | nil => rfl
  | cons file files ih =>
    rw [List.map_cons, List.foldlM_cons, List.flatMap_cons, replayLines, List.foldl_append]
    exact ih _

theorem replay_any {files : List (List Char)}
    (room : (files.flatMap (linesOf strRoom)).length ≤ maxrow) :
    OnlySampled (replayLines scan p t clocks (files.flatMap (linesOf strRoom)) startReplay)
      (scannedRows scan {} (files.flatMap (linesOf strRoom))) :=
  replay_lines scan p t clocks _ onlySampled_startReplay (by simpa using room)

end files

structure LogLine where
  ts : Timestamp
  records : Records
  others : List Char

def LogLine.body (l : LogLine) : List Char := logLine l.ts l.records ++ l.others

def logFile (log : List LogLine) : List Char := (log.map LogLine.body).flatMap (· ++ ['\n'])

theorem newline_notMem_logLine (ts : Timestamp) (r : Records) : '\n' ∉ logLine ts r := by
  have columns := newline_notMem_line (fileSpec_fits r)
  have digits := @newline_notMem_printUnsigned 10 (by decide) (by decide)
  simp [logLine, timestampColumn, columns, digits]

structure SignalBytes (g : Globals) : Prop where
  greenYellowOverlap : IsByte g.greenYellowOverlap
  presence1 : IsByte g.presence1
  presence2 : IsByte g.presence2
  presence3 : IsByte g.presence3
  greens : IsByte g.greens
  yellows : IsByte g.yellows

theorem lowBits_of_isByte (long : LongWidth) {old : ℤ} (h : IsByte old) (x : Byte) :
    lowBits 8 old (long.convert false x.toNat) = maskByte x := by
  obtain ⟨low, high⟩ := h
  have below := x.isLt
  rw [convert_byte, maskByte_eq, lowBits]
  omega

theorem getNewData_signal (long : LongWidth) {g : Globals} (bytes : SignalBytes g)
    (ts : Timestamp) (r : Records) (rest : List Char) :
    let g' := getNewData long (logLine ts r ++ rest) g
    g'.greenYellowOverlap = maskByte r.status.greenYellowOverlap ∧
      g'.presence1 = maskByte r.status.presence1 ∧ g'.presence2 = maskByte r.status.presence2 ∧
      g'.presence3 = maskByte r.status.presence3 ∧ g'.greens = maskByte r.phaseStatus.greens ∧
      g'.yellows = maskByte r.phaseStatus.yellows := by
  intro g'
  have scanned : g' = storeAll getNewDataArguments
      (timestampValues ts ++ List.zipWith (Printed.readAs long) (fileSpec r) columnDirectives)
      g := by
    rw [← sscanf_logLine long ts r rest]
    rfl
  rw [scanned]
  exact ⟨lowBits_of_isByte long bytes.greenYellowOverlap _,
    lowBits_of_isByte long bytes.presence1 _, lowBits_of_isByte long bytes.presence2 _, lowBits_of_isByte long bytes.presence3 _,
    lowBits_of_isByte long bytes.greens _, lowBits_of_isByte long bytes.yellows _⟩

theorem sample_getNewData (long : LongWidth) {g : Globals} (bytes : SignalBytes g)
    (ts : Timestamp) (r : Records) (rest : List Char) :
    SignalBytes (getNewData long (logLine ts r ++ rest) g) ∧
      sample (getNewData long (logLine ts r ++ rest) g) = sample (decode r) := by
  obtain ⟨overlap, presence1, presence2, presence3, greens, yellows⟩ :=
    getNewData_signal long bytes ts r rest
  constructor
  · constructor
    · rw [overlap]
      exact isByte_maskByte _
    · rw [presence1]
      exact isByte_maskByte _
    · rw [presence2]
      exact isByte_maskByte _
    · rw [presence3]
      exact isByte_maskByte _
    · rw [greens]
      exact isByte_maskByte _
    · rw [yellows]
      exact isByte_maskByte _
  · simp only [sample, getPhase5SignalStatus, getPhase6SignalStatus, getPhase7SignalStatus,
      getPhase3SignalStatus, phaseSignalStatus, getPhase8SignalStatus, getPhase5Approach1Status,
      getPhase5Approach2Status, getPhase5StopbarStatus, getPhase8ApproachStatus,
      getPhase8StopbarStatus, overlap, presence1, presence2, presence3, greens, yellows]
    rfl

theorem signalBytes_zero : SignalBytes {} :=
  ⟨isByte_zero, isByte_zero, isByte_zero, isByte_zero, isByte_zero, isByte_zero⟩

theorem scannedRows_log (long : LongWidth) {g : Globals} (bytes : SignalBytes g)
    (log : List LogLine) :
    scannedRows (getNewData long) g ((log.map LogLine.body).map (· ++ ['\n'])) =
      log.map fun l => sample (decode l.records) := by
  induction log generalizing g with
  | nil => rfl
  | cons l log ih =>
    obtain ⟨bytes', row⟩ := sample_getNewData long bytes l.ts l.records (l.others ++ ['\n'])
    have text : l.body ++ ['\n'] = logLine l.ts l.records ++ (l.others ++ ['\n']) :=
      List.append_assoc _ _ _
    rw [List.map_cons, List.map_cons, scannedRows, text, row, ih bytes', List.map_cons]

/-- The buffer of `test` takes the line whole. -/
def LogLine.Fits (l : LogLine) : Prop := '\n' ∉ l.others ∧ l.body.length ≤ strRoom

theorem linesOf_logFile {log : List LogLine} (fits : ∀ l ∈ log, l.Fits) :
    linesOf strRoom (logFile log) = (log.map LogLine.body).map (· ++ ['\n']) := by
  apply linesOf_of_fits
  intro body member
  obtain ⟨l, inside, rfl⟩ := List.mem_map.mp member
  obtain ⟨plain, short⟩ := fits l inside
  refine ⟨?_, short⟩
  rw [LogLine.body, List.mem_append, not_or]
  exact ⟨newline_notMem_logLine l.ts l.records, plain⟩

theorem lines_logFiles {logs : List (List LogLine)} (fits : ∀ l ∈ logs.flatten, l.Fits) :
    (logs.map logFile).flatMap (linesOf strRoom) =
      (logs.flatten.map LogLine.body).map (· ++ ['\n']) := by
  induction logs with
  | nil => rfl
  | cons log logs ih =>
    have first := linesOf_logFile fun l inside =>
      fits l (List.mem_append_left logs.flatten inside)
    have others := ih fun l inside => fits l (List.mem_append_right log inside)
    rw [List.map_cons, List.flatMap_cons, first, others, List.flatten_cons, List.map_append,
      List.map_append]

theorem replay_log (long : LongWidth) (p : Platform) (t : Tuning) (clocks : ℕ → Clock)
    {logs : List (List LogLine)} (fits : ∀ l ∈ logs.flatten, l.Fits)
    (room : logs.flatten.length ≤ maxrow) :
    ∃ σ, replayFiles (getNewData long) p t clocks ((logs.map logFile).map some) = some σ ∧
      OnlySampled σ (logs.flatten.map fun l => sample (decode l.records)) := by
  have lines := lines_logFiles fits
  have whole : ((logs.map logFile).flatMap (linesOf strRoom)).length ≤ maxrow := by
    rw [lines, List.length_map, List.length_map]
    exact room
  have replayed := replay_any (getNewData long) p t clocks whole
  rw [lines, scannedRows_log long signalBytes_zero] at replayed
  refine ⟨_, replayFiles_some (getNewData long) p t clocks (logs.map logFile), ?_⟩
  rwa [lines]

def darkLine : LogLine := ⟨⟨8, 30, 0, 0⟩, zeroRecords, ['0', ' ']⟩

def greenLine : LogLine := ⟨⟨8, 30, 0, 50⟩, { zeroRecords with phaseStatus.greens := 32 }, []⟩

end RampMetering
