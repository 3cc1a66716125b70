import RampMetering.Interleaving
import RampMetering.Replay

/-! From the database to the log, and from the log to the replay. A line of `wrfiles_ac_rm` is no
snapshot: between its seven reads the other programs run. What it shows is the database at
six of these turns, and the replay of the printed lines samples its rows from them. -/

namespace RampMetering

variable {Others : Type}

def turns (events : ℕ → Event Others) (k : ℕ) : List ℕ :=
  (List.range k).filter fun j => (events j).program = .wrfilesAcRm

theorem turns_succ (events : ℕ → Event Others) (k : ℕ) :
    turns events (k + 1) =
      if (events k).program = .wrfilesAcRm then turns events k ++ [k] else turns events k := by
  rw [turns, List.range_succ, List.filter_append, List.filter_singleton]
  by_cases turn : (events k).program = .wrfilesAcRm
  · rw [decide_eq_true turn, if_pos turn]
    rfl
  · rw [decide_eq_false turn, if_neg turn]
    exact List.append_nil _

theorem turns_pairwise (events : ℕ → Event Others) (k : ℕ) : (turns events k).Pairwise (· < ·) :=
  List.pairwise_lt_range.filter _

/-- The six reads that a line shows, at these moments. -/
def readAt (s : ℕ → System Others) (status urmsStatus urmsDatafile phaseStatus signal ramp : ℕ) :
    LogBuffers where
  records :=
    { phaseStatus := (s phaseStatus).db.phaseStatus
      status := (s status).db.status
      dbUrmsStatus := (s urmsStatus).db.dbUrmsStatus
      urmsDatafile := (s urmsDatafile).db.urmsDatafile }
  dbSignalData := (s signal).db.dbSignalData
  dbRampData := (s ramp).db.dbRampData

/-- The lines of a logger that takes these turns: seven reads, and an eighth turn to write. -/
def logged (s : ℕ → System Others) : List ℕ → List LogBuffers
  | _ :: a :: b :: c :: d :: e :: f :: _ :: rest => readAt s a b c d e f :: logged s rest
  | _ => []

def takeTurns (s : ℕ → System Others) (w : Wrfiles) (js : List ℕ) : Wrfiles :=
  js.foldl (fun w j => wrfilesStep w (s j).db) w

theorem takeTurns_lines (s : ℕ → System Others) (js : List ℕ) (buffers : LogBuffers)
    (lines : List LogBuffers) :
    (takeTurns s ⟨.readShortStatus, buffers, lines⟩ js).lines = lines ++ logged s js := by
  induction js using logged.induct generalizing buffers lines with
  | case1 short a b c d e f write rest ih =>
    refine (ih (readAt s a b c d e f) (lines ++ [readAt s a b c d e f])).trans ?_
    rw [List.append_assoc]
    rfl
  | case2 js short =>
    have none : logged s js = [] := by
      rw [logged]
      exact short
    rw [none, List.append_nil]
    -- fewer than eight turns end before the line is written
    rcases js with
      _ | ⟨a, _ | ⟨b, _ | ⟨c, _ | ⟨d, _ | ⟨e, _ | ⟨f, _ | ⟨g, _ | ⟨h, rest⟩⟩⟩⟩⟩⟩⟩⟩
    · rfl
    · rfl
    · rfl
    · rfl
    · rfl
    · rfl
    · rfl
    · rfl
    · exact absurd rfl (short a b c d e f g h rest)

section run

variable (p : Platform) (t : Tuning)

theorem wrfiles_systemAt (s₀ : System Others) (events : ℕ → Event Others) (k : ℕ) :
    (systemAt p t s₀ events k).wrfiles =
      takeTurns (systemAt p t s₀ events) s₀.wrfiles (turns events k) := by
  induction k with
  | zero => rfl
  | succ k ih =>
    have step : (systemAt p t s₀ events (k + 1)).wrfiles =
        (systemStep p t (systemAt p t s₀ events k) (events k)).wrfiles := rfl
    rw [step, turns_succ]
    cases events k with
    | wrfiles =>
      rw [if_pos (by simp [Event.program]), takeTurns, List.foldl_append]
      exact congrArg (wrfilesStep · (systemAt p t s₀ events k).db) ih
    | algo x =>
      rw [if_neg (by simp [Event.program])]
      exact ih
    | feed x =>
      rw [if_neg (by simp [Event.program])]
      exact ih

def rowBetween (status : LongStatus8) (phaseStatus : PhaseStatus) : Row :=
  sample (decode { zeroRecords with status, phaseStatus })

def loggedRows (s : ℕ → System Others) : List ℕ → List Row
  | _ :: a :: _ :: _ :: d :: _ :: _ :: _ :: rest =>
    rowBetween (s a).db.status (s d).db.phaseStatus :: loggedRows s rest
  | _ => []

theorem map_logged (s : ℕ → System Others) (js : List ℕ) :
    (logged s js).map (fun b => sample (decode b.records)) = loggedRows s js := by
  induction js using logged.induct with
  | case1 short a b c d e f write rest ih => exact congrArg _ ih
  | case2 js short =>
    rw [logged, loggedRows]
    · rfl
    · exact short
    · exact short

/-- In any order of the calls, the log shows the database at the turns of the logger, eight to a
line; and its replay rebuilds the rows of these readings, from whatever files it was split into. -/
theorem log_replay_run (db : Database Others) (daemon : Daemon) (input : Input)
    (phaseTiming : PhaseTiming Others) (buffers : LogBuffers) (events : ℕ → Event Others) (k : ℕ) :
    let s := systemAt p t (boot db daemon input phaseTiming buffers) events
    (s k).wrfiles.lines = logged s (turns events k) ∧
      (turns events k).Pairwise (· < ·) ∧
      ∀ long clocks, ∀ logs : List (List LogLine),
        logs.flatten.map LogLine.records = (s k).wrfiles.lines.map LogBuffers.records →
        (∀ l ∈ logs.flatten, l.Fits) → logs.flatten.length ≤ maxrow →
        ∃ σ, replayFiles (getNewData long) p t clocks ((logs.map logFile).map some) = some σ ∧
          OnlySampled σ (loggedRows s (turns events k)) := by
  intro s
  have lines : (s k).wrfiles.lines = logged s (turns events k) := by
    have run := wrfiles_systemAt p t (boot db daemon input phaseTiming buffers) events k
    have wrote := takeTurns_lines s (turns events k) buffers []
    rw [List.nil_append] at wrote
    exact (congrArg Wrfiles.lines run).trans wrote
  refine ⟨lines, turns_pairwise events k, fun long clocks logs same fits room => ?_⟩
  have rows : logs.flatten.map (fun l => sample (decode l.records)) =
      loggedRows s (turns events k) := by
    rw [← map_logged, ← lines]
    have sampled := congrArg (List.map fun r => sample (decode r)) same
    rwa [List.map_map, List.map_map] at sampled
  rw [← rows]
  exact replay_log long p t clocks fits room

end run

def logThenGreen (k : ℕ) : Event Unit :=
  if k = 2 then .feed (.phaseStatus { zeroRecords.phaseStatus with greens := 32 }) else .wrfiles

def loggedLine : LogLine :=
  ⟨⟨8, 30, 0, 0⟩, { zeroRecords with phaseStatus.greens := 32 }, []⟩

theorem logThenGreen_replayed :
    ∃ σ, replayFiles (getNewData long64) straying {} (fun _ => quietInput.clock)
        [some (logFile [loggedLine])] = some σ ∧
      OnlySampled σ
        [rowBetween zeroRecords.status { zeroRecords.phaseStatus with greens := 32 }] := by
  refine (log_replay_run straying {} atBarrierDatabase (start 25 zeroRecords.dbUrmsStatus)
    quietInput ⟨25, ()⟩ ⟨zeroRecords, publishSignal staticSignal, publishRamp staticRamp⟩ logThenGreen
    9).2.2 long64 (fun _ => quietInput.clock) [[loggedLine]] ?_ ?_ (by decide)
  · rfl
  · have fits : loggedLine.Fits := ⟨by decide, by decide +kernel⟩
    simp [fits]

end RampMetering
