import RampMetering.Database
import Mathlib.Data.List.GetD

/-! The programs around the database in any order of their calls. However the calls fall, the
passes of `ac_rm_algo` are ticks of the daemon on what they read, and the database holds what
the last of them published; and no line of the log has ramp data older than its signal data. -/

namespace RampMetering
open Interleave

variable {Others : Type}

section parts

variable (p : Platform) (t : Tuning) (σ : Daemon) (i : Input)

def tested : Daemon := signalPart p t (signalEdge σ i) (rampPart σ i) i

theorem next_of_exits (exit : exits σ i = true) : next p t σ i = tested p t σ i := by
  have failed : ((detectEdge i.records.phaseStatus.barrierFlag σ.signalFlagSav).1 &&
      i.setMaxGreenFails) = true := exit
  simp only [next, tick, tested, signalPart, rampPart, signalEdge, failed, if_true]

theorem next_of_not_exits (stay : exits σ i = false) :
    next p t σ i =
      let control := controlMeter p i (rampEdge σ i) (tested p t σ i).ramp.newMeterRate
        (tested p t σ i).myflag (tested p t σ i).dbUrms
      { tested p t σ i with myflag := control.1, dbUrms := control.2.1 } := by
  have set : ((detectEdge i.records.phaseStatus.barrierFlag σ.signalFlagSav).1 &&
      i.setMaxGreenFails) = false := stay
  simp only [next, tick, tested, signalPart, rampPart, signalEdge, rampEdge, set,
    Bool.false_eq_true, if_false]

theorem output_dbRampData_eq : (output p t σ i).dbRampData = publishRamp (rampPart σ i).ramp := by
  simp only [output, tick, rampPart]

theorem output_dbSignalData_eq :
    (output p t σ i).dbSignalData = publishSignal (tested p t σ i).signal := by
  simp only [output, tick, tested, signalPart, rampPart, signalEdge]

theorem output_command_of_not_exits (stay : exits σ i = false) :
    (output p t σ i).command =
      (controlMeter p i (rampEdge σ i) (tested p t σ i).ramp.newMeterRate (tested p t σ i).myflag
        (tested p t σ i).dbUrms).2.2 := by
  rw [output_command, stay, if_neg (by simp)]
  simp only [next, tick, tested, signalPart, rampPart, rampEdge]

end parts

section passes

variable (p : Platform) (t : Tuning)

def outputs (σ : Daemon) : List Input → List Output
  | [] => []
  | i :: is => output p t σ i :: outputs (next p t σ i) is

def Stays (σ : Daemon) : List Input → Prop
  | [] => True
  | i :: is => exits σ i = false ∧ Stays (next p t σ i) is

theorem outputs_concat (σ : Daemon) (is : List Input) (i : Input) :
    outputs p t σ (is ++ [i]) = outputs p t σ is ++ [output p t (is.foldl (next p t) σ) i] := by
  induction is generalizing σ with
  | nil => rfl
  | cons j js ih => exact congrArg (output p t σ j :: ·) (ih (next p t σ j))

theorem outputs_length (σ : Daemon) (is : List Input) : (outputs p t σ is).length = is.length := by
  induction is generalizing σ with
  | nil => rfl
  | cons j js ih => exact congrArg (· + 1) (ih (next p t σ j))

theorem daemonAt_getD (σ : Daemon) (is : List Input) (pad : Input) (j : ℕ) (hj : j ≤ is.length) :
    daemonAt p t σ (fun k => is.getD k pad) j = (is.take j).foldl (next p t) σ := by
  induction j with
  | zero => rfl
  | succ j ih =>
    rw [daemonAt_succ, ih (by omega), List.take_succ_eq_append_getElem (by omega),
      List.foldl_append, List.getD_eq_getElem _ _ (by omega)]
    rfl

theorem outputs_getElem? (σ : Daemon) (is : List Input) (pad : Input) (j : ℕ) (hj : j < is.length) :
    (outputs p t σ is)[j]? =
      some (output p t (daemonAt p t σ (fun k => is.getD k pad) j) (is.getD j pad)) := by
  rw [daemonAt_getD p t σ is pad j hj.le, List.getD_eq_getElem _ _ hj]
  induction is generalizing σ j with
  | nil => simp at hj
  | cons i is ih =>
    cases j with
    | zero => rfl
    | succ j => exact ih (next p t σ i) j (by simpa using hj)

theorem stays_concat (σ : Daemon) (is : List Input) (i : Input) :
    Stays p t σ (is ++ [i]) ↔ Stays p t σ is ∧ exits (is.foldl (next p t) σ) i = false := by
  induction is generalizing σ with
  | nil => simp [Stays]
  | cons j js ih =>
    have rest := ih (next p t σ j)
    simp only [List.cons_append, Stays, List.foldl_cons, and_assoc]
    rw [rest]

theorem Stays.live {σ : Daemon} {is : List Input} (h : Stays p t σ is) (rest : List Input)
    (pad : Input) : Run.Live (next p t) exits σ (fun k => (is ++ rest).getD k pad) is.length := by
  intro j hj
  have inside : j < (is ++ rest).length := by
    rw [List.length_append]
    omega
  change exits (daemonAt p t σ (fun k => (is ++ rest).getD k pad) j)
    ((is ++ rest).getD j pad) = false
  rw [daemonAt_getD p t σ _ pad j inside.le, List.getD_eq_getElem _ _ inside]
  induction is generalizing σ j with
  | nil => simp at hj
  | cons i is ih =>
    cases j with
    | zero => exact h.1
    | succ j => exact ih h.2 j (by simpa using hj) (by simpa using inside)

def passed (a : Algo Others) : Daemon := a.passes.foldl (next p t) a.origin

def Tested (a : Algo Others) : Prop :=
  a.daemon = tested p t (passed p t a) a.input ∧
    a.signalFlag = signalEdge (passed p t a) a.input ∧
    a.rampFlag = rampEdge (passed p t a) a.input

/-- Where the pass stands at each call. -/
def Stage (a : Algo Others) : Prop :=
  match a.pc with
  | .startTiming | .startPhase7Timing | .startUrmsStatus => a.passes = []
  | .readStatus | .readShortStatus | .readPhaseStatus | .readUrmsDatafile | .readUrmsStatus
  | .writeRampData => a.daemon = passed p t a
  | .writeSignalData =>
    a.daemon = rampPart (passed p t a) a.input ∧
      a.signalFlag = signalEdge (passed p t a) a.input ∧
      a.rampFlag = rampEdge (passed p t a) a.input
  | .readTiming | .setMaxGreen => Tested p t a ∧ a.signalFlag = true
  | .writeTiming | .control => Tested p t a ∧ exits (passed p t a) a.input = false
  | .exited => a.daemon = passed p t a

def pendingRamp (a : Algo Others) : List DbRampData :=
  match a.pc with
  | .writeSignalData | .readTiming | .setMaxGreen | .writeTiming | .control =>
    [publishRamp a.daemon.ramp]
  | _ => []

def pendingSignal (a : Algo Others) : List DbSignalData :=
  match a.pc with
  | .readTiming | .setMaxGreen | .writeTiming | .control => [publishSignal a.daemon.signal]
  | _ => []

def commandOver (old : DbUrms) (o : Output) : DbUrms := o.command.getD old

def Started (a : Algo Others) : Prop :=
  match a.pc with
  | .startTiming | .startPhase7Timing | .startUrmsStatus => True
  | _ => ∃ maxGreen1 dbUrmsStatus, a.origin = start maxGreen1 dbUrmsStatus

def ExitsLast (a : Algo Others) : Prop :=
  match a.pc with
  | .exited =>
    ∃ is i, a.passes = is ++ [i] ∧ Stays p t a.origin is ∧
      exits (is.foldl (next p t) a.origin) i = true
  | _ => Stays p t a.origin a.passes

/-- What the program and the variables only it writes have in common at every call, from the
database `db₀` the system started with. -/
structure AlgoInvariant (db₀ : Database Others) (a : Algo Others) (db : Database Others) :
    Prop where
  stage : Stage p t a
  started : Started a
  exitsLast : ExitsLast p t a
  rampLog : a.rampLog =
    db₀.dbRampData :: (outputs p t a.origin a.passes).map Output.dbRampData ++ pendingRamp a
  signalLog : a.signalLog =
    db₀.dbSignalData :: (outputs p t a.origin a.passes).map Output.dbSignalData ++ pendingSignal a
  rampData : a.rampLog.getLast? = some db.dbRampData
  signalData : a.signalLog.getLast? = some db.dbSignalData
  dbUrms : db.dbUrms = (outputs p t a.origin a.passes).foldl commandOver db₀.dbUrms

theorem foldl_next_concat (σ : Daemon) (is : List Input) (i : Input) :
    (is ++ [i]).foldl (next p t) σ = next p t (is.foldl (next p t) σ) i := by
  rw [List.foldl_append]
  rfl

theorem dbRampData_concat (first : DbRampData) (σ : Daemon) (is : List Input) (i : Input) :
    first :: (outputs p t σ (is ++ [i])).map Output.dbRampData ++ [] =
      first :: (outputs p t σ is).map Output.dbRampData ++
        [publishRamp (rampPart (is.foldl (next p t) σ) i).ramp] := by
  rw [outputs_concat, List.map_append, List.map_singleton, output_dbRampData_eq, List.append_nil]
  rfl

theorem dbSignalData_concat (first : DbSignalData) (σ : Daemon) (is : List Input) (i : Input) :
    first :: (outputs p t σ (is ++ [i])).map Output.dbSignalData ++ [] =
      first :: (outputs p t σ is).map Output.dbSignalData ++
        [publishSignal (tested p t (is.foldl (next p t) σ) i).signal] := by
  rw [outputs_concat, List.map_append, List.map_singleton, output_dbSignalData_eq,
    List.append_nil]
  rfl

theorem commandOver_concat (old : DbUrms) (σ : Daemon) (is : List Input) (i : Input) :
    (outputs p t σ (is ++ [i])).foldl commandOver old =
      commandOver ((outputs p t σ is).foldl commandOver old)
        (output p t (is.foldl (next p t) σ) i) := by
  rw [outputs_concat, List.foldl_append]
  rfl

variable {p t} {db₀ : Database Others} {a : Algo Others} {db : Database Others}

theorem AlgoInvariant.writeRampData (h : AlgoInvariant p t db₀ a db) (x : Ambient)
    (pc : a.pc = .writeRampData) :
    AlgoInvariant p t db₀ (algoStep p t x a db).1 (algoStep p t x a db).2 := by
  obtain ⟨stage, started, exitsLast, rampLog, signalLog, rampData, signalData, dbUrms⟩ := h
  obtain ⟨_, daemon, input, signalFlag, rampFlag, timing, origin, passes, ramps, signals⟩ := a
  subst pc
  have here : daemon = passes.foldl (next p t) origin := stage
  have log : ramps = db₀.dbRampData :: (outputs p t origin passes).map Output.dbRampData ++ [] :=
    rampLog
  subst here log
  refine ⟨⟨rfl, rfl, rfl⟩, started, exitsLast, ?_, signalLog, List.getLast?_concat, signalData,
    dbUrms⟩
  exact congrArg (· ++ _) (List.append_nil _)

theorem AlgoInvariant.writeSignalData (h : AlgoInvariant p t db₀ a db) (x : Ambient)
    (pc : a.pc = .writeSignalData) :
    AlgoInvariant p t db₀ (algoStep p t x a db).1 (algoStep p t x a db).2 := by
  obtain ⟨stage, started, exitsLast, rampLog, signalLog, rampData, signalData, dbUrms⟩ := h
  obtain ⟨_, daemon, input, signalFlag, rampFlag, timing, origin, passes, ramps, signals⟩ := a
  subst pc
  obtain ⟨here, signalEq, rampEq⟩ := stage
  change daemon = rampPart (passes.foldl (next p t) origin) input at here
  change signalFlag = signalEdge (passes.foldl (next p t) origin) input at signalEq
  change rampFlag = rampEdge (passes.foldl (next p t) origin) input at rampEq
  have log : signals =
      db₀.dbSignalData :: (outputs p t origin passes).map Output.dbSignalData ++ [] := signalLog
  subst here rampEq log
  have newLog := congrArg (· ++ [publishSignal (signalPart p t signalFlag
    (rampPart (passes.foldl (next p t) origin) input)
    { input with
      clock.barrier := x.clock.barrier
      clock.queueReset := x.clock.queueReset
      clock.queueResetStamp := x.clock.queueResetStamp }).signal])
    (List.append_nil
      (db₀.dbSignalData :: (outputs p t origin passes).map Output.dbSignalData))
  -- without a flag the pass skips the calls of the maximum green and cannot exit
  cases signalFlag
  · have stay : exits (passes.foldl (next p t) origin) input = false := by
      change (signalEdge _ _ && _) = false
      rw [← signalEq, Bool.false_and]
    refine ⟨⟨⟨?_, signalEq, rfl⟩, stay⟩, started, exitsLast, rampLog, newLog, rampData,
      List.getLast?_concat, dbUrms⟩
    exact congrArg (fun flag => signalPart p t flag (rampPart _ input) _) signalEq
  · refine ⟨⟨⟨?_, signalEq, rfl⟩, rfl⟩, started, exitsLast, rampLog, newLog, rampData,
      List.getLast?_concat, dbUrms⟩
    exact congrArg (fun flag => signalPart p t flag (rampPart _ input) _) signalEq

theorem AlgoInvariant.setMaxGreen (h : AlgoInvariant p t db₀ a db) (x : Ambient)
    (pc : a.pc = .setMaxGreen) :
    AlgoInvariant p t db₀ (algoStep p t x a db).1 (algoStep p t x a db).2 := by
  obtain ⟨stage, started, exitsLast, rampLog, signalLog, rampData, signalData, dbUrms⟩ := h
  obtain ⟨_, daemon, input, signalFlag, rampFlag, timing, origin, passes, ramps, signals⟩ := a
  subst pc
  obtain ⟨⟨here, signalEq, rampEq⟩, flag⟩ := stage
  change daemon = tested p t (passes.foldl (next p t) origin) input at here
  change signalFlag = signalEdge (passes.foldl (next p t) origin) input at signalEq
  change signalFlag = true at flag
  obtain ⟨clock, tmWday, fails⟩ := x
  subst here
  cases fails
  · have stay : exits (passes.foldl (next p t) origin) { input with setMaxGreenFails := false } =
        false := Bool.and_false _
    exact ⟨⟨⟨rfl, signalEq, rampEq⟩, stay⟩, started, exitsLast, rampLog, signalLog, rampData,
      signalData, dbUrms⟩
  · let i := { input with setMaxGreenFails := true }
    have exit : exits (passes.foldl (next p t) origin) i = true := by
      change (signalEdge _ input && true) = true
      rw [← signalEq, flag, Bool.and_true]
    refine ⟨?_, started, ⟨passes, i, rfl, exitsLast, exit⟩, ?_, ?_, rampData, signalData, ?_⟩
    · refine Eq.trans ?_ (foldl_next_concat p t origin passes i).symm
      rw [next_of_exits p t _ i exit]
      rfl
    · exact rampLog.trans (dbRampData_concat p t _ origin passes i).symm
    · exact signalLog.trans (dbSignalData_concat p t _ origin passes i).symm
    · refine Eq.trans ?_ (commandOver_concat p t _ origin passes i).symm
      change _ = (output p t _ i).command.getD _
      rw [output_command, exit, if_pos rfl]
      exact dbUrms

theorem AlgoInvariant.control (h : AlgoInvariant p t db₀ a db) (x : Ambient)
    (pc : a.pc = .control) :
    AlgoInvariant p t db₀ (algoStep p t x a db).1 (algoStep p t x a db).2 := by
  obtain ⟨stage, started, exitsLast, rampLog, signalLog, rampData, signalData, dbUrms⟩ := h
  obtain ⟨_, daemon, input, signalFlag, rampFlag, timing, origin, passes, ramps, signals⟩ := a
  subst pc
  obtain ⟨⟨here, signalEq, rampEq⟩, stay⟩ := stage
  change daemon = tested p t (passes.foldl (next p t) origin) input at here
  change rampFlag = rampEdge (passes.foldl (next p t) origin) input at rampEq
  change exits (passes.foldl (next p t) origin) input = false at stay
  subst here rampEq
  let i := { input with tmWday := x.tmWday }
  have stay' : exits (passes.foldl (next p t) origin) i = false := stay
  refine ⟨?_, started, ?_, ?_, ?_, rampData, signalData, ?_⟩
  · refine Eq.trans ?_ (foldl_next_concat p t origin passes i).symm
    rw [next_of_not_exits p t _ i stay']
    rfl
  · exact (stays_concat p t origin passes i).mpr ⟨exitsLast, stay'⟩
  · exact rampLog.trans (dbRampData_concat p t _ origin passes i).symm
  · exact signalLog.trans (dbSignalData_concat p t _ origin passes i).symm
  · refine Eq.trans ?_ (commandOver_concat p t _ origin passes i).symm
    change _ = (output p t _ i).command.getD _
    rw [output_command_of_not_exits p t _ i stay', ← show db.dbUrms = _ from dbUrms]
    rfl

variable (p t)

theorem algoInvariant_step (x : Ambient) (h : AlgoInvariant p t db₀ a db) :
    AlgoInvariant p t db₀ (algoStep p t x a db).1 (algoStep p t x a db).2 := by
  have whole := h
  obtain ⟨stage, started, exitsLast, rampLog, signalLog, rampData, signalData, dbUrms⟩ := h
  obtain ⟨pc, daemon, input, signalFlag, rampFlag, timing, origin, passes, ramps, signals⟩ := a
  cases pc with
  | startUrmsStatus =>
    have none : passes = [] := stage
    subst none
    exact ⟨rfl, ⟨_, _, rfl⟩, trivial, rampLog, signalLog, rampData, signalData, dbUrms⟩
  | writeRampData => exact whole.writeRampData x rfl
  | writeSignalData => exact whole.writeSignalData x rfl
  | setMaxGreen => exact whole.setMaxGreen x rfl
  | control => exact whole.control x rfl
  -- the other calls only read, or write what nothing here is about
  | startTiming =>
    exact ⟨stage, trivial, exitsLast, rampLog, signalLog, rampData, signalData, dbUrms⟩
  | startPhase7Timing =>
    exact ⟨stage, trivial, exitsLast, rampLog, signalLog, rampData, signalData, dbUrms⟩
  | _ => exact ⟨stage, started, exitsLast, rampLog, signalLog, rampData, signalData, dbUrms⟩

theorem AlgoInvariant.lengths (h : AlgoInvariant p t db₀ a db) :
    a.passes.length + 1 ≤ a.signalLog.length ∧ a.signalLog.length ≤ a.rampLog.length ∧
      a.rampLog.length ≤ a.signalLog.length + 1 ∧ a.rampLog.length ≤ a.passes.length + 2 := by
  have ramps := congrArg List.length h.rampLog
  have signals := congrArg List.length h.signalLog
  simp only [List.cons_append, List.length_cons, List.length_append, List.length_map,
    outputs_length] at ramps signals
  have pending : (pendingSignal a).length ≤ (pendingRamp a).length ∧
      (pendingRamp a).length ≤ (pendingSignal a).length + 1 ∧ (pendingRamp a).length ≤ 1 := by
    unfold pendingSignal pendingRamp
    cases a.pc <;> simp
  omega

end passes

def Shows (a : Algo Others) (line : LogBuffers) (v : ℕ × ℕ) : Prop :=
  a.signalLog[v.1]? = some line.dbSignalData ∧ a.rampLog[v.2]? = some line.dbRampData

/-- A later line: neither part goes back, and its signal data is at most one pass behind the
ramp data of the line before. -/
def Later (v w : ℕ × ℕ) : Prop := v.1 ≤ w.1 ∧ v.2 ≤ w.2 ∧ v.2 ≤ w.1 + 1

def Reading (s : System Others) (versions : List (ℕ × ℕ)) : Prop :=
  match s.wrfiles.pc with
  | .readRampData =>
    ∃ m, s.algo.signalLog[m]? = some s.wrfiles.buffers.dbSignalData ∧
      ∀ v ∈ versions, v.1 ≤ m ∧ v.2 ≤ m + 1
  | .saveToSpec =>
    ∃ w, Shows s.algo s.wrfiles.buffers w ∧ w.1 ≤ w.2 ∧ ∀ v ∈ versions, Later v w
  | _ => True

def LogInvariant (s : System Others) : Prop :=
  ∃ versions, List.Forall₂ (Shows s.algo) s.wrfiles.lines versions ∧
    (∀ v ∈ versions, v.1 ≤ v.2) ∧ versions.Pairwise Later ∧ Reading s versions

theorem shown_mono {α : Type} {log log' : List α} (grows : log <+: log') {m : ℕ} {x : α}
    (h : log[m]? = some x) : log'[m]? = some x := by
  obtain ⟨more, rfl⟩ := grows
  obtain ⟨inside, -⟩ := List.getElem?_eq_some_iff.mp h
  rw [List.getElem?_append_left inside]
  exact h

theorem shown_lt {α : Type} {log : List α} {m : ℕ} {x : α} (h : log[m]? = some x) :
    m < log.length := (List.getElem?_eq_some_iff.mp h).1

section mono

variable {a a' : Algo Others} (signals : a.signalLog <+: a'.signalLog)
  (ramps : a.rampLog <+: a'.rampLog)

include signals ramps

theorem Shows.mono {line : LogBuffers} {v : ℕ × ℕ} (h : Shows a line v) : Shows a' line v :=
  ⟨shown_mono signals h.1, shown_mono ramps h.2⟩

theorem LogInvariant.mono {w : Wrfiles} {db db' : Database Others}
    (h : LogInvariant ⟨a, w, db⟩) : LogInvariant ⟨a', w, db'⟩ := by
  obtain ⟨versions, shows, own, order, reading⟩ := h
  refine ⟨versions, shows.imp fun _ _ => Shows.mono signals ramps, own, order, ?_⟩
  obtain ⟨pc, buffers, lines⟩ := w
  cases pc with
  | readRampData =>
    obtain ⟨m, shown, bound⟩ := reading
    exact ⟨m, shown_mono signals shown, bound⟩
  | saveToSpec =>
    obtain ⟨v, shown, own', later⟩ := reading
    exact ⟨v, shown.mono signals ramps, own', later⟩
  | _ => trivial

end mono

theorem shows_bounds {a : Algo Others} {lines : List LogBuffers} {versions : List (ℕ × ℕ)}
    (h : List.Forall₂ (Shows a) lines versions) :
    ∀ v ∈ versions, v.1 < a.signalLog.length ∧ v.2 < a.rampLog.length := by
  induction h with
  | nil => simp
  | cons first _ ih =>
    intro v hv
    rcases List.mem_cons.mp hv with rfl | later
    · exact ⟨shown_lt first.1, shown_lt first.2⟩
    · exact ih v later

/-- The logger reads the signal data before the ramp data; the program publishes the ramp data
before the signal data. -/
theorem logInvariant_wrfiles (p : Platform) (t : Tuning) {db₀ : Database Others}
    {s : System Others} (algo : AlgoInvariant p t db₀ s.algo s.db) (h : LogInvariant s) :
    LogInvariant (systemStep p t s .wrfiles) := by
  obtain ⟨versions, shows, own, order, reading⟩ := h
  obtain ⟨a, ⟨pc, buffers, lines⟩, db⟩ := s
  have lengths := algo.lengths
  have bounds := shows_bounds shows
  dsimp only at lengths bounds
  cases pc with
  | readSignalData =>
    refine ⟨versions, shows, own, order, a.signalLog.length - 1, ?_, ?_⟩
    · exact List.getLast?_eq_getElem?.symm.trans algo.signalData
    · intro v hv
      have last := bounds v hv
      constructor
      · omega
      · omega
  | readRampData =>
    obtain ⟨m, shown, behind⟩ := reading
    have inside := shown_lt shown
    dsimp only at inside
    refine ⟨versions, shows, own, order, (m, a.rampLog.length - 1), ⟨shown, ?_⟩, ?_, ?_⟩
    · exact List.getLast?_eq_getElem?.symm.trans algo.rampData
    · change m ≤ a.rampLog.length - 1
      omega
    · intro v hv
      have last := bounds v hv
      have first := behind v hv
      refine ⟨first.1, ?_, first.2⟩
      change v.2 ≤ a.rampLog.length - 1
      omega
  | saveToSpec =>
    obtain ⟨w, shown, own', later⟩ := reading
    refine ⟨versions ++ [w], List.rel_append shows (.cons shown .nil), ?_, ?_, trivial⟩
    · intro v hv
      rcases List.mem_append.mp hv with old | new
      · exact own v old
      · rw [List.mem_singleton.mp new]
        exact own'
    · exact List.pairwise_append.mpr ⟨order, List.pairwise_singleton _ _, fun v hv x hx =>
        (List.mem_singleton.mp hx) ▸ later v hv⟩
  | _ => exact ⟨versions, shows, own, order, trivial⟩

section together

variable (p : Platform) (t : Tuning) (db₀ : Database Others)

def programInvariant : Program → System Others → Prop
  | .acRmAlgo, s => AlgoInvariant p t db₀ s.algo s.db
  | .wrfilesAcRm, s => LogInvariant s
  | .feed, _ => True

/-- What the others may rely on: nobody else writes the variables a program writes, and what
`ac_rm_algo` has published stays published. -/
def programGuarantee : Program → System Others → System Others → Prop
  | .acRmAlgo, s, s' =>
    s'.wrfiles = s.wrfiles ∧ s.algo.signalLog <+: s'.algo.signalLog ∧
      s.algo.rampLog <+: s'.algo.rampLog
  | .wrfilesAcRm, s, s' => s'.algo = s.algo ∧ s'.db = s.db
  | .feed, s, s' =>
    s'.algo = s.algo ∧ s'.wrfiles = s.wrfiles ∧ s'.db.dbRampData = s.db.dbRampData ∧
      s'.db.dbSignalData = s.db.dbSignalData ∧ s'.db.dbUrms = s.db.dbUrms

theorem algoStep_logs (x : Ambient) (a : Algo Others) (db : Database Others) :
    a.signalLog <+: (algoStep p t x a db).1.signalLog ∧
      a.rampLog <+: (algoStep p t x a db).1.rampLog := by
  obtain ⟨pc, daemon, input, signalFlag, rampFlag, phaseTiming, origin, passes, ramps, signals⟩ := a
  cases pc with
  | writeRampData => exact ⟨List.prefix_rfl, List.prefix_append _ _⟩
  | writeSignalData => exact ⟨List.prefix_append _ _, List.prefix_rfl⟩
  | setMaxGreen =>
    obtain ⟨clock, tmWday, fails⟩ := x
    cases fails <;> exact ⟨List.prefix_rfl, List.prefix_rfl⟩
  | _ => exact ⟨List.prefix_rfl, List.prefix_rfl⟩

theorem programs_relyGuarantee :
    RelyGuarantee (systemStep p t) Event.program (programInvariant p t db₀)
      (@programGuarantee Others) := by
  constructor
  · rintro s (x | - | x) now
    · exact algoInvariant_step p t x (now .acRmAlgo)
    · exact logInvariant_wrfiles p t (now .acRmAlgo) (now .wrfilesAcRm)
    · trivial
  · rintro s (x | - | x) -
    · exact ⟨rfl, algoStep_logs p t x s.algo s.db⟩
    · exact ⟨rfl, rfl⟩
    · cases x <;> exact ⟨rfl, rfl, rfl, rfl, rfl⟩
  · rintro i j other ⟨a, w, db⟩ ⟨a', w', db'⟩ now did
    cases i with
    | acRmAlgo =>
      cases j with
      | acRmAlgo => exact absurd rfl other
      | wrfilesAcRm =>
        obtain ⟨rfl, rfl⟩ := did
        exact now .acRmAlgo
      | feed =>
        obtain ⟨rfl, rfl, ramp, signal, urms⟩ := did
        have algo : AlgoInvariant p t db₀ a' db := now .acRmAlgo
        exact
          { algo with
            rampData := algo.rampData.trans (congrArg some ramp.symm)
            signalData := algo.signalData.trans (congrArg some signal.symm)
            dbUrms := urms.trans algo.dbUrms }
    | wrfilesAcRm =>
      cases j with
      | acRmAlgo =>
        obtain ⟨rfl, signals, ramps⟩ := did
        exact (now .wrfilesAcRm).mono signals ramps
      | wrfilesAcRm => exact absurd rfl other
      | feed =>
        obtain ⟨rfl, rfl, -⟩ := did
        exact (now .wrfilesAcRm).mono List.prefix_rfl List.prefix_rfl
    | feed => trivial

theorem programInvariant_boot (daemon : Daemon) (input : Input)
    (phaseTiming : PhaseTiming Others) (buffers : LogBuffers) (i : Program) :
    programInvariant p t db₀ i (boot db₀ daemon input phaseTiming buffers) := by
  cases i with
  | acRmAlgo => exact ⟨rfl, trivial, trivial, rfl, rfl, rfl, rfl, rfl⟩
  | wrfilesAcRm => exact ⟨[], .nil, by simp, .nil, trivial⟩
  | feed => trivial

theorem programInvariant_systemAt (daemon : Daemon) (input : Input)
    (phaseTiming : PhaseTiming Others) (buffers : LogBuffers) (events : ℕ → Event Others) (k : ℕ)
    (i : Program) :
    programInvariant p t db₀ i
      (systemAt p t (boot db₀ daemon input phaseTiming buffers) events k) :=
  (programs_relyGuarantee p t db₀).invariant_run
    (programInvariant_boot p t db₀ daemon input phaseTiming buffers) k i

def passInputs (a : Algo Others) (j : ℕ) : Input := a.passes.getD j a.input

theorem passed_eq (a : Algo Others) :
    passed p t a = daemonAt p t a.origin (passInputs a) a.passes.length := by
  have all := daemonAt_getD p t a.origin a.passes a.input a.passes.length le_rfl
  rw [List.take_length] at all
  exact all.symm

/-- The program in the system is the daemon that ticks. The invariant says where it stands at each
call, what it has published up to there and that only its last pass may exit; and every
completed pass is a tick taken on what the pass has read, from the state the ticks before it
have reached. -/
structure RunsTicks (s : System Others) : Prop extends AlgoInvariant p t db₀ s.algo s.db where
  reached : passed p t s.algo =
    daemonAt p t s.algo.origin (passInputs s.algo) s.algo.passes.length
  tick : ∀ j < s.algo.passes.length, ∃ o,
    outputAt p t s.algo.origin (passInputs s.algo) j = some o ∧
      (outputs p t s.algo.origin s.algo.passes)[j]? = some o ∧
      s.algo.rampLog[j + 1]? = some o.dbRampData ∧ s.algo.signalLog[j + 1]? = some o.dbSignalData

theorem AlgoInvariant.live {a : Algo Others} {db : Database Others} (h : AlgoInvariant p t db₀ a db)
    {j : ℕ} (hj : j < a.passes.length) : Run.Live (next p t) exits a.origin (passInputs a) j := by
  obtain ⟨pc, daemon, input, signalFlag, rampFlag, phaseTiming, origin, passes, ramps, signals⟩ := a
  have last := h.exitsLast
  cases pc with
  | exited =>
    obtain ⟨is, i, all, stays, -⟩ := last
    change passes = is ++ [i] at all
    subst all
    refine (stays.live p t [i] input).of_le ?_
    simpa [Nat.lt_succ_iff] using hj
  | _ =>
    have live := Stays.live p t last [] input
    rw [List.append_nil] at live
    exact live.of_le hj.le

theorem runsTicks_of_invariant {s : System Others} (h : AlgoInvariant p t db₀ s.algo s.db) :
    RunsTicks p t db₀ s := by
  refine { h with reached := passed_eq p t s.algo, tick := fun j hj => ?_ }
  have out := outputs_getElem? p t s.algo.origin s.algo.passes s.algo.input j hj
  refine ⟨_, outputAt_eq_some.mpr ⟨h.live p t db₀ hj, rfl⟩, out, ?_, ?_⟩
  · rw [h.rampLog, List.cons_append, List.getElem?_cons_succ]
    refine List.getElem?_append_left (by simpa [outputs_length] using hj) |>.trans ?_
    rw [List.getElem?_map, out]
    rfl
  · rw [h.signalLog, List.cons_append, List.getElem?_cons_succ]
    refine List.getElem?_append_left (by simpa [outputs_length] using hj) |>.trans ?_
    rw [List.getElem?_map, out]
    rfl

/-- Every line shows the signal data of one pass and the ramp data of the same or a later one;
from line to line neither goes back, and the signal data falls at most one pass behind the ramp
data that was shown before. -/
theorem log_lines_ordered (daemon : Daemon) (input : Input) (phaseTiming : PhaseTiming Others)
    (buffers : LogBuffers) (events : ℕ → Event Others) (k : ℕ) :
    let s := systemAt p t (boot db₀ daemon input phaseTiming buffers) events k
    ∃ versions, List.Forall₂ (Shows s.algo) s.wrfiles.lines versions ∧
      (∀ v ∈ versions, v.1 ≤ v.2) ∧ versions.Pairwise Later := by
  obtain ⟨versions, shows, own, order, -⟩ :=
    programInvariant_systemAt p t db₀ daemon input phaseTiming buffers events k .wrfilesAcRm
  exact ⟨versions, shows, own, order⟩

end together

end RampMetering
