import RampMetering.DaemonRun
import RampMetering.Lib.Interleave

/-! The database and the programs that share it: `ac_rm_algo`, the logger `wrfiles_ac_rm`, and
the feeds that write what the controllers report. `db_clt_read` and `db_clt_write` move one
variable as a whole; between two of them any other program may run. So the main loop is cut at
its calls, and the computations between two calls belong to the later one. -/

namespace RampMetering

structure PhaseTiming (Others : Type) where
  maxGreen1 : ℤ
  others : Others

structure Database (Others : Type) where
  status : LongStatus8
  phaseStatus : PhaseStatus
  urmsDatafile : UrmsDatafile
  dbUrmsStatus : DbUrmsStatus
  phase3Timing : PhaseTiming Others
  phase7Timing : PhaseTiming Others
  dbRampData : DbRampData
  dbSignalData : DbSignalData
  dbUrms : DbUrms

/-- The call of the main program that comes next; at `control` it may also make none. -/
inductive AlgoPc
  | startTiming
  | startPhase7Timing
  | startUrmsStatus
  | readStatus
  | readShortStatus
  | readPhaseStatus
  | readUrmsDatafile
  | readUrmsStatus
  | writeRampData
  | writeSignalData
  | readTiming
  | setMaxGreen
  | writeTiming
  | control
  | exited
  deriving DecidableEq

/-- The program between two calls. `input` is what the pass has read so far, over what the
passes before it left there. `origin`, `passes` and the two lists of publications are history:
no step reads them. -/
structure Algo (Others : Type) where
  pc : AlgoPc
  daemon : Daemon
  input : Input
  signalFlag : Bool
  rampFlag : Bool
  phaseTiming : PhaseTiming Others
  origin : Daemon
  passes : List Input
  rampLog : List DbRampData
  signalLog : List DbSignalData

structure Ambient where
  clock : Clock
  tmWday : ℕ
  setMaxGreenFails : Bool

variable {Others : Type}

/-- `set_globals`, the two flags, and `test()` up to its first `db_clt_write`. -/
def rampPart (σ : Daemon) (i : Input) : Daemon :=
  let records := i.records
  let globals :=
    setGlobals σ.globals records.phaseStatus records.status records.dbUrmsStatus
      records.urmsDatafile
  let signalFlag := detectEdge records.phaseStatus.barrierFlag σ.signalFlagSav
  let rampFlag := detectEdge records.dbUrmsStatus.computationFinished σ.rampFlagSav
  { σ with
    globals
    ramp := (testRamp globals i.clock rampFlag.1 σ.ramp).1
    signalFlagSav := signalFlag.2
    rampFlagSav := rampFlag.2 }

def signalPart (p : Platform) (t : Tuning) (signalFlag : Bool) (σ : Daemon) (i : Input) : Daemon :=
  { σ with
    signal :=
      (testSignal t i.clock signalFlag σ.ramp
        (readRealTimeData p.overrun σ.globals σ.signal)).1 }

def algoStep (p : Platform) (t : Tuning) (x : Ambient) (a : Algo Others) (db : Database Others) :
    Algo Others × Database Others :=
  match a.pc with
  | .startTiming =>
    ({ a with
        phaseTiming := db.phase3Timing
        daemon.signal.newMaxGreen := db.phase3Timing.maxGreen1
        pc := .startPhase7Timing },
      db)
  -- read into the same variable, and printed only
  | .startPhase7Timing => ({ a with phaseTiming := db.phase7Timing, pc := .startUrmsStatus }, db)
  | .startUrmsStatus =>
    let daemon := start a.daemon.signal.newMaxGreen db.dbUrmsStatus
    ({ a with daemon, origin := daemon, pc := .readStatus }, db)
  | .readStatus =>
    ({ a with input.records.status := db.status, pc := .readShortStatus }, db)
  -- nothing looks at the short status
  | .readShortStatus => ({ a with pc := .readPhaseStatus }, db)
  | .readPhaseStatus =>
    ({ a with input.records.phaseStatus := db.phaseStatus, pc := .readUrmsDatafile }, db)
  | .readUrmsDatafile =>
    ({ a with input.records.urmsDatafile := db.urmsDatafile, pc := .readUrmsStatus }, db)
  | .readUrmsStatus =>
    ({ a with input.records.dbUrmsStatus := db.dbUrmsStatus, pc := .writeRampData }, db)
  | .writeRampData =>
    let input :=
      { a.input with
        clock.alineaFirst := x.clock.alineaFirst, clock.alineaSecond := x.clock.alineaSecond }
    let daemon := rampPart a.daemon input
    let dbRampData := publishRamp daemon.ramp
    ({ a with
        daemon
        input
        signalFlag := signalEdge a.daemon input
        rampFlag := rampEdge a.daemon input
        rampLog := a.rampLog ++ [dbRampData]
        pc := .writeSignalData },
      { db with dbRampData })
  | .writeSignalData =>
    let input :=
      { a.input with
        clock.barrier := x.clock.barrier
        clock.queueReset := x.clock.queueReset
        clock.queueResetStamp := x.clock.queueResetStamp }
    let daemon := signalPart p t a.signalFlag a.daemon input
    let dbSignalData := publishSignal daemon.signal
    ({ a with
        daemon
        input
        signalLog := a.signalLog ++ [dbSignalData]
        pc := if a.signalFlag then .readTiming else .control },
      { db with dbSignalData })
  | .readTiming => ({ a with phaseTiming := db.phase3Timing, pc := .setMaxGreen }, db)
  | .setMaxGreen =>
    let input := { a.input with setMaxGreenFails := x.setMaxGreenFails }
    if x.setMaxGreenFails then
      ({ a with input, passes := a.passes ++ [input], pc := .exited }, db)
    else ({ a with input, pc := .writeTiming }, db)
  | .writeTiming =>
    ({ a with pc := .control },
      { db with phase3Timing := { a.phaseTiming with maxGreen1 := a.daemon.signal.newMaxGreen } })
  | .control =>
    let input := { a.input with tmWday := x.tmWday }
    let control :=
      controlMeter p input a.rampFlag a.daemon.ramp.newMeterRate a.daemon.myflag a.daemon.dbUrms
    ({ a with
        daemon.myflag := control.1
        daemon.dbUrms := control.2.1
        input
        passes := a.passes ++ [input]
        pc := .readStatus },
      { db with dbUrms := control.2.2.getD db.dbUrms })
  | .exited => (a, db)

/-- The variable of `db_vars_ac_rm` that comes next, and the line when all are read. -/
inductive WrfilesPc
  | readShortStatus
  | readStatus
  | readUrmsStatus
  | readUrmsDatafile
  | readPhaseStatus
  | readSignalData
  | readRampData
  | saveToSpec
  deriving DecidableEq

structure LogBuffers where
  records : Records
  dbSignalData : DbSignalData
  dbRampData : DbRampData

structure Wrfiles where
  pc : WrfilesPc
  buffers : LogBuffers
  lines : List LogBuffers

def wrfilesStep (w : Wrfiles) (db : Database Others) : Wrfiles :=
  match w.pc with
  -- no column shows the short status
  | .readShortStatus => { w with pc := .readStatus }
  | .readStatus => { w with buffers.records.status := db.status, pc := .readUrmsStatus }
  | .readUrmsStatus =>
    { w with buffers.records.dbUrmsStatus := db.dbUrmsStatus, pc := .readUrmsDatafile }
  | .readUrmsDatafile =>
    { w with buffers.records.urmsDatafile := db.urmsDatafile, pc := .readPhaseStatus }
  | .readPhaseStatus =>
    { w with buffers.records.phaseStatus := db.phaseStatus, pc := .readSignalData }
  | .readSignalData => { w with buffers.dbSignalData := db.dbSignalData, pc := .readRampData }
  | .readRampData => { w with buffers.dbRampData := db.dbRampData, pc := .saveToSpec }
  | .saveToSpec => { w with lines := w.lines ++ [w.buffers], pc := .readShortStatus }

inductive Feed (Others : Type)
  | status (x : LongStatus8)
  | phaseStatus (x : PhaseStatus)
  | urmsDatafile (x : UrmsDatafile)
  | dbUrmsStatus (x : DbUrmsStatus)
  | phase3Timing (x : PhaseTiming Others)
  | phase7Timing (x : PhaseTiming Others)

def feedStep (db : Database Others) : Feed Others → Database Others
  | .status x => { db with status := x }
  | .phaseStatus x => { db with phaseStatus := x }
  | .urmsDatafile x => { db with urmsDatafile := x }
  | .dbUrmsStatus x => { db with dbUrmsStatus := x }
  | .phase3Timing x => { db with phase3Timing := x }
  | .phase7Timing x => { db with phase7Timing := x }

inductive Program
  | acRmAlgo
  | wrfilesAcRm
  | feed
  deriving DecidableEq

inductive Event (Others : Type)
  | algo (x : Ambient)
  | wrfiles
  | feed (x : Feed Others)

def Event.program : Event Others → Program
  | .algo _ => .acRmAlgo
  | .wrfiles => .wrfilesAcRm
  | .feed _ => .feed

structure System (Others : Type) where
  algo : Algo Others
  wrfiles : Wrfiles
  db : Database Others

def systemStep (p : Platform) (t : Tuning) (s : System Others) : Event Others → System Others
  | .algo x =>
    { s with algo := (algoStep p t x s.algo s.db).1, db := (algoStep p t x s.algo s.db).2 }
  | .wrfiles => { s with wrfiles := wrfilesStep s.wrfiles s.db }
  | .feed x => { s with db := feedStep s.db x }

/-- All programs at their beginning; what their variables hold there is never read. -/
def boot (db : Database Others) (daemon : Daemon) (input : Input) (phaseTiming : PhaseTiming Others)
    (buffers : LogBuffers) : System Others where
  algo :=
    { pc := .startTiming
      daemon
      input
      signalFlag := false
      rampFlag := false
      phaseTiming
      origin := daemon
      passes := []
      rampLog := [db.dbRampData]
      signalLog := [db.dbSignalData] }
  wrfiles := { pc := .readShortStatus, buffers, lines := [] }
  db

def systemAt (p : Platform) (t : Tuning) (s : System Others) (events : ℕ → Event Others) (k : ℕ) :
    System Others :=
  Run.run (systemStep p t) s events k

def atBarrierDatabase : Database Unit where
  status := zeroRecords.status
  phaseStatus := { zeroRecords.phaseStatus with barrierFlag := 1 }
  urmsDatafile := zeroRecords.urmsDatafile
  dbUrmsStatus := zeroRecords.dbUrmsStatus
  phase3Timing := ⟨25, ()⟩
  phase7Timing := ⟨30, ()⟩
  dbRampData := publishRamp staticRamp
  dbSignalData := publishSignal staticSignal
  dbUrms := {}

end RampMetering
